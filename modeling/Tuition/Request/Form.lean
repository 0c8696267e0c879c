/-
# Forms

A form is a list of named entries; names that it does not ask for are ignored. An optional
field may be left out or hold nothing. The forms of a payment, of cash received at the desk and
of a price override arrive as requests; the commands that the use cases take are checked by the
same rules for each field.
-/

import Tuition.Billing.Overriding
import Tuition.Payments.Recording
import Tuition.Request.Checked
import Tuition.Request.Entry

namespace Tuition.Request

/-- The entries of a form, by name. -/
abbrev Entries := List (String × Entry)

/-- Take what a field makes of an entry into the check of a form. -/
def checkEntry {α : Type} (name : String) (field : Field α) (entry : Entry) : Checked α :=
  match field entry with
  | .ok value => .accepted value
  | .error (.problem problem) => .refused [⟨[name], problem⟩]
  | .error (.fault fault) => .broken fault

/-- Check a field that must be there. -/
def required {α : Type} (name : String) (field : Field α) (entries : Entries) : Checked α :=
  match entries.lookup name with
  | some entry => checkEntry name field entry
  | none => .refused [⟨[name], .missing⟩]

/-- Check a field that may be left out or hold nothing. -/
def optional {α : Type} (name : String) (field : Field α) (entries : Entries) :
    Checked (Option α) :=
  match entries.lookup name with
  | none => .accepted none
  | some (.json .null) => .accepted none
  | some entry => some <$> checkEntry name field entry

/-- Check a field that has a value when it is left out. -/
def withDefault {α : Type} (name : String) (value : α) (field : Field α) (entries : Entries) :
    Checked α :=
  match entries.lookup name with
  | none => .accepted value
  | some entry => checkEntry name field entry

/-- The entries of a JSON object. -/
def entriesOf (members : List (String × Json)) : Entries :=
  members.map fun member => (member.1, .json member.2)

/-- Check a form that arrives as a JSON value; one that is no object is refused as a whole. -/
def onObject {α : Type} (form : String) (check : Entries → Checked α) : Json → Checked α
  | .obj members => check (entriesOf members)
  | _ => .refused [⟨[], .notForm form⟩]

/-! ## Payments -/

/-- A payment as it is asked for. -/
structure PaymentForm where
  studentId : Int
  invoiceId : Option Int
  amount : Decimal
  method : PaymentMethod
  paidAt : Stamp
  note : String
  deriving DecidableEq, Repr

/-- Check the fields of a payment that is asked for. -/
def payment (entries : Entries) : Checked PaymentForm :=
  PaymentForm.mk <$> required "student_id" key entries
    <*> optional "invoice_id" key entries
    <*> required "amount" amount entries
    <*> required "method" paymentMethod entries
    <*> required "paid_at" paidAt entries
    <*> withDefault "note" "" note entries

/-- Check the fields of a payment that is to be recorded. -/
def paymentCommand (entries : Entries) : Checked Payments.PaymentCommand :=
  Payments.PaymentCommand.mk <$> required "student_id" key entries
    <*> optional "invoice_id" key entries
    <*> required "amount" amount entries
    <*> required "method" paymentMethod entries
    <*> required "paid_at" paidAt entries
    <*> withDefault "note" "" note entries

/-- The entries that a payment is recorded with that was asked for. -/
def paymentEntries (form : PaymentForm) : Entries :=
  [("student_id", .json (.int form.studentId)),
   ("invoice_id", .json (Json.ofInt? form.invoiceId)),
   ("amount", .decimal form.amount),
   ("method", .json (.str form.method.text)),
   ("paid_at", .stamp form.paidAt),
   ("note", .json (.str form.note))]

/-- Cash received at the desk. -/
structure QuickCash where
  studentId : Int
  amount : Decimal
  note : String
  deriving DecidableEq, Repr

/-- Check the fields of cash received at the desk. -/
def quickCash (entries : Entries) : Checked QuickCash :=
  QuickCash.mk <$> required "student_id" key entries
    <*> required "amount" amount entries
    <*> withDefault "note" "" note entries

/-! ## Price overrides -/

/-- A price override as it is asked for, for an enrollment that is named elsewhere. -/
structure OverrideForm where
  validFrom : Date
  validTo : Option Date
  lessonPrice : Option Decimal
  subscriptionPrice : Option Decimal
  deriving DecidableEq, Repr

/-- Check the fields of a price override. -/
def overrideForm (entries : Entries) : Checked OverrideForm :=
  OverrideForm.mk <$> required "valid_from" date entries
    <*> optional "valid_to" date entries
    <*> optional "lesson_price" price entries
    <*> optional "subscription_price" price entries

/-- The days and prices of an override for an enrollment. -/
def OverrideForm.command (enrollmentId : Int) (form : OverrideForm) : Billing.OverrideCommand :=
  ⟨enrollmentId, ⟨form.validFrom, form.validTo⟩, form.lessonPrice, form.subscriptionPrice⟩

/-- Check the fields of a price override for an enrollment: its window has a day, and it gives a
price. -/
def overrideCommand (entries : Entries) : Checked Billing.OverrideCommand :=
  (((OverrideForm.command <$> required "enrollment_id" key entries
      <*> overrideForm entries).requiring
      (fun command => command.window.stop.all fun last => command.window.start ≤ last)
      "valid_to must not be before valid_from").requiring
    (fun command => command.lessonPrice.isSome || command.subscriptionPrice.isSome)
    "at least one of lesson_price or subscription_price is required")

/-- An optional date as an entry. -/
def dateEntry : Option Date → Entry
  | none => .json .null
  | some value => .date value

/-- An optional decimal as an entry. -/
def decimalEntry : Option Decimal → Entry
  | none => .json .null
  | some value => .decimal value

/-- The entries of an override that is at hand. -/
def overrideEntries (enrollmentId : Int) (form : OverrideForm) : Entries :=
  [("enrollment_id", .json (.int enrollmentId)),
   ("valid_from", .date form.validFrom),
   ("valid_to", dateEntry form.validTo),
   ("lesson_price", decimalEntry form.lessonPrice),
   ("subscription_price", decimalEntry form.subscriptionPrice)]

/-! ## Reports -/

/-- Check the fields of a report. -/
def report (entries : Entries) : Checked Report :=
  Report.mk <$> required "code" text entries
    <*> required "message" text entries
    <*> optional "reason" text entries

end Tuition.Request
