/-
# Payments that are checked twice

A payment that arrives over HTTP is checked when it is asked for and again when the command is
made of it; cash is checked as cash and again as a payment of today. Both checks read the same
fields in the same way, and a field takes again what it made of an entry: an amount in cents stays
as it is, a day is read from its own text, and a default passes its own check. So whatever the
first check accepted, the second accepts with the same values.
-/

import Tuition.Proofs.DateTexts
import Tuition.Proofs.UnfitAmounts

namespace Tuition

namespace Request

/-- The value that a check ended with. -/
def Checked.value? {α : Type} : Checked α → Option α
  | .accepted value => some value
  | _ => none

theorem Checked.value?_eq_some_iff {α : Type} {checked : Checked α} {value : α} :
    checked.value? = some value ↔ checked = .accepted value := by
  cases checked <;> simp [value?]

/-! ## Fields -/

variable {α : Type} {field : Field α} {asEntry : α → Entry} {value : α}

/-- A field makes a value of some entry. -/
def Field.Gives (field : Field α) (value : α) : Prop :=
  ∃ entry, field entry = .ok value

/-- A field takes each value that it gives as an entry, and leaves it as it is. -/
def Field.Retakes (field : Field α) (asEntry : α → Entry) : Prop :=
  ∀ value, field.Gives value → field (asEntry value) = .ok value

theorem retakes_key : Field.Retakes key fun n => .json (.int n) := by
  rintro n ⟨entry, taken⟩
  obtain ⟨given, -, kept⟩ := bind_eq_ok_iff.mp taken
  have above : 0 < n := by
    split at kept
    · next above =>
        cases kept
        exact above
    · cases kept
  exact bind_eq_ok_iff.mpr ⟨n, rfl, if_pos above⟩

theorem retakes_paymentMethod :
    Field.Retakes paymentMethod fun method => .json (.str method.text) := by
  rintro method -
  cases method <;> rfl

theorem retakes_paidAt : Field.Retakes paidAt .stamp :=
  fun _ _ => rfl

theorem retakes_note : Field.Retakes note fun text => .json (.str text) := by
  rintro written ⟨entry, taken⟩
  obtain ⟨given, read, kept⟩ := bind_eq_ok_iff.mp taken
  have short : ¬noteLimit < Text.size written ∧ given = written := by
    split at kept
    · cases kept
    · next short =>
        cases kept
        exact ⟨short, rfl⟩
  obtain ⟨short, rfl⟩ := short
  have paired : Text.hasUnpaired given = false := by
    unfold text at read
    split at read
    · split at read
      · cases read
      · next paired =>
          cases read
          simpa using paired
    · cases read
  have again : text (.json (.str given)) = .ok given := by simp [text, paired]
  exact bind_eq_ok_iff.mpr ⟨given, again, if_neg short⟩

/-- The note that stands for none passes the check of a note. -/
theorem gives_note_empty : Field.Gives note "" :=
  ⟨.json (.str ""), rfl⟩

/-- A field of an amount gives the nearest number of cents, which is at least one. -/
theorem amount_eq_ok {entry : Entry} {rounded : Decimal} (taken : amount entry = .ok rounded) :
    ∃ given, decimal entry = .ok given ∧
      rounded = .finite false (Decimal.nearestCents given.value) (-2) ∧
      1 ≤ Decimal.nearestCents given.value ∧
      Decimal.nearestCents given.value < 10 ^ Decimal.precision := by
  rcases decimal_cases entry with ⟨given, read, finite⟩ | ⟨problem, unread⟩
  · have takes := takes_amount read finite
    rw [taken] at takes
    cases takes with
    | taken least most =>
        refine ⟨given, read, rfl, Decimal.nearestCents_pos_iff.mpr least, ?_⟩
        exact not_le.mp (mt Decimal.le_nearestCents_iff.mp (not_le.mpr most))
  · rw [amount, unread] at taken
    cases taken

/-- A number of cents is the nearest one to itself. -/
theorem nearestCents_cents (cents : Nat) :
    Decimal.nearestCents (Decimal.magnitude cents (-2)) = cents := by
  have hundredth : 100 * Decimal.magnitude cents (-2) = cents := by
    rw [Decimal.hundred_mul_magnitude]
    norm_num
  rw [Decimal.nearestCents, hundredth, Nat.floor_eq_iff (by positivity)]
  constructor <;> linarith

/-- Rounding to cents twice is rounding once, and what is left is still an amount. -/
theorem retakes_amount : Field.Retakes amount .decimal := by
  rintro rounded ⟨entry, taken⟩
  obtain ⟨given, -, rfl, some, fits⟩ := amount_eq_ok taken
  generalize Decimal.nearestCents given.value = cents at some fits
  have positive : (Decimal.finite false cents (-2)).order (.ofInt 0) = .gt :=
    Decimal.order_ofInt_zero_eq_gt_iff.mpr ⟨Nat.one_le_iff_ne_zero.mp some, rfl⟩
  have checked : amount (.decimal (.finite false cents (-2))) =
      roundAmount (.finite false cents (-2)) :=
    if_pos positive
  rw [checked, roundAmount_finite, nearestCents_cents]
  dsimp only
  rw [if_neg (not_le.mpr fits), if_pos (Nat.pos_of_ne_zero (Nat.one_le_iff_ne_zero.mp some))]

/-! ## Forms -/

variable {name : String} {entries : Entries}

theorem checkEntry_eq_accepted_iff {entry : Entry} :
    checkEntry name field entry = .accepted value ↔ field entry = .ok value := by
  unfold checkEntry
  split <;> simp [*]

theorem required_eq_accepted_iff :
    required name field entries = .accepted value ↔
      entries.Has name fun entry => field entry = .ok value := by
  unfold required Entries.Has
  cases entries.lookup name with
  | none => simp
  | some entry => simp [checkEntry_eq_accepted_iff]

theorem Entries.Has.gives (has : entries.Has name fun entry => field entry = .ok value) :
    field.Gives value := by
  obtain ⟨entry, -, taken⟩ := has
  exact ⟨entry, taken⟩

theorem gives_of_optional (accepted : optional name field entries = .accepted (some value)) :
    field.Gives value := by
  unfold optional at accepted
  split at accepted
  · cases accepted
  · cases accepted
  · next entry _ _ =>
      obtain ⟨_, checked, same⟩ := Checked.map_eq_accepted_iff.mp accepted
      cases same
      exact ⟨entry, checkEntry_eq_accepted_iff.mp checked⟩

theorem gives_of_withDefault {default : α} (passes : field.Gives default)
    (accepted : withDefault name default field entries = .accepted value) :
    field.Gives value := by
  unfold withDefault at accepted
  split at accepted
  · cases accepted
    exact passes
  · next entry _ => exact ⟨entry, checkEntry_eq_accepted_iff.mp accepted⟩

/-- The amount of a form is the one that was entered, in cents. -/
def Entries.RoundsTo (entries : Entries) (amount : Decimal) : Prop :=
  entries.Has "amount" fun entry => ∃ given, decimal entry = .ok given ∧
    amount = .finite false (Decimal.nearestCents given.value) (-2) ∧
    1 ≤ Decimal.nearestCents given.value

theorem Entries.Has.roundsTo {rounded : Decimal}
    (has : entries.Has "amount" fun entry => amount entry = .ok rounded) :
    entries.RoundsTo rounded := by
  obtain ⟨entry, found, taken⟩ := has
  obtain ⟨given, read, shape, some, -⟩ := amount_eq_ok taken
  exact ⟨entry, found, given, read, shape, some⟩

/-! ## Payments -/

/-- Each value of a form of a payment is one that its field gives. -/
structure PaymentForm.Passes (form : PaymentForm) : Prop where
  studentId : Field.Gives key form.studentId
  invoiceId : ∀ id, form.invoiceId = some id → Field.Gives key id
  amount : Field.Gives Request.amount form.amount
  method : Field.Gives paymentMethod form.method
  paidAt : Field.Gives Request.paidAt form.paidAt
  note : Field.Gives Request.note form.note

theorem payment_accepted {form : PaymentForm} (accepted : payment entries = .accepted form) :
    form.Passes ∧ entries.RoundsTo form.amount := by
  obtain ⟨_, note, noteLeft, noted, rfl⟩ := Payments.accepted_of_seq accepted
  obtain ⟨_, paidAt, paidAtLeft, timed, rfl⟩ := Payments.accepted_of_seq noteLeft
  obtain ⟨_, method, methodLeft, paid, rfl⟩ := Payments.accepted_of_seq paidAtLeft
  obtain ⟨_, amount, amountLeft, valued, rfl⟩ := Payments.accepted_of_seq methodLeft
  obtain ⟨_, invoiceId, studentLeft, linked, rfl⟩ := Payments.accepted_of_seq amountLeft
  obtain ⟨studentId, owned, rfl⟩ := Checked.map_eq_accepted_iff.mp studentLeft
  have amountHas := required_eq_accepted_iff.mp valued
  refine ⟨?_, amountHas.roundsTo⟩
  exact {
    studentId := (required_eq_accepted_iff.mp owned).gives
    invoiceId := fun id same => gives_of_optional (linked.trans (congrArg _ same))
    amount := amountHas.gives
    method := (required_eq_accepted_iff.mp paid).gives
    paidAt := (required_eq_accepted_iff.mp timed).gives
    note := gives_of_withDefault gives_note_empty noted }

/-- The check of the command accepts entries whose fields it takes. -/
theorem paymentCommand_accepted {form : PaymentForm}
    (student : required "student_id" key entries = .accepted form.studentId)
    (invoice : optional "invoice_id" key entries = .accepted form.invoiceId)
    (cents : required "amount" amount entries = .accepted form.amount)
    (method : required "method" paymentMethod entries = .accepted form.method)
    (time : required "paid_at" paidAt entries = .accepted form.paidAt)
    (noted : withDefault "note" "" note entries = .accepted form.note) :
    paymentCommand entries = .accepted form.command := by
  rw [paymentCommand, student, invoice, cents, method, time, noted]
  rfl

/-- The check of the command accepts the values of a form as they are. -/
theorem PaymentForm.Passes.command_accepted {form : PaymentForm} (passes : form.Passes) :
    paymentCommand (paymentEntries form) = .accepted form.command := by
  have invoice : optional "invoice_id" key (paymentEntries form) = .accepted form.invoiceId := by
    have found : (paymentEntries form).lookup "invoice_id" =
        some (.json (Json.ofInt? form.invoiceId)) :=
      rfl
    rw [optional, found]
    cases linked : form.invoiceId with
    | none => rfl
    | some id =>
        have again := retakes_key id (passes.invoiceId id linked)
        exact Checked.map_eq_accepted_iff.mpr ⟨id, checkEntry_eq_accepted_iff.mpr again, rfl⟩
  apply paymentCommand_accepted
  · exact required_eq_accepted_iff.mpr ⟨_, rfl, retakes_key _ passes.studentId⟩
  · exact invoice
  · exact required_eq_accepted_iff.mpr ⟨_, rfl, retakes_amount _ passes.amount⟩
  · exact required_eq_accepted_iff.mpr ⟨_, rfl, retakes_paymentMethod _ passes.method⟩
  · exact required_eq_accepted_iff.mpr ⟨_, rfl, retakes_paidAt _ passes.paidAt⟩
  · exact checkEntry_eq_accepted_iff.mpr (retakes_note _ passes.note)

/-! ## Cash -/

/-- Cash at the desk as a payment of a day. -/
def QuickCash.paymentOn (cash : QuickCash) (today : Date) : PaymentForm :=
  ⟨cash.studentId, none, cash.amount, .cash, ⟨.atMidnight today, none⟩, cash.note⟩

/-- A day is read from its own text. -/
theorem paidAt_text (date : Date) :
    paidAt (.json (.str date.text)) = .ok ⟨.atMidnight date, none⟩ := by
  have read : (Entry.json (.str date.text)).asPaidAt = .ok (.stamp ⟨.atMidnight date, none⟩) := by
    rw [Entry.asPaidAt, Payments.readPaidAt_text]
    rfl
  simp only [paidAt, read]

/-- The entries that cash is recorded with are taken as they are. -/
theorem cash_accepted {cash : QuickCash} (accepted : quickCash entries = .accepted cash)
    (today : Date) :
    paymentCommand (Payments.cashEntries today (.json (.int cash.studentId))
        (.decimal cash.amount) (.json (.str cash.note))) =
        .accepted (cash.paymentOn today).command ∧
      entries.RoundsTo cash.amount := by
  obtain ⟨_, note, noteLeft, noted, rfl⟩ := Payments.accepted_of_seq accepted
  obtain ⟨_, amount, studentLeft, valued, rfl⟩ := Payments.accepted_of_seq noteLeft
  obtain ⟨studentId, owned, rfl⟩ := Checked.map_eq_accepted_iff.mp studentLeft
  have studentGiven := (required_eq_accepted_iff.mp owned).gives
  have amountHas := required_eq_accepted_iff.mp valued
  have noteGiven := gives_of_withDefault gives_note_empty noted
  refine ⟨?_, amountHas.roundsTo⟩
  apply paymentCommand_accepted
  · exact required_eq_accepted_iff.mpr ⟨_, rfl, retakes_key _ studentGiven⟩
  · rfl
  · exact required_eq_accepted_iff.mpr ⟨_, rfl, retakes_amount _ amountHas.gives⟩
  · exact required_eq_accepted_iff.mpr
      ⟨_, rfl, retakes_paymentMethod _ ⟨.json (.str "cash"), rfl⟩⟩
  · exact required_eq_accepted_iff.mpr ⟨_, rfl, paidAt_text today⟩
  · exact checkEntry_eq_accepted_iff.mpr (retakes_note _ noteGiven)

end Request

open Tx

/-! ## Recording -/

namespace Payments

variable {world : World}

/-- An answer that does not refuse its request as unfit. -/
def NotUnfit {α : Type} (result : Except Refusal α) : Prop :=
  ∀ refusal, result = .error refusal → refusal.report.code ≠ "VALIDATION_ERROR"

theorem notUnfit_ok {α : Type} (value : α) : NotUnfit (.ok value) := by
  intro refusal refused
  cases refused

theorem notUnfit_error {α : Type} {refusal : Refusal}
    (other : refusal.report.code ≠ "VALIDATION_ERROR") :
    NotUnfit (.error refusal : Except Refusal α) := by
  rintro _ ⟨rfl⟩
  exact other

theorem ends_refused {α : Type} {refusal : Refusal} {bad : Fault → World → Prop}
    (other : refusal.report.code ≠ "VALIDATION_ERROR") :
    (do
      rollback
      return .error refusal :
      Tx (Except Refusal α)).Ends world (fun result _ => NotUnfit result) bad := by
  apply ends_bind
  apply ends_rollback
  exact ends_pure (notUnfit_error other)

/-- The invoice of a payment is refused under codes of its own. -/
theorem ends_invoiceToSettle_codes (command : PaymentCommand) (student : Student) :
    (invoiceToSettle command student).Ends world (fun result _ => NotUnfit result)
      fun _ _ => True := by
  unfold invoiceToSettle
  split
  · exact ends_pure (notUnfit_ok _)
  refine ends_bind_any ?_ fun _ _ => trivial
  rintro (_ | invoice) found
  · exact ends_pure (notUnfit_error (by simp [Refusal.report, Refusal.missing]))
  dsimp only
  split
  · exact ends_pure (notUnfit_error (by simp [Refusal.report]))
  split
  · exact ends_pure (notUnfit_error (by simp [Refusal.report]))
  · exact ends_pure (notUnfit_ok _)

/-- Recording a payment refuses under codes of its own, whatever breaks off. -/
theorem ends_recordPayment_codes (command : PaymentCommand) :
    (recordPayment command).Ends world (fun result _ => NotUnfit result) fun _ _ => True := by
  have struck (fault : Fault) (after : World) :
      (do
        rollback
        return .error (.recordingFailed fault) : Tx (Except Refusal Receipt)).Ends after
        (fun result _ => NotUnfit result) fun _ _ => True :=
    ends_refused (by simp [Refusal.report, Refusal.failed])
  apply ends_recover
  refine ends_bind_any ?_ struck
  rintro (_ | student) found
  · exact ends_refused (by simp [Refusal.report, Refusal.missing])
  dsimp only
  apply ends_bind
  refine (ends_invoiceToSettle_codes command student).mono ?_ fun fault after _ =>
    struck fault after
  rintro (refusal | invoice) after fits
  · exact ends_refused (fits refusal rfl)
  · exact ends_bind_any (fun _ _ => ends_pure (notUnfit_ok _)) struck

end Payments

/-! ## Both checks -/

/-- What becomes of a body whose payment was accepted: the command is made of its values as they
are, and it is recorded. -/
structure Http.RecordsPayment (members : List (String × Json)) (form : Request.PaymentForm) :
    Prop where
  again : Request.paymentCommand (Request.paymentEntries form) = .accepted form.command
  rounded : (Request.entriesOf members).RoundsTo form.amount
  route : recordPayment (some (.obj members)) =
    outcome 201 Payments.Receipt.toJson <$> Payments.recordPayment form.command

/-- What becomes of a body whose cash was accepted: it is recorded as a payment of today, and if
that is refused, it is not for being unfit. -/
structure Http.RecordsCash (members : List (String × Json)) (cash : Request.QuickCash)
    (world : World) : Prop where
  rounded : (Request.entriesOf members).RoundsTo cash.amount
  route : quickCash (some (.obj members)) =
    outcome 201 Payments.Receipt.toJson <$>
      Payments.quickCash (.json (.int cash.studentId)) (.decimal cash.amount)
        (.json (.str cash.note))
  recorded : (Payments.quickCash (.json (.int cash.studentId)) (.decimal cash.amount)
      (.json (.str cash.note))).perform world =
    (Payments.recordPayment (cash.paymentOn world.now.date).command).perform world
  fit : (Payments.quickCash (.json (.int cash.studentId)) (.decimal cash.amount)
      (.json (.str cash.note))).Ends world (fun result _ => Payments.NotUnfit result)
        fun _ _ => True

namespace Http

variable {members : List (String × Json)}

theorem recordsPayment {form : Request.PaymentForm}
    (accepted : Request.payment (Request.entriesOf members) = .accepted form) :
    RecordsPayment members form := by
  obtain ⟨passes, rounded⟩ := Request.payment_accepted accepted
  refine ⟨passes.command_accepted, rounded, ?_⟩
  have read : bodyForm Request.payment (some (.obj members)) = .accepted form := by
    rw [bodyForm, accepted]
    rfl
  rw [recordPayment, read]
  dsimp only [answering]
  rw [passes.command_accepted]

theorem recordsCash {cash : Request.QuickCash}
    (accepted : Request.quickCash (Request.entriesOf members) = .accepted cash) (world : World) :
    RecordsCash members cash world := by
  obtain ⟨taken, rounded⟩ := Request.cash_accepted accepted world.now.date
  have recorded := Payments.perform_quickCash (.json (.int cash.studentId)) (.decimal cash.amount)
    (.json (.str cash.note)) world
  rw [taken] at recorded
  have read : bodyForm Request.quickCash (some (.obj members)) = .accepted cash := by
    rw [bodyForm, accepted]
    rfl
  refine ⟨rounded, ?_, recorded, ?_⟩
  · rw [quickCash, read]
    rfl
  · have codes : (Payments.recordPayment (cash.paymentOn world.now.date).command).Ends world
        (fun result _ => Payments.NotUnfit result) fun _ _ => True :=
      Payments.ends_recordPayment_codes _
    simpa only [Ends, recorded] using codes

end Http

/-- The checks of a payment agree. The form of a payment and the command take the same entries
with the same values, and complain about the others alike. Whatever the form takes in a body, the
command takes again as it is, so that the payment is recorded; its amount is the one entered, to
the nearest cent, a half going up, and at least one cent. Cash that its form takes is recorded as
a payment of today and never refused as unfit. -/
theorem payment_checks_agree :
    (∀ entries, Request.paymentCommand entries = Request.PaymentForm.command <$>
      Request.payment entries) ∧
    (∀ members form, Request.payment (Request.entriesOf members) = .accepted form →
      Http.RecordsPayment members form) ∧
    ∀ members cash, Request.quickCash (Request.entriesOf members) = .accepted cash →
      ∀ world, Http.RecordsCash members cash world :=
  ⟨Request.paymentCommand_eq_map, fun _ _ accepted => Http.recordsPayment accepted,
    fun _ _ accepted world => Http.recordsCash accepted world⟩

/-- Half a cent is a payment of one cent, by transfer and in cash. -/
theorem payment_checks_agree_on_half_a_cent :
    let members : List (String × Json) :=
      [("student_id", .str " +7 "), ("amount", .str "0.005"), ("method", .str "bank"),
       ("paid_at", .str "2024-02-05T10:30:00Z")]
    let cent : Decimal := .finite false 1 (-2)
    Http.RecordsPayment members
        ⟨7, none, cent, .bank,
          ⟨⟨⟨2024, 2, 5, by decide⟩, ⟨10, 30, 0, 0, by decide⟩⟩, some .utc⟩, ""⟩ ∧
      Http.RecordsCash members ⟨7, cent, ""⟩ (World.calmWith .withEnrollment) := by
  intro members cent
  obtain ⟨-, payment, cash⟩ := payment_checks_agree
  exact ⟨payment members _ (Request.Checked.value?_eq_some_iff.mp (by decide +kernel)),
    cash members _ (Request.Checked.value?_eq_some_iff.mp (by decide +kernel)) _⟩

end Tuition
