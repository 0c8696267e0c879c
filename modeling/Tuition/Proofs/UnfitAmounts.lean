/-
# Amounts that do not fit

An amount fits a payment if it comes to a cent or more and, rounded to cents, has no more
digits than the precision. What is no decimal or comes to less than a cent is complained about
like any other entry, so the form is refused before anything is done. An amount that is too
large is not complained about: rounding it has no value, and that fault breaks the check off
and gets out of the use case.
-/

import Tuition.Http.Service
import Tuition.Proofs.Recording
import Tuition.Proofs.Rounding
import Tuition.Proofs.UseCases

namespace Tuition

namespace Entry

/-- The entry is a decimal that comes to a cent or more and can be rounded to cents. -/
def IsPayable (entry : Entry) : Prop :=
  ∃ amount, Request.decimal entry = .ok amount ∧ 1 / 200 ≤ amount.value ∧
    amount.value < 10 ^ 26 - 1 / 200

/-- The entry is a decimal that has too many digits once it is rounded to cents. -/
def IsTooLarge (entry : Entry) : Prop :=
  ∃ amount, Request.decimal entry = .ok amount ∧ 10 ^ 26 - 1 / 200 ≤ amount.value

theorem IsPayable.not_isTooLarge {entry : Entry} (payable : entry.IsPayable) :
    ¬entry.IsTooLarge := by
  rintro ⟨amount, read, large⟩
  obtain ⟨other, same, -, small⟩ := payable
  cases same.symm.trans read
  exact absurd large (not_le.mpr small)

end Entry

namespace Request

/-! ## Fields -/

/-- A field that complains and is never broken off. -/
def Field.Faultless {α : Type} (field : Field α) : Prop :=
  ∀ entry fault, field entry ≠ .error (.fault fault)

theorem bind_ne_fault {α β : Type} {first : Except Flaw α} {next : α → Except Flaw β}
    {fault : Decimal.Fault} (calm : first ≠ .error (.fault fault))
    (calmNext : ∀ value, next value ≠ .error (.fault fault)) :
    (first >>= next) ≠ .error (.fault fault) := by
  cases first with
  | ok value => exact calmNext value
  | error flaw => exact fun broken => calm (congrArg Except.error (Except.error.inj broken))

theorem mapError_problem_ne_fault {α : Type} {result : Except Problem α} {fault : Decimal.Fault} :
    result.mapError Flaw.problem ≠ .error (Flaw.fault fault) := by
  cases result <;> exact nofun

/-- A decimal is read as a number, or complained about. -/
theorem decimal_cases (entry : Entry) :
    (∃ amount, decimal entry = .ok amount ∧ amount.isFinite = true) ∨
      ∃ problem, decimal entry = .error (.problem problem) := by
  have checked (value : Decimal) : ∀ outcome : Except Flaw Decimal,
      outcome = (if value.isFinite then pure value else complain .notFinite) →
      (∃ amount, outcome = .ok amount ∧ amount.isFinite = true) ∨
        ∃ problem, outcome = .error (.problem problem) := by
    rintro outcome rfl
    split
    · next finite => exact .inl ⟨value, rfl, finite⟩
    · exact .inr ⟨_, rfl⟩
  unfold decimal
  split
  · exact checked _ _ rfl
  · exact .inr ⟨_, rfl⟩
  · exact .inr ⟨_, rfl⟩
  · exact .inr ⟨_, rfl⟩
  · exact .inr ⟨_, rfl⟩
  · split
    · exact checked _ _ rfl
    · exact .inr ⟨_, rfl⟩
  · exact .inr ⟨_, rfl⟩

theorem whole_faultless : Field.Faultless whole := by
  intro entry fault
  unfold whole
  split
  · nofun
  · nofun
  · exact mapError_problem_ne_fault
  · exact mapError_problem_ne_fault
  · nofun

theorem key_faultless : Field.Faultless key :=
  fun entry fault => bind_ne_fault (whole_faultless entry fault) fun _ => by split <;> nofun

theorem note_faultless : Field.Faultless note := by
  refine fun entry fault => bind_ne_fault ?_ fun _ => by split <;> nofun
  unfold text
  split
  · split <;> nofun
  · nofun

theorem paymentMethod_faultless : Field.Faultless paymentMethod := by
  intro entry fault
  unfold paymentMethod
  split
  · split <;> nofun
  · nofun

theorem stampOfCount_ne_fault {moment : Except Calendar.FieldFault Calendar.FieldMoment}
    {fault : Decimal.Fault} : stampOfCount moment ≠ .error (.fault fault) := by
  unfold stampOfCount
  split
  · nofun
  · split <;> nofun

theorem paidAt_faultless : Field.Faultless paidAt := by
  intro entry fault
  unfold paidAt
  split
  · nofun
  · nofun
  · exact stampOfCount_ne_fault
  · exact stampOfCount_ne_fault
  · nofun

/-- Rounding an amount above nothing: it is refused if that leaves nothing, and the check is
broken off if that leaves too many digits. -/
theorem roundAmount_finite (coefficient : Nat) (exponent : Int) :
    roundAmount (.finite false coefficient exponent) =
      let cents := Decimal.nearestCents (Decimal.magnitude coefficient exponent)
      if 10 ^ Decimal.precision ≤ cents then .error (.fault .invalid)
      else if 0 < cents then .ok (.finite false cents (-2))
      else complain (.rule amountTooSmall) := by
  unfold roundAmount Money.round
  rw [Decimal.quantize_finite]
  dsimp only
  by_cases wide : 10 ^ Decimal.precision ≤
    Decimal.nearestCents (Decimal.magnitude coefficient exponent)
  · rw [if_neg (Nat.not_lt.mpr wide), if_pos wide]
    rfl
  · rw [if_pos (Nat.not_le.mp wide), if_neg wide]
    generalize Decimal.nearestCents (Decimal.magnitude coefficient exponent) = cents
    by_cases none : cents = 0
    · subst none
      rfl
    · have positive : (Decimal.finite false cents (-2)).compareZero = .ok .gt :=
        congrArg Except.ok (Decimal.order_ofInt_zero_eq_gt_iff.mpr ⟨none, rfl⟩)
      rw [if_pos (Nat.pos_of_ne_zero none)]
      refine bind_eq_ok_iff.mpr ⟨_, rfl, bind_eq_ok_iff.mpr ⟨.gt, ?_, rfl⟩⟩
      rw [positive]
      rfl

/-- What becomes of an amount that was read: each outcome has its amounts. -/
inductive Takes (amount : ℚ) : Except Flaw Decimal → Prop
  | taken (least : 1 / 200 ≤ amount) (most : amount < 10 ^ 26 - 1 / 200) :
      Takes amount (.ok (.finite false (Decimal.nearestCents amount) (-2)))
  | refused (problem : Problem) (small : amount < 1 / 200) :
      Takes amount (.error (.problem problem))
  | broken (large : 10 ^ 26 - 1 / 200 ≤ amount) : Takes amount (.error (.fault .invalid))

theorem takes_roundAmount (coefficient : Nat) (exponent : Int) :
    Takes (Decimal.magnitude coefficient exponent)
      (roundAmount (.finite false coefficient exponent)) := by
  rw [roundAmount_finite]
  dsimp only
  split
  · next large => exact .broken (Decimal.le_nearestCents_iff.mp large)
  next fits =>
  have most := not_le.mp (mt Decimal.le_nearestCents_iff.mpr fits)
  split
  · next some => exact .taken (Decimal.nearestCents_pos_iff.mp some) most
  · next none => exact .refused _ (not_le.mp (mt Decimal.nearestCents_pos_iff.mpr none))

/-- A field of an amount does with an entry what the decimal asks for that is read from it. -/
theorem takes_amount {entry : Entry} {value : Decimal} (read : decimal entry = .ok value)
    (finite : value.isFinite = true) : Takes value.value (amount entry) := by
  have checked : amount entry =
      if value.order (.ofInt 0) = .gt then roundAmount value else complain (.notAbove 0) := by
    unfold amount
    rw [read]
    rfl
  rw [checked]
  cases value with
  | infinite => cases finite
  | nan => cases finite
  | finite negative coefficient exponent =>
      have positive : 0 < (Decimal.finite negative coefficient exponent).value ↔
          (Decimal.finite negative coefficient exponent).order (.ofInt 0) = .gt :=
        Decimal.value_pos_iff.trans Decimal.order_ofInt_zero_eq_gt_iff.symm
      split
      · next above =>
          obtain ⟨-, rfl⟩ := Decimal.order_ofInt_zero_eq_gt_iff.mp above
          exact takes_roundAmount coefficient exponent
      · next below =>
          have nothing := not_lt.mp (mt positive.mp below)
          exact .refused _ (by linarith)

/-- An entry for an amount is taken if it is payable, it breaks the check off if it is too large,
and in all other cases it is complained about. -/
theorem amount_cases (entry : Entry) :
    (∃ rounded, amount entry = .ok rounded) ∧ entry.IsPayable ∨
    (∃ problem, amount entry = .error (.problem problem)) ∧ ¬entry.IsPayable ∧ ¬entry.IsTooLarge ∨
    amount entry = .error (.fault .invalid) ∧ entry.IsTooLarge := by
  rcases decimal_cases entry with ⟨value, read, finite⟩ | ⟨problem, read⟩
  · have takes := takes_amount read finite
    generalize amount entry = outcome at takes ⊢
    cases takes with
    | taken least most => exact .inl ⟨⟨_, rfl⟩, value, read, least, most⟩
    | refused problem small =>
        refine .inr (.inl ⟨⟨problem, rfl⟩, ?_, ?_⟩)
        · rintro ⟨other, same, least, -⟩
          cases read.symm.trans same
          linarith
        · rintro ⟨other, same, large⟩
          cases read.symm.trans same
          linarith
    | broken large => exact .inr (.inr ⟨rfl, value, read, large⟩)
  · have unread : amount entry = .error (.problem problem) := by
      unfold amount
      rw [read]
      rfl
    refine .inr (.inl ⟨⟨problem, unread⟩, ?_, ?_⟩)
    · rintro ⟨other, found, -⟩
      cases read.symm.trans found
    · rintro ⟨other, found, -⟩
      cases read.symm.trans found

theorem amount_eq_fault_iff {entry : Entry} {fault : Decimal.Fault} :
    amount entry = .error (.fault fault) ↔ fault = .invalid ∧ entry.IsTooLarge := by
  rcases amount_cases entry with ⟨⟨rounded, taken⟩, payable⟩ | ⟨⟨problem, refused⟩, -, fits⟩ |
    ⟨broken, large⟩
  · simp [taken, payable.not_isTooLarge]
  · simp [refused, fits]
  · simp [broken, large, eq_comm]

theorem exists_amount_iff {entry : Entry} :
    (∃ rounded, amount entry = .ok rounded) ↔ entry.IsPayable := by
  rcases amount_cases entry with ⟨taken, payable⟩ | ⟨⟨problem, refused⟩, unfit, -⟩
    | ⟨broken, large⟩
  · exact iff_of_true taken payable
  · simp [refused, unfit]
  · simp [broken, mt Entry.IsPayable.not_isTooLarge (not_not_intro large)]

/-! ## Forms -/

namespace Checked

variable {α β γ : Type}

theorem map_map (g : β → γ) (f : α → β) (part : Checked α) :
    g <$> f <$> part = (g ∘ f) <$> part := by
  cases part <;> rfl

theorem map_seq (g : β → γ) (part : Checked (α → β)) (next : Checked α) :
    g <$> (part <*> next) = (g ∘ ·) <$> part <*> next := by
  cases part <;> cases next <;> rfl

/-- The fault that broke a check off. -/
def fault? : Checked α → Option Decimal.Fault
  | .broken fault => some fault
  | _ => none

/-- Whether a check ended with a value. -/
def isAccepted : Checked α → Bool
  | .accepted _ => true
  | _ => false

theorem fault?_map (f : α → β) (part : Checked α) : (f <$> part).fault? = part.fault? := by
  cases part <;> rfl

/-- The fault of a form is that of the first of its parts that has one. -/
theorem fault?_seq (part : Checked (α → β)) (next : Checked α) :
    (part <*> next).fault? = part.fault?.or next.fault? := by
  cases part <;> cases next <;> rfl

/-- A form is accepted if all its parts are. -/
theorem isAccepted_seq (part : Checked (α → β)) (next : Checked α) :
    (part <*> next).isAccepted = (part.isAccepted && next.isAccepted) := by
  cases part <;> cases next <;> rfl

theorem eq_broken_iff {checked : Checked α} {fault : Decimal.Fault} :
    checked = .broken fault ↔ checked.fault? = some fault := by
  cases checked <;> simp [fault?]

theorem map_eq_accepted_iff {part : Checked α} {f : α → β} {result : β} :
    f <$> part = .accepted result ↔ ∃ value, part = .accepted value ∧ f value = result := by
  cases part <;> simp [Functor.map, map]

end Checked

variable {α : Type} {name : String} {field : Field α} {entries : Entries}

theorem fault?_checkEntry (faultless : field.Faultless) (entry : Entry) :
    (checkEntry name field entry).fault? = none := by
  unfold checkEntry
  split
  · rfl
  · rfl
  · next fault broken => exact absurd broken (faultless entry fault)

theorem fault?_required (faultless : field.Faultless) :
    (required name field entries).fault? = none := by
  unfold required
  split
  · exact fault?_checkEntry faultless _
  · rfl

theorem fault?_optional (faultless : field.Faultless) :
    (optional name field entries).fault? = none := by
  unfold optional
  split
  · rfl
  · rfl
  · rw [Checked.fault?_map]
    exact fault?_checkEntry faultless _

theorem fault?_withDefault (faultless : field.Faultless) (value : α) :
    (withDefault name value field entries).fault? = none := by
  unfold withDefault
  split
  · rfl
  · exact fault?_checkEntry faultless _

/-- A field of a form holds an entry with a property. -/
def Entries.Has (entries : Entries) (name : String) (property : Entry → Prop) : Prop :=
  ∃ entry, entries.lookup name = some entry ∧ property entry

theorem fault?_required_amount {fault : Decimal.Fault} :
    (required name amount entries).fault? = some fault ↔
      fault = .invalid ∧ entries.Has name Entry.IsTooLarge := by
  unfold required Entries.Has
  cases entries.lookup name with
  | none => simp [Checked.fault?]
  | some entry =>
      have broken : (checkEntry name amount entry).fault? = some fault ↔
          amount entry = .error (.fault fault) := by
        unfold checkEntry
        split <;> simp [*, Checked.fault?]
      simp [broken, amount_eq_fault_iff]

theorem isAccepted_required_amount :
    (required name amount entries).isAccepted = true ↔ entries.Has name Entry.IsPayable := by
  unfold required Entries.Has
  cases entries.lookup name with
  | none => simp [Checked.isAccepted]
  | some entry =>
      have taken : (checkEntry name amount entry).isAccepted = true ↔
          ∃ rounded, amount entry = .ok rounded := by
        unfold checkEntry
        split <;> simp [*, Checked.isAccepted]
      simp [taken, exists_amount_iff]

/-- A form takes only payable amounts, and only an amount that is too large breaks it off. Any
other form is refused with complaints. -/
structure GuardsAmount (check : Entries → Checked α) : Prop where
  broken : ∀ entries fault, check entries = .broken fault ↔
    fault = .invalid ∧ Entries.Has entries "amount" Entry.IsTooLarge
  accepted : ∀ entries value, check entries = .accepted value →
    Entries.Has entries "amount" Entry.IsPayable

theorem guardsAmount_payment : GuardsAmount payment where
  broken entries fault := by
    rw [Checked.eq_broken_iff, ← fault?_required_amount]
    unfold payment
    simp only [Checked.fault?_seq, Checked.fault?_map, fault?_required key_faultless,
      fault?_optional key_faultless, fault?_required paymentMethod_faultless,
      fault?_required paidAt_faultless, fault?_withDefault note_faultless, Option.none_or,
      Option.or_none]
  accepted entries command taken := by
    have whole : (payment entries).isAccepted = true := by rw [taken]; rfl
    unfold payment at whole
    simp only [Checked.isAccepted_seq, Bool.and_eq_true] at whole
    exact isAccepted_required_amount.mp whole.1.1.1.2

theorem guardsAmount_quickCash : GuardsAmount quickCash where
  broken entries fault := by
    rw [Checked.eq_broken_iff, ← fault?_required_amount]
    unfold quickCash
    simp only [Checked.fault?_seq, Checked.fault?_map, fault?_required key_faultless,
      fault?_withDefault note_faultless, Option.none_or, Option.or_none]
  accepted entries cash taken := by
    have whole : (quickCash entries).isAccepted = true := by rw [taken]; rfl
    unfold quickCash at whole
    simp only [Checked.isAccepted_seq, Bool.and_eq_true] at whole
    exact isAccepted_required_amount.mp whole.1.2

/-- A check guards its amount whatever is made of what it accepts. -/
theorem GuardsAmount.map {β : Type} {check : Entries → Checked α} (guards : GuardsAmount check)
    (f : α → β) : GuardsAmount fun entries => f <$> check entries where
  broken entries fault := by
    rw [← guards.broken, Checked.eq_broken_iff, Checked.eq_broken_iff, Checked.fault?_map]
  accepted entries value taken := by
    obtain ⟨given, same, -⟩ := Checked.map_eq_accepted_iff.mp taken
    exact guards.accepted entries given same

/-- The payment that is to be recorded when one is asked for. -/
def PaymentForm.command (form : PaymentForm) : Payments.PaymentCommand :=
  ⟨form.studentId, form.invoiceId, form.amount, form.method, form.paidAt, form.note⟩

/-- What is asked of a payment that is to be recorded is what is asked of
one that is asked for. -/
theorem paymentCommand_eq_map (entries : Entries) :
    paymentCommand entries = PaymentForm.command <$> payment entries := by
  simp only [payment, Checked.map_seq, Checked.map_map]
  rfl

theorem guardsAmount_paymentCommand : GuardsAmount paymentCommand := by
  rw [funext paymentCommand_eq_map]
  exact guardsAmount_payment.map _

/-- A form whose amount is not payable is refused, unless that is because it is too large. -/
theorem GuardsAmount.cases {check : Entries → Checked α} (guards : GuardsAmount check)
    (unfit : ¬entries.Has "amount" Entry.IsPayable) :
    (∃ complaints, check entries = .refused complaints) ∧ ¬entries.Has "amount" Entry.IsTooLarge ∨
      check entries = .broken .invalid ∧ entries.Has "amount" Entry.IsTooLarge := by
  have broken := guards.broken entries
  cases checked : check entries with
  | accepted value => exact absurd (guards.accepted entries value checked) unfit
  | broken fault =>
      obtain ⟨rfl, large⟩ := (broken fault).mp checked
      exact .inr ⟨rfl, large⟩
  | refused complaints =>
      refine .inl ⟨⟨complaints, rfl⟩, fun large => ?_⟩
      cases checked.symm.trans ((broken .invalid).mpr ⟨rfl, large⟩)

end Request

open Tx

/-! ## Cash at the desk -/

namespace Payments

variable {world : World}

theorem has_amount_cash {today : Date} {studentId amount note : Entry} {property : Entry → Prop} :
    Request.Entries.Has (cashEntries today studentId amount note) "amount" property ↔
      property amount := by
  constructor
  · rintro ⟨entry, found, holds⟩
    cases found
    exact holds
  · intro holds
    exact ⟨amount, rfl, holds⟩

/-- Cash ends as the check of its form has it. -/
theorem perform_quickCash (studentId amount note : Entry) (world : World) :
    (quickCash studentId amount note).perform world =
      match Request.paymentCommand (cashEntries world.now.date studentId amount note) with
      | .broken fault => (.error (.arithmetic fault), world)
      | .refused complaints =>
        (.ok (.error (.unfitCash (Request.Rejection.text ⟨paymentFormName, complaints⟩))), world)
      | .accepted command => (recordPayment command).perform world := by
  have moment : now.perform world = (.ok world.now, world) := rfl
  unfold quickCash
  rw [perform_bind, moment]
  dsimp only
  cases Request.paymentCommand (cashEntries world.now.date studentId amount note) <;> rfl

/-- Cash that is too large gets out as a fault. -/
theorem perform_quickCash_of_large {studentId amount note : Entry} (large : amount.IsTooLarge)
    (world : World) :
    (quickCash studentId amount note).perform world = (.error (.arithmetic .invalid), world) := by
  have broken := (Request.guardsAmount_paymentCommand.broken
    (cashEntries world.now.date studentId amount note) .invalid).mpr
      ⟨rfl, has_amount_cash.mpr large⟩
  rw [perform_quickCash, broken]

/-- Cash that is too little or no amount at all is refused. -/
theorem perform_quickCash_of_unfit (studentId note : Entry) {amount : Entry}
    (unfit : ¬amount.IsPayable) (fits : ¬amount.IsTooLarge) (world : World) :
    ∃ problems, (quickCash studentId amount note).perform world =
      (.ok (.error (.unfitCash problems)), world) := by
  have none : ¬(cashEntries world.now.date studentId amount note).Has "amount" Entry.IsPayable :=
    mt has_amount_cash.mp unfit
  rcases Request.guardsAmount_paymentCommand.cases none with
    ⟨⟨complaints, refused⟩, -⟩ | ⟨-, large⟩
  · rw [perform_quickCash, refused]
    exact ⟨_, rfl⟩
  · exact absurd (has_amount_cash.mp large) fits

/-- Cash that is not too large is answered. -/
theorem ends_quickCash_of_fits (studentId note : Entry) {amount : Entry}
    (fits : ¬amount.IsTooLarge) (settled : world.Settled) :
    (quickCash studentId amount note).Ends world (fun _ _ => True) fun _ _ => False := by
  simp only [Ends, perform_quickCash]
  cases checked : Request.paymentCommand (cashEntries world.now.date studentId amount note) with
  | broken fault =>
      obtain ⟨-, large⟩ := (Request.guardsAmount_paymentCommand.broken _ fault).mp checked
      exact absurd (has_amount_cash.mp large) fits
  | refused complaints => trivial
  | accepted command => exact (ends_recordPayment command settled).weaken fun _ _ _ => trivial

end Payments

/-! ## Requests -/

namespace Http

/-- A request that is complained about is answered with the status for unfit requests. -/
theorem status_ofComplaints (complaints : List Request.Complaint) :
    (Answer.ofComplaints complaints).status = 422 := by
  have found : "VALIDATION_ERROR".endsWith "_NOT_FOUND" = false := by decide +kernel
  simp [Answer.ofComplaints, Answer.ofReport, statusOf, found, conflictCodes]

variable {α : Type} {check : Request.Entries → Request.Checked α} {world : World}

/-- A form in a body whose amount is not payable is answered before anything is done, unless that
is because it is too large. -/
theorem perform_answering_of_unfit (guards : Request.GuardsAmount check)
    {members : List (String × Json)}
    (unfit : ¬(Request.entriesOf members).Has "amount" Entry.IsPayable) (answer : α → Tx Answer)
    (world : World) :
    (∃ reply, (answering (bodyForm check (some (.obj members))) answer).perform world =
        (.ok reply, world) ∧ reply.status = 422) ∧
      ¬(Request.entriesOf members).Has "amount" Entry.IsTooLarge ∨
    (answering (bodyForm check (some (.obj members))) answer).perform world =
        (.error (.arithmetic .invalid), world) ∧
      (Request.entriesOf members).Has "amount" Entry.IsTooLarge := by
  have form : bodyForm check (some (.obj members)) =
      under "body" (check (Request.entriesOf members)) := rfl
  rw [form]
  rcases guards.cases unfit with ⟨⟨complaints, refused⟩, fits⟩ | ⟨broken, large⟩
  · rw [refused]
    exact .inl ⟨⟨_, rfl, status_ofComplaints _⟩, fits⟩
  · rw [broken]
    exact .inr ⟨rfl, large⟩

/-- A request that brings the form of a payment or of cash. -/
structure Request.Pays (request : Request) (members : List (String × Json)) : Prop where
  read : readBody request = .ok (some (.obj members))
  found : find request.method request.path = .endpoint .recordPayment ∨
    find request.method request.path = .endpoint .quickCash

/-- A payment that is not payable is answered as unfit, unless it is too large: then the answer is
that the service failed. Nothing is done either way. -/
theorem perform_answer_of_unfit {request : Request} {members : List (String × Json)}
    (pays : request.Pays members)
    (unfit : ¬(Request.entriesOf members).Has "amount" Entry.IsPayable) (worker : Worker)
    (world : World) :
    ∃ reply, (answer worker request).perform world = (.ok reply, world.begin) ∧
      (reply.status = 422 ∧ ¬(Request.entriesOf members).Has "amount" Entry.IsTooLarge ∨
        reply.status = 500 ∧ (Request.entriesOf members).Has "amount" Entry.IsTooLarge) := by
  obtain ⟨endpoint, found, ends⟩ : ∃ endpoint,
      find request.method request.path = .endpoint endpoint ∧
      ((∃ reply, (answerAt worker request endpoint).perform world.begin =
        (.ok reply, world.begin) ∧
          reply.status = 422) ∧
        ¬(Request.entriesOf members).Has "amount" Entry.IsTooLarge ∨
      (answerAt worker request endpoint).perform world.begin =
          (.error (.arithmetic .invalid), world.begin) ∧
        (Request.entriesOf members).Has "amount" Entry.IsTooLarge) := by
    rcases pays.found with found | found
    · refine ⟨_, found, ?_⟩
      simp only [answerAt, withBody, pays.read]
      exact perform_answering_of_unfit Request.guardsAmount_payment unfit _ world.begin
    · refine ⟨_, found, ?_⟩
      simp only [answerAt, withBody, pays.read]
      exact perform_answering_of_unfit Request.guardsAmount_quickCash unfit _ world.begin
  have own : world.begin.begin = world.begin := rfl
  unfold answer
  rw [found]
  dsimp only
  rw [perform_recover, perform_session]
  rcases ends with ⟨⟨reply, replied, status⟩, fits⟩ | ⟨failed, large⟩
  · rw [replied]
    exact ⟨reply, rfl, .inl ⟨status, fits⟩⟩
  · rw [failed]
    exact ⟨.serverError, rfl, .inr ⟨rfl, large⟩⟩

end Http

/-- How recording cash ends: it is answered unless the amount is too large, and an amount that is
not payable is refused as unfit, with the store as it was. -/
structure Payments.CashChecked (world : World) (amount : Entry)
    (ended : Except Fault (Except Refusal Receipt) × World) : Prop where
  broken : amount.IsTooLarge → ∃ after,
    ended = (.error (.arithmetic .invalid), after) ∧ after.store = world.store
  answered : ¬amount.IsTooLarge → ∃ answer after, ended = (.ok answer, after)
  refused : ¬amount.IsTooLarge → ¬amount.IsPayable → ∃ refusal after,
    ended = (.ok (.error refusal), after) ∧ refusal.report.code = "VALIDATION_ERROR" ∧
      after.store = world.store

theorem Payments.cashChecked_session (world : World) (studentId amount note : Entry) :
    CashChecked world amount ((session (quickCash studentId amount note)).perform world) where
  broken large := by
    rw [perform_session, perform_quickCash_of_large large]
    exact ⟨_, rfl, rfl⟩
  answered fits := by
    have settled : world.begin.Settled := rfl
    obtain ⟨answer, left, performed, -⟩ :=
      (ends_quickCash_of_fits studentId note fits settled).exists_ok
    rw [perform_session, performed]
    exact ⟨_, _, rfl⟩
  refused fits unfit := by
    obtain ⟨problems, refused⟩ := perform_quickCash_of_unfit studentId note unfit fits world.begin
    rw [perform_session, refused]
    exact ⟨_, _, rfl, rfl, rfl⟩

/-- Amounts that do not fit are refused, never written. Recording cash is answered in every world,
whatever is entered, unless the amount is too large; an amount that is not payable is refused as
unfit, and the store stays as it is. The forms of payments and the command that they make take
payable amounts alone and are refused otherwise, over HTTP with the status for unfit requests. The
one exception are amounts that are too large, from half a cent below `10 ^ 26` on: they break use
case, form and command off. -/
theorem unfit_amounts_refused (world : World) :
    (∀ studentId amount note : Entry, Payments.CashChecked world amount
      ((session (Payments.quickCash studentId amount note)).perform world)) ∧
    Request.GuardsAmount Request.payment ∧ Request.GuardsAmount Request.quickCash ∧
    Request.GuardsAmount Request.paymentCommand ∧
    ∀ worker request members, Http.Request.Pays request members →
      ¬(Request.entriesOf members).Has "amount" Entry.IsPayable →
      ∃ reply, (Http.answer worker request).perform world = (.ok reply, world.begin) ∧
        (reply.status = 422 ∧ ¬(Request.entriesOf members).Has "amount" Entry.IsTooLarge ∨
          reply.status = 500 ∧ (Request.entriesOf members).Has "amount" Entry.IsTooLarge) :=
  ⟨Payments.cashChecked_session world, Request.guardsAmount_payment,
    Request.guardsAmount_quickCash, Request.guardsAmount_paymentCommand,
    fun worker _ _ pays unfit => Http.perform_answer_of_unfit pays unfit worker world⟩

/-- The whole amount of a body that gives nothing else. -/
def Http.amountAlone? (body : Except Answer (Option Json)) : Option Int :=
  match body with
  | .ok (some (.obj [("amount", .int amount)])) => some amount
  | _ => none

theorem Http.eq_of_amountAlone? {body : Except Answer (Option Json)} {amount : Int}
    (alone : amountAlone? body = some amount) :
    body = .ok (some (.obj [("amount", .int amount)])) := by
  unfold amountAlone? at alone
  split at alone
  · cases alone
    rfl
  · cases alone

/-- Four tenths of a cent are refused as cash, and nothing at all is refused over HTTP. -/
theorem unfit_amounts_refused_below_a_cent :
    let world := World.calmWith .withEnrollment
    let request : Http.Request :=
      { method := "POST", path := "/api/billing/payments/quick-cash",
        body := "\x7b\"amount\": 0\x7d" }
    (∃ refusal after,
      (session (Payments.quickCash (.json (.int 1)) (.decimal (.finite false 4 (-3)))
        (.json (.str "")))).perform world = (.ok (.error refusal), after) ∧
      refusal.report.code = "VALIDATION_ERROR" ∧ after.store = world.store) ∧
    ∃ reply, (Http.answer ⟨default, false⟩ request).perform world = (.ok reply, world) ∧
      reply.status = 422 := by
  intro world request
  obtain ⟨cash, -, -, -, http⟩ := unfit_amounts_refused world
  have little : ¬(Entry.decimal (.finite false 4 (-3))).IsPayable := by
    rintro ⟨amount, read, least, -⟩
    cases read
    norm_num [Decimal.value, Decimal.magnitude] at least
  have fits : ¬(Entry.decimal (.finite false 4 (-3))).IsTooLarge := by
    rintro ⟨amount, read, large⟩
    cases read
    norm_num [Decimal.value, Decimal.magnitude] at large
  have read : Http.readBody request = .ok (some (.obj [("amount", .int 0)])) :=
    Http.eq_of_amountAlone? (by decide +kernel)
  have nothing {property : Decimal → Prop} (never : ¬property (.ofInt 0)) :
      ¬(Request.entriesOf [("amount", .int 0)]).Has "amount" fun entry =>
        ∃ amount, Request.decimal entry = .ok amount ∧ property amount := by
    rintro ⟨entry, found, amount, decimal, holds⟩
    cases found
    cases decimal
    exact never holds
  constructor
  · exact (cash (.json (.int 1)) _ (.json (.str ""))).refused fits little
  · have found : Http.find request.method request.path = .endpoint .quickCash := by decide +kernel
    have free : ¬(Request.entriesOf [("amount", .int 0)]).Has "amount" Entry.IsPayable :=
      nothing (by norm_num [Decimal.value, Decimal.magnitude, Decimal.ofInt])
    have small : ¬(Request.entriesOf [("amount", .int 0)]).Has "amount" Entry.IsTooLarge :=
      nothing (by norm_num [Decimal.value, Decimal.magnitude, Decimal.ofInt])
    obtain ⟨reply, replied, status⟩ := http ⟨default, false⟩ request _ ⟨read, .inr found⟩ free
    rcases status with ⟨status, -⟩ | ⟨-, large⟩
    · exact ⟨reply, replied, status⟩
    · exact absurd large small

/-- Cash of `10 ^ 26` is no mistake that is reported: the fault gets out of the use case, of the
forms and of the command, and the service fails. -/
theorem large_cash_not_answered :
    let world := World.calmWith .withEnrollment
    let amount : Entry := .decimal (.finite false 1 26)
    ((session (Payments.quickCash (.json (.int 1)) amount (.json (.str "")))).perform world).1 =
      .error (.arithmetic .invalid) ∧
    Request.payment [("student_id", .json (.int 1)), ("amount", amount)] = .broken .invalid ∧
    Request.quickCash [("student_id", .json (.int 1)), ("amount", amount)] = .broken .invalid ∧
    Request.paymentCommand [("student_id", .json (.int 1)), ("amount", amount)] =
      .broken .invalid := by
  intro world amount
  have large : amount.IsTooLarge := by
    refine ⟨_, rfl, ?_⟩
    norm_num [Decimal.value, Decimal.magnitude]
  refine ⟨?_, ?_, ?_, ?_⟩
  · rw [perform_session, Payments.perform_quickCash_of_large large]
  · exact (Request.guardsAmount_payment.broken _ _).mpr ⟨rfl, amount, rfl, large⟩
  · exact (Request.guardsAmount_quickCash.broken _ _).mpr ⟨rfl, amount, rfl, large⟩
  · exact (Request.guardsAmount_paymentCommand.broken _ _).mpr ⟨rfl, amount, rfl, large⟩

end Tuition
