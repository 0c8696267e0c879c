/-
# What a student is charged

A charge is a line in whole numbers: a quantity and a price in cents. What an enrollment is
charged for a period is told from its resolved prices in one sentence for each way of charging.
Drafting works the same lines out in decimal arithmetic, and this module shows that they agree:
each drafted line has the price of its charge and exactly the quantity times that price, and where
the total is kept in a column it is exactly the sum.
-/

import Tuition.Proofs.Cents

namespace Tuition

/-- The most rows that a table has: no more fit into a database of the greatest size. -/
def Table.greatestSize : Nat :=
  20000000000000

/-- What an enrollment is charged: a quantity at a price in cents. -/
structure Charge where
  enrollmentId : Int
  description : String
  quantity : Int
  price : Int
  deriving DecidableEq, Repr

namespace Charge

/-- The amount of a charge in cents. -/
def amount (charge : Charge) : Int :=
  charge.quantity * charge.price

/-- The line that a charge makes. -/
def line (charge : Charge) : DraftLine :=
  ⟨charge.enrollmentId, charge.description, charge.quantity, .ofCents charge.price,
    .ofCents charge.amount⟩

/-- The sum of charges in cents. -/
def total (charges : List Charge) : Int :=
  (charges.map amount).sum

/-- Price and amount of a charge have at most twelve digits. -/
def Fits (charge : Charge) : Prop :=
  charge.price.natAbs < 10 ^ 12 ∧ charge.amount.natAbs < 10 ^ 12

/-- A line was drafted for a charge. It is as exact as it is a line of numbers. -/
structure DraftedAs (charge : Charge) (draft : DraftLine) : Prop where
  enrollmentId : draft.enrollmentId = charge.enrollmentId
  description : draft.description = charge.description
  quantity : draft.quantity = charge.quantity
  exact : draft.unitPrice.IsNumber →
    draft.unitPrice.IsCents charge.price ∧ draft.amount.IsCents charge.amount

end Charge

namespace Store

/-- The lessons that a student attended of a course in a period. -/
def lessonsAttended (store : Store) (studentId courseId : Int) (period : Period) : Int :=
  ((store.attendance.find? (·.isOf studentId courseId period)).map Attendance.lessons).getD 0

/-- What an enrollment is charged at prices: always the lessons attended, or a month if it costs
something. -/
def chargeAt (store : Store) (period : Period) (enrollment : Enrollment) (prices : Prices) :
    Option Charge :=
  match enrollment.billingMode with
  | .perLesson =>
    some ⟨enrollment.id, DraftLine.describe "Lessons" prices.courseName period,
      store.lessonsAttended enrollment.studentId enrollment.courseId period,
      Amount.centsOf prices.lessonPrice⟩
  | .subscription =>
    if 0 < Amount.centsOf prices.subscriptionPrice then
      some ⟨enrollment.id, DraftLine.describe "Subscription" prices.courseName period, 1,
        Amount.centsOf prices.subscriptionPrice⟩
    else none
  | .unknown _ => none

/-- What an enrollment is charged for a period: nothing if its course is missing. -/
def charge (store : Store) (period : Period) (enrollment : Enrollment) :
    Except Fault (Option Charge) :=
  match Table.find? store.courses enrollment.courseId with
  | none => .ok none
  | some _ => (store.priceBook.resolve enrollment period).map fun prices =>
    prices.bind (store.chargeAt period enrollment)

/-- What enrollments are charged for a period, in their order. -/
def charges (store : Store) (period : Period) : List Enrollment → Except Fault (List Charge)
  | [] => .ok []
  | enrollment :: others => do
    let charge ← store.charge period enrollment
    let more ← store.charges period others
    return charge.toList ++ more

/-- What a student is charged for a period. -/
def chargesOf (store : Store) (studentId : Int) (period : Period) : Except Fault (List Charge) :=
  store.charges period (store.enrollmentsOf studentId)

end Store

/-! ## Prices have two places -/

/-- A decimal has two places if it is finite. -/
def Decimal.TwoPlaces : Decimal → Prop
  | .finite _ _ exponent => exponent = -2
  | _ => True

namespace Decimal

theorem twoPlaces_of_quantize {amount rounded : Decimal}
    (rounds : amount.quantize = .ok rounded) : rounded.TwoPlaces := by
  by_cases number : rounded.IsNumber
  · obtain ⟨_, ⟨_, _, rfl, -⟩, -⟩ := isCents_of_quantize rounds number
    rfl
  · cases rounded with
    | finite => exact absurd trivial number
    | infinite => trivial
    | nan => trivial

theorem twoPlaces_shown (kept : Decimal) : (Amount.shown kept).TwoPlaces := by
  unfold Amount.shown
  split
  · next exact =>
      cases kept with
      | finite =>
          simp only [Amount.isExact, Bool.and_eq_true, beq_iff_eq] at exact
          exact exact.1
      | infinite => trivial
      | nan => trivial
  · cases Amount.toBinary kept with
    | finite => rfl
    | infinite => trivial
    | nan => trivial

/-- Rounding a price of two places to a number does not change its cents. -/
theorem TwoPlaces.isCents_of_quantize {price rounded : Decimal} (places : price.TwoPlaces)
    (rounds : price.quantize = .ok rounded) (number : rounded.IsNumber) :
    rounded.IsCents (Amount.centsOf price) := by
  cases price with
  | infinite => cases rounds
  | nan negative signaling =>
      cases signaling with
      | true => cases rounds
      | false =>
          cases rounds
          exact number.elim
  | finite negative coefficient exponent =>
      obtain rfl : exponent = -2 := places
      have hundredths : toHundredths coefficient (-2) = coefficient := Nat.mul_one coefficient
      simp only [quantize, hundredths] at rounds
      split at rounds
      · next none =>
          cases rounds
          exact ⟨negative, 0, rfl, by rw [Amount.centsOf, none]⟩
      split at rounds
      · cases rounds
      split at rounds
      · cases rounds
      · cases rounds
        exact ⟨negative, coefficient, rfl, rfl⟩

/-- A price of two places is above nothing if its cents are, or if it cannot be rounded. -/
theorem TwoPlaces.compareZero {price : Decimal} {order : Ordering} (places : price.TwoPlaces)
    (compared : price.compareZero = .ok order) :
    (order = .gt ↔ 0 < Amount.centsOf price) ∨
      order = .gt ∧ price.quantize = .error .invalid := by
  cases price with
  | nan => cases compared
  | infinite negative =>
      cases negative with
      | true =>
          cases compared
          exact .inl (by simp [Amount.centsOf])
      | false =>
          cases compared
          exact .inr ⟨rfl, rfl⟩
  | finite negative coefficient exponent =>
      left
      cases compared
      by_cases none : coefficient = 0
      · cases negative <;> simp [compareFinite, none, Amount.centsOf, signed]
      · have positive : 0 < coefficient := Nat.pos_of_ne_zero none
        cases negative <;> simp [compareFinite, none, Amount.centsOf, signed, positive]

end Decimal

/-! ## Lines and charges -/

theorem PriceBook.arithmetic_eq_ok_iff {α : Type} {result : Except Decimal.Fault α} {value : α} :
    (PriceBook.arithmetic result : Except Fault α) = .ok value ↔ result = .ok value := by
  cases result with
  | ok other =>
      exact ⟨fun same => congrArg _ (Except.ok.inj same),
        fun same => congrArg _ (Except.ok.inj same)⟩
  | error fault => exact ⟨nofun, nofun⟩

/-- What a line that is made says: its price is rounded, and a whole number of cents is multiplied
exactly. -/
theorem DraftLine.said_of_make {enrollmentId : Int} {description : String} {quantity : Int}
    {price : Decimal} {draft : DraftLine}
    (made : DraftLine.make enrollmentId description quantity price = .ok draft) :
    draft = ⟨enrollmentId, description, quantity, draft.unitPrice, draft.amount⟩ ∧
      price.quantize = .ok draft.unitPrice ∧
      ∀ cents : Int, draft.unitPrice.IsCents cents →
        draft.amount.IsCents (quantity * cents) ∧ (quantity * cents).natAbs < 10 ^ 28 := by
  obtain ⟨unitPrice, rounds, rest⟩ := bind_eq_ok_iff.mp made
  obtain ⟨product, multiplied, rest⟩ := bind_eq_ok_iff.mp rest
  obtain ⟨amount, roundsProduct, same⟩ := bind_eq_ok_iff.mp rest
  cases same
  refine ⟨rfl, rounds, fun cents exact => ?_⟩
  have product := Decimal.isCents_of_mul exact multiplied roundsProduct
  exact ⟨product, product.bound_of_quantize roundsProduct⟩

/-- A line for a quantity at a price of two places is drafted for its charge. -/
theorem Charge.draftedAs_of_make {enrollmentId : Int} {description : String} {quantity : Int}
    {price : Decimal} {draft : DraftLine} (places : price.TwoPlaces)
    (made : DraftLine.make enrollmentId description quantity price = .ok draft) :
    Charge.DraftedAs ⟨enrollmentId, description, quantity, Amount.centsOf price⟩ draft := by
  obtain ⟨same, rounds, multiplied⟩ := DraftLine.said_of_make made
  rw [same]
  refine ⟨rfl, rfl, rfl, fun number => ?_⟩
  have exact := places.isCents_of_quantize rounds number
  exact ⟨exact, (multiplied _ exact).1⟩

theorem Prices.twoPlaces_of_discounted {price discount reduced : Decimal}
    (reduces : Money.discounted price discount = .ok reduced) : reduced.TwoPlaces := by
  obtain ⟨factor, -, scales⟩ := bind_eq_ok_iff.mp reduces
  obtain ⟨product, -, rounds⟩ := bind_eq_ok_iff.mp scales
  exact Decimal.twoPlaces_of_quantize rounds

/-- What holds of the discounted prices of a course and of the prices that overrides give holds of
the prices that an enrollment is charged. -/
theorem PriceBook.of_resolve {book : PriceBook (Except Fault)} {enrollment : Enrollment}
    {period : Period} {prices : Prices} {Holds : Decimal → Prop}
    (discounted : ∀ course, book.course enrollment.courseId = .ok (some course) →
      ∀ price ∈ [course.lessonPrice, course.subscriptionPrice], ∀ {reduced},
        Money.discounted price enrollment.discount = .ok reduced → Holds reduced)
    (overridden : ∀ day overrides, book.overridesUntil enrollment.id day = .ok overrides →
      ∀ override ∈ overrides, (∀ price ∈ override.lessonPrice, Holds price) ∧
        ∀ price ∈ override.subscriptionPrice, Holds price)
    (resolved : book.resolve enrollment period = .ok (some prices)) :
    Holds prices.lessonPrice ∧ Holds prices.subscriptionPrice := by
  obtain ⟨course, looked, rest⟩ := bind_eq_ok_iff.mp resolved
  cases course with
  | none => cases rest
  | some course =>
      obtain ⟨reduced, reduces, rest⟩ := bind_eq_ok_iff.mp rest
      obtain ⟨⟨first, last⟩, -, rest⟩ := bind_eq_ok_iff.mp rest
      obtain ⟨overrides, found, same⟩ := bind_eq_ok_iff.mp rest
      obtain ⟨lesson, lessonReduces, rest⟩ :=
        bind_eq_ok_iff.mp (PriceBook.arithmetic_eq_ok_iff.mp reduces)
      obtain ⟨subscription, subscriptionReduces, built⟩ := bind_eq_ok_iff.mp rest
      cases built
      cases same
      have holdsLesson := discounted course looked _ (by simp) lessonReduces
      have holdsSubscription := discounted course looked _ (by simp) subscriptionReduces
      have getD {price : Option Decimal} {other : Decimal}
          (given : ∀ price' ∈ price, Holds price')
          (otherwise : Holds other) : Holds (price.getD other) := by
        cases price with
        | none => exact otherwise
        | some price => exact given price rfl
      unfold Prices.under
      split
      · next override holds =>
          have given := overridden last overrides found override (List.mem_of_find?_eq_some holds)
          exact ⟨getD given.1 holdsLesson, getD given.2 holdsSubscription⟩
      · exact ⟨holdsLesson, holdsSubscription⟩

namespace Store

variable {store : Store} {studentId : Int} {period : Period} {enrollment : Enrollment}

theorem twoPlaces_of_startingBy {override : PriceOverride} {enrollmentId : Int} {day : Date}
    (mem : override ∈ (PriceOverride.startingBy store.overrides enrollmentId day).map Row.shown) :
    (∀ price ∈ override.lessonPrice, price.TwoPlaces) ∧
      ∀ price ∈ override.subscriptionPrice, price.TwoPlaces := by
  obtain ⟨kept, -, rfl⟩ := List.mem_map.mp mem
  have places (price : Option Decimal) : ∀ shown ∈ price.map Amount.shown, shown.TwoPlaces := by
    intro shown mem
    obtain ⟨kept, -, rfl⟩ := Option.mem_map.mp mem
    exact Decimal.twoPlaces_shown kept
  exact ⟨places kept.lessonPrice, places kept.subscriptionPrice⟩

/-- The prices of an enrollment have two places. -/
theorem twoPlaces_of_resolve {prices : Prices}
    (resolved : store.priceBook.resolve enrollment period = .ok (some prices)) :
    prices.lessonPrice.TwoPlaces ∧ prices.subscriptionPrice.TwoPlaces := by
  refine PriceBook.of_resolve (fun _ _ _ _ _ => Prices.twoPlaces_of_discounted) ?_ resolved
  intro day overrides found override mem
  obtain ⟨_, -, listed⟩ := bind_eq_ok_iff.mp found
  cases listed
  exact twoPlaces_of_startingBy mem

/-- A month is drafted for its charge, if it costs something. -/
theorem draftedAs_of_subscription {prices : Prices} {draft : Option DraftLine}
    (mode : enrollment.billingMode = .subscription) (places : prices.subscriptionPrice.TwoPlaces)
    (drafted : DraftLine.ofSubscription enrollment prices period = .ok draft) :
    List.Forall₂ Charge.DraftedAs (store.chargeAt period enrollment prices).toList
      draft.toList := by
  simp only [chargeAt, mode]
  obtain ⟨order, compared, rest⟩ := bind_eq_ok_iff.mp drafted
  rcases places.compareZero compared with above | ⟨rfl, unrounded⟩
  · cases order with
    | gt =>
        obtain ⟨line, made, same⟩ := bind_eq_ok_iff.mp rest
        cases same
        rw [if_pos (above.mp rfl)]
        exact .cons (Charge.draftedAs_of_make places made) .nil
    | lt =>
        cases rest
        rw [if_neg fun costs => Ordering.noConfusion (above.mpr costs)]
        exact .nil
    | eq =>
        cases rest
        rw [if_neg fun costs => Ordering.noConfusion (above.mpr costs)]
        exact .nil
  · obtain ⟨line, made, -⟩ := bind_eq_ok_iff.mp rest
    obtain ⟨unitPrice, rounds, -⟩ := bind_eq_ok_iff.mp made
    rw [Money.round, unrounded] at rounds
    cases rounds

/-- What an enrollment is drafted is drafted for what it is charged. -/
theorem exists_charge {draft : Option DraftLine}
    (drafted : store.priceBook.draftLine period enrollment = .ok draft) :
    ∃ charge, store.charge period enrollment = .ok charge ∧
      List.Forall₂ Charge.DraftedAs charge.toList draft.toList := by
  obtain ⟨prices, resolved, rest⟩ := bind_eq_ok_iff.mp drafted
  cases found : Table.find? store.courses enrollment.courseId with
  | none =>
      obtain ⟨course, looked, resolves⟩ := bind_eq_ok_iff.mp resolved
      obtain ⟨_, -, shown⟩ := bind_eq_ok_iff.mp looked
      rw [found] at shown
      cases shown
      cases resolves
      cases rest
      exact ⟨none, by simp [charge, found], .nil⟩
  | some course =>
      have charged : store.charge period enrollment =
          .ok (prices.bind (store.chargeAt period enrollment)) := by
        simp [charge, found, resolved, Except.map]
      refine ⟨_, charged, ?_⟩
      cases prices with
      | none =>
          cases rest
          exact .nil
      | some prices =>
          have places := twoPlaces_of_resolve resolved
          rw [Option.bind_some]
          cases mode : enrollment.billingMode with
          | perLesson =>
              simp only [mode] at rest
              obtain ⟨attendance, looked, rest⟩ := bind_eq_ok_iff.mp rest
              obtain ⟨_, -, attended⟩ := bind_eq_ok_iff.mp looked
              obtain ⟨line, made, same⟩ := bind_eq_ok_iff.mp rest
              cases attended
              cases same
              simp only [chargeAt, mode]
              exact .cons
                (Charge.draftedAs_of_make places.1 (PriceBook.arithmetic_eq_ok_iff.mp made))
                .nil
          | subscription =>
              simp only [mode] at rest
              exact draftedAs_of_subscription mode places.2
                (PriceBook.arithmetic_eq_ok_iff.mp rest)
          | unknown =>
              simp only [mode] at rest
              cases rest
              simp only [chargeAt, mode]
              exact .nil

/-- What enrollments are drafted is drafted for what they are charged, line by line. -/
theorem exists_charges {enrollments : List Enrollment} {drafts : List DraftLine}
    (drafted : store.priceBook.draftLines period enrollments = .ok drafts) :
    ∃ charges, store.charges period enrollments = .ok charges ∧
      List.Forall₂ Charge.DraftedAs charges drafts := by
  induction enrollments generalizing drafts with
  | nil =>
      cases drafted
      exact ⟨[], rfl, .nil⟩
  | cons enrollment others ih =>
      obtain ⟨draft, first, rest⟩ := bind_eq_ok_iff.mp drafted
      obtain ⟨more, next, same⟩ := bind_eq_ok_iff.mp rest
      cases same
      obtain ⟨charge, charged, draftedAs⟩ := exists_charge first
      obtain ⟨charges, chargedMore, draftedMore⟩ := ih next
      refine ⟨charge.toList ++ charges, ?_, List.rel_append draftedAs draftedMore⟩
      exact bind_eq_ok_iff.mpr ⟨charge, charged, bind_eq_ok_iff.mpr ⟨charges, chargedMore, rfl⟩⟩

/-- Enrollments are charged no more often than there are enrollments. -/
theorem length_charges_le {enrollments : List Enrollment} {charges : List Charge}
    (charged : store.charges period enrollments = .ok charges) :
    charges.length ≤ enrollments.length := by
  induction enrollments generalizing charges with
  | nil =>
      cases charged
      exact Nat.le_refl _
  | cons enrollment others ih =>
      obtain ⟨charge, -, rest⟩ := bind_eq_ok_iff.mp charged
      obtain ⟨more, chargedMore, same⟩ := bind_eq_ok_iff.mp rest
      cases same
      have fewer := ih chargedMore
      have one : charge.toList.length ≤ 1 := by cases charge <;> simp
      rw [List.length_append, List.length_cons]
      omega

/-- What a student is billed is drafted for what the student is charged. -/
theorem exists_chargesOf {drafts : List DraftLine}
    (billed : store.billedLines studentId period = .ok drafts) :
    ∃ charges, store.chargesOf studentId period = .ok charges ∧
      List.Forall₂ Charge.DraftedAs charges drafts ∧
        charges.length ≤ store.enrollments.length := by
  obtain ⟨charges, charged, drafted⟩ := exists_charges billed
  refine ⟨charges, charged, drafted, (length_charges_le charged).trans ?_⟩
  rw [enrollmentsOf, List.length_map]
  exact List.length_filter_le _ _

end Store

/-! ## What is kept of charges -/

/-- Price and amount of a line are such as a column of twelve digits holds. -/
def InvoiceLine.FitsColumns (line : InvoiceLine) : Prop :=
  line.unitPrice.FitsColumn ∧ line.amount.FitsColumn

namespace Charge

variable {charge : Charge} {draft : DraftLine} {line : InvoiceLine}

theorem DraftedAs.of_keptAs (drafted : charge.DraftedAs draft) (kept : draft.KeptAs line) :
    draft.unitPrice.IsCents charge.price ∧ draft.amount.IsCents charge.amount :=
  drafted.exact (Decimal.isNumber_of_keepAmount kept.unitPrice)

/-- A line that fits its columns is kept exactly as it is charged. -/
theorem DraftedAs.toDraftLine_eq (drafted : charge.DraftedAs draft) (kept : draft.KeptAs line)
    (fits : line.FitsColumns) : line.toDraftLine = charge.line ∧ charge.Fits := by
  have exact := drafted.of_keptAs kept
  have price := exact.1.of_keepAmount kept.unitPrice fits.1
  have amount := exact.2.of_keepAmount kept.amount fits.2
  refine ⟨?_, price.2, amount.2⟩
  rw [kept.same, price.1, amount.1]
  simp only [Charge.line, drafted.enrollmentId, drafted.description, drafted.quantity]

/-- A line for a charge of at most twelve digits fits its columns. -/
theorem DraftedAs.fitsColumns (drafted : charge.DraftedAs draft) (kept : draft.KeptAs line)
    (fits : charge.Fits) : line.FitsColumns := by
  have exact := drafted.of_keptAs kept
  have price := kept.unitPrice
  have amount := kept.amount
  rw [exact.1.keepAmount (fits.1.trans (by decide))] at price
  rw [exact.2.keepAmount (fits.2.trans (by decide))] at amount
  exact ⟨⟨_, fits.1, (Except.ok.inj price).symm⟩, ⟨_, fits.2, (Except.ok.inj amount).symm⟩⟩

/-! ## What an invoice carries of charges -/

variable {charges : List Charge} {drafts : List DraftLine} {lines : List InvoiceLine}

/-- Lines that fit their columns are kept exactly as they are charged. -/
theorem lines_eq (drafted : List.Forall₂ DraftedAs charges drafts)
    (kept : List.Forall₂ DraftLine.KeptAs drafts lines)
    (fits : ∀ line ∈ lines, line.FitsColumns) :
    lines.map InvoiceLine.toDraftLine = charges.map Charge.line ∧
      ∀ charge ∈ charges, charge.Fits := by
  induction drafted generalizing lines with
  | nil =>
      cases kept
      exact ⟨rfl, List.forall_mem_nil _⟩
  | cons first rest ih =>
      cases kept with
      | cons keeps others =>
          obtain ⟨same, small⟩ := first.toDraftLine_eq keeps (fits _ List.mem_cons_self)
          obtain ⟨sameOthers, smallOthers⟩ :=
            ih others fun line mem => fits line (List.mem_cons_of_mem _ mem)
          exact ⟨by rw [List.map_cons, List.map_cons, same, sameOthers],
            List.forall_mem_cons.mpr ⟨small, smallOthers⟩⟩

/-- Lines for charges of at most twelve digits fit their columns. -/
theorem fitsColumns_of_fits (drafted : List.Forall₂ DraftedAs charges drafts)
    (kept : List.Forall₂ DraftLine.KeptAs drafts lines) (fits : ∀ charge ∈ charges, charge.Fits) :
    ∀ line ∈ lines, line.FitsColumns := by
  induction drafted generalizing lines with
  | nil =>
      cases kept
      exact List.forall_mem_nil _
  | cons first rest ih =>
      cases kept with
      | cons keeps others =>
          exact List.forall_mem_cons.mpr ⟨first.fitsColumns keeps (fits _ List.mem_cons_self),
            ih others fun charge mem => fits charge (List.mem_cons_of_mem _ mem)⟩

/-- The amounts of lines that are kept are numbers of cents. -/
theorem amounts_isCents (drafted : List.Forall₂ DraftedAs charges drafts)
    (kept : List.Forall₂ DraftLine.KeptAs drafts lines) :
    List.Forall₂ Decimal.IsCents (drafts.map DraftLine.amount) (charges.map Charge.amount) := by
  induction drafted generalizing lines with
  | nil => exact .nil
  | cons first rest ih =>
      cases kept with
      | cons keeps others => exact .cons (first.of_keptAs keeps).2 (ih others)

theorem centsSize_le (fits : ∀ charge ∈ charges, charge.Fits) :
    Decimal.centsSize (charges.map Charge.amount) ≤ charges.length * 10 ^ 12 := by
  induction charges with
  | nil => exact Nat.le_refl _
  | cons charge others ih =>
      have small := (fits charge List.mem_cons_self).2
      have rest := ih fun other mem => fits other (List.mem_cons_of_mem _ mem)
      simp only [Decimal.centsSize, List.map_cons, List.sum_cons, List.length_cons] at rest ⊢
      omega

/-- The total of lines that fit their columns is the sum of the charges. -/
theorem total_isCents {total : Decimal} (drafted : List.Forall₂ DraftedAs charges drafts)
    (kept : List.Forall₂ DraftLine.KeptAs drafts lines) (fits : ∀ charge ∈ charges, charge.Fits)
    (few : charges.length ≤ Table.greatestSize) (sums : DraftLine.total drafts = .ok total) :
    total.IsCents (Charge.total charges) := by
  have size := centsSize_le fits
  rw [Table.greatestSize] at few
  obtain ⟨other, summed, exact⟩ := Decimal.total_cents (amounts_isCents drafted kept) (by omega)
  cases summed.symm.trans sums
  exact exact

end Charge

/-- The lines of an invoice were drafted for charges, and its total for their sum. -/
structure Invoice.Charged (invoice : Invoice) (lines : List InvoiceLine) (charges : List Charge) :
    Prop where
  some : charges ≠ []
  few : charges.length ≤ Table.greatestSize
  carries : ∃ drafts total, List.Forall₂ Charge.DraftedAs charges drafts ∧
    DraftLine.total drafts = .ok total ∧ invoice.Carries lines drafts total

namespace Invoice.Charged

variable {invoice : Invoice} {lines : List InvoiceLine} {charges : List Charge}

theorem lines_ne_nil (charged : invoice.Charged lines charges) : lines ≠ [] := by
  obtain ⟨drafts, total, drafted, -, carries⟩ := charged.carries
  rintro rfl
  cases carries.lines
  cases drafted
  exact charged.some rfl

theorem congr {later : Invoice} (charged : invoice.Charged lines charges)
    (same : later.total = invoice.total) : later.Charged lines charges := by
  obtain ⟨drafts, total, drafted, sums, carries⟩ := charged.carries
  exact ⟨charged.some, charged.few, drafts, total, drafted, sums, carries.lines,
    same ▸ carries.total⟩

/-- Lines that fit their columns are the lines of the charges. -/
theorem lines_eq (charged : invoice.Charged lines charges)
    (fits : ∀ line ∈ lines, line.FitsColumns) :
    lines.map InvoiceLine.toDraftLine = charges.map Charge.line := by
  obtain ⟨drafts, total, drafted, -, carries⟩ := charged.carries
  exact (Charge.lines_eq drafted carries.lines fits).1

/-- Where lines and total fit their columns, the total is the sum of the charges. -/
theorem total_eq (charged : invoice.Charged lines charges)
    (fits : ∀ line ∈ lines, line.FitsColumns) (fitsTotal : invoice.total.FitsColumn) :
    invoice.total = .ofCents (Charge.total charges) := by
  obtain ⟨drafts, total, drafted, sums, carries⟩ := charged.carries
  have small := (Charge.lines_eq drafted carries.lines fits).2
  have exact := Charge.total_isCents drafted carries.lines small charged.few sums
  exact (exact.of_keepsTotal carries.total fitsTotal).1

end Invoice.Charged

/-- An invoice that carries what a student owes is charged what the student is. -/
theorem Store.Owes.charged {store : Store} {studentId : Int} {period : Period}
    {drafts : List DraftLine} {total : Decimal} {invoice : Invoice} {lines : List InvoiceLine}
    (owes : store.Owes studentId period drafts total)
    (few : store.enrollments.length ≤ Table.greatestSize)
    (carries : invoice.Carries lines drafts total) :
    ∃ charges, store.chargesOf studentId period = .ok charges ∧
      invoice.Charged lines charges := by
  obtain ⟨charges, charged, drafted, fewer⟩ := exists_chargesOf owes.lines
  refine ⟨charges, charged, ?_, fewer.trans few, drafts, total, drafted, owes.total, carries⟩
  rintro rfl
  cases drafted
  exact owes.some rfl

end Tuition
