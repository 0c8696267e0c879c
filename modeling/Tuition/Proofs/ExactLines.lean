/-
# Lines and totals are exact or refused

What is billed from records at hand, whose prices are not below nothing, is never rounded away.
Each line has its resolved price rounded to cents and exactly the quantity times it, and the total
is the exact sum of the lines, although arithmetic keeps 28 digits of products and sums only. What
would come to `10 ^ 26` or more, a line or the total, is refused.
-/

import Tuition.Proofs.Charges
import Tuition.Proofs.ExactSums
import Tuition.Proofs.MonthlyOverrides
import Tuition.Proofs.NotNegative

namespace Tuition

open Decimal

/-! ## One line -/

/-- A line charges a quantity at a price: at the cents that are nearest to the price, a half going
up, and at exactly so many times them. -/
structure DraftLine.Charges (line : DraftLine) (quantity : Int) (price : Decimal) : Prop where
  times : line.quantity = quantity
  unitPrice : line.unitPrice.IsCents (nearestCents price.value)
  amount : line.amount.IsCents (quantity * nearestCents price.value)

/-- Price and amount of a line fit into the precision: in cents they have at most 28 digits. -/
structure WithinPrecision (quantity : Int) (price : Decimal) : Prop where
  finite : price.isFinite
  unitPrice : nearestCents price.value < 10 ^ 28
  amount : quantity * nearestCents price.value < 10 ^ 28

namespace DraftLine

variable {enrollmentId quantity : Int} {description : String} {price : Decimal} {line : DraftLine}

/-- A line that is made is exact. -/
theorem charges_of_make (above : price.NotNegative)
    (made : make enrollmentId description quantity price = .ok line) :
    line.enrollmentId = enrollmentId ∧ line.Charges quantity price := by
  obtain ⟨same, rounds, multiplied⟩ := said_of_make made
  obtain ⟨finite, few⟩ := above.few_of_quantize rounds
  obtain ⟨rounded, again, exact⟩ := above.exists_quantize finite few
  obtain rfl : rounded = line.unitPrice := Except.ok.inj (again.symm.trans rounds)
  rw [same]
  exact ⟨rfl, rfl, exact, (multiplied _ exact).1⟩

/-- A line is made exactly if its price and its amount fit into the precision. -/
theorem exists_make_iff (above : price.NotNegative) (least : 0 ≤ quantity) :
    (∃ line, make enrollmentId description quantity price = .ok line) ↔
      WithinPrecision quantity price := by
  constructor
  · rintro ⟨line, made⟩
    obtain ⟨-, rounds, multiplied⟩ := said_of_make made
    obtain ⟨finite, few⟩ := above.few_of_quantize rounds
    have bound := (multiplied _ (charges_of_make above made).2.unitPrice).2
    exact ⟨finite, few, by omega⟩
  · rintro ⟨finite, few, fewTimes⟩
    obtain ⟨unitPrice, rounds, exact⟩ := above.exists_quantize finite few
    have bound : (quantity * nearestCents price.value).natAbs < 10 ^ 28 := by
      have := Int.mul_nonneg least (Int.natCast_nonneg (nearestCents price.value))
      omega
    obtain ⟨product, multiplied, exactProduct⟩ := exact.mul bound
    exact ⟨_, bind_eq_ok_iff.mpr ⟨unitPrice, rounds, bind_eq_ok_iff.mpr ⟨product, multiplied,
      bind_eq_ok_iff.mpr ⟨product, exactProduct.quantize_eq bound, rfl⟩⟩⟩⟩

end DraftLine

/-! ## The lines of enrollments -/

namespace PriceBook

/-- What an enrollment is charged in a period: the lessons attended, each at the price of a
lesson, or one month at its price, which is above nothing. -/
inductive Charged (book : PriceBook (Except Fault)) (period : Period) (enrollment : Enrollment) :
    Int → Decimal → Prop
  | lessons {prices : Prices} {attendance : Option Attendance}
      (mode : enrollment.billingMode = .perLesson)
      (resolved : book.resolve enrollment period = .ok (some prices))
      (attended : book.attendance enrollment.studentId enrollment.courseId period =
        .ok attendance) :
      Charged book period enrollment ((attendance.map Attendance.lessons).getD 0)
        prices.lessonPrice
  | month {prices : Prices} (mode : enrollment.billingMode = .subscription)
      (resolved : book.resolve enrollment period = .ok (some prices))
      (priced : prices.subscriptionPrice.compareZero = .ok .gt) :
      Charged book period enrollment 1 prices.subscriptionPrice

/-- The lines of enrollments in a period: an exact one for each that is
charged, in their order. -/
inductive Drafts (book : PriceBook (Except Fault)) (period : Period) :
    List Enrollment → List DraftLine → Prop
  | nil : Drafts book period [] []
  | line {enrollment others line lines quantity price}
      (charged : book.Charged period enrollment quantity price)
      (owner : line.enrollmentId = enrollment.id) (exact : line.Charges quantity price)
      (rest : Drafts book period others lines) :
      Drafts book period (enrollment :: others) (line :: lines)
  | free {enrollment others lines}
      (free : ∀ quantity price, ¬book.Charged period enrollment quantity price)
      (rest : Drafts book period others lines) :
      Drafts book period (enrollment :: others) lines

/-- What an enrollment could be charged in a period is not below nothing. -/
structure NotNegativeFor (book : PriceBook (Except Fault)) (period : Period)
    (enrollment : Enrollment) : Prop where
  prices : ∀ prices, book.resolve enrollment period = .ok (some prices) →
    prices.lessonPrice.NotNegative ∧ prices.subscriptionPrice.NotNegative
  lessons : ∃ attendance, book.attendance enrollment.studentId enrollment.courseId period =
    .ok attendance ∧ 0 ≤ (attendance.map Attendance.lessons).getD 0

variable {book : PriceBook (Except Fault)} {period : Period} {enrollment : Enrollment}

theorem Charged.exists_resolve {quantity : Int} {price : Decimal}
    (charged : book.Charged period enrollment quantity price) :
    ∃ prices, book.resolve enrollment period = .ok (some prices) := by
  cases charged with
  | lessons _ resolved => exact ⟨_, resolved⟩
  | month _ resolved => exact ⟨_, resolved⟩

theorem Charged.exists_bounds {quantity : Int} {price : Decimal}
    (charged : book.Charged period enrollment quantity price) :
    ∃ days, period.bounds = .ok days := by
  obtain ⟨prices, resolved⟩ := charged.exists_resolve
  obtain ⟨course, -, rest⟩ := bind_eq_ok_iff.mp resolved
  cases course with
  | none => cases rest
  | some course =>
      obtain ⟨reduced, -, rest⟩ := bind_eq_ok_iff.mp rest
      cases bounds : period.bounds with
      | ok days => exact ⟨days, rfl⟩
      | error fault =>
          rw [bounds] at rest
          cases rest

theorem Charged.notNegative {quantity : Int} {price : Decimal}
    (charged : book.Charged period enrollment quantity price)
    (above : book.NotNegativeFor period enrollment) : 0 ≤ quantity ∧ price.NotNegative := by
  cases charged with
  | lessons _ resolved attended =>
      obtain ⟨attendance, found, least⟩ := above.lessons
      obtain rfl := Except.ok.inj (found.symm.trans attended)
      exact ⟨least, (above.prices _ resolved).1⟩
  | month _ resolved => exact ⟨by decide, (above.prices _ resolved).2⟩

/-- The line of an enrollment is made for what is charged. -/
theorem draftLine_of_charged {quantity : Int} {price : Decimal}
    (charged : book.Charged period enrollment quantity price) :
    ∃ description, book.draftLine period enrollment =
      arithmetic ((DraftLine.make enrollment.id description quantity price).map some) := by
  cases charged with
  | @lessons prices attendance mode resolved attended =>
      refine ⟨DraftLine.describe "Lessons" prices.courseName period, ?_⟩
      simp only [draftLine, resolved, mode, attended, bind, Except.bind, DraftLine.ofLessons]
      cases DraftLine.make enrollment.id (DraftLine.describe "Lessons" prices.courseName period)
        ((attendance.map Attendance.lessons).getD 0) prices.lessonPrice <;> rfl
  | @month prices mode resolved priced =>
      refine ⟨DraftLine.describe "Subscription" prices.courseName period, ?_⟩
      simp only [draftLine, resolved, mode, bind, Except.bind, DraftLine.ofSubscription, priced]
      cases DraftLine.make enrollment.id
        (DraftLine.describe "Subscription" prices.courseName period)
        1 prices.subscriptionPrice <;> rfl

/-- If nothing is charged there is no line. -/
theorem draftLine_of_free {found : Option Prices} (above : book.NotNegativeFor period enrollment)
    (resolved : book.resolve enrollment period = .ok found)
    (free : ∀ quantity price, ¬book.Charged period enrollment quantity price) :
    book.draftLine period enrollment = .ok none := by
  simp only [draftLine, resolved, bind, Except.bind]
  cases found with
  | none => rfl
  | some prices =>
      dsimp only
      cases mode : enrollment.billingMode with
      | perLesson =>
          obtain ⟨attendance, attended, -⟩ := above.lessons
          exact absurd (.lessons mode resolved attended) (free _ _)
      | subscription =>
          simp only [DraftLine.ofSubscription]
          rcases (above.prices prices resolved).2.compareZero with priced | priced
          · exact absurd (.month mode resolved priced) (free _ _)
          · rw [priced]
            rfl
      | unknown => rfl

/-- The line of an enrollment is worked out exactly if its prices are and all that is charged
fits into the precision. -/
theorem exists_draftLine_iff (above : book.NotNegativeFor period enrollment) :
    (∃ draft, book.draftLine period enrollment = .ok draft) ↔
      (∃ prices, book.resolve enrollment period = .ok prices) ∧
      ∀ quantity price, book.Charged period enrollment quantity price →
        WithinPrecision quantity price := by
  have made {quantity : Int} {price : Decimal}
      (charged : book.Charged period enrollment quantity price) :
      (∃ draft, book.draftLine period enrollment = .ok draft) ↔
        WithinPrecision quantity price := by
    obtain ⟨least, abovePrice⟩ := charged.notNegative above
    obtain ⟨description, drafts⟩ := draftLine_of_charged charged
    have makes :
        (∃ line, DraftLine.make enrollment.id description quantity price = .ok line) ↔ _ :=
      DraftLine.exists_make_iff abovePrice least
    rw [← makes, drafts]
    simp only [arithmetic_eq_ok_iff, map_eq_ok_iff]
    constructor
    · rintro ⟨draft, line, made, -⟩
      exact ⟨line, made⟩
    · rintro ⟨line, made⟩
      exact ⟨some line, line, made, rfl⟩
  constructor
  · rintro ⟨draft, drafted⟩
    obtain ⟨prices, resolved, -⟩ := bind_eq_ok_iff.mp drafted
    exact ⟨⟨prices, resolved⟩, fun quantity price charged => (made charged).mp ⟨draft, drafted⟩⟩
  · rintro ⟨⟨prices, resolved⟩, within⟩
    by_cases charged : ∃ quantity price, book.Charged period enrollment quantity price
    · obtain ⟨quantity, price, charged⟩ := charged
      exact (made charged).mpr (within quantity price charged)
    · simp only [not_exists] at charged
      exact ⟨none, draftLine_of_free above resolved charged⟩

/-- The line of an enrollment is exact, and there is none exactly if nothing is charged. -/
theorem charges_of_draftLine {draft : Option DraftLine}
    (above : book.NotNegativeFor period enrollment)
    (drafted : book.draftLine period enrollment = .ok draft) :
    (∃ line quantity price, draft = some line ∧ line.enrollmentId = enrollment.id ∧
      book.Charged period enrollment quantity price ∧ line.Charges quantity price) ∨
    draft = none ∧ ∀ quantity price, ¬book.Charged period enrollment quantity price := by
  by_cases charged : ∃ quantity price, book.Charged period enrollment quantity price
  · obtain ⟨quantity, price, charged⟩ := charged
    obtain ⟨description, drafts⟩ := draftLine_of_charged charged
    rw [drafts, arithmetic_eq_ok_iff] at drafted
    obtain ⟨line, made, rfl⟩ := map_eq_ok_iff.mp drafted
    obtain ⟨owner, exact⟩ := DraftLine.charges_of_make (charged.notNegative above).2 made
    exact .inl ⟨line, quantity, price, rfl, owner, charged, exact⟩
  · simp only [not_exists] at charged
    obtain ⟨prices, resolved, -⟩ := bind_eq_ok_iff.mp drafted
    rw [draftLine_of_free above resolved charged] at drafted
    cases drafted
    exact .inr ⟨rfl, charged⟩

/-! ## All lines and their total -/

variable {enrollments : List Enrollment} {lines : List DraftLine}

theorem drafts_of_draftLines (above : ∀ enrollment ∈ enrollments,
    book.NotNegativeFor period enrollment)
    (drafted : book.draftLines period enrollments = .ok lines) :
    book.Drafts period enrollments lines := by
  induction enrollments generalizing lines with
  | nil =>
      cases drafted
      exact .nil
  | cons enrollment others ih =>
      obtain ⟨draft, first, rest⟩ := bind_eq_ok_iff.mp drafted
      obtain ⟨more, next, same⟩ := bind_eq_ok_iff.mp rest
      cases same
      have drafts := ih (fun other mem => above other (List.mem_cons_of_mem _ mem)) next
      rcases charges_of_draftLine (above enrollment List.mem_cons_self) first with
        ⟨line, quantity, price, rfl, owner, charged, exact⟩ | ⟨rfl, free⟩
      · exact .line charged owner exact drafts
      · exact .free free drafts

theorem exists_draftLines_iff : (∃ lines, book.draftLines period enrollments = .ok lines) ↔
    ∀ enrollment ∈ enrollments, ∃ draft, book.draftLine period enrollment = .ok draft := by
  induction enrollments with
  | nil => exact iff_of_true ⟨[], rfl⟩ nofun
  | cons enrollment others ih =>
      rw [List.forall_mem_cons, ← ih]
      constructor
      · rintro ⟨lines, drafted⟩
        obtain ⟨draft, first, rest⟩ := bind_eq_ok_iff.mp drafted
        obtain ⟨more, next, -⟩ := bind_eq_ok_iff.mp rest
        exact ⟨⟨draft, first⟩, more, next⟩
      · rintro ⟨⟨draft, first⟩, more, next⟩
        exact ⟨_, bind_eq_ok_iff.mpr ⟨draft, first, bind_eq_ok_iff.mpr ⟨more, next, rfl⟩⟩⟩

end PriceBook

/-- The sum of the amounts of lines in cents, which no digits are dropped from. -/
def DraftLine.exactCents (lines : List DraftLine) : Int :=
  (lines.map fun line => Amount.centsOf line.amount).sum

namespace PriceBook

variable {book : PriceBook (Except Fault)} {period : Period} {enrollments : List Enrollment}
  {lines : List DraftLine}

/-- The amounts of lines are numbers of cents that are not below nothing. -/
theorem Drafts.exists_cents (drafts : book.Drafts period enrollments lines)
    (above : ∀ enrollment ∈ enrollments, book.NotNegativeFor period enrollment) :
    ∃ cents : List Nat,
      List.Forall₂ (fun amount (more : Nat) => amount.IsCents more)
        (lines.map DraftLine.amount) cents ∧
        DraftLine.exactCents lines = cents.sum := by
  induction drafts with
  | nil => exact ⟨[], .nil, rfl⟩
  | @line enrollment others line lines quantity price charged owner exact rest ih =>
      obtain ⟨cents, amounts, sum⟩ := ih fun other mem => above other (List.mem_cons_of_mem _ mem)
      obtain ⟨least, -⟩ := charged.notNegative (above enrollment List.mem_cons_self)
      obtain ⟨amount, product⟩ := Int.eq_ofNat_of_zero_le
        (Int.mul_nonneg least (Int.natCast_nonneg (nearestCents price.value)))
      have own : line.amount.IsCents amount := product ▸ exact.amount
      have found : Amount.centsOf line.amount = amount := by
        obtain ⟨_, _, shape, same⟩ := own
        rw [shape]
        exact same
      refine ⟨amount :: cents, .cons own amounts, ?_⟩
      simp only [DraftLine.exactCents, List.map_cons, List.sum_cons] at sum ⊢
      rw [found, sum]
      rfl
  | free _ _ ih => exact ih fun other mem => above other (List.mem_cons_of_mem _ mem)

/-! ## Faults -/

/-- If the computation fails, decimal arithmetic has refused a result. -/
def FailsInArithmetic {α : Type} (result : Except Fault α) : Prop :=
  ∀ fault, result = .error fault → ∃ refused, fault = .arithmetic refused

theorem failsInArithmetic_ok {α : Type} (value : α) : FailsInArithmetic (.ok value) :=
  nofun

theorem failsInArithmetic_arithmetic {α : Type} (result : Except Decimal.Fault α) :
    FailsInArithmetic (arithmetic result) := by
  intro fault failed
  cases result with
  | ok => cases failed
  | error refused =>
      cases failed
      exact ⟨refused, rfl⟩

theorem FailsInArithmetic.bind {α β : Type} {first : Except Fault α} {next : α → Except Fault β}
    (begins : FailsInArithmetic first) (continues : ∀ value, FailsInArithmetic (next value)) :
    FailsInArithmetic (first >>= next) := by
  cases first with
  | error fault =>
      intro same failed
      cases failed
      exact begins fault rfl
  | ok value => exact continues value

section Records

variable {courses : List Course} {overrides : List PriceOverride} {attendance : List Attendance}

/-- Records that are at hand are found, so in a period whose days exist
only arithmetic can fail. -/
theorem failsInArithmetic_draftLine {days : Date × Date} (bounds : period.bounds = .ok days)
    (enrollment : Enrollment) :
    FailsInArithmetic ((ofRecords courses overrides attendance).draftLine period enrollment) := by
  have resolves :
      FailsInArithmetic ((ofRecords courses overrides attendance).resolve enrollment period) := by
    refine .bind (failsInArithmetic_ok _) fun found => ?_
    cases found with
    | none => exact failsInArithmetic_ok _
    | some course =>
        refine .bind (failsInArithmetic_arithmetic _) fun prices => ?_
        rw [bounds]
        exact .bind (failsInArithmetic_ok _) fun _ => failsInArithmetic_ok _
  refine .bind resolves fun found => ?_
  cases found with
  | none => exact failsInArithmetic_ok _
  | some prices =>
      dsimp only
      cases enrollment.billingMode with
      | perLesson =>
          exact .bind (failsInArithmetic_ok _) fun _ =>
            .bind (failsInArithmetic_arithmetic _) fun _ => failsInArithmetic_ok _
      | subscription => exact failsInArithmetic_arithmetic _
      | unknown => exact failsInArithmetic_ok _

theorem failsInArithmetic_draftLines {days : Date × Date} (bounds : period.bounds = .ok days) :
    FailsInArithmetic ((ofRecords courses overrides attendance).draftLines period
      enrollments) := by
  induction enrollments with
  | nil => exact failsInArithmetic_ok _
  | cons enrollment others ih =>
      exact .bind (failsInArithmetic_draftLine bounds enrollment) fun _ =>
        .bind ih fun _ => failsInArithmetic_ok _

/-- No price and no number of lessons is below nothing, and every discount is a percentage. All of
them may be of any size and have any number of digits. -/
structure Chargeable (courses : List Course) (overrides : List PriceOverride)
    (attendance : List Attendance) (enrollments : List Enrollment) : Prop where
  courses : ∀ course ∈ courses, course.lessonPrice.NotNegative ∧
    course.subscriptionPrice.NotNegative
  overrides : ∀ override ∈ overrides, (∀ price ∈ override.lessonPrice, price.NotNegative) ∧
    ∀ price ∈ override.subscriptionPrice, price.NotNegative
  lessons : ∀ month ∈ attendance, 0 ≤ month.lessons
  discounts : ∀ enrollment ∈ enrollments, enrollment.discount.IsPercentage

theorem Chargeable.notNegativeFor (sound : Chargeable courses overrides attendance enrollments)
    (period : Period) :
    ∀ enrollment ∈ enrollments,
      (ofRecords courses overrides attendance).NotNegativeFor period enrollment := by
  intro enrollment mem
  constructor
  · intro prices resolved
    refine of_resolve (fun course found price one _ reduces => ?_) ?_ resolved
    · obtain ⟨lesson, subscription⟩ :=
        sound.courses course (List.mem_of_find?_eq_some (Except.ok.inj found))
      refine NotNegative.discounted ?_ (sound.discounts enrollment mem) reduces
      rcases List.mem_pair.mp one with rfl | rfl
      · exact lesson
      · exact subscription
    · intro day found listed override among
      cases listed
      exact sound.overrides override (PriceOverride.mem_startingBy.mp among).1
  · refine ⟨_, rfl, ?_⟩
    cases found : attendance.find? (·.isOf enrollment.studentId enrollment.courseId period) with
    | none => exact Int.le_refl _
    | some month => exact sound.lessons month (List.mem_of_find?_eq_some found)

end Records

/-- Lines and totals from a book are exact or refused. -/
structure ExactOrRefused (book : PriceBook (Except Fault)) (period : Period)
    (enrollments : List Enrollment) : Prop where
  /-- The lines that are drafted are exact, one for each enrollment that is charged. -/
  lines : ∀ lines, book.draftLines period enrollments = .ok lines →
    book.Drafts period enrollments lines
  /-- Lines are drafted exactly if all prices are worked out and all that is charged fits into the
  precision. -/
  drafted : (∃ lines, book.draftLines period enrollments = .ok lines) ↔
    ∀ enrollment ∈ enrollments, (∃ prices, book.resolve enrollment period = .ok prices) ∧
      ∀ quantity price, book.Charged period enrollment quantity price →
        WithinPrecision quantity price
  /-- An amount of `10 ^ 26` or more is refused. -/
  refused : ∀ enrollment ∈ enrollments, ∀ quantity price,
    book.Charged period enrollment quantity price →
      10 ^ 28 ≤ quantity * nearestCents price.value →
      ∃ fault, book.draftLines period enrollments = .error (.arithmetic fault)
  /-- The total of the lines is their exact sum. -/
  total : ∀ lines, book.draftLines period enrollments = .ok lines →
    ∀ total, DraftLine.total lines = .ok total → total.IsCents (DraftLine.exactCents lines)
  /-- The total is given exactly if the exact sum is less than `10 ^ 26`. -/
  given : ∀ lines, book.draftLines period enrollments = .ok lines →
    ((∃ total, DraftLine.total lines = .ok total) ↔ DraftLine.exactCents lines < 10 ^ 28)
  /-- A sum of `10 ^ 26` or more is refused. -/
  refusedTotal : ∀ lines, book.draftLines period enrollments = .ok lines →
    10 ^ 28 ≤ DraftLine.exactCents lines → ∃ fault, DraftLine.total lines = .error fault

/-- Whatever prices, discounts and numbers of lessons are at hand, of any size and with any number
of digits: as long as none is below nothing, lines and totals are exact or refused. -/
theorem lines_exact_or_refused {courses : List Course} {overrides : List PriceOverride}
    {attendance : List Attendance} {enrollments : List Enrollment}
    (sound : Chargeable courses overrides attendance enrollments) (period : Period) :
    (ofRecords courses overrides attendance).ExactOrRefused period enrollments := by
  have above := sound.notNegativeFor period
  have drafted :
      (∃ lines, (ofRecords courses overrides attendance).draftLines period enrollments =
        .ok lines) ↔ _ :=
    exists_draftLines_iff.trans (forall₂_congr fun enrollment mem =>
      exists_draftLine_iff (above enrollment mem))
  have totals {lines : List DraftLine}
      (made : (ofRecords courses overrides attendance).draftLines period enrollments =
        .ok lines) :
      (∀ total, DraftLine.total lines = .ok total → total.IsCents (DraftLine.exactCents lines)) ∧
        ((∃ total, DraftLine.total lines = .ok total) ↔
          DraftLine.exactCents lines < 10 ^ 28) := by
    obtain ⟨cents, amounts, sum⟩ := (drafts_of_draftLines above made).exists_cents above
    rw [sum]
    refine ⟨fun total given => (isCents_of_total amounts given).1,
      (exists_total_iff amounts).trans ?_⟩
    exact_mod_cast Iff.rfl
  refine { lines := fun _ => drafts_of_draftLines above, drafted, refused := ?_,
           total := fun _ made => (totals made).1, given := fun _ made => (totals made).2,
           refusedTotal := ?_ }
  · intro enrollment mem quantity price charged large
    cases made : (ofRecords courses overrides attendance).draftLines period enrollments with
    | ok lines =>
        have within := (drafted.mp ⟨lines, made⟩ enrollment mem).2 quantity price charged
        exact absurd within.amount (Int.not_lt.mpr large)
    | error fault =>
        obtain ⟨days, bounds⟩ := charged.exists_bounds
        obtain ⟨refused, rfl⟩ := failsInArithmetic_draftLines bounds fault made
        exact ⟨refused, rfl⟩
  · intro lines made large
    cases summed : DraftLine.total lines with
    | ok total => exact absurd ((totals made).2.mp ⟨total, summed⟩) (Int.not_lt.mpr large)
    | error fault => exact ⟨fault, rfl⟩

/-- A course whose lessons cost half a cent more than a number of cents. -/
def sampleCourse : Course :=
  ⟨1, "Piano", .individual, .finite false 20005 (-3), .ofInt 0, true⟩

/-- A price of `10 ^ 25` for the lessons of the second enrollment. -/
def sampleOverride : PriceOverride :=
  ⟨1, 2, PriceOverride.sample.validFrom, none, some (.finite false 1 25), none⟩

/-- Ten lessons. -/
def sampleMonth : Attendance :=
  ⟨1, 1, 1, 2024, 1, 10, false⟩

/-- An enrollment with a discount of a third, to 35 digits. -/
def sampleThird : Enrollment :=
  ⟨1, 1, 1, .perLesson, .finite false 33333333333333333333333333333333333 (-33), ""⟩

/-- An enrollment without a discount, for which the override holds. -/
def sampleFull : Enrollment :=
  ⟨2, 1, 1, .perLesson, .ofInt 0, ""⟩

/-- Ten lessons at two thirds of 20.005 come to 133.40, and ten lessons at
`10 ^ 25` are refused. -/
theorem lines_exact_or_refused_sample :
    let book := ofRecords [sampleCourse] [sampleOverride] [sampleMonth]
    Chargeable [sampleCourse] [sampleOverride] [sampleMonth] [sampleThird, sampleFull] ∧
    (∃ lines total, book.draftLines ⟨2024, 1⟩ [sampleThird] = .ok lines ∧
      DraftLine.total lines = .ok total ∧ total.IsCents 13340) ∧
    ∃ fault, book.draftLines ⟨2024, 1⟩ [sampleThird, sampleFull] =
      .error (.arithmetic fault) := by
  have third : sampleThird.discount.IsPercentage :=
    ⟨rfl, by norm_num [sampleThird, value, magnitude],
      by norm_num [sampleThird, value, magnitude]⟩
  have full : sampleFull.discount.IsPercentage :=
    ⟨rfl, by simp [sampleFull, ofInt, value, magnitude],
      by simp [sampleFull, ofInt, value, magnitude]⟩
  have positive (coefficient : Nat) (exponent : Int) :
      (Decimal.finite false coefficient exponent).NotNegative := fun sign => Bool.noConfusion sign
  have sound {enrollments : List Enrollment} (among : ∀ enrollment ∈ enrollments,
      enrollment.discount.IsPercentage) :
      Chargeable [sampleCourse] [sampleOverride] [sampleMonth] enrollments := by
    refine { courses := ?_, overrides := ?_, lessons := ?_, discounts := among }
    · exact List.forall_mem_singleton.mpr ⟨positive _ _, positive _ _⟩
    · refine List.forall_mem_singleton.mpr ⟨fun price given => ?_, fun price given => ?_⟩
      · rw [← Option.mem_some_iff.mp given]
        exact positive _ _
      · exact absurd given (Option.not_mem_none price)
    · exact List.forall_mem_singleton.mpr (by decide)
  have both : ∀ enrollment ∈ [sampleThird, sampleFull], enrollment.discount.IsPercentage :=
    List.forall_mem_cons.mpr ⟨third, List.forall_mem_singleton.mpr full⟩
  refine ⟨sound both, ?_, ?_⟩
  · have exact := lines_exact_or_refused (sound (List.forall_mem_singleton.mpr third)) ⟨2024, 1⟩
    have made : (ofRecords [sampleCourse] [sampleOverride] [sampleMonth]).draftLines ⟨2024, 1⟩
        [sampleThird] =
          .ok [⟨1, "Lessons: Piano (01.2024)", 10, .ofCents 1334, .ofCents 13340⟩] := by
      decide +kernel
    obtain ⟨total, summed⟩ := (exact.given _ made).mpr (by decide)
    exact ⟨_, total, made, summed, exact.total _ made total summed⟩
  · have resolved : (ofRecords [sampleCourse] [sampleOverride] [sampleMonth]).resolve sampleFull
        ⟨2024, 1⟩ = .ok (some ⟨.finite false 1 25, .ofCents 0, "Piano"⟩) := by
      decide +kernel
    have charged : (ofRecords [sampleCourse] [sampleOverride] [sampleMonth]).Charged ⟨2024, 1⟩
        sampleFull 10 (.finite false 1 25) := .lessons rfl resolved rfl
    have cents : nearestCents (Decimal.finite false 1 25).value = 10 ^ 27 :=
      (toHundredths_eq 1 25).symm
    refine (lines_exact_or_refused (sound both) ⟨2024, 1⟩).refused sampleFull (by simp) _ _
      charged ?_
    rw [cents]
    decide

end PriceBook
end Tuition
