/-
# Which prices an enrollment has

The prices of an enrollment in a period have a plain description. Of all its overrides whose
window overlaps the period the greatest is taken, by its first day and then by its key; each price
that it gives replaces the discounted one of the course, and no other override counts. Looking the
overrides up in order and stopping at the first that still holds comes to the same.

Keys decide only between windows that begin on one day. Windows that share no day begin on
different ones, unless one of them ends before it begins; so where there is no such window the
prices do not depend on keys.
-/

import Tuition.Proofs.Accounts
import Tuition.Proofs.Discounts
import Tuition.Proofs.MonthlyOverrides

namespace Tuition

open Tx

/-! ## The greatest override -/

namespace PriceOverride

/-- An override starts before another, or on the same day under a key that is not greater. -/
def AtMost (override other : PriceOverride) : Prop :=
  override.validFrom < other.validFrom ∨
    override.validFrom = other.validFrom ∧ override.id ≤ other.id

instance (override other : PriceOverride) : Decidable (override.AtMost other) :=
  inferInstanceAs (Decidable (_ ∨ _))

theorem atMost_of_latestFirst {override other : PriceOverride}
    (before : override.latestFirst other) : other.AtMost override := by
  unfold latestFirst at before
  split at before
  · next same => exact .inr ⟨Date.eq_of_key same.symm, of_decide_eq_true before⟩
  · exact .inl (of_decide_eq_true before)

theorem atMost_refl (override : PriceOverride) : override.AtMost override :=
  .inr ⟨rfl, Int.le_refl _⟩

theorem AtMost.validFrom_le {override other : PriceOverride} (most : override.AtMost other) :
    override.validFrom ≤ other.validFrom := by
  rcases most with before | ⟨same, -⟩
  · exact Nat.le_of_lt before
  · exact same ▸ Nat.le_refl _

/-- Keys tell apart overrides that start on one day. -/
theorem AtMost.id_eq {override other : PriceOverride} (most : override.AtMost other)
    (least : other.AtMost override) : override.id = other.id := by
  have notLater := most.validFrom_le
  have notEarlier := least.validFrom_le
  rcases most with before | ⟨-, noGreater⟩
  · exact absurd notEarlier (Nat.not_le.mpr before)
  rcases least with after | ⟨-, noLess⟩
  · exact absurd notLater (Nat.not_le.mpr after)
  · exact Int.le_antisymm noGreater noLess

/-- An override without its key. -/
def unkeyed (override : PriceOverride) : PriceOverride :=
  { override with id := 0 }

theorem window_eq_of_unkeyed {override other : PriceOverride}
    (same : override.unkeyed = other.unkeyed) : override.window = other.window := by
  have windows : override.unkeyed.window = other.unkeyed.window := congrArg window same
  exact windows

end PriceOverride

namespace Store

variable {store : Store} {enrollmentId : Int} {first last : Date} {override : PriceOverride}

/-- An override of an enrollment whose window overlaps a span of days. -/
structure OverlapsSpan (store : Store) (enrollmentId : Int) (span : Window)
    (override : PriceOverride) : Prop where
  mem : override ∈ store.overrides
  owner : override.enrollmentId = enrollmentId
  overlaps : override.window.overlaps span

/-- The greatest override of an enrollment whose window overlaps a span of days. -/
structure IsGreatestIn (store : Store) (enrollmentId : Int) (span : Window)
    (override : PriceOverride) : Prop extends store.OverlapsSpan enrollmentId span override where
  greatest : ∀ other, store.OverlapsSpan enrollmentId span other → other.AtMost override

/-- The overrides that are tried and still hold are those that overlap the days of the period. -/
theorem overlapsSpan_iff : store.OverlapsSpan enrollmentId ⟨first, some last⟩ override ↔
    override ∈ PriceOverride.startingBy store.overrides enrollmentId last ∧
      override.window.reaches first := by
  have both : override.window.overlaps ⟨first, some last⟩ =
      (decide (override.validFrom ≤ last) && override.window.reaches first) := rfl
  rw [PriceOverride.mem_startingBy]
  constructor
  · rintro ⟨mem, owner, overlaps⟩
    rw [both, Bool.and_eq_true, decide_eq_true_eq] at overlaps
    exact ⟨⟨mem, owner, overlaps.1⟩, overlaps.2⟩
  · rintro ⟨⟨mem, owner, started⟩, reaches⟩
    refine ⟨mem, owner, ?_⟩
    rw [both, Bool.and_eq_true, decide_eq_true_eq]
    exact ⟨started, reaches⟩

/-- The override that is taken for a period is the greatest that overlaps it. -/
theorem isGreatestIn_of_find? (found : (PriceOverride.startingBy store.overrides enrollmentId
    last).find? (·.window.reaches first) = some override) :
    store.IsGreatestIn enrollmentId ⟨first, some last⟩ override := by
  have holds := List.find?_some found
  refine ⟨overlapsSpan_iff.mpr ⟨List.mem_of_find?_eq_some found, holds⟩, ?_⟩
  have sorted := PriceOverride.startingBy_sorted store.overrides enrollmentId last
  intro other overlaps
  obtain ⟨tried, reaches⟩ := overlapsSpan_iff.mp overlaps
  exact rel_of_find? (sorted.imp PriceOverride.atMost_of_latestFirst) PriceOverride.atMost_refl
    found tried reaches

/-- Where no override is taken for a period, none overlaps it. -/
theorem not_overlapsSpan_of_find? (found : (PriceOverride.startingBy store.overrides enrollmentId
    last).find? (·.window.reaches first) = none) (override : PriceOverride) :
    ¬store.OverlapsSpan enrollmentId ⟨first, some last⟩ override := by
  intro overlaps
  obtain ⟨tried, reaches⟩ := overlapsSpan_iff.mp overlaps
  exact List.find?_eq_none.mp found override tried reaches

/-- Where keys are told apart, the greatest override that overlaps a period is
the one that is taken. -/
theorem IsGreatestIn.find? (ordered : Table.Ordered store.overrides)
    (greatest : store.IsGreatestIn enrollmentId ⟨first, some last⟩ override) :
    (PriceOverride.startingBy store.overrides enrollmentId last).find? (·.window.reaches first) =
      some override := by
  cases found : (PriceOverride.startingBy store.overrides enrollmentId last).find?
      (·.window.reaches first) with
  | none => exact absurd greatest.toOverlapsSpan (not_overlapsSpan_of_find? found override)
  | some taken =>
      have other := isGreatestIn_of_find? found
      have same := (other.greatest override greatest.toOverlapsSpan).id_eq
        (greatest.greatest taken other.toOverlapsSpan)
      rw [ordered.eq_of_key_eq greatest.mem other.mem same]

/-! ## Keys -/

/-- The overrides of an enrollment. -/
def overridesOf (store : Store) (enrollmentId : Int) : List PriceOverride :=
  store.overrides.filter (·.enrollmentId == enrollmentId)

theorem mem_overridesOf : override ∈ store.overridesOf enrollmentId ↔
    override ∈ store.overrides ∧ override.enrollmentId = enrollmentId := by
  simp [overridesOf]

end Store

/-- No two windows share a day, and of two that begin on one day neither ends before it begins. -/
def PriceOverride.Disjoint (overrides : List PriceOverride) : Prop :=
  overrides.Pairwise fun first second => first.window.Apart second.window ∧
    (first.validFrom = second.validFrom → first.window.NonEmpty ∧ second.window.NonEmpty)

/-- Disjoint windows begin on different days. -/
theorem PriceOverride.Disjoint.starts {overrides : List PriceOverride}
    (disjoint : Disjoint overrides) :
    overrides.Pairwise fun first second => first.validFrom ≠ second.validFrom := by
  refine disjoint.imp fun {first second} both same => ?_
  obtain ⟨nonEmpty, nonEmptySecond⟩ := both.2 same
  refine both.1 first.validFrom ⟨Window.contains_iff.mpr ⟨Nat.le_refl _, nonEmpty⟩, ?_⟩
  rw [same]
  exact Window.contains_iff.mpr ⟨Nat.le_refl _, nonEmptySecond⟩

/-- Disjoint windows that begin on one day are the same. -/
theorem PriceOverride.Disjoint.eq_of_validFrom {overrides : List PriceOverride}
    {override other : PriceOverride} (disjoint : Disjoint overrides) (mem : override ∈ overrides)
    (memOther : other ∈ overrides) (same : override.validFrom = other.validFrom) :
    override = other := by
  by_contra different
  have symmetric : Std.Symm fun first second : PriceOverride =>
      first.validFrom ≠ second.validFrom :=
    ⟨fun _ _ unequal => unequal.symm⟩
  exact disjoint.starts.forall mem memOther different same

namespace Store

variable {store other : Store} {enrollmentId : Int} {first last : Date} {override : PriceOverride}

/-- An override that overlaps has a twin in a store with the same overrides but for their keys. -/
theorem OverlapsSpan.exists_twin
    (same : ((store.overridesOf enrollmentId).map PriceOverride.unkeyed).Perm
      ((other.overridesOf enrollmentId).map PriceOverride.unkeyed))
    {span : Window} (overlaps : store.OverlapsSpan enrollmentId span override) :
    ∃ twin, other.OverlapsSpan enrollmentId span twin ∧ twin.unkeyed = override.unkeyed := by
  have mem : override.unkeyed ∈ (store.overridesOf enrollmentId).map PriceOverride.unkeyed :=
    List.mem_map_of_mem (mem_overridesOf.mpr ⟨overlaps.mem, overlaps.owner⟩)
  obtain ⟨twin, among, twins⟩ := List.mem_map.mp (same.mem_iff.mp mem)
  obtain ⟨listed, owner⟩ := mem_overridesOf.mp among
  have window := PriceOverride.window_eq_of_unkeyed twins
  exact ⟨twin, ⟨listed, owner, window ▸ overlaps.overlaps⟩, twins⟩

/-- Where windows are disjoint, which override is taken does not depend on keys. -/
theorem map_unkeyed_find?
    (same : ((store.overridesOf enrollmentId).map PriceOverride.unkeyed).Perm
      ((other.overridesOf enrollmentId).map PriceOverride.unkeyed))
    (disjoint : PriceOverride.Disjoint (store.overridesOf enrollmentId)) :
    ((PriceOverride.startingBy other.overrides enrollmentId last).find?
        (·.window.reaches first)).map PriceOverride.unkeyed =
      ((PriceOverride.startingBy store.overrides enrollmentId last).find?
        (·.window.reaches first)).map PriceOverride.unkeyed := by
  cases found : (PriceOverride.startingBy store.overrides enrollmentId last).find?
      (·.window.reaches first) with
  | none =>
      cases foundOther : (PriceOverride.startingBy other.overrides enrollmentId last).find?
          (·.window.reaches first) with
      | none => rfl
      | some taken =>
          obtain ⟨twin, overlaps, -⟩ :=
            (isGreatestIn_of_find? foundOther).toOverlapsSpan.exists_twin same.symm
          exact absurd overlaps (not_overlapsSpan_of_find? found twin)
  | some override =>
      have greatest := isGreatestIn_of_find? found
      obtain ⟨twin, overlaps, twins⟩ := greatest.toOverlapsSpan.exists_twin same
      cases foundOther : (PriceOverride.startingBy other.overrides enrollmentId last).find?
          (·.window.reaches first) with
      | none => exact absurd overlaps (not_overlapsSpan_of_find? foundOther twin)
      | some taken =>
          have greatestOther := isGreatestIn_of_find? foundOther
          obtain ⟨back, overlapsBack, backTwins⟩ :=
            greatestOther.toOverlapsSpan.exists_twin same.symm
          -- each of the two starts no earlier than the twin of the other
          have notEarlier := (greatestOther.greatest twin overlaps).validFrom_le
          have notLater := (greatest.greatest back overlapsBack).validFrom_le
          have start : twin.validFrom = override.validFrom :=
            congrArg Window.start (PriceOverride.window_eq_of_unkeyed twins)
          have startBack : back.validFrom = taken.validFrom :=
            congrArg Window.start (PriceOverride.window_eq_of_unkeyed backTwins)
          rw [start] at notEarlier
          rw [startBack] at notLater
          have equal : override.validFrom = back.validFrom :=
            (Date.eq_of_key (Nat.le_antisymm notEarlier notLater)).trans startBack.symm
          obtain rfl := disjoint.eq_of_validFrom
            (mem_overridesOf.mpr ⟨greatest.mem, greatest.owner⟩)
            (mem_overridesOf.mpr ⟨overlapsBack.mem, overlapsBack.owner⟩) equal
          exact congrArg some backTwins.symm

end Store

/-! ## Prices -/

/-- What an enrollment pays of a price: the price less the discount in
percent, rounded to cents. -/
def Enrollment.shareOf (enrollment : Enrollment) (price : Decimal) : Int :=
  Decimal.roundedCents (price.value * (1 - enrollment.discount.value / 100))

namespace Store

/-- The override that counts in a span of days: the greatest that overlaps it,
or none if none does. -/
def Counts (store : Store) (enrollmentId : Int) (span : Window) : Option PriceOverride → Prop
  | none => ∀ override, ¬store.OverlapsSpan enrollmentId span override
  | some override => store.IsGreatestIn enrollmentId span override

/-- The prices of an enrollment in a span of days: each is the one that the override gives which
counts, or else that of the course less the discount. -/
def ArePrices (store : Store) (enrollment : Enrollment) (span : Window) (course : Course)
    (prices : Prices) : Prop :=
  ∃ counting lesson subscription, store.Counts enrollment.id span counting ∧
    lesson.IsCents (enrollment.shareOf course.lessonPrice) ∧
    subscription.IsCents (enrollment.shareOf course.subscriptionPrice) ∧
    prices =
      { lessonPrice :=
          (counting.bind fun override => (Row.shown override).lessonPrice).getD lesson
        subscriptionPrice :=
          (counting.bind fun override => (Row.shown override).subscriptionPrice).getD subscription
        courseName := course.name }

/-- The keys that pricing an enrollment asks for fit into words, and its discount and the prices
of its course fit their columns. -/
structure CanPrice (store : Store) (enrollment : Enrollment) : Prop where
  key : Word.fits enrollment.id
  course : Word.fits enrollment.courseId
  discount : enrollment.discount.InScale 5
  prices : ∀ course ∈ store.courses, course.id = enrollment.courseId →
    course.lessonPrice.FitsColumn ∧ course.subscriptionPrice.FitsColumn

end Store

theorem Decimal.FitsColumn.inScale {amount : Decimal} (fits : amount.FitsColumn) :
    amount.InScale 12 := by
  obtain ⟨cents, few, rfl⟩ := fits
  exact ⟨_, _, _, rfl, few, le_rfl, by decide⟩

/-- A course whose prices fit their columns has prices less a discount. -/
theorem Prices.exists_ofCourse {course : Course} {enrollment : Enrollment}
    (lesson : course.lessonPrice.FitsColumn) (subscription : course.subscriptionPrice.FitsColumn)
    (discount : enrollment.discount.InScale 5) :
    ∃ base, ofCourse (Row.shown course) enrollment.discount = .ok base ∧
      base.lessonPrice.IsCents (enrollment.shareOf course.lessonPrice) ∧
      base.subscriptionPrice.IsCents (enrollment.shareOf course.subscriptionPrice) ∧
      base.courseName = course.name := by
  obtain ⟨first, discounted, cents⟩ := Money.exists_discounted lesson.inScale discount
  obtain ⟨second, discountedSecond, centsSecond⟩ :=
    Money.exists_discounted subscription.inScale discount
  rw [← lesson.shown_eq] at discounted
  rw [← subscription.shown_eq] at discountedSecond
  exact ⟨⟨first, second, course.name⟩,
    bind_eq_ok_iff.mpr ⟨first, discounted, bind_eq_ok_iff.mpr ⟨second, discountedSecond, rfl⟩⟩,
    cents, centsSecond, rfl⟩

namespace Store

variable {store other : Store} {enrollment : Enrollment} {period : Period} {first last : Date}

theorem course_eq (fits : Word.fits enrollment.courseId) :
    store.priceBook.course enrollment.courseId =
      .ok ((Table.find? store.courses enrollment.courseId).map Row.shown) := by
  have words : Table.requireWords [enrollment.courseId] = .ok () := by
    simp [Table.requireWords, fits]
  exact bind_eq_ok_iff.mpr ⟨(), words, rfl⟩

/-- An enrollment whose course is missing has no prices. -/
theorem resolve_of_missing (fits : Word.fits enrollment.courseId)
    (missing : Table.find? store.courses enrollment.courseId = none) :
    store.priceBook.resolve enrollment period = .ok none := by
  refine bind_eq_ok_iff.mpr ⟨none, ?_, rfl⟩
  rw [course_eq fits, missing]
  rfl

/-- The override that is taken for a period is the one that counts in its days. -/
theorem counts_find? (store : Store) (enrollmentId : Int) (first last : Date) :
    store.Counts enrollmentId ⟨first, some last⟩ ((PriceOverride.startingBy store.overrides
      enrollmentId last).find? (·.window.reaches first)) := by
  cases found : (PriceOverride.startingBy store.overrides enrollmentId last).find?
      (·.window.reaches first) with
  | none => exact not_overlapsSpan_of_find? found
  | some override => exact isGreatestIn_of_find? found

/-- The discounted prices of the course, replaced by those of the override that counts, are the
prices of the enrollment. -/
theorem arePrices_replaced {span : Window} {counting : Option PriceOverride} {course : Course}
    {base : Prices} (counts : store.Counts enrollment.id span counting)
    (lesson : base.lessonPrice.IsCents (enrollment.shareOf course.lessonPrice))
    (subscription : base.subscriptionPrice.IsCents (enrollment.shareOf course.subscriptionPrice))
    (name : base.courseName = course.name) :
    store.ArePrices enrollment span course
      (counting.elim base fun override => base.replacedBy (Row.shown override)) := by
  refine ⟨counting, base.lessonPrice, base.subscriptionPrice, counts, lesson, subscription, ?_⟩
  rw [← name]
  cases counting <;> rfl

/-- Which prices an override leaves does not depend on its key. -/
theorem elim_replaced_congr {taken takenOther : Option PriceOverride} (base : Prices)
    (same : takenOther.map PriceOverride.unkeyed = taken.map PriceOverride.unkeyed) :
    takenOther.elim base (fun override => base.replacedBy (Row.shown override)) =
      taken.elim base fun override => base.replacedBy (Row.shown override) := by
  have unkeyed (taken : Option PriceOverride) :
      taken.elim base (fun override => base.replacedBy (Row.shown override)) =
        (taken.map PriceOverride.unkeyed).elim base fun override =>
          base.replacedBy (Row.shown override) := by
    cases taken <;> rfl
  rw [unkeyed, same, ← unkeyed]

end Store

/-- The prices of an enrollment in a period. There are none exactly if its course is missing.
Otherwise each is the one that the greatest override gives of all whose windows overlap the
period, by first day and key, and the discounted price of the course where that override
gives none or none overlaps. Where the windows are disjoint and of two that begin on one day
neither ends before it begins, keys make no difference: other keys, so another order as well,
leave the same prices. -/
theorem prices_resolved {world : World} (calm : world.Calm) {enrollment : Enrollment}
    (fits : world.store.CanPrice enrollment) {period : Period} (valid : period.accepts) :
    ∃ first last result, period.bounds = .ok (first, last) ∧
      (∀ day : Date, day.IsIn period ↔ first ≤ day ∧ day ≤ last) ∧
      ((session (Access.priceBook.resolve enrollment period)).perform world).1 = .ok result ∧
      (result = none ↔ ∀ course ∈ world.store.courses, course.id ≠ enrollment.courseId) ∧
      (∀ prices, result = some prices → ∃ course ∈ world.store.courses,
        course.id = enrollment.courseId ∧
        world.store.ArePrices enrollment ⟨first, some last⟩ course prices) ∧
      ∀ other : World, other.Calm → other.store.courses = world.store.courses →
        ((world.store.overridesOf enrollment.id).map PriceOverride.unkeyed).Perm
          ((other.store.overridesOf enrollment.id).map PriceOverride.unkeyed) →
        PriceOverride.Disjoint (world.store.overridesOf enrollment.id) →
        ((session (Access.priceBook.resolve enrollment period)).perform other).1 =
          .ok result := by
  obtain ⟨first, last, bounds, -, days⟩ := Period.exists_bounds valid
  have answer {world : World} (calm : world.Calm) :=
    (Billing.reads_resolve enrollment period).perform_session calm
  cases found : Table.find? world.store.courses enrollment.courseId with
  | none =>
      refine ⟨first, last, none, bounds, days, ?_, ?_, nofun,
        fun other calmOther courses _ _ => ?_⟩
      · rw [answer calm, Store.resolve_of_missing fits.course found]
      · exact iff_of_true rfl fun course mem => Table.find?_eq_none_iff.mp found course mem
      · rw [answer calmOther, Store.resolve_of_missing fits.course (courses ▸ found)]
  | some course =>
      have mem := Table.mem_of_find? found
      have own : course.id = enrollment.courseId := Table.key_of_find? found
      obtain ⟨lesson, subscription⟩ := fits.prices course mem own
      obtain ⟨base, priced, cents, centsSecond, name⟩ :=
        Prices.exists_ofCourse lesson subscription fits.discount
      have known {store : Store} (courses : store.courses = world.store.courses) :
          store.priceBook.course enrollment.courseId = .ok (some (Row.shown course)) := by
        rw [Store.course_eq fits.course, courses, found]
        rfl
      have resolved {store : Store} (courses : store.courses = world.store.courses) :=
        Store.resolve_of_course bounds fits.key (known courses) priced
      refine ⟨first, last, _, bounds, days, (answer calm).trans (resolved rfl), ?_, ?_, ?_⟩
      · exact iff_of_false nofun fun missing => missing course mem own
      · rintro _ ⟨rfl⟩
        exact ⟨course, mem, own,
          Store.arePrices_replaced (Store.counts_find? _ _ _ _) cents centsSecond name⟩
      · intro other calmOther courses same disjoint
        rw [answer calmOther, resolved courses,
          Store.elim_replaced_congr base (Store.map_unkeyed_find? same disjoint)]

/-- The records of an organisation with an enrollment and overrides. -/
def Store.withOverrides (overrides : List PriceOverride) : Store :=
  { withEnrollment with overrides := overrides }

/-- An enrollment that pays by the lesson. -/
def Enrollment.sample : Enrollment :=
  ⟨1, 1, 1, .perLesson, .ofCents 0, ""⟩

theorem World.calm_withOverrides (overrides : List PriceOverride) :
    (calmWith (.withOverrides overrides)).Calm :=
  ⟨rfl, rfl⟩

theorem Store.canPrice_withOverrides (overrides : List PriceOverride) :
    (withOverrides overrides).CanPrice .sample where
  key := rfl
  course := rfl
  discount := ⟨false, 0, -2, rfl, by decide, by decide, by decide⟩
  prices course mem _ := by
    cases List.mem_singleton.mp mem
    exact ⟨⟨1000, by decide, rfl⟩, ⟨2500, by decide, rfl⟩⟩

theorem Store.resolve_withOverrides {overrides : List PriceOverride} {override : PriceOverride}
    {first last : Date} (bounds : (⟨2024, 1⟩ : Period).bounds = .ok (first, last))
    (ordered : Table.Ordered overrides)
    (greatest : (withOverrides overrides).IsGreatestIn Enrollment.sample.id ⟨first, some last⟩
      override) :
    (withOverrides overrides).priceBook.resolve .sample ⟨2024, 1⟩ =
      .ok (some ((⟨.ofCents 1000, .ofCents 2500, "Violin"⟩ : Prices).replacedBy
        (Row.shown override))) := by
  have priced : Prices.ofCourse ⟨1, "Violin", .individual, .ofCents 1000, .ofCents 2500, true⟩
      Enrollment.sample.discount =
        .ok ⟨.ofCents 1000, .ofCents 2500, "Violin"⟩ := by decide +kernel
  rw [resolve_of_course bounds rfl (course_eq rfl) priced, greatest.find? ordered]
  rfl

/-- A month with one override for its first ten days and another one for the rest has the price of
the latter, whichever of the two has the greater key. -/
theorem prices_resolved_of_two :
    let resolve := Access.priceBook.resolve .sample ⟨2024, 1⟩
    ((session resolve).perform (.calmWith (.withOverrides [.sample, .sampleRest]))).1 =
      .ok (some ⟨.ofCents 900, .ofCents 2500, "Violin"⟩) ∧
    ((session resolve).perform (.calmWith (.withOverrides
        [{ PriceOverride.sampleRest with id := 1 }, { PriceOverride.sample with id := 2 }]))).1 =
      .ok (some ⟨.ofCents 900, .ofCents 2500, "Violin"⟩) := by
  intro resolve
  have valid : (⟨2024, 1⟩ : Period).accepts := rfl
  obtain ⟨first, last, result, bounds, -, resolved, -, -, unkeyed⟩ :=
    prices_resolved (World.calm_withOverrides [.sample, .sampleRest])
      (Store.canPrice_withOverrides _)
      valid
  have greatest : (Store.withOverrides [.sample, .sampleRest]).IsGreatestIn 1 ⟨first, some last⟩
      .sampleRest := by
    cases bounds
    refine { mem := List.mem_cons_of_mem _ List.mem_cons_self, owner := rfl, overlaps := rfl,
             greatest := fun other overlaps => ?_ }
    rcases List.mem_pair.mp overlaps.mem with rfl | rfl <;> decide
  have price : ((session resolve).perform (.calmWith (.withOverrides [.sample, .sampleRest]))).1 =
      .ok (some ⟨.ofCents 900, .ofCents 2500, "Violin"⟩) := by
    rw [(Billing.reads_resolve _ _).perform_session (World.calm_withOverrides _)]
    exact Store.resolve_withOverrides bounds (by decide) greatest
  refine ⟨price, ?_⟩
  rw [← price, resolved]
  refine unkeyed _ (World.calm_withOverrides _) rfl (.swap _ _ _) ?_
  have apart : PriceOverride.sample.window.Apart PriceOverride.sampleRest.window :=
    Window.EndsBefore.apart ⟨_, rfl, by decide⟩
  exact List.pairwise_pair.mpr ⟨apart, fun same => absurd same (by decide)⟩

/-- A price for a window that ends ten days before it begins. -/
def PriceOverride.sampleEmpty (id cents : Int) : PriceOverride :=
  ⟨id, 1, sampleRest.validFrom, some sample.validFrom, some (.ofCents cents), none⟩

/-- Keys decide between two windows that begin on one day, and these share no day if one of them
ends before it begins. Such windows still count in a month in which they begin and end. -/
theorem empty_windows_follow_keys :
    let resolve := Access.priceBook.resolve .sample ⟨2024, 1⟩
    let overrides := [PriceOverride.sampleEmpty 1 800, .sampleEmpty 2 900]
    let swapped := [PriceOverride.sampleEmpty 1 900, .sampleEmpty 2 800]
    overrides.Pairwise (fun first second => first.window.Apart second.window ∧
      first.window.overlaps second.window = false) ∧
    (overrides.map PriceOverride.unkeyed).Perm (swapped.map PriceOverride.unkeyed) ∧
    ((session resolve).perform (.calmWith (.withOverrides overrides))).1 =
      .ok (some ⟨.ofCents 900, .ofCents 2500, "Violin"⟩) ∧
    ((session resolve).perform (.calmWith (.withOverrides swapped))).1 =
      .ok (some ⟨.ofCents 800, .ofCents 2500, "Violin"⟩) := by
  intro resolve overrides swapped
  have apart :
      (PriceOverride.sampleEmpty 1 800).window.Apart (PriceOverride.sampleEmpty 2 900).window :=
    Window.EndsBefore.apart ⟨_, rfl, by decide⟩
  have valid : (⟨2024, 1⟩ : Period).accepts := rfl
  obtain ⟨first, last, bounds, -⟩ := Period.exists_bounds valid
  have counts : (PriceOverride.sampleEmpty 0 0).window.overlaps ⟨first, some last⟩ := by
    cases bounds
    decide
  have latter (cents others : Int) :
      (Store.withOverrides [.sampleEmpty 1 others, .sampleEmpty 2 cents]).IsGreatestIn
        Enrollment.sample.id ⟨first, some last⟩ (.sampleEmpty 2 cents) := by
    refine { mem := List.mem_cons_of_mem _ List.mem_cons_self, owner := rfl, overlaps := counts,
             greatest := fun other overlaps => ?_ }
    rcases List.mem_pair.mp overlaps.mem with rfl | rfl
    · exact .inr ⟨rfl, (by decide : (1 : Int) ≤ 2)⟩
    · exact PriceOverride.atMost_refl _
  refine ⟨List.pairwise_pair.mpr ⟨apart, rfl⟩, .swap _ _ _, ?_, ?_⟩
  · rw [(Billing.reads_resolve _ _).perform_session (World.calm_withOverrides _)]
    exact Store.resolve_withOverrides bounds (by decide) (latter 900 800)
  · rw [(Billing.reads_resolve _ _).perform_session (World.calm_withOverrides _)]
    exact Store.resolve_withOverrides bounds (by decide) (latter 800 900)

end Tuition
