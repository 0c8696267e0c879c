/-
# Which override holds in a month

Overrides of one enrollment share no day, but prices are asked for by the month, and a month may
see one override end and the next one begin. Then the one that begins last is taken for all of the
month, and the other one counts for nothing there. So a month has a single override exactly if no
window ends in it before another one begins in it.
-/

import Tuition.Proofs.OverrideWindows
import Mathlib.Data.List.Pairwise

namespace Tuition

/-! ## The days of a month -/

/-- A day lies in a billing period. -/
def Date.IsIn (day : Date) (period : Period) : Prop :=
  (day.year : Int) = period.year ∧ (day.month : Int) = period.month

namespace Date

/-- A day lies in the month of another one between its first and its last day. -/
theorem sameMonth_iff {first day : Date} (begins : first.day = 1) :
    day.year = first.year ∧ day.month = first.month ↔ first ≤ day ∧ day ≤ first.monthEnd := by
  obtain ⟨-, -, -, month, dayFirst, dayLast⟩ := day.valid
  obtain ⟨-, -, -, monthFirst, -, -⟩ := first.valid
  have short := Calendar.daysInMonth_le day.year day.month
  have shortFirst := Calendar.daysInMonth_le first.year first.month
  simp only [le_iff_key, key, monthEnd, begins]
  constructor
  · rintro ⟨year, sameMonth⟩
    rw [year, sameMonth] at dayLast ⊢
    omega
  · rintro ⟨notBefore, notAfter⟩
    omega

theorem le_monthEnd (day : Date) : day ≤ day.monthEnd := by
  obtain ⟨-, -, -, -, -, last⟩ := day.valid
  simp only [le_iff_key, key, monthEnd]
  omega

end Date

/-- The days of a billing period are those from its first to its last one. -/
theorem Period.exists_bounds {period : Period} (valid : period.accepts) :
    ∃ first last, period.bounds = .ok (first, last) ∧ first ≤ last ∧
      ∀ day : Date, day.IsIn period ↔ first ≤ day ∧ day ≤ last := by
  simp only [accepts, Bool.and_eq_true, decide_eq_true_eq] at valid
  obtain ⟨⟨⟨monthLow, monthHigh⟩, yearLow⟩, yearHigh⟩ := valid
  have days := Calendar.one_le_daysInMonth period.year.toNat period.month.toNat
  have there : Calendar.Exists period.year.toNat period.month.toNat 1 := by
    unfold Calendar.Exists
    omega
  have made : period.firstDay = .ok ⟨period.year.toNat, period.month.toNat, 1, there⟩ := by
    have inYear : ¬(period.month < 1 ∨ 12 < period.month) := by omega
    simp only [firstDay, inYear, if_false, Date.make?, there, dif_pos]
  refine ⟨_, _, bind_eq_ok_iff.mpr ⟨_, made, rfl⟩, Date.le_monthEnd _, ?_⟩
  intro day
  rw [← Date.sameMonth_iff rfl]
  show (day.year : Int) = period.year ∧ (day.month : Int) = period.month ↔
    day.year = period.year.toNat ∧ day.month = period.month.toNat
  omega

/-! ## Overrides that hold in a month -/

/-- An override holds on some day of a billing period. -/
def PriceOverride.HoldsIn (override : PriceOverride) (period : Period) : Prop :=
  ∃ day : Date, day.IsIn period ∧ override.window.contains day

/-- An override holds in a period exactly if it starts by the last day and still holds on the
first. -/
theorem PriceOverride.holdsIn_iff {override : PriceOverride} {period : Period} {first last : Date}
    (nonEmpty : override.window.NonEmpty) (ordered : first ≤ last)
    (days : ∀ day : Date, day.IsIn period ↔ first ≤ day ∧ day ≤ last) :
    override.HoldsIn period ↔ override.validFrom ≤ last ∧ override.window.reaches first := by
  have month : (Window.mk first (some last)).NonEmpty := by
    rintro _ ⟨rfl⟩
    exact ordered
  have inMonth (day : Date) : day.IsIn period ↔ (Window.mk first (some last)).contains day := by
    rw [days, Window.contains_iff]
    simp
  have shared := Window.overlaps_iff_exists nonEmpty month
  rw [Window.overlaps, Bool.and_eq_true, Window.startsBy_iff] at shared
  simp only [Option.some.injEq, forall_eq'] at shared
  refine Iff.trans ?_ shared.symm
  simp only [HoldsIn, inMonth]
  exact exists_congr fun day => and_comm

namespace PriceOverride

/-- One override comes before another only if it does not start earlier. -/
theorem validFrom_le_of_latestFirst {first second : PriceOverride}
    (before : first.latestFirst second) : second.validFrom ≤ first.validFrom := by
  unfold latestFirst at before
  rw [Date.le_iff_key]
  split at before
  · omega
  · exact Nat.le_of_lt (of_decide_eq_true before)

theorem latestFirst_trans (first second third : PriceOverride) (before : first.latestFirst second)
    (next : second.latestFirst third) : first.latestFirst third := by
  unfold latestFirst at before next ⊢
  split at before <;> split at next <;> split <;> simp only [decide_eq_true_eq] at * <;> omega

theorem latestFirst_total (first second : PriceOverride) :
    first.latestFirst second || second.latestFirst first := by
  unfold latestFirst
  split <;> split <;> simp only [Bool.or_eq_true, decide_eq_true_eq] <;> omega

theorem mem_startingBy {overrides : List PriceOverride} {enrollmentId : Int} {day : Date}
    {override : PriceOverride} :
    override ∈ startingBy overrides enrollmentId day ↔
      override ∈ overrides ∧ override.enrollmentId = enrollmentId ∧ override.validFrom ≤ day := by
  simp [startingBy, List.mem_mergeSort]

/-- The overrides are tried from the latest start on. -/
theorem startingBy_sorted (overrides : List PriceOverride) (enrollmentId : Int) (day : Date) :
    (startingBy overrides enrollmentId day).Pairwise (latestFirst · ·) :=
  List.pairwise_mergeSort latestFirst_trans latestFirst_total _

end PriceOverride

namespace Store

variable {store : Store} {enrollmentId : Int} {period : Period} {override other : PriceOverride}

/-- An override of an enrollment holds in a period. -/
structure OverrideHolds (store : Store) (enrollmentId : Int) (period : Period)
    (override : PriceOverride) : Prop where
  mem : override ∈ store.overrides
  owner : override.enrollmentId = enrollmentId
  holds : override.HoldsIn period

/-- No window of an enrollment ends in a period before another one begins in it. -/
def NoneChangesIn (store : Store) (enrollmentId : Int) (period : Period) : Prop :=
  ∀ first ∈ store.overrides, ∀ second ∈ store.overrides,
    first.enrollmentId = enrollmentId → second.enrollmentId = enrollmentId →
    ∀ last, first.validTo = some last → last.IsIn period → second.validFrom.IsIn period →
      ¬last < second.validFrom

/-- Two overrides of an enrollment are apart unless they are the same. -/
theorem WindowsApart.apart_of_ne (apart : store.WindowsApart) (mem : override ∈ store.overrides)
    (memOther : other ∈ store.overrides) (same : override.enrollmentId = other.enrollmentId)
    (different : override ≠ other) : override.window.Apart other.window := by
  have symmetric : Std.Symm fun first second : PriceOverride =>
      first.enrollmentId = second.enrollmentId → first.window.Apart second.window :=
    ⟨fun _ _ clear owner => (clear owner.symm).symm⟩
  exact apart.apart.forall mem memOther different same

/-- Overrides of an enrollment that start on the same day are the same. -/
theorem WindowsApart.eq_of_validFrom (apart : store.WindowsApart)
    (mem : override ∈ store.overrides) (memOther : other ∈ store.overrides)
    (same : override.enrollmentId = other.enrollmentId)
    (start : override.validFrom.key = other.validFrom.key) : override = other := by
  by_contra different
  have begins (row : PriceOverride) (mem : row ∈ store.overrides) :
      row.window.contains row.validFrom :=
    Window.contains_iff.mpr ⟨Nat.le_refl _, apart.nonEmpty row mem⟩
  refine apart.apart_of_ne mem memOther same different other.validFrom ⟨?_, begins other memOther⟩
  obtain ⟨-, running⟩ := Window.contains_iff.mp (begins override mem)
  refine Window.contains_iff.mpr ⟨Nat.le_of_eq start, fun last stops => ?_⟩
  have notEnded := running last stops
  rw [Date.le_iff_key] at notEnded ⊢
  omega

/-- Where one of two overrides that hold in a month ends before the other begins, it ends in the
month, and the other one begins in it. -/
theorem not_noneChangesIn_of_endsBefore {first last : Date}
    (days : ∀ day : Date, day.IsIn period ↔ first ≤ day ∧ day ≤ last)
    (holds : store.OverrideHolds enrollmentId period override)
    (holdsOther : store.OverrideHolds enrollmentId period other)
    (ends : override.window.EndsBefore other.window) :
    ¬store.NoneChangesIn enrollmentId period := by
  intro none
  obtain ⟨stop, stops, before⟩ := ends
  obtain ⟨day, inMonth, inside⟩ := holds.holds
  obtain ⟨dayOther, inMonthOther, insideOther⟩ := holdsOther.holds
  have running : day ≤ stop := (Window.contains_iff.mp inside).2 stop stops
  have started : other.validFrom ≤ dayOther := (Window.contains_iff.mp insideOther).1
  have gap : stop < other.validFrom := before
  rw [days] at inMonth inMonthOther
  simp only [Date.le_iff_key, Date.lt_iff_key] at running started gap inMonth inMonthOther
  refine none override holds.mem other holdsOther.mem holds.owner holdsOther.owner stop stops
    ((days _).mpr ?_) ((days _).mpr ?_) before
  · simp only [Date.le_iff_key]
    omega
  · simp only [Date.le_iff_key]
    omega

/-- A single override holds in a month exactly if none ends in it before another begins in it. -/
theorem WindowsApart.single_iff_noneChangesIn (apart : store.WindowsApart)
    (valid : period.accepts) :
    (∀ first second, store.OverrideHolds enrollmentId period first →
        store.OverrideHolds enrollmentId period second → first = second) ↔
      store.NoneChangesIn enrollmentId period := by
  obtain ⟨firstDay, lastDay, -, -, days⟩ := Period.exists_bounds valid
  constructor
  · intro single first mem second memSecond owner ownerSecond last stops inMonth
      inMonthSecond before
    have begins : first.validFrom ≤ last := apart.nonEmpty first mem last stops
    have inside : first.window.contains last :=
      Window.contains_iff.mpr ⟨begins, fun stop same =>
        Nat.le_of_eq (congrArg Date.key (Option.some.inj (stops.symm.trans same)))⟩
    have insideSecond : second.window.contains second.validFrom :=
      Window.contains_iff.mpr ⟨Nat.le_refl _, apart.nonEmpty second memSecond⟩
    obtain rfl := single first second ⟨mem, owner, last, inMonth, inside⟩
      ⟨memSecond, ownerSecond, _, inMonthSecond, insideSecond⟩
    exact Nat.not_lt_of_le begins before
  · intro none first second holds holdsSecond
    by_contra different
    have clear := apart.apart_of_ne holds.mem holdsSecond.mem
      (holds.owner.trans holdsSecond.owner.symm) different
    rcases clear.endsBefore_or (apart.nonEmpty first holds.mem)
      (apart.nonEmpty second holdsSecond.mem) with ends | ends
    · exact not_noneChangesIn_of_endsBefore days holds holdsSecond ends none
    · exact not_noneChangesIn_of_endsBefore days holdsSecond holds ends none

/-! ## The prices of a month -/

/-- The prices of an enrollment whose course is there are its own ones, replaced by the first
override that is tried and still holds. -/
theorem resolve_of_course {enrollment : Enrollment} {course : Course} {base : Prices}
    {first last : Date} (bounds : period.bounds = .ok (first, last))
    (fits : Word.fits enrollment.id)
    (there : store.priceBook.course enrollment.courseId = .ok (some course))
    (priced : Prices.ofCourse course enrollment.discount = .ok base) :
    store.priceBook.resolve enrollment period =
      .ok (some (((PriceOverride.startingBy store.overrides enrollment.id last).find?
        (·.window.reaches first)).elim base fun override =>
          base.replacedBy (Row.shown override))) := by
  have shown : ((·.window.reaches first) ∘ Row.shown : PriceOverride → Bool) =
      (·.window.reaches first) := rfl
  have words : Table.requireWords [enrollment.id] = .ok () := by
    simp [Table.requireWords, fits]
  have tried : store.priceBook.overridesUntil enrollment.id last =
      .ok ((PriceOverride.startingBy store.overrides enrollment.id last).map Row.shown) :=
    bind_eq_ok_iff.mpr ⟨(), words, rfl⟩
  refine bind_eq_ok_iff.mpr ⟨_, there, ?_⟩
  simp only [priced, bounds, PriceBook.arithmetic, PriceBook.days, tried, pure_bind]
  refine bind_eq_ok_iff.mpr ⟨_, rfl, congrArg (Except.ok ∘ some) ?_⟩
  rw [Prices.under, List.find?_map, shown]
  cases (PriceOverride.startingBy store.overrides enrollment.id last).find?
    (·.window.reaches first) <;> rfl

/-- The override that is taken for a month is one that holds in it, and it starts last of them. -/
theorem WindowsApart.holds_of_find? (apart : store.WindowsApart) {first last : Date}
    (ordered : first ≤ last) (days : ∀ day : Date, day.IsIn period ↔ first ≤ day ∧ day ≤ last)
    (found : (PriceOverride.startingBy store.overrides enrollmentId last).find?
      (·.window.reaches first) = some override) :
    store.OverrideHolds enrollmentId period override ∧
      ∀ other, store.OverrideHolds enrollmentId period other →
        other.validFrom ≤ override.validFrom := by
  obtain ⟨mem, owner, started⟩ :=
    PriceOverride.mem_startingBy.mp (List.mem_of_find?_eq_some found)
  have holdsIn (row : PriceOverride) (mem : row ∈ store.overrides) :=
    PriceOverride.holdsIn_iff (apart.nonEmpty row mem) ordered days
  have reaches := List.find?_some found
  refine ⟨⟨mem, owner, (holdsIn override mem).mpr ⟨started, reaches⟩⟩, ?_⟩
  intro other holds
  obtain ⟨startedOther, reachesOther⟩ := (holdsIn other holds.mem).mp holds.holds
  have sorted := PriceOverride.startingBy_sorted store.overrides enrollmentId last
  exact rel_of_find? (sorted.imp PriceOverride.validFrom_le_of_latestFirst)
    (fun _ => Nat.le_refl _) found
    (PriceOverride.mem_startingBy.mpr ⟨holds.mem, holds.owner, startedOther⟩) reachesOther

/-- Where an override holds, one is taken. -/
theorem WindowsApart.find?_ne_none (apart : store.WindowsApart) {first last : Date}
    (ordered : first ≤ last) (days : ∀ day : Date, day.IsIn period ↔ first ≤ day ∧ day ≤ last)
    (holds : store.OverrideHolds enrollmentId period override) :
    (PriceOverride.startingBy store.overrides enrollmentId last).find?
      (·.window.reaches first) ≠ none := by
  intro none
  obtain ⟨started, reaches⟩ :=
    (PriceOverride.holdsIn_iff (apart.nonEmpty override holds.mem) ordered days).mp holds.holds
  exact List.find?_eq_none.mp none override
    (PriceOverride.mem_startingBy.mpr ⟨holds.mem, holds.owner, started⟩) reaches

end Store

/-- After every run that begins without overrides, whatever strikes it: an enrollment has a single
override in a month exactly if none of its windows ends in the month before another one begins in
it; and in any case the prices of the month are those of the override that begins last of all that
hold in it, or its own ones if none does. -/
theorem month_takes_latest_override (world : World) (none : world.store.overrides = [])
    (events : List Event) (admitted : ∀ event ∈ events, event.Admits) (enrollmentId : Int)
    (period : Period) (valid : period.accepts) :
    let store := (world.run events).store
    ((∀ first second, store.OverrideHolds enrollmentId period first →
        store.OverrideHolds enrollmentId period second → first = second) ↔
      store.NoneChangesIn enrollmentId period) ∧
    ∀ (enrollment : Enrollment) (course : Course) (base : Prices), enrollment.id = enrollmentId →
      Word.fits enrollment.id →
      store.priceBook.course enrollment.courseId = .ok (some course) →
      Prices.ofCourse course enrollment.discount = .ok base →
      (∀ override, store.OverrideHolds enrollmentId period override →
        (∀ other, store.OverrideHolds enrollmentId period other →
          other.validFrom ≤ override.validFrom) →
        store.priceBook.resolve enrollment period =
          .ok (some (base.replacedBy (Row.shown override)))) ∧
      ((∀ override, ¬store.OverrideHolds enrollmentId period override) →
        store.priceBook.resolve enrollment period = .ok (some base)) := by
  have apart : (world.run events).store.WindowsApart :=
    World.windowsApart_run (.of_none none) admitted
  obtain ⟨first, last, bounds, ordered, days⟩ := Period.exists_bounds valid
  refine ⟨apart.single_iff_noneChangesIn valid, ?_⟩
  rintro enrollment course base rfl fits there priced
  rw [Store.resolve_of_course bounds fits there priced]
  cases found : (PriceOverride.startingBy (world.run events).store.overrides enrollment.id
      last).find? (·.window.reaches first) with
  | none =>
      refine ⟨fun override holds _ => ?_, fun _ => rfl⟩
      exact absurd found (apart.find?_ne_none ordered days holds)
  | some taken =>
      obtain ⟨holdsTaken, latest⟩ := apart.holds_of_find? ordered days found
      refine ⟨fun override holds last => ?_, fun clear => absurd holdsTaken (clear taken)⟩
      have start : override.validFrom.key = taken.validFrom.key :=
        Nat.le_antisymm (latest override holds) (last taken holdsTaken)
      rw [apart.eq_of_validFrom holds.mem holdsTaken.mem (holds.owner.trans holdsTaken.owner.symm)
        start]
      rfl

/-- The override that is added for the rest of the month. -/
def PriceOverride.sampleRest : PriceOverride :=
  ⟨2, 1, Billing.OverrideCommand.sampleRest.window.start,
    Billing.OverrideCommand.sampleRest.window.stop, some (.ofCents 900), none⟩

/-- A month is given one price for its first ten days and another one for the rest. -/
def Event.overriddenWithin : List Event :=
  [.used (.addOverride .sample), .used (.addOverride .sampleRest)]

theorem Event.overriddenWithin_admitted : ∀ event ∈ overriddenWithin,
    ∃ command : Billing.OverrideCommand, command.Admitted ∧
      event = .used (.addOverride command) := by
  intro event mem
  rcases List.mem_pair.mp mem with rfl | rfl
  · exact ⟨_, Billing.OverrideCommand.sample_admitted, rfl⟩
  · exact ⟨_, Billing.OverrideCommand.sampleRest_admitted, rfl⟩

theorem Event.overrides_overriddenWithin :
    ((World.struckAt .render .withEnrollment).run overriddenWithin).store.overrides =
      [.sample, .sampleRest] := by
  decide +kernel

namespace Store

variable {store : Store} (there : store.overrides = [.sample, .sampleRest])

include there

theorem overrideHolds_sample : store.OverrideHolds 1 ⟨2024, 1⟩ .sample :=
  ⟨there ▸ List.mem_cons_self, rfl, ⟨2024, 1, 1, by decide⟩, ⟨rfl, rfl⟩, by decide⟩

theorem overrideHolds_sampleRest : store.OverrideHolds 1 ⟨2024, 1⟩ .sampleRest :=
  ⟨there ▸ List.mem_cons_of_mem _ List.mem_cons_self, rfl, ⟨2024, 1, 11, by decide⟩, ⟨rfl, rfl⟩,
    by decide⟩

end Store

/-- Two overrides of an enrollment can hold in one month, although no day is in both. -/
theorem two_overrides_in_one_month :
    ¬∀ (world : World) (events : List Event), world.store.overrides = [] →
      (∀ event ∈ events, ∃ command : Billing.OverrideCommand, command.Admitted ∧
        event = .used (.addOverride command)) →
      ∀ (enrollmentId : Int) (period : Period), period.accepts →
        ∀ first second, (world.run events).store.OverrideHolds enrollmentId period first →
          (world.run events).store.OverrideHolds enrollmentId period second → first = second := by
  intro single
  have same := single (World.struckAt .render .withEnrollment) Event.overriddenWithin rfl
    Event.overriddenWithin_admitted 1 ⟨2024, 1⟩ rfl _ _
    (Store.overrideHolds_sample Event.overrides_overriddenWithin)
    (Store.overrideHolds_sampleRest Event.overrides_overriddenWithin)
  exact absurd same (by decide)

/-- Where a month is given two prices, the one for its end is charged for all of it. -/
theorem month_takes_latest_override_of_two :
    ∃ store, store = ((World.struckAt .render .withEnrollment).run Event.overriddenWithin).store ∧
      ¬store.NoneChangesIn 1 ⟨2024, 1⟩ ∧
      store.priceBook.resolve ⟨1, 1, 1, .perLesson, .ofCents 0, ""⟩ ⟨2024, 1⟩ =
        .ok (some ⟨.ofCents 900, .ofCents 2500, "Violin"⟩) := by
  have admitted : ∀ event ∈ Event.overriddenWithin, event.Admits := by
    intro event mem
    obtain ⟨command, fits, rfl⟩ := Event.overriddenWithin_admitted event mem
    exact fits
  have holds := month_takes_latest_override (World.struckAt .render .withEnrollment) rfl
    Event.overriddenWithin admitted 1 ⟨2024, 1⟩ rfl
  have courses :
      ((World.struckAt .render .withEnrollment).run Event.overriddenWithin).store.courses =
        [⟨1, "Violin", .individual, .ofCents 1000, .ofCents 2500, true⟩] := by
    decide +kernel
  have overrides := Event.overrides_overriddenWithin
  generalize ((World.struckAt .render .withEnrollment).run Event.overriddenWithin).store =
    store at *
  obtain ⟨single, prices⟩ := holds
  have sample := Store.overrideHolds_sample overrides
  have rest := Store.overrideHolds_sampleRest overrides
  refine ⟨store, rfl, fun none => ?_, ?_⟩
  · exact absurd (single.mpr none _ _ sample rest) (by decide)
  · have course : store.priceBook.course 1 =
        .ok (some ⟨1, "Violin", .individual, .ofCents 1000, .ofCents 2500, true⟩) := by
      simp only [Store.priceBook, courses]
      rfl
    refine (prices ⟨1, 1, 1, .perLesson, .ofCents 0, ""⟩ _
      ⟨.ofCents 1000, .ofCents 2500, "Violin"⟩
      rfl rfl course (by decide +kernel)).1 .sampleRest rest ?_
    intro other holdsOther
    have mem := holdsOther.mem
    rw [overrides] at mem
    rcases List.mem_pair.mp mem with rfl | rfl
    · decide
    · decide

end Tuition
