/-
# The overrides of an enrollment share no day

An override is added only where its window is apart from all windows that its enrollment has, and
nothing else adds or changes one. So windows that begin apart stay apart, whatever strikes the use
cases. Conversely nothing but a missing enrollment or a shared day stands against an override:
where no outage strikes, one that fits its form and its columns is accepted.
-/

import Tuition.Proofs.Cents
import Tuition.Proofs.GaplessNumbers
import Tuition.Proofs.Windows

namespace Tuition

/-! ## Commands that are admitted -/

/-- A number with at most ten digits before the point, which a column of twelve digits with two
places has room for. -/
def Decimal.HasTenDigits : Decimal → Prop
  | .finite _ coefficient exponent => coefficient = 0 ∨ digitCount coefficient + exponent ≤ 10
  | _ => False

namespace Request.Checked

theorem accepted_of_requiring {α : Type} {part : Checked α} {holds : α → Bool} {message : String}
    {value : α} (accepted : part.requiring holds message = .accepted value) :
    part = .accepted value ∧ holds value := by
  cases part with
  | refused complaints => cases accepted
  | broken fault => cases accepted
  | accepted found =>
      have checked : (if holds found then Checked.accepted found
          else .refused [⟨[], .rule message⟩]) = .accepted value := accepted
      split at checked
      · next fulfilled =>
          cases checked
          exact ⟨rfl, fulfilled⟩
      · cases checked

end Request.Checked

namespace Billing.OverrideCommand

/-- There is a form that the command was read from. -/
def Admitted (command : OverrideCommand) : Prop :=
  ∃ entries, Request.overrideCommand entries = .accepted command

/-- The prices have no more digits than their columns. -/
def PricesFit (command : OverrideCommand) : Prop :=
  ∀ price, command.lessonPrice = some price ∨ command.subscriptionPrice = some price →
    price.HasTenDigits

/-- The form refuses a window that ends before it begins. -/
theorem Admitted.nonEmpty {command : OverrideCommand} (admitted : command.Admitted) :
    command.window.NonEmpty := by
  obtain ⟨entries, accepted⟩ := admitted
  obtain ⟨ordered, -⟩ := Request.Checked.accepted_of_requiring accepted
  obtain ⟨-, inOrder⟩ := Request.Checked.accepted_of_requiring ordered
  intro last stops
  simpa [stops] using inOrder

end Billing.OverrideCommand

/-! ## Prices are kept -/

namespace Decimal

/-- Rounding a short fraction half up gives a short whole number. -/
theorem dropHalfUp_le {coefficient dropped kept : Nat} (positive : 0 < kept + dropped)
    (digits : digitCount coefficient ≤ kept + dropped) :
    dropHalfUp coefficient dropped ≤ 10 ^ kept := by
  have small : coefficient < 10 ^ kept * 10 ^ dropped := by
    rw [← pow_add]
    exact (digitCount_le_iff positive).mp digits
  have unit : 0 < 10 ^ dropped := Nat.pow_pos (by decide)
  have power : tenTo dropped = 10 ^ dropped := rfl
  unfold dropHalfUp
  rw [power]
  split
  · exact Nat.zero_le _
  · rw [Nat.div_le_iff_le_mul_add_pred (by omega)]
    have twice : 2 * 10 ^ dropped * 10 ^ kept = 2 * (10 ^ kept * 10 ^ dropped) := by
      rw [Nat.mul_assoc, Nat.mul_comm (10 ^ dropped)]
    omega

/-- In hundredths a number of ten digits before the point has at most thirteen digits. -/
theorem digitCount_toHundredths {coefficient : Nat} {exponent : Int}
    (digits : digitCount coefficient + exponent ≤ 10) :
    digitCount (toHundredths coefficient exponent) ≤ 13 := by
  rw [digitCount_le_iff (by decide)]
  unfold toHundredths
  split
  · next whole =>
      have small : coefficient * 10 ^ (exponent + 2).toNat <
          10 ^ (12 - (exponent + 2).toNat) * 10 ^ (exponent + 2).toNat := by
        apply Nat.mul_lt_mul_of_pos_right _ (Nat.pow_pos (by decide))
        have positive := digitCount_pos coefficient
        exact (digitCount_le_iff (by omega)).mp (by omega)
      have positive := digitCount_pos coefficient
      rw [← pow_add, Nat.sub_add_cancel (by omega)] at small
      exact Nat.lt_trans small (by decide)
  · next fraction =>
      have rounded : dropHalfUp coefficient (-2 - exponent).toNat ≤ 10 ^ 12 :=
        dropHalfUp_le (by omega) (by omega)
      exact Nat.lt_of_le_of_lt rounded (by decide)

/-- A number of ten digits before the point can be rounded to cents. -/
theorem HasTenDigits.exists_quantize {amount : Decimal} (short : amount.HasTenDigits) :
    ∃ negative coefficient, amount.quantize = .ok (.finite negative coefficient (-2)) := by
  cases amount with
  | infinite => exact short.elim
  | nan => exact short.elim
  | finite negative coefficient exponent =>
      by_cases zero : coefficient = 0
      · exact ⟨negative, 0, by simp [quantize, zero]⟩
      · have digits : digitCount coefficient + exponent ≤ 10 := short.resolve_left zero
        have hundredths := digitCount_toHundredths digits
        have narrow : ¬((precision : Int) < digitCount coefficient + exponent + 2) := by
          rw [precision]
          omega
        have narrowHundredths :
            ¬(precision < digitCount (toHundredths coefficient exponent)) := by
          rw [precision]
          omega
        exact ⟨negative, toHundredths coefficient exponent, by
          simp only [quantize, zero, narrow, narrowHundredths, if_false]⟩

end Decimal

/-- A price that may be missing can be rounded and kept. -/
theorem Billing.exists_roundPrice {price : Option Decimal}
    (short : ∀ amount, price = some amount → amount.HasTenDigits) :
    ∃ rounded kept, roundPrice? price = .ok rounded ∧ Store.keepAmount? rounded = .ok kept := by
  cases price with
  | none => exact ⟨none, none, rfl, rfl⟩
  | some amount =>
      obtain ⟨negative, coefficient, rounds⟩ := (short amount rfl).exists_quantize
      have whole :
          roundPrice? (some amount) = .ok (some (.finite negative coefficient (-2))) := by
        simp only [roundPrice?, Option.mapM_some, Money.round, rounds]
        rfl
      cases found : Amount.cents? (.finite negative coefficient (-2)) with
      | none => exact ⟨_, _, whole, by simp only [Store.keepAmount?, Amount.keep, found]; rfl⟩
      | some cents =>
          exact ⟨_, _, whole, by simp only [Store.keepAmount?, Amount.keep, found]; rfl⟩

/-- An override whose prices can be kept is written as long as there is a key for it. -/
theorem Table.exists_insert_override {rows : List PriceOverride} {override kept : PriceOverride}
    (keeps : Row.keep (Row.withKey override (nextKey rows)) = .ok kept)
    (enrollment : Word.fits override.enrollmentId) (room : Word.fits (nextKey rows)) :
    insert rows override = .ok (kept, rows ++ [kept]) := by
  refine bind_eq_ok_iff.mpr ⟨kept, bind_eq_ok_iff.mpr ⟨kept, keeps,
    check_eq_ok_iff.mpr ⟨rfl, ?_⟩⟩, rfl⟩
  obtain ⟨lessonPrice, subscriptionPrice, rfl⟩ := Store.keep_override_eq_ok keeps
  have unconditional : Row.conditions (α := PriceOverride) = [] := rfl
  have indistinct : Row.distinct (α := PriceOverride) = [] := rfl
  refine ⟨?_, by simp [unconditional], ?_, by simp [indistinct]⟩
  · intro number mem
    rcases List.mem_pair.mp mem with rfl | rfl
    · exact room
    · exact enrollment
  · intro other mem
    exact Int.ne_of_lt (key_lt_nextKey mem)

/-! ## One call -/

namespace Billing

open Tx

variable {world : World} {command : OverrideCommand}

/-- The kinds of call that adding an override makes, each once. -/
def addingCalls : List Call :=
  [.findEnrollment, .overridesOfEnrollment, .addOverride, .commit]

/-- Writing an override that nothing strikes succeeds. -/
theorem ends_writeOverride_of_spared (tables : world.hasTables = true)
    (spared : Spared [.addOverride, .commit] world.outages) (prices : command.PricesFit)
    (enrollment : Word.fits command.enrollmentId)
    (room : Word.fits (Table.nextKey world.pending.overrides)) :
    (writeOverride command).Ends world (fun _ _ => True) fun _ _ => False := by
  obtain ⟨lessonPrice, keptLesson, roundsLesson, keepsLesson⟩ :=
    exists_roundPrice fun amount given => prices amount (.inl given)
  obtain ⟨subscriptionPrice, keptSubscription, roundsSubscription, keepsSubscription⟩ :=
    exists_roundPrice fun amount given => prices amount (.inr given)
  have keeps : Row.keep (Row.withKey (PriceOverride.mk 0 command.enrollmentId command.window.start
      command.window.stop lessonPrice subscriptionPrice)
        (Table.nextKey world.pending.overrides)) =
        .ok ⟨Table.nextKey world.pending.overrides, command.enrollmentId, command.window.start,
          command.window.stop, keptLesson, keptSubscription⟩ :=
    bind_eq_ok_iff.mpr ⟨_, keepsLesson, bind_eq_ok_iff.mpr ⟨_, keepsSubscription, rfl⟩⟩
  unfold writeOverride arithmetic
  rw [roundsLesson, roundsSubscription]
  apply ends_bind
  apply ends_lift_of_ok rfl
  apply ends_bind
  apply ends_lift_of_ok rfl
  apply ends_bind
  refine ends_access_of_spared tables (by simp) spared (by decide) ?_
  intro outages spared
  apply ends_bind
  apply ends_look
  apply ends_bind
  apply ends_lift_of_ok (Table.exists_insert_override keeps enrollment room)
  apply ends_bind
  apply ends_change
  apply ends_pure
  apply ends_bind
  apply ends_commit_of_spared spared (by decide)
  intro outages
  exact ends_pure trivial

/-- Adding an override that nothing strikes succeeds where there is a place for it. -/
theorem ends_addOverride_of_spared (settled : world.Settled) (tables : world.hasTables = true)
    (spared : Spared addingCalls world.outages) (place : world.store.HasPlaceFor command)
    (prices : command.PricesFit) (enrollment : Word.fits command.enrollmentId)
    (room : Word.fits (Table.nextKey world.store.overrides)) :
    (addOverride command).Ends world (fun result _ => ∃ override, result = .ok override)
      fun _ _ => False := by
  rw [← settled] at place room
  obtain ⟨row, memRow, keyRow⟩ := place.enrolled
  apply ends_recover
  apply ends_bind
  refine ends_access_of_spared tables (by simpa using enrollment) spared (by decide) ?_
  intro outages spared
  apply ends_look
  cases found : Table.find? world.pending.enrollments command.enrollmentId with
  | none => exact absurd keyRow (Table.find?_eq_none_iff.mp found row memRow)
  | some there =>
      have key : there.id = command.enrollmentId := Table.key_of_find? found
      have own : (Row.shown there).id = command.enrollmentId := key
      simp only [Option.map_some, own]
      apply ends_bind
      refine ends_access_of_spared tables (by simpa using enrollment) spared (by decide) ?_
      intro outages spared
      apply ends_look
      split
      · next other clash =>
          -- an override that is shown has the window of one that is there
          obtain ⟨override, mem, same, rfl⟩ :=
            mem_overridesShown.mp (List.mem_of_find?_eq_some clash)
          have overlaps := List.find?_some clash
          exact absurd overlaps (Bool.eq_false_iff.mp (place.free override mem same))
      · have written : (writeOverride command).Ends { world with outages } (fun _ _ => True)
            fun _ _ => False :=
          ends_writeOverride_of_spared tables spared prices enrollment room
        apply ends_bind
        refine written.faultless ?_
        intro override after _
        exact ends_pure ⟨override, rfl⟩

end Billing

namespace UseCase

variable {world : World} {command : Billing.OverrideCommand}

/-- What adding an override comes to: it refuses and does nothing, or it adds an override that
there is a place for. -/
theorem perform_addOverride (command : Billing.OverrideCommand) (world : World) :
    ∃ result after, (UseCase.addOverride command).perform world = (.ok result, after) ∧
      (after.store = world.store ∧ result ≠ .ok () ∨
        result = .ok () ∧ world.store.HasPlaceFor command ∧
          world.store.HasOverrideOf command after.store) := by
  apply Tx.Ends.exists_ok
  apply Tx.ends_session
  apply ends_answer
  apply Billing.ends_addOverride_of_write world.settled_begin
  · intro refusal after moves
    exact .inl ⟨moves.store_eq, nofun⟩
  · intro between works place
    refine (Billing.ends_writeOverride works command).weaken ?_
    rintro override after ⟨-, has⟩
    exact .inr ⟨rfl, place, has⟩

/-- A call that nothing strikes is accepted exactly if there is a place for the override. -/
theorem addOverride_accepted_iff (tables : world.hasTables = true)
    (spared : Spared Billing.addingCalls world.outages) (prices : command.PricesFit)
    (keys : ∀ enrollment ∈ world.store.enrollments, Word.fits enrollment.id)
    (room : Word.fits (Table.nextKey world.store.overrides)) :
    ((UseCase.addOverride command).perform world).1 = .ok (.ok ()) ↔
      world.store.HasPlaceFor command := by
  constructor
  · intro accepted
    obtain ⟨result, after, performed, ⟨-, refused⟩ | ⟨-, place, -⟩⟩ :=
      perform_addOverride command world
    · rw [performed] at accepted
      exact absurd (Except.ok.inj accepted) refused
    · exact place
  · intro place
    obtain ⟨enrollment, mem, key⟩ := place.enrolled
    have ends : (Tx.session (UseCase.addOverride command).operation).Ends world
        (fun result _ => result = .ok ()) fun _ _ => False := by
      apply Tx.ends_session
      apply ends_answer
      refine (Billing.ends_addOverride_of_spared world.settled_begin tables spared place prices
        (key ▸ keys enrollment mem) room).weaken ?_
      rintro _ after ⟨override, rfl⟩
      rfl
    obtain ⟨_, after, performed, rfl⟩ := ends.exists_ok
    exact congrArg Prod.fst performed

end UseCase

/-! ## Windows that stay apart -/

/-- The windows of each enrollment have days, and no two of them share one. -/
structure Store.WindowsApart (store : Store) : Prop where
  nonEmpty : ∀ override ∈ store.overrides, override.window.NonEmpty
  apart : store.overrides.Pairwise fun first second =>
    first.enrollmentId = second.enrollmentId → first.window.Apart second.window

namespace Store

variable {before after : Store} {command : Billing.OverrideCommand}

theorem WindowsApart.of_overrides_eq (apart : before.WindowsApart)
    (same : after.overrides = before.overrides) : after.WindowsApart :=
  ⟨same ▸ apart.nonEmpty, same ▸ apart.apart⟩

/-- Where there is no override yet, none shares a day with another. -/
theorem WindowsApart.of_none (none : before.overrides = []) : before.WindowsApart where
  nonEmpty := none ▸ List.forall_mem_nil _
  apart := none ▸ .nil

/-- A place for an override is an enrollment none of whose windows shares a day with it. -/
theorem WindowsApart.hasPlaceFor_iff (apart : before.WindowsApart)
    (nonEmpty : command.window.NonEmpty) :
    before.HasPlaceFor command ↔
      (∃ enrollment ∈ before.enrollments, enrollment.id = command.enrollmentId) ∧
        ∀ override ∈ before.overrides, override.enrollmentId = command.enrollmentId →
          override.window.Apart command.window := by
  have free (override : PriceOverride) (mem : override ∈ before.overrides) :
      override.window.overlaps command.window = false ↔ override.window.Apart command.window :=
    Window.overlaps_eq_false_iff (apart.nonEmpty override mem) nonEmpty
  constructor
  · intro place
    exact ⟨place.enrolled,
      fun override mem own => (free override mem).mp (place.free override mem own)⟩
  · rintro ⟨enrolled, clear⟩
    exact ⟨enrolled, fun override mem own => (free override mem).mpr (clear override mem own)⟩

/-- Adding an override where there is a place for it keeps the windows apart. -/
theorem WindowsApart.add (apart : before.WindowsApart) (nonEmpty : command.window.NonEmpty)
    (place : before.HasPlaceFor command) (has : before.HasOverrideOf command after) :
    after.WindowsApart := by
  obtain ⟨kept, enrollment, window, rfl⟩ := has
  obtain ⟨-, clear⟩ := (apart.hasPlaceFor_iff nonEmpty).mp place
  constructor
  · intro override mem
    rcases List.mem_append.mp mem with old | new
    · exact apart.nonEmpty override old
    · rw [List.mem_singleton.mp new, window]
      exact nonEmpty
  · refine List.pairwise_append.mpr ⟨apart.apart, List.pairwise_singleton _ _, ?_⟩
    intro override mem new memNew same
    rw [List.mem_singleton.mp memNew] at same ⊢
    rw [window]
    exact clear override mem (same.trans enrollment)

end Store

section Steps

variable {now : Moment} {before after : Store} {deed : Deed} {deeds : List Deed}

/-- No transaction writes enrollments. -/
theorem Transaction.enrollments_eq (step : Transaction now before deed after) :
    after.enrollments = before.enrollments := by
  cases step with
  | paymentRecorded found payable linked owner written settles => rw [settles.only_invoices]
  | paymentDeleted found linked settles => rw [settles.only_invoices]
  | _ => rfl

/-- Overrides are written by no other deed than adding one. -/
theorem Transaction.overrides_eq (step : Transaction now before deed after)
    (other : deed ≠ .overrideAdded) : after.overrides = before.overrides := by
  cases step with
  | overrideAdded => exact absurd rfl other
  | paymentRecorded found payable linked owner written settles => rw [settles.only_invoices]
  | paymentDeleted found linked settles => rw [settles.only_invoices]
  | _ => rfl

theorem History.overrides_eq (history : History now before deeds after)
    (others : ∀ deed ∈ deeds, deed ≠ .overrideAdded) : after.overrides = before.overrides := by
  induction history with
  | nil => rfl
  | cons step _ ih =>
      obtain ⟨first, rest⟩ := List.forall_mem_cons.mp others
      exact (ih rest).trans (step.overrides_eq first)

end Steps

/-- The only use case that writes overrides adds one. -/
theorem UseCase.overrides_storeAfter {useCase : UseCase}
    (other : ∀ command, useCase ≠ .addOverride command) (world : World) :
    (useCase.storeAfter world).overrides = world.store.overrides := by
  obtain ⟨prepared, ⟨done, sublist, moves⟩, ⟨issued, sublistIssued, issues⟩⟩ :=
    takes_perform useCase world
  have prepares : ∀ deed ∈ done, deed ≠ .overrideAdded := by
    rintro _ mem rfl
    have possible := sublist.subset mem
    cases useCase with
    | addOverride command => exact other command rfl
    | _ => simp [preparations] at possible
  have numbers : ∀ deed ∈ issued, deed ≠ .overrideAdded := by
    rintro _ mem rfl
    obtain ⟨id, -, different⟩ := List.mem_map.mp (sublistIssued.subset mem)
    cases different
  exact (issues.history.overrides_eq numbers).trans (moves.history.overrides_eq prepares)

/-- The override that an event asks for, if it does, is one that its form accepts. -/
def Event.Admits : Event → Prop
  | .used (.addOverride command) => command.Admitted
  | _ => True

namespace World

/-- No use case and no other event of a run changes the enrollments. -/
theorem enrollments_run (world : World) (events : List Event) :
    (world.run events).store.enrollments = world.store.enrollments := by
  have invariant : Store.Invariant fun store => store.enrollments = world.store.enrollments := {
    transaction := fun step same => step.enrollments_eq.trans same
    prefixed := fun _ same => same
    canceled := fun _ same => same }
  exact invariant.run rfl events

/-- Whatever happens, and whatever strikes it, windows that are apart stay apart. -/
theorem windowsApart_happen {world : World} (apart : world.store.WindowsApart) {event : Event}
    (admitted : event.Admits) : (world.happen event).store.WindowsApart := by
  cases event with
  | used useCase =>
      by_cases adds : ∃ command, useCase = .addOverride command
      · obtain ⟨command, rfl⟩ := adds
        obtain ⟨result, after, performed, ⟨same, -⟩ | ⟨-, place, has⟩⟩ :=
          UseCase.perform_addOverride command world
        · rw [happen, performed]
          exact apart.of_overrides_eq (congrArg Store.overrides same)
        · rw [happen, performed]
          exact apart.add (Billing.OverrideCommand.Admitted.nonEmpty admitted) place has
      · exact apart.of_overrides_eq
          (UseCase.overrides_storeAfter (fun command same => adds ⟨command, same⟩) world)
  | _ => exact apart.of_overrides_eq rfl

theorem windowsApart_run {world : World} (apart : world.store.WindowsApart) {events : List Event}
    (admitted : ∀ event ∈ events, event.Admits) : (world.run events).store.WindowsApart := by
  induction events generalizing world with
  | nil => exact apart
  | cons event events ih =>
      obtain ⟨first, rest⟩ := List.forall_mem_cons.mp admitted
      exact ih (windowsApart_happen apart first) rest

end World

/-- Windows that begin non-empty and apart for each enrollment are so after every run, whatever
strikes it. A call that nothing strikes then is accepted exactly if its enrollment is there and
its window shares no day with a window of that enrollment; so it is accepted if each of them ends
before it begins or begins after it has ended, and those of other enrollments do not count.
Overlapping is mutual. -/
theorem override_accepted_iff_apart (world : World) (apart : world.store.WindowsApart)
    (tables : world.hasTables = true)
    (keys : ∀ enrollment ∈ world.store.enrollments, Word.fits enrollment.id)
    (events : List Event) (admitted : ∀ event ∈ events, event.Admits) :
    let reached := world.run events
    reached.store.WindowsApart ∧
    (∀ window other : Window, window.overlaps other = other.overlaps window) ∧
    ∀ command : Billing.OverrideCommand, command.Admitted → command.PricesFit →
      Spared Billing.addingCalls reached.outages →
      Word.fits (Table.nextKey reached.store.overrides) →
      (((UseCase.addOverride command).perform reached).1 = .ok (.ok ()) ↔
        (∃ enrollment ∈ reached.store.enrollments, enrollment.id = command.enrollmentId) ∧
          ∀ override ∈ reached.store.overrides, override.enrollmentId = command.enrollmentId →
            override.window.Apart command.window) ∧
      ((∃ enrollment ∈ reached.store.enrollments, enrollment.id = command.enrollmentId) →
        (∀ override ∈ reached.store.overrides, override.enrollmentId = command.enrollmentId →
          override.window.EndsBefore command.window ∨
            command.window.EndsBefore override.window) →
        ((UseCase.addOverride command).perform reached).1 = .ok (.ok ())) := by
  have apartReached := World.windowsApart_run apart admitted
  refine ⟨apartReached, Window.overlaps_comm, ?_⟩
  intro command fitting prices spared room
  rw [← World.hasTables_run world events] at tables
  rw [← World.enrollments_run world events] at keys
  have accepted := (UseCase.addOverride_accepted_iff tables spared prices keys room).trans
    (apartReached.hasPlaceFor_iff fitting.nonEmpty)
  refine ⟨accepted, fun enrolled separate => accepted.mpr ⟨enrolled, ?_⟩⟩
  intro override mem own
  rcases separate override mem own with before | after
  · exact before.apart
  · exact after.apart.symm

/-- A price for the first ten days of a month. -/
def Billing.OverrideCommand.sample : OverrideCommand :=
  ⟨1, ⟨⟨2024, 1, 1, by decide⟩, some ⟨2024, 1, 10, by decide⟩⟩, some (.ofCents 800), none⟩

/-- A price for the rest of the month. -/
def Billing.OverrideCommand.sampleRest : OverrideCommand :=
  ⟨1, ⟨⟨2024, 1, 11, by decide⟩, some ⟨2024, 1, 31, by decide⟩⟩, some (.ofCents 900), none⟩

/-- The override is added at the second attempt, the first being struck. -/
def Event.overriddenAgain : List Event :=
  [.used (.addOverride .sample), .used (.addOverride .sample)]

theorem Billing.OverrideCommand.sample_admitted : sample.Admitted :=
  ⟨Request.overrideEntries 1 ⟨sample.window.start, sample.window.stop, sample.lessonPrice, none⟩,
    rfl⟩

theorem Billing.OverrideCommand.sampleRest_admitted : sampleRest.Admitted :=
  ⟨Request.overrideEntries 1
    ⟨sampleRest.window.start, sampleRest.window.stop, sampleRest.lessonPrice, none⟩, rfl⟩

theorem Event.overriddenAgain_admitted : ∀ event ∈ overriddenAgain, event.Admits := by
  intro event mem
  rcases List.mem_pair.mp mem with rfl | rfl
  · exact Billing.OverrideCommand.sample_admitted
  · exact Billing.OverrideCommand.sample_admitted

theorem Billing.OverrideCommand.sample_pricesFit : sample.PricesFit := by
  rintro price (given | given)
  · cases given
    exact .inr (by decide)
  · cases given

theorem Billing.OverrideCommand.sampleRest_pricesFit : sampleRest.PricesFit := by
  rintro price (given | given)
  · cases given
    exact .inr (by decide)
  · cases given

/-- The override that is added for the first days of the month. -/
def PriceOverride.sample : PriceOverride :=
  ⟨1, 1, ⟨2024, 1, 1, by decide⟩, some ⟨2024, 1, 10, by decide⟩, some (.ofCents 800), none⟩

/-- A window that begins on the day after another one ends is accepted for the same enrollment,
and the other one is refused a second time. -/
theorem override_accepted_iff_apart_on_next_day :
    ∃ reached, reached = (World.struckAt .commit .withEnrollment).run Event.overriddenAgain ∧
      reached.store.WindowsApart ∧ reached.store.overrides = [.sample] ∧
      ((UseCase.addOverride .sampleRest).perform reached).1 = .ok (.ok ()) ∧
      ((UseCase.addOverride .sample).perform reached).1 ≠ .ok (.ok ()) := by
  have keys : ∀ enrollment ∈ Store.withEnrollment.enrollments, Word.fits enrollment.id := by
    intro enrollment mem
    cases List.mem_singleton.mp mem
    rfl
  have holds := override_accepted_iff_apart (World.struckAt .commit .withEnrollment)
    (.of_none rfl) rfl keys Event.overriddenAgain Event.overriddenAgain_admitted
  have enrollments := World.enrollments_run (World.struckAt .commit .withEnrollment)
    Event.overriddenAgain
  have written : ((World.struckAt .commit .withEnrollment).run
      Event.overriddenAgain).store.overrides = [.sample] := by decide +kernel
  have quiet :
      ((World.struckAt .commit .withEnrollment).run Event.overriddenAgain).outages = [] := by
    decide +kernel
  generalize (World.struckAt .commit .withEnrollment).run Event.overriddenAgain = reached at *
  obtain ⟨apart, -, exact⟩ := holds
  have spared : Spared Billing.addingCalls reached.outages := by
    rw [quiet]
    exact nofun
  have room : Word.fits (Table.nextKey [PriceOverride.sample]) := rfl
  have enrolled : ∃ enrollment ∈ reached.store.enrollments, enrollment.id = 1 := by
    rw [enrollments]
    exact ⟨_, List.mem_singleton.mpr rfl, rfl⟩
  rw [written] at exact
  refine ⟨reached, rfl, apart, written, ?_, ?_⟩
  · refine (exact .sampleRest Billing.OverrideCommand.sampleRest_admitted
      Billing.OverrideCommand.sampleRest_pricesFit spared room).2 enrolled ?_
    intro override mem _
    cases List.mem_singleton.mp mem
    exact .inl ⟨_, rfl, by decide⟩
  · intro accepted
    obtain ⟨-, clear⟩ := (exact .sample Billing.OverrideCommand.sample_admitted
      Billing.OverrideCommand.sample_pricesFit spared room).1.mp accepted
    exact clear .sample (List.mem_singleton.mpr rfl) rfl ⟨2024, 1, 1, by decide⟩ (by decide)

end Tuition
