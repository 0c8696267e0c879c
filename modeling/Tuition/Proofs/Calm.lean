/-
# What operations do in a calm

In a calm the tables exist and no outage is to come. What an operation does to the pending store
is then a function of that store, and `Tx.Does` says which one. In any other world an operation
that ends with a value has done the same; only a fault may have come from outside. So the
function also tells what an operation has done that outages did not break off. Files, clock and
tables are left alone either way.

The rules below follow the text of an operation, as those for how it ends do.
-/

import Tuition.Proofs.Accesses

namespace Tuition

namespace World

/-- The tables exist and no outage is to come. -/
structure Calm (world : World) : Prop where
  tables : world.hasTables = true
  quiet : world.outages = []

/-- A transaction went on from one world to another: files, clock and tables are the
same, and a calm stays. -/
structure Continues (before after : World) : Prop where
  files : after.files = before.files
  now : after.now = before.now
  hasTables : after.hasTables = before.hasTables
  calm : before.Calm → after.Calm

namespace Continues

variable {before between after : World}

theorem refl (world : World) : world.Continues world :=
  ⟨rfl, rfl, rfl, id⟩

theorem trans (first : before.Continues between) (second : between.Continues after) :
    before.Continues after where
  files := second.files.trans first.files
  now := second.now.trans first.now
  hasTables := second.hasTables.trans first.hasTables
  calm calm := second.calm (first.calm calm)

end Continues

/-- In a calm a call goes through and nothing changes. -/
theorem Calm.count {world : World} (calm : world.Calm) (kind : Call) :
    world.count kind = (none, world) := by
  obtain ⟨store, pending, hasTables, outages, files, now⟩ := world
  obtain ⟨-, rfl⟩ := calm
  rfl

end World

namespace Tx

open World

variable {α β : Type}

/-- What an operation does to the pending store in a calm, and wherever it ends with a value. -/
def Does (action : Tx α) (work : Store → Except Fault (α × Store)) : Prop :=
  ∀ world, action.Ends world
    (fun value after => work world.pending = .ok (value, after.pending) ∧ world.Continues after)
    fun fault after => (world.Calm → work world.pending = .error fault) ∧ world.Continues after

namespace Does

variable {action : Tx α} {work : Store → Except Fault (α × Store)} {world : World}

/-- In a calm an operation that has something to do ends with what it does. -/
theorem ends_of_ok (does : action.Does work) (calm : world.Calm) {value : α} {store : Store}
    (done : work world.pending = .ok (value, store)) :
    action.Ends world
      (fun found after => found = value ∧ after.pending = store ∧ world.Continues after)
      fun _ _ => False := by
  refine (does world).mono ?_ ?_
  · rintro found after ⟨same, continues⟩
    cases done.symm.trans same
    exact ⟨rfl, rfl, continues⟩
  · rintro fault after ⟨failed, -⟩
    cases done.symm.trans (failed calm)

/-- In a calm an operation that has something to do does it. -/
theorem perform_of_ok (does : action.Does work) (calm : world.Calm) {value : α} {store : Store}
    (done : work world.pending = .ok (value, store)) :
    ∃ after, action.perform world = (.ok value, after) ∧ after.pending = store ∧
      world.Continues after := by
  obtain ⟨_, after, performed, rfl, pending, continues⟩ := (does.ends_of_ok calm done).exists_ok
  exact ⟨after, performed, pending, continues⟩

theorem congr {other : Store → Except Fault (α × Store)} (does : action.Does work)
    (same : ∀ store, work store = other store) : action.Does other := by
  rwa [← funext same]

/-- An operation does to what a transaction has pending what it does to that store. -/
theorem ends_of_works {origin : World} {pending : Store} {good : α → World → Prop}
    {bad : Fault → World → Prop} (does : action.Does work) (works : origin.Works pending world)
    (ends : action.Ends world (fun value after => work pending = .ok (value, after.pending) →
      good value after) bad) : action.Ends world good bad := by
  refine ((does world).and ends).mono ?_ fun _ _ failed => failed.2
  rintro value after ⟨⟨done, -⟩, reached⟩
  rw [works.pending] at done
  exact reached done

end Does

/-! ## Rules -/

theorem does_pure (value : α) : (pure value : Tx α).Does fun store => .ok (value, store) :=
  fun world => ⟨rfl, .refl world⟩

theorem does_throw (fault : Fault) : (throw fault : Tx α).Does fun _ => .error fault :=
  fun world => ⟨fun _ => rfl, .refl world⟩

theorem does_bind {action : Tx β} {next : β → Tx α} {first : Store → Except Fault (β × Store)}
    {second : β → Store → Except Fault (α × Store)} (does : action.Does first)
    (doesNext : ∀ value, (next value).Does (second value)) :
    (action >>= next).Does fun store => first store >>= fun done => second done.1 done.2 := by
  intro world
  apply ends_bind
  refine (does world).mono ?_ ?_
  · rintro value between ⟨done, continues⟩
    refine (doesNext value between).mono ?_ ?_
    · rintro result after ⟨doneNext, continuesNext⟩
      exact ⟨bind_eq_ok_iff.mpr ⟨_, done, doneNext⟩, continues.trans continuesNext⟩
    · rintro fault after ⟨failed, continuesNext⟩
      refine ⟨fun calm => ?_, continues.trans continuesNext⟩
      simp only [done]
      exact failed (continues.calm calm)
  · rintro fault after ⟨failed, continues⟩
    refine ⟨fun calm => ?_, continues⟩
    simp only [failed calm]
    rfl

theorem does_look (view : Store → α) : (look view).Does fun store => .ok (view store, store) :=
  fun world => ⟨rfl, .refl world⟩

theorem does_change (edit : Store → Store) :
    (change edit).Does fun store => .ok ((), edit store) :=
  fun _ => ⟨rfl, rfl, rfl, rfl, fun calm => ⟨calm.tables, calm.quiet⟩⟩

theorem does_lift (result : Except Fault α) :
    (lift result).Does fun store => result.map fun value => (value, store) := by
  cases result with
  | ok value => exact does_pure value
  | error fault => exact does_throw fault

theorem does_call (kind : Call) : (call kind).Does fun store => .ok ((), store) := by
  intro world
  have performed := perform_call kind world
  by_cases calm : world.Calm
  · simp only [calm.count] at performed
    simp only [Ends, performed]
    exact ⟨trivial, .refl world⟩
  · apply Tx.ends_call
    · intro outages
      exact ⟨rfl, rfl, rfl, rfl, fun holds => absurd holds calm⟩
    · intro message outages
      exact ⟨fun holds => absurd holds calm, rfl, rfl, rfl, fun holds => absurd holds calm⟩

theorem does_requireTable (table : String) (numbers : List Int) :
    (requireTable table numbers).Does fun store =>
      (Table.requireWords numbers).map fun value => (value, store) := by
  intro world
  have after : (requireTable table numbers).perform world =
      ((do
        if !world.hasTables then throw (.noTable table)
        lift (Table.requireWords numbers)) : Tx Unit).perform world := rfl
  simp only [Ends, after]
  cases tables : world.hasTables with
  | false =>
      refine ⟨fun calm => ?_, .refl world⟩
      cases tables.symm.trans calm.tables
  | true => exact does_lift (Table.requireWords numbers) world

/-- An access does what is left of it after the call, if the demands on numbers are met. -/
theorem does_access {kind : Call} {table : String} {numbers : List Int} {rest : Tx α}
    {work : Store → Except Fault (α × Store)} (does : rest.Does work) :
    (do
      call kind
      requireTable table numbers
      rest).Does fun store => Table.requireWords numbers >>= fun _ => work store := by
  refine (does_bind (does_call kind) fun _ => does_bind (does_requireTable table numbers) fun _ =>
    does).congr fun store => ?_
  cases Table.requireWords numbers <;> rfl

theorem does_commit : commit.Does fun store => .ok ((), store) := by
  have does : commitPending.Does fun store => .ok ((), store) :=
    fun _ => ⟨rfl, rfl, rfl, rfl, fun calm => ⟨calm.tables, calm.quiet⟩⟩
  exact (does_bind (does_call .commit) fun _ => does).congr fun _ => rfl

/-! ## Operations that only read -/

/-- What an operation finds in the pending store, which it leaves as it is. -/
def Reads (action : Tx α) (view : Store → Except Fault α) : Prop :=
  action.Does fun store => (view store).map fun value => (value, store)

/-- An operation finds in what a transaction has pending what is there. -/
theorem Reads.ends_of_works {action : Tx α} {view : Store → Except Fault α} {origin world : World}
    {pending : Store} {good : α → World → Prop} {bad : Fault → World → Prop}
    (reads : action.Reads view) (works : origin.Works pending world)
    (ends : action.Ends world (fun value after => view pending = .ok value → good value after)
      bad) : action.Ends world good bad := by
  refine Does.ends_of_works reads works (ends.weaken ?_)
  intro value after holds found
  obtain ⟨other, seen, same⟩ := map_eq_ok_iff.mp found
  cases same
  exact holds seen

theorem reads_pure (value : α) : (pure value : Tx α).Reads fun _ => .ok value :=
  does_pure value

theorem reads_bind {action : Tx β} {next : β → Tx α} {view : Store → Except Fault β}
    {viewNext : β → Store → Except Fault α} (reads : action.Reads view)
    (readsNext : ∀ value, (next value).Reads (viewNext value)) :
    (action >>= next).Reads fun store => view store >>= fun value => viewNext value store := by
  refine (does_bind reads readsNext).congr fun store => ?_
  dsimp only
  cases view store <;> rfl

/-- An access that reads finds what it looks up, if the demands on numbers are met. -/
theorem reads_access {kind : Call} {table : String} {numbers : List Int} {view : Store → α} :
    (do
      call kind
      requireTable table numbers
      look view).Reads fun store => Table.requireWords numbers >>= fun _ => .ok (view store) := by
  refine (does_access (does_look view)).congr fun store => ?_
  cases Table.requireWords numbers <;> rfl

/-! ## Operations that go on -/

/-- An operation goes on: wherever it ends, files, clock and tables are the
same, and a calm stays. -/
def Continuing (action : Tx α) : Prop :=
  ∀ world, action.Ends world (fun _ after => world.Continues after) fun _ after =>
    world.Continues after

theorem Does.continuing {action : Tx α} {work : Store → Except Fault (α × Store)}
    (does : action.Does work) : action.Continuing :=
  fun world => (does world).mono (fun _ _ done => done.2) fun _ _ failed => failed.2

theorem continuing_pure (value : α) : (pure value : Tx α).Continuing :=
  (does_pure value).continuing

theorem continuing_now : now.Continuing :=
  fun world => .refl world

theorem continuing_rollback : rollback.Continuing :=
  fun _ => ⟨rfl, rfl, rfl, fun calm => ⟨calm.tables, calm.quiet⟩⟩

theorem Continuing.bind {action : Tx β} {next : β → Tx α} (continuing : action.Continuing)
    (continuingNext : ∀ value, (next value).Continuing) : (action >>= next).Continuing := by
  intro world
  apply ends_bind
  refine (continuing world).mono ?_ fun _ _ continues => continues
  intro value between continues
  exact (continuingNext value between).mono (fun _ _ rest => continues.trans rest)
    fun _ _ rest => continues.trans rest

theorem Continuing.recover {action : Tx α} {answer : Fault → Tx α}
    (continuing : action.Continuing) (continuingAnswer : ∀ fault, (answer fault).Continuing) :
    (action.recover answer).Continuing := by
  intro world
  apply ends_recover
  refine (continuing world).mono (fun _ _ continues => continues) ?_
  intro fault between continues
  exact (continuingAnswer fault between).mono (fun _ _ rest => continues.trans rest)
    fun _ _ rest => continues.trans rest

/-- An operation that reads ends with what it finds, leaves what is pending and goes on. -/
theorem Reads.ends {action : Tx α} {view : Store → Except Fault α} {world : World}
    (reads : action.Reads view) :
    action.Ends world
      (fun value after => view world.pending = .ok value ∧ after.pending = world.pending ∧
        world.Continues after)
      fun fault after => (world.Calm → view world.pending = .error fault) ∧
        world.Continues after := by
  refine (reads world).mono ?_ ?_
  · rintro value after ⟨found, continues⟩
    obtain ⟨other, seen, same⟩ := map_eq_ok_iff.mp found
    obtain ⟨rfl, pending⟩ := Prod.mk.inj same
    exact ⟨seen, pending.symm, continues⟩
  · rintro fault after ⟨failed, continues⟩
    exact ⟨fun calm => map_eq_error_iff.mp (failed calm), continues⟩

end Tx
end Tuition
