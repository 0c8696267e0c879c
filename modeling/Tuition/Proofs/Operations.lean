/-
# How operations end

An operation runs on a world and ends there with a value or in a fault. `Tx.Ends` says both at
once: what holds of the value and the world after it, and what holds of the fault and the world it
was broken off in. The rules below take an operation apart along its steps, so that a statement
about a use case follows its text, every call being allowed to be struck by an outage.

An operation is quiet if it leaves everything as it is but the outages that it counts down and the
files. Reading is quiet, and so is whatever only reads, calculates and writes documents.
-/

import Tuition.World

namespace Tuition

namespace World

/-- What is pending is what is committed: nothing is left of an unfinished transaction. -/
def Settled (world : World) : Prop :=
  world.pending = world.store

theorem settled_begin (world : World) : world.begin.Settled :=
  rfl

/-- Beginning a transaction changes nothing where nothing is pending. -/
theorem begin_of_settled {world : World} (settled : world.Settled) : world.begin = world := by
  cases world
  simp only [Settled] at settled
  simp only [begin, settled]

end World

namespace Tx

variable {α β : Type} {world : World} {good : α → World → Prop} {bad : Fault → World → Prop}

/-! ## Running composed operations -/

theorem perform_bind (action : Tx α) (next : α → Tx β) (world : World) :
    (action >>= next).perform world =
      match action.perform world with
      | (.ok value, after) => (next value).perform after
      | (.error fault, after) => (.error fault, after) := by
  simp only [perform, ExceptT.run, bind, ExceptT.bind, ExceptT.mk, StateT.run, StateT.bind]
  rcases action world with ⟨_ | _, _⟩ <;> rfl

theorem perform_recover (action : Tx α) (answer : Fault → Tx α) (world : World) :
    (action.recover answer).perform world =
      match action.perform world with
      | (.ok value, after) => (.ok value, after)
      | (.error fault, after) => (answer fault).perform after := by
  simp only [perform, recover, ExceptT.run, tryCatch, tryCatchThe, MonadExceptOf.tryCatch,
    ExceptT.tryCatch, ExceptT.mk, StateT.run, bind, StateT.bind]
  rcases action world with ⟨_ | _, _⟩ <;> rfl

theorem perform_map (f : α → β) (action : Tx α) (world : World) :
    (f <$> action).perform world =
      match action.perform world with
      | (.ok value, after) => (.ok (f value), after)
      | (.error fault, after) => (.error fault, after) := by
  simp only [perform, Functor.map, ExceptT.map, ExceptT.run, ExceptT.mk, StateT.run, bind,
    StateT.bind]
  rcases action world with ⟨_ | _, _⟩ <;> rfl

/-- A call goes through or is struck, and only the outages change. -/
theorem perform_call (kind : Call) (world : World) :
    (call kind).perform world =
      match (world.count kind).1 with
      | some outage => (.error (.outage outage.message), (world.count kind).2)
      | none => (.ok (), (world.count kind).2) := by
  have after : (call kind).perform world =
      ((match (world.count kind).1 with
        | some outage => throw (.outage outage.message)
        | none => return ()) : Tx Unit).perform (world.count kind).2 := rfl
  rw [after]
  cases (world.count kind).1 <;> rfl

/-- In a session an operation begins with what is committed and leaves nothing pending. -/
theorem perform_session (action : Tx α) (world : World) :
    (session action).perform world =
      ((action.perform world.begin).1, (action.perform world.begin).2.begin) := by
  have after : (session action).perform world =
      (do
        let result ← attempt action
        rollback
        lift result : Tx α).perform world.begin := rfl
  have attempted : (attempt action).perform world.begin =
      (.ok (action.perform world.begin).1, (action.perform world.begin).2) := by
    refine (perform_recover _ _ _).trans ?_
    rw [perform_map]
    rcases action.perform world.begin with ⟨_ | _, _⟩ <;> rfl
  rw [after, perform_bind, attempted]
  rcases action.perform world.begin with ⟨_ | _, _⟩ <;> rfl

/-- What was not committed before a session makes no difference to it. -/
theorem perform_session_begin (action : Tx α) (world : World) :
    (session action).perform world.begin = (session action).perform world := by
  rw [perform_session, perform_session]
  rfl

/-! ## What holds at the end -/

/-- An operation ends on a world with a value and a world that are `good`, or in a fault and a
world that are `bad`. -/
def Ends (action : Tx α) (world : World) (good : α → World → Prop)
    (bad : Fault → World → Prop) : Prop :=
  match action.perform world with
  | (.ok value, after) => good value after
  | (.error fault, after) => bad fault after

/-- What an operation ends with, when it ends with a value. -/
theorem Ends.of_ok {action : Tx α} {value : α} {after : World} (ends : action.Ends world good bad)
    (found : action.perform world = (.ok value, after)) : good value after := by
  simpa only [Ends, found] using ends

/-- What an operation is broken off with. -/
theorem Ends.of_error {action : Tx α} {fault : Fault} {after : World}
    (ends : action.Ends world good bad)
    (found : action.perform world = (.error fault, after)) : bad fault after := by
  simpa only [Ends, found] using ends

/-- An operation that no fault gets out of ends with a value. -/
theorem Ends.exists_ok {action : Tx α} (ends : action.Ends world good fun _ _ => False) :
    ∃ value after, action.perform world = (.ok value, after) ∧ good value after := by
  rcases found : action.perform world with ⟨fault | value, after⟩
  · exact (ends.of_error found).elim
  · exact ⟨value, after, rfl, ends.of_ok found⟩

/-- What holds at both ends holds of the world that an operation leaves. -/
theorem Ends.after {action : Tx α} {left : World → Prop}
    (ends : action.Ends world (fun _ after => left after) fun _ after => left after) :
    left (action.perform world).2 := by
  simp only [Ends] at ends
  rcases found : action.perform world with ⟨_ | _, after⟩ <;> simpa only [found] using ends

theorem Ends.mono {action : Tx α} {better : α → World → Prop} {worse : Fault → World → Prop}
    (ends : action.Ends world good bad)
    (ofGood : ∀ value after, good value after → better value after)
    (ofBad : ∀ fault after, bad fault after → worse fault after) :
    action.Ends world better worse := by
  simp only [Ends] at ends ⊢
  rcases found : action.perform world with ⟨fault | value, after⟩
  · exact ofBad fault after (by simpa only [found] using ends)
  · exact ofGood value after (by simpa only [found] using ends)

/-- What holds of the value may be weakened. -/
theorem Ends.weaken {action : Tx α} {better : α → World → Prop}
    (ends : action.Ends world good bad)
    (ofGood : ∀ value after, good value after → better value after) :
    action.Ends world better bad :=
  ends.mono ofGood fun _ _ holds => holds

/-- An operation that no fault gets out of ends with a value, whatever is asked of faults. -/
theorem Ends.faultless {action : Tx α} {better : α → World → Prop} {worse : Fault → World → Prop}
    (ends : action.Ends world good fun _ _ => False)
    (ofGood : ∀ value after, good value after → better value after) :
    action.Ends world better worse :=
  ends.mono ofGood fun _ _ never => never.elim

/-- What holds at the end and what holds there besides. -/
theorem Ends.and {action : Tx α} {alsoGood : α → World → Prop} {alsoBad : Fault → World → Prop}
    (ends : action.Ends world good bad) (also : action.Ends world alsoGood alsoBad) :
    action.Ends world (fun value after => good value after ∧ alsoGood value after)
      fun fault after => bad fault after ∧ alsoBad fault after := by
  simp only [Ends] at ends also ⊢
  rcases found : action.perform world with ⟨_ | _, _⟩ <;> simp only [found] at ends also
  · exact ⟨ends, also⟩
  · exact ⟨ends, also⟩

/-- An operation ends just as it is seen to end. -/
theorem ends_perform (action : Tx α) (world : World) :
    action.Ends world (fun value after => action.perform world = (.ok value, after))
      fun fault after => action.perform world = (.error fault, after) := by
  simp only [Ends]
  rcases found : action.perform world with ⟨_ | _, _⟩ <;> rfl

/-! ## Rules -/

theorem ends_pure {value : α} (holds : good value world) :
    (pure value : Tx α).Ends world good bad :=
  holds

theorem ends_throw {fault : Fault} (holds : bad fault world) :
    (throw fault : Tx α).Ends world good bad :=
  holds

theorem ends_bind {action : Tx β} {next : β → Tx α}
    (ends : action.Ends world (fun value after => (next value).Ends after good bad) bad) :
    (action >>= next).Ends world good bad := by
  simp only [Ends, perform_bind] at ends ⊢
  rcases found : action.perform world with ⟨_ | _, _⟩ <;> simpa only [found] using ends

/-- A composed operation ends as its second part does, whatever the first ended with. -/
theorem ends_bind_any {action : Tx β} {next : β → Tx α}
    (reached : ∀ value after, (next value).Ends after good bad)
    (failed : ∀ fault after, bad fault after) : (action >>= next).Ends world good bad :=
  ends_bind ((ends_perform action world).mono (fun value after _ => reached value after)
    fun fault after _ => failed fault after)

theorem ends_map {f : β → α} {action : Tx β}
    (ends : action.Ends world (fun value after => good (f value) after) bad) :
    (f <$> action).Ends world good bad := by
  simp only [Ends, perform_map] at ends ⊢
  rcases found : action.perform world with ⟨_ | _, _⟩ <;> simpa only [found] using ends

/-- A fault that is answered ends the operation as its answer ends. -/
theorem ends_recover {action : Tx α} {answer : Fault → Tx α}
    (ends : action.Ends world good fun fault after => (answer fault).Ends after good bad) :
    (action.recover answer).Ends world good bad := by
  simp only [Ends, perform_recover] at ends ⊢
  rcases found : action.perform world with ⟨_ | _, _⟩ <;> simpa only [found] using ends

/-- A fault that is kept as a value is no fault any more. -/
theorem ends_attempt {action : Tx α} {good : Except Fault α → World → Prop}
    (ends : action.Ends world (fun value after => good (.ok value) after)
      fun fault after => good (.error fault) after) :
    (attempt action).Ends world good bad := by
  have kept : (Except.ok (ε := Fault) <$> action).Ends world good
      fun fault after => good (.error fault) after := ends_map ends
  exact ends_recover kept

/-- An operation in a session ends as on the committed store, and nothing stays pending. -/
theorem ends_session {action : Tx α}
    (ends : action.Ends world.begin (fun value after => good value after.begin)
      fun fault after => bad fault after.begin) :
    (session action).Ends world good bad := by
  simp only [Ends, perform_session] at ends ⊢
  rcases found : action.perform world.begin with ⟨_ | _, _⟩ <;> simpa only [found] using ends

/-- Where nothing is pending before and after, an operation that no fault gets out of does what it
does in a session of its own. -/
theorem ends_as_session {action : Tx α} (settled : world.Settled)
    (ends : action.Ends world (fun _ after => after.Settled) fun _ _ => False) :
    action.Ends world
      (fun value after => (session action).perform world = (.ok value, after) ∧ after.Settled)
      fun _ _ => False := by
  refine (ends.and (ends_perform action world)).mono ?_ fun _ _ never => never.1
  rintro value after ⟨settledAfter, performed⟩
  rw [perform_session, World.begin_of_settled settled, performed,
    World.begin_of_settled settledAfter]
  exact ⟨rfl, settledAfter⟩

/-- What a session ends with, where nothing is pending before and after. -/
theorem Ends.of_session {action : Tx α} {value : α} {after : World} (settled : world.Settled)
    (ends : action.Ends world good fun _ _ => False)
    (settles : ∀ value after, good value after → after.Settled)
    (found : (session action).perform world = (.ok value, after)) : good value after := by
  have alone := ends_as_session settled (ends.weaken settles)
  obtain ⟨_, _, performed, same, -⟩ := alone.exists_ok
  cases same.symm.trans found
  exact ends.of_ok performed

theorem ends_lift {result : Except Fault α} (ok : ∀ value, result = .ok value → good value world)
    (error : ∀ fault, result = .error fault → bad fault world) :
    (lift result).Ends world good bad := by
  cases result with
  | ok value => exact ok value rfl
  | error fault => exact error fault rfl

theorem ends_arithmetic {result : Except Decimal.Fault α}
    (ok : ∀ value, result = .ok value → good value world)
    (error : ∀ fault, result = .error fault → bad (.arithmetic fault) world) :
    (arithmetic result).Ends world good bad := by
  cases result with
  | ok value => exact ok value rfl
  | error fault => exact error fault rfl

/-- A call goes through, or an outage breaks it off; either way only the outages change. -/
theorem ends_call {kind : Call} {good : Unit → World → Prop}
    (passed : ∀ outages, good () { world with outages })
    (struck : ∀ message outages, bad (.outage message) { world with outages }) :
    (call kind).Ends world good bad := by
  simp only [Ends, perform_call]
  cases (world.count kind).1 with
  | none => exact passed _
  | some outage => exact struck _ _

theorem ends_requireTable {table : String} {numbers : List Int} {good : Unit → World → Prop}
    (passed : good () world) (refused : ∀ fault, bad fault world) :
    (requireTable table numbers).Ends world good bad := by
  have after : (requireTable table numbers).perform world =
      ((do
        if !world.hasTables then throw (.noTable table)
        lift (Table.requireWords numbers)) : Tx Unit).perform world := rfl
  simp only [Ends, after]
  cases world.hasTables with
  | false => exact refused _
  | true => exact ends_lift (fun _ _ => passed) fun fault _ => refused fault

theorem ends_look {view : Store → α} (holds : good (view world.pending) world) :
    (look view).Ends world good bad :=
  holds

theorem ends_change {edit : Store → Store} {good : Unit → World → Prop}
    (holds : good () { world with pending := edit world.pending }) :
    (change edit).Ends world good bad :=
  holds

theorem ends_now {good : Moment → World → Prop} (holds : good world.now world) :
    now.Ends world good bad :=
  holds

theorem ends_rollback {good : Unit → World → Prop} (holds : good () world.begin) :
    rollback.Ends world good bad :=
  holds

/-- A commit makes the pending store the store, or is struck before it does anything. -/
theorem ends_commit {good : Unit → World → Prop}
    (passed : ∀ outages, good () { world with store := world.pending, outages })
    (struck : ∀ message outages, bad (.outage message) { world with outages }) :
    commit.Ends world good bad :=
  ends_bind (ends_call (fun outages => passed outages) struck)

/-- An access that reads is a call, demands on a table, and a look at the pending store. -/
theorem ends_reading {kind : Call} {table : String} {numbers : List Int} {view : Store → α}
    (read : ∀ outages, good (view world.pending) { world with outages })
    (failed : ∀ fault outages, bad fault { world with outages }) :
    (do
      call kind
      requireTable table numbers
      look view).Ends world good bad := by
  refine ends_bind (ends_call (fun outages => ?_) fun message outages => failed _ outages)
  exact ends_bind (ends_requireTable (ends_look (read outages)) fun fault => failed fault outages)

/-- Work on the files goes as it goes on the tree and changes nothing but the files. -/
theorem ends_onFiles {action : FileAction Unit} {good : Unit → World → Prop}
    (passed : ∀ files, (ExceptT.run action).run world.files = (.ok (), files) →
      good () { world with files })
    (refused : ∀ fault files, (ExceptT.run action).run world.files = (.error fault, files) →
      bad (.file fault) { world with files }) :
    (onFiles action).Ends world good bad := by
  have after : (onFiles action).perform world =
      (lift (((ExceptT.run action).run world.files).1.mapError .file)).perform
        { world with files := ((ExceptT.run action).run world.files).2 } := rfl
  simp only [Ends, after]
  rcases ran : (ExceptT.run action).run world.files with ⟨fault | _, files⟩
  · exact refused fault files ran
  · exact passed files ran

/-! ## Quiet operations -/

/-- An operation that leaves everything as it is but the outages and the files. -/
def Quiet (action : Tx α) : Prop :=
  ∀ world, action.Ends world
    (fun _ after => after = { world with outages := after.outages, files := after.files })
    fun _ after => after = { world with outages := after.outages, files := after.files }

theorem ends_quiet {action : Tx α} (quiet : action.Quiet)
    (passed : ∀ value outages files, good value { world with outages, files })
    (refused : ∀ fault outages files, bad fault { world with outages, files }) :
    action.Ends world good bad :=
  (quiet world).mono (fun value after same => same ▸ passed value after.outages after.files)
    fun fault after same => same ▸ refused fault after.outages after.files

theorem quiet_pure (value : α) : (pure value : Tx α).Quiet :=
  fun _ => rfl

theorem quiet_throw (fault : Fault) : (throw fault : Tx α).Quiet :=
  fun _ => rfl

theorem quiet_look (view : Store → α) : (look view).Quiet :=
  fun _ => rfl

theorem quiet_call (kind : Call) : (call kind).Quiet :=
  fun _ => ends_call (fun _ => rfl) fun _ _ => rfl

theorem quiet_requireTable (table : String) (numbers : List Int) :
    (requireTable table numbers).Quiet :=
  fun _ => ends_requireTable rfl fun _ => rfl

theorem quiet_onFiles (action : FileAction Unit) : (onFiles action).Quiet :=
  fun _ => ends_onFiles (fun _ _ => rfl) fun _ _ _ => rfl

theorem Quiet.bind {action : Tx β} {next : β → Tx α} (quiet : action.Quiet)
    (quietNext : ∀ value, (next value).Quiet) : (action >>= next).Quiet := by
  intro world
  apply ends_bind
  apply ends_quiet quiet
  · intro value outages files
    exact ends_quiet (quietNext value) (fun _ _ _ => rfl) fun _ _ _ => rfl
  · intro fault outages files
    rfl

end Tx
end Tuition
