/-
# What writing a file changes

An attempt to write a file makes the directories that are missing above it, and what it has
made stays when it fails. `AddsDirectories` says that nothing else happened: at every place
there is what was there, or a directory where nothing was. So a file that is written is the
only one that changes, an attempt that fails changes none, and what a path leads to is still
what it leads to afterwards.
-/

import Tuition.Proofs.FileWrites
import Tuition.Proofs.Operations

namespace Tuition

namespace FileTree

variable {tree before between after : FileTree} {path : FilePath} {place : Location}

/-- The file at a place; a directory is none. -/
def file? (tree : FileTree) (place : Location) : Option FileEntry :=
  (tree.entry? place).filter (· != .directory)

/-- A path leads to a place, whether or not there is anything yet. -/
def LeadsTo (tree : FileTree) (path : FilePath) (place : Location) : Prop :=
  ∃ directory name, tree.locate path = .ok (directory, name) ∧ place = directory ++ [name]

theorem entry_write (tree : FileTree) (directory : Location) (name : String) (entry : FileEntry)
    (other : Location) :
    FileTree.entry? (tree.write (directory ++ [name]) entry) other =
      if other = directory ++ [name] then some entry else tree.entry? other := by
  unfold entry?
  rw [lookup_write]
  split
  · next top =>
      have different : other ≠ directory ++ [name] := by
        rintro rfl
        simp at top
      rw [if_neg different]
  · rfl

theorem LeadsTo.of_keepsDirectories (leads : before.LeadsTo path place)
    (keeps : before.KeepsDirectories after) : after.LeadsTo path place := by
  obtain ⟨directory, name, located, rfl⟩ := leads
  obtain ⟨sound, walks, rfl, short⟩ := walk_of_locate located
  refine ⟨directory, _, ?_, rfl⟩
  rw [locate_of_sound sound, walk_of_keepsDirectories keeps walks]
  simp [bind, Except.bind, Nat.not_lt.mpr short]

/-- The place that a path leads to has the last name of the path. -/
theorem LeadsTo.getLast?_eq (leads : tree.LeadsTo path place) :
    place.getLast? = some (path.parts.getLast?.getD "") := by
  obtain ⟨directory, name, located, rfl⟩ := leads
  obtain ⟨-, -, named, -⟩ := walk_of_locate located
  rw [named, List.getLast?_concat]

/-! ## Directories where nothing was -/

/-- Nothing happened to a tree but that directories were made where nothing was. -/
def AddsDirectories (before after : FileTree) : Prop :=
  ∀ place, after.entry? place = before.entry? place ∨
    before.entry? place = none ∧ after.entry? place = some .directory

namespace AddsDirectories

theorem refl (tree : FileTree) : tree.AddsDirectories tree :=
  fun _ => .inl rfl

theorem trans (first : before.AddsDirectories between) (second : between.AddsDirectories after) :
    before.AddsDirectories after := by
  intro place
  rcases second place with same | ⟨absent, made⟩
  · rw [same]
    exact first place
  · rcases first place with same | ⟨-, there⟩
    · exact .inr ⟨same ▸ absent, made⟩
    · cases there.symm.trans absent

theorem keepsDirectories (adds : before.AddsDirectories after) :
    before.KeepsDirectories after := by
  intro place there
  simp only [isDirectory] at there ⊢
  rcases adds place with same | ⟨absent, -⟩
  · rwa [same]
  · simp [absent] at there

/-- No file comes or goes. -/
theorem file?_eq (adds : before.AddsDirectories after) (place : Location) :
    after.file? place = before.file? place := by
  unfold file?
  rcases adds place with same | ⟨absent, made⟩
  · rw [same]
  · rw [absent, made]
    rfl

end AddsDirectories

theorem addsDirectories_of_makeDirectory (made : before.makeDirectory path = .ok after) :
    before.AddsDirectories after := by
  obtain ⟨directory, name, -, -, -, absent, rfl⟩ := exists_of_makeDirectory made
  intro place
  rw [entry_write]
  split
  · next own => exact .inr ⟨own ▸ absent, rfl⟩
  · exact .inl rfl

theorem addsDirectories_of_ensureDirectory (made : before.ensureDirectory path = .ok after) :
    before.AddsDirectories after := by
  simp only [ensureDirectory] at made
  cases found : before.makeDirectory path with
  | ok new =>
      rw [found] at made
      cases made
      exact addsDirectories_of_makeDirectory found
  | error fault =>
      rw [found] at made
      have same : before = after := by
        cases fault <;> cases there : before.leadsToDirectory path <;> simp_all
      exact same ▸ .refl before

end FileTree

namespace FileAction

open FileTree

variable {before after : FileTree} {path : FilePath} {content : Document}

/-! ## Actions that were broken off -/

/-- The tree that an action on files leaves, wherever it ends. -/
def left (action : FileAction Unit) (before : FileTree) : FileTree :=
  ((ExceptT.run action).run before).2

/-- Looking at the tree leaves it. -/
theorem left_get (next : FileTree → FileAction Unit) (before : FileTree) :
    ((get : FileAction FileTree) >>= next).left before = (next before).left before :=
  rfl

theorem run_bind (first second : FileAction Unit) (before : FileTree) :
    (ExceptT.run (first >>= fun _ => second)).run before =
      match (ExceptT.run first).run before with
      | (.ok (), between) => (ExceptT.run second).run between
      | (.error fault, between) => (.error fault, between) := by
  simp only [ExceptT.run, bind, ExceptT.bind, ExceptT.mk, StateT.run, StateT.bind]
  rcases first before with ⟨_ | _, _⟩ <;> rfl

theorem run_ofChange (change : FileTree → Except FileFault FileTree) (before : FileTree) :
    (ExceptT.run (ofChange change)).run before =
      match change before with
      | .ok changed => (.ok (), changed)
      | .error fault => (.error fault, before) := by
  have run : (ExceptT.run (ofChange change)).run before = (ExceptT.run
      (do set (← (ExceptT.mk (pure (change before)) : FileAction FileTree)))).run before := rfl
  rw [run]
  cases change before <;> rfl

/-- Making sure of a directory adds directories, even where it fails. -/
theorem addsDirectories_ensureDirectory (path : FilePath) (before : FileTree) :
    before.AddsDirectories ((ofChange (·.ensureDirectory path)).left before) := by
  rw [left, run_ofChange]
  cases made : before.ensureDirectory path with
  | ok changed => exact addsDirectories_of_ensureDirectory made
  | error fault => exact .refl before

/-- Making directories adds them, even where it fails. -/
theorem addsDirectories_ensureDirectories (depth : Nat) (path : FilePath) (before : FileTree) :
    before.AddsDirectories ((ensureDirectories depth path).left before) := by
  induction depth generalizing path with
  | zero => exact addsDirectories_ensureDirectory path before
  | succ depth ih =>
      rw [ensureDirectories, left_get]
      split
      · have above := ih path.parent
        rw [left] at above ⊢
        rw [run_bind]
        rcases ran : (ExceptT.run (ensureDirectories depth path.parent)).run before with
          ⟨_ | _, between⟩
        · rwa [ran] at above
        · rw [ran] at above
          exact above.trans (addsDirectories_ensureDirectory path between)
      · exact addsDirectories_ensureDirectory path before

/-- Where a file cannot be written only directories were made. -/
theorem addsDirectories_of_write {fault : FileFault}
    (failed : (ExceptT.run (write path (.document content))).run before = (.error fault, after)) :
    before.AddsDirectories after := by
  have made := addsDirectories_ensureDirectories path.parts.length path.parent before
  rw [left] at made
  rw [write, run_bind] at failed
  rcases ran : (ExceptT.run (ensureDirectories path.parts.length path.parent)).run before with
    ⟨_ | _, between⟩
  · rw [ran] at made failed
    cases failed
    exact made
  · rw [ran] at made failed
    simp only [run_ofChange] at failed
    cases written : between.writeFile path (.document content) with
    | ok changed =>
        rw [written] at failed
        cases failed
    | error fault =>
        rw [written] at failed
        cases failed
        exact made

end FileAction

namespace FileTree

variable {before after : FileTree} {path : FilePath} {place : Location} {content : Document}

/-! ## The file that is written -/

/-- One file was written: the document is where its path leads, every other file is as it was, and
no directory is gone. -/
structure Puts (before : FileTree) (path : FilePath) (place : Location) (content : Document)
    (after : FileTree) : Prop where
  leads : after.LeadsTo path place
  file : after.file? place = some (.document content)
  others : ∀ other, other ≠ place → after.file? other = before.file? other
  directories : before.KeepsDirectories after

/-- Writing a document changes no other file. -/
theorem exists_puts_of_writes (writes : before.Writes path content after) :
    ∃ place, before.Puts path place content after := by
  obtain ⟨between, made, written⟩ := writes_iff.mp writes
  have adds : before.AddsDirectories between := by
    have left := FileAction.addsDirectories_ensureDirectories path.parts.length path.parent before
    rwa [FileAction.left, made] at left
  obtain ⟨directory, walks⟩ := (FileAction.holds_of_ensureDirectories made).1.leads
  obtain ⟨free, rfl⟩ := (writeFile_eq_ok_iff walks).mp written
  have vacant := free.free directory walks
  have keeps : between.KeepsDirectories
      (between.write (directory ++ [path.parts.getLast?.getD ""]) (.document content)) := by
    intro other there
    rw [isDirectory_write _ (by simp)]
    split
    · next own => simp [own, vacant] at there
    · exact there
  have located : between.locate path = .ok (directory, path.parts.getLast?.getD "") := by
    have way : between.walk (top path) path.parts.dropLast = .ok directory := walks
    rw [locate_of_sound free.sound, way]
    simp [bind, Except.bind, Nat.not_lt.mpr free.name]
  have leads : between.LeadsTo path (directory ++ [path.parts.getLast?.getD ""]) :=
    ⟨_, _, located, rfl⟩
  refine ⟨directory ++ [path.parts.getLast?.getD ""], leads.of_keepsDirectories keeps, ?_, ?_,
    adds.keepsDirectories.trans keeps⟩
  · simp [file?, entry_write]
  · intro other different
    rw [← adds.file?_eq other]
    simp [file?, entry_write, different]

end FileTree

namespace Tx

/-- Writing a document writes it, or it cannot be written and only directories are made. -/
theorem ends_writeDocument {world : World} (path : FilePath) (content : Document) :
    (onFiles (.write path (.document content))).Ends world
      (fun _ after => ∃ files, world.files.Writes path content files ∧
        after = { world with files })
      fun _ after => ∃ files, ¬world.files.Accepts path ∧ world.files.AddsDirectories files ∧
        after = { world with files } := by
  apply ends_onFiles
  · intro files ran
    exact ⟨files, ran, rfl⟩
  · intro fault files ran
    refine ⟨files, fun accepts => ?_, FileAction.addsDirectories_of_write ran, rfl⟩
    obtain ⟨other, writes⟩ := accepts content
    cases ran.symm.trans writes

end Tx
end Tuition
