/-
# Writing documents side by side

Writing a file first makes the directories above it that are missing and then puts the file into
the last of them. So whether a file can be written depends on the way to its directory and on its
own name. Once a file was written the way is there, and it is in nobody's way but that of a
directory by its own name; a file in the same directory can be written after it if and only if it
can be written before it.
-/

import Tuition.Billing.InvoiceNumber
import Tuition.Billing.Rendering
import Tuition.Proofs.Tables
import Mathlib.Tactic.ByContra

namespace Tuition

namespace FileAction

/-- An action on files ends well and leaves this tree. -/
def Leaves (action : FileAction Unit) (before after : FileTree) : Prop :=
  (ExceptT.run action).run before = (.ok (), after)

theorem leaves_bind_iff {first second : FileAction Unit} {before after : FileTree} :
    (first >>= fun _ => second).Leaves before after ↔
      ∃ between, first.Leaves before between ∧ second.Leaves between after := by
  simp only [Leaves, ExceptT.run, bind, ExceptT.bind, ExceptT.mk, StateT.run, StateT.bind]
  rcases first before with ⟨_ | _, between⟩
  · constructor
    · intro impossible
      cases impossible
    · rintro ⟨_, impossible, -⟩
      cases impossible
  · constructor
    · intro left
      exact ⟨between, rfl, left⟩
    · rintro ⟨_, same, left⟩
      cases same
      exact left

theorem leaves_ofChange_iff {change : FileTree → Except FileFault FileTree}
    {before after : FileTree} :
    (ofChange change).Leaves before after ↔ change before = .ok after := by
  have run : (ofChange change).Leaves before after ↔
      FileAction.Leaves (do set (← (ExceptT.mk (pure (change before)) : FileAction FileTree)))
        before after := .rfl
  rw [run]
  cases change before with
  | ok changed =>
      constructor
      · intro left
        cases left
        rfl
      · intro same
        cases same
        rfl
  | error fault =>
      constructor
      · intro impossible
        cases impossible
      · intro impossible
        cases impossible

end FileAction

namespace FileTree

variable {tree before after : FileTree} {path : FilePath}

/-! ## Directories -/

/-- What is put at a place is there, and every other place is as it was. -/
theorem lookup_write (tree : FileTree) (place other : Location) (entry : FileEntry) :
    (tree.write place entry).lookup other =
      if other = place then some entry else tree.lookup other := by
  unfold write
  induction tree with
  | nil =>
      by_cases own : other = place
      · simp [own]
      · have passed : (other == place) = false := beq_eq_false_iff_ne.mpr own
        simp [List.lookup_cons, own, passed]
  | cons row rows ih =>
      obtain ⟨spot, kept⟩ := row
      by_cases here : other = spot
      · subst here
        by_cases gone : other = place
        · simpa [gone] using ih
        · simp [gone]
      · have passed : (other == spot) = false := beq_eq_false_iff_ne.mpr here
        by_cases gone : spot = place
        · simpa [gone, List.lookup_cons, gone ▸ passed] using ih
        · simpa [gone, List.lookup_cons, passed] using ih

theorem isDirectory_write (tree : FileTree) {place : Location} (some : place ≠ [])
    (other : Location) (entry : FileEntry) :
    (tree.write place entry).isDirectory other =
      if other = place then entry == .directory else tree.isDirectory other := by
  unfold isDirectory entry?
  rw [lookup_write]
  by_cases own : other = place
  · simp [own, some]
  · simp [own]

/-- Every directory of a tree is one of another. -/
def KeepsDirectories (before after : FileTree) : Prop :=
  ∀ place, before.isDirectory place → after.isDirectory place

theorem KeepsDirectories.trans {between : FileTree} (first : before.KeepsDirectories between)
    (second : between.KeepsDirectories after) : before.KeepsDirectories after :=
  fun place there => second place (first place there)

/-- A way through directories stays where they stay. -/
theorem walk_of_keepsDirectories (keeps : before.KeepsDirectories after) {names : List String}
    {place found : Location} (walks : before.walk place names = .ok found) :
    after.walk place names = .ok found := by
  induction names generalizing place with
  | nil => exact walks
  | cons name rest ih =>
      simp only [walk] at walks ⊢
      split
      · next up =>
          rw [if_pos up] at walks
          exact ih walks
      next down =>
      rw [if_neg down] at walks
      split
      · next long =>
          rw [if_pos long] at walks
          cases walks
      next short =>
      rw [if_neg short] at walks
      cases there : before.entry? (place ++ [name]) with
      | none =>
          rw [there] at walks
          cases walks
      | some entry =>
          rw [there] at walks
          cases entry with
          | document content => cases walks
          | empty => cases walks
          | directory =>
              have kept := keeps (place ++ [name]) (by simp [isDirectory, there])
              rw [beq_iff_eq.mp kept]
              exact ih walks

/-- A way that ends in one more name leads on from the way without it. -/
theorem walk_append {names : List String} {name : String} {place : Location} :
    tree.walk place (names ++ [name]) = tree.walk place names >>= fun found =>
      tree.walk found [name] := by
  induction names generalizing place with
  | nil => rfl
  | cons first rest ih =>
      rw [List.cons_append, walk, walk]
      by_cases up : first = ".."
      · rw [if_pos up, if_pos up, ih]
      rw [if_neg up, if_neg up]
      by_cases long : nameLimit < octetCount first
      · rw [if_pos long, if_pos long]
        rfl
      rw [if_neg long, if_neg long]
      rcases tree.entry? (place ++ [first]) with _ | (_ | _ | _)
      · rfl
      · exact ih
      · rfl
      · rfl

/-! ## The way to a directory -/

/-- A path is not refused for what it says. -/
structure Sound (path : FilePath) : Prop where
  clean : ∀ name ∈ path.parts, '\x00' ∉ name.toList
  short : octetCount path.text ≤ pathLimit

/-- A sound path is located where the way to its directory leads, unless its name is too long. -/
theorem locate_of_sound (sound : Sound path) :
    tree.locate path = tree.walk (top path) path.parts.dropLast >>= fun place =>
      if nameLimit < octetCount (path.parts.getLast?.getD "") then .error .tooLong
      else .ok (place, path.parts.getLast?.getD "") := by
  have clean : (path.parts.any fun name => name.toList.contains '\x00') = false := by
    simpa using sound.clean
  have short : ¬pathLimit < octetCount path.text := Nat.not_lt.mpr sound.short
  simp only [locate, clean, Bool.false_eq_true, if_false, short]
  cases tree.walk (top path) path.parts.dropLast with
  | error obstacle => rfl
  | ok place =>
      by_cases long : nameLimit < octetCount (path.parts.getLast?.getD "")
      · simp [bind, Except.bind, throw, throwThe, MonadExceptOf.throw, long]
      · simp [bind, Except.bind, pure, Except.pure, long]

theorem locate_of_not_sound (tree : FileTree) (unsound : ¬Sound path) :
    tree.locate path = .error .nullCharacter ∨ tree.locate path = .error .tooLong := by
  by_cases clean : path.parts.any fun name => name.toList.contains '\x00'
  · left
    rw [locate, if_pos clean]
    rfl
  · right
    have long : pathLimit < octetCount path.text := by
      by_contra short
      exact unsound ⟨by simpa using clean, Nat.not_lt.mp short⟩
    rw [locate, if_neg clean, if_pos long]
    rfl

/-- Where a path is located, the way to its directory leads there, and its
name is not too long. -/
theorem walk_of_locate {place : Location} {name : String}
    (located : tree.locate path = .ok (place, name)) :
    Sound path ∧ tree.walk (top path) path.parts.dropLast = .ok place ∧
      path.parts.getLast?.getD "" = name ∧ octetCount name ≤ nameLimit := by
  have sound : Sound path := by
    by_contra unsound
    rcases locate_of_not_sound tree unsound with refused | refused
    · cases refused.symm.trans located
    · cases refused.symm.trans located
  rw [locate_of_sound sound] at located
  obtain ⟨found, walks, named⟩ := bind_eq_ok_iff.mp located
  split at named
  · cases named
  · next short =>
      cases named
      exact ⟨sound, walks, rfl, Nat.not_lt.mp short⟩

/-- A path can be followed to a directory. -/
structure Holds (tree : FileTree) (path : FilePath) : Prop where
  sound : Sound path
  leads : ∃ place, tree.walk (top path) path.parts = .ok place

theorem Holds.of_keepsDirectories (holds : before.Holds path)
    (keeps : before.KeepsDirectories after) : after.Holds path := by
  obtain ⟨place, walks⟩ := holds.leads
  exact ⟨holds.sound, place, walk_of_keepsDirectories keeps walks⟩

theorem sound_of_ensureDirectory (made : before.ensureDirectory path = .ok after) :
    Sound path := by
  by_contra unsound
  rcases locate_of_not_sound before unsound with refused | refused
  · simp [ensureDirectory, makeDirectory, refused, obstacleFault] at made
  · simp [ensureDirectory, makeDirectory, refused, obstacleFault] at made

/-- A directory that is made was not there. -/
theorem exists_of_makeDirectory (made : before.makeDirectory path = .ok after) :
    ∃ place name, before.locate path = .ok (place, name) ∧ name ≠ ".." ∧ path.parts ≠ [] ∧
      before.entry? (place ++ [name]) = none ∧
        after = before.write (place ++ [name]) .directory := by
  simp only [makeDirectory] at made
  cases located : before.locate path with
  | error obstacle =>
      rw [located] at made
      cases made
  | ok found =>
      obtain ⟨place, name⟩ := found
      simp only [located] at made
      split at made
      · cases made
      next fine =>
      split at made
      · cases made
      next absent =>
      obtain ⟨down, some⟩ := not_or.mp fine
      exact ⟨place, name, rfl, down, by simpa using some, by simpa using absent,
        (Except.ok.inj made).symm⟩

/-- Where a directory was made sure of it is there, and no other one is gone. -/
theorem holds_of_ensureDirectory (made : before.ensureDirectory path = .ok after) :
    after.Holds path ∧ before.KeepsDirectories after := by
  have sound := sound_of_ensureDirectory made
  simp only [ensureDirectory] at made
  cases found : before.makeDirectory path with
  | ok new =>
      rw [found] at made
      cases made
      obtain ⟨place, name, located, down, some, absent, rfl⟩ := exists_of_makeDirectory found
      have keeps : before.KeepsDirectories (before.write (place ++ [name]) .directory) := by
        intro other there
        rw [isDirectory_write _ (by simp)]
        split
        · rfl
        · exact there
      obtain ⟨-, walks, named, short⟩ := walk_of_locate located
      refine ⟨⟨sound, place ++ [name], ?_⟩, keeps⟩
      have last : path.parts.getLast some = name := by
        rw [← named, List.getLast?_eq_getLast_of_ne_nil some, Option.getD_some]
      rw [← List.dropLast_append_getLast some, last, walk_append,
        walk_of_keepsDirectories keeps walks]
      have there : FileTree.entry? (before.write (place ++ [name]) .directory) (place ++ [name]) =
          Option.some .directory := by
        unfold entry?
        simp [lookup_write]
      simp [bind, Except.bind, walk, down, Nat.not_lt.mpr short, there]
  | error fault =>
      rw [found] at made
      cases leads : before.leadsToDirectory path with
      | false => cases fault <;> simp [leads] at made
      | true =>
          obtain rfl : before = after := by cases fault <;> simp_all
          refine ⟨⟨sound, ?_⟩, fun _ there => there⟩
          simp only [leadsToDirectory] at leads
          split at leads
          · next place walks => exact ⟨place, walks⟩
          · cases leads

/-- A directory that is there is not made again. -/
theorem makeDirectory_of_holds (holds : tree.Holds path) :
    tree.makeDirectory path = .error (.inTheWay path.text) := by
  obtain ⟨place, walks⟩ := holds.leads
  rcases List.eq_nil_or_concat path.parts with none | ⟨names, name, parts⟩
  · have located : tree.locate path = .ok (top path, "") := by
      rw [locate_of_sound holds.sound, none]
      rfl
    simp [makeDirectory, located, none]
  · rw [List.concat_eq_append] at parts
    rw [parts, walk_append] at walks
    obtain ⟨found, way, step⟩ := bind_eq_ok_iff.mp walks
    have located (short : octetCount name ≤ nameLimit) :
        tree.locate path = .ok (found, name) := by
      simp [locate_of_sound holds.sound, parts, way, bind, Except.bind, Nat.not_lt.mpr short]
    simp only [walk] at step
    split at step
    · next up =>
        simp [makeDirectory, located (up ▸ by decide), up]
    split at step
    · cases step
    next short =>
    cases there : tree.entry? (found ++ [name]) with
    | none =>
        rw [there] at step
        cases step
    | some entry => simp [makeDirectory, located (Nat.not_lt.mp short), there]

theorem ensureDirectory_of_holds (holds : tree.Holds path) :
    tree.ensureDirectory path = .ok tree := by
  obtain ⟨place, walks⟩ := holds.leads
  simp [ensureDirectory, makeDirectory_of_holds holds, leadsToDirectory, walks]

end FileTree

namespace FileAction

open FileTree

theorem leaves_get_iff {next : FileTree → FileAction Unit} {before after : FileTree} :
    ((get : FileAction FileTree) >>= next).Leaves before after ↔
      (next before).Leaves before after :=
  .rfl

/-- Directories that are there are not made again. -/
theorem leaves_ensureDirectories_of_holds {tree : FileTree} {path : FilePath} (depth : Nat)
    (holds : tree.Holds path) : (ensureDirectories depth path).Leaves tree tree := by
  have ensures : (ofChange (·.ensureDirectory path)).Leaves tree tree :=
    leaves_ofChange_iff.mpr (ensureDirectory_of_holds holds)
  cases depth with
  | zero => exact ensures
  | succ depth =>
      rw [ensureDirectories, leaves_get_iff, makeDirectory_of_holds holds]
      exact ensures

/-- Where directories were made the last one is there, and no other one is gone. -/
theorem holds_of_ensureDirectories {before after : FileTree} {depth : Nat} {path : FilePath}
    (made : (ensureDirectories depth path).Leaves before after) :
    after.Holds path ∧ before.KeepsDirectories after := by
  induction depth generalizing path after with
  | zero => exact holds_of_ensureDirectory (leaves_ofChange_iff.mp made)
  | succ depth ih =>
      rw [ensureDirectories, leaves_get_iff] at made
      split at made
      · obtain ⟨between, above, last⟩ := leaves_bind_iff.mp made
        obtain ⟨holds, keeps⟩ := holds_of_ensureDirectory (leaves_ofChange_iff.mp last)
        exact ⟨holds, (ih above).2.trans keeps⟩
      · exact holds_of_ensureDirectory (leaves_ofChange_iff.mp made)

end FileAction

namespace FileTree

open FileAction

variable {before between after : FileTree} {path other : FilePath} {content : Document}

/-! ## Files in one directory -/

/-- Writing a document at a path ends well and leaves this tree. -/
def Writes (before : FileTree) (path : FilePath) (content : Document) (after : FileTree) : Prop :=
  (FileAction.write path (.document content)).Leaves before after

/-- A document can be written at a path, whatever it says. -/
def Accepts (tree : FileTree) (path : FilePath) : Prop :=
  ∀ content, ∃ after, tree.Writes path content after

/-- Two paths lead to names in one directory. -/
structure Beside (first second : FilePath) : Prop where
  parent : first.parent = second.parent
  depth : first.parts.length = second.parts.length

/-- A document can be put at a path whose directory is there. -/
structure Free (tree : FileTree) (path : FilePath) : Prop where
  sound : Sound path
  name : octetCount (path.parts.getLast?.getD "") ≤ nameLimit
  free : ∀ place, tree.walk (top path) path.parts.dropLast = .ok place →
    tree.isDirectory (place ++ [path.parts.getLast?.getD ""]) = false

theorem writes_iff :
    before.Writes path content after ↔ ∃ between,
      (ensureDirectories path.parts.length path.parent).Leaves before between ∧
        between.writeFile path (.document content) = .ok after := by
  rw [Writes, FileAction.write, leaves_bind_iff]
  simp only [leaves_ofChange_iff]

/-- Writing a file puts it at the place of its name in the directory of its path. -/
theorem writeFile_eq_ok_iff {place : Location}
    (walks : before.walk (top path) path.parts.dropLast = .ok place) :
    before.writeFile path (.document content) = .ok after ↔ before.Free path ∧
      after = before.write (place ++ [path.parts.getLast?.getD ""]) (.document content) := by
  constructor
  · intro written
    simp only [writeFile] at written
    cases located : before.locate path with
    | error obstacle =>
        rw [located] at written
        cases written
    | ok found =>
        obtain ⟨spot, name⟩ := found
        obtain ⟨sound, way, named, short⟩ := walk_of_locate located
        cases way.symm.trans walks
        simp only [located, ← named] at written
        split at written
        · cases written
        · next free =>
            refine ⟨⟨sound, named ▸ short, ?_⟩, (Except.ok.inj written).symm⟩
            intro other way
            cases way.symm.trans walks
            simpa using free
  · rintro ⟨free, rfl⟩
    have short := Nat.not_lt.mpr free.name
    simp [writeFile, locate_of_sound free.sound, walks, bind, Except.bind, short,
      free.free place walks]

/-- Once the directories of a path are made, a document can be put there if it can be written. -/
theorem accepts_iff_free
    (made : (ensureDirectories path.parts.length path.parent).Leaves before between) :
    before.Accepts path ↔ between.Free path := by
  obtain ⟨place, walks⟩ := (holds_of_ensureDirectories made).1.leads
  constructor
  · intro accepts
    obtain ⟨after, writes⟩ := accepts ⟨"", []⟩
    obtain ⟨reached, again, written⟩ := writes_iff.mp writes
    cases made.symm.trans again
    exact ((writeFile_eq_ok_iff walks).mp written).1
  · intro free content
    exact ⟨_, writes_iff.mpr ⟨between, made, (writeFile_eq_ok_iff walks).mpr ⟨free, rfl⟩⟩⟩

/-- Where one document was written, any can be. -/
theorem accepts_of_writes (writes : before.Writes path content after) : before.Accepts path := by
  obtain ⟨between, made, written⟩ := writes_iff.mp writes
  obtain ⟨place, walks⟩ := (holds_of_ensureDirectories made).1.leads
  exact (accepts_iff_free made).mpr ((writeFile_eq_ok_iff walks).mp written).1

/-- Once a document was written beside it, a document can be written at a path if and only
if it could be before. -/
theorem accepts_iff_of_writes (writes : before.Writes path content after)
    (beside : Beside path other) : after.Accepts other ↔ before.Accepts other := by
  obtain ⟨between, made, written⟩ := writes_iff.mp writes
  have holds := (holds_of_ensureDirectories made).1
  obtain ⟨place, walks⟩ := holds.leads
  obtain ⟨free, rfl⟩ := (writeFile_eq_ok_iff walks).mp written
  have there := free.free place walks
  have keeps : between.KeepsDirectories
      (between.write (place ++ [path.parts.getLast?.getD ""]) (.document content)) := by
    intro spot directory
    rw [isDirectory_write _ (by simp)]
    split
    · next same => simp [same, there] at directory
    · exact directory
  rw [beside.parent, beside.depth] at made
  obtain ⟨root, parts⟩ := FilePath.mk.inj beside.parent
  have wayOther : between.walk (top other) other.parts.dropLast = .ok place := by
    rw [← parts, top, ← root]
    exact walks
  have wayAfter := walk_of_keepsDirectories keeps wayOther
  rw [accepts_iff_free made, accepts_iff_free
    (leaves_ensureDirectories_of_holds _ (beside.parent ▸ holds.of_keepsDirectories keeps))]
  have same : ∀ name, (between.write (place ++ [path.parts.getLast?.getD ""])
      (.document content)).isDirectory (place ++ [name]) =
        between.isDirectory (place ++ [name]) := by
    intro name
    rw [isDirectory_write _ (by simp)]
    split
    · next own => rw [own, there]; rfl
    · rfl
  constructor
  · intro freeAfter
    refine ⟨freeAfter.sound, freeAfter.name, fun found way => ?_⟩
    cases way.symm.trans wayOther
    exact (same _).symm.trans (freeAfter.free place wayAfter)
  · intro freeBetween
    refine ⟨freeBetween.sound, freeBetween.name, fun found way => ?_⟩
    cases way.symm.trans wayAfter
    exact (same _).trans (freeBetween.free place wayOther)

end FileTree

/-! ## The documents of a month -/

namespace Text

theorem split_of_whole {separates : Char → Bool} {text : List Char}
    (whole : ∀ c ∈ text, separates c = false) : split separates text = [text] := by
  induction text with
  | nil => rfl
  | cons c rest ih =>
      rw [split, ih fun other mem => whole other (List.mem_cons_of_mem _ mem)]
      simp [whole c List.mem_cons_self]

/-- What is appended to a text without a separator goes to its last part. -/
theorem exists_split_append (separates : Char → Bool) (front : List Char) :
    ∃ before last, ∀ tail : List Char, (∀ c ∈ tail, separates c = false) →
      split separates (front ++ tail) = before ++ [last ++ tail] := by
  induction front with
  | nil => exact ⟨[], [], fun tail whole => split_of_whole whole⟩
  | cons c rest ih =>
      obtain ⟨before, last, ends⟩ := ih
      by_cases apart : separates c
      · refine ⟨[] :: before, last, fun tail whole => ?_⟩
        rw [List.cons_append, split, ends tail whole]
        cases before <;> simp [apart]
      · cases before with
        | nil =>
            refine ⟨[], c :: last, fun tail whole => ?_⟩
            rw [List.cons_append, split, ends tail whole]
            simp [apart]
        | cons first others =>
            refine ⟨(c :: first) :: others, last, fun tail whole => ?_⟩
            rw [List.cons_append, split, ends tail whole]
            simp [apart]

/-- A number in a column has no slash. -/
theorem slash_not_mem_padded (width : Nat) (n : Int) : '/' ∉ (padded width n).toList := by
  have slash : '/' ∉ Nat.toDigits 10 n.natAbs := by
    intro mem
    exact absurd (Nat.isDigit_of_mem_toDigits (by decide) (by decide) mem) (by decide)
  have dash : "-".toList = ['-'] := rfl
  unfold padded
  split
  · simp [zeroFilled, digits, slash, dash]
  · simp [zeroFilled, digits, slash]

end Text

namespace FilePath

/-- Whether a text has a root does not depend on what follows a dash in it. -/
theorem rootOf?_dash (lead first second : String) :
    rootOf? (lead ++ ("-" ++ first)) = rootOf? (lead ++ ("-" ++ second)) := by
  have dash : "-".toList = ['-'] := rfl
  simp only [rootOf?, String.toList_append, dash]
  rcases lead.toList with _ | ⟨a, _ | ⟨b, _ | ⟨c, rest⟩⟩⟩
  · simp
  · by_cases slash : a = '/' <;> simp [slash]
  · by_cases slash : a = '/' <;> by_cases more : b = '/' <;> simp [slash, more]
  · by_cases slash : a = '/' <;> by_cases more : b = '/' <;> by_cases most : c = '/' <;>
      simp [slash, more, most]

/-- What follows a dash in a text, and has no slash, is in the last of its names. -/
theorem exists_names_dash (lead : String) :
    ∃ before last, ∀ tail : String, '/' ∉ tail.toList →
      names (lead ++ ("-" ++ tail)) = before ++ [last ++ "-" ++ tail] := by
  obtain ⟨before, last, ends⟩ := Text.exists_split_append (· = '/') lead.toList
  refine ⟨(before.map String.ofList).filter fun name => name ≠ "" && name ≠ ".",
    String.ofList last, fun tail whole => ?_⟩
  have dash : "-".toList = ['-'] := rfl
  have noSlash : ∀ c ∈ ("-" ++ tail).toList, decide (c = '/') = false := by
    intro c mem
    rw [decide_eq_false_iff_not]
    rintro rfl
    simp [String.toList_append, dash, whole] at mem
  rw [names, String.toList_append, ends _ noSlash]
  have name : String.ofList (last ++ ("-" ++ tail).toList) =
      String.ofList last ++ "-" ++ tail := by
    rw [String.append_assoc]
    simp [String.ofList_append]
  have dashed : '-' ∈ (String.ofList last ++ "-" ++ tail).toList := by
    simp [String.toList_append, dash]
  have named : String.ofList last ++ "-" ++ tail ≠ "" := by
    intro none
    rw [none] at dashed
    exact absurd dashed (by decide)
  have proper : String.ofList last ++ "-" ++ tail ≠ "." := by
    intro point
    rw [point] at dashed
    exact absurd dashed (by decide)
  rw [List.map_append, List.filter_append, List.map_singleton, name]
  simp only [List.filter_cons, named, proper, ne_eq, not_false_eq_true, decide_true,
    Bool.and_self, if_true, List.filter_nil]

/-- Texts that differ after a dash, and have no slash there, lead to names in one directory. -/
theorem beside_join (path : FilePath) (lead : String) {first second : String}
    (whole : '/' ∉ first.toList) (wholeSecond : '/' ∉ second.toList) :
    FileTree.Beside (path.join (lead ++ ("-" ++ first)))
      (path.join (lead ++ ("-" ++ second))) := by
  obtain ⟨before, last, ends⟩ := exists_names_dash lead
  simp only [join, rootOf?_dash lead first second, ends _ whole, ends _ wholeSecond]
  cases rootOf? (lead ++ ("-" ++ second)) with
  | none => constructor <;> simp [parent, ← List.append_assoc]
  | some root => constructor <;> simp [parent]

end FilePath

namespace Billing

/-- The documents of a month under one prefix are in one directory. -/
theorem beside_documentPath (base : FilePath) (period : Period) (lead : String)
    (first second : Int) :
    FileTree.Beside (documentPath base period (invoiceNumber lead period first))
      (documentPath base period (invoiceNumber lead period second)) := by
  have slash (sequence : Int) : '/' ∉ (Text.padded 4 period.year ++ (Text.padded 2 period.month ++
      ("-" ++ (Text.padded 3 sequence ++ ".pdf")))).toList := by
    have dash : "-".toList = ['-'] := rfl
    have ending : ".pdf".toList = ['.', 'p', 'd', 'f'] := rfl
    simp [String.toList_append, Text.slash_not_mem_padded, dash, ending]
  have split (sequence : Int) : invoiceNumber lead period sequence ++ ".pdf" =
      lead ++ ("-" ++ (Text.padded 4 period.year ++ (Text.padded 2 period.month ++
        ("-" ++ (Text.padded 3 sequence ++ ".pdf"))))) := by
    simp only [invoiceNumber, String.append_assoc]
  simp only [documentPath, split]
  exact FilePath.beside_join _ lead (slash first) (slash second)

end Billing
end Tuition
