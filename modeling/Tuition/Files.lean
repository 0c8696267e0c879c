/-
# Paths and files

A path is the text of a root and the names that follow it; it is shown as it was put
together. What it leads to is its location, a list of names in which every `..` has been
followed. Directories are made as they are needed, and a name that a file already has
cannot become a directory. Directories that were made stay there even when the file they
were made for cannot be written.
-/

import Tuition.Document
import Tuition.Fault
import Tuition.Text.Octets
import Tuition.Text.Split

namespace Tuition

/-- A path: the text of its root, and the names below it. -/
structure FilePath where
  root : String
  parts : List String
  deriving DecidableEq, Repr, Inhabited

namespace FilePath

/-- The names in a text: what stands between slashes, except nothing and single points. -/
def names (text : String) : List String :=
  ((Text.split (· = '/') text.toList).map String.ofList).filter fun name =>
    name ≠ "" && name ≠ "."

/-- The root that a text starts with: one slash, or two if there are exactly two. -/
def rootOf? (text : String) : Option String :=
  match text.toList with
  | '/' :: '/' :: '/' :: _ => some "/"
  | '/' :: '/' :: _ => some "//"
  | '/' :: _ => some "/"
  | _ => none

/-- Append a text to a path. A text with a root of its own replaces the path. -/
def join (path : FilePath) (text : String) : FilePath :=
  match rootOf? text with
  | some root => ⟨root, names text⟩
  | none => { path with parts := path.parts ++ names text }

/-- The text of a path. -/
def text (path : FilePath) : String :=
  if path.root.endsWith "/" then path.root ++ "/".intercalate path.parts
  else if path.parts.isEmpty then path.root
  else path.root ++ "/" ++ "/".intercalate path.parts

/-- The path of the directory that a path is in. -/
def parent (path : FilePath) : FilePath :=
  { path with parts := path.parts.dropLast }

/-- Follow the steps up in a list of names. -/
def collapse (names : List String) : List String :=
  names.foldl (fun place name => if name = ".." then place.dropLast else place ++ [name]) []

/-- The path of an absolute text in which no name has been made a file yet. Names hold no null
character. -/
def resolve (text : String) : Except FileFault FilePath :=
  if text.toList.contains '\x00' then .error .nullCharacter else .ok ⟨"/", collapse (names text)⟩

end FilePath

/-- What is at a location. -/
inductive FileEntry where
  | directory
  | document (content : Document)
  | empty
  deriving DecidableEq, Repr

/-- A place in the tree of files. -/
abbrev Location := List String

/-- All files and directories. -/
abbrev FileTree := List (Location × FileEntry)

namespace FileTree

/-- What is at a location. The top of the tree is always a directory. -/
def entry? (tree : FileTree) (place : Location) : Option FileEntry :=
  if place.isEmpty then some .directory else tree.lookup place

/-- Put an entry at a location, in place of what is there. -/
def write (tree : FileTree) (place : Location) (entry : FileEntry) : FileTree :=
  (tree.filter (·.1 != place)) ++ [(place, entry)]

/-- Remove what is at a location. -/
def remove (tree : FileTree) (place : Location) : FileTree :=
  tree.filter (·.1 != place)

/-- Whether there is a directory at a location. -/
def isDirectory (tree : FileTree) (place : Location) : Bool :=
  tree.entry? place == some .directory

/-- How many octets a text takes. -/
def octetCount (text : String) : Nat :=
  (Text.utf8Octets text).length

/-- The longest name, in octets. -/
def nameLimit : Nat := 255

/-- The longest path, in octets. -/
def pathLimit : Nat := 4095

/-- Why a path leads nowhere. -/
inductive Obstacle where
  | missing
  | blocked
  | tooLong
  | nullCharacter
  deriving DecidableEq, Repr

/-- The location of the top of a path. -/
def top (path : FilePath) : Location :=
  if path.root.endsWith "/" then [] else [path.root]

/-- Follow names through directories. -/
def walk (tree : FileTree) (place : Location) : List String → Except Obstacle Location
  | [] => .ok place
  | name :: rest =>
    if name = ".." then walk tree place.dropLast rest
    else if nameLimit < octetCount name then .error .tooLong
    else
      match tree.entry? (place ++ [name]) with
      | some .directory => walk tree (place ++ [name]) rest
      | some _ => .error .blocked
      | none => .error .missing

/-- Where a path leads: the directory it is in, and its own name. -/
def locate (tree : FileTree) (path : FilePath) : Except Obstacle (Location × String) := do
  if path.parts.any fun name => name.toList.contains '\x00' then throw .nullCharacter
  if pathLimit < octetCount path.text then throw .tooLong
  let place ← walk tree (top path) path.parts.dropLast
  let name := path.parts.getLast?.getD ""
  if nameLimit < octetCount name then throw .tooLong
  return (place, name)

/-- The fault of a path that leads nowhere. -/
def obstacleFault (path : FilePath) : Obstacle → FileFault
  | .missing => .missing path.text
  | .blocked => .notDirectory path.text
  | .tooLong => .nameTooLong path.text
  | .nullCharacter => .nullCharacter

/-- Whether a path leads to a directory. -/
def leadsToDirectory (tree : FileTree) (path : FilePath) : Bool :=
  match tree.walk (top path) path.parts with
  | .ok _ => true
  | .error _ => false

/-- Make one directory. -/
def makeDirectory (tree : FileTree) (path : FilePath) : Except FileFault FileTree :=
  match tree.locate path with
  | .error obstacle => .error (obstacleFault path obstacle)
  | .ok (place, name) =>
    if name = ".." ∨ path.parts.isEmpty then .error (.inTheWay path.text)
    else if (tree.entry? (place ++ [name])).isSome then .error (.inTheWay path.text)
    else .ok (tree.write (place ++ [name]) .directory)

/-- Make a directory unless there is one. -/
def ensureDirectory (tree : FileTree) (path : FilePath) : Except FileFault FileTree :=
  match tree.makeDirectory path with
  | .ok made => .ok made
  | .error fault =>
    match fault with
    | .nullCharacter => .error fault
    | .nameTooLong _ => .error fault
    | _ => if tree.leadsToDirectory path then .ok tree else .error fault

/-- Write a file into a directory that exists. -/
def writeFile (tree : FileTree) (path : FilePath) (entry : FileEntry) :
    Except FileFault FileTree :=
  match tree.locate path with
  | .error obstacle => .error (obstacleFault path obstacle)
  | .ok (place, name) =>
    if tree.isDirectory (place ++ [name]) then .error (.isDirectory path.text)
    else .ok (tree.write (place ++ [name]) entry)

/-- Remove a file. -/
def removeFile (tree : FileTree) (path : FilePath) : Except FileFault FileTree :=
  match tree.locate path with
  | .error obstacle => .error (obstacleFault path obstacle)
  | .ok (place, name) =>
    match tree.entry? (place ++ [name]) with
    | some .directory => .error (.isDirectory path.text)
    | some _ => .ok (tree.remove (place ++ [name]))
    | none => .error (.missing path.text)

end FileTree

/-- An operation on the tree of files. What it has done stays done when a fault breaks it off. -/
abbrev FileAction := ExceptT FileFault (StateM FileTree)

namespace FileAction

/-- A change of the tree that is done in full or not at all. -/
def ofChange (change : FileTree → Except FileFault FileTree) : FileAction Unit := do
  set (← ExceptT.mk (pure (change (← get))))

/-- Make a directory and those above it that are missing. `depth` names of
the path may be missing. -/
def ensureDirectories : Nat → FilePath → FileAction Unit
  | 0, path => ofChange (·.ensureDirectory path)
  | depth + 1, path => do
    match (← get).makeDirectory path with
    | .error (.missing _) =>
      ensureDirectories depth path.parent
      ofChange (·.ensureDirectory path)
    | _ => ofChange (·.ensureDirectory path)

/-- Write a file, making the directories that its path needs. -/
def write (path : FilePath) (entry : FileEntry) : FileAction Unit := do
  ensureDirectories path.parts.length path.parent
  ofChange (·.writeFile path entry)

/-- Remove a file. -/
def remove (path : FilePath) : FileAction Unit :=
  ofChange (·.removeFile path)

end FileAction
end Tuition
