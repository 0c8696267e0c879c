/-
# Faults

A fault breaks off an operation in the middle: a part of the system is out of order, the
store refuses a row, a number or text has no value that could be worked with, or a
result cannot be shown. What a fault is called is said here once; what becomes of the
operation is up to the use case.
-/

import Tuition.Calendar.Moment
import Tuition.Decimal.Basic
import Tuition.Request.Problem

namespace Tuition

/-- A rule of the store that a row breaks. -/
inductive Violation where
  | unique (columns : List String)
  | check (name : String)
  | notNull (column : String)
  deriving DecidableEq, Repr

/-- How a violation is reported. -/
def Violation.message : Violation → String
  | .unique columns => "UNIQUE constraint failed: " ++ ", ".intercalate columns
  | .check name => "CHECK constraint failed: " ++ name
  | .notNull column => "NOT NULL constraint failed: " ++ column

/-- Why a file or directory cannot be written. -/
inductive FileFault where
  | inTheWay (path : String)
  | notDirectory (path : String)
  | isDirectory (path : String)
  | nameTooLong (path : String)
  | missing (path : String)
  | nullCharacter
  deriving DecidableEq, Repr

/-- How a fault of a file is reported. -/
def FileFault.message : FileFault → String
  | .inTheWay path => "[Errno 17] File exists: " ++ Text.quoted path
  | .notDirectory path => "[Errno 20] Not a directory: " ++ Text.quoted path
  | .isDirectory path => "[Errno 21] Is a directory: " ++ Text.quoted path
  | .nameTooLong path => "[Errno 36] File name too long: " ++ Text.quoted path
  | .missing path => "[Errno 2] No such file or directory: " ++ Text.quoted path
  | .nullCharacter => "embedded null byte"

/-- What a value that is missing was needed for. -/
inductive Need where
  | format
  | value
  | replacement
  | factor
  deriving DecidableEq, Repr

/-- How a need that was not met is reported. -/
def Need.message : Need → String
  | .format => "unsupported format string passed to NoneType.__format__"
  | .value => "'NoneType' object has no attribute 'value'"
  | .replacement => "'NoneType' object has no attribute 'replace'"
  | .factor => "unsupported operand type(s) for *: 'NoneType' and 'decimal.Decimal'"

/-- Why an operation breaks off. -/
inductive Fault where
  | outage (message : String)
  | arithmetic (fault : Decimal.Fault)
  | calendar (fault : Calendar.Fault)
  | violation (broken : Violation)
  | noTable (table : String)
  | numberTooLarge
  | sumTooLarge
  | unpaired (place : Nat) (codes : List Nat)
  | signalingAmount
  | notAMember (value kind : String)
  | noSuchField (record field : String)
  | missing (need : Need)
  | unshown (rejection : Request.Rejection)
  | file (fault : FileFault)
  deriving DecidableEq, Repr

/-- How surrogates without partners at a place of a text are reported. -/
def unpairedMessage (place : Nat) (codes : List Nat) : String :=
  let shown := match codes with
    | [code] => "character '" ++ Text.escapedCode code ++ "' in position " ++ Text.digits place
    | _ =>
      "characters in position " ++ Text.digits place ++ "-" ++
        Text.digits (place + codes.length - 1)
  "'utf-8' codec can't encode " ++ shown ++ ": surrogates not allowed"

/-- How a fault is reported. -/
def Fault.message : Fault → String
  | .outage message => message
  | .arithmetic fault => fault.message
  | .calendar fault => fault.message
  | .violation broken => "(sqlite3.IntegrityError) " ++ broken.message
  | .noTable table => "(sqlite3.OperationalError) no such table: " ++ table
  | .numberTooLarge => "Python int too large to convert to SQLite INTEGER"
  | .sumTooLarge => "(sqlite3.OperationalError) integer overflow"
  | .unpaired place codes => unpairedMessage place codes
  | .signalingAmount => "(builtins.ValueError) cannot convert signaling NaN to float"
  | .notAMember value kind => Text.quoted value ++ " is not a valid " ++ kind
  | .noSuchField record field => "\"" ++ record ++ "\" object has no field \"" ++ field ++ "\""
  | .missing need => need.message
  | .unshown rejection => rejection.text
  | .file fault => fault.message

/-- Refuse to show a form with amounts that are not finite. -/
def requireFinite (form : String) (amounts : List (String × Decimal)) : Except Fault Unit :=
  match amounts.filter (!·.2.isFinite) with
  | [] => .ok ()
  | endless => .error (.unshown ⟨form, endless.map fun amount => ⟨[amount.1], .notFinite⟩⟩)

end Tuition
