/-
# The command line of the worker

The worker takes a year, a month and a switch for running on, under long names that may be cut
short as long as they stay distinct. A number with a minus sign is a value and no option. Asking
for help counts as soon as it is reached; anything that is left over at the end is wrong.
-/

import Tuition.Request.Problem
import Tuition.Text.WholeNumber
import Tuition.Worker.Run

namespace Tuition.Worker

/-- What a command line asks for. An option that is given has a number, or no number where the
mark is attached to it in place of one. -/
structure Arguments where
  year : Option (Option Int) := none
  month : Option (Option Int) := none
  continuous : Bool := false
  deriving DecidableEq, Repr

/-- Why a command line asks for nothing. -/
inductive Usage where
  | help
  | wrong
  deriving DecidableEq, Repr

/-- The options. -/
inductive CommandOption where
  | help
  | year
  | month
  | continuous
  deriving DecidableEq, Repr

namespace CommandOption

/-- The long name of an option. -/
def name : CommandOption → String
  | .help => "--help"
  | .year => "--year"
  | .month => "--month"
  | .continuous => "--continuous"

/-- All options. -/
def all : List CommandOption :=
  [.help, .year, .month, .continuous]

/-- The options whose names start with a text. -/
def startingWith (text : String) : List CommandOption :=
  all.filter fun option => option.name.startsWith text

end CommandOption

/-- A word of a command line: the mark after which there are no options, an option with the value
that is attached to it, an option that is not known, or a plain word. -/
inductive Word where
  | mark
  | known (option : CommandOption) (attached : Option String)
  | short (tail : List Char)
  | unknown
  | plain (text : String)
  deriving DecidableEq, Repr

/-- A text without the line end that it may have. -/
def withoutLineEnd (text : List Char) : List Char :=
  if text.getLast? = some '\n' then text.dropLast else text

/-- Whether a word is a negative number, which may have a line end behind it. -/
def isNegativeNumber (text : List Char) : Bool :=
  match withoutLineEnd text with
  | '-' :: digits =>
    let whole := digits.takeWhile fun c => (Text.digitValue? c).isSome
    match digits.drop whole.length with
    | [] => !whole.isEmpty
    | '.' :: decimals => !decimals.isEmpty && decimals.all fun c => (Text.digitValue? c).isSome
    | _ => false
  | _ => false

/-- Split a text at the first equals sign, if it has one. -/
def splitValue (text : String) : String × Option String :=
  let name := text.toList.takeWhile (· ≠ '=')
  match text.toList.drop name.length with
  | [] => (text, none)
  | _ :: value => (String.ofList name, some (String.ofList value))

/-- What a word that starts with a dash is when it names no option. -/
def unnamed (text : String) : Word :=
  if isNegativeNumber text.toList || text.toList.contains ' ' then .plain text else .unknown

/-- What a word that starts with two dashes is; `none` if it could be several options. -/
def longWord (text : String) : Option Word :=
  let (name, value) := splitValue text
  match CommandOption.all.find? (·.name == text) with
  | some option => some (.known option none)
  | none =>
    match CommandOption.startingWith name with
    | [option] => some (.known option value)
    | [] => some (unnamed text)
    | _ => none

/-- What a word is; `none` if it could be several options. -/
def classify (text : String) : Option Word :=
  match text.toList with
  | ['-', '-'] => some .mark
  | '-' :: '-' :: _ => longWord text
  | '-' :: 'h' :: tail => some (.short tail)
  | '-' :: _ :: _ => some (unnamed text)
  | _ => some (.plain text)

/-- What the words of a command line are: after the mark all are plain. -/
def classifyAll : List String → Option (List Word)
  | [] => some []
  | text :: others => do
    match ← classify text with
    | .mark => return .mark :: others.map .plain
    | word => return word :: (← classifyAll others)

/-- Whether the letters after a short `-h` leave it asking for help. They are short options in
turn, and there is no other one. An equals sign may stand before them, if there are any. -/
def asksForHelp : List Char → Bool
  | '=' :: letters => !letters.isEmpty && letters.all (· = 'h')
  | letters => letters.all (· = 'h')

/-- Take a number for an option. -/
def number (text : String) : Except Usage Int :=
  match Text.readInteger? text with
  | some n => .ok n
  | none => .error .wrong

/-- Take the number that is attached to an option. The mark is none. -/
def attachedNumber (text : String) : Except Usage (Option Int) :=
  if text = "--" then .ok none else (number text).map some

/-- The words read as a command line: what they ask for, and whether anything is left over. -/
def collect (arguments : Arguments) (leftOver : Bool) : List Word → Except Usage Arguments
  | [] => if leftOver then .error .wrong else .ok arguments
  | .mark :: others => collect arguments true others
  | .plain _ :: others => collect arguments true others
  | .unknown :: others => collect arguments true others
  | .short tail :: _ => .error (if asksForHelp tail then .help else .wrong)
  | .known .help none :: _ => .error .help
  | .known .continuous none :: others =>
    collect { arguments with continuous := true } leftOver others
  | .known .year (some value) :: others => do
    collect { arguments with year := some (← attachedNumber value) } leftOver others
  | .known .month (some value) :: others => do
    collect { arguments with month := some (← attachedNumber value) } leftOver others
  | .known .year none :: .plain value :: others => do
    collect { arguments with year := some (some (← number value)) } leftOver others
  | .known .month none :: .plain value :: others => do
    collect { arguments with month := some (some (← number value)) } leftOver others
  | .known _ _ :: _ => .error .wrong

/-- Read a command line. -/
def Arguments.read (words : List String) : Except Usage Arguments :=
  match classifyAll words with
  | none => .error .wrong
  | some classified => collect {} false classified

/-- What a worker is to do. -/
inductive Task where
  | nothing
  | runOnce (year month : Option Int)
  | keepRunning
  | refuse (rejection : Request.Rejection)
  deriving DecidableEq, Repr

/-- The name of the report of a run, as complaints about it give it. -/
def reportName : String := "MonthlyBillingResultDTO"

/-- The complaint about an option that is given without a number. -/
def numberless (name : String) (given : Option (Option Int)) : List Request.Complaint :=
  if given = some none then [⟨[name], .notWhole⟩] else []

/-- What a single run is told to do: a month that is named in full needs both of its numbers. -/
def Arguments.singleRun (arguments : Arguments) : Task :=
  let complaints := numberless "year" arguments.year ++ numberless "month" arguments.month
  if arguments.year.isNone || arguments.month.isNone || complaints.isEmpty then
    .runOnce arguments.year.join arguments.month.join
  else .refuse ⟨reportName, complaints⟩

/-- What a command line tells a worker to do. It only keeps running where
monthly billing is on. -/
def Arguments.task (arguments : Arguments) (monthlyBilling : Bool) : Task :=
  if !arguments.continuous then arguments.singleRun
  else if monthlyBilling then .keepRunning
  else .nothing

/-- The help text, by lines. -/
def helpLines : List String :=
  ["usage: monthly_billing.py [-h] [--year YEAR] [--month MONTH] [--continuous]",
   "",
   "Monthly Billing Worker",
   "",
   "options:",
   "  -h, --help     show this help message and exit",
   "  --year YEAR    Year to bill",
   "  --month MONTH  Month to bill",
   "  --continuous   Run continuously"]

/-- What is printed about the drafts. -/
def draftLines (counts : Billing.DraftCounts) : List String :=
  ["  Drafts created: " ++ Text.digits counts.created,
   "  Drafts updated: " ++ Text.digits counts.updated,
   "  Skipped (already issued): " ++ Text.digits counts.alreadyInvoiced,
   "  Skipped (no lines): " ++ Text.digits counts.withoutLines]

/-- What is printed about a run. -/
def reportLines (report : BillingReport) : List String :=
  ("Billing complete for " ++ report.period.text ++ ":") ::
    ((report.drafts.map draftLines).getD [] ++
      (report.issued.map fun run => "  Invoices issued: " ++ Text.digits run.count).toList ++
      (report.error.map fun refusal =>
        "  Error: " ++ refusal.report.code ++ " " ++ refusal.report.message).toList)

end Tuition.Worker
