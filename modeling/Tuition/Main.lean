/-
# The worker as a program

The program reads its command line, bills as it says, and prints what was done. The
configuration is in `env.yaml` and the records are in `records.json`, both in the present
directory; a missing file counts as an empty one. The records are written back after each run.
Documents are laid out but not printed.
-/

import Std.Time.DateTime.Timestamp
import Tuition.Calendar.Field
import Tuition.Configuration.Basic
import Tuition.Json.Column
import Tuition.Record.Archive
import Tuition.Worker.CommandLine
import Tuition.Worker.Schedule

namespace Tuition.Program

/-- The file of the configuration. -/
def configurationFile : String := "env.yaml"

/-- The file of the records. -/
def recordsFile : String := "records.json"

/-- The text of a file, if it can be read. -/
def readFile? (name : String) : IO (Option String) :=
  tryCatch (some <$> IO.FS.readFile name) fun _ => return none

/-- Take a result, or stop with the message of its fault. -/
def require {ε α : Type} (message : ε → String) : Except ε α → IO α
  | .ok value => return value
  | .error fault => throw (IO.userError (message fault))

/-- The present moment in universal time. -/
def now : IO Moment := do
  let microseconds := (← Std.Time.Timestamp.now).toNanosecondsSinceUnixEpoch.val / 1000
  let field ← require Calendar.FieldFault.message (Calendar.ofUnixMicroseconds microseconds)
  return field.toMoment?.getD default

/-- The store in the file of the records. -/
def readStore (now : Moment) : IO Store := do
  match ← readFile? recordsFile with
  | none => return {}
  | some text => require Record.ArchiveFault.message (Record.ofArchive now text)

/-- The worker that a configuration describes. -/
def workerOf (configuration : Configuration) : IO Worker := do
  let directory ← require FileFault.message (FilePath.resolve (← IO.currentDir).toString)
  return ⟨directory.join configuration.outputDirectory.plain,
    configuration.billsAllWhenNoneActive⟩

/-- Run an operation on the records at the present moment, and write them back. -/
def run {α : Type} (action : Tx α) : IO α := do
  let now ← now
  let store ← readStore now
  let world : World :=
    { store, pending := store, hasTables := true, outages := [], files := [], now }
  let (result, after) := action.perform world
  IO.FS.writeFile recordsFile (Record.archive after.store)
  require Fault.message result

/-- The seconds between two checks. -/
def secondsOf : Json → Nat
  | .int seconds => seconds.toNat
  | .real seconds => (seconds.toInt?.getD 0).toNat
  | _ => 86400

/-- Check again and again. -/
partial def keepRunning (worker : Worker) (seconds : Nat) (done : Option Worker.Month) :
    IO Unit := do
  let done ← run (worker.check done)
  IO.sleep (1000 * seconds).toUInt32
  keepRunning worker seconds done

/-- Bill once and print what was done. -/
def runOnce (worker : Worker) (year month : Option Int) : IO Unit := do
  let start ← IO.monoMsNow
  let report ← run (worker.runOnce year month)
  for line in Worker.reportLines report do
    IO.println line
  IO.println ("  Execution time: " ++ Text.digits ((← IO.monoMsNow) - start) ++ "ms")

/-- Do what a command line asks for. -/
def runCommand (arguments : Worker.Arguments) : IO Unit := do
  let configuration ← require Configuration.ReadFault.message <|
    Configuration.read (← readFile? configurationFile)
  let worker ← workerOf configuration
  match arguments.task configuration.monthlyBilling with
  | .nothing => return ()
  | .runOnce year month => runOnce worker year month
  | .keepRunning => keepRunning worker (secondsOf configuration.checkInterval) none
  | .refuse rejection => throw (.userError rejection.text)

end Tuition.Program

/-- Run the worker; a command line that asks for nothing ends with the status 2. -/
def main (words : List String) : IO UInt32 := do
  match Tuition.Worker.Arguments.read words with
  | .ok arguments =>
    Tuition.Program.runCommand arguments
    return 0
  | .error .help =>
    for line in Tuition.Worker.helpLines do
      IO.println line
    return 0
  | .error .wrong =>
    IO.eprintln (Tuition.Worker.helpLines.headD "")
    return 2
