/-
# Outcomes

An operation ends with a value or with a report. Messages show an outcome with all its parts, and
asking a failed one for its value is a mistake that names the code of the report.
-/

import Tuition.Json.Printer
import Tuition.Report

namespace Tuition

namespace Report

/-- A report as a value. -/
def toJson (report : Report) : Json :=
  .obj [("code", .str report.code), ("message", .str report.message),
    ("reason", Json.ofText? report.reason)]

/-- A report as messages show it. -/
def inspect (report : Report) : String :=
  "Error(code=" ++ Text.quoted report.code ++ ", message=" ++ Text.quoted report.message ++
    ", reason=" ++ (Json.ofText? report.reason).inspect ++ ")"

end Report

/-- The end of an operation: a value or a report. -/
abbrev Outcome := Except Report Json

namespace Outcome

/-- An outcome as messages show it. -/
def inspect : Outcome → String
  | .ok value => "Result(value=" ++ value.inspect ++ ")"
  | .error report => "Result(error=" ++ report.inspect ++ ")"

/-- What is wrong with asking an outcome for its value. -/
def misuse? : Outcome → Option String
  | .ok _ => none
  | .error report => some ("Result is an error: " ++ report.code)

end Outcome
end Tuition
