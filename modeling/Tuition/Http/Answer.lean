/-
# Answers over HTTP

An answer has a status and a body: a JSON value, a text, a document to be saved, or nothing. The
status of a refused operation follows from the code of its report.
-/

import Tuition.Json.Basic
import Tuition.Report
import Tuition.Request.Problem

namespace Tuition.Http

/-- The body of an answer. -/
inductive Body where
  | json (value : Json)
  | text (text : String)
  | document (disposition : String)
  | empty
  deriving Repr

/-- An answer. -/
structure Answer where
  status : Nat
  body : Body
  deriving Repr

/-- The codes of operations that conflict with the state of the records. -/
def conflictCodes : List String :=
  ["INVOICE_NOT_DRAFT", "INVOICE_NOT_PAYABLE", "INVOICE_NOT_ISSUED", "INVOICE_STUDENT_MISMATCH",
   "OVERLAPPING_PRICE_OVERRIDE"]

/-- The status of a report. -/
def statusOf (report : Report) : Nat :=
  if report.code.endsWith "_NOT_FOUND" then 404
  else if conflictCodes.contains report.code then 409
  else if report.code = "VALIDATION_ERROR" then 422
  else if report.code.endsWith "_FAILED" then 500
  else 400

/-- The body of a report, which leaves a missing reason out. -/
def reportBody (report : Report) : Json :=
  .obj [("error", Json.withoutNulls
    [("code", .str report.code), ("message", .str report.message),
     ("reason", Json.ofText? report.reason)])]

/-- The status to answer with: one that is asked for, unless it is missing or zero. -/
def chosenStatus (asked : Json) (report : Report) : Json :=
  if asked.isTruthy then asked else .int (statusOf report)

namespace Answer

/-- The answer to a refused operation. -/
def ofReport (report : Report) : Answer :=
  ⟨statusOf report, .json (reportBody report)⟩

/-- The answer that something is wrong with the request. -/
def ofComplaints (complaints : List Request.Complaint) : Answer :=
  ofReport ⟨"VALIDATION_ERROR", "Invalid request parameters",
    some ("; ".intercalate (complaints.map Request.Complaint.line))⟩

/-- An answer of the service itself. -/
def detail (status : Nat) (text : String) : Answer :=
  ⟨status, .json (.obj [("detail", .str text)])⟩

/-- The answer that nothing is there. -/
def notFound : Answer := detail 404 "Not Found"

/-- The answer that something is there, but not for this method. -/
def wrongMethod : Answer := detail 405 "Method Not Allowed"

/-- The answer that the body cannot be worked with. -/
def badBody : Answer := detail 400 "There was an error parsing the body"

/-- The answer that points to the path without its last slash. -/
def redirect : Answer := ⟨307, .empty⟩

/-- The answer that a fault broke the operation off. -/
def serverError : Answer := ⟨500, .text "Internal Server Error"⟩

end Answer
end Tuition.Http
