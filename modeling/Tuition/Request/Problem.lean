/-
# What is wrong with a request

A value that does not fit its field is complained about: where it stands, what kind of
problem it is, and how that is said. A rejection gathers the complaints about one form in
the order of its fields.
-/

import Tuition.Calendar.Field

namespace Tuition.Request

/-- What is wrong with a value. -/
inductive Problem where
  | missing
  | notForm (form : String)
  | notFields
  | malformed
  | notWhole
  | fractional
  | unreadableWhole
  | wholeTooLong
  | notAbove (bound : Int)
  | below (bound : Int)
  | above (bound : Int)
  | notText
  | notUnicode
  | tooLong (limit : Nat)
  | unlike (pattern : String)
  | notDecimal
  | unreadableDecimal
  | notFinite
  | notAmong (first second : String)
  | date (fault : Calendar.DateFieldFault)
  | notMoment
  | momentUnreadable (fault : Calendar.FieldFault)
  | momentYearZero
  | rule (message : String)
  deriving DecidableEq, Repr

namespace Problem

/-- The kind of a problem with a date. -/
def dateKind : Calendar.DateFieldFault → String
  | .wrongType => "date_type"
  | .unreadable _ => "date_from_datetime_parsing"
  | .notMidnight => "date_from_datetime_inexact"
  | .yearZero => "date_parsing"

/-- What is said about a problem with a date. -/
def dateMessage : Calendar.DateFieldFault → String
  | .wrongType => "Input should be a valid date"
  | .unreadable fault => "Input should be a valid date or datetime, " ++ fault.message
  | .notMidnight => "Datetimes provided to dates should have zero time - e.g. be exact dates"
  | .yearZero => "Input should be a valid date in the format YYYY-MM-DD, year 0 is out of range"

/-- The kind of a problem. -/
def kind : Problem → String
  | .missing => "missing"
  | .notForm _ => "model_type"
  | .notFields => "model_attributes_type"
  | .malformed => "json_invalid"
  | .notWhole => "int_type"
  | .fractional => "int_from_float"
  | .unreadableWhole => "int_parsing"
  | .wholeTooLong => "int_parsing_size"
  | .notAbove _ => "greater_than"
  | .below _ => "greater_than_equal"
  | .above _ => "less_than_equal"
  | .notText => "string_type"
  | .notUnicode => "string_unicode"
  | .tooLong _ => "string_too_long"
  | .unlike _ => "string_pattern_mismatch"
  | .notDecimal => "decimal_type"
  | .unreadableDecimal => "decimal_parsing"
  | .notFinite => "finite_number"
  | .notAmong _ _ => "enum"
  | .date fault => dateKind fault
  | .notMoment => "datetime_type"
  | .momentUnreadable _ => "datetime_parsing"
  | .momentYearZero => "datetime_parsing"
  | .rule _ => "value_error"

/-- What is said about a problem. -/
def message : Problem → String
  | .missing => "Field required"
  | .notForm form => "Input should be a valid dictionary or instance of " ++ form
  | .notFields => "Input should be a valid dictionary or object to extract fields from"
  | .malformed => "JSON decode error"
  | .notWhole => "Input should be a valid integer"
  | .fractional => "Input should be a valid integer, got a number with a fractional part"
  | .unreadableWhole => "Input should be a valid integer, unable to parse string as an integer"
  | .wholeTooLong => "Unable to parse input string as an integer, exceeded maximum size"
  | .notAbove bound => "Input should be greater than " ++ Text.integer bound
  | .below bound => "Input should be greater than or equal to " ++ Text.integer bound
  | .above bound => "Input should be less than or equal to " ++ Text.integer bound
  | .notText => "Input should be a valid string"
  | .notUnicode => "Input should be a valid string, unable to parse raw data as a unicode string"
  | .tooLong limit => "String should have at most " ++ Text.digits limit ++ " characters"
  | .unlike pattern => "String should match pattern '" ++ pattern ++ "'"
  | .notDecimal => "Decimal input should be an integer, float, string or Decimal object"
  | .unreadableDecimal => "Input should be a valid decimal"
  | .notFinite => "Input should be a finite number"
  | .notAmong first second => "Input should be '" ++ first ++ "' or '" ++ second ++ "'"
  | .date fault => dateMessage fault
  | .notMoment => "Input should be a valid datetime"
  | .momentUnreadable fault => "Input should be a valid datetime, " ++ fault.message
  | .momentYearZero => "Input should be a valid datetime, year 0 is out of range"
  | .rule message => "Value error, " ++ message

end Problem

/-- A problem and where it is: a path of names, which is empty for the form as a whole. -/
structure Complaint where
  place : List String
  problem : Problem
  deriving DecidableEq, Repr

/-- A complaint on one line, as answers over HTTP give it. -/
def Complaint.line (complaint : Complaint) : String :=
  ".".intercalate complaint.place ++ ": " ++ complaint.problem.message

/-- The complaints about a form. -/
structure Rejection where
  form : String
  complaints : List Complaint
  deriving DecidableEq, Repr

namespace Rejection

/-- The lines about one complaint: its place, unless it is about the form as a whole,
and then what is said. -/
def complaintText (complaint : Complaint) : String :=
  (if complaint.place.isEmpty then "" else "\n" ++ ".".intercalate complaint.place) ++
    "\n  " ++ complaint.problem.message

/-- The text of a rejection. -/
def text (rejection : Rejection) : String :=
  let count := rejection.complaints.length
  Text.digits count ++
    (if count = 1 then " validation error for " else " validation errors for ") ++
    rejection.form ++ String.join (rejection.complaints.map complaintText)

end Rejection
end Tuition.Request
