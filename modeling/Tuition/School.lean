/-
# Students, courses and how they are charged

The part of the records that billing reads and does not change: who takes which course, at which
prices and discount, and how many lessons were attended in a month.
-/

import Tuition.Billing.Window
import Tuition.Decimal.Basic

namespace Tuition

/-- A student. An inactive one is left out of billing runs. -/
structure Student where
  id : Int
  fullName : String
  phone : String
  email : String
  note : String
  active : Bool
  deriving DecidableEq, Repr

/-- How a course is held. -/
inductive CourseType where
  | group
  | individual
  deriving DecidableEq, Repr

namespace CourseType

/-- The word for a type of course. -/
def text : CourseType → String
  | .group => "group"
  | .individual => "individual"

/-- The type of course that a word stands for. -/
def ofText? : String → Option CourseType
  | "group" => some .group
  | "individual" => some .individual
  | _ => none

end CourseType

/-- A course with its base prices. -/
structure Course where
  id : Int
  name : String
  courseType : CourseType
  lessonPrice : Decimal
  subscriptionPrice : Decimal
  active : Bool
  deriving DecidableEq, Repr

/-- How an enrollment is charged: by the lesson, by the month, or in a way that is not known. -/
inductive BillingMode where
  | perLesson
  | subscription
  | unknown (text : String)
  deriving DecidableEq, Repr

namespace BillingMode

/-- The word for a way of charging. -/
def text : BillingMode → String
  | .perLesson => "per_lesson"
  | .subscription => "subscription"
  | .unknown text => text

/-- The way of charging that a word stands for. -/
def ofText? : String → Option BillingMode
  | "per_lesson" => some .perLesson
  | "subscription" => some .subscription
  | _ => none

end BillingMode

/-- A student in a course, with a discount in percent. -/
structure Enrollment where
  id : Int
  studentId : Int
  courseId : Int
  billingMode : BillingMode
  discount : Decimal
  note : String
  deriving DecidableEq, Repr

/-- Prices that hold for an enrollment within a window. A missing one leaves the discounted price
of the course in place. -/
structure PriceOverride where
  id : Int
  enrollmentId : Int
  validFrom : Date
  validTo : Option Date
  lessonPrice : Option Decimal
  subscriptionPrice : Option Decimal
  deriving DecidableEq, Repr

/-- The days on which an override holds. -/
def PriceOverride.window (override : PriceOverride) : Window :=
  ⟨override.validFrom, override.validTo⟩

/-- The lessons that a student attended of a course in a month. -/
structure Attendance where
  id : Int
  studentId : Int
  courseId : Int
  year : Int
  month : Int
  lessons : Int
  locked : Bool
  deriving DecidableEq, Repr

end Tuition
