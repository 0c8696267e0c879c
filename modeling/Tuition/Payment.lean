/-
# Payments

Money received from a student. A payment may settle a particular invoice; one that does not lowers
what the student owes as a whole.
-/

import Tuition.Calendar.Moment
import Tuition.Decimal.Basic

namespace Tuition

/-- How money was received. -/
inductive PaymentMethod where
  | cash
  | bank
  deriving DecidableEq, Repr

namespace PaymentMethod

/-- The word for a way of paying. -/
def text : PaymentMethod → String
  | .cash => "cash"
  | .bank => "bank"

/-- The way of paying that a word stands for. -/
def ofText? : String → Option PaymentMethod
  | "cash" => some .cash
  | "bank" => some .bank
  | _ => none

end PaymentMethod

/-- A payment as it is kept. -/
structure Payment where
  id : Int
  studentId : Int
  invoiceId : Option Int
  paidAt : Moment
  amount : Decimal
  method : PaymentMethod
  note : String
  deriving DecidableEq, Repr

end Tuition
