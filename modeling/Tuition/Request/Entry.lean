/-
# Entries of fields

What is entered into a field is a JSON value or a value that the program already has: a
decimal, a date, or a date with a time. Each kind of field says which entries it takes and what
it makes of them. Whole numbers are also taken from fractional numbers without a fraction and
from their text, in which blanks around it, a plus sign, leading zeros, a fraction of zeros,
and single underscores between digits are ignored. A text that is written without any of these
may not have too many digits.
-/

import Tuition.Money
import Tuition.Payment
import Tuition.Payments.PaidAt
import Tuition.Request.Problem
import Tuition.Text.Letter
import Tuition.Text.WholeNumber
import Tuition.Word

namespace Tuition

/-- What is entered into a field. -/
inductive Entry where
  | json (value : Json)
  | decimal (value : Decimal)
  | date (value : Date)
  | stamp (value : Stamp)
  deriving Repr, Inhabited

namespace Entry

/-- The decimal that an entry is written as. -/
def toDecimal : Entry → Except Decimal.Fault Decimal
  | .decimal value => .ok value
  | .json value => Decimal.ofJson value
  | .date _ => .error .notANumber
  | .stamp _ => .error .notANumber

/-- The entry with the time of a payment read, if it is one. -/
def asPaidAt : Entry → Except Calendar.Fault Entry
  | .stamp value => .ok (.stamp value)
  | .date value => .ok (.stamp ⟨.atMidnight value, none⟩)
  | .json (.str text) => (Payments.readPaidAt text).map .stamp
  | other => .ok other

end Entry

namespace Request

/-- What is wrong with an entry: a problem to complain about, or a fault that breaks off. -/
inductive Flaw where
  | problem (problem : Problem)
  | fault (fault : Decimal.Fault)
  deriving DecidableEq, Repr

/-- What a field takes. -/
abbrev Field (α : Type) := Entry → Except Flaw α

/-- Complain. -/
def complain {α : Type} (problem : Problem) : Except Flaw α :=
  .error (.problem problem)

/-! ## Whole numbers -/

/-- Read a whole number in its shortest form, without zeros in front. -/
def readShortWhole? (text : List Char) : Option Int :=
  let negative := text.head? = some '-'
  let digits := if negative then text.drop 1 else text
  if digits.head? = some '0' ∧ 1 < digits.length then none
  else if Text.wholeDigitLimit < digits.length then none
  else (Text.asciiNumeral? digits).map fun size => if negative then -(size : Int) else size

/-- Whether a text starts as a whole number in its shortest form that has too many digits. -/
def startsTooLong (text : List Char) : Bool :=
  let digits := (if text.head? = some '-' then text.drop 1 else text).takeWhile Char.isDigit
  digits.head? ≠ some '0' && Text.wholeDigitLimit < digits.length

/-- Strip zeros in front of a number, keeping the last one of a number that has no other digit
before its point. Underscores among them are stripped too, and a minus sign may follow them. -/
def stripLeadingZeros? (text : List Char) : Option (List Char) :=
  match text with
  | '0' :: _ =>
    let zeros := text.takeWhile fun c => c = '0' || c = '_'
    match text.drop zeros.length with
    | [] => some (zeros.drop (zeros.length - 1))
    | '.' :: tail => some (zeros.drop (zeros.length - 1) ++ '.' :: tail)
    | c :: tail => if ('1' ≤ c ∧ c ≤ '9') ∨ c = '-' then some (c :: tail) else none
  | c :: _ => if '1' ≤ c ∧ c ≤ '9' then some text else none
  | [] => none

/-- Strip a fraction of zeros with its point. -/
def stripZeroFraction (text : List Char) : List Char :=
  let whole := text.takeWhile (· ≠ '.')
  let fraction := text.drop (whole.length + 1)
  if !fraction.isEmpty && fraction.all (· = '0') then whole else text

/-- Whether two underscores stand side by side. -/
def hasDoubleUnderscore : List Char → Bool
  | '_' :: '_' :: _ => true
  | _ :: rest => hasDoubleUnderscore rest
  | [] => false

/-- Strip the underscores between the digits of a number. -/
def stripUnderscores (text : List Char) : List Char :=
  if text.head? = some '_' ∨ text.getLast? = some '_' ∨ hasDoubleUnderscore text then text
  else text.filter (· ≠ '_')

/-- The text of a number without what is ignored in it. -/
def cleanWhole? (text : List Char) : Option (List Char) :=
  let clean := fun digits =>
    (stripLeadingZeros? digits).map fun short => stripUnderscores (stripZeroFraction short)
  match Text.trim Text.isWhiteSpace text with
  | '-' :: rest => (clean rest).map ('-' :: ·)
  | '+' :: '-' :: _ => none
  | '+' :: rest => clean rest
  | digits => clean digits

/-- Read a whole number from its text. -/
def readWhole (text : String) : Except Problem Int :=
  let written := text.toList
  if Text.hasUnpaired text then .error .notUnicode
  else if startsTooLong written then .error .wholeTooLong
  else
    match readShortWhole? written with
    | some n => .ok n
    | none =>
      match (cleanWhole? written).bind readShortWhole? with
      | some n => .ok n
      | none => .error .unreadableWhole

/-- A whole number that is taken from a fractional number. -/
def wholeOfReal (value : Binary64) : Except Problem Int :=
  match value with
  | .finite .. =>
    match value.toInt? with
    | some n => if Word.fits n ∧ Word.fits (-n) then .ok n else .error .wholeTooLong
    | none => .error .fractional
  | _ => .error .notFinite

/-- A field of a whole number. -/
def whole : Field Int
  | .json (.int n) => .ok n
  | .json (.bool value) => .ok (if value then 1 else 0)
  | .json (.real value) => (wholeOfReal value).mapError .problem
  | .json (.str text) => (readWhole text).mapError .problem
  | _ => complain .notWhole

/-- A field of a key, which is a whole number above zero. -/
def key : Field Int := fun entry => do
  let n ← whole entry
  if 0 < n then return n else complain (.notAbove 0)

/-! ## Decimals -/

/-- A field of a decimal number. -/
def decimal : Field Decimal := fun entry => do
  let value ← match entry with
    | .decimal value => pure value
    | .json (.bool _) => complain .notDecimal
    | .json .null => complain .notDecimal
    | .json (.arr _) => complain .notDecimal
    | .json (.obj _) => complain .notDecimal
    | .json value =>
      match Decimal.ofJson value with
      | .ok found => pure found
      | .error _ => complain .unreadableDecimal
    | _ => complain .notDecimal
  if value.isFinite then return value else complain .notFinite

/-- Why an amount is refused that is nothing or less once it is rounded. -/
def amountTooSmall : String := "amount must be at least 0.01 after rounding to cents"

/-- An amount rounded to cents, unless that leaves nothing. -/
def roundAmount (amount : Decimal) : Except Flaw Decimal := do
  let rounded ← (Money.round amount).mapError .fault
  match ← rounded.compareZero.mapError .fault with
  | .gt => return rounded
  | _ => complain (.rule amountTooSmall)

/-- A field of an amount, which is above zero and stays so when it is rounded to cents. -/
def amount : Field Decimal := fun entry => do
  let value ← decimal entry
  if value.order (.ofInt 0) = .gt then roundAmount value else complain (.notAbove 0)

/-- A field of a price, which is not below zero. -/
def price : Field Decimal := fun entry => do
  let value ← decimal entry
  if value.order (.ofInt 0) = .lt then complain (.below 0) else return value

/-! ## Texts, dates and times -/

/-- A field of a text. -/
def text : Field String
  | .json (.str value) => if Text.hasUnpaired value then complain .notUnicode else .ok value
  | _ => complain .notText

/-- The longest note. -/
def noteLimit : Nat := 500

/-- A field of a note. -/
def note : Field String := fun entry => do
  let value ← text entry
  if noteLimit < Text.size value then complain (.tooLong noteLimit) else return value

/-- A field of a way of paying. -/
def paymentMethod : Field PaymentMethod
  | .json (.str value) =>
    match PaymentMethod.ofText? value with
    | some method => .ok method
    | none => complain (.notAmong PaymentMethod.cash.text PaymentMethod.bank.text)
  | _ => complain (.notAmong PaymentMethod.cash.text PaymentMethod.bank.text)

/-- The date of a count of seconds. -/
def dateOfCount (moment : Except Calendar.FieldFault Calendar.FieldMoment) : Except Flaw Date :=
  match moment with
  | .error fault => complain (.date (.unreadable fault))
  | .ok moment => (Calendar.exactDate moment).mapError fun fault => .problem (.date fault)

/-- A field of a date. -/
def date : Field Date
  | .date value => .ok value
  | .json (.str value) =>
    if Text.hasUnpaired value then complain .notUnicode
    else (Calendar.readDateField value).mapError fun fault => .problem (.date fault)
  | .json (.int count) => dateOfCount (Calendar.ofUnixInt count)
  | .json (.real count) => dateOfCount (Calendar.ofUnixReal count)
  | _ => complain (.date .wrongType)

/-- The time of a count of seconds, in universal time. -/
def stampOfCount (moment : Except Calendar.FieldFault Calendar.FieldMoment) : Except Flaw Stamp :=
  match moment with
  | .error fault => complain (.momentUnreadable fault)
  | .ok moment =>
    match moment.toMoment? with
    | some found => .ok ⟨found, some .utc⟩
    | none => complain .momentYearZero

/-- A field of the time of a payment. -/
def paidAt : Field Stamp := fun entry =>
  match entry.asPaidAt with
  | .error fault => complain (.rule fault.message)
  | .ok (.stamp value) => .ok value
  | .ok (.json (.int count)) => stampOfCount (Calendar.ofUnixInt count)
  | .ok (.json (.real count)) => stampOfCount (Calendar.ofUnixReal count)
  | .ok _ => complain .notMoment

end Request
end Tuition
