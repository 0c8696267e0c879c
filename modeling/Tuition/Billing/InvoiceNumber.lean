/-
# Invoice numbers

An invoice number is the prefix of the organisation, the year and month of the
period, and a sequence number, joined by dashes. The sequence has at least three
digits and widens as it needs to.
-/

import Tuition.Billing.Period

namespace Tuition

/-- The number of an invoice. -/
def invoiceNumber (lead : String) (period : Period) (sequence : Int) : String :=
  lead ++ "-" ++ Text.padded 4 period.year ++ Text.padded 2 period.month ++ "-" ++
    Text.padded 3 sequence

end Tuition
