/-
# When a payment was made

The time of a payment is given as a date, which stands for its midnight, or as a date with a time.
Universal time may be marked by `Z`.
-/

import Tuition.Calendar.IsoReader
import Tuition.Text.Blank

namespace Tuition.Payments

/-- Spell out the mark of universal time as an offset. -/
def spellOffset (text : String) : String :=
  String.ofList (text.toList.flatMap fun c => if c = 'Z' then "+00:00".toList else [c])

/-- Read the time of a payment. A text of ten letters is a date. -/
def readPaidAt (text : String) : Except Calendar.Fault Stamp :=
  let trimmed := String.ofList (Text.trim Text.isBlank text.toList)
  if Text.size trimmed = 10 then
    (Calendar.readDate trimmed).map fun date => ⟨.atMidnight date, none⟩
  else Calendar.readStamp (spellOffset trimmed)

end Tuition.Payments
