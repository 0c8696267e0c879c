/-
# Settings of the organisation

There is one record of settings. It names the organisation, says how invoices are numbered, and on
which day of a month the month before is billed.
-/

namespace Tuition

/-- The settings of the organisation. -/
structure Settings where
  orgName : String := ""
  address : String := ""
  invoicePrefix : String := "LS"
  nextSequence : Int := 1
  billingDay : Int := 1
  autoIssue : Bool := false
  currency : String := "EUR"
  locale : String := "lv-LV"
  deriving DecidableEq, Repr, Inhabited

namespace Settings

/-- The prefix that numbers start with when none is set. -/
def defaultPrefix : String := "LS"

/-- The prefix that numbers start with. -/
def effectivePrefix (settings : Settings) : String :=
  if settings.invoicePrefix.isEmpty then defaultPrefix else settings.invoicePrefix

/-- The only key of a record of settings. -/
def key : Int := 1

end Settings
end Tuition
