import Tuition.Billing.Drafting
import Tuition.Billing.InvoiceNumber
import Tuition.Billing.Issuing
import Tuition.Billing.Lines
import Tuition.Billing.Overriding
import Tuition.Billing.Overview
import Tuition.Billing.Period
import Tuition.Billing.Prices
import Tuition.Billing.Rendering
import Tuition.Billing.Window
import Tuition.Binary64
import Tuition.Calendar.Date
import Tuition.Calendar.Field
import Tuition.Calendar.IsoReader
import Tuition.Calendar.Moment
import Tuition.Configuration.Basic
import Tuition.Configuration.Place
import Tuition.Configuration.Reader
import Tuition.Configuration.Scalar
import Tuition.Configuration.Timestamp
import Tuition.Configuration.Wording
import Tuition.Decimal.Arithmetic
import Tuition.Decimal.Basic
import Tuition.Decimal.Printer
import Tuition.Decimal.Reader
import Tuition.Document
import Tuition.Fault
import Tuition.Files
import Tuition.Http.Address
import Tuition.Http.Answer
import Tuition.Http.Host
import Tuition.Http.Route
import Tuition.Http.Service
import Tuition.Invoice
import Tuition.Json.Basic
import Tuition.Json.Column
import Tuition.Json.Encoding
import Tuition.Json.Printer
import Tuition.Json.Reader
import Tuition.Main
import Tuition.Money
import Tuition.Outcome
import Tuition.Payment
import Tuition.Payments.Balance
import Tuition.Payments.PaidAt
import Tuition.Payments.QuickCash
import Tuition.Payments.Recording
import Tuition.Payments.Settlement
import Tuition.Record.Archive
import Tuition.Record.AtHand
import Tuition.Record.Column
import Tuition.Record.Keeping
import Tuition.Record.Tables
import Tuition.Refusal
import Tuition.Report
import Tuition.Request.Checked
import Tuition.Request.Entry
import Tuition.Request.Form
import Tuition.Request.PeriodNumbers
import Tuition.Request.Problem
import Tuition.School
import Tuition.Settings
import Tuition.Store.Access
import Tuition.Store.Amount
import Tuition.Store.Basic
import Tuition.Store.Row
import Tuition.Text.Blank
import Tuition.Text.Digit
import Tuition.Text.Letter
import Tuition.Text.Number
import Tuition.Text.Octets
import Tuition.Text.Printable
import Tuition.Text.Quoted
import Tuition.Text.Split
import Tuition.Text.WholeNumber
import Tuition.Views
import Tuition.Word
import Tuition.Worker.CommandLine
import Tuition.Worker.Run
import Tuition.Worker.Schedule
import Tuition.World
import Tuition.Proofs.Basics
import Tuition.Proofs.Operations
import Tuition.Proofs.Tables
import Tuition.Proofs.Accesses
import Tuition.Proofs.Transactions
import Tuition.Proofs.Issuing
import Tuition.Proofs.Drafting
import Tuition.Proofs.Recording
import Tuition.Proofs.UseCases
import Tuition.Proofs.AllOrNothing
import Tuition.Proofs.Fates
import Tuition.Proofs.FrozenInvoices
import Tuition.Proofs.Totals
import Tuition.Proofs.PaidStatus
import Tuition.Proofs.NumberText
import Tuition.Proofs.Numbering
import Tuition.Proofs.Unstruck
import Tuition.Proofs.GaplessNumbers
import Tuition.Proofs.Calm
import Tuition.Proofs.Pricing
import Tuition.Proofs.StudentBilling
import Tuition.Proofs.InvoiceContents
import Tuition.Proofs.BilledStudents
import Tuition.Proofs.StudentByStudent
import Tuition.Proofs.Cents
import Tuition.Proofs.Charges
import Tuition.Proofs.ExactTotals
import Tuition.Proofs.MonthDrafted
import Tuition.Proofs.FileWrites
import Tuition.Proofs.AttachedLines
import Tuition.Proofs.SameBooks
import Tuition.Proofs.Rebilling
import Tuition.Proofs.IssuedDocuments
import Tuition.Proofs.WorkerRuns
import Tuition.Proofs.Rerunning
import Tuition.Proofs.DayCount
import Tuition.Proofs.Windows
import Tuition.Proofs.OverrideWindows
import Tuition.Proofs.MonthlyOverrides
import Tuition.Proofs.PeriodsInTurn
import Tuition.Proofs.SoundReferences
import Tuition.Proofs.NumberedInOrder
import Tuition.Proofs.IssuingInTurn
import Tuition.Proofs.Checks
import Tuition.Proofs.BillingSchedule
import Tuition.Proofs.MonthsBilled
import Tuition.Proofs.FailedRuns
import Tuition.Proofs.CalmPayments
import Tuition.Proofs.Accounts
import Tuition.Proofs.Bookings
import Tuition.Proofs.PaymentOrder
import Tuition.Proofs.UnsignedAmounts
import Tuition.Proofs.SoundAccounts
import Tuition.Proofs.UndonePayments
import Tuition.Proofs.FiniteAmounts
import Tuition.Proofs.PaymentTimes
import Tuition.Proofs.AccountsInCents
import Tuition.Proofs.ConsistentViews
import Tuition.Proofs.FileChanges
import Tuition.Proofs.DocumentPlaces
import Tuition.Proofs.SequencesApart
import Tuition.Proofs.FilesLeft
import Tuition.Proofs.DocumentsWritten
import Tuition.Proofs.DocumentsApart
import Tuition.Proofs.Rounding
import Tuition.Proofs.UnfitAmounts
import Tuition.Proofs.RecordedPayments
import Tuition.Proofs.Discounts
import Tuition.Proofs.ResolvedPrices
import Tuition.Proofs.Debtors
import Tuition.Proofs.DateTexts
import Tuition.Proofs.NumberParts
import Tuition.Proofs.TwiceChecked
import Tuition.Proofs.DocumentDirectories
import Tuition.Proofs.InvoiceViews
import Tuition.Proofs.ExactSums
import Tuition.Proofs.NotNegative
import Tuition.Proofs.ExactLines
import Tuition.Proofs.NearestCents
import Tuition.Proofs.ExactDiscounts
import Tuition.Proofs.StampTexts
import Tuition.Proofs.PaidAtTexts
import Tuition.Proofs.GroupedAmounts
import Tuition.Proofs.DocumentContents
