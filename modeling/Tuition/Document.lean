/-
# The document of an invoice

A document is a list of paragraphs, gaps and tables. The text of a paragraph is markup, in which
the three characters `&`, `<` and `>` are written as entities; the cells of a table are plain
text, except that the description of a line is a paragraph of its own.
-/

import Tuition.Decimal.Printer
import Tuition.Invoice
import Tuition.School
import Tuition.Settings

namespace Tuition

/-- The look of a paragraph. -/
inductive ParagraphStyle where
  | title
  | header
  | heading
  | bold
  | normal
  deriving DecidableEq, Repr

/-- The name of a look. -/
def ParagraphStyle.name : ParagraphStyle → String
  | .title => "TitleStyle"
  | .header => "HeaderStyle"
  | .heading => "Heading2"
  | .bold => "BoldStyle"
  | .normal => "NormalStyle"

/-- A piece of a document. A gap is measured in millimetres. -/
inductive DocumentItem where
  | paragraph (markup : String) (style : ParagraphStyle)
  | gap (millimetres : Nat)
  | table (rows : List (List String))
  deriving DecidableEq, Repr

/-- A document. -/
structure Document where
  title : String
  items : List DocumentItem
  deriving DecidableEq, Repr

namespace Document

/-- One character as markup. -/
def markupChar : Char → List Char
  | '&' => ['&', 'a', 'm', 'p', ';']
  | '<' => ['&', 'l', 't', ';']
  | '>' => ['&', 'g', 't', ';']
  | c => [c]

/-- A text as markup. -/
def markup (text : String) : String :=
  String.ofList (text.toList.flatMap markupChar)

/-- An amount with its currency. -/
def money (amount : Decimal) (currency : String) : String :=
  amount.grouped ++ " " ++ currency

/-- A paragraph for a text, or none if it is empty. -/
def optionalParagraph (text : String) (style : ParagraphStyle) : List DocumentItem :=
  if text.isEmpty then [] else [.paragraph (markup text) style]

/-- The word for the state of an invoice, in capitals. -/
def statusWord (status : InvoiceStatus) : String :=
  String.ofList (status.text.toList.map Char.toUpper)

/-- The date of issue; the year is not filled with zeros. -/
def issueDate (moment : Moment) : String :=
  Text.digits moment.date.year ++ "-" ++ Text.zeroFilled 2 (Text.digits moment.date.month) ++
    "-" ++ Text.zeroFilled 2 (Text.digits moment.date.day)

/-- The table of particulars of an invoice. -/
def particulars (invoice : Invoice) : List (List String) :=
  [["Invoice Number:", invoice.number.getD ""],
   ["Period:", invoice.period.monthFirst],
   ["Status:", statusWord invoice.status]] ++
    (invoice.issuedAt.map fun moment => ["Issued:", issueDate moment]).toList

/-- The row of a line. -/
def lineRow (currency : String) (line : DraftLine) : List String :=
  [markup line.description, Text.integer line.quantity, money line.unitPrice currency,
   money line.amount currency]

/-- The heading of the table of lines. -/
def lineHeading : List String :=
  ["Description", "Qty", "Unit Price", "Amount"]

/-- The table with the total. -/
def totalTable (currency : String) (total : Decimal) : List (List String) :=
  [["", "", "Total:", money total currency]]

/-- The document of an invoice whose lines make up the given rows. -/
def ofRows (invoice : Invoice) (rows : List (List String)) (student : Student)
    (settings : Settings) : Document where
  title := "Invoice " ++ invoice.number.getD "None"
  items :=
    optionalParagraph settings.orgName .title ++ optionalParagraph settings.address .header ++
      [.gap 10, .paragraph ("INVOICE " ++ markup (invoice.number.getD "")) .heading,
       .table (particulars invoice), .gap 8, .paragraph "Bill To:" .bold,
       .paragraph (markup student.fullName) .normal] ++
      optionalParagraph student.email .normal ++ optionalParagraph student.phone .normal ++
      [.gap 8, .table (lineHeading :: rows), .gap 5,
       .table (totalTable settings.currency invoice.total)]

/-- The document of an invoice, with one row for each line. -/
def ofInvoice (invoice : Invoice) (lines : List DraftLine) (student : Student)
    (settings : Settings) : Document :=
  ofRows invoice (lines.map (lineRow settings.currency)) student settings

end Document
end Tuition
