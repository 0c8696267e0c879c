/-
# What a document shows of an invoice

The document of an invoice has a table of its lines and a table with its total. Each line has a
row of its own, in the order of the lines, from which everything it says can be had back: the
markup of the description is undone, the quantity is its decimal text, and the amounts are what is
left of their cells without currency and commas. So documents that look the same in these tables
are of invoices that say the same, and a total that is the sum of the amounts is shown as the sum
of those that are shown.
-/

import Tuition.Proofs.GroupedAmounts
import Tuition.Proofs.NearestCents

namespace Tuition

namespace Document

/-! ## Reading a document -/

/-- The tables of a document, in their order. -/
def tables (document : Document) : List (List (List String)) :=
  document.items.filterMap fun
    | .table rows => some rows
    | _ => none

/-- The table of lines comes behind that of particulars. -/
def lineTable? (document : Document) : Option (List (List String)) :=
  document.tables[1]?

/-- The table with the total comes last. -/
def totalTable? (document : Document) : Option (List (List String)) :=
  document.tables[2]?

/-- A text whose entities are read as characters. -/
def unmarked : List Char → List Char
  | '&' :: 'a' :: 'm' :: 'p' :: ';' :: rest => '&' :: unmarked rest
  | '&' :: 'l' :: 't' :: ';' :: rest => '<' :: unmarked rest
  | '&' :: 'g' :: 't' :: ';' :: rest => '>' :: unmarked rest
  | c :: rest => c :: unmarked rest
  | [] => []

/-- A cell without the currency at its end. -/
def withoutCurrency? (currency cell : String) : Option (List Char) :=
  let suffix := (" " ++ currency).toList
  if suffix <:+ cell.toList then
    some (cell.toList.take (cell.toList.length - suffix.length))
  else none

/-- A cell without the currency at its end and without commas. -/
def plainText? (currency cell : String) : Option (List Char) :=
  (withoutCurrency? currency cell).map (·.filter (· ≠ ','))

/-- The amount that a cell shows. -/
def amountShown? (currency cell : String) : Option Decimal :=
  (plainText? currency cell).bind Decimal.ofPlain?

/-- The amounts that the table of lines shows, one in the last cell of each row. -/
def amountsShown? (currency : String) (document : Document) : Option (List Decimal) :=
  document.lineTable?.bind fun rows =>
    (rows.drop 1).mapM fun row => row[3]?.bind (amountShown? currency)

/-- The total that is shown. -/
def totalShown? (currency : String) (document : Document) : Option Decimal :=
  document.totalTable?.bind fun rows =>
    rows[0]?.bind fun row => row[3]?.bind (amountShown? currency)

/-! ## What is shown -/

/-- A cell shows an amount: the amount, as it is written and as it is read, is what is left
without currency and commas, and the commas stand between groups of three digits. -/
structure ShowsAmount (currency cell : String) (amount : Decimal) : Prop where
  plain : plainText? currency cell = some amount.text.toList
  read : amountShown? currency cell = some amount
  grouped : ∃ digits whole places, withoutCurrency? currency cell =
      some ((Decimal.signText amount.isNegative).toList ++ (whole ++ '.' :: places)) ∧
    Decimal.IsGrouped digits whole ∧ places.length = 2 ∧ ∀ c ∈ digits ++ places, c.isDigit = true

/-- A row shows a line. -/
def ShowsLine (currency : String) (row : List String) (line : DraftLine) : Prop :=
  ∃ description quantity unitPrice amount, row = [description, quantity, unitPrice, amount] ∧
    unmarked description.toList = line.description.toList ∧ quantity = toString line.quantity ∧
    ShowsAmount currency unitPrice line.unitPrice ∧ ShowsAmount currency amount line.amount

/-- A document shows lines, a row for each in their order, and a total. -/
structure ShowsInvoice (document : Document) (currency : String) (lines : List DraftLine)
    (total : Decimal) : Prop where
  lines : ∃ rows, document.lineTable? = some (lineHeading :: rows) ∧
    List.Forall₂ (ShowsLine currency) rows lines
  total : ∃ cell, document.totalTable? = some [["", "", "Total:", cell]] ∧
    ShowsAmount currency cell total

/-- All amounts of an invoice and its lines have two places. -/
structure InCents (invoice : Invoice) (lines : List DraftLine) : Prop where
  total : invoice.total.InCents
  lines : ∀ line ∈ lines, line.unitPrice.InCents ∧ line.amount.InCents

/-! ## Cells -/

theorem unmarked_cons {c : Char} (plain : c ≠ '&') (rest : List Char) :
    unmarked (c :: rest) = c :: unmarked rest := by
  conv_lhs => unfold unmarked
  split <;> simp_all

/-- Markup is undone exactly. -/
theorem unmarked_markup (text : String) : unmarked (markup text).toList = text.toList := by
  rw [markup, String.toList_ofList]
  induction text.toList with
  | nil => rfl
  | cons c rest ih =>
      rw [List.flatMap_cons]
      by_cases ampersand : c = '&'
      · subst ampersand
        exact congrArg _ ih
      by_cases less : c = '<'
      · subst less
        exact congrArg _ ih
      by_cases greater : c = '>'
      · subst greater
        exact congrArg _ ih
      · have plain : markupChar c = [c] := by
          unfold markupChar
          split <;> simp_all
        rw [plain, List.singleton_append, unmarked_cons ampersand, ih]

theorem integer_eq_toString (n : Int) : Text.integer n = toString n := by
  cases n with
  | ofNat n =>
      have notNegative : ¬(Int.ofNat n < 0) := Int.not_lt.mpr (Int.natCast_nonneg n)
      rw [Text.integer, if_neg notNegative]
      exact (Nat.repr_eq_ofList_toDigits).symm
  | negSucc n =>
      rw [Text.integer, if_pos (Int.negSucc_lt_zero n)]
      exact congrArg ("-" ++ ·) (Nat.repr_eq_ofList_toDigits).symm

/-- The number whose decimal text this is. -/
def integerOf : List Char → Int
  | '-' :: digits => -(Nat.ofDigitChars 10 digits 0 : Int)
  | digits => (Nat.ofDigitChars 10 digits 0 : Int)

theorem integerOf_integer (n : Int) : integerOf (Text.integer n).toList = n := by
  have read := Nat.ofDigitChars_ten_toDigits (n := n.natAbs)
  rw [Text.integer, Text.digits]
  split
  · simp only [String.toList_append, String.toList_ofList]
    change -(Nat.ofDigitChars 10 (Nat.toDigits 10 n.natAbs) 0 : Int) = n
    omega
  · have noSign : '-' ∉ Nat.toDigits 10 n.natAbs := Text.not_mem_toDigits rfl _
    rw [String.toList_ofList]
    unfold integerOf
    split
    · next digits => exact absurd (by rw [digits]; exact List.mem_cons_self) noSign
    · omega

theorem withoutCurrency?_append (shown currency : String) :
    withoutCurrency? currency (shown ++ " " ++ currency) = some shown.toList := by
  have parts : (shown ++ " " ++ currency).toList = shown.toList ++ (" " ++ currency).toList := by
    rw [String.append_assoc, String.toList_append]
  unfold withoutCurrency?
  rw [parts, if_pos (List.suffix_append _ _), List.length_append, Nat.add_sub_cancel]
  exact congrArg some (List.take_left' rfl)

/-- A cell with an amount of two places shows that amount. -/
theorem showsAmount_money {amount : Decimal} (cents : amount.InCents) (currency : String) :
    ShowsAmount currency (money amount currency) amount := by
  obtain ⟨negative, hundredths, rfl⟩ := cents
  have plain : plainText? currency (money (.finite negative hundredths (-2)) currency) =
      some (Decimal.plain negative hundredths) := by
    rw [plainText?, money, withoutCurrency?_append, Option.map_some, Decimal.filter_grouped]
  refine ⟨plain.trans (congrArg some (Decimal.toList_text negative hundredths).symm), ?_, ?_⟩
  · rw [amountShown?, plain, Option.bind_some, Decimal.ofPlain?_plain]
  · refine ⟨Nat.toDigits 10 (hundredths / 100), _, Text.pair (hundredths % 100), ?_,
      Decimal.isGrouped_groupedDigits (hundredths / 100),
      Text.length_pair (Nat.mod_lt _ (by decide)), ?_⟩
    · rw [money, withoutCurrency?_append, Decimal.toList_grouped]
      rfl
    · intro c mem
      rcases List.mem_append.mp mem with digit | digit
      · exact Nat.isDigit_of_mem_toDigits (by decide) (by decide) digit
      · exact Text.isDigit_of_mem_padded digit

theorem ShowsAmount.unique {currency cell : String} {first second : Decimal}
    (one : ShowsAmount currency cell first) (other : ShowsAmount currency cell second) :
    first = second :=
  Option.some.inj (one.read.symm.trans other.read)

/-! ## Rows -/

theorem showsLine_lineRow {line : DraftLine} (unitPrice : line.unitPrice.InCents)
    (amount : line.amount.InCents) (currency : String) :
    ShowsLine currency (lineRow currency line) line :=
  ⟨_, _, _, _, rfl, unmarked_markup line.description, integer_eq_toString line.quantity,
    showsAmount_money unitPrice currency, showsAmount_money amount currency⟩

/-- What a line says in a document. -/
def contentOf (line : DraftLine) : String × Int × Decimal × Decimal :=
  (line.description, line.quantity, line.unitPrice, line.amount)

theorem ShowsLine.unique {currency : String} {row : List String} {first second : DraftLine}
    (one : ShowsLine currency row first) (other : ShowsLine currency row second) :
    contentOf first = contentOf second := by
  obtain ⟨description, quantity, unitPrice, amount, rfl, described, counts, costs, comes⟩ := one
  obtain ⟨_, _, _, _, same, describedToo, countsToo, costsToo, comesToo⟩ := other
  cases same
  have texts : first.description = second.description := by
    rw [← String.toList_inj, ← described, ← describedToo]
  have numbers : first.quantity = second.quantity := by
    have quantities := counts.symm.trans countsToo
    rw [← integer_eq_toString, ← integer_eq_toString] at quantities
    rw [← integerOf_integer first.quantity, quantities, integerOf_integer]
  rw [contentOf, contentOf, texts, numbers, costs.unique costsToo, comes.unique comesToo]

theorem contents_eq_of_forall₂ {currency : String} {rows : List (List String)}
    {first second : List DraftLine} (one : List.Forall₂ (ShowsLine currency) rows first)
    (other : List.Forall₂ (ShowsLine currency) rows second) :
    first.map contentOf = second.map contentOf := by
  induction one generalizing second with
  | nil =>
      cases other
      rfl
  | cons shows _ ih =>
      cases other with
      | cons showsToo rest => rw [List.map_cons, List.map_cons, shows.unique showsToo, ih rest]

theorem mapM_amountShown? {currency : String} {rows : List (List String)} {lines : List DraftLine}
    (shows : List.Forall₂ (ShowsLine currency) rows lines) :
    (rows.mapM fun row => row[3]?.bind (amountShown? currency)) =
      some (lines.map (·.amount)) := by
  induction shows with
  | nil => rfl
  | cons shows _ ih =>
      obtain ⟨_, _, _, amount, rfl, -, -, -, comes⟩ := shows
      have last (a b c d : String) : [a, b, c, d][3]? = some d := rfl
      rw [List.mapM_cons, ih, last, Option.bind_some, comes.read]
      rfl

/-! ## Documents -/

theorem filterMap_optionalParagraph (text : String) (style : ParagraphStyle) :
    (optionalParagraph text style).filterMap
      (fun | .table rows => some rows | _ => none : DocumentItem → Option (List (List String))) =
        [] := by
  unfold optionalParagraph
  split <;> rfl

/-- A document has three tables, whatever is known of organisation and student. -/
theorem tables_ofRows (invoice : Invoice) (rows : List (List String)) (student : Student)
    (settings : Settings) :
    (ofRows invoice rows student settings).tables =
      [particulars invoice, lineHeading :: rows, totalTable settings.currency invoice.total] := by
  simp only [tables, ofRows, List.filterMap_append, filterMap_optionalParagraph, List.nil_append,
    List.append_nil]
  rfl

theorem showsInvoice_ofInvoice {invoice : Invoice} {lines : List DraftLine}
    (cents : InCents invoice lines) (student : Student) (settings : Settings) :
    (ofInvoice invoice lines student settings).ShowsInvoice settings.currency lines
      invoice.total := by
  have tables := tables_ofRows invoice (lines.map (lineRow settings.currency)) student settings
  constructor
  · refine ⟨lines.map (lineRow settings.currency), congrArg (·[1]?) tables, ?_⟩
    rw [List.forall₂_map_left_iff, List.forall₂_same]
    exact fun line mem => showsLine_lineRow (cents.lines line mem).1 (cents.lines line mem).2 _
  · exact ⟨_, congrArg (·[2]?) tables, showsAmount_money cents.total _⟩

theorem ShowsInvoice.unique {document other : Document} {currency : String}
    {lines otherLines : List DraftLine} {total otherTotal : Decimal}
    (shows : document.ShowsInvoice currency lines total)
    (showsToo : other.ShowsInvoice currency otherLines otherTotal)
    (sameLines : other.lineTable? = document.lineTable?)
    (sameTotal : other.totalTable? = document.totalTable?) :
    otherLines.map contentOf = lines.map contentOf ∧ otherTotal = total := by
  obtain ⟨⟨rows, table, each⟩, ⟨cell, totals, amount⟩⟩ := shows
  obtain ⟨⟨otherRows, otherTable, otherEach⟩, ⟨otherCell, otherTotals, otherAmount⟩⟩ := showsToo
  rw [table, otherTable] at sameLines
  rw [totals, otherTotals] at sameTotal
  cases sameLines
  cases sameTotal
  exact ⟨contents_eq_of_forall₂ otherEach each, otherAmount.unique amount⟩

theorem ShowsInvoice.amountsShown?_eq {document : Document} {currency : String}
    {lines : List DraftLine} {total : Decimal}
    (shows : document.ShowsInvoice currency lines total) :
    document.amountsShown? currency = some (lines.map (·.amount)) := by
  obtain ⟨rows, table, each⟩ := shows.lines
  rw [amountsShown?, table]
  exact mapM_amountShown? each

theorem ShowsInvoice.totalShown?_eq {document : Document} {currency : String}
    {lines : List DraftLine} {total : Decimal}
    (shows : document.ShowsInvoice currency lines total) :
    document.totalShown? currency = some total := by
  obtain ⟨cell, table, amount⟩ := shows.total
  rw [totalShown?, table]
  exact amount.read

/-- The document of an invoice shows the invoice faithfully. -/
structure IsFaithful (invoice : Invoice) (lines : List DraftLine) (student : Student)
    (settings : Settings) : Prop where
  /-- It shows all lines in their order, and the total. -/
  shows : (ofInvoice invoice lines student settings).ShowsInvoice settings.currency lines
    invoice.total
  /-- The document of another invoice with the same table of lines and the same total shows the
  same descriptions, quantities and amounts. -/
  determines : ∀ (other : Invoice) (otherLines : List DraftLine) (otherStudent : Student)
    (otherSettings : Settings), InCents other otherLines →
      otherSettings.currency = settings.currency →
      (ofInvoice other otherLines otherStudent otherSettings).lineTable? =
        (ofInvoice invoice lines student settings).lineTable? →
      (ofInvoice other otherLines otherStudent otherSettings).totalTable? =
        (ofInvoice invoice lines student settings).totalTable? →
      otherLines.map contentOf = lines.map contentOf ∧ other.total = invoice.total
  /-- If the total is the sum of the amounts, the total that is shown is
  the sum of those shown. -/
  sums : invoice.total.value = (lines.map (·.amount.value)).sum →
    ∃ total amounts,
      (ofInvoice invoice lines student settings).totalShown? settings.currency = some total ∧
      (ofInvoice invoice lines student settings).amountsShown? settings.currency = some amounts ∧
      total.value = (amounts.map Decimal.value).sum

/-- Every document of an invoice in cents shows it faithfully, whatever the amounts, texts and
currency are. -/
theorem shown_faithfully {invoice : Invoice} {lines : List DraftLine}
    (cents : InCents invoice lines) (student : Student) (settings : Settings) :
    IsFaithful invoice lines student settings := by
  have shows := showsInvoice_ofInvoice cents student settings
  refine { shows, determines := ?_, sums := ?_ }
  · intro other otherLines otherStudent otherSettings otherCents currency sameLines sameTotal
    have showsToo := showsInvoice_ofInvoice otherCents otherStudent otherSettings
    rw [currency] at showsToo
    exact shows.unique showsToo sameLines sameTotal
  · intro sum
    refine ⟨_, _, shows.totalShown?_eq, shows.amountsShown?_eq, ?_⟩
    rw [List.map_map]
    exact sum

/-- A line with markup of its own, a negative amount and more than a thousand in both cells. -/
def sampleLine : DraftLine :=
  ⟨1, "Trio & <Quartet>", -12, .ofCents 10288065, .ofCents (-123456780)⟩

/-- The invoice of that line. -/
def sampleInvoice : Invoice :=
  ⟨1, 1, ⟨2024, 1⟩, .ofCents (-123456780), .issued, some "LS-202401-001", none, none⟩

/-- More than a million below nothing is shown with commas and read back. -/
theorem shown_faithfully_below_nothing :
    let student : Student := ⟨1, "Anna", "", "", "", true⟩
    InCents sampleInvoice [sampleLine] ∧
      (ofInvoice sampleInvoice [sampleLine] student default).totalTable? =
        some [["", "", "Total:", "-1,234,567.80 EUR"]] ∧
      IsFaithful sampleInvoice [sampleLine] student default := by
  intro student
  have cents : InCents sampleInvoice [sampleLine] :=
    ⟨Decimal.inCents_ofCents _, List.forall_mem_singleton.mpr
      ⟨Decimal.inCents_ofCents _, Decimal.inCents_ofCents _⟩⟩
  exact ⟨cents, by decide, shown_faithfully cents student default⟩

end Document
end Tuition
