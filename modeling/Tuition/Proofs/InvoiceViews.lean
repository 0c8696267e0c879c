/-
# Lists of invoices and their details

A list of invoices looks up the students and the numbers of lines of all its invoices at once, and
the details of an invoice are looked up one by one. Both come to the same header: a student or
lines that are missing are missing either way. So a list can be read off the store, and whatever
is listed is what the details of the invoice say.
-/

import Tuition.Billing.Overview
import Tuition.Proofs.ConsistentViews
import Tuition.Proofs.DocumentsWritten
import Tuition.Proofs.PaymentTimes

namespace Tuition

/-- A form is shown exactly if its amounts are finite. -/
theorem requireFinite_eq_ok_iff {form : String} {amounts : List (String × Decimal)} :
    requireFinite form amounts = .ok () ↔ ∀ amount ∈ amounts, amount.2.isFinite = true := by
  unfold requireFinite
  split
  · next none => simpa using List.filter_eq_nil_iff.mp none
  · next endless some =>
      refine iff_of_false nofun fun finite => some ?_
      exact List.filter_eq_nil_iff.mpr fun amount mem => by simp [finite amount mem]

/-- Looking a row up among those with some keys is looking it up among all. -/
theorem Table.find?_filter_contains {α : Type} [Row α] {keys : List Int} {key : Int}
    (mem : key ∈ keys) (rows : List α) :
    find? (rows.filter fun row => keys.contains (Row.key row)) key = find? rows key := by
  unfold find?
  rw [List.find?_filter]
  congr 1
  funext row
  by_cases same : Row.key row = key
  · simp [same, mem]
  · simp [same]

/-! ## What is shown -/

/-- The total of an invoice can be shown. -/
def Invoice.Showable (invoice : Invoice) : Prop :=
  (Row.shown invoice).total.isFinite = true

/-- The amounts of a line can be shown. -/
def InvoiceLine.Showable (line : InvoiceLine) : Prop :=
  (Row.shown line).unitPrice.isFinite = true ∧ (Row.shown line).amount.isFinite = true

namespace Store

/-- The invoices of a period, and only those in a state if one is given. -/
def invoicesOf (store : Store) (period : Period) (status : Option InvoiceStatus) : List Invoice :=
  store.invoices.filter fun invoice =>
    invoice.period == period && (status.map (· == invoice.status)).getD true

/-- The header of an invoice as it is read off the store. -/
def headerOf (store : Store) (invoice : Invoice) : Billing.InvoiceHeader :=
  Billing.header (Row.shown invoice) (Table.find? store.students invoice.studentId)
    (store.linesShown invoice.id).length

/-- The details of an invoice as they are read off the store. -/
def detailOf (store : Store) (invoice : Invoice) : Billing.InvoiceDetail :=
  { store.headerOf invoice with
    issuedAt := invoice.issuedAt
    paidAt := invoice.paidAt
    lines := store.linesShown invoice.id }

/-- The details of an invoice can be shown: its total and the amounts of its lines. -/
def ShowsDetail (store : Store) (invoice : Invoice) : Prop :=
  invoice.Showable ∧ ∀ line ∈ store.lines, line.invoiceId = invoice.id → line.Showable

/-- The list of the invoices of a period as it is read off the store. -/
def listOf (store : Store) (period : Period) (status : Option InvoiceStatus) :
    List Billing.InvoiceHeader :=
  (store.invoicesOf period status).map store.headerOf

end Store

namespace Billing

open Tx

variable {world : World} {period : Period} {status : Option InvoiceStatus}

/-! ## Lists -/

/-- Look up the invoices of a period, the numbers of their lines and their students. -/
def lookUp (period : Period) (status : Option InvoiceStatus) :
    Tx (List Invoice × (Int → Nat) × List Student) := do
  let invoices ← Access.invoicesOfPeriod period status
  let lineCount ← Access.countLines (invoices.map Invoice.id)
  let students ← Access.findStudents (invoices.map Invoice.studentId)
  return (invoices, lineCount, students)

/-- What is looked up for several keys at once. Without keys the store is not asked. -/
def batchIn {α : Type} (nothing : α) (answer : Store → α) (ids : List Int) (store : Store) :
    Except Fault α :=
  if ids.isEmpty then .ok nothing else Table.requireWords ids >>= fun _ => .ok (answer store)

/-- The numbers of lines of some invoices in the store. -/
def lineCountsIn : List Int → Store → Except Fault (Int → Nat) :=
  batchIn (fun _ => 0) fun store id => (store.lines.filter (·.invoiceId == id)).length

/-- The students with some keys in the store. -/
def studentsIn (ids : List Int) : Store → Except Fault (List Student) :=
  batchIn [] (fun store => store.students.filter fun student => ids.contains student.id) ids

theorem reads_batch {α : Type} {kind : Call} {table : String} {nothing : α} {answer : Store → α}
    {ids : List Int} :
    (do
      Tx.call kind
      if ids.isEmpty then return nothing
      Tx.requireTable table ids
      Tx.look answer).Reads (batchIn nothing answer ids) := by
  split
  · next empty =>
      have called : (Tx.call kind).Reads fun _ => .ok () := does_call _
      refine (reads_bind called fun _ => reads_pure _).congr fun store => ?_
      rw [batchIn, if_pos empty]
      rfl
  · next some =>
      refine reads_access.congr fun store => ?_
      rw [batchIn, if_neg some]

/-- Something was asked for, so the store has answered. -/
theorem batchIn_of_mem {α : Type} {nothing given : α} {answer : Store → α} {ids : List Int}
    {store : Store} {id : Int} (found : batchIn nothing answer ids store = .ok given)
    (mem : id ∈ ids) : given = answer store := by
  have some : ids.isEmpty = false := List.isEmpty_eq_false_iff.mpr (List.ne_nil_of_mem mem)
  simp only [batchIn, some] at found
  obtain ⟨-, -, found⟩ := bind_eq_ok_iff.mp found
  cases found
  rfl

theorem exists_batch {α : Type} {nothing : α} {answer : Store → α} {ids : List Int}
    (fit : ∀ id ∈ ids, Word.fits id) (store : Store) :
    ∃ given, batchIn nothing answer ids store = .ok given := by
  unfold batchIn
  split
  · exact ⟨_, rfl⟩
  · rw [Table.requireWords_eq_ok_iff.mpr fit]
    exact ⟨_, rfl⟩

/-- The lines of the invoices that were asked for are counted. -/
theorem lineCount_of_mem {store : Store} {ids : List Int} {lineCount : Int → Nat} {id : Int}
    (counted : lineCountsIn ids store = .ok lineCount) (mem : id ∈ ids) :
    lineCount id = (store.linesShown id).length := by
  rw [batchIn_of_mem counted mem]
  simp [Store.linesShown]

/-- The students who were asked for are found where they are there. -/
theorem find?_studentsIn_of_mem {store : Store} {ids : List Int} {students : List Student}
    {id : Int} (found : studentsIn ids store = .ok students) (mem : id ∈ ids) :
    Table.find? students id = Table.find? store.students id := by
  rw [batchIn_of_mem found mem]
  exact Table.find?_filter_contains mem store.students

/-- What is looked up for a list of invoices. -/
def lookedUpIn (period : Period) (status : Option InvoiceStatus) (store : Store) :
    Except Fault (List Invoice × (Int → Nat) × List Student) := do
  Table.requireWords [period.year, period.month]
  let invoices := (store.invoicesOf period status).map Row.shown
  let lineCount ← lineCountsIn (invoices.map Invoice.id) store
  let students ← studentsIn (invoices.map Invoice.studentId) store
  return (invoices, lineCount, students)

theorem reads_lookUp (period : Period) (status : Option InvoiceStatus) :
    (lookUp period status).Reads (lookedUpIn period status) := by
  have listed : (Access.invoicesOfPeriod period status).Reads fun store =>
      Table.requireWords [period.year, period.month] >>= fun _ =>
        .ok ((store.invoicesOf period status).map Row.shown) := reads_access
  refine (reads_bind listed fun invoices => reads_bind reads_batch fun lineCount =>
    reads_bind reads_batch fun students => reads_pure _).congr fun store => ?_
  simp only [lookedUpIn, bind_assoc]
  rfl

/-- The headers that are made of what was looked up are those in the store. -/
theorem headers_of_lookedUp {store : Store} {invoices : List Invoice} {lineCount : Int → Nat}
    {students : List Student}
    (found : lookedUpIn period status store = .ok (invoices, lineCount, students)) :
    invoices = (store.invoicesOf period status).map Row.shown ∧
      (invoices.map fun invoice =>
        header invoice (Table.find? students invoice.studentId) (lineCount invoice.id)) =
        store.listOf period status := by
  obtain ⟨-, -, rest⟩ := bind_eq_ok_iff.mp found
  obtain ⟨counts, counted, rest⟩ := bind_eq_ok_iff.mp rest
  obtain ⟨known, looked, same⟩ := bind_eq_ok_iff.mp rest
  cases same
  refine ⟨rfl, ?_⟩
  rw [List.map_map, Store.listOf]
  refine List.map_congr_left fun invoice mem => ?_
  have among : (Row.shown invoice) ∈ (store.invoicesOf period status).map Row.shown :=
    List.mem_map_of_mem mem
  have count := lineCount_of_mem counted (List.mem_map_of_mem among)
  have student := find?_studentsIn_of_mem looked (List.mem_map_of_mem among)
  simp only [Function.comp_apply, count, student]
  rfl

/-- What a list needs is found in a table that is kept by its rules. -/
theorem exists_lookedUp {store : Store} (accepts : period.accepts = true)
    (kept : Table.WellKept store.invoices) (status : Option InvoiceStatus) :
    ∃ found, lookedUpIn period status store = .ok found := by
  have words (invoice : Invoice) (mem : invoice ∈ store.invoicesOf period status) :=
    kept.words invoice (List.mem_filter.mp mem).1
  have ids : ∀ id ∈ ((store.invoicesOf period status).map Row.shown).map Invoice.id,
      Word.fits id := by
    intro id mem
    obtain ⟨_, shown, rfl⟩ := List.mem_map.mp mem
    obtain ⟨invoice, listed, rfl⟩ := List.mem_map.mp shown
    exact words invoice listed _ List.mem_cons_self
  have studentIds : ∀ id ∈ ((store.invoicesOf period status).map Row.shown).map Invoice.studentId,
      Word.fits id := by
    intro id mem
    obtain ⟨_, shown, rfl⟩ := List.mem_map.mp mem
    obtain ⟨invoice, listed, rfl⟩ := List.mem_map.mp shown
    exact words invoice listed _ (List.mem_cons_of_mem _ List.mem_cons_self)
  obtain ⟨lineCount, counted⟩ : ∃ lineCount, lineCountsIn _ store = .ok lineCount :=
    exists_batch ids store
  obtain ⟨students, found⟩ : ∃ students, studentsIn _ store = .ok students :=
    exists_batch studentIds store
  refine ⟨((store.invoicesOf period status).map Row.shown, lineCount, students),
    bind_eq_ok_iff.mpr ⟨(), ?_, ?_⟩⟩
  · exact Table.requireWords_eq_ok_iff.mpr (Period.fits_of_accepts accepts)
  · exact bind_eq_ok_iff.mpr ⟨lineCount, counted, bind_eq_ok_iff.mpr ⟨students, found, rfl⟩⟩

/-- The totals of some invoices pass the check of a form exactly if they can be shown. -/
theorem forM_shown_eq_ok_iff {form : String} {invoices : List Invoice} :
    ((invoices.map Row.shown).forM fun invoice : Invoice =>
        requireFinite form [("total", invoice.total)]) = .ok () ↔
      ∀ invoice ∈ invoices, invoice.Showable := by
  rw [forM_eq_ok_iff]
  simp [requireFinite_eq_ok_iff, Invoice.Showable]

/-- A list that is answered is the one in the store, and its totals can be shown. In a calm the
list of a period is answered if they can. -/
theorem ends_listInvoices (accepts : period.accepts = true) (status : Option InvoiceStatus)
    (world : World) :
    (listInvoices period status).Ends world
      (fun result _ =>
        (∀ items, result = .ok items → items = world.pending.listOf period status ∧
          ∀ invoice ∈ world.pending.invoicesOf period status, invoice.Showable) ∧
        (world.Calm → Table.WellKept world.pending.invoices →
          (∀ invoice ∈ world.pending.invoicesOf period status, invoice.Showable) →
          result = .ok (world.pending.listOf period status)))
      fun _ _ => world.Calm →
        ¬∀ invoice ∈ world.pending.invoicesOf period status, invoice.Showable := by
  have looked : (lookUp period status).Ends world _ _ := (reads_lookUp period status).ends
  unfold listInvoices
  rw [accepts]
  apply ends_bind
  apply ends_attempt
  refine looked.mono ?_ ?_
  · rintro ⟨invoices, lineCount, students⟩ between ⟨found, pending, continues⟩
    obtain ⟨rfl, headers⟩ := headers_of_lookedUp found
    have shows : (((world.pending.invoicesOf period status).map Row.shown).forM fun invoice =>
        lift (requireFinite "InvoiceListItemDTO" [("total", invoice.total)])).Ends between _ _ :=
      (Payments.reads_forM _ _).ends
    apply ends_bind
    refine shows.mono ?_ ?_
    · rintro _ after ⟨finite, -⟩
      rw [forM_shown_eq_ok_iff] at finite
      apply ends_pure
      rw [headers]
      refine ⟨?_, fun _ _ _ => rfl⟩
      rintro _ ⟨rfl⟩
      exact ⟨rfl, finite⟩
    · rintro fault after ⟨failed, -⟩ calm finite
      cases (failed (continues.calm calm)).symm.trans (forM_shown_eq_ok_iff.mpr finite)
  · rintro fault between ⟨failed, -⟩
    refine ends_pure ⟨nofun, fun calm kept _ => ?_⟩
    obtain ⟨_, found⟩ := exists_lookedUp accepts kept status
    cases (failed calm).symm.trans found

/-! ## Details -/

/-- What is looked up for an invoice that was found, as it is shown. -/
def detailOfFound (id : Int) (store : Store) :
    Option Invoice → Except Fault (Except Refusal InvoiceDetail)
  | none => .ok (.error (.noInvoice id))
  | some invoice => do
    Table.requireWords [invoice.id]
    let lines := (store.lines.filter (·.invoiceId == invoice.id)).map Row.shown
    Table.requireWords [invoice.studentId]
    let student := Table.find? store.students invoice.studentId
    lines.forM fun line =>
      requireFinite "InvoiceLineDTO" [("unit_price", line.unitPrice), ("amount", line.amount)]
    requireFinite "InvoiceDetailDTO" [("total", invoice.total)]
    return .ok
      { header invoice student lines.length with
        issuedAt := invoice.issuedAt
        paidAt := invoice.paidAt
        lines := lines.map (·.toDraftLine) }

/-- What is looked up for the details of an invoice. -/
def detailIn (id : Int) (store : Store) : Except Fault (Except Refusal InvoiceDetail) := do
  Table.requireWords [id]
  detailOfFound id store ((Table.find? store.invoices id).map Row.shown)

theorem reads_getInvoice (id : Int) : (getInvoice id).Reads (detailIn id) := by
  have looked : (Access.findInvoice id).Reads fun store => Table.requireWords [id] >>= fun _ =>
      .ok ((Table.find? store.invoices id).map Row.shown) := reads_access
  have lines (invoice : Invoice) : (Access.linesOfInvoice invoice.id).Reads fun store =>
      Table.requireWords [invoice.id] >>= fun _ =>
        .ok ((store.lines.filter (·.invoiceId == invoice.id)).map Row.shown) := reads_access
  have student (invoice : Invoice) : (Access.findStudent invoice.studentId).Reads fun store =>
      Table.requireWords [invoice.studentId] >>= fun _ =>
        .ok (Table.find? store.students invoice.studentId) := reads_access
  let view (found : Option Invoice) (store : Store) := detailOfFound id store found
  refine Reads.congr (@reads_bind _ _ _ _ _ view looked ?_) ?_
  · rintro (_ | invoice)
    · exact reads_pure _
    · refine (reads_bind (lines invoice) fun lines => reads_bind (student invoice) fun student =>
        reads_bind (Payments.reads_forM _ lines) fun _ => reads_bind (reads_lift _) fun _ =>
          reads_pure _).congr fun store => ?_
      simp only [view, detailOfFound, bind_assoc]
      rfl
  · intro store
    simp only [view, detailIn, bind_assoc]
    rfl

/-- The amounts of some lines pass the check of their form exactly if they can be shown. -/
theorem forM_shownLine_eq_ok_iff {lines : List InvoiceLine} :
    ((lines.map Row.shown).forM fun line : InvoiceLine =>
        requireFinite "InvoiceLineDTO" [("unit_price", line.unitPrice),
          ("amount", line.amount)]) =
        .ok () ↔ ∀ line ∈ lines, line.Showable := by
  rw [forM_eq_ok_iff]
  simp [requireFinite_eq_ok_iff, InvoiceLine.Showable]

/-- The details that are made of an invoice are those in the store, and they can be shown. -/
theorem detailOfFound_eq_ok_iff {id : Int} {store : Store} {invoice : Invoice}
    {detail : InvoiceDetail} :
    detailOfFound id store (some (Row.shown invoice)) = .ok (.ok detail) ↔
      Word.fits invoice.id ∧ Word.fits invoice.studentId ∧ store.ShowsDetail invoice ∧
        detail = store.detailOf invoice := by
  have total : requireFinite "InvoiceDetailDTO" [("total", (Row.shown invoice).total)] = .ok () ↔
      invoice.Showable := by simp [requireFinite_eq_ok_iff, Invoice.Showable]
  have lines : (((store.lines.filter (·.invoiceId == invoice.id)).map Row.shown).forM
        fun line : InvoiceLine => requireFinite "InvoiceLineDTO"
          [("unit_price", line.unitPrice), ("amount", line.amount)]) = .ok () ↔
      ∀ line ∈ store.lines, line.invoiceId = invoice.id → line.Showable := by
    rw [forM_shownLine_eq_ok_iff]
    simp
  have made : store.detailOf invoice =
      { header (Row.shown invoice) (Table.find? store.students invoice.studentId)
          ((store.lines.filter (·.invoiceId == invoice.id)).map Row.shown).length with
        issuedAt := invoice.issuedAt
        paidAt := invoice.paidAt
        lines := store.linesShown invoice.id } := by
    simp [Store.detailOf, Store.headerOf, Store.linesShown]
  rw [made]
  constructor
  · intro found
    obtain ⟨_, fits, rest⟩ := bind_eq_ok_iff.mp found
    obtain ⟨_, fitsStudent, rest⟩ := bind_eq_ok_iff.mp rest
    obtain ⟨_, linesShown, rest⟩ := bind_eq_ok_iff.mp rest
    obtain ⟨_, totalShown, same⟩ := bind_eq_ok_iff.mp rest
    cases same
    refine ⟨?_, ?_, ⟨total.mp totalShown, lines.mp linesShown⟩, rfl⟩
    · exact Table.requireWords_eq_ok_iff.mp fits _ List.mem_cons_self
    · exact Table.requireWords_eq_ok_iff.mp fitsStudent _ List.mem_cons_self
  · rintro ⟨fits, fitsStudent, ⟨totalShown, linesShown⟩, rfl⟩
    refine bind_eq_ok_iff.mpr ⟨(), requireWords_single fits, ?_⟩
    refine bind_eq_ok_iff.mpr ⟨(), requireWords_single fitsStudent, ?_⟩
    refine bind_eq_ok_iff.mpr ⟨(), lines.mpr linesShown, ?_⟩
    exact bind_eq_ok_iff.mpr ⟨(), total.mpr totalShown, rfl⟩

/-- The details that are looked up are those of the invoice with the key,
and they can be shown. -/
theorem detailIn_eq_ok_iff {id : Int} {store : Store} {detail : InvoiceDetail} :
    detailIn id store = .ok (.ok detail) ↔
      ∃ invoice, Table.find? store.invoices id = some invoice ∧
      Word.fits invoice.id ∧ Word.fits invoice.studentId ∧ store.ShowsDetail invoice ∧
      detail = store.detailOf invoice := by
  cases there : Table.find? store.invoices id with
  | none => simp [detailIn, there, detailOfFound, bind_eq_ok_iff]
  | some invoice =>
      obtain rfl : invoice.id = id := Table.key_of_find? there
      simp only [detailIn, there, bind_eq_ok_iff, Option.map_some, detailOfFound_eq_ok_iff]
      constructor
      · rintro ⟨_, -, rest⟩
        exact ⟨invoice, rfl, rest⟩
      · rintro ⟨_, same, fits, rest⟩
        cases same
        exact ⟨(), requireWords_single fits, fits, rest⟩

/-! ## Lists in the order of keys -/

/-- Headers that are taken apart by their states are the same headers. -/
theorem perm_states (items : List Billing.InvoiceHeader) :
    (items.filter (·.status = .draft) ++ (items.filter (·.status = .issued) ++
      (items.filter (·.status = .paid) ++ items.filter (·.status = .canceled)))).Perm items := by
  induction items with
  | nil => rfl
  | cons item items ih =>
      have moved (before behind : List InvoiceHeader) (parts : (before ++ behind).Perm items) :
          (before ++ item :: behind).Perm (item :: items) :=
        List.perm_middle.trans (parts.cons item)
      cases state : item.status with
      | draft => simpa [state] using ih
      | issued =>
          simpa [state] using moved (items.filter (·.status = .draft)) _ (by simpa using ih)
      | paid =>
          simpa [state] using moved
            (items.filter (·.status = .draft) ++ items.filter (·.status = .issued)) _
            (by simpa using ih)
      | canceled =>
          simpa [state] using moved
            (items.filter (·.status = .draft) ++ items.filter (·.status = .issued) ++
              items.filter (·.status = .paid)) _ (by simpa using ih)

/-- The list of a well-kept table is in the order of the keys. -/
theorem pairwise_listOf {store : Store} (kept : Table.Ordered store.invoices) (period : Period)
    (status : Option InvoiceStatus) :
    (store.listOf period status).Pairwise fun first second => first.id < second.id := by
  have ordered : (store.invoicesOf period status).Pairwise fun first second =>
      first.id < second.id :=
    kept.filter _
  exact List.pairwise_map.mpr ordered

/-- A list has the keys of the invoices of the period, in the state that was asked for. -/
theorem mem_ids_listOf_iff {store : Store} {id : Int} :
    id ∈ (store.listOf period status).map InvoiceHeader.id ↔ ∃ invoice ∈ store.invoices,
      invoice.id = id ∧ invoice.period = period ∧
        ∀ state, status = some state → invoice.status = state := by
  have key (invoice : Invoice) : (store.headerOf invoice).id = invoice.id := rfl
  have asked (invoice : Invoice) : (status.map (· == invoice.status)).getD true = true ↔
      ∀ state, status = some state → invoice.status = state := by
    cases status with
    | none => simp
    | some state => simpa using eq_comm
  simp only [Store.listOf, Store.invoicesOf, List.map_map, List.mem_map, List.mem_filter,
    Function.comp_apply, key, Bool.and_eq_true, beq_iff_eq, asked]
  constructor
  · rintro ⟨invoice, ⟨mem, inPeriod, inState⟩, same⟩
    exact ⟨invoice, mem, same, inPeriod, inState⟩
  · rintro ⟨invoice, mem, same, inPeriod, inState⟩
    exact ⟨invoice, ⟨mem, inPeriod, inState⟩, same⟩

/-- The list in a state is taken from the list in any state. -/
theorem listOf_some (store : Store) (period : Period) (state : InvoiceStatus) :
    store.listOf period (some state) = (store.listOf period none).filter (·.status = state) := by
  have status (invoice : Invoice) : (store.headerOf invoice).status = invoice.status := rfl
  rw [Store.listOf, Store.listOf, List.filter_map, Store.invoicesOf, Store.invoicesOf,
    List.filter_filter]
  congr 1
  refine List.filter_congr fun invoice _ => ?_
  rw [Function.comp_apply, status, Bool.and_comm]
  simp [eq_comm, beq_eq_decide]

/-- The lists in the four states, merged by their keys, are the list in any state. -/
theorem mergeSort_listOf {store : Store} (kept : Table.Ordered store.invoices) (period : Period) :
    (store.listOf period (some .draft) ++ (store.listOf period (some .issued) ++
      (store.listOf period (some .paid) ++ store.listOf period (some .canceled)))).mergeSort
        (fun first second => first.id ≤ second.id) = store.listOf period none := by
  simp only [listOf_some]
  exact mergeSort_eq_of_perm (perm_states _) (pairwise_listOf kept period none)

end Billing

open Tx

/-! ## Views -/

namespace World

variable {world : World} {period : Period} {status : Option InvoiceStatus}

/-- Whatever is listed is in the store, and can be shown. -/
theorem Shows.list_eq {items : List Billing.InvoiceHeader} (accepts : period.accepts = true)
    (shows : world.Shows (Billing.listInvoices period status) items) :
    items = world.store.listOf period status ∧
      ∀ invoice ∈ world.store.invoicesOf period status, invoice.Showable := by
  obtain ⟨outages, answered⟩ := shows
  rw [perform_session] at answered
  have ends := Billing.ends_listInvoices accepts status { world with outages }.begin
  rcases performed :
      (Billing.listInvoices period status).perform { world with outages }.begin with
        ⟨result, after⟩
  rw [performed] at answered
  cases answered
  exact (ends.of_ok performed).1 items rfl

/-- The details that are answered are in the store, and can be shown. -/
theorem Shows.detail_eq {id : Int} {detail : Billing.InvoiceDetail}
    (shows : world.Shows (Billing.getInvoice id) detail) :
    ∃ invoice, Table.find? world.store.invoices id = some invoice ∧
      world.store.ShowsDetail invoice ∧ detail = world.store.detailOf invoice := by
  obtain ⟨invoice, found, -, -, shown, same⟩ :=
    Billing.detailIn_eq_ok_iff.mp (shows.view_eq (Billing.reads_getInvoice id))
  exact ⟨invoice, found, shown, same⟩

/-- In a calm a list is answered exactly if all its totals can be shown. -/
theorem Calm.lists_iff (calm : world.Calm) (kept : Table.WellKept world.store.invoices)
    (accepts : period.accepts = true) (status : Option InvoiceStatus) :
    (∃ items, ((session (Billing.listInvoices period status)).perform world).1 =
        .ok (.ok items)) ↔
      ∀ invoice ∈ world.store.invoicesOf period status, invoice.Showable := by
  constructor
  · rintro ⟨items, answered⟩
    exact (Shows.list_eq accepts ⟨world.outages, answered⟩).2
  · intro showable
    have quiet : world.begin.Calm := ⟨calm.tables, calm.quiet⟩
    have ends := Billing.ends_listInvoices accepts status world.begin
    rw [perform_session]
    rcases performed : (Billing.listInvoices period status).perform world.begin with
      ⟨fault | result, after⟩
    · exact absurd showable (ends.of_error performed quiet)
    · exact ⟨_, congrArg Except.ok ((ends.of_ok performed).2 quiet kept showable)⟩

/-- In a calm the details of an invoice are answered exactly if they can be shown. -/
theorem Calm.details_iff (calm : world.Calm) (kept : Table.WellKept world.store.invoices)
    {invoice : Invoice} (mem : invoice ∈ world.store.invoices) :
    (∃ detail, ((session (Billing.getInvoice invoice.id)).perform world).1 = .ok (.ok detail)) ↔
      world.store.ShowsDetail invoice := by
  have found : Table.find? world.store.invoices invoice.id = some invoice :=
    kept.ordered.find?_eq_some_iff.mpr ⟨mem, rfl⟩
  have words := kept.words invoice mem
  rw [(Billing.reads_getInvoice invoice.id).perform_session calm]
  simp only [Billing.detailIn_eq_ok_iff, found]
  constructor
  · rintro ⟨detail, other, same, -, -, shown, -⟩
    cases same
    exact shown
  · intro shown
    exact ⟨_, invoice, rfl, words _ List.mem_cons_self,
      words _ (List.mem_cons_of_mem _ List.mem_cons_self), shown, rfl⟩

end World

/-- The lists of the invoices of a period and the details of these invoices agree. Lists and
details are those that are answered, under whatever outages. -/
structure World.InvoiceViewsAgree (world : World) (period : Period) : Prop where
  ascending : ∀ status items, world.Shows (Billing.listInvoices period status) items →
    items.Pairwise fun first second => first.id < second.id
  complete : ∀ status items, world.Shows (Billing.listInvoices period status) items →
    ∀ id, id ∈ items.map Billing.InvoiceHeader.id ↔ ∃ invoice ∈ world.store.invoices,
      invoice.id = id ∧ invoice.period = period ∧ ∀ state, status = some state →
        invoice.status = state
  byState : ∀ state items all, world.Shows (Billing.listInvoices period (some state)) items →
    world.Shows (Billing.listInvoices period none) all → items = all.filter (·.status = state)
  merged : ∀ drafts issued paid canceled all,
    world.Shows (Billing.listInvoices period (some .draft)) drafts →
    world.Shows (Billing.listInvoices period (some .issued)) issued →
    world.Shows (Billing.listInvoices period (some .paid)) paid →
    world.Shows (Billing.listInvoices period (some .canceled)) canceled →
    world.Shows (Billing.listInvoices period none) all →
    (drafts ++ (issued ++ (paid ++ canceled))).mergeSort
      (fun first second => first.id ≤ second.id) = all
  detailed : ∀ status items, world.Shows (Billing.listInvoices period status) items →
    ∀ item ∈ items, ∀ detail, world.Shows (Billing.getInvoice item.id) detail →
      detail.toInvoiceHeader = item ∧ item.lineCount = detail.lines.length
  /-- In a calm a list is answered exactly if all its totals can be shown. -/
  lists : world.Calm → ∀ status,
    (∃ items, ((session (Billing.listInvoices period status)).perform world).1 =
        .ok (.ok items)) ↔
      ∀ invoice ∈ world.store.invoicesOf period status, invoice.Showable
  /-- In a calm the details of an invoice are answered exactly if its amounts can be shown. -/
  details : world.Calm → ∀ invoice ∈ world.store.invoices,
    (∃ detail, ((session (Billing.getInvoice invoice.id)).perform world).1 = .ok (.ok detail)) ↔
      world.store.ShowsDetail invoice

/-- Lists of invoices and their details agree, whatever is in the tables: an invoice may have no
lines and its student may be gone. A list of a period has each of its invoices once, in the order
of their keys; the list in a state is taken from the list in any state, which the four lists make
up; and what is listed of an invoice is the header in its details. -/
theorem invoice_views_agree (world : World) (kept : Table.WellKept world.store.invoices)
    {period : Period} (accepts : period.accepts = true) : world.InvoiceViewsAgree period where
  ascending status items shows := by
    rw [(shows.list_eq accepts).1]
    exact Billing.pairwise_listOf kept.ordered period status
  complete status items shows id := by
    rw [(shows.list_eq accepts).1]
    exact Billing.mem_ids_listOf_iff
  byState state items all shows showsAll := by
    rw [(shows.list_eq accepts).1, (showsAll.list_eq accepts).1]
    exact Billing.listOf_some world.store period state
  merged drafts issued paid canceled all showsDrafts showsIssued showsPaid showsCanceled
    showsAll := by
    rw [(showsDrafts.list_eq accepts).1, (showsIssued.list_eq accepts).1,
      (showsPaid.list_eq accepts).1, (showsCanceled.list_eq accepts).1,
      (showsAll.list_eq accepts).1]
    exact Billing.mergeSort_listOf kept.ordered period
  detailed status items shows item mem detail showsDetail := by
    rw [(shows.list_eq accepts).1] at mem
    obtain ⟨invoice, listed, rfl⟩ := List.mem_map.mp mem
    obtain ⟨other, found, -, rfl⟩ := showsDetail.detail_eq
    obtain ⟨there, key⟩ := kept.ordered.find?_eq_some_iff.mp found
    obtain rfl := kept.ordered.eq_of_key_eq there (List.mem_filter.mp listed).1 key
    exact ⟨rfl, rfl⟩
  lists calm status := calm.lists_iff kept accepts status
  details calm invoice mem := calm.details_iff kept mem

/-- The records of an organisation with three invoices of a month: the second one has no lines,
and the student of the third one is gone. -/
def Store.withStrayInvoice : Store :=
  { Store.withEnrollment with
    students := [⟨1, "Anna", "", "", "", true⟩, ⟨2, "Berta", "", "", "", true⟩]
    invoices := [{ Invoice.sample with status := .issued, number := some "LS-202401-001" },
      { Invoice.sample with id := 2, studentId := 2 },
      { Invoice.sample with id := 4, studentId := 7 }]
    lines := [⟨⟨1, "Violin", 1, .ofCents 2500, .ofCents 2500⟩, 1, 1⟩,
      ⟨⟨3, "Piano", 2, .ofCents 1250, .ofCents 2500⟩, 2, 4⟩] }

/-- They are listed in order, and each with the header of its details. -/
theorem invoice_views_agree_without_student :
    let world := World.calmWith .withStrayInvoice
    ∃ items, ((session (Billing.listInvoices ⟨2024, 1⟩ none)).perform world).1 = .ok (.ok items) ∧
      items.map (fun item => (item.id, item.studentName, item.lineCount)) =
        [(1, "Anna", 1), (2, "Berta", 0), (4, "", 1)] ∧
      ∀ item ∈ items, ∃ detail,
        ((session (Billing.getInvoice item.id)).perform world).1 = .ok (.ok detail) ∧
        detail.toInvoiceHeader = item ∧ item.lineCount = detail.lines.length := by
  intro world
  have agree : world.InvoiceViewsAgree ⟨2024, 1⟩ :=
    invoice_views_agree world (by decide +kernel) rfl
  have calm : world.Calm := ⟨rfl, rfl⟩
  obtain ⟨items, listed⟩ := (agree.lists calm none).mpr (by
    unfold Invoice.Showable
    decide +kernel)
  have shows : world.Shows (Billing.listInvoices ⟨2024, 1⟩ none) items := ⟨[], listed⟩
  have shown : ∀ invoice ∈ world.store.invoices, world.store.ShowsDetail invoice := by
    unfold Store.ShowsDetail Invoice.Showable InvoiceLine.Showable
    decide +kernel
  refine ⟨items, listed, ?_, ?_⟩
  · rw [(shows.list_eq rfl).1]
    decide +kernel
  · intro item mem
    obtain ⟨invoice, there, same, -⟩ :=
      (agree.complete none items shows item.id).mp (List.mem_map_of_mem mem)
    obtain ⟨detail, given⟩ := (agree.details calm invoice there).mpr (shown invoice there)
    rw [same] at given
    exact ⟨detail, given, agree.detailed none items shows item mem detail ⟨[], given⟩⟩

/-- The records of an organisation that has issued an invoice without end. -/
def Store.withEndlessInvoice : Store :=
  { Store.withEnrollment with
    invoices := [{ Invoice.sample with status := .issued, total := .infinite false }] }

/-- An invoice whose total is infinite is in the tables, but no list of its month is answered, and
neither are its details. -/
theorem endless_invoice_not_listed :
    let world := World.calmWith .withEndlessInvoice
    Table.WellKept world.store.invoices ∧
      (∃ invoice ∈ world.store.invoices, invoice.period = ⟨2024, 1⟩) ∧
      (¬∃ items, ((session (Billing.listInvoices ⟨2024, 1⟩ none)).perform world).1 =
        .ok (.ok items)) ∧
      ¬∃ detail, ((session (Billing.getInvoice 1)).perform world).1 = .ok (.ok detail) := by
  intro world
  have kept : Table.WellKept world.store.invoices := by decide +kernel
  have calm : world.Calm := ⟨rfl, rfl⟩
  refine ⟨kept, by decide +kernel, ?_, ?_⟩
  · rw [calm.lists_iff kept rfl]
    unfold Invoice.Showable
    decide +kernel
  · have mem : { Invoice.sample with status := .issued, total := .infinite false } ∈
        world.store.invoices := List.mem_cons_self
    refine mt (calm.details_iff kept mem).mp ?_
    exact fun shown => absurd shown.1 (by
      unfold Invoice.Showable
      decide +kernel)

end Tuition
