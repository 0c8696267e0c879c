/-
# Payments in a calm

In a calm every call goes through, so what a payment operation answers and leaves can be told from
the store. A payment is judged by the student and the invoice that it names and by its own amount
alone: `Store.judge` gives the row that is to be written, but for its key, or the refusal. What
happens to the invoice then depends only on whether the payments on it cover its total, which
`Store.Decides` asks to be decided.
-/

import Tuition.Proofs.AttachedLines
import Tuition.Proofs.Recording

namespace Tuition

/-! ## Calls in a calm -/

namespace Tx

variable {α : Type} {world : World}

theorem perform_pure (value : α) (world : World) :
    (pure value : Tx α).perform world = (.ok value, world) :=
  rfl

theorem perform_lift (result : Except Fault α) (world : World) :
    (lift result).perform world = (result, world) := by
  cases result <;> rfl

theorem perform_look (view : Store → α) (world : World) :
    (look view).perform world = (.ok (view world.pending), world) :=
  rfl

theorem perform_call_of_calm (calm : world.Calm) (kind : Call) :
    (call kind).perform world = (.ok (), world) := by
  rw [perform_call, calm.count]

theorem perform_requireTable (tables : world.hasTables = true) (table : String)
    (numbers : List Int) :
    (requireTable table numbers).perform world = (Table.requireWords numbers, world) := by
  have after : (requireTable table numbers).perform world =
      ((do
        if !world.hasTables then throw (.noTable table)
        lift (Table.requireWords numbers)) : Tx Unit).perform world := rfl
  rw [after, tables]
  exact perform_lift _ _

theorem requireWords_single {number : Int} (fits : Word.fits number) :
    Table.requireWords [number] = .ok () :=
  Table.requireWords_eq_ok_iff.mpr (by simpa using fits)

/-- In a calm an access whose numbers fit does what is left of it after the call. -/
theorem perform_access {kind : Call} {table : String} {numbers : List Int} {rest : Tx α}
    (calm : world.Calm) (fits : Table.requireWords numbers = .ok ()) :
    (do
      call kind
      requireTable table numbers
      rest).perform world = rest.perform world := by
  rw [perform_bind, perform_call_of_calm calm]
  dsimp only
  rw [perform_bind, perform_requireTable calm.tables, fits]

/-- In a calm an access is broken off by numbers that do not fit. -/
theorem perform_access_of_unfit {kind : Call} {table : String} {numbers : List Int} {rest : Tx α}
    {fault : Fault} (calm : world.Calm) (unfit : Table.requireWords numbers = .error fault) :
    (do
      call kind
      requireTable table numbers
      rest).perform world = (.error fault, world) := by
  rw [perform_bind, perform_call_of_calm calm]
  dsimp only
  rw [perform_bind, perform_requireTable calm.tables, unfit]

theorem perform_commit (calm : world.Calm) :
    commit.perform world = (.ok (), { world with store := world.pending }) := by
  refine (perform_bind _ _ _).trans ?_
  rw [perform_call_of_calm calm]
  rfl

end Tx

open Tx

/-! ## Settling -/

/-- An invoice as settling leaves it, once it is decided whether the payments
on it cover its total. -/
def Invoice.settledAs (invoice : Invoice) (now : Moment) (covered : Bool) : Invoice :=
  if !invoice.status.payable then invoice
  else if covered then
    if invoice.status = .paid then invoice
    else { invoice with status := .paid, paidAt := some now }
  else if invoice.status = .paid then { invoice with status := .issued, paidAt := none }
  else invoice

namespace Store

/-- The store with an invoice in place of the one with its key. -/
def withInvoice (store : Store) (invoice : Invoice) : Store :=
  { store with
    invoices := store.invoices.map fun other => if other.id = invoice.id then invoice else other }

/-- The store after the invoice that a payment names was settled, if there is one. -/
def settledOn (store : Store) (link : Option Int) (now : Moment) (covered : Bool) : Store :=
  match link.bind (Table.find? store.invoices) with
  | none => store
  | some invoice => store.withInvoice (invoice.settledAs now covered)

/-- Settling changes the invoices and nothing else. -/
theorem settledOn_eq (store : Store) (link : Option Int) (now : Moment) (covered : Bool) :
    store.settledOn link now covered =
      { store with invoices := (store.settledOn link now covered).invoices } := by
  unfold settledOn
  cases link.bind (Table.find? store.invoices) <;> rfl

/-- It is decided whether the payments on the invoice that a payment names cover its total. -/
def Decides (store : Store) (link : Option Int) (covered : Bool) : Prop :=
  ∀ invoice, link.bind (Table.find? store.invoices) = some invoice →
    invoice.status.payable = true →
    ∃ paid, store.paidOn invoice.id = .ok paid ∧
      Payments.covers paid (Row.shown invoice).total = .ok covered

variable {store : Store} {invoice : Invoice}

theorem withInvoice_self (kept : Table.WellKept store.invoices) (mem : invoice ∈ store.invoices) :
    store.withInvoice invoice = store := by
  have written := (Table.replace_eq_ok_iff.mp (kept.replace_self mem)).1
  unfold withInvoice
  exact congrArg (fun invoices => { store with invoices }) written.symm

/-- An invoice can be written over itself with another state. -/
theorem replace_sameColumns {edited : Invoice} (kept : Table.WellKept store.invoices)
    (mem : invoice ∈ store.invoices) (id : edited.id = invoice.id)
    (studentId : edited.studentId = invoice.studentId) (period : edited.period = invoice.period)
    (number : edited.number = invoice.number) :
    Table.replace store.invoices edited = .ok (store.withInvoice edited).invoices := by
  have fits := (Table.replace_eq_ok_iff.mp (kept.replace_self mem)).2
  have key : Row.key edited = Row.key invoice := id
  have words : Row.words edited = Row.words invoice := by
    show [edited.studentId, edited.period.year, edited.period.month] = _
    rw [studentId, period]
    rfl
  refine Table.replace_eq_ok_iff.mpr ⟨rfl, ?_, nofun, ?_, ?_⟩
  · rw [key, words]
    exact fits.words
  · rw [key]
    exact fits.key
  · intro other among combination listed
    rw [key] at among
    rw [← fits.distinct other among combination listed]
    rcases List.mem_cons.mp listed with rfl | rest
    · simp only [studentId, period]
    · rw [List.mem_singleton.mp rest]
      simp only [number]

end Store

namespace Payments

variable {world : World} {invoice : Invoice} {covered : Bool}

theorem perform_findStudent (calm : world.Calm) {id : Int}
    (fits : Table.requireWords [id] = .ok ()) :
    (Access.findStudent id).perform world =
      (.ok (Table.find? world.pending.students id), world) :=
  (perform_access calm fits).trans (perform_look _ _)

theorem perform_findInvoice (calm : world.Calm) {id : Int}
    (fits : Table.requireWords [id] = .ok ()) :
    (Access.findInvoice id).perform world =
      (.ok ((Table.find? world.pending.invoices id).map Row.shown), world) :=
  (perform_access calm fits).trans (perform_look _ _)

theorem perform_findPayment (calm : world.Calm) {id : Int}
    (fits : Table.requireWords [id] = .ok ()) :
    (Access.findPayment id).perform world =
      (.ok ((Table.find? world.pending.payments id).map Row.shown), world) :=
  (perform_access calm fits).trans (perform_look _ _)

theorem perform_sumPaidOnInvoice (calm : world.Calm) {id : Int}
    (fits : Table.requireWords [id] = .ok ()) :
    (Access.sumPaidOnInvoice id).perform world = (world.pending.paidOn id, world) := by
  refine (perform_access calm fits).trans ?_
  rw [perform_bind, perform_look]
  dsimp only
  rw [perform_bind, perform_lift, Store.paidOn]
  cases Amount.sum ((world.pending.payments.filter (·.invoiceId == some id)).map
    Payment.amount) with
  | error fault => rfl
  | ok sum => exact perform_lift _ _

/-- Saving an invoice with the total that it shows puts it in place of the one with its key. -/
theorem perform_saveInvoice (calm : world.Calm) (kept : Table.WellKept world.pending.invoices)
    (mem : invoice ∈ world.pending.invoices) {edited : Invoice} (id : edited.id = invoice.id)
    (studentId : edited.studentId = invoice.studentId) (period : edited.period = invoice.period)
    (number : edited.number = invoice.number) (total : edited.total = invoice.total) :
    (Access.saveInvoice (Row.shown edited)).perform world =
      (.ok (), { world with pending := world.pending.withInvoice edited }) := by
  have found : Table.find? world.pending.invoices (Row.shown edited).id = some invoice :=
    kept.ordered.find?_eq_some_iff.mpr ⟨mem, id.symm⟩
  have sameTotal : (Row.shown edited).total = (Row.shown invoice).total :=
    congrArg Amount.shown total
  have keeps : Access.totalToKeep world.pending.invoices (Row.shown edited) =
      .ok edited.total := by
    simp only [Access.totalToKeep, found, sameTotal, Decimal.order_self,
      beq_self_eq_true, if_true, total]
  have written := Store.replace_sameColumns kept mem id studentId period number
  refine (perform_access calm rfl).trans ?_
  rw [perform_bind, perform_look]
  dsimp only
  rw [perform_bind, perform_lift, keeps]
  dsimp only
  have whole : { Row.shown edited with total := edited.total } = edited := rfl
  rw [perform_bind, perform_lift, whole, written]
  rfl

/-- An invoice that was looked up is saved in another state. -/
theorem perform_saveState (calm : world.Calm) (kept : Table.WellKept world.pending.invoices)
    (mem : invoice ∈ world.pending.invoices) (status : InvoiceStatus) (paidAt : Option Moment) :
    (do
      Access.saveInvoice { Row.shown invoice with status, paidAt }
      return { Row.shown invoice with status, paidAt } : Tx Invoice).perform world =
      (.ok (Row.shown { invoice with status, paidAt }),
        { world with pending := world.pending.withInvoice { invoice with status, paidAt } }) := by
  let edited : Invoice := { invoice with status, paidAt }
  have saved : (Access.saveInvoice (Row.shown edited)).perform world = _ :=
    perform_saveInvoice calm kept mem rfl rfl rfl rfl rfl
  have shown : { Row.shown invoice with status, paidAt } = Row.shown edited := rfl
  rw [shown, perform_bind, saved]
  rfl

/-- Settling an invoice that was looked up, where it is decided whether it is covered. -/
theorem perform_settle (calm : world.Calm) (kept : Table.WellKept world.pending.invoices)
    (mem : invoice ∈ world.pending.invoices)
    (decides : invoice.status.payable = true →
      ∃ paid, world.pending.paidOn invoice.id = .ok paid ∧
      covers paid (Row.shown invoice).total = .ok covered) :
    (settle (Row.shown invoice)).perform world =
      (.ok (Row.shown (invoice.settledAs world.now covered)),
        { world with
          pending := world.pending.withInvoice (invoice.settledAs world.now covered) }) := by
  have unchanged : { world with pending := world.pending.withInvoice invoice } = world := by
    rw [Store.withInvoice_self kept mem]
  have status : (Row.shown invoice).status = invoice.status := rfl
  unfold settle Invoice.settledAs
  rw [status]
  cases payable : invoice.status.payable with
  | false => simp only [Bool.not_false, if_true, unchanged, perform_pure]
  | true =>
      obtain ⟨paid, sum, decided⟩ := decides payable
      have word := requireWords_single (kept.words invoice mem _ List.mem_cons_self)
      simp only [Bool.not_true, Bool.false_eq_true, if_false]
      have summed : (Access.sumPaidOnInvoice (Row.shown invoice).id).perform world =
          (.ok paid, world) := by
        rw [← sum]
        exact perform_sumPaidOnInvoice calm word
      rw [perform_bind, summed]
      dsimp only
      have compared : (arithmetic (covers paid (Row.shown invoice).total)).perform world =
          (.ok covered, world) := by
        rw [decided]
        rfl
      rw [perform_bind, compared]
      dsimp only
      cases covered with
      | false =>
          simp only [Bool.false_eq_true, if_false]
          by_cases paid : invoice.status = .paid
          · rw [if_neg (not_not_intro paid), if_pos paid]
            exact perform_saveState calm kept mem .issued none
          · rw [if_pos paid, if_neg paid, unchanged]
            exact perform_pure _ _
      | true =>
          simp only [if_true]
          by_cases paid : invoice.status = .paid
          · rw [if_pos paid, if_pos paid, unchanged]
            exact perform_pure _ _
          · rw [if_neg paid, if_neg paid]
            have moment : now.perform world = (.ok world.now, world) := rfl
            rw [perform_bind, moment]
            exact perform_saveState calm kept mem .paid (some world.now)

/-- Settling the invoice that a payment names, which may not be there. -/
theorem perform_settle_link (calm : world.Calm) (kept : Table.WellKept world.pending.invoices)
    {link : Option Int} (decides : world.pending.Decides link covered) :
    (((link.bind (Table.find? world.pending.invoices)).map Row.shown).mapM settle).perform world =
      (.ok ((link.bind (Table.find? world.pending.invoices)).map fun invoice =>
        Row.shown (invoice.settledAs world.now covered)),
        { world with pending := world.pending.settledOn link world.now covered }) := by
  unfold Store.Decides at decides
  unfold Store.settledOn
  cases named : link.bind (Table.find? world.pending.invoices) with
  | none => rfl
  | some invoice =>
      obtain ⟨id, -, found⟩ := Option.bind_eq_some_iff.mp named
      have settles := perform_settle calm kept (Table.mem_of_find? found) (decides invoice named)
      refine (perform_map _ _ _).trans ?_
      rw [settles]
      rfl

end Payments

/-! ## Judging a payment -/

/-- The row that a payment makes before it has a key, or why it cannot be written. -/
def Payments.PaymentCommand.row (command : PaymentCommand) (student : Student) :
    Except Fault Payment := do
  let amount ← (Money.round command.amount).mapError .arithmetic
  Table.admit? [] ⟨0, student.id, command.invoiceId, command.paidAt.moment, amount,
    command.method, command.note⟩

namespace Store

open Payments

/-- The invoice that a payment settles, or why it cannot. -/
def invoiceFor (store : Store) (command : PaymentCommand) (student : Student) :
    Except Refusal (Option Invoice) :=
  match command.invoiceId with
  | none => .ok none
  | some id =>
    match Table.find? store.invoices id with
    | none => .error (.noInvoice id)
    | some invoice =>
      if invoice.studentId ≠ student.id then
        .error (.otherStudent invoice.id student.id invoice.studentId)
      else if !invoice.status.payable then .error (.notPayable invoice.id invoice.status)
      else .ok (some invoice)

/-- What becomes of a payment: the row that is written but for its key, or the refusal. -/
def judge (store : Store) (command : PaymentCommand) : Except Refusal Payment := do
  (Table.requireWords [command.studentId]).mapError .recordingFailed
  match Table.find? store.students command.studentId with
  | none => .error (.noStudent command.studentId)
  | some student => do
    (Table.requireWords command.invoiceId.toList).mapError .recordingFailed
    let _ ← store.invoiceFor command student
    (command.row student).mapError .recordingFailed

theorem invoiceFor_eq_ok {store : Store} {command : PaymentCommand} {student : Student}
    {invoice : Option Invoice} (found : store.invoiceFor command student = .ok invoice) :
    invoice = command.invoiceId.bind (Table.find? store.invoices) ∧
      invoice.map Invoice.id = command.invoiceId := by
  unfold invoiceFor at found
  cases link : command.invoiceId with
  | none =>
      rw [link] at found
      cases found
      exact ⟨rfl, rfl⟩
  | some id =>
      rw [link] at found
      dsimp only at found
      cases there : Table.find? store.invoices id with
      | none =>
          rw [there] at found
          cases found
      | some other =>
          rw [there] at found
          dsimp only at found
          split at found
          · cases found
          split at found
          · cases found
          · cases found
            exact ⟨there.symm, congrArg some (Table.key_of_find? there)⟩

/-- What a payment that is judged to be accepted has passed. -/
theorem judge_eq_ok {store : Store} {command : PaymentCommand} {row : Payment}
    (accepted : store.judge command = .ok row) :
    ∃ student invoice, Table.requireWords [command.studentId] = .ok () ∧
      Table.find? store.students command.studentId = some student ∧
      Table.requireWords command.invoiceId.toList = .ok () ∧
      store.invoiceFor command student = .ok invoice ∧ command.row student = .ok row := by
  obtain ⟨⟨⟩, words, rest⟩ := bind_eq_ok_iff.mp accepted
  cases found : Table.find? store.students command.studentId with
  | none =>
      rw [found] at rest
      cases rest
  | some student =>
      rw [found] at rest
      obtain ⟨⟨⟩, fitsLink, rest⟩ := bind_eq_ok_iff.mp rest
      obtain ⟨invoice, toSettle, admitted⟩ := bind_eq_ok_iff.mp rest
      exact ⟨student, invoice, mapError_eq_ok_iff.mp words, rfl, mapError_eq_ok_iff.mp fitsLink,
        toSettle, mapError_eq_ok_iff.mp admitted⟩

/-- The store with a payment more, under the next key. -/
def withPayment (store : Store) (payment : Payment) : Store :=
  { store with
    payments := store.payments ++ [{ payment with id := Table.nextKey store.payments }] }

/-- A payment under the next key passes the check beside others as it does alone. -/
theorem check_payment {payments : List Payment} (fits : Word.fits (Table.nextKey payments))
    {alone : Payment} (fresh : alone.id = 0) :
    Table.check payments { alone with id := Table.nextKey payments } =
      (Table.check [] alone).map fun kept => { kept with id := Table.nextKey payments } := by
  let keyed : Payment := { alone with id := Table.nextKey payments }
  have key : Row.key keyed = Table.nextKey payments := rfl
  have unused : payments.any (Row.key · == Row.key keyed) = false := by
    rw [List.any_eq_false]
    intro other among same
    have below := Table.key_lt_nextKey among
    rw [beq_iff_eq.mp same] at below
    exact absurd below (Int.lt_irrefl _)
  have words : Table.requireWords (Row.key keyed :: Row.words keyed) =
      Table.requireWords (Row.key alone :: Row.words alone) := by
    have zero : Row.key alone = 0 := fresh
    have zeroFits : Word.fits 0 = true := by decide
    have same : Row.words keyed = Row.words alone := rfl
    simp only [Table.requireWords, List.all_cons, key, zero, fits, zeroFits, same]
  have rules : Table.violation? payments keyed = Table.violation? [] alone := by
    unfold Table.violation?
    rw [unused]
    rfl
  unfold Table.check
  rw [words, rules]
  cases Table.requireWords (Row.key alone :: Row.words alone) with
  | error fault => rfl
  | ok passed => cases Table.violation? [] alone <;> rfl

/-- A new payment is admitted beside others as it is alone, as long as the next key fits. -/
theorem insert_payment {payments : List Payment} (fits : Word.fits (Table.nextKey payments))
    {payment : Payment} (fresh : payment.id = 0) :
    Table.insert payments payment = (Table.admit? [] payment).map fun kept =>
      ({ kept with id := Table.nextKey payments },
        payments ++ [{ kept with id := Table.nextKey payments }]) := by
  have keeps : Row.keep (Row.withKey payment (Table.nextKey payments)) =
      (Row.keep payment).map fun kept => { kept with id := Table.nextKey payments } := by
    show (keepAmount _ _ >>= _) = (keepAmount _ _ >>= _).map _
    cases keepAmount "payments.amount" payment.amount <;> rfl
  unfold Table.insert Table.admit?
  rw [keeps]
  cases keeping : Row.keep payment with
  | error fault => rfl
  | ok alone =>
      have unkeyed : alone.id = 0 := (Table.LawfulRow.key_keep keeping).trans fresh
      have checked := check_payment fits unkeyed
      show (Table.check payments { alone with id := Table.nextKey payments } >>= _) =
        (Table.check [] alone).map _
      rw [checked]
      cases Table.check [] alone <;> rfl

/-- The store without the payment with a key. -/
def withoutPayment (store : Store) (id : Int) : Store :=
  { store with payments := Table.erase store.payments id }

/-- The row of a payment is that of its command but for the form of its
amount, and it has no key. -/
theorem row_of_judge {store : Store} {command : PaymentCommand} {row : Payment}
    (accepted : store.judge command = .ok row) :
    row.id = 0 ∧ row.invoiceId = command.invoiceId := by
  obtain ⟨student, -, -, -, -, -, admitted⟩ := judge_eq_ok accepted
  obtain ⟨rounded, -, admits⟩ := bind_eq_ok_iff.mp admitted
  obtain ⟨kept, keeps, passed⟩ := bind_eq_ok_iff.mp admits
  obtain ⟨amount, rfl⟩ := keep_payment_eq_ok keeps
  obtain ⟨rfl, -⟩ := Table.check_eq_ok_iff.mp passed
  exact ⟨rfl, rfl⟩

/-- A payment that is judged to be accepted is one more that obeys the rules. -/
theorem wellKept_withPayment {store : Store} {command : PaymentCommand} {row : Payment}
    (kept : Table.WellKept store.payments) (fits : Word.fits (Table.nextKey store.payments))
    (accepted : store.judge command = .ok row) :
    Table.WellKept (store.withPayment row).payments := by
  obtain ⟨student, -, -, -, -, -, admitted⟩ := judge_eq_ok accepted
  obtain ⟨rounded, -, admits⟩ := bind_eq_ok_iff.mp admitted
  have inserted : Table.insert store.payments ⟨0, student.id, command.invoiceId,
      command.paidAt.moment, rounded, command.method, command.note⟩ = _ := insert_payment fits rfl
  rw [admits] at inserted
  exact kept.insert inserted

end Store

namespace Payments

variable {world : World} {command : PaymentCommand} {student : Student}

theorem perform_invoiceToSettle (calm : world.Calm)
    (fits : Table.requireWords command.invoiceId.toList = .ok ()) :
    (invoiceToSettle command student).perform world =
      (.ok ((world.pending.invoiceFor command student).map (Option.map Row.shown)), world) := by
  unfold invoiceToSettle Store.invoiceFor
  cases link : command.invoiceId with
  | none => rfl
  | some id =>
      rw [link] at fits
      dsimp only
      rw [perform_bind, perform_findInvoice calm fits]
      dsimp only
      cases Table.find? world.pending.invoices id with
      | none => rfl
      | some invoice =>
          have owner : (Row.shown invoice).studentId = invoice.studentId := rfl
          have status : (Row.shown invoice).status = invoice.status := rfl
          simp only [Option.map_some, owner, status]
          split
          · rfl
          split
          · rfl
          · rfl

theorem perform_invoiceToSettle_of_unfit (calm : world.Calm) {fault : Fault}
    (unfit : Table.requireWords command.invoiceId.toList = .error fault) :
    (invoiceToSettle command student).perform world = (.error fault, world) := by
  unfold invoiceToSettle
  cases link : command.invoiceId with
  | none =>
      rw [link] at unfit
      cases unfit
  | some id =>
      rw [link] at unfit
      have broken : (Access.findInvoice id).perform world = (.error fault, world) :=
        perform_access_of_unfit calm unfit
      dsimp only
      rw [perform_bind, broken]

/-- Once its student is found, a payment is recorded as looking for its
invoice and writing it end. -/
theorem perform_recordPayment_of_found (calm : world.Calm) (settled : world.Settled)
    (fits : Table.requireWords [command.studentId] = .ok ())
    (found : Table.find? world.store.students command.studentId = some student) :
    (recordPayment command).perform world =
      match (invoiceToSettle command student).perform world with
      | (.error fault, after) => (.ok (.error (.recordingFailed fault)), after.begin)
      | (.ok (.error refusal), after) => (.ok (.error refusal), after.begin)
      | (.ok (.ok invoice), after) =>
        match (writePayment command student invoice).perform after with
        | (.error fault, last) => (.ok (.error (.recordingFailed fault)), last.begin)
        | (.ok receipt, last) => (.ok (.ok receipt), last) := by
  have pending : world.pending = world.store := settled
  unfold recordPayment
  rw [perform_recover, perform_bind, perform_findStudent calm fits, pending, found]
  dsimp only
  rw [perform_bind]
  rcases (invoiceToSettle command student).perform world with ⟨fault | refusal | invoice, after⟩
  · rfl
  · rfl
  · dsimp only
    rw [perform_bind]
    rcases (writePayment command student invoice).perform after with ⟨fault | receipt, last⟩
    · rfl
    · rfl

/-- Adding a payment writes it under the next key if it is admitted. -/
theorem perform_addPayment (calm : world.Calm)
    (fits : Word.fits (Table.nextKey world.pending.payments)) {payment : Payment}
    (fresh : payment.id = 0) :
    (Access.addPayment payment).perform world =
      match Table.admit? [] payment with
      | .error fault => (.error fault, world)
      | .ok row =>
        (.ok (Row.shown { row with id := Table.nextKey world.pending.payments }),
          { world with pending := world.pending.withPayment row }) := by
  refine (perform_access calm rfl).trans ?_
  rw [perform_bind, perform_look]
  dsimp only
  rw [perform_bind, perform_lift, Store.insert_payment fits fresh]
  cases Table.admit? [] payment <;> rfl

theorem map_id_shown (invoice : Option Invoice) :
    (invoice.map Row.shown).map Invoice.id = invoice.map Invoice.id := by
  cases invoice <;> rfl

/-- A payment whose row is not admitted is not written. -/
theorem perform_writePayment_of_unfit (calm : world.Calm)
    (fits : Word.fits (Table.nextKey world.pending.payments)) {invoice : Option Invoice}
    (link : invoice.map Invoice.id = command.invoiceId) {fault : Fault}
    (unfit : command.row student = .error fault) :
    (writePayment command student (invoice.map Row.shown)).perform world =
      (.error fault, world) := by
  have shownLink : (invoice.map Row.shown).map Invoice.id = command.invoiceId :=
    (map_id_shown invoice).trans link
  unfold writePayment arithmetic
  rw [perform_bind, perform_lift]
  unfold PaymentCommand.row at unfit
  cases rounded : (Money.round command.amount).mapError Fault.arithmetic with
  | error broken =>
      rw [rounded] at unfit
      cases unfit
      rfl
  | ok amount =>
      rw [rounded] at unfit
      dsimp only
      rw [shownLink, perform_bind, perform_addPayment calm fits rfl]
      have admitted : Table.admit? [] _ = .error fault := unfit
      rw [admitted]

/-- A payment whose row is admitted is written, its invoice is settled, and both are committed. -/
theorem perform_writePayment (calm : world.Calm) (kept : Table.WellKept world.pending.invoices)
    (fits : Word.fits (Table.nextKey world.pending.payments)) {invoice : Option Invoice}
    (named : invoice = command.invoiceId.bind (Table.find? world.pending.invoices))
    (link : invoice.map Invoice.id = command.invoiceId) {row : Payment} {covered : Bool}
    (admitted : command.row student = .ok row)
    (decides : (world.pending.withPayment row).Decides command.invoiceId covered) :
    (writePayment command student (invoice.map Row.shown)).perform world =
      (.ok ⟨Row.shown { row with id := Table.nextKey world.pending.payments },
        invoice.map fun invoice => (invoice.settledAs world.now covered).status⟩,
        { world with
          store := (world.pending.withPayment row).settledOn command.invoiceId world.now covered
          pending :=
            (world.pending.withPayment row).settledOn command.invoiceId world.now covered }) := by
  have shownLink : (invoice.map Row.shown).map Invoice.id = command.invoiceId :=
    (map_id_shown invoice).trans link
  obtain ⟨amount, rounded, admits⟩ := bind_eq_ok_iff.mp admitted
  let written : World := { world with pending := world.pending.withPayment row }
  have calmWritten : written.Calm := ⟨calm.tables, calm.quiet⟩
  have settles : ((invoice.map Row.shown).mapM settle).perform written = _ :=
    named ▸ perform_settle_link calmWritten kept decides
  unfold writePayment arithmetic
  rw [perform_bind, perform_lift, rounded]
  dsimp only
  rw [shownLink, perform_bind, perform_addPayment calm fits rfl, admits]
  dsimp only
  rw [perform_bind, settles]
  dsimp only
  have calmSettled : ({ written with pending :=
      (world.pending.withPayment row).settledOn command.invoiceId world.now covered } :
        World).Calm :=
    ⟨calm.tables, calm.quiet⟩
  rw [perform_bind, perform_commit calmSettled]
  rw [named]
  dsimp only
  cases command.invoiceId.bind (Table.find? world.pending.invoices) <;> rfl

/-- A payment that is refused once its student is found leaves everything as it is. -/
theorem perform_recordPayment_of_student (calm : world.Calm) (settled : world.Settled)
    (fits : Word.fits (Table.nextKey world.store.payments))
    (words : Table.requireWords [command.studentId] = .ok ())
    (found : Table.find? world.store.students command.studentId = some student)
    {refusal : Refusal}
    (refused : (do
      (Table.requireWords command.invoiceId.toList).mapError .recordingFailed
      let _ ← world.store.invoiceFor command student
      (command.row student).mapError .recordingFailed : Except Refusal Payment) =
        .error refusal) :
    (recordPayment command).perform world = (.ok (.error refusal), world) := by
  have own : world.begin = world := World.begin_of_settled settled
  have pending : world.pending = world.store := settled
  rw [perform_recordPayment_of_found calm settled words found]
  cases fitsLink : Table.requireWords command.invoiceId.toList with
  | error fault =>
      rw [fitsLink] at refused
      cases refused
      rw [perform_invoiceToSettle_of_unfit calm fitsLink]
      exact congrArg (Prod.mk _) own
  | ok passed =>
      rw [fitsLink] at refused
      rw [perform_invoiceToSettle calm fitsLink, pending]
      cases toSettle : world.store.invoiceFor command student with
      | error reason =>
          rw [toSettle] at refused
          cases refused
          exact congrArg (Prod.mk _) own
      | ok invoice =>
          rw [toSettle] at refused
          cases admitted : command.row student with
          | ok row =>
              rw [admitted] at refused
              cases refused
          | error fault =>
              rw [admitted] at refused
              cases refused
              have unwritten := perform_writePayment_of_unfit calm (pending ▸ fits)
                (Store.invoiceFor_eq_ok toSettle).2 admitted
              dsimp only [Except.map]
              rw [unwritten]
              exact congrArg (Prod.mk _) own

/-- A payment that is judged to be refused leaves everything as it is. -/
theorem perform_recordPayment_of_refused (calm : world.Calm) (settled : world.Settled)
    (fits : Word.fits (Table.nextKey world.store.payments)) {refusal : Refusal}
    (refused : world.store.judge command = .error refusal) :
    (recordPayment command).perform world = (.ok (.error refusal), world) := by
  have own : world.begin = world := World.begin_of_settled settled
  have pending : world.pending = world.store := settled
  unfold Store.judge at refused
  cases words : Table.requireWords [command.studentId] with
  | error fault =>
      rw [words] at refused
      cases refused
      have broken : (Access.findStudent command.studentId).perform world =
          (.error fault, world) :=
        perform_access_of_unfit calm words
      unfold recordPayment
      rw [perform_recover, perform_bind, broken]
      exact congrArg (Prod.mk _) own
  | ok passed =>
      rw [words] at refused
      cases found : Table.find? world.store.students command.studentId with
      | none =>
          rw [found] at refused
          cases refused
          unfold recordPayment
          rw [perform_recover, perform_bind, perform_findStudent calm words, pending, found]
          exact congrArg (Prod.mk _) own
      | some student =>
          rw [found] at refused
          exact perform_recordPayment_of_student calm settled fits words found refused

/-- A payment that is judged to be accepted is written, its invoice is settled, and both are
committed. -/
theorem perform_recordPayment_of_accepted (calm : world.Calm) (settled : world.Settled)
    (kept : Table.WellKept world.store.invoices)
    (fits : Word.fits (Table.nextKey world.store.payments)) {row : Payment} {covered : Bool}
    (accepted : world.store.judge command = .ok row)
    (decides : (world.store.withPayment row).Decides command.invoiceId covered) :
    (recordPayment command).perform world =
      (.ok (.ok ⟨Row.shown { row with id := Table.nextKey world.store.payments },
        (command.invoiceId.bind (Table.find? world.store.invoices)).map fun invoice =>
          (invoice.settledAs world.now covered).status⟩),
        { world with
          store := (world.store.withPayment row).settledOn command.invoiceId world.now covered
          pending :=
            (world.store.withPayment row).settledOn command.invoiceId world.now covered }) := by
  have pending : world.pending = world.store := settled
  obtain ⟨student, invoice, words, found, fitsLink, toSettle, admitted⟩ :=
    Store.judge_eq_ok accepted
  obtain ⟨rfl, link⟩ := Store.invoiceFor_eq_ok toSettle
  rw [← pending] at kept fits decides link toSettle
  have written := perform_writePayment calm kept fits rfl link admitted decides
  rw [perform_recordPayment_of_found calm settled words found,
    perform_invoiceToSettle calm fitsLink, toSettle]
  dsimp only [Except.map]
  rw [written, pending]

theorem perform_removePayment (calm : world.Calm) (id : Int) :
    (Access.removePayment id).perform world =
      (.ok (), { world with pending := { world.pending with
        payments := Table.erase world.pending.payments id } }) := by
  refine (perform_bind _ _ _).trans ?_
  rw [perform_call_of_calm calm]
  rfl

/-- What is left of deleting a payment once its invoice was looked up. -/
theorem perform_removal (calm : world.Calm) (settled : world.Settled)
    (kept : Table.WellKept world.store.invoices) {id : Int} {link : Option Int} {covered : Bool}
    (decides : (world.store.withoutPayment id).Decides link covered) :
    (do
      Access.removePayment id
      let _ ← ((link.bind (Table.find? world.store.invoices)).map Row.shown).mapM settle
      commit
      return .ok () : Tx (Except Refusal Unit)).perform world =
      (.ok (.ok ()),
        { world with
          store := (world.store.withoutPayment id).settledOn link world.now covered
          pending := (world.store.withoutPayment id).settledOn link world.now covered }) := by
  have pending : world.pending = world.store := settled
  let removed : World := { world with pending := world.store.withoutPayment id }
  have removes : (Access.removePayment id).perform world = (.ok (), removed) := by
    rw [perform_removePayment calm, pending]
    rfl
  have calmRemoved : removed.Calm := ⟨calm.tables, calm.quiet⟩
  have settles :
      (((link.bind (Table.find? world.store.invoices)).map Row.shown).mapM settle).perform
        removed = _ := perform_settle_link calmRemoved kept decides
  have calmSettled : ({ removed with
      pending := removed.pending.settledOn link removed.now covered } : World).Calm :=
    ⟨calm.tables, calm.quiet⟩
  rw [perform_bind, removes]
  dsimp only
  rw [perform_bind, settles]
  dsimp only
  rw [perform_bind, perform_commit calmSettled]
  rfl

/-- Deleting a payment that is there removes it, settles its invoice, and commits both. -/
theorem perform_deletePayment (calm : world.Calm) (settled : world.Settled)
    (kept : Table.WellKept world.store.invoices)
    (keptPayments : Table.WellKept world.store.payments) {payment : Payment}
    (mem : payment ∈ world.store.payments) {covered : Bool}
    (decides : (world.store.withoutPayment payment.id).Decides payment.invoiceId covered) :
    (deletePayment payment.id).perform world =
      (.ok (.ok ()),
        { world with
          store :=
            (world.store.withoutPayment payment.id).settledOn payment.invoiceId world.now covered
          pending :=
            (world.store.withoutPayment payment.id).settledOn payment.invoiceId world.now
              covered }) := by
  have pending : world.pending = world.store := settled
  have words := keptPayments.words payment mem
  have fits : Table.requireWords [payment.id] = .ok () :=
    requireWords_single (words _ List.mem_cons_self)
  have found : Table.find? world.pending.payments payment.id = some payment := by
    rw [pending]
    exact keptPayments.ordered.find?_eq_some_iff.mpr ⟨mem, rfl⟩
  have removal := perform_removal calm settled kept decides
  have link : (Row.shown payment).invoiceId = payment.invoiceId := rfl
  have key : (Row.shown payment).id = payment.id := rfl
  unfold deletePayment
  rw [perform_recover, perform_bind, perform_findPayment calm fits, found]
  dsimp only [Option.map_some]
  rw [link, key]
  cases named : payment.invoiceId with
  | none =>
      rw [named] at removal
      dsimp only
      rw [perform_bind, perform_pure]
      dsimp only [Option.bind_none, Option.map_none] at removal ⊢
      rw [removal]
  | some invoiceId =>
      have listed : invoiceId ∈ Row.key payment :: Row.words payment :=
        List.mem_cons_of_mem _ (List.mem_cons_of_mem _ (by simp [named]))
      have fitsLink := requireWords_single (words invoiceId listed)
      rw [named] at removal
      dsimp only
      rw [perform_bind, perform_findInvoice calm fitsLink, pending]
      dsimp only [Option.bind_some] at removal ⊢
      rw [removal]

end Payments
end Tuition
