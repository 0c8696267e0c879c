/-
# When payments were made

A payment is given with the time on a clock, which may say how far it is ahead of universal time.
What is kept is the reading of the clock alone. So it is the instant in universal time only if the
clock is not ahead of it, and the payments of a student are listed by the readings: those from
clocks that are equally far ahead stand in the order of their instants, and no payment comes
before one that was made two days later, but nearer ones may be the wrong way round.
-/

import Tuition.Proofs.FiniteAmounts
import Tuition.Proofs.GaplessNumbers
import Tuition.Proofs.UndonePayments

namespace Tuition

open Tx

/-! ## Instants -/

namespace Stamp

/-- How many microseconds the clock is ahead of universal time; one that does
not say shows that time. -/
def ahead (stamp : Stamp) : Int :=
  (stamp.offset.map ClockOffset.microseconds).getD 0

/-- The instant, in microseconds of universal time. -/
def instant (stamp : Stamp) : Int :=
  stamp.moment.toMicroseconds - stamp.ahead

/-- A reading taken for universal time is the instant exactly where the clock shows that time. -/
theorem instant_reading_iff (stamp : Stamp) :
    (⟨stamp.moment, none⟩ : Stamp).instant = stamp.instant ↔ stamp.ahead = 0 := by
  have reading : (⟨stamp.moment, none⟩ : Stamp).instant = stamp.moment.toMicroseconds :=
    Int.sub_zero _
  rw [reading, instant]
  omega

theorem ahead_bounds (stamp : Stamp) :
    -Calendar.microsecondsPerDay < stamp.ahead ∧ stamp.ahead < Calendar.microsecondsPerDay := by
  unfold ahead
  cases stamp.offset with
  | none => decide
  | some offset => exact offset.valid

end Stamp

/-! ## What a run is given -/

/-- The payment that a use case asks for at a moment, if it asks for one. -/
def UseCase.payment? (now : Moment) : UseCase → Option Payments.PaymentCommand
  | .recordPayment command => some command
  | .quickCash studentId amount note =>
    match Request.paymentCommand (Payments.cashEntries now.date studentId amount note) with
    | .accepted command => some command
    | _ => none
  | _ => none

namespace World

/-- The key of the payment that an event records, and the time that was given for it. -/
def timeGiven? (world : World) : Event → Option (Int × Stamp)
  | .used useCase => (useCase.payment? world.now).bind fun command =>
    match ((session (Payments.recordPayment command)).perform world).1 with
    | .ok (.ok receipt) => some (receipt.payment.id, command.paidAt)
    | _ => none
  | _ => none

/-- The times that were given for the payments of a run, under their keys, the last one first. -/
def timesGiven (world : World) : List Event → List (Int × Stamp)
  | [] => []
  | event :: events => (world.happen event).timesGiven events ++ (world.timeGiven? event).toList

end World

namespace Payments

variable {now : Moment} {before after : Store} {command : PaymentCommand} {kept : Payment}

/-- The payment of a command is written at the end of the table, its amount rounded. -/
theorem Records.inserted (records : Records now before command kept after) :
    ∃ amount, Money.round command.amount = .ok amount ∧
      Table.insert before.payments (command.asked amount) = .ok (kept, after.payments) := by
  cases records with
  | loose unlinked rounded written => exact ⟨_, rounded, written⟩
  | linked link found owner payable rounded written settles =>
      rw [settles.only_invoices]
      exact ⟨_, rounded, written⟩

/-- What is kept of a command is the reading of its clock and a finite
amount, under the next key. -/
theorem Records.kept_eq (records : Records now before command kept after) :
    after.payments = before.payments ++ [kept] ∧ kept.id = Table.nextKey before.payments ∧
      kept.studentId = command.studentId ∧ kept.paidAt = command.paidAt.moment ∧
      (Row.shown kept).amount.isFinite = true := by
  obtain ⟨amount, rounded, written⟩ := records.inserted
  obtain ⟨placed, keeps, key, -⟩ := Table.insert_eq_ok written
  obtain ⟨stored, amountKept, same⟩ := bind_eq_ok_iff.mp keeps
  cases same
  refine ⟨placed, key, rfl, rfl, ?_⟩
  have number := Decimal.isNumber_of_keepAmount amountKept
  obtain ⟨cents, exact, bound⟩ := Decimal.isCents_of_quantize rounded number
  obtain ⟨found, keep, there⟩ := bind_eq_ok_iff.mp amountKept
  cases found with
  | none => cases there
  | some found =>
      cases there
      exact Amount.isFinite_of_keep exact bound keep

end Payments

/-! ## What an event does to the payments -/

/-- Deeds that record nothing leave no payment that was not there. -/
theorem History.mem_payments {now : Moment} {before after : Store} {deeds : List Deed}
    (history : History now before deeds after)
    (quiet : ∀ invoiceId, Deed.paymentRecorded invoiceId ∉ deeds) {payment : Payment}
    (mem : payment ∈ after.payments) : payment ∈ before.payments := by
  induction history with
  | nil => exact mem
  | cons step rest ih =>
      have kept := ih (fun invoiceId among => quiet invoiceId (List.mem_cons_of_mem _ among)) mem
      cases step with
      | cashRecorded => exact absurd List.mem_cons_self (quiet _)
      | paymentRecorded => exact absurd List.mem_cons_self (quiet _)
      | looseDeleted => exact (Table.mem_erase_iff.mp kept).1
      | paymentDeleted found linked settles =>
          rw [settles.only_invoices] at kept
          exact (Table.mem_erase_iff.mp kept).1
      | _ => exact kept

namespace UseCase

variable {useCase : UseCase} {command : Payments.PaymentCommand} {world : World}

theorem perform_answer_snd {α : Type} (operation : Tx (Except Refusal α)) (world : World) :
    ((session (answer operation)).perform world).2 = ((session operation).perform world).2 := by
  rw [perform_session, perform_session, answer, perform_map]
  rcases operation.perform world.begin with ⟨_ | _, _⟩ <;> rfl

/-- A use case that asks for a payment does what recording it does. -/
theorem perform_of_payment (asks : useCase.payment? world.now = some command) :
    (useCase.perform world).2 = ((session (Payments.recordPayment command)).perform world).2 := by
  cases useCase with
  | recordPayment other =>
      cases asks
      exact perform_answer_snd _ world
  | quickCash studentId amount note =>
      refine (perform_answer_snd _ world).trans ?_
      have same : (Payments.quickCash studentId amount note).perform world.begin =
          (Payments.recordPayment command).perform world.begin := by
        have moment : now.perform world.begin = (.ok world.now, world.begin) := rfl
        simp only [payment?] at asks
        split at asks
        · next accepted =>
            cases asks
            unfold Payments.quickCash
            rw [perform_bind, moment]
            dsimp only
            rw [accepted]
        · cases asks
      rw [perform_session, perform_session, same]
  | _ => cases asks

/-- Cash that does not fit its form leaves everything as it is. -/
theorem store_of_unfit_cash {studentId amount note : Entry}
    (asks : (quickCash studentId amount note).payment? world.now = none) :
    ((quickCash studentId amount note).perform world).2.store = world.store := by
  have ends : (Payments.quickCash studentId amount note).Ends world.begin
      (fun _ after => after = world.begin) fun _ after => after = world.begin := by
    apply ends_bind
    apply ends_now
    have now : world.begin.now = world.now := rfl
    simp only [payment?] at asks
    rw [now]
    dsimp only
    split at asks
    · cases asks
    · next unfit =>
        cases checked : Request.paymentCommand
            (Payments.cashEntries world.now.date studentId amount note) with
        | broken fault => exact ends_throw rfl
        | refused complaints => exact ends_pure rfl
        | accepted command => exact absurd checked (unfit command)
  have left := ends.after
  show ((session (answer (Payments.quickCash studentId amount note))).perform world).2.store = _
  rw [perform_answer_snd, perform_session]
  show World.store (Prod.snd _) = _
  rw [left]
  rfl

/-- A use case that asks for no payment leaves no payment that was not there. -/
theorem mem_payments_of_no_payment (asks : useCase.payment? world.now = none) {payment : Payment}
    (mem : payment ∈ (useCase.perform world).2.store.payments) :
    payment ∈ world.store.payments := by
  obtain ⟨prepared, ⟨done, fewer, moves⟩, issued, fewerIssued, issues⟩ :=
    useCase.takes_perform world
  have quiet (none : ∀ invoiceId, Deed.paymentRecorded invoiceId ∉
      useCase.preparations world.begin) : payment ∈ world.store.payments := by
    refine (moves.trans issues).history.mem_payments (fun invoiceId among => ?_) mem
    rcases List.mem_append.mp among with prepares | issued
    · exact none invoiceId (fewer.subset prepares)
    · obtain ⟨id, -, same⟩ := List.mem_map.mp (fewerIssued.subset issued)
      cases same
  cases useCase with
  | recordPayment => cases asks
  | quickCash studentId amount note => rwa [store_of_unfit_cash asks] at mem
  | _ => exact quiet (by simp [preparations])

end UseCase

namespace World

variable {world : World} {event : Event}

/-- An event that records no payment leaves no payment that was not there. -/
theorem mem_payments_of_no_time (untimed : world.timeGiven? event = none) {payment : Payment}
    (mem : payment ∈ (world.happen event).store.payments) : payment ∈ world.store.payments := by
  cases event with
  | used useCase =>
      rcases asks : useCase.payment? world.now with _ | command
      · exact UseCase.mem_payments_of_no_payment asks mem
      · have performed : world.happen (.used useCase) =
            ((session (Payments.recordPayment command)).perform world).2 :=
          UseCase.perform_of_payment asks
        obtain ⟨result, after, found, recorded⟩ :=
          Payments.exists_recordedOrRefused world command
        simp only [timeGiven?, asks, Option.bind_some, found] at untimed
        rw [performed, found] at mem
        cases result with
        | ok receipt => cases untimed
        | error refusal =>
            have same := World.Moves.store_eq recorded
            rwa [same] at mem
  | _ => exact mem

/-- An event that records a payment writes it after the others, under the key and with the reading
of the time that were given. -/
theorem exists_kept_of_time {key : Int} {stamp : Stamp}
    (timed : world.timeGiven? event = some (key, stamp)) :
    ∃ kept : Payment, (world.happen event).store.payments = world.store.payments ++ [kept] ∧
      kept.id = key ∧ key = Table.nextKey world.store.payments ∧ kept.paidAt = stamp.moment ∧
      (Row.shown kept).amount.isFinite = true := by
  cases event with
  | used useCase =>
      obtain ⟨command, asks, recorded⟩ := Option.bind_eq_some_iff.mp timed
      have performed : world.happen (.used useCase) =
          ((session (Payments.recordPayment command)).perform world).2 :=
        UseCase.perform_of_payment asks
      rw [performed]
      rcases found : (session (Payments.recordPayment command)).perform world with
        ⟨fault | refusal | receipt, after⟩
      · simp [found] at recorded
      · simp [found] at recorded
      · rw [found] at recorded
        cases recorded
        obtain ⟨kept, shows, records, -⟩ := Payments.recorded_of_accepted found
        obtain ⟨placed, next, -, reading, finite⟩ := records.kept_eq
        have same : receipt.payment.id = kept.id := by
          rw [shows]
          rfl
        exact ⟨kept, placed, same.symm, same.trans next, reading, finite⟩
  | _ => cases timed

end World

/-! ## What a run keeps of the times -/

/-- A payment shows a finite amount, and its time is the reading of what was
given last for its key. -/
structure Payment.KeptFrom (given : List (Int × Stamp)) (payment : Payment) : Prop where
  finite : (Row.shown payment).amount.isFinite = true
  time : ∃ stamp, given.lookup payment.id = some stamp ∧ payment.paidAt = stamp.moment

namespace World

variable {world : World} {given : List (Int × Stamp)}

/-- An event keeps of a time that was given what its clock read. -/
theorem keptFrom_happen (kept : ∀ payment ∈ world.store.payments, payment.KeptFrom given)
    (event : Event) : ∀ payment ∈ (world.happen event).store.payments,
      payment.KeptFrom ((world.timeGiven? event).toList ++ given) := by
  intro payment mem
  cases timed : world.timeGiven? event with
  | none => exact kept payment (mem_payments_of_no_time timed mem)
  | some entry =>
      obtain ⟨key, stamp⟩ := entry
      obtain ⟨new, placed, own, next, reading, finite⟩ := exists_kept_of_time timed
      rw [placed] at mem
      rcases List.mem_append.mp mem with old | last
      · -- the new key is above all keys, so what was given for the old ones is found as before
        obtain ⟨finite, earlier, found, same⟩ := kept payment old
        have below : payment.id < key := next ▸ Table.key_lt_nextKey old
        have other : (payment.id == key) = false := beq_eq_false_iff_ne.mpr (by omega)
        refine ⟨finite, earlier, ?_, same⟩
        simpa [List.lookup_cons, other] using found
      · obtain rfl := List.mem_singleton.mp last
        exact ⟨finite, stamp, by simp [own], reading⟩

/-- A run keeps of the times that were given what the clocks read. -/
theorem keptFrom_run (kept : ∀ payment ∈ world.store.payments, payment.KeptFrom given)
    (events : List Event) : ∀ payment ∈ (world.run events).store.payments,
      payment.KeptFrom (world.timesGiven events ++ given) := by
  induction events generalizing world given with
  | nil => exact kept
  | cons event events ih =>
      have reached := ih (keptFrom_happen kept event)
      rwa [← List.append_assoc] at reached

theorem keptFrom_timesGiven (noPayments : world.store.payments = []) (events : List Event) :
    ∀ payment ∈ (world.run events).store.payments,
      payment.KeptFrom (world.timesGiven events) := by
  have none : ∀ payment ∈ world.store.payments, payment.KeptFrom [] := by
    rw [noPayments]
    exact List.forall_mem_nil _
  have kept := keptFrom_run none events
  rwa [List.append_nil] at kept

end World

/-! ## The list of the payments of a student -/

namespace Access

theorem newestFirst_trans (first second third : Payment) (one : newestFirst first second = true)
    (other : newestFirst second third = true) : newestFirst first third = true := by
  unfold newestFirst at *
  dsimp only at *
  split at one <;> split at other <;> split <;> simp only [decide_eq_true_eq] at * <;> omega

theorem newestFirst_total (first second : Payment) :
    (newestFirst first second || newestFirst second first) = true := by
  unfold newestFirst
  dsimp only
  rw [Bool.or_eq_true]
  split <;> split <;> simp only [decide_eq_true_eq] <;> omega

theorem reading_le_of_newestFirst {first second : Payment}
    (newest : newestFirst first second = true) :
    second.paidAt.toMicroseconds ≤ first.paidAt.toMicroseconds := by
  unfold newestFirst at newest
  dsimp only at newest
  split at newest <;> simp only [decide_eq_true_eq] at newest <;> omega

end Access

namespace Store

/-- The payments of a student as they are shown, the latest reading first. -/
def listOfPayments (store : Store) (studentId : Int) : List Payment :=
  ((store.payments.filter (·.studentId == studentId)).map Row.shown).mergeSort Access.newestFirst

theorem listOfPayments_of_sorted {store : Store} {studentId : Int}
    (sorted : ((store.payments.filter (·.studentId == studentId)).map Row.shown).Pairwise
      (Access.newestFirst · ·)) :
    store.listOfPayments studentId =
      (store.payments.filter (·.studentId == studentId)).map Row.shown :=
  List.mergeSort_of_pairwise sorted

/-- The payments of a student are listed as they are shown, by the readings of their clocks, which
are those of the times that were given. -/
structure Lists (store : Store) (given : List (Int × Stamp)) (studentId : Int)
    (shown : List Payment) : Prop where
  complete : shown.Perm ((store.payments.filter (·.studentId == studentId)).map Row.shown)
  times : ∀ payment ∈ shown, ∃ stamp, given.lookup payment.id = some stamp ∧
    payment.paidAt = stamp.moment
  byReading : shown.Pairwise fun first second =>
    second.paidAt.toMicroseconds ≤ first.paidAt.toMicroseconds
  /-- Payments by clocks that are equally far ahead stand in the order of their instants. -/
  byInstant : shown.Pairwise fun first second => ∀ one other,
    given.lookup first.id = some one → given.lookup second.id = some other →
      one.ahead = other.ahead → other.instant ≤ one.instant
  /-- No payment stands before one that was made two days later. -/
  nearly : shown.Pairwise fun first second => ∀ one other,
    given.lookup first.id = some one → given.lookup second.id = some other →
      other.instant < one.instant + 2 * Calendar.microsecondsPerDay

variable {store : Store} {given : List (Int × Stamp)}

theorem lists_listOfPayments (kept : ∀ payment ∈ store.payments, payment.KeptFrom given)
    (studentId : Int) : store.Lists given studentId (store.listOfPayments studentId) := by
  have permuted : (store.listOfPayments studentId).Perm _ := List.mergeSort_perm _ _
  have times : ∀ payment ∈ store.listOfPayments studentId, ∃ stamp,
      given.lookup payment.id = some stamp ∧ payment.paidAt = stamp.moment := by
    intro payment mem
    obtain ⟨row, among, rfl⟩ := List.mem_map.mp (permuted.subset mem)
    exact (kept row (List.mem_filter.mp among).1).time
  have sorted : (store.listOfPayments studentId).Pairwise (Access.newestFirst · ·) :=
    List.pairwise_mergeSort Access.newestFirst_trans Access.newestFirst_total _
  have readings : (store.listOfPayments studentId).Pairwise fun first second => ∀ one other,
      given.lookup first.id = some one → given.lookup second.id = some other →
        other.moment.toMicroseconds ≤ one.moment.toMicroseconds := by
    refine sorted.imp_of_mem fun memFirst memSecond newest one other atFirst atSecond => ?_
    obtain ⟨_, found, same⟩ := times _ memFirst
    obtain ⟨_, foundOther, sameOther⟩ := times _ memSecond
    cases found.symm.trans atFirst
    cases foundOther.symm.trans atSecond
    rw [← same, ← sameOther]
    exact Access.reading_le_of_newestFirst newest
  refine ⟨permuted, times, sorted.imp Access.reading_le_of_newestFirst, ?_, ?_⟩
  · refine readings.imp fun reading one other atFirst atSecond same => ?_
    have le := reading one other atFirst atSecond
    unfold Stamp.instant
    omega
  · refine readings.imp fun reading one other atFirst atSecond => ?_
    have le := reading one other atFirst atSecond
    have bounds := one.ahead_bounds
    have boundsOther := other.ahead_bounds
    unfold Stamp.instant
    omega

/-- The readings of a list are those of the payments, from the latest to the earliest. -/
theorem Lists.readings_eq {studentId : Int} {shown : List Payment} {readings : List Nat}
    (lists : store.Lists given studentId shown) (latestFirst : readings.Pairwise (· ≥ ·))
    (same : ((store.payments.filter (·.studentId == studentId)).map
      (·.paidAt.toMicroseconds)).Perm readings) :
    shown.map (·.paidAt.toMicroseconds) = readings := by
  have kept : (·.paidAt.toMicroseconds) ∘ Row.shown = fun payment : Payment =>
      payment.paidAt.toMicroseconds := rfl
  have complete := lists.complete.map (·.paidAt.toMicroseconds)
  rw [List.map_map, kept] at complete
  have sorted : (shown.map (·.paidAt.toMicroseconds)).Pairwise (· ≥ ·) :=
    List.pairwise_map.mpr lists.byReading
  refine List.Perm.eq_of_pairwise ?_ sorted latestFirst (complete.trans same)
  intro one other _ _ below above
  exact Nat.le_antisymm above below

end Store

namespace Payments

theorem reads_forM {α : Type} (f : α → Except Fault Unit) (values : List α) :
    (values.forM fun value => lift (f value)).Reads fun _ => values.forM f := by
  induction values with
  | nil => exact reads_pure ()
  | cons value values ih => exact reads_bind (reads_lift (f value)) fun _ => ih

/-- A form is shown whose amounts are finite. -/
theorem requireFinite_of_finite (form : String) {column : String} {amount : Decimal}
    (finite : amount.isFinite = true) : requireFinite form [(column, amount)] = .ok () := by
  simp [requireFinite, finite]

theorem forM_requireFinite {form column : String} {payments : List Payment}
    (finite : ∀ payment ∈ payments, payment.amount.isFinite = true) :
    (payments.forM fun payment => requireFinite form [(column, payment.amount)]) = .ok () := by
  induction payments with
  | nil => rfl
  | cons payment payments ih =>
      obtain ⟨one, others⟩ := List.forall_mem_cons.mp finite
      exact bind_eq_ok_iff.mpr ⟨(), requireFinite_of_finite form one, ih others⟩

/-- The list of the payments of a student as it is read off the store. -/
def listIn (studentId : Int) (store : Store) : Except Fault (Except Refusal (List Payment)) := do
  Table.requireWords [studentId]
  if (Table.find? store.students studentId).isNone then return .error (.noStudent studentId)
  Table.requireWords [studentId]
  (store.listOfPayments studentId).forM fun payment =>
    requireFinite "PaymentResponseDTO" [("amount", payment.amount)]
  return .ok (store.listOfPayments studentId)

theorem reads_listPayments (studentId : Int) :
    (listPayments studentId).Reads (listIn studentId) := by
  have looked : (Access.findStudent studentId).Reads fun store =>
      Table.requireWords [studentId] >>= fun _ => .ok (Table.find? store.students studentId) :=
    reads_access
  have listed : (Access.paymentsOfStudent studentId).Reads fun store =>
      Table.requireWords [studentId] >>= fun _ => .ok (store.listOfPayments studentId) :=
    reads_access
  let view (found : Option Student) (store : Store) :
      Except Fault (Except Refusal (List Payment)) :=
    if found.isNone then .ok (.error (.noStudent studentId))
    else do
      Table.requireWords [studentId]
      (store.listOfPayments studentId).forM fun payment =>
        requireFinite "PaymentResponseDTO" [("amount", payment.amount)]
      return .ok (store.listOfPayments studentId)
  refine Reads.congr (@reads_bind _ _ _ _ _ view looked ?_) ?_
  · rintro (_ | student)
    · exact reads_pure _
    · refine (reads_bind listed fun payments =>
        reads_bind (reads_forM _ payments) fun _ => reads_pure _).congr fun store => ?_
      show _ = Table.requireWords [studentId] >>= fun _ => _
      cases Table.requireWords [studentId] <;> rfl
  · intro store
    simp only [listIn, bind_assoc]
    refine bind_congr fun _ => ?_
    cases Table.find? store.students studentId <;> rfl

/-- In a calm the payments of a student who is there are listed. -/
theorem listed_of_keptFrom {world : World} {given : List (Int × Stamp)} (calm : world.Calm)
    (kept : ∀ payment ∈ world.store.payments, payment.KeptFrom given) {student : Student}
    (mem : student ∈ world.store.students) (fits : Word.fits student.id) :
    ((session (listPayments student.id)).perform world).1 =
      .ok (.ok (world.store.listOfPayments student.id)) := by
  have there : (Table.find? world.store.students student.id).isNone = false := by
    rw [← Option.not_isSome, Bool.not_eq_false']
    exact List.find?_isSome.mpr ⟨student, mem, beq_self_eq_true _⟩
  have finite : ∀ payment ∈ world.store.listOfPayments student.id,
      payment.amount.isFinite = true := by
    intro payment listed
    obtain ⟨row, among, rfl⟩ := List.mem_map.mp ((List.mergeSort_perm _ _).subset listed)
    exact (kept row (List.mem_filter.mp among).1).finite
  rw [(reads_listPayments student.id).perform_session calm]
  simp only [listIn, requireWords_single fits, there, forM_requireFinite finite]
  rfl

end Payments

/-- What is kept of the time of a payment is the reading of its clock, which is the instant in
universal time only where the clock is not ahead of it. After a run from records without payments
the payments of a student are listed by these readings. -/
theorem payments_listed_by_clock (world : World) (noPayments : world.store.payments = [])
    (tables : world.hasTables = true) (events : List Event) :
    (∀ command receipt after,
      (session (Payments.recordPayment command)).perform (world.run events) =
        (.ok (.ok receipt), after) →
      ∃ kept ∈ after.store.payments, receipt.payment = Row.shown kept ∧
        kept.paidAt = command.paidAt.moment ∧
        ((⟨kept.paidAt, none⟩ : Stamp).instant = command.paidAt.instant ↔
          command.paidAt.ahead = 0)) ∧
    ((world.run events).outages = [] →
      ∀ student ∈ (world.run events).store.students, Word.fits student.id →
        ∃ shown,
          ((session (Payments.listPayments student.id)).perform (world.run events)).1 =
            .ok (.ok shown) ∧
          (world.run events).store.Lists (world.timesGiven events) student.id shown) := by
  constructor
  · intro command receipt after accepted
    obtain ⟨kept, shows, records, -⟩ := Payments.recorded_of_accepted accepted
    obtain ⟨placed, -, -, reading, -⟩ := records.kept_eq
    refine ⟨kept, ?_, shows, reading, ?_⟩
    · rw [placed]
      exact List.mem_append_right _ (List.mem_singleton_self kept)
    · rw [reading]
      exact command.paidAt.instant_reading_iff
  · intro quiet student mem fits
    have kept := World.keptFrom_timesGiven noPayments events
    have calm : (world.run events).Calm := ⟨(world.hasTables_run events).trans tables, quiet⟩
    exact ⟨_, Payments.listed_of_keptFrom calm kept mem fits, Store.lists_listOfPayments kept _⟩

/-- Payments on no invoice are recorded, one after another, with their
times as they are written. -/
def Event.paymentsAt (texts : List String) : List Event :=
  texts.map fun text => .used (.recordPayment { Payments.PaymentCommand.sample with
    invoiceId := none
    paidAt := (Payments.readPaidAt text).toOption.getD default })

/-- A payment at ten o'clock, by a clock that does not say more, is listed before one that was
made at eight o'clock in universal time. -/
theorem payments_listed_by_clock_of_universal_time :
    let events := Event.paymentsAt ["2024-02-05T08:00:00Z", "2024-02-05T10:00:00"]
    let world := World.calmWith .withEnrollment
    ∃ eight ten shown, world.timesGiven events = [(2, ten), (1, eight)] ∧
      ten.instant = eight.instant + 2 * 3600 * 1000000 ∧
      ((session (Payments.listPayments 1)).perform (world.run events)).1 = .ok (.ok shown) ∧
      shown.map (·.paidAt.toMicroseconds) =
        [ten.moment.toMicroseconds, eight.moment.toMicroseconds] := by
  intro events world
  let eight : Stamp := ⟨⟨⟨2024, 2, 5, by decide⟩, ⟨8, 0, 0, 0, by decide⟩⟩, some .utc⟩
  let ten : Stamp := ⟨⟨⟨2024, 2, 5, by decide⟩, ⟨10, 0, 0, 0, by decide⟩⟩, none⟩
  have there : (⟨1, "Anna", "", "", "", true⟩ : Student) ∈ (world.run events).store.students := by
    decide +kernel
  obtain ⟨-, lists⟩ := payments_listed_by_clock world rfl rfl events
  obtain ⟨shown, performed, listed⟩ := lists (by decide +kernel) _ there rfl
  have given : world.timesGiven events = [(2, ten), (1, eight)] := by decide +kernel
  have latestFirst : [ten.moment.toMicroseconds, eight.moment.toMicroseconds].Pairwise
      (· ≥ ·) := by
    decide +kernel
  have readings : ((world.run events).store.payments.filter (·.studentId == 1)).map
      (·.paidAt.toMicroseconds) = [eight.moment.toMicroseconds, ten.moment.toMicroseconds] := by
    decide +kernel
  have same := (List.Perm.of_eq readings).trans (.swap _ _ _)
  exact ⟨eight, ten, shown, given, by decide +kernel, performed,
    listed.readings_eq latestFirst same⟩

/-- A payment by a clock five hours ahead is listed before one that was made three hours later. -/
theorem earlier_payment_listed_first :
    let events := Event.paymentsAt ["2024-02-05T10:00:00+05:00", "2024-02-05T08:00:00Z"]
    let world := World.calmWith .withEnrollment
    ∃ first second shown, world.timesGiven events = [(2, second), (1, first)] ∧
      first.ahead = 5 * 3600 * 1000000 ∧ second.offset = some .utc ∧
      second.instant = first.instant + 3 * 3600 * 1000000 ∧
      (world.run events).store.payments.map (fun payment => (payment.id, payment.paidAt)) =
        [(1, first.moment), (2, second.moment)] ∧
      (⟨first.moment, none⟩ : Stamp).instant ≠ first.instant ∧
      ((session (Payments.listPayments 1)).perform (world.run events)).1 = .ok (.ok shown) ∧
      shown.map Payment.id = [1, 2] := by
  intro events world
  let first : Stamp := ⟨⟨⟨2024, 2, 5, by decide⟩, ⟨10, 0, 0, 0, by decide⟩⟩,
    some ⟨5 * 3600 * 1000000, by decide⟩⟩
  let second : Stamp := ⟨⟨⟨2024, 2, 5, by decide⟩, ⟨8, 0, 0, 0, by decide⟩⟩, some .utc⟩
  have calm : (world.run events).Calm := ⟨by decide +kernel, by decide +kernel⟩
  have kept : ∀ payment ∈ (world.run events).store.payments,
      payment.KeptFrom (world.timesGiven events) := World.keptFrom_timesGiven rfl _
  have there : (⟨1, "Anna", "", "", "", true⟩ : Student) ∈ (world.run events).store.students := by
    decide +kernel
  have sorted : (((world.run events).store.payments.filter (·.studentId == 1)).map
      Row.shown).Pairwise (Access.newestFirst · ·) := by decide +kernel
  have keys : (((world.run events).store.payments.filter (·.studentId == 1)).map
      Row.shown).map Payment.id = [1, 2] := by decide +kernel
  have listed := Payments.listed_of_keptFrom calm kept there rfl
  rw [Store.listOfPayments_of_sorted sorted] at listed
  exact ⟨first, second, _, by decide +kernel, rfl, rfl, by decide +kernel, by decide +kernel,
    by decide +kernel, listed, keys⟩

end Tuition
