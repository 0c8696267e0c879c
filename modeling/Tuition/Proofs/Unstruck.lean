/-
# Operations that nothing strikes

An outage strikes a call of its kind when its count runs out. Where no outage to come is
about to strike, the calls go through, and an operation that makes each kind of call once
does what its text says. Issuing a draft gives it the next number then, unless the
counter has no room to move on.
-/

import Tuition.Proofs.Issuing

namespace Tuition

/-- No outage of the kinds is about to strike: each lets at least one more call pass. -/
def Spared (kinds : List Call) (outages : List Outage) : Prop :=
  ∀ outage ∈ outages, outage.call ∈ kinds → outage.countdown ≠ 1

/-- A call that is spared goes through, and the calls of other kinds stay spared. -/
theorem World.count_of_spared {world : World} {kind : Call} {kinds : List Call}
    (spared : Spared (kind :: kinds) world.outages) (once : kind ∉ kinds) :
    (world.count kind).1 = none ∧ ∃ outages, (world.count kind).2 = { world with outages } ∧
      Spared kinds outages := by
  constructor
  · simp only [count, List.find?_eq_none]
    intro outage mem
    obtain ⟨old, memOld, rfl⟩ := List.mem_map.mp mem
    by_cases same : old.call = kind
    · have passes := spared old memOld (same ▸ List.mem_cons_self)
      simp only [countDown, same, if_true, beq_self_eq_true, Bool.true_and, beq_iff_eq]
      omega
    · simp [countDown, same]
  · refine ⟨_, rfl, ?_⟩
    intro outage mem own
    obtain ⟨old, memOld, rfl⟩ := List.mem_map.mp (List.mem_filter.mp mem).1
    by_cases same : old.call = kind
    · have again : kind ∈ kinds := by simpa [countDown, same] using own
      exact absurd again once
    · simp only [countDown, same, if_false] at own ⊢
      exact spared old memOld (List.mem_cons_of_mem _ own)

namespace Tx

variable {α : Type} {world : World} {good : α → World → Prop} {bad : Fault → World → Prop}

theorem ends_call_of_spared {kind : Call} {kinds : List Call} {good : Unit → World → Prop}
    (spared : Spared (kind :: kinds) world.outages) (once : kind ∉ kinds)
    (passed : ∀ outages, Spared kinds outages → good () { world with outages }) :
    (call kind).Ends world good bad := by
  obtain ⟨passes, outages, after, rest⟩ := World.count_of_spared spared once
  simp only [Ends, perform_call, passes, after]
  exact passed outages rest

/-- The demands on a table are met where the tables exist and the numbers fit. -/
theorem ends_requireTable_of_fits {table : String} {numbers : List Int}
    {good : Unit → World → Prop} (tables : world.hasTables = true)
    (fit : ∀ number ∈ numbers, Word.fits number) (passed : good () world) :
    (requireTable table numbers).Ends world good bad := by
  have after : (requireTable table numbers).perform world =
      ((do
        if !world.hasTables then throw (.noTable table)
        lift (Table.requireWords numbers)) : Tx Unit).perform world := rfl
  have fitting : Table.requireWords numbers = .ok () := if_pos (List.all_eq_true.mpr fit)
  simp only [Ends, after, tables, fitting]
  exact passed

/-- An access whose call is spared, and whose demands are met, goes on. -/
theorem ends_access_of_spared {kind : Call} {kinds : List Call} {table : String}
    {numbers : List Int} {rest : Tx α} (tables : world.hasTables = true)
    (fit : ∀ number ∈ numbers, Word.fits number)
    (spared : Spared (kind :: kinds) world.outages) (once : kind ∉ kinds)
    (reached : ∀ outages, Spared kinds outages → rest.Ends { world with outages } good bad) :
    (do
      call kind
      requireTable table numbers
      rest).Ends world good bad := by
  apply ends_bind
  apply ends_call_of_spared spared once
  intro outages others
  exact ends_bind (ends_requireTable_of_fits tables fit (reached outages others))

/-- A calculation that gives a value is no step at all. -/
theorem ends_lift_of_ok {result : Except Fault α} {value : α} (calculated : result = .ok value)
    (passed : good value world) : (lift result).Ends world good bad := by
  rw [calculated]
  exact passed

theorem ends_commit_of_spared {kinds : List Call} {good : Unit → World → Prop}
    (spared : Spared (.commit :: kinds) world.outages) (once : .commit ∉ kinds)
    (committed : ∀ outages, good () { world with store := world.pending, outages }) :
    commit.Ends world good bad := by
  apply ends_bind
  apply ends_call_of_spared spared once
  intro outages _
  exact committed outages

end Tx

namespace Billing

open Tx

variable {world : World} {invoice : Invoice} {settings : Settings}

/-- The kinds of call that numbering a draft makes. -/
def numberingCalls : List Call :=
  [.saveSettings, .saveInvoice, .commit]

/-- The kinds of call that issuing a draft makes, each once. -/
def issuingCalls : List Call :=
  [.findInvoice, .findSettings] ++ numberingCalls

/-- The store in which an invoice was issued. -/
def storeIssuing (store : Store) (invoice : Invoice) (settings : Settings) (now : Moment) :
    Store :=
  { store with
    invoices := store.invoices.map fun other =>
      if other.id = invoice.id then invoice.numberedBy settings now else other
    settings := some settings.advanced }

/-- Issuing a draft that nothing strikes ends as numbering it does. -/
theorem ends_issueInvoice_of_draft {good : Except Refusal IssuedInvoice → World → Prop}
    {bad : Fault → World → Prop} (settled : world.Settled) (tables : world.hasTables = true)
    (spared : Spared issuingCalls world.outages)
    (found : Table.find? world.store.invoices invoice.id = some invoice)
    (fits : Word.fits invoice.id) (draft : invoice.status = .draft)
    (counter : world.store.settings = some settings)
    (numbered : ∀ outages, Spared numberingCalls outages →
      (numberDraft (Row.shown invoice) settings).Ends { world with outages }
        (fun issued after => good (.ok issued) after)
        fun fault after => good (.error (.issuingFailed invoice.id fault)) after.begin) :
    (issueInvoice invoice.id).Ends world good bad := by
  have status : (Row.shown invoice).status = invoice.status := rfl
  rw [← settled] at found counter
  apply ends_recover
  apply ends_bind
  refine ends_access_of_spared tables (by simpa using fits) spared (by decide) ?_
  intro outages spared
  apply ends_look
  simp only [found, Option.map_some, status]
  rw [if_neg (not_not_intro draft)]
  apply ends_bind
  refine ends_access_of_spared tables (by simp) spared (by decide) ?_
  intro outages spared
  apply ends_look
  simp only [counter]
  exact ends_bind (numbered outages spared)

/-- A draft that fits beside the other invoices when it has its number gets it. -/
theorem ends_numberDraft_of_spared (settled : world.Settled) (tables : world.hasTables = true)
    (spared : Spared numberingCalls world.outages)
    (found : Table.find? world.store.invoices invoice.id = some invoice)
    (admitted : Store.admitSettings settings.advanced = .ok settings.advanced)
    (fits : Table.Fits (Table.erase world.store.invoices invoice.id)
      (invoice.numberedBy settings world.now)) :
    (numberDraft (Row.shown invoice) settings).Ends world
      (fun issued after =>
        issued = ⟨invoice.id,
          invoiceNumber settings.effectivePrefix invoice.period settings.nextSequence, false⟩ ∧
        after.store = storeIssuing world.store invoice settings world.now) fun _ _ => False := by
  rw [← settled] at found fits ⊢
  have sameKey : ((Row.shown invoice).numberedBy settings world.now).id = invoice.id := rfl
  have sameTotal : ((Row.shown invoice).numberedBy settings world.now).total =
      (Row.shown invoice).total := rfl
  have keeps : Access.totalToKeep world.pending.invoices
      ((Row.shown invoice).numberedBy settings world.now) = .ok invoice.total := by
    simp only [Access.totalToKeep, sameKey, found, sameTotal, Decimal.order_self,
      beq_self_eq_true, if_true]
  have written : Table.replace world.pending.invoices (invoice.numberedBy settings world.now) =
      .ok (storeIssuing world.pending invoice settings world.now).invoices :=
    Table.replace_eq_ok_iff.mpr ⟨rfl, fits⟩
  rw [numberDraft_eq]
  apply ends_bind
  refine ends_access_of_spared tables (by simp) spared (by decide) ?_
  intro outages spared
  apply ends_bind
  apply ends_lift_of_ok admitted
  apply ends_change
  apply ends_bind
  apply ends_now
  apply ends_bind
  refine ends_access_of_spared tables (by simp) spared (by decide) ?_
  intro outages spared
  apply ends_bind
  apply ends_look
  apply ends_bind
  apply ends_lift_of_ok keeps
  apply ends_bind
  apply ends_lift_of_ok written
  apply ends_change
  apply ends_bind
  apply ends_commit_of_spared spared (by decide)
  intro outages
  exact ends_pure ⟨rfl, rfl⟩

/-- Where the counter has no room to move on, numbering a draft breaks off before it writes. -/
theorem ends_numberDraft_of_full {fault : Fault} (tables : world.hasTables = true)
    (spared : Spared numberingCalls world.outages)
    (full : Store.admitSettings settings.advanced = .error fault) :
    (numberDraft (Row.shown invoice) settings).Ends world (fun _ _ => False)
      fun raised after => raised = fault ∧ after.store = world.store := by
  rw [numberDraft_eq]
  apply ends_bind
  refine ends_access_of_spared tables (by simp) spared (by decide) ?_
  intro outages spared
  apply ends_bind
  rw [full]
  exact ends_throw ⟨rfl, rfl⟩

/-- Issuing a draft that nothing strikes succeeds and gives it the next number, if it fits with
that number beside the other invoices and the counter has room to move on. -/
theorem ends_issueInvoice_of_spared (settled : world.Settled) (tables : world.hasTables = true)
    (spared : Spared issuingCalls world.outages)
    (found : Table.find? world.store.invoices invoice.id = some invoice)
    (draft : invoice.status = .draft) (counter : world.store.settings = some settings)
    (admitted : Store.admitSettings settings.advanced = .ok settings.advanced)
    (fits : Table.Fits (Table.erase world.store.invoices invoice.id)
      (invoice.numberedBy settings world.now)) :
    (issueInvoice invoice.id).Ends world
      (fun result after =>
        result = .ok ⟨invoice.id,
          invoiceNumber settings.effectivePrefix invoice.period settings.nextSequence, false⟩ ∧
        after.store = storeIssuing world.store invoice settings world.now) fun _ _ => False := by
  have fitsKey : Word.fits invoice.id := fits.words _ List.mem_cons_self
  apply ends_issueInvoice_of_draft settled tables spared found fitsKey draft counter
  intro outages spared
  have stillSettled : ({ world with outages } : World).Settled := settled
  refine (ends_numberDraft_of_spared stillSettled tables spared found admitted fits).faultless ?_
  rintro _ after ⟨rfl, stored⟩
  exact ⟨rfl, stored⟩

/-- Where the counter has no room to move on, issuing refuses and leaves the store. -/
theorem ends_issueInvoice_of_full {fault : Fault} (settled : world.Settled)
    (tables : world.hasTables = true) (spared : Spared issuingCalls world.outages)
    (found : Table.find? world.store.invoices invoice.id = some invoice)
    (fits : Word.fits invoice.id) (draft : invoice.status = .draft)
    (counter : world.store.settings = some settings)
    (full : Store.admitSettings settings.advanced = .error fault) :
    (issueInvoice invoice.id).Ends world
      (fun result after =>
        result = .error (.issuingFailed invoice.id fault) ∧ after.store = world.store)
      fun _ _ => False := by
  apply ends_issueInvoice_of_draft settled tables spared found fits draft counter
  intro outages spared
  have broken : (numberDraft (Row.shown invoice) settings).Ends { world with outages }
      (fun _ _ => False) fun raised after => raised = fault ∧ after.store = world.store :=
    ends_numberDraft_of_full tables spared full
  refine broken.mono (fun _ _ never => never.elim) ?_
  rintro _ after ⟨rfl, same⟩
  exact ⟨rfl, same⟩

end Billing
end Tuition
