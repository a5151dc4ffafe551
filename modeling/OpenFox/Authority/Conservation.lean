/-
Payment accounting conserves value. Accounting entries are keyed by the digest of their own body, so
that equal bodies are one entry; along every run the payments applied to an obligation instance keep
distinct bodies, their amounts add up to what is no longer outstanding, and one of them is classified
as settled exactly while the instance is paid.
-/
import OpenFox.Authority.ActionsOnce

namespace OpenFox.Authority

open OpenFox.Go OpenFox.Commerce OpenFox.Base

variable {P : Protocol} {h : Host} {d d' : AuthorityDocument} {c : Call}

def atomicValue (amount : AgreementAmount) : ℕ := ((parseBigInt amount.amountAtomic).getD 0).toNat

/-- What the result needs of the libraries. `ApplyPayment` subtracts the paid amount, rejects evidence
that was applied before and reports an instance paid when nothing is outstanding; a new state owes the
whole amount, and a resolved one keeps its amounts and is paid exactly if it was. A valid obligation's
action is determined by its instance, and digests of accounting bodies are injective. -/
structure PaymentLaws (P : Protocol) : Prop where
  subtracts : ∀ {state obligation evidence amount now state'},
    P.applyPayment state obligation evidence amount now = .ok state' →
    atomicValue state'.outstandingAmount + atomicValue amount = atomicValue state.outstandingAmount
  rejects : ∀ {state obligation evidence amount now state'},
    P.applyPayment state obligation evidence amount now = .ok state' → evidence ∉ state.appliedPaymentEvidence
  records : ∀ {state obligation evidence amount now state'},
    P.applyPayment state obligation evidence amount now = .ok state' →
    ∀ e, e ∈ state'.appliedPaymentEvidence ↔ e = evidence ∨ e ∈ state.appliedPaymentEvidence
  paid : ∀ {state obligation evidence amount now state'},
    P.applyPayment state obligation evidence amount now = .ok state' →
    (state'.state = .paid ↔ atomicValue state'.outstandingAmount = 0)
  opens : ∀ {obligation state}, P.newSettlementState obligation = .ok state →
    state.outstandingAmount = obligation.amount ∧ state.appliedPaymentEvidence = [] ∧ state.state ≠ .paid
  resolves : ∀ {state obligation target evidence now state'},
    P.resolveSettlementState state obligation target evidence now = .ok state' →
    state'.outstandingAmount = state.outstandingAmount ∧
      state'.appliedPaymentEvidence = state.appliedPaymentEvidence ∧ (state'.state = .paid ↔ state.state = .paid)
  instances : ∀ {o o'}, P.validateSettlementObligation o = .ok () → P.validateSettlementObligation o' = .ok () →
    o.obligationInstanceID = o'.obligationInstanceID → o.stableActionID = o'.stableActionID
  entries : ∀ {b b' k}, P.digest "tos.openfox.accounting-entry-body.v1" (.accountingBody b) = .ok k →
    P.digest "tos.openfox.accounting-entry-body.v1" (.accountingBody b') = .ok k → b = b'

/-! ## What a write does to accounting and the ledger -/

/-- An entry is stored under the digest of its body. -/
inductive AccountingMove (P : Protocol) (d d' : AuthorityDocument) : Prop
  | keep (accounting : d'.accounting = d.accounting)
  | enter {entry} (identified : accountingEntryID P entry.body = .ok entry.entryID)
    (accounting : d'.accounting = d.accounting.put entry.entryID entry)

variable {paid : List AccountingEntryBody} {id : String} {r : BillingResolutionRequest} {now : Time}
  {ledger : SettlementLedgerRecord}

theorem transitionAccounting_move {fence : WriterFence}
    {r : BillingStateTransitionRequest} (ha : transitionAccounting P fence ledger r d = .ok d') :
    AccountingMove P d d' := by
  unfold transitionAccounting at ha
  split at ha
  · cases ha
    exact .keep rfl
  · simp only [peel] at ha
    obtain ⟨entryID, identified, rfl⟩ := ha
    exact .enter identified rfl

theorem Writes.accounting (hw : Writes P h d c d') : AccountingMove P d d' := by
  cases hw with
  | account _ _ _ identified => exact .enter identified rfl
  | pay _ _ _ _ _ identified =>
    exact .enter identified (storeRecord_proj (·.accounting))
  | settle _ _ _ _ _ _ accounted =>
    cases transitionAccounting_move accounted with
    | keep accounting => exact .keep ((storeRecord_proj (·.accounting)).trans accounting)
    | enter identified accounting =>
      exact .enter identified ((storeRecord_proj (·.accounting)).trans accounting)
  | releaseReservation => exact .keep (disposeLoss_proj (·.accounting))
  | _ => exact .keep rfl

variable {body : AccountingEntryBody} {fields : SemanticFields} {a : PersonalAuthority} {request : Bytes}

theorem accountingEntryID_digest {k : String} (hk : accountingEntryID P body = .ok k) :
    P.digest "tos.openfox.accounting-entry-body.v1" (.accountingBody body) = .ok k := by
  simp only [accountingEntryID, peel] at hk
  exact hk.2

def Entered (P : Protocol) (d : AuthorityDocument) (body : AccountingEntryBody) : Prop :=
  ∃ k entry, accountingEntryID P body = .ok k ∧ d.accounting.get? k = some entry ∧ entry.body = body

theorem Entered.carry (hlaws : PaymentLaws P) (he : Entered P d body) (hm : AccountingMove P d d') :
    Entered P d' body := by
  obtain ⟨k, entry, hk, hget, hbody⟩ := he
  cases hm with
  | keep accounting => exact ⟨k, entry, hk, accounting ▸ hget, hbody⟩
  | @enter entry' identified accounting =>
    by_cases heq : k = entry'.entryID
    · subst heq
      refine ⟨_, entry', hk, by rw [accounting, Map.get?_put_self], ?_⟩
      exact hlaws.entries (accountingEntryID_digest identified) (accountingEntryID_digest hk)
    · exact ⟨k, entry, hk, by rw [accounting, Map.get?_put_ne _ _ heq]; exact hget, hbody⟩

/-- What a write does to the settlement ledger, with the library calls behind it. -/
inductive SettlementMove (P : Protocol) (d d' : AuthorityDocument) (c : Call) : Prop
  | keep (unpaying : ∀ action fields request fence r, c ≠ .applySettlementPayment action fields request fence r)
    (ledger : d'.settlementLedger = d.settlementLedger)
  | opened {action fields request fence obligation state}
    (billing : c = .materializeSettlement action fields request fence obligation)
    (valid : P.validateSettlementObligation obligation = .ok ())
    (absent : d.actions.get? obligation.stableActionID = none)
    (recorded : d'.actions.has obligation.stableActionID = true) (new : P.newSettlementState obligation = .ok state)
    (ledger : d'.settlementLedger =
      d.settlementLedger.put obligation.obligationInstanceID { obligation := obligation, state := state })
  | resolved {action fields request fence r l target evidence now updated}
    (resolving : c = .resolveSettlementState action fields request fence r)
    (found : d.settlementLedger.get? r.obligationInstanceID = some l)
    (result : P.resolveSettlementState l.state l.obligation target evidence now = .ok updated)
    (ledger : d'.settlementLedger = d.settlementLedger.put r.obligationInstanceID { l with state := updated })
  | paid {action fields request fence r l now updated}
    (paying : c = .applySettlementPayment action fields request fence r)
    (found : d.settlementLedger.get? r.obligationInstanceID = some l)
    (absent : d.actions.get? action.stableActionID = none) (recorded : d'.actions.has action.stableActionID = true)
    (result : P.applyPayment l.state l.obligation r.paymentEvidenceDigest r.paidAmount now = .ok updated)
    (entered : Entered P d' (paymentAccounting d { l with state := updated } r))
    (ledger : d'.settlementLedger = d.settlementLedger.put r.obligationInstanceID { l with state := updated })

theorem Writes.settlement (hw : Writes P h d c d') : SettlementMove P d d' c := by
  have hhas : ∀ {m : Map String ActionResolution} {k} {v}, (m.put k v).has k = true :=
    fun {m k v} => Map.has_iff.2 ⟨v, Map.get?_put_self⟩
  cases hw with
  | materializeFirst _ _ own _ _ absent new _ valid | materializeNext _ _ own _ _ absent new _ valid =>
    exact .opened rfl valid (own ▸ absent) (own ▸ hhas) new rfl
  | @pay _ _ _ fence r ledger updated entryID _ _ found absent applied identified =>
    refine .paid rfl found absent ?_ applied
      ⟨entryID, ⟨entryID, paymentAccounting d { ledger with state := updated } r, fence.body.writerGeneration⟩,
        identified, ?_, rfl⟩
      (storeRecord_proj (·.settlementLedger))
    · rw [storeRecord_proj (·.actions)]
      exact hhas
    · rw [storeRecord_proj (·.accounting)]
      exact Map.get?_put_self
  | settle _ _ found _ _ result _ only =>
    subst only
    exact .resolved rfl found result (storeRecord_proj (·.settlementLedger))
  | releaseReservation =>
    exact .keep (fun _ _ _ _ _ => nofun) (disposeLoss_proj (·.settlementLedger))
  | _ => exact .keep (fun _ _ _ _ _ => nofun) rfl

/-! ## Instances are billed once -/

/-- Every ledger entry has a valid obligation, whose action is recorded. -/
def Billed (P : Protocol) (d : AuthorityDocument) : Prop :=
  ∀ k l, d.settlementLedger.get? k = some l →
    P.validateSettlementObligation l.obligation = .ok () ∧ d.actions.has l.obligation.stableActionID = true

theorem Billed.carry (hb : Billed P d) (hw : Writes P h d c d') : Billed P d' := by
  have hkeep : ∀ k l, d.settlementLedger.get? k = some l →
      P.validateSettlementObligation l.obligation = .ok () ∧ d'.actions.has l.obligation.stableActionID = true :=
    fun k l hl => ⟨(hb k l hl).1, hw.actions.persists (hb k l hl).2⟩
  intro k l hl
  cases hw.settlement with
  | keep _ ledger => exact hkeep k l (ledger ▸ hl)
  | opened _ valid _ recorded _ ledger =>
    exact Map.forall_put (hkeep _ _) ⟨valid, recorded⟩ (ledger ▸ hl)
  | resolved _ found _ ledger | paid _ found _ _ _ _ ledger =>
    obtain ⟨rfl, rfl⟩ | hl := Map.put_cases (ledger ▸ hl)
    · exact (hkeep _ _ found :)
    · exact hkeep k l hl

theorem Billed.absent (hlaws : PaymentLaws P) (hwf : WF P d) (hb : Billed P d) {o : SettlementObligation}
    (hv : P.validateSettlementObligation o = .ok ()) (hnew : d.actions.get? o.stableActionID = none) :
    d.settlementLedger.get? o.obligationInstanceID = none := by
  cases hl : d.settlementLedger.get? o.obligationInstanceID with
  | none => rfl
  | some l =>
    obtain ⟨hvalid, hrecorded⟩ := hb _ _ hl
    rw [hlaws.instances hvalid hv (hwf.ledger hl).1, Map.has_iff, hnew] at hrecorded
    obtain ⟨_, hnone⟩ := hrecorded
    cases hnone

/-! ## The payments of a run -/

/-- The accounting body of the payment an event applies to an instance: its action was not recorded, and
is recorded afterwards. -/
def paymentOf (P : Protocol) (id : String) (a : PersonalAuthority) (e : Event) : Option AccountingEntryBody :=
  match e.call? P a.doc with
  | .ok (some (.applySettlementPayment action _ _ _ r)) =>
    if r.obligationInstanceID = id ∧ a.doc.actions.has action.stableActionID = false ∧
        (step P a e).doc.actions.has action.stableActionID = true then
      ((step P a e).doc.settlementLedger.get? id).map fun ledger => paymentAccounting a.doc ledger r
    else none
  | _ => none

def payments (P : Protocol) (id : String) : PersonalAuthority → List Event → List AccountingEntryBody
  | _, [] => []
  | a, e :: es => (paymentOf P id a e).toList ++ payments P id (step P a e) es

def AccountingEntryBody.value (body : AccountingEntryBody) : ℕ := (body.amount.map atomicValue).getD 0

def AccountingEntryBody.settles (body : AccountingEntryBody) : Prop :=
  body.classification = .settledRevenue ∨ body.classification = .settledExpense

theorem paymentAccounting_settles :
    AccountingEntryBody.settles (paymentAccounting d ledger r) ↔ ledger.state.state = .paid := by
  simp only [AccountingEntryBody.settles, paymentAccounting, paymentClassification]
  split
  · rename_i hp; split <;> simp [hp]
  · rename_i hp; simp [hp]

/-- How the payments applied so far and the ledger entry of an instance agree. -/
structure Books (P : Protocol) (id : String) (d : AuthorityDocument) (paid : List AccountingEntryBody) : Prop where
  unbilled : d.settlementLedger.get? id = none → paid = []
  balance : ∀ {l}, d.settlementLedger.get? id = some l →
    (paid.map AccountingEntryBody.value).sum + atomicValue l.state.outstandingAmount = atomicValue l.obligation.amount
  evidence : ∀ {l}, d.settlementLedger.get? id = some l →
    ∀ e, e ∈ l.state.appliedPaymentEvidence ↔ e ∈ paid.map (·.sourceReference)
  distinct : (paid.map (·.sourceReference)).Nodup
  entered : ∀ body ∈ paid, Entered P d body
  settled : ∀ {l}, d.settlementLedger.get? id = some l →
    ((∃ body ∈ paid, AccountingEntryBody.settles body) ↔ l.state.state = .paid)
  cleared : ∀ {l}, d.settlementLedger.get? id = some l → l.state.state = .paid →
    atomicValue l.state.outstandingAmount = 0

theorem Books.of_ledger (hlaws : PaymentLaws P) (hb : Books P id d paid)
    (hm : AccountingMove P d d') (hl : d'.settlementLedger.get? id = d.settlementLedger.get? id) : Books P id d' paid :=
  ⟨fun hn => hb.unbilled (hl ▸ hn), fun hg => hb.balance (hl ▸ hg), fun hg => hb.evidence (hl ▸ hg), hb.distinct,
    fun body hbody => (hb.entered body hbody).carry hlaws hm, fun hg => hb.settled (hl ▸ hg),
      fun hg => hb.cleared (hl ▸ hg)⟩

theorem Books.entry {l : SettlementLedgerRecord} (hl : d.settlementLedger.get? id = some l)
    (balance : (paid.map AccountingEntryBody.value).sum + atomicValue l.state.outstandingAmount =
      atomicValue l.obligation.amount)
    (evidence : ∀ e, e ∈ l.state.appliedPaymentEvidence ↔ e ∈ paid.map (·.sourceReference))
    (distinct : (paid.map (·.sourceReference)).Nodup) (entered : ∀ body ∈ paid, Entered P d body)
    (settled : (∃ body ∈ paid, AccountingEntryBody.settles body) ↔ l.state.state = .paid)
    (cleared : l.state.state = .paid → atomicValue l.state.outstandingAmount = 0) : Books P id d paid := by
  constructor <;> simp_all

/-- A write keeps the books of an instance; only a payment to it adds to them. -/
theorem Books.write (hlaws : PaymentLaws P) (hwf : WF P d) (hbilled : Billed P d) (hb : Books P id d paid)
    (hw : Writes P h d c d') :
    (Books P id d' paid ∧ ∀ action fields request fence r, c = .applySettlementPayment action fields request fence r →
      r.obligationInstanceID ≠ id) ∨
    ∃ action fields request fence r l, c = .applySettlementPayment action fields request fence r ∧
      r.obligationInstanceID = id ∧ d.actions.get? action.stableActionID = none ∧
      d'.actions.has action.stableActionID = true ∧ d'.settlementLedger.get? id = some l ∧
      Books P id d' (paid ++ [paymentAccounting d l r]) := by
  have hacc := hw.accounting
  cases hw.settlement with
  | keep unpaying ledger =>
    exact .inl ⟨hb.of_ledger hlaws hacc (by rw [ledger]), fun _ _ _ _ _ hc => absurd hc (unpaying _ _ _ _ _)⟩
  | @opened _ _ _ _ obligation state billing valid absent _ new ledger =>
    refine .inl ⟨?_, fun _ _ _ _ _ hc => by rw [billing] at hc; cases hc⟩
    by_cases hid : id = obligation.obligationInstanceID
    · -- A new instance has no payments yet.
      subst hid
      have hnone := hbilled.absent hlaws hwf valid absent
      obtain ⟨hamount, hevidence, hopen⟩ := hlaws.opens new
      have hempty := hb.unbilled hnone
      subst hempty
      refine .entry (ledger ▸ Map.get?_put_self) ?_ ?_ List.nodup_nil nofun ?_ fun hp => absurd hp hopen
      · simp [hamount]
      · simp [hevidence]
      · simp [hopen]
    · exact hb.of_ledger hlaws hacc (by rw [ledger, Map.get?_put_ne _ _ hid])
  | @resolved _ _ _ _ r l _ _ _ updated resolving found result ledger =>
    refine .inl ⟨?_, fun _ _ _ _ _ hc => by rw [resolving] at hc; cases hc⟩
    by_cases hid : id = r.obligationInstanceID
    · subst hid
      obtain ⟨hamount, hevidence, hpaid⟩ := hlaws.resolves result
      refine .entry (ledger ▸ Map.get?_put_self) ?_ ?_ hb.distinct
        (fun body hbody => (hb.entered body hbody).carry hlaws hacc) ?_ fun hp => ?_
      · rw [hamount]; exact hb.balance found
      · rw [hevidence]; exact hb.evidence found
      · rw [hpaid]; exact hb.settled found
      · rw [hamount]; exact hb.cleared found (hpaid.1 hp)
    · exact hb.of_ledger hlaws hacc (by rw [ledger, Map.get?_put_ne _ _ hid])
  | @paid action fields request fence r l _ updated paying found absent recorded result entered ledger =>
    by_cases hid : id = r.obligationInstanceID
    · subst hid
      have hget : d'.settlementLedger.get? r.obligationInstanceID = some { l with state := updated } :=
        ledger ▸ Map.get?_put_self
      have hbody : AccountingEntryBody.settles (paymentAccounting d { l with state := updated } r) ↔
          updated.state = .paid := paymentAccounting_settles
      have hsub := hlaws.subtracts result
      refine .inr ⟨action, fields, request, fence, r, _, paying, rfl, absent, recorded, hget,
        .entry hget ?_ (fun e => ?_) ?_ ?_ ⟨?_, ?_⟩ ?_⟩
      · have hsum := hb.balance found
        have hvalue : AccountingEntryBody.value (paymentAccounting d { l with state := updated } r) =
            atomicValue r.paidAmount := rfl
        simp only [List.map_append, List.map_cons, List.map_nil, List.sum_append, List.sum_cons, List.sum_nil, hvalue]
        omega
      · rw [hlaws.records result e, hb.evidence found e, List.map_append, List.mem_append, or_comm]
        exact or_congr_right List.mem_singleton.symm
      · -- Evidence that was applied before is rejected, so no two payments share it.
        have hfresh := mt (hb.evidence found _).2 (hlaws.rejects result)
        rw [List.map_append, List.nodup_append]
        refine ⟨hb.distinct, List.nodup_singleton _, fun e he e' he' heq => hfresh ?_⟩
        rw [List.map_singleton, List.mem_singleton] at he'
        exact (show e = r.paymentEvidenceDigest from heq.trans he') ▸ he
      · exact List.forall_mem_append.2
          ⟨fun body hmem => (hb.entered body hmem).carry hlaws hacc, List.forall_mem_singleton.2 entered⟩
      · rintro ⟨body, hmem, hs⟩
        rcases List.mem_append.1 hmem with hmem | hmem
        · -- A paid instance stays paid: nothing is left to subtract from.
          have hzero := hb.cleared found ((hb.settled found).1 ⟨body, hmem, hs⟩)
          exact (hlaws.paid result).2 (by omega)
        · rw [List.mem_singleton.1 hmem] at hs
          exact hbody.1 hs
      · exact fun hp => ⟨_, List.mem_append_right _ (List.mem_singleton.2 rfl), hbody.2 hp⟩
      · exact (hlaws.paid result).1
    · refine .inl ⟨hb.of_ledger hlaws hacc (by rw [ledger, Map.get?_put_ne _ _ hid]), ?_⟩
      rintro _ _ _ _ _ hc rfl
      rw [paying] at hc
      cases hc
      exact hid rfl

/-! ## Runs -/

theorem Lapses.accounting {nowUnix : UInt64} {key : String} {issued : IssuedCustodyPayment}
    (hl : Lapses nowUnix key issued d d') : d'.accounting = d.accounting := by
  cases hl <;> rfl

theorem Books.lapse (hlaws : PaymentLaws P) (hb : Books P id d paid) (he : Expiry now d d') : Books P id d' paid := by
  obtain ⟨-, _, _, -, -, lapse⟩ := he
  exact hb.of_ledger hlaws (.keep lapse.accounting) (by rw [lapse.ledger])

theorem Billed.lapse (hb : Billed P d) (he : Expiry now d d') : Billed P d' := by
  obtain ⟨-, _, _, -, -, lapse⟩ := he
  intro k l hl
  rw [lapse.ledger] at hl
  rw [lapse.actions]
  exact hb k l hl

/-- What holds of the document before a write still holds after due bearers have lapsed. -/
theorem expiries_books (hlaws : PaymentLaws P)
    (hbilled : Billed P d) (hb : Books P id d paid) (hs : Relation.ReflTransGen (Expiry now) d d') :
    Billed P d' ∧ Books P id d' paid := by
  induction hs with
  | refl => exact ⟨hbilled, hb⟩
  | tail _ hlast ih => exact ⟨ih.1.lapse hlast, ih.2.lapse hlaws hlast⟩

theorem step_books (hlaws : PaymentLaws P) (hwf : WF P a.doc) (hbilled : Billed P a.doc) (hb : Books P id a.doc paid)
    (e : Event) :
    Billed P (step P a e).doc ∧ Books P id (step P a e).doc (paid ++ (paymentOf P id a e).toList) := by
  obtain ⟨d, hsteps, hidle, hd⟩ := step_cases hwf e
  obtain ⟨hbilled', hb'⟩ := expiries_books hlaws hbilled hb hsteps
  rcases hd with hd | ⟨c, hc, hw⟩
  · -- Nothing is written, so no action is recorded.
    have hnone : paymentOf P id a e = none := by
      unfold paymentOf
      split
      · refine if_neg fun hcond => ?_
        rw [hd, expiries_actions hsteps, hcond.2.1] at hcond
        cases hcond.2.2
      · rfl
    rw [hnone, hd, Option.toList_none, List.append_nil]
    exact ⟨hbilled', hb'⟩
  · refine ⟨hbilled'.carry hw, ?_⟩
    rcases hb'.write hlaws (expiries_wf hwf hsteps) hbilled' hw with
      ⟨hbooks, hother⟩ | ⟨action, fields, request, fence, r, l, hpay, hid, habsent, hrecorded, hl, hbooks⟩
    · have hnone : paymentOf P id a e = none := by
        unfold paymentOf
        rw [hc]
        cases c with
        | applySettlementPayment action fields request fence r => exact if_neg fun hcond => hother _ _ _ _ _ rfl hcond.1
        | _ => rfl
      rw [hnone, Option.toList_none, List.append_nil]
      exact hbooks
    · subst hpay
      have hd : d = a.doc := hidle (by rw [Event.expires_call hc]; rfl)
      subst hd
      have hsome : paymentOf P id a e = some (paymentAccounting a.doc l r) := by
        unfold paymentOf
        rw [hc]
        simp [hid, Map.has_false_iff.2 habsent, hrecorded, hl]
      rw [hsome]
      exact hbooks

theorem run_books (hlaws : PaymentLaws P) :
    ∀ es {a} {paid}, WF P a.doc → Billed P a.doc →
      Books P id a.doc paid → Books P id (exec (step P) a es).doc (paid ++ payments P id a es)
  | [], a, paid, _, _, hb => by simpa [payments] using hb
  | e :: es, a, paid, hwf, hbilled, hb => by
    obtain ⟨hbilled', hb'⟩ := step_books hlaws hwf hbilled hb e
    have hrun := run_books hlaws es (step_wf a e hwf) hbilled' hb'
    rwa [List.append_assoc] at hrun

/-- What the body of a payment call does once it accepts: an action that is recorded is answered, and a
new one is recorded with the payment. -/
theorem applySettlementPayment_accepts {action : AuthorizedAction}
    {fence : WriterFence} {o : Outcome (ActionResolution × SettlementLedgerRecord)}
    (hb : (applySettlementPayment P h action fields request fence r).body d = .ok o) :
    if d.actions.has action.stableActionID then ∃ v, o = .keep v
    else ∃ d' v l, o = .store d' v ∧ d'.actions.has action.stableActionID = true ∧
      d'.settlementLedger.get? r.obligationInstanceID = some l := by
  simp only [applySettlementPayment] at hb
  split at hb
  · cases hb
  · rename_i l _
    simp only [peel] at hb
    obtain ⟨-, -, -, hb⟩ := hb
    split at hb
    · rename_i prior hprior
      simp only [peel] at hb
      rw [if_pos (Map.has_iff.2 ⟨prior, hprior⟩)]
      exact ⟨_, hb.2.symm⟩
    · rename_i hnone
      simp only [peel] at hb
      obtain ⟨updated, -, entryID, -, rfl⟩ := hb
      rw [if_neg (by rw [Map.has_false_iff.2 hnone]; exact Bool.false_ne_true)]
      refine ⟨_, _, { l with state := updated }, rfl, ?_, ?_⟩
      · rw [storeRecord_proj (·.actions)]
        exact Map.has_iff.2 ⟨_, Map.get?_put_self⟩
      · rw [storeRecord_proj (·.settlementLedger)]
        exact Map.get?_put_self

/-- A payment call that succeeds applies its payment if its action is new, and otherwise changes nothing. -/
theorem payment_call {e : Event} {action : AuthorizedAction} {fence : WriterFence}
    (hc : e.call? P a.doc = .ok (some (.applySettlementPayment action fields request fence r)))
    (hok : (perform P a e).2 = .ok ()) :
    if a.doc.actions.has action.stableActionID then
    (step P a e).doc = a.doc ∧ ∀ id, paymentOf P id a e = none
    else ∃ body, paymentOf P r.obligationInstanceID a e = some body ∧ body.amount = some r.paidAmount ∧
      body.sourceReference = r.paymentEvidenceDigest := by
  obtain ⟨d, hr⟩ := run_returns (perform_call hc ▸ hok)
  have hd : d = a.doc := hr.idle rfl
  subst hd
  have hstep :
    step P a e = (((Call.applySettlementPayment action fields request fence r).operation P e.host).run P e.host a).1 :=
    congrArg Prod.fst (perform_call hc)
  have haccepts : ∀ {o}, (applySettlementPayment P e.host action fields request fence r).body a.doc = .ok o → _ :=
    applySettlementPayment_accepts
  cases hhas : a.doc.actions.has action.stableActionID with
  | true =>
    simp only [hhas, if_true] at haccepts ⊢
    refine ⟨?_, fun id => ?_⟩
    · rcases hr.accepted with ⟨-, hdoc⟩ | ⟨next, hb, -⟩
      · rw [hstep, hdoc]
      · obtain ⟨o, ho, hmap⟩ := map_ok.1 hb
        obtain ⟨v, rfl⟩ := haccepts ho
        cases hmap
    · unfold paymentOf
      rw [hc]
      exact if_neg fun hcond => by rw [hhas] at hcond; cases hcond.2.1
  | false =>
    simp only [hhas, Bool.false_eq_true, if_false] at haccepts ⊢
    rcases hr.accepted with ⟨hb, -⟩ | ⟨next, hb, hdoc⟩
    · obtain ⟨o, ho, hmap⟩ := map_ok.1 hb
      obtain ⟨_, _, _, rfl, -⟩ := haccepts ho
      cases hmap
    · obtain ⟨o, ho, hmap⟩ := map_ok.1 hb
      obtain ⟨d', v, l, rfl, hrecorded, hl⟩ := haccepts ho
      cases hmap
      refine ⟨paymentAccounting a.doc l r, ?_, rfl, rfl⟩
      unfold paymentOf
      rw [hc, hstep, hdoc]
      simp [hhas, hrecorded, hl]

/-! ## The result -/

theorem fresh_books {owner agent authority : String} {limits : PortfolioLimits} :
    Books P id (AuthorityDocument.fresh owner agent authority limits) [] :=
  ⟨fun _ => rfl, nofun, nofun, List.nodup_nil, nofun, nofun, nofun⟩

/-- In every run of a fresh authority, for every obligation instance in the ledger: the amounts of the
accounting entries its payments created add up to the obligation's amount less what is outstanding,
no two of them are one entry, all are in the book, and one of them is classified as settled exactly if
the instance is paid. A payment call that succeeds afterwards creates one entry, with its own amount and
evidence, if its action is not recorded; a recorded action is answered, and nothing changes. -/
theorem payment_accounting_conserves (hlaws : PaymentLaws P) (ownerID agentID authorityID : String)
    (limits : PortfolioLimits) (es : List Event) :
    let start := PersonalAuthority.fresh ownerID agentID authorityID limits
    let a := exec (step P) start es
    (∀ id l, a.doc.settlementLedger.get? id = some l →
      ((payments P id start es).map AccountingEntryBody.value).sum + atomicValue l.state.outstandingAmount =
        atomicValue l.obligation.amount ∧
      (payments P id start es).Nodup ∧ (∀ body ∈ payments P id start es, Entered P a.doc body) ∧
      ((∃ body ∈ payments P id start es, AccountingEntryBody.settles body) ↔ l.state.state = .paid)) ∧
    ∀ e action fields request fence r,
      e.call? P a.doc = .ok (some (.applySettlementPayment action fields request fence r)) →
      (perform P a e).2 = .ok () →
      if a.doc.actions.has action.stableActionID then
        (step P a e).doc = a.doc ∧ ∀ id, paymentOf P id a e = none
      else ∃ body, paymentOf P r.obligationInstanceID a e = some body ∧ body.amount = some r.paidAmount ∧
        body.sourceReference = r.paymentEvidenceDigest := by
  intro start a
  refine ⟨fun id l hl => ?_, fun e action fields request fence r hc hok => payment_call hc hok⟩
  have hb : Books P id a.doc ([] ++ payments P id start es) :=
    run_books hlaws es (fresh_wf ownerID agentID authorityID limits) nofun fresh_books
  exact ⟨hb.balance hl, hb.distinct.of_map _, hb.entered, hb.settled hl⟩

/-! ## An installment paid in two parts -/

namespace Sample

def left (outstanding paid : AgreementAmount) : Option AgreementAmount :=
  if outstanding = amount "5" ∧ paid = amount "2" then some (amount "3")
  else if outstanding = amount "3" ∧ paid = amount "3" then some (amount "0")
  else none

def partBody (classification : AccountingClassification) (paid evidence : String) : AccountingEntryBody :=
  { installmentPayment instanceDigest2 with
    classification := classification, amount := some (amount paid), sourceReference := evidence
    evidenceRefs := [evidence] }

/-- The protocol with payments in parts, which knows its own bills only. -/
def parts : Protocol :=
  { protocol with
    digest := fun _ v => match v with
      | .accountingBody b =>
        if b = partBody .partialPayment "2" manifestDigest then .ok accountingDigest
        else if b = partBody .settledExpense "3" profileDigest then .ok accountingDigest2
        else .error "digest"
      | v => digest v
    validateSettlementObligation := fun o =>
      if o = relayBill ∨ o = firstBill ∨ o = secondBill then .ok () else .error "unknown bill"
    applyPayment := fun state _ evidence paid _ =>
      match left state.outstandingAmount paid with
      | some rest =>
        if evidence ∈ state.appliedPaymentEvidence then .error "applied"
        else .ok { state with
          state := if rest = amount "0" then .paid else .partiallyPaid
          stateRevision := state.stateRevision + 1, outstandingAmount := rest
          appliedPaymentEvidence := state.appliedPaymentEvidence ++ [evidence] }
      | none => .error "amount" }

def payPart (stableActionID paid evidence : String) : Event :=
  call 300 (.applySettlementPayment (action "billing.resolve" stableActionID) ∅ "settle" fence
    ⟨instanceDigest2, evidence, amount paid, 200⟩)

end Sample

theorem Sample.left_sound {outstanding paid rest : AgreementAmount} (hl : left outstanding paid = some rest) :
    atomicValue rest + atomicValue paid = atomicValue outstanding ∧ (rest = amount "0" ↔ atomicValue rest = 0) := by
  unfold left at hl
  split at hl
  · rename_i hc
    cases hl
    rw [hc.1, hc.2]
    decide
  · split at hl
    · rename_i hc
      cases hl
      rw [hc.1, hc.2]
      decide
    · cases hl

theorem Sample.parts_applyPayment {state state' : SettlementState} {obligation : SettlementObligation}
    {evidence : String}
    {paid : AgreementAmount} (ha : parts.applyPayment state obligation evidence paid now = .ok state') :
    ∃ rest, left state.outstandingAmount paid = some rest ∧ evidence ∉ state.appliedPaymentEvidence ∧
      state'.outstandingAmount = rest ∧ state'.appliedPaymentEvidence = state.appliedPaymentEvidence ++ [evidence] ∧
      state'.state = if rest = amount "0" then .paid else .partiallyPaid := by
  simp only [parts] at ha
  split at ha
  · rename_i rest hl
    split at ha
    · cases ha
    · rename_i hfresh
      cases ha
      exact ⟨rest, hl, hfresh, rfl, rfl, rfl⟩
  · cases ha

open Sample in
theorem parts_laws : PaymentLaws parts where
  subtracts ha := by
    obtain ⟨rest, hl, -, hrest, -, -⟩ := parts_applyPayment ha
    rw [hrest]
    exact (left_sound hl).1
  rejects ha := by
    obtain ⟨-, -, hfresh, -⟩ := parts_applyPayment ha
    exact hfresh
  records ha e := by
    obtain ⟨-, -, -, -, hevidence, -⟩ := parts_applyPayment ha
    rw [hevidence, List.mem_append, List.mem_singleton, or_comm]
  paid ha := by
    obtain ⟨rest, hl, -, hrest, -, hstate⟩ := parts_applyPayment ha
    rw [hstate, hrest, ← (left_sound hl).2]
    split
    · rename_i hzero; simp [hzero]
    · rename_i hzero; simp [hzero]
  opens hn := by
    simp only [parts, protocol, peel] at hn
    obtain ⟨_, -, rfl⟩ := hn
    exact ⟨rfl, rfl, by simp⟩
  resolves hr := by cases hr
  instances ho ho' hid := by
    have hbill : ∀ {o}, parts.validateSettlementObligation o = .ok () →
        o = relayBill ∨ o = firstBill ∨ o = secondBill := by
      intro o hv
      by_contra hne
      simp only [parts, if_neg hne] at hv
      cases hv
    rcases hbill ho with rfl | rfl | rfl <;> rcases hbill ho' with rfl | rfl | rfl <;>
      first | rfl | exact absurd hid (by decide)
  entries hb hb' := table_injective (by decide) hb hb'

open Sample in
/-- An installment of five paid with two and then three: both entries are kept, and the second settles. -/
theorem parts_conserved :
    let es := billedRun ++
      [payPart "part-one" "2" manifestDigest, payPart "part-two" "3" profileDigest]
    let a := exec (step parts) Sample.authority es
    ∃ l, a.doc.settlementLedger.get? instanceDigest2 = some l ∧ l.state.state = .paid ∧
      (payments parts instanceDigest2 Sample.authority es).length = 2 ∧
      ((payments parts instanceDigest2 Sample.authority es).map AccountingEntryBody.value).sum +
        atomicValue l.state.outstandingAmount = atomicValue l.obligation.amount ∧
      ∃ body ∈ payments parts instanceDigest2 Sample.authority es, AccountingEntryBody.settles body := by
  intro es a
  have hresult := (payment_accounting_conserves parts_laws "owner" "alice" "authority" limits es).1
    instanceDigest2
  have hpaid : (a.doc.settlementLedger.get? instanceDigest2).map (·.state.state) = some .paid := by
    decide +kernel
  have hlength : (payments parts instanceDigest2 Sample.authority es).length = 2 := by decide +kernel
  cases hl : a.doc.settlementLedger.get? instanceDigest2 with
  | none => rw [hl] at hpaid; cases hpaid
  | some l =>
    rw [hl] at hpaid
    have hstate := Option.some.inj hpaid
    obtain ⟨hsum, -, -, hsettled⟩ := hresult l hl
    exact ⟨l, rfl, hstate, hlength, hsum, hsettled.2 hstate⟩

open Sample in
/-- A payment made twice succeeds twice with one entry, and one whose action was admitted before succeeds
with none. -/
theorem answered_payment_enters_nothing :
    let pay := payPart "part-one" "2" manifestDigest
    let admitAction := call 130 (.admitAction (action "billing.resolve" "part-one") ∅ "settle" fence none)
    let once := exec (step parts) authority (billedRun ++ [pay])
    let admitted := exec (step parts) authority (billedRun ++ [admitAction])
    ((perform parts once pay).2 = .ok () ∧ (step parts once pay).doc.accounting.entries.length = 1) ∧
      (perform parts admitted pay).2 = .ok () ∧
        (step parts admitted pay).doc.accounting.entries.length = 0 := by
  decide +kernel

end OpenFox.Authority
