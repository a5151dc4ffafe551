/-
Installments of one payment obligation. Each is billed by a call of its own, and a payment settles
the obligation once every instance the ledger happens to hold is paid: whether that is every
instance the agreement owes depends on what was billed before the payment.
-/
import OpenFox.Authority.WellFormed
import OpenFox.Authority.Sample

namespace OpenFox.Authority

open OpenFox.Go OpenFox.Commerce OpenFox.Base

variable {P : Protocol} {h : Host} {d d' : AuthorityDocument} {c : Call}

/-! ## Ledger entries of an obligation -/

def Materialized (d : AuthorityDocument) (i : SettlementObligation) : Prop :=
  ∃ l, d.settlementLedger.get? i.obligationInstanceID = some l ∧ l.obligation = i

def PaidUp (d : AuthorityDocument) (i : SettlementObligation) : Prop :=
  ∃ l, d.settlementLedger.get? i.obligationInstanceID = some l ∧ l.obligation = i ∧ l.state.state = .paid

instance (d : AuthorityDocument) (i : SettlementObligation) : Decidable (Materialized d i) :=
  decidable_of_iff ((d.settlementLedger.get? i.obligationInstanceID).any (fun l => decide (l.obligation = i)) = true)
    (by simp [Option.any_eq_true, Materialized])

instance (d : AuthorityDocument) (i : SettlementObligation) : Decidable (PaidUp d i) :=
  decidable_of_iff ((d.settlementLedger.get? i.obligationInstanceID).any
      (fun l => decide (l.obligation = i ∧ l.state.state = .paid)) = true)
    (by simp [Option.any_eq_true, PaidUp])

def runtimeOf (d : AuthorityDocument) (k obligationID : String) : Option ObligationRuntimeRecord :=
  (d.engagements.get? k).bind fun r => r.obligationRuntime.get? obligationID

variable {action : AuthorizedAction} {fields : SemanticFields} {fence : WriterFence} {request : Bytes} {site : Nat}
  {obligationID k : String}

theorem mem_obligationLedger {l : SettlementLedgerRecord} : l ∈ obligationLedger h site d k obligationID ↔
    (∃ id, d.settlementLedger.get? id = some l) ∧ l.obligation.agreementBodyDigest = k ∧
        l.obligation.agreementObligationID = obligationID := by
  simp only [obligationLedger, agreementLedger, List.mem_filter, List.mem_map, beq_iff_eq, and_assoc]
  refine and_congr_left fun _ => ⟨?_, ?_⟩
  · rintro ⟨⟨id, l'⟩, hmem, rfl⟩
    exact ⟨id, Map.mem_range.1 hmem⟩
  · rintro ⟨id, hget⟩
    exact ⟨⟨id, l⟩, Map.mem_range.2 hget, rfl⟩

theorem Materialized.paidUp {i : SettlementObligation} (hi : Materialized d i)
    (hpaid : allPaid (obligationLedger h site d i.agreementBodyDigest i.agreementObligationID) = true) :
    PaidUp d i := by
  obtain ⟨l, hget, rfl⟩ := hi
  have hl := List.all_eq_true.1 hpaid l (mem_obligationLedger.2 ⟨⟨_, hget⟩, rfl, rfl⟩)
  exact ⟨l, hget, rfl, by simpa using hl⟩

/-! ## Payments -/

variable {req : BillingResolutionRequest}

/-- The record a payment stores has the runtimes of the engagement, but for the paid obligation, which
is settled if every ledger entry of it is paid. -/
theorem paidRecord_runtime {next : AuthorityDocument} {obligation : SettlementObligation}
    {r r' : EngagementRecord} (hr : next.engagements.get? obligation.agreementBodyDigest = some r) (hready : r.Ready)
    (hp : paidRecord h next obligation req = some r') (obligationID : String) :
    r'.obligationRuntime.get? obligationID = r.obligationRuntime.get? obligationID ∨
      obligationID = obligation.agreementObligationID ∧
        allPaid (obligationLedger h 8 next r.agreementDigest obligation.agreementObligationID) = true ∧
        ∃ runtime, r'.obligationRuntime.get? obligationID = some runtime ∧ runtime.state = .settled := by
  have hsettled : ∀ evidence t, let x := settleRuntime r obligation.agreementObligationID .settled evidence t
      x.obligationRuntime.get? obligationID = r.obligationRuntime.get? obligationID ∨
        obligationID = obligation.agreementObligationID ∧
          ∃ runtime, x.obligationRuntime.get? obligationID = some runtime ∧ runtime.state = .settled := by
    intro evidence t
    simp only [settleRuntime, initialize_eq_self hready, Map.get?_put]
    split
    · rename_i hid
      exact .inr ⟨hid, _, rfl, rfl⟩
    · exact .inl rfl
  unfold paidRecord at hp
  simp only [Map.getD_of_get? hr] at hp
  cases hpaid : allPaid (obligationLedger h 8 next r.agreementDigest obligation.agreementObligationID) with
  | false =>
    simp only [hpaid, Bool.false_eq_true, if_false] at hp
    split at hp
    · cases hp
      exact .inl rfl
    · cases hp
  | true =>
    split at hp
    · cases hp
      exact (hsettled _ _).imp id fun hx => ⟨hx.1, rfl, hx.2⟩
    · cases hp
      exact (hsettled _ _).imp id fun hx => ⟨hx.1, rfl, hx.2⟩

/-- A payment changes the runtime of the paid obligation only, to settled, and only if every ledger
entry of it is paid then. -/
theorem Writes.pay_runtime (hwf : WF P d)
    (hw : Writes P h d (.applySettlementPayment action fields request fence req) d')
    {runtime : ObligationRuntimeRecord} (hset : runtimeOf d' k obligationID = some runtime)
    (hchanged : runtimeOf d k obligationID ≠ some runtime) :
    runtime.state = .settled ∧ allPaid (obligationLedger h 8 d' k obligationID) = true := by
  cases hw with
  | @pay _ _ _ _ _ ledger updated entryID _ _ found =>
    obtain ⟨e, he⟩ := Option.isSome_iff_exists.1 (hwf.ledger found).2
    obtain ⟨hkey, -⟩ := hwf.engagement he
    have he' : (paymentDocument d action fence req { ledger with state := updated } entryID).engagements.get?
        ledger.obligation.agreementBodyDigest = some e := he
    rcases storeRecord_engagements he' hkey fun r' hr' => (paid_projects h hr').keeps with hs | ⟨r', hr', hs⟩
    · rw [runtimeOf, hs] at hset
      exact absurd hset hchanged
    · rw [runtimeOf, hs, Map.get?_put] at hset
      split at hset
      · rename_i hk
        rw [runtimeOf, hk, he] at hchanged
        rcases paidRecord_runtime he' (hwf.ready he) hr' obligationID with hsame | ⟨hid, hpaid, runtime', hget, hstate⟩
        · rw [Option.bind_some, hsame] at hset
          exact absurd hset hchanged
        · rw [Option.bind_some, hget] at hset
          cases hset
          refine ⟨hstate, ?_⟩
          rw [hkey] at hpaid
          unfold obligationLedger agreementLedger at hpaid ⊢
          rw [storeRecord_proj (·.settlementLedger), hk, hid]
          exact hpaid
      · exact absurd hset hchanged

theorem Writes.pay_materialized
    (hw : Writes P h d (.applySettlementPayment action fields request fence req) d') (i : SettlementObligation) :
    Materialized d' i ↔ Materialized d i := by
  cases hw with
  | @pay _ _ _ _ _ ledger _ _ _ _ found =>
    unfold Materialized
    rw [storeRecord_proj (·.settlementLedger)]
    simp only [paymentDocument, putAccounting, putLedger, recordAction, Map.get?_put]
    split
    · rename_i hid
      rw [hid, found]
      simp
    · rfl

/-! ## Settled obligations -/

/-- Every instance `MaterializeSettlementObligations` yields is one of the obligation it was asked about. -/
def InstancesBound (P : Protocol) : Prop :=
  ∀ {ownerID agentID k obligationID mandate o instances},
    P.materializeSettlementObligations ownerID agentID k obligationID mandate o = .ok instances →
    ∀ i ∈ instances, i.agreementBodyDigest = k ∧ i.agreementObligationID = obligationID

/-- A payment that changes the runtime of an obligation settles it, and then every instance of the
obligation is in the ledger and paid exactly if every instance was billed before the payment. -/
theorem settled_iff_materialized (hP : InstancesBound P) {a : PersonalAuthority} (ha : Reachable P a) {e : Event}
    {action : AuthorizedAction} {fields : SemanticFields} {request : Bytes} {fence : WriterFence}
    {req : BillingResolutionRequest}
    (hcall : e.call? P a.doc = .ok (some (.applySettlementPayment action fields request fence req)))
    {k obligationID : String} {runtime : ObligationRuntimeRecord}
    (hset : runtimeOf (step P a e).doc k obligationID = some runtime)
    (hchanged : runtimeOf a.doc k obligationID ≠ some runtime) {ownerID agentID mandate : String}
    {o : AgreementObligation} {instances : List SettlementObligation}
    (hinstances : P.materializeSettlementObligations ownerID agentID k obligationID mandate o = .ok instances) :
    runtime.state = .settled ∧
      ((∀ i ∈ instances, PaidUp (step P a e).doc i) ↔ ∀ i ∈ instances, Materialized a.doc i) := by
  have hwf := reachable_wf ha
  obtain ⟨d, -, hidle, hd⟩ := step_cases hwf e
  obtain rfl := hidle (Event.expires_call hcall)
  rcases hd with hsame | ⟨c, hc, hw⟩
  · rw [hsame] at hset
    exact absurd hset hchanged
  · rw [hcall] at hc
    cases hc
    obtain ⟨hsettled, hpaid⟩ := hw.pay_runtime hwf hset hchanged
    refine ⟨hsettled, fun hall i hi => ?_, fun hall i hi => ?_⟩
    · obtain ⟨l, hget, hl, -⟩ := hall i hi
      exact (hw.pay_materialized i).1 ⟨l, hget, hl⟩
    · obtain ⟨hk, hid⟩ := hP hinstances i hi
      exact ((hw.pay_materialized i).2 (hall i hi)).paidUp (by rw [hk, hid]; exact hpaid)

open Sample in
theorem sample_instancesBound : InstancesBound protocol := by
  intro ownerID agentID k obligationID mandate o instances hm i hi
  have hcases : (if k = relayDigest ∧ obligationID = "pay" then Except.ok [relayBill]
      else if k = serviceDigest ∧ obligationID = "pay" then .ok [firstBill, secondBill]
      else .ok []) = Except.ok (ε := String) instances := hm
  split at hcases
  · rename_i hk
    cases hcases
    rw [hk.1, hk.2, List.mem_singleton.1 hi]
    exact ⟨rfl, rfl⟩
  · split at hcases
    · rename_i hk
      cases hcases
      rw [hk.1, hk.2]
      rcases List.mem_pair.1 hi with rfl | rfl <;> exact ⟨rfl, rfl⟩
    · cases hcases
      cases hi

open Sample in
/-- With both installments billed, the second payment settles the obligation and both are paid. -/
theorem billed_installments_settle :
    let a := exec (step protocol) Sample.authority
      (billedRun ++ [billService secondBill, payService "pay-1" instanceDigest2])
    let e := payService "pay-2" instanceDigest3
    (runtimeOf (step protocol a e).doc serviceDigest "pay").any (·.state == .settled) = true ∧
      runtimeOf a.doc serviceDigest "pay" ≠ runtimeOf (step protocol a e).doc serviceDigest "pay" ∧
      (∀ i ∈ [firstBill, secondBill], Materialized a.doc i) ∧
      ∀ i ∈ [firstBill, secondBill], PaidUp (step protocol a e).doc i := by
  intro a e
  have hset : (runtimeOf (step protocol a e).doc serviceDigest "pay").any (·.state == .settled) = true := by
    decide +kernel
  have hchanged : runtimeOf a.doc serviceDigest "pay" ≠
      runtimeOf (step protocol a e).doc serviceDigest "pay" := by decide +kernel
  have hbilled : ∀ i ∈ [firstBill, secondBill], Materialized a.doc i := by decide +kernel
  have hyields : protocol.materializeSettlementObligations "owner" "alice" serviceDigest "pay" "mandate"
      installments = .ok [firstBill, secondBill] := by decide +kernel
  refine ⟨hset, hchanged, hbilled, ?_⟩
  obtain ⟨runtime, hruntime, -⟩ := (Option.any_eq_true _ _).1 hset
  exact (settled_iff_materialized sample_instancesBound ⟨"owner", "alice", "authority", limits, _, rfl⟩ rfl
    hruntime (hruntime ▸ hchanged) hyields).2.2 hbilled

open Sample in
/-- With the second installment not yet billed, the payment of the first settles the obligation and the
engagement. -/
theorem unbilled_installment_settles :
    let a := exec (step protocol) authority billedRun
    let d := (step protocol a (payService "pay-1" instanceDigest2)).doc
    protocol.materializeSettlementObligations "owner" "alice" serviceDigest "pay" "mandate"
        installments = .ok [firstBill, secondBill] ∧
      (runtimeOf a.doc serviceDigest "pay").map (·.state) = some .settling ∧
      (runtimeOf d serviceDigest "pay").map (·.state) = some .settled ∧
      (d.engagements.get? serviceDigest).map (·.state) = some .settled ∧
      ¬ Materialized d secondBill := by
  decide +kernel

end OpenFox.Authority
