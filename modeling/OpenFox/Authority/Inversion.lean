/-
From a call that returned to what it wrote: one inversion lemma for each operation, then `writes_of`
for all of them.
-/
import OpenFox.Authority.Writes

namespace OpenFox.Authority

open OpenFox.Go OpenFox.Commerce Operation

variable {P : Protocol} {h : Host} {d d' : AuthorityDocument}

/-- `op` accepts the call on `d` and asks to persist `d'`. -/
def Operation.Stores {α : Type} (op : Operation α) (d d' : AuthorityDocument) : Prop :=
  op.before = .ok () ∧ ∃ o, op.body d = .ok o ∧ o.next = some d'

variable {α : Type} {action : AuthorizedAction} {fields : SemanticFields} {request : Bytes} {fence : WriterFence}
  {evidence : List String} {digest event obligation : String} {r : BillingStateTransitionRequest}

theorem Operation.stores_map {β : Type} {op : Operation α} {f : α → β} : (op.map f).Stores d d' ↔ op.Stores d d' := by
  have hnext : ∀ o : Outcome α, (o.map f).next = o.next := by
    intro o; cases o <;> rfl
  refine and_congr Iff.rfl ⟨?_, ?_⟩
  · rintro ⟨_, hm, hn⟩
    obtain ⟨o, ho, rfl⟩ := map_ok.1 hm
    exact ⟨o, ho, hnext o ▸ hn⟩
  · rintro ⟨o, ho, hn⟩
    exact ⟨o.map f, map_ok.2 ⟨o, ho, rfl⟩, (hnext o).trans hn⟩

/-- Whatever the call asks to persist is one of its writes. -/
def Call.Sound (P : Protocol) (h : Host) (c : Call) : Prop :=
  ∀ {d d'}, (c.operation P h).Stores d d' → Writes P h d c d'

theorem Operation.writes {c : Call} {op : Operation α} {f : α → Unit} (hop : c.operation P h = op.map f)
    (hbody : ∀ {d d' o}, op.body d = .ok o → o.next = some d' → Writes P h d c d')
    (hs : (c.operation P h).Stores d d') :
    Writes P h d c d' := by
  rw [hop] at hs
  obtain ⟨-, o, hb, hn⟩ := stores_map.1 hs
  exact hbody hb hn

theorem kept_stores {bad : Prop} [Decidable bad] {msg : String} {v : α} {o : Outcome α}
    (hb : (refuse bad msg >>= fun _ => pure (.keep v)) = .ok o) (hn : o.next = some d') : False := by
  simp only [peel] at hb
  obtain ⟨-, rfl⟩ := hb
  cases hn

theorem verified_iff {now : Time} : verified P d action fields request fence now = true ↔
      P.verifyAuthorizedAction d.authorityID action fields request fence now = .ok () := by
  exact beq_iff_eq

/-! ## Writers and admission -/

theorem acquireWriter_writes {instanceID scope ttl} : Call.Sound P h (.acquireWriter instanceID scope ttl) :=
  writes rfl fun hb hn => by
  simp only [acquireWriter, peel] at hb
  obtain ⟨room, lease, -, fence, -, rfl⟩ := hb
  cases hn
  exact .acquireWriter room

theorem allocateInstance_writes {request} : Call.Sound P h (.allocateInstance request fence) :=
  writes rfl fun hb hn => by
  simp only [allocateInstance, peel, passed] at hb
  obtain ⟨writer, digest, -, hb⟩ := hb
  split at hb
  · cases hb; cases hn
  · rename_i absent
    simp only [peel] at hb
    obtain ⟨identifier, -, rfl⟩ := hb
    cases hn
    exact .allocateInstance writer absent

theorem admitRelaySideEffects_writes {descriptor} : Call.Sound P h (.admitRelaySideEffects descriptor) :=
  writes rfl fun hb hn => by
  simp only [admitRelaySideEffects, peel, passed] at hb
  obtain ⟨⟨owner, agent, authority, writer⟩, current, valid, hops, digest, looked, hb⟩ := hb
  split at hb
  · exact (kept_stores hb hn).elim
  · rename_i absent
    simp only [peel, passed, ge_iff_le, not_le] at hb
    obtain ⟨room, continues, ⟨first, last, -, -⟩, receipt, built, rfl⟩ := hb
    cases hn
    exact .admitRelaySideEffects writer absent owner agent authority current valid looked room continues ⟨first, last⟩
      ⟨_, built⟩ rfl (UInt64.not_lt.1 hops)

/-- The outcome-journal high-water changes nothing else of the document. -/
theorem advanceHead_ok (hv : validateAndAdvanceOutcomeJournalAuthorityHead P d action fields request fence = .ok d') :
    ∃ heads, d' = { d with outcomeJournalHeads := heads } := by
  unfold validateAndAdvanceOutcomeJournalAuthorityHead at hv
  split at hv
  · cases hv; exact ⟨d.outcomeJournalHeads, rfl⟩
  · simp only [peel] at hv
    obtain ⟨append, -, -, -, hv⟩ := hv
    split at hv <;> simp only [peel] at hv
    · obtain ⟨-, rfl⟩ := hv; exact ⟨_, rfl⟩
    · obtain ⟨-, -, rfl⟩ := hv; exact ⟨_, rfl⟩

theorem admit_writes {reservation} : Call.Sound P h (.admitAction action fields request fence reservation) :=
  writes rfl fun hb hn => by
  simp only [admitAction, peel, passed] at hb
  obtain ⟨⟨writer, -⟩, verifies, hb⟩ := hb
  split at hb
  · exact (kept_stores hb hn).elim
  · rename_i absent
    simp only [peel] at hb
    obtain ⟨d₁, advanced, d₂, held, rfl⟩ := hb
    cases hn
    obtain ⟨heads, rfl⟩ := advanceHead_ok advanced
    cases reservation with
    | none => cases held; exact .admitAction ⟨writer, verifies⟩ absent
    | some candidate =>
      simp only [admitOptionalReservation, peel] at held
      obtain ⟨fits, rfl⟩ := held
      exact .admitHold ⟨writer, verifies⟩ absent fits

/-! ## Transitions and releases -/

theorem transition_writes {id state sink} : Call.Sound P h (.transition id digest state sink evidence) :=
  writes rfl fun hb hn => by
  simp only [transition] at hb
  split at hb
  · cases hb
  · rename_i existing found
    simp only [peel, passed, Bool.not_eq_true] at hb
    obtain ⟨exact, unfinished, guarded, valid, next, released, rfl⟩ := hb
    cases hn
    unfold releaseRejectedSponsorship at released
    split at released
    · cases released
      exact .transition found exact unfinished guarded valid
    · rename_i rejected
      rw [not_not] at rejected
      subst rejected
      split at released
      · cases released
        exact .transition found exact unfinished guarded valid
      · rename_i admission sponsored
        split at released
        · cases released
        · rename_i reservation hold
          simp only [peel] at released
          obtain ⟨-, released⟩ := released
          split at released
          · cases released
            exact .transition found exact unfinished guarded valid
          · rename_i live
            cases released
            exact .reject found exact unfinished valid guarded sponsored hold (by simpa using live)

theorem releaseReservation_writes {realized retained} :
    Call.Sound P h (.releaseReservation action fields request fence realized retained) := writes rfl fun hb hn => by
  simp only [releaseReservation, peel, passed, verified_iff] at hb
  obtain ⟨⟨writer, -⟩, ⟨kind, verifies⟩, outcome, predecessor, hb⟩ := hb
  split at hb
  · cases hb; cases hn
  · simp only [peel, passed] at hb
    obtain ⟨release, decoded, target, hb⟩ := hb
    split at hb
    · cases hb
    · rename_i existing hold
      simp only [peel, passed, Bool.not_eq_true] at hb
      obtain ⟨⟨agreement, live⟩, unissued, finished, bucket, bucketed, disposed, valid, rfl⟩ := hb
      cases hn
      exact .releaseReservation ⟨writer, verifies⟩ kind predecessor decoded target hold agreement live unissued finished
        bucketed disposed valid

/-! ## Sponsorships and custody -/

theorem admitRelaySponsorshipPayment_writes {payment purpose} :
    Call.Sound P h (.admitRelaySponsorshipPayment action fields request fence payment purpose) :=
  writes rfl fun hb hn => by
  simp only [admitRelaySponsorshipPayment, peel, passed, verified_iff] at hb
  obtain ⟨writer, ⟨verifies, exact⟩, -, admission, computed, hb⟩ := hb
  split at hb
  · rename_i prior found
    unfold retrySponsorship at hb
    split at hb
    · cases hb
    · simp only [peel, passed] at hb
      obtain ⟨⟨same, -⟩, hb⟩ := hb
      split at hb
      · cases hb; cases hn
      · cases hb; cases hn
        exact .resubmitSponsorship ⟨writer, verifies⟩ found same
  · rename_i absent
    simp only [peel] at hb
    obtain ⟨-, fits, rfl⟩ := hb
    cases hn
    exact .sponsor ⟨writer, verifies⟩ exact computed absent fits

theorem mapError_ok {x : Except String α} {f : String → String} {a : α} : x.mapError f = .ok a ↔ x = .ok a := by
  cases x <;> simp [Except.mapError]

theorem authorizeCustodyPayment_writes {payment account domain sponsorship} :
    Call.Sound P h (.authorizeCustodyPayment action fields request fence payment account domain sponsorship) := by
  intro d d' hs
  obtain ⟨arguments, o, hb, hn⟩ := stores_map.1 hs
  simp only [authorizeCustodyPayment, peel, passed, mapError_ok, verified_iff] at hb
  obtain ⟨pinned, clear, reservationID, reserved, digest, bound, writer, ⟨-, own, verifies⟩, prepared, -, hb⟩ := hb
  have prior : ∃ prior, d.actions.get? action.stableActionID = some prior ∧
      prior.exactRequestDigest = action.exactRequestDigest ∧ prior.state = .prepared := by
    cases hp : d.actions.get? action.stableActionID with
    | none => simp [hp] at prepared
    | some prior => exact ⟨prior, rfl, by simpa [hp] using prepared⟩
  split at hb
  · cases hb
  · rename_i amount parsed
    simp only [peel] at hb
    obtain ⟨positive, hb⟩ := hb
    split at hb
    · exact (kept_stores hb hn).elim
    · rename_i absent
      simp only [peel] at hb
      obtain ⟨issued, built, exclusive, -, rfl⟩ := hb
      cases hn
      refine .issue ⟨writer, verifies⟩ arguments pinned (by simpa using clear) reserved bound own prior parsed
        positive built
        absent fun k i hk hr => exclusive (Map.any_iff.2 ⟨k, i, hk, ?_⟩)
      have hne : k ≠ digest := by rintro rfl; rw [absent] at hk; cases hk
      simp [hr, hne]

/-! ## Proposals, withdrawals and deliveries -/

theorem recordNegotiationConflict_ok {agreementID code : String} {digests : List String}
    (hr : recordNegotiationConflict d agreementID code digests = .ok d') :
    d.engagements.any (fun _ record => record.body.agreementID == agreementID) = true ∧
      d' = flagLineage d agreementID code digests := by
  simp only [recordNegotiationConflict, peel, passed] at hr
  obtain ⟨retained, rfl⟩ := hr
  exact ⟨retained, rfl⟩

theorem recordAgreementProposal_writes {body proposer action} :
    Call.Sound P h (.recordAgreementProposal body proposer event action) := by
  intro d d' hs
  obtain ⟨arguments, o, hb, hn⟩ := stores_map.1 hs
  simp only [recordAgreementProposal, proposalArguments, peel, passed] at arguments hb
  obtain ⟨-, valid, -, -, participant⟩ := arguments
  obtain ⟨digest, bound, hb⟩ := hb
  split at hb
  · rename_i existing found
    split at hb
    · cases hb; cases hn
    · rename_i other
      simp only [peel] at hb
      obtain ⟨next, conflict, rfl⟩ := hb
      cases hn
      obtain ⟨retained, rfl⟩ := recordNegotiationConflict_ok conflict
      exact .identityConflict bound found other retained
  · rename_i absent
    split at hb
    · rename_i prior sibling
      simp only [peel] at hb
      obtain ⟨next, conflict, rfl⟩ := hb
      cases hn
      obtain ⟨-, rfl⟩ := recordNegotiationConflict_ok conflict
      exact .bodyFork bound absent sibling
    · rename_i single
      simp only [peel, Bool.not_eq_true] at hb
      obtain ⟨clear, succeeds, -, rfl⟩ := hb
      cases hn
      exact .propose valid bound participant absent single clear succeeds

theorem observeAgreementWithdrawal_writes {action sender} :
    Call.Sound P h (.observeAgreementWithdrawal digest action sender event) := writes rfl fun hb hn => by
  simp only [observeAgreementWithdrawal] at hb
  split at hb
  · cases hb
  · rename_i record found
    simp only [peel, passed] at hb
    obtain ⟨⟨proposed, proposer, -⟩, target, hw, hb⟩ := hb
    split at hb
    · cases hb; cases hn
    · cases hb; cases hn
      exact .withdraw found proposed proposer hw

theorem observeAgreementDelivery_writes {manifest sender} :
    Call.Sound P h (.observeAgreementDelivery digest obligation manifest sender event) := writes rfl fun hb hn => by
  simp only [observeAgreementDelivery] at hb
  split at hb
  · cases hb
  · rename_i record found
    simp only [peel, passed] at hb
    obtain ⟨owed, hb⟩ := hb
    split at hb
    · exact (kept_stores hb hn).elim
    · rename_i unseen
      simp only [peel, passed] at hb
      obtain ⟨awaited, ready, rfl⟩ := hb
      cases hn
      exact .deliver found owed rfl (not_not.1 unseen) (by by_contra hc; exact awaited (not_or.1 hc)) ready

/-! ## Evidence and reservations -/

theorem recordAgreementEvidence_writes {evidence verifier} :
    Call.Sound P h (.recordAgreementEvidence digest evidence verifier) := writes rfl fun hb hn => by
  simp only [recordAgreementEvidence] at hb
  split at hb
  · cases hb
  · rename_i record found
    simp only [peel, passed] at hb
    obtain ⟨⟨uncancelled, unfailed⟩, ⟨exact, key⟩, clear, covered, evidenceDigest, hdigest, hb⟩ := hb
    split at hb
    · cases hb; cases hn
    · rename_i hnew
      simp only [peel] at hb
      obtain ⟨last, timely, valid, ⟨state, marker⟩, earned, rfl⟩ := hb
      cases hn
      exact .recordEvidence found uncancelled unfailed exact key (by simpa using clear)
        (fun hl => by by_contra hc; exact covered ⟨hl, by simpa using hc⟩)
        (fun hu => by by_contra hc; exact last ⟨hu, by simpa using hc⟩) timely valid earned
        (fun hmem => hnew (List.any_eq_true.2 ⟨evidence, hmem, by rw [hdigest]; exact beq_self_eq_true _⟩))

theorem reserveEngagement_writes {reserve} :
    Call.Sound P h (.reserveEngagement action fields request fence reserve) := writes rfl fun hb hn => by
  simp only [reserveEngagement] at hb
  split at hb
  · cases hb
  · rename_i record found
    simp only [peel, passed, verified_iff] at hb
    obtain ⟨⟨eligible, -, -⟩, exact, paidDemand, covered, -, writer, ⟨kind, verifies⟩, hb⟩ := hb
    split at hb
    · exact (kept_stores hb hn).elim
    · rename_i absent
      simp only [peel] at hb
      obtain ⟨fits, rfl⟩ := hb
      cases hn
      exact .reserve found eligible exact paidDemand covered ⟨writer, verifies⟩ kind absent fits

theorem cancelUnsignedReservation_writes {reservationID} :
    Call.Sound P h (.cancelUnsignedReservation digest reservationID fence) := by
  intro d d' hs
  obtain ⟨-, o, hb, hn⟩ := hs
  simp only [Call.operation, cancelUnsignedReservation, peel] at hb
  obtain ⟨-, hb⟩ := hb
  split at hb
  · rename_i record reservation found hold
    simp only [peel, passed] at hb
    obtain ⟨⟨holder, agreement⟩, hb⟩ := hb
    split at hb
    · cases hb; cases hn
    · simp only [peel, Bool.not_eq_false, Bool.not_eq_true] at hb
      obtain ⟨cancellable, unsigned, unissued, unbilled, rfl⟩ := hb
      cases hn
      exact .cancelUnsigned found hold holder agreement cancellable unsigned unissued unbilled
  · cases hb

/-! ## Lifecycle -/

theorem bindAcceptedPrivateInput_writes {accepted} :
    Call.Sound P h (.bindAcceptedPrivateInput digest obligation accepted) := writes rfl fun hb hn => by
  simp only [bindAcceptedPrivateInput] at hb
  split at hb
  · cases hb
  · rename_i record found
    simp only [peel, Bool.not_eq_false] at hb
    obtain ⟨-, accepting, -, hb⟩ := hb
    split at hb
    · exact (kept_stores hb hn).elim
    · split at hb
      · exact (kept_stores hb hn).elim
      · cases hb; cases hn
        exact .bindInput found accepting

theorem recordPrivateHandoffChallenge_writes {challenge send} :
    Call.Sound P h (.recordPrivateHandoffChallenge digest obligation challenge send) := writes rfl fun hb hn => by
  simp only [recordPrivateHandoffChallenge] at hb
  split at hb
  · cases hb
  · rename_i record found
    simp only [peel, Bool.not_eq_false] at hb
    obtain ⟨accepting, -, hb⟩ := hb
    split at hb
    · exact (kept_stores hb hn).elim
    · cases hb; cases hn
      exact .bindChallenge found accepting

theorem transitionEngagement_writes {expected next execution} :
    Call.Sound P h (.transitionEngagement digest expected next execution evidence) := by
  intro d d' hs
  obtain ⟨before, o, hb, hn⟩ := stores_map.1 hs
  simp only [transitionEngagement, peel, Bool.not_eq_false] at before hb
  split at hb
  · cases hb
  · rename_i record found
    simp only [peel, passed] at hb
    obtain ⟨⟨exact, -⟩, rfl⟩ := hb
    cases hn
    exact .moveEngagement before.1 found exact

theorem transitionObligation_writes {expected target execution} :
    Call.Sound P h (.transitionObligation digest obligation expected target execution evidence event) := by
  intro d d' hs
  obtain ⟨before, o, hb, hn⟩ := stores_map.1 hs
  simp only [transitionObligation, peel, Bool.not_eq_false] at before hb
  split at hb
  · cases hb
  · rename_i record found
    split at hb
    · cases hb
    · rename_i runtime current
      simp only [peel, passed] at hb
      obtain ⟨⟨exact, -⟩, rfl⟩ := hb
      cases hn
      exact .moveObligation before.1 found current exact

theorem completeNoPaymentEngagement_writes {evidence} :
    Call.Sound P h (.completeNoPaymentEngagement digest evidence) := writes rfl fun hb hn => by
  simp only [completeNoPaymentEngagement] at hb
  split at hb
  · cases hb
  · rename_i record found
    simp only [peel, passed, Bool.not_eq_true] at hb
    obtain ⟨⟨valueless, delivered⟩, rfl⟩ := hb
    cases hn
    exact .complete found valueless delivered

/-! ## Accounting, scheduling and settlement -/

theorem recordAccounting_writes {entry} : Call.Sound P h (.recordAccounting action fields request fence entry) := by
  intro d d' hs
  obtain ⟨before, o, hb, hn⟩ := stores_map.1 hs
  simp only [recordAccounting, peel, passed, verified_iff] at before hb
  obtain ⟨⟨writer, -⟩, ⟨kind, verifies⟩, hb⟩ := hb
  split at hb
  · exact (kept_stores hb hn).elim
  · rename_i absent
    cases hb; cases hn
    exact .account ⟨writer, verifies⟩ kind absent before.2.1

theorem admitScheduleTransition_writes : Call.Sound P h (.admitScheduleTransition action request fence) :=
  writes rfl fun hb hn => by
  simp only [admitScheduleTransition, peel, passed, mapError_ok] at hb
  obtain ⟨⟨writer, -⟩, t, decoded, -, hb⟩ := hb
  split at hb
  · exact (kept_stores hb hn).elim
  · rename_i absent
    simp only [peel, passed, verified_iff] at hb
    obtain ⟨target, built, -, ⟨kind, verifies⟩, rfl⟩ := hb
    cases hn
    exact .schedule decoded built ⟨writer, verifies⟩ kind absent

theorem admitDependencyTransition_writes {r} :
    Call.Sound P h (.admitDependencyTransition action fields request fence r) := writes rfl fun hb hn => by
  simp only [admitDependencyTransition, peel, passed, verified_iff] at hb
  obtain ⟨⟨writer, -⟩, -, ⟨kind, -, verifies⟩, hb⟩ := hb
  split at hb
  · exact (kept_stores hb hn).elim
  · rename_i absent
    simp only [peel, not_not] at hb
    obtain ⟨base, dependencies, built, -, rfl⟩ := hb
    cases hn
    exact .depend ⟨writer, verifies⟩ kind absent base built

theorem materializeSettlement_writes {obligation} :
    Call.Sound P h (.materializeSettlement action fields request fence obligation) := by
  intro d d' hs
  obtain ⟨before, o, hb, hn⟩ := stores_map.1 hs
  simp only [materializeSettlement, refuse_ok, passed] at before hb
  split at hb
  · cases hb
  · rename_i engagement found
    simp only [peel, passed, verified_iff] at hb
    obtain ⟨billable, writer, ⟨kind, verifies⟩, hb⟩ := hb
    split at hb
    · split at hb
      · cases hb
      · exact (kept_stores hb hn).elim
    · rename_i absent
      simp only [peel] at hb
      obtain ⟨state, opened, rfl⟩ := hb
      cases hn
      split
      · rename_i pending
        exact .materializeFirst ⟨writer, verifies⟩ kind before.2 found billable absent opened pending before.1
      · rename_i billed
        exact .materializeNext ⟨writer, verifies⟩ kind before.2 found billable absent opened billed before.1

theorem applySettlementPayment_writes {r} :
    Call.Sound P h (.applySettlementPayment action fields request fence r) := writes rfl fun hb hn => by
  simp only [applySettlementPayment] at hb
  split at hb
  · cases hb
  · rename_i ledger found
    simp only [peel, passed, verified_iff] at hb
    obtain ⟨-, writer, ⟨kind, verifies⟩, hb⟩ := hb
    split at hb
    · exact (kept_stores hb hn).elim
    · rename_i absent
      simp only [peel] at hb
      obtain ⟨updated, applied, entryID, identified, rfl⟩ := hb
      cases hn
      exact .pay ⟨writer, verifies⟩ kind found absent applied identified

theorem transitionAccounting_ok {ledger : SettlementLedgerRecord}
    (ha : transitionAccounting P fence ledger r d = .ok d') :
    ∃ accounting, d' = { d with accounting := accounting } := by
  unfold transitionAccounting at ha
  split at ha
  · cases ha; exact ⟨d.accounting, rfl⟩
  · simp only [peel] at ha
    obtain ⟨entryID, -, rfl⟩ := ha
    exact ⟨_, rfl⟩

theorem resolveSettlementState_writes : Call.Sound P h (.resolveSettlementState action fields request fence r) :=
  writes rfl fun hb hn => by
  simp only [resolveSettlementState] at hb
  split at hb
  · cases hb
  · rename_i ledger found
    simp only [peel, passed, verified_iff] at hb
    obtain ⟨⟨revision, -⟩, writer, updated, resolved, evidenceSet, -, ⟨kind, -, verifies⟩, hb⟩ := hb
    split at hb
    · exact (kept_stores hb hn).elim
    · rename_i absent
      simp only [peel] at hb
      obtain ⟨next, accounted, rfl⟩ := hb
      cases hn
      obtain ⟨accounting, only⟩ := transitionAccounting_ok accounted
      exact .settle ⟨writer, verifies⟩ kind found revision absent resolved accounted only

/-! ## All calls -/

theorem not_stores_of_keep {op : Operation α} (hk : ∀ o, op.body d = .ok o → o.next = none) : ¬ op.Stores d d' := by
  rintro ⟨-, o, hb, hn⟩
  rw [hk o hb] at hn
  cases hn

theorem authorizeCustodyEffect_keeps {template : CustodyEffectAuthorization} {o : Outcome CustodyEffectAuthorization}
    (hb : (authorizeCustodyEffect P h action fields request fence template).body d = .ok o) : o.next = none := by
  simp only [authorizeCustodyEffect, peel] at hb
  obtain ⟨-, -, -, -, fenceDigest, -, signed, -, rfl⟩ := hb
  rfl

theorem writes_of {c : Call} (hs : (c.operation P h).Stores d d') : Writes P h d c d' := by
  cases c with
  | acquireWriter => exact acquireWriter_writes hs
  | allocateInstance => exact allocateInstance_writes hs
  | admitRelaySideEffects => exact admitRelaySideEffects_writes hs
  | admitAction => exact admit_writes hs
  | snapshot => exact absurd (stores_map.1 hs) (not_stores_of_keep fun o ho => by cases ho; rfl)
  | checkReservationCapacity candidate =>
    refine absurd hs (not_stores_of_keep fun o ho => ?_)
    simp only [Call.operation, checkReservationCapacity, peel] at ho
    obtain ⟨-, rfl⟩ := ho
    rfl
  | transition => exact transition_writes hs
  | releaseReservation => exact releaseReservation_writes hs
  | admitRelaySponsorshipPayment => exact admitRelaySponsorshipPayment_writes hs
  | authorizeCustodyPayment => exact authorizeCustodyPayment_writes hs
  | authorizeCustodyEffect =>
    exact absurd (stores_map.1 hs) (not_stores_of_keep fun o ho => authorizeCustodyEffect_keeps ho)
  | recordAgreementProposal => exact recordAgreementProposal_writes hs
  | observeAgreementWithdrawal => exact observeAgreementWithdrawal_writes hs
  | observeAgreementDelivery => exact observeAgreementDelivery_writes hs
  | recordAgreementEvidence => exact recordAgreementEvidence_writes hs
  | reserveEngagement => exact reserveEngagement_writes hs
  | cancelUnsignedReservation => exact cancelUnsignedReservation_writes hs
  | bindAcceptedPrivateInput => exact bindAcceptedPrivateInput_writes hs
  | recordPrivateHandoffChallenge => exact recordPrivateHandoffChallenge_writes hs
  | transitionEngagement => exact transitionEngagement_writes hs
  | transitionObligation => exact transitionObligation_writes hs
  | completeNoPaymentEngagement => exact completeNoPaymentEngagement_writes hs
  | recordAccounting => exact recordAccounting_writes hs
  | admitScheduleTransition => exact admitScheduleTransition_writes hs
  | admitDependencyTransition => exact admitDependencyTransition_writes hs
  | materializeSettlement => exact materializeSettlement_writes hs
  | applySettlementPayment => exact applySettlementPayment_writes hs
  | resolveSettlementState => exact resolveSettlementState_writes hs

end OpenFox.Authority
