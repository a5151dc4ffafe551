/-
The lifecycle state of an engagement through one update: most operations do not consult the
transition table but assign the state or project it from the obligations. What a projection can
give, and which state each operation can leave behind.
-/
import OpenFox.Authority.WellFormed

namespace OpenFox.Authority

open OpenFox.Go OpenFox.Commerce

variable {P : Protocol} {h : Host} {d d' : AuthorityDocument} {c : Call}

/-! ## Projections -/

/-- The states a single obligation can decide. -/
def EngagementState.active : EngagementState → Bool
  | .executionPrepared | .executing | .executionSucceeded | .settling | .unpaid | .failed | .ambiguous => true
  | _ => false

theorem visit_active (record : EngagementRecord) (p : Projection) (e : (_ : String) × ObligationRuntimeRecord)
    (hp : ∀ s, p.projected = some s → s.active = true) :
    ∀ s, (p.visit record e).projected = some s → s.active = true := by
  have hor : ∀ t s, t.active = true → p.projected.or (some t) = some s → s.active = true := by
    intro t s ht hs
    cases hprojected : p.projected with
    | none => rw [hprojected] at hs; cases hs; exact ht
    | some _ => rw [hprojected] at hs; cases hs; exact hp _ hprojected
  intro s hs
  unfold Projection.visit at hs
  dsimp only at hs
  split at hs
  · cases hs; rfl
  · split at hs
    · exact hp s hs
    · cases hs; rfl
  all_goals first
    | exact hor _ s rfl hs
    | exact hp s hs

theorem projectRuntime_active (order : RangeOrder) (record : EngagementRecord) {s : EngagementState}
    (hs : (projectRuntime order record).projected = some s) : s.active = true := by
  have hfold : ∀ (l : List ((_ : String) × ObligationRuntimeRecord)) (p : Projection),
      (∀ s, p.projected = some s → s.active = true) →
      ∀ s, (l.foldl (Projection.visit record) p).projected = some s → s.active = true := by
    intro l
    induction l with
    | nil => exact fun p hp => hp
    | cons e l ih => exact fun p hp => ih _ (visit_active record p e hp)
  exact hfold _ {} (fun _ hnone => by cases hnone) s hs

/-- A projection leaves the state, follows one obligation, finds all obligations delivered or
settled, or falls back to `Reserved` for a reserved engagement. -/
theorem projectedState_cases (order : RangeOrder) (record : EngagementRecord) :
    projectedState order record = record.state ∨ (projectedState order record).active = true ∨
      projectedState order record = .settled ∨ projectedState order record = .delivered ∨
      projectedState order record = .reserved ∧ record.reservationID ≠ "" := by
  unfold projectedState
  split
  · exact .inl rfl
  · dsimp only
    split
    · rename_i s hs
      exact .inr (.inl (projectRuntime_active order record hs))
    · split
      · exact .inr (.inr (.inl rfl))
      · split
        · exact .inr (.inr (.inr (.inl rfl)))
        · split
          · exact .inr (.inr (.inr (.inl rfl)))
          · split
            · rename_i hres
              exact .inr (.inr (.inr (.inr ⟨rfl, hres⟩)))
            · exact .inl rfl

variable {r r' : EngagementRecord} {k : String}

theorem Projects.state_cases (hp : Projects h r r') :
    r'.state = r.state ∨ r'.state.active = true ∨ r'.state = .settled ∨ r'.state = .delivered ∨
      r'.state = .reserved ∧ r.reservationID ≠ "" := by
  obtain ⟨x, hx, hstate, rfl⟩ := hp
  have hcases := projectedState_cases h.range x
  rw [hstate, hx.reservation] at hcases
  exact hcases

/-! ## States through an update -/

/-- The state of the engagement `r` under `k` through the update to `r'` by a call. -/
inductive StateMove (P : Protocol) (h : Host) (d : AuthorityDocument) (k : String) (r r' : EngagementRecord) :
    Call → Prop
  | withdraw {action sender event} (unfinished : r.state = .proposed ∨ r.state = .authorizing)
    (state : r'.state = if r.reservationID ≠ "" then .cancellationResolving else .cancelled) :
    StateMove P h d k r r' (.observeAgreementWithdrawal k action sender event)
  | evidence {evidence verifier} (uncancelled : r.state ≠ .cancelled) (unfailed : r.state ≠ .failed)
    (earned : authorizationResult P r r'.agreement verifier (h.clock 1) =
      .ok (r'.state, r'.fullyAuthorizedEvidenceSetDigest)) :
    StateMove P h d k r r' (.recordAgreementEvidence k evidence verifier)
  | reserve {action fields request fence reserve} (own : reserve.reservation.agreementDigest = k)
    (eligible : engagementEligibleForReservation P r d.agentID = true)
    (state : r'.state = if r.state = .agreed then .reserved else .authorizing) :
    StateMove P h d k r r' (.reserveEngagement action fields request fence reserve)
  | cancel {reservationID fence} (unfinished : r.state = .authorizing) (state : r'.state = .cancelled) :
    StateMove P h d k r r' (.cancelUnsignedReservation k reservationID fence)
  | bindInput {obligation accepted} (state : r'.state = r.state) :
    StateMove P h d k r r' (.bindAcceptedPrivateInput k obligation accepted)
  | bindChallenge {obligation challenge send} (state : r'.state = r.state) :
    StateMove P h d k r r' (.recordPrivateHandoffChallenge k obligation challenge send)
  | move {next execution evidence} (allowed : allowedEngagementTransition r.state next = true)
    (state : r'.state = next) : StateMove P h d k r r' (.transitionEngagement k r.state next execution evidence)
  | complete {evidence} (delivered : allNonValueObligationsDelivered r = true) (state : r'.state = .settled) :
    StateMove P h d k r r' (.completeNoPaymentEngagement k evidence)
  | project {c : Call} (onto : c.projectsOnto d = some k) (projects : Projects h r r') : StateMove P h d k r r' c

theorem withdrawalTarget_ok {state : EngagementState} (hw : withdrawalTarget r = .ok (some state)) :
    (r.state = .proposed ∨ r.state = .authorizing) ∧
      state = if r.reservationID ≠ "" then .cancellationResolving else .cancelled := by
  unfold withdrawalTarget at hw
  split at hw <;> cases hw
  · rename_i hs; exact ⟨.inl hs, rfl⟩
  · rename_i hs; exact ⟨.inr hs, rfl⟩

theorem Updates.stateMove (he : d.engagements.get? k = some r) (hu : Updates P h d d' k r c r') :
    StateMove P h d k r r' c := by
  cases hu with
  | withdraw target => exact .withdraw (withdrawalTarget_ok target).1 (withdrawalTarget_ok target).2
  | deliver => exact .project rfl (delivered_projects h _ _ _ _ _ _)
  | recordEvidence uncancelled unfailed _ _ _ earned => exact .evidence uncancelled unfailed earned
  | reserve own eligible => exact .reserve own eligible rfl
  | cancelUnsigned _ _ _ cancellable =>
    refine .cancel ?_ rfl
    simp only [unsignedCancellable, Bool.and_eq_true, beq_iff_eq] at cancellable
    exact cancellable.1.1.1.1.1.1.1
  | bindInput => exact .bindInput rfl
  | bindChallenge => exact .bindChallenge rfl
  | moveEngagement allowed => exact .move allowed rfl
  | moveObligation => exact .project rfl (obligationMoved_projects h _ _ _ _ _ _ _ _)
  | complete _ delivered => exact .complete delivered rfl
  | bill own => exact .project (congrArg some own) (settling_projects h _ _ _)
  | pay found own paid =>
    refine .project ?_ ?_
    · simp only [Call.projectsOnto, found, Option.map_some, own]
    · have hp := paid_projects h paid
      rwa [Map.getD_of_get?
        (show (paymentDocument d _ _ _ _ _).engagements.get? _ = some r by rw [own]; exact he)] at hp
  | overdue found own same late =>
    refine .project ?_ ?_
    · simp only [Call.projectsOnto, found, Option.map_some, own]
    · have hp := overdue_projects h late
      rwa [Map.getD_of_get? (by rw [same, own]; exact he)] at hp

theorem authorizationResult_ok {candidate : AgentAgreement} {verifier : Verifier} {now : Time} {state : EngagementState}
    {marker : String} (ha : authorizationResult P r candidate verifier now = .ok (state, marker)) :
    state = .authorizing ∧ marker = "" ∨
      P.validateAgreementAuthorization candidate verifier now = .ok () ∧
        retainedAgreementAuthorizationSetDigest P { r with agreement := candidate } = .ok marker ∧
        state = if r.reservationID ≠ "" then .reserved else .agreed := by
  unfold authorizationResult at ha
  split at ha
  · cases ha; exact .inl ⟨rfl, rfl⟩
  · rename_i hv
    simp only [peel, Prod.mk.injEq] at ha
    obtain ⟨digest, hdigest, hs, rfl⟩ := ha
    exact .inr ⟨hv, hdigest, hs.symm⟩

theorem withEvidence_perm (agreement : AgentAgreement) (evidence : AuthorizationEvidence) :
    (withEvidence h agreement evidence).authorizationEvidence.Perm (agreement.authorizationEvidence ++ [evidence]) :=
  (List.perm_insertionSort _ _).trans (h.range.perm 3 _)

/-! ## Agreed engagements are unreserved -/

/-- An agreed engagement has no hold yet: with a hold, authorization makes it reserved at once. -/
def Unreserved (r : EngagementRecord) : Prop := r.state = .agreed → r.reservationID = ""

theorem engagementEligible_unreserved {agentID : String} (hr : Unreserved r)
    (he : engagementEligibleForReservation P r agentID = true) : r.reservationID = "" := by
  unfold engagementEligibleForReservation at he
  split at he
  · cases he
  · split at he
    · rename_i hstate; exact hr hstate
    · split at he
      · cases he
      · rename_i hnot
        exact not_not.1 fun hne => hnot (.inr hne)

theorem allowedEngagementTransition_agreed (s : EngagementState) : allowedEngagementTransition s .agreed = false := by
  cases s <;> rfl

theorem Updates.reservationID (he : d.engagements.get? k = some r) (hu : Updates P h d d' k r c r')
    (hr : Unreserved r) :
    r'.reservationID = r.reservationID ∨ r.reservationID = "" ∧ (r'.state = .reserved ∨ r'.state = .authorizing) := by
  rcases hu.keeps he with hk | ⟨_, _, _, _, -, rfl⟩ | ⟨_, _, _, _, _, rfl, hr'⟩
  · exact .inl hk.reservation
  · exact .inl rfl
  · cases hu.stateMove he with
    | reserve _ eligible state =>
      refine .inr ⟨engagementEligible_unreserved hr eligible, ?_⟩
      rw [state]
      split
      · exact .inl rfl
      · exact .inr rfl
    | project onto => cases onto

theorem Updates.unreserved (he : d.engagements.get? k = some r) (hu : Updates P h d d' k r c r') (hr : Unreserved r) :
    Unreserved r' := by
  intro hagreed
  rcases hu.reservationID he hr with hsame | ⟨-, hstate⟩
  · rw [hsame]
    cases hu.stateMove he with
    | withdraw _ state | reserve _ _ state =>
      rw [hagreed] at state
      split at state <;> cases state
    | evidence _ _ earned =>
      rcases authorizationResult_ok earned with ⟨hauth, -⟩ | ⟨-, -, hstate⟩
      · rw [hagreed] at hauth; cases hauth
      · rw [hagreed] at hstate
        split at hstate
        · cases hstate
        · rename_i hnone; exact not_not.1 hnone
    | cancel _ state | complete _ state => rw [hagreed] at state; cases state
    | bindInput state | bindChallenge state => exact hr (state ▸ hagreed)
    | move allowed state =>
      rw [← state, hagreed, allowedEngagementTransition_agreed] at allowed
      cases allowed
    | project _ projects =>
      rcases projects.state_cases with hs | hs | hs | hs | ⟨hs, -⟩
      · exact hr (hs ▸ hagreed)
      all_goals rw [hagreed] at hs; cases hs
  · rw [hagreed] at hstate
    rcases hstate with hs | hs <;> cases hs

theorem Writes.holder (hwf : WF P d) (hr : ∀ {k r}, d.engagements.get? k = some r → Unreserved r)
    (hw : Writes P h d c d') (hk : d.engagements.get? k = some r)
    (hne : r.reservationID ≠ "") :
    ∃ r', d'.engagements.get? k = some r' ∧ r'.reservationID = r.reservationID ∧ r'.body = r.body := by
  have hm := hw.engagements hwf
  obtain ⟨r', hk'⟩ := hm.persists hk
  refine ⟨r', hk', ?_⟩
  rcases hm.recordFrom hk hk' with rfl | ⟨_, _, rfl⟩ | updates
  · exact ⟨rfl, rfl⟩
  · exact ⟨rfl, rfl⟩
  · exact ⟨(updates.reservationID hk (hr hk)).resolve_right fun ⟨he, _⟩ => hne he, (updates.continues hk).body⟩

theorem Writes.unreserved (hwf : WF P d) (hr : ∀ {k r}, d.engagements.get? k = some r → Unreserved r)
    (hw : Writes P h d c d') (hk : d'.engagements.get? k = some r') : Unreserved r' := by
  cases (hw.engagements hwf).recordAfter hk with
  | same found => exact hr found
  | flagged found _ _ marked => subst marked; exact (hr found :)
  | proposed _ _ _ _ _ _ _ new => subst new; exact fun hs => by cases hs
  | updated found updates => exact updates.unreserved found (hr found)

theorem Lapses.unreserved {nowUnix : UInt64} {issued : IssuedCustodyPayment} (hwf : WF P d)
    (hl : Lapses nowUnix k issued d d') (hr : ∀ {k r}, d.engagements.get? k = some r → Unreserved r) {key : String}
    (hk : d'.engagements.get? key = some r') : Unreserved r' := by
  rcases hl.record hwf hk with found | ⟨r, found, rfl, -⟩
  · exact hr found
  · intro hs
    simp only [lapsedRecord] at hs
    split at hs
    · cases hs
    · exact (hr found hs :)

end OpenFox.Authority
