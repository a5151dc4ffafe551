/-
How engagements progress. Only `transitionEngagement` consults the transition table; delivery,
obligation, billing and settlement calls project the state from the obligations whatever it is.
Under which calls closed engagements stay closed, and none progresses without full authorization.
-/
import OpenFox.Authority.Marker

namespace OpenFox.Authority

open OpenFox.Go OpenFox.Commerce OpenFox.Base

variable {P : Protocol} {h : Host} {d d' : AuthorityDocument} {c : Call}

def engagementIs (d : AuthorityDocument) (k : String) (f : EngagementRecord → Bool) : Bool :=
  (d.engagements.get? k).any f

variable {k : String} {nowUnix : UInt64} {issued : IssuedCustodyPayment} {r r' : EngagementRecord}
  {a : PersonalAuthority}

theorem engagementIs_of {f : EngagementRecord → Bool} (hk : d.engagements.get? k = some r) (hf : f r = true) :
    engagementIs d k f = true := by
  rw [engagementIs, hk]
  exact hf

theorem engagementEligible_state {agentID : String} (he : engagementEligibleForReservation P r agentID = true) :
    r.state = .agreed ∨ r.state = .proposed ∨ r.state = .authorizing := by
  unfold engagementEligibleForReservation at he
  split at he
  · cases he
  · split at he
    · rename_i hs; exact .inl hs
    · split at he
      · cases he
      · rename_i hopen
        rw [not_or, not_and_or, not_not, not_not] at hopen
        exact .inr hopen.1

theorem lapsedRecord_state (hs : r.state ≠ .settling) : (lapsedRecord r nowUnix issued).state = r.state := if_neg hs

/-! ## Closed engagements -/

def EngagementState.closed : EngagementState → Bool
  | .cancelled | .failed => true
  | _ => false

/-- Closed, or on the way there after a withdrawal. -/
def EngagementState.closing (s : EngagementState) : Bool := s.closed || s == .cancellationResolving

/-- The call does not reopen a closing engagement: no projection of one, no evidence for one that is
resolving its cancellation, no completion of a closed one. -/
def keepsClosed (d : AuthorityDocument) (c : Call) : Bool :=
  match c with
  | .recordAgreementEvidence k _ _ => !engagementIs d k (·.state == .cancellationResolving)
  | .completeNoPaymentEngagement k _ => !engagementIs d k (·.state.closed)
  | c => match c.projectsOnto d with
    | some k => !engagementIs d k (·.state.closing)
    | none => true

theorem EngagementState.closing_cases {s : EngagementState} (hs : s.closing = true) :
    s = .cancelled ∨ s = .failed ∨ s = .cancellationResolving := by
  cases s <;> first | exact .inl rfl | exact .inr (.inl rfl) | exact .inr (.inr rfl) | cases hs

/-- Where the state of a closing engagement may go: nowhere, or along the table out of the resolution
of its cancellation. -/
def Closes (s s' : EngagementState) : Prop :=
  s' = s ∨ s = .cancellationResolving ∧ allowedEngagementTransition s s' = true

theorem keepsClosed_projects (hk : d.engagements.get? k = some r)
    (hs : r.state.closing = true) (honto : c.projectsOnto d = some k) : keepsClosed d c = false := by
  have his := engagementIs_of (f := (·.state.closing)) hk hs
  unfold keepsClosed
  split
  · cases honto
  · cases honto
  · rw [honto]
    simp only [his, Bool.not_true]

theorem Updates.closes (he : d.engagements.get? k = some r)
    (hu : Updates P h d d' k r c r') (hg : keepsClosed d c = true) (hs : r.state.closing = true) :
    Closes r.state r'.state := by
  have hopen : ∀ s, s.closing = false → r.state ≠ s := by
    rintro s hclosing rfl
    rw [hs] at hclosing
    cases hclosing
  cases hu.stateMove he with
  | withdraw unfinished =>
    rcases unfinished with hr | hr
    · exact absurd hr (hopen _ rfl)
    · exact absurd hr (hopen _ rfl)
  | evidence uncancelled unfailed =>
    rcases EngagementState.closing_cases hs with hr | hr | hr
    · exact absurd hr uncancelled
    · exact absurd hr unfailed
    · rw [keepsClosed, engagementIs_of he (by rw [hr]; rfl)] at hg
      cases hg
  | reserve _ eligible =>
    rcases engagementEligible_state eligible with hr | hr | hr <;> exact absurd hr (hopen _ rfl)
  | cancel unfinished => exact absurd unfinished (hopen _ rfl)
  | bindInput state | bindChallenge state => exact .inl state
  | move allowed state =>
    rcases EngagementState.closing_cases hs with hr | hr | hr
    · rw [hr] at allowed; cases allowed
    · rw [hr] at allowed; cases allowed
    · exact .inr ⟨hr, state ▸ allowed⟩
  | complete _ state =>
    rcases EngagementState.closing_cases hs with hr | hr | hr
    · rw [keepsClosed, engagementIs_of he (by rw [hr]; rfl)] at hg
      cases hg
    · rw [keepsClosed, engagementIs_of he (by rw [hr]; rfl)] at hg
      cases hg
    · exact .inr ⟨hr, by rw [hr, state]; rfl⟩
  | project onto => rw [keepsClosed_projects he hs onto] at hg; cases hg

theorem Writes.closes (hwf : WF P d) (hw : Writes P h d c d') (hg : keepsClosed d c = true)
    (hk : d.engagements.get? k = some r) (hs : r.state.closing = true) :
    ∃ r', d'.engagements.get? k = some r' ∧ Closes r.state r'.state := by
  have hm := hw.engagements hwf
  obtain ⟨r', hk'⟩ := hm.persists hk
  refine ⟨r', hk', ?_⟩
  rcases hm.recordFrom hk hk' with rfl | ⟨_, _, rfl⟩ | updates
  · exact .inl rfl
  · exact .inl rfl
  · exact updates.closes hk hg hs

theorem Lapses.closes {key : String} (hwf : WF P d) (hl : Lapses nowUnix key issued d d')
    (hk : d.engagements.get? k = some r)
    (hs : r.state.closing = true) : ∃ r', d'.engagements.get? k = some r' ∧ r'.state = r.state := by
  rcases hl.follows hwf hk with hk' | ⟨hk', -⟩
  · exact ⟨r, hk', rfl⟩
  · refine ⟨_, hk', lapsedRecord_state fun hsettling => ?_⟩
    rw [hsettling] at hs
    cases hs

theorem step_closes {e : Event} (hwf : WF P a.doc) (hg : Obeys P keepsClosed a e = true)
    (hk : a.doc.engagements.get? k = some r) (hs : r.state.closing = true) :
    ∃ r', (step P a e).doc.engagements.get? k = some r' ∧ Closes r.state r'.state := by
  refine step_induct (I := fun d => ∃ r', d.engagements.get? k = some r' ∧ Closes r.state r'.state)
    (J := fun d => ∃ r', d.engagements.get? k = some r' ∧ r'.state = r.state) hwf ⟨r, hk, rfl⟩ ?_ ?_ ?_
  · rintro d d' - hd ⟨r', hk', hstate⟩ ⟨-, _, _, -, -, lapse⟩
    obtain ⟨r'', hk'', hstate'⟩ := lapse.closes hd hk' (hstate ▸ hs)
    exact ⟨r'', hk'', hstate'.trans hstate⟩
  · rintro d ⟨r', hk', hstate⟩
    exact ⟨r', hk', .inl hstate⟩
  · rintro c d hc hidle hd ⟨r', hk', hstate⟩ hw
    rw [← hstate]
    exact hw.closes hd (Obeys.carry hg hc hidle fun hx => by cases c <;> first | rfl | cases hx) hk' (hstate ▸ hs)

theorem run_closed (hwf : WF P a.doc) {es : List Event}
    (kept : Along (step P) (fun a e => Obeys P keepsClosed a e = true) a es)
    (hk : a.doc.engagements.get? k = some r) (hs : r.state.closed = true) :
    ∃ r', (exec (step P) a es).doc.engagements.get? k = some r' ∧ r'.state = r.state := by
  refine (invariant_along (I := fun a => WF P a.doc ∧ ∃ r', a.doc.engagements.get? k = some r' ∧ r'.state = r.state)
    ?_ ⟨hwf, r, hk, rfl⟩ kept).2
  rintro a e ⟨hwf, r', hk', hstate⟩ hg
  rw [← hstate] at hs ⊢
  obtain ⟨r'', hk'', hsame | ⟨hresolving, -⟩⟩ := step_closes hwf hg hk' (by rw [EngagementState.closing, hs]; rfl)
  · exact ⟨step_wf a e hwf, r'', hk'', hsame⟩
  · rw [hresolving] at hs
    cases hs

/-- In a run that reopens nothing, an engagement that is cancelled or failed after the first part stays
so, and one that resolves its cancellation leaves that state along the transition table only. -/
theorem closed_stays_closed {ownerID agentID authorityID : String} {limits : PortfolioLimits} {pre post : List Event}
    (kept : Along (step P) (fun a e => Obeys P keepsClosed a e = true)
      (PersonalAuthority.fresh ownerID agentID authorityID limits) (pre ++ post)) :
    let a := exec (step P) (PersonalAuthority.fresh ownerID agentID authorityID limits) pre
    ∀ k r, a.doc.engagements.get? k = some r →
      (r.state = .cancelled ∨ r.state = .failed →
        ∃ r', (exec (step P) a post).doc.engagements.get? k = some r' ∧ r'.state = r.state) ∧
      (r.state = .cancellationResolving → ∀ e rest, post = e :: rest →
        ∃ r', (step P a e).doc.engagements.get? k = some r' ∧
          (r'.state = .cancellationResolving ∨ r'.state = .cancelled ∨ r'.state = .settled ∨ r'.state = .unpaid ∨
            r'.state = .ambiguous)) := by
  intro a k r hk
  obtain ⟨-, kept⟩ := along_append.1 kept
  have hwf : WF P a.doc := reachable_wf ⟨ownerID, agentID, authorityID, limits, pre, rfl⟩
  refine ⟨fun hs => run_closed hwf kept hk (by rcases hs with hs | hs <;> rw [hs] <;> rfl), ?_⟩
  rintro hs e rest rfl
  obtain ⟨r', hk', hcloses⟩ := step_closes hwf kept.1 hk (by rw [hs]; rfl)
  refine ⟨r', hk', ?_⟩
  rcases hcloses with hsame | ⟨-, allowed⟩
  · exact .inl (hsame.trans hs)
  · rw [hs] at allowed
    simp only [allowedEngagementTransition, Bool.or_eq_true, beq_iff_eq] at allowed
    tauto

open Sample in
/-- A signed relay that is withdrawn and, after the resolution, cancelled; releasing its hold keeps it so. -/
theorem released_run_stays_closed :
    let pre := releasedRun.take 6
    let post := releasedRun.drop 6
    let a := exec (step protocol) Sample.authority pre
    Along (step protocol) (fun a e => Obeys protocol keepsClosed a e = true) Sample.authority
        (pre ++ post) ∧
      (a.doc.engagements.get? relayDigest).map (·.state) = some .cancelled ∧
      ∀ r, a.doc.engagements.get? relayDigest = some r → r.state = .cancelled ∨ r.state = .failed →
        ∃ r', (exec (step protocol) a post).doc.engagements.get? relayDigest = some r' ∧
          r'.state = r.state :=
  have kept : Along (step protocol) (fun a e => Obeys protocol keepsClosed a e = true)
      (PersonalAuthority.fresh "owner" "alice" "authority" limits)
      (releasedRun.take 6 ++ releasedRun.drop 6) := by decide +kernel
  ⟨kept, by decide +kernel, fun r hk hs => (closed_stays_closed kept relayDigest r hk).1 hs⟩

namespace Sample

def message (t : Int) (event : ClaimedAgreementEvent) : Event := { host := host t, request := .message acceptAll event }

/-- `bob` proposes the relay agreement, withdraws it, and delivers under it, by messages only. -/
def proposal : Event := message 101 ⟨"event-1", "bob", "propose", .propose "relay"⟩
def withdrawal : Event := message 102 ⟨"event-2", "bob", "withdraw", .withdraw relayDigest "propose"⟩
def deliveryNotice : Event := message 103 ⟨"event-3", "bob", "deliver", .delivery relayDigest "deliver" manifestDigest⟩

end Sample

open Sample in
/-- A delivery message reopens the agreement its sender proposed and withdrew. -/
theorem delivery_reopens_cancelled :
    let a := exec (step protocol) authority [proposal, withdrawal]
    (a.doc.engagements.get? relayDigest).map (·.state) = some .cancelled ∧
      ((step protocol a deliveryNotice).doc.engagements.get? relayDigest).map (·.state) =
        some .delivered := by
  decide +kernel

/-! ## Full authorization -/

def EngagementState.unstarted : EngagementState → Bool
  | .proposed | .authorizing | .cancellationResolving | .cancelled | .failed => true
  | _ => false

def Unstarted (r : EngagementRecord) : Prop := r.fullyAuthorizedEvidenceSetDigest = "" → r.state.unstarted = true

def unauthorized (r : EngagementRecord) : Bool := r.fullyAuthorizedEvidenceSetDigest == ""

/-- The call does not advance an engagement without full authorization: no projection or completion of
one, and no transition that ends its cancellation in a settlement. -/
def awaitsAuthorization (d : AuthorityDocument) (c : Call) : Bool :=
  match c with
  | .transitionEngagement k _ next _ _ =>
    !engagementIs d k unauthorized || (next != .settled && next != .unpaid && next != .ambiguous)
  | .completeNoPaymentEngagement k _ => !engagementIs d k unauthorized
  | c => match c.projectsOnto d with
    | some k => !engagementIs d k unauthorized
    | none => true

theorem awaits_projects (hk : d.engagements.get? k = some r)
    (hr : unauthorized r = true) (honto : c.projectsOnto d = some k) : awaitsAuthorization d c = false := by
  unfold awaitsAuthorization
  split
  · cases honto
  · cases honto
  · rw [honto]
    simp only [engagementIs_of hk hr, Bool.not_true]

/-- A transition out of an unstarted state that is not ruled out leads to one. -/
theorem allowedEngagementTransition_unstarted {s t : EngagementState} (hs : s.unstarted = true)
    (allowed : allowedEngagementTransition s t = true)
    (ht : t ≠ .settled ∧ t ≠ .unpaid ∧ t ≠ .ambiguous) : t.unstarted = true := by
  cases s with
  | cancellationResolving =>
    simp only [allowedEngagementTransition, Bool.or_eq_true, beq_iff_eq] at allowed
    rcases allowed with ((rfl | rfl) | rfl) | rfl
    · rfl
    · exact absurd rfl ht.1
    · exact absurd rfl ht.2.1
    · exact absurd rfl ht.2.2
  | proposed | authorizing | cancelled | failed => cases allowed
  | _ => cases hs

theorem StateMove.unstarted (he : d.engagements.get? k = some r)
    (hm : StateMove P h d k r r' c) (hg : awaitsAuthorization d c = true) (hr : Unstarted r)
    (hmarker : r'.fullyAuthorizedEvidenceSetDigest = r.fullyAuthorizedEvidenceSetDigest)
    (hquiet : ∀ e v, c ≠ .recordAgreementEvidence k e v) : Unstarted r' := by
  intro hnone
  rw [hmarker] at hnone
  have hs := hr hnone
  have his : engagementIs d k unauthorized = true := engagementIs_of he (by rw [unauthorized, hnone]; rfl)
  cases hm with
  | withdraw _ state =>
    rw [state]
    split <;> rfl
  | evidence => exact absurd rfl (hquiet _ _)
  | reserve _ _ state =>
    rw [state]
    split
    · rename_i hagreed
      rw [hagreed] at hs
      cases hs
    · rfl
  | cancel _ state => rw [state]; rfl
  | bindInput state | bindChallenge state => rw [state]; exact hs
  | move allowed state =>
    simp only [awaitsAuthorization, his, Bool.not_true, Bool.false_or, Bool.and_eq_true, bne_iff_ne] at hg
    rw [state]
    exact allowedEngagementTransition_unstarted hs allowed ⟨hg.1.1, hg.1.2, hg.2⟩
  | complete => simp only [awaitsAuthorization, his, Bool.not_true] at hg; cases hg
  | project onto => rw [awaits_projects he (by rw [unauthorized, hnone]; rfl) onto] at hg; cases hg

theorem Updates.unstarted (hset : CanonicalSets P)
    (he : d.engagements.get? k = some r) (hu : Updates P h d d' k r c r') (hg : awaitsAuthorization d c = true)
    (hr : Unstarted r) : Unstarted r' := by
  have hmove := hu.stateMove he
  by_cases hevidence : ∃ e v, c = .recordAgreementEvidence k e v
  · obtain ⟨e, v, rfl⟩ := hevidence
    intro hnone
    cases hu with
    | @recordEvidence _ _ state marker _ _ _ _ _ earned =>
      rcases authorizationResult_ok earned with ⟨rfl, -⟩ | ⟨-, hdigest, -⟩
      · rfl
      · -- A full set has a digest, and no digest is empty.
        simp only [retainedAgreementAuthorizationSetDigest, peel] at hdigest
        have hcanonical := hset _ _ _ hdigest.2
        rw [show marker = "" from hnone] at hcanonical
        cases hcanonical
  · refine hmove.unstarted he hg hr ?_ fun e v hc => hevidence ⟨e, v, hc⟩
    rcases hu.keeps he with hk | ⟨e, v, _, _, rfl, rfl⟩ | ⟨_, _, _, _, _, rfl, rfl⟩
    · exact hk.marker
    · exact absurd ⟨e, v, rfl⟩ hevidence
    · rfl

theorem Writes.unstarted (hset : CanonicalSets P) (hwf : WF P d) (hw : Writes P h d c d')
    (hg : awaitsAuthorization d c = true) (hI : ∀ {k r}, d.engagements.get? k = some r → Unstarted r)
    (hk : d'.engagements.get? k = some r') : Unstarted r' := by
  cases (hw.engagements hwf).recordAfter hk with
  | same found => exact hI found
  | flagged found _ _ marked => subst marked; exact (hI found :)
  | proposed _ _ _ _ _ _ _ new => subst new; exact fun _ => rfl
  | updated found updates => exact updates.unstarted hset found hg (hI found)

theorem Lapses.unstarted {key : String} (hwf : WF P d)
    (hl : Lapses nowUnix key issued d d') (hI : ∀ {k r}, d.engagements.get? k = some r → Unstarted r)
    (hk : d'.engagements.get? k = some r') : Unstarted r' := by
  rcases hl.record hwf hk with found | ⟨r, found, rfl, -⟩
  · exact hI found
  · intro hnone
    have hs := hI found hnone
    rw [lapsedRecord_state fun hsettling => by rw [hsettling] at hs; cases hs]
    exact hs

theorem step_unstarted (hset : CanonicalSets P) {e : Event} (hwf : WF P a.doc)
    (hI : ∀ {k r}, a.doc.engagements.get? k = some r → Unstarted r) (hg : Obeys P awaitsAuthorization a e = true)
    (hk : (step P a e).doc.engagements.get? k = some r) : Unstarted r := by
  refine step_keeps (I := fun d => ∀ {k r}, d.engagements.get? k = some r → Unstarted r) hwf hI
    (fun hd hId ⟨_, _, _, _, _, lapse⟩ => lapse.unstarted hd hId) ?_ hk
  intro c d hc hidle hd hId hw
  exact hw.unstarted hset hd (Obeys.carry hg hc hidle fun hx => by cases c <;> first | rfl | cases hx) hId

/-- In a run that advances no unauthorized engagement, an engagement without the marker of full
authorization is proposed, authorizing, or on its way out. -/
theorem unauthorized_unstarted (hset : CanonicalSets P) {ownerID agentID authorityID : String}
    {limits : PortfolioLimits} {es : List Event}
    (awaited : Along (step P) (fun a e => Obeys P awaitsAuthorization a e = true)
      (PersonalAuthority.fresh ownerID agentID authorityID limits) es) :
    let d := (exec (step P) (PersonalAuthority.fresh ownerID agentID authorityID limits) es).doc
    ∀ k r, d.engagements.get? k = some r → r.fullyAuthorizedEvidenceSetDigest = "" →
      r.state = .proposed ∨ r.state = .authorizing ∨ r.state = .cancellationResolving ∨ r.state = .cancelled ∨
        r.state = .failed := by
  intro d k r hk hnone
  have hI : ∀ {k r}, d.engagements.get? k = some r → Unstarted r :=
    run_invariant (I := fun d => ∀ {k r}, d.engagements.get? k = some r → Unstarted r)
      Map.of_empty
      (fun _ _ hwf hI hg => step_unstarted hset hwf hI hg) awaited
  have hs := hI hk hnone
  cases hstate : r.state with
  | proposed | authorizing | cancellationResolving | cancelled | failed => simp
  | _ => rw [hstate] at hs; cases hs

open Sample in
/-- A relay agreement with one signature of two, then withdrawn and cancelled, never has the marker. -/
theorem released_run_unstarted :
    let a := exec (step protocol) Sample.authority releasedRun
    Along (step protocol) (fun a e => Obeys protocol awaitsAuthorization a e = true) Sample.authority
        releasedRun ∧
      (a.doc.engagements.get? relayDigest).map (·.fullyAuthorizedEvidenceSetDigest) = some "" ∧
      ∀ k r, a.doc.engagements.get? k = some r → r.fullyAuthorizedEvidenceSetDigest = "" →
        r.state = .proposed ∨ r.state = .authorizing ∨ r.state = .cancellationResolving ∨ r.state = .cancelled ∨
          r.state = .failed :=
  have awaited : Along (step protocol) (fun a e => Obeys protocol awaitsAuthorization a e = true)
      (PersonalAuthority.fresh "owner" "alice" "authority" limits) releasedRun := by decide +kernel
  ⟨awaited, by decide +kernel, unauthorized_unstarted sample_canonicalSets awaited⟩

open Sample in
/-- A counterparty that only proposed an agreement drives it to `Delivered` with a delivery message. -/
theorem delivery_without_authorization :
    let a := exec (step protocol) authority [proposal, deliveryNotice]
    (a.doc.engagements.get? relayDigest).map (fun r => (r.fullyAuthorizedEvidenceSetDigest, r.state)) =
      some ("", .delivered) := by
  decide +kernel

end OpenFox.Authority
