/-
The indexes of a document are kept by every change, so every reachable document has them, and on
such documents a restart changes nothing but what expiry changes. From here on invariants of
reachable documents are two small goals: one lapsing bearer and one write.
-/
import OpenFox.Authority.Aspects

namespace OpenFox.Authority

open OpenFox.Go OpenFox.Commerce OpenFox.Base

variable {P : Protocol} {h : Host} {d d' : AuthorityDocument} {c : Call}

/-! ## Records through an update -/

variable {a : PersonalAuthority} {issued : IssuedCustodyPayment} {k : String} {I : AuthorityDocument → Prop}
  {r' : EngagementRecord} {nowUnix : UInt64} {e : Event} {G : AuthorityDocument → Call → Bool}

theorem Updates.keeps {r : EngagementRecord} (he : d.engagements.get? k = some r) (hu : Updates P h d d' k r c r') :
    Keeps r r' ∨
    (∃ evidence verifier state marker, c = .recordAgreementEvidence k evidence verifier ∧
        r' = EngagementRecord.touch { r with
          agreement := withEvidence h r.agreement evidence, state := state
          fullyAuthorizedEvidenceSetDigest := marker } (h.clock 1).unixU64) ∨
    (∃ action fields request fence reserve, c = .reserveEngagement action fields request fence reserve ∧
        r' = reservedRecord r action reserve.reservation.reservationID (h.clock 2).unixU64) := by
  cases hu with
  | withdraw | cancelUnsigned => exact .inl (keeps_state _ _ _)
  | deliver => exact .inl (delivered_projects h _ _ _ _ _ _).keeps
  | recordEvidence => exact .inr (.inl ⟨_, _, _, _, rfl, rfl⟩)
  | reserve => exact .inr (.inr ⟨_, _, _, _, _, rfl, rfl⟩)
  | bindInput | bindChallenge => exact .inl ⟨rfl, rfl, rfl, rfl, rfl, rfl, fun _ hid => hid⟩
  | moveEngagement => exact .inl (keeps_moved _ _ _ _ _)
  | moveObligation => exact .inl (obligationMoved_projects h _ _ _ _ _ _ _ _).keeps
  | complete => exact .inl (keeps_completed _ _ _)
  | bill => exact .inl (settling_projects h _ _ _).keeps
  | pay _ own paid =>
    have hk := (paid_projects h paid).keeps
    rw [Map.getD_of_get? (show (paymentDocument d _ _ _ _ _).engagements.get? _ = some r by rw [own]; exact he)] at hk
    exact .inl hk
  | overdue _ own same late =>
    have hk := (overdue_projects h late).keeps
    rw [Map.getD_of_get? (by rw [same, own]; exact he)] at hk
    exact .inl hk

/-- What no update changes: the body, its digest, the negotiation mark and the tombstone; runtimes
are only added. -/
structure Continues (r r' : EngagementRecord) : Prop where
  body : r'.body = r.body
  digest : r'.agreementDigest = r.agreementDigest
  ambiguous : r'.negotiationAmbiguous = r.negotiationAmbiguous
  tombstone : r'.expiredCustodyAuthorization = r.expiredCustodyAuthorization
  runtime : ∀ id, r.obligationRuntime.has id = true → r'.obligationRuntime.has id = true

theorem Updates.continues {r : EngagementRecord} (he : d.engagements.get? k = some r) (hu : Updates P h d d' k r c r') :
    Continues r r' := by
  rcases hu.keeps he with hk | ⟨_, _, _, _, -, rfl⟩ | ⟨_, _, _, _, _, -, rfl⟩
  · exact ⟨congrArg AgentAgreement.body hk.agreement, hk.digest, hk.ambiguous, hk.tombstone, hk.runtime⟩
  · exact ⟨rfl, rfl, rfl, rfl, fun _ hid => hid⟩
  · exact ⟨rfl, rfl, rfl, rfl, fun _ hid => hid⟩

theorem Continues.ready {r : EngagementRecord} (hc : Continues r r') (hr : r.Ready) : r'.Ready := by
  intro o ho
  rw [hc.body] at ho
  exact hc.runtime _ (hr o ho)

/-! ## The record under one key -/

/-- Where the record `r'` under `k` comes from, after a write. -/
inductive RecordAfter (P : Protocol) (h : Host) (d d' : AuthorityDocument) (c : Call) (k : String)
    (r' : EngagementRecord) : Prop
  | same (found : d.engagements.get? k = some r')
  | flagged {r body proposer event action code digests} (found : d.engagements.get? k = some r)
    (proposal : c = .recordAgreementProposal body proposer event action)
    (lineage : r.body.agreementID = body.agreementID) (marked : r' = r.flagConflict code digests)
  | proposed {body proposer event action} (absent : d.engagements.get? k = none)
    (proposal : c = .recordAgreementProposal body proposer event action)
    (valid : P.validateAgreementBody body = .ok ()) (bound : P.agreementBodyDigest body = .ok k)
    (single : forkedSibling h d body k = none)
    (clear : d.engagements.any (fun _ record =>
      record.body.agreementID == body.agreementID && record.negotiationAmbiguous) = false)
    (succeeds : validatePredecessor P d body = .ok ())
    (new : r' = newEngagement body k proposer event action (h.clock 1))
  | updated {r} (found : d.engagements.get? k = some r) (updates : Updates P h d d' k r c r')

theorem EngagementMove.recordAfter (hm : EngagementMove P h d d' c) (hk : d'.engagements.get? k = some r') :
    RecordAfter P h d d' c k r' := by
  cases hm with
  | keep engagements => rw [engagements] at hk; exact .same hk
  | flag proposal engagements =>
    rw [engagements, flagLineage, Map.get?_mapVal, Option.map_eq_some_iff] at hk
    obtain ⟨r, hr, hr'⟩ := hk
    split at hr'
    · rename_i lineage
      exact .flagged hr proposal lineage hr'.symm
    · subst hr'; exact .same hr
  | add proposal valid bound absent single clear succeeds engagements =>
    obtain ⟨rfl, hnew⟩ | hk := Map.put_cases (engagements ▸ hk)
    · exact .proposed absent proposal valid bound single clear succeeds hnew.symm
    · exact .same hk
  | update found updates engagements =>
    obtain ⟨rfl, rfl⟩ | hk := Map.put_cases (engagements ▸ hk)
    · exact .updated found updates
    · exact .same hk

theorem EngagementMove.persists (hm : EngagementMove P h d d' c) {r : EngagementRecord}
    (hk : d.engagements.get? k = some r) : ∃ r', d'.engagements.get? k = some r' := by
  cases hm with
  | keep engagements => rw [engagements]; exact ⟨r, hk⟩
  | flag proposal engagements =>
    rw [engagements, flagLineage, Map.get?_mapVal, hk]
    exact ⟨_, rfl⟩
  | add _ _ _ _ _ _ _ engagements | update _ _ engagements =>
    rw [engagements, Map.get?_put]
    split
    · exact ⟨_, rfl⟩
    · exact ⟨r, hk⟩

theorem EngagementMove.recordFrom {r : EngagementRecord} (hm : EngagementMove P h d d' c)
    (hk : d.engagements.get? k = some r) (hk' : d'.engagements.get? k = some r') :
    r' = r ∨ (∃ code digests, r' = r.flagConflict code digests) ∨ Updates P h d d' k r c r' := by
  cases hm.recordAfter hk' with
  | same found => exact .inl (Option.some.inj (found.symm.trans hk))
  | flagged found _ _ marked => cases found.symm.trans hk; exact .inr (.inl ⟨_, _, marked⟩)
  | proposed absent => cases absent.symm.trans hk
  | updated found updates => cases found.symm.trans hk; exact .inr (.inr updates)

/-! ## Writes keep the indexes -/

theorem admitReservation_id {order : RangeOrder} {r : ExposureReservation}
    (hr : admitReservation P order d r = .ok ()) :
    r.reservationID ≠ "" ∧ r.agreementDigest ≠ "" ∧ r.released = false := by
  simp only [admitReservation, peel, not_or, Bool.not_eq_true] at hr
  exact hr.1

theorem PortfolioMove.keyed (hm : PortfolioMove P d d')
    (hk : ∀ {k r}, d.reservations.get? k = some r → r.reservationID = k ∧ k ≠ "")
    {r : ExposureReservation} (hr : d'.reservations.get? k = some r) : r.reservationID = k ∧ k ≠ "" := by
  have hfree : ∀ {k₀ r₀}, d.reservations.get? k₀ = some r₀ →
      d'.reservations = d.reservations.put k₀ { r₀ with released := true } → r.reservationID = k ∧ k ≠ "" := by
    intro k₀ r₀ found heq
    exact Map.forall_put (v := { r₀ with released := true }) hk (hk found :) (heq ▸ hr)
  cases hm with
  | keep reservations => rw [reservations] at hr; exact hk hr
  | hold fits reservations =>
    exact Map.forall_put hk ⟨rfl, (admitReservation_id fits).1⟩ (reservations ▸ hr)
  | free found _ reservations | dispose found _ _ _ reservations => exact hfree found reservations

theorem RelayReady.of_eq (hr : RelayReady d) (hnext : d'.nextRelayAdmissionSequence = d.nextRelayAdmissionSequence)
    (hbindings : d'.relayAdmissionBindings = d.relayAdmissionBindings)
    (hreceipts : d'.relayAdmissions = d.relayAdmissions) : RelayReady d' :=
  ⟨hnext ▸ hr.numbered, hbindings ▸ hreceipts ▸ hr.bound⟩

theorem Writes.relayReady (hw : Writes P h d c d') (hr : RelayReady d) : RelayReady d' := by
  cases hw with
  | admitRelaySideEffects _ _ _ _ _ _ _ _ _ _ numbered =>
    refine ⟨fun hz => numbered.2 ?_, fun hempty => ?_⟩
    · grind
    · simp [Map.put, AList.insert] at hempty
  | releaseReservation =>
    exact hr.of_eq (disposeLoss_proj (·.nextRelayAdmissionSequence)) (disposeLoss_proj (·.relayAdmissionBindings))
      (disposeLoss_proj (·.relayAdmissions))
  | pay =>
    exact hr.of_eq (storeRecord_proj (·.nextRelayAdmissionSequence)) (storeRecord_proj (·.relayAdmissionBindings))
      (storeRecord_proj (·.relayAdmissions))
  | settle _ _ _ _ _ _ _ only =>
    subst only
    exact hr.of_eq (storeRecord_proj (·.nextRelayAdmissionSequence)) (storeRecord_proj (·.relayAdmissionBindings))
      (storeRecord_proj (·.relayAdmissions))
  | _ => exact hr.of_eq rfl rfl rfl

theorem Writes.wf (hwf : WF P d) (hw : Writes P h d c d') : WF P d' := by
  have hm := hw.engagements hwf
  refine ⟨fun hk => ?_, fun hk => ?_, (hw.portfolio hwf).keyed hwf.reservation, fun {k l} hl =>
    ?_, hw.relayReady hwf.relay⟩
  · cases hm.recordAfter hk with
    | same found => exact hwf.engagement found
    | flagged found _ _ marked => subst marked; exact (hwf.engagement found :)
    | proposed _ _ valid bound _ _ _ new => subst new; exact ⟨rfl, bound, valid⟩
    | updated found updates =>
      have hc := updates.continues found
      rw [hc.digest, hc.body]
      exact hwf.engagement found
  · cases hm.recordAfter hk with
    | same found => exact hwf.ready found
    | flagged found _ _ marked => subst marked; exact (hwf.ready found :)
    | proposed _ _ _ _ _ _ _ new => subst new; exact initialize_ready _
    | updated found updates => exact (updates.continues found).ready (hwf.ready found)
  · have hpersist : ∀ {digest}, (d.engagements.get? digest).isSome = true →
        (d'.engagements.get? digest).isSome = true := by
      intro digest hs
      obtain ⟨r, hr⟩ := Option.isSome_iff_exists.1 hs
      exact Option.isSome_iff_exists.2 (hm.persists hr)
    cases hw.ledger with
    | keep ledger =>
      rw [ledger] at hl
      exact ⟨(hwf.ledger hl).1, hpersist (hwf.ledger hl).2⟩
    | add _ billed ledger =>
      obtain ⟨rfl, rfl⟩ | hl := Map.put_cases (ledger ▸ hl)
      · exact ⟨rfl, hpersist billed⟩
      · exact ⟨(hwf.ledger hl).1, hpersist (hwf.ledger hl).2⟩
    | change found _ ledger =>
      obtain ⟨rfl, rfl⟩ | hl := Map.put_cases (ledger ▸ hl)
      · exact ⟨(hwf.ledger found).1, hpersist (hwf.ledger found).2⟩
      · exact ⟨(hwf.ledger hl).1, hpersist (hwf.ledger hl).2⟩

/-! ## Expiry and restarts keep the indexes -/

theorem Lapses.portfolio (hwf : WF P d) (hl : Lapses nowUnix k issued d d') : PortfolioMove P d d' := by
  cases hl with
  | sponsorship _ hold live | agreement _ hold live =>
    refine .free hold live ?_ ⟨rfl, rfl, rfl, rfl, rfl⟩
    rw [← (hwf.reservation hold).1]; rfl

theorem Lapses.record (hwf : WF P d) (hl : Lapses nowUnix k issued d d') {key : String}
    (hk : d'.engagements.get? key = some r') :
    d.engagements.get? key = some r' ∨
      ∃ r, d.engagements.get? key = some r ∧ r' = lapsedRecord r nowUnix issued ∧
        issued.payment.agreementBodyDigest = key ∧ r.reservationID = issued.reservationID ∧
        issued.sponsorshipAdmissionID = "" ∧ r.state.mayExpire = true := by
  cases hl with
  | sponsorship => exact .inl hk
  | agreement direct _ _ found own _ ended =>
    simp only [(hwf.engagement found).1] at hk
    obtain ⟨rfl, rfl⟩ | hk := Map.put_cases hk
    · exact .inr ⟨_, found, rfl, rfl, own, direct, ended⟩
    · exact .inl hk

section
variable (hl : Lapses nowUnix k issued d d')
include hl

theorem Lapses.follows (hwf : WF P d) {key : String} {r : EngagementRecord} (hk : d.engagements.get? key = some r) :
    d'.engagements.get? key = some r ∨ d'.engagements.get? key = some (lapsedRecord r nowUnix issued) ∧
      r.expiredCustodyAuthorization = none ∧ r.state.mayExpire = true := by
  cases hl with
  | sponsorship => exact .inl hk
  | agreement _ _ _ found _ first ended =>
    simp only [(hwf.engagement found).1, Map.get?_put]
    split
    · rename_i hkey
      cases found.symm.trans (hkey ▸ hk)
      exact .inr ⟨rfl, first, ended⟩
    · exact .inl hk

theorem Lapses.persists (hwf : WF P d) {key : String} {r : EngagementRecord}
    (hk : d.engagements.get? key = some r) : ∃ r', d'.engagements.get? key = some r' :=
  (hl.follows hwf hk).elim (fun h => ⟨r, h⟩) fun h => ⟨_, h.1⟩

theorem Lapses.ledger : d'.settlementLedger = d.settlementLedger := by
  cases hl <;> rfl

theorem Lapses.owner : d'.ownerID = d.ownerID ∧ d'.agentID = d.agentID ∧ d'.authorityID = d.authorityID := by
  cases hl <;> exact ⟨rfl, rfl, rfl⟩

end

theorem Lapses.wf (hwf : WF P d) (hl : Lapses nowUnix k issued d d') : WF P d' := by
  refine ⟨fun hk => ?_, fun hk => ?_, (hl.portfolio hwf).keyed hwf.reservation, fun hk => ?_,
    by cases hl <;> exact hwf.relay.of_eq rfl rfl rfl⟩
  · rcases hl.record hwf hk with found | ⟨r, found, rfl, -⟩
    · exact hwf.engagement found
    · exact (hwf.engagement found :)
  · rcases hl.record hwf hk with found | ⟨r, found, rfl, -⟩
    · exact hwf.ready found
    · exact (hwf.ready found :)
  · rw [hl.ledger] at hk
    obtain ⟨r, hr⟩ := Option.isSome_iff_exists.1 (hwf.ledger hk).2
    exact ⟨(hwf.ledger hk).1, Option.isSome_iff_exists.2 (hl.persists hwf hr)⟩

theorem Expiry.wf {now : Time} (hwf : WF P d) (he : Expiry now d d') : WF P d' := by
  obtain ⟨-, _, _, -, -, hl⟩ := he
  exact hl.wf hwf

theorem migrated_eq_self (hwf : WF P d) : migrated d = d := by
  have hmap : d.engagements.mapVal (fun _ record => initializeObligationRuntime record) = d.engagements :=
    Map.mapVal_eq_self fun e he => initialize_eq_self (hwf.ready (Map.mem_entries.1 he))
  unfold migrated
  rw [hmap]

theorem expiries_wf {now : Time} (hwf : WF P d) (he : Relation.ReflTransGen (Expiry now) d d') : WF P d' := by
  induction he with
  | refl => exact hwf
  | tail _ hlast ih => exact hlast.wf ih

/-! ## Steps of a well-formed authority -/

/-- What one event does to a well-formed document: due bearers lapse, if it expires them, and its
call, if it accepts, writes. -/
theorem step_cases (hwf : WF P a.doc) (e : Event) :
    ∃ d, Relation.ReflTransGen (Expiry (e.host.clock 0)) a.doc d ∧ (e.expires P a.doc = false → d = a.doc) ∧
    ((step P a e).doc = d ∨ ∃ c, e.call? P a.doc = .ok (some c) ∧ Writes P e.host d c (step P a e).doc) := by
  obtain ⟨d₀, d₁, hd₀, hsteps, hwrite⟩ := step_doc a hwf.relay e
  rw [migrated_eq_self hwf, or_self] at hd₀
  subst hd₀
  exact ⟨d₁, hsteps, hwrite⟩

theorem step_wf (a : PersonalAuthority) (e : Event) (hwf : WF P a.doc) : WF P (step P a e).doc := by
  obtain ⟨d, hsteps, -, hd⟩ := step_cases hwf e
  have hd' := expiries_wf hwf hsteps
  rcases hd with hd | ⟨c, -, hw⟩
  · rw [hd]; exact hd'
  · exact hw.wf hd'

theorem fresh_wf (ownerID agentID authorityID : String) (limits : PortfolioLimits) :
    WF P (AuthorityDocument.fresh ownerID agentID authorityID limits) :=
  ⟨Map.of_empty, Map.of_empty, Map.of_empty, Map.of_empty, ⟨(by decide : (1 : UInt64) ≠ 0), fun _ => rfl⟩⟩

/-! ## Invariants -/

/-- The rule for one event: what every lapse keeps, and every write turns into `I`, gives `I`. -/
theorem step_induct {J : AuthorityDocument → Prop} (hwf : WF P a.doc)
    (hJ : J a.doc) (lapse : ∀ {d d'}, e.expires P a.doc = true → WF P d → J d → Expiry (e.host.clock 0) d d' → J d')
    (rest : ∀ {d}, J d → I d)
    (write : ∀ {c d}, e.call? P a.doc = .ok (some c) → (e.expires P a.doc = false → d = a.doc) →
      WF P d → J d → Writes P e.host d c (step P a e).doc → I (step P a e).doc) : I (step P a e).doc := by
  obtain ⟨d, hsteps, hidle, hd⟩ := step_cases hwf e
  have hboth : WF P d ∧ J d := by
    cases hx : e.expires P a.doc with
    | false => rw [hidle hx]; exact ⟨hwf, hJ⟩
    | true =>
      clear hd hidle
      induction hsteps with
      | refl => exact ⟨hwf, hJ⟩
      | tail _ hlast ih => exact ⟨hlast.wf ih.1, lapse hx ih.1 ih.2 hlast⟩
  rcases hd with hd | ⟨c, hc, hw⟩
  · rw [hd]; exact rest hboth.2
  · exact write hc hidle hboth.1 hboth.2 hw

/-- What every lapse keeps and the write of an event keeps is kept by the event. -/
theorem step_keeps (hwf : WF P a.doc) (hI : I a.doc)
    (lapse : ∀ {d d'}, WF P d → I d → Expiry (e.host.clock 0) d d' → I d')
    (write : ∀ {c d}, e.call? P a.doc = .ok (some c) → (e.expires P a.doc = false → d = a.doc) →
      WF P d → I d → Writes P e.host d c (step P a e).doc → I (step P a e).doc) : I (step P a e).doc :=
  step_induct hwf hI (fun _ hd hI he => lapse hd hI he) id write

/-- An event whose call, if it is one, satisfies `G` on the document it finds. -/
def Obeys (P : Protocol) (G : AuthorityDocument → Call → Bool) (a : PersonalAuthority) (e : Event) : Bool :=
  match e.call? P a.doc with
  | .ok (some c) => G a.doc c
  | _ => true

theorem Event.expires_call (hc : e.call? P d = .ok (some c)) : e.expires P d = (c.operation P e.host).expires := by
  rcases e with ⟨host, request⟩
  cases request with
  | reopen limits => cases hc
  | call c' | message verifier event => simp only [Event.expires, hc]

theorem Obeys.call (he : Obeys P G a e = true) (hc : e.call? P a.doc = .ok (some c)) : G a.doc c = true := by
  rw [Obeys, hc] at he
  exact he

/-- A guard that restricts no call that expires bearers holds on the document the call writes to. -/
theorem Obeys.carry (he : Obeys P G a e = true) (hc : e.call? P a.doc = .ok (some c))
    (hidle : e.expires P a.doc = false → d = a.doc)
    (hfree : (c.operation P e.host).expires = true → G d c = true) : G d c = true := by
  cases hx : e.expires P a.doc with
  | false => rw [hidle hx]; exact Obeys.call he hc
  | true => exact hfree (by rw [← Event.expires_call hc]; exact hx)

theorem step_limits (hwf : WF P a.doc) (e : Event) : (step P a e).doc.limits = a.doc.limits :=
  step_keeps (I := fun d => d.limits = a.doc.limits) hwf rfl
    (fun hd hl ⟨_, _, _, _, _, lapse⟩ => (lapse.portfolio hd).limits.trans hl)
    (fun _ _ hd hl hw => (hw.portfolio hd).limits.trans hl)

/-- An invariant of every run whose steps satisfy `G`. -/
theorem run_invariant {G : PersonalAuthority → Event → Prop}
    {ownerID agentID authorityID : String} {limits : PortfolioLimits} {es : List Event}
    (fresh : I (AuthorityDocument.fresh ownerID agentID authorityID limits))
    (keep : ∀ a e, WF P a.doc → I a.doc → G a e → I (step P a e).doc)
    (hg : Along (step P) G (PersonalAuthority.fresh ownerID agentID authorityID limits) es) :
    I (exec (step P) (PersonalAuthority.fresh ownerID agentID authorityID limits) es).doc :=
  (invariant_along (I := fun a => WF P a.doc ∧ I a.doc)
    (fun a e ha hGe => ⟨step_wf a e ha.1, keep a e ha.1 ha.2 hGe⟩) ⟨fresh_wf _ _ _ _, fresh⟩ hg).2

/-- An invariant of every reachable document: kept by one lapsing bearer and by one write. -/
theorem reachable_invariant
    (fresh : ∀ ownerID agentID authorityID limits, I (AuthorityDocument.fresh ownerID agentID authorityID limits))
    (lapse : ∀ {now d d'}, WF P d → I d → Expiry now d d' → I d')
    (write : ∀ {h c d d'}, WF P d → I d → Writes P h d c d' → I d') (ha : Reachable P a) : I a.doc := by
  obtain ⟨ownerID, agentID, authorityID, limits, es, rfl⟩ := ha
  exact run_invariant (fresh _ _ _ _) (fun a e hwf hI _ => step_keeps hwf hI lapse fun _ _ hd hId hw => write hd hId hw)
    (along_true (step P) es _)

theorem reachable_wf (ha : Reachable P a) : WF P a.doc :=
  reachable_invariant fresh_wf (fun _ hwf he => he.wf hwf) (fun _ hwf hw => hw.wf hwf) ha

/-- A relation between the documents around one lapsing bearer and around one write relates the ends of every run. -/
theorem run_related {R : AuthorityDocument → AuthorityDocument → Prop} (refl : ∀ d, R d d)
    (trans : ∀ {d₁ d₂ d₃}, R d₁ d₂ → R d₂ d₃ → R d₁ d₃) (lapse : ∀ {now d d'}, WF P d → Expiry now d d' → R d d')
    (write : ∀ {h c d d'}, WF P d → Writes P h d c d' → R d d') (hwf : WF P a.doc) (es : List Event) :
    R a.doc (exec (step P) a es).doc := by
  refine (invariant (I := fun b => WF P b.doc ∧ R a.doc b.doc) (fun b e hb => ⟨step_wf b e hb.1, ?_⟩) es
    ⟨hwf, refl _⟩).2
  exact step_keeps hb.1 hb.2 (fun hd hr he => trans hr (lapse hd he)) fun _ _ hd hr hw => trans hr (write hd hw)

end OpenFox.Authority
