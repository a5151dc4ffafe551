/-
The full-authorization marker. It is written when the verifier finds every predicate of the body
covered, and read back after a restart by a check without a verifier: the retained evidence must
list every predicate exactly once and include an agent signature of the local agent.
-/
import OpenFox.Authority.States
import OpenFox.Authority.Sample

namespace OpenFox.Authority

open OpenFox.Go OpenFox.Commerce OpenFox.Base

variable {P : Protocol} {h : Host} {d d' : AuthorityDocument} {c : Call}

/-! ## Coverage -/

def evidenceMatched (r : EngagementRecord) (e : AuthorizationEvidence) : Bool :=
  (e.predicateIDs.zip e.evidenceTargetProjectionDigests).all fun q =>
    r.body.authorizationPredicates.any (predicateMatches e q.1 q.2)

def listed (l : List AuthorizationEvidence) : List String := l.flatMap (·.predicateIDs)

/-- A set of evidence the restart check can follow: bound to the record, matched, and without a
predicate listed twice. -/
structure Proper (r : EngagementRecord) (l : List AuthorizationEvidence) : Prop where
  bound : ∀ e ∈ l, evidenceBound r e = true
  matched : ∀ e ∈ l, evidenceMatched r e = true
  nodup : (listed l).Nodup

variable {r : EngagementRecord} {e : AuthorizationEvidence} {agentID : String}

theorem visitPredicates_some :
    ∀ (l : List (String × String)) c,
    (∀ q ∈ l, r.body.authorizationPredicates.any (predicateMatches e q.1 q.2) = true) →
    (l.map Prod.fst).Nodup → (l.map Prod.fst).Disjoint c.covered →
      l.foldlM (Coverage.visitPredicate P r agentID e) c =
        some { covered := (l.map Prod.fst).reverse ++ c.covered
               localAgentSignature := c.localAgentSignature || (!l.isEmpty && isAgentSignatureOf P agentID e) } := by
  intro l
  induction l with
  | nil =>
    intro c _ _ _
    simp
  | cons q l ih =>
    intro c hmatched hnodup hdisjoint
    rw [List.map_cons, List.nodup_cons] at hnodup
    rw [List.map_cons, List.disjoint_cons_left] at hdisjoint
    have hvisit : Coverage.visitPredicate P r agentID e c q =
        some { covered := q.1 :: c.covered
               localAgentSignature := c.localAgentSignature || isAgentSignatureOf P agentID e } := by
      simp [Coverage.visitPredicate, hmatched q List.mem_cons_self, hdisjoint.1]
    rw [List.foldlM_cons, hvisit]
    refine (ih _ (fun q' hq' => hmatched q' (List.mem_cons_of_mem _ hq')) hnodup.2 ?_).trans ?_
    · rw [List.disjoint_cons_right]
      exact ⟨hnodup.1, hdisjoint.2⟩
    · cases isAgentSignatureOf P agentID e <;> simp

theorem visitEvidence_some {c : Coverage}
    (hbound : evidenceBound r e = true) (hmatched : evidenceMatched r e = true) (hnodup : e.predicateIDs.Nodup)
    (hdisjoint : e.predicateIDs.Disjoint c.covered) :
    Coverage.visitEvidence P r agentID c e =
      some { covered := e.predicateIDs.reverse ++ c.covered
             localAgentSignature := c.localAgentSignature || isAgentSignatureOf P agentID e } := by
  have hparts := hbound
  simp only [evidenceBound, Bool.and_eq_true, beq_iff_eq, Bool.not_eq_true', List.isEmpty_eq_false_iff] at hparts
  have hids := List.map_fst_zip (le_of_eq hparts.2)
  have hnonempty : (e.predicateIDs.zip e.evidenceTargetProjectionDigests).isEmpty = false := by
    rw [List.isEmpty_eq_false_iff]
    intro hnil
    rw [hnil] at hids
    exact hparts.1.2 hids.symm
  rw [Coverage.visitEvidence, if_pos hbound,
    visitPredicates_some _ _ (List.all_eq_true.1 hmatched) (by rwa [hids]) (by rwa [hids]), hids, hnonempty]
  rfl

theorem coverage_some : ∀ l c, Proper r l → (listed l).Disjoint c.covered →
      ∃ c', l.foldlM (Coverage.visitEvidence P r agentID) c = some c' ∧
        c'.covered.length = c.covered.length + (listed l).length ∧
        c'.localAgentSignature = (c.localAgentSignature || l.any (isAgentSignatureOf P agentID)) := by
  intro l
  induction l with
  | nil =>
    intro c _ _
    exact ⟨c, rfl, rfl, by simp⟩
  | cons e l ih =>
    intro c hl hdisjoint
    have hcons : listed (e :: l) = e.predicateIDs ++ listed l := List.flatMap_cons
    have hnodup := hl.nodup
    rw [hcons, List.nodup_append] at hnodup
    rw [hcons, List.disjoint_append_left] at hdisjoint
    obtain ⟨c', hfold, hlength, hlocal⟩ := ih
      { covered := e.predicateIDs.reverse ++ c.covered
        localAgentSignature := c.localAgentSignature || isAgentSignatureOf P agentID e }
      ⟨fun e' he' => hl.bound e' (List.mem_cons_of_mem _ he'),
        fun e' he' => hl.matched e' (List.mem_cons_of_mem _ he'), hnodup.2.1⟩
      (by
        rw [List.disjoint_append_right]
        refine ⟨fun id hid hid' => ?_, hdisjoint.2⟩
        exact hnodup.2.2 id (List.mem_reverse.1 hid') id hid rfl)
    refine ⟨c', ?_, ?_, ?_⟩
    · rw [List.foldlM_cons, visitEvidence_some (hl.bound e List.mem_cons_self) (hl.matched e List.mem_cons_self)
        hnodup.1 hdisjoint.1]
      exact hfold
    · rw [hlength, hcons]
      simp only [List.length_append, List.length_reverse]
      omega
    · rw [hlocal, List.any_cons, Bool.or_assoc]

/-! ## What makes a marker provable -/

/-- The evidence covers the predicate: it lists it with its target, for the same subject and profile. -/
def coversPredicate (e : AuthorizationEvidence) (p : AuthorizationPredicate) : Bool :=
  (e.predicateIDs.zip e.evidenceTargetProjectionDigests).any fun q => predicateMatches e q.1 q.2 p

/-- Full authorization means that verified evidence covers every predicate of the body. -/
def CoverageDecides (P : Protocol) : Prop :=
  ∀ agreement verifier now, P.validateAgreementAuthorization agreement verifier now = .ok () ↔
    ∀ p ∈ agreement.body.authorizationPredicates, ∃ e ∈ agreement.authorizationEvidence,
      verifier e now = true ∧ coversPredicate e p = true

/-- The digest of an evidence set is a canonical SHA-256 digest. -/
def CanonicalSets (P : Protocol) : Prop :=
  ∀ body l s, P.digest "tos.openfox.agreement-authorization-evidence-set.v1" (.evidenceSet body l) = .ok s →
    canonicalSHA256 s = true

/-- The body asks the local agent for an agent signature, and no two predicates share an ID. -/
def selfAuthorized (P : Protocol) (agentID : String) (r : EngagementRecord) : Bool :=
  (r.body.authorizationPredicates.any fun p => p.evidenceProfileURI == P.evidenceProfileAgentSignature &&
      p.authoritySubject.subjectKind == "agent" && p.authoritySubject.subjectIdentifier == agentID) &&
    decide (r.body.authorizationPredicates.map (·.predicateID)).Nodup

/-- The evidence is retained already, or it is bound to the record, lists predicates of the body only,
and none that is listed already. -/
def freshEvidence (r : EngagementRecord) (e : AuthorizationEvidence) : Bool :=
  decide (e ∈ r.agreement.authorizationEvidence) ||
    evidenceBound r e && evidenceMatched r e && decide (listed (r.agreement.authorizationEvidence ++ [e])).Nodup

/-- The call records no evidence, or evidence whose set the restart check can follow. -/
def provableEvidence (P : Protocol) (d : AuthorityDocument) : Call → Bool
  | .recordAgreementEvidence k e _ =>
    (d.engagements.get? k).all fun r => selfAuthorized P d.agentID r && freshEvidence r e
  | _ => true

theorem coversPredicate_matches {p : AuthorizationPredicate} (hc : coversPredicate e p = true) :
    p.predicateID ∈ e.predicateIDs ∧ p.authoritySubject = e.authoritySubject ∧
      p.evidenceProfileURI = e.evidenceProfileURI := by
  obtain ⟨⟨id, target⟩, hmem, hmatch⟩ := List.any_eq_true.1 hc
  simp only [predicateMatches, Bool.and_eq_true, beq_iff_eq] at hmatch
  obtain ⟨⟨⟨⟨⟨hid, hsubject⟩, hprofile⟩, -⟩, -⟩, -⟩ := hmatch
  exact ⟨hid ▸ (List.of_mem_zip hmem).1, hsubject, hprofile⟩

theorem evidenceMatched_listed (hbound : evidenceBound r e = true)
    (hmatched : evidenceMatched r e = true) {id : String} (hid : id ∈ e.predicateIDs) :
    id ∈ r.body.authorizationPredicates.map (·.predicateID) := by
  simp only [evidenceBound, Bool.and_eq_true, beq_iff_eq] at hbound
  rw [← List.map_fst_zip (le_of_eq hbound.2), List.mem_map] at hid
  obtain ⟨q, hq, rfl⟩ := hid
  obtain ⟨p, hp, hmatch⟩ := List.any_eq_true.1 (List.all_eq_true.1 hmatched q hq)
  simp only [predicateMatches, Bool.and_eq_true, beq_iff_eq] at hmatch
  exact List.mem_map.2 ⟨p, hp, hmatch.1.1.1.1.1⟩

theorem Proper.fullyAuthorized {verifier : Verifier} {now : Time}
    (hP : CoverageDecides P) (hset : CanonicalSets P) (hagent : agentID ≠ "")
    (hl : Proper r r.agreement.authorizationEvidence) (hself : selfAuthorized P agentID r = true)
    (hcomplete : P.validateAgreementAuthorization r.agreement verifier now = .ok ())
    (hmarker : retainedAgreementAuthorizationSetDigest P r = .ok r.fullyAuthorizedEvidenceSetDigest) :
    retainedAgreementFullyAuthorized P r agentID = true := by
  have hcovers := (hP _ _ _).1 hcomplete
  simp only [selfAuthorized, Bool.and_eq_true, decide_eq_true_eq, List.any_eq_true, beq_iff_eq] at hself
  obtain ⟨⟨p, hp, ⟨hprofile, hkind⟩, hsubject⟩, hnodup⟩ := hself
  have hdigest := hmarker
  simp only [retainedAgreementAuthorizationSetDigest, peel, Bool.not_eq_false] at hdigest
  obtain ⟨c, hfold, hlength, hlocal⟩ := @coverage_some P r agentID _ {} hl (by simp)
  -- The local predicate is covered, and what covers it is a local signature.
  have hsigned : r.agreement.authorizationEvidence.any (isAgentSignatureOf P agentID) = true := by
    obtain ⟨e, he, -, hc⟩ := hcovers p hp
    obtain ⟨-, hs, hu⟩ := coversPredicate_matches hc
    refine List.any_eq_true.2 ⟨e, he, ?_⟩
    simp [isAgentSignatureOf, ← hs, ← hu, hprofile, hkind, hsubject]
  have hperm : (listed r.agreement.authorizationEvidence).Perm
      (r.body.authorizationPredicates.map (·.predicateID)) := by
    refine (List.perm_ext_iff_of_nodup hl.nodup hnodup).2 fun id => ⟨fun hid => ?_, fun hid => ?_⟩
    · obtain ⟨e, he, hid⟩ := List.mem_flatMap.1 hid
      exact evidenceMatched_listed (hl.bound e he) (hl.matched e he) hid
    · obtain ⟨p, hp, rfl⟩ := List.mem_map.1 hid
      obtain ⟨e, he, -, hc⟩ := hcovers p hp
      exact List.mem_flatMap.2 ⟨e, he, (coversPredicate_matches hc).1⟩
  have hcount : c.covered.length = r.body.authorizationPredicates.length := by
    rw [hlength, hperm.length_eq, List.length_map]
    exact Nat.zero_add _
  simp [retainedAgreementFullyAuthorized, hagent, hset _ _ _ hdigest.2, hdigest.1, hmarker, hfold, hlocal,
    hsigned, hcount]

/-! ## The invariant -/

/-- Retained evidence is proper, and every marker passes the restart check. -/
structure Reprovable (P : Protocol) (d : AuthorityDocument) : Prop where
  agent : d.agentID ≠ ""
  proper : ∀ {k r}, d.engagements.get? k = some r → Proper r r.agreement.authorizationEvidence
  marked : ∀ {k r}, d.engagements.get? k = some r → r.fullyAuthorizedEvidenceSetDigest ≠ "" →
    retainedAgreementFullyAuthorized P r d.agentID = true

def Provable (P : Protocol) (agentID : String) (r : EngagementRecord) : Prop :=
  Proper r r.agreement.authorizationEvidence ∧
    (r.fullyAuthorizedEvidenceSetDigest ≠ "" → retainedAgreementFullyAuthorized P r agentID = true)

theorem Provable.congr {r' : EngagementRecord} (hr : Provable P agentID r) (hagreement : r'.agreement = r.agreement)
    (hdigest : r'.agreementDigest = r.agreementDigest)
    (hmarker : r'.fullyAuthorizedEvidenceSetDigest = r.fullyAuthorizedEvidenceSetDigest) : Provable P agentID r' := by
  rcases r with ⟨⟩
  rcases r' with ⟨⟩
  cases hagreement
  cases hdigest
  cases hmarker
  exact ⟨⟨hr.1.bound, hr.1.matched, hr.1.nodup⟩, hr.2⟩

theorem Reprovable.provable (hI : Reprovable P d) {k : String} (hk : d.engagements.get? k = some r) :
    Provable P d.agentID r := ⟨hI.proper hk, hI.marked hk⟩

theorem Reprovable.of_records (hI : Reprovable P d) (hagent : d'.agentID = d.agentID)
    (hrecord : ∀ {k r}, d'.engagements.get? k = some r → Provable P d.agentID r) : Reprovable P d' := by
  rw [← hagent] at hrecord
  exact ⟨hagent ▸ hI.agent, fun hk => (hrecord hk).1, fun hk => (hrecord hk).2⟩

theorem Proper.withEvidence (hl : Proper r r.agreement.authorizationEvidence)
    (hnew : e ∉ r.agreement.authorizationEvidence)
    (hfresh : freshEvidence r e = true) : Proper r (withEvidence h r.agreement e).authorizationEvidence := by
  simp only [freshEvidence, Bool.or_eq_true, decide_eq_true_eq, Bool.and_eq_true] at hfresh
  obtain ⟨⟨hbound, hmatched⟩, hnodup⟩ := hfresh.resolve_left hnew
  have hperm := withEvidence_perm (h := h) r.agreement e
  have hcases : ∀ e' ∈ (Authority.withEvidence h r.agreement e).authorizationEvidence,
      e' ∈ r.agreement.authorizationEvidence ∨ e' = e := fun e' he' => by
    rwa [hperm.mem_iff, List.mem_append, List.mem_singleton] at he'
  refine ⟨fun e' he' => ?_, fun e' he' => ?_, ((hperm.flatMap_right _).nodup_iff).2 hnodup⟩
  · rcases hcases e' he' with hold | rfl
    · exact hl.bound e' hold
    · exact hbound
  · rcases hcases e' he' with hold | rfl
    · exact hl.matched e' hold
    · exact hmatched

theorem Updates.reprovable (hP : CoverageDecides P) (hset : CanonicalSets P) (hI : Reprovable P d)
    (hg : provableEvidence P d c = true) {k : String} {r' : EngagementRecord} (he : d.engagements.get? k = some r)
    (hu : Updates P h d d' k r c r') : Provable P d.agentID r' := by
  have hold := hI.provable he
  rcases hu.keeps he with hk | ⟨e, verifier, state, marker, rfl, rfl⟩ | ⟨_, _, _, _, _, rfl, rfl⟩
  · exact hold.congr hk.agreement hk.digest hk.marker
  · simp only [provableEvidence, he, Option.all_some, Bool.and_eq_true] at hg
    cases hu with
    | recordEvidence _ _ _ _ _ earned unseen =>
      have hproper := hold.1.withEvidence (h := h) unseen hg.2
      refine ⟨⟨hproper.bound, hproper.matched, hproper.nodup⟩, fun hne => ?_⟩
      rcases authorizationResult_ok earned with ⟨-, hnone⟩ | ⟨hcomplete, hdigest, -⟩
      · exact absurd hnone hne
      · exact Proper.fullyAuthorized hP hset hI.agent ⟨hproper.bound, hproper.matched, hproper.nodup⟩ hg.1
          hcomplete hdigest
  · exact hold.congr rfl rfl rfl

theorem Writes.reprovable (hP : CoverageDecides P) (hset : CanonicalSets P) (hwf : WF P d) (hI : Reprovable P d)
    (hw : Writes P h d c d') (hg : provableEvidence P d c = true) : Reprovable P d' := by
  refine hI.of_records hw.owner.2.1 fun hk => ?_
  cases (hw.engagements hwf).recordAfter hk with
  | same found => exact hI.provable found
  | flagged found _ _ marked =>
    subst marked
    exact (hI.provable found).congr rfl rfl rfl
  | proposed _ _ _ _ _ _ _ new =>
    subst new
    exact ⟨⟨nofun, nofun, List.nodup_nil⟩, fun hne => absurd rfl hne⟩
  | updated found updates => exact updates.reprovable hP hset hI hg found

theorem Lapses.reprovable {nowUnix : UInt64} {k : String} {issued : IssuedCustodyPayment} (hwf : WF P d)
    (hl : Lapses nowUnix k issued d d') (hI : Reprovable P d) : Reprovable P d' := by
  refine hI.of_records hl.owner.2.1 fun hk => ?_
  rcases hl.record hwf hk with found | ⟨r, found, rfl, -⟩
  · exact hI.provable found
  · exact (hI.provable found).congr rfl rfl rfl

/-! ## Runs -/

theorem step_reprovable (hP : CoverageDecides P) (hset : CanonicalSets P) {a : PersonalAuthority} {e : Event}
    (hwf : WF P a.doc) (hI : Reprovable P a.doc) (hg : Obeys P (provableEvidence P) a e = true) :
    Reprovable P (step P a e).doc := by
  refine step_keeps hwf hI (fun hd hId ⟨_, _, _, _, _, lapse⟩ => lapse.reprovable hd hId) ?_
  intro c d hc hidle hd hId hw
  exact hw.reprovable hP hset hd hId (Obeys.carry hg hc hidle fun hx => by cases c <;> first | rfl | cases hx)

/-- In a run that records provable evidence only, every marker passes the restart check. -/
theorem marker_reprovable (hP : CoverageDecides P) (hset : CanonicalSets P) {ownerID agentID authorityID : String}
    {limits : PortfolioLimits} {es : List Event} (hagent : agentID ≠ "")
    (provable : Along (step P) (fun a e => Obeys P (provableEvidence P) a e = true)
      (PersonalAuthority.fresh ownerID agentID authorityID limits) es) :
    let d := (exec (step P) (PersonalAuthority.fresh ownerID agentID authorityID limits) es).doc
    ∀ k r, d.engagements.get? k = some r → markerValid P d r = true := by
  intro d k r hk
  have hfresh : Reprovable P (AuthorityDocument.fresh ownerID agentID authorityID limits) :=
    ⟨hagent, Map.of_empty, Map.of_empty⟩
  have hI : Reprovable P d := run_invariant hfresh (fun _ _ => step_reprovable hP hset) provable
  rw [markerValid, Bool.or_eq_true, beq_iff_eq]
  exact or_iff_not_imp_left.2 (hI.marked hk)

open Sample in
theorem sample_coverageDecides : CoverageDecides protocol := by
  intro agreement verifier now
  have hcovers : covers agreement verifier now = true ↔
      ∀ p ∈ agreement.body.authorizationPredicates, ∃ e ∈ agreement.authorizationEvidence,
        verifier e now = true ∧ coversPredicate e p = true := by
    simp [covers, coversPredicate]
  show (if covers agreement verifier now = true then Except.ok () else .error "incomplete") = .ok () ↔ _
  split <;> simp_all

theorem sample_canonicalSets : CanonicalSets Sample.protocol :=
  fun body l s hs => Sample.digest_canonical (.evidenceSet body l) s hs

open Sample in
def Sample.signedRun : List Event := [acquire, proposeRelay, reserveRelay 2, signRelay aliceSigns, signRelay bobSigns]

open Sample in
/-- A relay agreement signed by both sides: its marker is set and passes the check. -/
theorem signed_run_reprovable :
    let a := exec (step protocol) Sample.authority signedRun
    Along (step protocol) (fun a e => Obeys protocol (provableEvidence protocol) a e = true)
        Sample.authority signedRun ∧
      (a.doc.engagements.get? relayDigest).map (·.fullyAuthorizedEvidenceSetDigest) =
        some relaySetDigest ∧
      ∀ k r, a.doc.engagements.get? k = some r → markerValid protocol a.doc r = true :=
  have provable : Along (step protocol) (fun a e => Obeys protocol (provableEvidence protocol) a e = true)
      (PersonalAuthority.fresh "owner" "alice" "authority" limits) signedRun := by decide +kernel
  ⟨provable, by decide +kernel,
    marker_reprovable sample_coverageDecides sample_canonicalSets (by decide) provable⟩

open Sample in
def Sample.quoteService : Event := call 104 (.recordAgreementEvidence serviceDigest aliceQuotes acceptAll)

open Sample in
/-- An agreement the local side authorizes with a quote alone is marked as fully authorized; the
check after a restart misses the agent signature, and the document does not reopen. -/
theorem quoted_marker_not_reprovable :
    let a := exec (step protocol) Sample.authority [proposeService, quoteService]
    (a.doc.engagements.get? serviceDigest).any (fun r =>
        r.fullyAuthorizedEvidenceSetDigest == serviceSetDigest &&
          !retainedAgreementFullyAuthorized protocol r a.doc.agentID) = true ∧
      (a.reopen protocol (host 200) limits).2 =
        .error "personal authority fully authorized Agreement marker is invalid" := by
  decide +kernel

end OpenFox.Authority
