/-
Reconciliation against the authority it releases from. The dry run and the release check have two
notions of a terminal engagement: the dry run also counts an unpaid one, and it does not look at the
settlement ledger. A reported reservation is released, or kept for its live bearer, exactly if it has
such a bearer or its engagement is cancelled, failed, or settled with a paid ledger, and the apply
loop reaches its end exactly if this holds of every reservation it reported.
-/
import OpenFox.Authority.Capacity
import OpenFox.Authority.Expiry
import OpenFox.Authority.Reconciliation
import OpenFox.Authority.Retry

namespace OpenFox.Authority

open OpenFox.Go OpenFox.Commerce OpenFox.Base

variable {P : Protocol} {d d' : AuthorityDocument} {issue : ReconciliationIssue} {r : ExposureReservation}
  {engagement : EngagementRecord}

/-! ## What is reported -/

/-- The document has the reservation `r` and the terminal engagement an issue was reported for. -/
structure Reported (d : AuthorityDocument) (issue : ReconciliationIssue) (r : ExposureReservation)
    (engagement : EngagementRecord) : Prop where
  hold : d.reservations.get? issue.reservationID = some r
  live : r.released = false
  agreement : r.agreementDigest = issue.agreementDigest
  found : d.engagements.get? issue.agreementDigest = some engagement
  terminal : terminalEngagement engagement.state = true

theorem engagementIssue_kind {l : List ((_ : String) × EngagementRecord)}
    (hi : issue ∈ l.filterMap fun e => engagementIssue e.2) : issue.kind ≠ .releasableReservation := by
  obtain ⟨e, -, he⟩ := List.mem_filterMap.1 hi
  unfold engagementIssue at he
  split at he
  · cases he; exact nofun
  · cases he

theorem reservationIssue_some {engagements : Map String EngagementRecord} {i : ReconciliationIssue}
    (hi : reservationIssue engagements r = some i) :
    i.reservationID = r.reservationID ∧ (i.kind = .releasableReservation →
      r.released = false ∧ r.agreementDigest = i.agreementDigest ∧
        ∃ engagement, engagements.get? i.agreementDigest = some engagement ∧
          terminalEngagement engagement.state = true) := by
  unfold reservationIssue at hi
  split at hi
  · cases hi
  · rename_i live
    split at hi
    · cases hi
      exact ⟨rfl, nofun⟩
    · rename_i engagement found
      split at hi
      · rename_i terminal
        cases hi
        exact ⟨rfl, fun _ => ⟨Bool.eq_false_iff.2 live, rfl, engagement, found, terminal⟩⟩
      · cases hi

variable {h : Host} {a : PersonalAuthority} {revision : UInt64} {evidence bucket id : String}

theorem dryRun_issues (ho : a.poisoned = false) (hat : h.attached = true) : (reconcileDryRun h a).1 = a ∧
    (reconcileDryRun h a).2.issues.Perm ((a.doc.engagements.range h.range 1).filterMap (fun e => engagementIssue e.2) ++
    ((a.doc.reservations.range h.range 0).map (·.2)).filterMap (reservationIssue a.doc.engagements)) := by
  have hsnap : a.reconciliationSnapshot h = (a, a.doc.portfolioRevision,
      (a.doc.reservations.range h.range 0).map (·.2), a.doc.engagements) := by
    simp [PersonalAuthority.reconciliationSnapshot, PersonalAuthority.ensureStorageIdentityLocked, ho, hat]
  unfold reconcileDryRun
  rw [hsnap]
  exact ⟨rfl, List.perm_insertionSort _ _⟩

theorem dryRun_reported (hwf : WF P a.doc) (ho : a.poisoned = false)
    (hat : h.attached = true) (hi : issue ∈ (reconcileDryRun h a).2.issues)
    (hk : issue.kind = .releasableReservation) : ∃ r engagement, Reported a.doc issue r engagement := by
  rcases List.mem_append.1 ((dryRun_issues ho hat).2.mem_iff.1 hi) with he | hr
  · exact absurd hk (engagementIssue_kind he)
  · obtain ⟨r, hmem, hr⟩ := List.mem_filterMap.1 hr
    obtain ⟨e, he, rfl⟩ := List.mem_map.1 hmem
    have hget := Map.mem_range.1 he
    obtain ⟨hid, hterm⟩ := reservationIssue_some hr
    obtain ⟨live, agreement, engagement, found, terminal⟩ := hterm hk
    refine ⟨e.2, engagement, ?_, live, agreement, found, terminal⟩
    rw [hid, (hwf.reservation hget).1]
    exact hget

/-- No reservation is reported as releasable twice. -/
def Apart (i j : ReconciliationIssue) : Prop :=
  i.kind = .releasableReservation → j.kind = .releasableReservation → i.reservationID ≠ j.reservationID

theorem dryRun_apart (hwf : WF P a.doc) (ho : a.poisoned = false)
    (hat : h.attached = true) : (reconcileDryRun h a).2.issues.Pairwise Apart := by
  refine ((dryRun_issues ho hat).2.pairwise_iff fun {i j} hij hj hi => (hij hi hj).symm).2
    (List.pairwise_append.2 ⟨?_, ?_, fun i hi j _ hk => absurd hk (engagementIssue_kind hi)⟩)
  · exact List.pairwise_of_forall_mem_list fun i hi _ _ hk => absurd hk (engagementIssue_kind hi)
  · rw [List.pairwise_filterMap, List.pairwise_map]
    have hkeys :=
      List.pairwise_map.1 (((Map.range_perm h.range 0 a.doc.reservations).map Sigma.fst).nodup_iff.2
        (AList.nodupKeys _))
    refine hkeys.imp_of_mem fun {e e'} he he' hne i hi j hj _ _ heq => hne ?_
    rw [← (hwf.reservation (Map.mem_range.1 he)).1, ← (hwf.reservation (Map.mem_range.1 he')).1,
      ← (reservationIssue_some hi).1, ← (reservationIssue_some hj).1, heq]

/-! ## What the authority answers -/

/-- A custody authorization is issued on the reported reservation. -/
def Withheld (d : AuthorityDocument) (issue : ReconciliationIssue) : Prop :=
  ∃ k issued, d.issuedCustodyPayments.get? k = some issued ∧ issued.reservationID = issue.reservationID

/-- The engagement of the reported reservation is cancelled, failed, or settled with every ledger
entry of its Agreement paid. -/
def Closable (d : AuthorityDocument) (issue : ReconciliationIssue) : Prop :=
  ∃ engagement, d.engagements.get? issue.agreementDigest = some engagement ∧
    (engagement.state = .cancelled ∨ engagement.state = .failed ∨ engagement.state = .settled ∧
      ∀ k ledger, d.settlementLedger.get? k = some ledger →
        ledger.obligation.agreementBodyDigest = issue.agreementDigest → ledger.state.state = .paid)

theorem withheld_iff (hwf : WF P d) (hr : Reported d issue r engagement) :
    d.issuedCustodyPayments.any (fun _ issued => issued.reservationID == r.reservationID) = true ↔
      Withheld d issue := by
  rw [Map.any_iff, (hwf.reservation hr.hold).1]
  simp [Withheld]

theorem closable_iff (hwf : WF P d) (hr : Reported d issue r engagement) :
    releasableEngagement d r.agreementDigest = .ok () ↔ Closable d issue := by
  have hdigest := (hwf.engagement hr.found).1
  simp only [Closable, releasableEngagement, hr.agreement, hr.found, Option.some.injEq, exists_eq_left']
  cases hs : engagement.state <;> simp only [refuse_ok, reduceCtorEq, false_and, or_false, or_true, false_or, true_and,
    hdigest, iff_self]
  -- A settled engagement is released if the loop over the ledger finds nothing unpaid.
  rw [hasUnpaidLedgerEntry, Map.any_iff]
  constructor
  · intro hnone k ledger hl heq
    by_contra hne
    exact hnone ⟨k, ledger, hl, by simp [heq, hne]⟩
  · rintro hall ⟨k, ledger, hl, hbad⟩
    simp only [Bool.and_eq_true, beq_iff_eq, bne_iff_ne, ne_eq] at hbad
    exact hbad.2 (hall k ledger hl hbad.1)

theorem releasableEngagement_error {digest msg : String} (he : releasableEngagement d digest = .error msg) :
    msg ≠ errCustodyAuthorizationLive := by
  unfold releasableEngagement at he
  split at he
  · cases he
  · split at he
    · rw [← (refuse_error.1 he).2]; decide
    · cases he
    · cases he
    · cases he; decide

theorem noLoss_withinLimits (hc : Capped P d) (bucket : String) : dispositionWithinLimits d r bucket 0 0 = .ok () := by
  have hspent := spent_le_limit hc bucket
  have hsum := toNat_add_of_le hspent
  simp only [dispositionWithinLimits, peel, Bool.not_eq_true, Bool.or_eq_false_iff,
    exceeds_eq_false, UInt64.add_zero, UInt64.toNat_zero, hsum]
  omega

section

variable {action : AuthorizedAction} {fields : SemanticFields} {request : Bytes} {fence : WriterFence}

/-- A call of `ReleaseReservation` with the canonical request for a reported reservation, by the
current writer before its fence expires. -/
structure CanonicalRelease (P : Protocol) (h : Host) (d : AuthorityDocument) (issue : ReconciliationIssue)
    (action : AuthorizedAction) (fields : SemanticFields) (request : Bytes) (fence : WriterFence) (evidence : String) :
    Prop where
  writer : holdsWriter d fence = true
  current : h.clock 1 < Time.ofUnix fence.body.expiresAtUnix
  kind : action.actionKind = "portfolio.release"
  verifies : P.verifyAuthorizedAction d.authorityID action fields request fence (h.clock 2) = .ok ()
  decodes : P.decodePortfolioRelease request =
    .ok ⟨issue.reservationID, issue.agreementDigest, d.portfolioRevision + 1, evidence⟩
  canonical : canonicalSHA256 evidence = true

def ReleasedBefore (d : AuthorityDocument) (action : AuthorizedAction) : Prop :=
  ∃ prior, d.actions.get? action.stableActionID = some prior ∧
    prior.exactRequestDigest = action.exactRequestDigest ∧ prior.state = .terminal

/-- The action is new or only prepared; `revision` is the one its resolution gets. -/
def Resumes (d : AuthorityDocument) (action : AuthorizedAction) (revision : UInt64) : Prop :=
  d.actions.get? action.stableActionID = none ∧ revision = 1 ∨
    ∃ prior, d.actions.get? action.stableActionID = some prior ∧
      prior.exactRequestDigest = action.exactRequestDigest ∧ prior.state = .prepared ∧
      revision = prior.stateRevision + 1

/-- The action was released before, it resumes with one revision, or another one holds its identity and the
refusal is not the one for a live bearer. -/
theorem predecessor_cases (d : AuthorityDocument) (action : AuthorizedAction) :
    (∃ prior, releasePredecessor d action = .ok (.inl prior) ∧ ReleasedBefore d action) ∨
    (∃ revision, releasePredecessor d action = .ok (.inr revision) ∧ ¬ ReleasedBefore d action ∧
      ∀ revision', Resumes d action revision' ↔ revision' = revision) ∨
    ∃ msg, releasePredecessor d action = .error msg ∧ msg ≠ errCustodyAuthorizationLive ∧ ¬ ReleasedBefore d action ∧
      ∀ revision, ¬ Resumes d action revision := by
  unfold releasePredecessor ReleasedBefore Resumes
  cases hg : d.actions.get? action.stableActionID with
  | none => exact .inr (.inl ⟨1, rfl, by simp⟩)
  | some prior =>
    by_cases hsame : prior.exactRequestDigest = action.exactRequestDigest
    · cases hs : prior.state <;> simp [refuse, runs, hsame, hs, errCustodyAuthorizationLive]
    · simp [refuse, runs, hsame, errCustodyAuthorizationLive]

/-- The terminal resolution of a verified release with a canonical evidence digest is valid unless its state
revision is zero, and the library does not return the authority's own sentinel. -/
structure ResolvesReleases (P : Protocol) : Prop where
  valid : ∀ {authorityID action fields request fence now release} (revision : UInt64),
    P.verifyAuthorizedAction authorityID action fields request fence now = .ok () →
    P.decodePortfolioRelease request = .ok release → canonicalSHA256 release.terminalEvidenceSetDigest = true →
    (P.validateActionResolution (resolutionOf action .terminal [release.terminalEvidenceSetDigest] revision) = .ok () ↔
      revision ≠ 0)
  foreign : ∀ resolution, P.validateActionResolution resolution ≠ .error errCustodyAuthorizationLive

def releasedDocument (d : AuthorityDocument) (action : AuthorizedAction) (evidence : String) (revision : UInt64)
    (bucket : String) (r : ExposureReservation) (id : String) : AuthorityDocument :=
  recordAction (disposeLoss { d with
    reservations := d.reservations.put id { r with released := true }
    portfolioRevision := d.portfolioRevision + 1 } bucket 0 0) action
      (resolutionOf action .terminal [evidence] revision)

/-- The release of a reported reservation, past its identity checks. -/
theorem release_resumes (hc : Capped P d) (hr : Reported d issue r engagement)
    (call : CanonicalRelease P h d issue action fields request fence evidence)
    (hpred : releasePredecessor d action = .ok (.inr revision)) (hb : exposureAssetBucket P r.asset = .ok bucket) :
    (releaseReservation P h action fields request fence 0 0).body d =
      if d.issuedCustodyPayments.any (fun _ issued => issued.reservationID == r.reservationID) then
        .error errCustodyAuthorizationLive
      else (do
        releasableEngagement d r.agreementDigest
        P.validateActionResolution (resolutionOf action .terminal [evidence] revision)
        pure (.store (releasedDocument d action evidence revision bucket r issue.reservationID)
    (resolutionOf action .terminal [evidence] revision))) := by
  have hv := verified_iff.2 call.verifies
  have hdecode : decodeRelease P request =
      .ok ⟨issue.reservationID, issue.agreementDigest, d.portfolioRevision + 1, evidence⟩ := by
    simp [decodeRelease, call.decodes]
  have hloss := noLoss_withinLimits (r := r) hc bucket
  simp only [releaseReservation, refuse, call.writer, call.current, call.kind, hv, hpred, hdecode,
    hr.hold, hr.live, hr.agreement, hb, hloss, bind, Except.bind, pure, Except.pure, releasedDocument,
    errCustodyAuthorizationLive, ne_eq, not_true, Bool.true_eq_false, Bool.false_eq_true, or_self, if_false]
  by_cases hw : d.issuedCustodyPayments.any (fun _ issued => issued.reservationID == r.reservationID) = true
  · simp [hw]
  · simp [hw]

/-- A reported reservation: the release is accepted or kept for its bearer exactly in these cases. -/
theorem release_answer_iff (hlaw : ResolvesReleases P) (hc : Capped P d) (hwf : WF P d)
    (hr : Reported d issue r engagement) (call : CanonicalRelease P h d issue action fields request fence evidence) :
    ((∃ o, (releaseReservation P h action fields request fence 0 0).body d = .ok o) ∨
    (releaseReservation P h action fields request fence 0 0).body d = .error errCustodyAuthorizationLive) ↔
    ReleasedBefore d action ∨ ∃ revision, Resumes d action revision ∧
      (Withheld d issue ∨ revision ≠ 0 ∧ Closable d issue) := by
  have hv := verified_iff.2 call.verifies
  obtain ⟨bucket, hb⟩ := hc.bucketed hr.hold
  obtain ⟨prior, hp, hdone⟩ | ⟨revision, hp, hnot, hres⟩ | ⟨msg, hp, hmsg, hnot, hres⟩ := predecessor_cases d action
  · refine ⟨fun _ => .inl hdone, fun _ => .inl ⟨.keep prior, ?_⟩⟩
    simp [releaseReservation, refuse, runs, call.writer, call.current, call.kind, hv, hp]
  · simp only [hnot, hres, false_or, exists_eq_left]
    rw [release_resumes hc hr call hp hb, ← withheld_iff hwf hr, ← closable_iff hwf hr,
      ← hlaw.valid revision call.verifies call.decodes call.canonical]
    split
    · rename_i hw; simp [hw]
    · rename_i hw
      simp only [hw, Bool.false_eq_true, false_or]
      cases he : releasableEngagement d r.agreementDigest with
      | error msg => simp [bind, Except.bind, releasableEngagement_error he]
      | ok u =>
        cases hval : P.validateActionResolution (resolutionOf action .terminal [evidence] revision) with
        | error msg =>
          have hmsg : msg ≠ errCustodyAuthorizationLive := fun heq => hlaw.foreign _ (heq ▸ hval)
          simp [bind, Except.bind, hmsg]
        | ok u' => simp [bind, Except.bind, pure, Except.pure]
  · have hbody : (releaseReservation P h action fields request fence 0 0).body d = .error msg := by
      simp [releaseReservation, refuse, runs, call.writer, call.current, call.kind, hv, hp]
    simp [hbody, hmsg, hnot, hres]

end

/-! ## One round of the apply loop -/

/-- What the loop relies on of the libraries: digests and encodings of well-formed values succeed and
a request decodes to itself, `BuildAuthorizedAction` and `SignAction` produce the envelope of the
request that verifies while its fence is valid, and actions of different reservations have different
identities. -/
structure ReconcilerLaws (E : Reconciler) (P : Protocol) : Prop where
  stateDigest : ∀ digest state revision, ∃ evidence, E.terminalStateDigest digest state revision = .ok evidence
  setDigest : ∀ l, ∃ digest, P.digest "tos.portfolio-terminal-evidence-set.v1" (.strings l) = .ok digest ∧
    canonicalSHA256 digest = true
  marshal : ∀ request, ∃ canonical, E.marshalRelease request = .ok canonical ∧
    P.decodePortfolioRelease canonical = .ok request
  build : ∀ {request} (canonical state policyRevision fence), canonicalSHA256 request.reservationID = true →
    ∃ action, E.buildRelease request canonical state policyRevision fence = .ok action
  built : ∀ {request canonical state policyRevision fence action},
    E.buildRelease request canonical state policyRevision fence = .ok action →
    action.actionKind = "portfolio.release" ∧ action.authorityID = fence.body.authorityID ∧
      action.ownerID = E.ownerID ∧ action.agentID = E.agentID
  identity :
    ∀ {request request' canonical canonical' state state' policyRevision policyRevision' fence fence' action action'},
    E.buildRelease request canonical state policyRevision fence = .ok action →
    E.buildRelease request' canonical' state' policyRevision' fence' = .ok action' →
    action.stableActionID = action'.stableActionID → request.reservationID = request'.reservationID
  sign : ∀ action, ∃ proof, E.signAuthorizedAction action = .ok { action with proof := proof }
  verify : ∀ {request canonical state policyRevision fence action signed now},
    E.buildRelease request canonical state policyRevision fence = .ok action →
    E.signAuthorizedAction action = .ok signed → P.signWriterFence fence.body = .ok fence →
    Time.ofUnix fence.body.issuedAtUnix ≤ now → now < Time.ofUnix fence.body.expiresAtUnix →
    P.verifyAuthorizedAction fence.body.authorityID signed (E.releaseFields request) canonical fence now = .ok ()

/-- The fence is the current one of the document, and the engine acts for its owner and agent. -/
structure CurrentWriter (E : Reconciler) (P : Protocol) (d : AuthorityDocument) (fence : WriterFence) : Prop where
  current : d.currentFence = some fence
  generation : fence.body.writerGeneration = d.writerGeneration
  genuine : P.signWriterFence fence.body = .ok fence
  authority : fence.body.authorityID = d.authorityID
  owner : E.ownerID = d.ownerID
  agent : E.agentID = d.agentID

/-- The four calls of a round find their storage, no bearer falls due, the fence is valid when it is
read, and the release is stored. -/
structure Attended (d : AuthorityDocument) (fence : WriterFence) (turn : Turn) : Prop where
  engagement : turn.engagement.attached = true
  snapshot : turn.snapshot.attached = true
  sign : turn.sign.attached = true
  release : turn.release.attached = true
  epoch : 0 ≤ (turn.snapshot.clock 0).unix
  idle : ∀ k i, d.issuedCustodyPayments.get? k = some i → ¬ i.Due (turn.snapshot.clock 0).unixU64
  signed : turn.sign.clock 1 < Time.ofUnix fence.body.expiresAtUnix
  submitted : turn.release.clock 1 < Time.ofUnix fence.body.expiresAtUnix
  issued : Time.ofUnix fence.body.issuedAtUnix ≤ turn.release.clock 2
  verified : turn.release.clock 2 < Time.ofUnix fence.body.expiresAtUnix
  stored : turn.release.write 1 = .stored

/-- No release action for the reported reservation is recorded. -/
def Unrecorded (E : Reconciler) (d : AuthorityDocument) (issue : ReconciliationIssue) : Prop :=
  ∀ request canonical state policyRevision fence action, request.reservationID = issue.reservationID →
    E.buildRelease request canonical state policyRevision fence = .ok action →
    d.actions.get? action.stableActionID = none

/-- The action is a signed release of the reported reservation. -/
def Releases (E : Reconciler) (issue : ReconciliationIssue) (signed : AuthorizedAction) : Prop :=
  ∃ request canonical state policyRevision fence action, request.reservationID = issue.reservationID ∧
    E.buildRelease request canonical state policyRevision fence = .ok action ∧
      signed.stableActionID = action.stableActionID

theorem run_idle {α : Type} {op : Operation α} (hb : op.before = .ok ())
    (hx : op.expires = false) (ho : a.poisoned = false) (hat : h.attached = true) : op.run P h a = op.commit h a := by
  simp [Operation.run, hb, PersonalAuthority.ensureStorageIdentityLocked, ho, hat, hx]

theorem expire_quiet (hI : Custodial P d) (order : RangeOrder) {now : Time} (hnow : 0 ≤ now.unix)
    (hidle : ∀ k i, d.issuedCustodyPayments.get? k = some i → ¬ i.Due now.unixU64) :
    expireIssuedCustody P order now d = .ok none := by
  obtain ⟨o, ho⟩ := (expireIssuedCustody_iff hI order hnow).2 fun k i hk hdue => absurd hdue (hidle k i hk)
  cases o with
  | none => exact ho
  | some next =>
    rcases (expire_steps ho).cases_head with rfl | ⟨_, ⟨-, k, i, hk, hdue, -⟩, -⟩
    · exact absurd rfl (expire_changes ho)
    · exact absurd hdue (hidle k i hk)

section

variable {E : Reconciler} {action : AuthorizedAction} {fence : WriterFence} {turn : Turn}

theorem snapshot_quiet (hI : Custodial P a.doc) (ho : a.poisoned = false) (ht : Attended a.doc fence turn) :
    a.snapshotRevision P turn.snapshot = (a, a.doc.portfolioRevision) := by
  have hquiet := expire_quiet hI turn.snapshot.range ht.epoch ht.idle
  simp [PersonalAuthority.snapshotRevision, Operation.run, snapshot, PersonalAuthority.ensureStorageIdentityLocked, ho,
    ht.snapshot, PersonalAuthority.expireIssuedCustodyLocked, hquiet, Operation.commit, pure, Except.pure]

theorem CurrentWriter.holds (hw : CurrentWriter E P d fence) : holdsWriter d fence = true := by
  simp [holdsWriter, hw.current, hw.generation]

theorem sign_current {signed : AuthorizedAction} (hw : CurrentWriter E P a.doc fence) (ho : a.poisoned = false)
    (ht : Attended a.doc fence turn) (hs : E.signAuthorizedAction action = .ok signed)
    (hauthority : action.authorityID = fence.body.authorityID) (howner : action.ownerID = E.ownerID)
    (hagent : action.agentID = E.agentID) :
    (E.signAction turn.sign action fence).run P turn.sign a = (a, .ok signed) := by
  rw [run_idle rfl rfl ho ht.sign]
  simp [Operation.commit, Reconciler.signAction, refuse, runs, hw.holds, hs, hauthority, hw.authority, howner, hw.owner,
    hagent, hw.agent, ht.signed]

/-- A round of the loop ends in a canonical release call for the reported reservation. -/
theorem applyIssue_submits (laws : ReconcilerLaws E P) (hI : Custodial P a.doc) (ho : a.poisoned = false)
    (hw : CurrentWriter E P a.doc fence) (ht : Attended a.doc fence turn) (policyRevision : UInt64)
    (hr : Reported a.doc issue r engagement) (hid : canonicalSHA256 issue.reservationID = true) :
    ∃ signed fields canonical evidence, Releases E issue signed ∧
      CanonicalRelease P turn.release a.doc issue signed fields canonical fence evidence ∧
      E.applyIssue P turn policyRevision fence issue a =
        match (releaseReservation P turn.release signed fields canonical fence 0 0).run P turn.release a with
        | (a, .ok resolution) => (a, .ok (some resolution.stableActionID))
        | (a, .error e) => (a, if e = errCustodyAuthorizationLive then .ok none else .error e) := by
  obtain ⟨stateEvidence, hstate⟩ := laws.stateDigest engagement.agreementDigest engagement.state
    engagement.stateRevision
  obtain ⟨evidence, hset, hcanonical⟩ := laws.setDigest (uniqueStrings (sortStrings
    (engagement.settlementEvidence ++ engagement.deliveryEvidence ++ [stateEvidence])))
  have hevidence : E.terminalEvidence P engagement = .ok evidence := by
    simp only [Reconciler.terminalEvidence, hstate, runs]
    exact hset
  let request : PortfolioReleaseRequest :=
    ⟨issue.reservationID, issue.agreementDigest, a.doc.portfolioRevision + 1, evidence⟩
  obtain ⟨canonical, hmarshal, hdecode⟩ := laws.marshal request
  obtain ⟨action, hbuild⟩ : ∃ action, E.buildRelease request canonical engagement.state policyRevision fence =
    .ok action :=
    laws.build canonical engagement.state policyRevision fence hid
  obtain ⟨hkind, hauthority, howner, hagent⟩ := laws.built hbuild
  obtain ⟨proof, hsign⟩ := laws.sign action
  have hverify := laws.verify hbuild hsign hw.genuine ht.issued ht.verified
  refine ⟨{ action with proof := proof }, E.releaseFields request, canonical, evidence,
    ⟨_, _, _, _, _, _, rfl, hbuild, rfl⟩,
    ⟨hw.holds, ht.submitted, hkind, hw.authority ▸ hverify, hdecode, hcanonical⟩, ?_⟩
  have hread : a.engagement turn.engagement issue.agreementDigest = (a, some engagement) := by
    simp [PersonalAuthority.engagement, PersonalAuthority.ensureStorageIdentityLocked, ho, ht.engagement, hr.found]
  simp only [request] at hmarshal hbuild
  simp only [Reconciler.applyIssue, hread, hr.terminal, Bool.true_eq_false, if_false, hevidence,
    snapshot_quiet hI ho ht,
    hmarshal, Reconciler.submitRelease, hbuild, sign_current hw ho ht hsign hauthority howner hagent]
  rfl

/-- One round, for a reported reservation whose release is new: it is skipped for its bearer, released,
or refused. -/
theorem applyIssue_cases (laws : ReconcilerLaws E P) (hlaw : ResolvesReleases P) (hc : Capped P a.doc)
    (hI : Custodial P a.doc) (ho : a.poisoned = false) (hw : CurrentWriter E P a.doc fence)
    (ht : Attended a.doc fence turn) (policyRevision : UInt64) (hr : Reported a.doc issue r engagement)
    (hid : canonicalSHA256 issue.reservationID = true) (hnew : Unrecorded E a.doc issue) :
    (Withheld a.doc issue ∧ E.applyIssue P turn policyRevision fence issue a = (a, .ok none)) ∨
    (¬ Withheld a.doc issue ∧ Closable a.doc issue ∧ ∃ e signed evidence bucket, Releases E issue signed ∧
      E.applyIssue P turn policyRevision fence issue a = (step P a e, .ok (some signed.stableActionID)) ∧
      step P a e = { doc := releasedDocument a.doc signed evidence 1 bucket r issue.reservationID }) ∨
    (¬ Withheld a.doc issue ∧ ¬ Closable a.doc issue ∧
      ∃ msg, E.applyIssue P turn policyRevision fence issue a = (a, .error msg)) := by
  obtain ⟨signed, fields, canonical, evidence, hrelease, call, happly⟩ :=
    applyIssue_submits laws hI ho hw ht policyRevision hr hid
  obtain ⟨bucket, hb⟩ := hc.bucketed hr.hold
  have hpred : releasePredecessor a.doc signed = .ok (.inr 1) := by
    obtain ⟨_, _, _, _, _, _, hreq, hbuild, hsame⟩ := hrelease
    simp [releasePredecessor, hsame, hnew _ _ _ _ _ _ hreq hbuild]
  have hbody := release_resumes hc hr call hpred hb
  have hvalid := (hlaw.valid 1 call.verifies call.decodes call.canonical).2 (by decide)
  have hrun : (releaseReservation P turn.release signed fields canonical fence 0 0).run P turn.release a =
      _ := run_idle rfl rfl ho ht.release
  rw [Operation.commit, hbody] at hrun
  by_cases hwith : Withheld a.doc issue
  · refine .inl ⟨hwith, ?_⟩
    rw [if_pos ((withheld_iff hI.wf hr).2 hwith)] at hrun
    rw [happly, hrun]
    simp
  · have hany := mt (withheld_iff hI.wf hr).1 hwith
    rw [if_neg hany] at hrun
    by_cases hclose : Closable a.doc issue
    · refine .inr (.inl ⟨hwith, hclose, ?_⟩)
      have hstore : (releaseReservation P turn.release signed fields canonical fence 0 0).run P turn.release a =
          ({ doc := releasedDocument a.doc signed evidence 1 bucket r issue.reservationID },
            .ok (resolutionOf signed .terminal [evidence] 1)) := by
        rw [hrun, (closable_iff hI.wf hr).2 hclose]
        simp [runs, hvalid, PersonalAuthority.persist, ht.stored, Except.map, ho]
      let e : Event := ⟨turn.release, .call (.releaseReservation signed fields canonical fence 0 0)⟩
      have hstep : step P a e = { doc := releasedDocument a.doc signed evidence 1 bucket r issue.reservationID } := by
        simp [step, perform, e, Call.operation, run_map, hstore]
      refine ⟨e, signed, evidence, bucket, hrelease, ?_, hstep⟩
      rw [hstep, happly, hstore]
      rfl
    · cases he : releasableEngagement a.doc r.agreementDigest with
      | ok u => exact absurd ((closable_iff hI.wf hr).1 he) hclose
      | error msg =>
        refine .inr (.inr ⟨hwith, hclose, msg, ?_⟩)
        rw [he] at hrun
        rw [happly, hrun]
        simp [runs, releasableEngagement_error he]

/-! ## The whole loop -/

/-- What the loop has not touched. -/
structure Untouched (d d' : AuthorityDocument) : Prop where
  engagements : d'.engagements = d.engagements
  ledger : d'.settlementLedger = d.settlementLedger
  issued : d'.issuedCustodyPayments = d.issuedCustodyPayments
  fence : d'.currentFence = d.currentFence
  generation : d'.writerGeneration = d.writerGeneration
  authority : d'.authorityID = d.authorityID
  owner : d'.ownerID = d.ownerID
  agent : d'.agentID = d.agentID

theorem released_untouched : Untouched d (releasedDocument d action evidence revision bucket r id) := by
  unfold releasedDocument disposeLoss
  split <;> exact ⟨rfl, rfl, rfl, rfl, rfl, rfl, rfl, rfl⟩

theorem released_writes : (releasedDocument d action evidence revision bucket r id).reservations =
      d.reservations.put id { r with released := true } ∧
    (releasedDocument d action evidence revision bucket r id).actions =
      d.actions.put action.stableActionID (resolutionOf action .terminal [evidence] revision) := by
  unfold releasedDocument disposeLoss
  split <;> exact ⟨rfl, rfl⟩

section
variable (hu : Untouched d d')
include hu

theorem Untouched.withheld : Withheld d' issue ↔ Withheld d issue := by
  rw [Withheld, hu.issued]; rfl

theorem Untouched.closable : Closable d' issue ↔ Closable d issue := by
  rw [Closable, hu.engagements, hu.ledger]; rfl

theorem Untouched.writer (hw : CurrentWriter E P d fence) : CurrentWriter E P d' fence :=
  ⟨hu.fence.trans hw.current, hw.generation.trans hu.generation.symm, hw.genuine, hw.authority.trans hu.authority.symm,
    hw.owner.trans hu.owner.symm, hw.agent.trans hu.agent.symm⟩

theorem Untouched.attended (ht : Attended d fence turn) : Attended d' fence turn :=
  { ht with idle := fun k i hk => ht.idle k i (hu.issued ▸ hk) }

end

/-- A reported reservation the loop can still turn to. -/
structure Waiting (E : Reconciler) (d : AuthorityDocument) (issue : ReconciliationIssue) : Prop where
  reported : ∃ r engagement, Reported d issue r engagement
  digest : canonicalSHA256 issue.reservationID = true
  unrecorded : Unrecorded E d issue

theorem Waiting.carry (laws : ReconcilerLaws E P) {done : ReconciliationIssue} (hrelease : Releases E done action)
    (hne : done.reservationID ≠ issue.reservationID) (hw : Waiting E d issue) :
    Waiting E (releasedDocument d action evidence 1 bucket r done.reservationID) issue := by
  obtain ⟨⟨r', engagement', hr⟩, hdigest, hnew⟩ := hw
  obtain ⟨_, _, _, _, _, _, hreq, hbuild, hsame⟩ := hrelease
  refine ⟨⟨r', engagement', ?_, hr.live, hr.agreement, ?_, hr.terminal⟩, hdigest, ?_⟩
  · rw [released_writes.1, Map.get?_put_ne _ _ hne.symm]
    exact hr.hold
  · rw [released_untouched.engagements]
    exact hr.found
  · intro request' canonical' state' policyRevision' fence' action' hreq' hbuild'
    have hid : action'.stableActionID ≠ action.stableActionID := by
      intro heq
      have := laws.identity hbuild' hbuild (heq.trans hsame)
      exact hne (hreq.symm.trans (this.symm.trans hreq'))
    rw [released_writes.2, Map.get?_put_ne _ _ hid]
    exact hnew request' canonical' state' policyRevision' fence' action' hreq' hbuild'

theorem Reachable.step (ha : Reachable P a) (e : Event) : Reachable P (step P a e) := by
  obtain ⟨ownerID, agentID, authorityID, limits, es, rfl⟩ := ha
  exact ⟨ownerID, agentID, authorityID, limits, es ++ [e], (exec_snoc _ _ _ _).symm⟩

theorem reachable_capped (hP : CanonicalBuckets P) (ha : Reachable P a) : Capped P a.doc := by
  obtain ⟨ownerID, agentID, authorityID, limits, es, rfl⟩ := ha
  exact (run_capped hP ownerID agentID authorityID limits es).1

/-- The loop over `issues` led from `d` to `d'`: it ends without an error exactly if every releasable issue has
a live bearer or a closable engagement, and then every one without a bearer is released. -/
structure Applied (d d' : AuthorityDocument) (issues : List ReconciliationIssue) (ok : Prop) : Prop where
  ends : ok ↔ ∀ issue ∈ issues, issue.kind = .releasableReservation → Withheld d issue ∨ Closable d issue
  released : ok → ∀ issue ∈ issues, issue.kind = .releasableReservation → ¬ Withheld d issue →
    ∃ r, d'.reservations.get? issue.reservationID = some r ∧ r.released = true
  kept : ∀ id r, d.reservations.get? id = some r → r.released = true → d'.reservations.get? id = some r

variable {issues : List ReconciliationIssue} {ok : Prop}

theorem Applied.skip (hl : Applied d d' issues ok) (hskip : issue.kind = .releasableReservation → Withheld d issue) :
    Applied d d' (issue :: issues) ok where
  ends := by
    rw [List.forall_mem_cons]
    exact hl.ends.trans ⟨fun hall => ⟨fun hk => .inl (hskip hk), hall⟩, And.right⟩
  released hok := List.forall_mem_cons.2 ⟨fun hk hnw => absurd (hskip hk) hnw, hl.released hok⟩
  kept := hl.kept

theorem Applied.release {d₁ : AuthorityDocument} (hl : Applied d₁ d' issues ok) (hu : Untouched d d₁)
    (hlive : r.released = false) (hold : d.reservations.get? issue.reservationID = some r)
    (hfreed : d₁.reservations = d.reservations.put issue.reservationID { r with released := true })
    (hclose : Closable d issue) :
    Applied d d' (issue :: issues) ok where
  ends := by
    rw [List.forall_mem_cons, hl.ends]
    simp only [hu.withheld, hu.closable]
    exact ⟨fun hall => ⟨fun _ => .inr hclose, hall⟩, And.right⟩
  released hok := List.forall_mem_cons.2
    ⟨fun _ _ =>
      ⟨_, hl.kept _ _ (hfreed ▸ Map.get?_put_self) rfl, rfl⟩, by simpa only [hu.withheld] using hl.released hok⟩
  kept id r' hr' hrel := by
    refine hl.kept id r' ?_ hrel
    rw [hfreed, Map.get?_put_ne _ _ fun hid => ?_]
    · exact hr'
    · rw [hid, hold] at hr'
      cases hr'
      rw [hlive] at hrel
      cases hrel

/-- The loop, from any reachable authority on which the remaining issues wait. -/
theorem applyIssues_iff (laws : ReconcilerLaws E P) (hlaw : ResolvesReleases P) (hP : CanonicalBuckets P)
    (hA : DistinctAdmissions P) (policyRevision : UInt64) : ∀ issues turns a, Reachable P a →
      a.poisoned = false → CurrentWriter E P a.doc fence → (∀ i, Attended a.doc fence (turns i)) →
      issues.Pairwise Apart → (∀ issue ∈ issues, issue.kind = .releasableReservation → Waiting E a.doc issue) →
      Applied a.doc (E.applyIssues P policyRevision fence turns issues a).1.doc issues
        ((E.applyIssues P policyRevision fence turns issues a).2.2 = .ok ()) := by
  intro issues
  induction issues with
  | nil =>
    intro turns a _ _ _ _ _ _
    exact ⟨⟨fun _ => nofun, fun _ => rfl⟩, fun _ => nofun, fun id r hr _ => hr⟩
  | cons issue issues ih =>
    intro turns a ha ho hw ht hapart hwait
    obtain ⟨hfirst, hrest⟩ := List.pairwise_cons.1 hapart
    obtain ⟨hnext, hwait⟩ := List.forall_mem_cons.1 hwait
    by_cases hk : issue.kind = .releasableReservation
    · obtain ⟨⟨r, engagement, hr⟩, hdigest, hnew⟩ := hnext hk
      rcases applyIssue_cases laws hlaw (reachable_capped hP ha) (reachable_custodial hA ha) ho hw (ht 0) policyRevision
        hr hdigest hnew with
        ⟨hwith, happly⟩ | ⟨-, hclose, e, signed, evidence, bucket, hrelease, happly, hstep⟩ | ⟨hwith, hclose,
          msg, happly⟩
      · -- The bearer keeps its hold and the loop goes on.
        have hloop : E.applyIssues P policyRevision fence turns (issue :: issues) a =
            E.applyIssues P policyRevision fence (fun i => turns (i + 1)) issues a := by
          simp [Reconciler.applyIssues, hk, happly]
        rw [hloop]
        exact (ih _ a ha ho hw (fun i => ht (i + 1)) hrest hwait).skip fun _ => hwith
      · -- The hold is released, and the others still wait.
        have hdoc : (step P a e).doc = releasedDocument a.doc signed evidence 1 bucket r issue.reservationID := by
          rw [hstep]
        have hu := hdoc ▸ released_untouched
        have hwait' : ∀ j ∈ issues, j.kind = .releasableReservation → Waiting E (step P a e).doc j := by
          intro j hj hkj
          rw [hdoc]
          exact (hwait j hj hkj).carry laws hrelease (hfirst j hj hk hkj)
        have hl := ih (fun i => turns (i + 1)) (step P a e) (ha.step e) (by rw [hstep]) (hu.writer hw)
          (fun i => hu.attended (ht (i + 1))) hrest hwait'
        simp only [Reconciler.applyIssues, hk, happly, ne_eq, not_true_eq_false, if_false]
        exact hl.release hu hr.live hr.hold (by rw [hdoc, released_writes.1]) hclose
      · -- The loop stops at a release the authority refuses.
        simp only [Reconciler.applyIssues, hk, happly, ne_eq, not_true_eq_false, if_false]
        refine ⟨⟨nofun, fun hall => ?_⟩, nofun, fun id r' hr' _ => hr'⟩
        exact ((hall issue List.mem_cons_self hk).elim hwith hclose).elim
    · -- Other kinds of issues are skipped.
      simp only [Reconciler.applyIssues, ne_eq, hk, not_false_eq_true, if_true]
      exact (ih turns a ha ho hw ht hrest hwait).skip fun hk' => absurd hk' hk

theorem dryRun_opened (hi : issue ∈ (reconcileDryRun h a).2.issues) : a.poisoned = false ∧ h.attached = true := by
  by_contra hclosed
  have hrange := List.Perm.eq_nil (Map.range_perm h.range 1 (∅ : Map String EngagementRecord))
  have hempty : (reconcileDryRun h a).2.issues = [] := by
    unfold reconcileDryRun PersonalAuthority.reconciliationSnapshot PersonalAuthority.ensureStorageIdentityLocked
    cases ho : a.poisoned <;> cases hat : h.attached <;> simp_all
  rw [hempty] at hi
  cases hi

end

/-- Of a reservation the dry run reports as releasable on a reachable document, the canonical release
request is accepted, or refused for a live bearer only, exactly if the action was released before, or it
is new or prepared and the reservation has a bearer or a closable engagement. While no bearer falls due,
the apply loop then ends without an error exactly if every reported reservation has a bearer or a closable
engagement; it releases all those without a bearer. -/
theorem reconciliation_releases_iff (hP : CanonicalBuckets P) (hA : DistinctAdmissions P) (hlaw : ResolvesReleases P)
    {a : PersonalAuthority} (ha : Reachable P a) (h : Host) :
    (∀ issue ∈ (reconcileDryRun h a).2.issues, issue.kind = .releasableReservation →
      ∀ hr action fields request fence evidence,
        CanonicalRelease P hr a.doc issue action fields request fence evidence →
        ((∃ o, (releaseReservation P hr action fields request fence 0 0).body a.doc = .ok o) ∨
            (releaseReservation P hr action fields request fence 0 0).body a.doc = .error errCustodyAuthorizationLive ↔
          ReleasedBefore a.doc action ∨ ∃ revision, Resumes a.doc action revision ∧
            (Withheld a.doc issue ∨ revision ≠ 0 ∧ Closable a.doc issue))) ∧
    ∀ E policyRevision fence turns, ReconcilerLaws E P → E.permitted = true → a.poisoned = false → h.attached = true →
      CurrentWriter E P a.doc fence → (∀ i, Attended a.doc fence (turns i)) →
      (∀ issue ∈ (reconcileDryRun h a).2.issues, issue.kind = .releasableReservation →
        canonicalSHA256 issue.reservationID = true ∧ Unrecorded E a.doc issue) →
      ((E.reconcileApply P h turns policyRevision fence a).2.2 = .ok () ↔
        ∀ issue ∈ (reconcileDryRun h a).2.issues, issue.kind = .releasableReservation →
          Withheld a.doc issue ∨ Closable a.doc issue) ∧
      ((E.reconcileApply P h turns policyRevision fence a).2.2 = .ok () →
        ∀ issue ∈ (reconcileDryRun h a).2.issues, issue.kind = .releasableReservation → ¬ Withheld a.doc issue →
          ∃ r, (E.reconcileApply P h turns policyRevision fence a).1.doc.reservations.get? issue.reservationID =
            some r ∧
            r.released = true) := by
  have hwf := reachable_wf ha
  refine ⟨fun issue hi hk hr action fields request fence evidence call => ?_,
    fun E policyRevision fence turns laws hperm ho hat hw ht hall => ?_⟩
  · obtain ⟨ho, hat⟩ := dryRun_opened hi
    obtain ⟨r, engagement, hrep⟩ := dryRun_reported hwf ho hat hi hk
    exact release_answer_iff hlaw (reachable_capped hP ha) hwf hrep call
  · have happly : E.reconcileApply P h turns policyRevision fence a =
        ((E.applyIssues P policyRevision fence turns (reconcileDryRun h a).2.issues a).1,
          { (reconcileDryRun h a).2 with
            appliedActionIDs := (E.applyIssues P policyRevision fence turns (reconcileDryRun h a).2.issues a).2.1 },
          (E.applyIssues P policyRevision fence turns (reconcileDryRun h a).2.issues a).2.2) := by
      simp [Reconciler.reconcileApply, hperm, (dryRun_issues ho hat).1]
    have hloop := applyIssues_iff laws hlaw hP hA policyRevision (reconcileDryRun h a).2.issues turns a ha ho hw ht
      (dryRun_apart hwf ho hat) fun issue hi hk =>
        ⟨dryRun_reported hwf ho hat hi hk, (hall issue hi hk).1, (hall issue hi hk).2⟩
    rw [happly]
    exact ⟨hloop.ends, hloop.released⟩

namespace Sample

/-! ## An engine for the sample protocol -/

/-- A string behind its length, with short codes for the digests the runs release. -/
def field (s : String) : List Char :=
  if s = relayDigest then ['1']
  else if s = serviceDigest then ['2']
  else if s = reservationDigest then ['3']
  else if s = manifestDigest then ['4']
  else List.replicate s.toList.length 'a' ++ 'b' :: s.toList

def unfield : List Char → Option (String × List Char)
  | '1' :: rest => some (relayDigest, rest)
  | '2' :: rest => some (serviceDigest, rest)
  | '3' :: rest => some (reservationDigest, rest)
  | '4' :: rest => some (manifestDigest, rest)
  | cs =>
    let n := (cs.takeWhile (· == 'a')).length
    match cs.dropWhile (· == 'a') with
    | [] => none
    | _ :: rest => some (String.ofList (rest.take n), rest.drop n)

theorem unfield_field (s : String) (rest : List Char) : unfield (field s ++ rest) = some (s, rest) := by
  unfold field
  iterate 4
    split
    · rename_i hs; rw [hs]; rfl
  cases hl : s.toList with
  | nil =>
    have hempty : s = "" := String.toList_inj.1 hl
    rw [hempty]
    rfl
  | cons c cs =>
    have hs : String.ofList (c :: cs) = s := by rw [← hl, String.ofList_toList]
    simp [unfield, List.replicate_succ, hs]

def encodeRelease (r : PortfolioReleaseRequest) : Bytes :=
  String.ofList (field r.reservationID ++ (field r.agreementDigest ++ (field r.terminalEvidenceSetDigest ++
    List.replicate r.targetPortfolioRevision.toNat 'a')))

def decodeRelease (raw : Bytes) : Except String PortfolioReleaseRequest :=
  match unfield raw.toList with
  | none => .error "malformed"
  | some (reservationID, rest) =>
    match unfield rest with
    | none => .error "malformed"
    | some (agreementDigest, rest) =>
      match unfield rest with
      | none => .error "malformed"
      | some (evidence, rest) => .ok ⟨reservationID, agreementDigest, UInt64.ofNat rest.length, evidence⟩

theorem decodeRelease_encode (r : PortfolioReleaseRequest) : decodeRelease (encodeRelease r) = .ok r := by
  simp [decodeRelease, encodeRelease, unfield_field]

def reconciling : Protocol :=
  { protocol with
    digest := fun _ v => match v with
      | .strings _ => .ok manifestDigest
      | v => digest v
    decodePortfolioRelease := decodeRelease }

def reconciler : Reconciler where
  ownerID := "owner"
  agentID := "alice"
  mandateDigest := "mandate"
  terminalStateDigest _ _ _ := .ok profileDigest
  marshalRelease r := .ok (encodeRelease r)
  buildAuthorizedAction ownerID agentID kind fields request fence _ _ _ _ _ :=
    .ok { action kind (match fields.get? "reservation_id" with
            | some (.digest32 id) => id
            | _ => "") with
          authorityID := fence.body.authorityID, ownerID := ownerID, agentID := agentID
          exactRequestDigest := request, writerGeneration := fence.body.writerGeneration }
  signAuthorizedAction action := .ok { action with proof := "proof" }

def turn (t : Int) : Turn := ⟨host t, host t, host t, host t⟩

theorem reconciler_builds (request : PortfolioReleaseRequest) (canonical : Bytes) (state : EngagementState)
    (policyRevision : UInt64) (fence : WriterFence) :
    reconciler.buildRelease request canonical state policyRevision fence =
      .ok { action "portfolio.release" request.reservationID with
            authorityID := fence.body.authorityID, exactRequestDigest := canonical
            writerGeneration := fence.body.writerGeneration } := by
  have hfield : (reconciler.releaseFields request).get? "reservation_id" = some (.digest32 request.reservationID) := by
    simp [Reconciler.releaseFields, Map.get?_put]
  simp only [Reconciler.buildRelease]
  simp only [reconciler] at hfield ⊢
  rfl

theorem reconciler_laws : ReconcilerLaws reconciler reconciling := by
  have hdecode : reconciling.decodePortfolioRelease = decodeRelease := rfl
  refine ⟨fun _ _ _ => ⟨profileDigest, rfl⟩, fun _ => ⟨manifestDigest, rfl, by decide +kernel⟩,
    fun request => ⟨encodeRelease request, rfl, ?_⟩,
    fun canonical state policyRevision fence _ => ⟨_, reconciler_builds _ canonical state policyRevision fence⟩,
    fun hb => ?_, fun hb hb' heq => ?_, fun _ => ⟨"proof", rfl⟩, fun hb hs _ _ _ => ?_⟩
  · rw [hdecode, decodeRelease_encode]
  · cases hb
    exact ⟨rfl, rfl, rfl, rfl⟩
  · cases hb
    cases hb'
    exact heq
  · cases hb
    cases hs
    simp [reconciling, protocol]

theorem reconciling_buckets : CanonicalBuckets reconciling := fun asset _ hd => digest_canonical (.asset asset) _ hd

theorem reconciling_admissions : DistinctAdmissions reconciling := sample_distinctAdmissions

theorem reconciling_resolves : ResolvesReleases reconciling := by
  refine ⟨fun revision _ _ _ => ?_, fun resolution => ?_⟩
  · by_cases hz : revision = 0 <;> simp [reconciling, protocol, resolutionOf, hz]
  · simp only [reconciling, protocol]
    split
    · simp [errCustodyAuthorizationLive]
    · simp

/-- The relay agreement reserved, signed by `alice`, withdrawn by `bob`, and closed in some state. -/
def closedRun (state : EngagementState) : List Event :=
  [acquire, proposeRelay, reserveRelay 2, signRelay aliceSigns,
    call 105 (.observeAgreementWithdrawal relayDigest "propose" "bob" "event-2"),
    call 106 (.transitionEngagement relayDigest .cancellationResolving state "" [])]

def serviceHold : List Event :=
  [call 107 (.recordAgreementProposal serviceBody "bob" "event-5" "propose-service"),
    call 108 (.admitAction (action "portfolio.hold" "hold") ∅ "hold" fence
      (some { reservationID := manifestDigest, agreementDigest := serviceDigest, asset := some native
              spendAtomic := 5, maximumLossAtomic := 5 })),
    call 109 (.observeAgreementWithdrawal serviceDigest "propose-service" "bob" "event-6")]

end Sample

open Sample in
/-- The relay agreement is cancelled, and reconciliation releases its hold. -/
theorem cancelled_hold_reconciled :
    let a := exec (step reconciling) Sample.authority (closedRun .cancelled)
    let after := reconciler.reconcileApply reconciling (host 110) (fun _ => turn 110) 1
      Sample.fence a
    (reconcileDryRun (host 110) a).2.issues.map (fun i => (i.kind, i.reservationID)) =
        [(.releasableReservation, reservationDigest)] ∧
      after.2.2 = .ok () ∧
      ∀ issue ∈ (reconcileDryRun (host 110) a).2.issues, issue.kind = .releasableReservation →
        ∃ r, after.1.doc.reservations.get? issue.reservationID = some r ∧ r.released = true := by
  intro a after
  have ha : Reachable reconciling a := ⟨"owner", "alice", "authority", limits, _, rfl⟩
  have hissued : a.doc.issuedCustodyPayments.all (fun _ _ => false) = true := by decide +kernel
  have hids : (reconcileDryRun (host 110) a).2.issues.all
      (fun i => canonicalSHA256 i.reservationID && !a.doc.actions.has i.reservationID) = true := by decide +kernel
  have hwriter : a.poisoned = false ∧ a.doc.currentFence = some Sample.fence ∧ a.doc.writerGeneration = 1 ∧
      a.doc.authorityID = "authority" ∧ a.doc.ownerID = "owner" ∧ a.doc.agentID = "alice" := by decide +kernel
  have hreport : (reconcileDryRun (host 110) a).2.issues.map (fun i => (i.kind, i.reservationID)) =
      [(.releasableReservation, reservationDigest)] := by decide +kernel
  have hok : after.2.2 = .ok () := by decide +kernel
  obtain ⟨hopen, hfence, hgeneration, hauthority, howner, hagent⟩ := hwriter
  have hnone : ∀ k i, a.doc.issuedCustodyPayments.get? k ≠ some i := fun k i hk => by
    simpa using Map.all_iff.1 hissued k i hk
  clear_value a
  have happly := (reconciliation_releases_iff reconciling_buckets reconciling_admissions
    reconciling_resolves ha (host 110)).2 reconciler 1 Sample.fence (fun _ => turn 110)
    reconciler_laws rfl hopen rfl ⟨hfence, hgeneration.symm, rfl, hauthority.symm, howner.symm, hagent.symm⟩
    (fun _ => ⟨rfl, rfl, rfl, rfl, by decide, fun k i hk => absurd hk (hnone k i), by decide, by decide, by decide,
      by decide, rfl⟩) ?_
  · exact ⟨hreport, hok, fun issue hi hk => happly.2 hok issue hi hk fun ⟨k, i, hk, _⟩ => hnone k i hk⟩
  · intro issue hi _
    have hid := List.all_eq_true.1 hids issue hi
    rw [Bool.and_eq_true, Bool.not_eq_true', Map.has_false_iff] at hid
    refine ⟨hid.1, fun request canonical state policyRevision fence action hreq hb => ?_⟩
    rw [reconciler_builds] at hb
    cases hb
    exact hreq ▸ hid.2

open Sample in
/-- An unpaid agreement is reported before a cancelled one. The authority refuses its release, and the
apply loop stops there: the hold of the cancelled agreement is not released. -/
theorem unpaid_engagement_stops_reconciliation :
    let a := exec (step reconciling) authority (closedRun .unpaid ++ serviceHold)
    let after := reconciler.reconcileApply reconciling (host 110) (fun _ => turn 110) 1
      fence a
    (reconcileDryRun (host 110) a).2.issues.map (fun i => (i.kind, i.reservationID, i.engagementState)) =
        [(.releasableReservation, reservationDigest, some .unpaid),
          (.releasableReservation, manifestDigest, some .cancelled)] ∧
      after.2.2 = .error "non-terminal Agreement cannot release its Portfolio reservation" ∧
      (after.1.doc.reservations.get? manifestDigest).map (·.released) = some false := by
  decide +kernel

end OpenFox.Authority
