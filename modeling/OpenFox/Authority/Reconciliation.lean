/-
The engine's reconciliation over the authority: the dry run, which reports engagements that need
evidence, reservations without an Agreement and reservations a terminal engagement still holds,
and the apply loop, which releases the last kind one after the other and stops at the first
release the authority refuses.
-/
import OpenFox.Authority.System

namespace OpenFox.Authority

open OpenFox.Go OpenFox.Commerce

/-! ## The report -/

inductive IssueKind
  | unresolvedEngagement | orphanReservation | releasableReservation
deriving DecidableEq

def IssueKind.text : IssueKind → String
  | unresolvedEngagement => "unresolved-engagement"
  | orphanReservation => "orphan-reservation"
  | releasableReservation => "releasable-reservation"

structure ReconciliationIssue where
  kind : IssueKind
  agreementDigest : String
  reservationID : String
  engagementState : Option EngagementState := none
  blocking : Bool := false
  detail : String
deriving DecidableEq

structure ReconciliationReport where
  portfolioRevision : UInt64
  issues : List ReconciliationIssue
  appliedActionIDs : List String := []
deriving DecidableEq

def terminalEngagement : EngagementState → Bool
  | .settled | .unpaid | .cancelled | .failed => true
  | _ => false

def PersonalAuthority.reconciliationSnapshot (h : Host) (a : PersonalAuthority) :
    PersonalAuthority × UInt64 × List ExposureReservation × Map String EngagementRecord :=
  match a.ensureStorageIdentityLocked h with
  | (a, .error _) => (a, 0, [], ∅)
  | (a, .ok _) => (a, a.doc.portfolioRevision, (a.doc.reservations.range h.range 0).map (·.2), a.doc.engagements)

/-- An engagement that waits for an operator or an adapter. -/
def engagementIssue (engagement : EngagementRecord) : Option ReconciliationIssue :=
  if engagement.state = .ambiguous ∨ engagement.state = .cancellationResolving ∨ engagement.state = .fundingPending then
    some
      { kind := .unresolvedEngagement, agreementDigest := engagement.agreementDigest
        reservationID := engagement.reservationID, engagementState := some engagement.state, blocking := true
        detail := "operator or adapter evidence is required; timeout is not success" }
  else none

def reservationIssue (engagements : Map String EngagementRecord) (reservation : ExposureReservation) :
    Option ReconciliationIssue :=
  if reservation.released then none
  else match engagements.get? reservation.agreementDigest with
  | none => some
      { kind := .orphanReservation, agreementDigest := reservation.agreementDigest
        reservationID := reservation.reservationID, blocking := true
        detail := "reservation has no Agreement record and cannot be released automatically" }
  | some engagement =>
    if terminalEngagement engagement.state then some
      { kind := .releasableReservation, agreementDigest := reservation.agreementDigest
        reservationID := reservation.reservationID, engagementState := some engagement.state
        detail := "terminal engagement retains Portfolio exposure" }
    else none

def ReconciliationIssue.key (issue : ReconciliationIssue) : String :=
  issue.kind.text ++ "\x00" ++ issue.agreementDigest ++ "\x00" ++ issue.reservationID

def reconcileDryRun (h : Host) (a : PersonalAuthority) : PersonalAuthority × ReconciliationReport :=
  let (a, revision, reservations, engagements) := a.reconciliationSnapshot h
  let issues := (engagements.range h.range 1).filterMap (fun e => engagementIssue e.2) ++
    reservations.filterMap (reservationIssue engagements)
  (a, { portfolioRevision := revision, issues := issues.insertionSort fun l r => l.key ≤ r.key })

/-! ## Applying the report -/

/-- The engine's identity and permission, and the library functions only reconciliation calls. -/
structure Reconciler where
  ownerID : String
  agentID : String
  mandateDigest : String
  permitted : Bool := true
  /-- `codec.Digest` of the terminal state: Agreement digest, state and state revision. -/
  terminalStateDigest : String → EngagementState → UInt64 → Except String String
  marshalRelease : PortfolioReleaseRequest → Except String Bytes
  /-- Owner, agent, kind, fields, request, fence, policy revision, mandate, approval, state, expiry. -/
  buildAuthorizedAction : String → String → String → SemanticFields → Bytes → WriterFence → UInt64 → String → String →
    EngagementState → UInt64 → Except String AuthorizedAction
  signAuthorizedAction : AuthorizedAction → Except String AuthorizedAction

/-- What the authority finds at the four calls one issue takes. -/
structure Turn where
  engagement : Host
  snapshot : Host
  sign : Host
  release : Host

def errCustodyAuthorizationLive : String := "issued native custody authorization is still live"

def PersonalAuthority.engagement (h : Host) (a : PersonalAuthority) (agreementDigest : String) :
    PersonalAuthority × Option EngagementRecord :=
  match a.ensureStorageIdentityLocked h with
  | (a, .error _) => (a, none)
  | (a, .ok _) => (a, a.doc.engagements.get? agreementDigest)

/-- The revision `Snapshot` returns; it expires due bearers, and a failure returns revision zero. -/
def PersonalAuthority.snapshotRevision (P : Protocol) (h : Host) (a : PersonalAuthority) : PersonalAuthority × UInt64 :=
  match Authority.snapshot.run P h a with
  | (a, .ok (revision, _, _)) => (a, revision)
  | (a, .error _) => (a, 0)

def uniqueStrings : List String → List String
  | a :: b :: l => if a = b then uniqueStrings (b :: l) else a :: uniqueStrings (b :: l)
  | l => l

namespace Reconciler

variable (E : Reconciler) (P : Protocol)

def signAction (h : Host) (action : AuthorizedAction) (fence : WriterFence) : Operation AuthorizedAction where
  body doc := do
    refuse (holdsWriter doc fence = false ∨ action.authorityID ≠ doc.authorityID ∨ action.ownerID ≠ doc.ownerID ∨
        action.agentID ≠ doc.agentID ∨ ¬ h.clock 1 < Time.ofUnix fence.body.expiresAtUnix)
      "stale writer cannot sign an action"
    let signed ← E.signAuthorizedAction action
    pure (.keep signed)

def terminalEvidence (record : EngagementRecord) : Except String String := do
  let stateEvidence ← E.terminalStateDigest record.agreementDigest record.state record.stateRevision
  let evidence := sortStrings (record.settlementEvidence ++ record.deliveryEvidence ++ [stateEvidence])
  P.digest "tos.portfolio-terminal-evidence-set.v1" (.strings (uniqueStrings evidence))

def releaseFields (request : PortfolioReleaseRequest) : SemanticFields :=
  (((((∅ : SemanticFields).put "owner_id" (.id E.ownerID)).put "agent_id" (.id E.agentID)).put "reservation_id"
    (.digest32 request.reservationID)).put "target_revision" (.u64 request.targetPortfolioRevision)).put
    "terminal_evidence_set_digest" (.digest32 request.terminalEvidenceSetDigest)

def buildRelease (request : PortfolioReleaseRequest) (canonical : Bytes) (state : EngagementState)
    (policyRevision : UInt64) (fence : WriterFence) : Except String AuthorizedAction :=
  E.buildAuthorizedAction E.ownerID E.agentID "portfolio.release" (E.releaseFields request) canonical fence
    policyRevision E.mandateDigest "" state fence.body.expiresAtUnix

/-- Sign and submit the release of one reservation. A live bearer keeps its hold and is no error. -/
def submitRelease (turn : Turn) (action : AuthorizedAction) (fields : SemanticFields) (canonical : Bytes)
    (fence : WriterFence) (a : PersonalAuthority) : PersonalAuthority × Except String (Option String) :=
  match (E.signAction turn.sign action fence).run P turn.sign a with
  | (a, .error e) => (a, .error e)
  | (a, .ok signed) =>
    match (releaseReservation P turn.release signed fields canonical fence 0 0).run P turn.release a with
    | (a, .ok resolution) => (a, .ok (some resolution.stableActionID))
    | (a, .error e) => (a, if e = errCustodyAuthorizationLive then .ok none else .error e)

/-- One round of the apply loop, for a releasable reservation. -/
def applyIssue (turn : Turn) (policyRevision : UInt64) (fence : WriterFence) (issue : ReconciliationIssue)
    (a : PersonalAuthority) : PersonalAuthority × Except String (Option String) :=
  match a.engagement turn.engagement issue.agreementDigest with
  | (a, none) => (a, .error "reconciliation state changed before apply")
  | (a, some record) =>
    if terminalEngagement record.state = false then (a, .error "reconciliation state changed before apply")
    else match E.terminalEvidence P record with
    | .error e => (a, .error e)
    | .ok evidenceSetDigest =>
      let (a, revision) := a.snapshotRevision P turn.snapshot
      let request : PortfolioReleaseRequest :=
        { reservationID := issue.reservationID, agreementDigest := issue.agreementDigest
          targetPortfolioRevision := revision + 1, terminalEvidenceSetDigest := evidenceSetDigest }
      match E.marshalRelease request with
      | .error e => (a, .error e)
      | .ok canonical =>
        match E.buildRelease request canonical record.state policyRevision fence with
        | .error e => (a, .error e)
        | .ok action => E.submitRelease P turn action (E.releaseFields request) canonical fence a

/-- The apply loop: the actions applied so far, and the error it stopped at, if any. -/
def applyIssues (policyRevision : UInt64) (fence : WriterFence) :
    (ℕ → Turn) → List ReconciliationIssue → PersonalAuthority → PersonalAuthority × List String × Except String Unit
  | _, [], a => (a, [], .ok ())
  | turns, issue :: issues, a =>
    if issue.kind ≠ .releasableReservation then applyIssues policyRevision fence turns issues a
    else match E.applyIssue P (turns 0) policyRevision fence issue a with
    | (a, .error e) => (a, [], .error e)
    | (a, .ok applied) =>
      let (a, rest, result) := applyIssues policyRevision fence (fun i => turns (i + 1)) issues a
      (a, applied.toList ++ rest, result)

def reconcileApply (h : Host) (turns : ℕ → Turn) (policyRevision : UInt64) (fence : WriterFence)
    (a : PersonalAuthority) : PersonalAuthority × ReconciliationReport × Except String Unit :=
  if E.permitted then
    let (a, report) := reconcileDryRun h a
    let (a, applied, result) := E.applyIssues P policyRevision fence turns report.issues a
    (a, { report with appliedActionIDs := applied }, result)
  else (a, { portfolioRevision := 0, issues := [] }, .error "applied reconciliation is paused")

end Reconciler

end OpenFox.Authority
