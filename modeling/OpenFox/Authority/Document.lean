/-
The owner authority's journal document (`authorityDocument`): portfolio reservations and loss
totals, engagements with their obligation runtimes, issued and expired custody bearers, recorded
actions, the settlement ledger, scheduling and accounting. The engagement state projected from the
runtimes (`obligation_runtime.go`), with the two transition tables.
-/
import OpenFox.Commerce.Protocol

namespace OpenFox.Authority

open OpenFox.Go OpenFox.Commerce

variable (record : EngagementRecord)

/-! ## Text checks -/

/-- The bytes after the prefix `sha256:`, if there are 64 of them. -/
def sha256Hex (value : String) : Option (List UInt8) :=
  match value.toByteArray.data.toList with
  | 115 :: 104 :: 97 :: 50 :: 53 :: 54 :: 58 :: tail => if tail.length = 64 then some tail else none
  | _ => none

def canonicalSHA256 (value : String) : Bool := (sha256Hex value).any fun tail => tail.all isLowerHex

/-- The check of `transitionEngagement`, which decodes the hex part and so also takes capitals. -/
def decodableSHA256 (value : String) : Bool := (sha256Hex value).any fun tail => tail.all isHex

def zeroSHA256Digest : String := "sha256:0000000000000000000000000000000000000000000000000000000000000000"

theorem canonicalSHA256_ne_empty {s : String} (h : canonicalSHA256 s = true) : s ≠ "" := by
  rintro rfl
  revert h
  decide

/-! ## Portfolio -/

structure ExposureReservation where
  reservationID : String
  agreementDigest : String
  asset : Option AssetIdentity := none
  computeUnits : UInt64 := 0
  spendAtomic : UInt64 := 0
  lockedCapitalAtomic : UInt64 := 0
  receivableAtomic : UInt64 := 0
  maximumLossAtomic : UInt64 := 0
  released : Bool := false
deriving DecidableEq, Inhabited

structure PortfolioLimits where
  computeUnits : UInt64
  spendAtomic : UInt64
  lockedCapitalAtomic : UInt64
  receivableAtomic : UInt64
  maximumLossAtomic : UInt64
  custodyNetworkDomainDigest : String := ""
  custodyFinalityGraceSeconds : UInt64 := 0
  custodyNativeAsset : Option AssetIdentity := none
  custodySourceAccount : String := ""
deriving DecidableEq, Inhabited

/-! ## Custody -/

structure IssuedCustodyPayment where
  paymentRequestDigest : String
  payment : PaymentRequest
  reservationID : String
  sponsorshipAdmissionID : String := ""
  authorization : CustodyActionAuthorization
  authorizationDigest : String
  finalityGraceSeconds : UInt64 := 0
  releaseAfterUnix : UInt64 := 0
  terminalEvidenceDigest : String := ""
  terminalReference : String := ""
deriving DecidableEq, Inhabited

structure ExpiredCustodyAuthorization where
  issuance : IssuedCustodyPayment
  expiredAtUnix : UInt64
deriving DecidableEq, Inhabited

structure RelaySponsorshipPaymentAdmission where
  admissionID : String
  payment : PaymentRequest
  paymentRequestDigest : String
  purpose : RelaySponsorshipCustodyPurpose
  purposeDigest : String
  reservation : ExposureReservation
  custodyAuthorizationExpiredAtUnix : UInt64 := 0
  expiredCustodyAuthorization : Option ExpiredCustodyAuthorization := none
deriving DecidableEq, Inhabited

structure SponsorshipCustodyBinding where
  admissionID : String
  paymentRequestDigest : String
  purposeDigest : String
  reservationID : String
  finalityProfileCBORDigest : String
  releaseProfileDigest : String
  corroborationSnapshotID : String
deriving DecidableEq, Inhabited

/-! ## Engagements -/

inductive EngagementState
  | proposed | authorizing | agreed | reserved | fundingPending | ready | executionPrepared | executing
  | executionSucceeded | delivered | settling | settled | unpaid | cancellationResolving | cancelled
  | failed | ambiguous
deriving DecidableEq, Inhabited

inductive ObligationState
  | pending | ready | executionPrepared | executing | executionSucceeded | delivered | settling | settled
  | overdue | cancelled | failed | ambiguous
deriving DecidableEq, Inhabited

structure ObligationRuntimeRecord where
  obligationID : String
  state : ObligationState
  stateRevision : UInt64
  executionID : String := ""
  executionEvidence : List String := []
  deliveryEvidence : List String := []
  deliveryEventID : String := ""
  settlementEvidence : List String := []
  executionCompletedAtUnix : UInt64 := 0
  lastTransitionAtUnix : UInt64
deriving DecidableEq, Inhabited

structure BoundAcceptedPrivateInput where
  obligationID : String
  record : AcceptedPrivateContent
deriving DecidableEq, Inhabited

structure BoundPrivateHandoffChallenge where
  obligationID : String
  challengeDigest : String
  sendActionID : String
deriving DecidableEq, Inhabited

structure EngagementRecord where
  agreement : AgentAgreement
  agreementDigest : String
  fullyAuthorizedEvidenceSetDigest : String := ""
  proposerAgentID : String
  proposalEventID : String
  proposalActionID : String
  negotiationAmbiguous : Bool := false
  negotiationConflictCodes : List String := []
  negotiationConflictDigests : List String := []
  state : EngagementState
  stateRevision : UInt64
  reservationID : String := ""
  reservationActionID : String := ""
  reservationActionExactRequestDigest : String := ""
  custodyAuthorizationExpiredAtUnix : UInt64 := 0
  expiredCustodyAuthorization : Option ExpiredCustodyAuthorization := none
  executionID : String := ""
  fundingEvidence : List String := []
  executionEvidence : List String := []
  deliveryEvidence : List String := []
  deliveryEventID : String := ""
  settlementEvidence : List String := []
  acceptedPrivateInputs : List AcceptedPrivateContent := []
  boundPrivateInputs : List BoundAcceptedPrivateInput := []
  privateHandoffChallenges : List BoundPrivateHandoffChallenge := []
  obligationRuntime : Map String ObligationRuntimeRecord := ∅
  lastTransitionAtUnix : UInt64

instance : Inhabited EngagementRecord where
  default :=
    { agreement := default, agreementDigest := "", proposerAgentID := "", proposalEventID := "",
      proposalActionID := "", state := .proposed, stateRevision := 0, lastTransitionAtUnix := 0 }

abbrev EngagementRecord.body (r : EngagementRecord) : AgentAgreementBody := r.agreement.body

structure SettlementLedgerRecord where
  obligation : SettlementObligation
  state : SettlementState
deriving DecidableEq, Inhabited

structure OutcomeJournalAuthorityHead where
  epoch : UInt64
  sequence : UInt64
  eventContentID : String
  operationEnvelopeDigest : String
  gapSetDigest : String
  stableActionID : String
  exactRequestDigest : String
deriving DecidableEq, Inhabited

/-! ## The document -/

structure AuthorityDocument where
  ownerID : String
  agentID : String
  authorityID : String
  writerGeneration : UInt64 := 0
  currentFence : Option WriterFence := none
  actions : Map String ActionResolution := ∅
  authorizedActions : Map String AuthorizedAction := ∅
  outcomeJournalHeads : Map String OutcomeJournalAuthorityHead := ∅
  authorityInstances : Map String AuthorityInstanceRecord := ∅
  nextInstanceSequence : UInt64 := 1
  nextRelayAdmissionSequence : UInt64 := 1
  relayAdmissions : Map String RelayAdmissionReceipt := ∅
  relayAdmissionBindings : Map String String := ∅
  relaySponsorshipPayments : Map String RelaySponsorshipPaymentAdmission := ∅
  issuedCustodyPayments : Map String IssuedCustodyPayment := ∅
  portfolioRevision : UInt64 := 1
  limits : PortfolioLimits
  consumedMaximumLossAtomic : UInt64 := 0
  retainedDefaultLiabilityAtomic : UInt64 := 0
  consumedMaximumLossByAsset : Map String UInt64 := ∅
  retainedDefaultLiabilityByAsset : Map String UInt64 := ∅
  reservations : Map String ExposureReservation := ∅
  scheduleEntries : Map String ScheduleEntry := ∅
  dependencies : List PortfolioDependency := []
  engagements : Map String EngagementRecord := ∅
  settlementLedger : Map String SettlementLedgerRecord := ∅
  accounting : Map String AccountingEntry := ∅

/-- The document `OpenPersonalAuthority` writes into an empty directory. -/
def AuthorityDocument.fresh (ownerID agentID authorityID : String) (limits : PortfolioLimits) : AuthorityDocument :=
  { ownerID := ownerID, agentID := agentID, authorityID := authorityID, limits := limits }

/-! ## Runtimes -/

/-- The runtime state a legacy single-obligation record migrates to. -/
def EngagementState.legacyObligationState : EngagementState → ObligationState
  | .executionPrepared => .executionPrepared
  | .executing => .executing
  | .executionSucceeded => .executionSucceeded
  | .delivered => .delivered
  | .settling => .settling
  | .settled => .settled
  | .unpaid => .overdue
  | .cancelled => .cancelled
  | .failed => .failed
  | .ambiguous => .ambiguous
  | _ => .pending

def initialRuntime (obligationID : String) : ObligationRuntimeRecord :=
  { obligationID := obligationID
    state := if record.body.obligations.length = 1 then record.state.legacyObligationState else .pending
    stateRevision := 1
    executionID := record.executionID
    executionEvidence := record.executionEvidence
    deliveryEvidence := record.deliveryEvidence
    deliveryEventID := record.deliveryEventID
    settlementEvidence := record.settlementEvidence
    lastTransitionAtUnix := record.lastTransitionAtUnix }

def initializedRuntime : Map String ObligationRuntimeRecord :=
  record.body.obligations.foldl
    (fun m o => if m.has o.obligationID then m else m.put o.obligationID (initialRuntime record o.obligationID))
    record.obligationRuntime

def initializeObligationRuntime : EngagementRecord :=
  { record with obligationRuntime := initializedRuntime record }

def validateObligationRuntime : Except String Unit := do
  refuse (record.obligationRuntime.entries.length ≠ record.body.obligations.length)
    "engagement obligation runtime cardinality differs from Agreement"
  refuse (record.body.obligations.any fun o =>
      match record.obligationRuntime.get? o.obligationID with
      | none => true
      | some runtime => runtime.obligationID != o.obligationID || runtime.stateRevision == 0 ||
          runtime.lastTransitionAtUnix == 0)
    "engagement obligation runtime is invalid"

def obligationByID (obligationID : String) : Option AgreementObligation :=
  record.body.obligations.find? fun o => o.obligationID == obligationID

def obligationDependenciesSatisfied (obligation : AgreementObligation) : Bool :=
  obligation.dependsOnObligationIDs.all fun id =>
    match record.obligationRuntime.get? id with
    | some dependency => dependency.state == .delivered || dependency.state == .settled
    | none => false

def allowedObligationTransition : ObligationState → ObligationState → Bool
  | .pending, t => t == .ready || t == .executionPrepared || t == .delivered || t == .settling || t == .cancelled
  | .ready, t => t == .executionPrepared || t == .cancelled
  | .executionPrepared, t => t == .executing || t == .ambiguous || t == .failed
  | .executing, t => t == .executionSucceeded || t == .failed || t == .ambiguous
  | .executionSucceeded, t => t == .delivered || t == .failed
  | .delivered, t => t == .settling || t == .settled
  | .settling, t => t == .settled || t == .overdue || t == .ambiguous || t == .failed
  | .overdue, t => t == .settled
  | _, _ => false

def allowedEngagementTransition : EngagementState → EngagementState → Bool
  | .reserved, t => t == .fundingPending || t == .ready
  | .fundingPending, t => t == .ready || t == .ambiguous || t == .failed
  | .ready, t => t == .executionPrepared || t == .cancelled
  | .executionPrepared, t => t == .executing || t == .ambiguous || t == .failed
  | .executing, t => t == .executionSucceeded || t == .failed || t == .ambiguous
  | .executionSucceeded, t => t == .delivered || t == .failed
  | .delivered, t => t == .settling || t == .settled || t == .unpaid
  | .settling, t => t == .settled || t == .unpaid || t == .ambiguous || t == .failed
  | .cancellationResolving, t => t == .cancelled || t == .settled || t == .unpaid || t == .ambiguous
  | _, _ => false

def appendUniqueSorted (values additions : List String) : List String :=
  sortStrings (additions.foldl (fun l v => if l.contains v then l else l ++ [v]) values)

/-! ## Projection -/

def hasValueObligation : Bool :=
  record.body.obligations.any fun o => o.amount.isSome

def allNonValueObligationsDelivered : Bool :=
  record.body.obligations.all fun o => o.amount.isSome ||
    match record.obligationRuntime.get? o.obligationID with
    | some runtime => runtime.state == .delivered || runtime.state == .settled
    | none => false

structure Projection where
  allTerminal : Bool := true
  allDeliveredOrSettled : Bool := true
  projected : Option EngagementState := none

/-- One round of the projection loop. An ambiguous obligation always wins and a failed one yields
only to it; of the other states the first obligation visited decides. -/
def Projection.visit (p : Projection) (entry : (_ : String) × ObligationRuntimeRecord) : Projection :=
  let valued := ((obligationByID record entry.1).bind (·.amount)).isSome
  let state := entry.2.state
  let settledOrCancelled := state == .settled || state == .cancelled
  { allTerminal := p.allTerminal && (settledOrCancelled || (state == .delivered && !valued))
    allDeliveredOrSettled := p.allDeliveredOrSettled && (settledOrCancelled || state == .delivered)
    projected :=
      match state with
      | .ambiguous => some .ambiguous
      | .failed => if p.projected = some .ambiguous then p.projected else some .failed
      | .executing => p.projected.or (some .executing)
      | .executionPrepared => p.projected.or (some .executionPrepared)
      | .executionSucceeded => p.projected.or (some .executionSucceeded)
      | .settling => p.projected.or (some .settling)
      | .overdue => p.projected.or (some .unpaid)
      | _ => p.projected }

def projectRuntime (order : RangeOrder) (record : EngagementRecord) : Projection :=
  (record.obligationRuntime.range order 2).foldl (Projection.visit record) {}

def projectedState (order : RangeOrder) (record : EngagementRecord) : EngagementState :=
  if record.obligationRuntime.entries = [] then record.state
  else
    let p := projectRuntime order record
    match p.projected with
    | some s => s
    | none =>
      if p.allTerminal then .settled
      else if p.allDeliveredOrSettled then .delivered
      else if allNonValueObligationsDelivered record then .delivered
      else if record.reservationID ≠ "" then .reserved
      else record.state

def refreshEngagementProjection (order : RangeOrder) (record : EngagementRecord) : EngagementRecord :=
  { record with state := projectedState order record }

end OpenFox.Authority
