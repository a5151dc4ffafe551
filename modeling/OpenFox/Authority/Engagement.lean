/-
The engagement ledger (`engagement_ledger.go`): proposals and negotiation conflicts, withdrawals and
deliveries, evidence and the full-authorization marker, the reservation of an Agreement's exposure and
its compensation, private inputs and handoff challenges, and the table-driven transitions.
-/
import OpenFox.Authority.Issue

namespace OpenFox.Authority

open OpenFox.Go OpenFox.Commerce

variable (P : Protocol) (h : Host) (doc : AuthorityDocument) (record : EngagementRecord) (body : AgentAgreementBody)

def putEngagement (digest : String) (record : EngagementRecord) : AuthorityDocument :=
  { doc with engagements := doc.engagements.put digest record }

/-- The bookkeeping of every engagement update: one more revision, at a time. -/
def EngagementRecord.touch (atUnix : UInt64) : EngagementRecord :=
  { record with stateRevision := record.stateRevision + 1, lastTransitionAtUnix := atUnix }

/-! ## Proposals -/

def EngagementRecord.flagConflict (code : String) (digests : List String) (record : EngagementRecord) :
    EngagementRecord :=
  { record with
    negotiationAmbiguous := true
    negotiationConflictCodes := appendUniqueSorted record.negotiationConflictCodes [code]
    negotiationConflictDigests := digests.foldl
      (fun l d => if canonicalSHA256 d then appendUniqueSorted l [d] else l) record.negotiationConflictDigests }

/-- Mark every retained record of an agreement ID; the rejected body itself is not retained. -/
def flagLineage (agreementID code : String) (digests : List String) : AuthorityDocument :=
  { doc with
    engagements := doc.engagements.mapVal fun _ record =>
      if record.body.agreementID = agreementID then record.flagConflict code digests else record }

def recordNegotiationConflict (agreementID code : String) (digests : List String) :
    Except String AuthorityDocument := do
  refuse (doc.engagements.any (fun _ record => record.body.agreementID == agreementID) = false)
    "Agreement negotiation conflict has no retained lineage"
  pure (flagLineage doc agreementID code digests)

/-- The first retained record of the same ID and version a loop finds, under another digest. -/
def forkedSibling (digest : String) : Option String :=
  ((doc.engagements.range h.range 7).find? fun e =>
    e.2.body.agreementID == body.agreementID && e.2.body.version == body.version && e.1 != digest).map (·.1)

def newEngagement (digest proposerAgentID eventID proposalActionID : String) (now : Time) : EngagementRecord :=
  initializeObligationRuntime
    { agreement := { body := body }, agreementDigest := digest, proposerAgentID := proposerAgentID
      proposalEventID := eventID, proposalActionID := proposalActionID, state := .proposed, stateRevision := 1
      lastTransitionAtUnix := now.unixU64 }

/-- A version above one must succeed a retained record of the same lineage. -/
def validatePredecessor : Except String Unit :=
  if body.version ≤ 1 then .ok ()
  else match doc.engagements.get? body.predecessorAgreementDigest with
  | none => .error "Agreement predecessor is not locally verified"
  | some predecessor => validateAgreementSuccessor P predecessor.body body

def proposalArguments (proposerAgentID eventID proposalActionID : String) : Except String Unit := do
  refuse (proposerAgentID = "" ∨ eventID = "" ∨ proposalActionID = "") "Agreement proposal observation is incomplete"
  P.validateAgreementBody body
  let _ ← P.agreementBodyDigest body
  refuse (body.participants.contains proposerAgentID = false) "Agreement proposer is not a body participant"

def recordAgreementProposal (proposerAgentID eventID proposalActionID : String) : Operation EngagementRecord where
  before := proposalArguments P body proposerAgentID eventID proposalActionID
  body doc := do
    let digest ← P.agreementBodyDigest body
    match doc.engagements.get? digest with
    | some existing =>
      if existing.proposerAgentID = proposerAgentID ∧ existing.proposalActionID = proposalActionID then
        pure (.keep existing)
      else do
        let next ← recordNegotiationConflict doc body.agreementID "proposal_identity_conflict" [digest]
        pure (.storeThenFail next "Agreement proposal identity conflicts with the retained exact body")
    | none =>
      match forkedSibling h doc body digest with
      | some prior =>
        let next ← recordNegotiationConflict doc body.agreementID "agreement_body_fork" [prior, digest]
        pure (.storeThenFail next "conflicting Agreement body for the same ID and version")
      | none =>
        refuse (doc.engagements.any fun _ record =>
            record.body.agreementID == body.agreementID && record.negotiationAmbiguous)
          "Agreement lineage has a retained negotiation conflict"
        validatePredecessor P doc body
        let now := h.clock 1
        refuse (now < Time.ofUnix body.validFromUnix - P.maxIntentClockSkew ∨ ¬ now < Time.ofUnix body.expiresAtUnix)
          "Agreement proposal is premature or expired"
        let record := newEngagement body digest proposerAgentID eventID proposalActionID now
        pure (.store (putEngagement doc digest record) record)

/-- The shape `load` requires of a record's conflict marks. -/
def validNegotiationConflictRecord : Bool :=
  if record.negotiationAmbiguous then
    !record.negotiationConflictCodes.isEmpty && !record.negotiationConflictDigests.isEmpty &&
      record.negotiationConflictCodes.all
        (fun code => code == "agreement_body_fork" || code == "proposal_identity_conflict") &&
      decide (record.negotiationConflictCodes.Pairwise (· < ·)) &&
      record.negotiationConflictDigests.all canonicalSHA256 &&
      decide (record.negotiationConflictDigests.Pairwise (· < ·))
  else record.negotiationConflictCodes.isEmpty && record.negotiationConflictDigests.isEmpty

/-! ## Withdrawal and delivery -/

/-- Where a withdrawal moves an engagement, `none` where it changes nothing. -/
def withdrawalTarget : Except String (Option EngagementState) :=
  match record.state with
  | .proposed | .authorizing =>
    .ok (some (if record.reservationID ≠ "" then .cancellationResolving else .cancelled))
  | .cancelled | .failed => .ok none
  | .ambiguous => .error "Agreement proposal is not withdrawable in its current state"
  | _ => .error "accepted Agreement cannot be cancelled by withdrawing its proposal"

def observeAgreementWithdrawal (agreementDigest proposalActionID senderAgentID eventID : String) :
    Operation EngagementRecord where
  body doc :=
    match doc.engagements.get? agreementDigest with
    | none => .error "Agreement withdrawal is unrelated to the exact proposal"
    | some record => do
      refuse (record.proposalActionID ≠ proposalActionID ∨ record.proposerAgentID ≠ senderAgentID ∨ eventID = "")
        "Agreement withdrawal is unrelated to the exact proposal"
      match ← withdrawalTarget record with
      | none => pure (.keep record)
      | some state =>
        let record := { record with state := state }.touch (h.clock 1).unixU64
        pure (.store (putEngagement doc agreementDigest record) record)

def deliverableBy (agentID obligationID senderAgentID : String) : Bool :=
  record.body.obligations.any fun o => o.obligationID == obligationID && o.obligorAgentID == senderAgentID &&
    o.beneficiaryAgentID == agentID

/-- The record after the delivery of one obligation, its state projected anew. -/
def deliveredRecord (runtime : ObligationRuntimeRecord)
    (obligationID manifestDigest eventID : String) (atUnix : UInt64) : EngagementRecord :=
  let runtime := { runtime with
    state := .delivered, stateRevision := runtime.stateRevision + 1, deliveryEvidence := [manifestDigest]
    deliveryEventID := eventID, lastTransitionAtUnix := atUnix }
  let record := { record with
    obligationRuntime := record.obligationRuntime.put obligationID runtime
    deliveryEvidence := appendUniqueSorted record.deliveryEvidence [manifestDigest], deliveryEventID := eventID }
  refreshEngagementProjection h.range (record.touch atUnix)

def observeAgreementDelivery (agreementDigest obligationID manifestDigest senderAgentID eventID : String) :
    Operation EngagementRecord where
  before := refuse (canonicalSHA256 agreementDigest = false ∨ obligationID = "" ∨
      canonicalSHA256 manifestDigest = false ∨ senderAgentID = "" ∨ eventID = "")
    "Agreement delivery observation is incomplete"
  body doc :=
    match doc.engagements.get? agreementDigest with
    | none => .error "delivery has no exact Agreement"
    | some record => do
      refuse (deliverableBy record doc.agentID obligationID senderAgentID = false)
        "delivery sender or beneficiary differs from the Agreement"
      let record := initializeObligationRuntime record
      let runtime := record.obligationRuntime.getD obligationID default
      if runtime.deliveryEventID ≠ "" then do
        refuse (¬ (runtime.deliveryEventID = eventID ∧ runtime.deliveryEvidence.contains manifestDigest))
          "Agreement delivery conflicts with prior evidence"
        pure (.keep record)
      else do
        refuse (runtime.state ≠ .pending ∧ runtime.state ≠ .ready) "Agreement is not awaiting counterparty delivery"
        refuse ((obligationByID record obligationID).any (obligationDependenciesSatisfied record) = false)
          "Agreement delivery dependencies are unresolved"
        let record := deliveredRecord h record runtime obligationID manifestDigest eventID (h.clock 1).unixU64
        pure (.store (putEngagement doc agreementDigest record) record)

/-! ## Evidence -/

def evidenceRetained (evidenceDigest : String) : Bool :=
  record.agreement.authorizationEvidence.any fun e =>
    P.digest "tos.agreement-authorization-evidence.v1" (.evidence e) == .ok evidenceDigest

def hasSuccessor (agreementDigest : String) : Bool :=
  doc.engagements.any fun _ record => record.body.predecessorAgreementDigest == agreementDigest

/-- The state and marker the candidate evidence set earns. -/
def authorizationResult (candidate : AgentAgreement) (verifier : Verifier) (now : Time) :
    Except String (EngagementState × String) :=
  match P.validateAgreementAuthorization candidate verifier now with
  | .error _ => .ok (.authorizing, "")
  | .ok _ => do
    let digest ← retainedAgreementAuthorizationSetDigest P { record with agreement := candidate }
    pure (if record.reservationID ≠ "" then .reserved else .agreed, digest)

def recordAgreementEvidence (agreementDigest : String) (evidence : AuthorizationEvidence) (verifier : Verifier) :
    Operation EngagementRecord where
  body doc :=
    match doc.engagements.get? agreementDigest with
    | none => .error "Agreement evidence has no active proposal"
    | some record => do
      refuse (record.state = .cancelled ∨ record.state = .failed) "Agreement evidence has no active proposal"
      refuse (exactRetainedAgreementBody P record = false ∨ record.agreementDigest ≠ agreementDigest)
        "Agreement evidence targets a mutated retained body"
      refuse (record.negotiationAmbiguous = true) "Agreement evidence targets an ambiguous negotiation lineage"
      refuse (isAgentSignatureOf P doc.agentID evidence = true ∧
          exposureCovered record doc.agentID (doc.reservations.get? record.reservationID) = false)
        "local buyer Agreement signature has no exact live maximum-loss hold"
      let evidenceDigest ← P.digest "tos.agreement-authorization-evidence.v1" (.evidence evidence)
      if evidenceRetained P record evidenceDigest then pure (.keep record)
      else do
        refuse ((record.state = .proposed ∨ record.state = .authorizing) ∧ hasSuccessor doc agreementDigest = true)
          "Agreement evidence targets an unfinished proposal superseded by a verified successor"
        let candidate := { record.agreement with
          authorizationEvidence := sortEvidence h.range (record.agreement.authorizationEvidence ++ [evidence]) }
        let now := h.clock 1
        validateAgreementAuthorizationTime P candidate now
        P.validatePartialAgreementAuthorization candidate verifier now
        let (state, marker) ← authorizationResult P record candidate verifier now
        let record := { record with
          agreement := candidate, state := state, fullyAuthorizedEvidenceSetDigest := marker }.touch now.unixU64
        pure (.store (putEngagement doc agreementDigest record) record)

/-! ## Reserving -/

structure PortfolioReservationRequest where
  reservation : ExposureReservation
  targetPortfolioRevision : UInt64
deriving DecidableEq

/-- A paid-demand buyer reserves exactly its paid-demand exposure. -/
def paidDemandReservationExact (agentID : String) (reservation : ExposureReservation) : Bool :=
  !paidDemandBuyerCandidate P record agentID || paidDemandBuyerReservation P record agentID == .ok reservation

/-- Every direct-payment obligation of an exposed generic buyer is in the pinned native asset. -/
def directAssetsPinned : Bool :=
  (match localAgreementPaymentExposure record.body doc.agentID with
    | .ok exposure => !(0 < exposure.maximumLoss)
    | .error _ => true) ||
  paidDemandBuyerCandidate P record doc.agentID ||
  record.body.obligations.all fun o =>
    match o.amount with
    | none => true
    | some amount => o.obligorAgentID != doc.agentID || o.settlementAdapterURI != P.directPaymentAdapterURI ||
        doc.limits.custodyNativeAsset == some amount.asset

def reservedRecord (action : AuthorizedAction) (reservationID : String) (atUnix : UInt64) : EngagementRecord :=
  EngagementRecord.touch { record with
    reservationID := reservationID, reservationActionID := action.stableActionID
    reservationActionExactRequestDigest := action.exactRequestDigest
    state := if record.state = .agreed then .reserved else .authorizing } atUnix

def reserveEngagement (action : AuthorizedAction) (fields : SemanticFields) (request : Bytes) (fence : WriterFence)
    (reserve : PortfolioReservationRequest) : Operation (ActionResolution × EngagementRecord) where
  expires := true
  body doc :=
    match doc.engagements.get? reserve.reservation.agreementDigest with
    | none => .error "Agreement is not eligible for reservation"
    | some record => do
      refuse (engagementEligibleForReservation P record doc.agentID = false ∨ reserve.reservation.released = true ∨
          reserve.targetPortfolioRevision ≠ doc.portfolioRevision + 1)
        "Agreement is not eligible for reservation"
      refuse (exactRetainedAgreementBody P record = false) "Agreement reservation targets a mutated retained body"
      refuse (paidDemandReservationExact P record doc.agentID reserve.reservation = false)
        "Paid Demand buyer reservation does not exactly cover Agreement exposure"
      refuse (exposureCovered record doc.agentID (some reserve.reservation) = false)
        "buyer reservation does not exactly cover Agreement maximum-loss exposure"
      refuse (directAssetsPinned P doc record = false) "buyer Agreement uses an unpinned settlement Adapter asset"
      refuse (holdsWriter doc fence = false) "stale writer cannot reserve an Agreement"
      refuse (action.actionKind ≠ "portfolio.reserve" ∨ verified P doc action fields request fence (h.clock 1) = false)
        "portfolio reservation action is not authorized"
      match doc.actions.get? action.stableActionID with
      | some prior =>
        refuse (prior.exactRequestDigest ≠ action.exactRequestDigest) "portfolio reservation identity conflicts"
        pure (.keep (prior, record))
      | none =>
        admitReservation P h.range doc reserve.reservation
        let resolution := resolutionOf action .terminal [] 1
        let record := reservedRecord record action reserve.reservation.reservationID (h.clock 2).unixU64
        let next := recordAction (putReservation doc reserve.reservation) action resolution
        pure (.store (putEngagement next record.agreementDigest record) (resolution, record))

/-! ## Compensation -/

/-- An authorizing engagement of a generic signer whose hold covers it and has no side effect. -/
def unsignedCancellable (reservation : ExposureReservation) : Bool :=
  record.state == .authorizing && !paidDemandBuyerCandidate P record doc.agentID &&
    hasLocalAgentSignaturePredicate P record doc.agentID &&
    (match localAgreementPaymentExposure record.body doc.agentID with
      | .ok exposure => reservationExactlyCoversAgreementPayment reservation record exposure
      | .error _ => false) &&
    !reservation.released && record.executionID == "" && record.custodyAuthorizationExpiredAtUnix == 0 &&
    record.expiredCustodyAuthorization.isNone

def cancelUnsignedReservation (agreementDigest reservationID : String) (fence : WriterFence) : Operation Unit where
  before := refuse (agreementDigest = "" ∨ reservationID = "") "unsigned reservation cancellation is incomplete"
  body doc := do
    let now := h.clock 1
    refuse (holdsWriter doc fence = false ∨ ¬ now < Time.ofUnix fence.body.expiresAtUnix)
      "stale writer cannot cancel an unsigned reservation"
    match doc.engagements.get? agreementDigest, doc.reservations.get? reservationID with
    | some record, some reservation =>
      refuse (record.reservationID ≠ reservationID ∨ reservation.agreementDigest ≠ agreementDigest)
        "unsigned reservation cancellation has no exact Engagement hold"
      if record.state = .cancelled ∧ reservation.released = true then pure (.keep ())
      else do
        refuse (unsignedCancellable P doc record reservation = false)
          "reservation is no longer an unsigned cancellable prepare"
        refuse (record.agreement.authorizationEvidence.any fun e =>
          evidenceSenderMatches e.authoritySubject doc.agentID)
          "locally signed Agreement reservation cannot be compensated"
        refuse (doc.issuedCustodyPayments.any fun _ issued => issued.reservationID == reservationID)
          "issued native custody authorization is still live"
        refuse (doc.settlementLedger.any fun _ ledger => ledger.obligation.agreementBodyDigest == agreementDigest)
          "materialized Agreement reservation cannot be compensated"
        let next := { doc with
          reservations := doc.reservations.put reservationID { reservation with released := true }
          portfolioRevision := doc.portfolioRevision + 1 }
        pure (.store (putEngagement next agreementDigest
          ({ record with state := .cancelled }.touch now.unixU64)) ())
    | _, _ => .error "unsigned reservation cancellation has no exact Engagement hold"

/-! ## Private inputs -/

def EngagementState.acceptsPrivateInput : EngagementState → Bool
  | .reserved | .fundingPending | .ready => true
  | _ => false

def selectsPrivateHandoff (o : AgreementObligation) : Bool := o.requiredExtensions.contains "tos.private-handoff.v1"

def sameUpload (a b : AcceptedPrivateContent) : Bool :=
  a.uploadActionID == b.uploadActionID && a.contentManifestDigest == b.contentManifestDigest

def bindAcceptedPrivateInput (agreementDigest obligationID : String) (accepted : AcceptedPrivateContent) :
    Operation EngagementRecord where
  before := refuse (P.validateAcceptedPrivateContent accepted ≠ .ok ()) "accepted private input is invalid"
  body doc :=
    match doc.engagements.get? agreementDigest with
    | none => .error "accepted private input has no Agreement"
    | some record => do
      refuse (accepted.challengeDigest = "" ∨ accepted.uploadActionID = "") "accepted private input has no Agreement"
      refuse (record.state.acceptsPrivateInput = false) "engagement is not accepting private input"
      refuse (record.body.obligations.any (fun o => o.obligationID == obligationID && selectsPrivateHandoff o) = false)
        "Agreement obligation does not select private handoff"
      match record.acceptedPrivateInputs.find? (·.challengeDigest == accepted.challengeDigest) with
      | some existing =>
        refuse (sameUpload existing accepted = false) "private handoff challenge conflicts with an accepted input"
        pure (.keep record)
      | none =>
        match record.boundPrivateInputs.find? fun b =>
            b.obligationID == obligationID && b.record.challengeDigest == accepted.challengeDigest with
        | some existing =>
          refuse (sameUpload existing.record accepted = false)
            "private handoff challenge conflicts with an obligation-bound input"
          pure (.keep record)
        | none =>
          let record := EngagementRecord.touch { record with
            acceptedPrivateInputs := (record.acceptedPrivateInputs ++ [accepted]).insertionSort
              fun a b => a.challengeDigest ≤ b.challengeDigest
            boundPrivateInputs :=
              (record.boundPrivateInputs ++ [BoundAcceptedPrivateInput.mk obligationID accepted]).insertionSort
              fun a b => a.obligationID ++ "\x00" ++ a.record.challengeDigest ≤
                b.obligationID ++ "\x00" ++ b.record.challengeDigest } (h.clock 1).unixU64
          pure (.store (putEngagement doc agreementDigest record) record)

def recordPrivateHandoffChallenge (agreementDigest obligationID challengeDigest sendActionID : String) :
    Operation EngagementRecord where
  before := refuse (obligationID = "" ∨ canonicalSHA256 challengeDigest = false ∨ canonicalSHA256 sendActionID = false)
    "private handoff challenge record is invalid"
  body doc :=
    match doc.engagements.get? agreementDigest with
    | none => .error "private handoff challenge has no active Agreement"
    | some record => do
      refuse (record.state.acceptsPrivateInput = false) "private handoff challenge has no active Agreement"
      refuse (record.body.obligations.any (fun o => o.obligationID == obligationID &&
          o.beneficiaryAgentID == doc.agentID && selectsPrivateHandoff o) = false)
        "private handoff challenge is outside the Agreement"
      match record.privateHandoffChallenges.find? (·.obligationID == obligationID) with
      | some existing =>
        refuse (¬ (existing.challengeDigest = challengeDigest ∧ existing.sendActionID = sendActionID))
          "private handoff obligation already binds another challenge"
        pure (.keep record)
      | none =>
        let record := EngagementRecord.touch { record with
          privateHandoffChallenges := (record.privateHandoffChallenges ++
              [BoundPrivateHandoffChallenge.mk obligationID challengeDigest sendActionID]).insertionSort
            fun a b => a.obligationID ≤ b.obligationID } (h.clock 1).unixU64
        pure (.store (putEngagement doc agreementDigest record) record)

/-! ## Engagement transitions -/

/-- The evidence a transition files, by the state it reaches. -/
def EngagementRecord.fileEvidence (state : EngagementState) (evidence : List String) : EngagementRecord :=
  match state with
  | .ready => { record with fundingEvidence := evidence }
  | .executionSucceeded | .failed | .ambiguous => { record with executionEvidence := evidence }
  | .delivered => { record with deliveryEvidence := evidence }
  | .settled | .unpaid => { record with settlementEvidence := evidence }
  | _ => record

def transitionEngagement (agreementDigest : String) (expected nextState : EngagementState) (executionID : String)
    (evidence : List String) : Operation EngagementRecord where
  before := do
    refuse (allowedEngagementTransition expected nextState = false) "engagement lifecycle transition is not allowed"
    refuse ((sortStrings evidence).all decodableSHA256 = false ∨ adjacentDistinct (sortStrings evidence) = false)
      "engagement transition evidence is invalid"
  body doc :=
    match doc.engagements.get? agreementDigest with
    | none => .error "engagement transition has no exact predecessor"
    | some record => do
      refuse (record.state ≠ expected ∨
          (executionID ≠ "" ∧ record.executionID ≠ "" ∧ record.executionID ≠ executionID))
        "engagement transition has no exact predecessor"
      let record := if executionID ≠ "" then { record with executionID := executionID } else record
      let record := { record.fileEvidence nextState (sortStrings evidence) with state := nextState }.touch
        (h.clock 1).unixU64
      pure (.store (putEngagement doc agreementDigest record) record)

/-! ## Obligation transitions -/

/-- Which evidence list of the runtime and of the record a target state fills. -/
inductive EvidenceSlot
  | execution | delivery | settlement | none

def ObligationState.evidenceSlot : ObligationState → EvidenceSlot
  | .executionPrepared | .executing | .executionSucceeded | .failed | .ambiguous => .execution
  | .delivered => .delivery
  | .settled | .overdue => .settlement
  | _ => .none

def advancedRuntime (runtime : ObligationRuntimeRecord) (target : ObligationState) (executionID : String)
    (evidence : List String) (eventID : String) (atUnix : UInt64) : ObligationRuntimeRecord :=
  let runtime := if executionID ≠ "" then { runtime with executionID := executionID } else runtime
  let runtime := match target.evidenceSlot with
    | .execution => { runtime with executionEvidence := evidence }
    | .delivery => { runtime with deliveryEvidence := evidence, deliveryEventID := eventID }
    | .settlement => { runtime with settlementEvidence := evidence }
    | .none => runtime
  { runtime with
    state := target, stateRevision := runtime.stateRevision + 1, lastTransitionAtUnix := atUnix
    executionCompletedAtUnix := if target = .executionSucceeded then atUnix else runtime.executionCompletedAtUnix }

/-- The last-transition fields of the record; they decide nothing. -/
def mirrorObligation (target : ObligationState) (executionID : String)
    (evidence : List String) (eventID : String) : EngagementRecord :=
  let record := if executionID ≠ "" then { record with executionID := executionID } else record
  match target.evidenceSlot with
  | .execution => { record with executionEvidence := evidence }
  | .delivery => { record with deliveryEvidence := evidence, deliveryEventID := eventID }
  | .settlement => { record with settlementEvidence := appendUniqueSorted record.settlementEvidence evidence }
  | .none => record

def transitionObligation (agreementDigest obligationID : String) (expected target : ObligationState)
    (executionID : String) (evidence : List String) (eventID : String) : Operation EngagementRecord where
  before := do
    refuse (allowedObligationTransition expected target = false) "obligation runtime transition is not allowed"
    refuse ((sortStrings evidence).all canonicalSHA256 = false ∨ adjacentDistinct (sortStrings evidence) = false)
      "obligation runtime evidence is invalid"
  body doc :=
    match doc.engagements.get? agreementDigest with
    | none => .error "obligation runtime has no Agreement"
    | some record =>
      let record := initializeObligationRuntime record
      match record.obligationRuntime.get? obligationID with
      | none => .error "obligation runtime transition has no exact predecessor"
      | some runtime => do
        refuse (runtime.state ≠ expected ∨
            (executionID ≠ "" ∧ runtime.executionID ≠ "" ∧ runtime.executionID ≠ executionID))
          "obligation runtime transition has no exact predecessor"
        let atUnix := (h.clock 1).unixU64
        let runtime := advancedRuntime runtime target executionID (sortStrings evidence) eventID atUnix
        let record := { record with obligationRuntime := record.obligationRuntime.put obligationID runtime }
        let record := (mirrorObligation record target executionID (sortStrings evidence) eventID).touch atUnix
        let record := refreshEngagementProjection h.range record
        pure (.store (putEngagement doc agreementDigest record) record)

def completeNoPaymentEngagement (agreementDigest evidence : String) : Operation EngagementRecord where
  before := refuse (canonicalSHA256 evidence = false) "completion evidence is invalid"
  body doc :=
    match doc.engagements.get? agreementDigest with
    | none => .error "engagement is not complete"
    | some record => do
      refuse (hasValueObligation record = true ∨ allNonValueObligationsDelivered record = false)
        "engagement is not complete"
      let record := { record with
        state := .settled
        settlementEvidence := appendUniqueSorted record.settlementEvidence [evidence] }.touch (h.clock 1).unixU64
      pure (.store (putEngagement doc agreementDigest record) record)

end OpenFox.Authority
