/-
What a call can write: for every operation the documents it may ask to persist, with the checks
that were passed on the way. Everything said about runs is derived from these cases and from the
expiry of custody bearers.
-/
import OpenFox.Authority.System

namespace OpenFox.Authority

open OpenFox.Go OpenFox.Commerce

/-- The current writer submits an action the protocol verifies for it. -/
structure Authorized (P : Protocol) (d : AuthorityDocument) (action : AuthorizedAction) (fields : SemanticFields)
    (request : Bytes) (fence : WriterFence) (now : Time) : Prop where
  writer : holdsWriter d fence = true
  verifies : P.verifyAuthorizedAction d.authorityID action fields request fence now = .ok ()

/-! ## The records and documents the operations build -/

/-- The agreement with one more piece of evidence, in the retained order. -/
def withEvidence (h : Host) (agreement : AgentAgreement) (evidence : AuthorizationEvidence) : AgentAgreement :=
  { agreement with authorizationEvidence := sortEvidence h.range (agreement.authorizationEvidence ++ [evidence]) }

def movedRecord (record : EngagementRecord) (state : EngagementState) (executionID : String) (evidence : List String)
    (atUnix : UInt64) : EngagementRecord :=
  let record := if executionID ≠ "" then { record with executionID := executionID } else record
  { record.fileEvidence state (sortStrings evidence) with state := state }.touch atUnix

def obligationMovedRecord (h : Host) (record : EngagementRecord) (runtime : ObligationRuntimeRecord)
    (obligationID : String) (target : ObligationState) (executionID : String) (evidence : List String)
    (eventID : String) (atUnix : UInt64) : EngagementRecord :=
  let runtime := advancedRuntime runtime target executionID (sortStrings evidence) eventID atUnix
  let record := { record with obligationRuntime := record.obligationRuntime.put obligationID runtime }
  refreshEngagementProjection h.range
    ((mirrorObligation record target executionID (sortStrings evidence) eventID).touch atUnix)

def completedRecord (record : EngagementRecord) (evidence : String) (atUnix : UInt64) : EngagementRecord :=
  { record with
    state := .settled, settlementEvidence := appendUniqueSorted record.settlementEvidence [evidence] }.touch atUnix

def movedResolution (existing : ActionResolution) (state : ActionState) (sinkReference : String)
    (evidence : List String) : ActionResolution :=
  { existing with
    state := state, sinkReference := sinkReference, evidenceRefs := evidence
    stateRevision := existing.stateRevision + 1 }

def freeHold (d : AuthorityDocument) (id : String) (r : ExposureReservation) : AuthorityDocument :=
  { d with
    reservations := d.reservations.put id { r with released := true }, portfolioRevision := d.portfolioRevision + 1 }

/-- The ledger, the action and the accounting entry of a payment, before the engagement follows. -/
def paymentDocument (d : AuthorityDocument) (action : AuthorizedAction) (fence : WriterFence)
    (r : BillingResolutionRequest) (ledger : SettlementLedgerRecord) (entryID : String) : AuthorityDocument :=
  let next := putLedger (recordAction d action (resolutionOf action .terminal [r.paymentEvidenceDigest] 1))
    r.obligationInstanceID ledger
  putAccounting next
    { entryID := entryID, body := paymentAccounting next ledger r, writerGeneration := fence.body.writerGeneration }

/-- The ledger and the action of a settlement transition, before accounting and engagement follow. -/
def settlementDocument (d : AuthorityDocument) (action : AuthorizedAction) (r : BillingStateTransitionRequest)
    (ledger : SettlementLedgerRecord) : AuthorityDocument :=
  recordAction (putLedger d r.obligationInstanceID ledger) action (resolutionOf action .terminal [r.evidenceDigest] 1)

/-! ## The cases -/

/-- `Writes P h d c d'`: the call `c`, made under host `h` on the document `d`, asks to persist `d'`. -/
inductive Writes (P : Protocol) (h : Host) (d : AuthorityDocument) : Call → AuthorityDocument → Prop
  | acquireWriter {instanceID scope ttl fence} (room : d.writerGeneration ≠ 0 - 1) :
    Writes P h d (.acquireWriter instanceID scope ttl)
      { d with writerGeneration := d.writerGeneration + 1, currentFence := some fence }
  | allocateInstance {request fence digest record} (writer : holdsWriter d fence = true)
    (absent : d.authorityInstances.get? digest = none) :
    Writes P h d (.allocateInstance request fence)
      { d with
        authorityInstances := d.authorityInstances.put digest record
        nextInstanceSequence := d.nextInstanceSequence + 1 }
  | admitRelaySideEffects {descriptor lookupDigest receipt key}
    (writer : holdsWriter d descriptor.writerFence = true) (absent : d.relayAdmissions.get? lookupDigest = none)
    (owner : descriptor.ownerID = d.ownerID) (agent : descriptor.agentID = d.agentID)
    (authority : descriptor.writerFence.body.authorityID = d.authorityID)
    (current : carriesCurrentFence P d descriptor.writerFence = true)
    (valid : P.validateRelayDescriptor d.authorityID descriptor (h.clock 1) = .ok ())
    (looked : P.relayLookupDigest (P.relayLookup descriptor) = .ok lookupDigest)
    (room : d.relayAdmissions.entries.length < maximumRelayAdmissions)
      (continues : relayRouteContinues P d descriptor = true)
    (numbered : d.nextRelayAdmissionSequence ≠ 0 ∧ d.nextRelayAdmissionSequence ≠ 0 - 1)
    (built : ∃ startNotAfter, P.buildRelayReceipt descriptor d.nextRelayAdmissionSequence (h.clock 1).unixU64
      startNotAfter = .ok receipt)
    (bound : key = relayAdmissionStableBindingKey descriptor.ownerID descriptor.agentID descriptor.stableActionID)
    (hops : descriptor.routeAttempt ≤ maximumRelayRouteHops) :
    Writes P h d (.admitRelaySideEffects descriptor)
      { d with
        relayAdmissions := d.relayAdmissions.put lookupDigest receipt
        relayAdmissionBindings := d.relayAdmissionBindings.put key lookupDigest
        nextRelayAdmissionSequence := d.nextRelayAdmissionSequence + 1 }
  -- Admission of an action, without exposure or with a reservation.
  | admitAction {action fields request fence heads} (auth : Authorized P d action fields request fence (h.clock 1))
    (absent : d.actions.get? action.stableActionID = none) :
    Writes P h d (.admitAction action fields request fence none)
      (recordAction { d with outcomeJournalHeads := heads } action (resolutionOf action .prepared [] 1))
  | admitHold {action fields request fence heads candidate}
    (auth : Authorized P d action fields request fence (h.clock 1))
    (absent : d.actions.get? action.stableActionID = none)
    (fits : admitReservation P h.range d candidate = .ok ()) :
    Writes P h d (.admitAction action fields request fence (some candidate))
      (recordAction (putReservation { d with outcomeJournalHeads := heads } candidate) action
        (resolutionOf action .prepared [] 1))
  -- Transitions of an action; rejecting a sponsored one frees its hold.
  | transition {id digest state sink evidence existing} (found : d.actions.get? id = some existing)
    (exact : existing.exactRequestDigest = digest) (unfinished : isFinalState existing.state = false)
    (guarded : sponsorshipTransitionGuard h d id state = .ok ())
    (valid : P.validateActionResolution (movedResolution existing state sink evidence) = .ok ()) :
    Writes P h d (.transition id digest state sink evidence)
      { d with actions := d.actions.put id (movedResolution existing state sink evidence) }
  | reject {id digest sink evidence existing admission reservation} (found : d.actions.get? id = some existing)
    (exact : existing.exactRequestDigest = digest) (unfinished : isFinalState existing.state = false)
    (valid : P.validateActionResolution (movedResolution existing .rejected sink evidence) = .ok ())
    (guarded : sponsorshipTransitionGuard h d id .rejected = .ok ())
    (sponsored : sponsorshipOf h 6 d id = some admission)
    (hold : d.reservations.get? admission.reservation.reservationID = some reservation)
    (live : reservation.released = false) :
    Writes P h d (.transition id digest .rejected sink evidence)
      (releaseHold { d with actions := d.actions.put id (movedResolution existing .rejected sink evidence) }
        reservation)
  | releaseReservation {action fields request fence realized retained revision release existing bucket}
    (auth : Authorized P d action fields request fence (h.clock 2)) (kind : action.actionKind = "portfolio.release")
    (predecessor : releasePredecessor d action = .ok (.inr revision)) (decoded : decodeRelease P request = .ok release)
    (target : release.targetPortfolioRevision = d.portfolioRevision + 1)
    (hold : d.reservations.get? release.reservationID = some existing)
    (agreement : existing.agreementDigest = release.agreementDigest) (live : existing.released = false)
    (unissued : d.issuedCustodyPayments.any (fun _ issued => issued.reservationID == existing.reservationID) = false)
    (finished : releasableEngagement d existing.agreementDigest = .ok ())
    (bucketed : exposureAssetBucket P existing.asset = .ok bucket)
    (disposed : dispositionWithinLimits d existing bucket realized retained = .ok ())
    (valid : P.validateActionResolution
      (resolutionOf action .terminal [release.terminalEvidenceSetDigest] revision) = .ok ()) :
    Writes P h d (.releaseReservation action fields request fence realized retained)
      (recordAction (disposeLoss (freeHold d release.reservationID existing) bucket realized retained) action
        (resolutionOf action .terminal [release.terminalEvidenceSetDigest] revision))
  -- Sponsorships and custody.
  | sponsor {action fields request fence payment purpose admission}
    (auth : Authorized P d action fields request fence (h.clock 1))
    (exact : exactRelaySponsorshipCustodyPurpose P action payment purpose = true)
    (computed : sponsorshipAdmission P action payment purpose = .ok admission)
    (absent : d.actions.get? action.stableActionID = none)
    (fits : admitReservation P h.range d admission.reservation = .ok ()) :
    Writes P h d (.admitRelaySponsorshipPayment action fields request fence payment purpose)
      (recordAction { putReservation d admission.reservation with
        relaySponsorshipPayments := d.relaySponsorshipPayments.put admission.admissionID admission } action
        (resolutionOf action .prepared [] 1))
  | resubmitSponsorship {action fields request fence payment purpose prior}
    (auth : Authorized P d action fields request fence (h.clock 1))
    (found : d.actions.get? action.stableActionID = some prior)
    (same : prior.exactRequestDigest = action.exactRequestDigest) :
    Writes P h d (.admitRelaySponsorshipPayment action fields request fence payment purpose)
      (recordAuthorizedAction d action)
  | issue {action fields request fence payment account domain sponsorship reservationID digest amount issued}
    (auth : Authorized P d action fields request fence (h.clock 2))
    (arguments : custodyPaymentArguments P payment account domain sponsorship = .ok ())
    (pinned : custodyOwnerPins d payment account = .ok ())
    (clear : (d.engagements.get? payment.agreementBodyDigest).any (·.negotiationAmbiguous) = false)
    (reserved : custodyReservation P d action payment sponsorship (h.clock 1) = .ok reservationID)
    (bound : P.paymentRequestDigest payment = .ok digest)
    (own : action.stableActionID = payment.stableActionID)
    (prepared : ∃ prior, d.actions.get? action.stableActionID = some prior ∧
      prior.exactRequestDigest = action.exactRequestDigest ∧ prior.state = .prepared)
    (parsed : parseUint payment.amount.amountAtomic = some amount) (positive : amount ≠ 0)
    (built : newIssuance P d action payment account domain sponsorship fence reservationID digest amount = .ok issued)
    (absent : d.issuedCustodyPayments.get? digest = none)
    (exclusive : ∀ k i, d.issuedCustodyPayments.get? k = some i → i.reservationID ≠ reservationID) :
    Writes P h d (.authorizeCustodyPayment action fields request fence payment account domain sponsorship)
      { d with issuedCustodyPayments := d.issuedCustodyPayments.put digest issued }
  -- Proposals: a body that forks a version or comes from somebody else marks the lineage.
  | identityConflict {body proposer event action digest existing} (bound : P.agreementBodyDigest body = .ok digest)
    (found : d.engagements.get? digest = some existing)
    (other : ¬ (existing.proposerAgentID = proposer ∧ existing.proposalActionID = action))
    (retained : d.engagements.any (fun _ record => record.body.agreementID == body.agreementID) = true) :
    Writes P h d (.recordAgreementProposal body proposer event action)
      (flagLineage d body.agreementID "proposal_identity_conflict" [digest])
  | bodyFork {body proposer event action digest prior} (bound : P.agreementBodyDigest body = .ok digest)
    (absent : d.engagements.get? digest = none) (sibling : forkedSibling h d body digest = some prior) :
    Writes P h d (.recordAgreementProposal body proposer event action)
      (flagLineage d body.agreementID "agreement_body_fork" [prior, digest])
  | propose {body proposer event action digest} (valid : P.validateAgreementBody body = .ok ())
    (bound : P.agreementBodyDigest body = .ok digest) (participant : body.participants.contains proposer = true)
    (absent : d.engagements.get? digest = none) (single : forkedSibling h d body digest = none)
    (clear : d.engagements.any (fun _ record =>
      record.body.agreementID == body.agreementID && record.negotiationAmbiguous) = false)
    (succeeds : validatePredecessor P d body = .ok ()) :
    Writes P h d (.recordAgreementProposal body proposer event action)
      (putEngagement d digest (newEngagement body digest proposer event action (h.clock 1)))
  | withdraw {digest action sender event record state} (found : d.engagements.get? digest = some record)
    (proposed : record.proposalActionID = action) (proposer : record.proposerAgentID = sender)
    (target : withdrawalTarget record = .ok (some state)) :
    Writes P h d (.observeAgreementWithdrawal digest action sender event)
      (putEngagement d digest (EngagementRecord.touch { record with state := state } (h.clock 1).unixU64))
  | deliver {digest obligation manifest sender event record runtime} (found : d.engagements.get? digest = some record)
    (owed : deliverableBy record d.agentID obligation sender = true)
    (current : runtime = (initializeObligationRuntime record).obligationRuntime.getD obligation default)
    (unseen : runtime.deliveryEventID = "") (awaited : runtime.state = .pending ∨ runtime.state = .ready)
    (ready : (obligationByID record obligation).any
      (obligationDependenciesSatisfied (initializeObligationRuntime record)) = true) :
    Writes P h d (.observeAgreementDelivery digest obligation manifest sender event)
      (putEngagement d digest (deliveredRecord h (initializeObligationRuntime record) runtime obligation manifest event
        (h.clock 1).unixU64))
  | recordEvidence {digest evidence verifier record state marker} (found : d.engagements.get? digest = some record)
    (uncancelled : record.state ≠ .cancelled) (unfailed : record.state ≠ .failed)
    (exact : exactRetainedAgreementBody P record = true) (key : record.agreementDigest = digest)
    (clear : record.negotiationAmbiguous = false)
    (covered : isAgentSignatureOf P d.agentID evidence = true →
      exposureCovered record d.agentID (d.reservations.get? record.reservationID) = true)
    (last : record.state = .proposed ∨ record.state = .authorizing → hasSuccessor d digest = false)
    (timely : validateAgreementAuthorizationTime P (withEvidence h record.agreement evidence) (h.clock 1) = .ok ())
    (valid : P.validatePartialAgreementAuthorization (withEvidence h record.agreement evidence) verifier (h.clock 1) =
      .ok ())
    (earned : authorizationResult P record (withEvidence h record.agreement evidence) verifier (h.clock 1) =
      .ok (state, marker))
    (unseen : evidence ∉ record.agreement.authorizationEvidence) :
    Writes P h d (.recordAgreementEvidence digest evidence verifier)
      (putEngagement d digest (EngagementRecord.touch { record with
        agreement := withEvidence h record.agreement evidence, state := state
        fullyAuthorizedEvidenceSetDigest := marker } (h.clock 1).unixU64))
  -- Reserving an Agreement and compensating an unsigned hold.
  | reserve {action fields request fence reserve record}
    (found : d.engagements.get? reserve.reservation.agreementDigest = some record)
    (eligible : engagementEligibleForReservation P record d.agentID = true)
    (exact : exactRetainedAgreementBody P record = true)
    (paidDemand : paidDemandReservationExact P record d.agentID reserve.reservation = true)
    (covered : exposureCovered record d.agentID (some reserve.reservation) = true)
    (auth : Authorized P d action fields request fence (h.clock 1)) (kind : action.actionKind = "portfolio.reserve")
    (absent : d.actions.get? action.stableActionID = none)
    (fits : admitReservation P h.range d reserve.reservation = .ok ()) :
    Writes P h d (.reserveEngagement action fields request fence reserve)
      (putEngagement (recordAction (putReservation d reserve.reservation) action (resolutionOf action .terminal [] 1))
        record.agreementDigest (reservedRecord record action reserve.reservation.reservationID (h.clock 2).unixU64))
  | cancelUnsigned {digest reservationID fence record reservation} (found : d.engagements.get? digest = some record)
    (hold : d.reservations.get? reservationID = some reservation) (holder : record.reservationID = reservationID)
    (agreement : reservation.agreementDigest = digest)
    (cancellable : unsignedCancellable P d record reservation = true)
    (unsigned : record.agreement.authorizationEvidence.any
      (fun e => evidenceSenderMatches e.authoritySubject d.agentID) = false)
    (unissued : d.issuedCustodyPayments.any (fun _ issued => issued.reservationID == reservationID) = false)
    (unbilled : d.settlementLedger.any (fun _ ledger => ledger.obligation.agreementBodyDigest == digest) = false) :
    Writes P h d (.cancelUnsignedReservation digest reservationID fence)
      (putEngagement (freeHold d reservationID reservation) digest
        (EngagementRecord.touch { record with state := .cancelled } (h.clock 1).unixU64))
  -- Private inputs.
  | bindInput {digest obligation accepted record inputs bound} (found : d.engagements.get? digest = some record)
    (accepting : record.state.acceptsPrivateInput = true) :
    Writes P h d (.bindAcceptedPrivateInput digest obligation accepted)
      (putEngagement d digest (EngagementRecord.touch { record with
        acceptedPrivateInputs := inputs, boundPrivateInputs := bound } (h.clock 1).unixU64))
  | bindChallenge {digest obligation challenge send record challenges} (found : d.engagements.get? digest = some record)
    (accepting : record.state.acceptsPrivateInput = true) :
    Writes P h d (.recordPrivateHandoffChallenge digest obligation challenge send)
      (putEngagement d digest (EngagementRecord.touch { record with
        privateHandoffChallenges := challenges } (h.clock 1).unixU64))
  -- Lifecycle.
  | moveEngagement {digest expected next execution evidence record}
    (allowed : allowedEngagementTransition expected next = true) (found : d.engagements.get? digest = some record)
    (exact : record.state = expected) :
    Writes P h d (.transitionEngagement digest expected next execution evidence)
      (putEngagement d digest (movedRecord record next execution evidence (h.clock 1).unixU64))
  | moveObligation {digest obligation expected target execution evidence event record runtime}
    (allowed : allowedObligationTransition expected target = true) (found : d.engagements.get? digest = some record)
    (current : (initializeObligationRuntime record).obligationRuntime.get? obligation = some runtime)
    (exact : runtime.state = expected) :
    Writes P h d (.transitionObligation digest obligation expected target execution evidence event)
      (putEngagement d digest (obligationMovedRecord h (initializeObligationRuntime record) runtime obligation target
        execution evidence event (h.clock 1).unixU64))
  | complete {digest evidence record} (found : d.engagements.get? digest = some record)
    (valueless : hasValueObligation record = false) (delivered : allNonValueObligationsDelivered record = true) :
    Writes P h d (.completeNoPaymentEngagement digest evidence)
      (putEngagement d digest (completedRecord record evidence (h.clock 1).unixU64))
  -- Accounting and scheduling.
  | account {action fields request fence entry}
    (auth : Authorized P d action (accountingFields P entry) request fence (h.clock 2))
    (kind : action.actionKind = "accounting.record") (absent : d.actions.get? action.stableActionID = none)
    (identified : accountingEntryID P entry.body = .ok entry.entryID) :
    Writes P h d (.recordAccounting action fields request fence entry)
      (recordAction (putAccounting d entry) action (resolutionOf action .terminal entry.body.evidenceRefs 1))
  | schedule {action request fence t target} (decoded : P.decodeScheduleTransition request = .ok t)
    (built : scheduleTarget P d fence t = .ok target)
    (auth : Authorized P d action (scheduleFields d t target) request fence (h.clock 1))
    (kind : action.actionKind = "schedule.entry.transition") (absent : d.actions.get? action.stableActionID = none) :
    Writes P h d (.admitScheduleTransition action request fence)
      (recordAction { d with
        scheduleEntries := d.scheduleEntries.put target.scheduleEntryID target
        dependencies := d.dependencies ++ t.dependencies, portfolioRevision := d.portfolioRevision + 1 } action
        (resolutionOf action .terminal [] 1))
  | depend {action fields request fence r dependencies}
    (auth : Authorized P d action (dependencyFields d r) request fence (h.clock 1))
    (kind : action.actionKind = "schedule.dependency.transition")
    (absent : d.actions.get? action.stableActionID = none) (base : r.graphBaseRevision = d.portfolioRevision)
    (built : prospectiveDependencies d.dependencies r = .ok dependencies) :
    Writes P h d (.admitDependencyTransition action fields request fence r)
      (recordAction { d with dependencies := dependencies, portfolioRevision := d.portfolioRevision + 1 } action
        (resolutionOf action .terminal r.evidenceRefs 1))
  -- Settlement: the first instance of an obligation also moves its runtime.
  | materializeFirst {action fields request fence obligation engagement state}
    (auth : Authorized P d action fields request fence (h.clock 1)) (kind : action.actionKind = "billing.materialize")
    (own : action.stableActionID = obligation.stableActionID)
    (found : d.engagements.get? obligation.agreementBodyDigest = some engagement)
    (billable : materializable P (initializeObligationRuntime engagement) obligation.agreementObligationID = true)
    (absent : d.actions.get? action.stableActionID = none) (opened : P.newSettlementState obligation = .ok state)
    (pending : ((initializeObligationRuntime engagement).obligationRuntime.getD
      obligation.agreementObligationID default).state = .pending)
    (valid : P.validateSettlementObligation obligation = .ok ()) :
    Writes P h d (.materializeSettlement action fields request fence obligation)
      (putEngagement (putLedger (recordAction d action (resolutionOf action .terminal [] 1))
        obligation.obligationInstanceID { obligation := obligation, state := state }) engagement.agreementDigest
        (settlingRecord h (initializeObligationRuntime engagement) obligation.agreementObligationID
          (h.clock 2).unixU64))
  | materializeNext {action fields request fence obligation engagement state}
    (auth : Authorized P d action fields request fence (h.clock 1)) (kind : action.actionKind = "billing.materialize")
    (own : action.stableActionID = obligation.stableActionID)
    (found : d.engagements.get? obligation.agreementBodyDigest = some engagement)
    (billable : materializable P (initializeObligationRuntime engagement) obligation.agreementObligationID = true)
    (absent : d.actions.get? action.stableActionID = none) (opened : P.newSettlementState obligation = .ok state)
    (billed : ((initializeObligationRuntime engagement).obligationRuntime.getD
      obligation.agreementObligationID default).state ≠ .pending)
    (valid : P.validateSettlementObligation obligation = .ok ()) :
    Writes P h d (.materializeSettlement action fields request fence obligation)
      (putLedger (recordAction d action (resolutionOf action .terminal [] 1))
        obligation.obligationInstanceID { obligation := obligation, state := state })
  | pay {action fields request fence r ledger updated entryID}
    (auth : Authorized P d action fields request fence (h.clock 2)) (kind : action.actionKind = "billing.resolve")
    (found : d.settlementLedger.get? r.obligationInstanceID = some ledger)
    (absent : d.actions.get? action.stableActionID = none)
    (applied : P.applyPayment ledger.state ledger.obligation r.paymentEvidenceDigest r.paidAmount
      (Time.ofUnix r.resolvedAtUnix) = .ok updated)
    (identified : accountingEntryID P (paymentAccounting d { ledger with state := updated } r) = .ok entryID) :
    Writes P h d (.applySettlementPayment action fields request fence r)
      (storeRecord (paymentDocument d action fence r { ledger with state := updated } entryID)
        (paidRecord h (paymentDocument d action fence r { ledger with state := updated } entryID) ledger.obligation r))
  | settle {action fields request fence r ledger updated fieldMap accounting next}
    (auth : Authorized P d action fieldMap request fence (h.clock 2)) (kind : action.actionKind = "billing.resolve")
    (found : d.settlementLedger.get? r.obligationInstanceID = some ledger)
    (revision : ledger.state.stateRevision = r.expectedStateRevision)
    (absent : d.actions.get? action.stableActionID = none)
    (resolved : P.resolveSettlementState ledger.state ledger.obligation r.targetState r.evidenceDigest
      (Time.ofUnix r.observedAtUnix) = .ok updated)
    (accounted : transitionAccounting P fence { ledger with state := updated } r
      (settlementDocument d action r { ledger with state := updated }) = .ok next)
    (only : next = { settlementDocument d action r { ledger with state := updated } with accounting := accounting }) :
    Writes P h d (.resolveSettlementState action fields request fence r)
      (storeRecord next (overdueRecord h next ledger.obligation r))

end OpenFox.Authority
