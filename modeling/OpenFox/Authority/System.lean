/-
The authority as a transition system: every operation as a call, the coordinator that turns a
claimed Messenger event into one of them, restarts, and the step a call makes under what its host
found.
-/
import OpenFox.Authority.Load
import OpenFox.Base.Run

namespace OpenFox.Authority

open OpenFox.Go OpenFox.Commerce OpenFox.Base

/-! ## Calls -/

inductive Call
  | acquireWriter (instanceID : String) (scope : List String) (ttl : Int)
  | allocateInstance (request : AuthorityInstanceRequest) (fence : WriterFence)
  | admitRelaySideEffects (descriptor : RelayAdmissionDescriptor)
  | admitAction (action : AuthorizedAction) (fields : SemanticFields) (request : Bytes) (fence : WriterFence)
      (reservation : Option ExposureReservation)
  | snapshot
  | checkReservationCapacity (candidate : ExposureReservation)
  | transition (stableActionID requestDigest : String) (state : ActionState) (sinkReference : String)
      (evidence : List String)
  | releaseReservation (action : AuthorizedAction) (fields : SemanticFields) (request : Bytes) (fence : WriterFence)
      (realizedLossAtomic retainedDefaultLiabilityAtomic : UInt64)
  | admitRelaySponsorshipPayment (action : AuthorizedAction) (fields : SemanticFields) (request : Bytes)
      (fence : WriterFence) (payment : PaymentRequest) (purpose : RelaySponsorshipCustodyPurpose)
  | authorizeCustodyPayment (action : AuthorizedAction) (fields : SemanticFields) (request : Bytes)
      (fence : WriterFence) (payment : PaymentRequest) (sourceAccount : String) (domain : NetworkDomain)
      (sponsorship : Option SponsorshipCustodyBinding)
  | authorizeCustodyEffect (action : AuthorizedAction) (fields : SemanticFields) (request : Bytes)
      (fence : WriterFence) (template : CustodyEffectAuthorization)
  | recordAgreementProposal (body : AgentAgreementBody) (proposerAgentID eventID proposalActionID : String)
  | observeAgreementWithdrawal (agreementDigest proposalActionID senderAgentID eventID : String)
  | observeAgreementDelivery (agreementDigest obligationID manifestDigest senderAgentID eventID : String)
  | recordAgreementEvidence (agreementDigest : String) (evidence : AuthorizationEvidence) (verifier : Verifier)
  | reserveEngagement (action : AuthorizedAction) (fields : SemanticFields) (request : Bytes) (fence : WriterFence)
      (reserve : PortfolioReservationRequest)
  | cancelUnsignedReservation (agreementDigest reservationID : String) (fence : WriterFence)
  | bindAcceptedPrivateInput (agreementDigest obligationID : String) (accepted : AcceptedPrivateContent)
  | recordPrivateHandoffChallenge (agreementDigest obligationID challengeDigest sendActionID : String)
  | transitionEngagement (agreementDigest : String) (expected nextState : EngagementState) (executionID : String)
      (evidence : List String)
  | transitionObligation (agreementDigest obligationID : String) (expected target : ObligationState)
      (executionID : String) (evidence : List String) (eventID : String)
  | completeNoPaymentEngagement (agreementDigest evidence : String)
  | recordAccounting (action : AuthorizedAction) (fields : SemanticFields) (request : Bytes) (fence : WriterFence)
      (entry : AccountingEntry)
  | admitScheduleTransition (action : AuthorizedAction) (request : Bytes) (fence : WriterFence)
  | admitDependencyTransition (action : AuthorizedAction) (fields : SemanticFields) (request : Bytes)
      (fence : WriterFence) (r : DependencyTransitionRequest)
  | materializeSettlement (action : AuthorizedAction) (fields : SemanticFields) (request : Bytes)
      (fence : WriterFence) (obligation : SettlementObligation)
  | applySettlementPayment (action : AuthorizedAction) (fields : SemanticFields) (request : Bytes)
      (fence : WriterFence) (r : BillingResolutionRequest)
  | resolveSettlementState (action : AuthorizedAction) (fields : SemanticFields) (request : Bytes)
      (fence : WriterFence) (r : BillingStateTransitionRequest)

variable (P : Protocol) (h : Host)

/-- The operation of a call; at this level only its acceptance and its document matter. -/
def Call.operation : Call → Operation Unit
  | .acquireWriter instanceID scope ttl => (Authority.acquireWriter P h instanceID scope ttl).map fun _ => ()
  | .allocateInstance request fence => (Authority.allocateInstance P request fence).map fun _ => ()
  | .admitRelaySideEffects descriptor => (Authority.admitRelaySideEffects P h descriptor).map fun _ => ()
  | .admitAction action fields request fence reservation =>
    (Authority.admitAction P h action fields request fence reservation).map fun _ => ()
  | .snapshot => Authority.snapshot.map fun _ => ()
  | .checkReservationCapacity candidate => Authority.checkReservationCapacity P h candidate
  | .transition id digest state sink evidence =>
    (Authority.transition P h id digest state sink evidence).map fun _ => ()
  | .releaseReservation action fields request fence realized retained =>
    (Authority.releaseReservation P h action fields request fence realized retained).map fun _ => ()
  | .admitRelaySponsorshipPayment action fields request fence payment purpose =>
    (Authority.admitRelaySponsorshipPayment P h action fields request fence payment purpose).map fun _ => ()
  | .authorizeCustodyPayment action fields request fence payment account domain sponsorship =>
    (Authority.authorizeCustodyPayment P h action fields request fence payment account domain sponsorship).map
      fun _ => ()
  | .authorizeCustodyEffect action fields request fence template =>
    (Authority.authorizeCustodyEffect P h action fields request fence template).map fun _ => ()
  | .recordAgreementProposal body proposer event action =>
    (Authority.recordAgreementProposal P h body proposer event action).map fun _ => ()
  | .observeAgreementWithdrawal digest action sender event =>
    (Authority.observeAgreementWithdrawal h digest action sender event).map fun _ => ()
  | .observeAgreementDelivery digest obligation manifest sender event =>
    (Authority.observeAgreementDelivery h digest obligation manifest sender event).map fun _ => ()
  | .recordAgreementEvidence digest evidence verifier =>
    (Authority.recordAgreementEvidence P h digest evidence verifier).map fun _ => ()
  | .reserveEngagement action fields request fence reserve =>
    (Authority.reserveEngagement P h action fields request fence reserve).map fun _ => ()
  | .cancelUnsignedReservation digest reservation fence =>
    Authority.cancelUnsignedReservation P h digest reservation fence
  | .bindAcceptedPrivateInput digest obligation accepted =>
    (Authority.bindAcceptedPrivateInput P h digest obligation accepted).map fun _ => ()
  | .recordPrivateHandoffChallenge digest obligation challenge send =>
    (Authority.recordPrivateHandoffChallenge h digest obligation challenge send).map fun _ => ()
  | .transitionEngagement digest expected next execution evidence =>
    (Authority.transitionEngagement h digest expected next execution evidence).map fun _ => ()
  | .transitionObligation digest obligation expected target execution evidence event =>
    (Authority.transitionObligation h digest obligation expected target execution evidence event).map fun _ => ()
  | .completeNoPaymentEngagement digest evidence =>
    (Authority.completeNoPaymentEngagement h digest evidence).map fun _ => ()
  | .recordAccounting action fields request fence entry =>
    (Authority.recordAccounting P h action fields request fence entry).map fun _ => ()
  | .admitScheduleTransition action request fence =>
    (Authority.admitScheduleTransition P h action request fence).map fun _ => ()
  | .admitDependencyTransition action fields request fence r =>
    (Authority.admitDependencyTransition P h action fields request fence r).map fun _ => ()
  | .materializeSettlement action fields request fence obligation =>
    (Authority.materializeSettlement P h action fields request fence obligation).map fun _ => ()
  | .applySettlementPayment action fields request fence r =>
    (Authority.applySettlementPayment P h action fields request fence r).map fun _ => ()
  | .resolveSettlementState action fields request fence r =>
    (Authority.resolveSettlementState P h action fields request fence r).map fun _ => ()

/-! ## The agreement coordinator -/

inductive AgreementPayload
  | intentApplication
  | propose (canonicalBody : Bytes)
  | accept (agreementBodyDigest : String) (canonicalAcceptance : Bytes)
  | evidence (canonicalEvidence : Bytes)
  | providerOffer (canonicalOffer : Bytes) (providerOfferDigest : String)
  | withdraw (agreementBodyDigest proposalActionID : String)
  | delivery (agreementBodyDigest obligationID deliverableManifestDigest : String)
  | other

structure ClaimedAgreementEvent where
  eventID : String
  senderAgentID : String
  semanticActionID : String
  payload : AgreementPayload

/-- The call `HandleNext` makes for a claimed event, from what the ledger holds. Applications go to
the negotiation handler, which is outside the ledger. -/
def coordinatorCall (verifier : Verifier) (doc : AuthorityDocument) (event : ClaimedAgreementEvent) :
    Except String Call :=
  match event.payload with
  | .intentApplication => .error "Intent application has no bounded negotiation handler"
  | .propose canonicalBody => do
    let body ← (P.decodeAgreementBody canonicalBody).mapError fun _ => "Agreement proposal body is invalid"
    pure (.recordAgreementProposal body event.senderAgentID event.eventID event.semanticActionID)
  | .accept digest canonicalAcceptance =>
    match doc.engagements.get? digest with
    | none => .error "Agreement acceptance arrived before its exact proposal"
    | some prior => do
      refuse (P.decodeAcceptanceSigner canonicalAcceptance ≠ .ok event.senderAgentID)
        "Agreement acceptance signer does not match the authenticated sender"
      let evidence ← P.agentSignatureEvidence prior.body canonicalAcceptance
      pure (.recordAgreementEvidence prior.agreementDigest evidence verifier)
  | .evidence canonicalEvidence => do
    let evidence ← (P.decodeEvidence canonicalEvidence).mapError fun _ =>
      "Agreement evidence authority does not match the authenticated sender"
    refuse (evidenceSenderMatches evidence.authoritySubject event.senderAgentID = false)
      "Agreement evidence authority does not match the authenticated sender"
    pure (.recordAgreementEvidence evidence.agreementBodyDigest evidence verifier)
  | .providerOffer canonicalOffer offerDigest => do
    let offer ← (P.decodeProviderOffer canonicalOffer).mapError fun _ =>
      "Provider Offer signer does not match the authenticated sender"
    refuse (offer.providerAgentID ≠ event.senderAgentID)
      "Provider Offer signer does not match the authenticated sender"
    match doc.engagements.get? offer.agreementBodyDigest with
    | none => .error "Provider Offer arrived before its exact Agreement"
    | some prior =>
      refuse ((h.clock 4).isZero = true ∨ (h.clock 4).unix < 0)
        "Agreement authority returned no valid observation time"
      let evidence ← P.paidDemandEvidence prior.body
        { subjectKind := "agent", subjectNamespace := "tos.agent", subjectIdentifier := event.senderAgentID }
        offer (h.clock 4).unixU64 offerDigest
      pure (.recordAgreementEvidence prior.agreementDigest evidence verifier)
  | .withdraw digest proposalActionID =>
    .ok (.observeAgreementWithdrawal digest proposalActionID event.senderAgentID event.eventID)
  | .delivery digest obligationID manifestDigest =>
    .ok (.observeAgreementDelivery digest obligationID manifestDigest event.senderAgentID event.eventID)
  | .other => .error "Agreement coordinator received another event kind"

/-! ## Steps -/

inductive Request
  | call (c : Call)
  | message (verifier : Verifier) (event : ClaimedAgreementEvent)
  | reopen (limits : PortfolioLimits)

structure Event where
  host : Host
  request : Request

/-- The authority operation an event amounts to, if it is one. -/
def Event.call? (doc : AuthorityDocument) (e : Event) : Except String (Option Call) :=
  match e.request with
  | .call c => .ok (some c)
  | .message verifier event => (coordinatorCall P e.host verifier doc event).map some
  | .reopen _ => .ok none

def perform (a : PersonalAuthority) (e : Event) : PersonalAuthority × Except String Unit :=
  match e.request with
  | .call c => (c.operation P e.host).run P e.host a
  | .message verifier event =>
    match coordinatorCall P e.host verifier a.doc event with
    | .error msg => (a, .error msg)
    | .ok c => (c.operation P e.host).run P e.host a
  | .reopen limits => a.reopen P e.host limits

def step (a : PersonalAuthority) (e : Event) : PersonalAuthority := (perform P a e).1

/-- The authority `OpenPersonalAuthority` starts from in an empty directory. -/
def PersonalAuthority.fresh (ownerID agentID authorityID : String) (limits : PortfolioLimits) : PersonalAuthority :=
  { doc := AuthorityDocument.fresh ownerID agentID authorityID limits }

/-- A state some run of a fresh authority reaches. -/
def Reachable (a : PersonalAuthority) : Prop :=
  ∃ ownerID agentID authorityID limits es, a = exec (step P)
    (PersonalAuthority.fresh ownerID agentID authorityID limits) es

end OpenFox.Authority
