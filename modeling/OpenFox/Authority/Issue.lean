/-
The generic action transition, which releases the hold of a rejected sponsorship, and
`portfolio.release` with its realized loss and retained liability. Custody capabilities: the admission
that binds a sponsored payment to its own reservation, the issuance of a native custody payment
bearer, and the signing of an escrow effect (`authority_journal.go`).
-/
import OpenFox.Authority.Admission

namespace OpenFox.Authority

open OpenFox.Go OpenFox.Commerce

variable (P : Protocol) (h : Host) (doc : AuthorityDocument) (action : AuthorizedAction) (fields : SemanticFields)
  (request : Bytes) (fence : WriterFence) (payment : PaymentRequest) (sourceAccount : String)
  (domain : NetworkDomain) (sponsorship : Option SponsorshipCustodyBinding)

/-! ## Action transitions -/

def isFinalState : ActionState → Bool
  | .terminal | .rejected | .conflict => true
  | _ => false

/-- The first admission a loop over the sponsorship ledger finds for an action. -/
def sponsorshipOf (site : Nat) (doc : AuthorityDocument) (stableActionID : String) :
    Option RelaySponsorshipPaymentAdmission :=
  ((doc.relaySponsorshipPayments.range h.range site).find? fun e => e.2.payment.stableActionID == stableActionID).map
    (·.2)

/-- A sponsored action reaches no accepted or terminal state here, and is not rejected while a
bearer of its admission is issued. -/
def sponsorshipTransitionGuard (stableActionID : String) (state : ActionState) : Except String Unit :=
  match sponsorshipOf h 5 doc stableActionID with
  | none => .ok ()
  | some admission => do
    refuse (state = .accepted ∨ state = .terminal)
      "relay sponsorship terminal state requires authority-verified payment evidence"
    refuse (state = .rejected ∧
        doc.issuedCustodyPayments.any (fun _ issued => issued.sponsorshipAdmissionID == admission.admissionID) = true)
      "issued relay sponsorship custody cannot be rejected or release its hold"

/-- Rejecting a sponsored action frees the reservation its admission created. -/
def releaseRejectedSponsorship (stableActionID : String) (state : ActionState) (doc : AuthorityDocument) :
    Except String AuthorityDocument :=
  if state ≠ .rejected then .ok doc
  else match sponsorshipOf h 6 doc stableActionID with
  | none => .ok doc
  | some admission =>
    match doc.reservations.get? admission.reservation.reservationID with
    | none => .error "relay sponsorship terminal transition lost its exposure hold"
    | some reservation => do
      refuse (reservation.agreementDigest ≠ admission.payment.agreementBodyDigest)
        "relay sponsorship terminal transition lost its exposure hold"
      if reservation.released then pure doc else pure (releaseHold doc reservation)

def transition (stableActionID requestDigest : String) (state : ActionState) (sinkReference : String)
    (evidence : List String) : Operation ActionResolution where
  body doc :=
    match doc.actions.get? stableActionID with
    | none => .error "action transition has no exact admitted predecessor"
    | some existing => do
      refuse (existing.exactRequestDigest ≠ requestDigest) "action transition has no exact admitted predecessor"
      refuse (isFinalState existing.state = true) "terminal action cannot transition"
      sponsorshipTransitionGuard h doc stableActionID state
      let resolution := { existing with
        state := state, sinkReference := sinkReference, evidenceRefs := evidence
        stateRevision := existing.stateRevision + 1 }
      P.validateActionResolution resolution
      let next ← releaseRejectedSponsorship h stableActionID state
        { doc with actions := doc.actions.put stableActionID resolution }
      pure (.store next resolution)

/-! ## portfolio.release -/

/-- A release request in either of its two formats. -/
def decodeRelease : Except String PortfolioReleaseRequest :=
  match P.decodePortfolioRelease request with
  | .ok release => .ok release
  | .error _ => do
    let pre ← (P.decodePreAcceptanceRelease request).mapError fun _ => "portfolio release request is invalid"
    refuse (pre.schemaVersion ≠ 1 ∨ pre.releaseVariant ≠ "pre_acceptance" ∨
        pre.targetPortfolioRevision ≠ pre.expectedPortfolioRevision + 1)
      "portfolio release request is invalid"
    let digest ← (P.offerNonAcceptanceDigest pre.nonAcceptanceEvidence).mapError fun _ =>
      "portfolio release terminal evidence is invalid"
    pure { reservationID := pre.reservationID, agreementDigest := pre.coverageAgreementBodyDigest
           targetPortfolioRevision := pre.targetPortfolioRevision, terminalEvidenceSetDigest := digest }

def hasUnpaidLedgerEntry (agreementDigest : String) : Bool :=
  doc.settlementLedger.any fun _ ledger =>
    ledger.obligation.agreementBodyDigest == agreementDigest && ledger.state.state != .paid

/-- The engagement behind a reservation must be settled and paid, cancelled or failed. -/
def releasableEngagement (agreementDigest : String) : Except String Unit :=
  match doc.engagements.get? agreementDigest with
  | none => .ok ()
  | some engagement =>
    match engagement.state with
    | .settled => refuse (hasUnpaidLedgerEntry doc engagement.agreementDigest = true)
        "settled Agreement retains a non-paid settlement obligation"
    | .cancelled => .ok ()
    | .failed => .ok ()
    | _ => .error "non-terminal Agreement cannot release its Portfolio reservation"

def consumedLoss (bucket : String) : UInt64 :=
  if bucket = "" then doc.consumedMaximumLossAtomic else doc.consumedMaximumLossByAsset.getD bucket 0

def retainedLiability (bucket : String) : UInt64 :=
  if bucket = "" then doc.retainedDefaultLiabilityAtomic else doc.retainedDefaultLiabilityByAsset.getD bucket 0

/-- Book a release's realized loss and retained liability into the bucket's totals. -/
def disposeLoss (bucket : String) (realized retained : UInt64) : AuthorityDocument :=
  if bucket = "" then
    { doc with
      consumedMaximumLossAtomic := doc.consumedMaximumLossAtomic + realized
      retainedDefaultLiabilityAtomic := doc.retainedDefaultLiabilityAtomic + retained }
  else
    { doc with
      consumedMaximumLossByAsset :=
        doc.consumedMaximumLossByAsset.put bucket (consumedLoss doc bucket + realized)
      retainedDefaultLiabilityByAsset :=
        doc.retainedDefaultLiabilityByAsset.put bucket (retainedLiability doc bucket + retained) }

def dispositionWithinLimits (existing : ExposureReservation) (bucket : String)
    (realized retained : UInt64) : Except String Unit := do
  let limit := doc.limits.maximumLossAtomic
  refuse (exceeds realized retained existing.maximumLossAtomic || exceeds (consumedLoss doc bucket) realized limit)
    "portfolio release disposition exceeds the reserved or aggregate maximum loss"
  let consumedAfter := consumedLoss doc bucket + realized
  refuse (exceeds consumedAfter (retainedLiability doc bucket) limit ||
      exceeds (consumedAfter + retainedLiability doc bucket) retained limit)
    "portfolio release retained liability exceeds the aggregate maximum loss"

/-- The state revision the terminal resolution of a release gets, or the resolution of a retry. -/
def releasePredecessor : Except String (ActionResolution ⊕ UInt64) :=
  match doc.actions.get? action.stableActionID with
  | none => .ok (.inr 1)
  | some prior => do
    refuse (prior.exactRequestDigest ≠ action.exactRequestDigest) "portfolio release identity conflicts"
    if prior.state = .terminal then pure (.inl prior)
    else do
      refuse (prior.state ≠ .prepared) "portfolio release has an unresolved non-prepared predecessor"
      pure (.inr (prior.stateRevision + 1))

def releaseReservation (realizedLossAtomic retainedDefaultLiabilityAtomic : UInt64) : Operation ActionResolution where
  body doc := do
    refuse (holdsWriter doc fence = false ∨ ¬ h.clock 1 < Time.ofUnix fence.body.expiresAtUnix)
      "stale writer cannot release a reservation"
    refuse (action.actionKind ≠ "portfolio.release" ∨ verified P doc action fields request fence (h.clock 2) = false)
      "portfolio release action is not authorized"
    match ← releasePredecessor doc action with
    | .inl prior => pure (.keep prior)
    | .inr revision =>
      let release ← decodeRelease P request
      refuse (release.targetPortfolioRevision ≠ doc.portfolioRevision + 1)
        "portfolio release request or target revision is invalid"
      match doc.reservations.get? release.reservationID with
      | none => .error "portfolio reservation does not match or is already released"
      | some existing =>
        refuse (existing.agreementDigest ≠ release.agreementDigest ∨ existing.released = true)
          "portfolio reservation does not match or is already released"
        refuse (doc.issuedCustodyPayments.any (fun _ issued => issued.reservationID == existing.reservationID))
          "issued native custody authorization is still live"
        releasableEngagement doc existing.agreementDigest
        let bucket ← exposureAssetBucket P existing.asset
        dispositionWithinLimits doc existing bucket realizedLossAtomic retainedDefaultLiabilityAtomic
        let resolution := resolutionOf action .terminal [release.terminalEvidenceSetDigest] revision
        P.validateActionResolution resolution
        let next := { doc with
          reservations := doc.reservations.put release.reservationID { existing with released := true }
          portfolioRevision := doc.portfolioRevision + 1 }
        let next := disposeLoss next bucket realizedLossAtomic retainedDefaultLiabilityAtomic
        pure (.store (recordAction next action resolution) resolution)

/-! ## Sponsorship admission -/

/-- The admission record a sponsored payment gets, computed from its purpose. -/
def sponsorshipAdmission
    (purpose : RelaySponsorshipCustodyPurpose) : Except String RelaySponsorshipPaymentAdmission := do
  let purposeDigest ← relaySponsorshipCustodyPurposeDigest P purpose
  let reservation ← relaySponsorshipExposureReservation P payment purpose.paymentRequestDigest purposeDigest
  let admissionID ← relaySponsorshipPaymentAdmissionID P action purpose.paymentRequestDigest purposeDigest
    reservation.reservationID
  pure { admissionID := admissionID, payment := payment, paymentRequestDigest := purpose.paymentRequestDigest
         purpose := purpose, purposeDigest := purposeDigest, reservation := reservation }

def bindingOf (admission : RelaySponsorshipPaymentAdmission) : SponsorshipCustodyBinding :=
  { admissionID := admission.admissionID, paymentRequestDigest := admission.paymentRequestDigest
    purposeDigest := admission.purposeDigest, reservationID := admission.reservation.reservationID
    finalityProfileCBORDigest := admission.purpose.finalityProfileCBORDigest
    releaseProfileDigest := admission.purpose.releaseProfileDigest
    corroborationSnapshotID := admission.purpose.corroborationSnapshotID }

/-- Whether a sponsored action's hold is expected to be released in a lifecycle state. -/
def expectedRelease : ActionState → Option Bool
  | .prepared | .submitted => some false
  | .accepted | .terminal | .rejected => some true
  | _ => none

def paymentMaterialCanonical (payment : PaymentRequest) (request : Bytes) (fields : SemanticFields) : Bool :=
  match P.paymentAuthorizationMaterial payment with
  | .ok (expectedRequest, expectedFields) => expectedRequest == request && sameFields expectedFields fields
  | .error _ => false

/-- The retry branch: the recorded admission must be the same, only the envelope may be new. -/
def retrySponsorship (prior : ActionResolution) (admission : RelaySponsorshipPaymentAdmission) :
    Except String (Outcome (ActionResolution × SponsorshipCustodyBinding)) :=
  match expectedRelease prior.state with
  | none => .error "relay sponsorship admission has an invalid retained lifecycle"
  | some released => do
    refuse (prior.exactRequestDigest ≠ action.exactRequestDigest ∨
        doc.relaySponsorshipPayments.get? admission.admissionID ≠ some admission ∨
        doc.reservations.get? admission.reservation.reservationID ≠
          some { admission.reservation with released := released })
      "relay sponsorship admission conflicts with retained authority state"
    if doc.authorizedActions.get? action.stableActionID = some action then pure (.keep (prior, bindingOf admission))
    else pure (.store (recordAuthorizedAction doc action) (prior, bindingOf admission))

def admitRelaySponsorshipPayment (purpose : RelaySponsorshipCustodyPurpose) :
    Operation (ActionResolution × SponsorshipCustodyBinding) where
  expires := true
  body doc := do
    refuse (holdsWriter doc fence = false) "stale writer cannot admit relay sponsorship exposure"
    refuse (verified P doc action fields request fence (h.clock 1) = false ∨
        exactRelaySponsorshipCustodyPurpose P action payment purpose = false)
      "relay sponsorship payment purpose is not exactly authorized"
    refuse (paymentMaterialCanonical P payment request fields = false)
      "relay sponsorship payment material is not canonical"
    let admission ← sponsorshipAdmission P action payment purpose
    match doc.actions.get? action.stableActionID with
    | some prior => retrySponsorship doc action prior admission
    | none =>
      refuse (doc.relaySponsorshipPayments.entries.length ≥ maximumRelayAdmissions)
        "relay sponsorship admission capacity is exhausted"
      admitReservation P h.range doc admission.reservation
      let next := putReservation doc admission.reservation
      let next := { next with
        relaySponsorshipPayments := next.relaySponsorshipPayments.put admission.admissionID admission }
      let resolution := resolutionOf action .prepared [] 1
      pure (.store (recordAction next action resolution) (resolution, bindingOf admission))

/-! ## Custody payment bearers -/

def maximumIssuedCustodyAuthorizations : Nat := 4096

def custodyPaymentArguments : Except String Unit := do
  refuse (payment.settlementAdapterURI ≠ P.directPaymentAdapterURI)
    "native custody only authorizes the direct payment adapter"
  refuse (sourceAccount = "" ∨ P.validateNetworkDomain domain ≠ .ok () ∨ domain.networkID ≠ payment.networkID ∨
      domain.globalID = 0)
    "custody payment binding is incomplete"
  refuse (payment.schemaVersion ≠ 3 ∨ P.networkDomainDigest domain ≠ .ok payment.networkDomainDigest)
    "custody payment does not bind the pinned network domain"
  match sponsorship with
  | none => pure ()
  | some b =>
    refuse ([b.admissionID, b.paymentRequestDigest, b.purposeDigest, b.reservationID, b.finalityProfileCBORDigest,
        b.releaseProfileDigest, b.corroborationSnapshotID].all canonicalSHA256 = false)
      "custody sponsorship lacks an exact owner-authorized relay purpose"

def custodyOwnerPins : Except String Unit := do
  refuse (doc.limits.custodyNetworkDomainDigest = "" ∨
      doc.limits.custodyNetworkDomainDigest ≠ payment.networkDomainDigest)
    "custody payment network domain is not owner-pinned by this authority"
  refuse (doc.limits.custodySourceAccount = "" ∨ doc.limits.custodySourceAccount ≠ sourceAccount)
    "custody payment source account is not owner-pinned by this authority"
  refuse (doc.limits.custodyNativeAsset ≠ some payment.amount.asset)
    "custody payment asset is not the owner-pinned native asset"

/-- The reservation a bearer draws on: the sponsorship admission's own, or the Agreement's. -/
def custodyReservation (now : Time) : Except String String :=
  match sponsorship with
  | some b =>
    match doc.relaySponsorshipPayments.get? b.admissionID with
    | none => .error "direct sponsorship payment has no exact live authority admission"
    | some admission => do
      refuse (exactLiveRelaySponsorshipAdmission P doc action payment b admission = false)
        "direct sponsorship payment has no exact live authority admission"
      pure b.reservationID
  | none =>
    match doc.engagements.get? payment.agreementBodyDigest with
    | none => .error "direct payment has no exact live Agreement reservation"
    | some engagement => do
      refuse (exactLiveDirectPaymentReservation P doc engagement payment action now = false)
        "direct payment has no exact live Agreement reservation"
      pure engagement.reservationID

/-- The bearer of an exact retry, if the retained one matches the request in every field. -/
def retainedIssuanceMatches (retained : IssuedCustodyPayment) (action : AuthorizedAction) (payment : PaymentRequest)
    (sourceAccount : String) (domain : NetworkDomain) (sponsorship : Option SponsorshipCustodyBinding)
    (reservationID paymentDigest : String) (amount : UInt64) : Bool :=
  retained.terminalEvidenceDigest == "" && retained.payment == payment && retained.reservationID == reservationID &&
    (match sponsorship with
      | none => retained.sponsorshipAdmissionID == ""
      | some b => retained.sponsorshipAdmissionID != "" && retained.sponsorshipAdmissionID == b.admissionID) &&
    P.digest "tos.openfox.issued-native-custody-authorization.v1" (.custodyAuthorization retained.authorization) ==
      .ok retained.authorizationDigest &&
    retained.authorization.sourceAccount == sourceAccount && retained.authorization.networkDomain == some domain &&
    retained.authorization.stableActionID == action.stableActionID &&
    retained.authorization.exactRequestDigest == action.exactRequestDigest &&
    retained.authorization.agreementPaymentRequestDigest == paymentDigest &&
    retained.authorization.destination == payment.destination && retained.authorization.amountAtomic == amount

def custodyAuthorizationBody (fenceDigest paymentDigest : String) (amount : UInt64) : CustodyActionAuthorization :=
  { schemaVersion := 3, authorityID := doc.authorityID, ownerID := doc.ownerID, agentID := doc.agentID
    sourceAccount := sourceAccount, networkID := payment.networkID, networkGlobalID := domain.globalID
    networkDomain := some domain, stableActionID := action.stableActionID
    exactRequestDigest := action.exactRequestDigest, writerGeneration := action.writerGeneration
    writerFenceDigest := fenceDigest, agreementPaymentRequestDigest := paymentDigest
    policyRevision := action.policyRevision, mandateDigest := action.mandateDigest
    approvalDigestOrZero := if action.approvalDigest = "" then zeroSHA256Digest else action.approvalDigest
    agreementBodyDigest := payment.agreementBodyDigest, obligationInstanceID := payment.obligationInstanceID
    destination := payment.destination, amountAtomic := amount, expiresAtUnix := action.expiresAtUnix
    sponsorshipFinalityProfileCBORDigest := (sponsorship.map (·.finalityProfileCBORDigest)).getD ""
    sponsorshipReleaseProfileDigest := (sponsorship.map (·.releaseProfileDigest)).getD ""
    sponsorshipCorroborationSnapshotIdentity := (sponsorship.map (·.corroborationSnapshotID)).getD "" }

/-- The bearer a fresh issuance records, with its frozen grace period and horizon. -/
def newIssuance (fence : WriterFence) (reservationID paymentDigest : String) (amount : UInt64) :
    Except String IssuedCustodyPayment := do
  let fenceDigest ← P.writerFenceDigest fence
  let authorization ← P.signCustodyAction
    (custodyAuthorizationBody doc action payment sourceAccount domain sponsorship fenceDigest paymentDigest amount)
  let authorizationDigest ← P.digest "tos.openfox.issued-native-custody-authorization.v1"
    (.custodyAuthorization authorization)
  let issued : IssuedCustodyPayment :=
    { paymentRequestDigest := paymentDigest, payment := payment, reservationID := reservationID
      sponsorshipAdmissionID := (sponsorship.map (·.admissionID)).getD ""
      authorization := authorization, authorizationDigest := authorizationDigest
      finalityGraceSeconds := doc.limits.custodyFinalityGraceSeconds }
  let releaseAfter ← custodyAuthorizationReleaseAfter P doc issued
  pure { issued with releaseAfterUnix := releaseAfter }

def authorizeCustodyPayment : Operation CustodyActionAuthorization where
  before := custodyPaymentArguments P payment sourceAccount domain sponsorship
  expires := true
  body doc := do
    custodyOwnerPins doc payment sourceAccount
    refuse ((doc.engagements.get? payment.agreementBodyDigest).any (·.negotiationAmbiguous))
      "ambiguous Agreement lineage cannot authorize a custody payment"
    let reservationID ← custodyReservation P doc action payment sponsorship (h.clock 1)
    let paymentDigest ← (P.paymentRequestDigest payment).mapError fun _ => "custody payment request digest is invalid"
    refuse (holdsWriter doc fence = false) "stale writer cannot authorize custody"
    refuse (action.actionKind ≠ P.paymentActionKind payment ∨ action.stableActionID ≠ payment.stableActionID ∨
        verified P doc action fields request fence (h.clock 2) = false)
      "custody payment is not the exact authorized action"
    refuse ((doc.actions.get? action.stableActionID).all
        (fun prior => prior.exactRequestDigest != action.exactRequestDigest || prior.state != .prepared))
      "custody payment has no prepared authority record"
    refuse (sponsorship.isSome = true ∧ doc.authorizedActions.get? action.stableActionID ≠ some action)
      "relay sponsorship purpose is not the exact retained AuthorizedAction"
    match parseUint payment.amount.amountAtomic with
    | none => .error "native custody amount exceeds uint64"
    | some amount =>
      refuse (amount = 0) "native custody amount exceeds uint64"
      match doc.issuedCustodyPayments.get? paymentDigest with
      | some retained =>
        refuse (retainedIssuanceMatches P retained action payment sourceAccount domain sponsorship reservationID
            paymentDigest amount = false)
          "custody payment conflicts with a retained issuance lifecycle"
        pure (.keep retained.authorization)
      | none =>
        let issued ← newIssuance P doc action payment sourceAccount domain sponsorship fence reservationID
          paymentDigest amount
        refuse (doc.issuedCustodyPayments.any fun digest prior =>
            prior.reservationID == reservationID && digest != paymentDigest)
          "Portfolio reservation already has a different live native custody bearer"
        refuse (doc.issuedCustodyPayments.entries.length ≥ maximumIssuedCustodyAuthorizations)
          "custody payment issuance capacity is exhausted"
        pure (.store { doc with issuedCustodyPayments := doc.issuedCustodyPayments.put paymentDigest issued }
          issued.authorization)

/-! ## Escrow effects -/

def opensEscrow (actionKind : String) : Bool := actionKind == "escrow.accept" || actionKind == "escrow.fund"

def authorizeCustodyEffect (template : CustodyEffectAuthorization) : Operation CustodyEffectAuthorization where
  before := match template.networkDomain with
    | none => .error "custody effect authority is unavailable"
    | some domain =>
      refuse (P.validateNetworkDomain domain ≠ .ok () ∨ template.networkID ≠ domain.networkID ∨
          template.networkGlobalID ≠ domain.globalID)
        "custody effect authority is unavailable"
  body doc := do
    refuse (opensEscrow template.actionKind = true ∧ (doc.engagements.get? template.agreementBodyDigest).all
        (fun engagement => engagement.negotiationAmbiguous || !exactLivePaidDemandReservation P doc engagement
          doc.agentID template.agreementBodyDigest template.obligationID) = true)
      "Agreement is absent, ambiguous, or unreserved for new escrow exposure"
    refuse (holdsWriter doc fence = false) "stale writer cannot authorize custody effect"
    refuse (action.actionKind ≠ "escrow.transition" ∨ verified P doc action fields request fence (h.clock 1) = false)
      "custody effect is not the exact authorized action"
    refuse ((doc.actions.get? action.stableActionID).all
        (fun prior => prior.exactRequestDigest != action.exactRequestDigest || prior.state != .prepared))
      "custody effect has no prepared authority record"
    let fenceDigest ← P.writerFenceDigest fence
    let signed ← P.signCustodyEffect { template with
      schemaVersion := 2, authorityID := doc.authorityID, ownerID := doc.ownerID, agentID := doc.agentID
      stableActionID := action.stableActionID, exactRequestDigest := action.exactRequestDigest
      writerGeneration := action.writerGeneration, writerFenceDigest := fenceDigest
      policyRevision := action.policyRevision, mandateDigest := action.mandateDigest
      approvalDigestOrZero := if action.approvalDigest = "" then zeroSHA256Digest else action.approvalDigest
      expiresAtUnix := min template.expiresAtUnix action.expiresAtUnix }
    pure (.keep signed)

end OpenFox.Authority
