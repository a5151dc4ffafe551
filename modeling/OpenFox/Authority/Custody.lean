/-
Native custody: the frozen release horizon of an issued bearer, the clock-driven expiry that is
the only evidence-free release, and the checks at the last boundary before custody signs: an escrow
effect against its paid-demand reservation, a direct payment against its materialized obligation and
its Agreement's reservation, a relay sponsorship payment against its durable admission.
-/
import OpenFox.Authority.Agreement

namespace OpenFox.Authority

open OpenFox.Go OpenFox.Commerce

variable (P : Protocol) (doc : AuthorityDocument) (engagement : EngagementRecord)
  (purpose : RelaySponsorshipCustodyPurpose) (payment : PaymentRequest)

/-! ## Release horizon -/

def isLocalOutgoing (agentID : String) (o : AgreementObligation) : Bool :=
  o.amount.isSome && o.obligorAgentID == agentID

def obligationHorizon (body : AgentAgreementBody) (o : AgreementObligation) : UInt64 :=
  let expires := match o.billingTerms with
    | some terms =>
      if terms.billingKind = "periodic" ∧ (o.expiresAtUnix = 0 ∨ o.expiresAtUnix > terms.recurrenceEndUnix) then
        terms.recurrenceEndUnix
      else o.expiresAtUnix
    | none => o.expiresAtUnix
  if expires = 0 then body.expiresAtUnix else expires

def later (a b : UInt64) : UInt64 := if b > a then b else a

/-- The payment's own horizon, extended over every local outgoing obligation of its Agreement
unless a sponsorship admission owns the hold. -/
def custodyHorizon (issued : IssuedCustodyPayment) : Except String UInt64 :=
  let own := later issued.payment.expiresAtUnix issued.authorization.expiresAtUnix
  if issued.sponsorshipAdmissionID ≠ "" then .ok own
  else match doc.engagements.get? issued.payment.agreementBodyDigest with
  | none => .error "custody authorization lost its exact Agreement horizon"
  | some engagement => do
    refuse (exactRetainedAgreementBody P engagement = false ∨ engagement.reservationID ≠ issued.reservationID)
      "custody authorization lost its exact Agreement horizon"
    let outgoing := engagement.body.obligations.filter (isLocalOutgoing doc.agentID)
    refuse (outgoing = []) "custody authorization Agreement has no local outgoing horizon"
    pure (outgoing.foldl (fun h o => later h (obligationHorizon engagement.body o)) own)

def custodyAuthorizationReleaseAfter (issued : IssuedCustodyPayment) : Except String UInt64 :=
  if issued.finalityGraceSeconds = 0 then .ok 0
  else do
    let horizon ← custodyHorizon P doc issued
    refuse (horizon = 0 ∨ horizon > (0 - 1) - issued.finalityGraceSeconds)
      "custody authorization release horizon overflows"
    pure (horizon + issued.finalityGraceSeconds)

/-! ## Expiry -/

def releaseHold (reservation : ExposureReservation) : AuthorityDocument :=
  { doc with
    reservations := doc.reservations.put reservation.reservationID { reservation with released := true }
    portfolioRevision := doc.portfolioRevision + 1 }

def expireSponsorship (nowUnix : UInt64) (issued : IssuedCustodyPayment) (next : AuthorityDocument) :
    Except String AuthorityDocument :=
  match next.relaySponsorshipPayments.get? issued.sponsorshipAdmissionID with
  | none => .error "expired sponsorship custody authorization lost its admission"
  | some admission => do
    refuse (admission.reservation.reservationID ≠ issued.reservationID ∨
        admission.expiredCustodyAuthorization.isSome = true)
      "expired sponsorship custody authorization lost its admission"
    pure { next with
      relaySponsorshipPayments := next.relaySponsorshipPayments.put issued.sponsorshipAdmissionID
        { admission with
          custodyAuthorizationExpiredAtUnix := nowUnix
          expiredCustodyAuthorization := some { issuance := issued, expiredAtUnix := nowUnix } } }

/-- The states in which an engagement may lose its bearer to the clock. -/
def EngagementState.mayExpire : EngagementState → Bool
  | .settling | .settled | .unpaid | .cancelled | .failed => true
  | _ => false

def expireAgreement (nowUnix : UInt64) (issued : IssuedCustodyPayment) (next : AuthorityDocument) :
    Except String AuthorityDocument :=
  match next.engagements.get? issued.payment.agreementBodyDigest with
  | none => .error "expired Agreement custody authorization lost its Engagement"
  | some engagement => do
    refuse (engagement.reservationID ≠ issued.reservationID ∨ engagement.expiredCustodyAuthorization.isSome = true)
      "expired Agreement custody authorization lost its Engagement"
    refuse (engagement.state.mayExpire = false) "expired Agreement custody authorization has a non-terminal lifecycle"
    pure { next with
      engagements := next.engagements.put engagement.agreementDigest
        { engagement with
          custodyAuthorizationExpiredAtUnix := nowUnix
          expiredCustodyAuthorization := some { issuance := issued, expiredAtUnix := nowUnix }
          state := if engagement.state = .settling then .unpaid else engagement.state
          stateRevision := engagement.stateRevision + 1
          lastTransitionAtUnix := nowUnix } }

/-- Release the hold of one due bearer, leave its tombstone and drop it from the issued ledger. -/
def expireDue (nowUnix : UInt64) (paymentDigest : String) (issued : IssuedCustodyPayment)
    (next : AuthorityDocument) : Except String AuthorityDocument :=
  match next.reservations.get? issued.reservationID with
  | none => .error "expired custody authorization lost its exact live hold"
  | some reservation => do
    refuse (reservation.released = true) "expired custody authorization lost its exact live hold"
    let next := releaseHold next reservation
    let next ← if issued.sponsorshipAdmissionID ≠ "" then expireSponsorship nowUnix issued next
      else expireAgreement nowUnix issued next
    pure { next with issuedCustodyPayments := next.issuedCustodyPayments.delete paymentDigest }

/-- One round of the expiry loop: horizons are recomputed on the document before the call, effects
accumulate in the clone. A bearer without a frozen grace period is a permanent hold. -/
def expireOne (nowUnix : UInt64) (st : AuthorityDocument × Bool)
    (entry : (_ : String) × IssuedCustodyPayment) : Except String (AuthorityDocument × Bool) :=
  let issued := entry.2
  if issued.finalityGraceSeconds = 0 ∨ issued.releaseAfterUnix = 0 then .ok st
  else match custodyAuthorizationReleaseAfter P doc issued with
  | .error _ => .error "custody authorization has an invalid frozen release horizon"
  | .ok recomputed => do
    refuse (recomputed ≠ issued.releaseAfterUnix) "custody authorization has an invalid frozen release horizon"
    if nowUnix < issued.releaseAfterUnix then pure st
    else do
      let next ← expireDue nowUnix entry.1 issued st.1
      pure (next, true)

/-- The document `expireIssuedCustodyLocked` goes on to persist, if any bearer is due. -/
def expireIssuedCustody (order : RangeOrder) (now : Time) (doc : AuthorityDocument) :
    Except String (Option AuthorityDocument) :=
  if doc.issuedCustodyPayments.entries = [] then .ok none
  else do
    refuse (now.unix < 0) "authority time cannot expire custody authorizations"
    let (next, changed) ←
      (doc.issuedCustodyPayments.range order 4).foldlM (expireOne P doc now.unixU64) (doc, false)
    pure (if changed then some next else none)

/-! ## Live holds -/

def exactLivePaidDemandReservation (buyerAgentID agreementDigest obligationID : String) : Bool :=
  engagement.agreementDigest == agreementDigest && buyerAgentID != "" &&
    paidDemandBuyerPaymentObligation P engagement buyerAgentID obligationID &&
    match paidDemandBuyerReservation P engagement buyerAgentID with
    | .error _ => false
    | .ok expected => engagement.reservationID == expected.reservationID &&
        doc.reservations.get? expected.reservationID == some expected

def sameAgreementAmountAsset (left right : AgreementAmount) : Bool := left.asset == right.asset

/-! ## Direct payments -/

def directPaymentWindow (action : AuthorizedAction) (now : Time) : Bool :=
  payment.settlementAdapterURI == "tos.payment.direct.v1" && payment.ownerID == doc.ownerID &&
    payment.agentID == doc.agentID && payment.payerAgentID == doc.agentID &&
    payment.agreementBodyDigest == engagement.agreementDigest && engagement.reservationID != "" &&
    retainedAgreementFullyAuthorized P engagement doc.agentID && engagement.state == .settling &&
    0 ≤ now.unix && now.unixU64 < payment.expiresAtUnix && action.mandateDigest != "" &&
    action.expiresAtUnix != 0 && action.expiresAtUnix ≤ payment.expiresAtUnix &&
    P.validateAgreementBody engagement.body == .ok () && P.validatePaymentRequest payment == .ok ()

def directPaymentHold : Bool :=
  match localAgreementPaymentExposure engagement.body doc.agentID, doc.reservations.get? engagement.reservationID with
  | .ok exposure, some reservation =>
    exposure.asset.isSome && isUint64 exposure.maximumLoss && 0 < exposure.maximumLoss &&
      reservation.reservationID == engagement.reservationID &&
      reservation.agreementDigest == engagement.agreementDigest && !reservation.released &&
      reservation.asset == exposure.asset &&
      (reservation.maximumLossAtomic.toNat : Int) == exposure.maximumLoss &&
      exposure.maximumLoss ≤ reservation.spendAtomic.toNat
  | _, _ => false

def directPaymentLedger (ledger : SettlementLedgerRecord) (payment : PaymentRequest) (action : AuthorizedAction) :
    Bool :=
  ledger.obligation.agreementBodyDigest == payment.agreementBodyDigest &&
    ledger.obligation.agreementObligationID == payment.agreementObligationID &&
    ledger.obligation.obligationInstanceID == payment.obligationInstanceID &&
    ledger.obligation.payerAgentID == payment.payerAgentID && ledger.obligation.payeeAgentID == payment.payeeAgentID &&
    ledger.obligation.settlementAdapterURI == payment.settlementAdapterURI &&
    ledger.obligation.mandateDigest == action.mandateDigest &&
    ledger.obligation.expiresAtUnix == payment.expiresAtUnix && ledger.state.stateRevision != 0 &&
    (ledger.state.state == .pending || ledger.state.state == .partiallyPaid || ledger.state.state == .overdue)

def directPaymentObligation (ledger : SettlementLedgerRecord) (o : AgreementObligation) : Bool :=
  o.amount.isSome && o.obligorAgentID == payment.payerAgentID && o.beneficiaryAgentID == payment.payeeAgentID &&
    o.settlementAdapterURI == payment.settlementAdapterURI && engagement.body.networkContext == payment.networkID &&
    o.settlementParameters == payment.destination &&
    (match P.materializeSettlementObligations doc.ownerID doc.agentID engagement.agreementDigest o.obligationID
        ledger.obligation.mandateDigest o with
      | .ok materialized => materialized.any fun c =>
          c.obligationInstanceID == payment.obligationInstanceID && c == ledger.obligation
      | .error _ => false) &&
    P.digest "tos.settlement-obligation.v1" (.settlementObligation ledger.obligation) ==
      .ok ledger.state.obligationDigest &&
    P.validateSettlementState ledger.state == .ok () &&
    P.digest "tos.settlement-adapter-parameters.v1" (.settlementParameters o.settlementParameters) ==
      .ok ledger.obligation.settlementParametersDigest

def exactLiveDirectPaymentReservation (action : AuthorizedAction) (now : Time) : Bool :=
  directPaymentWindow P doc engagement payment action now && directPaymentHold doc engagement &&
    match doc.settlementLedger.get? payment.obligationInstanceID,
        obligationByID engagement payment.agreementObligationID with
    | some ledger, some o =>
      directPaymentLedger ledger payment action && directPaymentObligation P doc engagement payment ledger o &&
        sameAgreementAmountAsset payment.amount ledger.obligation.amount &&
        sameAgreementAmountAsset payment.amount ledger.state.outstandingAmount &&
        (match parseUint payment.amount.amountAtomic, parseUint ledger.state.outstandingAmount.amountAtomic with
          | some requested, some outstanding => requested > 0 && requested ≤ outstanding
          | _, _ => false)
    | _, _ => false

/-! ## Relay sponsorships -/

def sameRelayAgreementAssetAmount (left : AgreementAmount) (right : RelayAssetAmount) : Bool :=
  left.asset == right.asset && left.amountAtomic == right.amountAtomic && left.amountDecimal == ""

def relaySponsorshipCustodyPurposeDigest : Except String String :=
  P.digest "tos.openfox.relay-sponsorship-custody-purpose.v1" (.sponsorshipPurpose purpose)

def sponsorObligationMatches (o : AgreementObligation) : Bool :=
  (match o.amount with
    | some amount =>
      sameAgreementAmountAsset amount payment.amount && amount.amountAtomic == payment.amount.amountAtomic
    | none => false) &&
    o.kind == P.relaySponsorDelivery && o.obligorAgentID == payment.payerAgentID &&
    o.beneficiaryAgentID == payment.payeeAgentID && o.settlementAdapterURI == payment.settlementAdapterURI &&
    o.subjectContentType == P.relayBindingContentType && o.expiresAtUnix != 0 &&
    payment.expiresAtUnix ≤ o.expiresAtUnix && payment.expiresAtUnix ≤ purpose.agreementBody.expiresAtUnix

def sponsorBindingMatches (o : AgreementObligation) : Bool :=
  match P.decodeRelayBinding o.subject with
  | .error _ => false
  | .ok binding =>
    P.relayBindingBytes binding == .ok o.subject &&
      P.relayQuoteRequestDigest purpose.quoteRequest == .ok binding.quoteRequestDigest &&
      binding.providerQuoteDigest == purpose.providerQuoteDigest && binding.providerAgentID == payment.payerAgentID &&
      binding.requesterAgentID == payment.payeeAgentID && binding.mode != P.relayModeExact &&
      binding.sponsorshipReleaseProfileDigest == purpose.releaseProfileDigest &&
      binding.sponsorshipTerminalProfileDigest == purpose.sponsorshipTerminalProfileDigest

def sponsorQuoteMatches : Bool :=
  let quote := purpose.quoteRequest
  (match quote.requestedSponsorship with
    | some requested => sameRelayAgreementAssetAmount payment.amount requested
    | none => false) &&
    quote.providerAgentID == payment.payerAgentID && quote.requesterAgentID == payment.payeeAgentID &&
    quote.mode != P.relayModeExact && quote.network.networkID == payment.networkID &&
    P.networkDomainDigest quote.network == .ok payment.networkDomainDigest &&
    quote.sourceAccount == payment.destination &&
    quote.sponsorshipReleaseProfileDigest == purpose.releaseProfileDigest &&
    quote.sponsorshipTerminalProfileDigest == purpose.sponsorshipTerminalProfileDigest

def exactRelaySponsorshipCustodyPurpose (action : AuthorizedAction) (payment : PaymentRequest)
    (purpose : RelaySponsorshipCustodyPurpose) : Bool :=
  payment.schemaVersion == 3 && payment.settlementAdapterURI == P.directPaymentAdapterURI &&
    action.actionKind == P.paymentActionKind payment && action.stableActionID == payment.stableActionID &&
    purpose.schemaVersion == 1 &&
    [purpose.paymentRequestDigest, purpose.relayExecutionDigest, purpose.agreementBodyDigest,
      purpose.providerQuoteDigest, purpose.sponsorshipTerminalProfileDigest, purpose.finalityProfileCBORDigest,
      purpose.releaseProfileDigest, purpose.corroborationSnapshotID].all canonicalSHA256 &&
    purpose.agreementBodyDigest == payment.agreementBodyDigest &&
    purpose.agreementObligationID == payment.agreementObligationID &&
    P.paymentRequestDigest payment == .ok purpose.paymentRequestDigest &&
    P.agreementBodyDigest purpose.agreementBody == .ok purpose.agreementBodyDigest &&
    relaySponsorshipCustodyPurposeDigest P purpose == .ok action.approvalDigest &&
    purpose.agreementBody.networkContext == payment.networkID && sponsorQuoteMatches P purpose payment &&
    match purpose.agreementBody.obligations.filter (fun o => o.obligationID == purpose.agreementObligationID) with
    | [matched] => sponsorObligationMatches P purpose payment matched && sponsorBindingMatches P purpose payment matched
    | _ => false

def relaySponsorshipExposureReservation (paymentDigest purposeDigest : String) : Except String ExposureReservation :=
  match parseUint payment.amount.amountAtomic with
  | none => .error "relay sponsorship exposure is invalid"
  | some amount => do
    refuse (amount = 0 ∨ canonicalSHA256 paymentDigest = false ∨ canonicalSHA256 purposeDigest = false)
      "relay sponsorship exposure is invalid"
    let reservationID ← P.digest "tos.openfox.relay-sponsorship-exposure-reservation.v1"
      (.sponsorshipReservation paymentDigest purposeDigest)
    pure { reservationID := reservationID, agreementDigest := payment.agreementBodyDigest
           asset := some payment.amount.asset, spendAtomic := amount, maximumLossAtomic := amount }

def relaySponsorshipPaymentAdmissionID (action : AuthorizedAction)
    (paymentDigest purposeDigest reservationID : String) : Except String String :=
  P.digest "tos.openfox.relay-sponsorship-payment-admission.v1"
    (.sponsorshipAdmission action.stableActionID action.exactRequestDigest paymentDigest purposeDigest reservationID)

def exactLiveRelaySponsorshipAdmission (action : AuthorizedAction)
    (payment : PaymentRequest) (binding : SponsorshipCustodyBinding)
    (admission : RelaySponsorshipPaymentAdmission) : Bool :=
  admission.admissionID == binding.admissionID && admission.paymentRequestDigest == binding.paymentRequestDigest &&
    admission.purposeDigest == binding.purposeDigest &&
    admission.reservation.reservationID == binding.reservationID &&
    admission.purpose.finalityProfileCBORDigest == binding.finalityProfileCBORDigest &&
    admission.purpose.releaseProfileDigest == binding.releaseProfileDigest &&
    admission.purpose.corroborationSnapshotID == binding.corroborationSnapshotID &&
    admission.payment == payment && exactRelaySponsorshipCustodyPurpose P action payment admission.purpose &&
    relaySponsorshipCustodyPurposeDigest P admission.purpose == .ok admission.purposeDigest &&
    (match relaySponsorshipExposureReservation P payment admission.paymentRequestDigest admission.purposeDigest with
      | .error _ => false
      | .ok expected =>
        relaySponsorshipPaymentAdmissionID P action admission.paymentRequestDigest admission.purposeDigest
            expected.reservationID == .ok admission.admissionID &&
          admission.reservation == expected && doc.reservations.get? expected.reservationID == some expected) &&
    doc.authorizedActions.get? action.stableActionID == some action

end OpenFox.Authority
