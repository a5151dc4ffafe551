/-
What a restart checks (`load` and `OpenPersonalAuthority`): loss totals and portfolio use, relay
admissions with their routes, the sponsorship and custody ledgers with their tombstones, every engagement with its
marker, its reservation action and the hold behind a local signature, and the remaining indexes.
-/
import OpenFox.Authority.Settlement

namespace OpenFox.Authority

open OpenFox.Go OpenFox.Commerce

variable (P : Protocol) (doc : AuthorityDocument) (record : EngagementRecord)

/-! ## Losses and indexes -/

def loadLosses (order : RangeOrder) (doc : AuthorityDocument) : Except String Unit := do
  let limit := doc.limits.maximumLossAtomic
  refuse (exceeds doc.consumedMaximumLossAtomic doc.retainedDefaultLiabilityAtomic limit)
    "personal authority loss disposition exceeds its portfolio limit"
  refuse (doc.consumedMaximumLossByAsset.all (fun bucket consumed => canonicalSHA256 bucket &&
      (doc.retainedDefaultLiabilityByAsset.get? bucket).any fun retained => !exceeds consumed retained limit) = false)
    "personal authority asset loss disposition is invalid"
  refuse (doc.retainedDefaultLiabilityByAsset.all (fun bucket retained => canonicalSHA256 bucket &&
      (doc.consumedMaximumLossByAsset.get? bucket).any fun consumed => !exceeds consumed retained limit) = false)
    "personal authority asset liability disposition is invalid"
  let _ ← portfolioUsage P order doc

def loadIndexes : Except String Unit := do
  refuse (doc.outcomeJournalHeads.all (fun domain head => canonicalSHA256 domain && head.epoch != 0 &&
      head.sequence != 0 && canonicalSHA256 head.eventContentID && canonicalSHA256 head.operationEnvelopeDigest &&
      canonicalSHA256 head.gapSetDigest &&
      (doc.actions.get? head.stableActionID).any (·.exactRequestDigest == head.exactRequestDigest)) = false)
    "personal authority outcome journal high-water is invalid"
  refuse (doc.authorizedActions.all (fun id action => action.stableActionID == id &&
      (doc.actions.get? id).any (·.exactRequestDigest == action.exactRequestDigest)) = false)
    "personal authority authorized Action index is invalid"
  refuse (doc.authorizedActions.all (fun _ action => (P.authorizedActionDigest action).isOk) = false)
    "personal authority stored AuthorizedAction is invalid"

/-! ## Relay admissions -/

/-- The lookup `load` builds from the body of a receipt. -/
def receiptLookup (body : RelayAdmissionReceipt) : RelayAdmissionLookup where
  schemaVersion := 1
  ownerID := body.ownerID
  agentID := body.agentID
  authenticatedPrincipal := body.authenticatedPrincipal
  authorityID := body.authorityID
  providerAgentID := body.providerAgentID
  serviceProfileDigest := body.serviceProfileDigest
  providerQuoteDigest := body.providerQuoteDigest
  networkDigest := body.networkDigest
  transactionIdentityDigest := body.transactionIdentityDigest
  mode := body.mode
  assuranceLevel := body.assuranceLevel
  routeAttempt := body.routeAttempt
  predecessorReceiptDigest := body.predecessorReceiptDigest
  stableActionID := body.stableActionID
  exactRequestDigest := body.exactRequestDigest
  relayExecutionDigest := body.relayExecutionDigest
  stageMask := body.stageMask.appendedToNil

def relayReceiptValid (lookupDigest : String) (receipt : RelayAdmissionReceipt) : Bool :=
  P.relayLookupDigest (receiptLookup receipt) == .ok lookupDigest && receipt.ownerID == doc.ownerID &&
    receipt.agentID == doc.agentID && receipt.authorityID == doc.authorityID && receipt.admissionSequence != 0 &&
    P.verifyRelayReceiptSignature receipt == .ok ()

/-- One round of the loop over the receipts; `seen` are the sequences so far. -/
def loadRelayReceipt (seen : List UInt64) (entry : (_ : String) × RelayAdmissionReceipt) :
    Except String (List UInt64) := do
  refuse (relayReceiptValid P doc entry.1 entry.2 = false) "personal authority relay admission ledger is invalid"
  refuse (entry.2.admissionSequence ∈ seen) "personal authority relay admission sequence is reused"
  pure (entry.2.admissionSequence :: seen)

def RelayAdmissionReceipt.bindingKey (receipt : RelayAdmissionReceipt) : String :=
  relayAdmissionStableBindingKey receipt.ownerID receipt.agentID receipt.stableActionID

/-- The receipts of one binding key, by route attempt. -/
def relayRoute (order : RangeOrder) (doc : AuthorityDocument) (key : String) :
    List ((_ : String) × RelayAdmissionReceipt) :=
  ((doc.relayAdmissions.range order 10).filter fun e => RelayAdmissionReceipt.bindingKey e.2 == key).insertionSort
    fun e e' => e.2.routeAttempt ≤ e'.2.routeAttempt

/-- One round of the loop over the routes: the last receipt of a valid chain is the one bound. -/
def loadRelayRoute (order : RangeOrder) (doc : AuthorityDocument) (expected : Map String String) (key : String) :
    Except String (Map String String) := do
  let route := relayRoute order doc key
  refuse (route.length > P.maxRelayRouteAttempts.toNat)
    "personal authority relay admission route chain exceeds the V1 limit"
  refuse (P.validateRelayRouteChain (route.map (·.2)) ≠ .ok ())
    "personal authority relay admission route chain is invalid"
  pure (match route.getLast? with
    | some last => expected.put key last.1
    | none => expected)

def equalRelayAdmissionBindings (left right : Map String String) : Bool :=
  left.entries.length == right.entries.length && left.all fun key value => right.get? key == some value

/-- The receipts, their sequences and their routes; an absent binding index is rebuilt from them. -/
def loadRelayAdmissions (order : RangeOrder) (doc : AuthorityDocument) : Except String AuthorityDocument := do
  let doc := if doc.nextRelayAdmissionSequence = 0 ∧ doc.relayAdmissions.entries = [] then
      { doc with nextRelayAdmissionSequence := 1 }
    else doc
  refuse (doc.relayAdmissions.entries.length > maximumRelayAdmissions ∨
      doc.relayAdmissionBindings.entries.length > maximumRelayAdmissions)
    "personal authority relay admission capacity is exceeded"
  let sequences ← (doc.relayAdmissions.range order 10).foldlM (loadRelayReceipt P doc) []
  let keys := ((doc.relayAdmissions.range order 10).map fun e => RelayAdmissionReceipt.bindingKey e.2).dedup
  let expected ← keys.foldlM (loadRelayRoute P order doc) ∅
  let maximum := sequences.foldl max 0
  refuse (maximum = 0 - 1 ∨ doc.nextRelayAdmissionSequence ≠ maximum + 1)
    "personal authority relay admission high-water is invalid"
  if doc.relayAdmissionBindings.entries = [] ∧ expected.entries ≠ [] then
    pure { doc with relayAdmissionBindings := expected }
  else do
    refuse (equalRelayAdmissionBindings doc.relayAdmissionBindings expected = false)
      "personal authority relay admission binding index is invalid"
    pure doc

/-! ## Custody ledgers -/

/-- The fields of a bearer that must agree with its payment, live or expired. -/
def bearerConsistent (paymentDigest : String) (issued : IssuedCustodyPayment) : Bool :=
  let a := issued.authorization
  P.paymentRequestDigest issued.payment == .ok paymentDigest && issued.paymentRequestDigest == paymentDigest &&
    P.digest "tos.openfox.issued-native-custody-authorization.v1" (.custodyAuthorization a) ==
      .ok issued.authorizationDigest &&
    P.signCustodyAction a == .ok a &&
    (doc.actions.get? issued.payment.stableActionID).any (·.exactRequestDigest == a.exactRequestDigest) &&
    a.schemaVersion == 3 && issued.payment.schemaVersion == 3 &&
    issued.payment.settlementAdapterURI == P.directPaymentAdapterURI &&
    a.agreementPaymentRequestDigest == paymentDigest && a.stableActionID == issued.payment.stableActionID &&
    a.agreementBodyDigest == issued.payment.agreementBodyDigest &&
    a.obligationInstanceID == issued.payment.obligationInstanceID && a.destination == issued.payment.destination &&
    a.expiresAtUnix ≤ issued.payment.expiresAtUnix && issued.terminalEvidenceDigest == "" &&
    issued.terminalReference == ""

def bearerPinned (issued : IssuedCustodyPayment) : Bool :=
  match issued.authorization.networkDomain with
  | none => false
  | some domain =>
    P.networkDomainDigest domain == .ok doc.limits.custodyNetworkDomainDigest &&
      doc.limits.custodyNetworkDomainDigest == issued.payment.networkDomainDigest &&
      issued.authorization.sourceAccount == doc.limits.custodySourceAccount &&
      doc.limits.custodyNativeAsset == some issued.payment.amount.asset

def validateExpiredCustodyAuthorization (tombstone : ExpiredCustodyAuthorization)
    (marker : UInt64) (reservationID sponsorshipAdmissionID : String) (now : Time) : Except String Unit := do
  let issued := tombstone.issuance
  refuse (marker = 0 ∨ tombstone.expiredAtUnix ≠ marker ∨ issued.releaseAfterUnix = 0 ∨
      issued.finalityGraceSeconds = 0 ∨ issued.releaseAfterUnix > marker ∨ now.unix < 0 ∨
      issued.finalityGraceSeconds ≠ doc.limits.custodyFinalityGraceSeconds ∨ now.unixU64 < issued.releaseAfterUnix ∨
      bearerConsistent P doc issued.paymentRequestDigest issued = false ∨ issued.reservationID ≠ reservationID ∨
      (doc.reservations.get? reservationID).any (·.released) = false)
    "personal authority expired custody tombstone is invalid"
  refuse (doc.issuedCustodyPayments.has issued.paymentRequestDigest)
    "personal authority custody bearer is both live and expired"
  refuse (sponsorshipAdmissionID = "" ∧
      ((doc.engagements.get? issued.payment.agreementBodyDigest).any (·.reservationID == reservationID) = false ∨
        issued.sponsorshipAdmissionID ≠ ""))
    "personal authority expired Agreement custody binding is invalid"
  refuse (sponsorshipAdmissionID ≠ "" ∧ issued.sponsorshipAdmissionID ≠ sponsorshipAdmissionID)
    "personal authority expired sponsorship custody binding is invalid"
  refuse (issued.authorization.networkDomain = none) "personal authority expired custody network domain is absent"
  refuse (bearerPinned P doc issued = false) "personal authority expired custody owner pins are invalid"
  refuse (custodyAuthorizationReleaseAfter P doc issued ≠ .ok issued.releaseAfterUnix)
    "personal authority expired custody horizon is invalid"

def loadSponsorship (now : Time) (entry : (_ : String) × RelaySponsorshipPaymentAdmission) : Except String Unit :=
  let admission := entry.2
  match doc.authorizedActions.get? admission.payment.stableActionID,
    doc.actions.get? admission.payment.stableActionID with
  | some action, some resolution => do
    let expected ← (sponsorshipAdmission P action admission.payment admission.purpose).mapError fun _ =>
      "personal authority relay sponsorship admission ledger is invalid"
    refuse (entry.1 ≠ admission.admissionID ∨ entry.1 ≠ expected.admissionID ∨
        expected.purposeDigest ≠ admission.purposeDigest ∨ admission.reservation ≠ expected.reservation ∨
        doc.reservations.has expected.reservation.reservationID = false ∨
        exactRelaySponsorshipCustodyPurpose P action admission.payment admission.purpose = false ∨
        doc.relaySponsorshipPayments.any (fun id other => id != entry.1 &&
          other.payment.stableActionID == admission.payment.stableActionID) = true)
      "personal authority relay sponsorship admission ledger is invalid"
    refuse ((admission.custodyAuthorizationExpiredAtUnix != 0) ≠ admission.expiredCustodyAuthorization.isSome)
      "personal authority sponsorship custody expiry marker is incomplete"
    match admission.expiredCustodyAuthorization with
    | none => pure ()
    | some tombstone =>
      validateExpiredCustodyAuthorization P doc tombstone admission.custodyAuthorizationExpiredAtUnix
        admission.reservation.reservationID entry.1 now
    refuse (doc.reservations.get? expected.reservation.reservationID ≠ some { expected.reservation with
        released := resolution.state == .rejected || admission.custodyAuthorizationExpiredAtUnix != 0 })
      "personal authority relay sponsorship exposure lifecycle is invalid"
  | _, _ => .error "personal authority relay sponsorship admission ledger is invalid"

/-- The bearer is bound to the admission or engagement that owns its reservation. -/
def bearerBound (paymentDigest : String) (issued : IssuedCustodyPayment) : Bool :=
  if issued.sponsorshipAdmissionID ≠ "" then
    (doc.relaySponsorshipPayments.get? issued.sponsorshipAdmissionID).any fun admission =>
      admission.paymentRequestDigest == paymentDigest && admission.reservation.reservationID == issued.reservationID
  else (doc.engagements.get? issued.payment.agreementBodyDigest).any (·.reservationID == issued.reservationID)

def loadIssued (entry : (_ : String) × IssuedCustodyPayment) : Except String Unit := do
  let issued := entry.2
  refuse (bearerConsistent P doc entry.1 issued = false ∨
      parseUint issued.payment.amount.amountAtomic ≠ some issued.authorization.amountAtomic ∨
      issued.authorization.amountAtomic = 0 ∨
      (doc.reservations.get? issued.reservationID).all (·.released) = true ∨
      issued.authorization.networkDomain = none)
    "personal authority issued native custody ledger is invalid"
  refuse (doc.issuedCustodyPayments.any fun digest other =>
      other.reservationID == issued.reservationID && digest != entry.1)
    "personal authority reservation has multiple live custody bearers"
  refuse (issued.finalityGraceSeconds = 0 ∧ issued.releaseAfterUnix ≠ 0)
    "personal authority permanent custody hold has a release horizon"
  refuse (issued.finalityGraceSeconds ≠ 0 ∧ issued.finalityGraceSeconds ≠ doc.limits.custodyFinalityGraceSeconds)
    "personal authority issued custody grace differs from the owner pin"
  refuse (issued.finalityGraceSeconds ≠ 0 ∧
      custodyAuthorizationReleaseAfter P doc issued ≠ .ok issued.releaseAfterUnix)
    "personal authority issued custody horizon is invalid"
  refuse (bearerPinned P doc issued = false ∨
      issued.authorization.networkDomain.any (·.networkID == issued.payment.networkID) = false)
    "personal authority issued custody network domain is invalid"
  refuse (issued.sponsorshipAdmissionID ≠ "" ∧ bearerBound doc entry.1 issued = false)
    "personal authority issued sponsorship custody binding is invalid"
  refuse (issued.sponsorshipAdmissionID = "" ∧ bearerBound doc entry.1 issued = false)
    "personal authority issued Agreement custody binding is invalid"

/-! ## Engagements -/

/-- A reserved engagement names the terminal `portfolio.reserve` action that created its hold. -/
def reservationActionRetained : Bool :=
  record.reservationID == "" ||
    ((doc.reservations.get? record.reservationID).any (·.agreementDigest == record.agreementDigest) &&
      record.reservationActionID != "" && record.reservationActionExactRequestDigest != "" &&
      (doc.authorizedActions.get? record.reservationActionID).any (fun action =>
        action.actionKind == "portfolio.reserve" &&
          action.exactRequestDigest == record.reservationActionExactRequestDigest) &&
      (doc.actions.get? record.reservationActionID).any fun resolution =>
        resolution.exactRequestDigest == record.reservationActionExactRequestDigest && resolution.state == .terminal)

/-- The lifecycle states in which a signed buyer's reservation may be released. -/
def terminalRelease : Bool :=
  match record.state with
  | .settled => !hasUnpaidLedgerEntry doc record.agreementDigest
  | .cancelled | .failed => true
  | .unpaid => record.expiredCustodyAuthorization.isSome
  | _ => false

/-- The hold behind a local agent signature: its reservation covers the exposure exactly, and a
released one has a terminal reason. -/
def signedHoldValid : Bool :=
  match localAgreementPaymentExposure record.body doc.agentID with
  | .error _ => false
  | .ok exposure => !(0 < exposure.maximumLoss) ||
      match doc.reservations.get? record.reservationID with
      | none => false
      | some reservation =>
        reservationExactlyCoversAgreementPayment { reservation with released := false } record exposure &&
          (!reservation.released || terminalRelease doc record) &&
          (reservation.released || record.expiredCustodyAuthorization.isNone)

def locallySigned : Bool :=
  record.agreement.authorizationEvidence.any (isAgentSignatureOf P doc.agentID)

def markerValid : Bool :=
  record.fullyAuthorizedEvidenceSetDigest == "" || retainedAgreementFullyAuthorized P record doc.agentID

def privateInputsValid : Except String Unit := do
  refuse (record.acceptedPrivateInputs.all (fun a => P.validateAcceptedPrivateContent a == .ok ()) = false)
    "personal authority accepted private input is invalid"
  refuse (record.boundPrivateInputs.all (fun b => b.obligationID != "" &&
      P.validateAcceptedPrivateContent b.record == .ok ()) = false)
    "personal authority obligation-bound private input is invalid"
  refuse (record.boundPrivateInputs.all (fun b => (obligationByID record b.obligationID).isSome) = false)
    "personal authority private input names an absent obligation"
  refuse (record.privateHandoffChallenges.all (fun c => c.obligationID != "" && canonicalSHA256 c.challengeDigest &&
      canonicalSHA256 c.sendActionID) = false ∨
      ¬ (record.privateHandoffChallenges.map (·.obligationID)).Pairwise (· < ·))
    "personal authority private handoff challenge binding is invalid"
  refuse (record.privateHandoffChallenges.all (fun c => (obligationByID record c.obligationID).any fun o =>
      o.beneficiaryAgentID == doc.agentID && selectsPrivateHandoff o) = false)
    "personal authority private handoff challenge names an unauthorized obligation"

def loadEngagement (now : Time) (entry : (_ : String) × EngagementRecord) : Except String Unit := do
  let record := initializeObligationRuntime entry.2
  refuse (P.agreementBodyDigest record.body ≠ .ok entry.1 ∨ record.agreementDigest ≠ entry.1 ∨
      record.stateRevision = 0 ∨ record.lastTransitionAtUnix = 0 ∨ validNegotiationConflictRecord record = false)
    "personal authority engagement ledger is invalid"
  refuse (markerValid P doc record = false) "personal authority fully authorized Agreement marker is invalid"
  refuse ((record.custodyAuthorizationExpiredAtUnix != 0) ≠ record.expiredCustodyAuthorization.isSome)
    "personal authority Agreement custody expiry marker is incomplete"
  match record.expiredCustodyAuthorization with
  | none => pure ()
  | some tombstone =>
    validateExpiredCustodyAuthorization P doc tombstone record.custodyAuthorizationExpiredAtUnix
      record.reservationID "" now
  refuse (reservationActionRetained doc record = false)
    "personal authority Engagement reservation has no exact linearized action; use a new authority generation"
  refuse (locallySigned P doc record = true ∧ signedHoldValid doc record = false)
    "personal authority contains a local buyer signature without an exact live hold"
  validateObligationRuntime record
  privateInputsValid P doc record

/-! ## Reopening -/

def loadLedgers : Except String Unit := do
  refuse (doc.settlementLedger.all (fun id ledger => ledger.obligation.obligationInstanceID == id &&
      P.validateSettlementObligation ledger.obligation == .ok () &&
      P.validateSettlementState ledger.state == .ok ()) = false)
    "personal authority settlement ledger is invalid"
  refuse (doc.accounting.all (fun id entry => accountingEntryID P entry.body == .ok id && entry.entryID == id &&
      entry.writerGeneration != 0) = false)
    "personal authority accounting ledger is invalid"

def load (h : Host) (doc : AuthorityDocument) : Except String AuthorityDocument := do
  refuse (doc.portfolioRevision = 0 ∨ doc.nextInstanceSequence = 0) "personal authority journal is invalid"
  loadLosses P h.range doc
  loadIndexes P doc
  let doc ← loadRelayAdmissions P h.range doc
  refuse (doc.relaySponsorshipPayments.entries.length > maximumRelayAdmissions)
    "personal authority relay sponsorship admission capacity is exceeded"
  (doc.relaySponsorshipPayments.range h.range 5).forM (loadSponsorship P doc (h.clock 1))
  refuse (doc.issuedCustodyPayments.entries.length > maximumIssuedCustodyAuthorizations)
    "personal authority issued custody capacity is exceeded"
  (doc.issuedCustodyPayments.range h.range 6).forM (loadIssued P doc)
  refuse (P.validatePortfolioDependencies doc.dependencies ≠ .ok ()) "personal authority dependency graph is invalid"
  refuse (doc.scheduleEntries.all (fun _ entry => P.validateScheduleEntry entry == .ok ()) = false)
    "personal authority schedule is invalid"
  (doc.engagements.range h.range 7).forM (loadEngagement P doc (h.clock 1))
  loadLedgers P doc
  pure { doc with engagements := doc.engagements.mapVal fun _ record => initializeObligationRuntime record }

/-- A restart: the journal is loaded and checked, the configured limits must be the retained ones,
and due bearers expire. An authority that does not open refuses every call, like a poisoned one. -/
def PersonalAuthority.reopen (h : Host) (limits : PortfolioLimits) (a : PersonalAuthority) :
    PersonalAuthority × Except String Unit :=
  match load P h a.doc with
  | .error e => ({ a with poisoned := true }, .error e)
  | .ok doc =>
    if doc.limits ≠ limits then
      ({ a with poisoned := true },
        .error "personal authority owner limits or custody pins changed; use a new authority generation")
    else match PersonalAuthority.expireIssuedCustodyLocked P h { doc := doc } with
    | (opened, .ok _) => (opened, .ok ())
    | (opened, .error e) => ({ opened with poisoned := true }, .error e)

end OpenFox.Authority
