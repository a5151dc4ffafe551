/-
A small concrete protocol and authority for runs that can be evaluated: two agreements between the
local agent `alice` and `bob`, with the digests, signatures and payments their runs need. Digests
are a table, so equal digests mean equal values; everything else is refused.
-/
import OpenFox.Authority.System

namespace OpenFox.Authority.Sample

open OpenFox.Go OpenFox.Commerce

/-! ## Digests -/

def relayDigest : String := "sha256:0100000000000000000000000000000000000000000000000000000000000000"
def serviceDigest : String := "sha256:0200000000000000000000000000000000000000000000000000000000000000"
def assetDigest : String := "sha256:0300000000000000000000000000000000000000000000000000000000000000"
def evidenceDigest1 : String := "sha256:0400000000000000000000000000000000000000000000000000000000000000"
def evidenceDigest2 : String := "sha256:0500000000000000000000000000000000000000000000000000000000000000"
def evidenceDigest3 : String := "sha256:0600000000000000000000000000000000000000000000000000000000000000"
def relaySetDigest : String := "sha256:0700000000000000000000000000000000000000000000000000000000000000"
def serviceSetDigest : String := "sha256:0800000000000000000000000000000000000000000000000000000000000000"
def billDigest1 : String := "sha256:0900000000000000000000000000000000000000000000000000000000000000"
def billDigest2 : String := "sha256:0a00000000000000000000000000000000000000000000000000000000000000"
def billDigest3 : String := "sha256:0b00000000000000000000000000000000000000000000000000000000000000"
def parametersDigest : String := "sha256:0c00000000000000000000000000000000000000000000000000000000000000"
def paymentDigest : String := "sha256:0d00000000000000000000000000000000000000000000000000000000000000"
def purposeDigest : String := "sha256:0e00000000000000000000000000000000000000000000000000000000000000"
def reservationDigest : String := "sha256:0f00000000000000000000000000000000000000000000000000000000000000"
def admissionDigest : String := "sha256:1000000000000000000000000000000000000000000000000000000000000000"
def custodyDigest : String := "sha256:1100000000000000000000000000000000000000000000000000000000000000"
def accountingDigest : String := "sha256:1200000000000000000000000000000000000000000000000000000000000000"
def domainDigest : String := "sha256:1300000000000000000000000000000000000000000000000000000000000000"
def instanceDigest1 : String := "sha256:1400000000000000000000000000000000000000000000000000000000000000"
def instanceDigest2 : String := "sha256:1500000000000000000000000000000000000000000000000000000000000000"
def instanceDigest3 : String := "sha256:1600000000000000000000000000000000000000000000000000000000000000"
def manifestDigest : String := "sha256:1700000000000000000000000000000000000000000000000000000000000000"
def profileDigest : String := "sha256:1800000000000000000000000000000000000000000000000000000000000000"
def accountingDigest2 : String := "sha256:1a00000000000000000000000000000000000000000000000000000000000000"
def quoteRequestDigest : String := "sha256:1900000000000000000000000000000000000000000000000000000000000000"

/-! ## Agreements -/

def native : AssetIdentity := ⟨"tos", "native", "nano"⟩

def amount (atomic : String) : AgreementAmount :=
  { assetNamespace := "tos", assetIdentifier := "native", unit := "nano", amountAtomic := atomic }

def agent (id : String) : AuthoritySubject :=
  { subjectKind := "agent", subjectNamespace := "tos.agent", subjectIdentifier := id }

def signature : String := "signature"

def quote : String := "quote"

def predicate (id profile : String) (subject : AuthoritySubject) : AuthorizationPredicate :=
  { predicateID := id, authoritySubject := subject, evidenceProfileURI := profile, evidenceProfileVersion := 1
    evidenceProfileDigest := profile, evidenceTargetProjectionDigest := id, expiresAtUnix := 9000 }

def delivery : AgreementObligation :=
  { obligationID := "deliver", obligorAgentID := "bob", beneficiaryAgentID := "alice" }

def sponsorship : AgreementObligation :=
  { obligationID := "pay", kind := "sponsor", obligorAgentID := "alice", beneficiaryAgentID := "bob"
    amount := some (amount "5"), settlementAdapterURI := "tos.payment.direct.v1", settlementParameters := "wallet"
    subject := "binding", subjectContentType := "relay", expiresAtUnix := 5000 }

/-- A relay agreement: a delivery, and a sponsorship with one payment. -/
def relayBody : AgentAgreementBody :=
  { agreementID := "relay", version := 1, networkContext := "net", validFromUnix := 1, expiresAtUnix := 9000
    participants := ["alice", "bob"], obligations := [delivery, sponsorship]
    authorizationPredicates := [predicate "p1" signature (agent "alice"), predicate "p2" signature (agent "bob")] }

def installments : AgreementObligation :=
  { obligationID := "pay", obligorAgentID := "alice", beneficiaryAgentID := "bob", amount := some (amount "5")
    settlementAdapterURI := "tos.payment.direct.v1", settlementParameters := "wallet", expiresAtUnix := 5000
    billingTerms := some { billingKind := "periodic", recurrenceEndUnix := 5000, maximumAggregateAmount := amount "10" }
      }

/-- A service agreement: a delivery, paid in two installments. The local side authorizes it with a
quote and not with an agent signature. -/
def serviceBody : AgentAgreementBody :=
  { agreementID := "service", version := 1, networkContext := "net", validFromUnix := 1, expiresAtUnix := 9000
    participants := ["alice", "bob"], obligations := [delivery, installments]
    authorizationPredicates := [predicate "q1" quote (agent "alice")] }

def evidence (body : AgentAgreementBody) (bodyDigest id profile : String) (subject : AuthoritySubject) :
    AuthorizationEvidence :=
  { agreementID := body.agreementID, agreementVersion := body.version, agreementBodyDigest := bodyDigest
    predicateIDs := [id], evidenceTargetProjectionDigests := [id], authoritySubject := subject
    evidenceProfileURI := profile, evidenceProfileVersion := 1, evidenceProfileDigest := profile, evidence := id }

def aliceSigns : AuthorizationEvidence := evidence relayBody relayDigest "p1" signature (agent "alice")
def bobSigns : AuthorizationEvidence := evidence relayBody relayDigest "p2" signature (agent "bob")
def aliceQuotes : AuthorizationEvidence := evidence serviceBody serviceDigest "q1" quote (agent "alice")

/-- Every predicate of the body is covered by evidence the verifier accepts. -/
def covers (agreement : AgentAgreement) (verifier : Verifier) (now : Time) : Bool :=
  agreement.body.authorizationPredicates.all fun p => agreement.authorizationEvidence.any fun e =>
    verifier e now &&
      (e.predicateIDs.zip e.evidenceTargetProjectionDigests).any fun q => predicateMatches e q.1 q.2 p

/-! ## Payments -/

def domain : NetworkDomain := ⟨"net", 1, "root", "file", 0⟩

def bill (bodyDigest instanceID : String) (sequence : UInt64) (stableActionID : String) : SettlementObligation :=
  { agreementBodyDigest := bodyDigest, agreementObligationID := "pay", obligationInstanceID := instanceID
    sequence := sequence, payerAgentID := "alice", payeeAgentID := "bob", amount := amount "5"
    settlementAdapterURI := "tos.payment.direct.v1", settlementParametersDigest := parametersDigest
    mandateDigest := "mandate", stableActionID := stableActionID, expiresAtUnix := 4000, dueAtUnix := 3000 }

def relayBill : SettlementObligation := bill relayDigest instanceDigest1 1 "bill-relay"
def firstBill : SettlementObligation := bill serviceDigest instanceDigest2 1 "bill-first"
def secondBill : SettlementObligation := bill serviceDigest instanceDigest3 2 "bill-second"

def payment : PaymentRequest :=
  { schemaVersion := 3, ownerID := "owner", agentID := "alice", payerAgentID := "alice", payeeAgentID := "bob"
    agreementBodyDigest := relayDigest, agreementObligationID := "pay", obligationInstanceID := instanceDigest1
    settlementAdapterURI := "tos.payment.direct.v1", networkID := "net", networkDomainDigest := domainDigest
    destination := "wallet", amount := amount "5", expiresAtUnix := 4000, stableActionID := "pay" }

def quoteRequest : RelayQuoteRequest :=
  { providerAgentID := "alice", requesterAgentID := "bob", mode := "sponsored", network := domain
    sourceAccount := "wallet", requestedSponsorship := some ⟨native, "5"⟩
    sponsorshipReleaseProfileDigest := profileDigest, sponsorshipTerminalProfileDigest := profileDigest }

def binding : RelayAgreementBinding :=
  { quoteRequestDigest := quoteRequestDigest, providerQuoteDigest := profileDigest, providerAgentID := "alice"
    requesterAgentID := "bob", mode := "sponsored", sponsorshipReleaseProfileDigest := profileDigest
    sponsorshipTerminalProfileDigest := profileDigest }

def purpose : RelaySponsorshipCustodyPurpose :=
  { schemaVersion := 1, paymentRequestDigest := paymentDigest, relayExecutionDigest := profileDigest
    quoteRequest := quoteRequest, agreementBody := relayBody, agreementBodyDigest := relayDigest
    agreementObligationID := "pay", providerQuoteDigest := profileDigest
    sponsorshipTerminalProfileDigest := profileDigest, finalityProfileCBORDigest := profileDigest
    releaseProfileDigest := profileDigest, corroborationSnapshotID := profileDigest }

/-- The hold a sponsorship admission creates; it also covers the agreement's exposure exactly. -/
def hold : ExposureReservation :=
  { reservationID := reservationDigest, agreementDigest := relayDigest, asset := some native, spendAtomic := 5
    maximumLossAtomic := 5 }

/-! ## The authority -/

def limits : PortfolioLimits :=
  { computeUnits := 100, spendAtomic := 100, lockedCapitalAtomic := 100, receivableAtomic := 100
    maximumLossAtomic := 100, custodyNetworkDomainDigest := domainDigest, custodyFinalityGraceSeconds := 100
    custodyNativeAsset := some native, custodySourceAccount := "account" }

def authority : PersonalAuthority := PersonalAuthority.fresh "owner" "alice" "authority" limits

/-- A host that reads the clock at second `t`, visits maps in their stored order and stores every write. -/
def host (t : Int) : Host :=
  { clock := fun _ => t * 1000000000, range := ⟨fun _ l => l, fun _ l => List.Perm.refl l⟩, random := .ok "1" }

def fence : WriterFence :=
  { body := { schemaVersion := 1, ownerID := "owner", agentID := "alice", instanceID := "instance", leaseID := "lease:1"
              writerGeneration := 1, issuedAtUnix := 100, expiresAtUnix := 3700, authorityID :=
                "authority", scope := [] }
    proof := "proof" }

def action (kind stableActionID : String) : AuthorizedAction :=
  { authorityID := "authority", ownerID := "owner", agentID := "alice", actionKind := kind
    stableActionID := stableActionID, exactRequestDigest := stableActionID, writerGeneration := 1, policyRevision := 1
    mandateDigest := "mandate", approvalDigest := purposeDigest, expiresAtUnix := 4000, proof := "proof" }

def custody : CustodyActionAuthorization :=
  { schemaVersion := 3, authorityID := "authority", ownerID := "owner", agentID := "alice", sourceAccount := "account"
    networkID := "net", networkGlobalID := 1, networkDomain := some domain, stableActionID := "pay"
    exactRequestDigest := "pay", writerGeneration := 1, writerFenceDigest := "fence"
    agreementPaymentRequestDigest := paymentDigest, policyRevision := 1, mandateDigest := "mandate"
    approvalDigestOrZero := purposeDigest, agreementBodyDigest := relayDigest, obligationInstanceID := instanceDigest1
    destination := "wallet", amountAtomic := 5, expiresAtUnix := 4000, proof := "proof" }

def installmentPayment (instanceID : String) : AccountingEntryBody :=
  { schemaVersion := 1, ownerID := "owner", agentID := "alice", classification := .settledExpense
    agreementBodyDigest := serviceDigest, agreementObligationID := "pay", obligationInstanceID := instanceID
    amount := some (amount "5"), sourceReference := manifestDigest, evidenceRefs := [manifestDigest]
    observedAtUnix := 200 }

/-! ## The protocol -/

/-- The digest of a value the runs use. -/
def digest : CodecValue → Except String String
  | .asset a => if a = native then .ok assetDigest else .error "digest"
  | .sponsorshipReservation p q =>
    if p = paymentDigest ∧ q = purposeDigest then .ok reservationDigest else .error "digest"
  | .sponsorshipAdmission id request p q r =>
    if id = "pay" ∧ request = "pay" ∧ p = paymentDigest ∧ q = purposeDigest ∧ r = reservationDigest then
      .ok admissionDigest
    else .error "digest"
  | .sponsorshipPurpose p => if p = purpose then .ok purposeDigest else .error "digest"
  | .custodyAuthorization a => if a = custody then .ok custodyDigest else .error "digest"
  | .evidenceSet b l =>
    if b = relayDigest ∧ l = [aliceSigns, bobSigns] then .ok relaySetDigest
    else if b = serviceDigest ∧ l = [aliceQuotes] then .ok serviceSetDigest
    else .error "digest"
  | .evidence e =>
    if e = aliceSigns then .ok evidenceDigest1
    else if e = bobSigns then .ok evidenceDigest2
    else if e = aliceQuotes then .ok evidenceDigest3
    else .error "digest"
  | .settlementObligation o =>
    if o = relayBill then .ok billDigest1
    else if o = firstBill then .ok billDigest2
    else if o = secondBill then .ok billDigest3
    else .error "digest"
  | .settlementParameters raw => if raw = "wallet" then .ok parametersDigest else .error "digest"
  | .strings _ => .error "digest"
  | .accountingBody b =>
    if b = installmentPayment instanceDigest2 then .ok accountingDigest
    else if b = installmentPayment instanceDigest3 then .ok accountingDigest2
    else .error "digest"

def bodyDigest (body : AgentAgreementBody) : Except String String :=
  if body = relayBody then .ok relayDigest
  else if body = serviceBody then .ok serviceDigest
  else .error "unknown body"

def validBody (body : AgentAgreementBody) : Except String Unit :=
  if body = relayBody ∨ body = serviceBody then .ok () else .error "invalid body"

/-- A payment in full; the ledger entry is paid from then on. -/
def applyPayment (state : SettlementState) (evidence : String) : SettlementState :=
  { state with
    state := .paid, stateRevision := state.stateRevision + 1, outstandingAmount := amount "0"
    appliedPaymentEvidence := state.appliedPaymentEvidence ++ [evidence] }

def protocol : Protocol where
  digest _ v := digest v
  validateAssetIdentity _ := .ok ()
  validateAgreementBody := validBody
  agreementBodyDigest := bodyDigest
  validatePartialAgreementAuthorization agreement verifier now :=
    if agreement.authorizationEvidence.all (verifier · now) then .ok () else .error "invalid evidence"
  validateAgreementAuthorization agreement verifier now :=
    if covers agreement verifier now then .ok () else .error "incomplete"
  decodeAcceptanceExpiry _ := .ok 9000
  decodeAgreementBody raw :=
    if raw = "relay" then .ok relayBody else if raw = "service" then .ok serviceBody else .error "malformed"
  decodeAcceptanceSigner _ := .error "malformed"
  agentSignatureEvidence _ _ := .error "malformed"
  decodeEvidence _ := .error "malformed"
  decodeProviderOffer _ := .error "malformed"
  paidDemandEvidence _ _ _ _ _ := .error "malformed"
  evidenceProfileAgentSignature := signature
  evidenceProfileAuthoritySignature := "authority-signature"
  evidenceProfilePaidDemandQuote := quote
  agentSignatureProfileDigest := signature
  paidDemandQuoteProfileDigest := quote
  maxIntentClockSkew := 0
  validateAcceptedPrivateContent _ := .error "malformed"
  signWriterFence body := .ok { body := body, proof := "proof" }
  writerFenceDigest _ := .ok "fence"
  verifyAuthorizedAction authorityID action _ _ fence _ :=
    if action.authorityID = authorityID ∧ fence.body.authorityID = authorityID ∧
      action.writerGeneration = fence.body.writerGeneration then .ok () else .error "unauthorized"
  authorizedActionDigest _ := .ok "action"
  exactRequestDigest request := .ok request
  validateActionResolution r := if r.stateRevision = 0 then .error "no revision" else .ok ()
  instanceRequestDigest _ := .error "unused"
  deriveAuthorityInstanceID _ _ := .error "unused"
  decodeJournalAppend _ := .error "unused"
  validateJournalAppend _ := .error "unused"
  journalAppendFields _ _ _ := .error "unused"
  decodePortfolioRelease _ :=
    .ok { reservationID := reservationDigest, agreementDigest := relayDigest, targetPortfolioRevision := 3
          terminalEvidenceSetDigest := manifestDigest }
  decodePreAcceptanceRelease _ := .error "unused"
  offerNonAcceptanceDigest _ := .error "unused"
  directPaymentAdapterURI := "tos.payment.direct.v1"
  paidDemandAdapterURI := "tos.payment.demand.v1"
  validateNetworkDomain _ := .ok ()
  networkDomainDigest d := if d = domain then .ok domainDigest else .error "unknown domain"
  paymentRequestDigest p := if p = payment then .ok paymentDigest else .error "unknown payment"
  paymentActionKind _ := "payment.direct"
  validatePaymentRequest _ := .ok ()
  paymentAuthorizationMaterial _ := .ok ("pay", ∅)
  signCustodyAction a := .ok { a with proof := "proof" }
  signCustodyEffect _ := .error "unused"
  relayModeExact := "exact"
  relaySponsorDelivery := "sponsor"
  relayBindingContentType := "relay"
  relayQuoteRequestDigest q := if q = quoteRequest then .ok quoteRequestDigest else .error "unknown quote"
  decodeRelayBinding raw := if raw = "binding" then .ok binding else .error "malformed"
  relayBindingBytes b := if b = binding then .ok "binding" else .error "unknown binding"
  validateRelayDescriptor _ _ _ := .error "unused"
  relayLookup _ := default
  relayLookupDigest _ := .error "unused"
  verifyRelayReceipt _ _ _ := .error "unused"
  validateRelayTransition _ _ := .error "unused"
  maxRelayAdmissionStartDelay := 0
  buildRelayReceipt _ _ _ _ := .error "unused"
  verifyRelayReceiptSignature _ := .error "unused"
  validateRelayRouteChain _ := .error "unused"
  maxRelayRouteAttempts := 32
  validateSettlementObligation _ := .ok ()
  materializeSettlementObligations _ _ agreementDigest obligationID _ _ :=
    if agreementDigest = relayDigest ∧ obligationID = "pay" then .ok [relayBill]
    else if agreementDigest = serviceDigest ∧ obligationID = "pay" then .ok [firstBill, secondBill]
    else .ok []
  newSettlementState o := do
    let d ← digest (.settlementObligation o)
    pure { obligationDigest := d, state := .pending, stateRevision := 1, outstandingAmount := o.amount }
  validateSettlementState _ := .ok ()
  applyPayment state _ evidence _ _ := .ok (applyPayment state evidence)
  resolveSettlementState _ _ _ _ _ := .error "unused"
  validateAgreementAmount _ := .ok ()
  encodeAccountingEntry _ := .error "unused"
  decodeScheduleTransition _ := .error "unused"
  validateScheduleEntry _ := .error "unused"
  transitionScheduleEntry _ _ _ _ := .error "unused"
  validatePortfolioDependencies _ := .ok ()
  encodeDependencyTransition _ := .error "unused"

/-! ## Calls of the runs -/

def acceptAll : Verifier := fun _ _ => true

def call (t : Int) (c : Call) : Event := { host := host t, request := .call c }

def acquire : Event := call 100 (.acquireWriter "instance" [] (3600 * 1000000000))

def proposeRelay : Event := call 101 (.recordAgreementProposal relayBody "bob" "event-1" "propose")

def sponsorRelay : Event :=
  call 102 (.admitRelaySponsorshipPayment (action "payment.direct" "pay") ∅ "pay" fence payment purpose)

def reserveRelay (targetRevision : UInt64) : Event :=
  call 103 (.reserveEngagement (action "portfolio.reserve" "reserve") ∅ "reserve" fence ⟨hold, targetRevision⟩)

def signRelay (e : AuthorizationEvidence) : Event := call 104 (.recordAgreementEvidence relayDigest e acceptAll)

def billRelay : Event :=
  call 106 (.materializeSettlement (action "billing.materialize" "bill-relay") ∅ "bill" fence relayBill)

def issueRelay : Event :=
  call 107 (.authorizeCustodyPayment (action "payment.direct" "pay") ∅ "pay" fence payment "account" domain none)

/-- The relay agreement up to a live bearer on the hold its sponsorship admission created. -/
def issuedRun : List Event :=
  [acquire, proposeRelay, sponsorRelay, reserveRelay 3, signRelay aliceSigns, signRelay bobSigns, billRelay, issueRelay]

/-- The relay agreement signed by `alice` only, withdrawn, cancelled, and its hold released. -/
def releasedRun : List Event :=
  [acquire, proposeRelay, reserveRelay 2, signRelay aliceSigns,
    call 105 (.observeAgreementWithdrawal relayDigest "propose" "bob" "event-2"),
    call 106 (.transitionEngagement relayDigest .cancellationResolving .cancelled "" []),
    call 107 (.releaseReservation (action "portfolio.release" "release") ∅ "release" fence 0 0)]

def proposeService : Event := call 101 (.recordAgreementProposal serviceBody "bob" "event-1" "propose")

def deliverService : Event :=
  call 110 (.observeAgreementDelivery serviceDigest "deliver" manifestDigest "bob" "event-4")

def billService (obligation : SettlementObligation) : Event :=
  call 120 (.materializeSettlement (action "billing.materialize" obligation.stableActionID) ∅ "bill" fence obligation)

def payService (stableActionID instanceID : String) : Event :=
  call 300 (.applySettlementPayment (action "billing.resolve" stableActionID) ∅ "settle" fence
    ⟨instanceID, manifestDigest, amount "5", 200⟩)

def billedRun : List Event := [acquire, proposeService, deliverService, billService firstBill]

/-! ## Laws -/

theorem table_injective {α : Type} [DecidableEq α] {x y v v' : α} {dx dy msg k : String} (hne : dx ≠ dy)
    (hv : (if v = x then .ok dx else if v = y then .ok dy else .error msg : Except String String) = .ok k)
    (hv' : (if v' = x then .ok dx else if v' = y then .ok dy else .error msg : Except String String) = .ok k) :
    v = v' := by
  split_ifs at hv hv' with hx hx' hy' hy hx' hy'
  · rw [hx, hx']
  · exact absurd (Except.ok.inj (hv.trans hv'.symm)) hne
  · exact absurd (Except.ok.inj (hv'.trans hv.symm)) hne
  · rw [hy, hy']

theorem digest_canonical (v : CodecValue) (s : String) (hs : digest v = .ok s) : canonicalSHA256 s = true := by
  unfold digest at hs
  split at hs <;> (repeat' split at hs) <;> cases hs <;> decide +kernel

end OpenFox.Authority.Sample
