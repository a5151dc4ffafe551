/-
The service-protocol library as the authority sees it: validators, digests, signatures and
decoders, one field for each function the authority calls. The library is not part of the
repository, so the authority is modelled over an arbitrary `Protocol`; what a result needs of it
is stated where it is needed, as a hypothesis of the theorems.
-/
import OpenFox.Commerce.Types
import OpenFox.Go.Result

namespace OpenFox.Commerce

open OpenFox.Go

/-- An evidence verifier: accepts or refuses one piece of evidence at a time. -/
abbrev Verifier := AuthorizationEvidence → Time → Bool

structure RelaySponsorshipCustodyPurpose where
  schemaVersion : UInt16
  paymentRequestDigest : String
  relayExecutionDigest : String
  quoteRequest : RelayQuoteRequest
  agreementBody : AgentAgreementBody
  agreementBodyDigest : String
  agreementObligationID : String
  providerQuoteDigest : String
  sponsorshipTerminalProfileDigest : String
  finalityProfileCBORDigest : String
  releaseProfileDigest : String
  corroborationSnapshotID : String
deriving DecidableEq, Inhabited

inductive AccountingClassification
  | quotedValue | acceptedValue | reservedExposure | actualCost | partialPayment | settledRevenue
  | settledExpense | overdueBalance | refund | dispute | writeOff | gratuity
deriving DecidableEq, Inhabited

def AccountingClassification.text : AccountingClassification → String
  | quotedValue => "quoted_value" | acceptedValue => "accepted_value"
  | reservedExposure => "reserved_exposure" | actualCost => "actual_cost"
  | partialPayment => "partial_payment" | settledRevenue => "settled_revenue"
  | settledExpense => "settled_expense" | overdueBalance => "overdue_balance" | refund => "refund"
  | dispute => "dispute" | writeOff => "write_off" | gratuity => "gratuity"

structure AccountingEntryBody where
  schemaVersion : UInt16
  ownerID : String
  agentID : String
  classification : AccountingClassification
  agreementBodyDigest : String := ""
  agreementObligationID : String := ""
  obligationInstanceID : String := ""
  amount : Option AgreementAmount := none
  computeUnits : UInt64 := 0
  sourceReference : String
  evidenceRefs : List String
  observedAtUnix : UInt64
deriving DecidableEq, Inhabited

structure AccountingEntry where
  entryID : String
  body : AccountingEntryBody
  writerGeneration : UInt64
deriving DecidableEq, Inhabited

structure PortfolioReleaseRequest where
  reservationID : String
  agreementDigest : String
  targetPortfolioRevision : UInt64
  terminalEvidenceSetDigest : String
deriving DecidableEq, Inhabited

/-- A guarantor's pre-acceptance release, the second request format `portfolio.release` accepts. -/
structure PreAcceptanceRelease where
  schemaVersion : UInt16
  releaseVariant : String
  expectedPortfolioRevision : UInt64
  targetPortfolioRevision : UInt64
  reservationID : String
  coverageAgreementBodyDigest : String
  nonAcceptanceEvidence : Bytes
deriving DecidableEq, Inhabited

structure ScheduleTransitionRequest where
  scheduleEntryID : String
  expectedStateRevision : UInt64
  targetState : ScheduleState
  targetDispatchGeneration : UInt64
  initialEntry : Option ScheduleEntry := none
  dependencies : List PortfolioDependency := []
deriving DecidableEq, Inhabited

structure DependencyTransitionRequest where
  dependency : PortfolioDependency
  transitionKind : String
  graphBaseRevision : UInt64
  evidenceRefs : List String := []
deriving DecidableEq, Inhabited

structure ProviderOffer where
  providerAgentID : String
  agreementBodyDigest : String
  binding : Bytes
deriving DecidableEq, Inhabited

/-- What `codec.Digest` is applied to. -/
inductive CodecValue
  | asset (a : AssetIdentity)
  | sponsorshipReservation (paymentDigest purposeDigest : String)
  | sponsorshipAdmission (stableActionID exactRequestDigest paymentDigest purposeDigest reservationID : String)
  | sponsorshipPurpose (p : RelaySponsorshipCustodyPurpose)
  | custodyAuthorization (a : CustodyActionAuthorization)
  | evidenceSet (agreementBodyDigest : String) (evidence : List AuthorizationEvidence)
  | evidence (e : AuthorizationEvidence)
  | settlementObligation (o : SettlementObligation)
  | settlementParameters (raw : Bytes)
  | strings (l : List String)
  | accountingBody (b : AccountingEntryBody)
deriving DecidableEq

structure Protocol where
  /-- `codec.Digest(domain, value)`. -/
  digest : String → CodecValue → Except String String
  validateAssetIdentity : AssetIdentity → Except String Unit
  -- Agreements
  validateAgreementBody : AgentAgreementBody → Except String Unit
  agreementBodyDigest : AgentAgreementBody → Except String String
  validatePartialAgreementAuthorization : AgentAgreement → Verifier → Time → Except String Unit
  validateAgreementAuthorization : AgentAgreement → Verifier → Time → Except String Unit
  /-- The expiry an encoded signed acceptance carries. -/
  decodeAcceptanceExpiry : Bytes → Except String UInt64
  decodeAgreementBody : Bytes → Except String AgentAgreementBody
  /-- The subject identifier an encoded signed acceptance names as its signer. -/
  decodeAcceptanceSigner : Bytes → Except String String
  agentSignatureEvidence : AgentAgreementBody → Bytes → Except String AuthorizationEvidence
  decodeEvidence : Bytes → Except String AuthorizationEvidence
  decodeProviderOffer : Bytes → Except String ProviderOffer
  /-- Provider-offer evidence for a body: subject, offer, observation time, offer digest. -/
  paidDemandEvidence :
    AgentAgreementBody → AuthoritySubject → ProviderOffer → UInt64 → String → Except String AuthorizationEvidence
  evidenceProfileAgentSignature : String
  evidenceProfileAuthoritySignature : String
  evidenceProfilePaidDemandQuote : String
  agentSignatureProfileDigest : String
  paidDemandQuoteProfileDigest : String
  maxIntentClockSkew : Int
  validateAcceptedPrivateContent : AcceptedPrivateContent → Except String Unit
  -- Writers and actions
  signWriterFence : WriterFenceBody → Except String WriterFence
  writerFenceDigest : WriterFence → Except String String
  /-- The first argument is the authority identity of the fence-key resolver. -/
  verifyAuthorizedAction : String → AuthorizedAction → SemanticFields → Bytes → WriterFence → Time → Except String Unit
  authorizedActionDigest : AuthorizedAction → Except String String
  exactRequestDigest : Bytes → Except String String
  validateActionResolution : ActionResolution → Except String Unit
  instanceRequestDigest : AuthorityInstanceRequest → Except String String
  deriveAuthorityInstanceID : AuthorityInstanceRequest → UInt64 → Except String String
  decodeJournalAppend : Bytes → Except String JournalAppendRequest
  validateJournalAppend : JournalAppendRequest → Except String Unit
  journalAppendFields : String → String → JournalAppendRequest → Except String SemanticFields
  decodePortfolioRelease : Bytes → Except String PortfolioReleaseRequest
  decodePreAcceptanceRelease : Bytes → Except String PreAcceptanceRelease
  offerNonAcceptanceDigest : Bytes → Except String String
  -- Payments and custody
  directPaymentAdapterURI : String
  paidDemandAdapterURI : String
  validateNetworkDomain : NetworkDomain → Except String Unit
  networkDomainDigest : NetworkDomain → Except String String
  paymentRequestDigest : PaymentRequest → Except String String
  paymentActionKind : PaymentRequest → String
  validatePaymentRequest : PaymentRequest → Except String Unit
  paymentAuthorizationMaterial : PaymentRequest → Except String (Bytes × SemanticFields)
  signCustodyAction : CustodyActionAuthorization → Except String CustodyActionAuthorization
  signCustodyEffect : CustodyEffectAuthorization → Except String CustodyEffectAuthorization
  -- Relays
  relayModeExact : String
  relaySponsorDelivery : String
  relayBindingContentType : String
  relayQuoteRequestDigest : RelayQuoteRequest → Except String String
  decodeRelayBinding : Bytes → Except String RelayAgreementBinding
  relayBindingBytes : RelayAgreementBinding → Except String Bytes
  validateRelayDescriptor : String → RelayAdmissionDescriptor → Time → Except String Unit
  /-- `descriptor.Lookup()`. -/
  relayLookup : RelayAdmissionDescriptor → RelayAdmissionLookup
  relayLookupDigest : RelayAdmissionLookup → Except String String
  verifyRelayReceipt : RelayAdmissionReceipt → RelayAdmissionDescriptor → Time → Except String Unit
  validateRelayTransition : RelayAdmissionReceipt → RelayAdmissionDescriptor → Except String Unit
  maxRelayAdmissionStartDelay : Int
  buildRelayReceipt : RelayAdmissionDescriptor → UInt64 → UInt64 → UInt64 → Except String RelayAdmissionReceipt
  /-- The receipt is signed, and signed with the authority's key. -/
  verifyRelayReceiptSignature : RelayAdmissionReceipt → Except String Unit
  validateRelayRouteChain : List RelayAdmissionReceipt → Except String Unit
  maxRelayRouteAttempts : UInt64
  -- Settlement, accounting and scheduling
  validateSettlementObligation : SettlementObligation → Except String Unit
  materializeSettlementObligations :
    String → String → String → String → String → AgreementObligation → Except String (List SettlementObligation)
  newSettlementState : SettlementObligation → Except String SettlementState
  validateSettlementState : SettlementState → Except String Unit
  applyPayment : SettlementState → SettlementObligation → String → AgreementAmount → Time →
    Except String SettlementState
  resolveSettlementState :
    SettlementState → SettlementObligation → SettlementStatus → String → Time → Except String SettlementState
  validateAgreementAmount : AgreementAmount → Except String Unit
  encodeAccountingEntry : AccountingEntry → Except String Bytes
  decodeScheduleTransition : Bytes → Except String ScheduleTransitionRequest
  validateScheduleEntry : ScheduleEntry → Except String Unit
  transitionScheduleEntry : ScheduleEntry → ScheduleState → UInt64 → UInt64 → Except String ScheduleEntry
  validatePortfolioDependencies : List PortfolioDependency → Except String Unit
  encodeDependencyTransition : DependencyTransitionRequest → Except String Bytes

end OpenFox.Commerce
