/-
The wire types of the service protocol the owner authority handles: agreements and their
authorization evidence, writer fences and authorized actions, payments and custody, settlement,
scheduling. Each record keeps the fields the authority reads or writes; what a body carries
beyond them is one canonical encoding (`terms`, `proof`), so that two bodies that differ there are
still two bodies.
-/
import OpenFox.Go.Map
import OpenFox.Go.Text

namespace OpenFox.Commerce

open OpenFox.Go

/-! ## Agreements -/

structure AssetIdentity where
  assetNamespace : String
  assetIdentifier : String
  unit : String
deriving DecidableEq, Inhabited

structure AgreementAmount where
  assetNamespace : String
  assetIdentifier : String
  unit : String
  amountAtomic : String
  amountDecimal : String := ""
deriving DecidableEq, Inhabited

def AgreementAmount.asset (a : AgreementAmount) : AssetIdentity :=
  ⟨a.assetNamespace, a.assetIdentifier, a.unit⟩

structure BillingTerms where
  billingKind : String
  recurrenceEndUnix : UInt64
  maximumAggregateAmount : AgreementAmount
deriving DecidableEq, Inhabited

structure AgreementObligation where
  obligationID : String
  kind : String := ""
  obligorAgentID : String
  beneficiaryAgentID : String
  amount : Option AgreementAmount := none
  settlementAdapterURI : String := ""
  settlementParameters : Bytes := ""
  subject : Bytes := ""
  subjectContentType : String := ""
  expiresAtUnix : UInt64 := 0
  billingTerms : Option BillingTerms := none
  dependsOnObligationIDs : List String := []
  requiredExtensions : List String := []
deriving DecidableEq, Inhabited

structure AuthoritySubject where
  subjectKind : String
  subjectNamespace : String
  subjectIdentifier : String
  representedAgentID : String := ""
deriving DecidableEq, Inhabited

structure AuthorizationPredicate where
  predicateID : String
  authoritySubject : AuthoritySubject
  evidenceProfileURI : String
  evidenceProfileVersion : UInt64
  evidenceProfileDigest : String
  evidenceTargetProjectionDigest : String
  validFromUnix : UInt64 := 0
  expiresAtUnix : UInt64
deriving DecidableEq, Inhabited

structure AgentAgreementBody where
  agreementID : String
  version : UInt64
  predecessorAgreementDigest : String := ""
  networkContext : String := ""
  validFromUnix : UInt64
  expiresAtUnix : UInt64
  participants : List String
  obligations : List AgreementObligation
  authorizationPredicates : List AuthorizationPredicate
  terms : Bytes := ""
deriving DecidableEq, Inhabited

structure AuthorizationEvidence where
  agreementID : String
  agreementVersion : UInt64
  agreementBodyDigest : String
  predicateIDs : List String
  evidenceTargetProjectionDigests : List String
  authoritySubject : AuthoritySubject
  evidenceProfileURI : String
  evidenceProfileVersion : UInt64
  evidenceProfileDigest : String
  evidence : Bytes
deriving DecidableEq, Inhabited

structure AgentAgreement where
  body : AgentAgreementBody
  authorizationEvidence : List AuthorizationEvidence := []
deriving DecidableEq, Inhabited

/-! ## Writers and actions -/

structure WriterFenceBody where
  schemaVersion : UInt16
  ownerID : String
  agentID : String
  instanceID : String
  leaseID : String
  writerGeneration : UInt64
  issuedAtUnix : UInt64
  expiresAtUnix : UInt64
  authorityID : String
  scope : List String
deriving DecidableEq, Inhabited

structure WriterFence where
  body : WriterFenceBody
  proof : Bytes
deriving DecidableEq, Inhabited

structure AuthorizedAction where
  authorityID : String
  ownerID : String
  agentID : String
  actionKind : String
  stableActionID : String
  exactRequestDigest : String
  writerGeneration : UInt64
  policyRevision : UInt64
  mandateDigest : String
  approvalDigest : String
  expiresAtUnix : UInt64
  proof : Bytes
deriving DecidableEq, Inhabited

inductive ActionState
  | unknown | prepared | submitted | accepted | terminal | rejected | conflict
deriving DecidableEq, Inhabited

structure ActionResolution where
  stableActionID : String
  exactRequestDigest : String
  state : ActionState
  sinkReference : String := ""
  evidenceRefs : List String := []
  stateRevision : UInt64
deriving DecidableEq, Inhabited

inductive SemanticValue
  | id (value : String)
  | digest32 (value : String)
  | state (value : String)
  | kind (value : String)
  | u64 (value : UInt64)
deriving DecidableEq

abbrev SemanticFields := Map String SemanticValue

/-- `reflect.DeepEqual` of two field maps, which does not see the order of entries. -/
def sameFields (l r : SemanticFields) : Bool :=
  l.all (fun k v => r.get? k == some v) && r.all (fun k v => l.get? k == some v)

structure AuthorityInstanceRequest where
  purpose : String
  nonce : String
deriving DecidableEq, Inhabited

structure AuthorityInstanceRecord where
  requestDigest : String
  allocationSequence : UInt64
  authorityInstanceID : String
  policyRevision : UInt64
deriving DecidableEq, Inhabited

structure JournalAppendRequest where
  orderingDomain : String
  epoch : UInt64
  sequence : UInt64
  eventContentID : String
  operationEnvelopeDigest : String
  gapSetDigest : String
deriving DecidableEq, Inhabited

structure AcceptedPrivateContent where
  challengeDigest : String
  uploadActionID : String
  contentManifestDigest : String
deriving DecidableEq, Inhabited

/-! ## Payments and custody -/

structure NetworkDomain where
  networkID : String
  globalID : Int32
  zeroStateRootHash : String
  zeroStateFileHash : String
  workchainID : Int32
deriving DecidableEq, Inhabited

structure PaymentRequest where
  schemaVersion : UInt16
  ownerID : String
  agentID : String
  payerAgentID : String
  payeeAgentID : String
  agreementBodyDigest : String
  agreementObligationID : String
  obligationInstanceID : String
  settlementAdapterURI : String
  networkID : String
  networkDomainDigest : String
  destination : Bytes
  amount : AgreementAmount
  expiresAtUnix : UInt64
  stableActionID : String
deriving DecidableEq, Inhabited

structure CustodyActionAuthorization where
  schemaVersion : UInt16
  authorityID : String
  ownerID : String
  agentID : String
  sourceAccount : String
  networkID : String
  networkGlobalID : Int32
  networkDomain : Option NetworkDomain
  stableActionID : String
  exactRequestDigest : String
  writerGeneration : UInt64
  writerFenceDigest : String
  agreementPaymentRequestDigest : String
  policyRevision : UInt64
  mandateDigest : String
  approvalDigestOrZero : String
  agreementBodyDigest : String
  obligationInstanceID : String
  destination : String
  amountAtomic : UInt64
  expiresAtUnix : UInt64
  sponsorshipFinalityProfileCBORDigest : String := ""
  sponsorshipReleaseProfileDigest : String := ""
  sponsorshipCorroborationSnapshotIdentity : String := ""
  proof : Bytes := ""
deriving DecidableEq, Inhabited

structure CustodyEffectAuthorization where
  schemaVersion : UInt16
  actionKind : String
  networkDomain : Option NetworkDomain
  networkID : String
  networkGlobalID : Int32
  authorityID : String
  ownerID : String
  agentID : String
  agreementBodyDigest : String
  obligationID : String
  stableActionID : String
  exactRequestDigest : String
  writerGeneration : UInt64
  writerFenceDigest : String
  policyRevision : UInt64
  mandateDigest : String
  approvalDigestOrZero : String
  expiresAtUnix : UInt64
  effect : Bytes
  proof : Bytes := ""
deriving DecidableEq, Inhabited

structure RelayAssetAmount where
  asset : AssetIdentity
  amountAtomic : String
deriving DecidableEq, Inhabited

structure RelayQuoteRequest where
  providerAgentID : String
  requesterAgentID : String
  mode : String
  network : NetworkDomain
  sourceAccount : String
  requestedSponsorship : Option RelayAssetAmount
  sponsorshipReleaseProfileDigest : String
  sponsorshipTerminalProfileDigest : String
deriving DecidableEq, Inhabited

structure RelayAgreementBinding where
  quoteRequestDigest : String
  providerQuoteDigest : String
  providerAgentID : String
  requesterAgentID : String
  mode : String
  sponsorshipReleaseProfileDigest : String
  sponsorshipTerminalProfileDigest : String
deriving DecidableEq, Inhabited

structure RelayAdmissionDescriptor where
  ownerID : String
  agentID : String
  stableActionID : String
  writerFence : WriterFence
  routeAttempt : UInt64
  predecessorReceiptDigest : String
  startNotAfterCapUnix : UInt64
  route : Bytes
deriving DecidableEq, Inhabited

/-- `RelaySideEffectAdmissionLookup`: what an admission is found by. -/
structure RelayAdmissionLookup where
  schemaVersion : UInt64
  ownerID : String
  agentID : String
  authenticatedPrincipal : String
  authorityID : String
  providerAgentID : String
  serviceProfileDigest : String
  providerQuoteDigest : String
  networkDigest : String
  transactionIdentityDigest : String
  mode : String
  assuranceLevel : String
  routeAttempt : UInt64
  predecessorReceiptDigest : String
  stableActionID : String
  exactRequestDigest : String
  relayExecutionDigest : String
  stageMask : Slice String
deriving DecidableEq, Inhabited

structure RelayAdmissionReceipt where
  ownerID : String
  agentID : String
  authenticatedPrincipal : String
  authorityID : String
  providerAgentID : String
  serviceProfileDigest : String
  providerQuoteDigest : String
  networkDigest : String
  transactionIdentityDigest : String
  mode : String
  assuranceLevel : String
  routeAttempt : UInt64
  predecessorReceiptDigest : String
  stableActionID : String
  exactRequestDigest : String
  relayExecutionDigest : String
  stageMask : Slice String
  admissionSequence : UInt64
  issuedAtUnix : UInt64
  startNotAfterUnix : UInt64
  body : Bytes
  proof : Bytes
deriving DecidableEq, Inhabited

/-! ## Settlement and scheduling -/

structure SettlementObligation where
  agreementBodyDigest : String
  agreementObligationID : String
  obligationInstanceID : String
  sequence : UInt64
  payerAgentID : String
  payeeAgentID : String
  amount : AgreementAmount
  settlementAdapterURI : String
  settlementParametersDigest : String
  mandateDigest : String
  stableActionID : String
  expiresAtUnix : UInt64
  dueAtUnix : UInt64
deriving DecidableEq, Inhabited

inductive SettlementStatus
  | pending | partiallyPaid | paid | overdue | disputed | writtenOff | cancelled
deriving DecidableEq, Inhabited

/-- The wire text of a settlement status, which enters the semantic fields of `billing.resolve`. -/
def SettlementStatus.text : SettlementStatus → String
  | pending => "pending" | partiallyPaid => "partially_paid" | paid => "paid" | overdue => "overdue"
  | disputed => "disputed" | writtenOff => "written_off" | cancelled => "cancelled"

structure SettlementState where
  obligationDigest : String
  state : SettlementStatus
  stateRevision : UInt64
  outstandingAmount : AgreementAmount
  evidenceRefs : List String := []
  appliedPaymentEvidence : List String := []
deriving DecidableEq, Inhabited

inductive ScheduleState
  | queued | ready | dispatched | running | draining | succeeded | failed | cancelled | ambiguous
deriving DecidableEq, Inhabited

def ScheduleState.text : ScheduleState → String
  | queued => "queued" | ready => "ready" | dispatched => "dispatched" | running => "running"
  | draining => "draining" | succeeded => "succeeded" | failed => "failed" | cancelled => "cancelled"
  | ambiguous => "ambiguous"

structure ScheduleEntry where
  scheduleEntryID : String
  agreementBodyDigest : String
  executionID : String
  state : ScheduleState
  stateRevision : UInt64
  dispatchGeneration : UInt64
  writerGeneration : UInt64
deriving DecidableEq, Inhabited

structure PortfolioDependency where
  schemaVersion : UInt16
  upstreamAgreementDigest : String
  upstreamObligationID : String
  downstreamAgreementDigest : String
  downstreamObligationID : String
  dependencyType : String
  dependencyClass : String
  failurePropagation : String
  evidenceDrivenReleaseRequired : Bool
deriving DecidableEq, Inhabited

end OpenFox.Commerce
