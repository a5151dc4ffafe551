/-
What the outcome journal keeps: signed operations with their payload and artifacts, the admission of the append
and the resolution the record is about, and the head that commits the records and the sequence gaps. The
service-protocol library and the encoders are not part of the repository: the journal is modelled over an
arbitrary `OutcomeProtocol`, one field for each function it calls.
-/
import OpenFox.Authority.Document
import OpenFox.Go.Search
import OpenFox.Go.Uint64

namespace OpenFox.Earning

open OpenFox.Go OpenFox.Commerce
open OpenFox.Authority (canonicalSHA256)

/-! ## Wire types -/

/-- `commerce.AuthorizedAction` with the digest of the fence it was signed under. -/
structure SignedAction extends AuthorizedAction where
  writerFenceDigest : String
deriving DecidableEq, Inhabited

/-- `commerce.WriterFence` with the key that signed it. -/
structure SignedFence extends WriterFence where
  publicKey : String
deriving DecidableEq, Inhabited

/-- `AgentOperationBodyV1`. -/
structure OperationBody where
  schemaVersion : UInt16
  networkID : String
  opcodeNamespace : String
  opcodeName : String
  opcodeVersion : UInt16
  actorAgentID : String
  authorizationRef : String
  audienceDescriptor : String
  objectID : String
  orderingDomain : String
  sequence : UInt64
  epoch : UInt64
  predecessorDigests : List String
  createdAtUnix : UInt64
  payloadProfile : String
  payloadDigest : String
  payloadSize : UInt64
  operationID : String
deriving DecidableEq, Inhabited

/-- `AgentOperationEnvelopeV1`; `proof` is the key, its historical proof and the signature. -/
structure OperationEnvelope where
  body : OperationBody
  proof : Bytes
deriving DecidableEq, Inhabited

/-- `OperationOutcomeEventBodyV1`. -/
structure EventBody where
  assertionProfileURI : String
  content : Bytes
deriving DecidableEq, Inhabited

/-- `OperationOutcomeArtifactBundleV1`; `evidence` is the manifest, the extensions and the authority proofs. -/
structure ArtifactBundle where
  assertionPayload : Bytes
  evidence : Bytes
deriving DecidableEq, Inhabited

/-- `ActionResolutionReferencePayloadV1`. -/
structure ResolutionAssertion where
  stableActionID : String
  exactRequestDigest : String
  authorizedActionDigest : String
  actionResolutionDigest : String
  resolutionState : ActionState
  resolutionStateRevision : UInt64
deriving DecidableEq, Inhabited

/-- `AgentOperationAuthorityResolver`: agent, profile, key, time and proof. -/
abbrev OperationResolver := String → String → String → Time → Bytes → Bool

/-- `historicalOutcomeOperationSelfResolver`, which takes every key. -/
def selfResolver : OperationResolver := fun _ _ _ _ _ => true

/-- `historicalOutcomeFenceResolver`: the authority and the one key it accepts. -/
structure FenceResolver where
  authorityID : String
  key : String
deriving DecidableEq

/-! ## The journal's documents -/

def outcomeJournalSchema : String := "tos.openfox.operation-outcome-journal.v1"
def outcomeArchiveSchema : String := "tos.openfox.operation-outcome-archive.v1"
def outcomeJournalScope : String := "operation.journal.append"
def maxOutcomeJournalRecordBytes : Nat := 2 * 2 ^ 20
def maxOutcomeJournalResultBytes : Nat := 64 * 2 ^ 20
def maxOutcomeJournalRecords : Nat := 1000000
def maxOutcomeArchiveRecords : Nat := 10000
def maxOutcomeArchiveBytes : Nat := 64 * 2 ^ 20

structure OutcomeJournalHead where
  schema : String := outcomeJournalSchema
  ownerID : String
  agentID : String
  authorityID : String
  orderingDomain : String
  cohortScopeDigest : String
  writerGeneration : UInt64
  lastSequence : UInt64 := 0
  lastEnvelopeDigest : String := ""
  lastRecordChecksum : String := ""
  pendingSequence : UInt64 := 0
  gapSequences : Slice UInt64 := some []
deriving DecidableEq, Inhabited

/-- The gaps a head records. -/
def OutcomeJournalHead.gaps (h : OutcomeJournalHead) : List UInt64 := h.gapSequences.items

structure OutcomeJournalRecord where
  schema : String := outcomeJournalSchema
  epoch : UInt64
  sequence : UInt64
  operationID : String
  eventContentID : String
  operationEnvelopeDigest : String
  journalAppendActionID : String
  journalAppendRequestDigest : String := ""
  journalAppendRequest : Option JournalAppendRequest := none
  journalAppendAction : Option SignedAction := none
  journalAppendWriterFence : Option SignedFence := none
  sourceAuthorizedAction : Option SignedAction := none
  sourceActionResolution : Option ActionResolution := none
  previousRecordChecksum : String
  envelope : OperationEnvelope
  payload : Bytes
  artifacts : ArtifactBundle
  recordChecksum : String := ""
deriving DecidableEq, Inhabited

structure OutcomeJournalArchive where
  schema : String := outcomeArchiveSchema
  head : OutcomeJournalHead
  records : List OutcomeJournalRecord
deriving DecidableEq, Inhabited

structure OutcomeJournalSourceResolution where
  action : SignedAction
  resolution : ActionResolution
deriving DecidableEq

structure OutcomeJournalAppendAdmission where
  request : JournalAppendRequest
  action : SignedAction
  fence : SignedFence
deriving DecidableEq

/-- Whose journal it is: the arguments of `OpenOutcomeJournal` that every opening of one directory repeats. -/
structure JournalIdentity where
  ownerID : String
  agentID : String
  authorityID : String
  purpose : String
  cohortScopeDigest : String
deriving DecidableEq

/-! ## The protocol library -/

structure OutcomeProtocol where
  /-- `codec.Digest("tos.openfox.operation-outcome-ordering-domain.v1", …)`. -/
  orderingDomainDigest : JournalIdentity → Except String String
  /-- `codec.Digest("tos.openfox.outcome-journal-gap-set.v1", gaps)`, which may tell nil from empty. -/
  gapSetDigest : Slice UInt64 → Except String String
  /-- SHA-256 over `codec.Marshal(record)`. -/
  recordDigest : OutcomeJournalRecord → Except String String
  /-- The lengths of the JSON encodings. -/
  headBytes : OutcomeJournalHead → Nat
  recordBytes : OutcomeJournalRecord → Nat
  archiveBytes : OutcomeJournalArchive → Nat
  -- Operations
  envelopeDigest : OperationEnvelope → Except String String
  verifyEnvelope : OperationEnvelope → Bytes → OperationResolver → Time → Except String EventBody
  verifyArtifacts : EventBody → ArtifactBundle → Except String Unit
  decodeEvent : Bytes → Except String EventBody
  decodeAssertion : Bytes → Except String ResolutionAssertion
  outcomeProfile : String
  actionResolutionProfile : String
  -- Append admissions
  /-- `OperationJournalAppendSemanticFieldsV1`: owner, agent, domain, epoch, sequence, event. -/
  appendFields : String → String → String → UInt64 → UInt64 → String → Except String SemanticFields
  stableActionID : String → SemanticFields → Except String String
  requestBytes : JournalAppendRequest → Except String Bytes
  exactRequestDigest : Bytes → Except String String
  fenceDigest : SignedFence → Except String String
  /-- `VerifyAuthorizedActionAtAuthorityTime` with one time for both clocks. -/
  verifyAction : SignedAction → SemanticFields → Bytes → SignedFence → FenceResolver → Time → Except String Unit
  verifyWriterFence : SignedFence → Time → String → Except String Unit
  confirmCurrentWriterFence : SignedFence → Time → Except String Unit
  actionDigest : SignedAction → Except String String
  resolutionDigest : ActionResolution → Except String String
  validateActionResolution : ActionResolution → Except String Unit
  -- Building an operation
  validateProfileRef : String → Except String Unit
  assertionBytes : ResolutionAssertion → Except String Bytes
  /-- `BuildOperationOutcomeEventV1` and `OperationOutcomeEventContentIDV1` of an observation about an action, with
  empty evidence and no extensions: content identity and payload. -/
  observationEvent : String → Bytes → Except String (String × Bytes)
  emptyEvidence : Bytes
  deriveOperationID : OperationBody → Except String String
  /-- Body, agent, key and historical proof. -/
  signOperation : OperationBody → String → Bytes → Bytes → Except String OperationEnvelope
  operationPublicKey : Bytes → String
  buildAuthorizedAction : SignedAction → SemanticFields → Bytes → SignedFence → Except String SignedAction

variable (P : OutcomeProtocol)

/-- `OutcomeOrderingDomainV1`. -/
def outcomeOrderingDomain (id : JournalIdentity) : Except String String := do
  refuse (id.ownerID = "" ∨ id.agentID = "" ∨ id.authorityID = "" ∨ id.purpose = "" ∨
    canonicalSHA256 id.cohortScopeDigest = false) "outcome ordering domain inputs are invalid"
  P.orderingDomainDigest id

def outcomeRecordChecksum (record : OutcomeJournalRecord) : Except String String :=
  P.recordDigest { record with recordChecksum := "" }

/-! ## Checks -/

/-- The gap set is canonical: the loop of `validateOutcomeJournalHead`, which returns the last gap. -/
def canonicalGaps (pending : UInt64) : List UInt64 → UInt64 → Except String UInt64
  | [], prior => .ok prior
  | sequence :: rest, prior => do
    refuse (sequence = 0 ∨ sequence ≤ prior ∨ sequence = pending) "outcome journal gap set is not canonical"
    canonicalGaps pending rest sequence

def validateOutcomeJournalHead (head : OutcomeJournalHead) : Except String Unit := do
  refuse (head.schema ≠ outcomeJournalSchema ∨ head.ownerID = "" ∨ head.agentID = "" ∨ head.authorityID = "" ∨
    canonicalSHA256 head.orderingDomain = false ∨ canonicalSHA256 head.cohortScopeDigest = false ∨
    head.writerGeneration = 0 ∨ ¬ (head.lastSequence = 0 ↔ head.lastEnvelopeDigest = "") ∨
    ¬ (head.lastSequence = 0 ↔ head.lastRecordChecksum = "") ∨
    head.lastSequence ≠ 0 ∧ (canonicalSHA256 head.lastEnvelopeDigest = false ∨
      canonicalSHA256 head.lastRecordChecksum = false)) "outcome journal head is invalid"
  let prior ← canonicalGaps head.pendingSequence head.gaps 0
  refuse (head.pendingSequence ≠ 0 ∧ (head.pendingSequence ≤ head.lastSequence ∨ prior ≥ head.pendingSequence))
    "outcome journal pending sequence is invalid"

def containsUint64 (values : List UInt64) (target : UInt64) : Bool :=
  values[searchSorted values target]? == some target

/-- `for n := after + 1; n < before; n++`: each of these is a gap. -/
def gapsBetween (gaps : List UInt64) (after before : UInt64) : Bool :=
  (List.range' (after.toNat + 1) (before.toNat - after.toNat - 1)).all fun n => containsUint64 gaps (UInt64.ofNat n)

/-- `decodeOutcomeJournalFenceKey`: the prefix `ed25519:` and 64 hexadecimal digits. -/
def decodeOutcomeJournalFenceKey (encoded : String) : Except String String :=
  match encoded.toByteArray.data.toList with
  | 101 :: 100 :: 50 :: 53 :: 53 :: 49 :: 57 :: 58 :: tail =>
    if tail.length = 64 ∧ tail.all isHex = true then .ok encoded else .error "outcome journal fence key is invalid"
  | _ => .error "outcome journal fence key is invalid"

def validateOutcomeJournalSourceResolution (record : OutcomeJournalRecord) : Except String Unit :=
  match record.sourceAuthorizedAction, record.sourceActionResolution with
  | none, none => .ok ()
  | some action, some resolution => do
    let actionDigest ← P.actionDigest action
    let resolutionDigest ← P.resolutionDigest resolution
    P.validateActionResolution resolution
    let assertion ← P.decodeAssertion record.artifacts.assertionPayload
    refuse (resolution.stableActionID ≠ action.stableActionID ∨
      resolution.exactRequestDigest ≠ action.exactRequestDigest ∨ assertion.stableActionID ≠ action.stableActionID ∨
      assertion.exactRequestDigest ≠ action.exactRequestDigest ∨ assertion.authorizedActionDigest ≠ actionDigest ∨
      assertion.actionResolutionDigest ≠ resolutionDigest ∨ assertion.resolutionState ≠ resolution.state ∨
      assertion.resolutionStateRevision ≠ resolution.stateRevision)
        "outcome journal source resolution binding is invalid"
  | _, _ => .error "outcome journal source resolution is incomplete"

/-- The part of the gap list a record of this sequence was appended after. -/
def gapsBelow (gaps : List UInt64) (sequence : UInt64) : List UInt64 := gaps.filter (· < sequence)

/-- `OperationJournalAppendSemanticFieldsV1` and `DeriveStableActionID` for a record. -/
def appendIdentity (head : OutcomeJournalHead) (epoch sequence : UInt64) (eventContentID : String) :
    Except String (SemanticFields × String) := do
  let fields ← P.appendFields head.ownerID head.agentID head.orderingDomain epoch sequence eventContentID
  let actionID ← P.stableActionID outcomeJournalScope fields
  pure (fields, actionID)

def validateAppendAdmission (head : OutcomeJournalHead) (record : OutcomeJournalRecord) (fields : SemanticFields)
    (actionID : String) (gaps : List UInt64) : Except String Unit :=
  match record.journalAppendRequest, record.journalAppendAction, record.journalAppendWriterFence with
  | some request, some action, some fence => do
    let requestBytes ← P.requestBytes request
    let requestDigest ← P.exactRequestDigest requestBytes
    let fenceDigest ← P.fenceDigest fence
    let fenceKey ← decodeOutcomeJournalFenceKey fence.publicKey
    let verificationTime := Time.ofUnix fence.body.issuedAtUnix
    P.verifyAction action fields requestBytes fence ⟨fence.body.authorityID, fenceKey⟩ verificationTime
    let expectedGapDigest ← P.gapSetDigest (some (gapsBelow gaps record.sequence))
    refuse (request.gapSetDigest ≠ expectedGapDigest ∨ request.orderingDomain ≠ head.orderingDomain ∨
      request.epoch ≠ record.epoch ∨ request.sequence ≠ record.sequence ∨
      request.eventContentID ≠ record.eventContentID ∨
      request.operationEnvelopeDigest ≠ record.operationEnvelopeDigest ∨
      action.actionKind ≠ outcomeJournalScope ∨ action.stableActionID ≠ actionID ∨
      action.exactRequestDigest ≠ requestDigest ∨ requestDigest ≠ record.journalAppendRequestDigest ∨
      action.writerFenceDigest ≠ fenceDigest ∨ fence.body.writerGeneration ≠ record.epoch ∨
      fence.body.ownerID ≠ head.ownerID ∨ fence.body.agentID ≠ head.agentID ∨
      fence.body.authorityID ≠ head.authorityID ∨ action.ownerID ≠ head.ownerID ∨ action.agentID ≠ head.agentID ∨
      action.authorityID ≠ head.authorityID) "outcome journal append admission binding is invalid"
  | _, _, _ => .error "outcome journal append admission is incomplete"

/-- A record's operation, checked against its own payload, artifacts and source at the time it was created. -/
def verifyRecordOperation (resolver : OperationResolver) (record : OutcomeJournalRecord) : Except String Unit := do
  let event ← P.decodeEvent record.payload
  let verified ← P.verifyEnvelope record.envelope record.payload resolver
    (Time.ofUnix record.envelope.body.createdAtUnix)
  let envelopeDigest ← P.envelopeDigest record.envelope
  refuse (verified ≠ event ∨ envelopeDigest ≠ record.operationEnvelopeDigest)
    "outcome journal artifact binding is invalid"
  P.verifyArtifacts event record.artifacts
  validateOutcomeJournalSourceResolution P record

/-- The envelope says what the record says. -/
def envelopeBinds (record : OutcomeJournalRecord) : Prop :=
  record.envelope.body.operationID = record.operationID ∧ record.envelope.body.objectID = record.eventContentID ∧
    record.envelope.body.sequence = record.sequence ∧ record.envelope.body.epoch = record.epoch

instance (record : OutcomeJournalRecord) : Decidable (envelopeBinds record) := by
  unfold envelopeBinds; infer_instance

end OpenFox.Earning
