/-
The broadcast relay: for every action the exact signed bytes and a record of how far the chain has taken them.
A send runs outside the journal's lock, between two critical sections of `BeginOrResumeExactBroadcast`, while
resolvers move records on; the journal can be closed and opened again, and the process can crash at any point.
-/
import OpenFox.Base.Durable
import OpenFox.Prediction.Protocol

namespace OpenFox.Prediction

open OpenFox.Go OpenFox.Base

/-! ## Records -/

inductive RelayState
  | signed | broadcasting | sourceFinalized | sourceActionSkipped | destinationCommitted
  | destinationFailedBounceCreated | bounceCreditedAtAgent | destinationFailedNoBounce
deriving DecidableEq

structure PredictionRelayProfile where
  networkDomainHash : String
  sourceAgentAccount : String
  sourceAgentAccountCodeHash : String
  marketAddress : String
  marketID : String
  marketCodeHash : String
  marketConfigHash : String
  observerIDs : List String
  quorumThreshold : UInt32
  maximumOutstanding : UInt32
  maximumSignedBOCBytes : UInt32
  minimumNoBounceMCBlocks : UInt32
deriving DecidableEq

structure AccountCursor where
  accountAddress : String
  lastLogicalTime : UInt64
  lastTransactionHash : String
deriving DecidableEq

structure BlockIdentity where
  workchainID : Int32
  shard : Int64
  sequenceNumber : UInt32
  rootHash : String
  fileHash : String
  masterchainSequence : UInt32
deriving DecidableEq

structure QuorumFinality where
  networkDomainHash : String
  finalityViewID : String
  observerIDs : List String
  agreeingIDs : List String
  threshold : UInt32
  masterchainSeqno : UInt32
deriving DecidableEq

structure ExpectedContractCall where
  actionKind : String
  stableActionID : String
  targetAddress : String
  valueNanoTOS : UInt64
  bodyBOCBase64 : String
  bodyHash : String
  stateInitBOCBase64 : String
  stateInitHash : String
  bounce : Bool
  extraFlags : UInt64
  opcode : UInt32
  successPredicateDigest : String
deriving DecidableEq

structure ChainObservedMessage where
  messageHash : String
  exactMessageBOC : String
  sourceAddress : String
  destinationAddress : String
  valueNanoTOS : UInt64
  bodyBOCBase64 : String
  bodyHash : String
  stateInitBOCBase64 : String
  stateInitHash : String
  bounce : Bool
  bounced : Bool
  extraFlags : UInt64
deriving DecidableEq

structure SourceTransactionEvidence where
  submittedExternalMessageHash : String
  transactionHash : String
  transactionBOCBase64 : String
  block : BlockIdentity
  finality : QuorumFinality
  nextSourceCursor : AccountCursor
  outboundMessages : List ChainObservedMessage
deriving DecidableEq

structure BoundedAbsenceEvidence where
  scanStartMasterchainSeqno : UInt32
  scanEndMasterchainSeqno : UInt32
  observationDigests : List String
  evidenceSetDigest : String
deriving DecidableEq

structure DestinationTransactionEvidence where
  inboundMessageHash : String
  transactionHash : String
  transactionBOCBase64 : String
  block : BlockIdentity
  finality : QuorumFinality
  nextDestinationCursor : AccountCursor
  ordinary : Bool
  aborted : Bool
  computeSuccess : Bool
  actionSuccess : Bool
  opcodeSuccess : Bool
  marketCodeHash : String
  marketConfigHash : String
  successPredicateDigest : String
  bounceMessage : Option ChainObservedMessage
  richBounceEnvelopeHash : String
  richBounceOriginalBodyHash : String
  noBounceProof : Option BoundedAbsenceEvidence
deriving DecidableEq

structure BounceCreditEvidence where
  inboundBounceMessageHash : String
  transactionHash : String
  transactionBOCBase64 : String
  block : BlockIdentity
  finality : QuorumFinality
  nextSourceCursor : AccountCursor
  creditedValueNanoTOS : UInt64
deriving DecidableEq

structure PredictionRelayRecord where
  schemaVersion : UInt16
  revision : UInt64
  actionID : String
  profile : PredictionRelayProfile
  expected : ExpectedContractCall
  exactSignedBOCBase64 : String
  exactSignedBOCDigest : String
  submittedExternalMessageHash : String
  preBroadcastSourceCursor : AccountCursor
  preBroadcastMasterchainCheckpoint : BlockIdentity
  state : RelayState
  broadcastAttempts : UInt32 := 0
  sourceEvidence : Option SourceTransactionEvidence := none
  actualOutbound : Option ChainObservedMessage := none
  destinationEvidence : Option DestinationTransactionEvidence := none
  bounceCreditEvidence : Option BounceCreditEvidence := none
deriving DecidableEq

/-- The libraries: cells by their canonical BOC, hashes by their texts. -/
structure RelayProtocol where
  /-- the bytes decode to a cell that encodes to them without flags -/
  canonicalBOC : Bytes → Bool
  cellDigest : Bytes → CellHash
  /-- `"sha256:"` and the hexadecimal digits of the hash of the root cell -/
  rootDigest : Bytes → SHA256
  bodyOpcode : Bytes → Option UInt64
  sha256Digest : Bytes → SHA256
  isPredictionCustodyEffectKind : String → Bool
  validRawAddress : String → Bool
  encodeBase64 : Bytes → String
  decodeBase64 : String → Option Bytes

variable (P : RelayProtocol) (record : PredictionRelayRecord)

/-! ## Checks -/

def maximumChainBOCBytes : ℕ := 2097152

def decodeBase64Bounded (encoded : String) (maximum : ℕ) : Except String Bytes := do
  refuse (encoded = "" ∨ encoded.utf8ByteSize > (maximum + 2) / 3 * 4) "encoded evidence exceeds bound"
  match P.decodeBase64 encoded with
  | none => throw "evidence is not canonical base64"
  | some raw => do
    refuse (raw.utf8ByteSize = 0 ∨ raw.utf8ByteSize > maximum ∨ P.encodeBase64 raw ≠ encoded)
      "evidence is not canonical base64"
    pure raw

def decodeCanonicalCell (encoded : String) (maximum : ℕ) : Except String Bytes := do
  let raw ← decodeBase64Bounded P encoded maximum
  refuse (¬ P.canonicalBOC raw) "cell BOC is not canonical"
  pure raw

def canonicalCellDigest (raw : Bytes) (maximum : ℕ) : Except String String := do
  refuse (raw.utf8ByteSize = 0 ∨ raw.utf8ByteSize > maximum) "cell BOC exceeds bound"
  refuse (¬ P.canonicalBOC raw) "cell BOC is not canonical"
  pure (P.cellDigest raw).1

/-- `cellDigest` of the decoded cell is `digest`. -/
def cellHasDigest (encoded digest : String) : Bool :=
  match decodeCanonicalCell P encoded maximumChainBOCBytes with
  | .error _ => false
  | .ok root => (P.cellDigest root).1 == digest

/-- A StateInit is absent with its hash, or has its hash. -/
def stateInitHasDigest (encoded digest : String) : Bool :=
  if encoded = "" then digest == "" else cellHasDigest P encoded digest

/-- `sort.StringsAreSorted`, and no value stands next to itself. -/
def sortedUnique : List String → Bool
  | [] => true
  | [_] => true
  | a :: b :: rest => decide (a ≤ b) && decide (b ≠ a) && sortedUnique (b :: rest)

def sortedUniqueCanonicalDigests (values : List String) (lead : String) : Bool :=
  !values.isEmpty && sortedUnique values && values.all (canonicalDigest · lead)

/-- The digest that the success of a call is recognized by. -/
def contractCallSuccessPredicateDigest (call : ExpectedContractCall) : Except String String := do
  refuse (¬ P.isPredictionCustodyEffectKind call.actionKind ∨ ¬ canonicalDigest call.stableActionID "sha256:" ∨
    ¬ P.validRawAddress call.targetAddress ∨ call.valueNanoTOS = 0 ∨
    ¬ canonicalDigest call.bodyHash "tvm-cell-sha256:" ∨ call.opcode = 0 ∨ ¬ call.bounce ∨ call.extraFlags ≠ 3 ∨
    call.stateInitBOCBase64 ≠ "" ∨ call.stateInitHash ≠ "") "prediction contract-call success predicate is invalid"
  pure
    (P.sha256Digest ("TOS-PREDICTION-CALL-SUCCESS\x00" ++ call.actionKind ++ "\x00" ++ call.stableActionID ++ "\x00" ++
    call.targetAddress ++ "\x00" ++ toString call.valueNanoTOS ++ "\x00" ++ call.bodyHash ++ "\x00" ++
    toString call.extraFlags ++ "\x00" ++ toString call.opcode)).1

def validateExpectedCall (call : ExpectedContractCall) (profile : PredictionRelayProfile) (actionID : String) :
    Except String Unit := do
  refuse (¬ P.isPredictionCustodyEffectKind call.actionKind ∨ call.stableActionID ≠ actionID ∨
    call.targetAddress ≠ profile.marketAddress ∨ call.valueNanoTOS = 0 ∨ ¬ call.bounce ∨ call.extraFlags ≠ 3 ∨
    call.opcode = 0 ∨ ¬ canonicalDigest call.successPredicateDigest "sha256:")
    "prediction expected contract call is invalid"
  match decodeCanonicalCell P call.bodyBOCBase64 maximumChainBOCBytes with
  | .error _ => throw "prediction expected body is not canonical"
  | .ok body => do
    refuse ((P.cellDigest body).1 ≠ call.bodyHash) "prediction expected body is not canonical"
    refuse (P.bodyOpcode body ≠ some call.opcode.toUInt64) "prediction expected opcode is not the body opcode"
    refuse (contractCallSuccessPredicateDigest P call ≠ .ok call.successPredicateDigest)
      "prediction expected success predicate is not canonical"
    refuse (call.stateInitBOCBase64 = "" ∧ call.stateInitHash ≠ "") "prediction expected StateInit hash has no bytes"
    refuse (call.stateInitBOCBase64 ≠ "" ∧ ¬ cellHasDigest P call.stateInitBOCBase64 call.stateInitHash)
      "prediction expected StateInit is not canonical"

def validateCheckpoint (block : BlockIdentity) : Except String Unit :=
  refuse (¬ canonicalDigest block.rootHash "sha256:" ∨ ¬ canonicalDigest block.fileHash "sha256:" ∨
    block.sequenceNumber = 0 ∨ block.masterchainSequence = 0) "invalid chain block identity"

def validateAccountCursor (cursor : AccountCursor) (account : String) : Except String Unit :=
  refuse (cursor.accountAddress ≠ account ∨
    decide (cursor.lastLogicalTime = 0) ≠ decide (cursor.lastTransactionHash = "") ∨
    (cursor.lastTransactionHash ≠ "" ∧ ¬ canonicalDigest cursor.lastTransactionHash "sha256:"))
    "invalid account transaction cursor"

def validateOpaqueBOC (encoded digest : String) : Except String Unit :=
  match decodeCanonicalCell P encoded maximumChainBOCBytes with
  | .error _ => throw "invalid exact chain BOC"
  | .ok root => refuse (¬ canonicalDigest digest "sha256:" ∨ (P.rootDigest root).1 ≠ digest) "invalid exact chain BOC"

def validateQuorum (finality : QuorumFinality) (profile : PredictionRelayProfile) (minimumMC : UInt32) :
    Except String Unit := do
  refuse (finality.networkDomainHash ≠ profile.networkDomainHash ∨ ¬ canonicalDigest finality.finalityViewID "sha256:" ∨
    finality.observerIDs ≠ profile.observerIDs ∨ finality.threshold ≠ profile.quorumThreshold ∨
    finality.masterchainSeqno < minimumMC ∨ ¬ sortedUniqueCanonicalDigests finality.agreeingIDs "sha256:" ∨
    finality.agreeingIDs.length < profile.quorumThreshold.toNat) "prediction evidence quorum is invalid"
  refuse (¬ finality.agreeingIDs.all profile.observerIDs.contains) "prediction evidence has an unadmitted observer"

def validateObservedMessage (message : ChainObservedMessage) : Except String Unit := do
  refuse (¬ cellHasDigest P message.exactMessageBOC message.messageHash ∨ ¬ P.validRawAddress message.sourceAddress ∨
    ¬ P.validRawAddress message.destinationAddress ∨ message.valueNanoTOS = 0) "chain-observed message is invalid"
  refuse (¬ cellHasDigest P message.bodyBOCBase64 message.bodyHash) "chain-observed message body is invalid"
  refuse (¬ stateInitHasDigest P message.stateInitBOCBase64 message.stateInitHash)
    (if message.stateInitBOCBase64 = "" then "chain-observed message StateInit hash has no bytes"
      else "chain-observed message StateInit is invalid")

def validateObservedCall (message : ChainObservedMessage) (source : String) (expected : ExpectedContractCall) :
    Except String Unit :=
  refuse (validateObservedMessage P message ≠ .ok () ∨ message.sourceAddress ≠ source ∨
    message.destinationAddress ≠ expected.targetAddress ∨ message.valueNanoTOS ≠ expected.valueNanoTOS ∨
    message.bodyBOCBase64 ≠ expected.bodyBOCBase64 ∨ message.bodyHash ≠ expected.bodyHash ∨
    message.stateInitBOCBase64 ≠ expected.stateInitBOCBase64 ∨ message.stateInitHash ≠ expected.stateInitHash ∨
    ¬ message.bounce ∨ message.bounced ∨ message.extraFlags ≠ 3)
    "chain-observed outbound differs from the authorized call"

def validateSourceEvidence (evidence : SourceTransactionEvidence) : Except String Unit := do
  refuse (evidence.submittedExternalMessageHash ≠ record.submittedExternalMessageHash ∨
    validateOpaqueBOC P evidence.transactionBOCBase64 evidence.transactionHash ≠ .ok () ∨
    validateCheckpoint evidence.block ≠ .ok () ∨
    evidence.block.masterchainSequence < record.preBroadcastMasterchainCheckpoint.sequenceNumber ∨
    validateQuorum evidence.finality record.profile evidence.block.masterchainSequence ≠ .ok () ∨
    validateAccountCursor evidence.nextSourceCursor record.profile.sourceAgentAccount ≠ .ok () ∨
    evidence.nextSourceCursor.lastLogicalTime < record.preBroadcastSourceCursor.lastLogicalTime ∨
    evidence.outboundMessages.length > 1) "prediction source evidence is inconsistent"
  refuse (∃ message ∈ evidence.outboundMessages.head?,
    validateObservedCall P message record.profile.sourceAgentAccount record.expected ≠ .ok ())
    "source transaction did not contain the exact checked-bounceable call"

def DestinationTransactionEvidence.succeeded (evidence : DestinationTransactionEvidence) : Bool :=
  !evidence.aborted && evidence.computeSuccess && evidence.actionSuccess && evidence.opcodeSuccess

/-- The material of a failed transaction. -/
def validateDestinationFailure (outbound : ChainObservedMessage)
    (evidence : DestinationTransactionEvidence) : Except String Unit := do
  refuse (evidence.successPredicateDigest ≠ "") "prediction failure claims a success predicate"
  match evidence.bounceMessage, evidence.noBounceProof with
  | some bounce, noBounceProof =>
    refuse (noBounceProof.isSome ∨ validateObservedMessage P bounce ≠ .ok () ∨ ¬ bounce.bounced ∨ bounce.bounce ∨
      bounce.sourceAddress ≠ record.profile.marketAddress ∨
      bounce.destinationAddress ≠ record.profile.sourceAgentAccount ∨ bounce.valueNanoTOS > outbound.valueNanoTOS ∨
      ¬ canonicalDigest evidence.richBounceEnvelopeHash "tvm-cell-sha256:" ∨
      evidence.richBounceEnvelopeHash ≠ bounce.bodyHash ∨
      evidence.richBounceOriginalBodyHash ≠ record.expected.bodyHash) "prediction failure has an invalid rich bounce"
  | none, none => throw "prediction failure has neither an exact bounce nor bounded absence proof"
  | none, some absence => do
    refuse (evidence.richBounceEnvelopeHash ≠ "" ∨ evidence.richBounceOriginalBodyHash ≠ "")
      "prediction failure has neither an exact bounce nor bounded absence proof"
    refuse (absence.scanStartMasterchainSeqno > evidence.block.masterchainSequence ∨
      absence.scanEndMasterchainSeqno.toUInt64 <
        evidence.block.masterchainSequence.toUInt64 + record.profile.minimumNoBounceMCBlocks.toUInt64 ∨
      absence.scanEndMasterchainSeqno > evidence.finality.masterchainSeqno ∨
      ¬ sortedUniqueCanonicalDigests absence.observationDigests "sha256:" ∨
      absence.observationDigests.length < record.profile.quorumThreshold.toNat ∨
      ¬ canonicalDigest absence.evidenceSetDigest "sha256:") "prediction no-bounce proof is not bounded and final"

def validateDestinationEvidence (evidence : DestinationTransactionEvidence) : Except String Unit :=
  match record.actualOutbound with
  | none => throw "prediction destination evidence is inconsistent"
  | some outbound => do
    refuse (evidence.inboundMessageHash ≠ outbound.messageHash ∨
      validateOpaqueBOC P evidence.transactionBOCBase64 evidence.transactionHash ≠ .ok () ∨
      validateCheckpoint evidence.block ≠ .ok () ∨
      evidence.block.masterchainSequence < record.preBroadcastMasterchainCheckpoint.sequenceNumber ∨
      validateQuorum evidence.finality record.profile evidence.block.masterchainSequence ≠ .ok () ∨
      validateAccountCursor evidence.nextDestinationCursor record.profile.marketAddress ≠ .ok () ∨
      evidence.marketCodeHash ≠ record.profile.marketCodeHash ∨
      evidence.marketConfigHash ≠ record.profile.marketConfigHash ∨ ¬ evidence.ordinary)
      "prediction destination evidence is inconsistent"
    if evidence.succeeded then
      refuse (evidence.successPredicateDigest ≠ record.expected.successPredicateDigest ∨
        evidence.bounceMessage.isSome ∨ evidence.noBounceProof.isSome ∨ evidence.richBounceEnvelopeHash ≠ "" ∨
        evidence.richBounceOriginalBodyHash ≠ "") "prediction success evidence contains conflicting failure material"
    else validateDestinationFailure P record outbound evidence

/-- The evidence of a credit, for the source and destination evidence of its record. -/
def validateBounceCreditEvidence (evidence : BounceCreditEvidence) : Except String Unit :=
  match record.destinationEvidence, record.destinationEvidence.bind (·.bounceMessage), record.sourceEvidence with
  | some destination, some bounce, some source =>
    refuse (evidence.inboundBounceMessageHash ≠ bounce.messageHash ∨
      evidence.creditedValueNanoTOS ≠ bounce.valueNanoTOS ∨
      validateOpaqueBOC P evidence.transactionBOCBase64 evidence.transactionHash ≠ .ok () ∨
      validateCheckpoint evidence.block ≠ .ok () ∨
      evidence.block.masterchainSequence < destination.block.masterchainSequence ∨
      validateQuorum evidence.finality record.profile evidence.block.masterchainSequence ≠ .ok () ∨
      validateAccountCursor evidence.nextSourceCursor record.profile.sourceAgentAccount ≠ .ok () ∨
      evidence.nextSourceCursor.lastLogicalTime < source.nextSourceCursor.lastLogicalTime)
      "prediction bounce credit evidence is inconsistent"
  | _, _, _ => throw "prediction bounce credit evidence is inconsistent"

def destinationState (evidence : DestinationTransactionEvidence) : RelayState :=
  if evidence.ordinary && evidence.succeeded then .destinationCommitted
  else if evidence.bounceMessage.isSome then .destinationFailedBounceCreated
  else .destinationFailedNoBounce

def recordWithoutEvidence : PredictionRelayRecord :=
  { record with
    state := .broadcasting, sourceEvidence := none, actualOutbound := none, destinationEvidence := none
    bounceCreditEvidence := none }

def recordAtSourceFinal : PredictionRelayRecord :=
  { record with state := .sourceFinalized, destinationEvidence := none, bounceCreditEvidence := none }

def recordAtBounceCreated : PredictionRelayRecord :=
  { record with state := .destinationFailedBounceCreated, bounceCreditEvidence := none }

/-- No evidence of the source transaction or later. -/
def PredictionRelayRecord.bare : Bool :=
  record.sourceEvidence.isNone && record.actualOutbound.isNone && record.destinationEvidence.isNone &&
    record.bounceCreditEvidence.isNone

/-- The evidence a record must have in its state: the last switch of `validateRelayRecord`. -/
def validateDestinationFinal : Except String Unit :=
  match record.destinationEvidence with
  | none => throw "destination-final relay record is invalid"
  | some destination => do
    refuse (validateDestinationEvidence P (recordAtSourceFinal record) destination ≠ .ok ())
      "destination-final relay record is invalid"
    refuse (destinationState destination ≠ record.state ∧ record.state ≠ .bounceCreditedAtAgent)
      "destination evidence does not match relay state"
    refuse (record.state = .bounceCreditedAtAgent ∧ destinationState destination ≠ .destinationFailedBounceCreated)
      "credited relay record has no bounce-created predecessor"
    refuse (record.state = .bounceCreditedAtAgent ∧
      ¬ ∃ credit ∈ record.bounceCreditEvidence, validateBounceCreditEvidence P (recordAtBounceCreated record) credit =
        .ok ())
      "bounce-credit relay record is invalid"
    refuse (record.state ≠ .bounceCreditedAtAgent ∧ record.bounceCreditEvidence.isSome)
      "relay record has premature bounce credit"

def validateRelayEvidence : Except String Unit :=
  if record.state = .signed then
    refuse (record.broadcastAttempts ≠ 0 ∨ ¬ record.bare) "signed relay record has future evidence"
  else if record.state = .broadcasting then
    refuse (record.broadcastAttempts = 0 ∨ ¬ record.bare) "broadcasting relay record has invalid evidence"
  else if record.state = .sourceActionSkipped then
    refuse (¬ (∃ source ∈ record.sourceEvidence, source.outboundMessages = [] ∧
        validateSourceEvidence P (recordWithoutEvidence record) source = .ok ()) ∨
      record.actualOutbound.isSome ∨ record.destinationEvidence.isSome ∨ record.bounceCreditEvidence.isSome)
      "action-skipped relay record is invalid"
  else do
    refuse (¬ ∃ source ∈ record.sourceEvidence, source.outboundMessages.length = 1 ∧
      validateSourceEvidence P (recordWithoutEvidence record) source = .ok () ∧
      record.actualOutbound.isSome ∧ record.actualOutbound = source.outboundMessages.head?)
      "source-final relay record is invalid"
    if record.state = .sourceFinalized then
      refuse (record.destinationEvidence.isSome ∨ record.bounceCreditEvidence.isSome)
        "source-final relay record has future evidence"
    else validateDestinationFinal P record

def validateRelayRecord (profile : PredictionRelayProfile) : Except String Unit := do
  refuse (record.schemaVersion ≠ 1 ∨ record.revision = 0 ∨ ¬ canonicalDigest record.actionID "sha256:" ∨
    record.profile ≠ profile ∨ validateExpectedCall P record.expected profile record.actionID ≠ .ok () ∨
    validateAccountCursor record.preBroadcastSourceCursor profile.sourceAgentAccount ≠ .ok () ∨
    validateCheckpoint record.preBroadcastMasterchainCheckpoint ≠ .ok () ∨
    record.preBroadcastMasterchainCheckpoint.workchainID ≠ -1 ∨
    record.preBroadcastMasterchainCheckpoint.sequenceNumber ≠
      record.preBroadcastMasterchainCheckpoint.masterchainSequence) "invalid prediction relay record identity"
  let raw ← decodeBase64Bounded P record.exactSignedBOCBase64 profile.maximumSignedBOCBytes.toNat
  refuse ((P.sha256Digest raw).1 ≠ record.exactSignedBOCDigest ∨
    canonicalCellDigest P raw profile.maximumSignedBOCBytes.toNat ≠ .ok record.submittedExternalMessageHash)
    "prediction relay exact BOC changed"
  validateRelayEvidence P record

/-! ## Operations

Each operation decides on the open journal which record to write, or returns one it has. -/

structure RelayJournal where
  records : Map String PredictionRelayRecord
  inFlight : Map String Unit

variable (profile : PredictionRelayProfile) (journal : RelayJournal)

/-- `persist`, up to the write itself. -/
def persistRelay (record : PredictionRelayRecord) :
    Except String (Update PredictionRelayRecord PredictionRelayRecord) := do
  refuse (validateRelayRecord P record profile ≠ .ok ()) "refuse to persist invalid prediction relay record"
  pure (.store record record)

def prepareRelay (actionID : String) (exactSignedBOC : Bytes) (expected : ExpectedContractCall)
    (sourceCursor : AccountCursor) (masterchainCheckpoint : BlockIdentity) :
    Except String (Update PredictionRelayRecord PredictionRelayRecord) := do
  refuse (¬ canonicalDigest actionID "sha256:" ∨ exactSignedBOC.utf8ByteSize = 0)
    "prediction relay preparation is invalid"
  match canonicalCellDigest P exactSignedBOC profile.maximumSignedBOCBytes.toNat with
  | .error _ => throw "prediction relay preparation material is invalid"
  | .ok messageHash => do
    refuse (validateExpectedCall P expected profile actionID ≠ .ok () ∨
      validateAccountCursor sourceCursor profile.sourceAgentAccount ≠ .ok () ∨
      validateCheckpoint masterchainCheckpoint ≠ .ok () ∨ masterchainCheckpoint.workchainID ≠ -1 ∨
      masterchainCheckpoint.sequenceNumber ≠ masterchainCheckpoint.masterchainSequence)
      "prediction relay preparation material is invalid"
    let exactDigest := (P.sha256Digest exactSignedBOC).1
    match journal.records.get? actionID with
    | some prior => do
      refuse (prior.exactSignedBOCDigest ≠ exactDigest ∨ prior.exactSignedBOCBase64 ≠ P.encodeBase64 exactSignedBOC ∨
        prior.expected ≠ expected ∨ prior.preBroadcastSourceCursor ≠ sourceCursor ∨
        prior.preBroadcastMasterchainCheckpoint ≠ masterchainCheckpoint)
        "prediction action ID conflicts with durable exact material"
      pure (.keep prior)
    | none => do
      refuse (UInt32.ofNat journal.records.entries.length ≥ profile.maximumOutstanding)
        "prediction relay journal capacity is exhausted before signing"
      persistRelay P profile
        { schemaVersion := 1, revision := 1, actionID := actionID, profile := profile, expected := expected
          exactSignedBOCBase64 := P.encodeBase64 exactSignedBOC, exactSignedBOCDigest := exactDigest
          submittedExternalMessageHash := messageHash, preBroadcastSourceCursor := sourceCursor
          preBroadcastMasterchainCheckpoint := masterchainCheckpoint, state := .signed }

/-- The first critical section of `BeginOrResumeExactBroadcast`: the record to write, and the bytes sent after. -/
def beginOrResumeExactBroadcast (actionID : String) :
    Except String (Update PredictionRelayRecord PredictionRelayRecord × Bytes) :=
  match journal.records.get? actionID with
  | none => throw "exact prediction BOC is no longer broadcastable"
  | some record => do
    refuse (record.state ≠ .signed ∧ record.state ≠ .broadcasting) "exact prediction BOC is no longer broadcastable"
    refuse (journal.inFlight.has actionID ∨ record.broadcastAttempts = 0 - 1)
      "exact prediction BOC already has an in-flight broadcast"
    match P.decodeBase64 record.exactSignedBOCBase64 with
    | none => throw "durable exact prediction BOC is unavailable"
    | some raw => do
      let update ← persistRelay P profile { record with
        revision := record.revision + 1, state := .broadcasting, broadcastAttempts := record.broadcastAttempts + 1 }
      pure (update, raw)

/-- `verdict` is what the verifier of chain evidence answers. -/
def resolveSource (actionID : String) (evidence : SourceTransactionEvidence) (verdict : Except String Unit) :
    Except String (Update PredictionRelayRecord PredictionRelayRecord) :=
  match journal.records.get? actionID with
  | none => throw "prediction source is not awaiting finality"
  | some record => do
    refuse (record.state ≠ .broadcasting ∨ journal.inFlight.has actionID) "prediction source is not awaiting finality"
    validateSourceEvidence P record evidence
    verdict
    persistRelay P profile { record with
      revision := record.revision + 1, sourceEvidence := some evidence
      state := if evidence.outboundMessages = [] then .sourceActionSkipped else .sourceFinalized
      actualOutbound := evidence.outboundMessages.head? <|> record.actualOutbound }

def resolveDestination (actionID : String) (evidence : DestinationTransactionEvidence) (verdict : Except String Unit) :
    Except String (Update PredictionRelayRecord PredictionRelayRecord) :=
  match journal.records.get? actionID with
  | none => throw "prediction destination is not awaiting finality"
  | some record => do
    refuse (record.state ≠ .sourceFinalized ∨ record.actualOutbound = none)
      "prediction destination is not awaiting finality"
    validateDestinationEvidence P record evidence
    verdict
    persistRelay P profile { record with
      revision := record.revision + 1, destinationEvidence := some evidence, state := destinationState evidence }

def resolveBounceCredit (actionID : String) (evidence : BounceCreditEvidence) (verdict : Except String Unit) :
    Except String (Update PredictionRelayRecord PredictionRelayRecord) :=
  match journal.records.get? actionID with
  | none => throw "prediction bounce is not awaiting credit"
  | some record => do
    refuse (record.state ≠ .destinationFailedBounceCreated ∨ (record.destinationEvidence.bind (·.bounceMessage)) = none)
      "prediction bounce is not awaiting credit"
    validateBounceCreditEvidence P record evidence
    verdict
    persistRelay P profile { record with
      revision := record.revision + 1, bounceCreditEvidence := some evidence, state := .bounceCreditedAtAgent }

/-- `load` on the record files, each under the action of its path. -/
def loadRelay (files : Map String PredictionRelayRecord) : Except String (Map String PredictionRelayRecord) := do
  files.entries.forM fun e =>
    refuse (validateRelayRecord P e.2 profile ≠ .ok () ∨ e.1 ≠ e.2.actionID)
      "prediction relay journal record is corrupt"
  refuse (UInt32.ofNat files.entries.length > profile.maximumOutstanding)
    "prediction relay journal exceeds its configured bound"
  pure files

/-! ## The process -/

/-- A call of the broadcaster that has not returned, made by the journal that was opened as the `opening`-th. -/
structure Send where
  actionID : String
  bytes : Bytes
  opening : ℕ
deriving DecidableEq

/-- The record files, the open journal of the process, and the sends under way in it. -/
structure RelaySystem where
  files : Map String PredictionRelayRecord
  journal : Option RelayJournal
  opening : ℕ
  sends : List Send

/-- How a write ends: it is durable, it fails without a trace, it fails after the rename, or the process dies in it. -/
inductive RelayWrite
  | stored
  | refused
  | landed
  | crashed (reached : Bool)
deriving DecidableEq

inductive RelayEvent
  | prepare (write : RelayWrite) (actionID : String) (exactSignedBOC : Bytes) (expected : ExpectedContractCall)
    (sourceCursor : AccountCursor) (masterchainCheckpoint : BlockIdentity)
  | beginOrResume (write : RelayWrite) (actionID : String)
  /-- The broadcaster returns from a send, with or without an error, and the journal that made it takes note. -/
  | sent (index : ℕ)
  | resolveSource (write : RelayWrite) (actionID : String) (evidence : SourceTransactionEvidence)
    (verdict : Except String Unit)
  | resolveDestination (write : RelayWrite) (actionID : String) (evidence : DestinationTransactionEvidence)
    (verdict : Except String Unit)
  | resolveBounceCredit (write : RelayWrite) (actionID : String) (evidence : BounceCreditEvidence)
    (verdict : Except String Unit)
  | close
  | reopen
  | crash

def RelayEvent.write : RelayEvent → Option RelayWrite
  | .prepare w .. | .beginOrResume w _ | .resolveSource w .. | .resolveDestination w .. | .resolveBounceCredit w .. =>
    some w
  | .sent _ | .close | .reopen | .crash => none

namespace RelaySystem

def empty : RelaySystem := { files := ∅, journal := none, opening := 0, sends := [] }

def crash (s : RelaySystem) : RelaySystem := { s with journal := none, sends := [] }

/-- The write of a record by the open journal, and the send it starts, if any. -/
def commit (s : RelaySystem) (journal : RelayJournal) (write : RelayWrite) (record : PredictionRelayRecord)
    (send : Option Bytes) : RelaySystem :=
  match write with
  | .stored =>
    { s with
      files := s.files.put record.actionID record
      journal := some
        { records := journal.records.put record.actionID record
          inFlight := if send.isSome then journal.inFlight.put record.actionID () else journal.inFlight }
      sends := (send.map fun raw => { actionID := record.actionID, bytes := raw, opening := s.opening }).toList ++
        s.sends }
  | .refused => s
  | .landed => { s with files := s.files.put record.actionID record }
  | .crashed reached => crash { s with files := if reached then s.files.put record.actionID record else s.files }

/-- An operation that only writes. -/
def apply (s : RelaySystem) (write : RelayWrite)
    (operation : RelayJournal → Except String (Update PredictionRelayRecord PredictionRelayRecord)) : RelaySystem :=
  match s.journal with
  | none => s
  | some journal =>
    match operation journal with
    | .ok (.store record _) => s.commit journal write record none
    | .ok (.keep _) => s
    | .error _ => s

end RelaySystem

open RelaySystem in
def relayStep (s : RelaySystem) : RelayEvent → RelaySystem
  | .prepare write actionID boc expected cursor checkpoint =>
    s.apply write fun journal => prepareRelay P profile journal actionID boc expected cursor checkpoint
  | .beginOrResume write actionID =>
    match s.journal with
    | none => s
    | some journal =>
      match beginOrResumeExactBroadcast P profile journal actionID with
      | .ok (.store record _, raw) => s.commit journal write record (some raw)
      | .ok (.keep _, _) => s
      | .error _ => s
  | .sent index =>
    match s.sends[index]? with
    | none => s
    | some send =>
      { s with
        sends := s.sends.eraseIdx index
        journal := s.journal.map fun journal =>
          if send.opening = s.opening then { journal with inFlight := journal.inFlight.delete send.actionID }
            else journal }
  | .resolveSource write actionID evidence verdict =>
    s.apply write fun journal => resolveSource P profile journal actionID evidence verdict
  | .resolveDestination write actionID evidence verdict =>
    s.apply write fun journal => resolveDestination P profile journal actionID evidence verdict
  | .resolveBounceCredit write actionID evidence verdict =>
    s.apply write fun journal => resolveBounceCredit P profile journal actionID evidence verdict
  | .close => { s with journal := none }
  | .reopen =>
    -- the directory's lock admits one open journal
    match s.journal, loadRelay P profile s.files with
    | none, .ok records => { s with journal := some { records := records, inFlight := ∅ }, opening := s.opening + 1 }
    | none, .error _ => s
    | some _, _ => s
  | .crash => s.crash

def relayRun (es : List RelayEvent) : RelaySystem := exec (relayStep P profile) .empty es

end OpenFox.Prediction
