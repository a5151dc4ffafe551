/-
`OutcomeJournal`: sequences are reserved before anything is signed, records are files of their own, and the head
that commits them is replaced as a whole. The journal's state is the head in memory and the directory; its calls
are programs whose disk operations may fail or be cut off at any point.
-/
import OpenFox.Base.Disk
import OpenFox.Earning.Outcome

namespace OpenFox.Earning

open OpenFox.Go OpenFox.Base
open OpenFox.Authority (canonicalSHA256)

/-! ## The directory -/

/-- `outcomeRecordName(epoch, sequence)`. Both numbers are padded to twenty digits, so names sort as pairs. -/
abbrev RecordName := UInt64 × UInt64

def nameLess (a b : RecordName) : Prop := a.1 < b.1 ∨ a.1 = b.1 ∧ a.2 < b.2

instance : DecidableRel nameLess := fun a b => by unfold nameLess; infer_instance

/-- The bytes of a record file: an encoded record, or what an interrupted write left of one. -/
inductive RecordFile
  | whole (record : OutcomeJournalRecord)
  | torn (bytes : Nat)
deriving DecidableEq

/-- What the directory holds. Records that are moved to `quarantine` leave it. -/
structure OutcomeDirectory where
  head : Option OutcomeJournalHead := none
  importIntent : Option OutcomeJournalArchive := none
  records : Map RecordName RecordFile := ∅
deriving DecidableEq

structure OutcomeJournal where
  directory : OutcomeDirectory := {}
  head : OutcomeJournalHead
  /-- The journal holds the directory's lock; a closed journal has neither lock nor root. -/
  lock : Bool := false
  /-- A history variable: the records whose `Commit` returned without an error. -/
  acknowledged : List OutcomeJournalRecord := []
deriving DecidableEq

namespace OutcomeJournal

def setHead (s : OutcomeJournal) (head : OutcomeJournalHead) : OutcomeJournal := { s with head := head }

def storeHead (s : OutcomeJournal) (head : OutcomeJournalHead) : OutcomeJournal :=
  { s with directory := { s.directory with head := some head } }

def putRecord (s : OutcomeJournal) (name : RecordName) (file : RecordFile) : OutcomeJournal :=
  { s with directory := { s.directory with records := s.directory.records.put name file } }

def dropRecord (s : OutcomeJournal) (name : RecordName) : OutcomeJournal :=
  { s with directory := { s.directory with records := s.directory.records.delete name } }

def setIntent (s : OutcomeJournal) (intent : Option OutcomeJournalArchive) : OutcomeJournal :=
  { s with directory := { s.directory with importIntent := intent } }

end OutcomeJournal

open Prog

abbrev Call := Prog OutcomeJournal

variable (P : OutcomeProtocol) (head : OutcomeJournalHead) (s : OutcomeJournal) (record : OutcomeJournalRecord)

/-! ## Disk operations -/

def syncDirectory : Call Unit := atomic id

/-- `persistHeadLocked`. -/
def persistHead : Call Unit := do
  let s ← read
  lift (validateOutcomeJournalHead s.head)
  lift (refuse (s.lock = false) "invalid rooted atomic-write target")
  atomic (·.storeHead s.head)

/-- `writeOutcomeRootExclusive` of an encoded record. The file is there, empty, before its bytes are; a failed
sync leaves it complete. -/
def writeRecordExclusive (name : RecordName) (record : OutcomeJournalRecord) : Call Unit := do
  let s ← read
  lift (refuse (s.directory.records.has name = true) "file exists")
  disk fun reach s =>
    match reach with
    | .nothing => s
    | .partly bytes => s.putRecord name (.torn bytes)
    | .wholly => s.putRecord name (.whole record)

/-! ## Reserve, AbortReserved, Commit -/

/-- `currentWriterLocked`. -/
def currentWriter (fence : SignedFence) (now : Time) : Except String Unit := do
  refuse (s.lock = false ∨ fence.body.ownerID ≠ s.head.ownerID ∨ fence.body.agentID ≠ s.head.agentID ∨
    fence.body.authorityID ≠ s.head.authorityID ∨ fence.body.writerGeneration ≠ s.head.writerGeneration)
    "stale writer cannot append an outcome"
  P.verifyWriterFence fence now outcomeJournalScope
  P.confirmCurrentWriterFence fence now

/-- The sequence after the last record and the last gap. -/
def nextSequence : UInt64 :=
  match head.gaps.getLast? with
  | some gap => if gap ≥ head.lastSequence + 1 then gap + 1 else head.lastSequence + 1
  | none => head.lastSequence + 1

def reserve (fence : SignedFence) (now : Time) : Call UInt64 := do
  let s ← read
  lift (currentWriter P s fence now)
  lift (refuse (s.head.pendingSequence ≠ 0) "outcome journal already has a pending sequence")
  let next := nextSequence s.head
  modify fun s => s.setHead { s.head with pendingSequence := next }
  match ← attempt persistHead with
  | .ok _ => pure next
  | .error msg => do
    modify fun s => s.setHead { s.head with pendingSequence := 0 }
    fail msg

def abortReserved (sequence : UInt64) : Call Unit := do
  let s ← read
  lift (refuse (s.head.pendingSequence ≠ sequence ∨ sequence = 0) "outcome journal reservation does not match")
  modify fun s => s.setHead { s.head with gapSequences := s.head.gapSequences.push sequence, pendingSequence := 0 }
  persistHead

/-- What a caller hands to `Commit`. -/
structure CommitRequest where
  sequence : UInt64
  envelope : OperationEnvelope
  payload : Bytes
  artifacts : ArtifactBundle
  resolver : OperationResolver
  now : Time
  admission : Option OutcomeJournalAppendAdmission
  source : Option OutcomeJournalSourceResolution

/-- The append admission binds the head as it is: the block of `Commit` that fills in the admission. -/
def admitAppend (admission : OutcomeJournalAppendAdmission) : Except String OutcomeJournalRecord := do
  let gapDigest ← P.gapSetDigest head.gapSequences
  let requestBytes ← P.requestBytes admission.request
  let requestDigest ← P.exactRequestDigest requestBytes
  let fenceDigest ← P.fenceDigest admission.fence
  refuse (admission.request ≠ ⟨head.orderingDomain, head.writerGeneration, record.sequence, record.eventContentID,
    record.operationEnvelopeDigest, gapDigest⟩) "outcome journal append request does not bind the reserved head"
  refuse (admission.action.actionKind ≠ outcomeJournalScope ∨
    admission.action.stableActionID ≠ record.journalAppendActionID ∨
    admission.action.exactRequestDigest ≠ requestDigest ∨ admission.action.writerFenceDigest ≠ fenceDigest ∨
    admission.action.ownerID ≠ head.ownerID ∨ admission.action.agentID ≠ head.agentID)
    "outcome journal append admission identity mismatch"
  pure { record with
    journalAppendRequestDigest := admission.action.exactRequestDigest
    journalAppendRequest := some admission.request
    journalAppendAction := some admission.action
    journalAppendWriterFence := some admission.fence }

/-- The record `Commit` writes, if it writes one. -/
def admittedRecord (request : CommitRequest) (admission : OutcomeJournalAppendAdmission) :
    Except String OutcomeJournalRecord := do
  let envelope := request.envelope
  refuse (envelope.body.actorAgentID ≠ head.agentID ∨ envelope.body.orderingDomain ≠ head.orderingDomain ∨
    envelope.body.epoch ≠ head.writerGeneration ∨ envelope.body.sequence ≠ request.sequence)
    "outcome operation ordering binding is invalid"
  let body ← P.verifyEnvelope envelope request.payload request.resolver request.now
  P.verifyArtifacts body request.artifacts
  let envelopeDigest ← P.envelopeDigest envelope
  let (_, appendActionID) ← appendIdentity P head head.writerGeneration request.sequence envelope.body.objectID
  let record : OutcomeJournalRecord := {
    epoch := head.writerGeneration
    sequence := request.sequence
    operationID := envelope.body.operationID
    eventContentID := envelope.body.objectID
    operationEnvelopeDigest := envelopeDigest
    journalAppendActionID := appendActionID
    previousRecordChecksum := head.lastRecordChecksum
    envelope := envelope
    payload := request.payload
    artifacts := request.artifacts
    sourceAuthorizedAction := request.source.map (·.action)
    sourceActionResolution := request.source.map (·.resolution) }
  validateOutcomeJournalSourceResolution P record
  let record ← admitAppend P head record admission
  let checksum ← outcomeRecordChecksum P record
  let record := { record with recordChecksum := checksum }
  refuse (P.recordBytes record > maxOutcomeJournalRecordBytes) "outcome journal record is oversized"
  pure record

def OutcomeJournalHead.advance : OutcomeJournalHead :=
  { head with
    lastSequence := record.sequence
    lastEnvelopeDigest := record.operationEnvelopeDigest
    lastRecordChecksum := record.recordChecksum
    pendingSequence := 0 }

/-- `Commit`: the record's file first, then the head. -/
def commit (request : CommitRequest) : Call OutcomeJournalRecord := do
  let s ← read
  match request.admission with
  | none => fail "outcome journal commit has no exact reservation"
  | some admission => do
    lift (refuse (s.lock = false ∨ s.head.pendingSequence ≠ request.sequence ∨ request.sequence = 0)
      "outcome journal commit has no exact reservation")
    let record ← lift (admittedRecord P s.head request admission)
    writeRecordExclusive (record.epoch, record.sequence) record
    modify fun s => s.setHead (s.head.advance record)
    persistHead
    modify fun s => { s with acknowledged := s.acknowledged ++ [record] }
    pure record

/-- `Head()`. -/
def OutcomeJournal.Head : OutcomeJournalHead :=
  { s.head with gapSequences := s.head.gapSequences.copied }

/-! ## Reading the records back -/

/-- One round of `scanOutcomeRecordsLocked`: the record is what the chain so far and the head ask for. -/
def scanRecord (previousChecksum : String) (previousSequence : UInt64) : RecordFile → Except String OutcomeJournalRecord
  | .torn _ => .error "outcome journal record is invalid"
  | .whole record => do
    refuse (P.recordBytes record > maxOutcomeJournalRecordBytes) "outcome journal record is unavailable"
    let checksum ← outcomeRecordChecksum P record
    refuse (checksum ≠ record.recordChecksum) "outcome journal checksum mismatch"
    let (fields, actionID) ← appendIdentity P head record.epoch record.sequence record.eventContentID
    refuse (actionID ≠ record.journalAppendActionID ∨ record.previousRecordChecksum ≠ previousChecksum ∨
      record.sequence ≤ previousSequence ∨ ¬ envelopeBinds record) "outcome journal record binding is invalid"
    validateAppendAdmission P head record fields actionID head.gaps
    refuse (containsUint64 head.gaps record.sequence = true) "outcome journal marks a committed record as a gap"
    refuse (gapsBetween head.gaps previousSequence record.sequence = false)
      "outcome journal record is missing without an explicit gap"
    verifyRecordOperation P selfResolver record
    pure record

/-- A visitor: what has been collected, the record, its length in bytes, its index and the number of records. -/
abbrev Visitor (β : Type) := β → OutcomeJournalRecord → Nat → Nat → Nat → Except String β

/-- The loop of `scanOutcomeRecordsLocked`; it returns the end of the chain with what the visitor collected. -/
def scanLoop {β : Type} (head : OutcomeJournalHead) (visit : Visitor β) (total : Nat) :
    List RecordFile → Nat → String → UInt64 → β → Except String (β × String × UInt64)
  | [], _, checksum, sequence, acc => .ok (acc, checksum, sequence)
  | file :: rest, index, checksum, sequence, acc => do
    let record ← scanRecord P head checksum sequence file
    let acc ← visit acc record (P.recordBytes record) index total
    scanLoop head visit total rest (index + 1) record.recordChecksum record.sequence acc

/-- The record files in the order of their names. -/
def OutcomeDirectory.sortedRecords (d : OutcomeDirectory) : List ((_ : RecordName) × RecordFile) :=
  sortSlice (fun a b => nameLess a.1 b.1) d.records.entries

def scanOutcomeRecords {β : Type} (s : OutcomeJournal) (visit : Visitor β) (init : β) : Except String β := do
  let names := s.directory.sortedRecords
  refuse (names.length > maxOutcomeJournalRecords) "outcome journal exceeds the V1 record-count bound"
  let (acc, checksum, sequence) ← scanLoop P s.head visit names.length (names.map (·.2)) 0 "" 0 init
  refuse ((sequence ≠ s.head.lastSequence ∨ checksum ≠ s.head.lastRecordChecksum) ∧
    (sequence ≠ 0 ∨ s.head.lastSequence ≠ 0)) "outcome journal record chain does not match its durable head"
  pure acc

/-- The visitor of `Records`: keep the last `limit` records, up to the byte bound. -/
def recordsVisitor (limit : Nat) :
    Visitor (List OutcomeJournalRecord × Nat) := fun (result, retained) record raw index total =>
  if index + limit < total then .ok (result, retained)
  else do
    refuse (retained + raw > maxOutcomeJournalResultBytes)
      "outcome journal result exceeds the V1 byte bound; reduce the requested limit"
    pure (result ++ [record], retained + raw)

/-- `Records(limit)`. -/
def records (limit : Nat) : Except String (List OutcomeJournalRecord) := do
  refuse (limit = 0 ∨ limit > 10000) "outcome journal record limit is invalid"
  let (result, _) ← scanOutcomeRecords P s (recordsVisitor limit) ([], 0)
  pure result

/-- What a record says about an action, if it is an observation of an action's resolution. -/
def recordedResolution : Option ResolutionAssertion :=
  if record.envelope.body.payloadProfile = P.outcomeProfile then
    match P.decodeEvent record.payload, P.decodeAssertion record.artifacts.assertionPayload with
    | .ok body, .ok assertion => if body.assertionProfileURI = P.actionResolutionProfile then some assertion else none
    | _, _ => none
  else none

def resolutionVisitor (stableActionID : String) (revision : UInt64) : Visitor (Option OutcomeJournalRecord) :=
  fun found record _ _ _ =>
    match recordedResolution P record with
    | some assertion =>
      if assertion.stableActionID = stableActionID ∧ assertion.resolutionStateRevision = revision then do
        refuse (found.any (fun prior => prior.operationEnvelopeDigest ≠ record.operationEnvelopeDigest) = true)
          "outcome journal contains duplicate Action-resolution identity"
        pure (some record)
      else .ok found
    | none => .ok found

def actionResolutionRecord (stableActionID : String) (revision : UInt64) :
    Except String (Option OutcomeJournalRecord) := do
  refuse (canonicalSHA256 stableActionID = false ∨ revision = 0) "outcome Action resolution identity is invalid"
  scanOutcomeRecords P s (resolutionVisitor P stableActionID revision) none

/-! ## Opening -/

/-- Both documents belong to one journal. -/
def sameIdentity (a b : OutcomeJournalHead) : Prop :=
  a.ownerID = b.ownerID ∧ a.agentID = b.agentID ∧ a.authorityID = b.authorityID ∧
    a.orderingDomain = b.orderingDomain ∧ a.cohortScopeDigest = b.cohortScopeDigest

instance (a b : OutcomeJournalHead) : Decidable (sameIdentity a b) := by unfold sameIdentity; infer_instance

/-- A record file found at the pending sequence is the record that was being committed. -/
def validatePendingRecord : Except String Unit := do
  refuse (P.recordBytes record > maxOutcomeJournalRecordBytes) "pending outcome journal record is unavailable"
  let checksum ← outcomeRecordChecksum P record
  let (fields, actionID) ← appendIdentity P head record.epoch record.sequence record.eventContentID
  refuse (checksum ≠ record.recordChecksum ∨ record.previousRecordChecksum ≠ head.lastRecordChecksum ∨
    record.epoch ≠ head.writerGeneration ∨ record.sequence ≠ head.pendingSequence ∨
    actionID ≠ record.journalAppendActionID ∨ record.envelope.body.orderingDomain ≠ head.orderingDomain ∨
    ¬ envelopeBinds record) "pending outcome journal record does not bind its reserved head"
  validateAppendAdmission P head record fields actionID head.gaps
  verifyRecordOperation P selfResolver record

/-- `recoverPendingRecordLocked` and the branch around it: the pending sequence becomes the last record or a gap. -/
def recoverPendingRecord (directory : OutcomeDirectory) (head : OutcomeJournalHead) :
    Except String OutcomeJournalHead :=
  if head.pendingSequence = 0 then .ok head
  else
    match directory.records.get? (head.writerGeneration, head.pendingSequence) with
    | none => .ok { head with gapSequences := head.gapSequences.push head.pendingSequence, pendingSequence := 0 }
    | some (.torn bytes) => .error (if bytes = 0 then "pending outcome journal record is unavailable"
        else "pending outcome journal record is invalid")
    | some (.whole record) => do
      validatePendingRecord P head record
      pure (head.advance record)

/-- A directory entry is a committed record: the head covers it, and it is what its name says. -/
def committedFile (name : RecordName) : RecordFile → Bool
  | .torn _ => false
  | .whole record => record.schema = outcomeJournalSchema ∧ outcomeRecordChecksum P record = .ok record.recordChecksum ∧
      record.sequence ≤ head.lastSequence ∧ (record.epoch, record.sequence) = name

/-- The record the head names as its last, as far as the loop of `reconcileDurableRecordsLocked` can tell. -/
def isHeadRecord : RecordFile → Bool
  | .torn _ => head.lastSequence = 0 ∧ head.lastEnvelopeDigest = ""
  | .whole record => record.sequence = head.lastSequence ∧ record.operationEnvelopeDigest = head.lastEnvelopeDigest

/-- `committedHeadFound`, as the last entry that is the head's record leaves it. -/
def committedHeadFound (entries : List ((_ : RecordName) × RecordFile)) : Bool :=
  entries.foldl (fun found e => if isHeadRecord head e.2 then committedFile P head e.1 e.2 else found) false

/-- Records that are not committed are moved out of the way. -/
def quarantineRecord (e : (_ : RecordName) × RecordFile) : Call Unit := do
  match e.2 with
  | .whole record => lift (refuse (P.recordBytes record > maxOutcomeJournalRecordBytes)
      "outcome journal contains an unreadable durable record")
  | .torn _ => pure ()
  if committedFile P head e.1 e.2 = true then pure ()
  else do
    syncDirectory -- `Mkdir("quarantine")`
    atomic (·.dropRecord e.1)

/-- The chain of the committed records, first to last. -/
def durableChain (gaps : List UInt64) : List RecordFile → String → UInt64 → Except String String
  | [], checksum, _ => .ok checksum
  | .torn _ :: _, _, _ => .error "outcome journal durable record chain is discontinuous"
  | .whole record :: rest, checksum, sequence => do
    refuse (record.previousRecordChecksum ≠ checksum ∨ record.sequence ≤ sequence)
      "outcome journal durable record chain is discontinuous"
    refuse (gapsBetween gaps sequence record.sequence = false)
      "outcome journal durable record is missing without an explicit gap"
    durableChain gaps rest record.recordChecksum record.sequence

def reconcileDurableRecords : Call Unit := do
  let s ← read
  let entries := s.directory.records.entries
  forEach (quarantineRecord P head) entries
  lift (refuse (head.lastSequence ≠ 0 ∧ committedHeadFound P head entries = false)
    "outcome journal head is rolled back or lacks its durable record")
  let committed := sortSlice (fun a b => nameLess a.1 b.1) (entries.filter fun e => committedFile P head e.1 e.2)
  let checksum ← lift (durableChain head.gaps (committed.map (·.2)) "" 0)
  lift (refuse (checksum ≠ head.lastRecordChecksum) "outcome journal durable chain head checksum conflicts")
  syncDirectory

end OpenFox.Earning
