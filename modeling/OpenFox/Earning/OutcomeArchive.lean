/-
Archives of an outcome journal: `ExportArchive`, `ImportArchive` with the durable intent that lets the next
opening finish an import, and `OpenOutcomeJournal`, which does so before it reads the head.
-/
import OpenFox.Earning.OutcomeJournal

namespace OpenFox.Earning

open OpenFox.Go OpenFox.Base Prog
open OpenFox.Authority (canonicalSHA256)

variable (P : OutcomeProtocol) (own : OutcomeJournalHead)

/-! ## Export -/

def archiveVisitor : Visitor (List OutcomeJournalRecord × Nat) := fun (records, retained) record raw _ total => do
  refuse (total > maxOutcomeArchiveRecords ∨ retained + raw > maxOutcomeArchiveBytes)
    "outcome archive exceeds the V1 bound"
  pure (records ++ [record], retained + raw)

def exportArchive (s : OutcomeJournal) : Except String OutcomeJournalArchive := do
  let (records, _) ← scanOutcomeRecords P s archiveVisitor ([], 0)
  let head := { s.head with gapSequences := s.head.gapSequences.appendedToNil }
  refuse (head.pendingSequence ≠ 0) "outcome archive cannot export a pending reservation"
  refuse (head.lastSequence ≠ 0 ∧ (records.getLast?.any fun last => last.sequence = head.lastSequence ∧
    last.recordChecksum = head.lastRecordChecksum) = false)
    "outcome archive exceeds the V1 bound or changed during export"
  let archive : OutcomeJournalArchive := { head := head, records := records }
  refuse (P.archiveBytes archive > maxOutcomeArchiveBytes) "outcome archive exceeds the V1 byte bound"
  pure archive

/-! ## Import -/

/-- One round of `validateArchiveRecordsLocked`. -/
def validateArchiveRecord (gaps : List UInt64) (resolver : OperationResolver)
    (record : OutcomeJournalRecord) (previous : String) (sequence : UInt64) (totalBytes : Nat) :
    Except String Unit := do
  let checksum ← outcomeRecordChecksum P record
  refuse (P.recordBytes record > maxOutcomeJournalRecordBytes ∨ checksum ≠ record.recordChecksum ∨
    record.previousRecordChecksum ≠ previous ∨ record.sequence ≤ sequence) "outcome archive record chain is invalid"
  refuse (totalBytes + P.recordBytes record > maxOutcomeArchiveBytes) "outcome archive exceeds the V1 byte bound"
  refuse (gapsBetween gaps sequence record.sequence = false) "outcome archive hides a sequence gap"
  let (fields, actionID) ← appendIdentity P own record.epoch record.sequence record.eventContentID
  refuse (actionID ≠ record.journalAppendActionID) "outcome archive append admission is invalid"
  validateAppendAdmission P own record fields actionID gaps
  verifyRecordOperation P resolver record
  refuse (record.envelope.body.orderingDomain ≠ own.orderingDomain ∨ ¬ envelopeBinds record)
    "outcome archive Operation authority or ordering is invalid"

/-- The loop of `validateArchiveRecordsLocked`, which returns the end of the chain. -/
def validateArchiveChain (own : OutcomeJournalHead) (gaps : List UInt64) (resolver : OperationResolver) :
    List OutcomeJournalRecord → String → UInt64 → Nat → Except String (String × UInt64)
  | [], previous, sequence, _ => .ok (previous, sequence)
  | record :: rest, previous, sequence, totalBytes => do
    validateArchiveRecord P own gaps resolver record previous sequence totalBytes
    validateArchiveChain own gaps resolver rest record.recordChecksum record.sequence
      (totalBytes + P.recordBytes record)

def validateArchiveRecords (archive : OutcomeJournalArchive) (resolver : OperationResolver) : Except String Unit := do
  refuse (archive.schema ≠ outcomeArchiveSchema ∨ archive.records = [] ∨
    archive.records.length > maxOutcomeArchiveRecords ∨ ¬ sameIdentity archive.head own)
    "outcome archive identity or bounds are invalid"
  validateOutcomeJournalHead archive.head
  let (previous, sequence) ← validateArchiveChain P own archive.head.gaps resolver archive.records "" 0 4096
  refuse (sequence ≠ archive.head.lastSequence ∨ previous ≠ archive.head.lastRecordChecksum ∨
    (archive.records.getLast?.any fun last => last.operationEnvelopeDigest = archive.head.lastEnvelopeDigest) = false)
    "outcome archive head does not commit its record chain"

/-- One round of `materializeArchiveRecordsLocked`: a file that is there already has to be the same. -/
def materializeRecord (record : OutcomeJournalRecord) : Call Unit := do
  let s ← read
  match s.directory.records.get? (record.epoch, record.sequence) with
  | none => writeRecordExclusive (record.epoch, record.sequence) record
  | some file => lift (refuse (file ≠ .whole record) "outcome archive import encountered a fork")

def materializeArchiveRecords (archive : OutcomeJournalArchive) : Call Unit := forEach materializeRecord archive.records

def OutcomeJournalHead.imported (archive : OutcomeJournalArchive) : OutcomeJournalHead :=
  { own with
    lastSequence := archive.head.lastSequence
    lastEnvelopeDigest := archive.head.lastEnvelopeDigest
    lastRecordChecksum := archive.head.lastRecordChecksum
    gapSequences := archive.head.gapSequences.appendedToNil }

def promoteImportedArchive (archive : OutcomeJournalArchive) : Call Unit := do
  modify fun s => s.setHead (s.head.imported archive)
  persistHead
  atomic (·.setIntent none)
  syncDirectory

def importArchive (archive : OutcomeJournalArchive) (resolver : OperationResolver) (now : Time) : Call Unit := do
  let s ← read
  lift (refuse (now.isZero = true ∨ archive.schema ≠ outcomeArchiveSchema ∨ archive.records = [] ∨
    archive.records.length > maxOutcomeArchiveRecords) "outcome archive import is invalid or unbounded")
  lift (refuse (s.lock = false ∨ s.head.lastSequence ≠ 0 ∨ s.head.pendingSequence ≠ 0 ∨
    ¬ sameIdentity archive.head s.head ∨ archive.head.lastSequence = 0)
    "outcome archive cannot be imported into this journal")
  lift (validateArchiveRecords P s.head archive resolver)
  lift (refuse (P.archiveBytes archive > maxOutcomeArchiveBytes) "outcome archive exceeds the V1 byte bound")
  atomic (·.setIntent (some archive))
  materializeArchiveRecords archive
  promoteImportedArchive archive

def recoverPendingArchiveImport : Call Unit := do
  let s ← read
  match s.directory.importIntent with
  | none => pure ()
  | some archive => do
    lift (refuse (P.archiveBytes archive > maxOutcomeArchiveBytes) "pending outcome archive import is unavailable")
    lift (validateArchiveRecords P s.head archive selfResolver)
    materializeArchiveRecords archive
    promoteImportedArchive archive

/-! ## Open and close -/

/-- The head `recoverHead` goes on with: the one on disk, its pending sequence settled, under the new generation. -/
def recoveredHead (directory : OutcomeDirectory) (own prior : OutcomeJournalHead) (generation : UInt64) :
    Except String OutcomeJournalHead := do
  refuse (P.headBytes prior > 2 ^ 20) "outcome journal head is unavailable"
  validateOutcomeJournalHead prior
  refuse (¬ sameIdentity prior own ∨ prior.writerGeneration > generation)
    "outcome journal head conflicts or rolled back"
  let settled ← recoverPendingRecord P directory prior
  let head := if settled.writerGeneration < generation then { settled with writerGeneration := generation } else settled
  validateOutcomeJournalHead head
  pure head

/-- `recoverHead` after a pending import. No call modelled here writes a checkpoint, so there is none to compare the
head with. -/
def recoverStoredHead (generation : UInt64) : Call Unit := do
  let s ← read
  match s.directory.head with
  | none => persistHead
  | some prior => do
    let head ← lift (recoveredHead P s.directory s.head prior generation)
    modify (·.setHead head)
    reconcileDurableRecords P head
    persistHead

def recoverHead (generation : UInt64) : Call Unit := do
  recoverPendingArchiveImport P
  recoverStoredHead P generation

def freshHead (id : JournalIdentity) (domain : String) (generation : UInt64) : OutcomeJournalHead where
  ownerID := id.ownerID
  agentID := id.agentID
  authorityID := id.authorityID
  orderingDomain := domain
  cohortScopeDigest := id.cohortScopeDigest
  writerGeneration := generation

/-- The checks of `OpenOutcomeJournal` in front of the directory. -/
def openChecks (id : JournalIdentity) (fence : SignedFence) (now : Time) : Except String String := do
  refuse (id.ownerID = "" ∨ id.agentID = "" ∨ id.authorityID = "" ∨ now.isZero = true)
    "outcome journal configuration is invalid"
  refuse (fence.body.ownerID ≠ id.ownerID ∨ fence.body.agentID ≠ id.agentID ∨
    fence.body.authorityID ≠ id.authorityID ∨ fence.body.writerGeneration = 0 ∨ outcomeJournalScope ∉ fence.body.scope)
    "outcome journal Writer Fence is out of scope"
  P.verifyWriterFence fence now outcomeJournalScope
  P.confirmCurrentWriterFence fence now
  outcomeOrderingDomain P id

def openOutcomeJournal (id : JournalIdentity) (fence : SignedFence) (now : Time) : Call Unit := do
  let s ← read
  let domain ← lift (openChecks P id fence now)
  lift (refuse (s.lock = true) "outcome journal is locked")
  modify fun s => { s with head := freshHead id domain fence.body.writerGeneration, lock := true }
  match ← attempt (recoverHead P fence.body.writerGeneration) with
  | .ok _ => pure ()
  | .error msg => do
    modify fun s => { s with lock := false }
    fail msg

/-- `Close`. -/
def closeOutcomeJournal : Call Unit := modify fun s => { s with lock := false }

end OpenFox.Earning
