/-
The journal of one oracle in one round of a market: the vote it prepared and the challenge it prepared, each
bound to archived evidence, written to the file before a plan for it is returned.
-/
import OpenFox.Base.Durable
import OpenFox.Go.Search
import OpenFox.Prediction.Protocol

namespace OpenFox.Prediction

open OpenFox.Go OpenFox.Base

inductive Round
  | normal | appeal
deriving DecidableEq

structure ArchiveAuthority where
  operatorID : String
  publicKey : Bytes
deriving DecidableEq

structure OracleProfile where
  globalID : Int32
  marketAddress : String
  marketID : String
  rulesHash : String
  roundPolicyHash : String
  reporterAddress : String
  round : Round
  claimDeadline : UInt64
  auditRetention : UInt64
  archiveAuthorities : List ArchiveAuthority
deriving DecidableEq

/-! ## Evidence -/

structure ArchiveReceipt where
  operatorID : String
  contentDigest : CellHash
  archiveLocator : String
  storedAt : UInt64
  retainUntil : UInt64
  signature : Bytes
deriving DecidableEq

/-- `terms` stands for what enters a manifest and is not read here: the source, the time of the event and the
version of the parser. -/
structure EvidenceEntry where
  contentDigest : CellHash
  archiveLocator : String
  publicationTimeSeconds : UInt64
  terms : Bytes
deriving DecidableEq

structure ArchivedEvidence where
  entry : EvidenceEntry
  content : Bytes
  receipts : List ArchiveReceipt

/-! ## The library

A cell is given by its canonical BOC, a hash by its cell-hash text. -/

structure NormalContext where
  marketID : CellHash
  rulesHash : CellHash
  resolveNotBefore : UInt64
  normalRoundOpenedAt : UInt64
  oracleVoteDeadline : UInt64

structure ReviewVoteContext where
  reviewBaseContextHash : CellHash
  reviewRoundOpenedAt : UInt64

structure ReviewBaseContext where
  marketID : CellHash
  rulesHash : CellHash
  reviewVoteNotBefore : UInt64
  appealDeadline : UInt64

structure EvidenceManifest where
  marketID : CellHash
  rulesHash : CellHash
  roundContextHash : CellHash
  outcome : Outcome
  entries : List EvidenceEntry
deriving DecidableEq

structure ResolutionStatement where
  globalID : Int32
  marketAddress : String
  marketID : CellHash
  rulesHash : CellHash
  roundPolicyHash : CellHash
  roundContextHash : CellHash
  round : Round
  outcome : Outcome
  evidenceRoot : CellHash
  statementCreatedAt : UInt64
  statementExpiry : UInt64
deriving DecidableEq

structure ChallengeManifest where
  marketID : CellHash
  rulesHash : CellHash
  proposedStatementHash : CellHash
  counterOutcome : Outcome
  entries : List EvidenceEntry
deriving DecidableEq

structure ChallengeWatcherProfile where
  networkDomainHash : String
  marketConfigHash : String
  contractCodeHash : String
  challengeBond : UInt64
  challengeProcessingFee : UInt64
  operationBudget : UInt64
  maximumSnapshotAge : UInt64
deriving DecidableEq

structure OracleProtocol where
  maxEvidenceEntries : ℕ
  parseHash32 : String → Option CellHash
  /-- the SHA-256 of a content -/
  contentHash : Bytes → CellHash
  /-- `"tos-cas-sha256:"` and the hexadecimal digits of a content digest -/
  casLocator : CellHash → String
  /-- the SHA-256 of the fields of a receipt other than its signature -/
  receiptHash : ArchiveReceipt → CellHash
  /-- the text of the SHA-256 of a receipt's hash and its signature -/
  receiptID : CellHash → Bytes → SHA256
  /-- `ed25519.Verify` -/
  verify : Bytes → CellHash → Bytes → Bool
  /-- the bytes decode to a cell that encodes to them -/
  canonicalBOC : Bytes → Bool
  cellHash : Bytes → CellHash
  decodeNormalContext : Bytes → Option NormalContext
  decodeReviewVoteContext : Bytes → Option ReviewVoteContext
  decodeReviewBaseContext : Bytes → Option ReviewBaseContext
  buildManifest : EvidenceManifest → Except String Bytes
  decodeManifest : Bytes → Option EvidenceManifest
  buildStatement : ResolutionStatement → Except String Bytes
  decodeStatement : Bytes → Option ResolutionStatement
  buildChallengeManifest : ChallengeManifest → Except String Bytes
  decodeChallengeManifest : Bytes → Option ChallengeManifest
  /-- `codec.Digest` of a watcher profile -/
  watcherDigest : ChallengeWatcherProfile → Except String SHA256
  encodeBase64 : Bytes → String
  decodeBase64 : String → Option Bytes

/-- What an unparsable text is read as. -/
def zeroHash : CellHash :=
  ⟨"tvm-cell-sha256:0000000000000000000000000000000000000000000000000000000000000000", by decide +kernel⟩

/-! ## The document -/

structure OracleVoteRecord where
  round : Round
  outcome : Outcome
  roundContextHash : String
  evidenceRoot : String
  statementHash : String
  evidenceManifestBOC : String
  statementBOC : String
  statementCreatedAt : UInt64
  statementExpiry : UInt64
  archiveReceiptDigests : List String
deriving DecidableEq

structure OracleChallengeRecord where
  proposedStatementHash : String
  proposedOutcome : Outcome
  counterOutcome : Outcome
  counterEvidenceRoot : String
  evidenceManifestBOC : String
  challengeDeadline : UInt64
  finalityViewID : String
  watcherProfileDigest : String
  requiredMessageValue : UInt64
  archiveReceiptDigests : List String
deriving DecidableEq

structure OracleDocument where
  schemaVersion : UInt16
  revision : UInt64
  profile : OracleProfile
  votes : Map String OracleVoteRecord
  challenges : Map String OracleChallengeRecord

def emptyOracle (profile : OracleProfile) : OracleDocument :=
  { schemaVersion := 1, revision := 0, profile := profile, votes := ∅, challenges := ∅ }

variable (P : OracleProtocol) (o : RangeOrder) (profile : OracleProfile)

/-- `h, _ := protocol.ParseHash32(text)`. -/
def parsedHash (text : String) : CellHash := (P.parseHash32 text).getD zeroHash

def canonicalCell (raw : Bytes) (maximum : ℕ) : Except String Bytes := do
  refuse (raw.utf8ByteSize = 0 ∨ raw.utf8ByteSize > maximum) "canonical cell BOC exceeds its bound"
  refuse (¬ P.canonicalBOC raw) "cell BOC is not canonical"
  pure raw

/-! ## Archived evidence -/

def archiveReceiptDigest (receipt : ArchiveReceipt) : Except String CellHash := do
  refuse (¬ canonicalDigest receipt.operatorID "sha256:" ∨ receipt.contentDigest = zeroHash ∨
    receipt.archiveLocator ≠ P.casLocator receipt.contentDigest ∨ receipt.storedAt = 0 ∨
    receipt.retainUntil < receipt.storedAt) "invalid archive receipt fields"
  pure (P.receiptHash receipt)

def archiveAuthorities : Map String Bytes :=
  profile.archiveAuthorities.foldl (fun authorities a => authorities.put a.operatorID a.publicKey) ∅

/-- The checks of one receipt, and its identifier. -/
def verifyReceipt (authorities : Map String Bytes) (minimumRetention now : UInt64) (entry : EvidenceEntry)
    (receipt : ArchiveReceipt) : Except String String :=
  match authorities.get? receipt.operatorID, archiveReceiptDigest P receipt with
  | some key, .ok digest => do
    refuse (receipt.contentDigest ≠ entry.contentDigest ∨ receipt.archiveLocator ≠ entry.archiveLocator ∨
      receipt.storedAt < entry.publicationTimeSeconds ∨ receipt.storedAt > now ∨
      receipt.retainUntil < minimumRetention ∨ ¬ P.verify key digest receipt.signature)
      "oracle archive receipt is invalid or insufficiently retained"
    pure (P.receiptID digest receipt.signature).1
  | _, _ => throw "oracle archive receipt is invalid or insufficiently retained"

/-- The inner loop: the operators seen so far and the identifiers collected so far. -/
def verifyReceipts (authorities : Map String Bytes) (minimumRetention now : UInt64) (entry : EvidenceEntry) :
    List ArchiveReceipt → Map String Unit → List String → Except String (Map String Unit × List String)
  | [], operators, digests => pure (operators, digests)
  | receipt :: receipts, operators, digests => do
    refuse (operators.has receipt.operatorID) "evidence repeats an archive operator receipt"
    let id ← verifyReceipt P authorities minimumRetention now entry receipt
    verifyReceipts authorities minimumRetention now entry receipts (operators.put receipt.operatorID ())
      (digests ++ [id])

/-- The outer loop. -/
def verifyEvidence (authorities : Map String Bytes) (minimumRetention now : UInt64) :
    List ArchivedEvidence → ℕ → List EvidenceEntry → List String → Except String (List EvidenceEntry × List String)
  | [], _, entries, digests => pure (entries, digests)
  | value :: values, totalBytes, entries, digests => do
    let totalBytes := totalBytes + value.content.utf8ByteSize
    refuse (value.content.utf8ByteSize = 0 ∨ value.content.utf8ByteSize > 2097152 ∨ totalBytes > 16777216 ∨
      P.contentHash value.content ≠ value.entry.contentDigest)
      "oracle evidence content does not match its bounded digest"
    refuse (value.receipts.length > authorities.entries.length)
      "evidence contains duplicate or excessive archive receipts"
    let seen ← verifyReceipts P authorities minimumRetention now value.entry value.receipts ∅ digests
    refuse (seen.1.entries.length < 2) "each evidence snapshot requires two independent archive operators"
    verifyEvidence authorities minimumRetention now values totalBytes (entries ++ [value.entry]) seen.2

def verifyArchivedEvidence (values : List ArchivedEvidence) (now : UInt64) :
    Except String (List EvidenceEntry × List String) := do
  refuse (values.length > P.maxEvidenceEntries) "oracle evidence entry capacity exceeded"
  match addUint64 profile.claimDeadline profile.auditRetention with
  | none => throw "oracle archive retention overflows"
  | some minimumRetention => do
    let verified ← verifyEvidence P (archiveAuthorities profile) minimumRetention now values 0 [] []
    pure (verified.1, sortSlice (· < ·) verified.2)

/-! ## Votes -/

structure OracleVotePlan where
  round : Round
  outcome : Outcome
  roundContextHash : String
  evidenceRoot : String
  statementHash : String
  evidenceManifestBOC : Bytes
  statementBOC : Bytes
  statementCreatedAt : UInt64
  statementExpiry : UInt64
  archiveReceiptDigests : List String
deriving DecidableEq

def votePlan (record : OracleVoteRecord) : OracleVotePlan where
  round := record.round
  outcome := record.outcome
  roundContextHash := record.roundContextHash
  evidenceRoot := record.evidenceRoot
  statementHash := record.statementHash
  evidenceManifestBOC := (P.decodeBase64 record.evidenceManifestBOC).getD ""
  statementBOC := (P.decodeBase64 record.statementBOC).getD ""
  statementCreatedAt := record.statementCreatedAt
  statementExpiry := record.statementExpiry
  archiveReceiptDigests := record.archiveReceiptDigests

/-- The deadline of a vote, if its context is current and of the admitted market. -/
def voteExpiry (context reviewBaseBOC : Bytes) (now : UInt64) : Except String UInt64 :=
  let marketID := parsedHash P profile.marketID
  let rulesHash := parsedHash P profile.rulesHash
  match profile.round with
  | .normal => do
    refuse (reviewBaseBOC.utf8ByteSize ≠ 0) "normal oracle vote must not carry a review base"
    match P.decodeNormalContext context with
    | none => throw "normal oracle context is stale or outside the admitted market"
    | some decoded => do
      refuse (decoded.marketID ≠ marketID ∨ decoded.rulesHash ≠ rulesHash ∨ now < decoded.resolveNotBefore ∨
        now < decoded.normalRoundOpenedAt ∨ now ≥ decoded.oracleVoteDeadline)
        "normal oracle context is stale or outside the admitted market"
      pure decoded.oracleVoteDeadline
  | .appeal => do
    refuse (reviewBaseBOC.utf8ByteSize = 0 ∨ reviewBaseBOC.utf8ByteSize > 8192)
      "appellate vote requires the exact review base context"
    match canonicalCell P reviewBaseBOC 8192, P.decodeReviewVoteContext context,
      P.decodeReviewBaseContext reviewBaseBOC with
    | .ok base, some vote, some decodedBase => do
      refuse (decodedBase.marketID ≠ marketID ∨ decodedBase.rulesHash ≠ rulesHash ∨
        vote.reviewBaseContextHash ≠ P.cellHash base ∨ now < decodedBase.reviewVoteNotBefore ∨
        now < vote.reviewRoundOpenedAt ∨ now ≥ decodedBase.appealDeadline)
        "appellate oracle context is stale or outside the admitted review"
      pure decodedBase.appealDeadline
    | _, _, _ => throw "appellate oracle context is stale or outside the admitted review"

variable (opened : Bool) (d : OracleDocument)

/-- The vote under a context that has none yet. -/
def commitVote (contextHash : CellHash) (outcome : Outcome) (now expiry : UInt64) (manifest : Bytes)
    (receiptDigests : List String) : Except String (Update OracleDocument OracleVotePlan) := do
  let profile := d.profile
  let evidenceRoot := P.cellHash manifest
  let statement ← P.buildStatement
    { globalID := profile.globalID, marketAddress := profile.marketAddress, marketID := parsedHash P profile.marketID
      rulesHash := parsedHash P profile.rulesHash, roundPolicyHash := parsedHash P profile.roundPolicyHash
      roundContextHash := contextHash, round := profile.round, outcome := outcome, evidenceRoot := evidenceRoot
      statementCreatedAt := now, statementExpiry := expiry }
  let record : OracleVoteRecord :=
    { round := profile.round, outcome := outcome, roundContextHash := contextHash.1, evidenceRoot := evidenceRoot.1
      statementHash := (P.cellHash statement).1, evidenceManifestBOC := P.encodeBase64 manifest
      statementBOC := P.encodeBase64 statement, statementCreatedAt := now, statementExpiry := expiry
      archiveReceiptDigests := receiptDigests }
  pure (.store { d with revision := d.revision + 1, votes := d.votes.put contextHash.1 record } (votePlan P record))

def prepareVote (roundContextBOC reviewBaseBOC : Bytes) (outcome : Outcome) (evidence : List ArchivedEvidence)
    (now : UInt64) : Except String (Update OracleDocument OracleVotePlan) := do
  refuse (now = 0 ∨ roundContextBOC.utf8ByteSize = 0 ∨ roundContextBOC.utf8ByteSize > 8192 ∨ evidence.length = 0)
    "prediction oracle vote input is invalid"
  refuse (¬ opened) "prediction oracle journal is closed"
  let context ← canonicalCell P roundContextBOC 8192
  let contextHash := P.cellHash context
  let expiry ← voteExpiry P d.profile context reviewBaseBOC now
  let verified ← verifyArchivedEvidence P d.profile evidence now
  let manifest ← P.buildManifest
    { marketID := parsedHash P d.profile.marketID, rulesHash := parsedHash P d.profile.rulesHash
      roundContextHash := contextHash, outcome := outcome, entries := verified.1 }
  match d.votes.get? contextHash.1 with
  | some prior => do
    refuse (prior.round ≠ d.profile.round ∨ prior.outcome ≠ outcome ∨ prior.evidenceRoot ≠ (P.cellHash manifest).1)
      "oracle equivocation: round context already committed to another statement"
    pure (.keep (votePlan P prior))
  | none => commitVote P d contextHash outcome now expiry manifest verified.2

/-! ## Challenges -/

structure ProposedMarketObservation where
  status : UInt8
  networkDomainHash : String
  marketID : String
  marketAddress : String
  rulesHash : String
  marketConfigHash : String
  contractCodeHash : String
  proposedStatementHash : String
  proposedOutcome : Outcome
  challengeDeadline : UInt64
  observedAt : UInt64
  finalityViewID : String
  quorumFinalized : Bool

structure ChallengePlan where
  proposedStatementHash : String
  proposedOutcome : Outcome
  counterOutcome : Outcome
  counterEvidenceRoot : String
  evidenceManifestBOC : Bytes
  requiredMessageValue : UInt64
  challengeDeadline : UInt64
  finalityViewID : String
  archiveReceiptDigests : List String

def challengePlan (record : OracleChallengeRecord) : ChallengePlan where
  proposedStatementHash := record.proposedStatementHash
  proposedOutcome := record.proposedOutcome
  counterOutcome := record.counterOutcome
  counterEvidenceRoot := record.counterEvidenceRoot
  evidenceManifestBOC := (P.decodeBase64 record.evidenceManifestBOC).getD ""
  requiredMessageValue := record.requiredMessageValue
  challengeDeadline := record.challengeDeadline
  finalityViewID := record.finalityViewID
  archiveReceiptDigests := record.archiveReceiptDigests

def validateChallengeWatcherProfile (profile : ChallengeWatcherProfile) : Except String Unit :=
  refuse (¬ canonicalDigest profile.networkDomainHash "sha256:" ∨
    ¬ canonicalDigest profile.marketConfigHash "tvm-cell-sha256:" ∨
    ¬ canonicalDigest profile.contractCodeHash "tvm-cell-sha256:" ∨ profile.challengeBond = 0 ∨
    profile.challengeProcessingFee = 0 ∨ profile.operationBudget = 0 ∨ profile.maximumSnapshotAge = 0 ∨
    profile.maximumSnapshotAge > 300) "invalid prediction challenge watcher profile"

def validateProposedObservation (observation : ProposedMarketObservation) (profile : ChallengeWatcherProfile)
    (oracle : OracleProfile) (now : UInt64) : Except String Unit :=
  refuse (¬ observation.quorumFinalized ∨ observation.status ≠ 2 ∨
    observation.networkDomainHash ≠ profile.networkDomainHash ∨ observation.marketID ≠ oracle.marketID ∨
    observation.marketAddress ≠ oracle.marketAddress ∨ observation.rulesHash ≠ oracle.rulesHash ∨
    observation.marketConfigHash ≠ profile.marketConfigHash ∨ observation.contractCodeHash ≠ profile.contractCodeHash ∨
    ¬ canonicalDigest observation.proposedStatementHash "tvm-cell-sha256:" ∨
    ¬ canonicalDigest observation.finalityViewID "sha256:" ∨ observation.challengeDeadline ≤ now ∨
    observation.observedAt = 0 ∨ observation.observedAt > now ∨
    now - observation.observedAt > profile.maximumSnapshotAge)
    "prediction proposal observation is stale or outside the admitted market"

/-- What challenging costs: the bond, the processing fee and the budget. -/
def requiredMessageValue (watcher : ChallengeWatcherProfile) : Except String UInt64 := do
  let required ← addChecked watcher.challengeBond watcher.challengeProcessingFee "prediction challenge value overflows"
  addChecked required watcher.operationBudget "prediction challenge value overflows"

/-- The challenge record of a disagreement. -/
def buildChallenge (watcher : ChallengeWatcherProfile) (observation : ProposedMarketObservation)
    (evidence : List ArchivedEvidence) (counterOutcome : Outcome) (receiptDigests : List String) :
    Except String OracleChallengeRecord :=
  match P.parseHash32 observation.marketID, P.parseHash32 observation.rulesHash,
    P.parseHash32 observation.proposedStatementHash with
  | some marketID, some rulesHash, some proposalHash => do
    let manifest ← P.buildChallengeManifest
      { marketID := marketID, rulesHash := rulesHash, proposedStatementHash := proposalHash
        counterOutcome := counterOutcome, entries := evidence.map (·.entry) }
    let required ← requiredMessageValue watcher
    let profileDigest ← P.watcherDigest watcher
    pure
      { proposedStatementHash := observation.proposedStatementHash, proposedOutcome := observation.proposedOutcome
        counterOutcome := counterOutcome, counterEvidenceRoot := (P.cellHash manifest).1
        evidenceManifestBOC := P.encodeBase64 manifest, challengeDeadline := observation.challengeDeadline
        finalityViewID := observation.finalityViewID, watcherProfileDigest := profileDigest.1
        requiredMessageValue := required, archiveReceiptDigests := receiptDigests }
  | _, _, _ => throw "prediction challenge binding hash is invalid"

/-- The last critical section of `PrepareChallenge`. -/
def commitChallenge (record : OracleChallengeRecord) :
    Except String (Update OracleDocument (Option ChallengePlan)) := do
  refuse (¬ opened) "prediction oracle journal closed while preparing challenge"
  match d.challenges.get? record.proposedStatementHash with
  | some prior => do
    refuse (prior ≠ record) "prediction challenge conflicts with the durable counter statement"
    pure (.keep (some (challengePlan P prior)))
  | none => do
    refuse (d.challenges.entries.length ≠ 0) "prediction oracle journal already tracks another challenge"
    let next :=
      { d with revision := d.revision + 1, challenges := d.challenges.put record.proposedStatementHash record }
    pure (.store next (some (challengePlan P record)))

/-- What surrounds one call: whether the journal was open when it began, whether its context ended, and what the
evaluator of resolutions answers. -/
structure ChallengeSurroundings where
  openedAtStart : Bool
  contextErr : Option String
  evaluate : String → String → List ArchivedEvidence → Except String Outcome

/-- `PrepareChallenge` takes the lock three times. The profile it reads under the first two never changes, so the
call is one step at the third. -/
def prepareChallenge (watcher : ChallengeWatcherProfile) (around : ChallengeSurroundings)
    (observation : ProposedMarketObservation) (evidence : List ArchivedEvidence) (now : UInt64) :
    Except String (Update OracleDocument (Option ChallengePlan)) := do
  refuse (evidence.length = 0 ∨ now = 0 ∨ now > 9223372036854775807 ∨
    validateChallengeWatcherProfile watcher ≠ .ok ()) "prediction challenge watcher is unavailable"
  refuse (¬ around.openedAtStart) "prediction oracle journal is closed"
  validateProposedObservation observation watcher d.profile now
  let verified ← verifyArchivedEvidence P d.profile evidence now
  match around.contextErr with
  | some e => throw e
  | none => do
    let counterOutcome ← around.evaluate observation.marketID observation.rulesHash evidence
    if counterOutcome = observation.proposedOutcome then pure (.keep none)
    else
      let record ← buildChallenge P watcher observation evidence counterOutcome verified.2
      commitChallenge P opened d record

/-! ## Opening -/

/-- The loop over receipt digests, after `previous`. -/
def checkReceiptDigests (invalid unsorted : String) : String → List String → Except String Unit
  | _, [] => pure ()
  | previous, digest :: digests => do
    refuse (¬ canonicalDigest digest "sha256:") invalid
    refuse (previous ≠ "" ∧ digest ≤ previous) unsorted
    checkReceiptDigests invalid unsorted digest digests

def storedVote (record : OracleVoteRecord) : Option (Bytes × Bytes × EvidenceManifest × ResolutionStatement) := do
  let manifestRaw ← P.decodeBase64 record.evidenceManifestBOC
  let statementRaw ← P.decodeBase64 record.statementBOC
  let manifest ← (canonicalCell P manifestRaw 65536).toOption
  let statement ← (canonicalCell P statementRaw 8192).toOption
  pure (manifest, statement, ← P.decodeManifest manifest, ← P.decodeStatement statement)

def validateStoredVote (key : String) (record : OracleVoteRecord) : Except String Unit :=
  let marketID := parsedHash P profile.marketID
  let rulesHash := parsedHash P profile.rulesHash
  match storedVote P record with
  | none => throw "prediction oracle journal contains a corrupted vote"
  | some (manifest, statement, decodedManifest, decodedStatement) => do
    refuse (key ≠ record.roundContextHash ∨ ¬ canonicalDigest key "tvm-cell-sha256:" ∨
      (P.cellHash manifest).1 ≠ record.evidenceRoot ∨ (P.cellHash statement).1 ≠ record.statementHash ∨
      decodedManifest.roundContextHash.1 ≠ record.roundContextHash ∨ decodedManifest.marketID ≠ marketID ∨
      decodedManifest.rulesHash ≠ rulesHash ∨ decodedManifest.outcome ≠ record.outcome ∨
      decodedStatement.globalID ≠ profile.globalID ∨ decodedStatement.marketAddress ≠ profile.marketAddress ∨
      decodedStatement.marketID ≠ marketID ∨ decodedStatement.rulesHash ≠ rulesHash ∨
      decodedStatement.roundPolicyHash ≠ parsedHash P profile.roundPolicyHash ∨
      decodedStatement.roundContextHash.1 ≠ record.roundContextHash ∨ decodedStatement.round ≠ record.round ∨
      record.round ≠ profile.round ∨ decodedStatement.outcome ≠ record.outcome ∨
      decodedStatement.evidenceRoot ≠ P.cellHash manifest ∨
      decodedStatement.statementCreatedAt ≠ record.statementCreatedAt ∨
      decodedStatement.statementExpiry ≠ record.statementExpiry)
      "prediction oracle journal contains a corrupted vote"
    refuse (record.archiveReceiptDigests.length < 2 * decodedManifest.entries.length)
      "prediction oracle journal lacks independent archive receipts"
    checkReceiptDigests "prediction oracle receipt digest is invalid"
      "prediction oracle receipt digests are not unique and sorted" "" record.archiveReceiptDigests

def storedChallenge (record : OracleChallengeRecord) : Option (Bytes × ChallengeManifest) := do
  let manifestRaw ← P.decodeBase64 record.evidenceManifestBOC
  let manifest ← (canonicalCell P manifestRaw 65536).toOption
  pure (manifest, ← P.decodeChallengeManifest manifest)

def validateStoredChallenge (key : String) (record : OracleChallengeRecord) : Except String Unit :=
  match storedChallenge P record with
  | none => throw "prediction oracle journal contains a corrupted challenge"
  | some (manifest, decoded) => do
    refuse (key ≠ record.proposedStatementHash ∨ ¬ canonicalDigest key "tvm-cell-sha256:" ∨
      decoded.marketID ≠ parsedHash P profile.marketID ∨ decoded.rulesHash ≠ parsedHash P profile.rulesHash ∨
      decoded.proposedStatementHash.1 ≠ record.proposedStatementHash ∨ decoded.counterOutcome ≠ record.counterOutcome ∨
      (P.cellHash manifest).1 ≠ record.counterEvidenceRoot ∨ record.proposedOutcome = record.counterOutcome ∨
      record.challengeDeadline = 0 ∨ record.requiredMessageValue = 0 ∨
      ¬ canonicalDigest record.watcherProfileDigest "sha256:" ∨ ¬ canonicalDigest record.finalityViewID "sha256:" ∨
      record.archiveReceiptDigests.length < 2 * decoded.entries.length)
      "prediction oracle journal contains a corrupted challenge"
    checkReceiptDigests "prediction oracle challenge receipt digests are invalid"
      "prediction oracle challenge receipt digests are invalid" "" record.archiveReceiptDigests

/-- `loadOrInitialize` on a stored document. -/
def loadOracle (stored : OracleDocument) : Except String OracleDocument := do
  refuse (stored.schemaVersion ≠ 1 ∨ stored.votes.entries.length > 1 ∨ stored.challenges.entries.length > 1 ∨
    stored.profile ≠ profile) "prediction oracle journal identity or shape is invalid"
  (stored.votes.range o 0).forM fun e => validateStoredVote P stored.profile e.1 e.2
  (stored.challenges.range o 1).forM fun e => validateStoredChallenge P stored.profile e.1 e.2
  pure stored

/-! ## The journal as a component -/

inductive OracleCall
  | prepareVote (roundContextBOC reviewBaseBOC : Bytes) (outcome : Outcome) (evidence : List ArchivedEvidence)
    (now : UInt64)
  | prepareChallenge (watcher : ChallengeWatcherProfile) (around : ChallengeSurroundings)
    (observation : ProposedMarketObservation) (evidence : List ArchivedEvidence) (now : UInt64)

def OracleCall.update : OracleCall → Except String (Update OracleDocument Unit)
  | .prepareVote context base outcome evidence now =>
    (Prediction.prepareVote P opened d context base outcome evidence now).map (·.map fun _ => ())
  | .prepareChallenge watcher around observation evidence now =>
    (Prediction.prepareChallenge P opened d watcher around observation evidence now).map (·.map fun _ => ())

/-- The journal of one profile; `o` is the order in which loads visit the maps. -/
def oracleJournal : Machine OracleDocument OracleDocument OracleCall where
  save := id
  load := loadOracle P o profile
  call opened c d := c.update P opened d

end OpenFox.Prediction
