/-
`JournalOutcomeRecorder.RecordActionResolution`: reserve a sequence, sign the operation, have the append admitted,
commit; give the sequence up if anything before the commit fails. The journal as a system of calls, each with the
way its disk operations end.
-/
import OpenFox.Base.Run
import OpenFox.Earning.OutcomeArchive

namespace OpenFox.Earning

open OpenFox.Go OpenFox.Base OpenFox.Commerce Prog

/-- `JournalOutcomeRecorder` without its journal. -/
structure JournalOutcomeRecorder where
  networkID : String
  audienceDescriptor : String
  authorizationRef : String
  operationKey : Bytes
  historicalProof : Bytes
  fence : SignedFence
deriving DecidableEq

/-- What the append authority answers during one call. -/
structure AppendAuthority where
  signAction : SignedAction → SignedFence → Except String SignedAction
  admitAction : SignedAction → SemanticFields → Bytes → SignedFence → Except String ActionState
  transition : String → String → ActionState → String → Except String Unit
  resolve : String → String → ActionState
  /-- `none` if the authority does not implement `authorizedActionResolver`. -/
  resolveAuthorizedAction : Option (String → String → Option SignedAction)

def fixedOutcomeOperationResolver (agentID key profile : String) (proof : Bytes) : OperationResolver :=
  fun agent prof k _ p => agent == agentID && prof == profile && k == key && p == proof

variable (P : OutcomeProtocol) (recorder : JournalOutcomeRecorder) (authority : AppendAuthority)

def finishAppendResolution (record : OutcomeJournalRecord) : Except String Unit := do
  refuse (record.journalAppendRequestDigest = "") "outcome journal record is missing append admission evidence"
  let state := authority.resolve record.journalAppendActionID record.journalAppendRequestDigest
  if state = .terminal then pure ()
  else do
    refuse (state ≠ .prepared) "outcome journal append is not recoverable from its current state"
    match authority.resolveAuthorizedAction with
    | none => throw "outcome append authority cannot recover the exact admitted action"
    | some resolver =>
      match resolver record.journalAppendActionID record.journalAppendRequestDigest with
      | none => throw "outcome append authority recovered an unrelated action"
      | some action => do
        refuse (action.stableActionID ≠ record.journalAppendActionID ∨
          action.exactRequestDigest ≠ record.journalAppendRequestDigest)
            "outcome append authority recovered an unrelated action"
        authority.transition action.stableActionID action.exactRequestDigest .terminal record.operationEnvelopeDigest

/-- The event about a resolution: its content identity, its payload and its artifacts. -/
def resolutionEvent (action : SignedAction) (resolution : ActionResolution) :
    Except String (String × Bytes × ArtifactBundle) := do
  let actionDigest ← P.actionDigest action
  let resolutionDigest ← P.resolutionDigest resolution
  let assertionPayload ← P.assertionBytes
    ⟨action.stableActionID, action.exactRequestDigest, actionDigest, resolutionDigest, resolution.state,
      resolution.stateRevision⟩
  let (contentID, eventPayload) ← P.observationEvent action.stableActionID assertionPayload
  pure (contentID, eventPayload, ⟨assertionPayload, P.emptyEvidence⟩)

/-- The operation over the event, ordered after the head's last one, and signed. -/
def signedOperation (head : OutcomeJournalHead) (action : SignedAction) (contentID : String) (eventPayload : Bytes)
    (sequence : UInt64) (observedAt : Time) : Except String OperationEnvelope := do
  let body : OperationBody := {
    schemaVersion := 1
    networkID := recorder.networkID
    opcodeNamespace := "OPERATION"
    opcodeName := "OUTCOME"
    opcodeVersion := 1
    actorAgentID := action.agentID
    authorizationRef := recorder.authorizationRef
    audienceDescriptor := recorder.audienceDescriptor
    objectID := contentID
    orderingDomain := head.orderingDomain
    sequence := sequence
    epoch := head.writerGeneration
    predecessorDigests := if head.lastEnvelopeDigest = "" then [] else [head.lastEnvelopeDigest]
    createdAtUnix := observedAt.unixU64
    payloadProfile := P.outcomeProfile
    payloadDigest := contentID
    payloadSize := UInt64.ofNat eventPayload.utf8ByteSize
    operationID := "" }
  let operationID ← P.deriveOperationID body
  P.signOperation { body with operationID := operationID } action.agentID recorder.operationKey recorder.historicalProof

/-- The append action for an operation, signed and admitted by the authority. -/
def admittedAppend (head : OutcomeJournalHead) (action : SignedAction) (contentID envelopeDigest : String)
    (sequence : UInt64) : Except String (OutcomeJournalAppendAdmission × ActionState) := do
  let gapDigest ← P.gapSetDigest head.gapSequences
  let request : JournalAppendRequest :=
    ⟨head.orderingDomain, head.writerGeneration, sequence, contentID, envelopeDigest, gapDigest⟩
  let canonical ← P.requestBytes request
  let fields ← P.appendFields action.ownerID action.agentID head.orderingDomain head.writerGeneration sequence contentID
  let appendAction ← P.buildAuthorizedAction action fields canonical recorder.fence
  let appendAction ← authority.signAction appendAction recorder.fence
  let state ← authority.admitAction appendAction fields canonical recorder.fence
  refuse (state ≠ .prepared ∧ state ≠ .terminal) "outcome journal append was not admitted"
  pure (⟨request, appendAction, recorder.fence⟩, state)

def commitReserved (action : SignedAction) (resolution : ActionResolution) (observedAt : Time) (contentID : String)
    (eventPayload : Bytes) (artifacts : ArtifactBundle) (sequence : UInt64) :
    Call (OutcomeJournalAppendAdmission × ActionState × String) := do
  let s ← read
  let envelope ← lift (signedOperation P recorder s.Head action contentID eventPayload sequence observedAt)
  let envelopeDigest ← lift (P.envelopeDigest envelope)
  let (admission, state) ← lift (admittedAppend P recorder authority s.Head action contentID envelopeDigest sequence)
  let request : CommitRequest := {
    sequence := sequence
    envelope := envelope
    payload := eventPayload
    artifacts := artifacts
    resolver := fixedOutcomeOperationResolver action.agentID (P.operationPublicKey recorder.operationKey)
      recorder.authorizationRef recorder.historicalProof
    now := observedAt
    admission := some admission
    source := some ⟨action, resolution⟩ }
  -- a failed commit is reported to the authority; what it answers does not matter
  let _ ← commit P request
  pure (admission, state, envelopeDigest)

def recordActionResolution (action : SignedAction) (resolution : ActionResolution) (observedAt : Time) : Call Unit := do
  lift (refuse (recorder.networkID = "" ∨ recorder.audienceDescriptor = "" ∨ recorder.historicalProof = "" ∨
    observedAt.isZero = true) "outcome recorder is incomplete")
  lift (P.validateProfileRef recorder.authorizationRef)
  lift (refuse (resolution.stableActionID ≠ action.stableActionID ∨
    resolution.exactRequestDigest ≠ action.exactRequestDigest ∨ resolution.state = .unknown)
    "outcome recorder received an unrelated Action resolution")
  lift (P.validateActionResolution resolution)
  let s ← read
  -- the scan reads through the root, which a closed journal does not have
  lift (refuse (s.lock = false) "outcome journal is closed")
  match ← lift (actionResolutionRecord P s action.stableActionID resolution.stateRevision) with
  | some record => lift (finishAppendResolution authority record)
  | none => do
    let (contentID, eventPayload, artifacts) ← lift (resolutionEvent P action resolution)
    let sequence ← reserve P recorder.fence observedAt
    match ← attempt (commitReserved P recorder authority action resolution observedAt contentID eventPayload artifacts
      sequence) with
    | .error msg => do
      let _ ← attempt (abortReserved sequence)
      fail msg
    | .ok (admission, state, envelopeDigest) =>
      if state = .terminal then pure ()
      else lift (authority.transition admission.action.stableActionID admission.action.exactRequestDigest .terminal
        envelopeDigest)

/-! ## Runs -/

inductive OutcomeCall
  | open (fence : SignedFence) (now : Time)
  | close
  | reserve (fence : SignedFence) (now : Time)
  | abort (sequence : UInt64)
  | commit (request : CommitRequest)
  | importArchive (archive : OutcomeJournalArchive) (resolver : OperationResolver) (now : Time)
  | record (recorder : JournalOutcomeRecorder) (authority : AppendAuthority) (action : SignedAction)
      (resolution : ActionResolution) (observedAt : Time)

/-- A call and how its disk operations end. -/
structure OutcomeEvent where
  call : OutcomeCall
  faults : List Fault := []

def OutcomeCall.prog (id : JournalIdentity) : OutcomeCall → Call Unit
  | .open fence now => openOutcomeJournal P id fence now
  | .close => closeOutcomeJournal
  | .reserve fence now => do let _ ← Earning.reserve P fence now
  | .abort sequence => abortReserved sequence
  | .commit request => do let _ ← Earning.commit P request
  | .importArchive archive resolver now => Earning.importArchive P archive resolver now
  | .record recorder authority action resolution observedAt =>
    recordActionResolution P recorder authority action resolution observedAt

/-- A crash releases the lock; the journal is gone until it is opened again. -/
def OutcomeJournal.step (id : JournalIdentity) (s : OutcomeJournal) (e : OutcomeEvent) : OutcomeJournal :=
  match e.call.prog P id ⟨s, e.faults⟩ with
  | (.error .crashed, w) => { w.state with lock := false }
  | (_, w) => w.state

/-- Before the first opening: an empty directory. -/
def OutcomeJournal.absent (id : JournalIdentity) : OutcomeJournal := { head := freshHead id "" 0 }

/-- The directory and the head after a run that starts with an empty directory. -/
def OutcomeJournal.run (id : JournalIdentity) (es : List OutcomeEvent) : OutcomeJournal :=
  exec (OutcomeJournal.step P id) (OutcomeJournal.absent id) es

end OpenFox.Earning
