/-
How one call of the authority runs: the storage check, for some calls the expiry of due custody
bearers, then the call's own transaction, whose result is persisted before it is returned. A write
can be refused, and it can fail with or without having reached the journal file; a failed write
poisons the authority until it is reopened. Writers, actions and reservations (`authority_journal.go`):
the writer lease, the admission of an action with or without exposure under the aggregate limits of
the portfolio, instances, relay side effects and the capacity probe.
-/
import OpenFox.Authority.Custody

namespace OpenFox.Authority

open OpenFox.Go OpenFox.Commerce

inductive WriteOutcome
  | stored
  | refused (msg : String)
  | failed (msg : String) (reached : Bool)
deriving DecidableEq

/-- What the process finds around one call: the storage directory, the clock at each reading, map
orders, the outcomes of the call's writes (expiry first) and the random part of a lease ID. -/
structure Host where
  attached : Bool := true
  clock : Nat → Time
  range : RangeOrder
  write : Nat → WriteOutcome := fun _ => .stored
  random : Except String String := .ok ""

/-- The authority between two calls. `doc` is the document in the journal file; the copy in memory
is the same one unless the authority is poisoned, and then no call reads it. -/
structure PersonalAuthority where
  doc : AuthorityDocument
  poisoned : Bool := false

inductive Outcome (α : Type)
  | keep (value : α)
  | store (next : AuthorityDocument) (value : α)
  /-- The call writes and then still returns an error. -/
  | storeThenFail (next : AuthorityDocument) (msg : String)

def Outcome.map {α β : Type} (f : α → β) : Outcome α → Outcome β
  | keep v => keep (f v)
  | store next v => store next (f v)
  | storeThenFail next msg => storeThenFail next msg

def Outcome.next {α : Type} : Outcome α → Option AuthorityDocument
  | keep _ => none
  | store next _ => some next
  | storeThenFail next _ => some next

structure Operation (α : Type) where
  /-- The argument checks made before the lock is taken. -/
  before : Except String Unit := .ok ()
  expires : Bool := false
  body : AuthorityDocument → Except String (Outcome α)

def Operation.map {α β : Type} (f : α → β) (op : Operation α) : Operation β :=
  { before := op.before, expires := op.expires, body := fun doc => (op.body doc).map (Outcome.map f) }

namespace PersonalAuthority

def ensureStorageIdentityLocked (h : Host) (a : PersonalAuthority) : PersonalAuthority × Except String Unit :=
  if a.poisoned then (a, .error "personal authority storage identity is unavailable")
  else if h.attached then (a, .ok ())
  else ({ a with poisoned := true }, .error "personal authority storage directory was replaced")

def persist (w : WriteOutcome) (next : AuthorityDocument) (a : PersonalAuthority) :
    PersonalAuthority × Except String Unit :=
  match w with
  | .stored => ({ a with doc := next }, .ok ())
  | .refused msg => (a, .error msg)
  | .failed msg reached => ({ doc := if reached then next else a.doc, poisoned := true }, .error msg)

def expireIssuedCustodyLocked (P : Protocol) (h : Host) (a : PersonalAuthority) :
    PersonalAuthority × Except String Unit :=
  match expireIssuedCustody P h.range (h.clock 0) a.doc with
  | .error e => (a, .error e)
  | .ok none => (a, .ok ())
  | .ok (some next) => a.persist (h.write 0) next

end PersonalAuthority

namespace Operation

variable {α : Type}

/-- The call's own transaction, on the document the earlier stages left. -/
def commit (h : Host) (op : Operation α) (a : PersonalAuthority) : PersonalAuthority × Except String α :=
  match op.body a.doc with
  | .error e => (a, .error e)
  | .ok (.keep v) => (a, .ok v)
  | .ok (.store next v) => let r := a.persist (h.write 1) next; (r.1, r.2.map fun _ => v)
  | .ok (.storeThenFail next msg) => let r := a.persist (h.write 1) next; (r.1, r.2.bind fun _ => .error msg)

def run (P : Protocol) (h : Host) (op : Operation α) (a : PersonalAuthority) : PersonalAuthority × Except String α :=
  match op.before with
  | .error e => (a, .error e)
  | .ok _ =>
    match a.ensureStorageIdentityLocked h with
    | (a, .error e) => (a, .error e)
    | (a, .ok _) =>
      match if op.expires then a.expireIssuedCustodyLocked P h else (a, .ok ()) with
      | (a, .error e) => (a, .error e)
      | (a, .ok _) => op.commit h a

end Operation

/-! ## Aggregate limits -/

variable (P : Protocol) (h : Host) (doc : AuthorityDocument) (action : AuthorizedAction) (fields : SemanticFields)

/-- Whether `current + additional` is above `limit`, without adding. -/
def exceeds (current additional limit : UInt64) : Bool := additional > limit || current > limit - additional

def exposureAssetBucket (asset : Option AssetIdentity) : Except String String :=
  match asset with
  | none => .ok ""
  | some a =>
    match P.validateAssetIdentity a with
    | .error _ => .error "portfolio exposure asset is invalid"
    | .ok _ => P.digest "tos.openfox.asset-exposure-bucket.v1" (.asset a)

structure PortfolioUse where
  computeUnits : UInt64 := 0
  spendAtomic : UInt64 := 0
  lockedCapitalAtomic : UInt64 := 0
  receivableAtomic : UInt64 := 0
  lossByAsset : Map String UInt64

/-- One round of the loop over `ConsumedMaximumLossByAsset`. -/
def addLossDisposition (loss : Map String UInt64) (entry : (_ : String) × UInt64) : Except String (Map String UInt64) :=
  match doc.retainedDefaultLiabilityByAsset.get? entry.1 with
  | none => .error "persisted asset loss disposition exceeds its limit"
  | some retained => do
    refuse (!canonicalSHA256 entry.1 || exceeds entry.2 retained doc.limits.maximumLossAtomic)
      "persisted asset loss disposition exceeds its limit"
    pure (loss.put entry.1 (entry.2 + retained))

/-- One round of the loop over `Reservations`. -/
def addReservation (used : PortfolioUse) (entry : (_ : String) × ExposureReservation) : Except String PortfolioUse :=
  let r := entry.2
  if r.released then .ok used
  else match exposureAssetBucket P r.asset with
  | .error _ => .error "persisted asset Portfolio use exceeds its limit"
  | .ok bucket => do
    refuse (exceeds (used.lossByAsset.getD bucket 0) r.maximumLossAtomic doc.limits.maximumLossAtomic)
      "persisted asset Portfolio use exceeds its limit"
    refuse (exceeds used.computeUnits r.computeUnits doc.limits.computeUnits ||
        exceeds used.spendAtomic r.spendAtomic doc.limits.spendAtomic ||
        exceeds used.lockedCapitalAtomic r.lockedCapitalAtomic doc.limits.lockedCapitalAtomic ||
        exceeds used.receivableAtomic r.receivableAtomic doc.limits.receivableAtomic)
      "persisted aggregate Portfolio use exceeds its limit"
    pure { computeUnits := used.computeUnits + r.computeUnits
           spendAtomic := used.spendAtomic + r.spendAtomic
           lockedCapitalAtomic := used.lockedCapitalAtomic + r.lockedCapitalAtomic
           receivableAtomic := used.receivableAtomic + r.receivableAtomic
           lossByAsset := used.lossByAsset.put bucket (used.lossByAsset.getD bucket 0 + r.maximumLossAtomic) }

def portfolioUsage (order : RangeOrder) (doc : AuthorityDocument) : Except String PortfolioUse := do
  refuse (exceeds doc.consumedMaximumLossAtomic doc.retainedDefaultLiabilityAtomic doc.limits.maximumLossAtomic)
    "persisted legacy loss disposition exceeds its limit"
  let loss ← (doc.consumedMaximumLossByAsset.range order 0).foldlM (addLossDisposition doc)
    (Map.put ∅ "" (doc.consumedMaximumLossAtomic + doc.retainedDefaultLiabilityAtomic))
  (doc.reservations.range order 1).foldlM (addReservation P doc) { lossByAsset := loss }

def admitReservation (order : RangeOrder) (doc : AuthorityDocument) (candidate : ExposureReservation) :
    Except String Unit := do
  refuse (candidate.reservationID = "" ∨ candidate.agreementDigest = "" ∨ candidate.released = true)
    "portfolio reservation is invalid"
  let bucket ← exposureAssetBucket P candidate.asset
  match doc.reservations.get? candidate.reservationID with
  | some existing => refuse (existing ≠ candidate) "portfolio reservation identity conflicts"
  | none =>
    let used ← portfolioUsage P order doc
    refuse (exceeds used.computeUnits candidate.computeUnits doc.limits.computeUnits ||
        exceeds used.spendAtomic candidate.spendAtomic doc.limits.spendAtomic ||
        exceeds used.lockedCapitalAtomic candidate.lockedCapitalAtomic doc.limits.lockedCapitalAtomic ||
        exceeds used.receivableAtomic candidate.receivableAtomic doc.limits.receivableAtomic ||
        exceeds (used.lossByAsset.getD bucket 0) candidate.maximumLossAtomic doc.limits.maximumLossAtomic)
      "aggregate Portfolio limit would be exceeded"

/-! ## Shared pieces -/

/-- The fence carries the document's generation and the current lease. -/
def holdsWriter (fence : WriterFence) : Bool :=
  match doc.currentFence with
  | none => false
  | some current => fence.body.writerGeneration == doc.writerGeneration && fence.body.leaseID == current.body.leaseID

def recordAuthorizedAction : AuthorityDocument :=
  { doc with authorizedActions := doc.authorizedActions.put action.stableActionID action }

def recordAction (resolution : ActionResolution) : AuthorityDocument :=
  recordAuthorizedAction { doc with actions := doc.actions.put action.stableActionID resolution } action

def resolutionOf (state : ActionState) (evidence : List String) (revision : UInt64) : ActionResolution :=
  { stableActionID := action.stableActionID, exactRequestDigest := action.exactRequestDigest, state := state
    evidenceRefs := evidence, stateRevision := revision }

def putReservation (r : ExposureReservation) : AuthorityDocument :=
  { doc with reservations := doc.reservations.put r.reservationID r, portfolioRevision := doc.portfolioRevision + 1 }

def verified (request : Bytes) (fence : WriterFence) (now : Time) : Bool :=
  P.verifyAuthorizedAction doc.authorityID action fields request fence now == .ok ()

/-! ## Writers, instances and relay side effects -/

def acquireWriter (instanceID : String) (scope : List String) (ttl : Int) : Operation WriterFence where
  before := refuse (instanceID = "" ∨ ttl < 1000000000 ∨ ttl > 24 * 3600 * 1000000000) "writer acquisition is invalid"
  body doc := do
    let now := h.clock 1
    refuse (doc.writerGeneration = 0 - 1) "writer generation exhausted"
    let leaseID ← h.random
    let fence ← P.signWriterFence
      { schemaVersion := 1, ownerID := doc.ownerID, agentID := doc.agentID, instanceID := instanceID
        leaseID := "lease:" ++ leaseID, writerGeneration := doc.writerGeneration + 1, issuedAtUnix := now.unixU64
        expiresAtUnix := Time.unixU64 (now + ttl), authorityID := doc.authorityID, scope := sortStrings scope }
    pure (.store { doc with writerGeneration := doc.writerGeneration + 1, currentFence := some fence } fence)

def allocateInstance (request : AuthorityInstanceRequest) (fence : WriterFence) :
    Operation AuthorityInstanceRecord where
  body doc := do
    refuse (holdsWriter doc fence = false) "stale writer cannot allocate an authority instance"
    let digest ← P.instanceRequestDigest request
    match doc.authorityInstances.get? digest with
    | some existing => pure (.keep existing)
    | none =>
      let identifier ← P.deriveAuthorityInstanceID request doc.nextInstanceSequence
      let record : AuthorityInstanceRecord :=
        { requestDigest := digest, allocationSequence := doc.nextInstanceSequence, authorityInstanceID := identifier
          policyRevision := doc.portfolioRevision }
      pure (.store { doc with
        authorityInstances := doc.authorityInstances.put digest record
        nextInstanceSequence := doc.nextInstanceSequence + 1 } record)

def maximumRelayAdmissions : Nat := 4096

def maximumRelayRouteHops : UInt64 := 32

def relayAdmissionStableBindingKey (ownerID agentID stableActionID : String) : String :=
  ownerID ++ "\x00" ++ agentID ++ "\x00" ++ stableActionID

/-- The new route must start a chain or continue the one bound to its action. -/
def relayRouteContinues (descriptor : RelayAdmissionDescriptor) : Bool :=
  match doc.relayAdmissionBindings.get?
      (relayAdmissionStableBindingKey descriptor.ownerID descriptor.agentID descriptor.stableActionID) with
  | none => descriptor.routeAttempt == 1 && descriptor.predecessorReceiptDigest == ""
  | some boundLookup =>
    match doc.relayAdmissions.get? boundLookup with
    | none => false
    | some predecessor => P.validateRelayTransition predecessor descriptor == .ok ()

def carriesCurrentFence (fence : WriterFence) : Bool :=
  match doc.currentFence.map P.writerFenceDigest, P.writerFenceDigest fence with
  | some (.ok wanted), .ok got => wanted == got
  | _, _ => false

def admitRelaySideEffects (descriptor : RelayAdmissionDescriptor) : Operation RelayAdmissionReceipt where
  body doc := do
    let now := h.clock 1
    refuse (descriptor.ownerID ≠ doc.ownerID ∨ descriptor.agentID ≠ doc.agentID ∨
        descriptor.writerFence.body.authorityID ≠ doc.authorityID ∨ holdsWriter doc descriptor.writerFence = false)
      "stale writer cannot admit relay side effects"
    refuse (carriesCurrentFence P doc descriptor.writerFence = false)
      "relay admission does not carry the current writer fence"
    P.validateRelayDescriptor doc.authorityID descriptor now
    refuse (descriptor.routeAttempt > maximumRelayRouteHops) "relay admission route attempt exceeds the V1 limit"
    let lookupDigest ← P.relayLookupDigest (P.relayLookup descriptor)
    match doc.relayAdmissions.get? lookupDigest with
    | some existing =>
      refuse (P.verifyRelayReceipt existing descriptor (Time.ofUnix existing.issuedAtUnix) ≠ .ok ())
        "stored relay admission conflicts with exact retry"
      pure (.keep existing)
    | none =>
      refuse (doc.relayAdmissions.entries.length ≥ maximumRelayAdmissions)
        "relay admission authority capacity is exhausted"
      refuse (relayRouteContinues P doc descriptor = false) "relay conflict"
      refuse (doc.nextRelayAdmissionSequence = 0 ∨ doc.nextRelayAdmissionSequence = 0 - 1 ∨ now.unix < 0 ∨
          descriptor.startNotAfterCapUnix ≤ now.unixU64)
        "relay admission sequence or start window is exhausted"
      let delayed := Time.unixU64 (now + P.maxRelayAdmissionStartDelay * 1000000000)
      let startNotAfter := if descriptor.startNotAfterCapUnix < delayed then
        descriptor.startNotAfterCapUnix else delayed
      let receipt ← P.buildRelayReceipt descriptor doc.nextRelayAdmissionSequence now.unixU64 startNotAfter
      pure (.store { doc with
        relayAdmissions := doc.relayAdmissions.put lookupDigest receipt
        relayAdmissionBindings := doc.relayAdmissionBindings.put
          (relayAdmissionStableBindingKey descriptor.ownerID descriptor.agentID descriptor.stableActionID) lookupDigest
        nextRelayAdmissionSequence := doc.nextRelayAdmissionSequence + 1 } receipt)

/-! ## Admission -/

def journalFieldsMatch (append : JournalAppendRequest) : Bool :=
  match P.journalAppendFields doc.ownerID doc.agentID append with
  | .ok expected => sameFields fields expected
  | .error _ => false

/-- The outcome-journal high-water an `operation.journal.append` action advances. -/
def validateAndAdvanceOutcomeJournalAuthorityHead (request : Bytes) (fence : WriterFence) :
    Except String AuthorityDocument :=
  if action.actionKind ≠ "operation.journal.append" then .ok doc
  else do
    let append ← (P.decodeJournalAppend request).mapError fun _ =>
      "outcome journal append admission request is not canonical"
    refuse (P.validateJournalAppend append ≠ .ok () ∨ append.epoch ≠ fence.body.writerGeneration)
      "outcome journal append admission request is invalid"
    refuse (journalFieldsMatch P doc fields append = false)
      "outcome journal append semantic fields differ from the request"
    match doc.outcomeJournalHeads.get? append.orderingDomain with
    | none => pure ()
    | some prior =>
      refuse (append.sequence ≤ prior.sequence ∨ append.epoch < prior.epoch)
        "outcome journal sequence conflicts with the authority high-water"
      refuse (append.epoch = prior.epoch ∧ append.sequence ≠ prior.sequence + 1 ∧
          append.gapSetDigest = prior.gapSetDigest)
        "outcome journal sequence skips without an explicit gap commitment"
    pure { doc with
      outcomeJournalHeads := doc.outcomeJournalHeads.put append.orderingDomain
        { epoch := append.epoch, sequence := append.sequence, eventContentID := append.eventContentID
          operationEnvelopeDigest := append.operationEnvelopeDigest, gapSetDigest := append.gapSetDigest
          stableActionID := action.stableActionID, exactRequestDigest := action.exactRequestDigest } }

def admitOptionalReservation : Option ExposureReservation → Except String AuthorityDocument
  | none => .ok doc
  | some candidate => do
    admitReservation P h.range doc candidate
    pure (putReservation doc candidate)

def admitAction (request : Bytes) (fence : WriterFence)
    (reservation : Option ExposureReservation) : Operation ActionResolution where
  expires := true
  body doc := do
    refuse (holdsWriter doc fence = false ∨
        doc.currentFence.map (·.body.writerGeneration) ≠ some doc.writerGeneration)
      "stale writer cannot admit an action"
    P.verifyAuthorizedAction doc.authorityID action fields request fence (h.clock 1)
    match doc.actions.get? action.stableActionID with
    | some existing =>
      refuse (existing.exactRequestDigest ≠ action.exactRequestDigest)
        "semantic action identity conflicts with prior request"
      pure (.keep existing)
    | none =>
      let next ← validateAndAdvanceOutcomeJournalAuthorityHead P doc action fields request fence
      let next ← admitOptionalReservation P h next reservation
      let resolution := resolutionOf action .prepared [] 1
      pure (.store (recordAction next action resolution) resolution)

def snapshot : Operation (UInt64 × PortfolioLimits × List ExposureReservation) where
  expires := true
  body doc := pure (.keep (doc.portfolioRevision, doc.limits,
    (doc.reservations.entries.map (·.2)).insertionSort fun a b => a.reservationID ≤ b.reservationID))

def checkReservationCapacity (candidate : ExposureReservation) : Operation Unit where
  expires := true
  body doc := do
    admitReservation P h.range doc candidate
    pure (.keep ())

end OpenFox.Authority
