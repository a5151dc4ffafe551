/-
A small concrete protocol, journal identity and writer for runs of the outcome journal that can be evaluated. Digests
are told apart by the sequence they are taken over; the gap-set digest tells the nil list from the empty one.
-/
import OpenFox.Earning.OutcomeHead
import OpenFox.Earning.OutcomeRecorder

namespace OpenFox.Earning.Sample

open OpenFox.Go OpenFox.Commerce
open OpenFox.Authority (canonicalSHA256)

/-- `sha256:` and 64 times one digit. -/
def digest (digit : Char) : String := String.ofList ("sha256:".toList ++ List.replicate 64 digit)

/-- A digit for the first few sequences. -/
def digitOf (sequence : UInt64) : Char :=
  if sequence = 1 then '1' else if sequence = 2 then '2' else if sequence = 3 then '3' else '4'

def letterOf (sequence : UInt64) : Char :=
  if sequence = 1 then 'a' else if sequence = 2 then 'b' else if sequence = 3 then 'c' else 'd'

theorem canonical_digitOf (sequence : UInt64) : canonicalSHA256 (digest (digitOf sequence)) = true := by
  unfold digitOf
  split
  · decide +kernel
  · split
    · decide +kernel
    · split <;> decide +kernel

theorem canonical_letterOf (sequence : UInt64) : canonicalSHA256 (digest (letterOf sequence)) = true := by
  unfold letterOf
  split
  · decide +kernel
  · split
    · decide +kernel
    · split <;> decide +kernel

def outcome : OutcomeProtocol where
  orderingDomainDigest _ := .ok (digest '5')
  gapSetDigest
    | none => .ok "nil"
    | some gaps => .ok (String.ofList ('g' :: gaps.map digitOf))
  recordDigest r := .ok (digest (digitOf r.sequence))
  headBytes h := 1000 + 8 * h.gaps.length
  recordBytes _ := 1000
  archiveBytes a := 1000 + 1000 * a.records.length
  envelopeDigest e := .ok (digest (letterOf e.body.sequence))
  verifyEnvelope e payload resolver time :=
    if resolver e.body.actorAgentID e.body.authorizationRef "key" time "history" then .ok ⟨"resolution", payload⟩
    else .error "key is not authorized"
  verifyArtifacts _ _ := .ok ()
  decodeEvent payload := .ok ⟨"resolution", payload⟩
  decodeAssertion payload := .ok ⟨payload, "exact request", "action", "resolution", .terminal, 1⟩
  outcomeProfile := "outcome"
  actionResolutionProfile := "resolution"
  appendFields _ _ _ _ sequence _ := .ok ((∅ : SemanticFields).put "sequence" (.u64 sequence))
  stableActionID _ _ := .ok "append"
  requestBytes _ := .ok "request"
  exactRequestDigest _ := .ok "request digest"
  fenceDigest _ := .ok "fence digest"
  verifyAction _ _ _ _ _ _ := .ok ()
  verifyWriterFence fence _ _ := (decodeOutcomeJournalFenceKey fence.publicKey).map fun _ => ()
  confirmCurrentWriterFence _ _ := .ok ()
  actionDigest _ := .ok "action"
  resolutionDigest _ := .ok "resolution"
  validateActionResolution _ := .ok ()
  validateProfileRef _ := .ok ()
  assertionBytes a := .ok a.stableActionID
  observationEvent action payload := .ok (action, payload)
  emptyEvidence := ""
  deriveOperationID _ := .ok "operation"
  signOperation body _ _ _ := .ok ⟨body, "signature"⟩
  operationPublicKey _ := "key"
  buildAuthorizedAction action _ _ _ := .ok { action with
    actionKind := outcomeJournalScope
    stableActionID := "append"
    exactRequestDigest := "request digest"
    writerFenceDigest := "fence digest" }

theorem outcomeDigests : CanonicalDigests outcome where
  envelope {e d} hd := by
    cases hd
    exact canonical_letterOf _
  record {r c} hc := by
    cases hc
    exact canonical_digitOf _

def identity : JournalIdentity := ⟨"owner", "agent", "authority", "outcomes", digest '6'⟩

def fence (generation : UInt64) : SignedFence where
  body := ⟨1, "owner", "agent", "instance", "lease", generation, 10, 1000, "authority", [outcomeJournalScope]⟩
  proof := ""
  publicKey := String.ofList ("ed25519:".toList ++ List.replicate 64 '7')

def now : Time := 20 * 1000000000

def action (digit : Char) : SignedAction where
  authorityID := "authority"
  ownerID := "owner"
  agentID := "agent"
  actionKind := "work"
  stableActionID := digest digit
  exactRequestDigest := "exact request"
  writerGeneration := 1
  policyRevision := 1
  mandateDigest := ""
  approvalDigest := ""
  expiresAtUnix := 1000
  proof := ""
  writerFenceDigest := "fence digest"

def resolution (digit : Char) : ActionResolution where
  stableActionID := digest digit
  exactRequestDigest := "exact request"
  state := .terminal
  stateRevision := 1

def writer (generation : UInt64) : JournalOutcomeRecorder :=
  ⟨"network", "audience", "profile", "secret", "history", fence generation⟩

/-- An authority that signs, admits and settles everything under its own fence. -/
def authority : AppendAuthority where
  signAction a _ := .ok a
  admitAction a _ _ fence := if a.authorityID = fence.body.authorityID then
    .ok .prepared else .error "fence of another authority"
  transition _ _ _ _ := .ok ()
  resolve _ _ := .terminal
  resolveAuthorizedAction := none

def record (generation : UInt64) (digit : Char) : OutcomeCall :=
  .record (writer generation) authority (action digit) (resolution digit) now

/-- The append of sequence `n`, after the gaps the head has. -/
def commitOf (head : OutcomeJournalHead) (sequence : UInt64) : CommitRequest where
  sequence := sequence
  envelope := ⟨{ (default : OperationBody) with
    actorAgentID := "agent", orderingDomain := head.orderingDomain, epoch := head.writerGeneration, sequence :=
      sequence,
    objectID := "event", operationID := "operation", authorizationRef := "profile", payloadProfile := "outcome" },
    "signature"⟩
  payload := "payload"
  artifacts := ⟨"payload", ""⟩
  resolver := selfResolver
  now := now
  admission := some {
    request := ⟨head.orderingDomain, head.writerGeneration, sequence, "event", digest (letterOf sequence),
      String.ofList ('g' :: head.gaps.map digitOf)⟩
    action := { action '8' with
      actionKind := outcomeJournalScope
      stableActionID := "append"
      exactRequestDigest := "request digest" }
    fence := fence head.writerGeneration }
  source := none

def afterGap : OutcomeJournalHead := { freshHead identity (digest '5') 1 with gapSequences := some [1] }

/-- Sequence 1 is given up; the process crashes after the record of sequence 2 is written and before the head is. -/
def crashedCommit : List OutcomeEvent :=
  [⟨.open (fence 1) now, []⟩, ⟨.reserve (fence 1) now, []⟩, ⟨.abort 1, []⟩, ⟨.reserve (fence 1) now, []⟩,
    ⟨.commit (commitOf afterGap 2), [.crashes .wholly]⟩]

end OpenFox.Earning.Sample
