/-
`JSONLStore`. A session is a file of messages, one a line, a file of metadata and one of moderation decisions, named by
the session's key with its separators replaced. A message is appended to the first; `TruncateHistory` moves an offset in
the metadata, and `Compact` and `SetHistory` write the file of messages anew. The files of metadata and of decisions are
replaced as a whole, so they are kept here as the values they decode to. A decision hides or restores the message of
one event: hidden content is replaced when a history is read, and put back when a history that was read is written.
-/
import OpenFox.Agent.Message
import OpenFox.Base.Lines
import OpenFox.Go.Map
import OpenFox.Go.Result
import OpenFox.Go.Search

namespace OpenFox.Memory

open OpenFox.Go OpenFox.Agent OpenFox.Base

/-! ## Room moderation -/

structure RoomModerationDecision where
  roomID : String
  targetEventID : String
  decisionEventID : String
  decisionRevision : UInt64
  action : Moderation
  reason : String := ""
deriving DecidableEq, Repr

abbrev Decisions := Map String RoomModerationDecision

def hiddenRoomMessage : String := "[message hidden by room moderation]"

/-- The event a message was received with. Older histories have it in the message's single origin only. -/
def sourceEvent (m : Message) : String :=
  match m.actionOrigins with
  | [origin] => if m.sourceEventID = "" ∧ m.role = .user then origin.eventID else m.sourceEventID
  | _ => m.sourceEventID

/-- A message under the decision on its event. A tombstone is dropped when its event is restored. -/
def projectMessage (decisions : Decisions) (m : Message) : Option Message :=
  match decisions.get? (sourceEvent m) with
  | none => some m
  | some decision =>
    let projected := { m with
      sourceEventID := sourceEvent m
      sourceRoomID := if m.sourceRoomID = "" then decision.roomID else m.sourceRoomID
      roomModerationAction := decision.action
      roomModerationRevision := decision.decisionRevision
      roomModerationDecisionID := decision.decisionEventID }
    if decision.action = .hide then some { projected with content := hiddenRoomMessage }
    else if m.moderationSynthetic = true then none
    else some projected

/-- The message that stands for a hidden event the history does not have. -/
def tombstone (target : String) (decision : RoomModerationDecision) : Message :=
  { role := .user, content := hiddenRoomMessage, sourceEventID := target, sourceRoomID := decision.roomID
    roomModerationAction := .hide, roomModerationRevision := decision.decisionRevision
    roomModerationDecisionID := decision.decisionEventID, moderationSynthetic := true }

/-- Some message of the history is under the decision on `target`. -/
def seesTarget (decisions : Decisions) (history : List Message) (target : String) : Bool :=
  history.any fun m => (decisions.get? (sourceEvent m)).any (·.targetEventID = target)

def projectRoomModeration (o : RangeOrder) (history : List Message) (decisions : Decisions) : List Message :=
  history.filterMap (projectMessage decisions) ++
    (decisions.range o 0).filterMap fun e =>
      if seesTarget decisions history e.1 = true ∨ e.2.action ≠ .hide then none else some (tombstone e.1 e.2)

/-- The content that is stored for an event, unless it is the text of a hidden message. -/
def originalContent (stored : List Message) (source : String) : Option String :=
  ((stored.filter fun m => sourceEvent m = source ∧ source ≠ "" ∧ m.content ≠ hiddenRoomMessage).getLast?).map
    (·.content)

def preserveMessage (stored : List Message) (m : Message) : Message :=
  if m.roomModerationAction = .hide ∧ m.content = hiddenRoomMessage then
    { m with content := (originalContent stored m.sourceEventID).getD m.content }
  else m

def preserveModeratedOriginals (next stored : List Message) : List Message := next.map (preserveMessage stored)

def invalidDecision (next : RoomModerationDecision) : Bool :=
  next.roomID = "" ∨ next.targetEventID = "" ∨ next.decisionEventID = "" ∨ next.decisionRevision = 0 ∨
    next.action = .none

/-- `AdvanceRoomModeration`: whether the decision is new, and the decisions then. -/
def advanceRoomModeration (current : Decisions) (next : RoomModerationDecision) : Except String (Bool × Decisions) :=
  if invalidDecision next = true then .error "invalid room moderation decision"
  else
    match current.get? next.targetEventID with
    | some prior =>
      if prior = next then .ok (false, current)
      else if prior.roomID ≠ next.roomID ∨ next.decisionRevision ≠ prior.decisionRevision + 1 then
        .error "room moderation revision is not the next decision"
      else .ok (true, current.put next.targetEventID next)
    | none =>
      if next.decisionRevision ≠ 1 then .error "first room moderation revision must be 1"
      else .ok (true, current.put next.targetEventID next)

/-! ## Without decisions -/

theorem projectRoomModeration_empty (o : RangeOrder) (history : List Message) :
    projectRoomModeration o history ∅ = history := by
  have hrange : (∅ : Decisions).range o 0 = [] := List.Perm.eq_nil (Map.range_perm o 0 ∅)
  have hproject : projectMessage ∅ = some := funext fun m => rfl
  unfold projectRoomModeration
  rw [hrange, hproject, List.filterMap_some]
  exact List.append_nil history

/-! ## Lines -/

/-- `encoding/json` on messages. -/
structure JSON where
  marshal : Message → List UInt8
  unmarshal : List UInt8 → Option Message

def newline : UInt8 := 10

def carriageReturn : UInt8 := 13

/-- What the encoder guarantees: a message is written without its prompt annotations, on one line, and read back; and
an object is not read from a part of it. -/
structure JSON.Lawful (json : JSON) : Prop where
  round_trip : ∀ m, json.unmarshal (json.marshal m) = some (persisted m)
  persisted : ∀ m, json.marshal (persisted m) = json.marshal m
  nonempty : ∀ m, json.marshal m ≠ []
  plain : ∀ m, ∀ b ∈ json.marshal m, b ≠ newline ∧ b ≠ carriageReturn
  torn : ∀ m, ∀ n < (json.marshal m).length, json.unmarshal ((json.marshal m).take n) = none

def maxLineSize : Nat := 10 * 1024 * 1024

/-- `bufio.ScanLines` drops a carriage return at the end of a line. -/
def dropCR (line : List UInt8) : List UInt8 := if line.getLast? = some carriageReturn then line.dropLast else line

/-- The non-empty lines of a file. A scanner fails at a line that does not fit its buffer with one byte to spare. -/
def scanLines (text : List UInt8) : Except String (List (List UInt8)) :=
  if ∀ line ∈ lines newline text, line.length < maxLineSize then .ok (((lines newline text).map dropCR).filter (· ≠ []))
  else .error "memory: scan jsonl: bufio.Scanner: token too long"

/-! ## The files of a session -/

structure SessionMeta where
  key : String
  summary : String := ""
  skip : Nat := 0
  count : Nat := 0
  createdAt : Nat := 0
  updatedAt : Nat := 0
  scope : String := ""
  aliases : List String := []
deriving DecidableEq, Repr

structure SessionFiles where
  jsonl : Option (List UInt8) := none
  metadata : Option SessionMeta := none
  moderation : Option Decisions := none

section
variable (json : JSON) (key : String) (now : Nat) (f : SessionFiles)

/-- A line's message, unless the line is corrupt or the message is not one to keep. -/
def lineMessage (line : List UInt8) : Option Message :=
  (json.unmarshal line).filter fun m => !isTransientAssistantThought m

def readMessages (jsonl : Option (List UInt8)) (skip : Nat) : Except String (List Message) :=
  match jsonl with
  | none => .ok []
  | some text => (scanLines text).map fun lines => (lines.drop skip).filterMap (lineMessage json)

/-- `scanRetainedMessageLines`: the number of lines, and the numbers of those with a message. -/
def scanRetainedMessageLines (jsonl : Option (List UInt8)) : Except String (Nat × List Nat) :=
  match jsonl with
  | none => .ok (0, [])
  | some text =>
    (scanLines text).map fun lines =>
      (lines.length, (lines.zipIdx 1).filterMap fun line => (lineMessage json line.1).map fun _ => line.2)

def filterInvalidHistoryMessages (history : List Message) : List Message :=
  history.filter fun m => !isTransientAssistantThought m

namespace SessionFiles

def readMeta : SessionMeta :=
  match f.metadata with
  | none => { key := key }
  | some m => if m.key = "" then { m with key := key } else m

def writeMeta (m : SessionMeta) : SessionFiles :=
  { f with metadata := some (if trimSpace m.key = "" then { m with key := key } else m) }

def readModeration : Except String Decisions :=
  match f.moderation with
  | none => .ok ∅
  | some decisions =>
    if decisions.all (fun target decision => decide (target = decision.targetEventID) && !invalidDecision decision) then
      .ok decisions
    else .error "memory: invalid room moderation decision"

def rewriteJSONL (messages : List Message) : SessionFiles :=
  { f with jsonl := some ((filterInvalidHistoryMessages messages).flatMap fun m => json.marshal m ++ [newline]) }

/-- The first write of `addMsgLocked`: the bytes that are appended. -/
def appendBytes (bytes : List UInt8) : SessionFiles := { f with jsonl := some (f.jsonl.getD [] ++ bytes) }

def addMsgLocked (m : Message) : SessionFiles :=
  let f := f.appendBytes (json.marshal m ++ [newline])
  let m := f.readMeta key
  f.writeMeta key { m with
    createdAt := if m.count = 0 ∧ m.createdAt = 0 then now else m.createdAt, count := m.count + 1, updatedAt := now }

/-- `addMsgLocked` with an error: the first bytes of the line have reached the file, or all that is written. -/
def addMsgFails (m : Message) : Option Nat → SessionFiles
  | some n => f.appendBytes ((json.marshal m ++ [newline]).take n)
  | none => f.addMsgLocked json key now m

/-- `AddMessage` and `AddFullMessage`. -/
def addMsg (m : Message) : SessionFiles :=
  if isTransientAssistantThought m = true then f else f.addMsgLocked json key now m

/-- The messages of a session that are not truncated, as they are stored. -/
def visible : Except String (List Message) := readMessages json f.jsonl (f.readMeta key).skip

def getHistory (o : RangeOrder) : Except String (List Message) := do
  let messages ← f.visible json key
  let decisions ← f.readModeration
  pure (projectRoomModeration o messages decisions)

def applyRoomModeration (decision : RoomModerationDecision) : Except String (Bool × SessionFiles) := do
  let decisions ← f.readModeration
  let (changed, decisions) ← advanceRoomModeration decisions decision
  pure (changed, if changed = true then { f with moderation := some decisions } else f)

def getSummary : String := (f.readMeta key).summary

def setSummary (summary : String) : SessionFiles :=
  let m := f.readMeta key
  f.writeMeta key { m with
    createdAt := if m.createdAt = 0 then now else m.createdAt, summary := summary, updatedAt := now }

def truncateHistory (keepLast : Int) : Except String SessionFiles := do
  let m := f.readMeta key
  let (rawCount, retained) ← scanRetainedMessageLines json f.jsonl
  let skip := if m.skip > rawCount then rawCount else m.skip
  let activeStart := sortSearch retained.length fun i => (retained[i]?).any (skip < ·)
  let activeRetainedCount := retained.length - activeStart
  let skip :=
    if keepLast ≤ 0 ∨ activeRetainedCount = 0 then rawCount
    else if keepLast < activeRetainedCount then (retained.drop activeStart).getD
      (activeRetainedCount - keepLast.toNat - 1) 0
    else skip
  pure (f.writeMeta key { m with skip := skip, count := rawCount, updatedAt := now })

/-- What `SetHistory` writes. -/
def historyToSet (history stored : List Message) : List Message :=
  preserveModeratedOriginals (filterInvalidHistoryMessages history) stored

def setHistory (history : List Message) : Except String SessionFiles := do
  let m := f.readMeta key
  let stored ← f.visible json key
  let history := historyToSet history stored
  let f := f.writeMeta key { m with
    createdAt := if m.createdAt = 0 then now else m.createdAt, skip := 0, count := history.length, updatedAt := now }
  pure (f.rewriteJSONL json history)

def compact : Except String SessionFiles :=
  let m := f.readMeta key
  if m.skip = 0 then .ok f
  else do
    let active ← f.visible json key
    let f := f.writeMeta key { m with skip := 0, count := active.length, updatedAt := now }
    pure (f.rewriteJSONL json active)

def normalizeAliases (canonicalKey : String) (aliases : List String) : List String :=
  (aliases.map trimSpace).foldl (fun normalized other =>
    if other = "" ∨ other = trimSpace canonicalKey ∨ other ∈ normalized then normalized else normalized ++ [other]) []

def upsertSessionMeta (scope : String) (aliases : List String) : SessionFiles :=
  let m := f.readMeta key
  f.writeMeta key { m with
    scope := scope, aliases := normalizeAliases key aliases, createdAt := if m.createdAt = 0 then now else m.createdAt,
    updatedAt := now }

end SessionFiles

/-! ## Authenticated input -/

/-- `^evt_[0-9a-f]{64}$`. -/
def isMessengerEventID (eventID : String) : Bool :=
  let rest := eventID.toList.drop 4
  eventID.toList.take 4 = "evt_".toList ∧ rest.length = 64 ∧
    rest.all fun c => ('0' ≤ c && c ≤ '9') || ('a' ≤ c && c ≤ 'f')

/-- `ValidateAuthenticatedInbound`. -/
def validAuthenticatedInbound (m : Message) (eventID : String) : Bool :=
  isMessengerEventID eventID ∧ m.role = .user ∧ m.sourceEventID = eventID ∧ m.actionProvenanceState = .authenticated ∧
    m.actionOrigins.map (·.eventID) = [eventID] ∧ (trimSpace m.content ≠ "" ∨ m.media ≠ [])

def sameAuthenticatedInbound (a b : Message) : Bool := persisted a = persisted b

/-- `ApplyAuthenticatedInbound`: whether the message was applied. -/
def SessionFiles.applyAuthenticatedInbound (eventID : String) (m : Message) : Except String (Bool × SessionFiles) := do
  refuse (validAuthenticatedInbound m eventID = false) "memory: invalid authenticated inbound message"
  let history ← f.visible json key
  match history.find? (·.sourceEventID = eventID) with
  | some existing =>
    refuse (sameAuthenticatedInbound existing m = false) "memory: authenticated Event ID substitution"
    pure (false, f)
  | none => pure (true, f.addMsgLocked json key now m)

end

end OpenFox.Memory
