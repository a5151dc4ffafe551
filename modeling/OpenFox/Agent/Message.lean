/-
`providers.Message` and the messages the agent makes itself, and `resolveMediaRefs`, which rewrites a list of
messages before a model sees it. The time a message was stored at is left out: nothing that is modelled reads it.
-/
import OpenFox.Go.Text

namespace OpenFox.Agent

open OpenFox.Go

/-! ## Messages -/

inductive Role
  | system | user | assistant | tool
deriving DecidableEq, Repr

/-- `actionauth.Origin`: the event a message was received with. -/
structure Origin where
  agentID : String
  endpointID : String
  deviceID : String
  eventID : String
  conversationID : String
  kind : String
  receivedAtUnix : UInt64
deriving DecidableEq, Repr

/-- `ActionProvenanceState`. -/
inductive Provenance
  | missing | authenticated | trustedLocal | unattributed
deriving DecidableEq, Repr

/-- `RoomModerationAction`. -/
inductive Moderation
  | none | hide | restore
deriving DecidableEq, Repr

/-- `PromptSource`, which is not part of a stored message. -/
inductive PromptSource
  | unset | userMessage | steering | toolResult | subTurnResult | interrupt | other
deriving DecidableEq, Repr

structure ToolCall where
  id : String
  name : String
  arguments : String := ""
deriving DecidableEq, Repr

structure Message where
  role : Role
  content : String := ""
  modelName : String := ""
  media : List String := []
  attachments : List String := []
  reasoningContent : String := ""
  systemParts : List String := []
  toolCalls : List ToolCall := []
  toolCallID : String := ""
  actionOrigins : List Origin := []
  actionProvenanceState : Provenance := .missing
  sourceEventID : String := ""
  sourceRoomID : String := ""
  roomModerationAction : Moderation := .none
  roomModerationRevision : UInt64 := 0
  roomModerationDecisionID : String := ""
  moderationSynthetic : Bool := false
  promptSource : PromptSource := .unset
deriving DecidableEq, Repr

def userPromptMessage (content : String) (media : List String) : Message :=
  { role := .user, content := content, media := media, promptSource := .userMessage }

def toolResultPromptMessage (content toolCallID : String) (media : List String) : Message :=
  { role := .tool, content := content, toolCallID := toolCallID, media := media, promptSource := .toolResult }

def toolImageFollowUpPromptMessage (media : List String) : Message :=
  { role := .user, content := "[Loaded image from tool result above]", media := media, promptSource := .toolResult }

def steeringPromptMessage (m : Message) : Message :=
  if m.promptSource = .unset then { m with promptSource := .steering } else m

def subTurnResultPromptMessage (content : String) : Message :=
  { role := .user, content := "[SubTurn Result] " ++ content, promptSource := .subTurnResult }

/-- A message as a session keeps it. -/
def persisted (m : Message) : Message := { m with promptSource := .unset }

/-- `IsTransientAssistantThoughtMessage`: such a message is not stored. -/
def isTransientAssistantThought (m : Message) : Bool :=
  m.role = .assistant ∧ trimSpace m.content = "" ∧ trimSpace m.reasoningContent ≠ "" ∧ m.toolCalls = [] ∧ m.media = [] ∧
    m.attachments = [] ∧ trimSpace m.toolCallID = ""

/-! ## Media references -/

/-- A file behind a `media://` reference: its path tag, and its data URL if it is an image that can be encoded. -/
structure MediaFile where
  tag : String
  image : Option String := none
deriving DecidableEq, Repr

/-- The media store, and how path tags are written into a text. -/
structure MediaStore where
  resolve : String → Option MediaFile
  injectPathTags : String → List String → String

def isMediaRef (ref : String) : Bool := "media://".toList.isPrefixOf ref.toList

namespace MediaStore

variable (store : MediaStore)

def files (m : Message) : List MediaFile := (m.media.filter isMediaRef).filterMap store.resolve

def resolveMessage (m : Message) : Message :=
  { m with
    media := m.media.filter fun ref => !isMediaRef ref
    content := if store.files m = [] then m.content else store.injectPathTags m.content ((store.files m).map (·.tag)) }

/-- The follow-up message with the images of a block of tool results. -/
def followUp (images : List String) : List Message :=
  if images = [] then [] else [toolImageFollowUpPromptMessage images]

/-- The images a message leaves for the follow-up. Those of earlier turns are not loaded again. -/
def images (m : Message) (current : Bool) : List String :=
  if m.role = .tool ∧ current = true then (store.files m).filterMap (·.image) else []

/-- The loop of `resolveMediaRefs`: `start` counts down to the current turn, `pending` are the images of the block of
tool messages that is being read. -/
def resolveLoop : List Message → Nat → List String → List Message
  | [], _, pending => followUp pending
  | m :: rest, start, pending =>
    let flushed := if m.role = .tool then [] else followUp pending
    let kept := if m.role = .tool then pending else []
    flushed ++ store.resolveMessage m :: resolveLoop rest (start - 1) (kept ++ store.images m (start == 0))

end MediaStore

def resolveMediaRefs (store : Option MediaStore) (messages : List Message) (currentTurnStart : Nat) : List Message :=
  match store with
  | none => messages
  | some store => store.resolveLoop messages currentTurnStart []

def resolveOne (store : Option MediaStore) (m : Message) : Message :=
  match store with
  | none => m
  | some store => store.resolveMessage m

section
variable {store : MediaStore}

@[simp] theorem resolveMessage_promptSource (m : Message) : (store.resolveMessage m).promptSource = m.promptSource :=
  rfl

theorem files_resolveMessage (m : Message) : store.files (store.resolveMessage m) = [] := by
  have hnone : (store.resolveMessage m).media.filter isMediaRef = [] := by
    rw [List.filter_eq_nil_iff]
    intro ref href
    have hplain := (List.mem_filter.1 href).2
    simpa using hplain
  unfold MediaStore.files
  rw [hnone]
  rfl

theorem resolveMessage_of_plain {m : Message} (hfiles : store.files m = [])
    (hmedia : m.media.filter (fun ref => !isMediaRef ref) = m.media) : store.resolveMessage m = m := by
  unfold MediaStore.resolveMessage
  rw [hfiles, if_pos rfl, hmedia]

theorem resolveMessage_resolveMessage (m : Message) :
    store.resolveMessage (store.resolveMessage m) = store.resolveMessage m :=
  resolveMessage_of_plain (files_resolveMessage m) (List.filter_eq_self.2 fun _ href => (List.mem_filter.1 href).2)

theorem followUp_promptSource {images : List String} {m : Message} (hm : m ∈ MediaStore.followUp images) :
    m.promptSource = .toolResult ∧ m.role = .user := by
  unfold MediaStore.followUp at hm
  split at hm
  · cases hm
  · rw [List.mem_singleton.1 hm]
    exact ⟨rfl, rfl⟩

end

@[simp] theorem resolveOne_role (store : Option MediaStore) (m : Message) : (resolveOne store m).role = m.role := by
  cases store <;> rfl

theorem resolveOne_resolveOne (store : Option MediaStore) (m : Message) :
    resolveOne store (resolveOne store m) = resolveOne store m := by
  cases store with
  | none => rfl
  | some store => exact resolveMessage_resolveMessage m

theorem resolveLoop_of_users (store : MediaStore) : ∀ {l} (start : Nat), (∀ m ∈ l, m.role = .user) →
    store.resolveLoop l start [] = l.map store.resolveMessage
  | [], _, _ => rfl
  | m :: rest, start, h => by
    have hm : m.role ≠ .tool := by
      rw [h m (List.mem_cons_self ..)]
      decide
    have hrest := resolveLoop_of_users store (start - 1) fun m' hm' => h m' (List.mem_cons_of_mem m hm')
    unfold MediaStore.resolveLoop MediaStore.images
    rw [if_neg hm, if_neg hm, if_neg fun himages => hm himages.1]
    simpa [MediaStore.followUp] using hrest

theorem resolveMediaRefs_of_users (store : Option MediaStore) {l : List Message} (start : Nat)
    (h : ∀ m ∈ l, m.role = .user) :
    resolveMediaRefs store l start = l.map (resolveOne store) := by
  cases store with
  | none => exact (List.map_id' _).symm
  | some store => exact resolveLoop_of_users store start h

end OpenFox.Agent
