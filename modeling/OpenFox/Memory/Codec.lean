/-
An encoder that meets the laws of `JSON.Lawful`: the fields of a message between braces, each with its end marked.
-/
import OpenFox.Memory.JSONL
import OpenFox.Base.Wire

namespace OpenFox.Memory

open OpenFox.Agent OpenFox.Base

namespace Fields

def role : Wire Role :=
  Wire.nat.via (fun r => match r with | .system => 0 | .user => 1 | .assistant => 2 | .tool => 3)
    (fun n => match n with | 0 => .system | 1 => .user | 2 => .assistant | _ => .tool) fun r => by cases r <;> rfl

def provenance : Wire Provenance :=
  Wire.nat.via (fun p => match p with | .missing => 0 | .authenticated => 1 | .trustedLocal => 2 | .unattributed => 3)
    (fun n => match n with | 0 => .missing | 1 => .authenticated | 2 => .trustedLocal | _ => .unattributed) fun p => by
      cases p <;> rfl

def moderation : Wire Moderation :=
  Wire.nat.via (fun a => match a with | .none => 0 | .hide => 1 | .restore => 2)
    (fun n => match n with | 0 => .none | 1 => .hide | _ => .restore) fun a => by cases a <;> rfl

def toolCall : Wire ToolCall :=
  (Wire.string.pair (Wire.string.pair Wire.string)).via (fun c => (c.id, c.name, c.arguments))
    (fun (a, b, c) => ⟨a, b, c⟩) fun _ => rfl

def origin : Wire Origin :=
  (Wire.string.pair
    (Wire.string.pair (Wire.string.pair (Wire.string.pair (Wire.string.pair (Wire.string.pair Wire.uint64)))))).via
    (fun x => (x.agentID, x.endpointID, x.deviceID, x.eventID, x.conversationID, x.kind, x.receivedAtUnix))
    (fun (a, b, c, d, e, f, g) => ⟨a, b, c, d, e, f, g⟩) fun _ => rfl

end Fields

abbrev StoredMessage := { m : Message // persisted m = m }

def StoredMessage.of (m : Message) : StoredMessage := ⟨persisted m, rfl⟩

open Fields in
def fieldsOfText : Wire StoredMessage :=
  (role.pair (Wire.string.pair (Wire.string.pair (Wire.string.list.pair (Wire.string.list.pair (Wire.string.pair
    (Wire.string.list.pair (toolCall.list.pair (Wire.string.pair (origin.list.pair (provenance.pair (Wire.string.pair
    (Wire.string.pair (moderation.pair (Wire.uint64.pair (Wire.string.pair Wire.bool)))))))))))))))).via
    (fun ⟨m, _⟩ => (m.role, m.content, m.modelName, m.media, m.attachments, m.reasoningContent, m.systemParts,
      m.toolCalls, m.toolCallID, m.actionOrigins, m.actionProvenanceState, m.sourceEventID, m.sourceRoomID,
      m.roomModerationAction, m.roomModerationRevision, m.roomModerationDecisionID, m.moderationSynthetic))
    (fun (role, content, modelName, media, attachments, reasoningContent, systemParts, toolCalls, toolCallID,
        actionOrigins, actionProvenanceState, sourceEventID, sourceRoomID, roomModerationAction,
        roomModerationRevision, roomModerationDecisionID, moderationSynthetic) =>
      ⟨{ role, content, modelName, media, attachments, reasoningContent, systemParts, toolCalls, toolCallID,
         actionOrigins, actionProvenanceState, sourceEventID, sourceRoomID, roomModerationAction,
         roomModerationRevision, roomModerationDecisionID, moderationSynthetic }, rfl⟩)
    fun ⟨_, h⟩ => Subtype.ext h

def braced : JSON where
  marshal m := [123] ++ fieldsOfText.enc (.of m) ++ [125]
  unmarshal line :=
    if line.getLast? = some 125 then
      match fieldsOfText.dec line.tail.dropLast with
      | some (m, []) => some m.1
      | _ => none
    else none

theorem braced_lawful : braced.Lawful where
  round_trip m := by
    have hdec := fieldsOfText.dec_enc (.of m) []
    rw [List.append_nil] at hdec
    dsimp only [braced]
    rw [List.getLast?_concat, if_pos rfl, List.append_assoc, List.singleton_append, List.tail_cons,
      List.dropLast_concat, hdec]
    rfl
  persisted _ := rfl
  nonempty _ := List.cons_ne_nil _ _
  plain m b hb := by
    have hlow : 32 ≤ b := by
      simp only [braced, List.mem_append, List.mem_singleton] at hb
      rcases hb with (rfl | hb) | rfl
      · decide
      · exact (fieldsOfText.printable _ b hb).1
      · decide
    exact ⟨by rintro rfl; exact absurd hlow (by decide), by rintro rfl; exact absurd hlow (by decide)⟩
  torn m n hn := by
    -- The closing brace is the last byte and stands nowhere else.
    have hn : n ≤ ([123] ++ fieldsOfText.enc (.of m)).length := by simpa [braced, Nat.lt_succ_iff] using hn
    have hlast : (([123] ++ fieldsOfText.enc (.of m) ++ [125]).take n).getLast? ≠ some 125 := by
      rw [List.take_append_of_le_length hn]
      intro hmem
      rcases List.mem_append.1 (List.mem_of_mem_take (List.mem_of_getLast? hmem)) with hmem | hmem
      · exact absurd (List.mem_singleton.1 hmem) (by decide)
      · exact absurd (fieldsOfText.printable _ _ hmem).2 (by decide)
    dsimp only [braced]
    rw [if_neg hlast]

/-- Maps are visited as they were written. -/
def Sample.asWritten : Go.RangeOrder := ⟨fun _ l => l, fun _ l => List.Perm.refl l⟩

end OpenFox.Memory
