/-
The sessions of one store. A session's files are named by its key with `:`, `/` and `\` replaced by `_` (the endings of
the three names differ), so calls on a key leave the sessions with another name alone, and two keys with one name share
a session.
-/
import OpenFox.Memory.Codec
import OpenFox.Base.Run

namespace OpenFox.Memory

open OpenFox.Go OpenFox.Agent OpenFox.Base

def sanitizeKey (key : String) : String :=
  String.ofList (key.toList.map fun c => if c = ':' ∨ c = '/' ∨ c = '\\' then '_' else c)

abbrev SessionDir := String → SessionFiles

/-- The calls on one session that write. -/
inductive SessionCall
  | addFullMessage (m : Message)
  | applyAuthenticatedInbound (eventID : String) (m : Message)
  | applyRoomModeration (decision : RoomModerationDecision)
  | setSummary (summary : String)
  | truncateHistory (keepLast : Int)
  | setHistory (history : List Message)
  | compact
  | upsertSessionMeta (scope : String) (aliases : List String)

/-- Calls on the session of a key, and `PromoteAliasHistory`. -/
inductive StoreEvent
  | call (key : String) (now : Nat) (c : SessionCall)
  | promote (key : String) (now : Nat) (scope : String) (aliases : List String)

/-- The session an operation is addressed to. `PromoteAliasHistory` trims its key. -/
def StoreEvent.key : StoreEvent → String
  | .call key .. => key
  | .promote key .. => trimSpace key

section
variable (json : JSON) (sha256Hex : String → String) (key : String) (now : Nat) (scope : String)

/-- The files after a call; a call that fails writes nothing. -/
def SessionCall.run (f : SessionFiles) : SessionCall → SessionFiles
  | .addFullMessage m => f.addMsg json key now m
  | .applyAuthenticatedInbound eventID m =>
    ((f.applyAuthenticatedInbound json key now eventID m).map Prod.snd).toOption.getD f
  | .applyRoomModeration decision => ((f.applyRoomModeration decision).map Prod.snd).toOption.getD f
  | .setSummary summary => f.setSummary key now summary
  | .truncateHistory keepLast => (f.truncateHistory json key now keepLast).toOption.getD f
  | .setHistory history => (f.setHistory json key now history).toOption.getD f
  | .compact => (f.compact json key now).toOption.getD f
  | .upsertSessionMeta scope aliases => f.upsertSessionMeta key now scope aliases

/-- The main session's key, or its opaque form. -/
def isMainSessionAlias (other : String) : Bool :=
  ("agent:".toList.isPrefixOf other.toList && ":main".toList.isSuffixOf other.toList && other.toList.count ':' == 2) ||
    ["main", "Main", "MAIN"].any fun agentID => "sk_v1_" ++ sha256Hex ("agent:" ++ agentID ++ ":main") == other

/-- `promoteAliasHistoryLocked`: the canonical session's files, if it takes over the history of the other one. -/
def promoteAliasHistoryLocked (dir : SessionDir) (aliases : List String) (other : String) :
    Except String (Option SessionFiles) := do
  let f := dir (sanitizeKey key)
  let m := f.readMeta key
  if trimSpace m.summary ≠ "" then return none
  let history ← f.visible json key
  if history ≠ [] then return none
  let source := dir (sanitizeKey other)
  let sourceHistory ← source.visible json other
  let summary := trimSpace (source.readMeta other).summary
  if sourceHistory = [] ∧ summary = "" then return none
  return some ((f.rewriteJSONL json sourceHistory).writeMeta key { m with
    createdAt := if m.createdAt = 0 then now else m.createdAt, scope := scope
    aliases := SessionFiles.normalizeAliases key aliases, skip := 0, count := sourceHistory.length, updatedAt := now
    summary := if summary ≠ "" then summary else m.summary })

/-- The rounds of `PromoteAliasHistory`. -/
def promoteRounds (dir : SessionDir) (aliases : List String) : List String → SessionDir
  | [] => dir
  | other :: rest =>
    if isMainSessionAlias sha256Hex other = true then promoteRounds dir aliases rest
    else
      match promoteAliasHistoryLocked json key now scope dir aliases other with
      | .ok none => promoteRounds dir aliases rest
      | .ok (some f) => Function.update dir (sanitizeKey key) f
      | .error _ => dir

def SessionDir.step (dir : SessionDir) : StoreEvent → SessionDir
  | .call key now c => Function.update dir (sanitizeKey key) (c.run json key now (dir (sanitizeKey key)))
  | .promote key now scope aliases =>
    if trimSpace key = "" then dir
    else
      let aliases := SessionFiles.normalizeAliases (trimSpace key) aliases
      promoteRounds json sha256Hex (trimSpace key) now scope dir aliases aliases

end

section
variable {json : JSON} {sha256Hex : String → String}

theorem promoteRounds_other {dir : SessionDir} {key name : String} {now : Nat} {scope : String} {aliases : List String}
    (hname : name ≠ sanitizeKey key) :
    ∀ rounds, promoteRounds json sha256Hex key now scope dir aliases rounds name = dir name
  | [] => rfl
  | other :: rest => by
    rw [promoteRounds]
    split
    · exact promoteRounds_other hname rest
    · rcases promoteAliasHistoryLocked json key now scope dir aliases other with _ | _ | f
      · rfl
      · exact promoteRounds_other hname rest
      · exact Function.update_of_ne hname ..

theorem step_other (dir : SessionDir) {e : StoreEvent} {name : String} (hname : sanitizeKey e.key ≠ name) :
    dir.step json sha256Hex e name = dir name := by
  cases e with
  | call key now c => exact Function.update_of_ne hname.symm ..
  | promote key now scope aliases =>
    dsimp only [SessionDir.step]
    split
    · rfl
    · exact promoteRounds_other hname.symm _

/-- Operations addressed to keys whose sanitized form is not that of `k` change nothing that is returned for `k`. -/
theorem sessions_isolated (json : JSON) (sha256Hex : String → String) (dir : SessionDir) (k : String)
    (es : List StoreEvent) (hes : ∀ e ∈ es, sanitizeKey e.key ≠ sanitizeKey k) (o : RangeOrder) :
    let before := dir (sanitizeKey k)
    let after := exec (SessionDir.step json sha256Hex) dir es (sanitizeKey k)
    after.getHistory json k o = before.getHistory json k o ∧ after.getSummary k = before.getSummary k ∧
      after.readMeta k = before.readMeta k ∧ after.readModeration = before.readModeration := by
  have hsame : exec (SessionDir.step json sha256Hex) dir es (sanitizeKey k) = dir (sanitizeKey k) :=
    invariant_along
      (fun d _ hd he => (step_other d he).trans hd) rfl (along_of_forall hes)
  intro before after
  rw [show after = before from hsame]
  exact ⟨rfl, rfl, rfl, rfl⟩

end

theorem other_session_untouched :
    (exec (SessionDir.step braced id) (fun _ => {}) [.call "a:b" 1 (.setSummary "x")] (sanitizeKey "c")).getSummary
      "c" = "" :=
  (sessions_isolated braced id (fun _ => {}) "c" [.call "a:b" 1 (.setSummary "x")] (by decide +kernel)
    Sample.asWritten).2.1

/-- Two keys with one sanitized form. -/
theorem colliding_keys_share_session :
    "a:b" ≠ "a_b" ∧
      (exec (SessionDir.step braced id) (fun _ => {}) [.call "a:b" 1 (.setSummary "x")] (sanitizeKey "a_b")).getSummary
        "a_b" = "x" := by
  decide +kernel

end OpenFox.Memory
