/-
A session whose appends may be torn by a crash. `addMsgLocked` appends a line without looking at how the file ends, and
the readers skip a line that is not a message and fail at one that is too long. So what was stored is read back while
every append meets an ended file and every line fits; behind a torn line the next message is lost.
-/
import OpenFox.Memory.History
import OpenFox.Memory.Codec
import OpenFox.Base.Run

namespace OpenFox.Memory

open OpenFox.Go OpenFox.Agent OpenFox.Base

/-- Calls on one session, and appends of which only the first `n` bytes reach the file. -/
inductive TornEvent
  | add (now : Nat) (m : Message)
  | torn (m : Message) (n : Nat)
  | truncate (now : Nat) (keepLast : Int)
  | compact (now : Nat)
  | set (now : Nat) (history : List Message)
deriving DecidableEq, Repr

/-- A session's files, and the messages that were stored and neither truncated nor replaced since. -/
structure TornSession where
  files : SessionFiles := {}
  kept : List Message := []

namespace TornSession

section
variable (json : JSON) (key : String)

/-- A restart changes nothing: the store keeps no session in memory. -/
def step (s : TornSession) : TornEvent → TornSession
  | .add now m => { files := s.files.addMsg json key now m, kept := s.kept ++ [persisted m] }
  | .torn m n =>
    if isTransientAssistantThought m = true then s
    else
      { files := s.files.appendBytes ((json.marshal m ++ [newline]).take n)
        kept := s.kept ++ if (json.marshal m).length ≤ n then [persisted m] else [] }
  | .truncate now keepLast =>
    match s.files.truncateHistory json key now keepLast with
    | .ok f => { files := f, kept := s.kept.drop (s.kept.length - keepLast.toNat) }
    | .error _ => s
  | .compact now =>
    match s.files.compact json key now with
    | .ok f => { s with files := f }
    | .error _ => s
  | .set now history =>
    match s.files.setHistory json key now history with
    | .ok f =>
      { files := f, kept := (filterInvalidHistoryMessages (SessionFiles.historyToSet history s.kept)).map persisted }
    | .error _ => s

/-- Appends meet an ended file, and what is written fits a line. -/
def Sound (s : TornSession) : TornEvent → Prop
  | .add _ m => s.files.Ended ∧ isTransientAssistantThought m = false ∧ Fits json m
  | .torn m n => s.files.Ended ∧ ((json.marshal m).take n).length < maxLineSize
  | .set _ history => ∀ m ∈ filterInvalidHistoryMessages (SessionFiles.historyToSet history s.kept), Fits json m
  | .truncate .. | .compact _ => True

instance (s : TornSession) (e : TornEvent) : Decidable (s.Sound json e) := by
  unfold Sound
  split <;> infer_instance

/-- The files hold what was kept, and nothing is moderated. -/
structure Read (s : TornSession) : Prop where
  holds : Holds json key s.files s.kept
  unmoderated : s.files.moderation = none

end

section
variable {json : JSON} {key : String} {s : TornSession}

theorem read_step (hjson : json.Lawful) (s : TornSession) (e : TornEvent) (h : s.Read json key) (he : s.Sound json e) :
    (s.step json key e).Read json key := by
  cases e with
  | add now m =>
    obtain ⟨hended, hm, hfits⟩ := he
    have hadd : s.files.addMsg json key now m = s.files.addMsgLocked json key now m := by
      unfold SessionFiles.addMsg
      rw [if_neg (by rw [hm]; decide)]
    dsimp only [step]
    rw [hadd]
    exact ⟨h.holds.addMsgLocked hjson hended now hm hfits, h.unmoderated⟩
  | torn m n =>
    dsimp only [step]
    split
    · exact h
    · rename_i hm
      exact ⟨h.holds.torn hjson he.1 (by simpa using hm) he.2, h.unmoderated⟩
  | truncate now keepLast =>
    obtain ⟨f, hf, _, hmoderation, hholds⟩ := h.holds.truncateHistory now keepLast
    dsimp only [step]
    rw [hf]
    exact ⟨hholds, hmoderation.trans h.unmoderated⟩
  | compact now =>
    obtain ⟨f, hf, _, hmoderation, hholds⟩ := h.holds.compact hjson now
    dsimp only [step]
    rw [hf]
    exact ⟨hholds, hmoderation.trans h.unmoderated⟩
  | set now history =>
    obtain ⟨f, hf, _, hmoderation, hholds⟩ := h.holds.setHistory hjson now history he
    dsimp only [step]
    rw [hf]
    exact ⟨hholds, hmoderation.trans h.unmoderated⟩

end

/-- In every run whose appends meet an ended file and whose lines fit the readers' buffer, `GetHistory` returns what
was stored and neither truncated nor replaced since. -/
theorem stored_messages_read_back {json : JSON} (hjson : json.Lawful) (key : String) (o : RangeOrder)
    (es : List TornEvent) (hsound : Along (step json key) (Sound json) {} es) :
    (exec (step json key) {} es).files.getHistory json key o = .ok (exec (step json key) {} es).kept := by
  have hread := invariant_along (read_step hjson) ⟨holds_empty, rfl⟩ hsound
  exact getHistory_of_unmoderated hread.unmoderated hread.holds.visible o

namespace Sample

def first : Message := userPromptMessage "a" []

def second : Message := userPromptMessage "b" []

end Sample

/-- The line of the first message is torn, the history is set anew, and the second message is stored. -/
theorem torn_then_set_read_back :
    (exec (step braced "k") {} [.torn Sample.first 3, .set 1 [], .add 2 Sample.second]).files.getHistory braced "k"
      Sample.asWritten =
      .ok [persisted Sample.second] := by
  have hrun : Along (step braced "k") (Sound braced) {} [.torn Sample.first 3, .set 1 [], .add 2 Sample.second] ∧
      (exec (step braced "k") {} [.torn Sample.first 3, .set 1 [], .add 2 Sample.second]).kept =
        [persisted Sample.second] := by
    decide +kernel
  rw [stored_messages_read_back braced_lawful "k" Sample.asWritten _ hrun.1, hrun.2]

/-- The line of the first message is torn; the second message is stored behind it and never returned. -/
theorem torn_line_swallows_next :
    let s := exec (step braced "k") {} [.torn Sample.first 3, .add 1 Sample.second]
    s.kept = [persisted Sample.second] ∧ s.files.getHistory braced "k" Sample.asWritten = .ok [] := by
  have hvisible : (exec (step braced "k") {} [.torn Sample.first 3, .add 1 Sample.second]).files.visible braced "k" =
    .ok [] := by
    decide +kernel
  exact ⟨rfl, getHistory_of_unmoderated rfl hvisible _⟩

/-! ## The session as a list -/

/-- What the calls do to the list of a session's messages. -/
def listStep (l : List Message) : TornEvent → List Message
  | .add _ m => if isTransientAssistantThought m = true then l else l ++ [persisted m]
  | .torn .. | .compact _ => l
  | .truncate _ keepLast => l.drop (l.length - keepLast.toNat)
  | .set _ history => (filterInvalidHistoryMessages history).map persisted

/-- No crash; what is written fits a line, and no message to set stands for a hidden one. -/
def Plain (json : JSON) : TornEvent → Prop
  | .add _ m => Fits json m
  | .torn .. => False
  | .set _ history => ∀ m ∈ history, Fits json m ∧ ¬ (m.roomModerationAction = .hide ∧ m.content = hiddenRoomMessage)
  | .truncate .. | .compact _ => True

/-- The files hold the list, can be appended to, and nothing is moderated. -/
structure Lists (json : JSON) (key : String) (f : SessionFiles) (l : List Message) : Prop where
  holds : Holds json key f l
  ended : f.Ended
  unmoderated : f.moderation = none

variable {json : JSON} {key : String} {f : SessionFiles} {l : List Message}

theorem historyToSet_plain {history : List Message} {now : Nat} (h : Plain json (.set now history))
    (stored : List Message) :
    SessionFiles.historyToSet history stored = filterInvalidHistoryMessages history := by
  refine (List.map_congr_left fun m hm => ?_).trans (List.map_id' _)
  exact if_neg (h m (List.mem_of_mem_filter hm)).2

theorem lists_step (hjson : json.Lawful) (h : Lists json key f l) {e : TornEvent} (he : Plain json e)
    (kept : List Message) :
    Lists json key (step json key ⟨f, kept⟩ e).files (listStep l e) := by
  cases e with
  | add now m =>
    dsimp only [step, listStep, SessionFiles.addMsg]
    split
    · exact h
    · rename_i hm
      exact ⟨h.holds.addMsgLocked hjson h.ended now (by simpa using hm) he, ended_addMsgLocked now m, h.unmoderated⟩
  | torn => exact he.elim
  | truncate now keepLast =>
    obtain ⟨f', hf, hjsonl, hmoderation, hholds⟩ := h.holds.truncateHistory now keepLast
    dsimp only [step]
    rw [hf]
    refine ⟨hholds, ?_, hmoderation.trans h.unmoderated⟩
    unfold SessionFiles.Ended
    rw [hjsonl]
    exact h.ended
  | compact now =>
    obtain ⟨f', hf, ⟨hended, -⟩, hmoderation, hholds⟩ := h.holds.compact hjson now
    dsimp only [step]
    rw [hf]
    exact ⟨hholds, hended h.ended, hmoderation.trans h.unmoderated⟩
  | set now history =>
    have hset : filterInvalidHistoryMessages (SessionFiles.historyToSet history l) =
      filterInvalidHistoryMessages history := by
      simp [historyToSet_plain he, filterInvalidHistoryMessages]
    obtain ⟨f', hf, ⟨hended, -⟩, hmoderation, hholds⟩ := h.holds.setHistory hjson now history
      (hset ▸ fun m hm => (he m (List.mem_of_mem_filter hm)).1)
    rw [hset] at hholds
    dsimp only [step]
    rw [hf]
    exact ⟨hholds, hended, hmoderation.trans h.unmoderated⟩

/-- From every file that ends with its last line, whatever its lines are, the history after calls is the list they
make of the messages the file holds. -/
theorem history_refines_list (hjson : json.Lawful) (o : RangeOrder) (es : List TornEvent) (hes : ∀ e ∈ es, Plain json e)
    (h : Lists json key f l) :
    (exec (step json key) ⟨f, l⟩ es).files.getHistory json key o = .ok (es.foldl listStep l) := by
  have hrun : ∀ (es : List TornEvent), (∀ e ∈ es, Plain json e) → ∀ (s : TornSession) {l}, Lists json key s.files l →
      Lists json key (exec (step json key) s es).files (es.foldl listStep l) := by
    intro es
    induction es with
    | nil => exact fun _ _ _ h => h
    | cons e es ih =>
      intro hes s l h
      have hstep := lists_step hjson h (hes e (List.mem_cons_self ..)) s.kept
      exact ih (fun e' he' => hes e' (List.mem_cons_of_mem e he')) _ hstep
  have hlists := hrun es hes ⟨f, l⟩ h
  exact getHistory_of_unmoderated hlists.unmoderated hlists.holds.visible o

/-- Behind a corrupt line that ends, a message is stored and returned. -/
theorem corrupt_line_skipped :
    (exec (step braced "k") ⟨{ jsonl := some [123, newline] }, []⟩ [.add 1 Sample.second]).files.getHistory braced "k"
      Sample.asWritten = .ok [persisted Sample.second] :=
  history_refines_list braced_lawful Sample.asWritten [.add 1 Sample.second]
    (List.forall_mem_singleton.2 (by decide +kernel : Fits braced Sample.second))
    ⟨⟨⟨[[123]], by decide +kernel, by decide, by decide +kernel⟩, List.forall_mem_nil _⟩, by decide +kernel, rfl⟩

/-- Behind a corrupt line that does not end, it is lost. -/
theorem corrupt_end_swallows_message :
    let f : SessionFiles := { jsonl := some [123] }
    f.visible braced "k" = .ok [] ∧ Plain braced (.add 1 Sample.second) ∧
      (f.addMsg braced "k" 1 Sample.second).getHistory braced "k" Sample.asWritten = .ok [] ∧
      listStep [] (.add 1 Sample.second) = [persisted Sample.second] := by
  have hvisible : (SessionFiles.addMsg braced "k" 1 { jsonl := some [123] } Sample.second).visible braced "k" =
    .ok [] := by
    decide +kernel
  exact ⟨by decide +kernel, (by decide +kernel : Fits _ _), getHistory_of_unmoderated rfl hvisible _, rfl⟩

end TornSession

end OpenFox.Memory
