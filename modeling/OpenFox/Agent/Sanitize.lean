/-
Tool exchanges in a list of messages: a message of the assistant with tool calls, and right after it one message of a
tool for each call, in order. `sanitizeHistoryForProvider` drops what would not be accepted by a provider; of a list of
exchanges that follow a user or another exchange it drops nothing.
-/
import OpenFox.Agent.Message
import Mathlib.Data.List.TakeWhile

namespace OpenFox.Agent

/-! ## sanitizeHistoryForProvider -/

def Message.hasToolCalls (m : Message) : Bool := m.role = .assistant ∧ m.toolCalls ≠ []

def Message.isTool (m : Message) : Bool := m.role = .tool

/-- The nearest message that is not a tool's is an assistant's with tool calls. -/
def answersCalls (sanitized : List Message) : Bool :=
  match sanitized.reverse.dropWhile (·.isTool) with
  | m :: _ => m.hasToolCalls
  | [] => false

/-- The first pass, for one message. -/
def sanitizeMessage (sanitized : List Message) (m : Message) : List Message :=
  match m.role with
  | .system => sanitized
  | .tool => if answersCalls sanitized = true then sanitized ++ [m] else sanitized
  | .assistant =>
    if m.toolCalls = [] then sanitized ++ [m]
    else
      match sanitized.getLast? with
      | none => sanitized
      | some prev => if prev.role ≠ .user ∧ prev.role ≠ .tool then sanitized else sanitized ++ [m]
  | .user => sanitized ++ [m]

/-- The results of a block that belong to its calls, each once. -/
def toolBlock (expected : List String) : List String → List Message → List Message
  | _, [] => []
  | seen, m :: tools =>
    if m.toolCallID = "" ∨ m.toolCallID ∉ expected ∨ m.toolCallID ∈ seen then toolBlock expected seen tools
    else m :: toolBlock expected (m.toolCallID :: seen) tools

/-- An assistant's message with the results of its calls, unless one is missing. -/
def toolExchange (m : Message) (tools : List Message) : List Message :=
  let ids := m.toolCalls.map (·.id)
  let expected := ids.filter (· ≠ "")
  let block := toolBlock expected [] tools
  if "" ∈ ids ∨ ∃ id ∈ expected, id ∉ block.map (·.toolCallID) then [] else m :: block

/-- The second pass. -/
def completeExchanges : List Message → List Message
  | [] => []
  | m :: rest =>
    if m.hasToolCalls = true then
      toolExchange m (rest.takeWhile (·.isTool)) ++ completeExchanges (rest.dropWhile (·.isTool))
    else if m.isTool = true then completeExchanges rest
    else m :: completeExchanges rest
termination_by l => l.length
decreasing_by
  · exact Nat.lt_succ_of_le (List.dropWhile_sublist _).length_le
  · exact Nat.lt_succ_self _
  · exact Nat.lt_succ_self _

def sanitizeHistoryForProvider (history : List Message) : List Message :=
  completeExchanges (history.foldl sanitizeMessage [])

theorem sanitizeHistoryForProvider_nil : sanitizeHistoryForProvider [] = [] := by
  unfold sanitizeHistoryForProvider
  rw [List.foldl_nil, completeExchanges]

/-! ## Exchanges -/

def Ready (l : List Message) : Prop := ∃ m, l.getLast? = some m ∧ (m.role = .user ∨ m.role = .tool)

def ValidCalls (calls : List ToolCall) : Prop := (∀ tc ∈ calls, tc.id ≠ "") ∧ (calls.map (·.id)).Nodup

instance (calls : List ToolCall) : Decidable (ValidCalls calls) := inferInstanceAs (Decidable (_ ∧ _))

def Message.Plain (m : Message) : Prop := m.isTool = false ∧ m.hasToolCalls = false

/-- Tool messages that answer the calls, in order. -/
def Answers (tools : List Message) (calls : List ToolCall) : Prop :=
  (∀ t ∈ tools, t.isTool = true) ∧ tools.map (·.toolCallID) = calls.map (·.id)

/-- Each message of the assistant with tool calls is followed at once by one tool message for each call, in order, and
tools have no other messages. In a strict list an exchange also comes after a user or a tool, and its calls are valid.
-/
inductive Whole (strict : Prop) : List Message → Prop
  | nil : Whole strict []
  | plain {l : List Message} {m : Message} (hl : Whole strict l) (hm : m.Plain) : Whole strict (l ++ [m])
  | exchange {l : List Message} {m : Message} {tools : List Message} (hl : Whole strict l) (hm : m.hasToolCalls = true)
      (htools : Answers tools m.toolCalls) (hstrict : strict → Ready l ∧ ValidCalls m.toolCalls) :
        Whole strict (l ++ m :: tools)

variable {strict : Prop} {m : Message} {tools l l' : List Message}

theorem plain_of_user (hm : m.role = .user) : m.Plain := by
  unfold Message.Plain Message.isTool Message.hasToolCalls
  simp [hm]

theorem isTool_of_hasToolCalls (hm : m.hasToolCalls = true) : m.isTool = false := by
  unfold Message.hasToolCalls at hm
  unfold Message.isTool
  grind

theorem Ready.append_right (h : Ready l) (l' : List Message) : Ready (l' ++ l) := by
  obtain ⟨m, hm, hrole⟩ := h
  exact ⟨m, by rw [List.getLast?_append, hm]; rfl, hrole⟩

theorem ready_snoc (l : List Message) (hm : m.role = .user ∨ m.role = .tool) : Ready (l ++ [m]) :=
  ⟨m, List.getLast?_concat, hm⟩

namespace Whole

theorem append (h : Whole strict l) (h' : Whole strict l') : Whole strict (l ++ l') := by
  induction h' with
  | nil => rwa [List.append_nil]
  | plain _ hm ih =>
    rw [← List.append_assoc]
    exact ih.plain hm
  | exchange _ hm htools hstrict ih =>
    rw [← List.append_assoc]
    exact ih.exchange hm htools fun hs => ⟨(hstrict hs).1.append_right l, (hstrict hs).2⟩

theorem of_plain : ∀ {l}, (∀ m ∈ l, m.Plain) → Whole strict l
  | [], _ => .nil
  | m :: _, h =>
    append (plain .nil (h m (List.mem_cons_self ..)) : Whole strict ([] ++ [m]))
      (of_plain fun m' hm' => h m' (List.mem_cons_of_mem m hm'))

theorem of_users (h : ∀ m ∈ l, m.role = .user) : Whole strict l := of_plain fun m hm => plain_of_user (h m hm)

theorem head_not_tool (h : Whole strict l) : ∀ m ∈ l.head?, m.isTool = false := by
  have hfirst : ∀ {l} {m} (tools : List Message), (∀ m ∈ l.head?, m.isTool = false) → m.isTool = false →
      ∀ m' ∈ (l ++ m :: tools).head?, m'.isTool = false := by
    intro l m tools hl hm
    cases l with
    | nil => simpa using hm
    | cons m' l => simpa using hl
  induction h with
  | nil => simp
  | plain _ hm ih => exact hfirst [] ih hm.1
  | exchange _ hm _ _ ih => exact hfirst _ ih (isTool_of_hasToolCalls hm)

end Whole

theorem ready_exchange (l : List Message) (hm : m.hasToolCalls = true) (htools : Answers tools m.toolCalls) :
    Ready (l ++ m :: tools) := by
  have hcalls : m.role = .assistant ∧ m.toolCalls ≠ [] := by simpa [Message.hasToolCalls] using hm
  have hsome : tools ≠ [] := by
    rintro rfl
    exact hcalls.2 (List.map_eq_nil_iff.1 htools.2.symm)
  refine ⟨tools.getLast hsome, ?_, .inr ?_⟩
  · rw [List.getLast?_append, List.getLast?_cons, List.getLast?_eq_some_getLast hsome]
    rfl
  · simpa [Message.isTool] using htools.1 _ (List.getLast_mem hsome)

/-! ## Media references -/

theorem resolveLoop_tools (store : MediaStore) : ∀ tools start pending,
    (∀ t ∈ tools, t.isTool = true) → ∃ pending', ∀ l, store.resolveLoop (tools ++ l) start pending =
      tools.map store.resolveMessage ++ store.resolveLoop l (start - tools.length) pending'
  | [], _, pending, _ => ⟨pending, fun _ => rfl⟩
  | t :: tools, start, pending, h => by
    have ht : t.role = .tool := by simpa [Message.isTool] using h t (List.mem_cons_self ..)
    obtain ⟨pending', hrest⟩ := resolveLoop_tools store tools (start - 1) (pending ++ store.images t (start == 0))
      fun t' ht' => h t' (List.mem_cons_of_mem t ht')
    refine ⟨pending', fun l => ?_⟩
    rw [List.cons_append, MediaStore.resolveLoop, if_pos ht, if_pos ht, hrest, List.length_cons, Nat.sub_sub,
      Nat.add_comm 1]
    rfl

theorem whole_followUp (images : List String) : Whole strict (MediaStore.followUp images) :=
  .of_users fun _ hm => (followUp_promptSource hm).2

/-- The follow-ups of tools come after the block of their results. -/
theorem whole_resolveLoop_append (store : MediaStore) (start : Nat) (h : Whole False l) :
    ∃ out pending, Whole False out ∧
      ∀ l', store.resolveLoop (l ++ l') start [] = out ++ store.resolveLoop l' (start - l.length) pending := by
  induction h with
  | nil => exact ⟨[], [], .nil, fun l' => rfl⟩
  | @plain l m _ hm ih =>
    obtain ⟨out, pending, hout, hloop⟩ := ih
    have hrole : m.role ≠ .tool := by simpa [Message.isTool] using hm.1
    refine ⟨out ++ MediaStore.followUp pending ++ [store.resolveMessage m], store.images m (start - l.length == 0),
      (hout.append (whole_followUp pending)).plain hm, fun l' => ?_⟩
    rw [List.append_assoc, hloop, List.singleton_append, MediaStore.resolveLoop, if_neg hrole, if_neg hrole,
      List.length_append, List.length_singleton, Nat.sub_sub]
    simp
  | @exchange l m tools _ hm htools _ ih =>
    obtain ⟨out, pending, hout, hloop⟩ := ih
    have hrole : m.role ≠ .tool := by simpa [Message.isTool] using isTool_of_hasToolCalls hm
    have hanswers : Answers (tools.map store.resolveMessage) (store.resolveMessage m).toolCalls := by
      refine ⟨fun t ht => ?_, ?_⟩
      · obtain ⟨t', ht', rfl⟩ := List.mem_map.1 ht
        exact htools.1 t' ht'
      · rw [List.map_map]
        exact htools.2
    obtain ⟨pending', htail⟩ := resolveLoop_tools store tools (start - l.length - 1)
      (store.images m (start - l.length == 0)) htools.1
    refine ⟨out ++ MediaStore.followUp pending ++ store.resolveMessage m :: tools.map store.resolveMessage, pending',
      (hout.append (whole_followUp pending)).exchange hm hanswers False.elim, fun l' => ?_⟩
    rw [List.append_assoc, hloop, List.cons_append, MediaStore.resolveLoop, if_neg hrole, if_neg hrole,
      List.nil_append, htail]
    simp only [List.length_append, List.length_cons, Nat.sub_sub, List.append_assoc, List.cons_append,
      Nat.add_comm tools.length, Nat.add_assoc]

theorem whole_resolveMediaRefs (store : Option MediaStore) (start : Nat) (h : Whole False l) :
    Whole False (resolveMediaRefs store l start) := by
  cases store with
  | none => exact h
  | some store =>
    obtain ⟨out, pending, hout, hloop⟩ := whole_resolveLoop_append store start h
    have hall := hloop []
    rw [List.append_nil] at hall
    show Whole False (store.resolveLoop l start [])
    rw [hall]
    exact hout.append (whole_followUp pending)

/-! ## What sanitizeHistoryForProvider keeps -/

/-- The second pass takes two lists apart where no block of results is cut. -/
theorem completeExchanges_append (l : List Message) (h : ∀ m ∈ l'.head?, m.isTool = false) :
    completeExchanges (l ++ l') = completeExchanges l ++ completeExchanges l' := by
  induction l using completeExchanges.induct with
  | case1 => rw [completeExchanges, List.nil_append, List.nil_append]
  | case2 m rest hcalls ih =>
    have hnone : l'.takeWhile (·.isTool) = [] ∧ l'.dropWhile (·.isTool) = l' := by
      cases l' with
      | nil => exact ⟨rfl, rfl⟩
      | cons m' l' => simp [h m' rfl]
    have htake : (rest ++ l').takeWhile (·.isTool) = rest.takeWhile (·.isTool) := by
      rw [List.takeWhile_append, hnone.1, List.append_nil]
      split
      · rename_i hall
        exact ((List.takeWhile_prefix _).eq_of_length hall).symm
      · rfl
    have hdrop : (rest ++ l').dropWhile (·.isTool) = rest.dropWhile (·.isTool) ++ l' := by
      rw [List.dropWhile_append, hnone.2]
      split
      · rename_i hempty
        rw [List.isEmpty_iff.1 hempty, List.nil_append]
      · rfl
    rw [List.cons_append, completeExchanges, completeExchanges, if_pos hcalls, if_pos hcalls, htake, hdrop, ih,
      List.append_assoc]
  | case3 m rest hcalls htool ih =>
    rw [List.cons_append, completeExchanges, completeExchanges, if_neg hcalls, if_neg hcalls, if_pos htool,
      if_pos htool, ih]
  | case4 m rest hcalls htool ih =>
    rw [List.cons_append, completeExchanges, completeExchanges, if_neg hcalls, if_neg hcalls, if_neg htool,
      if_neg htool, ih, List.cons_append]

theorem toolBlock_eq_self {expected : List String} : ∀ {seen} {tools},
    (∀ t ∈ tools, t.toolCallID ≠ "" ∧ t.toolCallID ∈ expected ∧ t.toolCallID ∉ seen) →
      (tools.map (·.toolCallID)).Nodup →
      toolBlock expected seen tools = tools
  | _, [], _, _ => rfl
  | seen, t :: tools, h, hnodup => by
    obtain ⟨hid, hexpected, hseen⟩ := h t (List.mem_cons_self ..)
    rw [List.map_cons, List.nodup_cons] at hnodup
    have hrest : toolBlock expected (t.toolCallID :: seen) tools = tools := by
      refine toolBlock_eq_self (fun t' ht' => ?_) hnodup.2
      obtain ⟨hid', hexpected', hseen'⟩ := h t' (List.mem_cons_of_mem t ht')
      refine ⟨hid', hexpected', fun hmem => ?_⟩
      rcases List.mem_cons.1 hmem with hsame | hmem
      · exact hnodup.1 (hsame ▸ List.mem_map_of_mem ht')
      · exact hseen' hmem
    rw [toolBlock, if_neg (by simp [hid, hexpected, hseen]), hrest]

theorem toolExchange_eq_self (htools : Answers tools m.toolCalls) (hvalid : ValidCalls m.toolCalls) :
    toolExchange m tools = m :: tools := by
  have hids : "" ∉ m.toolCalls.map (·.id) := fun hmem => by
    obtain ⟨tc, htc, hid⟩ := List.mem_map.1 hmem
    exact hvalid.1 tc htc hid
  have hexpected : (m.toolCalls.map (·.id)).filter (· ≠ "") = tools.map (·.toolCallID) := by
    rw [htools.2, List.filter_eq_self]
    intro id hid
    have hne : id ≠ "" := fun hempty => hids (hempty ▸ hid)
    simpa using hne
  have hblock : toolBlock (tools.map (·.toolCallID)) [] tools = tools := by
    refine toolBlock_eq_self (fun t ht => ?_) (htools.2 ▸ hvalid.2)
    have hmem : t.toolCallID ∈ tools.map (·.toolCallID) := List.mem_map_of_mem ht
    refine ⟨fun hempty => ?_, hmem, List.not_mem_nil⟩
    rw [hempty, htools.2] at hmem
    exact hids hmem
  unfold toolExchange
  dsimp only
  rw [hexpected, hblock, if_neg]
  rintro (hempty | ⟨id, hid, hmissing⟩)
  · exact hids hempty
  · exact hmissing hid

theorem completeExchanges_whole (h : Whole True l) : completeExchanges l = l := by
  induction h with
  | nil => rw [completeExchanges]
  | @plain l m _ hm ih =>
    have hone : completeExchanges [m] = [m] := by
      rw [completeExchanges, if_neg (by simp [hm.2]), if_neg (by simp [hm.1]), completeExchanges]
    rw [completeExchanges_append l (by simpa using hm.1), ih, hone]
  | @exchange l m tools _ hm htools hstrict ih =>
    have hone : completeExchanges (m :: tools) = m :: tools := by
      have htake := List.takeWhile_eq_self_iff.2 htools.1
      have hdrop := List.dropWhile_eq_nil_iff.2 htools.1
      rw [completeExchanges, if_pos hm, htake, hdrop, toolExchange_eq_self htools (hstrict trivial).2,
        completeExchanges, List.append_nil]
    rw [completeExchanges_append l (by simpa using isTool_of_hasToolCalls hm), ih, hone]

theorem answersCalls_append (hm : m.hasToolCalls = true) (l : List Message)
    (htools : ∀ t ∈ tools, t.isTool = true) : answersCalls (l ++ m :: tools) = true := by
  have hreverse : ∀ t ∈ tools.reverse, t.isTool = true := fun t ht => htools t (List.mem_reverse.1 ht)
  unfold answersCalls
  rw [List.reverse_append, List.reverse_cons, List.append_assoc, List.dropWhile_append_of_pos hreverse,
    List.singleton_append, List.dropWhile_cons_of_neg (by simp [isTool_of_hasToolCalls hm])]
  exact hm

theorem foldl_sanitizeMessage_tools (hm : m.hasToolCalls = true) (l : List Message) :
    ∀ {before tools}, (∀ t ∈ before, t.isTool = true) → (∀ t ∈ tools, t.isTool = true) →
      tools.foldl sanitizeMessage (l ++ m :: before) = l ++ m :: (before ++ tools)
  | before, [], _, _ => by rw [List.append_nil]; rfl
  | before, t :: tools, hbefore, htools => by
    have ht := htools t (List.mem_cons_self ..)
    have hkept : sanitizeMessage (l ++ m :: before) t = l ++ m :: (before ++ [t]) := by
      have hrole : t.role = .tool := by simpa [Message.isTool] using ht
      unfold sanitizeMessage
      rw [hrole]
      rw [if_pos (answersCalls_append hm l hbefore), List.append_assoc, List.cons_append]
    have hbefore' : ∀ t' ∈ before ++ [t], t'.isTool = true :=
      List.forall_mem_append.2 ⟨hbefore, fun _ ht' => List.mem_singleton.1 ht' ▸ ht⟩
    rw [List.foldl_cons, hkept, foldl_sanitizeMessage_tools hm l hbefore' fun t' ht' =>
      htools t' (List.mem_cons_of_mem t ht'), List.append_assoc, List.singleton_append]

theorem foldl_sanitizeMessage (sanitized : List Message) (h : Whole True l) :
    (∀ m ∈ l, m.role ≠ .system) → l.foldl sanitizeMessage sanitized = sanitized ++ l := by
  induction h with
  | nil => exact fun _ => (List.append_nil _).symm
  | @plain l m _ hm ih =>
    intro hsystem
    rw [List.forall_mem_append] at hsystem
    rw [List.foldl_append, ih hsystem.1, ← List.append_assoc]
    have hrole := hsystem.2 m (List.mem_singleton_self m)
    unfold Message.Plain Message.isTool Message.hasToolCalls at hm
    show sanitizeMessage (sanitized ++ l) m = _
    unfold sanitizeMessage
    split
    · exact absurd ‹_› hrole
    · simp_all
    · rw [if_pos (by simp_all)]
    · rfl
  | @exchange l m tools _ hm htools hstrict ih =>
    intro hsystem
    rw [List.forall_mem_append] at hsystem
    obtain ⟨prev, hprev, hrole⟩ := (hstrict trivial).1.append_right sanitized
    have hcall : m.role = .assistant ∧ m.toolCalls ≠ [] := by simpa [Message.hasToolCalls] using hm
    have hkept : sanitizeMessage (sanitized ++ l) m = sanitized ++ l ++ [m] := by
      unfold sanitizeMessage
      rw [hcall.1]
      rw [if_neg hcall.2, hprev]
      dsimp only
      rw [if_neg (by rcases hrole with hrole | hrole <;> simp [hrole])]
    rw [List.foldl_append, ih hsystem.1, List.foldl_cons, hkept,
      foldl_sanitizeMessage_tools hm (sanitized ++ l) (List.forall_mem_nil _) htools.1, List.nil_append,
      List.append_assoc]

/-- Whatever the history, nothing is dropped of a strict list of exchanges that follows it. -/
theorem sanitizeHistoryForProvider_append (history : List Message) (h : Whole True l)
    (hsystem : ∀ m ∈ l, m.role ≠ .system) :
    sanitizeHistoryForProvider (history ++ l) = sanitizeHistoryForProvider history ++ l := by
  unfold sanitizeHistoryForProvider
  rw [List.foldl_append, foldl_sanitizeMessage _ h hsystem, completeExchanges_append _ h.head_not_tool,
    completeExchanges_whole h]

end OpenFox.Agent
