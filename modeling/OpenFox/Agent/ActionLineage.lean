/-
The lineage of a turn: the events its model has received content from. `SetupTurn` computes it once, from the session or
from the turn's own prompt, and every tool of the turn is invoked with it. What is injected later, and what the parent
of a sub-turn had seen, is not part of it. Where a turn's context is only ever what its lineage was computed from, a
complete lineage covers it.
-/
import OpenFox.Agent.Message
import OpenFox.Base.Run
import OpenFox.Go.Map

namespace OpenFox.Agent

open OpenFox.Go OpenFox.Base

/-! ## Provenance -/

/-- `InboundContext`, as far as provenance reads it. -/
structure InboundContext where
  channel : String
  spaceID : String := ""
  authenticatedMessagingOrigin : Option Origin := none
deriving DecidableEq

/-- `strings.EqualFold(strings.TrimSpace(channel), "system")`. -/
def isSystemChannel (channel : String) : Bool :=
  (trimSpace channel).toList.map (fun c => if c = 'ſ' then 's' else c.toLower) = "system".toList

def markUserMessageProvenance (m : Message) (inbound : Option InboundContext) : Message :=
  if m.role ≠ .user then m
  else
    let m := { m with actionOrigins := [] }
    match inbound with
    | none => { m with actionProvenanceState := .trustedLocal }
    | some inbound =>
      if isSystemChannel inbound.channel = true then { m with actionProvenanceState := .trustedLocal }
      else
        match inbound.authenticatedMessagingOrigin with
        | some origin =>
          { m with
            actionProvenanceState := .authenticated, actionOrigins := [origin], sourceEventID := origin.eventID
            sourceRoomID := inbound.spaceID }
        | none => { m with actionProvenanceState := .unattributed }

/-- `actionauth.MaxProvenance`. -/
def maxProvenance : Nat := 32

def addOrigin (origins : List Origin) (origin : Origin) : Option (List Origin) :=
  match origins.find? (·.eventID = origin.eventID) with
  | some existing => if existing = origin then some origins else none
  | none => if origins.length + 1 > maxProvenance then none else some (origins ++ [origin])

/-- One round of the loop of `actionLineage`. -/
def addMessage (origins : List Origin) (m : Message) : Option (List Origin) :=
  if m.role ≠ .user ∨ m.roomModerationAction = .hide then some origins
  else
    match m.actionProvenanceState with
    | .trustedLocal => if m.actionOrigins ≠ [] then none else some origins
    | .authenticated => if m.actionOrigins = [] then none else m.actionOrigins.foldlM addOrigin origins
    | .unattributed | .missing => none

/-- `actionLineage`: nothing if the lineage is not complete. -/
def actionLineage (messages : List Message) (summary : String) : Option (List Origin) :=
  if trimSpace summary ≠ "" then none else messages.foldlM addMessage []

/-- The origins account for a message of a user: it is hidden, or it is attributed, with origins among these. -/
def Covered (origins : List Origin) (m : Message) : Prop :=
  m.role = .user → m.roomModerationAction ≠ .hide →
    (m.actionProvenanceState = .trustedLocal ∨ m.actionProvenanceState = .authenticated) ∧ m.actionOrigins ⊆ origins

instance (origins : List Origin) (m : Message) : Decidable (Covered origins m) := by
  unfold Covered
  infer_instance

variable {origins origins' : List Origin} {m : Message}

theorem Covered.mono (h : Covered origins m) (hle : origins ⊆ origins') : Covered origins' m :=
  fun hrole hhide => ⟨(h hrole hhide).1, List.Subset.trans (h hrole hhide).2 hle⟩

theorem addOrigin_spec {origin : Origin} (h : addOrigin origins origin = some origins') :
    origins ⊆ origins' ∧ origin ∈ origins' := by
  unfold addOrigin at h
  split at h
  · rename_i existing hfind
    split at h
    · rename_i hsame
      cases h
      exact ⟨List.Subset.refl _, hsame ▸ List.mem_of_find?_eq_some hfind⟩
    · cases h
  · split at h
    · cases h
    · cases h
      exact ⟨List.subset_append_left .., List.mem_append_right _ (List.mem_singleton_self origin)⟩

/-- A loop whose rounds only add origins ends with what every round was for. -/
theorem foldlM_adds {α : Type} {f : List Origin → α → Option (List Origin)} (p : List Origin → α → Prop)
    (mono : ∀ {l l' a}, p l a → l ⊆ l' → p l' a) (adds : ∀ {l a l'}, f l a = some l' → l ⊆ l' ∧ p l' a) :
    ∀ {xs : List α} {origins origins'}, xs.foldlM f origins = some origins' → origins ⊆ origins' ∧
      ∀ a ∈ xs, p origins' a
  | [], origins, origins', h => by
    cases h
    exact ⟨List.Subset.refl _, List.forall_mem_nil _⟩
  | a :: xs, origins, origins', h => by
    obtain ⟨mid, hmid, hrest⟩ := Option.bind_eq_some_iff.1 h
    have hadd := adds hmid
    have hfold := foldlM_adds p mono adds hrest
    exact ⟨List.Subset.trans hadd.1 hfold.1, List.forall_mem_cons.2 ⟨mono hadd.2 hfold.1, hfold.2⟩⟩

theorem addMessage_spec (h : addMessage origins m = some origins') : origins ⊆ origins' ∧ Covered origins' m := by
  unfold addMessage at h
  split at h
  · rename_i hskip
    cases h
    refine ⟨List.Subset.refl _, fun hrole hhide => ?_⟩
    exact absurd hskip (by simp [hrole, hhide])
  split at h
  · rename_i hstate
    split at h
    · cases h
    · rename_i hnone
      cases h
      refine ⟨List.Subset.refl _, fun _ _ => ⟨.inl hstate, ?_⟩⟩
      rw [not_not.1 hnone]
      exact List.nil_subset _
  · rename_i hstate
    split at h
    · cases h
    · have hfold := foldlM_adds (fun l a => a ∈ l) (fun hmem hsub => hsub hmem) addOrigin_spec h
      exact ⟨hfold.1, fun _ _ => ⟨.inr hstate, hfold.2⟩⟩
  · cases h
  · cases h

theorem actionLineage_covers {messages : List Message} {summary : String}
    (h : actionLineage messages summary = some origins) : ∀ m ∈ messages, Covered origins m := by
  unfold actionLineage at h
  split at h
  · cases h
  · exact (foldlM_adds Covered Covered.mono addMessage_spec h).2

/-! ## Turns and sub-turns -/

/-- A turn, as far as lineage goes. The lineage's arguments are kept, which do not change after `SetupTurn`. -/
structure LineageTurn where
  parent : Option Nat := none
  session : Option String := none
  inboundContext : Option InboundContext := none
  /-- The messages the model has seen, with where they come from. -/
  context : List Message := []
  lineageMessages : List Message := []
  summary : String := ""
deriving DecidableEq

/-- `actionOrigins`, if `actionLineageOK`. -/
def LineageTurn.lineage (turn : LineageTurn) : Option (List Origin) := actionLineage turn.lineageMessages turn.summary

/-- The messages of users a lineage is computed from. -/
def LineageTurn.sources (turn : LineageTurn) : List Message :=
  turn.lineageMessages.filter fun m => m.role = .user ∧ m.roomModerationAction ≠ .hide

/-- A message adds nothing to what a turn was set up with: that was not attributed, or its origins are among theirs. -/
def LineageTurn.Accounts (turn : LineageTurn) (m : Message) : Prop :=
  (∃ m' ∈ turn.sources, m'.actionProvenanceState = .unattributed ∨ m'.actionProvenanceState = .missing) ∨
    Covered (turn.sources.flatMap (·.actionOrigins)) m

instance (turn : LineageTurn) (m : Message) : Decidable (turn.Accounts m) := by
  unfold LineageTurn.Accounts
  infer_instance

theorem LineageTurn.Accounts.covered {turn : LineageTurn} (h : turn.Accounts m)
    (hlineage : turn.lineage = some origins) :
    Covered origins m := by
  have hsources :
      ∀ m' ∈ turn.sources, (m'.actionProvenanceState = .trustedLocal ∨ m'.actionProvenanceState = .authenticated) ∧
        m'.actionOrigins ⊆ origins := by
    intro m' hm'
    obtain ⟨hmem, hshown⟩ := List.mem_filter.1 hm'
    obtain ⟨hrole, hhide⟩ := of_decide_eq_true hshown
    exact actionLineage_covers hlineage m' hmem hrole hhide
  rcases h with ⟨m', hm', hstate⟩ | h
  · rcases (hsources m' hm').1 with hlocal | hauth
    · simp [hlocal] at hstate
    · simp [hauth] at hstate
  · refine h.mono fun origin horigin => ?_
    obtain ⟨m', hm', horigin⟩ := List.mem_flatMap.1 horigin
    exact (hsources m' hm').2 horigin

structure LineageState where
  turns : List LineageTurn := []
  sessions : Map String (List Message) := ∅

inductive LineageEvent
  /-- A turn is set up. `assembled` and `summary` are what the context manager has for its session. A message that is
  not `appended`, and a history that is not `readable`, is only logged. -/
  | setup (session : Option String) (inbound : Option InboundContext) (userMessage : String) (media : List String)
      (assembled : List Message) (summary : String) (appended readable : Bool)
  | spawn (parent : Nat) (systemPrompt : String)
  /-- A message enters a running turn: steering, a sub-turn's result, an initial message. -/
  | inject (turn : Nat) (m : Message)
  | rebuild (turn : Nat) (assembled : List Message)
  /-- A session is changed by others: compaction, moderation, other turns. -/
  | setHistory (session : String) (history : List Message)
deriving DecidableEq

def rootMessages (userMessage : String) (media : List String) (inbound : Option InboundContext) : List Message :=
  if trimSpace userMessage ≠ "" ∨
    media ≠ [] then [markUserMessageProvenance (userPromptMessage userMessage media) inbound] else []

namespace LineageState

def modify (s : LineageState) (turn : Nat) (f : LineageTurn → LineageTurn) : LineageState :=
  { s with turns := s.turns.modify turn f }

/-- The sub-turn a turn spawns: its prompt is marked with the parent's inbound context. -/
def subTurn (parent : Nat) (turn : LineageTurn) (systemPrompt : String) : LineageTurn :=
  let root := rootMessages systemPrompt [] turn.inboundContext
  { parent := some parent, inboundContext := turn.inboundContext, context := root, lineageMessages := root }

/-- The turn `SetupTurn` makes, and what the session holds then. -/
def setupTurn (s : LineageState) (session : Option String) (inbound : Option InboundContext)
    (root assembled : List Message)
    (summary : String) (appended readable : Bool) : LineageTurn × Map String (List Message) :=
  match session with
  | some key =>
    let history := s.sessions.getD key [] ++ if appended = true then root else []
    ({ session := session, inboundContext := inbound, context := assembled ++ root
       -- `GetHistory` answers an empty history when it fails
       lineageMessages := if readable = true then history else [], summary := summary },
      s.sessions.put key history)
  | none => ({ inboundContext := inbound, context := root, lineageMessages := root }, s.sessions)

def step (s : LineageState) : LineageEvent → LineageState
  | .setup session inbound userMessage media assembled summary appended readable =>
    let root := rootMessages userMessage media inbound
    let (turn, sessions) := s.setupTurn session inbound root assembled summary appended readable
    { turns := s.turns ++ [turn], sessions := sessions }
  | .spawn parent systemPrompt =>
    match s.turns[parent]? with
    | some turn => { s with turns := s.turns ++ [subTurn parent turn systemPrompt] }
    | none => s
  | .inject turn m =>
    match s.turns[turn]? with
    | some { session := some key, .. } =>
      { s.modify turn (fun t => { t with context := t.context ++ [m] }) with
        sessions := s.sessions.put key (s.sessions.getD key [] ++ [m]) }
    | _ => s.modify turn fun t => { t with context := t.context ++ [m] }
  | .rebuild turn assembled => s.modify turn fun t => { t with context := assembled }
  | .setHistory session history => { s with sessions := s.sessions.put session history }

def run (es : List LineageEvent) : LineageState := exec step {} es

def parentOf (s : LineageState) (turn : Nat) : Option Nat := s.turns[turn]?.bind (·.parent)

end LineageState

/-- The turns a turn's prompt was produced in: itself, its parent, and so on. -/
inductive Feeds (parentOf : Nat → Option Nat) : Nat → Nat → Prop
  | self (t : Nat) : Feeds parentOf t t
  | parent {t p t' : Nat} (hp : parentOf t = some p) (h : Feeds parentOf p t') : Feeds parentOf t t'

namespace LineageState

def Seen (s : LineageState) (t : Nat) (m : Message) : Prop :=
  ∃ t' turn, Feeds s.parentOf t t' ∧ s.turns[t']? = some turn ∧ m ∈ turn.context

/-- A complete lineage covers all that the turn, and the turns its prompt was produced in, have seen. -/
def LineageCovers (s : LineageState) : Prop :=
  ∀ t turn origins, s.turns[t]? = some turn → turn.lineage = some origins → ∀ m, s.Seen t m → Covered origins m

/-- Nothing enters a context from elsewhere: a history is assembled from the turn's own session, which is written and
read; a sub-turn is spawned by a turn that has seen nothing but local messages and those the prompt is marked with; and
a message that is injected has no other origins than the messages the turns it reaches were set up with. -/
def Contained (s : LineageState) : LineageEvent → Prop
  | .setup (some key) _ _ _ assembled _ appended readable =>
    appended = true ∧ readable = true ∧ ∀ m ∈ assembled, m.role = .user → m ∈ s.sessions.getD key []
  | .setup none .. => True
  | .spawn parent systemPrompt => ∀ turn, s.turns[parent]? = some turn → ∀ m, s.Seen parent m →
    (subTurn parent turn systemPrompt).Accounts m
  | .inject turn m => ∀ t turn', Feeds s.parentOf t turn → s.turns[t]? = some turn' → turn'.Accounts m
  | .rebuild turn assembled =>
    ∀ turn', s.turns[turn]? = some turn' → ∀ m ∈ assembled, m.role = .user → m ∈ turn'.context
  | .setHistory .. => True

/-! ## One step -/

variable {s : LineageState} {f : LineageTurn → LineageTurn} {sessions : Map String (List Message)} {new : LineageTurn}

theorem covered_of_not_user (hm : m.role ≠ .user) : Covered origins m :=
  fun hrole => absurd hrole hm

theorem parentOf_modify (turn : Nat) (hf : ∀ t, (f t).parent = t.parent) : (s.modify turn f).parentOf = s.parentOf := by
  funext t
  unfold parentOf modify
  dsimp only
  rw [List.getElem?_modify]
  cases s.turns[t]? with
  | none => rfl
  | some t' =>
    show (if turn = t then f t' else t').parent = t'.parent
    split
    · exact hf t'
    · rfl

/-- A turn's context is changed, to messages that are covered wherever they are seen. -/
theorem LineageCovers.modify (h : s.LineageCovers) (turn : Nat)
    (hparent : ∀ t, (f t).parent = t.parent) (hlineage : ∀ t, (f t).lineage = t.lineage)
    (hcontext : ∀ old, s.turns[turn]? = some old → ∀ m ∈ (f old).context, m ∈ old.context ∨
      ∀ t turn' origins, Feeds s.parentOf t turn → s.turns[t]? = some turn' → turn'.lineage = some origins →
        Covered origins m) :
    (s.modify turn f).LineageCovers := by
  intro t turn' origins hturn horigins m ⟨t', seen, hfeeds, hseen, hm⟩
  rw [parentOf_modify turn hparent] at hfeeds
  unfold LineageState.modify at hturn hseen
  dsimp only at hturn hseen
  rw [List.getElem?_modify] at hturn hseen
  obtain ⟨old, hold, rfl⟩ := Option.map_eq_some_iff.1 hturn
  obtain ⟨oldSeen, holdSeen, rfl⟩ := Option.map_eq_some_iff.1 hseen
  have horigins : old.lineage = some origins := by
    split at horigins
    · exact (hlineage old).symm.trans horigins
    · exact horigins
  -- only the turn that is changed can have seen something new
  split at hm
  · rename_i hsame
    subst hsame
    rcases hcontext oldSeen holdSeen m hm with hm | hm
    · exact h t old origins hold horigins m ⟨turn, oldSeen, hfeeds, holdSeen, hm⟩
    · exact hm t old origins hfeeds hold horigins
  · exact h t old origins hold horigins m ⟨t', oldSeen, hfeeds, holdSeen, hm⟩

def Closed (s : LineageState) : Prop := ∀ t p, s.parentOf t = some p → p < s.turns.length

theorem parentOf_append_left {t : Nat} (ht : t < s.turns.length) :
    ({ turns := s.turns ++ [new], sessions := sessions } : LineageState).parentOf t = s.parentOf t := by
  unfold parentOf
  dsimp only
  rw [List.getElem?_append_left ht]

theorem parentOf_append_self :
    ({ turns := s.turns ++ [new], sessions := sessions } : LineageState).parentOf s.turns.length = new.parent := by
  unfold parentOf
  simp

theorem feeds_append (hclosed : s.Closed) {t t' : Nat}
    (h : Feeds ({ turns := s.turns ++ [new], sessions := sessions } : LineageState).parentOf t t') :
    t < s.turns.length → Feeds s.parentOf t t' ∧ t' < s.turns.length := by
  induction h with
  | self t => exact fun ht => ⟨.self t, ht⟩
  | @parent t p t' hp _ ih =>
    intro ht
    rw [parentOf_append_left ht] at hp
    obtain ⟨hfeeds, ht'⟩ := ih (hclosed t p hp)
    exact ⟨.parent hp hfeeds, ht'⟩

/-- A turn is added whose complete lineage covers what it and its parent have seen. -/
theorem LineageCovers.append (h : s.LineageCovers) (hclosed : s.Closed) (sessions : Map String (List Message))
    (hparent : ∀ p, new.parent = some p → p < s.turns.length)
    (hnew : ∀ origins, new.lineage = some origins → (∀ m ∈ new.context, Covered origins m) ∧
      ∀ p, new.parent = some p → ∀ m, s.Seen p m → Covered origins m) :
    LineageCovers { turns := s.turns ++ [new], sessions := sessions } := by
  intro t turn origins hturn horigins m ⟨t', seen, hfeeds, hseen, hm⟩
  -- the new turn feeds no other, since parents come before their sub-turns
  rcases Nat.lt_trichotomy t s.turns.length with ht | rfl | ht
  · obtain ⟨hfeeds, ht'⟩ := feeds_append hclosed hfeeds ht
    rw [List.getElem?_append_left ht] at hturn
    rw [List.getElem?_append_left ht'] at hseen
    exact h t turn origins hturn horigins m ⟨t', seen, hfeeds, hseen, hm⟩
  · have hnewTurn : turn = new := by simpa using hturn.symm
    subst hnewTurn
    cases hfeeds with
    | self =>
      have hsame : seen = turn := by simpa using hseen.symm
      exact (hnew origins horigins).1 m (hsame ▸ hm)
    | @parent _ p _ hp hfeeds =>
      rw [parentOf_append_self] at hp
      obtain ⟨hfeeds, ht'⟩ := feeds_append hclosed hfeeds (hparent p hp)
      rw [List.getElem?_append_left ht'] at hseen
      exact (hnew origins horigins).2 p hp m ⟨t', seen, hfeeds, hseen, hm⟩
  · rw [List.getElem?_eq_none (by simp; omega)] at hturn
    cases hturn

theorem closed_append (hclosed : s.Closed) (sessions : Map String (List Message))
    (hparent : ∀ p, new.parent = some p → p < s.turns.length) :
    Closed { turns := s.turns ++ [new], sessions := sessions } := by
  intro t p hp
  rw [List.length_append, List.length_singleton]
  rcases Nat.lt_trichotomy t s.turns.length with ht | rfl | ht
  · rw [parentOf_append_left ht] at hp
    exact Nat.lt_succ_of_lt (hclosed t p hp)
  · rw [parentOf_append_self] at hp
    exact Nat.lt_succ_of_lt (hparent p hp)
  · unfold parentOf at hp
    rw [List.getElem?_eq_none (by simp; omega)] at hp
    cases hp

theorem closed_modify (hclosed : s.Closed) (turn : Nat) (hf : ∀ t, (f t).parent = t.parent) :
    (s.modify turn f).Closed := by
  intro t p hp
  rw [parentOf_modify turn hf] at hp
  have hlt := hclosed t p hp
  unfold LineageState.modify
  rwa [List.length_modify]

structure LineageKept (s : LineageState) : Prop where
  covers : s.LineageCovers
  closed : s.Closed

section
variable (h : s.LineageKept)
include h

/-- A turn without a parent is added, whose lineage is computed from the messages of users in its context. -/
theorem LineageKept.append (sessions : Map String (List Message)) (hparent : new.parent = none)
    (hcontext : ∀ m ∈ new.context, m.role = .user → m ∈ new.lineageMessages) :
    LineageKept { turns := s.turns ++ [new], sessions := sessions } := by
  have hnone : ∀ p, new.parent ≠ some p := by simp [hparent]
  refine ⟨h.covers.append h.closed _ (fun p hp => absurd hp (hnone p)) fun origins horigins => ⟨fun m hm hrole => ?_,
    fun p hp => absurd hp (hnone p)⟩, closed_append h.closed _ fun p hp => absurd hp (hnone p)⟩
  exact actionLineage_covers horigins m (hcontext m hm hrole) hrole

theorem setup_keeps {session : Option String} {inbound : Option InboundContext} {userMessage : String}
    {media : List String} {assembled : List Message} {summary : String} {appended readable : Bool}
    (hcontained : s.Contained (.setup session inbound userMessage media assembled summary appended readable)) :
    (s.step (.setup session inbound userMessage media assembled summary appended readable)).LineageKept := by
  cases session with
  | none => exact h.append _ rfl fun m hm _ => hm
  | some key =>
    obtain ⟨rfl, rfl, hassembled⟩ := hcontained
    refine h.append _ rfl fun m hm hrole => ?_
    rcases List.mem_append.1 hm with hm | hm
    · exact List.mem_append_left _ (hassembled m hm hrole)
    · exact List.mem_append_right _ hm

theorem spawn_keeps (parent : Nat) (systemPrompt : String) (hcontained : s.Contained (.spawn parent systemPrompt)) :
    (s.step (.spawn parent systemPrompt)).LineageKept := by
  dsimp only [step]
  split
  · rename_i turn hturn
    have hparent : ∀ p, (subTurn parent turn systemPrompt).parent = some p → p < s.turns.length := by
      intro p hp
      cases hp
      exact (List.getElem?_eq_some_iff.1 hturn).1
    refine ⟨h.covers.append h.closed _ hparent fun origins horigins => ?_, closed_append h.closed _ hparent⟩
    refine ⟨fun m hm => actionLineage_covers horigins m hm, fun p hp m hm => ?_⟩
    cases hp
    exact (hcontained turn hturn m hm).covered horigins
  · exact h

theorem inject_keeps (turn : Nat) (m : Message) (hcontained : s.Contained (.inject turn m)) :
    (s.step (.inject turn m)).LineageKept := by
  have hmodify : (s.modify turn fun t => { t with context := t.context ++ [m] }).LineageKept := by
    refine ⟨h.covers.modify turn (fun _ => rfl) (fun _ => rfl)
      fun old hold m' hm' => ?_, closed_modify h.closed turn fun _ => rfl⟩
    rcases List.mem_append.1 hm' with hm' | hm'
    · exact .inl hm'
    · rw [List.mem_singleton.1 hm']
      exact .inr fun t turn' origins hfeeds ht horigins => (hcontained t turn' hfeeds ht).covered horigins
  dsimp only [step]
  split
  · -- the message is stored too, but a lineage is computed only when a turn is set up
    exact ⟨hmodify.covers, hmodify.closed⟩
  · exact hmodify

theorem rebuild_keeps (turn : Nat) (assembled : List Message) (hcontained : s.Contained (.rebuild turn assembled)) :
    (s.step (.rebuild turn assembled)).LineageKept := by
  refine ⟨h.covers.modify turn (fun _ => rfl) (fun _ => rfl)
    fun old hold m hm => ?_, closed_modify h.closed turn fun _ => rfl⟩
  by_cases hrole : m.role = .user
  · exact .inl (hcontained old hold m hm hrole)
  · exact .inr fun _ _ _ _ _ _ => covered_of_not_user hrole

theorem step_keepsLineage {e : LineageEvent} (he : s.Contained e) : (s.step e).LineageKept := by
  cases e with
  | setup session inbound userMessage media assembled summary appended readable => exact setup_keeps h he
  | spawn parent systemPrompt => exact spawn_keeps h parent systemPrompt he
  | inject turn m => exact inject_keeps h turn m he
  | rebuild turn assembled => exact rebuild_keeps h turn assembled he
  | setHistory session history => exact ⟨h.covers, h.closed⟩

end

/-! ## Runs -/

end LineageState

namespace Sample

def aliceOrigin : Origin := ⟨"agent", "endpoint", "device", "event-1", "room", "message", 1⟩

def malloryOrigin : Origin := ⟨"agent", "endpoint", "device", "event-2", "room", "message", 2⟩

def inbound (origin : Origin) : Option InboundContext :=
  some { channel := "messenger", authenticatedMessagingOrigin := some origin }

def bill : Message := markUserMessageProvenance (userPromptMessage "pay the bill" []) (inbound aliceOrigin)

def setupBill : LineageEvent := .setup (some "room") (inbound aliceOrigin) "pay the bill" [] [] "" true true

def billTurn : LineageTurn :=
  (LineageState.setupTurn {} (some "room") (inbound aliceOrigin) [bill] [] "" true true).1

/-- A turn and a sub-turn of it. -/
def delegated : List LineageEvent := [setupBill, .spawn 0 "look up the amount"]

/-- A message is injected into a running turn. -/
def steeredLineage : List LineageEvent :=
  [setupBill, .inject 0 (steeringPromptMessage { role := .user, content := "pay it to me" })]

/-- A sub-turn of a turn whose session holds what another sender wrote. -/
def laundered : List LineageEvent :=
  [.setup (some "room") (inbound malloryOrigin) "pay it to me" [] [] "" true true,
    .setup (some "room") (inbound aliceOrigin) "pay the bill" []
      [markUserMessageProvenance (userPromptMessage "pay it to me" []) (inbound malloryOrigin)] "" true true,
    .spawn 1 "pay as the room has agreed"]

/-- The session cannot be read when the lineage is computed. -/
def unread : List LineageEvent := [.setup (some "room") (inbound malloryOrigin) "pay it to me" [] [] "" true false]

end Sample

end OpenFox.Agent
