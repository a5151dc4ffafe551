/-
How often an authenticated event is applied to a session. `ApplyAuthenticatedInbound` looks for the event among the
messages that can be read, and these are fewer after a truncation or after `SetHistory` with a slice of them: an event
whose message is gone is applied again. So is one whose message was appended behind a line without an end, which a
failed append has left.
-/
import OpenFox.Memory.History
import OpenFox.Memory.Codec
import OpenFox.Base.Run

namespace OpenFox.Memory

open OpenFox.Go OpenFox.Agent OpenFox.Base

/-! ## Calls on one session -/

/-- `slice` is `SetHistory` with `length` messages of the current history from `start` on. -/
inductive InboundEvent
  | apply (now : Nat) (eventID : String) (m : Message)
  | add (now : Nat) (m : Message)
  /-- The append of the call fails, after as much as `addMsgFails` says. -/
  | applyFails (now : Nat) (eventID : String) (m : Message) (reached : Option Nat)
  | addFails (now : Nat) (m : Message) (reached : Option Nat)
  | truncate (now : Nat) (keepLast : Int)
  | compact (now : Nat)
  | slice (now start length : Nat)
  /-- The call fails in its second write: it has written the metadata and not the messages. -/
  | compactFails (now : Nat)
  | sliceFails (now start length : Nat)
deriving DecidableEq, Repr

/-- A session's files, and the events that were applied with their messages. -/
structure InboundSession where
  files : SessionFiles := {}
  applied : List (String × Message) := []

namespace InboundSession

section
variable (json : JSON) (key : String) (o : RangeOrder)

def compacted (s : InboundSession) (now : Nat) : SessionFiles :=
  (s.files.compact json key now).toOption.getD s.files

def sliced (s : InboundSession) (now start length : Nat) : SessionFiles :=
  match s.files.getHistory json key o with
  | .ok history => (s.files.setHistory json key now ((history.drop start).take length)).toOption.getD s.files
  | .error _ => s.files

def step (s : InboundSession) : InboundEvent → InboundSession
  | .apply now eventID m =>
    match s.files.applyAuthenticatedInbound json key now eventID m with
    | .ok (true, f) => { files := f, applied := s.applied ++ [(eventID, m)] }
    | .ok (false, f) => { s with files := f }
    | .error _ => s
  | .add now m => { s with files := s.files.addMsg json key now m }
  | .applyFails now eventID m reached =>
    match s.files.applyAuthenticatedInbound json key now eventID m with
    | .ok (true, _) => { s with files := s.files.addMsgFails json key now m reached }
    | .ok (false, _) | .error _ => s
  | .addFails now m reached =>
    if isTransientAssistantThought m = true then s else { s with files := s.files.addMsgFails json key now m reached }
  | .truncate now keepLast => { s with files := (s.files.truncateHistory json key now keepLast).toOption.getD s.files }
  | .compact now => { s with files := s.compacted json key now }
  | .slice now start length => { s with files := s.sliced json key o now start length }
  | .compactFails now => { s with files := { s.compacted json key now with jsonl := s.files.jsonl } }
  | .sliceFails now start length =>
    { s with files := { s.sliced json key o now start length with jsonl := s.files.jsonl } }

/-- Appends meet an ended file, no message with an event is dropped, and what is added otherwise has none. -/
def Keeps (s : InboundSession) : InboundEvent → Prop
  | .apply .. | .applyFails .. => s.files.Ended
  | .add _ m | .addFails _ m _ => s.files.Ended ∧ sourceEvent m = ""
  | .compact _ | .compactFails _ | .sliceFails .. => True
  | .truncate _ keepLast =>
    ∀ l, s.files.visible json key = .ok l → ∀ m ∈ l.take (l.length - keepLast.toNat), m.sourceEventID = ""
  | .slice _ start length =>
    ∀ l, s.files.visible json key = .ok l → ∀ m ∈ l.take start ++ l.drop (start + length), m.sourceEventID = ""

end

end InboundSession

/-! ## The messages of events -/

/-- Each message says its event, and an event has one message. -/
structure OnePerEvent (l : List Message) : Prop where
  said : ∀ m ∈ l, sourceEvent m = m.sourceEventID
  single : ∀ m ∈ l, ∀ m' ∈ l, m.sourceEventID ≠ "" → m.sourceEventID = m'.sourceEventID → m = m'

variable {m : Message} {l l' : List Message} {p : String × Message}

theorem OnePerEvent.sublist (h : OnePerEvent l) (hsub : l'.Sublist l) : OnePerEvent l' :=
  ⟨fun m hm => h.said m (hsub.subset hm), fun m hm m' hm' => h.single m (hsub.subset hm) m' (hsub.subset hm')⟩

theorem OnePerEvent.snoc (h : OnePerEvent l) (hm : sourceEvent m = m.sourceEventID)
    (hnew : m.sourceEventID ≠ "" → ∀ m' ∈ l, m'.sourceEventID ≠ m.sourceEventID) : OnePerEvent (l ++ [m]) where
  said := List.forall_mem_append.2 ⟨h.said, List.forall_mem_singleton.2 hm⟩
  single a ha b hb hne heq := by
    rw [List.mem_append, List.mem_singleton] at ha hb
    rcases ha with ha | rfl <;> rcases hb with hb | rfl
    · exact h.single a ha b hb hne heq
    · exact absurd heq (hnew (heq ▸ hne) a ha)
    · exact absurd heq.symm (hnew hne b hb)
    · rfl

theorem OnePerEvent.preserve (h : OnePerEvent l) (hsub : ∀ m ∈ l', m ∈ l) : preserveModeratedOriginals l' l = l' := by
  refine (List.map_congr_left fun m hm => ?_).trans (List.map_id' l')
  unfold preserveMessage
  split
  · rename_i hhidden
    have hnone : originalContent l m.sourceEventID = none := by
      unfold originalContent
      rw [Option.map_eq_none_iff, List.getLast?_eq_none_iff, List.filter_eq_nil_iff]
      intro m' hm' hcond
      simp only [ne_eq, decide_eq_true_eq] at hcond
      obtain ⟨hsource, hne, hcontent⟩ := hcond
      rw [h.said m' hm'] at hsource
      have hsame := h.single m (hsub m hm) m' hm' hne hsource.symm
      exact hcontent (hsame ▸ hhidden.2)
    rw [hnone]
    rfl
  · rfl

/-! ## Applying an event -/

section
variable {json : JSON} {key : String} {f : SessionFiles} {now : Nat} {eventID : String} {m : Message}

theorem applyAuthenticatedInbound_ok {r : Bool × SessionFiles}
    (h : f.applyAuthenticatedInbound json key now eventID m = .ok r) :
    validAuthenticatedInbound m eventID = true ∧ ∃ l, f.visible json key = .ok l ∧
      ((∃ existing, l.find? (·.sourceEventID = eventID) = some existing ∧ sameAuthenticatedInbound existing m = true ∧
        r = (false, f)) ∨
        l.find? (·.sourceEventID = eventID) = none ∧ r = (true, f.addMsgLocked json key now m)) := by
  simp only [SessionFiles.applyAuthenticatedInbound, peel, Bool.not_eq_false] at h
  obtain ⟨hvalid, l, hl, h⟩ := h
  refine ⟨hvalid, l, hl, ?_⟩
  split at h
  · rename_i existing hfind
    simp only [peel, Bool.not_eq_false] at h
    exact .inl ⟨existing, hfind, h.1, h.2.symm⟩
  · rename_i hfind
    exact .inr ⟨hfind, (pure_ok.1 h).symm⟩

theorem validAuthenticatedInbound_spec (h : validAuthenticatedInbound m eventID = true) :
    m.role = .user ∧ m.sourceEventID = eventID ∧ eventID ≠ "" := by
  simp only [validAuthenticatedInbound, decide_eq_true_eq] at h
  refine ⟨h.2.1, h.2.2.1, ?_⟩
  rintro rfl
  exact absurd h.1 (by decide)

end

namespace InboundSession

section
variable (json : JSON) (key : String)

/-- What holds of the messages that can be read, and of those before them that are truncated and still in the file. -/
structure Readable (s : InboundSession) (before l : List Message) : Prop where
  holds : Holds json key s.files l
  whole : Holds json key { s.files with metadata := none } (before ++ l)
  once : OnePerEvent (before ++ l)
  truncated : ∀ m ∈ before, m.sourceEventID = ""
  applied : ∀ p ∈ s.applied, persisted p.2 ∈ l ∧ p.2.sourceEventID = p.1 ∧ p.1 ≠ ""

structure Once (s : InboundSession) : Prop where
  unmoderated : s.files.moderation = none
  distinct : (s.applied.map Prod.fst).Nodup
  readable : s.files.Unreadable ∨ ∃ before l, s.Readable json key before l

end

section
variable {json : JSON} {key : String} {o : RangeOrder} {s : InboundSession} {before : List Message}

theorem Readable.find (h : s.Readable json key before l) (hp : p ∈ s.applied) :
    l.find? (·.sourceEventID = p.1) = some (persisted p.2) := by
  obtain ⟨hmem, hsource, hne⟩ := h.applied p hp
  cases hfind : l.find? (·.sourceEventID = p.1) with
  | none =>
    have hne : (persisted p.2).sourceEventID ≠ p.1 := by simpa using List.find?_eq_none.1 hfind _ hmem
    exact absurd hsource hne
  | some m =>
    have hm : m.sourceEventID = p.1 := by simpa using List.find?_some hfind
    have hsame := h.once.single m (List.mem_append_right _ (List.mem_of_find?_eq_some hfind)) _
      (List.mem_append_right _ hmem) (hm ▸ hne) (hm.trans hsource.symm)
    rw [hsame]

theorem sourceEvent_of_said (h : m.sourceEventID ≠ "") : sourceEvent m = m.sourceEventID := by
  unfold sourceEvent
  split
  · rw [if_neg fun hboth => h hboth.1]
  · rfl

theorem sourceEventID_of_none (h : sourceEvent m = "") : m.sourceEventID = "" := by
  by_contra hne
  exact hne ((sourceEvent_of_said hne).symm.trans h)

section
variable (hjson : json.Lawful) (h : s.Once json key)
include hjson h

section
variable (hended : s.files.Ended) (hm : isTransientAssistantThought m = false) (hsaid : sourceEvent m = m.sourceEventID)
  (hnew : m.sourceEventID ≠ "" → ∀ l, s.files.visible json key = .ok l → ∀ m' ∈ l, m'.sourceEventID ≠ m.sourceEventID)
include hended hm hsaid hnew

theorem readable_torn (n : Nat) :
    (s.files.appendBytes ((json.marshal m ++ [newline]).take n)).Unreadable ∨
      ∃ before l, { s with files := s.files.appendBytes ((json.marshal m ++ [newline]).take n) }.Readable json key
        before (l ++ if (json.marshal m).length ≤ n then [persisted m] else []) := by
  rcases h.readable with hun | ⟨before, l, hl⟩
  · exact .inl (hun.appendBytes hended _)
  -- a line that is too long makes the whole session unreadable
  by_cases hfits : ((json.marshal m).take n).length < maxLineSize
  · have hwhole := hl.whole.torn hjson hended hm hfits
    rw [List.append_assoc] at hwhole
    refine .inr ⟨before, l, hl.holds.torn hjson hended hm hfits, hwhole, ?_, hl.truncated, fun p hp => ?_⟩
    · rw [← List.append_assoc]
      split
      · refine hl.once.snoc hsaid fun hne => List.forall_mem_append.2 ⟨fun m' hm' heq => ?_, ?_⟩
        · exact hne (heq.symm.trans (hl.truncated m' hm'))
        · exact hnew hne l hl.holds.visible
      · rw [List.append_nil]
        exact hl.once
    · obtain ⟨hmem, hrest⟩ := hl.applied p hp
      exact ⟨List.mem_append_left _ hmem, hrest⟩
  · exact .inl (unreadable_torn hjson hended (Nat.not_lt.1 hfits))

theorem readable_addMsgLocked (now : Nat) :
    (s.files.addMsgLocked json key now m).Unreadable ∨
      ∃ before l, { s with files := s.files.addMsgLocked json key now m }.Readable json key before
        (l ++ [persisted m]) := by
  have htorn := readable_torn hjson h hended hm hsaid hnew ((json.marshal m).length + 1)
  rw [List.take_of_length_le (by simp), if_pos (Nat.le_succ _)] at htorn
  exact htorn.imp_right fun ⟨before, l, hl⟩ =>
    ⟨before, l, hl.holds.writeMeta rfl, hl.whole.congr rfl rfl, hl.once, hl.truncated, hl.applied⟩

theorem once_addMsgFails (now : Nat) (reached : Option Nat) :
    { s with files := s.files.addMsgFails json key now m reached }.Once json key := by
  cases reached with
  | none =>
    exact ⟨h.unmoderated, h.distinct, (readable_addMsgLocked hjson h hended hm hsaid hnew now).imp_right
      fun ⟨_, _, hl⟩ => ⟨_, _, hl⟩⟩
  | some n =>
    exact ⟨h.unmoderated, h.distinct, (readable_torn hjson h hended hm hsaid hnew n).imp_right
      fun ⟨_, _, hl⟩ => ⟨_, _, hl⟩⟩

end

theorem once_add (now : Nat) (reached : Option Nat) (hended : s.files.Ended) (hm : sourceEvent m = "") :
    (s.step json key o (.addFails now m reached)).Once json key := by
  have hnone := sourceEventID_of_none hm
  dsimp only [step]
  split
  · exact h
  · rename_i hkept
    exact once_addMsgFails hjson h hended (by simpa using hkept) (hm.trans hnone.symm) (fun hne => absurd hnone hne) now
      reached

omit hjson h in
theorem applied_new {f : SessionFiles}
    (happly : s.files.applyAuthenticatedInbound json key now eventID m = .ok (true, f)) :
    f = s.files.addMsgLocked json key now m ∧ isTransientAssistantThought m = false ∧ m.sourceEventID = eventID ∧
      eventID ≠ "" ∧
      ∃ l, s.files.visible json key = .ok l ∧ ∀ m' ∈ l, m'.sourceEventID ≠ eventID := by
  obtain ⟨hvalid, l, hvisible, ⟨_, _, _, hr⟩ | ⟨hfind, hr⟩⟩ := applyAuthenticatedInbound_ok happly
  · cases hr
  cases hr
  obtain ⟨hrole, hsource, hne⟩ := validAuthenticatedInbound_spec hvalid
  refine ⟨rfl, by simp [isTransientAssistantThought, hrole], hsource, hne, l, hvisible, fun m' hm' => ?_⟩
  simpa using List.find?_eq_none.1 hfind m' hm'

theorem once_applyFails (now : Nat) (eventID : String) (m : Message) (reached : Option Nat) (hended : s.files.Ended) :
    (s.step json key o (.applyFails now eventID m reached)).Once json key := by
  dsimp only [step]
  split
  · rename_i happly
    obtain ⟨-, hkept, rfl, hne, l, hvisible, hnew⟩ := applied_new happly
    refine once_addMsgFails hjson h hended hkept (sourceEvent_of_said hne) (fun _ l' hl' => ?_) now reached
    cases hl'.symm.trans hvisible
    exact hnew
  · exact h
  · exact h

theorem once_apply (now : Nat) (eventID : String) (m : Message) (hended : s.files.Ended) :
    (s.step json key o (.apply now eventID m)).Once json key := by
  dsimp only [step]
  split
  · rename_i f happly
    obtain ⟨rfl, hkept, rfl, hne, l, hvisible, hnew⟩ := applied_new happly
    have hread : ∀ l', s.files.visible json key = .ok l' → ∀ m' ∈ l', m'.sourceEventID ≠ m.sourceEventID :=
      fun l' hl' => by
      cases hl'.symm.trans hvisible
      exact hnew
    refine ⟨h.unmoderated, ?_, ?_⟩
    · -- the messages of the events applied before can be read, and none of them has this one
      rw [List.map_append, List.map_singleton, List.nodup_append]
      refine ⟨h.distinct, List.nodup_singleton _, fun id hid id' hid' heq => ?_⟩
      obtain ⟨p, hp, rfl⟩ := List.mem_map.1 hid
      rw [List.mem_singleton.1 hid'] at heq
      rcases h.readable with hun | ⟨_, l', hl'⟩
      · obtain ⟨err, herr⟩ := hun.visible
        cases herr.symm.trans hvisible
      · obtain ⟨hmem, hsource, _⟩ := hl'.applied p hp
        exact hread l' hl'.holds.visible _ hmem (hsource.trans heq)
    · rcases readable_addMsgLocked hjson h hended hkept (sourceEvent_of_said hne) (fun _ => hread) now with
        hun | ⟨_, l', hl'⟩
      · exact .inl hun
      · refine .inr ⟨_, _, hl'.holds, hl'.whole, hl'.once, hl'.truncated,
          List.forall_mem_append.2 ⟨hl'.applied, List.forall_mem_singleton.2 ⟨?_, rfl, hne⟩⟩⟩
        exact List.mem_append_right _ (List.mem_singleton_self _)
  · rename_i f happly
    obtain ⟨_, _, _, ⟨_, _, _, hr⟩ | ⟨_, hr⟩⟩ := applyAuthenticatedInbound_ok happly
    · cases hr
      exact h
    · cases hr
  · exact h

end

theorem Readable.kept (h : s.Readable json key before l) (hdropped : ∀ m ∈ l, m ∈ l' ∨ m.sourceEventID = "") :
    ∀ p ∈ s.applied, persisted p.2 ∈ l' ∧ p.2.sourceEventID = p.1 ∧ p.1 ≠ "" := by
  intro p hp
  obtain ⟨hmem, hsource, hne⟩ := h.applied p hp
  rcases hdropped _ hmem with hkept | hnone
  · exact ⟨hkept, hsource, hne⟩
  · exact absurd (hsource.symm.trans hnone) hne

/-- The file is written anew, with some of the messages that can be read. -/
theorem Readable.rewritten (h : s.Readable json key before l) {f : SessionFiles} (hholds : Holds json key f l')
    (hskip : (f.readMeta key).skip = 0) (hsub : l'.Sublist l) (hdropped : ∀ m ∈ l, m ∈ l' ∨ m.sourceEventID = "") :
    { s with files := f }.Readable json key [] l' :=
  ⟨hholds, hholds.congr rfl hskip.symm, h.once.sublist (hsub.trans (List.sublist_append_right ..)),
    List.forall_mem_nil _, h.kept hdropped⟩

/-- Only the metadata is written: what was truncated can be read again. -/
theorem Readable.revived (h : s.Readable json key before l) {f : SessionFiles} (hskip : (f.readMeta key).skip = 0) :
    { s with files := { f with jsonl := s.files.jsonl } }.Readable json key [] (before ++ l) :=
  ⟨h.whole.congr rfl hskip, h.whole.congr rfl rfl, h.once, List.forall_mem_nil _,
    h.kept fun _ hm => .inl (List.mem_append_right _ hm)⟩

theorem once_truncate (h : s.Once json key) (now : Nat) (keepLast : Int)
    (hkeeps : s.Keeps json key (.truncate now keepLast)) :
    (s.step json key o (.truncate now keepLast)).Once json key := by
  dsimp only [step]
  rcases h.readable with ⟨err, herr⟩ | ⟨before, l, hl⟩
  · have herror : s.files.truncateHistory json key now keepLast = .error err := by
      unfold SessionFiles.truncateHistory
      rw [scanRetainedMessageLines_eq, herr]
      rfl
    rw [herror]
    exact h
  · obtain ⟨f, hf, hjsonl, hmoderation, hholds⟩ := hl.holds.truncateHistory now keepLast
    rw [hf]
    have hsplit := List.take_append_drop (l.length - keepLast.toNat) l
    have hgone := hkeeps l hl.holds.visible
    refine ⟨hmoderation.trans h.unmoderated, h.distinct, .inr ⟨before ++ l.take (l.length - keepLast.toNat), _, hholds,
      ?_, ?_, List.forall_mem_append.2 ⟨hl.truncated, hgone⟩, hl.kept fun m hm => ?_⟩⟩
    · rw [List.append_assoc, hsplit]
      exact hl.whole.congr hjsonl rfl
    · rw [List.append_assoc, hsplit]
      exact hl.once
    · rw [← hsplit] at hm
      exact (List.mem_append.1 hm).symm.imp_right (hgone m)

/-- `Compact` writes the messages that can be read, or fails before that. -/
theorem once_compact (hjson : json.Lawful) (h : s.Once json key) (now : Nat) :
    (s.step json key o (.compact now)).Once json key ∧ (s.step json key o (.compactFails now)).Once json key := by
  dsimp only [step, compacted]
  rcases h.readable with hun | ⟨before, l, hl⟩
  · have hsame : (s.files.compact json key now).toOption.getD s.files = s.files := by
      obtain ⟨err, herr⟩ := hun.visible
      unfold SessionFiles.compact
      dsimp only
      split
      · rfl
      · rw [herr]
        rfl
    rw [hsame]
    exact ⟨h, h⟩
  · obtain ⟨f, hf, ⟨-, hskip⟩, hmoderation, hholds⟩ := hl.holds.compact hjson now
    rw [hf]
    exact ⟨⟨hmoderation.trans h.unmoderated, h.distinct,
      .inr ⟨_, l, hl.rewritten hholds hskip (List.Sublist.refl l) fun _ => .inl⟩⟩,
      hmoderation.trans h.unmoderated, h.distinct, .inr ⟨_, _, hl.revived hskip⟩⟩

theorem once_slice (hjson : json.Lawful) (h : s.Once json key) (now start length : Nat) :
    (s.Keeps json key (.slice now start length) → (s.step json key o (.slice now start length)).Once json key) ∧
      (s.step json key o (.sliceFails now start length)).Once json key := by
  dsimp only [step, sliced]
  rcases h.readable with hun | ⟨before, l, hl⟩
  · obtain ⟨err, herr⟩ := hun.visible
    have herror : s.files.getHistory json key o = .error err := by
      unfold SessionFiles.getHistory
      rw [herr]
      rfl
    rw [herror]
    exact ⟨fun _ => h, h⟩
  · rw [getHistory_of_unmoderated h.unmoderated hl.holds.visible o]
    dsimp only
    have hsub : ((l.drop start).take length).Sublist l := (List.take_sublist ..).trans (List.drop_sublist ..)
    have hstored : Stored json ((l.drop start).take length) := fun m hm => hl.holds.stored m (hsub.subset hm)
    have hset : filterInvalidHistoryMessages (SessionFiles.historyToSet ((l.drop start).take length) l) =
        (l.drop start).take length := by
      unfold SessionFiles.historyToSet
      rw [filterInvalid_stored hstored, (hl.once.sublist (List.sublist_append_right ..)).preserve fun m hm =>
        hsub.subset hm, filterInvalid_stored hstored]
    obtain ⟨f, hf, ⟨-, hskip⟩, hmoderation, hholds⟩ := hl.holds.setHistory hjson now ((l.drop start).take length)
      (by rw [hset]; exact fun m hm => (hstored m hm).2.2)
    rw [hset, map_persisted_stored hstored] at hholds
    rw [hf]
    refine ⟨fun hkeeps => ⟨hmoderation.trans h.unmoderated, h.distinct,
      .inr ⟨_, _, hl.rewritten hholds hskip hsub fun m hm => ?_⟩⟩,
      hmoderation.trans h.unmoderated, h.distinct, .inr ⟨_, _, hl.revived hskip⟩⟩
    have hdropped := hkeeps l hl.holds.visible m
    rw [← List.take_append_drop start l, ← List.take_append_drop length (l.drop start), List.drop_drop] at hm
    simp only [List.mem_append] at hm hdropped
    tauto

theorem once_step (hjson : json.Lawful) (s : InboundSession) (e : InboundEvent) (h : s.Once json key)
    (he : s.Keeps json key e) :
    (s.step json key o e).Once json key := by
  cases e with
  | apply now eventID m => exact once_apply hjson h now eventID m he
  | add now m =>
    have hsame : s.step json key o (.add now m) = s.step json key o (.addFails now m none) := by
      dsimp only [step, SessionFiles.addMsg, SessionFiles.addMsgFails]
      split <;> rfl
    rw [hsame]
    exact once_add hjson h now none he.1 he.2
  | applyFails now eventID m reached => exact once_applyFails hjson h now eventID m reached he
  | addFails now m reached => exact once_add hjson h now reached he.1 he.2
  | truncate now keepLast => exact once_truncate h now keepLast he
  | compact now => exact (once_compact hjson h now).1
  | compactFails now => exact (once_compact hjson h now).2
  | slice now start length => exact (once_slice hjson h now start length).1 he
  | sliceFails now start length => exact (once_slice hjson h now start length).2

theorem Once.substitution_refused (h : s.Once json key) (hp : p ∈ s.applied)
    (hm : sameAuthenticatedInbound p.2 m = false) (now : Nat) :
    ∃ err, s.files.applyAuthenticatedInbound json key now p.1 m = .error err := by
  cases happly : s.files.applyAuthenticatedInbound json key now p.1 m with
  | error err => exact ⟨err, rfl⟩
  | ok r =>
    obtain ⟨_, l, hvisible, hfound⟩ := applyAuthenticatedInbound_ok happly
    rcases h.readable with hun | ⟨_, l', hl'⟩
    · obtain ⟨err, herr⟩ := hun.visible
      cases herr.symm.trans hvisible
    · have hl : l' = l := Except.ok.inj (hl'.holds.visible.symm.trans hvisible)
      have hfind := hl'.find hp
      rw [hl] at hfind
      rcases hfound with ⟨existing, hexisting, hsame, _⟩ | ⟨hnone, _⟩
      · rw [hfind] at hexisting
        cases hexisting
        exact absurd (hsame.symm.trans hm) (by decide)
      · cases hnone.symm.trans hfind

end

/-- In every run whose appends meet an ended file and in which no message with an event is dropped, an event is applied
at most once and another message for an applied event is rejected. -/
theorem inbound_applied_once {json : JSON} (hjson : json.Lawful) (key : String) (o : RangeOrder)
    (es : List InboundEvent) (hkeeps : Along (step json key o) (Keeps json key) {} es) :
    ((exec (step json key o) {} es).applied.map Prod.fst).Nodup ∧
      ∀ p ∈ (exec (step json key o) {} es).applied, ∀ now m, sameAuthenticatedInbound p.2 m = false →
        ∃ err, (exec (step json key o) {} es).files.applyAuthenticatedInbound json key now p.1 m = .error err := by
  have honce := invariant_along (I := fun s => s.Once json key) (once_step hjson)
      ⟨rfl, List.nodup_nil, .inr ⟨[], [], holds_empty, holds_empty, ⟨List.forall_mem_nil _, List.forall_mem_nil _⟩,
        List.forall_mem_nil _, List.forall_mem_nil _⟩⟩ hkeeps
  exact ⟨honce.distinct, fun p hp now m hm => honce.substitution_refused hp hm now⟩

end InboundSession

namespace Sample

def eventID : String := "evt_" ++ String.ofList (List.replicate 64 '0')

def received (content : String) : Message where
  role := .user
  content := content
  sourceEventID := eventID
  actionProvenanceState := .authenticated
  actionOrigins := [⟨"alice", "endpoint", "device", eventID, "room", "message", 1⟩]

end Sample

open InboundSession

open Sample in
theorem retried_event_applied_once :
    let s := exec (step braced "k" asWritten) {} [.apply 1 eventID (received "pay"), .apply 2 eventID (received "pay")]
    s.applied = [(eventID, received "pay")] ∧
      ∃ err, s.files.applyAuthenticatedInbound braced "k" 3 eventID (received "refund") = .error err := by
  intro s
  have hrun : s.applied = [(eventID, received "pay")] ∧
      sameAuthenticatedInbound (received "pay") (received "refund") = false := by decide +kernel
  have hkeeps : Along (step braced "k" asWritten) (Keeps braced "k") {}
      [.apply 1 eventID (received "pay"), .apply 2 eventID (received "pay")] :=
    ⟨(by decide : SessionFiles.Ended {}), (by decide +kernel : SessionFiles.Ended _), trivial⟩
  have honce := inbound_applied_once braced_lawful "k" asWritten _ hkeeps
  exact ⟨hrun.1, honce.2 (eventID, received "pay") (by rw [hrun.1]; exact List.mem_singleton_self _) 3 _ hrun.2⟩

open Sample in
/-- The message of the event is truncated away, and another message of the same event is applied. An append that fails
leaves three bytes, and both retries of the event are applied. -/
theorem truncated_event_applied_again :
    (exec (step braced "k" asWritten) {}
      [.apply 1 eventID (received "pay"), .truncate 2 0, .apply 3 eventID (received "refund")]).applied =
      [(eventID, received "pay"), (eventID, received "refund")] ∧
    (exec (step braced "k" asWritten) {}
      [.applyFails 1 eventID (received "pay") (some 3), .apply 2 eventID (received "pay"),
        .apply 3 eventID (received "pay")]).applied =
      [(eventID, received "pay"), (eventID, received "pay")] := by
  decide +kernel

end OpenFox.Memory
