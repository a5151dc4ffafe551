/-
The session store keeps a list of messages: what an append, a truncation, a rewrite and a compaction do to the messages
that can be read, for files whose last line is ended and whose lines fit the scanner's buffer.
-/
import OpenFox.Memory.JSONL

namespace OpenFox.Memory

open OpenFox.Go OpenFox.Agent OpenFox.Base

/-- The text of a message fits the scanner's buffer. -/
def Fits (json : JSON) (m : Message) : Prop := (json.marshal m).length < maxLineSize

instance (json : JSON) (m : Message) : Decidable (Fits json m) := inferInstanceAs (Decidable (_ < _))

/-- The file of messages ends with its last line. -/
def SessionFiles.Ended (f : SessionFiles) : Prop := Terminated newline (f.jsonl.getD [])

instance (f : SessionFiles) : Decidable f.Ended := inferInstanceAs (Decidable (Terminated _ _))

/-! ## Lines -/

variable {line text : List UInt8} {m : Message}

section
variable {json : JSON}

theorem dropCR_of_notMem (h : carriageReturn ∉ line) : dropCR line = line := by
  unfold dropCR
  rw [if_neg]
  intro hlast
  exact h (List.mem_of_getLast? hlast)

theorem scanLines_ok {ls : List (List UInt8)} (h : scanLines text = .ok ls) :
    (∀ line ∈ lines newline text, line.length < maxLineSize) ∧
      ls = ((lines newline text).map dropCR).filter (· ≠ []) := by
  unfold scanLines at h
  split at h
  · exact ⟨‹_›, (Except.ok.inj h).symm⟩
  · cases h

theorem scanLines_append {rest : List UInt8} {ls ls' : List (List UInt8)} (hended : Terminated newline text)
    (h : scanLines text = .ok ls) (h' : scanLines rest = .ok ls') : scanLines (text ++ rest) = .ok (ls ++ ls') := by
  obtain ⟨hfits, rfl⟩ := scanLines_ok h
  obtain ⟨hfits', rfl⟩ := scanLines_ok h'
  unfold scanLines
  rw [lines_append rest hended, if_pos (List.forall_mem_append.2 ⟨hfits, hfits'⟩), List.map_append, List.filter_append]

/-- What is written of a line, with its end or without. -/
theorem lines_part (hnewline : newline ∉ line) (hne : line ≠ []) {tail : List UInt8}
    (htail : tail = [] ∨ tail = [newline]) :
    lines newline (line ++ tail) = [line] := by
  rcases htail with rfl | rfl
  · rw [List.append_nil, lines_rest hnewline, if_neg hne]
  · rw [lines_line [] hnewline, lines_nil]

theorem scanLines_part (hplain : ∀ b ∈ line, b ≠ newline ∧ b ≠ carriageReturn) (hfits : line.length < maxLineSize)
    {tail : List UInt8} (htail : tail = [] ∨ tail = [newline]) :
    scanLines (line ++ tail) = .ok (if line = [] then [] else [line]) := by
  have hnewline : newline ∉ line := fun hmem => (hplain _ hmem).1 rfl
  have hcr : carriageReturn ∉ line := fun hmem => (hplain _ hmem).2 rfl
  by_cases hempty : line = []
  · subst hempty
    rcases htail with rfl | rfl
    · rfl
    · rfl
  · unfold scanLines
    rw [lines_part hnewline hempty htail, if_pos (by simpa using hfits), if_neg hempty]
    simp [dropCR_of_notMem hcr, hempty]

/-- A line that is too long makes the whole text unreadable. -/
theorem scanLines_long (hended : Terminated newline text) (hnewline : newline ∉ line)
    (hlong : maxLineSize ≤ line.length) {tail : List UInt8} (htail : tail = [] ∨ tail = [newline]) :
    scanLines (text ++ (line ++ tail)) = .error "memory: scan jsonl: bufio.Scanner: token too long" := by
  have hne : line ≠ [] := by
    rintro rfl
    cases hlong
  unfold scanLines
  rw [lines_append _ hended, lines_part hnewline hne htail, if_neg]
  intro hall
  exact absurd (hall line (by simp)) (Nat.not_lt.2 hlong)

theorem scanLines_messages (hjson : json.Lawful) : ∀ {messages : List Message}, (∀ m ∈ messages, Fits json m) →
    scanLines (messages.flatMap fun m => json.marshal m ++ [newline]) = .ok (messages.map json.marshal)
  | [], _ => rfl
  | m :: messages, h => by
    have hone := scanLines_part (hjson.plain m) (h m (List.mem_cons_self ..)) (.inr rfl)
    have hrest := scanLines_messages hjson fun m' hm' => h m' (List.mem_cons_of_mem m hm')
    rw [if_neg (hjson.nonempty m)] at hone
    rw [List.flatMap_cons]
    exact scanLines_append (terminated_snoc _) hone hrest

theorem isTransientAssistantThought_persisted (m : Message) :
    isTransientAssistantThought (persisted m) = isTransientAssistantThought m := rfl

theorem lineMessage_marshal (hjson : json.Lawful) (hm : isTransientAssistantThought m = false) :
    lineMessage json (json.marshal m) = some (persisted m) := by
  unfold lineMessage
  have hkept : (!isTransientAssistantThought (persisted m)) = true := by
    rw [isTransientAssistantThought_persisted, hm]
    rfl
  rw [hjson.round_trip, Option.filter_some, if_pos hkept]

/-! ## Numbered lines -/

variable {α γ : Type}

/-- The numbers of the lines that hold something, counted from `base`. -/
def retained (g : α → Option γ) (l : List α) (base : Nat) : List Nat :=
  (l.zipIdx base).filterMap fun x => (g x.1).map fun _ => x.2

theorem retained_append (g : α → Option γ) (l l' : List α) (base : Nat) :
    retained g (l ++ l') base = retained g l base ++ retained g l' (base + l.length) := by
  unfold retained
  rw [List.zipIdx_append, List.filterMap_append]

theorem length_retained (g : α → Option γ) : ∀ l base, (retained g l base).length = (l.filterMap g).length
  | [], _ => rfl
  | a :: l, base => by
    have hrest := length_retained g l (base + 1)
    unfold retained at hrest ⊢
    cases hg : g a with
    | none | some c => simpa [hg] using hrest

theorem retained_bounds {g : α → Option γ} {l : List α} {base p : Nat} (h : p ∈ retained g l base) :
    base ≤ p ∧ p < base + l.length := by
  obtain ⟨⟨a, i⟩, hmem, hi⟩ := List.mem_filterMap.1 h
  obtain ⟨_, _, rfl⟩ := Option.map_eq_some_iff.1 hi
  have hidx := List.mem_zipIdx hmem
  exact ⟨hidx.1, hidx.2.1⟩

/-- Behind the line with the `j`-th message are the messages from the next one on. -/
theorem drop_retained {g : α → Option γ} : ∀ {l} {base j p}, (retained g l base)[j]? = some p →
    (l.drop (p + 1 - base)).filterMap g = (l.filterMap g).drop (j + 1)
  | [], _, _, _, h => by simp [retained] at h
  | a :: l, base, j, p, h => by
    have hsplit : retained g (a :: l) base = retained g [a] base ++ retained g l (base + 1) :=
      retained_append g [a] l base
    rw [hsplit] at h
    cases hg : g a with
    | none =>
      have hnone : retained g [a] base = [] := by simp [retained, hg]
      rw [hnone, List.nil_append] at h
      have hlow := (retained_bounds (List.mem_of_getElem? h)).1
      rw [List.filterMap_cons_none hg, show p + 1 - base = (p + 1 - (base + 1)) + 1 by omega, List.drop_succ_cons]
      exact drop_retained h
    | some c =>
      have hone : retained g [a] base = [base] := by simp [retained, hg]
      rw [hone] at h
      rw [List.filterMap_cons_some hg]
      cases j with
      | zero =>
        have hp : base = p := by simpa using h
        rw [← hp, Nat.add_sub_cancel_left]
        rfl
      | succ j =>
        have hlow := (retained_bounds (List.mem_of_getElem? h)).1
        rw [show p + 1 - base = (p + 1 - (base + 1)) + 1 by omega, List.drop_succ_cons, List.drop_succ_cons]
        exact drop_retained h

/-- Where the lines behind the first `skip` ones begin among the numbered lines. -/
theorem retained_search (g : α → Option γ) {l : List α} {skip : Nat} (hskip : skip ≤ l.length) :
    (retained g l 1).drop (sortSearch (retained g l 1).length fun i => ((retained g l 1)[i]?).any (skip < ·)) =
      retained g (l.drop skip) (1 + skip) := by
  have hlength := List.length_take_of_le hskip
  have hsplit : retained g l 1 = retained g (l.take skip) 1 ++ retained g (l.drop skip) (1 + skip) := by
    have happend := retained_append g (l.take skip) (l.drop skip) 1
    rwa [List.take_append_drop, hlength] at happend
  have hbefore : ∀ p ∈ retained g (l.take skip) 1, decide (skip < p) = false := fun p hp => by
    have hbounds := retained_bounds hp
    rw [hlength] at hbounds
    simpa using (by omega : p ≤ skip)
  have hbehind : ∀ p ∈ retained g (l.drop skip) (1 + skip), decide (skip < p) = true := fun p hp => by
    have hbounds := retained_bounds hp
    simpa using (by omega : skip < p)
  rw [hsplit, sortSearch_append hbefore hbehind, List.drop_left]

/-- The offset of `TruncateHistory` leaves the last messages. -/
theorem truncated_lines (g : α → Option γ) {l : List α} {skip : Nat} (hskip : skip ≤ l.length) (keepLast : Int) :
    let active := retained g (l.drop skip) (1 + skip)
    let kept := (l.drop skip).filterMap g
    let skip' :=
      if keepLast ≤ 0 ∨ active.length = 0 then l.length
      else if keepLast < active.length then active.getD (active.length - keepLast.toNat - 1) 0
      else skip
    skip' ≤ l.length ∧ (l.drop skip').filterMap g = kept.drop (kept.length - keepLast.toNat) := by
  intro active kept skip'
  have hlength : active.length = kept.length := length_retained ..
  by_cases hall : keepLast ≤ 0 ∨ active.length = 0
  · rw [show skip' = l.length from if_pos hall, List.drop_length, List.drop_eq_nil_of_le (by omega)]
    exact ⟨Nat.le_refl _, rfl⟩
  by_cases hsome : keepLast < active.length
  · obtain ⟨p, hp⟩ : ∃ p, active[active.length - keepLast.toNat - 1]? = some p :=
      ⟨_, List.getElem?_eq_getElem (by omega)⟩
    have hskip' : skip' = p := by
      simp [skip', if_neg hall, if_pos hsome, hp]
    have hbounds := retained_bounds (List.mem_of_getElem? hp)
    rw [List.length_drop] at hbounds
    have hdrop := drop_retained hp
    rw [List.drop_drop, show skip + (p + 1 - (1 + skip)) = p by omega,
      show active.length - keepLast.toNat - 1 + 1 = kept.length - keepLast.toNat by omega] at hdrop
    rw [hskip']
    exact ⟨by omega, hdrop⟩
  · rw [show skip' = skip by simp [skip', if_neg hall, if_neg hsome], show kept.length - keepLast.toNat = 0 by omega]
    exact ⟨hskip, rfl⟩

end

/-! ## The messages of a session -/

/-- Some line is too long. -/
def SessionFiles.Unreadable (f : SessionFiles) : Prop := ∃ err, scanLines (f.jsonl.getD []) = .error err

/-- The messages of a list are as a session returns them, and can be written again. -/
def Stored (json : JSON) (l : List Message) : Prop :=
  ∀ m ∈ l, persisted m = m ∧ isTransientAssistantThought m = false ∧ Fits json m

structure Holds (json : JSON) (key : String) (f : SessionFiles) (l : List Message) : Prop where
  lines : ∃ ls, scanLines (f.jsonl.getD []) = .ok ls ∧ (f.readMeta key).skip ≤ ls.length ∧
    (ls.drop (f.readMeta key).skip).filterMap (lineMessage json) = l
  stored : Stored json l

section
variable {json : JSON} {key : String} {f : SessionFiles} {l : List Message}

theorem readMessages_eq (jsonl : Option (List UInt8)) (skip : Nat) :
    readMessages json jsonl skip = (scanLines (jsonl.getD [])).map fun lines =>
      (lines.drop skip).filterMap (lineMessage json) := by
  cases jsonl with
  | none => simp [readMessages, scanLines, Except.map]
  | some text => rfl

theorem scanRetainedMessageLines_eq (jsonl : Option (List UInt8)) :
    scanRetainedMessageLines json jsonl =
      (scanLines (jsonl.getD [])).map fun lines => (lines.length, retained (lineMessage json) lines 1) := by
  cases jsonl with
  | none => simp [scanRetainedMessageLines, scanLines, Except.map, retained]
  | some text => rfl

theorem Holds.visible (h : Holds json key f l) : f.visible json key = .ok l := by
  obtain ⟨ls, hscan, _, hmessages⟩ := h.lines
  unfold SessionFiles.visible
  rw [readMessages_eq, hscan, Except.map, hmessages]

theorem getHistory_of_unmoderated (hmoderation : f.moderation = none) (hvisible : f.visible json key = .ok l)
    (o : RangeOrder) :
    f.getHistory json key o = .ok l := by
  unfold SessionFiles.getHistory SessionFiles.readModeration
  rw [hvisible, hmoderation]
  exact congrArg Except.ok (projectRoomModeration_empty ..)

theorem holds_empty : Holds json key {} [] := ⟨⟨[], rfl, Nat.le_refl 0, rfl⟩, List.forall_mem_nil _⟩

@[simp] theorem skip_writeMeta (m : SessionMeta) : ((f.writeMeta key m).readMeta key).skip = m.skip := by
  unfold SessionFiles.writeMeta SessionFiles.readMeta
  dsimp only
  split <;> split <;> rfl

theorem Holds.appendLine (h : Holds json key f l) (hended : f.Ended) {bytes : List UInt8} {ls' : List (List UInt8)}
    (hscan : scanLines bytes = .ok ls') (hstored : Stored json (ls'.filterMap (lineMessage json))) :
    Holds json key (f.appendBytes bytes) (l ++ ls'.filterMap (lineMessage json)) := by
  obtain ⟨ls, hls, hskip, hmessages⟩ := h.lines
  refine ⟨⟨ls ++ ls', scanLines_append hended hls hscan, ?_, ?_⟩, List.forall_mem_append.2 ⟨h.stored, hstored⟩⟩
  · rw [List.length_append]
    exact Nat.le_add_right_of_le hskip
  · show ((ls ++ ls').drop (f.readMeta key).skip).filterMap (lineMessage json) = _
    rw [List.drop_append_of_le_length hskip, List.filterMap_append, hmessages]

theorem SessionFiles.Unreadable.appendBytes (h : f.Unreadable) (hended : f.Ended) (bytes : List UInt8) :
    (f.appendBytes bytes).Unreadable := by
  obtain ⟨err, h⟩ := h
  unfold scanLines at h
  split at h
  · cases h
  · rename_i hlong
    refine ⟨_, if_neg ?_⟩
    intro (hall : ∀ line ∈ lines newline (f.jsonl.getD [] ++ bytes), line.length < maxLineSize)
    rw [lines_append bytes hended] at hall
    exact hlong (List.forall_mem_append.1 hall).1

theorem SessionFiles.Unreadable.visible (h : f.Unreadable) : ∃ err, f.visible json key = .error err := by
  obtain ⟨err, h⟩ := h
  refine ⟨err, ?_⟩
  unfold SessionFiles.visible
  rw [readMessages_eq, h]
  rfl

theorem stored_persisted (hjson : json.Lawful) (hm : isTransientAssistantThought m = false) (hfits : Fits json m) :
    Stored json [persisted m] := by
  intro m' hm'
  rw [List.mem_singleton.1 hm']
  refine ⟨rfl, hm, ?_⟩
  unfold Fits
  rwa [hjson.persisted]

theorem Holds.congr {f' : SessionFiles} (h : Holds json key f l) (hjsonl : f'.jsonl = f.jsonl)
    (hskip : (f'.readMeta key).skip = (f.readMeta key).skip) : Holds json key f' l := by
  refine ⟨?_, h.stored⟩
  rw [hjsonl, hskip]
  exact h.lines

theorem Holds.writeMeta (h : Holds json key f l) {m : SessionMeta} (hskip : m.skip = (f.readMeta key).skip) :
    Holds json key (f.writeMeta key m) l :=
  h.congr rfl (by rw [skip_writeMeta, hskip])

theorem take_line (line : List UInt8) (n : Nat) : ∃ tail, (tail = [] ∨ tail = [newline]) ∧
    (line ++ [newline]).take n = line.take n ++ tail := by
  refine ⟨_, ?_, List.take_append ..⟩
  cases n - line.length with
  | zero => exact .inl rfl
  | succ k => exact .inr (by simp)

/-- A crash or an error leaves part of a line. Its message is there if only the end of the line is missing. -/
theorem Holds.torn (hjson : json.Lawful) (h : Holds json key f l) (hended : f.Ended)
    (hm : isTransientAssistantThought m = false) {n : Nat} (hfits : ((json.marshal m).take n).length < maxLineSize) :
    Holds json key (f.appendBytes ((json.marshal m ++ [newline]).take n))
      (l ++ if (json.marshal m).length ≤ n then [persisted m] else []) := by
  obtain ⟨tail, htail, hpart⟩ := take_line (json.marshal m) n
  have hscan := scanLines_part (fun b hb => hjson.plain m b (List.mem_of_mem_take hb)) hfits htail
  rw [← hpart] at hscan
  have hmessages : (if (json.marshal m).take n = [] then [] else [(json.marshal m).take n]).filterMap
      (lineMessage json) =
        if (json.marshal m).length ≤ n then [persisted m] else [] := by
    by_cases hn : (json.marshal m).length ≤ n
    · rw [List.take_of_length_le hn, if_neg (hjson.nonempty m), if_pos hn,
        List.filterMap_cons_some (lineMessage_marshal hjson hm), List.filterMap_nil]
    · rw [if_neg hn]
      have hnone : lineMessage json ((json.marshal m).take n) = none := by
        unfold lineMessage
        rw [hjson.torn m n (Nat.lt_of_not_le hn)]
        rfl
      split
      · rfl
      · rw [List.filterMap_cons_none hnone, List.filterMap_nil]
  have hstored : Stored json (if (json.marshal m).length ≤ n then [persisted m] else []) := by
    split
    · rename_i hn
      rw [List.take_of_length_le hn] at hfits
      exact stored_persisted hjson hm hfits
    · exact List.forall_mem_nil _
  have happended := h.appendLine hended hscan (hmessages ▸ hstored)
  rwa [hmessages] at happended

theorem unreadable_torn (hjson : json.Lawful) (hended : f.Ended) {n : Nat}
    (hlong : maxLineSize ≤ ((json.marshal m).take n).length) :
    (f.appendBytes ((json.marshal m ++ [newline]).take n)).Unreadable := by
  obtain ⟨tail, htail, hpart⟩ := take_line (json.marshal m) n
  rw [hpart]
  exact ⟨_, scanLines_long hended (fun hmem => (hjson.plain m _ (List.mem_of_mem_take hmem)).1 rfl) hlong htail⟩

theorem Holds.addMsgLocked (hjson : json.Lawful) (h : Holds json key f l) (hended : f.Ended) (now : Nat)
    (hm : isTransientAssistantThought m = false) (hfits : Fits json m) :
    Holds json key (f.addMsgLocked json key now m) (l ++ [persisted m]) := by
  have htorn := h.torn hjson hended hm (n := (json.marshal m).length + 1)
    (by rwa [List.take_of_length_le (Nat.le_succ _)])
  rw [List.take_of_length_le (by simp), if_pos (Nat.le_succ _)] at htorn
  exact htorn.writeMeta rfl

theorem ended_addMsgLocked (now : Nat) (m : Message) : (f.addMsgLocked json key now m).Ended := by
  show Terminated newline (f.jsonl.getD [] ++ (json.marshal m ++ [newline]))
  rw [← List.append_assoc]
  exact terminated_snoc _

theorem Holds.rewrite (hjson : json.Lawful) {messages : List Message} (hskip : (f.readMeta key).skip = 0)
    (hfits : ∀ m ∈ filterInvalidHistoryMessages messages, Fits json m) :
    Holds json key (f.rewriteJSONL json messages) ((filterInvalidHistoryMessages messages).map persisted) := by
  have hkept : ∀ m ∈ filterInvalidHistoryMessages messages, isTransientAssistantThought m = false := by
    intro m hm
    simpa using (List.mem_filter.1 hm).2
  unfold SessionFiles.rewriteJSONL
  generalize filterInvalidHistoryMessages messages = kept at hfits hkept
  refine ⟨⟨kept.map json.marshal, scanLines_messages hjson hfits, ?_, ?_⟩, fun m hm => ?_⟩
  · rw [show (({ f with jsonl := some _ } : SessionFiles).readMeta key).skip = 0 from hskip]
    exact Nat.zero_le _
  · rw [show (({ f with jsonl := some _ } : SessionFiles).readMeta key).skip = 0 from hskip, List.drop_zero,
      List.filterMap_map, ← List.filterMap_eq_map]
    exact List.filterMap_congr fun m hm => lineMessage_marshal hjson (hkept m hm)
  · obtain ⟨m', hm', rfl⟩ := List.mem_map.1 hm
    exact stored_persisted hjson (hkept m' hm') (hfits m' hm') _ (List.mem_singleton_self _)

theorem ended_rewrite (messages : List Message) : (f.rewriteJSONL json messages).Ended := by
  unfold SessionFiles.Ended SessionFiles.rewriteJSONL
  have hflat : ((filterInvalidHistoryMessages messages).flatMap fun m => json.marshal m ++ [newline]) =
      ((filterInvalidHistoryMessages messages).map json.marshal).flatMap (· ++ [newline]) := by
    rw [List.flatMap_map]
  rw [hflat]
  exact terminated_flatMap _

theorem filterInvalid_stored (h : Stored json l) : filterInvalidHistoryMessages l = l :=
  List.filter_eq_self.2 fun m hm => by simpa using (h m hm).2.1

theorem map_persisted_stored (h : Stored json l) : l.map persisted = l :=
  (List.map_congr_left fun m hm => (h m hm).1).trans (List.map_id' l)

/-- `SetHistory` replaces the messages by those of its argument. -/
theorem Holds.setHistory (hjson : json.Lawful) (h : Holds json key f l) (now : Nat) (history : List Message)
    (hfits : ∀ m ∈ filterInvalidHistoryMessages (SessionFiles.historyToSet history l), Fits json m) :
    ∃ f', f.setHistory json key now history = .ok f' ∧ (f'.Ended ∧ (f'.readMeta key).skip = 0) ∧
      f'.moderation = f.moderation ∧
      Holds json key f' ((filterInvalidHistoryMessages (SessionFiles.historyToSet history l)).map persisted) := by
  unfold SessionFiles.setHistory
  rw [h.visible]
  exact ⟨_, rfl, ⟨ended_rewrite _, skip_writeMeta (f := f) _⟩, rfl, .rewrite hjson (skip_writeMeta _) hfits⟩

/-- `Compact` keeps the messages. -/
theorem Holds.compact (hjson : json.Lawful) (h : Holds json key f l) (now : Nat) :
    ∃ f', f.compact json key now = .ok f' ∧ ((f.Ended → f'.Ended) ∧ (f'.readMeta key).skip = 0) ∧
      f'.moderation = f.moderation ∧ Holds json key f' l := by
  unfold SessionFiles.compact
  dsimp only
  split
  · rename_i hskip
    exact ⟨f, rfl, ⟨id, hskip⟩, rfl, h⟩
  · rw [h.visible]
    have hrewrite :
        Holds json key
          ((f.writeMeta key { f.readMeta key with skip := 0, count := l.length, updatedAt := now }).rewriteJSONL json l)
          ((filterInvalidHistoryMessages l).map persisted) := by
      refine .rewrite hjson (skip_writeMeta _) ?_
      rw [filterInvalid_stored h.stored]
      exact fun m hm => (h.stored m hm).2.2
    rw [filterInvalid_stored h.stored, map_persisted_stored h.stored] at hrewrite
    exact ⟨_, rfl, ⟨fun _ => ended_rewrite _, skip_writeMeta (f := f) _⟩, rfl, hrewrite⟩

/-- `TruncateHistory` keeps the last messages. -/
theorem Holds.truncateHistory (h : Holds json key f l) (now : Nat) (keepLast : Int) :
    ∃ f', f.truncateHistory json key now keepLast = .ok f' ∧ f'.jsonl = f.jsonl ∧ f'.moderation = f.moderation ∧
      Holds json key f' (l.drop (l.length - keepLast.toNat)) := by
  obtain ⟨ls, hscan, hskip, hmessages⟩ := h.lines
  obtain ⟨hskip', hkept⟩ := truncated_lines (lineMessage json) hskip keepLast
  rw [← retained_search (lineMessage json) hskip, List.length_drop] at hskip' hkept
  rw [hmessages] at hkept
  unfold SessionFiles.truncateHistory
  rw [scanRetainedMessageLines_eq, hscan]
  refine ⟨_, rfl, rfl, rfl, ⟨ls, hscan, ?_, ?_⟩, fun m hm => h.stored m (List.mem_of_mem_drop hm)⟩
  · rw [skip_writeMeta, if_neg (Nat.not_lt.2 hskip)]
    exact hskip'
  · rw [skip_writeMeta, if_neg (Nat.not_lt.2 hskip)]
    exact hkept

end

end OpenFox.Memory
