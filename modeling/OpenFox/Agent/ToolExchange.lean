/-
Tool results stay attached to their calls. Denied, hooked, executed and skipped calls of a batch each get one message
of a tool, in the order of the calls. Results of sub-turns are polled between the tools of a batch too, and such a
result is a message of a user in the middle of an exchange. In a run in which none is there when a batch is half done,
exchanges are whole at each call of the model and at the turn's end, and sanitizing the history keeps them.
-/
import OpenFox.Agent.Sanitize
import OpenFox.Agent.Turn

namespace OpenFox.Agent

open OpenFox.Base

/-! ## A batch that is half done -/

/-- An exchange at the end of the list, of which the first `i` calls are answered. -/
def HalfDone (strict : Prop) (calls : List ToolCall) (i : Nat) (l : List Message) : Prop :=
  ∃ before m answers, l = before ++ m :: answers ∧ Whole strict before ∧ m.hasToolCalls = true ∧ m.toolCalls = calls ∧
    Answers answers (calls.take i) ∧ (strict → Ready before ∧ ValidCalls calls)

variable {strict : Prop} {calls : List ToolCall} {i : Nat} {l : List Message} {tc : ToolCall} {c : Choice}

variable {s' : TurnState} {ms : List Message} {r : LLMResponse} {t m : Message} {retry : Nat}

namespace HalfDone

section
variable (h : HalfDone strict calls i l)
include h

theorem answer (htc : calls[i]? = some tc) (ht : t.isTool = true)
    (hid : t.toolCallID = tc.id) : HalfDone strict calls (i + 1) (l ++ [t]) := by
  obtain ⟨before, m, answers, rfl, hbefore, hm, hcalls, hanswers, hstrict⟩ := h
  refine ⟨before, m, answers ++ [t], by simp, hbefore, hm, hcalls, ⟨?_, ?_⟩, hstrict⟩
  · exact List.forall_mem_append.2 ⟨hanswers.1, fun _ ht' => List.mem_singleton.1 ht' ▸ ht⟩
  · rw [List.map_append, hanswers.2, List.take_add_one, htc, List.map_append, List.map_singleton, hid]
    rfl

theorem finish {tools : List Message} (htools : Answers tools (calls.drop i)) :
    Whole strict (l ++ tools) ∧ Ready (l ++ tools) := by
  obtain ⟨before, m, answers, rfl, hbefore, hm, rfl, hanswers, hstrict⟩ := h
  have hall : Answers (answers ++ tools) m.toolCalls := by
    refine ⟨List.forall_mem_append.2 ⟨hanswers.1, htools.1⟩, ?_⟩
    rw [List.map_append, hanswers.2, htools.2, ← List.map_append, List.take_append_drop]
  rw [List.append_assoc, List.cons_append]
  exact ⟨hbefore.exchange hm hall hstrict, ready_exchange before hm hall⟩

theorem whole (hi : calls.length ≤ i) : Whole strict l ∧ Ready l := by
  have hnone : Answers [] (calls.drop i) := ⟨List.forall_mem_nil _, by rw [List.drop_of_length_le hi]; rfl⟩
  simpa using h.finish hnone

end

end HalfDone

/-! ## The invariant -/

/-- Where the turn is in its exchanges. -/
abbrev Batch (strict : Prop) (o : TurnOptions) (s : TurnState) : TurnPc → Prop
  | .setup | .prepare => s.stored = []
  | .loop | .gather | .parent | .results | .inject =>
    Whole False s.messages ∧
      (o.noHistory = false → Whole strict s.stored ∧ (strict → Ready s.stored ∨ s.localPending ≠ []))
  | .call | .attempt _ | .backoff _ | .direct _ =>
    Whole False s.messages ∧ (o.noHistory = false → Whole strict s.stored ∧ (strict → Ready s.stored))
  | .answered r =>
    Whole False s.messages ∧ (o.noHistory = false → Whole strict s.stored ∧ (strict → Ready s.stored)) ∧
      (strict → ValidCalls r.toolCalls)
  | .tool i =>
    (HalfDone False s.toolCalls i s.messages ∧ (o.noHistory = false → HalfDone strict s.toolCalls i s.stored)) ∨
      (s.toolCalls.length ≤ i ∧ Whole False s.messages ∧
        (o.noHistory = false → Whole strict s.stored ∧ (strict → Ready s.stored)))
  | .hooks i | .executed i | .result i =>
    HalfDone False s.toolCalls i s.messages ∧ (o.noHistory = false → HalfDone strict s.toolCalls i s.stored)
  | .steer i | .skip i | .poll i =>
    HalfDone False s.toolCalls (i + 1) s.messages ∧ (o.noHistory = false → HalfDone strict s.toolCalls (i + 1) s.stored)
  | .toolsDone => Whole False s.messages ∧ (o.noHistory = false → Whole strict s.stored ∧ (strict → Ready s.stored))
  | .exit | .finalize _ | .ended (.completed _) =>
    Whole False s.messages ∧ (o.noHistory = false → Whole strict s.stored)
  | .ended _ => True

def FromUsers (l : List Message) : Prop := ∀ m ∈ l, m.role = .user

theorem FromUsers.append {l' : List Message} (h : FromUsers l) (h' : FromUsers l') : FromUsers (l ++ l') :=
  List.forall_mem_append.2 ⟨h, h'⟩

/-- What waits to be answered, and what is stored or would be restored. -/
abbrev TurnState.waiting (s : TurnState) := (s.steering, s.pendingMessages, s.localPending, s.stored, s.restorePoint)

/-- What waits to be injected is from users, and what is stored or would be restored is no system message. -/
structure UsersWait (o : TurnOptions) (s : TurnState) : Prop where
  queue : s.steering.All fun m => m.role = .user
  pending : FromUsers s.pendingMessages
  localPending : FromUsers s.localPending
  hidden : o.noHistory = true → s.stored = []
  system : ∀ m ∈ s.stored ++ s.restorePoint, m.role ≠ .system

structure BatchKept (strict : Prop) (o : TurnOptions) (s : TurnState) : Prop extends UsersWait o s where
  batch : Batch strict o s s.pc

/-- No result of a sub-turn is there for a batch that is half done. -/
def NoneInBatch (o : TurnOptions) (s : TurnState) : TurnEvent → Prop
  | .turn _ => ∀ i ∈ s.pc.polled, i + 1 < s.toolCalls.length → (s.receiveResult o).2 = []
  | _ => True

instance (o : TurnOptions) (s : TurnState) : ∀ e, Decidable (NoneInBatch o s e)
  | .turn _ =>
    inferInstanceAs (Decidable (∀ i ∈ s.pc.polled, i + 1 < s.toolCalls.length → (s.receiveResult o).2 = []))
  | .push .. | .poll _ | .clear _ | .setMode _ | .interrupt | .abort | .deliver _ | .endParent => isTrue trivial

/-- The messages that are built anew after a context window error. -/
def TurnEvent.rebuilt : TurnEvent → List Message
  | .turn c => c.answer.rebuilt
  | _ => []

/-- The messages a turn starts from: whole exchanges, and messages of users. -/
structure ExchangeOptions (o : TurnOptions) : Prop where
  prompt : Whole False o.prompt
  root : ∀ m ∈ o.root, m.role = .user
  initial : FromUsers o.initialSteeringMessages

/-- The calls of a response have identifiers of their own. -/
def TurnEvent.ValidResponses : TurnEvent → Prop
  | .turn c => ValidCalls c.answer.toolCalls ∧ ∀ r ∈ c.hookResponse, ValidCalls r.toolCalls
  | _ => True

instance : DecidablePred TurnEvent.ValidResponses
  | .turn c =>
    inferInstanceAs (Decidable (ValidCalls c.answer.toolCalls ∧ ∀ r ∈ c.hookResponse, ValidCalls r.toolCalls))
  | .push .. | .poll _ | .clear _ | .setMode _ | .interrupt | .abort | .deliver _ | .endParent => isTrue trivial

section
variable {o : TurnOptions} {s : TurnState}

/-! ## One step -/

theorem UsersWait.move (h : UsersWait o s) (hs : s'.waiting = s.waiting) : UsersWait o s' := by
  simp only [TurnState.waiting, Prod.mk.injEq] at hs
  obtain ⟨hqueue, hpending, hlocal, hstored, hrestores⟩ := hs
  refine ⟨hqueue ▸ h.queue, hpending ▸ h.pending, hlocal ▸ h.localPending, hstored ▸ h.hidden, ?_⟩
  rw [hstored, hrestores]
  exact h.system

theorem UsersWait.store (h : UsersWait o s) (hms : ∀ m ∈ ms, m.role ≠ .system) :
    UsersWait o { s with stored := ms.foldl (TurnState.addFullMessage o) s.stored } := by
  obtain ⟨hstored, hrestores⟩ := List.forall_mem_append.1 h.system
  refine ⟨h.queue, h.pending, h.localPending, fun ho => ?_, List.forall_mem_append.2 ⟨fun m hm => ?_, hrestores⟩⟩
  · exact (foldl_addFullMessage_hidden ho ms s.stored).trans (h.hidden ho)
  · rcases mem_foldl_addFullMessage hm with hm | hm
    · exact hstored m hm
    · exact hms m hm

theorem UsersWait.storeOne (h : UsersWait o s) (m : Message) (hm : m.role ≠ .system) : UsersWait o (s.store o m) :=
  h.store fun _ hmem => List.mem_singleton.1 hmem ▸ hm

theorem whole_addFullMessage {stored : List Message} (h : Whole strict stored) (hm : m.Plain) :
    Whole strict (TurnState.addFullMessage o stored m) := by
  unfold TurnState.addFullMessage
  split
  · exact h
  · exact h.plain hm

theorem UsersWait.append (h : UsersWait o s) (hms : ∀ m ∈ ms, m.role ≠ .system) : UsersWait o (s.append o ms) :=
  (h.store hms).move rfl

theorem BatchKept.at (h : BatchKept strict o s) {pc : TurnPc} (hpc : s.pc = pc) : Batch strict o s pc := hpc ▸ h.batch

theorem UsersWait.kept (h : UsersWait o s) (pc : TurnPc) (hbatch : Batch strict o s pc) (hpc : s.pc = pc) :
    BatchKept strict o s :=
  ⟨h, hpc ▸ hbatch⟩

theorem UsersWait.goto (h : UsersWait o s) (pc : TurnPc) (hbatch : Batch strict o s' pc)
    (hs : (s'.pc, s'.waiting) = (pc, s.waiting)) : BatchKept strict o s' :=
  (h.move (Prod.mk.inj hs).2).kept pc hbatch (Prod.mk.inj hs).1

theorem BatchKept.aborted (h : BatchKept strict o s) (hs : s'.waiting = s.waiting) :
    BatchKept strict o (s'.abortTurn o c) := by
  have h' : UsersWait o s' := h.move hs
  obtain ⟨stored, outcome, heq, hstored, houtcome⟩ := s'.abortTurn_eq o c
  have hbatch : Batch strict o { s' with stored := stored, pc := .ended outcome } (.ended outcome) := by
    rcases houtcome with rfl | rfl <;> trivial
  rw [heq]
  rcases hstored with rfl | ⟨ho, rfl⟩
  · exact UsersWait.kept ⟨h'.queue, h'.pending, h'.localPending, h'.hidden, h'.system⟩ _ hbatch rfl
  · obtain ⟨-, hrestores⟩ := List.forall_mem_append.1 h'.system
    refine UsersWait.kept ⟨h'.queue, h'.pending, h'.localPending, fun ho' => ?_, ?_⟩ _ hbatch rfl
    · exact absurd ho' (by simp [ho])
    · exact List.forall_mem_append.2 ⟨hrestores, hrestores⟩

theorem BatchKept.failed (h : BatchKept strict o s) : BatchKept strict o s.fail :=
  h.goto (.ended .error) trivial rfl

theorem UsersWait.polled (h : UsersWait o s) {polled : List Message × SteeringQueue}
    (hpolled : FromUsers polled.1 ∧ polled.2.All fun m => m.role = .user) : UsersWait o (s.take polled) :=
  { h with queue := hpolled.2 }

/-! ### The turn's loop -/

section
variable (h : BatchKept strict o s)
include h

theorem start_batch (hpc : s.pc = .setup) : BatchKept strict o (s.start o c) := by
  unfold TurnState.start
  split
  · exact h.aborted rfl
  · exact h.goto .prepare (h.at hpc) rfl

theorem setup_batch (ho : ExchangeOptions o) (hstrict : strict → o.root ≠ none ∨ o.initialSteeringMessages ≠ [])
    (hpc : s.pc = .prepare) (c : Choice) : BatchKept strict o (s.setupTurn o c) := by
  have hstored : s.stored = [] := h.at hpc
  have hroots : FromUsers o.root.toList := by simpa [FromUsers] using ho.root
  have hroots' : ∀ m ∈ o.root.toList, m.role ≠ .system := fun m hm => by
    rw [hroots m hm]
    decide
  unfold TurnState.setupTurn
  split
  · exact h.failed
  refine UsersWait.kept ?_ .loop ⟨ho.prompt, fun hkeep => ?_⟩ rfl
  · have hstore := h.toUsersWait.store hroots'
    refine ⟨hstore.queue, ho.initial, ho.initial, hstore.hidden, List.forall_mem_append.2 ?_⟩
    refine ⟨(List.forall_mem_append.1 hstore.system).1, ?_⟩
    split
    · exact hroots'
    · exact List.forall_mem_nil _
  · rw [hstored, foldl_addFullMessage hkeep _ _ fun m hm => not_transient_of_user (hroots m hm), List.nil_append]
    refine ⟨.of_users hroots, fun hs => ?_⟩
    rcases hstrict hs with hroot | hinitial
    · obtain ⟨root, hroot⟩ := Option.ne_none_iff_exists'.1 hroot
      rw [hroot] at hroots ⊢
      exact .inl ⟨root, rfl, .inl (hroots root (List.mem_singleton_self root))⟩
    · exact .inr hinitial

theorem loopHead_batch (hpc : s.pc = .loop) : BatchKept strict o (s.loopHead o c) := by
  have hbatch := h.at hpc
  unfold TurnState.loopHead
  split
  · split
    · exact h.aborted rfl
    · exact h.goto .gather hbatch rfl
  · exact h.goto .exit ⟨hbatch.1, fun hkeep => (hbatch.2 hkeep).1⟩ rfl

theorem gather_batch (hpc : s.pc = .gather) : BatchKept strict o (s.gather o) := by
  have hbatch := h.at hpc
  -- what waits only becomes more
  have hmore : ∀ more, o.noHistory = false → Whole strict s.stored ∧
    (strict → Ready s.stored ∨ s.localPending ++ more ≠ []) :=
    fun more hkeep =>
      ⟨(hbatch.2 hkeep).1, fun hs => ((hbatch.2 hkeep).2 hs).imp_right (List.append_ne_nil_of_left_ne_nil · more)⟩
  unfold TurnState.gather
  split
  · refine UsersWait.kept ⟨h.queue, List.forall_mem_nil _, h.localPending.append h.pending, h.hidden, h.system⟩
      .parent ?_ rfl
    exact ⟨hbatch.1, hmore _⟩
  split
  · exact h.goto .parent hbatch rfl
  · have hpolled := h.queue.dequeueScopeWithFallback o.sessionKey
    generalize s.steering.dequeueScopeWithFallback o.sessionKey = polled at hpolled
    refine UsersWait.kept ⟨hpolled.2, h.pending, h.localPending.append hpolled.1, h.hidden, h.system⟩ .parent ?_ rfl
    exact ⟨hbatch.1, hmore _⟩

theorem checkParent_batch (hpc : s.pc = .parent) : BatchKept strict o (s.checkParent o) := by
  have hbatch := h.at hpc
  unfold TurnState.checkParent
  split
  · exact h.goto .exit ⟨hbatch.1, fun hkeep => (hbatch.2 hkeep).1⟩ rfl
  · exact h.goto .results hbatch rfl

omit h in
/-- A received result is a message of a user; nothing else changes but the channel. -/
theorem receiveResult_spec : ∃ pendingResults, (s.receiveResult o).1 = { s with pendingResults := pendingResults } ∧
    FromUsers (s.receiveResult o).2 := by
  unfold TurnState.receiveResult
  split
  · refine ⟨_, rfl, fun m hm => ?_⟩
    split at hm
    · cases hm
    · rw [List.mem_singleton.1 hm]
      rfl
  · exact ⟨s.pendingResults, rfl, List.forall_mem_nil _⟩

theorem pollResults_batch (hpc : s.pc = .results) : BatchKept strict o (s.pollResults o) := by
  have hbatch := h.at hpc
  obtain ⟨pendingResults, hstate, husers⟩ := receiveResult_spec
  unfold TurnState.pollResults
  dsimp only
  rw [hstate]
  refine UsersWait.kept ⟨h.queue, h.pending, h.localPending.append husers, h.hidden, h.system⟩ .inject
    ⟨hbatch.1, fun hkeep => ?_⟩ rfl
  exact ⟨(hbatch.2 hkeep).1, fun hs => ((hbatch.2 hkeep).2 hs).imp_right (List.append_ne_nil_of_left_ne_nil · _)⟩

omit h in
theorem ready_append_users {users : List Message} (husers : FromUsers users) (h : Ready l ∨ users ≠ []) :
    Ready (l ++ users) := by
  by_cases hnone : users = []
  · rw [hnone, List.append_nil]
    exact h.resolve_right fun hsome => hsome hnone
  · rw [← List.dropLast_append_getLast hnone, ← List.append_assoc]
    exact ready_snoc _ (.inl (husers _ (List.getLast_mem hnone)))

omit h in
theorem resolveMediaRefs_fromUsers (store : Option MediaStore) (h : FromUsers l) (start : Nat) :
    FromUsers (resolveMediaRefs store l start) := by
  rw [resolveMediaRefs_of_users store start h]
  intro m hm
  obtain ⟨m', hm', rfl⟩ := List.mem_map.1 hm
  rw [resolveOne_role]
  exact h m' hm'

theorem inject_batch (hpc : s.pc = .inject) : BatchKept strict o (s.inject o) := by
  have hbatch := h.at hpc
  have hlocal : UsersWait o { s with stored := s.localPending.foldl (TurnState.addFullMessage o) s.stored } :=
    h.toUsersWait.store fun m hm => by
      rw [h.localPending m hm]
      decide
  refine UsersWait.kept ⟨h.queue, ?_, h.localPending, hlocal.hidden, hlocal.system⟩ .call ⟨?_, fun hkeep => ?_⟩ rfl
  · unfold TurnState.inject
    split
    · exact h.pending
    · exact List.forall_mem_nil _
  · refine hbatch.1.append (.of_users fun m hm => ?_)
    exact resolveMediaRefs_fromUsers o.media h.localPending 0 m (List.mem_of_mem_take hm)
  · obtain ⟨hwhole, hready⟩ := hbatch.2 hkeep
    unfold TurnState.inject
    rw [foldl_addFullMessage hkeep _ _ fun m hm => not_transient_of_user (h.localPending m hm)]
    exact ⟨hwhole.append (.of_users h.localPending), fun hs => ready_append_users h.localPending (hready hs)⟩

/-! ### CallLLM -/

theorem callLLM_batch (hpc : s.pc = .call) (c : Choice) : BatchKept strict o (s.callLLM o c) := by
  have hbatch := h.at hpc
  unfold TurnState.callLLM
  dsimp only
  split
  · exact h.goto (.ended .error) trivial rfl
  split
  · exact h.goto (.ended .error) trivial rfl
  · exact h.aborted rfl
  · refine h.goto (.attempt 0) ⟨?_, hbatch.2⟩ rfl
    show Whole False (if s.iteration > 1 then resolveMediaRefs o.media s.messages s.currentTurnStart else s.messages)
    split
    · exact whole_resolveMediaRefs o.media s.currentTurnStart hbatch.1
    · exact hbatch.1

omit h in
theorem whole_persisted (h : Whole False l) : Whole False (l.map persisted) := by
  induction h with
  | nil => exact .nil
  | @plain l m _ hm ih =>
    rw [List.map_append, List.map_singleton]
    exact ih.plain hm
  | @exchange l m tools _ hm htools _ ih =>
    rw [List.map_append, List.map_cons]
    refine ih.exchange hm ⟨fun t ht => ?_, ?_⟩ False.elim
    · obtain ⟨t', ht', rfl⟩ := List.mem_map.1 ht
      exact htools.1 t' ht'
    · rw [List.map_map]
      exact htools.2

theorem callProvider_batch (hpc : s.pc = .attempt retry)
    (hrebuilt : Whole False c.answer.rebuilt) (hvalid : strict → (TurnEvent.turn c).ValidResponses) :
    BatchKept strict o (s.callProvider o c retry) := by
  have hbatch := h.at hpc
  unfold TurnState.callProvider
  split
  · rename_i r hanswer
    have hcalls : c.answer.toolCalls = r.toolCalls := by rw [hanswer]; rfl
    exact h.goto (.answered r) ⟨hbatch.1, hbatch.2, fun hs => hcalls ▸ (hvalid hs).1⟩ rfl
  · split
    · exact h.aborted rfl
    · exact h.failed
  · split
    · exact h.goto (.backoff retry) hbatch rfl
    · exact h.failed
  · rename_i rebuilt currentTurnStart fits hanswer
    have hnone : ∀ m ∈ s.stored ++ [], m.role ≠ .system := List.forall_mem_append.2
      ⟨(List.forall_mem_append.1 h.system).1, List.forall_mem_nil _⟩
    have hwait : UsersWait o { s with restorePoint := [] } := ⟨h.queue, h.pending, h.localPending, h.hidden, hnone⟩
    split
    · split
      · rw [hanswer] at hrebuilt
        exact hwait.goto (.attempt (retry + 1)) ⟨whole_persisted hrebuilt, hbatch.2⟩ rfl
      · exact hwait.goto (.ended .error) trivial rfl
    · exact h.failed
  · exact h.failed

theorem finishWith_batch (hbatch : Batch strict o s .exit) (content : String) :
    BatchKept strict o (s.finishWith o content) :=
  h.goto (.finalize _) hbatch rfl

theorem backoff_batch (hpc : s.pc = .backoff retry) (c : Choice) : BatchKept strict o (s.backoff o c retry) := by
  have hbatch := h.at hpc
  have hretry : BatchKept strict o (s.goto (.attempt (retry + 1))) := h.goto (.attempt _) hbatch rfl
  unfold TurnState.backoff
  split
  · exact hretry
  split
  · exact finishWith_batch h ⟨hbatch.1, fun hkeep => (hbatch.2 hkeep).1⟩ _
  split
  · exact h.failed
  · exact hretry

omit h in
theorem halfDone_begin (hl : Whole strict l) (hm : m.hasToolCalls = true)
    (hstrict : strict → Ready l ∧ ValidCalls m.toolCalls) : HalfDone strict m.toolCalls 0 (l ++ [m]) :=
  ⟨l, m, [], rfl, hl, hm, rfl, ⟨List.forall_mem_nil _, rfl⟩, hstrict⟩

theorem afterLLM_batch (hpc : s.pc = .answered r)
    (hvalid : strict → (TurnEvent.turn c).ValidResponses) : BatchKept strict o (s.afterLLM o c r) := by
  obtain ⟨hmessages, hstored, hcalls⟩ := h.at hpc
  have hresponse : strict → ValidCalls (c.hookResponse.getD r).toolCalls := by
    intro hs
    cases hhook : c.hookResponse with
    | none => exact hcalls hs
    | some r' => exact (hvalid hs).2 r' hhook
  unfold TurnState.afterLLM
  split
  · exact h.failed
  · exact h.aborted rfl
  dsimp only
  split
  · exact h.goto (.direct _) ⟨hmessages, hstored⟩ rfl
  rename_i hsome
  rw [not_or] at hsome
  generalize c.hookResponse.getD r = r at hsome hresponse
  have hm : (assistantMessage r).hasToolCalls = true := by simp [Message.hasToolCalls, assistantMessage, hsome.1]
  have happend : UsersWait o (s.append o [assistantMessage r]) :=
    h.toUsersWait.append fun m hmem => List.mem_singleton.1 hmem ▸ Role.noConfusion
  refine UsersWait.kept ⟨h.queue, h.pending, h.pending, happend.hidden, happend.system⟩ (.tool 0)
    (.inl ⟨?_, fun hkeep => ?_⟩) rfl
  · exact halfDone_begin hmessages hm False.elim
  · have hone : (s.append o [assistantMessage r]).stored = s.stored ++ [assistantMessage r] :=
      append_stored hkeep s fun m hmem => not_transient_of_calls (List.mem_singleton.1 hmem ▸ hsome.1)
    have hbegin := halfDone_begin (hstored hkeep).1 hm fun hs => ⟨(hstored hkeep).2 hs, hresponse hs⟩
    exact (hone ▸ hbegin :)

theorem directAnswer_batch (hpc : s.pc = .direct r) : BatchKept strict o (s.directAnswer o r) := by
  have hbatch := h.at hpc
  have hpolled := h.queue.dequeueLocked (normalizeSteeringScope o.sessionKey)
  unfold TurnState.directAnswer SteeringQueue.dequeueScope
  generalize s.steering.dequeueLocked (normalizeSteeringScope o.sessionKey) = polled at hpolled
  have htaken := h.toUsersWait.polled hpolled
  dsimp only
  split
  · exact htaken.goto (.finalize _) ⟨hbatch.1, fun hkeep => (hbatch.2 hkeep).1⟩ rfl
  · have hpending := h.pending.append hpolled.1
    refine UsersWait.kept ⟨hpolled.2, hpending, hpending, h.hidden, h.system⟩ .loop ⟨hbatch.1, fun hkeep => ?_⟩ rfl
    exact ⟨(hbatch.2 hkeep).1, fun hs => .inl ((hbatch.2 hkeep).2 hs)⟩

/-! ### ExecuteTools -/

omit h in
theorem UsersWait.answer (h : UsersWait o s) (htc : s.toolCalls[i]? = some tc) (hbatch : Batch strict o s (.hooks i))
    (ht : t.role = .tool) (hid : t.toolCallID = tc.id) :
    UsersWait o (s.append o [t]) ∧ HalfDone False s.toolCalls (i + 1) (s.append o [t]).messages ∧
    (o.noHistory = false → HalfDone strict s.toolCalls (i + 1) (s.append o [t]).stored) := by
  have htool : t.isTool = true := by simp [Message.isTool, ht]
  refine ⟨h.append fun m hm => ?_, hbatch.1.answer htc htool hid, fun hkeep => ?_⟩
  · rw [List.mem_singleton.1 hm, ht]
    decide
  · rw [append_stored hkeep s fun m hm => not_transient_of_tool (List.mem_singleton.1 hm ▸ ht)]
    exact (hbatch.2 hkeep).answer htc htool hid

theorem deny_batch (htc : s.toolCalls[i]? = some tc) (hbatch : Batch strict o s (.hooks i))
    (content : String) : BatchKept strict o (s.deny o i tc content) := by
  obtain ⟨husers, hanswered⟩ := h.toUsersWait.answer htc hbatch (t := toolMessage content tc) rfl rfl
  exact husers.goto (.tool (i + 1)) (.inl hanswered) rfl

theorem appendResult_batch (htc : s.toolCalls[i]? = some tc) (hbatch : Batch strict o s (.hooks i))
    (result : ToolResult) : BatchKept strict o (s.appendResult o i tc result) := by
  obtain ⟨husers, hanswered⟩ := h.toUsersWait.answer htc hbatch
    (t := toolResultPromptMessage result.contentForLLM tc.id
      (if result.responseHandled = true then [] else result.media)) rfl rfl
  exact husers.goto (.steer i) hanswered rfl

theorem allAnswered_batch (hi : s.toolCalls.length ≤ i) (hbatch : Batch strict o s (.hooks i)) :
    BatchKept strict o (s.goto .toolsDone) := by
  refine h.goto .toolsDone ⟨(hbatch.1.whole hi).1, fun hkeep => ?_⟩ rfl
  have hwhole := (hbatch.2 hkeep).whole hi
  exact ⟨hwhole.1, fun _ => hwhole.2⟩

theorem toolHead_batch (hpc : s.pc = .tool i) : BatchKept strict o (s.toolHead o c i) := by
  have hat := h.at hpc
  unfold TurnState.toolHead
  split
  · rename_i hnone
    rcases hat with hbatch | ⟨_, hdone⟩
    · exact allAnswered_batch h (List.getElem?_eq_none_iff.1 hnone) hbatch
    · exact h.goto .toolsDone hdone rfl
  rename_i tc htc
  have hbatch := hat.resolve_right fun hdone => by
    have hlt := (List.getElem?_eq_some_iff.1 htc).1
    omega
  split
  · exact h.aborted rfl
  split
  · exact deny_batch h htc hbatch _
  · exact h.goto (.hooks i) hbatch rfl

theorem approveTool_batch (htc : s.toolCalls[i]? = some tc) (hbatch : Batch strict o s (.hooks i))
    (c : Choice) (toolName : String) : BatchKept strict o (s.approveTool o c i tc toolName) := by
  unfold TurnState.approveTool
  split
  · exact deny_batch h htc hbatch _
  split
  · exact deny_batch h htc hbatch _
  · exact h.goto (.executed i) hbatch rfl

theorem beforeTool_batch (hpc : s.pc = .hooks i) (c : Choice) : BatchKept strict o (s.beforeTool o c i) := by
  have hbatch := h.at hpc
  unfold TurnState.beforeTool
  split
  · exact allAnswered_batch h (List.getElem?_eq_none_iff.1 ‹_›) hbatch
  rename_i tc htc
  split
  · exact approveTool_batch h htc hbatch c _
  · exact approveTool_batch h htc hbatch c _
  · split
    · exact appendResult_batch h htc hbatch _
    · exact approveTool_batch h htc hbatch c _
  · exact deny_batch h htc hbatch _
  · exact h.failed
  · exact h.aborted rfl

theorem toolReturned_batch (hpc : s.pc = .executed i) : BatchKept strict o (s.toolReturned o c i) := by
  unfold TurnState.toolReturned
  split
  · exact h.aborted rfl
  · exact h.goto (.result i) (h.at hpc) rfl

theorem afterTool_batch (hpc : s.pc = .result i) (c : Choice) : BatchKept strict o (s.afterTool o c i) := by
  have hbatch := h.at hpc
  unfold TurnState.afterTool
  split
  · exact allAnswered_batch h (List.getElem?_eq_none_iff.1 ‹_›) hbatch
  split
  · exact h.failed
  · exact h.aborted rfl
  · exact appendResult_batch h ‹_› hbatch _

omit h in
theorem pollSteering_users (h : UsersWait o s) (pc : TurnPc) : UsersWait o (s.pollSteering o pc) := by
  have hpolled := h.queue.dequeueLocked (normalizeSteeringScope o.sessionKey)
  unfold TurnState.pollSteering SteeringQueue.dequeueScope
  generalize s.steering.dequeueLocked (normalizeSteeringScope o.sessionKey) = polled at hpolled
  exact ⟨hpolled.2, h.pending.append hpolled.1, h.localPending, h.hidden, h.system⟩

theorem pollSteering_batch (hpc : s.pc = .steer i) : BatchKept strict o (s.pollSteering o (.skip i)) :=
  (pollSteering_users h.toUsersWait (.skip i)).kept (.skip i) (h.at hpc) rfl

theorem skipRemaining_batch (hpc : s.pc = .skip i) (content : String) :
    BatchKept strict o (s.skipRemaining o i content) := by
  have hbatch := h.at hpc
  unfold TurnState.skipRemaining
  have hskipped : Answers ((s.toolCalls.drop (i + 1)).map (toolMessage content)) (s.toolCalls.drop (i + 1)) := by
    refine ⟨fun t ht => ?_, by rw [List.map_map]; rfl⟩
    obtain ⟨tc, _, rfl⟩ := List.mem_map.1 ht
    rfl
  generalize (s.toolCalls.drop (i + 1)).map (toolMessage content) = skipped at hskipped
  have hroles : ∀ m ∈ skipped, m.role = .tool := fun m hm => by simpa [Message.isTool] using hskipped.1 m hm
  have husers : UsersWait o (s.append o skipped) := h.toUsersWait.append fun m hm => by
    rw [hroles m hm]
    decide
  refine husers.goto .toolsDone ⟨(hbatch.1.finish hskipped).1, fun hkeep => ?_⟩ rfl
  have hfinish := (hbatch.2 hkeep).finish hskipped
  rw [← append_stored hkeep s fun m hm => not_transient_of_tool (hroles m hm)] at hfinish
  exact ⟨hfinish.1, fun _ => hfinish.2⟩

theorem checkSkip_batch (hpc : s.pc = .skip i) : BatchKept strict o (s.checkSkip o i) := by
  unfold TurnState.checkSkip
  split
  · exact skipRemaining_batch h hpc _
  split
  · exact skipRemaining_batch h hpc _
  · exact h.goto (.poll i) (h.at hpc) rfl

theorem pollSubTurn_batch (hpc : s.pc = .poll i)
    (hnone : i + 1 < s.toolCalls.length → (s.receiveResult o).2 = []) : BatchKept strict o (s.pollSubTurn o i) := by
  have hbatch := h.at hpc
  obtain ⟨pendingResults, hstate, husers⟩ := receiveResult_spec
  unfold TurnState.pollSubTurn
  dsimp only
  rw [hstate]
  generalize (s.receiveResult o).2 = results at hnone husers
  have happend : UsersWait o (s.append o results) := h.toUsersWait.append fun m hm => by
    rw [husers m hm]
    decide
  refine happend.goto (.tool (i + 1)) ?_ rfl
  by_cases hi : i + 1 < s.toolCalls.length
  · rw [hnone hi]
    exact .inl ⟨by simpa [TurnState.append, TurnState.goto] using hbatch.1, hbatch.2⟩
  · -- the batch is done, and what is received comes after it
    have hi := Nat.le_of_not_lt hi
    refine .inr ⟨hi, (hbatch.1.whole hi).1.append (.of_users husers), fun hkeep => ?_⟩
    have hwhole := (hbatch.2 hkeep).whole hi
    have hstored := append_stored hkeep s fun m hm => not_transient_of_user (husers m hm)
    refine ⟨?_, fun _ => ?_⟩
    · exact (hstored ▸ hwhole.1.append (.of_users husers) :)
    · exact (hstored ▸ ready_append_users husers (.inl hwhole.2) :)

theorem toolsDone_batch (hpc : s.pc = .toolsDone) (c : Choice) : BatchKept strict o (s.toolsDone o c) := by
  have hbatch := h.at hpc
  have hloop : Whole False s.messages ∧
      (o.noHistory = false → Whole strict s.stored ∧ (strict → Ready s.stored ∨ s.localPending ≠ [])) :=
    ⟨hbatch.1, fun hkeep => ⟨(hbatch.2 hkeep).1, fun hs => .inl ((hbatch.2 hkeep).2 hs)⟩⟩
  have hpolled := pollSteering_users h.toUsersWait .loop
  unfold TurnState.toolsDone
  split
  · exact h.goto .loop hloop rfl
  dsimp only
  split
  · exact hpolled.goto .loop hloop rfl
  split
  · have hstore :=
      hpolled.storeOne { role := .assistant, content := handledToolResponseSummary, attachments := c.attachments }
      Role.noConfusion
    refine hstore.goto (.finalize "") ⟨hbatch.1, fun hkeep => ?_⟩ rfl
    exact whole_addFullMessage (hbatch.2 hkeep).1 ⟨rfl, rfl⟩
  · exact hpolled.kept .loop hloop rfl

/-! ### The end -/

theorem exit_batch (hpc : s.pc = .exit) : BatchKept strict o (s.exit o c) := by
  have hfinal : ∀ content, BatchKept strict o (s.goto (.finalize content)) :=
    fun content => h.goto (.finalize content) (h.at hpc) rfl
  unfold TurnState.exit
  split
  · exact h.aborted rfl
  split
  · exact hfinal _
  split
  · exact hfinal _
  · exact hfinal _

theorem finalize_batch {content : String} (hpc : s.pc = .finalize content) (c : Choice) :
    BatchKept strict o (s.finalize o c content) := by
  have hbatch := h.at hpc
  have hstore := h.toUsersWait.storeOne
    { role := .assistant, content := content, reasoningContent := s.response.reasoningContent } Role.noConfusion
  unfold TurnState.finalize
  split
  · split
    · exact h.aborted rfl
    · exact h.goto (.ended (.completed content)) hbatch rfl
  split
  · exact hstore.goto (.ended .error) trivial rfl
  · refine hstore.goto (.ended (.completed content)) ⟨hbatch.1, fun hkeep => ?_⟩ rfl
    exact whole_addFullMessage (hbatch.2 hkeep) ⟨rfl, rfl⟩

end

/-! ## Runs -/

theorem turnStep_batch (ho : ExchangeOptions o) (hstart : strict → o.root ≠ none ∨ o.initialSteeringMessages ≠ [])
    (h : BatchKept strict o s) (hnone : NoneInBatch o s (.turn c)) (hrebuilt : Whole False c.answer.rebuilt)
    (hvalid : strict → (TurnEvent.turn c).ValidResponses) : BatchKept strict o (s.turnStep o c) := by
  unfold TurnState.turnStep
  split
  · exact start_batch h ‹_›
  · exact setup_batch h ho hstart ‹_› c
  · exact loopHead_batch h ‹_›
  · exact gather_batch h ‹_›
  · exact checkParent_batch h ‹_›
  · exact pollResults_batch h ‹_›
  · exact inject_batch h ‹_›
  · exact callLLM_batch h ‹_› c
  · exact callProvider_batch h ‹_› hrebuilt hvalid
  · exact backoff_batch h ‹_› c
  · exact afterLLM_batch h ‹_› hvalid
  · exact directAnswer_batch h ‹_›
  · exact toolHead_batch h ‹_›
  · exact beforeTool_batch h ‹_› c
  · exact toolReturned_batch h ‹_›
  · exact afterTool_batch h ‹_› c
  · exact pollSteering_batch h ‹_›
  · exact checkSkip_batch h ‹_›
  · rename_i i hpc
    exact pollSubTurn_batch h hpc (hnone i (by rw [hpc]; rfl))
  · exact toolsDone_batch h ‹_› c
  · exact exit_batch h ‹_›
  · exact finalize_batch h ‹_› c
  · exact h

theorem steeringPromptMessage_role (m : Message) : (steeringPromptMessage m).role = m.role := by
  unfold steeringPromptMessage
  split <;> rfl

theorem step_batch (ho : ExchangeOptions o) (hstart : strict → o.root ≠ none ∨ o.initialSteeringMessages ≠ [])
    (h : BatchKept strict o s) {e : TurnEvent} (hnone : NoneInBatch o s e) (huser : e.FromUser)
    (hrebuilt : Whole False e.rebuilt) (hvalid : strict → e.ValidResponses) : BatchKept strict o (s.step o e) := by
  have hqueue : ∀ {queue}, (queue.All fun m => m.role = .user) → BatchKept strict o { s with steering := queue } :=
    fun hqueue => ⟨⟨hqueue, h.pending, h.localPending, h.hidden, h.system⟩, h.batch⟩
  cases e with
  | turn c => exact turnStep_batch ho hstart h hnone hrebuilt hvalid
  | push scope m => exact hqueue (h.queue.pushScope scope ((steeringPromptMessage_role m).trans huser.1))
  | poll scope => exact hqueue (h.queue.dequeueLocked _).2
  | clear scope => exact hqueue (h.queue.delete _)
  | setMode mode => exact hqueue h.queue
  | interrupt =>
    dsimp only [TurnState.step]
    split
    · exact h
    · exact ⟨h.move rfl, h.batch⟩
  | abort | deliver result | endParent => exact ⟨h.move rfl, h.batch⟩

theorem batchKept_run (strict : Prop) (ho : ExchangeOptions o)
    (hstart : strict → o.root ≠ none ∨ o.initialSteeringMessages ≠ [])
    {es : List TurnEvent} (husers : ∀ e ∈ es, e.FromUser) (hrebuilt : ∀ e ∈ es, Whole False e.rebuilt)
    (hvalid : strict → ∀ e ∈ es, e.ValidResponses)
    (hes : Along (TurnState.step o) (NoneInBatch o) { pendingResults := if o.subTurn = true then some [] else none }
      es) :
    BatchKept strict o (TurnState.run o es) := by
  have hall :=
    (hes.and (along_of_forall (G := fun e => e.FromUser ∧ Whole False e.rebuilt ∧ (strict → e.ValidResponses))
    fun e he => ⟨husers e he, hrebuilt e he, fun hs => hvalid hs e he⟩))
  refine invariant_along (fun s e h hgood => ?_) ?_ hall
  · exact step_batch ho hstart h hgood.1 hgood.2.1 hgood.2.2.1 hgood.2.2.2
  · exact ⟨⟨fun _ _ hm => absurd hm List.not_mem_nil, List.forall_mem_nil _, List.forall_mem_nil _, fun _ => rfl,
      List.forall_mem_nil _⟩, rfl⟩

end

namespace Sample

def batchOptions : TurnOptions where
  sessionKey := "room"
  root := some (userPromptMessage "compare" [])
  prompt := [userPromptMessage "compare" []]
  maxIterations := 5

def subTurnOptions : TurnOptions := { batchOptions with subTurn := true, noHistory := true }

def twoCalls : LLMResponse := { toolCalls := [⟨"a", "search", ""⟩, ⟨"b", "search", ""⟩] }

/-- Eight steps to the first call of the model, which answers with two calls. -/
def twoCallsAnswered : List TurnEvent :=
  List.replicate 8 (.turn {}) ++ [.turn { answer := .response twoCalls }, .turn {}]

/-- The first call is executed, a user interrupts, and the second one is skipped. -/
def interruptedBatch : List TurnEvent :=
  twoCallsAnswered ++ [.turn {}, .turn {}, .turn {}, .push "room" { role := .user, content := "wait" }] ++
    List.replicate 10 (.turn {})

/-- A sub-turn ends while the first call is executed. -/
def resultInBatch : List TurnEvent :=
  twoCallsAnswered ++ [.turn {}, .turn {}, .deliver "42"] ++ List.replicate 20 (.turn {})

/-- A hook ends the turn with an error before the second call is executed. -/
def failedBatch : List TurnEvent := twoCallsAnswered ++ List.replicate 8 (.turn {}) ++ [.turn { hook := .abortTurn }]

end Sample

end OpenFox.Agent
