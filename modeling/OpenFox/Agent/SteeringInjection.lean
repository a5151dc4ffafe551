/-
Steering messages of a root turn. What the turn takes from the queues waits in `pendingMessages` or in a variable of
`runTurn` until an iteration injects it. A message that arrives after a direct answer is put into both, and the next
iteration joins the two: it is injected twice. In a run in which no message arrives there, each message is injected
once, in order, before the next call of the model.
-/
import OpenFox.Agent.Turn

namespace OpenFox.Agent

open OpenFox.Base

/-! ## Steering messages in a list of messages -/

def Steered (m : Message) : Prop := m.role = .user ∧ m.promptSource = .steering

def steered (l : List Message) : List Message := l.filter (·.promptSource == .steering)

@[simp] theorem steered_append (l l' : List Message) : steered (l ++ l') = steered l ++ steered l' :=
  List.filter_append ..

variable {s' : TurnState} {l : List Message} {r : LLMResponse} {retry : Nat}

theorem steered_of_none (h : ∀ m ∈ l, m.promptSource ≠ .steering) : steered l = [] := by
  unfold steered
  rw [List.filter_eq_nil_iff]
  intro m hm
  simpa using h m hm

theorem steered_of_all (h : ∀ m ∈ l, Steered m) : steered l = l :=
  List.filter_eq_self.2 fun m hm => by simpa using (h m hm).2

theorem steered_resolveLoop (store : MediaStore) : ∀ l start pending,
    steered (store.resolveLoop l start pending) = (steered l).map store.resolveMessage
  | [], _, pending => by
    refine steered_of_none fun m hm => ?_
    rw [(followUp_promptSource hm).1]
    decide
  | m :: rest, start, pending => by
    unfold MediaStore.resolveLoop
    have hflushed : steered (if m.role = .tool then [] else MediaStore.followUp pending) = [] := by
      refine steered_of_none fun m' hm' => ?_
      split at hm'
      · cases hm'
      · rw [(followUp_promptSource hm').1]
        decide
    rw [steered_append, hflushed, List.nil_append]
    have hrest := steered_resolveLoop store rest (start - 1)
    unfold steered at hrest ⊢
    rw [List.filter_cons, List.filter_cons, resolveMessage_promptSource, hrest]
    split
    · rfl
    · rfl

/-- Resolving media references resolves the steering messages and adds none. -/
theorem steered_resolveMediaRefs (store : Option MediaStore) (l : List Message) (start : Nat) :
    steered (resolveMediaRefs store l start) = (steered l).map (resolveOne store) := by
  cases store with
  | none => exact (List.map_id' _).symm
  | some store => exact steered_resolveLoop store l start []

theorem steered_foldl_of_none (o : TurnOptions) : ∀ stored {ms : List Message},
    (∀ m ∈ ms, m.promptSource ≠ .steering) → steered (ms.foldl (TurnState.addFullMessage o) stored) = steered stored
  | _, [], _ => rfl
  | stored, m :: ms, h => by
    refine (steered_foldl_of_none o _ fun m' hm' => h m' (List.mem_cons_of_mem m hm')).trans ?_
    have hm : steered [m] = [] := steered_of_none fun m' hm' => List.mem_singleton.1 hm' ▸ h m (List.mem_cons_self ..)
    unfold TurnState.addFullMessage
    split
    · rfl
    · rw [steered_append, hm, List.append_nil]

/-! ## What waits -/

/-- Of the steering messages that were taken all but `waiting`, the last ones, are injected: each is once among the
messages for the model, as far as these were not built anew from the history, and once in the session. -/
def Injected (o : TurnOptions) (s : TurnState) (waiting : List Message) : Prop :=
  ∃ done, s.taken = done ++ waiting ∧ s.takenBefore ≤ done.length ∧
    steered s.messages = (done.drop s.takenBefore).map (resolveOne o.media) ∧
      (o.noHistory = false → steered s.stored = done)

variable {o : TurnOptions} {s : TurnState} {i : Nat} {m : Message}

namespace Injected

variable {waiting : List Message}

section
variable (h : Injected o s waiting)
include h

theorem append {ms : List Message} (hms : ∀ m ∈ ms, m.promptSource ≠ .steering) :
    Injected o (s.append o ms) waiting := by
  obtain ⟨done, htaken, hbefore, hmessages, hstored⟩ := h
  refine ⟨done, htaken, hbefore, ?_, fun ho => ?_⟩
  · calc steered (s.messages ++ ms) = steered s.messages := by rw [steered_append, steered_of_none hms, List.append_nil]
      _ = _ := hmessages
  · exact (steered_foldl_of_none o s.stored hms).trans (hstored ho)

theorem appendOne (hm : m.promptSource ≠ .steering) : Injected o (s.append o [m]) waiting :=
  h.append fun _ hmem => List.mem_singleton.1 hmem ▸ hm

theorem store (hm : m.promptSource ≠ .steering) : Injected o (s.store o m) waiting := by
  obtain ⟨done, htaken, hbefore, hmessages, hstored⟩ := h
  refine ⟨done, htaken, hbefore, hmessages, fun ho => ?_⟩
  have hm' : ∀ m' ∈ [m], m'.promptSource ≠ .steering := fun m' hmem => List.mem_singleton.1 hmem ▸ hm
  exact (steered_foldl_of_none o s.stored hm').trans (hstored ho)

theorem take (polled : List Message × SteeringQueue) : Injected o (s.take polled) (waiting ++ polled.1) := by
  obtain ⟨done, htaken, hrest⟩ := h
  refine ⟨done, ?_, hrest⟩
  calc s.taken ++ polled.1 = done ++ waiting ++ polled.1 := by rw [htaken]
    _ = done ++ (waiting ++ polled.1) := List.append_assoc ..

end

end Injected

/-- Where the messages wait that were taken and are not injected yet, by the turn's position. -/
abbrev Waits (o : TurnOptions) (s : TurnState) : TurnPc → Prop
  | .setup | .prepare => s.taken = [] ∧ s.takenBefore = 0 ∧ s.stored = [] ∧ s.iteration = 0
  | .loop => Injected o s s.pendingMessages ∧ s.localPending = if s.iteration = 0 then s.pendingMessages else []
  | .gather =>
    Injected o s s.pendingMessages ∧ (s.localPending = if s.iteration = 1 then s.pendingMessages else []) ∧
      s.iteration ≠ 0
  | .parent | .results | .inject =>
    Injected o s s.localPending ∧ (s.localPending = [] → s.pendingMessages = []) ∧ s.iteration ≠ 0
  | .call | .attempt _ | .backoff _ | .answered _ | .direct _ =>
    Injected o s [] ∧ s.pendingMessages = [] ∧ s.iteration ≠ 0
  | .tool _ | .hooks _ | .executed _ | .result _ | .steer _ | .skip _ | .poll _ | .toolsDone =>
    Injected o s s.pendingMessages ∧ s.localPending = [] ∧ s.iteration ≠ 0
  | .exit | .finalize _ | .ended (.completed _) => Injected o s []
  | .ended _ => True

structure SteeringKept (o : TurnOptions) (s : TurnState) : Prop where
  queue : s.steering.All Steered
  taken : ∀ m ∈ s.taken, Steered m
  results : s.pendingResults = none
  waits : Waits o s s.pc

/-- No steering has arrived when it is polled after a direct answer. -/
def NoneAfterAnswer (o : TurnOptions) (s : TurnState) : TurnEvent → Prop
  | .turn _ => s.pc.isDirect = true → (s.steering.dequeueScope o.sessionKey).1 = []
  | _ => True

instance (o : TurnOptions) (s : TurnState) : ∀ e, Decidable (NoneAfterAnswer o s e)
  | .turn _ => inferInstanceAs (Decidable (s.pc.isDirect = true → (s.steering.dequeueScope o.sessionKey).1 = []))
  | .push .. | .poll _ | .clear _ | .setMode _ | .interrupt | .abort | .deliver _ | .endParent => isTrue trivial

/-! ## One step -/

section
variable (h : SteeringKept o s)
include h

theorem SteeringKept.polled {polled : List Message × SteeringQueue}
    (hpolled : (∀ m ∈ polled.1, Steered m) ∧ polled.2.All Steered) (pc : TurnPc) (hwaits : Waits o s' pc)
    (hs : (s'.pc, s'.steering, s'.taken, s'.pendingResults) = (pc, polled.2, s.taken ++ polled.1, s.pendingResults)) :
    SteeringKept o s' := by
  simp only [Prod.mk.injEq] at hs
  obtain ⟨hpc, hqueue, htaken, hresults⟩ := hs
  refine ⟨hqueue ▸ hpolled.2, ?_, hresults ▸ h.results, hpc ▸ hwaits⟩
  rw [htaken]
  exact List.forall_mem_append.2 ⟨h.taken, hpolled.1⟩

theorem SteeringKept.move (pc : TurnPc) (hwaits : Waits o s' pc)
    (hs : (s'.pc, s'.steering, s'.taken, s'.pendingResults) = (pc, s.steering, s.taken, s.pendingResults)) :
    SteeringKept o s' :=
  have hpolled : (∀ m ∈ ([], s.steering).1, Steered m) ∧ ([], s.steering).2.All Steered :=
    ⟨List.forall_mem_nil _, h.queue⟩
  h.polled hpolled pc hwaits ((List.append_nil s.taken).symm ▸ hs)

theorem SteeringKept.at {pc : TurnPc} (hpc : s.pc = pc) : Waits o s pc := hpc ▸ h.waits

theorem SteeringKept.ended (hpc : s'.pc = .ended .aborted ∨ s'.pc = .ended .error)
    (hs : (s'.steering, s'.taken, s'.pendingResults) = (s.steering, s.taken, s.pendingResults)) :
    SteeringKept o s' := by
  rcases hpc with hpc | hpc
  · exact h.move (.ended .aborted) trivial (Prod.ext hpc hs)
  · exact h.move (.ended .error) trivial (Prod.ext hpc hs)

theorem SteeringKept.aborted
    (hs : (s'.steering, s'.taken, s'.pendingResults) = (s.steering, s.taken, s.pendingResults)) :
    SteeringKept o (s'.abortTurn o c) := by
  obtain ⟨stored, outcome, heq, -, houtcome⟩ := s'.abortTurn_eq o c
  rw [heq]
  exact h.ended (houtcome.imp (congrArg TurnPc.ended) (congrArg TurnPc.ended)) hs

theorem SteeringKept.failed : SteeringKept o s.fail := h.ended (.inr rfl) rfl

theorem SteeringKept.receiveResult : s.receiveResult o = (s, []) := by
  unfold TurnState.receiveResult
  rw [h.results]

/-! ### The turn's loop -/

theorem start_keeps (hpc : s.pc = .setup) : SteeringKept o (s.start o c) := by
  unfold TurnState.start
  split
  · exact h.aborted rfl
  · exact h.move .prepare (h.at hpc) rfl

theorem setupTurn_keeps (hinitial : ∀ m ∈ o.initialSteeringMessages, Steered m) (hprompt : steered o.prompt = [])
    (hroot : ∀ m ∈ o.root, m.promptSource ≠ .steering) (hpc : s.pc = .prepare) (c : Choice) :
    SteeringKept o (s.setupTurn o c) := by
  obtain ⟨htaken, hbefore, hstored, hiteration⟩ := h.at hpc
  unfold TurnState.setupTurn
  split
  · exact h.failed
  · refine ⟨h.queue, hinitial, h.results, ⟨[], (List.nil_append _).symm, hbefore.le, ?_, fun _ => ?_⟩, ?_⟩
    · exact hprompt.trans (by simp)
    · have hroots : ∀ m ∈ o.root.toList, m.promptSource ≠ .steering := by simpa using hroot
      exact (steered_foldl_of_none o s.stored hroots).trans (by rw [hstored]; rfl)
    · exact (if_pos hiteration).symm

theorem loopHead_keeps (hpc : s.pc = .loop) : SteeringKept o (s.loopHead o c) := by
  obtain ⟨hinjected, hlocal⟩ := h.at hpc
  unfold TurnState.loopHead
  split
  · split
    · exact h.aborted rfl
    · refine h.move .gather ⟨hinjected, ?_, Nat.succ_ne_zero _⟩ rfl
      rw [hlocal]
      simp only [Nat.add_eq_right]
  · rename_i hend
    simp only [not_or, not_not] at hend
    rw [hend.2.1] at hinjected
    exact h.move .exit hinjected rfl

theorem gather_keeps (hpc : s.pc = .gather) : SteeringKept o (s.gather o) := by
  obtain ⟨hinjected, hlocal, hiteration⟩ := h.at hpc
  unfold TurnState.gather
  split
  · rw [if_neg (by omega)] at hlocal
    refine h.move .parent ⟨?_, fun _ => rfl, hiteration⟩ rfl
    rw [hlocal, List.nil_append]
    exact hinjected
  rw [if_pos (by omega)] at hlocal
  split
  · refine h.move .parent ⟨?_, fun hnone => hlocal ▸ hnone, hiteration⟩ rfl
    exact (hlocal ▸ hinjected : Injected o s s.localPending)
  · have hpolled := h.queue.dequeueScopeWithFallback o.sessionKey
    generalize s.steering.dequeueScopeWithFallback o.sessionKey = polled at hpolled
    refine h.polled hpolled .parent ⟨?_, fun hnone => ?_, hiteration⟩ rfl
    · rw [← hlocal] at hinjected
      exact hinjected.take _
    · exact hlocal ▸ (List.append_eq_nil_iff.1 hnone).1

theorem checkParent_keeps (hroot : o.subTurn = false) (hpc : s.pc = .parent) : SteeringKept o (s.checkParent o) := by
  unfold TurnState.checkParent
  rw [if_neg (by simp [hroot])]
  exact h.move .results (h.at hpc) rfl

theorem pollResults_keeps (hpc : s.pc = .results) : SteeringKept o (s.pollResults o) := by
  unfold TurnState.pollResults
  rw [h.receiveResult]
  dsimp only
  rw [List.append_nil]
  exact h.move .inject (h.at hpc) rfl

theorem inject_keeps (hpc : s.pc = .inject) : SteeringKept o (s.inject o) := by
  obtain ⟨⟨done, htaken, hbefore, hmessages, hstored⟩, hpending, hiteration⟩ := h.at hpc
  have hwaiting : ∀ m ∈ s.localPending, Steered m := fun m hm => h.taken m (htaken ▸ List.mem_append_right _ hm)
  have husers : ∀ m ∈ s.localPending, m.role = .user := fun m hm => (hwaiting m hm).1
  refine h.move .call ⟨⟨done ++ s.localPending, ?_, ?_, ?_, fun ho => ?_⟩, ?_, hiteration⟩ rfl
  · rw [List.append_nil]
    exact htaken
  · rw [List.length_append]
    exact Nat.le_add_right_of_le hbefore
  · unfold TurnState.inject
    have hresolved : steered (s.localPending.map (resolveOne o.media)) = s.localPending.map (resolveOne o.media) := by
      rw [← resolveMediaRefs_of_users o.media 0 husers, steered_resolveMediaRefs, steered_of_all hwaiting,
        resolveMediaRefs_of_users o.media 0 husers]
    rw [steered_append, hmessages, List.drop_append_of_le_length hbefore, List.map_append,
      resolveMediaRefs_of_users o.media 0 husers, List.take_of_length_le (by rw [List.length_map]), hresolved]
  · unfold TurnState.inject
    rw [foldl_addFullMessage ho _ _ fun m hm => not_transient_of_user (husers m hm), steered_append, hstored ho,
      steered_of_all hwaiting]
  · unfold TurnState.inject
    split
    · exact hpending (by assumption)
    · rfl

/-! ### CallLLM -/

theorem callLLM_keeps (hpc : s.pc = .call) (c : Choice) : SteeringKept o (s.callLLM o c) := by
  obtain ⟨⟨done, htaken, hbefore, hmessages, hstored⟩, hpending, hiteration⟩ := h.at hpc
  unfold TurnState.callLLM
  dsimp only
  split
  · exact h.ended (.inr rfl) rfl
  split
  · exact h.ended (.inr rfl) rfl
  · exact h.aborted rfl
  · refine h.move (.attempt 0) ⟨⟨done, htaken, hbefore, ?_, hstored⟩, hpending, hiteration⟩ rfl
    show steered (if s.iteration > 1 then resolveMediaRefs o.media s.messages s.currentTurnStart else s.messages) = _
    split
    · rw [steered_resolveMediaRefs, hmessages, List.map_map]
      exact List.map_congr_left fun m _ => resolveOne_resolveOne o.media m
    · exact hmessages

theorem callProvider_keeps (hpc : s.pc = .attempt retry) (c : Choice) : SteeringKept o (s.callProvider o c retry) := by
  obtain ⟨hinjected, hpending, hiteration⟩ := h.at hpc
  unfold TurnState.callProvider
  split
  · exact h.move (.answered _) ⟨hinjected, hpending, hiteration⟩ rfl
  · split
    · exact h.aborted rfl
    · exact h.failed
  · split
    · exact h.move (.backoff _) ⟨hinjected, hpending, hiteration⟩ rfl
    · exact h.failed
  · rename_i rebuilt currentTurnStart fits hanswer
    split
    · split
      · -- the history holds everything that was taken so far
        obtain ⟨done, htaken, _, _, hstored⟩ := hinjected
        rw [List.append_nil] at htaken
        refine h.move (.attempt _) ⟨⟨done, ?_, ?_, ?_, hstored⟩, hpending, hiteration⟩ rfl
        · rw [List.append_nil]
          exact htaken
        · exact (congrArg List.length htaken).le
        · have hrebuilt : steered (rebuilt.map persisted) = [] := steered_of_none fun m hm => by
            obtain ⟨_, _, rfl⟩ := List.mem_map.1 hm
            exact PromptSource.noConfusion
          exact hrebuilt.trans (by simp [TurnState.goto, htaken])
      · exact h.ended (.inr rfl) rfl
    · exact h.failed
  · exact h.failed

theorem finishWith_keeps (hinjected : Injected o s []) (content : String) : SteeringKept o (s.finishWith o content) :=
  h.move (.finalize _) hinjected rfl

theorem backoff_keeps (hpc : s.pc = .backoff retry) (c : Choice) : SteeringKept o (s.backoff o c retry) := by
  have hwaits := h.at hpc
  have hretry : SteeringKept o (s.goto (.attempt (retry + 1))) := h.move (.attempt _) hwaits rfl
  unfold TurnState.backoff
  split
  · exact hretry
  split
  · exact finishWith_keeps h hwaits.1 _
  split
  · exact h.failed
  · exact hretry

theorem afterLLM_keeps (hpc : s.pc = .answered r) (c : Choice) : SteeringKept o (s.afterLLM o c r) := by
  obtain ⟨hinjected, hpending, hiteration⟩ := h.at hpc
  unfold TurnState.afterLLM
  split
  · exact h.failed
  · exact h.aborted rfl
  · dsimp only
    split
    · exact h.move (.direct _) ⟨hinjected, hpending, hiteration⟩ rfl
    · refine h.move (.tool 0) ⟨?_, hpending, hiteration⟩ rfl
      rw [← hpending] at hinjected
      exact hinjected.appendOne PromptSource.noConfusion

theorem directAnswer_keeps (hpc : s.pc = .direct r)
    (hnone : (s.steering.dequeueScope o.sessionKey).1 = []) : SteeringKept o (s.directAnswer o r) := by
  obtain ⟨hinjected, _⟩ := h.at hpc
  have hpolled := h.queue.dequeueLocked (normalizeSteeringScope o.sessionKey)
  unfold TurnState.directAnswer
  rw [if_pos hnone]
  have htaken := hinjected.take (s.steering.dequeueScope o.sessionKey)
  rw [hnone] at htaken
  exact h.polled hpolled (.finalize _) htaken rfl

/-! ### ExecuteTools -/

theorem deny_keeps (hwaits : Waits o s .toolsDone)
    (i : Nat) (tc : ToolCall) (content : String) : SteeringKept o (s.deny o i tc content) :=
  h.move (.tool _) ⟨hwaits.1.appendOne PromptSource.noConfusion, hwaits.2⟩ rfl

theorem appendResult_keeps (hwaits : Waits o s .toolsDone)
    (i : Nat) (tc : ToolCall) (result : ToolResult) : SteeringKept o (s.appendResult o i tc result) :=
  h.move (.steer _) ⟨hwaits.1.appendOne PromptSource.noConfusion, hwaits.2⟩ rfl

theorem toolHead_keeps (hpc : s.pc = .tool i) : SteeringKept o (s.toolHead o c i) := by
  have hwaits := h.at hpc
  unfold TurnState.toolHead
  split
  · exact h.move .toolsDone hwaits rfl
  split
  · exact h.aborted rfl
  split
  · exact deny_keeps h hwaits i _ _
  · exact h.move (.hooks i) hwaits rfl

theorem approveTool_keeps (hwaits : Waits o s .toolsDone)
    (c : Choice) (i : Nat) (tc : ToolCall) (toolName : String) : SteeringKept o (s.approveTool o c i tc toolName) := by
  unfold TurnState.approveTool
  split
  · exact deny_keeps h hwaits i tc _
  split
  · exact deny_keeps h hwaits i tc _
  · exact h.move (.executed i) hwaits rfl

theorem beforeTool_keeps (hpc : s.pc = .hooks i) (c : Choice) : SteeringKept o (s.beforeTool o c i) := by
  have hwaits := h.at hpc
  unfold TurnState.beforeTool
  split
  · exact h.move .toolsDone hwaits rfl
  split
  · exact approveTool_keeps h hwaits c i _ _
  · exact approveTool_keeps h hwaits c i _ _
  · split
    · exact appendResult_keeps h hwaits i _ _
    · exact approveTool_keeps h hwaits c i _ _
  · exact deny_keeps h hwaits i _ _
  · exact h.failed
  · exact h.aborted rfl

theorem toolReturned_keeps (hpc : s.pc = .executed i) : SteeringKept o (s.toolReturned o c i) := by
  unfold TurnState.toolReturned
  split
  · exact h.aborted rfl
  · exact h.move (.result i) (h.at hpc) rfl

theorem afterTool_keeps (hpc : s.pc = .result i) (c : Choice) : SteeringKept o (s.afterTool o c i) := by
  have hwaits := h.at hpc
  unfold TurnState.afterTool
  split
  · exact h.move .toolsDone hwaits rfl
  split
  · exact h.failed
  · exact h.aborted rfl
  · exact appendResult_keeps h hwaits i _ _

theorem pollSteering_keeps (hwaits : Waits o s (.steer i))
    (pc : TurnPc) (hpc : pc = .loop ∨ ∃ i, pc = .skip i) : SteeringKept o (s.pollSteering o pc) := by
  have hpolled := h.queue.dequeueLocked (normalizeSteeringScope o.sessionKey)
  have htaken := hwaits.1.take (s.steering.dequeueScope o.sessionKey)
  rcases hpc with rfl | ⟨i, rfl⟩
  · exact h.polled hpolled .loop ⟨htaken, hwaits.2.1.trans (if_neg hwaits.2.2).symm⟩ rfl
  · exact h.polled hpolled (.skip i) ⟨htaken, hwaits.2⟩ rfl

theorem checkSkip_keeps (hpc : s.pc = .skip i) : SteeringKept o (s.checkSkip o i) := by
  have hwaits := h.at hpc
  have hskip : ∀ content, SteeringKept o (s.skipRemaining o i content) := by
    intro content
    refine h.move .toolsDone ⟨hwaits.1.append fun m hm => ?_, hwaits.2⟩ rfl
    obtain ⟨_, _, rfl⟩ := List.mem_map.1 hm
    exact PromptSource.noConfusion
  unfold TurnState.checkSkip
  split
  · exact hskip _
  split
  · exact hskip _
  · exact h.move (.poll i) hwaits rfl

theorem pollSubTurn_keeps (hpc : s.pc = .poll i) : SteeringKept o (s.pollSubTurn o i) := by
  have hwaits := h.at hpc
  unfold TurnState.pollSubTurn
  rw [h.receiveResult]
  exact h.move (.tool _) ⟨hwaits.1.append (List.forall_mem_nil _), hwaits.2⟩ rfl

theorem toolsDone_keeps (hpc : s.pc = .toolsDone) (c : Choice) : SteeringKept o (s.toolsDone o c) := by
  have hwaits := h.at hpc
  have hpolled := pollSteering_keeps (i := 0) h hwaits .loop (.inl rfl)
  unfold TurnState.toolsDone
  split
  · exact h.move .loop ⟨hwaits.1, hwaits.2.1.trans (if_neg hwaits.2.2).symm⟩ rfl
  dsimp only
  split
  · exact hpolled.move .loop (hpolled.at rfl) rfl
  rename_i hnone
  rw [not_not] at hnone
  split
  · have hinjected := (hpolled.at rfl).1
    rw [hnone] at hinjected
    exact hpolled.move (.finalize "") (hinjected.store PromptSource.noConfusion) rfl
  · exact hpolled

/-! ### The end -/

theorem exit_keeps (hpc : s.pc = .exit) : SteeringKept o (s.exit o c) := by
  have hinjected : Injected o s [] := h.at hpc
  have hfinal : ∀ content, SteeringKept o (s.goto (.finalize content)) :=
    fun content => h.move (.finalize content) hinjected rfl
  unfold TurnState.exit
  split
  · exact h.aborted rfl
  split
  · exact hfinal _
  split
  · exact hfinal _
  · exact hfinal _

theorem finalize_keeps {content : String} (hpc : s.pc = .finalize content) (c : Choice) :
    SteeringKept o (s.finalize o c content) := by
  have hinjected : Injected o s [] := h.at hpc
  unfold TurnState.finalize
  split
  · split
    · exact h.aborted rfl
    · exact h.move (.ended (.completed content)) hinjected rfl
  split
  · exact h.ended (.inr rfl) rfl
  · exact h.move (.ended (.completed content)) (hinjected.store PromptSource.noConfusion) rfl

end

/-! ## Runs -/

/-- What the options of a root turn are to be: its prompt holds no steering messages yet. -/
structure RootOptions (o : TurnOptions) : Prop where
  root : o.subTurn = false
  initial : ∀ m ∈ o.initialSteeringMessages, Steered m
  prompt : ∀ m ∈ o.prompt, m.promptSource ≠ .steering
  message : ∀ m ∈ o.root, m.promptSource ≠ .steering

theorem turnStep_keeps (ho : RootOptions o) (h : SteeringKept o s) (c : Choice)
    (hnone : NoneAfterAnswer o s (.turn c)) :
    SteeringKept o (s.turnStep o c) := by
  unfold TurnState.turnStep
  split
  · exact start_keeps h ‹_›
  · exact setupTurn_keeps h ho.initial (steered_of_none ho.prompt) ho.message ‹_› c
  · exact loopHead_keeps h ‹_›
  · exact gather_keeps h ‹_›
  · exact checkParent_keeps h ho.root ‹_›
  · exact pollResults_keeps h ‹_›
  · exact inject_keeps h ‹_›
  · exact callLLM_keeps h ‹_› c
  · exact callProvider_keeps h ‹_› c
  · exact backoff_keeps h ‹_› c
  · exact afterLLM_keeps h ‹_› c
  · rename_i r hpc
    exact directAnswer_keeps h hpc (hnone (by rw [hpc]; rfl))
  · exact toolHead_keeps h ‹_›
  · exact beforeTool_keeps h ‹_› c
  · exact toolReturned_keeps h ‹_›
  · exact afterTool_keeps h ‹_› c
  · exact pollSteering_keeps h (h.at ‹_›) _ (.inr ⟨_, rfl⟩)
  · exact checkSkip_keeps h ‹_›
  · exact pollSubTurn_keeps h ‹_›
  · exact toolsDone_keeps h ‹_› c
  · exact exit_keeps h ‹_›
  · exact finalize_keeps h ‹_› c
  · exact h

theorem steeringPromptMessage_steered (hm : m.role = .user ∧ m.promptSource = .unset) :
    Steered (steeringPromptMessage m) := by
  unfold steeringPromptMessage
  rw [if_pos hm.2]
  exact ⟨hm.1, rfl⟩

theorem SteeringKept.outside (h : SteeringKept o s) {queue : SteeringQueue} (hqueue : queue.All Steered) :
    SteeringKept o { s with steering := queue } :=
  ⟨hqueue, h.taken, h.results, h.waits⟩

theorem step_keeps (ho : RootOptions o) (h : SteeringKept o s) (e : TurnEvent) (hnone : NoneAfterAnswer o s e)
    (huser : e.FromUser) :
    SteeringKept o (s.step o e) := by
  cases e with
  | turn c => exact turnStep_keeps ho h c hnone
  | push scope m => exact h.outside (h.queue.pushScope scope (steeringPromptMessage_steered huser))
  | poll scope => exact h.outside (h.queue.dequeueLocked _).2
  | clear scope => exact h.outside (h.queue.delete _)
  | setMode mode => exact h.outside h.queue
  | interrupt =>
    dsimp only [TurnState.step]
    split
    · exact h
    · exact { h with }
  | abort | endParent => exact { h with }
  | deliver result =>
    refine ⟨h.queue, h.taken, ?_, h.waits⟩
    show s.pendingResults.map _ = none
    rw [h.results]
    rfl

/-- The steering messages are kept along every run of a root turn. -/
theorem steeringKept_run (ho : RootOptions o) {es : List TurnEvent} (husers : ∀ e ∈ es, e.FromUser)
    (hes : Along (TurnState.step o) (NoneAfterAnswer o) { pendingResults := if o.subTurn = true then some [] else none }
      es) :
    SteeringKept o (TurnState.run o es) := by
  refine invariant_along (I := SteeringKept o) (fun s e h hgood => step_keeps ho h e hgood.1 hgood.2) ?_
    (hes.and (along_of_forall husers))
  refine ⟨fun _ _ hm => absurd hm List.not_mem_nil, List.forall_mem_nil _, ?_, rfl, rfl, rfl, rfl⟩
  rw [ho.root]
  rfl

/-- What was taken and is no longer waiting, in a turn that has not ended. -/
theorem SteeringKept.injected (h : SteeringKept o s) (hrunning : ∀ outcome, s.pc ≠ .ended outcome) :
    s.pc = .setup ∨ s.pc = .prepare ∨ ∃ waiting, Injected o s waiting := by
  cases hpc : s.pc with
  | setup => exact .inl rfl
  | prepare => exact .inr (.inl rfl)
  | ended outcome => exact absurd hpc (hrunning outcome)
  | exit | finalize _ => exact .inr (.inr ⟨_, h.at hpc⟩)
  | _ => exact .inr (.inr ⟨_, (h.at hpc).1⟩)

namespace Sample

def turnOptions : TurnOptions where
  sessionKey := "room"
  root := some (userPromptMessage "look it up" [])
  prompt := [userPromptMessage "look it up" []]
  maxIterations := 5

def steer (content : String) : TurnEvent := .push "room" { role := .user, content := content }

/-- Steps of the turn up to its next call of the model. -/
def upToCall : List TurnEvent := List.replicate 6 (.turn {})

def answers (r : LLMResponse) : List TurnEvent := [.turn { answer := .response r }, .turn {}]

def steeredWhileTool : List TurnEvent :=
  [.turn {}, .turn {}] ++ upToCall ++ answers { toolCalls := [⟨"a", "search", ""⟩, ⟨"b", "search", ""⟩] } ++
    [.turn {}, .turn {}, steer "stop"] ++ List.replicate 5 (.turn {}) ++ upToCall

def steeredAfterAnswer : List TurnEvent :=
  [.turn {}, .turn {}] ++ upToCall ++ answers { content := "done" } ++ [steer "one more thing", .turn {}] ++ upToCall

end Sample

end OpenFox.Agent
