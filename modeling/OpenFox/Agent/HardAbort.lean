/-
A hard abort of a turn. The flag is looked at in some places only: the pause between two attempts ends with it as if the
turn were to be finished, and nobody looks at it between the model's direct answer and the end. In a run in which the
abort is not requested there, the call of the model it interrupts is cancelled, and nothing fails on the way, the
session's restoration included, the turn ends as aborted, within a few steps, and leaves nothing in its session but an
authenticated input.
-/
import OpenFox.Agent.Turn

namespace OpenFox.Agent

open OpenFox.Base

/-! ## When an abort is heeded -/

/-- How many steps an aborted turn has left at most, or none if it goes on to its normal end. -/
def TurnPc.abortsIn (allResponsesHandled : Bool) : TurnPc → Option Nat
  | .ended .aborted => some 0
  | .setup | .attempt _ | .executed _ | .exit => some 1
  | .loop | .call => some 2
  | .prepare | .inject | .toolsDone => some 3
  | .results | .tool _ => some 4
  | .parent | .poll _ => some 5
  | .gather | .skip _ => some 6
  | .steer _ => some 7
  | .hooks _ | .result _ => some 8
  | .finalize _ => if allResponsesHandled = true then some 1 else none
  | .backoff _ | .answered _ | .direct _ | .ended _ => none

def TurnPc.isEnded : TurnPc → Bool
  | .ended _ => true
  | _ => false

/-- An aborted turn's step does not fail: the setup and the choice of a model succeed, no hook ends the turn with an
error, and a call of the model is cancelled. -/
def Choice.Yields (c : Choice) : TurnPc → Prop
  | .prepare => c.fails = false
  | .call => c.fails = false ∧ c.hook ≠ .abortTurn
  | .attempt _ => c.answer = .canceled
  | .hooks _ | .result _ => c.hook ≠ .abortTurn
  | _ => True

instance (c : Choice) (pc : TurnPc) : Decidable (c.Yields pc) := by
  unfold Choice.Yields
  split <;> infer_instance

/-- `restoreSession` sets the history and saves the session. -/
def Choice.restores (c : Choice) : Bool := c.historySet && c.saved

/-- The abort is requested where the turn will look for it, and an aborted turn's steps do not fail. -/
def Heeded (s : TurnState) : TurnEvent → Prop
  | .abort => (s.pc.abortsIn s.allResponsesHandled).isSome = true ∨ s.pc.isEnded = true
  | .turn c => s.hardAbort = true → c.restores = true ∧ c.Yields s.pc
  | _ => True

instance (s : TurnState) (e : TurnEvent) : Decidable (Heeded s e) := by
  unfold Heeded
  split <;> infer_instance

/-! ## One step -/

structure Aborting (o : TurnOptions) (n : Nat) (s : TurnState) : Prop where
  flag : s.hardAbort = true
  steps : ∃ k ≤ n, s.pc.abortsIn s.allResponsesHandled = some k
  restored : s.pc = .ended .aborted → o.noHistory = false → s.stored = s.restorePoint

variable {pc : TurnPc} {k i : Nat}

section
variable {o : TurnOptions} {s : TurnState} {c : Choice} {n : Nat}

theorem aborting_abortTurn (hc : c.restores = true) (hflag : s.hardAbort = true) : Aborting o n (s.abortTurn o c) := by
  obtain ⟨hset, hsaved⟩ := (Bool.and_eq_true_iff ..).1 hc
  unfold TurnState.abortTurn
  rw [if_pos hset, if_pos hsaved]
  split
  · rename_i ho
    exact ⟨hflag, ⟨0, Nat.zero_le n, rfl⟩, fun _ ho' => absurd ho (by simp [ho'])⟩
  · exact ⟨hflag, ⟨0, Nat.zero_le n, rfl⟩, fun _ _ => rfl⟩

theorem Aborting.to {s' : TurnState} (hflag : s'.hardAbort = true) (hk : k + 1 ≤ n)
    (hsteps : s'.pc.abortsIn s'.allResponsesHandled = some (k + 1)) : Aborting o n s' := by
  refine ⟨hflag, ⟨k + 1, hk, hsteps⟩, fun h => ?_⟩
  rw [h] at hsteps
  cases hsteps

theorem Aborting.left (h : Aborting o n s) (hpc : s.pc = pc) (hk : pc.abortsIn s.allResponsesHandled = some k) :
    k ≤ n := by
  obtain ⟨k', hle, hk'⟩ := h.steps
  rw [hpc, hk] at hk'
  exact Option.some.inj hk' ▸ hle

theorem gather_spec : (s.gather o).hardAbort = s.hardAbort ∧ (s.gather o).restorePoint = s.restorePoint ∧
    (s.gather o).pc = .parent := by
  unfold TurnState.gather
  generalize s.steering.dequeueScopeWithFallback o.sessionKey = polled
  split
  · exact ⟨rfl, rfl, rfl⟩
  split
  · exact ⟨rfl, rfl, rfl⟩
  · exact ⟨rfl, rfl, rfl⟩

theorem receiveResult_frame : (s.receiveResult o).1.hardAbort = s.hardAbort ∧
    (s.receiveResult o).1.restorePoint = s.restorePoint := by
  unfold TurnState.receiveResult
  split <;> exact ⟨rfl, rfl⟩

section
variable (h : Aborting o (n + 1) s)
include h

theorem setupTurn_aborting (hpc : s.pc = .prepare) (hyields : c.fails = false) : Aborting o n (s.setupTurn o c) := by
  have hn := h.left hpc rfl
  unfold TurnState.setupTurn
  rw [if_neg (by simp [hyields])]
  exact .to h.flag (by omega) rfl

theorem gather_aborting (hpc : s.pc = .gather) : Aborting o n (s.gather o) := by
  have hn := h.left hpc rfl
  refine .to (k := 4) (gather_spec.1.trans h.flag) (by omega) ?_
  rw [gather_spec.2.2]
  rfl

theorem checkParent_aborting (hpc : s.pc = .parent) : Aborting o n (s.checkParent o) := by
  have hn := h.left hpc rfl
  unfold TurnState.checkParent
  split
  · exact .to h.flag (by omega) rfl
  · exact .to h.flag (by omega) rfl

section
variable (hc : c.restores = true)
include hc

theorem loopHead_aborting (hpc : s.pc = .loop) : Aborting o n (s.loopHead o c) := by
  have hn := h.left hpc rfl
  unfold TurnState.loopHead
  rw [if_pos h.flag]
  split
  · exact aborting_abortTurn hc h.flag
  · -- no iteration is left, and the flag is checked once more behind the loop
    exact .to h.flag (by omega) rfl

theorem callLLM_aborting (hpc : s.pc = .call) (hyields : c.fails = false ∧ c.hook ≠ .abortTurn) :
    Aborting o n (s.callLLM o c) := by
  have hn := h.left hpc rfl
  unfold TurnState.callLLM
  rw [if_neg (by simp [hyields.1])]
  split
  · exact absurd ‹_› hyields.2
  · exact aborting_abortTurn hc rfl
  · exact .to h.flag (by omega) rfl

theorem toolHead_aborting (hpc : s.pc = .tool i) : Aborting o n (s.toolHead o c i) := by
  have hn := h.left hpc rfl
  unfold TurnState.toolHead
  split
  · exact .to h.flag (by omega) rfl
  · rw [if_pos h.flag]
    exact aborting_abortTurn hc h.flag

omit hc in
theorem approveTool_aborting (hn : 8 ≤ n + 1) (tc : ToolCall) (toolName : String) :
    Aborting o n (s.approveTool o c i tc toolName) := by
  unfold TurnState.approveTool
  split
  · exact .to h.flag (by omega) rfl
  split
  · exact .to h.flag (by omega) rfl
  · exact .to h.flag (by omega) rfl

theorem beforeTool_aborting (hpc : s.pc = .hooks i) (hyields : c.hook ≠ .abortTurn) :
    Aborting o n (s.beforeTool o c i) := by
  have hn := h.left hpc rfl
  unfold TurnState.beforeTool
  split
  · exact .to h.flag (by omega) rfl
  split
  · exact approveTool_aborting h hn _ _
  · exact approveTool_aborting h hn _ _
  · split
    · exact .to h.flag (by omega) rfl
    · exact approveTool_aborting h hn _ _
  · exact .to h.flag (by omega) rfl
  · exact absurd ‹_› hyields
  · exact aborting_abortTurn hc rfl

theorem afterTool_aborting (hpc : s.pc = .result i) (hyields : c.hook ≠ .abortTurn) :
    Aborting o n (s.afterTool o c i) := by
  have hn := h.left hpc rfl
  unfold TurnState.afterTool
  split
  · exact .to h.flag (by omega) rfl
  split
  · exact absurd ‹_› hyields
  · exact aborting_abortTurn hc rfl
  · exact .to h.flag (by omega) rfl

omit hc in
theorem checkSkip_aborting (hpc : s.pc = .skip i) : Aborting o n (s.checkSkip o i) := by
  have hn := h.left hpc rfl
  unfold TurnState.checkSkip
  split
  · exact .to h.flag (by omega) rfl
  split
  · exact .to h.flag (by omega) rfl
  · exact .to h.flag (by omega) rfl

omit hc in
theorem toolsDone_aborting (hpc : s.pc = .toolsDone) : Aborting o n (s.toolsDone o c) := by
  have hn := h.left hpc rfl
  unfold TurnState.toolsDone
  split
  · exact .to h.flag (by omega) rfl
  dsimp only
  split
  · exact .to h.flag (by omega) rfl
  split
  · -- the answer has been delivered by the tools, and `Finalize` looks at the flag
    rename_i hhandled
    exact .to h.flag (by omega) (if_pos hhandled)
  · exact .to h.flag (by omega) rfl

theorem turnStep_aborting (hyields : c.Yields s.pc) : Aborting o n (s.turnStep o c) := by
  have hnever : s.pc.abortsIn s.allResponsesHandled ≠ none := by
    obtain ⟨k, _, hk⟩ := h.steps
    simp [hk]
  unfold TurnState.turnStep
  cases hpc : s.pc <;> rw [hpc] at hyields hnever
  case setup | executed i | exit =>
    dsimp only [TurnState.start, TurnState.toolReturned, TurnState.exit]
    rw [if_pos h.flag]
    exact aborting_abortTurn hc h.flag
  case prepare => exact setupTurn_aborting h hpc hyields
  case loop => exact loopHead_aborting h hc hpc
  case gather => exact gather_aborting h hpc
  case parent => exact checkParent_aborting h hpc
  case results | poll i =>
    have hn := h.left hpc rfl
    exact .to (receiveResult_frame.1.trans h.flag) (by omega) rfl
  case inject | steer i =>
    have hn := h.left hpc rfl
    exact .to h.flag (by omega) rfl
  case call => exact callLLM_aborting h hc hpc hyields
  case attempt retry =>
    have hanswer := hyields
    dsimp only [TurnState.callProvider]
    rw [hanswer, if_pos h.flag]
    exact aborting_abortTurn hc h.flag
  case backoff | answered | direct => exact absurd rfl hnever
  case tool i => exact toolHead_aborting h hc hpc
  case hooks i => exact beforeTool_aborting h hc hpc hyields
  case result i => exact afterTool_aborting h hc hpc hyields
  case skip i => exact checkSkip_aborting h hpc
  case toolsDone => exact toolsDone_aborting h hpc
  case finalize content =>
    have hhandled : s.allResponsesHandled = true := by
      by_contra hnot
      exact hnever (if_neg hnot)
    dsimp only [TurnState.finalize]
    rw [if_pos hhandled, if_pos h.flag]
    exact aborting_abortTurn hc h.flag
  case ended outcome =>
    cases outcome with
    | completed content | error => exact absurd rfl hnever
    | aborted => exact ⟨h.flag, ⟨0, Nat.zero_le n, by rw [hpc]; rfl⟩, h.restored⟩

end

end

theorem abortsIn_zero {handled : Bool} (h : pc.abortsIn handled = some 0) : pc = .ended .aborted := by
  unfold TurnPc.abortsIn at h
  split at h <;> simp_all

theorem turnStep_aborting_zero (h : Aborting o 0 s) : Aborting o 0 (s.turnStep o c) := by
  obtain ⟨k, hk, hsteps⟩ := h.steps
  have hpc := abortsIn_zero (Nat.le_zero.1 hk ▸ hsteps)
  have hsame : s.turnStep o c = s := by
    unfold TurnState.turnStep
    rw [hpc]
  rw [hsame]
  exact h

/-- The restore point keeps nothing of the turn, or the authenticated input that started it. -/
def RestoresInput (o : TurnOptions) (s : TurnState) : Prop :=
  s.restorePoint = [] ∨ o.messenger = true ∧ s.restorePoint = o.root.toList

theorem abortTurn_ended : (s.abortTurn o c).pc.isEnded = true ∧ (s.abortTurn o c).restorePoint = s.restorePoint := by
  obtain ⟨stored, outcome, heq, -⟩ := s.abortTurn_eq o c
  rw [heq]
  exact ⟨rfl, rfl⟩

theorem setupTurn_restores : RestoresInput o (s.setupTurn o c) ∨ (s.setupTurn o c).restorePoint = s.restorePoint := by
  unfold TurnState.setupTurn
  split
  · exact .inr rfl
  · refine .inl ?_
    unfold RestoresInput
    dsimp only
    split
    · exact .inr ⟨‹_›, rfl⟩
    · exact .inl rfl

/-- Only a hook sets the flag in a step of the turn itself, and ends it; the restore point is set with the input, and
again with the rebuilt messages. -/
theorem turnStep_spec : ((s.turnStep o c).hardAbort = s.hardAbort ∨ (s.turnStep o c).pc.isEnded = true) ∧
    (RestoresInput o (s.turnStep o c) ∨ (s.turnStep o c).restorePoint = s.restorePoint) := by
  unfold TurnState.turnStep
  split
  case h_2 =>
    refine ⟨.inl ?_, setupTurn_restores⟩
    unfold TurnState.setupTurn
    split <;> rfl
  case h_4 => exact ⟨.inl gather_spec.1, .inr gather_spec.2.1⟩
  case h_6 => exact ⟨.inl receiveResult_frame.1, .inr receiveResult_frame.2⟩
  case h_19 => exact ⟨.inl receiveResult_frame.1, .inr receiveResult_frame.2⟩
  case h_23 => exact ⟨.inl rfl, .inr rfl⟩
  all_goals
    dsimp only [TurnState.start, TurnState.loopHead, TurnState.checkParent, TurnState.inject,
      TurnState.callLLM, TurnState.callProvider, TurnState.backoff, TurnState.afterLLM, TurnState.directAnswer,
      TurnState.toolHead,
      TurnState.beforeTool, TurnState.approveTool, TurnState.toolReturned, TurnState.afterTool, TurnState.pollSteering,
      TurnState.checkSkip, TurnState.toolsDone, TurnState.exit, TurnState.finalize]
    repeat' split
    all_goals first
      | exact ⟨.inl rfl, .inr rfl⟩
      | exact ⟨.inr abortTurn_ended.1, .inr abortTurn_ended.2⟩
      | exact ⟨.inl rfl, .inl (.inl rfl)⟩

theorem Aborting.mono (h : Aborting o n s) {n' : Nat} (hn : n ≤ n') : Aborting o n' s :=
  ⟨h.flag, h.steps.imp fun _ hk => ⟨hk.1.trans hn, hk.2⟩, h.restored⟩

end

/-! ## Runs -/

def TurnEvent.isTurn : TurnEvent → Bool
  | .turn _ => true
  | _ => false

section
variable {o : TurnOptions} {s : TurnState} {c : Choice} {n : Nat}

theorem step_aborting (h : Aborting o n s) {e : TurnEvent} (he : Heeded s e) :
    Aborting o (n - if e.isTurn = true then 1 else 0) (s.step o e) := by
  cases e with
  | turn c =>
    cases n with
    | zero => exact turnStep_aborting_zero h
    | succ n => exact turnStep_aborting h (he h.flag).1 (he h.flag).2
  | interrupt =>
    dsimp only [TurnState.step]
    rw [if_pos h.flag]
    exact h
  | abort => exact ⟨rfl, h.steps, h.restored⟩
  | _ => exact ⟨h.flag, h.steps, h.restored⟩

theorem exec_aborting : ∀ {es} {s} {n}, Aborting o n s → Along (TurnState.step o) Heeded s es →
    Aborting o (n - es.countP (·.isTurn)) (exec (TurnState.step o) s es)
  | [], _, _, h, _ => h
  | e :: es, s, n, h, hes => by
    have hrest := exec_aborting (step_aborting h hes.1) hes.2
    rw [Nat.sub_sub, Nat.add_comm, ← List.countP_cons] at hrest
    exact hrest

/-- A turn that has the flag set is ended, or is going to be aborted. -/
def AbortHeeded (o : TurnOptions) (s : TurnState) : Prop := s.hardAbort = true → s.pc.isEnded = true ∨ Aborting o 8 s

theorem abortsIn_le {handled : Bool} (h : pc.abortsIn handled = some k) : k ≤ 8 := by
  unfold TurnPc.abortsIn at h
  split at h <;> grind

theorem abortHeeded_turnStep (h : AbortHeeded o s) (he : Heeded s (.turn c)) : AbortHeeded o (s.turnStep o c) := by
  intro hflag
  by_cases hbefore : s.hardAbort = true
  · rcases h hbefore with hended | haborting
    · cases hpc : s.pc <;> rw [hpc] at hended
      case ended outcome =>
        have hsame : s.turnStep o c = s := by
          unfold TurnState.turnStep
          rw [hpc]
        rw [hsame, hpc]
        exact .inl rfl
      all_goals cases hended
    · exact .inr (turnStep_aborting (haborting.mono (Nat.le_succ 8)) (he hbefore).1 (he hbefore).2)
  · exact .inl (turnStep_spec.1.resolve_left fun hsame => hbefore (hsame ▸ hflag))

theorem abortHeeded_step {e : TurnEvent} (h : AbortHeeded o s) (he : Heeded s e) : AbortHeeded o (s.step o e) := by
  -- an event of others keeps the turn where it is
  have hkeep : ∀ s', s'.hardAbort = s.hardAbort → s'.pc = s.pc → s'.allResponsesHandled = s.allResponsesHandled →
      (s'.stored, s'.restorePoint) = (s.stored, s.restorePoint) → AbortHeeded o s' := by
    intro s' hflag hpc hhandled hsession habort
    obtain ⟨hstored, hrestores⟩ := Prod.mk.inj hsession
    refine (h (hflag ▸ habort)).imp (fun hended => hpc ▸ hended) fun haborting => ⟨habort, ?_, ?_⟩
    · rw [hpc, hhandled]
      exact haborting.steps
    · rw [hpc, hstored, hrestores]
      exact haborting.restored
  cases e with
  | turn c => exact abortHeeded_turnStep h he
  | abort =>
    intro _
    cases hended : s.pc.isEnded with
    | true => exact .inl hended
    | false =>
      obtain ⟨k, hk⟩ := Option.isSome_iff_exists.1 (he.resolve_right (by simp [hended]))
      refine .inr ⟨rfl, ⟨k, abortsIn_le hk, hk⟩, fun hpc => ?_⟩
      have hpc : s.pc = .ended .aborted := hpc
      rw [hpc] at hended
      cases hended
  | interrupt =>
    dsimp only [TurnState.step]
    split
    · exact h
    · exact hkeep _ rfl rfl rfl rfl
  | _ => exact hkeep _ rfl rfl rfl rfl

theorem restoresInput_step {e : TurnEvent} (h : RestoresInput o s) : RestoresInput o (s.step o e) := by
  cases e with
  | turn c =>
    rcases turnStep_spec (o := o) (s := s) (c := c).2 with hrestores | hsame
    · exact hrestores
    · unfold RestoresInput
      rw [TurnState.step, hsame]
      exact h
  | interrupt =>
    dsimp only [TurnState.step]
    split
    · exact h
    · exact h
  | _ => exact h

end

namespace Sample

def abortOptions : TurnOptions where
  sessionKey := "room"
  root := some (userPromptMessage "look it up" [])
  prompt := [userPromptMessage "look it up" []]
  maxIterations := 5
  defaultResponse := "I have no answer."

/-- The abort comes while a tool is executed. -/
def abortedInTool : List TurnEvent :=
  List.replicate 8 (.turn {}) ++ [.turn { answer := .response { toolCalls := [⟨"a", "search", ""⟩] } }, .turn {},
    .turn {}, .turn {}, .abort]

/-- The abort comes in the pause after an error, and ends it. -/
def abortedInPause : List TurnEvent :=
  List.replicate 8 (.turn {}) ++ [.turn { answer := .transient }, .abort, .turn {}, .turn {}]

end Sample

end OpenFox.Agent
