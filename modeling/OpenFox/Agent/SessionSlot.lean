/-
The session slot of the agent loop. `activeTurnStates` has at most one entry for a session; it passes from the
placeholder of the receive loop or of `Continue` to the turn that runs, and is removed by whoever had it. The steps are
the single operations on the map, taken by any number of goroutines in any order.
-/
import OpenFox.Base.Run
import Mathlib.Logic.Function.Basic

namespace OpenFox.Agent

open OpenFox.Base

/-! ## The slot and its goroutines -/

/-- A `*turnState`, as far as the slot is concerned: two of them are one if they are the same pointer. -/
structure TurnRef where
  id : Nat
  /-- A history variable: the goroutine that made it. -/
  goroutine : Nat
  /-- `turnID` has the `pendingTurnPrefix`. -/
  pending : Bool
deriving DecidableEq

/-- A goroutine between its accesses to the map that has no entry of its own. -/
inductive Rest
  | draining
  | cleaning
  /-- About to run it after a panic: `releaseSession` is set. -/
  | unwinding
  | ended
deriving DecidableEq

inductive Pc
  | rest (r : Rest)
  /-- A worker that waits for a slot of `workerSem`. -/
  | waiting (ph : TurnRef)
  | begun (ph : TurnRef)
  | processing (ph : TurnRef)
  | running (ts : TurnRef)
  /-- In `releaseSessionTurnState`, before the comparison. -/
  | releasing (expected : TurnRef) (next : Rest)
  | deleting (found : TurnRef) (next : Rest)
  | resuming (ph : TurnRef)
deriving DecidableEq

/-- A worker has the placeholder it was started with; a caller of `Continue` has none. -/
structure Goroutine where
  placeholder : Option TurnRef := none
  pc : Pc := .rest .ended
deriving DecidableEq

structure SessionSlot where
  entry : Option TurnRef := none
  goroutines : Nat → Goroutine := fun _ => {}
  seq : Nat := 0

namespace SessionSlot

def move (s : SessionSlot) (g : Nat) (pc : Pc) : SessionSlot :=
  { s with goroutines := Function.update s.goroutines g { s.goroutines g with pc := pc } }

def delete (s : SessionSlot) : SessionSlot := { s with entry := none }

/-- `activeTurnStates.Store` of a new turn state by goroutine `g`, which goes on at `pc`. -/
def store (s : SessionSlot) (g : Nat) (pending : Bool) (pc : TurnRef → Pc) : SessionSlot :=
  let ts : TurnRef := ⟨s.seq, g, pending⟩
  { s.move g (pc ts) with entry := some ts, seq := s.seq + 1 }

def spawn (s : SessionSlot) (worker : Goroutine) : SessionSlot :=
  { s with goroutines := Function.update s.goroutines s.seq worker, seq := s.seq + 1 }

end SessionSlot

/-- The accesses to the map: `receive` and `continue` are `LoadOrStore`, `enter` and `finish` are `registerActiveTurn`
and `clearActiveTurn`, `load` and `delete` are in `releaseSessionTurnState`, `clean` and `unwind` in the deferred
cleanup. -/
inductive SlotEvent
  | receive
  | call
  /-- A system message whose turn runs in the receive loop, without a placeholder. -/
  | system
  | acquire (g : Nat)
  | cancel (g : Nat)
  | stop (g : Nat)
  | process (g : Nat)
  | leave (g : Nat) (next : Rest)
  | enter (g : Nat)
  | finish (g : Nat) (next : Rest)
  | load (g : Nat)
  | delete (g : Nat)
  | continue (g : Nat)
  | quit (g : Nat)
  /-- `Continue` has no messages, no agent, or its hooks fail. -/
  | giveUp (g : Nat)
  /-- The turn profile of `Continue` cannot be resolved: the placeholder stays. -/
  | abandon (g : Nat)
  | resume (g : Nat)
  | clean (g : Nat)
  | panic (g : Nat)
  | unwind (g : Nat)
deriving DecidableEq

namespace SessionSlot

def step (s : SessionSlot) : SlotEvent → SessionSlot
  | .receive =>
    match s.entry with
    | some _ => s -- queued as a steering message, or refused
    | none =>
      let ph : TurnRef := ⟨s.seq, s.seq, true⟩
      { s.spawn ⟨some ph, .waiting ph⟩ with entry := some ph }
  | .call => s.spawn ⟨none, .rest .draining⟩
  | .system =>
    let ts : TurnRef := ⟨s.seq, s.seq, false⟩
    { s.spawn ⟨none, .running ts⟩ with entry := some ts }
  | .acquire g =>
    match (s.goroutines g).pc with
    | .waiting ph => s.move g (.begun ph)
    | _ => s
  | .cancel g =>
    match (s.goroutines g).pc with
    | .waiting _ => (s.move g (.rest .ended)).delete
    | _ => s
  | .stop g =>
    match (s.goroutines g).pc with
    | .begun _ => (s.move g (.rest .draining)).delete
    | _ => s
  | .process g =>
    match (s.goroutines g).pc with
    | .begun ph => s.move g (.processing ph)
    | _ => s
  | .leave g next =>
    match (s.goroutines g).pc with
    | .processing _ => s.move g (.rest next)
    | _ => s
  | .enter g =>
    match (s.goroutines g).pc with
    | .processing _ => s.store g false .running
    | _ => s
  | .finish g next =>
    match (s.goroutines g).pc with
    | .running ts => s.move g (.releasing ts next)
    | _ => s
  | .load g =>
    match (s.goroutines g).pc with
    | .releasing expected next =>
      if s.entry = some expected then s.move g (.deleting expected next) else s.move g (.rest next)
    | _ => s
  | .delete g =>
    match (s.goroutines g).pc with
    | .deleting _ next => (s.move g (.rest next)).delete
    | _ => s
  | .continue g =>
    match (s.goroutines g).pc with
    | .rest .draining =>
      match s.entry with
      | some _ => s.move g (.rest .cleaning) -- the turn is still active
      | none => s.store g true .resuming
    | _ => s
  | .quit g =>
    match (s.goroutines g).pc with
    | .rest .draining => s.move g (.rest .cleaning)
    | _ => s
  | .giveUp g =>
    match (s.goroutines g).pc with
    | .resuming _ => (s.move g (.rest .cleaning)).delete
    | _ => s
  | .abandon g =>
    match (s.goroutines g).pc with
    | .resuming _ => s.move g (.rest .cleaning)
    | _ => s
  | .resume g =>
    match (s.goroutines g).pc with
    | .resuming _ => s.store g false .running
    | _ => s
  | .clean g =>
    match s.goroutines g with
    | ⟨some _, .rest .cleaning⟩ =>
      match s.entry with
      -- whichever placeholder it is
      | some ts => if ts.pending = true then s.move g (.releasing ts .ended) else s.move g (.rest .ended)
      | none => s.move g (.rest .ended)
    | ⟨none, .rest .cleaning⟩ => s.move g (.rest .ended)
    | _ => s
  | .panic g =>
    match (s.goroutines g).pc with
    | .begun _ | .processing _ | .rest .draining | .resuming _ => s.move g (.rest .unwinding)
    | .running ts => s.move g (.releasing ts .unwinding)
    | _ => s
  | .unwind g =>
    match s.goroutines g with
    | ⟨some ph, .rest .unwinding⟩ =>
      if s.entry = some ph then s.move g (.releasing ph .ended) else s.move g (.rest .ended)
    | ⟨none, .rest .unwinding⟩ => s.move g (.rest .ended)
    | _ => s

def idle : SessionSlot := {}

def run (es : List SlotEvent) : SessionSlot := exec step idle es

end SessionSlot

/-! ## Who has the slot -/

def Pc.held : Pc → Option TurnRef
  | .rest _ => none
  | .waiting ph | .begun ph | .processing ph | .resuming ph => some ph
  | .running ts => some ts
  | .releasing expected _ => some expected
  | .deleting found _ => some found

/-- In `runTurn`, its deferred release included. -/
def Pc.InRunTurn (pc : Pc) : Prop := ∃ ts : TurnRef, pc.held = some ts ∧ ts.pending = false

/-- What a goroutine relies on is in the slot, and is its own. -/
structure Owned (s : SessionSlot) : Prop where
  held : ∀ g r, (s.goroutines g).pc.held = some r → s.entry = some r ∧ r.goroutine = g
  placeholder : ∀ g r, (s.goroutines g).placeholder = some r → r.goroutine = g

section
variable {s : SessionSlot} {g : Nat}

section
variable (h : Owned s)
include h

theorem Owned.exclusive {g' : Nat} {r r' : TurnRef} (hg : (s.goroutines g).pc.held = some r)
    (hg' : (s.goroutines g').pc.held = some r') : g = g' := by
  obtain ⟨hentry, hown⟩ := h.held g r hg
  obtain ⟨hentry', hown'⟩ := h.held g' r' hg'
  rw [← hown, ← hown', Option.some.inj (hentry.symm.trans hentry')]

/-- What a step does: one goroutine moves, and the entry changes only if nobody else relies on it. -/
theorem Owned.update {worker : Goroutine} {entry : Option TurnRef} {seq : Nat}
    (hentry : entry = s.entry ∨ s.entry = none ∨ ∃ r, (s.goroutines g).pc.held = some r)
    (hheld : ∀ r, worker.pc.held = some r → entry = some r ∧ r.goroutine = g)
    (hplaceholder : ∀ r, worker.placeholder = some r → r.goroutine = g) :
    Owned ⟨entry, Function.update s.goroutines g worker, seq⟩ where
  held g' r hr := by
    dsimp only at hr ⊢
    by_cases hg : g' = g
    · subst hg
      rw [Function.update_self] at hr
      exact hheld r hr
    · rw [Function.update_of_ne hg] at hr
      obtain ⟨hslot, hown⟩ := h.held g' r hr
      refine ⟨?_, hown⟩
      rcases hentry with rfl | hnone | ⟨r', hr'⟩
      · exact hslot
      · cases hnone.symm.trans hslot
      · exact absurd (h.exclusive hr hr') hg
  placeholder g' r hr := by
    dsimp only at hr
    by_cases hg : g' = g
    · subst hg
      rw [Function.update_self] at hr
      exact hplaceholder r hr
    · rw [Function.update_of_ne hg] at hr
      exact h.placeholder g' r hr

theorem Owned.move {pc : Pc} (hheld : ∀ r, pc.held = some r → s.entry = some r ∧ r.goroutine = g) :
    Owned (s.move g pc) :=
  h.update (.inl rfl) hheld (h.placeholder g)

theorem Owned.keep {pc : Pc} (hpc : pc.held = (s.goroutines g).pc.held) : Owned (s.move g pc) :=
  h.move fun r hr => h.held g r (hpc ▸ hr)

theorem Owned.move_rest (next : Rest) : Owned (s.move g (.rest next)) :=
  h.move fun _ hr => by cases hr

theorem Owned.delete {r : TurnRef} (hg : (s.goroutines g).pc.held = some r) (next : Rest) :
    Owned (s.move g (.rest next)).delete :=
  h.update (.inr (.inr ⟨r, hg⟩)) (fun _ hr => by cases hr) (h.placeholder g)

theorem Owned.store {pending : Bool} {pc : TurnRef → Pc}
    (hfree : s.entry = none ∨ ∃ r, (s.goroutines g).pc.held = some r) (hpc : ∀ ts, (pc ts).held = some ts) :
    Owned (s.store g pending pc) := by
  refine h.update (.inr hfree) (fun r hr => ?_) (h.placeholder g)
  rw [hpc] at hr
  cases hr
  exact ⟨rfl, rfl⟩

end

end

/-! ## Orderly runs -/

/-- When a worker cleans up, a placeholder in the slot is its own; and a turn without a placeholder starts only if the
slot is free. -/
def Orderly (s : SessionSlot) : SlotEvent → Prop
  | .clean g => (s.goroutines g).pc = .rest .cleaning → ∀ ts ∈ s.entry, ts.pending = true → ts.goroutine = g
  | .system => s.entry = none
  | _ => True

instance (s : SessionSlot) (e : SlotEvent) : Decidable (Orderly s e) := by
  cases e <;> unfold Orderly <;> infer_instance

theorem owned_idle : Owned SessionSlot.idle where
  held _ _ hr := by cases hr
  placeholder _ _ hr := by cases hr

theorem Owned.spawn {s : SessionSlot} (h : Owned s) {ph : Option TurnRef} {pc : Pc} {entry : Option TurnRef}
    (hentry : entry = s.entry ∨ s.entry = none) (hheld : ∀ r, pc.held = some r → entry = some r ∧ r.goroutine = s.seq)
    (hph : ∀ r, ph = some r → r.goroutine = s.seq) : Owned { s.spawn ⟨ph, pc⟩ with entry := entry } :=
  h.update (hentry.imp_right .inl) hheld hph

theorem owned_step {s : SessionSlot} (h : Owned s) {e : SlotEvent} (he : Orderly s e) : Owned (s.step e) := by
  cases e with
  | receive =>
    dsimp only [SessionSlot.step]
    split
    · exact h
    · rename_i hfree
      refine h.spawn (.inr hfree) (fun r hr => ?_) fun r hr => ?_
      · cases hr; exact ⟨rfl, rfl⟩
      · cases hr; rfl
  | call => exact h.spawn (.inl rfl) (fun _ hr => by cases hr) fun _ hr => by cases hr
  | system =>
    refine h.spawn (.inr he) (fun r hr => ?_) fun _ hr => by cases hr
    cases hr; exact ⟨rfl, rfl⟩
  | acquire g | process g | finish g next =>
    dsimp only [SessionSlot.step]
    split
    · rename_i hpc
      exact h.keep (by rw [hpc]; rfl)
    · exact h
  | cancel g | stop g | delete g | giveUp g =>
    dsimp only [SessionSlot.step]
    split
    · rename_i hpc
      exact h.delete (by rw [hpc]; rfl) _
    · exact h
  | leave g next | quit g | abandon g =>
    dsimp only [SessionSlot.step]
    split
    · exact h.move_rest _
    · exact h
  | enter g | resume g =>
    dsimp only [SessionSlot.step]
    split
    · rename_i hpc
      exact h.store (.inr ⟨_, by rw [hpc]; rfl⟩) fun _ => rfl
    · exact h
  | load g =>
    dsimp only [SessionSlot.step]
    split
    · rename_i hpc
      split
      · exact h.keep (by rw [hpc]; rfl)
      · exact h.move_rest _
    · exact h
  | «continue» g =>
    dsimp only [SessionSlot.step]
    split
    · split
      · exact h.move_rest _
      · rename_i hfree
        exact h.store (.inl hfree) fun _ => rfl
    · exact h
  | clean g =>
    dsimp only [SessionSlot.step]
    split
    · rename_i hg
      split
      · rename_i ts hentry
        split
        · rename_i hpending
          -- the placeholder that is released is the worker's own
          refine h.move fun r hr => ?_
          cases hr
          exact ⟨hentry, he (by rw [hg]) ts hentry hpending⟩
        · exact h.move_rest _
      · exact h.move_rest _
    · exact h.move_rest _
    · exact h
  | panic g =>
    dsimp only [SessionSlot.step]
    split
    · exact h.move_rest _
    · exact h.move_rest _
    · exact h.move_rest _
    · exact h.move_rest _
    · rename_i hpc
      exact h.keep (by rw [hpc]; rfl)
    · exact h
  | unwind g =>
    dsimp only [SessionSlot.step]
    split
    · rename_i ph hg
      split
      · rename_i hentry
        refine h.move fun r hr => ?_
        cases hr
        exact ⟨hentry, h.placeholder g ph (by rw [hg])⟩
      · exact h.move_rest _
    · exact h.move_rest _
    · exact h

theorem owned_run {es : List SlotEvent} (hes : Along SessionSlot.step Orderly SessionSlot.idle es) :
    Owned (SessionSlot.run es) :=
  invariant_along (I := Owned) (fun _ _ h he => owned_step h he) owned_idle hes

/-- In an orderly run, at most one goroutine is in `runTurn` of a root turn of the session. -/
theorem one_turn_per_session {es : List SlotEvent} (hes : Along SessionSlot.step Orderly SessionSlot.idle es)
    {g g' : Nat}
    (hg : ((SessionSlot.run es).goroutines g).pc.InRunTurn) (hg' : ((SessionSlot.run es).goroutines g').pc.InRunTurn) :
    g = g' := by
  obtain ⟨ts, hts, -⟩ := hg
  obtain ⟨ts', hts', -⟩ := hg'
  exact (owned_run hes).exclusive hts hts'

namespace Sample

/-- A message is handled from its arrival to the end of its worker, the goroutine `g`. -/
def handled (g : Nat) : List SlotEvent :=
  [.receive, .acquire g, .process g, .enter g, .finish g .draining, .load g, .delete g, .quit g, .clean g]

def started (g : Nat) : List SlotEvent := [.receive, .acquire g, .process g, .enter g]

end Sample

open Sample in
/-- Two messages, one after the other: the second turn is the only one. -/
theorem second_turn_alone :
    ((SessionSlot.run (handled 0 ++ started 2)).goroutines 2).pc = .running ⟨3, 2, false⟩ ∧
      ∀ g, ((SessionSlot.run (handled 0 ++ started 2)).goroutines g).pc.InRunTurn → g = 2 := by
  have hpc : ((SessionSlot.run (handled 0 ++ started 2)).goroutines 2).pc = .running ⟨3, 2, false⟩ := by decide
  refine ⟨hpc, fun g hg => one_turn_per_session (by decide) hg ?_⟩
  exact ⟨_, rfl, rfl⟩

open Sample in
/-- The first worker has released its turn and has not cleaned up when the second message claims the session. Its
cleanup removes the second message's placeholder, a third message claims the session again, and both turns run. -/
theorem cleanup_of_another_placeholder :
    let es := (handled 0).dropLast ++ [.receive, .clean 0, .load 0, .delete 0] ++
      [.receive, .acquire 2, .process 2, .enter 2,
      .acquire 3, .process 3, .enter 3]
    (SessionSlot.run ((handled 0).dropLast ++ [.receive])).entry = some ⟨2, 2, true⟩ ∧
    (SessionSlot.run ((handled 0).dropLast ++ [.receive, .clean 0, .load 0, .delete 0])).entry = none ∧
    ((SessionSlot.run es).goroutines 2).pc = .running ⟨4, 2, false⟩ ∧
    ((SessionSlot.run es).goroutines 3).pc = .running ⟨5, 3, false⟩ := by
  decide

end OpenFox.Agent
