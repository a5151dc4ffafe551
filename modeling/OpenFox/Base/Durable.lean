/-
A component that keeps its state in memory and in one file that is replaced as a whole. A call decides
on the state in memory; what it stores becomes the state in memory only if the write succeeded, while a
write that failed may still have reached the file. Opening the component again reads the file. Whatever
happens, the state in memory and the file are the results of accepted calls, one after the other.
-/
import OpenFox.Base.Run

namespace OpenFox.Base

inductive WriteOutcome
  | stored
  | failed (msg : String) (reached : Bool)
deriving DecidableEq

inductive Update (M α : Type)
  | keep (value : α)
  | store (next : M) (value : α)

def Update.map {M α β : Type} (f : α → β) : Update M α → Update M β
  | keep v => keep (f v)
  | store next v => store next (f v)

theorem Update.map_store {M α β : Type} {f : α → β} {x : Except String (Update M α)} {next : M} {v : β}
    (h : x.map (Update.map f) = .ok (.store next v)) : ∃ value, x = .ok (.store next value) := by
  cases x with
  | error e => cases h
  | ok update =>
    cases update with
    | keep value => cases h
    | store next' value => cases h; exact ⟨value, rfl⟩

/-- A component with state `M`, file contents `F` and calls `C`; a call is told whether the component is open. -/
structure Machine (M F : Type) (C : Type*) where
  save : M → F
  load : F → Except String M
  call : Bool → C → M → Except String (Update M Unit)

inductive MachineEvent (C : Type*)
  | call (write : WriteOutcome) (c : C)
  | close
  | reopen

namespace Machine

variable {M F : Type} {C : Type*}

structure State (M F : Type) where
  mem : M
  file : F
  opened : Bool := true

def start (m : Machine M F C) (init : M) : State M F := { mem := init, file := m.save init }

def perform (m : Machine M F C) (s : State M F) (w : WriteOutcome) (c : C) : State M F × Except String Unit :=
  match m.call s.opened c s.mem with
  | .error e => (s, .error e)
  | .ok (.keep _) => (s, .ok ())
  | .ok (.store next _) =>
    match w with
    | .stored => ({ s with mem := next, file := m.save next }, .ok ())
    | .failed msg reached => ({ s with file := if reached then m.save next else s.file }, .error msg)

def step (m : Machine M F C) (s : State M F) : MachineEvent C → State M F
  | .call w c => (m.perform s w c).1
  | .close => { s with opened := false }
  | .reopen =>
    match m.load s.file with
    | .error _ => { s with opened := false }
    | .ok mem => { s with mem := mem, opened := true }

variable {G : M → C → Prop} {e : MachineEvent C} {s : State M F} {init : M}

/-- What every accepted call keeps and every file that loads has is kept by every event. -/
theorem step_mem {m : Machine M F C} {I : M → Prop}
    (keep : ∀ {opened c mem next v}, I mem → m.call opened c mem = .ok (.store next v) → I next)
    (load : ∀ {file mem}, m.load file = .ok mem → I mem) (hs : I s.mem) : I (m.step s e).mem := by
  cases e with
  | close => exact hs
  | reopen =>
    simp only [step]
    split
    · exact hs
    · rename_i mem hl
      exact load hl
  | call w c =>
    simp only [step, perform]
    split
    · exact hs
    · exact hs
    · rename_i next v hcall
      cases w with
      | stored => exact keep hs hcall
      | failed msg reached => exact hs

/-- The states accepted calls lead to, each call satisfying `G` where it was made; a state may have been
read back from its file in between. -/
inductive Accepted (m : Machine M F C) (G : M → C → Prop) (init : M) : List C → M → Prop
  | nil : Accepted m G init [] init
  | snoc {cs mem c next v} (prior : Accepted m G init cs mem) (allowed : G mem c)
    (stored : m.call true c mem = .ok (.store next v)) : Accepted m G init (cs ++ [c]) next
  | reload {cs mem mem'} (prior : Accepted m G init cs mem) (loaded : m.load (m.save mem) = .ok mem') :
    Accepted m G init cs mem'

/-- What every accepted call and every reload keep holds after every sequence of them. -/
theorem Accepted.invariant {m : Machine M F C} {I : M → Prop} (hinit : I init)
    (keep : ∀ {mem c next v}, I mem → G mem c → m.call true c mem = .ok (.store next v) → I next)
    (reload : ∀ {mem mem'}, I mem → m.load (m.save mem) = .ok mem' → I mem')
    {cs : List C} {mem : M} (ha : Accepted m G init cs mem) : I mem := by
  induction ha with
  | nil => exact hinit
  | snoc _ allowed stored ih => exact keep ih allowed stored
  | reload _ loaded ih => exact reload ih loaded

/-- An event whose call, if it is one, satisfies `G` on the state in memory. -/
def Allowed (G : M → C → Prop) (s : State M F) : MachineEvent C → Prop
  | .call _ c => G s.mem c
  | .close | .reopen => True

instance Allowed.decidable (G : M → C → Prop) [∀ mem c, Decidable (G mem c)] (s : State M F) :
    (e : MachineEvent C) → Decidable (Allowed G s e)
  | .call _ c => inferInstanceAs (Decidable (G s.mem c))
  | .close | .reopen => isTrue trivial

/-- What the file holds is what is in memory or comes after it. -/
def Ahead (m : Machine M F C) (R : M → M → Prop) (s : State M F) : Prop :=
  ∃ stored, s.file = m.save stored ∧ R s.mem stored

section
variable {m : Machine M F C} {R : M → M → Prop} (refl : ∀ mem, R mem mem)
  (hcall : ∀ {opened c mem next v}, m.call opened c mem = .ok (.store next v) → R mem next)
  (hload : ∀ {mem mem'}, m.load (m.save mem) = .ok mem' → mem' = mem)
include refl hcall hload

/-- A relation every stored call establishes relates the memory before and after every event: a write that failed
and still reached the file is only ever read back. -/
theorem step_ahead (hs : Ahead m R s) : Ahead m R (m.step s e) ∧ R s.mem (m.step s e).mem := by
  obtain ⟨stored, hfile, hahead⟩ := hs
  cases e with
  | close => exact ⟨⟨stored, hfile, hahead⟩, refl _⟩
  | reopen =>
    simp only [step]
    split
    · exact ⟨⟨stored, hfile, hahead⟩, refl _⟩
    · rename_i mem hl
      rw [hfile] at hl
      cases hload hl
      exact ⟨⟨_, hfile, refl _⟩, hahead⟩
  | call w c =>
    simp only [step, perform]
    split
    · exact ⟨⟨stored, hfile, hahead⟩, refl _⟩
    · exact ⟨⟨stored, hfile, hahead⟩, refl _⟩
    · rename_i next v hnext
      cases w with
      | stored => exact ⟨⟨next, rfl, refl _⟩, hcall hnext⟩
      | failed msg reached =>
        cases reached with
        | false => exact ⟨⟨stored, hfile, hahead⟩, refl _⟩
        | true => exact ⟨⟨next, rfl, hcall hnext⟩, refl _⟩

/-- So it relates the memory at any two moments of a run. -/
theorem run_related (trans : ∀ a b c, R a b → R b c → R a c) (init : M) (es es' : List (MachineEvent C)) :
    R (exec m.step (m.start init) es).mem (exec m.step (m.start init) (es ++ es')).mem := by
  have hkeep : ∀ s e, Ahead m R s → Ahead m R (m.step s e) := fun _ _ hs => (step_ahead refl hcall hload hs).1
  have hstart : Ahead m R (m.start init) := ⟨init, rfl, refl init⟩
  rw [exec_append]
  exact related (R := fun s s' => R s.mem s'.mem) (fun s => refl s.mem) (fun a b c => trans a.mem b.mem c.mem) hkeep
    (fun _ _ hs => (step_ahead refl hcall hload hs).2) es' (invariant hkeep es hstart)

end

/-- Both copies are results of accepted calls. -/
structure Consistent (m : Machine M F C) (G : M → C → Prop) (init : M) (s : State M F) : Prop where
  mem : ∃ cs, Accepted m G init cs s.mem
  file : ∃ cs stored, Accepted m G init cs stored ∧ s.file = m.save stored

theorem step_consistent {m : Machine M F C} (hclosed : ∀ {c mem next v}, m.call false c mem ≠ .ok (.store next v))
    (hs : Consistent m G init s) (he : Allowed G s e) : Consistent m G init (m.step s e) := by
  obtain ⟨cs, hmem⟩ := hs.mem
  obtain ⟨cs', stored, hstored, hfile⟩ := hs.file
  cases e with
  | close => exact ⟨⟨cs, hmem⟩, cs', stored, hstored, hfile⟩
  | reopen =>
    simp only [step]
    split
    · exact ⟨⟨cs, hmem⟩, cs', stored, hstored, hfile⟩
    · rename_i mem hl
      rw [hfile] at hl
      exact ⟨⟨cs', hstored.reload hl⟩, cs', stored, hstored, hfile⟩
  | call w c =>
    simp only [step, perform]
    split
    · exact hs
    · exact hs
    · rename_i next v hcall
      have hopen : m.call true c s.mem = .ok (.store next v) := by
        cases ho : s.opened with
        | true => rwa [ho] at hcall
        | false => rw [ho] at hcall; exact absurd hcall hclosed
      have hnext := hmem.snoc he hopen
      cases w with
      | stored => exact ⟨⟨_, hnext⟩, _, next, hnext, rfl⟩
      | failed msg reached =>
        cases reached with
        | false => exact ⟨⟨cs, hmem⟩, cs', stored, hstored, hfile⟩
        | true => exact ⟨⟨cs, hmem⟩, _, next, hnext, rfl⟩

/-- In every run whose calls satisfy `G`, both copies are results of accepted calls. -/
theorem run_consistent {m : Machine M F C} (hclosed : ∀ {c mem next v}, m.call false c mem ≠ .ok (.store next v))
    {es : List (MachineEvent C)} (hes : Along m.step (Allowed G) (m.start init) es) :
    Consistent m G init (exec m.step (m.start init) es) :=
  invariant_along (fun _ _ hs he => step_consistent hclosed hs he) ⟨⟨[], .nil⟩, [], init, .nil, rfl⟩ hes

end Machine

end OpenFox.Base
