/-
Programs that keep part of their state on a disk whose operations may fail. A disk operation ends in one of
three ways: it is done, it fails and the program goes on, or the process crashes; one that fails or is cut off
may have taken effect wholly, partly or not at all. A program is run against a list that says how its disk
operations end, one after the other, and `After` is its weakest precondition over all such lists.
-/
import OpenFox.Go.Result

namespace OpenFox.Base

/-- How much of a disk operation took effect. -/
inductive Reach
  | nothing
  | partly (bytes : Nat)
  | wholly
deriving DecidableEq

inductive Fault
  | done
  | fails (reach : Reach)
  | crashes (reach : Reach)
deriving DecidableEq

inductive Halt
  | failed (msg : String)
  | crashed
deriving DecidableEq

/-- Nothing is left half done. -/
def NoTear : Fault → Prop
  | .fails (.partly _) | .crashes (.partly _) => False
  | _ => True

instance : DecidablePred NoTear := fun f => by unfold NoTear; split <;> infer_instance

structure World (S : Type) where
  state : S
  faults : List Fault

/-- A program over the state `S`. -/
def Prog (S α : Type) : Type := World S → Except Halt α × World S

namespace Prog

variable {S α β : Type}

instance : Monad (Prog S) where
  pure a w := (.ok a, w)
  bind x f w :=
    match x w with
    | (.ok a, w') => f a w'
    | (.error h, w') => (.error h, w')

def read : Prog S S := fun w => (.ok w.state, w)

def modify (f : S → S) : Prog S Unit := fun w => (.ok (), { w with state := f w.state })

/-- `return err`. -/
def fail (msg : String) : Prog S α := fun w => (.error (.failed msg), w)

/-- A computation that does not touch the disk. -/
def lift : Except String α → Prog S α
  | .ok a => pure a
  | .error msg => fail msg

/-- The result of a call as a value, its error included. No caller survives a crash. -/
def attempt (x : Prog S α) : Prog S (Except String α) := fun w =>
  match x w with
  | (.ok a, w') => (.ok (.ok a), w')
  | (.error (.failed msg), w') => (.ok (.error msg), w')
  | (.error .crashed, w') => (.error .crashed, w')

/-- One disk operation; `effect` is what it does as far as it gets. -/
def disk (effect : Reach → S → S) : Prog S Unit := fun w =>
  match w.faults with
  | [] => (.ok (), { w with state := effect .wholly w.state })
  | .done :: rest => (.ok (), ⟨effect .wholly w.state, rest⟩)
  | .fails reach :: rest => (.error (.failed "input/output error"), ⟨effect reach w.state, rest⟩)
  | .crashes reach :: rest => (.error .crashed, ⟨effect reach w.state, rest⟩)

/-- A disk operation that takes effect as a whole or not at all. -/
def atomic (f : S → S) : Prog S Unit := disk fun reach s => if reach = .wholly then f s else s

/-- `x` leaves nothing half done: it ends as it would if every operation took effect wholly or not at all, as atomic
ones do anyway. -/
def Untorn (x : Prog S α) (w : World S) : Prop :=
  ∃ faults, (∀ f ∈ faults, NoTear f) ∧ (x ⟨w.state, faults⟩).1 = (x w).1 ∧ (x ⟨w.state, faults⟩).2.state = (x w).2.state

def forEach (f : α → Prog S Unit) : List α → Prog S Unit
  | [] => pure ()
  | a :: l => do
    f a
    forEach f l

/-! ## Preconditions -/

/-- Run from `s` with faults from `F` only, `x` ends in `done`, or it fails in `failed`, or it crashes in
`crashed`, which takes a crash in `F`; and the faults it leaves over are from `F`. -/
def After (F : Fault → Prop) (x : Prog S α) (s : S) (done : α → S → Prop) (failed crashed : S → Prop) : Prop :=
  ∀ faults, (∀ f ∈ faults, F f) →
    (∀ f ∈ (x ⟨s, faults⟩).2.faults, F f) ∧
      match (x ⟨s, faults⟩).1 with
      | .ok a => done a (x ⟨s, faults⟩).2.state
      | .error (.failed _) => failed (x ⟨s, faults⟩).2.state
      | .error .crashed => (∃ reach, F (.crashes reach)) ∧ crashed (x ⟨s, faults⟩).2.state

variable {f : β → Prog S α} {x : Prog S α}

section
variable {F : Fault → Prop} {s : S} {done : α → S → Prop} {failed crashed : S → Prop}

theorem after_pure {a : α} (h : done a s) : After F (pure a) s done failed crashed :=
  fun _ hF => ⟨hF, h⟩

theorem after_fail {msg : String} (h : failed s) : After F (fail (α := α) msg) s done failed crashed :=
  fun _ hF => ⟨hF, h⟩

theorem after_read {done : S → S → Prop} (h : done s s) : After F read s done failed crashed :=
  fun _ hF => ⟨hF, h⟩

theorem after_modify {f : S → S} {done : Unit → S → Prop} (h : done () (f s)) :
    After F (modify f) s done failed crashed :=
  fun _ hF => ⟨hF, h⟩

theorem after_lift {x : Except String α} (hok : ∀ a, x = .ok a → done a s) (herr : ∀ msg, x = .error msg → failed s) :
    After F (lift x) s done failed crashed := by
  cases x with
  | ok a => exact after_pure (hok a rfl)
  | error msg => exact after_fail (herr msg rfl)

theorem after_bind {x : Prog S β} (h : After F x s (fun b s' => After F (f b) s' done failed crashed) failed crashed) :
    After F (x >>= f) s done failed crashed := by
  intro faults hF
  obtain ⟨hrest, h⟩ := h faults hF
  show (∀ f' ∈ (Bind.bind x f ⟨s, faults⟩).2.faults, F f') ∧ _
  simp only [bind]
  rcases hx : x ⟨s, faults⟩ with ⟨r, w⟩
  rw [hx] at h hrest
  cases r with
  | ok b => exact h w.faults hrest
  | error halt =>
    cases halt with
    | failed msg | crashed => exact ⟨hrest, h⟩

theorem after_check {x : Except String β} (hfail : failed s)
    (hok : ∀ b, x = .ok b → After F (f b) s done failed crashed) :
    After F (lift x >>= f) s done failed crashed :=
  after_bind (after_lift hok fun _ _ => hfail)

theorem after_passes {x : Except String Unit} {f : Unit → Prog S α} (hx : x = .ok ())
    (h : After F (f ()) s done failed crashed) :
    After F (lift x >>= f) s done failed crashed := by
  subst hx
  exact after_bind (after_pure h)

theorem after_attempt {done : Except String α → S → Prop}
    (h : After F x s (fun a s' => done (.ok a) s') (fun s' => ∀ msg, done (.error msg) s') crashed) :
    After F (attempt x) s done failed crashed := by
  intro faults hF
  obtain ⟨hrest, h⟩ := h faults hF
  simp only [attempt]
  rcases hx : x ⟨s, faults⟩ with ⟨r, w⟩
  rw [hx] at h hrest
  cases r with
  | ok b => exact ⟨hrest, h⟩
  | error halt =>
    cases halt with
    | failed msg => exact ⟨hrest, h msg⟩
    | crashed => exact ⟨hrest, h⟩

theorem after_disk {effect : Reach → S → S} {done : Unit → S → Prop} (hdone : done () (effect .wholly s))
    (hfails : ∀ reach, F (.fails reach) → failed (effect reach s))
    (hcrash : ∀ reach, F (.crashes reach) → crashed (effect reach s)) :
    After F (disk effect) s done failed crashed := by
  intro faults hF
  cases faults with
  | nil => exact ⟨hF, hdone⟩
  | cons f rest =>
    have hrest : ∀ f ∈ rest, F f := fun f hf => hF f (List.mem_cons_of_mem _ hf)
    have hf := hF f (List.mem_cons_self ..)
    cases f with
    | done => exact ⟨hrest, hdone⟩
    | fails reach => exact ⟨hrest, hfails reach hf⟩
    | crashes reach => exact ⟨hrest, ⟨reach, hf⟩, hcrash reach hf⟩

/-- An atomic operation leaves the state as it was or does the whole change. -/
theorem after_atomic {f : S → S} {done : Unit → S → Prop} (hdone : done () (f s))
    (hfails : (∃ reach, F (.fails reach)) → failed s ∧ failed (f s))
    (hcrash : (∃ reach, F (.crashes reach)) → crashed s ∧ crashed (f s)) :
    After F (atomic f) s done failed crashed := by
  refine after_disk ?_ (fun reach hF => ?_) fun reach hF => ?_
  · rw [if_pos rfl]; exact hdone
  · split
    · exact (hfails ⟨reach, hF⟩).2
    · exact (hfails ⟨reach, hF⟩).1
  · split
    · exact (hcrash ⟨reach, hF⟩).2
    · exact (hcrash ⟨reach, hF⟩).1

theorem no_fault {p : Prop} (h : ∃ _ : Reach, False) : p := h.elim fun _ hf => hf.elim

theorem After.mono {done' : α → S → Prop} {failed' crashed' : S → Prop}
    (h : After F x s done failed crashed) (hdone : ∀ a s', done a s' → done' a s')
    (hfailed : ∀ s', failed s' → failed' s') (hcrashed : ∀ s', crashed s' → crashed' s') :
    After F x s done' failed' crashed' := by
  intro faults hF
  obtain ⟨hrest, h⟩ := h faults hF
  refine ⟨hrest, ?_⟩
  rcases hx : x ⟨s, faults⟩ with ⟨r, w⟩
  rw [hx] at h
  cases r with
  | ok a => exact hdone a _ h
  | error halt =>
    cases halt with
    | failed msg => exact hfailed _ h
    | crashed => exact ⟨h.1, hcrashed _ h.2⟩

theorem After.imp {done' : α → S → Prop} (h : After F x s done failed crashed)
    (hdone : ∀ a s', done a s' → done' a s') :
    After F x s done' failed crashed :=
  h.mono hdone (fun _ h => h) fun _ h => h

end

/-- A loop whose body keeps an invariant keeps it to its end; the invariant may speak of the entries already
visited. -/
theorem after_forEach {F : Fault → Prop} {f : α → Prog S Unit} {failed crashed : S → Prop} (I : List α → S → Prop)
    (all : List α) (body : ∀ visited a rest s, all = visited ++ a :: rest → I visited s →
      After F (f a) s (fun _ s' => I (visited ++ [a]) s') failed crashed) :
    ∀ (l visited : List α) (s : S), all = visited ++ l → I visited s →
      After F (forEach f l) s (fun _ s' => I all s') failed crashed
  | [], visited, s, hall, hs => after_pure (by rw [hall, List.append_nil]; exact hs)
  | a :: l, visited, s, hall, hs => after_bind ((body visited a l s hall hs).imp
      (fun _ s' hs' => after_forEach I all body l (visited ++ [a]) s' (by simp [hall]) hs'))

/-! ## Invariants -/

/-- `x` keeps `I` whether it ends or fails, and a crash leaves `C`. -/
def Keeps (F : Fault → Prop) (I C : S → Prop) (x : Prog S α) : Prop := ∀ s, I s → After F x s (fun _ => I) I C

section
variable {F : Fault → Prop} {I C : S → Prop}

theorem keeps_pure (a : α) : Keeps F I C (pure a) := fun _ hs => after_pure hs

theorem keeps_fail (msg : String) : Keeps F I C (fail (α := α) msg) := fun _ hs => after_fail hs

theorem keeps_lift (x : Except String α) : Keeps F I C (lift x) := fun _ hs => after_lift (fun _ _ => hs) fun _ _ => hs

theorem keeps_bind {x : Prog S β} (hx : Keeps F I C x) (hf : ∀ b, Keeps F I C (f b)) : Keeps F I C (x >>= f) :=
  fun s hs => after_bind ((hx s hs).imp hf)

/-- The state that is read is the one the rest starts in. -/
theorem keeps_read_bind {f : S → Prog S α} (hf : ∀ s, I s → After F (f s) s (fun _ => I) I C) :
    Keeps F I C (read >>= f) :=
  fun s hs => after_bind (after_read (hf s hs))

theorem keeps_attempt (hx : Keeps F I C x) : Keeps F I C (attempt x) :=
  fun s hs => after_attempt ((hx s hs).mono (fun _ _ h => h) (fun _ h _ => h) fun _ h => h)

theorem keeps_forEach {f : α → Prog S Unit} {l : List α} (hf : ∀ a ∈ l, Keeps F I C (f a)) :
    Keeps F I C (forEach f l) := by
  intro s hs
  refine after_forEach (fun _ => I) l (fun visited a rest s' hall hs' => hf a ?_ s' hs') l [] s rfl hs
  rw [hall]
  simp

end

/-! ## Two runs on a disk that works -/

/-- Run without faults from `s` and from `t`, both programs give one answer and end in related states. -/
def Alike (R : S → S → Prop) (x y : Prog S α) (s t : S) : Prop :=
  ∃ answer s' t', x ⟨s, []⟩ = (answer, ⟨s', []⟩) ∧ y ⟨t, []⟩ = (answer, ⟨t', []⟩) ∧ R s' t'

section
variable {R : S → S → Prop} {s t : S}

theorem alike_pure {a : α} (h : R s t) : Alike R (pure a) (pure a) s t := ⟨.ok a, s, t, rfl, rfl, h⟩

theorem alike_fail {msg : String} (h : R s t) : Alike R (fail (α := α) msg) (fail msg) s t := ⟨_, s, t, rfl, rfl, h⟩

theorem alike_bind {x y : Prog S β} {g : β → Prog S α} (h : Alike R x y s t)
    (hf : ∀ b s' t', R s' t' → Alike R (f b) (g b) s' t') : Alike R (x >>= f) (y >>= g) s t := by
  obtain ⟨answer, s', t', hx, hy, hR⟩ := h
  cases answer with
  | error halt => exact ⟨.error halt, s', t', by simp only [bind, hx], by simp only [bind, hy], hR⟩
  | ok b =>
    obtain ⟨answer, s'', t'', hf, hg, hR'⟩ := hf b s' t' hR
    exact ⟨answer, s'', t'', by simp only [bind, hx, hf], by simp only [bind, hy, hg], hR'⟩

theorem alike_read_bind {f g : S → Prog S α} (h : Alike R (f s) (g t) s t) : Alike R (read >>= f) (read >>= g) s t := h

theorem alike_modify_bind {m m' : S → S} {f g : Unit → Prog S α} (h : Alike R (f ()) (g ()) (m s) (m' t)) :
    Alike R (modify m >>= f) (modify m' >>= g) s t := h

theorem alike_lift_bind {e e' : Except String β} {g : β → Prog S α} (heq : e = e') (h : R s t)
    (hf : ∀ b, e = .ok b → Alike R (f b) (g b) s t) : Alike R (lift e >>= f) (lift e' >>= g) s t := by
  subst heq
  cases e with
  | ok b => exact hf b rfl
  | error msg => exact ⟨_, s, t, rfl, rfl, h⟩

theorem alike_attempt {y : Prog S α} (h : Alike R x y s t) : Alike R (attempt x) (attempt y) s t := by
  obtain ⟨answer, s', t', hx, hy, hR⟩ := h
  rcases answer with (msg | _) | a
  · exact ⟨.ok (.error msg), s', t', by simp only [attempt, hx], by simp only [attempt, hy], hR⟩
  · exact ⟨.error .crashed, s', t', by simp only [attempt, hx], by simp only [attempt, hy], hR⟩
  · exact ⟨.ok (.ok a), s', t', by simp only [attempt, hx], by simp only [attempt, hy], hR⟩

theorem alike_disk {effect effect' : Reach → S → S} (h : R (effect .wholly s) (effect' .wholly t)) :
    Alike R (disk effect) (disk effect') s t := ⟨.ok (), _, _, rfl, rfl, h⟩

end

end Prog

end OpenFox.Base
