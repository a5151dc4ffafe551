/-
Go's `(value, error)` results as `Except`: the guard `refuse`, and the inversion lemmas that peel
a successful computation into the guards it passed and the values it computed.
-/
import Mathlib.Tactic.Common

namespace OpenFox.Go

/-- `if bad { return errors.New(msg) }`. -/
def refuse (bad : Prop) [Decidable bad] (msg : String) : Except String Unit :=
  if bad then .error msg else .ok ()

variable {α : Type} {x : Except String α} {bad : Prop} {msg e : String}

theorem refuse_ok [Decidable bad] {u : Unit} : refuse bad msg = .ok u ↔ ¬ bad := by
  unfold refuse; split <;> simp_all

/-- Whether a computation stops with this error. -/
def failsWith {α : Type} (x : Except String α) (msg : String) : Bool :=
  match x with
  | .error e => e == msg
  | .ok _ => false

theorem failsWith_iff : failsWith x msg = true ↔ x = .error msg := by
  cases x <;> simp [failsWith]

variable {β : Type} {f : α → Except String β}

theorem bind_ok {b : β} : (x >>= f) = .ok b ↔ ∃ a, x = .ok a ∧ f a = .ok b := by
  cases x with
  | error e | ok a => simp [bind, Except.bind]

theorem bind_error : (x >>= f) = .error e ↔ x = .error e ∨ ∃ a, x = .ok a ∧ f a = .error e := by
  cases x with
  | error e' | ok a => simp [bind, Except.bind]

theorem refuse_error [Decidable bad] : refuse bad msg = .error e ↔ bad ∧ msg = e := by
  unfold refuse; split <;> simp_all

theorem refuse_of_not [Decidable bad] (hgood : ¬ bad) : refuse bad msg = .ok () := by
  rw [refuse, if_neg hgood]

theorem map_ok {f : α → β} {b : β} : x.map f = .ok b ↔ ∃ a, x = .ok a ∧ f a = b := by
  cases x with
  | error e | ok a => simp [Except.map]

theorem pure_ok {a b : α} : (pure a : Except String α) = .ok b ↔ a = b := by
  simp [pure, Except.pure]

theorem throw_ok {b : α} : (throw e : Except String α) = .ok b ↔ False := by
  simp [throw, throwThe, MonadExceptOf.throw]

theorem exists_unit {p : Unit → Prop} : (∃ u, p u) ↔ p () :=
  ⟨fun ⟨(), hp⟩ => hp, fun hp => ⟨(), hp⟩⟩

/-- The rules that peel a computation apart, as one set for `simp`. -/
theorem peel :
    (∀ {α β : Type} {x : Except String α} {f : α → Except String β} {b : β}, (x >>= f) = .ok b ↔ ∃ a, x = .ok a ∧
      f a = .ok b) ∧
    (∀ {p : Unit → Prop}, (∃ u, p u) ↔ p ()) ∧
    (∀ {bad : Prop} [Decidable bad] {msg : String} {u : Unit}, refuse bad msg = .ok u ↔ ¬ bad) ∧
    ∀ {α : Type} {a b : α}, (pure a : Except String α) = .ok b ↔ a = b :=
  ⟨bind_ok, exists_unit, refuse_ok, pure_ok⟩

/-- What the condition of a passed guard says, as one set for `simp`. -/
theorem passed : (∀ {p q : Prop}, ¬ (p ∨ q) ↔ ¬ p ∧ ¬ q) ∧ (∀ {p : Prop}, ¬ ¬ p ↔ p) ∧
    (∀ {α : Type} {a b : α}, (a ≠ b) = ¬ a = b) ∧ ∀ {b : Bool}, (¬ b = false) = (b = true) :=
  ⟨not_or, not_not, ne_eq _ _, Bool.not_eq_false _⟩

/-- The rules that run a computation, as one set for `simp`. -/
theorem runs : (∀ {α β : Type} {a : α} {f : α → Except String β}, (.ok a >>= f) = f a) ∧
    (∀ {α β : Type} {e : String} {f : α → Except String β}, (.error e >>= f) = .error e) ∧
    ∀ {α : Type} {a : α}, (pure a : Except String α) = .ok a :=
  ⟨rfl, rfl, rfl⟩

/-! ## Loops that stop at the first error -/

/-- A loop whose body keeps an invariant keeps it to its end; the invariant may speak of the
entries already visited. -/
theorem foldlM_inv {f : β → α → Except String β} (P : List α → β → Prop)
    (step : ∀ done b a b', P done b → f b a = .ok b' → P (done ++ [a]) b') :
    ∀ (l done : List α) (b b' : β), P done b → l.foldlM f b = .ok b' → P (done ++ l) b'
  | [], done, b, b', hb, h => by
    rw [List.foldlM_nil, pure_ok] at h
    subst h; simpa using hb
  | a :: l, done, b, b', hb, h => by
    rw [List.foldlM_cons, bind_ok] at h
    obtain ⟨c, hc, h⟩ := h
    have := foldlM_inv P step l (done ++ [a]) c b' (step done b a c hb hc) h
    simpa using this

theorem forM_ok {f : α → Except String Unit} {u : Unit} :
    ∀ {l : List α}, l.forM f = .ok u ↔ ∀ a ∈ l, f a = .ok ()
  | [] => by simp [pure, Except.pure]
  | a :: l => by
    show (f a >>= fun _ => l.forM f) = .ok u ↔ _
    rw [bind_ok, exists_unit, forM_ok, List.forall_mem_cons]

/-- A loop whose body succeeds on every entry, as long as the invariant holds, succeeds. -/
theorem foldlM_total {f : β → α → Except String β} (P : List α → β → Prop) (all : List α)
    (step : ∀ done a rest b, all = done ++ a :: rest → P done b → ∃ b', f b a = .ok b' ∧ P (done ++ [a]) b') :
    ∀ (l done : List α) (b : β), all = done ++ l → P done b → ∃ b', l.foldlM f b = .ok b' ∧ P all b'
  | [], done, b, hall, hb => ⟨b, rfl, by rw [hall]; simpa using hb⟩
  | a :: l, done, b, hall, hb => by
    obtain ⟨c, hc, hP⟩ := step done a l b hall hb
    obtain ⟨b', hb', hall'⟩ := foldlM_total P all step l (done ++ [a]) c (by simp [hall]) hP
    exact ⟨b', by rw [List.foldlM_cons, hc]; exact hb', hall'⟩

end OpenFox.Go
