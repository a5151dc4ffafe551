/-
Runs of a transition system whose steps are labelled by events: what every step keeps holds along
every run, and what every admissible step keeps holds along every run of admissible steps.
-/
import Mathlib.Tactic.Common

namespace OpenFox.Base

variable {S : Type*} {E : Type*}

/-- The state after a list of events. -/
def exec (step : S → E → S) (s : S) (es : List E) : S := es.foldl step s

@[simp] theorem exec_nil (step : S → E → S) (s : S) : exec step s [] = s := rfl

@[simp] theorem exec_cons (step : S → E → S) (s : S) (e : E) (es : List E) :
    exec step s (e :: es) = exec step (step s e) es := rfl

theorem exec_append (step : S → E → S) (s : S) (es es' : List E) :
    exec step s (es ++ es') = exec step (exec step s es) es' := List.foldl_append ..

theorem exec_snoc (step : S → E → S) (s : S) (es : List E) (e : E) :
    exec step s (es ++ [e]) = step (exec step s es) e := by
  rw [exec_append, exec_cons, exec_nil]

/-- Every step of the run from `s` satisfies `G` in the state it starts from. -/
def Along (step : S → E → S) (G : S → E → Prop) : S → List E → Prop
  | _, [] => True
  | s, e :: es => G s e ∧ Along step G (step s e) es

variable {step : S → E → S} {G : S → E → Prop} {I : S → Prop}

theorem along_append :
    ∀ {es es' : List E} {s : S},
      Along step G s (es ++ es') ↔ Along step G s es ∧ Along step G (exec step s es) es'
  | [], es', s => by simp [Along]
  | e :: es, es', s => by simp [Along, along_append, and_assoc]

variable {G' : S → E → Prop} {R : S → S → Prop}

theorem Along.mono (h : ∀ s e, G s e → G' s e) :
    ∀ {es : List E} {s : S}, Along step G s es → Along step G' s es
  | [], _, _ => trivial
  | _ :: _, _, ha => ⟨h _ _ ha.1, Along.mono h ha.2⟩

theorem Along.and :
    ∀ {es : List E} {s : S}, Along step G s es → Along step G' s es → Along step (fun s e => G s e ∧ G' s e) s es
  | [], _, _, _ => trivial
  | _ :: _, _, ha, ha' => ⟨⟨ha.1, ha'.1⟩, Along.and ha.2 ha'.2⟩

theorem along_true (step : S → E → S) : ∀ (es : List E) (s : S), Along step (fun _ _ => True) s es
  | [], _ => trivial
  | _ :: es, _ => ⟨trivial, along_true step es _⟩

/-- A condition on the events alone. -/
theorem along_of_forall {G : E → Prop} :
    ∀ {es : List E} {s : S}, (∀ e ∈ es, G e) → Along step (fun _ e => G e) s es
  | [], _, _ => trivial
  | e :: _, _, hall => ⟨hall e (by simp), along_of_forall fun e' he' => hall e' (by simp [he'])⟩

instance Along.decidable (step : S → E → S) (G : S → E → Prop) [∀ s e, Decidable (G s e)] :
    ∀ (s : S) (es : List E), Decidable (Along step G s es)
  | _, [] => isTrue trivial
  | s, e :: es => @instDecidableAnd _ _ _ (Along.decidable step G (step s e) es)

/-- The invariant rule for runs whose steps all satisfy `G`. -/
theorem invariant_along (keep : ∀ s e, I s → G s e → I (step s e)) :
    ∀ {es : List E} {s : S}, I s → Along step G s es → I (exec step s es)
  | [], _, hs, _ => hs
  | e :: es, s, hs, ha =>
    show I (exec step (step s e) es) from invariant_along keep (keep s e hs ha.1) ha.2

/-- The invariant rule for all runs. -/
theorem invariant (keep : ∀ s e, I s → I (step s e)) (es : List E) {s : S} (hs : I s) : I (exec step s es) :=
  invariant_along (fun s e hI _ => keep s e hI) hs (along_true step es s)

/-- A relation every admissible step establishes under an invariant relates the ends of every admissible run. -/
theorem related_along (refl : ∀ s, R s s) (trans : ∀ a b c, R a b → R b c → R a c)
    (keep : ∀ s e, I s → G s e → I (step s e)) (rel : ∀ s e, I s → G s e → R s (step s e)) :
    ∀ {es : List E} {s : S}, I s → Along step G s es → R s (exec step s es)
  | [], s, _, _ => refl s
  | e :: _, s, hs, ha =>
    trans _ _ _ (rel s e hs ha.1) (related_along refl trans keep rel (keep s e hs ha.1) ha.2)

/-- A relation every step establishes under an invariant relates the ends of every run. -/
theorem related (refl : ∀ s, R s s) (trans : ∀ a b c, R a b → R b c → R a c) (keep : ∀ s e, I s → I (step s e))
    (rel : ∀ s e, I s → R s (step s e)) : ∀ (es : List E) {s : S}, I s → R s (exec step s es)
  | [], s, _ => refl s
  | e :: es, s, hs => trans _ _ _ (rel s e hs) (related refl trans keep rel es (keep s e hs))

end OpenFox.Base
