/-
The lines of a text over any alphabet, as a line scanner reads them: what stands before each separator, and what is
left after the last one unless it is empty. Text that is appended behind a separator adds lines of its own.
-/
import Mathlib.Tactic.Common

namespace OpenFox.Base

variable {β : Type*} [DecidableEq β] {nl : β}

def lines (nl : β) : List β → List (List β)
  | [] => []
  | b :: text =>
    if b = nl then [] :: lines nl text
    else
      match lines nl text with
      | [] => [[b]]
      | line :: rest => (b :: line) :: rest

/-- Nothing stands after the last separator. -/
def Terminated (nl : β) (text : List β) : Prop := text = [] ∨ text.getLast? = some nl

instance (nl : β) (text : List β) : Decidable (Terminated nl text) := inferInstanceAs (Decidable (_ ∨ _))

omit [DecidableEq β] in
theorem terminated_snoc (text : List β) : Terminated nl (text ++ [nl]) := .inr List.getLast?_concat

@[simp] theorem lines_nil : lines nl [] = [] := rfl

theorem lines_line (rest : List β) :
    ∀ {line : List β}, nl ∉ line → lines nl (line ++ nl :: rest) = line :: lines nl rest
  | [], _ => by rw [List.nil_append, lines, if_pos rfl]
  | b :: line, h => by
    obtain ⟨hb, hline⟩ : nl ≠ b ∧ nl ∉ line := by simpa using h
    rw [List.cons_append, lines, if_neg (Ne.symm hb), lines_line rest hline]

theorem lines_rest : ∀ {text : List β}, nl ∉ text → lines nl text = if text = [] then [] else [text]
  | [], _ => rfl
  | b :: text, h => by
    obtain ⟨hb, htext⟩ : nl ≠ b ∧ nl ∉ text := by simpa using h
    rw [lines, if_neg (Ne.symm hb), lines_rest htext]
    cases text <;> rfl

theorem lines_cons (nl b : β) (text : List β) : ∃ line rest, lines nl (b :: text) = line :: rest := by
  rw [lines]
  split
  · exact ⟨_, _, rfl⟩
  · split <;> exact ⟨_, _, rfl⟩

theorem lines_append (rest : List β) :
    ∀ {text : List β}, Terminated nl text → lines nl (text ++ rest) = lines nl text ++ lines nl rest
  | [], _ => rfl
  | [b], h => by
    have hb : b = nl := by simpa [Terminated] using h
    rw [hb, List.singleton_append, lines, lines, if_pos rfl, if_pos rfl]
    rfl
  | b :: b' :: text, h => by
    have hrest : Terminated nl (b' :: text) := by simpa [Terminated] using h
    obtain ⟨line, ls, hline⟩ := lines_cons nl b' text
    rw [List.cons_append, lines, lines, lines_append rest hrest, hline]
    split <;> rfl

omit [DecidableEq β] in
theorem terminated_flatMap (ls : List (List β)) : Terminated nl (ls.flatMap (· ++ [nl])) := by
  rcases List.eq_nil_or_concat ls with rfl | ⟨ls, l, rfl⟩
  · exact .inl rfl
  · rw [List.concat_eq_append, List.flatMap_append, List.flatMap_singleton, ← List.append_assoc]
    exact terminated_snoc _

end OpenFox.Base
