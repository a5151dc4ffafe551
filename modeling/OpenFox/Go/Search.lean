/-
`sort.Search` and the sorted slices it keeps: inserting at the position it finds and cutting out what it
finds keep a strictly sorted slice strictly sorted. `sort.Slice` on slices without ties, whose result no
sorting algorithm can choose.
-/
import Mathlib.Data.List.Sort
import Mathlib.Data.List.InsertIdx
import Mathlib.Tactic.Common

namespace OpenFox.Go

/-- The loop of `sort.Search` on `[i, j)`; `fuel` bounds its rounds. -/
def searchLoop (f : ℕ → Bool) : ℕ → ℕ → ℕ → ℕ
  | 0, i, _ => i
  | fuel + 1, i, j =>
    if i < j then
      if f ((i + j) / 2) then searchLoop f fuel i ((i + j) / 2) else searchLoop f fuel ((i + j) / 2 + 1) j
    else i

/-- `sort.Search(n, f)`. The interval shrinks in every round, so `n` rounds are enough. -/
def sortSearch (n : ℕ) (f : ℕ → Bool) : ℕ := searchLoop f n 0 n

/-- What the loop finds if `f` is false below `i` and true from `j` on, and never true before it is false. -/
theorem searchLoop_spec {f : ℕ → Bool} {n : ℕ} (hmono : ∀ {a b}, a ≤ b → b < n → f a = true → f b = true) :
    ∀ {fuel i j : ℕ}, j ≤ i + fuel → i ≤ j → j ≤ n → (∀ k < i, f k = false) → (∀ k, j ≤ k → k < n → f k = true) →
      searchLoop f fuel i j ≤ n ∧ (∀ k < searchLoop f fuel i j, f k = false) ∧
        ∀ k, searchLoop f fuel i j ≤ k → k < n → f k = true
  | 0, i, j, hfuel, hij, hjn, hlow, hhigh => by
    have heq : j = i := by omega
    subst heq
    exact ⟨hjn, hlow, hhigh⟩
  | fuel + 1, i, j, hfuel, hij, hjn, hlow, hhigh => by
    unfold searchLoop
    by_cases hlt : i < j
    · rw [if_pos hlt]
      by_cases hmid : f ((i + j) / 2) = true
      · rw [if_pos hmid]
        refine searchLoop_spec hmono (by omega) (by omega) (by omega) hlow fun k hk hkn => ?_
        exact hmono hk hkn hmid
      · rw [if_neg hmid]
        refine searchLoop_spec hmono (by omega) (by omega) hjn (fun k hk => ?_) hhigh
        by_contra hk'
        exact hmid (hmono (Nat.lt_succ_iff.1 hk) (by omega) (by simpa using hk'))
    · rw [if_neg hlt]
      have heq : j = i := by omega
      subst heq
      exact ⟨hjn, hlow, hhigh⟩

/-- The search finds where a slice splits into what fails a test and what passes it. -/
theorem sortSearch_append {α : Type} {p : α → Bool} {l l' : List α} (hl : ∀ x ∈ l, p x = false)
    (hl' : ∀ x ∈ l', p x = true) :
    sortSearch (l ++ l').length (fun i => ((l ++ l')[i]?).any p) = l.length := by
  have hbelow : ∀ k < l.length, ((l ++ l')[k]?).any p = false := by
    intro k hk
    rw [List.getElem?_append_left hk, List.getElem?_eq_getElem hk, Option.any_some]
    exact hl _ (List.getElem_mem hk)
  have habove : ∀ k, l.length ≤ k → k < (l ++ l').length → ((l ++ l')[k]?).any p = true := by
    intro k hk hkn
    rw [List.length_append] at hkn
    rw [List.getElem?_append_right hk, List.getElem?_eq_getElem (by omega), Option.any_some]
    exact hl' _ (List.getElem_mem _)
  have hmono : ∀ {a b}, a ≤ b → b < (l ++ l').length → ((l ++ l')[a]?).any p = true → ((l ++ l')[b]?).any p = true := by
    intro a b hab hb ha
    refine habove b (Nat.le_of_not_lt fun hlt => ?_) hb
    rw [hbelow a (by omega)] at ha
    cases ha
  have hspec := searchLoop_spec hmono (Nat.le_add_left (l ++ l').length 0) (Nat.zero_le _) le_rfl
    (fun k hk => absurd hk (by omega)) (fun k hk hkn => absurd hkn (by omega))
  unfold sortSearch
  generalize searchLoop _ (l ++ l').length 0 (l ++ l').length = found at hspec ⊢
  obtain ⟨hle, hlow, hhigh⟩ := hspec
  rcases Nat.lt_trichotomy found l.length with hlt | heq | hlt
  · have htrue := hhigh found le_rfl (by rw [List.length_append]; omega)
    rw [hbelow found hlt] at htrue
    cases htrue
  · exact heq
  · have hfalse := hlow l.length hlt
    rw [habove l.length le_rfl (by omega)] at hfalse
    cases hfalse

variable {α : Type} [LinearOrder α] {l : List α}

/-- `sort.SearchStrings(l, x)`. -/
def searchSorted (l : List α) (x : α) : ℕ := sortSearch l.length fun i => (l[i]?).any (x ≤ ·)

/-- The position splits a sorted slice into what is below `x` and the rest. -/
theorem searchSorted_spec (hl : l.Pairwise (· < ·)) (x : α) :
    searchSorted l x ≤ l.length ∧ (∀ y ∈ l.take (searchSorted l x), y < x) ∧
      ∀ y ∈ l.drop (searchSorted l x), x ≤ y := by
  have hmono : ∀ {a b}, a ≤ b → b < l.length → (l[a]?).any (x ≤ ·) = true → (l[b]?).any (x ≤ ·) = true := by
    intro a b hab hb ha
    have ha' : a < l.length := by omega
    rw [List.getElem?_eq_getElem ha', Option.any_some, decide_eq_true_eq] at ha
    rw [List.getElem?_eq_getElem hb, Option.any_some, decide_eq_true_eq]
    rcases Nat.eq_or_lt_of_le hab with rfl | hlt
    · exact ha
    · exact ha.trans (List.pairwise_iff_getElem.1 hl a b ha' hb hlt).le
  obtain ⟨hle, hlow, hhigh⟩ := searchLoop_spec hmono (Nat.le_add_left l.length 0) (Nat.zero_le _) le_rfl
    (fun k hk => absurd hk (by omega)) (fun k hk hkn => absurd hkn (by omega))
  refine ⟨hle, ?_, ?_⟩
  · intro y hy
    obtain ⟨k, hk, rfl⟩ := List.mem_take_iff_getElem.1 hy
    have hbelow := hlow k (by have := hk; unfold searchSorted sortSearch at this; omega)
    rw [List.getElem?_eq_getElem (by omega), Option.any_some, decide_eq_false_iff_not] at hbelow
    exact not_le.1 hbelow
  · intro y hy
    obtain ⟨k, hk, rfl⟩ := List.mem_drop_iff_getElem.1 hy
    have habove := hhigh (searchSorted l x + k) (by unfold searchSorted sortSearch; omega) (by omega)
    rw [List.getElem?_eq_getElem (by omega), Option.any_some, decide_eq_true_eq] at habove
    exact habove

/-- Insert at the position found, unless the value is there already. -/
def insertSorted (l : List α) (x : α) : List α :=
  if l[searchSorted l x]? = some x then l else l.insertIdx (searchSorted l x) x

/-- Cut out the value at the position found, if it is the one looked for. -/
def removeSorted (l : List α) (x : α) : List α :=
  if l[searchSorted l x]? = some x then l.eraseIdx (searchSorted l x) else l

/-- The value is in the slice exactly if it is at the position found. -/
theorem getElem?_searchSorted (hl : l.Pairwise (· < ·)) {x : α} : l[searchSorted l x]? = some x ↔ x ∈ l := by
  constructor
  · exact fun h => List.mem_of_getElem? h
  · intro hx
    obtain ⟨-, hlow, hhigh⟩ := searchSorted_spec hl x
    rw [← List.take_append_drop (searchSorted l x) l] at hx
    have hdrop := (List.mem_append.1 hx).resolve_left fun h => lt_irrefl x (hlow x h)
    -- the first of the rest is not above `x`, and nothing of the rest is below
    cases hrest : l.drop (searchSorted l x) with
    | nil => rw [hrest] at hdrop; cases hdrop
    | cons y rest =>
      have hsorted := hrest ▸ hl.drop
      have hy : x ≤ y := hhigh y (by rw [hrest]; exact List.mem_cons_self ..)
      rw [hrest] at hdrop
      have heq : y = x := by
        rcases List.mem_cons.1 hdrop with rfl | hmem
        · rfl
        · exact le_antisymm (List.rel_of_pairwise_cons hsorted hmem).le hy
      have hget : (l.drop (searchSorted l x))[0]? = some x := by rw [hrest, heq]; rfl
      rwa [List.getElem?_drop, Nat.add_zero] at hget

theorem insertIdx_eq_take_drop {β : Type} (x : β) :
    ∀ {l : List β} {i : ℕ}, i ≤ l.length → l.insertIdx i x = l.take i ++ x :: l.drop i
  | l, 0, _ => by simp
  | [], _ + 1, h => absurd h (by simp)
  | y :: l, i + 1, h => by
    simp [List.insertIdx_succ_cons, insertIdx_eq_take_drop x (Nat.le_of_succ_le_succ h)]

theorem insertSorted_eq (hl : l.Pairwise (· < ·)) {x : α} (hx : x ∉ l) :
    insertSorted l x = l.take (searchSorted l x) ++ x :: l.drop (searchSorted l x) := by
  rw [insertSorted, if_neg fun h => hx ((getElem?_searchSorted hl).1 h),
    insertIdx_eq_take_drop x (searchSorted_spec hl x).1]

/-- Cutting out one position of a list without repetitions removes the value there. -/
theorem mem_eraseIdx_of_nodup {β : Type} {l : List β} {i : ℕ} {x y : β} (hnodup : l.Nodup) (hget : l[i]? = some x) :
    y ∈ l.eraseIdx i ↔ y ≠ x ∧ y ∈ l := by
  obtain ⟨hlt, hx⟩ := List.getElem?_eq_some_iff.1 hget
  have hsplit : l = l.take i ++ x :: l.drop (i + 1) := by
    conv_lhs => rw [← List.take_append_drop i l, List.drop_eq_getElem_cons hlt, hx]
  rw [hsplit, List.nodup_middle, List.nodup_cons] at hnodup
  rw [List.eraseIdx_eq_take_drop_succ]
  conv_rhs => rw [hsplit]
  simp only [List.mem_append, List.mem_cons]
  constructor
  · intro hy
    refine ⟨?_, by tauto⟩
    rintro rfl
    exact hnodup.1 (List.mem_append.2 hy)
  · tauto

section
variable (hl : l.Pairwise (· < ·))
include hl

theorem mem_insertSorted {x y : α} : y ∈ insertSorted l x ↔ y = x ∨ y ∈ l := by
  by_cases hx : x ∈ l
  · rw [insertSorted, if_pos ((getElem?_searchSorted hl).2 hx)]
    constructor
    · exact .inr
    · rintro (rfl | h)
      · exact hx
      · exact h
  · rw [insertSorted_eq hl hx]
    conv_rhs => rw [← List.take_append_drop (searchSorted l x) l]
    simp only [List.mem_append, List.mem_cons]
    tauto

theorem insertSorted_sorted (x : α) : (insertSorted l x).Pairwise (· < ·) := by
  by_cases hx : x ∈ l
  · rw [insertSorted, if_pos ((getElem?_searchSorted hl).2 hx)]
    exact hl
  · rw [insertSorted_eq hl hx]
    obtain ⟨-, hlow, hhigh⟩ := searchSorted_spec hl x
    have hsplit := hl
    rw [← List.take_append_drop (searchSorted l x) l, List.pairwise_append] at hsplit
    obtain ⟨htake, hdrop, hacross⟩ := hsplit
    have habove : ∀ y ∈ l.drop (searchSorted l x), x < y := fun y hy =>
      lt_of_le_of_ne (hhigh y hy) fun h => hx (h ▸ List.mem_of_mem_drop hy)
    rw [List.pairwise_append]
    refine ⟨htake, List.pairwise_cons.2 ⟨habove, hdrop⟩, fun a ha b hb => ?_⟩
    rcases List.mem_cons.1 hb with rfl | hb
    · exact hlow a ha
    · exact hacross a ha b hb

theorem removeSorted_sorted (x : α) : (removeSorted l x).Pairwise (· < ·) := by
  unfold removeSorted
  split
  · exact hl.sublist (List.eraseIdx_sublist ..)
  · exact hl

theorem mem_removeSorted {x y : α} : y ∈ removeSorted l x ↔ y ≠ x ∧ y ∈ l := by
  by_cases hx : x ∈ l
  · have hget := (getElem?_searchSorted hl).2 hx
    rw [removeSorted, if_pos hget]
    exact mem_eraseIdx_of_nodup (hl.imp fun h => h.ne) hget
  · rw [removeSorted, if_neg fun h => hx ((getElem?_searchSorted hl).1 h)]
    constructor
    · exact fun hy => ⟨fun h => hx (h ▸ hy), hy⟩
    · exact fun h => h.2

end

/-! ## `sort.Slice` -/

section
variable {β : Type} {less : β → β → Prop}

/-- `sort.Slice(l, less)`. -/
def sortSlice (less : β → β → Prop) [DecidableRel less] (l : List β) : List β := l.insertionSort fun a b => ¬ less b a

/-- The comparisons Go asks for. -/
structure StrictWeak (less : β → β → Prop) : Prop where
  asymm : ∀ {a b}, less a b → ¬ less b a
  negTrans : ∀ {a c} b, less a c → less a b ∨ less b c

theorem mem_sortSlice [DecidableRel less] {l : List β} {a : β} : a ∈ sortSlice less l ↔ a ∈ l :=
  List.mem_insertionSort _

theorem sortSlice_length [DecidableRel less] (l : List β) : (sortSlice less l).length = l.length :=
  (List.perm_insertionSort _ l).length_eq

theorem sortSlice_sorted [DecidableRel less] (hless : StrictWeak less) {l : List β}
    (hties : l.Pairwise fun a b => less a b ∨ less b a) : (sortSlice less l).Pairwise less := by
  have htotal : Std.Total fun a b => ¬ less b a := ⟨fun a b => by
    by_contra h
    rw [not_or, not_not, not_not] at h
    exact hless.asymm h.1 h.2⟩
  have htrans : IsTrans β fun a b => ¬ less b a := ⟨fun a b c hab hbc hca =>
    (hless.negTrans b hca).elim hbc hab⟩
  have hsorted := List.pairwise_insertionSort (fun a b => ¬ less b a) l
  have hties' : (sortSlice less l).Pairwise fun a b => less a b ∨ less b a :=
    ((List.perm_insertionSort _ l).pairwise_iff Or.symm).2 hties
  exact (hties'.and hsorted).imp fun h => h.1.resolve_right h.2

theorem eq_of_sorted (hasymm : ∀ {a b}, less a b → ¬ less b a) {l l' : List β} (hl : l.Pairwise less)
    (hl' : l'.Pairwise less) (hmem : ∀ a, a ∈ l ↔ a ∈ l') : l = l' := by
  have hne : ∀ {a b}, less a b → a ≠ b := fun hab heq => hasymm hab (heq ▸ heq ▸ hab)
  have hperm := (List.perm_ext_iff_of_nodup (hl.imp hne) (hl'.imp hne)).2 hmem
  exact hperm.eq_of_pairwise (fun a b _ _ hab hba => absurd hba (hasymm hab)) hl hl'

end

end OpenFox.Go
