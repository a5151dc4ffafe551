/-
Overflow checks on `uint64`: the guard `x > ^uint64(0) - y`, sums that stop when they would overflow, and
the lemmas that take checked arithmetic to natural numbers. The order of `uint64`, for sorted slices of it.
-/
import Mathlib.Algebra.BigOperators.Group.List.Basic
import Mathlib.Algebra.GroupWithZero.Nat
import Mathlib.Order.Defs.LinearOrder
import Mathlib.Tactic.Common

namespace OpenFox.Go

instance instLinearOrderUint64 : LinearOrder UInt64 where
  le_refl := UInt64.le_refl
  le_trans _ _ _ := UInt64.le_trans
  lt_iff_le_not_ge a b := by simp only [UInt64.lt_iff_toNat_lt, UInt64.le_iff_toNat_le]; omega
  le_antisymm _ _ := UInt64.le_antisymm
  le_total := UInt64.le_total
  toDecidableLE := inferInstance
  toDecidableLT := inferInstance
  toDecidableEq := inferInstance
  min_def _ _ := rfl
  max_def _ _ := rfl

/-- `total > ^uint64(0) - amount` in front of `total + amount`. -/
def addUint64 (total amount : UInt64) : Option UInt64 :=
  if total > (0 - 1) - amount then none else some (total + amount)

/-- The same with the error of the branch that overflows. -/
def addChecked (total amount : UInt64) (msg : String) : Except String UInt64 :=
  if total > (0 - 1) - amount then .error msg else .ok (total + amount)

theorem not_gt_max_sub {total amount : UInt64} : ¬ total > (0 - 1) - amount ↔ total.toNat + amount.toNat < 2 ^ 64 := by
  have hmax : ((0 : UInt64) - 1).toNat = 2 ^ 64 - 1 := rfl
  have ha := amount.toNat_lt
  rw [gt_iff_lt, UInt64.lt_iff_toNat_lt, UInt64.toNat_sub_of_le _ _ (UInt64.le_iff_toNat_le.2 (by omega)), hmax]
  omega

theorem toNat_add_of_lt {a b : UInt64} (hfit : a.toNat + b.toNat < 2 ^ 64) : (a + b).toNat = a.toNat + b.toNat := by
  rw [UInt64.toNat_add, Nat.mod_eq_of_lt hfit]

theorem toNat_succ {a : UInt64} (hne : a + 1 ≠ 0) : (a + 1).toNat = a.toNat + 1 := by
  have hlt := a.toNat_lt
  have hone : (1 : UInt64).toNat = 1 := rfl
  have hpos : (a + 1).toNat ≠ 0 := fun heq => hne (UInt64.toNat_inj.1 heq)
  rw [UInt64.toNat_add] at hpos ⊢
  omega

theorem succ_ne_zero {a : UInt64} (hne : a ≠ 0 - 1) : a + 1 ≠ 0 := fun heq =>
  hne ((UInt64.add_sub_cancel a 1).symm.trans (congrArg (· - 1) heq))

theorem lt_succ {a : UInt64} (hne : a ≠ 0 - 1) : a < a + 1 := by
  rw [UInt64.lt_iff_toNat_lt, toNat_succ (succ_ne_zero hne)]
  exact Nat.lt_succ_self _

theorem toNat_sub_of_le {a b : UInt64} (hle : b.toNat ≤ a.toNat) : (a - b).toNat = a.toNat - b.toNat :=
  UInt64.toNat_sub_of_le _ _ (UInt64.le_iff_toNat_le.2 hle)

theorem toNat_eq_zero {a : UInt64} : a.toNat = 0 ↔ a = 0 := UInt64.toNat_inj (b := 0)

theorem addUint64_eq_some {total amount sum : UInt64} :
    addUint64 total amount = some sum ↔ sum.toNat = total.toNat + amount.toNat := by
  have hs := sum.toNat_lt
  unfold addUint64
  split
  · rename_i hover
    have hfit := mt not_gt_max_sub.2 (not_not.2 hover)
    simp only [reduceCtorEq, false_iff]
    omega
  · rename_i hfit
    rw [Option.some.injEq, ← UInt64.toNat_inj, toNat_add_of_lt (not_gt_max_sub.1 hfit), eq_comm]

theorem addUint64_of_lt {total amount : UInt64} (hfit : total.toNat + amount.toNat < 2 ^ 64) :
    addUint64 total amount = some (total + amount) :=
  addUint64_eq_some.2 (toNat_add_of_lt hfit)

theorem addChecked_ok {total amount sum : UInt64} {msg : String} :
    addChecked total amount msg = .ok sum ↔ sum.toNat = total.toNat + amount.toNat := by
  rw [← addUint64_eq_some, addChecked, addUint64]
  split <;> simp

/-- A loop that adds up amounts yields their sum, or nothing if it does not fit. -/
theorem addLoop_eq_some {α : Type} {g : α → UInt64} :
    ∀ {l : List α} {total sum : UInt64},
      l.foldlM (fun t a => addUint64 t (g a)) total = some sum ↔
        sum.toNat = total.toNat + (l.map fun a => (g a).toNat).sum
  | [], total, sum => by
    simp [← UInt64.toNat_inj, eq_comm]
  | a :: l, total, sum => by
    have hs := sum.toNat_lt
    rw [List.foldlM_cons, Option.bind_eq_bind, Option.bind_eq_some_iff, List.map_cons, List.sum_cons]
    constructor
    · rintro ⟨t, ht, hl⟩
      rw [addUint64_eq_some] at ht
      rw [addLoop_eq_some] at hl
      omega
    · intro hsum
      have hfit : total.toNat + (g a).toNat < 2 ^ 64 := by omega
      refine ⟨total + g a, addUint64_of_lt hfit, addLoop_eq_some.2 ?_⟩
      rw [toNat_add_of_lt hfit]
      omega

theorem pairLoop_eq_some {α β γ : Type} {f : β → α → Option β} {g : γ → α → Option γ} :
    ∀ {l : List α} {b : β} {c : γ} {r : β × γ},
      l.foldlM (fun (s : β × γ) a => do pure (← f s.1 a, ← g s.2 a)) (b, c) = some r ↔
        l.foldlM f b = some r.1 ∧ l.foldlM g c = some r.2
  | [], b, c, r => by simp [Prod.ext_iff]
  | a :: l, b, c, r => by
    simp only [List.foldlM_cons, Option.bind_eq_bind, Option.bind_eq_some_iff, Option.pure_def]
    constructor
    · rintro ⟨s, ⟨b', hb, c', hc, hs⟩, hl⟩
      cases hs
      have hl' := pairLoop_eq_some.1 hl
      exact ⟨⟨b', hb, hl'.1⟩, c', hc, hl'.2⟩
    · rintro ⟨⟨b', hb, hl₁⟩, c', hc, hl₂⟩
      exact ⟨(b', c'), ⟨b', hb, c', hc, rfl⟩, pairLoop_eq_some.2 ⟨hl₁, hl₂⟩⟩

end OpenFox.Go
