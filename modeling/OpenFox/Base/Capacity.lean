/-
A book of holds against a capacity: on every axis, what is spent for good plus the weights of the
holds stays within a limit. Taking a hold that fits and exchanging a hold for a lighter one, with
part of it spent, keep the book within its limits.
-/
import OpenFox.Go.Map

namespace OpenFox.Base

open OpenFox.Go

structure Book (A K H : Type) where
  spent : A → ℕ
  holds : Map K H

namespace Book

variable {A K H : Type} [DecidableEq K] (weight : A → H → ℕ) (limit : A → ℕ)

def used (b : Book A K H) (a : A) : ℕ := b.spent a + b.holds.sumBy (weight a)

def Within (b : Book A K H) : Prop := ∀ a, b.used weight a ≤ limit a

/-- The two ways a book changes: a new hold that fits, and a hold exchanged for one that weighs,
together with what is newly spent, no more. -/
inductive Moves (b : Book A K H) : Book A K H → Prop
  | hold {k v} (absent : b.holds.get? k = none) (fits : ∀ a, b.used weight a + weight a v ≤ limit a) :
    Moves b { b with holds := b.holds.put k v }
  | exchange {k w v spent} (found : b.holds.get? k = some w)
    (covered : ∀ a, spent a + weight a v ≤ b.spent a + weight a w) :
    Moves b { spent := spent, holds := b.holds.put k v }

variable {weight limit}

theorem Moves.within {b b' : Book A K H} (hm : b.Moves weight limit b') (hb : b.Within weight limit) :
    b'.Within weight limit := by
  intro a
  cases hm with
  | hold absent fits =>
    have hfit := fits a
    unfold used at hfit ⊢
    rw [Map.sumBy_put_of_none (weight a) absent]
    dsimp only
    omega
  | @exchange k w v spent found covered =>
    have hwithin := hb a
    have hcover := covered a
    have hswap := Map.sumBy_put_of_some (weight a) found v
    unfold used at hwithin ⊢
    dsimp only
    omega

end Book

end OpenFox.Base
