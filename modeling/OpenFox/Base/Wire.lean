/-
Codecs that say themselves where a value ends, so that codecs of parts make a codec of the whole. All bytes are
printable, and none is a letter or a brace.
-/
import Mathlib.Algebra.Group.Nat.Defs
import Mathlib.Tactic.Common

namespace OpenFox.Base

/-- A codec: an encoded value is read back from the front of any input. -/
structure Wire (α : Type) where
  enc : α → List UInt8
  dec : List UInt8 → Option (α × List UInt8)
  dec_enc : ∀ a rest, dec (enc a ++ rest) = some (a, rest)
  printable : ∀ a, ∀ b ∈ enc a, 32 ≤ b ∧ b ≤ 59

namespace Wire

variable {α β : Type}

/-! ## Numbers -/

/-- The decimal digits of a number, the last one first. -/
def digits : Nat → Nat → List UInt8
  | 0, _ => []
  | fuel + 1, n => if n = 0 then [] else UInt8.ofNat (48 + n % 10) :: digits fuel (n / 10)

def undigits : List UInt8 → Option (Nat × List UInt8)
  | [] => none
  | b :: rest =>
    if b = 59 then some (0, rest)
    else if 48 ≤ b ∧ b ≤ 57 then (undigits rest).map fun r => (10 * r.1 + (b.toNat - 48), r.2)
    else none

theorem digit_spec {d : Nat} (hd : d < 10) :
    UInt8.ofNat (48 + d) ≠ 59 ∧ 48 ≤ UInt8.ofNat (48 + d) ∧ UInt8.ofNat (48 + d) ≤ 57 ∧
      (UInt8.ofNat (48 + d)).toNat - 48 = d ∧
      32 ≤ UInt8.ofNat (48 + d) ∧ UInt8.ofNat (48 + d) ≤ 59 := by
  have hall : ∀ d : Fin 10, UInt8.ofNat (48 + d) ≠ 59 ∧ 48 ≤ UInt8.ofNat (48 + d) ∧ UInt8.ofNat (48 + d) ≤ 57 ∧
      (UInt8.ofNat (48 + d)).toNat - 48 = d ∧ 32 ≤ UInt8.ofNat (48 + d) ∧ UInt8.ofNat (48 + d) ≤ 59 := by decide
  exact hall ⟨d, hd⟩

theorem undigits_digits (rest : List UInt8) :
    ∀ {fuel n : Nat}, n < 10 ^ fuel → undigits (digits fuel n ++ 59 :: rest) = some (n, rest)
  | 0, n, h => by
    have hn : n = 0 := by simpa using h
    rw [hn]
    rfl
  | fuel + 1, n, h => by
    rw [digits]
    split
    · rename_i hn
      rw [hn]
      rfl
    · obtain ⟨hend, hlow, hhigh, hvalue, _⟩ := digit_spec (Nat.mod_lt n (by omega : 10 > 0))
      have hrest : undigits (digits fuel (n / 10) ++ 59 :: rest) = some (n / 10, rest) :=
        undigits_digits rest (by rw [Nat.pow_succ] at h; omega)
      rw [List.cons_append, undigits, if_neg hend, if_pos ⟨hlow, hhigh⟩, hrest, Option.map_some, hvalue]
      exact congrArg (fun k => some (k, rest)) (Nat.div_add_mod n 10)

theorem printable_digits : ∀ {fuel n : Nat}, ∀ b ∈ digits fuel n, 32 ≤ b ∧ b ≤ 59
  | 0, _, b, hb => absurd hb List.not_mem_nil
  | fuel + 1, n, b, hb => by
    rw [digits] at hb
    split at hb
    · cases hb
    · rcases List.mem_cons.1 hb with rfl | hb
      · exact (digit_spec (Nat.mod_lt n (by omega : 10 > 0))).2.2.2.2
      · exact printable_digits b hb

def nat : Wire Nat where
  enc n := digits n n ++ [59]
  dec := undigits
  dec_enc n rest := by
    rw [List.append_assoc, List.singleton_append]
    exact undigits_digits rest (Nat.lt_pow_self (by omega))
  printable _ := List.forall_mem_append.2 ⟨printable_digits, List.forall_mem_singleton.2 (by decide)⟩

/-! ## Parts and wholes -/

def pair (w : Wire α) (v : Wire β) : Wire (α × β) where
  enc p := w.enc p.1 ++ v.enc p.2
  dec input := do
    let (a, input) ← w.dec input
    let (b, input) ← v.dec input
    some ((a, b), input)
  dec_enc p rest := by
    rw [List.append_assoc, w.dec_enc]
    show (do let (b, input) ← v.dec (v.enc p.2 ++ rest); some ((p.1, b), input)) = _
    rw [v.dec_enc]
    rfl
  printable p b hb := (List.mem_append.1 hb).elim (w.printable p.1 b) (v.printable p.2 b)

def decMany (w : Wire α) : Nat → List UInt8 → Option (List α × List UInt8)
  | 0, input => some ([], input)
  | n + 1, input => do
    let (a, input) ← w.dec input
    let (l, input) ← decMany w n input
    some (a :: l, input)

theorem decMany_flatMap (w : Wire α) (rest : List UInt8) :
    ∀ l : List α, decMany w l.length (l.flatMap w.enc ++ rest) = some (l, rest)
  | [] => rfl
  | a :: l => by
    rw [List.flatMap_cons, List.append_assoc, List.length_cons, decMany, w.dec_enc]
    show (do let (l', input) ← decMany w l.length (l.flatMap w.enc ++ rest); some (a :: l', input)) = _
    rw [decMany_flatMap w rest l]
    rfl

def list (w : Wire α) : Wire (List α) where
  enc l := nat.enc l.length ++ l.flatMap w.enc
  dec input := do
    let (n, input) ← nat.dec input
    decMany w n input
  dec_enc l rest := by
    rw [List.append_assoc, nat.dec_enc]
    exact decMany_flatMap w rest l
  printable l := by
    refine List.forall_mem_append.2 ⟨nat.printable l.length, fun b hb => ?_⟩
    obtain ⟨a, _, hb⟩ := List.mem_flatMap.1 hb
    exact w.printable a b hb

/-- A codec through another type. -/
def via (w : Wire β) (f : α → β) (g : β → α) (hg : ∀ a, g (f a) = a) : Wire α where
  enc a := w.enc (f a)
  dec input := (w.dec input).map fun r => (g r.1, r.2)
  dec_enc a rest := by rw [w.dec_enc, Option.map_some, hg]
  printable a := w.printable (f a)

def char : Wire Char := nat.via Char.toNat Char.ofNat Char.ofNat_toNat

def string : Wire String := char.list.via String.toList String.ofList fun _ => String.ofList_toList

def bool : Wire Bool := nat.via Bool.toNat (· == 1) fun b => by cases b <;> rfl

def uint64 : Wire UInt64 := nat.via UInt64.toNat UInt64.ofNat fun _ => UInt64.ofNat_toNat

end Wire

end OpenFox.Base
