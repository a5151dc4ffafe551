/-
The pieces of Go's standard library the model needs on plain values: decimal parsing
(`strconv.ParseUint`, `big.Int.SetString`), `sort.Strings`, and `time.Time` as nanoseconds since
the Unix epoch. `[]byte` and `string` are both `String`. Slices as an encoder sees them: the nil slice
and the empty slice have the same entries and encode differently.
-/
import Mathlib.Algebra.Group.Int.Defs
import Mathlib.Data.List.Sort
import Mathlib.Data.String.Basic
import Mathlib.Tactic.Common

namespace OpenFox.Go

abbrev Bytes := String

/-! ## Numbers -/

def digitsValue : List Char → Option Nat
  | [] => none
  | cs => cs.foldlM (fun n c => if c.isDigit then some (10 * n + (c.toNat - 48)) else none) 0

/-- `strconv.ParseUint(s, 10, 64)`; the source only asks whether it failed. -/
def parseUint (s : String) : Option UInt64 :=
  match digitsValue s.toList with
  | some n => if n < 2 ^ 64 then some (UInt64.ofNat n) else none
  | none => none

/-- `new(big.Int).SetString(s, 10)`: an optional sign, then decimal digits. -/
def parseBigInt (s : String) : Option Int :=
  match s.toList with
  | '-' :: cs => (digitsValue cs).map fun n => -(n : Int)
  | '+' :: cs => (digitsValue cs).map Int.ofNat
  | cs => (digitsValue cs).map Int.ofNat

/-- `big.Int.IsUint64`. -/
def isUint64 (n : Int) : Bool := 0 ≤ n && n < 2 ^ 64

/-! ## Hexadecimal digits -/

def isLowerHex (b : UInt8) : Bool := (48 ≤ b && b ≤ 57) || (97 ≤ b && b ≤ 102)

def isHex (b : UInt8) : Bool := isLowerHex b || (65 ≤ b && b ≤ 70)

/-! ## Sorted string slices -/

def sortStrings (l : List String) : List String := l.insertionSort (· ≤ ·)

/-- `sort.Strings` followed by a check that no two neighbours are equal. -/
def adjacentDistinct : List String → Bool
  | a :: b :: l => a != b && adjacentDistinct (b :: l)
  | _ => true

/-! ## Space -/

/-- `unicode.IsSpace`. -/
def isSpace (c : Char) : Bool :=
  c.toNat ∈ [9, 10, 11, 12, 13, 32, 0x85, 0xA0, 0x1680, 0x2028, 0x2029, 0x202F, 0x205F, 0x3000] ||
    (0x2000 ≤ c.toNat && c.toNat ≤ 0x200A)

/-- `strings.TrimSpace`. -/
def trimSpace (s : String) : String :=
  String.ofList ((s.toList.dropWhile isSpace).reverse.dropWhile isSpace).reverse

/-! ## Time -/

/-- Nanoseconds since the Unix epoch. -/
abbrev Time := Int

namespace Time

/-- `t.Unix()`, rounded down. -/
def unix (t : Time) : Int := t / 1000000000

/-- `uint64(t.Unix())`, which wraps for times before the epoch. -/
def unixU64 (t : Time) : UInt64 := UInt64.ofNat (t.unix % 2 ^ 64).toNat

/-- `time.Unix(int64(x), 0)`; the conversion reinterprets the top bit of `x`. -/
def ofUnix (x : UInt64) : Time := x.toInt64.toInt * 1000000000

/-- `t.IsZero()`: January 1, year 1. -/
def isZero (t : Time) : Bool := t == -62135596800 * 1000000000

end Time

theorem Time.unixU64_le {t : Time} (h0 : 0 ≤ t.unix) : (t.unixU64.toNat : Int) ≤ t.unix := by
  unfold Time.unixU64
  rw [UInt64.toNat_ofNat']
  omega

/-! ## Slices -/

/-- A slice; `none` is nil. -/
abbrev Slice (α : Type) := Option (List α)

namespace Slice

variable {α : Type}

def items (s : Slice α) : List α := s.getD []

/-- `append(s, x)`. -/
def push (s : Slice α) (x : α) : Slice α := some (s.items ++ [x])

/-- `make([]T, len(s))` and `copy`: never nil. -/
def copied (s : Slice α) : Slice α := some s.items

/-- `append([]T(nil), s...)`: nil if there is nothing to append. -/
def appendedToNil (s : Slice α) : Slice α := if s.items.isEmpty then none else some s.items

@[simp] theorem items_some (l : List α) : items (some l) = l := rfl
@[simp] theorem items_push (s : Slice α) (x : α) : (s.push x).items = s.items ++ [x] := rfl
@[simp] theorem items_copied (s : Slice α) : s.copied.items = s.items := rfl

@[simp] theorem items_appendedToNil (s : Slice α) : s.appendedToNil.items = s.items := by
  unfold appendedToNil
  split
  · rename_i h; exact (List.isEmpty_iff.1 h).symm
  · rfl

/-- The copies agree exactly on slices that have an entry. -/
theorem appendedToNil_eq_copied {s : Slice α} : s.appendedToNil = s.copied ↔ s.items ≠ [] := by
  unfold appendedToNil copied
  cases hs : s.items with
  | nil => simp
  | cons x l => simp

theorem copied_of_ne_nil {s : Slice α} (h : s.items ≠ []) : s.copied = s := by
  cases s with
  | none => exact absurd rfl h
  | some l => rfl

end Slice

end OpenFox.Go
