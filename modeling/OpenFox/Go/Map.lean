/-
Go maps as Mathlib association lists: reads, writes and deletes under Go's words, `range` loops
whose order the runtime chooses, loops that rewrite every value, and sums over the values.
-/
import Mathlib.Data.List.AList
import Mathlib.Algebra.BigOperators.Group.List.Basic
import Mathlib.Algebra.Order.BigOperators.Group.List
import Mathlib.Algebra.Order.Group.Nat
import Mathlib.Algebra.GroupWithZero.Nat
import Mathlib.Tactic.Common

namespace OpenFox.Go

abbrev Map (K V : Type) := AList (fun _ : K => V)

/-- The order in which one call visits map entries. Go leaves it open and two loops of one call
may differ, so every loop of a call has its own order. -/
structure RangeOrder where
  order : {α : Type} → Nat → List α → List α
  perm : ∀ {α : Type} (site : Nat) (l : List α), (order site l).Perm l

namespace Map

variable {K V : Type}

/-- The entries of `m` in the order of the `site`-th loop of the call. -/
def range (o : RangeOrder) (site : Nat) (m : Map K V) : List ((_ : K) × V) := o.order site m.entries

theorem range_perm (o : RangeOrder) (site : Nat) (m : Map K V) : (m.range o site).Perm m.entries :=
  o.perm site m.entries

/-- Some entry satisfies `f`: a loop that stops at the first hit, whatever its order. -/
def any (m : Map K V) (f : K → V → Bool) : Bool := m.entries.any fun e => f e.1 e.2

def all (m : Map K V) (f : K → V → Bool) : Bool := m.entries.all fun e => f e.1 e.2

/-- Rewrite every value: a loop that writes back each entry it visits. -/
def mapVal (f : K → V → V) (m : Map K V) : Map K V where
  entries := m.entries.map fun e => ⟨e.1, f e.1 e.2⟩
  nodupKeys := by
    have h := m.nodupKeys
    simpa [List.NodupKeys, List.keys, List.map_map, Function.comp_def] using h

def sumBy (g : V → Nat) (m : Map K V) : Nat := (m.entries.map fun e => g e.2).sum

theorem sumBy_range (o : RangeOrder) (site : Nat) (g : V → Nat) (m : Map K V) :
    ((m.range o site).map fun e => g e.2).sum = m.sumBy g :=
  ((range_perm o site m).map _).sum_eq

variable {m : Map K V} {k : K} {v w : V}

/-- The part of a sum a loop has added up after some rounds. -/
theorem sum_prefix_le (o : RangeOrder) (site : Nat) (g : V → Nat) {l : List ((_ : K) × V)}
    (hl : l <+: m.range o site) : (l.map fun e => g e.2).sum ≤ m.sumBy g := by
  obtain ⟨rest, hrest⟩ := hl
  rw [← sumBy_range o site g m, ← hrest, List.map_append, List.sum_append]
  exact Nat.le_add_right _ _

theorem mapVal_eq_self {f : K → V → V} (hf : ∀ e ∈ m.entries, f e.1 e.2 = e.2) : m.mapVal f = m := by
  apply AList.ext
  show m.entries.map (fun e => (⟨e.1, f e.1 e.2⟩ : (_ : K) × V)) = m.entries
  conv => rhs; rw [← List.map_id m.entries]
  exact List.map_congr_left fun e he => by rw [hf e he]; rfl

variable [DecidableEq K]

/-- `v, found := m[k]`. -/
def get? (m : Map K V) (k : K) : Option V := m.lookup k

/-- `m[k]` with the zero value `z` of an absent key. -/
def getD (m : Map K V) (k : K) (z : V) : V := (m.get? k).getD z

/-- `m[k] = v`. -/
def put (m : Map K V) (k : K) (v : V) : Map K V := m.insert k v

/-- `delete(m, k)`. -/
def delete (m : Map K V) (k : K) : Map K V := m.erase k

/-- `_, found := m[k]`. -/
def has (m : Map K V) (k : K) : Bool := (m.get? k).isSome

/-! ## Reads after writes -/

@[simp] theorem get?_empty (k : K) : get? (∅ : Map K V) k = none := AList.lookup_empty k

theorem of_empty {k : K} {v : V} {p : Prop} (h : get? (∅ : Map K V) k = some v) : p :=
  nomatch (get?_empty k).symm.trans h

@[simp] theorem get?_put_self {m : Map K V} {k : K} {v : V} : (m.put k v).get? k = some v :=
  AList.lookup_insert m

theorem get?_put_ne (m : Map K V) {k' : K} (v : V) (h : k' ≠ k) : (m.put k v).get? k' = m.get? k' :=
  AList.lookup_insert_ne h

theorem get?_put (m : Map K V) (k k' : K) (v : V) :
    (m.put k v).get? k' = if k' = k then some v else m.get? k' := by
  split
  · rename_i h; subst h; exact get?_put_self
  · rename_i h; exact get?_put_ne m v h

theorem get?_put_absent {k' : K} {v' : V} (hfree : m.get? k = none) (h : m.get? k' = some v') :
    (m.put k v).get? k' = some v' := by
  rw [get?_put_ne _ _ fun heq => by rw [heq, hfree] at h; cases h]
  exact h

theorem put_cases {k' : K} {v' : V} (h : (m.put k v).get? k' = some v') : k' = k ∧ v = v' ∨ m.get? k' = some v' := by
  rw [get?_put] at h
  split at h
  · exact .inl ⟨by assumption, Option.some.inj h⟩
  · exact .inr h

/-- What holds of every entry still does after a write, if it holds of what was written. -/
theorem forall_put {I : K → V → Prop} (hm : ∀ {k v}, m.get? k = some v → I k v) (hv : I k v) {k' : K} {v' : V}
    (h : (m.put k v).get? k' = some v') : I k' v' := by
  obtain ⟨rfl, rfl⟩ | h := put_cases h
  · exact hv
  · exact hm h

variable {R : V → V → Prop} {m' m'' : Map K V}

/-- Every entry is still there, as it was or further on. -/
def Grown (R : V → V → Prop) (m m' : Map K V) : Prop :=
  ∀ ⦃k v⦄, m.get? k = some v → ∃ v', m'.get? k = some v' ∧ R v v'

theorem Grown.refl (refl : ∀ v, R v v) (m : Map K V) : Grown R m m := fun _ v h => ⟨v, h, refl v⟩

theorem Grown.trans (h : Grown R m m') (h' : Grown R m' m'') (trans : ∀ {a b c}, R a b → R b c → R a c) :
    Grown R m m'' := by
  intro k v hk
  obtain ⟨v', hk', hv⟩ := h hk
  obtain ⟨v'', hk'', hv'⟩ := h' hk'
  exact ⟨v'', hk'', trans hv hv'⟩

theorem Grown.put (refl : ∀ v, R v v) (hv : ∀ {old}, m.get? k = some old → R old v) : Grown R m (m.put k v) := by
  intro k' old hold
  rw [get?_put]
  split
  · rename_i heq
    subst heq
    exact ⟨v, rfl, hv hold⟩
  · exact ⟨old, hold, refl old⟩

theorem get?_delete (m : Map K V) (k k' : K) : (m.delete k).get? k' = if k' = k then none else m.get? k' := by
  split
  · rename_i h; subst h; exact AList.lookup_erase k' m
  · rename_i h; exact AList.lookup_erase_ne h

theorem getD_put (m : Map K V) (k k' : K) (v z : V) :
    (m.put k v).getD k' z = if k' = k then v else m.getD k' z := by
  unfold getD
  rw [get?_put]
  split <;> rfl

theorem has_iff : m.has k = true ↔ ∃ v, m.get? k = some v := Option.isSome_iff_exists

theorem has_false_iff : m.has k = false ↔ m.get? k = none := by
  unfold has
  cases m.get? k <;> simp

theorem getD_of_get? {z : V} (hk : m.get? k = some v) : m.getD k z = v := by
  unfold getD
  rw [hk]; rfl

theorem has_put_of_has {k' : K} (hk : m.has k' = true) : (m.put k v).has k' = true := by
  rw [has_iff] at hk ⊢
  rw [get?_put]
  split
  · exact ⟨v, rfl⟩
  · exact hk

/-! ## Loops -/

/-- The first hit of a loop does not depend on its order if all hits agree. -/
theorem findSome?_perm {α β : Type} {f : α → Option β} {l l' : List α} (hp : l.Perm l')
    (h : ∀ x ∈ l, ∀ y ∈ l, ∀ a b, f x = some a → f y = some b → a = b) : l.findSome? f = l'.findSome? f := by
  induction hp with
  | nil => rfl
  | cons x _ ih =>
    rw [List.findSome?_cons, List.findSome?_cons, ih fun y hy z hz => h y (.tail _ hy) z (.tail _ hz)]
  | swap x y l =>
    rw [List.findSome?_cons, List.findSome?_cons, List.findSome?_cons, List.findSome?_cons]
    cases hx : f x with
    | none => rfl
    | some a =>
      cases hy : f y with
      | none => rfl
      | some b => rw [h x (by simp) y (by simp) a b hx hy]
  | trans hp _ ih ih' => exact (ih h).trans (ih' fun x hx y hy => h x (hp.mem_iff.2 hx) y (hp.mem_iff.2 hy))

theorem mem_entries : (⟨k, v⟩ : (_ : K) × V) ∈ m.entries ↔ m.get? k = some v :=
  AList.mem_lookup_iff.symm

theorem entries_put_absent (hk : m.get? k = none) : (m.put k v).entries = ⟨k, v⟩ :: m.entries :=
  AList.entries_insert_of_notMem (AList.lookup_eq_none.1 hk)

theorem get?_of_entries_nil (hempty : m.entries = []) (k : K) : m.get? k = none := by
  rw [Option.eq_none_iff_forall_ne_some]
  intro v hget
  rw [← mem_entries, hempty] at hget
  cases hget

theorem length_put_of_none (hk : m.get? k = none) : (m.put k v).entries.length = m.entries.length + 1 := by
  rw [entries_put_absent hk, List.length_cons]

theorem entries_put_of_some (hk : m.get? k = some w) (v : V) :
    ∃ rest, m.entries.Perm (⟨k, w⟩ :: rest) ∧ (m.put k v).entries = ⟨k, v⟩ :: rest := by
  have hm : (⟨k, w⟩ : (_ : K) × V) ∈ m.entries := mem_entries.2 hk
  obtain ⟨w', l₁, l₂, -, hl, herase⟩ := List.exists_of_kerase (List.mem_map_of_mem (f := Sigma.fst) hm)
  have hw : w' = w := by
    have hw' : (⟨k, w'⟩ : (_ : K) × V) ∈ m.entries := by rw [hl]; simp
    rw [mem_entries, hk] at hw'
    exact (Option.some.inj hw').symm
  subst hw
  exact ⟨l₁ ++ l₂, by rw [hl]; exact List.perm_middle, by rw [put, AList.entries_insert, herase]⟩

theorem length_put_of_some (hk : m.get? k = some w) : (m.put k v).entries.length = m.entries.length := by
  obtain ⟨rest, hperm, hput⟩ := entries_put_of_some hk v
  rw [hput, hperm.length_eq, List.length_cons, List.length_cons]

theorem mem_range {o : RangeOrder} {site : Nat} : (⟨k, v⟩ : (_ : K) × V) ∈ m.range o site ↔ m.get? k = some v := by
  rw [(range_perm o site m).mem_iff, mem_entries]

theorem any_iff {f : K → V → Bool} : m.any f = true ↔ ∃ k v, m.get? k = some v ∧ f k v = true := by
  unfold any
  rw [List.any_eq_true]
  constructor
  · rintro ⟨⟨k, v⟩, he, hf⟩; exact ⟨k, v, mem_entries.1 he, hf⟩
  · rintro ⟨k, v, he, hf⟩; exact ⟨⟨k, v⟩, mem_entries.2 he, hf⟩

theorem all_iff {f : K → V → Bool} : m.all f = true ↔ ∀ k v, m.get? k = some v → f k v = true := by
  unfold all
  rw [List.all_eq_true]
  constructor
  · intro h k v hk; exact h ⟨k, v⟩ (mem_entries.2 hk)
  · rintro h ⟨k, v⟩ he; exact h k v (mem_entries.1 he)

theorem get?_mapVal (f : K → V → V) (m : Map K V) (k : K) : (m.mapVal f).get? k = (m.get? k).map (f k) := by
  refine Option.ext fun v => ?_
  rw [← mem_entries, Option.map_eq_some_iff]
  simp only [mapVal, List.mem_map]
  constructor
  · rintro ⟨⟨k', w⟩, he, heq⟩
    cases heq
    exact ⟨w, mem_entries.1 he, rfl⟩
  · rintro ⟨w, hw, rfl⟩
    exact ⟨⟨k, w⟩, mem_entries.2 hw, rfl⟩

/-! ## Sums -/

theorem sumBy_put_of_none (g : V → Nat) (h : m.get? k = none) (v : V) : (m.put k v).sumBy g = g v + m.sumBy g := by
  unfold sumBy put
  rw [AList.entries_insert_of_notMem (AList.lookup_eq_none.1 h)]
  simp

theorem sumBy_put_of_some (g : V → Nat) (h : m.get? k = some w) (v : V) :
    (m.put k v).sumBy g + g w = g v + m.sumBy g := by
  obtain ⟨rest, hperm, hput⟩ := entries_put_of_some h v
  rw [sumBy, sumBy, hput, (hperm.map _).sum_eq]
  simp only [List.map_cons, List.sum_cons]
  omega

theorem sumBy_put_le (g : V → Nat) (h : m.get? k = some w) (hle : g v ≤ g w) : (m.put k v).sumBy g ≤ m.sumBy g := by
  have hsum := sumBy_put_of_some g h v
  omega

theorem sumBy_le_add {f g h : V → Nat} (hle : ∀ {k v}, m.get? k = some v → f v ≤ g v + h v) :
    m.sumBy f ≤ m.sumBy g + m.sumBy h := by
  unfold sumBy
  rw [← List.sum_map_add]
  exact List.sum_le_sum fun e he => hle (mem_entries.1 he)

theorem le_sumBy (g : V → Nat) (h : m.get? k = some w) : g w ≤ m.sumBy g :=
  List.le_sum_of_mem (List.mem_map.2 ⟨⟨k, w⟩, mem_entries.2 h, rfl⟩)

end Map

end OpenFox.Go
