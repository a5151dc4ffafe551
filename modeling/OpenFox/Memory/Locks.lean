/-
The locks of `JSONLStore`. A key is hashed to one of 64 locks; a call on one session takes the lock of its key, and
`PromoteAliasHistory` takes those of two keys, the lock of the smaller key first. Locks taken in one order cannot be
waited for in a circle, but the order of the keys is not the order of their locks.
-/
import OpenFox.Base.Run
import Mathlib.Data.List.Sort
import Mathlib.Logic.Relation

namespace OpenFox.Memory

open OpenFox.Base

def numLockShards : Nat := 64

/-- `fnv.New32a`. -/
def fnv32a (bytes : List UInt8) : UInt32 := bytes.foldl (fun h b => (h ^^^ b.toUInt32) * 16777619) 2166136261

/-- `sessionLock`: the number of a key's lock. -/
def sessionLock (key : String) : Nat := (fnv32a key.toUTF8.data.toList).toNat % numLockShards

/-- `lockSessionPair`: the locks of two keys in the order in which they are taken. -/
def lockSessionPair (keyA keyB : String) : List Nat :=
  if sessionLock keyA = sessionLock keyB then [sessionLock keyA]
  else if keyA ≤ keyB then [sessionLock keyA, sessionLock keyB]
  else [sessionLock keyB, sessionLock keyA]

/-! ## Callers -/

/-- What a caller locks: one session, or the two of one round of `PromoteAliasHistory`. -/
inductive LockRequest
  | single (key : String)
  | pair (keyA keyB : String)
deriving DecidableEq, Repr

def LockRequest.locks : LockRequest → List Nat
  | .single key => [sessionLock key]
  | .pair keyA keyB => lockSessionPair keyA keyB

/-- The locks a caller holds, and those it has still to take. -/
structure Caller where
  held : List Nat := []
  want : List Nat := []
deriving DecidableEq, Repr

structure LockState where
  owner : Nat → Option Nat := fun _ => none
  callers : Nat → Caller := fun _ => {}

inductive LockEvent
  | start (i : Nat) (request : LockRequest)
  | acquire (i : Nat)
  | release (i : Nat)
deriving DecidableEq, Repr

namespace LockState

def step (s : LockState) : LockEvent → LockState
  | .start i request =>
    if s.callers i = {} then { s with callers := Function.update s.callers i { want := request.locks } } else s
  | .acquire i =>
    match (s.callers i).want with
    | [] => s
    | lock :: rest =>
      if s.owner lock = none then
        { owner := Function.update s.owner lock (some i)
          callers := Function.update s.callers i { held := (s.callers i).held ++ [lock], want := rest } }
      else s
  | .release i =>
    match (s.callers i).want, (s.callers i).held.getLast? with
    | [], some lock =>
      { owner := Function.update s.owner lock none
        callers := Function.update s.callers i { held := (s.callers i).held.dropLast } }
    | _, _ => s

/-- A caller waits for a lock that another one holds. -/
def WaitsFor (s : LockState) (i j : Nat) : Prop :=
  ∃ lock rest, (s.callers i).want = lock :: rest ∧ s.owner lock = some j

/-- No caller waits, through others, for itself. -/
def NoCircle (s : LockState) : Prop := ∀ i, ¬ Relation.TransGen s.WaitsFor i i

/-- The keys of a pair are ordered as their locks. -/
def Ordered : LockEvent → Prop
  | .start _ (.pair keyA keyB) => sessionLock keyA ≠ sessionLock keyB →
    (keyA ≤ keyB ↔ sessionLock keyA < sessionLock keyB)
  | _ => True

/-- Every caller takes its locks in their order, and holds those it owns. -/
structure InOrder (s : LockState) : Prop where
  sorted : ∀ i, ((s.callers i).held ++ (s.callers i).want).Pairwise (· < ·)
  held : ∀ lock i, s.owner lock = some i → lock ∈ (s.callers i).held

theorem sorted_locks {i : Nat} : ∀ {request}, Ordered (.start i request) → request.locks.Pairwise (· < ·)
  | .single _, _ => List.pairwise_singleton _ _
  | .pair keyA keyB, h => by
    dsimp only [LockRequest.locks, lockSessionPair]
    split
    · exact List.pairwise_singleton _ _
    · rename_i hne
      split
      · rename_i hle
        exact List.pairwise_pair.2 ((h hne).1 hle)
      · rename_i hgt
        exact List.pairwise_pair.2 (Nat.lt_of_le_of_ne (Nat.not_lt.1 fun hlt => hgt ((h hne).2 hlt)) (Ne.symm hne))

theorem inOrder_step (s : LockState) (e : LockEvent) (h : s.InOrder) (he : Ordered e) : (s.step e).InOrder := by
  cases e with
  | start i request =>
    dsimp only [step]
    split
    · rename_i hidle
      refine ⟨fun j => ?_, fun lock j howner => ?_⟩
      · rcases eq_or_ne j i with rfl | hj
        · simpa using sorted_locks he
        · simpa [hj] using h.sorted j
      · have hmem := h.held lock j howner
        rcases eq_or_ne j i with rfl | hj
        · rw [hidle] at hmem
          cases hmem
        · simpa [hj] using hmem
    · exact h
  | acquire i =>
    dsimp only [step]
    split
    · exact h
    · rename_i lock rest hwant
      split
      · have hsorted := h.sorted i
        rw [hwant] at hsorted
        refine ⟨fun j => ?_, fun lock' j howner => ?_⟩
        · rcases eq_or_ne j i with rfl | hj
          · simpa using hsorted
          · simpa [hj] using h.sorted j
        · rcases eq_or_ne lock' lock with rfl | hlock
          · have hj : i = j := by simpa using howner
            simp [hj]
          · have hmem := h.held lock' j (by simpa [hlock] using howner)
            rcases eq_or_ne j i with rfl | hj
            · simpa using Or.inl hmem
            · simpa [hj] using hmem
      · exact h
  | release i =>
    dsimp only [step]
    split
    · rename_i lock hwant hlast
      obtain ⟨before, hheld⟩ := List.getLast?_eq_some_iff.1 hlast
      have hsorted := h.sorted i
      rw [hheld] at hsorted
      refine ⟨fun j => ?_, fun lock' j howner => ?_⟩
      · rcases eq_or_ne j i with rfl | hj
        · simpa [hheld] using (List.pairwise_append.1 (List.pairwise_append.1 hsorted).1).1
        · simpa [hj] using h.sorted j
      · rcases eq_or_ne lock' lock with rfl | hlock
        · simp at howner
        · have hmem := h.held lock' j (by simpa [hlock] using howner)
          rcases eq_or_ne j i with rfl | hj
          · simpa [hheld, hlock] using hmem
          · simpa [hj] using hmem
    · exact h

theorem InOrder.held_of_waits {s : LockState} (h : s.InOrder) {i j : Nat} (hwaits : Relation.TransGen s.WaitsFor i j)
    {lock : Nat}
    {rest : List Nat} (hwant : (s.callers i).want = lock :: rest) : ∃ lock' ∈ (s.callers j).held, lock ≤ lock' := by
  induction hwaits with
  | single hone =>
    obtain ⟨lock', _, hwant', howner⟩ := hone
    cases hwant.symm.trans hwant'
    exact ⟨lock, h.held _ _ howner, le_rfl⟩
  | @tail b _ _ hlast ih =>
    obtain ⟨lock₁, hmem, hle⟩ := ih
    obtain ⟨lock₂, rest₂, hwant₂, howner⟩ := hlast
    have hsorted := h.sorted b
    rw [hwant₂] at hsorted
    have hlt := (List.pairwise_append.1 hsorted).2.2 lock₁ hmem lock₂ (List.mem_cons_self ..)
    exact ⟨lock₂, h.held _ _ howner, hle.trans hlt.le⟩

theorem InOrder.noCircle {s : LockState} (h : s.InOrder) : s.NoCircle := by
  intro i hcircle
  obtain ⟨j, ⟨lock, rest, hwant, _⟩, _⟩ := Relation.TransGen.head'_iff.1 hcircle
  obtain ⟨lock', hmem, hle⟩ := h.held_of_waits hcircle hwant
  have hsorted := h.sorted i
  rw [hwant] at hsorted
  have hlt := (List.pairwise_append.1 hsorted).2.2 lock' hmem lock (List.mem_cons_self ..)
  exact absurd hlt (Nat.not_lt.2 hle)

/-- In every run whose pairs of keys are ordered as their locks no callers wait in a circle. -/
theorem promotion_without_circle (es : List LockEvent) (hes : ∀ e ∈ es, Ordered e) : (exec step {} es).NoCircle := by
  have hinOrder : (exec step {} es).InOrder :=
    invariant_along (I := InOrder) inOrder_step ⟨fun _ => List.Pairwise.nil, fun _ _ howner => nomatch howner⟩
      (along_of_forall hes)
  exact hinOrder.noCircle

theorem waiting_promotions_without_circle :
    let s := exec step {} [.start 0 (.pair "1" "p"), .start 1 (.pair "1" "p"), .acquire 0, .acquire 1]
    s.WaitsFor 1 0 ∧ s.NoCircle := by
  have hpair : ∀ i, Ordered (.start i (.pair "1" "p")) := fun _ (_ : sessionLock "1" ≠ sessionLock "p") => by
    decide +kernel
  refine ⟨⟨sessionLock "1", [sessionLock "p"], by decide +kernel, by decide +kernel⟩, promotion_without_circle _ ?_⟩
  simp only [List.forall_mem_cons]
  exact ⟨hpair 0, hpair 1, trivial, trivial, List.forall_mem_nil _⟩

/-- Two promotions take the same two locks in opposite orders. -/
theorem promotions_wait_in_circle :
    let s := exec step {} [.start 0 (.pair "1" "p"), .start 1 (.pair "0" "q"), .acquire 0, .acquire 1]
    ¬ s.NoCircle := by
  intro s hnone
  have h₀ : s.WaitsFor 0 1 := ⟨sessionLock "p", [], by decide +kernel, by decide +kernel⟩
  have h₁ : s.WaitsFor 1 0 := ⟨sessionLock "q", [], by decide +kernel, by decide +kernel⟩
  exact hnone 0 (.tail (.single h₀) h₁)

end LockState

end OpenFox.Memory
