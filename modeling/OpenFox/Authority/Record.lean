/-
What the updates of an engagement record leave alone, and how a state is projected from the
obligation runtimes.
-/
import OpenFox.Authority.Changes
import Mathlib.Data.List.Rotate

namespace OpenFox.Authority

open OpenFox.Go OpenFox.Commerce

/-! ## The kept part of a record -/

/-- `r'` has the agreement, evidence, marker, hold, tombstone and negotiation mark of `r`, and a
runtime for every obligation that had one. -/
structure Keeps (r r' : EngagementRecord) : Prop where
  agreement : r'.agreement = r.agreement
  digest : r'.agreementDigest = r.agreementDigest
  marker : r'.fullyAuthorizedEvidenceSetDigest = r.fullyAuthorizedEvidenceSetDigest
  ambiguous : r'.negotiationAmbiguous = r.negotiationAmbiguous
  reservation : r'.reservationID = r.reservationID
  tombstone : r'.expiredCustodyAuthorization = r.expiredCustodyAuthorization
  runtime : ∀ id, r.obligationRuntime.has id = true → r'.obligationRuntime.has id = true

variable (h : Host) (r : EngagementRecord) {r' : EngagementRecord}

theorem Keeps.refl : Keeps r r := ⟨rfl, rfl, rfl, rfl, rfl, rfl, fun _ hid => hid⟩

theorem Keeps.trans {a b c : EngagementRecord} (h₁ : Keeps a b) (h₂ : Keeps b c) : Keeps a c :=
  ⟨h₂.agreement.trans h₁.agreement, h₂.digest.trans h₁.digest, h₂.marker.trans h₁.marker,
    h₂.ambiguous.trans h₁.ambiguous, h₂.reservation.trans h₁.reservation, h₂.tombstone.trans h₁.tombstone,
    fun id hid => h₂.runtime id (h₁.runtime id hid)⟩

/-- A record keeps everything when only its runtime of one obligation, its state and its filed
evidence change. -/
theorem keeps_put (id : String) (runtime : ObligationRuntimeRecord) :
    Keeps r { r with obligationRuntime := r.obligationRuntime.put id runtime } :=
  ⟨rfl, rfl, rfl, rfl, rfl, rfl, fun _ => Map.has_put_of_has⟩

theorem keeps_touch (t : UInt64) : Keeps r (r.touch t) :=
  { Keeps.refl r with }

theorem keeps_refresh (order : RangeOrder) : Keeps r (refreshEngagementProjection order r) :=
  { Keeps.refl r with }

/-! ## Filling in runtimes -/

variable {runtime : ObligationRuntimeRecord} {obligation : SettlementObligation}

theorem initialize_fold_get? {id : String} :
    ∀ (l : List AgreementObligation) (m : Map String ObligationRuntimeRecord), m.get? id = some runtime →
    (l.foldl (fun m o => if m.has o.obligationID then m else
        m.put o.obligationID (initialRuntime r o.obligationID)) m).get? id = some runtime
  | [], _, hm => hm
  | o :: l, m, hm => by
    rw [List.foldl_cons]
    refine initialize_fold_get? l _ ?_
    split
    · exact hm
    · rename_i hnew
      have hne : id ≠ o.obligationID := by
        rintro rfl
        exact hnew (Map.has_iff.2 ⟨runtime, hm⟩)
      rw [Map.get?_put_ne _ _ hne]
      exact hm

variable {r} in
theorem initialized_get? {id : String} (hr : r.obligationRuntime.get? id = some runtime) :
    (initializeObligationRuntime r).obligationRuntime.get? id = some runtime :=
  initialize_fold_get? r _ _ hr

theorem keeps_initializeRuntime : Keeps r (initializeObligationRuntime r) := by
  refine ⟨rfl, rfl, rfl, rfl, rfl, rfl, fun id hid => ?_⟩
  obtain ⟨runtime, hr⟩ := Map.has_iff.1 hid
  exact Map.has_iff.2 ⟨runtime, initialized_get? hr⟩

def EngagementRecord.Ready (r : EngagementRecord) : Prop :=
  ∀ o ∈ r.body.obligations, r.obligationRuntime.has o.obligationID = true

theorem initialize_fold_ready :
    ∀ (l : List AgreementObligation) (m : Map String ObligationRuntimeRecord), ∀ o ∈ l,
      (l.foldl (fun m o => if m.has o.obligationID then m else
        m.put o.obligationID (initialRuntime r o.obligationID)) m).has o.obligationID = true
  | o' :: l, m, o, ho => by
    rcases List.mem_cons.1 ho with rfl | ho
    · have hhas : (if m.has o.obligationID then m else
          m.put o.obligationID (initialRuntime r o.obligationID)).has o.obligationID = true := by
        split
        · assumption
        · exact Map.has_iff.2 ⟨_, Map.get?_put_self⟩
      obtain ⟨runtime, hr⟩ := Map.has_iff.1 hhas
      exact Map.has_iff.2 ⟨runtime, initialize_fold_get? r l _ hr⟩
    · exact initialize_fold_ready l _ o ho

theorem initialize_ready : (initializeObligationRuntime r).Ready :=
  fun o ho => initialize_fold_ready r _ _ o ho

theorem initialize_fold_idle (m : Map String ObligationRuntimeRecord) :
    ∀ l : List AgreementObligation, (∀ o ∈ l, m.has o.obligationID = true) →
      l.foldl (fun m o => if m.has o.obligationID then m else
        m.put o.obligationID (initialRuntime r o.obligationID)) m = m
  | [], _ => rfl
  | o :: l, hl => by
    rw [List.foldl_cons, if_pos (hl o List.mem_cons_self)]
    exact initialize_fold_idle m l fun o ho => hl o (List.mem_cons_of_mem _ ho)

variable {r} in
theorem initialize_eq_self (hr : r.Ready) : initializeObligationRuntime r = r := by
  unfold initializeObligationRuntime initializedRuntime
  rw [initialize_fold_idle r _ _ hr]

/-! ## The updates -/

theorem keeps_state (state : EngagementState) (t : UInt64) :
    Keeps r (EngagementRecord.touch { r with state := state } t) :=
  { Keeps.refl r with }

theorem keeps_fileEvidence (state : EngagementState) (evidence : List String) :
    Keeps r (r.fileEvidence state evidence) := by
  unfold EngagementRecord.fileEvidence
  split <;> exact { Keeps.refl r with }

theorem keeps_moved (state : EngagementState) (executionID : String) (evidence : List String)
    (t : UInt64) : Keeps r (movedRecord r state executionID evidence t) := by
  have hexec : Keeps r (if executionID ≠ "" then { r with executionID := executionID } else r) := by
    split
    · exact { Keeps.refl r with }
    · exact Keeps.refl r
  exact (hexec.trans (keeps_fileEvidence _ state _)).trans (keeps_state _ state t)

theorem keeps_mirror (target : ObligationState) (executionID : String) (evidence : List String)
    (eventID : String) : Keeps r (mirrorObligation r target executionID evidence eventID) := by
  unfold mirrorObligation
  split <;> (dsimp only; split) <;> exact { Keeps.refl r with }

theorem keeps_completed (evidence : String) (t : UInt64) : Keeps r (completedRecord r evidence t) :=
  { Keeps.refl r with }

theorem keeps_settleRuntime (obligationID : String) (state : ObligationState)
    (evidence : List String) (t : UInt64) : Keeps r (settleRuntime r obligationID state evidence t) :=
  (keeps_initializeRuntime r).trans (keeps_put _ obligationID _)

/-! ## Projected updates -/

/-- `r'` is `r` with other runtimes and evidence, its state projected anew. -/
def Projects (h : Host) (r r' : EngagementRecord) : Prop :=
  ∃ x, Keeps r x ∧ x.state = r.state ∧ r' = refreshEngagementProjection h.range x

variable {r} in
theorem Projects.keeps (hp : Projects h r r') : Keeps r r' := by
  obtain ⟨x, hx, -, rfl⟩ := hp
  exact hx.trans (keeps_refresh x h.range)

theorem delivered_projects (runtime : ObligationRuntimeRecord) (obligationID manifestDigest eventID : String)
    (t : UInt64) :
    Projects h r (deliveredRecord h r runtime obligationID manifestDigest eventID t) := by
  refine ⟨_, ?_, ?_, rfl⟩
  · exact ⟨rfl, rfl, rfl, rfl, rfl, rfl, fun _ => Map.has_put_of_has⟩
  · rfl

theorem mirror_state (target : ObligationState) (executionID : String) (evidence : List String)
    (eventID : String) : (mirrorObligation r target executionID evidence eventID).state = r.state := by
  unfold mirrorObligation
  split <;> (dsimp only; split) <;> rfl

theorem obligationMoved_projects (runtime : ObligationRuntimeRecord) (obligationID : String)
    (target : ObligationState) (executionID : String) (evidence : List String) (eventID : String) (t : UInt64) :
    Projects h r (obligationMovedRecord h r runtime obligationID target executionID evidence eventID t) := by
  refine ⟨_, ?_, ?_, rfl⟩
  · exact ((keeps_put r obligationID _).trans (keeps_mirror _ target executionID _ eventID)).trans (keeps_touch _ t)
  · exact mirror_state _ target executionID _ eventID

theorem settling_projects (obligationID : String) (t : UInt64) : Projects h r (settlingRecord h r obligationID t) := by
  refine ⟨_, ?_, ?_, rfl⟩
  · exact ⟨rfl, rfl, rfl, rfl, rfl, rfl, fun _ => Map.has_put_of_has⟩
  · rfl

/-- The record a settlement step stores: the obligation's runtime moved or not, the state projected. -/
theorem resettled_projects (moved : Bool) (obligationID : String) (state : ObligationState)
    (runtimeEvidence : List String) (t : UInt64) (evidence : EngagementRecord → List String) (t' : UInt64) :
    let x := if moved then settleRuntime r obligationID state runtimeEvidence t else r
    Projects h r (refreshEngagementProjection h.range
      (EngagementRecord.touch { x with settlementEvidence := evidence x } t')) := by
  intro x
  have hx : Keeps r x ∧ x.state = r.state := by
    cases moved
    · exact ⟨Keeps.refl r, rfl⟩
    · exact ⟨keeps_settleRuntime r obligationID state runtimeEvidence t, rfl⟩
  refine ⟨_, ?_, ?_, rfl⟩
  · exact hx.1.trans { Keeps.refl x with }
  · exact hx.2

theorem paid_projects {next : AuthorityDocument} {r : BillingResolutionRequest}
    (hp : paidRecord h next obligation r = some r') :
    Projects h (next.engagements.getD obligation.agreementBodyDigest default) r' := by
  unfold paidRecord at hp
  dsimp only at hp
  split at hp
  · cases hp
    exact resettled_projects h _ _ _ .settled _ _ (fun _ => _) _
  · split at hp
    · cases hp
      exact resettled_projects h _ true _ .settled _ _ (·.settlementEvidence) _
    · cases hp

theorem overdue_projects {next : AuthorityDocument}
    {r : BillingStateTransitionRequest} (hp : overdueRecord h next obligation r = some r') :
    Projects h (next.engagements.getD obligation.agreementBodyDigest default) r' := by
  unfold overdueRecord at hp
  split at hp
  · cases hp
  · dsimp only at hp
    split at hp
    · cases hp
      exact resettled_projects h _ _ _ .overdue _ _ (fun x => appendUniqueSorted x.settlementEvidence _) _
    · split at hp
      · cases hp
        exact resettled_projects h _ true _ .overdue _ _ (·.settlementEvidence) _
      · cases hp

/-! ## The order of the projection -/

/-- The engagement state an obligation in flight asks for. -/
def inFlight : ObligationState → Option EngagementState
  | .executing => some .executing
  | .executionPrepared => some .executionPrepared
  | .executionSucceeded => some .executionSucceeded
  | .settling => some .settling
  | .overdue => some .unpaid
  | _ => none

/-- All obligations in flight ask for one state, or one that is ambiguous or failed overrides them. -/
def Decided (states : List ObligationState) : Prop :=
  .ambiguous ∈ states ∨ .failed ∈ states ∨
    ∀ s ∈ states, ∀ t ∈ states, ∀ a b, inFlight s = some a → inFlight t = some b → a = b

section
variable {record : EngagementRecord} {l l' : List ((_ : String) × ObligationRuntimeRecord)}

theorem projected_foldl (p : Projection) : (l.foldl (Projection.visit record) p).projected =
    if p.projected = some .ambiguous ∨ .ambiguous ∈ l.map (·.2.state) then some .ambiguous
    else if .failed ∈ l.map (·.2.state) then some .failed
    else p.projected.or ((l.map (·.2.state)).findSome? inFlight) := by
  induction l generalizing p with
  | nil => simp
  | cons e l ih =>
    rw [List.foldl_cons, ih, List.map_cons]
    rcases e with ⟨_, _, state⟩
    generalize l.map (·.2.state) = states
    cases state <;> rcases p with ⟨_, _, _ | s⟩ <;> simp [Projection.visit, inFlight, List.findSome?_cons]
    cases s <;> simp

theorem flags_foldl (p : Projection) : (l.foldl (Projection.visit record) p).allTerminal =
      (p.allTerminal && l.all fun e => (Projection.visit record {} e).allTerminal) ∧
    (l.foldl (Projection.visit record) p).allDeliveredOrSettled =
      (p.allDeliveredOrSettled && l.all fun e => (Projection.visit record {} e).allDeliveredOrSettled) := by
  induction l generalizing p with
  | nil => simp
  | cons e l ih => simp [ih, Projection.visit, Bool.and_assoc]

theorem project_perm (hp : l.Perm l') (hd : Decided (l.map (·.2.state))) :
    l.foldl (Projection.visit record) {} = l'.foldl (Projection.visit record) {} := by
  have hs := hp.map (·.2.state)
  rw [Projection.mk.injEq, (flags_foldl _).1, (flags_foldl _).1, (flags_foldl _).2, (flags_foldl _).2, projected_foldl,
    projected_foldl, hp.all_eq, hp.all_eq]
  refine ⟨rfl, rfl, ?_⟩
  simp only [← hs.mem_iff]
  split
  · rfl
  split
  · rfl
  · rename_i hamb hfail
    rw [Map.findSome?_perm hs ((hd.resolve_left fun h => hamb (.inr h)).resolve_left hfail)]

/-- The loop starts at entry `n`. -/
def startingAt (n : Nat) : RangeOrder := ⟨fun _ l => l.rotate n, fun _ l => l.rotate_perm n⟩

/-- Of states that are not decided, each one in flight is projected by some loop. -/
theorem first_decides (hq : ¬ Decided (record.obligationRuntime.entries.map (·.2.state))) {s : ObligationState}
    (hs : s ∈ record.obligationRuntime.entries.map (·.2.state)) {a : EngagementState} (ha : inFlight s = some a) :
    ∃ order, (refreshEngagementProjection order record).state = a := by
  rw [Decided, not_or, not_or] at hq
  obtain ⟨x, hx, rfl⟩ := List.mem_map.1 hs
  obtain ⟨l₁, l₂, heq⟩ := List.append_of_mem hx
  have hstates := (Map.range_perm (startingAt l₁.length) 2 record.obligationRuntime).map (·.2.state)
  have hp : (projectRuntime (startingAt l₁.length) record).projected = some a := by
    rw [projectRuntime, projected_foldl, if_neg (not_or.2 ⟨by decide, mt hstates.mem_iff.1 hq.1⟩),
      if_neg (mt hstates.mem_iff.1 hq.2.1)]
    simp [Map.range, startingAt, heq, List.rotate_append_length_eq, ha]
  refine ⟨startingAt l₁.length, ?_⟩
  show projectedState _ record = a
  simp [projectedState, hp, heq]

/-- The projected state is the same for all orders of the loop if and only if the states are decided. -/
theorem projection_order_free_iff :
    (∀ order order', (refreshEngagementProjection order record).state =
      (refreshEngagementProjection order' record).state) ↔
      Decided (record.obligationRuntime.entries.map (·.2.state)) := by
  refine ⟨fun h => by_contra fun hq => hq (.inr (.inr fun s hs t ht a b ha hb => ?_)), fun h order order' => ?_⟩
  · obtain ⟨order, rfl⟩ := first_decides hq hs ha
    obtain ⟨order', rfl⟩ := first_decides hq ht hb
    exact h order order'
  · have hp := Map.range_perm order 2 record.obligationRuntime
    have heq : projectRuntime order record = projectRuntime order' record :=
      project_perm (hp.trans (Map.range_perm order' 2 _).symm)
        (by simpa only [Decided, (hp.map (·.2.state)).mem_iff] using h)
    show projectedState order record = projectedState order' record
    simp only [projectedState, heq]

end

def Sample.twoInFlight : EngagementRecord :=
  { (default : EngagementRecord) with
    obligationRuntime := (Map.put ∅ "work" { (default : ObligationRuntimeRecord) with state := .executing }).put "fee"
      { (default : ObligationRuntimeRecord) with state := .settling } }

theorem two_in_flight_undecided : (refreshEngagementProjection (startingAt 0) Sample.twoInFlight).state = .settling ∧
    (refreshEngagementProjection (startingAt 1) Sample.twoInFlight).state = .executing := by
  decide

end OpenFox.Authority
