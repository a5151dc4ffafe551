/-
Exact retries of ledger actions. Each operation answers a recorded action from its journal, but only
after its other checks passed. Six of the eight operations check nothing there that their own
effect changes, so an exact retry is answered. `ReserveEngagement` and `ResolveSettlementState` first
ask for the state they are about to leave: their own retry is refused.
-/
import OpenFox.Authority.ActionsOnce

namespace OpenFox.Authority

open OpenFox.Go OpenFox.Commerce OpenFox.Base

variable {P : Protocol} {h₁ h₂ : Host} {d d' : AuthorityDocument}

/-! ## Ledger calls -/

/-- The operations that record a terminal action together with its effect. -/
inductive LedgerCall
  | reserve (action : AuthorizedAction) (fields : SemanticFields) (request : Bytes) (fence : WriterFence)
      (r : PortfolioReservationRequest)
  | release (action : AuthorizedAction) (fields : SemanticFields) (request : Bytes) (fence : WriterFence)
      (realized retained : UInt64)
  | materialize (action : AuthorizedAction) (fields : SemanticFields) (request : Bytes) (fence : WriterFence)
      (obligation : SettlementObligation)
  | resolve (action : AuthorizedAction) (fields : SemanticFields) (request : Bytes) (fence : WriterFence)
      (r : BillingStateTransitionRequest)
  | pay (action : AuthorizedAction) (fields : SemanticFields) (request : Bytes) (fence : WriterFence)
      (r : BillingResolutionRequest)
  | account (action : AuthorizedAction) (fields : SemanticFields) (request : Bytes) (fence : WriterFence)
      (entry : AccountingEntry)
  | schedule (action : AuthorizedAction) (request : Bytes) (fence : WriterFence)
  | depend (action : AuthorizedAction) (fields : SemanticFields) (request : Bytes) (fence : WriterFence)
      (r : DependencyTransitionRequest)

namespace LedgerCall

def action : LedgerCall → AuthorizedAction
  | reserve action _ _ _ _ | release action _ _ _ _ _ | materialize action _ _ _ _ | resolve action _ _ _ _
  | pay action _ _ _ _ | account action _ _ _ _ | schedule action _ _ | depend action _ _ _ _ => action

def request : LedgerCall → Bytes
  | reserve _ _ request _ _ | release _ _ request _ _ _ | materialize _ _ request _ _ | resolve _ _ request _ _
  | pay _ _ request _ _ | account _ _ request _ _ | schedule _ request _ | depend _ _ request _ _ => request

def fence : LedgerCall → WriterFence
  | reserve _ _ _ fence _ | release _ _ _ fence _ _ | materialize _ _ _ fence _ | resolve _ _ _ fence _
  | pay _ _ _ fence _ | account _ _ _ fence _ | schedule _ _ fence | depend _ _ _ fence _ => fence

def call : LedgerCall → Call
  | reserve action fields request fence r => .reserveEngagement action fields request fence r
  | release action fields request fence realized retained =>
    .releaseReservation action fields request fence realized retained
  | materialize action fields request fence obligation => .materializeSettlement action fields request fence obligation
  | resolve action fields request fence r => .resolveSettlementState action fields request fence r
  | pay action fields request fence r => .applySettlementPayment action fields request fence r
  | account action fields request fence entry => .recordAccounting action fields request fence entry
  | schedule action request fence => .admitScheduleTransition action request fence
  | depend action fields request fence r => .admitDependencyTransition action fields request fence r

/-- The operation with the resolution it returns. -/
def operation (P : Protocol) (h : Host) : LedgerCall → Operation ActionResolution
  | reserve action fields request fence r => (reserveEngagement P h action fields request fence r).map (·.1)
  | release action fields request fence realized retained =>
    releaseReservation P h action fields request fence realized retained
  | materialize action fields request fence obligation =>
    (materializeSettlement P h action fields request fence obligation).map (·.1)
  | resolve action fields request fence r => (resolveSettlementState P h action fields request fence r).map (·.1)
  | pay action fields request fence r => (applySettlementPayment P h action fields request fence r).map (·.1)
  | account action fields request fence entry => (recordAccounting P h action fields request fence entry).map (·.1)
  | schedule action request fence => admitScheduleTransition P h action request fence
  | depend action fields request fence r => admitDependencyTransition P h action fields request fence r

end LedgerCall

theorem LedgerCall.call_run (l : LedgerCall) (h : Host) (a : PersonalAuthority) :
    (l.call.operation P h).run P h a =
      (((l.operation P h).run P h a).1, ((l.operation P h).run P h a).2.map fun _ => ()) := by
  have hmap : ∀ {α : Type} (x : Except String (ActionResolution × α)),
      x.map (fun _ => ()) = (x.map (·.1)).map fun _ => () := by
    intro α x
    cases x <;> rfl
  cases l <;> simp [LedgerCall.call, LedgerCall.operation, Call.operation, run_map, hmap]

/-! ## The second call -/

/-- The circumstances of an exact retry: the storage is there, the clock does not read earlier than
before, the fence has not expired, and the envelope the first call verified still verifies. -/
structure Again (P : Protocol) (h₁ h₂ : Host) (l : LedgerCall) : Prop where
  attached : h₂.attached = true
  later : (h₁.clock 1).unixU64 ≤ (h₂.clock 1).unixU64
  live : h₂.clock 1 < Time.ofUnix l.fence.body.expiresAtUnix
  valid : ∀ authorityID fields i,
    P.verifyAuthorizedAction authorityID l.action fields l.request l.fence (h₁.clock i) = .ok () →
    P.verifyAuthorizedAction authorityID l.action fields l.request l.fence (h₂.clock i) = .ok ()

/-- What the retries need of the protocol: a verified action carries the digest of its request, and a
resolved settlement state has another revision. -/
structure RetryLaws (P : Protocol) : Prop where
  request : ∀ {authorityID action fields request fence now},
    P.verifyAuthorizedAction authorityID action fields request fence now = .ok () →
    P.exactRequestDigest request = .ok action.exactRequestDigest
  resolved : ∀ {state obligation target evidence now state'},
    P.resolveSettlementState state obligation target evidence now = .ok state' →
    state'.stateRevision ≠ state.stateRevision

/-- The operation accepts the call on `d` and leaves `d'`. -/
def Operation.Accepts {α : Type} (op : Operation α) (d d' : AuthorityDocument) : Prop :=
  (∃ v, op.body d = .ok (.keep v)) ∧ d' = d ∨ ∃ v, op.body d = .ok (.store d' v)

theorem Operation.accepts_map {α β : Type} {op : Operation α} {f : α → β} (ha : (op.map f).Accepts d d') :
    op.Accepts d d' := by
  rcases ha with ⟨⟨v, hb⟩, rfl⟩ | ⟨v, hb⟩
  · obtain ⟨o, ho, hv⟩ := map_ok.1 hb
    cases o with
    | keep w => exact .inl ⟨⟨w, ho⟩, rfl⟩
    | _ => cases hv
  · obtain ⟨o, ho, hv⟩ := map_ok.1 hb
    cases o with
    | store next w => cases hv; exact .inr ⟨w, ho⟩
    | _ => cases hv

theorem Operation.Accepts.outcome {α : Type} {op : Operation α} (ha : op.Accepts d d') :
    ∃ o, op.body d = .ok o ∧ (o.next = none ∧ d' = d ∨ o.next = some d') := by
  rcases ha with ⟨⟨v, hb⟩, rfl⟩ | ⟨v, hb⟩
  · exact ⟨_, hb, .inl ⟨rfl, rfl⟩⟩
  · exact ⟨_, hb, .inr rfl⟩

/-- The operation answers from the journal: it returns the recorded resolution and writes nothing. -/
def Operation.Answers (op : Operation ActionResolution) (d : AuthorityDocument) (id : String) : Prop :=
  ∃ prior, d.actions.get? id = some prior ∧ op.body d = .ok (.keep prior)

/-- The call is answered from the journal of `d`. -/
def LedgerCall.Answered (P : Protocol) (h : Host) (d : AuthorityDocument) (l : LedgerCall) : Prop :=
  (l.operation P h).Answers d l.action.stableActionID

/-- Once it is accepted, a retry of the call is answered. -/
def LedgerCall.Retried (P : Protocol) (h₁ h₂ : Host) (l : LedgerCall) : Prop :=
  ∀ {d d'}, WF P d → Again P h₁ h₂ l → (l.operation P h₁).before = .ok () → (l.operation P h₁).Accepts d d' →
    l.Answered P h₂ d'

section
variable {id : String} {prior : ActionResolution} {now : Time} {r : DependencyTransitionRequest}
  {ledger : SettlementLedgerRecord}
  {h : Host} {obligation : SettlementObligation} {action : AuthorizedAction} {fields : SemanticFields} {request : Bytes}
  {fence : WriterFence}

theorem Operation.answers_map {β : Type} {op : Operation (ActionResolution × β)}
    {v : β} (hid : d.actions.get? id = some prior) (hb : op.body d = .ok (.keep (prior, v))) :
    (op.map (·.1)).Answers d id := by
  refine ⟨prior, hid, ?_⟩
  show (op.body d).map (Outcome.map (·.1)) = _
  rw [hb]
  rfl

theorem Authorized.carry (auth : Authorized P d action fields request fence now) (hs : SameWriter d d') :
    Authorized P d' action fields request fence now := by
  refine ⟨?_, hs.authority ▸ auth.verifies⟩
  have hwriter := auth.writer
  unfold holdsWriter at hwriter ⊢
  rw [hs.current, hs.generation]
  exact hwriter

/-- An envelope that still verifies is accepted at the later time. -/
theorem Authorized.still {later : Time} (auth : Authorized P d action fields request fence now)
    (valid : P.verifyAuthorizedAction d.authorityID action fields request fence now = .ok () →
      P.verifyAuthorizedAction d.authorityID action fields request fence later = .ok ()) :
    verified P d action fields request fence later = true :=
  verified_iff.2 (valid auth.verifies)

/-! ### Answered retries -/

section
variable (found : d.actions.get? action.stableActionID = some prior)
  (same : prior.exactRequestDigest = action.exactRequestDigest)
include found same

theorem release_answers {realized retained}
    (again : Again P h₁ h₂ (.release action fields request fence realized retained))
    (auth : Authorized P d action fields request fence (h₁.clock 2)) (kind : action.actionKind = "portfolio.release")
    (terminal : prior.state = .terminal) :
    LedgerCall.Answered P h₂ d (.release action fields request fence realized retained) := by
  refine ⟨prior, found, ?_⟩
  have hlive : h₂.clock 1 < Time.ofUnix fence.body.expiresAtUnix := again.live
  have hv := auth.still (again.valid _ _ 2)
  simp [LedgerCall.operation, releaseReservation, releasePredecessor, refuse, runs, auth.writer, hlive, hv, kind, found,
    same, terminal]

theorem pay_answers {r : BillingResolutionRequest} (again : Again P h₁ h₂ (.pay action fields request fence r))
    (billed : d.settlementLedger.get? r.obligationInstanceID = some ledger) (timed : r.resolvedAtUnix ≠ 0)
    (past : r.resolvedAtUnix ≤ (h₁.clock 1).unixU64) (auth : Authorized P d action fields request fence (h₁.clock 2))
    (kind : action.actionKind = "billing.resolve") :
    LedgerCall.Answered P h₂ d (.pay action fields request fence r) := by
  refine Operation.answers_map found (v := ledger) ?_
  have hv := auth.still (again.valid _ _ 2)
  have hpast := UInt64.not_lt.2 (UInt64.le_trans past again.later)
  simp [applySettlementPayment, refuse, runs, billed, timed, hpast, auth.writer, hv, kind, found, same]

theorem account_answers {entry : AccountingEntry} (again : Again P h₁ h₂ (.account action fields request fence entry))
    (auth : Authorized P d action (accountingFields P entry) request fence (h₁.clock 2))
    (kind : action.actionKind = "accounting.record") (entered : d.accounting.get? entry.entryID = some entry) :
    LedgerCall.Answered P h₂ d (.account action fields request fence entry) := by
  refine Operation.answers_map found (v := entry) ?_
  have hlive : h₂.clock 1 < Time.ofUnix fence.body.expiresAtUnix := again.live
  have hv := auth.still (again.valid _ _ 2)
  simp [recordAccounting, refuse, runs, auth.writer, hlive, hv, kind, found, same, entered]

theorem schedule_answers {t : ScheduleTransitionRequest} (again : Again P h₁ h₂ (.schedule action request fence))
    (writer : holdsWriter d fence = true) (decoded : P.decodeScheduleTransition request = .ok t)
    (named : t.scheduleEntryID ≠ "") (dispatched : t.targetDispatchGeneration ≠ 0)
    (bound : P.exactRequestDigest request = .ok prior.exactRequestDigest) :
    LedgerCall.Answered P h₂ d (.schedule action request fence) := by
  refine ⟨prior, found, ?_⟩
  have hlive : h₂.clock 1 < Time.ofUnix fence.body.expiresAtUnix := again.live
  simp [LedgerCall.operation, admitScheduleTransition, refuse, runs, Except.mapError, writer, hlive, decoded, named,
    dispatched, found, bound, same]

theorem depend_answers (again : Again P h₁ h₂ (.depend action fields request fence r))
    (encoded : P.encodeDependencyTransition r = .ok request)
    (kind : action.actionKind = "schedule.dependency.transition")
    (exact : sameFields fields (dependencyFields d r) = true)
    (auth : Authorized P d action (dependencyFields d r) request fence (h₁.clock 1)) :
    LedgerCall.Answered P h₂ d (.depend action fields request fence r) := by
  refine ⟨prior, found, ?_⟩
  have hlive : h₂.clock 1 < Time.ofUnix fence.body.expiresAtUnix := again.live
  have hv := auth.still (again.valid _ _ 1)
  simp [LedgerCall.operation, admitDependencyTransition, refuse, runs, auth.writer, hlive, encoded, kind, exact, hv,
    found, same]

theorem materialize_answers {engagement : EngagementRecord} (hwf : WF P d)
    (again : Again P h₁ h₂ (.materialize action fields request fence obligation))
    (engaged : d.engagements.get? obligation.agreementBodyDigest = some engagement)
    (billable : materializable P engagement obligation.agreementObligationID = true)
    (auth : Authorized P d action fields request fence (h₁.clock 1)) (kind : action.actionKind = "billing.materialize")
    (billed : d.settlementLedger.get? obligation.obligationInstanceID = some ledger) :
    LedgerCall.Answered P h₂ d (.materialize action fields request fence obligation) := by
  refine Operation.answers_map found (v := ledger) ?_
  have hv := auth.still (again.valid _ _ 1)
  have hinit := initialize_eq_self (hwf.ready engaged)
  simp [materializeSettlement, refuse, runs, engaged, hinit, billable, auth.writer, hv, kind, found, billed, same]

end

theorem release_again {realized retained} :
    LedgerCall.Retried P h₁ h₂ (.release action fields request fence realized retained) := by
  rintro d d' - again - (⟨⟨v, hb⟩, rfl⟩ | ⟨v, hb⟩)
  · simp only [LedgerCall.operation, releaseReservation, peel, passed] at hb
    obtain ⟨⟨writer, -⟩, ⟨kind, hv⟩, predecessor, hpred, hb⟩ := hb
    cases predecessor with
    | inl prior =>
      unfold releasePredecessor at hpred
      split at hpred
      · cases hpred
      · rename_i prior' found
        simp only [peel, passed] at hpred
        obtain ⟨same, hpred⟩ := hpred
        split at hpred
        · rename_i terminal
          exact release_answers found same again ⟨writer, verified_iff.1 hv⟩ kind terminal
        · simp only [peel] at hpred
          cases hpred.2
    | inr revision =>
      simp only [peel] at hb
      obtain ⟨release, -, -, hb⟩ := hb
      split at hb
      · cases hb
      · simp only [peel] at hb
        obtain ⟨-, -, -, _, -, -, -, hb⟩ := hb
        cases hb
  · have hw := releaseReservation_writes (Operation.stores_map.2 ⟨rfl, _, hb, rfl⟩)
    have hsame := hw.sameWriter (by simp)
    cases hw with
    | releaseReservation auth kind =>
      exact release_answers Map.get?_put_self rfl again (auth.carry hsame) kind rfl

theorem pay_again {r} : LedgerCall.Retried P h₁ h₂ (.pay action fields request fence r) := by
  rintro d d' - again - first
  obtain ⟨o, hbody, hnext⟩ := (Operation.accepts_map first).outcome
  have hb := hbody
  simp only [applySettlementPayment] at hb
  split at hb
  · cases hb
  rename_i ledger billed
  simp only [peel, passed, UInt64.not_lt, gt_iff_lt] at hb
  obtain ⟨⟨timed, past⟩, writer, ⟨kind, hv⟩, hb⟩ := hb
  rcases hnext with ⟨hkeep, rfl⟩ | hstore
  · split at hb
    · rename_i prior found
      simp only [peel, not_not] at hb
      exact pay_answers found hb.1 again billed timed past ⟨writer, verified_iff.1 hv⟩ kind
    · simp only [peel] at hb
      obtain ⟨_, -, _, -, rfl⟩ := hb
      cases hkeep
  · have hw := applySettlementPayment_writes (Operation.stores_map.2 ⟨rfl, o, hbody, hstore⟩)
    have hsame := hw.sameWriter (by simp)
    cases hw with
    | @pay _ _ _ _ _ ledger updated entryID auth kind =>
      refine pay_answers (?_ : _ = some (resolutionOf action .terminal [r.paymentEvidenceDigest] 1)) rfl again
        (?_ : _ = some { ledger with state := updated }) timed past (auth.carry hsame) kind
      · rw [storeRecord_proj (·.actions)]
        exact Map.get?_put_self
      · rw [storeRecord_proj (·.settlementLedger)]
        exact Map.get?_put_self

theorem account_again {entry} : LedgerCall.Retried P h₁ h₂ (.account action fields request fence entry) := by
  rintro d d' - again before first
  rcases Operation.accepts_map first with ⟨⟨v, hb⟩, rfl⟩ | ⟨v, hb⟩
  · simp only [recordAccounting, peel, passed] at hb
    obtain ⟨⟨writer, -⟩, ⟨kind, hv⟩, hb⟩ := hb
    split at hb
    · rename_i prior found
      simp only [peel, passed] at hb
      exact account_answers found hb.1.1 again ⟨writer, verified_iff.1 hv⟩ kind hb.1.2
    · cases hb
  · have hw := recordAccounting_writes (Operation.stores_map.2 ⟨before, _, hb, rfl⟩)
    have hsame := hw.sameWriter (by simp)
    cases hw with
    | account auth kind =>
      exact account_answers Map.get?_put_self rfl again (auth.carry hsame) kind Map.get?_put_self

theorem schedule_again (hlaws : RetryLaws P) : LedgerCall.Retried P h₁ h₂ (.schedule action request fence) := by
  rintro d d' - again - first
  obtain ⟨o, hbody, hnext⟩ := first.outcome
  have hb := hbody
  simp only [LedgerCall.operation, admitScheduleTransition, peel, mapError_ok, passed] at hb
  obtain ⟨⟨writer, -⟩, t, decoded, ⟨named, dispatched⟩, hb⟩ := hb
  rcases hnext with ⟨hkeep, rfl⟩ | hstore
  · split at hb
    · rename_i prior found
      simp only [peel, passed] at hb
      exact schedule_answers found hb.1.2.symm again writer decoded named dispatched hb.1.1
    · simp only [peel] at hb
      obtain ⟨_, -, -, -, rfl⟩ := hb
      cases hkeep
  · have hw := admitScheduleTransition_writes (Operation.stores_map.2 ⟨rfl, o, hbody, hstore⟩)
    have hsame := hw.sameWriter (by simp)
    cases hw with
    | schedule _ _ auth =>
      exact schedule_answers Map.get?_put_self rfl again (auth.carry hsame).writer decoded named dispatched
        (hlaws.request auth.verifies)

theorem dependencyFields_same (hs : SameWriter d d') : dependencyFields d' r = dependencyFields d r := by
  unfold dependencyFields
  rw [hs.owner, hs.agent]

theorem depend_again : LedgerCall.Retried P h₁ h₂ (.depend action fields request fence r) := by
  rintro d d' - again - first
  obtain ⟨o, hbody, hnext⟩ := first.outcome
  have hb := hbody
  simp only [LedgerCall.operation, admitDependencyTransition, peel, passed] at hb
  obtain ⟨⟨writer, -⟩, encoded, ⟨kind, exact, hv⟩, hb⟩ := hb
  rcases hnext with ⟨hkeep, rfl⟩ | hstore
  · split at hb
    · rename_i prior found
      simp only [peel, not_not] at hb
      exact depend_answers found hb.1 again encoded kind exact ⟨writer, verified_iff.1 hv⟩
    · simp only [peel] at hb
      obtain ⟨-, _, -, -, rfl⟩ := hb
      cases hkeep
  · have hw := admitDependencyTransition_writes (Operation.stores_map.2 ⟨rfl, o, hbody, hstore⟩)
    have hsame := hw.sameWriter (by simp)
    have hfields := dependencyFields_same (r := r) hsame
    cases hw with
    | depend auth kind =>
      exact depend_answers Map.get?_put_self rfl again encoded kind (hfields ▸ exact) (hfields ▸ auth.carry hsame)

variable {r : PortfolioReservationRequest} {atUnix : UInt64} {l : LedgerCall}

/-- Billing an obligation leaves it billable: it is settling then, and depends on other obligations. -/
theorem settling_materializable {r : EngagementRecord}
    (hm : materializable P r id = true) : materializable P (settlingRecord h r id atUnix) id = true := by
  simp only [materializable, Bool.and_eq_true, Bool.or_eq_true, beq_iff_eq] at hm ⊢
  obtain ⟨⟨exact, state⟩, owed⟩ := hm
  have hget : ∀ key, (settlingRecord h r id atUnix).obligationRuntime.get? key =
      if key = id then some { r.obligationRuntime.getD id default with
        state := .settling, stateRevision := (r.obligationRuntime.getD id default).stateRevision + 1
        lastTransitionAtUnix := atUnix } else r.obligationRuntime.get? key := fun key => Map.get?_put _ _ _ _
  refine ⟨⟨exact, .inr ?_⟩, ?_⟩
  · rw [Map.getD, hget, if_pos rfl]
    rfl
  · have hby : obligationByID (settlingRecord h r id atUnix) id = obligationByID r id := rfl
    rw [hby]
    cases ho : obligationByID r id with
    | none => rw [ho] at owed; cases owed
    | some o =>
      rw [ho] at owed
      simp only [Bool.and_eq_true] at owed ⊢
      refine ⟨owed.1, ?_⟩
      simp only [obligationDependenciesSatisfied, List.all_eq_true] at owed ⊢
      intro key hkey
      have hdep := owed.2 key hkey
      -- The obligation is not one of its own dependencies: those are delivered or settled.
      have hother : key ≠ id := by
        rintro rfl
        cases hr : r.obligationRuntime.get? key with
        | none => rw [hr] at hdep; cases hdep
        | some runtime =>
          rw [hr] at hdep
          rw [Map.getD_of_get? hr] at state
          simp only [Bool.or_eq_true, beq_iff_eq] at hdep
          rcases state with hs | hs <;> rw [hs] at hdep <;> simp at hdep
      rw [hget, if_neg hother]
      exact hdep

theorem materialize_again : LedgerCall.Retried P h₁ h₂ (.materialize action fields request fence obligation) := by
  rintro d d' hwf again before first
  rcases Operation.accepts_map first with ⟨⟨v, hb⟩, rfl⟩ | ⟨v, hb⟩
  · simp only [materializeSettlement] at hb
    split at hb
    · cases hb
    · rename_i engagement engaged
      rw [initialize_eq_self (hwf.ready engaged)] at hb
      simp only [peel, passed] at hb
      obtain ⟨billable, writer, ⟨kind, hv⟩, hb⟩ := hb
      split at hb
      · rename_i prior found
        split at hb
        · cases hb
        · rename_i ledger billed
          simp only [peel, not_not] at hb
          exact materialize_answers found hb.1 hwf again engaged billable ⟨writer, verified_iff.1 hv⟩ kind billed
      · simp only [peel] at hb
        obtain ⟨_, -, hb⟩ := hb
        cases hb
  · have hw := materializeSettlement_writes (Operation.stores_map.2 ⟨before, _, hb, rfl⟩)
    have hsame := hw.sameWriter (by simp)
    have hwf' := hw.wf hwf
    cases hw with
    | materializeFirst auth kind own engaged billable =>
      refine materialize_answers Map.get?_put_self rfl hwf' again
        (?_ : _ = some (settlingRecord h₁ _ obligation.agreementObligationID (h₁.clock 2).unixU64))
        (settling_materializable billable) (auth.carry hsame) kind Map.get?_put_self
      rw [(hwf.engagement engaged).1]
      exact Map.get?_put_self
    | materializeNext auth kind own engaged billable =>
      rw [initialize_eq_self (hwf.ready engaged)] at billable
      exact materialize_answers Map.get?_put_self rfl hwf' again engaged billable (auth.carry hsame) kind
        Map.get?_put_self

/-! ### Refused retries -/

theorem reserve_recorded (again : Again P h₁ h₂ (.reserve action fields request fence r))
    (found : d.actions.get? action.stableActionID = some prior)
    (first : (reserveEngagement P h₁ action fields request fence r).Accepts d d') :
    d' = d ∧ LedgerCall.Answered P h₂ d (.reserve action fields request fence r) := by
  rcases first with ⟨⟨v, hb⟩, rfl⟩ | ⟨v, hb⟩
  · refine ⟨rfl, ?_⟩
    simp only [reserveEngagement] at hb
    split at hb
    · cases hb
    · rename_i record engaged
      simp only [peel, passed, Bool.not_eq_true, found] at hb
      obtain ⟨⟨eligible, live, target⟩, exact, paidDemand, covered, pinned, writer, ⟨kind, hv⟩, same, -⟩ := hb
      have hv' := Authorized.still ⟨writer, verified_iff.1 hv⟩ (again.valid _ _ 1)
      refine Operation.answers_map found (v := record) ?_
      simp [reserveEngagement, refuse, runs, engaged, eligible, live, target, exact, paidDemand, covered, pinned,
        writer, kind, hv', found, same]
  · cases reserveEngagement_writes (Operation.stores_map.2 ⟨rfl, _, hb, rfl⟩) with
    | reserve _ _ _ _ _ _ _ absent => rw [found] at absent; cases absent

theorem reserved_not_eligible {r : EngagementRecord} {agentID : String} (hid : id ≠ "") :
    engagementEligibleForReservation P (reservedRecord r action id atUnix) agentID = false := by
  have hstate : (reservedRecord r action id atUnix).state ≠ .agreed := by
    simp only [reservedRecord, EngagementRecord.touch]
    split <;> exact nofun
  unfold engagementEligibleForReservation
  split
  · rfl
  · exact if_pos (.inr hid)

/-- After a reservation that was stored, the same call is refused, whatever bearers lapse before it. -/
theorem reserve_fresh (hwf : WF P d) (absent : d.actions.get? action.stableActionID = none)
    (first : (reserveEngagement P h₁ action fields request fence r).Accepts d d') {d'' : AuthorityDocument}
    (steps : Relation.ReflTransGen (Expiry now) d' d'') (o : Outcome (ActionResolution × EngagementRecord)) :
    (reserveEngagement P h₂ action fields request fence r).body d'' ≠ .ok o := by
  rcases first with ⟨⟨v, hb⟩, rfl⟩ | ⟨v, hb⟩
  · simp only [reserveEngagement] at hb
    split at hb
    · cases hb
    · simp only [absent, peel] at hb
      obtain ⟨-, -, -, -, -, -, -, -, hb⟩ := hb
      cases hb
  · have hw := reserveEngagement_writes (Operation.stores_map.2 ⟨rfl, _, hb, rfl⟩)
    have hwf' := hw.wf hwf
    cases hw with
    | @reserve _ _ _ _ _ record engaged _ _ _ _ _ _ _ fits =>
      have hid := (admitReservation_id fits).1
      have hstored : ∀ {d''}, Relation.ReflTransGen (Expiry now) (putEngagement (recordAction
            (putReservation d r.reservation) action (resolutionOf action .terminal [] 1)) record.agreementDigest
            (reservedRecord record action r.reservation.reservationID (h₁.clock 2).unixU64)) d'' →
          WF P d'' ∧ d''.engagements.get? r.reservation.agreementDigest =
            some (reservedRecord record action r.reservation.reservationID (h₁.clock 2).unixU64) := by
        intro d'' steps
        induction steps with
        | refl =>
          refine ⟨hwf', ?_⟩
          rw [(hwf.engagement engaged).1]
          exact Map.get?_put_self
        | tail _ hlast ih =>
          refine ⟨hlast.wf ih.1, ?_⟩
          obtain ⟨-, _, _, -, -, lapse⟩ := hlast
          rcases lapse.follows ih.1 ih.2 with same | ⟨-, -, ended⟩
          · exact same
          · -- No bearer lapses on an engagement that has just been reserved.
            simp only [reservedRecord, EngagementRecord.touch] at ended
            split at ended <;> cases ended
      intro hb
      simp only [reserveEngagement, (hstored steps).2, peel, not_or] at hb
      exact hb.1.1 (reserved_not_eligible hid)

theorem resolve_recorded {r : BillingStateTransitionRequest}
    (again : Again P h₁ h₂ (.resolve action fields request fence r))
    (found : d.actions.get? action.stableActionID = some prior)
    (first : (resolveSettlementState P h₁ action fields request fence r).Accepts d d') :
    d' = d ∧ LedgerCall.Answered P h₂ d (.resolve action fields request fence r) := by
  rcases first with ⟨⟨v, hb⟩, rfl⟩ | ⟨v, hb⟩
  · refine ⟨rfl, ?_⟩
    simp only [resolveSettlementState] at hb
    split at hb
    · cases hb
    · rename_i ledger billed
      simp only [peel, passed, found, UInt64.not_lt, gt_iff_lt] at hb
      obtain ⟨⟨revision, timed, past⟩, writer, updated, resolved, evidence, digested, ⟨kind, exact, hv⟩, same, -⟩ := hb
      have hv' := Authorized.still ⟨writer, verified_iff.1 hv⟩ (again.valid _ _ 2)
      have hpast := UInt64.not_lt.2 (UInt64.le_trans past again.later)
      refine Operation.answers_map found (v := ledger) ?_
      simp [resolveSettlementState, refuse, runs, billed, revision, timed, hpast, writer, resolved, digested, kind,
        exact, hv', found, same]
  · cases resolveSettlementState_writes (Operation.stores_map.2 ⟨rfl, _, hb, rfl⟩) with
    | settle _ _ _ _ absent => rw [found] at absent; cases absent

/-- After a settlement state that was stored, the same call names a revision that has passed. -/
theorem resolve_fresh {r : BillingStateTransitionRequest} (hlaws : RetryLaws P)
    (absent : d.actions.get? action.stableActionID = none)
    (first : (resolveSettlementState P h₁ action fields request fence r).Accepts d d')
    (o : Outcome (ActionResolution × SettlementLedgerRecord)) :
    (resolveSettlementState P h₂ action fields request fence r).body d' ≠ .ok o := by
  rcases first with ⟨⟨v, hb⟩, rfl⟩ | ⟨v, hb⟩
  · simp only [resolveSettlementState] at hb
    split at hb
    · cases hb
    · simp only [absent, peel] at hb
      obtain ⟨-, -, _, -, _, -, -, _, -, hb⟩ := hb
      cases hb
  · cases resolveSettlementState_writes (Operation.stores_map.2 ⟨rfl, _, hb, rfl⟩) with
    | @settle _ _ _ _ _ ledger updated _ _ next _ _ billed revision _ resolved _ only =>
      have hbilled : (storeRecord next (overdueRecord h₁ next ledger.obligation r)).settlementLedger.get?
          r.obligationInstanceID = some { ledger with state := updated } := by
        rw [storeRecord_proj (·.settlementLedger), only]
        exact Map.get?_put_self
      intro hb
      simp only [resolveSettlementState, hbilled, peel, passed] at hb
      exact hlaws.resolved resolved (hb.1.1.trans revision.symm)

/-! ## Exact retries -/

theorem run_answers {op : Operation ActionResolution} (hans : op.Answers d id)
    (hbefore : op.before = .ok ()) (hattached : h.attached = true)
    (hquiet : op.expires = true → expireIssuedCustody P h.range (h.clock 0) d = .ok none) :
    ∃ prior, d.actions.get? id = some prior ∧ op.run P h { doc := d } = ({ doc := d }, .ok prior) := by
  obtain ⟨prior, found, hbody⟩ := hans
  refine ⟨prior, found, ?_⟩
  cases hx : op.expires with
  | false =>
    simp [Operation.run, hbefore, PersonalAuthority.ensureStorageIdentityLocked, hattached, hx, Operation.commit, hbody]
  | true =>
    simp [Operation.run, hbefore, PersonalAuthority.ensureStorageIdentityLocked, hattached, hx, Operation.commit, hbody,
      PersonalAuthority.expireIssuedCustodyLocked, hquiet hx]

/-- The condition under which an exact retry is answered. For most ledger calls there is none; a
reservation or a settlement state must have been recorded already when the first call was made, so that
this was a retry itself, and a reservation also wants no bearer to fall due in between. -/
def LedgerCall.Repeatable (P : Protocol) (h₂ : Host) (before after : AuthorityDocument) : LedgerCall → Prop
  | .reserve action _ _ _ _ =>
    before.actions.has action.stableActionID = true ∧
      expireIssuedCustody P h₂.range (h₂.clock 0) after = .ok none
  | .resolve action _ _ _ _ => before.actions.has action.stableActionID = true
  | _ => True

/-- The retry returns the recorded resolution of its action and leaves the authority as it is. -/
def LedgerCall.Repeats (P : Protocol) (h : Host) (l : LedgerCall) (a : PersonalAuthority) : Prop :=
  ∃ prior, a.doc.actions.get? l.action.stableActionID = some prior ∧ (l.operation P h).run P h a = (a, .ok prior)

theorem materializeSettlement_before :
    (materializeSettlement P h action fields request fence obligation).before =
      refuse (P.validateSettlementObligation obligation ≠ .ok () ∨ action.stableActionID ≠ obligation.stableActionID)
        "settlement obligation identity is invalid" := rfl

theorem LedgerCall.before_again (l : LedgerCall) (hb : (l.operation P h₁).before = .ok ()) :
    (l.operation P h₂).before = .ok () := by
  have hmap : ∀ {α β} {f : α → β} {op : Operation α}, (op.map f).before = op.before := rfl
  cases l with
  | materialize =>
    rw [LedgerCall.operation, hmap, materializeSettlement_before] at hb ⊢
    exact hb
  | account => exact hb
  | _ => rfl

/-- The retry of a call whose checks do not look at its own effect. -/
theorem LedgerCall.durable_repeats (hlaws : RetryLaws P) (again : Again P h₁ h₂ l) (hwf : WF P d)
    (hbefore : (l.operation P h₁).before = .ok ()) (first : (l.operation P h₁).Accepts d d')
    (hl : ∀ action fields request fence r, l ≠ .reserve action fields request fence r)
    (hl' : ∀ action fields request fence r, l ≠ .resolve action fields request fence r) :
    l.Repeats P h₂ { doc := d' } := by
  have hrun : l.Answered P h₂ d' → l.Repeats P h₂ { doc := d' } := fun hans =>
    run_answers hans (l.before_again hbefore) again.attached fun hx => by
      cases l with
      | reserve => exact absurd rfl (hl _ _ _ _ _)
      | _ => cases hx
  refine hrun ?_
  cases l with
  | reserve => exact absurd rfl (hl _ _ _ _ _)
  | resolve => exact absurd rfl (hl' _ _ _ _ _)
  | release => exact release_again hwf again hbefore first
  | materialize => exact materialize_again hwf again hbefore first
  | pay => exact pay_again hwf again hbefore first
  | account => exact account_again hwf again hbefore first
  | schedule => exact schedule_again hlaws hwf again hbefore first
  | depend => exact depend_again hwf again hbefore first

theorem Returns.accepts {op : Operation ActionResolution} {a : PersonalAuthority} {v : ActionResolution}
    (hr : Returns P h op a v d) : ∃ d', op.Accepts d d' ∧ (op.run P h a).1 = { doc := d' } := by
  rcases hr.accepted with ⟨hb, hdoc⟩ | ⟨next, hb, hdoc⟩
  · exact ⟨d, .inl ⟨⟨v, hb⟩, rfl⟩, hdoc⟩
  · exact ⟨next, .inr ⟨v, hb⟩, hdoc⟩

theorem Again.self (again : Again P h₁ h₂ l) : Again P h₂ h₂ l :=
  ⟨again.attached, UInt64.le_refl _, again.live, fun _ _ _ hv => hv⟩

theorem reserve_repeats_iff (hwf : WF P d) (again : Again P h₁ h₂ (.reserve action fields request fence r))
    (first : (reserveEngagement P h₁ action fields request fence r).Accepts d d') :
    LedgerCall.Repeats P h₂ (.reserve action fields request fence r) { doc := d' } ↔
      d.actions.has action.stableActionID = true ∧ expireIssuedCustody P h₂.range (h₂.clock 0) d' = .ok none := by
  cases hfound : d.actions.get? action.stableActionID with
  | none =>
    refine ⟨?_, fun hr => absurd hr.1 (by rw [Map.has_false_iff.2 hfound]; exact Bool.false_ne_true)⟩
    rintro ⟨prior, -, hrun⟩
    obtain ⟨d₂, hr⟩ := run_returns (congrArg Prod.snd hrun)
    obtain ⟨d₃, haccepts, -⟩ := hr.accepts
    obtain ⟨o, hb, -⟩ := (Operation.accepts_map haccepts).outcome
    exact absurd hb (reserve_fresh hwf hfound first hr.steps o)
  | some prior =>
    obtain ⟨rfl, hans⟩ := reserve_recorded again hfound first
    have hhas := Map.has_iff.2 ⟨prior, hfound⟩
    refine ⟨?_, fun hr => run_answers hans rfl again.attached fun _ => hr.2⟩
    rintro ⟨prior', -, hrun⟩
    refine ⟨hhas, ?_⟩
    obtain ⟨d₂, hr⟩ := run_returns (congrArg Prod.snd hrun)
    obtain ⟨d₃, haccepts, hdoc⟩ := hr.accepts
    rcases hr.expired rfl with ⟨hquiet, -⟩ | hlapsed
    · exact hquiet
    · -- Bearers lapsed, and an answer stores nothing: the document is not the one before.
      have hrecorded : d₂.actions.get? action.stableActionID = some prior := by
        rw [expiries_actions hr.steps]
        exact hfound
      have hsame := (reserve_recorded again.self hrecorded (Operation.accepts_map haccepts)).1
      rw [hrun] at hdoc
      have hd₂ : d₂ = d' := hsame.symm.trans (congrArg PersonalAuthority.doc hdoc).symm
      exact absurd hd₂ (expire_changes hlapsed)

theorem resolve_repeats_iff {r : BillingStateTransitionRequest} (hlaws : RetryLaws P)
    (again : Again P h₁ h₂ (.resolve action fields request fence r))
    (first : (resolveSettlementState P h₁ action fields request fence r).Accepts d d') :
    LedgerCall.Repeats P h₂ (.resolve action fields request fence r) { doc := d' } ↔
      d.actions.has action.stableActionID = true := by
  cases hfound : d.actions.get? action.stableActionID with
  | none =>
    refine ⟨?_, fun hr => absurd hr (by rw [Map.has_false_iff.2 hfound]; exact Bool.false_ne_true)⟩
    rintro ⟨prior, -, hrun⟩
    obtain ⟨d₂, hr⟩ := run_returns (congrArg Prod.snd hrun)
    obtain ⟨d₃, haccepts, -⟩ := hr.accepts
    obtain ⟨o, hb, -⟩ := (Operation.accepts_map haccepts).outcome
    rw [hr.idle rfl] at hb
    exact absurd hb (resolve_fresh hlaws hfound first o)
  | some prior =>
    obtain ⟨rfl, hans⟩ := resolve_recorded again hfound first
    exact ⟨fun _ => Map.has_iff.2 ⟨prior, hfound⟩, fun _ => run_answers hans rfl again.attached nofun⟩

/-- For every reachable authority and every accepted ledger call: made once more, under a fence that is
still current and an envelope that still verifies, the call returns the recorded resolution of its
action and changes nothing if and only if it is repeatable. -/
theorem retry_repeats_iff (hlaws : RetryLaws P) {a : PersonalAuthority} (ha : Reachable P a) (l : LedgerCall)
    {h₁ h₂ : Host} (first : (perform P a ⟨h₁, .call l.call⟩).2 = .ok ()) (again : Again P h₁ h₂ l) :
    l.Repeats P h₂ (step P a ⟨h₁, .call l.call⟩) ↔
      l.Repeatable P h₂ a.doc (step P a ⟨h₁, .call l.call⟩).doc := by
  have hrun : perform P a ⟨h₁, .call l.call⟩ = (l.call.operation P h₁).run P h₁ a := rfl
  have hstep : step P a ⟨h₁, .call l.call⟩ = ((l.operation P h₁).run P h₁ a).1 := by
    rw [step, hrun, l.call_run]
  rw [hrun, l.call_run] at first
  obtain ⟨v, hv⟩ : ∃ v, ((l.operation P h₁).run P h₁ a).2 = .ok v := by
    cases hres : ((l.operation P h₁).run P h₁ a).2 with
    | error e => rw [hres] at first; cases first
    | ok v => exact ⟨v, rfl⟩
  obtain ⟨d, hr⟩ := run_returns hv
  obtain ⟨d', haccepts, hdoc⟩ := hr.accepts
  have hwf := expiries_wf (reachable_wf ha) hr.steps
  rw [hstep, hdoc]
  cases l with
  | reserve =>
    rw [LedgerCall.Repeatable, ← expiries_actions hr.steps]
    exact reserve_repeats_iff hwf again (Operation.accepts_map haccepts)
  | resolve =>
    rw [LedgerCall.Repeatable, ← expiries_actions hr.steps]
    exact resolve_repeats_iff hlaws again (Operation.accepts_map haccepts)
  | _ =>
    exact ⟨fun _ => trivial, fun _ => LedgerCall.durable_repeats hlaws again hwf hr.before haccepts (by simp) (by simp)⟩

end

namespace Sample

/-- The sample protocol with requests that are their own digests, and settlement states that advance. -/
def exacting : Protocol :=
  { protocol with
    verifyAuthorizedAction := fun authorityID action _ request fence _ =>
      if action.authorityID = authorityID ∧ fence.body.authorityID = authorityID ∧
        action.writerGeneration = fence.body.writerGeneration ∧ action.exactRequestDigest = request then .ok ()
      else .error "unauthorized"
    resolveSettlementState := fun state _ target _ _ =>
      .ok { state with state := target, stateRevision := state.stateRevision + 1 } }

theorem exacting_laws : RetryLaws exacting := by
  refine ⟨fun {authorityID action fields request fence now} hv => ?_, fun {state _ _ _ _ state'} hs => ?_⟩
  · simp only [exacting] at hv
    split at hv
    · rename_i hexact
      rw [hexact.2.2.2]
      rfl
    · cases hv
  · cases hs
    simp

def releaseRelay : LedgerCall := .release (action "portfolio.release" "release") ∅ "release" fence 0 0

end Sample

open Sample in
/-- The release of a cancelled agreement's hold, submitted again later, is answered. -/
theorem released_run_repeats :
    let a := exec (step exacting) Sample.authority (releasedRun.take 6)
    let e : Event := ⟨host 107, .call releaseRelay.call⟩
    (perform exacting a e).2 = .ok () ∧
      releaseRelay.Repeats exacting (host 200) (step exacting a e) := by
  intro a e
  have first : (perform exacting a e).2 = .ok () := by decide +kernel
  refine ⟨first, (retry_repeats_iff exacting_laws ⟨"owner", "alice", "authority", limits,
    releasedRun.take 6, rfl⟩ releaseRelay first ?_).2 trivial⟩
  exact ⟨rfl, by decide, by decide, fun _ _ _ hv => hv⟩

open Sample in
/-- The reservation of the relay agreement, submitted again at once, is refused. -/
theorem reservation_retry_refused :
    let a := exec (step protocol) authority [acquire, proposeRelay]
    (perform protocol a (reserveRelay 2)).2 = .ok () ∧
      (perform protocol (step protocol a (reserveRelay 2)) (reserveRelay 2)).2 =
        .error "Agreement is not eligible for reservation" := by
  decide +kernel

end OpenFox.Authority
