/-
Accounting entries and the scheduler (`accounting.go`, `scheduler.go`), and the settlement ledger
(`settlement_ledger.go`): materializing one obligation instance, applying a payment and resolving a
settlement state, each with the obligation runtime, the engagement projection and the accounting entry
it carries along.
-/
import OpenFox.Authority.Engagement

namespace OpenFox.Authority

open OpenFox.Go OpenFox.Commerce

variable (P : Protocol) (h : Host) (doc : AuthorityDocument) (action : AuthorizedAction) (fields : SemanticFields)
  (request : Bytes) (fence : WriterFence)

/-! ## Accounting -/

def validateAccountingEntryBody (body : AccountingEntryBody) : Except String Unit := do
  refuse (body.schemaVersion ≠ 1 ∨ body.ownerID = "" ∨ body.agentID = "" ∨ body.sourceReference = "" ∨
      body.observedAtUnix = 0 ∨ body.evidenceRefs = [] ∨ body.evidenceRefs.length > 64)
    "accounting entry is incomplete or unbounded"
  refuse (body.classification = .gratuity ∧
      (body.agreementBodyDigest ≠ "" ∨ body.agreementObligationID ≠ "" ∨ body.obligationInstanceID ≠ ""))
    "Gift gratuity cannot be attributed as Agreement settlement"
  refuse (body.classification ≠ .gratuity ∧ body.classification ≠ .actualCost ∧ body.agreementBodyDigest = "")
    "commercial accounting entry lacks its Agreement"
  refuse ((body.agreementBodyDigest ≠ "" ∧ canonicalSHA256 body.agreementBodyDigest = false) ∨
      (body.obligationInstanceID ≠ "" ∧ canonicalSHA256 body.obligationInstanceID = false))
    "accounting Agreement identity is invalid"
  refuse (body.amount = none ∧ body.computeUnits = 0) "accounting entry has no measured value"
  refuse (body.amount.any (fun a => P.validateAgreementAmount a != .ok ())) "accounting amount is invalid"
  refuse (¬ body.evidenceRefs.Pairwise (· ≤ ·)) "accounting evidence is not canonical"
  refuse (body.evidenceRefs.all canonicalSHA256 = false ∨ adjacentDistinct body.evidenceRefs = false)
    "accounting evidence is invalid or duplicated"

def accountingEntryID (body : AccountingEntryBody) : Except String String := do
  validateAccountingEntryBody P body
  P.digest "tos.openfox.accounting-entry-body.v1" (.accountingBody body)

def putAccounting (entry : AccountingEntry) : AuthorityDocument :=
  { doc with accounting := doc.accounting.put entry.entryID entry }

def fieldMap (l : List (String × SemanticValue)) : SemanticFields :=
  l.foldl (fun m e => m.put e.1 e.2) ∅

def accountingFields (entry : AccountingEntry) : SemanticFields :=
  fieldMap [("owner_id", .id entry.body.ownerID), ("agent_id", .id entry.body.agentID),
    ("entry_id", .digest32 entry.entryID), ("classification", .kind entry.body.classification.text),
    ("evidence_set_digest",
      .digest32 (match P.digest "tos.accounting-evidence-set.v1" (.strings entry.body.evidenceRefs) with
      | .ok digest => digest
      | .error _ => ""))]

def recordAccounting (entry : AccountingEntry) : Operation (ActionResolution × AccountingEntry) where
  before := do
    refuse (validateAccountingEntryBody P entry.body ≠ .ok () ∨ entry.writerGeneration ≠ fence.body.writerGeneration)
      "accounting entry is invalid"
    refuse (accountingEntryID P entry.body ≠ .ok entry.entryID) "accounting identity mismatch"
    refuse (P.encodeAccountingEntry entry ≠ .ok request) "accounting request is not canonical"
    refuse (sameFields fields (accountingFields P entry) = false) "accounting semantic key mismatch"
  body doc := do
    refuse (holdsWriter doc fence = false ∨ ¬ h.clock 1 < Time.ofUnix fence.body.expiresAtUnix)
      "stale writer cannot record accounting"
    refuse (action.actionKind ≠ "accounting.record" ∨
        verified P doc action (accountingFields P entry) request fence (h.clock 2) = false)
      "accounting action is not authorized"
    match doc.actions.get? action.stableActionID with
    | some prior =>
      refuse (prior.exactRequestDigest ≠ action.exactRequestDigest ∨
          doc.accounting.get? entry.entryID ≠ some entry)
        "accounting retry conflicts"
      pure (.keep (prior, entry))
    | none =>
      let resolution := resolutionOf action .terminal entry.body.evidenceRefs 1
      pure (.store (recordAction (putAccounting doc entry) action resolution) (resolution, entry))

/-! ## Scheduler -/

/-- The entry a schedule transition produces: a canonical first one, or the successor of the current. -/
def scheduleTarget (t : ScheduleTransitionRequest) : Except String ScheduleEntry :=
  match doc.scheduleEntries.get? t.scheduleEntryID with
  | none =>
    match t.initialEntry with
    | none => .error "new schedule entry has no canonical initial state"
    | some entry => do
      refuse (t.expectedStateRevision ≠ 0 ∨ t.targetState ≠ .queued ∨ entry.scheduleEntryID ≠ t.scheduleEntryID ∨
          entry.state ≠ .queued ∨ entry.stateRevision ≠ 1 ∨ entry.dispatchGeneration ≠ t.targetDispatchGeneration ∨
          entry.writerGeneration ≠ fence.body.writerGeneration)
        "new schedule entry has no canonical initial state"
      P.validateScheduleEntry entry
      pure entry
  | some current => do
    refuse (t.initialEntry.isSome = true ∨ current.stateRevision ≠ t.expectedStateRevision)
      "schedule transition has a stale state revision"
    P.transitionScheduleEntry current t.targetState t.targetDispatchGeneration fence.body.writerGeneration

def scheduleFields (t : ScheduleTransitionRequest) (target : ScheduleEntry) : SemanticFields :=
  fieldMap [("owner_id", .id doc.ownerID), ("agent_id", .id doc.agentID),
    ("schedule_entry_id", .id target.scheduleEntryID), ("agreement_body_digest", .digest32 target.agreementBodyDigest),
    ("execution_id", .digest32 target.executionID), ("expected_state_revision", .u64 t.expectedStateRevision),
    ("target_state", .state t.targetState.text), ("target_dispatch_generation", .u64 t.targetDispatchGeneration)]

def admitScheduleTransition : Operation ActionResolution where
  body doc := do
    let now := h.clock 1
    refuse (holdsWriter doc fence = false ∨ ¬ now < Time.ofUnix fence.body.expiresAtUnix)
      "stale writer cannot mutate the scheduler"
    let t ← (P.decodeScheduleTransition request).mapError fun _ => "schedule transition request is invalid"
    refuse (t.scheduleEntryID = "" ∨ t.targetDispatchGeneration = 0) "schedule transition request is invalid"
    match doc.actions.get? action.stableActionID with
    | some prior =>
      refuse (P.exactRequestDigest request ≠ .ok prior.exactRequestDigest ∨
          action.exactRequestDigest ≠ prior.exactRequestDigest)
        "schedule transition identity conflicts"
      pure (.keep prior)
    | none =>
      let target ← scheduleTarget P doc fence t
      let dependencies := doc.dependencies ++ t.dependencies
      P.validatePortfolioDependencies dependencies
      refuse (action.actionKind ≠ "schedule.entry.transition" ∨
          verified P doc action (scheduleFields doc t target) request fence now = false)
        "schedule transition is not an exact authorized action"
      let resolution := resolutionOf action .terminal [] 1
      let next := { doc with
        scheduleEntries := doc.scheduleEntries.put target.scheduleEntryID target
        dependencies := dependencies, portfolioRevision := doc.portfolioRevision + 1 }
      pure (.store (recordAction next action resolution) resolution)

def dependencyFields (r : DependencyTransitionRequest) : SemanticFields :=
  fieldMap [("owner_id", .id doc.ownerID), ("agent_id", .id doc.agentID),
    ("upstream_agreement_digest", .digest32 r.dependency.upstreamAgreementDigest),
    ("upstream_obligation_id", .id r.dependency.upstreamObligationID),
    ("downstream_agreement_digest", .digest32 r.dependency.downstreamAgreementDigest),
    ("downstream_obligation_id", .id r.dependency.downstreamObligationID),
    ("dependency_type", .kind r.dependency.dependencyType), ("dependency_class", .kind r.dependency.dependencyClass),
    ("transition_kind", .kind r.transitionKind), ("graph_base_revision", .u64 r.graphBaseRevision)]

/-- The dependency list after an add or a remove of exactly one edge. -/
def prospectiveDependencies (current : List PortfolioDependency) (r : DependencyTransitionRequest) :
    Except String (List PortfolioDependency) :=
  if r.transitionKind = "add" then do
    refuse (current.contains r.dependency) "dependency already exists under another action"
    pure (current ++ [r.dependency])
  else if r.transitionKind = "remove" then do
    refuse (current.contains r.dependency = false) "dependency is absent"
    refuse (r.dependency.evidenceDrivenReleaseRequired = true ∧ r.evidenceRefs = [])
      "dependency release lacks exact evidence"
    refuse (r.evidenceRefs.all canonicalSHA256 = false ∨ adjacentDistinct r.evidenceRefs = false)
      "dependency release evidence is invalid"
    pure (current.erase r.dependency)
  else .error "dependency transition kind is unknown"

def admitDependencyTransition (r : DependencyTransitionRequest) : Operation ActionResolution where
  body doc := do
    let now := h.clock 1
    refuse (holdsWriter doc fence = false ∨ ¬ now < Time.ofUnix fence.body.expiresAtUnix)
      "stale writer cannot mutate dependencies"
    refuse (P.encodeDependencyTransition r ≠ .ok request) "dependency request is not canonical"
    refuse (action.actionKind ≠ "schedule.dependency.transition" ∨
        sameFields fields (dependencyFields doc r) = false ∨
        verified P doc action (dependencyFields doc r) request fence now = false)
      "dependency action is not exact or authorized"
    match doc.actions.get? action.stableActionID with
    | some prior =>
      refuse (prior.exactRequestDigest ≠ action.exactRequestDigest) "dependency action identity conflicts"
      pure (.keep prior)
    | none =>
      refuse (r.graphBaseRevision ≠ doc.portfolioRevision) "stale graph revision cannot mutate dependencies"
      let dependencies ← prospectiveDependencies doc.dependencies r
      P.validatePortfolioDependencies dependencies
      let resolution := resolutionOf action .terminal r.evidenceRefs 1
      let next := { doc with dependencies := dependencies, portfolioRevision := doc.portfolioRevision + 1 }
      pure (.store (recordAction next action resolution) resolution)

/-! ## Ledger scans -/

/-- The ledger entries of an Agreement, in the order of one loop. -/
def agreementLedger (site : Nat) (doc : AuthorityDocument) (agreementDigest : String) : List SettlementLedgerRecord :=
  ((doc.settlementLedger.range h.range site).map (·.2)).filter
    fun c => c.obligation.agreementBodyDigest == agreementDigest

def obligationLedger (site : Nat) (doc : AuthorityDocument) (agreementDigest obligationID : String) :
    List SettlementLedgerRecord :=
  (agreementLedger h site doc agreementDigest).filter fun c => c.obligation.agreementObligationID == obligationID

def putLedger (instanceID : String) (ledger : SettlementLedgerRecord) : AuthorityDocument :=
  { doc with settlementLedger := doc.settlementLedger.put instanceID ledger }

/-- Move one obligation to a settlement state, with the evidence its ledger entries carry. -/
def settleRuntime (record : EngagementRecord) (obligationID : String) (state : ObligationState)
    (evidence : List String) (atUnix : UInt64) : EngagementRecord :=
  let record := initializeObligationRuntime record
  let runtime := record.obligationRuntime.getD obligationID default
  { record with
    obligationRuntime := record.obligationRuntime.put obligationID { runtime with
      state := state, stateRevision := runtime.stateRevision + 1
      settlementEvidence := appendUniqueSorted runtime.settlementEvidence evidence
      lastTransitionAtUnix := atUnix } }

/-! ## Materialization -/

/-- The obligation instance may be billed now: a value obligation of the exact retained body,
pending or already settling, with its dependencies met. -/
def materializable (record : EngagementRecord) (obligationID : String) : Bool :=
  let state := (record.obligationRuntime.getD obligationID default).state
  exactRetainedAgreementBody P record && (state == .pending || state == .settling) &&
    match obligationByID record obligationID with
    | none => false
    | some o => o.amount.isSome && obligationDependenciesSatisfied record o

/-- The engagement after the first instance of an obligation is billed. -/
def settlingRecord (record : EngagementRecord) (obligationID : String) (atUnix : UInt64) : EngagementRecord :=
  let runtime := record.obligationRuntime.getD obligationID default
  let record := { record with
    obligationRuntime := record.obligationRuntime.put obligationID { runtime with
      state := .settling, stateRevision := runtime.stateRevision + 1, lastTransitionAtUnix := atUnix } }
  refreshEngagementProjection h.range (record.touch atUnix)

def materializeSettlement (obligation : SettlementObligation) :
    Operation (ActionResolution × SettlementLedgerRecord) where
  before := refuse (P.validateSettlementObligation obligation ≠ .ok () ∨
      action.stableActionID ≠ obligation.stableActionID)
    "settlement obligation identity is invalid"
  body doc :=
    match doc.engagements.get? obligation.agreementBodyDigest with
    | none => .error "settlement cannot be materialized before verified delivery"
    | some engagement => do
      let engagement := initializeObligationRuntime engagement
      refuse (materializable P engagement obligation.agreementObligationID = false)
        "settlement cannot be materialized before verified delivery"
      refuse (holdsWriter doc fence = false) "stale writer cannot materialize billing"
      refuse (action.actionKind ≠ "billing.materialize" ∨
          verified P doc action fields request fence (h.clock 1) = false)
        "billing materialization action is not authorized"
      match doc.actions.get? action.stableActionID with
      | some prior =>
        match doc.settlementLedger.get? obligation.obligationInstanceID with
        | none => .error "billing materialization retry conflicts"
        | some ledger =>
          refuse (prior.exactRequestDigest ≠ action.exactRequestDigest) "billing materialization retry conflicts"
          pure (.keep (prior, ledger))
      | none =>
        let state ← P.newSettlementState obligation
        let ledger : SettlementLedgerRecord := { obligation := obligation, state := state }
        let resolution := resolutionOf action .terminal [] 1
        let next := putLedger (recordAction doc action resolution) obligation.obligationInstanceID ledger
        let runtime := engagement.obligationRuntime.getD obligation.agreementObligationID default
        let next := if runtime.state = .pending then
            putEngagement next engagement.agreementDigest
              (settlingRecord h engagement obligation.agreementObligationID (h.clock 2).unixU64)
          else next
        pure (.store next (resolution, ledger))

/-! ## Payments -/

structure BillingResolutionRequest where
  obligationInstanceID : String
  paymentEvidenceDigest : String
  paidAmount : AgreementAmount
  resolvedAtUnix : UInt64
deriving DecidableEq

def paymentClassification (agentID : String) (obligation : SettlementObligation) (status : SettlementStatus) :
    AccountingClassification :=
  if status = .paid then (if obligation.payeeAgentID = agentID then .settledRevenue else .settledExpense)
  else .partialPayment

def paymentAccounting (ledger : SettlementLedgerRecord) (r : BillingResolutionRequest) : AccountingEntryBody :=
  { schemaVersion := 1, ownerID := doc.ownerID, agentID := doc.agentID
    classification := paymentClassification doc.agentID ledger.obligation ledger.state.state
    agreementBodyDigest := ledger.obligation.agreementBodyDigest
    agreementObligationID := ledger.obligation.agreementObligationID
    obligationInstanceID := ledger.obligation.obligationInstanceID, amount := some r.paidAmount
    sourceReference := r.paymentEvidenceDigest, evidenceRefs := [r.paymentEvidenceDigest]
    observedAtUnix := r.resolvedAtUnix }

def allPaid (l : List SettlementLedgerRecord) : Bool := l.all fun c => c.state.state == .paid

/-- The engagement a payment stores, if any: the obligation is settled when all its ledger entries
are paid, and the projection is refreshed. `next` holds the updated ledger entry. -/
def paidRecord (next : AuthorityDocument) (obligation : SettlementObligation) (r : BillingResolutionRequest) :
    Option EngagementRecord :=
  let engagement := next.engagements.getD obligation.agreementBodyDigest default
  let ofObligation := obligationLedger h 8 next engagement.agreementDigest obligation.agreementObligationID
  let ofAgreement := agreementLedger h 9 next engagement.agreementDigest
  let engagement := if allPaid ofObligation then
      settleRuntime engagement obligation.agreementObligationID .settled
        (ofObligation.flatMap fun c => c.state.appliedPaymentEvidence) r.resolvedAtUnix
    else engagement
  if allPaid ofAgreement then
    some (refreshEngagementProjection h.range (EngagementRecord.touch { engagement with
      settlementEvidence := sortStrings (ofAgreement.flatMap fun c => c.state.appliedPaymentEvidence) }
        (h.clock 3).unixU64))
  else if allPaid ofObligation then
    some (refreshEngagementProjection h.range (engagement.touch r.resolvedAtUnix))
  else none

def storeRecord : Option EngagementRecord → AuthorityDocument
  | some record => putEngagement doc record.agreementDigest record
  | none => doc

def applySettlementPayment (r : BillingResolutionRequest) : Operation (ActionResolution × SettlementLedgerRecord) where
  body doc :=
    match doc.settlementLedger.get? r.obligationInstanceID with
    | none => .error "payment resolution has no materialized obligation"
    | some ledger => do
      refuse (r.resolvedAtUnix = 0 ∨ r.resolvedAtUnix > (h.clock 1).unixU64)
        "payment resolution has no materialized obligation"
      refuse (holdsWriter doc fence = false) "stale writer cannot resolve billing"
      refuse (action.actionKind ≠ "billing.resolve" ∨ verified P doc action fields request fence (h.clock 2) = false)
        "billing resolution action is not authorized"
      match doc.actions.get? action.stableActionID with
      | some prior =>
        refuse (prior.exactRequestDigest ≠ action.exactRequestDigest) "billing resolution identity conflicts"
        pure (.keep (prior, ledger))
      | none =>
        let updated ← P.applyPayment ledger.state ledger.obligation r.paymentEvidenceDigest r.paidAmount
          (Time.ofUnix r.resolvedAtUnix)
        let ledger := { ledger with state := updated }
        let resolution := resolutionOf action .terminal [r.paymentEvidenceDigest] 1
        let next := putLedger (recordAction doc action resolution) r.obligationInstanceID ledger
        let body := paymentAccounting next ledger r
        let entryID ← accountingEntryID P body
        let next := putAccounting next
          { entryID := entryID, body := body, writerGeneration := fence.body.writerGeneration }
        pure (.store (storeRecord next (paidRecord h next ledger.obligation r)) (resolution, ledger))

/-! ## Other settlement states -/

structure BillingStateTransitionRequest where
  obligationInstanceID : String
  expectedStateRevision : UInt64
  targetState : SettlementStatus
  evidenceDigest : String
  observedAtUnix : UInt64
deriving DecidableEq

def transitionClassification : SettlementStatus → Option AccountingClassification
  | .overdue => some .overdueBalance
  | .disputed => some .dispute
  | .writtenOff => some .writeOff
  | _ => none

/-- The accounting entry a settlement transition adds, if its target has a classification. -/
def transitionAccounting (ledger : SettlementLedgerRecord)
    (r : BillingStateTransitionRequest) (doc : AuthorityDocument) : Except String AuthorityDocument :=
  match transitionClassification r.targetState with
  | none => .ok doc
  | some classification => do
    let body : AccountingEntryBody :=
      { schemaVersion := 1, ownerID := doc.ownerID, agentID := doc.agentID, classification := classification
        agreementBodyDigest := ledger.obligation.agreementBodyDigest
        agreementObligationID := ledger.obligation.agreementObligationID
        obligationInstanceID := ledger.obligation.obligationInstanceID
        amount := some ledger.state.outstandingAmount, sourceReference := r.evidenceDigest
        evidenceRefs := [r.evidenceDigest], observedAtUnix := r.observedAtUnix }
    let entryID ← accountingEntryID P body
    pure (putAccounting doc { entryID := entryID, body := body, writerGeneration := fence.body.writerGeneration })

def allOverdueOrPaid (l : List SettlementLedgerRecord) : Bool :=
  l.all fun c => c.state.state == .overdue || c.state.state == .paid

/-- The engagement an overdue transition stores, if any. -/
def overdueRecord (next : AuthorityDocument) (obligation : SettlementObligation) (r : BillingStateTransitionRequest) :
    Option EngagementRecord :=
  if r.targetState ≠ .overdue then none
  else
    let engagement := next.engagements.getD obligation.agreementBodyDigest default
    let ofObligation := obligationLedger h 8 next engagement.agreementDigest obligation.agreementObligationID
    let ofAgreement := agreementLedger h 9 next engagement.agreementDigest
    let engagement := if allOverdueOrPaid ofObligation then
        settleRuntime engagement obligation.agreementObligationID .overdue
          (ofObligation.flatMap fun c => c.state.evidenceRefs) r.observedAtUnix
      else engagement
    if allOverdueOrPaid ofAgreement then
      some (refreshEngagementProjection h.range (EngagementRecord.touch { engagement with
        settlementEvidence := appendUniqueSorted engagement.settlementEvidence [r.evidenceDigest] }
          r.observedAtUnix))
    else if allOverdueOrPaid ofObligation then
      some (refreshEngagementProjection h.range (engagement.touch r.observedAtUnix))
    else none

def settlementTransitionFields (r : BillingStateTransitionRequest) (evidenceSetDigest : String) : SemanticFields :=
  fieldMap [("owner_id", .id doc.ownerID), ("agent_id", .id doc.agentID),
    ("obligation_instance_id", .digest32 r.obligationInstanceID), ("target_state", .state r.targetState.text),
    ("evidence_set_digest", .digest32 evidenceSetDigest)]

def resolveSettlementState (r : BillingStateTransitionRequest) :
    Operation (ActionResolution × SettlementLedgerRecord) where
  body doc :=
    match doc.settlementLedger.get? r.obligationInstanceID with
    | none => .error "settlement transition has a stale or absent obligation"
    | some ledger => do
      refuse (ledger.state.stateRevision ≠ r.expectedStateRevision ∨ r.observedAtUnix = 0 ∨
          r.observedAtUnix > (h.clock 1).unixU64)
        "settlement transition has a stale or absent obligation"
      refuse (holdsWriter doc fence = false) "stale writer cannot resolve settlement state"
      let updated ← P.resolveSettlementState ledger.state ledger.obligation r.targetState r.evidenceDigest
        (Time.ofUnix r.observedAtUnix)
      let evidenceSetDigest ← P.digest "tos.billing-evidence-set.v1" (.strings updated.evidenceRefs)
      let expected := settlementTransitionFields doc r evidenceSetDigest
      refuse (action.actionKind ≠ "billing.resolve" ∨ sameFields fields expected = false ∨
          verified P doc action expected request fence (h.clock 2) = false)
        "settlement transition action is not exact or authorized"
      match doc.actions.get? action.stableActionID with
      | some prior =>
        refuse (prior.exactRequestDigest ≠ action.exactRequestDigest) "settlement transition identity conflicts"
        pure (.keep (prior, ledger))
      | none =>
        let ledger := { ledger with state := updated }
        let resolution := resolutionOf action .terminal [r.evidenceDigest] 1
        let next := recordAction (putLedger doc r.obligationInstanceID ledger) action resolution
        let next ← transitionAccounting P fence ledger r next
        pure (.store (storeRecord next (overdueRecord h next ledger.obligation r)) (resolution, ledger))

end OpenFox.Authority
