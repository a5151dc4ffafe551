/-
What the portfolio ledger holds at risk against what the chain has spent and may still spend. An order that
is confirmed inactive releases its pending collateral whether or not its fills were recorded, so the ledger
covers the chain in every run that records an order's fills before its inactivity.
-/
import OpenFox.Prediction.PortfolioHistory

namespace OpenFox.Prediction

open OpenFox.Go OpenFox.Base

/-! ## What is at risk on chain -/

/-- The lots of an order still fillable on chain at a sequence. -/
def ChainHistory.fillable (H : ChainHistory) (s : ℕ) (r : PortfolioOrderReservation) : ℕ :=
  if H.inactive s r.orderDigest then 0 else r.quantityLots.toNat - H.fill s r.orderDigest

/-- What a tracked BUY order had spent on chain at its recorded checkpoint, and the worst case of what could
still fill. -/
def chainExposure (P : PortfolioProtocol) (H : ChainHistory) (r : PortfolioOrderReservation) : ℕ :=
  if r.action = .buy then
    H.spent r.lastMasterchainSeqno.toNat r.orderDigest + r.lotCost P * H.fillable r.lastMasterchainSeqno.toNat r
  else 0

/-- The share of the position risk a recorded SELL fill or exit releases. -/
def releasedBy (d next : PortfolioDocument) : PortfolioOperation → ℕ
  | .applyFinalizedFill evidence =>
    if (d.orders.get? evidence.orderDigest).any (·.action ≠ .buy) then d.positionRisk - next.positionRisk else 0
  | .applyFinalizedPositionExit _ => d.positionRisk - next.positionRisk
  | _ => 0

/-- The share released along the operations of a run. -/
def released (m : Machine PortfolioDocument PortfolioDocument PortfolioCall) :
    PortfolioDocument → List PortfolioCall → ℕ
  | _, [] => 0
  | d, c :: cs =>
    match m.call true c d with
    | .ok (.store next _) => releasedBy d next c.operation + released m next cs
    | _ => released m d cs

/-- Every fill of a BUY order up to its inactivity was recorded before the inactivity is. -/
def FillsRecorded (H : ChainHistory) (d : PortfolioDocument) : PortfolioOperation → Prop
  | .confirmOrderInactive evidence => ∀ r, d.orders.get? evidence.orderDigest = some r → r.action = .buy →
      r.filledLots.toNat = H.fill evidence.masterchainSeqno.toNat evidence.orderDigest
  | _ => True

variable {P : PortfolioProtocol} {o : RangeOrder} {profile : OwnerPortfolioProfile} {d next : PortfolioDocument}
  {H : ChainHistory}

/-- What a BUY reservation has recorded is what the chain had at its checkpoint. -/
structure RecordsChain (H : ChainHistory) (digest : String) (r : PortfolioOrderReservation) : Prop where
  filled : r.filledLots.toNat = H.fill r.lastMasterchainSeqno.toNat digest
  spent : r.cumulativeSpentAtomic.toNat = H.spent r.lastMasterchainSeqno.toNat digest
  done : isPortfolioOrderTerminal r.status = true →
    r.filledLots = r.quantityLots ∨ H.inactive r.lastMasterchainSeqno.toNat digest = true

variable {rel : ℕ} {r : PortfolioOrderReservation} {p : PositionExposure}

theorem RecordsChain.exposure_le {digest : String} (hr : RecordsChain H digest r)
    (hs : SoundReservation P digest r) (hside : r.action = .buy) :
    chainExposure P H r ≤ r.cumulativeSpentAtomic.toNat + r.pendingRisk := by
  have hkey := hs.identified.key
  rw [chainExposure, if_pos hside, ← hkey, hr.spent, (hs.buy hside).pendingRisk, ChainHistory.fillable, ← hkey]
  apply Nat.add_le_add_left
  apply Nat.mul_le_mul_left
  split
  · exact Nat.zero_le _
  · rename_i hactive
    rw [← hr.filled]
    unfold PortfolioOrderReservation.unfilled
    split
    · rename_i hterminal
      rcases hr.done hterminal with hfull | hinactive
      · rw [hfull, Nat.sub_self]
      · exact absurd hinactive hactive
    · exact le_rfl

/-! ## One operation -/

/-- The recorded spend of the orders is at risk in the positions, apart from what was released. -/
structure Covered (H : ChainHistory) (d : PortfolioDocument) (rel : ℕ) : Prop where
  records : ∀ {digest r}, d.orders.get? digest = some r → r.action = .buy → RecordsChain H digest r
  spent : d.orders.sumBy (·.cumulativeSpentAtomic.toNat) ≤ d.positionRisk + rel

theorem Imported.risk_le {snapshot : PortfolioMarketSnapshot} {outcome : Outcome}
    {before after : Map PositionKey PositionExposure} (hi : Imported snapshot outcome before after p) :
    before.sumBy (·.atRiskAtomic.toNat) ≤ after.sumBy (·.atRiskAtomic.toNat) := by
  have hrisk := hi.risk
  rw [hi.put]
  rcases importBase_cases before outcome snapshot with hold | ⟨hnone, -⟩
  · have hsum := Map.sumBy_put_of_some (fun p : PositionExposure => p.atRiskAtomic.toNat) hold p
    omega
  · rw [Map.sumBy_put_of_none _ hnone]
    exact Nat.le_add_left _ _

section Fills

variable {evidence : PortfolioFillEvidence} {effect : FillEffect}

theorem Bought.covered (hs : SoundDocument P profile d) (hd : Covered H d rel) (hf : Fills d evidence r p)
    (hb : Bought P.toMarketProtocol d evidence r p effect) (htrue : Truthful H (.applyFinalizedFill evidence)) :
    Covered H (afterFill d evidence (portfolioPositionKey r.marketID r.outcome) effect) rel := by
  refine ⟨Map.forall_put hd.records fun _ => ⟨htrue.1, htrue.2, fun hterminal => .inl ?_⟩, ?_⟩
  · -- the only terminal status after a fill is that of a complete one
    by_contra hopen
    have hstatus : (effect.reservation.filledTo evidence).status = .partiallyFilled := if_neg hopen
    rw [hstatus] at hterminal
    cases hterminal
  · have hsum := Map.sumBy_put_of_some (·.cumulativeSpentAtomic.toNat) hf.reservation
      (effect.reservation.filledTo evidence)
    have hposition := positionRisk_afterFill evidence effect (hf.recorded hs.linked)
    have hrisk := hb.risk
    have hbefore := hd.spent
    have hspent : (effect.reservation.filledTo evidence).cumulativeSpentAtomic.toNat =
      evidence.cumulativeSpentAtomic.toNat := rfl
    show (d.orders.put evidence.orderDigest (effect.reservation.filledTo evidence)).sumBy _ ≤ _
    omega

theorem Sold.covered (hd : Covered H d rel) (hf : Fills d evidence r p) (hside : r.action ≠ .buy)
    (hsold : Sold d evidence r p effect) :
    Covered H (afterFill d evidence (portfolioPositionKey r.marketID r.outcome) effect)
    (rel +
      (d.positionRisk - (afterFill d evidence (portfolioPositionKey r.marketID r.outcome) effect).positionRisk)) := by
  have haction : (effect.reservation.filledTo evidence).action ≠ .buy := by rw [hsold.reservation]; exact hside
  refine ⟨Map.forall_put hd.records fun hbuy => absurd hbuy haction, ?_⟩
  have hsum := Map.sumBy_put_le (·.cumulativeSpentAtomic.toNat) hf.reservation
    (v := effect.reservation.filledTo evidence) (by
      show evidence.cumulativeSpentAtomic.toNat ≤ _
      rw [hsold.nothingSpent]
      exact Nat.zero_le _)
  have hbefore := hd.spent
  show (d.orders.put evidence.orderDigest (effect.reservation.filledTo evidence)).sumBy _ ≤ _
  omega

end Fills

theorem Covered.wrote {op : PortfolioOperation} (hs : SoundDocument P profile d) (hd : Covered H d rel)
    (htrue : Truthful H op) (hcond : FillsRecorded H d op) (hw : Wrote P d op next) :
    Covered H next (rel + releasedBy d next op) := by
  cases hw with
  | @reserve q yes no pYes pNo reserves importYes importNo limits =>
    refine ⟨Map.forall_put (v := q.reservation) hd.records fun _ =>
      ⟨(H.fill_zero _).symm, (H.spent_zero _).symm, nofun⟩, ?_⟩
    have hbefore := hd.spent
    have hrisk : d.positionRisk ≤ no.sumBy (·.atRiskAtomic.toNat) := importYes.risk_le.trans importNo.risk_le
    show (d.orders.put q.risk.orderDigest q.reservation).sumBy _ ≤ no.sumBy (·.atRiskAtomic.toNat) + _
    rw [Map.sumBy_put_of_none _ reserves.absent]
    have hnew : q.reservation.cumulativeSpentAtomic.toNat = 0 := rfl
    omega
  | @mark digest state r reservation live pending =>
    refine ⟨Map.forall_put hd.records fun hside => ?_, ?_⟩
    · have hr := hd.records reservation hside
      refine ⟨hr.filled, hr.spent, fun hterminal => ?_⟩
      rcases pending with rfl | rfl <;> cases hterminal
    · exact (Map.sumBy_put_le (·.cumulativeSpentAtomic.toNat) reservation le_rfl).trans hd.spent
  | buy fills side bought => simpa [releasedBy, fills.reservation, side] using bought.covered hs hd fills htrue
  | sell fills side sold => simpa [releasedBy, fills.reservation, side] using sold.covered hd fills side
  | exit position transaction view seqno fewer newer =>
    refine ⟨hd.records, ?_⟩
    have hbefore := hd.spent
    unfold releasedBy
    dsimp only
    omega
  | @inactive evidence r reservation live transaction view seqno newer =>
    refine ⟨Map.forall_put hd.records fun hside => ?_, ?_⟩
    · have hr := hd.records reservation hside
      have hall := hcond r reservation hside
      exact ⟨hall, hr.spent.trans (H.spent_of_fill (hr.filled.symm.trans hall)), fun _ => .inr htrue⟩
    · exact (Map.sumBy_put_le (·.cumulativeSpentAtomic.toNat) reservation le_rfl).trans hd.spent

/-! ## Whole runs -/

def replay (m : Machine PortfolioDocument PortfolioDocument PortfolioCall) :
    PortfolioDocument → List PortfolioCall → PortfolioDocument
  | d, [] => d
  | d, c :: cs =>
    match m.call true c d with
    | .ok (.store next _) => replay m next cs
    | _ => replay m d cs

theorem replay_snoc {m : Machine PortfolioDocument PortfolioDocument PortfolioCall} {c : PortfolioCall} {u : Unit} :
    ∀ {cs} {d}, m.call true c (replay m d cs) = .ok (.store next u) →
      replay m d (cs ++ [c]) = next ∧
        released m d (cs ++ [c]) = released m d cs + releasedBy (replay m d cs) next c.operation
  | [], d, hc => by
    have hc' : m.call true c d = .ok (.store next u) := hc
    simp [replay, released, hc']
  | c' :: cs, d, hc => by
    rw [List.cons_append]
    unfold replay released
    cases hcall : m.call true c' d with
    | error e =>
      simp only [replay, hcall] at hc
      exact replay_snoc hc
    | ok update =>
      cases update with
      | keep v =>
        simp only [replay, hcall] at hc
        exact replay_snoc hc
      | store next' v =>
        simp only [replay, hcall] at hc
        obtain ⟨hdoc, hrel⟩ := replay_snoc hc
        dsimp only
        exact ⟨hdoc, by rw [hrel, Nat.add_assoc]⟩

theorem accepted_covered {cs : List PortfolioCall} (ha : Machine.Accepted (portfolioLedger P o profile)
      (fun d c => Truthful H c.operation ∧ FillsRecorded H d c.operation) (emptyPortfolio profile) cs d) :
    replay (portfolioLedger P o profile) (emptyPortfolio profile) cs = d ∧
      Covered H d (released (portfolioLedger P o profile) (emptyPortfolio profile) cs) := by
  induction ha with
  | nil => exact ⟨rfl, Map.of_empty, Nat.zero_le _⟩
  | @snoc cs mem c next u prior allowed stored ih =>
    obtain ⟨hdoc, hcovered⟩ := ih
    have hstored := stored
    rw [← hdoc] at hstored
    obtain ⟨hnext, hrel⟩ := replay_snoc hstored
    rw [hrel, hdoc]
    exact ⟨hnext, hcovered.wrote (accepted_sound prior) allowed.1 allowed.2 (portfolioLedger_wrote stored)⟩
  | reload prior loaded ih =>
    cases loadPortfolio_ok loaded
    exact ih

/-- In every accepted run that reports the history truthfully and records an order's fills before its inactivity,
the amount at risk, with what recorded sells and exits released, covers what the tracked BUY orders had spent on
chain at their checkpoints and the worst case of what could still fill. -/
theorem at_risk_covers_chain (P : PortfolioProtocol) (profile : OwnerPortfolioProfile) (o : RangeOrder)
    (H : ChainHistory) (cs : List PortfolioCall) (d : PortfolioDocument)
    (ha : Machine.Accepted (portfolioLedger P o profile)
      (fun d c => Truthful H c.operation ∧ FillsRecorded H d c.operation) (emptyPortfolio profile) cs d) :
    d.orders.sumBy (chainExposure P H) ≤
      d.atRisk + released (portfolioLedger P o profile) (emptyPortfolio profile) cs := by
  have hsound := accepted_sound ha
  obtain ⟨-, hcovered⟩ := accepted_covered ha
  have hspent := hcovered.spent
  have hle : d.orders.sumBy (chainExposure P H) ≤ d.orders.sumBy (·.cumulativeSpentAtomic.toNat) + d.pendingRisk := by
    apply Map.sumBy_le_add
    intro digest r hr
    by_cases hside : r.action = .buy
    · exact (hcovered.records hr hside).exposure_le (hsound.reservations hr) hside
    · rw [chainExposure, if_neg hside]
      exact Nat.zero_le _
  unfold PortfolioDocument.atRisk
  omega

namespace Sample

def canceledHistory : ChainHistory := history 4 18 (by decide) true

def cancelEvidence (seqno : UInt64) : PortfolioInactiveEvidence where
  orderDigest := digestA.1
  reason := .canceled
  chainTime := 1
  transactionHash := transaction1
  finalityViewID := view1
  masterchainSeqno := seqno
  quorumFinalized := true

end Sample

open Sample in
/-- The fill is recorded, then the cancellation. -/
theorem canceled_after_recorded_fill :
    let operations :=
  [reserve 1 5 0, .applyFinalizedFill (fillEvidence 7 4 18), .confirmOrderInactive (cancelEvidence 8)]
    let final := (portfolioRun protocol asWritten (owner 50) (operations.map stored)).mem
    final.orders.sumBy (chainExposure protocol canceledHistory) = 18 ∧
      ∃ cs, final.orders.sumBy (chainExposure protocol canceledHistory) ≤
        final.atRisk + released (portfolioLedger protocol asWritten (owner 50)) (emptyPortfolio (owner 50)) cs := by
  intro operations final
  have hall : Along (portfolioLedger protocol asWritten (owner 50)).step
      (Machine.Allowed fun d c => Truthful canceledHistory c.operation ∧ FillsRecorded canceledHistory d c.operation)
      ((portfolioLedger protocol asWritten (owner 50)).start (emptyPortfolio (owner 50)))
      (operations.map stored) := by
    have hdoc : ((portfolioRun protocol asWritten (owner 50)
        [stored (reserve 1 5 0), stored (.applyFinalizedFill (fillEvidence 7 4 18))]).mem.orders.get? digestA.1).map
          (·.filledLots) = some 4 := by decide +kernel
    have hinactive : canceledHistory.inactive 8 digestA.1 = true := by decide +kernel
    refine ⟨⟨?_, trivial⟩, ⟨⟨by decide +kernel, by decide +kernel⟩, trivial⟩, ⟨hinactive, ?_⟩, trivial⟩
    · rintro outcome (rfl | rfl) <;> decide +kernel
    · intro r hr _
      obtain ⟨r', hr', hfilled⟩ := Option.map_eq_some_iff.1 hdoc
      cases hr.symm.trans hr'
      rw [hfilled]
      decide +kernel
  obtain ⟨cs, haccepted⟩ := (Machine.run_consistent portfolioLedger_closed hall).mem
  exact ⟨by decide +kernel, cs, at_risk_covers_chain protocol (owner 50) asWritten canceledHistory cs _ haccepted⟩

open Sample in
/-- The cancellation is recorded first: the spend of the fill before it is not at risk any more, and its evidence is
refused. -/
theorem canceled_before_recorded_fill :
    let operations := [reserve 1 5 0, .confirmOrderInactive (cancelEvidence 8)]
    let final := (portfolioRun protocol asWritten (owner 50) (operations.map stored)).mem
    (∀ op ∈ operations, Truthful canceledHistory op) ∧
      final.orders.sumBy (chainExposure protocol canceledHistory) = 18 ∧
      final.atRisk + released (portfolioLedger protocol asWritten (owner 50)) (emptyPortfolio (owner 50))
        (operations.map call) = 0 ∧
      applyFinalizedFill protocol asWritten true final (fillEvidence 8 4 18) =
        .error "prediction fill conflicts with owner portfolio" := by
  intro operations final
  refine ⟨?_, by decide +kernel, by decide +kernel, failsWith_iff.1 (by decide +kernel)⟩
  intro op hop
  simp only [operations, List.mem_cons, List.not_mem_nil, or_false] at hop
  rcases hop with rfl | rfl
  · rintro outcome (rfl | rfl) <;> decide +kernel
  · show canceledHistory.inactive 8 digestA.1 = true
    decide +kernel

end OpenFox.Prediction
