/-
Which fills of a BUY reservation the ledger can record. Reserving an order reserves its collateral but not
its lots against the owner's position limit, so a fill that happened on chain is accepted exactly when the
limit leaves room for its lots.
-/
import OpenFox.Prediction.PortfolioInvariant

namespace OpenFox.Prediction

open OpenFox.Go OpenFox.Base

/-- Finalized evidence of a fill within a live BUY reservation, at its price or better, not older than what is
recorded. -/
structure ReportsBuy (P : PortfolioProtocol) (d : PortfolioDocument) (evidence : PortfolioFillEvidence)
    (r : PortfolioOrderReservation) : Prop where
  finalized : evidence.quorumFinalized = true
  transaction : canonicalDigest evidence.transactionHash "sha256:" = true
  view : canonicalDigest evidence.finalityViewID "sha256:" = true
  seqno : evidence.masterchainSeqno ≠ 0
  reservation : d.orders.get? evidence.orderDigest = some r
  live : isPortfolioOrderTerminal r.status = false
  side : r.action = .buy
  more : r.filledLots.toNat < evidence.cumulativeFilledLots.toNat
  within : evidence.cumulativeFilledLots.toNat ≤ r.quantityLots.toNat
  spent : r.cumulativeSpentAtomic.toNat ≤ evidence.cumulativeSpentAtomic.toNat
  atLimit : evidence.cumulativeSpentAtomic.toNat - r.cumulativeSpentAtomic.toNat ≤ r.lotCost P * filledDelta evidence r
  nothingEarned : evidence.cumulativeProceedsAtomic = 0
  newer : ∀ p, d.positions.get? (portfolioPositionKey r.marketID r.outcome) = some p →
    p.masterchainSeqno.toNat ≤ evidence.masterchainSeqno.toNat
  after : r.lastMasterchainSeqno.toNat ≤ evidence.masterchainSeqno.toNat

variable {P : PortfolioProtocol} {o : RangeOrder} {profile : OwnerPortfolioProfile} {d : PortfolioDocument}
  {evidence : PortfolioFillEvidence} {r : PortfolioOrderReservation} {p : PositionExposure} {effect : FillEffect}

theorem ReportsBuy.fills (hd : SoundDocument P profile d) (he : ReportsBuy P d evidence r)
    (hp : d.positions.get? (portfolioPositionKey r.marketID r.outcome) = some p) : Fills d evidence r p :=
  { he with
    position := Map.getD_of_get? hp
    proceeds := by
      rw [((hd.reservations he.reservation).buy he.side).noProceeds]
      exact Nat.zero_le _
    newer := he.newer p hp }

/-! ## Totals after a fill -/

theorem heldLots_afterFill (evidence : PortfolioFillEvidence) (effect : FillEffect)
    (hp : d.positions.get? (portfolioPositionKey r.marketID r.outcome) = some p) :
    (afterFill d evidence (portfolioPositionKey r.marketID r.outcome) effect).heldLots + p.lots.toNat =
      effect.position.lots.toNat + d.heldLots :=
  Map.sumBy_put_of_some (fun p : PositionExposure => p.lots.toNat) hp _

theorem positionRisk_afterFill (evidence : PortfolioFillEvidence) (effect : FillEffect)
    (hp : d.positions.get? (portfolioPositionKey r.marketID r.outcome) = some p) :
    (afterFill d evidence (portfolioPositionKey r.marketID r.outcome) effect).positionRisk + p.atRiskAtomic.toNat =
      effect.position.atRiskAtomic.toNat + d.positionRisk :=
  Map.sumBy_put_of_some (fun p : PositionExposure => p.atRiskAtomic.toNat) hp _

theorem pendingRisk_afterFill (effect : FillEffect) (key : PositionKey)
    (hr : d.orders.get? evidence.orderDigest = some r) :
    (afterFill d evidence key effect).pendingRisk + r.pendingRisk =
      (effect.reservation.filledTo evidence).pendingRisk + d.pendingRisk :=
  Map.sumBy_put_of_some (·.pendingRisk) hr _

/-- A live BUY reservation holds the worst case of its unfilled lots; a terminal one holds nothing. -/
theorem BuyTerms.pendingRisk (hr : BuyTerms P r) : r.pendingRisk = r.lotCost P * r.unfilled := by
  unfold PortfolioOrderReservation.pendingRisk
  split
  · rename_i hterminal
    rw [PortfolioOrderReservation.unfilled, if_pos hterminal, Nat.mul_zero]
  · exact hr.pending

section
variable (hd : SoundDocument P profile d)
include hd

/-- A BUY fill at the limit price or better moves risk from the reservation to the position and never adds any. -/
theorem Bought.atRisk_le (hf : Fills d evidence r p) (hside : r.action = .buy)
    (hb : Bought P.toMarketProtocol d evidence r p effect)
    (hlimit : evidence.cumulativeSpentAtomic.toNat - r.cumulativeSpentAtomic.toNat ≤
      r.lotCost P * filledDelta evidence r) :
    (afterFill d evidence (portfolioPositionKey r.marketID r.outcome) effect).atRisk ≤ d.atRisk := by
  have hr := hd.reservations hf.reservation
  have hposition := positionRisk_afterFill evidence effect (hf.recorded hd.linked)
  have hpending := pendingRisk_afterFill effect (portfolioPositionKey r.marketID r.outcome) hf.reservation
  have hbefore : r.pendingRisk = r.lotCost P * (r.quantityLots.toNat - r.filledLots.toNat) := by
    rw [(hr.buy hside).pendingRisk, unfilled_of_live hf.live]
  have hafter : (effect.reservation.filledTo evidence).pendingRisk =
      r.lotCost P * (r.quantityLots.toNat - evidence.cumulativeFilledLots.toNat) := by
    have hside' : (effect.reservation.filledTo evidence).action = .buy := by rw [hb.reservation]; exact hside
    have hcost : (effect.reservation.filledTo evidence).lotCost P = r.lotCost P := by rw [hb.reservation]; rfl
    have hquantity : effect.reservation.quantityLots = r.quantityLots := by rw [hb.reservation]
    rw [((hb.sound hr hf hside).buy hside').pendingRisk, hcost, filledTo_unfilled, hquantity]
  -- the lots that filled leave the reservation at the price they enter the position at most
  have hsplit : r.lotCost P * (r.quantityLots.toNat - r.filledLots.toNat) =
      r.lotCost P * (r.quantityLots.toNat - evidence.cumulativeFilledLots.toNat) +
        r.lotCost P * filledDelta evidence r := by
    have hmore := hf.more
    have hwithin := hf.within
    rw [← Nat.mul_add]
    congr 1
    unfold filledDelta
    omega
  have hrisk := hb.risk
  unfold PortfolioDocument.atRisk
  omega

/-! ## Recording a fill -/

/-- The BUY branch accepts the evidence if the position has room for its lots. -/
theorem ReportsBuy.buyFill (he : ReportsBuy P d evidence r) (hf : Fills d evidence r p)
    (hroom : d.heldLots + filledDelta evidence r ≤ d.profile.maximumPositionLots.toNat) :
    ∃ effect, Prediction.buyFill P d p r evidence = .ok effect := by
  have terms := (hd.reservations he.reservation).buy he.side
  have hp := hf.recorded hd.linked
  have hdelta := toNat_sub_of_le he.more.le
  have hrest := toNat_sub_of_le he.within
  have hspent := toNat_sub_of_le he.spent
  have hcost : ∀ lots, lots ≤ r.quantityLots.toNat → r.lotCost P * lots < 2 ^ 64 := fun lots hlots =>
    (Nat.mul_le_mul_left _ hlots).trans_lt terms.fits
  have hmax := portfolioBuyRisk_of_lt evidence.cumulativeFilledLots terms.priced (hcost _ he.within)
  have hremaining := portfolioBuyRisk_of_lt (r.quantityLots - evidence.cumulativeFilledLots) terms.priced
    (by rw [hrest]; exact hcost _ (Nat.sub_le _ _))
  have hbound : evidence.cumulativeSpentAtomic.toNat ≤ r.lotCost P * evidence.cumulativeFilledLots.toNat := by
    have hsum : r.lotCost P * evidence.cumulativeFilledLots.toNat =
        r.lotCost P * r.filledLots.toNat + r.lotCost P * filledDelta evidence r := by
      rw [← Nat.mul_add, filledDelta, Nat.add_sub_cancel' he.more.le]
    have hlimit := he.atLimit
    have hbefore := terms.spent
    omega
  have hlots : p.lots.toNat + filledDelta evidence r < 2 ^ 64 := by
    have hheld : p.lots.toNat ≤ d.heldLots := Map.le_sumBy (fun p : PositionExposure => p.lots.toNat) hp
    have hmaximum := d.profile.maximumPositionLots.toNat_lt
    omega
  have hrisk : p.atRiskAtomic.toNat + (evidence.cumulativeSpentAtomic.toNat - r.cumulativeSpentAtomic.toNat) <
      2 ^ 64 := by
    have hheld : p.atRiskAtomic.toNat ≤ d.positionRisk :=
      Map.le_sumBy (fun p : PositionExposure => p.atRiskAtomic.toNat) hp
    have hpending : r.pendingRisk ≤ d.pendingRisk := Map.le_sumBy (·.pendingRisk) he.reservation
    have hreserved : r.lotCost P * filledDelta evidence r ≤ r.pendingRisk := by
      rw [terms.pendingRisk, unfilled_of_live he.live, filledDelta]
      exact Nat.mul_le_mul_left _ (Nat.sub_le_sub_right he.within _)
    have hlimit := he.atLimit
    have htotal := hd.limits.atRisk
    have hmaximum := d.profile.maximumAtRiskAtomic.toNat_lt
    unfold PortfolioDocument.atRisk at htotal
    omega
  unfold Prediction.buyFill
  simp only [hmax, hremaining]
  rw [refuse_of_not]
  · exact ⟨_, rfl⟩
  · rw [gt_iff_lt, UInt64.lt_iff_toNat_lt, (portfolioBuyRisk_eq_some.1 hmax).2]
    simp only [passed, not_gt_max_sub, Nat.not_lt, hdelta, hspent]
    exact ⟨hbound, he.nothingEarned, hlots, hrisk⟩

theorem ReportsBuy.accepted (he : ReportsBuy P d evidence r)
    (hroom : d.heldLots + filledDelta evidence r ≤ d.profile.maximumPositionLots.toNat) :
    ∃ next, applyFinalizedFill P o true d evidence = .ok (.store next ()) := by
  obtain ⟨p, hp, -⟩ := hd.linked.placed he.reservation
  have hf := he.fills hd hp
  obtain ⟨effect, heffect⟩ := he.buyFill hd hf hroom
  have hb := buyFill_bought hf heffect
  have hlimits : WithinLimits (afterFill d evidence (portfolioPositionKey r.marketID r.outcome) effect) := by
    have hlots := heldLots_afterFill evidence effect hp
    have hbought := hb.lots
    refine ⟨(hb.atRisk_le hd hf he.side he.atLimit).trans hd.limits.atRisk, ?_⟩
    show _ ≤ d.profile.maximumPositionLots.toNat
    omega
  have hchanged : evidence.cumulativeFilledLots ≠ r.filledLots := by
    intro heq
    have hmore := he.more
    rw [heq] at hmore
    exact lt_irrefl _ hmore
  have hproceeds := ((hd.reservations he.reservation).buy he.side).noProceeds
  refine ⟨afterFill d evidence (portfolioPositionKey r.marketID r.outcome) effect, ?_⟩
  simp only [applyFinalizedFill, he.reservation, peel, hf.position, if_pos he.side, heffect]
  refine ⟨?_, ?_, ?_⟩
  · simp only [passed]
    exact ⟨he.finalized, (hd.reservations he.reservation).identified.canonical, he.transaction, he.view, he.seqno⟩
  · simp only [not_or, he.live, gt_iff_lt, UInt64.lt_iff_toNat_lt, not_lt, hproceeds]
    exact ⟨by simp, by simp, he.more.le, he.within, he.spent, Nat.zero_le _⟩
  · rw [if_neg hchanged]
    simp only [peel, passed, UInt64.lt_iff_toNat_lt, not_lt]
    exact ⟨⟨hf.newer, hf.after⟩, effect, rfl, validatePortfolioTotals_ok.2 hlimits, rfl⟩

end

/-- After any run, finalized evidence of a fill within a live BUY reservation is recorded exactly when the owner's
position limit leaves room for the lots that filled. -/
theorem buy_fill_recorded_iff (P : PortfolioProtocol) (profile : OwnerPortfolioProfile) (o o' : RangeOrder)
    (es : List (MachineEvent PortfolioCall)) (evidence : PortfolioFillEvidence)
    (r : PortfolioOrderReservation) (he : ReportsBuy P (portfolioRun P o profile es).mem evidence r) :
    (∃ next, (portfolioLedger P o profile).call true ⟨o', .applyFinalizedFill evidence⟩
      (portfolioRun P o profile es).mem =
      .ok (.store next ())) ↔
    (portfolioRun P o profile es).mem.heldLots + filledDelta evidence r ≤ profile.maximumPositionLots.toNat := by
  obtain ⟨hd, -⟩ := portfolioRun_sound P o profile es
  generalize (portfolioRun P o profile es).mem = d at he hd
  constructor
  · rintro ⟨next, hnext⟩
    have hlots := (portfolioLedger_sound hd hnext).limits.lots
    rw [(portfolioLedger_sound hd hnext).owner] at hlots
    have hsame : ∀ {r'}, d.orders.get? evidence.orderDigest = some r' → r' = r := fun hr' =>
      Option.some.inj (hr'.symm.trans he.reservation)
    cases portfolioLedger_wrote hnext with
    | @buy _ _ _ effect fills side bought limits =>
      cases hsame fills.reservation
      have hheld := heldLots_afterFill evidence effect (fills.recorded hd.linked)
      have hbought := bought.lots
      omega
    | sell fills side sold limits =>
      cases hsame fills.reservation
      exact absurd he.side side
  · intro hroom
    rw [← hd.owner] at hroom
    obtain ⟨next, hnext⟩ := he.accepted hd hroom
    have hupdate := hnext
    exact ⟨next, portfolioLedger_stores hd hupdate fun _ hq => by cases hq⟩

open Sample in
/-- A bid for ten lots of an owner who may hold `lots`, and the evidence that it filled completely. -/
theorem reported_fill (lots : UInt64) (hlots : lots = 5 ∨ lots = 20) :
    ReportsBuy protocol (portfolioRun protocol asWritten (owner lots) [stored (reserve 1 5 0)]).mem
      (fillEvidence 6 10 50) (request 1 5 0).reservation := by
  have hnewer : ((portfolioRun protocol asWritten (owner lots) [stored (reserve 1 5 0)]).mem.positions.get?
      (portfolioPositionKey market .yes)).all (fun p => p.masterchainSeqno.toNat ≤ 6) = true := by
    rcases hlots with rfl | rfl <;> decide +kernel
  refine
    { finalized := rfl
      transaction := by decide +kernel
      view := by decide +kernel
      seqno := by decide
      reservation := by rcases hlots with rfl | rfl <;> decide +kernel
      live := rfl
      side := rfl
      more := by decide
      within := by decide
      spent := by decide
      atLimit := by decide +kernel
      nothingEarned := rfl
      newer := fun p hp => ?_
      after := by decide }
  have hp' : (portfolioRun protocol asWritten (owner lots) [stored (reserve 1 5 0)]).mem.positions.get?
      (portfolioPositionKey market .yes) = some p := hp
  rw [hp', Option.all_some, decide_eq_true_eq] at hnewer
  exact hnewer

open Sample in
/-- With room for twenty lots the fill is recorded. -/
theorem roomy_fill_recorded :
    ∃ next, (portfolioLedger protocol asWritten (owner 20)).call true
      ⟨asWritten, .applyFinalizedFill (fillEvidence 6 10 50)⟩
      (portfolioRun protocol asWritten (owner 20) [stored (reserve 1 5 0)]).mem = .ok (.store next ()) :=
  (buy_fill_recorded_iff protocol (owner 20) asWritten asWritten _ _ _ (reported_fill 20 (.inr rfl))).2
    (by decide +kernel)

open Sample in
/-- With room for five the same reservation is accepted and its fill refused. -/
theorem reserved_bid_not_absorbed :
    ReportsBuy protocol (portfolioRun protocol asWritten (owner 5) [stored (reserve 1 5 0)]).mem
        (fillEvidence 6 10 50) (request 1 5 0).reservation ∧
      (portfolioRun protocol asWritten (owner 5) [stored (reserve 1 5 0)]).mem.orders.get? digestA.1 =
        some (request 1 5 0).reservation ∧
      applyFinalizedFill protocol asWritten true
        (portfolioRun protocol asWritten (owner 5) [stored (reserve 1 5 0)]).mem (fillEvidence 6 10 50) =
          .error "prediction fill violates owner-wide portfolio limits" := by
  have hreported := reported_fill 5 (.inl rfl)
  exact ⟨hreported, hreported.reservation, failsWith_iff.1 (by decide +kernel)⟩

end OpenFox.Prediction
