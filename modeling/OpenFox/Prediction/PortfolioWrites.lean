/-
What the operations of the portfolio ledger write: the totals as sums over the document, and one case
for each kind of change with the guards it passed, in natural numbers.
-/
import OpenFox.Prediction.Portfolio

namespace OpenFox.Prediction

open OpenFox.Go

/-! ## Totals -/

/-- The collateral a reservation may still take. -/
def PortfolioOrderReservation.pendingRisk (r : PortfolioOrderReservation) : ℕ :=
  if isPortfolioOrderTerminal r.status then 0 else r.pendingCollateralAtomic.toNat

def PortfolioDocument.positionRisk (d : PortfolioDocument) : ℕ := d.positions.sumBy (·.atRiskAtomic.toNat)

def PortfolioDocument.pendingRisk (d : PortfolioDocument) : ℕ := d.orders.sumBy (·.pendingRisk)

def PortfolioDocument.atRisk (d : PortfolioDocument) : ℕ := d.positionRisk + d.pendingRisk

/-- The aggregate lots. -/
def PortfolioDocument.heldLots (d : PortfolioDocument) : ℕ := d.positions.sumBy (·.lots.toNat)

structure WithinLimits (d : PortfolioDocument) : Prop where
  atRisk : d.atRisk ≤ d.profile.maximumAtRiskAtomic.toNat
  lots : d.heldLots ≤ d.profile.maximumPositionLots.toNat

variable {o : RangeOrder} {d : PortfolioDocument} {r : PortfolioOrderReservation} {snapshot : PortfolioMarketSnapshot}
  {u : Unit}

variable {base : PositionExposure} {outcome : Outcome} {lots : UInt64}

theorem portfolioTotals_eq_some {atRisk : UInt64} :
    portfolioTotals o d = some (atRisk, lots) ↔ atRisk.toNat = d.atRisk ∧ lots.toNat = d.heldLots := by
  -- skipping a terminal order adds nothing
  have hskip : (fun t (e : (_ : String) × PortfolioOrderReservation) =>
        if isPortfolioOrderTerminal e.2.status then some t else addUint64 t e.2.pendingCollateralAtomic) =
      fun t e => addUint64 t (if isPortfolioOrderTerminal e.2.status then 0 else e.2.pendingCollateralAtomic) := by
    funext t e
    split
    · exact (addUint64_eq_some.2 (by simp)).symm
    · rfl
  have hpending : ((d.orders.range o 1).map fun e => (if isPortfolioOrderTerminal e.2.status then (0 : UInt64)
      else e.2.pendingCollateralAtomic).toNat).sum = d.pendingRisk := by
    rw [PortfolioDocument.pendingRisk, ← Map.sumBy_range o 1]
    congr 2
    funext e
    unfold PortfolioOrderReservation.pendingRisk
    split <;> rfl
  have hsums : ∀ totals,
      (d.positions.range o 0).foldlM (fun s e => do
        pure (← addUint64 s.1 e.2.atRiskAtomic, ← addUint64 s.2 e.2.lots)) (0, 0) = some totals ↔
      totals.1.toNat = d.positionRisk ∧ totals.2.toNat = d.heldLots := by
    intro totals
    refine (pairLoop_eq_some (f := fun t (e : (_ : PositionKey) × PositionExposure) => addUint64 t e.2.atRiskAtomic)
      (g := fun t e => addUint64 t e.2.lots)).trans ?_
    rw [addLoop_eq_some, addLoop_eq_some, Map.sumBy_range o 0 (fun p : PositionExposure => p.atRiskAtomic.toNat),
      Map.sumBy_range o 0 (fun p : PositionExposure => p.lots.toNat)]
    simp [PortfolioDocument.positionRisk, PortfolioDocument.heldLots]
  unfold portfolioTotals
  simp only [Option.bind_eq_bind, Option.bind_eq_some_iff, Option.pure_def, Option.some.injEq, Prod.mk.injEq]
  constructor
  · rintro ⟨totals, htotals, sum, hsum, rfl, rfl⟩
    obtain ⟨hrisk, hlots⟩ := (hsums totals).1 htotals
    rw [hskip, addLoop_eq_some, hpending] at hsum
    exact ⟨by rw [hsum, hrisk, PortfolioDocument.atRisk], hlots⟩
  · rintro ⟨hrisk, hlots⟩
    have hfit : d.positionRisk < 2 ^ 64 := by
      have := atRisk.toNat_lt
      unfold PortfolioDocument.atRisk at hrisk
      omega
    refine ⟨(UInt64.ofNat d.positionRisk, lots), (hsums _).2 ⟨UInt64.toNat_ofNat_of_lt' hfit, hlots⟩, atRisk,
      ?_, rfl, rfl⟩
    rw [hskip, addLoop_eq_some, hpending, UInt64.toNat_ofNat_of_lt' hfit, hrisk, PortfolioDocument.atRisk]

theorem validatePortfolioTotals_ok : validatePortfolioTotals o d = .ok () ↔ WithinLimits d := by
  have hrisk := d.profile.maximumAtRiskAtomic.toNat_lt
  have hlots := d.profile.maximumPositionLots.toNat_lt
  unfold validatePortfolioTotals
  split
  · rename_i hnone
    simp only [reduceCtorEq, false_iff]
    intro hw
    have hsome : portfolioTotals o d = some (UInt64.ofNat d.atRisk, UInt64.ofNat d.heldLots) :=
      portfolioTotals_eq_some.2 ⟨UInt64.toNat_ofNat_of_lt' (hw.atRisk.trans_lt hrisk),
        UInt64.toNat_ofNat_of_lt' (hw.lots.trans_lt hlots)⟩
    rw [hnone] at hsome
    cases hsome
  · rename_i atRisk lots hsome
    obtain ⟨ha, hl⟩ := portfolioTotals_eq_some.1 hsome
    rw [refuse_ok, not_or, gt_iff_lt, gt_iff_lt, UInt64.lt_iff_toNat_lt, UInt64.lt_iff_toNat_lt, ha, hl]
    exact ⟨fun h => ⟨by omega, by omega⟩, fun h => ⟨by have := h.atRisk; omega, by have := h.lots; omega⟩⟩

/-! ## What a snapshot imports -/

def PortfolioDocument.orderMarkets (d : PortfolioDocument) : Finset String :=
  (d.orders.entries.map fun e => e.2.marketID).toFinset

/-- The position a snapshot is compared with. -/
def importBase (positions : Map PositionKey PositionExposure) (snapshot : PortfolioMarketSnapshot)
    (outcome : Outcome) : PositionExposure :=
  positions.getD (portfolioPositionKey snapshot.marketID outcome) (snapshot.newPosition outcome)

/-- What an accepted snapshot is to a position that was recorded. -/
structure Continues (snapshot : PortfolioMarketSnapshot) (outcome : Outcome) (old : PositionExposure) : Prop where
  address : old.marketAddress = snapshot.marketAddress
  config : old.marketConfigHash = snapshot.marketConfigHash
  code : old.contractCodeHash = snapshot.contractCodeHash
  seqno : old.masterchainSeqno.toNat ≤ snapshot.masterchainSeqno.toNat
  lots : old.lots.toNat ≤ (snapshot.lots outcome).toNat

structure Imported (snapshot : PortfolioMarketSnapshot) (outcome : Outcome)
    (before after : Map PositionKey PositionExposure) (p : PositionExposure) : Prop where
  put : after = before.put (portfolioPositionKey snapshot.marketID outcome) p
  continues : Continues snapshot outcome (importBase before snapshot outcome)
  position : p = { importBase before snapshot outcome with
    lots := snapshot.lots outcome, atRiskAtomic := p.atRiskAtomic, masterchainSeqno := snapshot.masterchainSeqno,
    finalityViewID := snapshot.finalityViewID }
  risk : p.atRiskAtomic.toNat = (importBase before snapshot outcome).atRiskAtomic.toNat +
    ((snapshot.lots outcome).toNat - (importBase before snapshot outcome).lots.toNat) * snapshot.lotPayout.toNat

theorem comparedPosition_ok {recorded : Option PositionExposure}
    (hc : comparedPosition recorded snapshot outcome = .ok base) :
    base = recorded.getD (snapshot.newPosition outcome) ∧ Continues snapshot outcome base := by
  unfold comparedPosition at hc
  split at hc
  · rw [pure_ok] at hc
    subst hc
    exact ⟨rfl, rfl, rfl, rfl, Nat.zero_le _, Nat.zero_le _⟩
  · simp only [peel, passed, UInt64.not_lt] at hc
    obtain ⟨⟨address, config, code⟩, seqno, -, lots, rfl⟩ := hc
    exact ⟨rfl, address, config, code, UInt64.le_iff_toNat_le.1 seqno, UInt64.le_iff_toNat_le.1 lots⟩

theorem importLots_ok {moved : PositionExposure} {lotPayout : UInt64} (hle : base.lots.toNat ≤ lots.toNat)
    (hm : importLots base lots lotPayout = .ok moved) :
    moved = { base with lots := lots, atRiskAtomic := moved.atRiskAtomic } ∧
      moved.atRiskAtomic.toNat = base.atRiskAtomic.toNat + (lots.toNat - base.lots.toNat) * lotPayout.toNat := by
  have hdelta := toNat_sub_of_le hle
  unfold importLots at hm
  dsimp only at hm
  split at hm
  · rename_i hzero
    rw [pure_ok] at hm
    subst hm
    rw [← toNat_eq_zero, hdelta] at hzero
    have heq : lots = base.lots := UInt64.toNat_inj.1 (by omega)
    exact ⟨by rw [heq], by rw [hzero]; simp⟩
  · split at hm
    · cases hm
    · rename_i risk hrisk
      rw [pure_ok] at hm
      subst hm
      obtain ⟨additional, hmul, hadd⟩ := Option.bind_eq_some_iff.1 hrisk
      rw [multiplyUint64_eq_some, hdelta] at hmul
      rw [addUint64_eq_some, hmul] at hadd
      exact ⟨rfl, hadd⟩

theorem reconcile_imported {before after : Map PositionKey PositionExposure}
    (hr : reconcilePortfolioPosition before snapshot outcome = .ok after) :
    ∃ p, Imported snapshot outcome before after p := by
  simp only [reconcilePortfolioPosition, peel] at hr
  obtain ⟨base, hbase, moved, hmoved, hafter⟩ := hr
  obtain ⟨hbase, hcont⟩ := comparedPosition_ok hbase
  obtain ⟨hmoved', hrisk⟩ := importLots_ok hcont.lots hmoved
  have hseq : moved.masterchainSeqno = base.masterchainSeqno := by rw [hmoved']
  rw [if_pos (by rw [hseq]; exact UInt64.le_iff_toNat_le.2 hcont.seqno)] at hafter
  have hdef : importBase before snapshot outcome = base := hbase.symm
  refine ⟨{ moved with masterchainSeqno := snapshot.masterchainSeqno, finalityViewID := snapshot.finalityViewID },
    hafter.symm, ?_, ?_, ?_⟩
  · rw [hdef]; exact hcont
  · rw [hdef]
    conv => lhs; rw [hmoved']
  · rw [hdef]; exact hrisk

/-- A snapshot is refused by the comparison with the recorded position, or because the risk of its lots overflows. -/
theorem reconcile_error {positions : Map PositionKey PositionExposure} {e : String}
    (h : reconcilePortfolioPosition positions snapshot outcome = .error e) :
    comparedPosition (positions.get? (portfolioPositionKey snapshot.marketID outcome)) snapshot outcome = .error e ∨
      "prediction imported position risk overflows" = e := by
  rw [reconcilePortfolioPosition, bind_error] at h
  refine h.imp_right fun ⟨base, _, h⟩ => ?_
  rcases bind_error.1 h with h | ⟨moved, -, h⟩
  · unfold importLots at h
    dsimp only at h
    split at h
    · cases h
    · split at h <;> cases h
      rfl
  · cases h

/-! ## Capacity of a reservation -/

theorem addPending_markets {prior : PortfolioOrderReservation} {s s' : MarketPending}
    (ha : addPending r s prior = .ok s') : s'.markets = insert prior.marketID s.markets := by
  unfold addPending at ha
  split at ha
  · cases ha; rfl
  · split at ha
    · obtain ⟨_, _, rfl⟩ := map_ok.1 ha; rfl
    · split at ha
      · obtain ⟨_, _, rfl⟩ := map_ok.1 ha; rfl
      · cases ha; rfl

theorem addPending_loop :
    ∀ {l : List ((_ : String) × PortfolioOrderReservation)} {s s'},
      l.foldlM (fun s e => addPending r s e.2) s = .ok s' →
      s'.markets = s.markets ∪ (l.map fun e => e.2.marketID).toFinset
  | [], s, s', hl => by
    rw [List.foldlM_nil, pure_ok] at hl
    simp [hl]
  | e :: l, s, s', hl => by
    rw [List.foldlM_cons, bind_ok] at hl
    obtain ⟨s₁, hround, hl⟩ := hl
    rw [addPending_loop hl, addPending_markets hround]
    simp [Finset.insert_union, Finset.union_insert]

theorem checkCapacity_ok (hc : checkPortfolioReservationCapacity o d r snapshot = .ok ()) :
    UInt32.ofNat (insert r.marketID d.orderMarkets).card ≤ d.profile.maximumMarkets ∧
      WithinLimits { d with orders := d.orders.put r.orderDigest r } := by
  simp only [checkPortfolioReservationCapacity, peel, gt_iff_lt, UInt32.not_lt] at hc
  obtain ⟨pending, hloop, hmarkets, -, -, hlimits⟩ := hc
  have hperm : ((d.orders.range o 4).map fun e => e.2.marketID).toFinset = d.orderMarkets :=
    List.toFinset_eq_of_perm _ _ ((Map.range_perm o 4 d.orders).map _)
  rw [addPending_loop hloop, hperm, Finset.singleton_union] at hmarkets
  exact ⟨hmarkets, validatePortfolioTotals_ok.1 hlimits⟩

/-! ## Exits -/

theorem releasedShare_fits (atRisk : UInt64) {lots sold : UInt64} (hle : sold.toNat ≤ lots.toNat) :
    (atRisk / lots * sold).toNat = atRisk.toNat / lots.toNat * sold.toNat ∧
      (atRisk / lots * sold).toNat ≤ atRisk.toNat := by
  have hshare := (Nat.mul_le_mul_left (atRisk.toNat / lots.toNat) hle).trans (Nat.div_mul_le_self _ _)
  rw [UInt64.toNat_mul, UInt64.toNat_div, Nat.mod_eq_of_lt (hshare.trans_lt atRisk.toNat_lt)]
  exact ⟨rfl, hshare⟩

theorem remainingPositionRisk_toNat (atRisk lots sold : UInt64) :
    (remainingPositionRisk atRisk lots sold).toNat =
      if lots.toNat ≤ sold.toNat then 0 else atRisk.toNat - atRisk.toNat / lots.toNat * sold.toNat := by
  unfold remainingPositionRisk
  simp only [ge_iff_le, UInt64.le_iff_toNat_le]
  split
  · rfl
  · rename_i hlt
    obtain ⟨hfit, hshare⟩ := releasedShare_fits atRisk (Nat.le_of_not_le hlt)
    rw [toNat_sub_of_le hshare, hfit]

/-- What is at risk and the lots left after exits one after another. -/
def applyExits (atRisk lots : UInt64) (exits : List UInt64) : UInt64 × UInt64 :=
  exits.foldl (fun p sold => (remainingPositionRisk p.1 p.2 sold, p.2 - sold)) (atRisk, lots)

/-- The share released is rounded down, so what is left is at least the share of the lots left. -/
theorem remainingPositionRisk_share (atRisk lots sold : UInt64) :
    (remainingPositionRisk atRisk lots sold).toNat ≤ atRisk.toNat ∧
      atRisk.toNat * (lots.toNat - sold.toNat) ≤ (remainingPositionRisk atRisk lots sold).toNat * lots.toNat := by
  rw [remainingPositionRisk_toNat]
  split
  · simp [Nat.sub_eq_zero_of_le, *]
  · have hfloor : atRisk.toNat / lots.toNat * sold.toNat * lots.toNat ≤ atRisk.toNat * sold.toNat := by
      rw [Nat.mul_right_comm]
      exact Nat.mul_le_mul_right _ (Nat.div_mul_le_self _ _)
    rw [Nat.mul_sub, Nat.sub_mul]
    exact ⟨Nat.sub_le _ _, Nat.sub_le_sub_left hfloor _⟩

/-- The position after exits: the lots left, and at least their share of the first amount at risk. -/
theorem applyExits_share (atRisk : UInt64) {lots : UInt64} :
    ∀ {exits : List UInt64}, (exits.map (·.toNat)).sum ≤ lots.toNat →
      (applyExits atRisk lots exits).2.toNat = lots.toNat - (exits.map (·.toNat)).sum ∧
      atRisk.toNat * (applyExits atRisk lots exits).2.toNat ≤ (applyExits atRisk lots exits).1.toNat * lots.toNat := by
  intro exits
  induction exits using List.reverseRecOn with
  | nil => exact fun _ => ⟨rfl, le_rfl⟩
  | append_singleton exits sold ih =>
    rw [List.map_append, List.sum_append, List.map_singleton, List.sum_singleton]
    intro htotal
    obtain ⟨hlots, hshare⟩ := ih (by omega)
    rw [applyExits, List.foldl_append, List.foldl_cons, List.foldl_nil, ← applyExits]
    generalize applyExits atRisk lots exits = p at *
    have hsold : sold.toNat ≤ p.2.toNat := by omega
    have hstep := (remainingPositionRisk_share p.1 p.2 sold).2
    dsimp only
    rw [toNat_sub_of_le hsold]
    refine ⟨by omega, ?_⟩
    rcases Nat.eq_zero_or_pos p.2.toNat with hzero | hpos
    · simp [hzero]
    · refine Nat.le_of_mul_le_mul_right ?_ hpos
      calc atRisk.toNat * (p.2.toNat - sold.toNat) * p.2.toNat
          = atRisk.toNat * p.2.toNat * (p.2.toNat - sold.toNat) := Nat.mul_right_comm _ _ _
        _ ≤ p.1.toNat * lots.toNat * (p.2.toNat - sold.toNat) := Nat.mul_le_mul_right _ hshare
        _ = p.1.toNat * (p.2.toNat - sold.toNat) * lots.toNat := Nat.mul_right_comm _ _ _
        _ ≤ _ := Nat.mul_le_mul_right _ hstep
        _ = _ := Nat.mul_right_comm _ _ _

/-- Every exit is computed without overflow or underflow and does not raise the amount at risk, which never falls
below the share of the lots left and is zero once no lot is left. -/
theorem position_risk_released_conservatively (atRisk lots : UInt64) (hlots : 0 < lots) (exits : List UInt64)
    (htotal : (exits.map (·.toNat)).sum ≤ lots.toNat) :
    (∀ done sold rest, exits = done ++ sold :: rest →
      let p := applyExits atRisk lots done
      sold.toNat ≤ p.2.toNat ∧ (p.1 / p.2 * sold).toNat = p.1.toNat / p.2.toNat * sold.toNat ∧
        p.1 / p.2 * sold ≤ p.1 ∧ remainingPositionRisk p.1 p.2 sold ≤ p.1) ∧
    atRisk.toNat * (lots.toNat - (exits.map (·.toNat)).sum) ≤ (applyExits atRisk lots exits).1.toNat * lots.toNat ∧
    ((exits.map (·.toNat)).sum = lots.toNat → (applyExits atRisk lots exits).1 = 0) := by
  refine ⟨?_, ?_, ?_⟩
  · rintro done sold rest rfl p
    simp only [List.map_append, List.sum_append, List.map_cons, List.sum_cons] at htotal
    have hleft : p.2.toNat = _ := (applyExits_share atRisk (show (done.map (·.toNat)).sum ≤ lots.toNat by omega)).1
    have hsold : sold.toNat ≤ p.2.toNat := by omega
    obtain ⟨hfit, hshare⟩ := releasedShare_fits p.1 hsold
    refine ⟨hsold, hfit, UInt64.le_iff_toNat_le.2 hshare, UInt64.le_iff_toNat_le.2 ?_⟩
    exact (remainingPositionRisk_share p.1 p.2 sold).1
  · obtain ⟨hleft, hshare⟩ := applyExits_share atRisk htotal
    rwa [hleft] at hshare
  · intro hall
    -- the last exit takes all lots that were left
    rcases List.eq_nil_or_concat exits with rfl | ⟨done, sold, rfl⟩
    · exact absurd hall.symm (UInt64.lt_iff_toNat_lt.1 hlots).ne'
    · rw [List.concat_eq_append] at hall ⊢
      rw [List.map_append, List.sum_append, List.map_singleton, List.sum_singleton] at hall
      have hleft := (applyExits_share atRisk (show (done.map (·.toNat)).sum ≤ lots.toNat by omega)).1
      rw [applyExits, List.foldl_append, List.foldl_cons, List.foldl_nil, ← applyExits]
      refine toNat_eq_zero.1 ?_
      rw [remainingPositionRisk_toNat, if_pos (by omega)]

/-- Ten at risk on three lots: two exits of one lot leave seven and four at risk, the third nothing. -/
theorem three_exits_release :
    applyExits 10 3 [1, 1, 1] = (0, 0) ∧ 10 * (3 - 2) ≤ (applyExits 10 3 [1, 1]).1.toNat * 3 :=
  ⟨by decide +kernel, (position_risk_released_conservatively 10 3 (by decide) [1, 1] (by decide)).2.1⟩

/-! ## Fills -/

/-- What a fill is checked for whatever its side: the reservation is live and the evidence continues it. -/
structure Fills (d : PortfolioDocument) (evidence : PortfolioFillEvidence) (r : PortfolioOrderReservation)
    (p : PositionExposure) : Prop where
  reservation : d.orders.get? evidence.orderDigest = some r
  live : isPortfolioOrderTerminal r.status = false
  position : d.positions.getD (portfolioPositionKey r.marketID r.outcome) {} = p
  transaction : canonicalDigest evidence.transactionHash "sha256:" = true
  view : canonicalDigest evidence.finalityViewID "sha256:" = true
  seqno : evidence.masterchainSeqno ≠ 0
  more : r.filledLots.toNat < evidence.cumulativeFilledLots.toNat
  within : evidence.cumulativeFilledLots.toNat ≤ r.quantityLots.toNat
  spent : r.cumulativeSpentAtomic.toNat ≤ evidence.cumulativeSpentAtomic.toNat
  proceeds : r.cumulativeProceedsAtomic.toNat ≤ evidence.cumulativeProceedsAtomic.toNat
  newer : p.masterchainSeqno.toNat ≤ evidence.masterchainSeqno.toNat
  after : r.lastMasterchainSeqno.toNat ≤ evidence.masterchainSeqno.toNat

/-- The lots a fill adds to what the reservation has recorded. -/
def filledDelta (evidence : PortfolioFillEvidence) (r : PortfolioOrderReservation) : ℕ :=
  evidence.cumulativeFilledLots.toNat - r.filledLots.toNat

/-- A BUY fill: lots and what was spent go to the position, the rest stays reserved. -/
structure Bought (P : MarketProtocol) (d : PortfolioDocument) (evidence : PortfolioFillEvidence)
    (r : PortfolioOrderReservation) (p : PositionExposure) (effect : FillEffect) : Prop where
  position : effect.position =
    { p with lots := effect.position.lots, atRiskAtomic := effect.position.atRiskAtomic }
  reservation : effect.reservation = { r with pendingCollateralAtomic := effect.reservation.pendingCollateralAtomic }
  proceeds : effect.proceeds = d.finalizedProceedsAtomic
  priced : Priced P r.lotPayout r.limitPriceTick
  bounded : evidence.cumulativeSpentAtomic.toNat ≤
    lotCost P r.lotPayout r.limitPriceTick * evidence.cumulativeFilledLots.toNat
  nothingEarned : evidence.cumulativeProceedsAtomic = 0
  lots : effect.position.lots.toNat = p.lots.toNat + filledDelta evidence r
  risk : effect.position.atRiskAtomic.toNat =
    p.atRiskAtomic.toNat + (evidence.cumulativeSpentAtomic.toNat - r.cumulativeSpentAtomic.toNat)
  pending : effect.reservation.pendingCollateralAtomic.toNat =
    lotCost P r.lotPayout r.limitPriceTick * (r.quantityLots.toNat - evidence.cumulativeFilledLots.toNat)

/-- A SELL fill: lots leave the position with their share of its risk, the proceeds are finalized. -/
structure Sold (d : PortfolioDocument) (evidence : PortfolioFillEvidence)
    (r : PortfolioOrderReservation) (p : PositionExposure) (effect : FillEffect) : Prop where
  position : effect.position =
    { p with lots := effect.position.lots, atRiskAtomic := effect.position.atRiskAtomic }
  reservation : effect.reservation = { r with pendingPositionLots := effect.reservation.pendingPositionLots }
  nothingSpent : evidence.cumulativeSpentAtomic = 0
  lots : effect.position.lots.toNat + filledDelta evidence r = p.lots.toNat
  risk : effect.position.atRiskAtomic = remainingPositionRisk p.atRiskAtomic p.lots (p.lots - effect.position.lots)
  pending : effect.reservation.pendingPositionLots.toNat =
    r.quantityLots.toNat - evidence.cumulativeFilledLots.toNat
  proceeds : effect.proceeds.toNat = d.finalizedProceedsAtomic.toNat +
    (evidence.cumulativeProceedsAtomic.toNat - r.cumulativeProceedsAtomic.toNat)

variable {P : PortfolioProtocol} {evidence : PortfolioFillEvidence}
  {r : PortfolioOrderReservation} {p : PositionExposure} {effect : FillEffect}

theorem buyFill_bought (hf : Fills d evidence r p) (hb : buyFill P d p r evidence = .ok effect) :
    Bought P.toMarketProtocol d evidence r p effect := by
  have hdelta := toNat_sub_of_le hf.more.le
  have hspent := toNat_sub_of_le hf.spent
  have hrest := toNat_sub_of_le hf.within
  unfold buyFill at hb
  split at hb
  · cases hb
  · rename_i maximumSpent hmax
    simp only [peel, passed, not_gt_max_sub] at hb
    obtain ⟨⟨hbound, hearned, hlots, hrisk⟩, hb⟩ := hb
    split at hb
    · cases hb
    · rename_i remainingRisk hremaining
      rw [pure_ok] at hb
      subst hb
      rw [portfolioBuyRisk_eq_some] at hmax hremaining
      rw [gt_iff_lt, UInt64.lt_iff_toNat_lt, not_lt, hmax.2] at hbound
      exact
        { position := rfl
          reservation := rfl
          proceeds := rfl
          priced := hmax.1
          bounded := hbound
          nothingEarned := hearned
          lots := by dsimp only; rw [toNat_add_of_lt hlots, hdelta, filledDelta]
          risk := by dsimp only; rw [toNat_add_of_lt hrisk, hspent]
          pending := by dsimp only; rw [hremaining.2, hrest] }

theorem sellFill_sold (hf : Fills d evidence r p) (hs : sellFill d p r evidence = .ok effect) :
    Sold d evidence r p effect := by
  have hdelta := toNat_sub_of_le hf.more.le
  have hrest := toNat_sub_of_le hf.within
  have hearned := toNat_sub_of_le hf.proceeds
  simp only [sellFill, peel, passed, not_gt_max_sub] at hs
  obtain ⟨⟨hspent, hlots⟩, hproceeds, rfl⟩ := hs
  rw [UInt64.lt_iff_toNat_lt, not_lt] at hlots
  have hsub := toNat_sub_of_le hlots
  exact
    { position := rfl
      reservation := rfl
      nothingSpent := hspent
      lots := by dsimp only [filledDelta]; rw [hsub, hdelta]; omega
      risk := by
        have hsold : p.lots - (p.lots - (evidence.cumulativeFilledLots - r.filledLots)) =
            evidence.cumulativeFilledLots - r.filledLots := by
          rw [← UInt64.toNat_inj, toNat_sub_of_le (by rw [hsub]; omega), hsub]
          omega
        rw [hsold]
      pending := by dsimp only; rw [hrest]
      proceeds := by dsimp only; rw [toNat_add_of_lt hproceeds, hearned] }

/-! ## What an operation writes -/

/-- A reservation request inside its ledger's market domain. -/
structure Reserves (P : PortfolioProtocol) (d : PortfolioDocument) (q : ReserveRequest) : Prop where
  agent : q.agentID ≠ ""
  market : canonicalDigest q.marketID "sha256:" = true
  code : canonicalDigest q.contractCodeHash "tvm-cell-sha256:" = true
  sameMarket : q.snapshot.marketID = q.marketID
  sameAddress : q.snapshot.marketAddress = q.order.marketAddress
  sameConfig : q.snapshot.marketConfigHash = q.order.marketConfigHash.1
  sameCode : q.snapshot.contractCodeHash = q.contractCodeHash
  payout : q.snapshot.lotPayout ≠ 0
  seqno : q.snapshot.masterchainSeqno ≠ 0
  view : canonicalDigest q.snapshot.finalityViewID "sha256:" = true
  risk : portfolioRisk P q.order q.snapshot.lotPayout = some q.risk
  absent : d.orders.get? q.risk.orderDigest = none
  room : UInt32.ofNat d.orders.entries.length < d.profile.maximumOrderReservations
  markets : UInt32.ofNat (insert q.marketID d.orderMarkets).card ≤ d.profile.maximumMarkets

def ReserveRequest.reservation (q : ReserveRequest) : PortfolioOrderReservation :=
  reservationFromOrder q.agentID q.marketID q.contractCodeHash q.order q.risk q.snapshot

/-- One case for each change an operation can make to the document. -/
inductive Wrote (P : PortfolioProtocol) (d : PortfolioDocument) : PortfolioOperation → PortfolioDocument → Prop
  | reserve {q : ReserveRequest} {yes no : Map PositionKey PositionExposure} {pYes pNo : PositionExposure}
    (reserves : Reserves P d q) (importYes : Imported q.snapshot .yes d.positions yes pYes)
    (importNo : Imported q.snapshot .no yes no pNo)
    (limits : WithinLimits { d with positions := no, orders := d.orders.put q.risk.orderDigest q.reservation }) :
    Wrote P d (.reserveOrder q) { d with
      positions := no, revision := d.revision + 1, orders := d.orders.put q.risk.orderDigest q.reservation }
  | mark {orderDigest : String} {state : PortfolioOrderStatus} {r : PortfolioOrderReservation}
    (reservation : d.orders.get? orderDigest = some r) (live : isPortfolioOrderTerminal r.status = false)
    (pending : state = .broadcasting ∨ state = .ambiguous) :
    Wrote P d (.markOrderBroadcastState orderDigest state) { d with
      revision := d.revision + 1, orders := d.orders.put orderDigest { r with status := state } }
  | buy {evidence : PortfolioFillEvidence} {r : PortfolioOrderReservation} {p : PositionExposure} {effect : FillEffect}
    (fills : Fills d evidence r p) (side : r.action = .buy) (bought : Bought P.toMarketProtocol d evidence r p effect)
    (limits : WithinLimits (afterFill d evidence (portfolioPositionKey r.marketID r.outcome) effect)) :
    Wrote P d (.applyFinalizedFill evidence) (afterFill d evidence (portfolioPositionKey r.marketID r.outcome) effect)
  | sell {evidence : PortfolioFillEvidence} {r : PortfolioOrderReservation} {p : PositionExposure} {effect : FillEffect}
    (fills : Fills d evidence r p) (side : r.action ≠ .buy) (sold : Sold d evidence r p effect)
    (limits : WithinLimits (afterFill d evidence (portfolioPositionKey r.marketID r.outcome) effect)) :
    Wrote P d (.applyFinalizedFill evidence) (afterFill d evidence (portfolioPositionKey r.marketID r.outcome) effect)
  | exit {evidence : PortfolioPositionExitEvidence} {p : PositionExposure}
    (position : d.positions.get? (portfolioPositionKey evidence.marketID evidence.outcome) = some p)
    (transaction : canonicalDigest evidence.transactionHash "sha256:" = true)
    (view : canonicalDigest evidence.finalityViewID "sha256:" = true) (seqno : evidence.masterchainSeqno ≠ 0)
    (fewer : evidence.remainingLots.toNat ≤ p.lots.toNat)
    (newer : p.masterchainSeqno.toNat < evidence.masterchainSeqno.toNat) :
    Wrote P d (.applyFinalizedPositionExit evidence) { d with
      revision := d.revision + 1
      positions := d.positions.put (portfolioPositionKey evidence.marketID evidence.outcome)
        (({ p with
          atRiskAtomic := remainingPositionRisk p.atRiskAtomic p.lots (p.lots - evidence.remainingLots)
          lots := evidence.remainingLots } : PositionExposure).at
            evidence.masterchainSeqno evidence.finalityViewID evidence.transactionHash) }
  | inactive {evidence : PortfolioInactiveEvidence} {r : PortfolioOrderReservation}
    (reservation : d.orders.get? evidence.orderDigest = some r) (live : isPortfolioOrderTerminal r.status = false)
    (transaction : canonicalDigest evidence.transactionHash "sha256:" = true)
    (view : canonicalDigest evidence.finalityViewID "sha256:" = true) (seqno : evidence.masterchainSeqno ≠ 0)
    (newer : r.lastMasterchainSeqno.toNat ≤ evidence.masterchainSeqno.toNat) :
    Wrote P d (.confirmOrderInactive evidence) { d with
      revision := d.revision + 1
      orders := d.orders.put evidence.orderDigest
        (({ r with
          pendingCollateralAtomic := 0, pendingPositionLots := 0
          status := inactiveStatus evidence.reason } : PortfolioOrderReservation).at
            evidence.masterchainSeqno evidence.finalityViewID evidence.transactionHash) }

section Inversion

variable {opened : Bool} {next : PortfolioDocument}

theorem reserveOrder_wrote {q : ReserveRequest} {v : PortfolioOrderReservation × PortfolioReservationProof}
    (hr : reserveOrder P o opened d q = .ok (.store next v)) : Wrote P d (.reserveOrder q) next := by
  simp only [reserveOrder, validatePortfolioMarketSnapshot, peel, passed] at hr
  obtain ⟨⟨-, agent, -, market, code⟩, -, -, ⟨-, -, -, sameMarket, sameAddress, sameConfig, sameCode, payout,
    seqno, -, view⟩, risk, hr⟩ := hr
  split at hr
  · simp only [peel] at hr
    obtain ⟨-, -, proof, -, hstore⟩ := hr
    cases hstore
  · rename_i absent
    simp only [peel, ge_iff_le, UInt32.not_le] at hr
    obtain ⟨room, yes, hyes, no, hno, capacity, proof, -, hstore⟩ := hr
    cases hstore
    obtain ⟨pYes, importYes⟩ := reconcile_imported hyes
    obtain ⟨pNo, importNo⟩ := reconcile_imported hno
    obtain ⟨markets, limits⟩ := checkCapacity_ok capacity
    exact .reserve ⟨agent, market, code, sameMarket, sameAddress, sameConfig, sameCode, payout, seqno, view,
      risk, absent, room, markets⟩ importYes importNo limits

theorem markOrderBroadcastState_wrote {orderDigest : String} {state : PortfolioOrderStatus}
    (hm : markOrderBroadcastState opened d orderDigest state = .ok (.store next u)) :
    Wrote P d (.markOrderBroadcastState orderDigest state) next := by
  simp only [markOrderBroadcastState, peel] at hm
  obtain ⟨pending, hm⟩ := hm
  split at hm
  · cases hm
  · rename_i r reservation
    simp only [peel, not_or, Bool.not_eq_true] at hm
    obtain ⟨⟨-, live⟩, hm⟩ := hm
    split at hm
    · cases hm
    · cases hm
      refine .mark reservation live ?_
      by_cases h : state = .broadcasting
      · exact .inl h
      · exact .inr (not_not.1 fun h' => pending ⟨h, h'⟩)

theorem applyFinalizedFill_wrote (ha : applyFinalizedFill P o opened d evidence = .ok (.store next u)) :
    Wrote P d (.applyFinalizedFill evidence) next := by
  simp only [applyFinalizedFill, peel, passed] at ha
  obtain ⟨⟨-, -, transaction, view, seqno⟩, ha⟩ := ha
  split at ha
  · cases ha
  · rename_i r reservation
    simp only [peel, not_or, Bool.not_eq_true, gt_iff_lt, UInt64.not_lt, UInt64.le_iff_toNat_le] at ha
    obtain ⟨⟨-, live, filled, within, spent, proceeds⟩, ha⟩ := ha
    split at ha
    · simp only [peel] at ha
      obtain ⟨-, hstore⟩ := ha
      cases hstore
    · rename_i changed
      simp only [peel, not_or, UInt64.not_lt, UInt64.le_iff_toNat_le] at ha
      obtain ⟨⟨newer, after⟩, ha⟩ := ha
      have more := lt_of_le_of_ne filled fun h => changed (UInt64.toNat_inj.1 h.symm)
      have fills : Fills d evidence r (d.positions.getD (portfolioPositionKey r.marketID r.outcome) {}) :=
        { reservation, live, transaction, view, seqno, more, within, spent, proceeds, newer, after, position := rfl }
      split at ha
      all_goals
        simp only [peel, not_not] at ha
        obtain ⟨effect, heffect, limits, hstore⟩ := ha
        cases hstore
      · exact .buy fills ‹_› (buyFill_bought fills heffect) (validatePortfolioTotals_ok.1 limits)
      · exact .sell fills ‹_› (sellFill_sold fills heffect) (validatePortfolioTotals_ok.1 limits)

theorem applyFinalizedPositionExit_wrote {evidence : PortfolioPositionExitEvidence}
    (ha : applyFinalizedPositionExit P opened d evidence = .ok (.store next u)) :
    Wrote P d (.applyFinalizedPositionExit evidence) next := by
  simp only [applyFinalizedPositionExit, peel, passed] at ha
  obtain ⟨⟨-, -, -, -, -, transaction, view, seqno, -⟩, ha⟩ := ha
  split at ha
  · cases ha
  · rename_i p position
    simp only [peel, passed, gt_iff_lt, UInt64.not_lt, UInt64.le_iff_toNat_le] at ha
    obtain ⟨⟨-, -, -, -, fewer, newer, -⟩, ha⟩ := ha
    split at ha
    · simp only [peel] at ha
      obtain ⟨-, hstore⟩ := ha
      cases hstore
    · rename_i changed
      cases ha
      exact .exit position transaction view seqno fewer
        (lt_of_le_of_ne newer fun h => changed (UInt64.toNat_inj.1 h.symm))

theorem confirmOrderInactive_wrote {evidence : PortfolioInactiveEvidence}
    (hc : confirmOrderInactive opened d evidence = .ok (.store next u)) :
    Wrote P d (.confirmOrderInactive evidence) next := by
  simp only [confirmOrderInactive, peel, passed] at hc
  obtain ⟨⟨-, -, transaction, view, seqno⟩, hc⟩ := hc
  split at hc
  · cases hc
  · rename_i r reservation
    simp only [peel] at hc
    obtain ⟨-, -, hc⟩ := hc
    split at hc
    · simp only [peel] at hc
      obtain ⟨-, hstore⟩ := hc
      cases hstore
    · rename_i live
      simp only [peel, UInt64.not_lt] at hc
      obtain ⟨newer, hstore⟩ := hc
      cases hstore
      exact .inactive reservation (by simpa using live) transaction view seqno (UInt64.le_iff_toNat_le.1 newer)

/-- Every operation that stores a document wrote one of the cases. -/
theorem update_wrote {op : PortfolioOperation} (hu : op.update P o opened d = .ok (.store next u)) :
    Wrote P d op next := by
  cases op with
  | reserveOrder q =>
    obtain ⟨v, hstored⟩ := Base.Update.map_store hu
    exact reserveOrder_wrote hstored
  | markOrderBroadcastState orderDigest state => exact markOrderBroadcastState_wrote hu
  | applyFinalizedFill evidence => exact applyFinalizedFill_wrote hu
  | applyFinalizedPositionExit evidence => exact applyFinalizedPositionExit_wrote hu
  | confirmOrderInactive evidence => exact confirmOrderInactive_wrote hu

end Inversion

end OpenFox.Prediction
