/-
The custody's own computation of an order's worst-case risk, and its agreement with the portfolio ledger, which
computes the risk again before it reserves the order.
-/
import OpenFox.Prediction.PortfolioWrites
import OpenFox.Prediction.Sample

namespace OpenFox.Prediction

open OpenFox.Go

/-! ## The risk of an order -/

def InDomain (profile : MarketProfile) (order : PredictionOrder) : Prop :=
  order.globalID = profile.globalID ∧ order.workchainID = profile.workchainID ∧
    order.marketAddress = profile.marketAddress ∧ order.marketConfigHash.1 = profile.marketConfigHash

def worstCaseRisk (P : BookProtocol) (profile : MarketProfile) (order : PredictionOrder) (digest : SHA256) :
    Except String WorstCaseOrderRisk := do
  refuse (order.globalID ≠ profile.globalID ∨ order.workchainID ≠ profile.workchainID ∨
    order.marketAddress ≠ profile.marketAddress ∨ order.marketConfigHash.1 ≠ profile.marketConfigHash)
    "prediction order is outside the custody market domain"
  let risk : WorstCaseOrderRisk :=
    { orderDigest := digest.1, ownerAddress := order.ownerAddress, marketAddress := order.marketAddress,
      action := order.action, outcome := order.outcome, quantityLots := order.quantityLots }
  if order.action = .buy then
    match buyReservation P profile.lotPayout order.limitPriceTick order.quantityLots with
    | none => throw "prediction order risk overflows"
    | some debit => pure { risk with collateralDebit := debit }
  else pure { risk with positionDebit := order.quantityLots }

/-! ## Agreement -/

variable {P : BookProtocol} {o : RangeOrder} {lot quantity debit : UInt64} {price : UInt16}

/-- The two guards of `buyReservation` are those of `multiplyUint64`. -/
theorem buyReservation_eq :
    buyReservation P lot price quantity =
      (multiplyUint64 (lot / P.priceScale.toUInt64) quantity).bind (multiplyUint64 · price.toUInt64) := by
  have hzero : price ≠ 0 ↔ price.toUInt64 ≠ 0 := by
    simp [← UInt16.toNat_inj, ← UInt64.toNat_inj]
  simp only [buyReservation, multiplyUint64, hzero, UInt64.mul_comm quantity]
  split <;> rfl

/-- The price is positive, so nothing overflows on the way to a product that fits. -/
theorem buyReservation_eq_some (hp : Priced P.toMarketProtocol lot price) :
    buyReservation P lot price quantity = some debit ↔
      debit.toNat = lotCost P.toMarketProtocol lot price * quantity.toNat := by
  have hpos : 0 < price.toNat := Nat.pos_of_ne_zero fun h => hp (.inr (.inr (.inl (UInt16.toNat_inj.1 h))))
  rw [buyReservation_eq, Option.bind_eq_some_iff, lotCost, Nat.mul_right_comm]
  simp only [multiplyUint64_eq_some, UInt64.toNat_div, UInt16.toNat_toUInt64]
  constructor
  · rintro ⟨base, hbase, hdebit⟩
    rw [hdebit, hbase]
  · intro hdebit
    have hfit := (Nat.le_mul_of_pos_right _ hpos).trans_lt (hdebit ▸ debit.toNat_lt)
    exact ⟨.ofNat _, UInt64.toNat_ofNat_of_lt' hfit, by rw [UInt64.toNat_ofNat_of_lt' hfit, hdebit]⟩

theorem buyReservation_eq_portfolioBuyRisk (hp : Priced P.toMarketProtocol lot price) :
    buyReservation P lot price quantity = portfolioBuyRisk P.toMarketProtocol lot price quantity := by
  ext debit
  rw [buyReservation_eq_some hp, portfolioBuyRisk_eq_some]
  exact (and_iff_right hp).symm

/-! ## The check of the portfolio -/

/-- The refusal of `reserveOrder` for a risk that is not the order's. -/
def riskMismatch : String := "prediction order risk does not match exact order economics"

variable {L : PortfolioProtocol} {opened : Bool} {d : PortfolioDocument} {q : ReserveRequest}
  {snapshot : PortfolioMarketSnapshot}

theorem reconcile_ne_mismatch {positions : Map PositionKey PositionExposure} {outcome : Outcome} :
    reconcilePortfolioPosition positions snapshot outcome ≠ .error riskMismatch := by
  intro h
  rcases reconcile_error h with h | h
  · unfold comparedPosition at h
    split at h
    · cases h
    · simp [bind_error, refuse_error, riskMismatch, pure, Except.pure] at h
  · exact absurd h (by decide)

theorem capacity_ne_mismatch {r : PortfolioOrderReservation} :
    checkPortfolioReservationCapacity o d r snapshot ≠ .error riskMismatch := by
  have hround : ∀ s prior, addPending r s prior ≠ .error riskMismatch := by
    intro s prior
    unfold addPending addChecked
    dsimp only
    repeat' split
    all_goals simp [Except.map, riskMismatch]
  have hloop : ∀ (l : List ((_ : String) × PortfolioOrderReservation)) s,
      l.foldlM (fun s e => addPending r s e.2) s ≠ .error riskMismatch := by
    intro l
    induction l with
    | nil => exact fun _ h => by cases h
    | cons entry l ih => simp [bind_error, hround, ih]
  unfold checkPortfolioReservationCapacity validatePortfolioTotals riskMismatch at *
  split <;> simp [bind_error, refuse_error, hloop]

/-- Only that check refuses with its text, the library aside. -/
theorem reserveOrder_ne_mismatch (hr : portfolioRisk L q.order q.snapshot.lotPayout = some q.risk)
    (hlib : ∀ r, L.reservationDigest r ≠ .error riskMismatch) : reserveOrder L o opened d q ≠ .error riskMismatch := by
  have hproof : ∀ d r, portfolioReservationProof L o d r ≠ .error riskMismatch := by
    intro d r h
    rcases bind_error.1 h with h | ⟨digest, -, h⟩
    · exact hlib r h
    · split at h
      · exact absurd (Except.error.inj h) (by decide)
      · cases h
  have hreconcile := @reconcile_ne_mismatch
  have hcapacity := @capacity_ne_mismatch
  unfold riskMismatch at *
  -- every other guard has another text
  cases hget : d.orders.get? q.risk.orderDigest <;>
    simp [reserveOrder, validatePortfolioMarketSnapshot, bind_error, refuse_error, hr, hget, hproof,
      hreconcile, hcapacity, pure, Except.pure]

theorem worstCaseRisk_eq {profile : MarketProfile} {order : PredictionOrder} {digest : SHA256}
    (hlib : L.toMarketProtocol = P.toMarketProtocol) (hd : P.orderDigest order = some digest)
    (hdomain : InDomain profile order) (hp : Priced P.toMarketProtocol profile.lotPayout order.limitPriceTick) :
    (worstCaseRisk P profile order digest).toOption = portfolioRisk L order profile.lotPayout := by
  obtain ⟨hglobal, hworkchain, haddress, hconfig⟩ := hdomain
  rw [worstCaseRisk, refuse_of_not (by simp [*]), portfolioRisk, hlib, hd, buyReservation_eq_portfolioBuyRisk hp]
  simp only [runs, Option.bind_eq_bind, Option.bind_some]
  split
  · cases portfolioBuyRisk P.toMarketProtocol profile.lotPayout order.limitPriceTick order.quantityLots <;> rfl
  · rfl

/-- Book and portfolio price a bid alike, at the exact product unless it does not fit, so custody and portfolio
compute one risk record. `reserveOrder` does not refuse the custody's: its text could come only from the digest library.
-/
theorem custody_and_portfolio_risks_agree (P : BookProtocol) (L : PortfolioProtocol)
    (hlib : L.toMarketProtocol = P.toMarketProtocol) :
    (∀ lot price quantity, Priced P.toMarketProtocol lot price →
      buyReservation P lot price quantity = portfolioBuyRisk L.toMarketProtocol lot price quantity ∧
      ∀ debit, buyReservation P lot price quantity = some debit ↔
        debit.toNat = lot.toNat / P.priceScale.toNat * price.toNat * quantity.toNat) ∧
    ∀ profile order digest, Priced P.toMarketProtocol profile.lotPayout order.limitPriceTick → InDomain profile order →
      P.orderDigest order = some digest →
      (worstCaseRisk P profile order digest).toOption = portfolioRisk L order profile.lotPayout ∧
      ∀ o opened d q, q.order = order → q.snapshot.lotPayout = profile.lotPayout →
        worstCaseRisk P profile order digest = .ok q.risk →
        reserveOrder L o opened d q = .error riskMismatch → ∃ r, L.reservationDigest r = .error riskMismatch := by
  refine ⟨fun lot price quantity hp => ⟨hlib ▸ buyReservation_eq_portfolioBuyRisk hp, fun debit => ?_⟩, ?_⟩
  · exact buyReservation_eq_some hp
  · intro profile order digest hp hdomain hd
    have heq := worstCaseRisk_eq hlib hd hdomain hp
    refine ⟨heq, fun o opened d q hq hlot hrisk herror => ?_⟩
    have hsame : portfolioRisk L q.order q.snapshot.lotPayout = some q.risk := by
      rw [hq, hlot, ← heq, hrisk]
      rfl
    by_contra hnone
    exact reserveOrder_ne_mismatch hsame (not_exists.1 hnone) herror

open Sample in
/-- The bid of ten lots at half of ten costs fifty to both, and its reservation is not refused for that. -/
theorem bid_risk_agrees :
    worstCaseRisk bookProtocol bookProfile (bid 1) digestA = .ok (request 1 7 0).risk ∧
      reserveOrder protocol asWritten true (emptyPortfolio (owner 10)) (request 1 7 0) ≠
        .error riskMismatch := by
  have hagree := (custody_and_portfolio_risks_agree bookProtocol protocol rfl).2 bookProfile (bid 1)
    digestA (by decide) ⟨rfl, rfl, rfl, rfl⟩ rfl
  refine ⟨rfl, fun herror => ?_⟩
  obtain ⟨r, hr⟩ := hagree.2 _ _ _ _ rfl rfl rfl herror
  cases hr

end OpenFox.Prediction
