/-
Sound documents of the portfolio ledger: each reservation is valid and its pending amounts are exact, each
traded outcome has a position, the totals stay within the owner's limits. The validation in front of a
write asks for less than that.
-/
import OpenFox.Prediction.PortfolioWrites

namespace OpenFox.Prediction

open OpenFox.Go

/-! ## Reservations -/

/-- What names a reservation and never changes. -/
structure Identified (P : PortfolioProtocol) (digest : String) (r : PortfolioOrderReservation) : Prop where
  key : digest = r.orderDigest
  canonical : canonicalDigest digest "sha256:" = true
  agent : r.agentID ≠ ""
  market : canonicalDigest r.marketID "sha256:" = true
  address : P.validRawAddress r.marketAddress = true
  config : canonicalDigest r.marketConfigHash "tvm-cell-sha256:" = true
  code : canonicalDigest r.contractCodeHash "tvm-cell-sha256:" = true
  quantity : r.quantityLots ≠ 0
  expiry : r.validUntil ≠ 0
  payout : r.lotPayout ≠ 0
  action : r.action = .buy ∨ r.action = .sell
  outcome : r.outcome = .yes ∨ r.outcome = .no

/-- A checkpoint is recorded with its view and its transaction, or not at all. -/
inductive Checkpoint : UInt64 → String → String → Prop
  | none : Checkpoint 0 "" ""
  | recorded {seqno : UInt64} {view transaction : String} (seqno_ne : seqno ≠ 0)
    (canonicalView : canonicalDigest view "sha256:" = true)
    (canonicalTransaction : canonicalDigest transaction "sha256:" = true) : Checkpoint seqno view transaction

def PortfolioOrderReservation.lotCost (P : PortfolioProtocol) (r : PortfolioOrderReservation) : ℕ :=
  Prediction.lotCost P.toMarketProtocol r.lotPayout r.limitPriceTick

/-- The lots of a live reservation that are not filled. -/
def PortfolioOrderReservation.unfilled (r : PortfolioOrderReservation) : ℕ :=
  if isPortfolioOrderTerminal r.status then 0 else r.quantityLots.toNat - r.filledLots.toNat

structure BuyTerms (P : PortfolioProtocol) (r : PortfolioOrderReservation) : Prop where
  priced : Priced P.toMarketProtocol r.lotPayout r.limitPriceTick
  fits : r.lotCost P * r.quantityLots.toNat < 2 ^ 64
  pending : r.pendingCollateralAtomic.toNat = r.lotCost P * r.unfilled
  noLots : r.pendingPositionLots = 0
  spent : r.cumulativeSpentAtomic.toNat ≤ r.lotCost P * r.filledLots.toNat
  noProceeds : r.cumulativeProceedsAtomic = 0

structure SellTerms (r : PortfolioOrderReservation) : Prop where
  pending : r.pendingPositionLots.toNat = r.unfilled
  noCollateral : r.pendingCollateralAtomic = 0
  nothingSpent : r.cumulativeSpentAtomic = 0

structure SoundReservation (P : PortfolioProtocol) (digest : String) (r : PortfolioOrderReservation) : Prop where
  identified : Identified P digest r
  filled : r.filledLots.toNat ≤ r.quantityLots.toNat
  checkpoint : Checkpoint r.lastMasterchainSeqno r.lastFinalityViewID r.lastTransactionHash
  buy : r.action = .buy → BuyTerms P r
  sell : r.action ≠ .buy → SellTerms r
  complete : r.status = .filled ↔ r.filledLots = r.quantityLots

variable {P : PortfolioProtocol} {profile : OwnerPortfolioProfile} {d : PortfolioDocument}

theorem Checkpoint.valid {seqno : UInt64} {view transaction : String} (hc : Checkpoint seqno view transaction) :
    ((seqno == 0) = (transaction == "") ∧ (seqno == 0) = (view == "")) ∧
      (transaction ≠ "" → canonicalDigest transaction "sha256:" = true) ∧
      (view ≠ "" → canonicalDigest view "sha256:" = true) := by
  cases hc with
  | none => simp
  | recorded seqno_ne canonicalView canonicalTransaction =>
    have hview := canonicalDigest_ne_empty canonicalView
    have htransaction := canonicalDigest_ne_empty canonicalTransaction
    simp [seqno_ne, hview, htransaction, canonicalView, canonicalTransaction]

theorem unfilled_le (r : PortfolioOrderReservation) : r.unfilled ≤ r.quantityLots.toNat - r.filledLots.toNat := by
  unfold PortfolioOrderReservation.unfilled
  split
  · exact Nat.zero_le _
  · exact le_rfl

variable {digest : String} {p : PositionExposure}

variable {r : PortfolioOrderReservation} {q : ReserveRequest}

section
variable (hr : SoundReservation P digest r)
include hr

theorem SoundReservation.validatePendingRisk : Prediction.validatePendingRisk P r = .ok () := by
  have hrest := toNat_sub_of_le hr.filled
  unfold Prediction.validatePendingRisk
  by_cases hside : r.action = .buy
  · have terms := hr.buy hside
    -- the worst case of what is left fits, since that of the whole order does
    have hle : r.lotCost P * (r.quantityLots.toNat - r.filledLots.toNat) ≤ r.lotCost P * r.quantityLots.toNat :=
      Nat.mul_le_mul_left _ (Nat.sub_le _ _)
    have hmax := portfolioBuyRisk_of_lt (r.quantityLots - r.filledLots) terms.priced
      (by rw [hrest]; exact hle.trans_lt terms.fits)
    have hpending : r.pendingCollateralAtomic.toNat ≤ r.lotCost P * (r.quantityLots.toNat - r.filledLots.toNat) := by
      rw [terms.pending]
      exact Nat.mul_le_mul_left _ (unfilled_le r)
    rw [if_pos hside, hmax]
    apply refuse_of_not
    rw [gt_iff_lt, UInt64.lt_iff_toNat_lt, (portfolioBuyRisk_eq_some.1 hmax).2, hrest]
    simp only [terms.noLots, terms.noProceeds, ne_eq, not_true, or_false, not_lt]
    exact hpending
  · have terms := hr.sell hside
    rw [if_neg hside]
    apply refuse_of_not
    rw [gt_iff_lt, UInt64.lt_iff_toNat_lt, hrest, terms.pending]
    simp only [terms.noCollateral, terms.nothingSpent, ne_eq, not_true, false_or, or_false, not_lt]
    exact unfilled_le r

theorem SoundReservation.released (hterminal : isPortfolioOrderTerminal r.status = true) :
    r.pendingCollateralAtomic = 0 ∧ r.pendingPositionLots = 0 := by
  have hzero : r.unfilled = 0 := by rw [PortfolioOrderReservation.unfilled, if_pos hterminal]
  by_cases hside : r.action = .buy
  · have terms := hr.buy hside
    exact ⟨toNat_eq_zero.1 (by rw [terms.pending, hzero, Nat.mul_zero]), terms.noLots⟩
  · have terms := hr.sell hside
    exact ⟨terms.noCollateral, toNat_eq_zero.1 (terms.pending.trans hzero)⟩

theorem SoundReservation.validate : validateReservation P digest r = .ok () := by
  have id := hr.identified
  obtain ⟨⟨htransaction, hview⟩, hcanonical⟩ := hr.checkpoint.valid
  have hcomplete : (r.status == .filled) = (r.filledLots == r.quantityLots) := by
    rw [Bool.eq_iff_iff, beq_iff_eq, beq_iff_eq]
    exact hr.complete
  have hfilled : ¬ r.filledLots > r.quantityLots := by
    rw [gt_iff_lt, UInt64.lt_iff_toNat_lt, not_lt]
    exact hr.filled
  simp only [validateReservation, peel]
  refine ⟨?_, ?_, hr.validatePendingRisk, ?_, ?_⟩
  · simp only [passed]
    exact ⟨id.key, id.canonical, id.agent, id.market, id.address, id.config, id.code, id.quantity, hfilled, id.expiry,
      id.payout⟩
  · simp only [passed, not_and]
    refine ⟨fun hbuy => id.action.resolve_left hbuy, fun hyes => id.outcome.resolve_left hyes, htransaction, hview,
      hcanonical.1, hcanonical.2⟩
  · rintro ⟨hterminal, hpending⟩
    obtain ⟨hcollateral, hlots⟩ := hr.released hterminal
    exact hpending.elim (fun h => h hcollateral) (fun h => h hlots)
  · exact not_not.2 hcomplete

end

/-! ## Positions -/

structure SoundPosition (P : PortfolioProtocol) (key : PositionKey) (p : PositionExposure) : Prop where
  key : key = portfolioPositionKey p.marketID p.outcome
  market : canonicalDigest p.marketID "sha256:" = true
  address : P.validRawAddress p.marketAddress = true
  config : canonicalDigest p.marketConfigHash "tvm-cell-sha256:" = true
  code : canonicalDigest p.contractCodeHash "tvm-cell-sha256:" = true
  seqno : p.masterchainSeqno ≠ 0
  view : canonicalDigest p.finalityViewID "sha256:" = true
  transaction : p.lastTransactionHash ≠ "" → canonicalDigest p.lastTransactionHash "sha256:" = true
  empty : p.lots = 0 → p.atRiskAtomic = 0

theorem SoundPosition.validate {key : PositionKey} (hp : SoundPosition P key p) :
    validatePositionExposure P key p = .ok () := by
  have hview := canonicalDigest_ne_empty hp.view
  simp only [validatePositionExposure, peel]
  refine ⟨not_not.2 hp.key, ?_, ?_⟩
  · simp only [passed]
    exact ⟨hp.market, hp.address, hp.config, hp.code⟩
  · simp only [passed, not_and]
    exact ⟨by simp [hp.seqno, hview], fun _ => hp.view, hp.transaction⟩

/-! ## Documents -/

/-- Every reservation has a position, at its checkpoint or a later one; every position is in a market of some
reservation. -/
structure Linked (orders : Map String PortfolioOrderReservation) (positions : Map PositionKey PositionExposure) :
    Prop where
  placed : ∀ {digest r}, orders.get? digest = some r → ∃ p,
    positions.get? (portfolioPositionKey r.marketID r.outcome) = some p ∧
      (isPortfolioOrderTerminal r.status = false → r.lastMasterchainSeqno.toNat ≤ p.masterchainSeqno.toNat)
  traded : ∀ {key p}, positions.get? key = some p → ∃ digest r, orders.get? digest = some r ∧ r.marketID = key.1

structure SoundDocument (P : PortfolioProtocol) (profile : OwnerPortfolioProfile) (d : PortfolioDocument) : Prop where
  version : d.schemaVersion = portfolioSchemaVersion
  owner : d.profile = profile
  count : d.orders.entries.length ≤ profile.maximumOrderReservations.toNat
  markets : d.orderMarkets.card ≤ profile.maximumMarkets.toNat
  reservations : ∀ {digest r}, d.orders.get? digest = some r → SoundReservation P digest r
  positions : ∀ {key p}, d.positions.get? key = some p → SoundPosition P key p
  linked : Linked d.orders d.positions
  limits : WithinLimits d
  proceeds : d.finalizedProceedsAtomic.toNat = d.orders.sumBy (·.cumulativeProceedsAtomic.toNat)

theorem mem_orderMarkets {market : String} :
    market ∈ d.orderMarkets ↔ ∃ digest r, d.orders.get? digest = some r ∧ r.marketID = market := by
  simp only [PortfolioDocument.orderMarkets, List.mem_toFinset, List.mem_map]
  constructor
  · rintro ⟨⟨digest, r⟩, he, rfl⟩; exact ⟨digest, r, Map.mem_entries.1 he, rfl⟩
  · rintro ⟨digest, r, hr, rfl⟩; exact ⟨⟨digest, r⟩, Map.mem_entries.2 hr, rfl⟩

theorem orderMarkets_card_le : d.orderMarkets.card ≤ d.orders.entries.length :=
  (List.toFinset_card_le _).trans_eq (List.length_map ..)

theorem collectMarkets {K V : Type} (check : K → V → Except String Unit) (market : V → String) :
    ∀ (l : List ((_ : K) × V)) (markets : Finset String), (∀ e ∈ l, check e.1 e.2 = .ok ()) →
      l.foldlM (fun markets e => do check e.1 e.2; pure (insert (market e.2) markets)) markets =
        .ok (markets ∪ (l.map fun e => market e.2).toFinset)
  | [], markets, _ => by simp [pure, Except.pure]
  | e :: l, markets, hall => by
    have hrest : ∀ e' ∈ l, check e'.1 e'.2 = .ok () := fun e' he' => hall e' (List.mem_cons_of_mem _ he')
    rw [List.foldlM_cons, bind_ok]
    refine ⟨insert (market e.2) markets, bind_ok.2 ⟨(), hall e (by simp), rfl⟩, ?_⟩
    rw [collectMarkets check market l _ hrest]
    simp [Finset.insert_union, Finset.union_insert]

theorem checked_of_collect {K V : Type} {check : K → V → Except String Unit} {market : V → String} :
    ∀ {l : List ((_ : K) × V)} {markets markets'},
      l.foldlM (fun (markets : Finset String) e => do check e.1 e.2; pure (insert (market e.2) markets)) markets =
        .ok markets' → ∀ e ∈ l, check e.1 e.2 = .ok () := by
  intro l markets markets'
  refine foldlM_inv (fun done _ => ∀ e ∈ done, check e.1 e.2 = .ok ()) (fun done b e b' hdone hround => ?_) l []
    _ _ (by simp)
  obtain ⟨⟨⟩, hcheck, -⟩ := bind_ok.1 hround
  exact List.forall_mem_append.2 ⟨hdone, List.forall_mem_singleton.2 hcheck⟩

theorem validateReservation_of_document {o : RangeOrder} (hv : validatePortfolioDocument P o d profile = .ok ())
    (digest : String) (hr : d.orders.get? digest = some r) : validateReservation P digest r = .ok () := by
  simp only [validatePortfolioDocument, peel] at hv
  obtain ⟨-, markets, horders, -⟩ := hv
  exact checked_of_collect horders ⟨digest, r⟩ (Map.mem_range.2 hr)

theorem SoundDocument.validate (hd : SoundDocument P profile d) (o : RangeOrder) :
    validatePortfolioDocument P o d profile = .ok () := by
  have hlen := profile.maximumOrderReservations.toNat_lt
  have horders := collectMarkets (validateReservation P) (·.marketID) (d.orders.range o 2) ∅ fun e he =>
    (hd.reservations (Map.mem_range.1 he)).validate
  have hpositions := collectMarkets (validatePositionExposure P) (·.marketID)
    (d.positions.range o 3) (∅ ∪ ((d.orders.range o 2).map fun e => e.2.marketID).toFinset)
    fun e he => (hd.positions (Map.mem_range.1 he)).validate
  -- the positions add no market to those of the reservations
  have hset : ∅ ∪ ((d.orders.range o 2).map fun e => e.2.marketID).toFinset ∪
      ((d.positions.range o 3).map fun e => e.2.marketID).toFinset = d.orderMarkets := by
    ext market
    simp only [Finset.empty_union, Finset.mem_union, List.mem_toFinset, List.mem_map, mem_orderMarkets]
    constructor
    · rintro (⟨⟨digest, r⟩, he, rfl⟩ | ⟨⟨key, p⟩, he, rfl⟩)
      · exact ⟨digest, r, Map.mem_range.1 he, rfl⟩
      · have hp := Map.mem_range.1 he
        obtain ⟨digest, r, hr, hmarket⟩ := hd.linked.traded hp
        exact ⟨digest, r, hr, hmarket.trans (congrArg Prod.fst (hd.positions hp).key)⟩
    · rintro ⟨digest, r, hr, rfl⟩
      exact .inl ⟨⟨digest, r⟩, Map.mem_range.2 hr, rfl⟩
  have hcard := UInt32.toNat_ofNat_of_lt' ((orderMarkets_card_le.trans hd.count).trans_lt hlen)
  have hcount := UInt32.toNat_ofNat_of_lt' (hd.count.trans_lt hlen)
  simp only [validatePortfolioDocument, peel]
  refine ⟨?_, _, horders, _, hpositions, ?_⟩
  · simp only [passed, gt_iff_lt, UInt32.lt_iff_toNat_lt, hcount, not_lt]
    exact ⟨hd.version, hd.owner, hd.count⟩
  · rw [hset]
    simp only [passed, gt_iff_lt, UInt32.lt_iff_toNat_lt, hcard, not_lt]
    exact ⟨hd.markets, validatePortfolioTotals_ok.2 hd.limits⟩

theorem emptyPortfolio_sound (profile : OwnerPortfolioProfile) : SoundDocument P profile (emptyPortfolio profile) where
  version := rfl
  owner := rfl
  count := Nat.zero_le _
  markets := Nat.zero_le _
  reservations := Map.of_empty
  positions := Map.of_empty
  linked := ⟨Map.of_empty, Map.of_empty⟩
  limits := ⟨Nat.zero_le _, Nat.zero_le _⟩
  proceeds := rfl

/-! ## Reservations after each operation -/

theorem portfolioRisk_some {order : PredictionOrder} {lotPayout : UInt64} {risk : WorstCaseOrderRisk}
    (hr : portfolioRisk P order lotPayout = some risk) :
    ∃ digest, P.orderDigest order = some digest ∧ risk.orderDigest = digest.1 ∧
      (order.action = .buy → portfolioBuyRisk P.toMarketProtocol lotPayout order.limitPriceTick order.quantityLots =
        some risk.collateralDebit ∧ risk.positionDebit = 0) ∧
      (order.action ≠ .buy → risk.collateralDebit = 0 ∧ risk.positionDebit = order.quantityLots) := by
  simp only [portfolioRisk, Option.bind_eq_bind, Option.bind_eq_some_iff] at hr
  obtain ⟨digest, hdigest, hr⟩ := hr
  refine ⟨digest, hdigest, ?_⟩
  split at hr
  · rename_i hside
    simp only [Option.bind_eq_some_iff, Option.pure_def, Option.some.injEq] at hr
    obtain ⟨value, hvalue, rfl⟩ := hr
    exact ⟨rfl, fun _ => ⟨hvalue, rfl⟩, fun hother => absurd hside hother⟩
  · rename_i hside
    cases hr
    exact ⟨rfl, fun hbuy => absurd hbuy hside, fun _ => ⟨rfl, rfl⟩⟩

theorem tradable_of_validated (hv : validateReservation P digest q.reservation = .ok ()) :
    Tradable P.toMarketProtocol q.order := by
  simp only [validateReservation, peel, passed] at hv
  obtain ⟨⟨-, -, -, -, address, -, -, quantity, -, expiry, -⟩, ⟨action, outcome, -⟩, -⟩ := hv
  exact ⟨quantity, expiry, or_iff_not_and_not.2 action, or_iff_not_and_not.2 outcome, address⟩

theorem Reserves.sound (ht : Tradable P.toMarketProtocol q.order) (hq : Reserves P d q) :
    SoundReservation P q.risk.orderDigest q.reservation := by
  obtain ⟨digest, -, horder, hbuy, hsell⟩ := portfolioRisk_some hq.risk
  refine
    { identified :=
        { key := rfl
          canonical := by rw [horder]; exact digest.2
          agent := hq.agent
          market := hq.market
          address := ht.address
          config := q.order.marketConfigHash.2
          code := hq.code
          quantity := ht.quantity
          expiry := ht.expiry
          payout := hq.payout
          action := ht.action
          outcome := ht.outcome }
      filled := Nat.zero_le _
      checkpoint := .none
      buy := fun hside => ?_
      sell := fun hside => ?_
      complete := ⟨nofun, fun h => absurd h.symm ht.quantity⟩ }
  · obtain ⟨hrisk, hlots⟩ := hbuy hside
    obtain ⟨hpriced, hcost⟩ := portfolioBuyRisk_eq_some.1 hrisk
    exact
      { priced := hpriced
        fits := by rw [PortfolioOrderReservation.lotCost]; exact hcost ▸ q.risk.collateralDebit.toNat_lt
        pending := hcost
        noLots := hlots
        spent := Nat.zero_le _
        noProceeds := rfl }
  · obtain ⟨hcollateral, hlots⟩ := hsell hside
    exact
      { pending := by
          show q.risk.positionDebit.toNat = _
          rw [hlots]
          rfl
        noCollateral := hcollateral
        nothingSpent := rfl }

theorem SoundReservation.not_complete (hr : SoundReservation P digest r)
    (hlive : isPortfolioOrderTerminal r.status = false) : r.filledLots ≠ r.quantityLots := by
  intro heq
  rw [hr.complete.2 heq] at hlive
  cases hlive

theorem unfilled_of_live (hlive : isPortfolioOrderTerminal r.status = false) :
    r.unfilled = r.quantityLots.toNat - r.filledLots.toNat := by
  rw [PortfolioOrderReservation.unfilled, hlive]
  rfl

theorem SoundReservation.mark {state : PortfolioOrderStatus}
    (hr : SoundReservation P digest r) (hlive : isPortfolioOrderTerminal r.status = false)
    (hstate : isPortfolioOrderTerminal state = false) : SoundReservation P digest { r with status := state } := by
  have hunfilled : ({ r with status := state } : PortfolioOrderReservation).unfilled = r.unfilled := by
    rw [unfilled_of_live hlive, unfilled_of_live hstate]
  refine
    { identified := { hr.identified with }
      filled := hr.filled
      checkpoint := hr.checkpoint
      buy := fun hside => { hr.buy hside with pending := by rw [hunfilled]; exact (hr.buy hside).pending }
      sell := fun hside => { hr.sell hside with pending := by rw [hunfilled]; exact (hr.sell hside).pending }
      complete := ⟨fun h => ?_, fun h => absurd h (hr.not_complete hlive)⟩ }
  rw [show state = .filled from h] at hstate
  cases hstate

theorem inactiveStatus_terminal (reason : PortfolioInactiveReason) :
    isPortfolioOrderTerminal (inactiveStatus reason) = true := by
  cases reason <;> rfl

theorem SoundReservation.deactivate {evidence : PortfolioInactiveEvidence} (hr : SoundReservation P digest r)
    (hlive : isPortfolioOrderTerminal r.status = false) (hseqno : evidence.masterchainSeqno ≠ 0)
    (hview : canonicalDigest evidence.finalityViewID "sha256:" = true)
    (htransaction : canonicalDigest evidence.transactionHash "sha256:" = true) :
    SoundReservation P digest (({ r with
      pendingCollateralAtomic := 0, pendingPositionLots := 0
      status := inactiveStatus evidence.reason } : PortfolioOrderReservation).at
        evidence.masterchainSeqno evidence.finalityViewID evidence.transactionHash) := by
  have hunfilled : ∀ r' : PortfolioOrderReservation, r'.status = inactiveStatus evidence.reason → r'.unfilled = 0 := by
    intro r' hstatus
    rw [PortfolioOrderReservation.unfilled, hstatus, if_pos (inactiveStatus_terminal _)]
  refine
    { identified := { hr.identified with }
      filled := hr.filled
      checkpoint := .recorded hseqno hview htransaction
      buy := fun hside => { hr.buy hside with pending := ?_, noLots := rfl }
      sell := fun hside => { hr.sell hside with pending := ?_, noCollateral := rfl }
      complete := ⟨fun h => ?_, fun h => absurd h (hr.not_complete hlive)⟩ }
  · rw [hunfilled _ rfl, Nat.mul_zero]; rfl
  · rw [hunfilled _ rfl]; rfl
  · have hfilled := h
    cases hreason : evidence.reason <;> rw [hreason] at hfilled <;> cases hfilled

section Fills

variable {evidence : PortfolioFillEvidence} {r : PortfolioOrderReservation}
  {effect : FillEffect}

theorem filledTo_unfilled :
    (r.filledTo evidence).unfilled = r.quantityLots.toNat - evidence.cumulativeFilledLots.toNat := by
  show (if isPortfolioOrderTerminal (if evidence.cumulativeFilledLots = r.quantityLots then _ else _) then 0
    else r.quantityLots.toNat - evidence.cumulativeFilledLots.toNat) = _
  by_cases hfull : evidence.cumulativeFilledLots = r.quantityLots
  · rw [if_pos hfull, hfull, Nat.sub_self]
    rfl
  · rw [if_neg hfull]
    rfl

theorem filledTo_complete : (r.filledTo evidence).status = .filled ↔
    (r.filledTo evidence).filledLots = (r.filledTo evidence).quantityLots := by
  show (if evidence.cumulativeFilledLots = r.quantityLots then PortfolioOrderStatus.filled else .partiallyFilled) =
    .filled ↔
    evidence.cumulativeFilledLots = r.quantityLots
  split <;> simp_all

theorem Bought.sound (hr : SoundReservation P evidence.orderDigest r) (hf : Fills d evidence r p)
    (hside : r.action = .buy) (hb : Bought P.toMarketProtocol d evidence r p effect) :
    SoundReservation P evidence.orderDigest (effect.reservation.filledTo evidence) := by
  have terms := hr.buy hside
  rw [hb.reservation]
  refine
    { identified := { hr.identified with }
      filled := hf.within
      checkpoint := .recorded hf.seqno hf.view hf.transaction
      buy := fun _ => { terms with pending := ?_, spent := hb.bounded, noProceeds := hb.nothingEarned }
      sell := fun hsell => absurd hside hsell
      complete := filledTo_complete }
  rw [filledTo_unfilled]
  exact hb.pending

theorem Sold.sound (hr : SoundReservation P evidence.orderDigest r) (hf : Fills d evidence r p)
    (hside : r.action ≠ .buy) (hs : Sold d evidence r p effect) :
    SoundReservation P evidence.orderDigest (effect.reservation.filledTo evidence) := by
  have terms := hr.sell hside
  rw [hs.reservation]
  refine
    { identified := { hr.identified with }
      filled := hf.within
      checkpoint := .recorded hf.seqno hf.view hf.transaction
      buy := fun hbuy => absurd hbuy hside
      sell := fun _ => { terms with pending := ?_, nothingSpent := hs.nothingSpent }
      complete := filledTo_complete }
  rw [filledTo_unfilled]
  exact hs.pending

end Fills

end OpenFox.Prediction
