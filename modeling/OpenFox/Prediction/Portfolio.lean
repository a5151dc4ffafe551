/-
The owner's portfolio ledger: reservations for every order of the owner's agents, the positions they
lead to, and one document that bounds both. Every operation computes the next document under its own
checks; storing it validates it once more. The bound on the encoded size and the write itself are the
outcome of the write.
-/
import OpenFox.Base.Durable
import OpenFox.Prediction.Protocol
import Mathlib.Data.Finset.Card

namespace OpenFox.Prediction

open OpenFox.Go OpenFox.Base

/-! ## The document -/

structure OwnerPortfolioProfile where
  ownerID : String
  ownerAddress : String
  networkDomainHash : String
  sourceAgentAccount : String
  collateralAssetID : String
  maximumAtRiskAtomic : UInt64
  maximumPositionLots : UInt64
  maximumOrderReservations : UInt32
  maximumMarkets : UInt32
deriving DecidableEq

structure PortfolioMarketSnapshot where
  ownerAddress : String
  marketID : String
  marketAddress : String
  marketConfigHash : String
  contractCodeHash : String
  lotPayout : UInt64
  freeBalance : UInt64
  yesLots : UInt64
  noLots : UInt64
  masterchainSeqno : UInt64
  observedAt : UInt64
  finalityViewID : String
  quorumFinalized : Bool

inductive PortfolioOrderStatus
  | reserved | broadcasting | ambiguous | partiallyFilled
  | filled | cancelConfirmed | expiredConfirmed | nonceInvalidated | keyInvalidated
deriving DecidableEq, Inhabited

def isPortfolioOrderTerminal : PortfolioOrderStatus → Bool
  | .filled | .cancelConfirmed | .expiredConfirmed | .nonceInvalidated | .keyInvalidated => true
  | .reserved | .broadcasting | .ambiguous | .partiallyFilled => false

structure PositionExposure where
  marketID : String := ""
  marketAddress : String := ""
  marketConfigHash : String := ""
  contractCodeHash : String := ""
  outcome : Outcome := .yes
  lots : UInt64 := 0
  atRiskAtomic : UInt64 := 0
  masterchainSeqno : UInt64 := 0
  finalityViewID : String := ""
  lastTransactionHash : String := ""
deriving DecidableEq

structure PortfolioOrderReservation where
  orderDigest : String
  agentID : String
  marketID : String
  marketAddress : String
  marketConfigHash : String
  contractCodeHash : String
  action : Action
  outcome : Outcome
  quantityLots : UInt64
  filledLots : UInt64 := 0
  limitPriceTick : UInt16
  lotPayout : UInt64
  validUntil : UInt64
  pendingCollateralAtomic : UInt64
  pendingPositionLots : UInt64
  cumulativeSpentAtomic : UInt64 := 0
  cumulativeProceedsAtomic : UInt64 := 0
  status : PortfolioOrderStatus
  lastTransactionHash : String := ""
  lastFinalityViewID : String := ""
  lastMasterchainSeqno : UInt64 := 0
deriving DecidableEq

/-- `portfolioPositionKey` joins the two parts with a colon. The digits of the outcome hold none, so the text
determines the pair. -/
abbrev PositionKey := String × Outcome

def portfolioPositionKey (marketID : String) (outcome : Outcome) : PositionKey := (marketID, outcome)

structure PortfolioDocument where
  schemaVersion : UInt16
  revision : UInt64
  profile : OwnerPortfolioProfile
  orders : Map String PortfolioOrderReservation
  positions : Map PositionKey PositionExposure
  finalizedProceedsAtomic : UInt64

def portfolioSchemaVersion : UInt16 := 1

def emptyPortfolio (profile : OwnerPortfolioProfile) : PortfolioDocument where
  schemaVersion := portfolioSchemaVersion
  revision := 0
  profile := profile
  orders := ∅
  positions := ∅
  finalizedProceedsAtomic := 0

/-! ## Evidence -/

structure PortfolioFillEvidence where
  orderDigest : String
  cumulativeFilledLots : UInt64
  cumulativeSpentAtomic : UInt64
  cumulativeProceedsAtomic : UInt64
  transactionHash : String
  finalityViewID : String
  masterchainSeqno : UInt64
  quorumFinalized : Bool

inductive PortfolioInactiveReason
  | canceled | expired | nonceFloor | keyRotation
deriving DecidableEq

structure PortfolioInactiveEvidence where
  orderDigest : String
  reason : PortfolioInactiveReason
  chainTime : UInt64
  transactionHash : String
  finalityViewID : String
  masterchainSeqno : UInt64
  quorumFinalized : Bool

inductive PortfolioPositionExitReason
  | merge | claim | externalSale
deriving DecidableEq

structure PortfolioPositionExitEvidence where
  marketID : String
  marketAddress : String
  marketConfigHash : String
  contractCodeHash : String
  outcome : Outcome
  remainingLots : UInt64
  reason : PortfolioPositionExitReason
  transactionHash : String
  finalityViewID : String
  masterchainSeqno : UInt64
  quorumFinalized : Bool

/-- What an isolated signer is shown of the aggregate state. -/
structure PortfolioReservationProof where
  schemaVersion : UInt16
  portfolioKey : String
  revision : UInt64
  orderDigest : String
  reservationDigest : String
  aggregateAtRiskAtomic : UInt64
  aggregatePositionLots : UInt64
  finalizedProceedsAtomic : UInt64
deriving DecidableEq

structure WorstCaseOrderRisk where
  schemaVersion : UInt16 := 1
  orderDigest : String
  ownerAddress : String
  marketAddress : String
  action : Action
  outcome : Outcome
  quantityLots : UInt64
  collateralDebit : UInt64 := 0
  positionDebit : UInt64 := 0
deriving DecidableEq

/-- The market protocol and the digest of a reservation (`codec.Digest`). -/
structure PortfolioProtocol extends MarketProtocol where
  reservationDigest : PortfolioOrderReservation → Except String String

variable (P : PortfolioProtocol) (o : RangeOrder) (profile : OwnerPortfolioProfile) (position : PositionExposure)
  (reservation : PortfolioOrderReservation)

/-! ## Totals and limits -/

def portfolioTotals (d : PortfolioDocument) : Option (UInt64 × UInt64) := do
  let (atRisk, positionLots) ← (d.positions.range o 0).foldlM (fun (atRisk, lots) e => do
    pure (← addUint64 atRisk e.2.atRiskAtomic, ← addUint64 lots e.2.lots)) (0, 0)
  let atRisk ← (d.orders.range o 1).foldlM (fun atRisk e =>
    if isPortfolioOrderTerminal e.2.status then some atRisk
    else addUint64 atRisk e.2.pendingCollateralAtomic) atRisk
  pure (atRisk, positionLots)

def validatePortfolioTotals (d : PortfolioDocument) : Except String Unit :=
  match portfolioTotals o d with
  | none => .error "prediction portfolio totals overflow"
  | some (atRisk, positionLots) =>
    refuse (atRisk > d.profile.maximumAtRiskAtomic ∨ positionLots > d.profile.maximumPositionLots)
      "prediction owner-wide portfolio limit exceeded"

/-! ## Validation -/

/-- The pending amounts of a reservation, by its side. -/
def validatePendingRisk (r : PortfolioOrderReservation) : Except String Unit :=
  let remaining := r.quantityLots - r.filledLots
  if r.action = .buy then
    match portfolioBuyRisk P.toMarketProtocol r.lotPayout r.limitPriceTick remaining with
    | none => .error "prediction BUY reservation has invalid risk state"
    | some maximumPending =>
      refuse (r.pendingCollateralAtomic > maximumPending ∨ r.pendingPositionLots ≠ 0 ∨ r.cumulativeProceedsAtomic ≠ 0)
        "prediction BUY reservation has invalid risk state"
  else
    refuse (r.pendingCollateralAtomic ≠ 0 ∨ r.pendingPositionLots > remaining ∨ r.cumulativeSpentAtomic ≠ 0)
      "prediction SELL reservation has invalid risk state"

/-- The loop body over the orders in `validatePortfolioDocument`. -/
def validateReservation (digest : String) (r : PortfolioOrderReservation) : Except String Unit := do
  refuse (digest ≠ r.orderDigest ∨ ¬ canonicalDigest digest "sha256:" ∨ r.agentID = "" ∨
    ¬ canonicalDigest r.marketID "sha256:" ∨ ¬ P.validRawAddress r.marketAddress ∨
    ¬ canonicalDigest r.marketConfigHash "tvm-cell-sha256:" ∨
    ¬ canonicalDigest r.contractCodeHash "tvm-cell-sha256:" ∨ r.quantityLots = 0 ∨ r.filledLots > r.quantityLots ∨
    r.validUntil = 0 ∨ r.lotPayout = 0)
    "invalid prediction order reservation"
  refuse ((r.action ≠ .buy ∧ r.action ≠ .sell) ∨ (r.outcome ≠ .yes ∧ r.outcome ≠ .no) ∨
    (r.lastMasterchainSeqno == 0) ≠ (r.lastTransactionHash == "") ∨
    (r.lastMasterchainSeqno == 0) ≠ (r.lastFinalityViewID == "") ∨
    (r.lastTransactionHash ≠ "" ∧ ¬ canonicalDigest r.lastTransactionHash "sha256:") ∨
    (r.lastFinalityViewID ≠ "" ∧ ¬ canonicalDigest r.lastFinalityViewID "sha256:"))
    "prediction order reservation has invalid semantic state"
  validatePendingRisk P r
  refuse (isPortfolioOrderTerminal r.status ∧ (r.pendingCollateralAtomic ≠ 0 ∨ r.pendingPositionLots ≠ 0))
    "terminal prediction order retains pending risk"
  refuse ((r.status == .filled) ≠ (r.filledLots == r.quantityLots)) "prediction filled status conflicts with quantity"

def validatePositionExposure (key : PositionKey) (p : PositionExposure) : Except String Unit := do
  refuse (key ≠ portfolioPositionKey p.marketID p.outcome) "prediction position key does not match its identity"
  refuse (¬ canonicalDigest p.marketID "sha256:" ∨ ¬ P.validRawAddress p.marketAddress ∨
    ¬ canonicalDigest p.marketConfigHash "tvm-cell-sha256:" ∨ ¬ canonicalDigest p.contractCodeHash "tvm-cell-sha256:")
    "prediction position market identity is invalid"
  refuse ((p.masterchainSeqno == 0) ≠ (p.finalityViewID == "") ∨
    (p.finalityViewID ≠ "" ∧ ¬ canonicalDigest p.finalityViewID "sha256:") ∨
    (p.lastTransactionHash ≠ "" ∧ ¬ canonicalDigest p.lastTransactionHash "sha256:"))
    ("prediction position finality identity is invalid: seqno=" ++ toString p.masterchainSeqno ++ " view=" ++
      p.finalityViewID.quote)

def validatePortfolioDocument (d : PortfolioDocument) (profile : OwnerPortfolioProfile) : Except String Unit := do
  refuse (d.schemaVersion ≠ portfolioSchemaVersion ∨ d.profile ≠ profile ∨
    UInt32.ofNat d.orders.entries.length > profile.maximumOrderReservations)
    "invalid prediction portfolio document shape"
  let markets ← (d.orders.range o 2).foldlM (fun (markets : Finset String) e => do
    validateReservation P e.1 e.2
    pure (insert e.2.marketID markets)) ∅
  let markets ← (d.positions.range o 3).foldlM (fun (markets : Finset String) e => do
    validatePositionExposure P e.1 e.2
    pure (insert e.2.marketID markets)) markets
  refuse (UInt32.ofNat markets.card > profile.maximumMarkets ∨ validatePortfolioTotals o d ≠ .ok ())
    "prediction portfolio document exceeds limits"

/-- The check in front of the write. -/
def persist {α : Type} (d : PortfolioDocument) : Update PortfolioDocument α → Except String (Update PortfolioDocument α)
  | .keep v => .ok (.keep v)
  | .store next v =>
    match validatePortfolioDocument P o next d.profile with
    | .error e => .error ("refuse to persist invalid prediction owner portfolio: " ++ e)
    | .ok () => .ok (.store next v)

/-! ## Reserving an order -/

def validatePortfolioMarketSnapshot (marketID codeHash : String)
    (order : PredictionOrder) (snapshot : PortfolioMarketSnapshot) : Except String Unit :=
  refuse (¬ snapshot.quorumFinalized ∨ snapshot.ownerAddress ≠ profile.ownerAddress ∨
    snapshot.ownerAddress ≠ order.ownerAddress ∨ snapshot.marketID ≠ marketID ∨
    snapshot.marketAddress ≠ order.marketAddress ∨ snapshot.marketConfigHash ≠ order.marketConfigHash.1 ∨
    snapshot.contractCodeHash ≠ codeHash ∨ snapshot.lotPayout = 0 ∨ snapshot.masterchainSeqno = 0 ∨
    snapshot.observedAt = 0 ∨ ¬ canonicalDigest snapshot.finalityViewID "sha256:")
    "prediction portfolio snapshot is not finalized in the exact market domain"

/-- What the order can cost at most; none if the order has no cell or its cost overflows. -/
def portfolioRisk (order : PredictionOrder) (lotPayout : UInt64) : Option WorstCaseOrderRisk := do
  let digest ← P.orderDigest order
  let risk : WorstCaseOrderRisk :=
    { orderDigest := digest.1, ownerAddress := order.ownerAddress, marketAddress := order.marketAddress,
      action := order.action, outcome := order.outcome, quantityLots := order.quantityLots }
  if order.action = .buy then
    let value ← portfolioBuyRisk P.toMarketProtocol lotPayout order.limitPriceTick order.quantityLots
    pure { risk with collateralDebit := value }
  else pure { risk with positionDebit := order.quantityLots }

def reservationFromOrder (agentID marketID codeHash : String) (order : PredictionOrder) (risk : WorstCaseOrderRisk)
    (snapshot : PortfolioMarketSnapshot) : PortfolioOrderReservation where
  orderDigest := risk.orderDigest
  agentID := agentID
  marketID := marketID
  marketAddress := order.marketAddress
  marketConfigHash := order.marketConfigHash.1
  contractCodeHash := codeHash
  action := order.action
  outcome := order.outcome
  quantityLots := order.quantityLots
  limitPriceTick := order.limitPriceTick
  lotPayout := snapshot.lotPayout
  validUntil := order.validUntil
  pendingCollateralAtomic := risk.collateralDebit
  pendingPositionLots := risk.positionDebit
  status := .reserved

/-- What is left of a reservation when its progress is taken out. -/
def PortfolioOrderReservation.identity (r : PortfolioOrderReservation) : PortfolioOrderReservation :=
  { r with
    filledLots := 0, pendingCollateralAtomic := 0, pendingPositionLots := 0, cumulativeSpentAtomic := 0,
    cumulativeProceedsAtomic := 0, status := .reserved, lastTransactionHash := "", lastFinalityViewID := "",
    lastMasterchainSeqno := 0 }

def sameReservationIdentity (left right : PortfolioOrderReservation) : Bool := left.identity == right.identity

def PortfolioMarketSnapshot.lots (snapshot : PortfolioMarketSnapshot) (outcome : Outcome) : UInt64 :=
  if outcome = .no then snapshot.noLots else snapshot.yesLots

/-- The position of a market that was not recorded before. -/
def PortfolioMarketSnapshot.newPosition (snapshot : PortfolioMarketSnapshot) (outcome : Outcome) :
    PositionExposure where
  marketID := snapshot.marketID
  marketAddress := snapshot.marketAddress
  marketConfigHash := snapshot.marketConfigHash
  contractCodeHash := snapshot.contractCodeHash
  outcome := outcome

/-- The first part of `reconcilePortfolioPosition`: the position to compare with, and whether the snapshot may
follow it. -/
def comparedPosition (recorded : Option PositionExposure) (snapshot : PortfolioMarketSnapshot) (outcome : Outcome) :
    Except String PositionExposure :=
  match recorded with
  | none => pure (snapshot.newPosition outcome)
  | some position => do
    refuse (position.marketAddress ≠ snapshot.marketAddress ∨ position.marketConfigHash ≠ snapshot.marketConfigHash ∨
      position.contractCodeHash ≠ snapshot.contractCodeHash) "prediction position market identity changed"
    refuse (snapshot.masterchainSeqno < position.masterchainSeqno)
      "prediction position snapshot rolls back finalized state"
    refuse (snapshot.masterchainSeqno = position.masterchainSeqno ∧
      (snapshot.lots outcome ≠ position.lots ∨ snapshot.finalityViewID ≠ position.finalityViewID))
      "prediction position snapshot conflicts at one finalized checkpoint"
    refuse (snapshot.lots outcome < position.lots)
      "prediction position decreased without exact finalized fill/exit evidence"
    pure position

/-- The second part: lots beyond the recorded ones enter at their full payout. -/
def importLots (lots lotPayout : UInt64) : Except String PositionExposure :=
  let delta := lots - position.lots
  if delta = 0 then pure position else
    match (multiplyUint64 delta lotPayout).bind (addUint64 position.atRiskAtomic) with
    | none => throw "prediction imported position risk overflows"
    | some atRisk => pure { position with lots := lots, atRiskAtomic := atRisk }

def reconcilePortfolioPosition (positions : Map PositionKey PositionExposure) (snapshot : PortfolioMarketSnapshot)
    (outcome : Outcome) : Except String (Map PositionKey PositionExposure) := do
  let key := portfolioPositionKey snapshot.marketID outcome
  let position ← comparedPosition (positions.get? key) snapshot outcome
  let position ← importLots position (snapshot.lots outcome) snapshot.lotPayout
  let position := if snapshot.masterchainSeqno ≥ position.masterchainSeqno then
    { position with masterchainSeqno := snapshot.masterchainSeqno, finalityViewID := snapshot.finalityViewID }
    else position
  pure (positions.put key position)

/-- What the loop of `checkPortfolioReservationCapacity` collects. -/
structure MarketPending where
  markets : Finset String
  buy : UInt64
  sell : UInt64

/-- One round of that loop. -/
def addPending (pending : MarketPending) (prior : PortfolioOrderReservation) : Except String MarketPending :=
  let pending := { pending with markets := insert prior.marketID pending.markets }
  if isPortfolioOrderTerminal prior.status ∨ prior.marketID ≠ reservation.marketID then .ok pending
  else if prior.action = .buy then
    (addChecked pending.buy prior.pendingCollateralAtomic "prediction pending collateral overflows").map fun buy =>
      { pending with buy := buy }
  else if prior.outcome = reservation.outcome then
    (addChecked pending.sell prior.pendingPositionLots "prediction pending position overflows").map fun sell =>
      { pending with sell := sell }
  else .ok pending

def checkPortfolioReservationCapacity (d : PortfolioDocument) (reservation : PortfolioOrderReservation)
    (snapshot : PortfolioMarketSnapshot) : Except String Unit := do
  let pending ← (d.orders.range o 4).foldlM (fun pending e => addPending reservation pending e.2)
    { markets := {reservation.marketID}, buy := reservation.pendingCollateralAtomic,
      sell := reservation.pendingPositionLots }
  refuse (UInt32.ofNat pending.markets.card > d.profile.maximumMarkets)
    "prediction owner portfolio market capacity reached"
  refuse (reservation.action = .buy ∧ pending.buy > snapshot.freeBalance)
    "prediction owner has insufficient unreserved market collateral"
  refuse (reservation.action = .sell ∧ pending.sell > snapshot.lots reservation.outcome)
    "prediction owner has insufficient unreserved market position"
  validatePortfolioTotals o { d with orders := d.orders.put reservation.orderDigest reservation }

def portfolioKey : String :=
  P.sha256Hex ("\x00".intercalate [profile.ownerID, profile.ownerAddress, profile.networkDomainHash,
    profile.sourceAgentAccount, profile.collateralAssetID])

def portfolioReservationProof (d : PortfolioDocument) (reservation : PortfolioOrderReservation) :
    Except String PortfolioReservationProof := do
  let reservationDigest ← P.reservationDigest reservation
  match portfolioTotals o d with
  | none => throw "prediction portfolio totals overflow"
  | some (atRisk, positionLots) =>
    pure
      { schemaVersion := portfolioSchemaVersion, portfolioKey := "sha256:" ++ portfolioKey P d.profile,
        revision := d.revision, orderDigest := reservation.orderDigest, reservationDigest := reservationDigest,
        aggregateAtRiskAtomic := atRisk, aggregatePositionLots := positionLots,
        finalizedProceedsAtomic := d.finalizedProceedsAtomic }

structure ReserveRequest where
  ownerID : String
  agentID : String
  networkDomainHash : String
  marketID : String
  contractCodeHash : String
  order : PredictionOrder
  risk : WorstCaseOrderRisk
  snapshot : PortfolioMarketSnapshot

variable (opened : Bool) (d : PortfolioDocument)

def reserveOrder (q : ReserveRequest) :
    Except String (Update PortfolioDocument (PortfolioOrderReservation × PortfolioReservationProof)) := do
  refuse (q.ownerID = "" ∨ q.agentID = "" ∨ ¬ canonicalDigest q.networkDomainHash "sha256:" ∨
    ¬ canonicalDigest q.marketID "sha256:" ∨ ¬ canonicalDigest q.contractCodeHash "tvm-cell-sha256:")
    "prediction portfolio reservation is invalid"
  refuse (¬ opened) "prediction owner portfolio is closed"
  refuse (q.ownerID ≠ d.profile.ownerID ∨ q.networkDomainHash ≠ d.profile.networkDomainHash)
    "prediction reservation is outside the owner portfolio key"
  validatePortfolioMarketSnapshot d.profile q.marketID q.contractCodeHash q.order q.snapshot
  refuse (portfolioRisk P q.order q.snapshot.lotPayout ≠ some q.risk)
    "prediction order risk does not match exact order economics"
  let reservation := reservationFromOrder q.agentID q.marketID q.contractCodeHash q.order q.risk q.snapshot
  match d.orders.get? q.risk.orderDigest with
  | some prior => do
    refuse (¬ sameReservationIdentity prior reservation)
      "prediction order reservation conflicts with durable identity"
    refuse (isPortfolioOrderTerminal prior.status) "terminal prediction order reservation cannot be reactivated"
    let proof ← portfolioReservationProof P o d prior
    pure (.keep (prior, proof))
  | none => do
    refuse (UInt32.ofNat d.orders.entries.length ≥ d.profile.maximumOrderReservations)
      "prediction owner portfolio order capacity reached"
    let positions ← reconcilePortfolioPosition d.positions q.snapshot .yes
    let positions ← reconcilePortfolioPosition positions q.snapshot .no
    let imported := { d with positions := positions }
    checkPortfolioReservationCapacity o imported reservation q.snapshot
    let next := { imported with
      revision := imported.revision + 1, orders := imported.orders.put q.risk.orderDigest reservation }
    let proof ← portfolioReservationProof P o next reservation
    pure (.store next (reservation, proof))

/-! ## Progress of an order -/

def markOrderBroadcastState (orderDigest : String) (state : PortfolioOrderStatus) :
    Except String (Update PortfolioDocument Unit) := do
  refuse (state ≠ .broadcasting ∧ state ≠ .ambiguous) "invalid prediction broadcast risk state"
  match d.orders.get? orderDigest with
  | none => throw "prediction order reservation is unavailable"
  | some reservation => do
    refuse (¬ opened ∨ isPortfolioOrderTerminal reservation.status) "prediction order reservation is unavailable"
    if reservation.status = state then pure (.keep ())
    else pure (.store { d with
      revision := d.revision + 1, orders := d.orders.put orderDigest { reservation with status := state } } ())

/-- The risk left when `sold` of `lots` lots go: the released share is rounded down. -/
def remainingPositionRisk (atRisk lots sold : UInt64) : UInt64 :=
  if sold ≥ lots then 0 else atRisk - atRisk / lots * sold

/-- What a fill changes: the position, the pending amounts of its reservation and the proceeds. -/
structure FillEffect where
  position : PositionExposure
  reservation : PortfolioOrderReservation
  proceeds : UInt64

def buyFill (position : PositionExposure) (reservation : PortfolioOrderReservation)
    (evidence : PortfolioFillEvidence) : Except String FillEffect := do
  let delta := evidence.cumulativeFilledLots - reservation.filledLots
  let spentDelta := evidence.cumulativeSpentAtomic - reservation.cumulativeSpentAtomic
  match portfolioBuyRisk P.toMarketProtocol reservation.lotPayout reservation.limitPriceTick
      evidence.cumulativeFilledLots with
  | none => throw "prediction BUY fill exceeds its reserved limit"
  | some maximumSpent => do
    refuse (evidence.cumulativeSpentAtomic > maximumSpent ∨ evidence.cumulativeProceedsAtomic ≠ 0 ∨
      position.lots > (0 - 1) - delta ∨ position.atRiskAtomic > (0 - 1) - spentDelta)
      "prediction BUY fill exceeds its reserved limit"
    match portfolioBuyRisk P.toMarketProtocol reservation.lotPayout reservation.limitPriceTick
        (reservation.quantityLots - evidence.cumulativeFilledLots) with
    | none => throw "prediction BUY remaining risk overflows"
    | some remainingRisk =>
      pure
        { position := { position with
            lots := position.lots + delta, atRiskAtomic := position.atRiskAtomic + spentDelta }
          reservation := { reservation with pendingCollateralAtomic := remainingRisk }
          proceeds := d.finalizedProceedsAtomic }

def sellFill (position : PositionExposure) (reservation : PortfolioOrderReservation)
    (evidence : PortfolioFillEvidence) : Except String FillEffect := do
  let delta := evidence.cumulativeFilledLots - reservation.filledLots
  refuse (evidence.cumulativeSpentAtomic ≠ 0 ∨ position.lots < delta)
    "prediction SELL fill conflicts with realized position"
  let proceedsDelta := evidence.cumulativeProceedsAtomic - reservation.cumulativeProceedsAtomic
  refuse (d.finalizedProceedsAtomic > (0 - 1) - proceedsDelta) "prediction finalized SELL proceeds overflow"
  pure
    { position := { position with
        atRiskAtomic := remainingPositionRisk position.atRiskAtomic position.lots delta
        lots := position.lots - delta }
      reservation := { reservation with
        pendingPositionLots := reservation.quantityLots - evidence.cumulativeFilledLots }
      proceeds := d.finalizedProceedsAtomic + proceedsDelta }

/-- The checkpoint a position was last changed at. -/
def PositionExposure.at (seqno : UInt64) (view transaction : String) : PositionExposure :=
  { position with masterchainSeqno := seqno, finalityViewID := view, lastTransactionHash := transaction }

/-- The checkpoint a reservation was last changed at. -/
def PortfolioOrderReservation.at (seqno : UInt64) (view transaction : String) : PortfolioOrderReservation :=
  { reservation with
    lastMasterchainSeqno := seqno, lastFinalityViewID := view, lastTransactionHash := transaction }

/-- The reservation after a fill, its pending amounts set already. -/
def PortfolioOrderReservation.filledTo (evidence : PortfolioFillEvidence) : PortfolioOrderReservation :=
  { reservation.at evidence.masterchainSeqno evidence.finalityViewID evidence.transactionHash with
    filledLots := evidence.cumulativeFilledLots
    cumulativeSpentAtomic := evidence.cumulativeSpentAtomic
    cumulativeProceedsAtomic := evidence.cumulativeProceedsAtomic
    status := if evidence.cumulativeFilledLots = reservation.quantityLots then .filled else .partiallyFilled }

def afterFill (evidence : PortfolioFillEvidence) (key : PositionKey) (effect : FillEffect) : PortfolioDocument :=
  { d with
    revision := d.revision + 1
    finalizedProceedsAtomic := effect.proceeds
    positions := d.positions.put key
      (effect.position.at evidence.masterchainSeqno evidence.finalityViewID evidence.transactionHash)
    orders := d.orders.put evidence.orderDigest (effect.reservation.filledTo evidence) }

def applyFinalizedFill (evidence : PortfolioFillEvidence) : Except String (Update PortfolioDocument Unit) := do
  refuse (¬ evidence.quorumFinalized ∨ ¬ canonicalDigest evidence.orderDigest "sha256:" ∨
    ¬ canonicalDigest evidence.transactionHash "sha256:" ∨ ¬ canonicalDigest evidence.finalityViewID "sha256:" ∨
    evidence.masterchainSeqno = 0)
    "prediction portfolio fill evidence is not finalized"
  match d.orders.get? evidence.orderDigest with
  | none => throw "prediction fill conflicts with owner portfolio"
  | some reservation => do
    refuse (¬ opened ∨ isPortfolioOrderTerminal reservation.status ∨
      evidence.cumulativeFilledLots < reservation.filledLots ∨
      evidence.cumulativeFilledLots > reservation.quantityLots ∨
      evidence.cumulativeSpentAtomic < reservation.cumulativeSpentAtomic ∨
      evidence.cumulativeProceedsAtomic < reservation.cumulativeProceedsAtomic)
      "prediction fill conflicts with owner portfolio"
    if evidence.cumulativeFilledLots = reservation.filledLots then
      refuse (evidence.cumulativeSpentAtomic ≠ reservation.cumulativeSpentAtomic ∨
        evidence.cumulativeProceedsAtomic ≠ reservation.cumulativeProceedsAtomic ∨
        evidence.transactionHash ≠ reservation.lastTransactionHash ∨
        evidence.finalityViewID ≠ reservation.lastFinalityViewID ∨
        evidence.masterchainSeqno ≠ reservation.lastMasterchainSeqno)
        "same prediction fill has conflicting finality evidence"
      pure (.keep ())
    else
      let key := portfolioPositionKey reservation.marketID reservation.outcome
      let position := d.positions.getD key {}
      refuse (evidence.masterchainSeqno < position.masterchainSeqno ∨
        evidence.masterchainSeqno < reservation.lastMasterchainSeqno)
        "prediction fill evidence rolls back finalized portfolio state"
      let effect ← if reservation.action = .buy then buyFill P d position reservation evidence
        else sellFill d position reservation evidence
      let next := afterFill d evidence key effect
      refuse (validatePortfolioTotals o next ≠ .ok ()) "prediction fill violates owner-wide portfolio limits"
      pure (.store next ())

/-- Position changes outside a tracked SELL order; they only go down. -/
def applyFinalizedPositionExit (evidence : PortfolioPositionExitEvidence) :
    Except String (Update PortfolioDocument Unit) := do
  refuse (¬ evidence.quorumFinalized ∨ ¬ canonicalDigest evidence.marketID "sha256:" ∨
    ¬ P.validRawAddress evidence.marketAddress ∨ ¬ canonicalDigest evidence.marketConfigHash "tvm-cell-sha256:" ∨
    ¬ canonicalDigest evidence.contractCodeHash "tvm-cell-sha256:" ∨
    ¬ canonicalDigest evidence.transactionHash "sha256:" ∨ ¬ canonicalDigest evidence.finalityViewID "sha256:" ∨
    evidence.masterchainSeqno = 0 ∨ (evidence.outcome ≠ .yes ∧ evidence.outcome ≠ .no))
    "prediction position exit evidence is not finalized"
  let key := portfolioPositionKey evidence.marketID evidence.outcome
  match d.positions.get? key with
  | none => throw "prediction position exit conflicts with owner portfolio"
  | some position => do
    refuse (¬ opened ∨ position.marketAddress ≠ evidence.marketAddress ∨
      position.marketConfigHash ≠ evidence.marketConfigHash ∨ position.contractCodeHash ≠ evidence.contractCodeHash ∨
      evidence.remainingLots > position.lots ∨ evidence.masterchainSeqno < position.masterchainSeqno ∨
      (evidence.reason = .claim ∧ evidence.remainingLots ≠ 0))
      "prediction position exit conflicts with owner portfolio"
    if evidence.masterchainSeqno = position.masterchainSeqno then
      refuse (¬ (evidence.remainingLots = position.lots ∧ evidence.finalityViewID = position.finalityViewID ∧
        evidence.transactionHash = position.lastTransactionHash))
        "prediction position exit conflicts at one finalized checkpoint"
      pure (.keep ())
    else
      let exited := position.lots - evidence.remainingLots
      let position := { position with
        atRiskAtomic := remainingPositionRisk position.atRiskAtomic position.lots exited
        lots := evidence.remainingLots }
      pure (.store { d with
        revision := d.revision + 1
        positions := d.positions.put key
          (position.at evidence.masterchainSeqno evidence.finalityViewID evidence.transactionHash) } ())

def inactiveStatus : PortfolioInactiveReason → PortfolioOrderStatus
  | .canceled => .cancelConfirmed
  | .expired => .expiredConfirmed
  | .nonceFloor => .nonceInvalidated
  | .keyRotation => .keyInvalidated

def confirmOrderInactive (evidence : PortfolioInactiveEvidence) : Except String (Update PortfolioDocument Unit) := do
  refuse (¬ evidence.quorumFinalized ∨ ¬ canonicalDigest evidence.orderDigest "sha256:" ∨
    ¬ canonicalDigest evidence.transactionHash "sha256:" ∨ ¬ canonicalDigest evidence.finalityViewID "sha256:" ∨
    evidence.masterchainSeqno = 0)
    "prediction inactive-order evidence is not finalized"
  match d.orders.get? evidence.orderDigest with
  | none => throw "prediction order cannot release pending risk"
  | some reservation => do
    refuse (¬ opened ∨ reservation.status = .filled) "prediction order cannot release pending risk"
    let status := inactiveStatus evidence.reason
    refuse (evidence.reason = .expired ∧ evidence.chainTime < reservation.validUntil)
      "prediction order inactivity is not proven"
    if isPortfolioOrderTerminal reservation.status then
      refuse (reservation.status ≠ status ∨ reservation.lastTransactionHash ≠ evidence.transactionHash ∨
        reservation.lastFinalityViewID ≠ evidence.finalityViewID ∨
        reservation.lastMasterchainSeqno ≠ evidence.masterchainSeqno)
        "terminal prediction order received conflicting evidence"
      pure (.keep ())
    else
      refuse (evidence.masterchainSeqno < reservation.lastMasterchainSeqno)
        "prediction inactivity evidence rolls back finalized state"
      let reservation := { reservation with
        pendingCollateralAtomic := 0, pendingPositionLots := 0, status := status }
      pure (.store { d with
        revision := d.revision + 1
        orders := d.orders.put evidence.orderDigest
          (reservation.at evidence.masterchainSeqno evidence.finalityViewID evidence.transactionHash) } ())

/-! ## The ledger -/

inductive PortfolioOperation
  | reserveOrder (q : ReserveRequest)
  | markOrderBroadcastState (orderDigest : String) (state : PortfolioOrderStatus)
  | applyFinalizedFill (evidence : PortfolioFillEvidence)
  | applyFinalizedPositionExit (evidence : PortfolioPositionExitEvidence)
  | confirmOrderInactive (evidence : PortfolioInactiveEvidence)

/-- What an operation decides under its own checks. -/
def PortfolioOperation.update : PortfolioOperation → Except String (Update PortfolioDocument Unit)
  | .reserveOrder q => (Prediction.reserveOrder P o opened d q).map (·.map fun _ => ())
  | .markOrderBroadcastState orderDigest state => Prediction.markOrderBroadcastState opened d orderDigest state
  | .applyFinalizedFill evidence => Prediction.applyFinalizedFill P o opened d evidence
  | .applyFinalizedPositionExit evidence => Prediction.applyFinalizedPositionExit P opened d evidence
  | .confirmOrderInactive evidence => Prediction.confirmOrderInactive opened d evidence

/-- An operation and the order in which its loops visit the maps. -/
structure PortfolioCall where
  order : RangeOrder
  operation : PortfolioOperation

/-- `loadOrInitialize` on a stored document. -/
def loadPortfolio (stored : PortfolioDocument) : Except String PortfolioDocument := do
  refuse (validatePortfolioDocument P o stored profile ≠ .ok ()) "prediction owner portfolio state is corrupt"
  pure stored

/-- The ledger of one profile; `o` is the order in which loads visit the maps. -/
def portfolioLedger : Machine PortfolioDocument PortfolioDocument PortfolioCall where
  save := id
  load := loadPortfolio P o profile
  call opened c d := c.operation.update P c.order opened d >>= persist P c.order d

end OpenFox.Prediction
