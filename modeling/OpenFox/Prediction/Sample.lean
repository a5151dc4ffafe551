/-
A small concrete market protocol, owner, market and order book for runs that can be evaluated. An order's digest is
read off its nonce; the order builder refuses what the market protocol refuses.
-/
import OpenFox.Prediction.Book
import OpenFox.Prediction.Portfolio

namespace OpenFox.Prediction.Sample

open OpenFox.Go OpenFox.Base

def asWritten : RangeOrder := ⟨fun _ l => l, fun _ l => List.Perm.refl l⟩

def digestA : SHA256 := ⟨"sha256:0100000000000000000000000000000000000000000000000000000000000000", by decide +kernel⟩
def digestB : SHA256 := ⟨"sha256:0200000000000000000000000000000000000000000000000000000000000000", by decide +kernel⟩
def network : String := "sha256:0300000000000000000000000000000000000000000000000000000000000000"
def asset : String := "sha256:0400000000000000000000000000000000000000000000000000000000000000"
def market : String := "sha256:0500000000000000000000000000000000000000000000000000000000000000"
def view1 : String := "sha256:0600000000000000000000000000000000000000000000000000000000000000"
def transaction1 : String := "sha256:0700000000000000000000000000000000000000000000000000000000000000"
def code : String := "tvm-cell-sha256:0800000000000000000000000000000000000000000000000000000000000000"

def config : CellHash :=
  ⟨"tvm-cell-sha256:0900000000000000000000000000000000000000000000000000000000000000", by decide +kernel⟩

def accepts (order : PredictionOrder) : Bool :=
  order.quantityLots ≠ 0 ∧ order.validUntil ≠ 0 ∧ (order.limitPriceTick ≠ 0 ∧ order.limitPriceTick < 10) ∧
    (order.action = .buy ∨ order.action = .sell) ∧ (order.outcome = .yes ∨ order.outcome = .no) ∧
      order.marketAddress = "market"

def protocol : PortfolioProtocol where
  priceScale := 10
  orderDigest order := if accepts order then some (if order.nonce = 1 then digestA else digestB) else none
  validRawAddress address := address == "market" || address == "owner" || address == "agent account"
  sha256Hex text := text
  reservationDigest r := .ok r.orderDigest

theorem accepts_of_digest {order : PredictionOrder} {digest : SHA256} (hd : protocol.orderDigest order = some digest) :
    order.quantityLots ≠ 0 ∧ order.validUntil ≠ 0 ∧ (order.limitPriceTick ≠ 0 ∧ order.limitPriceTick < 10) ∧
      (order.action = .buy ∨ order.action = .sell) ∧ (order.outcome = .yes ∨ order.outcome = .no) ∧
      order.marketAddress = "market" := by
  by_cases h : accepts order = true
  · exact of_decide_eq_true h
  · simp [protocol, h] at hd

theorem orderRules : OrderRules protocol.toMarketProtocol where
  quantity hd := (accepts_of_digest hd).1
  expiry hd := (accepts_of_digest hd).2.1
  price hd := (accepts_of_digest hd).2.2.1
  action hd := (accepts_of_digest hd).2.2.2.1
  outcome hd := (accepts_of_digest hd).2.2.2.2.1
  address hd := by simp [protocol, (accepts_of_digest hd).2.2.2.2.2]

/-- An owner who may hold `lots` lots and risk 1000. -/
def owner (lots : UInt64) : OwnerPortfolioProfile where
  ownerID := "owner id"
  ownerAddress := "owner"
  networkDomainHash := network
  sourceAgentAccount := "agent account"
  collateralAssetID := asset
  maximumAtRiskAtomic := 1000
  maximumPositionLots := lots
  maximumOrderReservations := 10
  maximumMarkets := 10

/-- A bid for ten YES lots at half their payout. -/
def bid (nonce : UInt64) : PredictionOrder where
  globalID := 1
  workchainID := 0
  marketAddress := "market"
  marketConfigHash := config
  ownerAddress := "owner"
  keyEpoch := 1
  nonce := nonce
  action := .buy
  outcome := .yes
  quantityLots := 10
  limitPriceTick := 5
  validAfter := 1
  validUntil := 100
  terms := ""

/-- The market as seen at `seqno`: the owner holds `yesLots`, a lot pays 10. -/
def snapshot (seqno yesLots : UInt64) : PortfolioMarketSnapshot where
  ownerAddress := "owner"
  marketID := market
  marketAddress := "market"
  marketConfigHash := config.1
  contractCodeHash := code
  lotPayout := 10
  freeBalance := 1000
  yesLots := yesLots
  noLots := 0
  masterchainSeqno := seqno
  observedAt := 1
  finalityViewID := view1
  quorumFinalized := true

def request (nonce seqno yesLots : UInt64) : ReserveRequest where
  ownerID := "owner id"
  agentID := "agent"
  networkDomainHash := network
  marketID := market
  contractCodeHash := code
  order := bid nonce
  snapshot := snapshot seqno yesLots
  risk :=
    { orderDigest := (if nonce = 1 then digestA else digestB).1, ownerAddress := "owner", marketAddress := "market"
      action := .buy, outcome := .yes, quantityLots := 10, collateralDebit := 50 }

def reserve (nonce seqno yesLots : UInt64) : PortfolioOperation := .reserveOrder (request nonce seqno yesLots)

/-- Evidence that the first bid filled `lots` lots for `spent` by `seqno`. -/
def fillEvidence (seqno lots spent : UInt64) : PortfolioFillEvidence where
  orderDigest := digestA.1
  cumulativeFilledLots := lots
  cumulativeSpentAtomic := spent
  cumulativeProceedsAtomic := 0
  transactionHash := transaction1
  finalityViewID := view1
  masterchainSeqno := seqno
  quorumFinalized := true

def call (operation : PortfolioOperation) : PortfolioCall := ⟨asWritten, operation⟩

def stored (operation : PortfolioOperation) : MachineEvent PortfolioCall := .call .stored (call operation)

/-! ## A book -/

def cellA : CellHash :=
  ⟨"tvm-cell-sha256:0a00000000000000000000000000000000000000000000000000000000000000", by decide +kernel⟩
def cellB : CellHash :=
  ⟨"tvm-cell-sha256:0b00000000000000000000000000000000000000000000000000000000000000", by decide +kernel⟩

/-- Two signed bids: `"1"` at price 5 and `"2"` at price 3. -/
def bookProtocol : BookProtocol where
  toMarketProtocol := protocol.toMarketProtocol
  canonicalBOC boc := boc == "1" || boc == "2"
  decodeSigned boc :=
    if boc = "1" then .ok { order := bid 1, publicKey := "key", orderDigest := cellA, orderCellHash := cellA }
    else .ok {
      order := { bid 2 with limitPriceTick := 3 }, publicKey := "key", orderDigest := cellB, orderCellHash := cellB }
  encodeBase64 boc := boc
  decodeBase64 text := some text

def bookProfile : MarketProfile where
  globalID := 1
  workchainID := 0
  networkDomainHash := network
  marketID := market
  marketAddress := "market"
  marketConfigHash := config.1
  contractCodeHash := code
  tradeClose := 100
  lotPayout := 10
  marketMinFillLots := 1
  maxOrders := 10
  maxOrdersPerOwner := 10
  maxSnapshotAge := 300

end OpenFox.Prediction.Sample
