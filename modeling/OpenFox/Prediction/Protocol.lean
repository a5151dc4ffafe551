/-
What the prediction package takes from the market protocol: actions and outcomes, orders, hashes by
their texts, and the library functions its ledgers call. The library is not part of the repository, so the
ledgers are modelled over an arbitrary `MarketProtocol`.
-/
import OpenFox.Go.Map
import OpenFox.Go.Result
import OpenFox.Go.Text
import OpenFox.Go.Uint64

namespace OpenFox.Prediction

open OpenFox.Go

/-- A market knows `buy` and `sell`; the type has other values. -/
inductive Action
  | buy | sell | other (value : UInt8)
deriving DecidableEq, Inhabited

/-- `invalid` is a resolution only: a market trades `yes` and `no`. -/
inductive Outcome
  | yes | no | invalid
deriving DecidableEq, Inhabited

/-! ## Digests -/

/-- The only accepted spelling of a digest: the lead, then 64 lower-case hexadecimal digits. -/
def canonicalDigest (value lead : String) : Bool :=
  let bytes := value.toByteArray.data.toList
  let head := lead.toByteArray.data.toList
  bytes.take head.length == head && bytes.length == head.length + 64 && (bytes.drop head.length).all isLowerHex

/-- `Hash32.SHA256String()`. -/
abbrev SHA256 := { text : String // canonicalDigest text "sha256:" = true }

/-- `Hash32.CellHashString()`. -/
abbrev CellHash := { text : String // canonicalDigest text "tvm-cell-sha256:" = true }

theorem canonicalDigest_ne_empty {value lead : String} (hc : canonicalDigest value lead = true) : value ≠ "" := by
  rintro rfl
  simp only [canonicalDigest, Bool.and_eq_true, beq_iff_eq] at hc
  have hlength : (0 : ℕ) = lead.toByteArray.data.toList.length + 64 := hc.1.2
  omega

/-! ## Orders -/

/-- An order as it is signed. `terms` stands for what enters its cell and is not read here: the salt, the
liquidity role and the conditions on partial fills. -/
structure PredictionOrder where
  globalID : Int32
  workchainID : Int8
  marketAddress : String
  marketConfigHash : CellHash
  ownerAddress : String
  keyEpoch : UInt32
  nonce : UInt64
  action : Action
  outcome : Outcome
  quantityLots : UInt64
  limitPriceTick : UInt16
  validAfter : UInt64
  validUntil : UInt64
  terms : Bytes
deriving DecidableEq

structure MarketProtocol where
  /-- `protocol.PriceScale` -/
  priceScale : UInt16
  /-- `BuildPredictionOrderCell`, then `PredictionOrderDigest` -/
  orderDigest : PredictionOrder → Option SHA256
  /-- `validRawAddress`, which asks the address library -/
  validRawAddress : String → Bool
  /-- the hexadecimal SHA-256 of a text -/
  sha256Hex : Bytes → String

/-- What the order builder of the market protocol accepts. -/
structure OrderRules (P : MarketProtocol) : Prop where
  quantity : ∀ {order digest}, P.orderDigest order = some digest → order.quantityLots ≠ 0
  expiry : ∀ {order digest}, P.orderDigest order = some digest → order.validUntil ≠ 0
  price : ∀ {order digest}, P.orderDigest order = some digest →
    order.limitPriceTick ≠ 0 ∧ order.limitPriceTick < P.priceScale
  action : ∀ {order digest}, P.orderDigest order = some digest → order.action = .buy ∨ order.action = .sell
  outcome : ∀ {order digest}, P.orderDigest order = some digest → order.outcome = .yes ∨ order.outcome = .no
  address : ∀ {order digest}, P.orderDigest order = some digest → P.validRawAddress order.marketAddress = true

/-- An order a market trades: what the ledger validates of it once it is reserved. -/
structure Tradable (P : MarketProtocol) (order : PredictionOrder) : Prop where
  quantity : order.quantityLots ≠ 0
  expiry : order.validUntil ≠ 0
  action : order.action = .buy ∨ order.action = .sell
  outcome : order.outcome = .yes ∨ order.outcome = .no
  address : P.validRawAddress order.marketAddress = true

theorem OrderRules.tradable {P : MarketProtocol} (rules : OrderRules P) {order : PredictionOrder} {digest : SHA256}
    (hd : P.orderDigest order = some digest) : Tradable P order :=
  ⟨rules.quantity hd, rules.expiry hd, rules.action hd, rules.outcome hd, rules.address hd⟩

/-! ## Arithmetic -/

/-- `multiplyUint64`: the product, unless it overflows. -/
def multiplyUint64 (left right : UInt64) : Option UInt64 :=
  if right ≠ 0 ∧ left > (0 - 1) / right then none else some (left * right)

theorem multiplyUint64_eq_some {left right product : UInt64} :
    multiplyUint64 left right = some product ↔ product.toNat = left.toNat * right.toNat := by
  have hmax : ((0 : UInt64) - 1).toNat = 2 ^ 64 - 1 := rfl
  have hzero : (0 : UInt64).toNat = 0 := rfl
  have hp := product.toNat_lt
  unfold multiplyUint64
  by_cases hr : right = 0
  · subst hr
    simp [← UInt64.toNat_inj, eq_comm]
  · have hr' : 0 < right.toNat := by
      rcases Nat.eq_zero_or_pos right.toNat with h | h
      · exact absurd (UInt64.toNat_inj.1 (h.trans hzero.symm)) hr
      · exact h
    split
    · rename_i hover
      have hlt := UInt64.lt_iff_toNat_lt.1 hover.2
      rw [UInt64.toNat_div, hmax, Nat.div_lt_iff_lt_mul hr'] at hlt
      simp only [reduceCtorEq, false_iff]
      omega
    · rename_i hfit
      have hle : ¬ (left > (0 - 1) / right) := fun h => hfit ⟨hr, h⟩
      rw [gt_iff_lt, UInt64.lt_iff_toNat_lt, UInt64.toNat_div, hmax, Nat.div_lt_iff_lt_mul hr'] at hle
      rw [Option.some.injEq, ← UInt64.toNat_inj, UInt64.toNat_mul, Nat.mod_eq_of_lt (by omega), eq_comm]

theorem multiplyUint64_of_lt {left right : UInt64} (hfit : left.toNat * right.toNat < 2 ^ 64) :
    multiplyUint64 left right = some (UInt64.ofNat (left.toNat * right.toNat)) :=
  multiplyUint64_eq_some.2 (UInt64.toNat_ofNat_of_lt' hfit)

variable (P : MarketProtocol)

/-- `portfolioBuyRisk`: what buying `quantity` lots costs at most at this price. -/
def portfolioBuyRisk (lotPayout : UInt64) (price : UInt16) (quantity : UInt64) : Option UInt64 :=
  if lotPayout = 0 ∨ lotPayout % P.priceScale.toUInt64 ≠ 0 ∨ price = 0 ∨ price ≥ P.priceScale then none
  else
    (multiplyUint64 (lotPayout / P.priceScale.toUInt64) price.toUInt64).bind fun base => multiplyUint64 base quantity

/-- A payout and a price an order can have. -/
def Priced (lotPayout : UInt64) (price : UInt16) : Prop :=
  ¬ (lotPayout = 0 ∨ lotPayout % P.priceScale.toUInt64 ≠ 0 ∨ price = 0 ∨ price ≥ P.priceScale)

instance (lotPayout : UInt64) (price : UInt16) : Decidable (Priced P lotPayout price) :=
  inferInstanceAs (Decidable (¬ _))

/-- The price of one lot. -/
def lotCost (lotPayout : UInt64) (price : UInt16) : ℕ := lotPayout.toNat / P.priceScale.toNat * price.toNat

variable {P}

theorem portfolioBuyRisk_eq_some {lotPayout quantity risk : UInt64} {price : UInt16} :
    portfolioBuyRisk P lotPayout price quantity = some risk ↔
      Priced P lotPayout price ∧ risk.toNat = lotCost P lotPayout price * quantity.toNat := by
  unfold portfolioBuyRisk
  split
  · rename_i hbad
    simp [Priced, hbad]
  · rename_i hgood
    have hprice : price.toNat < P.priceScale.toNat := by
      have hnot : ¬ (price ≥ P.priceScale) := fun h => hgood (.inr (.inr (.inr h)))
      rw [ge_iff_le, UInt16.le_iff_toNat_le] at hnot
      omega
    have hbase : (lotPayout / P.priceScale.toUInt64).toNat * price.toUInt64.toNat = lotCost P lotPayout price := by
      rw [UInt64.toNat_div, UInt16.toNat_toUInt64, UInt16.toNat_toUInt64, lotCost]
    -- a price below the scale keeps the cost of one lot below its payout
    have hfit : lotCost P lotPayout price < 2 ^ 64 := by
      have h1 : lotCost P lotPayout price ≤ lotPayout.toNat / P.priceScale.toNat * P.priceScale.toNat :=
        Nat.mul_le_mul_left _ hprice.le
      have h2 := Nat.div_mul_le_self lotPayout.toNat P.priceScale.toNat
      have h3 := lotPayout.toNat_lt
      omega
    have hmul := multiplyUint64_of_lt (hbase ▸ hfit)
    rw [hmul, Option.bind_some, multiplyUint64_eq_some, hbase, UInt64.toNat_ofNat_of_lt' hfit]
    exact ⟨fun h => ⟨hgood, h⟩, fun h => h.2⟩

theorem portfolioBuyRisk_of_lt {lotPayout : UInt64} (quantity : UInt64) {price : UInt16} (hp : Priced P lotPayout price)
    (hfit : lotCost P lotPayout price * quantity.toNat < 2 ^ 64) :
    portfolioBuyRisk P lotPayout price quantity = some (UInt64.ofNat (lotCost P lotPayout price * quantity.toNat)) :=
  portfolioBuyRisk_eq_some.2 ⟨hp, UInt64.toNat_ofNat_of_lt' hfit⟩

end OpenFox.Prediction
