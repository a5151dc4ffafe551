/-
The order book of one market: signed orders by digest, with a search index over the live ones that is not
stored but kept beside the document, order by order, and rebuilt when the book is opened.
-/
import OpenFox.Base.Durable
import OpenFox.Go.Search
import OpenFox.Prediction.Protocol

namespace OpenFox.Prediction

open OpenFox.Go OpenFox.Base

/-! ## The document -/

structure MarketProfile where
  globalID : Int32
  workchainID : Int8
  networkDomainHash : String
  marketID : String
  marketAddress : String
  marketConfigHash : String
  contractCodeHash : String
  tradeClose : UInt64
  lotPayout : UInt64
  marketMinFillLots : UInt64
  maxOrders : UInt32
  maxOrdersPerOwner : UInt32
  maxSnapshotAge : UInt64
deriving DecidableEq

/-- Public keys are kept by their hexadecimal text. -/
structure ChainAccountSnapshot where
  ownerAddress : String
  tradingPublicKey : String
  keyEpoch : UInt32
  nonceFloor : UInt64
  freeBalance : UInt64
  yesLots : UInt64
  noLots : UInt64
  observedAt : UInt64
  finalized : Bool
  marketConfigHash : String
  finalityViewID : String

inductive OrderStatus
  | live | filled | canceled
deriving DecidableEq, Inhabited

structure OrderRecord where
  digest : String
  orderCellHash : String
  tradingPublicKey : String
  signedOrderBOC : String
  order : PredictionOrder
  status : OrderStatus
  cumulativeFilled : UInt64 := 0
  lastFinalizedTxHash : String := ""
  finalityViewID : String := ""
deriving DecidableEq

structure BookDocument where
  schemaVersion : UInt16
  revision : UInt64
  profile : MarketProfile
  orders : Map String OrderRecord

/-- The live orders by outcome and action, then by price: their digests in ascending order. -/
abbrev SearchIndex := Map (Outcome × Action) (Map UInt16 (List String))

structure Book where
  doc : BookDocument
  search : SearchIndex

def emptyBook (profile : MarketProfile) : Book where
  doc := { schemaVersion := 1, revision := 0, profile := profile, orders := ∅ }
  search := ∅

/-! ## The library -/

/-- What decoding and verifying a signed order yields. -/
structure SignedPredictionOrder where
  order : PredictionOrder
  publicKey : String
  orderDigest : CellHash
  orderCellHash : CellHash
deriving DecidableEq

structure BookProtocol extends MarketProtocol where
  /-- `cell.FromBOC`, and the cell encodes to the same bytes -/
  canonicalBOC : Bytes → Bool
  /-- `DecodeAndVerifySignedPredictionOrder` on the cell of these bytes -/
  decodeSigned : Bytes → Except String SignedPredictionOrder
  encodeBase64 : Bytes → String
  decodeBase64 : String → Option Bytes

variable (P : BookProtocol) (o : RangeOrder) (profile : MarketProfile) (doc : BookDocument) (query : OrderSearchQuery)

/-! ## The search index -/

def OrderRecord.slot (record : OrderRecord) : Outcome × Action := (record.order.outcome, record.order.action)

/-- `append`, `copy` and the assignment at the position found are one insertion. -/
def indexOrder (search : SearchIndex) (record : OrderRecord) : SearchIndex :=
  let search := if search.has record.slot then search else search.put record.slot ∅
  let byPrice := search.getD record.slot ∅
  let price := record.order.limitPriceTick
  let digests := byPrice.getD price []
  let position := searchSorted digests record.digest
  if digests[position]? = some record.digest then search
  else search.put record.slot (byPrice.put price (digests.insertIdx position record.digest))

def removeIndexedOrder (search : SearchIndex) (record : OrderRecord) : SearchIndex :=
  match search.get? record.slot with
  | none => search
  | some byPrice =>
    let price := record.order.limitPriceTick
    let digests := byPrice.getD price []
    let position := searchSorted digests record.digest
    if digests[position]? ≠ some record.digest then search
    else
      let digests := digests.eraseIdx position
      let byPrice := if digests = [] then byPrice.delete price else byPrice.put price digests
      if byPrice.entries = [] then search.delete record.slot else search.put record.slot byPrice

def rebuildSearchIndex : SearchIndex :=
  (doc.orders.range o 0).foldl (fun search e => if e.2.status = .live then indexOrder search e.2 else search) ∅

/-! ## Admission -/

def buyReservation (lot : UInt64) (price : UInt16) (quantity : UInt64) : Option UInt64 :=
  let unit := lot / P.priceScale.toUInt64
  if quantity ≠ 0 ∧ unit > (0 - 1) / quantity then none
  else
    let base := quantity * unit
    if price ≠ 0 ∧ base > (0 - 1) / price.toUInt64 then none else some (base * price.toUInt64)

def validateAuthority (order : PredictionOrder) (snapshot : ChainAccountSnapshot) (now : UInt64) : Except String Unit :=
  refuse (snapshot.ownerAddress ≠ order.ownerAddress ∨ snapshot.keyEpoch ≠ order.keyEpoch ∨
    order.nonce < snapshot.nonceFloor ∨ ¬ snapshot.finalized ∨ snapshot.marketConfigHash ≠ profile.marketConfigHash ∨
    ¬ canonicalDigest snapshot.finalityViewID "sha256:" ∨ snapshot.observedAt = 0 ∨ snapshot.observedAt > now ∨
    now - snapshot.observedAt > profile.maxSnapshotAge)
    "order is not executable under the finalized chain account snapshot"

/-- What the live orders of one owner hold. -/
structure OwnerReserved where
  count : UInt32 := 0
  free : UInt64 := 0
  yes : UInt64 := 0
  no : UInt64 := 0

/-- One round of the loop in `validateAdmission`. -/
def addReserved (owner : String) (reserved : OwnerReserved) (prior : OrderRecord) : Except String OwnerReserved :=
  if prior.order.ownerAddress ≠ owner ∨ prior.status ≠ .live then .ok reserved
  else
    let reserved := { reserved with count := reserved.count + 1 }
    let remaining := prior.order.quantityLots - prior.cumulativeFilled
    if prior.order.action = .buy then
      match (buyReservation P profile.lotPayout prior.order.limitPriceTick remaining).bind
        (addUint64 reserved.free) with
      | none => .error "reserved collateral overflow"
      | some free => .ok { reserved with free := free }
    else if prior.order.outcome = .yes then
      (addChecked reserved.yes remaining "reserved YES overflow").map fun yes => { reserved with yes := yes }
    else
      (addChecked reserved.no remaining "reserved NO overflow").map fun no => { reserved with no := no }

/-- The last check of `validateAdmission`: the order fits into what its owner has not reserved. -/
def fitsUnreserved (order : PredictionOrder) (snapshot : ChainAccountSnapshot)
    (reserved : OwnerReserved) : Except String Unit :=
  if order.action = .buy then
    match buyReservation P profile.lotPayout order.limitPriceTick order.quantityLots with
    | none => .error "order exceeds unreserved on-chain free collateral"
    | some debit =>
      refuse (reserved.free > snapshot.freeBalance ∨ debit > snapshot.freeBalance - reserved.free)
        "order exceeds unreserved on-chain free collateral"
  else if order.outcome = .yes then
    refuse (reserved.yes > snapshot.yesLots ∨ order.quantityLots > snapshot.yesLots - reserved.yes)
      "order exceeds unreserved YES position"
  else
    refuse (reserved.no > snapshot.noLots ∨ order.quantityLots > snapshot.noLots - reserved.no)
      "order exceeds unreserved NO position"

def validateAdmission (signed : SignedPredictionOrder) (snapshot : ChainAccountSnapshot)
    (now : UInt64) : Except String Unit := do
  let profile := doc.profile
  let order := signed.order
  refuse (order.globalID ≠ profile.globalID ∨ order.workchainID ≠ profile.workchainID ∨
    order.marketAddress ≠ profile.marketAddress ∨ order.marketConfigHash.1 ≠ profile.marketConfigHash ∨
    order.validUntil > profile.tradeClose ∨ now ≥ profile.tradeClose)
    "order is outside the admitted immutable market domain"
  validateAuthority profile order snapshot now
  refuse (signed.publicKey ≠ snapshot.tradingPublicKey) "order signature key is not the current on-chain trading key"
  refuse (UInt32.ofNat doc.orders.entries.length ≥ profile.maxOrders) "prediction order-book capacity reached"
  let reserved ← (doc.orders.range o 1).foldlM (fun reserved e => addReserved P profile order.ownerAddress reserved e.2)
    {}
  refuse (reserved.count ≥ profile.maxOrdersPerOwner) "owner prediction-order capacity reached"
  fitsUnreserved P profile order snapshot reserved

variable (opened : Bool) (book : Book)

def admitVerifiedLocked (signedBOC : Bytes) (verified : SignedPredictionOrder) (snapshot : ChainAccountSnapshot)
    (now : UInt64) : Except String (Update Book OrderRecord) := do
  refuse (¬ opened) "prediction order book is closed"
  let digest := verified.orderDigest.1
  let canonicalBOC := P.encodeBase64 signedBOC
  match book.doc.orders.get? digest with
  | some prior => do
    refuse (prior.signedOrderBOC ≠ canonicalBOC ∨ prior.orderCellHash ≠ verified.orderCellHash.1)
      "prediction order digest conflicts with durable bytes"
    pure (.keep prior)
  | none => do
    validateAdmission P o book.doc verified snapshot now
    refuse (book.doc.orders.any fun _ prior =>
      prior.order.ownerAddress = verified.order.ownerAddress && prior.order.keyEpoch = verified.order.keyEpoch &&
        prior.order.nonce = verified.order.nonce && prior.digest != digest)
      "owner epoch/nonce is already bound to another order digest"
    let record : OrderRecord :=
      { digest := digest, orderCellHash := verified.orderCellHash.1, tradingPublicKey := verified.publicKey
        signedOrderBOC := canonicalBOC, order := verified.order, status := .live }
    let next := { book.doc with revision := book.doc.revision + 1, orders := book.doc.orders.put digest record }
    pure (.store { doc := next, search := indexOrder book.search record } record)

def admitOrder (signedBOC : Bytes) (snapshot : ChainAccountSnapshot) (now : UInt64) :
    Except String (Update Book OrderRecord) := do
  refuse (now = 0 ∨ signedBOC.utf8ByteSize = 0 ∨ signedBOC.utf8ByteSize > 8192) "prediction order book is unavailable"
  refuse (¬ P.canonicalBOC signedBOC) "signed prediction order BOC is not canonical"
  let verified ← P.decodeSigned signedBOC
  admitVerifiedLocked P o opened book signedBOC verified snapshot now

/-! ## Finality -/

def applyFinalizedBookFill (digest : String) (cumulative : UInt64) (txHash finalityViewID : String) :
    Except String (Update Book Unit) := do
  refuse (¬ canonicalDigest digest "tvm-cell-sha256:" ∨ ¬ canonicalDigest txHash "sha256:" ∨
    ¬ canonicalDigest finalityViewID "sha256:") "finalized fill evidence is invalid"
  refuse (¬ opened) "prediction order book is closed"
  match book.doc.orders.get? digest with
  | none => throw "finalized fill conflicts with the durable order state"
  | some record => do
    refuse (record.status = .canceled ∨ cumulative < record.cumulativeFilled ∨ cumulative > record.order.quantityLots)
      "finalized fill conflicts with the durable order state"
    if cumulative = record.cumulativeFilled then
      refuse (record.lastFinalizedTxHash ≠ txHash ∨ record.finalityViewID ≠ finalityViewID)
        "same cumulative fill has conflicting finality evidence"
      pure (.keep ())
    else
      let record := { record with
        cumulativeFilled := cumulative, lastFinalizedTxHash := txHash, finalityViewID := finalityViewID
        status := if cumulative = record.order.quantityLots then .filled else record.status }
      let next := { book.doc with revision := book.doc.revision + 1, orders := book.doc.orders.put digest record }
      let search := if record.status = .filled then removeIndexedOrder book.search record else book.search
      pure (.store { doc := next, search := search } ())

def suppressFinalizedCancellation (digest txHash finalityViewID : String) : Except String (Update Book Unit) := do
  refuse (¬ canonicalDigest digest "tvm-cell-sha256:" ∨ ¬ canonicalDigest txHash "sha256:" ∨
    ¬ canonicalDigest finalityViewID "sha256:") "finalized cancellation evidence is invalid"
  refuse (¬ opened) "prediction order book is closed"
  match book.doc.orders.get? digest with
  | none => throw "finalized cancellation conflicts with the durable order state"
  | some record => do
    refuse (record.status = .filled) "finalized cancellation conflicts with the durable order state"
    if record.status = .canceled then
      refuse (record.lastFinalizedTxHash ≠ txHash ∨ record.finalityViewID ≠ finalityViewID)
        "cancellation has conflicting finality evidence"
      pure (.keep ())
    else
      let record := { record with
        status := .canceled, lastFinalizedTxHash := txHash, finalityViewID := finalityViewID }
      let next := { book.doc with revision := book.doc.revision + 1, orders := book.doc.orders.put digest record }
      pure (.store { doc := next, search := removeIndexedOrder book.search record } ())

/-! ## Opening -/

/-- One stored record as loading checks it: its shape, then its exact signed bytes. -/
def validateStoredOrder (digest : String) (record : OrderRecord) : Except String Unit := do
  refuse (digest ≠ record.digest ∨ ¬ canonicalDigest digest "tvm-cell-sha256:" ∨
    record.cumulativeFilled > record.order.quantityLots ∨
    (record.status = .live ∧ record.cumulativeFilled = record.order.quantityLots) ∨
    (record.status = .filled ∧ record.cumulativeFilled ≠ record.order.quantityLots) ∨
    (record.status = .live ∧ record.cumulativeFilled = 0 ∧
      (record.lastFinalizedTxHash ≠ "" ∨ record.finalityViewID ≠ "")) ∨
    ((record.status ≠ .live ∨ record.cumulativeFilled > 0) ∧
      (¬ canonicalDigest record.lastFinalizedTxHash "sha256:" ∨ ¬ canonicalDigest record.finalityViewID "sha256:")))
    "prediction order-book contains an invalid record"
  refuse (record.signedOrderBOC.utf8ByteSize > 12000) "prediction order-book record has an oversized exact BOC"
  match P.decodeBase64 record.signedOrderBOC with
  | none => throw "prediction order-book record has an invalid exact BOC"
  | some rawBOC => do
    refuse (rawBOC.utf8ByteSize > 8192 ∨ ¬ P.canonicalBOC rawBOC)
      "prediction order-book record has an invalid exact BOC"
    match P.decodeSigned rawBOC with
    | .error _ => throw "prediction order-book record does not match its exact signed BOC"
    | .ok verified =>
      refuse (verified.orderDigest.1 ≠ record.digest ∨ verified.orderCellHash.1 ≠ record.orderCellHash ∨
        verified.publicKey ≠ record.tradingPublicKey ∨ verified.order ≠ record.order)
        "prediction order-book record does not match its exact signed BOC"

/-- `loadOrInitialize` on a stored document. -/
def loadBook (stored : BookDocument) : Except String Book := do
  refuse (stored.schemaVersion ≠ 1 ∨ stored.profile ≠ profile ∨
    UInt32.ofNat stored.orders.entries.length > stored.profile.maxOrders)
    "prediction order-book state identity or shape is invalid"
  (stored.orders.range o 0).forM fun e => validateStoredOrder P e.1 e.2
  pure { doc := stored, search := rebuildSearchIndex o stored }

/-! ## Search -/

structure OrderSearchQuery where
  marketID : String
  outcome : Outcome
  action : Action
  minimumPriceTick : UInt16 := 0
  maximumPriceTick : UInt16 := 0
  minimumRemainingLots : UInt64
  validAt : UInt64
  expiresAfter : UInt64 := 0
  expiresAtOrBefore : UInt64 := 0
  priceDescending : Bool := false
  limit : UInt32

structure OrderSearchResult where
  record : OrderRecord
  remainingLots : UInt64
deriving DecidableEq

def OrderSearchQuery.minimumPrice : UInt16 :=
  if query.minimumPriceTick = 0 then 1 else query.minimumPriceTick

def OrderSearchQuery.maximumPrice : UInt16 :=
  if query.maximumPriceTick = 0 then P.priceScale - 1 else query.maximumPriceTick

/-- `if query.PriceDescending { return left > right }; return left < right`. -/
def OrderSearchQuery.priceBefore (left right : UInt16) : Bool :=
  if query.priceDescending then left > right else left < right

/-- The body of the inner loop: what a digest of the index contributes. -/
def searchResult (digest : String) : Option OrderSearchResult :=
  match doc.orders.get? digest with
  | none => none
  | some record =>
    if record.status ≠ .live ∨ record.order.validAfter > query.validAt ∨ record.order.validUntil ≤ query.validAt ∨
        (query.expiresAfter ≠ 0 ∧ record.order.validUntil ≤ query.expiresAfter) ∨
        (query.expiresAtOrBefore ≠ 0 ∧ record.order.validUntil > query.expiresAtOrBefore) then none
    else
      let remaining := record.order.quantityLots - record.cumulativeFilled
      if remaining < query.minimumRemainingLots then none
      else some { record := record, remainingLots := remaining }

/-- The inner loop; the flag says that it returned because the limit was reached. -/
def searchBucket (doc : BookDocument) (query : OrderSearchQuery) :
    List String → List OrderSearchResult → List OrderSearchResult × Bool
  | [], results => (results, false)
  | digest :: digests, results =>
    match searchResult doc query digest with
    | none => searchBucket doc query digests results
    | some result =>
      let results := results ++ [result]
      if UInt32.ofNat results.length = query.limit then (results, true) else searchBucket doc query digests results

/-- The outer loop over the prices. -/
def searchPrices (doc : BookDocument) (query : OrderSearchQuery) (byPrice : Map UInt16 (List String)) :
    List UInt16 → List OrderSearchResult → List OrderSearchResult
  | [], results => results
  | price :: prices, results =>
    match searchBucket doc query (byPrice.getD price []) results with
    | (results, true) => results
    | (results, false) => searchPrices doc query byPrice prices results

def searchOrders (query : OrderSearchQuery) : Except String (List OrderSearchResult) := do
  refuse (query.marketID = "" ∨ query.validAt = 0 ∨ query.minimumRemainingLots = 0 ∨ query.limit = 0 ∨
    query.limit > 1000 ∨ (query.outcome ≠ .yes ∧ query.outcome ≠ .no) ∨ (query.action ≠ .buy ∧ query.action ≠ .sell))
    "prediction order search query is invalid"
  refuse (¬ opened ∨ query.marketID ≠ book.doc.profile.marketID ∨ query.validAt ≥ book.doc.profile.tradeClose)
    "prediction order search is outside the active market"
  refuse (query.minimumPrice > query.maximumPrice P ∨ query.maximumPrice P ≥ P.priceScale ∨
    (query.expiresAtOrBefore ≠ 0 ∧ query.expiresAfter ≥ query.expiresAtOrBefore))
    "prediction order search range is invalid"
  let byPrice := book.search.getD (query.outcome, query.action) ∅
  let prices := ((byPrice.range o 0).map (·.1)).filter fun price =>
    price ≥ query.minimumPrice ∧ price ≤ query.maximumPrice P
  let prices := sortSlice (fun left right => query.priceBefore left right = true) prices
  pure (searchPrices book.doc query byPrice prices [])

/-! ## The book as a component -/

inductive BookCall
  | admitOrder (signedBOC : Bytes) (snapshot : ChainAccountSnapshot) (now : UInt64)
  /-- Custody signs and admits an order in one critical section. -/
  | admitVerified (signedBOC : Bytes) (verified : SignedPredictionOrder) (snapshot : ChainAccountSnapshot)
    (now : UInt64)
  | applyFinalizedFill (digest : String) (cumulative : UInt64) (txHash finalityViewID : String)
  | suppressFinalizedCancellation (digest txHash finalityViewID : String)

def BookCall.update : BookCall → Except String (Update Book Unit)
  | .admitOrder signedBOC snapshot now => (Prediction.admitOrder P o opened book signedBOC snapshot now).map
    (·.map fun _ => ())
  | .admitVerified signedBOC verified snapshot now =>
    (admitVerifiedLocked P o opened book signedBOC verified snapshot now).map (·.map fun _ => ())
  | .applyFinalizedFill digest cumulative txHash view =>
    applyFinalizedBookFill opened book digest cumulative txHash view
  | .suppressFinalizedCancellation digest txHash view =>
    Prediction.suppressFinalizedCancellation opened book digest txHash view

/-- The book of one market; `o` is the order in which it visits its maps. -/
def orderBook : Machine Book BookDocument BookCall where
  save book := book.doc
  load := loadBook P o profile
  call opened c book := c.update P o opened book

/-- One event, with its own order of the maps. -/
def bookStep (s : Machine.State Book BookDocument)
    (e : RangeOrder × MachineEvent BookCall) : Machine.State Book BookDocument :=
  (orderBook P e.1 profile).step s e.2

def bookRun (es : List (RangeOrder × MachineEvent BookCall)) : Machine.State Book BookDocument :=
  exec (bookStep P profile) { mem := emptyBook profile, file := (emptyBook profile).doc } es

end OpenFox.Prediction
