/-
Searching through the index returns what a scan of the whole document returns: the first results, in the
order asked for, of all live orders that match the query.
-/
import OpenFox.Prediction.BookIndex
import OpenFox.Prediction.Sample

namespace OpenFox.Prediction

open OpenFox.Go OpenFox.Base

/-! ## The scan -/

/-- The queries the market answers. -/
structure ValidQuery (P : BookProtocol) (opened : Bool) (profile : MarketProfile) (query : OrderSearchQuery) :
    Prop where
  opened : opened = true
  market : query.marketID ≠ "" ∧ query.marketID = profile.marketID
  traded : query.outcome = .yes ∨ query.outcome = .no
  side : query.action = .buy ∨ query.action = .sell
  time : query.validAt ≠ 0 ∧ query.validAt < profile.tradeClose
  lots : query.minimumRemainingLots ≠ 0
  limit : query.limit ≠ 0 ∧ query.limit ≤ 1000
  prices : query.minimumPrice ≤ query.maximumPrice P ∧ query.maximumPrice P < P.priceScale
  expiry : query.expiresAtOrBefore = 0 ∨ query.expiresAfter < query.expiresAtOrBefore

variable (P : BookProtocol)

/-- The order is live, in the asked outcome, action and price range, valid when asked, expires in the window
asked for and has enough lots left. -/
def Matches (query : OrderSearchQuery) (record : OrderRecord) : Prop :=
  record.status = .live ∧ record.order.outcome = query.outcome ∧ record.order.action = query.action ∧
    (query.minimumPrice ≤ record.order.limitPriceTick ∧ record.order.limitPriceTick ≤ query.maximumPrice P) ∧
    (record.order.validAfter ≤ query.validAt ∧ query.validAt < record.order.validUntil) ∧
    (query.expiresAfter = 0 ∨ query.expiresAfter < record.order.validUntil) ∧
    (query.expiresAtOrBefore = 0 ∨ record.order.validUntil ≤ query.expiresAtOrBefore) ∧
    query.minimumRemainingLots ≤ record.order.quantityLots - record.cumulativeFilled

instance (query : OrderSearchQuery) (record : OrderRecord) : Decidable (Matches P query record) :=
  inferInstanceAs (Decidable (_ ∧ _))

/-- By price, in the direction asked for, and then by digest. -/
def Precedes (query : OrderSearchQuery) (left right : OrderRecord) : Prop :=
  query.priceBefore left.order.limitPriceTick right.order.limitPriceTick = true ∨
    left.order.limitPriceTick = right.order.limitPriceTick ∧ left.digest < right.digest

instance (query : OrderSearchQuery) (left right : OrderRecord) : Decidable (Precedes query left right) :=
  inferInstanceAs (Decidable (_ ∨ _))

def resultOf (record : OrderRecord) : OrderSearchResult :=
  { record := record, remainingLots := record.order.quantityLots - record.cumulativeFilled }

/-- All orders of the document that match, in the order asked for. -/
def scanOrders (doc : BookDocument) (query : OrderSearchQuery) : List OrderSearchResult :=
  (sortSlice (Precedes query) ((doc.orders.entries.map (·.2)).filter fun record => Matches P query record)).map resultOf

/-! ## The order of the results -/

variable {digest : String} {price a b : UInt16}

section
variable {query : OrderSearchQuery}

theorem priceBefore_iff :
    query.priceBefore a b = true ↔ if query.priceDescending then b.toNat < a.toNat else a.toNat < b.toNat := by
  unfold OrderSearchQuery.priceBefore
  cases query.priceDescending <;> simp [UInt16.lt_iff_toNat_lt]

theorem priceBefore_strictWeak (query : OrderSearchQuery) : StrictWeak fun a b => query.priceBefore a b = true where
  asymm {a b} hab := by
    rw [priceBefore_iff] at hab ⊢
    cases hd : query.priceDescending <;> simp only [hd, if_true, if_false, Bool.false_eq_true] at hab ⊢ <;> omega
  negTrans {a c} b hac := by
    rw [priceBefore_iff] at hac ⊢
    rw [priceBefore_iff]
    cases hd : query.priceDescending <;> simp only [hd, if_true, if_false, Bool.false_eq_true] at hac ⊢ <;> omega

theorem priceBefore_or (query : OrderSearchQuery) (hne : a ≠ b) :
    query.priceBefore a b = true ∨ query.priceBefore b a = true := by
  have hne' : a.toNat ≠ b.toNat := fun h => hne (UInt16.toNat_inj.1 h)
  rw [priceBefore_iff, priceBefore_iff]
  cases query.priceDescending <;> simp <;> omega

theorem precedes_strictWeak (query : OrderSearchQuery) : StrictWeak (Precedes query) where
  asymm {a b} hab hba := by
    have hirrefl : ∀ p, ¬ query.priceBefore p p = true := fun p hp => (priceBefore_strictWeak query).asymm hp hp
    rcases hab with hab | ⟨hab, hab'⟩ <;> rcases hba with hba | ⟨hba, hba'⟩
    · exact (priceBefore_strictWeak query).asymm hab hba
    · exact hirrefl _ (hba ▸ hab)
    · exact hirrefl _ (hab ▸ hba)
    · exact lt_asymm hab' hba'
  negTrans {a c} b hac := by
    by_cases hab : a.order.limitPriceTick = b.order.limitPriceTick
    · rcases hac with hac | ⟨hac, hac'⟩
      · exact .inr (.inl (hab ▸ hac))
      · rcases lt_or_ge a.digest b.digest with h | h
        · exact .inl (.inr ⟨hab, h⟩)
        · exact .inr (.inr ⟨hab.symm.trans hac, lt_of_le_of_lt h hac'⟩)
    · rcases priceBefore_or query hab with h | h
      · exact .inl (.inl h)
      · rcases hac with hac | ⟨hac, -⟩
        · rcases (priceBefore_strictWeak query).negTrans b.order.limitPriceTick hac with h' | h'
          · exact absurd h ((priceBefore_strictWeak query).asymm h')
          · exact .inr (.inl h')
        · exact .inr (.inl (hac ▸ h))

theorem precedes_or (query : OrderSearchQuery) {a b : OrderRecord} (hne : a.digest ≠ b.digest) :
    Precedes query a b ∨ Precedes query b a := by
  by_cases hprice : a.order.limitPriceTick = b.order.limitPriceTick
  · rcases lt_or_gt_of_ne hne with h | h
    · exact .inl (.inr ⟨hprice, h⟩)
    · exact .inr (.inr ⟨hprice.symm, h⟩)
  · exact (priceBefore_or query hprice).imp .inl .inl

end

/-! ## The loops -/

section
variable {doc : BookDocument} {query : OrderSearchQuery} {n : ℕ}

theorem length_eq_limit {results : List OrderSearchResult} (hlimit : query.limit = UInt32.ofNat n) (hn : n ≤ 1000)
    (hlen : results.length ≤ n) : UInt32.ofNat results.length = query.limit ↔ results.length = n := by
  have hsize : UInt32.size = 4294967296 := rfl
  rw [hlimit, ← UInt32.toNat_inj, UInt32.toNat_ofNat_of_lt' (by omega), UInt32.toNat_ofNat_of_lt' (by omega)]

/-- The inner loop stops at the limit; its results are the first of all it would find. -/
theorem searchBucket_eq (hlimit : query.limit = UInt32.ofNat n) (hn : n ≤ 1000) :
    ∀ digests {results}, results.length < n →
      let found := results ++ digests.filterMap (searchResult doc query)
      searchBucket doc query digests results = (found.take n, decide (n ≤ found.length))
  | [], results, hlen => by
    have hnot : ¬ n ≤ results.length := by omega
    simp [searchBucket, List.take_of_length_le hlen.le, hnot]
  | digest :: digests, results, hlen => by
    intro found
    unfold searchBucket
    cases hr : searchResult doc query digest with
    | none =>
      have hfound : found = results ++ digests.filterMap (searchResult doc query) := by
        simp [found, hr]
      rw [searchBucket_eq hlimit hn digests hlen, hfound]
    | some result =>
      have hfound : found = (results ++ [result]) ++ digests.filterMap (searchResult doc query) := by
        simp [found, hr]
      have hlen' : (results ++ [result]).length ≤ n := by simp; omega
      simp only [length_eq_limit hlimit hn hlen']
      by_cases hfull : (results ++ [result]).length = n
      · rw [if_pos hfull, hfound, List.take_left' hfull]
        have hge : n ≤ ((results ++ [result]) ++ digests.filterMap (searchResult doc query)).length := by
          rw [List.length_append]; omega
        rw [decide_eq_true hge]
      · rw [if_neg hfull, searchBucket_eq hlimit hn digests (by omega), hfound]

theorem searchPrices_eq (hlimit : query.limit = UInt32.ofNat n) (hn : n ≤ 1000)
    (byPrice : Map UInt16 (List String)) : ∀ prices {results},
      results.length < n → searchPrices doc query byPrice prices results =
        (results ++ prices.flatMap fun price => (byPrice.getD price []).filterMap (searchResult doc query)).take n
  | [], results, hlen => by simp [searchPrices, List.take_of_length_le hlen.le]
  | price :: prices, results, hlen => by
    unfold searchPrices
    rw [searchBucket_eq hlimit hn (byPrice.getD price []) hlen]
    set found := results ++ (byPrice.getD price []).filterMap (searchResult doc query) with hfound
    have hall : results ++ (price :: prices).flatMap
        (fun price => (byPrice.getD price []).filterMap (searchResult doc query)) =
          found ++ prices.flatMap fun price => (byPrice.getD price []).filterMap (searchResult doc query) := by
      rw [hfound, List.flatMap_cons, List.append_assoc]
    rw [hall]
    by_cases hfull : n ≤ found.length
    · simp only [hfull, decide_true]
      rw [List.take_append_of_le_length hfull]
    · simp only [hfull, decide_false]
      rw [List.take_of_length_le (by omega)]
      exact searchPrices_eq hlimit hn byPrice prices (by omega)

end

/-! ## The index finds what the scan finds -/

variable {record : OrderRecord} {book : Book} {o : RangeOrder}

section
variable {P} {doc : BookDocument} {query : OrderSearchQuery}

/-- What the inner loop checks of a record. -/
def Passes (query : OrderSearchQuery) (record : OrderRecord) : Prop :=
  record.status = .live ∧ (record.order.validAfter ≤ query.validAt ∧ query.validAt < record.order.validUntil) ∧
    (query.expiresAfter = 0 ∨ query.expiresAfter < record.order.validUntil) ∧
    (query.expiresAtOrBefore = 0 ∨ record.order.validUntil ≤ query.expiresAtOrBefore) ∧
    query.minimumRemainingLots ≤ record.order.quantityLots - record.cumulativeFilled

instance (query : OrderSearchQuery) (record : OrderRecord) : Decidable (Passes query record) :=
  inferInstanceAs (Decidable (_ ∧ _))

theorem matches_iff : Matches P query record ↔ record.slot = (query.outcome, query.action) ∧
    (query.minimumPrice ≤ record.order.limitPriceTick ∧ record.order.limitPriceTick ≤ query.maximumPrice P) ∧
      Passes query record := by
  unfold Matches Passes OrderRecord.slot
  rw [Prod.mk.injEq]
  tauto

/-- The record of a digest, if it passes. -/
def candidate (doc : BookDocument) (query : OrderSearchQuery) (digest : String) : Option OrderRecord :=
  (doc.orders.get? digest).filter fun record => Passes query record

theorem candidate_eq_some :
    candidate doc query digest = some record ↔ doc.orders.get? digest = some record ∧ Passes query record := by
  rw [candidate, Option.filter_eq_some_iff, decide_eq_true_eq]

theorem passes_iff : Passes query record ↔
      ¬ (record.status ≠ .live ∨ record.order.validAfter > query.validAt ∨ record.order.validUntil ≤ query.validAt ∨
    (query.expiresAfter ≠ 0 ∧ record.order.validUntil ≤ query.expiresAfter) ∨
    (query.expiresAtOrBefore ≠ 0 ∧ record.order.validUntil > query.expiresAtOrBefore)) ∧
      ¬ (record.order.quantityLots - record.cumulativeFilled < query.minimumRemainingLots) := by
  unfold Passes
  simp only [passed, not_and_or, gt_iff_lt, UInt64.not_lt, UInt64.not_le, and_assoc]

theorem searchResult_eq (doc : BookDocument) (query : OrderSearchQuery) (digest : String) :
    searchResult doc query digest = (candidate doc query digest).map resultOf := by
  unfold searchResult candidate
  cases hget : doc.orders.get? digest with
  | none => rfl
  | some record =>
    simp only [Option.filter_some, decide_eq_true_eq, passes_iff]
    split
    · rename_i hbad
      rw [if_neg fun h => h.1 hbad]
      rfl
    · rename_i hgood
      split
      · rename_i hfew
        rw [if_neg fun h => h.2 hfew]
        rfl
      · rename_i henough
        rw [if_pos ⟨hgood, henough⟩]
        rfl

/-- The prices the search visits, in its order. -/
def visitedPrices (P : BookProtocol) (o : RangeOrder) (search : SearchIndex) (query : OrderSearchQuery) : List UInt16 :=
  sortSlice (fun left right => query.priceBefore left right = true)
    ((((search.getD (query.outcome, query.action) ∅).range o 0).map (·.1)).filter fun price =>
      price ≥ query.minimumPrice ∧ price ≤ query.maximumPrice P)

/-- The records the search visits that pass, were there no limit. -/
def indexedRecords (P : BookProtocol) (o : RangeOrder) (book : Book) (query : OrderSearchQuery) : List OrderRecord :=
  (visitedPrices P o book.search query).flatMap fun price =>
    (bucket book.search (query.outcome, query.action) price).filterMap (candidate book.doc query)

theorem visitedPrices_sorted (o : RangeOrder) (search : SearchIndex) :
    (visitedPrices P o search query).Pairwise fun left right => query.priceBefore left right = true := by
  refine sortSlice_sorted (priceBefore_strictWeak query) (List.Pairwise.filter _ ?_)
  have hkeys := ((Map.range_perm o 0 _).map _).nodup_iff.2 (search.getD (query.outcome, query.action) ∅).nodupKeys
  exact hkeys.imp fun hne => priceBefore_or query hne

theorem mem_visitedPrices {search : SearchIndex} (hbucket : bucket search (query.outcome, query.action) price ≠ []) :
    price ∈ visitedPrices P o search query ↔ query.minimumPrice ≤ price ∧ price ≤ query.maximumPrice P := by
  have hkey : price ∈ ((search.getD (query.outcome, query.action) ∅).range o 0).map (·.1) := by
    cases hget : (search.getD (query.outcome, query.action) ∅).get? price with
    | none => exact absurd (by rw [bucket, Map.getD, hget]; rfl) hbucket
    | some digests => exact List.mem_map.2 ⟨⟨price, digests⟩, Map.mem_range.2 hget, rfl⟩
  rw [visitedPrices, mem_sortSlice, List.mem_filter, decide_eq_true_eq]
  exact ⟨fun h => h.2, fun h => ⟨hkey, h⟩⟩

section
variable (hi : Indexed book)
include hi

theorem Indexed.found {slot : Outcome × Action} (hmem : digest ∈ bucket book.search slot price)
    (hget : book.doc.orders.get? digest = some record) :
    record.digest = digest ∧ record.slot = slot ∧ record.order.limitPriceTick = price := by
  obtain ⟨record', hget', -, hslot, hprice⟩ := (hi.indexes.mem digest slot price).1 hmem
  rw [hget] at hget'
  cases hget'
  exact ⟨hi.keyed hget, hslot, hprice⟩

theorem indexedRecords_sorted (o : RangeOrder) : (indexedRecords P o book query).Pairwise (Precedes query) := by
  rw [indexedRecords, List.pairwise_flatMap]
  refine ⟨fun price _ => ?_, (visitedPrices_sorted o book.search).imp fun {price price'} hbefore => ?_⟩
  · -- within a bucket the price is one and the digests ascend
    rw [List.pairwise_filterMap]
    refine List.Pairwise.imp_of_mem (fun {a b} ha hb hlt => ?_) (hi.indexes.sorted _ price)
    intro record hrecord record' hrecord'
    obtain ⟨hd, -, hp⟩ := hi.found ha (candidate_eq_some.1 hrecord).1
    obtain ⟨hd', -, hp'⟩ := hi.found hb (candidate_eq_some.1 hrecord').1
    exact .inr ⟨hp.trans hp'.symm, by rw [hd, hd']; exact hlt⟩
  · intro record hrecord record' hrecord'
    obtain ⟨digest, hmem, hcand⟩ := List.mem_filterMap.1 hrecord
    obtain ⟨digest', hmem', hcand'⟩ := List.mem_filterMap.1 hrecord'
    have hp := (hi.found hmem (candidate_eq_some.1 hcand).1).2.2
    have hp' := (hi.found hmem' (candidate_eq_some.1 hcand').1).2.2
    exact .inl (by rw [hp, hp']; exact hbefore)

theorem mem_indexedRecords : record ∈ indexedRecords P o book query ↔
      book.doc.orders.get? record.digest = some record ∧ Matches P query record := by
  simp only [indexedRecords, List.mem_flatMap, List.mem_filterMap, candidate_eq_some, matches_iff]
  constructor
  · rintro ⟨price, hprice, digest, hmem, hget, hpass⟩
    obtain ⟨hd, hslot, hp⟩ := hi.found hmem hget
    have hrange := (mem_visitedPrices (List.ne_nil_of_mem hmem)).1 hprice
    exact ⟨by rw [hd]; exact hget, hslot, by rw [hp]; exact hrange, hpass⟩
  · rintro ⟨hget, hslot, hrange, hpass⟩
    have hmem := (hi.indexes.mem _ _ _).2 ⟨record, hget, hpass.1, hslot, rfl⟩
    exact ⟨_, (mem_visitedPrices (List.ne_nil_of_mem hmem)).2 hrange, _, hmem, hget, hpass⟩

theorem indexedRecords_eq (o : RangeOrder) : indexedRecords P o book query = sortSlice (Precedes query)
    ((book.doc.orders.entries.map (·.2)).filter fun record => Matches P query record) := by
  have hdigests : (book.doc.orders.entries.map (·.2)).Pairwise fun a b => a.digest ≠ b.digest := by
    rw [List.pairwise_map]
    have hkeys := List.pairwise_map.1 book.doc.orders.nodupKeys
    refine List.Pairwise.imp_of_mem (fun {a b} ha hb hne => ?_) hkeys
    rw [hi.keyed (Map.mem_entries.1 ha), hi.keyed (Map.mem_entries.1 hb)]
    exact hne
  refine eq_of_sorted (precedes_strictWeak query).asymm (indexedRecords_sorted hi o)
    (sortSlice_sorted (precedes_strictWeak query)
      ((hdigests.filter _).imp fun hne => precedes_or query hne)) fun record => ?_
  rw [mem_indexedRecords hi, mem_sortSlice, List.mem_filter, decide_eq_true_eq, List.mem_map]
  refine and_congr_left fun _ => ?_
  constructor
  · exact fun hget => ⟨⟨_, record⟩, Map.mem_entries.2 hget, rfl⟩
  · rintro ⟨⟨digest, record'⟩, he, rfl⟩
    have hget := Map.mem_entries.1 he
    rw [hi.keyed hget]
    exact hget

end

end

/-! ## Search -/

theorem searchOrders_eq {P : BookProtocol} {opened : Bool} {query : OrderSearchQuery} (hi : Indexed book)
    (hq : ValidQuery P opened book.doc.profile query) :
    searchOrders P o opened book query = .ok ((scanOrders P book.doc query).take query.limit.toNat) := by
  obtain ⟨hopened, ⟨hid, hmarket⟩, htraded, hside, ⟨htime, hclose⟩, hlots, ⟨hlimit, hmax⟩, ⟨hprices, hscale⟩,
    hexpiry⟩ := hq
  have hn := UInt32.le_iff_toNat_le.1 hmax
  have hpos := Nat.pos_of_ne_zero fun h => hlimit (UInt32.toNat_inj.1 h)
  unfold searchOrders
  rw [refuse_of_not, refuse_of_not, refuse_of_not]
  · show Except.ok (searchPrices book.doc query _ (visitedPrices P o book.search query) []) = _
    rw [searchPrices_eq (UInt32.ofNat_toNat).symm hn _ _
      (show ([] : List OrderSearchResult).length < _ from hpos), List.nil_append, scanOrders,
      ← indexedRecords_eq hi o, indexedRecords, List.map_flatMap]
    simp only [List.map_filterMap, ← searchResult_eq]
    rfl
  · simp only [passed, not_and_or, gt_iff_lt, ge_iff_le, UInt16.not_lt, UInt16.not_le, UInt64.not_le]
    exact ⟨hprices, hscale, hexpiry⟩
  · simp only [passed, ge_iff_le, UInt64.not_le]
    exact ⟨hopened, hmarket, hclose⟩
  · simp only [passed, not_and_or, gt_iff_lt, UInt32.not_lt]
    exact ⟨hid, htime, hlots, hlimit, hmax, htraded, hside⟩

/-- In every state of the book each bucket of the index is strictly sorted and holds the digests of exactly the
live orders of its outcome, action and price, and every valid query is answered with the first `limit` results
of a scan of the whole document. -/
theorem index_search_is_full_scan (P : BookProtocol) (profile : MarketProfile)
    (es : List (RangeOrder × MachineEvent BookCall)) :
    let s := bookRun P profile es
    (∀ slot price, (bucket s.mem.search slot price).Pairwise (· < ·) ∧
      ∀ digest, digest ∈ bucket s.mem.search slot price ↔
        ∃ record, s.mem.doc.orders.get? digest = some record ∧ record.digest = digest ∧ record.status = .live ∧
          (record.order.outcome, record.order.action) = slot ∧ record.order.limitPriceTick = price) ∧
    ∀ o query, ValidQuery P s.opened s.mem.doc.profile query →
      searchOrders P o s.opened s.mem query = .ok ((scanOrders P s.mem.doc query).take query.limit.toNat) := by
  intro s
  have hi : Indexed s.mem := bookRun_indexed P profile es
  refine ⟨fun slot price => ⟨hi.indexes.sorted slot price, fun digest => ?_⟩, fun o query hq => searchOrders_eq hi hq⟩
  rw [hi.indexes.mem]
  constructor
  · rintro ⟨record, hget, hlive, hslot, hprice⟩
    exact ⟨record, hget, hi.keyed hget, hlive, hslot, hprice⟩
  · rintro ⟨record, hget, -, hlive, hslot, hprice⟩
    exact ⟨record, hget, hlive, hslot, hprice⟩

namespace Sample

def account : ChainAccountSnapshot where
  ownerAddress := "owner"
  tradingPublicKey := "key"
  keyEpoch := 1
  nonceFloor := 0
  freeBalance := 1000
  yesLots := 0
  noLots := 0
  observedAt := 1
  finalized := true
  marketConfigHash := config.1
  finalityViewID := view1

/-- Both bids admitted, the first filled in part, and the book opened again. -/
def bookEvents : List (RangeOrder × MachineEvent BookCall) :=
  [.call .stored (.admitOrder "1" account 2), .call .stored (.admitOrder "2" account 2),
    .call .stored (.applyFinalizedFill cellA.1 4 transaction1 view1), .reopen].map fun e => (asWritten, e)

def bidQuery : OrderSearchQuery where
  marketID := market
  outcome := .yes
  action := .buy
  minimumRemainingLots := 5
  validAt := 3
  limit := 1

end Sample

open Sample in
/-- Two bids match and the cheaper one is returned. -/
theorem cheapest_bid_found :
    let s := bookRun bookProtocol bookProfile bookEvents
    ValidQuery bookProtocol s.opened s.mem.doc.profile bidQuery ∧
      ((scanOrders bookProtocol s.mem.doc bidQuery).map fun r => (r.record.digest, r.remainingLots)) =
        [(cellB.1, 10), (cellA.1, 6)] ∧
      searchOrders bookProtocol asWritten s.opened s.mem bidQuery =
        .ok ((scanOrders bookProtocol s.mem.doc bidQuery).take 1) := by
  intro s
  have hopened : s.opened = true := by decide +kernel
  have hprofile : s.mem.doc.profile = bookProfile := by decide +kernel
  have hq : ValidQuery bookProtocol s.opened s.mem.doc.profile bidQuery := by
    exact ⟨rfl, by decide +kernel, by decide, by decide, by decide, by decide, by decide, by decide, by decide⟩
  exact ⟨hq, by decide +kernel, (index_search_is_full_scan bookProtocol bookProfile bookEvents).2 asWritten bidQuery hq⟩

end OpenFox.Prediction
