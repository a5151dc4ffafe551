/-
The search index follows the document: in every state of the book each bucket is strictly sorted and holds
exactly the digests of the live orders of its outcome, action and price.
-/
import OpenFox.Prediction.Book

namespace OpenFox.Prediction

open OpenFox.Go OpenFox.Base

/-- The digests indexed under one outcome, action and price. -/
def bucket (search : SearchIndex) (slot : Outcome × Action) (price : UInt16) : List String :=
  (search.getD slot ∅).getD price []

/-! ## Buckets after one index operation -/

theorem bucket_put (search : SearchIndex) (slot slot' : Outcome × Action) (byPrice : Map UInt16 (List String))
    (price : UInt16) :
    bucket (search.put slot byPrice) slot' price =
      if slot' = slot then byPrice.getD price [] else bucket search slot' price := by
  unfold bucket
  rw [Map.getD_put]
  split <;> rfl

theorem bucket_delete (search : SearchIndex) (slot slot' : Outcome × Action) (price : UInt16) :
    bucket (search.delete slot) slot' price = if slot' = slot then [] else bucket search slot' price := by
  unfold bucket
  simp only [Map.getD, Map.get?_delete]
  split <;> simp

theorem getD_of_entries_nil {byPrice : Map UInt16 (List String)} (hempty : byPrice.entries = []) (price : UInt16) :
    byPrice.getD price [] = [] := by
  rw [Map.getD, Map.get?_of_entries_nil hempty]
  rfl

theorem bucket_ensure (search : SearchIndex) (slot slot' : Outcome × Action) (price : UInt16) :
    bucket (if search.has slot then search else search.put slot ∅) slot' price = bucket search slot' price := by
  split
  · rfl
  · rename_i habsent
    rw [bucket_put]
    split
    · rename_i heq
      subst heq
      rw [Bool.not_eq_true, Map.has_false_iff] at habsent
      simp [bucket, Map.getD, habsent]
    · rfl

theorem bucket_indexOrder (search : SearchIndex) (record : OrderRecord) (slot : Outcome × Action) (price : UInt16) :
    bucket (indexOrder search record) slot price =
      if slot = record.slot ∧ price = record.order.limitPriceTick
      then insertSorted (bucket search slot price) record.digest else bucket search slot price := by
  simp only [indexOrder]
  set ensured := if search.has record.slot then search else search.put record.slot ∅ with hensured
  have hsame : ∀ slot' price', bucket ensured slot' price' = bucket search slot' price' :=
    bucket_ensure search record.slot
  have hown : (ensured.getD record.slot ∅).getD record.order.limitPriceTick [] =
      bucket search record.slot record.order.limitPriceTick := hsame _ _
  rw [hown]
  split
  · rename_i hthere
    rw [hsame]
    split
    · rename_i hat
      rw [hat.1, hat.2, insertSorted, if_pos hthere]
    · rfl
  · rename_i habsent
    rw [bucket_put]
    by_cases hslot : slot = record.slot
    · rw [if_pos hslot, Map.getD_put]
      by_cases hprice : price = record.order.limitPriceTick
      · rw [if_pos hprice, if_pos ⟨hslot, hprice⟩, hslot, hprice, insertSorted, if_neg habsent]
      · rw [if_neg hprice, if_neg fun h => hprice h.2, ← hsame slot price, bucket, hslot]
    · rw [if_neg hslot, if_neg fun h => hslot h.1, hsame]

theorem bucket_removeIndexedOrder (search : SearchIndex) (record : OrderRecord) (slot : Outcome × Action)
    (price : UInt16) :
    bucket (removeIndexedOrder search record) slot price =
      if slot = record.slot ∧ price = record.order.limitPriceTick
      then removeSorted (bucket search slot price) record.digest else bucket search slot price := by
  unfold removeIndexedOrder
  split
  · rename_i habsent
    split
    · rename_i hat
      have hnil : bucket search slot price = [] := by
        rw [hat.1, bucket, show search.getD record.slot ∅ = ∅ by rw [Map.getD, habsent]; rfl]
        rfl
      rw [hnil]
      rfl
    · rfl
  · rename_i byPrice hget
    have hslotD : search.getD record.slot ∅ = byPrice := Map.getD_of_get? hget
    have hown : bucket search record.slot record.order.limitPriceTick =
      byPrice.getD record.order.limitPriceTick [] := by
      rw [bucket, hslotD]
    simp only
    set digests := byPrice.getD record.order.limitPriceTick [] with hdigests
    split
    · rename_i hmissing
      split
      · rename_i hat
        rw [hat.1, hat.2, hown, removeSorted, if_neg hmissing]
      · rfl
    · rename_i hthere
      rw [ne_eq, not_not] at hthere
      have hremoved : removeSorted digests record.digest = digests.eraseIdx (searchSorted digests record.digest) := by
        rw [removeSorted, if_pos hthere]
      rw [← hremoved]
      set rest := removeSorted digests record.digest
      set byPrice' := if rest = [] then byPrice.delete record.order.limitPriceTick
        else byPrice.put record.order.limitPriceTick rest with hbyPrice'
      -- an emptied bucket and an empty one are read alike, and so are an emptied slot and an empty one
      have hread : ∀ price', byPrice'.getD price' [] =
          if price' = record.order.limitPriceTick then rest else byPrice.getD price' [] := by
        intro price'
        rw [hbyPrice']
        by_cases hrest : rest = []
        · rw [if_pos hrest, Map.getD, Map.get?_delete]
          split
          · rw [hrest]; rfl
          · rfl
        · rw [if_neg hrest, Map.getD_put]
      have hbucket : ∀ slot' price', bucket (if byPrice'.entries = [] then search.delete record.slot
          else search.put record.slot byPrice') slot' price' =
            if slot' = record.slot then byPrice'.getD price' [] else bucket search slot' price' := by
        intro slot' price'
        by_cases hempty : byPrice'.entries = []
        · rw [if_pos hempty, bucket_delete, getD_of_entries_nil hempty]
        · rw [if_neg hempty, bucket_put]
      rw [hbucket]
      by_cases hslot : slot = record.slot
      · rw [if_pos hslot, hread]
        by_cases hprice : price = record.order.limitPriceTick
        · rw [if_pos hprice, if_pos ⟨hslot, hprice⟩, hslot, hprice, hown]
        · rw [if_neg hprice, if_neg fun h => hprice h.2, hslot, bucket, hslotD]
      · rw [if_neg hslot, if_neg fun h => hslot h.1]

/-! ## What the index holds -/

/-- Every bucket is strictly sorted and holds the digests for which `L` says so. -/
structure Indexes (search : SearchIndex) (L : String → Outcome × Action → UInt16 → Prop) : Prop where
  sorted : ∀ slot price, (bucket search slot price).Pairwise (· < ·)
  mem : ∀ digest slot price, digest ∈ bucket search slot price ↔ L digest slot price

variable {L : String → Outcome × Action → UInt16 → Prop} {search : SearchIndex} {record : OrderRecord}
  {signedBOC : Bytes} {digest txHash view : String} {now : UInt64}

theorem Indexes.congr {L' : String → Outcome × Action → UInt16 → Prop}
    (hi : Indexes search L) (hiff : ∀ digest slot price, L digest slot price ↔ L' digest slot price) :
    Indexes search L' :=
  ⟨hi.sorted, fun digest slot price => (hi.mem digest slot price).trans (hiff digest slot price)⟩

/-- The bucket of an order, and its digest. -/
def OrderRecord.At (record : OrderRecord) (digest : String) (slot : Outcome × Action) (price : UInt16) : Prop :=
  digest = record.digest ∧ slot = record.slot ∧ price = record.order.limitPriceTick

theorem indexes_empty : Indexes ∅ fun _ _ _ => False :=
  ⟨fun _ _ => List.Pairwise.nil, fun _ _ _ => iff_of_false List.not_mem_nil id⟩

theorem Indexes.indexOrder (hi : Indexes search L) (record : OrderRecord) :
    Indexes (indexOrder search record) fun digest slot price => record.At digest slot price ∨ L digest slot price where
  sorted slot price := by
    rw [bucket_indexOrder]
    split
    · exact insertSorted_sorted (hi.sorted slot price) _
    · exact hi.sorted slot price
  mem digest slot price := by
    rw [bucket_indexOrder]
    split
    · rename_i hat
      rw [mem_insertSorted (hi.sorted slot price), hi.mem]
      simp [OrderRecord.At, hat.1, hat.2]
    · rename_i hat
      rw [hi.mem]
      exact ⟨.inr, fun h => h.resolve_left fun hrecord => hat hrecord.2⟩

theorem Indexes.removeIndexedOrder (hi : Indexes search L) (record : OrderRecord) :
    Indexes (removeIndexedOrder search record) fun digest slot price =>
      ¬ record.At digest slot price ∧ L digest slot price where
  sorted slot price := by
    rw [bucket_removeIndexedOrder]
    split
    · exact removeSorted_sorted (hi.sorted slot price) _
    · exact hi.sorted slot price
  mem digest slot price := by
    rw [bucket_removeIndexedOrder]
    split
    · rename_i hat
      rw [mem_removeSorted (hi.sorted slot price), hi.mem]
      simp [OrderRecord.At, hat.1, hat.2]
    · rename_i hat
      rw [hi.mem]
      exact ⟨fun h => ⟨fun hrecord => hat hrecord.2, h⟩, fun h => h.2⟩

/-! ## The index of a document -/

/-- The document has a live order of this digest, outcome, action and price. -/
def LiveAt (doc : BookDocument) (digest : String) (slot : Outcome × Action) (price : UInt16) : Prop :=
  ∃ record, doc.orders.get? digest = some record ∧ record.status = .live ∧ record.slot = slot ∧
    record.order.limitPriceTick = price

structure Indexed (book : Book) : Prop where
  keyed : ∀ {digest record}, book.doc.orders.get? digest = some record → record.digest = digest
  indexes : Indexes book.search (LiveAt book.doc)

theorem emptyBook_indexed (profile : MarketProfile) : Indexed (emptyBook profile) where
  keyed hget := by cases hget
  indexes := indexes_empty.congr fun _ _ _ => ⟨False.elim, fun ⟨_, hget, _⟩ => by cases hget⟩

theorem rebuild_loop : ∀ (l : List ((_ : String) × OrderRecord)) {search : SearchIndex}
    {L : String → Outcome × Action → UInt16 → Prop}, Indexes search L →
      Indexes (l.foldl (fun search e => if e.2.status = .live then indexOrder search e.2 else search) search)
        fun digest slot price => (∃ e ∈ l, e.2.status = .live ∧ e.2.At digest slot price) ∨ L digest slot price
  | [], _, _, hi => hi.congr fun _ _ _ => by simp
  | e :: l, search, L, hi => by
    rw [List.foldl_cons]
    by_cases hlive : e.2.status = .live
    · rw [if_pos hlive]
      refine (rebuild_loop l (hi.indexOrder e.2)).congr fun digest slot price => ?_
      simp only [List.exists_mem_cons_iff, hlive, true_and]
      rw [or_left_comm, or_assoc]
    · rw [if_neg hlive]
      refine (rebuild_loop l hi).congr fun digest slot price => ?_
      simp [hlive]

variable {P : BookProtocol} {o : RangeOrder} {book next : Book} {snapshot : ChainAccountSnapshot}

theorem rebuildSearchIndex_indexed {doc : BookDocument}
    (hkeyed : ∀ {digest record}, doc.orders.get? digest = some record → record.digest = digest) :
    Indexes (rebuildSearchIndex o doc) (LiveAt doc) := by
  refine (rebuild_loop (doc.orders.range o 0) indexes_empty).congr fun digest slot price => ?_
  constructor
  · rintro (⟨⟨key, record⟩, he, hlive, hdigest, hslot, hprice⟩ | h)
    · have hget := Map.mem_range.1 he
      have hkey : key = digest := (hkeyed hget).symm.trans hdigest.symm
      exact ⟨record, hkey ▸ hget, hlive, hslot.symm, hprice.symm⟩
    · exact h.elim
  · rintro ⟨record, hget, hlive, hslot, hprice⟩
    exact .inl ⟨⟨digest, record⟩, Map.mem_range.2 hget, hlive, (hkeyed hget).symm, hslot.symm, hprice.symm⟩

/-! ## What a call stores -/

/-- The two ways a call changes the book. -/
inductive BookWrote (book : Book) : Book → Prop
  | admitted {doc record} (orders : doc.orders = book.doc.orders.put record.digest record)
    (absent : book.doc.orders.get? record.digest = none) (live : record.status = .live) :
    BookWrote book { doc := doc, search := indexOrder book.search record }
  | settled {doc search digest old record} (orders : doc.orders = book.doc.orders.put digest record)
    (found : book.doc.orders.get? digest = some old) (same : record.digest = old.digest ∧ record.order = old.order)
    (kept : record.status = .live → old.status = .live ∧ search = book.search)
    (removed : record.status ≠ .live → search = removeIndexedOrder book.search record) :
    BookWrote book { doc := doc, search := search }

section
variable {opened : Bool}

theorem admitVerifiedLocked_wrote {verified : SignedPredictionOrder}
    (h : admitVerifiedLocked P o opened book signedBOC verified snapshot now = .ok (.store next record)) :
    BookWrote book next := by
  simp only [admitVerifiedLocked, peel] at h
  obtain ⟨-, h⟩ := h
  split at h
  · simp only [peel, reduceCtorEq, and_false] at h
  · rename_i habsent
    simp only [peel] at h
    obtain ⟨-, -, h⟩ := h
    cases h
    exact .admitted rfl habsent rfl

theorem admit_wrote (h : admitOrder P o opened book signedBOC snapshot now = .ok (.store next record)) :
    BookWrote book next := by
  simp only [admitOrder, peel] at h
  obtain ⟨-, -, verified, -, h⟩ := h
  exact admitVerifiedLocked_wrote h

theorem applyFinalizedBookFill_wrote {cumulative : UInt64}
    (h : applyFinalizedBookFill opened book digest cumulative txHash view = .ok (.store next ())) :
    BookWrote book next := by
  simp only [applyFinalizedBookFill, peel] at h
  obtain ⟨-, -, h⟩ := h
  split at h
  · simp only [throw_ok] at h
  · rename_i old hold
    simp only [peel, not_or] at h
    obtain ⟨⟨hstatus, -, -⟩, h⟩ := h
    split at h
    · simp only [peel, reduceCtorEq, and_false] at h
    · cases h
      by_cases hfull : cumulative = old.order.quantityLots
      · refine .settled rfl hold ⟨rfl, rfl⟩ (fun hlive => ?_) fun _ => ?_
        · rw [if_pos hfull] at hlive
          cases hlive
        · rw [if_pos (by rw [if_pos hfull])]
      · refine .settled rfl hold ⟨rfl, rfl⟩ (fun hlive => ?_) fun hlive => ?_
        · rw [if_neg hfull] at hlive
          exact ⟨hlive, if_neg (by rw [if_neg hfull, hlive]; decide)⟩
        · rw [if_neg hfull] at hlive
          have hfilled : old.status = .filled := by
            cases hs : old.status with
            | live => exact absurd hs hlive
            | filled => rfl
            | canceled => exact absurd hs hstatus
          exact if_pos (by rw [if_neg hfull, hfilled])

theorem suppressFinalizedCancellation_wrote
    (h : suppressFinalizedCancellation opened book digest txHash view = .ok (.store next ())) :
    BookWrote book next := by
  simp only [suppressFinalizedCancellation, peel] at h
  obtain ⟨-, -, h⟩ := h
  split at h
  · simp only [throw_ok] at h
  · rename_i old hold
    simp only [peel] at h
    obtain ⟨-, h⟩ := h
    split at h
    · simp only [peel, reduceCtorEq, and_false] at h
    · cases h
      exact .settled rfl hold ⟨rfl, rfl⟩ (fun hlive => by cases hlive) fun _ => rfl

theorem bookCall_wrote {c : BookCall} {u : Unit} (h : c.update P o opened book = .ok (.store next u)) :
    BookWrote book next := by
  cases c with
  | admitOrder signedBOC snapshot now => exact admit_wrote (Update.map_store h).choose_spec
  | admitVerified signedBOC verified snapshot now => exact admitVerifiedLocked_wrote (Update.map_store h).choose_spec
  | applyFinalizedFill digest cumulative txHash view => exact applyFinalizedBookFill_wrote h
  | suppressFinalizedCancellation digest txHash view => exact suppressFinalizedCancellation_wrote h

end

/-! ## The invariant -/

theorem BookWrote.indexed (hw : BookWrote book next) (hi : Indexed book) : Indexed next := by
  cases hw with
  | @admitted doc record orders absent live =>
    refine ⟨fun hget => ?_, (hi.indexes.indexOrder record).congr fun digest slot price => ?_⟩
    · exact Map.forall_put hi.keyed rfl (orders ▸ hget)
    · simp only [LiveAt, orders, Map.get?_put]
      by_cases heq : digest = record.digest
      · subst heq
        simp [OrderRecord.At, absent, live, eq_comm]
      · simp [OrderRecord.At, heq]
  | @settled doc search digest old record orders found same kept removed =>
    have hdigest := same.1.trans (hi.keyed found)
    have hslot : record.slot = old.slot := by rw [OrderRecord.slot, same.2]; rfl
    refine ⟨fun hget => ?_, ?_⟩
    · exact Map.forall_put hi.keyed hdigest (orders ▸ hget)
    · by_cases hlive : record.status = .live
      · -- a live order stays where it was
        obtain ⟨hold, rfl⟩ := kept hlive
        refine hi.indexes.congr fun digest' slot price => ?_
        simp only [LiveAt, orders, Map.get?_put]
        by_cases heq : digest' = digest
        · subst heq
          simp [found, hold, hlive, hslot, same.2]
        · simp [heq]
      · rw [removed hlive]
        refine (hi.indexes.removeIndexedOrder record).congr fun digest' slot price => ?_
        simp only [LiveAt, orders, Map.get?_put]
        by_cases heq : digest' = digest
        · subst heq
          simp only [OrderRecord.At, hdigest, hslot, same.2, found, if_true, Option.some.injEq, exists_eq_left',
            hlive, false_and, iff_false, not_and, true_and]
          intro hat _ hs hp
          exact hat hs.symm hp.symm
        · simp [OrderRecord.At, hdigest, heq]

theorem loadBook_indexed {profile : MarketProfile} {stored : BookDocument}
    (h : loadBook P o profile stored = .ok book) : Indexed book := by
  simp only [loadBook, peel, forM_ok] at h
  obtain ⟨-, hrecords, rfl⟩ := h
  have hkeyed : ∀ {digest record}, stored.orders.get? digest = some record → record.digest = digest := by
    intro digest record hget
    have hrecord := hrecords ⟨digest, record⟩ (Map.mem_range.2 hget)
    simp only [validateStoredOrder, peel, passed] at hrecord
    exact hrecord.1.1.symm
  exact ⟨hkeyed, rebuildSearchIndex_indexed hkeyed⟩

/-- The index of every state of the book is the one of its document. -/
theorem bookRun_indexed (P : BookProtocol) (profile : MarketProfile) (es : List (RangeOrder × MachineEvent BookCall)) :
    Indexed (bookRun P profile es).mem := by
  refine invariant (I := fun s : Machine.State Book BookDocument => Indexed s.mem) (fun s e hs => ?_) es
    (emptyBook_indexed profile)
  exact Machine.step_mem (fun hi hcall => (bookCall_wrote hcall).indexed hi) loadBook_indexed hs

end OpenFox.Prediction
