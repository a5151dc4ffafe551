/-
Portfolio capacity: the reservations of a document and its booked losses are a book of holds
(`Base.Book`) over five axes, one of them per asset bucket. Every change of a document moves the
book within its limits, and `portfolioUsage` computes what the book uses without wrapping, in
whatever order the maps are visited.
-/
import OpenFox.Authority.Sample
import OpenFox.Authority.WellFormed
import OpenFox.Base.Capacity

namespace OpenFox.Authority

open OpenFox.Go OpenFox.Commerce OpenFox.Base

variable {P : Protocol} {d d' : AuthorityDocument}

/-! ## The bounds check -/

theorem exceeds_eq_false {a b l : UInt64} : exceeds a b l = false ↔ a.toNat + b.toNat ≤ l.toNat := by
  unfold exceeds
  rw [Bool.or_eq_false_iff, decide_eq_false_iff_not, decide_eq_false_iff_not, gt_iff_lt, gt_iff_lt, UInt64.not_lt,
    UInt64.not_lt]
  constructor
  · rintro ⟨hb, ha⟩
    rw [UInt64.le_iff_toNat_le, UInt64.toNat_sub_of_le _ _ hb] at ha
    rw [UInt64.le_iff_toNat_le] at hb
    omega
  · intro hsum
    have hb : b ≤ l := UInt64.le_iff_toNat_le.2 (by omega)
    refine ⟨hb, ?_⟩
    rw [UInt64.le_iff_toNat_le, UInt64.toNat_sub_of_le _ _ hb]
    omega

theorem toNat_add_of_le {a b l : UInt64} (hsum : a.toNat + b.toNat ≤ l.toNat) : (a + b).toNat = a.toNat + b.toNat := by
  have hl := l.toNat_lt
  rw [UInt64.toNat_add, Nat.mod_eq_of_lt (by omega)]

/-! ## The book of a document -/

/-- What the portfolio bounds; losses separately for each asset bucket, `""` being no asset. -/
inductive Axis
  | compute | spend | locked | receivable
  | loss (bucket : String)

def Axis.limit (limits : PortfolioLimits) : Axis → ℕ
  | .compute => limits.computeUnits.toNat
  | .spend => limits.spendAtomic.toNat
  | .locked => limits.lockedCapitalAtomic.toNat
  | .receivable => limits.receivableAtomic.toNat
  | .loss _ => limits.maximumLossAtomic.toNat

/-- What a reservation takes on an axis; nothing once it is released. -/
def Axis.weight (P : Protocol) (axis : Axis) (r : ExposureReservation) : ℕ :=
  if r.released then 0
  else match axis with
  | .compute => r.computeUnits.toNat
  | .spend => r.spendAtomic.toNat
  | .locked => r.lockedCapitalAtomic.toNat
  | .receivable => r.receivableAtomic.toNat
  | .loss bucket => if exposureAssetBucket P r.asset = .ok bucket then r.maximumLossAtomic.toNat else 0

/-- What is booked for good: the consumed loss and the retained default liability of a bucket. -/
def Axis.spent (d : AuthorityDocument) : Axis → ℕ
  | .loss bucket => (consumedLoss d bucket).toNat + (retainedLiability d bucket).toNat
  | _ => 0

def portfolioBook (d : AuthorityDocument) : Book Axis String ExposureReservation :=
  { spent := Axis.spent d, holds := d.reservations }

/-- The unreleased reservations and the booked losses are within the limits on every axis. -/
def WithinLimits (P : Protocol) (d : AuthorityDocument) : Prop :=
  (portfolioBook d).Within (Axis.weight P) (Axis.limit d.limits)

theorem Axis.weight_released (axis : Axis) (r : ExposureReservation) :
    axis.weight P { r with released := true } = 0 := rfl

/-- A document whose portfolio is within its limits: every hold has an asset bucket, and losses are
booked under canonical buckets, consumed and retained together. -/
structure Capped (P : Protocol) (d : AuthorityDocument) : Prop where
  within : WithinLimits P d
  bucketed : ∀ {k r}, d.reservations.get? k = some r → ∃ bucket, exposureAssetBucket P r.asset = .ok bucket
  consumed : ∀ {bucket}, d.consumedMaximumLossByAsset.has bucket = true → canonicalSHA256 bucket = true
  together : ∀ bucket, d.consumedMaximumLossByAsset.has bucket = d.retainedDefaultLiabilityByAsset.has bucket

/-- `codec.Digest` gives asset buckets a canonical name. -/
def CanonicalBuckets (P : Protocol) : Prop :=
  ∀ asset bucket, P.digest "tos.openfox.asset-exposure-bucket.v1" (.asset asset) = .ok bucket →
    canonicalSHA256 bucket = true

variable {bucket : String} {order : RangeOrder} {r : ExposureReservation}

theorem bucket_canonical (hP : CanonicalBuckets P) {asset : Option AssetIdentity}
    (hb : exposureAssetBucket P asset = .ok bucket) : bucket = "" ∨ canonicalSHA256 bucket = true := by
  unfold exposureAssetBucket at hb
  split at hb
  · cases hb; exact .inl rfl
  · split at hb
    · cases hb
    · exact .inr (hP _ _ hb)

/-! ## Totals of the two loops -/

def PortfolioUse.total (u : PortfolioUse) : Axis → ℕ
  | .compute => u.computeUnits.toNat
  | .spend => u.spendAtomic.toNat
  | .locked => u.lockedCapitalAtomic.toNat
  | .receivable => u.receivableAtomic.toNat
  | .loss bucket => (u.lossByAsset.getD bucket 0).toNat

theorem spent_le_limit (hc : Capped P d) (bucket : String) :
    (consumedLoss d bucket).toNat + (retainedLiability d bucket).toNat ≤ d.limits.maximumLossAtomic.toNat :=
  le_trans (Nat.le_add_right _ _) (hc.within (.loss bucket))

/-- The loss totals after the first rounds of the loop over the booked losses. -/
structure LossesAfter (d : AuthorityDocument) (done : List ((_ : String) × UInt64)) (loss : Map String UInt64) :
    Prop where
  legacy : (loss.getD "" 0).toNat = Axis.spent d (.loss "")
  visited : ∀ e ∈ done, (loss.getD e.1 0).toNat = Axis.spent d (.loss e.1)
  others : ∀ bucket, bucket ≠ "" → bucket ∉ done.map Sigma.fst → loss.get? bucket = none

theorem losses_exact (hc : Capped P d) {l : List ((_ : String) × UInt64)}
    (hl : ∀ e ∈ l, d.consumedMaximumLossByAsset.get? e.1 = some e.2) :
    ∃ loss, l.foldlM (addLossDisposition d)
      (Map.put ∅ "" (d.consumedMaximumLossAtomic + d.retainedDefaultLiabilityAtomic)) = .ok loss ∧
      LossesAfter d l loss := by
  refine foldlM_total (LossesAfter d) l (fun done e rest loss hall hdone => ?_) l [] _ rfl
    ⟨?_, by simp, fun bucket hb _ => ?_⟩
  · have hmem : e ∈ l := by rw [hall]; simp
    have hget := hl e hmem
    have hcanon := hc.consumed (Map.has_iff.2 ⟨_, hget⟩)
    have hne : e.1 ≠ "" := canonicalSHA256_ne_empty hcanon
    obtain ⟨retained, hretained⟩ := Map.has_iff.1 ((hc.together e.1).symm.trans (Map.has_iff.2 ⟨_, hget⟩))
    have hspent : Axis.spent d (.loss e.1) = e.2.toNat + retained.toNat := by
      simp [Axis.spent, consumedLoss, retainedLiability, if_neg hne, Map.getD_of_get? hget, Map.getD_of_get? hretained]
    have hle : e.2.toNat + retained.toNat ≤ d.limits.maximumLossAtomic.toNat := hspent ▸ spent_le_limit hc e.1
    refine ⟨loss.put e.1 (e.2 + retained), ?_, ⟨?_, ?_, ?_⟩⟩
    · simp [addLossDisposition, hretained, refuse, hcanon, exceeds_eq_false.2 hle, runs]
    · rw [Map.getD_put, if_neg (Ne.symm hne)]; exact hdone.legacy
    · intro e' he'
      rw [Map.getD_put]
      split
      · rename_i heq
        rw [heq, hspent, toNat_add_of_le hle]
      · rename_i hne'
        rcases List.mem_append.1 he' with he' | he'
        · exact hdone.visited e' he'
        · exact absurd (congrArg Sigma.fst (List.mem_singleton.1 he')) hne'
    · intro bucket hb hnot
      rw [List.map_append, List.mem_append, not_or] at hnot
      rw [Map.get?_put_ne _ _ (by simpa using hnot.2)]
      exact hdone.others bucket hb hnot.1
  · have hle := spent_le_limit hc ""
    simp only [consumedLoss, retainedLiability, if_true] at hle
    rw [Map.getD_put, if_pos rfl, toNat_add_of_le hle]
    rfl
  · rw [Map.get?_put_ne _ _ hb]; exact Map.get?_empty _

theorem losses_total (hc : Capped P d) {loss : Map String UInt64}
    (hl : LossesAfter d (d.consumedMaximumLossByAsset.range order 0) loss) (bucket : String) :
    (loss.getD bucket 0).toNat = Axis.spent d (.loss bucket) := by
  by_cases hb : bucket = ""
  · subst hb; exact hl.legacy
  · cases hget : d.consumedMaximumLossByAsset.get? bucket with
    | some consumed => exact hl.visited ⟨bucket, consumed⟩ (Map.mem_range.2 hget)
    | none =>
      have hconsumed := Map.has_false_iff.2 hget
      have hretained := Map.has_false_iff.1 ((hc.together bucket).symm.trans hconsumed)
      have hnone : loss.get? bucket = none := by
        refine hl.others bucket hb fun hmem => ?_
        obtain ⟨⟨k, v⟩, he, rfl⟩ := List.mem_map.1 hmem
        rw [Map.mem_range.1 he] at hget
        cases hget
      simp [Axis.spent, consumedLoss, retainedLiability, if_neg hb, Map.getD, hget, hretained, hnone]

theorem addReservation_exact (hb : ∃ bucket, exposureAssetBucket P r.asset = .ok bucket) (k : String)
    (used : PortfolioUse) (hfits : ∀ axis, used.total axis + axis.weight P r ≤ axis.limit d.limits) :
    ∃ used', addReservation P d used ⟨k, r⟩ = .ok used' ∧
      ∀ axis, used'.total axis = used.total axis + axis.weight P r := by
  by_cases hr : r.released = true
  · exact ⟨used, by simp [addReservation, hr], fun axis => by simp [Axis.weight, hr]⟩
  · obtain ⟨bucket, hbucket⟩ := hb
    have hcompute := hfits .compute
    have hspend := hfits .spend
    have hlocked := hfits .locked
    have hreceivable := hfits .receivable
    have hloss := hfits (.loss bucket)
    simp only [PortfolioUse.total, Axis.weight, hr, if_false, Axis.limit, hbucket, if_true, Bool.false_eq_true]
      at hcompute hspend hlocked hreceivable hloss
    refine ⟨_, by simp only [addReservation, hr, if_false, hbucket, refuse, exceeds_eq_false.2 hcompute,
      exceeds_eq_false.2 hspend, exceeds_eq_false.2 hlocked, exceeds_eq_false.2 hreceivable,
      exceeds_eq_false.2 hloss, Bool.or_self, Bool.false_eq_true]; rfl, fun axis => ?_⟩
    cases axis with
    | compute | spend | locked | receivable =>
      simp only [PortfolioUse.total, Axis.weight, hr]
      exact toNat_add_of_le (by assumption)
    | loss bucket' =>
      simp only [PortfolioUse.total, Axis.weight, hr, if_false, Map.getD_put, hbucket, Except.ok.injEq,
        Bool.false_eq_true]
      by_cases heq : bucket' = bucket
      · subst heq; simp [toNat_add_of_le hloss]
      · simp [heq, Ne.symm heq]

theorem reservations_exact (hc : Capped P d) {loss : Map String UInt64}
    (hloss : ∀ bucket, (loss.getD bucket 0).toNat = Axis.spent d (.loss bucket))
    {l : List ((_ : String) × ExposureReservation)} (hl : l <+: d.reservations.range order 1) :
    ∃ used, l.foldlM (addReservation P d) { lossByAsset := loss } = .ok used ∧
      ∀ axis, used.total axis = Axis.spent d axis + (l.map fun e => axis.weight P e.2).sum := by
  refine foldlM_total (fun done (used : PortfolioUse) => ∀ axis,
    used.total axis = Axis.spent d axis + (done.map fun e => axis.weight P e.2).sum) l
    (fun done e rest used hall hdone => ?_) l [] _ rfl fun axis => ?_
  · have hpre : done ++ [e] <+: d.reservations.range order 1 := List.IsPrefix.trans ⟨rest, by rw [hall]; simp⟩ hl
    have hmem : d.reservations.get? e.1 = some e.2 := Map.mem_range.1 (hpre.subset (by simp))
    obtain ⟨used', hadd, htotal⟩ := addReservation_exact (d := d) (hc.bucketed hmem) e.1 used fun axis => by
      have hle := Map.sum_prefix_le order 1 (axis.weight P) hpre
      have hwithin := hc.within axis
      rw [hdone axis]
      simp only [List.map_append, List.sum_append, List.map_cons, List.map_nil, List.sum_cons, List.sum_nil] at hle
      simp only [Book.used, portfolioBook] at hwithin
      omega
    refine ⟨used', hadd, fun axis => ?_⟩
    rw [htotal axis, hdone axis]
    simp only [List.map_append, List.sum_append, List.map_cons, List.map_nil, List.sum_cons, List.sum_nil]
    omega
  · cases axis with
    | loss bucket => simpa [PortfolioUse.total] using hloss bucket
    | _ => rfl

/-- `portfolioUsage` succeeds and its totals are what the book uses, whatever the map orders. -/
theorem portfolioUsage_exact (hc : Capped P d) (order : RangeOrder) : ∃ used, portfolioUsage P order d = .ok used ∧
      ∀ axis, used.total axis = (portfolioBook d).used (Axis.weight P) axis := by
  obtain ⟨loss, hfold, hafter⟩ := losses_exact hc
    fun e he => Map.mem_range.1 he
  obtain ⟨used, hused, htotal⟩ := reservations_exact hc (losses_total hc hafter) (List.prefix_refl _)
  have hle := spent_le_limit hc ""
  simp only [consumedLoss, retainedLiability, if_true] at hle
  refine ⟨used, ?_, fun axis => ?_⟩
  · simp only [portfolioUsage, refuse, exceeds_eq_false.2 hle, Bool.false_eq_true, if_false]
    show (_ >>= _) = _
    rw [hfold]
    exact hused
  · rw [htotal axis, Map.sumBy_range order 1 (axis.weight P)]
    rfl

/-! ## Changes move the book -/

theorem spent_congr (hs : SameLosses d d') : Axis.spent d' = Axis.spent d := by
  funext axis
  cases axis with
  | loss bucket =>
    simp [Axis.spent, consumedLoss, retainedLiability, hs.consumed, hs.retained, hs.consumedByAsset, hs.retainedByAsset]
  | _ => rfl

/-- A reservation that was admitted is retained as it is, or is new and fits on every axis. -/
theorem admitReservation_fits (hc : Capped P d) (ha : admitReservation P order d r = .ok ()) :
    (∃ bucket, exposureAssetBucket P r.asset = .ok bucket) ∧ (d.reservations.get? r.reservationID = some r ∨
        d.reservations.get? r.reservationID = none ∧
          ∀ axis, (portfolioBook d).used (Axis.weight P) axis + axis.weight P r ≤ axis.limit d.limits) := by
  simp only [admitReservation, peel] at ha
  obtain ⟨valid, bucket, hbucket, ha⟩ := ha
  have hlive : r.released = false := by simpa using (not_or.1 (not_or.1 valid).2).2
  refine ⟨⟨bucket, hbucket⟩, ?_⟩
  split at ha
  · rename_i existing hexisting
    rw [refuse_ok, not_not] at ha
    exact .inl (ha ▸ hexisting)
  · rename_i hnone
    simp only [peel, Bool.not_eq_true, Bool.or_eq_false_iff, exceeds_eq_false] at ha
    obtain ⟨used, hused, ⟨⟨⟨hcompute, hspend⟩, hlocked⟩, hreceivable⟩, hloss⟩ := ha
    obtain ⟨used', hused', htotal⟩ := portfolioUsage_exact hc order
    obtain rfl : used' = used := Except.ok.inj (hused'.symm.trans hused)
    refine .inr ⟨hnone, fun axis => ?_⟩
    rw [← htotal axis]
    cases axis with
    | loss bucket' =>
      by_cases heq : bucket' = bucket
      · subst heq
        simpa [Axis.weight, PortfolioUse.total, Axis.limit, hlive, hbucket] using hloss
      · have hle := htotal (.loss bucket') ▸ hc.within (.loss bucket')
        simpa [Axis.weight, hlive, hbucket, Ne.symm heq] using hle
    | compute | spend | locked | receivable => simpa [Axis.weight, PortfolioUse.total, Axis.limit, hlive]

theorem disposeLoss_spent {realized retained : UInt64}
    (hd : dispositionWithinLimits d r bucket realized retained = .ok ()) (axis : Axis) :
    realized.toNat + retained.toNat ≤ r.maximumLossAtomic.toNat ∧
    Axis.spent (disposeLoss d bucket realized retained) axis = Axis.spent d axis +
      match axis with
      | .loss b => if b = bucket then realized.toNat + retained.toNat else 0
      | _ => 0 := by
  simp only [dispositionWithinLimits, peel, Bool.not_eq_true, Bool.or_eq_false_iff, exceeds_eq_false] at hd
  obtain ⟨⟨hsplit, hconsumed⟩, hafter, hretained⟩ := hd
  rw [toNat_add_of_le hafter, toNat_add_of_le hconsumed] at hretained
  have hliability : (retainedLiability d bucket).toNat + retained.toNat ≤ d.limits.maximumLossAtomic.toNat := by omega
  refine ⟨hsplit, ?_⟩
  cases axis with
  | loss b =>
    by_cases hb : b = bucket
    · subst hb
      have hsum : (consumedLoss (disposeLoss d b realized retained) b).toNat +
          (retainedLiability (disposeLoss d b realized retained) b).toNat =
          (consumedLoss d b + realized).toNat + (retainedLiability d b + retained).toNat := by
        unfold disposeLoss
        split
        · rename_i hempty; simp [consumedLoss, retainedLiability, hempty]
        · rename_i hne; simp [consumedLoss, retainedLiability, hne, Map.getD_put]
      simp only [Axis.spent, if_true, hsum, toNat_add_of_le hconsumed, toNat_add_of_le hliability]
      omega
    · simp only [Axis.spent, hb, if_false, Nat.add_zero]
      unfold disposeLoss
      split
      · rename_i hempty
        have hne : b ≠ "" := fun h => hb (h.trans hempty.symm)
        simp [consumedLoss, retainedLiability, hne]
      · simp [consumedLoss, retainedLiability, Map.getD_put, hb]
  | _ => unfold disposeLoss; split <;> rfl

theorem Capped.of_same (hc : Capped P d) (hres : d'.reservations = d.reservations) (hs : SameLosses d d') :
    Capped P d' := by
  refine ⟨?_, fun hk => hc.bucketed (hres ▸ hk), fun hb => hc.consumed (hs.consumedByAsset ▸ hb), fun bucket => ?_⟩
  · have hw := hc.within
    unfold WithinLimits portfolioBook at hw ⊢
    rw [spent_congr hs, hs.limits, hres]; exact hw
  · rw [hs.consumedByAsset, hs.retainedByAsset]; exact hc.together bucket

/-- A hold with a bucket stored beside canonical losses, where the book makes a move. -/
theorem Capped.put {d₀ : AuthorityDocument} {k : String} (hc : Capped P d)
    (hres : d'.reservations = d.reservations.put k r) (hb : ∃ bucket, exposureAssetBucket P r.asset = .ok bucket)
    (hs : SameLosses d₀ d') (hlimits : d₀.limits = d.limits)
    (hconsumed : ∀ {b}, d₀.consumedMaximumLossByAsset.has b = true → canonicalSHA256 b = true)
    (htogether : ∀ b, d₀.consumedMaximumLossByAsset.has b = d₀.retainedDefaultLiabilityByAsset.has b)
    (hm : (portfolioBook d).Moves (Axis.weight P) (Axis.limit d.limits)
      { spent := Axis.spent d₀, holds := d.reservations.put k r }) : Capped P d' := by
  refine ⟨?_, fun hk => ?_, fun hb => hconsumed (hs.consumedByAsset ▸ hb), fun b => ?_⟩
  · unfold WithinLimits portfolioBook
    rw [spent_congr hs, hs.limits, hlimits, hres]
    exact hm.within hc.within
  · exact Map.forall_put hc.bucketed hb (hres ▸ hk)
  · rw [hs.consumedByAsset, hs.retainedByAsset]
    exact htogether b

theorem disposeLoss_buckets (hc : Capped P d) (hb : bucket = "" ∨ canonicalSHA256 bucket = true)
    (realized retained : UInt64) :
    (∀ {b}, (disposeLoss d bucket realized retained).consumedMaximumLossByAsset.has b = true →
      canonicalSHA256 b = true) ∧
    ∀ b, (disposeLoss d bucket realized retained).consumedMaximumLossByAsset.has b =
    (disposeLoss d bucket realized retained).retainedDefaultLiabilityByAsset.has b := by
  unfold disposeLoss
  split
  · exact ⟨hc.consumed, hc.together⟩
  · rename_i hne
    have hcanon := hb.resolve_left hne
    refine ⟨fun {b} hhas => ?_, fun b => ?_⟩
    · by_cases heq : b = bucket
      · subst heq; exact hcanon
      · exact hc.consumed (by simpa [Map.has, Map.get?_put, heq] using hhas : d.consumedMaximumLossByAsset.has b = true)
    · by_cases heq : b = bucket
      · subst heq; simp [Map.has]
      · have htogether := hc.together b
        simpa [Map.has, Map.get?_put, heq] using htogether

theorem PortfolioMove.capped (hP : CanonicalBuckets P) (hm : PortfolioMove P d d') (hc : Capped P d) : Capped P d' := by
  cases hm with
  | keep reservations losses => exact hc.of_same reservations losses
  | @hold order r fits reservations losses =>
    obtain ⟨hbucket, hfits⟩ := admitReservation_fits hc fits
    refine hc.put reservations hbucket losses rfl hc.consumed hc.together ?_
    rcases hfits with hsame | ⟨hnone, hfits⟩
    · exact .exchange hsame fun _ => le_rfl
    · exact .hold hnone hfits
  | free found _ reservations losses =>
    have hbucket := hc.bucketed found
    refine hc.put reservations hbucket losses rfl hc.consumed hc.together (.exchange found fun axis => ?_)
    rw [Axis.weight_released]
    exact Nat.add_le_add_left (Nat.zero_le _) _
  | @dispose k r bucket realized retained found live bucketed disposed reservations losses =>
    obtain ⟨hcanon, htogether⟩ := disposeLoss_buckets hc (bucket_canonical hP bucketed) realized retained
    have hbucket := hc.bucketed found
    refine hc.put reservations hbucket losses (disposeLoss_proj (·.limits)) hcanon htogether
      (.exchange found fun axis => ?_)
    obtain ⟨hsplit, hspent⟩ := disposeLoss_spent disposed axis
    rw [hspent, Axis.weight_released, Nat.add_zero]
    refine Nat.add_le_add_left ?_ _
    cases axis with
    | loss b =>
      by_cases hb : b = bucket
      · subst hb; simpa [Axis.weight, live, bucketed] using hsplit
      · simp [hb]
    | _ => exact Nat.zero_le _

theorem fresh_capped (ownerID agentID authorityID : String) (limits : PortfolioLimits) :
    Capped P (AuthorityDocument.fresh ownerID agentID authorityID limits) := by
  refine ⟨fun axis => ?_, fun hk => ?_, fun hb => ?_, fun bucket => rfl⟩
  · have hused : (portfolioBook (AuthorityDocument.fresh ownerID agentID authorityID limits)).used (Axis.weight P)
        axis = 0 := by
      cases axis with
      | loss bucket =>
        unfold Book.used portfolioBook Axis.spent consumedLoss retainedLiability
        dsimp only
        split <;> rfl
      | _ => rfl
    rw [hused]; exact Nat.zero_le _
  · cases hk
  · cases hb

/-! ## Runs -/

/-- Every run keeps the portfolio capped, by the limits the authority was opened with. -/
theorem run_capped (hP : CanonicalBuckets P) (ownerID agentID authorityID : String) (limits : PortfolioLimits)
    (es : List Event) :
    Capped P (exec (step P) (PersonalAuthority.fresh ownerID agentID authorityID limits) es).doc ∧
      (exec (step P) (PersonalAuthority.fresh ownerID agentID authorityID limits) es).doc.limits = limits := by
  refine run_invariant (I := fun d => Capped P d ∧ d.limits = limits) ⟨fresh_capped _ _ _ _, rfl⟩
    (fun a e hwf hI _ => ⟨?_, (step_limits hwf e).trans hI.2⟩) (along_true (step P) es _)
  exact step_keeps hwf hI.1 (fun hd hc ⟨_, _, _, _, _, lapse⟩ => (lapse.portfolio hd).capped hP hc)
    (fun _ _ hd hc hw => (hw.portfolio hd).capped hP hc)

/-- No addition of `portfolioUsage` leaves the range of `uint64`: the legacy totals, the totals of an
asset, and in each round over the reservations the running totals with the one visited. -/
structure AddsInRange (P : Protocol) (order : RangeOrder) (d : AuthorityDocument) : Prop where
  legacy : d.consumedMaximumLossAtomic.toNat + d.retainedDefaultLiabilityAtomic.toNat < 2 ^ 64
  losses : ∀ bucket consumed retained, d.consumedMaximumLossByAsset.get? bucket = some consumed →
    d.retainedDefaultLiabilityByAsset.get? bucket = some retained → consumed.toNat + retained.toNat < 2 ^ 64
  holds : ∀ done e loss used, done ++ [e] <+: d.reservations.range order 1 →
    (d.consumedMaximumLossByAsset.range order 0).foldlM (addLossDisposition d)
      (Map.put ∅ "" (d.consumedMaximumLossAtomic + d.retainedDefaultLiabilityAtomic)) = .ok loss →
    done.foldlM (addReservation P d) { lossByAsset := loss } = .ok used →
    ∀ axis : Axis, used.total axis + axis.weight P e.2 < 2 ^ 64

theorem Axis.limit_lt (limits : PortfolioLimits) (axis : Axis) : axis.limit limits < 2 ^ 64 := by
  cases axis <;> exact UInt64.toNat_lt _

theorem Capped.addsInRange (hc : Capped P d) (order : RangeOrder) : AddsInRange P order d := by
  have hspent : ∀ bucket, Axis.spent d (.loss bucket) < 2 ^ 64 := fun bucket =>
    lt_of_le_of_lt (spent_le_limit hc bucket) (UInt64.toNat_lt _)
  refine ⟨hspent "", fun bucket consumed retained hcons hret => ?_, fun done e loss used hpre hloss hused axis => ?_⟩
  · have hne : bucket ≠ "" := canonicalSHA256_ne_empty (hc.consumed (Map.has_iff.2 ⟨_, hcons⟩))
    have hb := hspent bucket
    simp only [Axis.spent, consumedLoss, retainedLiability, if_neg hne, Map.getD_of_get? hcons,
      Map.getD_of_get? hret] at hb
    exact hb
  · -- The accumulators are the ones whose totals are known, and the prefix that ends in `e` still fits.
    obtain ⟨loss', hloss', hafter⟩ := losses_exact hc
      fun e he => Map.mem_range.1 he
    obtain rfl : loss' = loss := Except.ok.inj (hloss'.symm.trans hloss)
    obtain ⟨used', hused', htotal⟩ := reservations_exact hc (losses_total hc hafter)
      ((List.prefix_append done [e]).trans hpre)
    obtain rfl : used' = used := Except.ok.inj (hused'.symm.trans hused)
    have hle := Map.sum_prefix_le order 1 (axis.weight P) hpre
    have hwithin := hc.within axis
    have hlimit := axis.limit_lt d.limits
    rw [htotal axis]
    simp only [List.map_append, List.sum_append, List.map_cons, List.map_nil, List.sum_cons, List.sum_nil] at hle
    simp only [Book.used, portfolioBook] at hwithin
    omega

/-- In every run of an authority opened with `limits` the portfolio stays within them on every axis
and in every asset bucket, counted in unbounded integers. So `portfolioUsage` never errs, in whatever
order the maps are visited, computes exactly what is used, and none of its additions wraps. -/
theorem portfolio_within_limits (hP : CanonicalBuckets P) (ownerID agentID authorityID : String)
    (limits : PortfolioLimits) (es : List Event) :
    let d := (exec (step P) (PersonalAuthority.fresh ownerID agentID authorityID limits) es).doc
    (∀ axis : Axis, Axis.spent d axis + d.reservations.sumBy (axis.weight P) ≤ axis.limit limits) ∧
      ∀ order, (∃ used, portfolioUsage P order d = .ok used ∧
        ∀ axis : Axis, used.total axis = Axis.spent d axis + d.reservations.sumBy (axis.weight P)) ∧
        AddsInRange P order d := by
  obtain ⟨hc, hl⟩ := run_capped hP ownerID agentID authorityID limits es
  refine ⟨fun axis => ?_, fun order => ⟨portfolioUsage_exact hc order, hc.addsInRange order⟩⟩
  have hwithin := hc.within axis
  rw [hl] at hwithin
  exact hwithin

open Sample in
theorem issued_run_within_limits :
    let d := (exec (step protocol) Sample.authority issuedRun).doc
    CanonicalBuckets protocol ∧ d.reservations.get? reservationDigest = some hold ∧
      ∀ axis : Axis, Axis.spent d axis + d.reservations.sumBy (axis.weight protocol) ≤ axis.limit limits :=
  have hP : CanonicalBuckets protocol := fun asset => digest_canonical (.asset asset)
  ⟨hP, by decide +kernel,
    (portfolio_within_limits hP "owner" "alice" "authority" limits issuedRun).1⟩

end OpenFox.Authority
