/-
What every operation of the portfolio ledger keeps, and so what holds of every document it can reach:
the document is sound, so the validation in front of a write never refuses an operation's own result.
-/
import OpenFox.Prediction.PortfolioSound
import OpenFox.Prediction.Sample

namespace OpenFox.Prediction

open OpenFox.Go OpenFox.Base

variable {P : PortfolioProtocol} {o : RangeOrder} {profile : OwnerPortfolioProfile} {d : PortfolioDocument}

/-! ## Documents after each operation -/

/-- Every position is still there, at the same checkpoint or a later one. -/
def Kept (before after : Map PositionKey PositionExposure) : Prop :=
  ∀ {key p}, before.get? key = some p → ∃ p', after.get? key = some p' ∧
    p.masterchainSeqno.toNat ≤ p'.masterchainSeqno.toNat

theorem Kept.refl (positions : Map PositionKey PositionExposure) : Kept positions positions :=
  fun {_ p} hp => ⟨p, hp, le_rfl⟩

variable {c : PortfolioCall} {key : PositionKey} {u : Unit} {opened : Bool} {p : PositionExposure}

theorem Kept.put {positions : Map PositionKey PositionExposure}
    (hnewer : ∀ {old}, positions.get? key = some old → old.masterchainSeqno.toNat ≤ p.masterchainSeqno.toNat) :
    Kept positions (positions.put key p) := fun hold =>
  Map.Grown.put (R := (·.masterchainSeqno.toNat ≤ ·.masterchainSeqno.toNat)) (fun _ => le_rfl) hnewer hold

theorem Kept.trans {a b c : Map PositionKey PositionExposure} (hab : Kept a b) (hbc : Kept b c) : Kept a c := by
  intro key p hp
  obtain ⟨p', hp', hle⟩ := hab hp
  obtain ⟨p'', hp'', hle'⟩ := hbc hp'
  exact ⟨p'', hp'', hle.trans hle'⟩

theorem WithinLimits.mono {d' : PortfolioDocument} (hd : WithinLimits d) (hprofile : d'.profile = d.profile)
    (hrisk : d'.atRisk ≤ d.atRisk) (hlots : d'.heldLots ≤ d.heldLots) : WithinLimits d' :=
  ⟨hrisk.trans (by rw [hprofile]; exact hd.atRisk), hlots.trans (by rw [hprofile]; exact hd.lots)⟩

/-- The progress of one reservation, over positions that are kept. -/
structure Progress (P : PortfolioProtocol) (d next : PortfolioDocument) (digest : String)
    (r r' : PortfolioOrderReservation) : Prop where
  version : next.schemaVersion = d.schemaVersion
  owner : next.profile = d.profile
  reservation : d.orders.get? digest = some r
  orders : next.orders = d.orders.put digest r'
  sound : SoundReservation P digest r'
  sameMarket : r'.marketID = r.marketID
  sameOutcome : r'.outcome = r.outcome
  kept : Kept d.positions next.positions
  noNew : ∀ {key}, d.positions.get? key = none → next.positions.get? key = none
  positions : ∀ {key p}, next.positions.get? key = some p → SoundPosition P key p
  checkpoint : isPortfolioOrderTerminal r'.status = false →
    ∀ {p}, next.positions.get? (portfolioPositionKey r.marketID r.outcome) = some p →
      r'.lastMasterchainSeqno.toNat ≤ p.masterchainSeqno.toNat
  limits : WithinLimits next
  proceeds : next.finalizedProceedsAtomic.toNat + r.cumulativeProceedsAtomic.toNat =
    d.finalizedProceedsAtomic.toNat + r'.cumulativeProceedsAtomic.toNat

variable {next : PortfolioDocument} {digest : String} {r r' : PortfolioOrderReservation} {op : PortfolioOperation}

section
variable (h : Progress P d next digest r r')
include h

theorem Progress.orderMarkets : next.orderMarkets = d.orderMarkets := by
  ext market
  simp only [mem_orderMarkets, h.orders]
  constructor
  · rintro ⟨digest', s, hs, rfl⟩
    obtain ⟨-, rfl⟩ | hs := Map.put_cases hs
    · exact ⟨digest, r, h.reservation, h.sameMarket.symm⟩
    · exact ⟨digest', s, hs, rfl⟩
  · rintro ⟨digest', s, hs, rfl⟩
    by_cases heq : digest' = digest
    · subst heq
      cases hs.symm.trans h.reservation
      exact ⟨digest', r', Map.get?_put_self, h.sameMarket⟩
    · exact ⟨digest', s, by rw [Map.get?_put_ne _ _ heq]; exact hs, rfl⟩

theorem Progress.linked (hd : Linked d.orders d.positions) : Linked next.orders next.positions where
  placed := by
    intro digest' s hs
    obtain ⟨-, rfl⟩ | hs := Map.put_cases (h.orders ▸ hs)
    · obtain ⟨p, hp, -⟩ := hd.placed h.reservation
      obtain ⟨p', hp', -⟩ := h.kept hp
      refine ⟨p', ?_, fun hlive => h.checkpoint hlive hp'⟩
      rw [h.sameMarket, h.sameOutcome]
      exact hp'
    · obtain ⟨p, hp, hle⟩ := hd.placed hs
      obtain ⟨p', hp', hle'⟩ := h.kept hp
      exact ⟨p', hp', fun hlive => (hle hlive).trans hle'⟩
  traded := by
    intro key p hp
    cases hold : d.positions.get? key with
    | none => rw [h.noNew hold] at hp; cases hp
    | some old =>
      rw [← mem_orderMarkets, h.orderMarkets]
      exact mem_orderMarkets.2 (hd.traded hold)

theorem Progress.document (hd : SoundDocument P profile d) : SoundDocument P profile next where
  version := h.version.trans hd.version
  owner := h.owner.trans hd.owner
  count := by rw [h.orders, Map.length_put_of_some h.reservation]; exact hd.count
  markets := by rw [h.orderMarkets]; exact hd.markets
  reservations hs := Map.forall_put hd.reservations h.sound (h.orders ▸ hs)
  positions := h.positions
  linked := h.linked hd.linked
  limits := h.limits
  proceeds := by
    have hsum := Map.sumBy_put_of_some (·.cumulativeProceedsAtomic.toNat) h.reservation r'
    have hproceeds := h.proceeds
    have hbefore := hd.proceeds
    rw [h.orders]
    omega

end

theorem pendingRisk_put (r' : PortfolioOrderReservation) (hr : d.orders.get? digest = some r) :
    ({ d with orders := d.orders.put digest r' } : PortfolioDocument).pendingRisk + r.pendingRisk =
      r'.pendingRisk + d.pendingRisk :=
  Map.sumBy_put_of_some (·.pendingRisk) hr r'

theorem WithinLimits.put (hd : WithinLimits d) (r' : PortfolioOrderReservation)
    (hr : d.orders.get? digest = some r) (hle : r'.pendingRisk ≤ r.pendingRisk) :
    WithinLimits { d with orders := d.orders.put digest r' } := by
  have hsum := pendingRisk_put r' hr
  refine hd.mono rfl ?_ le_rfl
  show d.positionRisk + _ ≤ d.positionRisk + d.pendingRisk
  omega

theorem SoundPosition.moved {p p' : PositionExposure} {seqno : UInt64} {view transaction : String}
    (hp : SoundPosition P key p) (hp' : p' = { p with lots := p'.lots, atRiskAtomic := p'.atRiskAtomic })
    (hseqno : seqno ≠ 0) (hview : canonicalDigest view "sha256:" = true)
    (htransaction : canonicalDigest transaction "sha256:" = true) (hempty : p'.lots = 0 → p'.atRiskAtomic = 0) :
    SoundPosition P key (p'.at seqno view transaction) := by
  rw [hp']
  exact
    { hp with
      seqno := hseqno
      view := hview
      transaction := fun _ => htransaction
      empty := hempty }

theorem noNew_put {key' : PositionKey} {p old : PositionExposure} (hold : d.positions.get? key = some old)
    (hnone : d.positions.get? key' = none) : (d.positions.put key p).get? key' = none := by
  rw [Map.get?_put_ne]
  · exact hnone
  · rintro rfl
    rw [hold] at hnone
    cases hnone

section Fills

variable {evidence : PortfolioFillEvidence} {r : PortfolioOrderReservation}
  {effect : FillEffect}

theorem Fills.recorded (hf : Fills d evidence r p) (hd : Linked d.orders d.positions) :
    d.positions.get? (portfolioPositionKey r.marketID r.outcome) = some p := by
  obtain ⟨p', hp', -⟩ := hd.placed hf.reservation
  rw [hp', ← hf.position, Map.getD_of_get? hp']

variable (hd : SoundDocument P profile d) (hf : Fills d evidence r p)
  (hlimits : WithinLimits (afterFill d evidence (portfolioPositionKey r.marketID r.outcome) effect))
include hd hf hlimits

theorem Fills.progress (hsound : SoundReservation P evidence.orderDigest (effect.reservation.filledTo evidence))
    (hmarket : effect.reservation.marketID = r.marketID) (houtcome : effect.reservation.outcome = r.outcome)
    (hposition : effect.position = { p with
      lots := effect.position.lots, atRiskAtomic := effect.position.atRiskAtomic })
    (hempty : effect.position.lots = 0 → effect.position.atRiskAtomic = 0)
    (hproceeds : effect.proceeds.toNat + r.cumulativeProceedsAtomic.toNat =
      d.finalizedProceedsAtomic.toNat + evidence.cumulativeProceedsAtomic.toNat) :
    Progress P d (afterFill d evidence (portfolioPositionKey r.marketID r.outcome) effect) evidence.orderDigest r
      (effect.reservation.filledTo evidence) where
  version := rfl
  owner := rfl
  reservation := hf.reservation
  orders := rfl
  sound := hsound
  sameMarket := hmarket
  sameOutcome := houtcome
  kept := by
    apply Kept.put
    intro old hold
    cases hold.symm.trans (hf.recorded hd.linked)
    exact hf.newer
  noNew := noNew_put (hf.recorded hd.linked)
  positions := Map.forall_put hd.positions
    ((hd.positions (hf.recorded hd.linked)).moved hposition hf.seqno hf.view hf.transaction hempty)
  checkpoint := by
    intro _ p' hp'
    have hput : (afterFill d evidence (portfolioPositionKey r.marketID r.outcome) effect).positions.get?
        (portfolioPositionKey r.marketID r.outcome) = some _ := Map.get?_put_self
    cases hput.symm.trans hp'
    exact le_rfl
  limits := hlimits
  proceeds := hproceeds

theorem Bought.progress (hside : r.action = .buy) (hb : Bought P.toMarketProtocol d evidence r p effect) :
    Progress P d (afterFill d evidence (portfolioPositionKey r.marketID r.outcome) effect) evidence.orderDigest r
      (effect.reservation.filledTo evidence) := by
  have hr := hd.reservations hf.reservation
  refine hf.progress hd hlimits (hb.sound hr hf hside) ?_ ?_ hb.position ?_ ?_
  · rw [hb.reservation]
  · rw [hb.reservation]
  · intro hzero
    have hlots := hb.lots
    have hmore := hf.more
    rw [hzero, filledDelta] at hlots
    have hnone : (0 : UInt64).toNat = 0 := rfl
    omega
  · rw [hb.proceeds, hb.nothingEarned, (hr.buy hside).noProceeds]

theorem Sold.progress (hside : r.action ≠ .buy) (hs : Sold d evidence r p effect) :
    Progress P d (afterFill d evidence (portfolioPositionKey r.marketID r.outcome) effect) evidence.orderDigest r
      (effect.reservation.filledTo evidence) := by
  refine hf.progress hd hlimits (hs.sound (hd.reservations hf.reservation) hf hside) ?_ ?_ hs.position ?_ ?_
  · rw [hs.reservation]
  · rw [hs.reservation]
  · intro hzero
    rw [hs.risk, ← toNat_eq_zero, remainingPositionRisk_toNat, hzero, UInt64.sub_zero, if_pos le_rfl]
  · have hearned := hf.proceeds
    rw [hs.proceeds]
    omega

end Fills

theorem pendingRisk_of_terminal (ht : isPortfolioOrderTerminal r.status = true) : r.pendingRisk = 0 := by
  rw [PortfolioOrderReservation.pendingRisk, if_pos ht]

section
variable (hd : SoundDocument P profile d)
include hd

theorem mark_progress {state : PortfolioOrderStatus} (hr : d.orders.get? digest = some r)
    (hlive : isPortfolioOrderTerminal r.status = false) (hstate : isPortfolioOrderTerminal state = false) :
    Progress P d { d with revision := d.revision + 1, orders := d.orders.put digest { r with status := state } }
      digest r { r with status := state } where
  version := rfl
  owner := rfl
  reservation := hr
  orders := rfl
  sound := (hd.reservations hr).mark hlive hstate
  sameMarket := rfl
  sameOutcome := rfl
  kept := Kept.refl _
  noNew h := h
  positions := hd.positions
  checkpoint := by
    intro _ p hp
    obtain ⟨p', hp', hle⟩ := hd.linked.placed hr
    cases hp'.symm.trans hp
    exact hle hlive
  limits := by
    have hput := hd.limits.put { r with status := state } hr
      (by simp only [PortfolioOrderReservation.pendingRisk, hlive, hstate]; exact le_rfl)
    exact ⟨hput.atRisk, hput.lots⟩
  proceeds := rfl

theorem inactive_progress {evidence : PortfolioInactiveEvidence} (hr : d.orders.get? evidence.orderDigest = some r)
    (hr' : r' = ({ r with
      pendingCollateralAtomic := 0, pendingPositionLots := 0
      status := inactiveStatus evidence.reason } : PortfolioOrderReservation).at
        evidence.masterchainSeqno evidence.finalityViewID evidence.transactionHash)
    (hsound : SoundReservation P evidence.orderDigest r') :
    Progress P d { d with revision := d.revision + 1, orders := d.orders.put evidence.orderDigest r' }
      evidence.orderDigest r r' := by
  have hterminal : isPortfolioOrderTerminal r'.status = true := by
    rw [hr']
    exact inactiveStatus_terminal _
  refine
    { version := rfl
      owner := rfl
      reservation := hr
      orders := rfl
      sound := hsound
      sameMarket := by rw [hr']; rfl
      sameOutcome := by rw [hr']; rfl
      kept := Kept.refl _
      noNew := id
      positions := hd.positions
      checkpoint := fun hlive => absurd (hterminal.symm.trans hlive) nofun
      limits := ?_
      proceeds := by rw [hr']; rfl }
  have hput := hd.limits.put r' hr (by rw [pendingRisk_of_terminal hterminal]; exact Nat.zero_le _)
  exact ⟨hput.atRisk, hput.lots⟩

theorem exit_sound {evidence : PortfolioPositionExitEvidence}
    (hp : d.positions.get? (portfolioPositionKey evidence.marketID evidence.outcome) = some p)
    (htransaction : canonicalDigest evidence.transactionHash "sha256:" = true)
    (hview : canonicalDigest evidence.finalityViewID "sha256:" = true) (hseqno : evidence.masterchainSeqno ≠ 0)
    (hfewer : evidence.remainingLots.toNat ≤ p.lots.toNat)
    (hnewer : p.masterchainSeqno.toNat < evidence.masterchainSeqno.toNat) {p' : PositionExposure}
    (hp' : p' = { p with
      atRiskAtomic := remainingPositionRisk p.atRiskAtomic p.lots (p.lots - evidence.remainingLots)
      lots := evidence.remainingLots }) :
    SoundDocument P profile { d with
      revision := d.revision + 1
      positions := d.positions.put (portfolioPositionKey evidence.marketID evidence.outcome)
        (p'.at evidence.masterchainSeqno evidence.finalityViewID evidence.transactionHash) } := by
  have hkept : Kept d.positions (d.positions.put (portfolioPositionKey evidence.marketID evidence.outcome)
      (p'.at evidence.masterchainSeqno evidence.finalityViewID evidence.transactionHash)) := by
    apply Kept.put
    intro old hold
    cases hold.symm.trans hp
    exact hnewer.le
  have hempty : p'.lots = 0 → p'.atRiskAtomic = 0 := by
    rw [hp']
    intro hzero
    rw [← toNat_eq_zero]
    dsimp only at hzero ⊢
    rw [remainingPositionRisk_toNat, hzero, UInt64.sub_zero, if_pos le_rfl]
  have hrisk : p'.atRiskAtomic.toNat ≤ p.atRiskAtomic.toNat := by
    rw [hp']
    rw [remainingPositionRisk_toNat]
    split
    · exact Nat.zero_le _
    · exact Nat.sub_le _ _
  have hlots : p'.lots.toNat ≤ p.lots.toNat := by rw [hp']; exact hfewer
  refine
    { hd with
      positions := Map.forall_put hd.positions
        ((hd.positions hp).moved (by rw [hp']) hseqno hview htransaction hempty)
      linked := ⟨?_, ?_⟩
      limits := hd.limits.mono rfl ?_ ?_ }
  · intro digest r hr
    obtain ⟨old, hold, hle⟩ := hd.linked.placed hr
    obtain ⟨new, hnew, hle'⟩ := hkept hold
    exact ⟨new, hnew, fun hlive => (hle hlive).trans hle'⟩
  · intro key new hnew
    cases hold : d.positions.get? key with
    | none => rw [noNew_put hp hold] at hnew; cases hnew
    | some old => exact hd.linked.traded hold
  · exact Nat.add_le_add_right (Map.sumBy_put_le (fun p : PositionExposure => p.atRiskAtomic.toNat) hp hrisk)
      d.pendingRisk
  · exact Map.sumBy_put_le (fun p : PositionExposure => p.lots.toNat) hp hlots

end

section Import

variable {q : ReserveRequest} {before after : Map PositionKey PositionExposure} {outcome : Outcome}

/-- The position a snapshot is compared with is the recorded one, or an empty one of the same key. -/
theorem importBase_cases (before : Map PositionKey PositionExposure) (outcome : Outcome)
    (snapshot : PortfolioMarketSnapshot) :
    before.get? (portfolioPositionKey snapshot.marketID outcome) = some (importBase before snapshot outcome) ∨
      before.get? (portfolioPositionKey snapshot.marketID outcome) = none ∧
        importBase before snapshot outcome = snapshot.newPosition outcome := by
  cases hold : before.get? (portfolioPositionKey snapshot.marketID outcome) with
  | none => exact .inr ⟨rfl, by rw [importBase, Map.getD, hold]; rfl⟩
  | some old => exact .inl (by rw [importBase, Map.getD_of_get? hold])

theorem Imported.sound (ht : Tradable P.toMarketProtocol q.order) (hq : Reserves P d q)
    (hbefore : ∀ {key p}, before.get? key = some p → SoundPosition P key p)
    (hi : Imported q.snapshot outcome before after p) :
    SoundPosition P (portfolioPositionKey q.snapshot.marketID outcome) p := by
  have hcont := hi.continues
  have hrisk := hi.risk
  obtain ⟨hkey, htransaction, hempty⟩ : let base := importBase before q.snapshot outcome
      portfolioPositionKey q.snapshot.marketID outcome = portfolioPositionKey base.marketID base.outcome ∧
      (base.lastTransactionHash ≠ "" → canonicalDigest base.lastTransactionHash "sha256:" = true) ∧
      (base.lots = 0 → base.atRiskAtomic = 0) := by
    rcases importBase_cases before outcome q.snapshot with hold | ⟨-, hnew⟩
    · exact ⟨(hbefore hold).key, (hbefore hold).transaction, (hbefore hold).empty⟩
    · rw [hnew]
      exact ⟨rfl, fun h => absurd rfl h, fun _ => rfl⟩
  have hmarket : (importBase before q.snapshot outcome).marketID = q.marketID :=
    (congrArg Prod.fst hkey).symm.trans hq.sameMarket
  rw [hi.position]
  refine
    { key := hkey
      market := by rw [hmarket]; exact hq.market
      address := by rw [hcont.address, hq.sameAddress]; exact ht.address
      config := by rw [hcont.config, hq.sameConfig]; exact q.order.marketConfigHash.2
      code := by rw [hcont.code, hq.sameCode]; exact hq.code
      seqno := hq.seqno
      view := hq.view
      transaction := htransaction
      empty := fun hzero => ?_ }
  -- no lots now means none before, and nothing was imported
  have hlots : (q.snapshot.lots outcome).toNat = 0 := toNat_eq_zero.2 hzero
  have hnone : (importBase before q.snapshot outcome).lots = 0 := toNat_eq_zero.1 (by have := hcont.lots; omega)
  rw [hempty hnone, hlots, Nat.zero_sub, Nat.zero_mul] at hrisk
  exact toNat_eq_zero.1 hrisk

theorem Imported.kept (hi : Imported q.snapshot outcome before after p) : Kept before after := by
  rw [hi.put]
  apply Kept.put
  intro old hold
  have hbase : importBase before q.snapshot outcome = old := Map.getD_of_get? hold
  rw [hi.position, ← hbase]
  exact hi.continues.seqno

theorem Imported.found (hi : Imported q.snapshot outcome before after p) :
    after.get? (portfolioPositionKey q.snapshot.marketID outcome) = some p := by
  rw [hi.put, Map.get?_put_self]

end Import

section Reserve

variable {q : ReserveRequest} {yes no : Map PositionKey PositionExposure} {pYes pNo : PositionExposure}

theorem orderMarkets_put_absent (habsent : d.orders.get? digest = none) :
    ({ d with orders := d.orders.put digest r } : PortfolioDocument).orderMarkets =
      insert r.marketID d.orderMarkets := by
  unfold PortfolioDocument.orderMarkets
  rw [Map.entries_put_absent habsent, List.map_cons, List.toFinset_cons]

theorem reserve_linked (hd : Linked d.orders d.positions) (ht : Tradable P.toMarketProtocol q.order)
    (hq : Reserves P d q)
    (hyes : Imported q.snapshot .yes d.positions yes pYes) (hno : Imported q.snapshot .no yes no pNo) :
    Linked (d.orders.put q.risk.orderDigest q.reservation) no where
  placed := by
    intro digest r hr
    obtain ⟨-, rfl⟩ | hr := Map.put_cases hr
    · -- the new reservation's outcome is one of the two imported ones
      have hkey : ∀ outcome, portfolioPositionKey q.reservation.marketID outcome =
          portfolioPositionKey q.snapshot.marketID outcome := fun _ => by rw [hq.sameMarket]; rfl
      have houtcome : q.reservation.outcome = .yes ∨ q.reservation.outcome = .no := ht.outcome
      rw [hkey]
      rcases houtcome with h | h <;> rw [h]
      · obtain ⟨p, hp, -⟩ := hno.kept hyes.found
        exact ⟨p, hp, fun _ => Nat.zero_le _⟩
      · exact ⟨pNo, hno.found, fun _ => Nat.zero_le _⟩
    · obtain ⟨p, hp, hle⟩ := hd.placed hr
      obtain ⟨p', hp', hle'⟩ := Kept.trans hyes.kept hno.kept hp
      exact ⟨p', hp', fun hlive => (hle hlive).trans hle'⟩
  traded := by
    intro key p hp
    have hown : ∀ outcome, key = portfolioPositionKey q.snapshot.marketID outcome →
        ∃ digest r, (d.orders.put q.risk.orderDigest q.reservation).get? digest = some r ∧ r.marketID = key.1 := by
      intro outcome heq
      refine ⟨q.risk.orderDigest, q.reservation, Map.get?_put_self, ?_⟩
      rw [heq]
      exact hq.sameMarket.symm
    obtain ⟨heq, -⟩ | hp := Map.put_cases (hno.put ▸ hp)
    · exact hown _ heq
    obtain ⟨heq, -⟩ | hp := Map.put_cases (hyes.put ▸ hp)
    · exact hown _ heq
    · obtain ⟨digest, r, hr, hmarket⟩ := hd.traded hp
      exact ⟨digest, r, Map.get?_put_absent hq.absent hr, hmarket⟩

theorem reserve_sound (hd : SoundDocument P profile d) (ht : Tradable P.toMarketProtocol q.order) (hq : Reserves P d q)
    (hyes : Imported q.snapshot .yes d.positions yes pYes) (hno : Imported q.snapshot .no yes no pNo)
    (hlimits : WithinLimits { d with positions := no, orders := d.orders.put q.risk.orderDigest q.reservation }) :
    SoundDocument P profile { d with
      positions := no, revision := d.revision + 1, orders := d.orders.put q.risk.orderDigest q.reservation } := by
  have hsmall := profile.maximumOrderReservations.toNat_lt
  have hroom : d.orders.entries.length < profile.maximumOrderReservations.toNat := by
    have h := UInt32.lt_iff_toNat_lt.1 hq.room
    rwa [UInt32.toNat_ofNat_of_lt' (hd.count.trans_lt hsmall), hd.owner] at h
  have hyesSound : ∀ {key p}, yes.get? key = some p → SoundPosition P key p := fun hp =>
    Map.forall_put hd.positions (hyes.sound ht hq hd.positions) (hyes.put ▸ hp)
  refine
    { version := hd.version
      owner := hd.owner
      count := by
        show (d.orders.put q.risk.orderDigest q.reservation).entries.length ≤ _
        rw [Map.length_put_of_none hq.absent]
        exact hroom
      markets := ?_
      reservations := ?_
      positions := ?_
      linked := reserve_linked hd.linked ht hq hyes hno
      limits := ⟨hlimits.atRisk, hlimits.lots⟩
      proceeds := ?_ }
  · have hmarkets := UInt32.le_iff_toNat_le.1 hq.markets
    have hcard := Finset.card_insert_le q.marketID d.orderMarkets
    have hle := orderMarkets_card_le (d := d)
    rw [UInt32.toNat_ofNat_of_lt' (by show _ < 2 ^ 32; omega), hd.owner] at hmarkets
    have heq := orderMarkets_put_absent (r := q.reservation) hq.absent
    exact (congrArg Finset.card heq).trans_le hmarkets
  · exact Map.forall_put hd.reservations (hq.sound ht)
  · exact fun hp => Map.forall_put hyesSound (hno.sound ht hq hyesSound) (hno.put ▸ hp)
  · show d.finalizedProceedsAtomic.toNat = (d.orders.put q.risk.orderDigest q.reservation).sumBy _
    rw [Map.sumBy_put_of_none _ hq.absent, hd.proceeds]
    exact (Nat.zero_add _).symm

end Reserve

/-! ## Every reachable document -/

/-- Whatever an operation writes on a sound document is sound, if a reserved order is one a market trades. -/
theorem Wrote.sound (hd : SoundDocument P profile d)
    (hw : Wrote P d op next) (ht : ∀ q, op = .reserveOrder q → Tradable P.toMarketProtocol q.order) :
    SoundDocument P profile next := by
  cases hw with
  | reserve reserves importYes importNo limits => exact reserve_sound hd (ht _ rfl) reserves importYes importNo limits
  | mark reservation live pending =>
    refine (mark_progress hd reservation live ?_).document hd
    rcases pending with rfl | rfl <;> rfl
  | buy fills side bought limits => exact (bought.progress hd fills limits side).document hd
  | sell fills side sold limits => exact (sold.progress hd fills limits side).document hd
  | exit position transaction view seqno fewer newer =>
    exact exit_sound hd position transaction view seqno fewer newer rfl
  | inactive reservation live transaction view seqno newer =>
    exact (inactive_progress hd reservation rfl
      ((hd.reservations reservation).deactivate live seqno view transaction)).document hd

theorem portfolioLedger_store (hc : (portfolioLedger P o profile).call opened c d = .ok (.store next u)) :
    c.operation.update P c.order opened d = .ok (.store next u) ∧ validatePortfolioDocument P c.order next d.profile =
      .ok () := by
  simp only [portfolioLedger, bind_ok] at hc
  obtain ⟨stored, hupdate, hpersist⟩ := hc
  cases stored with
  | keep v => cases hpersist
  | store next' v =>
    simp only [persist] at hpersist
    split at hpersist
    · cases hpersist
    · rename_i hvalid
      cases hpersist
      exact ⟨hupdate, hvalid⟩

theorem portfolioLedger_wrote (hc : (portfolioLedger P o profile).call opened c d = .ok (.store next u)) :
    Wrote P d c.operation next :=
  update_wrote (portfolioLedger_store hc).1

theorem portfolioLedger_tradable (hc : (portfolioLedger P o profile).call opened c d = .ok (.store next u))
    (q : ReserveRequest) (hq : c.operation = .reserveOrder q) : Tradable P.toMarketProtocol q.order := by
  have hw := portfolioLedger_wrote hc
  rw [hq] at hw
  cases hw with
  | reserve reserves importYes importNo limits =>
    refine tradable_of_validated (validateReservation_of_document (portfolioLedger_store hc).2 q.risk.orderDigest ?_)
    exact Map.get?_put_self

theorem loadPortfolio_ok {stored loaded : PortfolioDocument} (hl : loadPortfolio P o profile stored = .ok loaded) :
    loaded = stored := by
  simp only [loadPortfolio, peel] at hl
  exact hl.2.symm

theorem update_closed : op.update P o false d ≠ .ok (.store next u) := by
  intro hu
  cases op with
  | reserveOrder q =>
    obtain ⟨stored, hstored, -⟩ := map_ok.1 hu
    simp [reserveOrder, peel] at hstored
  | _ =>
    -- the others look up their record first
    simp only [PortfolioOperation.update, markOrderBroadcastState, applyFinalizedFill, applyFinalizedPositionExit,
      confirmOrderInactive, peel] at hu
    obtain ⟨-, hu⟩ := hu
    split at hu
    · cases hu
    · simp [peel] at hu

theorem portfolioLedger_closed : (portfolioLedger P o profile).call false c d ≠ .ok (.store next u) := fun hc =>
  update_closed (portfolioLedger_store hc).1

theorem portfolioLedger_sound
    (hd : SoundDocument P profile d) (hc : (portfolioLedger P o profile).call opened c d = .ok (.store next u)) :
    SoundDocument P profile next :=
  (portfolioLedger_wrote hc).sound hd (portfolioLedger_tradable hc)

theorem portfolioLedger_stores (hd : SoundDocument P profile d)
    (hu : c.operation.update P c.order opened d = .ok (.store next u))
    (ht : ∀ q, c.operation = .reserveOrder q → Tradable P.toMarketProtocol q.order) :
    (portfolioLedger P o profile).call opened c d = .ok (.store next u) := by
  have hnext := (update_wrote hu).sound hd ht
  have hpersist : persist P c.order d (.store next u) = .ok (.store next u) := by
    rw [persist, hd.owner, hnext.validate c.order]
  exact bind_ok.2 ⟨_, hu, hpersist⟩

/-- Every document accepted operations lead to is sound. -/
theorem accepted_sound {G : PortfolioDocument → PortfolioCall → Prop} {cs : List PortfolioCall}
    (ha : Machine.Accepted (portfolioLedger P o profile) G (emptyPortfolio profile) cs d) : SoundDocument P profile d :=
  ha.invariant (emptyPortfolio_sound profile) (fun hd _ hc => portfolioLedger_sound hd hc)
    fun hd hl => (loadPortfolio_ok hl).symm ▸ hd

/-- A run of the ledger from an empty portfolio: its state after any calls, failed writes, closes and reopens. -/
def portfolioRun (P : PortfolioProtocol) (o : RangeOrder) (profile : OwnerPortfolioProfile)
    (es : List (MachineEvent PortfolioCall)) : Machine.State PortfolioDocument PortfolioDocument :=
  exec (portfolioLedger P o profile).step ((portfolioLedger P o profile).start (emptyPortfolio profile)) es

theorem portfolioRun_sound (P : PortfolioProtocol) (o : RangeOrder) (profile : OwnerPortfolioProfile)
    (es : List (MachineEvent PortfolioCall)) :
    SoundDocument P profile (portfolioRun P o profile es).mem ∧
      SoundDocument P profile (portfolioRun P o profile es).file := by
  have hall : Along (portfolioLedger P o profile).step (Machine.Allowed fun _ _ => True)
      ((portfolioLedger P o profile).start (emptyPortfolio profile)) es :=
    (along_true _ es _).mono fun s e _ => by cases e <;> trivial
  have hrun := Machine.run_consistent portfolioLedger_closed hall
  obtain ⟨cs, hmem⟩ := hrun.mem
  obtain ⟨cs', stored, hstored, hfile⟩ := hrun.file
  refine ⟨accepted_sound hmem, ?_⟩
  have heq : (portfolioRun P o profile es).file = stored := hfile
  rw [heq]
  exact accepted_sound hstored

/-- The limits of an owner, on all positions and open orders together. -/
structure Limited (profile : OwnerPortfolioProfile) (d : PortfolioDocument) : Prop where
  atRisk : d.positionRisk + d.pendingRisk ≤ profile.maximumAtRiskAtomic.toNat
  lots : d.heldLots ≤ profile.maximumPositionLots.toNat
  orders : d.orders.entries.length ≤ profile.maximumOrderReservations.toNat
  markets : d.orderMarkets.card ≤ profile.maximumMarkets.toNat

theorem SoundDocument.limited (hd : SoundDocument P profile d) : Limited profile d :=
  ⟨hd.owner ▸ hd.limits.atRisk, hd.owner ▸ hd.limits.lots, hd.count, hd.markets⟩

/-- No order of calls, failed writes, closes and reopens takes a portfolio over its owner's limits. -/
theorem portfolio_stays_limited (P : PortfolioProtocol) (o : RangeOrder) (profile : OwnerPortfolioProfile)
    (es : List (MachineEvent PortfolioCall)) :
    Limited profile (portfolioRun P o profile es).mem ∧ Limited profile (portfolioRun P o profile es).file :=
  (portfolioRun_sound P o profile es).imp SoundDocument.limited SoundDocument.limited

/-! ## Orders -/

/-- A tracked order later on: its terms stay, what is recorded of it only grows, and a terminal order is final. -/
structure Onward (r r' : PortfolioOrderReservation) : Prop where
  same : r'.identity = r.identity
  filled : r.filledLots.toNat ≤ r'.filledLots.toNat
  spent : r.cumulativeSpentAtomic.toNat ≤ r'.cumulativeSpentAtomic.toNat
  proceeds : r.cumulativeProceedsAtomic.toNat ≤ r'.cumulativeProceedsAtomic.toNat
  checkpoint : r.lastMasterchainSeqno.toNat ≤ r'.lastMasterchainSeqno.toNat
  final : isPortfolioOrderTerminal r.status = true → r' = r

theorem Onward.refl (r : PortfolioOrderReservation) : Onward r r := ⟨rfl, le_rfl, le_rfl, le_rfl, le_rfl, fun _ => rfl⟩

theorem Onward.trans {r₁ r₂ r₃ : PortfolioOrderReservation} (h : Onward r₁ r₂) (h' : Onward r₂ r₃) : Onward r₁ r₃ where
  same := h'.same.trans h.same
  filled := h.filled.trans h'.filled
  spent := h.spent.trans h'.spent
  proceeds := h.proceeds.trans h'.proceeds
  checkpoint := h.checkpoint.trans h'.checkpoint
  final ht := by
    obtain rfl := h.final ht
    exact h'.final ht

theorem Wrote.onward (hw : Wrote P d op next) : Map.Grown Onward d.orders next.orders := by
  have hput : ∀ {digest r r'}, d.orders.get? digest = some r → Onward r r' →
    Map.Grown Onward d.orders (d.orders.put digest r') :=
    fun hr hm => .put Onward.refl fun hold => by cases hr.symm.trans hold; exact hm
  -- only orders that are not terminal are written again
  have hlive : ∀ {r r' : PortfolioOrderReservation}, isPortfolioOrderTerminal r.status = false →
      isPortfolioOrderTerminal r.status = true → r' = r := fun live ht => by rw [live] at ht; cases ht
  cases hw with
  | reserve reserves => exact .put Onward.refl fun hold => by rw [reserves.absent] at hold; cases hold
  | mark reservation live => exact hput reservation ⟨rfl, le_rfl, le_rfl, le_rfl, le_rfl, hlive live⟩
  | buy fills side bought =>
    refine hput fills.reservation ⟨?_, fills.more.le, fills.spent, fills.proceeds, fills.after, hlive fills.live⟩
    rw [bought.reservation]
    rfl
  | sell fills side sold =>
    refine hput fills.reservation ⟨?_, fills.more.le, fills.spent, fills.proceeds, fills.after, hlive fills.live⟩
    rw [sold.reservation]
    rfl
  | exit => exact .refl Onward.refl _
  | inactive reservation live _ _ _ newer => exact hput reservation ⟨rfl, le_rfl, le_rfl, le_rfl, newer, hlive live⟩

/-- From any moment of a run to a later one, whatever fails in between, no order in memory is dropped or changes its
terms, its fills, spend, proceeds and checkpoint only grow, and a terminal order stays as it is. -/
theorem orders_only_move_on (P : PortfolioProtocol) (o : RangeOrder) (profile : OwnerPortfolioProfile)
    (es es' : List (MachineEvent PortfolioCall)) :
    Map.Grown Onward (portfolioRun P o profile es).mem.orders (portfolioRun P o profile (es ++ es')).mem.orders :=
  Machine.run_related (R := fun d d' : PortfolioDocument => Map.Grown Onward d.orders d'.orders)
    (fun _ => .refl Onward.refl _)
    (fun hc => (portfolioLedger_wrote hc).onward) loadPortfolio_ok (fun _ _ _ h h' => h.trans h' Onward.trans) _ es es'

/-! ## Results are never refused -/

/-- The books a document keeps beyond what its validation asks for. -/
structure Balanced (d : PortfolioDocument) : Prop where
  placed : ∀ {digest r}, d.orders.get? digest = some r →
    d.positions.has (portfolioPositionKey r.marketID r.outcome) = true
  empty : ∀ {key p}, d.positions.get? key = some p → p.lots = 0 → p.atRiskAtomic = 0
  proceeds : d.finalizedProceedsAtomic.toNat = d.orders.sumBy (·.cumulativeProceedsAtomic.toNat)

theorem SoundDocument.balanced (hd : SoundDocument P profile d) : Balanced d where
  placed hr := by
    obtain ⟨p, hp, -⟩ := hd.linked.placed hr
    exact Map.has_iff.2 ⟨p, hp⟩
  empty hp := (hd.positions hp).empty
  proceeds := hd.proceeds

theorem SoundDocument.loads (hd : SoundDocument P profile d) (o : RangeOrder) :
    loadPortfolio P o profile d = .ok d := by
  simp only [loadPortfolio, peel]
  exact ⟨not_not.2 (hd.validate o), trivial⟩

/-- After any run, an operation that passes its own checks is never refused by the validation in front of its
write, its document loads again, and its books are balanced; so are those in memory and in the file. -/
theorem portfolio_persists_own_results (rules : OrderRules P.toMarketProtocol) (profile : OwnerPortfolioProfile)
    (o : RangeOrder) (es : List (MachineEvent PortfolioCall)) :
    (∀ (c : PortfolioCall) (u : Update PortfolioDocument Unit),
      c.operation.update P c.order (portfolioRun P o profile es).opened (portfolioRun P o profile es).mem = .ok u →
      persist P c.order (portfolioRun P o profile es).mem u = .ok u ∧
        ∀ next v, u = .store next v → Balanced next ∧ ∀ o', loadPortfolio P o' profile next = .ok next) ∧
      (∀ d, d = (portfolioRun P o profile es).mem ∨ d = (portfolioRun P o profile es).file →
        Balanced d ∧ ∀ o', loadPortfolio P o' profile d = .ok d) := by
  obtain ⟨hmem, hfile⟩ := portfolioRun_sound P o profile es
  constructor
  · intro c u hu
    cases u with
    | keep v => exact ⟨rfl, nofun⟩
    | store next v =>
      have hw := update_wrote hu
      have hnext := hw.sound hmem fun q hq => by
        rw [hq] at hw
        cases hw with
        | reserve reserves importYes importNo limits =>
          obtain ⟨digest, hdigest, -⟩ := portfolioRisk_some reserves.risk
          exact rules.tradable hdigest
      refine ⟨?_, ?_⟩
      · rw [persist, hmem.owner, hnext.validate c.order]
      · rintro next' v' heq
        cases heq
        exact ⟨hnext.balanced, hnext.loads⟩
  · rintro d (rfl | rfl)
    · exact ⟨hmem.balanced, hmem.loads⟩
    · exact ⟨hfile.balanced, hfile.loads⟩

open Sample in
/-- A bid that fills in two steps: its ten lots are held, and the document loads again. -/
theorem filled_bid_persisted :
    let run := [stored (reserve 1 5 0), stored (.applyFinalizedFill (fillEvidence 6 4 18)),
      stored (.applyFinalizedFill (fillEvidence 7 10 48))]
    (portfolioRun protocol asWritten (owner 20) run).mem.heldLots = 10 ∧
      Balanced (portfolioRun protocol asWritten (owner 20) run).mem ∧
      loadPortfolio protocol asWritten (owner 20) (portfolioRun protocol asWritten (owner 20) run).file =
        .ok (portfolioRun protocol asWritten (owner 20) run).file := by
  intro run
  have hall := (portfolio_persists_own_results orderRules (owner 20) asWritten run).2
  exact ⟨by decide +kernel, (hall _ (.inl rfl)).1, (hall _ (.inr rfl)).2 asWritten⟩

namespace Sample

/-- An order builder that looks at the quantity, the expiry and the price only. -/
def anySide : PortfolioProtocol :=
  { protocol with
    orderDigest := fun order =>
      if order.quantityLots ≠ 0 ∧ order.validUntil ≠ 0 ∧ order.limitPriceTick ≠ 0 ∧
        order.limitPriceTick < 10 then some digestA
      else none }

/-- The bid, with an action that is neither BUY nor SELL. -/
def sideless : ReserveRequest :=
  { request 1 5 0 with
    order := { bid 1 with action := .other 2 }
    risk := { (request 1 5 0).risk with action := .other 2, collateralDebit := 0, positionDebit := 10 } }

end Sample

open Sample in
/-- A reservation that passes its own checks, and whose document is refused: the action is looked at only there. -/
theorem sideless_reservation_refused :
    (∀ order digest, anySide.orderDigest order = some digest → order.quantityLots ≠ 0 ∧ order.validUntil ≠ 0 ∧
      order.limitPriceTick ≠ 0 ∧ order.limitPriceTick < anySide.priceScale) ∧
    ((PortfolioOperation.reserveOrder sideless).update anySide asWritten true (emptyPortfolio (owner 20))).isOk = true ∧
    (portfolioLedger anySide asWritten (owner 20)).call true ⟨asWritten, .reserveOrder sideless⟩
      (emptyPortfolio (owner 20)) =
      .error ("refuse to persist invalid prediction owner portfolio: " ++
        "prediction order reservation has invalid semantic state") := by
  refine ⟨fun order digest hd => ?_, by decide +kernel, failsWith_iff.1 (by decide +kernel)⟩
  by_contra hnot
  cases (if_neg hnot).symm.trans hd

end OpenFox.Prediction
