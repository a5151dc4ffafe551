/-
The portfolio ledger against the chain it records. A history gives the owner's lots, each order's cumulative
fill and spend and whether it is inactive, at every masterchain sequence; operations report it truthfully.
Fill evidence is added to a position whatever a snapshot imported before, so that a position stays within the
owner's lots on chain needs a condition on what was delivered in between.
-/
import OpenFox.Prediction.PortfolioFill

namespace OpenFox.Prediction

open OpenFox.Go OpenFox.Base

/-! ## Histories -/

/-- What the chain holds at each masterchain sequence. -/
structure ChainHistory where
  lots : ℕ → PositionKey → ℕ
  fill : ℕ → String → ℕ
  spent : ℕ → String → ℕ
  inactive : ℕ → String → Bool
  fill_mono : ∀ {s s' digest}, s ≤ s' → fill s digest ≤ fill s' digest
  fill_zero : ∀ digest, fill 0 digest = 0
  spent_zero : ∀ digest, spent 0 digest = 0
  spent_of_fill : ∀ {s s' digest}, fill s digest = fill s' digest → spent s digest = spent s' digest

/-- An operation whose snapshot or evidence reports the history at its own sequence. -/
def Truthful (H : ChainHistory) : PortfolioOperation → Prop
  | .reserveOrder q => ∀ outcome, outcome = .yes ∨ outcome = .no →
      (q.snapshot.lots outcome).toNat =
        H.lots q.snapshot.masterchainSeqno.toNat (portfolioPositionKey q.snapshot.marketID outcome)
  | .markOrderBroadcastState _ _ => True
  | .applyFinalizedFill evidence =>
      evidence.cumulativeFilledLots.toNat = H.fill evidence.masterchainSeqno.toNat evidence.orderDigest ∧
        evidence.cumulativeSpentAtomic.toNat = H.spent evidence.masterchainSeqno.toNat evidence.orderDigest
  | .applyFinalizedPositionExit evidence =>
      evidence.remainingLots.toNat =
        H.lots evidence.masterchainSeqno.toNat (portfolioPositionKey evidence.marketID evidence.outcome)
  | .confirmOrderInactive evidence => H.inactive evidence.masterchainSeqno.toNat evidence.orderDigest = true

variable {P : PortfolioProtocol} {o : RangeOrder} {profile : OwnerPortfolioProfile} {d next : PortfolioDocument}
  {H : ChainHistory}

/-- The invariant rule for accepted operations, on sound documents. -/
theorem accepted_invariant {G : PortfolioDocument → PortfolioCall → Prop} {I : PortfolioDocument → Prop}
    {cs : List PortfolioCall} (hinit : I (emptyPortfolio profile))
    (keep : ∀ {d c next}, SoundDocument P profile d → I d → G d c → Wrote P d c.operation next → I next)
    (ha : Machine.Accepted (portfolioLedger P o profile) G (emptyPortfolio profile) cs d) : I d := by
  have hboth := ha.invariant (I := fun d => SoundDocument P profile d ∧ I d) ⟨emptyPortfolio_sound profile, hinit⟩
      (fun hd hG hc => ⟨portfolioLedger_sound hd.1 hc, keep hd.1 hd.2 hG (portfolioLedger_wrote hc)⟩)
      fun hd hl => (loadPortfolio_ok hl).symm ▸ hd
  exact hboth.2

/-! ## Fills are counted once -/

/-- What a BUY order had filled at the position's checkpoint is what its reservation has recorded, and from there to the
evidence the owner's lots rose at least by its fills; for a SELL order they fell at most by its fills. -/
def FillsUncounted (H : ChainHistory) (d : PortfolioDocument) : PortfolioOperation → Prop
  | .applyFinalizedFill evidence => ∀ r p, d.orders.get? evidence.orderDigest = some r →
      d.positions.get? (portfolioPositionKey r.marketID r.outcome) = some p →
      if r.action = .buy then
        H.fill p.masterchainSeqno.toNat evidence.orderDigest = r.filledLots.toNat ∧
          H.lots p.masterchainSeqno.toNat (portfolioPositionKey r.marketID r.outcome) +
            (H.fill evidence.masterchainSeqno.toNat evidence.orderDigest -
              H.fill p.masterchainSeqno.toNat evidence.orderDigest) ≤
          H.lots evidence.masterchainSeqno.toNat (portfolioPositionKey r.marketID r.outcome)
      else
        H.lots p.masterchainSeqno.toNat (portfolioPositionKey r.marketID r.outcome) ≤
          H.lots evidence.masterchainSeqno.toNat (portfolioPositionKey r.marketID r.outcome) +
            (H.fill evidence.masterchainSeqno.toNat evidence.orderDigest -
              H.fill p.masterchainSeqno.toNat evidence.orderDigest)
  | _ => True

structure Tracks (H : ChainHistory) (d : PortfolioDocument) : Prop where
  lots : ∀ {key p}, d.positions.get? key = some p → p.lots.toNat ≤ H.lots p.masterchainSeqno.toNat key
  filled : ∀ {digest r}, d.orders.get? digest = some r → isPortfolioOrderTerminal r.status = false →
    r.filledLots.toNat ≤ H.fill r.lastMasterchainSeqno.toNat digest

section Fills

variable {evidence : PortfolioFillEvidence} {r : PortfolioOrderReservation} {p : PositionExposure} {effect : FillEffect}

section
variable (hs : SoundDocument P profile d) (hd : Tracks H d) (hf : Fills d evidence r p)
include hs hd hf

/-- A live reservation has recorded no more than the chain had filled at its position's checkpoint. -/
theorem Tracks.filled_le :
    r.filledLots.toNat ≤ H.fill p.masterchainSeqno.toNat evidence.orderDigest := by
  obtain ⟨p', hp', hle⟩ := hs.linked.placed hf.reservation
  cases hp'.symm.trans (hf.recorded hs.linked)
  exact (hd.filled hf.reservation hf.live).trans (H.fill_mono (hle hf.live))

variable (htrue : Truthful H (.applyFinalizedFill evidence)) (hcond : FillsUncounted H d (.applyFinalizedFill evidence))
include htrue hcond

theorem Bought.tracks (hside : r.action = .buy) (hb : Bought P.toMarketProtocol d evidence r p effect) :
    Tracks H (afterFill d evidence (portfolioPositionKey r.marketID r.outcome) effect) := by
  have hp := hf.recorded hs.linked
  have hchain := hcond r p hf.reservation hp
  rw [if_pos hside] at hchain
  obtain ⟨hnone, hgrown⟩ := hchain
  refine ⟨Map.forall_put hd.lots ?_, Map.forall_put hd.filled fun _ => htrue.1.le⟩
  show effect.position.lots.toNat ≤ H.lots evidence.masterchainSeqno.toNat _
  have hbefore := hd.lots hp
  rw [hb.lots, filledDelta, htrue.1, ← hnone]
  omega

theorem Sold.tracks (hside : r.action ≠ .buy) (hsold : Sold d evidence r p effect) :
    Tracks H (afterFill d evidence (portfolioPositionKey r.marketID r.outcome) effect) := by
  have hp := hf.recorded hs.linked
  have hchain := hcond r p hf.reservation hp
  rw [if_neg hside] at hchain
  refine ⟨Map.forall_put hd.lots ?_, Map.forall_put hd.filled fun _ => htrue.1.le⟩
  show effect.position.lots.toNat ≤ H.lots evidence.masterchainSeqno.toNat _
  have hbefore := hd.lots hp
  have hrecorded := hd.filled_le hs hf
  have hlots := hsold.lots
  have htrue' := htrue.1
  unfold filledDelta at hlots
  omega

end

end Fills

theorem Tracks.wrote {op : PortfolioOperation} (hs : SoundDocument P profile d) (hd : Tracks H d)
    (htrue : Truthful H op) (hcond : FillsUncounted H d op) (hw : Wrote P d op next) : Tracks H next := by
  cases hw with
  | @reserve q yes no pYes pNo reserves importYes importNo limits =>
    refine ⟨fun hp => ?_, Map.forall_put hd.filled fun _ => Nat.zero_le _⟩
    -- an imported position has the snapshot's lots at the snapshot's sequence
    have himported : ∀ {outcome before after p'}, outcome = .yes ∨ outcome = .no →
        Imported q.snapshot outcome before after p' → p'.lots.toNat ≤ H.lots p'.masterchainSeqno.toNat
          (portfolioPositionKey q.snapshot.marketID outcome) := by
      intro outcome before after p' houtcome himport
      rw [himport.position]
      exact (htrue outcome houtcome).le
    have hyes : ∀ {key p}, yes.get? key = some p → p.lots.toNat ≤ H.lots p.masterchainSeqno.toNat key := fun hp =>
      Map.forall_put hd.lots (himported (.inl rfl) importYes) (importYes.put ▸ hp)
    exact Map.forall_put hyes (himported (.inr rfl) importNo) (importNo.put ▸ hp)
  | @mark digest state r reservation live pending =>
    have hbefore := hd.filled reservation live
    exact ⟨hd.lots, Map.forall_put (v := { r with status := state }) hd.filled fun _ => hbefore⟩
  | buy fills side bought limits => exact bought.tracks hs hd fills htrue hcond side
  | sell fills side sold limits => exact sold.tracks hs hd fills htrue hcond side
  | exit position transaction view seqno fewer newer => exact ⟨Map.forall_put hd.lots htrue.le, hd.filled⟩
  | @inactive evidence r reservation live transaction view seqno newer =>
    refine ⟨hd.lots, Map.forall_put hd.filled fun hlive => absurd hlive ?_⟩
    show isPortfolioOrderTerminal (inactiveStatus evidence.reason) ≠ false
    cases evidence.reason <;> decide

/-- A snapshot that reports at least the recorded lots is never refused as an unexplained decrease. -/
theorem reconcile_not_decreased {snapshot : PortfolioMarketSnapshot} {outcome : Outcome} {p : PositionExposure}
    {positions : Map PositionKey PositionExposure}
    (hp : positions.get? (portfolioPositionKey snapshot.marketID outcome) = some p)
    (hle : p.lots.toNat ≤ (snapshot.lots outcome).toNat) :
    reconcilePortfolioPosition positions snapshot outcome ≠
      .error "prediction position decreased without exact finalized fill/exit evidence" := by
  have hnot : ¬ snapshot.lots outcome < p.lots := by
    rw [UInt64.lt_iff_toNat_lt, not_lt]
    exact hle
  intro herror
  rcases reconcile_error herror with hcompared | himport
  · -- the other refusals have other texts
    rw [hp] at hcompared
    simp [comparedPosition, bind_error, refuse_error, hnot, pure, Except.pure] at hcompared
  · exact absurd himport (by decide)

/-- In every accepted run that reports the history truthfully and whose fills were not counted before, a position
never exceeds the owner's lots on chain at its own checkpoint; so no truthful snapshot of at least those lots
is refused as a decrease. -/
theorem position_within_chain (P : PortfolioProtocol) (profile : OwnerPortfolioProfile) (o : RangeOrder)
    (H : ChainHistory) (cs : List PortfolioCall) (d : PortfolioDocument)
    (ha : Machine.Accepted (portfolioLedger P o profile)
      (fun d c => Truthful H c.operation ∧ FillsUncounted H d c.operation) (emptyPortfolio profile) cs d)
    (key : PositionKey) (p : PositionExposure) (hp : d.positions.get? key = some p) :
    p.lots.toNat ≤ H.lots p.masterchainSeqno.toNat key ∧
      ∀ snapshot outcome, key = portfolioPositionKey snapshot.marketID outcome →
        (snapshot.lots outcome).toNat = H.lots snapshot.masterchainSeqno.toNat key →
        H.lots p.masterchainSeqno.toNat key ≤ H.lots snapshot.masterchainSeqno.toNat key →
        reconcilePortfolioPosition d.positions snapshot outcome ≠
          .error "prediction position decreased without exact finalized fill/exit evidence" := by
  have hd : Tracks H d :=
    accepted_invariant ⟨Map.of_empty, Map.of_empty⟩ (fun hs hd hG hw => hd.wrote hs hG.1 hG.2 hw) ha
  have hle := hd.lots hp
  refine ⟨hle, ?_⟩
  rintro snapshot outcome rfl hreport hgrown
  exact reconcile_not_decreased hp (by omega)

namespace Sample

/-- The first bid fills `filled` lots for `spent` at sequence 7 and, if it is canceled, is inactive from 8 on. -/
def history (filled spent : ℕ) (hfilled : 0 < filled) (canceled : Bool) : ChainHistory where
  lots s key := if 7 ≤ s ∧ key = portfolioPositionKey market .yes then filled else 0
  fill s digest := if 7 ≤ s ∧ digest = digestA.1 then filled else 0
  spent s digest := if 7 ≤ s ∧ digest = digestA.1 then spent else 0
  inactive s digest := canceled && 8 ≤ s && digest == digestA.1
  fill_mono := by
    intro s s' digest hle
    by_cases h : 7 ≤ s ∧ digest = digestA.1
    · rw [if_pos h, if_pos ⟨h.1.trans hle, h.2⟩]
    · rw [if_neg h]; exact Nat.zero_le _
  fill_zero _ := rfl
  spent_zero _ := rfl
  spent_of_fill := by
    intro s s' digest h
    by_cases hs : 7 ≤ s ∧ digest = digestA.1
    · by_cases hs' : 7 ≤ s' ∧ digest = digestA.1
      · rw [if_pos hs, if_pos hs']
      · rw [if_pos hs, if_neg hs'] at h
        omega
    · by_cases hs' : 7 ≤ s' ∧ digest = digestA.1
      · rw [if_neg hs, if_pos hs'] at h
        omega
      · rw [if_neg hs, if_neg hs']

def filledHistory : ChainHistory := history 10 50 (by decide) false

end Sample

open Sample in
/-- The fill of the only order, reported after it happened. -/
theorem late_fill_counted_once :
    let run := [stored (reserve 1 5 0), stored (.applyFinalizedFill (fillEvidence 8 10 50))]
    ∃ p, (portfolioRun protocol asWritten (owner 50) run).mem.positions.get? (portfolioPositionKey market .yes) =
        some p ∧ p.lots = 10 ∧ p.lots.toNat ≤ filledHistory.lots p.masterchainSeqno.toNat
          (portfolioPositionKey market .yes) := by
  intro run
  have hdoc : (portfolioRun protocol asWritten (owner 50) [stored (reserve 1 5 0)]).mem.orders.get? digestA.1 =
      some (request 1 5 0).reservation := by decide +kernel
  have hposition : ((portfolioRun protocol asWritten (owner 50) [stored (reserve 1 5 0)]).mem.positions.get?
      (portfolioPositionKey market .yes)).map (·.masterchainSeqno) = some 5 := by decide +kernel
  have hall : Along (portfolioLedger protocol asWritten (owner 50)).step
      (Machine.Allowed fun d c => Truthful filledHistory c.operation ∧ FillsUncounted filledHistory d c.operation)
      ((portfolioLedger protocol asWritten (owner 50)).start (emptyPortfolio (owner 50))) run := by
    refine ⟨⟨?_, trivial⟩, ⟨⟨by decide +kernel, by decide +kernel⟩, ?_⟩, trivial⟩
    · rintro outcome (rfl | rfl) <;> decide +kernel
    · intro r p hr hp
      cases hr.symm.trans hdoc
      obtain ⟨p', hp', hseqno⟩ := Option.map_eq_some_iff.1 hposition
      cases hp.symm.trans hp'
      show filledHistory.fill p.masterchainSeqno.toNat digestA.1 = 0 ∧ _
      rw [hseqno]
      decide +kernel
  obtain ⟨cs, haccepted⟩ := (Machine.run_consistent portfolioLedger_closed hall).mem
  have hfinal : ((portfolioRun protocol asWritten (owner 50) run).mem.positions.get?
      (portfolioPositionKey market .yes)).map (·.lots) = some 10 := by decide +kernel
  obtain ⟨p, hp, hlots⟩ := Option.map_eq_some_iff.1 hfinal
  exact ⟨p, hp, hlots, (position_within_chain protocol (owner 50) asWritten filledHistory cs _ haccepted _ p hp).1⟩

open Sample in
/-- The second bid's snapshot at sequence 8 imports the first bid's fill; the evidence of that fill then adds its
lots again, and every later truthful snapshot is refused. -/
theorem imported_fill_counted_twice :
    let operations := [reserve 1 5 0, reserve 2 8 10, .applyFinalizedFill (fillEvidence 8 10 50)]
    let final := (portfolioRun protocol asWritten (owner 50) (operations.map stored)).mem
    (∀ op ∈ operations, Truthful filledHistory op) ∧
      (final.positions.get? (portfolioPositionKey market .yes)).map (fun p => (p.lots, p.masterchainSeqno)) =
        some (20, 8) ∧
      filledHistory.lots 8 (portfolioPositionKey market .yes) = 10 ∧
      reconcilePortfolioPosition final.positions (snapshot 9 10) .yes =
        .error "prediction position decreased without exact finalized fill/exit evidence" := by
  intro operations final
  refine ⟨?_, by decide +kernel, by decide +kernel, failsWith_iff.1 (by decide +kernel)⟩
  intro op hop
  simp only [operations, List.mem_cons, List.not_mem_nil, or_false] at hop
  rcases hop with rfl | rfl | rfl
  · rintro outcome (rfl | rfl) <;> decide +kernel
  · rintro outcome (rfl | rfl) <;> decide +kernel
  · exact ⟨by decide +kernel, by decide +kernel⟩

end OpenFox.Prediction
