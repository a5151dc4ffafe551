/-
The exposure ledger never overcommits its epoch: over every run the ceilings of the markets not released stay
within the maximum, checkpoints do not go back, a release is final and follows from a terminal observation, and
what the ledger writes it accepts when it is opened again.
-/
import OpenFox.Prediction.Exposure
import OpenFox.Prediction.Sample

namespace OpenFox.Prediction

open OpenFox.Go OpenFox.Base

variable {validAddress : String → Bool} {o : RangeOrder} {profile : OracleExposureProfile} {d : ExposureDocument}

/-! ## Ceilings -/

/-- What a market reserves. -/
def ExposureRecord.reserved (record : ExposureRecord) : ℕ := if record.released then 0 else record.exposureCeiling.toNat

/-- The integer sum of the ceilings of the markets not released. -/
def ExposureDocument.reserved (d : ExposureDocument) : ℕ := d.markets.sumBy (·.reserved)

theorem aggregateExposureCeilings_eq_some {markets : Map String ExposureRecord} {total : UInt64} :
    aggregateExposureCeilings o markets = some total ↔ total.toNat = markets.sumBy (·.reserved) := by
  -- skipping a released market adds nothing
  have hskip : (fun total (e : (_ : String) × ExposureRecord) =>
        if e.2.released then some total else addUint64 total e.2.exposureCeiling) =
      fun total e => addUint64 total (if e.2.released then 0 else e.2.exposureCeiling) := by
    funext total e
    split
    · exact (addUint64_eq_some.2 (by simp)).symm
    · rfl
  have hreserved : ∀ e : (_ : String) × ExposureRecord,
      (if e.2.released then (0 : UInt64) else e.2.exposureCeiling).toNat = e.2.reserved := by
    intro e
    unfold ExposureRecord.reserved
    split <;> rfl
  rw [aggregateExposureCeilings, hskip, addLoop_eq_some]
  simp [hreserved, Map.sumBy_range o 0 ExposureRecord.reserved]

/-! ## Documents that load -/

/-- A stored market, as loading checks it. -/
structure SoundMarket (validAddress : String → Bool) (key : String) (record : ExposureRecord) : Prop where
  key : key = record.marketID
  admission : validateExposureAdmission validAddress record.toMarketExposureAdmission = .ok ()
  collateral : record.lockedCollateral ≤ record.exposureCeiling
  released : record.released = true → record.lockedCollateral = 0 ∧ record.masterchainSeqno ≠ 0
  checkpoint : record.masterchainSeqno = 0 ↔ record.finalityViewID = ""
  view : record.finalityViewID ≠ "" → canonicalDigest record.finalityViewID "sha256:" = true

theorem validateStoredMarket_ok {key : String} {record : ExposureRecord} :
    validateStoredMarket validAddress key record = .ok () ↔ SoundMarket validAddress key record := by
  rw [validateStoredMarket, refuse_ok]
  simp only [passed, gt_iff_lt, UInt64.not_lt, not_and, decide_eq_decide]
  constructor <;> rintro ⟨hkey, hadmission, hcollateral, hreleased, hcheckpoint, hview⟩ <;>
    exact ⟨hkey, hadmission, hcollateral, hreleased, hcheckpoint, hview⟩

structure SoundExposure (validAddress : String → Bool) (profile : OracleExposureProfile) (d : ExposureDocument) :
    Prop where
  version : d.schemaVersion = 1
  owner : d.profile = profile
  count : d.markets.entries.length ≤ profile.maximumMarketsPerEpoch.toNat
  markets : ∀ {key record}, d.markets.get? key = some record → SoundMarket validAddress key record
  ceilings : d.reserved ≤ profile.maximumExposure.toNat

theorem emptyExposure_sound (profile : OracleExposureProfile) :
    SoundExposure validAddress profile (emptyExposure profile) where
  version := rfl
  owner := rfl
  count := Nat.zero_le _
  markets h := by cases h
  ceilings := Nat.zero_le _

theorem SoundExposure.load (hd : SoundExposure validAddress profile d) (o : RangeOrder) :
    loadExposure validAddress o profile d = .ok d := by
  have hmax := profile.maximumExposure.toNat_lt
  have hcount := profile.maximumMarketsPerEpoch.toNat_lt
  have hceilings := hd.ceilings
  have hlength := hd.count
  have htotal : aggregateExposureCeilings o d.markets = some (UInt64.ofNat d.reserved) :=
    aggregateExposureCeilings_eq_some.2 (UInt64.toNat_ofNat_of_lt' (by show d.reserved < 2 ^ 64; omega))
  unfold loadExposure
  rw [refuse_of_not, (forM_ok (u := ())).2, htotal]
  · show (refuse _ _ >>= fun _ => pure d) = _
    rw [refuse_of_not]
    · rfl
    · rw [gt_iff_lt, UInt64.lt_iff_toNat_lt, UInt64.toNat_ofNat_of_lt' (by show d.reserved < 2 ^ 64; omega), hd.owner]
      omega
  · rintro ⟨key, record⟩ he
    exact validateStoredMarket_ok.2 (hd.markets (Map.mem_range.1 he))
  · simp only [passed, gt_iff_lt, UInt32.lt_iff_toNat_lt]
    rw [UInt32.toNat_ofNat_of_lt' (by show d.markets.entries.length < 2 ^ 32; omega), hd.owner]
    exact ⟨hd.version, rfl, by omega⟩

theorem loadExposure_ok {stored : ExposureDocument} (h : loadExposure validAddress o profile stored = .ok d) :
    d = stored := by
  simp only [loadExposure, peel] at h
  obtain ⟨-, -, h⟩ := h
  split at h
  · simp only [throw_ok] at h
  · simp only [peel] at h
    exact h.2.symm

/-! ## What a call stores -/

/-- An observation that may release its market. -/
def MarketExposureObservation.Terminal (observation : MarketExposureObservation) : Prop :=
  observation.quorumFinalized = true ∧ observation.terminalCompacted = true ∧ observation.liabilitiesCleared = true ∧
    observation.lockedCollateral = 0

/-- A market that was not admitted, and the room it takes. -/
structure Admitted (validAddress : String → Bool) (d next : ExposureDocument) (admission : MarketExposureAdmission) :
    Prop where
  next_eq : next = { d with
    revision := d.revision + 1
    markets := d.markets.put admission.marketID { toMarketExposureAdmission := admission } }
  valid : validateExposureAdmission validAddress admission = .ok ()
  absent : d.markets.get? admission.marketID = none
  count : UInt32.ofNat d.markets.entries.length < d.profile.maximumMarketsPerEpoch
  room : d.reserved + admission.exposureCeiling.toNat ≤ d.profile.maximumExposure.toNat

/-- A market not released that is observed at a later checkpoint. -/
structure Observed (d next : ExposureDocument) (observation : MarketExposureObservation) (old record : ExposureRecord) :
    Prop where
  next_eq : next = { d with revision := d.revision + 1, markets := d.markets.put observation.marketID record }
  found : d.markets.get? observation.marketID = some old
  active : old.released = false
  same : record.toMarketExposureAdmission = old.toMarketExposureAdmission
  later : old.masterchainSeqno.toNat < record.masterchainSeqno.toNat
  view : canonicalDigest record.finalityViewID "sha256:" = true
  collateral : record.lockedCollateral ≤ record.exposureCeiling
  terminal : record.released = true → observation.Terminal ∧ record.lockedCollateral = 0

variable {opened : Bool} {next : ExposureDocument} {u : Unit}

theorem admitMarket_store {admission : MarketExposureAdmission}
    (h : admitMarket validAddress o opened d admission = .ok (.store next u)) :
    opened = true ∧ Admitted validAddress d next admission := by
  simp only [admitMarket, peel, passed] at h
  obtain ⟨hvalid, hopen, h⟩ := h
  split at h
  · simp only [peel, reduceCtorEq, and_false] at h
  · rename_i habsent
    simp only [peel, ge_iff_le, UInt32.not_le] at h
    obtain ⟨hcount, h⟩ := h
    split at h
    · simp only [throw_ok] at h
    · rename_i reserved hreserved
      simp only [peel, not_or, gt_iff_lt, UInt64.not_lt] at h
      obtain ⟨⟨hwithin, hroom⟩, h⟩ := h
      cases h
      have htotal := aggregateExposureCeilings_eq_some.1 hreserved
      rw [UInt64.le_iff_toNat_le] at hwithin hroom
      rw [toNat_sub_of_le hwithin] at hroom
      exact ⟨hopen, rfl, hvalid, habsent, hcount, by unfold ExposureDocument.reserved; omega⟩

variable {c : ExposureCall} {observation : MarketExposureObservation}

theorem observeMarket_store (h : observeMarket opened d observation = .ok (.store next u)) :
    opened = true ∧ ∃ old record, Observed d next observation old record := by
  simp only [observeMarket, peel, passed] at h
  obtain ⟨⟨hquorum, -, hview⟩, hopen, h⟩ := h
  split at h
  · simp only [throw_ok] at h
  · rename_i old hold
    simp only [peel, not_or, gt_iff_lt, UInt64.not_lt] at h
    obtain ⟨⟨-, -, -, hceiling⟩, h⟩ := h
    split at h
    · simp only [peel, reduceCtorEq, and_false] at h
    · rename_i hactive
      simp only [peel, UInt64.not_lt] at h
      obtain ⟨hback, h⟩ := h
      split at h
      · simp only [peel, reduceCtorEq, and_false] at h
      · rename_i hne
        simp only [peel, not_and, passed] at h
        obtain ⟨hterminal, h⟩ := h
        cases h
        have hlater : old.masterchainSeqno.toNat < observation.masterchainSeqno.toNat := by
          have hle := UInt64.le_iff_toNat_le.1 hback
          have hneq : observation.masterchainSeqno.toNat ≠ old.masterchainSeqno.toNat :=
            fun heq => hne (UInt64.toNat_inj.1 heq)
          omega
        rw [Bool.not_eq_true] at hactive
        refine ⟨hopen, old, ?_⟩
        by_cases hcompacted : observation.terminalCompacted = true
        · obtain ⟨hcleared, hzero⟩ := hterminal hcompacted
          rw [if_pos hcompacted]
          exact ⟨_, rfl, hold, hactive, rfl, hlater, hview, UInt64.zero_le, fun _ =>
            ⟨⟨hquorum, hcompacted, hcleared, hzero⟩, rfl⟩⟩
        · rw [if_neg hcompacted]
          exact ⟨_, rfl, hold, hactive, rfl, hlater, hview, hceiling, fun hreleased =>
            by rw [hactive] at hreleased; cases hreleased⟩

/-! ## The invariant -/

theorem Admitted.sound {admission : MarketExposureAdmission} (ha : Admitted validAddress d next admission)
    (hd : SoundExposure validAddress profile d) : SoundExposure validAddress profile next := by
  obtain ⟨rfl, hvalid, habsent, hcount, hroom⟩ := ha
  have hlength : d.markets.entries.length < 2 ^ 32 := by
    have := hd.count
    have := profile.maximumMarketsPerEpoch.toNat_lt
    omega
  rw [UInt32.lt_iff_toNat_lt, UInt32.toNat_ofNat_of_lt' hlength, hd.owner] at hcount
  refine ⟨hd.version, hd.owner, ?_, Map.forall_put hd.markets ?_, ?_⟩
  · rw [Map.length_put_of_none habsent]
    exact hcount
  · exact ⟨rfl, hvalid, UInt64.zero_le, fun h => absurd h Bool.false_ne_true,
      iff_of_true rfl rfl, fun h => absurd rfl h⟩
  · rw [ExposureDocument.reserved, Map.sumBy_put_of_none _ habsent, ← hd.owner]
    show admission.exposureCeiling.toNat + d.reserved ≤ _
    omega

theorem Observed.sound {old record : ExposureRecord}
    (ho : Observed d next observation old record) (hd : SoundExposure validAddress profile d) :
    SoundExposure validAddress profile next := by
  obtain ⟨rfl, hfound, hactive, hsame, hlater, hview, hcollateral, hterminal⟩ := ho
  have hsound := hd.markets hfound
  refine ⟨hd.version, hd.owner, ?_, Map.forall_put hd.markets ?_, ?_⟩
  · rw [Map.length_put_of_some hfound]
    exact hd.count
  · have hseqno : record.masterchainSeqno ≠ 0 := fun hzero => by
      rw [hzero] at hlater
      exact absurd hlater (Nat.not_lt_zero _)
    have hne := canonicalDigest_ne_empty hview
    refine ⟨?_, ?_, hcollateral, fun hreleased => ⟨(hterminal hreleased).2, hseqno⟩, iff_of_false hseqno hne,
      fun _ => hview⟩
    · rw [hsame]
      exact hsound.key
    · rw [hsame]
      exact hsound.admission
  · refine le_trans (Map.sumBy_put_le _ hfound ?_) hd.ceilings
    -- an active market keeps its ceiling or gives it back
    have hceiling := congrArg (·.exposureCeiling) hsame
    unfold ExposureRecord.reserved
    rw [hactive, hceiling]
    cases record.released <;> simp

theorem exposureLedger_sound (hd : SoundExposure validAddress profile d)
    (h : (exposureLedger validAddress o profile).call opened c d = .ok (.store next u)) :
    SoundExposure validAddress profile next := by
  cases c with
  | admitMarket admission => exact (admitMarket_store h).2.sound hd
  | observeMarket observation =>
    obtain ⟨-, old, record, ho⟩ := observeMarket_store h
    exact ho.sound hd

theorem exposureLedger_closed : (exposureLedger validAddress o profile).call false c d ≠ .ok (.store next u) := by
  intro h
  cases c with
  | admitMarket admission => cases (admitMarket_store h).1
  | observeMarket observation => cases (observeMarket_store h).1

/-! ## Progress of the markets -/

/-- Every market is still there under the admission it was admitted with, at the same checkpoint or a later one,
and as it was if it is released. -/
def MarketsKept (d next : ExposureDocument) : Prop :=
  ∀ key record, d.markets.get? key = some record → ∃ record', next.markets.get? key = some record' ∧
    record'.toMarketExposureAdmission = record.toMarketExposureAdmission ∧
    record.masterchainSeqno.toNat ≤ record'.masterchainSeqno.toNat ∧ (record.released = true → record' = record)

theorem MarketsKept.refl (d : ExposureDocument) : MarketsKept d d :=
  fun _ record hget => ⟨record, hget, rfl, le_rfl, fun _ => rfl⟩

theorem MarketsKept.trans (a b c : ExposureDocument) (hab : MarketsKept a b) (hbc : MarketsKept b c) :
    MarketsKept a c := by
  refine Map.Grown.trans hab hbc fun h h' => ⟨h'.1.trans h.1, h.2.1.trans h'.2.1, fun hreleased => ?_⟩
  obtain rfl := h.2.2 hreleased
  exact h'.2.2 hreleased

theorem exposureLedger_kept (h : (exposureLedger validAddress o profile).call opened c d = .ok (.store next u)) :
    MarketsKept d next := by
  cases c with
  | admitMarket admission =>
    obtain ⟨-, rfl, -, habsent, -⟩ := admitMarket_store h
    exact Map.Grown.put (fun _ => ⟨rfl, le_rfl, fun _ => rfl⟩) fun hold => by rw [habsent] at hold; cases hold
  | observeMarket observation =>
    obtain ⟨-, old, record', ho⟩ := observeMarket_store h
    obtain ⟨rfl, hfound, hactive, hsame, hlater, -⟩ := ho
    refine Map.Grown.put (fun _ => ⟨rfl, le_rfl, fun _ => rfl⟩) fun hold => ?_
    cases hold.symm.trans hfound
    exact ⟨hsame, hlater.le, fun h => by rw [hactive] at h; cases h⟩

/-- Every released market was released by a terminal observation among `cs`. -/
def ReleasedBy (cs : ExposureCall → Prop) (d : ExposureDocument) : Prop :=
  ∀ key record, d.markets.get? key = some record → record.released = true →
    ∃ observation, cs (.observeMarket observation) ∧ observation.marketID = key ∧ observation.Terminal

theorem exposureLedger_releasedBy {cs : ExposureCall → Prop} (hd : ReleasedBy cs d) (hc : cs c)
    (h : (exposureLedger validAddress o profile).call opened c d = .ok (.store next u)) : ReleasedBy cs next := by
  intro key record hget hreleased
  cases c with
  | admitMarket admission =>
    obtain ⟨-, rfl, -⟩ := admitMarket_store h
    exact Map.forall_put (hd _ _) (fun h => by cases h) hget hreleased
  | observeMarket observation =>
    obtain ⟨-, old, record', ho⟩ := observeMarket_store h
    obtain ⟨rfl, -, -, -, -, -, -, hterminal⟩ := ho
    exact Map.forall_put (hd _ _) (fun h => ⟨observation, hc, rfl, (hterminal h).1⟩) hget hreleased

/-! ## Runs -/

/-- A run of the ledger from an empty epoch: its state after any calls, failed writes, closes and reopens. -/
def exposureRun (validAddress : String → Bool) (o : RangeOrder) (profile : OracleExposureProfile)
    (es : List (MachineEvent ExposureCall)) : Machine.State ExposureDocument ExposureDocument :=
  exec (exposureLedger validAddress o profile).step
    ((exposureLedger validAddress o profile).start (emptyExposure profile)) es

/-- In every run, in memory and in the file: the ceilings of the markets not released add up to at most the
maximum, every market holds at most its ceiling, a released market was released by a terminal observation of the
run that showed no liabilities and no collateral, and the document loads in every order of its maps; and from any
moment to a later one every market keeps its admission, its checkpoint does not go back, and a released market
stays as it is. -/
theorem exposure_never_overcommitted (validAddress : String → Bool) (o : RangeOrder) (profile : OracleExposureProfile)
    (es es' : List (MachineEvent ExposureCall)) :
    let s := exposureRun validAddress o profile es
    (∀ d, d = s.mem ∨ d = s.file →
      d.reserved ≤ profile.maximumExposure.toNat ∧
      (∀ key record, d.markets.get? key = some record → record.lockedCollateral ≤ record.exposureCeiling) ∧
      (∀ key record, d.markets.get? key = some record → record.released = true →
        ∃ write observation, .call write (.observeMarket observation) ∈ es ∧ observation.marketID = key ∧
          observation.Terminal) ∧
      ∀ o', loadExposure validAddress o' profile d = .ok d) ∧
    MarketsKept s.mem (exposureRun validAddress o profile (es ++ es')).mem := by
  intro s
  -- the calls of the run
  let made : ExposureCall → Prop := fun c => ∃ write, MachineEvent.call write c ∈ es
  have hmade : Along (exposureLedger validAddress o profile).step (Machine.Allowed fun _ c => made c)
      ((exposureLedger validAddress o profile).start (emptyExposure profile)) es := by
    refine (along_of_forall fun e he => he).mono fun s e he => ?_
    cases e with
    | call write c => exact ⟨write, he⟩
    | close => trivial
    | reopen => trivial
  have hrun := Machine.run_consistent exposureLedger_closed hmade
  obtain ⟨cs, hmem⟩ := hrun.mem
  obtain ⟨cs', stored, hstored, hfile⟩ := hrun.file
  have hsound : ∀ {cs d}, Machine.Accepted (exposureLedger validAddress o profile) (fun _ c => made c)
      (emptyExposure profile) cs d → SoundExposure validAddress profile d ∧ ReleasedBy made d := fun ha =>
    ha.invariant (I := fun d => SoundExposure validAddress profile d ∧ ReleasedBy made d)
      ⟨emptyExposure_sound profile, fun _ _ hget => by cases hget⟩
      (fun hd hc hcall => ⟨exposureLedger_sound hd.1 hcall, exposureLedger_releasedBy hd.2 hc hcall⟩)
      fun hd hl => (loadExposure_ok hl).symm ▸ hd
  refine ⟨fun d hd => ?_, Machine.run_related MarketsKept.refl exposureLedger_kept loadExposure_ok
    MarketsKept.trans _ es es'⟩
  have hboth : SoundExposure validAddress profile d ∧ ReleasedBy made d := by
    rcases hd with rfl | rfl
    · exact hsound hmem
    · have heq : s.file = stored := hfile
      rw [heq]
      exact hsound hstored
  refine ⟨hboth.1.ceilings, fun key record hget => (hboth.1.markets hget).collateral,
    fun key record hget hreleased => ?_, hboth.1.load⟩
  obtain ⟨observation, ⟨write, hcall⟩, hkey, hterminal⟩ := hboth.2 key record hget hreleased
  exact ⟨write, observation, hcall, hkey, hterminal⟩

namespace Sample

def exposureProfile : OracleExposureProfile where
  networkDomainHash := network
  eventFamilyHash := network
  oracleEpochHash := network
  contractCodeHash := code
  maximumExposure := 100
  maximumMarketsPerEpoch := 10

def admission (marketID : String) : MarketExposureAdmission where
  marketID := marketID
  marketAddress := "market"
  marketConfigHash := config.1
  exposureCeiling := 60

def terminalObservation : MarketExposureObservation where
  marketID := market
  marketAddress := "market"
  marketConfigHash := config.1
  contractCodeHash := code
  lockedCollateral := 0
  masterchainSeqno := 7
  finalityViewID := view1
  quorumFinalized := true
  terminalCompacted := true
  liabilitiesCleared := true

/-- Two markets that do not fit together: the second is refused until the first is released. -/
def exposureEvents : List (MachineEvent ExposureCall) :=
  [.call .stored (.admitMarket (admission market)), .call .stored (.admitMarket (admission network)),
    .call .stored (.observeMarket terminalObservation), .call .stored (.admitMarket (admission network)), .reopen]

end Sample

open Sample in
/-- The room of a released market is taken by the next one. -/
theorem released_room_is_reused :
    let s := exposureRun protocol.validRawAddress asWritten exposureProfile exposureEvents
    s.opened = true ∧ (s.mem.markets.get? market).map (·.released) = some true ∧
      (s.mem.markets.get? network).map (·.released) = some false ∧ s.mem.reserved ≤ 100 :=
  ⟨by decide +kernel, by decide +kernel, by decide +kernel,
    ((exposure_never_overcommitted protocol.validRawAddress asWritten exposureProfile exposureEvents []).1 _
      (.inl rfl)).1⟩

end OpenFox.Prediction
