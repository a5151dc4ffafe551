/-
The exposure ledger of one oracle epoch: markets reserve their worst case before they are listed, and a market
gives its reservation back only once it is compacted and owes nothing.
-/
import OpenFox.Base.Durable
import OpenFox.Prediction.Protocol

namespace OpenFox.Prediction

open OpenFox.Go OpenFox.Base

structure OracleExposureProfile where
  networkDomainHash : String
  eventFamilyHash : String
  oracleEpochHash : String
  contractCodeHash : String
  maximumExposure : UInt64
  maximumMarketsPerEpoch : UInt32
deriving DecidableEq

structure MarketExposureAdmission where
  marketID : String
  marketAddress : String
  marketConfigHash : String
  exposureCeiling : UInt64
deriving DecidableEq

structure MarketExposureObservation where
  marketID : String
  marketAddress : String
  marketConfigHash : String
  contractCodeHash : String
  lockedCollateral : UInt64
  masterchainSeqno : UInt64
  finalityViewID : String
  quorumFinalized : Bool
  terminalCompacted : Bool
  liabilitiesCleared : Bool

structure ExposureRecord extends MarketExposureAdmission where
  lockedCollateral : UInt64 := 0
  masterchainSeqno : UInt64 := 0
  finalityViewID : String := ""
  released : Bool := false
deriving DecidableEq

structure ExposureDocument where
  schemaVersion : UInt16
  revision : UInt64
  profile : OracleExposureProfile
  markets : Map String ExposureRecord

def emptyExposure (profile : OracleExposureProfile) : ExposureDocument :=
  { schemaVersion := 1, revision := 0, profile := profile, markets := ∅ }

-- `validAddress` asks the address library for a standard address in its raw spelling
variable (validAddress : String → Bool) (o : RangeOrder)

def validateExposureAdmission (admission : MarketExposureAdmission) : Except String Unit :=
  refuse (¬ canonicalDigest admission.marketID "sha256:" ∨
    ¬ canonicalDigest admission.marketConfigHash "tvm-cell-sha256:" ∨ ¬ validAddress admission.marketAddress ∨
    admission.exposureCeiling = 0) "invalid market exposure admission"

/-- The sum of the ceilings of the markets not released, unless it overflows. -/
def aggregateExposureCeilings (markets : Map String ExposureRecord) : Option UInt64 :=
  (markets.range o 0).foldlM (fun total e => if e.2.released then some total else addUint64 total e.2.exposureCeiling) 0

variable (opened : Bool) (d : ExposureDocument)

def admitMarket (admission : MarketExposureAdmission) : Except String (Update ExposureDocument Unit) := do
  refuse (validateExposureAdmission validAddress admission ≠ .ok ()) "prediction market exposure admission is invalid"
  refuse (¬ opened) "prediction oracle exposure ledger is closed"
  match d.markets.get? admission.marketID with
  | some prior => do
    refuse (prior.toMarketExposureAdmission ≠ admission)
      "prediction market exposure admission conflicts with durable identity"
    refuse prior.released "released prediction market exposure cannot be reactivated"
    pure (.keep ())
  | none => do
    refuse (UInt32.ofNat d.markets.entries.length ≥ d.profile.maximumMarketsPerEpoch)
      "prediction oracle epoch market capacity reached"
    match aggregateExposureCeilings o d.markets with
    | none => throw "prediction oracle aggregate exposure limit exceeded"
    | some reserved => do
      refuse (reserved > d.profile.maximumExposure ∨
        admission.exposureCeiling > d.profile.maximumExposure - reserved)
        "prediction oracle aggregate exposure limit exceeded"
      pure (.store { d with
        revision := d.revision + 1
        markets := d.markets.put admission.marketID { toMarketExposureAdmission := admission } } ())

def observeMarket (observation : MarketExposureObservation) : Except String (Update ExposureDocument Unit) := do
  refuse (¬ observation.quorumFinalized ∨ observation.masterchainSeqno = 0 ∨
    ¬ canonicalDigest observation.finalityViewID "sha256:") "prediction market exposure observation is not finalized"
  refuse (¬ opened) "prediction oracle exposure ledger is closed"
  match d.markets.get? observation.marketID with
  | none => throw "prediction market exposure observation conflicts with admission"
  | some record => do
    refuse (observation.marketAddress ≠ record.marketAddress ∨ observation.marketConfigHash ≠ record.marketConfigHash ∨
      observation.contractCodeHash ≠ d.profile.contractCodeHash ∨ observation.lockedCollateral > record.exposureCeiling)
      "prediction market exposure observation conflicts with admission"
    if record.released then
      refuse (¬ (observation.terminalCompacted ∧ observation.liabilitiesCleared ∧ observation.lockedCollateral = 0 ∧
        observation.masterchainSeqno = record.masterchainSeqno ∧ observation.finalityViewID = record.finalityViewID))
        "released prediction market exposure received non-idempotent evidence"
      pure (.keep ())
    else do
      refuse (observation.masterchainSeqno < record.masterchainSeqno)
        "prediction market exposure observation rolled back finalized state"
      if observation.masterchainSeqno = record.masterchainSeqno then
        refuse (observation.finalityViewID ≠ record.finalityViewID ∨
          observation.lockedCollateral ≠ record.lockedCollateral ∨ observation.terminalCompacted)
          "prediction market exposure observation conflicts at one checkpoint"
        pure (.keep ())
      else do
        refuse (observation.terminalCompacted ∧ (¬ observation.liabilitiesCleared ∨ observation.lockedCollateral ≠ 0))
          "prediction market attempted to release exposure with live liabilities"
        let record :=
          if observation.terminalCompacted then
            { record with
              lockedCollateral := 0, masterchainSeqno := observation.masterchainSeqno
              finalityViewID := observation.finalityViewID, released := true }
          else
            { record with
              lockedCollateral := observation.lockedCollateral, masterchainSeqno := observation.masterchainSeqno
              finalityViewID := observation.finalityViewID }
        pure (.store { d with revision := d.revision + 1, markets := d.markets.put observation.marketID record } ())

/-! ## Opening -/

def validateStoredMarket (key : String) (record : ExposureRecord) : Except String Unit :=
  refuse (key ≠ record.marketID ∨ validateExposureAdmission validAddress record.toMarketExposureAdmission ≠ .ok () ∨
    record.lockedCollateral > record.exposureCeiling ∨
    (record.released ∧ (record.lockedCollateral ≠ 0 ∨ record.masterchainSeqno = 0)) ∨
    decide (record.masterchainSeqno = 0) ≠ decide (record.finalityViewID = "") ∨
    (record.finalityViewID ≠ "" ∧ ¬ canonicalDigest record.finalityViewID "sha256:"))
    "prediction oracle exposure state contains an invalid market"

/-- `loadOrInitialize` on a stored document. -/
def loadExposure (profile : OracleExposureProfile) (stored : ExposureDocument) : Except String ExposureDocument := do
  refuse (stored.schemaVersion ≠ 1 ∨ stored.profile ≠ profile ∨
    UInt32.ofNat stored.markets.entries.length > stored.profile.maximumMarketsPerEpoch)
    "prediction oracle exposure state identity or shape is invalid"
  (stored.markets.range o 1).forM fun e => validateStoredMarket validAddress e.1 e.2
  match aggregateExposureCeilings o stored.markets with
  | none => throw "prediction oracle exposure state exceeds its aggregate limit"
  | some reserved => do
    refuse (reserved > stored.profile.maximumExposure) "prediction oracle exposure state exceeds its aggregate limit"
    pure stored

/-! ## The ledger as a component -/

inductive ExposureCall
  | admitMarket (admission : MarketExposureAdmission)
  | observeMarket (observation : MarketExposureObservation)

def ExposureCall.update : ExposureCall → Except String (Update ExposureDocument Unit)
  | .admitMarket admission => Prediction.admitMarket validAddress o opened d admission
  | .observeMarket observation => Prediction.observeMarket opened d observation

/-- The ledger of one epoch; `o` is the order in which it visits its maps. -/
def exposureLedger (profile : OracleExposureProfile) : Machine ExposureDocument ExposureDocument ExposureCall where
  save := id
  load := loadExposure validAddress o profile
  call opened c d := c.update validAddress o opened d

end OpenFox.Prediction
