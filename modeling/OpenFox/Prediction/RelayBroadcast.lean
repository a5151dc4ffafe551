/-
Sends and finality: as long as the journal is closed only while nothing is being sent, bytes are handed to the
broadcaster only while their record is broadcasting, one send per action at a time, and records only move forward.
Closing while a send is under way breaks this: the journal opened next knows nothing of the send.
-/
import Mathlib.Logic.Relation
import OpenFox.Prediction.Relay
import OpenFox.Prediction.Sample

namespace OpenFox.Prediction

open OpenFox.Go OpenFox.Base

/-! ## Moving forward -/

/-- The stages of an action. -/
inductive NextStage : RelayState → RelayState → Prop
  | broadcast : NextStage .signed .broadcasting
  | finalized : NextStage .broadcasting .sourceFinalized
  | skipped : NextStage .broadcasting .sourceActionSkipped
  | committed : NextStage .sourceFinalized .destinationCommitted
  | bounced : NextStage .sourceFinalized .destinationFailedBounceCreated
  | lost : NextStage .sourceFinalized .destinationFailedNoBounce
  | credited : NextStage .destinationFailedBounceCreated .bounceCreditedAtAgent

def PredictionRelayRecord.identity (r : PredictionRelayRecord) :
    String × PredictionRelayProfile × ExpectedContractCall × String × String × String × AccountCursor × BlockIdentity :=
  (r.actionID, r.profile, r.expected, r.exactSignedBOCBase64, r.exactSignedBOCDigest, r.submittedExternalMessageHash,
    r.preBroadcastSourceCursor, r.preBroadcastMasterchainCheckpoint)

/-- The same action, at its stage or a later one, with all the evidence it had. -/
structure Forward (r r' : PredictionRelayRecord) : Prop where
  identity : r'.identity = r.identity
  stage : Relation.ReflTransGen NextStage r.state r'.state
  source : ∀ e, r.sourceEvidence = some e → r'.sourceEvidence = some e
  outbound : ∀ m, r.actualOutbound = some m → r'.actualOutbound = some m
  destination : ∀ e, r.destinationEvidence = some e → r'.destinationEvidence = some e
  credit : ∀ e, r.bounceCreditEvidence = some e → r'.bounceCreditEvidence = some e

theorem Forward.refl (r : PredictionRelayRecord) : Forward r r :=
  ⟨rfl, .refl, fun _ h => h, fun _ h => h, fun _ h => h, fun _ h => h⟩

variable {s : RelaySystem} {a b : PredictionRelayRecord} {w : RelayWrite} {boc : Bytes}

theorem Forward.trans {c : PredictionRelayRecord} (hab : Forward a b) (hbc : Forward b c) : Forward a c where
  identity := hbc.identity.trans hab.identity
  stage := hab.stage.trans hbc.stage
  source e he := hbc.source e (hab.source e he)
  outbound m hm := hbc.outbound m (hab.outbound m hm)
  destination e he := hbc.destination e (hab.destination e he)
  credit e he := hbc.credit e (hab.credit e he)

theorem Forward.actionID (h : Forward a b) : b.actionID = a.actionID :=
  congrArg (·.1) h.identity

theorem Forward.exact (h : Forward a b) : b.exactSignedBOCBase64 = a.exactSignedBOCBase64 :=
  congrArg (·.2.2.2.1) h.identity

theorem NextStage.left_broadcasting {a b : RelayState} (h : Relation.ReflTransGen NextStage a b)
    (ha : a ≠ .signed ∧ a ≠ .broadcasting) : b ≠ .signed ∧ b ≠ .broadcasting := by
  induction h with
  | refl => exact ha
  | tail _ hstep ih =>
    cases hstep with
    | broadcast => exact absurd rfl ih.1
    | finalized | skipped => exact absurd rfl ih.2
    | committed | bounced | lost | credited => exact ⟨by decide, by decide⟩

/-! ## What a valid record lacks -/

variable {r record written value : PredictionRelayRecord} {a : String} {verdict : Except String Unit}
  {es : List RelayEvent} {send : Option Bytes} {j : RelayJournal}

section
variable {P : RelayProtocol} {profile : PredictionRelayProfile}

theorem validateRelayRecord_evidence (h : validateRelayRecord P record profile = .ok ()) :
    validateRelayEvidence P record = .ok () := by
  simp only [validateRelayRecord, peel] at h
  obtain ⟨-, raw, -, -, h⟩ := h
  exact h

theorem bare_iff : record.bare = true ↔ record.sourceEvidence = none ∧ record.actualOutbound = none ∧
    record.destinationEvidence = none ∧ record.bounceCreditEvidence = none := by
  simp [PredictionRelayRecord.bare, and_assoc]

section
variable (h : validateRelayRecord P record profile = .ok ())
include h

theorem valid_bare (hstate : record.state = .signed ∨ record.state = .broadcasting) : record.bare = true := by
  have he := validateRelayRecord_evidence h
  unfold validateRelayEvidence at he
  rcases hstate with hstate | hstate
  · rw [if_pos hstate, refuse_ok, not_or] at he
    exact not_not.1 he.2
  · rw [if_neg (by rw [hstate]; decide), if_pos hstate, refuse_ok, not_or] at he
    exact not_not.1 he.2

theorem valid_sourceFinalized (hstate : record.state = .sourceFinalized) : record.destinationEvidence = none := by
  have he := validateRelayRecord_evidence h
  simp only [validateRelayEvidence, hstate, reduceCtorEq, if_false, if_true, peel, not_or] at he
  exact Option.not_isSome_iff_eq_none.1 he.2.1

theorem valid_bounceCreated (hstate : record.state = .destinationFailedBounceCreated) :
    record.bounceCreditEvidence = none := by
  have he := validateRelayRecord_evidence h
  simp only [validateRelayEvidence, hstate, reduceCtorEq, if_false, peel] at he
  replace he := he.2
  unfold validateDestinationFinal at he
  split at he
  · simp only [throw_ok] at he
  · simp only [peel] at he
    obtain ⟨-, -, -, -, hcredit⟩ := he
    rw [not_and, hstate, Option.not_isSome_iff_eq_none] at hcredit
    exact hcredit (by decide)

end

/-! ## What the operations write -/

theorem persistRelay_store (h : persistRelay P profile record = .ok (.store written value)) :
    written = record ∧ validateRelayRecord P record profile = .ok () := by
  simp only [persistRelay, peel, passed] at h
  obtain ⟨hvalid, h⟩ := h
  cases h
  exact ⟨rfl, hvalid⟩

variable {journal : RelayJournal} {actionID : String}

theorem prepareRelay_store {expected : ExpectedContractCall} {cursor : AccountCursor} {checkpoint : BlockIdentity}
    (h : prepareRelay P profile journal actionID boc expected cursor checkpoint = .ok (.store written value)) :
    journal.records.get? actionID = none ∧ written.actionID = actionID ∧
      written.exactSignedBOCBase64 = P.encodeBase64 boc ∧ validateRelayRecord P written profile = .ok () := by
  simp only [prepareRelay, peel] at h
  obtain ⟨-, h⟩ := h
  split at h
  · simp only [throw_ok] at h
  · simp only [peel] at h
    obtain ⟨-, h⟩ := h
    split at h
    · simp only [peel, reduceCtorEq, and_false] at h
    · rename_i habsent
      simp only [peel] at h
      obtain ⟨rfl, hvalid⟩ := persistRelay_store h.2
      exact ⟨habsent, rfl, rfl, hvalid⟩

theorem beginOrResume_store {raw : Bytes}
    (h : beginOrResumeExactBroadcast P profile journal actionID = .ok (.store written value, raw)) :
    ∃ record, journal.records.get? actionID = some record ∧ Forward record written ∧ written.state = .broadcasting ∧
      P.decodeBase64 written.exactSignedBOCBase64 = some raw ∧ journal.inFlight.has actionID = false ∧
      validateRelayRecord P written profile = .ok () := by
  unfold beginOrResumeExactBroadcast at h
  split at h
  · simp only [throw_ok] at h
  · rename_i record hrecord
    simp only [peel, not_and_or, passed, Bool.not_eq_true] at h
    obtain ⟨hstate, ⟨hidle, -⟩, h⟩ := h
    split at h
    · simp only [throw_ok] at h
    · rename_i raw' hraw
      simp only [peel] at h
      obtain ⟨update, hupdate, h⟩ := h
      cases h
      obtain ⟨rfl, hvalid⟩ := persistRelay_store hupdate
      refine ⟨record, hrecord, ⟨rfl, ?_, fun _ h => h, fun _ h => h, fun _ h => h, fun _ h => h⟩, rfl, hraw,
        hidle, hvalid⟩
      show Relation.ReflTransGen NextStage record.state .broadcasting
      rcases hstate with hstate | hstate
      · rw [hstate]; exact .single .broadcast
      · rw [hstate]

section
variable (hvalid : ∀ {record}, journal.records.get? actionID = some record →
  validateRelayRecord P record profile = .ok ())
include hvalid

theorem resolveSource_store {evidence : SourceTransactionEvidence}
    (h : resolveSource P profile journal actionID evidence verdict = .ok (.store written value)) :
    ∃ record, journal.records.get? actionID = some record ∧ Forward record written ∧
      journal.inFlight.has actionID = false ∧ validateRelayRecord P written profile = .ok () := by
  unfold resolveSource at h
  split at h
  · simp only [throw_ok] at h
  · rename_i record hrecord
    simp only [peel, passed, Bool.not_eq_true] at h
    obtain ⟨⟨hstate, hidle⟩, -, -, h⟩ := h
    obtain ⟨rfl, hwritten⟩ := persistRelay_store h
    obtain ⟨hsource, houtbound, hdestination, hcredit⟩ := bare_iff.1 (valid_bare (hvalid hrecord) (.inr hstate))
    refine ⟨record, hrecord, ⟨rfl, ?_, ?_, ?_, fun _ h => h, fun _ h => h⟩, hidle, hwritten⟩
    · show Relation.ReflTransGen NextStage record.state (if _ then _ else _)
      rw [hstate]
      split
      · exact .single .skipped
      · exact .single .finalized
    · intro e he; rw [hsource] at he; cases he
    · intro m hm; rw [houtbound] at hm; cases hm

theorem resolveDestination_store {evidence : DestinationTransactionEvidence}
    (h : resolveDestination P profile journal actionID evidence verdict = .ok (.store written value)) :
    ∃ record, journal.records.get? actionID = some record ∧ Forward record written ∧ record.state = .sourceFinalized ∧
      validateRelayRecord P written profile = .ok () := by
  unfold resolveDestination at h
  split at h
  · simp only [throw_ok] at h
  · rename_i record hrecord
    simp only [peel, passed] at h
    obtain ⟨⟨hstate, -⟩, -, -, h⟩ := h
    obtain ⟨rfl, hwritten⟩ := persistRelay_store h
    have hdestination := valid_sourceFinalized (hvalid hrecord) hstate
    refine ⟨record, hrecord, ⟨rfl, ?_, fun _ h => h, fun _ h => h, ?_, fun _ h => h⟩, hstate, hwritten⟩
    · show Relation.ReflTransGen NextStage record.state (destinationState evidence)
      rw [hstate]
      unfold destinationState
      split
      · exact .single .committed
      · split
        · exact .single .bounced
        · exact .single .lost
    · intro e he; rw [hdestination] at he; cases he

theorem resolveBounceCredit_store {evidence : BounceCreditEvidence}
    (h : resolveBounceCredit P profile journal actionID evidence verdict = .ok (.store written value)) :
    ∃ record, journal.records.get? actionID = some record ∧ Forward record written ∧
      record.state = .destinationFailedBounceCreated ∧ validateRelayRecord P written profile = .ok () := by
  unfold resolveBounceCredit at h
  split at h
  · simp only [throw_ok] at h
  · rename_i record hrecord
    simp only [peel, passed] at h
    obtain ⟨⟨hstate, -⟩, -, -, h⟩ := h
    obtain ⟨rfl, hwritten⟩ := persistRelay_store h
    have hcredit := valid_bounceCreated (hvalid hrecord) hstate
    refine ⟨record, hrecord, ⟨rfl, ?_, fun _ h => h, fun _ h => h, fun _ h => h, ?_⟩, hstate, hwritten⟩
    · show Relation.ReflTransGen NextStage record.state .bounceCreditedAtAgent
      rw [hstate]
      exact .single .credited
    · intro e he; rw [hcredit] at he; cases he

end

end

/-! ## The invariant -/

variable {P : RelayProtocol} {profile : PredictionRelayProfile}

structure Tidy (P : RelayProtocol) (profile : PredictionRelayProfile) (s : RelaySystem) : Prop where
  valid : ∀ {a r}, s.files.get? a = some r → r.actionID = a ∧ validateRelayRecord P r profile = .ok ()
  synced : ∀ {j}, s.journal = some j → j.records = s.files
  flying : ∀ {j}, s.journal = some j → ∀ a, j.inFlight.has a = true ↔ a ∈ s.sends.map (·.actionID)
  current : ∀ send ∈ s.sends, send.opening = s.opening
  closed : s.journal = none → s.sends = []
  distinct : (s.sends.map (·.actionID)).Nodup
  broadcasting : ∀ send ∈ s.sends, ∃ r, s.files.get? send.actionID = some r ∧ r.state = .broadcasting ∧
    P.decodeBase64 r.exactSignedBOCBase64 = some send.bytes

theorem tidy_of_idle (hj : s.journal = none) (hsends : s.sends = [])
    (hvalid : ∀ {a r}, s.files.get? a = some r → r.actionID = a ∧ validateRelayRecord P r profile = .ok ()) :
    Tidy P profile s where
  valid := hvalid
  synced h := by rw [hj] at h; cases h
  flying h := by rw [hj] at h; cases h
  current send hsend := by rw [hsends] at hsend; cases hsend
  closed _ := hsends
  distinct := by rw [hsends]; exact List.nodup_nil
  broadcasting send hsend := by rw [hsends] at hsend; cases hsend

theorem empty_tidy : Tidy P profile .empty := tidy_of_idle rfl rfl fun h => by cases h

/-- Every record is still there, and moved forward if at all. -/
def FilesForward (s s' : RelaySystem) : Prop :=
  ∀ a r, s.files.get? a = some r → ∃ r', s'.files.get? a = some r' ∧ Forward r r'

theorem FilesForward.refl (s : RelaySystem) : FilesForward s s := fun _ r hr => ⟨r, hr, .refl r⟩

theorem FilesForward.trans (a b c : RelaySystem) (hab : FilesForward a b) (hbc : FilesForward b c) : FilesForward a c :=
  Map.Grown.trans hab hbc Forward.trans

/-- What an operation of an open journal writes, and the bytes it then sends, if any. -/
structure Writes (P : RelayProtocol) (profile : PredictionRelayProfile) (s : RelaySystem)
    (record : PredictionRelayRecord) (send : Option Bytes) : Prop where
  valid : validateRelayRecord P record profile = .ok ()
  forward : ∀ {old}, s.files.get? record.actionID = some old → Forward old record
  idle : record.actionID ∉ s.sends.map (·.actionID)
  sends : ∀ {raw}, send = some raw →
    record.state = .broadcasting ∧ P.decodeBase64 record.exactSignedBOCBase64 = some raw

theorem commit_files : (s.commit j w record send).files = s.files ∨
    (s.commit j w record send).files = s.files.put record.actionID record :=
  match w with
  | .stored | .landed | .crashed true => .inr rfl
  | .refused | .crashed false => .inl rfl

theorem Writes.commit_tidy (hs : Tidy P profile s) (hj : s.journal = some j) (hw : Writes P profile s record send)
    {write : RelayWrite} (hwrite : write ≠ .landed) : Tidy P profile (s.commit j write record send) := by
  cases write with
  | refused => exact hs
  | landed => exact absurd rfl hwrite
  | crashed reached =>
    cases reached with
    | true => exact tidy_of_idle rfl rfl (Map.forall_put hs.valid ⟨rfl, hw.valid⟩)
    | false => exact tidy_of_idle rfl rfl hs.valid
  | stored =>
    -- the sends under way are of other actions, whose files stay
    have hother : ∀ send' ∈ s.sends, ∃ r, (s.files.put record.actionID record).get? send'.actionID = some r ∧
        r.state = .broadcasting ∧ P.decodeBase64 r.exactSignedBOCBase64 = some send'.bytes := by
      intro send' hsend'
      have hne : send'.actionID ≠ record.actionID := fun heq =>
        hw.idle (heq ▸ List.mem_map.2 ⟨send', hsend', rfl⟩)
      rw [Map.get?_put_ne _ _ hne]
      exact hs.broadcasting send' hsend'
    have hsynced : j.records.put record.actionID record = s.files.put record.actionID record := by rw [hs.synced hj]
    cases send with
    | none =>
      refine ⟨Map.forall_put hs.valid ⟨rfl, hw.valid⟩, fun h => ?_, fun h a => ?_, hs.current,
        fun h => ?_, hs.distinct, hother⟩
      · cases h
        exact hsynced
      · cases h
        exact (hs.flying hj a : j.inFlight.has a = true ↔ _)
      · cases h
    | some raw =>
      obtain ⟨hstate, hraw⟩ := hw.sends rfl
      refine ⟨Map.forall_put hs.valid ⟨rfl, hw.valid⟩, fun h => ?_, fun h a => ?_, ?_, fun h => ?_, ?_, ?_⟩
      · cases h
        exact hsynced
      · cases h
        show (j.inFlight.put record.actionID ()).has a = true ↔ a ∈ record.actionID :: s.sends.map (·.actionID)
        rw [Map.has_iff, Map.get?_put, List.mem_cons, ← hs.flying hj a, Map.has_iff]
        by_cases heq : a = record.actionID <;> simp [heq]
      · rintro send' (_ | ⟨_, hsend'⟩)
        · rfl
        · exact hs.current send' hsend'
      · cases h
      · exact List.nodup_cons.2 ⟨hw.idle, hs.distinct⟩
      · rintro send' (_ | ⟨_, hsend'⟩)
        · exact ⟨record, Map.get?_put_self, hstate, hraw⟩
        · exact hother send' hsend'

/-! ## Steps -/

/-- The journal is closed only while nothing is being sent, and no write that took effect reports an error. -/
def Orderly (s : RelaySystem) : RelayEvent → Prop
  | .close => s.sends = []
  | e => e.write ≠ some .landed

instance (s : RelaySystem) (e : RelayEvent) : Decidable (Orderly s e) := by
  unfold Orderly
  split <;> infer_instance

theorem Orderly.write {e : RelayEvent} (h : Orderly s e) (hw : e.write = some w) : w ≠ .landed := by
  rintro rfl
  cases e with
  | close => cases hw
  | _ => exact h hw

/-- What one event does. -/
inductive RelayMoves (P : RelayProtocol) (profile : PredictionRelayProfile) (s : RelaySystem) :
    RelayEvent → RelaySystem → Prop
  | nothing {e} : RelayMoves P profile s e s
  | prepared {w a boc expected cursor checkpoint j record} (open_ : s.journal = some j)
    (writes : Writes P profile s record none) (action : record.actionID = a)
    (exact : record.exactSignedBOCBase64 = P.encodeBase64 boc) :
    RelayMoves P profile s (.prepare w a boc expected cursor checkpoint) (s.commit j w record none)
  | wrote {e j w record send} (write : e.write = some w) (open_ : s.journal = some j)
    (writes : Writes P profile s record send)
    (found : s.files.get? record.actionID ≠ none) : RelayMoves P profile s e (s.commit j w record send)
  | sent {index send} (found : s.sends[index]? = some send) :
    RelayMoves P profile s (.sent index) (relayStep P profile s (.sent index))
  | closed : RelayMoves P profile s .close { s with journal := none }
  | reopened (none : s.journal = none) : RelayMoves P profile s .reopen
    { s with journal := some { records := s.files, inFlight := ∅ }, opening := s.opening + 1 }
  | crashed : RelayMoves P profile s .crash s.crash

theorem Tidy.idle_of_state (hs : Tidy P profile s)
    (hr : s.files.get? a = some r) (hstate : r.state ≠ .broadcasting) : a ∉ s.sends.map (·.actionID) := by
  intro hmem
  obtain ⟨send, hsend, rfl⟩ := List.mem_map.1 hmem
  obtain ⟨r', hr', hstate', -⟩ := hs.broadcasting send hsend
  rw [hr] at hr'
  cases hr'
  exact hstate hstate'

theorem apply_moves {e : RelayEvent}
    {operation : RelayJournal → Except String (Update PredictionRelayRecord PredictionRelayRecord)}
    (hmoves : ∀ {j record value}, s.journal = some j → operation j = .ok (.store record value) →
      RelayMoves P profile s e (s.commit j w record none)) : RelayMoves P profile s e (s.apply w operation) := by
  unfold RelaySystem.apply
  split
  · exact .nothing
  · rename_i j hj
    split
    · rename_i record value hop
      exact hmoves hj hop
    · exact .nothing
    · exact .nothing

section
variable (hs : Tidy P profile s)
include hs

theorem Tidy.wrote {e : RelayEvent} (hwrite : e.write = some w) (hj : s.journal = some j) {old : PredictionRelayRecord}
    (hold : j.records.get? a = some old) (hforward : Forward old record)
    (hvalid : validateRelayRecord P record profile = .ok ()) (hidle : a ∉ s.sends.map (·.actionID))
    (hsends : ∀ {raw}, send = some raw → record.state = .broadcasting ∧
      P.decodeBase64 record.exactSignedBOCBase64 = some raw) :
    RelayMoves P profile s e (s.commit j w record send) := by
  rw [hs.synced hj] at hold
  have haction : record.actionID = a := hforward.actionID.trans (hs.valid hold).1
  subst haction
  refine .wrote hwrite hj ⟨hvalid, fun hold' => ?_, hidle, hsends⟩ (by rw [hold]; exact Option.some_ne_none old)
  rw [hold] at hold'
  cases hold'
  exact hforward

theorem Tidy.records (hj : s.journal = some j) {r : PredictionRelayRecord} (hr : j.records.get? a = some r) :
    validateRelayRecord P r profile = .ok () := by
  rw [hs.synced hj] at hr
  exact (hs.valid hr).2

theorem Tidy.idle_of_inFlight (hj : s.journal = some j) (hidle : j.inFlight.has a = false) :
    a ∉ s.sends.map (·.actionID) := by
  rw [← hs.flying hj a, hidle]
  exact Bool.false_ne_true

theorem relayStep_moves (e : RelayEvent) : RelayMoves P profile s e (relayStep P profile s e) := by
  have hnone : ∀ {record : PredictionRelayRecord} {raw}, (none : Option Bytes) = some raw →
      record.state = .broadcasting ∧ P.decodeBase64 record.exactSignedBOCBase64 = some raw := fun h => by cases h
  cases e with
  | prepare w a boc expected cursor checkpoint =>
    refine apply_moves fun {j record value} hj h => ?_
    obtain ⟨habsent, rfl, hexact, hvalid⟩ := prepareRelay_store h
    rw [hs.synced hj] at habsent
    refine .prepared hj ⟨hvalid, fun hold => ?_, ?_, hnone⟩ rfl hexact
    · rw [habsent] at hold; cases hold
    · -- what is being sent has a record
      intro hmem
      obtain ⟨send, hsend, heq⟩ := List.mem_map.1 hmem
      obtain ⟨r, hr, -⟩ := hs.broadcasting send hsend
      rw [heq, habsent] at hr
      cases hr
  | beginOrResume w a =>
    simp only [relayStep]
    split
    · exact .nothing
    · rename_i j hj
      split
      · rename_i record value raw h
        obtain ⟨old, hold, hforward, hstate, hraw, hidle, hvalid⟩ := beginOrResume_store h
        exact hs.wrote rfl hj hold hforward hvalid (hs.idle_of_inFlight hj hidle) fun hsome => by
          cases hsome
          exact ⟨hstate, hraw⟩
      · exact .nothing
      · exact .nothing
  | sent index =>
    cases hsend : s.sends[index]? with
    | none =>
      have hsame : relayStep P profile s (.sent index) = s := by simp [relayStep, hsend]
      rw [hsame]
      exact .nothing
    | some send => exact .sent hsend
  | resolveSource w a evidence verdict =>
    refine apply_moves fun {j record value} hj h => ?_
    obtain ⟨old, hold, hforward, hidle, hvalid⟩ := resolveSource_store (hs.records hj) h
    exact hs.wrote rfl hj hold hforward hvalid (hs.idle_of_inFlight hj hidle) hnone
  | resolveDestination w a evidence verdict =>
    refine apply_moves fun {j record value} hj h => ?_
    obtain ⟨old, hold, hforward, hstate, hvalid⟩ := resolveDestination_store (hs.records hj) h
    exact hs.wrote rfl hj hold hforward hvalid (hs.idle_of_state (hs.synced hj ▸ hold) (by rw [hstate]; decide)) hnone
  | resolveBounceCredit w a evidence verdict =>
    refine apply_moves fun {j record value} hj h => ?_
    obtain ⟨old, hold, hforward, hstate, hvalid⟩ := resolveBounceCredit_store (hs.records hj) h
    exact hs.wrote rfl hj hold hforward hvalid (hs.idle_of_state (hs.synced hj ▸ hold) (by rw [hstate]; decide)) hnone
  | close => exact .closed
  | reopen =>
    simp only [relayStep]
    split
    · rename_i records hnone hload
      simp only [loadRelay, peel] at hload
      rw [← hload.2.2]
      exact .reopened hnone
    · exact .nothing
    · exact .nothing
  | crash => exact .crashed

/-- An event changes the files only by one write, and only a preparation creates a record. -/
theorem relayStep_files (e : RelayEvent) :
    (relayStep P profile s e).files = s.files ∨ ∃ record send, Writes P profile s record send ∧
      (relayStep P profile s e).files = s.files.put record.actionID record ∧
      (s.files.get? record.actionID = none → ∃ w boc expected cursor checkpoint,
        e = .prepare w record.actionID boc expected cursor checkpoint ∧
          record.exactSignedBOCBase64 = P.encodeBase64 boc) := by
  have hm := relayStep_moves hs e
  generalize hnext : relayStep P profile s e = s' at hm
  cases hm with
  | @prepared w a boc expected cursor checkpoint j record _ writes action exact =>
    subst action
    exact commit_files.imp_right fun h =>
      ⟨record, none, writes, h, fun _ => ⟨w, boc, expected, cursor, checkpoint, rfl, exact⟩⟩
  | @wrote _ j w record send _ _ writes found =>
    exact commit_files.imp_right fun h => ⟨record, send, writes, h, fun h => absurd h found⟩
  | sent found =>
    simp [relayStep, found]
  | nothing | closed | reopened _ | crashed => exact .inl rfl

theorem relayStep_forward (e : RelayEvent) : FilesForward s (relayStep P profile s e) := by
  intro a r hr
  obtain hsame | ⟨record, send, hw, hput, -⟩ := relayStep_files hs e
  · exact ⟨r, hsame ▸ hr, .refl r⟩
  · exact hput ▸ Map.Grown.put Forward.refl hw.forward hr

/-- A send that returns is no longer under way, for the list of sends and for the journal that made it. -/
theorem Tidy.sent {index : ℕ} {send : Send}
    (found : s.sends[index]? = some send) : Tidy P profile (relayStep P profile s (.sent index)) := by
  have hopening := hs.current send (List.mem_of_getElem? found)
  have hstep : relayStep P profile s (.sent index) =
      { s with
        sends := s.sends.eraseIdx index
        journal := s.journal.map fun j => { j with inFlight := j.inFlight.delete send.actionID } } := by
    simp [relayStep, found, hopening]
  have hsub : ∀ send' ∈ s.sends.eraseIdx index, send' ∈ s.sends := fun _ h => List.mem_of_mem_eraseIdx h
  have hmap : (s.sends.eraseIdx index).map (·.actionID) = (s.sends.map (·.actionID)).eraseIdx index :=
    (List.eraseIdx_map ..).symm
  have haction : (s.sends.map (·.actionID))[index]? = some send.actionID := by rw [List.getElem?_map, found]; rfl
  rw [hstep]
  refine ⟨hs.valid, fun h => ?_, fun h a => ?_, fun send' h => hs.current send' (hsub send' h), fun h => ?_, ?_,
    fun send' h => hs.broadcasting send' (hsub send' h)⟩
  · obtain ⟨j, hj, rfl⟩ := Option.map_eq_some_iff.1 h
    exact (hs.synced hj : j.records = s.files)
  · obtain ⟨j, hj, rfl⟩ := Option.map_eq_some_iff.1 h
    show (j.inFlight.delete send.actionID).has a = true ↔ a ∈ (s.sends.eraseIdx index).map (·.actionID)
    rw [hmap, mem_eraseIdx_of_nodup hs.distinct haction, ← hs.flying hj a, Map.has_iff, Map.get?_delete, Map.has_iff]
    by_cases heq : a = send.actionID <;> simp [heq]
  · have hsends := hs.closed (Option.map_eq_none_iff.1 h)
    show s.sends.eraseIdx index = []
    rw [hsends]
    rfl
  · show ((s.sends.eraseIdx index).map (·.actionID)).Nodup
    rw [hmap]
    exact hs.distinct.sublist (List.eraseIdx_sublist ..)

theorem relayStep_tidy {e : RelayEvent} (he : Orderly s e) : Tidy P profile (relayStep P profile s e) := by
  have hm := relayStep_moves hs e
  generalize hnext : relayStep P profile s e = s' at hm
  cases hm with
  | nothing => exact hs
  | prepared open_ writes _ _ => exact writes.commit_tidy hs open_ (he.write rfl)
  | wrote write open_ writes _ => exact writes.commit_tidy hs open_ (he.write write)
  | @sent index send found =>
    exact hs.sent found
  | closed => exact tidy_of_idle rfl he hs.valid
  | reopened none =>
    -- a journal is opened only when none is, so nothing is being sent
    have hsends := hs.closed none
    refine ⟨hs.valid, fun h => ?_, fun h a => ?_, fun send hsend => ?_, fun h => ?_, hs.distinct, hs.broadcasting⟩
    · cases h; rfl
    · cases h
      show (∅ : Map String Unit).has a = true ↔ a ∈ s.sends.map (·.actionID)
      rw [hsends]
      exact iff_of_false Bool.false_ne_true List.not_mem_nil
    · rw [hsends] at hsend; cases hsend
    · cases h
  | crashed => exact tidy_of_idle rfl rfl hs.valid

end

/-! ## Runs -/

theorem relayRun_tidy (hes : Along (relayStep P profile) Orderly .empty es) : Tidy P profile (relayRun P profile es) :=
  invariant_along (I := Tidy P profile) (fun _ _ hs he => relayStep_tidy hs he) empty_tidy hes

theorem relayRun_forward {es' : List RelayEvent} (hes : Along (relayStep P profile) Orderly .empty (es ++ es')) :
    FilesForward (relayRun P profile es) (relayRun P profile (es ++ es')) := by
  obtain ⟨hbefore, hafter⟩ := along_append.1 hes
  rw [relayRun, relayRun, exec_append]
  exact related_along FilesForward.refl FilesForward.trans (fun _ _ hs he => relayStep_tidy hs he)
    (fun s e hs _ => relayStep_forward hs e) (relayRun_tidy hbefore) hafter

/-- The event that made the record of an action durable for the first time. -/
structure FirstPrepared (P : RelayProtocol) (profile : PredictionRelayProfile) (es : List RelayEvent) (a : String)
    (boc : Bytes) : Prop where
  event : ∃ before w expected cursor checkpoint after,
    es = before ++ .prepare w a boc expected cursor checkpoint :: after ∧
    (relayRun P profile before).files.get? a = none ∧
    (relayRun P profile (before ++ [.prepare w a boc expected cursor checkpoint])).files.get? a ≠ none

theorem FirstPrepared.snoc (h : FirstPrepared P profile es a boc) (e : RelayEvent) :
    FirstPrepared P profile (es ++ [e]) a boc := by
  obtain ⟨before, w, expected, cursor, checkpoint, after, rfl, hbefore, hafter⟩ := h.event
  exact ⟨before, w, expected, cursor, checkpoint, after ++ [e], by simp, hbefore, hafter⟩

theorem relayStep_creates (hs : Tidy P profile s) {e : RelayEvent}
    (habsent : s.files.get? a = none) (hr : (relayStep P profile s e).files.get? a = some r) :
    ∃ w boc expected cursor checkpoint, e = .prepare w a boc expected cursor checkpoint ∧
      r.exactSignedBOCBase64 = P.encodeBase64 boc := by
  obtain hsame | ⟨record, send, -, hput, hcreates⟩ := relayStep_files hs e
  · rw [hsame, habsent] at hr; cases hr
  · rw [hput] at hr
    obtain ⟨rfl, rfl⟩ | hr := Map.put_cases hr
    · exact hcreates habsent
    · rw [habsent] at hr; cases hr

theorem record_firstPrepared : ∀ {es}, Along (relayStep P profile) Orderly .empty es →
    ∀ {a r}, (relayRun P profile es).files.get? a = some r →
      ∃ boc, r.exactSignedBOCBase64 = P.encodeBase64 boc ∧ FirstPrepared P profile es a boc := by
  intro es
  induction es using List.reverseRecOn with
  | nil => intro _ a r hr; cases hr
  | append_singleton es e ih =>
    intro hes a r hr
    obtain ⟨hbefore, -⟩ := along_append.1 hes
    have hs := relayRun_tidy hbefore
    have hstep : relayRun P profile (es ++ [e]) = relayStep P profile (relayRun P profile es) e := exec_snoc ..
    cases hold : (relayRun P profile es).files.get? a with
    | some old =>
      obtain ⟨boc, hboc, hfirst⟩ := ih hbefore hold
      obtain ⟨r', hr', hforward⟩ := relayStep_forward hs e a old hold
      rw [hstep, hr'] at hr
      cases hr
      exact ⟨boc, hforward.exact.trans hboc, hfirst.snoc e⟩
    | none =>
      have hr' := hr
      rw [hstep] at hr'
      obtain ⟨w, boc, expected, cursor, checkpoint, rfl, hexact⟩ := relayStep_creates hs hold hr'
      exact ⟨boc, hexact, es, w, expected, cursor, checkpoint, [], rfl, hold, by rw [hr]; exact Option.some_ne_none r⟩

/-- If the journal is only ever closed while nothing is being sent, and no write that took effect reports an error:
whenever bytes are being sent, the durable record of their action is broadcasting and the bytes are those that were
first prepared for it; no two sends of an action overlap; and from any moment to a later one every record moves forward
with all its evidence, so that nothing is sent for an action that has left broadcasting. -/
theorem sends_end_before_finality {P : RelayProtocol} (base64 : ∀ raw, P.decodeBase64 (P.encodeBase64 raw) = some raw)
    (profile : PredictionRelayProfile) (es : List RelayEvent)
    (hes : Along (relayStep P profile) Orderly .empty es) :
    let s := relayRun P profile es
    (∀ send ∈ s.sends, (∃ record, s.files.get? send.actionID = some record ∧ record.state = .broadcasting) ∧
      FirstPrepared P profile es send.actionID send.bytes) ∧
    (s.sends.map (·.actionID)).Nodup ∧
    ∀ before after, es = before ++ after → ∀ a r, (relayRun P profile before).files.get? a = some r →
      (∃ r', s.files.get? a = some r' ∧ Forward r r') ∧
      (r.state ≠ .signed ∧ r.state ≠ .broadcasting → a ∉ s.sends.map (·.actionID)) := by
  intro s
  have hs : Tidy P profile s := relayRun_tidy hes
  refine ⟨fun send hsend => ?_, hs.distinct, fun before after heq a r hr => ?_⟩
  · obtain ⟨record, hrecord, hstate, hbytes⟩ := hs.broadcasting send hsend
    obtain ⟨boc, hboc, hfirst⟩ := record_firstPrepared hes hrecord
    rw [hboc, base64] at hbytes
    cases hbytes
    exact ⟨⟨record, hrecord, hstate⟩, hfirst⟩
  · subst heq
    obtain ⟨r', hr', hforward⟩ := relayRun_forward hes a r hr
    exact ⟨⟨r', hr', hforward⟩, fun hleft => hs.idle_of_state hr' (NextStage.left_broadcasting hforward.stage hleft).2⟩

namespace Sample

def relayProtocol : RelayProtocol where
  canonicalBOC _ := true
  cellDigest _ := cellA
  rootDigest _ := digestA
  bodyOpcode _ := some 7
  sha256Digest _ := digestA
  isPredictionCustodyEffectKind _ := true
  validRawAddress _ := true
  encodeBase64 raw := raw
  decodeBase64 text := some text

def relayProfile : PredictionRelayProfile where
  networkDomainHash := network
  sourceAgentAccount := "agent"
  sourceAgentAccountCodeHash := code
  marketAddress := "market"
  marketID := market
  marketCodeHash := code
  marketConfigHash := config.1
  observerIDs := [digestA.1, digestB.1, network]
  quorumThreshold := 2
  maximumOutstanding := 10
  maximumSignedBOCBytes := 100
  minimumNoBounceMCBlocks := 1

def expectedCall : ExpectedContractCall where
  actionKind := "trade"
  stableActionID := digestA.1
  targetAddress := "market"
  valueNanoTOS := 1
  bodyBOCBase64 := "body"
  bodyHash := cellA.1
  stateInitBOCBase64 := ""
  stateInitHash := ""
  bounce := true
  extraFlags := 3
  opcode := 7
  successPredicateDigest := digestA.1

def agentCursor : AccountCursor := { accountAddress := "agent", lastLogicalTime := 0, lastTransactionHash := "" }

def block (seqno : UInt32) : BlockIdentity where
  workchainID := -1
  shard := 0
  sequenceNumber := seqno
  rootHash := digestA.1
  fileHash := digestB.1
  masterchainSequence := seqno

def skippedEvidence : SourceTransactionEvidence where
  submittedExternalMessageHash := cellA.1
  transactionHash := digestA.1
  transactionBOCBase64 := "transaction"
  block := block 6
  finality :=
    { networkDomainHash := network, finalityViewID := view1, observerIDs := [digestA.1, digestB.1, network]
      agreeingIDs := [digestA.1, digestB.1], threshold := 2, masterchainSeqno := 6 }
  nextSourceCursor := agentCursor
  outboundMessages := []

def prepared : RelayEvent := .prepare .stored digestA.1 "signed" expectedCall agentCursor (block 5)

def resolved : RelayEvent := .resolveSource .stored digestA.1 skippedEvidence (.ok ())

end Sample

open Sample in
/-- Nothing is being sent when the action becomes final, and a further send is refused. -/
theorem resolved_after_send :
    let es := [.reopen, prepared, .beginOrResume .stored digestA.1, .sent 0, .close, .reopen, resolved,
      .beginOrResume .stored digestA.1]
    Along (relayStep relayProtocol relayProfile) Orderly .empty es ∧
      ((relayRun relayProtocol relayProfile es).files.get? digestA.1).map (·.state) = some .sourceActionSkipped ∧
      ((relayRun relayProtocol relayProfile es).sends.map (·.actionID)).Nodup := by
  intro es
  have hes : Along (relayStep relayProtocol relayProfile) Orderly .empty es := by decide +kernel
  exact ⟨hes, by decide +kernel, (sends_end_before_finality (fun _ => rfl) relayProfile es hes).2.1⟩

open Sample in
/-- Closing and opening the journal during a send lets a second send of the same action start, and lets the action
become final while its bytes are still being sent. An action that became final by a write that reported an error is
broadcast again. -/
theorem reopened_during_send :
    (relayRun relayProtocol relayProfile [.reopen, prepared, .beginOrResume .stored digestA.1, .close, .reopen,
      .beginOrResume .stored digestA.1]).sends.map (·.actionID) = [digestA.1, digestA.1] ∧
    (let s := relayRun relayProtocol relayProfile [.reopen, prepared, .beginOrResume .stored digestA.1, .close, .reopen,
      resolved]
    s.sends.map (·.actionID) = [digestA.1] ∧ (s.files.get? digestA.1).map (·.state) = some .sourceActionSkipped) ∧
    (let es := [.reopen, prepared, .beginOrResume .stored digestA.1, .sent 0,
      .resolveSource .landed digestA.1 skippedEvidence (.ok ())]
    let s := relayRun relayProtocol relayProfile (es ++ [.beginOrResume .stored digestA.1])
    ((relayRun relayProtocol relayProfile es).files.get? digestA.1).map (·.state) = some .sourceActionSkipped ∧
      (s.files.get? digestA.1).map (·.state) = some .broadcasting ∧ s.sends.map (·.actionID) = [digestA.1]) := by
  decide +kernel

end OpenFox.Prediction
