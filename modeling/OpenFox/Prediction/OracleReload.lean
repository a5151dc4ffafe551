/-
What the oracle journal writes, it accepts when it is opened again, as long as no vote is prepared under a
second round context and no receipt is given twice. Without that the journal locks its oracle out.
-/
import OpenFox.Prediction.Oracle
import OpenFox.Prediction.Sample

namespace OpenFox.Prediction

open OpenFox.Go OpenFox.Base

/-- `archiveReceiptDigest` accepts the fields of the receipt, and its signature verifies under some key. -/
def Verified (P : OracleProtocol) (receipt : ArchiveReceipt) : Prop :=
  archiveReceiptDigest P receipt = .ok (P.receiptHash receipt) ∧
    ∃ key, P.verify key (P.receiptHash receipt) receipt.signature = true

/-- What the journal relies on: encodings that decode to what was encoded and stay within the journal's bounds,
texts that parse to what they name, and receipts that verify and have one identifier only if they are the same. -/
structure OracleLaws (P : OracleProtocol) : Prop where
  base64 : ∀ raw, P.decodeBase64 (P.encodeBase64 raw) = some raw
  manifest : ∀ {m boc}, P.buildManifest m = .ok boc → canonicalCell P boc 65536 = .ok boc ∧
    P.decodeManifest boc = some m
  statement : ∀ {s boc}, P.buildStatement s = .ok boc → canonicalCell P boc 8192 = .ok boc ∧
    P.decodeStatement boc = some s
  challenge : ∀ {m boc}, P.buildChallengeManifest m = .ok boc →
    canonicalCell P boc 65536 = .ok boc ∧ P.decodeChallengeManifest boc = some m
  parse : ∀ {text h}, P.parseHash32 text = some h → canonicalDigest text "tvm-cell-sha256:" = true → h.1 = text
  receipts : ∀ {r r'}, Verified P r → Verified P r' →
    P.receiptID (P.receiptHash r) r.signature = P.receiptID (P.receiptHash r') r'.signature → r = r'

variable {P : OracleProtocol} {o : RangeOrder} {profile : OracleProfile} {d : OracleDocument}

/-! ## Receipts -/

def receiptText (P : OracleProtocol) (receipt : ArchiveReceipt) : String :=
  (P.receiptID (P.receiptHash receipt) receipt.signature).1

variable {record : OracleChallengeRecord} {watcher : ChallengeWatcherProfile} {authorities : Map String Bytes}
  {opened : Bool} {retention : UInt64} {observation : ProposedMarketObservation} {key : String}

variable {entry : EvidenceEntry} {invalid : String} {c : OracleCall} {context base : Bytes}
  {next : OracleDocument} {now : UInt64}

theorem verifyReceipt_ok {receipt : ArchiveReceipt} {id : String}
    (h : verifyReceipt P authorities retention now entry receipt = .ok id) :
    id = receiptText P receipt ∧ Verified P receipt := by
  unfold verifyReceipt at h
  split at h
  · rename_i key digest _ hdigest
    have hfields := hdigest
    simp only [archiveReceiptDigest, peel] at hdigest
    obtain ⟨-, rfl⟩ := hdigest
    simp only [peel, passed] at h
    obtain ⟨⟨-, -, -, -, -, hverify⟩, rfl⟩ := h
    exact ⟨rfl, hfields, key, hverify⟩
  · simp only [throw_ok] at h

theorem verifyReceipts_ok :
    ∀ {receipts : List ArchiveReceipt} {operators : Map String Unit} {digests : List String}
    {seen : Map String Unit × List String},
      verifyReceipts P authorities retention now entry receipts operators digests = .ok seen →
        seen.2 = digests ++ receipts.map (receiptText P) ∧ (∀ r ∈ receipts, Verified P r) ∧
          seen.1.entries.length = operators.entries.length + receipts.length
  | [], operators, digests, seen, h => by
    simp only [verifyReceipts, pure_ok] at h
    subst h
    simp
  | receipt :: receipts, operators, digests, seen, h => by
    simp only [verifyReceipts, peel, Bool.not_eq_true, Map.has_false_iff] at h
    obtain ⟨hfresh, id, hid, h⟩ := h
    obtain ⟨rfl, hverified⟩ := verifyReceipt_ok hid
    obtain ⟨hdigests, hall, hlength⟩ := verifyReceipts_ok h
    rw [Map.length_put_of_none hfresh] at hlength
    refine ⟨by rw [hdigests, List.append_assoc]; rfl, ?_, by rw [hlength, List.length_cons]; omega⟩
    rintro r (_ | ⟨_, hr⟩)
    · exact hverified
    · exact hall r hr

theorem verifyEvidence_ok :
    ∀ {values : List ArchivedEvidence} {total : ℕ} {entries : List EvidenceEntry} {digests : List String}
    {verified : List EvidenceEntry × List String},
      verifyEvidence P authorities retention now values total entries digests = .ok verified →
        verified.1 = entries ++ values.map (·.entry) ∧
        verified.2 = digests ++ (values.flatMap (·.receipts)).map (receiptText P) ∧
    (∀ r ∈ values.flatMap (·.receipts), Verified P r) ∧ 2 * values.length ≤ (values.flatMap (·.receipts)).length
  | [], total, entries, digests, verified, h => by
    simp only [verifyEvidence, pure_ok] at h
    subst h
    simp
  | value :: values, total, entries, digests, verified, h => by
    simp only [verifyEvidence, peel] at h
    obtain ⟨-, -, seen, hseen, htwo, h⟩ := h
    obtain ⟨hdigests, hverified, hlength⟩ := verifyReceipts_ok hseen
    obtain ⟨hentries, htexts, hall, htotal⟩ := verifyEvidence_ok h
    have hcount : 2 ≤ value.receipts.length := by
      have hnone : (∅ : Map String Unit).entries.length = 0 := rfl
      omega
    refine ⟨by rw [hentries, List.append_assoc]; rfl, ?_, ?_, ?_⟩
    · rw [htexts, hdigests, List.flatMap_cons, List.map_append, List.append_assoc]
    · intro r hr
      rw [List.flatMap_cons, List.mem_append] at hr
      exact hr.elim (hverified r) (hall r)
    · rw [List.flatMap_cons, List.length_append, List.length_cons]
      omega

/-- The receipts of an evidence set are pairwise different. -/
def NoReceiptTwice (evidence : List ArchivedEvidence) : Prop := (evidence.flatMap (·.receipts)).Nodup

instance (evidence : List ArchivedEvidence) : Decidable (NoReceiptTwice evidence) :=
  inferInstanceAs (Decidable (List.Nodup _))

theorem checkReceiptDigests_ok {unsorted : String} :
    ∀ {digests} {previous}, (∀ x ∈ digests, canonicalDigest x "sha256:" = true) →
      digests.Pairwise (· < ·) → (previous = "" ∨ ∀ x ∈ digests, previous < x) →
      checkReceiptDigests invalid unsorted previous digests = .ok ()
  | [], _, _, _, _ => rfl
  | x :: digests, previous, hcanonical, hsorted, hprevious => by
    unfold checkReceiptDigests
    rw [refuse_of_not (not_not.2 (hcanonical x (by simp))), refuse_of_not]
    · exact checkReceiptDigests_ok (fun y hy => hcanonical y (by simp [hy])) hsorted.of_cons
        (.inr fun y hy => List.rel_of_pairwise_cons hsorted hy)
    · rintro ⟨hne, hle⟩
      exact absurd (hprevious.resolve_left hne x (by simp)) (not_lt.2 hle)

theorem checkReceiptDigests_sorted {unsorted : String} :
    ∀ {digests} {previous}, checkReceiptDigests invalid unsorted previous digests = .ok () →
      digests.Pairwise (· < ·) ∧ (previous ≠ "" → ∀ x ∈ digests, previous < x)
  | [], _, _ => ⟨List.Pairwise.nil, fun _ x hx => absurd hx (List.not_mem_nil)⟩
  | x :: digests, previous, h => by
    simp only [checkReceiptDigests, peel, not_not, not_and, not_le] at h
    obtain ⟨hcanonical, hprevious, h⟩ := h
    obtain ⟨hsorted, habove⟩ := checkReceiptDigests_sorted h
    have hx := habove (canonicalDigest_ne_empty hcanonical)
    refine ⟨List.pairwise_cons.2 ⟨hx, hsorted⟩, fun hne y hy => ?_⟩
    rcases List.mem_cons.1 hy with rfl | hy
    · exact hprevious hne
    · exact (hprevious hne).trans (hx y hy)

theorem lt_strictWeak : StrictWeak ((· < ·) : String → String → Prop) where
  asymm h := lt_asymm h
  negTrans {a _} b h := (lt_or_ge a b).imp id fun hba => lt_of_le_of_lt hba h

theorem verifyArchivedEvidence_ok (laws : OracleLaws P) {values : List ArchivedEvidence}
    {verified : List EvidenceEntry × List String} (hdistinct : NoReceiptTwice values)
    (h : verifyArchivedEvidence P profile values now = .ok verified) :
    verified.1 = values.map (·.entry) ∧ 2 * values.length ≤ verified.2.length ∧
      ∀ invalid unsorted, checkReceiptDigests invalid unsorted "" verified.2 = .ok () := by
  simp only [verifyArchivedEvidence, peel] at h
  obtain ⟨-, h⟩ := h
  split at h
  · simp only [throw_ok] at h
  · simp only [peel] at h
    obtain ⟨collected, hcollected, rfl⟩ := h
    obtain ⟨hentries, htexts, hverified, htotal⟩ := verifyEvidence_ok hcollected
    rw [List.nil_append] at hentries htexts
    have hnodup : collected.2.Nodup := by
      rw [htexts]
      refine hdistinct.map_on fun r hr r' hr' heq => ?_
      exact laws.receipts (hverified r hr) (hverified r' hr') (Subtype.ext heq)
    have hsorted := sortSlice_sorted lt_strictWeak (hnodup.imp fun hne => lt_or_gt_of_ne hne)
    refine ⟨hentries, ?_, fun invalid unsorted => checkReceiptDigests_ok (fun x hx => ?_) hsorted (.inl rfl)⟩
    · rw [sortSlice_length, htexts, List.length_map]
      exact htotal
    · rw [mem_sortSlice, htexts] at hx
      obtain ⟨r, -, rfl⟩ := List.mem_map.1 hx
      exact (P.receiptID _ _).2

/-! ## Documents that load -/

structure Reloadable (P : OracleProtocol) (profile : OracleProfile) (d : OracleDocument) : Prop where
  version : d.schemaVersion = 1
  owner : d.profile = profile
  oneVote : d.votes.entries.length ≤ 1
  oneChallenge : d.challenges.entries.length ≤ 1
  votes : ∀ {key record}, d.votes.get? key = some record → validateStoredVote P profile key record = .ok ()
  challenges : ∀ {key record}, d.challenges.get? key = some record →
    validateStoredChallenge P profile key record = .ok ()

theorem Reloadable.load (hd : Reloadable P profile d) (o : RangeOrder) : loadOracle P o profile d = .ok d := by
  unfold loadOracle
  rw [refuse_of_not, (forM_ok (u := ())).2, (forM_ok (u := ())).2]
  · rfl
  · rintro ⟨key, record⟩ he
    rw [hd.owner]
    exact hd.challenges (Map.mem_range.1 he)
  · rintro ⟨key, record⟩ he
    rw [hd.owner]
    exact hd.votes (Map.mem_range.1 he)
  · simp only [passed, gt_iff_lt, not_lt]
    exact ⟨hd.version, hd.oneVote, hd.oneChallenge, hd.owner⟩

theorem loadOracle_ok {stored : OracleDocument} (h : loadOracle P o profile stored = .ok d) : d = stored := by
  simp only [loadOracle, peel] at h
  exact h.2.2.2.symm

theorem Reloadable.voteReceipts (hd : Reloadable P profile d) {record : OracleVoteRecord}
    (hget : d.votes.get? key = some record) : record.archiveReceiptDigests.Pairwise (· < ·) := by
  have hsound := hd.votes hget
  unfold validateStoredVote at hsound
  split at hsound
  · simp only [throw_ok] at hsound
  · simp only [peel] at hsound
    exact (checkReceiptDigests_sorted hsound.2.2).1

theorem Reloadable.challengeReceipts (hd : Reloadable P profile d)
    (hget : d.challenges.get? key = some record) : record.archiveReceiptDigests.Pairwise (· < ·) := by
  have hsound := hd.challenges hget
  unfold validateStoredChallenge at hsound
  split at hsound
  · simp only [throw_ok] at hsound
  · simp only [peel] at hsound
    exact (checkReceiptDigests_sorted hsound.2).1

theorem emptyOracle_reloadable (profile : OracleProfile) : Reloadable P profile (emptyOracle profile) where
  version := rfl
  owner := rfl
  oneVote := Nat.zero_le 1
  oneChallenge := Nat.zero_le 1
  votes h := by cases h
  challenges h := by cases h

/-! ## What a call stores -/

/-- A vote was added under a key that had none. -/
structure VoteAdded (P : OracleProtocol) (d next : OracleDocument) (key : String) (record : OracleVoteRecord) :
    Prop where
  next_eq : next = { d with revision := d.revision + 1, votes := d.votes.put key record }
  absent : d.votes.get? key = none
  sound : validateStoredVote P d.profile key record = .ok ()

structure ChallengeAdded (P : OracleProtocol) (d next : OracleDocument) (record : OracleChallengeRecord) : Prop where
  next_eq : next =
    { d with revision := d.revision + 1, challenges := d.challenges.put record.proposedStatementHash record }
  first : d.challenges.entries = []
  sound : validateStoredChallenge P d.profile record.proposedStatementHash record = .ok ()

section
variable (laws : OracleLaws P)
include laws

theorem OracleLaws.storedVote {m : EvidenceManifest} {s : ResolutionStatement}
    {manifest statement : Bytes} {record : OracleVoteRecord} (hm : P.buildManifest m = .ok manifest)
    (hs : P.buildStatement s = .ok statement) (hrecord : record.evidenceManifestBOC = P.encodeBase64 manifest)
    (hrecord' : record.statementBOC = P.encodeBase64 statement) :
    storedVote P record = some (manifest, statement, m, s) := by
  obtain ⟨hcanonical, hdecode⟩ := laws.manifest hm
  obtain ⟨hcanonical', hdecode'⟩ := laws.statement hs
  simp [Prediction.storedVote, hrecord, hrecord', laws.base64, hcanonical, hcanonical', Except.toOption,
    hdecode, hdecode']

theorem OracleLaws.storedChallenge {m : ChallengeManifest} {manifest : Bytes}
    (hm : P.buildChallengeManifest m = .ok manifest) (hrecord : record.evidenceManifestBOC = P.encodeBase64 manifest) :
    storedChallenge P record = some (manifest, m) := by
  obtain ⟨hcanonical, hdecode⟩ := laws.challenge hm
  simp [Prediction.storedChallenge, hrecord, laws.base64, hcanonical, Except.toOption, hdecode]

end

theorem prepareVote_ok {outcome : Outcome} {evidence : List ArchivedEvidence} {u : Update OracleDocument OracleVotePlan}
    (h : prepareVote P opened d context base outcome evidence now = .ok u) :
    (∃ prior, d.votes.get? (P.cellHash context).1 = some prior ∧ u = .keep (votePlan P prior)) ∨
    d.votes.get? (P.cellHash context).1 = none ∧ ∃ record,
      u = .store { d with revision := d.revision + 1, votes := d.votes.put (P.cellHash context).1 record }
        (votePlan P record) ∧
      (OracleLaws P → NoReceiptTwice evidence → validateStoredVote P d.profile (P.cellHash context).1 record =
        .ok ()) := by
  simp only [prepareVote, canonicalCell, peel] at h
  obtain ⟨-, -, cell, ⟨-, -, rfl⟩, expiry, -, verified, hverified, manifest, hmanifest, h⟩ := h
  split at h
  · rename_i prior hprior
    simp only [peel] at h
    exact .inl ⟨prior, hprior, h.2.symm⟩
  · rename_i habsent
    simp only [commitVote, peel] at h
    obtain ⟨statement, hstatement, rfl⟩ := h
    refine .inr ⟨habsent, _, rfl, fun laws hdistinct => ?_⟩
    obtain ⟨hentries, hcount, hsorted⟩ := verifyArchivedEvidence_ok laws hdistinct hverified
    simp only [validateStoredVote]
    rw [laws.storedVote hmanifest hstatement rfl rfl]
    simp only
    rw [refuse_of_not (by simp [(P.cellHash context).2]),
      refuse_of_not (by rw [hentries, List.length_map]; exact not_lt.2 hcount)]
    exact hsorted _ _

theorem prepareVote_replays {outcome : Outcome} {evidence : List ArchivedEvidence} {prior : OracleVoteRecord}
    {u : Update OracleDocument OracleVotePlan} (hprior : d.votes.get? (P.cellHash context).1 = some prior)
    (h : prepareVote P opened d context base outcome evidence now = .ok u) : u = .keep (votePlan P prior) := by
  obtain ⟨_, hfound, rfl⟩ | ⟨habsent, -⟩ := prepareVote_ok h
  · cases hprior.symm.trans hfound
    rfl
  · cases hprior.symm.trans habsent

theorem requiredMessageValue_ne_zero {required : UInt64}
    (hbond : watcher.challengeBond ≠ 0) (h : requiredMessageValue watcher = .ok required) : required ≠ 0 := by
  simp only [requiredMessageValue, bind_ok, addChecked_ok] at h
  obtain ⟨sum, hsum, hrequired⟩ := h
  have hpos : watcher.challengeBond.toNat ≠ 0 := fun h => hbond (UInt64.toNat_inj.1 h)
  rintro rfl
  have hzero : (0 : UInt64).toNat = 0 := rfl
  omega

theorem buildChallenge_sound (laws : OracleLaws P) {evidence : List ArchivedEvidence} {counterOutcome : Outcome}
    {receiptDigests : List String}
    (hwatcher : validateChallengeWatcherProfile watcher = .ok ())
    (hobserved : validateProposedObservation observation watcher profile now = .ok ())
    (hdisagree : counterOutcome ≠ observation.proposedOutcome)
    (hcount : 2 * evidence.length ≤ receiptDigests.length)
    (hsorted : ∀ invalid unsorted, checkReceiptDigests invalid unsorted "" receiptDigests = .ok ())
    (h : buildChallenge P watcher observation evidence counterOutcome receiptDigests = .ok record) :
    validateStoredChallenge P profile record.proposedStatementHash record = .ok () := by
  simp only [validateChallengeWatcherProfile, refuse_ok, not_or] at hwatcher
  simp only [validateProposedObservation, refuse_ok, passed] at hobserved
  obtain ⟨-, -, -, hmarket, -, hrules, -, -, hcanonical, hview, hdeadline, -⟩ := hobserved
  unfold buildChallenge at h
  split at h
  · rename_i marketID rulesHash proposalHash hparse hparse' hparse''
    simp only [peel] at h
    obtain ⟨manifest, hmanifest, required, hrequired, digest, -, rfl⟩ := h
    simp only [validateStoredChallenge]
    rw [laws.storedChallenge hmanifest]
    · simp only
      rw [refuse_of_not]
      · exact hsorted _ _
      have hpositive : required ≠ 0 := requiredMessageValue_ne_zero hwatcher.2.2.2.1 hrequired
      have hlive : observation.challengeDeadline ≠ 0 := by
        rintro hzero
        rw [hzero] at hdeadline
        exact hdeadline UInt64.zero_le
      have hproposal := laws.parse hparse'' hcanonical
      simp [parsedHash, ← hmarket, ← hrules, hparse, hparse', hcanonical, hview, hpositive, hlive, hproposal,
        Ne.symm hdisagree, digest.2, hcount]
    · rfl
  · simp only [throw_ok] at h

theorem prepareChallenge_store {around : ChallengeSurroundings} {evidence : List ArchivedEvidence}
    {plan : Option ChallengePlan}
    (h : prepareChallenge P opened d watcher around observation evidence now = .ok (.store next plan)) :
    ∃ record, opened = true ∧ d.challenges.entries = [] ∧
      next = { d with revision := d.revision + 1, challenges := d.challenges.put record.proposedStatementHash record } ∧
      (OracleLaws P → NoReceiptTwice evidence →
        validateStoredChallenge P d.profile record.proposedStatementHash record = .ok ()) := by
  simp only [prepareChallenge, peel, passed] at h
  obtain ⟨⟨-, -, -, hwatcher⟩, -, hobserved, verified, hverified, h⟩ := h
  split at h
  · simp only [throw_ok] at h
  · simp only [bind_ok] at h
    obtain ⟨counterOutcome, -, h⟩ := h
    split at h
    · cases h
    · rename_i hdisagree
      simp only [bind_ok, commitChallenge, peel, passed] at h
      obtain ⟨record, hrecord, hopened, h⟩ := h
      split at h
      · simp only [peel, reduceCtorEq, and_false] at h
      · simp only [peel, passed] at h
        obtain ⟨hnone, h⟩ := h
        cases h
        refine ⟨record, hopened, List.eq_nil_of_length_eq_zero hnone, rfl, fun laws hdistinct => ?_⟩
        obtain ⟨-, hcount, hsorted⟩ := verifyArchivedEvidence_ok laws hdistinct hverified
        exact buildChallenge_sound laws hwatcher hobserved hdisagree hcount hsorted hrecord

/-! ## The invariant -/

theorem VoteAdded.reloadable {record : OracleVoteRecord}
    (ha : VoteAdded P d next key record) (hd : Reloadable P profile d) (hfirst : d.votes.entries = []) :
    Reloadable P profile next := by
  obtain ⟨rfl, habsent, hsound⟩ := ha
  refine ⟨hd.version, hd.owner, ?_, hd.oneChallenge, Map.forall_put hd.votes (hd.owner ▸ hsound), hd.challenges⟩
  rw [Map.length_put_of_none habsent, hfirst]
  rfl

theorem ChallengeAdded.reloadable
    (ha : ChallengeAdded P d next record) (hd : Reloadable P profile d) : Reloadable P profile next := by
  obtain ⟨rfl, hfirst, hsound⟩ := ha
  refine ⟨hd.version, hd.owner, hd.oneVote, ?_, hd.votes, Map.forall_put hd.challenges (hd.owner ▸ hsound)⟩
  rw [Map.length_put_of_none (Map.get?_of_entries_nil hfirst _), hfirst]
  rfl

/-- A call that gives no receipt twice and, if it prepares a vote, does so under the context of the recorded vote,
if there is one. -/
def OneContext (P : OracleProtocol) (d : OracleDocument) : OracleCall → Prop
  | .prepareVote context _ _ evidence _ =>
    NoReceiptTwice evidence ∧ ∀ e ∈ d.votes.entries, e.1 = (P.cellHash context).1
  | .prepareChallenge _ _ _ evidence _ => NoReceiptTwice evidence

instance (P : OracleProtocol) (d : OracleDocument) : (c : OracleCall) → Decidable (OneContext P d c)
  | .prepareVote _ _ _ _ _ => inferInstanceAs (Decidable (_ ∧ _))
  | .prepareChallenge _ _ _ evidence _ => inferInstanceAs (Decidable (NoReceiptTwice evidence))

theorem oracleJournal_reloadable (laws : OracleLaws P) {u : Unit} (hd : Reloadable P profile d)
    (hone : OneContext P d c)
    (h : (oracleJournal P o profile).call opened c d = .ok (.store next u)) : Reloadable P profile next := by
  cases c with
  | prepareVote context base outcome evidence now =>
    obtain ⟨plan, hstore⟩ := Update.map_store h
    obtain ⟨_, _, hkeep⟩ | ⟨habsent, record, hwrote, hsound⟩ := prepareVote_ok hstore
    · cases hkeep
    cases hwrote
    -- a recorded vote would be the one of this context, and there is none
    have hfirst : d.votes.entries = [] := by
      rw [List.eq_nil_iff_forall_not_mem]
      rintro ⟨key, prior⟩ he
      have hget := Map.mem_entries.1 he
      have hkey : key = (P.cellHash context).1 := hone.2 _ he
      rw [hkey, habsent] at hget
      cases hget
    exact VoteAdded.reloadable ⟨rfl, habsent, hsound laws hone.1⟩ hd hfirst
  | prepareChallenge watcher around observation evidence now =>
    obtain ⟨plan, hstore⟩ := Update.map_store h
    obtain ⟨record, -, hfirst, hnext, hsound⟩ := prepareChallenge_store hstore
    exact ChallengeAdded.reloadable ⟨hnext, hfirst, hsound laws hone⟩ hd

theorem oracleJournal_closed {u : Unit} : (oracleJournal P o profile).call false c d ≠ .ok (.store next u) := by
  intro h
  cases c with
  | prepareVote context base outcome evidence now =>
    obtain ⟨plan, hstore⟩ := Update.map_store h
    simp [prepareVote, peel] at hstore
  | prepareChallenge watcher around observation evidence now =>
    obtain ⟨plan, hstore⟩ := Update.map_store h
    obtain ⟨_, hopened, -⟩ := prepareChallenge_store hstore
    cases hopened

/-- A run of the journal from an empty document: its state after any calls, failed writes, closes and reopens. -/
def oracleRun (P : OracleProtocol) (o : RangeOrder) (profile : OracleProfile) (es : List (MachineEvent OracleCall)) :
    Machine.State OracleDocument OracleDocument :=
  exec (oracleJournal P o profile).step ((oracleJournal P o profile).start (emptyOracle profile)) es

/-- Every call of the run is made under one context. -/
def OneContextRun (P : OracleProtocol) (o : RangeOrder) (profile : OracleProfile)
    (es : List (MachineEvent OracleCall)) : Prop :=
  Along (oracleJournal P o profile).step (Machine.Allowed (OneContext P))
    ((oracleJournal P o profile).start (emptyOracle profile)) es

instance (P : OracleProtocol) (o : RangeOrder) (profile : OracleProfile) (es : List (MachineEvent OracleCall)) :
    Decidable (OneContextRun P o profile es) :=
  inferInstanceAs (Decidable (Along _ _ _ es))

theorem accepted_reloadable (laws : OracleLaws P) {cs : List OracleCall}
    (ha : Machine.Accepted (oracleJournal P o profile) (OneContext P) (emptyOracle profile) cs d) :
    Reloadable P profile d :=
  ha.invariant (emptyOracle_reloadable profile) (fun hd hone hc => oracleJournal_reloadable laws hd hone hc)
    fun hd hl => (loadOracle_ok hl).symm ▸ hd

/-- If every vote is prepared under the context of the recorded vote, if there is one, and no call gives a receipt
twice, the journal holds at most one vote and one challenge, in memory and in its file; opening it again succeeds,
in every order of its maps; and while a vote is recorded a further vote under its context is only ever answered
with the recorded statement. -/
theorem oracle_reopens_under_one_context {P : OracleProtocol} (laws : OracleLaws P) (o : RangeOrder)
    (profile : OracleProfile) (es : List (MachineEvent OracleCall)) (hes : OneContextRun P o profile es) :
    let s := oracleRun P o profile es
    (∀ d, d = s.mem ∨ d = s.file → d.votes.entries.length ≤ 1 ∧ d.challenges.entries.length ≤ 1 ∧
      (∀ key record, d.votes.get? key = some record → record.archiveReceiptDigests.Pairwise (· < ·)) ∧
      (∀ key record, d.challenges.get? key = some record → record.archiveReceiptDigests.Pairwise (· < ·)) ∧
      ∀ o', loadOracle P o' profile d = .ok d) ∧
    ∀ context base outcome evidence now prior u, s.mem.votes.get? (P.cellHash context).1 = some prior →
      prepareVote P s.opened s.mem context base outcome evidence now = .ok u → u = .keep (votePlan P prior) := by
  intro s
  have hrun := Machine.run_consistent oracleJournal_closed hes
  obtain ⟨cs, hmem⟩ := hrun.mem
  obtain ⟨cs', stored, hstored, hfile⟩ := hrun.file
  have hfile' : s.file = stored := hfile
  have hboth : ∀ d, d = s.mem ∨ d = s.file → Reloadable P profile d := by
    rintro d (rfl | rfl)
    · exact accepted_reloadable laws hmem
    · rw [hfile']
      exact accepted_reloadable laws hstored
  refine ⟨fun d hd => ?_, fun context base outcome evidence now prior u hprior h => ?_⟩
  · have hd := hboth d hd
    exact ⟨hd.oneVote, hd.oneChallenge, fun _ _ hget => hd.voteReceipts hget, fun _ _ hget => hd.challengeReceipts hget,
      hd.load⟩
  · exact prepareVote_replays hprior h

namespace Sample

def archiveReceipt (operator : SHA256) (signature : Bytes) : ArchiveReceipt where
  operatorID := operator.1
  contentDigest := cellA
  archiveLocator := "locator"
  storedAt := 1
  retainUntil := 1000
  signature := signature

def receiptA : ArchiveReceipt := archiveReceipt digestA "signature a"
def receiptB : ArchiveReceipt := archiveReceipt digestB "signature b"

/-- One content, cited by two entries, kept by two operators. -/
def evidence (terms : Bytes) : ArchivedEvidence where
  entry := { contentDigest := cellA, archiveLocator := "locator", publicationTimeSeconds := 1, terms := terms }
  content := "content"
  receipts := [receiptA, receiptB]

def manifestOf (context : CellHash) (entries : List EvidenceEntry) : EvidenceManifest where
  marketID := cellA
  rulesHash := cellA
  roundContextHash := context
  outcome := .yes
  entries := entries

def statementOf (context : CellHash) : ResolutionStatement where
  globalID := 1
  marketAddress := "market"
  marketID := cellA
  rulesHash := cellA
  roundPolicyHash := cellB
  roundContextHash := context
  round := .normal
  outcome := .yes
  evidenceRoot := cellB
  statementCreatedAt := 2
  statementExpiry := 100

def counterManifest : ChallengeManifest where
  marketID := cellA
  rulesHash := cellA
  proposedStatementHash := cellB
  counterOutcome := .yes
  entries := [(evidence "first").entry]

/-- Two round contexts, `"first"` and any other; the builders know the cells used here. -/
def oracleProtocol : OracleProtocol where
  maxEvidenceEntries := 8
  parseHash32 text := if h : canonicalDigest text "tvm-cell-sha256:" = true then some ⟨text, h⟩ else some cellA
  contentHash _ := cellA
  casLocator _ := "locator"
  receiptHash r := if r = receiptA then cellA else if r = receiptB then cellB else zeroHash
  receiptID h _ := if h = cellA then digestA else digestB
  verify _ h signature := (h == cellA && signature == "signature a") || (h == cellB && signature == "signature b")
  canonicalBOC _ := true
  cellHash boc := if boc = "first" then cellA else cellB
  decodeNormalContext _ := some
    { marketID := cellA, rulesHash := cellA, resolveNotBefore := 1, normalRoundOpenedAt := 1,
      oracleVoteDeadline := 100 }
  decodeReviewVoteContext _ := none
  decodeReviewBaseContext _ := none
  buildManifest m :=
    if m = manifestOf cellA [(evidence "first").entry] then .ok "1"
    else if m = manifestOf cellB [(evidence "first").entry] then .ok "2"
    else if m = manifestOf cellA [(evidence "first").entry, (evidence "second").entry] then .ok "3"
    else .error "manifest"
  decodeManifest boc :=
    if boc = "1" then some (manifestOf cellA [(evidence "first").entry])
    else if boc = "2" then some (manifestOf cellB [(evidence "first").entry])
    else some (manifestOf cellA [(evidence "first").entry, (evidence "second").entry])
  buildStatement s :=
    if s = statementOf cellA then .ok "4" else if s = statementOf cellB then .ok "5" else .error "statement"
  decodeStatement boc := some (statementOf (if boc = "4" then cellA else cellB))
  buildChallengeManifest m := if m = counterManifest then .ok "6" else .error "challenge"
  decodeChallengeManifest _ := some counterManifest
  watcherDigest _ := .ok digestA
  encodeBase64 boc := boc
  decodeBase64 text := some text

def oracleProfile : OracleProfile where
  globalID := 1
  marketAddress := "market"
  marketID := cellA.1
  rulesHash := market
  roundPolicyHash := cellB.1
  reporterAddress := "reporter"
  round := .normal
  claimDeadline := 200
  auditRetention := 100
  archiveAuthorities := [⟨digestA.1, "key a"⟩, ⟨digestB.1, "key b"⟩]

def watcherProfile : ChallengeWatcherProfile where
  networkDomainHash := network
  marketConfigHash := config.1
  contractCodeHash := code
  challengeBond := 1
  challengeProcessingFee := 1
  operationBudget := 1
  maximumSnapshotAge := 300

def proposed : ProposedMarketObservation where
  status := 2
  networkDomainHash := network
  marketID := cellA.1
  marketAddress := "market"
  rulesHash := market
  marketConfigHash := config.1
  contractCodeHash := code
  proposedStatementHash := cellB.1
  proposedOutcome := .no
  challengeDeadline := 50
  observedAt := 1
  finalityViewID := view1
  quorumFinalized := true

def vote (context : Bytes) (values : List ArchivedEvidence) : MachineEvent OracleCall :=
  .call .stored (.prepareVote context "" .yes values 2)

def challenge : MachineEvent OracleCall :=
  .call .stored (.prepareChallenge watcherProfile ⟨true, none, fun _ _ _ => .ok .yes⟩ proposed [evidence "first"] 2)

theorem verified_receipt {r : ArchiveReceipt} {key : Bytes}
    (hv : oracleProtocol.verify key (oracleProtocol.receiptHash r) r.signature = true) :
    r = receiptA ∨ r = receiptB := by
  by_cases ha : r = receiptA
  · exact .inl ha
  · by_cases hb : r = receiptB
    · exact .inr hb
    · have hzero : oracleProtocol.receiptHash r = zeroHash := by simp [oracleProtocol, if_neg ha, if_neg hb]
      rw [hzero] at hv
      have hneA : zeroHash.1 ≠ cellA.1 := by decide +kernel
      have hneB : zeroHash.1 ≠ cellB.1 := by decide +kernel
      simp [oracleProtocol, hneA, hneB] at hv

theorem oracleLaws : OracleLaws oracleProtocol where
  base64 _ := rfl
  manifest h := by
    simp only [oracleProtocol] at h
    split_ifs at h <;> cases h <;> subst_vars <;> exact ⟨by decide +kernel, by decide +kernel⟩
  statement h := by
    simp only [oracleProtocol] at h
    split_ifs at h <;> cases h <;> subst_vars <;> exact ⟨by decide +kernel, by decide +kernel⟩
  challenge h := by
    simp only [oracleProtocol] at h
    split_ifs at h with hm
    cases h
    subst hm
    exact ⟨by decide +kernel, by decide +kernel⟩
  parse {text h} hp hc := by
    simp only [oracleProtocol, hc, dite_true, Option.some.injEq] at hp
    exact congrArg Subtype.val hp.symm
  receipts hv hv' hid := by
    have hne : oracleProtocol.receiptID (oracleProtocol.receiptHash receiptA) receiptA.signature ≠
        oracleProtocol.receiptID (oracleProtocol.receiptHash receiptB) receiptB.signature := by decide +kernel
    obtain ⟨-, _, hv⟩ := hv
    obtain ⟨-, _, hv'⟩ := hv'
    rcases verified_receipt hv with rfl | rfl <;> rcases verified_receipt hv' with rfl | rfl
    · rfl
    · exact absurd hid hne
    · exact absurd hid.symm hne
    · rfl

end Sample

open Sample in
/-- One vote and one challenge, and the journal opens again. -/
theorem voted_and_challenged_journal_reopens :
    OneContextRun oracleProtocol asWritten oracleProfile [vote "first" [evidence "first"], challenge, .reopen] ∧
      (oracleRun oracleProtocol asWritten oracleProfile
        [vote "first" [evidence "first"], challenge, .reopen]).file.votes.entries.length = 1 ∧
      loadOracle oracleProtocol asWritten oracleProfile
        (oracleRun oracleProtocol asWritten oracleProfile [vote "first" [evidence "first"], challenge, .reopen]).file =
      .ok (oracleRun oracleProtocol asWritten oracleProfile
        [vote "first" [evidence "first"], challenge, .reopen]).file := by
  have hes : OneContextRun oracleProtocol asWritten oracleProfile
      [vote "first" [evidence "first"], challenge, .reopen] := by decide +kernel
  have hrun := oracle_reopens_under_one_context oracleLaws asWritten oracleProfile _ hes
  exact ⟨hes, by decide +kernel, (hrun.1 _ (.inr rfl)).2.2.2.2 asWritten⟩

open Sample in
/-- A second vote under another context is stored, and so is a vote whose entries share their receipts; neither
document opens again. -/
theorem second_context_locks_journal :
    (oracleRun oracleProtocol asWritten oracleProfile
      [vote "first" [evidence "first"], vote "second" [evidence "first"]]).file.votes.entries.length = 2 ∧
    failsWith (loadOracle oracleProtocol asWritten oracleProfile
      (oracleRun oracleProtocol asWritten oracleProfile
        [vote "first" [evidence "first"], vote "second" [evidence "first"]]).file)
      "prediction oracle journal identity or shape is invalid" = true ∧
    failsWith (loadOracle oracleProtocol asWritten oracleProfile
      (oracleRun oracleProtocol asWritten oracleProfile [vote "first" [evidence "first", evidence "second"]]).file)
      "prediction oracle receipt digests are not unique and sorted" = true := by
  decide +kernel

/-! ## Equivocation -/

/-- No vote and no challenge is dropped or replaced. -/
def Lasts (d d' : OracleDocument) : Prop :=
  (∀ key vote, d.votes.get? key = some vote → d'.votes.get? key = some vote) ∧
    ∀ key challenge, d.challenges.get? key = some challenge → d'.challenges.get? key = some challenge

theorem oracleJournal_lasts {u : Unit} (h : (oracleJournal P o profile).call opened c d = .ok (.store next u)) :
    Lasts d next := by
  cases c with
  | prepareVote context base outcome evidence now =>
    obtain ⟨plan, hstore⟩ := Update.map_store h
    obtain ⟨_, _, hkeep⟩ | ⟨habsent, _, hwrote, -⟩ := prepareVote_ok hstore
    · cases hkeep
    · cases hwrote
      exact ⟨fun _ _ => Map.get?_put_absent habsent, fun _ _ hget => hget⟩
  | prepareChallenge watcher around observation evidence now =>
    obtain ⟨plan, hstore⟩ := Update.map_store h
    obtain ⟨_, -, hfirst, rfl, -⟩ := prepareChallenge_store hstore
    exact ⟨fun _ _ hget => hget, fun _ _ => Map.get?_put_absent (Map.get?_of_entries_nil hfirst _)⟩

/-- In whatever order calls, writes that fail or still reach the file, closes and reopens come: what the journal has in
memory stays as it is, and a vote that is accepted under the context of one it had there is that one. -/
theorem oracle_never_equivocates (P : OracleProtocol) (o : RangeOrder) (profile : OracleProfile)
    (es es' : List (MachineEvent OracleCall)) :
    let s := oracleRun P o profile (es ++ es')
    Lasts (oracleRun P o profile es).mem s.mem ∧
      ∀ context base outcome evidence now prior u,
        (oracleRun P o profile es).mem.votes.get? (P.cellHash context).1 = some prior →
        prepareVote P s.opened s.mem context base outcome evidence now = .ok u → u = .keep (votePlan P prior) := by
  intro s
  have hlasts : Lasts (oracleRun P o profile es).mem s.mem :=
    Machine.run_related (R := Lasts) (fun _ => ⟨fun _ _ h => h, fun _ _ h => h⟩) oracleJournal_lasts loadOracle_ok
      (fun _ _ _ hab hbc => ⟨fun _ _ h => hbc.1 _ _ (hab.1 _ _ h), fun _ _ h => hbc.2 _ _ (hab.2 _ _ h)⟩) _ es es'
  exact ⟨hlasts, fun _ _ _ _ _ _ _ hprior h => prepareVote_replays (hlasts.1 _ _ hprior) h⟩

end OpenFox.Prediction
