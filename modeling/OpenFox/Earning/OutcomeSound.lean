/-
Records that pass the journal's own checks. Scanning, recovering a pending record and importing an archive check a
record in the same way and differ in what they ask of its place in the chain; a record that `Commit` wrote for the
recorder passes all of them, now and later.
-/
import OpenFox.Earning.OutcomePartition

namespace OpenFox.Earning

open OpenFox.Go OpenFox.Commerce
open OpenFox.Authority (canonicalSHA256)

variable {P : OutcomeProtocol}

/-! ## The common checks -/

/-- What every reader of a record checks of it, apart from its place. -/
structure CheckedRecord (P : OutcomeProtocol) (own : OutcomeJournalHead) (gaps : List UInt64)
    (resolver : OperationResolver) (r : OutcomeJournalRecord) : Prop where
  size : P.recordBytes r ≤ maxOutcomeJournalRecordBytes
  checksum : outcomeRecordChecksum P r = .ok r.recordChecksum
  admission : ∃ fields, appendIdentity P own r.epoch r.sequence r.eventContentID =
    .ok (fields, r.journalAppendActionID) ∧
    validateAppendAdmission P own r fields r.journalAppendActionID gaps = .ok ()
  binds : envelopeBinds r
  operation : verifyRecordOperation P resolver r = .ok ()

variable {total : Nat} {h a b own : OutcomeJournalHead} {r : OutcomeJournalRecord}
  {log before rest : List OutcomeJournalRecord} {β : Type}
  {admission : OutcomeJournalAppendAdmission} {s : OutcomeJournal} {resolver : OperationResolver}
  {sequence top : UInt64} {gaps : List UInt64}

section
variable {r' : OutcomeJournalRecord} {previous : String}
  {resolver : OperationResolver}

theorem scanRecord_ok : scanRecord P h previous sequence (.whole r) = .ok r' ↔ r' = r ∧
    CheckedRecord P h h.gaps selfResolver r ∧ r.previousRecordChecksum = previous ∧ sequence < r.sequence ∧
    containsUint64 h.gaps r.sequence = false ∧ gapsBetween h.gaps sequence r.sequence = true := by
  simp only [scanRecord, peel, not_lt, gt_iff_lt, passed, not_le, Bool.not_eq_true]
  constructor
  · rintro ⟨hsize, checksum, hchecksum, rfl, ⟨fields, actionID⟩, hid, ⟨rfl, hprev, hseq, hbinds⟩, hadmission, hgap,
      hbetween, hop, rfl⟩
    exact ⟨rfl, ⟨hsize, hchecksum, ⟨fields, hid, hadmission⟩, hbinds, hop⟩, hprev, hseq, hgap, hbetween⟩
  · rintro ⟨rfl, ⟨hsize, hchecksum, ⟨fields, hid, hadmission⟩, hbinds, hop⟩, hprev, hseq, hgap, hbetween⟩
    exact ⟨hsize, _, hchecksum, rfl, _, hid, ⟨rfl, hprev, hseq, hbinds⟩, hadmission, hgap, hbetween, hop, rfl⟩

theorem validatePendingRecord_iff : validatePendingRecord P h r = .ok () ↔
    CheckedRecord P h h.gaps selfResolver r ∧ r.previousRecordChecksum = h.lastRecordChecksum ∧
    r.epoch = h.writerGeneration ∧ r.sequence = h.pendingSequence ∧
      r.envelope.body.orderingDomain = h.orderingDomain := by
  simp only [validatePendingRecord, peel, not_lt, gt_iff_lt, passed]
  constructor
  · rintro ⟨hsize, checksum, hchecksum, ⟨fields, actionID⟩, hid, ⟨rfl, hprev, hepoch, hseq, rfl, hdomain, hbinds⟩,
      hadmission, hop⟩
    exact ⟨⟨hsize, hchecksum, ⟨fields, hid, hadmission⟩, hbinds, hop⟩, hprev, hepoch, hseq, hdomain⟩
  · rintro ⟨⟨hsize, hchecksum, ⟨fields, hid, hadmission⟩, hbinds, hop⟩, hprev, hepoch, hseq, hdomain⟩
    exact ⟨hsize, _, hchecksum, _, hid, ⟨rfl, hprev, hepoch, hseq, rfl, hdomain, hbinds⟩, hadmission, hop⟩

theorem validateArchiveRecord_ok : validateArchiveRecord P h gaps resolver r previous sequence total = .ok () ↔
    CheckedRecord P h gaps resolver r ∧ r.previousRecordChecksum = previous ∧ sequence < r.sequence ∧
    gapsBetween gaps sequence r.sequence = true ∧ total + P.recordBytes r ≤ maxOutcomeArchiveBytes ∧
    r.envelope.body.orderingDomain = h.orderingDomain := by
  simp only [validateArchiveRecord, peel, not_lt, gt_iff_lt, passed, not_le]
  constructor
  · rintro ⟨checksum, hchecksum, ⟨hsize, rfl, hprev, hseq⟩, htotal, hbetween, ⟨fields, actionID⟩, hid, rfl,
      hadmission, hop, hdomain, hbinds⟩
    exact ⟨⟨hsize, hchecksum, ⟨fields, hid, hadmission⟩, hbinds, hop⟩, hprev, hseq, hbetween, htotal, hdomain⟩
  · rintro ⟨⟨hsize, hchecksum, ⟨fields, hid, hadmission⟩, hbinds, hop⟩, hprev, hseq, hbetween, htotal, hdomain⟩
    exact ⟨_, hchecksum, ⟨hsize, rfl, hprev, hseq⟩, htotal, hbetween, _, hid, rfl, hadmission, hop, hdomain, hbinds⟩

/-! ## What the checks depend on -/

theorem appendIdentity_congr (hab : sameIdentity a b) (epoch sequence : UInt64) (event : String) :
    appendIdentity P a epoch sequence event = appendIdentity P b epoch sequence event := by
  obtain ⟨howner, hagent, -, hdomain, -⟩ := hab
  unfold appendIdentity
  rw [howner, hagent, hdomain]

theorem validateAppendAdmission_congr (hab : sameIdentity a b) {gaps' : List UInt64}
    (hgaps : gapsBelow gaps' r.sequence = gapsBelow gaps r.sequence) {fields : SemanticFields} {actionID : String} :
    validateAppendAdmission P a r fields actionID gaps' = validateAppendAdmission P b r fields actionID gaps := by
  obtain ⟨howner, hagent, hauthority, hdomain, -⟩ := hab
  unfold validateAppendAdmission
  rw [howner, hagent, hauthority, hdomain, hgaps]

/-- The checks see the journal's identity and the gaps below the record, nothing else of the head. -/
theorem CheckedRecord.transfer {gaps' : List UInt64} (hr : CheckedRecord P b gaps resolver r)
    (hab : sameIdentity a b) (hgaps : gapsBelow gaps' r.sequence = gapsBelow gaps r.sequence) :
    CheckedRecord P a gaps' resolver r := by
  obtain ⟨fields, hid, hadmission⟩ := hr.admission
  refine ⟨hr.size, hr.checksum, ⟨fields, ?_, ?_⟩, hr.binds, hr.operation⟩
  · rw [appendIdentity_congr hab]; exact hid
  · rw [validateAppendAdmission_congr hab hgaps]; exact hadmission

theorem CheckedRecord.gapDigest (hr : CheckedRecord P h gaps resolver r) :
    ∃ request, r.journalAppendRequest = some request ∧
    P.gapSetDigest (some (gapsBelow gaps r.sequence)) = .ok request.gapSetDigest :=
  let ⟨_, _, hadmission⟩ := hr.admission
  validateAppendAdmission_gapDigest hadmission

theorem CheckedRecord.envelopeDigest (hr : CheckedRecord P h gaps resolver r) :
    P.envelopeDigest r.envelope = .ok r.operationEnvelopeDigest := by
  have hop := hr.operation
  simp only [verifyRecordOperation, peel, passed] at hop
  obtain ⟨_, -, _, -, digest, hdigest, ⟨-, rfl⟩, -⟩ := hop
  exact hdigest

end

/-! ## Laws of the library -/

/-- What the journal relies on of the protocol library. -/
structure OutcomeLaws (P : OutcomeProtocol) : Prop extends CanonicalDigests P where
  domain : ∀ {id d}, P.orderingDomainDigest id = .ok d → canonicalSHA256 d = true
  /-- An operation that verified once verifies at its creation under a resolver that takes every key; what is
  verified is the decoded payload. -/
  verified : ∀ {e payload resolver now body}, P.verifyEnvelope e payload resolver now = .ok body →
    P.verifyEnvelope e payload selfResolver (Time.ofUnix e.body.createdAtUnix) = .ok body ∧
      P.decodeEvent payload = .ok body
  fenceKey : ∀ {fence now scope}, P.verifyWriterFence fence now scope = .ok () →
    ∃ key, decodeOutcomeJournalFenceKey fence.publicKey = .ok key
  /-- An append action belongs to whom it is built for. -/
  built : ∀ {action fields bytes fence built}, P.buildAuthorizedAction action fields bytes fence = .ok built →
    built.ownerID = action.ownerID ∧ built.agentID = action.agentID

theorem OutcomeLaws.selfVerified (laws : OutcomeLaws P)
    (hr : verifyRecordOperation P resolver r = .ok ()) : verifyRecordOperation P selfResolver r = .ok () := by
  simp only [verifyRecordOperation, peel] at hr ⊢
  obtain ⟨event, hevent, verified, hverified, hrest⟩ := hr
  exact ⟨event, hevent, verified, (laws.verified hverified).1, hrest⟩

theorem CheckedRecord.self (laws : OutcomeLaws P) (hr : CheckedRecord P own gaps resolver r) :
    CheckedRecord P own gaps selfResolver r :=
  { hr with operation := laws.selfVerified hr.operation }

/-! ## Scanning a chain -/

/-- The visitor over a list of records. -/
def visitAll {β : Type} (P : OutcomeProtocol) (visit : Visitor β) (total : Nat) :
    List OutcomeJournalRecord → Nat → β → Except String β
  | [], _, acc => .ok acc
  | r :: rest, index, acc => do
    let acc ← visit acc r (P.recordBytes r) index total
    visitAll P visit total rest (index + 1) acc

/-- The place of a record in a history: after the last of the records before it, with gaps in between. -/
theorem History.between (hh : History P log gaps top) (hlog : log = before ++ r :: rest) {n : UInt64}
    (hafter : lastOf before < n) (hbefore : n < r.sequence) : n ∈ gaps := by
  have hr : r ∈ log := by rw [hlog]; simp
  have hpos : 0 < n := lt_of_le_of_lt UInt64.zero_le hafter
  refine ((hh.covers n).2 ⟨hpos, hbefore.le.trans (hh.le_top hr)⟩).resolve_left ?_
  rintro ⟨a, ha, rfl⟩
  have hsorted := hh.sorted
  rw [hlog] at hsorted ha
  rw [List.pairwise_append, List.pairwise_cons] at hsorted
  rcases List.mem_append.1 ha with ha | ha
  · -- a record before `r` is not after the last of them
    exact absurd hafter (not_lt.2 (le_lastOf_of_sorted hsorted.1 ha))
  · rcases List.mem_cons.1 ha with rfl | ha
    · exact absurd hbefore (lt_irrefl _)
    · exact absurd (hsorted.2.1.1 a ha) (not_lt.2 hbefore.le)

theorem linked_split :
    ∀ {before rest} {previous}, Linked previous (before ++ r :: rest) →
      r.previousRecordChecksum = (before.getLast?.map (·.recordChecksum)).getD previous
  | [], _, _, hl => hl.1
  | a :: before, rest, previous, hl => by
    rw [linked_split hl.2, List.getLast?_cons]
    cases before.getLast? <;> rfl

theorem lastOf_lt (hh : History P log gaps top) (hlog : log = before ++ r :: rest) : lastOf before < r.sequence := by
  unfold lastOf
  cases hlast : before.getLast? with
  | none => exact ((hh.covers r.sequence).1 (.inl ⟨r, by rw [hlog]; simp, rfl⟩)).1
  | some last =>
    have hsorted := hh.sorted
    rw [hlog, List.pairwise_append] at hsorted
    exact hsorted.2.2 last (List.mem_of_getLast? hlast) r (List.mem_cons_self ..)

theorem HeadOf.scanLoop (hh : HeadOf P h log top) (hchecked : ∀ r ∈ log, CheckedRecord P h h.gaps selfResolver r)
    {visit : Visitor β} :
    ∀ {rest before} {index} {acc}, log = before ++ rest →
      scanLoop P h visit total (rest.map .whole) index (lastChecksum before) (lastOf before) acc =
    (visitAll P visit total rest index acc).map fun acc => (acc, lastChecksum log, lastOf log)
  | [], before, index, acc, hlog => by
    rw [hlog, List.append_nil]; rfl
  | r :: rest, before, index, acc, hlog => by
    have hr : r ∈ log := by rw [hlog]; simp
    have hscan : scanRecord P h (lastChecksum before) (lastOf before) (.whole r) = .ok r := by
      refine scanRecord_ok.2 ⟨rfl, hchecked r hr, linked_split (hlog ▸ hh.history.linked),
        lastOf_lt hh.history hlog, ?_, ?_⟩
      · rw [← Bool.not_eq_true, containsUint64_iff hh.valid.gapsSorted]
        exact hh.history.disjoint r hr
      · rw [gapsBetween_iff hh.valid.gapsSorted]
        exact fun n hafter hbefore => hh.history.between hlog hafter hbefore
    rw [List.map_cons]
    simp only [Earning.scanLoop, visitAll, hscan, runs]
    cases hvisit : visit acc r (P.recordBytes r) index total with
    | error msg => rfl
    | ok acc' =>
      have hsplit : log = (before ++ [r]) ++ rest := by rw [hlog]; simp
      rw [← lastChecksum_append before r, ← lastOf_append before r]
      exact HeadOf.scanLoop hh hchecked hsplit

theorem Stored.sortedRecords_eq {d : OutcomeDirectory}
    (hh : HeadOf P h log top) (hfiles : ∀ r ∈ log, d.records.get? (r.epoch, r.sequence) = some (.whole r))
    (hclean : Clean d log) :
    d.sortedRecords = log.map fun r => ⟨(r.epoch, r.sequence), .whole r⟩ := by
  refine eq_of_sorted nameLess_strictWeak.asymm d.sortedRecords_sorted ?_ fun e => ?_
  · rw [List.pairwise_map]
    exact hh.history.sortedByName
  · obtain ⟨name, file⟩ := e
    rw [OutcomeDirectory.mem_sortedRecords, List.mem_map]
    constructor
    · intro hfile
      obtain ⟨r, hr, rfl⟩ := hclean name file hfile
      rw [hfiles r hr] at hfile
      cases hfile
      exact ⟨r, hr, rfl⟩
    · rintro ⟨r, hr, heq⟩
      cases heq
      exact hfiles r hr

/-- The journal's records, in memory and on disk, are one checked chain. -/
structure Readable (P : OutcomeProtocol) (s : OutcomeJournal) (log : List OutcomeJournalRecord) (top : UInt64) :
    Prop where
  headOf : HeadOf P s.head log top
  files : ∀ r ∈ log, s.directory.records.get? (r.epoch, r.sequence) = some (.whole r)
  clean : Clean s.directory log
  checked : ∀ r ∈ log, CheckedRecord P s.head s.head.gaps selfResolver r

theorem Readable.scan (hs : Readable P s log top) {visit : Visitor β} {init : β}
    (hcount : log.length ≤ maxOutcomeJournalRecords) :
    scanOutcomeRecords P s visit init = visitAll P visit log.length log 0 init := by
  have hsorted := Stored.sortedRecords_eq hs.headOf hs.files hs.clean
  have hloop : scanLoop P s.head visit log.length (log.map .whole) 0 "" 0 init =
      (visitAll P visit log.length log 0 init).map fun acc => (acc, lastChecksum log, lastOf log) :=
    hs.headOf.scanLoop hs.checked (List.nil_append log).symm
  simp only [scanOutcomeRecords, hsorted, List.length_map, List.map_map]
  rw [refuse_of_not (by omega)]
  show (scanLoop P s.head visit log.length (log.map .whole) 0 "" 0 init >>= _) = _
  rw [hloop]
  cases visitAll P visit log.length log 0 init with
  | error msg => rfl
  | ok acc =>
    simp only [Except.map, runs]
    rw [hs.headOf.last, hs.headOf.checksum, refuse_of_not (by simp)]
    rfl

theorem visitAll_records {limit : Nat} (hlimit : total ≤ limit) :
    ∀ {log} {index retained} {result},
      retained + (log.map P.recordBytes).sum ≤ maxOutcomeJournalResultBytes →
      visitAll P (recordsVisitor limit) total log index (result, retained) =
        .ok (result ++ log, retained + (log.map P.recordBytes).sum)
  | [], index, retained, result, _ => by simp [visitAll]
  | r :: log, index, retained, result, hbytes => by
    rw [List.map_cons, List.sum_cons] at hbytes
    have hvisit : recordsVisitor limit (result, retained) r (P.recordBytes r) index total =
        .ok (result ++ [r], retained + P.recordBytes r) := by
      simp only [recordsVisitor]
      rw [if_neg (by omega), refuse_of_not (by omega)]
      rfl
    unfold visitAll
    rw [hvisit]
    show visitAll P (recordsVisitor limit) total log (index + 1) (result ++ [r], retained + P.recordBytes r) = _
    rw [visitAll_records hlimit (by omega)]
    simp [Nat.add_assoc]

/-- `Records` returns the whole chain if it is asked for that many records and they are not too long. -/
theorem Readable.records (hs : Readable P s log top) {limit : Nat} (hpos : limit ≠ 0) (hlimit : log.length ≤ limit)
    (hmax : limit ≤ 10000) (hbytes : (log.map P.recordBytes).sum ≤ maxOutcomeJournalResultBytes) :
    Earning.records P s limit = .ok log := by
  unfold Earning.records
  rw [refuse_of_not (by omega), hs.scan (by unfold maxOutcomeJournalRecords; omega)]
  show (visitAll P (recordsVisitor limit) log.length log 0 ([], 0) >>= _) = _
  rw [visitAll_records hlimit (by rw [Nat.zero_add]; exact hbytes)]
  rfl

/-! ## Records of the recorder -/

/-- What an honest append authority does: it signs the action it is given, and admits only what verifies against the
fence. -/
structure AppendAuthority.Honest (P : OutcomeProtocol) (authority : AppendAuthority) : Prop where
  signs : ∀ {a fence a'}, authority.signAction a fence = .ok a' → a'.ownerID = a.ownerID ∧ a'.agentID = a.agentID
  verifies : ∀ {a fields bytes fence state key}, authority.admitAction a fields bytes fence = .ok state →
    decodeOutcomeJournalFenceKey fence.publicKey = .ok key →
    P.verifyAction a fields bytes fence ⟨fence.body.authorityID, key⟩ (Time.ofUnix fence.body.issuedAtUnix) = .ok () ∧
      a.authorityID = fence.body.authorityID

/-- The admission is the authority's word on the append of this head. -/
structure Vouched (P : OutcomeProtocol) (h : OutcomeJournalHead) (admission : OutcomeJournalAppendAdmission) :
    Prop where
  owner : admission.fence.body.ownerID = h.ownerID
  agent : admission.fence.body.agentID = h.agentID
  authority : admission.fence.body.authorityID = h.authorityID
  generation : admission.fence.body.writerGeneration = h.writerGeneration
  actionAuthority : admission.action.authorityID = h.authorityID
  key : ∃ key, decodeOutcomeJournalFenceKey admission.fence.publicKey = .ok key ∧
    ∀ fields bytes, P.requestBytes admission.request = .ok bytes →
      P.appendFields h.ownerID h.agentID h.orderingDomain h.writerGeneration admission.request.sequence
        admission.request.eventContentID = .ok fields →
      P.verifyAction admission.action fields bytes admission.fence ⟨admission.fence.body.authorityID, key⟩
        (Time.ofUnix admission.fence.body.issuedAtUnix) = .ok ()
  gaps : P.gapSetDigest (some h.gaps) = .ok admission.request.gapSetDigest

theorem checked_of_admitted (laws : OutcomeLaws P) {request : CommitRequest}
    {record : OutcomeJournalRecord} (hadmitted : admittedRecord P h request admission = .ok record)
    (hv : Vouched P h admission) (hbelow : gapsBelow h.gaps request.sequence = h.gaps) :
    CheckedRecord P h h.gaps selfResolver record ∧ record.envelope.body.orderingDomain = h.orderingDomain := by
  have hr := admittedRecord_ok hadmitted
  simp only [admittedRecord, admitAppend, peel, not_lt, passed] at hadmitted
  obtain ⟨⟨-, hdomain, hepoch, hsequence⟩, body, hbody, hartifacts, envelopeDigest, henvelope, ⟨fields, actionID⟩,
    hidentity, hsource, admitted,
    ⟨gapDigest, hgap, bytes, hbytes, requestDigest, hdigest, fenceDigest, hfence, hrequest,
      ⟨hkind, hstable, hexact, hfenceDigest, howner, hagent⟩, rfl⟩, checksum, hchecksum, hsize, rfl⟩ := hadmitted
  have hid := hidentity
  simp only [appendIdentity, peel, Prod.mk.injEq] at hid
  obtain ⟨fields', hfields, actionID', hactionID, rfl, rfl⟩ := hid
  obtain ⟨key, hkey, hverify⟩ := hv.key
  have hverified : P.verifyAction admission.action fields' bytes admission.fence ⟨admission.fence.body.authorityID, key⟩
      (Time.ofUnix admission.fence.body.issuedAtUnix) = .ok () := by
    refine hverify fields' bytes hbytes ?_
    rw [hrequest]
    exact hfields
  refine ⟨⟨hr.size, hr.checksum, ⟨fields', hidentity, ?_⟩, ⟨rfl, rfl, hsequence, hepoch⟩, ?_⟩, hdomain⟩
  · simp only [validateAppendAdmission, peel, passed]
    refine ⟨bytes, hbytes, requestDigest, hdigest, fenceDigest, hfence, key, hkey, hverified, _, ?_, rfl, ?_⟩
    · rw [hbelow]; exact hv.gaps
    · rw [hrequest]
      exact ⟨rfl, rfl, rfl, rfl, rfl, hkind, hstable, hexact, hexact.symm, hfenceDigest, hv.generation,
        hv.owner, hv.agent, hv.authority, howner, hagent, hv.actionAuthority⟩
  · simp only [verifyRecordOperation, peel, passed]
    exact ⟨body, (laws.verified hbody).2, body, (laws.verified hbody).1, envelopeDigest, henvelope, ⟨rfl, rfl⟩,
      hartifacts, hsource⟩

/-- What the recorder hands to `Commit` is vouched for, if the authority is honest and the fence is the writer's. -/
theorem vouched_of_append (laws : OutcomeLaws P) {recorder : JournalOutcomeRecorder} {authority : AppendAuthority}
    (hauthority : authority.Honest P) {now : Time} (hwriter : currentWriter P s recorder.fence now = .ok ())
    (hid : sameIdentity h s.head) (hgen : h.writerGeneration = s.head.writerGeneration)
    {action : SignedAction} {contentID envelopeDigest : String} {state : ActionState}
    (happend : admittedAppend P recorder authority { h with gapSequences := h.gapSequences.copied } action contentID
      envelopeDigest sequence =
      .ok (admission, state)) (howner : admission.action.ownerID = h.ownerID) (hagent :
      admission.action.agentID = h.agentID) :
    Vouched P h admission := by
  simp only [admittedAppend, peel, Prod.mk.injEq] at happend
  obtain ⟨gapDigest, hgap, bytes, hbytes, fields, hfields, built, hbuilt, signed, hsigned, state', hadmit, -, rfl,
    rfl⟩ := happend
  simp only [currentWriter, peel, passed] at hwriter
  obtain ⟨⟨-, hfowner, hfagent, hfauthority, hfgen⟩, hfence, -⟩ := hwriter
  obtain ⟨key, hkey⟩ := laws.fenceKey hfence
  obtain ⟨hverify, hauth⟩ := hauthority.verifies hadmit hkey
  obtain ⟨hidowner, hidagent, hidauthority, -, -⟩ := hid
  have hto : action.ownerID = h.ownerID ∧ action.agentID = h.agentID := by
    rw [← (laws.built hbuilt).1, ← (laws.built hbuilt).2, ← (hauthority.signs hsigned).1,
      ← (hauthority.signs hsigned).2]
    exact ⟨howner, hagent⟩
  refine ⟨hfowner.trans hidowner.symm, hfagent.trans hidagent.symm, hfauthority.trans hidauthority.symm,
    hfgen.trans hgen.symm,
    hauth.trans (hfauthority.trans hidauthority.symm), ⟨key, hkey, fun fields' bytes' hbytes' hfields' => ?_⟩, hgap⟩
  rw [hto.1, hto.2] at hfields
  cases hfields.symm.trans hfields'
  cases hbytes.symm.trans hbytes'
  exact hverify

/-! ## Archives -/

/-- What a validated chain of archive records is. -/
structure ArchiveChain (P : OutcomeProtocol) (own : OutcomeJournalHead) (gaps : List UInt64)
    (resolver : OperationResolver)
    (records : List OutcomeJournalRecord) (previous : String) (sequence : UInt64) : Prop where
  checked : ∀ r ∈ records, CheckedRecord P own gaps resolver r ∧ r.envelope.body.orderingDomain = own.orderingDomain
  linked : Linked previous records
  sorted : records.Pairwise (·.sequence < ·.sequence)
  above : ∀ r ∈ records, sequence < r.sequence
  filled : ∀ n, sequence < n → n ≤ (records.getLast?.map (·.sequence)).getD sequence →
    (∃ r ∈ records, r.sequence = n) ∨ n ∈ gaps

theorem getLast?_cons_getD {α : Type} (f : α → β) (a : α) (l : List α) (b : β) :
    (((a :: l).getLast?).map f).getD b = (l.getLast?.map f).getD (f a) := by
  rw [List.getLast?_cons]
  cases l.getLast? <;> rfl

theorem validateArchiveChain_ok (hsorted : gaps.Pairwise (· < ·)) {previous' : String} {sequence' : UInt64} :
    ∀ {records} {previous} {sequence} {total},
      validateArchiveChain P own gaps resolver records previous sequence total = .ok (previous', sequence') →
      previous' = (records.getLast?.map (·.recordChecksum)).getD previous ∧
        sequence' = (records.getLast?.map (·.sequence)).getD sequence ∧
        ArchiveChain P own gaps resolver records previous sequence
  | [], previous, sequence, total, hok => by
    cases hok
    exact ⟨rfl, rfl, by simp, trivial, .nil, by simp, fun n hlt hle => absurd hlt (not_lt.2 hle)⟩
  | r :: rest, previous, sequence, total, hok => by
    simp only [validateArchiveChain, peel, validateArchiveRecord_ok] at hok
    obtain ⟨⟨hchecked, hprev, hseq, hbetween, -, hdomain⟩, hrest⟩ := hok
    obtain ⟨hp, hq, hc⟩ := validateArchiveChain_ok hsorted hrest
    rw [getLast?_cons_getD, getLast?_cons_getD]
    refine ⟨hp, hq, ?_, ⟨hprev, hc.linked⟩, List.pairwise_cons.2 ⟨hc.above, hc.sorted⟩, ?_, fun n hlt hle => ?_⟩
    · exact List.forall_mem_cons.2 ⟨⟨hchecked, hdomain⟩, hc.checked⟩
    · exact List.forall_mem_cons.2 ⟨hseq, fun a ha => hseq.trans (hc.above a ha)⟩
    · rw [getLast?_cons_getD] at hle
      rcases lt_trichotomy n r.sequence with hn | rfl | hn
      · exact .inr ((gapsBetween_iff hsorted).1 hbetween n hlt hn)
      · exact .inl ⟨r, List.mem_cons_self .., rfl⟩
      · exact (hc.filled n hn hle).imp (fun ⟨a, ha, hn⟩ => ⟨a, List.mem_cons_of_mem _ ha, hn⟩) id

/-- What passed under some resolver passes under the one that takes every key, also for a head of the same journal. -/
theorem validateArchiveChain_self (laws : OutcomeLaws P) (hab : sameIdentity a b) {last : String × UInt64} :
    ∀ {records} {previous} {sequence} {total},
      validateArchiveChain P b gaps resolver records previous sequence total = .ok last →
      validateArchiveChain P a gaps selfResolver records previous sequence total = .ok last
  | [], _, _, _, hok => hok
  | r :: rest, previous, sequence, total, hok => by
    simp only [validateArchiveChain, peel, validateArchiveRecord_ok] at hok ⊢
    obtain ⟨⟨hchecked, hprev, hseq, hbetween, htotal, hdomain⟩, hrest⟩ := hok
    exact ⟨⟨(hchecked.self laws).transfer hab rfl, hprev, hseq, hbetween, htotal, hdomain.trans hab.2.2.2.1.symm⟩,
      validateArchiveChain_self laws hab hrest⟩

theorem sameIdentity.symm (hab : sameIdentity a b) : sameIdentity b a :=
  ⟨hab.1.symm, hab.2.1.symm, hab.2.2.1.symm, hab.2.2.2.1.symm, hab.2.2.2.2.symm⟩

theorem sameIdentity.trans {c : OutcomeJournalHead} (hab : sameIdentity a b) (hbc : sameIdentity b c) :
    sameIdentity a c :=
  ⟨hab.1.trans hbc.1, hab.2.1.trans hbc.2.1, hab.2.2.1.trans hbc.2.2.1, hab.2.2.2.1.trans hbc.2.2.2.1,
    hab.2.2.2.2.trans hbc.2.2.2.2⟩

/-- An archive the journal has accepted. -/
structure AcceptedArchive (P : OutcomeProtocol) (own : OutcomeJournalHead) (a : OutcomeJournalArchive) : Prop where
  valid : ValidHead a.head
  identity : sameIdentity a.head own
  chain : ArchiveChain P own a.head.gaps selfResolver a.records "" 0
  last : a.head.lastSequence = lastOf a.records
  checksum : a.head.lastRecordChecksum = lastChecksum a.records
  envelope : a.head.lastEnvelopeDigest = (a.records.getLast?.map (·.operationEnvelopeDigest)).getD ""

variable {a : OutcomeJournalArchive}

theorem validateArchiveRecords_self (laws : OutcomeLaws P) {own' : OutcomeJournalHead}
    (hok : validateArchiveRecords P own a resolver = .ok ()) (hid : sameIdentity own' own) :
    validateArchiveRecords P own' a selfResolver = .ok () := by
  simp only [validateArchiveRecords, peel, passed] at hok ⊢
  obtain ⟨⟨hschema, hne, hcount, hsame⟩, hvalid, last, hchain, hlast⟩ := hok
  exact ⟨⟨hschema, hne, hcount, hsame.trans hid.symm⟩, hvalid, last,
    validateArchiveChain_self laws hid hchain, hlast⟩

theorem acceptedArchive_of_validate (hok : validateArchiveRecords P own a selfResolver = .ok ()) :
    AcceptedArchive P own a := by
  simp only [validateArchiveRecords, peel, passed, validateOutcomeJournalHead_ok] at hok
  obtain ⟨⟨-, hne, -, hsame⟩, hvalid, ⟨previous, sequence⟩, hchain, hseq, hprev, henvelope⟩ := hok
  obtain ⟨hp, hq, hc⟩ := validateArchiveChain_ok hvalid.gapsSorted hchain
  refine ⟨hvalid, hsame, hc, hseq.symm.trans hq, hprev.symm.trans hp, ?_⟩
  cases hlast : a.records.getLast? with
  | none => exact absurd (List.getLast?_eq_none_iff.1 hlast) hne
  | some r =>
    rw [hlast, Option.any_some, decide_eq_true_eq] at henvelope
    exact henvelope.symm

theorem imported_gaps (h : OutcomeJournalHead) (a : OutcomeJournalArchive) : (h.imported a).gaps = a.head.gaps := by
  simp [OutcomeJournalHead.imported, OutcomeJournalHead.gaps]

theorem ValidHead.imported (hvalid : ValidHead a.head) (hshape : HeadShape h) (hidle : h.pendingSequence = 0) :
    ValidHead (h.imported a) := by
  refine ⟨{ hshape with }, hvalid.last, ?_, ?_, fun hne => absurd hidle hne⟩ <;> rw [imported_gaps]
  · exact hvalid.gapsPos
  · exact hvalid.gapsSorted

/-- An archive as a journal exports it: its records are records of this schema, their generations do not go back,
none of them is a gap, and the gaps after the last one follow it without a hole. -/
structure WholeArchive (a : OutcomeJournalArchive) : Prop where
  schema : ∀ r ∈ a.records, r.schema = outcomeJournalSchema
  epochs : a.records.Pairwise (·.epoch ≤ ·.epoch)
  disjoint : ∀ r ∈ a.records, r.sequence ∉ a.head.gaps
  tail : (a.head.gaps.filter (a.head.lastSequence < ·)).map UInt64.toNat =
    List.range' (a.head.lastSequence.toNat + 1) (a.head.gaps.filter (a.head.lastSequence < ·)).length

/-- The last of the numbers that follow `last` one by one. -/
theorem toNat_getLastD {last : UInt64} {l : List UInt64}
    (hl : l.map UInt64.toNat = List.range' (last.toNat + 1) l.length) :
    (l.getLastD last).toNat = last.toNat + l.length := by
  cases l with
  | nil => rfl
  | cons g l =>
    have hmap := congrArg List.getLast? hl
    rw [List.getLast?_map, List.getLast?_range', if_neg (by simp), List.getLast?_cons, Option.map_some,
      Option.some.injEq] at hmap
    rw [List.getLastD_cons, List.getLastD_eq_getLast?, hmap, List.length_cons]
    omega

theorem AcceptedArchive.history (ha : AcceptedArchive P own a) (hw : WholeArchive a) :
    ∃ top, History P a.records a.head.gaps top := by
  obtain ⟨tail, htail⟩ : ∃ tail, tail = a.head.gaps.filter (a.head.lastSequence < ·) := ⟨_, rfl⟩
  have hmem : ∀ {n}, n ∈ tail ↔ n ∈ a.head.gaps ∧ a.head.lastSequence < n := by simp [htail]
  have hsortedTail : tail.Pairwise (· < ·) := htail ▸ ha.valid.gapsSorted.filter _
  have hconsecutive := hw.tail
  rw [← htail] at hconsecutive
  have hlast := toNat_getLastD hconsecutive
  -- the highest number is the last record or the last gap after it
  refine ⟨tail.getLastD a.head.lastSequence, ha.chain.sorted, hw.epochs, ha.chain.linked,
    hw.disjoint, fun n => ⟨?_, ?_⟩, fun r hr => (ha.chain.checked r hr).1.gapDigest⟩
  · have hlastTop : a.head.lastSequence ≤ tail.getLastD a.head.lastSequence := by
      rw [UInt64.le_iff_toNat_le, hlast]
      exact Nat.le_add_right _ _
    rintro (⟨r, hr, rfl⟩ | hgap)
    · refine ⟨ha.chain.above r hr, le_trans ?_ hlastTop⟩
      rw [ha.last]
      exact le_lastOf_of_sorted ha.chain.sorted hr
    · refine ⟨ha.valid.gapsPos n hgap, ?_⟩
      by_cases hn : a.head.lastSequence < n
      · exact le_getLastD hsortedTail (hmem.2 ⟨hgap, hn⟩)
      · exact (not_lt.1 hn).trans hlastTop
  · rintro ⟨hpos, hle⟩
    by_cases hn : a.head.lastSequence < n
    · right
      have hrange : n.toNat ∈ tail.map UInt64.toNat := by
        rw [UInt64.lt_iff_toNat_lt] at hn
        rw [UInt64.le_iff_toNat_le, hlast] at hle
        rw [hconsecutive, List.mem_range'_1]
        omega
      obtain ⟨g, hg, hgn⟩ := List.mem_map.1 hrange
      rw [← UInt64.toNat_inj.1 hgn]
      exact (hmem.1 hg).1
    · rw [not_lt, ha.last] at hn
      exact ha.chain.filled n hpos hn

end OpenFox.Earning
