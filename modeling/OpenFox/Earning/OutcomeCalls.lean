/-
What the calls of the journal do, whatever happens to their disk operations: for each call the states it can end,
fail or crash in. The disk is behind the memory by at most the call that was interrupted.
-/
import OpenFox.Earning.OutcomeHead
import OpenFox.Earning.OutcomeRecorder

namespace OpenFox.Earning

open OpenFox.Go OpenFox.Base Prog

variable {P : OutcomeProtocol} {F : Fault → Prop} {s : OutcomeJournal}

def Faulty (F : Fault → Prop) : Prop := ∃ reach, F (.fails reach)

/-! ## Persisting the head -/

/-- A valid head in memory was being written: the disk has the old one or this one. -/
structure Persisted (s s' : OutcomeJournal) : Prop where
  lock : s.lock = true
  valid : ValidHead s.head
  disk : s' = s ∨ s' = s.storeHead s.head

theorem persistHead_spec :
    After F persistHead s (fun _ s' => s' = s.storeHead s.head ∧ ValidHead s.head ∧ s.lock = true)
    (fun s' => s' = s ∧ (¬ ValidHead s.head ∨ s.lock = false) ∨ Faulty F ∧ Persisted s s') (Persisted s) := by
  refine after_bind (after_read (after_bind (after_lift (fun _ hvalid => ?_) fun msg herr => ?_)))
  · rw [validateOutcomeJournalHead_ok] at hvalid
    refine after_bind (after_lift (fun _ hlock => ?_) fun msg herr => ?_)
    · rw [refuse_ok, Bool.not_eq_false] at hlock
      refine after_atomic ⟨rfl, hvalid, hlock⟩ (fun hfault => ?_) fun _ => ?_
      · exact ⟨.inr ⟨hfault, hlock, hvalid, .inl rfl⟩, .inr ⟨hfault, hlock, hvalid, .inr rfl⟩⟩
      · exact ⟨⟨hlock, hvalid, .inl rfl⟩, hlock, hvalid, .inr rfl⟩
    · exact .inl ⟨rfl, .inr (refuse_error.1 herr).1⟩
  · refine .inl ⟨rfl, .inl fun hvalid => ?_⟩
    rw [validateOutcomeJournalHead_ok.2 hvalid] at herr
    cases herr

/-- A head that is refused leaves everything as it was; one that is not is stored, or a fault leaves the old one. -/
theorem persistHead_after {done : Unit → OutcomeJournal → Prop} {failed crashed : OutcomeJournal → Prop}
    (hrefused : ¬ ValidHead s.head ∨ s.lock = false → failed s)
    (hstored : ValidHead s.head → done () (s.storeHead s.head) ∧ (Faulty F → failed s ∧ failed (s.storeHead s.head)) ∧
      crashed s ∧ crashed (s.storeHead s.head)) : After F persistHead s done failed crashed := by
  refine persistHead_spec.mono ?_ ?_ ?_
  · rintro _ _ ⟨rfl, hvalid, -⟩
    exact (hstored hvalid).1
  · rintro _ (⟨rfl, hno⟩ | ⟨hfault, -, hvalid, rfl | rfl⟩)
    · exact hrefused hno
    · exact ((hstored hvalid).2.1 hfault).1
    · exact ((hstored hvalid).2.1 hfault).2
  · rintro _ ⟨-, hvalid, rfl | rfl⟩
    · exact (hstored hvalid).2.2.1
    · exact (hstored hvalid).2.2.2

/-! ## Reserve -/

def reservedHead (head : OutcomeJournalHead) : OutcomeJournalHead := { head with pendingSequence := nextSequence head }

/-- `Reserve` went through its checks. -/
structure Reservable (P : OutcomeProtocol) (s : OutcomeJournal) (fence : SignedFence) (now : Time) : Prop where
  writer : currentWriter P s fence now = .ok ()
  idle : s.head.pendingSequence = 0

variable {s' : OutcomeJournal} {name : RecordName} {file : RecordFile} {request : CommitRequest}
  {head h : OutcomeJournalHead} {fence : SignedFence} {now : Time}

theorem Reservable.lock (hres : Reservable P s fence now) : s.lock = true := by
  have hwriter := hres.writer
  simp only [currentWriter, peel, passed] at hwriter
  exact hwriter.1.1

theorem reset_reserved (hidle : s.head.pendingSequence = 0) :
    (s.setHead (reservedHead s.head)).setHead { (reservedHead s.head) with pendingSequence := 0 } = s := by
  obtain ⟨d, h, l, a⟩ := s
  cases h
  cases hidle
  rfl

/-- `Reserve` that fails leaves the memory as it was; the disk may have the reservation. -/
theorem reserve_spec : After F (reserve P fence now) s
    (fun next s' => Reservable P s fence now ∧ next = nextSequence s.head ∧ ValidHead (reservedHead s.head) ∧
      s' = (s.setHead (reservedHead s.head)).storeHead (reservedHead s.head))
    (fun s' => s' = s ∨ Faulty F ∧ Reservable P s fence now ∧ ValidHead (reservedHead s.head) ∧
      s' = s.storeHead (reservedHead s.head))
    (fun s' => Reservable P s fence now ∧ Persisted (s.setHead (reservedHead s.head)) s') := by
  refine after_bind (after_read (after_check (.inl rfl) fun _ hwriter => ?_))
  refine after_check (.inl rfl) fun _ hidle => ?_
  rw [refuse_ok, not_not] at hidle
  have hres : Reservable P s fence now := ⟨hwriter, hidle⟩
  refine after_bind (after_modify (after_bind (after_attempt (persistHead_spec.mono ?_ ?_ ?_))))
  · rintro _ s' ⟨rfl, hvalid, -⟩
    exact after_pure ⟨hres, rfl, hvalid, rfl⟩
  · intro s' hs' msg
    refine after_bind (after_modify (after_fail ?_))
    rcases hs' with ⟨rfl, -⟩ | ⟨hfault, -, hvalid, rfl | rfl⟩
    · exact .inl (reset_reserved hidle)
    · exact .inl (reset_reserved hidle)
    · exact .inr ⟨hfault, hres, hvalid, congrArg (·.storeHead (reservedHead s.head)) (reset_reserved hidle)⟩
  · exact fun s' hs' => ⟨hres, hs'⟩

/-! ## AbortReserved -/

def abortedHead (head : OutcomeJournalHead) : OutcomeJournalHead :=
  { head with gapSequences := head.gapSequences.push head.pendingSequence, pendingSequence := 0 }

/-- `AbortReserved` always gives the sequence up in memory. -/
theorem abortReserved_spec {sequence : UInt64} : After F (abortReserved sequence) s
    (fun _ s' => s.head.pendingSequence = sequence ∧ sequence ≠ 0 ∧ s.lock = true ∧
      s' = (s.setHead (abortedHead s.head)).storeHead (abortedHead s.head))
    (fun s' => (s' = s ∧ ¬ (s.head.pendingSequence = sequence ∧ sequence ≠ 0)) ∨
      s.head.pendingSequence = sequence ∧ sequence ≠ 0 ∧
        (s' = s.setHead (abortedHead s.head) ∧ (¬ ValidHead (abortedHead s.head) ∨ s.lock = false) ∨
          Faulty F ∧ Persisted (s.setHead (abortedHead s.head)) s'))
    (fun s' => s.head.pendingSequence = sequence ∧ sequence ≠ 0 ∧ Persisted (s.setHead (abortedHead s.head)) s') := by
  refine after_bind (after_read (after_bind (after_lift (fun _ hmatch => ?_) fun _ herr => ?_)))
  · rw [refuse_ok, not_or, not_not] at hmatch
    obtain ⟨rfl, hne⟩ := hmatch
    refine after_bind (after_modify (persistHead_spec.mono ?_ ?_ ?_))
    · rintro _ s' ⟨rfl, -, hlock⟩
      exact ⟨rfl, hne, hlock, rfl⟩
    · exact fun s' hs' => .inr ⟨rfl, hne, hs'⟩
    · exact fun s' hs' => ⟨rfl, hne, hs'⟩
  · refine .inl ⟨rfl, fun hmatch => ?_⟩
    rcases (refuse_error.1 herr).1 with hne | hzero
    · exact hne hmatch.1
    · exact hmatch.2 hzero

/-! ## Commit -/

/-- The record a commit is about to write. -/
structure Committable (P : OutcomeProtocol) (s : OutcomeJournal) (request : CommitRequest)
    (record : OutcomeJournalRecord) :
    Prop where
  lock : s.lock = true
  pending : s.head.pendingSequence = request.sequence
  nonzero : request.sequence ≠ 0
  admitted : ∃ admission, request.admission = some admission ∧ admittedRecord P s.head request admission = .ok record
  absent : s.directory.records.get? (record.epoch, record.sequence) = none

/-- The directory after as much of the record file as was written. -/
def recordWritten (s : OutcomeJournal) (record : OutcomeJournalRecord) : Reach → OutcomeJournal
  | .nothing => s
  | .partly bytes => s.putRecord (record.epoch, record.sequence) (.torn bytes)
  | .wholly => s.putRecord (record.epoch, record.sequence) (.whole record)

def recordCommitted (s : OutcomeJournal) (record : OutcomeJournalRecord) : OutcomeJournal :=
  (s.putRecord (record.epoch, record.sequence) (.whole record)).setHead (s.head.advance record)

/-- How a commit can fail. -/
inductive CommitFailed (P : OutcomeProtocol) (F : Fault → Prop) (s : OutcomeJournal) (request : CommitRequest) :
    OutcomeJournal → Prop
  | refused : CommitFailed P F s request s
  | atRecord {record : OutcomeJournalRecord} {reach : Reach} (hF : F (.fails reach))
    (hc : Committable P s request record) :
    CommitFailed P F s request (recordWritten s record reach)
  | invalid {record : OutcomeJournalRecord} (hc : Committable P s request record)
    (hinvalid : ¬ ValidHead (s.head.advance record)) :
    CommitFailed P F s request (recordCommitted s record)
  | atHead {record : OutcomeJournalRecord} {s' : OutcomeJournal} (hF : Faulty F) (hc : Committable P s request record)
    (hs' : Persisted (recordCommitted s record) s') : CommitFailed P F s request s'

/-- Where a crash can leave a commit. -/
inductive CommitCrashed (P : OutcomeProtocol) (F : Fault → Prop) (s : OutcomeJournal) (request : CommitRequest) :
    OutcomeJournal → Prop
  | atRecord {record : OutcomeJournalRecord} {reach : Reach} (hF : F (.crashes reach))
    (hc : Committable P s request record) :
    CommitCrashed P F s request (recordWritten s record reach)
  | atHead {record : OutcomeJournalRecord} {s' : OutcomeJournal} (hc : Committable P s request record)
    (hs' : Persisted (recordCommitted s record) s') : CommitCrashed P F s request s'

theorem commit_spec :
    After F (commit P request) s (fun record s' => Committable P s request record ∧ ValidHead (s.head.advance record) ∧
      s' = { (recordCommitted s record).storeHead (s.head.advance record) with acknowledged := s.acknowledged ++
        [record] })
    (CommitFailed P F s request) (CommitCrashed P F s request) := by
  refine after_bind (after_read ?_)
  cases hadmission : request.admission with
  | none => exact after_fail .refused
  | some admission =>
    refine after_check .refused fun _ hready => ?_
    rw [refuse_ok, not_or, not_or, Bool.not_eq_false, not_not] at hready
    refine after_check .refused fun record hrecord => ?_
    refine after_bind (after_bind (after_read (after_check .refused fun _ hfree => ?_)))
    rw [refuse_ok, Bool.not_eq_true, Map.has_false_iff] at hfree
    have hc : Committable P s request record :=
      ⟨hready.1, hready.2.1, hready.2.2, ⟨admission, hadmission, hrecord⟩, hfree⟩
    refine after_disk ?_ (fun reach hF => ?_) fun reach hF => ?_
    · refine after_bind (after_modify (after_bind (persistHead_spec.mono ?_ ?_ ?_)))
      · rintro _ s' ⟨rfl, hvalid, -⟩
        exact after_bind (after_modify (after_pure ⟨hc, hvalid, rfl⟩))
      · rintro s' (⟨rfl, hinvalid | hlock⟩ | ⟨hfault, hs'⟩)
        · exact .invalid hc hinvalid
        · cases hlock.symm.trans hc.lock
        · exact .atHead hfault hc hs'
      · exact fun s' hs' => .atHead hc hs'
    · cases reach <;> exact .atRecord hF hc
    · cases reach <;> exact .atRecord hF hc

/-- What an admitted record says, as far as the head decides it. -/
structure Admitted (P : OutcomeProtocol) (head : OutcomeJournalHead) (request : CommitRequest)
    (admission : OutcomeJournalAppendAdmission) (record : OutcomeJournalRecord) : Prop where
  schema : record.schema = outcomeJournalSchema
  epoch : record.epoch = head.writerGeneration
  sequence : record.sequence = request.sequence
  previous : record.previousRecordChecksum = head.lastRecordChecksum
  envelope : record.envelope = request.envelope
  domain : record.envelope.body.orderingDomain = head.orderingDomain
  checksum : outcomeRecordChecksum P record = .ok record.recordChecksum
  size : P.recordBytes record ≤ maxOutcomeJournalRecordBytes
  envelopeDigest : P.envelopeDigest record.envelope = .ok record.operationEnvelopeDigest
  appendRequest : record.journalAppendRequest = some admission.request
  gapDigest : P.gapSetDigest head.gapSequences = .ok admission.request.gapSetDigest
  owner : admission.action.ownerID = head.ownerID
  agent : admission.action.agentID = head.agentID

variable {record : OutcomeJournalRecord} {admission : OutcomeJournalAppendAdmission}

theorem admittedRecord_ok (h : admittedRecord P head request admission = .ok record) :
    Admitted P head request admission record := by
  simp only [admittedRecord, admitAppend, peel, not_lt, passed] at h
  obtain ⟨⟨-, hdomain, -, -⟩, body, -, -, envelopeDigest, henvelope, identity, -, -, admitted,
    ⟨gapDigest, hgap, _, -, _, -, _, -, hrequest, ⟨-, -, -, -, howner, hagent⟩, rfl⟩, checksum, hchecksum,
    hsize, rfl⟩ := h
  exact ⟨rfl, rfl, rfl, rfl, rfl, hdomain, hchecksum, hsize, henvelope, rfl, by rw [hrequest]; exact hgap,
    howner, hagent⟩

theorem ValidHead.aborted (hv : ValidHead h) (hne : h.pendingSequence ≠ 0) : ValidHead (abortedHead h) := by
  obtain ⟨hlast, hgaps⟩ := hv.pending hne
  refine ⟨{ hv.shape with }, hv.last, ?_, ?_, fun hpending => absurd rfl hpending⟩
  · exact List.forall_mem_append.2 ⟨hv.gapsPos,
      List.forall_mem_singleton.2 (lt_of_le_of_lt UInt64.zero_le hlast)⟩
  · exact List.pairwise_append.2 ⟨hv.gapsSorted, List.pairwise_singleton _ _, fun g hg g' hg' => by
      rw [List.mem_singleton.1 hg']; exact hgaps g hg⟩

theorem ValidHead.advance (hv : ValidHead h) (hne : record.sequence ≠ 0)
    (hcanon : CanonicalDigests P) (henvelope : P.envelopeDigest record.envelope = .ok record.operationEnvelopeDigest)
    (hchecksum : outcomeRecordChecksum P record = .ok record.recordChecksum) : ValidHead (h.advance record) :=
  { hv with
    shape := { hv.shape with }
    last := .inr ⟨hne, hcanon.envelope henvelope, hcanon.record hchecksum⟩
    pending := absurd rfl }

/-! ## Opening -/

/-- Some records that are not committed may be gone; nothing else is touched. -/
structure Tidied (P : OutcomeProtocol) (head : OutcomeJournalHead) (s s' : OutcomeJournal) : Prop where
  rest : s' = { s with directory := { s.directory with records := s'.directory.records } }
  records : ∀ name, s'.directory.records.get? name = s.directory.records.get? name ∨
    s'.directory.records.get? name = none ∧
      ∃ file, s.directory.records.get? name = some file ∧ committedFile P head name file = false

theorem Tidied.refl (head : OutcomeJournalHead) (s : OutcomeJournal) : Tidied P head s s := ⟨rfl, fun _ => .inl rfl⟩

theorem Tidied.exists (h : Tidied P head s s') :
    ∃ records, s' = { s with directory := { s.directory with records := records } } :=
  ⟨_, h.rest⟩

theorem Tidied.kept (h : Tidied P head s s')
    (hfile : s'.directory.records.get? name = some file) : s.directory.records.get? name = some file := by
  rcases h.records name with heq | ⟨hnone, -⟩
  · rw [← heq]; exact hfile
  · rw [hnone] at hfile; cases hfile

theorem Tidied.committed (h : Tidied P head s s')
    (hfile : s.directory.records.get? name = some file) (hc : committedFile P head name file = true) :
    s'.directory.records.get? name = some file := by
  rcases h.records name with heq | ⟨-, file', hfile', hc'⟩
  · rw [heq]; exact hfile
  · rw [hfile'] at hfile
    cases hfile
    rw [hc] at hc'
    cases hc'

theorem Tidied.drop (h : Tidied P head s s')
    (hfile : s.directory.records.get? name = some file) (hc : committedFile P head name file = false) :
    Tidied P head s (s'.dropRecord name) where
  rest := by rw [h.rest]; rfl
  records name' := by
    show (s'.directory.records.delete name).get? name' = _ ∨ (s'.directory.records.delete name).get? name' = none ∧ _
    rw [Map.get?_delete]
    by_cases hname : name' = name
    · subst hname
      rw [if_pos rfl]
      exact .inr ⟨rfl, file, hfile, hc⟩
    · rw [if_neg hname]
      exact h.records name'

def Oversized (P : OutcomeProtocol) (file : RecordFile) : Prop :=
  ∃ record, file = .whole record ∧ maxOutcomeJournalRecordBytes < P.recordBytes record

/-- Every entry the loop has passed is gone or committed. -/
def Swept (P : OutcomeProtocol) (head : OutcomeJournalHead) (visited : List ((_ : RecordName) × RecordFile))
    (s : OutcomeJournal) : Prop :=
  ∀ e ∈ visited, committedFile P head e.1 e.2 = true ∨ s.directory.records.get? e.1 = none

theorem quarantineRecord_spec {start : OutcomeJournal} {e : (_ : RecordName) × RecordFile}
    {visited : List ((_ : RecordName) × RecordFile)} (he : start.directory.records.get? e.1 = some e.2)
    (hs : Tidied P head start s ∧ Swept P head visited s) : After F (quarantineRecord P head e) s
    (fun _ s' => Tidied P head start s' ∧ Swept P head (visited ++ [e]) s')
    (fun s' => Tidied P head start s' ∧ (Faulty F ∨ Oversized P e.2)) (Tidied P head start) := by
  have hrest : After F (if committedFile P head e.1 e.2 = true then pure () else do
      syncDirectory
      atomic (·.dropRecord e.1)) s (fun _ s' => Tidied P head start s' ∧ Swept P head (visited ++ [e]) s')
      (fun s' => Tidied P head start s' ∧ (Faulty F ∨ Oversized P e.2)) (Tidied P head start) := by
    by_cases hc : committedFile P head e.1 e.2 = true
    · rw [if_pos hc]
      exact after_pure ⟨hs.1, List.forall_mem_append.2 ⟨hs.2, List.forall_mem_singleton.2 (.inl hc)⟩⟩
    · rw [if_neg hc]
      rw [Bool.not_eq_true] at hc
      refine after_bind (after_atomic ?_ (fun hfault => ⟨⟨hs.1, .inl hfault⟩, hs.1, .inl hfault⟩) fun _ => ⟨hs.1, hs.1⟩)
      refine after_atomic
        ⟨hs.1.drop he hc, List.forall_mem_append.2 ⟨fun e' he' => ?_, List.forall_mem_singleton.2 (.inr ?_)⟩⟩
        (fun hfault => ⟨⟨hs.1, .inl hfault⟩, hs.1.drop he hc, .inl hfault⟩) fun _ => ⟨hs.1, hs.1.drop he hc⟩
      · refine (hs.2 e' he').imp id fun hnone => ?_
        show (s.directory.records.delete e.1).get? e'.1 = none
        rw [Map.get?_delete]
        split
        · rfl
        · exact hnone
      · show (s.directory.records.delete e.1).get? e.1 = none
        rw [Map.get?_delete, if_pos rfl]
  rcases e with ⟨name, file⟩
  cases file with
  | torn => exact hrest
  | whole record =>
    refine after_bind (after_lift (fun _ _ => hrest) fun _ herr => ⟨hs.1, .inr ⟨record, rfl, ?_⟩⟩)
    exact (refuse_error.1 herr).1

/-- The directory is not one that the head commits; only then can reconciling fail on a disk that works. -/
inductive Irreconcilable (P : OutcomeProtocol) (head : OutcomeJournalHead) (d : OutcomeDirectory) : Prop
  | oversized {name : RecordName} {file : RecordFile} (hfile : d.records.get? name = some file)
    (hsize : Oversized P file)
  | headless (hlast : head.lastSequence ≠ 0) (hmissing : committedHeadFound P head d.records.entries = false)
  | broken (hchain : durableChain head.gaps ((sortSlice (fun a b => nameLess a.1 b.1)
      (d.records.entries.filter fun e => committedFile P head e.1 e.2)).map (·.2)) "" 0 ≠ .ok head.lastRecordChecksum)

/-- Reconciling only removes records that are not committed, and does not stop before all of them are gone. -/
theorem reconcileDurableRecords_spec : After F (reconcileDurableRecords P head) s (fun _ s' => Tidied P head s s' ∧
      ∀ name file, s'.directory.records.get? name = some file → committedFile P head name file = true)
    (fun s' => Tidied P head s s' ∧ (Faulty F ∨ Irreconcilable P head s.directory)) (Tidied P head s) := by
  refine after_bind (after_read (after_bind ?_))
  refine (after_forEach (fun visited s' => Tidied P head s s' ∧ Swept P head visited s') s.directory.records.entries
    (fun visited e rest s' hall hs' => ?_) _ [] s rfl ⟨.refl _ _, by simp [Swept]⟩).imp ?_
  · have he : s.directory.records.get? e.1 = some e.2 := Map.mem_entries.1 (hall ▸ by simp)
    exact (quarantineRecord_spec he hs').mono (fun _ _ h => h) (fun _ h => ⟨h.1, h.2.imp id (.oversized he)⟩)
      fun _ h => h
  · rintro _ s' ⟨htidy, hall⟩
    refine after_bind (after_lift (fun _ _ => ?_) fun _ herr => ⟨htidy, .inr ?_⟩)
    · refine after_bind (after_lift (fun checksum hchain => ?_) fun _ herr => ⟨htidy, .inr (.broken ?_)⟩)
      · refine after_bind (after_lift (fun _ _ => ?_) fun _ herr => ⟨htidy, .inr (.broken ?_)⟩)
        · refine after_atomic ⟨htidy, fun name file hfile => ?_⟩
            (fun hfault => ⟨⟨htidy, .inl hfault⟩, htidy, .inl hfault⟩) fun _ => ⟨htidy, htidy⟩
          have hold : s.directory.records.get? name = some file := htidy.kept hfile
          rcases hall ⟨name, file⟩ (Map.mem_entries.2 hold) with hc | hnone
          · exact hc
          · replace hfile : s'.directory.records.get? name = some file := hfile
            rw [show s'.directory.records.get? name = none from hnone] at hfile
            cases hfile
        · rw [hchain]
          exact fun heq => (refuse_error.1 herr).1 (Except.ok.inj heq)
      · rw [herr]
        exact fun heq => by cases heq
    · obtain ⟨hlast, hmissing⟩ := (refuse_error.1 herr).1
      exact .headless hlast hmissing

/-! ## Events -/

def unlocked (s : OutcomeJournal) : OutcomeJournal := { s with lock := false }

/-- The call leaves `I`, and so does the restart after a crash. -/
abbrev Leaves (F : Fault → Prop) (I : OutcomeJournal → Prop) {α : Type} (x : Call α) (s : OutcomeJournal) : Prop :=
  After F x s (fun _ => I) I fun s' => I (unlocked s')

/-- What a call leaves in all its outcomes holds after the event. -/
theorem step_of_after {id : JournalIdentity} {I : OutcomeJournal → Prop} {e : OutcomeEvent}
    (h : Leaves F I (e.call.prog P id) s) (hfaults : ∀ f ∈ e.faults, F f) : I (s.step P id e) := by
  obtain ⟨-, hresult⟩ := h e.faults hfaults
  unfold OutcomeJournal.step
  rcases hw : e.call.prog P id ⟨s, e.faults⟩ with ⟨r, w⟩
  rw [hw] at hresult
  rcases r with (msg | _) | _
  · exact hresult
  · exact hresult.2
  · exact hresult

end OpenFox.Earning
