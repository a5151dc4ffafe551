/-
Export and import of an outcome journal. What an open journal exports is accepted by an empty journal of the same
identity and reads back the same there; the next append is accepted alike exactly if the gap list is not empty, because
an empty list comes back as a nil one and the recorder and `Commit` then take the digest of different lists.
-/
import OpenFox.Earning.OutcomeSurvival

namespace OpenFox.Earning

open OpenFox.Go OpenFox.Base OpenFox.Commerce Prog

variable {P : OutcomeProtocol} {own h h' : OutcomeJournalHead} {F : Fault → Prop} {s : OutcomeJournal}

/-! ## What heads and files say in every run -/

/-- The envelope digest and the checksum of the head are those of one record. -/
def Named (P : OutcomeProtocol) (h : OutcomeJournalHead) : Prop :=
  h.lastSequence = 0 ∨
    ∃ r, outcomeRecordChecksum P r = .ok h.lastRecordChecksum ∧ r.operationEnvelopeDigest = h.lastEnvelopeDigest

structure TraceableDirectory (P : OutcomeProtocol) (own : OutcomeJournalHead) (d : OutcomeDirectory) : Prop where
  head : ∀ h, d.head = some h → Named P h
  files : ∀ name r, d.records.get? name = some (.whole r) →
    (r.epoch, r.sequence) = name ∧ r.envelope.body.orderingDomain = own.orderingDomain

/-- An invariant of every run, whatever the disk does. -/
structure Traceable (P : OutcomeProtocol) (own : OutcomeJournalHead) (s : OutcomeJournal) : Prop where
  directory : TraceableDirectory P own s.directory
  memory : s.lock = true → ValidHead s.head ∧ sameIdentity s.head own ∧ Named P s.head

/-- Every call keeps the invariant, and so does the restart after a crash. -/
abbrev KeepsTrace (P : OutcomeProtocol) (own : OutcomeJournalHead) (F : Fault → Prop) {α : Type} (x : Call α) : Prop :=
  Keeps F (Traceable P own) (fun s => Traceable P own (unlocked s)) x

variable {mine : OutcomeJournalHead} {d' d : OutcomeDirectory} {id : JournalIdentity} {generation : UInt64}
  {name : RecordName} {file : RecordFile} {c : String}

section
variable {d : OutcomeDirectory}

section
variable (hd : TraceableDirectory P own d)
include hd

theorem TraceableDirectory.storeHead (hn : Named P h) : TraceableDirectory P own { d with head := some h } :=
  ⟨fun h' hh' => by cases hh'; exact hn, hd.files⟩

theorem TraceableDirectory.put
    (hfile : ∀ r, file = .whole r → (r.epoch, r.sequence) = name ∧
      r.envelope.body.orderingDomain = own.orderingDomain) :
    TraceableDirectory P own { d with records := d.records.put name file } where
  head := hd.head
  files name' r hr := by
    obtain ⟨rfl, hsame⟩ | hr := Map.put_cases hr
    · exact hfile r hsame
    · exact hd.files name' r hr

theorem TraceableDirectory.fewer (hhead : d'.head = d.head)
    (hfiles : ∀ name file, d'.records.get? name = some file → d.records.get? name = some file) :
    TraceableDirectory P own d' :=
  ⟨fun h hh => hd.head h (hhead ▸ hh), fun name r hr => hd.files name r (hfiles name _ hr)⟩

end

end

theorem Traceable.closed (hs : Traceable P own s) : Traceable P own (unlocked s) :=
  ⟨hs.directory, fun hopen => absurd hopen Bool.false_ne_true⟩

variable {r : OutcomeJournalRecord}

theorem Traceable.persisted (hs : Traceable P own s)
    (hh : s.lock = true → ValidHead h ∧ sameIdentity h own ∧ Named P h) {s' : OutcomeJournal}
    (hp : Persisted (s.setHead h) s') :
    Traceable P own s' := by
  obtain ⟨hlock, -, rfl | rfl⟩ := hp
  · exact ⟨hs.directory, hh⟩
  · exact ⟨hs.directory.storeHead (hh hlock).2.2, hh⟩

theorem keepsTrace_persistHead : KeepsTrace P own F persistHead := by
  intro s hs
  refine persistHead_spec.mono ?_ ?_ ?_
  · rintro _ s' ⟨rfl, hvalid, hlock⟩
    exact hs.persisted hs.memory ⟨hlock, hvalid, .inr rfl⟩
  · rintro s' (⟨rfl, -⟩ | ⟨-, hp⟩)
    · exact hs
    · exact hs.persisted hs.memory hp
  · exact fun s' hp => (hs.persisted hs.memory hp).closed

theorem keepsTrace_reserve {fence : SignedFence} {now : Time} : KeepsTrace P own F (reserve P fence now) := by
  intro s hs
  have hreserved : ValidHead (reservedHead s.head) → s.lock = true →
      ValidHead (reservedHead s.head) ∧ sameIdentity (reservedHead s.head) own ∧ Named P (reservedHead s.head) :=
    fun hvalid hlock => ⟨hvalid, (hs.memory hlock).2.1, (hs.memory hlock).2.2⟩
  refine reserve_spec.mono ?_ ?_ ?_
  · rintro next s' ⟨hres, -, hvalid, rfl⟩
    exact hs.persisted (hreserved hvalid) ⟨hres.lock, hvalid, .inr rfl⟩
  · rintro s' (rfl | ⟨-, hres, hvalid, rfl⟩)
    · exact hs
    · exact ⟨hs.directory.storeHead (hs.memory hres.lock).2.2, hs.memory⟩
  · exact fun s' ⟨_, hp⟩ => (hs.persisted (hreserved hp.valid) hp).closed

theorem keepsTrace_abortReserved {sequence : UInt64} : KeepsTrace P own F (abortReserved sequence) := by
  intro s hs
  have haborted : s.head.pendingSequence ≠ 0 → s.lock = true →
      ValidHead (abortedHead s.head) ∧ sameIdentity (abortedHead s.head) own ∧ Named P (abortedHead s.head) :=
    fun hne hlock => ⟨(hs.memory hlock).1.aborted hne, (hs.memory hlock).2.1, (hs.memory hlock).2.2⟩
  refine abortReserved_spec.mono ?_ ?_ ?_
  · rintro _ s' ⟨rfl, hne, hlock, rfl⟩
    exact hs.persisted (haborted hne) ⟨hlock, (haborted hne hlock).1, .inr rfl⟩
  · rintro s' (⟨rfl, -⟩ | ⟨rfl, hne, ⟨rfl, -⟩ | ⟨-, hp⟩⟩)
    · exact hs
    · exact ⟨hs.directory, haborted hne⟩
    · exact hs.persisted (haborted hne) hp
  · rintro s' ⟨rfl, hne, hp⟩
    exact (hs.persisted (haborted hne) hp).closed

theorem keepsTrace_commit (hcanon : CanonicalDigests P) {request : CommitRequest} :
    KeepsTrace P own F (commit P request) := by
  intro s hs
  have hwritten : ∀ {record} (reach), Committable P s request record →
      Traceable P own (recordWritten s record reach) := by
    intro record reach hc
    obtain ⟨admission, -, hadmitted⟩ := hc.admitted
    have hdomain := (admittedRecord_ok hadmitted).domain.trans (hs.memory hc.lock).2.1.2.2.2.1
    cases reach with
    | nothing => exact hs
    | partly bytes =>
      refine ⟨hs.directory.put fun r hr => ?_, hs.memory⟩
      cases hr
    | wholly =>
      refine ⟨hs.directory.put fun r hr => ?_, hs.memory⟩
      cases hr
      exact ⟨rfl, hdomain⟩
  have hadvanced : ∀ {record}, Committable P s request record → s.lock = true →
      ValidHead (s.head.advance record) ∧ sameIdentity (s.head.advance record) own ∧
        Named P (s.head.advance record) := by
    intro record hc hlock
    obtain ⟨admission, -, hadmitted⟩ := hc.admitted
    have hr := admittedRecord_ok hadmitted
    exact ⟨(hs.memory hlock).1.advance (hr.sequence ▸ hc.nonzero) hcanon hr.envelopeDigest hr.checksum,
      (hs.memory hlock).2.1, .inr ⟨record, hr.checksum, rfl⟩⟩
  have hcommitted : ∀ {record s'}, Committable P s request record → Persisted (recordCommitted s record) s' →
      Traceable P own s' := fun {record s'} hc hp => (hwritten .wholly hc).persisted (hadvanced hc) hp
  refine commit_spec.mono ?_ ?_ ?_
  · rintro record s' ⟨hc, hvalid, rfl⟩
    have hp := hcommitted hc ⟨hc.lock, hvalid, .inr rfl⟩
    exact ⟨hp.directory, hp.memory⟩
  · intro s' hfailed
    cases hfailed with
    | refused => exact hs
    | atRecord hF hc => exact hwritten _ hc
    | invalid hc hinvalid => exact absurd (hadvanced hc hc.lock).1 hinvalid
    | atHead hF hc hp => exact hcommitted hc hp
  · intro s' hcrashed
    cases hcrashed with
    | atRecord hF hc => exact (hwritten _ hc).closed
    | atHead hc hp => exact (hcommitted hc hp).closed

theorem keepsTrace_record (hcanon : CanonicalDigests P) {recorder : JournalOutcomeRecorder}
    {authority : AppendAuthority} {action : SignedAction} {resolution : ActionResolution} {observedAt : Time} :
    KeepsTrace P own F (recordActionResolution P recorder authority action resolution observedAt) := by
  refine keeps_bind (keeps_lift _) fun _ => keeps_bind (keeps_lift _) fun _ => keeps_bind (keeps_lift _) fun _ =>
    keeps_bind (keeps_lift _) fun _ => keeps_read_bind fun s hs => ?_
  refine keeps_bind (keeps_lift _) (fun _ => keeps_bind (keeps_lift _) fun found => ?_) s hs
  cases found with
  | some record => exact keeps_lift _
  | none =>
    refine keeps_bind (keeps_lift _) fun ⟨contentID, eventPayload, artifacts⟩ =>
      keeps_bind keepsTrace_reserve fun sequence => ?_
    refine keeps_bind (keeps_attempt ?_) fun result => ?_
    · refine keeps_read_bind fun s hs => ?_
      refine keeps_bind (keeps_lift _) (fun _ => keeps_bind (keeps_lift _) fun _ => keeps_bind (keeps_lift _)
        fun _ => ?_) s hs
      exact keeps_bind (keepsTrace_commit hcanon) fun _ => keeps_pure _
    · cases result with
      | error msg => exact keeps_bind (keeps_attempt keepsTrace_abortReserved) fun _ => keeps_fail _
      | ok result =>
        show KeepsTrace P own F (if result.2.1 = .terminal then pure () else lift _)
        split
        · exact keeps_pure _
        · exact keeps_lift _

section
variable {a : OutcomeJournalArchive}

section
variable (ha : AcceptedArchive P own a)
include ha

theorem keepsTrace_materialize :
    Keeps F (fun s => Traceable P own s ∧ s.head.pendingSequence = 0) (fun s => Traceable P own (unlocked s))
      (materializeArchiveRecords a) := by
  refine keeps_forEach fun r hr => keeps_read_bind fun s hs => ?_
  cases s.directory.records.get? (r.epoch, r.sequence) with
  | some file => exact keeps_lift _ s hs
  | none =>
    have hput : ∀ file, (∀ b, file = RecordFile.whole b → b = r) →
        Traceable P own (s.putRecord (r.epoch, r.sequence) file) := by
      intro file hfile
      refine ⟨hs.1.directory.put fun b hb => ?_, hs.1.memory⟩
      rw [hfile b hb]
      exact ⟨rfl, (ha.chain.checked r hr).2⟩
    have hwhole := hput (.whole r) fun b hb => by cases hb; rfl
    have htorn := fun bytes => hput (.torn bytes) fun b hb => by cases hb
    refine after_bind (after_read (after_check hs fun _ _ => ?_))
    refine after_disk ⟨hwhole, hs.2⟩ (fun reach _ => ?_) fun reach _ => ?_
    · cases reach with
      | nothing => exact hs
      | partly bytes => exact ⟨htorn bytes, hs.2⟩
      | wholly => exact ⟨hwhole, hs.2⟩
    · cases reach with
      | nothing => exact hs.1.closed
      | partly bytes => exact (htorn bytes).closed
      | wholly => exact hwhole.closed

theorem AcceptedArchive.named : Named P (OutcomeJournalHead.imported own a) := by
  rcases hlast : a.records.getLast? with _ | r
  · left
    show a.head.lastSequence = 0
    rw [ha.last, lastOf, hlast]
    rfl
  · right
    refine ⟨r, ?_, ?_⟩
    · show _ = Except.ok a.head.lastRecordChecksum
      rw [ha.checksum, lastChecksum, hlast]
      exact (ha.chain.checked r (List.mem_of_getLast? hlast)).1.checksum
    · show _ = a.head.lastEnvelopeDigest
      rw [ha.envelope, hlast]
      rfl

theorem traceable_promote (hs : Traceable P own s) (hidle : s.head.pendingSequence = 0) :
    Leaves F (Traceable P own) (promoteImportedArchive a) s := by
  have himported : Traceable P own (s.setHead (s.head.imported a)) :=
    ⟨hs.directory, fun hlock => ⟨ha.valid.imported (hs.memory hlock).1.shape hidle, (hs.memory hlock).2.1, ha.named⟩⟩
  refine after_bind (after_modify ?_)
  refine keeps_bind keepsTrace_persistHead (fun _ s' hs' => ?_) _ himported
  have hwithdrawn : Traceable P own (s'.setIntent none) := ⟨⟨hs'.directory.head, hs'.directory.files⟩, hs'.memory⟩
  refine after_bind (after_atomic ?_ (fun _ => ⟨hs', hwithdrawn⟩) fun _ => ⟨hs'.closed, hwithdrawn.closed⟩)
  exact after_atomic hwithdrawn (fun _ => ⟨hwithdrawn, hwithdrawn⟩) fun _ => ⟨hwithdrawn.closed, hwithdrawn.closed⟩

theorem traceable_finishImport (hs : Traceable P own s) (hidle : s.head.pendingSequence = 0) :
    Leaves F (Traceable P own) (do materializeArchiveRecords a; promoteImportedArchive a) s :=
  after_bind ((keepsTrace_materialize ha s ⟨hs, hidle⟩).mono (fun _ _ hs' => traceable_promote ha hs'.1 hs'.2)
    (fun _ h => h.1)
    fun _ h => h)

end

theorem keepsTrace_import (laws : OutcomeLaws P) {resolver : OperationResolver} {now : Time} :
    KeepsTrace P own F (importArchive P a resolver now) := by
  refine keeps_read_bind fun s hs => ?_
  refine after_check hs fun _ _ => ?_
  refine after_check hs fun _ htarget => ?_
  simp only [refuse_ok, passed] at htarget
  obtain ⟨hlock, -, hidle, -, -⟩ := htarget
  refine after_check hs fun _ hvalidated => ?_
  refine after_check hs fun _ _ => ?_
  have ha := acceptedArchive_of_validate (validateArchiveRecords_self laws hvalidated (hs.memory hlock).2.1.symm)
  have hintended : Traceable P own (s.setIntent (some a)) := ⟨⟨hs.directory.head, hs.directory.files⟩, hs.memory⟩
  exact after_bind (after_atomic (traceable_finishImport ha hintended hidle) (fun _ => ⟨hs, hintended⟩)
    fun _ => ⟨hs.closed, hintended.closed⟩)

end

theorem Named.recovered (hn : Named P h)
    (hok : recoveredHead P d mine h generation = .ok h') : ValidHead h' ∧ sameIdentity h' mine ∧ Named P h' := by
  simp only [recoveredHead, peel, passed, validateOutcomeJournalHead_ok] at hok
  obtain ⟨-, -, ⟨hid, -⟩, settled, hsettled, hvalid, hh'⟩ := hok
  rw [hh'] at hvalid
  have hnamed : sameIdentity settled h ∧ Named P settled := by
    unfold recoverPendingRecord at hsettled
    split at hsettled
    · cases hsettled
      exact ⟨⟨rfl, rfl, rfl, rfl, rfl⟩, hn⟩
    · split at hsettled
      · cases hsettled
        exact ⟨⟨rfl, rfl, rfl, rfl, rfl⟩, hn⟩
      · cases hsettled
      · simp only [peel] at hsettled
        obtain ⟨hrecord, rfl⟩ := hsettled
        exact ⟨⟨rfl, rfl, rfl, rfl, rfl⟩, .inr ⟨_, (validatePendingRecord_ok hrecord).checksum, rfl⟩⟩
  refine ⟨hvalid, ?_⟩
  rw [← hh']
  split
  · exact ⟨hnamed.1.trans hid, hnamed.2⟩
  · exact ⟨hnamed.1.trans hid, hnamed.2⟩

theorem keepsTrace_recoverStored : KeepsTrace P own F (recoverStoredHead P generation) := by
  refine keeps_read_bind fun s hs => ?_
  cases hhead : s.directory.head with
  | none => exact keepsTrace_persistHead s hs
  | some prior =>
    refine after_check hs fun h' hrecovered => ?_
    obtain ⟨hvalid, hid, hnamed⟩ := (hs.directory.head prior hhead).recovered hrecovered
    have htidied : ∀ {s'}, Tidied P h' (s.setHead h') s' → Traceable P own s' := by
      intro s' ht
      refine ⟨hs.directory.fewer (by rw [ht.rest]; rfl) fun name file hfile => ht.kept hfile, fun hlock => ?_⟩
      rw [ht.rest] at hlock ⊢
      exact ⟨hvalid, hid.trans (hs.memory hlock).2.1, hnamed⟩
    refine after_bind (after_modify (after_bind (reconcileDurableRecords_spec.mono ?_ (fun _ hs' => htidied hs'.1)
      fun _ hs' => (htidied hs').closed)))
    exact fun _ s' hs' => keepsTrace_persistHead s' (htidied hs'.1)

theorem keepsTrace_open (laws : OutcomeLaws P) {fence : SignedFence} {now : Time} :
    KeepsTrace P (ownHead P id) F (openOutcomeJournal P id fence now) := by
  refine keeps_read_bind fun s hs => ?_
  refine after_check hs fun domain hchecks => ?_
  refine after_check hs fun _ _ => ?_
  obtain ⟨hid, hshape⟩ := openChecks_ok laws hchecks
  have hfresh :
    Traceable P (ownHead P id) { s with head := freshHead id domain fence.body.writerGeneration, lock := true } := by
    refine ⟨hs.directory, fun _ => ⟨⟨hshape, .inl ⟨rfl, rfl, rfl⟩, ?_, .nil, fun hne => absurd rfl hne⟩, hid, .inl rfl⟩⟩
    intro g hg
    cases hg
  refine after_bind (after_modify (after_bind (after_attempt ?_)))
  have hrecover : Leaves F (Traceable P (ownHead P id)) (recoverHead P fence.body.writerGeneration)
      { s with head := freshHead id domain fence.body.writerGeneration, lock := true } := by
    refine after_bind (after_bind (after_read ?_))
    split
    · exact after_pure (keepsTrace_recoverStored _ hfresh)
    · refine after_check hfresh fun _ _ => ?_
      refine after_check hfresh fun _ hvalidated => ?_
      have ha := acceptedArchive_of_validate (validateArchiveRecords_self laws hvalidated hid.symm)
      exact (traceable_finishImport ha hfresh rfl).imp fun _ s' hs' => keepsTrace_recoverStored s' hs'
  refine hrecover.mono (fun _ _ hs' => after_pure hs') (fun s' hs' msg => ?_) fun _ hs' => hs'
  exact after_bind (after_modify (after_fail hs'.closed))

theorem traceable_step (laws : OutcomeLaws P) (hs : Traceable P (ownHead P id) s) (e : OutcomeEvent) :
    Traceable P (ownHead P id) (s.step P id e) := by
  have hkeeps : KeepsTrace P (ownHead P id) (fun _ => True) (e.call.prog P id) := by
    cases e.call with
    | «open» fence now => exact keepsTrace_open laws
    | close => exact fun s hs => after_modify (f := unlocked) hs.closed
    | reserve fence now => exact keeps_bind keepsTrace_reserve fun _ => keeps_pure _
    | abort sequence => exact keepsTrace_abortReserved
    | commit request => exact keeps_bind (keepsTrace_commit laws.toCanonicalDigests) fun _ => keeps_pure _
    | importArchive a resolver now => exact keepsTrace_import laws
    | record recorder authority action resolution observedAt => exact keepsTrace_record laws.toCanonicalDigests
  exact step_of_after (hkeeps s hs) fun _ _ => trivial

theorem traceable_run (laws : OutcomeLaws P) (id : JournalIdentity) (es : List OutcomeEvent) :
    Traceable P (ownHead P id) (OutcomeJournal.run P id es) := by
  refine invariant (I := Traceable P (ownHead P id)) (fun s e hs => traceable_step laws hs e) es ?_
  refine ⟨⟨fun h hh => ?_, fun name r hr => ?_⟩, fun hopen => absurd hopen Bool.false_ne_true⟩
  · cases hh
  · cases hr

/-! ## Export -/

/-- What `ExportArchive` has seen: the record files in the order of their names, each of them checked. -/
theorem scanLoop_archive (hid : sameIdentity mine h) (resolver : OperationResolver) {total : Nat}
    {result : (List OutcomeJournalRecord × Nat) × String × UInt64} :
    ∀ {files} {index} {checksum} {sequence} {acc} {retained},
      scanLoop P h archiveVisitor total files index checksum sequence (acc, retained) = .ok result →
      ∃ rs, files = rs.map .whole ∧ result.1.1 = acc ++ rs ∧ (∀ r ∈ rs, CheckedRecord P h h.gaps selfResolver r) ∧
    (rs ≠ [] → total ≤ maxOutcomeArchiveRecords ∧ sequence < result.2.2) ∧
    ((∀ r ∈ rs, verifyRecordOperation P resolver r = .ok () ∧ r.envelope.body.orderingDomain = mine.orderingDomain) →
          ∀ bytes, bytes + (rs.map P.recordBytes).sum ≤ maxOutcomeArchiveBytes →
          validateArchiveChain P mine h.gaps resolver rs checksum sequence bytes = .ok result.2)
  | [], index, checksum, sequence, acc, retained, hok => by
    cases hok
    exact ⟨[], rfl, (List.append_nil _).symm, by simp, fun hne => absurd rfl hne, fun _ _ _ => rfl⟩
  | file :: rest, index, checksum, sequence, acc, retained, hok => by
    simp only [scanLoop, bind_ok] at hok
    obtain ⟨r, hscan, ⟨acc', retained'⟩, hvisit, hrest⟩ := hok
    cases file with
    | torn => cases hscan
    | whole b =>
      obtain ⟨rfl, hchecked, hprevious, hsequence, -, hbetween⟩ := scanRecord_ok.1 hscan
      simp only [archiveVisitor, peel, Prod.mk.injEq, not_or, not_lt] at hvisit
      obtain ⟨⟨hcount, -⟩, rfl, rfl⟩ := hvisit
      obtain ⟨rs, rfl, hresult, hall, hlater, hvalidate⟩ := scanLoop_archive hid resolver hrest
      refine ⟨r :: rs, rfl, by rw [hresult]; simp, List.forall_mem_cons.2 ⟨hchecked, hall⟩, fun _ => ⟨hcount, ?_⟩,
        fun hmine bytes hbytes => ?_⟩
      · cases rs with
        | nil => cases hrest; exact hsequence
        | cons b rs => exact hsequence.trans (hlater (List.cons_ne_nil _ _)).2
      rw [List.map_cons, List.sum_cons] at hbytes
      obtain ⟨hr, hrs⟩ := List.forall_mem_cons.1 hmine
      have hown : CheckedRecord P mine h.gaps resolver r := { hchecked.transfer hid rfl with operation := hr.1 }
      simp only [validateArchiveChain, peel, validateArchiveRecord_ok]
      exact ⟨⟨hown, hprevious, hsequence, hbetween, by omega, hr.2⟩, hvalidate hrs _ (by omega)⟩

/-- An open journal without records, of the identity of `h`. -/
structure EmptyJournal (h : OutcomeJournalHead) (t : OutcomeJournal) : Prop where
  lock : t.lock = true
  valid : ValidHead t.head
  identity : sameIdentity t.head h
  last : t.head.lastSequence = 0
  pending : t.head.pendingSequence = 0
  records : t.directory.records = ∅

/-- The resolver knows the key of every operation of the archive. -/
def ResolvesArchive (P : OutcomeProtocol) (resolver : OperationResolver) (a : OutcomeJournalArchive) : Prop :=
  ∀ r ∈ a.records, ∃ body, P.verifyEnvelope r.envelope r.payload resolver (Time.ofUnix r.envelope.body.createdAtUnix) =
    .ok body

section
variable {a : OutcomeJournalArchive} {t : OutcomeJournal} {resolver : OperationResolver}

theorem verifyRecordOperation_resolved (laws : OutcomeLaws P) (hself : verifyRecordOperation P selfResolver r = .ok ())
    (hresolver : ∃ body, P.verifyEnvelope r.envelope r.payload resolver (Time.ofUnix r.envelope.body.createdAtUnix) =
      .ok body) :
    verifyRecordOperation P resolver r = .ok () := by
  obtain ⟨body, hbody⟩ := hresolver
  simp only [verifyRecordOperation, peel] at hself ⊢
  obtain ⟨event, hevent, verified, hverified, hrest⟩ := hself
  cases hverified.symm.trans (laws.verified hbody).1
  exact ⟨event, hevent, body, hbody, hrest⟩

/-- An exported archive. -/
structure Exported (P : OutcomeProtocol) (s : OutcomeJournal) (a : OutcomeJournalArchive) : Prop where
  head : a.head = { s.head with gapSequences := s.head.gapSequences.appendedToNil }
  schema : a.schema = outcomeArchiveSchema
  pending : s.head.pendingSequence = 0
  size : P.archiveBytes a ≤ maxOutcomeArchiveBytes
  count : a.records.length ≤ maxOutcomeArchiveRecords
  files : s.directory.sortedRecords.map (·.2) = a.records.map .whole
  checked : ∀ r ∈ a.records, CheckedRecord P s.head s.head.gaps selfResolver r
  chain : ∀ {mine resolver}, sameIdentity mine s.head →
    (∀ r ∈ a.records, verifyRecordOperation P resolver r = .ok () ∧
      r.envelope.body.orderingDomain = mine.orderingDomain) →
    ∀ bytes, bytes + (a.records.map P.recordBytes).sum ≤ maxOutcomeArchiveBytes →
      validateArchiveChain P mine s.head.gaps resolver a.records "" 0 bytes =
        .ok (s.head.lastRecordChecksum, s.head.lastSequence)

theorem exportArchive_ok (hok : exportArchive P s = .ok a) (hne : a.records ≠ []) : Exported P s a := by
  simp only [exportArchive, scanOutcomeRecords, peel, passed, not_lt] at hok
  obtain ⟨⟨records, retained⟩, ⟨-, ⟨result, checksum, sequence⟩, hscan, hend, rfl⟩, hpending, -, hsize, rfl⟩ := hok
  obtain ⟨rs, hfiles, hrs, hchecked, hcount, -⟩ := scanLoop_archive ⟨rfl, rfl, rfl, rfl, rfl⟩ selfResolver hscan
  subst hrs
  have hlast : sequence = s.head.lastSequence ∧ checksum = s.head.lastRecordChecksum := by
    by_contra hdiffers
    refine hend ⟨?_, .inl (hcount hne).2.ne'⟩
    rwa [← not_and_or]
  refine ⟨rfl, rfl, hpending, hsize, ?_, hfiles, hchecked, fun {mine resolver} hid hmine bytes hbytes => ?_⟩
  · have hlength := congrArg List.length hfiles
    rw [List.length_map, List.length_map] at hlength
    exact hlength ▸ (hcount hne).1
  · obtain ⟨rs', -, hrs', -, -, hvalidate⟩ := scanLoop_archive hid resolver hscan
    subst hrs'
    rw [hvalidate hmine bytes hbytes, hlast.1, hlast.2]

theorem Exported.gaps (hx : Exported P s a) : a.head.gaps = s.head.gaps := by
  rw [hx.head]
  simp [OutcomeJournalHead.gaps]

theorem Exported.get?_iff (hx : Exported P s a) (hd : TraceableDirectory P own s.directory) :
    s.directory.records.get? name = some file ↔ ∃ r ∈ a.records, (r.epoch, r.sequence) = name ∧ file = .whole r := by
  constructor
  · intro hfile
    have hmem : file ∈ a.records.map RecordFile.whole := by
      rw [← hx.files]
      exact List.mem_map.2 ⟨⟨name, file⟩, OutcomeDirectory.mem_sortedRecords.2 hfile, rfl⟩
    obtain ⟨r, hr, rfl⟩ := List.mem_map.1 hmem
    exact ⟨r, hr, (hd.files name r hfile).1, rfl⟩
  · rintro ⟨r, hr, rfl, rfl⟩
    have hmem : RecordFile.whole r ∈ s.directory.sortedRecords.map (·.2) := by
      rw [hx.files]
      exact List.mem_map_of_mem hr
    obtain ⟨⟨name, file⟩, hentry, hfile⟩ := List.mem_map.1 hmem
    subst hfile
    have hget := OutcomeDirectory.mem_sortedRecords.1 hentry
    rw [(hd.files name r hget).1]
    exact hget

/-! ## Import -/

theorem Exported.accepted (laws : OutcomeLaws P)
    (hcollision : ∀ {r r' c}, P.recordDigest r = .ok c → P.recordDigest r' = .ok c →
      r.operationEnvelopeDigest = r'.operationEnvelopeDigest) (hx : Exported P s a)
    (hs : Traceable P own s) (hlock : s.lock = true) (hne : a.records ≠ []) (ht : EmptyJournal s.head t)
    (hbytes : 4096 + (a.records.map P.recordBytes).sum ≤ maxOutcomeArchiveBytes)
    (hresolver : ResolvesArchive P resolver a) :
    validateArchiveRecords P t.head a resolver = .ok () := by
  obtain ⟨hvalid, hid, hnamed⟩ := hs.memory hlock
  have hmine : ∀ r ∈ a.records, verifyRecordOperation P resolver r = .ok () ∧
      r.envelope.body.orderingDomain = t.head.orderingDomain := by
    intro r hr
    have hfile := (hx.get?_iff hs.directory).2 ⟨r, hr, rfl, rfl⟩
    refine ⟨verifyRecordOperation_resolved laws (hx.checked r hr).operation (hresolver r hr), ?_⟩
    rw [(hs.directory.files _ r hfile).2, ht.identity.2.2.2.1, hid.2.2.2.1]
  have hchain := hx.chain ht.identity hmine 4096 hbytes
  have hheadValid : ValidHead a.head := by
    have hgaps := hx.gaps
    rw [hx.head] at hgaps ⊢
    exact ⟨{ hvalid.shape with }, hvalid.last, hgaps ▸ hvalid.gapsPos, hgaps ▸ hvalid.gapsSorted,
      fun hpending => absurd hx.pending hpending⟩
  obtain ⟨hchecksum, hsequence, hrecords⟩ := validateArchiveChain_ok hvalid.gapsSorted hchain
  simp only [validateArchiveRecords, peel, passed, not_lt, validateOutcomeJournalHead_ok]
  refine ⟨⟨hx.schema, hne, hx.count, ?_⟩, hheadValid, _, by rw [hx.gaps]; exact hchain, ?_, ?_, ?_⟩
  · rw [hx.head]
    exact ht.identity.symm
  · rw [hx.head]
  · rw [hx.head]
  · -- two records with one checksum are of one envelope
    obtain ⟨r, hr⟩ : ∃ r, a.records.getLast? = some r := ⟨_, List.getLast?_eq_some_getLast hne⟩
    rw [hr, Option.any_some, decide_eq_true_eq, hx.head]
    show r.operationEnvelopeDigest = s.head.lastEnvelopeDigest
    rw [hr] at hchecksum hsequence
    rcases hnamed with hzero | ⟨r₀, hr₀, henvelope⟩
    · have hpos := hrecords.above r (List.mem_of_getLast? hr)
      rw [← show s.head.lastSequence = r.sequence from hsequence, hzero] at hpos
      exact absurd hpos (lt_irrefl _)
    · have hown := (hx.checked r (List.mem_of_getLast? hr)).checksum
      rw [← show s.head.lastRecordChecksum = r.recordChecksum from hchecksum] at hown
      have hsame := hcollision hown hr₀
      exact (show r.operationEnvelopeDigest = r₀.operationEnvelopeDigest from hsame).trans henvelope

def HoldsExactly (d : OutcomeDirectory) (records : List OutcomeJournalRecord) : Prop :=
  ∀ name file, d.records.get? name = some file ↔ ∃ r ∈ records, (r.epoch, r.sequence) = name ∧ file = .whole r

/-- Without faults the files of an archive are written into an empty directory, one after the other. -/
theorem materialize_empty (hsorted : a.records.Pairwise (·.sequence < ·.sequence)) (hempty : t.directory.records = ∅) :
    After (fun _ => False) (materializeArchiveRecords a) t
      (fun _ t' => t'.head = t.head ∧ t'.lock = t.lock ∧ HoldsExactly t'.directory a.records) (fun _ => False)
        fun _ => True := by
  refine after_forEach (fun visited t' => t'.head = t.head ∧ t'.lock = t.lock ∧ HoldsExactly t'.directory visited)
    a.records
    (fun visited r rest t' hall ht' => ?_) _ [] t rfl ⟨rfl, rfl, fun name file => ?_⟩
  · obtain ⟨hhead, hlock, hholds⟩ := ht'
    rw [hall, List.pairwise_append] at hsorted
    have hother : ∀ b ∈ visited, (b.epoch, b.sequence) ≠ (r.epoch, r.sequence) := fun b hb hname =>
      (hsorted.2.2 b hb r List.mem_cons_self).ne (Prod.mk.inj hname).2
    have hfree : t'.directory.records.get? (r.epoch, r.sequence) = none := by
      rw [Option.eq_none_iff_forall_ne_some]
      intro file hfile
      obtain ⟨b, hb, hname, -⟩ := (hholds _ _).1 hfile
      exact hother b hb hname
    refine after_bind (after_read ?_)
    rw [hfree]
    refine after_bind (after_read (after_passes (refuse_ok.2 ?_) ?_))
    · rw [Map.has_false_iff.2 hfree]
      exact Bool.false_ne_true
    · refine after_disk ⟨hhead, hlock, fun name file => ?_⟩ (fun _ hf => hf.elim) fun _ hf => hf.elim
      show (t'.directory.records.put (r.epoch, r.sequence) (.whole r)).get? name = some file ↔ _
      simp only [Map.get?_put, List.mem_append, List.mem_singleton, or_and_right, exists_or, exists_eq_left]
      split
      · rename_i hname
        constructor
        · intro hfile
          cases hfile
          exact .inr ⟨hname.symm, rfl⟩
        · rintro (⟨b, hb, hbname, -⟩ | ⟨-, rfl⟩)
          · exact absurd (hbname.trans hname) (hother b hb)
          · rfl
      · rename_i hname
        rw [hholds, or_iff_left fun hr => hname hr.1.symm]
  · rw [hempty, Map.get?_empty]
    simp

/-- What a validated archive is, as far as an empty journal asks. -/
theorem validateArchiveRecords_sorted (hok : validateArchiveRecords P t.head a resolver = .ok ()) :
    a.records.Pairwise (·.sequence < ·.sequence) ∧ a.head.lastSequence ≠ 0 ∧ ValidHead a.head ∧
      sameIdentity a.head t.head := by
  simp only [validateArchiveRecords, peel, passed, validateOutcomeJournalHead_ok] at hok
  obtain ⟨⟨-, hne, -, hsame⟩, hvalid, ⟨previous, sequence⟩, hchain, hlast, -⟩ := hok
  obtain ⟨-, hsequence, hrecords⟩ := validateArchiveChain_ok hvalid.gapsSorted hchain
  refine ⟨hrecords.sorted, ?_, hvalid, hsame⟩
  have hr := List.getLast?_eq_some_getLast hne
  rw [← hlast, hsequence, hr]
  exact (hrecords.above _ (List.mem_of_getLast? hr)).ne'

/-- The import of an accepted archive into an empty journal. -/
theorem import_empty {now : Time} (hnow : now.isZero = false) (ht : EmptyJournal h t)
    (hschema : a.schema = outcomeArchiveSchema) (hne : a.records ≠ [])
    (hcount : a.records.length ≤ maxOutcomeArchiveRecords)
    (hsize : P.archiveBytes a ≤ maxOutcomeArchiveBytes) (hok : validateArchiveRecords P t.head a resolver = .ok ()) :
    After (fun _ => False) (importArchive P a resolver now) t
    (fun _ t' => t'.head = t.head.imported a ∧ t'.lock = true ∧ HoldsExactly t'.directory a.records) (fun _ => False)
      fun _ => True := by
  obtain ⟨hsorted, hlast, hvalid, hid⟩ := validateArchiveRecords_sorted hok
  have himported := hvalid.imported ht.valid.shape ht.pending
  refine after_bind (after_read (after_passes (refuse_ok.2 ?_) (after_passes (refuse_ok.2 ?_) ?_)))
  · simpa [hnow, hschema, hne] using hcount
  · simp [ht.lock, ht.last, ht.pending, hid, hlast]
  refine after_passes hok (after_passes (refuse_ok.2 (not_lt.2 hsize)) ?_)
  refine after_bind (after_atomic ?_ no_fault no_fault)
  refine after_bind ((materialize_empty (t := t.setIntent (some a)) hsorted ht.records).mono ?_ (fun _ hf => hf)
    fun _ hf => hf)
  rintro _ t' ⟨hhead, hlock, hholds⟩
  replace hlock : t'.lock = true := hlock.trans ht.lock
  refine after_bind (after_modify (after_bind (persistHead_after ?_ fun _ => ⟨?_, no_fault, trivial, trivial⟩)))
  · rintro (hinvalid | hclosed)
    · exact hinvalid (hhead ▸ himported)
    · cases hclosed.symm.trans hlock
  · refine after_bind (after_atomic ?_ no_fault no_fault)
    exact after_atomic ⟨congrArg (·.imported a) hhead, hlock, hholds⟩ no_fault no_fault

/-! ## Reading back -/

theorem scanRecord_congr (hid : sameIdentity h h') (hgaps : h.gaps = h'.gaps) (checksum : String)
    (sequence : UInt64) (file : RecordFile) :
    scanRecord P h checksum sequence file = scanRecord P h' checksum sequence file := by
  cases file with
  | torn => rfl
  | whole r =>
    unfold scanRecord
    simp [appendIdentity_congr hid, hgaps, validateAppendAdmission_congr hid rfl]

theorem scanLoop_congr {β : Type} (hid : sameIdentity h h') (hgaps : h.gaps = h'.gaps)
    (visit : Visitor β) (total : Nat) : ∀ files index checksum sequence acc,
      scanLoop P h visit total files index checksum sequence acc =
        scanLoop P h' visit total files index checksum sequence acc
  | [], _, _, _, _ => rfl
  | file :: rest, index, checksum, sequence, acc => by
    unfold scanLoop
    rw [scanRecord_congr hid hgaps]
    simp [scanLoop_congr hid hgaps visit total rest]

theorem records_congr (hfiles : t.directory.sortedRecords = s.directory.sortedRecords)
    (hid : sameIdentity t.head s.head) (hgaps : t.head.gaps = s.head.gaps)
    (hlast : t.head.lastSequence = s.head.lastSequence)
    (hchecksum : t.head.lastRecordChecksum = s.head.lastRecordChecksum) (limit : Nat) :
    records P t limit = records P s limit := by
  unfold records scanOutcomeRecords
  simp [hfiles, scanLoop_congr hid hgaps, hlast, hchecksum]

theorem sortedRecords_congr (hfiles : ∀ name, d.records.get? name = d'.records.get? name) :
    d.sortedRecords = d'.sortedRecords := by
  refine eq_of_sorted nameLess_strictWeak.asymm d.sortedRecords_sorted d'.sortedRecords_sorted fun ⟨name, file⟩ => ?_
  rw [OutcomeDirectory.mem_sortedRecords, OutcomeDirectory.mem_sortedRecords, hfiles]

/-! ## The next append -/

/-- What `Reserve` and then `Commit` answer on a disk that works. -/
def nextAppend (P : OutcomeProtocol) (s : OutcomeJournal) (fence : SignedFence) (now : Time) (request : CommitRequest) :
    Except Halt OutcomeJournalRecord :=
  ((do
    let _ ← reserve P fence now
    commit P request : Call OutcomeJournalRecord) ⟨s, []⟩).1

/-- Heads that differ at most in how they write an empty gap list. -/
structure SameAppends (P : OutcomeProtocol) (h h' : OutcomeJournalHead) : Prop where
  rest : ∃ gaps, h = { h' with gapSequences := gaps }
  gaps : h.gaps = h'.gaps
  digest : P.gapSetDigest h.gapSequences = P.gapSetDigest h'.gapSequences

section
variable (hsame : SameAppends P h h')
include hsame

theorem SameAppends.reserved : SameAppends P (reservedHead h) (reservedHead h') := by
  obtain ⟨⟨gaps, rfl⟩, hgaps, hdigest⟩ := hsame
  have hnext : nextSequence { h' with gapSequences := gaps } = nextSequence h' := by
    unfold nextSequence
    rw [hgaps]
  refine ⟨⟨gaps, ?_⟩, hgaps, hdigest⟩
  unfold reservedHead
  rw [hnext]

theorem SameAppends.advance (record : OutcomeJournalRecord) : SameAppends P (h.advance record) (h'.advance record) := by
  obtain ⟨⟨gaps, rfl⟩, hgaps, hdigest⟩ := hsame
  exact ⟨⟨gaps, rfl⟩, hgaps, hdigest⟩

theorem SameAppends.released :
    SameAppends P { h with pendingSequence := 0 } { h' with pendingSequence := 0 } := by
  obtain ⟨⟨gaps, rfl⟩, hgaps, hdigest⟩ := hsame
  exact ⟨⟨gaps, rfl⟩, hgaps, hdigest⟩

theorem SameAppends.valid : validateOutcomeJournalHead h = validateOutcomeJournalHead h' := by
  unfold validateOutcomeJournalHead
  rw [hsame.gaps]
  obtain ⟨⟨gaps, rfl⟩, -, -⟩ := hsame
  rfl

theorem SameAppends.admitted (request : CommitRequest) (admission : OutcomeJournalAppendAdmission) :
    admittedRecord P h request admission = admittedRecord P h' request admission := by
  unfold admittedRecord admitAppend appendIdentity
  rw [hsame.digest]
  obtain ⟨⟨gaps, rfl⟩, -, -⟩ := hsame
  rfl

end

/-- Two journals that admit the same appends. -/
structure Twins (P : OutcomeProtocol) (s t : OutcomeJournal) : Prop where
  head : SameAppends P s.head t.head
  lock : s.lock = t.lock
  files : ∀ name, s.directory.records.get? name = t.directory.records.get? name

section
variable {s t : OutcomeJournal} (ht : Twins P s t)
include ht

theorem Twins.pending : s.head.pendingSequence = t.head.pendingSequence := by
  obtain ⟨gaps, heq⟩ := ht.head.rest
  rw [heq]

theorem Twins.putRecord (name : RecordName) (file : RecordFile) :
    Twins P (s.putRecord name file) (t.putRecord name file) := by
  refine ⟨ht.head, ht.lock, fun name' => ?_⟩
  show (s.directory.records.put name file).get? name' = (t.directory.records.put name file).get? name'
  rw [Map.get?_put, Map.get?_put, ht.files]

theorem Twins.persistHead : Alike (Twins P) persistHead persistHead s t := by
  refine alike_read_bind (alike_lift_bind ht.head.valid ht fun _ _ => ?_)
  refine alike_lift_bind (by rw [ht.lock]) ht fun _ _ => alike_disk ?_
  exact ⟨ht.head, ht.lock, ht.files⟩

theorem Twins.reserve (fence : SignedFence) (now : Time) :
    Alike (Twins P) (reserve P fence now) (reserve P fence now) s t := by
  have hwriter : currentWriter P s fence now = currentWriter P t fence now := by
    unfold currentWriter
    rw [ht.lock]
    obtain ⟨gaps, heq⟩ := ht.head.rest
    rw [heq]
  have hnext : nextSequence s.head = nextSequence t.head := by
    obtain ⟨gaps, heq⟩ := ht.head.reserved.rest
    exact congrArg OutcomeJournalHead.pendingSequence heq
  refine alike_read_bind (alike_lift_bind hwriter ht fun _ _ => ?_)
  refine alike_lift_bind (by rw [ht.pending]) ht fun _ _ => alike_modify_bind ?_
  have hreserved : Twins P (s.setHead (reservedHead s.head)) (t.setHead (reservedHead t.head)) :=
    ⟨ht.head.reserved, ht.lock, ht.files⟩
  refine alike_bind (alike_attempt hreserved.persistHead) fun result s' t' h' => ?_
  cases result with
  | ok _ =>
    rw [hnext]
    exact alike_pure h'
  | error msg =>
    exact alike_modify_bind (alike_fail ⟨h'.head.released, h'.lock, h'.files⟩)

theorem Twins.commit (request : CommitRequest) : Alike (Twins P) (commit P request) (commit P request) s t := by
  refine alike_read_bind ?_
  cases request.admission with
  | none => exact alike_fail ht
  | some admission =>
    refine alike_lift_bind (by rw [ht.lock, ht.pending]) ht fun _ _ => ?_
    refine alike_lift_bind (ht.head.admitted request admission) ht fun record _ => ?_
    have hwrite : Alike (Twins P) (writeRecordExclusive (record.epoch, record.sequence) record)
        (writeRecordExclusive (record.epoch, record.sequence) record) s t := by
      refine alike_read_bind (alike_lift_bind ?_ ht fun _ _ => alike_disk (ht.putRecord _ _))
      rw [show s.directory.records.has _ = t.directory.records.has _ from congrArg Option.isSome (ht.files _)]
    refine alike_bind hwrite fun _ s' t' h' => alike_modify_bind ?_
    have hadvanced : Twins P (s'.setHead (s'.head.advance record)) (t'.setHead (t'.head.advance record)) :=
      ⟨h'.head.advance record, h'.lock, h'.files⟩
    refine alike_bind hadvanced.persistHead fun _ s' t' h' => alike_modify_bind (alike_pure ?_)
    exact ⟨h'.head, h'.lock, h'.files⟩

theorem Twins.nextAppend (fence : SignedFence) (now : Time) (request : CommitRequest) :
    nextAppend P s fence now request = nextAppend P t fence now request := by
  obtain ⟨answer, s', t', hs, ht', -⟩ := alike_bind (ht.reserve fence now) fun _ _ _ h' => h'.commit request
  unfold OpenFox.Earning.nextAppend
  rw [hs, ht']

end

/-! ## The round trip -/

/-- `t'` holds what `s` holds. -/
structure SameContent (P : OutcomeProtocol) (s t' : OutcomeJournal) : Prop where
  records : ∀ limit, records P t' limit = records P s limit
  lastSequence : t'.head.lastSequence = s.head.lastSequence
  lastRecordChecksum : t'.head.lastRecordChecksum = s.head.lastRecordChecksum
  lastEnvelopeDigest : t'.head.lastEnvelopeDigest = s.head.lastEnvelopeDigest
  gaps : t'.head.gaps = s.head.gaps

/-- The recorder and `Commit` take the digest of the same gap list. -/
def GapDigestsAgree (P : OutcomeProtocol) (s : OutcomeJournal) : Prop :=
  P.gapSetDigest s.Head.gapSequences = P.gapSetDigest s.head.gapSequences

section
variable (hx : Exported P s a)
include hx

theorem imported_gapSequences (own : OutcomeJournalHead) :
    (own.imported a).gapSequences = s.head.gapSequences.appendedToNil.appendedToNil := by
  show a.head.gapSequences.appendedToNil = _
  rw [hx.head]

/-- An imported gap list is nil if it is empty, and the source's own list otherwise. -/
theorem Exported.imported_cases (own : OutcomeJournalHead) : s.head.gaps = [] ∧ (own.imported a).gapSequences = none ∨
      s.head.gaps ≠ [] ∧ (own.imported a).gapSequences = s.head.gapSequences := by
  rw [imported_gapSequences hx]
  by_cases hgaps : s.head.gaps = []
  · left
    have hitems : s.head.gapSequences.items = [] := hgaps
    refine ⟨hgaps, ?_⟩
    unfold Slice.appendedToNil
    rw [if_pos (by rw [hitems]; rfl)]
  · right
    have hitems := hgaps
    refine ⟨hgaps, ?_⟩
    rw [Slice.appendedToNil_eq_copied.2 (by rwa [Slice.items_appendedToNil]), Slice.appendedToNil_eq_copied.2 hitems]
    exact Slice.copied_of_ne_nil hitems

theorem gapDigestsAgree_imported {t' : OutcomeJournal} (hhead : t'.head = own.imported a) :
    GapDigestsAgree P t' ↔ s.head.gaps ≠ [] ∨ P.gapSetDigest none = P.gapSetDigest (some []) := by
  unfold GapDigestsAgree OutcomeJournal.Head
  rw [hhead]
  rcases hx.imported_cases own with ⟨hgaps, himported⟩ | ⟨hgaps, himported⟩
  · rw [himported]
    exact ⟨fun h => .inr h.symm, fun h => (h.resolve_left fun hne => hne hgaps).symm⟩
  · rw [himported, Slice.copied_of_ne_nil hgaps]
    exact ⟨fun _ => .inl hgaps, fun _ => rfl⟩

theorem sameAppends_imported (hs : ValidHead s.head) (ht : EmptyJournal s.head t)
    (hgeneration : t.head.writerGeneration = s.head.writerGeneration)
    (hdigest : s.head.gaps ≠ [] ∨ P.gapSetDigest none = P.gapSetDigest (some [])) :
    SameAppends P (t.head.imported a) s.head := by
  refine ⟨⟨(t.head.imported a).gapSequences, ?_⟩, (imported_gaps t.head a).trans hx.gaps, ?_⟩
  · obtain ⟨howner, hagent, hauthority, hdomain, hcohort⟩ := ht.identity
    have hschema := ht.valid.shape.schema.trans hs.shape.schema.symm
    unfold OutcomeJournalHead.imported
    rw [howner, hagent, hauthority, hdomain, hcohort, hschema, hgeneration, ht.pending, ← hx.pending, hx.head]
  · rcases hx.imported_cases t.head with ⟨hnone, himported⟩ | ⟨-, himported⟩
    · rw [himported]
      replace hdigest := hdigest.resolve_left fun hne => hne hnone
      cases hsource : s.head.gapSequences with
      | none => rfl
      | some l =>
        have hitems : s.head.gapSequences.items = [] := hnone
        rw [hsource, Slice.items_some] at hitems
        rw [hitems]
        exact hdigest
    · rw [himported]

end

/-- `ImportArchive` of what `ExportArchive` returned, into an empty journal of the same identity. It succeeds, and the
records, the last sequence, the checksums and the gaps are the same. The recorder and `Commit` then take the digest of
the same gap list, and the two journals answer the next append alike, exactly if there is a gap or the digest does not
tell the nil list from the empty one. -/
theorem archive_round_trip_iff (laws : OutcomeLaws P)
    (hcollision : ∀ {r r' c}, P.recordDigest r = .ok c → P.recordDigest r' = .ok c →
      r.operationEnvelopeDigest = r'.operationEnvelopeDigest)
    {id : JournalIdentity} {es : List OutcomeEvent} (hsource : s = OutcomeJournal.run P id es) (hlock : s.lock = true)
    (hexport : exportArchive P s = .ok a) (hne : a.records ≠ [])
    (hbytes : 4096 + (a.records.map P.recordBytes).sum ≤ maxOutcomeArchiveBytes) (ht : EmptyJournal s.head t)
    (hresolver : ResolvesArchive P resolver a) {now : Time} (hnow : now.isZero = false) :
    (∃ t', importArchive P a resolver now ⟨t, []⟩ = (.ok (), ⟨t', []⟩) ∧ SameContent P s t' ∧ GapDigestsAgree P t' ∧
      (t.head.writerGeneration = s.head.writerGeneration →
        ∀ fence now request, nextAppend P t' fence now request = nextAppend P s fence now request)) ↔
    s.head.gaps ≠ [] ∨ P.gapSetDigest none = P.gapSetDigest (some []) := by
  have hs := hsource ▸ traceable_run laws id es
  have hx := exportArchive_ok hexport hne
  have hvalid := (hs.memory hlock).1
  have haccepted := hx.accepted laws hcollision hs hlock hne ht hbytes hresolver
  obtain ⟨hfaults, hresult⟩ := import_empty hnow ht hx.schema hne hx.count hx.size haccepted [] (by simp)
  rcases himport : importArchive P a resolver now ⟨t, []⟩ with ⟨answer, t', faults⟩
  rw [himport] at hfaults hresult
  replace hfaults : faults = [] := List.eq_nil_iff_forall_not_mem.2 hfaults
  subst hfaults
  rcases answer with (msg | _) | _
  · exact hresult.elim
  · exact no_fault hresult.1
  obtain ⟨hhead, hlock', hholds⟩ := hresult
  constructor
  · rintro ⟨t'', heq, -, hdigests, -⟩
    cases heq
    exact (gapDigestsAgree_imported hx hhead).1 hdigests
  · intro hdigest
    have hfiles : ∀ name, t'.directory.records.get? name = s.directory.records.get? name := by
      intro name
      ext file
      rw [hholds, hx.get?_iff hs.directory]
    have hcontent : t'.head.lastSequence = s.head.lastSequence ∧
        t'.head.lastRecordChecksum = s.head.lastRecordChecksum ∧
          t'.head.lastEnvelopeDigest = s.head.lastEnvelopeDigest ∧ t'.head.gaps = s.head.gaps ∧
            sameIdentity t'.head s.head := by
      rw [hhead, imported_gaps, hx.gaps, OutcomeJournalHead.imported, hx.head]
      exact ⟨rfl, rfl, rfl, rfl, ht.identity⟩
    obtain ⟨hlast, hchecksum, henvelope, hgaps, hid⟩ := hcontent
    refine ⟨t', rfl, ⟨records_congr (sortedRecords_congr hfiles) hid hgaps hlast hchecksum, hlast, hchecksum,
      henvelope, hgaps⟩, (gapDigestsAgree_imported hx hhead).2 hdigest, fun hgeneration fence now request => ?_⟩
    have htwins : Twins P t' s :=
      ⟨hhead ▸ sameAppends_imported hx hvalid ht hgeneration hdigest, hlock'.trans hlock.symm, hfiles⟩
    exact htwins.nextAppend fence now request

end

section
open Sample

/-- The sample protocol with a record digest that tells the envelopes apart. -/
def Sample.telling : OutcomeProtocol := { outcome with
  recordDigest := fun r =>
    if r.operationEnvelopeDigest = digest 'a' then .ok (digest '1')
    else if r.operationEnvelopeDigest = digest 'b' then .ok (digest '2')
    else if r.operationEnvelopeDigest = digest 'c' then .ok (digest '3')
    else .error "record is not encodable" }

theorem telling_recordDigest (hc : telling.recordDigest r = .ok c) :
    r.operationEnvelopeDigest = digest 'a' ∧ c = digest '1' ∨ r.operationEnvelopeDigest = digest 'b' ∧ c = digest '2' ∨
      r.operationEnvelopeDigest = digest 'c' ∧ c = digest '3' := by
  simp only [telling] at hc
  split at hc
  · cases hc; exact .inl ⟨by assumption, rfl⟩
  · split at hc
    · cases hc; exact .inr (.inl ⟨by assumption, rfl⟩)
    · split at hc
      · cases hc; exact .inr (.inr ⟨by assumption, rfl⟩)
      · cases hc

theorem tellingLaws : OutcomeLaws telling := { outcomeLaws with
  record := fun hc => by rcases telling_recordDigest hc with ⟨-, rfl⟩ | ⟨-, rfl⟩ | ⟨-, rfl⟩ <;> decide +kernel }

theorem telling_noCollision {r' : OutcomeJournalRecord} (hr : telling.recordDigest r = .ok c)
    (hr' : telling.recordDigest r' = .ok c) : r.operationEnvelopeDigest = r'.operationEnvelopeDigest := by
  have hdistinct : digest '1' ≠ digest '2' ∧ digest '1' ≠ digest '3' ∧ digest '2' ≠ digest '3' := by decide +kernel
  obtain ⟨h12, h13, h23⟩ := hdistinct
  rcases telling_recordDigest hr with ⟨hd, rfl⟩ | ⟨hd, rfl⟩ | ⟨hd, rfl⟩ <;>
    rcases telling_recordDigest hr' with ⟨hd', hc⟩ | ⟨hd', hc⟩ | ⟨hd', hc⟩ <;>
      first | exact hd.trans hd'.symm | exact absurd hc ‹_› | exact absurd hc.symm ‹_›

def Sample.opened : List OutcomeEvent := [⟨.open (fence 1) now, []⟩]

/-- One record and no gap. -/
def Sample.gapless : List OutcomeEvent := opened ++ [⟨record 1 '1', []⟩]

def Sample.gaplessArchive : OutcomeJournalArchive :=
  match exportArchive outcome (OutcomeJournal.run outcome identity gapless) with
  | .ok a => a
  | .error _ => default

theorem opened_empty (hid : sameIdentity (freshHead identity (digest '5') 1) h) :
    EmptyJournal h (OutcomeJournal.run telling identity opened) := by
  obtain ⟨hlock, hvalid, hhead, hrecords⟩ : let s := OutcomeJournal.run telling identity opened
      s.lock = true ∧ validateOutcomeJournalHead s.head = .ok () ∧ s.head = freshHead identity (digest '5') 1 ∧
      s.directory.records.entries = [] := by decide +kernel
  exact ⟨hlock, validateOutcomeJournalHead_ok.1 hvalid, hhead ▸ hid, hhead ▸ rfl, hhead ▸ rfl, AList.ext hrecords⟩

/-- A journal with sequence 1 given up and a record at sequence 2 goes through an archive unchanged. -/
theorem gapped_archive_round_trip :
    ∃ s a t', s = OutcomeJournal.run telling identity (crashedCommit ++ opened) ∧ exportArchive telling s = .ok a ∧
      a.records.length = 1 ∧ s.head.gaps = [1] ∧
      importArchive telling a selfResolver now ⟨OutcomeJournal.run telling identity opened, []⟩ = (.ok (), ⟨t', []⟩) ∧
      SameContent telling s t' ∧ GapDigestsAgree telling t' := by
  obtain ⟨hexported, hlock, hgaps, hid⟩ : let s := OutcomeJournal.run telling identity (crashedCommit ++ opened)
      (exportArchive telling s).map (fun a => (a.records.length, 4096 + (a.records.map telling.recordBytes).sum)) =
        .ok (1, 5096) ∧
      s.lock = true ∧ s.head.gaps = [1] ∧ sameIdentity (freshHead identity (digest '5') 1) s.head := by
    decide +kernel
  obtain ⟨a, ha, hsizes⟩ := map_ok.1 hexported
  obtain ⟨hlength, hbytes⟩ := Prod.mk.inj hsizes
  have hne : a.records ≠ [] := fun hnil => by
    rw [hnil] at hlength
    cases hlength
  have hresolver : ResolvesArchive telling selfResolver a := fun r _ => ⟨_, rfl⟩
  obtain ⟨t', himport, hcontent, hdigests, -⟩ :=
    (archive_round_trip_iff tellingLaws telling_noCollision rfl hlock ha hne
    (by rw [hbytes]; decide) (opened_empty hid) hresolver (by decide : now.isZero = false)).2
      (.inl (hgaps ▸ List.cons_ne_nil _ _))
  exact ⟨_, a, t', rfl, ha, hlength, hgaps, himport, hcontent, hdigests⟩

/-- Without gaps the import succeeds, but the next resolution is recorded by the source only: the imported journal
refuses its own recorder's request. -/
theorem gapless_import_refuses_append :
    exportArchive outcome (OutcomeJournal.run outcome identity gapless) = .ok gaplessArchive ∧
    (OutcomeJournal.run outcome identity gapless).head.gaps = [] ∧ gaplessArchive.records.length = 1 ∧
    (importArchive outcome gaplessArchive selfResolver now ⟨OutcomeJournal.run outcome identity opened, []⟩).1 =
      .ok () ∧
    (recordActionResolution outcome (writer 1) authority (action '2') (resolution '2') now
      ⟨OutcomeJournal.run outcome identity gapless, []⟩).1 = .ok () ∧
    (recordActionResolution outcome (writer 1) authority (action '2') (resolution '2') now
      ⟨OutcomeJournal.run outcome identity (opened ++ [⟨.importArchive gaplessArchive selfResolver now, []⟩]), []⟩).1 =
        .error (.failed "outcome journal append request does not bind the reserved head") := by
  decide +kernel

end

end OpenFox.Earning
