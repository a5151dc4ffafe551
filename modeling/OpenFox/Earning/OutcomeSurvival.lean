/-
The outcome journal under failing disks: in every run of the recorder, of imports and of openings in which writes may
fail or the process may crash, the directory can be opened again and no acknowledged record is lost, as long as no
write leaves half a file, an import intent is not written over, and the archives are ones a journal exports.
-/
import OpenFox.Earning.OutcomeKept

namespace OpenFox.Earning

open OpenFox.Go OpenFox.Base OpenFox.Commerce Prog

variable {P : OutcomeProtocol} {own : OutcomeJournalHead} {K : Nat} {F : Fault → Prop} {s : OutcomeJournal}

theorem unlocked_of_closed (hclosed : s.lock = false) : unlocked s = s := by
  cases s
  cases hclosed
  rfl

theorem Surviving.closed {s' : OutcomeJournal} (hs : Surviving P own K s) (hdir : s'.directory = s.directory)
    (hack : s'.acknowledged = s.acknowledged) (hlock : s'.lock = false) : Surviving P own K s' := by
  have hclosed : ∀ {p}, s'.lock = true → p := fun hopen => absurd (hlock.symm.trans hopen) Bool.false_ne_true
  cases hs with
  | importing h =>
    exact .importing ⟨hdir ▸ h.intent, h.accepted, h.size, h.whole, h.gapCount, hdir ▸ h.files,
      hack.trans h.acknowledged, hclosed⟩
  | absent hintent hhead hrecords _ hnil =>
    exact .absent (hdir ▸ hintent) (hdir ▸ hhead) (hdir ▸ hrecords) hlock (hack.trans hnil)
  | kept hintent hdisk hsub _ => exact .kept (hdir ▸ hintent) (hdir ▸ hdisk) (hack ▸ hsub) hclosed

theorem Surviving.unlocked (hs : Surviving P own K s) : Surviving P own K (unlocked s) := hs.closed rfl rfl rfl

theorem Surviving.opened (hs : Surviving P own K s) (hlock : s.lock = true)
    (hintent : s.directory.importIntent = none) :
    ∃ log top, MemorySound P own K s log top := by
  cases hs with
  | importing h => rw [h.intent] at hintent; cases hintent
  | absent _ _ _ hclosed => cases hclosed.symm.trans hlock
  | kept _ _ _ hmemory => exact hmemory hlock

/-! ## Scanning finds what is left over -/

variable {log : List OutcomeJournalRecord} {id : JournalIdentity} {r : OutcomeJournalRecord} {h : OutcomeJournalHead}
  {action : SignedAction} {sequence : UInt64} {e : OutcomeEvent} {domain : String}

theorem scanLoop_each {β : Type} {visit : Visitor β} {total : Nat} {result : β × String × UInt64} :
    ∀ {files} {index} {checksum} {sequence} {acc},
      scanLoop P h visit total files index checksum sequence acc = .ok result →
      ∀ file ∈ files, ∃ r previous sequence, file = .whole r ∧ scanRecord P h previous sequence (.whole r) = .ok r
  | [], _, _, _, _, _ => by simp
  | file :: rest, index, checksum, sequence, acc, hok => by
    simp only [scanLoop, bind_ok] at hok
    obtain ⟨r, hscan, acc', -, hrest⟩ := hok
    refine List.forall_mem_cons.2 ⟨?_, scanLoop_each hrest⟩
    cases file with
    | torn => cases hscan
    | whole a =>
      obtain ⟨rfl, -⟩ := scanRecord_ok.1 hscan
      exact ⟨r, checksum, sequence, rfl, hscan⟩

variable {top generation : UInt64} {request : CommitRequest} {recorder : JournalOutcomeRecorder}
  {resolution : ActionResolution}

/-- A record that was given up makes the scan fail; where the scan passes there is none. -/
theorem MemorySound.clean_of_scan {β : Type} (hs : MemorySound P own K s log top)
    {visit : Visitor β} {init acc : β} (hok : scanOutcomeRecords P s visit init = .ok acc) : Clean s.directory log := by
  intro name file hfile
  refine (hs.others name file hfile).resolve_right fun ⟨hgap, hwell⟩ => ?_
  simp only [scanOutcomeRecords, peel] at hok
  obtain ⟨-, result, hloop, -⟩ := hok
  obtain ⟨r, _, _, rfl, hscan⟩ := scanLoop_each hloop file
    (List.mem_map.2 ⟨⟨name, file⟩, OutcomeDirectory.mem_sortedRecords.2 hfile, rfl⟩)
  obtain ⟨-, -, -, -, hnot, -⟩ := scanRecord_ok.1 hscan
  rw [← Bool.not_eq_true, containsUint64_iff hs.kept.headOf.valid.gapsSorted] at hnot
  rw [← (hwell r rfl).2] at hgap
  exact hnot hgap

/-! ## Appending -/

/-- A sequence is reserved, in memory and on disk, and nothing else is under way. -/
structure InFlight (P : OutcomeProtocol) (own : OutcomeJournalHead) (K : Nat) (s : OutcomeJournal)
    (log : List OutcomeJournalRecord) (top : UInt64) : Prop where
  lock : s.lock = true
  intent : s.directory.importIntent = none
  disk : DiskSound P own K s.directory s.head log top
  acknowledged : s.acknowledged ⊆ log
  idle : s.head.pendingSequence = 0 → Clean s.directory log

section
variable {log : List OutcomeJournalRecord}

theorem InFlight.surviving (hs : InFlight P own K s log top) (hidle : s.head.pendingSequence = 0) :
    Surviving P own K s :=
  .kept hs.intent hs.disk hs.acknowledged fun _ => ⟨log, top, hs.disk.kept.memory hidle (hs.idle hidle) hs.acknowledged⟩

theorem MemorySound.storeHead (hs : MemorySound P own K s log top) : MemorySound P own K (s.storeHead h) log top :=
  ⟨hs.kept.moved hs.kept.files, hs.idle, hs.others, hs.acknowledged⟩

theorem surviving_abort (hs : InFlight P own K s log top) (hsequence : s.head.pendingSequence = sequence) :
    Leaves F (Surviving P own K) (abortReserved sequence) s := by
  have hmemory : s.head.pendingSequence ≠ 0 →
      MemorySound P own K (s.setHead (abortedHead s.head)) log s.head.pendingSequence := by
    refine fun hne => ⟨hs.disk.kept.aborted hne (hs.disk.room hne), rfl, fun name file hfile => ?_, hs.acknowledged⟩
    refine (hs.disk.others name file hfile).imp id fun ⟨_, hname, hwell⟩ => ⟨?_, hwell⟩
    rw [hname hne]
    exact List.mem_append_right _ (List.mem_singleton_self _)
  have hunstored : s.head.pendingSequence ≠ 0 → Surviving P own K (s.setHead (abortedHead s.head)) := fun hne =>
    .kept hs.intent hs.disk hs.acknowledged fun _ => ⟨_, _, hmemory hne⟩
  have hstored : s.head.pendingSequence ≠ 0 →
      Surviving P own K ((s.setHead (abortedHead s.head)).storeHead (abortedHead s.head)) := fun hne =>
    .kept hs.intent (hs.disk.aborted hne) hs.acknowledged fun _ => ⟨_, _, (hmemory hne).storeHead⟩
  refine abortReserved_spec.mono ?_ ?_ ?_
  · rintro _ s' ⟨rfl, hne, -, rfl⟩
    exact hstored hne
  · rintro s' (⟨rfl, hrefused⟩ | ⟨rfl, hne, ⟨rfl, -⟩ | ⟨-, -, -, rfl | rfl⟩⟩)
    · -- the abort is refused only if nothing is reserved
      have hzero : s'.head.pendingSequence = 0 := by
        by_contra hne
        exact hrefused ⟨hsequence, hsequence ▸ hne⟩
      exact hs.surviving hzero
    · exact hunstored hne
    · exact hunstored hne
    · exact hstored hne
  · rintro s' ⟨rfl, hne, -, -, rfl | rfl⟩
    · exact (hunstored hne).unlocked
    · exact (hstored hne).unlocked

/-- The record that a commit is about to write, if the authority vouched for its append. -/
theorem Committable.checked (laws : OutcomeLaws P) (hs : InFlight P own K s log top)
    {record : OutcomeJournalRecord} (hc : Committable P s request record)
    (hvouched : ∀ admission, request.admission = some admission → admission.action.ownerID = s.head.ownerID →
      admission.action.agentID = s.head.agentID → Vouched P s.head admission) :
    validatePendingRecord P s.head record = .ok () ∧ BindsGaps P s.head record := by
  obtain ⟨admission, hadmission, hadmitted⟩ := hc.admitted
  have hr := admittedRecord_ok hadmitted
  have hv := hvouched admission hadmission hr.owner hr.agent
  have hbelow : gapsBelow s.head.gaps request.sequence = s.head.gaps := by
    rw [← hc.pending]
    exact hs.disk.kept.headOf.gapsBelow_pending (hc.pending ▸ hc.nonzero)
  obtain ⟨hchecked, hdomain⟩ := checked_of_admitted laws hadmitted hv hbelow
  exact ⟨validatePendingRecord_iff.2 ⟨hchecked, hr.previous, hr.epoch, hr.sequence.trans hc.pending.symm, hdomain⟩,
    _, hr.appendRequest, hv.gaps⟩

variable (hs : InFlight P own K s log top) (hclean : Clean s.directory log)
include hs hclean

theorem InFlight.withRecord {record : OutcomeJournalRecord} (hc : Committable P s request record)
    (hvalid : validatePendingRecord P s.head record = .ok ()) :
    DiskSound P own K (recordWritten s record .wholly).directory s.head log top := by
  have hpending := hs.disk.stored.withPending hclean hc .wholly
  have hp := validatePendingRecord_iff.1 hvalid
  have hname : (record.epoch, record.sequence) = (s.head.writerGeneration, s.head.pendingSequence) := by
    rw [hp.2.2.1, hp.2.2.2.1]
  refine ⟨hpending.head, hs.disk.kept.moved hpending.files, hpending.others,
    fun _ _ => Map.forall_put (hs.disk.readable _ _) ⟨record, rfl, hp.1.size⟩, fun _ r hfile => ?_, hs.disk.room⟩
  replace hfile : (s.directory.records.put (record.epoch, record.sequence) (.whole record)).get? _ = some (.whole r) :=
    hfile
  rw [← hname, Map.get?_put_self] at hfile
  cases hfile
  exact hvalid

variable (laws : OutcomeLaws P)
include laws

theorem InFlight.committed {record : OutcomeJournalRecord} (hc : Committable P s request record)
    (hvalid : validatePendingRecord P s.head record = .ok ()) (hgaps : BindsGaps P s.head record) :
    Kept P own K (recordCommitted s record).directory (s.head.advance record) (log ++ [record]) record.sequence ∧
      Clean (recordCommitted s record).directory (log ++ [record]) := by
  obtain ⟨hstored, hclean'⟩ := hs.disk.stored.withCommitted laws.toCanonicalDigests hclean hc hgaps
  refine ⟨⟨hstored.headOf, hs.disk.kept.identity, fun r hr => (hstored.proper r hr).1,
    List.forall_mem_append.2 ⟨hs.disk.kept.checked, List.forall_mem_singleton.2 ?_⟩, hstored.files,
    hs.disk.kept.gapCount⟩, hclean'⟩
  exact (validatePendingRecord_iff.1 hvalid).1.transfer hs.disk.kept.identity.symm rfl

/-- A commit that fails leaves the sequence reserved, or has taken effect in memory. -/
theorem surviving_commit (hF : ∀ {f}, F f → NoTear f)
    (hvouched : ∀ admission, request.admission = some admission → admission.action.ownerID = s.head.ownerID →
      admission.action.agentID = s.head.agentID → Vouched P s.head admission) :
    After F (commit P request) s (fun _ => Surviving P own K)
    (fun s' => InFlight P own K s' log top ∧ s'.head.pendingSequence = s.head.pendingSequence ∨
        Surviving P own K s' ∧ s'.head.pendingSequence ≠ s.head.pendingSequence)
      fun s' => Surviving P own K (unlocked s') := by
  have hclosed : ∀ {s'}, InFlight P own K s' log top → Surviving P own K (unlocked s') := fun h =>
    .kept h.intent h.disk h.acknowledged nofun
  have hsub : ∀ record, s.acknowledged ⊆ log ++ [record] := fun _ => List.subset_append_of_subset_left _ hs.acknowledged
  -- the record is written, the head is stored, and what the memory has
  have hall : ∀ {record}, Committable P s request record → InFlight P own K (recordWritten s record .wholly) log top ∧
      DiskSound P own K ((recordCommitted s record).storeHead (recordCommitted s record).head).directory
        (s.head.advance record)
        (log ++ [record]) record.sequence ∧
      MemorySound P own K (recordCommitted s record) (log ++ [record]) record.sequence := by
    intro record hc
    obtain ⟨hvalid, hgaps⟩ := hc.checked laws hs hvouched
    obtain ⟨hkept, hclean'⟩ := hs.committed hclean laws hc hvalid hgaps
    refine ⟨⟨hs.lock, hs.intent, hs.withRecord hclean hc hvalid, hs.acknowledged, fun hzero => ?_⟩,
      hkept.stored hclean' (absurd rfl), hkept.memory rfl hclean' (hsub _)⟩
    exact absurd (hc.pending.symm.trans hzero) hc.nonzero
  have hunstored : ∀ {record}, Committable P s request record →
      Surviving P own K (recordCommitted s record) := fun hc =>
    .kept hs.intent (hall hc).1.disk hs.acknowledged fun _ => ⟨_, _, (hall hc).2.2⟩
  have hstored : ∀ {record}, Committable P s request record →
      Surviving P own K ((recordCommitted s record).storeHead (recordCommitted s record).head) := fun hc =>
    .kept hs.intent (hall hc).2.1 (hsub _) fun _ => ⟨_, _, (hall hc).2.2.storeHead⟩
  have hpassed : ∀ {record}, Committable P s request record →
      (s.head.advance record).pendingSequence ≠ s.head.pendingSequence :=
    fun hc hzero => hc.nonzero (hc.pending.symm.trans hzero.symm)
  -- the commit ends, fails or crashes: before the record is written, before the head is, or after it
  refine commit_spec.mono ?_ ?_ ?_
  · rintro record s' ⟨hc, -, rfl⟩
    have hack := List.append_subset.2 ⟨hsub record, List.subset_append_right _ _⟩
    have hm := (hall hc).2.2.storeHead (h := s.head.advance record)
    exact .kept hs.intent (hall hc).2.1 hack fun _ => ⟨_, _, hm.kept, hm.idle, hm.others, hack⟩
  · intro s' hfailed
    cases hfailed with
    | refused => exact .inl ⟨hs, rfl⟩
    | atRecord hfault hc =>
      rename_i record reach
      cases reach with
      | nothing => exact .inl ⟨hs, rfl⟩
      | partly => exact (hF hfault).elim
      | wholly => exact .inl ⟨(hall hc).1, rfl⟩
    | invalid hc hinvalid => exact absurd (hall hc).2.1.kept.headOf.valid hinvalid
    | atHead hfault hc hs' =>
      obtain ⟨-, -, rfl | rfl⟩ := hs'
      · exact .inr ⟨hunstored hc, hpassed hc⟩
      · exact .inr ⟨hstored hc, hpassed hc⟩
  · intro s' hcrashed
    cases hcrashed with
    | atRecord hfault hc =>
      rename_i record reach
      cases reach with
      | nothing => exact hclosed hs
      | partly => exact (hF hfault).elim
      | wholly => exact hclosed (hall hc).1
    | atHead hc hs' =>
      obtain ⟨-, -, rfl | rfl⟩ := hs'
      · exact (hunstored hc).unlocked
      · exact (hstored hc).unlocked

/-- From the reservation to the commit of the recorder. -/
theorem surviving_commitReserved (hF : ∀ {f}, F f → NoTear f) {authority : AppendAuthority}
    (hauthority : authority.Honest P) {before : OutcomeJournal} {now : Time}
    (hwriter : currentWriter P before recorder.fence now = .ok ()) (hid : sameIdentity s.head before.head)
    (hgen : s.head.writerGeneration = before.head.writerGeneration)
    {contentID : String} {eventPayload : Bytes} {artifacts : ArtifactBundle} :
    After F (commitReserved P recorder authority action resolution now contentID eventPayload artifacts sequence) s
    (fun _ => Surviving P own K)
    (fun s' => InFlight P own K s' log top ∧ s'.head.pendingSequence = s.head.pendingSequence ∨
        Surviving P own K s' ∧ s'.head.pendingSequence ≠ s.head.pendingSequence)
      fun s' => Surviving P own K (unlocked s') := by
  refine after_bind (after_read (after_check (.inl ⟨hs, rfl⟩) fun envelope _ => ?_))
  refine after_check (.inl ⟨hs, rfl⟩) fun envelopeDigest _ => ?_
  refine after_check (.inl ⟨hs, rfl⟩) fun admitted happend => ?_
  obtain ⟨admission, state⟩ := admitted
  refine after_bind ((surviving_commit hs hclean laws hF ?_).imp fun _ _ h => after_pure h)
  rintro _ hadmission howner hagent
  cases hadmission
  exact vouched_of_append laws hauthority hwriter hid hgen happend howner hagent

end

theorem MemorySound.reserved (hlock : s.lock = true) (hintent : s.directory.importIntent = none)
    (hs : MemorySound P own K s log top) (hclean : Clean s.directory log) (hroom : s.head.gaps.length < K)
    (hvalid : ValidHead (reservedHead s.head)) :
    InFlight P own K ((s.setHead (reservedHead s.head)).storeHead (reservedHead s.head)) log top where
  lock := hlock
  intent := hintent
  disk := (hs.kept.reserved hvalid).stored hclean fun _ => hroom
  acknowledged := hs.acknowledged
  idle _ := hclean

theorem surviving_record (laws : OutcomeLaws P) (hF : ∀ {f}, F f → NoTear f) (hs : Surviving P own K s)
    (hintent : s.directory.importIntent = none) (hroom : s.head.gaps.length < K)
    {authority : AppendAuthority} (hauthority : authority.Honest P) {observedAt : Time} :
    Leaves F (Surviving P own K) (recordActionResolution P recorder authority action resolution observedAt) s := by
  refine after_check hs fun _ _ => ?_
  refine after_check hs fun _ _ => ?_
  refine after_check hs fun _ _ => ?_
  refine after_check hs fun _ _ => ?_
  refine after_bind (after_read (after_check hs fun _ hopen => ?_))
  rw [refuse_ok, Bool.not_eq_false] at hopen
  obtain ⟨log, top, hmemory⟩ := hs.opened hopen hintent
  refine after_check hs fun found hfound => ?_
  have hclean : Clean s.directory log := by
    simp only [actionResolutionRecord, peel] at hfound
    exact hmemory.clean_of_scan hfound.2
  cases found with
  | some record => exact after_lift (fun _ _ => hs) fun _ _ => hs
  | none =>
    refine after_check hs fun event _ => ?_
    obtain ⟨contentID, eventPayload, artifacts⟩ := event
    -- the reservation may be on disk while the memory has none
    have hstored : ValidHead (reservedHead s.head) → Surviving P own K (s.storeHead (reservedHead s.head)) := by
      intro hvalid
      have hflight := hmemory.reserved hopen hintent hclean hroom hvalid
      exact .kept hintent hflight.disk hmemory.acknowledged fun _ => ⟨log, top, hmemory.storeHead⟩
    refine after_bind (reserve_spec.mono ?_ ?_ ?_)
    · rintro sequence s' ⟨hres, rfl, hvalid, rfl⟩
      have hflight := hmemory.reserved hopen hintent hclean hroom hvalid
      refine after_bind (after_attempt ((surviving_commitReserved hflight hclean laws hF hauthority hres.writer
        ⟨rfl, rfl, rfl, rfl, rfl⟩ rfl).mono ?_ ?_ fun _ h => h))
      · rintro ⟨admission, state, envelopeDigest⟩ s' hs'
        show After F (if state = .terminal then pure () else lift _) s' _ _ _
        split
        · exact after_pure hs'
        · exact after_lift (fun _ _ => hs') fun _ _ => hs'
      · intro s' hs' msg
        refine after_bind (after_attempt ?_)
        rcases hs' with ⟨hflight', hsequence⟩ | ⟨hs', hne⟩
        · exact (surviving_abort hflight' hsequence).mono (fun _ _ h => after_fail h) (fun _ h _ => after_fail h)
            fun _ h => h
        · -- the commit has passed: there is nothing to give up
          refine abortReserved_spec.mono ?_ ?_ ?_
          · rintro _ _ ⟨hsame, -⟩
            exact absurd hsame hne
          · rintro _ (⟨rfl, -⟩ | ⟨hsame, -⟩) _
            · exact after_fail hs'
            · exact absurd hsame hne
          · rintro _ ⟨hsame, -⟩
            exact absurd hsame hne
    · rintro s' (rfl | ⟨-, -, hvalid, rfl⟩)
      · exact hs
      · exact hstored hvalid
    · rintro s' ⟨-, -, hvalid, rfl | rfl⟩
      · exact hs.closed rfl rfl rfl
      · exact (hstored hvalid).closed rfl rfl rfl

/-! ## Importing -/

theorem eq_of_sequence (hsorted : log.Pairwise (·.sequence < ·.sequence))
    {r' : OutcomeJournalRecord} (hr : r ∈ log) (hr' : r' ∈ log) (heq : r.sequence = r'.sequence) : r = r' := by
  have hnodup := List.pairwise_map.2 (hsorted.imp ne_of_lt)
  exact List.inj_on_of_nodup_map hnodup hr hr' heq

section
variable {a : OutcomeJournalArchive}

theorem Importing.put (hs : Importing P own K s a) (hr : r ∈ a.records) :
    Importing P own K (s.putRecord (r.epoch, r.sequence) (.whole r)) a where
  intent := hs.intent
  accepted := hs.accepted
  size := hs.size
  whole := hs.whole
  gapCount := hs.gapCount
  files _ _ := Map.forall_put (hs.files _ _) ⟨r, hr, rfl, rfl⟩
  acknowledged := hs.acknowledged
  identity := hs.identity

/-- Record files are only added, and only records of the archive; the files that are there already are the same. -/
theorem importing_materialize (hF : ∀ {f}, F f → NoTear f) (hs : Importing P own K s a) :
    After F (materializeArchiveRecords a) s
      (fun _ s' => Importing P own K s' a ∧ s'.head = s.head ∧ s'.lock = s.lock ∧
        ∀ r ∈ a.records, s'.directory.records.get? (r.epoch, r.sequence) = some (.whole r))
      (fun s' => Importing P own K s' a ∧ Faulty F) (fun s' => Importing P own K s' a) := by
  have hsorted := (acceptedArchive_of_validate hs.accepted).chain.sorted
  refine (after_forEach (fun visited s' => Importing P own K s' a ∧ s'.head = s.head ∧ s'.lock = s.lock ∧
    ∀ r ∈ visited, s'.directory.records.get? (r.epoch, r.sequence) = some (.whole r)) a.records
    (fun visited r rest s' hall hs' => ?_) _ [] s rfl ⟨hs, rfl, rfl, by simp⟩)
  obtain ⟨hs', hhead, hlock, hvisited⟩ := hs'
  have hr : r ∈ a.records := by rw [hall]; simp
  have hput : ∀ b ∈ visited ++ [r],
      (s'.putRecord (r.epoch, r.sequence) (.whole r)).directory.records.get? (b.epoch, b.sequence) =
        some (.whole b) := by
    refine List.forall_mem_append.2 ⟨fun b hb => ?_, List.forall_mem_singleton.2 Map.get?_put_self⟩
    show (s'.directory.records.put (r.epoch, r.sequence) (.whole r)).get? (b.epoch, b.sequence) = some (.whole b)
    rw [Map.get?_put]
    split
    · rename_i hname
      have hba : b ∈ a.records := by rw [hall]; exact List.mem_append_left _ hb
      rw [eq_of_sequence hsorted hba hr (Prod.mk.inj hname).2]
    · exact hvisited b hb
  refine after_bind (after_read ?_)
  cases hfile : s'.directory.records.get? (r.epoch, r.sequence) with
  | none =>
    refine after_bind (after_read (after_bind (after_lift (fun _ _ => ?_) fun _ herr => ?_)))
    · refine after_disk ⟨hs'.put hr, hhead, hlock, hput⟩ (fun reach hfault => ?_) fun reach hfault => ?_
      · cases reach with
        | nothing => exact ⟨hs', _, hfault⟩
        | partly => exact (hF hfault).elim
        | wholly => exact ⟨hs'.put hr, _, hfault⟩
      · cases reach with
        | nothing => exact hs'
        | partly => exact (hF hfault).elim
        | wholly => exact hs'.put hr
    · have hthere := (refuse_error.1 herr).1
      rw [Map.has_false_iff.2 hfile] at hthere
      cases hthere
  | some file =>
    obtain ⟨b, hb, hname, rfl⟩ := hs'.files _ _ hfile
    cases eq_of_sequence hsorted hb hr (Prod.mk.inj hname).2
    have hall := List.forall_mem_append.2 ⟨hvisited, List.forall_mem_singleton.2 hfile⟩
    exact after_lift (fun _ _ => ⟨hs', hhead, hlock, hall⟩) fun _ herr => absurd rfl (refuse_error.1 herr).1

theorem Importing.imported (hs : Importing P own K s a) (hid : sameIdentity s.head own)
    (hidle : s.head.pendingSequence = 0)
    (hepochs : ∀ r ∈ a.records, r.epoch ≤ s.head.writerGeneration) (hvalid : ValidHead (s.head.imported a))
    (hall : ∀ r ∈ a.records, s.directory.records.get? (r.epoch, r.sequence) = some (.whole r)) :
    ∃ top, Kept P own K s.directory (s.head.imported a) a.records top := by
  have ha := acceptedArchive_of_validate hs.accepted
  obtain ⟨top, hhistory⟩ := ha.history hs.whole
  have hgaps := imported_gaps s.head a
  refine ⟨top, ⟨hvalid, hgaps ▸ hhistory, ha.last, ha.checksum, ha.envelope, fun hne => absurd hidle hne, hepochs⟩, hid,
    hs.whole.schema, fun r hr => hgaps ▸ (ha.chain.checked r hr).1, hall, hgaps ▸ hs.gapCount⟩

/-- The end of an import: from the intent to the head that commits the archive. -/
theorem surviving_finishImport (hF : ∀ {f}, F f → NoTear f) (hs : Importing P own K s a) (hlock : s.lock = true)
    (hidle : s.head.pendingSequence = 0) (hepochs : ∀ r ∈ a.records, r.epoch ≤ s.head.writerGeneration) :
    After F (do materializeArchiveRecords a; promoteImportedArchive a) s
      (fun _ s' => ∃ top, InFlight P own K s' a.records top ∧ s'.head = s.head.imported a)
      (fun s' => Surviving P own K s' ∧ (HeadShape s.head → Faulty F)) fun s' => Surviving P own K (unlocked s') := by
  have hid := hs.identity hlock
  refine after_bind
    ((importing_materialize hF hs).mono ?_ (fun s' hs' => ⟨.importing hs'.1, fun _ => hs'.2⟩) fun s' hs' =>
    (Surviving.importing hs').unlocked)
  rintro _ s' ⟨hs', hhead, hlock', hall⟩
  rw [← hhead] at hidle hepochs hid
  rw [hlock] at hlock'
  -- the intent is there until the head has been written
  have himporting : Importing P own K (s'.setHead (s'.head.imported a)) a := { hs' with identity := fun _ => hid }
  let stored := (s'.setHead (s'.head.imported a)).storeHead (s'.head.imported a)
  have hpersisted : Importing P own K stored a := { hs' with identity := fun _ => hid }
  refine after_bind (after_modify (after_bind (persistHead_after ?_ fun hvalid => ⟨?_, ?_, ?_⟩)))
  · rintro (hinvalid | hclosed)
    · refine ⟨.importing himporting, fun hshape => absurd ?_ hinvalid⟩
      exact (acceptedArchive_of_validate hs'.accepted).valid.imported (hhead ▸ hshape) hidle
    · cases hclosed.symm.trans hlock'
  · obtain ⟨top, hkept⟩ := hs'.imported hid hidle hepochs hvalid hall
    have hclean : Clean s'.directory a.records := fun name file hfile =>
      let ⟨r, hr, hname, _⟩ := hs'.files name file hfile
      ⟨r, hr, hname⟩
    have hkept' : Kept P own K (stored.setIntent none).directory (s'.head.imported a) a.records top :=
      hkept.moved hkept.files
    have hack : s'.acknowledged ⊆ a.records := by rw [hs'.acknowledged]; exact List.nil_subset _
    have hdone : InFlight P own K (stored.setIntent none) a.records top :=
      ⟨hlock', rfl, hkept'.disk rfl hclean fun hne => absurd hidle hne, hack, fun _ => hclean⟩
    have hsurvives := hdone.surviving hidle
    refine after_bind
      (after_atomic ?_ (fun hfault => ⟨⟨.importing hpersisted, fun _ => hfault⟩, hsurvives, fun _ => hfault⟩)
      fun _ => ⟨(Surviving.importing hpersisted).unlocked, hsurvives.unlocked⟩)
    exact after_atomic ⟨top, hdone, by rw [← hhead]; rfl⟩
      (fun hfault => ⟨⟨hsurvives, fun _ => hfault⟩, hsurvives, fun _ => hfault⟩)
      fun _ => ⟨hsurvives.unlocked, hsurvives.unlocked⟩
  · exact fun hfault => ⟨⟨.importing himporting, fun _ => hfault⟩, .importing hpersisted, fun _ => hfault⟩
  · exact ⟨(Surviving.importing himporting).unlocked, (Surviving.importing hpersisted).unlocked⟩

theorem surviving_import (laws : OutcomeLaws P) (hF : ∀ {f}, F f → NoTear f) (hs : Surviving P own K s)
    (hfiles : ∀ name file, s.directory.records.get? name = some file → ∃ r ∈ a.records, (r.epoch, r.sequence) = name ∧
      file = .whole r)
    (hwhole : WholeArchive a) (hgaps : a.head.gaps.length ≤ K)
    (hepochs : ∀ r ∈ a.records, r.epoch ≤ s.head.writerGeneration)
    {resolver : OperationResolver} {now : Time} : Leaves F (Surviving P own K) (importArchive P a resolver now) s := by
  refine after_bind (after_read (after_check hs fun _ _ => ?_))
  refine after_check hs fun _ htarget => ?_
  simp only [refuse_ok, passed] at htarget
  obtain ⟨hlock, hlast, hidle, -, -⟩ := htarget
  refine after_check hs fun _ hvalidated => ?_
  refine after_check hs fun _ hsize => ?_
  rw [refuse_ok, not_lt] at hsize
  -- an empty journal has acknowledged nothing
  have hown : sameIdentity s.head own ∧ s.acknowledged = [] := by
    cases hs with
    | importing h => exact ⟨h.identity hlock, h.acknowledged⟩
    | absent _ _ _ hclosed => cases hclosed.symm.trans hlock
    | kept _ _ _ hmemory =>
      obtain ⟨log, top, hm⟩ := hmemory hlock
      refine ⟨hm.kept.identity, List.eq_nil_iff_forall_not_mem.2 fun r hr => ?_⟩
      have hle := hm.kept.headOf.history.le_lastOf (hm.acknowledged hr)
      rw [← hm.kept.headOf.last, hlast] at hle
      exact absurd ((hm.kept.headOf.history.covers _).1 (.inl ⟨r, hm.acknowledged hr, rfl⟩)).1 (not_lt.2 hle)
  have himporting : Importing P own K (s.setIntent (some a)) a :=
    ⟨rfl, validateArchiveRecords_self laws hvalidated hown.1.symm, hsize, hwhole, hgaps, hfiles, hown.2,
      fun _ => hown.1⟩
  refine after_bind (after_atomic ?_ (fun _ => ⟨hs, .importing himporting⟩) fun _ =>
    ⟨hs.unlocked, (Surviving.importing himporting).unlocked⟩)
  refine (surviving_finishImport hF himporting hlock hidle hepochs).mono ?_ (fun _ h => h.1) fun _ h => h
  rintro _ s' ⟨top, hs', hhead⟩
  exact hs'.surviving (by rw [hhead]; exact hidle)

end

/-! ## Opening -/

/-- Whose journal a directory is. -/
def ownHead (P : OutcomeProtocol) (id : JournalIdentity) : OutcomeJournalHead :=
  freshHead id (match outcomeOrderingDomain P id with | .ok domain => domain | .error _ => "") 0

/-- Every valid head with up to `K` gaps fits into the bound on the head's file. -/
def HeadsFit (P : OutcomeProtocol) (own : OutcomeJournalHead) (K : Nat) : Prop :=
  ∀ h, sameIdentity h own → ValidHead h → h.gaps.length ≤ K → P.headBytes h ≤ 2 ^ 20

/-- Opening a directory without an import intent; the only reason to refuse it is a generation that is behind. -/
theorem surviving_recoverStored (hcanon : CanonicalDigests P) (hfit : HeadsFit P own K)
    (hlock : s.lock = true) (hid : sameIdentity s.head own)
    (hintent : s.directory.importIntent = none) (hd : DiskSound P own K s.directory h log top)
    (hack : s.acknowledged ⊆ log) :
    After F (recoverStoredHead P generation) s (fun _ s' => ∃ log top, InFlight P own K s' log top ∧
      s'.head.pendingSequence = 0)
    (fun s' => Surviving P own K (unlocked s') ∧ (h.writerGeneration ≤ generation → Faulty F))
      fun s' => Surviving P own K (unlocked s') := by
  refine after_bind (after_read ?_)
  rw [hd.head]
  refine after_bind (after_lift (fun h' hrecovered => ?_) fun _ herr => ⟨.kept hintent hd hack nofun, fun hgen => ?_⟩)
  · obtain ⟨log', top', hsettles⟩ := hd.stored.settles hrecovered
    -- while files are being moved the old head is still the one on disk
    have htidying : ∀ {s'}, Tidied P h' (s.setHead h') s' → Surviving P own K (unlocked s') := by
      intro s' ht
      have hstored := Settles.tidiedUnder (t := s.setHead h') hd.stored hsettles ht
      have hdisk : DiskSound P own K s'.directory h log top :=
        ⟨hstored.head, hd.kept.moved hstored.files, hstored.others, fun name file hfile =>
          hd.readable name file (ht.kept hfile), fun hne r hfile => hd.pending hne r (ht.kept hfile), hd.room⟩
      obtain ⟨records, rfl⟩ := ht.exists
      exact .kept hintent hdisk hack nofun
    refine after_bind (after_modify (after_bind (reconcileDurableRecords_spec.mono ?_ ?_ fun _ => htidying)))
    · rintro _ s' ⟨ht, hall⟩
      obtain ⟨hstored, hclean⟩ := Settles.tidied (t := s.setHead h') hsettles ht hall
      have hkept := (Kept.settled hd hsettles).moved hstored.files
      obtain ⟨hopened, hhead⟩ : InFlight P own K (s'.storeHead s'.head) log' top' ∧ s'.head = h' := by
        obtain ⟨records, rfl⟩ := ht.exists
        exact ⟨⟨hlock, hintent, hkept.stored hclean fun hne => absurd hsettles.idle hne,
          fun r hr => hsettles.extends_.subset (hack hr), fun _ => hclean⟩, rfl⟩
      have hidle := hhead ▸ hsettles.idle
      have hsurvives := (hopened.surviving hidle).unlocked
      refine persistHead_after ?_ fun _ => ⟨⟨log', top', hopened, hidle⟩, fun hfault => ?_, htidying ht, hsurvives⟩
      · rintro (hinvalid | hclosed)
        · exact absurd (hhead ▸ hsettles.headOf.valid) hinvalid
        · cases hclosed.symm.trans hopened.lock
      · exact ⟨⟨htidying ht, fun _ => hfault⟩, hsurvives, fun _ => hfault⟩
    · rintro s' ⟨ht, hfault | hirreconcilable⟩
      · exact ⟨htidying ht, fun _ => hfault⟩
      · exact absurd hirreconcilable (hd.reconcilable hsettles)
  · obtain ⟨h', hok⟩ := hd.recovers hcanon (hfit h hd.kept.identity hd.kept.headOf.valid hd.kept.gapCount) hid hgen
    rw [hok] at herr
    cases herr

/-- What the generation of an opening is compared with: the head on disk, unless an import replaces it. -/
def NotBehind (s : OutcomeJournal) (generation : UInt64) : Prop :=
  s.directory.importIntent = none → ∀ h, s.directory.head = some h → h.writerGeneration ≤ generation

theorem surviving_recoverHead (laws : OutcomeLaws P) (hfit : HeadsFit P own K) (hF : ∀ {f}, F f → NoTear f)
    (hs : Surviving P own K (unlocked s)) (hlock : s.lock = true) (hid : sameIdentity s.head own)
    (hhead : s.head = freshHead id domain generation)
    (hepochs : ∀ a, s.directory.importIntent = some a → ∀ r ∈ a.records, r.epoch ≤ generation) :
    After F (recoverHead P generation) s (fun _ s' => ∃ log top, InFlight P own K s' log top ∧
      s'.head.pendingSequence = 0)
    (fun s' => Surviving P own K (unlocked s') ∧ (HeadShape s.head → NotBehind s generation → Faulty F))
      fun s' => Surviving P own K (unlocked s') := by
  have hidle : s.head.pendingSequence = 0 := by rw [hhead]; rfl
  have hgeneration : s.head.writerGeneration = generation := by rw [hhead]; rfl
  refine after_bind (after_bind (after_read ?_))
  cases hs with
  | importing hi =>
    rename_i a
    replace hi : Importing P own K s a := { hi with identity := fun _ => hid }
    rw [hi.intent]
    -- the archive was accepted for this journal before
    refine after_passes (refuse_ok.2 (not_lt.2 hi.size))
      (after_passes (validateArchiveRecords_self laws hi.accepted hid) ?_)
    refine (surviving_finishImport hF hi hlock hidle (hgeneration.symm ▸ hepochs a hi.intent)).mono ?_
      (fun s' hs' => ⟨hs'.1.unlocked, fun hshape _ => hs'.2 hshape⟩) fun _ hs' => hs'
    rintro _ s' ⟨top, hs', himported⟩
    have hid' : sameIdentity s'.head own := by rw [himported]; exact hid
    refine (surviving_recoverStored laws.toCanonicalDigests hfit hs'.lock hid' hs'.intent hs'.disk
      hs'.acknowledged).mono
      (fun _ _ h => h) (fun _ h => ⟨h.1, fun _ _ => h.2 ?_⟩) fun _ h => h
    rw [himported]
    exact hgeneration.le
  | absent hintent hnone hrecords _ hack =>
    replace hintent : s.directory.importIntent = none := hintent
    replace hnone : s.directory.head = none := hnone
    rw [hintent]
    refine after_pure (after_bind (after_read ?_))
    rw [hnone]
    -- the first opening writes the fresh head
    have hclosed : Surviving P own K (unlocked s) := .absent hintent hnone hrecords rfl hack
    have hgaps : s.head.gaps = [] := by rw [hhead]; rfl
    have hlast : s.head.lastSequence = 0 ∧ s.head.lastEnvelopeDigest = "" ∧ s.head.lastRecordChecksum = "" := by
      rw [hhead]; exact ⟨rfl, rfl, rfl⟩
    have hclean : Clean s.directory [] := by
      intro name file hfile
      rw [show s.directory.records = ∅ from hrecords, Map.get?_empty] at hfile
      cases hfile
    have hopened : ValidHead s.head → InFlight P own K (s.storeHead s.head) [] 0 := by
      intro hvalid
      have hkept : Kept P own K s.directory s.head [] 0 :=
        ⟨.fresh hvalid hlast.1 hgaps hidle, hid, by simp, by simp, by simp, by rw [hgaps]; exact Nat.zero_le _⟩
      exact ⟨hlock, hintent, hkept.stored hclean fun hne => absurd hidle hne,
        by rw [show (s.storeHead s.head).acknowledged = [] from hack]; exact List.nil_subset _, fun _ => hclean⟩
    refine persistHead_after ?_ fun hvalid => ?_
    · rintro (hinvalid | hopen)
      · refine ⟨hclosed, fun hshape _ => absurd ⟨hshape, .inl hlast, ?_, ?_, fun hne => absurd hidle hne⟩ hinvalid⟩
        · rw [hgaps]; simp
        · rw [hgaps]; exact .nil
      · cases hopen.symm.trans hlock
    · have hsurvives := ((hopened hvalid).surviving hidle).unlocked
      exact ⟨⟨[], 0, hopened hvalid, hidle⟩, fun hfault => ⟨⟨hclosed, fun _ _ => hfault⟩, hsurvives, fun _ _ => hfault⟩,
        hclosed, hsurvives⟩
  | kept hintent hdisk hack _ =>
    replace hintent : s.directory.importIntent = none := hintent
    rw [hintent]
    refine after_pure ?_
    refine (surviving_recoverStored laws.toCanonicalDigests hfit hlock hid hintent hdisk hack).mono (fun _ _ h => h)
      (fun _ h => ⟨h.1, fun _ hbehind => h.2 (hbehind hintent _ hdisk.head)⟩) fun _ h => h

/-- The journal can be opened with this fence at this time. -/
structure Openable (P : OutcomeProtocol) (id : JournalIdentity) (s : OutcomeJournal) (fence : SignedFence)
    (now : Time) : Prop where
  closed : s.lock = false
  checks : ∃ domain, openChecks P id fence now = .ok domain
  generation : NotBehind s fence.body.writerGeneration

theorem Openable.closing {fence : SignedFence} {now : Time} (domain : String)
    (hchecks : openChecks P id fence now = .ok domain)
    (hhead : s.directory.head.map (·.writerGeneration) = some generation)
    (hle : generation ≤ fence.body.writerGeneration) :
    Openable P id (unlocked s) fence now := by
  refine ⟨rfl, ⟨domain, hchecks⟩, fun _ h hsome => ?_⟩
  rw [show s.directory.head = some h from hsome, Option.map_some] at hhead
  rw [Option.some.inj hhead]
  exact hle

theorem openChecks_ok (laws : OutcomeLaws P) {fence : SignedFence} {now : Time}
    (hok : openChecks P id fence now = .ok domain) :
    sameIdentity (freshHead id domain fence.body.writerGeneration) (ownHead P id) ∧
      HeadShape (freshHead id domain fence.body.writerGeneration) := by
  simp only [openChecks, peel, passed] at hok
  obtain ⟨⟨howner, hagent, hauthority, -⟩, ⟨-, -, -, hgeneration, -⟩, -, -, hdomain⟩ := hok
  refine ⟨⟨rfl, rfl, rfl, ?_, rfl⟩, ?_⟩
  · show domain = (ownHead P id).orderingDomain
    simp only [ownHead, freshHead, hdomain]
  · simp only [outcomeOrderingDomain, peel, passed] at hdomain
    exact ⟨rfl, howner, hagent, hauthority, laws.domain hdomain.2, hdomain.1.2.2.2.2, hgeneration⟩

/-- Opening a surviving journal: it succeeds unless the disk fails or the fence is not one to open with. -/
theorem surviving_open (laws : OutcomeLaws P) (hfit : HeadsFit P (ownHead P id) K)
    (hF : ∀ {f}, F f → NoTear f) (hs : Surviving P (ownHead P id) K s) {fence : SignedFence} (now : Time)
    (hepochs : ∀ a, s.directory.importIntent = some a → ∀ r ∈ a.records, r.epoch ≤ fence.body.writerGeneration) :
    After F (openOutcomeJournal P id fence now) s
    (fun _ s' => ∃ log top, InFlight P (ownHead P id) K s' log top ∧ s'.head.pendingSequence = 0)
    (fun s' => Surviving P (ownHead P id) K s' ∧ (Openable P id s fence now → Faulty F))
      fun s' => Surviving P (ownHead P id) K (unlocked s') := by
  refine after_bind
    (after_read (after_bind (after_lift (fun domain hchecks => ?_) fun _ herr => ⟨hs, fun hopenable => ?_⟩)))
  · refine after_bind (after_lift (fun _ hfree => ?_) fun _ herr => ⟨hs, fun hopenable => ?_⟩)
    · obtain ⟨hid, hshape⟩ := openChecks_ok laws hchecks
      refine after_bind (after_modify (after_bind (after_attempt ?_)))
      have hclosed : Surviving P (ownHead P id) K
          (unlocked { s with head := freshHead id domain fence.body.writerGeneration, lock := true }) :=
            hs.closed rfl rfl rfl
      refine (surviving_recoverHead laws hfit hF hclosed rfl hid rfl hepochs).mono
        (fun _ _ hs' => after_pure hs') (fun s' hs' msg => ?_) fun _ hs' => hs'
      exact after_bind (after_modify (after_fail ⟨hs'.1, fun hopenable => hs'.2 hshape hopenable.generation⟩))
    · cases hopenable.closed.symm.trans (refuse_error.1 herr).1
  · obtain ⟨domain, hok⟩ := hopenable.checks
    rw [hok] at herr
    cases herr

/-! ## Runs -/

/-- The event is one the journal survives: no write leaves half a file; the recorder does not append over an import
intent, has an honest append authority and room for a gap; an import finds only records of its own archive, and the
archive is one a journal of a generation up to this one exports; and an opening that finishes an import has a
generation that is not behind the archive's. -/
def Harmless (P : OutcomeProtocol) (id : JournalIdentity) (K : Nat) (s : OutcomeJournal) (e : OutcomeEvent) : Prop :=
  Untorn (e.call.prog P id) ⟨s, e.faults⟩ ∧
    match e.call with
    | .open fence _ => ∀ a, s.directory.importIntent = some a → ∀ r ∈ a.records, r.epoch ≤ fence.body.writerGeneration
    | .close => True
    | .record _ authority _ _ _ => s.directory.importIntent = none ∧ authority.Honest P ∧ s.head.gaps.length < K
    | .importArchive a _ _ =>
      (∀ name file, s.directory.records.get? name = some file → ∃ r ∈ a.records, (r.epoch, r.sequence) = name ∧
        file = .whole r) ∧
        WholeArchive a ∧ a.head.gaps.length ≤ K ∧ ∀ r ∈ a.records, r.epoch ≤ s.head.writerGeneration
    | .reserve .. | .abort .. | .commit .. => False

section
variable {id : JournalIdentity}

theorem step_untorn {faults : List Fault}
    (hresult : (e.call.prog P id ⟨s, faults⟩).1 = (e.call.prog P id ⟨s, e.faults⟩).1)
    (hstate : (e.call.prog P id ⟨s, faults⟩).2.state = (e.call.prog P id ⟨s, e.faults⟩).2.state) :
    s.step P id ⟨e.call, faults⟩ = s.step P id e := by
  simp only [OutcomeJournal.step]
  rcases hx : e.call.prog P id ⟨s, faults⟩ with ⟨r, w⟩
  rcases hy : e.call.prog P id ⟨s, e.faults⟩ with ⟨r', w'⟩
  rw [hx, hy] at hresult hstate
  cases hresult
  replace hstate : w.state = w'.state := hstate
  rcases r with (msg | _) | _ <;> simp only [hstate]

theorem surviving_step (laws : OutcomeLaws P) (hfit : HeadsFit P (ownHead P id) K) (hs : Surviving P (ownHead P id) K s)
    (he : Harmless P id K s e) : Surviving P (ownHead P id) K (s.step P id e) := by
  have hafter : Leaves NoTear (Surviving P (ownHead P id) K) (e.call.prog P id) s := by
    obtain ⟨call, faults⟩ := e
    obtain ⟨-, he⟩ := he
    cases call with
    | «open» fence now =>
      refine (surviving_open laws hfit (fun h => h) hs _ he).mono ?_ (fun _ h => h.1) fun _ h => h
      rintro _ s' ⟨log, top, hs', hidle⟩
      exact hs'.surviving hidle
    | close => exact after_modify (f := unlocked) (hs.unlocked)
    | record recorder authority action resolution observedAt =>
      obtain ⟨hintent, hauthority, hroom⟩ := he
      exact surviving_record laws (fun h => h) hs hintent hroom hauthority
    | importArchive a resolver now =>
      obtain ⟨hfiles, hwhole, hgaps, hepochs⟩ := he
      exact surviving_import laws (fun h => h) hs hfiles hwhole hgaps hepochs
    | reserve fence now => exact he.elim
    | abort sequence => exact he.elim
    | commit request => exact he.elim
  obtain ⟨⟨faults, hfaults, hresult, hstate⟩, -⟩ := he
  exact step_untorn hresult hstate ▸ step_of_after (e := ⟨e.call, faults⟩) hafter hfaults

theorem surviving_run (laws : OutcomeLaws P) (hfit : HeadsFit P (ownHead P id) K) {es : List OutcomeEvent}
    (hes : Along (OutcomeJournal.step P id) (Harmless P id K) (OutcomeJournal.absent id) es) :
    Surviving P (ownHead P id) K (OutcomeJournal.run P id es) :=
  invariant_along (fun _ _ hs he => surviving_step laws hfit hs he)
    (.absent rfl rfl rfl rfl rfl) hes

theorem InFlight.records (hs : InFlight P own K s log top)
    (hidle : s.head.pendingSequence = 0) : s.committed = log ∧ ∀ limit, limit ≠ 0 → log.length ≤ limit → limit ≤ 10000 →
    (log.map P.recordBytes).sum ≤ maxOutcomeJournalResultBytes → records P s limit = .ok log := by
  have hcommitted : s.committed = log := by
    unfold OutcomeJournal.committed
    rw [hs.disk.head]
    exact hs.disk.stored.committedRecords
  exact ⟨hcommitted, fun limit hpos hlimit hmax hbytes =>
    (hs.disk.kept.readable (hs.idle hidle)).records hpos hlimit hmax hbytes⟩

/-- In every state that a run of harmless events reaches, the directory can be opened by every writer that is not
behind it; and after an opening that succeeds, every acknowledged record is among the committed records, which `Records`
returns if it is asked for that many. -/
theorem journal_survives_failures (laws : OutcomeLaws P) (hfit : HeadsFit P (ownHead P id) K) {es : List OutcomeEvent}
    (hes : Along (OutcomeJournal.step P id) (Harmless P id K) (OutcomeJournal.absent id) es) :
    (∀ fence now, Harmless P id K (OutcomeJournal.run P id es) ⟨.open fence now, []⟩ →
      Openable P id (unlocked (OutcomeJournal.run P id es)) fence now →
      (openOutcomeJournal P id fence now ⟨unlocked (OutcomeJournal.run P id es), []⟩).1 = .ok ()) ∧
    ∀ fence now faults, Harmless P id K (OutcomeJournal.run P id es) ⟨.open fence now, faults⟩ →
      (openOutcomeJournal P id fence now ⟨OutcomeJournal.run P id es, faults⟩).1 = .ok () →
      ∃ s', s' = OutcomeJournal.run P id (es ++ [⟨.open fence now, faults⟩]) ∧ s'.acknowledged ⊆ s'.committed ∧
        ∀ limit, limit ≠ 0 → s'.committed.length ≤ limit → limit ≤ 10000 →
          (s'.committed.map P.recordBytes).sum ≤ maxOutcomeJournalResultBytes →
            records P s' limit = .ok s'.committed := by
  have hs := surviving_run laws hfit hes
  refine ⟨fun fence now hopen hopenable => ?_, fun fence now faults hopen hok => ⟨_, rfl, ?_⟩⟩
  · have hafter := surviving_open laws hfit (fun hf : False => hf.elim) hs.unlocked now hopen.2
    obtain ⟨-, hresult⟩ := hafter [] (by simp)
    rcases hx : openOutcomeJournal P id fence now ⟨unlocked (OutcomeJournal.run P id es), []⟩ with ⟨r, w⟩
    rw [hx] at hresult
    rcases r with (msg | _) | _
    · obtain ⟨-, hfaulty⟩ := hresult
      exact no_fault (hfaulty hopenable)
    · exact no_fault hresult.1
    · rfl
  · obtain ⟨⟨faults', hfaults', hsame, hstate⟩, hopen⟩ := hopen
    obtain ⟨-, hresult⟩ := surviving_open laws hfit (fun hf => hf) hs now hopen faults' hfaults'
    replace hstate : (openOutcomeJournal P id fence now ⟨OutcomeJournal.run P id es, faults'⟩).2.state =
      (openOutcomeJournal P id fence now ⟨OutcomeJournal.run P id es, faults⟩).2.state := hstate
    rw [show (openOutcomeJournal P id fence now _).1 = .ok () from hsame.trans hok, hstate] at hresult
    obtain ⟨log, top, hs', hidle⟩ := hresult
    have hstep : OutcomeJournal.run P id (es ++ [⟨.open fence now, faults⟩]) =
        (openOutcomeJournal P id fence now ⟨OutcomeJournal.run P id es, faults⟩).2.state := by
      rw [OutcomeJournal.run, exec_snoc]
      show OutcomeJournal.step P id (OutcomeJournal.run P id es) ⟨.open fence now, faults⟩ = _
      simp only [OutcomeJournal.step, OutcomeCall.prog]
      rcases hx : openOutcomeJournal P id fence now ⟨OutcomeJournal.run P id es, faults⟩ with ⟨r, w⟩
      rw [hx] at hok
      cases hok
      rfl
    rw [hstep]
    obtain ⟨hcommitted, hrecords⟩ := hs'.records hidle
    rw [hcommitted]
    exact ⟨hs'.acknowledged, hrecords⟩

end

namespace Sample

/-- The archive of a journal with sequence 1 given up and a record at sequence 2. -/
def archive : OutcomeJournalArchive :=
  match exportArchive outcome (OutcomeJournal.run outcome identity (crashedCommit ++ [⟨.open (fence 1) now, []⟩])) with
  | .ok a => a
  | .error _ => default

/-- The record of sequence 1 reaches the disk but its write is reported as failed; the sequence is given up. The next
writer appends one record and the process crashes before the next one's head is written. -/
def failedAppends : List OutcomeEvent :=
  [⟨.open (fence 1) now, []⟩, ⟨record 1 '1', [.done, .fails .wholly]⟩, ⟨.close, []⟩, ⟨.open (fence 2) now, []⟩,
    ⟨record 2 '2', []⟩, ⟨record 2 '3', [.done, .done, .crashes .nothing]⟩]

/-- The process crashes when the record's file has been created and only `bytes` of its bytes have been written. -/
def tornRecord (bytes : Nat) : List OutcomeEvent :=
  [⟨.open (fence 1) now, []⟩, ⟨record 1 '1', [.done, .crashes (.partly bytes)]⟩]

/-- An import whose intent cannot be removed, and an append after it. -/
def leftoverIntent : List OutcomeEvent :=
  [⟨.open (fence 1) now, []⟩, ⟨.importArchive archive selfResolver now, [.done, .done, .done, .fails .nothing]⟩,
    ⟨record 1 '1', []⟩, ⟨.close, []⟩]

end Sample

section
open Sample

theorem outcomeLaws : OutcomeLaws outcome where
  toCanonicalDigests := outcomeDigests
  domain {id d} hd := by
    cases hd
    decide +kernel
  verified {e payload resolver now body} hok := by
    simp only [outcome] at hok
    split at hok
    · cases hok
      exact ⟨rfl, rfl⟩
    · cases hok
  fenceKey {fence now scope} hok := by
    simp only [outcome, map_ok] at hok
    obtain ⟨key, hkey, -⟩ := hok
    exact ⟨key, hkey⟩
  built {action fields bytes fence built} hok := by
    cases hok
    exact ⟨rfl, rfl⟩

theorem authority_honest : authority.Honest outcome where
  signs {a fence a'} hok := by
    cases hok
    exact ⟨rfl, rfl⟩
  verifies {a fields bytes fence state key} hok _ := by
    simp only [authority] at hok
    split at hok
    · exact ⟨rfl, by assumption⟩
    · cases hok

theorem outcome_headsFit : HeadsFit outcome (ownHead outcome identity) 100 := by
  intro h _ _ hgaps
  show 1000 + 8 * h.gaps.length ≤ 2 ^ 20
  omega

/-- An event of a writer with the honest authority on a disk that leaves no half file. -/
def Sample.plain (e : OutcomeEvent) : Prop :=
  (∀ f ∈ e.faults, NoTear f) ∧ ((∃ generation, e.call = .open (fence generation) now) ∨ e.call = .close ∨
    ∃ generation digit, e.call = record generation digit)

theorem harmless_of_plain (hs : s.directory.importIntent = none ∧ s.head.gaps.length < 100) (he : plain e) :
    Harmless outcome identity 100 s e := by
  obtain ⟨call, faults⟩ := e
  obtain ⟨hfaults, he⟩ := he
  refine ⟨⟨faults, hfaults, rfl, rfl⟩, ?_⟩
  obtain ⟨generation, rfl⟩ | rfl | ⟨generation, digit, rfl⟩ := he
  · exact fun a ha => by rw [hs.1] at ha; cases ha
  · trivial
  · exact ⟨hs.1, authority_honest, hs.2⟩

theorem failedAppends_harmless :
    Along (OutcomeJournal.step outcome identity) (Harmless outcome identity 100) (OutcomeJournal.absent identity)
      failedAppends := by
  have hplain : ∀ e ∈ failedAppends, plain e := by
    simp only [failedAppends, List.forall_mem_cons]
    exact ⟨⟨by decide, .inl ⟨1, rfl⟩⟩, ⟨by decide, .inr (.inr ⟨1, '1', rfl⟩)⟩, ⟨by decide, .inr (.inl rfl)⟩,
      ⟨by decide, .inl ⟨2, rfl⟩⟩,
      ⟨by decide, .inr (.inr ⟨2, '2', rfl⟩)⟩, ⟨by decide, .inr (.inr ⟨2, '3', rfl⟩)⟩, by simp⟩
  have hstates : Along (OutcomeJournal.step outcome identity)
      (fun s _ => s.directory.importIntent = none ∧ s.head.gaps.length < 100) (OutcomeJournal.absent identity)
        failedAppends := by
    decide +kernel
  exact (hstates.and (along_of_forall hplain)).mono fun s e h => harmless_of_plain h.1 h.2

/-- A record whose write failed is given up and stays out of the way; the record that was acknowledged is there after
the crash, and the one that was written before the crash with it. -/
theorem failed_appends_survive :
    (OutcomeJournal.run outcome identity failedAppends).acknowledged.map (·.sequence) = [2] ∧
    (openOutcomeJournal outcome identity (fence 2) now ⟨unlocked (OutcomeJournal.run outcome identity failedAppends),
      []⟩).1 = .ok () ∧
    ∃ s', s' = OutcomeJournal.run outcome identity (failedAppends ++ [⟨.open (fence 2) now, []⟩]) ∧
      s'.committed.map (·.sequence) = [2, 3] ∧ records outcome s' 10 = .ok s'.committed := by
  obtain ⟨hack, hlock, hstate, hgeneration⟩ : let s := OutcomeJournal.run outcome identity failedAppends
      s.acknowledged.map (·.sequence) = [2] ∧ s.lock = false ∧
      (s.directory.importIntent = none ∧ s.head.gaps.length < 100) ∧
      s.directory.head.map (·.writerGeneration) = some 2 := by decide +kernel
  have hopen := harmless_of_plain hstate (e := ⟨.open (fence 2) now, []⟩) ⟨by simp, .inl ⟨2, rfl⟩⟩
  have hresult := journal_survives_failures outcomeLaws outcome_headsFit failedAppends_harmless
  have hopens := hresult.1 (fence 2) now hopen (.closing (digest '5') (by decide +kernel) hgeneration (by decide))
  have hok := hopens
  rw [unlocked_of_closed hlock] at hok
  obtain ⟨s', hs', -, hrecords⟩ := hresult.2 (fence 2) now [] hopen hok
  obtain ⟨hsequences, hbytes⟩ : s'.committed.map (·.sequence) = [2, 3] ∧
      (s'.committed.map outcome.recordBytes).sum ≤ maxOutcomeJournalResultBytes := by
    rw [hs']
    decide +kernel
  have hlength : s'.committed.length = 2 := by
    rw [← List.length_map (·.sequence), hsequences]
    rfl
  exact ⟨hack, hopens, s', hs', hsequences, hrecords 10 (by decide) (by omega) (by decide) hbytes⟩

/-- What the journal does not survive. A crash between the creation of a record's file and its bytes: no opening
succeeds any more. An import intent that could not be removed: the record that is appended and acknowledged later is
gone when the journal is opened again. -/
theorem torn_record_and_leftover_intent :
    ((∀ f ∈ (tornRecord 0).flatMap (·.faults), f = .done ∨ f = .crashes (.partly 0)) ∧
      openChecks outcome identity (fence 2) now = .ok (digest '5') ∧
      (openOutcomeJournal outcome identity (fence 2) now ⟨OutcomeJournal.run outcome identity (tornRecord 0), []⟩).1 =
        .error (.failed "pending outcome journal record is unavailable") ∧
      (openOutcomeJournal outcome identity (fence 2) now ⟨OutcomeJournal.run outcome identity (tornRecord 1), []⟩).1 =
        .error (.failed "pending outcome journal record is invalid")) ∧
    (OutcomeJournal.run outcome identity leftoverIntent).acknowledged.map (·.sequence) = [3] ∧
      (openOutcomeJournal outcome identity (fence 1) now ⟨OutcomeJournal.run outcome identity leftoverIntent, []⟩).1 =
        .ok () ∧
      ∃ s', s' = OutcomeJournal.run outcome identity (leftoverIntent ++ [⟨.open (fence 1) now, []⟩]) ∧
        (records outcome s' 10).map (·.map (·.sequence)) = .ok [2] ∧ ∀ r ∈ s'.acknowledged, r ∉ s'.committed := by
  have hlost : let s' := OutcomeJournal.run outcome identity (leftoverIntent ++ [⟨.open (fence 1) now, []⟩])
      (records outcome s' 10).map (·.map (·.sequence)) = .ok [2] ∧ ∀ r ∈ s'.acknowledged, r ∉ s'.committed := by
    decide +kernel
  exact ⟨⟨by decide, by decide +kernel, by decide +kernel, by decide +kernel⟩, by decide +kernel, by decide +kernel,
    _, rfl, hlost⟩

end

end OpenFox.Earning
