/-
The sequence numbers of an outcome journal: in every run of `Reserve`, `AbortReserved`, `Commit` and reopening, in
which the process may crash before, within or after any write, the committed records, the gaps and the pending
sequence partition the numbers from 1 to the highest one, and the records form one growing chain.
-/
import OpenFox.Earning.OutcomeCalls
import OpenFox.Earning.OutcomeSample

namespace OpenFox.Earning

open OpenFox.Go OpenFox.Base OpenFox.Commerce Prog

variable {P : OutcomeProtocol}

/-! ## A directory and the history in it -/

/-- A record file that is what its name says; the bytes of an interrupted write are nothing. -/
def WellNamed (name : RecordName) (file : RecordFile) : Prop :=
  ∀ r, file = .whole r → r.schema = outcomeJournalSchema ∧ (r.epoch, r.sequence) = name

/-- The head on disk, the records it commits, and what else may lie there: files above the last record, and while
a sequence is pending only the file of that sequence. -/
structure Stored (P : OutcomeProtocol) (d : OutcomeDirectory) (h : OutcomeJournalHead) (log : List OutcomeJournalRecord)
    (top : UInt64) : Prop where
  head : d.head = some h
  headOf : HeadOf P h log top
  proper : ∀ r ∈ log, r.schema = outcomeJournalSchema ∧ outcomeRecordChecksum P r = .ok r.recordChecksum
  files : ∀ r ∈ log, d.records.get? (r.epoch, r.sequence) = some (.whole r)
  others : ∀ name file, d.records.get? name = some file → (∃ r ∈ log, (r.epoch, r.sequence) = name) ∨
    h.lastSequence < name.2 ∧ (h.pendingSequence ≠ 0 → name = (h.writerGeneration, h.pendingSequence)) ∧
      WellNamed name file

/-- Nothing but the committed records lies in the directory. -/
def Clean (d : OutcomeDirectory) (log : List OutcomeJournalRecord) : Prop :=
  ∀ name file, d.records.get? name = some file → ∃ r ∈ log, (r.epoch, r.sequence) = name

variable {record : OutcomeJournalRecord} {request : CommitRequest}

variable {h h' : OutcomeJournalHead} {log log' : List OutcomeJournalRecord} {top' generation : UInt64}
  {s s' t : OutcomeJournal}
  {es : List OutcomeEvent} {d : OutcomeDirectory} {fence : SignedFence} {gaps : List UInt64} {F : Fault → Prop}
  {name : RecordName} {file : RecordFile} {now : Time}

section
variable {d : OutcomeDirectory} {h : OutcomeJournalHead} {log : List OutcomeJournalRecord} {top : UInt64}

theorem validateAppendAdmission_gapDigest {fields : SemanticFields} {actionID : String}
    (hok : validateAppendAdmission P h record fields actionID gaps = .ok ()) :
    ∃ request, record.journalAppendRequest = some request ∧
      P.gapSetDigest (some (gapsBelow gaps record.sequence)) = .ok request.gapSetDigest := by
  unfold validateAppendAdmission at hok
  split at hok
  · rename_i request action fence hrequest _ _
    simp only [peel, passed] at hok
    obtain ⟨_, -, _, -, _, -, _, -, -, gapDigest, hgap, hbinds⟩ := hok
    exact ⟨request, hrequest, by rw [hgap, hbinds.1]⟩
  · cases hok

/-- What is known of a record found at the pending sequence once it has been accepted. -/
structure PendingRecord (P : OutcomeProtocol) (h : OutcomeJournalHead) (record : OutcomeJournalRecord) : Prop where
  checksum : outcomeRecordChecksum P record = .ok record.recordChecksum
  previous : record.previousRecordChecksum = h.lastRecordChecksum
  epoch : record.epoch = h.writerGeneration
  sequence : record.sequence = h.pendingSequence
  gapDigest : ∃ request, record.journalAppendRequest = some request ∧
    P.gapSetDigest (some (gapsBelow h.gaps record.sequence)) = .ok request.gapSetDigest

theorem validatePendingRecord_ok (hok : validatePendingRecord P h record = .ok ()) : PendingRecord P h record := by
  simp only [validatePendingRecord, peel, passed] at hok
  obtain ⟨-, checksum, hchecksum, identity, -, ⟨rfl, hprev, hepoch, hseq, -⟩, hadmission, -⟩ := hok
  exact ⟨hchecksum, hprev, hepoch, hseq, validateAppendAdmission_gapDigest hadmission⟩

/-- While a head is pending, everything it commits is below: the gaps at the append are all the gaps. -/
theorem HeadOf.gapsBelow_pending (hh : HeadOf P h log top) (hpending : h.pendingSequence ≠ 0) :
    gapsBelow h.gaps h.pendingSequence = h.gaps :=
  List.filter_eq_self.2 fun g hg => decide_eq_true ((hh.valid.pending hpending).2 g hg)

/-- The head that a directory recovers to. -/
structure Settles (P : OutcomeProtocol) (d : OutcomeDirectory) (h : OutcomeJournalHead)
    (log : List OutcomeJournalRecord)
    (h' : OutcomeJournalHead) (log' : List OutcomeJournalRecord) (top' : UInt64) : Prop where
  extends_ : log <+: log'
  headOf : HeadOf P h' log' top'
  idle : h'.pendingSequence = 0
  proper : ∀ r ∈ log', r.schema = outcomeJournalSchema ∧ outcomeRecordChecksum P r = .ok r.recordChecksum
  files : ∀ r ∈ log', d.records.get? (r.epoch, r.sequence) = some (.whole r)
  others : ∀ name file, d.records.get? name = some file → (∃ r ∈ log', (r.epoch, r.sequence) = name) ∨
    h'.lastSequence < name.2 ∧ WellNamed name file
  gapsPresent : h.gapSequences.isSome = true → h'.gapSequences.isSome = true
  identity : sameIdentity h' h
  adopted : ∀ r ∈ log', r ∈ log ∨ h.pendingSequence ≠ 0 ∧ validatePendingRecord P h r = .ok ()
  gapsKept : ∀ r ∈ log', gapsBelow h'.gaps r.sequence = gapsBelow h.gaps r.sequence
  gapCount : ∀ {K}, h.gaps.length ≤ K → (h.pendingSequence ≠ 0 → h.gaps.length < K) → h'.gaps.length ≤ K

theorem HeadOf.regenerate (hh : HeadOf P h log top)
    (hle : h.writerGeneration ≤ generation) (heq : h' = { h with writerGeneration := generation, pendingSequence := 0 })
    (hvalid : ValidHead h') : HeadOf P h' log top := by
  subst heq
  exact { hh with valid := hvalid, pending := absurd rfl, generation := fun r hr => (hh.generation r hr).trans hle }

theorem HeadOf.aborted (hh : HeadOf P h log top) (hne : h.pendingSequence ≠ 0) :
    HeadOf P (abortedHead h) log h.pendingSequence :=
  { hh with valid := hh.valid.aborted hne, history := hh.history.addGap (hh.pending hne), pending := absurd rfl }

/-- The append request of a record carries the digest of all the gaps of the head. -/
def BindsGaps (P : OutcomeProtocol) (h : OutcomeJournalHead) (record : OutcomeJournalRecord) : Prop :=
  ∃ request, record.journalAppendRequest = some request ∧ P.gapSetDigest (some h.gaps) = .ok request.gapSetDigest

theorem HeadOf.append (hh : HeadOf P h log top)
    (hvalid : ValidHead { h.advance record with writerGeneration := generation })
    (hle : h.writerGeneration ≤ generation) (hne : h.pendingSequence ≠ 0)
    (hsequence : record.sequence = h.pendingSequence)
    (hprevious : record.previousRecordChecksum = h.lastRecordChecksum) (hepoch : record.epoch = h.writerGeneration)
    (hgaps : BindsGaps P h record) :
    HeadOf P { h.advance record with writerGeneration := generation } (log ++ [record]) record.sequence where
  valid := hvalid
  history := hh.history.addRecord (hsequence ▸ hh.pending hne) (hprevious.trans hh.checksum)
    (fun a ha => hepoch ▸ hh.generation a ha) hgaps
  last := by rw [lastOf_append]; rfl
  checksum := by rw [lastChecksum_append]; rfl
  envelope := by rw [List.getLast?_append]; rfl
  pending := absurd rfl
  generation := List.forall_mem_append.2
    ⟨fun r hr => (hh.generation r hr).trans hle, List.forall_mem_singleton.2 (hepoch ▸ hle)⟩

theorem Stored.settles (hd : Stored P d h log top) {own : OutcomeJournalHead}
    (hok : recoveredHead P d own h generation = .ok h') : ∃ log' top', Settles P d h log h' log' top' := by
  simp only [recoveredHead, peel, not_or, not_lt, gt_iff_lt, validateOutcomeJournalHead_ok] at hok
  obtain ⟨-, -, ⟨-, hgen⟩, settled, hsettled, hvalid, hh'⟩ := hok
  -- the generation becomes the one of the fence in either branch
  have hregen : settled.writerGeneration = h.writerGeneration →
      h' = { settled with writerGeneration := generation } := by
    intro hsame
    rw [← hh']
    split
    · rfl
    · rename_i hnot
      have heq := le_antisymm (hsame ▸ hgen) (not_lt.1 hnot)
      rw [← heq]
  rw [hh'] at hvalid
  unfold recoverPendingRecord at hsettled
  split at hsettled
  · -- nothing was pending
    rename_i hidle
    cases hsettled
    obtain rfl := hregen rfl
    exact ⟨log, top, List.prefix_refl _, hd.headOf.regenerate hgen (by rw [← hidle]) hvalid, hidle, hd.proper, hd.files,
      fun name file hfile => (hd.others name file hfile).imp id fun hother => ⟨hother.1, hother.2.2⟩, id,
      ⟨rfl, rfl, rfl, rfl, rfl⟩, fun r hr => .inl hr, fun _ _ => rfl, fun hle _ => hle⟩
  · rename_i hpending
    have hlast := (hd.headOf.valid.pending hpending).1
    have hbelow : ∀ r ∈ log, r.sequence < h.pendingSequence := fun r hr =>
      lt_of_le_of_lt (hd.headOf.last ▸ hd.headOf.history.le_lastOf hr) hlast
    split at hsettled
    · -- the pending sequence has no file: it becomes a gap
      rename_i hnone
      cases hsettled
      obtain rfl := hregen rfl
      refine ⟨log, h.pendingSequence, List.prefix_refl _, (hd.headOf.aborted hpending).regenerate hgen rfl hvalid, rfl,
        hd.proper, hd.files,
        fun name file hfile => ?_, fun _ => rfl, ⟨rfl, rfl, rfl, rfl, rfl⟩, fun r hr => .inl hr,
          fun r hr => ?_, fun {K} _ hlt => ?_⟩
      · refine .inl ((hd.others name file hfile).resolve_right fun hother => ?_)
        rw [hother.2.1 hpending, hnone] at hfile
        cases hfile
      · simp [gapsBelow, OutcomeJournalHead.gaps, List.filter_append, (hbelow r hr).le]
      · simpa [OutcomeJournalHead.gaps, Nat.add_one_le_iff] using hlt hpending
    · cases hsettled
    · -- the record is there: it is committed
      rename_i record hfile
      simp only [peel] at hsettled
      obtain ⟨hrecord, rfl⟩ := hsettled
      obtain rfl := hregen rfl
      have hp := validatePendingRecord_ok hrecord
      have hname : (record.epoch, record.sequence) = (h.writerGeneration, h.pendingSequence) := by
        rw [hp.epoch, hp.sequence]
      have hwell : WellNamed (h.writerGeneration, h.pendingSequence) (.whole record) := by
        rcases hd.others _ _ hfile with ⟨r, hr, hsame⟩ | ⟨-, -, hwell⟩
        · exact absurd (Prod.mk.inj hsame).2 (hbelow r hr).ne
        · exact hwell
      obtain ⟨request, hrequest, hdigest⟩ := hp.gapDigest
      rw [hp.sequence, hd.headOf.gapsBelow_pending hpending] at hdigest
      refine ⟨log ++ [record], record.sequence, List.prefix_append _ _,
        hd.headOf.append hvalid hgen hpending hp.sequence hp.previous hp.epoch ⟨request, hrequest, hdigest⟩, rfl,
        List.forall_mem_append.2 ⟨hd.proper, ?_⟩, List.forall_mem_append.2 ⟨hd.files, ?_⟩, fun name file hfile' =>
          ?_, id,
        ⟨rfl, rfl, rfl, rfl, rfl⟩, List.forall_mem_append.2 ⟨fun r hr => .inl hr, ?_⟩, fun _ _ => rfl, fun hle _ => hle⟩
      · exact List.forall_mem_singleton.2 ⟨(hwell record rfl).1, hp.checksum⟩
      · exact List.forall_mem_singleton.2 (hname ▸ hfile)
      · rcases hd.others name file hfile' with ⟨r, hr, hsame⟩ | ⟨-, honly, -⟩
        · exact .inl ⟨r, List.mem_append_left _ hr, hsame⟩
        · exact .inl ⟨record, by simp, by rw [honly hpending, hname]⟩
      · exact List.forall_mem_singleton.2 (.inr ⟨hpending, hrecord⟩)

theorem Settles.committed (hs : Settles P d h log h' log' top') {r : OutcomeJournalRecord} (hr : r ∈ log') :
    committedFile P h' (r.epoch, r.sequence) (.whole r) = true := by
  unfold committedFile
  rw [decide_eq_true_eq]
  exact ⟨(hs.proper r hr).1, (hs.proper r hr).2, hs.headOf.last ▸ hs.headOf.history.le_lastOf hr, rfl⟩

theorem Settles.mem_of_committed (hs : Settles P d h log h' log' top')
    (hfile : d.records.get? name = some file) (hc : committedFile P h' name file = true) :
    ∃ r ∈ log', (r.epoch, r.sequence) = name := by
  rcases hs.others name file hfile with hlog | ⟨hlast, hwell⟩
  · exact hlog
  · cases file with
    | torn => cases hc
    | whole r =>
      unfold committedFile at hc
      rw [decide_eq_true_eq] at hc
      have hname := (hwell r rfl).2
      rw [← hname] at hlast
      exact absurd hlast (not_lt.2 hc.2.2.1)

end

/-! ## The committed records -/

/-- The records in the directory that a head covers, first to last. -/
def OutcomeDirectory.committedRecords (d : OutcomeDirectory) (h : OutcomeJournalHead) : List OutcomeJournalRecord :=
  d.sortedRecords.filterMap fun e =>
    match e.2 with
    | .whole r => if r.sequence ≤ h.lastSequence then some r else none
    | .torn _ => none

theorem nameLess_strictWeak : StrictWeak fun a b : (_ : RecordName) × RecordFile => nameLess a.1 b.1 where
  asymm {a b} hab hba := by
    simp only [nameLess, UInt64.lt_iff_toNat_lt, ← UInt64.toNat_inj] at hab hba
    omega
  negTrans {a c} b hac := by
    simp only [nameLess, UInt64.lt_iff_toNat_lt, ← UInt64.toNat_inj] at hac ⊢
    omega

theorem nameLess_total {a b : RecordName} (hne : a ≠ b) : nameLess a b ∨ nameLess b a := by
  rw [ne_eq, Prod.ext_iff, ← UInt64.toNat_inj, ← UInt64.toNat_inj] at hne
  simp only [nameLess, UInt64.lt_iff_toNat_lt, ← UInt64.toNat_inj]
  omega

theorem OutcomeDirectory.entries_comparable (d : OutcomeDirectory) :
    d.records.entries.Pairwise fun a b => nameLess a.1 b.1 ∨ nameLess b.1 a.1 := by
  have hkeys := d.records.nodupKeys
  rw [List.NodupKeys, List.keys, List.nodup_iff_pairwise_ne, List.pairwise_map] at hkeys
  exact hkeys.imp fun hne => nameLess_total hne

theorem OutcomeDirectory.sortedRecords_sorted (d : OutcomeDirectory) :
    d.sortedRecords.Pairwise fun a b => nameLess a.1 b.1 :=
  sortSlice_sorted nameLess_strictWeak d.entries_comparable

theorem OutcomeDirectory.mem_sortedRecords :
    (⟨name, file⟩ : (_ : RecordName) × RecordFile) ∈ d.sortedRecords ↔ d.records.get? name = some file := by
  unfold OutcomeDirectory.sortedRecords
  rw [mem_sortSlice, Map.mem_entries]

section
variable {d : OutcomeDirectory} {h : OutcomeJournalHead} {log : List OutcomeJournalRecord} {top : UInt64}

theorem History.sortedByName (hh : History P log gaps top) :
    log.Pairwise fun a b => nameLess (a.epoch, a.sequence) (b.epoch, b.sequence) :=
  (hh.sorted.and hh.epochs).imp fun hab => (lt_or_eq_of_le hab.2).imp id fun heq => ⟨heq, hab.1⟩

theorem Stored.committedRecords (hd : Stored P d h log top) : d.committedRecords h = log := by
  have hmem : ∀ {e r}, e ∈ d.sortedRecords → (match e.2 with
      | .whole r => if r.sequence ≤ h.lastSequence then some r else none
      | .torn _ => none) = some r → (r.epoch, r.sequence) = e.1 ∧ r ∈ log := by
    rintro ⟨name, file⟩ r he hr
    have hfile := OutcomeDirectory.mem_sortedRecords.1 he
    cases file with
    | torn => cases hr
    | whole a =>
      simp only [Option.ite_none_right_eq_some, Option.some.injEq] at hr
      obtain ⟨hle, rfl⟩ := hr
      rcases hd.others _ _ hfile with ⟨b, hb, hsame⟩ | ⟨hlast, -, hwell⟩
      · rw [← hsame, hd.files b hb] at hfile
        cases hfile
        exact ⟨hsame, hb⟩
      · rw [← (hwell a rfl).2] at hlast
        exact absurd hlast (not_lt.2 hle)
  have hasymm : ∀ {a b : OutcomeJournalRecord}, nameLess (a.epoch, a.sequence) (b.epoch, b.sequence) →
      ¬ nameLess (b.epoch, b.sequence) (a.epoch, a.sequence) :=
    fun {a b} => nameLess_strictWeak.asymm (a := ⟨_, .whole a⟩) (b := ⟨_, .whole b⟩)
  unfold OutcomeDirectory.committedRecords
  refine eq_of_sorted hasymm ?_ hd.headOf.history.sortedByName fun r => ?_
  · rw [List.pairwise_filterMap]
    refine d.sortedRecords_sorted.imp_of_mem fun he he' hless r hr r' hr' => ?_
    rw [(hmem he hr).1, (hmem he' hr').1]
    exact hless
  · rw [List.mem_filterMap]
    constructor
    · rintro ⟨e, he, hr⟩
      exact (hmem he hr).2
    · intro hr
      refine ⟨⟨(r.epoch, r.sequence), .whole r⟩, OutcomeDirectory.mem_sortedRecords.2 (hd.files r hr), ?_⟩
      simp only [Option.ite_none_right_eq_some, and_true]
      exact hd.headOf.last ▸ hd.headOf.history.le_lastOf hr

end

/-! ## Runs with crashes -/

/-- The disk does what it is told until the process crashes. -/
def CrashOnly (f : Fault) : Prop := ∀ reach, f ≠ .fails reach

instance : DecidablePred CrashOnly
  | .done => isTrue (by simp [CrashOnly])
  | .fails reach => isFalse fun h => h reach rfl
  | .crashes _ => isTrue (by simp [CrashOnly])

/-- Opening, closing, reserving, aborting, committing. -/
def OutcomeCall.sequential : OutcomeCall → Bool
  | .open .. | .close | .reserve .. | .abort .. | .commit .. => true
  | .importArchive .. | .record .. => false

/-- The journal's memory and disk agree, and the directory holds the chain of records. -/
structure Orderly (P : OutcomeProtocol) (s : OutcomeJournal) (log : List OutcomeJournalRecord) : Prop where
  noImport : s.directory.importIntent = none
  stored : s.directory.head = none ∧ s.directory.records = ∅ ∧ s.lock = false ∧ log = [] ∨
    ∃ h top, Stored P s.directory h log top ∧ h.gapSequences.isSome = true ∧
      (s.lock = true → s.head = h ∧ Clean s.directory log)

/-- A later state of an orderly journal. -/
def Later (P : OutcomeProtocol) (log : List OutcomeJournalRecord) (s : OutcomeJournal) : Prop :=
  ∃ log', Orderly P s log' ∧ log <+: log'

section
variable (hs : Orderly P s log)
include hs

theorem Orderly.closed (hdir : s'.directory = s.directory) (hlock : s'.lock = false) : Orderly P s' log where
  noImport := hdir ▸ hs.noImport
  stored := by
    rw [hdir]
    rcases hs.stored with ⟨hhead, hrecords, -, hlog⟩ | ⟨h, top, hd, hsome, -⟩
    · exact .inl ⟨hhead, hrecords, hlock, hlog⟩
    · exact .inr ⟨h, top, hd, hsome, fun hopen => absurd (hlock.symm.trans hopen) Bool.false_ne_true⟩

theorem Orderly.later : Later P log s := ⟨log, hs, List.prefix_refl _⟩

theorem Orderly.unlocked (hdir : s'.directory = s.directory) : Later P log (unlocked s') :=
  ⟨log, hs.closed hdir rfl, List.prefix_refl _⟩

theorem Orderly.opened (hlock : s.lock = true) :
    ∃ top, Stored P s.directory s.head log top ∧ s.head.gapSequences.isSome = true ∧ Clean s.directory log := by
  rcases hs.stored with ⟨-, -, hclosed, -⟩ | ⟨h, top, hd, hsome, hopen⟩
  · cases hclosed.symm.trans hlock
  · obtain ⟨rfl, hclean⟩ := hopen hlock
    exact ⟨top, hd, hsome, hclean⟩

end

section
variable {s : OutcomeJournal} {log : List OutcomeJournalRecord} {top : UInt64}

theorem Stored.rehead (hd : Stored P d h log top)
    (hclean : Clean d log) (hh : HeadOf P h' log top') : Stored P { d with head := some h' } h' log top' :=
  { hd with head := rfl, headOf := hh, others := fun name file hfile => .inl (hclean name file hfile) }

theorem HeadOf.reserved (hh : HeadOf P h log top) (hvalid : ValidHead (reservedHead h)) :
    HeadOf P (reservedHead h) log top :=
  { hh with valid := hvalid, pending := hh.nextSequence hvalid }

theorem HeadOf.advanced (hcanon : CanonicalDigests P) (hh : HeadOf P h log top)
    {admission : OutcomeJournalAppendAdmission}
    (hgaps : BindsGaps P h record) (hpending : h.pendingSequence = request.sequence) (hne : request.sequence ≠ 0)
    (hr : Admitted P h request admission record) : HeadOf P (h.advance record) (log ++ [record]) record.sequence :=
  hh.append (hh.valid.advance (hr.sequence ▸ hne) hcanon hr.envelopeDigest hr.checksum) le_rfl (hpending ▸ hne)
    (hr.sequence.trans hpending.symm) hr.previous hr.epoch hgaps

/-- A gap list that is not nil is the list of its entries. -/
theorem Committable.bindsGaps (hc : Committable P s request record)
    (hsome : s.head.gapSequences.isSome = true) : BindsGaps P s.head record := by
  obtain ⟨admission, -, hadmitted⟩ := hc.admitted
  have hr := admittedRecord_ok hadmitted
  obtain ⟨gaps, hgaps⟩ := Option.isSome_iff_exists.1 hsome
  have hdigest := hr.gapDigest
  rw [hgaps] at hdigest
  refine ⟨_, hr.appendRequest, ?_⟩
  rw [OutcomeJournalHead.gaps, hgaps]
  exact hdigest

theorem later_reserve (hs : Orderly P s log) : Leaves CrashOnly (Later P log) (reserve P fence now) s := by
  have hdone : Reservable P s fence now → ValidHead (reservedHead s.head) →
      Orderly P ((s.setHead (reservedHead s.head)).storeHead (reservedHead s.head)) log := by
    intro hres hvalid
    obtain ⟨top, hd, hsome, hclean⟩ := hs.opened hres.lock
    exact ⟨hs.noImport, .inr ⟨_, top, hd.rehead hclean (hd.headOf.reserved hvalid), hsome, fun _ => ⟨rfl, hclean⟩⟩⟩
  refine reserve_spec.mono ?_ ?_ ?_
  · rintro next s' ⟨hres, -, hvalid, rfl⟩
    exact (hdone hres hvalid).later
  · rintro s' (rfl | ⟨⟨reach, hfault⟩, -⟩)
    · exact hs.later
    · exact absurd rfl (hfault reach)
  · rintro s' ⟨hres, -, hvalid, rfl | rfl⟩
    · exact hs.unlocked rfl
    · exact (hdone hres hvalid).unlocked rfl

theorem later_abort (hs : Orderly P s log) {sequence : UInt64} :
    Leaves CrashOnly (Later P log) (abortReserved sequence) s := by
  have hdone : s.head.pendingSequence ≠ 0 → s.lock = true →
      Orderly P ((s.setHead (abortedHead s.head)).storeHead (abortedHead s.head)) log := by
    intro hne hlock
    obtain ⟨top, hd, hsome, hclean⟩ := hs.opened hlock
    exact ⟨hs.noImport, .inr ⟨_, _, hd.rehead hclean (hd.headOf.aborted hne), rfl, fun _ => ⟨rfl, hclean⟩⟩⟩
  refine abortReserved_spec.mono ?_ ?_ ?_
  · rintro _ s' ⟨rfl, hne, hlock, rfl⟩
    exact (hdone hne hlock).later
  · rintro s' (⟨rfl, -⟩ | ⟨rfl, hne, ⟨rfl, hinvalid⟩ | ⟨⟨reach, hfault⟩, -⟩⟩)
    · exact hs.later
    · cases hlock : s.lock with
      | false => exact ⟨log, hs.closed rfl hlock, List.prefix_refl _⟩
      | true =>
        obtain ⟨top, hd, -, -⟩ := hs.opened hlock
        rcases hinvalid with hinvalid | hclosed
        · exact absurd (hd.headOf.aborted hne).valid hinvalid
        · cases hclosed.symm.trans hlock
    · exact absurd rfl (hfault reach)
  · rintro s' ⟨rfl, hne, hlock, hvalid, rfl | rfl⟩
    · exact hs.unlocked rfl
    · exact (hdone hne hlock).unlocked rfl

theorem Stored.withPending (hd : Stored P s.directory s.head log top) (hclean : Clean s.directory log)
    (hc : Committable P s request record) (reach : Reach) :
    Stored P (recordWritten s record reach).directory s.head log top := by
  obtain ⟨admission, -, hadmitted⟩ := hc.admitted
  have hr := admittedRecord_ok hadmitted
  have hname : (record.epoch, record.sequence) = (s.head.writerGeneration, s.head.pendingSequence) := by
    rw [hr.epoch, hr.sequence, hc.pending]
  have hput : ∀ file, WellNamed (record.epoch, record.sequence) file →
      Stored P (s.putRecord (record.epoch, record.sequence) file).directory s.head log top := by
    intro file hwell
    refine ⟨hd.head, hd.headOf, hd.proper, fun r hr' => ?_, fun name file' hfile' => ?_⟩
    · show (s.directory.records.put _ file).get? _ = _
      rw [Map.get?_put, if_neg, hd.files r hr']
      intro hsame
      have habsent := hc.absent
      rw [← hsame, hd.files r hr'] at habsent
      cases habsent
    · obtain ⟨rfl, rfl⟩ | hfile' := Map.put_cases hfile'
      · refine .inr ⟨?_, fun _ => hname, hwell⟩
        rw [hname]
        exact (hd.headOf.valid.pending (hc.pending ▸ hc.nonzero)).1
      · exact .inl (hclean name file' hfile')
  cases reach with
  | nothing => exact hd
  | partly bytes => exact hput (.torn bytes) fun r hsame => by cases hsame
  | wholly =>
    refine hput (.whole record) fun r hsame => ?_
    cases hsame
    exact ⟨hr.schema, rfl⟩

theorem Stored.withCommitted (hcanon : CanonicalDigests P) (hd : Stored P s.directory s.head log top)
    (hclean : Clean s.directory log) (hc : Committable P s request record) (hgaps : BindsGaps P s.head record) :
    Stored P ((recordCommitted s record).storeHead (s.head.advance record)).directory (s.head.advance record)
    (log ++ [record]) record.sequence ∧
    Clean ((recordCommitted s record).storeHead (s.head.advance record)).directory (log ++ [record]) := by
  obtain ⟨admission, -, hadmitted⟩ := hc.admitted
  have hr := admittedRecord_ok hadmitted
  have hpending := hd.withPending hclean hc .wholly
  have hclean' : Clean ((recordCommitted s record).storeHead (s.head.advance record)).directory (log ++ [record]) := by
    intro name file hfile
    obtain ⟨rfl, -⟩ | hfile := Map.put_cases hfile
    · exact ⟨record, by simp, rfl⟩
    · obtain ⟨r, hr', hsame⟩ := hclean name file hfile
      exact ⟨r, List.mem_append_left _ hr', hsame⟩
  refine ⟨⟨rfl, hd.headOf.advanced hcanon hgaps hc.pending hc.nonzero hr, ?_, ?_,
    fun name file hfile => .inl (hclean' name file hfile)⟩, hclean'⟩
  · exact List.forall_mem_append.2 ⟨hd.proper, List.forall_mem_singleton.2 ⟨hr.schema, hr.checksum⟩⟩
  · exact List.forall_mem_append.2 ⟨hpending.files, List.forall_mem_singleton.2 Map.get?_put_self⟩

theorem later_commit (hcanon : CanonicalDigests P) (hs : Orderly P s log) :
    Leaves CrashOnly (Later P log) (commit P request) s := by
  have hdone : ∀ {record}, Committable P s request record →
      Orderly P ((recordCommitted s record).storeHead (s.head.advance record)) (log ++ [record]) := by
    intro record hc
    obtain ⟨top, hd, hsome, hclean⟩ := hs.opened hc.lock
    obtain ⟨hd', hclean'⟩ := hd.withCommitted hcanon hclean hc (hc.bindsGaps hsome)
    exact ⟨hs.noImport, .inr ⟨_, _, hd', hsome, fun _ => ⟨rfl, hclean'⟩⟩⟩
  refine commit_spec.mono ?_ ?_ ?_
  · rintro record s' ⟨hc, -, rfl⟩
    exact ⟨log ++ [record], ⟨hs.noImport, (hdone hc).stored⟩, List.prefix_append _ _⟩
  · intro s' hfailed
    cases hfailed with
    | refused => exact hs.later
    | atRecord hF hc => exact absurd rfl (hF _)
    | invalid hc hinvalid =>
      obtain ⟨top, hd, -, -⟩ := (hdone hc).opened hc.lock
      exact absurd hd.headOf.valid hinvalid
    | atHead hF hc hs' =>
      obtain ⟨reach, hfault⟩ := hF
      exact absurd rfl (hfault reach)
  · intro s' hcrashed
    cases hcrashed with
    | atRecord hF hc =>
      rename_i record reach
      obtain ⟨top, hd, hsome, hclean⟩ := hs.opened hc.lock
      refine ⟨log, ⟨?_, .inr ⟨_, _, hd.withPending hclean hc reach, hsome, nofun⟩⟩, List.prefix_refl _⟩
      cases reach <;> exact hs.noImport
    | atHead hc hs' =>
      rename_i record
      obtain ⟨top, hd, hsome, hclean⟩ := hs.opened hc.lock
      obtain ⟨-, -, rfl | rfl⟩ := hs'
      · exact ⟨log, ⟨hs.noImport, .inr ⟨_, _, hd.withPending hclean hc .wholly, hsome, nofun⟩⟩, List.prefix_refl _⟩
      · exact ⟨log ++ [record], (hdone hc).closed rfl rfl, List.prefix_append _ _⟩

/-! ## Opening -/

theorem Settles.tidiedUnder
    (hd : Stored P t.directory h log top) (hs : Settles P t.directory h log h' log' top') (ht : Tidied P h' t s') :
    Stored P s'.directory h log top :=
  { hd with
    head := by rw [ht.rest]; exact hd.head
    files := fun r hr => ht.committed (hd.files r hr) (hs.committed (hs.extends_.subset hr))
    others := fun name file hfile => hd.others name file (ht.kept hfile) }

theorem Settles.tidied (hs : Settles P t.directory h log h' log' top') (ht : Tidied P h' t s')
    (hall : ∀ name file, s'.directory.records.get? name = some file → committedFile P h' name file = true) :
    Stored P { s'.directory with head := some h' } h' log' top' ∧ Clean { s'.directory with head := some h' } log' := by
  have hclean : Clean s'.directory log' := fun name file hfile =>
    hs.mem_of_committed (ht.kept hfile) (hall name file hfile)
  exact ⟨⟨rfl, hs.headOf, hs.proper, fun r hr => ht.committed (hs.files r hr) (hs.committed hr),
    fun name file hfile => .inl (hclean name file hfile)⟩, hclean⟩

theorem HeadOf.fresh (hvalid : ValidHead h) (hlast : h.lastSequence = 0) (hgaps : h.gaps = [])
    (hidle : h.pendingSequence = 0) : HeadOf P h [] 0 := by
  have hshape : h.lastEnvelopeDigest = "" ∧ h.lastRecordChecksum = "" := by
    rcases hvalid.last with ⟨-, hempty⟩ | ⟨hne, -⟩
    · exact hempty
    · exact absurd hlast hne
  exact ⟨hvalid, hgaps ▸ .nil, hlast, hshape.2, hshape.1, fun hne => absurd hidle hne, by simp⟩

theorem orderly_recoverHead (hs : Orderly P s log) (hdir : t.directory = s.directory)
    (hfresh : t.head.lastSequence = 0 ∧ t.head.gapSequences = some [] ∧ t.head.pendingSequence = 0) :
    After F (recoverHead P generation) t (fun _ => Later P log) (fun s' => Later P log (unlocked s'))
      fun s' => Later P log (unlocked s') := by
  have hnoImport := hdir ▸ hs.noImport
  refine after_bind (after_bind (after_read ?_))
  rw [hnoImport]
  refine after_pure (after_bind (after_read ?_))
  rw [hdir]
  rcases hs.stored with ⟨hnone, hempty, -, rfl⟩ | ⟨h, top, hd, hsome, -⟩
  · rw [hnone]
    -- the first opening writes the fresh head
    have hstored : ValidHead t.head → Orderly P (t.storeHead t.head) [] := by
      intro hvalid
      have hclean : Clean (t.storeHead t.head).directory [] := by
        intro name file hfile
        replace hfile : t.directory.records.get? name = some file := hfile
        rw [hdir, hempty, Map.get?_empty] at hfile
        cases hfile
      refine ⟨hnoImport, .inr ⟨t.head, 0, ⟨rfl, ?_, by simp, by simp,
        fun name file hfile => .inl (hclean name file hfile)⟩, by rw [hfresh.2.1]; rfl, fun _ => ⟨rfl, hclean⟩⟩⟩
      exact .fresh hvalid hfresh.1 (by rw [OutcomeJournalHead.gaps, hfresh.2.1]; rfl) hfresh.2.2
    refine persistHead_after (fun _ => hs.unlocked hdir) fun hvalid => ⟨(hstored hvalid).later, fun _ => ?_, ?_⟩
    · exact ⟨hs.unlocked hdir, (hstored hvalid).unlocked rfl⟩
    · exact ⟨hs.unlocked hdir, (hstored hvalid).unlocked rfl⟩
  · rw [hd.head]
    refine after_check (hs.unlocked hdir) fun h' hrecovered => ?_
    obtain ⟨log', top', hsettles⟩ := hd.settles hrecovered
    have hsome' := hsettles.gapsPresent hsome
    rw [← hdir] at hsettles hd
    -- while files are being moved the old head is still the one on disk
    have htidying : ∀ {s'}, Tidied P h' (t.setHead h') s' → Later P log (unlocked s') := by
      intro s' ht
      have hstored := Settles.tidiedUnder (t := t.setHead h') hd hsettles ht
      obtain ⟨records, rfl⟩ := ht.exists
      exact ⟨log, ⟨hnoImport, .inr ⟨h, top, hstored, hsome, nofun⟩⟩, List.prefix_refl _⟩
    refine after_bind
      (after_modify (after_bind (reconcileDurableRecords_spec.mono ?_ (fun _ hs' => htidying hs'.1) fun _ => htidying)))
    rintro _ s' ⟨ht, hall⟩
    obtain ⟨hd', hclean'⟩ := Settles.tidied (t := t.setHead h') hsettles ht hall
    have hstored : Orderly P (s'.storeHead s'.head) log' := by
      obtain ⟨records, rfl⟩ := ht.exists
      exact ⟨hnoImport, .inr ⟨h', top', hd', hsome', fun _ => ⟨rfl, hclean'⟩⟩⟩
    have hleft := And.intro (htidying ht) (show Later P log (unlocked (s'.storeHead s'.head)) from
      ⟨log', hstored.closed rfl rfl, hsettles.extends_⟩)
    exact persistHead_after (fun _ => hleft.1) fun _ => ⟨⟨log', hstored, hsettles.extends_⟩, fun _ => hleft, hleft⟩

theorem later_open (hs : Orderly P s log) {id : JournalIdentity} :
    Leaves F (Later P log) (openOutcomeJournal P id fence now) s := by
  refine after_bind (after_read (after_check hs.later fun domain _ => ?_))
  refine after_check hs.later fun _ hlock => ?_
  refine after_bind (after_modify (after_bind (after_attempt ?_)))
  refine (orderly_recoverHead (t := { s with head := freshHead id domain fence.body.writerGeneration, lock := true })
    hs rfl ⟨rfl, rfl, rfl⟩).mono ?_ ?_ fun _ hs' => hs'
  · exact fun _ s' hs' => after_pure hs'
  · exact fun s' hs' msg => after_bind (after_modify (after_fail hs'))

/-- Every event of a run with crashes keeps the journal orderly, and the chain only grows. -/
theorem later_step (hcanon : CanonicalDigests P) (id : JournalIdentity) (hs : Orderly P s log) {e : OutcomeEvent}
    (hcall : e.call.sequential = true) (hfaults : ∀ f ∈ e.faults, CrashOnly f) : Later P log (s.step P id e) := by
  have hafter : Leaves CrashOnly (Later P log) (e.call.prog P id) s := by
    cases hprog : e.call with
    | «open» fence now => exact later_open hs
    | close => exact after_modify (f := unlocked) (hs.unlocked rfl)
    | reserve fence now => exact after_bind ((later_reserve hs).imp fun _ _ h => after_pure h)
    | abort sequence => exact later_abort hs
    | commit request =>
      exact after_bind ((later_commit hcanon hs).imp fun _ _ h => after_pure h)
    | importArchive archive resolver now | record recorder authority action resolution observedAt =>
      rw [hprog] at hcall; cases hcall
  exact step_of_after hafter hfaults

end

/-- The committed records, the gaps and the pending sequence of a journal. -/
structure Partition (P : OutcomeProtocol) (committed : List OutcomeJournalRecord) (h : OutcomeJournalHead) : Prop where
  distinct : committed.Pairwise (·.sequence < ·.sequence)
  gapsIncreasing : h.gaps.Pairwise (· < ·)
  recordsNotGaps : ∀ r ∈ committed, r.sequence ∉ h.gaps
  pendingNotRecord : ∀ r ∈ committed, r.sequence ≠ h.pendingSequence
  pendingNotGap : h.pendingSequence ∉ h.gaps
  /-- Together they are the numbers from 1 to the highest one. -/
  exact_ : ∃ highest : UInt64, ∀ n, (∃ r ∈ committed, r.sequence = n) ∨ n ∈ h.gaps ∨ n = h.pendingSequence ∧ n ≠ 0 ↔
    0 < n ∧ n ≤ highest
  linked : Linked "" committed
  gapDigest : ∀ r ∈ committed, ∃ request, r.journalAppendRequest = some request ∧
    P.gapSetDigest (some (gapsBelow h.gaps r.sequence)) = .ok request.gapSetDigest

theorem HeadOf.partition {top : UInt64} (hh : HeadOf P h log top) :
    Partition P log h where
  distinct := hh.history.sorted
  gapsIncreasing := hh.valid.gapsSorted
  recordsNotGaps := hh.history.disjoint
  pendingNotRecord r hr hsame := by
    have hpos := ((hh.history.covers r.sequence).1 (.inl ⟨r, hr, rfl⟩)).1
    have hle := hh.history.le_lastOf hr
    rw [← hh.last, hsame] at hle
    exact absurd (hh.valid.pending (hsame ▸ hpos.ne')).1 (not_lt.2 hle)
  pendingNotGap := hh.valid.pending_not_gap
  exact_ := by
    by_cases hidle : h.pendingSequence = 0
    · refine ⟨top, fun n => ?_⟩
      rw [hidle, ← or_assoc, hh.history.covers]
      exact or_iff_left fun hn => hn.2 hn.1
    · refine ⟨h.pendingSequence, fun n => ?_⟩
      have hnext := hh.pending hidle
      rw [← or_assoc, hh.history.covers]
      simp only [UInt64.lt_iff_toNat_lt, UInt64.le_iff_toNat_le, ← UInt64.toNat_inj, UInt64.toNat_zero, ne_eq]
      omega
  linked := hh.history.linked
  gapDigest := hh.history.gapDigest

/-- The head on disk and the records it commits; an absent head commits nothing. -/
def OutcomeJournal.committed (s : OutcomeJournal) : List OutcomeJournalRecord :=
  match s.directory.head with
  | none => []
  | some h => s.directory.committedRecords h

theorem Orderly.committed_eq (hs : Orderly P s log) : s.committed = log := by
  unfold OutcomeJournal.committed
  rcases hs.stored with ⟨hnone, -, -, rfl⟩ | ⟨h, top, hd, -⟩
  · rw [hnone]
  · rw [hd.head]
    exact hd.committedRecords

/-- A run of `Reserve`, `AbortReserved`, `Commit`, closing and reopening, in which the process may crash at any
write. -/
def SequentialRun (es : List OutcomeEvent) : Prop :=
  ∀ e ∈ es, e.call.sequential = true ∧ ∀ f ∈ e.faults, CrashOnly f

instance (es : List OutcomeEvent) : Decidable (SequentialRun es) := by unfold SequentialRun; infer_instance

theorem later_run (hcanon : CanonicalDigests P) (id : JournalIdentity) (hes : SequentialRun es) (hs : Orderly P s log) :
    Later P log (exec (OutcomeJournal.step P id) s es) := by
  refine invariant_along ?_ hs.later (along_of_forall hes)
  rintro s e ⟨log', hs', hpre⟩ ⟨hcall, hfaults⟩
  obtain ⟨log'', hs'', hpre'⟩ := later_step hcanon id hs' hcall hfaults
  exact ⟨log'', hs'', hpre.trans hpre'⟩

theorem orderly_run (hcanon : CanonicalDigests P) (id : JournalIdentity) (hes : SequentialRun es) :
    ∃ log, Orderly P (OutcomeJournal.run P id es) log := by
  have hfresh : Orderly P (OutcomeJournal.absent id) [] := ⟨rfl, .inl ⟨rfl, rfl, rfl, rfl⟩⟩
  obtain ⟨log, hs, -⟩ := later_run hcanon id hes hfresh
  exact ⟨log, hs⟩

theorem committed_grows (hcanon : CanonicalDigests P) (id : JournalIdentity) (hes : SequentialRun es)
    (hs : Orderly P s log) :
    s.committed <+: (exec (OutcomeJournal.step P id) s es).committed := by
  obtain ⟨log', hs', hpre⟩ := later_run hcanon id hes hs
  rw [hs.committed_eq, hs'.committed_eq]
  exact hpre

/-- In every run, whatever the writer generations and wherever the process crashes: an open journal's head is the
one on disk, its records, gaps and pending sequence partition the numbers up to the highest, and what was committed
stays committed in every continuation. -/
theorem sequences_partition_history (hcanon : CanonicalDigests P) (id : JournalIdentity) {es es' : List OutcomeEvent}
    (hes : SequentialRun (es ++ es')) :
    ((OutcomeJournal.run P id es).lock = true →
      (OutcomeJournal.run P id es).directory.head = some (OutcomeJournal.run P id es).head) ∧
    (∀ h, (OutcomeJournal.run P id es).directory.head = some h → Partition P (OutcomeJournal.run P id es).committed h) ∧
    (OutcomeJournal.run P id es).committed <+: (OutcomeJournal.run P id (es ++ es')).committed := by
  have hleft : SequentialRun es := fun e he => hes e (List.mem_append_left _ he)
  have hright : SequentialRun es' := fun e he => hes e (List.mem_append_right _ he)
  obtain ⟨log, hs⟩ := orderly_run hcanon id hleft
  refine ⟨fun hlock => ?_, fun h hhead => ?_, ?_⟩
  · obtain ⟨top, hd, -, -⟩ := hs.opened hlock
    exact hd.head
  · rw [hs.committed_eq]
    rcases hs.stored with ⟨hnone, -, -, -⟩ | ⟨h', top, hd, -⟩
    · rw [hnone] at hhead; cases hhead
    · rw [hd.head] at hhead
      cases hhead
      exact hd.headOf.partition
  · rw [OutcomeJournal.run, OutcomeJournal.run, exec_append]
    exact committed_grows hcanon id hright hs

section
open Sample

def Sample.takeover : List OutcomeEvent :=
  [⟨.open (Sample.fence 2) Sample.now, []⟩, ⟨.reserve (Sample.fence 2) Sample.now, []⟩]

/-- The process crashes between the record of sequence 2 and its head: until the journal is opened again the record
is pending, then it is committed, and the next sequence is 3. -/
theorem crashed_commit_partitions : SequentialRun (crashedCommit ++ takeover) ∧
    (OutcomeJournal.run outcome identity crashedCommit).committed = [] ∧
    (OutcomeJournal.run outcome identity (crashedCommit ++ takeover)).committed.map (·.sequence) = [2] ∧
    Partition outcome (OutcomeJournal.run outcome identity (crashedCommit ++ takeover)).committed
      (OutcomeJournal.run outcome identity (crashedCommit ++ takeover)).head := by
  have hrun : SequentialRun (crashedCommit ++ takeover ++ []) := by decide
  have hresult := sequences_partition_history outcomeDigests identity hrun
  exact ⟨by decide, by decide +kernel, by decide +kernel, hresult.2.1 _ (hresult.1 (by decide +kernel))⟩

end

end OpenFox.Earning
