/-
What survives in the directory of an outcome journal. The head on disk, the head in memory and the import intent may
each be ahead of the others after a failed write; each of them on its own stands for a chain of records that every
later reader accepts.
-/
import OpenFox.Earning.OutcomeSound

namespace OpenFox.Earning

open OpenFox.Go

variable {P : OutcomeProtocol} {own : OutcomeJournalHead} {K : Nat}

/-! ## A head and its record files -/

/-- The head stands for a chain of records whose files are there and pass the checks. -/
structure Kept (P : OutcomeProtocol) (own : OutcomeJournalHead) (K : Nat) (d : OutcomeDirectory)
    (h : OutcomeJournalHead) (log : List OutcomeJournalRecord) (top : UInt64) : Prop where
  headOf : HeadOf P h log top
  identity : sameIdentity h own
  schema : ∀ r ∈ log, r.schema = outcomeJournalSchema
  checked : ∀ r ∈ log, CheckedRecord P own h.gaps selfResolver r
  files : ∀ r ∈ log, d.records.get? (r.epoch, r.sequence) = some (.whole r)
  gapCount : h.gaps.length ≤ K

/-- The directory under the head on disk. Beside the chain there may be files above it; while a sequence is pending
only the record that was being committed. -/
structure DiskSound (P : OutcomeProtocol) (own : OutcomeJournalHead) (K : Nat) (d : OutcomeDirectory)
    (h : OutcomeJournalHead) (log : List OutcomeJournalRecord) (top : UInt64) : Prop where
  head : d.head = some h
  kept : Kept P own K d h log top
  others : ∀ name file, d.records.get? name = some file → (∃ r ∈ log, (r.epoch, r.sequence) = name) ∨
    h.lastSequence < name.2 ∧ (h.pendingSequence ≠ 0 → name = (h.writerGeneration, h.pendingSequence)) ∧
      WellNamed name file
  readable : ∀ name file, d.records.get? name = some file →
    ∃ r, file = .whole r ∧ P.recordBytes r ≤ maxOutcomeJournalRecordBytes
  pending : h.pendingSequence ≠ 0 → ∀ r, d.records.get? (h.writerGeneration, h.pendingSequence) = some (.whole r) →
    validatePendingRecord P h r = .ok ()
  room : h.pendingSequence ≠ 0 → h.gaps.length < K

/-- The head in memory between two calls. A file that is not of its chain is one of its gaps: the record was written
and then given up. -/
structure MemorySound (P : OutcomeProtocol) (own : OutcomeJournalHead) (K : Nat) (s : OutcomeJournal)
    (log : List OutcomeJournalRecord) (top : UInt64) : Prop where
  kept : Kept P own K s.directory s.head log top
  idle : s.head.pendingSequence = 0
  others : ∀ name file, s.directory.records.get? name = some file → (∃ r ∈ log, (r.epoch, r.sequence) = name) ∨
    name.2 ∈ s.head.gaps ∧ WellNamed name file
  acknowledged : s.acknowledged ⊆ log

/-- An import is under way: the intent holds an archive that will be accepted, and every record file is one of its
records. Whatever the head is, the next opening replaces it. -/
structure Importing (P : OutcomeProtocol) (own : OutcomeJournalHead) (K : Nat) (s : OutcomeJournal)
    (a : OutcomeJournalArchive) :
    Prop where
  intent : s.directory.importIntent = some a
  accepted : validateArchiveRecords P own a selfResolver = .ok ()
  size : P.archiveBytes a ≤ maxOutcomeArchiveBytes
  whole : WholeArchive a
  gapCount : a.head.gaps.length ≤ K
  files : ∀ name file, s.directory.records.get? name = some file →
    ∃ r ∈ a.records, (r.epoch, r.sequence) = name ∧ file = .whole r
  acknowledged : s.acknowledged = []
  identity : s.lock = true → sameIdentity s.head own

/-- The states of a journal that can be opened again without losing a record. -/
inductive Surviving (P : OutcomeProtocol) (own : OutcomeJournalHead) (K : Nat) (s : OutcomeJournal) : Prop
  | importing {a : OutcomeJournalArchive} (h : Importing P own K s a)
  | absent (hintent : s.directory.importIntent = none) (hhead : s.directory.head = none)
    (hrecords : s.directory.records = ∅)
      (hlock : s.lock = false) (hack : s.acknowledged = [])
  | kept (hintent : s.directory.importIntent = none) {h : OutcomeJournalHead} {log : List OutcomeJournalRecord}
    {top : UInt64}
      (hdisk : DiskSound P own K s.directory h log top) (hack : s.acknowledged ⊆ log)
      (hmemory : s.lock = true → ∃ log top, MemorySound P own K s log top)

section
variable {d d' : OutcomeDirectory} {h h' : OutcomeJournalHead} {log : List OutcomeJournalRecord} {top : UInt64}

section
variable (hk : Kept P own K d h log top)
include hk

theorem Kept.proper : ∀ r ∈ log, r.schema = outcomeJournalSchema ∧ outcomeRecordChecksum P r = .ok r.recordChecksum :=
  fun r hr => ⟨hk.schema r hr, (hk.checked r hr).checksum⟩

theorem Kept.moved (hfiles : ∀ r ∈ log, d'.records.get? (r.epoch, r.sequence) = some (.whole r)) :
    Kept P own K d' h log top :=
  { hk with files := hfiles }

theorem Kept.reserved (hvalid : ValidHead (reservedHead h)) : Kept P own K d (reservedHead h) log top :=
  { hk with headOf := hk.headOf.reserved hvalid }

end

theorem gapsBelow_append {gaps : List UInt64} {gap sequence : UInt64} (hle : sequence ≤ gap) :
    gapsBelow (gaps ++ [gap]) sequence = gapsBelow gaps sequence := by
  simp [gapsBelow, List.filter_append, not_lt.2 hle]

theorem Kept.aborted (hk : Kept P own K d h log top) (hne : h.pendingSequence ≠ 0) (hroom : h.gaps.length < K) :
    Kept P own K d (abortedHead h) log h.pendingSequence where
  headOf := hk.headOf.aborted hne
  identity := hk.identity
  schema := hk.schema
  checked r hr := by
    have hlt := lt_of_le_of_lt (hk.headOf.last ▸ hk.headOf.history.le_lastOf hr) (hk.headOf.valid.pending hne).1
    exact (hk.checked r hr).transfer ⟨rfl, rfl, rfl, rfl, rfl⟩ (gapsBelow_append hlt.le)
  files := hk.files
  gapCount := by
    have hlength : (abortedHead h).gaps.length = h.gaps.length + 1 := by simp [abortedHead, OutcomeJournalHead.gaps]
    omega

theorem DiskSound.stored (hd : DiskSound P own K d h log top) : Stored P d h log top :=
  ⟨hd.head, hd.kept.headOf, hd.kept.proper, hd.kept.files, hd.others⟩

theorem Kept.disk (hk : Kept P own K d h log top) (hhead : d.head = some h) (hclean : Clean d log)
    (hroom : h.pendingSequence ≠ 0 → h.gaps.length < K) : DiskSound P own K d h log top where
  head := hhead
  kept := hk
  others name file hfile := .inl (hclean name file hfile)
  readable name file hfile := by
    obtain ⟨r, hr, rfl⟩ := hclean name file hfile
    rw [hk.files r hr] at hfile
    cases hfile
    exact ⟨r, rfl, (hk.checked r hr).size⟩
  pending hne r hfile := by
    obtain ⟨a, ha, hname⟩ := hclean _ _ hfile
    have hle := hk.headOf.last ▸ hk.headOf.history.le_lastOf ha
    rw [(Prod.mk.inj hname).2] at hle
    exact absurd (hk.headOf.valid.pending hne).1 (not_lt.2 hle)
  room := hroom

theorem Kept.stored (hk : Kept P own K d h log top) (hclean : Clean d log)
    (hroom : h.pendingSequence ≠ 0 → h.gaps.length < K) : DiskSound P own K { d with head := some h } h log top :=
  have hk' : Kept P own K { d with head := some h } h log top := hk.moved hk.files
  hk'.disk rfl hclean hroom

variable {log' : List OutcomeJournalRecord} {top' : UInt64} {s : OutcomeJournal}

theorem Kept.memory (hk : Kept P own K s.directory s.head log top) (hidle : s.head.pendingSequence = 0)
    (hclean : Clean s.directory log) (hack : s.acknowledged ⊆ log) : MemorySound P own K s log top :=
  ⟨hk, hidle, fun name file hfile => .inl (hclean name file hfile), hack⟩

theorem Kept.readable (hk : Kept P own K s.directory s.head log top) (hclean : Clean s.directory log) :
    Readable P s log top :=
  ⟨hk.headOf, hk.files, hclean, fun r hr => (hk.checked r hr).transfer hk.identity rfl⟩

/-- The pending sequence becomes a gap; its record file, if there is one, is left over. -/
theorem DiskSound.aborted (hd : DiskSound P own K d h log top) (hne : h.pendingSequence ≠ 0) :
    DiskSound P own K { d with head := some (abortedHead h) } (abortedHead h) log h.pendingSequence where
  head := rfl
  kept := (hd.kept.aborted hne (hd.room hne)).moved hd.kept.files
  others name file hfile := (hd.others name file hfile).imp id fun hother =>
    ⟨hother.1, fun hpending => absurd rfl hpending, hother.2.2⟩
  readable := hd.readable
  pending hpending := absurd rfl hpending
  room hpending := absurd rfl hpending

/-! ## What the next opening finds -/

theorem Kept.settled (hd : DiskSound P own K d h log top) (hs : Settles P d h log h' log' top') :
    Kept P own K d h' log' top' where
  headOf := hs.headOf
  identity := hs.identity.trans hd.kept.identity
  schema r hr := (hs.proper r hr).1
  checked r hr := by
    rcases hs.adopted r hr with hlog | ⟨-, hpending⟩
    · exact (hd.kept.checked r hlog).transfer ⟨rfl, rfl, rfl, rfl, rfl⟩ (hs.gapsKept r hr)
    · exact (validatePendingRecord_iff.1 hpending).1.transfer hd.kept.identity.symm (hs.gapsKept r hr)
  files := hs.files
  gapCount := hs.gapCount hd.kept.gapCount hd.room

/-- A flag that the matching entries set, and never to false. -/
theorem foldl_found {α : Type} {p q : α → Bool} : ∀ {l : List α} {found}, (∀ e ∈ l, p e = true → q e = true) →
    (found = true ∨ ∃ e ∈ l, p e = true) → l.foldl (fun found e => if p e then q e else found) found = true
  | [], found, _, hex => by simpa using hex
  | a :: l, found, hall, hex => by
    rw [List.foldl_cons]
    refine foldl_found (fun e he => hall e (List.mem_cons_of_mem _ he)) ?_
    by_cases hp : p a = true
    · rw [if_pos hp]
      exact .inl (hall a (List.mem_cons_self ..) hp)
    · rw [if_neg hp]
      rcases hex with hfound | ⟨e, he, hpe⟩
      · exact .inl hfound
      · rcases List.mem_cons.1 he with rfl | he
        · exact absurd hpe hp
        · exact .inr ⟨e, he, hpe⟩

theorem Settles.committedHeadFound (hs : Settles P d h log h' log' top')
    (hlast : h'.lastSequence ≠ 0) : committedHeadFound P h' d.records.entries = true := by
  refine foldl_found (fun e he hmatch => ?_) (.inr ?_)
  · obtain ⟨name, file⟩ := e
    rw [Map.mem_entries] at he
    cases file with
    | torn => exact absurd (of_decide_eq_true hmatch).1 hlast
    | whole r =>
      have hsequence := (of_decide_eq_true hmatch).1
      rcases hs.others name _ he with ⟨a, ha, rfl⟩ | ⟨habove, hwell⟩
      · rw [hs.files a ha] at he
        cases he
        exact hs.committed ha
      · rw [← (hwell r rfl).2, hsequence] at habove
        exact absurd habove (lt_irrefl _)
  · -- the last record of the chain is the head's record
    have hof := hs.headOf.last
    have henvelope := hs.headOf.envelope
    cases hget : log'.getLast? with
    | none =>
      rw [lastOf, hget] at hof
      exact absurd hof hlast
    | some r =>
      rw [lastOf, hget] at hof
      rw [hget] at henvelope
      exact ⟨⟨(r.epoch, r.sequence), .whole r⟩, Map.mem_entries.2 (hs.files r (List.mem_of_getLast? hget)),
        decide_eq_true ⟨hof.symm, henvelope.symm⟩⟩

theorem HeadOf.durableChain (hh : HeadOf P h log top) : ∀ {rest before}, log = before ++ rest →
    durableChain h.gaps (rest.map .whole) (lastChecksum before) (lastOf before) = .ok (lastChecksum log)
  | [], before, hlog => by rw [hlog, List.append_nil]; rfl
  | r :: rest, before, hlog => by
    have hbetween : gapsBetween h.gaps (lastOf before) r.sequence = true :=
      (gapsBetween_iff hh.valid.gapsSorted).2 fun n hafter hbefore => hh.history.between hlog hafter hbefore
    have hprevious := linked_split (hlog ▸ hh.history.linked)
    have hsplit : log = (before ++ [r]) ++ rest := by rw [hlog]; simp
    rw [List.map_cons, Earning.durableChain, refuse_of_not (by
        rw [not_or, not_not, not_le]
        exact ⟨hprevious, lastOf_lt hh.history hlog⟩),
      refuse_of_not (by rw [hbetween]; exact Bool.noConfusion), ← lastChecksum_append before r,
      ← lastOf_append before r]
    exact HeadOf.durableChain hh hsplit

theorem Settles.sortedCommitted (hs : Settles P d h log h' log' top') :
    sortSlice (fun a b => nameLess a.1 b.1) (d.records.entries.filter fun e => committedFile P h' e.1 e.2) =
      log'.map fun r => ⟨(r.epoch, r.sequence), .whole r⟩ := by
  refine eq_of_sorted nameLess_strictWeak.asymm (sortSlice_sorted nameLess_strictWeak (d.entries_comparable.filter _))
    ?_
    fun e => ?_
  · rw [List.pairwise_map]
    exact hs.headOf.history.sortedByName
  · obtain ⟨name, file⟩ := e
    rw [mem_sortSlice, List.mem_filter, Map.mem_entries, List.mem_map]
    constructor
    · rintro ⟨hfile, hc⟩
      obtain ⟨r, hr, rfl⟩ := hs.mem_of_committed hfile hc
      rw [hs.files r hr] at hfile
      cases hfile
      exact ⟨r, hr, rfl⟩
    · rintro ⟨r, hr, heq⟩
      cases heq
      exact ⟨hs.files r hr, hs.committed hr⟩

/-- Nothing stops `reconcileDurableRecordsLocked` but the disk. -/
theorem DiskSound.reconcilable (hd : DiskSound P own K d h log top) (hs : Settles P d h log h' log' top') :
    ¬ Irreconcilable P h' d := by
  rintro (⟨hfile, record, rfl, hsize⟩ | ⟨hlast, hmissing⟩ | hchain)
  · obtain ⟨r, heq, hle⟩ := hd.readable _ _ hfile
    cases heq
    exact absurd hsize (not_lt.2 hle)
  · rw [hs.committedHeadFound hlast] at hmissing
    cases hmissing
  · refine hchain ?_
    rw [hs.sortedCommitted, List.map_map, hs.headOf.checksum]
    exact hs.headOf.durableChain (List.nil_append log').symm

/-- Recovery of a sound directory fails only on a generation that is behind. -/
theorem DiskSound.recovers (hcanon : CanonicalDigests P) (hd : DiskSound P own K d h log top)
    (hbytes : P.headBytes h ≤ 2 ^ 20) {mine : OutcomeJournalHead} (hid : sameIdentity mine own) {generation : UInt64}
    (hgen : h.writerGeneration ≤ generation) :
    ∃ h', recoveredHead P d mine h generation = .ok h' := by
  have hshape := hd.kept.headOf.valid.shape
  have hregen : ∀ {settled}, ValidHead settled → settled.writerGeneration = h.writerGeneration →
      ValidHead (if settled.writerGeneration < generation then
        { settled with writerGeneration := generation } else settled) := by
    intro settled hvalid hsame
    split
    · refine { hvalid with shape := { hvalid.shape with generation := fun hzero => ?_ } }
      replace hzero : generation = 0 := hzero
      rw [hzero] at hgen
      exact hshape.generation (le_antisymm hgen UInt64.zero_le)
    · exact hvalid
  have hsettled : ∃ settled, recoverPendingRecord P d h = .ok settled ∧ ValidHead settled ∧
      settled.writerGeneration = h.writerGeneration := by
    unfold recoverPendingRecord
    by_cases hidle : h.pendingSequence = 0
    · rw [if_pos hidle]
      exact ⟨h, rfl, hd.kept.headOf.valid, rfl⟩
    · rw [if_neg hidle]
      cases hfile : d.records.get? (h.writerGeneration, h.pendingSequence) with
      | none => exact ⟨_, rfl, (hd.kept.headOf.aborted hidle).valid, rfl⟩
      | some file =>
        obtain ⟨r, rfl, -⟩ := hd.readable _ _ hfile
        have hvalid := hd.pending hidle r hfile
        obtain ⟨hchecked, -, -, hsequence, -⟩ := validatePendingRecord_iff.1 hvalid
        simp only [hvalid, runs]
        exact ⟨_, rfl, hd.kept.headOf.valid.advance (hsequence ▸ hidle) hcanon hchecked.envelopeDigest
          hchecked.checksum, rfl⟩
  obtain ⟨settled, hsettled, hvalid, hsame⟩ := hsettled
  refine ⟨if settled.writerGeneration < generation then { settled with writerGeneration := generation } else settled,
    ?_⟩
  simp only [recoveredHead, peel, passed, not_lt, gt_iff_lt, validateOutcomeJournalHead_ok]
  exact ⟨hbytes, hd.kept.headOf.valid, ⟨hd.kept.identity.trans hid.symm, hgen⟩, settled, hsettled,
    hregen hvalid hsame, rfl⟩

end

end OpenFox.Earning
