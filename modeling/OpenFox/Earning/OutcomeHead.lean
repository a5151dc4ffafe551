/-
Heads and the records behind them. A valid head has increasing gaps and a pending sequence above them and above
the last record. A history is a chain of records and a set of gaps that together cover an initial segment of the
sequence numbers; reserving, committing and giving up take the next number.
-/
import OpenFox.Earning.OutcomeJournal

namespace OpenFox.Earning

open OpenFox.Go
open OpenFox.Authority (canonicalSHA256)

/-- Digests are texts of the form `sha256:` and 64 digits. -/
structure CanonicalDigests (P : OutcomeProtocol) : Prop where
  envelope : ∀ {e d}, P.envelopeDigest e = .ok d → canonicalSHA256 d = true
  record : ∀ {r c}, P.recordDigest r = .ok c → canonicalSHA256 c = true

/-! ## Valid heads -/

/-- What a valid head says about its journal and about the last record. -/
structure HeadShape (h : OutcomeJournalHead) : Prop where
  schema : h.schema = outcomeJournalSchema
  owner : h.ownerID ≠ ""
  agent : h.agentID ≠ ""
  authority : h.authorityID ≠ ""
  domain : canonicalSHA256 h.orderingDomain = true
  cohort : canonicalSHA256 h.cohortScopeDigest = true
  generation : h.writerGeneration ≠ 0

/-- The last record of a valid head: none, or one with proper digests. -/
def LastShape (sequence : UInt64) (envelopeDigest checksum : String) : Prop :=
  sequence = 0 ∧ envelopeDigest = "" ∧ checksum = "" ∨
    sequence ≠ 0 ∧ canonicalSHA256 envelopeDigest = true ∧ canonicalSHA256 checksum = true

structure ValidHead (h : OutcomeJournalHead) : Prop where
  shape : HeadShape h
  last : LastShape h.lastSequence h.lastEnvelopeDigest h.lastRecordChecksum
  gapsPos : ∀ g ∈ h.gaps, 0 < g
  gapsSorted : h.gaps.Pairwise (· < ·)
  pending : h.pendingSequence ≠ 0 → h.lastSequence < h.pendingSequence ∧ ∀ g ∈ h.gaps, g < h.pendingSequence

theorem canonicalGaps_ok {pending : UInt64} :
    ∀ {l} {prior last}, canonicalGaps pending l prior = .ok last ↔
      (∀ g ∈ l, prior < g) ∧ l.Pairwise (· < ·) ∧ pending ∉ l ∧ last = l.getLastD prior
  | [], prior, last => by simp [canonicalGaps, eq_comm]
  | g :: l, prior, last => by
    have hpos : ¬ (g = 0 ∨ g ≤ prior ∨ g = pending) ↔ prior < g ∧ g ≠ pending := by
      rw [not_or, not_or, not_le]
      constructor
      · exact fun h => h.2
      · intro h
        refine ⟨?_, h⟩
        rintro rfl
        exact absurd h.1 UInt64.not_lt_zero
    unfold canonicalGaps
    simp only [peel, hpos]
    rw [canonicalGaps_ok, List.forall_mem_cons, List.pairwise_cons, List.mem_cons, not_or, List.getLastD_cons]
    constructor
    · rintro ⟨⟨hg, hne⟩, habove, hsorted, hpending, hlast⟩
      exact ⟨⟨hg, fun x hx => hg.trans (habove x hx)⟩, ⟨habove, hsorted⟩, ⟨Ne.symm hne, hpending⟩, hlast⟩
    · rintro ⟨⟨hg, -⟩, ⟨habove, hsorted⟩, ⟨hne, hpending⟩, hlast⟩
      exact ⟨⟨hg, Ne.symm hne⟩, habove, hsorted, hpending, hlast⟩

variable {r : OutcomeJournalRecord} {g : UInt64}

theorem le_getLastD {l : List UInt64} (hl : l.Pairwise (· < ·)) {prior : UInt64} (hg : g ∈ l) :
    g ≤ l.getLastD prior := by
  rw [List.getLastD_eq_getLast?, List.getLast?_eq_some_getLast (List.ne_nil_of_mem hg), Option.getD_some]
  rcases eq_or_ne g (l.getLast (List.ne_nil_of_mem hg)) with heq | hne
  · exact heq.le
  · rw [← List.dropLast_append_getLast (List.ne_nil_of_mem hg)] at hl hg
    rw [List.pairwise_append] at hl
    have hinit : g ∈ l.dropLast := (List.mem_append.1 hg).resolve_right fun h => hne (List.mem_singleton.1 h)
    exact (hl.2.2 g hinit _ (List.mem_singleton_self _)).le

variable {P : OutcomeProtocol} {h : OutcomeJournalHead} {log : List OutcomeJournalRecord} {gaps : List UInt64}
  {top : UInt64}

theorem validateOutcomeJournalHead_ok : validateOutcomeJournalHead h = .ok () ↔ ValidHead h := by
  unfold validateOutcomeJournalHead
  simp only [peel, canonicalGaps_ok]
  constructor
  · rintro ⟨hshape, prior, ⟨hpos, hsorted, hpending, rfl⟩, hlast⟩
    simp only [passed, not_and] at hshape
    obtain ⟨h1, h2, h3, h4, h5, h6, h7, h8, h9, h10⟩ := hshape
    refine ⟨⟨h1, h2, h3, h4, h5, h6, h7⟩, ?_, hpos, hsorted, fun hne => ?_⟩
    · by_cases hseq : h.lastSequence = 0
      · exact .inl ⟨hseq, h8.1 hseq, h9.1 hseq⟩
      · exact .inr ⟨hseq, h10 hseq⟩
    · rw [not_and, not_or, not_le, not_le] at hlast
      exact ⟨(hlast hne).1, fun g hg => (le_getLastD hsorted hg).trans_lt (hlast hne).2⟩
  · rintro ⟨⟨h1, h2, h3, h4, h5, h6, h7⟩, hlast, hpos, hsorted, hpending⟩
    refine ⟨?_, _, ⟨hpos, hsorted, fun hmem => ?_, rfl⟩, ?_⟩
    · simp only [passed, not_and]
      rcases hlast with ⟨hs, he, hc⟩ | ⟨hs, he, hc⟩
      · exact ⟨h1, h2, h3, h4, h5, h6, h7, by simp [hs, he], by simp [hs, hc], fun hne => absurd hs hne⟩
      · have hne := OpenFox.Authority.canonicalSHA256_ne_empty he
        have hne' := OpenFox.Authority.canonicalSHA256_ne_empty hc
        exact ⟨h1, h2, h3, h4, h5, h6, h7, by simp [hs, hne], by simp [hs, hne'], fun _ => ⟨he, hc⟩⟩
    · exact absurd ((hpending (hpos _ hmem).ne').2 _ hmem) (lt_irrefl _)
    · rw [not_and, not_or, not_le, not_le]
      intro hne
      refine ⟨(hpending hne).1, ?_⟩
      rcases hgaps : h.gaps with _ | ⟨g, l⟩
      · exact lt_of_le_of_ne UInt64.zero_le (Ne.symm hne)
      · rw [← hgaps]
        have hnil : h.gaps ≠ [] := by rw [hgaps]; exact List.cons_ne_nil _ _
        rw [List.getLastD_eq_getLast?, List.getLast?_eq_some_getLast hnil, Option.getD_some]
        exact (hpending hne).2 _ (List.getLast_mem hnil)

theorem ValidHead.pending_not_gap (hv : ValidHead h) : h.pendingSequence ∉ h.gaps := by
  intro hmem
  exact absurd ((hv.pending (hv.gapsPos _ hmem).ne').2 _ hmem) (lt_irrefl _)

theorem containsUint64_iff {values : List UInt64} (hsorted : values.Pairwise (· < ·)) {target : UInt64} :
    containsUint64 values target = true ↔ target ∈ values := by
  unfold containsUint64
  rw [beq_iff_eq]
  exact getElem?_searchSorted hsorted

/-- The gap loops pass exactly if every number in between is a gap. -/
theorem gapsBetween_iff (hsorted : gaps.Pairwise (· < ·)) {after before : UInt64} :
    gapsBetween gaps after before = true ↔ ∀ n, after < n → n < before → n ∈ gaps := by
  unfold gapsBetween
  rw [List.all_eq_true]
  have hlt := before.toNat_lt
  constructor
  · intro hall n hafter hbefore
    rw [UInt64.lt_iff_toNat_lt] at hafter hbefore
    have hn := hall n.toNat (by rw [List.mem_range'_1]; omega)
    rwa [UInt64.ofNat_toNat, containsUint64_iff hsorted] at hn
  · intro hgap n hn
    rw [List.mem_range'_1] at hn
    have hsmall : n < 2 ^ 64 := by omega
    rw [containsUint64_iff hsorted]
    refine hgap _ ?_ ?_
    · rw [UInt64.lt_iff_toNat_lt, UInt64.toNat_ofNat_of_lt' hsmall]; omega
    · rw [UInt64.lt_iff_toNat_lt, UInt64.toNat_ofNat_of_lt' hsmall]; omega

/-! ## Histories -/

/-- Each record names the checksum of the one before it. -/
def Linked : String → List OutcomeJournalRecord → Prop
  | _, [] => True
  | previous, r :: rest => r.previousRecordChecksum = previous ∧ Linked r.recordChecksum rest

def lastChecksum (log : List OutcomeJournalRecord) : String := (log.getLast?.map (·.recordChecksum)).getD ""

def lastOf (log : List OutcomeJournalRecord) : UInt64 := (log.getLast?.map (·.sequence)).getD 0

theorem linked_append :
    ∀ {log} {previous}, Linked previous log →
      r.previousRecordChecksum = (log.getLast?.map (·.recordChecksum)).getD previous → Linked previous (log ++ [r])
  | [], previous, _, hr => ⟨hr, trivial⟩
  | a :: log, previous, hlog, hr => by
    refine ⟨hlog.1, linked_append hlog.2 ?_⟩
    rw [hr, List.getLast?_cons]
    cases log.getLast? <;> rfl

/-- Records and gaps that cover the numbers from 1 to `top`. -/
structure History (P : OutcomeProtocol) (log : List OutcomeJournalRecord) (gaps : List UInt64) (top : UInt64) :
    Prop where
  sorted : log.Pairwise (·.sequence < ·.sequence)
  epochs : log.Pairwise (·.epoch ≤ ·.epoch)
  linked : Linked "" log
  disjoint : ∀ r ∈ log, r.sequence ∉ gaps
  covers : ∀ n, (∃ r ∈ log, r.sequence = n) ∨ n ∈ gaps ↔ 0 < n ∧ n ≤ top
  gapDigest : ∀ r ∈ log, ∃ request, r.journalAppendRequest = some request ∧
    P.gapSetDigest (some (gapsBelow gaps r.sequence)) = .ok request.gapSetDigest

theorem History.nil : History P [] [] 0 where
  sorted := .nil
  epochs := .nil
  linked := trivial
  disjoint := by simp
  covers n := by
    simp only [List.not_mem_nil, false_and, exists_false, or_self, false_iff, not_and]
    intro hpos hle
    exact absurd hpos (not_lt.2 hle)
  gapDigest := by simp

theorem History.le_top (hh : History P log gaps top) (hr : r ∈ log) : r.sequence ≤ top :=
  ((hh.covers _).1 (.inl ⟨r, hr, rfl⟩)).2

theorem History.gap_le_top (hh : History P log gaps top) (hg : g ∈ gaps) : g ≤ top :=
  ((hh.covers _).1 (.inr hg)).2

theorem le_lastOf_of_sorted (hsorted : log.Pairwise (·.sequence < ·.sequence)) (hr : r ∈ log) :
    r.sequence ≤ lastOf log := by
  have hle : r.sequence ≤ (log.map (·.sequence)).getLastD 0 :=
    le_getLastD (List.pairwise_map.2 hsorted) (List.mem_map_of_mem hr)
  rwa [List.getLastD_eq_getLast?, List.getLast?_map] at hle

theorem History.le_lastOf (hh : History P log gaps top) (hr : r ∈ log) : r.sequence ≤ lastOf log :=
  le_lastOf_of_sorted hh.sorted hr

theorem lastOf_append (log : List OutcomeJournalRecord) (r : OutcomeJournalRecord) :
    lastOf (log ++ [r]) = r.sequence := by
  simp [lastOf]

theorem lastChecksum_append (log : List OutcomeJournalRecord) (r : OutcomeJournalRecord) :
    lastChecksum (log ++ [r]) = r.recordChecksum := by
  simp [lastChecksum]

section
variable (hh : History P log gaps top)
include hh

theorem History.lastOf_le_top : lastOf log ≤ top := by
  unfold lastOf
  cases hlast : log.getLast? with
  | none => exact UInt64.zero_le
  | some r => exact hh.le_top (List.mem_of_getLast? hlast)

theorem History.addGap {next : UInt64} (hnext : next.toNat = top.toNat + 1) : History P log (gaps ++ [next]) next where
  sorted := hh.sorted
  epochs := hh.epochs
  linked := hh.linked
  disjoint r hr hmem := by
    rcases List.mem_append.1 hmem with hgap | heq
    · exact hh.disjoint r hr hgap
    · have hle := UInt64.le_iff_toNat_le.1 (hh.le_top hr)
      rw [List.mem_singleton.1 heq] at hle
      omega
  covers n := by
    rw [List.mem_append, List.mem_singleton, ← or_assoc, hh.covers]
    simp only [UInt64.lt_iff_toNat_lt, UInt64.le_iff_toNat_le, ← UInt64.toNat_inj, UInt64.toNat_zero]
    omega
  gapDigest r hr := by
    obtain ⟨request, hrequest, hdigest⟩ := hh.gapDigest r hr
    refine ⟨request, hrequest, ?_⟩
    have hbelow : gapsBelow (gaps ++ [next]) r.sequence = gapsBelow gaps r.sequence := by
      have hle := UInt64.le_iff_toNat_le.1 (hh.le_top hr)
      have hnot : ¬ next < r.sequence := by rw [UInt64.lt_iff_toNat_lt]; omega
      simp [gapsBelow, List.filter_append, hnot]
    rw [hbelow]
    exact hdigest

theorem History.addRecord (hnext : r.sequence.toNat = top.toNat + 1)
    (hlink : r.previousRecordChecksum = lastChecksum log) (hepoch : ∀ a ∈ log, a.epoch ≤ r.epoch)
    (hdigest : ∃ request, r.journalAppendRequest = some request ∧
      P.gapSetDigest (some gaps) = .ok request.gapSetDigest) :
    History P (log ++ [r]) gaps r.sequence where
  sorted := by
    refine List.pairwise_append.2 ⟨hh.sorted, List.pairwise_singleton _ _, fun a ha b hb => ?_⟩
    rw [List.mem_singleton.1 hb, UInt64.lt_iff_toNat_lt]
    have hle := UInt64.le_iff_toNat_le.1 (hh.le_top ha)
    omega
  epochs := by
    refine List.pairwise_append.2 ⟨hh.epochs, List.pairwise_singleton _ _, fun a ha b hb => ?_⟩
    rw [List.mem_singleton.1 hb]
    exact hepoch a ha
  linked := linked_append hh.linked hlink
  disjoint a ha hmem := by
    rcases List.mem_append.1 ha with ha | ha
    · exact hh.disjoint a ha hmem
    · rw [List.mem_singleton.1 ha] at hmem
      have hle := UInt64.le_iff_toNat_le.1 (hh.gap_le_top hmem)
      omega
  covers n := by
    have hsplit : (∃ a ∈ log ++ [r], a.sequence = n) ∨ n ∈ gaps ↔ ((∃ a ∈ log, a.sequence = n) ∨ n ∈ gaps) ∨
        r.sequence = n := by
      simp only [List.mem_append, List.mem_singleton, or_and_right, exists_or, exists_eq_left]
      exact or_right_comm
    rw [hsplit, hh.covers]
    simp only [UInt64.lt_iff_toNat_lt, UInt64.le_iff_toNat_le, ← UInt64.toNat_inj, UInt64.toNat_zero]
    omega
  gapDigest := by
    refine List.forall_mem_append.2 ⟨hh.gapDigest, List.forall_mem_singleton.2 ?_⟩
    · obtain ⟨request, hrequest, hdigest⟩ := hdigest
      refine ⟨request, hrequest, ?_⟩
      have hbelow : gapsBelow gaps r.sequence = gaps := by
        refine List.filter_eq_self.2 fun g hg => decide_eq_true ?_
        have hle := UInt64.le_iff_toNat_le.1 (hh.gap_le_top hg)
        rw [UInt64.lt_iff_toNat_lt]
        omega
      rw [hbelow]
      exact hdigest

end

structure HeadOf (P : OutcomeProtocol) (h : OutcomeJournalHead) (log : List OutcomeJournalRecord) (top : UInt64) :
    Prop where
  valid : ValidHead h
  history : History P log h.gaps top
  last : h.lastSequence = lastOf log
  checksum : h.lastRecordChecksum = lastChecksum log
  envelope : h.lastEnvelopeDigest = (log.getLast?.map (·.operationEnvelopeDigest)).getD ""
  pending : h.pendingSequence ≠ 0 → h.pendingSequence.toNat = top.toNat + 1
  generation : ∀ r ∈ log, r.epoch ≤ h.writerGeneration

/-- `Reserve` takes the number after `top`, or wraps to zero, or the head it asks for is not valid. -/
theorem HeadOf.nextSequence (hh : HeadOf P h log top)
    (hvalid : ValidHead { h with pendingSequence := nextSequence h }) :
    nextSequence h ≠ 0 → (nextSequence h).toNat = top.toNat + 1 := by
  intro hne
  obtain ⟨hlast, hgaps⟩ := hvalid.pending hne
  have htop : top.toNat = 0 ∨ top = h.lastSequence ∨ top ∈ h.gaps := by
    by_cases hzero : top.toNat = 0
    · exact .inl hzero
    · right
      have hmem :=
        (hh.history.covers top).2 ⟨UInt64.lt_iff_toNat_lt.2 (by simpa using Nat.pos_of_ne_zero hzero), le_rfl⟩
      rcases hmem with ⟨r, hr, hrtop⟩ | hgap
      · left
        rw [hh.last]
        exact le_antisymm (hrtop ▸ hh.history.le_lastOf hr) hh.history.lastOf_le_top
      · exact .inr hgap
  have hlastTop : h.lastSequence ≤ top := hh.last ▸ hh.history.lastOf_le_top
  -- everything recorded is below the next number, so `top` is; and the next number is one above a recorded one
  have habove : top < Earning.nextSequence h := by
    rcases htop with hzero | rfl | hgap
    · rw [UInt64.lt_iff_toNat_lt, hzero]
      have := mt toNat_eq_zero.1 hne
      omega
    · exact hlast
    · exact hgaps top hgap
  have hstep : ∃ m, m ≤ top ∧ Earning.nextSequence h = m + 1 := by
    unfold Earning.nextSequence
    split
    · rename_i gap hgap
      split
      · exact ⟨gap, hh.history.gap_le_top (List.mem_of_getLast? hgap), rfl⟩
      · exact ⟨_, hlastTop, rfl⟩
    · exact ⟨_, hlastTop, rfl⟩
  obtain ⟨m, hm, heq⟩ := hstep
  rw [heq] at habove hne ⊢
  rw [UInt64.lt_iff_toNat_lt] at habove
  rw [UInt64.le_iff_toNat_le] at hm
  rw [toNat_succ hne] at habove ⊢
  omega

end OpenFox.Earning
