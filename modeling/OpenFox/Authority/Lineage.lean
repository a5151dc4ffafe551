/-
Agreement lineages. The retained bodies of an Agreement ID are one chain of versions, each naming
its predecessor; a proposal that does not fit marks every record of the ID, and a marked lineage is
frozen: it gets no successor, no evidence, no engagement reservation and no new custody.
-/
import OpenFox.Authority.WellFormed
import OpenFox.Authority.Sample
import Mathlib.Data.Nat.Find
import OpenFox.Go.Uint64

namespace OpenFox.Authority

open OpenFox.Go OpenFox.Commerce OpenFox.Base

variable {P : Protocol} {h : Host} {d d' : AuthorityDocument} {c : Call}

/-- What `ValidateAgreementBody` checks of a body's place in its lineage; digests are not empty. -/
structure BodyLaws (P : Protocol) : Prop where
  version : ∀ {body}, P.validateAgreementBody body = .ok () → 1 ≤ body.version.toNat
  predecessor : ∀ {body}, P.validateAgreementBody body = .ok () →
    (body.predecessorAgreementDigest ≠ "" ↔ 1 < body.version.toNat)
  identified : ∀ {body}, P.validateAgreementBody body = .ok () → body.agreementID ≠ ""
  digest : ∀ {body digest}, P.agreementBodyDigest body = .ok digest → digest ≠ ""

/-! ## What a change does to the lineages -/

/-- The retained bodies stay, and some Agreement IDs are marked. -/
structure Restated (d d' : AuthorityDocument) (marks : String → Bool) : Prop where
  back : ∀ {k r'}, d'.engagements.get? k = some r' → ∃ r, d.engagements.get? k = some r ∧ r'.body = r.body ∧
    r'.negotiationAmbiguous = (r.negotiationAmbiguous || marks r.body.agreementID)
  persists : ∀ {k r}, d.engagements.get? k = some r → ∃ r', d'.engagements.get? k = some r'

/-- A body is added to a lineage without marks, after the body it names. -/
structure Extended (P : Protocol) (d d' : AuthorityDocument) (body : AgentAgreementBody) (digest : String) : Prop where
  valid : P.validateAgreementBody body = .ok ()
  absent : d.engagements.get? digest = none
  single : ∀ {k r}, d.engagements.get? k = some r → r.body.agreementID = body.agreementID →
    r.body.version ≠ body.version
  clear : ∀ {k r}, d.engagements.get? k = some r → r.body.agreementID = body.agreementID →
    r.negotiationAmbiguous = false
  linked : 1 < body.version.toNat → ∃ p, d.engagements.get? body.predecessorAgreementDigest = some p ∧
    p.body.agreementID = body.agreementID ∧ p.body.version.toNat + 1 = body.version.toNat
  added : ∃ r, r.body = body ∧ r.negotiationAmbiguous = false ∧ d'.engagements = d.engagements.put digest r

variable {body : AgentAgreementBody} {r : EngagementRecord} {issued : IssuedCustodyPayment} {a : PersonalAuthority}
  {records : List EngagementRecord} {digest k agreementID : String}

theorem forkedSibling_none (hs : forkedSibling h d body digest = none) (hk : d.engagements.get? k = some r)
    (hid : r.body.agreementID = body.agreementID) (hne : k ≠ digest) : r.body.version ≠ body.version := by
  intro hv
  rw [forkedSibling, Option.map_eq_none_iff, List.find?_eq_none] at hs
  refine hs _ (Map.mem_range.2 hk) ?_
  simp only [hid, hv, beq_self_eq_true, Bool.true_and, bne_iff_ne]
  exact hne

theorem successor_version {v w : UInt64} (hmax : v ≠ 0 - 1) (hw : w = v + 1) : v.toNat + 1 = w.toNat := by
  rw [hw, toNat_succ (succ_ne_zero hmax)]

theorem validatePredecessor_ok (hp : validatePredecessor P d body = .ok ()) (hv : 1 < body.version.toNat) :
    ∃ p, d.engagements.get? body.predecessorAgreementDigest = some p ∧ p.body.agreementID = body.agreementID ∧
      p.body.version.toNat + 1 = body.version.toNat := by
  unfold validatePredecessor at hp
  split at hp
  · rename_i hle
    rw [UInt64.le_iff_toNat_le] at hle
    exact absurd hle (by simpa using hv)
  · split at hp
    · cases hp
    · rename_i p found
      simp only [validateAgreementSuccessor, peel, passed] at hp
      obtain ⟨-, -, hid, ⟨hmax, hnext⟩, -⟩ := hp
      exact ⟨p, found, hid.symm, successor_version hmax hnext⟩

theorem Writes.lineage (hwf : WF P d) (hw : Writes P h d c d') :
    (∃ marks, Restated d d' marks) ∨ ∃ body digest, Extended P d d' body digest := by
  have hm := hw.engagements hwf
  have hpersists := fun {k r} => hm.persists (k := k) (r := r)
  cases hm with
  | keep engagements =>
    refine .inl ⟨fun _ => false, fun hk => ?_, hpersists⟩
    rw [engagements] at hk
    exact ⟨_, hk, rfl, (Bool.or_false _).symm⟩
  | @flag body _ _ _ _ _ _ engagements =>
    refine .inl ⟨fun id => decide (id = body.agreementID), fun hk => ?_, hpersists⟩
    rw [engagements, flagLineage, Map.get?_mapVal, Option.map_eq_some_iff] at hk
    obtain ⟨r, hr, rfl⟩ := hk
    refine ⟨r, hr, ?_⟩
    split
    · rename_i hid
      exact ⟨rfl, by simp [EngagementRecord.flagConflict, hid]⟩
    · rename_i hid
      exact ⟨rfl, by simp [hid]⟩
  | @add body _ _ _ digest _ valid bound absent single clear succeeds engagements =>
    refine .inr ⟨body, digest, valid, absent, fun hk hid => ?_, fun hk hid => ?_, validatePredecessor_ok succeeds,
      _, rfl, rfl, engagements⟩
    · refine forkedSibling_none single hk hid ?_
      rintro rfl
      rw [hk] at absent
      cases absent
    · by_contra hmarked
      rw [Bool.not_eq_false] at hmarked
      rw [← Bool.not_eq_true] at clear
      exact clear (Map.any_iff.2 ⟨_, _, hk, Bool.and_eq_true_iff.2 ⟨beq_iff_eq.2 hid, hmarked⟩⟩)
  | update found updates engagements =>
    refine .inl ⟨fun _ => false, fun hk => ?_, hpersists⟩
    obtain ⟨rfl, rfl⟩ | hk := Map.put_cases (engagements ▸ hk)
    · have hc := updates.continues found
      exact ⟨_, found, hc.body, by rw [hc.ambiguous, Bool.or_false]⟩
    · exact ⟨_, hk, rfl, (Bool.or_false _).symm⟩

theorem Lapses.lineage {nowUnix : UInt64} {key : String} (hwf : WF P d)
    (hl : Lapses nowUnix key issued d d') : Restated d d' fun _ => false := by
  refine ⟨fun hk => ?_, hl.persists hwf⟩
  rcases hl.record hwf hk with found | ⟨r, found, rfl, -⟩
  · exact ⟨_, found, rfl, (Bool.or_false _).symm⟩
  · exact ⟨r, found, rfl, (Bool.or_false _).symm⟩

/-! ## Linear lineages -/

/-- The marks of an Agreement ID agree, its versions are distinct, and every version above one names
the retained version before it. -/
structure Linear (d : AuthorityDocument) : Prop where
  marked : ∀ {k r k' r'}, d.engagements.get? k = some r → d.engagements.get? k' = some r' →
    r.body.agreementID = r'.body.agreementID → r.negotiationAmbiguous = r'.negotiationAmbiguous
  single : ∀ {k r k' r'}, d.engagements.get? k = some r → d.engagements.get? k' = some r' →
    r.body.agreementID = r'.body.agreementID → r.body.version = r'.body.version → k = k'
  linked : ∀ {k r}, d.engagements.get? k = some r → 1 < r.body.version.toNat →
    ∃ p, d.engagements.get? r.body.predecessorAgreementDigest = some p ∧
      p.body.agreementID = r.body.agreementID ∧ p.body.version.toNat + 1 = r.body.version.toNat

theorem Restated.linear {marks : String → Bool} (hr : Restated d d' marks) (hd : Linear d) : Linear d' := by
  refine ⟨fun hk hk' hid => ?_, fun hk hk' hid hv => ?_, fun hk hv => ?_⟩
  · obtain ⟨r, hr₁, hbody, hmark⟩ := hr.back hk
    obtain ⟨r', hr₁', hbody', hmark'⟩ := hr.back hk'
    rw [hbody, hbody'] at hid
    rw [hmark, hmark', hd.marked hr₁ hr₁' hid, hid]
  · obtain ⟨r, hr₁, hbody, -⟩ := hr.back hk
    obtain ⟨r', hr₁', hbody', -⟩ := hr.back hk'
    rw [hbody, hbody'] at hid hv
    exact hd.single hr₁ hr₁' hid hv
  · obtain ⟨r, hr₁, hbody, -⟩ := hr.back hk
    rw [hbody] at hv ⊢
    obtain ⟨p, hp, hpid, hpv⟩ := hd.linked hr₁ hv
    obtain ⟨p', hp'⟩ := hr.persists hp
    obtain ⟨p₀, hp₀, hpbody, -⟩ := hr.back hp'
    rw [hp] at hp₀
    cases hp₀
    exact ⟨p', hp', by rw [hpbody]; exact hpid, by rw [hpbody]; exact hpv⟩

section
variable (he : Extended P d d' body digest)
include he

theorem Extended.back (hk : d'.engagements.get? k = some r) :
    d.engagements.get? k = some r ∨ k = digest ∧ r.body = body ∧ r.negotiationAmbiguous = false := by
  obtain ⟨new, hbody, hclear, heng⟩ := he.added
  obtain ⟨hkey, rfl⟩ | hk := Map.put_cases (heng ▸ hk)
  · exact .inr ⟨hkey, hbody, hclear⟩
  · exact .inl hk

theorem Extended.persists (hk : d.engagements.get? k = some r) : d'.engagements.get? k = some r := by
  obtain ⟨new, -, -, heng⟩ := he.added
  rw [heng]
  exact Map.get?_put_absent he.absent hk

theorem Extended.linear (hd : Linear d) : Linear d' := by
  refine ⟨fun hk hk' hid => ?_, fun hk hk' hid hv => ?_, fun hk hv => ?_⟩
  · rcases he.back hk with hold | ⟨-, hbody, hclear⟩ <;> rcases he.back hk' with hold' | ⟨-, hbody', hclear'⟩
    · exact hd.marked hold hold' hid
    · rw [hclear', he.clear hold (hid.trans (by rw [hbody']))]
    · rw [hclear, he.clear hold' (hid.symm.trans (by rw [hbody]))]
    · rw [hclear, hclear']
  · rcases he.back hk with hold | ⟨hkey, hbody, -⟩ <;> rcases he.back hk' with hold' | ⟨hkey', hbody', -⟩
    · exact hd.single hold hold' hid hv
    · rw [hbody'] at hid hv
      exact absurd hv (he.single hold hid)
    · rw [hbody] at hid hv
      exact absurd hv.symm (he.single hold' hid.symm)
    · exact hkey.trans hkey'.symm
  · rcases he.back hk with hold | ⟨-, hbody, -⟩
    · obtain ⟨p, hp, hrest⟩ := hd.linked hold hv
      exact ⟨p, he.persists hp, hrest⟩
    · rw [hbody] at hv ⊢
      obtain ⟨p, hp, hrest⟩ := he.linked hv
      exact ⟨p, he.persists hp, hrest⟩

end

theorem reachable_linear (ha : Reachable P a) : Linear a.doc := by
  refine reachable_invariant (fun _ _ _ _ => ?_) (fun hwf hd he => ?_) (fun hwf hd hw => ?_) ha
  · exact ⟨Map.of_empty, Map.of_empty, Map.of_empty⟩
  · obtain ⟨-, _, _, -, -, hl⟩ := he
    exact (hl.lineage hwf).linear hd
  · rcases hw.lineage hwf with ⟨marks, hr⟩ | ⟨body, digest, he⟩
    · exact hr.linear hd
    · exact he.linear hd

/-! ## Chains -/

/-- The records of an Agreement ID are versions one to `n`, one of each, and each version above one
names the digest of the version before it. -/
structure Chain (d : AuthorityDocument) (agreementID : String) (n : Nat) : Prop where
  versions : ∀ v, (∃ k r, d.engagements.get? k = some r ∧ r.body.agreementID = agreementID ∧
    r.body.version.toNat = v) ↔ 1 ≤ v ∧ v ≤ n
  single : ∀ k r k' r', d.engagements.get? k = some r → d.engagements.get? k' = some r' →
    r.body.agreementID = agreementID → r'.body.agreementID = agreementID → r.body.version = r'.body.version → k = k'
  linked : ∀ k r, d.engagements.get? k = some r → r.body.agreementID = agreementID → 1 < r.body.version.toNat →
    ∃ p, d.engagements.get? r.body.predecessorAgreementDigest = some p ∧ p.body.agreementID = agreementID ∧
      p.agreementDigest = r.body.predecessorAgreementDigest ∧ p.body.version.toNat + 1 = r.body.version.toNat

/-- A bounded set of positive numbers that holds the predecessor of each of its members above one is an
initial segment. -/
theorem exists_segment {V : Nat → Prop} {B : Nat} (hpos : ∀ v, V v → 1 ≤ v) (hbound : ∀ v, V v → v ≤ B)
    (hdown : ∀ v, 1 ≤ v → V (v + 1) → V v) : ∃ n, ∀ v, V v ↔ 1 ≤ v ∧ v ≤ n := by
  classical
  refine ⟨Nat.findGreatest V B, fun v => ⟨fun hv => ⟨hpos v hv, Nat.le_findGreatest (hbound v hv) hv⟩, ?_⟩⟩
  rintro ⟨hone, hle⟩
  have hgreatest : V (Nat.findGreatest V B) := Nat.findGreatest_of_ne_zero rfl (by omega)
  -- Walk down from the greatest member.
  exact Nat.decreasingInduction' (fun v _ hv hnext => hdown v (by omega) hnext) hle hgreatest

theorem Linear.chain (hlaws : BodyLaws P) (hwf : WF P d) (hd : Linear d) (agreementID : String) :
    ∃ n, Chain d agreementID n := by
  have hlinked : ∀ k r, d.engagements.get? k = some r → r.body.agreementID = agreementID → 1 < r.body.version.toNat →
      ∃ p, d.engagements.get? r.body.predecessorAgreementDigest = some p ∧ p.body.agreementID = agreementID ∧
        p.agreementDigest = r.body.predecessorAgreementDigest ∧ p.body.version.toNat + 1 = r.body.version.toNat := by
    intro k r hk hid hv
    obtain ⟨p, hp, hpid, hpv⟩ := hd.linked hk hv
    exact ⟨p, hp, hpid.trans hid, (hwf.engagement hp).1, hpv⟩
  have hversions : ∃ n, ∀ v, (∃ k r, d.engagements.get? k = some r ∧ r.body.agreementID = agreementID ∧
      r.body.version.toNat = v) ↔ 1 ≤ v ∧ v ≤ n := by
    refine exists_segment (B := 2 ^ 64) ?_ ?_ ?_
    · rintro v ⟨k, r, hk, -, rfl⟩
      exact hlaws.version (hwf.engagement hk).2.2
    · rintro v ⟨k, r, -, -, rfl⟩
      exact r.body.version.toNat_lt.le
    · rintro v hone ⟨k, r, hk, hid, hv⟩
      obtain ⟨p, hp, hpid, -, hpv⟩ := hlinked k r hk hid (by omega)
      exact ⟨_, p, hp, hpid, by omega⟩
  obtain ⟨n, hn⟩ := hversions
  exact ⟨n, hn, fun k r k' r' hk hk' hid hid' hv => hd.single hk hk' (hid.trans hid'.symm) hv, hlinked⟩

/-! ## The leaf -/

def Lists (d : AuthorityDocument) (records : List EngagementRecord) : Prop :=
  records.Perm (d.engagements.entries.map (·.2))

theorem Lists.mem (hwf : WF P d) (hl : Lists d records) :
    r ∈ records ↔ d.engagements.get? r.agreementDigest = some r := by
  rw [hl.mem_iff, List.mem_map]
  constructor
  · rintro ⟨⟨k, r⟩, he, rfl⟩
    have hk := Map.mem_entries.1 he
    rw [(hwf.engagement hk).1]
    exact hk
  · intro hk
    exact ⟨⟨_, r⟩, Map.mem_entries.2 hk, rfl⟩

theorem Lists.nodup (hwf : WF P d) (hl : Lists d records) : (records.map (·.agreementDigest)).Nodup := by
  rw [(hl.map (·.agreementDigest)).nodup_iff, List.map_map]
  have hkeys : d.engagements.entries.map ((·.agreementDigest) ∘ (·.2)) = d.engagements.entries.map (·.1) :=
    List.map_congr_left fun e he => (hwf.engagement (Map.mem_entries.1 he)).1
  rw [hkeys]
  exact d.engagements.nodupKeys

theorem eq_singleton_of_nodup {α : Type} {l : List α} {a : α} (hl : l.Nodup) (hmem : ∀ b, b ∈ l ↔ b = a) : l = [a] :=
  List.perm_singleton.1 ((List.perm_ext_iff_of_nodup hl (List.nodup_singleton a)).2 fun b => by
    rw [hmem, List.mem_singleton])

theorem Chain.succeeded (hlaws : BodyLaws P) (hwf : WF P d) {n : Nat} (hc : Chain d agreementID n)
    (hk : d.engagements.get? k = some r) (hid : r.body.agreementID = agreementID) :
    (∃ k' r', d.engagements.get? k' = some r' ∧ r'.body.agreementID = agreementID ∧
      r'.body.predecessorAgreementDigest = k) ↔ r.body.version.toNat ≠ n := by
  constructor
  · rintro ⟨k', r', hk', hid', hpred⟩ hlast
    have hpos := (hlaws.predecessor (hwf.engagement hk').2.2).1 (by
      rw [hpred]
      exact hlaws.digest (hwf.engagement hk).2.1)
    obtain ⟨p, hp, -, -, hv⟩ := hc.linked k' r' hk' hid' hpos
    rw [hpred, hk] at hp
    cases hp
    have hle := ((hc.versions r'.body.version.toNat).1 ⟨k', r', hk', hid', rfl⟩).2
    omega
  · intro hnot
    have hrange := (hc.versions r.body.version.toNat).1 ⟨k, r, hk, hid, rfl⟩
    obtain ⟨k', r', hk', hid', hv⟩ := (hc.versions (r.body.version.toNat + 1)).2 (by omega)
    obtain ⟨p, hp, hpid, -, hpv⟩ := hc.linked k' r' hk' hid' (by omega)
    have hsame : p.body.version = r.body.version := UInt64.toNat_inj.1 (by omega)
    exact ⟨k', r', hk', hid', hc.single _ p k r hp hk hpid hid hsame⟩

theorem Chain.leaf (hlaws : BodyLaws P) (hwf : WF P d) {n : Nat} (hc : Chain d agreementID n)
    (hclear : ∀ k r, d.engagements.get? k = some r → r.body.agreementID = agreementID → r.negotiationAmbiguous = false)
    (hk : d.engagements.get? k = some r) (hid : r.body.agreementID = agreementID) (hl : Lists d records) :
    uniqueUnforkedAgreementLeaf r records = true ↔ r.body.version.toNat = n := by
  have hkey := (hwf.engagement hk).1
  set lineage := records.filter fun r' => r'.body.agreementID == r.body.agreementID with hlineage
  have hmem : ∀ {r'}, r' ∈ lineage ↔ d.engagements.get? r'.agreementDigest = some r' ∧
      r'.body.agreementID = agreementID := by
    intro r'
    rw [hlineage, List.mem_filter, hl.mem hwf, beq_iff_eq, hid]
  set leaves := lineage.filter fun r' =>
    !((lineage.map fun r => r.body.predecessorAgreementDigest).filter (· != "")).contains r'.agreementDigest with
      hleaves
  -- A leaf of the scan is a record without a successor, so the last version.
  have hleaf : ∀ {r'}, r' ∈ leaves ↔ r' ∈ lineage ∧ r'.body.version.toNat = n := by
    intro r'
    rw [hleaves, List.mem_filter]
    refine and_congr_right fun hin => ?_
    obtain ⟨hk', hid'⟩ := hmem.1 hin
    rw [Bool.not_eq_true', ← Bool.not_eq_true, List.contains_iff_mem, List.mem_filter, List.mem_map,
      ← not_iff_not, not_not, ← ne_eq, ← hc.succeeded hlaws hwf hk' hid']
    constructor
    · rintro ⟨⟨s, hs, hpred⟩, -⟩
      exact ⟨_, s, (hmem.1 hs).1, (hmem.1 hs).2, hpred⟩
    · rintro ⟨k₁, s, hk₁, hid₁, hpred⟩
      refine ⟨⟨s, hmem.2 ⟨?_, hid₁⟩, hpred⟩, bne_iff_ne.2 (hlaws.digest (hwf.engagement hk').2.1)⟩
      rw [(hwf.engagement hk₁).1]
      exact hk₁
  have hself : r ∈ lineage := hmem.2 ⟨by rw [hkey]; exact hk, hid⟩
  have hunmarked : lineage.any (·.negotiationAmbiguous) = false := by
    rw [List.any_eq_false]
    intro r' hr'
    rw [hclear _ _ (hmem.1 hr').1 (hmem.1 hr').2]
    exact Bool.false_ne_true
  have hidentified := hlaws.identified (hwf.engagement hk).2.2
  have hnonempty := hkey ▸ hlaws.digest (hwf.engagement hk).2.1
  have hscan : uniqueUnforkedAgreementLeaf r records = (leaves.map (·.agreementDigest) == [r.agreementDigest]) := by
    unfold uniqueUnforkedAgreementLeaf
    simp only [← hlineage, ← hleaves, hunmarked, hclear k r hk hid, bne_iff_ne.2 hidentified, bne_iff_ne.2 hnonempty,
      Bool.not_false, Bool.true_and, Bool.and_true]
  rw [hscan, beq_iff_eq]
  constructor
  · intro hone
    have hin : r.agreementDigest ∈ leaves.map (·.agreementDigest) := by rw [hone]; exact List.mem_singleton_self _
    obtain ⟨r', hr', hdigest⟩ := List.mem_map.1 hin
    obtain ⟨hin', hlast⟩ := hleaf.1 hr'
    have hk' := (hmem.1 hin').1
    rw [hdigest, hkey, hk] at hk'
    cases hk'
    exact hlast
  · intro hlast
    refine eq_singleton_of_nodup ?_ fun digest => ?_
    · refine (hl.nodup hwf).sublist ?_
      exact ((List.filter_sublist).trans List.filter_sublist).map _
    · rw [List.mem_map]
      constructor
      · rintro ⟨r', hr', rfl⟩
        obtain ⟨hin', hlast'⟩ := hleaf.1 hr'
        have hv := UInt64.toNat_inj.1 (hlast'.trans hlast.symm)
        rw [hc.single _ r' k r (hmem.1 hin').1 hk (hmem.1 hin').2 hid hv, hkey]
      · rintro rfl
        exact ⟨r, hleaf.2 ⟨hself, hlast⟩, rfl⟩

/-! ## Frozen lineages -/

/-- The records of a marked Agreement ID stay, with their evidence and their hold, and get no
successor. -/
structure Frozen (d d' : AuthorityDocument) (agreementID : String) : Prop where
  kept : ∀ {k r}, d.engagements.get? k = some r → r.body.agreementID = agreementID →
    ∃ r', d'.engagements.get? k = some r' ∧ r'.negotiationAmbiguous = true ∧ r'.agreement = r.agreement ∧
      r'.reservationID = r.reservationID
  closed : ∀ {k r'}, d'.engagements.get? k = some r' → r'.body.agreementID = agreementID →
    ∃ r, d.engagements.get? k = some r ∧ r.body.agreementID = agreementID

theorem Frozen.trans {d₁ d₂ d₃ : AuthorityDocument} (h₁ : Frozen d₁ d₂ agreementID)
    (h₂ : Frozen d₂ d₃ agreementID) : Frozen d₁ d₃ agreementID := by
  refine ⟨fun hk hid => ?_, fun hk hid => ?_⟩
  · obtain ⟨r₂, hk₂, -, hagreement, hhold⟩ := h₁.kept hk hid
    obtain ⟨r₃, hk₃, hmark, hagreement', hhold'⟩ := h₂.kept hk₂ (by
      rw [EngagementRecord.body, hagreement]
      exact hid)
    exact ⟨r₃, hk₃, hmark, hagreement'.trans hagreement, hhold'.trans hhold⟩
  · obtain ⟨r₂, hk₂, hid₂⟩ := h₂.closed hk hid
    exact h₁.closed hk₂ hid₂

def Marked (d : AuthorityDocument) (agreementID : String) : Prop :=
  (∃ k r, d.engagements.get? k = some r ∧ r.body.agreementID = agreementID) ∧
    ∀ k r, d.engagements.get? k = some r → r.body.agreementID = agreementID → r.negotiationAmbiguous = true

theorem Frozen.marked (hd : Marked d agreementID) (hf : Frozen d d' agreementID) : Marked d' agreementID := by
  obtain ⟨⟨k, r, hk, hid⟩, -⟩ := hd
  refine ⟨?_, fun k' r' hk' hid' => ?_⟩
  · obtain ⟨r', hk', -, hagreement, -⟩ := hf.kept hk hid
    refine ⟨k, r', hk', ?_⟩
    rw [EngagementRecord.body, hagreement]
    exact hid
  · obtain ⟨r₀, hk₀, hid₀⟩ := hf.closed hk' hid'
    obtain ⟨r₁, hk₁, hmark, -⟩ := hf.kept hk₀ hid₀
    rw [hk'] at hk₁
    cases hk₁
    exact hmark

theorem Updates.frozen {r' : EngagementRecord} (he : d.engagements.get? k = some r)
    (hu : Updates P h d d' k r c r') (hmark : r.negotiationAmbiguous = true) :
    r'.negotiationAmbiguous = true ∧ r'.agreement = r.agreement ∧ r'.reservationID = r.reservationID := by
  rcases hu.keeps he with hk | ⟨_, _, _, _, rfl, rfl⟩ | ⟨_, _, _, _, _, rfl, rfl⟩
  · exact ⟨hk.ambiguous.trans hmark, hk.agreement, hk.reservation⟩
  · cases hu with
    | recordEvidence _ _ _ clear => rw [hmark] at clear; cases clear
  · cases hu with
    | reserve _ eligible =>
      rw [engagementEligibleForReservation, if_pos hmark] at eligible
      cases eligible

theorem Writes.frozen (hwf : WF P d) (hw : Writes P h d c d') (hd : Marked d agreementID) :
    Frozen d d' agreementID := by
  have hm := hw.engagements hwf
  refine ⟨fun {k r} hk hid => ?_, fun hk hid => ?_⟩
  · obtain ⟨r', hk'⟩ := hm.persists hk
    have hmark := hd.2 k r hk hid
    refine ⟨r', hk', ?_⟩
    rcases hm.recordFrom hk hk' with rfl | ⟨_, _, rfl⟩ | updates
    · exact ⟨hmark, rfl, rfl⟩
    · exact ⟨rfl, rfl, rfl⟩
    · exact updates.frozen hk hmark
  · cases hm.recordAfter hk with
    | same found => exact ⟨_, found, hid⟩
    | flagged found _ _ marked => subst marked; exact ⟨_, found, hid⟩
    | updated found updates => exact ⟨_, found, by rw [← (updates.continues found).body]; exact hid⟩
    | @proposed body _ _ _ _ _ _ _ _ clear _ new =>
      -- A proposal is refused while its Agreement ID has a marked record.
      obtain ⟨⟨k₀, r₀, hk₀, hid₀⟩, hall⟩ := hd
      have hbody : body.agreementID = agreementID := by rw [new] at hid; exact hid
      rw [← Bool.not_eq_true] at clear
      exact absurd (Map.any_iff.2 ⟨k₀, r₀, hk₀, Bool.and_eq_true_iff.2
        ⟨beq_iff_eq.2 (hid₀.trans hbody.symm), hall k₀ r₀ hk₀ hid₀⟩⟩) clear

theorem Lapses.frozen {nowUnix : UInt64} {key : String}
    (hwf : WF P d) (hl : Lapses nowUnix key issued d d') (hd : Marked d agreementID) : Frozen d d' agreementID := by
  refine ⟨fun {k r} hk hid => ?_, fun hk hid => ?_⟩
  · have hmark := hd.2 k r hk hid
    rcases hl.follows hwf hk with hk' | ⟨hk', -⟩
    · exact ⟨r, hk', hmark, rfl, rfl⟩
    · exact ⟨_, hk', hmark, rfl, rfl⟩
  · rcases hl.record hwf hk with found | ⟨r₀, found, rfl, -⟩
    · exact ⟨_, found, hid⟩
    · exact ⟨r₀, found, hid⟩

theorem Frozen.refl (hd : Marked d agreementID) : Frozen d d agreementID :=
  ⟨fun {k r} hk hid => ⟨r, hk, hd.2 k r hk hid, rfl, rfl⟩, fun hk hid => ⟨_, hk, hid⟩⟩

theorem Frozen.lapse {now : Time} {d₀ : AuthorityDocument} (hd : Marked d₀ agreementID)
    (hf : Frozen d₀ d agreementID) (hwf : WF P d) (he : Expiry now d d') : Frozen d₀ d' agreementID := by
  obtain ⟨-, _, _, -, -, hl⟩ := he
  exact hf.trans (hl.frozen hwf (hf.marked hd))

theorem expiries_frozen {now : Time} (hwf : WF P d) (hd : Marked d agreementID)
    (hs : Relation.ReflTransGen (Expiry now) d d') : Frozen d d' agreementID := by
  induction hs with
  | refl => exact .refl hd
  | tail hinit hlast ih => exact ih.lapse hd (expiries_wf hwf hinit) hlast

theorem step_frozen {e : Event} {d₀ : AuthorityDocument}
    (hwf : WF P a.doc) (hd : Marked d₀ agreementID) (hf : Frozen d₀ a.doc agreementID) :
    Frozen d₀ (step P a e).doc agreementID :=
  step_keeps (I := fun d => Frozen d₀ d agreementID) hwf hf (fun hwf hf he => hf.lapse hd hwf he)
    (fun _ _ hwf hf hw => hf.trans (hw.frozen hwf (hf.marked hd)))

theorem run_frozen (hwf : WF P a.doc) (hd : Marked a.doc agreementID) (es : List Event) :
    WF P (exec (step P) a es).doc ∧ Frozen a.doc (exec (step P) a es).doc agreementID :=
  invariant (I := fun b => WF P b.doc ∧ Frozen a.doc b.doc agreementID)
    (fun b e hb => ⟨step_wf b e hb.1, step_frozen hb.1 hd hb.2⟩) es ⟨hwf, .refl hd⟩

/-! ## Refused commitments -/

/-- The engagement a call would commit further: evidence for it, its reservation, a custody payment
under it, or the opening of an escrow for it. -/
def Call.commits : Call → Option String
  | .recordAgreementEvidence digest _ _ => some digest
  | .reserveEngagement _ _ _ _ reserve => some reserve.reservation.agreementDigest
  | .authorizeCustodyPayment _ _ _ _ payment _ _ _ => some payment.agreementBodyDigest
  | .authorizeCustodyEffect _ _ _ _ template =>
    if opensEscrow template.actionKind then some template.agreementBodyDigest else none
  | _ => none

theorem Operation.body_map {α β : Type} {op : Operation α} {f : α → β} {o : Outcome β}
    (ho : (op.map f).body d = .ok o) : ∃ o', op.body d = .ok o' := by
  have hbody : (op.map f).body d = (op.body d).map (Outcome.map f) := rfl
  rw [hbody] at ho
  cases hb : op.body d with
  | error e => rw [hb] at ho; cases ho
  | ok o' => exact ⟨o', rfl⟩

theorem commits_refused (hk : d.engagements.get? k = some r)
    (hmark : r.negotiationAmbiguous = true) (hc : c.commits = some k) (o : Outcome Unit) :
    (c.operation P h).body d ≠ .ok o := by
  intro ho
  cases c with
  | recordAgreementEvidence digest evidence verifier =>
    cases hc
    obtain ⟨o', hb⟩ := Operation.body_map ho
    simp only [recordAgreementEvidence, hk, peel] at hb
    exact hb.2.2.1 hmark
  | reserveEngagement action fields request fence reserve =>
    cases hc
    obtain ⟨o', hb⟩ := Operation.body_map ho
    simp only [reserveEngagement, hk, peel, not_or] at hb
    exact hb.1.1 (by rw [engagementEligibleForReservation, if_pos hmark])
  | authorizeCustodyPayment action fields request fence payment account domain sponsorship =>
    cases hc
    obtain ⟨o', hb⟩ := Operation.body_map ho
    simp only [authorizeCustodyPayment, peel] at hb
    refine hb.2.1 ?_
    rw [hk]
    exact hmark
  | authorizeCustodyEffect action fields request fence template =>
    simp only [Call.commits] at hc
    split at hc
    · rename_i hopens
      cases hc
      obtain ⟨o', hb⟩ := Operation.body_map ho
      simp only [authorizeCustodyEffect, peel] at hb
      refine hb.1 ⟨hopens, ?_⟩
      rw [hk, Option.all_some, hmark, Bool.true_or]
    · cases hc
  | _ => cases hc

theorem marked_refuses {e : Event} (hwf : WF P a.doc) (hd : Marked a.doc agreementID)
    (hcall : e.call? P a.doc = .ok (some c))
    (hc : c.commits = some k) (hk : a.doc.engagements.get? k = some r) (hid : r.body.agreementID = agreementID) :
    (perform P a e).2 ≠ .ok () := by
  intro hok
  rw [perform_call hcall] at hok
  obtain ⟨d, hr⟩ := run_returns hok
  -- Bearers that lapse before the call leave the mark.
  obtain ⟨r', hk', hmark, -⟩ := (expiries_frozen hwf hd hr.steps).kept hk hid
  rcases hr.accepted with ⟨hb, -⟩ | ⟨next, hb, -⟩
  · exact commits_refused hk' hmark hc _ hb
  · exact commits_refused hk' hmark hc _ hb

/-! ## One chain or frozen -/

/-- In every reachable document the records of one Agreement ID have the same mark. Those of an unmarked
ID are one chain, whose leaf is its last version. A marked ID is frozen in every later document, and
every call that would commit one of its engagements further fails. -/
theorem lineage_chain_or_frozen (hlaws : BodyLaws P) {a : PersonalAuthority} (ha : Reachable P a) :
    (∀ k r k' r', a.doc.engagements.get? k = some r → a.doc.engagements.get? k' = some r' →
      r.body.agreementID = r'.body.agreementID → r.negotiationAmbiguous = r'.negotiationAmbiguous) ∧
    (∀ agreementID, (∀ k r, a.doc.engagements.get? k = some r → r.body.agreementID = agreementID →
        r.negotiationAmbiguous = false) →
      ∃ n, Chain a.doc agreementID n ∧ ∀ k r records, a.doc.engagements.get? k = some r →
        r.body.agreementID = agreementID → Lists a.doc records →
        (uniqueUnforkedAgreementLeaf r records = true ↔ r.body.version.toNat = n)) ∧
    (∀ k r, a.doc.engagements.get? k = some r → r.negotiationAmbiguous = true → ∀ es,
      Frozen a.doc (exec (step P) a es).doc r.body.agreementID ∧
        ∀ e c k' r', e.call? P (exec (step P) a es).doc = .ok (some c) → c.commits = some k' →
          (exec (step P) a es).doc.engagements.get? k' = some r' → r'.body.agreementID = r.body.agreementID →
          (perform P (exec (step P) a es) e).2 ≠ .ok ()) := by
  have hwf := reachable_wf ha
  have hlinear := reachable_linear ha
  refine ⟨fun k r k' r' hk hk' hid => hlinear.marked hk hk' hid, fun agreementID hclear => ?_,
    fun k r hk hmark es => ?_⟩
  · obtain ⟨n, hchain⟩ := hlinear.chain hlaws hwf agreementID
    exact ⟨n, hchain, fun k r records hk hid hl => hchain.leaf hlaws hwf hclear hk hid hl⟩
  · have hmarked : Marked a.doc r.body.agreementID :=
      ⟨⟨k, r, hk, rfl⟩, fun k' r' hk' hid => (hlinear.marked hk' hk hid).trans hmark⟩
    obtain ⟨hwf', hfrozen⟩ := run_frozen hwf hmarked es
    exact ⟨hfrozen, fun e c k' r' hcall hc hk' hid =>
      marked_refuses hwf' (hfrozen.marked hmarked) hcall hc hk' hid⟩

namespace Sample

def revisedBody : AgentAgreementBody := { relayBody with version := 2, predecessorAgreementDigest := relayDigest }

def revisions : Protocol :=
  { protocol with
    validateAgreementBody := fun body =>
      if body = relayBody ∨ body = revisedBody then .ok () else .error "invalid body"
    agreementBodyDigest := fun body =>
      if body = relayBody then .ok relayDigest
      else if body = revisedBody then .ok serviceDigest
      else .error "unknown body" }

theorem revisions_laws : BodyLaws revisions := by
  have hbody : ∀ {body}, revisions.validateAgreementBody body = .ok () → body = relayBody ∨ body = revisedBody := by
    intro body hb
    by_contra hne
    simp only [revisions, if_neg hne] at hb
    cases hb
  refine ⟨fun hb => ?_, fun hb => ?_, fun hb => ?_, fun {body digest} hb => ?_⟩
  · rcases hbody hb with rfl | rfl <;> decide
  · rcases hbody hb with rfl | rfl <;> decide
  · rcases hbody hb with rfl | rfl <;> decide
  · simp only [revisions] at hb
    split at hb
    · cases hb; decide
    · split at hb
      · cases hb; decide
      · cases hb

def proposeRevision : Event := call 102 (.recordAgreementProposal revisedBody "bob" "event-2" "revise")

def contest : Event := call 103 (.recordAgreementProposal relayBody "alice" "event-3" "contest")

def admitHold : Event := call 104 (.admitAction (action "portfolio.hold" "hold") ∅ "hold" fence (some hold))

end Sample

open Sample in
/-- Two versions of the relay agreement are a chain; contesting one of them freezes both. -/
theorem contested_revisions_frozen :
    let run := [proposeRelay, proposeRevision]
    let a := exec (step revisions) Sample.authority run
    let b := exec (step revisions) Sample.authority (run ++ [contest])
    (∃ n, Chain a.doc "relay" n ∧ ∀ k r records, a.doc.engagements.get? k = some r → r.body.agreementID = "relay" →
        Lists a.doc records → (uniqueUnforkedAgreementLeaf r records = true ↔ r.body.version.toNat = n)) ∧
      (b.doc.engagements.get? relayDigest).map (·.negotiationAmbiguous) = some true ∧
      ∀ es, Frozen b.doc (exec (step revisions) b es).doc "relay" := by
  intro run a b
  have hclear : a.doc.engagements.all (fun _ r => !r.negotiationAmbiguous) = true := by decide +kernel
  have hb : (b.doc.engagements.get? relayDigest).map (fun r => (r.negotiationAmbiguous, r.body.agreementID)) =
      some (true, "relay") := by decide +kernel
  refine ⟨(lineage_chain_or_frozen revisions_laws ⟨"owner", "alice", "authority", limits, run, rfl⟩).2.1
    "relay" fun k r hk _ => ?_, by decide +kernel, fun es => ?_⟩
  · simpa using Map.all_iff.1 hclear k r hk
  · obtain ⟨r, hk, hr⟩ := Option.map_eq_some_iff.1 hb
    have hfrozen := ((lineage_chain_or_frozen revisions_laws
      ⟨"owner", "alice", "authority", limits, run ++ [contest], rfl⟩).2.2 _ r hk (Prod.mk.inj hr).1 es).1
    rw [(Prod.mk.inj hr).2] at hfrozen
    exact hfrozen

open Sample in
/-- A generic admission still accepts a hold that names an engagement of a frozen lineage. -/
theorem admission_holds_for_frozen :
    let a := exec (step protocol) authority [acquire, proposeRelay, contest]
    (a.doc.engagements.get? relayDigest).map (·.negotiationAmbiguous) = some true ∧
      (perform protocol a admitHold).2 = .ok () ∧
      ((step protocol a admitHold).doc.reservations.get? reservationDigest).map
        (fun r => (r.agreementDigest, r.released)) = some (relayDigest, false) := by
  decide +kernel

end OpenFox.Authority
