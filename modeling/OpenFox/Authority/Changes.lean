/-
How one event changes the document: first due custody bearers lapse, one after the other, then the
call writes; a restart first fills in missing obligation runtimes.
-/
import Mathlib.Logic.Relation
import OpenFox.Authority.Inversion

namespace OpenFox.Authority

open OpenFox.Go OpenFox.Commerce

variable {P : Protocol} {h : Host}

/-! ## One bearer lapses -/

def lapsedAdmission (admission : RelaySponsorshipPaymentAdmission) (nowUnix : UInt64)
    (issued : IssuedCustodyPayment) : RelaySponsorshipPaymentAdmission :=
  { admission with
    custodyAuthorizationExpiredAtUnix := nowUnix
    expiredCustodyAuthorization := some { issuance := issued, expiredAtUnix := nowUnix } }

def lapsedRecord (engagement : EngagementRecord) (nowUnix : UInt64) (issued : IssuedCustodyPayment) :
    EngagementRecord :=
  { engagement with
    custodyAuthorizationExpiredAtUnix := nowUnix
    expiredCustodyAuthorization := some { issuance := issued, expiredAtUnix := nowUnix }
    state := if engagement.state = .settling then .unpaid else engagement.state
    stateRevision := engagement.stateRevision + 1
    lastTransitionAtUnix := nowUnix }

/-- The bearer `issued`, retained under `k`, loses its hold: the reservation is released, the
owner of the bearer keeps a tombstone, and the bearer leaves the issued ledger. -/
inductive Lapses (nowUnix : UInt64) (k : String) (issued : IssuedCustodyPayment) (d : AuthorityDocument) :
    AuthorityDocument → Prop
  | sponsorship {reservation admission} (sponsored : issued.sponsorshipAdmissionID ≠ "")
    (hold : d.reservations.get? issued.reservationID = some reservation) (live : reservation.released = false)
    (found : d.relaySponsorshipPayments.get? issued.sponsorshipAdmissionID = some admission)
    (own : admission.reservation.reservationID = issued.reservationID)
    (first : admission.expiredCustodyAuthorization = none) :
    Lapses nowUnix k issued d
      { releaseHold d reservation with
        relaySponsorshipPayments := d.relaySponsorshipPayments.put issued.sponsorshipAdmissionID
          (lapsedAdmission admission nowUnix issued)
        issuedCustodyPayments := d.issuedCustodyPayments.delete k }
  | agreement {reservation engagement} (direct : issued.sponsorshipAdmissionID = "")
    (hold : d.reservations.get? issued.reservationID = some reservation) (live : reservation.released = false)
    (found : d.engagements.get? issued.payment.agreementBodyDigest = some engagement)
    (own : engagement.reservationID = issued.reservationID) (first : engagement.expiredCustodyAuthorization = none)
    (ended : engagement.state.mayExpire = true) :
    Lapses nowUnix k issued d
      { releaseHold d reservation with
        engagements := d.engagements.put engagement.agreementDigest (lapsedRecord engagement nowUnix issued)
        issuedCustodyPayments := d.issuedCustodyPayments.delete k }

variable {d d' : AuthorityDocument} {a : PersonalAuthority} {nowUnix : UInt64} {α : Type} {order : RangeOrder}
  {op : Operation α} {st : AuthorityDocument × Bool} {k : String} {now : Time}

theorem Lapses.actions {issued : IssuedCustodyPayment} (hl : Lapses nowUnix k issued d d') :
    d'.actions = d.actions := by
  cases hl <;> rfl

theorem expireDue_iff {issued : IssuedCustodyPayment} :
    expireDue nowUnix k issued d = .ok d' ↔ Lapses nowUnix k issued d d' := by
  constructor
  · intro he
    unfold expireDue at he
    split at he
    · cases he
    · rename_i reservation hold
      simp only [peel, Bool.not_eq_true] at he
      obtain ⟨live, he⟩ := he
      split at he <;> simp only [peel] at he <;> obtain ⟨next, he, rfl⟩ := he
      · rename_i sponsored
        unfold expireSponsorship at he
        split at he
        · cases he
        · rename_i admission found
          simp only [peel, passed, Bool.not_eq_true, Option.isSome_eq_false_iff, Option.isNone_iff_eq_none] at he
          obtain ⟨⟨own, first⟩, rfl⟩ := he
          exact .sponsorship sponsored hold live found own first
      · rename_i direct
        unfold expireAgreement at he
        split at he
        · cases he
        · rename_i engagement found
          simp only [peel, passed, Bool.not_eq_true, Option.isSome_eq_false_iff, Option.isNone_iff_eq_none] at he
          obtain ⟨⟨own, first⟩, ended, rfl⟩ := he
          exact .agreement (not_not.1 direct) hold live found own first ended
  · rintro (⟨sponsored, hold, live, found, own, first⟩ | ⟨direct, hold, live, found, own, first, ended⟩)
    · simp [expireDue, expireSponsorship, hold, live, releaseHold, found, own, first, sponsored, refuse, runs,
        lapsedAdmission]
    · simp [expireDue, expireAgreement, hold, live, releaseHold, found, own, first, direct, ended, refuse, runs,
        lapsedRecord]

/-- A bearer with a grace period has a horizon; one without is held for good. -/
def IssuedCustodyPayment.Frozen (issued : IssuedCustodyPayment) : Prop :=
  issued.finalityGraceSeconds ≠ 0 ∧ issued.releaseAfterUnix ≠ 0

def IssuedCustodyPayment.Due (nowUnix : UInt64) (issued : IssuedCustodyPayment) : Prop :=
  issued.Frozen ∧ issued.releaseAfterUnix ≤ nowUnix

instance (issued : IssuedCustodyPayment) : Decidable issued.Frozen := inferInstanceAs (Decidable (_ ∧ _))

instance (nowUnix : UInt64) (issued : IssuedCustodyPayment) : Decidable (issued.Due nowUnix) :=
  inferInstanceAs (Decidable (_ ∧ _))

/-- A due bearer of the issued ledger lapses; time before the epoch expires nothing. -/
def Expiry (now : Time) (d d' : AuthorityDocument) : Prop :=
  0 ≤ now.unix ∧ ∃ k issued, d.issuedCustodyPayments.get? k = some issued ∧ issued.Due now.unixU64 ∧
    Lapses now.unixU64 k issued d d'

theorem Lapses.issued {issued : IssuedCustodyPayment}
    (hl : Lapses nowUnix k issued d d') : d'.issuedCustodyPayments = d.issuedCustodyPayments.delete k := by
  cases hl <;> rfl

/-! ## The expiry loop -/

/-- One round: a frozen horizon must still be the one computed now, and a due bearer lapses. -/
theorem expireOne_ok {st' : AuthorityDocument × Bool} {e : (_ : String) × IssuedCustodyPayment} :
    expireOne P d nowUnix st e = .ok st' ↔
      (e.2.Frozen → custodyAuthorizationReleaseAfter P d e.2 = .ok e.2.releaseAfterUnix) ∧
    (e.2.Due nowUnix → Lapses nowUnix e.1 e.2 st.1 st'.1 ∧ st'.2 = true) ∧ (¬ e.2.Due nowUnix → st' = st) := by
  have hfrozen : e.2.finalityGraceSeconds = 0 ∨ e.2.releaseAfterUnix = 0 ↔ ¬ e.2.Frozen := by
    unfold IssuedCustodyPayment.Frozen
    rw [not_and_or, not_not, not_not]
  simp only [expireOne]
  by_cases hf : e.2.Frozen
  · rw [if_neg fun hz => hfrozen.1 hz hf]
    cases hr : custodyAuthorizationReleaseAfter P d e.2 with
    | error msg => simp [hf]
    | ok recomputed =>
      simp only [peel, not_not, hf, true_imp_iff, Except.ok.injEq]
      refine and_congr_right fun _ => ?_
      by_cases hn : nowUnix < e.2.releaseAfterUnix
      · have hd : ¬ e.2.Due nowUnix := fun hd => UInt64.not_le.2 hn hd.2
        simp only [hn, if_true, pure_ok, hd, false_imp_iff, not_false_iff, true_imp_iff, true_and]
        exact eq_comm
      · have hd : e.2.Due nowUnix := ⟨hf, UInt64.not_lt.1 hn⟩
        simp only [hn, if_false, peel, hd, true_imp_iff, not_true, false_imp_iff, and_true, expireDue_iff]
        constructor
        · rintro ⟨next, hl, rfl⟩; exact ⟨hl, rfl⟩
        · rintro ⟨hl, hc⟩; exact ⟨st'.1, hl, by rw [← hc]⟩
  · have hd : ¬ e.2.Due nowUnix := fun hd => hf hd.1
    rw [if_pos (hfrozen.2 hf)]
    simp only [hf, hd, Except.ok.injEq, false_imp_iff, not_false_iff, true_imp_iff, true_and]
    exact eq_comm

theorem expireOne_steps (hnow : 0 ≤ now.unix) {l : List ((_ : String) × IssuedCustodyPayment)}
    (hl : ∀ e ∈ l, d.issuedCustodyPayments.get? e.1 = some e.2) (hk : l.Nodup)
    (hf : l.foldlM (expireOne P d now.unixU64) (d, false) = .ok st) : Relation.ReflTransGen (Expiry now) d st.1 := by
  have key := foldlM_inv
    (fun done st => done <+: l → Relation.ReflTransGen (Expiry now) d st.1 ∧
      ∀ e ∈ l, e ∉ done → st.1.issuedCustodyPayments.get? e.1 = some e.2) ?_ l [] (d, false) st
    (fun _ => ⟨.refl, fun e he _ => hl e he⟩) hf
  · exact (key (List.prefix_refl l)).1
  intro done st e st' hst hround hpre
  obtain ⟨hsteps, hleft⟩ := hst ((List.prefix_append done _).trans hpre)
  have hmem : e ∈ l := hpre.subset (by simp)
  have hnew : e ∉ done := fun hin =>
    (List.nodup_append.1 (hk.sublist hpre.sublist)).2.2 _ hin _ (List.mem_singleton.2 rfl) rfl
  obtain ⟨-, hlapse, hkeep⟩ := expireOne_ok.1 hround
  by_cases hdue : e.2.Due now.unixU64
  · obtain ⟨hlapse, -⟩ := hlapse hdue
    refine ⟨hsteps.tail ⟨hnow, e.1, e.2, hleft e hmem hnew, hdue, hlapse⟩, fun e' he' hd => ?_⟩
    simp only [List.mem_append, List.mem_singleton, not_or] at hd
    have hne : e'.1 ≠ e.1 := by
      intro hkey
      have hval : e'.2 = e.2 := Option.some.inj ((hl e' he').symm.trans (hkey ▸ hl e hmem))
      exact hd.2 (Sigma.ext hkey (heq_of_eq hval))
    rw [hlapse.issued, Map.get?_delete, if_neg hne]
    exact hleft e' he' hd.1
  · rw [hkeep hdue]
    exact ⟨hsteps, fun e' he' hd => hleft e' he' fun hin => hd (List.mem_append_left _ hin)⟩

theorem expire_steps (he : expireIssuedCustody P order now d = .ok (some d')) :
    Relation.ReflTransGen (Expiry now) d d' := by
  unfold expireIssuedCustody at he
  split at he
  · cases he
  · simp only [peel] at he
    obtain ⟨hnow, ⟨next, changed⟩, hfold, hnext⟩ := he
    have hsteps := expireOne_steps (not_lt.1 hnow) (fun e he => Map.mem_range.1 he)
      ((Map.range_perm order 4 d.issuedCustodyPayments).nodup_iff.2 (AList.nodupKeys _).nodup) hfold
    split at hnext <;> cases hnext
    exact hsteps

theorem expire_changes (he : expireIssuedCustody P order now d = .ok (some d')) : d' ≠ d := by
  unfold expireIssuedCustody at he
  split at he
  · cases he
  · simp only [peel] at he
    obtain ⟨-, ⟨next, changed⟩, hfold, hnext⟩ := he
    have hdropped := foldlM_inv (fun done st => st.2 = true → ∃ e ∈ done, st.1.issuedCustodyPayments.get? e.1 = none) ?_
      (d.issuedCustodyPayments.range order 4) [] (d, false) (next, changed) (fun hf => by cases hf) hfold
    · split at hnext
      · rename_i htrue
        cases hnext
        obtain ⟨e, he, hnone⟩ := hdropped htrue
        rintro rfl
        rw [Map.mem_range.1 he] at hnone
        cases hnone
      · cases hnext
    · intro done st e st' hst hround htrue
      obtain ⟨-, hlapse, hkeep⟩ := expireOne_ok.1 hround
      by_cases hdue : e.2.Due now.unixU64
      · refine ⟨e, by simp, ?_⟩
        rw [(hlapse hdue).1.issued, Map.get?_delete, if_pos rfl]
      · rw [hkeep hdue] at htrue ⊢
        obtain ⟨e', he', hnone⟩ := hst htrue
        exact ⟨e', List.mem_append_left _ he', hnone⟩

/-! ## Steps -/

theorem persist_doc (w : WriteOutcome) (next : AuthorityDocument) (a : PersonalAuthority) :
    (a.persist w next).1.doc = a.doc ∨ (a.persist w next).1.doc = next := by
  unfold PersonalAuthority.persist
  split
  · exact .inr rfl
  · exact .inl rfl
  · rename_i reached
    cases reached
    · exact .inl rfl
    · exact .inr rfl

theorem expireLocked_steps (a : PersonalAuthority) :
    Relation.ReflTransGen (Expiry (h.clock 0)) a.doc (a.expireIssuedCustodyLocked P h).1.doc := by
  unfold PersonalAuthority.expireIssuedCustodyLocked
  split
  · exact .refl
  · exact .refl
  · rename_i next he
    rcases persist_doc (h.write 0) next a with hd | hd
    · rw [hd]
    · rw [hd]; exact expire_steps he

theorem commit_doc (hb : op.before = .ok ()) :
    (op.commit h a).1.doc = a.doc ∨ op.Stores a.doc (op.commit h a).1.doc := by
  unfold Operation.commit
  split
  · exact .inl rfl
  · exact .inl rfl
  all_goals
    rename_i next _ he
    rcases persist_doc (h.write 1) next a with hd | hd
    · exact .inl hd
    · exact .inr ⟨hb, _, he, by simp only [Outcome.next]; rw [hd]⟩

/-- The ways of one call: it stops before its transaction, or its transaction runs on what expiry, if it
expires bearers, has left. -/
theorem run_cases (op : Operation α) (a : PersonalAuthority) :
    (∃ b msg, op.run P h a = (b, .error msg) ∧
      (b.doc = a.doc ∨ op.expires = true ∧ b = (a.expireIssuedCustodyLocked P h).1)) ∨
    (op.before = .ok () ∧ a.poisoned = false ∧ h.attached = true) ∧
      (op.expires = false ∧ op.run P h a = op.commit h a ∨ op.expires = true ∧
        (a.expireIssuedCustodyLocked P h).2 = .ok () ∧
        op.run P h a = op.commit h (a.expireIssuedCustodyLocked P h).1) := by
  simp only [Operation.run, PersonalAuthority.ensureStorageIdentityLocked]
  cases op.before with
  | error e => exact .inl ⟨a, e, rfl, .inl rfl⟩
  | ok u =>
    cases a.poisoned with
    | true => exact .inl ⟨a, _, rfl, .inl rfl⟩
    | false =>
      cases h.attached with
      | false => exact .inl ⟨_, _, rfl, .inl rfl⟩
      | true =>
        cases op.expires with
        | false => exact .inr ⟨⟨rfl, rfl, rfl⟩, .inl ⟨rfl, rfl⟩⟩
        | true =>
          simp only [if_true, Bool.false_eq_true, if_false]
          rcases a.expireIssuedCustodyLocked P h with ⟨b, e | u'⟩
          · exact .inl ⟨b, e, rfl, .inr ⟨trivial, rfl⟩⟩
          · simp

/-- What one operation does to the document: due bearers lapse if it expires them, then it writes. -/
theorem run_doc (op : Operation α) (a : PersonalAuthority) :
    ∃ d, Relation.ReflTransGen (Expiry (h.clock 0)) a.doc d ∧ (op.expires = false → d = a.doc) ∧
    ((op.run P h a).1.doc = d ∨ op.Stores d (op.run P h a).1.doc) := by
  rcases run_cases (P := P) (h := h) op a with ⟨b, msg, hr, hb⟩ | ⟨⟨hb, -⟩, ⟨hx, hr⟩ | ⟨hx, -, hr⟩⟩ <;> rw [hr]
  · rcases hb with hb | ⟨hx, rfl⟩
    · exact ⟨a.doc, .refl, fun _ => rfl, .inl hb⟩
    · exact ⟨_, expireLocked_steps a, by simp [hx], .inl rfl⟩
  · exact ⟨a.doc, .refl, fun _ => rfl, commit_doc hb⟩
  · exact ⟨_, expireLocked_steps a, by simp [hx], commit_doc hb⟩

/-- What a call that returns a value found and did: an open authority, due bearers lapsed if it expires
them, and its transaction accepted on the document they left. -/
structure Returns (P : Protocol) (h : Host) {α : Type} (op : Operation α) (a : PersonalAuthority) (v : α)
    (d : AuthorityDocument) : Prop where
  opened : a.poisoned = false
  attached : h.attached = true
  before : op.before = .ok ()
  steps : Relation.ReflTransGen (Expiry (h.clock 0)) a.doc d
  idle : op.expires = false → d = a.doc
  expired : op.expires = true → expireIssuedCustody P h.range (h.clock 0) a.doc = .ok none ∧ d = a.doc ∨
    expireIssuedCustody P h.range (h.clock 0) a.doc = .ok (some d)
  accepted : op.body d = .ok (.keep v) ∧ (op.run P h a).1 = { doc := d } ∨
    ∃ next, op.body d = .ok (.store next v) ∧ (op.run P h a).1 = { doc := next }

theorem persist_ok {w : WriteOutcome} {next : AuthorityDocument} {u : Unit}
    (hp : (a.persist w next).2 = .ok u) : a.persist w next = ({ a with doc := next }, .ok ()) := by
  unfold PersonalAuthority.persist at hp ⊢
  split at hp
  · rfl
  · cases hp
  · cases hp

theorem commit_ok {v : α} (ho : a.poisoned = false) (hr : (op.commit h a).2 = .ok v) :
    op.body a.doc = .ok (.keep v) ∧ (op.commit h a).1 = { doc := a.doc } ∨
      ∃ next, op.body a.doc = .ok (.store next v) ∧ (op.commit h a).1 = { doc := next } := by
  rcases a with ⟨doc, poisoned⟩
  cases ho
  unfold Operation.commit at hr ⊢
  cases hb : op.body doc with
  | error e => simp only [hb] at hr; cases hr
  | ok o =>
    simp only [hb] at hr ⊢
    cases o with
    | keep v' => cases hr; exact .inl ⟨rfl, rfl⟩
    | store next v' =>
      dsimp only at hr ⊢
      cases hw : (PersonalAuthority.persist (h.write 1) next ⟨doc, false⟩).2 with
      | error e => rw [hw] at hr; cases hr
      | ok u =>
        rw [hw] at hr
        cases hr
        exact .inr ⟨next, rfl, by rw [persist_ok hw]⟩
    | storeThenFail next msg =>
      dsimp only at hr
      cases hw : (PersonalAuthority.persist (h.write 1) next ⟨doc, false⟩).2 with
      | error e | ok u => rw [hw] at hr; cases hr

theorem expireLocked_ok (he : (a.expireIssuedCustodyLocked P h).2 = .ok ()) :
    (a.expireIssuedCustodyLocked P h).1.poisoned = a.poisoned ∧
    (expireIssuedCustody P h.range (h.clock 0) a.doc = .ok none ∧ (a.expireIssuedCustodyLocked P h).1.doc = a.doc ∨
        expireIssuedCustody P h.range (h.clock 0) a.doc = .ok (some (a.expireIssuedCustodyLocked P h).1.doc)) := by
  unfold PersonalAuthority.expireIssuedCustodyLocked at he ⊢
  split at he
  · cases he
  · rename_i hnone
    exact ⟨rfl, .inl ⟨hnone, rfl⟩⟩
  · rename_i next hsome
    rw [persist_ok he]
    exact ⟨rfl, .inr hsome⟩

theorem run_returns {v : α} (hr : (op.run P h a).2 = .ok v) : ∃ d, Returns P h op a v d := by
  rcases run_cases (P := P) (h := h) op a with ⟨b, msg, heq, -⟩ | ⟨⟨hb, ho, hat⟩, ⟨hx, heq⟩ | ⟨hx, he, heq⟩⟩ <;>
    rw [heq] at hr
  · cases hr
  · exact ⟨a.doc, ho, hat, hb, .refl, fun _ => rfl, fun ht => absurd (hx.symm.trans ht) nofun, heq ▸ commit_ok ho hr⟩
  · obtain ⟨hopened, hexpired⟩ := expireLocked_ok he
    exact ⟨_, ho, hat, hb, expireLocked_steps a, fun hf => absurd (hx.symm.trans hf) nofun, fun _ => hexpired,
      heq ▸ commit_ok (hopened.trans ho) hr⟩

/-- The document as a restart reads it: missing obligation runtimes are filled in. -/
def migrated (d : AuthorityDocument) : AuthorityDocument :=
  { d with engagements := d.engagements.mapVal fun _ record => initializeObligationRuntime record }

/-- A document whose relay admissions a restart has nothing to fill in for: the next sequence is set, and
the binding index is not missing. -/
structure RelayReady (d : AuthorityDocument) : Prop where
  numbered : d.nextRelayAdmissionSequence ≠ 0
  bound : d.relayAdmissionBindings.entries = [] → d.relayAdmissions.entries = []

theorem loadRelayAdmissions_ok (hr : RelayReady d) (hl : loadRelayAdmissions P order d = .ok d') : d' = d := by
  have hnumbered : ¬ (d.nextRelayAdmissionSequence = 0 ∧ d.relayAdmissions.entries = []) := fun hz => hr.numbered hz.1
  simp only [loadRelayAdmissions, if_neg hnumbered, peel] at hl
  obtain ⟨-, sequences, -, expected, hkeys, -, hl⟩ := hl
  split at hl
  · -- Without receipts there are no routes, so nothing is rebuilt.
    rename_i hmissing
    have hrange : d.relayAdmissions.range order 10 = [] := by
      have hperm := Map.range_perm order 10 d.relayAdmissions
      rw [hr.bound hmissing.1] at hperm
      exact hperm.eq_nil
    rw [hrange] at hkeys
    cases hkeys
    exact absurd rfl hmissing.2
  · simp only [peel] at hl
    exact hl.2.symm

theorem load_ok (hr : RelayReady d) (hl : load P h d = .ok d') : d' = migrated d := by
  simp only [load, peel] at hl
  obtain ⟨-, -, -, d₁, hrelay, -, -, -, -, -, -, -, -, rfl⟩ := hl
  rw [loadRelayAdmissions_ok hr hrelay]
  rfl

theorem reopen_doc (a : PersonalAuthority) (hr : RelayReady a.doc) (limits : PortfolioLimits) :
    ∃ d, (d = a.doc ∨ d = migrated a.doc) ∧ Relation.ReflTransGen (Expiry (h.clock 0)) d
      (a.reopen P h limits).1.doc := by
  unfold PersonalAuthority.reopen
  split
  · exact ⟨a.doc, .inl rfl, .refl⟩
  · rename_i d hl
    rw [load_ok hr hl]
    split
    · exact ⟨a.doc, .inl rfl, .refl⟩
    · have hsteps := expireLocked_steps (P := P) (h := h) { doc := migrated a.doc }
      refine ⟨migrated a.doc, .inr rfl, ?_⟩
      split <;> (rename_i he; rw [he] at hsteps; exact hsteps)

/-- Whether an event first expires due bearers: a restart does, and some calls do. -/
def Event.expires (P : Protocol) (doc : AuthorityDocument) (e : Event) : Bool :=
  match e.request with
  | .reopen _ => true
  | _ =>
    match e.call? P doc with
    | .ok (some c) => (c.operation P e.host).expires
    | _ => false

/-- What one event does to the document: a restart may fill in runtimes, due bearers lapse, and the
call of the event, if it accepts, writes. -/
theorem step_doc (a : PersonalAuthority) (hr : RelayReady a.doc) (e : Event) :
    ∃ d₀ d₁, (d₀ = a.doc ∨ d₀ = migrated a.doc) ∧ Relation.ReflTransGen (Expiry (e.host.clock 0)) d₀ d₁ ∧
      (e.expires P a.doc = false → d₁ = a.doc) ∧
      ((step P a e).doc = d₁ ∨ ∃ c, e.call? P a.doc = .ok (some c) ∧ Writes P e.host d₁ c (step P a e).doc) := by
  have hcall : ∀ c, e.call? P a.doc = .ok (some c) → e.expires P a.doc = (c.operation P e.host).expires →
      step P a e = ((c.operation P e.host).run P e.host a).1 →
      ∃ d₀ d₁, (d₀ = a.doc ∨ d₀ = migrated a.doc) ∧ Relation.ReflTransGen (Expiry (e.host.clock 0)) d₀ d₁ ∧
        (e.expires P a.doc = false → d₁ = a.doc) ∧
        ((step P a e).doc = d₁ ∨ ∃ c, e.call? P a.doc = .ok (some c) ∧ Writes P e.host d₁ c (step P a e).doc) := by
    intro c hc hx hs
    obtain ⟨d, hsteps, hidle, hd⟩ := run_doc (c.operation P e.host) a
    rw [← hs] at hd
    exact ⟨a.doc, d, .inl rfl, hsteps, hx ▸ hidle, hd.imp id fun hw => ⟨c, hc, writes_of hw⟩⟩
  rcases e with ⟨host, request⟩
  cases request with
  | call c => exact hcall c rfl rfl rfl
  | message verifier event =>
    cases hc : coordinatorCall P host verifier a.doc event with
    | error msg =>
      refine ⟨a.doc, a.doc, .inl rfl, .refl, fun _ => rfl, .inl ?_⟩
      simp [step, perform, hc]
    | ok c =>
      refine hcall c ?_ ?_ ?_
      · simp only [Event.call?, hc]; rfl
      · simp only [Event.expires, Event.call?, hc]; rfl
      · simp [step, perform, hc]
  | reopen limits =>
    obtain ⟨d, hd, hsteps⟩ := reopen_doc a hr limits
    exact ⟨d, _, hd, hsteps, fun hx => Bool.noConfusion hx, .inl rfl⟩

theorem run_map {β : Type} (f : α → β) (op : Operation α) (a : PersonalAuthority) :
    (op.map f).run P h a = ((op.run P h a).1, (op.run P h a).2.map f) := by
  have hcommit : ∀ b, (op.map f).commit h b = ((op.commit h b).1, (op.commit h b).2.map f) := by
    intro b
    simp only [Operation.commit, Operation.map]
    cases op.body b.doc with
    | error e => rfl
    | ok o =>
      cases o with
      | keep v => rfl
      | store next v | storeThenFail next msg =>
        simp only [Except.map, Outcome.map]
        cases (b.persist (h.write 1) next).2 <;> rfl
  simp only [Operation.run, hcommit]
  have hbefore : (op.map f).before = op.before := rfl
  have hexpires : (op.map f).expires = op.expires := rfl
  rw [hbefore, hexpires]
  cases op.before with
  | error e => rfl
  | ok u =>
    dsimp only
    split
    · rfl
    · split
      · rfl
      · rfl

theorem perform_call {e : Event} {c : Call} (hc : e.call? P a.doc = .ok (some c)) :
    perform P a e = (c.operation P e.host).run P e.host a := by
  rcases e with ⟨host, request⟩
  cases request with
  | call c' => cases hc; rfl
  | message verifier event =>
    cases hm : coordinatorCall P host verifier a.doc event with
    | error msg => simp only [Event.call?, hm] at hc; cases hc
    | ok c' =>
      simp only [Event.call?, hm] at hc
      cases hc
      simp [perform, hm]
  | reopen limits => cases hc

end OpenFox.Authority
