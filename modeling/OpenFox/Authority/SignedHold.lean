/-
The hold behind a local signature. A restart accepts a document only if every engagement the local
agent signed as a buyer still has the reservation that covered its exposure, released only for a
terminal reason. Releasing checks that reason once; the operations that project the state anew do
not look at the hold again.
-/
import OpenFox.Authority.Expiry

namespace OpenFox.Authority

open OpenFox.Go OpenFox.Commerce OpenFox.Base

variable {P : Protocol} {h : Host} {d d' : AuthorityDocument} {c : Call}

/-! ## Exposure -/

def exposed (agentID : String) (r : EngagementRecord) : Bool :=
  match localAgreementPaymentExposure r.body agentID with
  | .ok exposure => 0 < exposure.maximumLoss
  | .error _ => false

/-- A locally signed engagement with a positive outgoing exposure. -/
def signedBuyer (P : Protocol) (d : AuthorityDocument) (r : EngagementRecord) : Bool :=
  locallySigned P d r && exposed d.agentID r

variable {r r' : EngagementRecord} {nowUnix : UInt64} {agentID id k : String} {issued : IssuedCustodyPayment}

theorem exposure_valueless {l : List AgreementObligation} (hl : ∀ o ∈ l, o.amount = none)
    (exposure : AgreementPaymentExposure) : l.foldlM (addExposure agentID) exposure = .ok exposure := by
  induction l with
  | nil => rfl
  | cons o l ih =>
    have hnone := hl o List.mem_cons_self
    simp only [List.foldlM_cons, addExposure, hnone]
    exact ih fun o ho => hl o (List.mem_cons_of_mem _ ho)

theorem hasValueObligation_of_exposed (he : exposed agentID r = true) : hasValueObligation r = true := by
  by_contra hnone
  have hall : ∀ o ∈ r.body.obligations, o.amount = none := by
    simpa [hasValueObligation] using hnone
  rw [exposed, localAgreementPaymentExposure, exposure_valueless hall] at he
  cases he

theorem exposureCovered_congr (hbody : r'.body = r.body)
    (hdigest : r'.agreementDigest = r.agreementDigest) (agentID : String) (o : Option ExposureReservation) :
    exposureCovered r' agentID o = exposureCovered r agentID o := by
  simp [exposureCovered, reservationExactlyCoversAgreementPayment, hbody, hdigest]

theorem exposureCovered_none (hc : exposureCovered r agentID none = true)
    (o : Option ExposureReservation) : exposureCovered r agentID o = true := by
  unfold exposureCovered at hc ⊢
  split at hc
  · cases hc
  · rw [Bool.or_false] at hc
    rw [hc, Bool.true_or]

theorem exposureCovered_exposed {o : Option ExposureReservation}
    (hc : exposureCovered r agentID o = true) (he : exposed agentID r = true) :
    ∃ hold, o = some hold ∧ hold.released = false := by
  unfold exposureCovered at hc
  unfold exposed at he
  split at hc
  · cases hc
  · rename_i exposure hexposure
    rw [hexposure] at he
    simp only [he, Bool.not_true, Bool.false_or] at hc
    split at hc
    · rename_i hold
      simp only [reservationExactlyCoversAgreementPayment, Bool.and_eq_true, beq_iff_eq, Bool.not_eq_true'] at hc
      exact ⟨hold, rfl, hc.1.1.1.2⟩
    · cases hc

/-! ## Holds and their engagements -/

/-- The hold of a record covers its exposure, released or not. -/
def Covered (d : AuthorityDocument) (r : EngagementRecord) : Prop :=
  exposureCovered r d.agentID ((d.reservations.get? r.reservationID).map ({ · with released := false })) = true

/-- Every hold an engagement names exists and names the engagement. -/
def Held (d : AuthorityDocument) : Prop :=
  ∀ {k r}, d.engagements.get? k = some r → r.reservationID ≠ "" →
    ∃ hold, d.reservations.get? r.reservationID = some hold ∧ hold.agreementDigest = k

theorem PortfolioMove.terms (hm : PortfolioMove P d d') {r : ExposureReservation}
    (hr : d.reservations.get? id = some r) :
    ∃ r', d'.reservations.get? id = some r' ∧ { r' with released := false } = { r with released := false } := by
  rcases hm.held hr with hr' | ⟨-, hr'⟩ <;> exact ⟨_, hr', rfl⟩

theorem Held.carry (hI : Held d) (hm : PortfolioMove P d d') (found : d.engagements.get? k = some r)
    (hne : r.reservationID ≠ "") :
    ∃ hold, d'.reservations.get? r.reservationID = some hold ∧ hold.agreementDigest = k := by
  obtain ⟨hold, hget, hown⟩ := hI found hne
  obtain ⟨hold', hget', hterms⟩ := hm.terms hget
  exact ⟨hold', hget', (congrArg (·.agreementDigest) hterms).trans hown⟩

theorem Covered.carry (hc : Covered d r) (hm : PortfolioMove P d d')
    (hagent : d'.agentID = d.agentID) (hbody : r'.body = r.body) (hdigest : r'.agreementDigest = r.agreementDigest)
    (hid : r'.reservationID = r.reservationID) : Covered d' r' := by
  unfold Covered at hc ⊢
  rw [exposureCovered_congr hbody hdigest, hid, hagent]
  cases hr : d.reservations.get? r.reservationID with
  | none => rw [hr] at hc; exact exposureCovered_none hc _
  | some hold =>
    obtain ⟨hold', hr', hterms⟩ := hm.terms hr
    rw [hr] at hc
    rw [hr', Option.map_some, hterms]
    exact hc

theorem Covered.of_live (hc : exposureCovered r d.agentID (d.reservations.get? r.reservationID) = true) :
    Covered d r := by
  unfold Covered
  cases he : exposed d.agentID r with
  | true =>
    obtain ⟨hold, hhold, hlive⟩ := exposureCovered_exposed hc he
    rw [hhold] at hc ⊢
    rw [Option.map_some, ← hlive]
    exact hc
  | false =>
    unfold exposureCovered at hc ⊢
    unfold exposed at he
    split at hc
    · cases hc
    · rename_i exposure hexposure
      rw [hexposure] at he
      simp [he]

theorem Covered.hold (hc : Covered d r) (he : exposed d.agentID r = true) :
    ∃ hold, d.reservations.get? r.reservationID = some hold := by
  obtain ⟨_, hsome, -⟩ := exposureCovered_exposed hc he
  obtain ⟨hold, hhold, -⟩ := Option.map_eq_some_iff.1 hsome
  exact ⟨hold, hhold⟩

theorem Lapses.held (hwf : WF P d) (hl : Lapses nowUnix k issued d d') (hI : Held d) : Held d' := by
  intro key r hk hne
  rcases hl.record hwf hk with found | ⟨r, found, rfl, -⟩
  · exact hI.carry (hl.portfolio hwf) found hne
  · exact (hI.carry (hl.portfolio hwf) found :) hne

theorem Writes.held (hwf : WF P d) (hw : Writes P h d c d') (hI : Held d) : Held d' := by
  intro k r' hk hne
  have hkeep : ∀ {r}, d.engagements.get? k = some r → r'.reservationID = r.reservationID →
      ∃ hold, d'.reservations.get? r'.reservationID = some hold ∧ hold.agreementDigest = k := fun found hsame => by
    rw [hsame] at hne ⊢
    exact hI.carry (hw.portfolio hwf) found hne
  cases (hw.engagements hwf).recordAfter hk with
  | same found => exact hkeep found rfl
  | flagged found _ _ marked => subst marked; exact hkeep found rfl
  | proposed _ _ _ _ _ _ _ new => subst new; exact absurd rfl hne
  | @updated r found updates =>
    rcases updates.keeps found with hkeeps | ⟨_, _, _, _, -, rfl⟩ | ⟨_, _, _, _, reserve, rfl, rfl⟩
    · exact hkeep found hkeeps.reservation
    · exact hkeep found rfl
    · -- Only a reservation sets the hold, and it puts the hold of this agreement there.
      cases updates with
      | reserve own _ _ _ held => exact ⟨reserve.reservation, by rw [held]; exact Map.get?_put_self, own⟩

/-! ## Signatures -/

theorem mem_withEvidence {agreement : AgentAgreement} {evidence e : AuthorizationEvidence} :
    e ∈ (withEvidence h agreement evidence).authorizationEvidence ↔ e ∈ agreement.authorizationEvidence ∨
      e = evidence := by
  rw [(withEvidence_perm agreement evidence).mem_iff, List.mem_append, List.mem_singleton]

/-- A locally signed engagement was signed before, or the call records the signature and found the
exposure covered. -/
theorem Writes.signature (hwf : WF P d) (hw : Writes P h d c d')
    (hk : d'.engagements.get? k = some r') (hs : locallySigned P d' r' = true) :
    ∃ r, d.engagements.get? k = some r ∧ r'.body = r.body ∧
    (locallySigned P d r = true ∨ exposureCovered r d.agentID (d.reservations.get? r.reservationID) = true ∧
        ∃ evidence verifier, c = .recordAgreementEvidence k evidence verifier) := by
  unfold locallySigned at hs
  rw [hw.owner.2.1] at hs
  cases (hw.engagements hwf).recordAfter hk with
  | same found => exact ⟨r', found, rfl, .inl hs⟩
  | flagged found _ _ marked => subst marked; exact ⟨_, found, rfl, .inl hs⟩
  | proposed _ _ _ _ _ _ _ new => subst new; cases hs
  | @updated r found updates =>
    refine ⟨r, found, (updates.continues found).body, ?_⟩
    rcases updates.keeps found with hkeeps | ⟨evidence, _, _, verifier, rfl, rfl⟩ | ⟨_, _, _, _, _, rfl, rfl⟩
    · rw [hkeeps.agreement] at hs
      exact .inl hs
    · obtain ⟨e, he, hlocal⟩ := List.any_eq_true.1 hs
      rcases mem_withEvidence.1 he with hold | rfl
      · exact .inl (List.any_eq_true.2 ⟨e, hold, hlocal⟩)
      · cases updates with
        | recordEvidence _ _ _ _ covered => exact .inr ⟨covered hlocal, _, _, rfl⟩
    · exact .inl hs

/-! ## Terminal releases -/

/-- The states no table transition leaves. -/
def EngagementState.final : EngagementState → Bool
  | .settled | .unpaid | .cancelled | .failed => true
  | _ => false

theorem final_of_terminalRelease (ht : terminalRelease d r = true) : r.state.final = true := by
  unfold terminalRelease at ht
  split at ht <;> first | (rename_i hs; rw [hs]; rfl) | cases ht

theorem allowedEngagementTransition_final {s t : EngagementState} (hs : s.final = true) :
    allowedEngagementTransition s t = false := by
  cases s <;> first | rfl | cases hs

theorem terminalRelease_carry (ht : terminalRelease d r = true) (hstate : r'.state = r.state)
    (htomb : r'.expiredCustodyAuthorization = r.expiredCustodyAuthorization)
    (hledger : hasUnpaidLedgerEntry d r.agreementDigest = false → hasUnpaidLedgerEntry d' r'.agreementDigest = false) :
    terminalRelease d' r' = true := by
  unfold terminalRelease at ht ⊢
  rw [hstate]
  split at ht
  · rw [Bool.not_eq_true'] at ht
    rw [hledger ht]
    rfl
  · rfl
  · rfl
  · rw [htomb]; exact ht
  · cases ht

theorem LedgerMove.unpaid (hm : LedgerMove P d d' c) (hother : c.projectsOnto d ≠ some k)
    (hnone : hasUnpaidLedgerEntry d k = false) : hasUnpaidLedgerEntry d' k = false := by
  rw [hasUnpaidLedgerEntry, ← Bool.not_eq_true, Map.any_iff] at hnone ⊢
  rintro ⟨id, ledger, hget, hunpaid⟩
  have hdigest : ledger.obligation.agreementBodyDigest = k := by
    rw [Bool.and_eq_true, beq_iff_eq] at hunpaid
    exact hunpaid.1
  cases hm with
  | keep same => exact hnone ⟨id, ledger, by rw [← same]; exact hget, hunpaid⟩
  | add billing _ put =>
    obtain ⟨-, rfl⟩ | hget := Map.put_cases (put ▸ hget)
    · subst billing
      exact hother (congrArg some hdigest)
    · exact hnone ⟨id, ledger, hget, hunpaid⟩
  | change _ onto put =>
    obtain ⟨-, rfl⟩ | hget := Map.put_cases (put ▸ hget)
    · exact hother (onto.trans (congrArg some hdigest))
    · exact hnone ⟨id, ledger, hget, hunpaid⟩

/-- A call is quiet about an engagement if it neither records evidence for it nor projects its state. -/
structure Quiet (d : AuthorityDocument) (c : Call) (k : String) : Prop where
  projects : c.projectsOnto d ≠ some k
  evidence : ∀ e v, c ≠ .recordAgreementEvidence k e v

theorem Updates.final (he : d.engagements.get? k = some r)
    (hu : Updates P h d d' k r c r') (hquiet : Quiet d c k) (hfinal : r.state.final = true) (hr : Unreserved r)
    (hne : r.reservationID ≠ "") (hvalue : hasValueObligation r = true) : r'.state = r.state := by
  have hopen : r.state ≠ .proposed ∧ r.state ≠ .authorizing := by
    constructor <;> intro hs <;> rw [hs] at hfinal <;> cases hfinal
  cases hu.stateMove he with
  | withdraw unfinished => rcases unfinished with hs | hs <;> [exact absurd hs hopen.1; exact absurd hs hopen.2]
  | evidence => exact absurd rfl (hquiet.evidence _ _)
  | reserve _ eligible => exact absurd (engagementEligible_unreserved hr eligible) hne
  | cancel unfinished => exact absurd unfinished hopen.2
  | bindInput state => exact state
  | bindChallenge state => exact state
  | move allowed => rw [allowedEngagementTransition_final hfinal] at allowed; cases allowed
  | complete =>
    cases hu with
    | complete valueless => rw [hvalue] at valueless; cases valueless
  | project onto => exact absurd onto hquiet.projects

theorem Writes.terminal (hwf : WF P d) (hw : Writes P h d c d')
    (hk : d.engagements.get? k = some r) (hk' : d'.engagements.get? k = some r') (hquiet : Quiet d c k)
    (hr : Unreserved r) (hne : r.reservationID ≠ "") (hvalue : hasValueObligation r = true)
    (ht : terminalRelease d r = true) : terminalRelease d' r' = true := by
  have hledger : hasUnpaidLedgerEntry d r.agreementDigest = false →
      hasUnpaidLedgerEntry d' r'.agreementDigest = false := by
    rw [(hwf.engagement hk).1, ((hw.wf hwf).engagement hk').1]
    exact hw.ledger.unpaid hquiet.projects
  rcases (hw.engagements hwf).recordFrom hk hk' with rfl | ⟨_, _, rfl⟩ | updates
  · exact terminalRelease_carry ht rfl rfl hledger
  · exact terminalRelease_carry ht rfl rfl hledger
  · exact terminalRelease_carry ht (updates.final hk hquiet (final_of_terminalRelease ht) hr hne hvalue)
      (updates.continues hk).tombstone hledger

/-! ## What keeps signed holds -/

/-- The engagement is a signed buyer's and its hold is released. -/
def releasedBuyer (P : Protocol) (d : AuthorityDocument) (k : String) : Bool :=
  (d.engagements.get? k).any fun r =>
    signedBuyer P d r && (d.reservations.get? r.reservationID).any (·.released)

/-- Every signed buyer on the reservation satisfies `f`. -/
def buyersOn (P : Protocol) (d : AuthorityDocument) (reservationID : String) (f : EngagementRecord → Bool) : Bool :=
  d.engagements.all fun _ r => r.reservationID != reservationID || !signedBuyer P d r || f r

/-- The call leaves released signed engagements alone: no evidence, delivery, obligation, billing or
settlement step on them, and no rejection that releases a signed hold early. -/
def sparesSigned (P : Protocol) (d : AuthorityDocument) (c : Call) : Bool :=
  match c with
  | .transition id _ .rejected _ _ => d.relaySponsorshipPayments.all fun _ admission =>
      admission.payment.stableActionID != id || buyersOn P d admission.reservation.reservationID (terminalRelease d)
  | .recordAgreementEvidence digest _ _ => !releasedBuyer P d digest
  | c => match c.projectsOnto d with
    | some k => !releasedBuyer P d k
    | none => true

/-- What a signed buyer must be when the bearer on its hold lapses: without an unpaid bill if it is
settled and the bearer its own, terminal if the bearer is a sponsorship's. -/
def lapseSpares (d : AuthorityDocument) (i : IssuedCustodyPayment) (r : EngagementRecord) : Bool :=
  if i.sponsorshipAdmissionID = "" then r.state != .settled || !hasUnpaidLedgerEntry d r.agreementDigest
  else terminalRelease d r

def lapsesSpare (P : Protocol) (nowUnix : UInt64) (d : AuthorityDocument) : Bool :=
  d.issuedCustodyPayments.all fun _ i => !decide (i.Due nowUnix) || buyersOn P d i.reservationID (lapseSpares d i)

/-- The step spares signed holds, both with its expiry and with its call. -/
def sparesHolds (P : Protocol) (a : PersonalAuthority) (e : Event) : Bool :=
  Obeys P (sparesSigned P) a e && (!e.expires P a.doc || lapsesSpare P (e.host.clock 0).unixU64 a.doc)

theorem buyersOn_iff {f : EngagementRecord → Bool} : buyersOn P d id f = true ↔
      ∀ k r, d.engagements.get? k = some r → r.reservationID = id → signedBuyer P d r = true → f r = true := by
  simp only [buyersOn, Map.all_iff, Bool.or_eq_true, bne_iff_ne, ne_eq, Bool.not_eq_true']
  refine forall₃_congr fun k r _ => ⟨fun hr hid hs => ?_, fun hr => ?_⟩
  · rcases hr with (hne | hn) | hf
    · exact absurd hid hne
    · rw [hs] at hn; cases hn
    · exact hf
  · by_cases hid : r.reservationID = id
    · cases hs : signedBuyer P d r with
      | false => exact .inl (.inr rfl)
      | true => exact .inr (hr hid hs)
    · exact .inl (.inl hid)

theorem releasedBuyer_true (hk : d.engagements.get? k = some r)
    (hs : signedBuyer P d r = true) (ho : Over d r.reservationID) : releasedBuyer P d k = true := by
  obtain ⟨hold, hget, hover⟩ := ho
  simp [releasedBuyer, hk, hs, hget, hover]

theorem quiet_of_spares (hg : sparesSigned P d c = true)
    (hk : d.engagements.get? k = some r) (hs : signedBuyer P d r = true) (ho : Over d r.reservationID) :
    Quiet d c k := by
  have hreleased := releasedBuyer_true hk hs ho
  constructor
  · intro honto
    unfold sparesSigned at hg
    split at hg
    · cases honto
    · cases honto
    · rw [honto] at hg
      simp only [hreleased, Bool.not_true] at hg
      cases hg
  · rintro e v rfl
    simp only [sparesSigned, hreleased, Bool.not_true] at hg
    cases hg

theorem Frees.quiet (hf : Frees h d c id) (k : String) : Quiet d c k := by
  cases hf <;> exact ⟨nofun, nofun⟩

theorem evidenceSender_of_agentSignature {e : AuthorizationEvidence}
    (he : isAgentSignatureOf P agentID e = true) : evidenceSenderMatches e.authoritySubject agentID = true := by
  simp only [isAgentSignatureOf, Bool.and_eq_true, beq_iff_eq] at he
  simp [evidenceSenderMatches, he.1.2, he.2]

theorem terminalRelease_of_releasable (hk : d.engagements.get? k = some r)
    (hr : releasableEngagement d k = .ok ()) : terminalRelease d r = true := by
  simp only [releasableEngagement, hk] at hr
  unfold terminalRelease
  split at hr
  · rename_i hs
    rw [refuse_ok, Bool.not_eq_true] at hr
    rw [hs, hr]
    rfl
  · rename_i hs; rw [hs]
  · rename_i hs; rw [hs]
  · cases hr

theorem Frees.terminal (hheld : Held d) (hf : Frees h d c id) (hg : sparesSigned P d c = true)
    (hk : d.engagements.get? k = some r) (hs : signedBuyer P d r = true)
    (hid : r.reservationID = id) (hne : r.reservationID ≠ "") : terminalRelease d r = true := by
  obtain ⟨hold, hget, hown⟩ := hheld hk hne
  cases hf with
  | reject _ sponsored =>
    obtain ⟨key, hkey, hact⟩ := sponsorshipOf_some sponsored
    simp only [sparesSigned, Map.all_iff, Bool.or_eq_true, bne_iff_ne] at hg
    exact buyersOn_iff.1 ((hg key _ hkey).resolve_left fun hn => hn hact) k r hk hid hs
  | release found _ finished =>
    rw [← hid, hget] at found
    cases found
    exact terminalRelease_of_releasable hk (hown ▸ finished)
  | @cancel digest _ _ record found holder _ unsigned =>
    obtain ⟨hold', hget', hown'⟩ := hheld found (by rw [holder, ← hid]; exact hne)
    rw [holder, ← hid, hget] at hget'
    cases hget'
    rw [← hown', hown, hk] at found
    cases found
    rw [signedBuyer, Bool.and_eq_true, locallySigned, List.any_eq_true] at hs
    obtain ⟨⟨e, he, hlocal⟩, -⟩ := hs
    rw [List.any_eq_true.2 ⟨e, he, evidenceSender_of_agentSignature hlocal⟩] at unsigned
    cases unsigned

/-! ## The invariant -/

/-- Signed engagements have covered holds, and a released one has a terminal reason. -/
structure SignedHolds (P : Protocol) (d : AuthorityDocument) : Prop where
  bearing : Bearing P d
  unreserved : ∀ {k r}, d.engagements.get? k = some r → Unreserved r
  held : Held d
  buried : Buried d
  covered : ∀ {k r}, d.engagements.get? k = some r → locallySigned P d r = true → Covered d r
  closed : ∀ {k r}, d.engagements.get? k = some r → signedBuyer P d r = true → Over d r.reservationID →
    terminalRelease d r = true

theorem SignedHolds.valid (hI : SignedHolds P d)
    (hk : d.engagements.get? k = some r) (hs : locallySigned P d r = true) : signedHoldValid d r = true := by
  have hc := hI.covered hk hs
  have hclosed := hI.closed hk
  have hburied := hI.buried.record hk
  unfold Covered exposureCovered at hc
  unfold signedHoldValid
  cases he : localAgreementPaymentExposure r.body d.agentID with
  | error e => rw [he] at hc; cases hc
  | ok exposure =>
    simp only [he, Bool.or_eq_true, Bool.not_eq_true'] at hc ⊢
    refine hc.imp id fun hc => ?_
    cases hget : d.reservations.get? r.reservationID with
    | none => rw [hget] at hc; cases hc
    | some hold =>
      simp only [hget, Option.map_some] at hc
      have hpositive : exposed d.agentID r = true := by
        simp only [reservationExactlyCoversAgreementPayment, Bool.and_eq_true] at hc
        simp only [exposed, he]
        exact hc.1.1.1.1.1.1.2
      have hbuyer : signedBuyer P d r = true := by rw [signedBuyer, hs, hpositive]; rfl
      cases hr : hold.released with
      | true => simp [hc, hr, hclosed hbuyer ⟨hold, hget, hr⟩]
      | false =>
        have hnone : r.expiredCustodyAuthorization = none := by
          by_contra hne
          exact Live.not_over ⟨hold, hget, hr⟩ (hburied hne)
        simp [hc, hr, hnone]

theorem Lapses.over_cases (hwf : WF P d) (hl : Lapses nowUnix k issued d d') (ho : Over d' id) :
    Over d id ∨ id = issued.reservationID := by
  have hput : ∀ {hold}, d.reservations.get? issued.reservationID = some hold →
      d'.reservations = d.reservations.put hold.reservationID { hold with released := true } →
      Over d id ∨ id = issued.reservationID := by
    intro hold hget heq
    obtain ⟨r, hr, hover⟩ := ho
    rw [heq, (hwf.reservation hget).1] at hr
    exact (Map.put_cases hr).symm.imp (fun hr => ⟨r, hr, hover⟩) And.left
  cases hl with
  | sponsorship _ hold | agreement _ hold => exact hput hold rfl

theorem Lapses.signed (hl : Lapses nowUnix k issued d d') (r : EngagementRecord) :
    signedBuyer P d' r = signedBuyer P d r := by
  rw [signedBuyer, signedBuyer, locallySigned, locallySigned, hl.owner.2.1]

theorem terminalRelease_lapsed (ended : r.state.mayExpire = true)
    (hpaid : r.state = .settled → hasUnpaidLedgerEntry d r.agreementDigest = false) :
    terminalRelease d (lapsedRecord r nowUnix issued) = true := by
  simp only [terminalRelease, lapsedRecord]
  cases hs : r.state with
  | settled => simp [hpaid hs]
  | settling | unpaid | cancelled | failed => simp
  | _ => rw [hs] at ended; cases ended

section
variable (hwf : WF P d)
include hwf

/-- A lapse gives the hold it releases a terminal reason, if the signed buyer on it was spared. -/
theorem Lapses.closed (hI : SignedHolds P d) (hl : Lapses nowUnix k issued d d')
    (hspare : buyersOn P d issued.reservationID (lapseSpares d issued) = true) {key : String}
    (hk : d'.engagements.get? key = some r') (hs : signedBuyer P d' r' = true) (ho : Over d' r'.reservationID) :
    terminalRelease d' r' = true := by
  have hledger : ∀ digest, hasUnpaidLedgerEntry d' digest = hasUnpaidLedgerEntry d digest := fun digest => by
    rw [hasUnpaidLedgerEntry, hl.ledger]; rfl
  have hkeep : terminalRelease d r' = true → terminalRelease d' r' = true := fun ht =>
    terminalRelease_carry ht rfl rfl fun hn => (hledger _).trans hn
  have hover := hl.over_cases hwf ho
  have hne := ho.elim fun _ hget => ((hl.wf hwf).reservation hget.1).2
  cases hl with
  | sponsorship sponsored =>
    refine hkeep (hover.elim (hI.closed hk hs) fun hid => ?_)
    have hlapse := buyersOn_iff.1 hspare key r' hk hid hs
    rwa [lapseSpares, if_neg sponsored] at hlapse
  | @agreement _ engagement direct _ _ found own _ ended =>
    simp only [(hwf.engagement found).1, Map.get?_put] at hk
    split at hk
    · cases hk
      have hlapse := buyersOn_iff.1 hspare _ engagement found own hs
      rw [lapseSpares, if_pos direct, Bool.or_eq_true, bne_iff_ne] at hlapse
      refine terminalRelease_lapsed ended fun hsettled => (hledger _).trans ?_
      simpa using hlapse.resolve_left fun hn => hn hsettled
    · rename_i hkey
      refine hkeep (hover.elim (hI.closed hk hs) fun hid => absurd ?_ hkey)
      -- The hold has one engagement, so this would be the record the lapse replaced.
      obtain ⟨hold, hget, hown⟩ := hI.held hk hne
      obtain ⟨hold', hget', hown'⟩ := hI.held found (by rw [own, ← hid]; exact hne)
      rw [own, ← hid, hget] at hget'
      cases hget'
      exact hown.symm.trans hown'

theorem Lapses.signedHolds (hI : SignedHolds P d) (hl : Lapses nowUnix k issued d d')
    (hspare : buyersOn P d issued.reservationID (lapseSpares d issued) = true) : SignedHolds P d' := by
  refine ⟨hl.bearing hwf hI.bearing, hl.unreserved hwf hI.unreserved, hl.held hwf hI.held, hl.buried hwf hI.buried,
    fun hk hs => ?_, fun hk hs ho => hl.closed hwf hI hspare hk hs ho⟩
  have hcarry : ∀ {key r}, d.engagements.get? key = some r → locallySigned P d' r = true → Covered d r := by
    intro key r found hs
    rw [locallySigned, hl.owner.2.1] at hs
    exact hI.covered found hs
  rcases hl.record hwf hk with found | ⟨r, found, rfl, -⟩
  · exact (hcarry found hs).carry (hl.portfolio hwf) hl.owner.2.1 rfl rfl rfl
  · have hold := hcarry found hs
    exact hold.carry (hl.portfolio hwf) hl.owner.2.1 rfl rfl rfl

theorem Lapses.spares (hb : Bearing P d) (hk : d.issuedCustodyPayments.get? k = some issued)
    (hl : Lapses nowUnix k issued d d')
    (hspare : lapsesSpare P nowUnix d = true) : lapsesSpare P nowUnix d' = true := by
  simp only [lapsesSpare, Map.all_iff, Bool.or_eq_true, Bool.not_eq_true', decide_eq_false_iff_not] at hspare ⊢
  intro key i hkey
  obtain ⟨hne, hold⟩ := hl.bearer hkey
  refine (hspare key i hold).imp id fun hbuyers => buyersOn_iff.2 fun digest r hr hid hs => ?_
  rw [hl.signed] at hs
  rcases hl.record hwf hr with found | ⟨r₀, -, rfl, -, hown, -⟩
  · have hlapse := buyersOn_iff.1 hbuyers digest r found hid hs
    unfold lapseSpares terminalRelease hasUnpaidLedgerEntry at hlapse ⊢
    rw [hl.ledger]
    exact hlapse
  · exact absurd (hb.single hold hk (hid.symm.trans hown)) hne

section
variable (hI : SignedHolds P d) (hw : Writes P h d c d')
include hI hw

theorem Writes.coveredBefore (hk : d'.engagements.get? k = some r') (hs : locallySigned P d' r' = true) :
    ∃ r, d.engagements.get? k = some r ∧ r'.body = r.body ∧ Covered d r ∧
    (locallySigned P d r = true ∨ exposureCovered r d.agentID (d.reservations.get? r.reservationID) = true ∧
        ∃ evidence verifier, c = .recordAgreementEvidence k evidence verifier) := by
  obtain ⟨r, found, hbody, hsigned | ⟨hlive, hc⟩⟩ := hw.signature hwf hk hs
  · exact ⟨r, found, hbody, hI.covered found hsigned, .inl hsigned⟩
  · exact ⟨r, found, hbody, .of_live hlive, .inr ⟨hlive, hc⟩⟩

theorem Writes.covered (hk : d'.engagements.get? k = some r') (hs : locallySigned P d' r' = true) : Covered d' r' := by
  obtain ⟨r, found, hbody, hc, -⟩ := hw.coveredBefore hwf hI hk hs
  have hdigest : r'.agreementDigest = r.agreementDigest := by
    rw [(hwf.engagement found).1, ((hw.wf hwf).engagement hk).1]
  by_cases hne : r.reservationID = ""
  · -- There is no hold under the empty ID, so nothing was owed.
    have hnone : d.reservations.get? r.reservationID = none := by
      by_contra hsome
      obtain ⟨hold, hget⟩ := Option.ne_none_iff_exists'.1 hsome
      exact (hwf.reservation hget).2 hne
    rw [Covered, hnone] at hc
    rw [Covered, exposureCovered_congr hbody hdigest, hw.owner.2.1]
    exact exposureCovered_none hc _
  · obtain ⟨r'', hk'', hid, -⟩ := hw.holder hwf hI.unreserved found hne
    rw [hk] at hk''
    cases hk''
    exact hc.carry (hw.portfolio hwf) hw.owner.2.1 hbody hdigest hid

theorem Writes.closed (hg : sparesSigned P d c = true) (hk : d'.engagements.get? k = some r')
    (hs : signedBuyer P d' r' = true) (ho : Over d' r'.reservationID) : terminalRelease d' r' = true := by
  rw [signedBuyer, Bool.and_eq_true] at hs
  obtain ⟨r, found, hbody, hc, hbefore⟩ := hw.coveredBefore hwf hI hk hs.1
  have hexposed : exposed d.agentID r = true := by
    have hafter := hs.2
    unfold exposed at hafter ⊢
    rwa [hbody, hw.owner.2.1] at hafter
  obtain ⟨hold, hget⟩ := hc.hold hexposed
  have hne := (hwf.reservation hget).2
  obtain ⟨r'', hk'', hid, -⟩ := hw.holder hwf hI.unreserved found hne
  rw [hk] at hk''
  cases hk''
  rw [hid] at ho
  have hfrees : Live d r.reservationID → Frees h d c r.reservationID := fun hlive =>
    (hw.frees hwf hlive).resolve_left fun hlive' => hlive'.not_over ho
  have hterminal := fun hquiet => hw.terminal hwf found hk hquiet (hI.unreserved found) hne
    (hasValueObligation_of_exposed hexposed)
  rcases hbefore with hsigned | ⟨hcovered, _, _, rfl⟩
  · have hbuyer : signedBuyer P d r = true := by rw [signedBuyer, hsigned, hexposed]; rfl
    cases hr : hold.released with
    | true =>
      have hover : Over d r.reservationID := ⟨hold, hget, hr⟩
      exact hterminal (quiet_of_spares hg found hbuyer hover) (hI.closed found hbuyer hover)
    | false =>
      have hf := hfrees ⟨hold, hget, hr⟩
      exact hterminal (hf.quiet k) (hf.terminal hI.held hg found hbuyer rfl hne)
  · -- The signature is new: its hold is live, and recording evidence releases nothing.
    obtain ⟨hold', hget', hlive⟩ := exposureCovered_exposed hcovered hexposed
    cases hfrees ⟨hold', hget', hlive⟩

theorem Writes.signedHolds (hg : sparesSigned P d c = true) : SignedHolds P d' :=
  ⟨hw.bearing hwf hI.bearing, hw.unreserved hwf hI.unreserved, hw.held hwf hI.held,
    hw.buried hwf hI.unreserved hI.buried, fun hk hs => hw.covered hwf hI hk hs,
    fun hk hs ho => hw.closed hwf hI hg hk hs ho⟩

end

end

/-! ## Runs -/

theorem fresh_signedHolds (ownerID agentID authorityID : String) (limits : PortfolioLimits) :
    SignedHolds P (AuthorityDocument.fresh ownerID agentID authorityID limits) :=
  ⟨fresh_bearing _ _ _ _, Map.of_empty, Map.of_empty, ⟨Map.of_empty, Map.of_empty⟩, Map.of_empty, Map.of_empty⟩

theorem step_signedHolds {a : PersonalAuthority} {e : Event} (hwf : WF P a.doc) (hI : SignedHolds P a.doc)
    (hg : sparesHolds P a e = true) : SignedHolds P (step P a e).doc := by
  rw [sparesHolds, Bool.and_eq_true, Bool.or_eq_true, Bool.not_eq_true'] at hg
  refine step_induct
    (J := fun d => SignedHolds P d ∧ (e.expires P a.doc = true → lapsesSpare P (e.host.clock 0).unixU64 d = true)) hwf
    ⟨hI, fun hx => hg.2.resolve_left (by rw [hx]; exact nofun)⟩ ?_ And.left ?_
  · rintro d d' hx hd ⟨hId, hspare⟩ ⟨-, k, issued, hk, hdue, lapse⟩
    have hbuyers : buyersOn P d issued.reservationID (lapseSpares d issued) = true := by
      have hall := hspare hx
      simp only [lapsesSpare, Map.all_iff, Bool.or_eq_true, Bool.not_eq_true', decide_eq_false_iff_not] at hall
      exact (hall k issued hk).resolve_left fun hn => hn hdue
    exact ⟨lapse.signedHolds hd hId hbuyers, fun _ => lapse.spares hd hId.bearing hk (hspare hx)⟩
  · rintro c d hc hidle hd ⟨hId, -⟩ hw
    exact hw.signedHolds hd hId (Obeys.carry hg.1 hc hidle fun hx => by cases c <;> first | rfl | cases hx)

/-- In a run whose steps spare signed holds, every engagement with a local agent signature satisfies
the hold check of `load`. -/
theorem signed_hold_survives {ownerID agentID authorityID : String} {limits : PortfolioLimits} {es : List Event}
    (spared : Along (step P) (fun a e => sparesHolds P a e = true)
      (PersonalAuthority.fresh ownerID agentID authorityID limits) es) :
    let d := (exec (step P) (PersonalAuthority.fresh ownerID agentID authorityID limits) es).doc
    ∀ k r, d.engagements.get? k = some r → locallySigned P d r = true → signedHoldValid d r = true := by
  intro d k r hk hs
  have hI : SignedHolds P d := run_invariant (fresh_signedHolds _ _ _ _) (fun _ _ => step_signedHolds) spared
  exact hI.valid hk hs

open Sample in
/-- A signed, withdrawn and cancelled relay whose hold was released. -/
theorem released_run_survives :
    let a := exec (step protocol) Sample.authority releasedRun
    Along (step protocol) (fun a e => sparesHolds protocol a e = true) Sample.authority
        releasedRun ∧
      (a.doc.engagements.get? relayDigest).any (signedBuyer protocol a.doc) = true ∧
      (a.doc.reservations.get? reservationDigest).any (·.released) = true ∧
      ∀ k r, a.doc.engagements.get? k = some r → locallySigned protocol a.doc r = true →
        signedHoldValid a.doc r = true :=
  have spared : Along (step protocol) (fun a e => sparesHolds protocol a e = true)
      (PersonalAuthority.fresh "owner" "alice" "authority" limits) releasedRun := by decide +kernel
  ⟨spared, by decide +kernel, by decide +kernel, signed_hold_survives spared⟩

open Sample in
def Sample.deliverRelay : Event :=
  call 108 (.observeAgreementDelivery relayDigest "deliver" manifestDigest "bob" "event-3")

open Sample in
/-- A delivery observed after the release makes the cancelled engagement `Delivered` again; the
document no longer passes the hold check and does not reopen. -/
theorem delivery_after_release_breaks_hold :
    let a := exec (step protocol) Sample.authority (releasedRun ++ [deliverRelay])
    (a.doc.engagements.get? relayDigest).any (fun r => r.state == .delivered &&
        signedBuyer protocol a.doc r && !signedHoldValid a.doc r) = true ∧
      (a.reopen protocol (host 200) limits).2 =
        .error "personal authority contains a local buyer signature without an exact live hold" := by
  decide +kernel

/-! ## Nothing is forgotten -/

/-- How an engagement may go on: with the body that was agreed and every signature, under the mark of a
fork and under its tombstone once it has them. -/
structure Grows (r r' : EngagementRecord) : Prop where
  body : r'.body = r.body
  evidence : r.agreement.authorizationEvidence ⊆ r'.agreement.authorizationEvidence
  ambiguous : r.negotiationAmbiguous = true → r'.negotiationAmbiguous = true
  tombstone : ∀ t, r.expiredCustodyAuthorization = some t → r'.expiredCustodyAuthorization = some t
  runtime : ∀ id, r.obligationRuntime.has id = true → r'.obligationRuntime.has id = true

theorem Grows.refl (r : EngagementRecord) : Grows r r := ⟨rfl, fun _ he => he, id, fun _ ht => ht, fun _ hid => hid⟩

theorem Grows.trans {r₁ r₂ r₃ : EngagementRecord} (h₁ : Grows r₁ r₂) (h₂ : Grows r₂ r₃) : Grows r₁ r₃ :=
  ⟨h₂.body.trans h₁.body, List.Subset.trans h₁.evidence h₂.evidence, h₂.ambiguous ∘ h₁.ambiguous,
    fun t ht => h₂.tombstone t (h₁.tombstone t ht), fun id hid => h₂.runtime id (h₁.runtime id hid)⟩

theorem Updates.grows (he : d.engagements.get? k = some r) (hu : Updates P h d d' k r c r') : Grows r r' := by
  have hc := hu.continues he
  refine ⟨hc.body, ?_, fun ha => hc.ambiguous.trans ha, fun t ht => hc.tombstone.trans ht, hc.runtime⟩
  rcases hu.keeps he with hk | ⟨_, _, _, _, -, rfl⟩ | ⟨_, _, _, _, _, -, rfl⟩
  · rw [hk.agreement]
    exact List.Subset.refl _
  · exact fun e he => mem_withEvidence.2 (.inl he)
  · exact List.Subset.refl _

/-- What a later document has of an earlier one: every hold as it was or released, and every engagement. -/
structure Remembers (d d' : AuthorityDocument) : Prop where
  hold : ∀ {id r}, d.reservations.get? id = some r → d'.reservations.get? id = some r ∨
    r.released = false ∧ d'.reservations.get? id = some { r with released := true }
  record : ∀ {k r}, d.engagements.get? k = some r → ∃ r', d'.engagements.get? k = some r' ∧ Grows r r'

theorem Remembers.trans {d₁ d₂ d₃ : AuthorityDocument} (h₁ : Remembers d₁ d₂) (h₂ : Remembers d₂ d₃) :
    Remembers d₁ d₃ := by
  refine ⟨fun hr => ?_, fun hk => ?_⟩
  · rcases h₁.hold hr with hr | ⟨live, hr⟩
    · exact h₂.hold hr
    · -- A released hold is not released again.
      exact .inr ⟨live, (h₂.hold hr).resolve_right fun h => by cases h.1⟩
  · obtain ⟨r₂, hk, hg⟩ := h₁.record hk
    obtain ⟨r₃, hk, hg'⟩ := h₂.record hk
    exact ⟨r₃, hk, hg.trans hg'⟩

theorem Writes.remembers (hwf : WF P d) (hw : Writes P h d c d') : Remembers d d' := by
  refine ⟨(hw.portfolio hwf).held, fun hk => ?_⟩
  have hm := hw.engagements hwf
  obtain ⟨r', hk'⟩ := hm.persists hk
  refine ⟨r', hk', ?_⟩
  rcases hm.recordFrom hk hk' with rfl | ⟨_, _, rfl⟩ | updates
  · exact .refl _
  · exact { Grows.refl _ with ambiguous := fun _ => rfl }
  · exact updates.grows hk

theorem Expiry.remembers {now : Time} (hwf : WF P d) (he : Expiry now d d') : Remembers d d' := by
  obtain ⟨-, _, _, -, -, lapse⟩ := he
  refine ⟨(lapse.portfolio hwf).held, fun {k r} hk => ?_⟩
  rcases lapse.follows hwf hk with hk' | ⟨hk', first, -⟩
  · exact ⟨r, hk', .refl r⟩
  · exact ⟨_, hk', { Grows.refl r with tombstone := fun t ht => by rw [first] at ht; cases ht }⟩

/-- Over every run, whatever calls, messages, clocks and restarts it is made of, no hold is dropped, changed but
by its one release, or reserved again under other terms, and no engagement is dropped or loses a signature. -/
theorem authority_never_forgets (ownerID agentID authorityID : String) (limits : PortfolioLimits)
    (pre post : List Event) :
    Remembers (exec (step P) (PersonalAuthority.fresh ownerID agentID authorityID limits) pre).doc
      (exec (step P) (PersonalAuthority.fresh ownerID agentID authorityID limits) (pre ++ post)).doc := by
  rw [exec_append]
  exact run_related (R := Remembers) (fun _ => ⟨.inl, fun hk => ⟨_, hk, .refl _⟩⟩) Remembers.trans
    (fun hwf he => he.remembers hwf) (fun hwf hw => hw.remembers hwf) (reachable_wf ⟨_, _, _, _, pre, rfl⟩) post

end OpenFox.Authority
