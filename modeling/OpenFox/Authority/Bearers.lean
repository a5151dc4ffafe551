/-
Custody bearers over whole runs. A hold carries at most one bearer, ever, and a bearer leaves the
issued ledger only after its frozen horizon. Its hold stays live until then, unless a sponsored
action is rejected whose hold carries the bearer of an Agreement.
-/
import OpenFox.Authority.Sample
import OpenFox.Authority.WellFormed

namespace OpenFox.Authority

open OpenFox.Go OpenFox.Commerce OpenFox.Base

variable {P : Protocol} {h : Host} {d d' : AuthorityDocument} {c : Call}

/-! ## Holds -/

def Live (d : AuthorityDocument) (id : String) : Prop :=
  ∃ r, d.reservations.get? id = some r ∧ r.released = false

variable {k id : String} {issued i : IssuedCustodyPayment} {nowUnix : UInt64} {a : PersonalAuthority}
  {r : ExposureReservation}

theorem Live.not_released (hl : Live d id) (hr : d.reservations.get? id = some r) : r.released = false := by
  obtain ⟨r', hr', hlive⟩ := hl
  rw [hr] at hr'
  cases hr'
  exact hlive

def Over (d : AuthorityDocument) (id : String) : Prop :=
  ∃ r, d.reservations.get? id = some r ∧ r.released = true

theorem Live.not_over (hl : Live d id) : ¬ Over d id := by
  rintro ⟨r, hr, hover⟩
  rw [hl.not_released hr] at hover
  cases hover

theorem admitReservation_same {order : RangeOrder} {existing : ExposureReservation}
    (ha : admitReservation P order d r = .ok ()) (he : d.reservations.get? r.reservationID = some existing) :
    existing = r := by
  simp only [admitReservation, bind_ok, exists_unit, he] at ha
  obtain ⟨-, _, -, ha⟩ := ha
  rwa [refuse_ok, not_not] at ha

theorem PortfolioMove.held (hm : PortfolioMove P d d') (hr : d.reservations.get? id = some r) :
    d'.reservations.get? id = some r ∨
    r.released = false ∧ d'.reservations.get? id = some { r with released := true } := by
  cases hm with
  | keep reservations => exact .inl (by rw [reservations]; exact hr)
  | hold fits reservations =>
    rw [reservations, Map.get?_put]
    split
    · rename_i hid
      subst hid
      exact .inl (by rw [admitReservation_same fits hr])
    · exact .inl hr
  | free found live reservations | dispose found live _ _ reservations =>
    rw [reservations, Map.get?_put]
    split
    · rename_i hid
      rw [← hid, hr] at found
      cases found
      exact .inr ⟨live, rfl⟩
    · exact .inl hr

theorem PortfolioMove.released (hm : PortfolioMove P d d')
    (hr : d.reservations.get? id = some r) (hover : r.released = true) : d'.reservations.get? id = some r :=
  (hm.held hr).resolve_right fun h => by rw [hover] at h; cases h.1

theorem PortfolioMove.over (hm : PortfolioMove P d d') (ho : Over d id) : Over d' id := by
  obtain ⟨r, hr, hover⟩ := ho
  exact ⟨r, hm.released hr hover, hover⟩

theorem Lapses.over (hwf : WF P d) (hl : Lapses nowUnix k issued d d') : Over d' issued.reservationID := by
  cases hl with
  | sponsorship _ hold | agreement _ hold => exact ⟨_, by rw [← (hwf.reservation hold).1]; exact Map.get?_put_self, rfl⟩

theorem live_put (hr : id = k → r.released = false) (hl : Live d id) (hd : d'.reservations = d.reservations.put k r) :
    Live d' id := by
  unfold Live
  rw [hd, Map.get?_put]
  split
  · rename_i hid
    exact ⟨r, rfl, hr hid⟩
  · exact hl

/-- The calls that release a hold, with what they checked about it. -/
inductive Frees (h : Host) (d : AuthorityDocument) : Call → String → Prop
  | reject {id digest sink evidence admission} (guarded : sponsorshipTransitionGuard h d id .rejected = .ok ())
    (sponsored : sponsorshipOf h 6 d id = some admission) :
    Frees h d (.transition id digest .rejected sink evidence) admission.reservation.reservationID
  | release {action fields request fence realized retained id reservation}
    (found : d.reservations.get? id = some reservation)
    (unissued : ∀ k i, d.issuedCustodyPayments.get? k = some i → i.reservationID ≠ id)
    (finished : releasableEngagement d reservation.agreementDigest = .ok ()) :
    Frees h d (.releaseReservation action fields request fence realized retained) id
  | cancel {digest id fence record} (found : d.engagements.get? digest = some record)
    (holder : record.reservationID = id)
    (unissued : ∀ k i, d.issuedCustodyPayments.get? k = some i → i.reservationID ≠ id)
    (unsigned : record.agreement.authorizationEvidence.any
      (fun e => evidenceSenderMatches e.authoritySubject d.agentID) = false) :
    Frees h d (.cancelUnsignedReservation digest id fence) id

theorem unissued_of_any (hu : d.issuedCustodyPayments.any (fun _ issued => issued.reservationID == id) = false)
    (hk : d.issuedCustodyPayments.get? k = some i) : i.reservationID ≠ id := by
  intro hid
  rw [Map.any_iff.2 ⟨k, i, hk, by rw [beq_iff_eq]; exact hid⟩] at hu
  cases hu

theorem Writes.frees (hwf : WF P d) (hw : Writes P h d c d') (hl : Live d id) : Live d' id ∨ Frees h d c id := by
  have hput : ∀ {k r}, d'.reservations = d.reservations.put k r → (id = k → r.released = false) → Live d' id :=
    fun hd hr => live_put hr hl hd
  have hsame : d'.reservations = d.reservations → Live d' id := fun hd => by rwa [Live, hd]
  cases hw with
  | admitHold _ _ fits | sponsor _ _ _ _ fits | reserve _ _ _ _ _ _ _ _ fits =>
    exact .inl (hput rfl fun _ => (admitReservation_id fits).2.2)
  | @reject _ _ _ _ _ admission reservation _ _ _ _ guarded sponsored hold _ =>
    by_cases hid : id = admission.reservation.reservationID
    · subst hid; exact .inr (.reject guarded sponsored)
    · exact .inl (hput rfl fun he => absurd (he.trans (hwf.reservation hold).1) hid)
  | @cancelUnsigned _ reservationID _ _ _ found hold holder _ _ unsigned unissued _ =>
    by_cases hid : id = reservationID
    · subst hid; exact .inr (.cancel found holder (fun _ _ => unissued_of_any unissued) unsigned)
    · exact .inl (hput rfl fun he => absurd he hid)
  | @releaseReservation _ _ _ _ realized retained _ release existing bucket _ _ _ _ _ hold _ _ unissued
    finished _ _ _ =>
    by_cases hid : id = release.reservationID
    · subst hid
      rw [(hwf.reservation hold).1] at unissued
      exact .inr (.release hold (fun _ _ => unissued_of_any unissued) finished)
    · refine .inl (hput (r := { existing with released := true }) ?_ fun he => absurd he hid)
      exact disposeLoss_proj (·.reservations)
  | pay => exact .inl (hsame (storeRecord_proj (·.reservations)))
  | settle _ _ _ _ _ _ _ only =>
    subst only
    exact .inl (hsame (storeRecord_proj (·.reservations)))
  | _ => exact .inl hl

/-! ## Sponsored actions -/

/-- An admission sits under its own ID, its action is recorded, and no other admission has it. -/
structure Registered (d : AuthorityDocument) : Prop where
  keyed : ∀ {k admission}, d.relaySponsorshipPayments.get? k = some admission → admission.admissionID = k
  recorded : ∀ {k admission}, d.relaySponsorshipPayments.get? k = some admission →
    d.actions.has admission.payment.stableActionID = true
  single : ∀ {k k' admission admission'}, d.relaySponsorshipPayments.get? k = some admission →
    d.relaySponsorshipPayments.get? k' = some admission' →
    admission.payment.stableActionID = admission'.payment.stableActionID → k = k'

/-- An admission through the lapse of a bearer: untouched, or the bearer's own, with a tombstone. -/
theorem Lapses.admission (hl : Lapses nowUnix k issued d d') {key : String}
    {admission' : RelaySponsorshipPaymentAdmission} (hk : d'.relaySponsorshipPayments.get? key = some admission') :
    d.relaySponsorshipPayments.get? key = some admission' ∨
      ∃ admission, d.relaySponsorshipPayments.get? key = some admission ∧ issued.sponsorshipAdmissionID = key ∧
        admission.reservation.reservationID = issued.reservationID ∧
          admission' = lapsedAdmission admission nowUnix issued := by
  cases hl with
  | agreement => exact .inl hk
  | sponsorship _ _ _ found own _ =>
    obtain ⟨rfl, rfl⟩ | hk := Map.put_cases hk
    · exact .inr ⟨_, found, rfl, own, rfl⟩
    · exact .inl hk

theorem Registered.of_admissions (hr : Registered d) (hactions : d'.actions = d.actions)
    (hback : ∀ {k admission'}, d'.relaySponsorshipPayments.get? k = some admission' →
      ∃ admission, d.relaySponsorshipPayments.get? k = some admission ∧
        admission'.admissionID = admission.admissionID ∧ admission'.payment = admission.payment) : Registered d' := by
  refine ⟨fun hk => ?_, fun hk => ?_, fun hk hk' hid => ?_⟩
  · obtain ⟨admission, hold, hkey, -⟩ := hback hk
    rw [hkey]; exact hr.keyed hold
  · obtain ⟨admission, hold, -, hpay⟩ := hback hk
    rw [hactions, hpay]; exact hr.recorded hold
  · obtain ⟨_, hold, -, hpay⟩ := hback hk
    obtain ⟨_, hold', -, hpay'⟩ := hback hk'
    rw [hpay, hpay'] at hid
    exact hr.single hold hold' hid

theorem Lapses.registered (hl : Lapses nowUnix k issued d d') (hr : Registered d) : Registered d' := by
  refine hr.of_admissions hl.actions fun hk => ?_
  rcases hl.admission hk with hold | ⟨admission, hold, -, -, rfl⟩
  · exact ⟨_, hold, rfl, rfl⟩
  · exact ⟨admission, hold, rfl, rfl⟩

theorem Writes.registered (hw : Writes P h d c d') (hr : Registered d) : Registered d' := by
  have hkeep : ∀ {id}, d.actions.has id = true → d'.actions.has id = true := fun hid => hw.actions.persists hid
  cases hw.admissions with
  | keep admissions =>
    refine ⟨fun hk => hr.keyed (admissions ▸ hk), fun hk => hkeep (hr.recorded (admissions ▸ hk)), fun hk hk' => ?_⟩
    rw [admissions] at hk hk'
    exact hr.single hk hk'
  | @sponsor action new computed absent recorded admissions =>
    -- The new admission's action was not recorded, so no admission had it.
    have hfresh : ∀ {k admission}, d.relaySponsorshipPayments.get? k = some admission →
        admission.payment.stableActionID ≠ new.payment.stableActionID := by
      intro k admission hk hid
      have hrec := hr.recorded hk
      rw [hid, computed.own, Map.has, absent] at hrec
      cases hrec
    refine ⟨fun hk => ?_, fun hk => ?_, fun hk hk' hid => ?_⟩
    · exact Map.forall_put hr.keyed rfl (admissions ▸ hk)
    · obtain ⟨-, rfl⟩ | hk := Map.put_cases (admissions ▸ hk)
      · rw [computed.own]; exact recorded
      · exact hkeep (hr.recorded hk)
    · obtain ⟨hkey, rfl⟩ | hk := Map.put_cases (admissions ▸ hk) <;> obtain ⟨hkey', rfl⟩ | hk' :=
        Map.put_cases (admissions ▸ hk')
      · rw [hkey, hkey']
      · exact absurd hid.symm (hfresh hk')
      · exact absurd hid (hfresh hk)
      · exact hr.single hk hk' hid

theorem fresh_registered (ownerID agentID authorityID : String) (limits : PortfolioLimits) :
    Registered (AuthorityDocument.fresh ownerID agentID authorityID limits) :=
  ⟨Map.of_empty, Map.of_empty, Map.of_empty⟩

variable {admission : RelaySponsorshipPaymentAdmission} {es : List Event} {site : Nat}

theorem sponsorshipOf_some (hs : sponsorshipOf h site d id = some admission) :
    ∃ k, d.relaySponsorshipPayments.get? k = some admission ∧ admission.payment.stableActionID = id := by
  simp only [sponsorshipOf, Option.map_eq_some_iff] at hs
  obtain ⟨⟨k, a⟩, hfind, rfl⟩ := hs
  exact ⟨k, Map.mem_range.1 (List.mem_of_find?_eq_some hfind), by simpa using List.find?_some hfind⟩

theorem sponsorshipOf_isSome (site : Nat)
    (hk : d.relaySponsorshipPayments.get? k = some admission) (hid : admission.payment.stableActionID = id) :
    ∃ admission', sponsorshipOf h site d id = some admission' := by
  have hsome : ((d.relaySponsorshipPayments.range h.range site).find?
      fun e => e.2.payment.stableActionID == id).isSome = true := by
    rw [List.find?_isSome]
    exact ⟨⟨k, admission⟩, Map.mem_range.2 hk, by simpa using hid⟩
  obtain ⟨e, he⟩ := Option.isSome_iff_exists.1 hsome
  exact ⟨e.2, by rw [sponsorshipOf, he]; rfl⟩

theorem Registered.sponsorshipOf (hr : Registered d) (hs : sponsorshipOf h site d id = some admission) (site' : Nat) :
    sponsorshipOf h site' d id = some admission := by
  obtain ⟨k, hk, hid⟩ := sponsorshipOf_some hs
  obtain ⟨admission', hs'⟩ := sponsorshipOf_isSome site' hk hid
  obtain ⟨k', hk', hid'⟩ := sponsorshipOf_some hs'
  rw [hr.single hk hk' (hid.trans hid'.symm), hk'] at hk
  cases hk
  exact hs'

/-! ## The issued ledger -/

/-- A bearer sits under the digest of its payment, no two draw on one hold, and its grace period is
the owner's. -/
structure Bearing (P : Protocol) (d : AuthorityDocument) : Prop where
  keyed : ∀ {k i}, d.issuedCustodyPayments.get? k = some i → P.paymentRequestDigest i.payment = .ok k
  single : ∀ {k k' i i'}, d.issuedCustodyPayments.get? k = some i → d.issuedCustodyPayments.get? k' = some i' →
    i.reservationID = i'.reservationID → k = k'
  grace : ∀ {k i}, d.issuedCustodyPayments.get? k = some i →
    i.finalityGraceSeconds = d.limits.custodyFinalityGraceSeconds

theorem Lapses.bearer (hl : Lapses nowUnix k issued d d') {key : String}
    (hk : d'.issuedCustodyPayments.get? key = some i) : key ≠ k ∧ d.issuedCustodyPayments.get? key = some i := by
  rw [hl.issued, Map.get?_delete] at hk
  split at hk
  · cases hk
  · rename_i hne
    exact ⟨hne, hk⟩

theorem Lapses.bearing (hwf : WF P d) (hl : Lapses nowUnix k issued d d') (hb : Bearing P d) : Bearing P d' := by
  refine ⟨fun hk => hb.keyed (hl.bearer hk).2, fun hk hk' => hb.single (hl.bearer hk).2 (hl.bearer hk').2, fun hk => ?_⟩
  rw [(hl.portfolio hwf).limits]
  exact hb.grace (hl.bearer hk).2

theorem Writes.bearing (hwf : WF P d) (hw : Writes P h d c d') (hb : Bearing P d) : Bearing P d' := by
  have hlimits := (hw.portfolio hwf).limits
  cases hw.bearers with
  | keep issued =>
    refine ⟨fun hk => hb.keyed (issued ▸ hk), fun hk hk' => ?_, fun hk => ?_⟩
    · rw [issued] at hk hk'
      exact hb.single hk hk'
    · rw [hlimits]; exact hb.grace (issued ▸ hk)
  | @issue _ _ reservationID digest bearer bound _ absent exclusive _ _ built only =>
    have hput := congrArg AuthorityDocument.issuedCustodyPayments only
    refine ⟨fun hk => ?_, fun hk hk' hid => ?_, fun hk => ?_⟩
    · exact Map.forall_put hb.keyed (by rw [built.payment]; exact bound) (hput ▸ hk)
    · obtain ⟨hkey, rfl⟩ | hk := Map.put_cases (hput ▸ hk) <;> obtain ⟨hkey', rfl⟩ | hk' := Map.put_cases (hput ▸ hk')
      · rw [hkey, hkey']
      · exact absurd (hid.symm.trans built.reservation) (exclusive _ _ hk')
      · exact absurd (hid.trans built.reservation) (exclusive _ _ hk)
      · exact hb.single hk hk' hid
    · rw [hlimits]
      exact Map.forall_put hb.grace built.grace (hput ▸ hk)

theorem fresh_bearing (ownerID agentID authorityID : String) (limits : PortfolioLimits) :
    Bearing P (AuthorityDocument.fresh ownerID agentID authorityID limits) :=
  ⟨Map.of_empty, Map.of_empty, Map.of_empty⟩

/-! ## What a step keeps -/

/-- From one document to a later one: a released hold stays as it is, and a bearer stays as it is
until its hold is released. -/
structure Onward (d d' : AuthorityDocument) : Prop where
  released : ∀ {id r}, d.reservations.get? id = some r → r.released = true → d'.reservations.get? id = some r
  bearer : ∀ {k i}, d.issuedCustodyPayments.get? k = some i →
    d'.issuedCustodyPayments.get? k = some i ∨ Over d' i.reservationID

theorem Onward.refl (d : AuthorityDocument) : Onward d d := ⟨fun hr _ => hr, fun hk => .inl hk⟩

theorem Onward.trans {a b c : AuthorityDocument} (hab : Onward a b) (hbc : Onward b c) : Onward a c := by
  refine ⟨fun hr hover => hbc.released (hab.released hr hover) hover, fun hk => ?_⟩
  rcases hab.bearer hk with hk | ⟨r, hr, hover⟩
  · exact hbc.bearer hk
  · exact .inr ⟨r, hbc.released hr hover, hover⟩

theorem Lapses.onward (hwf : WF P d) (hk : d.issuedCustodyPayments.get? k = some issued)
    (hl : Lapses nowUnix k issued d d') : Onward d d' := by
  refine ⟨fun hr hover => (hl.portfolio hwf).released hr hover, fun {key i} hkey => ?_⟩
  by_cases hne : key = k
  · subst hne
    rw [hk] at hkey
    cases hkey
    exact .inr (hl.over hwf)
  · left
    rw [hl.issued, Map.get?_delete, if_neg hne]
    exact hkey

theorem BearerMove.persists (hm : BearerMove P d d')
    (hk : d.issuedCustodyPayments.get? k = some i) : d'.issuedCustodyPayments.get? k = some i := by
  cases hm with
  | keep issued => rw [issued]; exact hk
  | issue _ _ absent _ _ _ _ only =>
    rw [only]
    exact Map.get?_put_absent absent hk

theorem Writes.onward (hwf : WF P d) (hw : Writes P h d c d') : Onward d d' :=
  ⟨fun hr hover => (hw.portfolio hwf).released hr hover, fun hk => .inl (hw.bearers.persists hk)⟩

theorem step_bearer (hwf : WF P a.doc) (e : Event) (hk : a.doc.issuedCustodyPayments.get? k = some i) :
    (step P a e).doc.issuedCustodyPayments.get? k = some i ∨ 0 ≤ (e.host.clock 0).unix ∧
      i.Due (e.host.clock 0).unixU64 := by
  by_cases hdue : 0 ≤ (e.host.clock 0).unix ∧ i.Due (e.host.clock 0).unixU64
  · exact .inr hdue
  · refine .inl (step_keeps hwf hk ?_
      fun _ _ _ hI hw => hw.bearers.persists hI)
    rintro d d' - hI ⟨hnow, key, issued, hkey, hd, lapse⟩
    rw [lapse.issued, Map.get?_delete, if_neg]
    · exact hI
    · rintro rfl
      rw [hI] at hkey
      cases hkey
      exact hdue ⟨hnow, hd⟩

/-! ## Live holds under bearers -/

/-- The hold of a sponsored action carries a bearer that was not issued for the sponsorship. -/
def foreignBearer (d : AuthorityDocument) (stableActionID : String) : Bool :=
  d.relaySponsorshipPayments.any fun _ admission => admission.payment.stableActionID == stableActionID &&
    d.issuedCustodyPayments.any fun _ issued => issued.reservationID == admission.reservation.reservationID &&
      issued.sponsorshipAdmissionID != admission.admissionID

/-- The call rejects no sponsored action under a foreign bearer. -/
def sparesBearers (d : AuthorityDocument) : Call → Bool
  | .transition id _ .rejected _ _ => !foreignBearer d id
  | _ => true

def Backed (d : AuthorityDocument) : Prop :=
  ∀ {k i}, d.issuedCustodyPayments.get? k = some i → Live d i.reservationID

/-- No call releases the hold of a bearer, if it rejects nothing under a foreign one. -/
theorem Frees.unissued (hr : Registered d) (hf : Frees h d c id) (hg : sparesBearers d c = true)
    (hk : d.issuedCustodyPayments.get? k = some i) : i.reservationID ≠ id := by
  cases hf with
  | release _ unissued | cancel _ _ unissued => exact unissued k i hk
  | @reject id _ _ _ admission guarded sponsored =>
    intro hid
    obtain ⟨key, hkey, hact⟩ := sponsorshipOf_some sponsored
    by_cases hown : i.sponsorshipAdmissionID = admission.admissionID
    · -- A bearer of the sponsorship itself: the transition refuses.
      simp only [sponsorshipTransitionGuard, hr.sponsorshipOf sponsored 5, peel] at guarded
      exact guarded.2 ⟨trivial, Map.any_iff.2 ⟨k, i, hk, by rw [beq_iff_eq]; exact hown⟩⟩
    · have hforeign : foreignBearer d id = true :=
        Map.any_iff.2 ⟨key, admission, hkey, by
          rw [Bool.and_eq_true, beq_iff_eq, Map.any_iff]
          exact ⟨hact, k, i, hk, by simp [hid, hown]⟩⟩
      simp [sparesBearers, hforeign] at hg

theorem Lapses.backed (hwf : WF P d)
    (hb : Bearing P d) (hk : d.issuedCustodyPayments.get? k = some issued) (hl : Lapses nowUnix k issued d d')
    (hI : Backed d) : Backed d' := by
  intro key i hkey
  obtain ⟨hne, hkept⟩ := hl.bearer hkey
  have hlive := hI hkept
  have hother : i.reservationID ≠ issued.reservationID := fun hid => hne (hb.single hkept hk hid)
  cases hl with
  | sponsorship _ hold | agreement _ hold =>
    exact live_put (fun he => absurd (he.trans (hwf.reservation hold).1) hother) hlive rfl

theorem Writes.backed (hwf : WF P d) (hr : Registered d) (hw : Writes P h d c d') (hg : sparesBearers d c = true)
    (hI : Backed d) : Backed d' := by
  intro k i hk
  have hstay : d.issuedCustodyPayments.get? k = some i → Live d' i.reservationID := fun hold =>
    (hw.frees hwf (hI hold)).resolve_right fun hf => hf.unissued hr hg hold rfl
  cases hw.bearers with
  | keep issued => exact hstay (issued ▸ hk)
  | issue _ _ _ _ live _ built only =>
    rw [only] at hk
    obtain ⟨-, rfl⟩ | hk := Map.put_cases hk
    · rw [built.reservation, only]; exact live
    · exact hstay hk

/-- What holds of the custody ledgers throughout a run that spares bearers. -/
structure Sound (P : Protocol) (d : AuthorityDocument) : Prop where
  registered : Registered d
  bearing : Bearing P d
  backed : Backed d

theorem fresh_sound (ownerID agentID authorityID : String) (limits : PortfolioLimits) :
    Sound P (AuthorityDocument.fresh ownerID agentID authorityID limits) :=
  ⟨fresh_registered _ _ _ _, fresh_bearing _ _ _ _, Map.of_empty⟩

theorem step_sound {e : Event} (hwf : WF P a.doc) (hs : Sound P a.doc) (hg : Obeys P sparesBearers a e = true) :
    Sound P (step P a e).doc := by
  refine step_keeps hwf hs ?_ ?_
  · rintro d d' hd hI ⟨-, k, issued, hk, -, lapse⟩
    exact ⟨lapse.registered hI.registered, lapse.bearing hd hI.bearing, lapse.backed hd hI.bearing hk hI.backed⟩
  · intro c d hc hidle hd hI hw
    have hspares : sparesBearers d c = true := Obeys.carry hg hc hidle fun hx => by cases c <;> first | rfl | cases hx
    exact ⟨hw.registered hI.registered, hw.bearing hd hI.bearing, hw.backed hd hI.registered hspares hI.backed⟩

/-! ## Runs -/

theorem run_sound {ownerID agentID authorityID : String} {limits : PortfolioLimits}
    (spared : Along (step P) (fun a e => Obeys P sparesBearers a e = true)
    (PersonalAuthority.fresh ownerID agentID authorityID limits) es) :
    let d := (exec (step P) (PersonalAuthority.fresh ownerID agentID authorityID limits) es).doc
    (WF P d ∧ d.limits = limits) ∧ Sound P d :=
  invariant_along (I := fun a => (WF P a.doc ∧ a.doc.limits = limits) ∧ Sound P a.doc)
    (fun a e hI hg => ⟨⟨step_wf a e hI.1.1, (step_limits hI.1.1 e).trans hI.1.2⟩, step_sound hI.1.1 hI.2 hg⟩)
    ⟨⟨fresh_wf _ _ _ _, rfl⟩, fresh_sound _ _ _ _⟩ spared

theorem run_onward {a' : PersonalAuthority} (hwf : WF P a.doc) (ha : a' = exec (step P) a es) :
    Onward a.doc a'.doc := by
  subst ha
  exact run_related Onward.refl Onward.trans (fun hd ⟨_, _, _, hk, _, lapse⟩ => lapse.onward hd hk)
    (fun hd hw => hw.onward hd) hwf es

/-- Without a grace period a bearer is never dropped. -/
theorem run_ungraced (hwf : WF P a.doc) (hb : Bearing P a.doc) (hgrace : a.doc.limits.custodyFinalityGraceSeconds = 0)
    (hk : a.doc.issuedCustodyPayments.get? k = some i) (es : List Event) :
    (exec (step P) a es).doc.issuedCustodyPayments.get? k = some i := by
  have hzero := (hb.grace hk).trans hgrace
  refine (invariant (I := fun a : PersonalAuthority => WF P a.doc ∧ a.doc.issuedCustodyPayments.get? k = some i)
    (fun a e hI => ?_) es ⟨hwf, hk⟩).2
  exact ⟨step_wf a e hI.1, (step_bearer hI.1 e hI.2).resolve_right fun hdue => hdue.2.1.1 hzero⟩

/-- In every run that rejects no sponsored action under a foreign bearer: a hold carries one bearer
at most, ever; the hold of an issued bearer is live; a bearer leaves the ledger only in a step that
finds its frozen horizon passed, and never if the owner grants no grace period; and a released hold
never changes and never carries a bearer again. -/
theorem bearer_exclusive {ownerID agentID authorityID : String} {limits : PortfolioLimits} {pre post : List Event}
    (spared : Along (step P) (fun a e => Obeys P sparesBearers a e = true)
      (PersonalAuthority.fresh ownerID agentID authorityID limits) (pre ++ post)) :
    let a := exec (step P) (PersonalAuthority.fresh ownerID agentID authorityID limits) pre
    let a' := exec (step P) (PersonalAuthority.fresh ownerID agentID authorityID limits) (pre ++ post)
    (∀ k i k' i', a.doc.issuedCustodyPayments.get? k = some i → a'.doc.issuedCustodyPayments.get? k' = some i' →
      i.reservationID = i'.reservationID → k = k' ∧ i = i') ∧
    (∀ k i, a.doc.issuedCustodyPayments.get? k = some i →
      P.paymentRequestDigest i.payment = .ok k ∧ Live a.doc i.reservationID) ∧
    (∀ e k i, a.doc.issuedCustodyPayments.get? k = some i →
      (step P a e).doc.issuedCustodyPayments.get? k = some i ∨
        i.Frozen ∧ (i.releaseAfterUnix.toNat : Int) ≤ (e.host.clock 0).unix) ∧
    (limits.custodyFinalityGraceSeconds = 0 → ∀ k i, a.doc.issuedCustodyPayments.get? k = some i →
      a'.doc.issuedCustodyPayments.get? k = some i) ∧
    ∀ id r, a.doc.reservations.get? id = some r → r.released = true →
      a'.doc.reservations.get? id = some r ∧
        ∀ k i, a'.doc.issuedCustodyPayments.get? k = some i → i.reservationID ≠ id := by
  intro a a'
  obtain ⟨hpre, hpost⟩ := along_append.1 spared
  obtain ⟨⟨hwf, hl⟩, hs⟩ := run_sound hpre
  have hs' : Sound P a'.doc := (run_sound spared).2
  have honward : Onward a.doc a'.doc := run_onward hwf (exec_append ..)
  refine ⟨fun k i k' i' hk hk' hid => ?_, fun k i hk => ⟨hs.bearing.keyed hk, hs.backed hk⟩, fun e k i hk => ?_,
    fun hgrace k i hk => ?_, fun id r hr hover => ⟨honward.released hr hover, fun k i hk hid => ?_⟩⟩
  · rcases honward.bearer hk with hk | hover
    · obtain rfl := hs'.bearing.single hk hk' hid
      exact ⟨rfl, Option.some.inj (hk.symm.trans hk')⟩
    · -- The hold of the first bearer was released, and that of the second is live.
      exact absurd (hid ▸ hover) (hs'.backed hk').not_over
  · refine (step_bearer hwf e hk).imp id fun ⟨hnow, hdue⟩ => ⟨hdue.1, ?_⟩
    exact le_trans (Int.ofNat_le.2 (UInt64.le_iff_toNat_le.1 hdue.2)) (Time.unixU64_le hnow)
  · have hgrace' : a.doc.limits.custodyFinalityGraceSeconds = 0 := by rw [hl]; exact hgrace
    show (exec (step P) _ (pre ++ post)).doc.issuedCustodyPayments.get? k = some i
    rw [exec_append]
    exact run_ungraced hwf hs.bearing hgrace' hk post
  · subst hid
    exact (hs'.backed hk).not_over ⟨r, honward.released hr hover, hover⟩

open Sample in
/-- A sponsored relay whose hold also backs its Agreement: an issued bearer on that hold, and a later
step, satisfy the condition. -/
theorem issued_run_exclusive :
    let spared := fun (a : PersonalAuthority) (e : Event) => Obeys protocol sparesBearers a e = true
    let a := exec (step protocol) Sample.authority issuedRun
    Along (step protocol) spared Sample.authority (issuedRun ++ [call 200 .snapshot]) ∧
      a.doc.issuedCustodyPayments.has paymentDigest = true ∧
      ∀ k i, a.doc.issuedCustodyPayments.get? k = some i →
        protocol.paymentRequestDigest i.payment = .ok k ∧ Live a.doc i.reservationID :=
  have spared : Along (step protocol) (fun a e => Obeys protocol sparesBearers a e = true)
      (PersonalAuthority.fresh "owner" "alice" "authority" limits)
      (issuedRun ++ [call 200 .snapshot]) := by decide +kernel
  ⟨spared, by decide +kernel, (bearer_exclusive spared).2.1⟩

open Sample in
/-- Rejecting the sponsored action releases the hold under the Agreement's bearer, which stays issued. -/
theorem rejection_frees_issued_hold :
    let d := (exec (step protocol) authority
      (issuedRun ++ [call 108 (.transition "pay" "pay" .rejected "" [])])).doc
    ((d.issuedCustodyPayments.get? paymentDigest).bind fun i => d.reservations.get? i.reservationID).map
      (·.released) = some true := by
  decide +kernel

end OpenFox.Authority
