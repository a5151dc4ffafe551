/-
When the expiry of custody bearers succeeds. On reachable documents every check of the expiry loop
but two holds by invariant: a due bearer still has its admission or its engagement, no tombstone
precedes it, and its horizon is the one that was frozen. What can go wrong is the hold itself and
the lifecycle state of the engagement.
-/
import OpenFox.Authority.Bearers
import OpenFox.Authority.States

namespace OpenFox.Authority

open OpenFox.Go OpenFox.Commerce OpenFox.Base

variable {P : Protocol} {h : Host} {d d' : AuthorityDocument} {c : Call}

/-! ## Links of a bearer -/

/-- `codec.Digest` gives sponsored actions different admission IDs. -/
def DistinctAdmissions (P : Protocol) : Prop :=
  ∀ {action action' : AuthorizedAction} {p q r p' q' r' id : String},
    relaySponsorshipPaymentAdmissionID P action p q r = .ok id →
    relaySponsorshipPaymentAdmissionID P action' p' q' r' = .ok id → action.stableActionID = action'.stableActionID

/-- A bearer has the admission or the engagement it draws on, with its reservation, and its horizon
is still the one computed from them. -/
structure Link (P : Protocol) (d : AuthorityDocument) (i : IssuedCustodyPayment) : Prop where
  sponsored : i.sponsorshipAdmissionID ≠ "" →
    ∃ admission, d.relaySponsorshipPayments.get? i.sponsorshipAdmissionID = some admission ∧
      admission.reservation.reservationID = i.reservationID
  direct : i.sponsorshipAdmissionID = "" →
    ∃ r, d.engagements.get? i.payment.agreementBodyDigest = some r ∧ r.reservationID = i.reservationID ∧
      r.reservationID ≠ ""
  horizon : custodyAuthorizationReleaseAfter P d i = .ok i.releaseAfterUnix

structure Linked (P : Protocol) (d : AuthorityDocument) : Prop where
  unreserved : ∀ {k r}, d.engagements.get? k = some r → Unreserved r
  bound : ∀ {k admission}, d.relaySponsorshipPayments.get? k = some admission →
    ∃ (action : AuthorizedAction) (p q r : String), relaySponsorshipPaymentAdmissionID P action p q r = .ok k ∧
      action.stableActionID = admission.payment.stableActionID
  bearer : ∀ {k i}, d.issuedCustodyPayments.get? k = some i → Link P d i

/-- What `d'` still has of `d`: every admission with its reservation, every holder with its hold. -/
structure Carries (d d' : AuthorityDocument) : Prop where
  agent : d'.agentID = d.agentID
  admission : ∀ {k admission}, d.relaySponsorshipPayments.get? k = some admission →
    ∃ admission', d'.relaySponsorshipPayments.get? k = some admission' ∧
      admission'.reservation = admission.reservation
  holder : ∀ {k r}, d.engagements.get? k = some r → r.reservationID ≠ "" →
    ∃ r', d'.engagements.get? k = some r' ∧ r'.reservationID = r.reservationID ∧ r'.body = r.body ∧
      r'.agreementDigest = r.agreementDigest

variable {i issued : IssuedCustodyPayment} {k : String} {rest : List ((_ : String) × IssuedCustodyPayment)}
  {e : (_ : String) × IssuedCustodyPayment} {nowUnix : UInt64}

theorem releaseAfter_congr (hagent : d'.agentID = d.agentID) (hdirect : i.sponsorshipAdmissionID = "" → ∃ r r',
      d.engagements.get? i.payment.agreementBodyDigest = some r ∧
      d'.engagements.get? i.payment.agreementBodyDigest = some r' ∧ r'.reservationID = r.reservationID ∧
      r'.body = r.body ∧ r'.agreementDigest = r.agreementDigest) :
    custodyAuthorizationReleaseAfter P d' i = custodyAuthorizationReleaseAfter P d i := by
  have hhorizon : custodyHorizon P d' i = custodyHorizon P d i := by
    unfold custodyHorizon
    by_cases hs : i.sponsorshipAdmissionID = ""
    · obtain ⟨r, r', hr, hr', hres, hbody, hdigest⟩ := hdirect hs
      have hexact : exactRetainedAgreementBody P r' = exactRetainedAgreementBody P r := by
        unfold exactRetainedAgreementBody
        rw [hbody, hdigest]
      rw [hr, hr']
      dsimp only
      rw [hexact, hres, hbody, hagent]
    · rw [if_pos hs, if_pos hs]
  unfold custodyAuthorizationReleaseAfter
  rw [hhorizon]

theorem Link.carry (hl : Link P d i) (hc : Carries d d') : Link P d' i := by
  refine ⟨fun hs => ?_, fun hs => ?_, ?_⟩
  · obtain ⟨admission, hk, hown⟩ := hl.sponsored hs
    obtain ⟨admission', hk', hres⟩ := hc.admission hk
    exact ⟨admission', hk', by rw [hres]; exact hown⟩
  · obtain ⟨r, hk, hown, hne⟩ := hl.direct hs
    obtain ⟨r', hk', hres, -⟩ := hc.holder hk hne
    exact ⟨r', hk', hres.trans hown, hres ▸ hne⟩
  · rw [releaseAfter_congr hc.agent, hl.horizon]
    intro hs
    obtain ⟨r, hk, -, hne⟩ := hl.direct hs
    obtain ⟨r', hk', hsame⟩ := hc.holder hk hne
    exact ⟨r, r', hk, hk', hsame⟩

/-- An admission that is there stays there: another one under its ID would be for the same action. -/
theorem Writes.carries (hP : DistinctAdmissions P) (hwf : WF P d) (hreg : Registered d) (hl : Linked P d)
    (hw : Writes P h d c d') : Carries d d' := by
  refine ⟨hw.owner.2.1, fun {k admission} hk => ?_, fun hk hne => ?_⟩
  · cases hw.admissions with
    | keep admissions => rw [admissions]; exact ⟨admission, hk, rfl⟩
    | sponsor computed absent _ admissions =>
      rw [admissions, Map.get?_put_ne _ _ ?_]
      · exact ⟨admission, hk, rfl⟩
      · rintro rfl
        obtain ⟨action, _, _, _, hbound, hact⟩ := hl.bound hk
        have hrecorded := hreg.recorded hk
        rw [← hact, hP hbound computed.bound, Map.has, absent] at hrecorded
        cases hrecorded
  · obtain ⟨r', hk', hres, hbody⟩ := hw.holder hwf hl.unreserved hk hne
    exact ⟨r', hk', hres, hbody, ((hw.wf hwf).engagement hk').1.trans (hwf.engagement hk).1.symm⟩

theorem HoldSource.link {payment : PaymentRequest} {sponsorship : Option SponsorshipCustodyBinding}
    {reservationID : String} (hs : HoldSource d payment reservationID sponsorship)
    (built : Issuance P d payment sponsorship reservationID i) (named : ∀ b, sponsorship = some b → b.admissionID ≠ "")
    (hne : reservationID ≠ "") : Link P d i := by
  refine ⟨fun hid => ?_, fun hid => ?_, built.horizon⟩
  · cases hs with
    | sponsorship found own => exact ⟨_, by rw [built.admission]; exact found, by rw [built.reservation]; exact own⟩
    | agreement => exact absurd built.admission hid
  · cases hs with
    | sponsorship => rw [built.admission] at hid; exact absurd hid (named _ rfl)
    | agreement found own =>
      exact ⟨_, by rw [built.payment]; exact found, by rw [built.reservation]; exact own, by rw [own]; exact hne⟩

theorem Writes.linked (hP : DistinctAdmissions P) (hwf : WF P d) (hreg : Registered d) (hw : Writes P h d c d')
    (hl : Linked P d) : Linked P d' := by
  have hc := hw.carries hP hwf hreg hl
  refine ⟨hw.unreserved hwf hl.unreserved, fun {k admission} hk => ?_, fun hk => ?_⟩
  · cases hw.admissions with
    | keep admissions => exact hl.bound (admissions ▸ hk)
    | sponsor computed _ _ admissions =>
      exact Map.forall_put hl.bound ⟨_, _, _, _, computed.bound, computed.own.symm⟩ (admissions ▸ hk)
  · cases hw.bearers with
    | keep issued => exact (hl.bearer (issued ▸ hk)).carry hc
    | issue _ named _ _ live source built only =>
      obtain ⟨r, hr, -⟩ := live
      rw [only] at hk
      obtain ⟨-, rfl⟩ | hk := Map.put_cases hk
      · exact (source.link built named (hwf.reservation hr).2).carry hc
      · exact (hl.bearer hk).carry hc

theorem Lapses.carries (hwf : WF P d) (hl : Lapses nowUnix k issued d d') : Carries d d' := by
  refine ⟨hl.owner.2.1, fun {key admission} hk => ?_, fun {key r} hk _ => ?_⟩
  · cases hl with
    | agreement => exact ⟨admission, hk, rfl⟩
    | sponsorship _ _ _ found _ _ =>
      simp only [Map.get?_put]
      split
      · rename_i hkey
        rw [← hkey, hk] at found
        cases found
        exact ⟨_, rfl, rfl⟩
      · exact ⟨admission, hk, rfl⟩
  · rcases hl.follows hwf hk with hk' | ⟨hk', -⟩
    · exact ⟨r, hk', rfl, rfl, rfl⟩
    · exact ⟨_, hk', rfl, rfl, rfl⟩

theorem Lapses.linked (hwf : WF P d) (hl : Lapses nowUnix k issued d d') (hI : Linked P d) : Linked P d' := by
  refine ⟨hl.unreserved hwf hI.unreserved, fun hk => ?_,
    fun hk => (hI.bearer (hl.bearer hk).2).carry (hl.carries hwf)⟩
  rcases hl.admission hk with found | ⟨admission, found, -, -, rfl⟩
  · exact hI.bound found
  · exact (hI.bound found :)

/-! ## Tombstones -/

structure Buried (d : AuthorityDocument) : Prop where
  admission : ∀ {k admission}, d.relaySponsorshipPayments.get? k = some admission →
    admission.expiredCustodyAuthorization ≠ none → Over d admission.reservation.reservationID
  record : ∀ {k r}, d.engagements.get? k = some r → r.expiredCustodyAuthorization ≠ none → Over d r.reservationID

theorem Lapses.buried (hwf : WF P d) (hl : Lapses nowUnix k issued d d') (hI : Buried d) : Buried d' := by
  have hkeep : ∀ {id}, Over d id → Over d' id := (hl.portfolio hwf).over
  refine ⟨fun hk hne => ?_, fun hk hne => ?_⟩
  · rcases hl.admission hk with found | ⟨admission, -, -, hown, rfl⟩
    · exact hkeep (hI.admission found hne)
    · rw [show (lapsedAdmission admission nowUnix issued).reservation = admission.reservation from rfl, hown]
      exact hl.over hwf
  · rcases hl.record hwf hk with found | ⟨r, -, rfl, -, hown, -⟩
    · exact hkeep (hI.record found hne)
    · rw [show (lapsedRecord r nowUnix issued).reservationID = r.reservationID from rfl, hown]
      exact hl.over hwf

theorem Writes.buried (hwf : WF P d) (hu : ∀ {k r}, d.engagements.get? k = some r → Unreserved r)
    (hw : Writes P h d c d') (hI : Buried d) : Buried d' := by
  have hkeep : ∀ {id}, Over d id → Over d' id := (hw.portfolio hwf).over
  refine ⟨fun {k admission} hk hne => ?_, fun {k r'} hk hne => ?_⟩
  · cases hw.admissions with
    | keep admissions => exact hkeep (hI.admission (admissions ▸ hk) hne)
    | sponsor computed _ _ admissions =>
      obtain ⟨-, rfl⟩ | hk := Map.put_cases (admissions ▸ hk)
      · exact absurd computed.fresh hne
      · exact hkeep (hI.admission hk hne)
  · cases (hw.engagements hwf).recordAfter hk with
    | same found => exact hkeep (hI.record found hne)
    | flagged found _ _ marked => subst marked; exact hkeep (hI.record found hne :)
    | proposed _ _ _ _ _ _ _ new => subst new; exact absurd rfl hne
    | @updated r found updates =>
      have hold := hI.record found
      rw [(updates.continues found).tombstone] at hne
      obtain ⟨hold', hget, hover⟩ := hold hne
      rcases updates.reservationID found (hu found) with hsame | ⟨hnone, -⟩
      · rw [hsame]; exact hkeep ⟨hold', hget, hover⟩
      · exact absurd hnone (hwf.reservation hget).2

/-! ## The custody ledgers together -/

structure Custodial (P : Protocol) (d : AuthorityDocument) : Prop where
  wf : WF P d
  registered : Registered d
  bearing : Bearing P d
  linked : Linked P d
  buried : Buried d

theorem Lapses.custodial (hI : Custodial P d) (hl : Lapses nowUnix k issued d d') : Custodial P d' :=
  ⟨hl.wf hI.wf, hl.registered hI.registered, hl.bearing hI.wf hI.bearing, hl.linked hI.wf hI.linked,
    hl.buried hI.wf hI.buried⟩

theorem reachable_custodial (hP : DistinctAdmissions P) {a : PersonalAuthority} (ha : Reachable P a) :
    Custodial P a.doc := by
  refine reachable_invariant (fun _ _ _ _ => ?_) (fun _ hI ⟨_, _, _, _, _, lapse⟩ => lapse.custodial hI)
    (fun _ hI hw => ?_) ha
  · exact ⟨fresh_wf _ _ _ _, fresh_registered _ _ _ _, fresh_bearing _ _ _ _,
      ⟨Map.of_empty, Map.of_empty, Map.of_empty⟩, ⟨Map.of_empty, Map.of_empty⟩⟩
  · exact ⟨hw.wf hI.wf, hw.registered hI.registered, hw.bearing hI.wf hI.bearing,
      hw.linked hP hI.wf hI.registered hI.linked, hw.buried hI.wf hI.linked.unreserved hI.buried⟩

/-- In every run: each sponsorship admission sits under its ID and is the only one of its recorded action, each bearer
sits under the digest of its payment and is the only one that draws on its hold, and what has a tombstone has a released
hold. -/
theorem custody_ledgers_agree (ownerID agentID authorityID : String) (limits : PortfolioLimits) (es : List Event) :
    let d := (exec (step P) (PersonalAuthority.fresh ownerID agentID authorityID limits) es).doc
    Registered d ∧ Bearing P d ∧ Buried d := by
  exact (reachable_invariant (P := P)
    (I := fun d => (∀ {k r}, d.engagements.get? k = some r → Unreserved r) ∧ Registered d ∧ Bearing P d ∧ Buried d)
    (fun _ _ _ _ => ⟨Map.of_empty, fresh_registered _ _ _ _, fresh_bearing _ _ _ _, ⟨Map.of_empty, Map.of_empty⟩⟩)
    (fun hwf hI ⟨_, _, _, _, _, lapse⟩ =>
      ⟨lapse.unreserved hwf hI.1, lapse.registered hI.2.1, lapse.bearing hwf hI.2.2.1, lapse.buried hwf hI.2.2.2⟩)
    (fun hwf hI hw => ⟨hw.unreserved hwf hI.1, hw.registered hI.2.1, hw.bearing hwf hI.2.2.1,
      hw.buried hwf hI.1 hI.2.2.2⟩)
    ⟨ownerID, agentID, authorityID, limits, es, rfl⟩).2

/-! ## The loop -/

/-- A bearer can lapse: its hold is live, and an Agreement's engagement is in one of the five states
expiry accepts. -/
def Releasable (d : AuthorityDocument) (i : IssuedCustodyPayment) : Prop :=
  Live d i.reservationID ∧ (i.sponsorshipAdmissionID = "" →
    ∀ r, d.engagements.get? i.payment.agreementBodyDigest = some r → r.state.mayExpire = true)

theorem Custodial.lapses_iff (hI : Custodial P d)
    (hk : d.issuedCustodyPayments.get? k = some i) : (∃ d', Lapses nowUnix k i d d') ↔ Releasable d i := by
  constructor
  · rintro ⟨d', hl⟩
    cases hl with
    | sponsorship sponsored hold live => exact ⟨⟨_, hold, live⟩, fun hs => absurd hs sponsored⟩
    | agreement _ hold live found _ _ ended =>
      refine ⟨⟨_, hold, live⟩, fun _ r hr => ?_⟩
      rw [found] at hr
      cases hr
      exact ended
  · rintro ⟨hlive, hstate⟩
    have hnot := hlive.not_over
    obtain ⟨r, hold, live⟩ := hlive
    by_cases hs : i.sponsorshipAdmissionID = ""
    · obtain ⟨record, found, own, -⟩ := (hI.linked.bearer hk).direct hs
      have first := not_not.1 fun hne => hnot (own ▸ hI.buried.record found hne)
      exact ⟨_, .agreement hs hold live found own first (hstate hs _ found)⟩
    · obtain ⟨admission, found, own⟩ := (hI.linked.bearer hk).sponsored hs
      have first := not_not.1 fun hne => hnot (own ▸ hI.buried.admission found hne)
      exact ⟨_, .sponsorship hs hold live found own first⟩

theorem Lapses.releasable_iff (hI : Custodial P d) {k' : String} {i' : IssuedCustodyPayment}
    (hk : d.issuedCustodyPayments.get? k = some i) (hk' : d.issuedCustodyPayments.get? k' = some i') (hne : k' ≠ k)
    (hl : Lapses nowUnix k i d d') : Releasable d' i' ↔ Releasable d i' := by
  have hother : i'.reservationID ≠ i.reservationID := fun hid => hne (hI.bearing.single hk' hk hid)
  have hreservation : d'.reservations.get? i'.reservationID = d.reservations.get? i'.reservationID := by
    cases hl with
    | sponsorship _ hold | agreement _ hold =>
      exact Map.get?_put_ne _ _ fun he => hother (he.trans (hI.wf.reservation hold).1)
  have hengagement : i'.sponsorshipAdmissionID = "" →
      d'.engagements.get? i'.payment.agreementBodyDigest = d.engagements.get? i'.payment.agreementBodyDigest := by
    intro hs
    obtain ⟨r, hr, hown, -⟩ := (hI.linked.bearer hk').direct hs
    cases hl with
    | sponsorship => rfl
    | agreement _ _ _ found own =>
      -- The lapsing bearer's engagement holds another reservation.
      refine Map.get?_put_ne _ _ fun he => hother ?_
      rw [(hI.wf.engagement found).1] at he
      rw [he, found] at hr
      cases hr
      exact hown.symm.trans own
  unfold Releasable Live
  rw [hreservation]
  exact and_congr_right fun _ => imp_congr_right fun hs => by rw [hengagement hs]

/-- One round of the loop succeeds exactly if the bearer it visits is not due or can lapse. -/
theorem expireOne_total (hI : Custodial P d) {d₀ : AuthorityDocument} (hI₀ : Custodial P d₀)
    {b : Bool} (hk₀ : d₀.issuedCustodyPayments.get? k = some i)
    (hk : d.issuedCustodyPayments.get? k = some i) (hr : i.Due nowUnix → Releasable d i) :
    ∃ st, expireOne P d₀ nowUnix (d, b) ⟨k, i⟩ = .ok st ∧
    ((i.Due nowUnix ∧ Lapses nowUnix k i d st.1) ∨ (¬ i.Due nowUnix ∧ st.1 = d)) := by
  have hfrozen : i.Frozen → custodyAuthorizationReleaseAfter P d₀ i = .ok i.releaseAfterUnix := fun _ =>
    (hI₀.linked.bearer hk₀).horizon
  by_cases hdue : i.Due nowUnix
  · obtain ⟨d', hl⟩ := (hI.lapses_iff hk).2 (hr hdue)
    exact ⟨(d', true), expireOne_ok.2 ⟨hfrozen, fun _ => ⟨hl, rfl⟩, fun hnot => absurd hdue hnot⟩, .inl ⟨hdue, hl⟩⟩
  · exact ⟨(d, b), expireOne_ok.2 ⟨hfrozen, fun hd => absurd hd hdue, fun _ => rfl⟩, .inr ⟨hdue, rfl⟩⟩

/-- The bearers a loop has not visited yet are where they were, and can lapse if they could. -/
structure Pending (P : Protocol) (d : AuthorityDocument) (rest : List ((_ : String) × IssuedCustodyPayment))
    (d' : AuthorityDocument) : Prop where
  custodial : Custodial P d'
  bearer : ∀ e ∈ rest, d'.issuedCustodyPayments.get? e.1 = some e.2
  releasable : ∀ e ∈ rest, Releasable d' e.2 ↔ Releasable d e.2

theorem Pending.lapse {d₁ d₂ : AuthorityDocument}
    (hp : Pending P d (e :: rest) d₁) (hkeys : (e :: rest).NodupKeys) (hl : Lapses nowUnix e.1 e.2 d₁ d₂) :
    Pending P d rest d₂ := by
  have hne : ∀ e' ∈ rest, e'.1 ≠ e.1 := by
    intro e' he' heq
    rw [List.nodupKeys_cons] at hkeys
    exact hkeys.1 (heq ▸ List.mem_map_of_mem he')
  have hhead := hp.bearer e List.mem_cons_self
  refine ⟨hl.custodial hp.custodial, fun e' he' => ?_, fun e' he' => ?_⟩
  · rw [hl.issued, Map.get?_delete, if_neg (hne e' he')]
    exact hp.bearer e' (List.mem_cons_of_mem _ he')
  · have hiff := hl.releasable_iff hp.custodial hhead (hp.bearer e' (List.mem_cons_of_mem _ he')) (hne e' he')
    exact hiff.trans (hp.releasable e' (List.mem_cons_of_mem _ he'))

theorem Pending.skip {d₁ : AuthorityDocument} (hp : Pending P d (e :: rest) d₁) : Pending P d rest d₁ :=
  ⟨hp.custodial, fun e' he' => hp.bearer e' (List.mem_cons_of_mem _ he'),
    fun e' he' => hp.releasable e' (List.mem_cons_of_mem _ he')⟩

/-- The loop succeeds exactly if every due bearer can lapse in the document it starts from. -/
theorem expireLoop_iff (hI : Custodial P d) :
    ∀ {l} {d₁} {b}, Pending P d l d₁ →
      l.NodupKeys → (∀ e ∈ l, d.issuedCustodyPayments.get? e.1 = some e.2) →
      ((∃ st, l.foldlM (expireOne P d nowUnix) (d₁, b) = .ok st) ↔ ∀ e ∈ l, e.2.Due nowUnix → Releasable d e.2)
  | [], d₁, b, _, _, _ => by simp [pure, Except.pure]
  | e :: l, d₁, b, hp, hkeys, hl => by
    have hkeys' : l.NodupKeys := (List.nodupKeys_cons.1 hkeys).2
    have hl' : ∀ e' ∈ l, d.issuedCustodyPayments.get? e'.1 = some e'.2 := fun e' he' =>
      hl e' (List.mem_cons_of_mem _ he')
    have hhead := hp.bearer e List.mem_cons_self
    have hsame := hp.releasable e List.mem_cons_self
    rw [List.forall_mem_cons, List.foldlM_cons]
    constructor
    · rintro ⟨st, hst⟩
      obtain ⟨⟨d₂, b₂⟩, hround, hrest⟩ := bind_ok.1 hst
      obtain ⟨-, hdue, hskip⟩ := expireOne_ok.1 hround
      by_cases hd : e.2.Due nowUnix
      · obtain ⟨hlapse, -⟩ := hdue hd
        exact ⟨fun _ => hsame.1 ((hp.custodial.lapses_iff hhead).1 ⟨d₂, hlapse⟩),
          (expireLoop_iff hI (hp.lapse hkeys hlapse) hkeys' hl').1 ⟨st, hrest⟩⟩
      · cases hskip hd
        exact ⟨fun hd' => absurd hd' hd, (expireLoop_iff hI hp.skip hkeys' hl').1 ⟨st, hrest⟩⟩
    · rintro ⟨hfirst, hothers⟩
      obtain ⟨⟨d₂, b₂⟩, hround, hcases⟩ := expireOne_total (b := b) hp.custodial hI (hl e List.mem_cons_self) hhead
        fun hd => hsame.2 (hfirst hd)
      have hp₂ : Pending P d l d₂ := by
        rcases hcases with ⟨-, hlapse⟩ | ⟨-, heq⟩
        · exact hp.lapse hkeys hlapse
        · subst heq; exact hp.skip
      obtain ⟨st, hst⟩ := (expireLoop_iff hI hp₂ hkeys' hl').2 hothers
      exact ⟨st, bind_ok.2 ⟨(d₂, b₂), hround, hst⟩⟩

/-! ## Reachable documents -/

theorem expireIssuedCustody_iff (hI : Custodial P d) (order : RangeOrder) {now : Time} (hnow : 0 ≤ now.unix) :
    (∃ o, expireIssuedCustody P order now d = .ok o) ↔
      ∀ k i, d.issuedCustodyPayments.get? k = some i → i.Due now.unixU64 → Releasable d i := by
  have hmem : ∀ e ∈ d.issuedCustodyPayments.range order 4, d.issuedCustodyPayments.get? e.1 = some e.2 :=
    fun e he => Map.mem_range.1 he
  have hkeys := ((Map.range_perm order 4 d.issuedCustodyPayments).map Sigma.fst).nodup_iff.2 (AList.nodupKeys _)
  have hstart : Pending P d (d.issuedCustodyPayments.range order 4) d := ⟨hI, hmem, fun _ _ => Iff.rfl⟩
  have hloop := @expireLoop_iff P d now.unixU64 hI _ d false hstart hkeys hmem
  have hall : (∀ e ∈ d.issuedCustodyPayments.range order 4, e.2.Due now.unixU64 → Releasable d e.2) ↔
      ∀ k i, d.issuedCustodyPayments.get? k = some i → i.Due now.unixU64 → Releasable d i :=
    ⟨fun he k i hk => he ⟨k, i⟩ (Map.mem_range.2 hk), fun hk e he => hk e.1 e.2 (hmem e he)⟩
  rw [← hall, ← hloop]
  unfold expireIssuedCustody
  split
  · rename_i hempty
    have hrange : d.issuedCustodyPayments.range order 4 = [] := by
      have hperm := Map.range_perm order 4 d.issuedCustodyPayments
      rw [hempty] at hperm
      exact hperm.eq_nil
    rw [hrange]
    exact ⟨fun _ => ⟨_, rfl⟩, fun _ => ⟨_, rfl⟩⟩
  · simp only [peel, not_lt, hnow, true_and]
    constructor
    · rintro ⟨_, ⟨next, changed⟩, hfold, -⟩; exact ⟨_, hfold⟩
    · rintro ⟨⟨next, changed⟩, hfold⟩; exact ⟨_, (next, changed), hfold, rfl⟩

/-- On every reachable document, at every time from the epoch on, the expiry of custody bearers
succeeds exactly if every due bearer has a live hold and, without a sponsorship, an engagement that
is settling, settled, unpaid, cancelled or failed. -/
theorem expiry_succeeds_iff (hP : DistinctAdmissions P) {a : PersonalAuthority} (ha : Reachable P a)
    (hnow : 0 ≤ (h.clock 0).unix) (hstored : h.write 0 = .stored) :
    (a.expireIssuedCustodyLocked P h).2 = .ok () ↔
      ∀ k i, a.doc.issuedCustodyPayments.get? k = some i → i.Due (h.clock 0).unixU64 → Releasable a.doc i := by
  rw [← expireIssuedCustody_iff (reachable_custodial hP ha) h.range hnow]
  unfold PersonalAuthority.expireIssuedCustodyLocked
  split
  · rename_i e he
    refine ⟨fun herr => ?_, fun ⟨_, ho⟩ => ?_⟩
    · cases herr
    · rw [he] at ho; cases ho
  · rename_i he
    exact ⟨fun _ => ⟨_, he⟩, fun _ => rfl⟩
  · rename_i next he
    rw [hstored]
    exact ⟨fun _ => ⟨_, he⟩, fun _ => rfl⟩

open Sample in
theorem sample_distinctAdmissions : DistinctAdmissions protocol := by
  have hpay : ∀ {action} {p q r id},
      relaySponsorshipPaymentAdmissionID protocol action p q r = .ok id → action.stableActionID = "pay" := by
    intro action p q r id hid
    simp only [relaySponsorshipPaymentAdmissionID, protocol, digest] at hid
    split at hid
    · rename_i hall; exact hall.1
    · cases hid
  intro action action' p q r p' q' r' id hid hid'
  rw [hpay hid, hpay hid']

open Sample in
/-- After its horizon the bearer of the relay agreement lapses: its hold is live and its engagement
settles. -/
theorem issued_run_expires :
    let a := exec (step protocol) Sample.authority issuedRun
    (a.expireIssuedCustodyLocked protocol (host 6000)).2 = .ok () ∧
      a.doc.issuedCustodyPayments.has paymentDigest = true ∧
      ∀ k i, a.doc.issuedCustodyPayments.get? k = some i → i.Due ((host 6000).clock 0).unixU64 →
        Releasable a.doc i :=
  have hok : ((exec (step protocol) Sample.authority issuedRun).expireIssuedCustodyLocked protocol
      (host 6000)).2 = .ok () := by decide +kernel
  ⟨hok, by decide +kernel, (expiry_succeeds_iff sample_distinctAdmissions
    ⟨"owner", "alice", "authority", limits, issuedRun, rfl⟩ (by decide) rfl).1 hok⟩

open Sample in
/-- The engagement of an issued bearer becomes ambiguous, which no transition leaves. From the
bearer's horizon on every call that expires bearers is refused. -/
theorem ambiguous_engagement_wedges_expiry :
    let a := exec (step protocol) authority
      (issuedRun ++ [call 108 (.transitionEngagement relayDigest .settling .ambiguous "" [])])
    (a.expireIssuedCustodyLocked protocol (host 6000)).2 =
      .error "expired Agreement custody authorization has a non-terminal lifecycle" ∧
    (perform protocol a (call 6000 .snapshot)).2 =
      .error "expired Agreement custody authorization has a non-terminal lifecycle" := by
  decide +kernel

end OpenFox.Authority
