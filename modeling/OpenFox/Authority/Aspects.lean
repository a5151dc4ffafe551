/-
What a write does to each part of a well-formed document: the portfolio, the engagements, the
settlement ledger, the custody ledgers and the recorded actions.
-/
import OpenFox.Authority.Record

namespace OpenFox.Authority

open OpenFox.Go OpenFox.Commerce

variable {P : Protocol} {h : Host} {d d' : AuthorityDocument} {c : Call}

/-- The indexes of a document: every record sits under its own key, an engagement retains a valid
body with a runtime for every obligation, and a billed obligation has its engagement. -/
structure WF (P : Protocol) (d : AuthorityDocument) : Prop where
  engagement : ∀ {k r}, d.engagements.get? k = some r →
    r.agreementDigest = k ∧ P.agreementBodyDigest r.body = .ok k ∧ P.validateAgreementBody r.body = .ok ()
  ready : ∀ {k r}, d.engagements.get? k = some r → r.Ready
  reservation : ∀ {k r}, d.reservations.get? k = some r → r.reservationID = k ∧ k ≠ ""
  ledger : ∀ {k l}, d.settlementLedger.get? k = some l →
    l.obligation.obligationInstanceID = k ∧ (d.engagements.get? l.obligation.agreementBodyDigest).isSome = true
  relay : RelayReady d

/-! ## Portfolio -/

structure SameLosses (d d' : AuthorityDocument) : Prop where
  limits : d'.limits = d.limits
  consumed : d'.consumedMaximumLossAtomic = d.consumedMaximumLossAtomic
  retained : d'.retainedDefaultLiabilityAtomic = d.retainedDefaultLiabilityAtomic
  consumedByAsset : d'.consumedMaximumLossByAsset = d.consumedMaximumLossByAsset
  retainedByAsset : d'.retainedDefaultLiabilityByAsset = d.retainedDefaultLiabilityByAsset

/-- What a change does to the portfolio: nothing, a hold that fits, a released hold, or a released
hold whose loss is booked. -/
inductive PortfolioMove (P : Protocol) (d d' : AuthorityDocument) : Prop
  | keep (reservations : d'.reservations = d.reservations) (losses : SameLosses d d')
  | hold {order r} (fits : admitReservation P order d r = .ok ())
    (reservations : d'.reservations = d.reservations.put r.reservationID r) (losses : SameLosses d d')
  | free {k r} (found : d.reservations.get? k = some r) (live : r.released = false)
    (reservations : d'.reservations = d.reservations.put k { r with released := true }) (losses : SameLosses d d')
  | dispose {k r bucket realized retained} (found : d.reservations.get? k = some r) (live : r.released = false)
    (bucketed : exposureAssetBucket P r.asset = .ok bucket)
    (disposed : dispositionWithinLimits d r bucket realized retained = .ok ())
    (reservations : d'.reservations = d.reservations.put k { r with released := true })
    (losses : SameLosses (disposeLoss d bucket realized retained) d')

theorem storeRecord_proj {α : Type} (f : AuthorityDocument → α) {o : Option EngagementRecord}
    (hf : ∀ d es, f { d with engagements := es } = f d := by intros; rfl) : f (storeRecord d o) = f d := by
  cases o with
  | none => rfl
  | some r => exact hf d _

theorem disposeLoss_proj {α : Type} (f : AuthorityDocument → α)
    (hf : ∀ d c r cs rs, f { d with
      consumedMaximumLossAtomic := c, retainedDefaultLiabilityAtomic := r
      consumedMaximumLossByAsset := cs, retainedDefaultLiabilityByAsset := rs } = f d := by intros; rfl)
    {bucket : String} {realized retained : UInt64} : f (disposeLoss d bucket realized retained) = f d := by
  unfold disposeLoss
  split
  · exact hf d _ _ d.consumedMaximumLossByAsset d.retainedDefaultLiabilityByAsset
  · exact hf d d.consumedMaximumLossAtomic d.retainedDefaultLiabilityAtomic _ _

theorem SameLosses.storeRecord (hs : SameLosses d d') (o : Option EngagementRecord) :
    SameLosses d (storeRecord d' o) := by
  cases o with
  | none => exact hs
  | some r => exact { hs with }

theorem Writes.portfolio (hwf : WF P d) (hw : Writes P h d c d') : PortfolioMove P d d' := by
  cases hw with
  | admitHold _ _ fits | sponsor _ _ _ _ fits | reserve _ _ _ _ _ _ _ _ fits =>
    exact .hold fits rfl ⟨rfl, rfl, rfl, rfl, rfl⟩
  | reject _ _ _ _ _ _ hold live =>
    refine .free hold live ?_ ⟨rfl, rfl, rfl, rfl, rfl⟩
    rw [← (hwf.reservation hold).1]; rfl
  | cancelUnsigned _ hold _ _ cancellable =>
    refine .free hold ?_ rfl ⟨rfl, rfl, rfl, rfl, rfl⟩
    simp only [unsignedCancellable, Bool.and_eq_true] at cancellable
    simpa using cancellable.1.1.1.2
  | @releaseReservation action _ _ _ realized retained _ release existing bucket _ _ _ _ _ hold _ live _ _ bucketed
    disposed _ =>
    refine .dispose hold live bucketed disposed ?_ ?_
    · exact disposeLoss_proj (·.reservations)
    · unfold disposeLoss
      split <;> exact ⟨rfl, rfl, rfl, rfl, rfl⟩
  | pay =>
    refine .keep (storeRecord_proj (·.reservations)) (SameLosses.storeRecord ?_ _)
    exact ⟨rfl, rfl, rfl, rfl, rfl⟩
  | settle _ _ _ _ _ _ _ only =>
    subst only
    refine .keep (storeRecord_proj (·.reservations)) (SameLosses.storeRecord ?_ _)
    exact ⟨rfl, rfl, rfl, rfl, rfl⟩
  | _ => exact .keep rfl ⟨rfl, rfl, rfl, rfl, rfl⟩

theorem PortfolioMove.limits (hm : PortfolioMove P d d') : d'.limits = d.limits := by
  cases hm with
  | keep _ losses | hold _ _ losses | free _ _ _ losses => exact losses.limits
  | dispose _ _ _ _ _ losses => exact losses.limits.trans (disposeLoss_proj (·.limits))

/-! ## Engagements -/

/-- How a call that turns `d` into `d'` changes the engagement record `r` retained under `k`, with
the checks it passed. -/
inductive Updates (P : Protocol) (h : Host) (d d' : AuthorityDocument) (k : String) (r : EngagementRecord) :
    Call → EngagementRecord → Prop
  | withdraw {action sender event state} (target : withdrawalTarget r = .ok (some state)) :
    Updates P h d d' k r (.observeAgreementWithdrawal k action sender event)
      (EngagementRecord.touch { r with state := state } (h.clock 1).unixU64)
  | deliver {obligation manifest sender event runtime} (owed : deliverableBy r d.agentID obligation sender = true)
    (current : runtime = r.obligationRuntime.getD obligation default) (unseen : runtime.deliveryEventID = "")
    (awaited : runtime.state = .pending ∨ runtime.state = .ready)
    (ready : (obligationByID r obligation).any (obligationDependenciesSatisfied r) = true) :
    Updates P h d d' k r (.observeAgreementDelivery k obligation manifest sender event)
      (deliveredRecord h r runtime obligation manifest event (h.clock 1).unixU64)
  | recordEvidence {evidence verifier state marker} (uncancelled : r.state ≠ .cancelled) (unfailed : r.state ≠ .failed)
    (exact : exactRetainedAgreementBody P r = true) (clear : r.negotiationAmbiguous = false)
    (covered : isAgentSignatureOf P d.agentID evidence = true →
      exposureCovered r d.agentID (d.reservations.get? r.reservationID) = true)
    (earned : authorizationResult P r (withEvidence h r.agreement evidence) verifier (h.clock 1) = .ok (state, marker))
    (unseen : evidence ∉ r.agreement.authorizationEvidence) :
    Updates P h d d' k r (.recordAgreementEvidence k evidence verifier)
      (EngagementRecord.touch { r with
        agreement := withEvidence h r.agreement evidence, state := state
        fullyAuthorizedEvidenceSetDigest := marker } (h.clock 1).unixU64)
  | reserve {action fields request fence reserve} (own : reserve.reservation.agreementDigest = k)
    (eligible : engagementEligibleForReservation P r d.agentID = true)
    (covered : exposureCovered r d.agentID (some reserve.reservation) = true)
    (fits : admitReservation P h.range d reserve.reservation = .ok ())
    (held : d'.reservations = d.reservations.put reserve.reservation.reservationID reserve.reservation) :
    Updates P h d d' k r (.reserveEngagement action fields request fence reserve)
      (reservedRecord r action reserve.reservation.reservationID (h.clock 2).unixU64)
  | cancelUnsigned {reservationID fence reservation} (hold : d.reservations.get? reservationID = some reservation)
    (holder : r.reservationID = reservationID) (agreement : reservation.agreementDigest = k)
    (cancellable : unsignedCancellable P d r reservation = true)
    (unsigned : r.agreement.authorizationEvidence.any
      (fun e => evidenceSenderMatches e.authoritySubject d.agentID) = false)
    (freed : d'.reservations = d.reservations.put reservationID { reservation with released := true }) :
    Updates P h d d' k r (.cancelUnsignedReservation k reservationID fence)
      (EngagementRecord.touch { r with state := .cancelled } (h.clock 1).unixU64)
  | bindInput {obligation accepted inputs bound} (accepting : r.state.acceptsPrivateInput = true) :
    Updates P h d d' k r (.bindAcceptedPrivateInput k obligation accepted)
      (EngagementRecord.touch { r with acceptedPrivateInputs := inputs, boundPrivateInputs := bound }
        (h.clock 1).unixU64)
  | bindChallenge {obligation challenge send challenges} (accepting : r.state.acceptsPrivateInput = true) :
    Updates P h d d' k r (.recordPrivateHandoffChallenge k obligation challenge send)
      (EngagementRecord.touch { r with privateHandoffChallenges := challenges } (h.clock 1).unixU64)
  | moveEngagement {next execution evidence} (allowed : allowedEngagementTransition r.state next = true) :
    Updates P h d d' k r (.transitionEngagement k r.state next execution evidence)
      (movedRecord r next execution evidence (h.clock 1).unixU64)
  | moveObligation {obligation target execution evidence event runtime}
    (current : r.obligationRuntime.get? obligation = some runtime)
    (allowed : allowedObligationTransition runtime.state target = true) :
    Updates P h d d' k r (.transitionObligation k obligation runtime.state target execution evidence event)
      (obligationMovedRecord h r runtime obligation target execution evidence event (h.clock 1).unixU64)
  | complete {evidence} (valueless : hasValueObligation r = false)
    (delivered : allNonValueObligationsDelivered r = true) :
    Updates P h d d' k r (.completeNoPaymentEngagement k evidence) (completedRecord r evidence (h.clock 1).unixU64)
  | bill {action fields request fence obligation} (own : obligation.agreementBodyDigest = k)
    (billable : materializable P r obligation.agreementObligationID = true)
    (pending : (r.obligationRuntime.getD obligation.agreementObligationID default).state = .pending) :
    Updates P h d d' k r (.materializeSettlement action fields request fence obligation)
      (settlingRecord h r obligation.agreementObligationID (h.clock 2).unixU64)
  | pay {action fields request fence req ledger updated entryID r'}
    (found : d.settlementLedger.get? req.obligationInstanceID = some ledger)
    (own : ledger.obligation.agreementBodyDigest = k)
    (paid : paidRecord h (paymentDocument d action fence req { ledger with state := updated } entryID)
      ledger.obligation req = some r') :
    Updates P h d d' k r (.applySettlementPayment action fields request fence req) r'
  | overdue {action fields request fence req ledger next r'}
    (found : d.settlementLedger.get? req.obligationInstanceID = some ledger)
    (own : ledger.obligation.agreementBodyDigest = k) (same : next.engagements = d.engagements)
    (late : overdueRecord h next ledger.obligation req = some r') :
    Updates P h d d' k r (.resolveSettlementState action fields request fence req) r'

/-- What a write does to the engagements: nothing, a marked lineage, a new proposal, or an update of
one record. -/
inductive EngagementMove (P : Protocol) (h : Host) (d d' : AuthorityDocument) (c : Call) : Prop
  | keep (engagements : d'.engagements = d.engagements)
  | flag {body proposer event action code digests} (proposal : c = .recordAgreementProposal body proposer event action)
    (engagements : d'.engagements = (flagLineage d body.agreementID code digests).engagements)
  | add {body proposer event action digest} (proposal : c = .recordAgreementProposal body proposer event action)
    (valid : P.validateAgreementBody body = .ok ()) (bound : P.agreementBodyDigest body = .ok digest)
    (absent : d.engagements.get? digest = none) (single : forkedSibling h d body digest = none)
    (clear : d.engagements.any (fun _ record =>
      record.body.agreementID == body.agreementID && record.negotiationAmbiguous) = false)
    (succeeds : validatePredecessor P d body = .ok ())
    (engagements : d'.engagements =
      d.engagements.put digest (newEngagement body digest proposer event action (h.clock 1)))
  | update {k r r'} (found : d.engagements.get? k = some r) (updates : Updates P h d d' k r c r')
    (engagements : d'.engagements = d.engagements.put k r')

variable {action : AuthorizedAction} {payment : PaymentRequest} {sponsorship : Option SponsorshipCustodyBinding}

/-- A settlement step stores the record it computed from an engagement in that engagement's place. -/
theorem storeRecord_engagements {o : Option EngagementRecord} {k : String}
    {e : EngagementRecord} (he : d.engagements.get? k = some e) (hk : e.agreementDigest = k)
    (ho : ∀ r, o = some r → Keeps (d.engagements.getD k default) r) : (storeRecord d o).engagements = d.engagements ∨
      ∃ r, o = some r ∧ (storeRecord d o).engagements = d.engagements.put k r := by
  cases o with
  | none => exact .inl rfl
  | some r =>
    have hr : r.agreementDigest = k := by
      rw [(ho r rfl).digest, Map.getD_of_get? he]; exact hk
    exact .inr ⟨r, rfl, by rw [← hr]; rfl⟩

theorem Writes.engagements (hwf : WF P d) (hw : Writes P h d c d') : EngagementMove P h d d' c := by
  have hinit : ∀ {k r}, d.engagements.get? k = some r → initializeObligationRuntime r = r :=
    fun hk => initialize_eq_self (hwf.ready hk)
  cases hw with
  | identityConflict | bodyFork => exact .flag rfl rfl
  | propose valid bound _ absent single clear succeeds => exact .add rfl valid bound absent single clear succeeds rfl
  | withdraw found _ _ target => exact .update found (.withdraw target) rfl
  | deliver found owed current unseen awaited ready =>
    rw [hinit found] at *
    exact .update found (.deliver owed current unseen awaited ready) rfl
  | recordEvidence found uncancelled unfailed exact _ clear covered _ _ _ earned unseen =>
    exact .update found (.recordEvidence uncancelled unfailed exact clear covered earned unseen) rfl
  | reserve found eligible _ _ covered _ _ _ fits =>
    refine .update found (.reserve rfl eligible covered fits rfl) ?_
    rw [(hwf.engagement found).1]; rfl
  | cancelUnsigned found hold holder agreement cancellable unsigned =>
    exact .update found (.cancelUnsigned hold holder agreement cancellable unsigned rfl) rfl
  | bindInput found accepting => exact .update found (.bindInput accepting) rfl
  | bindChallenge found accepting => exact .update found (.bindChallenge accepting) rfl
  | moveEngagement allowed found exact =>
    subst exact
    exact .update found (.moveEngagement allowed) rfl
  | moveObligation allowed found current exact =>
    subst exact
    rw [hinit found] at *
    exact .update found (.moveObligation current allowed) rfl
  | complete found valueless delivered => exact .update found (.complete valueless delivered) rfl
  | materializeFirst _ _ _ found billable _ _ pending =>
    rw [hinit found] at *
    refine .update found (.bill rfl billable pending) ?_
    rw [(hwf.engagement found).1]; rfl
  | @pay action _ _ fence r ledger updated entryID _ _ found =>
    obtain ⟨e, he⟩ := Option.isSome_iff_exists.1 (hwf.ledger found).2
    have he' : (paymentDocument d action fence r { ledger with state := updated } entryID).engagements.get?
      ledger.obligation.agreementBodyDigest = some e := he
    rcases storeRecord_engagements he' (hwf.engagement he).1 fun r' hr' =>
      (paid_projects h hr').keeps with hs | ⟨r', hr', hs⟩
    · exact .keep hs
    · exact .update he (.pay found rfl hr') hs
  | settle _ _ found _ _ _ _ only =>
    obtain ⟨e, he⟩ := Option.isSome_iff_exists.1 (hwf.ledger found).2
    have hnext := congrArg AuthorityDocument.engagements only
    rcases storeRecord_engagements (hnext ▸ he) (hwf.engagement he).1 fun r' hr' =>
      (overdue_projects h hr').keeps with hs | ⟨r', hr', hs⟩
    · exact .keep (hs.trans hnext)
    · exact .update he (.overdue found rfl hnext hr') (hs.trans (by rw [hnext]; rfl))
  | releaseReservation => exact .keep (disposeLoss_proj (·.engagements))
  | _ => exact .keep rfl

/-! ## The settlement ledger -/

/-- The engagement whose state a call projects anew, if it writes. -/
def Call.projectsOnto (d : AuthorityDocument) : Call → Option String
  | .observeAgreementDelivery digest _ _ _ _ => some digest
  | .transitionObligation digest _ _ _ _ _ _ => some digest
  | .materializeSettlement _ _ _ _ obligation => some obligation.agreementBodyDigest
  | .applySettlementPayment _ _ _ _ r =>
    (d.settlementLedger.get? r.obligationInstanceID).map (·.obligation.agreementBodyDigest)
  | .resolveSettlementState _ _ _ _ r =>
    (d.settlementLedger.get? r.obligationInstanceID).map (·.obligation.agreementBodyDigest)
  | _ => none

/-- What a write does to the settlement ledger: nothing, a new entry of a retained engagement, or a
new state of an entry. -/
inductive LedgerMove (P : Protocol) (d d' : AuthorityDocument) (c : Call) : Prop
  | keep (ledger : d'.settlementLedger = d.settlementLedger)
  | add {action fields request fence obligation state}
    (billing : c = .materializeSettlement action fields request fence obligation)
    (billed : (d.engagements.get? obligation.agreementBodyDigest).isSome = true)
    (ledger : d'.settlementLedger =
      d.settlementLedger.put obligation.obligationInstanceID { obligation := obligation, state := state })
  | change {k l state} (found : d.settlementLedger.get? k = some l)
    (onto : c.projectsOnto d = some l.obligation.agreementBodyDigest)
    (ledger : d'.settlementLedger = d.settlementLedger.put k { l with state := state })

theorem Writes.ledger (hw : Writes P h d c d') : LedgerMove P d d' c := by
  cases hw with
  | materializeFirst _ _ _ found | materializeNext _ _ _ found =>
    exact .add rfl (Option.isSome_iff_exists.2 ⟨_, found⟩) rfl
  | pay _ _ found =>
    exact .change found (by rw [Call.projectsOnto, found]; rfl) (storeRecord_proj (·.settlementLedger))
  | settle _ _ found _ _ _ _ only =>
    subst only
    exact .change found (by rw [Call.projectsOnto, found]; rfl) (storeRecord_proj (·.settlementLedger))
  | releaseReservation => exact .keep (disposeLoss_proj (·.settlementLedger))
  | _ => exact .keep rfl

/-! ## Issued bearers -/

/-- What an issued bearer records of the request it was issued for. -/
structure Issuance (P : Protocol) (d : AuthorityDocument) (payment : PaymentRequest)
    (sponsorship : Option SponsorshipCustodyBinding) (reservationID : String) (issued : IssuedCustodyPayment) :
    Prop where
  payment : issued.payment = payment
  reservation : issued.reservationID = reservationID
  admission : issued.sponsorshipAdmissionID = (sponsorship.map (·.admissionID)).getD ""
  grace : issued.finalityGraceSeconds = d.limits.custodyFinalityGraceSeconds
  horizon : custodyAuthorizationReleaseAfter P d issued = .ok issued.releaseAfterUnix

theorem newIssuance_ok {account : String} {domain : NetworkDomain} {fence : WriterFence} {reservationID digest : String}
    {amount : UInt64} {issued : IssuedCustodyPayment}
    (hn : newIssuance P d action payment account domain sponsorship fence reservationID digest amount = .ok issued) :
    Issuance P d payment sponsorship reservationID issued := by
  simp only [newIssuance, peel] at hn
  obtain ⟨_, -, _, -, _, -, _, horizon, rfl⟩ := hn
  exact ⟨rfl, rfl, rfl, rfl, horizon⟩

/-- Where a bearer draws its hold from: its sponsorship admission, or the reservation of its Agreement. -/
inductive HoldSource (d : AuthorityDocument) (payment : PaymentRequest) (reservationID : String) :
    Option SponsorshipCustodyBinding → Prop
  | sponsorship {b admission} (found : d.relaySponsorshipPayments.get? b.admissionID = some admission)
    (own : admission.reservation.reservationID = reservationID) :
    HoldSource d payment reservationID (some b)
  | agreement {engagement} (found : d.engagements.get? payment.agreementBodyDigest = some engagement)
    (own : engagement.reservationID = reservationID) (settling : engagement.state = .settling) :
    HoldSource d payment reservationID none

theorem custodyReservation_ok {now : Time} {reservationID : String}
    (hc : custodyReservation P d action payment sponsorship now = .ok reservationID) :
    (∃ r, d.reservations.get? reservationID = some r ∧ r.released = false) ∧
      HoldSource d payment reservationID sponsorship := by
  unfold custodyReservation at hc
  split at hc
  · split at hc
    · cases hc
    · rename_i admission found
      simp only [peel, Bool.not_eq_false] at hc
      obtain ⟨exact, rfl⟩ := hc
      simp only [exactLiveRelaySponsorshipAdmission, Bool.and_eq_true, beq_iff_eq] at exact
      obtain ⟨⟨⟨⟨⟨⟨⟨⟨⟨⟨⟨-, -⟩, -⟩, own⟩, -⟩, -⟩, -⟩, -⟩, -⟩, -⟩, held⟩, -⟩ := exact
      refine ⟨?_, .sponsorship found own⟩
      split at held
      · cases held
      · rename_i expected hexp
        simp only [Bool.and_eq_true, beq_iff_eq] at held
        obtain ⟨⟨-, same⟩, held⟩ := held
        refine ⟨expected, by rw [← own, same]; exact held, ?_⟩
        unfold relaySponsorshipExposureReservation at hexp
        split at hexp
        · cases hexp
        · simp only [peel] at hexp
          obtain ⟨-, _, -, rfl⟩ := hexp
          rfl
  · split at hc
    · cases hc
    · rename_i engagement found
      simp only [peel, Bool.not_eq_false] at hc
      obtain ⟨exact, rfl⟩ := hc
      simp only [exactLiveDirectPaymentReservation, Bool.and_eq_true] at exact
      obtain ⟨⟨window, held⟩, -⟩ := exact
      simp only [directPaymentWindow, Bool.and_eq_true, beq_iff_eq] at window
      refine ⟨?_, .agreement found rfl (by tauto)⟩
      unfold directPaymentHold at held
      split at held
      · rename_i exposure reservation hexposure hreservation
        simp only [Bool.and_eq_true, Bool.not_eq_true'] at held
        exact ⟨reservation, hreservation, by tauto⟩
      · cases held

/-- What a write does to the issued bearers: nothing, or one more on a hold that carries none. -/
inductive BearerMove (P : Protocol) (d d' : AuthorityDocument) : Prop
  | keep (issued : d'.issuedCustodyPayments = d.issuedCustodyPayments)
  | issue {payment sponsorship reservationID digest bearer} (bound : P.paymentRequestDigest payment = .ok digest)
    (named : ∀ b, sponsorship = some b → b.admissionID ≠ "")
    (absent : d.issuedCustodyPayments.get? digest = none)
    (exclusive : ∀ k i, d.issuedCustodyPayments.get? k = some i → i.reservationID ≠ reservationID)
    (live : ∃ r, d.reservations.get? reservationID = some r ∧ r.released = false)
    (source : HoldSource d payment reservationID sponsorship)
    (built : Issuance P d payment sponsorship reservationID bearer)
    (only : d' = { d with issuedCustodyPayments := d.issuedCustodyPayments.put digest bearer })

theorem Writes.bearers (hw : Writes P h d c d') : BearerMove P d d' := by
  cases hw with
  | issue _ arguments _ _ reserved bound _ _ _ _ built absent exclusive =>
    obtain ⟨live, source⟩ := custodyReservation_ok reserved
    refine .issue bound (fun b hb => ?_) absent exclusive live source (newIssuance_ok built) rfl
    subst hb
    simp only [custodyPaymentArguments, bind_ok, exists_unit] at arguments
    obtain ⟨-, -, -, named⟩ := arguments
    rw [refuse_ok, Bool.not_eq_false, List.all_cons, Bool.and_eq_true] at named
    exact canonicalSHA256_ne_empty named.1
  | pay => exact .keep (storeRecord_proj (·.issuedCustodyPayments))
  | settle _ _ _ _ _ _ _ only =>
    subst only
    exact .keep (storeRecord_proj (·.issuedCustodyPayments))
  | releaseReservation => exact .keep (disposeLoss_proj (·.issuedCustodyPayments))
  | _ => exact .keep rfl

/-! ## Recorded actions -/

/-- What a write does to the recorded actions: nothing, a first record, or the next revision of an
unfinished one. -/
inductive ActionMove (P : Protocol) (d d' : AuthorityDocument) : Prop
  | keep (actions : d'.actions = d.actions)
  | record {id resolution} (absent : d.actions.get? id = none) (actions : d'.actions = d.actions.put id resolution)
  | advance {id existing resolution} (found : d.actions.get? id = some existing)
    (unfinished : isFinalState existing.state = false)
    (same : resolution.exactRequestDigest = existing.exactRequestDigest)
    (revision : resolution.stateRevision = existing.stateRevision + 1)
    (valid : P.validateActionResolution resolution = .ok ()) (actions : d'.actions = d.actions.put id resolution)

theorem releasePredecessor_ok {revision : UInt64} (hp : releasePredecessor d action = .ok (.inr revision)) :
    d.actions.get? action.stableActionID = none ∧ revision = 1 ∨ ∃ prior, d.actions.get? action.stableActionID =
      some prior ∧
        prior.exactRequestDigest = action.exactRequestDigest ∧ prior.state = .prepared ∧
          revision = prior.stateRevision + 1 := by
  unfold releasePredecessor at hp
  split at hp
  · rename_i absent
    cases hp
    exact .inl ⟨absent, rfl⟩
  · rename_i prior found
    simp only [peel, not_not] at hp
    obtain ⟨same, hp⟩ := hp
    split at hp
    · cases hp
    · simp only [peel, not_not] at hp
      obtain ⟨prepared, hr⟩ := hp
      exact .inr ⟨prior, found, same, prepared, (Sum.inr.inj hr).symm⟩

theorem Writes.actions (hw : Writes P h d c d') : ActionMove P d d' := by
  cases hw with
  | admitAction _ absent | admitHold _ absent | sponsor _ _ _ absent | reserve _ _ _ _ _ _ _ absent | account _ _ absent
  | schedule _ _ _ _ absent | depend _ _ absent | materializeFirst _ _ _ _ _ absent
  | materializeNext _ _ _ _ _ absent =>
    exact .record absent rfl
  | transition found _ unfinished _ valid | reject found _ unfinished valid =>
    refine .advance found unfinished ?_ ?_ valid rfl <;> rfl
  | releaseReservation _ _ predecessor _ _ _ _ _ _ _ _ _ valid =>
    rcases releasePredecessor_ok predecessor with ⟨absent, -⟩ | ⟨prior, found, same, prepared, hrevision⟩
    · apply ActionMove.record absent
      rw [recordAction, disposeLoss_proj (·.actions)]; rfl
    · refine .advance found (by rw [prepared]; rfl) same.symm hrevision valid ?_
      rw [recordAction, disposeLoss_proj (·.actions)]; rfl
  | pay _ _ _ absent => exact .record absent (storeRecord_proj (·.actions))
  | settle _ _ _ _ absent _ _ only =>
    subst only
    exact .record absent (storeRecord_proj (·.actions))
  | _ => exact .keep rfl

theorem ActionMove.persists (hm : ActionMove P d d') {id : String} (hid : d.actions.has id = true) :
    d'.actions.has id = true := by
  cases hm with
  | keep actions => rw [actions]; exact hid
  | record _ actions | advance _ _ _ _ _ actions => rw [actions]; exact Map.has_put_of_has hid

/-! ## Sponsorship admissions -/

/-- What an admission records of the action it was computed for. -/
structure Sponsors (P : Protocol) (action : AuthorizedAction) (admission : RelaySponsorshipPaymentAdmission) :
    Prop where
  own : admission.payment.stableActionID = action.stableActionID
  bound : relaySponsorshipPaymentAdmissionID P action admission.paymentRequestDigest admission.purposeDigest
    admission.reservation.reservationID = .ok admission.admissionID
  fresh : admission.expiredCustodyAuthorization = none

theorem sponsorshipAdmission_ok {purpose : RelaySponsorshipCustodyPurpose}
    {admission : RelaySponsorshipPaymentAdmission}
    (exact : exactRelaySponsorshipCustodyPurpose P action payment purpose = true)
    (hs : sponsorshipAdmission P action payment purpose = .ok admission) : Sponsors P action admission := by
  have hown : action.stableActionID = payment.stableActionID := by
    simp only [exactRelaySponsorshipCustodyPurpose, Bool.and_eq_true, beq_iff_eq] at exact
    exact exact.1.1.1.1.1.1.1.1.1.1.2
  simp only [sponsorshipAdmission, peel] at hs
  obtain ⟨_, -, _, -, _, bound, rfl⟩ := hs
  exact ⟨hown.symm, bound, rfl⟩

/-- What a write does to the sponsorship admissions: nothing, or one more with its own new action. -/
inductive AdmissionMove (P : Protocol) (d d' : AuthorityDocument) : Prop
  | keep (admissions : d'.relaySponsorshipPayments = d.relaySponsorshipPayments)
  | sponsor {action admission} (computed : Sponsors P action admission)
    (absent : d.actions.get? action.stableActionID = none) (recorded : d'.actions.has action.stableActionID = true)
    (admissions : d'.relaySponsorshipPayments = d.relaySponsorshipPayments.put admission.admissionID admission)

theorem Writes.admissions (hw : Writes P h d c d') : AdmissionMove P d d' := by
  cases hw with
  | sponsor _ exact computed absent =>
    refine .sponsor (sponsorshipAdmission_ok exact computed) absent ?_ rfl
    simp [recordAction, recordAuthorizedAction, Map.has]
  | pay => exact .keep (storeRecord_proj (·.relaySponsorshipPayments))
  | settle _ _ _ _ _ _ _ only =>
    subst only
    exact .keep (storeRecord_proj (·.relaySponsorshipPayments))
  | releaseReservation => exact .keep (disposeLoss_proj (·.relaySponsorshipPayments))
  | _ => exact .keep rfl

/-! ## The owner and the writer -/

structure SameWriter (d d' : AuthorityDocument) : Prop where
  current : d'.currentFence = d.currentFence
  generation : d'.writerGeneration = d.writerGeneration
  owner : d'.ownerID = d.ownerID
  agent : d'.agentID = d.agentID
  authority : d'.authorityID = d.authorityID

theorem Writes.sameWriter (hw : Writes P h d c d') (hc : ∀ i s t, c ≠ .acquireWriter i s t) : SameWriter d d' := by
  let writer (d : AuthorityDocument) := (d.currentFence, d.writerGeneration, d.ownerID, d.agentID, d.authorityID)
  have hsame : writer d' = writer d := by
    cases hw with
    | acquireWriter => exact absurd rfl (hc _ _ _)
    | releaseReservation => exact disposeLoss_proj writer
    | pay => exact storeRecord_proj writer
    | settle _ _ _ _ _ _ _ only =>
      subst only
      exact storeRecord_proj writer
    | _ => rfl
  simp only [writer, Prod.mk.injEq] at hsame
  obtain ⟨current, generation, owner, agent, authority⟩ := hsame
  exact ⟨current, generation, owner, agent, authority⟩

theorem Writes.owner (hw : Writes P h d c d') :
    d'.ownerID = d.ownerID ∧ d'.agentID = d.agentID ∧ d'.authorityID = d.authorityID := by
  by_cases hc : ∃ i s t, c = .acquireWriter i s t
  · obtain ⟨_, _, _, rfl⟩ := hc
    cases hw
    exact ⟨rfl, rfl, rfl⟩
  · have hs := hw.sameWriter fun i s t heq => hc ⟨i, s, t, heq⟩
    exact ⟨hs.owner, hs.agent, hs.authority⟩

end OpenFox.Authority
