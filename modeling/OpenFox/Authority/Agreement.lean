/-
What the authority reads off a retained agreement: the local payment exposure and the reservation
that covers it, evidence coverage and the full-authorization marker, validity windows, successor
bodies and the leaf of a lineage.
-/
import OpenFox.Authority.Document

namespace OpenFox.Authority

open OpenFox.Go OpenFox.Commerce

variable (P : Protocol) (record : EngagementRecord) (localAgentID : String) (e : AuthorizationEvidence)

/-! ## Exposure -/

structure AgreementPaymentExposure where
  asset : Option AssetIdentity := none
  maximumLoss : Int := 0
deriving DecidableEq

def maximumAgreementObligationAmount (obligation : AgreementObligation) (amount : AgreementAmount) : AgreementAmount :=
  match obligation.billingTerms with
  | some terms => terms.maximumAggregateAmount
  | none => amount

def addExposure (exposure : AgreementPaymentExposure) (obligation : AgreementObligation) :
    Except String AgreementPaymentExposure :=
  match obligation.amount with
  | none => .ok exposure
  | some amount =>
    if obligation.obligorAgentID ≠ localAgentID then .ok exposure
    else
      let amount := maximumAgreementObligationAmount obligation amount
      if amount.amountAtomic = "" then .error "outgoing decimal amount has no owner-pinned atomic conversion"
      else match parseBigInt amount.amountAtomic with
      | none => .error "outgoing payment has an invalid atomic amount"
      | some atomic =>
        if atomic < 0 then .error "outgoing payment has an invalid atomic amount"
        else match exposure.asset with
        | none => .ok { asset := some amount.asset, maximumLoss := exposure.maximumLoss + atomic }
        | some asset =>
          if asset ≠ amount.asset then .error "Agreement has multiple incomparable outgoing assets"
          else .ok { asset := some asset, maximumLoss := exposure.maximumLoss + atomic }

def localAgreementPaymentExposure (body : AgentAgreementBody) (localAgentID : String) :
    Except String AgreementPaymentExposure :=
  body.obligations.foldlM (addExposure localAgentID) {}

def reservationExactlyCoversAgreementPayment (reservation : ExposureReservation) (record : EngagementRecord)
    (exposure : AgreementPaymentExposure) : Bool :=
  exposure.asset.isSome && 0 < exposure.maximumLoss && isUint64 exposure.maximumLoss &&
    reservation.agreementDigest == record.agreementDigest && !reservation.released &&
    reservation.asset == exposure.asset &&
    (reservation.maximumLossAtomic.toNat : Int) == exposure.maximumLoss &&
    exposure.maximumLoss ≤ reservation.spendAtomic.toNat

/-- The exposure check shared by signing and reserving: no exposure, or an exactly covering hold. -/
def exposureCovered (agentID : String) (reservation : Option ExposureReservation) : Bool :=
  match localAgreementPaymentExposure record.body agentID with
  | .error _ => false
  | .ok exposure => !(0 < exposure.maximumLoss) ||
      match reservation with
      | some r => reservationExactlyCoversAgreementPayment r record exposure
      | none => false

/-! ## Evidence and the full-authorization marker -/

def exactRetainedAgreementBody : Bool :=
  match P.agreementBodyDigest record.body with
  | .ok digest => digest == record.agreementDigest
  | .error _ => false

def retainedAgreementAuthorizationSetDigest : Except String String := do
  refuse (exactRetainedAgreementBody P record = false) "Agreement body no longer matches its retained digest"
  P.digest "tos.openfox.agreement-authorization-evidence-set.v1"
    (.evidenceSet record.agreementDigest record.agreement.authorizationEvidence)

def isAgentSignatureOf (agentID : String) (e : AuthorizationEvidence) : Bool :=
  e.evidenceProfileURI == P.evidenceProfileAgentSignature && e.authoritySubject.subjectKind == "agent" &&
    e.authoritySubject.subjectIdentifier == agentID

/-- The predicate of the body that one predicate ID of the evidence names, with its target. -/
def predicateMatches (id target : String) (p : AuthorizationPredicate) : Bool :=
  p.predicateID == id && p.authoritySubject == e.authoritySubject && p.evidenceProfileURI == e.evidenceProfileURI &&
    p.evidenceProfileVersion == e.evidenceProfileVersion && p.evidenceProfileDigest == e.evidenceProfileDigest &&
    p.evidenceTargetProjectionDigest == target

structure Coverage where
  covered : List String := []
  localAgentSignature : Bool := false
deriving DecidableEq

def Coverage.visitPredicate (c : Coverage) (idTarget : String × String) : Option Coverage :=
  if !c.covered.contains idTarget.1 &&
      record.body.authorizationPredicates.any (predicateMatches e idTarget.1 idTarget.2) then
    some { covered := idTarget.1 :: c.covered
           localAgentSignature := c.localAgentSignature || isAgentSignatureOf P localAgentID e }
  else none

def evidenceBound : Bool :=
  e.agreementID == record.body.agreementID && e.agreementVersion == record.body.version &&
    e.agreementBodyDigest == record.agreementDigest && !e.predicateIDs.isEmpty &&
    e.predicateIDs.length == e.evidenceTargetProjectionDigests.length

def Coverage.visitEvidence (c : Coverage) (e : AuthorizationEvidence) : Option Coverage :=
  if evidenceBound record e then
    (e.predicateIDs.zip e.evidenceTargetProjectionDigests).foldlM (visitPredicate P record localAgentID e) c
  else none

def retainedAgreementFullyAuthorized : Bool :=
  localAgentID != "" && canonicalSHA256 record.fullyAuthorizedEvidenceSetDigest &&
    exactRetainedAgreementBody P record &&
    (match retainedAgreementAuthorizationSetDigest P record with
      | .ok digest => digest == record.fullyAuthorizedEvidenceSetDigest
      | .error _ => false) &&
    match record.agreement.authorizationEvidence.foldlM (Coverage.visitEvidence P record localAgentID) {} with
    | some c => c.localAgentSignature && c.covered.length == record.body.authorizationPredicates.length
    | none => false

def evidenceSenderMatches (subject : AuthoritySubject) (senderAgentID : String) : Bool :=
  if subject.subjectKind = "agent" then subject.subjectIdentifier == senderAgentID
  else subject.representedAgentID == senderAgentID

def evidenceSortKey : String :=
  e.authoritySubject.subjectKind ++ "\x00" ++ e.authoritySubject.subjectNamespace ++ "\x00" ++
    e.authoritySubject.subjectIdentifier ++ "\x00" ++ e.evidenceProfileURI

/-- `sort.Slice` leaves the order of equal keys open: it is the order the call hands in. -/
def sortEvidence (order : RangeOrder) (l : List AuthorizationEvidence) : List AuthorizationEvidence :=
  (order.order 3 l).insertionSort fun a b => evidenceSortKey a ≤ evidenceSortKey b

/-! ## Validity windows and successors -/

/-- The predicate a `map[string]predicate` filled in body order holds for an ID: the last one. -/
def predicateByID (body : AgentAgreementBody) (id : String) : Option AuthorizationPredicate :=
  body.authorizationPredicates.reverse.find? fun p => p.predicateID == id

def acceptanceWithinValidity (body : AgentAgreementBody) (e : AuthorizationEvidence) : Except String Unit :=
  if e.evidenceProfileURI ≠ P.evidenceProfileAgentSignature ∧
      e.evidenceProfileURI ≠ P.evidenceProfileAuthoritySignature then .ok ()
  else match P.decodeAcceptanceExpiry e.evidence with
  | .error _ => .error "Agreement acceptance exceeds the body validity window"
  | .ok expires => do
    refuse (expires > body.expiresAtUnix) "Agreement acceptance exceeds the body validity window"
    refuse (e.predicateIDs.any fun id =>
        match predicateByID body id with
        | some p => expires > p.expiresAtUnix
        | none => true)
      "Agreement acceptance exceeds its predicate validity window"

def validateAgreementAuthorizationTime (agreement : AgentAgreement) (now : Time) : Except String Unit := do
  refuse (now.isZero = true) "Agreement authorization time is unavailable"
  refuse (now < Time.ofUnix agreement.body.validFromUnix ∨ ¬ now < Time.ofUnix agreement.body.expiresAtUnix)
    "Agreement body is outside its authorization validity window"
  refuse (agreement.body.authorizationPredicates.any fun p =>
      (p.validFromUnix != 0 && now < Time.ofUnix p.validFromUnix) || !(now < Time.ofUnix p.expiresAtUnix))
    "Agreement authorization predicate is outside its validity window"
  agreement.authorizationEvidence.forM (acceptanceWithinValidity P agreement.body)

def validateAgreementSuccessor (predecessor successor : AgentAgreementBody) : Except String Unit := do
  (P.validateAgreementBody predecessor).mapError ("agreement predecessor body: " ++ ·)
  (P.validateAgreementBody successor).mapError ("agreement successor body: " ++ ·)
  refuse (successor.agreementID ≠ predecessor.agreementID) "agreement successor changes Agreement ID"
  refuse (predecessor.version = 0 - 1 ∨ successor.version ≠ predecessor.version + 1)
    "agreement successor version is not consecutive"
  let digest ← P.agreementBodyDigest predecessor
  refuse (successor.predecessorAgreementDigest ≠ digest) "agreement successor does not bind the exact predecessor"
  refuse (successor.networkContext ≠ predecessor.networkContext) "agreement successor changes network context"

/-- Whether `candidate` is the only record of its agreement ID that no other record succeeds. -/
def uniqueUnforkedAgreementLeaf (candidate : EngagementRecord) (records : List EngagementRecord) : Bool :=
  let lineage := records.filter fun r => r.body.agreementID == candidate.body.agreementID
  let successors := lineage.map fun r => r.body.predecessorAgreementDigest
  let leaves := lineage.filter fun r => !(successors.filter (· != "")).contains r.agreementDigest
  candidate.body.agreementID != "" && candidate.agreementDigest != "" && !candidate.negotiationAmbiguous &&
    !lineage.any (·.negotiationAmbiguous) && leaves.map (·.agreementDigest) == [candidate.agreementDigest]

/-! ## Eligibility and paid-demand reservations -/

def hasLocalAgentSignaturePredicate (agentID : String) : Bool :=
  record.body.authorizationPredicates.any fun p =>
    p.authoritySubject.subjectKind == "agent" && p.authoritySubject.subjectIdentifier == agentID &&
      p.evidenceProfileURI == P.evidenceProfileAgentSignature

def engagementEligibleForReservation : Bool :=
  if record.negotiationAmbiguous then false
  else if record.state = .agreed then true
  else if (record.state ≠ .proposed ∧ record.state ≠ .authorizing) ∨ record.reservationID ≠ "" then false
  else record.body.authorizationPredicates.any fun p =>
    let subject := p.authoritySubject
    let agent := subject.subjectKind == "agent" && subject.subjectIdentifier == localAgentID
    let wallet := subject.subjectKind == "wallet" && subject.representedAgentID == localAgentID
    (agent && p.evidenceProfileURI == P.evidenceProfileAgentSignature && p.evidenceProfileVersion == 1 &&
      p.evidenceProfileDigest == P.agentSignatureProfileDigest) ||
    ((agent || wallet) && p.evidenceProfileURI == P.evidenceProfilePaidDemandQuote && p.evidenceProfileVersion == 1 &&
      p.evidenceProfileDigest == P.paidDemandQuoteProfileDigest)

def paidDemandBuyerCandidate : Bool :=
  !record.negotiationAmbiguous &&
    (record.state == .proposed || record.state == .authorizing || record.state == .reserved ||
      record.state == .fundingPending || record.state == .ready) &&
    record.body.authorizationPredicates.any fun p =>
      p.authoritySubject.subjectKind == "wallet" && p.authoritySubject.representedAgentID == localAgentID &&
        p.evidenceProfileURI == P.evidenceProfilePaidDemandQuote && p.evidenceProfileVersion == 1 &&
        p.evidenceProfileDigest == P.paidDemandQuoteProfileDigest

structure PaidDemandTotal where
  total : UInt64 := 0
  asset : Option AssetIdentity := none

def PaidDemandTotal.visit (buyerAgentID : String) (t : PaidDemandTotal) (o : AgreementObligation) :
    Except String PaidDemandTotal :=
  match o.amount with
  | none => .ok t
  | some amount =>
    if o.obligorAgentID ≠ buyerAgentID ∨ o.settlementAdapterURI ≠ P.paidDemandAdapterURI then .ok t
    else do
      refuse (P.validateAssetIdentity amount.asset ≠ .ok ()) "Paid Demand buyer exposure has an invalid asset"
      refuse (t.asset.isSome ∧ t.asset ≠ some amount.asset) "Paid Demand Agreement mixes buyer payment assets"
      match parseUint amount.amountAtomic with
      | none => .error "Paid Demand buyer exposure is invalid or exceeds uint64"
      | some n =>
        refuse (n = 0 ∨ t.total > (0 - 1) - n) "Paid Demand buyer exposure is invalid or exceeds uint64"
        pure { total := t.total + n, asset := some amount.asset }

def paidDemandBuyerReservation (buyerAgentID : String) : Except String ExposureReservation := do
  refuse (canonicalSHA256 record.agreementDigest = false ∨ buyerAgentID = "")
    "Paid Demand buyer exposure has an invalid Agreement binding"
  let t ← record.body.obligations.foldlM (PaidDemandTotal.visit P buyerAgentID) {}
  refuse (t.total = 0) "Paid Demand Agreement has no buyer payment exposure"
  pure { reservationID := "reservation:" ++ String.ofList (record.agreementDigest.toList.drop 7)
         agreementDigest := record.agreementDigest, asset := t.asset, spendAtomic := t.total
         lockedCapitalAtomic := t.total, maximumLossAtomic := t.total }

def paidDemandBuyerPaymentObligation (buyerAgentID obligationID : String) : Bool :=
  buyerAgentID != "" && obligationID != "" &&
    record.body.obligations.any fun o => o.obligationID == obligationID && o.amount.isSome &&
      o.obligorAgentID == buyerAgentID && o.settlementAdapterURI == P.paidDemandAdapterURI

end OpenFox.Authority
