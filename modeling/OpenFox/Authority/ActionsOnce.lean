/-
Recorded actions. A stable action keeps the request it was recorded with, its revision grows with
every change and a final resolution is never touched again; so its economic effect is applied by
the call that records it and by no other, except that a release may finish an action an admission
left prepared. A call under a recorded action changes nothing else: the operations answer it with
what is recorded.
-/
import OpenFox.Authority.WellFormed
import OpenFox.Authority.Sample
import OpenFox.Go.Uint64

namespace OpenFox.Authority

open OpenFox.Go OpenFox.Commerce OpenFox.Base

variable {P : Protocol} {h : Host} {d d' : AuthorityDocument} {c : Call}

/-! ## Resolutions -/

/-- `ValidateActionResolution` refuses revision zero, so a revision never wraps around. -/
def CountsRevisions (P : Protocol) : Prop :=
  ∀ resolution, P.validateActionResolution resolution = .ok () → resolution.stateRevision ≠ 0

structure Succeeds (prior now : ActionResolution) : Prop where
  request : now.exactRequestDigest = prior.exactRequestDigest
  revision : now ≠ prior → prior.stateRevision < now.stateRevision
  final : isFinalState prior.state = true → now = prior

theorem Succeeds.refl (r : ActionResolution) : Succeeds r r := ⟨rfl, fun hne => absurd rfl hne, fun _ => rfl⟩

theorem Succeeds.trans {r₁ r₂ r₃ : ActionResolution} (h₁ : Succeeds r₁ r₂) (h₂ : Succeeds r₂ r₃) : Succeeds r₁ r₃ := by
  refine ⟨h₂.request.trans h₁.request, fun hne => ?_, fun hfinal => ?_⟩
  · by_cases h₂₁ : r₂ = r₁
    · subst h₂₁; exact h₂.revision hne
    · by_cases h₃₂ : r₃ = r₂
      · subst h₃₂; exact h₁.revision h₂₁
      · exact UInt64.lt_trans (h₁.revision h₂₁) (h₂.revision h₃₂)
  · have h₂₁ := h₁.final hfinal
    subst h₂₁
    exact h₂.final hfinal

theorem next_revision {n m : UInt64} (hm : m = n + 1) (hpos : m ≠ 0) : n < m := by
  subst hm
  rw [UInt64.lt_iff_toNat_lt, toNat_succ hpos]
  exact Nat.lt_succ_self _

/-- Every recorded action is still recorded, as a successor of what it was. -/
def Advances (d d' : AuthorityDocument) : Prop :=
  ∀ id prior, d.actions.get? id = some prior → ∃ now, d'.actions.get? id = some now ∧ Succeeds prior now

theorem Advances.trans {d₁ d₂ d₃ : AuthorityDocument} (h₁ : Advances d₁ d₂) (h₂ : Advances d₂ d₃) : Advances d₁ d₃ := by
  intro id prior hid
  obtain ⟨mid, hmid, hs⟩ := h₁ id prior hid
  obtain ⟨now, hnow, hs'⟩ := h₂ id mid hmid
  exact ⟨now, hnow, hs.trans hs'⟩

theorem advances_of_eq (heq : d'.actions = d.actions) : Advances d d' :=
  fun _ prior hid => ⟨prior, by rw [heq]; exact hid, .refl prior⟩

theorem ActionMove.advances (hlaw : CountsRevisions P) (hm : ActionMove P d d') : Advances d d' := by
  intro id prior hid
  cases hm with
  | keep actions => exact advances_of_eq actions id prior hid
  | record absent actions =>
    refine ⟨prior, ?_, .refl prior⟩
    rw [actions]
    exact Map.get?_put_absent absent hid
  | @advance key existing resolution found unfinished same revision valid actions =>
    by_cases hkey : id = key
    · subst hkey
      rw [hid] at found
      cases found
      refine ⟨resolution, by rw [actions, Map.get?_put_self], same, fun _ => ?_, fun hfinal => ?_⟩
      · exact next_revision revision (hlaw resolution valid)
      · rw [unfinished] at hfinal; cases hfinal
    · exact ⟨prior, by rw [actions, Map.get?_put_ne _ _ hkey]; exact hid, .refl prior⟩

theorem expiries_actions {now : Time} (hs : Relation.ReflTransGen (Expiry now) d d') : d'.actions = d.actions := by
  induction hs with
  | refl => rfl
  | tail _ hlast ih =>
    obtain ⟨-, _, _, -, -, hl⟩ := hlast
    exact hl.actions.trans ih

variable {a : PersonalAuthority} {id : String} {e : Event}

theorem run_advances (hlaw : CountsRevisions P) (hwf : WF P a.doc) (es : List Event) :
    Advances a.doc (exec (step P) a es).doc :=
  run_related (fun _ => advances_of_eq rfl) Advances.trans
    (fun _ ⟨_, _, _, _, _, lapse⟩ => advances_of_eq lapse.actions) (fun _ hw => hw.actions.advances hlaw) hwf es

/-! ## Effects -/

/-- The stable action whose economic effect a call applies, if it has one: a reservation is created or
released, an obligation instance billed, paid or resolved, an entry accounted, the schedule or the
dependencies changed. -/
def Call.effect : Call → Option String
  | .admitAction action _ _ _ (some _) => some action.stableActionID
  | .admitRelaySponsorshipPayment action _ _ _ _ _ => some action.stableActionID
  | .reserveEngagement action _ _ _ _ => some action.stableActionID
  | .releaseReservation action _ _ _ _ _ => some action.stableActionID
  | .materializeSettlement action _ _ _ _ => some action.stableActionID
  | .applySettlementPayment action _ _ _ _ => some action.stableActionID
  | .resolveSettlementState action _ _ _ _ => some action.stableActionID
  | .recordAccounting action _ _ _ _ => some action.stableActionID
  | .admitScheduleTransition action _ _ => some action.stableActionID
  | .admitDependencyTransition action _ _ _ _ => some action.stableActionID
  | _ => none

def Call.prepares : Call → Bool
  | .admitAction .. | .admitRelaySponsorshipPayment .. => true
  | _ => false

def Call.releases : Call → Bool
  | .releaseReservation .. => true
  | _ => false

/-- What a call with an effect does with its action: record it, finish a prepared one by a release, or
nothing, but for the envelope of a resubmitted sponsorship. -/
inductive Effect (d d' : AuthorityDocument) (c : Call) (id : String) : Prop
  | record {resolution} (absent : d.actions.get? id = none) (recorded : d'.actions.get? id = some resolution)
    (state : c.prepares = true ∨ resolution.state = .terminal)
  | finish {prior resolution} (release : c.releases = true) (found : d.actions.get? id = some prior)
    (prepared : prior.state = .prepared) (recorded : d'.actions.get? id = some resolution)
    (finished : resolution.state = .terminal) (advanced : resolution ≠ prior)
  | resubmit {action} (only : d' = recordAuthorizedAction d action)

theorem Writes.effect (hw : Writes P h d c d') (hc : c.effect = some id) : Effect d d' c id := by
  cases hw with
  | admitHold _ absent | sponsor _ _ _ absent => cases hc; exact .record absent Map.get?_put_self (.inl rfl)
  | resubmitSponsorship => exact .resubmit rfl
  | reserve _ _ _ _ _ _ _ absent | account _ _ absent | schedule _ _ _ _ absent | depend _ _ absent
  | materializeFirst _ _ _ _ _ absent | materializeNext _ _ _ _ _ absent =>
    cases hc; exact .record absent Map.get?_put_self (.inr rfl)
  | @pay action _ _ _ r _ _ _ _ _ _ absent =>
    cases hc
    refine .record absent (?_ : _ = some (resolutionOf action .terminal [r.paymentEvidenceDigest] 1)) (.inr rfl)
    rw [storeRecord_proj (·.actions)]
    exact Map.get?_put_self
  | @settle action _ _ _ r _ _ _ _ _ _ _ _ _ absent _ _ only =>
    cases hc
    subst only
    refine .record absent (?_ : _ = some (resolutionOf action .terminal [r.evidenceDigest] 1)) (.inr rfl)
    rw [storeRecord_proj (·.actions)]
    exact Map.get?_put_self
  | releaseReservation _ _ predecessor =>
    cases hc
    rcases releasePredecessor_ok predecessor with ⟨absent, -⟩ | ⟨prior, found, -, prepared, -⟩
    · exact .record absent Map.get?_put_self (.inr rfl)
    · refine .finish rfl found prepared Map.get?_put_self rfl ?_
      rintro rfl
      cases prepared
  | _ => cases hc

/-- The call of an event, if it applies the effect of the action: it writes the action's record. -/
def effectOf (P : Protocol) (id : String) (a : PersonalAuthority) (e : Event) : Option Call :=
  match e.call? P a.doc with
  | .ok (some c) =>
    if c.effect = some id ∧ (step P a e).doc.actions.get? id ≠ a.doc.actions.get? id then some c else none
  | _ => none

theorem effectOf_some (he : effectOf P id a e = some c) : e.call? P a.doc = .ok (some c) ∧ c.effect = some id ∧
    (step P a e).doc.actions.get? id ≠ a.doc.actions.get? id := by
  unfold effectOf at he
  split at he
  · rename_i c' hcall
    split at he
    · rename_i hcond
      cases he
      exact ⟨hcall, hcond⟩
    · cases he
  · cases he

/-- The calls of a run that apply the effect of an action, in order. -/
def effects (P : Protocol) (id : String) : PersonalAuthority → List Event → List Call
  | _, [] => []
  | a, e :: es => (effectOf P id a e).toList ++ effects P id (step P a e) es

/-- An event that applies an effect writes what its call writes on the document expiry left. -/
theorem effectOf_applies (hwf : WF P a.doc) (he : effectOf P id a e = some c) :
    ∃ d, Relation.ReflTransGen (Expiry (e.host.clock 0)) a.doc d ∧ d.actions = a.doc.actions ∧
      Writes P e.host d c (step P a e).doc ∧ Effect d (step P a e).doc c id := by
  obtain ⟨hcall, hc, hne⟩ := effectOf_some he
  obtain ⟨d, hsteps, -, hd | ⟨c', hcall', hw⟩⟩ := step_cases hwf e
  · rw [hd, expiries_actions hsteps] at hne
    exact absurd rfl hne
  · rw [hcall] at hcall'
    cases hcall'
    exact ⟨d, hsteps, expiries_actions hsteps, hw, hw.effect hc⟩

/-- An event whose call has an effect but does not apply it leaves the document as expiry leaves it, but
for the envelope of a resubmitted sponsorship. -/
theorem effectOf_none (hwf : WF P a.doc)
    (hcall : e.call? P a.doc = .ok (some c)) (hc : c.effect = some id) (he : effectOf P id a e = none) :
    ∃ d, Relation.ReflTransGen (Expiry (e.host.clock 0)) a.doc d ∧
    ((step P a e).doc = d ∨ ∃ action, (step P a e).doc = recordAuthorizedAction d action) := by
  have hsame : (step P a e).doc.actions.get? id = a.doc.actions.get? id := by
    by_contra hne
    rw [effectOf, hcall] at he
    simp only [hc, true_and, if_pos hne] at he
    cases he
  obtain ⟨d, hsteps, -, hd | ⟨c', hcall', hw⟩⟩ := step_cases hwf e
  · exact ⟨d, hsteps, .inl hd⟩
  · rw [hcall] at hcall'
    cases hcall'
    rw [← expiries_actions hsteps] at hsame
    cases hw.effect hc with
    | record absent recorded => rw [recorded, absent] at hsame; cases hsame
    | finish _ found _ recorded _ advanced =>
      rw [recorded, found] at hsame
      exact absurd (Option.some.inj hsame) advanced
    | resubmit only => exact ⟨d, hsteps, .inr ⟨_, only⟩⟩

/-! ## Effects along a run -/

/-- From a state that has the action recorded, only one release may still apply an effect under it, and
only if the action is unfinished. -/
theorem effects_recorded (hlaw : CountsRevisions P) :
    ∀ es {a} {prior}, WF P a.doc →
      a.doc.actions.get? id = some prior →
      effects P id a es = [] ∨
        isFinalState prior.state = false ∧ ∃ c, c.releases = true ∧ effects P id a es = [c]
  | [], _, _, _, _ => .inl rfl
  | e :: es, a, prior, hwf, hid => by
    obtain ⟨now, hnow, hs⟩ := run_advances hlaw hwf [e] id prior hid
    have ih := effects_recorded hlaw es (step_wf a e hwf) hnow
    have hopen : isFinalState now.state = false → isFinalState prior.state = false := by
      intro hn
      by_contra hp
      rw [hs.final (by simpa using hp), ← Bool.not_eq_true] at hn
      exact hn (by simpa using hp)
    cases he : effectOf P id a e with
    | none =>
      simp only [effects, he, Option.toList_none, List.nil_append]
      exact ih.imp_right fun hc => ⟨hopen hc.1, hc.2⟩
    | some c =>
      obtain ⟨d, -, hactions, -, heffect⟩ := effectOf_applies hwf he
      cases heffect with
      | record absent => rw [hactions, hid] at absent; cases absent
      | resubmit only =>
        refine absurd ?_ (effectOf_some he).2.2
        rw [only]
        exact congrArg (·.get? id) hactions
      | finish release found prepared recorded finished =>
        -- The release finishes the action, and nothing is applied after that.
        cases hnow.symm.trans recorded
        rw [hactions, hid] at found
        cases found
        have hrest : effects P id (step P a e) es = [] := ih.resolve_right fun hc => by rw [finished] at hc; cases hc.1
        refine .inr ⟨by rw [prepared]; rfl, c, release, ?_⟩
        simp [effects, he, hrest]

/-- From a state that does not have the action, the call that records it applies its effect, and only a
release after a call that left it prepared may apply another. -/
theorem effects_absent (hlaw : CountsRevisions P) :
    ∀ es {a}, WF P a.doc → a.doc.actions.get? id = none →
      effects P id a es = [] ∨ (∃ c, effects P id a es = [c]) ∨
        ∃ c c', c.prepares = true ∧ c'.releases = true ∧ effects P id a es = [c, c']
  | [], _, _, _ => .inl rfl
  | e :: es, a, hwf, hid => by
    cases he : effectOf P id a e with
    | none =>
      simp only [effects, he, Option.toList_none, List.nil_append]
      cases hnow : (step P a e).doc.actions.get? id with
      | none => exact effects_absent hlaw es (step_wf a e hwf) hnow
      | some now =>
        rcases effects_recorded hlaw es (step_wf a e hwf) hnow with hnil | ⟨-, c, -, hone⟩
        · exact .inl hnil
        · exact .inr (.inl ⟨c, hone⟩)
    | some c =>
      obtain ⟨d, -, hactions, -, heffect⟩ := effectOf_applies hwf he
      cases heffect with
      | record absent recorded state =>
        have hcons : effects P id a (e :: es) = c :: effects P id (step P a e) es := by
          simp [effects, he]
        rw [hcons]
        rcases effects_recorded hlaw es (step_wf a e hwf) recorded with hnil | ⟨hunfinished, c', hrelease, hone⟩
        · rw [hnil]; exact .inr (.inl ⟨c, rfl⟩)
        · rw [hone]
          rcases state with hprepares | hterminal
          · exact .inr (.inr ⟨c, c', hprepares, hrelease, rfl⟩)
          · rw [hterminal] at hunfinished; cases hunfinished
      | finish _ found => rw [hactions, hid] at found; cases found
      | resubmit only =>
        refine absurd ?_ (effectOf_some he).2.2
        rw [only]
        exact congrArg (·.get? id) hactions

/-- In every run from a reachable state, for every stable action: its request never changes, its revision
grows with every change and a final resolution stays. The call that records it applies its effect, if it
has one; under a recorded action only one release of an unfinished one may apply an effect. A call that
applies the effect writes just what it writes on the document expiry left, and one that does not leaves
that document as it is, but for the envelope of a resubmitted sponsorship. -/
theorem action_takes_effect_once (hlaw : CountsRevisions P) {a : PersonalAuthority} (ha : Reachable P a) (id : String) :
    (∀ prior, a.doc.actions.get? id = some prior → ∀ es,
      (∃ now, (exec (step P) a es).doc.actions.get? id = some now ∧
        now.exactRequestDigest = prior.exactRequestDigest ∧
        (now ≠ prior → prior.stateRevision < now.stateRevision) ∧
        (prior.state = .terminal ∨ prior.state = .rejected ∨ prior.state = .conflict → now = prior)) ∧
      (effects P id a es = [] ∨
        isFinalState prior.state = false ∧ ∃ c, c.releases = true ∧ effects P id a es = [c])) ∧
    (a.doc.actions.get? id = none → ∀ es,
      effects P id a es = [] ∨ (∃ c, effects P id a es = [c]) ∨
        ∃ c c', c.prepares = true ∧ c'.releases = true ∧ effects P id a es = [c, c']) ∧
    (∀ e c, e.call? P a.doc = .ok (some c) → c.effect = some id →
      ∃ d, Relation.ReflTransGen (Expiry (e.host.clock 0)) a.doc d ∧
        if (step P a e).doc.actions.get? id ≠ a.doc.actions.get? id then
          effectOf P id a e = some c ∧ Writes P e.host d c (step P a e).doc
        else (step P a e).doc = d ∨ ∃ action, (step P a e).doc = recordAuthorizedAction d action) := by
  have hwf := reachable_wf ha
  refine ⟨fun prior hid es => ⟨?_, effects_recorded hlaw es hwf hid⟩, fun hid es => effects_absent hlaw es hwf hid,
    fun e c hcall hc => ?_⟩
  · obtain ⟨now, hnow, hs⟩ := run_advances hlaw hwf es id prior hid
    refine ⟨now, hnow, hs.request, hs.revision, fun hfinal => hs.final ?_⟩
    rcases hfinal with hf | hf | hf <;> rw [hf] <;> rfl
  · by_cases hchanged : (step P a e).doc.actions.get? id ≠ a.doc.actions.get? id
    · have he : effectOf P id a e = some c := by
        rw [effectOf, hcall]
        exact if_pos ⟨hc, hchanged⟩
      obtain ⟨d, hsteps, -, hw, -⟩ := effectOf_applies hwf he
      exact ⟨d, hsteps, by rw [if_pos hchanged]; exact ⟨he, hw⟩⟩
    · have he : effectOf P id a e = none := by
        rw [effectOf, hcall]
        exact if_neg fun hboth => hchanged hboth.2
      obtain ⟨d, hsteps, hd⟩ := effectOf_none hwf hcall hc he
      exact ⟨d, hsteps, by rw [if_neg hchanged]; exact hd⟩

theorem sample_countsRevisions : CountsRevisions Sample.protocol := by
  intro resolution hv hzero
  simp only [Sample.protocol, if_pos hzero] at hv
  cases hv

open Sample in
/-- A payment submitted twice, and again after a new writer took over, is applied once. -/
theorem repeated_payment_applied_once :
    let pay := payService "pay-first" instanceDigest2
    let run := billedRun ++ [pay, pay, acquire, pay]
    (effects protocol "pay-first" Sample.authority run).length = 1 ∧
      (effects protocol "pay-first" Sample.authority run = [] ∨
        (∃ c, effects protocol "pay-first" Sample.authority run = [c]) ∨
        ∃ c c', c.prepares = true ∧ c'.releases = true ∧
          effects protocol "pay-first" Sample.authority run = [c, c']) :=
  ⟨by decide +kernel, (action_takes_effect_once sample_countsRevisions
    ⟨"owner", "alice", "authority", limits, [], rfl⟩ "pay-first").2.1 rfl _⟩

open Sample in
/-- A payment whose action was first admitted without it is answered with the prepared record: the call
succeeds, and the payment is applied in no step. -/
theorem admitted_payment_not_applied :
    let admitAction := call 130 (.admitAction (action "billing.resolve" "pay-first") ∅ "settle" fence none)
    let pay := payService "pay-first" instanceDigest2
    let a := exec (step protocol) authority (billedRun ++ [admitAction])
    (perform protocol a pay).2 = .ok () ∧
      (effects protocol "pay-first" authority (billedRun ++ [admitAction, pay])).length = 0 ∧
      ((step protocol a pay).doc.settlementLedger.get? instanceDigest2).map (·.state.state) =
        some .pending := by
  decide +kernel

end OpenFox.Authority
