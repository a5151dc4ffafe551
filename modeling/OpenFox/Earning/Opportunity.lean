/-
`OpportunityJournal` and the part of `Collect` that fills it: verified messages are stored before a carrier's cursor
moves past them. A message is accepted if its carrier has sent no other withdrawal of the same intent. Withdrawals are
kept by the intent they name: others decide nothing about an intent that no other agent names.
-/
import OpenFox.Base.Run
import OpenFox.Earning.OutcomeSample

namespace OpenFox.Earning

open OpenFox.Go OpenFox.Base
open OpenFox.Authority (canonicalSHA256)

/-! ## The journal -/

/-- `observedOpportunity` and `observedWithdrawal`. A cursor `seq:n` is its number, and any other text is 0. -/
structure Observed (M : Type) where
  message : M
  digest : String
  carrierID : String
  cursor : UInt64
  observedUnix : UInt64

/-- What is taken from the protocol's library and the encoder, for intents `I` and withdrawals `W`. -/
structure IntentProtocol (I W : Type) where
  intentBodyDigest : I → Except String String
  intentWithdrawalDigest : W → Except String String
  intentDigest : W → String
  oversized : Observed I → Bool
  oversizedWithdrawal : Observed W → Bool
  /-- `VerifyIntent` at a time, and `matchesQuery`. -/
  verifyIntent : I → UInt64 → Bool
  verifyIntentWithdrawal : W → UInt64 → Bool
  issuerAgentID : I ⊕ W → String

/-- Files by digest and carrier; `none` is one that was created and not written. -/
abbrev Files (M : Type) := Map (String × String) (Option (Observed M))

structure OpportunityJournal (I W : Type) where
  maxEntries : Nat
  cursors : Map String UInt64 := ∅
  observations : Files I := ∅
  withdrawals : Files W := ∅

variable {I W : Type} (P : IntentProtocol I W) (s : OpportunityJournal I W)

def OpportunityJournal.reached (carrierID : String) (cursor : UInt64) : Bool :=
  (s.cursors.get? carrierID).any (cursor ≤ ·)

def OpportunityJournal.isWithdrawn (intentDigest : String) : Bool :=
  canonicalSHA256 intentDigest && s.withdrawals.any fun key _ => key.1 = intentDigest

/-- A call of `Record`, with the digest it is given, or of `RecordWithdrawal`; a zero time is `none`. -/
structure JournalCall (I W : Type) where
  carrierID : String
  cursor : UInt64
  observed : Option UInt64
  message : I × String ⊕ W

/-- What a call writes: a file, which is created and then written, and after it the cursor. -/
structure Plan (I W : Type) where
  observation : Option ((String × String) × Observed I) := none
  withdrawal : Option ((String × String) × Observed W) := none
  cursor : Option (String × UInt64) := none

def JournalCall.plan : JournalCall I W → Except String (Plan I W)
  | ⟨carrierID, cursor, observed, .inl (intent, digest)⟩ => do
    refuse (carrierID = "" ∨ canonicalSHA256 digest = false ∨ cursor = 0 ∨ observed = none)
      "opportunity observation is invalid"
    refuse (P.intentBodyDigest intent ≠ .ok digest) "opportunity observation digest mismatch"
    if s.reached carrierID cursor = true then pure {}
    else
      let observation : Observed I := ⟨intent, digest, carrierID, cursor, observed.getD 0⟩
      refuse (P.oversized observation = true) "opportunity observation is oversized"
      if s.observations.has (digest, carrierID) = true then pure { cursor := (carrierID, cursor) }
      else
        refuse (s.observations.entries.length ≥ s.maxEntries) "opportunity journal capacity reached"
        pure { observation := some ((digest, carrierID), observation), cursor := (carrierID, cursor) }
  | ⟨carrierID, cursor, observed, .inr withdrawal⟩ => do
    refuse (carrierID = "" ∨ cursor = 0 ∨ observed = none ∨ canonicalSHA256 (P.intentDigest withdrawal) = false)
      "opportunity withdrawal observation is invalid"
    let digest ← P.intentWithdrawalDigest withdrawal
    if s.reached carrierID cursor = true then pure {}
    else
      let observation : Observed W := ⟨withdrawal, digest, carrierID, cursor, observed.getD 0⟩
      refuse (P.oversizedWithdrawal observation = true) "opportunity withdrawal observation is oversized"
      match s.withdrawals.get? (P.intentDigest withdrawal, carrierID) with
      | some file =>
        refuse (∀ prior ∈ file, prior.digest ≠ digest ∨ prior.carrierID ≠ carrierID ∨ prior.cursor ≠ cursor)
          "opportunity withdrawal observation conflicts"
        pure { cursor := (carrierID, cursor) }
      | none =>
        pure { withdrawal := some ((P.intentDigest withdrawal, carrierID), observation), cursor := (carrierID, cursor) }

/-- Where a crash cuts a call off: its file is created, or it is written too. -/
inductive Crash
  | created
  | written
deriving DecidableEq

def putFile {M : Type} (crash : Option Crash) (files : Files M) : Option ((String × String) × Observed M) → Files M
  | none => files
  | some (key, o) => files.put key (if crash = some .created then none else some o)

def JournalCall.after (call : JournalCall I W) (crash : Option Crash) : OpportunityJournal I W :=
  match call.plan P s with
  | .error _ => s
  | .ok plan =>
    { s with
      observations := putFile crash s.observations plan.observation
      withdrawals := putFile crash s.withdrawals plan.withdrawal
      cursors := if crash.isSome then s.cursors else plan.cursor.elim s.cursors fun c => s.cursors.put c.1 c.2 }

/-! ## The collector -/

/-- The journal and what a call of `Collect` has gathered. -/
structure Collection (I W : Type) where
  journal : OpportunityJournal I W
  now : UInt64 := 0
  withdrawn : List String := []
  byDigest : List String := []

/-- A call begins, or takes up the next result of a carrier that answers in its bounds; the empty cursor is `none`. -/
inductive CollectEvent (I W : Type)
  | begin (now : UInt64)
  | result (carrierID : String) (cursor : Option UInt64) (message : I ⊕ W)

variable (c : Collection I W)

def Collection.record (carrierID : String) (cursor : Option UInt64) (message : I × String ⊕ W) :
    OpportunityJournal I W :=
  cursor.elim c.journal fun q => JournalCall.after P c.journal ⟨carrierID, q, some c.now, message⟩ none

def Collection.step : CollectEvent I W → Collection I W
  | .begin now => { journal := c.journal, now }
  | .result carrierID cursor (.inr withdrawal) =>
    if P.verifyIntentWithdrawal withdrawal c.now = false then c
    else { c with
      withdrawn := P.intentDigest withdrawal :: c.withdrawn
      journal := c.record P carrierID cursor (.inr withdrawal) }
  | .result carrierID cursor (.inl intent) =>
    match P.verifyIntent intent c.now, P.intentBodyDigest intent with
    | true, .ok digest => { c with
      journal := c.record P carrierID cursor (.inl (intent, digest))
      byDigest := if cursor.all fun q =>
        (JournalCall.plan P c.journal ⟨carrierID, q, c.now, .inl (intent, digest)⟩).isOk
        then digest :: c.byDigest else c.byDigest }
    | _, _ => c

def Collection.excludes (digest : String) : Bool :=
  c.withdrawn.contains digest || c.journal.isWithdrawn digest

/-! ## Conditions on histories -/

/-- A withdrawal is the only one its carrier sends of an intent. -/
def Sole (sole : String × String → String × UInt64) (call : JournalCall I W) : Prop :=
  ∀ w digest, call.message = .inr w → P.intentWithdrawalDigest w = .ok digest →
    sole (P.intentDigest w, call.carrierID) = (digest, call.cursor)

/-- A message with a carrier, a cursor, a time and canonical digests, whose observation is not larger than 2 MiB. -/
def JournalCall.Valid : JournalCall I W → Prop
  | ⟨carrierID, cursor, observed, .inl (intent, digest)⟩ =>
    carrierID ≠ "" ∧ cursor ≠ 0 ∧ observed ≠ none ∧ canonicalSHA256 digest = true ∧
      P.intentBodyDigest intent = .ok digest ∧
      P.oversized ⟨intent, digest, carrierID, cursor, observed.getD 0⟩ = false
  | ⟨carrierID, cursor, observed, .inr withdrawal⟩ =>
    carrierID ≠ "" ∧ cursor ≠ 0 ∧ observed ≠ none ∧ canonicalSHA256 (P.intentDigest withdrawal) = true ∧
      ∃ digest, P.intentWithdrawalDigest withdrawal = .ok digest ∧
        P.oversizedWithdrawal ⟨withdrawal, digest, carrierID, cursor, observed.getD 0⟩ = false

/-- A valid message above the carrier's cursor, and for an intent there is room. -/
def Next (call : JournalCall I W) : Prop :=
  call.Valid P ∧ s.reached call.carrierID call.cursor = false ∧
    (call.message.isLeft = true → s.observations.entries.length < s.maxEntries)

/-- What is known of an intent: the call's time, and whether a withdrawal is in memory and in the journal. -/
@[simp] def Collection.notice (digest : String) : UInt64 × Bool × Bool :=
  (c.now, c.withdrawn.contains digest, c.journal.isWithdrawn digest)

/-- A verified withdrawal of the intent is kept, and in the journal if it has a cursor. -/
@[simp] def noticeStep (digest : String) (n : UInt64 × Bool × Bool) : CollectEvent I W → UInt64 × Bool × Bool
  | .begin now => (now, false, n.2.2)
  | .result _ cursor (.inr w) =>
    if P.verifyIntentWithdrawal w n.1 = true ∧ P.intentDigest w = digest then (n.1, true, n.2.2 || cursor.isSome) else n
  | .result _ _ (.inl _) => n

@[simp] def CollectEvent.ofAgent (agent : String) : CollectEvent I W → Bool
  | .begin _ => true
  | .result _ _ message => P.issuerAgentID message = agent

/-- A verified withdrawal of the intent is the agent's, and if it has a cursor it is valid and above the carrier's, or
the journal has one already. -/
def Own (agent digest : String) (c : Collection I W) : CollectEvent I W → Prop
  | .result carrierID cursor (.inr w) => P.verifyIntentWithdrawal w c.now = true ∧ P.intentDigest w = digest →
    P.issuerAgentID (.inr w) = agent ∧ ∀ q ∈ cursor, c.journal.isWithdrawn digest = true ∨
      JournalCall.Valid P ⟨carrierID, q, some c.now, .inr w⟩ ∧ c.journal.reached carrierID q = false
  | _ => True

/-! ## The next message -/

variable {P s c} {call : JournalCall I W} {crash : Option Crash} {sole : String × String → String × UInt64}
  {agent d : String}

theorem plan_withdrawal {plan : Plan I W} {key : String × String} {o : Observed W} (h : call.plan P s = .ok plan)
    (ho : plan.withdrawal = some (key, o)) :
    ∃ w, call.message = .inr w ∧ key = (P.intentDigest w, call.carrierID) ∧ o.carrierID = call.carrierID ∧
      o.cursor = call.cursor ∧ P.intentWithdrawalDigest w = .ok o.digest := by
  obtain ⟨carrierID, cursor, observed, ⟨intent, digest⟩ | withdrawal⟩ := call <;>
    simp only [JournalCall.plan, peel, passed, ite_eq_iff] at h
  · obtain ⟨-, -, ⟨-, rfl⟩ | ⟨-, -, ⟨-, rfl⟩ | ⟨-, -, rfl⟩⟩⟩ := h <;> cases ho
  · obtain ⟨-, digest, hdigest, ⟨-, rfl⟩ | ⟨-, -, h⟩⟩ := h
    · cases ho
    · split at h <;> simp only [peel] at h
      · rw [← h.2] at ho; cases ho
      · rw [← h] at ho
        cases ho
        exact ⟨_, rfl, rfl, rfl, rfl, hdigest⟩

/-- Every withdrawal is whole and the one its carrier sends. -/
def Whole (sole : String × String → String × UInt64) (s : OpportunityJournal I W) : Prop :=
  ∀ key file, s.withdrawals.get? key = some file →
    ∃ o, file = some o ∧ o.carrierID = key.2 ∧ sole key = (o.digest, o.cursor)

theorem Whole.after (h : Whole sole s) (hcall : Sole P sole call) (hcrash : crash ≠ some .created) :
    Whole sole (call.after P s crash) := by
  unfold JournalCall.after
  split
  · exact h
  · rename_i plan hplan
    intro key file hfile
    dsimp only at hfile
    unfold putFile at hfile
    split at hfile
    · exact h key file hfile
    · rename_i k o ho
      rw [if_neg hcrash] at hfile
      obtain ⟨rfl, rfl⟩ | hfile := Map.put_cases hfile
      · obtain ⟨w, hw, rfl, hcarrier, hcursor, hdigest⟩ := plan_withdrawal hplan ho
        exact ⟨o, rfl, hcarrier, hcursor ▸ hcall w _ hw hdigest⟩
      · exact h key file hfile

/-- If each carrier sends one withdrawal of an intent and no call crashes between creating a file and writing it, the
next message is accepted and the cursor moves to it. -/
theorem next_message_accepted (P : IntentProtocol I W) (maxEntries : Nat) (sole : String × String → String × UInt64)
    {es : List (JournalCall I W × Option Crash)} (hes : ∀ e ∈ es, Sole P sole e.1 ∧ e.2 ≠ some .created) :
    let s := exec (fun s e => e.1.after P s e.2) { maxEntries } es
    ∀ call, Sole P sole call → Next P s call →
      (call.plan P s).isOk = true ∧ (call.after P s none).cursors.get? call.carrierID = some call.cursor := by
  rintro s call hcall ⟨hvalid, hreached, hroom⟩
  have hwhole : Whole sole s := invariant_along (fun _ _ h he => h.after he.1 he.2) (fun _ _ h => Map.of_empty h)
    (along_of_forall hes)
  suffices hplan : ∃ plan, call.plan P s = .ok plan ∧ plan.cursor = some (call.carrierID, call.cursor) by
    obtain ⟨plan, hplan, hto⟩ := hplan
    unfold JournalCall.after
    rw [hplan]
    dsimp only
    rw [hto]
    exact ⟨rfl, Map.get?_put_self⟩
  obtain ⟨carrierID, cursor, observed, ⟨intent, digest⟩ | withdrawal⟩ := call
  · obtain ⟨hcarrier, hcursor, htime, hcanonical, hdigest, hsize⟩ := hvalid
    cases hhas : s.observations.has (digest, carrierID) <;> simp [JournalCall.plan, refuse, runs, *, (hroom rfl).not_ge]
  · obtain ⟨hcarrier, hcursor, htime, hcanonical, digest, hdigest, hsize⟩ := hvalid
    cases hfile : s.withdrawals.get? (P.intentDigest withdrawal, carrierID) with
    | none => simp [JournalCall.plan, refuse, runs, *]
    | some file =>
      -- the file is from the same message, before a crash
      obtain ⟨o, rfl, hsame, hsole⟩ := hwhole _ _ hfile
      have hprior := hsole.symm.trans (hcall _ _ rfl hdigest)
      simp [JournalCall.plan, refuse, runs, *, Prod.mk.inj hprior]

/-- Intents are their digests; a withdrawal has an issuer, a digest and the digest of an intent. -/
def Sample.intents : IntentProtocol String (String × String × String) where
  intentBodyDigest i := .ok i
  intentWithdrawalDigest w := .ok w.2.1
  intentDigest w := w.2.2
  oversized _ := false
  oversizedWithdrawal _ := false
  verifyIntent _ _ := true
  verifyIntentWithdrawal _ _ := true
  issuerAgentID := Sum.elim (fun _ => "A") (·.1)

def Sample.withdrawal (cursor : UInt64) (digest : String) : JournalCall String (String × String × String) :=
  ⟨"c", cursor, some 9, .inr ("A", digest, Sample.digest 'a')⟩

open Sample

theorem valid_withdrawal {carrierID : String} {cursor time : UInt64} {w : String × String × String}
    (hcarrier : carrierID ≠ "") (hcursor : cursor ≠ 0) (hdigest : canonicalSHA256 w.2.2 = true) :
    JournalCall.Valid intents ⟨carrierID, cursor, some time, .inr w⟩ :=
  ⟨hcarrier, hcursor, Option.some_ne_none _, hdigest, w.2.1, rfl, rfl⟩

/-- A withdrawal is delivered again after a crash that came before the cursor moved. -/
theorem redelivered_withdrawal_accepted :
    let s := exec (fun s e => e.1.after intents s e.2) { maxEntries := 5 } [(withdrawal 1 "w", some .written)]
    ((withdrawal 1 "w").after intents s none).cursors.get? "c" = some 1 :=
  have hsole : Sole intents (fun _ => ("w", 1)) (withdrawal 1 "w") := by simp [Sole, withdrawal, intents]
  (next_message_accepted intents 5 (fun _ => ("w", 1)) (by simpa using hsole) _ hsole
    ⟨valid_withdrawal (by decide) (by decide) (by decide +kernel), by decide +kernel, by decide⟩).2

/-- A second withdrawal of an intent is refused and the cursor stays. -/
theorem second_withdrawal_refused :
    let s := exec (fun s e => e.1.after intents s e.2) { maxEntries := 5 } [(withdrawal 1 "w", none)]
    Next intents s (withdrawal 2 "v") ∧
      ((withdrawal 2 "v").plan intents s).isOk = false ∧
      ((withdrawal 2 "v").after intents s none).cursors.get? "c" = some 1 :=
  ⟨⟨valid_withdrawal (by decide) (by decide) (by decide +kernel), by decide +kernel, by decide⟩, by decide +kernel,
    by decide +kernel⟩

/-! ## Withdrawals of others -/

theorem isWithdrawn_record {carrierID : String} {cursor : Option UInt64} {message : I × String ⊕ W}
    (h : ∀ w, message = .inr w → P.intentDigest w ≠ d) :
    (c.record P carrierID cursor message).isWithdrawn d = c.journal.isWithdrawn d := by
  cases cursor with
  | none => rfl
  | some q =>
    dsimp only [Collection.record, Option.elim, JournalCall.after]
    split
    · rfl
    · rename_i plan hplan
      dsimp only [OpportunityJournal.isWithdrawn]
      unfold putFile
      split
      · rfl
      · rename_i key o ho
        obtain ⟨w, hw, rfl, -⟩ := plan_withdrawal hplan ho
        congr 1
        rw [Bool.eq_iff_iff, Map.any_iff, Map.any_iff]
        refine exists_congr fun key => exists_congr fun file => and_congr_left fun hkey => ?_
        rw [Map.get?_put_ne]
        rintro rfl
        exact h w hw (by simpa using hkey)

theorem isWithdrawn_after (h : s.isWithdrawn d = true) : (call.after P s crash).isWithdrawn d = true := by
  unfold JournalCall.after
  split
  · exact h
  · simp only [OpportunityJournal.isWithdrawn, Bool.and_eq_true, Map.any_iff] at h ⊢
    obtain ⟨hcanonical, key, file, hfile, hkey⟩ := h
    refine ⟨hcanonical, ?_⟩
    unfold putFile
    split
    · exact ⟨key, file, hfile, hkey⟩
    · rename_i key' o _
      by_cases heq : key = key'
      · subst heq
        exact ⟨key, _, Map.get?_put_self, hkey⟩
      · exact ⟨key, file, (Map.get?_put_ne _ _ heq).trans hfile, hkey⟩

/-- A valid withdrawal above the carrier's cursor is in the journal afterwards, or one of its carrier was before. -/
theorem isWithdrawn_of_valid {carrierID : String} {q now : UInt64} {w : W}
    (hvalid : JournalCall.Valid P ⟨carrierID, q, some now, .inr w⟩) (hreached : s.reached carrierID q = false) :
    (JournalCall.after P s ⟨carrierID, q, some now, .inr w⟩ none).isWithdrawn (P.intentDigest w) = true := by
  obtain ⟨hcarrier, hcursor, -, hcanonical, digest, hdigest, hsize⟩ := hvalid
  cases hfile : s.withdrawals.get? (P.intentDigest w, carrierID) with
  | some file =>
    refine isWithdrawn_after ?_
    simp only [OpportunityJournal.isWithdrawn, hcanonical, Bool.true_and, Map.any_iff]
    exact ⟨_, file, hfile, by simp⟩
  | none =>
    have hplan : JournalCall.plan P s ⟨carrierID, q, some now, .inr w⟩ = .ok
        { withdrawal := some ((P.intentDigest w, carrierID), ⟨w, digest, carrierID, q, now⟩),
          cursor := (carrierID, q) } := by
      simp_all [JournalCall.plan, refuse, runs]
    simp only [JournalCall.after, hplan, OpportunityJournal.isWithdrawn, hcanonical, Bool.true_and, Map.any_iff]
    exact ⟨_, _, Map.get?_put_self, by simp⟩

theorem notice_step {e : CollectEvent I W} (h : Own P agent d c e) :
    (c.step P e).notice d =
      if e.ofAgent P agent = true then noticeStep P d (c.notice d) e else c.notice d := by
  rcases e with now | ⟨carrierID, cursor, intent | w⟩
  · rfl
  · refine Eq.trans ?_ (ite_self _).symm
    dsimp only [Collection.step]
    split
    · dsimp only [Collection.notice]
      rw [isWithdrawn_record (by simp)]
      rfl
    · rfl
  · dsimp only [Collection.step]
    cases hverified : P.verifyIntentWithdrawal w c.now
    · simp [hverified]
    · by_cases hnamed : P.intentDigest w = d
      · obtain ⟨hissuer, hheld⟩ := h ⟨hverified, hnamed⟩
        cases cursor with
        | none => simp [Collection.record, hverified, hnamed, hissuer]
        | some q =>
          have hkept : (c.record P carrierID (some q) (.inr w)).isWithdrawn d = true := by
            rcases hheld q rfl with hbefore | ⟨hvalid, hreached⟩
            · exact isWithdrawn_after hbefore
            · exact hnamed ▸ isWithdrawn_of_valid hvalid hreached
          simp [hverified, hnamed, hissuer, hkept]
      · have hheld := @isWithdrawn_record _ _ P c d carrierID cursor (.inr w) (by simpa using hnamed)
        simp [hverified, hnamed, Ne.symm hnamed, hheld]

theorem notice_exec : ∀ {es} {c},
    Along (Collection.step P) (Own P agent d) c es → (exec (Collection.step P) c es).notice d =
      (es.filter (·.ofAgent P agent)).foldl (noticeStep P d) (c.notice d)
  | [], _, _ => rfl
  | e :: es, c, h => by
    rw [exec_cons, notice_exec h.2, notice_step h.1, List.filter_cons]
    split <;> rfl

/-- Two histories with the same messages of an agent exclude the same of its intents, if no other agent withdraws them.
-/
theorem withdrawn_by_issuer (P : IntentProtocol I W) {es es' : List (CollectEvent I W)}
    (hes : Along (Collection.step P) (Own P agent d) c es)
    (hes' : Along (Collection.step P) (Own P agent d) c es')
    (hsame : es.filter (·.ofAgent P agent) = es'.filter (·.ofAgent P agent)) :
    (exec (Collection.step P) c es).excludes d = (exec (Collection.step P) c es').excludes d := by
  have hnotice := (notice_exec hes).trans (hsame ▸ (notice_exec hes').symm)
  exact congrArg (fun n => n.2.1 || n.2.2) hnotice

/-- A withdrawal of another intent by another agent comes first, or does not come. -/
theorem withdrawn_after_other :
    let own := [CollectEvent.result "c" (some 2) (.inr ("A", "w", digest 'a'))]
    let step := Collection.step intents
    (exec step { journal := { maxEntries := 5 } } own).excludes (digest 'a') =
      (exec step { journal := { maxEntries := 5 } }
        (.result "c" (some 1) (.inr ("B", "w", digest 'b')) :: own)).excludes (digest 'a') :=
  have hvalid : ∀ q ∈ some (2 : UInt64), JournalCall.Valid intents ⟨"c", q, some 0, .inr ("A", "w", digest 'a')⟩ :=
    fun q hq => valid_withdrawal (by decide) (Option.some.inj hq ▸ by decide) (by decide +kernel)
  @withdrawn_by_issuer _ _ _ "A" _ intents _ _
    ⟨fun _ => ⟨rfl, fun q hq => .inr ⟨hvalid q hq, Option.some.inj hq ▸ by decide +kernel⟩⟩, trivial⟩
    ⟨fun h => absurd h.2 (by decide +kernel),
      fun _ => ⟨rfl, fun q hq => .inr ⟨hvalid q hq, Option.some.inj hq ▸ by decide +kernel⟩⟩, trivial⟩
    (by simp [intents])

/-- A withdrawal by another agent excludes the intent. -/
theorem withdrawn_by_another :
    let es : List (CollectEvent String (String × String × String)) := [.result "c" (some 2) (.inl (digest 'a'))]
    let es' := .result "c" (some 1) (.inr ("B", "w", digest 'a')) :: es
    let run := exec (Collection.step intents) { journal := { maxEntries := 5 } }
    es.filter (·.ofAgent intents "A") = es'.filter (·.ofAgent intents "A") ∧
      digest 'a' ∈ (run es').byDigest ∧ (run es).excludes (digest 'a') = false ∧
      (run es').excludes (digest 'a') = true :=
  ⟨by simp [intents], by decide +kernel, by decide +kernel, by decide +kernel⟩

end OpenFox.Earning
