/-
A gift the sender has signed: its record is delivered, refreshed from finalized state and cancelled, each through
journal updates that may fail or be cut off. A delivery that fails leaves its effect pending; once a refresh has moved
the state on, neither the delivery nor the cancellation takes the record again.
-/
import OpenFox.Base.Disk
import OpenFox.Base.Run
import OpenFox.Go.Text

namespace OpenFox.Gift

open OpenFox.Go OpenFox.Base Prog

inductive Role
  | sender
  | recipient
deriving DecidableEq

inductive State
  | draft | recipientResolved | addressRequested | addressReceived | ownerAuthorizationRequired | ownerAuthorized
  | bocSigned | offerDelivered | addressRequestObserved | addressResponseSent | signedOfferObserved | verified
  | broadcastSubmitted | currentlyExecutable | currentlyUnexecutable | insufficientFunds | finalizedPaid | expiredUnpaid
  | invalidatedUnpaid | finalityUnknown
deriving DecidableEq

inductive PendingEffect
  | none | sendAddressRequest | sendAddressResponse | signBOC | sendOffer | broadcast | prepareCancel | cancel
deriving DecidableEq

structure Record where
  role : Role
  state : State
  pendingEffect : PendingEffect
  canonicalOffer : Bytes
  exactSignedBOC : Bytes
  exactCancellationBOC : Bytes
  cancellationAuthorizationDigest : String
  offerEventID : String
  broadcastAttempts : UInt32
  cancellationAttempts : UInt32
  retryNotBeforeUnix : Int
  updatedAtUnix : Int

/-- The record of one intent, in memory and in the journal file. -/
structure Journal where
  record : Record
  file : Record

/-- What the boundaries of the service answer to one call. -/
structure Answers where
  sendEstablishedDirect : Except String String
  resolveFinality : Except String State
  resolveNativeGift : Except String Unit
  authorize : Except String String
  cancelSeqno : Except String Bytes
  broadcastExactBOC : Except String Unit

def terminalState (s : State) : Bool := s ∈ [.finalizedPaid, .expiredUnpaid, .invalidatedUnpaid]

/-- Finalized state shows that no transaction has used the sequence number. -/
def unused (s : State) : Bool := s ∈ [.currentlyExecutable, .currentlyUnexecutable, .insufficientFunds]

def refreshableRecordState (r : Record) : Bool :=
  unused r.state || r.state = .finalityUnknown ||
    if r.role = .sender then r.state ∈ [.bocSigned, .offerDelivered] else r.state ∈ [.verified, .broadcastSubmitted]

def broadcastRetryDelay (attempts : UInt32) : Int := (fun delay => min (2 * delay) 300)^[attempts.toNat - 1] 30

/-- `Journal.Update`; every caller stamps the record. -/
def update (now : Int) (apply : Record → Record) : Prog Journal Record := do
  let s ← read
  let record := { apply s.record with updatedAtUnix := now }
  lift (refuse (now < s.record.updatedAtUnix) "immutable Agent Gift journal identity changed")
  lift (refuse (65536 < record.exactCancellationBOC.utf8ByteSize) "invalid Agent Gift journal record")
  atomic fun s => { s with file := record }
  modify fun s => { s with record }
  pure record

def deliverOffer (now : Int) (w : Answers) : Prog Journal Record := do
  let record := (← read).record
  if record.role = .sender ∧ record.state = .offerDelivered then pure record
  else
    lift (refuse (record.role ≠ .sender ∨ record.state ≠ .bocSigned ∨
      record.pendingEffect ≠ .none ∧ record.pendingEffect ≠ .sendOffer) "Gift offer is not ready")
    let _ ← update now fun v => { v with pendingEffect := .sendOffer }
    let offerEventID ← lift w.sendEstablishedDirect
    update now fun v => { v with state := .offerDelivered, pendingEffect := .none, offerEventID }

/-- What a refresh with this finalized state writes. -/
def refreshed (now : Int) (state : State) (v : Record) : Record :=
  if terminalState state then
    { v with
      state, pendingEffect := .none, retryNotBeforeUnix := 0
      canonicalOffer := "", exactSignedBOC := "", exactCancellationBOC := "" }
  else if unused state ∧ (v.pendingEffect = .broadcast ∨ v.pendingEffect = .cancel) then
    { v with
      state, pendingEffect := .none
      retryNotBeforeUnix := now + broadcastRetryDelay
        (if v.pendingEffect = .cancel then v.cancellationAttempts else v.broadcastAttempts) }
  else { v with state }

def refresh (now : Int) (w : Answers) : Prog Journal Record := do
  let record := (← read).record
  lift (refuse (record.exactSignedBOC = "" ∨ refreshableRecordState record = false)
    "Gift is not ready for finalized refresh")
  match w.resolveFinality with
  | .error _ => update now fun v => { v with state := .finalityUnknown }
  | .ok state =>
    if ¬ (terminalState state ∨ unused state ∨ state = .finalityUnknown) then pure record
    else match if state = .finalizedPaid ∧ record.role = .sender then w.resolveNativeGift else .ok () with
      | .error err => do
        match ← attempt (update now fun v => { v with state := .finalityUnknown }) with
        | .error updateErr => fail (err ++ "\n" ++ updateErr)
        | .ok _ => fail err
      | .ok _ => update now (refreshed now state)

/-- An answer that is still missing is asked for, must not be empty and goes to the journal. -/
def ask (now : Int) (missing : Prop) [Decidable missing] (answer : Except String String) (empty : String)
    (apply : String → Record → Record) : Prog Journal Unit :=
  if missing then do
    let value ← lift answer
    lift (refuse (value = "") empty)
    let _ ← update now (apply value)
  else pure ()

def cancel (now : Int) (w : Answers) : Prog Journal Record := do
  let record := (← read).record
  lift (refuse (record.role ≠ .sender ∨ refreshableRecordState record = false) "Gift is not cancellable")
  lift (refuse (record.pendingEffect = .cancel) "ambiguous cancellation requires finalized refresh")
  lift (refuse (now < record.retryNotBeforeUnix) "exact cancellation retry is rate limited")
  lift (refuse (record.pendingEffect ≠ .none ∧ record.pendingEffect ≠ .prepareCancel)
    "Gift has another unresolved side effect")
  ask now (record.pendingEffect = .none ∧ record.exactCancellationBOC = "")
    (w.authorize.mapError fun _ => "owner cancellation authorization failed") "owner cancellation authorization failed"
    fun digest v => { v with pendingEffect := .prepareCancel, cancellationAuthorizationDigest := digest }
  ask now (record.exactCancellationBOC = "") w.cancelSeqno "custody returned no exact cancellation BOC"
    fun boc v => { v with exactCancellationBOC := boc }
  let record ← update now fun v =>
    { v with pendingEffect := .cancel, cancellationAttempts := v.cancellationAttempts + 1, retryNotBeforeUnix := 0 }
  lift w.broadcastExactBOC
  pure record

inductive Op
  | deliverOffer | refresh | cancel
deriving DecidableEq

def Op.call : Op → Int → Answers → Prog Journal Record
  | deliverOffer => Gift.deliverOffer
  | refresh => Gift.refresh
  | cancel => Gift.cancel

inductive GiftEvent
  | call (op : Op) (now : Int) (w : Answers) (faults : List Fault)
  | restart

def Journal.step (s : Journal) : GiftEvent → Journal
  | .restart => { s with record := s.file }
  | .call op now w faults =>
    match op.call now w ⟨s, faults⟩ with
    | (.error .crashed, w') => { w'.state with record := w'.state.file }
    | (_, w') => w'.state

/-! ## Signed records -/

/-- A signed gift of the sender that is not settled. -/
structure Held (r : Record) : Prop where
  sender : r.role = .sender
  refreshable : refreshableRecordState r = true
  signed : r.exactSignedBOC ≠ ""
  effect : r.pendingEffect ∈ [.none, .sendOffer, .prepareCancel, .cancel]
  undelivered : r.pendingEffect = .sendOffer → r.state ≠ .offerDelivered
  fits : r.exactCancellationBOC.utf8ByteSize ≤ 65536

def Record.Kept (r : Record) : Prop := terminalState r.state = true ∨ Held r

def Journal.Kept (s : Journal) : Prop := s.record.Kept ∧ s.file.Kept

variable {F : Fault → Prop} {s : Journal} {now t : Int} {w : Answers} {apply : Record → Record}

theorem after_update {I : Journal → Prop} {done : Record → Journal → Prop} (hs : I s)
    (happly : ∀ r, r = { apply s.record with updatedAtUnix := now } → r.exactCancellationBOC.utf8ByteSize ≤ 65536 →
      I { s with file := r } ∧ done r ⟨r, r⟩) : After F (update now apply) s done I I := by
  refine after_bind (after_read (after_check hs fun _ _ => ?_))
  refine after_check hs fun _ hfits => ?_
  obtain ⟨hfile, hdone⟩ := happly _ rfl (not_lt.1 (refuse_ok.1 hfits))
  refine after_bind (after_atomic ?_ (fun _ => ⟨hs, hfile⟩) fun _ => ⟨hs, hfile⟩)
  exact after_bind (after_modify (after_pure hdone))

/-- `x` leaves the gift held unless it fails. -/
abbrev Holds (F : Fault → Prop) {α : Type} (x : Prog Journal α) (s : Journal) : Prop :=
  After F x s (fun _ s' => s'.Kept ∧ Held s'.record) Journal.Kept Journal.Kept

theorem kept_update (hs : s.Kept)
    (happly : (apply s.record).exactCancellationBOC.utf8ByteSize ≤ 65536 →
      Held { apply s.record with updatedAtUnix := now }) :
    Holds F (update now apply) s :=
  after_update hs fun _ hr hfits => by
    subst hr
    exact ⟨⟨hs.1, .inr (happly hfits)⟩, ⟨.inr (happly hfits), .inr (happly hfits)⟩, happly hfits⟩

theorem kept_ask {missing : Prop} [Decidable missing] {answer : Except String String} {empty : String}
    {put : String → Record → Record} (hs : s.Kept) (held : Held s.record)
    (hput : ∀ value, (put value s.record).exactCancellationBOC.utf8ByteSize ≤ 65536 →
      Held { put value s.record with updatedAtUnix := now }) :
    Holds F (ask now missing answer empty put) s := by
  unfold ask
  split
  · refine after_check hs fun value _ => after_check hs fun _ _ => ?_
    exact after_bind ((kept_update hs (hput value)).imp fun _ _ h => after_pure h)
  · exact after_pure ⟨hs, held⟩

theorem Record.Kept.held {r : Record} (h : r.Kept) (hr : refreshableRecordState r = true) : Held r := by
  refine h.resolve_left fun hterminal => ?_
  simp only [terminalState, List.mem_cons, List.not_mem_nil, or_false, decide_eq_true_eq] at hterminal
  rcases hterminal with hst | hst | hst <;> simp [refreshableRecordState, unused, hst] at hr

theorem Held.shown {r : Record} (h : Held r) {state : State} (hstate : unused state = true ∨ state = .finalityUnknown) :
    Held { r with state, updatedAtUnix := now } where
  sender := h.sender
  refreshable := by
    simp only [refreshableRecordState, Bool.or_eq_true, decide_eq_true_eq]
    exact .inl hstate
  signed := h.signed
  effect := h.effect
  undelivered := by rintro - rfl; simp [unused] at hstate
  fits := h.fits

theorem deliverOffer_keeps : Keeps F Journal.Kept Journal.Kept (deliverOffer now w) := by
  refine keeps_read_bind fun s hs => ?_
  dsimp only
  split
  · exact after_pure hs
  refine after_check hs fun _ hready => ?_
  obtain ⟨hsender, hstate, -⟩ : s.record.role = .sender ∧ s.record.state = .bocSigned ∧ _ := by
    simpa only [not_or, not_not, ne_eq] using refuse_ok.1 hready
  have held := hs.1.held (by simp [refreshableRecordState, hsender, hstate])
  refine after_bind ((kept_update hs fun hfits => ?_).imp ?_)
  · exact ⟨held.sender, held.refreshable, held.signed, by simp, fun _ => by simp [hstate], hfits⟩
  intro _ s' ⟨hs', held'⟩
  refine after_check hs' fun _ _ => ?_
  refine (kept_update hs' fun hfits => ?_).imp fun _ _ h => h.1
  exact ⟨held'.sender, by simp [refreshableRecordState, held'.sender], held'.signed, by simp, nofun, hfits⟩

theorem refresh_keeps : Keeps F Journal.Kept Journal.Kept (refresh now w) := by
  refine keeps_read_bind fun s hs => ?_
  refine after_check hs fun _ hready => ?_
  have held : Held s.record := hs.1.held (by simpa using (not_or.1 (refuse_ok.1 hready)).2)
  have hunknown : After F (update now fun v => { v with state := .finalityUnknown }) s (fun _ => Journal.Kept)
    Journal.Kept
      Journal.Kept :=
    (kept_update hs fun _ => held.shown (.inr rfl)).imp fun _ _ h => h.1
  split
  · exact hunknown
  rename_i state _
  split
  · exact after_pure hs
  rename_i hstate
  split
  · refine after_bind (after_attempt (hunknown.mono (fun _ _ h => ?_) (fun _ h _ => ?_) fun _ h => h))
    · exact after_fail h
    · exact after_fail h
  · refine after_update hs fun r hr _ => ?_
    have hkept : r.Kept := ?_
    · exact ⟨⟨hs.1, hkept⟩, hkept, hkept⟩
    rw [hr, refreshed]
    split
    · exact .inl ‹_›
    have hshown : Held { s.record with state, updatedAtUnix := now } := held.shown ((not_not.1 hstate).resolve_left ‹_›)
    split
    · exact .inr ⟨hshown.sender, hshown.refreshable, hshown.signed, by simp, nofun, hshown.fits⟩
    · exact .inr hshown

theorem cancel_keeps : Keeps F Journal.Kept Journal.Kept (cancel now w) := by
  refine keeps_read_bind fun s hs => ?_
  refine after_check hs fun _ hready => ?_
  have held : Held s.record := hs.1.held (by simpa using (not_or.1 (refuse_ok.1 hready)).2)
  iterate 3 refine after_check hs fun _ _ => ?_
  refine after_bind ((kept_ask hs held fun _ hfits => ?_).imp fun _ s' ⟨hs', held'⟩ => ?_)
  · exact ⟨held.sender, held.refreshable, held.signed, by simp, nofun, hfits⟩
  refine after_bind ((kept_ask hs' held' fun _ hfits => ?_).imp fun _ s'' ⟨hs'', held''⟩ => ?_)
  · exact ⟨held'.sender, held'.refreshable, held'.signed, held'.effect, held'.undelivered, hfits⟩
  refine after_bind ((kept_update hs'' fun hfits => ?_).imp fun _ _ hdone => ?_)
  · exact ⟨held''.sender, held''.refreshable, held''.signed, by simp, nofun, hfits⟩
  · exact after_check hdone.1 fun _ _ => after_pure hdone.1

theorem after_step {I : Journal → Prop} {op : Op} {faults : List Fault}
    (hcall : After F (op.call now w) s (fun _ => I) I I)
    (hfaults : ∀ f ∈ faults, F f) (hcrash : (∃ reach, F (.crashes reach)) → ∀ s, I s → I ⟨s.file, s.file⟩) :
    I (s.step (.call op now w faults)) := by
  have hcall := (hcall faults hfaults).2
  unfold Journal.step
  rcases hrun : op.call now w ⟨s, faults⟩ with ⟨(_ | _) | _, w'⟩ <;> simp only [hrun] at hcall ⊢
  · exact hcall
  · exact hcrash hcall.1 _ hcall.2
  · exact hcall

theorem step_kept (s : Journal) (e : GiftEvent) (hs : s.Kept) : (s.step e).Kept := by
  cases e with
  | restart => exact ⟨hs.2, hs.2⟩
  | call op now w faults =>
    have hkeeps : Keeps (fun _ => True) Journal.Kept Journal.Kept (op.call now w) := by
      cases op with
      | deliverOffer => exact deliverOffer_keeps
      | refresh => exact refresh_keeps
      | cancel => exact cancel_keeps
    exact after_step (hkeeps s hs) (fun _ _ => trivial) fun _ _ h => ⟨h.2, h.2⟩

/-! ## Settling -/

/-- The boundaries succeed, and finalized state shows the gift executable. -/
structure Answers.Succeed (w : Answers) : Prop where
  messenger : ∃ eventID, w.sendEstablishedDirect = .ok eventID
  resolver : w.resolveFinality = .ok .currentlyExecutable
  owner : ∃ digest, w.authorize = .ok digest ∧ digest ≠ ""
  custody : ∃ boc, w.cancelSeqno = .ok boc ∧ boc ≠ "" ∧ boc.utf8ByteSize ≤ 65536
  broadcaster : w.broadcastExactBOC = .ok ()

/-- Calls at times that do not go back, the first not before `t`, end in a delivery or a cancellation that succeeds. -/
inductive CanSettle (env : Int → Answers) : Int → Journal → Prop
  | settle {t now : Int} {s : Journal} (op : Op) (hnow : t ≤ now) (hop : op ≠ .refresh)
    (hok : ∃ r, (op.call now (env now) ⟨s, []⟩).1 = .ok r) : CanSettle env t s
  | call {t now : Int} {s : Journal} (op : Op) (hnow : t ≤ now)
    (later : CanSettle env now (s.step (.call op now (env now) []))) : CanSettle env t s

/-- An offer is pending, and a refresh has moved the state on. -/
def Stuck (r : Record) : Prop := r.pendingEffect = .sendOffer ∧ (unused r.state = true ∨ r.state = .finalityUnknown)

variable {env : Int → Answers}

theorem Stuck.refused {op : Op} (h : Stuck s.record) (hop : op ≠ .refresh) :
    After F (op.call now w) s (fun _ _ => False) (Stuck ·.record) (Stuck ·.record) := by
  have hstate : s.record.state ≠ .bocSigned ∧ s.record.state ≠ .offerDelivered := by
    rcases h with ⟨-, hstate⟩
    constructor <;> intro hs <;> simp [hs, unused] at hstate
  cases op with
  | refresh => exact absurd rfl hop
  | deliverOffer =>
    refine after_bind (after_read ?_)
    rw [if_neg fun hs => hstate.2 hs.2]
    exact after_check h fun _ hready => absurd (.inr (.inl hstate.1)) (refuse_ok.1 hready)
  | cancel =>
    refine after_bind (after_read ?_)
    iterate 3 refine after_check h fun _ _ => ?_
    exact after_check h fun _ hready => absurd (by simp [h.1]) (refuse_ok.1 hready)

theorem Stuck.refresh (h : Stuck s.record) (hw : w.resolveFinality = .ok .currentlyExecutable) :
    After F (refresh now w) s (fun _ s' => Stuck s'.record) (Stuck ·.record) (Stuck ·.record) := by
  refine after_bind (after_read (after_check h fun _ _ => ?_))
  rw [hw]
  refine after_update h fun r hr _ => ⟨h, ?_⟩
  simp [hr, refreshed, terminalState, unused, Stuck, h.1]

theorem not_stuck (henv : ∀ t, (env t).Succeed) (hsettle : CanSettle env t s) : ¬ Stuck s.record := by
  induction hsettle with
  | @settle t now s op _ hop hok =>
    intro h
    obtain ⟨r, hok⟩ := hok
    have hrefused : After (fun _ => False) (op.call now (env now)) s _ _ _ := h.refused hop
    simpa only [hok] using (hrefused [] nofun).2
  | @call t now s op _ _ ih =>
    refine fun h => ih (after_step (F := fun _ => False) (I := (Stuck ·.record)) ?_ nofun nofun)
    by_cases hop : op = .refresh
    · exact hop ▸ h.refresh (henv now).resolver
    · exact (h.refused hop).imp fun _ _ => False.elim

theorem update_run (hnow : s.record.updatedAtUnix ≤ now)
    (hfits : (apply s.record).exactCancellationBOC.utf8ByteSize ≤ 65536) :
    let r := { apply s.record with updatedAtUnix := now }
    update now apply ⟨s, []⟩ = (.ok r, ⟨⟨r, r⟩, []⟩) := by
  simp [update, bind, Prog.read, lift, refuse, not_lt.2 hnow, not_lt.2 hfits, atomic, disk, Prog.modify, pure]

theorem exists_later (t : Int) (r : Record) : ∃ now, t ≤ now ∧ r.updatedAtUnix ≤ now ∧ r.retryNotBeforeUnix ≤ now :=
  ⟨max t (max r.updatedAtUnix r.retryNotBeforeUnix), by simp⟩

section
variable (henv : ∀ t, (env t).Succeed) (held : Held s.record)
include henv held

theorem canSettle_of_cancel (heffect : s.record.pendingEffect ∈ [.none, .prepareCancel]) : CanSettle env t s := by
  obtain ⟨now, ht, hnow, hretry⟩ := exists_later t s.record
  obtain ⟨digest, hauth, hdigest⟩ := (henv now).owner
  obtain ⟨boc, hsign, hboc, hsize⟩ := (henv now).custody
  refine .settle .cancel ht nofun ?_
  simp only [List.mem_cons, List.not_mem_nil, or_false] at heffect
  by_cases hmissing : s.record.exactCancellationBOC = "" <;> rcases heffect with heffect | heffect <;>
    simp [Op.call, cancel, ask, bind, Prog.read, lift, refuse, held.sender, held.refreshable, heffect, hmissing, hauth,
      Except.mapError, hdigest, hsign, hboc, update_run, hnow, hsize, (henv now).broadcaster, pure,
      not_lt.2 hretry, held.fits]

theorem canSettle_of_deliverOffer (heffect : s.record.pendingEffect = .sendOffer)
    (hstate : s.record.state = .bocSigned) :
    CanSettle env t s := by
  obtain ⟨now, ht, hnow, -⟩ := exists_later t s.record
  obtain ⟨eventID, hsend⟩ := (henv now).messenger
  refine .settle .deliverOffer ht nofun ?_
  simp [Op.call, deliverOffer, bind, Prog.read, lift, refuse, held.sender, hstate, heffect, update_run, hnow, held.fits,
    hsend, pure]

/-- A refresh that shows the sequence number unused takes back the effect of a cancellation. -/
theorem canSettle_of_refresh (hs : s.Kept) (heffect : s.record.pendingEffect = .cancel) : CanSettle env t s := by
  obtain ⟨now, ht, hnow, -⟩ := exists_later t s.record
  obtain ⟨hstate, hnone⟩ : (s.step (.call .refresh now (env now) [])).record.state = .currentlyExecutable ∧
      (s.step (.call .refresh now (env now) [])).record.pendingEffect = .none := by
    simp [Journal.step, Op.call, refresh, bind, Prog.read, lift, refuse, held.signed, held.refreshable,
      (henv now).resolver, terminalState, unused, update_run, hnow, held.fits, refreshed, heffect, pure]
  refine .call .refresh ht (canSettle_of_cancel henv ?_ (by simp [hnone]))
  exact (step_kept _ _ hs).1.held (by simp [refreshableRecordState, unused, hstate])

end

/-- Sign leaves the record so. -/
structure Signed (r : Record) : Prop where
  sender : r.role = .sender
  state : r.state = .bocSigned
  effect : r.pendingEffect = .none
  signed : r.exactSignedBOC ≠ ""
  uncancelled : r.exactCancellationBOC = ""

/-- After any calls and restarts a gift the sender has signed can be delivered or cancelled as long as it is not
settled, but for one that a refresh has moved on while its offer was pending. -/
theorem signed_gift_settles_iff (r : Record) (hr : Signed r) (es : List GiftEvent) (env : Int → Answers)
    (henv : ∀ t, (env t).Succeed) (t : Int) (s : Journal) (hs : exec Journal.step ⟨r, r⟩ es = s)
    (hopen : terminalState s.record.state = false) :
    CanSettle env t s ↔ (s.record.pendingEffect = .sendOffer → s.record.state = .bocSigned) := by
  have hsigned :
    Held r := ⟨hr.sender, by simp [refreshableRecordState, hr.sender, hr.state], hr.signed, by simp [hr.effect],
    by simp [hr.effect], by simp [hr.uncancelled]⟩
  have hkept : s.Kept := hs ▸ invariant step_kept es ⟨.inr hsigned, .inr hsigned⟩
  have held : Held s.record := hkept.1.resolve_left (by simp [hopen])
  constructor
  · intro hsettle heffect
    by_contra hstate
    refine not_stuck henv hsettle ⟨heffect, ?_⟩
    have hrefresh := held.refreshable
    simp [refreshableRecordState, held.sender, hstate, held.undelivered heffect] at hrefresh
    exact hrefresh
  · intro hoffer
    have heffect := held.effect
    simp only [List.mem_cons, List.not_mem_nil, or_false] at heffect
    rcases heffect with he | he | he | he
    · exact canSettle_of_cancel henv held (by simp [he])
    · exact canSettle_of_deliverOffer henv held he (hoffer he)
    · exact canSettle_of_cancel henv held (by simp [he])
    · exact canSettle_of_refresh henv held hkept he

namespace Sample

def signed : Record :=
  ⟨.sender, .bocSigned, .none, "offer", "gift", "", "", "", 0, 0, 0, 0⟩

def works : Answers := ⟨.ok "event", .ok .currentlyExecutable, .ok (), .ok "digest", .ok "cancellation", .ok ()⟩

def offline : Answers := { works with sendEstablishedDirect := .error "offline" }

theorem works_succeed : works.Succeed :=
  ⟨⟨_, rfl⟩, rfl, ⟨_, rfl, by decide⟩, ⟨_, rfl, by decide, by decide⟩, rfl⟩

end Sample

open Sample in
/-- The messenger fails and the service is restarted. -/
theorem signed_settles :
    let s := exec Journal.step ⟨signed, signed⟩ [.call .deliverOffer 1 offline [], .restart]
    s.record.pendingEffect = .sendOffer ∧ CanSettle (fun _ => works) 2 s := by
  refine ⟨by decide +kernel, ?_⟩
  refine (signed_gift_settles_iff signed ⟨rfl, rfl, rfl, by decide, rfl⟩ _ _ (fun _ => works_succeed) 2 _ rfl ?_).2
    fun _ => ?_
  · decide +kernel
  · decide +kernel

open Sample in
/-- The messenger fails, and the next refresh moves the state on. -/
theorem failed_delivery_refreshed_never_settles :
    let s := exec Journal.step ⟨signed, signed⟩
      [.call .deliverOffer 1 offline [], .call .refresh 2 works []]
    s.record.exactSignedBOC = "gift" ∧ terminalState s.record.state = false ∧
      ∀ t, ¬ CanSettle (fun _ => works) t s := by
  refine ⟨by decide +kernel, by decide +kernel, fun t hsettle => not_stuck (fun _ => works_succeed) hsettle ?_⟩
  exact ⟨by decide +kernel, by decide +kernel⟩

end OpenFox.Gift
