/-
Relay side-effect admissions along every run: the receipts are numbered without gaps, the receipts of
one action form a single route on which each attempt names the receipt before it, the binding index
points at the newest attempt, receipts are issued under the current writer's fence only, and a
restart accepts what was persisted.
-/
import OpenFox.Authority.WellFormed
import OpenFox.Authority.Sample
import Mathlib.Data.List.Chain
import Mathlib.Data.List.Dedup
import OpenFox.Go.Uint64

namespace OpenFox.Authority

open OpenFox.Go OpenFox.Commerce OpenFox.Base

variable {P : Protocol} {h : Host} {d d' : AuthorityDocument} {c : Call}

/-! ## Routes -/

/-- A receipt the authority may have built for a descriptor it found valid. -/
def IssuedFor (P : Protocol) (descriptor : RelayAdmissionDescriptor) (receipt : RelayAdmissionReceipt) : Prop :=
  (∃ authorityID now, P.validateRelayDescriptor authorityID descriptor now = .ok ()) ∧
    descriptor.routeAttempt ≤ maximumRelayRouteHops ∧
    ∃ sequence issuedAt startNotAfter, P.buildRelayReceipt descriptor sequence issuedAt startNotAfter = .ok receipt

/-- A route as the authority admits it, oldest attempt first: it starts with a first attempt without a
predecessor, and every later one passed the transition check against the receipt before it. -/
inductive RelayChain (P : Protocol) : List RelayAdmissionReceipt → Prop
  | first {descriptor receipt} (issued : IssuedFor P descriptor receipt) (attempt : descriptor.routeAttempt = 1)
    (unpreceded : descriptor.predecessorReceiptDigest = "") : RelayChain P [receipt]
  | next {route last descriptor receipt} (chain : RelayChain P (route ++ [last]))
    (issued : IssuedFor P descriptor receipt) (transition : P.validateRelayTransition last descriptor = .ok ()) :
    RelayChain P (route ++ [last] ++ [receipt])

/-- What the results need of the libraries. A receipt carries the fields of its descriptor and the
sequence it was given, its lookup is the descriptor's, and its signature verifies; a transition goes
from one attempt to the next and names the receipt before it; the check of a whole chain accepts what
was admitted transition by transition; a valid descriptor keeps to the limit of attempts; digests of
fences are injective and a signed fence has the body that was signed; a document without dependencies
has a valid dependency graph. -/
structure RelayLaws (P : Protocol) (receiptDigest : RelayAdmissionReceipt → String) : Prop where
  builds : ∀ {descriptor sequence issuedAt startNotAfter receipt},
    P.buildRelayReceipt descriptor sequence issuedAt startNotAfter = .ok receipt →
    receipt.ownerID = descriptor.ownerID ∧ receipt.agentID = descriptor.agentID ∧
      receipt.authorityID = descriptor.writerFence.body.authorityID ∧
      receipt.stableActionID = descriptor.stableActionID ∧ receipt.routeAttempt = descriptor.routeAttempt ∧
      receipt.predecessorReceiptDigest = descriptor.predecessorReceiptDigest ∧ receipt.admissionSequence = sequence ∧
      P.relayLookupDigest (receiptLookup receipt) = P.relayLookupDigest (P.relayLookup descriptor) ∧
      P.verifyRelayReceiptSignature receipt = .ok ()
  transition : ∀ {predecessor descriptor}, P.validateRelayTransition predecessor descriptor = .ok () →
    descriptor.routeAttempt = predecessor.routeAttempt + 1 ∧
      descriptor.predecessorReceiptDigest = receiptDigest predecessor
  chain : ∀ {route}, RelayChain P route → P.validateRelayRouteChain route = .ok ()
  bounded : ∀ {authorityID descriptor now}, P.validateRelayDescriptor authorityID descriptor now = .ok () →
    descriptor.routeAttempt ≤ maximumRelayRouteHops → descriptor.routeAttempt ≤ P.maxRelayRouteAttempts
  fences : ∀ {fence fence' k}, P.writerFenceDigest fence = .ok k → P.writerFenceDigest fence' = .ok k → fence = fence'
  signs : ∀ {body fence}, P.signWriterFence body = .ok fence → fence.body = body
  dependencies : P.validatePortfolioDependencies [] = .ok ()

variable {receiptDigest : RelayAdmissionReceipt → String}

/-- The attempts of a route are 1, 2, … and each receipt names the one before it. -/
structure Gapless (receiptDigest : RelayAdmissionReceipt → String) (route : List RelayAdmissionReceipt) : Prop where
  attempts : route.map (·.routeAttempt.toNat) = List.range' 1 route.length
  unpreceded : ∀ r ∈ route.head?, r.predecessorReceiptDigest = ""
  names : route.IsChain fun r r' => r'.predecessorReceiptDigest = receiptDigest r

theorem gapless_nil : Gapless receiptDigest [] := ⟨rfl, nofun, .nil⟩

variable {a : PersonalAuthority} {route : List RelayAdmissionReceipt} {receipt : RelayAdmissionReceipt} {e : Event}

theorem Gapless.last_attempt {last : RelayAdmissionReceipt}
    (hg : Gapless receiptDigest (route ++ [last])) : last.routeAttempt.toNat = route.length + 1 := by
  have hattempts := hg.attempts
  rw [List.map_append, List.length_append, List.length_singleton, List.range'_concat] at hattempts
  have hlast := List.append_inj_right' hattempts rfl
  simp only [List.map_cons, List.map_nil, List.cons.injEq] at hlast
  omega

section
variable (hlaws : RelayLaws P receiptDigest)
include hlaws

theorem IssuedFor.bounded {descriptor : RelayAdmissionDescriptor} (hi : IssuedFor P descriptor receipt) :
    receipt.routeAttempt ≤ maximumRelayRouteHops ∧ receipt.routeAttempt ≤ P.maxRelayRouteAttempts := by
  obtain ⟨⟨_, _, valid⟩, hops, _, _, _, built⟩ := hi
  obtain ⟨-, -, -, -, hattempt, -⟩ := hlaws.builds built
  rw [hattempt]
  exact ⟨hops, hlaws.bounded valid hops⟩

theorem RelayChain.bounded (hc : RelayChain P route) :
    ∀ r ∈ route, r.routeAttempt ≤ maximumRelayRouteHops ∧ r.routeAttempt ≤ P.maxRelayRouteAttempts := by
  induction hc with
  | first issued => exact List.forall_mem_singleton.2 (issued.bounded hlaws)
  | next _ issued _ ih => exact List.forall_mem_append.2 ⟨ih, List.forall_mem_singleton.2 (issued.bounded hlaws)⟩

theorem RelayChain.gapless (hc : RelayChain P route) : Gapless receiptDigest route := by
  induction hc with
  | @first descriptor receipt issued attempt unpreceded =>
    obtain ⟨-, -, _, _, _, built⟩ := issued
    obtain ⟨-, -, -, -, hattempt, hpredecessor, -⟩ := hlaws.builds built
    refine ⟨?_, ?_, .singleton _⟩
    · rw [List.map_singleton, hattempt, attempt]; rfl
    · intro r hr
      cases hr
      rw [hpredecessor, unpreceded]
  | @next route last descriptor receipt chain issued transition ih =>
    obtain ⟨-, -, _, _, _, built⟩ := issued
    obtain ⟨-, -, -, -, hattempt, hpredecessor, -⟩ := hlaws.builds built
    obtain ⟨hnext, hnames⟩ := hlaws.transition transition
    have hnew : receipt.routeAttempt.toNat = route.length + 2 := by
      -- Attempts are far below the end of the counter, so the successor does not wrap.
      have hsmall := (chain.bounded hlaws last (by simp)).1
      have hlast := ih.last_attempt
      rw [hattempt, hnext, toNat_add_of_lt (Nat.lt_of_le_of_lt (Nat.succ_le_succ hsmall) (by decide)), hlast]
      rfl
    refine ⟨?_, ?_, ?_⟩
    · have hlength : (route ++ [last] ++ [receipt]).length = (route ++ [last]).length + 1 := List.length_append
      have hattempt : receipt.routeAttempt.toNat = 1 + 1 * (route ++ [last]).length := by
        rw [hnew, List.length_append, List.length_singleton]
        omega
      rw [List.map_append, ih.attempts, List.map_singleton, hattempt, hlength, List.range'_concat]
    · intro r hr
      refine ih.unpreceded r ?_
      rwa [List.head?_append_of_ne_nil _ (by simp)] at hr
    · refine List.isChain_append.2 ⟨ih.names, .singleton _, fun r hr r' hr' => ?_⟩
      cases hr'
      rw [List.getLast?_append, List.getLast?_singleton] at hr
      cases hr
      rw [hpredecessor, hnames]

end

/-! ## What a write does to the relay journal -/

/-- A write leaves the relay journal alone, or it adds the receipt of one admitted descriptor. -/
inductive RelayMove (P : Protocol) (h : Host) (d d' : AuthorityDocument) (c : Call) : Prop
  | keep (admissions : d'.relayAdmissions = d.relayAdmissions)
    (bindings : d'.relayAdmissionBindings = d.relayAdmissionBindings)
    (next : d'.nextRelayAdmissionSequence = d.nextRelayAdmissionSequence)
  | admitRelaySideEffects {descriptor lookupDigest receipt} (call : c = .admitRelaySideEffects descriptor)
    (owner : descriptor.ownerID = d.ownerID) (agent : descriptor.agentID = d.agentID)
    (authority : descriptor.writerFence.body.authorityID = d.authorityID)
    (writer : holdsWriter d descriptor.writerFence = true)
    (current : carriesCurrentFence P d descriptor.writerFence = true)
    (valid : P.validateRelayDescriptor d.authorityID descriptor (h.clock 1) = .ok ())
    (hops : descriptor.routeAttempt ≤ maximumRelayRouteHops)
      (looked : P.relayLookupDigest (P.relayLookup descriptor) = .ok lookupDigest)
    (absent : d.relayAdmissions.get? lookupDigest = none)
    (room : d.relayAdmissions.entries.length < maximumRelayAdmissions)
      (continues : relayRouteContinues P d descriptor = true)
    (built : ∃ issuedAt startNotAfter, P.buildRelayReceipt descriptor d.nextRelayAdmissionSequence issuedAt
      startNotAfter = .ok receipt)
    (admissions : d'.relayAdmissions = d.relayAdmissions.put lookupDigest receipt)
    (bindings : d'.relayAdmissionBindings = d.relayAdmissionBindings.put
      (relayAdmissionStableBindingKey descriptor.ownerID descriptor.agentID descriptor.stableActionID) lookupDigest)
    (next : d'.nextRelayAdmissionSequence = d.nextRelayAdmissionSequence + 1)

theorem Writes.relay (hw : Writes P h d c d') : RelayMove P h d d' c := by
  cases hw with
  | admitRelaySideEffects writer absent owner agent authority current valid looked room continues _ built bound hops =>
    subst bound
    exact .admitRelaySideEffects rfl owner agent authority writer current valid hops looked absent room continues
      ⟨_, built⟩ rfl rfl rfl
  | releaseReservation =>
    exact .keep (disposeLoss_proj (·.relayAdmissions)) (disposeLoss_proj (·.relayAdmissionBindings))
      (disposeLoss_proj (·.nextRelayAdmissionSequence))
  | pay =>
    exact .keep (storeRecord_proj (·.relayAdmissions)) (storeRecord_proj (·.relayAdmissionBindings))
      (storeRecord_proj (·.nextRelayAdmissionSequence))
  | settle _ _ _ _ _ _ _ only =>
    subst only
    exact .keep (storeRecord_proj (·.relayAdmissions)) (storeRecord_proj (·.relayAdmissionBindings))
      (storeRecord_proj (·.nextRelayAdmissionSequence))
  | _ => exact .keep rfl rfl rfl

/-! ## The journal -/

/-- The binding index, the receipts and the counter agree. -/
structure RelayJournal (P : Protocol) (d : AuthorityDocument) : Prop where
  owned : ∀ k r, d.relayAdmissions.get? k = some r → P.relayLookupDigest (receiptLookup r) = .ok k ∧
    r.ownerID = d.ownerID ∧ r.agentID = d.agentID ∧ r.authorityID = d.authorityID ∧
      P.verifyRelayReceiptSignature r = .ok ()
  sequences : (d.relayAdmissions.entries.map (·.2.admissionSequence.toNat)).Perm
    (List.range' 1 d.relayAdmissions.entries.length)
  next : d.nextRelayAdmissionSequence.toNat = d.relayAdmissions.entries.length + 1
  room : d.relayAdmissions.entries.length ≤ maximumRelayAdmissions
  routes : ∀ key, ∃ route,
    (d.relayAdmissions.entries.filter fun e => RelayAdmissionReceipt.bindingKey e.2 == key).Perm route ∧
      (route = [] ∨ RelayChain P (route.map (·.2))) ∧ d.relayAdmissionBindings.get? key = route.getLast?.map (·.1)

theorem fresh_relayJournal (ownerID agentID authorityID : String) (limits : PortfolioLimits) :
    RelayJournal P (AuthorityDocument.fresh ownerID agentID authorityID limits) :=
  ⟨nofun, .nil, rfl, Nat.zero_le _, fun _ => ⟨[], .nil, .inl rfl, rfl⟩⟩

theorem RelayJournal.of_eq (hj : RelayJournal P d)
    (howner : d'.ownerID = d.ownerID ∧ d'.agentID = d.agentID ∧ d'.authorityID = d.authorityID)
    (hadmissions : d'.relayAdmissions = d.relayAdmissions)
    (hbindings : d'.relayAdmissionBindings = d.relayAdmissionBindings)
    (hnext : d'.nextRelayAdmissionSequence = d.nextRelayAdmissionSequence) : RelayJournal P d' := by
  obtain ⟨owner, agent, authority⟩ := howner
  refine ⟨?_, ?_, ?_, ?_, ?_⟩
  · rw [hadmissions, owner, agent, authority]; exact hj.owned
  · rw [hadmissions]; exact hj.sequences
  · rw [hadmissions, hnext]; exact hj.next
  · rw [hadmissions]; exact hj.room
  · rw [hadmissions, hbindings]; exact hj.routes

theorem RelayJournal.extend (hj : RelayJournal P d) {descriptor : RelayAdmissionDescriptor}
    (hi : IssuedFor P descriptor receipt) (hc : relayRouteContinues P d descriptor = true) :
    ∃ route, (d.relayAdmissions.entries.filter fun e => RelayAdmissionReceipt.bindingKey e.2 ==
        relayAdmissionStableBindingKey descriptor.ownerID descriptor.agentID descriptor.stableActionID).Perm route ∧
      RelayChain P (route.map (·.2) ++ [receipt]) := by
  obtain ⟨route, hperm, hchain, hbound⟩ :=
    hj.routes (relayAdmissionStableBindingKey descriptor.ownerID descriptor.agentID descriptor.stableActionID)
  refine ⟨route, hperm, ?_⟩
  unfold relayRouteContinues at hc
  rw [hbound] at hc
  rcases List.eq_nil_or_concat route with rfl | ⟨init, last, rfl⟩
  · -- A new route starts with attempt 1.
    simp only [List.getLast?_nil, Option.map_none, Bool.and_eq_true, beq_iff_eq] at hc
    exact .first hi hc.1 hc.2
  · -- The bound receipt is the newest of the route.
    have hlast : d.relayAdmissions.get? last.1 = some last.2 := by
      refine Map.mem_entries.1 (List.mem_of_mem_filter (hperm.mem_iff.2 ?_))
      simp
    simp only [List.concat_eq_append, List.getLast?_append, List.getLast?_singleton, Option.some_or,
      Option.map_some, hlast, beq_iff_eq] at hc
    have hroute : RelayChain P (init.map (·.2) ++ [last.2]) := by
      have hsome := hchain.resolve_left (by simp)
      simpa using hsome
    have hnext := RelayChain.next hroute hi hc
    simpa using hnext

theorem RelayJournal.write (hlaws : RelayLaws P receiptDigest) (hj : RelayJournal P d) (hw : Writes P h d c d') :
    RelayJournal P d' := by
  have howner := hw.owner
  cases hw.relay with
  | keep admissions bindings next => exact hj.of_eq howner admissions bindings next
  | @admitRelaySideEffects descriptor lookupDigest receipt _ owner agent authority _ _ valid hops looked absent room
    continues built
      admissions bindings next =>
    obtain ⟨issuedAt, startNotAfter, built⟩ := built
    have hissued : IssuedFor P descriptor receipt := ⟨⟨_, _, valid⟩, hops, _, _, _, built⟩
    obtain ⟨hown, hagent, hauthority, hstable, -, -, hsequence, hlookup, hsigned⟩ := hlaws.builds built
    have hentries : d'.relayAdmissions.entries = ⟨lookupDigest, receipt⟩ :: d.relayAdmissions.entries := by
      rw [admissions]
      exact Map.entries_put_absent absent
    have hkey : RelayAdmissionReceipt.bindingKey receipt =
        relayAdmissionStableBindingKey descriptor.ownerID descriptor.agentID descriptor.stableActionID := by
      rw [RelayAdmissionReceipt.bindingKey, hown, hagent, hstable]
    have hnext := hj.next
    refine ⟨fun k r hr => ?_, ?_, ?_, ?_, fun key => ?_⟩
    · rw [howner.1, howner.2.1, howner.2.2]
      refine Map.forall_put (hj.owned _ _) ?_ (admissions ▸ hr)
      exact ⟨by rw [hlookup, looked], hown.trans owner, hagent.trans agent, hauthority.trans authority, hsigned⟩
    · -- The new receipt takes the number after the last.
      rw [hentries, List.map_cons, List.length_cons, List.range'_concat, hsequence, hnext, Nat.one_mul, Nat.add_comm]
      exact (hj.sequences.cons _).trans (List.perm_append_singleton _ _).symm
    · have hroom : maximumRelayAdmissions = 4096 := rfl
      have hone : (1 : UInt64).toNat = 1 := rfl
      rw [next, hentries, List.length_cons, toNat_add_of_lt (by omega), hnext]
      rfl
    · rw [hentries, List.length_cons]; exact room
    · by_cases hk : key = relayAdmissionStableBindingKey descriptor.ownerID descriptor.agentID descriptor.stableActionID
      · subst hk
        obtain ⟨route, hperm, hchain⟩ := hj.extend hissued continues
        refine ⟨route ++ [⟨lookupDigest, receipt⟩], ?_, .inr (by rw [List.map_append]; exact hchain), ?_⟩
        · rw [hentries, List.filter_cons_of_pos (by simp [hkey])]
          exact (hperm.cons _).trans (List.perm_append_singleton _ _).symm
        · rw [bindings, Map.get?_put_self, List.getLast?_concat]; rfl
      · obtain ⟨route, hperm, hchain, hbound⟩ := hj.routes key
        refine ⟨route, ?_, hchain, ?_⟩
        · rw [hentries, List.filter_cons_of_neg (by simpa [hkey] using Ne.symm hk)]
          exact hperm
        · rw [bindings, Map.get?_put_ne _ _ hk]; exact hbound

theorem RelayJournal.lapse {now : Time} (hj : RelayJournal P d) (he : Expiry now d d') : RelayJournal P d' := by
  obtain ⟨-, _, _, -, -, lapse⟩ := he
  have howner := lapse.owner
  cases lapse <;> exact hj.of_eq howner rfl rfl rfl

theorem reachable_relayJournal (hlaws : RelayLaws P receiptDigest) (ha : Reachable P a) : RelayJournal P a.doc :=
  reachable_invariant fresh_relayJournal (fun _ hj he => hj.lapse he) (fun _ hj hw => hj.write hlaws hw) ha

/-! ## Restarts -/

theorem relayRoute_eq {order : RangeOrder} {key : String} {route : List ((_ : String) × RelayAdmissionReceipt)}
    (hperm : (d.relayAdmissions.entries.filter fun e => RelayAdmissionReceipt.bindingKey e.2 == key).Perm route)
    (hg : Gapless receiptDigest (route.map (·.2))) : relayRoute order d key = route := by
  let attempt : ((_ : String) × RelayAdmissionReceipt) → UInt64 := fun e => e.2.routeAttempt
  let le : ((_ : String) × RelayAdmissionReceipt) → ((_ : String) × RelayAdmissionReceipt) → Prop :=
    fun e e' => attempt e ≤ attempt e'
  have hattempts : route.map (fun e => (attempt e).toNat) = List.range' 1 route.length := by
    have hall := hg.attempts
    rwa [List.map_map, List.length_map] at hall
  have hlt : route.Pairwise fun e e' => (attempt e).toNat < (attempt e').toNat := by
    rw [← List.pairwise_map, hattempts]
    exact List.pairwise_lt_range'
  have hinj := List.inj_on_of_nodup_map (hattempts ▸ List.nodup_range' : (route.map fun e => (attempt e).toNat).Nodup)
  have hsorted : (relayRoute order d key).Pairwise le := List.pairwise_insertionSort le _
  have hsame :=
    (List.perm_insertionSort le _).trans (((Map.range_perm order 10 d.relayAdmissions).filter _).trans hperm)
  refine List.Perm.eq_of_pairwise (fun e e' he he' hle hle' => ?_) hsorted (hlt.imp fun h => Nat.le_of_lt h) hsame
  exact hinj (hsame.mem_iff.1 he) he' (Nat.le_antisymm hle hle')

theorem RelayJournal.receipts_load (hj : RelayJournal P d) (order : RangeOrder) :
    ∃ seen, (d.relayAdmissions.range order 10).foldlM (loadRelayReceipt P d) [] = .ok seen ∧
      (seen.map (·.toNat)).Perm (List.range' 1 d.relayAdmissions.entries.length) := by
  have hrange := Map.range_perm order 10 d.relayAdmissions
  have hdistinct : ((d.relayAdmissions.range order 10).map (·.2.admissionSequence)).Nodup := by
    refine List.Nodup.of_map (·.toNat) ?_
    rw [List.map_map]
    exact ((hrange.map _).nodup_iff.2 (hj.sequences.nodup_iff.2 List.nodup_range'))
  have hfold := foldlM_total (f := loadRelayReceipt P d)
    (fun done seen => seen = (done.map (·.2.admissionSequence)).reverse) (d.relayAdmissions.range order 10) ?_
    (d.relayAdmissions.range order 10) [] [] rfl rfl
  · obtain ⟨seen, hseen, rfl⟩ := hfold
    refine ⟨_, hseen, ?_⟩
    rw [List.map_reverse]
    refine (List.reverse_perm _).trans ?_
    rw [List.map_map]
    exact (hrange.map _).trans hj.sequences
  · intro done entry rest seen hall hseen
    subst hseen
    have hmem : entry ∈ d.relayAdmissions.range order 10 := by rw [hall]; simp
    have hget := Map.mem_range.1 hmem
    obtain ⟨hlookup, howner, hagent, hauthority, hsigned⟩ := hj.owned _ _ hget
    have hpositive : entry.2.admissionSequence ≠ 0 := by
      intro hzero
      have hin := hj.sequences.mem_iff.1 (List.mem_map_of_mem (Map.mem_entries.2 hget))
      rw [List.mem_range'_1, hzero] at hin
      exact absurd hin.1 (by decide)
    have hvalid : relayReceiptValid P d entry.1 entry.2 = true := by
      simp [relayReceiptValid, hlookup, howner, hagent, hauthority, hsigned, hpositive]
    have hfresh : entry.2.admissionSequence ∉ (done.map (·.2.admissionSequence)).reverse := by
      rw [hall, List.map_append, List.nodup_append] at hdistinct
      intro hin
      exact hdistinct.2.2 _ (List.mem_reverse.1 hin) _ (by simp) rfl
    refine ⟨entry.2.admissionSequence :: (done.map (·.2.admissionSequence)).reverse, ?_, by simp⟩
    simp only [loadRelayReceipt, refuse, hvalid, hfresh, Bool.true_eq_false, if_false]
    rfl

theorem RelayJournal.routes_load (hlaws : RelayLaws P receiptDigest) (hj : RelayJournal P d) (order : RangeOrder) :
    ∃ expected,
      (((d.relayAdmissions.range order 10).map fun e => RelayAdmissionReceipt.bindingKey e.2).dedup).foldlM
        (loadRelayRoute P order d) ∅ = .ok expected ∧ ∀ key, expected.get? key = d.relayAdmissionBindings.get? key := by
  let keys := ((d.relayAdmissions.range order 10).map fun e => RelayAdmissionReceipt.bindingKey e.2).dedup
  have hkeys : ∀ {key}, key ∈ keys ↔
      ∃ e ∈ d.relayAdmissions.entries, RelayAdmissionReceipt.bindingKey e.2 = key := by
    intro key
    rw [List.mem_dedup, ((Map.range_perm order 10 d.relayAdmissions).map _).mem_iff, List.mem_map]
  have hloop := foldlM_total (f := loadRelayRoute P order d)
    (fun done expected => ∀ key,
      expected.get? key = if key ∈ done then d.relayAdmissionBindings.get? key else none) keys ?_ keys [] ∅ rfl
    (fun key => by simp)
  · obtain ⟨expected, hfold, hexpected⟩ := hloop
    refine ⟨expected, hfold, fun key => ?_⟩
    rw [hexpected]
    split
    · rfl
    · -- A key without receipts has no route, so it is not bound.
      rename_i hnot
      obtain ⟨route, hperm, -, hbound⟩ := hj.routes key
      have hnone : route = [] := by
        refine List.eq_nil_iff_forall_not_mem.2 fun e he => hnot (hkeys.2 ⟨e, ?_⟩)
        have hin := hperm.mem_iff.2 he
        exact ⟨List.mem_of_mem_filter hin, by simpa using List.of_mem_filter hin⟩
      rw [hbound, hnone]
      rfl
  · intro done key rest expected hall hdone
    obtain ⟨route, hperm, hchain, hbound⟩ := hj.routes key
    obtain ⟨e, he, hekey⟩ := hkeys.1 (by rw [hall]; simp : key ∈ keys)
    have hin : e ∈ route := hperm.mem_iff.1 (List.mem_filter.2 ⟨he, by simpa using hekey⟩)
    have hchain := hchain.resolve_left (List.ne_nil_of_mem hin)
    have hgapless := hchain.gapless hlaws
    obtain ⟨init, last, rfl⟩ := (List.eq_nil_or_concat' route).resolve_left (List.ne_nil_of_mem hin)
    have hlength : ¬ (init ++ [last]).length > P.maxRelayRouteAttempts.toNat := by
      have hlast := (hchain.bounded hlaws last.2 (by simp)).2
      rw [List.map_append] at hgapless
      have hcount : last.2.routeAttempt.toNat = (init.map (·.2)).length + 1 := Gapless.last_attempt hgapless
      rw [List.length_map] at hcount
      have hle : last.2.routeAttempt.toNat ≤ P.maxRelayRouteAttempts.toNat := hlast
      rw [List.length_append, List.length_singleton]
      omega
    refine ⟨expected.put key last.1, ?_, fun key' => ?_⟩
    · simp only [loadRelayRoute, relayRoute_eq hperm hgapless, refuse, if_neg hlength, hlaws.chain hchain, ne_eq,
        not_true_eq_false, if_false, List.getLast?_append, List.getLast?_singleton, Option.some_or]
      rfl
    · rw [Map.get?_put, hdone key']
      by_cases hk : key' = key
      · subst hk
        simp [hbound]
      · simp [hk]

theorem toNat_foldl_max (l : List UInt64) (m : UInt64) :
    (l.foldl max m).toNat = (l.map (·.toNat)).foldl max m.toNat := by
  rw [List.foldl_map]
  refine (List.foldl_hom UInt64.toNat fun m a => ?_).symm
  show max m.toNat a.toNat = (if m ≤ a then a else m).toNat
  split
  · rename_i hle
    exact max_eq_right (UInt64.le_iff_toNat_le.1 hle)
  · rename_i hle
    exact max_eq_left (Nat.le_of_not_le fun h => hle (UInt64.le_iff_toNat_le.2 h))

theorem foldl_max_range' (n : ℕ) : (List.range' 1 n).foldl max 0 = n := by
  induction n with
  | zero => rfl
  | succ n ih =>
    rw [List.range'_concat, List.foldl_append, ih]
    show max n (1 + 1 * n) = n + 1
    omega

theorem equalBindings {left right : Map String String} (hsame : ∀ key, left.get? key = right.get? key) :
    equalRelayAdmissionBindings right left = true := by
  have hperm : left.entries.Perm right.entries :=
    List.lookup_ext left.nodupKeys right.nodupKeys fun key value => by
      have hlookup : List.dlookup key left.entries = List.dlookup key right.entries := hsame key
      rw [hlookup]
  rw [equalRelayAdmissionBindings, Bool.and_eq_true, beq_iff_eq, Map.all_iff]
  exact ⟨hperm.length_eq.symm, fun key value hv => by rw [hsame, hv]; simp⟩

theorem RelayJournal.bindings_le (hj : RelayJournal P d) :
    d.relayAdmissionBindings.entries.length ≤ d.relayAdmissions.entries.length := by
  have hsub : d.relayAdmissionBindings.keys ⊆
      d.relayAdmissions.entries.map fun e => RelayAdmissionReceipt.bindingKey e.2 := by
    intro key hkey
    obtain ⟨⟨_, value⟩, he, rfl⟩ := List.mem_map.1 hkey
    obtain ⟨route, hperm, -, hbound⟩ := hj.routes _
    rw [Map.mem_entries.1 he] at hbound
    obtain ⟨last, hlast, -⟩ := Option.map_eq_some_iff.1 hbound.symm
    have hin := hperm.mem_iff.2 (List.mem_of_getLast? hlast)
    exact List.mem_map.2 ⟨last, List.mem_of_mem_filter hin, by simpa using List.of_mem_filter hin⟩
  have hlength := (List.subperm_of_subset d.relayAdmissionBindings.keys_nodup hsub).length_le
  rw [List.length_map] at hlength
  exact (List.length_map _).symm.trans_le hlength

theorem RelayJournal.load (hlaws : RelayLaws P receiptDigest) (hj : RelayJournal P d) (order : RangeOrder) :
    loadRelayAdmissions P order d = .ok d := by
  obtain ⟨seen, hseen, hsequences⟩ := hj.receipts_load order
  obtain ⟨expected, hexpected, hbindings⟩ := hj.routes_load hlaws order
  have hmax : (seen.foldl max 0).toNat = d.relayAdmissions.entries.length := by
    rw [toNat_foldl_max, hsequences.foldl_eq]
    exact foldl_max_range' _
  have hnext := hj.next
  have hroom := hj.room
  have hlimit : maximumRelayAdmissions = 4096 := rfl
  have hnumbered : ¬ (d.nextRelayAdmissionSequence = 0 ∧ d.relayAdmissions.entries = []) := fun hz => by
    rw [hz.1] at hnext
    cases hnext
  have hcapacity : ¬ (d.relayAdmissions.entries.length > maximumRelayAdmissions ∨
      d.relayAdmissionBindings.entries.length > maximumRelayAdmissions) := by
    have hbound := hj.bindings_le
    omega
  have hwater : ¬ (seen.foldl max 0 = 0 - 1 ∨ d.nextRelayAdmissionSequence ≠ seen.foldl max 0 + 1) := by
    rw [not_or, not_not]
    constructor
    · intro hall
      rw [hall] at hmax
      have hlast : (0 - 1 : UInt64).toNat = 2 ^ 64 - 1 := by decide
      omega
    · have hone : (1 : UInt64).toNat = 1 := rfl
      rw [← UInt64.toNat_inj, toNat_add_of_lt (by omega), hmax, hnext]
      rfl
  have hrebuilt : ¬ (d.relayAdmissionBindings.entries = [] ∧ expected.entries ≠ []) := by
    rintro ⟨hempty, hsome⟩
    obtain ⟨⟨key, value⟩, he⟩ := List.exists_mem_of_ne_nil _ hsome
    have hget := Map.mem_entries.1 he
    rw [hbindings, ← Map.mem_entries, hempty] at hget
    cases hget
  have hequal : ¬ (equalRelayAdmissionBindings d.relayAdmissionBindings expected = false) := by
    rw [equalBindings hbindings]
    exact Bool.noConfusion
  unfold loadRelayAdmissions
  rw [if_neg hnumbered]
  dsimp only
  rw [refuse, if_neg hcapacity, hseen]
  simp only [bind, Except.bind]
  rw [hexpected]
  rw [refuse, if_neg hwater]
  dsimp only
  rw [if_neg hrebuilt, refuse, if_neg hequal]
  rfl

/-- The document with the writer and the relay journal of `d` and nothing else. -/
def relayDocument (d : AuthorityDocument) : AuthorityDocument :=
  { AuthorityDocument.fresh d.ownerID d.agentID d.authorityID d.limits with
    writerGeneration := d.writerGeneration, currentFence := d.currentFence
    nextRelayAdmissionSequence := d.nextRelayAdmissionSequence, relayAdmissions := d.relayAdmissions
    relayAdmissionBindings := d.relayAdmissionBindings }

def Call.relays : Call → Bool
  | .acquireWriter _ _ _ | .admitRelaySideEffects _ => true
  | _ => false

/-- Writers, admissions and restarts: the events of relay runs. -/
def Event.relays (e : Event) : Bool :=
  match e.request with
  | .call c => c.relays
  | .reopen _ => true
  | .message _ _ => false

theorem Writes.relayDocument (hw : Writes P h d c d') (hc : c.relays = true)
    (hd : Authority.relayDocument d = d) : Authority.relayDocument d' = d' := by
  cases hw with
  | @acquireWriter _ _ _ fence =>
    exact congrArg (fun d : AuthorityDocument =>
      { d with writerGeneration := d.writerGeneration + 1, currentFence := some fence }) hd
  | @admitRelaySideEffects _ lookupDigest receipt key =>
    exact congrArg (fun d : AuthorityDocument =>
      { d with
        relayAdmissions := d.relayAdmissions.put lookupDigest receipt
        relayAdmissionBindings := d.relayAdmissionBindings.put key lookupDigest
        nextRelayAdmissionSequence := d.nextRelayAdmissionSequence + 1 }) hd
  | _ => cases hc

theorem step_relayDocument (hwf : WF P a.doc) (he : e.relays = true)
    (hd : relayDocument a.doc = a.doc) : relayDocument (step P a e).doc = (step P a e).doc := by
  refine step_keeps (I := fun d => relayDocument d = d) hwf hd (fun {d _} _ hd hx => ?_)
    (fun {c d} hc _ _ hd hw => hw.relayDocument ?_ hd)
  · -- Nothing was issued, so nothing lapses.
    obtain ⟨-, k, issued, hissued, -⟩ := hx
    rw [← hd] at hissued
    cases hissued
  · rcases e with ⟨host, request⟩
    cases request with
    | message => cases he
    | reopen => cases hc
    | call c' => cases hc; exact he

theorem RelayJournal.load_document (hlaws : RelayLaws P receiptDigest) (hj : RelayJournal P d)
    (hd : relayDocument d = d) (h : Host) : Authority.load P h d = .ok d := by
  have hrelay := hj.load hlaws h.range
  rw [← hd] at hrelay ⊢
  have hempty : ∀ {V} site, (∅ : Map String V).range h.range site = [] := fun site =>
    (Map.range_perm h.range site ∅).eq_nil
  have hexceeds : exceeds 0 0 d.limits.maximumLossAtomic = false := by simp [exceeds]
  have hlosses : loadLosses P h.range (relayDocument d) = .ok () := by
    simp [loadLosses, portfolioUsage, relayDocument, AuthorityDocument.fresh, hexceeds, hempty, refuse, Map.all, bind,
      Except.bind, pure, Except.pure]
  have hindexes : loadIndexes P (relayDocument d) = .ok () := rfl
  have hledgers : loadLedgers P (relayDocument d) = .ok () := rfl
  have hdependencies : P.validatePortfolioDependencies (relayDocument d).dependencies = .ok () := hlaws.dependencies
  have hrecords : Map.mapVal (fun _ record => initializeObligationRuntime record) (∅ : Map String EngagementRecord) =
    ∅ := rfl
  unfold Authority.load
  rw [hlosses, hindexes, hrelay]
  simp only [bind, Except.bind, hledgers, hdependencies]
  simp [relayDocument, AuthorityDocument.fresh, hempty, hrecords, refuse, pure, Except.pure, Map.all]

/-! ## Fences -/

/-- The fence an event returns to a writer. -/
def returnedFence (P : Protocol) (a : PersonalAuthority) (e : Event) : Option WriterFence :=
  match e.request with
  | .call (.acquireWriter instanceID scope ttl) =>
    match ((acquireWriter P e.host instanceID scope ttl).run P e.host a).2 with
    | .ok fence => some fence
    | .error _ => none
  | _ => none

def returnedFences (P : Protocol) : PersonalAuthority → List Event → List WriterFence
  | _, [] => []
  | a, e :: es => (returnedFence P a e).toList ++ returnedFences P (step P a e) es

theorem Writes.generation_le (hw : Writes P h d c d') : d.writerGeneration ≤ d'.writerGeneration := by
  by_cases hc : ∃ instanceID scope ttl, c = .acquireWriter instanceID scope ttl
  · obtain ⟨_, _, _, rfl⟩ := hc
    cases hw with
    | acquireWriter room => exact le_of_lt (lt_succ room)
  · rw [(hw.sameWriter fun i s t hsame => hc ⟨i, s, t, hsame⟩).generation]

theorem step_generation_le (hwf : WF P a.doc) (e : Event) :
    a.doc.writerGeneration ≤ (step P a e).doc.writerGeneration :=
  step_keeps hwf (UInt64.le_refl _)
    (fun _ hle ⟨_, _, _, _, _, lapse⟩ => by cases lapse <;> exact hle)
    (fun _ _ _ hle hw => UInt64.le_trans hle hw.generation_le)

/-- A returned fence carries the generation its acquisition stored, which is a new one. -/
theorem returnedFence_generation (hlaws : RelayLaws P receiptDigest) {fence : WriterFence}
    (hf : returnedFence P a e = some fence) :
    fence.body.writerGeneration = (step P a e).doc.writerGeneration ∧
      a.doc.writerGeneration < fence.body.writerGeneration := by
  rcases e with ⟨host, request⟩
  unfold returnedFence at hf
  split at hf
  · rename_i instanceID scope ttl hrequest
    subst hrequest
    split at hf
    · rename_i returned hrun
      cases hf
      obtain ⟨d, hr⟩ := run_returns hrun
      have hd : d = a.doc := hr.idle rfl
      subst hd
      have hstep : step P a ⟨host, .call (.acquireWriter instanceID scope ttl)⟩ =
          ((acquireWriter P host instanceID scope ttl).run P host a).1 := by
        simp [step, perform, Call.operation, run_map]
      rw [hstep]
      rcases hr.accepted with ⟨hb, -⟩ | ⟨next, hb, hdoc⟩
      · simp only [acquireWriter, peel, reduceCtorEq, and_false, exists_false] at hb
      · simp only [acquireWriter, peel] at hb
        obtain ⟨room, leaseID, -, signed, hsigned, hstore⟩ := hb
        cases hstore
        rw [hdoc, hlaws.signs hsigned]
        exact ⟨rfl, lt_succ room⟩
    · cases hf
  · cases hf

/-- The fences returned so far have growing generations, none beyond the document's. -/
structure Fenced (fences : List WriterFence) (d : AuthorityDocument) : Prop where
  growing : fences.Pairwise fun f f' => f.body.writerGeneration < f'.body.writerGeneration
  bounded : ∀ f ∈ fences, f.body.writerGeneration ≤ d.writerGeneration

theorem run_fenced (hlaws : RelayLaws P receiptDigest) :
    ∀ es {a} {fences}, WF P a.doc → Fenced fences a.doc →
      Fenced (fences ++ returnedFences P a es) (exec (step P) a es).doc
  | [], a, fences, _, hf => by simpa [returnedFences] using hf
  | e :: es, a, fences, hwf, hf => by
    have hgrows := step_generation_le hwf e
    have hstep : Fenced (fences ++ (returnedFence P a e).toList) (step P a e).doc := by
      cases hr : returnedFence P a e with
      | none =>
        rw [Option.toList_none, List.append_nil]
        exact ⟨hf.growing, fun f hin => UInt64.le_trans (hf.bounded f hin) hgrows⟩
      | some fence =>
        obtain ⟨hgeneration, hnew⟩ := returnedFence_generation hlaws hr
        have hlt := fun f hin => UInt64.lt_of_le_of_lt (hf.bounded f hin) hnew
        exact ⟨List.pairwise_append.2 ⟨hf.growing, List.pairwise_singleton _ _, fun f hin =>
          List.forall_mem_singleton.2 (hlt f hin)⟩,
          List.forall_mem_append.2 ⟨fun f hin => UInt64.le_trans (hf.bounded f hin) hgrows,
            List.forall_mem_singleton.2 (UInt64.le_of_eq hgeneration)⟩⟩
    have hrun := run_fenced hlaws es (step_wf a e hwf) hstep
    rwa [List.append_assoc] at hrun

theorem Fenced.last {fences : List WriterFence} (hf : Fenced fences d) {fence : WriterFence} (hin : fence ∈ fences)
    (hcurrent : fence.body.writerGeneration = d.writerGeneration) : fences.getLast? = some fence := by
  obtain ⟨init, last, rfl⟩ := (List.eq_nil_or_concat' fences).resolve_left (List.ne_nil_of_mem hin)
  rw [List.getLast?_append, List.getLast?_singleton, Option.some_or]
  rcases List.mem_append.1 hin with hold | hlast
  · -- An older fence has a smaller generation than the last one.
    have hlt := (List.pairwise_append.1 hf.growing).2.2 fence hold last (by simp)
    rw [hcurrent] at hlt
    exact absurd (hf.bounded last (by simp)) (UInt64.not_le.2 hlt)
  · rw [List.mem_singleton.1 hlast]

theorem expiries_relayAdmissions {now : Time} (hs : Relation.ReflTransGen (Expiry now) d d') :
    d'.relayAdmissions = d.relayAdmissions := by
  induction hs with
  | refl => rfl
  | tail _ hlast ih =>
    obtain ⟨-, _, _, -, -, lapse⟩ := hlast
    rw [← ih]
    cases lapse <;> rfl

/-- An event that changes the receipts admits a descriptor that carries the current fence. -/
theorem admission_fence (hlaws : RelayLaws P receiptDigest) (hwf : WF P a.doc)
    (hne : (step P a e).doc.relayAdmissions ≠ a.doc.relayAdmissions) :
    ∃ descriptor, e.call? P a.doc = .ok (some (.admitRelaySideEffects descriptor)) ∧
      a.doc.currentFence = some descriptor.writerFence ∧
      descriptor.writerFence.body.writerGeneration = a.doc.writerGeneration := by
  obtain ⟨d, hsteps, hidle, hd | ⟨c, hc, hw⟩⟩ := step_cases hwf e
  · exact absurd (by rw [hd, expiries_relayAdmissions hsteps]) hne
  · cases hw.relay with
    | keep admissions => exact absurd (by rw [admissions, expiries_relayAdmissions hsteps]) hne
    | @admitRelaySideEffects descriptor _ _ call _ _ _ writer current =>
      subst call
      have hsame : d = a.doc := hidle (by rw [Event.expires_call hc]; rfl)
      subst hsame
      refine ⟨descriptor, hc, ?_, ?_⟩
      · unfold carriesCurrentFence at current
        split at current
        · rename_i wanted got hwanted hgot
          obtain ⟨fence, hfence, hdigest⟩ := Option.map_eq_some_iff.1 hwanted
          rw [hfence, hlaws.fences hdigest (beq_iff_eq.1 current ▸ hgot)]
        · cases current
      · unfold holdsWriter at writer
        split at writer
        · cases writer
        · rw [Bool.and_eq_true] at writer
          exact beq_iff_eq.1 writer.1

/-! ## The result -/

theorem bindingKey_inj {ownerID agentID stable stable' : String} :
    relayAdmissionStableBindingKey ownerID agentID stable = relayAdmissionStableBindingKey ownerID agentID stable' ↔
      stable = stable' := by
  refine ⟨fun heq => ?_, fun heq => heq ▸ rfl⟩
  simpa [relayAdmissionStableBindingKey] using heq

theorem RelayJournal.action_route (hlaws : RelayLaws P receiptDigest) (hj : RelayJournal P d) (stable : String) :
    ∃ route, (d.relayAdmissions.entries.filter fun e => e.2.stableActionID = stable).Perm route ∧
      Gapless receiptDigest (route.map (·.2)) ∧
      d.relayAdmissionBindings.get? (relayAdmissionStableBindingKey d.ownerID d.agentID stable) =
        route.getLast?.map (·.1) := by
  obtain ⟨route, hperm, hchain, hbound⟩ := hj.routes (relayAdmissionStableBindingKey d.ownerID d.agentID stable)
  refine ⟨route, ?_, ?_, hbound⟩
  · have hfilter : (d.relayAdmissions.entries.filter fun e => e.2.stableActionID = stable) =
        d.relayAdmissions.entries.filter fun e =>
          RelayAdmissionReceipt.bindingKey e.2 == relayAdmissionStableBindingKey d.ownerID d.agentID stable := by
      refine List.filter_congr fun e he => ?_
      obtain ⟨-, howner, hagent, -⟩ := hj.owned e.1 e.2 (Map.mem_entries.1 he)
      rw [RelayAdmissionReceipt.bindingKey, howner, hagent, Bool.eq_iff_iff, decide_eq_true_iff, beq_iff_eq,
        bindingKey_inj]
    rw [hfilter]
    exact hperm
  · rcases hchain with rfl | hchain
    · exact gapless_nil
    · exact hchain.gapless hlaws

/-- In every run of a fresh authority: the admission sequences of the receipts are exactly
1, …, `NextRelayAdmissionSequence` - 1, each once; every receipt is stored under its lookup digest; the
receipts of every action are one route of attempts 1, …, k, each naming the receipt before it, and the
binding index maps the action to the lookup digest of attempt k. An event that adds a receipt admits a
descriptor with the document's current fence, and if that fence was returned to a writer it is the one
returned last. A restart accepts the relay admissions, and in runs of writers, admissions and restarts
it accepts the whole document. -/
theorem relay_admissions_unforked (hlaws : RelayLaws P receiptDigest) (ownerID agentID authorityID : String)
    (limits : PortfolioLimits) (es : List Event) :
    let start := PersonalAuthority.fresh ownerID agentID authorityID limits
    let a := exec (step P) start es
    (a.doc.relayAdmissions.entries.map (·.2.admissionSequence.toNat)).Perm
        (List.range' 1 (a.doc.nextRelayAdmissionSequence.toNat - 1)) ∧
      (∀ k r, a.doc.relayAdmissions.get? k = some r →
        P.relayLookupDigest (receiptLookup r) = .ok k ∧ r.ownerID = a.doc.ownerID ∧ r.agentID = a.doc.agentID) ∧
      (∀ stable, ∃ route, (a.doc.relayAdmissions.entries.filter fun e => e.2.stableActionID = stable).Perm route ∧
        Gapless receiptDigest (route.map (·.2)) ∧
        a.doc.relayAdmissionBindings.get? (relayAdmissionStableBindingKey a.doc.ownerID a.doc.agentID stable) =
          route.getLast?.map (·.1)) ∧
      (∀ e, (step P a e).doc.relayAdmissions ≠ a.doc.relayAdmissions → ∃ descriptor,
        e.call? P a.doc = .ok (some (.admitRelaySideEffects descriptor)) ∧
        a.doc.currentFence = some descriptor.writerFence ∧
        (descriptor.writerFence ∈ returnedFences P start es →
          (returnedFences P start es).getLast? = some descriptor.writerFence)) ∧
      (∀ order, loadRelayAdmissions P order a.doc = .ok a.doc) ∧
      ((∀ e ∈ es, e.relays = true) → ∀ h, load P h a.doc = .ok a.doc) := by
  intro start a
  have ha : Reachable P a := ⟨ownerID, agentID, authorityID, limits, es, rfl⟩
  have hwf := reachable_wf ha
  have hj := reachable_relayJournal hlaws ha
  have hfenced : Fenced ([] ++ returnedFences P start es) a.doc :=
    run_fenced hlaws es (fresh_wf ownerID agentID authorityID limits) ⟨.nil, nofun⟩
  refine ⟨?_, fun k r hr => ?_, hj.action_route hlaws, fun e hne => ?_, hj.load hlaws, fun hrelays h => ?_⟩
  · rw [hj.next, Nat.add_sub_cancel]
    exact hj.sequences
  · obtain ⟨hlookup, howner, hagent, -⟩ := hj.owned k r hr
    exact ⟨hlookup, howner, hagent⟩
  · obtain ⟨descriptor, hc, hcurrent, hgeneration⟩ := admission_fence hlaws hwf hne
    exact ⟨descriptor, hc, hcurrent, fun hin => hfenced.last hin hgeneration⟩
  · refine hj.load_document hlaws ?_ h
    exact run_invariant (I := fun d => relayDocument d = d) rfl (fun a e hwf hd he => step_relayDocument hwf he hd)
      (along_of_forall hrelays)

/-! ## A route across two writers -/

namespace Sample

def secondFence : WriterFence :=
  { fence with body := { fence.body with writerGeneration := 2, issuedAtUnix := 150, expiresAtUnix := 3750 } }

def lookupText (lookup : RelayAdmissionLookup) : String := lookup.stableActionID ++ lookup.relayExecutionDigest

def relayReceipt (descriptor : RelayAdmissionDescriptor) (sequence issuedAt startNotAfter : UInt64) :
    RelayAdmissionReceipt :=
  { (default : RelayAdmissionReceipt) with
    ownerID := descriptor.ownerID, agentID := descriptor.agentID
    authorityID := descriptor.writerFence.body.authorityID, stableActionID := descriptor.stableActionID
    routeAttempt := descriptor.routeAttempt, predecessorReceiptDigest := descriptor.predecessorReceiptDigest
    relayExecutionDigest := descriptor.route, admissionSequence := sequence, issuedAtUnix := issuedAt
    startNotAfterUnix := startNotAfter }

/-- The protocol with relay admissions; a receipt is identified by its lookup. -/
def relaying : Protocol :=
  { protocol with
    writerFenceDigest := fun f =>
      if f = fence then .ok "first" else if f = secondFence then .ok "second" else .error "unknown fence"
    validateRelayDescriptor := fun _ _ _ => .ok ()
    relayLookup := fun descriptor => receiptLookup (relayReceipt descriptor 0 0 0)
    relayLookupDigest := fun lookup => .ok (lookupText lookup)
    verifyRelayReceipt := fun receipt descriptor _ =>
      if receipt.relayExecutionDigest = descriptor.route then .ok () else .error "conflict"
    validateRelayTransition := fun predecessor descriptor =>
      if descriptor.routeAttempt = predecessor.routeAttempt + 1 ∧
        descriptor.predecessorReceiptDigest = lookupText (receiptLookup predecessor) then .ok () else .error "conflict"
    buildRelayReceipt := fun descriptor sequence issuedAt startNotAfter =>
      .ok (relayReceipt descriptor sequence issuedAt startNotAfter)
    verifyRelayReceiptSignature := fun _ => .ok ()
    validateRelayRouteChain := fun route =>
      if route.head?.any (·.routeAttempt == 1) then .ok () else .error "no first attempt" }

def descriptor (writer : WriterFence) (attempt : UInt64) (predecessor route : String) : RelayAdmissionDescriptor :=
  { ownerID := "owner", agentID := "alice", stableActionID := "act", writerFence := writer, routeAttempt := attempt
    predecessorReceiptDigest := predecessor, startNotAfterCapUnix := 1000, route := route }

/-- A first attempt and its retry; a new writer, whose second attempt wins over a competing one; a restart. -/
def relayRun : List Event :=
  [acquire, call 110 (.admitRelaySideEffects (descriptor fence 1 "" "-a")),
    call 111 (.admitRelaySideEffects (descriptor fence 1 "" "-a")),
    call 150 (.acquireWriter "instance" [] (3600 * 1000000000)),
    call 160 (.admitRelaySideEffects (descriptor secondFence 2 "act-a" "-b")),
    call 161 (.admitRelaySideEffects (descriptor secondFence 2 "act-a" "-c")),
    ⟨host 170, .reopen limits⟩]

end Sample

open Sample in
theorem relaying_laws : RelayLaws relaying (lookupText <| receiptLookup ·) where
  builds hb := by
    cases hb
    exact ⟨rfl, rfl, rfl, rfl, rfl, rfl, rfl, rfl, rfl⟩
  transition ht := by
    simp only [relaying] at ht
    split at ht
    · rename_i hc; exact hc
    · cases ht
  chain hc := by
    have hfirst : ∀ {route}, RelayChain relaying route → route.head?.any (·.routeAttempt == 1) = true := by
      intro route hc
      induction hc with
      | first issued attempt =>
        obtain ⟨-, -, _, _, _, built⟩ := issued
        cases built
        simp [relayReceipt, attempt]
      | next _ _ _ ih => rwa [List.head?_append_of_ne_nil _ (by simp)]
    simp [relaying, hfirst hc]
  bounded _ hhops := hhops
  fences hf hf' := table_injective (by decide) hf hf'
  signs hs := by cases hs; rfl
  dependencies := rfl

open Sample in
/-- A route continued by the next writer, with a retry and a competing attempt. -/
theorem takeover_route_unforked :
    let a := exec (step relaying) Sample.authority relayRun
    a.doc.relayAdmissions.entries.length = 2 ∧
      (a.doc.relayAdmissions.entries.map (·.2.admissionSequence.toNat)).Perm
        (List.range' 1 (a.doc.nextRelayAdmissionSequence.toNat - 1)) ∧
      (∃ route, (a.doc.relayAdmissions.entries.filter fun e => e.2.stableActionID = "act").Perm route ∧
        Gapless (lookupText <| receiptLookup ·) (route.map (·.2)) ∧
        a.doc.relayAdmissionBindings.get? (relayAdmissionStableBindingKey a.doc.ownerID a.doc.agentID "act") =
          route.getLast?.map (·.1)) ∧
      load relaying (host 400) a.doc = .ok a.doc := by
  obtain ⟨hsequences, -, hroutes, -, -, hload⟩ :=
    relay_admissions_unforked relaying_laws "owner" "alice" "authority" limits relayRun
  exact ⟨by decide +kernel, hsequences, hroutes "act", hload (by decide) (host 400)⟩

end OpenFox.Authority
