/-
The cron service. Operations change the jobs under a lock and notify the loop without blocking; the loop reads the
earliest time, sets its timer, waits for a stop, a notification or the timer, and executes due jobs outside the lock.
The steps are the accesses to the jobs and to the wake channel, taken in any order. A notification reaches the loop
only while it waits; if none comes between its read and its wait, its timer expires in time for every job.
-/
import OpenFox.Base.Run
import Mathlib.Algebra.Group.Nat.Defs
import Mathlib.Data.List.Induction

namespace OpenFox.Cron

open OpenFox.Base

/-! ## Jobs -/

inductive ScheduleKind
  | at
  | every
  | cron
  | other (kind : String)
deriving DecidableEq

structure CronSchedule where
  kind : ScheduleKind
  atMS : Option Int64 := none
  everyMS : Option Int64 := none
  expr : String := ""
  tz : String := ""
deriving DecidableEq

/-- A job without the fields that are only written or shown. -/
structure CronJob where
  id : String
  name : String
  message : String
  command : String := ""
  enabled : Bool := true
  schedule : CronSchedule
  nextRunAtMS : Option Int64
  deleteAfterRun : Bool
deriving DecidableEq

/-- `gronx.NextTickAfter`: the next time of an expression, none if there is an error. -/
abbrev Ticks := String → Int64 → Option Int64

/-- The time after an interval wraps around like every other `int64`. -/
def computeNextRun (ticks : Ticks) (schedule : CronSchedule) (nowMS : Int64) : Option Int64 :=
  match schedule.kind with
  | .at => schedule.atMS.filter (nowMS < ·)
  | .every => (schedule.everyMS.filter (0 < ·)).map (nowMS + ·)
  | .cron => if schedule.expr = "" then none else ticks schedule.expr nowMS
  | .other _ => none

/-- A time as the timer counts it. -/
def nanoseconds (ms : Int64) : Int := ms.toInt * 1000000

def recomputeNextRuns (ticks : Ticks) (now : Int64) (jobs : List CronJob) : List CronJob :=
  jobs.map fun job =>
    if job.enabled = true then { job with nextRunAtMS := computeNextRun ticks job.schedule now } else job

def getNextWakeMS (jobs : List CronJob) : Option Int64 :=
  jobs.foldl (fun nextWake job =>
    match job.enabled, job.nextRunAtMS with
    | true, some next => if nextWake.all (next < ·) = true then some next else nextWake
    | _, _ => nextWake) none

/-! ## Operations -/

/-- The first job with this ID is changed; none if there is no such job. -/
def changeJob (jobID : String) (f : CronJob → CronJob) : List CronJob → Option (List CronJob)
  | [] => none
  | job :: jobs => if job.id = jobID then some (f job :: jobs) else (changeJob jobID f jobs).map (job :: ·)

/-- `AddJob`, with the ID it has generated. -/
def addJob (ticks : Ticks) (now : Int64) (jobID name : String) (schedule : CronSchedule) (message : String)
    (jobs : List CronJob) : List CronJob :=
  jobs ++ [{
    id := jobID, name := name, message := message, schedule := schedule
    nextRunAtMS := computeNextRun ticks schedule now, deleteAfterRun := schedule.kind = .at }]

/-- `UpdateJob`. `sameSchedule` compares what is behind the pointers. -/
def updateJob (ticks : Ticks) (now : Int64) (job : CronJob) : List CronJob → Option (List CronJob) :=
  changeJob job.id fun previous => { job with
    nextRunAtMS :=
      if job.enabled = true then
        if previous.enabled ≠ job.enabled ∨ previous.schedule ≠ job.schedule then computeNextRun ticks job.schedule now
        else job.nextRunAtMS
      else none }

def enableJob (ticks : Ticks) (now : Int64) (jobID : String) (enabled : Bool) : List CronJob → Option (List CronJob) :=
  changeJob jobID fun job => { job with
    enabled := enabled, nextRunAtMS := if enabled = true then computeNextRun ticks job.schedule now else none }

def removeJobUnsafe (jobID : String) (jobs : List CronJob) : List CronJob := jobs.filter (·.id ≠ jobID)

/-- `executeJobByID` after the handler has returned. -/
def finishJob (ticks : Ticks) (now : Int64) (jobID : String) (jobs : List CronJob) : List CronJob :=
  match jobs.find? (·.id = jobID) with
  | none => jobs
  | some job =>
    if job.schedule.kind = .at then
      if job.deleteAfterRun = true then removeJobUnsafe jobID jobs
      else (changeJob jobID (fun job => { job with enabled := false, nextRunAtMS := none }) jobs).getD jobs
    else (changeJob jobID (fun job => { job with nextRunAtMS := computeNextRun ticks job.schedule now }) jobs).getD jobs

inductive CronOp
  | add (jobID name : String) (schedule : CronSchedule) (message : String)
  | update (job : CronJob)
  | enable (jobID : String) (enabled : Bool)
  | remove (jobID : String)

/-- The jobs after an operation; none if it returns before it changes or notifies. -/
def CronOp.apply (ticks : Ticks) (now : Int64) (jobs : List CronJob) : CronOp → Option (List CronJob)
  | .add jobID name schedule message => some (addJob ticks now jobID name schedule message jobs)
  | .update job => updateJob ticks now job jobs
  | .enable jobID enabled => enableJob ticks now jobID enabled jobs
  | .remove jobID => some (removeJobUnsafe jobID jobs)

/-! ## The loop and the operations as steps -/

/-- Where the loop is. -/
inductive LoopPc
  | reading
  | arming (nextWake : Option Int64)
  /-- In `select`; the timer expires at this time, in nanoseconds. -/
  | waiting (expiry : Int)
  | checking
  | executing (dueJobIDs : List String)
  | running (jobID : String) (dueJobIDs : List String)
  | stopped
deriving DecidableEq

/-- Where the operation is that holds the lock. -/
inductive LockPc
  /-- The jobs are changed. `AddJob` returns without a notification if they cannot be saved. -/
  | changed (adds : Bool)
  | notified
deriving DecidableEq

structure CronService where
  jobs : List CronJob
  now : Int64
  loop : LoopPc := .reading
  lock : Option LockPc := none
  running : Bool := true

inductive CronEvent
  | pass (later : Int64)
  | begin (op : CronOp)
  | saveFails
  | notify
  | unlock
  | stop
  | leave
  | loop

namespace CronService

variable (ticks : Ticks) (s : CronService)

/-- A send on the wake channel, which has no buffer: it is received if the loop waits. -/
def notify : CronService :=
  match s.loop with
  | .waiting _ => { s with loop := .reading }
  | _ => s

def due (job : CronJob) : Bool := job.enabled && job.nextRunAtMS.any (· ≤ s.now)

def checkJobs : CronService :=
  let due := s.jobs.filter s.due
  { s with
    jobs := s.jobs.map fun job => if job.id ∈ due.map (·.id) then { job with nextRunAtMS := none } else job
    loop := .executing (due.map (·.id)) }

/-- The `Duration` the timer is set to. -/
def delay (nextWake : Option Int64) : Int64 :=
  match nextWake with
  | none => 60 * 60 * 1000000000
  | some next => if next - s.now ≤ 0 then 0 else (next - s.now) * 1000000

/-- The next step of the loop. Reading or writing the jobs waits for the lock. -/
def loopStep : CronService :=
  match s.loop, s.lock with
  | .reading, none => { s with loop := .arming (getNextWakeMS s.jobs) }
  | .arming nextWake, _ => { s with loop := .waiting (nanoseconds s.now + max 0 (s.delay nextWake).toInt) }
  | .waiting expiry, _ => if expiry ≤ nanoseconds s.now then { s with loop := .checking } else s
  | .checking, none => if s.running = true then s.checkJobs else { s with loop := .reading }
  | .executing [], _ => { s with loop := .reading }
  | .executing (jobID :: rest), none =>
    { s with loop := if s.jobs.any (·.id = jobID) = true then .running jobID rest else .executing rest }
  | .running jobID rest, none => { s with jobs := finishJob ticks s.now jobID s.jobs, loop := .executing rest }
  | _, _ => s

def step : CronEvent → CronService
  | .pass later => if s.now ≤ later then { s with now := later } else s
  | .begin op =>
    match s.lock, op.apply ticks s.now s.jobs with
    | none, some jobs => { s with jobs := jobs, lock := some (.changed (op matches .add ..)) }
    | _, _ => s
  | .saveFails => if s.lock = some (.changed true) then { s with lock := none } else s
  | .notify =>
    match s.lock with
    | some (.changed _) => { s.notify with lock := some .notified }
    | _ => s
  | .unlock => if s.lock = some .notified then { s with lock := none } else s
  | .stop => if s.lock = none then { s with running := false } else s
  | .leave =>
    match s.loop with
    | .waiting _ => if s.running = true then s else { s with loop := .stopped }
    | _ => s
  | .loop => s.loopStep ticks

/-- `Start`, on the jobs of the store. -/
def start (now : Int64) (jobs : List CronJob) : CronService := { jobs := recomputeNextRuns ticks now jobs, now := now }

end CronService

/-! ## The timer -/

variable {ticks : Ticks} {s : CronService} {job : CronJob} {jobs : List CronJob} {t : Int64}

theorem getNextWakeMS_le (hjob : job ∈ jobs) (henabled : job.enabled = true) (ht : job.nextRunAtMS = some t) :
    ∃ next, getNextWakeMS jobs = some next ∧ next.toInt ≤ t.toInt := by
  induction jobs using List.reverseRecOn with
  | nil => cases hjob
  | append_singleton jobs last ih =>
    unfold getNextWakeMS at ih ⊢
    rw [List.foldl_append, List.foldl_cons, List.foldl_nil]
    generalize List.foldl _ none jobs = nextWake at ih ⊢
    rcases List.mem_append.1 hjob with hjob | hjob
    · obtain ⟨next, rfl, hle⟩ := ih hjob
      split
      · split
        · rename_i next' _ _ hless
          have hlt : next' < next := by simpa using hless
          exact ⟨next', rfl, Int.le_trans (Int.le_of_lt (Int64.lt_iff_toInt_lt.1 hlt)) hle⟩
        · exact ⟨next, rfl, hle⟩
      · exact ⟨next, rfl, hle⟩
    · obtain rfl := List.mem_singleton.1 hjob
      simp only [henabled, ht]
      cases nextWake with
      | none => exact ⟨t, rfl, Int.le_refl _⟩
      | some next =>
        split
        · exact ⟨t, rfl, Int.le_refl _⟩
        · rename_i hnot
          have hle : ¬ t < next := by simpa using hnot
          rw [Int64.lt_iff_toInt_lt] at hle
          exact ⟨next, rfl, Int.not_lt.1 hle⟩

/-- The clock is between the years 1970 and 2262, which nanoseconds in 64 bits can count. -/
def CronService.dated (s : CronService) : Bool := 0 ≤ s.now.toInt && s.now.toInt ≤ 9223372036854

theorem bmod_of_range {d : Int} (hlo : -9223372036854775808 ≤ d) (hhi : d < 9223372036854775808) :
    d.bmod (2 ^ 64) = d :=
  Int.bmod_eq_of_le (by omega) (by omega)

/-- A product that wraps around becomes smaller, and a difference that wraps around makes a negative one. -/
theorem wrapped_le {d : Int} (hlo : -9223381260226812662 ≤ d) (hhi : d < 9223372036854775808)
    (hpos : 0 < d.bmod (2 ^ 64)) : (d.bmod (2 ^ 64) * 1000000).bmod (2 ^ 64) ≤ max 0 (d * 1000000) := by
  by_cases hexact : -9223372036854775808 ≤ d
  · rw [bmod_of_range hexact hhi] at hpos ⊢
    rw [Int.bmod_def]
    omega
  · have hdiff : d.bmod (2 ^ 64) = d + 18446744073709551616 := by
      rw [Int.bmod_def]
      omega
    have hproduct : (d + 18446744073709551616) * 1000000 =
        (d + 9223372036854775808) * 1000000 + 500000 * 18446744073709551616 := by omega
    have hsmall : ((d + 9223372036854775808) * 1000000).bmod (2 ^ 64) = (d + 9223372036854775808) * 1000000 :=
      bmod_of_range (by omega) (by omega)
    have hwraps := Int.add_mul_bmod_self_right ((d + 9223372036854775808) * 1000000) 500000 (2 ^ 64)
    rw [hdiff, hproduct]
    exact Int.le_trans (Int.le_of_eq (hwraps.trans hsmall)) (by omega)

theorem delay_le (hs : s.dated = true) (next : Int64) :
    nanoseconds s.now + max 0 (s.delay (some next)).toInt ≤ max (nanoseconds next) (nanoseconds s.now) := by
  obtain ⟨hfrom, hto⟩ : 0 ≤ s.now.toInt ∧ s.now.toInt ≤ 9223372036854 := by simpa [CronService.dated] using hs
  have hlo := Int64.le_toInt next
  have hhi := Int64.toInt_lt next
  unfold CronService.delay nanoseconds
  dsimp only
  split
  · rw [Int64.toInt_zero]
    omega
  · rename_i hpos
    rw [Int64.le_iff_toInt_le, Int64.toInt_sub, Int64.toInt_zero, Int.not_le] at hpos
    have hle := wrapped_le (d := next.toInt - s.now.toInt) (by omega) (by omega) hpos
    rw [Int64.toInt_mul, Int64.toInt_sub, show (1000000 : Int64).toInt = 1000000 from rfl]
    omega

/-- The loop has a time for every enabled job, unless an operation is about to notify it. -/
def CronService.Timely (s : CronService) : Prop :=
  match s.loop with
  | .arming nextWake => s.lock ≠ some .notified ∧ (s.lock = none → ∀ job ∈ s.jobs, job.enabled = true →
      ∀ t, job.nextRunAtMS = some t → ∃ next, nextWake = some next ∧ next.toInt ≤ t.toInt)
  | .waiting expiry => s.lock ≠ some .notified ∧ (s.lock = none → ∀ job ∈ s.jobs, job.enabled = true →
      ∀ t, job.nextRunAtMS = some t → expiry ≤ max (nanoseconds t) (nanoseconds s.now))
  | _ => True

/-- No notification comes between the loop's read and its wait, and none is missing there or while it waits. -/
def heard (s : CronService) : CronEvent → Bool
  | .notify => !(s.loop matches .arming _)
  | .saveFails => !(s.loop matches .arming _ | .waiting _)
  | _ => true

theorem timely_loopStep (hs : s.Timely) (hdated : s.dated = true) : (s.loopStep ticks).Timely := by
  unfold CronService.loopStep
  cases hloop : s.loop with
  | reading =>
    -- the loop waits for the lock, so it reads the jobs as an operation leaves them
    cases s.lock with
    | none => exact ⟨(Option.some_ne_none _).symm, fun _ job hjob henabled t ht => getNextWakeMS_le hjob henabled ht⟩
    | some _ => exact hs
  | arming nextWake =>
    rw [CronService.Timely, hloop] at hs
    refine ⟨hs.1, fun hfree job hjob henabled t ht => ?_⟩
    obtain ⟨next, rfl, hle⟩ := hs.2 hfree job hjob henabled t ht
    have hexpiry := delay_le hdated next
    show nanoseconds s.now + max 0 (s.delay (some next)).toInt ≤ max (nanoseconds t) (nanoseconds s.now)
    unfold nanoseconds at hexpiry ⊢
    omega
  | waiting expiry =>
    dsimp only
    split
    · trivial
    · exact hs
  | checking =>
    cases s.lock with
    | none =>
      dsimp only
      split <;> trivial
    | some _ => exact hs
  | executing due =>
    cases due with
    | nil => trivial
    | cons jobID rest =>
      cases s.lock with
      | none => by_cases hfound : s.jobs.any (·.id = jobID) = true <;> simp [CronService.Timely, hfound]
      | some _ => exact hs
  | running jobID rest =>
    cases s.lock with
    | none => trivial
    | some _ => exact hs
  | stopped => exact hs

theorem timely_step (hs : s.Timely) {e : CronEvent} (he : heard s e = true) (hdated : s.dated = true) :
    (s.step ticks e).Timely := by
  cases e with
  | pass later =>
    simp only [CronService.step]
    split
    · rename_i hlater
      rw [Int64.le_iff_toInt_le] at hlater
      revert hs
      simp only [CronService.Timely]
      split
      · exact id
      · -- a timer that has expired is compared with the clock, which only goes on
        rintro ⟨hlock, hall⟩
        refine ⟨hlock, fun hfree job hjob henabled t ht => ?_⟩
        have hle := hall hfree job hjob henabled t ht
        unfold nanoseconds at hle ⊢
        omega
      · exact id
    · exact hs
  | begin op =>
    simp only [CronService.step]
    split
    · simp only [CronService.Timely]
      split <;> simp
    · exact hs
  | saveFails =>
    simp only [CronService.step]
    split
    · simp only [CronService.Timely]
      split <;> simp_all [heard]
    · exact hs
  | notify =>
    simp only [CronService.step, CronService.notify]
    split
    · split
      · trivial
      · simp only [CronService.Timely]
        split <;> simp_all [heard]
    · exact hs
  | unlock =>
    simp only [CronService.step]
    split
    · simp only [CronService.Timely] at hs ⊢
      split <;> simp_all
    · exact hs
  | stop =>
    simp only [CronService.step]
    split <;> exact hs
  | leave =>
    simp only [CronService.step]
    split
    · split
      · exact hs
      · trivial
    · exact hs
  | loop => exact timely_loopStep hs hdated

/-- While the loop waits and no operation is in progress, its timer expires no later than the time of any enabled job,
or has expired. -/
theorem loop_wakes_in_time {now : Int64} {es : List CronEvent}
    (hes : Along (CronService.step ticks) (fun s e => heard s e = true ∧ s.dated = true) (.start ticks now jobs) es) :
    let s := exec (CronService.step ticks) (.start ticks now jobs) es
    s.lock = none → ∀ expiry, s.loop = .waiting expiry → ∀ job ∈ s.jobs, job.enabled = true →
      ∀ t, job.nextRunAtMS = some t → expiry ≤ max (nanoseconds t) (nanoseconds s.now) := by
  intro s hfree expiry hloop
  have hs : s.Timely := invariant_along (I := CronService.Timely) (fun _ _ hs he => timely_step hs he.1 he.2) trivial
    hes
  rw [CronService.Timely, hloop] at hs
  exact hs.2 hfree

namespace Sample

def noTicks : Ticks := fun _ _ => none

def addMinutely : CronEvent := .begin (.add "a" "minutely" { kind := .every, everyMS := some 60000 } "check")

end Sample

open Sample in
theorem added_job_wakes :
    let es := [.loop, .loop, .pass 5, addMinutely, .notify, .unlock, .loop, .loop]
    let s := exec (CronService.step noTicks) (.start noTicks 0 []) es
    s.loop = .waiting 60005000000 ∧ s.jobs.map (·.nextRunAtMS) = [some 60005] ∧
      ∀ job ∈ s.jobs, job.enabled = true → ∀ t, job.nextRunAtMS = some t →
        60005000000 ≤ max (nanoseconds t) (nanoseconds s.now) :=
  ⟨by decide +kernel, by decide +kernel, loop_wakes_in_time (by decide +kernel) (by decide +kernel) _
    (by decide +kernel)⟩

open Sample in
/-- The notification comes after the loop has read that there is no job: it waits for an hour. -/
theorem notification_lost :
    let s := exec (CronService.step noTicks) (.start noTicks 0 []) [.loop, addMinutely, .notify, .unlock, .loop]
    s.lock = none ∧ s.loop = .waiting 3600000000000 ∧
      s.jobs.map (fun job => (job.enabled, job.nextRunAtMS)) = [(true, some 60000)] ∧ s.now = 0 := by
  decide +kernel

end OpenFox.Cron
