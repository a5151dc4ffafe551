/-
A turn: `runTurn` with `SetupTurn`, `CallLLM`, `ExecuteTools` and `Finalize` of the pipeline. The turn is a machine
that stops wherever it looks at something others can change: its flags, the steering queue, the channel of sub-turn
results. Between two steps anything may happen outside. What models, hooks and tools answer is the choice of the step.
The steering queue holds messages for a running turn: a queue for each session, and one for messages without a session.
-/
import OpenFox.Agent.Message
import OpenFox.Base.Run
import OpenFox.Go.Map

namespace OpenFox.Agent

open OpenFox.Go OpenFox.Base

/-! ## The steering queue -/

inductive SteeringMode
  | oneAtATime | all
deriving DecidableEq, Repr

structure SteeringQueue where
  queues : Map String (List Message) := ∅
  mode : SteeringMode := .oneAtATime

def maxQueueSize : Nat := 10

def manualSteeringScope : String := "__manual__"

def normalizeSteeringScope (scope : String) : String :=
  if trimSpace scope = "" then manualSteeringScope else trimSpace scope

namespace SteeringQueue

/-- `pushScope`: a full queue refuses the message. -/
def pushScope (q : SteeringQueue) (scope : String) (m : Message) : SteeringQueue :=
  let queue := q.queues.getD (normalizeSteeringScope scope) []
  if queue.length ≥ maxQueueSize then
    q else { q with queues := q.queues.put (normalizeSteeringScope scope) (queue ++ [m]) }

/-- `dequeueLocked`: the messages that are taken, and what is left. -/
def dequeueLocked (q : SteeringQueue) (scope : String) : List Message × SteeringQueue :=
  match q.queues.getD scope [] with
  | [] => ([], q)
  | m :: rest =>
    match q.mode with
    | .all => (m :: rest, { q with queues := q.queues.delete scope })
    | .oneAtATime => ([m], { q with queues := if rest = [] then q.queues.delete scope else q.queues.put scope rest })

def dequeueScope (q : SteeringQueue) (scope : String) : List Message × SteeringQueue :=
  q.dequeueLocked (normalizeSteeringScope scope)

def dequeueScopeWithFallback (q : SteeringQueue) (scope : String) : List Message × SteeringQueue :=
  if trimSpace scope ≠ "" ∧ (q.dequeueLocked (trimSpace scope)).1 ≠ [] then q.dequeueLocked (trimSpace scope)
  else q.dequeueLocked manualSteeringScope

def clearScope (q : SteeringQueue) (scope : String) : SteeringQueue :=
  { q with queues := q.queues.delete (normalizeSteeringScope scope) }

/-! ## What is in the queues -/

def All (q : SteeringQueue) (p : Message → Prop) : Prop := ∀ scope, ∀ m ∈ q.queues.getD scope [], p m

section
variable {q : SteeringQueue} {p : Message → Prop}

theorem All.put (h : q.All p) {scope : String} {queue : List Message} (hqueue : ∀ m ∈ queue, p m) :
    All { q with queues := q.queues.put scope queue } p := by
  intro scope' m hm
  rw [Map.getD_put] at hm
  split at hm
  · exact hqueue m hm
  · exact h scope' m hm

theorem All.delete (h : q.All p) (scope : String) : All { q with queues := q.queues.delete scope } p := by
  intro scope' m hm
  unfold Map.getD at hm
  rw [Map.get?_delete] at hm
  split at hm
  · cases hm
  · exact h scope' m hm

theorem All.pushScope (h : q.All p) (scope : String) {m : Message} (hm : p m) : (q.pushScope scope m).All p := by
  unfold SteeringQueue.pushScope
  dsimp only
  split
  · exact h
  · exact h.put (List.forall_mem_append.2 ⟨h _, List.forall_mem_singleton.2 hm⟩)

theorem All.dequeueLocked (h : q.All p) (scope : String) :
    (∀ m ∈ (q.dequeueLocked scope).1, p m) ∧ (q.dequeueLocked scope).2.All p := by
  unfold SteeringQueue.dequeueLocked
  have hscope := h scope
  split
  · exact ⟨fun m hm => absurd hm List.not_mem_nil, h⟩
  · rename_i m rest hqueue
    rw [hqueue] at hscope
    split
    · exact ⟨hscope, h.delete scope⟩
    · refine ⟨fun m' hm' => ?_, ?_⟩
      · rw [List.mem_singleton.1 hm']
        exact hscope m (List.mem_cons_self ..)
      · split
        · exact h.delete scope
        · exact h.put fun m' hm' => hscope m' (List.mem_cons_of_mem _ hm')

theorem All.dequeueScopeWithFallback (h : q.All p) (scope : String) :
    (∀ m ∈ (q.dequeueScopeWithFallback scope).1, p m) ∧ (q.dequeueScopeWithFallback scope).2.All p := by
  unfold SteeringQueue.dequeueScopeWithFallback
  split
  · exact h.dequeueLocked _
  · exact h.dequeueLocked _

end

end SteeringQueue

/-! ## What others decide -/

inductive HookAction
  | «continue» | modify | respond | denyTool | abortTurn | hardAbort
deriving DecidableEq, Repr

structure LLMResponse where
  content : String := ""
  reasoningContent : String := ""
  toolCalls : List ToolCall := []
deriving DecidableEq, Repr

/-- The message of a response with tool calls. -/
def assistantMessage (r : LLMResponse) : Message :=
  { role := .assistant, content := r.content, reasoningContent := r.reasoningContent, toolCalls := r.toolCalls }

/-- The message for a call that is not executed. -/
def toolMessage (content : String) (tc : ToolCall) : Message :=
  { role := .tool, content := content, toolCallID := tc.id }

/-- How one call of the provider ends. -/
inductive Answer
  | response (r : LLMResponse)
  | canceled
  | transient
  /-- The context window is exceeded: the messages are built anew from the compacted history. -/
  | contextWindow (rebuilt : List Message) (currentTurnStart : Nat) (fits : Bool)
  | failed
deriving DecidableEq, Repr

def Answer.toolCalls : Answer → List ToolCall
  | .response r => r.toolCalls
  | _ => []

def Answer.rebuilt : Answer → List Message
  | .contextWindow rebuilt _ _ => rebuilt
  | _ => []

/-- `ToolResult`, after delivery: what the model reads, and whether the user has had it already. -/
structure ToolResult where
  contentForLLM : String := ""
  media : List String := []
  responseHandled : Bool := false
deriving DecidableEq, Repr

/-- What hooks, the provider and the tools answer to one step of a turn. -/
structure Choice where
  hook : HookAction := .continue
  reason : String := ""
  /-- The setup, the routing of media, the choice of a model or the saving of the session fails. -/
  fails : Bool := false
  answer : Answer := .failed
  hookResponse : Option LLMResponse := none
  /-- The pause ends before the context does. -/
  timer : Bool := false
  toolName : Option String := none
  hookResult : Option ToolResult := none
  approved : Bool := true
  result : ToolResult := {}
  attachments : List String := []
  /-- Whether `restoreSession` sets the history, which is only logged, and saves the session. -/
  historySet : Bool := true
  saved : Bool := true
deriving DecidableEq, Repr

/-! ## The turn -/

/-- What does not change during a turn. -/
structure TurnOptions where
  sessionKey : String
  /-- The message the turn was started with, unless it is blank. -/
  root : Option Message := none
  /-- It is an authenticated input, which `ApplyAuthenticatedInbound` stores. -/
  messenger : Bool := false
  prompt : List Message := []
  currentTurnStart : Nat := 0
  noHistory : Bool := false
  initialSteeringMessages : List Message := []
  skipInitialSteeringPoll : Bool := false
  defaultResponse : String := ""
  maxIterations : Nat := 0
  maxRetries : Nat := 2
  subTurn : Bool := false
  critical : Bool := false
  pico : Bool := false
  toolAllowed : String → Bool := fun _ => true
  media : Option MediaStore := none
  filterSensitiveData : String → String := id

inductive TurnOutcome
  | completed (content : String)
  | aborted
  | error
deriving DecidableEq, Repr

/-- Where the turn is: in `SetupTurn`, in an iteration of its loop, in `CallLLM` (from `call` on), in `ExecuteTools` at
the call `i` of the batch, or at its end. -/
inductive TurnPc
  | setup
  | prepare
  | loop
  | gather
  | parent
  | results
  | inject
  | call
  | attempt (retry : Nat)
  | backoff (retry : Nat)
  | answered (r : LLMResponse)
  | direct (r : LLMResponse)
  | tool (i : Nat)
  | hooks (i : Nat)
  | executed (i : Nat)
  | result (i : Nat)
  | steer (i : Nat)
  | skip (i : Nat)
  | poll (i : Nat)
  | toolsDone
  | exit
  | finalize (content : String)
  | ended (outcome : TurnOutcome)
deriving DecidableEq, Repr

def TurnPc.isDirect : TurnPc → Bool
  | .direct _ => true
  | _ => false

/-- The tool after which sub-turn results are polled. -/
def TurnPc.polled : TurnPc → Option Nat
  | .poll i => some i
  | _ => none

structure TurnState where
  pc : TurnPc := .setup
  iteration : Nat := 0
  hardAbort : Bool := false
  gracefulInterrupt : Bool := false
  gracefulTerminalUsed : Bool := false
  parentEnded : Bool := false
  /-- The channel of sub-turn results, which root turns do not have. A nil result is an empty one. -/
  pendingResults : Option (List String) := none
  messages : List Message := []
  pendingMessages : List Message := []
  currentTurnStart : Nat := 0
  gracefulTerminal : Bool := false
  response : LLMResponse := {}
  toolCalls : List ToolCall := []
  allResponsesHandled : Bool := false
  finalContent : String := ""
  /-- The variable `pendingMessages` of `runTurn`. -/
  localPending : List Message := []
  stored : List Message := []
  restorePoint : List Message := []
  steering : SteeringQueue := {}
  /-- History variables: the steering messages the turn has taken, and how many of them it had taken when the
  messages were last built from the history. -/
  taken : List Message := []
  takenBefore : Nat := 0

def toolLimitResponse : String :=
  "I've reached `max_tool_iterations` without a final response. " ++
    "Increase `max_tool_iterations` in config.json if this task needs more tool steps."

def handledToolResponseSummary : String := "Requested output delivered via tool attachment."

def hookDeniedToolContent (lead reason : String) : String := if reason = "" then lead else lead ++ ": " ++ reason

namespace TurnState

variable (o : TurnOptions) (s : TurnState) (c : Choice)

def goto (pc : TurnPc) : TurnState := { s with pc := pc }

def gracefulRequested : Bool := s.gracefulInterrupt && !s.gracefulTerminalUsed

/-- `AddFullMessage`, on what the turn has stored. -/
def addFullMessage (stored : List Message) (m : Message) : List Message :=
  if o.noHistory = true ∨ isTransientAssistantThought m = true then stored else stored ++ [m]

def store (m : Message) : TurnState := { s with stored := addFullMessage o s.stored m }

def append (ms : List Message) : TurnState :=
  { s with messages := s.messages ++ ms, stored := ms.foldl (addFullMessage o) s.stored }

/-- `abortTurn`: the session is set back to the restore point. -/
def abortTurn : TurnState :=
  if o.noHistory = true then s.goto (.ended .aborted)
  else
    { s with
      stored := if c.historySet = true then s.restorePoint else s.stored
      pc := .ended (if c.saved = true then .aborted else .error) }

/-- The turn ends with an error. -/
def fail : TurnState := s.goto (.ended .error)

def take (polled : List Message × SteeringQueue) : TurnState :=
  { s with steering := polled.2, taken := s.taken ++ polled.1 }

/-! ### The turn's loop -/

/-- The check for a pending stop. -/
def start : TurnState := if s.hardAbort = true then s.abortTurn o c else s.goto .prepare

def setupTurn : TurnState :=
  if c.fails = true then s.fail
  else
    { s with
      pc := .loop
      stored := o.root.toList.foldl (addFullMessage o) s.stored
      restorePoint := if o.messenger = true then o.root.toList else []
      messages := o.prompt
      currentTurnStart := o.currentTurnStart
      pendingMessages := o.initialSteeringMessages
      localPending := o.initialSteeringMessages
      taken := o.initialSteeringMessages }

def loopHead : TurnState :=
  if s.iteration < o.maxIterations ∨ s.pendingMessages ≠ [] ∨ s.gracefulRequested = true then
    if s.hardAbort = true then s.abortTurn o c else { s with iteration := s.iteration + 1, pc := .gather }
  else s.goto .exit

def gather : TurnState :=
  if s.iteration > 1 then
    { s with localPending := s.localPending ++ s.pendingMessages, pendingMessages := [], pc := .parent }
  else if o.skipInitialSteeringPoll = true then s.goto .parent
  else
    let polled := s.steering.dequeueScopeWithFallback o.sessionKey
    { s.take polled with localPending := s.localPending ++ polled.1, pc := .parent }

def checkParent : TurnState :=
  if o.subTurn = true ∧ s.parentEnded = true ∧ o.critical = false then s.goto .exit else s.goto .results

/-- One receive from the channel of sub-turn results, and the message for the model. -/
def receiveResult : TurnState × List Message :=
  match s.pendingResults with
  | some (result :: rest) =>
    ({ s with pendingResults := some rest },
      if result = "" then [] else [subTurnResultPromptMessage (o.filterSensitiveData result)])
  | _ => (s, [])

def pollResults : TurnState :=
  let (s', results) := s.receiveResult o
  { s' with localPending := s.localPending ++ results, pc := .inject }

def inject : TurnState :=
  let resolved := (resolveMediaRefs o.media s.localPending 0).take s.localPending.length
  { s with
    messages := s.messages ++ resolved
    stored := s.localPending.foldl (addFullMessage o) s.stored
    pendingMessages := if s.localPending = [] then s.pendingMessages else []
    pc := .call }

/-! ### CallLLM -/

def callLLM : TurnState :=
  let s := { s with
    messages := if s.iteration > 1 then resolveMediaRefs o.media s.messages s.currentTurnStart else s.messages
    gracefulTerminal := s.gracefulRequested
    gracefulTerminalUsed := s.gracefulTerminalUsed || s.gracefulRequested }
  if c.fails = true then s.fail
  else
    match c.hook with
    | .abortTurn => s.fail
    | .hardAbort => { s with hardAbort := true }.abortTurn o c
    | _ => s.goto (.attempt 0)

def callProvider (retry : Nat) : TurnState :=
  match c.answer with
  | .response r => s.goto (.answered r)
  | .canceled => if s.hardAbort = true then s.abortTurn o c else s.fail
  | .transient => if retry < o.maxRetries then s.goto (.backoff retry) else s.fail
  | .contextWindow rebuilt currentTurnStart fits =>
    if retry < o.maxRetries ∧ o.noHistory = false then
      let s := { s with
        messages := rebuilt.map persisted
        currentTurnStart := currentTurnStart
        restorePoint := []
        takenBefore := s.taken.length }
      if fits = true then s.goto (.attempt (retry + 1)) else s.fail
    else s.fail
  | .failed => s.fail

/-- The coordinator after `ControlBreak` without an abort flag. -/
def finishWith (content : String) : TurnState :=
  s.goto (.finalize (if content = "" then o.defaultResponse else content))

/-- The pause before the next attempt. A hard abort ends it, but leaves no mark for the coordinator. -/
def backoff (retry : Nat) : TurnState :=
  if c.timer = true then s.goto (.attempt (retry + 1))
  else if s.hardAbort = true then s.finishWith o s.finalContent
  else if c.fails = true then s.fail
  else s.goto (.attempt (retry + 1))

def afterLLM (r : LLMResponse) : TurnState :=
  match c.hook with
  | .abortTurn => s.fail
  | .hardAbort => { s with hardAbort := true }.abortTurn o c
  | _ =>
    have r := c.hookResponse.getD r
    have s := { s with response := r }
    if r.toolCalls = [] ∨ s.gracefulTerminal = true then s.goto (.direct r)
    else
      { s.append o [assistantMessage r] with
        toolCalls := r.toolCalls, allResponsesHandled := true, localPending := s.pendingMessages, pc := .tool 0 }

/-- The answer is final unless steering has arrived. -/
def directAnswer (r : LLMResponse) : TurnState :=
  let polled := s.steering.dequeueScope o.sessionKey
  let s := s.take polled
  if polled.1 = [] then
    let content := if r.content = "" ∧ o.pico = false then r.reasoningContent else r.content
    { s with finalContent := content }.finishWith o content
  else
    let pending := s.pendingMessages ++ polled.1
    { s with pendingMessages := pending, localPending := pending, pc := .loop }

/-! ### ExecuteTools -/

/-- A call that is not executed gets its answer. -/
def deny (i : Nat) (tc : ToolCall) (content : String) : TurnState :=
  { s.append o [toolMessage content tc] with allResponsesHandled := false, pc := .tool (i + 1) }

def denyByTurnProfile (i : Nat) (tc : ToolCall) (toolName : String) : TurnState :=
  s.deny o i tc ("Tool " ++ toolName.quote ++ " is not allowed by the active turn profile.")

/-- A result, of the tool or of a hook. -/
def appendResult (i : Nat) (tc : ToolCall) (result : ToolResult) : TurnState :=
  let media := if result.responseHandled = true then [] else result.media
  { s.append o [toolResultPromptMessage result.contentForLLM tc.id media] with
    allResponsesHandled := s.allResponsesHandled && result.responseHandled, pc := .steer i }

def toolHead (i : Nat) : TurnState :=
  match s.toolCalls[i]? with
  | none => s.goto .toolsDone
  | some tc =>
    if s.hardAbort = true then s.abortTurn o c
    else if o.toolAllowed tc.name = false then s.denyByTurnProfile o i tc tc.name
    else s.goto (.hooks i)

/-- The approval of a tool, under the name a hook may have given it. -/
def approveTool (i : Nat) (tc : ToolCall) (toolName : String) : TurnState :=
  if c.approved = false then s.deny o i tc (hookDeniedToolContent "Tool execution denied by approval hook" c.reason)
  else if o.toolAllowed toolName = false then s.denyByTurnProfile o i tc toolName
  else s.goto (.executed i)

def beforeTool (i : Nat) : TurnState :=
  match s.toolCalls[i]? with
  | none => s.goto .toolsDone
  | some tc =>
    match c.hook with
    | .continue | .modify => s.approveTool o c i tc (c.toolName.getD tc.name)
    | .respond =>
      match c.hookResult with
      | some result => s.appendResult o i tc result
      | none => s.approveTool o c i tc tc.name
    | .denyTool => s.deny o i tc (hookDeniedToolContent "Tool execution denied by hook" c.reason)
    | .abortTurn => s.fail
    | .hardAbort => { s with hardAbort := true }.abortTurn o c

def toolReturned (i : Nat) : TurnState := if s.hardAbort = true then s.abortTurn o c else s.goto (.result i)

def afterTool (i : Nat) : TurnState :=
  match s.toolCalls[i]? with
  | none => s.goto .toolsDone
  | some tc =>
    match c.hook with
    | .abortTurn => s.fail
    | .hardAbort => { s with hardAbort := true }.abortTurn o c
    | _ => s.appendResult o i tc c.result

def pollSteering (pc : TurnPc) : TurnState :=
  let polled := s.steering.dequeueScope o.sessionKey
  { s.take polled with pendingMessages := s.pendingMessages ++ polled.1, pc := pc }

/-- The calls that are left are answered without being executed. -/
def skipRemaining (i : Nat) (content : String) : TurnState :=
  (s.append o ((s.toolCalls.drop (i + 1)).map (toolMessage content))).goto .toolsDone

def checkSkip (i : Nat) : TurnState :=
  if s.pendingMessages ≠ [] then s.skipRemaining o i "Skipped due to queued user message."
  else if s.gracefulRequested = true then s.skipRemaining o i "Skipped due to graceful interrupt."
  else s.goto (.poll i)

def pollSubTurn (i : Nat) : TurnState :=
  let (s', results) := s.receiveResult o
  (s'.append o results).goto (.tool (i + 1))

def toolsDone : TurnState :=
  if s.pendingMessages ≠ [] then { s with allResponsesHandled := false, pc := .loop }
  else
    let s := s.pollSteering o .loop
    if s.pendingMessages ≠ [] then { s with allResponsesHandled := false }
    else if s.allResponsesHandled = true then
      (s.store o { role := .assistant, content := handledToolResponseSummary, attachments := c.attachments }).goto
        (.finalize "")
    else s

/-! ### The end -/

def exit : TurnState :=
  if s.hardAbort = true then s.abortTurn o c
  else if s.finalContent ≠ "" then s.goto (.finalize s.finalContent)
  else if s.iteration ≥ o.maxIterations ∧ o.maxIterations > 0 then s.goto (.finalize toolLimitResponse)
  else s.goto (.finalize o.defaultResponse)

def finalize (content : String) : TurnState :=
  if s.allResponsesHandled = true then
    if s.hardAbort = true then s.abortTurn o c else s.goto (.ended (.completed content))
  else
    let s := s.store o { role := .assistant, content := content, reasoningContent := s.response.reasoningContent }
    if c.fails = true then s.fail else s.goto (.ended (.completed content))

def turnStep : TurnState :=
  match s.pc with
  | .setup => s.start o c
  | .prepare => s.setupTurn o c
  | .loop => s.loopHead o c
  | .gather => s.gather o
  | .parent => s.checkParent o
  | .results => s.pollResults o
  | .inject => s.inject o
  | .call => s.callLLM o c
  | .attempt retry => s.callProvider o c retry
  | .backoff retry => s.backoff o c retry
  | .answered r => s.afterLLM o c r
  | .direct r => s.directAnswer o r
  | .tool i => s.toolHead o c i
  | .hooks i => s.beforeTool o c i
  | .executed i => s.toolReturned o c i
  | .result i => s.afterTool o c i
  | .steer i => s.pollSteering o (.skip i)
  | .skip i => s.checkSkip o i
  | .poll i => s.pollSubTurn o i
  | .toolsDone => s.toolsDone o c
  | .exit => s.exit o c
  | .finalize content => s.finalize o c content
  | .ended _ => s

/-- An aborted turn has ended, and only its session is another. -/
theorem abortTurn_eq : ∃ stored outcome, s.abortTurn o c = { s with stored := stored, pc := .ended outcome } ∧
    (stored = s.stored ∨ o.noHistory = false ∧ stored = s.restorePoint) ∧ (outcome = .aborted ∨ outcome = .error) := by
  unfold abortTurn
  split
  · exact ⟨s.stored, .aborted, rfl, .inl rfl, .inl rfl⟩
  · rename_i ho
    refine ⟨_, _, rfl, ?_, ?_⟩
    · split
      · exact .inr ⟨Bool.eq_false_iff.2 ho, rfl⟩
      · exact .inl rfl
    · split
      · exact .inl rfl
      · exact .inr rfl

end TurnState

/-! ## What a turn stores -/

section
variable {o : TurnOptions}

theorem foldl_addFullMessage_hidden (ho : o.noHistory = true) : ∀ (ms stored : List Message),
    ms.foldl (TurnState.addFullMessage o) stored = stored
  | [], _ => rfl
  | m :: ms, stored => by
    have hsame : TurnState.addFullMessage o stored m = stored := if_pos (.inl ho)
    rw [List.foldl_cons, hsame, foldl_addFullMessage_hidden ho ms stored]

theorem foldl_addFullMessage (ho : o.noHistory = false) : ∀ (ms stored : List Message),
    (∀ m ∈ ms, isTransientAssistantThought m = false) → ms.foldl (TurnState.addFullMessage o) stored = stored ++ ms
  | [], stored, _ => (List.append_nil stored).symm
  | m :: ms, stored, h => by
    have hstored : TurnState.addFullMessage o stored m = stored ++ [m] :=
      if_neg (by simp [ho, h m (List.mem_cons_self ..)])
    rw [List.foldl_cons, hstored, foldl_addFullMessage ho ms _ fun m' hm' => h m' (List.mem_cons_of_mem m hm'),
      List.append_assoc, List.singleton_append]

theorem append_stored (ho : o.noHistory = false) (s : TurnState) {ms : List Message}
    (h : ∀ m ∈ ms, isTransientAssistantThought m = false) : (s.append o ms).stored = s.stored ++ ms :=
  foldl_addFullMessage ho ms s.stored h

theorem mem_foldl_addFullMessage {m : Message} : ∀ {ms stored : List Message},
    m ∈ ms.foldl (TurnState.addFullMessage o) stored → m ∈ stored ∨ m ∈ ms
  | [], _, h => .inl h
  | m' :: ms, stored, h => by
    rw [List.foldl_cons] at h
    rcases mem_foldl_addFullMessage h with hm | hm
    · unfold TurnState.addFullMessage at hm
      split at hm
      · exact .inl hm
      · rcases List.mem_append.1 hm with hm | hm
        · exact .inl hm
        · exact .inr (List.mem_singleton.1 hm ▸ List.mem_cons_self ..)
    · exact .inr (List.mem_cons_of_mem m' hm)

theorem not_transient_of_user {m : Message} (hm : m.role = .user) : isTransientAssistantThought m = false := by
  simp [isTransientAssistantThought, hm]

theorem not_transient_of_calls {m : Message} (hm : m.toolCalls ≠ []) : isTransientAssistantThought m = false := by
  simp [isTransientAssistantThought, hm]

theorem not_transient_of_tool {m : Message} (hm : m.role = .tool) : isTransientAssistantThought m = false := by
  simp [isTransientAssistantThought, hm]

end

/-! ## Runs -/

inductive TurnEvent
  | turn (c : Choice)
  | push (scope : String) (m : Message)
  /-- Another turn polls a queue, or a stop clears it, or the mode is changed. -/
  | poll (scope : String)
  | clear (scope : String)
  | setMode (mode : SteeringMode)
  | interrupt
  | abort
  | deliver (result : String)
  | endParent
deriving DecidableEq

/-- What is pushed is a message of a user, as `Steer` has it. -/
def TurnEvent.FromUser : TurnEvent → Prop
  | .push _ m => m.role = .user ∧ m.promptSource = .unset
  | _ => True

instance (e : TurnEvent) : Decidable e.FromUser := by
  unfold TurnEvent.FromUser
  split <;> infer_instance

namespace TurnState

def step (o : TurnOptions) (s : TurnState) : TurnEvent → TurnState
  | .turn c => s.turnStep o c
  | .push scope m => { s with steering := s.steering.pushScope scope (steeringPromptMessage m) }
  | .poll scope => { s with steering := (s.steering.dequeueScope scope).2 }
  | .clear scope => { s with steering := s.steering.clearScope scope }
  | .setMode mode => { s with steering := { s.steering with mode := mode } }
  | .interrupt => if s.hardAbort = true then s else { s with gracefulInterrupt := true }
  | .abort => { s with hardAbort := true }
  | .deliver result => { s with pendingResults := s.pendingResults.map (· ++ [result]) }
  | .endParent => { s with parentEnded := true }

/-- The state of the turn after a list of events. A turn of a root session has no channel for results. -/
def run (o : TurnOptions) (es : List TurnEvent) : TurnState :=
  exec (step o) { pendingResults := if o.subTurn = true then some [] else none } es

end TurnState

end OpenFox.Agent
