import VramGovernor.ComfyHarness.Execution
import VramGovernor.Foundations.Run

/-!
# The Comfy harness

The server keeps its executions in memory under one mutex and writes all of them to the state file
in every section that changes one. A write may fail without an effect, or be reported as failed
after the file was replaced (`WriteOutcome`). Each execution is driven by a run; control requests
release the mutex while they talk to the backend. A step is one section under the mutex or one
exchange with the backend, with an arbitrary answer.

Recorded for the statements are the chunks of every execution (`plans`), every POST to the prompt
endpoint (`posted`) and every successful terminal history that a run has seen (`observed`).
-/

namespace VramGovernor.ComfyHarness

open GoString

/-- The limit of the state file, and the number of bytes that a list of executions takes in it. -/
structure HarnessOptions where
  maxStateBytes : ℕ
  stateBytes : List Execution → ℕ

/-! ## Threads -/

/-- What `executeChunk` returns. -/
inductive ChunkOutcome
  | finished (promptID history : GoString)
  /-- A failure that Comfy itself reports. -/
  | failed (message : GoString)
  | unresolved (message : GoString)
  deriving DecidableEq

/-- Where `executeChunk` is. -/
inductive ChunkStage
  | submitting
  /-- A POST is under way: its number, and the redirections before it. -/
  | posting (request hops : ℕ)
  | accepting (promptID : GoString)
  /-- Before `markSubmissionUnknown`. -/
  | marking (cause : GoString)
  | polling (promptID : GoString)
  | returned (o : ChunkOutcome)
  deriving DecidableEq

/-- Where a run is. -/
inductive RunPlace
  | top
  | chunk (c : Chunk) (stage : ChunkStage)
  | exiting
  | gone
  deriving DecidableEq

structure RunRoutine where
  id : GoString
  epoch : UInt64
  place : RunPlace
  deriving DecidableEq

inductive Operation
  | yield
  | checkpoint
  | cancel
  deriving DecidableEq

def Operation.requested : Operation → Requested
  | yield => .yield
  | checkpoint => .checkpoint
  | cancel => .cancel

/-- Where a control request is. -/
inductive ControlPlace
  | entered
  /-- The queue of the backend is being read. -/
  | queueing (epoch : UInt64)
  | queued (epoch : UInt64) (idle : Bool)
  /-- The stages of `stopComfyPrompt`. -/
  | observing (epoch : UInt64) (promptID : GoString)
  | deleting (epoch : UInt64) (promptID : GoString)
  | confirming (epoch : UInt64) (promptID : GoString)
  | recalling (epoch : UInt64) (promptID : GoString)
  | stopped (epoch : UInt64) (failure : Option GoString)
  | waiting (wait : ℕ)
  | woken
  | answered
  deriving DecidableEq

structure ControlRoutine where
  id : GoString
  operation : Operation
  place : ControlPlace
  deriving DecidableEq

/-! ## What the backend answers -/

/-- The prompts of the queue, or why it could not be read. -/
inductive QueueReply
  | rows (pending running : List GoString)
  | unavailable (error : GoString)

/-- `comfyQueueIdle`; an error counts as not idle. -/
def QueueReply.idle : QueueReply → Bool
  | rows pending running => pending.isEmpty && running.isEmpty
  | unavailable _ => false

/-- A status text, as `EqualFold` compares it. -/
inductive HistoryStatus
  | missing
  | error
  | success
  | other (text : GoString)

/-- The record that Comfy has for a prompt. Of an execution error the message may be missing. -/
structure HistoryRecord where
  raw : GoString
  status : HistoryStatus
  completed : Option Bool
  executionError : Option (Option GoString) := none

/-- The reply to a request for a history. -/
inductive HistoryReply
  | unavailable (error : GoString)
  | absent
  | found (r : HistoryRecord)

/-- What `comfyHistory` returns. -/
inductive HistoryObservation
  | error (message : GoString)
  | failed (message : GoString)
  | absent
  | unfinished
  | success (raw : GoString)

def comfyHistory (promptID : GoString) : HistoryReply → HistoryObservation
  | .unavailable e => .error e
  | .absent => .absent
  | .found r =>
    match r.status, r.completed with
    | .missing, _ | _, none =>
      .error ("Comfy history for exact prompt " ++ promptID ++ " is malformed")
    | .error, some completed =>
      let failed := ofString "Comfy chunk " ++ promptID ++ " failed"
      if completed || r.executionError.isSome then .failed (r.executionError.join.getD failed)
      else .error failed
    | _, some false => .unfinished
    | .success, some true => .success r.raw
    | .other text, some true =>
      .error ("Comfy history for exact prompt " ++ promptID ++ " has unsupported status \"" ++
        text ++ "\"")

/-- How the request of `executeChunk` starts out. -/
inductive SendOutcome
  | sent
  /-- There is no request to send. -/
  | invalid (error : GoString)
  /-- The client gives up before anything is sent. -/
  | unsent (error : GoString)

/-- The reply to a POST of a prompt. -/
inductive PostReply
  /-- A redirection that keeps the method, to the prompt endpoint. -/
  | redirected
  | rejected (message : GoString)
  | accepted (promptID : GoString)
  /-- An error, or a reply that leaves the acceptance open. -/
  | ambiguous (error : GoString)

/-! ## The state -/

inductive Panic
  | nilMapWrite
  | nilExecution
  deriving DecidableEq

inductive Process
  | up
  /-- The state file was not accepted. -/
  | down
  | panicked (p : Panic)
  deriving DecidableEq

/-- A POST to the prompt endpoint, with its number and the redirections before it. -/
structure Post where
  request : ℕ
  (execution chunk : GoString)
  hops : ℕ
  deriving DecidableEq

/-- A successful terminal history of a chunk. -/
structure Observed where
  (execution chunk promptID history : GoString)
  deriving DecidableEq

structure Harness where
  executions : ExecutionTable := .empty
  idempotency : GoMap GoString := ∅
  /-- The channels that the requests of an execution wait on, and those that are closed. -/
  waiters : GoMap (List ℕ) := ∅
  closedWaits : List ℕ := []
  nextWait : ℕ := 0
  closed : Bool := false
  process : Process := .up
  disk : Option ExecutionTable := none
  runs : List RunRoutine := []
  controls : List ControlRoutine := []
  plans : GoMap (List Chunk) := ∅
  posted : List Post := []
  observed : List Observed := []

/-! ## Sections -/

inductive WriteOutcome
  | written
  | unwritten
  /-- The file is replaced, but the write is reported as failed. -/
  | torn
  deriving DecidableEq

/-- The outcomes of the writes of a section. -/
structure Writes where
  (first second : WriteOutcome := .written)

section Sections

variable (o : HarnessOptions)

/-- The file and its recovery do not exceed the limit. -/
def fitsState (t : ExecutionTable) : Bool :=
  o.stateBytes t.rows ≤ o.maxStateBytes && o.stateBytes t.recovered.rows ≤ o.maxStateBytes

def persistLocked (h : Harness) (w : WriteOutcome) : Harness × Bool :=
  let file := h.executions.encoded
  if fitsState o file then
    match w with
    | .written => ({ h with disk := some file }, true)
    | .unwritten => (h, false)
    | .torn => ({ h with disk := some file }, false)
  else (h, false)

/-- The record is put into memory and written. If that fails, the fallback takes its place. -/
def commit (h : Harness) (c : Commit) (w : Writes) : Harness × Bool :=
  match persistLocked o { h with executions := h.executions.put c.record } w.first with
  | (h', true) => (h', true)
  | (h', false) =>
    let failed := { h' with executions := h'.executions.put c.fallback }
    (if c.retry then (persistLocked o failed w.second).1 else failed, false)

/-- The first write of a commit fails, or would exceed the limit. -/
def Harness.refuses (h : Harness) (c : Commit) (w : Writes) : Bool :=
  w.first ≠ .written || !fitsState o (h.executions.put c.record).encoded

end Sections

def launchLocked (h : Harness) (id : GoString) (epoch : UInt64) : Harness :=
  { h with runs := h.runs ++ [⟨id, epoch, .top⟩] }

/-- The counter of the runs of the execution that have not ended. -/
def Harness.activeRuns (h : Harness) (id : GoString) : ℕ :=
  h.runs.countP fun r => r.id = id && r.place ≠ .gone

def notifyLocked (h : Harness) (id : GoString) : Harness :=
  { h with
    closedWaits := h.closedWaits ++ (h.waiters.lookup id).getD []
    waiters := h.waiters.erase id }

def awaitLocked (h : Harness) (id : GoString) : Harness :=
  { h with
    waiters := h.waiters.insert id ((h.waiters.lookup id).getD [] ++ [h.nextWait])
    nextWait := h.nextWait + 1 }

/-! ## Starting and resuming -/

structure StartRequest where
  protocolVersion : GoString := "managed-comfy/v1"
  (workloadID idempotencyKey : GoString)
  payload : Envelope
  (planHash checkpointRef : GoString := [])

def newExecution (r : StartRequest) (chunks : List Chunk) (id : GoString) : Execution where
  id := id
  workloadID := r.workloadID
  idempotencyKey := r.idempotencyKey
  planHash := r.planHash
  payloadHash := hashChunks chunks
  chunks := chunks
  state := .running
  epoch := 1
  histories := some ∅

section Start

variable (o : HarnessOptions)

/-- A key that is in use answers with its execution, and resumes it at a boundary. -/
def resumeExecution (h : Harness) (r : StartRequest) (chunks : List Chunk) (existing : Execution)
    (w : Writes) : Harness :=
  if existing.workloadID ≠ r.workloadID || existing.planHash ≠ r.planHash ||
      existing.payloadHash ≠ hashChunks chunks then h
  else if r.checkpointRef ≠ [] && r.checkpointRef ≠ existing.checkpointRef then h
  else if existing.state = .yielded || existing.state = .checkpointed then
    if r.checkpointRef = [] then h
    else
      match commit o h existing.resume w with
      | (h', true) => launchLocked h' existing.id (existing.epoch + 1)
      | (h', false) => h'
  else h

/-- A new execution is written and started, under the drawn id. -/
def createExecution (h : Harness) (r : StartRequest) (chunks : List Chunk) (id : GoString)
    (w : WriteOutcome) : Harness :=
  if r.checkpointRef ≠ [] then h
  else
    let e := newExecution r chunks id
    let created :=
      { h with
        executions := h.executions.put e
        idempotency := h.idempotency.insert r.idempotencyKey id
        plans := h.plans.insert id chunks }
    match persistLocked o created w with
    | (h', true) => launchLocked h' id e.epoch
    | (h', false) =>
      { h' with
        executions := h'.executions.erase id
        idempotency := h'.idempotency.erase r.idempotencyKey }

def handleStart (h : Harness) (r : StartRequest) (id : GoString) (w : Writes) : Harness :=
  if r.protocolVersion ≠ ofString "managed-comfy/v1" || r.workloadID = [] ||
      r.idempotencyKey = [] then h
  else
    match parseChunks r.payload with
    | .error _ => h
    | .ok chunks =>
      if h.closed then h
      else
        match (h.idempotency.lookup r.idempotencyKey).getD [] with
        | [] => createExecution o h r chunks id w.first
        | known =>
          match h.executions.get known with
          | none => h
          | some existing => resumeExecution o h r chunks existing w

end Start

/-! ## Runs -/

/-- What a step of a run finds. -/
structure RunAnswer where
  writes : Writes := {}
  /-- The drawn checkpoint reference, if there is one. -/
  reference : Option CheckpointRef := none
  send : SendOutcome := .sent
  reply : PostReply := .ambiguous []
  history : HistoryReply := .absent
  /-- The context of the run has ended. -/
  ended : Bool := false

/-- What a step of a run does. -/
inductive RunAction
  | stay
  | move (place : RunPlace)
  | post (c : Chunk) (hops : ℕ)
  /-- A successful terminal history was seen. -/
  | observe (c : Chunk) (promptID history : GoString)
  /-- A write, and where the run goes after it and after one that failed. -/
  | write (k : Commit) (written unwritten : RunPlace)
  | panic

variable (epoch : UInt64)

/-- The section at the head of the loop of `run`. -/
def runTop : Option Execution → RunAction
  | none => .move .exiting
  | some e =>
    if e.state ≠ .running || e.epoch ≠ epoch then .move .exiting
    else
      match e.chunks[e.nextChunk]? with
      | none => .write e.complete .exiting .exiting
      | some c =>
        if e.submission ≠ .unset || e.currentPrompt ≠ [] then
          .write e.refuseResubmission .exiting .exiting
        else .write (e.submit c.id) (.chunk c .submitting) .exiting

/-- The section of `executeChunk` that records the prompt. -/
def runAccept (c : Chunk) (promptID : GoString) (e : Option Execution) : RunAction :=
  let fenced : RunPlace := .chunk c (.returned (.unresolved "context canceled"))
  match e with
  | none => .move fenced
  | some e =>
    if e.epoch = epoch && e.submission = .submitting && e.submittingChunk = c.id then
      .write (e.accept promptID) (.chunk c (.polling promptID))
        (.chunk c (.returned (.unresolved "Comfy accepted prompt; prompt identity journal failed")))
    else if e.submittingChunk = c.id && e.currentPrompt = [] then
      .write (e.acceptLate promptID) fenced fenced
    else .move fenced

def markSubmissionUnknown (c : Chunk) (cause : GoString) (e : Option Execution) : RunAction :=
  let returned : RunPlace := .chunk c (.returned (.unresolved cause))
  match e with
  | none => .move returned
  | some e =>
    if e.epoch = epoch && e.submission = .submitting then
      .write (e.submissionUnknown cause) returned returned
    else .move returned

/-- The section of `run` after a chunk. -/
def runReturned (outcome : ChunkOutcome) (a : RunAnswer) : Option Execution → RunAction
  | none => .move .exiting
  | some e =>
    if e.epoch ≠ epoch || e.state ≠ .running then .move .exiting
    else
      match outcome with
      | .failed message => .write (e.chunkFailed message) .exiting .exiting
      | .unresolved message => .write (e.chunkUncertain message) .exiting .exiting
      | .finished promptID history =>
        match e.histories with
        | none => .panic
        | some histories =>
          if e.requested = .checkpoint || e.requested = .yield then
            match a.reference with
            | none => .write e.missReference .exiting .exiting
            | some ref => .write (e.reachBoundary histories promptID history ref) .exiting .exiting
          else .write (e.advance histories promptID history) .top .exiting

/-- The next action of a run, by the record of its execution. -/
def runAction (e : Option Execution) (a : RunAnswer) : RunPlace → RunAction
  | .top => runTop epoch e
  | .chunk c stage =>
    match stage with
    | .submitting =>
      match a.send with
      | .sent => .post c 0
      | .invalid e => .move (.chunk c (.returned (.unresolved e)))
      | .unsent e => .move (.chunk c (.marking e))
    | .posting _ hops =>
      match a.reply with
      | .redirected =>
        -- The client sends no more than ten requests.
        if hops < 9 then .post c (hops + 1)
        else .move (.chunk c (.marking "stopped after 10 redirects"))
      | .rejected message => .move (.chunk c (.returned (.failed message)))
      | .accepted promptID =>
        if promptID = [] then
          .move (.chunk c (.marking
            "Comfy accepted prompt without a usable prompt_id; submission outcome is ambiguous"))
        else .move (.chunk c (.accepting promptID))
      | .ambiguous e => .move (.chunk c (.marking e))
    | .accepting promptID => runAccept epoch c promptID e
    | .marking cause => markSubmissionUnknown epoch c cause e
    | .polling promptID =>
      match comfyHistory promptID a.history with
      | .error e => .move (.chunk c (.returned (.unresolved e)))
      | .failed message => .move (.chunk c (.returned (.failed message)))
      | .success raw => .observe c promptID raw
      | .absent | .unfinished =>
        if a.ended then .move (.chunk c (.returned (.unresolved "context canceled"))) else .stay
    | .returned outcome => runReturned epoch outcome a e
  | .exiting => .move .gone
  | .gone => .stay

def Harness.moveRun (h : Harness) (i : ℕ) (r : RunRoutine) (place : RunPlace) : Harness :=
  { h with runs := h.runs.set i { r with place := place } }

/-- The run goes on after a section, and wakes the waiting requests if that ends it. -/
def Harness.afterSection (h : Harness) (i : ℕ) (r : RunRoutine) (place : RunPlace) : Harness :=
  (if place = .exiting then notifyLocked h r.id else h).moveRun i r place

/-- One step of a run. A panic comes with the mutex locked, and the deferred function of
`launchLocked` waits for it: the process hangs, and here it ends. -/
def runStep (o : HarnessOptions) (h : Harness) (i : ℕ) (r : RunRoutine) (a : RunAnswer) : Harness :=
  match runAction r.epoch (h.executions.get r.id) a r.place with
  | .stay => h
  | .move place => h.moveRun i r place
  | .post c hops =>
    Harness.moveRun { h with posted := h.posted ++ [⟨h.posted.length, r.id, c.id, hops⟩] } i r
      (.chunk c (.posting h.posted.length hops))
  | .observe c promptID history =>
    Harness.moveRun { h with observed := h.observed ++ [⟨r.id, c.id, promptID, history⟩] } i r
      (.chunk c (.returned (.finished promptID history)))
  | .write k written unwritten =>
    let p := commit o h k a.writes
    p.1.afterSection i r (if p.2 then written else unwritten)
  | .panic => { h with process := .panicked .nilMapWrite }

/-! ## Control requests -/

/-- What a step of a control request finds. -/
structure ControlAnswer where
  writes : Writes := {}
  queue : QueueReply := .unavailable []
  /-- The error of the request that deletes a prompt, if it fails. -/
  deletion : Option GoString := none
  history : HistoryReply := .absent
  ended : Bool := false

/-- What a control request does for the waiting requests after its write. -/
inductive ControlNotice
  | silent
  | wake
  | await

def ControlNotice.apply (h : Harness) (id : GoString) : ControlNotice → Harness
  | silent => h
  | wake => notifyLocked h id
  | await => awaitLocked h id

/-- What a step of a control request does. -/
inductive ControlAction
  | stay
  | move (place : ControlPlace)
  /-- A write, and what follows it. One that fails is answered. -/
  | write (k : Commit) (notice : ControlNotice) (written : ControlPlace)
  | panic

/-- An execution that a cancel request leaves as it is. -/
def atRest (state : ExecutionState) : Bool :=
  state = .cancelled || state = .completed || state = .failed || state = .yielded ||
    state = .checkpointed

/-- The first section of a cancel request, by the number of runs that are counted. -/
def cancelEntered (active : ℕ) (e : Execution) : ControlAction :=
  if atRest e.state then .move .answered
  else if e.submission = .unset && e.currentPrompt = [] then
    .write e.cancelUnsubmitted .wake .answered
  else if e.submission = .submitting || e.submission = .unknown || e.currentPrompt = [] then
    if active = 0 then .move (.queueing e.epoch) else .write e.cancelUncertain .silent .answered
  else .write e.cancelIntent .silent (.observing (e.epoch + 1) e.currentPrompt)

/-- The section of a cancel request after it has read the queue. -/
def cancelQueued (active : ℕ) (epoch : UInt64) (idle : Bool) : Option Execution → ControlAction
  | none => .move .answered
  | some e =>
    if idle && e.epoch = epoch && active = 0 && e.state ≠ .cancelled && e.state ≠ .completed &&
        e.state ≠ .failed then
      .write e.cancelProven .wake .answered
    else .write e.cancelUncertain .silent .answered

/-- The section of a cancel request after `stopComfyPrompt`. -/
def cancelStopped (epoch : UInt64) (failure : Option GoString) (e : Option Execution) :
    ControlAction :=
  match e, failure with
  | none, none => .move .answered
  | none, some _ => .panic
  | some e, none =>
    if e.epoch = epoch && e.state = .cancelling then .write e.stopConfirmed .wake .answered
    else .move .answered
  | some e, some message =>
    if e.epoch = epoch && e.state = .cancelling then .write (e.stopFailed message) .silent .answered
    else .move .answered

/-- The next action of a control request. -/
def controlAction (h : Harness) (c : ControlRoutine) (a : ControlAnswer) : ControlAction :=
  let fail (epoch : UInt64) (message : GoString) : ControlAction :=
    .move (.stopped epoch (some message))
  match c.place with
  | .entered =>
    match h.executions.get c.id with
    | none => .move .answered
    | some e =>
      if c.operation = .cancel then cancelEntered (h.activeRuns c.id) e
      else if e.state ≠ .running then .move .answered
      else .write (e.request c.operation.requested) .await (.waiting h.nextWait)
  | .queueing epoch => .move (.queued epoch a.queue.idle)
  | .queued epoch idle => cancelQueued (h.activeRuns c.id) epoch idle (h.executions.get c.id)
  | .observing epoch promptID =>
    match a.queue with
    | .unavailable e => fail epoch ("observe exact Comfy prompt before cancellation: " ++ e)
    | .rows pending running =>
      if promptID ∈ running then
        fail epoch
          "exact prompt is running; this Comfy backend has no selective running-prompt cancellation"
      else if promptID ∈ pending then .move (.deleting epoch promptID)
      else fail epoch
        (ofString "exact prompt is absent from the queue; cancellation cannot distinguish " ++
          "completion from an external removal")
  | .deleting epoch promptID =>
    match a.deletion with
    | some e => fail epoch ("delete exact queued prompt: " ++ e)
    | none => .move (.confirming epoch promptID)
  | .confirming epoch promptID =>
    match a.queue with
    | .unavailable e => fail epoch ("confirm exact prompt queue state: " ++ e)
    | .rows pending running =>
      if promptID ∈ running then
        fail epoch "exact prompt started before queued deletion was confirmed"
      else if promptID ∈ pending then
        if a.ended then fail epoch "context deadline exceeded" else .stay
      else .move (.recalling epoch promptID)
  | .recalling epoch promptID =>
    match comfyHistory promptID a.history with
    | .error e | .failed e => fail epoch ("confirm exact prompt history after deletion: " ++ e)
    | .unfinished => fail epoch "exact prompt still has a nonterminal Comfy history record"
    | .success _ => fail epoch "exact prompt completed before cancellation was confirmed"
    | .absent => .move (.stopped epoch none)
  | .stopped epoch failure => cancelStopped epoch failure (h.executions.get c.id)
  | .waiting wait =>
    if wait ∈ h.closedWaits then .move .woken else if a.ended then .move .answered else .stay
  | .woken => if (h.executions.get c.id).isSome then .move .answered else .panic
  | .answered => .stay

def Harness.moveControl (h : Harness) (j : ℕ) (c : ControlRoutine) (place : ControlPlace) :
    Harness :=
  { h with controls := h.controls.set j { c with place := place } }

def controlStep (o : HarnessOptions) (h : Harness) (j : ℕ) (c : ControlRoutine)
    (a : ControlAnswer) :
    Harness :=
  match controlAction h c a with
  | .stay => h
  | .move place => h.moveControl j c place
  | .write k notice written =>
    let p := commit o h k a.writes
    (if p.2 then notice.apply p.1 c.id else p.1).moveControl j c
      (if p.2 then written else .answered)
  | .panic => { h with process := .panicked .nilExecution }

/-! ## Restarts and steps -/

/-- A new process on the same state file, with what was recorded for the statements. -/
def Harness.fresh (h : Harness) : Harness where
  disk := h.disk
  plans := h.plans
  posted := h.posted
  observed := h.observed

/-- `load` in a new process. The file may be unreadable, and the write after a recovery may fail. -/
def restart (o : HarnessOptions) (h : Harness) (readable : Bool) (w : WriteOutcome) : Harness :=
  match h.disk with
  | none => h.fresh
  | some t =>
    if !readable || o.maxStateBytes < o.stateBytes t.rows then { h.fresh with process := .down }
    else
      match loadExecutions t.rows with
      | .error _ => { h.fresh with process := .down }
      | .ok l =>
        let loaded := { h.fresh with executions := l.executions, idempotency := l.idempotency }
        if l.recovered then
          match persistLocked o loaded w with
          | (h', true) => h'
          | (h', false) => { h' with process := .down }
        else loaded

inductive HarnessEvent
  | start (r : StartRequest) (id : GoString) (w : Writes)
  | control (id : GoString) (operation : Operation)
  | proceedControl (j : ℕ) (a : ControlAnswer)
  | proceedRun (i : ℕ) (a : RunAnswer)
  | close
  | restart (readable : Bool) (w : WriteOutcome)

/-- One step. A process that has ended can only be started again. -/
def Harness.step (o : HarnessOptions) (h : Harness) : HarnessEvent → Harness
  | .restart readable w => ComfyHarness.restart o h readable w
  | event =>
    if h.process = .up then
      match event with
      | .start r id w => handleStart o h r id w
      | .control id operation => { h with controls := h.controls ++ [⟨id, operation, .entered⟩] }
      | .proceedControl j a =>
        match h.controls[j]? with
        | some c => controlStep o h j c a
        | none => h
      | .proceedRun i a =>
        match h.runs[i]? with
        | some r => runStep o h i r a
        | none => h
      | .close => { h with closed := true }
      | .restart _ _ => h
    else h

/-- An id that a start request draws was never drawn before. -/
def HarnessEvent.fresh (h : Harness) : HarnessEvent → Bool
  | .start _ id _ => id ≠ [] && (h.plans.lookup id).isNone
  | _ => true

/-- **The steps of the harness**: any of its requests and runs may be the next. -/
def HarnessStep (o : HarnessOptions) (h : Harness) (e : HarnessEvent) (h' : Harness) : Prop :=
  e.fresh h = true ∧ h' = h.step o e

end VramGovernor.ComfyHarness
