import VramGovernor.Foundations.Run
import VramGovernor.Store.NodeCommands

/-!
# The controller's work on node commands

The goroutines of `internal/api/node_commands.go` share nothing but the table of the store. Every
one of them reads a row, works on its copy and writes it back with a swap, so that anything may
happen to the row in between.

A `Task` is a piece of such a goroutine that calls the store once, with the copies it holds there;
`Task.exec` is the call, with the tasks that follow it. Whatever else decides how it goes on is an
answer from outside (`Answers`). Timers are not kept: a recovery may be tried for any command at any
time.
-/

namespace VramGovernor.Api

open GoString Store
open NodeAgent (CommandName InInt64)

/-- What a node reports of a command. -/
structure CommandResultPayload where
  (id nodeID : GoString)
  ok : Bool
  uncertain : Bool := false
  result : WireObject := ∅
  error : GoString := []
  completedAt : GoTime := {}

/-- A new command: what is signed, and the command that a query reconciles. -/
structure NodeCommandRequest where
  (id idempotencyKey nodeID : GoString)
  command : CommandName
  args : Option WireObject := none
  (issuedBy signature : GoString := [])
  (createdAt expiresAt : GoTime := {})
  reconcilesCommandID : GoString := []

def NodeCommandRequest.row (r : NodeCommandRequest) : NodeCommandRow :=
  { id := r.id, idempotencyKey := r.idempotencyKey, nodeID := r.nodeID, command := r.command
    args := r.args, issuedBy := r.issuedBy, signature := r.signature, createdAt := r.createdAt
    expiresAt := r.expiresAt, updatedAt := r.createdAt
    reconcilesCommandID := r.reconcilesCommandID }

/-- The answers a task gets from outside of the table. -/
structure Answers where
  /-- `time.Now().UTC()`. -/
  now : GoTime := {}
  /-- Whether the caller still waits. -/
  waiting : Bool := true
  /-- Whether a profile switch holds the scheduler's ticket and no earlier one is unresolved. -/
  ticket : Bool := true
  /-- Whether the node is connected. -/
  connected : Bool := true
  /-- Whether the message reached the connection. -/
  written : Bool := true
  /-- Whether the signature of the row verifies. -/
  verified : Bool := true
  /-- What the validators of the evidence object to. -/
  objection : Option GoString := none
  /-- How the observed fence is printed. -/
  fenceText : GoString := []
  /-- The rows of the table in the order in which a listing gives them. -/
  rows : List (GoMap.Entry NodeCommandRow) := []
  /-- The id, the idempotency key and the signature of a new query. -/
  (queryID queryKey querySignature : GoString := [])

/-- A query is only delivered, or a waiter or a recovery awaits its result, after that many failed
ones. -/
inductive QueryUse
  | deliver
  | observe (failures : ℕ) (recovering : Bool)

/-- A call of the store, with the copies its goroutine holds. -/
inductive Task
  /-- Creates a command; an execution waits for its result. -/
  | create (request : NodeCommandRequest) (execution : Bool)
  | send (command : NodeCommandRow) (execution : Bool)
  /-- The message did not reach the node. -/
  | reopen (id : GoString)
  | reopenWrite (latest : NodeCommandRow)
  | wait (id : GoString)
  | promote (id nodeID : GoString) (result : Option WireObject) (error : GoString)
  | dispatch (nodeID : GoString)
  | dispatchRow (command : NodeCommandRow)
  | expire (command : NodeCommandRow)
  | reconcile (original : NodeCommandRow) (recovering : Bool)
  | query (original : NodeCommandRow) (use : QueryUse)
  | createQuery (original : NodeCommandRow) (request : NodeCommandRequest) (use : QueryUse)
  | awaitQuery (original query : NodeCommandRow) (failures : ℕ) (recovering : Bool)
  | receive (result : CommandResultPayload)
  /-- Reads the original of a query before its result is recorded. -/
  | observe (command : NodeCommandRow) (result : CommandResultPayload)
  | rejectQuery (command : NodeCommandRow) (result : CommandResultPayload) (objection : GoString)
  | writeResult (command : NodeCommandRow) (result : CommandResultPayload)
  | settle (id : GoString) (observed : WireObject) (recovering : Bool)
  | settleWrite (original : NodeCommandRow) (observed : WireObject) (recovering : Bool)
  /-- Reads the row again after a settlement lost its swap. -/
  | settleReload (id : GoString) (recovering : Bool)
  /-- A recovery timer fires. -/
  | recover (id : GoString)
  | advance (id : GoString)
  /-- The reconciliation of a recovery ended with an error. -/
  | recoverAgain (id : GoString)
  | backoff (latest : NodeCommandRow)

/-! ## The parts of the handlers -/

/-- What a recovery does when its reconciliation fails; a waiter returns the error. -/
def unreconciled (id : GoString) (recovering : Bool) : List Task :=
  if recovering then [.recoverAgain id] else []

def QueryUse.failed (id : GoString) : QueryUse → List Task
  | .deliver => []
  | .observe _ recovering => unreconciled id recovering

def QueryUse.issued (original query : NodeCommandRow) : QueryUse → List Task
  | .deliver => []
  | .observe failures recovering => [.awaitQuery original query failures recovering]

def windowOver (row : NodeCommandRow) (now : GoTime) : Bool :=
  !row.expiresAt.isZero && !now.before row.expiresAt

def nodeCommandReplayMatches (stored : NodeCommandRow) (nodeID : GoString) (command : CommandName)
    (args : Option WireObject) : Bool :=
  stored.nodeID = nodeID && stored.command = command && sameArgs stored.args args

def observationFence : Option WireValue → Except GoError ℤ
  | some (.number (.integer n) _) =>
    if InInt64 n then .ok n else .error ⟨"fence must be an integer", none⟩
  | some (.number (.float q) _) =>
    if q.den = 1 ∧ InInt64 q.num then .ok q.num else .error ⟨"fence must be an integer", none⟩
  | _ => .error ⟨"fence is required", none⟩

/-- The row as it is sent once more. -/
def sentAgain (command : NodeCommandRow) (now : GoTime) : NodeCommandRow :=
  { command with
    status := .sent, sentAt := some now, attempts := command.attempts + 1, lastSentAt := some now
    updatedAt := now }

/-- The message goes to the node once the row is marked sent. -/
def deliverTasks (a : Answers) (id : GoString) (execution : Bool) :
    Except GoError NodeCommandRow → List Task
  | .error _ => []
  | .ok sent => if !a.written then [.reopen sent.id] else if execution then [.wait id] else []

def sendNodeCommand (m : NodeCommandTable) (a : Answers) (command : NodeCommandRow)
    (execution : Bool) : NodeCommandTable × List Task :=
  if command.status ≠ .queued && command.status ≠ .sent then (m, [])
  else if command.command = .switchRuntimeProfile && !a.ticket then (m, [])
  else if !a.connected then (m, [])
  else
    -- the row is marked sent before the node can reply
    let swapped := m.compareAndSwapNodeCommandRevision (sentAgain command a.now) command.revision
      command.attempts command.uncertain [.queued, .sent]
    (swapped.1, deliverTasks a command.id execution swapped.2)

/-- The row that a reader found, if it is one to reopen. -/
def reopenTasks (latest : NodeCommandRow) : List Task :=
  if latest.status ≠ .sent || latest.uncertain then [] else [.reopenWrite latest]

def waitTasks (a : Answers) (id : GoString) (current : NodeCommandRow) : List Task :=
  if current.status = .succeeded || current.status = .failed || current.status = .expired then []
  else if current.uncertain then [.reconcile current false]
  else if windowOver current a.now then
    [.promote current.id current.nodeID none
      "unresolved: command expired before node result; authoritative recovery required"]
  else if a.waiting then [.wait id] else []

/-- What a reconnected node gets for a row. -/
def dispatchTasks (now : GoTime) (command : NodeCommandRow) : List Task :=
  if command.status ≠ .queued && command.status ≠ .sent then []
  else if command.uncertain then [.query command .deliver]
  else if now.after command.expiresAt then [.expire command] else [.send command false]

def expiredRow (command : NodeCommandRow) (now : GoTime) : NodeCommandRow :=
  { command with
    status := .expired
    error := "unresolved: command expired before delivery; authoritative runtime " ++
      "reconciliation required"
    completedAt := some now, updatedAt := now }

def reconcileTasks (a : Answers) (original : NodeCommandRow) (recovering : Bool) : List Task :=
  if windowOver original a.now then unreconciled original.id recovering
  else if original.command = .reclaimAccelerator then unreconciled original.id recovering
  else [.query original (.observe 0 recovering)]

/-! ### The authoritative query -/

def canonicalResidencyCommandArgs (targetID model runtimeIdentity capabilityVersion
    capabilityRevision expectedTier : GoString) (fence : ℤ) : WireObject :=
  WireObject.put (∅ : WireObject) "target_kind" (.text "llamacpp")
    |>.put "target_id" (.text targetID)
    |>.put "model" (.text model)
    |>.put "runtime_identity" (.text runtimeIdentity)
    |>.put "capability_version" (.text capabilityVersion)
    |>.put "capability_revision" (.text capabilityRevision)
    |>.put "expected_tier" (.text expectedTier)
    |>.put "fencing_token" (.number (.integer fence) (sprint fence))

variable (original : NodeCommandRow)

/-- The arguments of the query; none for a command that does not say exactly what it is about. -/
def queryArgs : Option WireObject :=
  let target := original.textArg "target_id"
  let model := original.textArg "model"
  let runtimeIdentity := original.textArg "runtime_identity"
  let capabilityVersion := original.textArg "capability_version"
  let capabilityRevision := original.textArg "capability_revision"
  if target = [] || model = [] || runtimeIdentity = [] || capabilityVersion = [] ||
      capabilityRevision = [] then none
  else
    match observationFence (original.arg "fencing_token") with
    | .error _ => none
    | .ok fence =>
      if fence < 0 then none
      else if original.command.isCheckpointCommand then
        some (WireObject.put (original.args.getD ∅) "checkpoint_action" (.text "state_query"))
      else
        some (canonicalResidencyCommandArgs target model runtimeIdentity capabilityVersion
            capabilityRevision "query" fence
          |>.put "expected_fence" (.number (.integer fence) (sprint fence))
          |>.put "observed_after_fence" (.number (.integer fence) (sprint fence))
          |>.put "original_command_id" (.text original.id)
          |>.put "original_idempotency_key" (.text original.idempotencyKey))

def queryCommand : CommandName :=
  if original.command.isCheckpointCommand then .checkpointStateQuery else .queryModelState

/-- A query that was issued before and can be used again. -/
def reusableQuery (args : WireObject) (now : GoTime) (row : NodeCommandRow) : Bool :=
  nodeCommandReplayMatches row original.nodeID (queryCommand original) (some args) &&
    row.reconcilesCommandID = original.id &&
    (row.status = .succeeded ||
      ((row.status = .queued || row.status = .sent) && now.before row.expiresAt))

/-- A new query never outlives the window of its original. -/
def queryExpires (now : GoTime) : GoTime :=
  let expires := now.add (600 * 10 ^ 9)
  if !original.expiresAt.isZero && original.expiresAt.before expires then original.expiresAt
  else expires

def queryRequest (args : WireObject) (a : Answers) : NodeCommandRequest :=
  { id := a.queryID, idempotencyKey := a.queryKey, nodeID := original.nodeID
    command := queryCommand original, args := some args, issuedBy := "controller-reconciliation"
    signature := a.querySignature, createdAt := a.now, expiresAt := queryExpires original a.now
    reconcilesCommandID := original.id }

/-- The first half of `issueAuthoritativeQuery`: a query is found again, or a new one is made. -/
def issueTasks (a : Answers) (original : NodeCommandRow) (use : QueryUse) : List Task :=
  if original.command = .switchRuntimeProfile then use.failed original.id
  else
    match queryArgs original with
    | none => use.failed original.id
    | some args =>
      match a.rows.find? fun e => reusableQuery original args a.now e.2 with
      | some e =>
        (if e.2.status = .succeeded then [] else [.send e.2 false]) ++ use.issued original e.2
      | none => [.createQuery original (queryRequest original args a) use]

def createdQueryTasks (original stored : NodeCommandRow) (request : NodeCommandRequest)
    (created : Bool) (use : QueryUse) : List Task :=
  if !created && (!nodeCommandReplayMatches stored request.nodeID request.command request.args ||
      stored.reconcilesCommandID ≠ original.id) then use.failed original.id
  else
    (if created || (stored.status ≠ .succeeded && stored.status ≠ .failed &&
        stored.status ≠ .expired) then [.send stored false] else []) ++ use.issued original stored

def awaitTasks (a : Answers) (original query current : NodeCommandRow) (failures : ℕ)
    (recovering : Bool) : List Task :=
  if windowOver original a.now then unreconciled original.id recovering
  else
    match current.status with
    | .succeeded =>
      if a.objection.isSome then unreconciled original.id recovering
      -- a checkpoint command stays uncertain; its coordinator takes the evidence
      else if original.command.isCheckpointCommand then []
      else [.settle original.id (current.result.getD ∅) recovering]
    | .failed | .expired =>
      if failures + 1 ≥ 3 then unreconciled original.id recovering
      else if windowOver current a.now then
        .query original .deliver :: unreconciled original.id recovering
      else [.query original (.observe (failures + 1) recovering)]
    | .queued | .sent =>
      if windowOver current a.now then unreconciled original.id recovering
      else if a.waiting then [.awaitQuery original query failures recovering]
      else unreconciled original.id recovering

/-! ### Results -/

def receiveTasks (command : NodeCommandRow) (r : CommandResultPayload) : List Task :=
  if command.nodeID ≠ r.nodeID then []
  else if r.uncertain && command.command ≠ .queryModelState then
    [.promote command.id r.nodeID (some r.result) r.error]
  else if command.status = .succeeded || command.status = .failed ||
      (command.status = .expired && command.result.isSome) then []
  else if command.uncertain && command.command ≠ .queryModelState && !r.uncertain then []
  else if command.command = .queryModelState && r.ok && command.reconcilesCommandID ≠ [] then
    [.observe command r]
  else [.writeResult command r]

def rejectedQuery (command : NodeCommandRow) (r : CommandResultPayload) (objection : GoString)
    (now : GoTime) : NodeCommandRow :=
  { command with
    status := .failed
    error := "unresolved: authoritative observation rejected: " ++ objection
    result := some r.result, completedAt := some now, updatedAt := now }

/-- A result that was completed inside the signed window of the command. -/
def completedWithinWindow (command : NodeCommandRow) (r : CommandResultPayload) : Bool :=
  !r.completedAt.isZero && !r.completedAt.after command.expiresAt

/-- The result of a profile switch fails when the manager does not accept its observation. -/
def profileChecked (a : Answers) (command : NodeCommandRow) (r : CommandResultPayload) :
    CommandResultPayload :=
  if command.command = .switchRuntimeProfile && r.ok && !r.uncertain &&
      (!a.now.after command.expiresAt || completedWithinWindow command r) then
    match a.objection with
    | some objection =>
      { r with ok := false, error := "runtime profile observation rejected: " ++ objection }
    | none => r
  else r

def withOutcome (command : NodeCommandRow) (r : CommandResultPayload) (now : GoTime) :
    NodeCommandRow :=
  if now.after command.expiresAt then
    if completedWithinWindow command r then
      { command with
        result := some r.result, error := r.error, uncertain := r.uncertain
        status := if r.ok then .succeeded else .failed }
    else
      { command with
        status := .expired, result := some r.result, uncertain := r.uncertain
        error := "unresolved: late command result arrived after expiry; authoritative runtime " ++
          "reconciliation required" }
  else if r.uncertain then
    { command with
      status := .sent, uncertain := true, result := some r.result, error := r.error }
  else if r.ok then { command with status := .succeeded, result := some r.result }
  else { command with status := .failed, error := r.error }

def recorded (command : NodeCommandRow) (r : CommandResultPayload) (now : GoTime) :
    NodeCommandRow :=
  { withOutcome command r now with completedAt := some now, updatedAt := now }

/-- The result of a query settles its original. -/
def recordedTasks (command : NodeCommandRow) (r : CommandResultPayload) :
    Except GoError NodeCommandRow → List Task
  | .error _ => []
  | .ok stored =>
    if stored.status = .succeeded && command.command = .queryModelState &&
        command.reconcilesCommandID ≠ [] then
      [.settle command.reconcilesCommandID r.result false]
    else []

def writeNodeCommandResult (m : NodeCommandTable) (a : Answers) (command : NodeCommandRow)
    (result : CommandResultPayload) : NodeCommandTable × List Task :=
  let r := profileChecked a command result
  let swapped := m.compareAndSwapNodeCommandRevision (recorded command r a.now) command.revision
    command.attempts command.uncertain [.queued, .sent, .expired]
  (swapped.1, recordedTasks command r swapped.2)

/-! ### Settlement -/

/-- The observation names the very command, its resource and its fence. -/
def boundToOriginal (original : NodeCommandRow) (observed : WireObject) : Bool :=
  (["target_kind", "target_id", "model", "runtime_identity", "capability_version",
      "capability_revision"].all fun key : String =>
    original.textArg key ≠ [] && observed.value key = some (.text (original.textArg key))) &&
  observed.value "action" = some (.text original.command.text) &&
  observed.value "original_command_id" = some (.text original.id) &&
  observed.value "original_idempotency_key" = some (.text original.idempotencyKey) &&
  match observationFence (original.arg "fencing_token") with
  | .error _ => false
  | .ok fence => ["expected_fence", "fencing_token", "observed_after_fence"].all fun key : String =>
      (observationFence (observed.value key)).toOption = some fence

def settleTasks (a : Answers) (original : NodeCommandRow) (observed : WireObject)
    (recovering : Bool) : List Task :=
  if original.status = .succeeded then []
  else if original.status = .failed then unreconciled original.id recovering
  else if !original.uncertain && original.status ≠ .sent then unreconciled original.id recovering
  else if !a.verified then unreconciled original.id recovering
  else if !boundToOriginal original observed then unreconciled original.id recovering
  else if a.objection.isSome then unreconciled original.id recovering
  else [.settleWrite original observed recovering]

/-- The original with the observation: it succeeded if the expected tier was observed. -/
def settledRow (a : Answers) (original : NodeCommandRow) (observed : WireObject) : NodeCommandRow :=
  let expectedTier := original.textArg "expected_tier"
  let observedTier := observed.text "tier"
  let succeeded := expectedTier = [] || expectedTier = observedTier
  { original with
    result := some observed
    uncertain := false
    evidenceKind := authoritativeObservation
    status := if succeeded then .succeeded else .failed
    error :=
      if succeeded then []
      else "authoritative query observed tier=" ++ observedTier ++ " runtime_identity=" ++
        original.textArg "runtime_identity" ++ " observed_fence=" ++ a.fenceText ++
        "; expected tier=" ++ expectedTier
    completedAt := some a.now, updatedAt := a.now }

/-- A settlement that lost its swap looks at the row again; one as failed is an error. -/
def settledTasks (id : GoString) (recovering : Bool) : Except GoError NodeCommandRow → List Task
  | .error _ => [.settleReload id recovering]
  | .ok settled => if settled.status = .failed then unreconciled id recovering else []

def settleUncertainOriginal (m : NodeCommandTable) (a : Answers) (original : NodeCommandRow)
    (observed : WireObject) (recovering : Bool) : NodeCommandTable × List Task :=
  let swapped := m.compareAndSwapNodeCommandRevision (settledRow a original observed)
    original.revision original.attempts original.uncertain [.sent]
  (swapped.1, settledTasks original.id recovering swapped.2)

/-! ### Recovery -/

def recoverTasks (now : GoTime) (row : NodeCommandRow) : List Task :=
  if !row.uncertain then []
  else if row.recoveryNextAt.any fun next => next.after now then [] else [.advance row.id]

/-- The row with the instant of the next recovery. -/
def deferred (latest : NodeCommandRow) (now : GoTime) : NodeCommandRow :=
  { latest with
    recoveryNextAt := some (now.add
      (NodeCommandTable.nodeCommandRecoveryBackoff latest.recoveryAttempts)) }

/-! ## Tasks and goroutines -/

/-- What is read at the id decides what follows. -/
def reading (m : NodeCommandTable) (id : GoString) (missing : List Task)
    (found : NodeCommandRow → List Task) : NodeCommandTable × List Task :=
  (m, match m.nodeCommands.lookup id with
    | none => missing
    | some row => found row)

/-- The call of a task, and the tasks that its goroutine does next. -/
def Task.exec (m : NodeCommandTable) (a : Answers) : Task → NodeCommandTable × List Task
  | create request execution =>
    let created := m.createNodeCommand request.row
    (created.1, match created.2 with
      | .error _ => []
      | .ok (stored, new) =>
        if !new && !nodeCommandReplayMatches stored request.nodeID request.command request.args then
          []
        -- a replay of an uncertain command is never sent again
        else if stored.uncertain then if execution then [reconcile stored false] else []
        else [send stored execution])
  | send command execution => sendNodeCommand m a command execution
  | reopen id => reading m id [] reopenTasks
  | reopenWrite latest =>
    ((m.compareAndSwapNodeCommandRevision { latest with status := .queued, updatedAt := a.now }
      latest.revision latest.attempts latest.uncertain [.sent]).1, [])
  | wait id => reading m id [] (waitTasks a id)
  | promote id nodeID result error =>
    ((m.promoteNodeCommandUncertain id nodeID result error a.now).1, [])
  | dispatch nodeID =>
    (m, (a.rows.filter fun e => nodeID = [] || e.2.nodeID = nodeID).map fun e => dispatchRow e.2)
  | dispatchRow command => (m, dispatchTasks a.now command)
  | expire command =>
    ((m.compareAndSwapNodeCommandRevision (expiredRow command a.now) command.revision
      command.attempts command.uncertain [.queued, .sent]).1, [])
  | reconcile original recovering => (m, reconcileTasks a original recovering)
  | query original use => (m, issueTasks a original use)
  | createQuery original request use =>
    let created := m.createNodeCommand request.row
    (created.1, match created.2 with
      | .error _ => use.failed original.id
      | .ok (stored, new) => createdQueryTasks original stored request new use)
  | awaitQuery original issued failures recovering =>
    reading m issued.id (unreconciled original.id recovering) fun current =>
      awaitTasks a original issued current failures recovering
  | receive result => reading m result.id [] fun command => receiveTasks command result
  | observe command result =>
    reading m command.reconcilesCommandID [] fun _ =>
      match a.objection with
      | some objection => [rejectQuery command result objection]
      | none => [writeResult command result]
  | rejectQuery command result objection =>
    ((m.compareAndSwapNodeCommandRevision (rejectedQuery command result objection a.now)
      command.revision command.attempts command.uncertain [.queued, .sent]).1, [])
  | writeResult command result => writeNodeCommandResult m a command result
  | settle id observed recovering =>
    reading m id (unreconciled id recovering) fun original =>
      settleTasks a original observed recovering
  | settleWrite original observed recovering =>
    settleUncertainOriginal m a original observed recovering
  | settleReload id recovering =>
    reading m id (unreconciled id recovering) fun latest =>
      if latest.status = .succeeded then [] else unreconciled id recovering
  | recover id => reading m id [] (recoverTasks a.now)
  | advance id =>
    let advanced := m.advanceNodeCommandRecovery id a.now
    (advanced.1, match advanced.2 with
      | .error _ => []
      | .ok updated => if !updated.uncertain then [] else [reconcile updated true])
  | recoverAgain id => reading m id [] fun latest =>
      if !latest.uncertain then [] else [backoff latest]
  | backoff latest =>
    ((m.compareAndSwapNodeCommandRevision (deferred latest a.now) latest.revision latest.attempts
      true [.sent]).1, [])

/-- A goroutine starts with the task. -/
def Task.isEntry : Task → Bool
  | create request _ => request.reconcilesCommandID = []
  | dispatch _ | receive _ | recover _ => true
  | _ => false

/-- The controller: the table, and for every goroutine the tasks it still has to do. -/
structure Controller where
  table : NodeCommandTable := {}
  goroutines : List (List Task) := []

inductive ControllerEvent
  | start (task : Task)
  /-- The goroutine at that place does its next task. -/
  | proceed (i : ℕ) (a : Answers)

namespace Controller

variable (s : Controller)

def exec : ControllerEvent → Controller
  | .start task => { s with goroutines := s.goroutines ++ [[task]] }
  | .proceed i a =>
    match s.goroutines[i]? with
    | some (task :: rest) =>
      { table := (task.exec s.table a).1
        goroutines := s.goroutines.set i ((task.exec s.table a).2 ++ rest) }
    | _ => s

end Controller

/-- A goroutine starts with an entry task; a listing gives every row of the table once. -/
def ControllerEvent.Possible (s : Controller) : ControllerEvent → Prop
  | .start task => task.isEntry = true
  | .proceed _ a => GoMap.RangeOrder s.table.nodeCommands a.rows

/-- **One step of the controller**: any goroutine may be the next. -/
def ControllerStep (s : Controller) (e : ControllerEvent) (s' : Controller) : Prop :=
  e.Possible s ∧ s' = s.exec e

end VramGovernor.Api
