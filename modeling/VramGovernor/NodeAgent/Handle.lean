import VramGovernor.NodeAgent.State

/-!
# Handling a command

`Handle` takes a command through its stages: the gates of a blocked processor, the intent, the
write-ahead fence with its save, the execution, the settlement of a query and the last save. What
the processor cannot compute from its own state is a circumstance of the call (`Circumstances`).
After a crash the processor is started from what the disk holds.

The list of executions records which mutations reached the runtime; it is not a part of the program.
-/

namespace VramGovernor.NodeAgent

open GoString

/-! ## Circumstances of a command -/

/-- What is returned for a command. -/
structure Reply where
  ok : Bool
  error : GoString
  uncertain : Bool := false
  deriving DecidableEq, Repr

def Reply.refused (message : GoString) : Reply := ⟨false, message, false⟩

/-- Intents that an observation of the runtime retires, with the transitions it ends. -/
structure Settlement where
  (pending inflight : List GoString := [])
  deriving DecidableEq, Repr

/-- How an execution ends, after its result was completed and sanitized. -/
structure Outcome where
  error : Option GoString := none
  (sideEffectStarted commits : Bool := true)
  settlement : Settlement := {}
  unblocks : Bool := false
  deriving DecidableEq, Repr

/-- What a query that succeeded proves about pending intents. -/
inductive QueryProof
  | nothing
  | rejected
  | retires (s : Settlement)
  deriving DecidableEq, Repr

structure Circumstances where
  /-- Why the command is not authentic, well formed, valid yet or linked to its original. -/
  refusal : Option GoString := none
  gateTime : GoTime
  /-- The warm entry of the command's model exists and is not verified. -/
  warmUnverified : Bool := false
  /-- The original command of a query is pending or completed. -/
  queryKnown : Bool := false
  /-- A query matches its pending or completed original. -/
  queryMatches : Bool := false
  /-- The cached observation of a query is authoritative. -/
  settledMatches : Bool := false
  /-- The cached result of a mutation may be replayed. -/
  mutationMatches : Bool := false
  /-- A result is recorded under the command's ID or its idempotency key. -/
  cacheRecord : Bool := false
  /-- What a replay answers. -/
  cached : Option Reply := none
  preflight : Option GoString := none
  plan : Option GoError := none
  /-- What the journal of stops or relaunches objects to. -/
  transition : Option GoError := none
  journaled : Bool := true
  intentSave : SaveOutcome := .completes
  mutationTime : GoTime
  outcome : Outcome := {}
  proof : QueryProof := .nothing
  (querySave finalSave : SaveOutcome := .completes)
  /-- What the load after a crash finds. -/
  reload : LoadCircumstances := {}

/-! ## Gates -/

namespace Processor

variable (cfg : Config) (p : Processor) (command : NodeCommand) (c : Circumstances)

def pendingWarmCleanupRetryFor : Bool :=
  let target := match cfg.routerTarget command.targetID with
    | some server => cfg.canonicalTarget server
    | none => command.targetID
  c.warmUnverified && p.pending.entries.any fun e =>
    e.2.targetID = target && e.2.command.isWarmLifecycleCommand

def cleanupRetry : Bool :=
  command.name = .cleanupWarmModel && p.stateBlockReason = some .warmTransient &&
    p.pendingWarmCleanupRetryFor cfg command c

/-- A query about a stop or a relaunch passes an open processor and a transient block. -/
def rootQueryRecovery : Bool :=
  (command.name = .llmDisplacementStopQuery || command.name = .planQuery) &&
    (!p.stateBlocked && p.stateBlockReason = none ||
      p.stateBlocked && p.stateBlockReason = some .warmTransient)

def queryRecovery : Bool :=
  command.name.isReadOnlyCheckpointCommand || p.rootQueryRecovery command ||
    command.name.isReadOnlyResidencyCommand && c.queryMatches

def unsettled : Bool := p.stateBlocked || !p.pending.entries.isEmpty

def absoluteBlocked : Bool := p.unsettled && p.stateBlockReason ≠ some .warmTransient

def settledReplay : Bool := !p.absoluteBlocked && c.queryKnown && c.settledMatches

def durableMutationReplay : Bool := !p.absoluteBlocked && c.mutationMatches

def blockMessage : GoString :=
  match p.stateBlockReason with
  | some reason => "command state blocked: " ++ reason.text
  | none => "command state requires reconciliation"

/-- The reply of the gates, `none` for a command that passes them. -/
def gate : Option Reply :=
  let cleanupRetry := p.cleanupRetry cfg command c
  let queryRecovery := p.queryRecovery command c
  let replay := p.settledReplay c || p.durableMutationReplay c
  let preflightFails := cfg.strictResidencyEnvelope && c.preflight.isSome
  let readOnly := command.name.isReadOnlyResidencyCommand
  if readOnly && !c.queryKnown then
    some (.refused "query original command linkage is not a durable pending or completed command")
  else if p.absoluteBlocked && !cleanupRetry && !queryRecovery then some (.refused p.blockMessage)
  else if c.cacheRecord && !replay && !cleanupRetry then
    some (.refused "command blocked: cached residency result failed closed validation")
  else if p.unsettled && readOnly && !queryRecovery && !replay && preflightFails then
    some (.refused (c.preflight.getD []))
  else if p.unsettled && !cleanupRetry && !queryRecovery && !replay then
    some (.refused p.blockMessage)
  else if replay && c.cached.isSome then c.cached
  else if readOnly && !queryRecovery && !p.settledReplay c then
    some (.refused (if preflightFails then c.preflight.getD []
      else "query resource or identity does not match the durable original command"))
  else none

/-! ## The write-ahead fence -/

def checkFence (targetID model : GoString) : Option GoError :=
  match command.fencingToken with
  | none => some ⟨"fencing_token is required", none⟩
  | some value =>
    match exactFenceToken (some value) with
    | .error e => some e
    | .ok token =>
      if token < 0 then some ⟨"fencing_token must not be negative", none⟩
      else
        match p.fences.lookup (fenceKey targetID model) with
        | none => none
        | some previous =>
          if token ≤ previous then
            some ⟨"stale fencing token: " ++ sprint token ++ " is not above " ++ sprint previous,
              none⟩
          else none

/-- The check of the transition an intent asks for. A checkpoint has none. -/
def checkTransition (intent : PendingCommand) : Option GoError :=
  if command.name = .llmDisplacementStop || command.name.isPlanRelaunch then c.transition
  else if command.name.isCheckpointCommand then none
  else p.checkFence command intent.targetID intent.model

/-- Intents and transitions that are over. -/
def settle (s : Settlement) : Processor :=
  { p with
    pending := s.pending.foldl (fun m id => m.erase id) p.pending
    inflight := s.inflight.foldl (fun m key => m.erase key) p.inflight }

/-- The warm intents on the resource that a cleanup retry replaces. -/
def supersededBy (intent : PendingCommand) : List GoString :=
  (p.pending.entries.filter fun e => e.2.targetID = intent.targetID && e.2.model = intent.model &&
    e.2.command.isWarmLifecycleCommand).map (·.1)

/-- The intent with its fence, in memory. -/
def enter (intent : PendingCommand) (key : GoString) : Processor :=
  { p with
    inflight := p.inflight.insert key true
    fences := p.fences.insert key intent.token
    pending := p.pending.insert command.id intent }

def restoreFence (key : GoString) (previous : Option ℤ) : Processor :=
  { p with
    fences := match previous with
      | some token => p.fences.insert key token
      | none => p.fences.erase key }

end Processor

/-- The key under which an intent is fenced. -/
def transitionKey (command : NodeCommand) (intent : PendingCommand) : GoString :=
  if command.name = .llmDisplacementStop then ownedStopFenceKey command.acceleratorID
  else if command.name.isPlanRelaunch then checkpointPlanRelaunchFenceKey command.acceleratorID
  else fenceKey intent.targetID intent.model

/-- A raised fence: its key, the token before and the token now. -/
structure RaisedFence where
  key : GoString
  previous : Option ℤ
  token : ℤ

/-- A mutation that reached the runtime. -/
structure Execution where
  (commandID key : GoString)
  token : ℤ
  deriving DecidableEq, Repr

/-- The execution of a command under its fence. -/
def RaisedFence.execution (fence : RaisedFence) (command : NodeCommand) : Execution :=
  ⟨command.id, fence.key, fence.token⟩

/-- A command on its way through the processor; `error` is what its result says so far. -/
structure Handling where
  processor : Processor
  disk : Disk
  executed : List Execution
  error : Option GoString := none
  fence : Option RaisedFence := none
  sideEffectStarted : Bool := false

/-- What a crash leaves. -/
structure Crash where
  disk : Disk
  executed : List Execution

def Handling.save (h : Handling) (o : SaveOutcome) : Except Crash (Handling × Bool) :=
  match h.processor.save h.disk o with
  | .error disk => .error ⟨disk, h.executed⟩
  | .ok (processor, disk, saved) => .ok ({ h with processor, disk }, saved)

/-- The fence is raised in memory, with the intent. -/
def Handling.enter (h : Handling) (command : NodeCommand) (intent : PendingCommand) : Handling :=
  let key := transitionKey command intent
  { h with
    processor := h.processor.enter command intent key
    fence := some ⟨key, h.processor.fences.lookup key, intent.token⟩ }

/-- The save of the intent, before which nothing outside is touched. -/
def Handling.saveIntent (h : Handling) (o : SaveOutcome) : Except Crash Handling :=
  match h.save o with
  | .error crash => .error crash
  | .ok (h, true) => .ok h
  | .ok (h, false) =>
    .ok { h with
      processor := h.processor.block .durability
      error := some "command state requires reconciliation" }

/-- A step of a stop or a relaunch that could not be journaled takes its intent and its fence
back. -/
def Handling.unjournaled (h : Handling) (command : NodeCommand) (intent : PendingCommand) :
    Handling :=
  let key := transitionKey command intent
  let left := ((h.enter command intent).processor.block .durability).settle ⟨[command.id], [key]⟩
  { h.enter command intent with
    processor := left.restoreFence key (h.processor.fences.lookup key)
    error := some (if command.name.isPlanRelaunch then "plan relaunch intent could not be journaled"
      else "owned stop intent could not be journaled") }

/-- The write-ahead fence. -/
def Handling.raise (h : Handling) (command : NodeCommand) (intent : PendingCommand)
    (c : Circumstances) : Except Crash Handling :=
  if (command.name = .llmDisplacementStop || command.name.isPlanRelaunch) && !c.journaled then
    .ok (h.unjournaled command intent)
  else (h.enter command intent).saveIntent c.intentSave

/-- A cleanup retry first replaces the intents it supersedes, which frees their transition. -/
def Handling.fenceStage (h : Handling) (cfg : Config) (command : NodeCommand)
    (intent : PendingCommand) (c : Circumstances) : Except Crash Handling :=
  let key := transitionKey command intent
  let p := h.processor
  let p := if command.name = .cleanupWarmModel && p.pendingWarmCleanupRetryFor cfg command c then
      p.settle ⟨p.supersededBy intent, [key]⟩
    else p
  let h := { h with processor := p }
  if p.inflight.lookup key = some true then
    .ok { h with error := some "model transition is already in progress" }
  else
    match p.checkTransition command c intent with
    | some e => .ok { h with error := some e.text }
    | none => h.raise command intent c

/-! ## Execution -/

def Processor.commitFence (p : Processor) (command : NodeCommand) (targetID model : GoString) :
    Processor :=
  match exactFenceToken command.fencingToken with
  | .error _ => p
  | .ok token => { p with fences := p.fences.insert (fenceKey targetID model) token }

/-- The commands that commit their fence do so once the runtime has answered. -/
def Processor.commitStage (p : Processor) (cfg : Config) (command : NodeCommand)
    (commits : Bool) : Processor :=
  match cfg.routerTarget command.targetID with
  | some server =>
    if command.name.commitsFence && commits then
      p.commitFence command (cfg.canonicalTarget server) command.model
    else p
  | none => p

/-- What an execution does to the processor: the fence it commits and the intents it retires. -/
def Processor.afterExecution (p : Processor) (cfg : Config) (command : NodeCommand)
    (outcome : Outcome) : Processor :=
  let p := (p.commitStage cfg command outcome.commits).settle outcome.settlement
  if outcome.unblocks then p.clearWarmBlock else p

/-- The execution, unless an error or the deadline comes before it. -/
def Handling.executeStage (h : Handling) (cfg : Config) (command : NodeCommand)
    (c : Circumstances) : Handling :=
  if h.error.isSome then h
  else if c.mutationTime.after command.expiresAt then
    { h with
      error := some "command expired before external mutation"
      processor := match h.fence with
        | some fence => h.processor.restoreFence fence.key fence.previous
        | none => h.processor }
  else
    { h with
      executed := match h.fence with
        | some fence => h.executed ++ [fence.execution command]
        | none => h.executed
      processor := h.processor.afterExecution cfg command c.outcome
      error := c.outcome.error
      sideEffectStarted := c.outcome.sideEffectStarted }

/-- A relaunch query whose proof is rejected, or cannot be saved, blocks the processor. -/
def Handling.unreconciled (h : Handling) (command : NodeCommand) (failed : Bool) : Handling :=
  if command.name = .planQuery && failed then
    { h with
      processor := h.processor.block .durability
      error := some "root plan relaunch query could not be durably reconciled" }
  else h

/-- What a query proves is settled and saved. -/
def Handling.settleProof (h : Handling) (command : NodeCommand) (o : SaveOutcome) :
    QueryProof → Except Crash Handling
  | .nothing => .ok h
  | .rejected => .ok (h.unreconciled command true)
  | .retires s =>
    match { h with processor := (h.processor.settle s).clearWarmBlock }.save o with
    | .error crash => .error crash
    | .ok (h, saved) => .ok (h.unreconciled command !saved)

/-- The settlement of a query that succeeded. -/
def Handling.settleStage (h : Handling) (command : NodeCommand) (c : Circumstances) :
    Except Crash Handling :=
  if h.error.isNone && (command.name.isReadOnlyResidencyCommand || command.name = .planQuery) then
    h.settleProof command c.querySave c.proof
  else .ok h

/-! ## The end of a command -/

/-- The intent leaves the processor, unless its execution failed after a side effect. -/
def Processor.retire (p : Processor) (command : NodeCommand) (intent : Option PendingCommand)
    (key : GoString) (retain : Bool) : Processor :=
  if retain then p.block .warmTransient
  else
    match intent with
    | none => p.settle ⟨[command.id], []⟩
    | some _ => (p.settle ⟨[command.id], [key]⟩).clearWarmBlock

/-- The intent comes back when the last save fails. -/
def Processor.reinstate (p : Processor) (command : NodeCommand) (intent : Option PendingCommand)
    (key : GoString) : Processor :=
  let p := p.block .durability
  match intent with
  | none => p
  | some intent =>
    { p with
      pending := p.pending.insert command.id intent
      inflight := p.inflight.insert key true
      stateBlocked := true }

def Handling.finishStage (h : Handling) (command : NodeCommand) (intent : Option PendingCommand)
    (c : Circumstances) : Except Crash (Handling × Reply) :=
  let retain := intent.isSome && h.error.isSome && h.sideEffectStarted
  let key := match h.fence, intent with
    | some fence, _ => fence.key
    | none, some intent => fenceKey intent.targetID intent.model
    | none, none => []
  match { h with processor := h.processor.retire command intent key retain }.save c.finalSave with
  | .error crash => .error crash
  | .ok (h, true) => .ok (h, ⟨h.error.isNone, h.error.getD [], retain⟩)
  | .ok (h, false) =>
    .ok ({ h with processor := h.processor.reinstate command intent key },
      ⟨false, "command state requires reconciliation", retain⟩)

/-! ## Handle -/

/-- The intent of a command that passed the gates; with an error, the empty intent. -/
def intentStage (cfg : Config) (command : NodeCommand) (c : Circumstances) :
    Except (Option PendingCommand × GoString) (Option PendingCommand) :=
  match cfg.strictResidencyEnvelope && command.name.isResidencyCommand, c.preflight with
  | true, some message => .error (none, message)
  | _, _ =>
    if command.name.isReadOnlyResidencyCommand || command.name.isReadOnlyCheckpointCommand then
      .ok none
    else
      match cfg.commandIntent command c.plan with
      | .error e => .error (some {}, e.text)
      | .ok intent => .ok intent

/-- The first stage past the gates. -/
def Handling.intend (h : Handling) (cfg : Config) (command : NodeCommand) (c : Circumstances) :
    Except Crash (Handling × Option PendingCommand) :=
  match intentStage cfg command c with
  | .error (intent, message) => .ok ({ h with error := some message }, intent)
  | .ok none => .ok (h, none)
  | .ok (some intent) => (h.fenceStage cfg command intent c).map fun h => (h, some intent)

def Handling.run (h : Handling) (cfg : Config) (command : NodeCommand) (c : Circumstances) :
    Except Crash (Handling × Reply) := do
  let (h, intent) ← h.intend cfg command c
  let h ← (h.executeStage cfg command c).settleStage command c
  h.finishStage command intent c

/-- A node: its disk, its running processor and the mutations that reached its runtimes. -/
structure Node where
  disk : Disk
  processor : Processor
  executed : List Execution

def Crash.restart (crash : Crash) (l : LoadCircumstances) : Node :=
  let started := crash.disk.start l
  ⟨started.2, started.1, crash.executed⟩

/-- `Handle`, with the reply unless the process crashes on the way. -/
def Node.handle (cfg : Config) (n : Node) (command : NodeCommand) (c : Circumstances) :
    Node × Option Reply :=
  let command := cfg.normalizeCommandTarget command
  match c.refusal with
  | some message => (n, some (.refused message))
  | none =>
    if c.gateTime.after command.expiresAt then
      (n, some (.refused "command expired before durable intent"))
    else
      match n.processor.gate cfg command c with
      | some reply => (n, some reply)
      | none =>
        match (Handling.mk n.processor n.disk n.executed none none false).run cfg command c with
        | .error crash => (crash.restart c.reload, none)
        | .ok (h, reply) => (⟨h.disk, h.processor, h.executed⟩, some reply)

/-! ## Reconciliation -/

/-- The intents that a reconciliation retires, and whether a warm manifest stays unresolved. -/
structure Reconciliation where
  settlement : Settlement := {}
  unresolved : Bool := false
  save : SaveOutcome := .completes
  reload : LoadCircumstances := {}

/-- The intents come back, each with its transition. -/
def Processor.reopen (p : Processor) (intents : GoMap PendingCommand) : Processor :=
  { p with
    pending := intents.entries.foldl (fun m e => m.insert e.1 e.2) p.pending
    inflight := intents.entries.foldl
      (fun m e => m.insert (fenceKey e.2.targetID e.2.model) true) p.inflight }

/-- Intents are retired and the transient block lifted or set; a failed save brings the intents
back. -/
def Node.reconcile (n : Node) (r : Reconciliation) : Node :=
  if n.processor.stateBlocked && n.processor.stateBlockReason.any (· ≠ .warmTransient) then n
  else
    let settled := n.processor.settle r.settlement
    let p := if r.unresolved || !settled.pending.entries.isEmpty then settled.block .warmTransient
      else settled.clearWarmBlock
    match p.save n.disk r.save with
    | .error disk => (⟨disk, n.executed⟩ : Crash).restart r.reload
    | .ok (p, disk, true) => ⟨disk, p, n.executed⟩
    | .ok (p, disk, false) => ⟨disk, (p.reopen n.processor.pending).block .durability, n.executed⟩

end VramGovernor.NodeAgent
