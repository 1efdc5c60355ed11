import VramGovernor.Foundations.GoMap
import VramGovernor.Store.Checkpoint

/-!
# Marks of checkpoint calls

The coordinator marks the idempotency key of a checkpoint call as in flight, and the call takes the
mark away when it ends. After a failure a deferred function does that, which is registered once the
operation has its durable row. A call that fails between its mark and that row leaves the mark
(`checkpoint_marked_iff`), and the process refuses every later call with the key.
-/

namespace VramGovernor.Workloads

open GoString Store

def errCheckpointUnavailable : GoError := .sentinel "llm checkpoint capability is not proven"

def errCheckpointConflict : GoError := .sentinel "llm checkpoint command is stale or fenced"

/-- What a lease must have in common with the command it is for. -/
structure CheckpointBinding where
  (ownerID workloadID : GoString := [])
  (generation fence : UInt64 := 0)
  (runtimeIdentity modelFingerprint profileFingerprint : GoString := [])
  contextLimit : ℤ := 0
  deriving DecidableEq

/-- A command that has its conversation. -/
structure CheckpointCommand extends CheckpointBinding where
  (id idempotencyKey conversationID continuationConversationID compensationOf : GoString := [])
  workloadRevision : UInt64 := 0
  deriving DecidableEq

/-- A row of the operation store: the identity of its command, and how far it is. -/
structure OperationRow where
  command : CheckpointCommand
  (phase snapshotName : GoString := [])
  (phaseOrdinal savedTokens reusedTokens : ℤ := 0)
  revision : UInt64 := 0

structure CheckpointMetadataState where
  (commandID snapshot : GoString)

structure CheckpointCoordinator where
  active : GoMap CheckpointMetadataState := ∅
  inflight : GoMap Unit := ∅

/-- What a call meets: its lease, the tests before it, and the answers of the operation store, those
of the loop by the attempts that are left. The `lifecycle` is the answer of all that follows the
`defer` of `Checkpoint` up to the entry in `active`, from `AssignSlot` to the phase `released`, with
any failure of the runtime and of the stores; it touches neither of the two maps. -/
structure CheckpointEnvironment where
  available : Bool := true
  (invalid unauthorized : Option GoError := none)
  lease : CheckpointBinding := {}
  operations : Bool := true
  maxOutputBytes : ℤ := 1024
  (byIdempotency create : Except GoError OperationRow)
  (update get : ℕ → Except GoError OperationRow)
  lifecycle : Option OperationRow → Except GoError GoString

variable (env : CheckpointEnvironment) (command : CheckpointCommand)

/-- The loop of `persistOperation` for the phase `planned`. -/
def CheckpointEnvironment.persistPlanned (n : ℕ) (current : OperationRow) :
    Except GoError OperationRow :=
  if current.command ≠ command then .error errCheckpointConflict
  else if current.phase ≠ "planned" || current.phaseOrdinal = llmCheckpointPhaseOrdinal "planned" &&
      current.snapshotName = [] && current.savedTokens = 0 && current.reusedTokens = 0 then
    .ok current
  else
    match env.update n, n with
    | .ok row, _ => .ok row
    | .error e, 0 => .error e
    | .error e, n + 1 =>
      if !e.is errLLMCheckpointConflict then .error e
      else
        match env.get n with
        | .error _ => .error e
        | .ok fresh =>
          if fresh.revision = current.revision then .error e
          else CheckpointEnvironment.persistPlanned n fresh

/-- The durable row of the operation, found or made. -/
def CheckpointEnvironment.prepareOperation : Except GoError (Option OperationRow) :=
  if !env.operations then .ok none
  else
    match env.byIdempotency with
    | .error e =>
      if !e.is errNotFound then .error e
      else if env.maxOutputBytes < 0 then
        .error ⟨"checkpoint partial output exceeds configured bound", none⟩
      else env.create.map some
    | .ok row =>
      if env.maxOutputBytes < 0 then
        .error ⟨"checkpoint partial output exceeds configured bound", none⟩
      else (env.persistPlanned command 3 row).map some

variable (c : CheckpointCoordinator)

/-- The answer of a call that ends before its mark. -/
def CheckpointCoordinator.answered : Option (Except GoError GoString) :=
  if !env.available then some (.error errCheckpointUnavailable)
  else
    match env.invalid.or env.unauthorized, c.active.lookup command.idempotencyKey with
    | some e, _ => some (.error e)
    | none, prior =>
      if env.lease ≠ command.toCheckpointBinding then some (.error errCheckpointConflict)
      else
        match prior with
        | some prior =>
          some (if prior.commandID = command.id then .ok prior.snapshot
            else .error errCheckpointConflict)
        | none =>
          if command.idempotencyKey ∈ c.inflight then some (.error errCheckpointConflict) else none

def CheckpointCoordinator.checkpoint : CheckpointCoordinator × Except GoError GoString :=
  let key := command.idempotencyKey
  let marked := c.inflight.insert key ()
  match c.answered env command with
  | some result => (c, result)
  | none =>
    match env.prepareOperation command with
    | .error e => ({ c with inflight := marked }, .error e)
    | .ok operation =>
      match env.lifecycle operation with
      | .error e => ({ c with inflight := marked.erase key }, .error e)
      | .ok name => (⟨c.active.insert key ⟨command.id, name⟩, marked.erase key⟩, .ok name)

variable {env command c}

theorem notMem_inflight (h : c.answered env command = none) :
    command.idempotencyKey ∉ c.inflight := by
  revert h
  fun_cases CheckpointCoordinator.answered env command c with
  | case6 => exact fun _ => ‹_›
  | _ => exact nofun

variable (env command c) in
/-- **A call leaves its mark** exactly if it is not refused and fails before its durable row. -/
theorem checkpoint_marked_iff :
    command.idempotencyKey ∈ (c.checkpoint env command).1.inflight ↔
      command.idempotencyKey ∈ c.inflight ∨
        c.answered env command = none ∧ ∃ e, env.prepareOperation command = .error e := by
  fun_cases CheckpointCoordinator.checkpoint env command c with
  | case1 result h => simp [h]
  | case2 key marked h e he => simp [key, marked, h, he]
  | case3 key marked h _ he | case4 key marked h _ he => simp [key, h, he, notMem_inflight h]

/-- The store is away while a call looks for its row. -/
theorem failed_lookup_keeps_mark :
    let env : CheckpointEnvironment :=
      { byIdempotency := .error errNotFound, create := .ok ⟨{}, [], [], 0, 0, 0, 0⟩
        update := fun _ => .error errNotFound, get := fun _ => .error errNotFound
        lifecycle := fun _ => .ok "owner-0.kv" }
    let down := { env with byIdempotency := .error ⟨"connection refused", none⟩ }
    let c := (CheckpointCoordinator.checkpoint down { idempotencyKey := "k" } {}).1
    (CheckpointCoordinator.checkpoint env { idempotencyKey := "k" } {}).2 = .ok "owner-0.kv" ∧
      (c.checkpoint env { idempotencyKey := "k" }).2 = .error errCheckpointConflict := by
  decide +kernel

end VramGovernor.Workloads
