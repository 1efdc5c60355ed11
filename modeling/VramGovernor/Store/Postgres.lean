import VramGovernor.Store.Memory

/-!
# Leases in the Postgres store

The lease calls of `internal/store/postgres_workloads.go`. A call is one transaction, and one that
is not committed leaves the tables as they were; so a call is a function of the tables, and where a
statement fails (`SqlFailure`) there is no result. No `SELECT` has an `ORDER BY`, so the orders in
which rows come are arguments (`RowOrders`).
-/

namespace VramGovernor.Store

open GoString GoMap

/-- Why a statement fails. -/
inductive SqlFailure
  /-- The body of a displacement row does not decode. -/
  | decode (e : GoError)
  | bigintOutOfRange
  | foreignKey
  | conflict
  deriving DecidableEq

/-- A `TIMESTAMPTZ`: microseconds. -/
def timestamptz (t : GoTime) : ℤ := t.nanos / 1000

/-- A row of `accelerator_leases`. -/
structure LeaseRow where
  workloadID : GoString
  fencingToken : Int64
  expiresAt : ℤ
  deriving DecidableEq

def LeaseRow.of (l : AcceleratorLease) : LeaseRow :=
  ⟨l.workloadID, l.fencingToken, timestamptz l.expiresAt⟩

def LeaseRow.lease (row : LeaseRow) (acceleratorID : GoString) : AcceleratorLease :=
  { acceleratorID, workloadID := row.workloadID, fencingToken := row.fencingToken
    expiresAt := ⟨row.expiresAt * 1000, 0⟩ }

/-- A row of `llm_displacement_operations`, its body decoded. -/
structure DisplacementRow where
  (acceleratorID phase : GoString)
  revision : Int64
  body : LLMDisplacementOperation

def DisplacementRow.of (op : LLMDisplacementOperation) : DisplacementRow :=
  ⟨op.acceleratorID, op.phase, op.revision.toInt64, op⟩

/-- The tables that the lease calls read and write. Of a checkpoint row only the body is read. -/
structure PostgresStore where
  workloads : GoMap Workload := ∅
  acceleratorLeaseFences : GoMap Int64 := ∅
  acceleratorLeases : GoMap LeaseRow := ∅
  llmCheckpointOperations : GoMap LLMCheckpointOperation := ∅
  llmDisplacementOperations : GoMap DisplacementRow := ∅

/-- The orders in which the two scans of an acquire return rows. -/
structure RowOrders where
  displacements : List (Entry DisplacementRow)
  checkpoints : List (Entry LLMCheckpointOperation)

/-- The orders are orders of the rows of the store. -/
structure RowOrders.Of (o : RowOrders) (p : PostgresStore) : Prop where
  displacements : RangeOrder p.llmDisplacementOperations o.displacements
  checkpoints : RangeOrder p.llmCheckpointOperations o.checkpoints

def RowOrders.ofStore (p : PostgresStore) : RowOrders :=
  ⟨p.llmDisplacementOperations.entries, p.llmCheckpointOperations.entries⟩

/-- The lease that a displacement refuses an acquire with. -/
def displacementLease (acceleratorID : GoString) (op : LLMDisplacementOperation) :
    AcceleratorLease :=
  op.originalLease.getD
    { acceleratorID, workloadID := op.victimWorkloadID, fencingToken := op.fence.toInt64 }

/-- One displacement row of the accelerator: completion is trusted only when the indexed columns
agree with a valid body. -/
def displacementVerdict (acceleratorID : GoString) (row : DisplacementRow) :
    Except SqlFailure (Option AcceleratorLease) :=
  if row.acceleratorID = acceleratorID then
    match validateLLMDisplacementIdentity row.body with
    | .error e => .error (.decode e)
    | .ok _ =>
      if row.phase ≠ row.body.phase || row.revision ≤ 0 ||
          row.revision.toUInt64 ≠ row.body.revision then
        .ok (some (displacementLease acceleratorID row.body))
      else if row.body.phase ≠ "completed" then
        .ok (some (displacementLease acceleratorID row.body))
      else .ok none
  else .ok none

/-- The loop stops at the first row that refuses the acquire. -/
def displacementRefusal (acceleratorID : GoString) :
    List (Entry DisplacementRow) → Except SqlFailure (Option AcceleratorLease)
  | [] => .ok none
  | e :: rows =>
    match displacementVerdict acceleratorID e.2 with
    | .ok none => displacementRefusal acceleratorID rows
    | verdict => verdict

/-- The cleanup row that a recovery acquire names, among the unresolved ones of the accelerator. -/
def recoveryOp (workloadID operationID : GoString)
    (cleanupOps : List (Entry LLMCheckpointOperation)) :
    Option (Entry LLMCheckpointOperation) :=
  cleanupOps.find? fun e =>
    operationID ≠ [] && e.2.cleanupState = "armed" && e.2.workloadID = workloadID &&
      (e.2.id = operationID || e.2.cleanupOperationID = operationID)

/-- The lease that an unresolved cleanup refuses an acquire with. -/
def cleanupLease (acceleratorID : GoString) (ttl : ℤ) (now : GoTime) (op : LLMCheckpointOperation) :
    AcceleratorLease :=
  let fence := if op.cleanupFence = 0 then op.fence else op.cleanupFence
  { acceleratorID, workloadID := op.workloadID, fencingToken := fence.toInt64
    expiresAt := now.add ttl }

/-- The floor under the next token: the fence that the continued row records. -/
def fenceFloor (recovery : Option LLMCheckpointOperation) : Int64 :=
  match recovery with
  | some op => if 0 < op.cleanupFence then op.cleanupFence.toInt64 else 0
  | none => 0

/-- `GREATEST(last_token, floor) + 1`. -/
def nextToken (last floor : Int64) : Except SqlFailure Int64 :=
  let base := if last < floor then floor else last
  if base = Int64.maxValue then .error .bigintOutOfRange else .ok (base + 1)

/-- The body of the row after a recovery grant. -/
def advancedRow (op : LLMCheckpointOperation) (acceleratorID operationID : GoString)
    (token : Int64) (now : GoTime) : LLMCheckpointOperation :=
  { op with
    cleanupState := "pending"
    cleanupOperationID := if op.cleanupOperationID = [] then operationID else op.cleanupOperationID
    cleanupAcceleratorID := acceleratorID
    cleanupFence := token.toUInt64
    cleanupGeneration := if op.cleanupGeneration = 0 then op.generation else op.cleanupGeneration
    revision := op.revision + 1
    updatedAt := now.utc.truncateMicrosecond }

/-- The row is replaced where its id and its revision are found. -/
def advanceRecovery (rows : GoMap LLMCheckpointOperation) (op : LLMCheckpointOperation)
    (acceleratorID operationID : GoString) (token : Int64) (now : GoTime) :
    Except SqlFailure (GoMap LLMCheckpointOperation) :=
  if 2 ^ 63 ≤ op.revision.toNat then .error .bigintOutOfRange
  else
    match rows.lookup op.id with
    | none => .error .conflict
    | some row =>
      if row.revision = op.revision then
        .ok (rows.insert op.id (advancedRow op acceleratorID operationID token now))
      else .error .conflict

/-- The checkpoint rows after a grant. -/
def recoveredRows (rows : GoMap LLMCheckpointOperation)
    (recovery : Option (Entry LLMCheckpointOperation)) (acceleratorID operationID : GoString)
    (token : Int64) (now : GoTime) : Except SqlFailure (GoMap LLMCheckpointOperation) :=
  match recovery with
  | none => .ok rows
  | some e => advanceRecovery rows e.2 acceleratorID operationID token now

namespace PostgresStore

/-- The row of the counter is inserted when it is missing. -/
def lockAcceleratorLeaseFence (p : PostgresStore) (acceleratorID : GoString) : PostgresStore :=
  match p.acceleratorLeaseFences.lookup acceleratorID with
  | some _ => p
  | none => { p with acceleratorLeaseFences := p.acceleratorLeaseFences.insert acceleratorID 0 }

def cleanupOps (o : RowOrders) (acceleratorID : GoString) :
    List (Entry LLMCheckpointOperation) :=
  o.checkpoints.filter fun e => unresolvedCleanup acceleratorID e.2

def refusal (p : PostgresStore) (acceleratorID workloadID operationID : GoString) (ttl : ℤ)
    (now : GoTime) (o : RowOrders) : Except SqlFailure (Option AcceleratorLease) :=
  match displacementRefusal acceleratorID o.displacements with
  | .error e => .error e
  | .ok (some lease) => .ok (some lease)
  | .ok none =>
    let ops := cleanupOps o acceleratorID
    match ops.find? fun e => (recoveryOp workloadID operationID ops).map (·.1) ≠ some e.1 with
    | some e => .ok (some (cleanupLease acceleratorID ttl now e.2))
    | none => .ok (((p.acceleratorLeases.lookup acceleratorID).map (·.lease acceleratorID)).filter
        fun current => current.expiresAt.after now)

/-- The statements of a grant, the tables being those of the transaction. -/
def grant (tx : PostgresStore) (acceleratorID workloadID operationID : GoString) (ttl : ℤ)
    (now later : GoTime) (recovery : Option (Entry LLMCheckpointOperation)) :
    Except SqlFailure (PostgresStore × AcceleratorLease) :=
  match nextToken (GoMap.get tx.acceleratorLeaseFences acceleratorID)
    (fenceFloor (recovery.map (·.2))) with
  | .error e => .error e
  | .ok token =>
    let lease : AcceleratorLease :=
      { acceleratorID, workloadID, fencingToken := token
        expiresAt := (now.add ttl).truncateMicrosecond }
    if (tx.workloads.lookup workloadID).isNone then .error .foreignKey
    else
      match recoveredRows tx.llmCheckpointOperations recovery acceleratorID operationID token later
        with
      | .error e => .error e
      | .ok rows => .ok ({ tx with
          acceleratorLeaseFences := tx.acceleratorLeaseFences.insert acceleratorID token
          acceleratorLeases := tx.acceleratorLeases.insert acceleratorID (.of lease)
          llmCheckpointOperations := rows }, lease)

variable (p : PostgresStore)

/-- `AcquireAcceleratorLease` when `operationID` is empty, and
`AcquireAcceleratorLeaseForCheckpointRecovery`. The clock is read for the lease and, `later`, for
the continued row. -/
def acquireAcceleratorLease (acceleratorID workloadID operationID : GoString)
    (ttl : ℤ) (now later : GoTime) (o : RowOrders) :
    Except SqlFailure (PostgresStore × AcceleratorLease × Bool) :=
  let now := now.utc.truncateMicrosecond
  match p.refusal acceleratorID workloadID operationID ttl now o with
  | .error e => .error e
  | .ok (some lease) => .ok (p, lease, false)
  | .ok none =>
    let recovery := recoveryOp workloadID operationID (cleanupOps o acceleratorID)
    match (p.lockAcceleratorLeaseFence acceleratorID).grant acceleratorID workloadID operationID ttl
      now later recovery with
    | .error e => .error e
    | .ok (tx, lease) => .ok (tx, lease, true)

def renewAcceleratorLease (acceleratorID workloadID : GoString)
    (fencingToken : Int64) (ttl : ℤ) (now : GoTime) : PostgresStore × Except GoError Unit :=
  let tx := p.lockAcceleratorLeaseFence acceleratorID
  match tx.acceleratorLeases.lookup acceleratorID with
  | none => (p, .error errNotFound)
  | some current =>
    if current.workloadID ≠ workloadID || current.fencingToken ≠ fencingToken then
      (p, .error errNotFound)
    else
      let expiresAt := timestamptz (now.utc.add ttl).truncateMicrosecond
      ({ tx with acceleratorLeases :=
          tx.acceleratorLeases.insert acceleratorID { current with expiresAt } }, .ok ())

def releaseAcceleratorLease (acceleratorID workloadID : GoString)
    (fencingToken : Int64) : PostgresStore × Except GoError Unit :=
  let tx := p.lockAcceleratorLeaseFence acceleratorID
  match tx.acceleratorLeases.lookup acceleratorID with
  | none => (p, .error errNotFound)
  | some current =>
    if current.workloadID ≠ workloadID || current.fencingToken ≠ fencingToken then
      (p, .error errNotFound)
    else ({ tx with acceleratorLeases := tx.acceleratorLeases.erase acceleratorID }, .ok ())

/-- Locking the counter changes no counter: a missing one is zero. -/
theorem get_lockAcceleratorLeaseFence (a a' : GoString) :
    GoMap.get (p.lockAcceleratorLeaseFence a).acceleratorLeaseFences a' =
      GoMap.get p.acceleratorLeaseFences a' := by
  unfold lockAcceleratorLeaseFence
  cases hl : p.acceleratorLeaseFences.lookup a with
  | some _ => rfl
  | none =>
    by_cases ha : a' = a
    · subst ha
      simp [GoMap.get, hl]
    · exact get_insert_of_ne _ _ ha

variable (a : GoString)

@[simp] theorem lockAcceleratorLeaseFence_acceleratorLeases :
    (p.lockAcceleratorLeaseFence a).acceleratorLeases = p.acceleratorLeases := by
  unfold lockAcceleratorLeaseFence
  split <;> rfl

@[simp] theorem lockAcceleratorLeaseFence_llmCheckpointOperations :
    (p.lockAcceleratorLeaseFence a).llmCheckpointOperations = p.llmCheckpointOperations := by
  unfold lockAcceleratorLeaseFence
  split <;> rfl

@[simp] theorem lockAcceleratorLeaseFence_llmDisplacementOperations :
    (p.lockAcceleratorLeaseFence a).llmDisplacementOperations = p.llmDisplacementOperations := by
  unfold lockAcceleratorLeaseFence
  split <;> rfl

end PostgresStore

/-- **What a recovery update can do.** The row of its id and revision is replaced. -/
theorem advanceRecovery_eq_ok {rows rows' : GoMap LLMCheckpointOperation}
    {op : LLMCheckpointOperation} {a opID : GoString} {token : Int64} {now : GoTime}
    (h : advanceRecovery rows op a opID token now = .ok rows') :
    rows' = rows.insert op.id (advancedRow op a opID token now) := by
  unfold advanceRecovery at h
  split_ifs at h
  split at h
  · cases h
  · split_ifs at h
    exact (Except.ok.inj h).symm

theorem nextToken_eq_ok {last floor token : Int64} (h : nextToken last floor = .ok token) :
    (if last < floor then floor else last) ≠ Int64.maxValue ∧
      token = (if last < floor then floor else last) + 1 := by
  revert h
  fun_cases nextToken last floor with
  | case1 => exact nofun
  | case2 _ hmax => exact fun h => ⟨hmax, (Except.ok.inj h).symm⟩

namespace PostgresStore

/-- **What a grant can do**: the counter, the lease and the continued row change together. -/
theorem grant_eq_ok {tx tx' : PostgresStore} {a w opID : GoString} {ttl : ℤ} {now later : GoTime}
    {recovery : Option (Entry LLMCheckpointOperation)} {lease : AcceleratorLease}
    (h : tx.grant a w opID ttl now later recovery = .ok (tx', lease)) :
    ∃ token rows,
      nextToken (GoMap.get tx.acceleratorLeaseFences a) (fenceFloor (recovery.map (·.2))) =
        .ok token ∧
      recoveredRows tx.llmCheckpointOperations recovery a opID token later = .ok rows ∧
      lease = ⟨a, w, token, (now.add ttl).truncateMicrosecond⟩ ∧
      tx' = { tx with
        acceleratorLeaseFences := tx.acceleratorLeaseFences.insert a token
        acceleratorLeases := tx.acceleratorLeases.insert a (.of lease)
        llmCheckpointOperations := rows } := by
  revert h
  fun_cases grant tx a w opID ttl now later recovery with
  | case1 | case2 | case3 => exact nofun
  | case4 token htoken _ _ rows hrows =>
    intro h
    obtain ⟨rfl, rfl⟩ := Prod.mk.inj (Except.ok.inj h)
    exact ⟨token, rows, htoken, hrows, rfl, rfl⟩

end PostgresStore

end VramGovernor.Store
