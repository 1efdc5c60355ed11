import Mathlib.Data.List.Sort
import VramGovernor.Foundations.GoMap
import VramGovernor.Store.Checkpoint
import VramGovernor.Store.Displacement

/-!
# The memory store

The tables of `internal/store/memory.go` that leases, checkpoint operations and displacement
operations live in, and the calls that change them. A call runs under the store's mutex. The clock
values it reads and the orders in which it ranges over maps are arguments. After each call stands
what it can do (`acquireAcceleratorLease_cases` and its neighbours); later proofs do not unfold the
calls.
-/

namespace VramGovernor.Store

open GoString GoMap

/-- The tables of the memory store. -/
structure MemoryStore where
  workloads : GoMap Workload := ∅
  leases : GoMap AcceleratorLease := ∅
  leaseFences : GoMap Int64 := ∅
  leaseCleanupIntents : GoMap AcceleratorLeaseCleanupIntent := ∅
  llmCheckpointOps : GoMap LLMCheckpointOperation := ∅
  llmCheckpointKeys : GoMap GoString := ∅
  llmDisplacementOps : GoMap LLMDisplacementOperation := ∅
  llmDisplacementKeys : GoMap GoString := ∅

def newMemoryStore : MemoryStore := {}

def idempotencyIndex (ownerID key : GoString) : GoString := ownerID ++ "\x00" ++ key

/-! ## Checkpoint operations -/

def slotHeldBy (op existing : LLMCheckpointOperation) : Bool :=
  existing.targetID = op.targetID && existing.acceleratorID = op.acceleratorID &&
    0 ≤ existing.slotID && existing.slotID = op.slotID && llmCheckpointHoldsSlot existing.phase &&
    llmCheckpointHoldsSlot op.phase

def slotConflict (existing : LLMCheckpointOperation) : GoError :=
  errLLMCheckpointConflict.wrapf ("slot " ++ sprint existing.slotID ++ " held by operation " ++
    existing.id ++ " (" ++ existing.phase ++ ")")

variable (m : MemoryStore)

/-- A create that finds a row returns it if it is the same operation. -/
def replayCheckpointCreate (existing : Option LLMCheckpointOperation)
    (prepared : LLMCheckpointOperation) (detail : GoString) :
    MemoryStore × Except GoError (LLMCheckpointOperation × Bool) :=
  match existing with
  | some existing =>
    if sameLLMCheckpointIdentity existing prepared then (m, .ok (existing, false))
    else (m, .error (errLLMCheckpointConflict.wrapf detail))
  | none => (m, .error (errLLMCheckpointConflict.wrapf detail))

def insertCheckpoint (prepared : LLMCheckpointOperation) : MemoryStore :=
  { m with
    llmCheckpointOps := m.llmCheckpointOps.insert prepared.id prepared
    llmCheckpointKeys := m.llmCheckpointKeys.insert
      (idempotencyIndex prepared.ownerID prepared.idempotencyKey) prepared.id }

def createLLMCheckpointOperation (op : Option LLMCheckpointOperation)
    (now : GoTime) (order : List (Entry LLMCheckpointOperation)) :
    MemoryStore × Except GoError (LLMCheckpointOperation × Bool) :=
  match prepareLLMCheckpointCreate op now with
  | .error e => (m, .error e)
  | .ok prepared =>
    match m.llmCheckpointOps.lookup prepared.id with
    | some existing =>
      replayCheckpointCreate m (some existing) prepared "id exists with another identity"
    | none =>
      let key := idempotencyIndex prepared.ownerID prepared.idempotencyKey
      let id := (m.llmCheckpointKeys.lookup key).getD []
      if id ≠ [] then
        replayCheckpointCreate m (m.llmCheckpointOps.lookup id) prepared
          "idempotency key used by another operation"
      else
        match order.find? fun e => slotHeldBy prepared e.2 with
        | some e => (m, .error (slotConflict e.2))
        | none => (insertCheckpoint m prepared, .ok (prepared, true))

theorem replayCheckpointCreate_spec (existing : Option LLMCheckpointOperation)
    (prepared : LLMCheckpointOperation) (detail : GoString) :
    (replayCheckpointCreate m existing prepared detail).1 = m ∧
      ∀ p, (replayCheckpointCreate m existing prepared detail).2 ≠ .ok (p, true) := by
  unfold replayCheckpointCreate
  split
  · split <;> simp
  · simp

/-- **What a checkpoint create can do**: nothing, or insert the prepared row under a free id, no row
keeping its slot. -/
theorem createLLMCheckpointOperation_cases (op : Option LLMCheckpointOperation)
    (now : GoTime) (order : List (Entry LLMCheckpointOperation)) :
    ((createLLMCheckpointOperation m op now order).1 = m ∧
      ∀ p, (createLLMCheckpointOperation m op now order).2 ≠ .ok (p, true)) ∨
    ∃ prepared, prepareLLMCheckpointCreate op now = .ok prepared ∧
      m.llmCheckpointOps.lookup prepared.id = none ∧
      order.find? (fun e => slotHeldBy prepared e.2) = none ∧
      createLLMCheckpointOperation m op now order =
        (insertCheckpoint m prepared, .ok (prepared, true)) := by
  fun_cases createLLMCheckpointOperation m op now order with
  | case1 | case4 => exact .inl ⟨rfl, by simp⟩
  | case2 | case3 => exact .inl (replayCheckpointCreate_spec ..)
  | case5 prepared hp hl _ _ _ hf => exact .inr ⟨prepared, hp, hl, hf, rfl⟩

/-- The row with the conversation that update fills in. -/
def withConversation (op : LLMCheckpointOperation) : LLMCheckpointOperation :=
  if op.conversationID = [] then { op with conversationID := derivedConversationID op } else op

def updatedCheckpoint (current op : LLMCheckpointOperation) (now : GoTime) :
    LLMCheckpointOperation :=
  { op with
    createdAt := current.createdAt
    revision := current.revision + 1
    updatedAt := now.utc.truncateMicrosecond }

/-- The checks of an update against the stored row. -/
def checkpointUpdateChecks (current op : LLMCheckpointOperation) (expected : UInt64) :
    List (Bool × GoError) :=
  [(current.revision ≠ expected, errLLMCheckpointConflict.wrapf
      ("revision " ++ sprint current.revision.toNat ++ ", expected " ++ sprint expected.toNat)),
   (!llmCheckpointImmutableIdentityEqual current op,
      errLLMCheckpointConflict.wrapf "immutable identity changed"),
   (!llmCheckpointTransitionAllowedFor current op, errLLMCheckpointConflict.wrapf
      ("transition " ++ current.phase ++ " -> " ++ op.phase ++ " not allowed"))]

def updateLLMCheckpointOperation (m : MemoryStore) (op : Option LLMCheckpointOperation)
    (expected : UInt64) (now : GoTime) (order : List (Entry LLMCheckpointOperation)) :
    MemoryStore × Except GoError LLMCheckpointOperation :=
  match op.map withConversation with
  | none => (m, .error (checkpointError "checkpoint operation identity is incomplete"))
  | some op =>
    match validateLLMCheckpointRequiredIdentity op with
    | .error e => (m, .error e)
    | .ok _ =>
      if expected = 0 then (m, .error errLLMCheckpointConflict)
      else
        match m.llmCheckpointOps.lookup op.id with
        | none => (m, .error errNotFound)
        | some current =>
          match firstError (checkpointUpdateChecks current op expected) (.ok ()) with
          | .error e => (m, .error e)
          | .ok _ =>
            match order.find? fun e => e.1 ≠ op.id && slotHeldBy op e.2 with
            | some e => (m, .error (slotConflict e.2))
            | none =>
              let copy := updatedCheckpoint current op now
              ({ m with llmCheckpointOps := m.llmCheckpointOps.insert op.id copy }, .ok copy)

/-- An update of the row `current` by `op` that the store accepts. -/
structure CheckpointUpdateAccepted (current op : LLMCheckpointOperation) (expected : UInt64) :
    Prop where
  valid : validateLLMCheckpointRequiredIdentity op = .ok ()
  revision : current.revision = expected
  identity : op.identity = current.identity
  transition : llmCheckpointTransitionAllowedFor current op = true

/-- **What a checkpoint update can do**: nothing, or replace the row with its id and the expected
revision. -/
theorem updateLLMCheckpointOperation_cases (m : MemoryStore) (op : Option LLMCheckpointOperation)
    (expected : UInt64) (now : GoTime) (order : List (Entry LLMCheckpointOperation)) :
    (∃ e, updateLLMCheckpointOperation m op expected now order = (m, .error e)) ∨
    ∃ current op', op.map withConversation = some op' ∧
      m.llmCheckpointOps.lookup op'.id = some current ∧
      CheckpointUpdateAccepted current op' expected ∧
      order.find? (fun e => e.1 ≠ op'.id && slotHeldBy op' e.2) = none ∧
      updateLLMCheckpointOperation m op expected now order =
        ({ m with llmCheckpointOps :=
            m.llmCheckpointOps.insert op'.id (updatedCheckpoint current op' now) },
          .ok (updatedCheckpoint current op' now)) := by
  fun_cases updateLLMCheckpointOperation m op expected now order with
  | case1 | case2 | case3 | case4 | case5 | case6 => exact .inl ⟨_, rfl⟩
  | case7 op' ho _ hv _ current hl _ hc hf =>
    obtain ⟨hrev, hid, htr⟩ : current.revision = expected ∧
        llmCheckpointImmutableIdentityEqual current op' = true ∧
        llmCheckpointTransitionAllowedFor current op' = true := by
      simpa [checkpointUpdateChecks] using (firstError_eq_ok.1 hc).1
    rw [llmCheckpointImmutableIdentityEqual_iff] at hid
    exact .inr ⟨current, op', ho, hl, ⟨hv, hrev, hid.symm, htr⟩, hf, rfl⟩

/-! ## Displacement operations -/

/-- A create that finds a row returns it if the row is valid and the same operation. -/
def replayDisplacementCreate (m : MemoryStore) (old : Option LLMDisplacementOperation)
    (prepared : LLMDisplacementOperation) :
    MemoryStore × Except GoError (LLMDisplacementOperation × Bool) :=
  match old with
  | some old =>
    if validateLLMDisplacementIdentity old = .ok () && displacementIdentityEqual old prepared then
      (m, .ok (old, false))
    else (m, .error errLLMDisplacementConflict)
  | none => (m, .error errLLMDisplacementConflict)

/-- The row keeps its accelerator. -/
def custodyOn (acceleratorID : GoString) (e : Entry LLMDisplacementOperation) : Bool :=
  e.2.acceleratorID = acceleratorID && displacementRecordRetainsCustody e.2

def insertDisplacement (m : MemoryStore) (prepared : LLMDisplacementOperation) : MemoryStore :=
  { m with
    llmDisplacementOps := m.llmDisplacementOps.insert prepared.id prepared
    llmDisplacementKeys := m.llmDisplacementKeys.insert
      (idempotencyIndex prepared.ownerID prepared.idempotencyKey) prepared.id }

/-- The clock is read twice: for the times of the row, and against the expiry of the lease. -/
def createLLMDisplacementOperation (m : MemoryStore) (op : Option LLMDisplacementOperation)
    (now worldNow : GoTime) (order : List (Entry LLMDisplacementOperation)) :
    MemoryStore × Except GoError (LLMDisplacementOperation × Bool) :=
  match prepareLLMDisplacementCreate op now with
  | .error e => (m, .error e)
  | .ok prepared =>
    match m.llmDisplacementOps.lookup prepared.id with
    | some old => replayDisplacementCreate m (some old) prepared
    | none =>
      let key := idempotencyIndex prepared.ownerID prepared.idempotencyKey
      let id := (m.llmDisplacementKeys.lookup key).getD []
      if id ≠ [] then replayDisplacementCreate m (m.llmDisplacementOps.lookup id) prepared
      else if (order.find? (custodyOn prepared.acceleratorID)).isSome then
        (m, .error errLLMDisplacementConflict)
      else
        match validateLLMDisplacementWorld prepared (m.workloads.lookup prepared.victimWorkloadID)
            (m.workloads.lookup prepared.urgentWorkloadID) (m.leases.lookup prepared.acceleratorID)
            worldNow.utc with
        | .error e => (m, .error e)
        | .ok _ => (insertDisplacement m prepared, .ok (prepared, true))

theorem replayDisplacementCreate_spec (m : MemoryStore) (old : Option LLMDisplacementOperation)
    (prepared : LLMDisplacementOperation) :
    (replayDisplacementCreate m old prepared).1 = m ∧
      ∀ p, (replayDisplacementCreate m old prepared).2 ≠ .ok (p, true) := by
  unfold replayDisplacementCreate
  split
  · split <;> simp
  · simp

/-- **What a displacement create can do**: nothing, or insert the prepared row under a free id, on
an accelerator in nobody's custody. -/
theorem createLLMDisplacementOperation_cases (m : MemoryStore)
    (op : Option LLMDisplacementOperation) (now worldNow : GoTime)
    (order : List (Entry LLMDisplacementOperation)) :
    ((createLLMDisplacementOperation m op now worldNow order).1 = m ∧
      ∀ p, (createLLMDisplacementOperation m op now worldNow order).2 ≠ .ok (p, true)) ∨
    ∃ prepared, prepareLLMDisplacementCreate op now = .ok prepared ∧
      m.llmDisplacementOps.lookup prepared.id = none ∧
      order.find? (custodyOn prepared.acceleratorID) = none ∧
      createLLMDisplacementOperation m op now worldNow order =
        (insertDisplacement m prepared, .ok (prepared, true)) := by
  fun_cases createLLMDisplacementOperation m op now worldNow order with
  | case1 | case4 | case5 => exact .inl ⟨rfl, by simp⟩
  | case2 | case3 => exact .inl (replayDisplacementCreate_spec ..)
  | case6 prepared hp hl _ _ _ hc =>
    exact .inr ⟨prepared, hp, hl, Option.not_isSome_iff_eq_none.1 hc, rfl⟩

def updatedDisplacement (old new : LLMDisplacementOperation) (now : GoTime) :
    LLMDisplacementOperation :=
  { new with
    revision := old.revision + 1
    createdAt := old.createdAt
    updatedAt := now.utc.truncateMicrosecond }

def updateLLMDisplacementOperation (m : MemoryStore) (op : Option LLMDisplacementOperation)
    (expected : UInt64) (now : GoTime) : MemoryStore × Except GoError LLMDisplacementOperation :=
  match op with
  | none => (m, .error (displacementError "llm displacement identity is incomplete"))
  | some new =>
    match m.llmDisplacementOps.lookup new.id with
    | none => (m, .error errNotFound)
    | some old =>
      match validateDisplacementUpdate old new expected with
      | .error e => (m, .error e)
      | .ok _ =>
        let row := updatedDisplacement old new now
        ({ m with llmDisplacementOps := m.llmDisplacementOps.insert new.id row }, .ok row)

/-- **What a displacement update can do**: nothing, or replace the row of its id. -/
theorem updateLLMDisplacementOperation_cases (m : MemoryStore)
    (op : Option LLMDisplacementOperation) (expected : UInt64) (now : GoTime) :
    (∃ e, updateLLMDisplacementOperation m op expected now = (m, .error e)) ∨
    ∃ old new, op = some new ∧ m.llmDisplacementOps.lookup new.id = some old ∧
      validateDisplacementUpdate old new expected = .ok () ∧
      updateLLMDisplacementOperation m op expected now =
        ({ m with llmDisplacementOps :=
            m.llmDisplacementOps.insert new.id (updatedDisplacement old new now) },
          .ok (updatedDisplacement old new now)) := by
  fun_cases updateLLMDisplacementOperation m op expected now with
  | case1 | case2 | case3 => exact .inl ⟨_, rfl⟩
  | case4 new old hl _ hv => exact .inr ⟨old, new, rfl, hl, hv, rfl⟩

/-! ## Leases -/

/-- The cleanup states that keep an accelerator from being leased. -/
def unresolvedCleanupStates : List GoString := ["armed", "owned", "pending", "failed", "stopped"]

/-- The row's cleanup of the accelerator is unresolved. -/
def unresolvedCleanup (acceleratorID : GoString) (op : LLMCheckpointOperation) : Bool :=
  op.cleanupAcceleratorID = acceleratorID && op.cleanupState ∈ unresolvedCleanupStates

/-- The row is the armed one that a recovery acquire names, by its own id or its cleanup's. -/
def armedFor (acceleratorID workloadID operationID : GoString) (op : LLMCheckpointOperation) :
    Bool :=
  op.cleanupAcceleratorID = acceleratorID && op.cleanupState = "armed" &&
    op.workloadID = workloadID && operationID ≠ [] &&
    (op.id = operationID || op.cleanupOperationID = operationID)

/-- The orders in which an acquire ranges over the displacement rows and, twice, the checkpoint
rows. -/
structure ScanOrders where
  displacements : List (Entry LLMDisplacementOperation)
  (recovery blockers : List (Entry LLMCheckpointOperation))

/-- The orders are ones that `range` may choose in the store. -/
structure ScanOrders.Of (o : ScanOrders) (m : MemoryStore) : Prop where
  displacements : RangeOrder m.llmDisplacementOps o.displacements
  recovery : RangeOrder m.llmCheckpointOps o.recovery
  blockers : RangeOrder m.llmCheckpointOps o.blockers

/-- The orders of the entries as the store lists them. -/
def ScanOrders.ofStore (m : MemoryStore) : ScanOrders :=
  ⟨m.llmDisplacementOps.entries, m.llmCheckpointOps.entries, m.llmCheckpointOps.entries⟩

theorem ScanOrders.of_ofStore (m : MemoryStore) : (ofStore m).Of m :=
  ⟨rangeOrder_entries _, rangeOrder_entries _, rangeOrder_entries _⟩

/-- The row whose cleanup a recovery acquire may continue. -/
def recoveryEntry (acceleratorID workloadID operationID : GoString) (o : ScanOrders) :
    Option (Entry LLMCheckpointOperation) :=
  o.recovery.find? fun e => armedFor acceleratorID workloadID operationID e.2

/-- A checkpoint row other than the one to be continued that blocks the accelerator. -/
def blockingEntry (acceleratorID : GoString)
    (recovery : Option (Entry LLMCheckpointOperation))
    (o : ScanOrders) : Option (Entry LLMCheckpointOperation) :=
  o.blockers.find? fun e => unresolvedCleanup acceleratorID e.2 && recovery.map (·.1) ≠ some e.1

def liveLease (m : MemoryStore) (acceleratorID : GoString) (now : GoTime) :
    Option AcceleratorLease :=
  (m.leases.lookup acceleratorID).filter fun l => l.expiresAt.after now

/-- The lease that a refused acquire returns: of a displacement, of a checkpoint cleanup, or the
current one. -/
def refusal (m : MemoryStore) (acceleratorID workloadID operationID : GoString) (ttl : ℤ)
    (now : GoTime) (o : ScanOrders) : Option AcceleratorLease :=
  match o.displacements.find? (custodyOn acceleratorID) with
  | some e => some (e.2.originalLease.getD
      { acceleratorID, workloadID := e.2.victimWorkloadID, fencingToken := e.2.fence.toInt64 })
  | none =>
    match blockingEntry acceleratorID (recoveryEntry acceleratorID workloadID operationID o) o with
    | some e =>
      let fence := if e.2.cleanupFence.toInt64 = 0 then e.2.fence.toInt64
        else e.2.cleanupFence.toInt64
      some { acceleratorID, workloadID := e.2.workloadID, fencingToken := fence,
             expiresAt := now.add ttl }
    | none => liveLease m acceleratorID now

/-- The counter of the next token: a recovery raises it to the fence of its row, converted to a
signed number. -/
def raisedFence (m : MemoryStore) (acceleratorID : GoString)
    (recovery : Option LLMCheckpointOperation) : Int64 :=
  let fence := GoMap.get m.leaseFences acceleratorID
  match recovery with
  | some op => if fence < op.cleanupFence.toInt64 then op.cleanupFence.toInt64 else fence
  | none => fence

def firstNonEmptyMemory (values : List GoString) : GoString := (values.find? (· ≠ [])).getD []

/-- The row that a recovery grant leaves behind. -/
def recoveredRow (op : LLMCheckpointOperation) (acceleratorID operationID : GoString)
    (token : Int64) (now : GoTime) : LLMCheckpointOperation :=
  { op with
    cleanupState := "pending"
    cleanupOperationID := firstNonEmptyMemory [op.cleanupOperationID, operationID, op.id]
    cleanupAcceleratorID := acceleratorID
    cleanupFence := token.toUInt64
    cleanupGeneration := if op.cleanupGeneration = 0 then op.generation else op.cleanupGeneration
    revision := op.revision + 1
    updatedAt := now }

def grantedLease (m : MemoryStore) (acceleratorID workloadID : GoString) (ttl : ℤ) (now : GoTime)
    (recovery : Option (Entry LLMCheckpointOperation)) : AcceleratorLease :=
  { acceleratorID, workloadID, fencingToken := raisedFence m acceleratorID (recovery.map (·.2)) + 1,
    expiresAt := now.add ttl }

def rowsAfterGrant (m : MemoryStore) (operationID : GoString) (lease : AcceleratorLease)
    (now : GoTime) (recovery : Option (Entry LLMCheckpointOperation)) :
    GoMap LLMCheckpointOperation :=
  match recovery with
  | some e => m.llmCheckpointOps.insert e.1
      (recoveredRow e.2 lease.acceleratorID operationID lease.fencingToken now)
  | none => m.llmCheckpointOps

/-- The store after a grant: the counter, the lease and the continued row change together. -/
def grantLease (m : MemoryStore) (operationID : GoString) (lease : AcceleratorLease) (now : GoTime)
    (recovery : Option (Entry LLMCheckpointOperation)) : MemoryStore :=
  { m with
    leaseFences := m.leaseFences.insert lease.acceleratorID lease.fencingToken
    leases := m.leases.insert lease.acceleratorID lease
    llmCheckpointOps := rowsAfterGrant m operationID lease now recovery }

/-- `AcquireAcceleratorLease`, and with an operation `AcquireAcceleratorLeaseForCheckpointRecovery`:
the lease and whether it was granted. -/
def acquireAcceleratorLease (m : MemoryStore) (acceleratorID workloadID operationID : GoString)
    (ttl : ℤ) (now : GoTime) (o : ScanOrders) : MemoryStore × AcceleratorLease × Bool :=
  match refusal m acceleratorID workloadID operationID ttl now.utc o with
  | some lease => (m, lease, false)
  | none =>
    let recovery := recoveryEntry acceleratorID workloadID operationID o
    let lease := grantedLease m acceleratorID workloadID ttl now.utc recovery
    (grantLease m operationID lease now.utc recovery, lease, true)

theorem unresolvedCleanup_of_armedFor {a w opID : GoString} {op : LLMCheckpointOperation}
    (h : armedFor a w opID op = true) : unresolvedCleanup a op = true := by
  simp only [armedFor, Bool.and_eq_true, decide_eq_true_eq] at h
  obtain ⟨⟨⟨⟨ha, hs⟩, -⟩, -⟩, -⟩ := h
  simp [unresolvedCleanup, unresolvedCleanupStates, ha, hs]

/-- The conditions of a grant that continues `recovery`; the orders of the scans are not among them.
-/
structure Grantable (m : MemoryStore) (a w opID : GoString) (now : GoTime)
    (recovery : Option (Entry LLMCheckpointOperation)) : Prop where
  noCustody : ∀ k row, m.llmDisplacementOps.lookup k = some row → custodyOn a ⟨k, row⟩ = false
  onlyBlocker : ∀ k row, m.llmCheckpointOps.lookup k = some row →
    unresolvedCleanup a row = true → recovery.map (·.1) = some k
  noLiveLease : liveLease m a now = none
  armed : ∀ e, recovery = some e →
    m.llmCheckpointOps.lookup e.1 = some e.2 ∧ armedFor a w opID e.2 = true

variable {e : Entry LLMCheckpointOperation}

namespace Grantable

variable {m : MemoryStore} {a w opID : GoString} {now : GoTime}
  {r : Option (Entry LLMCheckpointOperation)}

/-- **The row that a grant continues is determined by the store.** -/
theorem eq_some_of_armed (h : Grantable m a w opID now r)
    (hl : m.llmCheckpointOps.lookup e.1 = some e.2) (ha : armedFor a w opID e.2 = true) :
    r = some e := by
  obtain ⟨e', rfl, he⟩ := Option.map_eq_some_iff.1
    (h.onlyBlocker _ _ hl (unresolvedCleanup_of_armedFor ha))
  have hl' := (h.armed e' rfl).1
  rw [he, hl] at hl'
  exact congrArg some (Sigma.ext he (heq_of_eq (Option.some.inj hl').symm))

end Grantable

section Acquire

variable {m : MemoryStore} {a w opID : GoString} {now : GoTime} {o : ScanOrders}
  {r : Option (Entry LLMCheckpointOperation)}

theorem recoveryEntry_eq_some (ho : o.Of m) (h : recoveryEntry a w opID o = some e) :
    m.llmCheckpointOps.lookup e.1 = some e.2 ∧ armedFor a w opID e.2 = true :=
  ho.recovery.lookup_of_find? h

theorem refusal_eq_none_iff (ho : o.Of m) (ttl : ℤ) :
    refusal m a w opID ttl now o = none ↔ Grantable m a w opID now (recoveryEntry a w opID o) := by
  have hb : blockingEntry a (recoveryEntry a w opID o) o = none ↔
      ∀ k row, m.llmCheckpointOps.lookup k = some row → unresolvedCleanup a row = true →
        (recoveryEntry a w opID o).map (·.1) = some k := by
    rw [blockingEntry, ho.blockers.find?_eq_none]
    simp
  unfold refusal
  constructor
  · intro h
    split at h
    · cases h
    next hd =>
      split at h
      · cases h
      next he =>
        exact ⟨ho.displacements.find?_eq_none.1 hd, hb.1 he, h, fun e => recoveryEntry_eq_some ho⟩
  · intro h
    simp only [ho.displacements.find?_eq_none.2 h.noCustody, hb.2 h.onlyBlocker, h.noLiveLease]

theorem recoveryEntry_of_grantable (ho : o.Of m) (h : Grantable m a w opID now r) :
    recoveryEntry a w opID o = r := by
  cases hf : recoveryEntry a w opID o with
  | some e =>
    obtain ⟨hl, ha⟩ := recoveryEntry_eq_some ho hf
    exact (h.eq_some_of_armed hl ha).symm
  | none =>
    cases r with
    | none => rfl
    | some e =>
      obtain ⟨hl, ha⟩ := h.armed e rfl
      have hna := ho.recovery.find?_eq_none.1 hf _ _ hl
      rw [ha] at hna
      cases hna

theorem acquireAcceleratorLease_of_grantable (ho : o.Of m) (ttl : ℤ)
    (h : Grantable m a w opID now.utc r) :
    acquireAcceleratorLease m a w opID ttl now o =
      (grantLease m opID (grantedLease m a w ttl now.utc r) now.utc r,
        grantedLease m a w ttl now.utc r, true) := by
  have hr : recoveryEntry a w opID o = r := recoveryEntry_of_grantable ho h
  have hn : refusal m a w opID ttl now.utc o = none := (refusal_eq_none_iff ho ttl).2 (hr ▸ h)
  simp only [acquireAcceleratorLease, hn, hr]

/-- **What an acquire can do**: nothing, or in a grantable state change the counter, the lease and
the continued row. -/
theorem acquireAcceleratorLease_cases (ho : o.Of m) (a w opID : GoString) (ttl : ℤ) (now : GoTime) :
    (∃ l, acquireAcceleratorLease m a w opID ttl now o = (m, l, false)) ∨
    ∃ r, Grantable m a w opID now.utc r ∧
      acquireAcceleratorLease m a w opID ttl now o =
        (grantLease m opID (grantedLease m a w ttl now.utc r) now.utc r,
          grantedLease m a w ttl now.utc r, true) := by
  cases hf : refusal m a w opID ttl now.utc o with
  | some l => exact .inl ⟨l, by simp only [acquireAcceleratorLease, hf]⟩
  | none =>
    have hg := (refusal_eq_none_iff ho ttl).1 hf
    exact .inr ⟨_, hg, acquireAcceleratorLease_of_grantable ho ttl hg⟩

end Acquire

variable (m : MemoryStore)

def renewAcceleratorLease (acceleratorID workloadID : GoString)
    (fencingToken : Int64) (ttl : ℤ) (now : GoTime) : MemoryStore × Except GoError Unit :=
  match m.leases.lookup acceleratorID with
  | none => (m, .error errNotFound)
  | some lease =>
    if lease.workloadID ≠ workloadID || lease.fencingToken ≠ fencingToken then
      (m, .error errNotFound)
    else
      let lease := { lease with expiresAt := now.utc.add ttl }
      ({ m with leases := m.leases.insert acceleratorID lease }, .ok ())

def releaseAcceleratorLease (acceleratorID workloadID : GoString)
    (fencingToken : Int64) : MemoryStore × Except GoError Unit :=
  match m.leases.lookup acceleratorID with
  | none => (m, .ok ())
  | some lease =>
    if lease.workloadID ≠ workloadID || lease.fencingToken ≠ fencingToken then
      (m, .error errNotFound)
    else ({ m with leases := m.leases.erase acceleratorID }, .ok ())

def getAcceleratorLease (acceleratorID : GoString) : Except GoError AcceleratorLease :=
  match m.leases.lookup acceleratorID with
  | none => .error errNotFound
  | some lease => .ok lease

variable (a w : GoString) (token : Int64)

/-- **What a renewal can do.** Only the lease of the named workload and token changes. -/
theorem renewAcceleratorLease_cases (ttl : ℤ) (now : GoTime) :
    renewAcceleratorLease m a w token ttl now = (m, .error errNotFound) ∨
    ∃ lease, m.leases.lookup a = some lease ∧ lease.workloadID = w ∧ lease.fencingToken = token ∧
      renewAcceleratorLease m a w token ttl now =
        ({ m with leases := m.leases.insert a { lease with expiresAt := now.utc.add ttl } },
          .ok ()) := by
  fun_cases renewAcceleratorLease m a w token ttl now with
  | case1 | case2 => exact .inl rfl
  | case3 lease hl hne =>
    simp only [Bool.or_eq_true, decide_eq_true_eq, not_or, not_not] at hne
    exact .inr ⟨lease, hl, hne.1, hne.2, rfl⟩

/-- **What a release can do.** Only the lease of the named workload and token is removed. -/
theorem releaseAcceleratorLease_cases :
    (releaseAcceleratorLease m a w token).1 = m ∨
    ∃ lease, m.leases.lookup a = some lease ∧ lease.workloadID = w ∧ lease.fencingToken = token ∧
      releaseAcceleratorLease m a w token = ({ m with leases := m.leases.erase a }, .ok ()) := by
  fun_cases releaseAcceleratorLease m a w token with
  | case1 | case2 => exact .inl rfl
  | case3 lease hl hne =>
    simp only [Bool.or_eq_true, decide_eq_true_eq, not_or, not_not] at hne
    exact .inr ⟨lease, hl, hne.1, hne.2, rfl⟩

/-! ## Cleanup intents -/

def errAcceleratorLeaseCleanupConflict : GoError :=
  .sentinel "store: accelerator lease cleanup continuation conflict"

def intentError (text : String) : GoError := ⟨text, none⟩

/-- Some terminal side effect of the intent is recorded as published. -/
def sideEffectPublished (i : AcceleratorLeaseCleanupIntent) : Bool :=
  i.auditPublished || i.notificationPublished || i.budgetSettled

def validateLeaseCleanupIntent (i : AcceleratorLeaseCleanupIntent) : Except GoError Unit :=
  firstError
    [(i.acceleratorID = [] || i.owner = [] || i.fencingToken ≤ 0,
        intentError "accelerator lease cleanup intent requires exact lease identity"),
     (i.attempts < 1, intentError "accelerator lease cleanup intent attempts must be positive"),
     (512 < i.lastError.length || 128 < i.terminalErrorCode.length,
        intentError "accelerator lease cleanup intent error is too long")] <|
  if i.terminalDisposition = [] then firstError
    [(i.workloadID ≠ [] || i.expectedWorkloadRevision ≠ 0 || i.releaseConfirmed ||
        i.terminalPublished || sideEffectPublished i,
        intentError "ordinary lease cleanup intent carries terminal continuation fields")]
    (.ok ())
  else firstError
    [(i.workloadID = [] || i.expectedWorkloadRevision = 0 || i.terminalErrorCode = [],
        intentError "terminal lease cleanup intent is incomplete"),
     (i.terminalDisposition ≠ "success" && i.terminalDisposition ≠ "failure" &&
        i.terminalDisposition ≠ "cancel",
        intentError "terminal lease cleanup intent has invalid disposition"),
     (i.terminalPublished && !i.releaseConfirmed,
        intentError "terminal continuation published before release confirmation"),
     (sideEffectPublished i && !i.terminalPublished,
        intentError "terminal continuation side effect published before terminal state")]
    (.ok ())

def leaseCleanupKey (acceleratorID owner : GoString) (fencingToken : Int64) : GoString :=
  acceleratorID ++ "\x00" ++ owner ++ "\x00" ++ sprint fencingToken.toInt

/-- The key of the intents of one workload under a lease. -/
def workloadCleanupKey (acceleratorID owner : GoString) (fencingToken : Int64)
    (workloadID : GoString) : GoString :=
  leaseCleanupKey acceleratorID owner fencingToken ++ "\x00" ++ workloadID

def leaseCleanupRecordKey (i : AcceleratorLeaseCleanupIntent) : GoString :=
  if i.workloadID ≠ [] then workloadCleanupKey i.acceleratorID i.owner i.fencingToken i.workloadID
  else leaseCleanupKey i.acceleratorID i.owner i.fencingToken

/-- The intent with the times and attempts that recording fills in. -/
def withIntentDefaults (i : AcceleratorLeaseCleanupIntent) (now : GoTime) :
    AcceleratorLeaseCleanupIntent :=
  { i with
    createdAt := if i.createdAt.isZero then now else i.createdAt
    updatedAt := if i.updatedAt.isZero then now else i.updatedAt
    attempts := if i.attempts ≤ 0 then 1 else i.attempts }

/-- The two intents continue one terminal disposition. -/
def sameContinuation (existing i : AcceleratorLeaseCleanupIntent) : Bool :=
  existing.workloadID = i.workloadID &&
    existing.expectedWorkloadRevision = i.expectedWorkloadRevision &&
    existing.terminalDisposition = i.terminalDisposition &&
    existing.terminalErrorCode = i.terminalErrorCode

/-- What is once confirmed or published stays so. -/
def mergeIntent (existing stored : AcceleratorLeaseCleanupIntent) : AcceleratorLeaseCleanupIntent :=
  { stored with
    attempts := max stored.attempts existing.attempts
    createdAt := existing.createdAt
    releaseConfirmed := existing.releaseConfirmed || stored.releaseConfirmed
    terminalPublished := existing.terminalPublished || stored.terminalPublished
    auditPublished := existing.auditPublished || stored.auditPublished
    notificationPublished := existing.notificationPublished || stored.notificationPublished
    budgetSettled := existing.budgetSettled || stored.budgetSettled }

def recordAcceleratorLeaseCleanupIntent (m : MemoryStore) (intent : AcceleratorLeaseCleanupIntent)
    (now : GoTime) : MemoryStore × Except GoError AcceleratorLeaseCleanupIntent :=
  match validateLeaseCleanupIntent intent with
  | .error e => (m, .error e)
  | .ok _ =>
    let key := leaseCleanupRecordKey intent
    let stored := withIntentDefaults intent now.utc
    match m.leaseCleanupIntents.lookup key with
    | none =>
      ({ m with leaseCleanupIntents := m.leaseCleanupIntents.insert key stored }, .ok stored)
    | some existing =>
      if sameContinuation existing intent then
        let merged := mergeIntent existing stored
        ({ m with leaseCleanupIntents := m.leaseCleanupIntents.insert key merged }, .ok merged)
      else (m, .error errAcceleratorLeaseCleanupConflict)

/-- The order of a listing: the time of the last update, then the lease. -/
def listedBefore (i j : AcceleratorLeaseCleanupIntent) : Prop :=
  if i.updatedAt.equal j.updatedAt then
    leaseCleanupKey i.acceleratorID i.owner i.fencingToken ≤
      leaseCleanupKey j.acceleratorID j.owner j.fencingToken
  else i.updatedAt.before j.updatedAt

instance : DecidableRel listedBefore := fun i j => by unfold listedBefore; infer_instance

/-- `order` is one in which `range` visits the intents; a zero `now` stands for the clock. -/
def listAcceleratorLeaseCleanupIntents (now clock : GoTime) (limit : ℕ)
    (order : List (Entry AcceleratorLeaseCleanupIntent)) :
    List AcceleratorLeaseCleanupIntent :=
  let now := if now.isZero then clock.utc else now
  let due := (order.map (·.2)).filter fun i => !i.nextRetryAt.any (·.after now)
  let rows := due.insertionSort listedBefore
  if 0 < limit then rows.take limit else rows

def deleteAcceleratorLeaseCleanupIntent (m : MemoryStore) (acceleratorID owner : GoString)
    (fencingToken : Int64) : MemoryStore :=
  let key := leaseCleanupKey acceleratorID owner fencingToken
  let doomed := m.leaseCleanupIntents.keys.filter fun k => k = key || (key ++ "\x00").isPrefixOf k
  { m with leaseCleanupIntents := doomed.foldl (fun t k => AList.erase k t) m.leaseCleanupIntents }

def deleteAcceleratorLeaseCleanupIntentForWorkload (m : MemoryStore)
    (acceleratorID owner : GoString) (fencingToken : Int64) (workloadID : GoString) : MemoryStore :=
  let key := workloadCleanupKey acceleratorID owner fencingToken workloadID
  { m with leaseCleanupIntents := m.leaseCleanupIntents.erase key }

end VramGovernor.Store
