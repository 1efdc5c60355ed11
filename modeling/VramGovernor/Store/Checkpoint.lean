import VramGovernor.Domain
import VramGovernor.Foundations.Sha256

/-!
# Checkpoint operations

The durable record of a checkpoint lifecycle and the pure functions the stores share about it
(`internal/store/store.go`). Create reads the phase of a row trimmed and lower-cased, and so does
the ordinal; the table of the transitions and the sets of terminal and final phases read it exactly.
-/

namespace VramGovernor.Store

open GoString

def errLLMCheckpointConflict : GoError := .sentinel "store: llm checkpoint operation conflict"

/-- `LLMCheckpointOperation`: the fields that the store reads or that identify the row. -/
structure LLMCheckpointOperation where
  (id idempotencyKey ownerID workloadID nodeID acceleratorID targetID model : GoString := [])
  slotID : ℤ := 0
  (generation fence : UInt64 := 0)
  (runtimeIdentity modelFingerprint profileFingerprint contextFingerprint : GoString := [])
  (conversationID continuationConversationID compensationOf : GoString := [])
  workloadRevision : UInt64 := 0
  (recoveryState cleanupOperationID : GoString := [])
  cleanupSlotID : ℤ := 0
  cleanupState : GoString := []
  cleanupHandle : Option ExecutionHandle := none
  (cleanupTargetID cleanupAcceleratorID : GoString := [])
  (cleanupGeneration cleanupFence : UInt64 := 0)
  (cleanupTerminalDisposition cleanupMessage snapshotName phase : GoString := [])
  phaseOrdinal : ℤ := 0
  (createdAt updatedAt : GoTime := {})
  revision : UInt64 := 0
  deriving DecidableEq, Repr

/-! ## Phases -/

/-- The phases in which a row owns no physical slot. -/
def llmCheckpointTerminalPhases : List GoString :=
  ["completed", "failed", "cancelled", "released", "restore_failed"]

def llmCheckpointFinalPhases : List GoString :=
  ["completed", "failed", "cancelled", "restore_failed"]

def llmCheckpointPhaseIsTerminal (phase : GoString) : Bool := phase ∈ llmCheckpointTerminalPhases

def llmCheckpointPhaseIsFinal (phase : GoString) : Bool := phase ∈ llmCheckpointFinalPhases

def llmCheckpointHoldsSlot (phase : GoString) : Bool := !llmCheckpointPhaseIsTerminal phase

/-- The shared lifecycle vocabulary with its ordinals. -/
def phaseOrdinals : List (GoString × ℤ) :=
  [("planned", 1), ("assigned", 1), ("started", 2), ("paused", 3), ("saved", 4), ("stopped", 5),
   ("released", 6), ("restore_planned", 6), ("restore_assigned", 8), ("reloaded", 9),
   ("restored", 10), ("resumed", 11), ("continued", 12), ("reused", 13), ("completed", 15),
   ("failed", 15), ("cancelled", 15), ("restore_failed", 15)]

/-- A phase as create and the ordinal read it. -/
def normalPhase (phase : GoString) : GoString := toLower (trimSpace phase)

def llmCheckpointPhaseOrdinal (phase : GoString) : ℤ :=
  (phaseOrdinals.lookup (normalPhase phase)).getD 0

def llmCheckpointPhaseKnown (phase : GoString) : Bool := 0 < llmCheckpointPhaseOrdinal phase

/-! ## Validators -/

def checkpointError (text : String) : GoError := ⟨text, none⟩

def cleanupStates : List GoString := ["armed", "owned", "pending", "failed", "stopped", "confirmed"]

def validateLLMCheckpointCleanup (op : LLMCheckpointOperation) : Except GoError Unit :=
  if op.cleanupState = [] then .ok ()
  else if op.cleanupState ∉ cleanupStates then
    .error (checkpointError "checkpoint cleanup state is invalid")
  else if op.cleanupState = "confirmed" then .ok ()
  else firstError
    [(isBlank op.cleanupTargetID || isBlank op.cleanupAcceleratorID || op.cleanupFence = 0 ||
        op.cleanupGeneration = 0, checkpointError "checkpoint cleanup identity is incomplete"),
     (op.cleanupSlotID < -1, checkpointError "checkpoint cleanup slot is invalid"),
     (op.cleanupHandle.any fun h => isBlank h.externalID,
        checkpointError "checkpoint cleanup handle identity is incomplete"),
     (op.cleanupTerminalDisposition ≠ [] && op.cleanupTerminalDisposition ≠ "success" &&
        op.cleanupTerminalDisposition ≠ "failure" && op.cleanupTerminalDisposition ≠ "cancel",
        checkpointError "checkpoint cleanup terminal disposition is invalid"),
     (2048 < op.cleanupMessage.length, checkpointError "checkpoint cleanup message is too long")]
    (.ok ())

/-- The strings of a row that may not be blank. -/
def requiredIdentity (op : LLMCheckpointOperation) : List GoString :=
  [op.id, op.idempotencyKey, op.ownerID, op.workloadID, op.nodeID, op.targetID, op.acceleratorID,
   op.runtimeIdentity, op.model, op.modelFingerprint, op.profileFingerprint, op.contextFingerprint,
   op.phase]

def validateLLMCheckpointRequiredIdentity (op : LLMCheckpointOperation) : Except GoError Unit :=
  firstError
    [((requiredIdentity op).any isBlank || op.generation = 0 || op.fence = 0,
        checkpointError "checkpoint operation identity is incomplete"),
     (op.workloadRevision = 0,
       checkpointError "checkpoint operation workload revision is required"),
     (op.phaseOrdinal ≤ 0 || llmCheckpointPhaseOrdinal op.phase ≤ 0 ||
        op.phaseOrdinal ≠ llmCheckpointPhaseOrdinal op.phase,
        checkpointError "checkpoint operation phase or ordinal is invalid"),
     (isBlank op.conversationID,
        checkpointError "checkpoint operation conversation identity is incomplete"),
     (op.slotID < -1, checkpointError "checkpoint operation slot is invalid")]
    (validateLLMCheckpointCleanup op)

variable {op : LLMCheckpointOperation}

theorem phaseOrdinal_of_valid (h : validateLLMCheckpointRequiredIdentity op = .ok ()) :
    op.phaseOrdinal = llmCheckpointPhaseOrdinal op.phase := by
  have hc := (firstError_eq_ok.1 h).1 (_, checkpointError
    "checkpoint operation phase or ordinal is invalid") (.tail _ (.tail _ (.head _)))
  simp only [Bool.or_eq_false_iff, decide_eq_false_iff_not, not_not] at hc
  exact hc.2

/-! ## Identity -/

/-- The fields of the replay identity that no update may change. -/
structure CheckpointIdentity where
  (id idempotencyKey ownerID workloadID : GoString)
  workloadRevision : UInt64
  (nodeID acceleratorID targetID model : GoString)
  (generation fence : UInt64)
  (runtimeIdentity modelFingerprint profileFingerprint contextFingerprint conversationID : GoString)
  (continuationConversationID compensationOf : GoString)
  deriving DecidableEq

def LLMCheckpointOperation.identity (op : LLMCheckpointOperation) : CheckpointIdentity :=
  { op with }

def llmCheckpointIdentityEqual (a b : LLMCheckpointOperation) (includeSlot : Bool) : Bool :=
  a.identity = b.identity && (!includeSlot || a.slotID = b.slotID)

def sameLLMCheckpointIdentity (a b : LLMCheckpointOperation) : Bool :=
  llmCheckpointIdentityEqual a b true

def llmCheckpointImmutableIdentityEqual (a b : LLMCheckpointOperation) : Bool :=
  llmCheckpointIdentityEqual a b false

theorem llmCheckpointImmutableIdentityEqual_iff {a b : LLMCheckpointOperation} :
    llmCheckpointImmutableIdentityEqual a b = true ↔ a.identity = b.identity := by
  simp [llmCheckpointImmutableIdentityEqual, llmCheckpointIdentityEqual]

/-! ## Creation -/

/-- The conversation a row is given when it names none. -/
def derivedConversationID (op : LLMCheckpointOperation) : GoString :=
  let seed := Sha256.sum256 (op.ownerID ++ "|" ++ op.workloadID ++ "|" ++
    sprint op.generation.toNat ++ "|" ++ sprint op.fence.toNat ++ "|" ++ op.id)
  "conv-" ++ hexString (seed.take 12)

def canonicalLLMCheckpointTime (t : GoTime) : GoTime :=
  if t.isZero then t else t.utc.truncateMicrosecond

/-- The row with the conversation and ordinal that create fills in. -/
def withCreateDefaults (op : LLMCheckpointOperation) : LLMCheckpointOperation :=
  let op := if isBlank op.conversationID then
    { op with conversationID := derivedConversationID op } else op
  if op.phaseOrdinal = 0 then { op with phaseOrdinal := llmCheckpointPhaseOrdinal op.phase } else op

/-- A root is `planned` without recovery identity, or `restore_planned` with a snapshot and a
justification. -/
def validateCheckpointRoot (op : LLMCheckpointOperation) : Except GoError Unit :=
  if normalPhase op.phase = "planned" then
    if op.snapshotName ≠ [] || op.compensationOf ≠ [] || op.recoveryState ≠ [] then
      .error (checkpointError "checkpoint planned root has unexpected recovery identity")
    else .ok ()
  else if normalPhase op.phase = "restore_planned" then
    if isBlank op.snapshotName || (isBlank op.compensationOf &&
        trimSpace op.recoveryState ≠ "pending" && op.workloadRevision = 0) then
      .error
        (checkpointError "checkpoint restore root requires snapshot and recovery justification")
    else .ok ()
  else
    .error (checkpointError "checkpoint create phase must be planned or justified restore_planned")

/-- The row as create stores it, its times canonical. -/
def withCreateTimes (op : LLMCheckpointOperation) (now : GoTime) : LLMCheckpointOperation :=
  let createdAt := if op.createdAt.isZero then now.utc.truncateMicrosecond
    else canonicalLLMCheckpointTime op.createdAt
  { op with
    revision := 1
    createdAt := createdAt
    updatedAt := if op.updatedAt.isZero then createdAt
      else canonicalLLMCheckpointTime op.updatedAt }

def prepareLLMCheckpointCreate (op : Option LLMCheckpointOperation) (now : GoTime) :
    Except GoError LLMCheckpointOperation :=
  match op with
  | none => .error (checkpointError "checkpoint operation identity is incomplete")
  | some op =>
    let copy := withCreateDefaults op
    match validateCheckpointRoot copy with
    | .error e => .error e
    | .ok _ =>
      match validateLLMCheckpointRequiredIdentity copy with
      | .error e => .error e
      | .ok _ => .ok (withCreateTimes copy now)

theorem rootPhase_of_valid (h : validateCheckpointRoot op = .ok ()) :
    normalPhase op.phase = "planned" ∨ normalPhase op.phase = "restore_planned" := by
  unfold validateCheckpointRoot at h
  split_ifs at h with h₁ _ h₂
  · exact .inl h₁
  · exact .inr h₂

/-- **What a create asserts:** a row of the first revision in a root phase, with its ordinal. -/
theorem prepareLLMCheckpointCreate_eq_ok {op : Option LLMCheckpointOperation} {now : GoTime}
    {p : LLMCheckpointOperation} (h : prepareLLMCheckpointCreate op now = .ok p) :
    p.phaseOrdinal = llmCheckpointPhaseOrdinal p.phase ∧
      (normalPhase p.phase = "planned" ∨ normalPhase p.phase = "restore_planned") ∧
      p.revision = 1 := by
  revert h
  fun_cases prepareLLMCheckpointCreate op now with
  | case1 | case2 | case3 => exact nofun
  | case4 _ copy _ hr _ hv =>
    rintro ⟨⟩
    exact ⟨phaseOrdinal_of_valid hv, rootPhase_of_valid hr, rfl⟩

/-! ## Transitions -/

def llmCheckpointTransitions : List (GoString × List GoString) :=
  [("planned", ["assigned", "failed", "cancelled"]),
   ("assigned", ["started", "failed", "cancelled"]),
   ("started", ["paused", "stopped", "failed", "cancelled"]),
   ("paused", ["saved", "failed", "cancelled"]),
   ("saved", ["stopped", "failed", "cancelled"]),
   ("stopped", ["released", "failed", "cancelled"]),
   ("released", ["restore_planned", "completed", "failed", "cancelled"]),
   ("restore_planned", ["restore_assigned", "restore_failed", "failed", "cancelled"]),
   ("restore_assigned", ["reloaded", "restore_failed", "failed", "cancelled"]),
   ("reloaded", ["restored", "restore_failed", "failed", "cancelled"]),
   ("restored", ["resumed", "restore_failed", "failed", "cancelled"]),
   ("resumed", ["continued", "restore_failed", "failed", "cancelled"]),
   ("continued", ["reused", "restore_failed", "failed", "cancelled"]),
   ("reused", ["completed", "failed", "cancelled"])]

def successorPhases (phase : GoString) : List GoString :=
  (llmCheckpointTransitions.lookup phase).getD []

def llmCheckpointTransitionAllowed (src dst : GoString) : Bool :=
  if src = [] || dst = [] then false
  else if src = dst then true
  else if !llmCheckpointPhaseKnown src || !llmCheckpointPhaseKnown dst ||
      llmCheckpointPhaseIsFinal src then false
  else dst ∈ successorPhases src

/-- The edges out of a phase are those of a line of the table. -/
theorem exists_mem_of_mem_successorPhases {src dst : GoString} (h : dst ∈ successorPhases src) :
    ∃ dsts, (src, dsts) ∈ llmCheckpointTransitions ∧ dst ∈ dsts := by
  unfold successorPhases at h
  cases hl : llmCheckpointTransitions.lookup src with
  | none => rw [hl] at h; cases h
  | some dsts =>
    obtain ⟨l₁, l₂, he, -⟩ := List.lookup_eq_some_iff.1 hl
    rw [hl] at h
    exact ⟨dsts, by simp [he], h⟩

theorem transition_cases {src dst : GoString} (h : llmCheckpointTransitionAllowed src dst = true) :
    src = dst ∨ llmCheckpointPhaseIsFinal src = false ∧ dst ∈ successorPhases src := by
  unfold llmCheckpointTransitionAllowed at h
  split_ifs at h with h₀ h₁ h₂
  · exact .inl h₁
  · simp only [Bool.or_eq_true, not_or, Bool.not_eq_true] at h₂
    exact .inr ⟨h₂.2, of_decide_eq_true h⟩

theorem ordinal_le_of_transition {src dst : GoString}
    (h : llmCheckpointTransitionAllowed src dst = true) :
    llmCheckpointPhaseOrdinal src ≤ llmCheckpointPhaseOrdinal dst := by
  have htable : ∀ e ∈ llmCheckpointTransitions, ∀ d ∈ e.2,
      llmCheckpointPhaseOrdinal e.1 ≤ llmCheckpointPhaseOrdinal d := by decide
  rcases transition_cases h with rfl | ⟨-, hs⟩
  · exact le_refl _
  · obtain ⟨dsts, hmem, hd⟩ := exists_mem_of_mem_successorPhases hs
    exact htable _ hmem _ hd

def llmCheckpointTransitionAllowedFor (src dst : LLMCheckpointOperation) : Bool :=
  if src.phase = dst.phase then true else llmCheckpointTransitionAllowed src.phase dst.phase

theorem transitionAllowedFor_cases {src dst : LLMCheckpointOperation}
    (h : llmCheckpointTransitionAllowedFor src dst = true) :
    src.phase = dst.phase ∨ llmCheckpointTransitionAllowed src.phase dst.phase = true := by
  unfold llmCheckpointTransitionAllowedFor at h
  split_ifs at h with he
  · exact .inl he
  · exact .inr h

end VramGovernor.Store
