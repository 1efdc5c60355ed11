import VramGovernor.Domain
import VramGovernor.Foundations.GoJSON
import VramGovernor.Foundations.Sha256

/-!
# Displacement operations

The journal row of one accelerator displacement and the pure functions about it
(`internal/store/llm_displacement.go`). A row runs through a fixed list of phases, two for each of
eight steps: the phase that seals the step's command intent and the phase that records its observed
result. The identity of a row is compared through its JSON text (`displacementIdentityEqual`), so
what the text does not tell apart, the comparison does not either.
-/

namespace VramGovernor.Store

open GoString

def errLLMDisplacementConflict : GoError := .sentinel "store: llm displacement operation conflict"

def displacementError (text : String) : GoError := ⟨text, none⟩

structure LLMDisplacementCommandIntent where
  (step commandID digest signature : GoString := [])
  deriving DecidableEq

structure LLMDisplacementObservedResult where
  (step commandID resultID digest proofBinding keyID signature envelopeDigest : GoString := [])
  deriving DecidableEq

/-- The catalog and execution identity of one side. -/
structure LLMDisplacementModelBinding where
  (targetID nodeID acceleratorID catalogModel : GoString := [])
  catalogAliases : List GoString := []
  (actualAlias localPlanID localPlanHash controllerPlanID controllerPlanHash : GoString := [])
  (artifactID artifactDigest runtimeIdentity profileIdentity contextIdentity : GoString := [])
  (checkpointID checkpointDigest proofBinding : GoString := [])
  deriving DecidableEq

structure LLMDisplacementOperation where
  (id idempotencyKey ownerID victimWorkloadID victimOwnerID : GoString := [])
  victimWorkloadRevision : UInt64 := 0
  (urgentWorkloadID urgentOwnerID : GoString := [])
  urgentWorkloadRevision : UInt64 := 0
  (acceleratorID nodeID : GoString := [])
  originalLease : Option AcceleratorLease := none
  fence : UInt64 := 0
  (victimBinding urgentBinding : LLMDisplacementModelBinding := {})
  (proofBinding phase : GoString := [])
  revision : UInt64 := 0
  commandIntents : List LLMDisplacementCommandIntent := []
  observedResults : List LLMDisplacementObservedResult := []
  snapshotIdentity : GoString := []
  (safeBoundaryObserved victimStopObserved snapshotObserved urgentLoadObserved : Bool := false)
  (urgentStopObserved victimReloadObserved kvRestoreObserved leaseSettled : Bool := false)
  snapshotCustodySettled : Bool := false
  (observedProof lastError : GoString := [])
  (createdAt updatedAt : GoTime := {})
  deriving DecidableEq

def observedResultEnvelopeDigest (r : LLMDisplacementObservedResult) : GoString :=
  hexString (Sha256.sum256 ("\x7b\"Step\":" ++ jsonQuote r.step ++ ",\"CommandID\":" ++
    jsonQuote r.commandID ++ ",\"ResultID\":" ++ jsonQuote r.resultID ++ ",\"Digest\":" ++
    jsonQuote r.digest ++ ",\"ProofBinding\":" ++ jsonQuote r.proofBinding ++ ",\"KeyID\":" ++
    jsonQuote r.keyID ++ "\x7d"))

/-! ## Phases and steps -/

def displacementPhases : List GoString :=
  ["planned", "pause_intent_sealed", "safe_boundary_paused", "snapshot_intent_sealed",
   "snapshot_captured", "victim_stop_intent_sealed", "victim_stopped", "urgent_load_intent_sealed",
   "urgent_loaded", "urgent_stop_intent_sealed", "urgent_stopped", "victim_reload_intent_sealed",
   "victim_reloaded", "kv_restore_intent_sealed", "kv_restored", "settlement_intent_sealed",
   "settled", "completed"]

def displacementSteps : List GoString :=
  ["pause", "snapshot", "victim_stop", "urgent_load", "urgent_stop", "victim_reload", "kv_restore",
   "settlement"]

def reconciliationPhases : List GoString := ["pending", "uncertain", "manual_reconciliation"]

def hasDisplacementResult (op : LLMDisplacementOperation) (step : GoString) : Bool :=
  op.observedResults.any fun r => r.step = step

def hasDisplacementIntent (op : LLMDisplacementOperation) (step : GoString) : Bool :=
  op.commandIntents.any fun c => c.step = step

/-- The step whose intent a phase seals, if it seals one. -/
def displacementIntentStep (phase : GoString) : Option GoString :=
  List.lookup phase
    [("pause_intent_sealed", "pause"), ("snapshot_intent_sealed", "snapshot"),
     ("victim_stop_intent_sealed", "victim_stop"), ("urgent_load_intent_sealed", "urgent_load"),
     ("urgent_stop_intent_sealed", "urgent_stop"),
     ("victim_reload_intent_sealed", "victim_reload"),
     ("kv_restore_intent_sealed", "kv_restore"), ("settlement_intent_sealed", "settlement")]

/-- The step whose result a phase records, if it records one. -/
def displacementResultStep (phase : GoString) : Option GoString :=
  List.lookup phase
    [("safe_boundary_paused", "pause"), ("snapshot_captured", "snapshot"),
     ("victim_stopped", "victim_stop"), ("urgent_loaded", "urgent_load"),
     ("urgent_stopped", "urgent_stop"), ("victim_reloaded", "victim_reload"),
     ("kv_restored", "kv_restore"), ("settled", "settlement")]

def displacementUnresolved (phase : GoString) : Bool := phase ≠ "completed"

def displacementTransitionAllowed (src dst : GoString) : Bool :=
  if dst ∈ reconciliationPhases then src ≠ "completed" && src ∉ reconciliationPhases
  else match displacementPhases.idxOf? src with
    | some i => displacementPhases[i + 1]? = some dst
    | none => false

/-! ## Validation of a row -/

/-- The strings of a binding that may not be blank. -/
def requiredBinding (b : LLMDisplacementModelBinding) : List GoString :=
  [b.targetID, b.nodeID, b.acceleratorID, b.catalogModel, b.actualAlias, b.localPlanID,
   b.localPlanHash, b.controllerPlanID, b.controllerPlanHash, b.artifactID, b.artifactDigest,
   b.runtimeIdentity, b.profileIdentity, b.contextIdentity, b.checkpointID, b.checkpointDigest,
   b.proofBinding]

def validLLMDisplacementBinding (b : LLMDisplacementModelBinding) : Bool :=
  !(requiredBinding b).any isBlank && b.catalogAliases ≠ [] && !b.catalogAliases.any isBlank &&
    b.catalogAliases.Nodup && b.catalogAliases.count b.actualAlias = 1

/-- The strings of a row that may not be blank. -/
def requiredDisplacementIdentity (op : LLMDisplacementOperation) : List GoString :=
  [op.id, op.idempotencyKey, op.ownerID, op.victimWorkloadID, op.victimOwnerID, op.urgentWorkloadID,
   op.urgentOwnerID, op.acceleratorID, op.nodeID, op.proofBinding]

/-- The lease the row was opened under is the victim's on the row's accelerator. -/
def originalLeaseMatches (op : LLMDisplacementOperation) : Bool :=
  match op.originalLease with
  | none => false
  | some l => l.acceleratorID = op.acceleratorID && l.workloadID = op.victimWorkloadID &&
      0 < l.fencingToken && l.fencingToken.toUInt64 = op.fence && !l.expiresAt.isZero

def maxInt64 : UInt64 := 0x7fffffffffffffff

def incompleteDisplacementIdentity (op : LLMDisplacementOperation) : Bool :=
  (requiredDisplacementIdentity op).any isBlank || op.victimWorkloadRevision = 0 ||
    op.urgentWorkloadRevision = 0 || op.victimWorkloadID = op.urgentWorkloadID ||
    !originalLeaseMatches op || op.fence = 0 || op.revision = 0 || maxInt64 < op.revision ||
    !validLLMDisplacementBinding op.victimBinding ||
    !validLLMDisplacementBinding op.urgentBinding || op.victimBinding.nodeID ≠ op.nodeID ||
    op.urgentBinding.nodeID ≠ op.nodeID || op.victimBinding.acceleratorID ≠ op.acceleratorID ||
    op.urgentBinding.acceleratorID ≠ op.acceleratorID

/-- The loop over the command intents, with the steps from the current index on and the command ids
`seen`. -/
def checkCommandIntents (next : Except GoError Unit) :
    List GoString → List GoString → List LLMDisplacementCommandIntent → Except GoError Unit
  | _, _, [] => next
  | steps, seen, c :: cs => firstError
    [(isBlank c.step || isBlank c.commandID || isBlank c.digest || isBlank c.signature,
        displacementError "sealed displacement command intent is incomplete"),
     (steps.head? ≠ some c.step || c.commandID ∈ seen,
        displacementError "displacement command intent history is malformed")]
    (checkCommandIntents next steps.tail (c.commandID :: seen) cs)

/-- The loop over the observed results, with the steps and intents from the current index on, the
ids of all `commands`, and the result ids `seen`. -/
def checkObservedResults (next : Except GoError Unit) (commands : List GoString) :
    List GoString → List LLMDisplacementCommandIntent → List GoString →
      List LLMDisplacementObservedResult → Except GoError Unit
  | _, _, _, [] => next
  | steps, intents, seen, r :: rs => firstError
    [(isBlank r.step || isBlank r.commandID || isBlank r.resultID || isBlank r.digest ||
        isBlank r.proofBinding || isBlank r.keyID || isBlank r.signature ||
        r.envelopeDigest ≠ observedResultEnvelopeDigest r,
        displacementError "displacement observed result identity is incomplete"),
     (steps.head? ≠ some r.step || r.resultID ∈ seen,
        displacementError "displacement observed result history is malformed"),
     (r.commandID ∉ commands || intents.head?.map (·.commandID) ≠ some r.commandID,
        displacementError "displacement result is not linked to its unique command intent")]
    (checkObservedResults next commands steps.tail intents.tail (r.resultID :: seen) rs)

/-- The observed flags, each with the step whose result it records. -/
def observedFlags (op : LLMDisplacementOperation) : List (Bool × GoString) :=
  [(op.safeBoundaryObserved, "pause"), (op.snapshotObserved, "snapshot"),
   (op.victimStopObserved, "victim_stop"), (op.urgentLoadObserved, "urgent_load"),
   (op.urgentStopObserved, "urgent_stop"), (op.victimReloadObserved, "victim_reload"),
   (op.kvRestoreObserved, "kv_restore"), (op.leaseSettled, "settlement"),
   (op.snapshotCustodySettled, "settlement")]

/-- The numbers of intents and of results that a phase of the list asks for. -/
def wantedHistory (phaseIndex : ℕ) : ℕ × ℕ :=
  if phaseIndex = 17 then (8, 8) else ((phaseIndex + 1) / 2, phaseIndex / 2)

/-- The phase against the history the row carries. -/
def checkDisplacementPhase (next : Except GoError Unit) (op : LLMDisplacementOperation) :
    Except GoError Unit :=
  if op.phase ∉ reconciliationPhases then
    match displacementPhases.idxOf? op.phase with
    | none => .error (displacementError "llm displacement phase is unknown")
    | some i => firstError
      [((op.commandIntents.length, op.observedResults.length) ≠ wantedHistory i,
          displacementError "displacement phase disagrees with sealed intent/result history"),
       (op.revision ≠ UInt64.ofNat (i + 1),
          displacementError "displacement revision disagrees with persisted phase")]
      next
  else firstError
    [(op.revision ≠ UInt64.ofNat (op.commandIntents.length + op.observedResults.length + 2) ||
        op.commandIntents.length < op.observedResults.length ||
        1 < op.commandIntents.length - op.observedResults.length,
        displacementError "displacement reconciliation revision disagrees with retained history")]
    next

variable (op : LLMDisplacementOperation)

def validateLLMDisplacementIdentity : Except GoError Unit :=
  firstError
    [(incompleteDisplacementIdentity op,
        displacementError "llm displacement identity is incomplete or inconsistent"),
     (8192 < op.observedProof.length || 2048 < op.lastError.length ||
        displacementSteps.length < op.commandIntents.length ||
        displacementSteps.length < op.observedResults.length,
        displacementError "llm displacement journal field is too long")] <|
  (checkCommandIntents · displacementSteps [] op.commandIntents) <|
  firstError
    [(op.commandIntents.length < op.observedResults.length,
        displacementError "displacement has an unsealed observed result")] <|
  (checkObservedResults · (op.commandIntents.map (·.commandID)) displacementSteps op.commandIntents
    [] op.observedResults) <|
  firstError
    [(!validLLMDisplacementBinding op.victimBinding ||
        !validLLMDisplacementBinding op.urgentBinding,
        displacementError "displacement model binding is incomplete"),
     (op.observedResults.any fun r => r.proofBinding ≠ op.proofBinding,
        displacementError "displacement observation proof is not bound to orchestration identity"),
     ((observedFlags op).any fun f => f.1 ≠ hasDisplacementResult op f.2,
        displacementError
          "displacement observed flags disagree with authenticated result history")] <|
  (checkDisplacementPhase · op) <|
  firstError
    [(op.observedResults.any fun r => r.step = "snapshot" && op.snapshotIdentity ≠ r.resultID,
        displacementError
          "displacement snapshot identity differs from immutable authenticated result"),
     (decide (op.snapshotIdentity ≠ []) ≠ hasDisplacementResult op "snapshot",
        displacementError "displacement snapshot identity lacks authenticated observation"),
     (op.observedProof ≠ [] && op.phase ≠ "completed",
        displacementError "completion proof is present before terminal settlement"),
     (op.phase = "completed" && !((observedFlags op).all (·.1) &&
        hasDisplacementResult op "settlement" && op.observedProof ≠ []),
        displacementError
          "displacement cannot complete before observed boundaries and custody settlement"),
     (op.phase = "completed" && op.observedResults.any fun r =>
        r.step = "settlement" && r.digest ≠ op.observedProof,
        displacementError "completion proof must match observed custody settlement")]
    (.ok ())

/-- A row keeps its accelerator until it is a valid completed one. -/
def displacementRecordRetainsCustody : Bool :=
  validateLLMDisplacementIdentity op ≠ .ok () || op.phase ≠ "completed"

/-! ## The world a row is created in -/

/-- A side's workload runs the plan that its binding names, on the row's accelerator and node. -/
def planMatchesBinding (w : Workload) (b : LLMDisplacementModelBinding) : Bool :=
  match w.plan with
  | none => false
  | some plan => plan.workloadID = w.requestID && plan.id = b.controllerPlanID &&
      plan.planHash = b.controllerPlanHash && plan.targetID = b.targetID &&
      plan.acceleratorID = op.acceleratorID && w.progressNode = op.nodeID

/-- The victim holds the lease the row names, unexpired. -/
def leaseMatchesWorld (lease : AcceleratorLease) (now : GoTime) : Bool :=
  lease.acceleratorID = op.acceleratorID && lease.workloadID = op.victimWorkloadID &&
    lease.fencingToken = op.fence.toInt64 &&
    op.originalLease.any (fun l => lease.expiresAt.equal l.expiresAt) && lease.expiresAt.after now

def validateLLMDisplacementWorld (victim urgent : Option Workload)
    (currentLease : Option AcceleratorLease) (now : GoTime) : Except GoError Unit :=
  match victim, urgent with
  | some victim, some urgent => firstError
    [(victim.requestID ≠ op.victimWorkloadID || urgent.requestID ≠ op.urgentWorkloadID ||
        victim.requestOwnerID ≠ op.victimOwnerID || urgent.requestOwnerID ≠ op.urgentOwnerID ||
        victim.revision ≠ op.victimWorkloadRevision || urgent.revision ≠ op.urgentWorkloadRevision,
        errLLMDisplacementConflict),
     (!planMatchesBinding op victim op.victimBinding ||
        !planMatchesBinding op urgent op.urgentBinding,
        errLLMDisplacementConflict),
     (!currentLease.any fun lease => leaseMatchesWorld op lease now, errLLMDisplacementConflict)]
    (.ok ())
  | _, _ => .error errLLMDisplacementConflict

/-- The row carries nothing but its intent. -/
def isUnsealedPlan : Bool :=
  op.phase = "planned" && op.commandIntents = [] && op.observedResults = [] &&
    !op.snapshotObserved && op.snapshotIdentity = [] && !op.safeBoundaryObserved &&
    !op.victimStopObserved && !op.urgentLoadObserved && !op.urgentStopObserved &&
    !op.victimReloadObserved && !op.kvRestoreObserved && !op.leaseSettled &&
    !op.snapshotCustodySettled && op.observedProof = [] && op.revision = 0

def withPlannedPhase : LLMDisplacementOperation :=
  if op.phase = [] then { op with phase := "planned" } else op

/-- The row as create stores it, its times canonical. -/
def withDisplacementTimes (now : GoTime) : LLMDisplacementOperation :=
  let createdAt := if op.createdAt.isZero then now.utc.truncateMicrosecond
    else op.createdAt.utc.truncateMicrosecond
  { op with
    createdAt := createdAt
    updatedAt := if op.updatedAt.isZero then createdAt else op.updatedAt.utc.truncateMicrosecond }

def prepareLLMDisplacementCreate (op : Option LLMDisplacementOperation) (now : GoTime) :
    Except GoError LLMDisplacementOperation :=
  match op with
  | none => .error (displacementError "llm displacement identity is incomplete")
  | some op =>
    let out := withPlannedPhase op
    if !isUnsealedPlan out then
      .error (displacementError "llm displacement must begin as unsealed planned intent")
    else
      let out := { out with revision := 1 }
      match validateLLMDisplacementIdentity out with
      | .error e => .error e
      | .ok _ => .ok (withDisplacementTimes out now)

/-! ## Identity -/

/-- The part of a row that describes the displacement. -/
structure DisplacementIdentity where
  (id idempotencyKey ownerID victimWorkloadID victimOwnerID : GoString)
  victimWorkloadRevision : UInt64
  (urgentWorkloadID urgentOwnerID : GoString)
  urgentWorkloadRevision : UInt64
  (acceleratorID nodeID : GoString)
  originalLease : Option AcceleratorLease
  fence : UInt64
  (victimBinding urgentBinding : LLMDisplacementModelBinding)
  proofBinding : GoString
  deriving DecidableEq

def LLMDisplacementOperation.identity (op : LLMDisplacementOperation) : DisplacementIdentity :=
  { op with }

def bindingFields (b : LLMDisplacementModelBinding) : List JSONField :=
  [.string b.targetID, .string b.nodeID, .string b.acceleratorID, .string b.catalogModel,
   .strings b.catalogAliases, .string b.actualAlias, .string b.localPlanID,
   .string b.localPlanHash, .string b.controllerPlanID, .string b.controllerPlanHash,
   .string b.artifactID, .string b.artifactDigest, .string b.runtimeIdentity,
   .string b.profileIdentity, .string b.contextIdentity, .string b.checkpointID,
   .string b.checkpointDigest, .string b.proofBinding]

def leaseFields : Option AcceleratorLease → List JSONField
  | none => [.null]
  | some l => [.string l.acceleratorID, .string l.workloadID, .number l.fencingToken.toInt,
      .time l.expiresAt]

/-- The fields that a row keeps when its mutable fields are cleared. -/
def identityFields (op : LLMDisplacementOperation) : List JSONField :=
  [.string op.id, .string op.idempotencyKey, .string op.ownerID, .string op.victimWorkloadID,
   .string op.victimOwnerID, .number op.victimWorkloadRevision.toNat,
   .string op.urgentWorkloadID, .string op.urgentOwnerID,
   .number op.urgentWorkloadRevision.toNat, .string op.acceleratorID, .string op.nodeID,
   .number op.fence.toNat, .string op.proofBinding] ++
  (bindingFields op.victimBinding ++ (bindingFields op.urgentBinding ++
    leaseFields op.originalLease))

/-- The texts of the rows are compared; a failed `json.Marshal` leaves the empty text. The order of
the fields does not matter. -/
def displacementIdentityEqual (a b : LLMDisplacementOperation) : Bool :=
  marshalRecord (identityFields a) = marshalRecord (identityFields b)

/-! ## Updates -/

/-- The flags a phase requires of the row that enters it. -/
def phaseEvidence (op : LLMDisplacementOperation) : Bool :=
  if op.phase = "safe_boundary_paused" then op.safeBoundaryObserved
  else if op.phase = "snapshot_captured" then
    op.safeBoundaryObserved && op.snapshotObserved && op.snapshotIdentity ≠ []
  else if op.phase = "victim_stopped" then op.victimStopObserved && op.snapshotObserved
  else if op.phase = "urgent_loaded" then op.urgentLoadObserved && op.victimStopObserved
  else if op.phase = "urgent_stopped" then op.urgentStopObserved
  else if op.phase = "victim_reloaded" then op.victimReloadObserved
  else if op.phase = "kv_restored" then op.kvRestoreObserved
  else if op.phase = "settled" then
    op.leaseSettled && op.snapshotCustodySettled && hasDisplacementIntent op "settlement"
  else true

/-- The phase appends the intent of its step and no other. -/
def checkIntentAppend (old new : LLMDisplacementOperation) : Bool × GoError :=
  match displacementIntentStep new.phase with
  | some step =>
    (new.commandIntents.length ≠ old.commandIntents.length + 1 ||
      new.commandIntents.getLast?.map (·.step) ≠ some step,
      errLLMDisplacementConflict.wrapf "phase must append its per-step signed intent")
  | none => (new.commandIntents.length ≠ old.commandIntents.length,
      errLLMDisplacementConflict.wrapf "unexpected command intent append")

/-- The phase appends the result of its step and no other. -/
def checkResultAppend (old new : LLMDisplacementOperation) : Bool × GoError :=
  match displacementResultStep new.phase with
  | some step =>
    (new.observedResults.length ≠ old.observedResults.length + 1 ||
      new.observedResults.getLast?.map (·.step) ≠ some step,
      errLLMDisplacementConflict.wrapf "phase must append its bound observed result")
  | none => (new.observedResults.length ≠ old.observedResults.length,
      errLLMDisplacementConflict.wrapf "unexpected observed result append")

/-- The appended result is bound to a sealed command and to the row's proof. -/
def checkResultBinding (new : LLMDisplacementOperation) : List (Bool × GoError) :=
  match displacementResultStep new.phase, new.observedResults.getLast? with
  | some step, some result =>
    [((!new.commandIntents.any fun c => c.step = step && c.commandID = result.commandID) ||
        result.proofBinding ≠ new.proofBinding,
        errLLMDisplacementConflict.wrapf
          "observed result is not bound to its sealed command and proof"),
     (step = ofString "snapshot" && new.snapshotIdentity ≠ result.resultID,
        errLLMDisplacementConflict.wrapf "snapshot identity differs from authenticated result")]
  | _, _ => []

/-- The checks of the stored row against its replacement. -/
def displacementUpdateChecks (old new : LLMDisplacementOperation) (expected : UInt64) :
    List (Bool × GoError) :=
  [(new.revision ≠ expected, errLLMDisplacementConflict),
   (maxInt64 ≤ expected, errLLMDisplacementConflict),
   (old.revision ≠ expected || expected = 0 || maxInt64 ≤ expected || maxInt64 ≤ old.revision ||
      !displacementIdentityEqual old new || !displacementTransitionAllowed old.phase new.phase,
      errLLMDisplacementConflict),
   (old.snapshotIdentity ≠ [] && new.snapshotIdentity ≠ old.snapshotIdentity,
      errLLMDisplacementConflict.wrapf "snapshot identity is immutable"),
   (((observedFlags old).zip (observedFlags new)).any fun f => f.1.1 && !f.2.1,
      errLLMDisplacementConflict.wrapf "observed boundaries and custody are monotonic"),
   (!old.commandIntents.isPrefixOf new.commandIntents,
      errLLMDisplacementConflict.wrapf "command intent history is immutable"),
   (!old.observedResults.isPrefixOf new.observedResults,
      errLLMDisplacementConflict.wrapf "observed result history is immutable")]

def validateDisplacementUpdate (old new : LLMDisplacementOperation) (expected : UInt64) :
    Except GoError Unit :=
  match validateLLMDisplacementIdentity old with
  | .error e => .error (errLLMDisplacementConflict.wrapf
      ("stored displacement identity is invalid: " ++ e.text))
  | .ok _ => firstError
    (displacementUpdateChecks old new expected ++
      [checkIntentAppend old new, checkResultAppend old new] ++ checkResultBinding new ++
      [(!phaseEvidence new, errLLMDisplacementConflict)])
    (validateLLMDisplacementIdentity { new with revision := new.revision + 1 })

end VramGovernor.Store
