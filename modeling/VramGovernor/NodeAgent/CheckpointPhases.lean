import Mathlib.Data.Fintype.Basic
import VramGovernor.Foundations.Run
import VramGovernor.NodeAgent.State

/-!
# The phases of a checkpoint operation

A checkpoint operation moves through numbered phases, one for each action of the controller. The
processor journals the last phase of every operation and the operation that owns a slot. An action
is authorized against the journal, its runtime call is made, and the phase is committed: every
action but a release records the operation as the owner of its slot, a release deletes the record.

`Authorized` says what an authorization rests on, and `executeCheckpoint_cases` what a command can
do. What the journal does not say is an answer of the environment (`CheckpointAnswers`).
-/

namespace VramGovernor.NodeAgent

open GoString GoMap

/-! ## Actions and phases -/

inductive CheckpointAction
  | slotQuery | slotAssign | start | pause | save | stopConfirm | release | reload | restore
  | reuseVerify | resume | rollbackResume | cancel | continue_ | stateQuery
  deriving DecidableEq, Repr

namespace CheckpointAction

instance : Fintype CheckpointAction where
  elems := {slotQuery, slotAssign, start, pause, save, stopConfirm, release, reload, restore,
    reuseVerify, resume, rollbackResume, cancel, continue_, stateQuery}
  complete := by
    intro action
    cases action <;> decide

def text : CheckpointAction → GoString
  | slotQuery => "slot_query"
  | slotAssign => "slot_assign"
  | start => "start"
  | pause => "pause"
  | save => "save"
  | stopConfirm => "stop_confirm"
  | release => "release"
  | reload => "reload"
  | restore => "restore"
  | reuseVerify => "reuse_verify"
  | resume => "resume"
  | rollbackResume => "rollback_resume"
  | cancel => "cancel"
  | continue_ => "continue"
  | stateQuery => "state_query"

/-- An action that reads the journal and the runtime and changes neither. -/
def isQuery (action : CheckpointAction) : Bool := action = slotQuery || action = stateQuery

end CheckpointAction

def checkpointPhase : CheckpointAction → ℕ
  | .slotAssign => 1
  | .start => 2
  | .pause => 3
  | .save => 4
  | .stopConfirm => 5
  | .release => 6
  | .reload => 9
  | .restore => 10
  | .resume => 11
  | .continue_ => 12
  | .reuseVerify => 13
  | .cancel => 14
  | _ => 0

/-- The phase that an action leads to from a phase that the action `last` led to. -/
def checkpointPhaseFor (phase : ℕ) (last : Option CheckpointAction) (action : CheckpointAction) :
    ℕ :=
  if phase = checkpointPhase .release && action = .slotAssign then 8
  else if phase = checkpointPhase .slotAssign && last = some .slotAssign && action = .reload then
    checkpointPhase .reload
  else if phase = 8 && last = some .slotAssign && action = .slotAssign then 8
  else if phase = 8 && last = some .slotAssign && action = .reload then checkpointPhase .reload
  else if checkpointPhase .slotAssign ≤ phase && phase < checkpointPhase .stopConfirm &&
      action = .stopConfirm then
    checkpointPhase .stopConfirm
  else if phase = checkpointPhase .slotAssign && action = .start then checkpointPhase .start
  else if phase = checkpointPhase .reload && last = some .reload && action = .restore then
    checkpointPhase .restore
  else if phase = checkpointPhase .restore && last = some .restore && action = .resume then
    checkpointPhase .resume
  else if action = .rollbackResume && checkpointPhase .slotAssign ≤ phase &&
      phase < checkpointPhase .continue_ then
    checkpointPhase .resume
  else if phase = checkpointPhase .resume && last = some .resume && action = .continue_ then
    checkpointPhase .continue_
  else if phase = checkpointPhase .continue_ && last = some .continue_ &&
      action = .reuseVerify then
    checkpointPhase .reuseVerify
  else if checkpointPhase .reload ≤ phase && phase < checkpointPhase .cancel &&
      action = .release then
    15
  else if checkpointPhase .resume ≤ phase && phase < checkpointPhase .cancel &&
      action = .cancel then
    checkpointPhase .cancel
  else if phase = checkpointPhase .reuseVerify && last = some .reuseVerify &&
      action = .release then
    15
  else if phase = checkpointPhase .cancel && last = some .cancel && action = .release then 15
  else if phase = 15 && last = some .release && action = .release then 15
  else if phase = checkpointPhase .slotAssign && last = some .slotAssign && action = .release then
    checkpointPhase .release
  else if phase = checkpointPhase .slotAssign && last = some .slotAssign && action = .pause then
    checkpointPhase .pause
  else checkpointPhase action

/-- The phase after the last: the transitions between neighbours. -/
def nextPhaseAllowed (last : Option CheckpointAction) (action : CheckpointAction) : Bool :=
  last = some .start && action = .pause || last = some .pause && action = .save ||
    last = some .save && action = .stopConfirm || last = some .stopConfirm && action = .release

def checkpointNodeTransitionAllowed (phase : ℕ) (last : Option CheckpointAction)
    (action : CheckpointAction) (next : ℕ) : Bool :=
  if phase = 0 then action = .slotAssign && next = checkpointPhase .slotAssign
  else
    next = phase && last = some action ||
    phase = checkpointPhase .slotAssign && last = some .slotAssign && action = .start &&
      next = checkpointPhase .start ||
    phase = checkpointPhase .slotAssign && last = some .slotAssign && action = .pause &&
      next = checkpointPhase .pause ||
    checkpointPhase .slotAssign ≤ phase && phase < checkpointPhase .stopConfirm &&
      action = .stopConfirm && next = checkpointPhase .stopConfirm ||
    checkpointPhase .slotAssign ≤ phase && phase ≤ checkpointPhase .start && action = .release &&
      next = checkpointPhase .release ||
    phase = checkpointPhase .release && action = .slotAssign && next = 8 ||
    phase = checkpointPhase .slotAssign && last = some .slotAssign && action = .reload &&
      next = checkpointPhase .reload ||
    phase = 8 && last = some .slotAssign && action = .reload && next = checkpointPhase .reload ||
    phase = checkpointPhase .reload && action = .restore && next = checkpointPhase .restore ||
    phase = checkpointPhase .restore && action = .resume && next = checkpointPhase .resume ||
    action = .rollbackResume && checkpointPhase .slotAssign ≤ phase &&
      phase < checkpointPhase .continue_ && next = checkpointPhase .resume ||
    phase = checkpointPhase .resume && action = .continue_ && next = checkpointPhase .continue_ ||
    phase = checkpointPhase .continue_ && action = .reuseVerify &&
      next = checkpointPhase .reuseVerify ||
    checkpointPhase .resume ≤ phase && phase < checkpointPhase .cancel && action = .cancel &&
      next = checkpointPhase .cancel ||
    phase = checkpointPhase .cancel && action = .release && next = 15 ||
    checkpointPhase .reload ≤ phase && phase < checkpointPhase .cancel && action = .release &&
      next = 15 ||
    next = phase + 1 && nextPhaseAllowed last action

/-! ## The journal -/

structure CheckpointPhaseState where
  (operationID ownerID workloadID targetID acceleratorID : GoString := [])
  generation : ℕ := 0
  (fence slotID : ℤ := 0)
  phase : ℕ := 0
  action : Option CheckpointAction := none
  (runtimeIdentity modelFingerprint profileFingerprint contextFingerprint : GoString := [])
  (snapshotName snapshotDigest conversationID continuationConversationID : GoString := [])
  deriving DecidableEq

/-- The checkpoint state of the processor: the journal by operation and the owners by slot. -/
structure CheckpointState where
  checkpointPhases : GoMap CheckpointPhaseState := ∅
  checkpointSlots : GoMap GoString := ∅

open CheckpointState

/-- The key of a slot: `targetID + ":" + strconv.Itoa(slotID)`. -/
def slotKey (targetID : GoString) (slotID : ℤ) : GoString := targetID ++ ":" ++ sprint slotID

/-! ## Commands -/

/-- A checkpoint command whose arguments passed `ValidateCheckpointCommandArgs`. -/
structure CheckpointCommand where
  action : CheckpointAction
  (operationID ownerID workloadID targetID acceleratorID model runtimeIdentity : GoString)
  (profileFingerprint contextFingerprint : GoString)
  (generation fencingToken : Option NumberArg)
  slotID : Option NumberArg := none
  (compensationOf snapshotName snapshotDigest conversationID : GoString := [])
  continuationConversationID : GoString := []
  (savedTokens partialOutputOffset : Option NumberArg := none)
  controllerStream : Bool := false
  required : ∀ s ∈ [targetID, model, runtimeIdentity, profileFingerprint, contextFingerprint,
    ownerID, workloadID, operationID, acceleratorID], isBlank s = false

def checkpointArgUint (key : GoString) (arg : Option NumberArg) : Except GoError ℕ :=
  match arg with
  | none => .error ⟨"checkpoint " ++ key ++ " is required", none⟩
  | some value =>
    match exactFenceToken (some value) with
    | .ok n =>
      if 0 < n then .ok n.toNat else .error ⟨"checkpoint " ++ key ++ " must be positive", none⟩
    | .error _ => .error ⟨"checkpoint " ++ key ++ " must be positive", none⟩

namespace CheckpointCommand

variable (c : CheckpointCommand)

/-- The slot that the command names, `-1` for none. -/
def requestedSlot : ℤ :=
  match c.slotID with
  | none => -1
  | some value =>
    match exactFenceToken (some value) with
    | .ok n => n
    | .error _ => -1

/-- The generation and the fence of the command. -/
def fenced : Except GoError (ℕ × ℤ) :=
  if isBlank c.acceleratorID then .error ⟨"checkpoint accelerator identity is required", none⟩
  else
    match checkpointArgUint "generation" c.generation with
    | .error e => .error e
    | .ok generation =>
      match exactFenceToken c.fencingToken with
      | .error _ => .error ⟨"checkpoint fencing_token is invalid", none⟩
      | .ok fence =>
        if fence ≤ 0 then .error ⟨"checkpoint fencing_token is invalid", none⟩
        else if c.operationID = [] ∨ c.ownerID = [] ∨ c.workloadID = [] then
          .error ⟨"checkpoint phase identity is incomplete", none⟩
        else .ok (generation, fence)

end CheckpointCommand

namespace CheckpointPhaseState

variable (st : CheckpointPhaseState) (c : CheckpointCommand)

/-- The identity fields of the journal, each with the argument it is compared with. -/
def identities : List (GoString × GoString) :=
  [(st.runtimeIdentity, c.runtimeIdentity), (st.modelFingerprint, c.model),
    (st.profileFingerprint, c.profileFingerprint), (st.contextFingerprint, c.contextFingerprint),
    (st.snapshotName, c.snapshotName), (st.snapshotDigest, c.snapshotDigest),
    (st.conversationID, c.conversationID),
    (st.continuationConversationID, c.continuationConversationID)].map fun e => (e.1, trimSpace e.2)

def identityMatchesCommand : Bool :=
  (st.identities c).all fun (stored, requested) =>
    stored = [] || requested = [] || requested = stored

def queryMatchesCommand (requestedSlot : ℤ) : Bool :=
  st.identityMatchesCommand c &&
    ((st.identities c).all fun (stored, requested) => requested = [] || requested = stored) &&
    requestedSlot = st.slotID

/-- A trimmed argument replaces a field unless it is empty. -/
def replacing (arg stored : GoString) : GoString :=
  if trimSpace arg = [] then stored else trimSpace arg

def enrich : CheckpointPhaseState :=
  { st with
    runtimeIdentity := replacing c.runtimeIdentity st.runtimeIdentity
    modelFingerprint := replacing c.model st.modelFingerprint
    profileFingerprint := replacing c.profileFingerprint st.profileFingerprint
    contextFingerprint := replacing c.contextFingerprint st.contextFingerprint
    snapshotName := replacing c.snapshotName st.snapshotName
    snapshotDigest := replacing c.snapshotDigest st.snapshotDigest
    conversationID := replacing c.conversationID st.conversationID
    continuationConversationID :=
      replacing c.continuationConversationID st.continuationConversationID }

/-- The journaled operation has the command's owner, workload, resource, generation and fence. -/
def boundTo (generation : ℕ) (fence : ℤ) : Bool :=
  st.ownerID = c.ownerID && st.workloadID = c.workloadID && st.targetID = c.targetID &&
    st.acceleratorID = c.acceleratorID && st.generation = generation && st.fence = fence

end CheckpointPhaseState

/-- The state of an operation that begins. -/
def CheckpointCommand.freshState (c : CheckpointCommand) (generation : ℕ) (fence : ℤ) :
    CheckpointPhaseState :=
  CheckpointPhaseState.enrich
    { operationID := c.operationID
      ownerID := c.ownerID
      workloadID := c.workloadID
      targetID := c.targetID
      acceleratorID := c.acceleratorID
      generation
      fence
      slotID := c.requestedSlot } c

/-! ## Authorization -/

namespace CheckpointState

variable (s : CheckpointState) (c : CheckpointCommand)
  (order : List (Entry CheckpointPhaseState)) (generation : ℕ) (fence : ℤ)

/-- A query answers from the journal; a slot query may come before the operation begins. -/
def authorizeQuery : Except GoError CheckpointPhaseState :=
  match s.checkpointPhases.lookup c.operationID with
  | some st =>
    if !st.boundTo c generation fence then
      .error ⟨"checkpoint query identity or fence changed", none⟩
    else if !st.queryMatchesCommand c c.requestedSlot then
      .error ⟨"checkpoint query runtime identity changed", none⟩
    else .ok st
  | none =>
    if c.action = .slotQuery then .ok (c.freshState generation fence)
    else .error ⟨"not_found: checkpoint operation has no durable phase journal", none⟩

/-- The start of a stream and its continuation, each from one phase. -/
def authorizeStream : Except GoError CheckpointPhaseState :=
  match s.checkpointPhases.lookup c.operationID with
  | none => .error ⟨"checkpoint " ++ c.action.text ++ " is not bound to the operation", none⟩
  | some st =>
    if !st.boundTo c generation fence then
      .error ⟨"checkpoint " ++ c.action.text ++ " is not bound to the operation", none⟩
    else if c.action = .start && st.phase ≠ checkpointPhase .slotAssign then
      .error ⟨"checkpoint start requires an assigned slot", none⟩
    else if c.action = .continue_ && st.phase ≠ checkpointPhase .resume then
      .error ⟨"checkpoint continuation requires the resumed phase", none⟩
    else .ok (st.enrich c)

/-- What a compensation rests on: the operation's own state, or that of the operation it
compensates, under the new name. -/
def linkedState : Option CheckpointPhaseState :=
  match s.checkpointPhases.lookup c.operationID with
  | some st => some st
  | none =>
    if c.compensationOf = [] then none
    else
      (order.find? fun e => e.2.operationID = c.compensationOf).map fun e =>
        { e.2 with operationID := c.operationID }

/-- The compensated state is that of the command, down to the slot. -/
def compensates (st : CheckpointPhaseState) : Bool :=
  c.compensationOf ≠ [] && st.boundTo c generation fence && st.slotID = c.requestedSlot

def authorizeRollback : Except GoError CheckpointPhaseState :=
  match s.linkedState c order with
  | none => .error ⟨"checkpoint rollback identity or fence is invalid", none⟩
  | some st =>
    if !compensates c generation fence st then
      .error ⟨"checkpoint rollback identity or fence is invalid", none⟩
    else if st.phase < checkpointPhase .slotAssign || checkpointPhase .continue_ ≤ st.phase then
      .error ⟨"checkpoint rollback is not legal from phase " ++
        (st.action.map CheckpointAction.text).getD [], none⟩
    else .ok (st.enrich c)

def authorizeCancel : Except GoError CheckpointPhaseState :=
  match s.linkedState c order with
  | none => .error ⟨"checkpoint cancel identity or phase is invalid", none⟩
  | some st =>
    if !compensates c generation fence st || st.phase < checkpointPhase .resume then
      .error ⟨"checkpoint cancel identity or phase is invalid", none⟩
    else .ok (st.enrich c)

/-- The slot that the command names is recorded for another operation. -/
def slotTaken : Bool :=
  0 ≤ c.requestedSlot &&
    match s.checkpointSlots.lookup (slotKey c.targetID c.requestedSlot) with
    | some owner => owner ≠ [] && owner ≠ c.operationID
    | none => false

/-- Another operation of the resource has a slot that the command may get, and no lower fence. -/
def fencedOff : Bool :=
  s.checkpointPhases.entries.any fun e =>
    e.1 ≠ c.operationID && e.2.targetID = c.targetID && e.2.acceleratorID = c.acceleratorID &&
      0 ≤ e.2.slotID && (c.requestedSlot < 0 || c.requestedSlot = e.2.slotID) &&
      e.2.operationID ≠ c.operationID && fence ≤ e.2.fence

/-- The other actions go by the table of transitions. -/
def authorizeTransition : Except GoError CheckpointPhaseState :=
  let last := s.checkpointPhases.lookup c.operationID
  let phase := checkpointPhaseFor (last.elim 0 (·.phase)) (last.bind (·.action)) c.action
  if phase = 0 then .error ⟨"checkpoint phase is unknown", none⟩
  else if s.slotTaken c || s.fencedOff c fence then
    .error ⟨"checkpoint slot is owned by another operation", none⟩
  else
    match last with
    | some st =>
      if !st.boundTo c generation fence then
        .error ⟨"checkpoint phase identity or fence changed", none⟩
      else if !st.identityMatchesCommand c then
        .error ⟨"checkpoint phase runtime identity changed", none⟩
      else if !checkpointNodeTransitionAllowed st.phase st.action c.action phase then
        .error ⟨"checkpoint phase " ++ c.action.text ++ " is out of order after " ++
          (st.action.map CheckpointAction.text).getD [], none⟩
      else if 0 ≤ c.requestedSlot && 0 ≤ st.slotID && c.requestedSlot ≠ st.slotID then
        .error ⟨"checkpoint slot changed within operation", none⟩
      else .ok (st.enrich c)
    | none =>
      if phase ≠ checkpointPhase .slotAssign then
        .error ⟨"checkpoint operation must begin with slot assignment", none⟩
      else .ok (c.freshState generation fence)

def authorizeCheckpointPhase : Except GoError CheckpointPhaseState :=
  match c.fenced with
  | .error e => .error e
  | .ok (generation, fence) =>
    match c.action with
    | .slotQuery | .stateQuery => s.authorizeQuery c generation fence
    | .start | .continue_ => s.authorizeStream c generation fence
    | .rollbackResume => s.authorizeRollback c order generation fence
    | .cancel => s.authorizeCancel c order generation fence
    | _ => s.authorizeTransition c generation fence

end CheckpointState

/-! ## Commits -/

/-- The fields of a result that a commit reads. -/
structure CheckpointResult where
  (snapshotName snapshotDigest : GoString := [])
  slotID : Option ℤ := none

/-- The state that a commit journals. -/
def CheckpointPhaseState.advance (st : CheckpointPhaseState) (action : CheckpointAction)
    (result : CheckpointResult) : CheckpointPhaseState :=
  { st with
    phase := checkpointPhaseFor st.phase st.action action
    action := some action
    snapshotName := if isBlank result.snapshotName then st.snapshotName else result.snapshotName
    snapshotDigest :=
      if isBlank result.snapshotDigest then st.snapshotDigest else result.snapshotDigest
    slotID := result.slotID.getD st.slotID }

def CheckpointPhaseState.slot (st : CheckpointPhaseState) : GoString :=
  slotKey st.targetID st.slotID

def CheckpointState.commitCheckpointPhase (s : CheckpointState) (st : CheckpointPhaseState)
    (action : CheckpointAction) (result : CheckpointResult) : CheckpointState :=
  let st := st.advance action result
  { checkpointPhases := s.checkpointPhases.insert st.operationID st
    checkpointSlots :=
      if action = .release then s.checkpointSlots.erase st.slot
      else if 0 ≤ st.slotID then s.checkpointSlots.insert st.slot st.operationID
      else s.checkpointSlots }

/-! ## Execution -/

/-- A row of the runtime's slot inventory. -/
structure SlotRow where
  id : ℤ
  processing : Bool
  deriving DecidableEq, Repr

/-- `AssignSlot`: the first idle slot, among all of them or the one that is requested. -/
def assignSlot (inventory : List SlotRow) (requested : ℤ) : Option ℤ :=
  (inventory.find? fun row => (requested < 0 || requested = row.id) && !row.processing).map (·.id)

/-- A call of the runtime driver. -/
inductive RuntimeCall
  | querySlots
  | assignSlot (slot : ℤ)
  | pauseAtBoundary (slot : ℤ)
  | startConversation (slot : ℤ)
  | saveKV (slot : ℤ)
  | confirmStopped (slot : ℤ)
  | releaseSlot (slot : ℤ)
  | reload (slot : ℤ)
  | restoreKV (slot : ℤ)
  | verifyReuse (slot : ℤ)
  | resume (slot : ℤ)
  | continueConversation (slot : ℤ)
  deriving DecidableEq, Repr

/-- The call acts on a slot; the others read the inventory. -/
def RuntimeCall.acts (call : RuntimeCall) : Bool := call ≠ querySlots

structure CheckpointAnswers where
  /-- What the configuration objects to before the journal is read. -/
  preflight : Option GoString := none
  /-- The order in which the journal is ranged over. -/
  order : List (Entry CheckpointPhaseState)
  /-- The recorded result of a repeated command. -/
  cached : Option CheckpointPhaseState := none
  /-- The inventory before an assignment and for a query, and the one the assignment reads. -/
  (queried assigned : Except GoString (List SlotRow) := .ok [])
  /-- What the quota or the snapshot on disk objects to before the runtime is called. -/
  refusal : Option GoString := none
  /-- The error of the runtime call. -/
  answer : Option GoString := none
  digest : GoString := []
  /-- What the quota or the manifest objects to after the call. -/
  recorded : Option GoString := none
  /-- The error of the terminal lifecycle of the snapshot. -/
  finalized : Option GoString := none

/-- A runtime call with its result, and with what objects to it afterwards. -/
def CheckpointAnswers.callingThen (o : CheckpointAnswers) (call : RuntimeCall)
    (objection : Option GoString) (result : CheckpointResult) :
    List RuntimeCall × Except GoString CheckpointResult :=
  match o.answer, objection with
  | some e, _ => ([call], .error e)
  | none, some e => ([call], .error e)
  | none, none => ([call], .ok result)

def CheckpointAnswers.calling (o : CheckpointAnswers) (call : RuntimeCall) :
    List RuntimeCall × Except GoString CheckpointResult :=
  o.callingThen call none {}

/-- The runtime calls of a command. -/
def CheckpointCommand.runtimeStage (c : CheckpointCommand) (o : CheckpointAnswers) :
    List RuntimeCall × Except GoString CheckpointResult :=
  let slot := c.requestedSlot
  match c.action with
  | .slotQuery | .stateQuery => ([.querySlots], o.queried.map fun _ => {})
  | .slotAssign =>
    match o.queried with
    | .error e => ([.querySlots], .error e)
    | .ok _ =>
      ([.querySlots, .assignSlot slot],
        match o.assigned with
        | .error e => .error e
        | .ok inventory =>
          match assignSlot inventory slot with
          | none => .error "no authoritative idle llama.cpp slot is available"
          | some assigned => .ok { slotID := some assigned })
  | .pause => o.calling (.pauseAtBoundary slot)
  | .cancel =>
    if c.conversationID = [] then ([], .error "checkpoint cancel requires conversation id")
    else if c.compensationOf = [] ∨ c.compensationOf ≠ c.operationID then
      ([], .error "checkpoint cancel compensation identity is required")
    else o.calling (.pauseAtBoundary slot)
  | .start =>
    if c.conversationID = [] then
      ([], .error "production checkpoint driver lacks conversation start")
    else o.calling (.startConversation slot)
  | .save =>
    match o.refusal with
    | some e => ([], .error e)
    | none =>
      o.callingThen (.saveKV slot) o.recorded
        { snapshotName := c.snapshotName, snapshotDigest := o.digest }
  | .stopConfirm => o.calling (.confirmStopped slot)
  | .release => o.callingThen (.releaseSlot slot) o.recorded {}
  | .reload => o.calling (.reload slot)
  | .restore =>
    match o.refusal with
    | some e => ([], .error e)
    | none => o.calling (.restoreKV slot)
  | .reuseVerify =>
    match exactFenceToken c.savedTokens with
    | .error _ => ([], .error "checkpoint reuse verification requires positive saved_tokens")
    | .ok saved =>
      if saved ≤ 0 then ([], .error "checkpoint reuse verification requires positive saved_tokens")
      else o.calling (.verifyReuse slot)
  | .resume | .rollbackResume =>
    match exactFenceToken c.partialOutputOffset with
    | .error _ => ([], .error "checkpoint resume requires a non-negative partial_output_offset")
    | .ok offset =>
      if offset < 0 then
        ([], .error "checkpoint resume requires a non-negative partial_output_offset")
      else if c.action = .rollbackResume ∧ c.compensationOf = [] then
        ([], .error "checkpoint rollback compensation identity is required")
      else o.calling (.resume slot)
  | .continue_ =>
    if c.controllerStream then
      if c.continuationConversationID = [] then
        ([], .error "production continuation requires conversation id")
      else ([], .ok {})
    else if c.continuationConversationID = [] then
      ([], .error "production checkpoint driver lacks conversation continuation")
    else o.calling (.continueConversation slot)

/-- What a command leaves: the state, its runtime calls and its answer. -/
structure CheckpointOutcome where
  state : CheckpointState
  calls : List RuntimeCall := []
  reply : Except GoString CheckpointPhaseState

/-- The action is at the phase it leads to. -/
def CheckpointPhaseState.replays (st : CheckpointPhaseState) (action : CheckpointAction) : Bool :=
  0 < checkpointPhaseFor st.phase st.action action &&
    st.phase = checkpointPhaseFor st.phase st.action action && st.action = some action

/-- The answer to a repeated action: its recorded result, or, for a release, the journal. -/
def CheckpointPhaseState.replay (st : CheckpointPhaseState) (action : CheckpointAction)
    (o : CheckpointAnswers) : Except GoString CheckpointPhaseState :=
  match o.cached with
  | some recorded => .ok recorded
  | none =>
    if action = .release then .ok st
    else .error "checkpoint phase replay lacks durable result evidence"

def CheckpointAction.commits (action : CheckpointAction) : Bool :=
  0 < checkpointPhase action || action = rollbackResume

def CheckpointState.executeCheckpoint (s : CheckpointState) (c : CheckpointCommand)
    (o : CheckpointAnswers) : CheckpointOutcome :=
  match o.preflight with
  | some e => { state := s, reply := .error e }
  | none =>
    match s.authorizeCheckpointPhase c o.order with
    | .error e => { state := s, reply := .error e.text }
    | .ok st =>
      if st.replays c.action then { state := s, reply := st.replay c.action o }
      else
        match c.runtimeStage o with
        | (calls, .error e) => { state := s, calls, reply := .error e }
        | (calls, .ok result) =>
          if c.action.commits then
            let committed := s.commitCheckpointPhase st c.action result
            let st := (committed.checkpointPhases.lookup c.operationID).getD {}
            { state := committed
              calls
              reply :=
                match o.finalized with
                | some e =>
                  if (c.action = .reuseVerify || c.action = .cancel) && st.snapshotName ≠ [] then
                    .error ("checkpoint ownership terminalization failed: " ++ e)
                  else .ok st
                | none => .ok st }
          else { state := s, calls, reply := .ok st }

/-! ## Restarts -/

/-- One entry of the journal: a slot of two operations goes to the higher fence, then to the earlier
name. -/
def installOwner (latest : GoMap CheckpointPhaseState) (owners : GoMap GoString)
    (e : Entry CheckpointPhaseState) : GoMap GoString :=
  if e.2.slotID < 0 || e.2.action = some .release || e.2.phase = 0 then owners
  else
    match owners.lookup e.2.slot with
    | none => owners.insert e.2.slot e.1
    | some prior =>
      let priorFence := (latest.lookup prior).elim 0 (·.fence)
      if prior ≠ e.1 && (e.2.fence < priorFence || priorFence = e.2.fence && prior < e.1)
        then owners
      else owners.insert e.2.slot e.1

/-- The owners are not saved: a restart finds them in the journal. -/
def rebuildCheckpointSlotOwners (phases : GoMap CheckpointPhaseState)
    (order : List (Entry CheckpointPhaseState)) : GoMap GoString :=
  (order.filter fun e => !isBlank e.1 && e.2.operationID ≠ []).foldl (installOwner phases) ∅

/-! ## What an authorization rests on -/

theorem slotKey_inj {targetID targetID' : GoString} {slotID slotID' : ℤ}
    (h : slotKey targetID slotID = slotKey targetID' slotID') :
    targetID = targetID' ∧ slotID = slotID' := by
  have hcolon (n : ℤ) : (0x3A : UInt8) ∉ sprint n := by
    intro hmem
    rcases mem_sprint hmem with hb | hb
    · exact absurd hb (by decide)
    · exact absurd hb.2 (by decide)
  have hsplit : targetID ++ 0x3A :: sprint slotID = targetID' ++ 0x3A :: sprint slotID' := by
    simpa [slotKey, show ofString ":" = [0x3A] from rfl] using h
  obtain ⟨htarget, hslot⟩ := eq_of_separator_append (hcolon _) (hcolon _) hsplit
  exact ⟨htarget, sprint_injective hslot⟩

/-- One operation at one phase and slot; the fields that an argument replaces may differ. -/
structure CheckpointPhaseState.SameOperation (st st₀ : CheckpointPhaseState) : Prop where
  operationID : st.operationID = st₀.operationID
  targetID : st.targetID = st₀.targetID
  slotID : st.slotID = st₀.slotID
  phase : st.phase = st₀.phase
  action : st.action = st₀.action

theorem CheckpointPhaseState.enrich_sameOperation (st : CheckpointPhaseState)
    (c : CheckpointCommand) : (st.enrich c).SameOperation st :=
  ⟨rfl, rfl, rfl, rfl, rfl⟩

def transitionAllowed (phase : ℕ) (last : Option CheckpointAction) (action : CheckpointAction) :
    Bool :=
  match action with
  | .start => phase = checkpointPhase .slotAssign
  | .continue_ => phase = checkpointPhase .resume
  | _ => checkpointNodeTransitionAllowed phase last action (checkpointPhaseFor phase last action)

/-- What the authorization of a mutation rests on. -/
inductive Authorized (s : CheckpointState) (c : CheckpointCommand)
    (order : List (Entry CheckpointPhaseState)) (st : CheckpointPhaseState) : Prop
  /-- The operation begins with a slot assignment. -/
  | fresh (hl : s.checkpointPhases.lookup c.operationID = none) (ha : c.action = .slotAssign)
      (ht : s.slotTaken c = false) (ho : st.operationID = c.operationID)
      (hc : st.targetID = c.targetID) (hp : st.phase = 0) (hn : st.action = none)
  /-- The operation moves on in the table. -/
  | moves (st₀ : CheckpointPhaseState)
      (hl : s.checkpointPhases.lookup c.operationID = some st₀) (hs : st.SameOperation st₀)
      (hc : st₀.targetID = c.targetID) (ha : c.action ≠ .rollbackResume ∧ c.action ≠ .cancel)
      (hm : transitionAllowed st₀.phase st₀.action c.action = true)
      (ht : c.action = .slotAssign → s.slotTaken c = false)
  /-- A rollback or a cancellation rests on a linked state. -/
  | compensates (st₀ : CheckpointPhaseState) (hl : s.linkedState c order = some st₀)
      (hs : st.SameOperation st₀) (hc : st₀.slot = slotKey c.targetID c.requestedSlot)
      (ha : c.action = .rollbackResume ∧ checkpointPhase .slotAssign ≤ st₀.phase ∧
          st₀.phase < checkpointPhase .continue_ ∨
        c.action = .cancel ∧ checkpointPhase .resume ≤ st₀.phase)

section Authorization

variable {s : CheckpointState} {c : CheckpointCommand}
  {order : List (Entry CheckpointPhaseState)} {st : CheckpointPhaseState} {generation : ℕ}
  {fence : ℤ}

theorem CheckpointPhaseState.boundTo_target (h : st.boundTo c generation fence = true) :
    st.targetID = c.targetID := by
  simp only [boundTo, Bool.and_eq_true, decide_eq_true_eq] at h
  exact h.1.1.1.2

theorem slot_of_compensates (h : compensates c generation fence st = true) :
    st.slot = slotKey c.targetID c.requestedSlot := by
  simp only [compensates, Bool.and_eq_true, decide_eq_true_eq] at h
  rw [CheckpointPhaseState.slot, CheckpointPhaseState.boundTo_target h.1.2, h.2]

theorem authorized_of_stream (ha : c.action = .start ∨ c.action = .continue_)
    (h : s.authorizeStream c generation fence = .ok st) : Authorized s c order st := by
  revert h
  fun_cases authorizeStream s c generation fence with
  | case1 | case2 | case3 | case4 => exact nofun
  | case5 st₀ hl hb hs hc =>
    rintro ⟨⟩
    refine .moves st₀ hl (st₀.enrich_sameOperation c)
      (CheckpointPhaseState.boundTo_target (by simpa using hb)) ?_ ?_ ?_ <;>
      rcases ha with ha | ha <;> simp_all [transitionAllowed]

theorem authorized_of_rollback (ha : c.action = .rollbackResume)
    (h : s.authorizeRollback c order generation fence = .ok st) : Authorized s c order st := by
  revert h
  fun_cases authorizeRollback s c order generation fence with
  | case1 | case2 | case3 => exact nofun
  | case4 st₀ hl hb hp =>
    rintro ⟨⟩
    simp only [Bool.or_eq_true, decide_eq_true_eq, not_or, not_lt, not_le] at hp
    exact .compensates st₀ hl (st₀.enrich_sameOperation c) (slot_of_compensates (by simpa using hb))
      (.inl ⟨ha, hp.1, hp.2⟩)

theorem authorized_of_cancel (ha : c.action = .cancel)
    (h : s.authorizeCancel c order generation fence = .ok st) : Authorized s c order st := by
  revert h
  fun_cases authorizeCancel s c order generation fence with
  | case1 | case2 => exact nofun
  | case3 st₀ hl hb =>
    rintro ⟨⟩
    simp only [Bool.or_eq_true, decide_eq_true_eq, not_or, not_lt] at hb
    exact .compensates st₀ hl (st₀.enrich_sameOperation c)
      (slot_of_compensates (by simpa using hb.1)) (.inr ⟨ha, hb.2⟩)

theorem slotAssign_of_begins :
    ∀ action, checkpointPhaseFor 0 none action = checkpointPhase .slotAssign →
      action = .slotAssign := by
  decide

theorem authorized_of_transition
    (ha : c.action ≠ .rollbackResume ∧ c.action ≠ .cancel ∧ c.action ≠ .start ∧
      c.action ≠ .continue_)
    (h : s.authorizeTransition c generation fence = .ok st) : Authorized s c order st := by
  unfold authorizeTransition at h
  cases hl : s.checkpointPhases.lookup c.operationID with
  | none =>
    simp only [hl, Option.elim_none, Option.bind_none] at h
    split_ifs at h with h0 ht hp
    obtain rfl := Except.ok.inj h
    have htaken : s.slotTaken c = false := by simp_all
    exact .fresh hl (slotAssign_of_begins _ (not_not.1 hp)) htaken rfl rfl rfl rfl
  | some st₀ =>
    simp only [hl, Option.elim_some, Option.bind_some] at h
    split_ifs at h with h0 ht hb hi hm hr
    obtain rfl := Except.ok.inj h
    have htaken : s.slotTaken c = false := by simp_all
    refine .moves st₀ hl (st₀.enrich_sameOperation c)
      (CheckpointPhaseState.boundTo_target (by simpa using hb)) ⟨ha.1, ha.2.1⟩ ?_ fun _ => htaken
    unfold transitionAllowed
    split
    · exact absurd ‹_› ha.2.2.1
    · exact absurd ‹_› ha.2.2.2
    · simpa using hm

/-- **Authorizations.** A mutation is authorized for an operation that begins, for one that moves on
in the table, or as a compensation. -/
theorem authorized_of_ok (h : s.authorizeCheckpointPhase c order = .ok st)
    (hq : c.action.isQuery = false) : Authorized s c order st := by
  unfold authorizeCheckpointPhase at h
  cases hf : c.fenced with
  | error e => simp [hf] at h
  | ok p =>
    simp only [hf] at h
    cases ha : c.action <;> simp only [ha] at h
    case slotQuery | stateQuery => simp [CheckpointAction.isQuery, ha] at hq
    case start => exact authorized_of_stream (.inl ha) h
    case continue_ => exact authorized_of_stream (.inr ha) h
    case rollbackResume => exact authorized_of_rollback ha h
    case cancel => exact authorized_of_cancel ha h
    all_goals exact authorized_of_transition (by simp [ha]) h

end Authorization

/-! ## What a command can do -/

section Execution

variable {s : CheckpointState} {c : CheckpointCommand} {o : CheckpointAnswers}
  {result : CheckpointResult} {st : CheckpointPhaseState}

/-- The command was authorized for the state and is not a repetition. -/
structure Reaches (s : CheckpointState) (c : CheckpointCommand) (o : CheckpointAnswers)
    (st : CheckpointPhaseState) : Prop where
  authorized : s.authorizeCheckpointPhase c o.order = .ok st
  fresh : st.replays c.action = false

/-- The command commits the phase. -/
structure Commits (s : CheckpointState) (c : CheckpointCommand) (o : CheckpointAnswers)
    (st : CheckpointPhaseState) (result : CheckpointResult) : Prop where
  reaches : Reaches s c o st
  commits : c.action.commits = true
  stage : (c.runtimeStage o).2 = .ok result

/-- **What a command does**: its calls, if any, were authorized and are those of its action, and the
journal is kept or gets a phase that was authorized. -/
theorem executeCheckpoint_cases (s : CheckpointState) (c : CheckpointCommand)
    (o : CheckpointAnswers) :
    ((s.executeCheckpoint c o).calls = [] ∨
      ∃ st, Reaches s c o st ∧ (s.executeCheckpoint c o).calls = (c.runtimeStage o).1) ∧
    ((s.executeCheckpoint c o).state = s ∨
      ∃ st result, Commits s c o st result ∧
        (s.executeCheckpoint c o).calls = (c.runtimeStage o).1 ∧
        (s.executeCheckpoint c o).state = s.commitCheckpointPhase st c.action result) := by
  fun_cases executeCheckpoint s c o with
  | case1 | case2 | case3 => exact ⟨.inl rfl, .inl rfl⟩
  | case4 _ st ha hr calls e hstage | case6 _ st ha hr calls result hstage =>
    exact ⟨.inr ⟨st, ⟨ha, by simpa using hr⟩, by rw [hstage]⟩, .inl rfl⟩
  | case5 _ st ha hr calls result hstage hc =>
    have hreach : Reaches s c o st := ⟨ha, by simpa using hr⟩
    exact ⟨.inr ⟨st, hreach, by rw [hstage]⟩,
      .inr ⟨st, result, ⟨hreach, hc, by rw [hstage]⟩, by rw [hstage], rfl⟩⟩

theorem Reaches.authorizedFor (h : Reaches s c o st) (hq : c.action.isQuery = false) :
    Authorized s c o.order st :=
  authorized_of_ok h.authorized hq

theorem isQuery_of_commits : ∀ action : CheckpointAction, action.commits = true →
    action.isQuery = false := by
  decide

theorem Commits.authorizedFor (h : Commits s c o st result) : Authorized s c o.order st :=
  h.reaches.authorizedFor (isQuery_of_commits _ h.commits)

theorem callingThen_eq {call : RuntimeCall} {objection : Option GoString}
    {result' : CheckpointResult} (h : (o.callingThen call objection result).2 = .ok result') :
    result' = result := by
  unfold CheckpointAnswers.callingThen at h
  cases ha : o.answer <;> cases objection <;> simp [ha] at h
  exact h.symm

theorem assignSlot_eq {inventory : List SlotRow} {requested assigned : ℤ}
    (h : assignSlot inventory requested = some assigned) (hr : 0 ≤ requested) :
    assigned = requested := by
  obtain ⟨row, hrow, rfl⟩ := Option.map_eq_some_iff.1 h
  have hmatch := List.find?_some hrow
  simp only [Bool.and_eq_true, Bool.or_eq_true, decide_eq_true_eq] at hmatch
  rcases hmatch.1 with hneg | heq
  · omega
  · exact heq.symm

/-- A slot is assigned by the slot assignment only, from the inventory that it reads. -/
theorem runtimeStage_slotID (h : (c.runtimeStage o).2 = .ok result) :
    (c.action ≠ .slotAssign → result.slotID = none) ∧
      (c.action = .slotAssign → ∃ rows assigned, o.assigned = .ok rows ∧
        assignSlot rows c.requestedSlot = some assigned ∧ result.slotID = some assigned) := by
  revert h
  fun_cases CheckpointCommand.runtimeStage c o with
  | case1 ha | case2 ha =>
    cases o.queried with
    | error e => exact nofun
    | ok rows =>
      rintro ⟨⟩
      simp [ha]
  | case4 slot ha =>
    cases ho : o.assigned with
    | error e => exact nofun
    | ok rows =>
      cases hs : assignSlot rows slot with
      | none => simp [hs]
      | some assigned =>
        simp only [hs]
        rintro ⟨⟩
        exact ⟨absurd ha, fun _ => ⟨rows, assigned, rfl, hs, rfl⟩⟩
  | case5 _ ha | case8 _ ha | case10 _ ha | case12 _ ha | case13 _ ha | case14 _ ha | case15 _ ha
  | case17 _ ha | case20 _ ha | case24 _ ha | case28 _ ha | case32 _ ha =>
    intro h
    simp [callingThen_eq h, ha]
  | case30 ha =>
    rintro ⟨⟩
    simp [ha]
  | _ => exact nofun

end Execution

end VramGovernor.NodeAgent
