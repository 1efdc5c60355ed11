import VramGovernor.NodeAgent.State

/-!
# The journals of stops and relaunches

A displacement takes an accelerator from a victim and gives it back in four steps: the victim is
stopped, the urgent model loaded and stopped, and the victim loaded again. The node keeps a journal
of stops and one of relaunches for each accelerator. A step is admitted against both, recorded as
pending, and acknowledged with the receipt of the supervisor. A command that expires before the
supervisor is called drops its step and puts the fence back.

What the signatures, the pinned keys and the supervisor say is an argument of the calls.
-/

namespace VramGovernor.NodeAgent

open GoString

/-! ## The journals -/

inductive StopStep
  | victimStop | urgentStop
  deriving DecidableEq, Repr

inductive RelaunchStep
  | urgentLoad | victimReload
  deriving DecidableEq, Repr

inductive StepStatus
  | pending | acknowledged
  deriving DecidableEq, Repr

structure OwnedStopStepState where
  (commandID idempotencyKey envelopeSHA256 : GoString)
  status : StepStatus
  receiptSHA256 : GoString := []
  deriving DecidableEq, Repr

/-- The stops of an operation on an accelerator, and the operations seen there, itself among them.
-/
structure OwnedStopOperationState where
  (operationID acceleratorID : GoString)
  fence : ℤ
  recoveryEpoch : GoString
  usedOperationIDs : GoMap Bool
  steps : StopStep → Option OwnedStopStepState
  consumed : usedOperationIDs.lookup operationID = some true

structure PlanRelaunchStepState where
  (commandID idempotencyKey envelopeSHA256 originalEnvelope : GoString)
  status : StepStatus
  (receipt receiptSHA256 : GoString := [])
  deriving DecidableEq, Repr

structure PlanRelaunchOperation where
  (operationID targetID acceleratorID workloadID : GoString)
  workloadRevision : ℤ
  recoveryEpoch : GoString
  fence : ℤ
  (victimCatalogID urgentCatalogID : GoString)
  steps : RelaunchStep → Option PlanRelaunchStepState

def PlanRelaunchOperation.setStep (operation : PlanRelaunchOperation) (step : RelaunchStep)
    (row : Option PlanRelaunchStepState) : PlanRelaunchOperation :=
  { operation with steps := Function.update operation.steps step row }

/-! ## Commands -/

structure StopCommand where
  (id idempotencyKey acceleratorID operationID : GoString)
  step : StopStep
  recoveryEpoch : GoString
  fencingToken : Option NumberArg
  envelopeSHA256 : GoString
  deriving DecidableEq

structure RelaunchCommand where
  (id idempotencyKey : GoString)
  step : RelaunchStep
  (acceleratorID operationID targetID workloadID : GoString)
  workloadRevision : Option NumberArg
  recoveryEpoch : GoString
  fencingToken : Option NumberArg
  catalogID : GoString
  linkedCatalogID : GoString := []
  (priorCommandID priorIdempotencyKey priorReceiptSHA256 envelope envelopeSHA256 : GoString)
  deriving DecidableEq

/-- The value of an argument, zero if it is not an integer. -/
def int64FromArg (arg : Option NumberArg) : ℤ :=
  match exactFenceToken arg with
  | .ok n => n
  | .error _ => 0

/-- The part of the processor that displacements use. Of the pending intents only those of stops are
looked up. -/
structure DisplacementState where
  fences : GoMap ℤ := ∅
  pending : GoMap StopCommand := ∅
  ownedStopOperations : GoMap OwnedStopOperationState := ∅
  planRelaunchOperations : GoMap PlanRelaunchOperation := ∅

/-! ## Stops -/

namespace OwnedStopOperationState

variable (s : OwnedStopOperationState)

def allSettled : Bool :=
  [StopStep.victimStop, .urgentStop].all fun step => (s.steps step).all (·.status = .acknowledged)

def used (operationID : GoString) : Bool := s.usedOperationIDs.lookup operationID = some true

/-- The operation, fence and epoch of an intent. -/
def isOf (c : StopCommand) (token : ℤ) : Bool :=
  s.operationID = c.operationID && s.fence = token && s.recoveryEpoch = c.recoveryEpoch

def setStep (step : StopStep) (row : Option OwnedStopStepState) : OwnedStopOperationState :=
  { s with steps := Function.update s.steps step row }

def markUsed (operationID : GoString) : OwnedStopOperationState :=
  { s with
    usedOperationIDs := s.usedOperationIDs.insert operationID true
    consumed := by
      rw [GoMap.lookup_insert_of]
      split_ifs
      · rfl
      · exact s.consumed }

end OwnedStopOperationState

/-- An operation that has no steps yet, on an accelerator that has seen the given operations. -/
def newStopOperation (c : StopCommand) (token : ℤ) (usedOperationIDs : GoMap Bool) :
    OwnedStopOperationState where
  operationID := c.operationID
  acceleratorID := c.acceleratorID
  fence := token
  recoveryEpoch := c.recoveryEpoch
  usedOperationIDs := usedOperationIDs.insert c.operationID true
  steps := fun _ => none
  consumed := AList.lookup_insert _

namespace DisplacementState

variable (p : DisplacementState)

def stopFence (acceleratorID : GoString) : ℤ := GoMap.get p.fences (ownedStopFenceKey acceleratorID)

def relaunchFence (acceleratorID : GoString) : ℤ :=
  GoMap.get p.fences (checkpointPlanRelaunchFenceKey acceleratorID)

variable (c : StopCommand)

/-- A stop on an accelerator that has an operation. -/
def checkNextStop (token : ℤ) (s : OwnedStopOperationState) : Option GoError :=
  if s.used c.operationID && s.operationID ≠ c.operationID then
    some ⟨"owned stop operation identity was already consumed on this accelerator", none⟩
  else if s.operationID = c.operationID &&
      (s.fence ≠ token || s.recoveryEpoch ≠ c.recoveryEpoch) then
    some ⟨"owned stop operation identity cannot change fence or recovery epoch", none⟩
  else if s.isOf c token then
    if !s.allSettled then some ⟨"owned stop operation has an unresolved earlier step", none⟩
    else if (s.steps c.step).isSome then some ⟨"owned stop operation step was already used", none⟩
    else if c.step = .urgentStop &&
        !(s.steps .victimStop).any (·.status = .acknowledged) then
      some ⟨"urgent stop requires the same-fence victim stop receipt", none⟩
    else none
  else if !s.allSettled || token ≤ p.stopFence c.acceleratorID || c.step ≠ .victimStop then
    some ⟨"new owned stop operation must use a higher fence after prior terminal receipts", none⟩
  else none

/-- A stop on an accelerator, once its identity is complete. -/
def checkStop (token : ℤ) : Option GoError :=
  match p.ownedStopOperations.lookup c.acceleratorID with
  | none =>
    if token ≤ p.stopFence c.acceleratorID || c.step ≠ .victimStop then
      some ⟨"owned stop operation must begin with a fresh victim fence", none⟩
    else none
  | some s => p.checkNextStop c token s

/-- The token of an admissible stop. -/
def checkOwnedStopTransition : Except GoError ℤ :=
  match exactFenceToken c.fencingToken with
  | .error _ => .error ⟨"owned stop accelerator fence identity is incomplete", none⟩
  | .ok token =>
    if c.acceleratorID = [] ∨ c.operationID = [] ∨ c.recoveryEpoch = [] ∨ token ≤ 0 then
      .error ⟨"owned stop accelerator fence identity is incomplete", none⟩
    else
      match p.checkStop c token with
      | some e => .error e
      | none => .ok token

/-- The operation that a step is recorded under: the current one, or a new one that takes over what
the accelerator has seen. -/
def stopOperationFor (token : ℤ) : OwnedStopOperationState :=
  match p.ownedStopOperations.lookup c.acceleratorID with
  | none => newStopOperation c token ∅
  | some s =>
    if s.isOf c token then s.markUsed c.operationID else newStopOperation c token s.usedOperationIDs

def recordOwnedStopStep (token : ℤ) (status : StepStatus)
    (receiptSHA256 : GoString) : Except GoError DisplacementState :=
  let s := p.stopOperationFor c token
  if (s.steps c.step).any fun prior => prior.commandID ≠ c.id ||
      prior.idempotencyKey ≠ c.idempotencyKey || prior.envelopeSHA256 ≠ c.envelopeSHA256 then
    .error ⟨"owned stop step identity was already bound", none⟩
  else
    .ok { p with
      ownedStopOperations := p.ownedStopOperations.insert c.acceleratorID
        (s.setStep c.step (some
          { commandID := c.id
            idempotencyKey := c.idempotencyKey
            envelopeSHA256 := c.envelopeSHA256
            status
            receiptSHA256 })) }

def dropOwnedStopStep : DisplacementState :=
  match p.ownedStopOperations.lookup c.acceleratorID with
  | none => p
  | some s =>
    if (s.steps c.step).any fun prior => prior.commandID = c.id && prior.status = .pending then
      { p with
        ownedStopOperations :=
          p.ownedStopOperations.insert c.acceleratorID (s.setStep c.step none) }
    else p

/-! ## Relaunches -/

/-- The stop that a relaunch step follows. -/
def priorStopStep : RelaunchStep → StopStep
  | .urgentLoad => .victimStop
  | .victimReload => .urgentStop

/-- The stop names the command, the key and the receipt that the relaunch names. -/
def isPrior (c : RelaunchCommand) (prior : OwnedStopStepState) : Bool :=
  prior.status = .acknowledged && prior.commandID = c.priorCommandID &&
    prior.idempotencyKey = c.priorIdempotencyKey && prior.receiptSHA256 = c.priorReceiptSHA256

/-- The current stop operation of the accelerator is the command's, under its fence. -/
def linkedStop (c : RelaunchCommand) : Option OwnedStopOperationState :=
  (p.ownedStopOperations.lookup c.acceleratorID).filter fun stop =>
    stop.operationID = c.operationID && stop.acceleratorID = c.acceleratorID &&
      stop.recoveryEpoch = c.recoveryEpoch && stop.fence = int64FromArg c.fencingToken &&
      p.stopFence c.acceleratorID = int64FromArg c.fencingToken

def checkUrgentLoad (c : RelaunchCommand) : Option GoError :=
  let fence := int64FromArg c.fencingToken
  if 0 < p.relaunchFence c.acceleratorID && fence ≤ p.relaunchFence c.acceleratorID then
    some ⟨"urgent-load fence does not advance the prior plan relaunch operation", none⟩
  else
    match p.planRelaunchOperations.lookup c.acceleratorID with
    | none => none
    | some operation =>
      if operation.operationID = c.operationID ||
          !(operation.steps .victimReload).any (·.status = .acknowledged) ||
          fence ≤ operation.fence then
        some ⟨"urgent-load step is duplicate or the prior plan relaunch operation is unresolved",
          none⟩
      else none

/-- The relaunch operation is the one that the victim's reload completes. -/
def reloads (operation : PlanRelaunchOperation) (c : RelaunchCommand) : Bool :=
  operation.operationID = c.operationID && operation.fence = int64FromArg c.fencingToken &&
    operation.recoveryEpoch = c.recoveryEpoch && operation.targetID = c.targetID &&
    operation.workloadID = c.workloadID &&
    operation.workloadRevision = int64FromArg c.workloadRevision &&
    operation.victimCatalogID = c.catalogID

variable (c : RelaunchCommand)

def checkVictimReload : Option GoError :=
  match (p.planRelaunchOperations.lookup c.acceleratorID).filter (reloads · c) with
  | none =>
    some ⟨"victim reload does not match the journaled operation and approved victim catalog", none⟩
  | some operation =>
    if p.relaunchFence c.acceleratorID ≠ int64FromArg c.fencingToken ||
        !(operation.steps .urgentLoad).any
          fun urgent => urgent.status = .acknowledged && urgent.commandID ≠ [] then
      some ⟨"victim reload requires an acknowledged urgent-load receipt", none⟩
    else if (operation.steps .victimReload).isSome then
      some ⟨"victim reload step was already used", none⟩
    else none

def checkPlanRelaunchTransition : Option GoError :=
  match p.linkedStop c with
  | none =>
    some ⟨"plan relaunch is not linked to the current durable accelerator operation fence", none⟩
  | some stop =>
    if !(stop.steps (priorStopStep c.step)).any (isPrior c) then
      some ⟨"plan relaunch requires the exact acknowledged predecessor receipt", none⟩
    else
      match c.step with
      | .urgentLoad => p.checkUrgentLoad c
      | .victimReload => p.checkVictimReload c

/-- The operation that an urgent load begins. -/
def newRelaunchOperation (token : ℤ) : PlanRelaunchOperation where
  operationID := c.operationID
  targetID := c.targetID
  acceleratorID := c.acceleratorID
  workloadID := c.workloadID
  workloadRevision := int64FromArg c.workloadRevision
  recoveryEpoch := c.recoveryEpoch
  fence := token
  victimCatalogID := c.linkedCatalogID
  urgentCatalogID := c.catalogID
  steps := fun _ => none

/-- The operation that a relaunch step is recorded under. -/
def relaunchOperationFor (token : ℤ) (status : StepStatus) : Except GoError PlanRelaunchOperation :=
  match p.planRelaunchOperations.lookup c.acceleratorID with
  | none =>
    if c.step ≠ .urgentLoad || status ≠ .pending then
      .error ⟨"plan relaunch operation must begin with urgent load", none⟩
    else .ok (newRelaunchOperation c token)
  | some operation =>
    if c.step = .urgentLoad && operation.operationID ≠ c.operationID then
      if !(operation.steps .victimReload).any (·.status = .acknowledged) ||
          token ≤ operation.fence then
        .error ⟨"new plan relaunch operation cannot replace an unresolved predecessor", none⟩
      else .ok (newRelaunchOperation c token)
    else .ok operation

/-- The step keeps the identity of its operation. -/
def keepsIdentity (operation : PlanRelaunchOperation) (c : RelaunchCommand) (token : ℤ) : Bool :=
  operation.operationID = c.operationID && operation.acceleratorID = c.acceleratorID &&
    operation.fence = token && operation.recoveryEpoch = c.recoveryEpoch &&
    operation.targetID = c.targetID && operation.workloadID = c.workloadID &&
    operation.workloadRevision = int64FromArg c.workloadRevision

/-- The row of a step; the digest is stored with a receipt. -/
def relaunchRow (c : RelaunchCommand) (status : StepStatus) (receipt receiptSHA256 : GoString) :
    PlanRelaunchStepState where
  commandID := c.id
  idempotencyKey := c.idempotencyKey
  envelopeSHA256 := c.envelopeSHA256
  originalEnvelope := c.envelope
  status := status
  receipt := receipt
  receiptSHA256 := if receipt = [] then [] else receiptSHA256

def recordPlanRelaunchStep (c : RelaunchCommand) (token : ℤ) (status : StepStatus)
    (receipt receiptSHA256 : GoString) : Except GoError DisplacementState :=
  match p.relaunchOperationFor c token status with
  | .error e => .error e
  | .ok operation =>
    if !keepsIdentity operation c token then
      .error ⟨"plan relaunch step changed its durable operation identity", none⟩
    else if c.step = .urgentLoad && (operation.urgentCatalogID ≠ c.catalogID ||
        operation.victimCatalogID ≠ c.linkedCatalogID) then
      .error ⟨"urgent-load catalog linkage changed", none⟩
    else if c.step = .victimReload && operation.victimCatalogID ≠ c.catalogID then
      .error ⟨"victim-reload catalog differs from the original victim catalog", none⟩
    else if (operation.steps c.step).any fun prior => prior.commandID ≠ c.id ||
        prior.idempotencyKey ≠ c.idempotencyKey || prior.envelopeSHA256 ≠ c.envelopeSHA256 ||
        prior.originalEnvelope ≠ c.envelope then
      .error ⟨"plan relaunch step identity was already bound", none⟩
    else
      .ok { p with
        planRelaunchOperations := p.planRelaunchOperations.insert c.acceleratorID
          (operation.setStep c.step (some (relaunchRow c status receipt receiptSHA256))) }

def dropPlanRelaunchStep (c : RelaunchCommand) : DisplacementState :=
  match p.planRelaunchOperations.lookup c.acceleratorID with
  | none => p
  | some operation =>
    if !(operation.steps c.step).any
        fun step => step.commandID = c.id && step.status = .pending then
      p
    else
      let left := operation.setStep c.step none
      { p with
        planRelaunchOperations :=
          if c.step = .urgentLoad && (left.steps .urgentLoad).isNone &&
              (left.steps .victimReload).isNone then
            p.planRelaunchOperations.erase c.acceleratorID
          else p.planRelaunchOperations.insert c.acceleratorID left }

/-! ## Queries -/

/-- A query about a stop: the original it names. -/
structure StopQuery where
  (originalCommandID originalIdempotencyKey originalEnvelopeSHA256 : GoString)
  deriving DecidableEq

/-- The pending original of a stop query, with its step. The signature, the key and the other
arguments are compared before. -/
def ownedStopQueryMatchesPending (q : StopQuery) : Option StopCommand :=
  (p.pending.lookup q.originalCommandID).filter fun c =>
    c.id = q.originalCommandID && c.idempotencyKey = q.originalIdempotencyKey &&
      c.envelopeSHA256 = q.originalEnvelopeSHA256 &&
      match p.ownedStopOperations.lookup c.acceleratorID with
      | none => false
      | some s =>
        s.used c.operationID && s.operationID = c.operationID &&
          s.fence = int64FromArg c.fencingToken && s.recoveryEpoch = c.recoveryEpoch &&
          (s.steps c.step).any fun step => step.commandID = c.id &&
            step.idempotencyKey = c.idempotencyKey && step.envelopeSHA256 = c.envelopeSHA256

/-- A query about a relaunch: the step and the original it names. -/
structure RelaunchQuery where
  (acceleratorID operationID : GoString)
  step : RelaunchStep
  (originalCommandID originalEnvelopeSHA256 : GoString)
  deriving DecidableEq

/-- The journaled step that a relaunch query is about. -/
def queriedStep (q : RelaunchQuery) : Option (PlanRelaunchOperation × PlanRelaunchStepState) :=
  match p.planRelaunchOperations.lookup q.acceleratorID with
  | none => none
  | some operation =>
    match operation.steps q.step with
    | none => none
    | some step =>
      if operation.operationID = q.operationID && step.commandID = q.originalCommandID &&
          step.envelopeSHA256 = q.originalEnvelopeSHA256 then
        some (operation, step)
      else none

/-- `settlePlanRelaunchQuery`, for a receipt that was verified against the original. -/
def settlePlanRelaunchQuery (q : RelaunchQuery) (receipt receiptSHA256 : GoString) :
    DisplacementState × Option PlanRelaunchOperation :=
  match p.queriedStep q with
  | none => (p, none)
  | some (operation, step) =>
    if receipt = [] || step.status = .acknowledged then (p, none)
    else
      ({ p with
        pending := p.pending.erase step.commandID
        planRelaunchOperations := p.planRelaunchOperations.insert q.acceleratorID
          (operation.setStep q.step
            (some { step with status := .acknowledged, receipt, receiptSHA256 })) },
        some operation)

end DisplacementState

/-! ## Calls -/

/-- A step of the displacement of an accelerator. -/
inductive DisplacementStepName
  | stop (step : StopStep)
  | relaunch (step : RelaunchStep)
  deriving DecidableEq, Repr

structure StepID where
  (acceleratorID operationID : GoString)
  fence : ℤ
  recoveryEpoch : GoString
  step : DisplacementStepName
  deriving DecidableEq, Repr

/-- What happens to a step. An admission carries the receipt that the command names. -/
inductive DisplacementEvent
  | admitted (id : StepID) (prior : GoString)
  | acknowledged (id : StepID) (receiptSHA256 : GoString)
  | dropped (id : StepID)
  deriving DecidableEq, Repr

def StopCommand.stepID (c : StopCommand) (token : ℤ) : StepID :=
  ⟨c.acceleratorID, c.operationID, token, c.recoveryEpoch, .stop c.step⟩

def RelaunchCommand.stepID (c : RelaunchCommand) (token : ℤ) : StepID :=
  ⟨c.acceleratorID, c.operationID, token, c.recoveryEpoch, .relaunch c.step⟩

/-- An admitted command expires before the supervisor is called, has no verified answer, or is
acknowledged by a receipt. -/
inductive SupervisorAnswer
  | expired
  | unanswered (retained : Bool)
  | receipt (bytes sha256 : GoString)
  deriving DecidableEq, Repr

namespace DisplacementState

variable (p : DisplacementState)

/-- The fence of a command that is taken back. -/
def restoreFence (key : GoString) (previous : Option ℤ) : DisplacementState :=
  { p with
    fences := match previous with
      | some token => p.fences.insert key token
      | none => p.fences.erase key }

/-- The end of a stop. Its intent is kept if the supervisor may have acted without an answer, and
put back if the last save fails. -/
def closeStop (c : StopCommand) (retained saved : Bool) : DisplacementState :=
  { p with pending := if retained || !saved then p.pending.insert c.id c else p.pending.erase c.id }

/-- A stop is checked, the fence raised and the step recorded, before the supervisor is called. -/
def handleStop (c : StopCommand) (answer : SupervisorAnswer) (saved : Bool) :
    DisplacementState × List DisplacementEvent :=
  match p.checkOwnedStopTransition c with
  | .error _ => (p, [])
  | .ok token =>
    let key := ownedStopFenceKey c.acceleratorID
    let raised := { p with
      fences := p.fences.insert key token
      pending := p.pending.insert c.id c }
    match raised.recordOwnedStopStep c token .pending [] with
    | .error _ => ((raised.restoreFence key (p.fences.lookup key)).closeStop c false saved, [])
    | .ok recorded =>
      let admitted := DisplacementEvent.admitted (c.stepID token) []
      match answer with
      | .expired =>
        let restored := recorded.restoreFence key (p.fences.lookup key)
        ((restored.dropOwnedStopStep c).closeStop c false saved,
          [admitted, .dropped (c.stepID token)])
      | .unanswered retained => (recorded.closeStop c retained saved, [admitted])
      | .receipt _ sha256 =>
        match recorded.recordOwnedStopStep c token .acknowledged sha256 with
        | .error _ => (recorded.closeStop c true saved, [admitted])
        | .ok settled =>
          (settled.closeStop c false saved, [admitted, .acknowledged (c.stepID token) sha256])

/-- A stop query that found the receipt of its original. -/
def handleStopQuery (q : StopQuery) (sha256 : GoString) :
    DisplacementState × List DisplacementEvent :=
  match p.ownedStopQueryMatchesPending q with
  | none => (p, [])
  | some c =>
    let token := int64FromArg c.fencingToken
    match p.recordOwnedStopStep c token .acknowledged sha256 with
    | .error _ => (p, [])
    | .ok settled =>
      ({ settled with pending := settled.pending.erase c.id },
        [.acknowledged (c.stepID token) sha256])

/-- A relaunch command. Its intent takes the place of a stop's under the same id. -/
def handleRelaunch (c : RelaunchCommand) (answer : SupervisorAnswer) :
    DisplacementState × List DisplacementEvent :=
  match fenceTokenFrom 1 ⟨"plan relaunch fence or recovery epoch is invalid", none⟩
      c.fencingToken, p.checkPlanRelaunchTransition c with
  | .ok token, none =>
    let key := checkpointPlanRelaunchFenceKey c.acceleratorID
    let raised := { p with
      fences := p.fences.insert key token
      pending := p.pending.erase c.id }
    match raised.recordPlanRelaunchStep c token .pending [] [] with
    | .error _ => ((raised.dropPlanRelaunchStep c).restoreFence key (p.fences.lookup key), [])
    | .ok recorded =>
      let admitted := DisplacementEvent.admitted (c.stepID token) c.priorReceiptSHA256
      match answer with
      | .expired =>
        ((recorded.restoreFence key (p.fences.lookup key)).dropPlanRelaunchStep c,
          [admitted, .dropped (c.stepID token)])
      | .unanswered _ => (recorded, [admitted])
      | .receipt bytes sha256 =>
        if bytes = [] then (recorded, [admitted])
        else
          match recorded.recordPlanRelaunchStep c token .acknowledged bytes sha256 with
          | .error _ => (recorded, [admitted])
          | .ok settled => (settled, [admitted, .acknowledged (c.stepID token) sha256])
  | _, _ => (p, [])

/-- A relaunch query that found the receipt of its original. -/
def handleRelaunchQuery (q : RelaunchQuery) (bytes sha256 : GoString) :
    DisplacementState × List DisplacementEvent :=
  let settled := p.settlePlanRelaunchQuery q bytes sha256
  (settled.1, settled.2.toList.map fun operation =>
    .acknowledged ⟨q.acceleratorID, operation.operationID, operation.fence,
      operation.recoveryEpoch, .relaunch q.step⟩ sha256)

end DisplacementState

inductive DisplacementCall
  | stop (c : StopCommand) (answer : SupervisorAnswer) (saved : Bool)
  | stopQuery (q : DisplacementState.StopQuery) (sha256 : GoString)
  | relaunch (c : RelaunchCommand) (answer : SupervisorAnswer)
  | relaunchQuery (q : DisplacementState.RelaunchQuery) (bytes sha256 : GoString)

/-- The state after a call, with what happened in it. -/
def DisplacementCall.exec (p : DisplacementState) :
    DisplacementCall → DisplacementState × List DisplacementEvent
  | .stop c answer saved => p.handleStop c answer saved
  | .stopQuery q sha256 => p.handleStopQuery q sha256
  | .relaunch c answer => p.handleRelaunch c answer
  | .relaunchQuery q bytes sha256 => p.handleRelaunchQuery q bytes sha256

end VramGovernor.NodeAgent
