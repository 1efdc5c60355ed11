import VramGovernor.Foundations.GoError
import VramGovernor.Foundations.GoTime

/-!
# Domain records

The records of `internal/domain` that the store and the manager exchange, with the fields that the
modelled functions read.
-/

namespace VramGovernor

def errNotFound : GoError := .sentinel "store: not found"

/-- The handle of a backend execution, as far as the store reads it. -/
structure ExecutionHandle where
  externalID : GoString := []
  deriving DecidableEq, Repr

/-- `AcceleratorLease`: the durable claim of a workload on an accelerator. -/
structure AcceleratorLease where
  (acceleratorID workloadID : GoString := [])
  fencingToken : Int64 := 0
  expiresAt : GoTime := {}
  deriving DecidableEq

/-- The plan a workload was admitted with. -/
structure ExecutionPlan where
  (id workloadID planHash targetID acceleratorID : GoString := [])
  (estimatedCostCents inputCentsPerMTok outputCentsPerMTok : Int64 := 0)
  deriving DecidableEq

/-- `WorkloadStatus`. -/
inductive WorkloadStatus
  | queued
  | waiting
  | rejected
  | pendingApproval
  | running
  | succeeded
  | failed
  | cancelled
  deriving DecidableEq

def isTerminalWorkloadStatus : WorkloadStatus → Bool
  | .succeeded | .failed | .rejected | .cancelled => true
  | _ => false

/-- The counts in the `usage` object of an inline output; zero when the output is no such response.
-/
structure TokenUsage where
  (promptTokens completionTokens : Int64 := 0)
  deriving DecidableEq

/-- A workload row, as far as the modelled functions read it. -/
structure Workload where
  (requestID requestOwnerID requestIdempotencyKey requestPrincipalID : GoString := [])
  revision : UInt64 := 0
  plan : Option ExecutionPlan := none
  progressNode : GoString := []
  status : WorkloadStatus := .queued
  cancellationOwner : GoString := []
  updatedAt : GoTime := {}
  finishedAt : Option GoTime := none
  inlineUsage : TokenUsage := {}
  actualCostCents : Int64 := 0
  budgetReservationToken : GoString := []
  budgetReservationAttempt : UInt64 := 0
  (budgetReservationCents budgetReservationLimitCents : Int64 := 0)
  (budgetReservationCurrency budgetCleanupToken : GoString := [])
  budgetCleanupAttempt : UInt64 := 0
  budgetSettlementPending : Bool := false
  budgetSettlementAttempt : UInt64 := 0
  budgetSettlementActualCents : Int64 := 0
  deriving DecidableEq

/-- Durable ownership of a lease release that could not be completed synchronously. -/
structure AcceleratorLeaseCleanupIntent where
  (acceleratorID owner : GoString := [])
  fencingToken : Int64 := 0
  workloadID : GoString := []
  expectedWorkloadRevision : UInt64 := 0
  (terminalDisposition terminalErrorCode : GoString := [])
  (releaseConfirmed terminalPublished auditPublished notificationPublished : Bool := false)
  budgetSettled : Bool := false
  attempts : ℤ := 0
  lastError : GoString := []
  (createdAt updatedAt : GoTime := {})
  nextRetryAt : Option GoTime := none
  deriving DecidableEq

end VramGovernor
