import VramGovernor.Store.Budget
import VramGovernor.Workloads.RowMutation

/-!
# Budget intents of workload rows

A row that is linked to a budget claim can carry two durable intents. A cleanup intent is recorded
before the claim is released, and the row is unlinked after it. A settlement intent says what the
claim is to be settled with, and is cleared after that. The stages have names because other callers
can come between them.

The intent of a terminal row is made for every terminal status, and cleared for three of the four:
the retry of a rejected row leaves it (`settlement_retry_clears_iff`).
-/

namespace VramGovernor.Workloads

open GoString Store

def statusText : WorkloadStatus → GoString
  | .queued => "queued"
  | .waiting => "waiting"
  | .rejected => "rejected"
  | .pendingApproval => "pending_approval"
  | .running => "running"
  | .succeeded => "succeeded"
  | .failed => "failed"
  | .cancelled => "cancelled"

/-- `replaceWorkloadCAS` where only its error matters. -/
def replaceRow (m : BudgetStore) (desired : Workload) (allowed : List WorkloadStatus)
    (owner : GoString) : BudgetStore × Except GoError Unit :=
  let r := replaceWorkloadCAS m.toMemoryStore desired allowed owner
  ({ m with toMemoryStore := r.1 }, r.2.map fun _ => ())

/-! ## The cleanup intent -/

/-- The statuses of a row whose claim can be released. -/
def cleanupStatuses : List WorkloadStatus := [.queued, .waiting, .pendingApproval]

/-- What a release without a recorded intent asks of the row. -/
def cleanupAllowed (latest : Workload) (token : GoString) (attempt : UInt64) :
    Except GoError Unit :=
  firstError
    [(latest.budgetReservationToken = [],
        ⟨"budget claim has no safe durable workload linkage", none⟩),
     (latest.budgetReservationToken ≠ token || latest.budgetReservationAttempt ≠ attempt,
        ⟨"budget claim token is owned by another admission attempt", none⟩),
     (latest.cancellationOwner ≠ [], ⟨"budget claim is owned by cancellation flow", none⟩),
     (latest.status ∉ cleanupStatuses,
        ⟨"budget claim cannot be released from workload status " ++
          statusText latest.status, none⟩)]
    (.ok ())

def withCleanup (latest : Workload) (token : GoString) (attempt : UInt64) (now : GoTime) :
    Workload :=
  { latest with
    budgetCleanupToken := token
    budgetCleanupAttempt := attempt
    updatedAt := now.utc }

/-- **First stage**: the intent is recorded, or found recorded; no row goes on if there is nothing
to release. -/
def recordCleanup (m : BudgetStore) (workloadID token : GoString) (attempt : UInt64)
    (now : GoTime) : BudgetStore × Except GoError (Option Workload) :=
  if token = [] then (m, .ok none)
  else
    match getWorkload m.toMemoryStore workloadID with
    | .error e => (m, .error e)
    | .ok latest =>
      if latest.budgetCleanupToken ≠ [] then
        if latest.budgetCleanupToken ≠ token || latest.budgetCleanupAttempt ≠ attempt then
          (m, .error ⟨"budget cleanup intent belongs to another attempt", none⟩)
        else (m, .ok (some latest))
      else
        match cleanupAllowed latest token attempt with
        | .error e => (m, .error e)
        | .ok () =>
          let recorded := withCleanup latest token attempt now
          let r := replaceRow m recorded cleanupStatuses latest.cancellationOwner
          (r.1, r.2.map fun _ => some recorded)

/-- **Second stage**: the claim of the intent is released. The result says whether there is a third.
-/
def releaseForCleanup (m : BudgetStore) (w : Workload) (now : GoTime) :
    BudgetStore × Except GoError Bool :=
  if w.budgetCleanupToken = [] || w.budgetCleanupAttempt = 0 then (m, .ok false)
  else if w.budgetReservationToken ≠ [] &&
      (w.budgetReservationToken ≠ w.budgetCleanupToken ||
        w.budgetReservationAttempt ≠ w.budgetCleanupAttempt) then
    (m, .error ⟨"budget cleanup intent does not match published reservation", none⟩)
  else
    match releaseBudgetClaim m w.requestID w.budgetCleanupToken w.budgetCleanupAttempt now with
    | (m', some e) => (m', .error e)
    | (m', none) => (m', .ok true)

def withoutLink (latest : Workload) (now : GoTime) : Workload :=
  { latest with
    budgetReservationToken := []
    budgetReservationAttempt := 0
    budgetCleanupToken := []
    budgetCleanupAttempt := 0
    updatedAt := now.utc }

/-- **Third stage**: the row is unlinked. -/
def unlinkBudget (m : BudgetStore) (w : Workload) (now : GoTime) :
    BudgetStore × Except GoError Unit :=
  match getWorkload m.toMemoryStore w.requestID with
  | .error e => (m, .error e)
  | .ok latest =>
    if latest.budgetCleanupToken ≠ w.budgetCleanupToken ||
        latest.budgetCleanupAttempt ≠ w.budgetCleanupAttempt then
      (m, .error ⟨"budget cleanup intent changed during release", none⟩)
    else replaceRow m (withoutLink latest now) cleanupStatuses latest.cancellationOwner

def retryBudgetCleanupIntent (m : BudgetStore) (w : Workload) (now : GoTime) :
    BudgetStore × Except GoError Unit :=
  match releaseForCleanup m w now with
  | (m', .error e) => (m', .error e)
  | (m', .ok false) => (m', .ok ())
  | (m', .ok true) => unlinkBudget m' w now

def releaseBudgetClaimAfterWorkloadCAS (m : BudgetStore) (workloadID token : GoString)
    (attempt : UInt64) (now : GoTime) : BudgetStore × Except GoError Unit :=
  match recordCleanup m workloadID token attempt now with
  | (m', .error e) => (m', .error e)
  | (m', .ok none) => (m', .ok ())
  | (m', .ok (some w)) => retryBudgetCleanupIntent m' w now

/-! ## The settlement intent -/

def nothingToSettle (w : Workload) : Bool :=
  !w.budgetSettlementPending || w.budgetReservationToken = [] || w.budgetSettlementAttempt = 0

def withoutSettlement (latest : Workload) (now : GoTime) : Workload :=
  { latest with
    budgetSettlementPending := false
    budgetSettlementAttempt := 0
    budgetSettlementActualCents := 0
    updatedAt := now.utc }

/-- The intent is cleared after its claim is settled. -/
def clearSettlement (m : BudgetStore) (w : Workload) (now : GoTime) :
    BudgetStore × Except GoError Unit :=
  match getWorkload m.toMemoryStore w.requestID with
  | .error e => (m, .error e)
  | .ok latest =>
    if latest.budgetReservationToken ≠ w.budgetReservationToken ||
        latest.budgetReservationAttempt ≠ w.budgetSettlementAttempt then
      (m, .error ⟨"budget settlement intent changed during settlement", none⟩)
    else
      replaceRow m (withoutSettlement latest now) [.succeeded, .failed, .cancelled]
        latest.cancellationOwner

def retryBudgetSettlementIntent (m : BudgetStore) (w : Workload) (now : GoTime) :
    BudgetStore × Except GoError Unit :=
  if nothingToSettle w then (m, .ok ())
  else
    match settleBudgetClaim m w.requestID w.budgetReservationToken w.budgetSettlementAttempt
      w.budgetSettlementActualCents now with
    | (m', .error e) => (m', .error e)
    | (m', .ok _) => clearSettlement m' w now

/-! ## The retry of a settlement -/

/-- A terminal row with the pending settlement of its own claim, reserved or settled with that
amount. -/
structure SettlementDue (m : BudgetStore) (w : Workload) (c : BudgetReservation) : Prop where
  row : m.workloads.lookup w.requestID = some w
  terminal : isTerminalWorkloadStatus w.status = true
  pending : w.budgetSettlementPending = true
  token : w.budgetReservationToken ≠ []
  attempt : w.budgetReservationAttempt ≠ 0
  own : w.budgetSettlementAttempt = w.budgetReservationAttempt
  claim : m.budgets.lookup w.requestID = some c
  owned : c.ownershipToken = w.budgetReservationToken ∧ c.attempt = w.budgetReservationAttempt
  claimOpen : c.status = .reserved ∨
    c.status = .settled ∧ c.actualCents = w.budgetSettlementActualCents

section Retry

variable {m : BudgetStore} {w : Workload} {c : BudgetReservation} {now : GoTime}

section

variable (h : SettlementDue m w c)
include h

theorem SettlementDue.ownedBy :
    c.ownedBy w.budgetReservationToken w.budgetSettlementAttempt = true := by
  simp [BudgetReservation.ownedBy, h.own, h.owned, h.token, h.attempt]

/-- The claim accepts the settlement; the rows stay. -/
theorem SettlementDue.settle_ok (now : GoTime)
    (hamount : c.status = .settled → 0 ≤ w.budgetSettlementActualCents) :
    ∃ budgets settled, settleBudgetClaim m w.requestID w.budgetReservationToken
      w.budgetSettlementAttempt w.budgetSettlementActualCents now =
        ({ m with budgets := budgets }, .ok settled) := by
  rcases h.claimOpen with hs | ⟨hs, hactual⟩
  · let settled := { c with
      actualCents := if w.budgetSettlementActualCents < 0 then 0 else w.budgetSettlementActualCents
      status := .settled
      revision := c.revision + 1
      updatedAt := now.utc }
    refine ⟨m.budgets.insert w.requestID settled, settled, ?_⟩
    simp only [settleBudgetClaim, h.claim, h.ownedBy, hs, Bool.not_true, Bool.false_eq_true,
      if_false]
    rfl
  · have hnot : ¬ w.budgetSettlementActualCents < 0 := Int64.not_lt.2 (hamount hs)
    exact ⟨m.budgets, c, by simp [settleBudgetClaim, h.claim, h.ownedBy, hs, hnot, hactual]⟩

/-- An amount below zero is compared as zero, so a claim that is settled with it is another one. -/
theorem SettlementDue.settle_refused (hs : c.status = .settled)
    (hamount : w.budgetSettlementActualCents < 0) :
    settleBudgetClaim m w.requestID w.budgetReservationToken w.budgetSettlementAttempt
      w.budgetSettlementActualCents now = (m, .error errWorkloadConflict) := by
  have hactual : c.actualCents = w.budgetSettlementActualCents := by
    rcases h.claimOpen with hr | ⟨-, hactual⟩
    · rw [hs] at hr
      cases hr
    · exact hactual
  have hne : w.budgetSettlementActualCents ≠ 0 := by
    rintro heq
    rw [heq] at hamount
    exact absurd hamount (by decide)
  simp [settleBudgetClaim, h.claim, h.ownedBy, hs, hamount, hactual, hne]

/-- The candidate that clears the intent passes the checks, if its status is one of the three. -/
theorem SettlementDue.projection :
    projection w (withoutSettlement w now) [.succeeded, .failed, .cancelled] w.cancellationOwner =
      if w.status = .rejected then .error errWorkloadConflict
      else .ok (withoutSettlement w now) := by
  have hterminal := h.terminal
  cases hstatus : w.status with
  | queued | waiting | running | pendingApproval =>
    rw [hstatus] at hterminal
    cases hterminal
  | rejected | succeeded | failed | cancelled =>
    simp [Workloads.projection, withoutSettlement, settleUnlessCleared, hstatus, h.pending]

/-- **The intent of every status but one is cleared.** -/
theorem SettlementDue.clear (budgets : GoMap BudgetReservation) :
    clearSettlement { m with budgets := budgets } w now =
      if w.status = .rejected then ({ m with budgets := budgets }, .error errWorkloadConflict)
      else
        ({ m with
            budgets := budgets
            workloads := m.workloads.insert w.requestID
              { withoutSettlement w now with revision := w.revision + 1 } }, .ok ()) := by
  have hget : getWorkload m.toMemoryStore w.requestID = .ok w := by
    simp only [getWorkload, h.row]
  have hget' : getWorkload m.toMemoryStore (withoutSettlement w now).requestID = .ok w := hget
  simp only [clearSettlement, hget, h.own, replaceRow, replaceWorkloadCAS_eq, hget', h.projection]
  rw [if_neg (by simp)]
  by_cases hrejected : w.status = .rejected
  · simp [hrejected, Except.map]
  · have hrecorded : settlementRecorded w (withoutSettlement w now) = true := by
      simp [settlementRecorded, withoutSettlement, h.pending, h.own]
    have hrow : m.workloads.lookup (withoutSettlement w now).requestID = some w := h.row
    simp only [hrejected, if_false, compareAndSwapWorkload_of_stored hrow fun _ => hrecorded]
    rfl

end

/-- **A due settlement is settled and cleared by one retry** exactly if the row is not rejected and
a claim that is settled already is not settled with an amount below zero. -/
theorem settlement_retry_clears_iff (h : SettlementDue m w c) :
    ((retryBudgetSettlementIntent m w now).2 = .ok () ∧
        ∃ row, (retryBudgetSettlementIntent m w now).1.workloads.lookup w.requestID = some row ∧
          row.budgetSettlementPending = false) ↔
      w.status ≠ .rejected ∧ (c.status = .settled → 0 ≤ w.budgetSettlementActualCents) := by
  have hdue : nothingToSettle w = false := by
    simp [nothingToSettle, h.pending, h.token, h.own, h.attempt]
  by_cases hamount : c.status = .settled → 0 ≤ w.budgetSettlementActualCents
  · obtain ⟨budgets, settled, hsettle⟩ := h.settle_ok now hamount
    have hretry : retryBudgetSettlementIntent m w now =
        clearSettlement { m with budgets := budgets } w now := by
      simp [retryBudgetSettlementIntent, hdue, hsettle]
    rw [hretry, h.clear]
    by_cases hrejected : w.status = .rejected
    · simp [hrejected]
    · rw [if_neg hrejected]
      exact iff_of_true ⟨rfl, _, AList.lookup_insert _, rfl⟩ ⟨hrejected, hamount⟩
  · have hsettled : c.status = .settled := by
      by_contra hne
      exact hamount fun hs => absurd hs hne
    have hneg : w.budgetSettlementActualCents < 0 := by
      refine Int64.not_le.1 fun hle => hamount fun _ => hle
    have hretry : (retryBudgetSettlementIntent m w now).2 = .error errWorkloadConflict := by
      simp [retryBudgetSettlementIntent, hdue, h.settle_refused hsettled hneg]
    rw [hretry]
    simp [hamount]

end Retry

/-- A row of the status with a pending settlement of five cents. -/
def endedRow (status : WorkloadStatus) : Workload :=
  { reservedRow with
    status, budgetSettlementPending := true, budgetSettlementAttempt := 1,
    budgetSettlementActualCents := 5 }

def openClaim : BudgetReservation :=
  { workloadID := "w", revision := 1, attempt := 1, ownershipToken := "t", reservedCents := 5 }

def endedStore (status : WorkloadStatus) : BudgetStore :=
  { workloads := AList.singleton "w" (endedRow status)
    budgets := AList.singleton "w" openClaim }

theorem endedStore_due {status : WorkloadStatus} (h : isTerminalWorkloadStatus status = true) :
    SettlementDue (endedStore status) (endedRow status) openClaim where
  row := rfl
  terminal := h
  pending := rfl
  token := show ofString "t" ≠ [] by decide
  attempt := show (1 : UInt64) ≠ 0 by decide
  own := rfl
  claim := rfl
  owned := ⟨rfl, rfl⟩
  claimOpen := .inl rfl

theorem failed_settlement_cleared :
    (retryBudgetSettlementIntent (endedStore .failed) (endedRow .failed) {}).2 = .ok () ∧
      ∃ row, (retryBudgetSettlementIntent (endedStore .failed) (endedRow .failed)
          {}).1.workloads.lookup (endedRow .failed).requestID = some row ∧
        row.budgetSettlementPending = false :=
  (settlement_retry_clears_iff (endedStore_due rfl)).2 ⟨by decide, fun h => by cases h⟩

/-- The row of a workload that was rejected at its deadline: the claim is settled, the intent stays,
and every retry ends with the same error. -/
theorem rejected_settlement_stays :
    SettlementDue (endedStore .rejected) (endedRow .rejected) openClaim ∧
      (retryBudgetSettlementIntent (endedStore .rejected) (endedRow .rejected) {}).2 =
        .error errWorkloadConflict ∧
      (retryBudgetSettlementIntent (endedStore .rejected) (endedRow .rejected)
        {}).1.workloads.lookup (ofString "w") = some (endedRow .rejected) ∧
      (retryBudgetSettlementIntent
        (retryBudgetSettlementIntent (endedStore .rejected) (endedRow .rejected) {}).1
        (endedRow .rejected) {}).2 = .error errWorkloadConflict :=
  ⟨endedStore_due rfl, by decide +kernel, by decide +kernel, by decide +kernel⟩

end VramGovernor.Workloads
