import VramGovernor.Store.Memory

/-!
# Workload rows

The manager changes a row by compare and swap: it reads the row, prepares a projection and hands it
to the store with the revision, the status and the cancellation owner that it read. A projection
that ends a workload with a budget reservation carries the intent to settle it.
`replaceWorkloadCAS_cases` says what a replacement can do.
-/

namespace VramGovernor

def Workload.unreserved (w : Workload) : Bool :=
  w.budgetReservationToken = [] || w.budgetReservationAttempt = 0

namespace Store

def errWorkloadConflict : GoError := .sentinel "store: workload revision or ownership conflict"

def getWorkload (m : MemoryStore) (id : GoString) : Except GoError Workload :=
  match m.workloads.lookup id with
  | none => .error errNotFound
  | some w => .ok w

variable {m : MemoryStore}

theorem getWorkload_ok {id : GoString} {w : Workload} (h : getWorkload m id = .ok w) :
    m.workloads.lookup id = some w := by
  unfold getWorkload at h
  cases hl : m.workloads.lookup id with
  | none => simp [hl] at h
  | some w' =>
    simp only [hl, Except.ok.injEq] at h
    rw [h]

def workloadRequiresSettlementIntent (w : Workload) : Bool :=
  !w.unreserved && isTerminalWorkloadStatus w.status && !w.budgetSettlementPending

/-- The stored row already carries the settlement of the projection's reservation. -/
def settlementRecorded (current w : Workload) : Bool :=
  current.budgetSettlementPending && current.budgetReservationToken = w.budgetReservationToken &&
    current.budgetSettlementAttempt = w.budgetReservationAttempt

def compareAndSwapWorkload (m : MemoryStore) (w : Workload) (expectedRevision : UInt64)
    (expectedStatus : WorkloadStatus) (expectedCancellationOwner : GoString) :
    MemoryStore × Except GoError Workload :=
  match m.workloads.lookup w.requestID with
  | none => (m, .error errNotFound)
  | some current =>
    if workloadRequiresSettlementIntent w && !settlementRecorded current w then
      (m, .error errWorkloadConflict)
    else if current.revision ≠ expectedRevision || current.status ≠ expectedStatus ||
        current.cancellationOwner ≠ expectedCancellationOwner then
      (m, .error errWorkloadConflict)
    else
      let updated := { w with revision := current.revision + 1 }
      ({ m with workloads := m.workloads.insert w.requestID updated }, .ok updated)

def RowsKeyed (m : MemoryStore) : Prop := ∀ id w, m.workloads.lookup id = some w → w.requestID = id

variable (m) (w : Workload) (revision : UInt64) (status : WorkloadStatus) (owner : GoString)

/-- An accepted compare and swap names what is stored. -/
theorem compareAndSwapWorkload_accepted :
    (∃ e, compareAndSwapWorkload m w revision status owner = (m, .error e)) ∨
    ∃ current, m.workloads.lookup w.requestID = some current ∧ current.revision = revision ∧
      current.status = status ∧ current.cancellationOwner = owner ∧
      (workloadRequiresSettlementIntent w = true → settlementRecorded current w = true) ∧
      compareAndSwapWorkload m w revision status owner =
        ({ m with
            workloads := m.workloads.insert w.requestID { w with revision := revision + 1 } },
          .ok { w with revision := revision + 1 }) := by
  unfold compareAndSwapWorkload
  cases hl : m.workloads.lookup w.requestID with
  | none => exact .inl ⟨_, rfl⟩
  | some current =>
    dsimp only
    split_ifs with hintent hstored
    · exact .inl ⟨_, rfl⟩
    · exact .inl ⟨_, rfl⟩
    · simp only [Bool.or_eq_true, decide_eq_true_eq, ne_eq, not_or, not_not] at hstored
      obtain ⟨⟨rfl, hstatus⟩, howner⟩ := hstored
      refine .inr ⟨current, rfl, rfl, hstatus, howner, fun hreq => ?_, rfl⟩
      simpa [hreq] using hintent

variable {m}

/-- A projection with its settlement recorded is stored when nothing has changed since the read. -/
theorem compareAndSwapWorkload_of_stored {w current : Workload}
    (hl : m.workloads.lookup w.requestID = some current)
    (hreq : workloadRequiresSettlementIntent w = true → settlementRecorded current w = true) :
    compareAndSwapWorkload m w current.revision current.status current.cancellationOwner =
      ({ m with workloads :=
          m.workloads.insert w.requestID { w with revision := current.revision + 1 } },
        .ok { w with revision := current.revision + 1 }) := by
  have hintent : (workloadRequiresSettlementIntent w && !settlementRecorded current w) = false := by
    cases h : workloadRequiresSettlementIntent w with
    | false => rfl
    | true => simp [hreq h]
  simp [compareAndSwapWorkload, hl, hintent]

end Store

namespace Workloads

open Store

/-- The price of the work done: the estimate, the reservation when there is none, or the reported
tokens at the rates of the plan. -/
def budgetActualCents (w : Workload) : Int64 :=
  match w.plan with
  | none => if 0 < w.budgetReservationCents then w.budgetReservationCents else 0
  | some plan =>
    if plan.estimatedCostCents ≤ 0 then
      if 0 < w.budgetReservationCents then w.budgetReservationCents else 0
    else
      let numerator := w.inlineUsage.promptTokens * plan.inputCentsPerMTok +
        w.inlineUsage.completionTokens * plan.outputCentsPerMTok
      if (0 < w.inlineUsage.promptTokens || 0 < w.inlineUsage.completionTokens) &&
          0 < numerator then
        (numerator + 999999) / 1000000
      else plan.estimatedCostCents

def ensureBudgetSettlementIntent (w : Workload) : Except GoError Workload :=
  if !isTerminalWorkloadStatus w.status || w.unreserved then .ok w
  else
    let actual := budgetActualCents w
    if actual ≤ 0 then .error ⟨"budget reservation has no priced settlement amount", none⟩
    else if w.budgetSettlementPending then
      if w.budgetSettlementAttempt ≠ w.budgetReservationAttempt ||
          w.budgetSettlementActualCents ≠ actual then
        .error ⟨"budget settlement intent belongs to another attempt", none⟩
      else .ok w
    else
      .ok { w with
        actualCostCents := actual
        budgetSettlementPending := true
        budgetSettlementAttempt := w.budgetReservationAttempt
        budgetSettlementActualCents := actual }

def replaceWorkloadCAS (m : MemoryStore) (desired : Workload) (allowed : List WorkloadStatus)
    (expectedCancellationOwner : GoString) : MemoryStore × Except GoError Workload :=
  match getWorkload m desired.requestID with
  | .error e => (m, .error e)
  | .ok current =>
    if desired.revision ≠ current.revision || current.status ∉ allowed ||
        current.cancellationOwner ≠ expectedCancellationOwner then
      (m, .error errWorkloadConflict)
    else if isTerminalWorkloadStatus current.status && desired.status ≠ current.status then
      (m, .error errWorkloadConflict)
    else
      let snapshot := { desired with cancellationOwner := expectedCancellationOwner }
      -- a settlement under way is not started again
      let settled :=
        if current.budgetSettlementPending && !snapshot.budgetSettlementPending then .ok snapshot
        else ensureBudgetSettlementIntent snapshot
      match settled with
      | .error e => (m, .error e)
      | .ok snapshot =>
        compareAndSwapWorkload m snapshot current.revision current.status expectedCancellationOwner

theorem ensureBudgetSettlementIntent_requestID {w w' : Workload}
    (h : ensureBudgetSettlementIntent w = .ok w') : w'.requestID = w.requestID := by
  simp only [ensureBudgetSettlementIntent] at h
  split_ifs at h <;> cases h <;> rfl

theorem ensureBudgetSettlementIntent_of_unreserved {w : Workload} (h : w.unreserved = true) :
    ensureBudgetSettlementIntent w = .ok w := by
  simp [ensureBudgetSettlementIntent, h]

/-- **What a replacement can do**: nothing, or store one row under the id of the projection. -/
theorem replaceWorkloadCAS_cases (m : MemoryStore) (desired : Workload)
    (allowed : List WorkloadStatus) (owner : GoString) :
    (∃ e, replaceWorkloadCAS m desired allowed owner = (m, .error e)) ∨
    ∃ row, row.requestID = desired.requestID ∧ replaceWorkloadCAS m desired allowed owner =
      ({ m with workloads := m.workloads.insert desired.requestID row }, .ok row) := by
  fun_cases replaceWorkloadCAS m desired allowed owner with
  | case5 current _ _ _ desired' settled snapshot hsettled =>
    have hid : snapshot.requestID = desired.requestID := by
      rcases ite_eq_iff.1 hsettled with ⟨-, h⟩ | ⟨-, h⟩
      · cases h
        rfl
      · exact (ensureBudgetSettlementIntent_requestID h).trans rfl
    rcases compareAndSwapWorkload_accepted m snapshot current.revision current.status owner with
      h | ⟨-, -, -, -, -, -, h⟩
    · exact .inl h
    · exact .inr ⟨{ snapshot with revision := current.revision + 1 }, hid, hid ▸ h⟩
  | _ => exact .inl ⟨_, rfl⟩

/-- The projection as it is stored over the row that was read. -/
def nextRevision (current desired : Workload) : Workload :=
  { desired with
    cancellationOwner := current.cancellationOwner
    revision := current.revision + 1 }

/-- **A projection of a row without a reservation is stored** as its next revision. -/
theorem replaceWorkloadCAS_of_unreserved {m : MemoryStore} {current desired : Workload}
    {allowed : List WorkloadStatus} (hl : m.workloads.lookup desired.requestID = some current)
    (hrev : desired.revision = current.revision) (hallowed : current.status ∈ allowed)
    (hopen : isTerminalWorkloadStatus current.status = false) (hu : desired.unreserved = true) :
    replaceWorkloadCAS m desired allowed current.cancellationOwner =
      ({ m with workloads :=
          m.workloads.insert desired.requestID (nextRevision current desired) },
        .ok (nextRevision current desired)) := by
  have hu' : Workload.unreserved
      { desired with cancellationOwner := current.cancellationOwner } = true := hu
  have hensure := ensureBudgetSettlementIntent_of_unreserved hu'
  simp only [replaceWorkloadCAS, getWorkload, hl]
  rw [if_neg (by simp [hrev, hallowed]), if_neg (by simp [hopen]), hensure, ite_self]
  exact compareAndSwapWorkload_of_stored
    (w := { desired with cancellationOwner := current.cancellationOwner }) hl
    (by simp [workloadRequiresSettlementIntent, hu'])

end Workloads

end VramGovernor
