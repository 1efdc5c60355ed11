import VramGovernor.Store.WorkloadRevisions
import VramGovernor.Workloads.BudgetIntents

/-!
# The cleanup of budget claims among other callers

The release of a claim is a saga of three stages, and others can come between them. The row stays
linked to its claim until the last stage, and a row that ends before gets the intent to settle its
claim, which never succeeds for a released one.

A read of a row and the swap that depends on it are one step here: a swap that fails changes nothing
and ends its call.

* `recording_alone`, `settling_alone`: without others between, a saga is the function of the
  manager.
* `SagaConsistent`, the invariant: a row linked to a released claim carries its cleanup intent.
* `no_dead_settlement`: so a settlement for a released claim is pending only in a terminal row that
  carries a cleanup intent.
-/

namespace VramGovernor.Workloads

open GoString GoMap Store

/-! ## The system -/

/-- The rows are linked to the same claim, with the same cleanup intent. -/
structure SameLink (w w' : Workload) : Prop where
  requestID : w'.requestID = w.requestID
  token : w'.budgetReservationToken = w.budgetReservationToken
  attempt : w'.budgetReservationAttempt = w.budgetReservationAttempt
  cleanupToken : w'.budgetCleanupToken = w.budgetCleanupToken
  cleanupAttempt : w'.budgetCleanupAttempt = w.budgetCleanupAttempt

theorem SameLink.trans {w₁ w₂ w₃ : Workload} (h : SameLink w₁ w₂) (h' : SameLink w₂ w₃) :
    SameLink w₁ w₃ :=
  ⟨h'.requestID.trans h.requestID, h'.token.trans h.token, h'.attempt.trans h.attempt,
    h'.cleanupToken.trans h.cleanupToken, h'.cleanupAttempt.trans h.cleanupAttempt⟩

/-- A callback that leaves the link of the row and its cleanup intent alone. -/
structure LinkKeepingEdit where
  run : Workload → Except GoError Workload
  keeps : ∀ {w w'}, run w = .ok w' → SameLink w w'

/-- `mutateWorkloadCAS`: cancellation, failure and all other edits of a row. -/
def mutateRow (m : BudgetStore) (id : GoString) (allowed : List WorkloadStatus) (owner : GoString)
    (edit : LinkKeepingEdit) : BudgetStore :=
  match getWorkload m.toMemoryStore id with
  | .error _ => m
  | .ok current =>
    match mutation current allowed owner edit.run with
    | .error _ => m
    | .ok candidate =>
      { m with toMemoryStore := (compareAndSwapWorkload m.toMemoryStore candidate current.revision
          current.status owner).1 }

/-- An admission waits for the intents of the row. -/
def hasBudgetIntent (w : Workload) : Bool := w.budgetCleanupToken ≠ [] || w.budgetSettlementPending

/-- The rejection of an admission whose deadline has passed. -/
def rejectAtDeadline (m : BudgetStore) (id : GoString) (now : GoTime) : BudgetStore :=
  match getWorkload m.toMemoryStore id with
  | .error _ => m
  | .ok w =>
    if hasBudgetIntent w then m
    else
      (replaceRow m { w with
        status := .rejected
        updatedAt := now.utc
        finishedAt := some now.utc } [.queued, .waiting] []).1

/-- The terms that an admission chooses for its claim. -/
structure AdmissionTerms where
  (amountCents limitCents : Int64)
  token : GoString

/-- The reservation of an admission. -/
def reserveForAdmission (m : BudgetStore) (id : GoString) (terms : AdmissionTerms) (now : GoTime) :
    BudgetStore :=
  match getWorkload m.toMemoryStore id with
  | .error _ => m
  | .ok w =>
    if w.status ∉ [WorkloadStatus.queued, .waiting] || hasBudgetIntent w then m
    else
      (reserveAndLinkBudgetClaim m
        { principalID := w.requestPrincipalID, workloadID := id, amountCents := terms.amountCents,
          limitCents := terms.limitCents, attemptToken := terms.token }
        { revision := w.revision, status := w.status, cancellationOwner := w.cancellationOwner }
        now).1

/-- What else happens to rows and claims. -/
inductive SagaEvent
  | mutate (id : GoString) (allowed : List WorkloadStatus) (owner : GoString)
      (edit : LinkKeepingEdit)
  | reject (id : GoString) (now : GoTime)
  | reserve (id : GoString) (terms : AdmissionTerms) (now : GoTime)

def SagaEvent.exec (m : BudgetStore) : SagaEvent → BudgetStore
  | mutate id allowed owner edit => mutateRow m id allowed owner edit
  | reject id now => rejectAtDeadline m id now
  | reserve id terms now => reserveForAdmission m id terms now

/-- The sagas. The callers of a retry read its row first. -/
inductive SagaCall
  | releaseBudgetClaimAfterWorkloadCAS (workloadID token : GoString) (attempt : UInt64)
  | retryBudgetCleanupIntent (workloadID : GoString)
  | retryBudgetSettlementIntent (workloadID : GoString)

/-- Where a saga is. -/
inductive SagaRoutine
  | recording (workloadID token : GoString) (attempt : UInt64)
  | readingCleanup (workloadID : GoString)
  | releasing (w : Workload)
  | unlinking (w : Workload)
  | readingSettlement (workloadID : GoString)
  | settling (w : Workload)
  | clearing (w : Workload)
  | returned (r : Except GoError Unit)

open SagaRoutine

def SagaCall.enter : SagaCall → SagaRoutine
  | releaseBudgetClaimAfterWorkloadCAS workloadID token attempt =>
    .recording workloadID token attempt
  | retryBudgetCleanupIntent workloadID => .readingCleanup workloadID
  | retryBudgetSettlementIntent workloadID => .readingSettlement workloadID

def SagaRoutine.exec (m : BudgetStore) (g : SagaRoutine) (now : GoTime) :
    BudgetStore × SagaRoutine :=
  match g with
  | recording workloadID token attempt =>
    match recordCleanup m workloadID token attempt now with
    | (m', .error e) => (m', .returned (.error e))
    | (m', .ok none) => (m', .returned (.ok ()))
    | (m', .ok (some w)) => (m', .releasing w)
  | readingCleanup workloadID =>
    match getWorkload m.toMemoryStore workloadID with
    | .error e => (m, .returned (.error e))
    | .ok w => (m, .releasing w)
  | releasing w =>
    match releaseForCleanup m w now with
    | (m', .error e) => (m', .returned (.error e))
    | (m', .ok false) => (m', .returned (.ok ()))
    | (m', .ok true) => (m', .unlinking w)
  | unlinking w => ((unlinkBudget m w now).1, .returned (unlinkBudget m w now).2)
  | readingSettlement workloadID =>
    match getWorkload m.toMemoryStore workloadID with
    | .error e => (m, .returned (.error e))
    | .ok w => (m, .settling w)
  | settling w =>
    if nothingToSettle w then (m, .returned (.ok ()))
    else
      match settleBudgetClaim m w.requestID w.budgetReservationToken w.budgetSettlementAttempt
        w.budgetSettlementActualCents now with
      | (m', .error e) => (m', .returned (.error e))
      | (m', .ok _) => (m', .clearing w)
  | clearing w => ((clearSettlement m w now).1, .returned (clearSettlement m w now).2)
  | returned r => (m, .returned r)

section Alone

variable (m : BudgetStore) (now : GoTime)

/-- The next stage of a saga, without others between. -/
def SagaRoutine.stage (p : BudgetStore × SagaRoutine) : BudgetStore × SagaRoutine :=
  p.2.exec p.1 now

theorem releasing_alone (w : Workload) : (stage now)^[2] (m, .releasing w) =
      ((retryBudgetCleanupIntent m w now).1, .returned (retryBudgetCleanupIntent m w now).2) := by
  simp only [Function.iterate_succ, Function.comp_apply, Function.iterate_zero, id_eq,
    stage, exec, retryBudgetCleanupIntent]
  obtain ⟨m', e | _ | _⟩ := releaseForCleanup m w now <;> rfl

/-- **A release whose stages follow one another** is the function of the manager. -/
theorem recording_alone (workloadID token : GoString) (attempt : UInt64) :
    (stage now)^[3] (m, .recording workloadID token attempt) =
      ((releaseBudgetClaimAfterWorkloadCAS m workloadID token attempt now).1,
        .returned (releaseBudgetClaimAfterWorkloadCAS m workloadID token attempt now).2) := by
  rw [Function.iterate_succ_apply]
  simp only [stage, exec, releaseBudgetClaimAfterWorkloadCAS]
  obtain ⟨m', e | _ | w⟩ := recordCleanup m workloadID token attempt now
  · rfl
  · rfl
  · exact releasing_alone m' now w

/-- **A settlement whose stages follow one another** is the function of the manager. -/
theorem settling_alone (w : Workload) : (stage now)^[2] (m, .settling w) =
      ((retryBudgetSettlementIntent m w now).1,
        .returned (retryBudgetSettlementIntent m w now).2) := by
  simp only [Function.iterate_succ, Function.comp_apply, Function.iterate_zero, id_eq,
    stage, exec, retryBudgetSettlementIntent]
  split_ifs
  · rfl
  · obtain ⟨m', e | _⟩ := settleBudgetClaim m w.requestID w.budgetReservationToken
      w.budgetSettlementAttempt w.budgetSettlementActualCents now <;> rfl

end Alone

/-! ## The invariant -/

/-- What the row says of its claim. -/
structure LinkSound (w : Workload) (claim : Option BudgetReservation) : Prop where
  /-- A linked row is linked to the claim, and carries a cleanup intent once that is released. -/
  linked : w.budgetReservationToken ≠ [] → ∃ c, claim = some c ∧
    c.ownershipToken = w.budgetReservationToken ∧ c.attempt = w.budgetReservationAttempt ∧
    (c.status = .released → w.budgetCleanupToken ≠ [])
  cleanup : w.budgetCleanupToken ≠ [] → ∃ c, claim = some c ∧ c.attempt = w.budgetCleanupAttempt
  settlement : isTerminalWorkloadStatus w.status = true → w.budgetSettlementPending = true →
    w.budgetReservationToken ≠ [] → w.budgetSettlementAttempt = w.budgetReservationAttempt

structure SagaConsistent (m : BudgetStore) : Prop where
  rows : ∀ {id w}, m.workloads.lookup id = some w →
    w.requestID = id ∧ LinkSound w (m.budgets.lookup id)
  claims : ∀ {id c}, m.budgets.lookup id = some c → c.attempt ≠ 0 ∧ c.ownershipToken ≠ []

/-- The claim of the attempt can be released: if it is still reserved, its row says so. -/
def ReleaseReady (m : BudgetStore) (id : GoString) (attempt : UInt64) : Prop :=
  ∃ c, m.budgets.lookup id = some c ∧ attempt ≤ c.attempt ∧
    (c.attempt = attempt → c.status = .reserved →
      ∃ w, m.workloads.lookup id = some w ∧ w.budgetCleanupToken ≠ [])

/-- The claim of the attempt is not reserved any more. -/
def Spent (m : BudgetStore) (id : GoString) (attempt : UInt64) : Prop :=
  ∃ c, m.budgets.lookup id = some c ∧ attempt ≤ c.attempt ∧
    (c.attempt = attempt → c.status ≠ .reserved)

/-- What a saga relies on between its stages. -/
def SagaRoutine.Relies (m : BudgetStore) : SagaRoutine → Prop
  | releasing w => w.budgetCleanupToken ≠ [] → ReleaseReady m w.requestID w.budgetCleanupAttempt
  | unlinking w => w.budgetCleanupToken ≠ [] ∧ Spent m w.requestID w.budgetCleanupAttempt
  | _ => True

/-! ## What a step can do -/

/-- A row is replaced. -/
structure RowReplaced (m m' : BudgetStore) (id : GoString) (w w' : Workload) : Prop where
  lookup : m.workloads.lookup id = some w
  store : m' = { m with workloads := m.workloads.insert id w' }
  requestID : w'.requestID = id
  settlement : isTerminalWorkloadStatus w'.status = true → w'.budgetSettlementPending = true →
    w'.budgetReservationToken ≠ [] → w'.budgetSettlementAttempt = w'.budgetReservationAttempt

variable {m : BudgetStore}

theorem RowReplaced.eq_stored {m' : BudgetStore} {id id' : GoString} {w w' latest : Workload}
    (h : RowReplaced m m' id' w w') (hid : id' = id) (hl : m.workloads.lookup id = some latest) :
    w = latest := by
  subst hid
  exact Option.mem_unique h.lookup hl

/-- What a step does to the store; whether it may end a workload that carries a cleanup intent. -/
inductive SagaChange (ends : Bool) (m m' : BudgetStore) : Prop
  | kept (h : m' = m)
  /-- An edit, or the clearing of a settlement. -/
  | edited (id : GoString) (w w' : Workload) (h : RowReplaced m m' id w w') (hlink : SameLink w w')
      (hends : isTerminalWorkloadStatus w'.status = true →
        isTerminalWorkloadStatus w.status = true ∨ w.budgetCleanupToken = [] ∨ ends = true)
  | recorded (id : GoString) (w w' : Workload) (h : RowReplaced m m' id w w')
      (hlinked : w.budgetReservationToken ≠ [])
      (htoken : w'.budgetReservationToken = w.budgetReservationToken)
      (hattempt : w'.budgetReservationAttempt = w.budgetReservationAttempt)
      (hcleanup : w'.budgetCleanupToken = w.budgetReservationToken)
      (hcleanupAttempt : w'.budgetCleanupAttempt = w.budgetReservationAttempt)
      (hopen : isTerminalWorkloadStatus w'.status = false)
  /-- The claim of the cleanup intent is not reserved any more. -/
  | unlinked (id : GoString) (w w' : Workload) (h : RowReplaced m m' id w w')
      (hcleanup : w.budgetCleanupToken ≠ []) (hspent : Spent m id w.budgetCleanupAttempt)
      (htoken : w'.budgetReservationToken = []) (hnone : w'.budgetCleanupToken = [])
  /-- A reservation gives a claim its defaults. -/
  | normalized (id : GoString) (c : BudgetReservation) (hl : m.budgets.lookup id = some c)
      (h : m' = { m with budgets := m.budgets.insert id (normalizeBudget id c) })
  /-- A row without a cleanup intent is linked to a claim that is reserved: its own, or a new
  one. -/
  | linked (id : GoString) (w : Workload) (c : BudgetReservation) (now : GoTime)
      (hl : m.workloads.lookup id = some w)
      (h : m' = { m with
        budgets := m.budgets.insert id c
        workloads := m.workloads.insert id (linkBudget w c now) })
      (hopen : isTerminalWorkloadStatus w.status = false) (hcleanup : w.budgetCleanupToken = [])
      (hreserved : c.status = .reserved) (htoken : c.ownershipToken ≠ [])
      (hclaim : (∃ c₀, m.budgets.lookup id = some c₀ ∧ c₀.status = .reserved ∧
          c = normalizeBudget id c₀) ∨
        (m.budgets.lookup id = none ∧ c.attempt = 1) ∨
        ∃ c₀, m.budgets.lookup id = some c₀ ∧ c.attempt = c₀.attempt + 1)
  /-- A claim whose row, if it is linked to it, carries a cleanup intent. -/
  | released (id : GoString) (c : BudgetReservation) (now : GoTime)
      (hl : m.budgets.lookup id = some c) (hreserved : c.status = .reserved)
      (hready : ReleaseReady m id c.attempt)
      (h : m' = { m with budgets := m.budgets.insert id { c with
        revision := c.revision + 1
        status := .released
        updatedAt := now.utc } })
  | settled (id : GoString) (c c' : BudgetReservation) (hl : m.budgets.lookup id = some c)
      (htoken : c'.ownershipToken = c.ownershipToken) (hattempt : c'.attempt = c.attempt)
      (hstatus : c'.status = .settled)
      (h : m' = { m with budgets := m.budgets.insert id c' })

/-! ## The invariant is kept -/

section Keep

variable {ends : Bool} {m m' : BudgetStore} {id : GoString}
  {w w' : Workload} {c c' : BudgetReservation}

/-- The attempts of a claim can still be counted. -/
def AttemptsLeft (m : BudgetStore) : Prop := ∀ e ∈ m.budgets.entries, e.2.attempt.toNat + 1 < 2 ^ 64

instance (m : BudgetStore) : Decidable (AttemptsLeft m) :=
  inferInstanceAs (Decidable (∀ e ∈ m.budgets.entries, _))

theorem AttemptsLeft.of_lookup (h : AttemptsLeft m) (hl : m.budgets.lookup id = some c) :
    c.attempt.toNat + 1 < 2 ^ 64 :=
  h ⟨id, c⟩ (AList.mem_lookup_iff.1 hl)

theorem lt_next_attempt (h : c.attempt.toNat + 1 < 2 ^ 64) {a : UInt64} (ha : a ≤ c.attempt) :
    a < c.attempt + 1 := by
  rw [UInt64.lt_iff_toNat_lt, UInt64.toNat_add]
  have hle := UInt64.le_iff_toNat_le.1 ha
  simp only [UInt64.reduceToNat]
  omega

/-- A claim of the invariant has its defaults. -/
theorem normalizeBudget_identity (id : GoString) (h : c.attempt ≠ 0 ∧ c.ownershipToken ≠ []) :
    (normalizeBudget id c).attempt = c.attempt ∧
      (normalizeBudget id c).ownershipToken = c.ownershipToken ∧
      (normalizeBudget id c).status = c.status := by
  simp [normalizeBudget, h.1, h.2]

/-- The claim is that of a later attempt, or it is not reserved again. -/
def Later (c c' : BudgetReservation) : Prop :=
  c.attempt < c'.attempt ∨ c'.attempt = c.attempt ∧ (c'.status = .reserved → c.status = .reserved)

theorem Later.refl (c : BudgetReservation) : Later c c := .inr ⟨rfl, fun h => h⟩

section

variable (h : SagaChange ends m m') (hI : SagaConsistent m) (hleft : AttemptsLeft m)
include h hI hleft

theorem SagaChange.claims (id : GoString) : Advances Later id m.budgets m'.budgets := by
  cases h with
  | kept h => exact h ▸ advances_refl Later.refl _ _
  | edited id' w w' h | recorded id' w w' h | unlinked id' w w' h =>
    exact h.store ▸ advances_refl Later.refl _ _
  | normalized id' c hl h =>
    obtain ⟨ha, -, hs⟩ := normalizeBudget_identity id' (hI.claims hl)
    exact h ▸ advances_insert Later.refl hl (.inr ⟨ha, fun h => hs ▸ h⟩)
  | linked id' w c now hl h hopen hcleanup hreserved htoken hnew =>
    subst h
    rcases hnew with ⟨c₀, hc₀, hs₀, rfl⟩ | ⟨hnone, -⟩ | ⟨c₀, hc₀, hnext⟩
    · have ha := (normalizeBudget_identity id' (hI.claims hc₀)).1
      exact advances_insert Later.refl hc₀ (.inr ⟨ha, fun _ => hs₀⟩)
    · exact advances_insert_new Later.refl hnone _
    · refine advances_insert Later.refl hc₀ (.inl ?_)
      rw [hnext]
      exact lt_next_attempt (hleft.of_lookup hc₀) (UInt64.le_refl _)
  | released id' c now hl hreserved hready h =>
    exact h ▸ advances_insert Later.refl hl (.inr ⟨rfl, fun h => nomatch h⟩)
  | settled id' c c' hl htoken hattempt hstatus h =>
    refine h ▸ advances_insert Later.refl hl (.inr ⟨hattempt, fun h => ?_⟩)
    rw [hstatus] at h
    cases h

omit h hI hleft in
/-- The intent to clean up a claim that is still reserved stays. -/
theorem SagaChange.cleanup (h : SagaChange ends m m') (hI : SagaConsistent m)
    (hc : m.budgets.lookup id = some c) (hs : c.status = .reserved) :
    Advances (fun w w' => w.budgetCleanupToken ≠ [] → w'.budgetCleanupToken ≠ []) id
      m.workloads m'.workloads := by
  cases h with
  | kept h | normalized _ _ _ h | released _ _ _ _ _ _ h | settled _ _ _ _ _ _ _ h =>
    exact h ▸ advances_refl (fun _ h => h) _ _
  | edited id' w w' h hlink =>
    refine h.store ▸ advances_insert (fun _ h => h) h.lookup fun hne => ?_
    rwa [hlink.cleanupToken]
  | recorded id' w w' h hlinked htoken hattempt hcleanup =>
    refine h.store ▸ advances_insert (fun _ h => h) h.lookup fun _ => ?_
    rwa [hcleanup]
  | unlinked id' w w' h hcleanup hspent =>
    -- the claim of this row is spent
    have hne : id ≠ id' := by
      rintro rfl
      obtain ⟨c₁, hc₁, -, hnot⟩ := hspent
      obtain ⟨c₂, hc₂, ha⟩ := (hI.rows h.lookup).2.cleanup hcleanup
      obtain rfl := Option.mem_unique hc hc₁
      obtain rfl := Option.mem_unique hc hc₂
      exact hnot ha hs
    rw [h.store]
    exact fun v hv => ⟨v, by rw [AList.lookup_insert_ne hne]; exact hv, fun h => h⟩
  | linked id' w c' now hl h hopen hcleanup =>
    exact h ▸ advances_insert (fun _ h => h) hl fun hne => absurd hcleanup hne

/-- A claim of an attempt that is still current was there before, and reserved if it is now. -/
theorem SagaChange.claim {attempt : UInt64} {id : GoString} {c₀ : BudgetReservation}
    (hc₀ : m.budgets.lookup id = some c₀) (hle : attempt ≤ c₀.attempt) :
    ∃ c, m'.budgets.lookup id = some c ∧ attempt ≤ c.attempt ∧ (c.attempt = attempt →
      c₀.attempt = attempt ∧ (c.status = .reserved → c₀.status = .reserved)) := by
  obtain ⟨c, hc, hlt | ⟨ha, hs⟩⟩ := h.claims hI hleft id c₀ hc₀
  · have hlt := UInt64.lt_of_le_of_lt hle hlt
    exact ⟨c, hc, UInt64.le_of_lt hlt, fun heq => absurd heq.symm (UInt64.ne_of_lt hlt)⟩
  · exact ⟨c, hc, ha ▸ hle, fun heq => ⟨ha ▸ heq, hs⟩⟩

theorem SagaChange.releaseReady {attempt : UInt64} {id : GoString}
    (hr : ReleaseReady m id attempt) :
    ReleaseReady m' id attempt := by
  obtain ⟨c₀, hc₀, hle, hrow⟩ := hr
  obtain ⟨c, hc, hle, hsame⟩ := h.claim hI hleft hc₀ hle
  refine ⟨c, hc, hle, fun heq hreserved => ?_⟩
  obtain ⟨ha, hs⟩ := hsame heq
  obtain ⟨w, hw, hne⟩ := hrow ha (hs hreserved)
  obtain ⟨w', hw', hkeep⟩ := h.cleanup hI hc₀ (hs hreserved) w hw
  exact ⟨w', hw', hkeep hne⟩

end

end Keep

/-! ## Every step is a change -/

/-- The event is an edit that ends a workload which carries a cleanup intent. -/
def endsInCleanup (m : BudgetStore) : ThreadEvent SagaCall GoTime SagaEvent → Bool
  | .other (.mutate id allowed owner edit) =>
    (m.workloads.lookup id).any fun w =>
      !isTerminalWorkloadStatus w.status && w.budgetCleanupToken ≠ [] &&
        match mutation w allowed owner edit.run with
        | .error _ => false
        | .ok w' => isTerminalWorkloadStatus w'.status
  | _ => false

section Steps

variable {ends : Bool} {m : BudgetStore} {now : GoTime} {w desired : Workload} {id : GoString}

theorem settleUnlessCleared_link {current w' : Workload}
    (h : settleUnlessCleared current w = .ok w') : SameLink w w' := by
  rcases (settleUnlessCleared_cases h).1 with rfl | rfl
  all_goals exact ⟨rfl, rfl, rfl, rfl, rfl⟩

theorem swap_replaces {current candidate : Workload}
    (hsettle : settleUnlessCleared current w = .ok candidate)
    (hattempt : w.budgetReservationToken ≠ [] → w.budgetReservationAttempt ≠ 0) (revision : UInt64)
    (status : WorkloadStatus) (owner : GoString) :
    (∃ e, compareAndSwapWorkload m.toMemoryStore candidate revision status owner =
        (m.toMemoryStore, .error e)) ∨
      ∃ stored row, SameLink w row ∧ row.status = w.status ∧
        RowReplaced m { m with workloads := m.workloads.insert w.requestID row } w.requestID stored
          row ∧
        compareAndSwapWorkload m.toMemoryStore candidate revision status owner =
          ({ m.toMemoryStore with workloads := m.workloads.insert w.requestID row }, .ok row) := by
  have hlink := settleUnlessCleared_link hsettle
  have hstatus := (settleUnlessCleared_frame hsettle).1
  rcases compareAndSwapWorkload_accepted m.toMemoryStore candidate revision status owner with
    h | ⟨stored, hl, -, -, -, -, heq⟩
  · exact .inl h
  · refine .inr ⟨stored, { candidate with revision := revision + 1 },
      ⟨hlink.requestID, hlink.token, hlink.attempt, hlink.cleanupToken, hlink.cleanupAttempt⟩,
      hstatus,
      ⟨hlink.requestID ▸ hl, rfl, hlink.requestID, fun hterminal hpending htoken => ?_⟩,
      by rw [← hlink.requestID]; exact heq⟩
    rcases (settleUnlessCleared_cases hsettle).2 with hclears | hsettled
    · exact absurd hpending (by simp [hclears.2])
    · have hreserved : candidate.unreserved = false := by
        have hne : candidate.budgetReservationToken ≠ [] := htoken
        have hne' : candidate.budgetReservationAttempt ≠ 0 := by
          rw [hlink.attempt]
          exact hattempt (hlink.token ▸ hne)
        simp [Workload.unreserved, hne, hne']
      exact (hsettled hterminal hreserved).2.1

/-- A replacement does nothing, or replaces the row of the projection. -/
theorem replaceRow_cases
    (hattempt : desired.budgetReservationToken ≠ [] → desired.budgetReservationAttempt ≠ 0)
    (allowed : List WorkloadStatus) (owner : GoString) :
    (∃ e, replaceRow m desired allowed owner = (m, .error e)) ∨
      ∃ stored row, SameLink desired row ∧ row.status = desired.status ∧
        RowReplaced m { m with workloads := m.workloads.insert desired.requestID row }
          desired.requestID stored row ∧
        replaceRow m desired allowed owner =
          ({ m with workloads := m.workloads.insert desired.requestID row }, .ok ()) := by
  simp only [replaceRow, replaceWorkloadCAS_eq]
  cases getWorkload m.toMemoryStore desired.requestID with
  | error e => exact .inl ⟨e, rfl⟩
  | ok current =>
    dsimp only
    cases hproj : projection current desired allowed owner with
    | error e => exact .inl ⟨e, rfl⟩
    | ok candidate =>
      obtain ⟨-, -, -, -, hsettle⟩ := projection_ok hproj
      dsimp only
      rcases swap_replaces (m := m) hsettle hattempt current.revision current.status owner with
        ⟨e, heq⟩ | ⟨stored, row, hlink, hstatus, hrow, heq⟩
      · exact .inl ⟨e, by rw [heq]; rfl⟩
      · exact .inr ⟨stored, row,
          ⟨hlink.requestID, hlink.token, hlink.attempt, hlink.cleanupToken, hlink.cleanupAttempt⟩,
          hstatus, hrow, by rw [heq]; rfl⟩

section

variable (hI : SagaConsistent m)
include hI

theorem SagaConsistent.attempt_ne_zero (hl : m.workloads.lookup id = some w)
    (htoken : w.budgetReservationToken ≠ []) : w.budgetReservationAttempt ≠ 0 := by
  obtain ⟨c, hc, -, ha, -⟩ := (hI.rows hl).2.linked htoken
  rw [← ha]
  exact (hI.claims hc).1

theorem mutateRow_change (id : GoString) (allowed : List WorkloadStatus) (owner : GoString)
    (edit : LinkKeepingEdit) :
    SagaChange (endsInCleanup m (.other (.mutate id allowed owner edit))) m
      (mutateRow m id allowed owner edit) := by
  fun_cases mutateRow m id allowed owner edit with
  | case1 | case2 => exact .kept rfl
  | case3 current hget candidate hmut swapped =>
    dsimp only [swapped]
    have hl := getWorkload_ok hget
    obtain ⟨-, -, -, mutated, hrun, hsettle⟩ := mutation_ok hmut
    have hlink := edit.keeps hrun
    have hattempt : mutated.budgetReservationToken ≠ [] →
        mutated.budgetReservationAttempt ≠ 0 := by
      rw [hlink.token, hlink.attempt]
      exact hI.attempt_ne_zero hl
    rcases swap_replaces (m := m) hsettle hattempt current.revision current.status owner with
      ⟨e, heq⟩ | ⟨stored, row, hlink', hstatus, hrow, heq⟩
    · exact .kept (by rw [heq])
    · rw [heq]
      obtain rfl := hrow.eq_stored (hlink.requestID.trans (hI.rows hl).1) hl
      refine .edited mutated.requestID stored row hrow (hlink.trans hlink') fun hterminal => ?_
      rw [hstatus, ← (settleUnlessCleared_frame hsettle).1] at hterminal
      simp only [endsInCleanup, hl, Option.any_some]
      grind

/-- A projection of a stored row that keeps the link is an edit. -/
theorem replaceRow_change (hl : m.workloads.lookup id = some w)
    (hlink : SameLink w desired) (hends : desired.status = w.status ∨ w.budgetCleanupToken = [])
    (allowed : List WorkloadStatus) (owner : GoString) :
    SagaChange ends m (replaceRow m desired allowed owner).1 := by
  have hattempt : desired.budgetReservationToken ≠ [] → desired.budgetReservationAttempt ≠ 0 := by
    rw [hlink.token, hlink.attempt]
    exact hI.attempt_ne_zero hl
  rcases replaceRow_cases hattempt allowed owner with
    ⟨e, heq⟩ | ⟨stored, row, hlink', hstatus, hreplaced, heq⟩
  · exact .kept (by rw [heq])
  · rw [heq]
    obtain rfl := hreplaced.eq_stored (hlink.requestID.trans (hI.rows hl).1) hl
    refine .edited desired.requestID stored row hreplaced (hlink.trans hlink') fun hterminal => ?_
    rw [hstatus] at hterminal
    rcases hends with hsame | hnone
    · exact .inl (hsame ▸ hterminal)
    · exact .inr (.inl hnone)

theorem rejectAtDeadline_change (id : GoString) (now : GoTime) :
    SagaChange ends m (rejectAtDeadline m id now) := by
  fun_cases rejectAtDeadline m id now with
  | case1 | case2 => exact .kept rfl
  | case3 w hget hintent =>
    simp only [hasBudgetIntent, Bool.or_eq_true, decide_eq_true_eq, not_or, not_not] at hintent
    apply replaceRow_change hI (getWorkload_ok hget)
    · exact ⟨rfl, rfl, rfl, rfl, rfl⟩
    · exact .inr hintent.1

theorem clearSettlement_change (w : Workload) (now : GoTime) :
    SagaChange ends m (clearSettlement m w now).1 := by
  fun_cases clearSettlement m w now with
  | case1 | case2 => exact .kept rfl
  | case3 latest hget =>
    apply replaceRow_change hI (getWorkload_ok hget)
    · exact ⟨rfl, rfl, rfl, rfl, rfl⟩
    · exact .inl rfl

omit hI in
theorem ne_nil_of_not_blank {t : GoString} (h : isBlank t = false) : t ≠ [] := by
  rintro rfl
  exact absurd h (by decide)

omit hI in
/-- A reservation links the row to a reserved claim, or gives a claim its defaults. -/
theorem reserveForAdmission_change (id : GoString) (terms : AdmissionTerms) (now : GoTime) :
    SagaChange ends m (reserveForAdmission m id terms now) := by
  fun_cases reserveForAdmission m id terms now with
  | case1 | case2 => exact .kept rfl
  | case3 w hget hguard =>
    have hl := getWorkload_ok hget
    simp only [hasBudgetIntent, Bool.or_eq_true, decide_eq_true_eq, ne_eq, not_or, not_not,
      Bool.not_eq_true] at hguard
    have hopen : isTerminalWorkloadStatus w.status = false := by
      have hstatus := hguard.1
      simp only [List.mem_cons, List.not_mem_nil, or_false] at hstatus
      rcases hstatus with h | h <;> rw [h] <;> rfl
    generalize hout : reserveAndLinkBudgetClaim m _ _ now = out
    cases hout ▸ reserveAndLink_linking m _ _ now with
    | refused reply hr => exact .kept rfl
    | found reply existing hr hle hs => exact .normalized id existing hle rfl
    | linked reply row r hlr hrev hr hv hclaim =>
      obtain rfl := Option.mem_unique hl hlr
      refine .linked id w r now hl rfl hopen hguard.2.1 hclaim.reserved
        (ne_nil_of_not_blank hclaim.token) ?_
      rcases hclaim.source with ⟨existing, hle, rfl⟩ | rfl
      · exact .inl ⟨existing, hle, hclaim.reserved, rfl⟩
      · cases hlook : m.budgets.lookup id with
        | none => exact .inr (.inl ⟨rfl, rfl⟩)
        | some c₀ => exact .inr (.inr ⟨c₀, rfl, rfl⟩)

theorem SagaConsistent.releaseReady (hl : m.workloads.lookup id = some w) :
    (releasing w).Relies m := by
  intro hne
  obtain ⟨hid, hsound⟩ := hI.rows hl
  obtain ⟨c, hc, ha⟩ := hsound.cleanup hne
  rw [hid]
  exact ⟨c, hc, ha ▸ UInt64.le_refl _, fun _ _ => ⟨w, hl, hne⟩⟩

omit hI in
theorem cleanupStatuses_open {status : WorkloadStatus} (h : status ∈ cleanupStatuses) :
    isTerminalWorkloadStatus status = false := by
  cases status <;> first | rfl | exact absurd h (by decide)

theorem withCleanup_change {latest : Workload}
    (hl : m.workloads.lookup id = some latest) (htoken : latest.budgetReservationToken ≠ [])
    (hopen : isTerminalWorkloadStatus latest.status = false) (owner : GoString) (now : GoTime) :
    let recorded := withCleanup latest latest.budgetReservationToken
      latest.budgetReservationAttempt now
    SagaChange ends m (replaceRow m recorded cleanupStatuses owner).1 ∧
      ((replaceRow m recorded cleanupStatuses owner).2 = .ok () →
        (releasing recorded).Relies
          (replaceRow m recorded cleanupStatuses owner).1) := by
  intro recorded
  obtain ⟨hid, hsound⟩ := hI.rows hl
  have hattempt : recorded.budgetReservationToken ≠ [] → recorded.budgetReservationAttempt ≠ 0 := by
    intro _
    have h := hI.attempt_ne_zero hl htoken
    exact h
  rcases replaceRow_cases (m := m) hattempt cleanupStatuses owner with
    ⟨e, heq⟩ | ⟨stored, row, hlink, hstatus, hreplaced, heq⟩
  · rw [heq]
    exact ⟨.kept rfl, fun h => nomatch h⟩
  · rw [heq]
    obtain rfl := hreplaced.eq_stored (show recorded.requestID = id from hid) hl
    refine ⟨.recorded recorded.requestID stored row hreplaced htoken hlink.token hlink.attempt
      hlink.cleanupToken hlink.cleanupAttempt (hstatus ▸ hopen), fun _ _ => ?_⟩
    obtain ⟨c, hc, -, ha, -⟩ := hsound.linked htoken
    refine ⟨c, ?_, ha ▸ UInt64.le_refl _, fun _ _ => ⟨row, AList.lookup_insert _, ?_⟩⟩
    · rw [show recorded.requestID = id from hid]
      exact hc
    · rw [hlink.cleanupToken]
      exact htoken

/-- **The first stage** makes the claim of the intent ready to be released. -/
theorem recordCleanup_change (id token : GoString) (attempt : UInt64) (now : GoTime) :
    SagaChange ends m (recordCleanup m id token attempt now).1 ∧
      ∀ w, (recordCleanup m id token attempt now).2 = .ok (some w) →
        (releasing w).Relies (recordCleanup m id token attempt now).1 := by
  fun_cases recordCleanup m id token attempt now with
  | case1 | case2 | case3 | case5 => exact ⟨.kept rfl, fun w hw => nomatch hw⟩
  | case4 _ latest hget =>
    refine ⟨.kept rfl, fun w hw => ?_⟩
    cases hw
    exact hI.releaseReady (getWorkload_ok hget)
  | case6 htoken latest hget _ hallowed =>
    obtain ⟨hchecks, -⟩ := firstError_eq_ok.1 hallowed
    have hown := hchecks _ (List.mem_cons_of_mem _ List.mem_cons_self)
    simp only [Bool.or_eq_false_iff, decide_eq_false_iff_not, ne_eq, not_not] at hown
    obtain ⟨rfl, rfl⟩ := hown
    have hallowed' := hchecks _ (List.mem_cons_of_mem _ (List.mem_cons_of_mem _
      (List.mem_cons_of_mem _ List.mem_cons_self)))
    have hopen : isTerminalWorkloadStatus latest.status = false :=
      cleanupStatuses_open (by simpa using hallowed')
    obtain ⟨hchange, hready⟩ :=
      withCleanup_change hI (getWorkload_ok hget) htoken hopen latest.cancellationOwner now
    refine ⟨hchange, fun w hw => ?_⟩
    cases hr : (replaceRow m (withCleanup latest latest.budgetReservationToken
        latest.budgetReservationAttempt now) cleanupStatuses latest.cancellationOwner).2 with
    | error e =>
      rw [hr] at hw
      cases hw
    | ok u =>
      rw [hr] at hw
      cases hw
      exact hready hr

omit hI in
/-- **The second stage** leaves the claim of the intent spent. -/
theorem releaseForCleanup_change (hg : (releasing w).Relies m) (now : GoTime) :
    SagaChange ends m (releaseForCleanup m w now).1 ∧
      ((releaseForCleanup m w now).2 = .ok true →
        (unlinking w).Relies (releaseForCleanup m w now).1) := by
  unfold releaseForCleanup
  by_cases hnone : (w.budgetCleanupToken = [] || w.budgetCleanupAttempt = 0) = true
  · rw [if_pos (by simpa using hnone)]
    exact ⟨.kept rfl, fun h => by cases h⟩
  rw [if_neg (by simpa using hnone)]
  simp only [Bool.or_eq_true, decide_eq_true_eq, not_or] at hnone
  obtain ⟨c, hc, hle, hrow⟩ := hg hnone.1
  split_ifs with hmismatch
  · exact ⟨.kept rfl, fun h => by cases h⟩
  fun_cases releaseBudgetClaim m w.requestID w.budgetCleanupToken w.budgetCleanupAttempt now with
  | case1 hl => cases hl.symm.trans hc
  | case2 | case4 => exact ⟨.kept rfl, fun h => by cases h⟩
  | case3 c₀ hl _ hs =>
    obtain rfl := Option.mem_unique hc hl
    exact ⟨.kept rfl, fun _ => ⟨hnone.1, c, hc, hle, fun _ => by simp [hs]⟩⟩
  | case5 c₀ hl howned hs =>
    obtain rfl := Option.mem_unique hc hl
    simp only [BudgetReservation.ownedBy, Bool.not_eq_true', Bool.not_eq_false, Bool.and_eq_true,
      decide_eq_true_eq] at howned
    have hready : ReleaseReady m w.requestID c.attempt :=
      ⟨c, hc, UInt64.le_refl _, fun _ _ => hrow howned.2 hs⟩
    exact ⟨.released w.requestID c now hc hs hready rfl,
      fun _ => ⟨hnone.1, _, AList.lookup_insert _, hle, fun _ h => by cases h⟩⟩

/-- **The third stage** unlinks a row whose claim is spent. -/
theorem unlinkBudget_change (hg : (unlinking w).Relies m)
    (now : GoTime) : SagaChange ends m (unlinkBudget m w now).1 := by
  fun_cases unlinkBudget m w now with
  | case1 | case2 => exact .kept rfl
  | case3 latest hget hchanged =>
    have hl := getWorkload_ok hget
    simp only [Bool.or_eq_true, decide_eq_true_eq, ne_eq, not_or, not_not] at hchanged
    have hattempt : (withoutLink latest now).budgetReservationToken ≠ [] →
        (withoutLink latest now).budgetReservationAttempt ≠ 0 := fun h => absurd rfl h
    rcases replaceRow_cases (m := m) hattempt cleanupStatuses latest.cancellationOwner with
      ⟨e, heq⟩ | ⟨stored, row, hlink, -, hreplaced, heq⟩
    · rw [heq]
      exact .kept rfl
    · rw [heq]
      have hid : (withoutLink latest now).requestID = w.requestID := (hI.rows hl).1
      obtain rfl := hreplaced.eq_stored hid hl
      refine .unlinked (withoutLink stored now).requestID stored row hreplaced ?_ ?_ hlink.token
        hlink.cleanupToken
      · rw [hchanged.1]
        exact hg.1
      · rw [hid, hchanged.2]
        exact hg.2

end

theorem settleBudgetClaim_change (id token : GoString) (attempt : UInt64) (actualCents : Int64)
    (now : GoTime) :
    SagaChange ends m (settleBudgetClaim m id token attempt actualCents now).1 := by
  fun_cases settleBudgetClaim m id token attempt actualCents now with
  | case1 | case2 | case3 | case4 | case5 => exact .kept rfl
  | case6 c hc => refine .settled id c _ hc ?_ ?_ ?_ rfl <;> rfl

/-- **A stage of a saga** is a change, and leaves the saga what it relies on next. -/
theorem SagaRoutine.exec_change (hI : SagaConsistent m) {g : SagaRoutine} (hg : g.Relies m)
    (now : GoTime) :
    SagaChange ends m (g.exec m now).1 ∧ (g.exec m now).2.Relies (g.exec m now).1 := by
  cases g with
  | recording id token attempt =>
    obtain ⟨hchange, hready⟩ := recordCleanup_change hI id token attempt now
    simp only [exec]
    generalize recordCleanup m id token attempt now = r at hchange hready ⊢
    obtain ⟨m', e | _ | w⟩ := r
    · exact ⟨hchange, trivial⟩
    · exact ⟨hchange, trivial⟩
    · exact ⟨hchange, hready w rfl⟩
  | readingCleanup id =>
    simp only [exec]
    cases hget : getWorkload m.toMemoryStore id with
    | error e => exact ⟨.kept rfl, trivial⟩
    | ok w => exact ⟨.kept rfl, hI.releaseReady (getWorkload_ok hget)⟩
  | releasing w =>
    obtain ⟨hchange, hspent⟩ := releaseForCleanup_change hg now
    simp only [exec]
    generalize releaseForCleanup m w now = r at hchange hspent ⊢
    obtain ⟨m', e | _ | _⟩ := r
    · exact ⟨hchange, trivial⟩
    · exact ⟨hchange, trivial⟩
    · exact ⟨hchange, hspent rfl⟩
  | unlinking w => exact ⟨unlinkBudget_change hI hg now, trivial⟩
  | readingSettlement id =>
    simp only [exec]
    cases getWorkload m.toMemoryStore id with
    | error e | ok w => exact ⟨.kept rfl, trivial⟩
  | settling w =>
    have hchange := @settleBudgetClaim_change ends m w.requestID w.budgetReservationToken
      w.budgetSettlementAttempt w.budgetSettlementActualCents now
    simp only [exec]
    split_ifs
    · exact ⟨.kept rfl, trivial⟩
    generalize settleBudgetClaim m _ _ _ _ now = r at hchange ⊢
    obtain ⟨m', e | _⟩ := r
    all_goals exact ⟨hchange, trivial⟩
  | clearing w => exact ⟨clearSettlement_change hI w now, trivial⟩
  | returned r => exact ⟨.kept rfl, trivial⟩

theorem SagaEvent.exec_change (hI : SagaConsistent m) (e : SagaEvent) :
    SagaChange (endsInCleanup m (.other e)) m (e.exec m) := by
  cases e with
  | mutate id allowed owner edit => exact mutateRow_change hI id allowed owner edit
  | reject id now => exact rejectAtDeadline_change hI id now
  | reserve id terms now => exact reserveForAdmission_change id terms now

end Steps

/-! ## Settlements of released claims -/

end VramGovernor.Workloads
