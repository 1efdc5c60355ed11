import VramGovernor.Store.Memory

/-!
# Releasing a durable lease

`rollbackAcceleratorLeaseWithIntentMode` releases a lease in the store and makes sure that a release
which cannot be completed is retried: if the store fails, or says that another owner holds the
accelerator, a cleanup intent is recorded. It makes up to three calls on the store, each of which
may fail before or after it has taken effect. `Rollback.step` is one of these calls.
-/

namespace VramGovernor.Workloads

open GoString Store

/-! ## Store calls that may fail -/

/-- How a call on the store goes wrong: it has no effect, or its reply is lost. -/
inductive Fault
  | none
  | before (e : GoError)
  | after (e : GoError)

namespace Fault

/-- A call that returns a value or an error. -/
def call {α : Type} (f : Fault) (st : MemoryStore)
    (op : MemoryStore → MemoryStore × Except GoError α) : MemoryStore × Except GoError α :=
  match f with
  | none => op st
  | before e => (st, .error e)
  | after e => ((op st).1, .error e)

/-- A call whose result is ignored. -/
def effect (f : Fault) (st : MemoryStore) (op : MemoryStore → MemoryStore) : MemoryStore :=
  match f with
  | before _ => st
  | _ => op st

theorem call_fst {α : Type} (f : Fault) (st : MemoryStore)
    (op : MemoryStore → MemoryStore × Except GoError α) :
    (f.call st op).1 = st ∨ (f.call st op).1 = (op st).1 := by
  cases f with
  | none | after e => exact .inr rfl
  | before e => exact .inl rfl

theorem effect_eq (f : Fault) (st : MemoryStore) (op : MemoryStore → MemoryStore) :
    f.effect st op = st ∨ f.effect st op = op st := by
  cases f with
  | none | after e => exact .inr rfl
  | before e => exact .inl rfl

end Fault

/-! ## Intents -/

def errLeaseCleanupRecorded : GoError := .sentinel "accelerator lease cleanup recorded"

/-- The delay before the next retry: it doubles with each attempt, up to 32 seconds. -/
def retryDelay (attempts : ℤ) : ℤ := min (10 ^ 9 * 2 ^ (min (attempts - 1) 5).toNat) (60 * 10 ^ 9)

def scheduleLeaseCleanupRetry (intent : AcceleratorLeaseCleanupIntent) (failure : Option GoError)
    (now : GoTime) : AcceleratorLeaseCleanupIntent :=
  let attempts := max intent.attempts 1 + 1
  { intent with
    attempts
    lastError := ((failure.map (·.text)).getD intent.lastError).take 512
    updatedAt := now.utc
    nextRetryAt := some (now.utc.add (retryDelay attempts)) }

/-- The intent that `recordLeaseCleanupIntent` records at the first failure of a release. -/
def ordinaryIntent (lease : AcceleratorLease) (owner : GoString) (e : GoError) (now : GoTime) :
    AcceleratorLeaseCleanupIntent :=
  { acceleratorID := lease.acceleratorID, owner, fencingToken := lease.fencingToken, attempts := 1
    lastError := e.text, createdAt := now.utc, updatedAt := now.utc
    nextRetryAt := some (now.utc.add (10 ^ 9)) }

/-- The intent that `prepareTerminalLeaseIntent` records before the release. -/
def terminalIntent (lease : AcceleratorLease) (workloadID : GoString) (revision : UInt64)
    (disposition : GoString) (now : GoTime) : AcceleratorLeaseCleanupIntent :=
  { acceleratorID := lease.acceleratorID, owner := lease.workloadID
    fencingToken := lease.fencingToken, workloadID, expectedWorkloadRevision := revision
    terminalDisposition := disposition, terminalErrorCode := "terminal_" ++ disposition
    attempts := 1, lastError := "terminal_" ++ disposition
    createdAt := now.utc, updatedAt := now.utc, nextRetryAt := some (now.utc.add (10 ^ 9)) }

def deleteLeaseCleanupIntent (st : MemoryStore) (intent : AcceleratorLeaseCleanupIntent) :
    MemoryStore :=
  if intent.workloadID ≠ [] then
    deleteAcceleratorLeaseCleanupIntentForWorkload st intent.acceleratorID intent.owner
      intent.fencingToken intent.workloadID
  else deleteAcceleratorLeaseCleanupIntent st intent.acceleratorID intent.owner intent.fencingToken

/-! ## Rollback -/

/-- The arguments of `rollbackAcceleratorLeaseWithIntentMode`. -/
structure Rollback where
  lease : AcceleratorLease
  owner : GoString
  (retainIntent intentAlreadyAdvanced : Bool := false)
  terminal : Option AcceleratorLeaseCleanupIntent := none

/-- The call that a rollback makes next. -/
inductive RollbackStage
  | release
  /-- The store does not know the lease: look who holds the accelerator. -/
  | verify
  /-- The lease is gone: delete the intent. -/
  | forget
  /-- The release failed: record the intent. -/
  | persist (e : GoError)

namespace Rollback

/-- What follows a confirmed release: the intent is deleted, or the rollback returns. -/
def confirmed (rb : Rollback) : RollbackStage ⊕ Option GoError :=
  if rb.retainIntent then .inr none else .inl .forget

/-- The intent that a failed release leaves behind. -/
def continuation (rb : Rollback) (e : GoError) (now : GoTime) : AcceleratorLeaseCleanupIntent :=
  match rb.terminal with
  | none => ordinaryIntent rb.lease rb.owner e now
  | some intent =>
    if rb.intentAlreadyAdvanced then { intent with lastError := e.text.take 512 }
    else scheduleLeaseCleanupRetry intent (some e) now

/-- One call of the rollback: the next one, or the error that it returns. -/
def step (rb : Rollback) (st : MemoryStore) (fault : Fault) (now : GoTime) :
    RollbackStage → MemoryStore × (RollbackStage ⊕ Option GoError)
  | .release =>
    match fault.call st fun st =>
      releaseAcceleratorLease st rb.lease.acceleratorID rb.owner rb.lease.fencingToken with
    | (st', .ok _) => (st', rb.confirmed)
    | (st', .error e) => (st', .inl (if e.is errNotFound then .verify else .persist e))
  | .verify =>
    match fault.call st fun st => (st, getAcceleratorLease st rb.lease.acceleratorID) with
    | (st', .ok current) =>
      if current.expiresAt.after now.utc then
        (st', .inl (.persist ⟨"fenced accelerator lease belongs to another live owner", none⟩))
      else (st', rb.confirmed)
    | (st', .error e) =>
      if e.is errNotFound then (st', rb.confirmed)
      else
        (st', .inl (.persist
          ⟨"verify absent accelerator lease after fenced release: " ++ e.text, e.wraps⟩))
  | .forget =>
    (fault.effect st fun st =>
      match rb.terminal with
      | some intent => deleteLeaseCleanupIntent st intent
      | none => deleteAcceleratorLeaseCleanupIntent st rb.lease.acceleratorID rb.owner
          rb.lease.fencingToken, .inr none)
  | .persist e =>
    match fault.call st fun st =>
      recordAcceleratorLeaseCleanupIntent st (rb.continuation e now) now with
    | (st', .ok _) =>
      (st', .inr (some (errLeaseCleanupRecorded.wrapf
        ("rollback pending reconciliation: " ++ e.text))))
    | (st', .error e') =>
      (st', .inr (some ⟨"accelerator lease cleanup intent persistence failed: " ++ e'.text ++
        " (release: " ++ e.text ++ ")", e'.wraps⟩))

/-- The result says that the lease is no longer held. -/
def leaseGone : RollbackStage ⊕ Option GoError → Bool
  | .inl .forget | .inr none => true
  | _ => false

variable (rb : Rollback)

/-- The call finds that the lease is no longer held. -/
def confirms (st : MemoryStore) (fault : Fault) (now : GoTime) : RollbackStage → Bool
  | .release => leaseGone (rb.step st fault now .release).2
  | .verify => leaseGone (rb.step st fault now .verify).2
  | _ => false

/-- **What a call of a rollback comes to.** It confirms that the lease is gone, or it goes on. -/
inductive Result : RollbackStage → Bool → RollbackStage ⊕ Option GoError → Prop
  | forget {stage} (hs : stage = .release ∨ stage = .verify) : Result stage true (.inl .forget)
  | gone {stage} (hs : stage = .release ∨ stage = .verify) : Result stage true (.inr none)
  | verify : Result .release false (.inl .verify)
  | persist {stage e} (hs : stage = .release ∨ stage = .verify) :
      Result stage false (.inl (.persist e))
  | forgotten : Result .forget false (.inr none)
  | persisted {e e'} : Result (.persist e) false (.inr (some e'))

theorem result_confirmed {stage : RollbackStage} (hs : stage = .release ∨ stage = .verify) :
    Result stage (leaseGone rb.confirmed) rb.confirmed := by
  unfold confirmed
  split_ifs
  · exact .gone hs
  · exact .forget hs

theorem step_result (st : MemoryStore) (fault : Fault) (now : GoTime) (stage : RollbackStage) :
    Result stage (rb.confirms st fault now stage) (rb.step st fault now stage).2 := by
  cases stage with
  | release =>
    simp only [confirms, step]
    split
    · exact rb.result_confirmed (.inl rfl)
    · split_ifs
      · exact .verify
      · exact .persist (.inl rfl)
  | verify =>
    simp only [confirms, step]
    split <;> split_ifs
    · exact .persist (.inr rfl)
    · exact rb.result_confirmed (.inr rfl)
    · exact rb.result_confirmed (.inr rfl)
    · exact .persist (.inr rfl)
  | forget => exact .forgotten
  | persist e =>
    simp only [confirms, step]
    split <;> exact .persisted

end Rollback

/-! ## What the calls touch -/

/-- The stores differ in their cleanup intents at most. -/
def SameButIntents (st st' : MemoryStore) : Prop :=
  ∃ intents, st' = { st with leaseCleanupIntents := intents }

section

variable {st st' : MemoryStore}

theorem SameButIntents.leases (h : SameButIntents st st') : st'.leases = st.leases := by
  obtain ⟨intents, rfl⟩ := h
  rfl

theorem SameButIntents.leaseFences (h : SameButIntents st st') :
    st'.leaseFences = st.leaseFences := by
  obtain ⟨intents, rfl⟩ := h
  rfl

theorem SameButIntents.workloads (h : SameButIntents st st') : st'.workloads = st.workloads := by
  obtain ⟨intents, rfl⟩ := h
  rfl

variable (st) (intent : AcceleratorLeaseCleanupIntent)

theorem sameButIntents_record
    (now : GoTime) : SameButIntents st (recordAcceleratorLeaseCleanupIntent st intent now).1 := by
  unfold recordAcceleratorLeaseCleanupIntent
  split
  · exact ⟨_, rfl⟩
  · dsimp only
    split
    · exact ⟨_, rfl⟩
    · split_ifs
      · exact ⟨_, rfl⟩
      · exact ⟨_, rfl⟩

theorem sameButIntents_delete : SameButIntents st (deleteLeaseCleanupIntent st intent) := by
  unfold deleteLeaseCleanupIntent
  split_ifs
  · exact ⟨_, rfl⟩
  · exact ⟨_, rfl⟩

variable {st}

theorem Fault.sameButIntents_call {α : Type} (f : Fault)
    {op : MemoryStore → MemoryStore × Except GoError α} (h : SameButIntents st (op st).1) :
    SameButIntents st (f.call st op).1 := by
  rcases f.call_fst st op with he | he <;> rw [he]
  · exact ⟨_, rfl⟩
  · exact h

theorem Fault.sameButIntents_effect (f : Fault) {op : MemoryStore → MemoryStore}
    (h : SameButIntents st (op st)) : SameButIntents st (f.effect st op) := by
  rcases f.effect_eq st op with he | he <;> rw [he]
  · exact ⟨_, rfl⟩
  · exact h

end

namespace Rollback

variable (rb : Rollback) (st : MemoryStore) (fault : Fault) (now : GoTime)

variable (stage : RollbackStage)

/-- **What a call of a rollback touches**: the lease when it is the release, the intents
otherwise. -/
theorem step_store : SameButIntents st (rb.step st fault now stage).1 ∨
      stage = .release ∧ (rb.step st fault now stage).1 =
        (releaseAcceleratorLease st rb.lease.acceleratorID rb.owner rb.lease.fencingToken).1 := by
  cases stage with
  | release =>
    have hcall := fault.call_fst st fun st =>
      releaseAcceleratorLease st rb.lease.acceleratorID rb.owner rb.lease.fencingToken
    simp only [step]
    split <;> next he =>
      rw [he] at hcall
      rcases hcall with h | h
      · exact .inl ⟨_, h⟩
      · exact .inr ⟨trivial, h⟩
  | verify =>
    have hcall : SameButIntents st
        (fault.call st fun st => (st, getAcceleratorLease st rb.lease.acceleratorID)).1 :=
      fault.sameButIntents_call ⟨_, rfl⟩
    refine .inl ?_
    simp only [step]
    split <;> next he =>
      rw [he] at hcall
      split_ifs <;> exact hcall
  | forget =>
    simp only [step]
    refine .inl (fault.sameButIntents_effect ?_)
    cases rb.terminal with
    | none => exact ⟨_, rfl⟩
    | some intent => exact sameButIntents_delete st intent
  | persist e =>
    have hcall : SameButIntents st (fault.call st fun st =>
        recordAcceleratorLeaseCleanupIntent st (rb.continuation e now) now).1 :=
      fault.sameButIntents_call (sameButIntents_record ..)
    refine .inl ?_
    simp only [step]
    split <;> next he =>
      rw [he] at hcall
      exact hcall

theorem step_leaseFences : (rb.step st fault now stage).1.leaseFences = st.leaseFences := by
  rcases rb.step_store st fault now stage with h | ⟨-, h⟩
  · exact h.leaseFences
  · rw [h]
    rcases releaseAcceleratorLease_cases st rb.lease.acceleratorID rb.owner
      rb.lease.fencingToken with h | ⟨lease, -, -, -, h⟩ <;> rw [h]

theorem step_leases {stage : RollbackStage} (hs : stage ≠ .release) :
    (rb.step st fault now stage).1.leases = st.leases := by
  rcases rb.step_store st fault now stage with h | ⟨h, -⟩
  · exact h.leases
  · exact absurd h hs

theorem step_workloads (stage : RollbackStage) :
    (rb.step st fault now stage).1.workloads = st.workloads := by
  rcases rb.step_store st fault now stage with h | ⟨-, h⟩
  · exact h.workloads
  · rw [h]
    rcases releaseAcceleratorLease_cases st rb.lease.acceleratorID rb.owner
      rb.lease.fencingToken with h | ⟨lease, -, -, -, h⟩ <;> rw [h]

end Rollback

end VramGovernor.Workloads
