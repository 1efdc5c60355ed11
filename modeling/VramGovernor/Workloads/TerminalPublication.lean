import VramGovernor.Workloads.Finalization
import VramGovernor.Workloads.Interleaving
import VramGovernor.Workloads.LeaseRollback

/-!
# Publishing a terminal status from an intent

`retryAcceleratorLeaseCleanupIntents` resumes the intents that are due, here on a store none of
whose calls fails. It repeats the release before it goes on, also when that was confirmed. If
another workload holds a live lease on the accelerator by then, nothing is published.
`retry_publishes_iff` says exactly when a row without a budget reservation gets its status: some
intent of the workload must find, at its turn, the accelerator free and the row where it expects it
(`Publishable`).
-/

namespace VramGovernor.Workloads

open GoString GoMap Store

/-! ## The pass -/

/-- The clock and the answers that the visit of one intent meets. -/
structure Visit where
  preparedAt : GoTime
  clock : RollbackStage → GoTime
  confirmedAt : GoTime
  finalization : Finalization
  rescheduledAt : GoTime

def putOff (v : Visit) (st : MemoryStore) (intent : AcceleratorLeaseCleanupIntent) (e : GoError) :
    MemoryStore :=
  (recordAcceleratorLeaseCleanupIntent st
    (scheduleLeaseCleanupRetry intent (some e) v.rescheduledAt) v.rescheduledAt).1

/-- The release is confirmed: record it and go on with the terminal continuation. -/
def resumeTerminal (v : Visit) (st : MemoryStore) (intent : AcceleratorLeaseCleanupIntent) :
    MemoryStore :=
  match recordAcceleratorLeaseCleanupIntent st intent v.confirmedAt with
  | (st', .error e) => putOff v st' intent e
  | (st', .ok _) =>
    match finalizeTerminalLeaseIntent v.finalization st' intent with
    | (st'', intent', none) => deleteLeaseCleanupIntent st'' intent'
    | (st'', intent', some e) => putOff v st'' intent' e

/-- One turn of the loop of `retryAcceleratorLeaseCleanupIntents`. -/
def visitIntent (v : Visit) (st : MemoryStore) (intent : AcceleratorLeaseCleanupIntent) :
    MemoryStore :=
  match (retryRollback intent v.preparedAt).run (fun _ => .none) v.clock st with
  | (st', .inr none) =>
    if intent.terminalDisposition = [] then st'
    else resumeTerminal v st' { intent with releaseConfirmed := true }
  | (st', .inr (some e)) => if e.is errLeaseCleanupRecorded then st' else putOff v st' intent e
  -- the rollback has returned by now
  | (st', .inl _) => st'

/-- The turns of the loop, the first of them being turn `n`. -/
def visitIntents (visits : ℕ → Visit) : ℕ → MemoryStore → List AcceleratorLeaseCleanupIntent →
    MemoryStore
  | _, st, [] => st
  | n, st, intent :: rest => visitIntents visits (n + 1) (visitIntent (visits n) st intent) rest

/-- The intents that a pass resumes. -/
def dueIntents (now : GoTime) (order : List (Entry AcceleratorLeaseCleanupIntent)) :
    List AcceleratorLeaseCleanupIntent :=
  listAcceleratorLeaseCleanupIntents now.utc now 100 order

/-- `retryAcceleratorLeaseCleanupIntents`, as far as the store sees it. -/
def retryAcceleratorLeaseCleanupIntents (st : MemoryStore) (now : GoTime)
    (order : List (Entry AcceleratorLeaseCleanupIntent)) (visits : ℕ → Visit) : MemoryStore :=
  visitIntents visits 0 st (dueIntents now order)

variable {st : MemoryStore} {v : Visit} {intent : AcceleratorLeaseCleanupIntent} {row : Workload}
  {status : WorkloadStatus}

/-! ## A visit -/

/-- The accelerator of the intent has no lease, the intent's own, or one that has run out. -/
def AcceleratorFree (st : MemoryStore) (intent : AcceleratorLeaseCleanupIntent) (now : GoTime) :
    Prop :=
  ∀ l, st.leases.lookup intent.acceleratorID = some l →
    l.workloadID = intent.owner ∧ l.fencingToken = intent.fencingToken ∨
      l.expiresAt.after now.utc = false

/-- **The intent publishes its status when it is visited in this state.** -/
structure Publishable (st : MemoryStore) (v : Visit) (intent : AcceleratorLeaseCleanupIntent) :
    Prop where
  terminal : intent.terminalDisposition ≠ []
  free : AcceleratorFree st intent (v.clock .verify)
  recordable : Recordable st { intent with releaseConfirmed := true }
  unpublished : intent.terminalPublished = false
  row : ∃ row, st.workloads.lookup intent.workloadID = some row ∧
    isTerminalWorkloadStatus row.status = false ∧ row.revision = intent.expectedWorkloadRevision

namespace Rollback

variable (rb : Rollback) (faults : RollbackStage → Fault) (clock : RollbackStage → GoTime)

theorem run_workloads (st : MemoryStore) : (rb.run faults clock st).1.workloads = st.workloads := by
  have hnext : ∀ r : MemoryStore × (RollbackStage ⊕ Option GoError),
      (rb.next faults clock r).1.workloads = r.1.workloads := by
    rintro ⟨st, stage | err⟩
    · exact rb.step_workloads ..
    · rfl
  exact (hnext _).trans ((hnext _).trans (hnext _))

/-- A rollback that keeps its intent is confirmed by a free accelerator. -/
theorem run_of_free {st : MemoryStore} (hretain : rb.retainIntent = true)
    (hfree : ∀ l, st.leases.lookup rb.lease.acceleratorID = some l →
      l.workloadID = rb.owner ∧ l.fencingToken = rb.lease.fencingToken ∨
        l.expiresAt.after (clock .verify).utc = false) :
    ∃ st', rb.run (fun _ => .none) clock st = (st', .inr none) ∧
      st'.leaseCleanupIntents = st.leaseCleanupIntents := by
  have hconf : rb.confirmed = .inr none := by simp [confirmed, hretain]
  cases hl : st.leases.lookup rb.lease.acceleratorID with
  | none =>
    refine ⟨st, ?_, rfl⟩
    simp only [run, next, step, Fault.call, releaseAcceleratorLease, hl, hconf]
  | some l =>
    by_cases hown : l.workloadID = rb.owner ∧ l.fencingToken = rb.lease.fencingToken
    · refine ⟨{ st with leases := st.leases.erase rb.lease.acceleratorID }, ?_, rfl⟩
      simp only [run, next, step, Fault.call, releaseAcceleratorLease, hl, hown.1, hown.2, ne_eq,
        not_true_eq_false, decide_false, Bool.or_false, Bool.false_eq_true, if_false, hconf]
    · refine ⟨st, ?_, rfl⟩
      have hne : (l.workloadID ≠ rb.owner || l.fencingToken ≠ rb.lease.fencingToken) = true := by
        simpa [imp_iff_not_or] using hown
      have hexp := (hfree l hl).resolve_left hown
      simp only [run, next, step, Fault.call, releaseAcceleratorLease, getAcceleratorLease, hl, hne,
        hexp, hconf, if_true, Bool.false_eq_true, if_false,
        show errNotFound.is errNotFound = true from rfl]

/-- A live lease of another owner makes the rollback fail. -/
theorem run_of_held {st : MemoryStore} {l : AcceleratorLease}
    (hl : st.leases.lookup rb.lease.acceleratorID = some l)
    (hother : ¬ (l.workloadID = rb.owner ∧ l.fencingToken = rb.lease.fencingToken))
    (hlive : l.expiresAt.after (clock .verify).utc = true) :
    ∃ e, (rb.run (fun _ => .none) clock st).2 = .inr (some e) := by
  have hne : (l.workloadID ≠ rb.owner || l.fencingToken ≠ rb.lease.fencingToken) = true := by
    simpa [imp_iff_not_or] using hother
  simp only [run, next, step, Fault.call, releaseAcceleratorLease, getAcceleratorLease, hl, hne,
    hlive, if_true, show errNotFound.is errNotFound = true from rfl]
  split <;> exact ⟨_, rfl⟩

end Rollback

theorem putOff_workloads (v : Visit) (st : MemoryStore) (intent : AcceleratorLeaseCleanupIntent)
    (e : GoError) : (putOff v st intent e).workloads = st.workloads :=
  (sameButIntents_record ..).workloads

/-- What resuming a terminal intent does to the rows, its finalization does. -/
theorem resumeTerminal_workloads (hrec : Recordable st intent) :
    ∃ st', st'.workloads = st.workloads ∧ (resumeTerminal v st intent).workloads =
      (finalizeTerminalLeaseIntent v.finalization st' intent).1.workloads := by
  rcases recordAcceleratorLeaseCleanupIntent_cases st intent v.confirmedAt with
    ⟨hno, -⟩ | ⟨-, stored, h, -⟩
  · exact absurd hrec hno
  · refine ⟨(recordAcceleratorLeaseCleanupIntent st intent v.confirmedAt).1,
      (sameButIntents_record ..).workloads, ?_⟩
    simp only [resumeTerminal, h]
    split <;> next he => simp only [he, (sameButIntents_delete _ _).workloads, putOff_workloads]

theorem resumeTerminal_of_refused (hrec : ¬ Recordable st intent) :
    (resumeTerminal v st intent).workloads = st.workloads := by
  rcases recordAcceleratorLeaseCleanupIntent_cases st intent v.confirmedAt with
    ⟨-, e, h⟩ | ⟨hyes, -⟩
  · simp only [resumeTerminal, h, putOff_workloads]
  · exact absurd hyes hrec

theorem retryRollback_lease (intent : AcceleratorLeaseCleanupIntent) (now : GoTime) :
    (retryRollback intent now).lease.acceleratorID = intent.acceleratorID ∧
      (retryRollback intent now).owner = intent.owner ∧
      (retryRollback intent now).lease.fencingToken = intent.fencingToken := by
  unfold retryRollback
  split_ifs <;> exact ⟨rfl, rfl, rfl⟩

/-- A terminal intent whose accelerator is free is resumed. -/
theorem visitIntent_of_free (hterm : intent.terminalDisposition ≠ [])
    (hfree : AcceleratorFree st intent (v.clock .verify)) :
    ∃ st', st'.workloads = st.workloads ∧ st'.leaseCleanupIntents = st.leaseCleanupIntents ∧
      visitIntent v st intent = resumeTerminal v st' { intent with releaseConfirmed := true } := by
  have hrb : (retryRollback intent v.preparedAt).retainIntent = true := by
    simp [retryRollback, hterm]
  obtain ⟨ha, ho, ht⟩ := retryRollback_lease intent v.preparedAt
  obtain ⟨st', hrun, hintents⟩ := Rollback.run_of_free (retryRollback intent v.preparedAt) v.clock
    hrb (by rw [ha, ho, ht]; exact hfree)
  have hrows := Rollback.run_workloads (retryRollback intent v.preparedAt) (fun _ => .none)
    v.clock st
  rw [hrun] at hrows
  exact ⟨st', hrows, hintents, by simp only [visitIntent, hrun, hterm, if_false]⟩

theorem visitIntent_of_not_free (h : intent.terminalDisposition ≠ [] →
    ¬ AcceleratorFree st intent (v.clock .verify)) :
    (visitIntent v st intent).workloads = st.workloads := by
  have hrows := Rollback.run_workloads (retryRollback intent v.preparedAt) (fun _ => .none)
    v.clock st
  have hfails : intent.terminalDisposition ≠ [] →
      ∃ e, ((retryRollback intent v.preparedAt).run (fun _ => .none) v.clock st).2 =
        .inr (some e) := by
    intro hterm
    have hheld := h hterm
    simp only [AcceleratorFree, not_forall, not_or, Bool.not_eq_false] at hheld
    obtain ⟨l, hl, hother, hlive⟩ := hheld
    obtain ⟨ha, ho, ht⟩ := retryRollback_lease intent v.preparedAt
    exact Rollback.run_of_held _ _ (by rw [ha]; exact hl) (by rw [ho, ht]; exact hother) hlive
  unfold visitIntent
  split
  · next st' he =>
    rw [he] at hrows
    split_ifs with hterm
    · exact hrows
    · obtain ⟨e, hfail⟩ := hfails hterm
      simp [he] at hfail
  · next st' e he =>
    rw [he] at hrows
    split_ifs
    · exact hrows
    · exact (putOff_workloads ..).trans hrows
  · next st' _ he =>
    rw [he] at hrows
    exact hrows

theorem terminalStatus_isTerminal {disposition : GoString}
    (h : terminalStatus disposition = some status) : isTerminalWorkloadStatus status = true := by
  unfold terminalStatus at h
  split_ifs at h <;> cases h <;> rfl

theorem terminalStatus_of_valid (h : IntentValid intent) (hterm : intent.terminalDisposition ≠ []) :
    ∃ status, terminalStatus intent.terminalDisposition = some status := by
  obtain ⟨-, -, -, hd | hd | hd⟩ := h.terminal hterm <;> rw [hd]
  · exact ⟨.succeeded, rfl⟩
  · exact ⟨.failed, rfl⟩
  · exact ⟨.cancelled, rfl⟩

/-- **One visit** changes at most the row of the workload that the intent names. -/
theorem visitIntent_frame (hk : RowsKeyed st) (v : Visit) (intent : AcceleratorLeaseCleanupIntent) :
    RowFrame intent.workloadID st (visitIntent v st intent) := by
  by_cases h : intent.terminalDisposition ≠ [] ∧ AcceleratorFree st intent (v.clock .verify)
  · obtain ⟨st₁, hrows₁, -, hvisit⟩ := visitIntent_of_free h.1 h.2
    have hstart : RowFrame intent.workloadID st st₁ := (KeepsRows.of_eq hrows₁).toRowFrame
    rw [hvisit]
    by_cases hrec : Recordable st₁ { intent with releaseConfirmed := true }
    · obtain ⟨st₂, hrows₂, hres⟩ := resumeTerminal_workloads (v := v) hrec
      have hsecond : RowFrame intent.workloadID st st₂ :=
        hstart.trans (KeepsRows.of_eq hrows₂).toRowFrame
      have hfin := finalize_frame v.finalization { intent with releaseConfirmed := true }
        (hsecond.keyed hk)
      exact (hsecond.trans hfin).trans (KeepsRows.of_eq hres).toRowFrame
    · exact hstart.trans (KeepsRows.of_eq (resumeTerminal_of_refused hrec)).toRowFrame
  · have hrows : (visitIntent v st intent).workloads = st.workloads :=
      visitIntent_of_not_free fun hterm hfree => h ⟨hterm, hfree⟩
    exact (KeepsRows.of_eq hrows).toRowFrame

/-- **A visit publishes** the status of an intent that is publishable, on a row without a
reservation. -/
theorem visitIntent_publishes (hk : RowsKeyed st) (h : Publishable st v intent)
    (hl : st.workloads.lookup intent.workloadID = some row) (hu : row.unreserved = true) :
    ∃ row', (visitIntent v st intent).workloads.lookup intent.workloadID = some row' ∧
      row'.unreserved = true ∧ terminalStatus intent.terminalDisposition = some row'.status := by
  obtain ⟨st₁, hrows₁, hintents, hvisit⟩ := visitIntent_of_free h.terminal h.free
  have hrec : Recordable st₁ { intent with releaseConfirmed := true } := by
    simpa only [Recordable, hintents] using h.recordable
  obtain ⟨st₂, hrows₂, hres⟩ := resumeTerminal_workloads (v := v) hrec
  have hrows : st₂.workloads = st.workloads := hrows₂.trans hrows₁
  obtain ⟨status, hs⟩ := terminalStatus_of_valid h.recordable.1 h.terminal
  obtain ⟨row', hrow', hopen, hrev⟩ := h.row
  obtain rfl : row' = row := by rw [hl] at hrow'; exact (Option.some.inj hrow').symm
  have hexp : intent.expectedWorkloadRevision ≠ 0 := (h.recordable.1.terminal h.terminal).2.1
  have hready : Ready { intent with releaseConfirmed := true } row' status :=
    ⟨rfl, hs, h.unpublished, hopen, hexp, hrev⟩
  obtain ⟨row'', hl'', hu'', hst⟩ := finalize_publishes v.finalization
    (rowsKeyed_of_eq hk hrows) (by rw [hrows]; exact hl) hu hready
  exact ⟨row'', by rw [hvisit, hres]; exact hl'', hu'', by rw [hst]; exact hs⟩

/-- **Any other visit keeps** a row without a reservation. -/
theorem visitIntent_keeps (hk : RowsKeyed st) (h : ¬ Publishable st v intent)
    (hl : st.workloads.lookup intent.workloadID = some row) (hu : row.unreserved = true) :
    (visitIntent v st intent).workloads.lookup intent.workloadID = some row := by
  by_cases hfree : intent.terminalDisposition ≠ [] ∧ AcceleratorFree st intent (v.clock .verify)
  · obtain ⟨st₁, hrows₁, hintents, hvisit⟩ := visitIntent_of_free hfree.1 hfree.2
    rw [hvisit]
    by_cases hrec : Recordable st₁ { intent with releaseConfirmed := true }
    · obtain ⟨st₂, hrows₂, hres⟩ := resumeTerminal_workloads (v := v) hrec
      have hrows : st₂.workloads = st.workloads := hrows₂.trans hrows₁
      have hl₂ : st₂.workloads.lookup intent.workloadID = some row := by rw [hrows]; exact hl
      have hrec' : Recordable st { intent with releaseConfirmed := true } := by
        simpa only [Recordable, hintents] using hrec
      rw [hres]
      have hnot : ∀ workload status, st₂.workloads.lookup intent.workloadID = some workload →
          ¬ Ready { intent with releaseConfirmed := true } workload status := by
        intro workload status hw hready
        obtain rfl : row = workload := by rw [hl₂] at hw; exact Option.some.inj hw
        exact h ⟨hfree.1, hfree.2, hrec', hready.unpublished, row, hl, hready.still_open,
          hready.revision⟩
      exact (finalize_of_not_ready v.finalization { intent with releaseConfirmed := true }
        (rowsKeyed_of_eq hk hrows) hnot).row row hl₂ hu
    · rw [resumeTerminal_of_refused hrec, hrows₁, hl]
  · rw [visitIntent_of_not_free fun hterm hf => hfree ⟨hterm, hf⟩, hl]

/-! ## The whole pass -/

/-- The rows are in place and the workload has one without a reservation. -/
structure Unreserved (st : MemoryStore) (w : GoString) (row : Workload) : Prop where
  keyed : RowsKeyed st
  stored : st.workloads.lookup w = some row
  unreserved : row.unreserved = true

theorem Unreserved.visit {w : GoString} (h : Unreserved st w row) (v : Visit)
    (intent : AcceleratorLeaseCleanupIntent) :
    (intent.workloadID = w ∧ Publishable st v intent ∧ ∃ row',
      Unreserved (visitIntent v st intent) w row' ∧
        terminalStatus intent.terminalDisposition = some row'.status) ∨
    ¬ (intent.workloadID = w ∧ Publishable st v intent) ∧
      Unreserved (visitIntent v st intent) w row := by
  have hframe := visitIntent_frame h.keyed v intent
  have hkeyed := hframe.keyed h.keyed
  by_cases hw : intent.workloadID = w
  · have hl := h.stored
    rw [← hw] at hl
    by_cases hpub : Publishable st v intent
    · obtain ⟨row', hl', hu', hst⟩ := visitIntent_publishes h.keyed hpub hl h.unreserved
      exact .inl ⟨hw, hpub, row', ⟨hkeyed, hw ▸ hl', hu'⟩, hst⟩
    · have hl' := visitIntent_keeps h.keyed hpub hl h.unreserved
      exact .inr ⟨fun hboth => hpub hboth.2, hkeyed, hw ▸ hl', h.unreserved⟩
  · have hl' := (hframe.other w fun he => hw he.symm).trans h.stored
    exact .inr ⟨fun hboth => hw hboth.1, hkeyed, hl', h.unreserved⟩

def rowStatus (st : MemoryStore) (w : GoString) : Option WorkloadStatus :=
  (st.workloads.lookup w).map (·.status)

/-- A property of some split of a list holds at its head or further on. -/
theorem exists_split_cons {α : Type} {P : List α → α → Prop} (a : α) (l : List α) :
    (∃ l₁ b l₂, a :: l = l₁ ++ b :: l₂ ∧ P l₁ b) ↔
      P [] a ∨ ∃ l₁ b l₂, l = l₁ ++ b :: l₂ ∧ P (a :: l₁) b := by
  constructor
  · rintro ⟨_ | ⟨c, l₁⟩, b, l₂, hl, hP⟩
    · obtain ⟨rfl, rfl⟩ := List.cons.inj hl
      exact .inl hP
    · obtain ⟨rfl, rfl⟩ := List.cons.inj hl
      exact .inr ⟨l₁, b, l₂, rfl, hP⟩
  · rintro (hP | ⟨l₁, b, l₂, rfl, hP⟩)
    · exact ⟨[], a, l, rfl, hP⟩
    · exact ⟨a :: l₁, b, l₂, rfl, hP⟩

/-- The turn of an intent publishes the status for the workload: `before` has been visited. -/
structure PublishesAt (visits : ℕ → Visit) (n : ℕ) (st : MemoryStore) (w : GoString)
    (status : WorkloadStatus) (before : List AcceleratorLeaseCleanupIntent)
    (intent : AcceleratorLeaseCleanupIntent) : Prop where
  workload : intent.workloadID = w
  status : terminalStatus intent.terminalDisposition = some status
  publishable : Publishable (visitIntents visits n st before) (visits (n + before.length)) intent

theorem publishesAt_cons {visits : ℕ → Visit} {n : ℕ} {w : GoString}
    {i j : AcceleratorLeaseCleanupIntent} {before : List AcceleratorLeaseCleanupIntent} :
    PublishesAt visits n st w status (i :: before) j ↔
      PublishesAt visits (n + 1) (visitIntent (visits n) st i) w status before j := by
  have hturn : n + (i :: before).length = n + 1 + before.length := by
    simp only [List.length_cons]
    omega
  constructor <;> rintro ⟨hw, hs, hp⟩ <;> refine ⟨hw, hs, ?_⟩
  · rw [hturn] at hp
    exact hp
  · rw [hturn]
    exact hp

/-- **The loop** makes the status terminal exactly if it was before or some turn publishes it. -/
theorem Unreserved.visitIntents_status {w : GoString} (h : Unreserved st w row)
    (hs : isTerminalWorkloadStatus status = true) (visits : ℕ → Visit) (n : ℕ)
    (intents : List AcceleratorLeaseCleanupIntent) :
    rowStatus (visitIntents visits n st intents) w = some status ↔
      row.status = status ∨ ∃ before intent after, intents = before ++ intent :: after ∧
        PublishesAt visits n st w status before intent := by
  induction intents generalizing n st row with
  | nil => simp [visitIntents, rowStatus, h.stored]
  | cons i rest ih =>
    rw [exists_split_cons]
    simp only [publishesAt_cons]
    rcases h.visit (visits n) i with ⟨hw, hpub, row', h', hst⟩ | ⟨hno, h'⟩
    · -- the row was open, so it did not have the status, and has the intent's now
      have hne : row.status ≠ status := by
        obtain ⟨row₀, hl₀, hopen, -⟩ := hpub.row
        rw [hw, h.stored] at hl₀
        cases hl₀
        rintro rfl
        simp [hs] at hopen
      have hhead : PublishesAt visits n st w status [] i ↔ row'.status = status := by
        constructor
        · intro hp
          exact Option.mem_unique hst hp.status
        · rintro rfl
          exact ⟨hw, hst, hpub⟩
      rw [visitIntents, ih h', hhead]
      simp only [hne, false_or]
    · have hhead : ¬ PublishesAt visits n st w status [] i := fun hp =>
        hno ⟨hp.workload, hp.publishable⟩
      rw [visitIntents, ih h']
      simp only [hhead, false_or]

/-- **When a pass publishes**: exactly if the row has the status already, or an intent due for the
workload finds, at its turn, the accelerator free of other live leases and the row open at the
revision it expects. -/
theorem retry_publishes_iff {intent : AcceleratorLeaseCleanupIntent} {row : Workload}
    {status : WorkloadStatus} (hkeyed : RowsKeyed st)
    (hrow : st.workloads.lookup intent.workloadID = some row) (hbudget : row.unreserved = true)
    (hstatus : terminalStatus intent.terminalDisposition = some status) (now : GoTime)
    (order : List (Entry AcceleratorLeaseCleanupIntent)) (visits : ℕ → Visit) :
    rowStatus (retryAcceleratorLeaseCleanupIntents st now order visits) intent.workloadID =
        some status ↔
      row.status = status ∨ ∃ before i after, dueIntents now order = before ++ i :: after ∧
        PublishesAt visits 0 st intent.workloadID status before i :=
  Unreserved.visitIntents_status ⟨hkeyed, hrow, hbudget⟩ (terminalStatus_isTerminal hstatus)
    visits 0 _

/-! ## A workload that ends while another has its accelerator -/

/-- The row of a workload that has finished and waits for its status. -/
def endingRow : Workload := { requestID := "w", revision := 1, status := .running }

/-- The intent that is to publish it. Its release is confirmed. -/
def confirmedIntent : AcceleratorLeaseCleanupIntent :=
  { terminalIntent ⟨"gpu", "w", 1, ⟨60 * 10 ^ 9, 0⟩⟩ "w" 1 "success" ⟨0, 0⟩ with
    releaseConfirmed := true }

/-- The store of a controller that stopped after the confirmation; the accelerator is free. -/
def confirmedStore : MemoryStore :=
  { workloads := (∅ : GoMap Workload).insert "w" endingRow
    leaseFences := (∅ : GoMap Int64).insert "gpu" 1
    leaseCleanupIntents := (∅ : GoMap AcceleratorLeaseCleanupIntent).insert
      (leaseCleanupRecordKey confirmedIntent) confirmedIntent }

/-- The same store after another workload has taken the accelerator. -/
def takenStore : MemoryStore :=
  (acquireAcceleratorLease confirmedStore "gpu" "w2" [] (60 * 10 ^ 9) ⟨2 * 10 ^ 9, 0⟩
    (.ofStore confirmedStore)).1

def visitAt (now : GoTime) : Visit :=
  { preparedAt := now, clock := fun _ => now, confirmedAt := now, rescheduledAt := now
    finalization := { now, recordedAt := fun _ => now } }

/-- The pass over a store, five seconds after the intent was made. -/
def passOver (st : MemoryStore) : MemoryStore :=
  retryAcceleratorLeaseCleanupIntents st ⟨5 * 10 ^ 9, 0⟩ st.leaseCleanupIntents.entries
    fun _ => visitAt ⟨5 * 10 ^ 9, 0⟩

/-- With the accelerator free, the pass publishes the status. -/
theorem retry_publishes_when_free : rowStatus (passOver confirmedStore) "w" = some .succeeded := by
  have hkeyed : RowsKeyed confirmedStore := by
    have hframe : RowFrame "w" newMemoryStore confirmedStore :=
      .insert (show endingRow.requestID = "w" from rfl) rfl
    exact hframe.keyed fun id w hw => by simp [newMemoryStore] at hw
  have hrecord : Recordable confirmedStore { confirmedIntent with releaseConfirmed := true } := by
    refine ⟨validateLeaseCleanupIntent_eq_ok.1 rfl, fun existing he => ?_⟩
    have hstored : confirmedStore.leaseCleanupIntents.lookup
        (leaseCleanupRecordKey confirmedIntent) = some confirmedIntent := AList.lookup_insert _
    obtain rfl : confirmedIntent = existing := Option.mem_unique hstored he
    rfl
  have hrow : confirmedStore.workloads.lookup confirmedIntent.workloadID = some endingRow := rfl
  refine (retry_publishes_iff hkeyed hrow rfl rfl _ _ _).2
    (.inr ⟨[], confirmedIntent, [], by decide, rfl, rfl, ?_⟩)
  exact ⟨by decide, by simp [AcceleratorFree, visitIntents, confirmedStore], hrecord, rfl,
    endingRow, rfl, rfl, rfl⟩

/-- With the accelerator taken, the same pass over the same intent leaves the row running. -/
theorem retry_starved_by_other_lease :
    takenStore.leaseCleanupIntents.lookup (leaseCleanupRecordKey confirmedIntent) =
        some confirmedIntent ∧
      confirmedIntent.releaseConfirmed = true ∧
      terminalStatus confirmedIntent.terminalDisposition = some .succeeded ∧
      takenStore.workloads.lookup confirmedIntent.workloadID = some endingRow ∧
      endingRow.revision = confirmedIntent.expectedWorkloadRevision ∧
      endingRow.unreserved = true ∧
      rowStatus (passOver takenStore) confirmedIntent.workloadID = some .running := by
  decide +kernel

end VramGovernor.Workloads
