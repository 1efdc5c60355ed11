import VramGovernor.Store.CleanupIntents
import VramGovernor.Workloads.LeaseCleanup
import VramGovernor.Workloads.WorkloadRows

/-!
# Finalizing a terminal intent

When the lease of a terminal cleanup intent is released, `finalizeTerminalLeaseIntent` publishes the
status of the workload, then the audit event, the notification and the settlement of the budget, and
records each in the intent. It changes at most the row of its own workload (`finalize_frame`). It
swaps that row when it is `Ready` to, and a row without a reservation then has the status of the
intent (`finalize_publishes`).
-/

namespace VramGovernor.Workloads

open GoString Store

/-! ## The steps -/

/-- The status that a terminal disposition stands for. -/
def terminalStatus (disposition : GoString) : Option WorkloadStatus :=
  if disposition = "success" then some .succeeded
  else if disposition = "failure" then some .failed
  else if disposition = "cancel" then some .cancelled else none

/-- The steps of a finalization that are recorded in the intent. -/
inductive FinalizeStage
  | terminal
  | audit
  | notification
  | budget

/-- What a finalization meets: the clock, the answers of the audit log and the notification queue,
and what a settlement makes of a row with a reservation. -/
structure Finalization where
  now : GoTime
  recordedAt : FinalizeStage → GoTime
  (audit notification : Option GoError := none)
  settled : Workload → Workload := id

/-- A row without a reservation, or with a cancellation owner, is left as it is. -/
def settleWorkloadBudget (f : Finalization) (st : MemoryStore) (workload : Workload) :
    MemoryStore :=
  if budgetActualCents workload ≤ 0 then st
  else
    match getWorkload st workload.requestID with
    | .error _ => st
    | .ok latest =>
      if latest.cancellationOwner ≠ [] then st
      else if latest.unreserved then st
      else
        let row := { f.settled latest with requestID := latest.requestID }
        { st with workloads := st.workloads.insert workload.requestID row }

def openStatuses : List WorkloadStatus := [.queued, .waiting, .running, .pendingApproval]

def terminalRow (f : Finalization) (intent : AcceleratorLeaseCleanupIntent) (workload : Workload)
    (status : WorkloadStatus) : Workload :=
  { workload with
    status
    updatedAt := f.now.utc
    finishedAt := some f.now.utc
    cancellationOwner :=
      if intent.terminalDisposition = "cancel" then [] else workload.cancellationOwner }

/-- The row of the workload is brought to the status of the intent, unless it has it already. -/
def publishTerminalStatus (f : Finalization) (st : MemoryStore)
    (intent : AcceleratorLeaseCleanupIntent) (workload : Workload) (status : WorkloadStatus) :
    MemoryStore × Option GoError :=
  if isTerminalWorkloadStatus workload.status then
    if workload.status ≠ status then
      (st, some (errWorkloadConflict.wrapf "terminal continuation disposition mismatch"))
    else (st, none)
  else if intent.expectedWorkloadRevision = 0 ||
      workload.revision ≠ intent.expectedWorkloadRevision then
    (st, some (errWorkloadConflict.wrapf
      ("terminal continuation revision drift expected=" ++
        sprint intent.expectedWorkloadRevision.toNat ++ " actual=" ++
        sprint workload.revision.toNat)))
  else
    match replaceWorkloadCAS st (terminalRow f intent workload status) openStatuses
        workload.cancellationOwner with
    | (st', .error e) => (st', some e)
    | (st', .ok _) => (st', none)

/-- What a finalization returns: the store, the intent as far as it got, and its error. -/
abbrev Finalized := MemoryStore × AcceleratorLeaseCleanupIntent × Option GoError

/-- A side effect that is still to be published, and its record. -/
def sideEffect (published : Bool) (marked : AcceleratorLeaseCleanupIntent) (now : GoTime)
    (effect : MemoryStore → MemoryStore × Option GoError) (st : MemoryStore)
    (intent : AcceleratorLeaseCleanupIntent) : Finalized :=
  if published then (st, intent, none)
  else
    match effect st with
    | (st', some e) => (st', intent, some e)
    | (st', none) =>
      match recordAcceleratorLeaseCleanupIntent st' marked now with
      | (st'', .error e) => (st'', marked, some e)
      | (st'', .ok _) => (st'', marked, none)

/-- Go on after a step that succeeded. -/
def Finalized.andThen (r : Finalized)
    (next : MemoryStore → AcceleratorLeaseCleanupIntent → Finalized) : Finalized :=
  match r with
  | (st, intent, none) => next st intent
  | (st, intent, some e) => (st, intent, some e)

/-- The settlement of the budget, which must not stay pending. -/
def settleStage (f : Finalization) (workload : Workload) (workloadID : GoString)
    (st : MemoryStore) : MemoryStore × Option GoError :=
  let st := settleWorkloadBudget f st workload
  match getWorkload st workloadID with
  | .error e => (st, some e)
  | .ok latest =>
    (st, if latest.budgetSettlementPending then some ⟨"budget settlement remains pending", none⟩
      else none)

/-- The audit event, the notification and the settlement, each once. -/
def publishSideEffects (f : Finalization) (st : MemoryStore)
    (intent : AcceleratorLeaseCleanupIntent) (workload : Workload) : Finalized :=
  Finalized.andThen
    (sideEffect intent.auditPublished { intent with auditPublished := true }
      (f.recordedAt .audit) (fun st => (st, f.audit)) st intent) fun st intent =>
  Finalized.andThen
    (sideEffect intent.notificationPublished { intent with notificationPublished := true }
      (f.recordedAt .notification) (fun st => (st, f.notification)) st intent) fun st intent =>
  sideEffect intent.budgetSettled { intent with budgetSettled := true }
    (f.recordedAt .budget) (settleStage f workload intent.workloadID) st intent

/-- After the publication: record it and go on with the side effects of the row as it is now. -/
def recordPublication (f : Finalization) (intent : AcceleratorLeaseCleanupIntent) :
    MemoryStore × Option GoError → Finalized
  | (st, some e) => (st, intent, some e)
  | (st, none) =>
    let intent := { intent with terminalPublished := true }
    match recordAcceleratorLeaseCleanupIntent st intent (f.recordedAt .terminal) with
    | (st', .error e) => (st', intent, some e)
    | (st', .ok _) =>
      match getWorkload st' intent.workloadID with
      | .error e => (st', intent, some e)
      | .ok workload => publishSideEffects f st' intent workload

/-- `finalizeTerminalLeaseIntent`, for an intent with a disposition. -/
def finalizeTerminalLeaseIntent (f : Finalization) (st : MemoryStore)
    (intent : AcceleratorLeaseCleanupIntent) : Finalized :=
  match getWorkload st intent.workloadID with
  | .error e => (st, intent, some e)
  | .ok workload =>
    if !intent.releaseConfirmed then
      (st, intent, some ⟨"terminal continuation release is not confirmed", none⟩)
    else
      match terminalStatus intent.terminalDisposition with
      | none =>
        (st, intent, some ⟨"unknown terminal lease disposition \"" ++
          intent.terminalDisposition ++ "\"", none⟩)
      | some status =>
        if intent.terminalPublished then publishSideEffects f st intent workload
        else recordPublication f intent (publishTerminalStatus f st intent workload status)

/-! ## What happens to the rows -/

variable {id : GoString} {st st' st'' : MemoryStore} {f : Finalization}
  {intent : AcceleratorLeaseCleanupIntent} {workload row : Workload} {status : WorkloadStatus}

/-- Between the two states at most the row of `id` has changed, and it has stayed in its place. -/
structure RowFrame (id : GoString) (st st' : MemoryStore) : Prop where
  other : ∀ k, k ≠ id → st'.workloads.lookup k = st.workloads.lookup k
  keyed : RowsKeyed st → RowsKeyed st'

/-- The row of `id` has not changed either, unless it has a reservation. -/
structure KeepsRows (id : GoString) (st st' : MemoryStore) : Prop extends RowFrame id st st' where
  row : ∀ row, st.workloads.lookup id = some row → row.unreserved = true →
    st'.workloads.lookup id = some row

theorem rowsKeyed_of_eq (hk : RowsKeyed st) (h : st'.workloads = st.workloads) : RowsKeyed st' := by
  simpa only [RowsKeyed, h] using hk

theorem KeepsRows.of_eq (h : st'.workloads = st.workloads) : KeepsRows id st st' :=
  ⟨⟨fun k _ => by rw [h], fun hk => rowsKeyed_of_eq hk h⟩, fun row hr _ => by rw [h, hr]⟩

theorem RowFrame.trans (h : RowFrame id st st') (h' : RowFrame id st' st'') : RowFrame id st st'' :=
  ⟨fun k hk => (h'.other k hk).trans (h.other k hk), fun hk => h'.keyed (h.keyed hk)⟩

theorem KeepsRows.trans (h : KeepsRows id st st') (h' : KeepsRows id st' st'') :
    KeepsRows id st st'' :=
  ⟨h.toRowFrame.trans h'.toRowFrame, fun row hr hu => h'.row row (h.row row hr hu) hu⟩

theorem RowFrame.insert (hid : row.requestID = id)
    (h : st'.workloads = st.workloads.insert id row) : RowFrame id st st' := by
  refine ⟨fun k hk => by rw [h, AList.lookup_insert_ne hk], fun hkeyed k w hw => ?_⟩
  rw [h] at hw
  by_cases hk : k = id
  · subst hk
    rw [AList.lookup_insert] at hw
    cases hw
    exact hid
  · rw [AList.lookup_insert_ne hk] at hw
    exact hkeyed k w hw

theorem settleWorkloadBudget_keeps (f : Finalization) (st : MemoryStore) (workload : Workload) :
    KeepsRows workload.requestID st (settleWorkloadBudget f st workload) := by
  have hsame : KeepsRows workload.requestID st st := .of_eq rfl
  simp only [settleWorkloadBudget, getWorkload]
  split_ifs
  · exact hsame
  · cases hl : st.workloads.lookup workload.requestID with
    | none => exact hsame
    | some latest =>
      dsimp only
      split_ifs with _ hu
      · exact hsame
      · exact hsame
      · refine ⟨⟨fun k hk => AList.lookup_insert_ne hk, fun hkeyed => ?_⟩, fun row hr hru => ?_⟩
        · have hid : Workload.requestID { f.settled latest with requestID := latest.requestID } =
              workload.requestID := hkeyed _ latest hl
          exact (RowFrame.insert hid rfl).keyed hkeyed
        · rw [hl] at hr
          cases hr
          exact absurd hru hu

theorem sideEffect_keeps {published : Bool} {marked : AcceleratorLeaseCleanupIntent} {now : GoTime}
    {effect : MemoryStore → MemoryStore × Option GoError}
    (heffect : KeepsRows id st (effect st).1) :
    KeepsRows id st (sideEffect published marked now effect st intent).1 := by
  unfold sideEffect
  split_ifs
  · exact .of_eq rfl
  · split
    · next he => rw [he] at heffect; exact heffect
    · next st' he =>
      rw [he] at heffect
      have hrec := (sameButIntents_record st' marked now).workloads
      split <;> next hr =>
        rw [hr] at hrec
        exact heffect.trans (.of_eq hrec)

theorem Finalized.andThen_keeps {r : Finalized}
    {next : MemoryStore → AcceleratorLeaseCleanupIntent → Finalized} (hr : KeepsRows id st r.1)
    (hnext : ∀ st intent, KeepsRows id st (next st intent).1) :
    KeepsRows id st (r.andThen next).1 := by
  obtain ⟨st', intent, none | e⟩ := r
  · exact hr.trans (hnext st' intent)
  · exact hr

theorem publishSideEffects_keeps (f : Finalization) (st : MemoryStore)
    (intent : AcceleratorLeaseCleanupIntent) (workload : Workload) :
    KeepsRows workload.requestID st (publishSideEffects f st intent workload).1 := by
  refine Finalized.andThen_keeps (sideEffect_keeps (.of_eq rfl)) fun st intent => ?_
  refine Finalized.andThen_keeps (sideEffect_keeps (.of_eq rfl)) fun st intent => ?_
  refine sideEffect_keeps ?_
  simp only [settleStage]
  split <;> exact settleWorkloadBudget_keeps f st workload

/-- The finalization is about to publish the status. -/
structure Ready (intent : AcceleratorLeaseCleanupIntent) (workload : Workload)
    (status : WorkloadStatus) : Prop where
  confirmed : intent.releaseConfirmed = true
  status : terminalStatus intent.terminalDisposition = some status
  unpublished : intent.terminalPublished = false
  still_open : isTerminalWorkloadStatus workload.status = false
  expected : intent.expectedWorkloadRevision ≠ 0
  revision : workload.revision = intent.expectedWorkloadRevision

def swapped (f : Finalization) (st : MemoryStore) (intent : AcceleratorLeaseCleanupIntent)
    (workload : Workload) (status : WorkloadStatus) : MemoryStore :=
  (replaceWorkloadCAS st (terminalRow f intent workload status) openStatuses
    workload.cancellationOwner).1

theorem rowFrame_swapped (f : Finalization) (st : MemoryStore)
    (intent : AcceleratorLeaseCleanupIntent) (workload : Workload) (status : WorkloadStatus) :
    RowFrame workload.requestID st (swapped f st intent workload status) := by
  unfold swapped
  rcases replaceWorkloadCAS_cases st (terminalRow f intent workload status) openStatuses
    workload.cancellationOwner with ⟨e, h⟩ | ⟨row, hid, h⟩
  · rw [h]
    exact (KeepsRows.of_eq rfl).toRowFrame
  · rw [h]
    exact .insert hid rfl

theorem publishTerminalStatus_of_ready (f : Finalization) (st : MemoryStore)
    (h : Ready intent workload status) :
    (publishTerminalStatus f st intent workload status).1 =
      swapped f st intent workload status := by
  unfold publishTerminalStatus swapped
  rw [if_neg (by simp [h.still_open]), if_neg (by simp [h.expected, h.revision])]
  split <;> next he => rw [he]

theorem publishTerminalStatus_of_not_ready (f : Finalization) (st : MemoryStore)
    (hc : intent.releaseConfirmed = true)
    (hs : terminalStatus intent.terminalDisposition = some status)
    (hp : intent.terminalPublished = false) (h : ¬ Ready intent workload status) :
    (publishTerminalStatus f st intent workload status).1 = st := by
  unfold publishTerminalStatus
  split_ifs with hterm hne hrev
  · rfl
  · rfl
  · rfl
  · simp only [Bool.or_eq_true, decide_eq_true_eq, not_or, not_not] at hrev
    exact absurd ⟨hc, hs, hp, by simpa using hterm, hrev.1, hrev.2⟩ h

theorem recordPublication_keeps (f : Finalization) (intent : AcceleratorLeaseCleanupIntent)
    {r : MemoryStore × Option GoError} (hk : RowsKeyed r.1) :
    KeepsRows intent.workloadID r.1 (recordPublication f intent r).1 := by
  obtain ⟨st, _ | e⟩ := r
  · have hrec := (sameButIntents_record st { intent with terminalPublished := true }
      (f.recordedAt .terminal)).workloads
    dsimp only [recordPublication] at hk ⊢
    split
    · next he => rw [he] at hrec; exact .of_eq hrec
    · next st' _ he =>
      rw [he] at hrec
      have hrows : KeepsRows intent.workloadID st st' := .of_eq hrec
      cases hl : st'.workloads.lookup intent.workloadID with
      | none => simpa only [getWorkload, hl] using hrows
      | some workload =>
        have hside := publishSideEffects_keeps f st' { intent with terminalPublished := true }
          workload
        rw [hrows.keyed hk _ _ hl] at hside
        simpa only [getWorkload, hl] using hrows.trans hside
  · exact .of_eq rfl

/-! ## A finalization -/

theorem finalizeTerminalLeaseIntent_eq (hl : st.workloads.lookup intent.workloadID = some workload)
    (hc : intent.releaseConfirmed = true)
    (hs : terminalStatus intent.terminalDisposition = some status)
    (hp : intent.terminalPublished = false) :
    finalizeTerminalLeaseIntent f st intent =
      recordPublication f intent (publishTerminalStatus f st intent workload status) := by
  unfold finalizeTerminalLeaseIntent
  simp only [getWorkload, hl, hs]
  rw [if_neg (by simp [hc]), if_neg (by simp [hp])]

/-- A finalization that is ready swaps the row, and then keeps it. -/
theorem finalize_of_ready (f : Finalization) (hk : RowsKeyed st)
    (hl : st.workloads.lookup intent.workloadID = some workload)
    (h : Ready intent workload status) :
    RowFrame intent.workloadID st (swapped f st intent workload status) ∧
    KeepsRows intent.workloadID (swapped f st intent workload status)
      (finalizeTerminalLeaseIntent f st intent).1 := by
  have hframe := rowFrame_swapped f st intent workload status
  rw [hk _ _ hl] at hframe
  refine ⟨hframe, ?_⟩
  have hpub := publishTerminalStatus_of_ready f st h
  rw [finalizeTerminalLeaseIntent_eq hl h.confirmed h.status h.unpublished, ← hpub]
  exact recordPublication_keeps f intent (by rw [hpub]; exact hframe.keyed hk)

theorem finalize_of_not_ready (f : Finalization) (intent : AcceleratorLeaseCleanupIntent)
    (hk : RowsKeyed st)
    (h : ∀ workload status, st.workloads.lookup intent.workloadID = some workload →
      ¬ Ready intent workload status) :
    KeepsRows intent.workloadID st (finalizeTerminalLeaseIntent f st intent).1 := by
  cases hl : st.workloads.lookup intent.workloadID with
  | none => simpa only [finalizeTerminalLeaseIntent, getWorkload, hl] using .of_eq rfl
  | some workload =>
    have hid := hk _ _ hl
    by_cases hp : intent.terminalPublished = true
    · simp only [finalizeTerminalLeaseIntent, getWorkload, hl, hp, if_true]
      split_ifs
      · exact .of_eq rfl
      · split
        · exact .of_eq rfl
        · exact hid ▸ publishSideEffects_keeps f st intent workload
    · by_cases hc : intent.releaseConfirmed = true
      · cases hs : terminalStatus intent.terminalDisposition with
        | none =>
          simp only [finalizeTerminalLeaseIntent, getWorkload, hl, hs, hc]
          exact .of_eq rfl
        | some status =>
          have hp' : intent.terminalPublished = false := by simpa using hp
          have hpub := publishTerminalStatus_of_not_ready f st hc hs hp' (h workload status hl)
          have hrest := recordPublication_keeps f intent
            (r := publishTerminalStatus f st intent workload status) (by rw [hpub]; exact hk)
          rw [hpub] at hrest
          rw [finalizeTerminalLeaseIntent_eq hl hc hs hp']
          exact hrest
      · simp only [finalizeTerminalLeaseIntent, getWorkload, hl, hc, Bool.not_false, if_true]
        exact .of_eq rfl

theorem finalize_frame (f : Finalization) (intent : AcceleratorLeaseCleanupIntent)
    (hk : RowsKeyed st) :
    RowFrame intent.workloadID st (finalizeTerminalLeaseIntent f st intent).1 := by
  by_cases h : ∃ workload status, st.workloads.lookup intent.workloadID = some workload ∧
      Ready intent workload status
  · obtain ⟨workload, status, hl, hready⟩ := h
    obtain ⟨hswap, hrest⟩ := finalize_of_ready f hk hl hready
    exact hswap.trans hrest.toRowFrame
  · exact (finalize_of_not_ready f intent hk fun workload status hl hready =>
      h ⟨workload, status, hl, hready⟩).toRowFrame

/-- **A row without a reservation gets the status** that the finalization is ready to publish. -/
theorem finalize_publishes (f : Finalization) (hk : RowsKeyed st)
    (hl : st.workloads.lookup intent.workloadID = some workload) (hu : workload.unreserved = true)
    (h : Ready intent workload status) :
    ∃ row, (finalizeTerminalLeaseIntent f st intent).1.workloads.lookup intent.workloadID =
      some row ∧ row.unreserved = true ∧ row.status = status := by
  obtain ⟨-, hrest⟩ := finalize_of_ready f hk hl h
  have hid := hk _ _ hl
  have hopen : workload.status ∈ openStatuses := by
    have := h.still_open
    cases hst : workload.status <;> simp [hst, isTerminalWorkloadStatus, openStatuses] at this ⊢
  have hl' : st.workloads.lookup (terminalRow f intent workload status).requestID =
      some workload := by
    rw [← hl, ← hid]
    rfl
  have hswap := replaceWorkloadCAS_of_unreserved hl' rfl hopen h.still_open hu
  have hrow : (swapped f st intent workload status).workloads.lookup intent.workloadID =
      some (nextRevision workload (terminalRow f intent workload status)) := by
    rw [swapped, hswap, ← hid]
    exact AList.lookup_insert _
  exact ⟨_, hrest.row _ hrow hu, hu, rfl⟩

end VramGovernor.Workloads
