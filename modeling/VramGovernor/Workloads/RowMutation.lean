import VramGovernor.Foundations.Goroutines
import VramGovernor.Workloads.WorkloadRows

/-!
# Changing workload rows

`mutateWorkloadCAS` reads a row, runs a callback on it and swaps the result in, with eight attempts;
`replaceWorkloadCAS` has one attempt, with a projection that its caller made of the same revision.
Both refuse to change a terminal status, and complete the settlement intent of a terminal row,
unless the change clears the one it had. The two are cut at their accesses to the store; the
callbacks are arbitrary. Over all interleavings, terminal statuses are final and terminal rows are
stored with the settlement of their reservation (`terminal_rows_final_and_settled`).
-/

namespace VramGovernor.Workloads

open Store

/-! ## The helpers -/

/-- A call of a helper. The callback is given the number of the attempt. -/
inductive RowCall
  | mutateWorkloadCAS (id : GoString) (allowed : List WorkloadStatus) (owner : GoString)
      (mutate : ℕ → Workload → Except GoError Workload)
  | replaceWorkloadCAS (desired : Workload) (allowed : List WorkloadStatus) (owner : GoString)

open RowCall

/-- The intent of the new row is completed, unless the old row had one that the new row clears. -/
def settleUnlessCleared (current w : Workload) : Except GoError Workload :=
  if current.budgetSettlementPending && !w.budgetSettlementPending then .ok w
  else ensureBudgetSettlementIntent w

/-- What `mutateWorkloadCAS` makes of the row it has read. -/
def mutation (current : Workload) (allowed : List WorkloadStatus) (owner : GoString)
    (mutate : Workload → Except GoError Workload) : Except GoError Workload :=
  if current.status ∉ allowed || current.cancellationOwner ≠ owner then .error errWorkloadConflict
  else do
    let mutated ← mutate current
    let settled ← settleUnlessCleared current mutated
    if isTerminalWorkloadStatus current.status && settled.status ≠ current.status then
      .error errWorkloadConflict
    else .ok settled

/-- What `replaceWorkloadCAS` makes of the row it has read. -/
def projection (current desired : Workload) (allowed : List WorkloadStatus) (owner : GoString) :
    Except GoError Workload :=
  if desired.revision ≠ current.revision || current.status ∉ allowed ||
      current.cancellationOwner ≠ owner then .error errWorkloadConflict
  else if isTerminalWorkloadStatus current.status && desired.status ≠ current.status then
    .error errWorkloadConflict
  else settleUnlessCleared current { desired with cancellationOwner := owner }

namespace RowCall

def workloadID : RowCall → GoString
  | mutateWorkloadCAS id _ _ _ => id
  | replaceWorkloadCAS desired _ _ => desired.requestID

def owner : RowCall → GoString
  | mutateWorkloadCAS _ _ owner _ => owner
  | replaceWorkloadCAS _ _ owner => owner

/-- The candidate for the row that the attempt has read. -/
def prepare (attempt : ℕ) (current : Workload) : RowCall → Except GoError Workload
  | mutateWorkloadCAS _ allowed owner mutate => mutation current allowed owner (mutate attempt)
  | replaceWorkloadCAS desired allowed owner => projection current desired allowed owner

def attempts : RowCall → ℕ
  | mutateWorkloadCAS .. => 8
  | replaceWorkloadCAS .. => 1

end RowCall

/-- Where a call is. -/
inductive RowPlace
  /-- Before the read of an attempt. -/
  | reading (attempt : ℕ)
  /-- Before the swap of an attempt. -/
  | swapping (attempt : ℕ) (current candidate : Workload)
  | returned (r : Except GoError Workload)

structure RowRoutine where
  call : RowCall
  place : RowPlace

open RowRoutine

def RowCall.enter (c : RowCall) : RowRoutine :=
  if c.workloadID = [] && c.attempts ≠ 1 then
    ⟨c, .returned (.error ⟨"workload mutation requires id and callback", none⟩)⟩
  else ⟨c, .reading 0⟩

/-- One step of a helper. The context may have ended when an attempt begins. -/
def RowRoutine.exec (m : MemoryStore) (g : RowRoutine) (ctxErr : Option GoError) :
    MemoryStore × RowRoutine :=
  match g.place with
  | .reading attempt =>
    if g.call.attempts ≤ attempt then
      (m, { g with place := .returned (.error errWorkloadConflict) })
    else match ctxErr with
      | some e => (m, { g with place := .returned (.error e) })
      | none =>
        match getWorkload m g.call.workloadID with
        | .error e => (m, { g with place := .returned (.error e) })
        | .ok current =>
          match g.call.prepare attempt current with
          | .error e => (m, { g with place := .returned (.error e) })
          | .ok candidate => (m, { g with place := .swapping attempt current candidate })
  | .swapping attempt current candidate =>
    match compareAndSwapWorkload m candidate current.revision current.status g.call.owner with
    | (m', .ok updated) => (m', { g with place := .returned (.ok updated) })
    | (m', .error e) =>
      if e.is errWorkloadConflict then (m', { g with place := .reading (attempt + 1) })
      else (m', { g with place := .returned (.error e) })
  | .returned _ => (m, g)

/-- Any number of calls of the helpers over one store. -/
def rowWriters : Program MemoryStore RowRoutine RowCall (Option GoError) Empty where
  enter := RowCall.enter
  exec := RowRoutine.exec
  env m _ := m
  restart m := m

/-! ## Candidates -/

/-- A terminal row with a reservation carries the settlement of that reservation, at its price. -/
def Settled (w : Workload) : Prop :=
  isTerminalWorkloadStatus w.status = true → w.unreserved = false →
    w.budgetSettlementPending = true ∧
      w.budgetSettlementAttempt = w.budgetReservationAttempt ∧
      w.budgetSettlementActualCents = budgetActualCents w

/-- The new row has no settlement where the old one had. -/
def Clears (current w : Workload) : Prop :=
  current.budgetSettlementPending = true ∧ w.budgetSettlementPending = false

variable {current candidate : Workload} {m : MemoryStore} {g : RowRoutine}

/-- The intent is all that is added to a row. -/
theorem settleUnlessCleared_cases {w w' : Workload} (h : settleUnlessCleared current w = .ok w') :
    (w' = w ∨ w' = { w with
        actualCostCents := budgetActualCents w
        budgetSettlementPending := true
        budgetSettlementAttempt := w.budgetReservationAttempt
        budgetSettlementActualCents := budgetActualCents w }) ∧
      (Clears current w' ∨ Settled w') := by
  simp only [settleUnlessCleared, ensureBudgetSettlementIntent] at h
  split_ifs at h with hclear hskip hprice hpending hother <;> cases h
  · simp only [Bool.and_eq_true, Bool.not_eq_true'] at hclear
    exact ⟨.inl rfl, .inl hclear⟩
  · refine ⟨.inl rfl, .inr fun hterminal hreserved => ?_⟩
    simp [hterminal, hreserved] at hskip
  · simp only [Bool.or_eq_true, decide_eq_true_eq, ne_eq, not_or, not_not] at hother
    exact ⟨.inl rfl, .inr fun _ _ => ⟨hpending, hother.1, hother.2⟩⟩
  · exact ⟨.inr rfl, .inr fun _ _ => ⟨rfl, rfl, rfl⟩⟩

/-- What the intent leaves alone. -/
theorem settleUnlessCleared_frame {w w' : Workload} (h : settleUnlessCleared current w = .ok w') :
    w'.status = w.status ∧ w'.requestID = w.requestID ∧
      w'.cancellationOwner = w.cancellationOwner := by
  rcases (settleUnlessCleared_cases h).1 with rfl | rfl <;> exact ⟨rfl, rfl, rfl⟩

variable {allowed : List WorkloadStatus}

variable {owner : GoString}

theorem mutation_ok {mutate : Workload → Except GoError Workload}
    (h : mutation current allowed owner mutate = .ok candidate) :
    current.status ∈ allowed ∧ current.cancellationOwner = owner ∧
      (isTerminalWorkloadStatus current.status = true → candidate.status = current.status) ∧
      ∃ mutated, mutate current = .ok mutated ∧
        settleUnlessCleared current mutated = .ok candidate := by
  unfold mutation at h
  split_ifs at h with hguard
  simp only [Bool.or_eq_true, decide_eq_true_eq, ne_eq, not_or, not_not] at hguard
  obtain ⟨mutated, hmutate, h⟩ := bind_eq_ok.1 h
  obtain ⟨settled, hsettle, h⟩ := bind_eq_ok.1 h
  split_ifs at h with hfinal
  cases h
  refine ⟨hguard.1, hguard.2, fun hterminal => ?_, mutated, hmutate, hsettle⟩
  simpa [hterminal] using hfinal

theorem projection_ok {desired : Workload}
    (h : projection current desired allowed owner = .ok candidate) :
    desired.revision = current.revision ∧ current.status ∈ allowed ∧
      current.cancellationOwner = owner ∧
      (isTerminalWorkloadStatus current.status = true → candidate.status = current.status) ∧
      settleUnlessCleared current { desired with cancellationOwner := owner } = .ok candidate := by
  unfold projection at h
  split_ifs at h with hguard hfinal
  simp only [Bool.or_eq_true, decide_eq_true_eq, ne_eq, not_or, not_not] at hguard
  refine ⟨hguard.1.1, hguard.1.2, hguard.2, fun hterminal => ?_, h⟩
  rw [(settleUnlessCleared_frame h).1]
  simpa [hterminal] using hfinal

variable {attempt : ℕ}

/-- **A candidate keeps a terminal status, and it is settled or clears the settlement of the row
that was read.** -/
theorem RowCall.prepare_ok {c : RowCall} (h : c.prepare attempt current = .ok candidate) :
    (isTerminalWorkloadStatus current.status = true → candidate.status = current.status) ∧
      (Clears current candidate ∨ Settled candidate) := by
  cases c with
  | mutateWorkloadCAS id allowed owner mutate =>
    obtain ⟨-, -, hfinal, mutated, -, hsettle⟩ := mutation_ok h
    exact ⟨hfinal, (settleUnlessCleared_cases hsettle).2⟩
  | replaceWorkloadCAS desired allowed owner =>
    obtain ⟨-, -, -, hfinal, hsettle⟩ := projection_ok h
    exact ⟨hfinal, (settleUnlessCleared_cases hsettle).2⟩

/-- Without other writers between its two accesses, a replacement is the one of `WorkloadRows`. -/
theorem replaceWorkloadCAS_eq (m : MemoryStore) (desired : Workload)
    (allowed : List WorkloadStatus) (owner : GoString) :
    replaceWorkloadCAS m desired allowed owner =
      match getWorkload m desired.requestID with
      | .error e => (m, .error e)
      | .ok current =>
        match projection current desired allowed owner with
        | .error e => (m, .error e)
        | .ok candidate =>
          compareAndSwapWorkload m candidate current.revision current.status owner := by
  unfold replaceWorkloadCAS
  cases getWorkload m desired.requestID with
  | error e => rfl
  | ok current =>
    simp only [projection, settleUnlessCleared]
    split_ifs <;> rfl

/-! ## Steps -/

/-- A call before its swap has prepared the candidate from the row it has read. -/
def RowRoutine.Prepared (g : RowRoutine) : Prop :=
  ∀ attempt current candidate, g.place = .swapping attempt current candidate →
    g.call.prepare attempt current = .ok candidate

theorem RowCall.enter_call (c : RowCall) : c.enter.call = c := by
  unfold enter
  split_ifs <;> rfl

theorem RowCall.enter_prepared (c : RowCall) : c.enter.Prepared := by
  intro attempt current candidate hplace
  unfold enter at hplace
  split_ifs at hplace

/-- A swap that the store accepts: it names the stored row, which is replaced by the candidate. -/
structure RowRoutine.Commits (m : MemoryStore) (g : RowRoutine) (attempt : ℕ)
    (current candidate stored : Workload) : Prop where
  place : g.place = .swapping attempt current candidate
  lookup : m.workloads.lookup candidate.requestID = some stored
  revision : stored.revision = current.revision
  status : stored.status = current.status
  owner : stored.cancellationOwner = g.call.owner
  recorded : workloadRequiresSettlementIntent candidate = true →
    settlementRecorded stored candidate = true

/-- The candidate as the store keeps it. -/
def committedRow (current candidate : Workload) : Workload :=
  { candidate with revision := current.revision + 1 }

section Exec

variable {m : MemoryStore} {g : RowRoutine} {ctxErr : Option GoError}

/-- **What a step of a helper can do**: nothing to the store, or its one commit. -/
inductive RowStep (m : MemoryStore) (g : RowRoutine) : MemoryStore × RowRoutine → Prop
  | fail (e : GoError) : RowStep m g (m, { g with place := .returned (.error e) })
  | read (attempt : ℕ) (current candidate : Workload)
      (hl : m.workloads.lookup g.call.workloadID = some current)
      (hprep : g.call.prepare attempt current = .ok candidate) :
      RowStep m g (m, { g with place := .swapping attempt current candidate })
  | retry (attempt : ℕ) : RowStep m g (m, { g with place := .reading attempt })
  | commit (attempt : ℕ) (current candidate stored : Workload)
      (h : g.Commits m attempt current candidate stored) :
      RowStep m g
        ({ m with workloads :=
            m.workloads.insert candidate.requestID (committedRow current candidate) },
          { g with place := .returned (.ok (committedRow current candidate)) })
  | rest (r : Except GoError Workload) (hplace : g.place = .returned r) : RowStep m g (m, g)

theorem RowRoutine.exec_step (m : MemoryStore) (g : RowRoutine) (ctxErr : Option GoError) :
    RowStep m g (g.exec m ctxErr) := by
  obtain ⟨c, place⟩ := g
  cases place with
  | reading attempt =>
    simp only [exec]
    split_ifs
    · exact .fail errWorkloadConflict
    · cases ctxErr with
      | some e => exact .fail e
      | none =>
        cases hget : getWorkload m c.workloadID with
        | error e => exact .fail e
        | ok current =>
          dsimp only
          cases hprep : c.prepare attempt current with
          | error e => exact .fail e
          | ok candidate => exact .read attempt current candidate (getWorkload_ok hget) hprep
  | swapping attempt current candidate =>
    simp only [exec]
    rcases compareAndSwapWorkload_accepted m candidate current.revision current.status c.owner with
      ⟨e, heq⟩ | ⟨stored, hl, hrev, hstatus, howner, hrecorded, heq⟩
    · rw [heq]
      dsimp only
      split_ifs
      · exact .retry (attempt + 1)
      · exact .fail e
    · rw [heq]
      exact .commit attempt current candidate stored ⟨rfl, hl, hrev, hstatus, howner, hrecorded⟩
  | returned r => exact .rest r rfl

theorem RowRoutine.exec_call : (g.exec m ctxErr).2.call = g.call := by
  have hstep := g.exec_step m ctxErr
  generalize g.exec m ctxErr = p at hstep ⊢
  cases hstep <;> rfl

/-- A call comes to its swap from the read of its row. -/
theorem RowRoutine.exec_swapping {current candidate : Workload}
    (h : (g.exec m ctxErr).2.place = .swapping attempt current candidate) :
    m.workloads.lookup g.call.workloadID = some current ∧
      g.call.prepare attempt current = .ok candidate := by
  have hstep := g.exec_step m ctxErr
  generalize g.exec m ctxErr = p at hstep h
  cases hstep with
  | fail e => cases h
  | read attempt' current' candidate' hl hprep =>
    cases h
    exact ⟨hl, hprep⟩
  | retry attempt' | commit attempt' current' candidate' stored hcommit => cases h
  | rest r hplace =>
    rw [hplace] at h
    cases h

theorem RowRoutine.exec_prepared : (g.exec m ctxErr).2.Prepared := by
  intro attempt current candidate hplace
  rw [exec_call]
  exact (exec_swapping hplace).2

end Exec

/-- A call that has not committed. Before its swap it has read the row of its id. -/
structure RowRoutine.Ready (g : RowRoutine) : Prop where
  prepared : g.Prepared
  keyed : ∀ attempt current candidate, g.place = .swapping attempt current candidate →
    current.requestID = g.call.workloadID
  running : ∀ row, g.place ≠ .returned (.ok row)

theorem RowCall.enter_ready (c : RowCall) : c.enter.Ready := by
  refine ⟨c.enter_prepared, fun attempt current candidate hplace => ?_, fun row hplace => ?_⟩
  · unfold enter at hplace
    split_ifs at hplace
  · unfold enter at hplace
    split_ifs at hplace
    cases hplace

/-- A call is ready as long as it has not returned a row. -/
theorem RowRoutine.exec_ready (hkeyed : RowsKeyed m)
    (hrunning : ∀ row, (g.exec m ctxErr).2.place ≠ .returned (.ok row)) :
    (g.exec m ctxErr).2.Ready := by
  refine ⟨exec_prepared, fun attempt current candidate hplace => ?_, hrunning⟩
  rw [exec_call]
  exact hkeyed _ _ (exec_swapping hplace).1

/-- **A commit keeps the terminal status of the row it replaces, and stores a settled row unless it
clears the settlement of that row.** -/
theorem RowRoutine.Commits.final_and_settled {stored : Workload}
    (h : g.Commits m attempt current candidate stored) (hprep : g.Prepared) :
    (isTerminalWorkloadStatus stored.status = true → candidate.status = stored.status) ∧
      (Clears stored candidate ∨ Settled candidate) := by
  obtain ⟨hfinal, hsettled⟩ := prepare_ok (hprep _ _ _ h.place)
  rw [← h.status] at hfinal
  refine ⟨hfinal, hsettled.elim (fun hclears => ?_) .inr⟩
  -- the row that was read need not be the one that is replaced: the store asks for its intent
  by_cases hreq : workloadRequiresSettlementIntent candidate = true
  · have hrecorded := h.recorded hreq
    simp only [settlementRecorded, Bool.and_eq_true] at hrecorded
    exact .inl ⟨hrecorded.1.1, hclears.2⟩
  · refine .inr fun hterminal hreserved => absurd ?_ hreq
    simp [workloadRequiresSettlementIntent, hterminal, hreserved, hclears.2]

/-! ## All interleavings -/

def TerminalKept (w w' : Workload) : Prop :=
  isTerminalWorkloadStatus w.status = true → w'.status = w.status

theorem TerminalKept.trans {u v w : Workload} (h : TerminalKept u v) (h' : TerminalKept v w) :
    TerminalKept u w := by
  intro hu
  have hv := h hu
  rw [← hv]
  exact h' (by rw [hv]; exact hu)

/-- What one step does to the rows. -/
structure StepKeeps (m m' : MemoryStore) : Prop where
  final : ∀ id, GoMap.Advances TerminalKept id m.workloads m'.workloads
  settled : ∀ id row, m'.workloads.lookup id = some row → m.workloads.lookup id ≠ some row →
    Settled row ∨ ∃ current, m.workloads.lookup id = some current ∧ Clears current row

theorem stepKeeps_refl (m : MemoryStore) : StepKeeps m m where
  final id := GoMap.advances_refl (fun _ _ => rfl) id _
  settled _ _ hl hne := absurd hl hne

theorem RowRoutine.exec_keeps {ctxErr : Option GoError} (h : g.Prepared) :
    StepKeeps m (g.exec m ctxErr).1 := by
  have hstep := g.exec_step m ctxErr
  generalize g.exec m ctxErr = p at hstep ⊢
  cases hstep with
  | fail e | read attempt current candidate hl hprep | retry attempt | rest r hplace =>
    exact stepKeeps_refl m
  | commit attempt current candidate stored hcommit =>
    obtain ⟨hfinal, hsettled⟩ := hcommit.final_and_settled h
    constructor
    · exact fun id => GoMap.advances_insert (fun _ _ => rfl) hcommit.lookup hfinal
    · intro id row hl hne
      rcases GoMap.of_lookup_insert hl with ⟨hid, rfl⟩ | ⟨-, hl⟩
      · rcases hsettled with hclears | hsettled
        · exact .inr ⟨stored, by rw [hid]; exact hcommit.lookup, hclears⟩
        · exact .inl hsettled
      · exact absurd hl hne

theorem rowWriters_step_keeps {s : Threads MemoryStore RowRoutine}
    (h : ∀ g ∈ s.goroutines, g.Prepared) (e : ThreadEvent RowCall (Option GoError) Empty) :
    StepKeeps s.shared (rowWriters.step s e).shared := by
  cases e with
  | call c | restart => exact stepKeeps_refl _
  | proceed i ctxErr =>
    cases hi : s.goroutines[i]? with
    | none =>
      rw [Program.step_proceed_none hi]
      exact stepKeeps_refl _
    | some g =>
      rw [Program.step_proceed hi]
      exact exec_keeps (h g (List.mem_of_getElem? hi))
  | other e => cases e

/-- **Terminal rows are final and settled**: a stored terminal row with a reservation carries the
pending settlement of its attempt at its price, unless the step clears the one it replaces. -/
theorem terminal_rows_final_and_settled {m : MemoryStore}
    {tr : List (Transition (Threads MemoryStore RowRoutine)
      (ThreadEvent RowCall (Option GoError) Empty))}
    {s : Threads MemoryStore RowRoutine} (h : Run rowWriters.Step { shared := m } tr s) :
    (∀ t ∈ tr, ∀ id w, t.pre.shared.workloads.lookup id = some w →
        isTerminalWorkloadStatus w.status = true →
        ∃ w', s.shared.workloads.lookup id = some w' ∧ w'.status = w.status) ∧
      ∀ t ∈ tr, ∀ id row, t.post.shared.workloads.lookup id = some row →
        t.pre.shared.workloads.lookup id ≠ some row →
        isTerminalWorkloadStatus row.status = true → row.budgetReservationToken ≠ [] →
        row.budgetReservationAttempt ≠ 0 →
        (row.budgetSettlementPending = true ∧
            row.budgetSettlementAttempt = row.budgetReservationAttempt ∧
            row.budgetSettlementActualCents = budgetActualCents row) ∨
          ∃ current, t.pre.shared.workloads.lookup id = some current ∧
            current.budgetSettlementPending = true ∧ row.budgetSettlementPending = false := by
  have hkeeps : ∀ t ∈ tr, StepKeeps t.pre.shared t.post.shared := by
    refine (h.observe_of (I := fun s => ∀ g ∈ s.goroutines, g.Prepared) (C := fun _ => True)
      (fun _ _ => trivial) (by simp) ?_).2
    rintro s e s' hprep rfl -
    exact ⟨Program.step_goroutines enter_prepared
      (fun _ _ _ _ => exec_prepared) hprep e, rowWriters_step_keeps hprep e⟩
  constructor
  · intro t ht id w hl hterminal
    obtain ⟨l₁, l₂, rfl, -, -, hafter⟩ := h.split_mem ht
    have hadvances : GoMap.Advances TerminalKept id t.pre.shared.workloads s.shared.workloads := by
      refine hafter.invariant_of (I := fun s' =>
          GoMap.Advances TerminalKept id t.pre.shared.workloads s'.shared.workloads)
        (C := fun u => StepKeeps u.pre.shared u.post.shared) (fun u hu => hkeeps u (by simp [hu]))
        ((hkeeps t ht).final id) fun s₁ e s₂ hadv _ hstep => ?_
      exact hadv.trans TerminalKept.trans (hstep.final id)
    obtain ⟨w', hl', hkept⟩ := hadvances w hl
    exact ⟨w', hl', hkept hterminal⟩
  · intro t ht id row hl hne hterminal htoken hattempt
    have hreserved : row.unreserved = false := by simp [Workload.unreserved, htoken, hattempt]
    rcases (hkeeps t ht).settled id row hl hne with hsettled | hclears
    · exact .inl (hsettled hterminal hreserved)
    · exact .inr hclears

/-- A callback that ends the workload. -/
def endWith (status : WorkloadStatus) : ℕ → Workload → Except GoError Workload :=
  fun _ w => .ok { w with status }

/-- A queued row with a reservation of five cents. -/
def reservedRow : Workload :=
  { requestID := "w", status := .queued, revision := 1, budgetReservationToken := "t",
    budgetReservationAttempt := 1, budgetReservationCents := 5 }

/-- A failure and a cancellation read the row at the same time; the failure is faster. -/
def failureThenCancel :
    List (Threads MemoryStore RowRoutine → ThreadEvent RowCall (Option GoError) Empty) :=
  [fun _ => .call (.mutateWorkloadCAS "w" [.queued] [] (endWith .failed)),
   fun _ => .call (.mutateWorkloadCAS "w" [.queued] [] (endWith .cancelled)),
   fun _ => .proceed 0 none, fun _ => .proceed 1 none, fun _ => .proceed 0 none,
   fun _ => .proceed 1 none, fun _ => .proceed 1 none]

def reservedStore : MemoryStore := { workloads := AList.singleton "w" reservedRow }

def failedRow : Workload :=
  { reservedRow with
    status := .failed, revision := 2, actualCostCents := 5, budgetSettlementPending := true,
    budgetSettlementAttempt := 1, budgetSettlementActualCents := 5 }

/-- The failure is stored with its settlement and stays. -/
theorem failure_final_and_settled :
    let s := Run.afterScript rowWriters.step { shared := reservedStore } failureThenCancel
    s.shared.workloads.lookup (GoString.ofString "w") = some failedRow ∧
    (∀ t ∈ Run.script rowWriters.step { shared := reservedStore } failureThenCancel, ∀ id w,
      t.pre.shared.workloads.lookup id = some w → isTerminalWorkloadStatus w.status = true →
      ∃ w', s.shared.workloads.lookup id = some w' ∧ w'.status = w.status) ∧
    failedRow.budgetSettlementPending = true ∧
      failedRow.budgetSettlementAttempt = failedRow.budgetReservationAttempt ∧
      failedRow.budgetSettlementActualCents = budgetActualCents failedRow := by
  have hrun : Run rowWriters.Step { shared := reservedStore }
      (Run.script rowWriters.step { shared := reservedStore } failureThenCancel) _ :=
    Run.of_script _ (fun _ _ _ => rfl) _
  obtain ⟨hfinal, hsettled⟩ := terminal_rows_final_and_settled hrun
  refine ⟨by decide +kernel, hfinal, ?_⟩
  rcases hsettled _ (List.mem_of_getElem? (i := 4) rfl) "w" failedRow (by decide +kernel)
      (by decide +kernel) rfl (by decide) (by decide) with h | ⟨current, hl, hpending, -⟩
  · exact h
  · obtain rfl : reservedRow = current := Option.some.inj hl
    cases hpending

end VramGovernor.Workloads
