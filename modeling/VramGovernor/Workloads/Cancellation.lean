import VramGovernor.Workloads.RowMutation

/-!
# Cancellation

`Cancel` claims the cancellation in the row, stops the execution, releases its resources, and stores
the cancelled status. A call that finds its own claim, and no reservation in memory, takes it that
another call of the owner is at work, and reports success. But claims survive a restart and
reservations do not (`claim_survives_restart`). As long as no crash and no error return cuts off the
last call at work on an open workload, a call that reports success leaves the row terminal, or
another call at work (`cancel_acknowledged`).

A call is cut at its accesses to the store and to the reservations. What stopping the execution
comes to is an answer of the world.
-/

namespace VramGovernor.Workloads

open GoString GoMap Store

/-! ## The calls -/

/-- The rows, and the workloads that have a reservation in memory. -/
structure CancelState extends MemoryStore where
  reservations : List GoString := []

open CancelState

structure CancelCall where
  (workloadID ownerID : GoString)
  admin : Bool := false

namespace CancelCall

variable (c : CancelCall)

def cancellationOwner : GoString := if c.ownerID = [] then "admin" else c.ownerID

/-- The statuses in which a workload can be cancelled. -/
def openStatuses : List WorkloadStatus := [.queued, .waiting, .running, .pendingApproval]

/-- The claim. The clock is read in each attempt. -/
def claim (clock : ℕ → GoTime) : RowCall :=
  .mutateWorkloadCAS c.workloadID openStatuses [] fun attempt current =>
    .ok { current with
      cancellationOwner := c.cancellationOwner
      updatedAt := (clock attempt).utc }

def unclaim (w : Workload) (clock : ℕ → GoTime) : RowCall :=
  .mutateWorkloadCAS c.workloadID [w.status] c.cancellationOwner fun attempt released =>
    .ok { released with
      cancellationOwner := []
      updatedAt := (clock attempt).utc }

def finish (w : Workload) (now : GoTime) : RowCall :=
  .mutateWorkloadCAS c.workloadID [w.status] c.cancellationOwner fun _ current =>
    .ok { current with
      status := .cancelled
      cancellationOwner := []
      updatedAt := now.utc
      finishedAt := some now.utc }

end CancelCall

/-- Where a call is. -/
inductive CancelPlace
  | start
  /-- The row has the claim of the same owner. -/
  | owned
  | claiming (r : RowRoutine)
  /-- The claim was refused. -/
  | conflicted (e : GoError)
  /-- The execution is stopped and its resources are released. -/
  | stopping (w : Workload)
  /-- The execution could not be stopped. -/
  | unclaiming (cancelErr : GoError) (r : RowRoutine)
  /-- Before the last read. -/
  | finishing (w : Workload)
  | cancelling (r : RowRoutine)
  | returned (r : Except GoError Unit)

def CancelPlace.atWork : CancelPlace → Bool
  | stopping _ | unclaiming _ _ | finishing _ | cancelling _ => true
  | _ => false

def CancelPlace.hasReturned : CancelPlace → Bool
  | returned _ => true
  | _ => false

def CancelPlace.succeeded : CancelPlace → Bool
  | returned (.ok _) => true
  | _ => false

def CancelPlace.failed : CancelPlace → Bool
  | returned (.error _) => true
  | _ => false

structure CancelRoutine where
  call : CancelCall
  place : CancelPlace

open CancelRoutine

/-- What comes of stopping an execution. -/
inductive StopAnswer
  | stopped
  /-- The backend did not stop it. -/
  | refused (e : GoError)
  /-- Its handle did not appear, or its resources could not be released. -/
  | failed (e : GoError)

/-- What the world answers to a step. -/
structure CancelAnswer where
  /-- An access to the store fails. -/
  fault : Option GoError := none
  clock : ℕ → GoTime := fun _ => {}
  stop : StopAnswer := .stopped

def CancelState.read (s : CancelState) (id : GoString) (fault : Option GoError) :
    Except GoError Workload :=
  match fault with
  | some e => .error e
  | none => getWorkload s.toMemoryStore id

def CancelCall.check (c : CancelCall) (w : Workload) (clock : ℕ → GoTime) : CancelPlace :=
  if !c.admin && w.requestOwnerID ≠ c.ownerID then .returned (.error errNotFound)
  else if isTerminalWorkloadStatus w.status then
    if w.cancellationOwner ≠ [] && w.cancellationOwner ≠ c.cancellationOwner then
      .returned (.error errWorkloadConflict)
    else .returned (.ok ())
  else if w.cancellationOwner = c.cancellationOwner then .owned else .claiming (c.claim clock).enter

def CancelCall.recheck (c : CancelCall) (e : GoError) : Except GoError Workload → CancelPlace
  | .error _ => .returned (.error e)
  | .ok latest =>
    if latest.status ∈ [WorkloadStatus.cancelled, .succeeded, .failed] then .returned (.ok ())
    else if latest.cancellationOwner = c.cancellationOwner &&
        latest.status ∈ CancelCall.openStatuses then .stopping latest
    else .returned (.error e)

/-- Where a call is after a step of a write: the write goes on, or it has returned. -/
def afterWrite (again : RowRoutine → CancelPlace) (done : Except GoError Workload → CancelPlace)
    (r : RowRoutine) : CancelPlace :=
  match r.place with
  | .returned x => done x
  | _ => again r

def afterClaim : RowRoutine → CancelPlace :=
  afterWrite .claiming fun
    | .ok w => .stopping w
    | .error e => if e.is errWorkloadConflict then .conflicted e else .returned (.error e)

def afterUnclaim (cancelErr : GoError) : RowRoutine → CancelPlace :=
  afterWrite (.unclaiming cancelErr) fun
    | .ok _ => .returned (.error ⟨"cancel backend execution: " ++ cancelErr.text, cancelErr.wraps⟩)
    | .error e =>
      .returned (.error ⟨"cancel backend execution: " ++ cancelErr.text ++
        "; cancellation claim cleanup failed: " ++ e.text, cancelErr.wraps⟩)

def afterFinish : RowRoutine → CancelPlace :=
  afterWrite .cancelling fun
    | .ok _ => .returned (.ok ())
    | .error e => .returned (.error e)

def CancelState.write (s : CancelState) (r : RowRoutine) (fault : Option GoError) :
    CancelState × RowRoutine :=
  ({ s with toMemoryStore := (r.exec s.toMemoryStore fault).1 }, (r.exec s.toMemoryStore fault).2)

def CancelRoutine.next (s : CancelState) (g : CancelRoutine) (a : CancelAnswer) :
    CancelState × CancelPlace :=
  match g.place with
  | .start =>
    match s.read g.call.workloadID a.fault with
    | .error e => (s, .returned (.error e))
    | .ok w => (s, g.call.check w a.clock)
  | .owned =>
    if g.call.workloadID ∈ s.reservations then (s, .claiming (g.call.claim a.clock).enter)
    else (s, .returned (.ok ()))
  | .claiming r => ((s.write r a.fault).1, afterClaim (s.write r a.fault).2)
  | .conflicted e => (s, g.call.recheck e (s.read g.call.workloadID a.fault))
  | .stopping w =>
    match a.stop with
    | .stopped => (s, .finishing w)
    | .refused e => (s, .unclaiming e (g.call.unclaim w a.clock).enter)
    | .failed e => (s, .returned (.error e))
  | .unclaiming e r => ((s.write r a.fault).1, afterUnclaim e (s.write r a.fault).2)
  | .finishing w =>
    match s.read g.call.workloadID a.fault with
    | .ok current =>
      if isTerminalWorkloadStatus current.status then (s, .returned (.ok ()))
      else (s, .cancelling (g.call.finish w (a.clock 0)).enter)
    | .error _ => (s, .cancelling (g.call.finish w (a.clock 0)).enter)
  | .cancelling r => ((s.write r a.fault).1, afterFinish (s.write r a.fault).2)
  | .returned r => (s, .returned r)

def CancelRoutine.exec (s : CancelState) (g : CancelRoutine) (a : CancelAnswer) :
    CancelState × CancelRoutine :=
  ((g.next s a).1, { g with place := (g.next s a).2 })

/-! ## The system -/

def Claimed (s : CancelState) (id : GoString) : Prop :=
  ∃ w, s.workloads.lookup id = some w ∧ w.cancellationOwner ≠ []

/-- Other writers keep a terminal status, and only a cancellation claims one. -/
structure OthersKeep (s s' : CancelState) : Prop where
  keyed : RowsKeyed s.toMemoryStore → RowsKeyed s'.toMemoryStore
  final : ∀ id, Advances TerminalKept id s.workloads s'.workloads
  owners : ∀ id, Claimed s' id → Claimed s id

/-- A write of someone else, to rows or reservations. -/
structure OtherWrite where
  run : CancelState → CancelState
  keeps : ∀ s, OthersKeep s (run s)

/-- Any number of calls. The reservations are lost in a crash. -/
def cancels : Program CancelState CancelRoutine CancelCall CancelAnswer OtherWrite where
  enter c := ⟨c, .start⟩
  exec := CancelRoutine.exec
  env s e := e.run s
  restart s := { s with reservations := [] }

abbrev CancelTransition :=
  Transition (Threads CancelState CancelRoutine) (ThreadEvent CancelCall CancelAnswer OtherWrite)

def Ended (s : CancelState) (id : GoString) : Prop :=
  (s.workloads.lookup id).any (fun w => isTerminalWorkloadStatus w.status) = true

instance (s : CancelState) (id : GoString) : Decidable (Ended s id) :=
  inferInstanceAs (Decidable (_ = _))

def AtWork (s : Threads CancelState CancelRoutine) (id : GoString) : Prop :=
  ∃ g ∈ s.goroutines, g.call.workloadID = id ∧ g.place.atWork = true

instance (s : Threads CancelState CancelRoutine) (id : GoString) : Decidable (AtWork s id) :=
  inferInstanceAs (Decidable (∃ g ∈ s.goroutines, _))

def OtherAtWork (s : Threads CancelState CancelRoutine) (id : GoString) (i : ℕ) : Prop :=
  ∃ g ∈ s.goroutines.eraseIdx i, g.call.workloadID = id ∧ g.place.atWork = true

instance (s : Threads CancelState CancelRoutine) (id : GoString) (i : ℕ) :
    Decidable (OtherAtWork s id i) :=
  inferInstanceAs (Decidable (∃ g ∈ s.goroutines.eraseIdx i, _))

/-- A crash while a call is at work on a workload that has not ended, or an error return of the last
such call. -/
def cutsOff (id : GoString) (s : Threads CancelState CancelRoutine)
    (e : ThreadEvent CancelCall CancelAnswer OtherWrite) : Bool :=
  AtWork s id && !Ended s.shared id &&
    match e with
    | .restart => true
    | .proceed i a => !OtherAtWork s id i &&
        s.goroutines[i]?.any fun g => (g.exec s.shared a).2.place.failed
    | _ => false

/-- In the transition the call of that number returns, and reports success. -/
def Acknowledges (t : CancelTransition) (i : ℕ) (id : GoString) : Prop :=
  (t.pre.goroutines[i]?).any (fun g => g.call.workloadID = id && !g.place.hasReturned) = true ∧
    (t.post.goroutines[i]?).any (fun g => g.place.succeeded) = true

instance (t : CancelTransition) (i : ℕ) (id : GoString) : Decidable (Acknowledges t i id) :=
  inferInstanceAs (Decidable (_ ∧ _))

/-! ## What a step of a call can do -/

theorem CancelCall.cancellationOwner_ne_nil (c : CancelCall) : c.cancellationOwner ≠ [] := by
  unfold cancellationOwner
  split_ifs with h
  · exact show ofString "admin" ≠ [] by decide
  · exact h

/-- The writes that a call has under way are its own. -/
def CancelRoutine.Sound (g : CancelRoutine) : Prop :=
  match g.place with
  | .claiming r => (∃ clock, r.call = g.call.claim clock) ∧ r.Ready
  | .unclaiming _ r => (∃ w clock, r.call = g.call.unclaim w clock) ∧ r.Ready
  | .cancelling r => (∃ w now, r.call = g.call.finish w now) ∧ r.Ready
  | _ => True

/-- **What a step of a call can do.** -/
structure CancelEffect (s s' : CancelState) (g g' : CancelRoutine) : Prop where
  keyed : RowsKeyed s'.toMemoryStore
  sound : g'.Sound
  final : ∀ id, Advances TerminalKept id s.workloads s'.workloads
  /-- A call that claims a cancellation is at work. -/
  owners : ∀ id, Claimed s' id → Claimed s id ∨ g.call.workloadID = id ∧ g'.place.atWork = true
  /-- A call that finds its own claim has read an open row that is claimed. -/
  owned : g'.place = .owned → Claimed s' g.call.workloadID ∧ ¬ Ended s' g.call.workloadID
  /-- A call reports success of an ended workload, or of its own claim. -/
  acknowledged : g.place.hasReturned = false → g'.place.succeeded = true →
    Ended s' g.call.workloadID ∨ g.place = .owned

section Effects

variable {s : CancelState} {g : CancelRoutine} {c : CancelCall} {a : CancelAnswer} {w : Workload}
  {r : RowRoutine} {id : GoString} {allowed : List WorkloadStatus} {edit : ℕ → Workload → Workload}
  {clock : ℕ → GoTime}

theorem cancelEffect_read {place : CancelPlace} (hkeyed : RowsKeyed s.toMemoryStore)
    (hsound : (mk g.call place).Sound)
    (howned : place = .owned → Claimed s g.call.workloadID ∧ ¬ Ended s g.call.workloadID)
    (hack : place.succeeded = true → Ended s g.call.workloadID ∨ g.place = .owned ∨
      g.place.hasReturned = true) :
    CancelEffect s s g { g with place } where
  keyed := hkeyed
  sound := hsound
  final id := advances_refl (fun _ _ => rfl) id _
  owners id h := .inl h
  owned := howned
  acknowledged hrunning hplace := by
    rcases hack hplace with h | h | h
    · exact .inl h
    · exact .inr h
    · rw [hrunning] at h
      cases h

theorem CancelState.read_ok {fault : Option GoError} (h : s.read id fault = .ok w) :
    s.workloads.lookup id = some w := by
  cases fault with
  | some e => cases h
  | none => exact getWorkload_ok h

theorem ended_of_lookup (hl : s.workloads.lookup id = some w) :
    Ended s id ↔ isTerminalWorkloadStatus w.status = true := by
  simp [Ended, hl]

/-- A write does nothing so far, or replaces the row by what the callback makes of the one that was
read. -/
theorem CancelState.write_cases {owner : GoString} (hr : r.Ready)
    (hcall : r.call = .mutateWorkloadCAS id allowed owner fun n w => .ok (edit n w))
    (hedit : ∀ n w, (edit n w).requestID = w.requestID) (hkeyed : RowsKeyed s.toMemoryStore)
    (fault : Option GoError) :
    ((s.write r fault).1 = s ∧ (s.write r fault).2.Ready ∧ (s.write r fault).2.call = r.call) ∨
      ∃ n current stored row, s.workloads.lookup id = some stored ∧ TerminalKept stored row ∧
        row.requestID = id ∧ row.cancellationOwner = (edit n current).cancellationOwner ∧
        row.status = (edit n current).status ∧
        (s.write r fault).2.place = .returned (.ok row) ∧
        (s.write r fault).1 = { s with workloads := s.workloads.insert id row } := by
  have hready : (∀ row, (r.exec s.toMemoryStore fault).2.place ≠ .returned (.ok row)) →
      (r.exec s.toMemoryStore fault).2.Ready := RowRoutine.exec_ready hkeyed
  have hstep := r.exec_step s.toMemoryStore fault
  simp only [write]
  generalize r.exec s.toMemoryStore fault = p at hstep hready ⊢
  cases hstep with
  | fail | read | retry => exact .inl ⟨rfl, hready (fun row hplace => by cases hplace), rfl⟩
  | rest => exact .inl ⟨rfl, hr, rfl⟩
  | commit n current candidate stored hcommit =>
    have hprep := hr.prepared _ _ _ hcommit.place
    have hread := hr.keyed _ _ _ hcommit.place
    rw [hcall] at hprep hread
    have hmutation : mutation current allowed owner (fun w => .ok (edit n w)) = .ok candidate :=
      hprep
    obtain ⟨-, -, -, mutated, hrun, hsettle⟩ := mutation_ok hmutation
    cases hrun
    obtain ⟨hstatus, hid, howner⟩ := settleUnlessCleared_frame hsettle
    rw [hedit, show current.requestID = id from hread] at hid
    exact .inr ⟨n, current, stored, committedRow current candidate, hid ▸ hcommit.lookup,
      (hcommit.final_and_settled hr.prepared).1, hid, howner, hstatus, rfl, by rw [hid]⟩

/-- A place that tells nothing of the row. -/
def Silent (c : CancelCall) (place : CancelPlace) : Prop :=
  (CancelRoutine.mk c place).Sound ∧ place ≠ .owned ∧ place.succeeded = false

section

variable (hkeyed : RowsKeyed s.toMemoryStore)
include hkeyed

/-- A place with a stored row is at work if it is claimed, and reports success only if it is
terminal. -/
theorem cancelEffect_write {r : RowRoutine} {owner : GoString} {allowed : List WorkloadStatus}
    {edit : ℕ → Workload → Workload} {again : RowRoutine → CancelPlace}
    {done : Except GoError Workload → CancelPlace}
    (hr : r.Ready) (hcall : r.call = .mutateWorkloadCAS g.call.workloadID allowed owner fun n w =>
      .ok (edit n w))
    (hedit : ∀ n w, (edit n w).requestID = w.requestID)
    (hagain : ∀ r', r'.call = r.call → r'.Ready → Silent g.call (again r'))
    (herror : ∀ e, Silent g.call (done (.error e)))
    (hrow : ∀ n current row, row.cancellationOwner = (edit n current).cancellationOwner →
      row.status = (edit n current).status →
      (mk g.call (done (.ok row))).Sound ∧ done (.ok row) ≠ .owned ∧
        (row.cancellationOwner ≠ [] → (done (.ok row)).atWork = true) ∧
        ((done (.ok row)).succeeded = true → isTerminalWorkloadStatus row.status = true)) :
    CancelEffect s (s.write r a.fault).1 g
      { g with place := afterWrite again done (s.write r a.fault).2 } := by
  rcases write_cases hr hcall hedit hkeyed a.fault with
    ⟨hkept, hready, hsame⟩ |
      ⟨n, current, stored, row, hl, hfinal, hid, howner, hstatus, hplace, hstore⟩
  · have hsilent : Silent g.call (afterWrite again done (s.write r a.fault).2) := by
      unfold afterWrite
      cases hplace : (s.write r a.fault).2.place with
      | reading n | swapping n current candidate => exact hagain _ hsame hready
      | returned x =>
        cases x with
        | ok row => exact absurd hplace (hready.running row)
        | error e => exact herror e
    obtain ⟨hsound, howned, hack⟩ := hsilent
    rw [hkept]
    exact cancelEffect_read hkeyed hsound (fun h => absurd h howned) fun h => by
      rw [hack] at h
      cases h
  · obtain ⟨hsound, howned, hwork, hack⟩ := hrow n current row howner hstatus
    rw [hstore, show afterWrite again done (s.write r a.fault).2 = done (.ok row) by
      simp only [afterWrite, hplace]]
    refine ⟨fun id' w hw => ?_, hsound,
      fun id' => advances_insert (fun _ _ => rfl) hl hfinal, fun id' => ?_,
      fun h => absurd h howned, fun _ h => .inl ?_⟩
    · rcases of_lookup_insert hw with ⟨rfl, rfl⟩ | ⟨-, hw⟩
      · exact hid
      · exact hkeyed id' w hw
    · rintro ⟨w, hw, hne⟩
      rcases of_lookup_insert hw with ⟨heq, rfl⟩ | ⟨-, hw⟩
      · exact .inr ⟨heq.symm, hwork hne⟩
      · exact .inl ⟨w, hw, hne⟩
    · rw [ended_of_lookup (AList.lookup_insert _)]
      exact hack h

theorem cancelEffect_claiming (hcall : r.call = g.call.claim clock) (hr : r.Ready) :
    CancelEffect s (s.write r a.fault).1 g
      { g with place := afterClaim (s.write r a.fault).2 } := by
  refine cancelEffect_write hkeyed hr hcall (fun _ _ => rfl)
    (fun r' hsame hready => ⟨⟨⟨clock, hsame.trans hcall⟩, hready⟩, nofun, rfl⟩) (fun e => ?_)
    fun n current row howner hstatus => ⟨trivial, nofun, fun _ => rfl, nofun⟩
  dsimp only
  split_ifs
  all_goals exact ⟨trivial, nofun, rfl⟩

omit hkeyed in
theorem cancelEffect_unclaiming (e : GoError) (hkeyed : RowsKeyed s.toMemoryStore)
    (hcall : r.call = g.call.unclaim w clock) (hr : r.Ready) :
    CancelEffect s (s.write r a.fault).1 g
      { g with place := afterUnclaim e (s.write r a.fault).2 } := by
  refine cancelEffect_write hkeyed hr hcall (fun _ _ => rfl)
    (fun r' hsame hready => ⟨⟨⟨w, clock, hsame.trans hcall⟩, hready⟩, nofun, rfl⟩)
    (fun e => ⟨trivial, nofun, rfl⟩) fun n current row howner hstatus => ?_
  exact ⟨trivial, nofun, fun hne => absurd howner hne, nofun⟩

theorem cancelEffect_cancelling {now : GoTime}
    (hcall : r.call = g.call.finish w now) (hr : r.Ready) :
    CancelEffect s (s.write r a.fault).1 g
      { g with place := afterFinish (s.write r a.fault).2 } := by
  refine cancelEffect_write hkeyed hr hcall (fun _ _ => rfl)
    (fun r' hsame hready => ⟨⟨⟨w, now, hsame.trans hcall⟩, hready⟩, nofun, rfl⟩)
    (fun e => ⟨trivial, nofun, rfl⟩) fun n current row howner hstatus => ?_
  refine ⟨trivial, nofun, fun hne => absurd howner hne, fun _ => ?_⟩
  rw [hstatus]
  rfl

theorem cancelEffect_start
    (hl : s.workloads.lookup g.call.workloadID = some w) (clock : ℕ → GoTime) :
    CancelEffect s s g { g with place := g.call.check w clock } := by
  unfold CancelCall.check
  split_ifs with howner hterminal hother hclaim
  · exact cancelEffect_read hkeyed trivial nofun nofun
  · exact cancelEffect_read hkeyed trivial nofun nofun
  · exact cancelEffect_read hkeyed trivial nofun fun _ => .inl ((ended_of_lookup hl).2 hterminal)
  · refine cancelEffect_read hkeyed trivial (fun _ => ⟨⟨w, hl, ?_⟩, ?_⟩) nofun
    · rw [hclaim]
      exact g.call.cancellationOwner_ne_nil
    · rw [ended_of_lookup hl]
      exact hterminal
  · exact cancelEffect_read hkeyed ⟨⟨clock, RowCall.enter_call _⟩, RowCall.enter_ready _⟩ nofun
      nofun

theorem cancelEffect_conflicted (e : GoError) (fault : Option GoError) :
    CancelEffect s s g { g with place := g.call.recheck e (s.read g.call.workloadID fault) } := by
  unfold CancelCall.recheck
  cases hread : s.read g.call.workloadID fault with
  | error e' => exact cancelEffect_read hkeyed trivial nofun nofun
  | ok latest =>
    dsimp only
    split_ifs with hended hopen
    · refine cancelEffect_read hkeyed trivial nofun fun _ => .inl ?_
      rw [ended_of_lookup (read_ok hread)]
      simp only [List.mem_cons, List.not_mem_nil, or_false] at hended
      rcases hended with h | h | h <;> rw [h] <;> rfl
    all_goals exact cancelEffect_read hkeyed trivial nofun nofun

/-- **Every step of a call is such a step.** -/
theorem CancelRoutine.exec_effect (hg : g.Sound)
    (a : CancelAnswer) : CancelEffect s (g.exec s a).1 g (g.exec s a).2 := by
  unfold exec next
  cases hplace : g.place with
  | start =>
    cases hread : s.read g.call.workloadID a.fault with
    | error e => exact cancelEffect_read hkeyed trivial nofun nofun
    | ok w => exact cancelEffect_start hkeyed (read_ok hread) a.clock
  | owned =>
    split_ifs
    · exact cancelEffect_read hkeyed ⟨⟨a.clock, RowCall.enter_call _⟩, RowCall.enter_ready _⟩ nofun
        nofun
    · exact cancelEffect_read hkeyed trivial nofun fun _ => .inr (.inl hplace)
  | claiming r =>
    simp only [CancelRoutine.Sound, hplace] at hg
    obtain ⟨⟨clock, hcall⟩, hr⟩ := hg
    exact cancelEffect_claiming hkeyed hcall hr
  | conflicted e => exact cancelEffect_conflicted hkeyed e a.fault
  | stopping w =>
    cases a.stop with
    | stopped | failed e => exact cancelEffect_read hkeyed trivial nofun nofun
    | refused e =>
      exact cancelEffect_read hkeyed ⟨⟨w, a.clock, RowCall.enter_call _⟩, RowCall.enter_ready _⟩
        nofun nofun
  | unclaiming e r =>
    simp only [CancelRoutine.Sound, hplace] at hg
    obtain ⟨⟨w, clock, hcall⟩, hr⟩ := hg
    exact cancelEffect_unclaiming e hkeyed hcall hr
  | finishing w =>
    have hgoes : CancelEffect s s g
        { g with place := .cancelling (g.call.finish w (a.clock 0)).enter } :=
      cancelEffect_read hkeyed ⟨⟨w, a.clock 0, RowCall.enter_call _⟩, RowCall.enter_ready _⟩ nofun
        nofun
    cases hread : s.read g.call.workloadID a.fault with
    | error e => exact hgoes
    | ok current =>
      dsimp only
      split_ifs with hended
      · refine cancelEffect_read hkeyed trivial nofun fun _ => .inl ?_
        exact (ended_of_lookup (read_ok hread)).2 hended
      · exact hgoes
  | cancelling r =>
    simp only [CancelRoutine.Sound, hplace] at hg
    obtain ⟨⟨w, now, hcall⟩, hr⟩ := hg
    exact cancelEffect_cancelling hkeyed hcall hr
  | returned r =>
    refine cancelEffect_read hkeyed trivial nofun fun _ => .inr (.inr ?_)
    rw [hplace]
    rfl

end

/-- A call at work stays at work or returns. -/
theorem CancelRoutine.next_atWork (hwork : g.place.atWork = true) :
    (g.next s a).2.atWork = true ∨ (g.next s a).2.succeeded = true ∨
      (g.next s a).2.failed = true := by
  unfold next
  cases hplace : g.place with
  | stopping w => cases a.stop <;> simp [CancelPlace.atWork, CancelPlace.failed]
  | unclaiming e r =>
    dsimp only [afterUnclaim, afterWrite]
    split
    · split <;> exact .inr (.inr rfl)
    · exact .inl rfl
  | finishing w =>
    dsimp only
    split
    · split_ifs
      · exact .inr (.inl rfl)
      · exact .inl rfl
    · exact .inl rfl
  | cancelling r =>
    dsimp only [afterFinish, afterWrite]
    split
    · split
      · exact .inr (.inl rfl)
      · exact .inr (.inr rfl)
    · exact .inl rfl
  | start | owned | claiming | conflicted | returned => simp [hplace, CancelPlace.atWork] at hwork

end Effects

/-! ## All interleavings -/

section Runs

variable {s : Threads CancelState CancelRoutine} {id : GoString}
  {e : ThreadEvent CancelCall CancelAnswer OtherWrite}

theorem Ended.advances {s s' : CancelState} (h : Ended s id)
    (hfinal : Advances TerminalKept id s.workloads s'.workloads) : Ended s' id := by
  cases hl : s.workloads.lookup id with
  | none => simp [Ended, hl] at h
  | some w =>
    rw [ended_of_lookup hl] at h
    obtain ⟨w', hl', hkept⟩ := hfinal w hl
    rw [ended_of_lookup hl', hkept h]
    exact h

/-- What a step of the system can do to a workload and the calls on it. -/
structure CancelsStep (id : GoString) (s s' : Threads CancelState CancelRoutine) : Prop where
  final : Advances TerminalKept id s.shared.workloads s'.shared.workloads
  owners : Claimed s'.shared id → Claimed s.shared id ∨ AtWork s' id
  owned : ∀ g ∈ s'.goroutines, g.call.workloadID = id → g.place = .owned →
    g ∈ s.goroutines ∨ Claimed s'.shared id

theorem cancels_step (hkeyed : RowsKeyed s.shared.toMemoryStore)
    (hsound : ∀ g ∈ s.goroutines, g.Sound) (e : ThreadEvent CancelCall CancelAnswer OtherWrite) :
    CancelsStep id s (cancels.step s e) := by
  have hrefl : Advances TerminalKept id s.shared.workloads s.shared.workloads :=
    advances_refl (fun _ _ => rfl) id _
  cases e with
  | call c =>
    refine ⟨hrefl, .inl, fun g hg _ hplace => ?_⟩
    rcases List.mem_append.1 hg with hg | hg
    · exact .inl hg
    · rw [List.mem_singleton.1 hg] at hplace
      cases hplace
  | proceed i a =>
    cases hi : s.goroutines[i]? with
    | none =>
      rw [Program.step_proceed_none hi]
      exact ⟨hrefl, .inl, fun g hg _ _ => .inl hg⟩
    | some g =>
      have heffect := exec_effect hkeyed (hsound g (List.mem_of_getElem? hi)) a
      rw [Program.step_proceed hi]
      refine ⟨heffect.final id, fun hclaimed => ?_, fun g' hg' hid hplace => ?_⟩
      · refine (heffect.owners id hclaimed).imp_right fun ⟨hid, hwork⟩ => ?_
        obtain ⟨hlt, -⟩ := List.getElem?_eq_some_iff.1 hi
        exact ⟨_, List.mem_set hlt _, hid, hwork⟩
      · rcases List.mem_or_eq_of_mem_set hg' with hg' | rfl
        · exact .inl hg'
        · have hcall : g.call.workloadID = id := hid
          exact .inr (hcall ▸ (heffect.owned hplace).1)
  | other e =>
    have hkeeps := e.keeps s.shared
    exact ⟨hkeeps.final id, fun h => .inl (hkeeps.owners id h), fun g hg _ _ => .inl hg⟩
  | restart => exact ⟨hrefl, .inl, fun g hg => absurd hg List.not_mem_nil⟩

/-- A claimed workload, and one that a call has found claimed, has ended or a call is at work. -/
structure Carried (id : GoString) (s : Threads CancelState CancelRoutine) : Prop where
  keyed : RowsKeyed s.shared.toMemoryStore
  sound : ∀ g ∈ s.goroutines, g.Sound
  claimed : Claimed s.shared id → Ended s.shared id ∨ AtWork s id
  owned : ∀ g ∈ s.goroutines, g.call.workloadID = id → g.place = .owned →
    Ended s.shared id ∨ AtWork s id

/-- The others stay where they are. -/
theorem OtherAtWork.step {i : ℕ} {a : CancelAnswer} {g : CancelRoutine}
    (h : OtherAtWork s id i) (hg : s.goroutines[i]? = some g) :
    OtherAtWork (cancels.step s (.proceed i a)) id i := by
  obtain ⟨g', hg', hid, hwork⟩ := h
  obtain ⟨j, hne, hj⟩ := List.mem_eraseIdx_iff_getElem?.1 hg'
  refine ⟨g', List.mem_eraseIdx_iff_getElem?.2 ⟨j, hne, ?_⟩, hid, hwork⟩
  rw [Program.step_proceed hg]
  exact (List.getElem?_set_ne hne.symm).trans hj

/-- **A step that does not cut it off** leaves a call at work, or the workload has ended. -/
theorem Carried.carriedOn (h : Carried id s) (hcut : cutsOff id s e = false) (hwork : AtWork s id) :
    Ended (cancels.step s e).shared id ∨ AtWork (cancels.step s e) id := by
  by_cases hended : Ended s.shared id
  · exact .inl (hended.advances (cancels_step h.keyed h.sound e).final)
  simp only [cutsOff, hwork, hended, decide_true, decide_false, Bool.not_false,
    Bool.true_and] at hcut
  obtain ⟨g', hg', hid, hatWork⟩ := hwork
  cases e with
  | call c => exact .inr ⟨g', List.mem_append_left _ hg', hid, hatWork⟩
  | other e => exact .inr ⟨g', hg', hid, hatWork⟩
  | restart => cases hcut
  | proceed i a =>
    cases hi : s.goroutines[i]? with
    | none =>
      rw [Program.step_proceed_none hi]
      exact .inr ⟨g', hg', hid, hatWork⟩
    | some g =>
      by_cases hother : OtherAtWork s id i
      · obtain ⟨g₁, hg₁, hwork₁⟩ := hother.step (a := a) hi
        exact .inr ⟨g₁, List.mem_of_mem_eraseIdx hg₁, hwork₁⟩
      -- the call that takes the step is the one at work
      obtain ⟨j, hj⟩ := List.getElem?_of_mem hg'
      obtain rfl : j = i := by
        by_contra hne
        exact hother ⟨g', List.mem_eraseIdx_iff_getElem?.2 ⟨j, hne, hj⟩, hid, hatWork⟩
      obtain rfl := Option.mem_unique hi hj
      have hfailed : (g.exec s.shared a).2.place.failed = false := by simpa [hother, hi] using hcut
      rw [Program.step_proceed hi]
      rcases g.next_atWork (s := s.shared) (a := a) hatWork with hwork | hsucceeded | hfails
      · exact .inr ⟨_, List.mem_set (List.getElem?_eq_some_iff.1 hi).1 _, hid, hwork⟩
      · have hrunning : g.place.hasReturned = false := by
          cases hplace : g.place <;>
            simp [hplace, CancelPlace.atWork, CancelPlace.hasReturned] at hatWork ⊢
        have heffect := exec_effect h.keyed (h.sound g hg') a
        rcases heffect.acknowledged hrunning hsucceeded with hended | howned
        · exact .inl (hid ▸ hended)
        · rw [howned] at hatWork
          cases hatWork
      · cases hfailed.symm.trans hfails

theorem Carried.step (h : Carried id s) (hcut : cutsOff id s e = false) :
    Carried id (cancels.step s e) := by
  have hstep : CancelsStep id s (cancels.step s e) := cancels_step h.keyed h.sound e
  obtain ⟨hkeyed, hsound⟩ := Program.step_invariant (P := cancels) (e := e)
    (I := fun s => RowsKeyed s.toMemoryStore) (J := fun _ g => g.Sound) h.keyed h.sound
    (fun _ => trivial)
    (fun g a hg => by
      have heffect := exec_effect h.keyed hg a
      exact ⟨heffect.keyed, heffect.sound, fun _ h => h⟩)
    (fun e _ => ⟨(e.keeps _).keyed h.keyed, fun _ h => h⟩) h.keyed
  have hcarry : Ended s.shared id ∨ AtWork s id →
      Ended (cancels.step s e).shared id ∨ AtWork (cancels.step s e) id := by
    rintro (hended | hwork)
    · exact .inl (hended.advances hstep.final)
    · exact h.carriedOn hcut hwork
  have hclaimed : Claimed (cancels.step s e).shared id →
      Ended (cancels.step s e).shared id ∨ AtWork (cancels.step s e) id := by
    intro hclaimed
    rcases hstep.owners hclaimed with hbefore | hwork
    · exact hcarry (h.claimed hbefore)
    · exact .inr hwork
  refine ⟨hkeyed, hsound, hclaimed, fun g hg hid hplace => ?_⟩
  rcases hstep.owned g hg hid hplace with hbefore | hnow
  · exact hcarry (h.owned g hbefore hid hplace)
  · exact hclaimed hnow

/-- Only its own step makes a call report success. -/
theorem Acknowledges.proceed {i : ℕ} (h : Acknowledges ⟨s, e, cancels.step s e⟩ i id) :
    ∃ g a, e = .proceed i a ∧ s.goroutines[i]? = some g ∧ g.call.workloadID = id ∧
      g.place.hasReturned = false ∧ (g.exec s.shared a).2.place.succeeded = true := by
  obtain ⟨hbefore, hafter⟩ := h
  obtain ⟨g, hg, hrunning⟩ := (Option.any_eq_true _ _).1 hbefore
  obtain ⟨g', hg', hsucceeded⟩ := (Option.any_eq_true _ _).1 hafter
  simp only [Bool.and_eq_true, decide_eq_true_eq, Bool.not_eq_true'] at hrunning
  have hmoved : (cancels.step s e).goroutines[i]? ≠ some g := by
    intro hsame
    obtain rfl := Option.mem_unique hsame hg'
    cases hplace : g.place <;> simp [hplace, CancelPlace.hasReturned, CancelPlace.succeeded] at *
  obtain ⟨hlt, -⟩ := List.getElem?_eq_some_iff.1 hg
  cases e with
  | call c =>
    refine absurd ?_ hmoved
    exact (List.getElem?_append_left hlt).trans hg
  | proceed k a =>
    by_cases hk : k = i
    · subst hk
      refine ⟨g, a, rfl, hg, hrunning.1, hrunning.2, ?_⟩
      rw [Program.step_proceed hg, List.getElem?_set_self hlt] at hg'
      cases hg'
      exact hsucceeded
    · refine absurd ?_ hmoved
      cases hi : s.goroutines[k]? with
      | none =>
        rw [Program.step_proceed_none hi]
        exact hg
      | some g₀ =>
        rw [Program.step_proceed hi]
        exact (List.getElem?_set_ne hk).trans hg
  | other e => exact absurd hg hmoved
  | restart => cases hg'

theorem Carried.acknowledged (h : Carried id s) {i : ℕ}
    (hack : Acknowledges ⟨s, e, cancels.step s e⟩ i id) :
    Ended (cancels.step s e).shared id ∨ OtherAtWork (cancels.step s e) id i := by
  obtain ⟨g, a, rfl, hg, rfl, hrunning, hsucceeded⟩ := hack.proceed
  have hmem := List.mem_of_getElem? hg
  rw [Program.step_proceed hg]
  have heffect := exec_effect h.keyed (h.sound g hmem) a
  rcases heffect.acknowledged hrunning hsucceeded with hended | hplace
  · exact .inl hended
  · rcases h.owned g hmem rfl hplace with hended | ⟨g', hg', hid, hwork⟩
    · exact .inl (hended.advances (heffect.final _))
    · obtain ⟨j, hj⟩ := List.getElem?_of_mem hg'
      have hne : j ≠ i := by
        rintro rfl
        obtain rfl := Option.mem_unique hg hj
        rw [hplace] at hwork
        cases hwork
      have hother : OtherAtWork s g.call.workloadID i :=
        ⟨g', List.mem_eraseIdx_iff_getElem?.2 ⟨j, hne, hj⟩, hid, hwork⟩
      have hstays := hother.step (a := a) hg
      rw [Program.step_proceed hg] at hstays
      exact .inr hstays

end Runs

/-- **A call reports success only of a cancellation that is done or under way**, as long as no step
cuts off the last call at work on a workload that has not ended. -/
theorem cancel_acknowledged {m : CancelState} (hkeyed : RowsKeyed m.toMemoryStore) {id : GoString}
    (hunclaimed : ¬ Claimed m id) {tr : List CancelTransition}
    {s : Threads CancelState CancelRoutine} (h : Run cancels.Step { shared := m } tr s)
    (hcut : ∀ t ∈ tr, cutsOff id t.pre t.label = false) :
    ∀ t ∈ tr, ∀ i, Acknowledges t i id → Ended t.post.shared id ∨ OtherAtWork t.post id i := by
  refine (h.observe_of (I := Carried id) (C := fun t => cutsOff id t.pre t.label = false)
    (O := fun t => ∀ i, Acknowledges t i id → Ended t.post.shared id ∨ OtherAtWork t.post id i)
    hcut ⟨hkeyed, by simp, fun h => absurd h hunclaimed, by simp⟩ ?_).2
  rintro s e s' hI rfl hcut
  exact ⟨hI.step hcut, fun i hack => hI.acknowledged hack⟩

/-- A queued row, which has no reservation. -/
def cancellableRow : Workload :=
  { requestID := "w", requestOwnerID := "o", status := .queued, revision := 1 }

def cancellableState : CancelState := { workloads := AList.singleton "w" cancellableRow }

theorem cancellableState_keyed : RowsKeyed cancellableState.toMemoryStore := by
  intro id w hl
  obtain ⟨rfl, rfl⟩ := eq_of_lookup_singleton hl
  rfl

theorem cancellableState_unclaimed : ¬ Claimed cancellableState (ofString "w") := by
  rintro ⟨w, hl, hne⟩
  obtain ⟨-, rfl⟩ := eq_of_lookup_singleton hl
  exact hne rfl

def claimedCall :
    List (Threads CancelState CancelRoutine → ThreadEvent CancelCall CancelAnswer OtherWrite) :=
  [fun _ => .call { workloadID := "w", ownerID := "o" },
   fun _ => .proceed 0 {}, fun _ => .proceed 0 {}, fun _ => .proceed 0 {}]

/-- A second call reports success, and then the first one finishes. -/
def claimedThenRetried :
    List (Threads CancelState CancelRoutine → ThreadEvent CancelCall CancelAnswer OtherWrite) :=
  claimedCall ++
    [fun _ => .call { workloadID := "w", ownerID := "o" },
     fun _ => .proceed 1 {}, fun _ => .proceed 1 {},
     fun _ => .proceed 0 {}, fun _ => .proceed 0 {}, fun _ => .proceed 0 {}, fun _ => .proceed 0 {}]

theorem retry_while_at_work : ((Run.afterScript cancels.step { shared := cancellableState }
        claimedThenRetried).goroutines.map fun g => g.place.succeeded) = [true, true] ∧
      Ended (Run.afterScript cancels.step { shared := cancellableState }
        claimedThenRetried).shared (ofString "w") ∧
      ∀ t ∈ Run.script cancels.step { shared := cancellableState } claimedThenRetried, ∀ i,
        Acknowledges t i (ofString "w") →
          Ended t.post.shared (ofString "w") ∨ OtherAtWork t.post (ofString "w") i :=
  ⟨by decide +kernel, by decide +kernel, cancel_acknowledged cancellableState_keyed
    cancellableState_unclaimed (Run.of_script _ (fun _ _ _ => rfl) _) (by decide +kernel)⟩

/-- The process crashes after the claim, and the same owner cancels again. -/
def claimedThenCrashed :
    List (Threads CancelState CancelRoutine → ThreadEvent CancelCall CancelAnswer OtherWrite) :=
  claimedCall ++
    [fun _ => .restart, fun _ => .call { workloadID := "w", ownerID := "o" },
     fun _ => .proceed 0 {}, fun _ => .proceed 0 {}]

/-- **A claim that survives a crash is taken for a call at work.** The last step reports success,
the workload is open and claimed, and no call is at work. -/
theorem claim_survives_restart : (∃ tr, Run cancels.Step { shared := cancellableState } tr
        (Run.afterScript cancels.step { shared := cancellableState } claimedThenCrashed)) ∧
      ¬ Claimed cancellableState (ofString "w") ∧
      (∃ t ∈ Run.script cancels.step { shared := cancellableState } claimedThenCrashed,
        Acknowledges t 0 (ofString "w") ∧ ¬ Ended t.post.shared (ofString "w") ∧
          ¬ OtherAtWork t.post (ofString "w") 0) ∧
      ((Run.afterScript cancels.step { shared := cancellableState }
          claimedThenCrashed).shared.workloads.lookup (ofString "w")).map
          (fun w => (w.status, w.cancellationOwner)) = some (.queued, ofString "o") :=
  ⟨⟨_, Run.of_script _ (fun _ _ _ => rfl) _⟩, cancellableState_unclaimed, by decide +kernel,
    by decide +kernel⟩

end VramGovernor.Workloads
