import VramGovernor.Store.MemoryRun
import VramGovernor.Workloads.LeaseCleanup
import VramGovernor.Workloads.Manager

/-!
# Interleavings of admission and release

`reserveTarget`, `releaseTarget`, `releaseBeforeTerminal` and `retryAcceleratorLeaseCleanupIntents`
run in any number of threads. A thread is the point it has reached (`Thread`); between two points it
runs one critical section or makes one call on the store (`Thread.step`). A store call may fail
before or after it has taken effect, and other clients use the store meanwhile (`Action`). What is
not modelled of the manager is a choice of the environment (`Choice`), and its calls are among those
of other clients.
-/

namespace VramGovernor.Workloads

open GoString GoMap Store

/-- What a thread returns. -/
inductive Outcome
  | ok
  | granted (p : ℕ)
  | refused (reason : GoString)
  | error (e : GoError)

/-- What follows a rollback. -/
inductive Continuation
  /-- `reserveTarget` refuses for the reason, or starts again. -/
  | reserve (adm : Admission) (reason : Option GoString)
  /-- The release of the reservation at `p` is completed; then the terminal intent is confirmed. -/
  | release (p : ℕ) (terminal : Option AcceleratorLeaseCleanupIntent)
  /-- The retry loop completes the intent and goes on with the rest. -/
  | retry (intent : AcceleratorLeaseCleanupIntent) (rest : List AcceleratorLeaseCleanupIntent)

/-- The point that a thread has reached. With `rest` it is the retry loop, and these are the intents
still to be visited; `terminal` is the intent to be confirmed after a release. -/
inductive Thread
  | done (o : Outcome)
  /-- `reserveTarget`: the fast path, the acquisition of a lease and its publication. -/
  | reserve (adm : Admission)
  | acquire (adm : Admission)
  | publish (adm : Admission) (lease : AcceleratorLease)
  | rollback (rb : Rollback) (stage : RollbackStage) (k : Continuation)
  /-- `releaseTarget`, which reads the reservation's intent. -/
  | releaseTarget (p : ℕ)
  /-- `releaseTargetWithIntent`: the election, and the bookkeeping after a failed release. -/
  | elect (p : ℕ) (intent terminal : Option AcceleratorLeaseCleanupIntent)
  | clearInFlight (p : ℕ) (e : GoError)
  /-- `finishReleasedReservation`: its two critical sections. -/
  | finish (p : ℕ) (terminal : Option AcceleratorLeaseCleanupIntent)
      (rest : Option (List AcceleratorLeaseCleanupIntent))
  | unregister (p : ℕ) (terminal : Option AcceleratorLeaseCleanupIntent)
      (rest : Option (List AcceleratorLeaseCleanupIntent))
  /-- `prepareTerminalLeaseIntent`: the intent is built, recorded and bound to the reservation. -/
  | prepare (p : ℕ) (workloadID disposition : GoString)
  | recordIntent (p : ℕ) (intent : AcceleratorLeaseCleanupIntent)
  | bindIntent (p : ℕ) (intent : AcceleratorLeaseCleanupIntent)
  /-- The continuation of a terminal intent: its release is confirmed, the end of the workload is
  published and the intent deleted, or recorded again when one of these fails. -/
  | confirm (intent : AcceleratorLeaseCleanupIntent)
      (rest : Option (List AcceleratorLeaseCleanupIntent))
  | finalize (intent : AcceleratorLeaseCleanupIntent)
      (rest : Option (List AcceleratorLeaseCleanupIntent))
  | forgetIntent (intent : AcceleratorLeaseCleanupIntent)
      (rest : Option (List AcceleratorLeaseCleanupIntent))
  | reschedule (intent : AcceleratorLeaseCleanupIntent) (e : GoError)
      (rest : Option (List AcceleratorLeaseCleanupIntent))
  /-- `retryAcceleratorLeaseCleanupIntents`: the listing, the loop, and the search for the
  reservation of a released intent. -/
  | listIntents
  | retry (intents : List AcceleratorLeaseCleanupIntent)
  | findReservation (workloadID : GoString) (terminal : Option AcceleratorLeaseCleanupIntent)
      (rest : List AcceleratorLeaseCleanupIntent)

/-- What the environment decides in one step of a thread. -/
structure Choice where
  now : GoTime := {}
  fault : Fault := .none
  /-- The refusal of the target registry. -/
  blocked : Option GoString := none
  /-- The refusal of the companion accelerators. -/
  companions : Option Outcome := none
  /-- The revision at which the workload is prepared for its end. -/
  revision : Except GoError UInt64 := .ok 1
  /-- The failure of publishing the end of a workload. -/
  finalizeError : Option GoError := none
  acquireOrders : ScanOrders
  leaseOrder : List (Entry AcceleratorLease)
  placementOrder : List (Entry ActivePlacement)
  intentOrder : List (Entry AcceleratorLeaseCleanupIntent)

namespace Thread

/-- The thread after what it was asked to do: the retry loop goes on, any other thread returns. -/
def next : Option (List AcceleratorLeaseCleanupIntent) → Thread
  | none => .done .ok
  | some intents => .retry intents

def afterRelease (terminal : Option AcceleratorLeaseCleanupIntent)
    (rest : Option (List AcceleratorLeaseCleanupIntent)) : Thread :=
  match terminal with
  | some intent => .confirm { intent with releaseConfirmed := true } rest
  | none => next rest

/-- The thread after a rollback that returned the error, or none. -/
def afterRollback (e : Option GoError) : Continuation → Thread
  | .reserve adm reason =>
    match e, reason with
    | some e, _ => .done (.error e)
    | none, some reason => .done (.refused reason)
    | none, none => .reserve adm
  | .release p terminal =>
    match e with
    | some e => .clearInFlight p e
    | none => .finish p terminal none
  | .retry intent rest =>
    match e with
    | some e =>
      if e.is errLeaseCleanupRecorded then .retry rest else .reschedule intent e (some rest)
    | none =>
      if intent.terminalDisposition = [] then .findReservation intent.owner none rest
      else .findReservation intent.workloadID (some intent) rest

end Thread

def releaseRollback (r : TargetReservation) (intent : Option AcceleratorLeaseCleanupIntent) :
    Rollback :=
  { lease := r.lease, owner := r.lease.workloadID, terminal := intent }

/-- The rollback of a retry. A generic intent is advanced before it, a terminal one is kept. -/
def retryRollback (intent : AcceleratorLeaseCleanupIntent) (now : GoTime) : Rollback :=
  let lease : AcceleratorLease :=
    { acceleratorID := intent.acceleratorID, workloadID := intent.owner
      fencingToken := intent.fencingToken }
  if intent.terminalDisposition = [] then
    { lease, owner := intent.owner, intentAlreadyAdvanced := true
      terminal := some (scheduleLeaseCleanupRetry intent none now) }
  else { lease, owner := intent.owner, retainIntent := true, terminal := some intent }

namespace Thread

/-! ## One step of a thread

Grouped by the function that the thread runs. Each step is given the manager, the store and the
environment's choice, and returns them with the next point. -/

def stepReserve (m : Manager) (c : Choice) (adm : Admission) : Manager × Thread :=
  match m.fastPath adm c.blocked c.leaseOrder c.placementOrder with
  | .refused reason => (m, .done (.refused reason))
  | .joined lease => (m.join adm lease, .done (.granted m.heap.length))
  | .shared lease d => (m.share adm lease d, .done (.granted m.heap.length))
  | .vacant => (m, .acquire adm)

def stepAcquire (m : Manager) (st : MemoryStore) (c : Choice) (adm : Admission) :
    MemoryStore × Thread :=
  match c.companions with
  | some refusal => (st, .done refusal)
  | none =>
    match c.fault.call st fun st =>
      let r := acquireAcceleratorLease st (leaseID adm.target) adm.request.workloadID [] m.leaseTTL
        c.now c.acquireOrders
      (r.1, .ok r.2) with
    | (st', .error e) => (st', .done (.error e))
    | (st', .ok (lease, true)) => (st', .publish adm lease)
    | (st', .ok (lease, false)) =>
      (st', .done (.refused ("accelerator is reserved by " ++ lease.workloadID)))

def stepPublish (m : Manager) (c : Choice) (adm : Admission) (lease : AcceleratorLease) :
    Manager × Thread :=
  let rb : Rollback := { lease, owner := adm.request.workloadID }
  match m.publication adm c.blocked with
  | .refused reason => (m, .rollback rb .release (.reserve adm (some reason)))
  | .overtaken => (m, .rollback rb .release (.reserve adm none))
  | .published => (m.publish adm lease, .done (.granted m.heap.length))

def stepRollback (st : MemoryStore) (c : Choice) (rb : Rollback) (stage : RollbackStage)
    (k : Continuation) : MemoryStore × Thread :=
  match rb.step st c.fault c.now stage with
  | (st', .inl stage') => (st', .rollback rb stage' k)
  | (st', .inr e) => (st', afterRollback e k)

def stepElect (m : Manager) (c : Choice) (p : ℕ)
    (intent terminal : Option AcceleratorLeaseCleanupIntent) : Manager × Thread :=
  match m.heap[p]? with
  | none => (m, .done .ok)
  | some r =>
    match m.elect p r c.placementOrder with
    | (m', .fenced) =>
      (m', .done (.error ⟨"backend stop is unconfirmed; accelerator release remains fenced", none⟩))
    | (m', .settled) => (m', afterRelease terminal none)
    | (m', .left) => (m', .unregister p terminal none)
    | (m', .last) => (m', .rollback (releaseRollback r intent) .release (.release p terminal))

def stepFinish (m : Manager) (p : ℕ) (terminal : Option AcceleratorLeaseCleanupIntent)
    (rest : Option (List AcceleratorLeaseCleanupIntent)) : Manager × Thread :=
  match m.heap[p]? with
  | none => (m, afterRelease terminal rest)
  | some r =>
    if r.released then (m, afterRelease terminal rest)
    else (m.finishReleasedReservationLocked p r, .unregister p terminal rest)

def stepUnregister (m : Manager) (p : ℕ) : Manager :=
  match m.heap[p]? with
  | none => m
  | some r => m.unregister p r

def stepPrepare (m : Manager) (c : Choice) (p : ℕ) (workloadID disposition : GoString) :
    Manager × Thread :=
  match c.revision, m.heap[p]? with
  | .error e, _ => (m, .done (.error e))
  | .ok _, none => (m, .done .ok)
  | .ok revision, some r =>
    let intent := terminalIntent r.lease workloadID revision disposition c.now
    (m.setReservation p { r with cleanupIntent := some intent }, .recordIntent p intent)

def stepRecordIntent (st : MemoryStore) (c : Choice) (p : ℕ)
    (intent : AcceleratorLeaseCleanupIntent) : MemoryStore × Thread :=
  match c.fault.call st fun st => recordAcceleratorLeaseCleanupIntent st intent c.now with
  | (st', .error e) => (st', .done (.error e))
  | (st', .ok stored) => (st', .bindIntent p stored)

/-- `releaseBeforeTerminal` goes on with the intent as stored, the retry loop with its own. -/
def stepConfirm (st : MemoryStore) (c : Choice) (intent : AcceleratorLeaseCleanupIntent)
    (rest : Option (List AcceleratorLeaseCleanupIntent)) : MemoryStore × Thread :=
  match c.fault.call st fun st => recordAcceleratorLeaseCleanupIntent st intent c.now with
  | (st', .error e) => (st', .reschedule intent e rest)
  | (st', .ok stored) => (st', .finalize (if rest.isNone then stored else intent) rest)

def stepReschedule (st : MemoryStore) (c : Choice) (intent : AcceleratorLeaseCleanupIntent)
    (e : GoError) (rest : Option (List AcceleratorLeaseCleanupIntent)) : MemoryStore × Thread :=
  let again := scheduleLeaseCleanupRetry intent (some e) c.now
  ((c.fault.call st fun st => recordAcceleratorLeaseCleanupIntent st again c.now).1,
    match rest with
    | none => .done (.error e)
    | some intents => .retry intents)

def stepListIntents (c : Choice) : Thread :=
  match c.fault with
  | .none => .retry (listAcceleratorLeaseCleanupIntents c.now.utc c.now 100 c.intentOrder)
  | _ => .done .ok

/-- **One step of a thread.** -/
def step (m : Manager) (st : MemoryStore) (c : Choice) : Thread → Manager × MemoryStore × Thread
  | .done o => (m, st, .done o)
  | .reserve adm => let r := stepReserve m c adm; (r.1, st, r.2)
  | .acquire adm => (m, stepAcquire m st c adm)
  | .publish adm lease => let r := stepPublish m c adm lease; (r.1, st, r.2)
  | .rollback rb stage k => (m, stepRollback st c rb stage k)
  | .releaseTarget p => (m, st, .elect p (m.heap[p]?.bind (·.cleanupIntent)) none)
  | .elect p intent terminal => let r := stepElect m c p intent terminal; (r.1, st, r.2)
  | .clearInFlight p e =>
    (m.updateReservation p fun r => { r with releaseInFlight := false }, st, .done (.error e))
  | .finish p terminal rest => let r := stepFinish m p terminal rest; (r.1, st, r.2)
  | .unregister p terminal rest => (stepUnregister m p, st, afterRelease terminal rest)
  | .prepare p w disposition => let r := stepPrepare m c p w disposition; (r.1, st, r.2)
  | .recordIntent p intent => (m, stepRecordIntent st c p intent)
  | .bindIntent p intent =>
    (m.updateReservation p fun r => { r with cleanupIntent := some intent }, st,
      .elect p (some intent) (some intent))
  | .confirm intent rest => (m, stepConfirm st c intent rest)
  | .finalize intent rest =>
    match c.finalizeError with
    | some e => (m, st, .reschedule intent e rest)
    | none => (m, st, .forgetIntent intent rest)
  | .forgetIntent intent rest =>
    (m, c.fault.effect st fun st => deleteLeaseCleanupIntent st intent, next rest)
  | .reschedule intent e rest => (m, stepReschedule st c intent e rest)
  | .listIntents => (m, st, stepListIntents c)
  | .retry [] => (m, st, .done .ok)
  | .retry (intent :: rest) =>
    (m, st, .rollback (retryRollback intent c.now) .release (.retry intent rest))
  | .findReservation w terminal rest =>
    match m.reservations.lookup w with
    | none => (m, st, afterRelease terminal (some rest))
    | some p => (m, st, .finish p terminal (some rest))

/-! ## What a step can do -/

section

variable (m : Manager) (st : MemoryStore) (c : Choice)

/-- The reply of the store to an acquisition. -/
def acquisition (adm : Admission) : MemoryStore × AcceleratorLease × Bool :=
  acquireAcceleratorLease st (leaseID adm.target) adm.request.workloadID [] m.leaseTTL c.now
    c.acquireOrders

/-- **What a step of a thread can do** at each point that it may have reached. -/
inductive Change : Thread → Manager × MemoryStore × Thread → Prop
  | returned {o} : Change (.done o) (m, st, .done o)
  | refused {adm reason}
      (he : m.fastPath adm c.blocked c.leaseOrder c.placementOrder = .refused reason) :
      Change (.reserve adm) (m, st, .done (.refused reason))
  | vacant {adm} (he : m.fastPath adm c.blocked c.leaseOrder c.placementOrder = .vacant) :
      Change (.reserve adm) (m, st, .acquire adm)
  | joined {adm lease}
      (he : m.fastPath adm c.blocked c.leaseOrder c.placementOrder = .joined lease)
      (hl : m.targetLeases.lookup adm.target.id = some lease) :
      Change (.reserve adm) (m.join adm lease, st, .done (.granted m.heap.length))
  | shared {adm d} {e : Entry AcceleratorLease}
      (he : m.fastPath adm c.blocked c.leaseOrder c.placementOrder = .shared e.2 d)
      (hl : m.targetLeases.lookup adm.target.id = none) (hmem : e ∈ c.leaseOrder)
      (hacc : e.2.acceleratorID = leaseID adm.target) :
      Change (.reserve adm) (m.share adm e.2 d, st, .done (.granted m.heap.length))
  | notAcquired {adm o st'} (hst : st' = st ∨ st' = (acquisition m st c adm).1) :
      Change (.acquire adm) (m, st', .done o)
  | acquired {adm} (hg : (acquisition m st c adm).2.2 = true) :
      Change (.acquire adm)
        (m, (acquisition m st c adm).1, .publish adm (acquisition m st c adm).2.1)
  | notPublished {adm lease reason} (he : m.publication adm c.blocked ≠ .published) :
      Change (.publish adm lease) (m, st,
        .rollback { lease, owner := adm.request.workloadID } .release (.reserve adm reason))
  | published {adm lease} (he : m.publication adm c.blocked = .published) :
      Change (.publish adm lease) (m.publish adm lease, st, .done (.granted m.heap.length))
  | rollsBack {rb stage stage' k} (he : (rb.step st c.fault c.now stage).2 = .inl stage') :
      Change (.rollback rb stage k)
        (m, (rb.step st c.fault c.now stage).1, .rollback rb stage' k)
  | rolledBack {rb stage e k} (he : (rb.step st c.fault c.now stage).2 = .inr e) :
      Change (.rollback rb stage k) (m, (rb.step st c.fault c.now stage).1, afterRollback e k)
  | releases {p} :
      Change (.releaseTarget p) (m, st, .elect p (m.heap[p]?.bind (·.cleanupIntent)) none)
  | absent {p intent terminal} : Change (.elect p intent terminal) (m, st, .done .ok)
  | fenced {p intent terminal o r} (hp : m.heap[p]? = some r) :
      Change (.elect p intent terminal)
        (m.setReservation p { r with releaseRequested := true }, st, .done o)
  | settled {p intent terminal} :
      Change (.elect p intent terminal) (m, st, afterRelease terminal none)
  | last {p intent terminal r} (hp : m.heap[p]? = some r)
      (he : election r c.placementOrder = .last) :
      Change (.elect p intent terminal)
        (m.setReservation p { r with releaseRequested := true, releaseInFlight := true }, st,
          .rollback (releaseRollback r intent) .release (.release p terminal))
  | left {p intent terminal r} (hp : m.heap[p]? = some r)
      (he : election r c.placementOrder = .left) :
      Change (.elect p intent terminal)
        ((m.setReservation p { r with released := true }).dropPlacement r, st,
          .unregister p terminal none)
  | cleared {p e} :
      Change (.clearInFlight p e)
        (m.updateReservation p fun r => { r with releaseInFlight := false }, st, .done (.error e))
  | skipped {p terminal rest} (hp : ∀ r, m.heap[p]? = some r → r.released = true) :
      Change (.finish p terminal rest) (m, st, afterRelease terminal rest)
  | finished {p terminal rest r} (hp : m.heap[p]? = some r) (hr : r.released = false) :
      Change (.finish p terminal rest)
        (m.finishReleasedReservationLocked p r, st, .unregister p terminal rest)
  | unregistered {p terminal rest} :
      Change (.unregister p terminal rest) (stepUnregister m p, st, afterRelease terminal rest)
  | notPrepared {p w disposition o} : Change (.prepare p w disposition) (m, st, .done o)
  | prepared {p w disposition r intent} (hp : m.heap[p]? = some r) :
      Change (.prepare p w disposition)
        (m.setReservation p { r with cleanupIntent := some intent }, st, .recordIntent p intent)
  | notRecorded {p intent o st'} (hst : SameButIntents st st') :
      Change (.recordIntent p intent) (m, st', .done o)
  | recorded {p intent stored st'} (hst : SameButIntents st st') :
      Change (.recordIntent p intent) (m, st', .bindIntent p stored)
  | binds {p intent} :
      Change (.bindIntent p intent)
        (m.updateReservation p fun r => { r with cleanupIntent := some intent }, st,
          .elect p (some intent) (some intent))
  | confirmed {intent stored rest st'} (hst : SameButIntents st st') :
      Change (.confirm intent rest) (m, st', .finalize stored rest)
  | notConfirmed {intent e rest st'} (hst : SameButIntents st st') :
      Change (.confirm intent rest) (m, st', .reschedule intent e rest)
  | finalized {intent rest} : Change (.finalize intent rest) (m, st, .forgetIntent intent rest)
  | notFinalized {intent e rest} :
      Change (.finalize intent rest) (m, st, .reschedule intent e rest)
  | forgotten {intent rest st'} (hst : SameButIntents st st') :
      Change (.forgetIntent intent rest) (m, st', next rest)
  | rescheduled {intent e intents st'} (hst : SameButIntents st st') :
      Change (.reschedule intent e (some intents)) (m, st', .retry intents)
  | gaveUp {intent e st'} (hst : SameButIntents st st') :
      Change (.reschedule intent e none) (m, st', .done (.error e))
  | listed (hf : c.fault = .none) : Change .listIntents
      (m, st, .retry (listAcceleratorLeaseCleanupIntents c.now.utc c.now 100 c.intentOrder))
  | notListed : Change .listIntents (m, st, .done .ok)
  | visited : Change (.retry []) (m, st, .done .ok)
  | visits {intent rest} :
      Change (.retry (intent :: rest))
        (m, st, .rollback (retryRollback intent c.now) .release (.retry intent rest))
  | notFound {w terminal rest} :
      Change (.findReservation w terminal rest) (m, st, afterRelease terminal (some rest))
  | found {w terminal rest p} (hp : m.reservations.lookup w = some p) :
      Change (.findReservation w terminal rest) (m, st, .finish p terminal (some rest))

theorem change_acquire (adm : Admission) :
    Change m st c (.acquire adm) (m, stepAcquire m st c adm) := by
  have hacquired := @Change.acquired m st c adm
  rcases hr : acquisition m st c adm with ⟨st', lease, granted⟩
  rw [hr] at hacquired
  unfold acquisition at hr
  unfold stepAcquire
  cases c.companions with
  | some refusal => exact .notAcquired (.inl rfl)
  | none =>
    cases c.fault with
    | before e => exact .notAcquired (.inl rfl)
    | after e => exact .notAcquired (.inr rfl)
    | none =>
      cases granted with
      | false =>
        simp only [Fault.call, hr]
        exact .notAcquired (.inr (congrArg Prod.fst hr).symm)
      | true =>
        simp only [Fault.call, hr]
        exact hacquired rfl

theorem sameButIntents_recorded (intent : AcceleratorLeaseCleanupIntent) : SameButIntents st
    (c.fault.call st fun st => recordAcceleratorLeaseCleanupIntent st intent c.now).1 :=
  c.fault.sameButIntents_call (sameButIntents_record st intent c.now)

theorem change (th : Thread) : Change m st c th (th.step m st c) := by
  cases th with
  | acquire adm => exact change_acquire m st c adm
  | reserve adm =>
    simp only [step, stepReserve]
    have hlease := m.fastPath_lease adm c.blocked c.leaseOrder c.placementOrder
    cases he : m.fastPath adm c.blocked c.leaseOrder c.placementOrder with
    | refused reason => exact .refused he
    | vacant => exact .vacant he
    | joined lease =>
      rw [he] at hlease
      exact .joined he hlease
    | shared lease d =>
      rw [he] at hlease
      obtain ⟨hl, e, hmem, rfl, hacc⟩ := hlease
      exact .shared he hl hmem hacc
  | publish adm lease =>
    simp only [step, stepPublish]
    cases he : m.publication adm c.blocked with
    | refused | overtaken => exact .notPublished (by simp [he])
    | published => exact .published he
  | rollback rb stage k =>
    simp only [step, stepRollback]
    rw [← Prod.eta (rb.step st c.fault c.now stage)]
    cases he : (rb.step st c.fault c.now stage).2 with
    | inl stage' => exact .rollsBack he
    | inr e => exact .rolledBack he
  | elect p intent terminal =>
    simp only [step, stepElect]
    cases hp : m.heap[p]? with
    | none => exact .absent
    | some r =>
      simp only [Manager.elect]
      cases he : election r c.placementOrder with
      | fenced => exact .fenced hp
      | settled => exact .settled
      | left => exact .left hp he
      | last => exact .last hp he
  | finish p terminal rest =>
    simp only [step]
    fun_cases stepFinish m p terminal rest with
    | case1 hp => exact .skipped (by simp [hp])
    | case2 r hp hr => exact .skipped (by simp [hp, hr])
    | case3 r hp hr => exact .finished hp (by simpa using hr)
  | prepare p w disposition =>
    simp only [step]
    fun_cases stepPrepare m c p w disposition with
    | case1 | case2 => exact .notPrepared
    | case3 _ _ hp => exact .prepared hp
  | recordIntent p intent =>
    have hst := sameButIntents_recorded st c intent
    simp only [step, stepRecordIntent]
    split <;> next he =>
      rw [he] at hst
      first | exact .notRecorded hst | exact .recorded hst
  | confirm intent rest =>
    have hst := sameButIntents_recorded st c intent
    simp only [step, stepConfirm]
    split <;> next he =>
      rw [he] at hst
      first | exact .notConfirmed hst | exact .confirmed hst
  | finalize intent rest =>
    simp only [step]
    split
    · exact .notFinalized
    · exact .finalized
  | forgetIntent intent rest =>
    exact .forgotten (c.fault.sameButIntents_effect (sameButIntents_delete st intent))
  | reschedule intent e rest =>
    cases rest with
    | none => exact .gaveUp (sameButIntents_recorded st c _)
    | some intents => exact .rescheduled (sameButIntents_recorded st c _)
  | listIntents =>
    simp only [step, stepListIntents]
    split
    · next hf => exact .listed hf
    · exact .notListed
  | retry intents =>
    cases intents with
    | nil => exact .visited
    | cons intent rest => exact .visits
  | findReservation w terminal rest =>
    simp only [step]
    split
    · exact .notFound
    · next hp => exact .found hp
  | _ => constructor

end

/-! ## Threads that admit -/

def admission : Thread → Option Admission
  | reserve adm | acquire adm | publish adm _ | rollback _ _ (.reserve adm _) => some adm
  | _ => none

variable {m : Manager} {st : MemoryStore} {c : Choice} {th : Thread} {adm : Admission}

theorem admission_next (rest : Option (List AcceleratorLeaseCleanupIntent)) :
    (next rest).admission = none := by
  cases rest <;> rfl

theorem admission_afterRelease (terminal : Option AcceleratorLeaseCleanupIntent)
    (rest : Option (List AcceleratorLeaseCleanupIntent)) :
    (afterRelease terminal rest).admission = none := by
  cases terminal with
  | none => exact admission_next rest
  | some intent => rfl

theorem admission_afterRollback {e : Option GoError} {k : Continuation} {rb : Rollback}
    {stage : RollbackStage} (h : (afterRollback e k).admission = some adm) :
    (rollback rb stage k).admission = some adm := by
  cases k with
  | reserve adm' reason => cases e <;> cases reason <;> first | exact h | cases h
  | release p terminal => cases e <;> cases h
  | retry intent rest =>
    cases e with
    | none | some e =>
      simp only [afterRollback] at h
      split_ifs at h <;> cases h

theorem admission_of_step (h : (th.step m st c).2.2.admission = some adm) :
    th.admission = some adm := by
  have hchange := th.change m st c
  generalize th.step m st c = next at h hchange
  cases hchange with
  | vacant | acquired | notPublished => exact h
  | @rollsBack rb stage stage' k => cases k <;> exact h
  | rolledBack => exact admission_afterRollback h
  | settled | skipped | unregistered | notFound | forgotten =>
    simp only [admission_afterRelease, admission_next] at h
    cases h
  | _ => cases h

end Thread

/-! ## The system -/

/-- The manager, the store and the threads. -/
structure System where
  manager : Manager := {}
  store : MemoryStore := newMemoryStore
  threads : List Thread := []

/-- A thread is started or takes a step, or something else happens. -/
inductive Action
  | reserveTarget (targetID : GoString) (request : Request)
  | releaseTarget (p : ℕ)
  | releaseTargetWithIntent (p : ℕ) (intent : Option AcceleratorLeaseCleanupIntent)
  | releaseBeforeTerminal (p : ℕ) (workloadID disposition : GoString)
  | retryAcceleratorLeaseCleanupIntents
  | run (i : ℕ) (c : Choice)
  /-- A workload is started with the reservation it was granted. -/
  | register (workloadID : GoString) (p : ℕ)
  /-- A physical stop is awaited or confirmed. -/
  | backendStop (p : ℕ) (pending confirmed : Bool)
  /-- The learned profiles change. -/
  | learn (profiles : GoMap InterferenceProfile)
  /-- Another client calls the store. -/
  | storeCall (c : StoreCall)

/-- The orders of the choice are ones that `range` may choose. -/
structure Choice.Of (c : Choice) (s : System) : Prop where
  acquireOrders : c.acquireOrders.Of s.store
  leaseOrder : RangeOrder s.manager.targetLeases c.leaseOrder
  placementOrder : RangeOrder s.manager.activePlacements c.placementOrder
  intentOrder : RangeOrder s.store.leaseCleanupIntents c.intentOrder

namespace Action

def Admissible (s : System) : Action → Prop
  | run _ c => c.Of s
  | storeCall c => c.Admissible s.store
  | _ => True

def spawn (s : System) (th : Thread) : System := { s with threads := s.threads ++ [th] }

/-- The system after thread `i`, at `th`, has taken a step. -/
def stepThread (s : System) (i : ℕ) (th : Thread) (c : Choice) : System :=
  let r := th.step s.manager s.store c
  { manager := r.1, store := r.2.1, threads := s.threads.set i r.2.2 }

def exec (s : System) : Action → System
  | reserveTarget targetID request =>
    match s.manager.targets.entries.lookup targetID with
    | none => spawn s (.done (.refused "target facts changed before placement"))
    | some target => spawn s (.reserve (newAdmission s.manager target request))
  | releaseTarget p => spawn s (.releaseTarget p)
  | releaseTargetWithIntent p intent => spawn s (.elect p intent none)
  | releaseBeforeTerminal p workloadID disposition => spawn s (.prepare p workloadID disposition)
  | retryAcceleratorLeaseCleanupIntents => spawn s .listIntents
  | run i c =>
    match s.threads[i]? with
    | none => s
    | some th => stepThread s i th c
  | register workloadID p =>
    { s with manager :=
        { s.manager with reservations := s.manager.reservations.insert workloadID p } }
  | backendStop p pending confirmed =>
    { s with manager := s.manager.updateReservation p fun r =>
        { r with
          backendStopPending := pending, backendStopConfirmed := confirmed
          releaseRequested := true } }
  | learn profiles => { s with manager := { s.manager with interferenceProfiles := profiles } }
  | storeCall c => { s with store := c.exec s.store }

end Action

def Step (s : System) (a : Action) (s' : System) : Prop := a.Admissible s ∧ s' = a.exec s

/-! ## Scripts -/

/-- The choice that scans in the order of the entries. -/
def Choice.ofSystem (s : System) (now : GoTime) (fault : Fault) : Choice :=
  { now, fault
    acquireOrders := .ofStore s.store, leaseOrder := s.manager.targetLeases.entries
    placementOrder := s.manager.activePlacements.entries
    intentOrder := s.store.leaseCleanupIntents.entries }

theorem Choice.of_ofSystem (s : System) (now : GoTime) (fault : Fault) :
    (ofSystem s now fault).Of s :=
  ⟨ScanOrders.of_ofStore _, rangeOrder_entries _, rangeOrder_entries _, rangeOrder_entries _⟩

/-- Thread `i` takes a step at the given time, and its store call goes wrong as given. -/
def runAt (i : ℕ) (now : GoTime) (fault : Fault) : System → Action :=
  fun s => .run i (.ofSystem s now fault)

def script (s : System) (as : List (System → Action)) : List (Transition System Action) :=
  Run.script Action.exec s as

def afterScript (s : System) (as : List (System → Action)) : System :=
  Run.afterScript Action.exec s as

theorem run_script {as : List (System → Action)} (h : ∀ a ∈ as, ∀ s, (a s).Admissible s)
    (s : System) : Run Step s (script s as) (afterScript s as) :=
  Run.of_script Action.exec (fun a ha s => ⟨h a ha s, rfl⟩) s

/-- One target with two slots on the accelerator `gpu`. -/
def oneTarget : System :=
  { manager :=
    { targets := TargetRegistry.empty.register { id := "t", acceleratorID := "gpu", slots := 2 }
      leaseTTL := 60 * 10 ^ 9 } }

end VramGovernor.Workloads
