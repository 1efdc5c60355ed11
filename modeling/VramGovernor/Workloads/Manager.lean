import VramGovernor.Workloads.Placement

/-!
# The critical sections of admission and release

The sections of `reserveTarget` and `releaseTargetWithIntent` under the placement lock, as functions
of the manager's state: the fast path and the publication of `reserveTarget`, and the election, the
departure of a workload that is not the last one and the final bookkeeping of a release. A
reservation is handed out as a pointer, which is an index of the list of all reservations.
-/

namespace VramGovernor.Workloads

open GoString GoMap

/-- What `reserveTarget` returns when it grants, together with the state of its release. -/
structure TargetReservation where
  (targetID workloadID : GoString)
  lease : AcceleratorLease
  shared : Bool := false
  envelope : CoSchedule := {}
  profile : SharingProfile := {}
  (releaseRequested releaseInFlight released : Bool := false)
  cleanupIntent : Option AcceleratorLeaseCleanupIntent := none
  (backendStopPending backendStopConfirmed : Bool := false)

/-- The registered targets, each under its own id. -/
structure TargetRegistry where
  entries : GoMap Target
  keyed : ∀ id target, entries.lookup id = some target → target.id = id

namespace TargetRegistry

def empty : TargetRegistry := ⟨∅, fun _ _ h => nomatch h⟩

def register (reg : TargetRegistry) (target : Target) : TargetRegistry where
  entries := reg.entries.insert target.id target
  keyed id t h := by
    rcases of_lookup_insert h with ⟨rfl, rfl⟩ | ⟨-, h⟩
    · rfl
    · exact reg.keyed id t h

/-- The target is the one registered under its id. -/
def Has (reg : TargetRegistry) (target : Target) : Prop :=
  reg.entries.lookup target.id = some target

theorem Has.eq_of_id {reg : TargetRegistry} {target target' : Target} (h : reg.Has target)
    (h' : reg.Has target') (hid : target.id = target'.id) : target = target' := by
  rw [Has, hid] at h
  exact Option.mem_unique h h'

end TargetRegistry

/-- The manager, as far as admission and release read it. -/
structure Manager where
  targets : TargetRegistry := .empty
  interferenceProfiles : GoMap InterferenceProfile := ∅
  modelCapacityPolicies : GoMap ℤ := ∅
  (defaultMaxAcceleratorsPerModel leaseTTL : ℤ := 0)
  activePlacements : GoMap ActivePlacement := ∅
  targetActive : GoMap ℤ := ∅
  targetLeases : GoMap AcceleratorLease := ∅
  /-- The reservation at each address. -/
  heap : List TargetReservation := []
  /-- The address of the reservation that a workload was started with. -/
  reservations : GoMap ℕ := ∅

def Manager.modelLimitLocked (m : Manager) (model : GoString) : ℤ :=
  let limit := GoMap.get m.modelCapacityPolicies model
  if 0 < limit then limit
  else if 0 < m.defaultMaxAcceleratorsPerModel then m.defaultMaxAcceleratorsPerModel else 1

/-- The facts that `reserveTarget` reads before its first critical section. -/
structure Admission where
  target : Target
  request : Request
  modelLimit : ℤ
  vramMB : Int64

namespace Admission

def pool (adm : Admission) : Option ModelPool := modelPool adm.target adm.request.model

def slots (adm : Admission) : ℤ :=
  let slots := (adm.pool.map (·.slots)).getD adm.target.slots
  if slots ≤ 0 then 1 else slots

def placement (adm : Admission) : ActivePlacement :=
  { workloadID := adm.request.workloadID, targetID := adm.target.id
    acceleratorID := leaseID adm.target
    workloadClass := targetWorkloadClass adm.target, runtimeVersion := adm.target.capabilityVersion
    fingerprint := adm.request.fingerprint, disruption := adm.request.disruption
    vramMB := adm.vramMB, capacityVRAMMB := adm.target.acceleratorVRAMMB
    reserveVRAMMB := adm.target.vramReserveMB, sharingEnabled := adm.target.sharingEnabled
    guardedExploration := adm.target.guardedExploration
    predictedSlowdown := adm.target.predictedSlowdown
    maxSlowdown := if adm.target.maxSlowdown ≤ 0 then 5 / 4 else adm.target.maxSlowdown
    safetyCritical := adm.target.safetyCritical
    model := adm.request.model, contextTokens := adm.request.contextTokens }

/-- The reservation that the admission is granted under a lease. -/
def reservation (adm : Admission) (lease : AcceleratorLease) : TargetReservation :=
  { targetID := adm.target.id, workloadID := adm.request.workloadID, lease }

end Admission

variable (m : Manager)

/-- The facts of an admission to a target, as the manager knows them. -/
def newAdmission (target : Target) (request : Request) : Admission :=
  { target, request
    modelLimit := m.modelLimitLocked request.model
    vramMB := standaloneVRAMMB m.interferenceProfiles target request }

/-! ## The fast path of an admission -/

def Manager.reservedTokens (targetID : GoString) : ℤ :=
  ((m.activePlacements.entries.filter fun e => e.2.targetID = targetID).map (·.2.contextTokens)).sum

/-- Why `tokens` more context would overfill the pool, if they would. -/
def Manager.poolFullLocked (targetID : GoString) (pool : ModelPool) (tokens : ℤ) :
    Option GoString :=
  let reserved := m.reservedTokens targetID
  if 0 < reserved && pool.poolTokens < reserved + tokens then
    some ("context pool is full: " ++ sprint reserved ++ " of " ++ sprint pool.poolTokens ++
      " tokens reserved, " ++ sprint tokens ++ " more needed")
  else none

def Manager.poolReason (adm : Admission) : Option GoString :=
  adm.pool.bind fun pool => m.poolFullLocked adm.target.id pool adm.request.contextTokens

def Manager.activeAccelerators (model : GoString) : List GoString :=
  ((m.activePlacements.entries.filter fun e =>
    e.2.model = model && e.2.acceleratorID ≠ []).map (·.2.acceleratorID)).dedup

/-- Why the model may not take another accelerator, if it may not. -/
def Manager.modelLimitReason (adm : Admission) : Option GoString :=
  let used := m.activeAccelerators adm.request.model
  if adm.request.model ≠ [] && adm.target.acceleratorID ≠ [] && !adm.target.cloud &&
      adm.target.acceleratorID ∉ used && adm.modelLimit ≤ used.length then
    some ("model accelerator limit " ++ sprint adm.modelLimit ++ " reached")
  else none

/-- What the first critical section of `reserveTarget` decides. -/
inductive FastPath
  | refused (reason : GoString)
  /-- Join the lease that the target already runs under. -/
  | joined (lease : AcceleratorLease)
  /-- Share the lease that another target of the accelerator runs under. -/
  | shared (lease : AcceleratorLease) (d : CoSchedule)
  /-- The accelerator has no lease in memory. -/
  | vacant

/-- `blocked` is the refusal of the target registry. The orders are those of the leases and the
placements. -/
def Manager.fastPath (m : Manager) (adm : Admission) (blocked : Option GoString)
    (leaseOrder : List (Entry AcceleratorLease))
    (placementOrder : List (Entry ActivePlacement)) : FastPath :=
  match blocked with
  | some reason => .refused reason
  | none =>
    if adm.slots ≤ GoMap.get m.targetActive adm.target.id then
      .refused "all execution slots are busy"
    else
      match (m.poolReason adm).or (m.modelLimitReason adm) with
      | some reason => .refused reason
      | none =>
        match m.targetLeases.lookup adm.target.id with
        | some lease => .joined lease
        | none =>
          match leaseOrder.find? fun e => e.2.acceleratorID = leaseID adm.target with
          | none => .vacant
          | some e =>
            let d := canCoScheduleLocked m.interferenceProfiles adm.placement placementOrder
            match d.refusal with
            | some reason => .refused reason
            | none => .shared e.2 d

/-- The lease that an admission joins or shares. -/
theorem Manager.fastPath_lease (m : Manager) (adm : Admission) (blocked : Option GoString)
    (leaseOrder : List (Entry AcceleratorLease)) (placementOrder : List (Entry ActivePlacement)) :
    match m.fastPath adm blocked leaseOrder placementOrder with
    | .joined lease => m.targetLeases.lookup adm.target.id = some lease
    | .shared lease _ => m.targetLeases.lookup adm.target.id = none ∧
      ∃ e ∈ leaseOrder, e.2 = lease ∧ lease.acceleratorID = leaseID adm.target
    | _ => True := by
  fun_cases fastPath m adm blocked leaseOrder placementOrder with
  | case4 _ _ lease hl => exact hl
  | case7 _ _ hl e he =>
    have hacc := List.find?_some he
    exact ⟨hl, e, List.mem_of_find?_eq_some he, rfl, by simpa using hacc⟩
  | _ => trivial

/-- The manager after an admission joins the lease of its target. -/
def Manager.join (m : Manager) (adm : Admission) (lease : AcceleratorLease) : Manager :=
  { m with
    targetActive := m.targetActive.insert adm.target.id (GoMap.get m.targetActive adm.target.id + 1)
    activePlacements := m.activePlacements.insert adm.request.workloadID adm.placement
    heap := m.heap ++ [adm.reservation lease] }

/-- The placements of the accelerator, marked as having been shared. -/
def markShared (acceleratorID : GoString) (placements : GoMap ActivePlacement) :
    GoMap ActivePlacement :=
  mapValues (fun p =>
    if p.acceleratorID = acceleratorID then { p with sharedObserved := true } else p) placements

/-- The manager after an admission shares the lease of another target. -/
def Manager.share (m : Manager) (adm : Admission) (lease : AcceleratorLease) (d : CoSchedule) :
    Manager :=
  let placement := { adm.placement with sharedObserved := true }
  let placements := (markShared placement.acceleratorID m.activePlacements).insert
    adm.request.workloadID placement
  { m with
    targetActive := m.targetActive.insert adm.target.id (GoMap.get m.targetActive adm.target.id + 1)
    targetLeases := m.targetLeases.insert adm.target.id lease
    activePlacements := placements
    -- The newcomer is already among the placements here, so its profile counts it twice. The keys
    -- are sorted, and the order of the scan does not matter.
    heap := m.heap ++ [{ adm.reservation lease with
      shared := true, envelope := d, profile := sharingProfile placement placements.entries }] }

/-! ## The publication of a new lease -/

/-- What the second critical section of `reserveTarget` decides. -/
inductive Publication
  | refused (reason : GoString)
  /-- A concurrent admission has taken the slot or installed a lease: start again. -/
  | overtaken
  | published

def Manager.publication (m : Manager) (adm : Admission) (blocked : Option GoString) : Publication :=
  match blocked.or (m.poolReason adm) with
  | some reason => .refused reason
  | none =>
    if adm.slots ≤ GoMap.get m.targetActive adm.target.id ||
        (m.targetLeases.lookup adm.target.id).isSome then .overtaken
    else .published

variable {m : Manager} {r : TargetReservation}

theorem Manager.lease_eq_none_of_published {adm : Admission} {blocked : Option GoString}
    (h : m.publication adm blocked = .published) : m.targetLeases.lookup adm.target.id = none := by
  unfold publication at h
  split at h
  · cases h
  · split_ifs at h with hc
    simp only [Bool.or_eq_true, decide_eq_true_eq, not_or, Bool.not_eq_true] at hc
    simpa using hc.2

/-- The manager after an admission publishes the lease it has acquired. -/
def Manager.publish (m : Manager) (adm : Admission) (lease : AcceleratorLease) : Manager :=
  { m with
    targetActive := m.targetActive.insert adm.target.id 1
    targetLeases := m.targetLeases.insert adm.target.id lease
    activePlacements := m.activePlacements.insert adm.request.workloadID adm.placement
    heap := m.heap ++ [adm.reservation lease] }

/-! ## Release -/

/-- The placement is another workload's on the accelerator. -/
def otherPlacement (acceleratorID workloadID : GoString) (p : ActivePlacement) : Bool :=
  p.workloadID ≠ workloadID && p.acceleratorID = acceleratorID

/-- What the critical section of `releaseTargetWithIntent` decides. -/
inductive Election
  /-- The backend has not confirmed that it stopped. -/
  | fenced
  /-- The reservation is released, or its release is in flight. -/
  | settled
  /-- No other workload is placed on the accelerator: the durable lease is to be released. -/
  | last
  /-- Others are still placed there: only the placement goes. -/
  | left
  deriving DecidableEq

/-- `order` is the one in which the placements are visited. -/
def election (r : TargetReservation) (order : List (Entry ActivePlacement)) : Election :=
  if r.backendStopPending && !r.backendStopConfirmed then .fenced
  else if r.released || r.releaseInFlight then .settled
  else if (order.find? fun e => otherPlacement r.lease.acceleratorID r.workloadID e.2).isSome then
    .left
  else .last

/-- No workload but `w` is placed on the accelerator. -/
def Alone (m : Manager) (a w : GoString) : Prop :=
  ∀ k p, m.activePlacements.lookup k = some p → otherPlacement a w p = false

variable {order : List (Entry ActivePlacement)}

/-- The election finds that the workload is the last one. -/
theorem alone_of_election (ho : RangeOrder m.activePlacements order)
    (h : election r order = .last) : Alone m r.lease.acceleratorID r.workloadID := by
  unfold election at h
  split_ifs at h with h₁ h₂ h₃
  rw [Bool.not_eq_true, Option.isSome_eq_false_iff, Option.isNone_iff_eq_none] at h₃
  exact ho.find?_eq_none.1 h₃

/-- A reservation with which something is done is not released, nor is its release in flight. -/
theorem open_of_election (h : election r order = .last ∨ election r order = .left) :
    r.released = false ∧ r.releaseInFlight = false := by
  unfold election at h
  split_ifs at h with h₁ h₂ <;> simp_all

/-- The placement of a reservation goes, and with the last one of its target the target's lease. -/
def Manager.dropPlacement (m : Manager) (r : TargetReservation) : Manager :=
  let active := GoMap.get m.targetActive r.targetID
  { m with
    activePlacements := m.activePlacements.erase r.workloadID
    targetActive :=
      if 1 < active then m.targetActive.insert r.targetID (active - 1)
      else m.targetActive.erase r.targetID
    targetLeases := if 1 < active then m.targetLeases else m.targetLeases.erase r.targetID }

def Manager.setReservation (m : Manager) (p : ℕ) (r : TargetReservation) : Manager :=
  { m with heap := m.heap.set p r }

theorem Manager.getElem?_setReservation {p : ℕ} (hp : m.heap[p]? = some r) (r' : TargetReservation)
    (q : ℕ) : (m.setReservation p r').heap[q]? = if q = p then some r' else m.heap[q]? := by
  obtain ⟨hlt, -⟩ := List.getElem?_eq_some_iff.1 hp
  split_ifs with hq
  · rw [hq, setReservation, List.getElem?_set_self hlt]
  · rw [setReservation, List.getElem?_set_ne (Ne.symm hq)]

def Manager.updateReservation (m : Manager) (p : ℕ) (f : TargetReservation → TargetReservation) :
    Manager :=
  match m.heap[p]? with
  | none => m
  | some r => m.setReservation p (f r)

/-- The manager after the election of the reservation at `p`, and what was decided. -/
def Manager.elect (m : Manager) (p : ℕ) (r : TargetReservation)
    (order : List (Entry ActivePlacement)) : Manager × Election :=
  match election r order with
  | .fenced => (m.setReservation p { r with releaseRequested := true }, .fenced)
  | .settled => (m, .settled)
  | .last =>
    (m.setReservation p { r with releaseRequested := true, releaseInFlight := true }, .last)
  | .left => (dropPlacement (m.setReservation p { r with released := true }) r, .left)

def Manager.finishReleasedReservationLocked (m : Manager) (p : ℕ) (r : TargetReservation) :
    Manager :=
  let released :=
    { r with
      released := true, releaseInFlight := false, cleanupIntent := none
      backendStopPending := false, backendStopConfirmed := true }
  dropPlacement (m.setReservation p released) r

/-- The workload's reservation is forgotten if it is the one at `p`. -/
def Manager.unregister (m : Manager) (p : ℕ) (r : TargetReservation) : Manager :=
  if m.reservations.lookup r.workloadID = some p then
    { m with reservations := m.reservations.erase r.workloadID }
  else m

end VramGovernor.Workloads
