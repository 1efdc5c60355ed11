import VramGovernor.Foundations.GoInt
import VramGovernor.Foundations.Run
import VramGovernor.Store.Memory

/-!
# Residency transitions

A residency transition moves a model between tiers on a target. An allocation gives it a fence above
those of all transitions of its target and model; it is repeated with the key or the id, and
answered with the stored row if the canonical arguments agree. One kind of allocation is made under
a lease and stores where the lease was. `TransitionChange` says what a call can do to the rows and
the index.
-/

namespace VramGovernor.Store

open GoString GoMap

/-- `ResidencyTier`, with the empty tier of a transition that is not observed. -/
inductive ResidencyTier
  | unset
  | remote
  | coldDisk
  | warmRAM
  | hotVRAM
  deriving DecidableEq

/-- `ResidencyTransitionStatus`. -/
inductive ResidencyTransitionStatus
  | planned
  | running
  | succeeded
  | failed
  | manualReconciliation
  deriving DecidableEq

structure ResidencyTransition where
  (id idempotencyKey targetID acceleratorID model : GoString := [])
  (fromTier toTier : ResidencyTier := .unset)
  (reason requestedBy workloadID : GoString := [])
  status : ResidencyTransitionStatus := .planned
  (revision targetGeneration : UInt64 := 0)
  executionFingerprint : GoString := []
  fencingToken : Int64 := 0
  (leaseOriginAcceleratorID leaseOriginWorkloadID : GoString := [])
  leaseOriginFencingToken : Int64 := 0
  leaseOriginAllocated : Bool := false
  error : GoString := []
  observedTier : ResidencyTier := .unset
  warmModelBytes : Int64 := 0
  warmModelBytesVerified : Bool := false
  (runtimeIdentity capabilityVersion capabilityRevision : GoString := [])
  observedFence : Int64 := 0
  projectionRepairPending : Bool := false
  createdAt : GoTime := {}
  (startedAt finishedAt : Option GoTime := none)
  deriving DecidableEq

/-- The memory store with its transitions and the index of their keys. -/
structure TransitionStore extends MemoryStore where
  transitions : GoMap ResidencyTransition := ∅
  transitionKeys : GoMap GoString := ∅

def errResidencyTransitionConflict : GoError :=
  .sentinel "store: residency transition idempotency conflict"

def transitionConflict (detail : String) : GoError := errResidencyTransitionConflict.wrapf detail

/-! ## Validators -/

/-- The test of `verifyResidencyTransitionCanonical`. -/
def canonicalDiffers (existing requested : ResidencyTransition) (compareFence : Bool) : Bool :=
  let fenceDiffers := compareFence && existing.fencingToken ≠ requested.fencingToken
  existing.idempotencyKey ≠ requested.idempotencyKey || existing.targetID ≠ requested.targetID ||
    existing.acceleratorID ≠ requested.acceleratorID || existing.model ≠ requested.model ||
    existing.fromTier ≠ requested.fromTier || existing.toTier ≠ requested.toTier ||
    existing.reason ≠ requested.reason || existing.requestedBy ≠ requested.requestedBy ||
    existing.workloadID ≠ requested.workloadID || fenceDiffers ||
    existing.capabilityVersion ≠ requested.capabilityVersion ||
    existing.capabilityRevision ≠ requested.capabilityRevision ||
    existing.targetGeneration ≠ requested.targetGeneration ||
    existing.executionFingerprint ≠ requested.executionFingerprint

def verifyResidencyTransitionCanonical (existing requested : ResidencyTransition)
    (compareFence : Bool) : Except GoError Unit :=
  if canonicalDiffers existing requested compareFence then
    .error (transitionConflict "canonical transition arguments differ")
  else .ok ()

def sameResidencyTransitionLeaseOrigin (left right : ResidencyTransition) : Bool :=
  left.leaseOriginAcceleratorID = right.leaseOriginAcceleratorID &&
    left.leaseOriginWorkloadID = right.leaseOriginWorkloadID &&
    left.leaseOriginFencingToken = right.leaseOriginFencingToken &&
    left.leaseOriginAllocated = right.leaseOriginAllocated

/-- The stored row is returned once it is checked. -/
def verifyResidencyTransitionReplay (existing : Option ResidencyTransition)
    (requested : ResidencyTransition) : Except GoError ResidencyTransition :=
  match existing with
  | none => .error (transitionConflict "missing transition")
  | some existing => do
    verifyResidencyTransitionCanonical existing requested true
    if sameResidencyTransitionLeaseOrigin existing requested then .ok existing
    else .error (transitionConflict "lease-origin provenance differs")

variable (t : ResidencyTransition)

def residencyTransitionHasLeaseOrigin : Bool :=
  t.leaseOriginAcceleratorID ≠ [] || t.leaseOriginWorkloadID ≠ [] ||
    t.leaseOriginFencingToken ≠ 0 || t.leaseOriginAllocated

def validateResidencyTransitionStoredOrigin : Except GoError Unit :=
  if !residencyTransitionHasLeaseOrigin t then .ok ()
  else if t.leaseOriginAcceleratorID = [] || t.leaseOriginWorkloadID = [] ||
      t.leaseOriginFencingToken ≤ 0 || !t.leaseOriginAllocated then
    .error (transitionConflict "partial or unissued lease-origin provenance")
  else .ok ()

/-- The first check of the calls that make a transition without a lease. -/
def refuseLeaseOrigin (detail : String) : Except GoError Unit := do
  validateResidencyTransitionStoredOrigin t
  if residencyTransitionHasLeaseOrigin t then .error (transitionConflict detail) else .ok ()

def startedOrObserved : Bool :=
  t.status ≠ .planned || t.revision ≠ 0 || t.startedAt.isSome || t.finishedAt.isSome ||
    t.error ≠ [] || t.observedTier ≠ .unset || t.warmModelBytes ≠ 0 || t.warmModelBytesVerified ||
    t.runtimeIdentity ≠ [] || t.observedFence ≠ 0 || t.projectionRepairPending

/-- The resource of the lease; a transition without an accelerator has a virtual one. -/
def leaseOriginResource (lease : AcceleratorLease) : Except GoError GoString := do
  let resource ←
    if t.acceleratorID ≠ [] then
      if lease.acceleratorID ≠ t.acceleratorID then
        .error (transitionConflict "lease resource differs from transition accelerator")
      else .ok lease.acceleratorID
    else if lease.acceleratorID ≠ ofString "virtual/" ++ t.targetID then
      .error (transitionConflict "virtual lease resource differs from transition target")
    else .ok (ofString "virtual/" ++ t.targetID)
  if resource = [] then .error (transitionConflict "lease resource is empty") else .ok resource

/-- The lease is returned with its resource, once it is known not to be nil. -/
def validateResidencyTransitionLeaseOriginRequest
    (lease : Option AcceleratorLease) : Except GoError (GoString × AcceleratorLease) := do
  firstError
    [(t.id = [] || t.idempotencyKey = [] || t.targetID = [] || t.model = [],
        transitionConflict
          "lease-aware transition requires id, idempotency key, target, and model"),
     (startedOrObserved t,
        transitionConflict "leased allocation must begin as an unobserved planned transition"),
     (residencyTransitionHasLeaseOrigin t,
        transitionConflict "caller may not supply lease-origin provenance")]
    (.ok ())
  match lease with
  | none =>
    .error (transitionConflict "lease-aware allocation requires the exact proposed lease fence")
  | some lease =>
    if lease.workloadID = [] || lease.fencingToken ≤ 0 || lease.expiresAt.isZero ||
        t.fencingToken ≠ lease.fencingToken then
      .error (transitionConflict "lease-aware allocation requires the exact proposed lease fence")
    else (leaseOriginResource t lease).map (·, lease)

def validateCurrentResidencyLeaseOrigin (current : Option AcceleratorLease)
    (requested : AcceleratorLease) (now : GoTime) : Except GoError Unit :=
  let stale := .error (transitionConflict "accelerator lease origin is stale, expired, or foreign")
  if requested.acceleratorID = [] || requested.workloadID = [] || requested.fencingToken ≤ 0 then
    stale
  else match current with
    | none => stale
    | some current =>
      if current.acceleratorID ≠ requested.acceleratorID ||
          current.workloadID ≠ requested.workloadID ||
          current.fencingToken ≠ requested.fencingToken || !current.expiresAt.after now then stale
      else .ok ()

def verifyResidencyTransitionLeaseReplay (existing requested : ResidencyTransition)
    (lease : AcceleratorLease) : Except GoError ResidencyTransition := do
  let (resource, lease) ← validateResidencyTransitionLeaseOriginRequest requested (some lease)
  verifyResidencyTransitionCanonical existing requested false
  if existing.leaseOriginAcceleratorID ≠ resource ||
      existing.leaseOriginWorkloadID ≠ lease.workloadID ||
      existing.leaseOriginFencingToken ≠ lease.fencingToken || !existing.leaseOriginAllocated ||
      existing.fencingToken < lease.fencingToken then
    .error (transitionConflict "stored transition was not allocated under the exact lease origin")
  else .ok existing

/-! ## Calls -/

variable (m : TransitionStore)

/-- The row a key stands for; an empty id counts as no entry. -/
def TransitionStore.keyed (key : GoString) : GoString := (m.transitionKeys.lookup key).getD []

def TransitionStore.insertTransition (t : ResidencyTransition) : TransitionStore :=
  { m with
    transitions := m.transitions.insert t.id t
    transitionKeys := m.transitionKeys.insert t.idempotencyKey t.id }

/-- A request whose key or id is known is answered from the stored row. -/
def replayOr (t : ResidencyTransition)
    (next : TransitionStore × Except GoError (ResidencyTransition × Bool)) :
    TransitionStore × Except GoError (ResidencyTransition × Bool) :=
  if m.keyed t.idempotencyKey ≠ [] then
    (m, (verifyResidencyTransitionReplay
      (m.transitions.lookup (m.keyed t.idempotencyKey)) t).map (·, false))
  else match m.transitions.lookup t.id with
    | some existing => (m, (verifyResidencyTransitionReplay (some existing) t).map (·, false))
    | none => next

def createResidencyTransition (t : ResidencyTransition) :
    TransitionStore × Except GoError (ResidencyTransition × Bool) :=
  match refuseLeaseOrigin t
    "CreateResidencyTransition cannot issue or accept lease-origin provenance" with
  | .error e => (m, .error e)
  | .ok () => replayOr m t (m.insertTransition t, .ok (t, true))

/-- The largest fence of the target and the model among the rows, and zero if all are below. -/
def highwater (order : List (Entry ResidencyTransition)) (targetID model : GoString) :
    Int64 :=
  order.foldl
    (fun h e =>
      if e.2.targetID = targetID && e.2.model = model && h < e.2.fencingToken then e.2.fencingToken
      else h)
    0

/-- The row of an allocation above the mark `h`: the first revision unless the request names one,
and a fence above the mark. -/
def fencedRow (t : ResidencyTransition) (h : Int64) : ResidencyTransition :=
  { t with
    revision := if t.revision = 0 then 1 else t.revision
    fencingToken := if t.fencingToken ≤ h then h + 1 else t.fencingToken }

theorem fencedRow_toInt (t : ResidencyTransition) {h : Int64} (hmax : h ≠ Int64.maxValue) :
    (fencedRow t h).fencingToken.toInt = max t.fencingToken.toInt (h.toInt + 1) := by
  have hlt : h < Int64.maxValue := by
    rw [Int64.lt_iff_toInt_lt, Int64.toInt_maxValue]
    have hh := Int64.toInt_lt h
    have hne : h.toInt ≠ 2 ^ 63 - 1 := fun he =>
      hmax (Int64.toInt_inj.1 (he.trans Int64.toInt_maxValue.symm))
    omega
  unfold fencedRow
  by_cases hle : t.fencingToken ≤ h
  · simp only [hle, if_true, toInt_add_one hlt]
    rw [Int64.le_iff_toInt_le] at hle
    omega
  · simp only [hle, if_false]
    rw [Int64.le_iff_toInt_le] at hle
    omega

/-- What both allocations share; `stamp` completes the row. The rows are visited in `order`. -/
def allocateFence (m : TransitionStore) (t : ResidencyTransition)
    (order : List (Entry ResidencyTransition))
    (stamp : ResidencyTransition → ResidencyTransition) :
    TransitionStore × Except GoError (ResidencyTransition × Bool) :=
  let h := highwater order t.targetID t.model
  if h = Int64.maxValue then
    (m, .error (transitionConflict "residency transition model fence exhausted"))
  else (m.insertTransition (stamp (fencedRow t h)), .ok (stamp (fencedRow t h), true))

def allocateResidencyTransition (m : TransitionStore) (t : ResidencyTransition)
    (order : List (Entry ResidencyTransition)) :
    TransitionStore × Except GoError (ResidencyTransition × Bool) :=
  match refuseLeaseOrigin t
    "unleased allocation cannot issue or accept lease-origin provenance" with
  | .error e => (m, .error e)
  | .ok () => replayOr m t (allocateFence m t order id)

/-- The transition was allocated under the lease of the resource. -/
def stampLeaseOrigin (resource : GoString) (lease : AcceleratorLease) (t : ResidencyTransition) :
    ResidencyTransition :=
  { t with
    leaseOriginAcceleratorID := resource
    leaseOriginWorkloadID := lease.workloadID
    leaseOriginFencingToken := lease.fencingToken
    leaseOriginAllocated := true }

/-- The row that a request under a lease repeats, by its key or its id. -/
def leasedReplay (m : TransitionStore) (t : ResidencyTransition) :
    Except GoError (Option ResidencyTransition) :=
  let differ := .error
    (transitionConflict "transition id and idempotency key identify different rows")
  let byID := m.transitions.lookup t.id
  if m.keyed t.idempotencyKey ≠ [] then
    match m.transitions.lookup (m.keyed t.idempotencyKey) with
    | none => differ
    | some byKey => if byID.any (·.id ≠ byKey.id) then differ else .ok (some byKey)
  else .ok byID

def allocateResidencyTransitionWithLease (m : TransitionStore) (t : ResidencyTransition)
    (lease : Option AcceleratorLease) (now : GoTime)
    (order : List (Entry ResidencyTransition)) :
    TransitionStore × Except GoError (ResidencyTransition × Bool) :=
  match validateResidencyTransitionLeaseOriginRequest t lease with
  | .error e => (m, .error e)
  | .ok (resource, lease) =>
    match validateCurrentResidencyLeaseOrigin (m.leases.lookup resource) lease now with
    | .error e => (m, .error e)
    | .ok () =>
      match leasedReplay m t with
      | .error e => (m, .error e)
      | .ok (some existing) =>
        (m, (verifyResidencyTransitionLeaseReplay existing t lease).map (·, false))
      | .ok none => allocateFence m t order (stampLeaseOrigin resource lease)

def swapChecks (current t : ResidencyTransition) (expectedRevision : UInt64)
    (expectedStatus : ResidencyTransitionStatus) (expectedFence : Int64) :
    Except GoError ResidencyTransition := do
  validateResidencyTransitionStoredOrigin current
  validateResidencyTransitionStoredOrigin t
  if current.revision ≠ expectedRevision || current.status ≠ expectedStatus ||
      current.fencingToken ≠ expectedFence then
    .error errResidencyTransitionConflict
  else verifyResidencyTransitionReplay (some current) t

def compareAndSwapResidencyTransition (m : TransitionStore) (t : ResidencyTransition)
    (expectedRevision : UInt64) (expectedStatus : ResidencyTransitionStatus)
    (expectedFence : Int64) : TransitionStore × Except GoError ResidencyTransition :=
  match m.transitions.lookup t.id with
  | none => (m, .error errNotFound)
  | some current =>
    match swapChecks current t expectedRevision expectedStatus expectedFence with
    | .error e => (m, .error e)
    | .ok _ =>
      let updated := { t with revision := expectedRevision + 1 }
      ({ m with transitions := m.transitions.insert updated.id updated }, .ok updated)

def updateChecks (current t : ResidencyTransition) : Except GoError Unit := do
  validateResidencyTransitionStoredOrigin current
  validateResidencyTransitionStoredOrigin t
  if !sameResidencyTransitionLeaseOrigin current t then
    .error (transitionConflict "UpdateResidencyTransition cannot change lease-origin provenance")
  else if current.leaseOriginAllocated && canonicalDiffers current t true then
    .error
      (transitionConflict "UpdateResidencyTransition cannot change allocated transition identity")
  else .ok ()

def updateResidencyTransition (m : TransitionStore) (t : ResidencyTransition) :
    TransitionStore × Except GoError ResidencyTransition :=
  match m.transitions.lookup t.id with
  | none => (m, .error errNotFound)
  | some current =>
    match updateChecks current t with
    | .error e => (m, .error e)
    | .ok () => ({ m with transitions := m.transitions.insert t.id t }, .ok t)

/-- The calls that write transitions; `other` is any change of the rest of the store. -/
inductive TransitionCall
  | create (t : ResidencyTransition)
  | allocate (t : ResidencyTransition) (order : List (Entry ResidencyTransition))
  | allocateWithLease (t : ResidencyTransition) (lease : Option AcceleratorLease) (now : GoTime)
      (order : List (Entry ResidencyTransition))
  | swap (t : ResidencyTransition) (expectedRevision : UInt64)
      (expectedStatus : ResidencyTransitionStatus) (expectedFence : Int64)
  | update (t : ResidencyTransition)
  | other (rest : MemoryStore)

namespace TransitionCall

/-- The reply of a call that returns a row has `false` for `created`. -/
def run (m : TransitionStore) :
    TransitionCall → TransitionStore × Except GoError (Option ResidencyTransition × Bool)
  | create t => (createResidencyTransition m t).map id (·.map fun r => (some r.1, r.2))
  | allocate t order =>
    (allocateResidencyTransition m t order).map id (·.map fun r => (some r.1, r.2))
  | allocateWithLease t lease now order =>
    (allocateResidencyTransitionWithLease m t lease now order).map id
      (·.map fun r => (some r.1, r.2))
  | swap t revision status fence =>
    (compareAndSwapResidencyTransition m t revision status fence).map id
      (·.map fun r => (some r, false))
  | update t => (updateResidencyTransition m t).map id (·.map fun r => (some r, false))
  | other rest => ({ m with toMemoryStore := rest }, .ok (none, false))

/-- The order in which an allocation visits the rows is one of the map. -/
def Visits (m : TransitionStore) : TransitionCall → Prop
  | allocate _ order | allocateWithLease _ _ _ order => m.transitions.RangeOrder order
  | _ => True

def request : TransitionCall → Option ResidencyTransition
  | allocate t _ | allocateWithLease t _ _ _ => some t
  | _ => none

end TransitionCall

/-- A step is a call, which holds the mutex of the store. -/
def TransitionStep (m : TransitionStore) (c : TransitionCall) (m' : TransitionStore) : Prop :=
  c.Visits m ∧ m' = (c.run m).1

/-! ## The fence of a target and a model -/

section Highwater

variable {order : List (Entry ResidencyTransition)} {targetID model : GoString}

/-- **The high-water mark is the least bound of zero and the fences of the rows.** -/
theorem highwater_le_iff {b : ℤ} : (highwater order targetID model).toInt ≤ b ↔
      0 ≤ b ∧ ∀ e ∈ order, e.2.targetID = targetID → e.2.model = model →
        e.2.fencingToken.toInt ≤ b := by
  suffices hgen : ∀ (h : Int64), (order.foldl
      (fun h e =>
        if e.2.targetID = targetID && e.2.model = model && h < e.2.fencingToken then
          e.2.fencingToken
        else h) h).toInt ≤ b ↔
      h.toInt ≤ b ∧ ∀ e ∈ order, e.2.targetID = targetID → e.2.model = model →
        e.2.fencingToken.toInt ≤ b from hgen 0
  induction order with
  | nil => simp
  | cons e order ih =>
    intro h
    rw [List.foldl_cons, ih, List.forall_mem_cons, ← and_assoc]
    refine and_congr_left fun _ => ?_
    by_cases hpair : e.2.targetID = targetID ∧ e.2.model = model
    · by_cases hlt : h < e.2.fencingToken
      · have hle := Int64.lt_iff_toInt_lt.1 hlt
        simp only [hpair, hlt, decide_true, Bool.and_true, if_true, true_implies]
        omega
      · have hle : e.2.fencingToken.toInt ≤ h.toInt := by
          rw [Int64.lt_iff_toInt_lt] at hlt
          omega
        simp only [hpair, hlt, decide_true, decide_false, Bool.and_false, Bool.false_eq_true,
          if_false, true_implies]
        omega
    · rw [if_neg]
      · constructor
        · exact fun hb => ⟨hb, fun ht hm => absurd ⟨ht, hm⟩ hpair⟩
        · exact fun hb => hb.1
      · intro hc
        simp only [Bool.and_eq_true, decide_eq_true_eq] at hc
        exact hpair hc.1

theorem highwater_perm {order' : List (Entry ResidencyTransition)} (h : order.Perm order') :
    highwater order targetID model = highwater order' targetID model := by
  apply Int64.toInt_inj.1
  apply le_antisymm
  · rw [highwater_le_iff]
    have hle := highwater_le_iff.1 (le_refl (highwater order' targetID model).toInt)
    exact ⟨hle.1, fun e he => hle.2 e (h.mem_iff.1 he)⟩
  · rw [highwater_le_iff]
    have hle := highwater_le_iff.1 (le_refl (highwater order targetID model).toInt)
    exact ⟨hle.1, fun e he => hle.2 e (h.mem_iff.2 he)⟩

end Highwater

/-- The fence of a target and a model in the store. -/
def TransitionStore.fence (m : TransitionStore) (targetID model : GoString) : ℤ :=
  (highwater m.transitions.entries targetID model).toInt

theorem TransitionStore.fence_le_iff {m : TransitionStore} {targetID model : GoString} {b : ℤ} :
    m.fence targetID model ≤ b ↔
      0 ≤ b ∧ ∀ id row, m.transitions.lookup id = some row → row.targetID = targetID →
        row.model = model → row.fencingToken.toInt ≤ b := by
  unfold TransitionStore.fence
  rw [highwater_le_iff]
  refine and_congr_right fun _ => ?_
  constructor
  · intro h id row hl
    exact h ⟨id, row⟩ ((rangeOrder_entries _).mem_iff.2 hl)
  · rintro h ⟨id, row⟩ he
    exact h id row ((rangeOrder_entries _).mem_iff.1 he)

theorem TransitionStore.token_le_fence {m : TransitionStore} {id : GoString}
    {row : ResidencyTransition} (h : m.transitions.lookup id = some row) :
    row.fencingToken.toInt ≤ m.fence row.targetID row.model :=
  (TransitionStore.fence_le_iff.1 le_rfl).2 id row h rfl rfl

/-- The fence that a new row of the request needs. -/
def neededToken (m : TransitionStore) (t : ResidencyTransition) : ℤ :=
  max t.fencingToken.toInt (m.fence t.targetID t.model + 1)

/-- The row is made for the request, with the fence it needs. -/
structure AllocatedFor (m : TransitionStore) (t row : ResidencyTransition) : Prop where
  id : row.id = t.id
  idempotencyKey : row.idempotencyKey = t.idempotencyKey
  targetID : row.targetID = t.targetID
  model : row.model = t.model
  token : row.fencingToken.toInt = neededToken m t

section Allocate

variable {m : TransitionStore} {t : ResidencyTransition}
  {order : List (Entry ResidencyTransition)} (ho : m.transitions.RangeOrder order)
include ho

/-- The mark is the largest word exactly if the request needs a fence beyond it. -/
theorem highwater_eq_max_iff :
    highwater order t.targetID t.model = Int64.maxValue ↔ 2 ^ 63 - 1 < neededToken m t := by
  have hf : m.fence t.targetID t.model = (highwater order t.targetID t.model).toInt := by
    rw [highwater_perm ho]
    rfl
  have ht := Int64.toInt_lt t.fencingToken
  have hh := Int64.toInt_lt (highwater order t.targetID t.model)
  rw [← Int64.toInt_inj, Int64.toInt_maxValue, neededToken, hf]
  omega

/-- **Below the largest word the row has the fence that it needs.** -/
theorem fencedRow_token (hmax : highwater order t.targetID t.model ≠ Int64.maxValue) :
    (fencedRow t (highwater order t.targetID t.model)).fencingToken.toInt = neededToken m t := by
  rw [fencedRow_toInt t hmax, neededToken, highwater_perm ho]
  rfl

end Allocate

/-! ## What a call can do -/

/-- The row that replaces another keeps what identifies it. -/
structure SameIdentity (current row : ResidencyTransition) : Prop where
  idempotencyKey : current.idempotencyKey = row.idempotencyKey
  targetID : current.targetID = row.targetID
  model : current.model = row.model
  token : current.fencingToken = row.fencingToken

/-- The request of a row that is not stored. -/
def Fresh (m : TransitionStore) (t : ResidencyTransition) : Prop :=
  m.keyed t.idempotencyKey = [] ∧ m.transitions.lookup t.id = none

/-- How an allocation completes its row, and what it has checked before. -/
inductive Stamp (m : TransitionStore) (t : ResidencyTransition) :
    TransitionCall → (ResidencyTransition → ResidencyTransition) → Prop
  | unleased (order : List (Entry ResidencyTransition)) {detail : String}
      (ho : refuseLeaseOrigin t detail = .ok ()) : Stamp m t (.allocate t order) id
  | leased (lease : Option AcceleratorLease) (now : GoTime)
      (order : List (Entry ResidencyTransition)) {resource : GoString} {l : AcceleratorLease}
      (hreq : validateResidencyTransitionLeaseOriginRequest t lease = .ok (resource, l))
      (hcur : validateCurrentResidencyLeaseOrigin (m.leases.lookup resource) l now = .ok ()) :
      Stamp m t (.allocateWithLease t lease now order) (stampLeaseOrigin resource l)

/-- What a call can do to the store, with its reply. -/
inductive TransitionChange (m : TransitionStore) (c : TransitionCall) :
    TransitionStore → Except GoError (Option ResidencyTransition × Bool) → Prop
  | refused (e : GoError) : TransitionChange m c m (.error e)
  /-- A repeated request is answered from a stored row. -/
  | replayed {id : GoString} {row : ResidencyTransition}
      (hl : m.transitions.lookup id = some row) (hknown : ∀ t, c.request = some t → ¬ Fresh m t) :
      TransitionChange m c m (.ok (some row, false))
  | other (rest : MemoryStore) (hc : c = .other rest) :
      TransitionChange m c { m with toMemoryStore := rest } (.ok (none, false))
  | created (t : ResidencyTransition) (hc : c = .create t) (hfresh : Fresh m t) {detail : String}
      (ho : refuseLeaseOrigin t detail = .ok ()) :
      TransitionChange m c (m.insertTransition t) (.ok (some t, true))
  | allocated (t row : ResidencyTransition) (hc : c.request = some t) (hfresh : Fresh m t)
      (hneeded : neededToken m t ≤ 2 ^ 63 - 1) (hrow : AllocatedFor m t row)
      (hmade : ∃ stamp h, Stamp m t c stamp ∧ h ≠ Int64.maxValue ∧ row = stamp (fencedRow t h)) :
      TransitionChange m c (m.insertTransition row) (.ok (some row, true))
  | swapped (current row : ResidencyTransition) (revision : UInt64)
      (status : ResidencyTransitionStatus) (fence : Int64)
      (hc : c = .swap row revision status fence)
      (hl : m.transitions.lookup row.id = some current) {r : ResidencyTransition}
      (hchecks : swapChecks current row revision status fence = .ok r) :
      TransitionChange m c
        { m with
          transitions := m.transitions.insert row.id { row with revision := revision + 1 } }
        (.ok (some { row with revision := revision + 1 }, false))
  | updated (current row : ResidencyTransition) (hc : c = .update row)
      (hl : m.transitions.lookup row.id = some current)
      (hchecks : updateChecks current row = .ok ()) :
      TransitionChange m c { m with transitions := m.transitions.insert row.id row }
        (.ok (some row, false))

section Change

variable {m : TransitionStore} {t current row : ResidencyTransition}

theorem verifyResidencyTransitionReplay_ok {existing : Option ResidencyTransition}
    (h : verifyResidencyTransitionReplay existing t = .ok row) :
    existing = some row ∧ canonicalDiffers row t true = false ∧
      sameResidencyTransitionLeaseOrigin row t = true := by
  cases existing with
  | none => cases h
  | some existing =>
    obtain ⟨_, hc, h⟩ := bind_eq_ok.1 h
    unfold verifyResidencyTransitionCanonical at hc
    split_ifs at hc with hdiffers
    split_ifs at h with hsame
    cases h
    exact ⟨rfl, Bool.eq_false_iff.2 hdiffers, hsame⟩

theorem verifyResidencyTransitionLeaseReplay_ok {lease : AcceleratorLease}
    (h : verifyResidencyTransitionLeaseReplay current t lease = .ok row) : current = row := by
  obtain ⟨_, -, h⟩ := bind_eq_ok.1 h
  obtain ⟨_, -, h⟩ := bind_eq_ok.1 h
  split_ifs at h
  exact Except.ok.inj h

/-- A swap that passes its checks names the stored row and keeps its arguments and its origin. -/
theorem swapChecks_ok {revision : UInt64} {status : ResidencyTransitionStatus} {fence : Int64}
    (h : swapChecks current t revision status fence = .ok row) :
    (current.revision = revision ∧ current.status = status ∧ current.fencingToken = fence) ∧
      canonicalDiffers current t true = false ∧
      sameResidencyTransitionLeaseOrigin current t = true := by
  obtain ⟨-, -, h⟩ := bind_eq_ok.1 h
  obtain ⟨-, -, h⟩ := bind_eq_ok.1 h
  split_ifs at h with hexp
  simp only [Bool.or_eq_true, decide_eq_true_eq, not_or, ne_eq, not_not] at hexp
  obtain ⟨⟨⟩, hkept⟩ := verifyResidencyTransitionReplay_ok h
  exact ⟨⟨hexp.1.1, hexp.1.2, hexp.2⟩, hkept⟩

theorem sameIdentity_of_swapChecks {revision : UInt64} {status : ResidencyTransitionStatus}
    {fence : Int64} (h : swapChecks current t revision status fence = .ok row) :
    SameIdentity current t := by
  have hc := (swapChecks_ok h).2.1
  simp only [canonicalDiffers, Bool.or_eq_false_iff, Bool.and_eq_false_iff, decide_eq_false_iff_not,
    not_not, ne_eq] at hc
  constructor <;> tauto

variable (m t)

/-- A request is fresh, or it is answered from a stored row. -/
theorem replayOr_cases (next : TransitionStore × Except GoError (ResidencyTransition × Bool)) :
    (Fresh m t ∧ replayOr m t next = next) ∨
      (¬ Fresh m t ∧ ∃ r : Except GoError ResidencyTransition,
        (∀ row, r = .ok row → ∃ id, m.transitions.lookup id = some row) ∧
        replayOr m t next = (m, r.map (·, false))) := by
  fun_cases replayOr m t next with
  | case1 hkey =>
    refine .inr ⟨fun hf => hkey hf.1, _, fun row hr => ?_, rfl⟩
    exact ⟨_, (verifyResidencyTransitionReplay_ok hr).1⟩
  | case2 _ existing hl =>
    refine .inr ⟨fun hf => (nomatch hf.2.symm.trans hl), _, fun row hr => ?_, rfl⟩
    exact ⟨t.id, hl.trans (verifyResidencyTransitionReplay_ok hr).1⟩
  | case3 hkey hl => exact .inl ⟨⟨not_not.1 hkey, hl⟩, rfl⟩

variable {m t}

/-- The same for a request under a lease. -/
theorem leasedReplay_ok {existing : Option ResidencyTransition}
    (h : leasedReplay m t = .ok existing) :
    (existing = none ∧ Fresh m t) ∨
      (¬ Fresh m t ∧ ∃ id row, existing = some row ∧ m.transitions.lookup id = some row) := by
  revert h
  fun_cases leasedReplay m t with
  | case1 | case2 => exact nofun
  | case3 _ hkey byKey hl =>
    rintro ⟨⟩
    exact .inr ⟨fun hf => hkey hf.1, _, byKey, rfl, hl⟩
  | case4 byID hkey =>
    intro h
    have hl : m.transitions.lookup t.id = existing := Except.ok.inj h
    cases existing with
    | none => exact .inl ⟨rfl, not_not.1 hkey, hl⟩
    | some existing => exact .inr ⟨fun hf => (nomatch hf.2.symm.trans hl), _, existing, rfl, hl⟩

end Change

variable {c : TransitionCall}

namespace TransitionCall

variable {m : TransitionStore} {t : ResidencyTransition}

/-- The answer to a request that is not fresh. -/
theorem replay_change {r : Except GoError ResidencyTransition}
    (hknown : ∀ t, c.request = some t → ¬ Fresh m t)
    (hr : ∀ row, r = .ok row → ∃ id, m.transitions.lookup id = some row) :
    TransitionChange m c m ((r.map (·, false)).map fun r => (some r.1, r.2)) := by
  cases r with
  | error e => exact .refused e
  | ok row =>
    obtain ⟨id, hl⟩ := hr row rfl
    exact .replayed hl hknown

/-- The common end of both allocations. -/
theorem allocateFence_change {order : List (Entry ResidencyTransition)}
    {stamp : ResidencyTransition → ResidencyTransition} (hstamp : Stamp m t c stamp)
    (hfresh : Fresh m t) (ho : m.transitions.RangeOrder order) :
    TransitionChange m c (allocateFence m t order stamp).1
      ((allocateFence m t order stamp).2.map fun r => (some r.1, r.2)) := by
  fun_cases allocateFence m t order stamp with
  | case1 => exact .refused _
  | case2 _ hmax =>
    refine .allocated t _ ?_ hfresh (not_lt.1 fun hlt => hmax ((highwater_eq_max_iff ho).2 hlt))
      ?_ ⟨stamp, _, hstamp, hmax, rfl⟩
    · cases hstamp <;> rfl
    · cases hstamp <;> exact ⟨rfl, rfl, rfl, rfl, fencedRow_token ho hmax⟩

theorem run_change (hv : c.Visits m) : TransitionChange m c (c.run m).1 (c.run m).2 := by
  cases c with
  | create t =>
    simp only [run, Prod.map, id]
    fun_cases createResidencyTransition m t with
    | case1 e => exact .refused e
    | case2 ho =>
      rcases replayOr_cases m t (m.insertTransition t, .ok (t, true)) with
        ⟨hf, heq⟩ | ⟨-, r, hr, heq⟩
      · rw [heq]
        exact .created t rfl hf ho
      · rw [heq]
        exact replay_change (by simp [request]) hr
  | allocate t order =>
    simp only [run, Prod.map, id]
    fun_cases allocateResidencyTransition m t order with
    | case1 e => exact .refused e
    | case2 ho =>
      rcases replayOr_cases m t (allocateFence m t order id) with ⟨hf, heq⟩ | ⟨hf, r, hr, heq⟩
      · rw [heq]
        exact allocateFence_change (.unleased order ho) hf hv
      · rw [heq]
        exact replay_change (by rintro _ ⟨⟩; exact hf) hr
  | allocateWithLease t lease now order =>
    simp only [run, Prod.map, id]
    fun_cases allocateResidencyTransitionWithLease m t lease now order with
    | case1 e | case2 _ _ _ e | case3 _ _ _ _ e => exact .refused e
    | case4 resource l hreq hcur existing hl =>
      obtain ⟨⟨⟩, -⟩ | ⟨hf, id, _, ⟨⟩, hl⟩ := leasedReplay_ok hl
      refine replay_change (by rintro _ ⟨⟩; exact hf) fun row hr => ⟨id, ?_⟩
      rw [hl, verifyResidencyTransitionLeaseReplay_ok hr]
    | case5 resource l hreq hcur hl =>
      obtain ⟨-, hf⟩ | ⟨-, _, _, ⟨⟩, -⟩ := leasedReplay_ok hl
      exact allocateFence_change (.leased lease now order hreq hcur) hf hv
  | swap row revision status fence =>
    simp only [run, Prod.map, id]
    fun_cases compareAndSwapResidencyTransition m row revision status fence with
    | case1 | case2 => exact .refused _
    | case3 current hl _ hchecks => exact .swapped current row revision status fence rfl hl hchecks
  | update row =>
    simp only [run, Prod.map, id]
    fun_cases updateResidencyTransition m row with
    | case1 | case2 => exact .refused _
    | case3 current hl hchecks => exact .updated current row rfl hl hchecks
  | other rest => exact .other rest rfl

end TransitionCall

theorem TransitionStep.change {m m' : TransitionStore}
    (h : TransitionStep m c m') : TransitionChange m c m' (c.run m).2 := by
  obtain ⟨hv, rfl⟩ := h
  exact TransitionCall.run_change hv

end VramGovernor.Store
