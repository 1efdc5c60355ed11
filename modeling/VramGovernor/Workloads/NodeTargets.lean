import VramGovernor.Foundations.Run
import VramGovernor.Workloads.Manager

/-!
# Targets and accelerators of the nodes

A node registers its adapters as targets (`applyAdapterPlans`) and names the accelerators whose
clocks the controller may set (`setManagedGPUPerformance`). All nodes share one target map and one
set of managed accelerators. The targets of a node are the ids that start with the node id and a
dash, its accelerators those that start with the node id and `-gpu`. So two nodes are safe from each
other exactly if neither id continues the other with a dash (`nodes_undisturbed_iff`).
-/

namespace VramGovernor.Workloads

open GoString GoMap

/-! ## The registry -/

def TargetRegistry.remove (reg : TargetRegistry) (id : GoString) : TargetRegistry where
  entries := reg.entries.erase id
  keyed id' t h := by
    rw [lookup_erase_of] at h
    split_ifs at h with hid
    exact reg.keyed id' t h

/-- The maps of the manager that node messages change. -/
structure NodeRegistry where
  targets : TargetRegistry := .empty
  retiredTargets : GoMap Target := ∅
  targetGenerations : GoMap UInt64 := ∅
  targetActive : GoMap ℤ := ∅
  targetLeases : GoMap AcceleratorLease := ∅
  managedGPUPerformance : GoMap Unit := ∅
  gpuAppliedProfile : GoMap GoString := ∅
  gpuPowerGeneration : GoMap UInt64 := ∅
  pendingGPUIdleReconcile : GoMap Bool := ∅
  gpuIdleRetryAfter : GoMap GoTime := ∅

namespace NodeRegistry

/-- The generation at which targets can no longer be replaced. -/
def exhausted : UInt64 := UInt64.ofNat (2 ^ 64 - 1)

/-- What a registration finds: whether a check refuses it (the byte and MiB envelopes, a newer
generation or epoch, a runtime profile under way), and the highest durable generations of the
target, with its fingerprint and with any. -/
structure Registration where
  refused : Bool := false
  (durableGeneration durableGenerationAny : UInt64 := 0)

/-- The generation from which a target that is not in the map goes on. -/
def publishGeneration (current : UInt64) (r : Registration) : UInt64 :=
  if 0 < r.durableGeneration then max current (r.durableGeneration - 1)
  else if 0 < r.durableGenerationAny then max current r.durableGenerationAny else current

/-- `invalidateTargetAtExhaustedGenerationLocked`, as far as the target maps go. -/
def invalidateTarget (reg : NodeRegistry) (target : Target) : NodeRegistry :=
  { reg with
    retiredTargets := reg.retiredTargets.insert target.id { target with enabled := false }
    targets := reg.targets.remove target.id }

/-- `replaceTargetLocked` for a target whose generation is counted up, and what follows it. -/
def publishTarget (reg : NodeRegistry) (target : Target) (generation : UInt64) : NodeRegistry :=
  { reg with
    targets := reg.targets.register target
    targetGenerations := reg.targetGenerations.insert target.id generation
    retiredTargets := reg.retiredTargets.erase target.id }

/-- `RegisterTarget`, as far as the target maps go. -/
def registerTarget (reg : NodeRegistry) (target : Target) (r : Registration) : NodeRegistry :=
  let generation := GoMap.get reg.targetGenerations target.id
  if r.refused then reg
  else
    match reg.targets.entries.lookup target.id with
    | some previous =>
      if previous.executionFingerprint = target.executionFingerprint then
        publishTarget reg target generation
      else if generation = exhausted then invalidateTarget reg previous
      else publishTarget reg target (generation + 1)
    | none =>
      let publish := publishGeneration generation r
      if publish = exhausted then reg else publishTarget reg target (publish + 1)

/-- What the ids of a node's targets start with. -/
def targetPrefix (nodeID : GoString) : GoString := nodeID ++ "-"

/-- One retirement of `ReconcileNodeTargets`. -/
def retireTarget (reg : NodeRegistry) (id : GoString) : NodeRegistry :=
  match reg.targets.entries.lookup id with
  | none => reg
  | some retired =>
    let generation := GoMap.get reg.targetGenerations id
    { reg with
      retiredTargets := reg.retiredTargets.insert id { retired with enabled := false }
      targets := reg.targets.remove id
      targetGenerations := if generation = exhausted then reg.targetGenerations
        else reg.targetGenerations.insert id (generation + 1) }

/-- The lease of a retired target is forgotten unless a placement uses it. -/
def forgetLease (reg : NodeRegistry) (id : GoString) : NodeRegistry :=
  if GoMap.get reg.targetActive id ≤ 0 then
    { reg with
      targetLeases := reg.targetLeases.erase id
      targetActive := reg.targetActive.erase id }
  else reg

/-- The targets under the node's name that it does not advertise, in order. -/
def candidates (reg : NodeRegistry) (nodeID : GoString) (advertised : List GoString) :
    List GoString :=
  (reg.targets.entries.keys.filter fun id =>
    (targetPrefix nodeID).isPrefixOf id && id ∉ advertised).insertionSort (· ≤ ·)

def reconcileNodeTargets (reg : NodeRegistry) (nodeID : GoString) (advertised : List GoString) :
    NodeRegistry :=
  let removed := reg.candidates nodeID advertised
  removed.foldl forgetLease (removed.foldl retireTarget reg)

/-! ## What the nodes send -/

/-- An advertised adapter, what its registration finds and whether its capacity is refused. -/
structure AdapterPlan where
  id : GoString
  acceleratorIndex : ℤ := 0
  executionFingerprint : GoString := []
  registration : Registration := {}
  capacityRefused : Bool := false

/-- The id of a target: that of the adapter, under the node's name. -/
def advertisedID (nodeID id : GoString) : GoString :=
  if (targetPrefix nodeID).isPrefixOf id then id else targetPrefix nodeID ++ id

/-- What the ids of a node's accelerators start with. -/
def gpuPrefix (nodeID : GoString) : GoString := nodeID ++ "-gpu"

def acceleratorID (nodeID : GoString) (index : ℤ) : GoString := gpuPrefix nodeID ++ sprint index

def AdapterPlan.target (plan : AdapterPlan) (nodeID : GoString) : Target :=
  { id := advertisedID nodeID plan.id, nodeID
    acceleratorID := acceleratorID nodeID plan.acceleratorIndex
    executionFingerprint := plan.executionFingerprint }

/-- The loop of `applyAdapterPlans`, which stops at a capacity that the store refuses, and whether
it ended. -/
def registerPlans (nodeID : GoString) : NodeRegistry → List AdapterPlan → NodeRegistry × Bool
  | reg, [] => (reg, true)
  | reg, plan :: plans =>
    let reg := reg.registerTarget (plan.target nodeID) plan.registration
    if plan.capacityRefused then (reg, false) else registerPlans nodeID reg plans

def applyAdapterPlans (reg : NodeRegistry) (nodeID : GoString) (plans : List AdapterPlan) :
    NodeRegistry :=
  match registerPlans nodeID reg plans with
  | (reg, false) => reg
  | (reg, true) => reg.reconcileNodeTargets nodeID (plans.map fun p => advertisedID nodeID p.id)

def setManagedGPUPerformance (reg : NodeRegistry) (nodeID : GoString) (indices : List ℤ) :
    NodeRegistry :=
  let stale := reg.managedGPUPerformance.keys.filter (gpuPrefix nodeID).isPrefixOf
  let kept := stale.foldl (fun t k => AList.erase k t) reg.managedGPUPerformance
  let indexed := (indices.filter (0 ≤ ·)).map (acceleratorID nodeID)
  { reg with
    gpuPowerGeneration :=
      reg.gpuPowerGeneration.insert nodeID (GoMap.get reg.gpuPowerGeneration nodeID + 1)
    managedGPUPerformance := indexed.foldl (fun t k => t.insert k ()) kept
    gpuAppliedProfile := stale.foldl (fun t k => AList.erase k t) reg.gpuAppliedProfile
    pendingGPUIdleReconcile :=
      if indices = [] then reg.pendingGPUIdleReconcile.erase nodeID
      else reg.pendingGPUIdleReconcile.insert nodeID true
    gpuIdleRetryAfter := reg.gpuIdleRetryAfter.erase nodeID }

end NodeRegistry

/-- A message of a node. -/
inductive NodeMessage
  | adapters (nodeID : GoString) (plans : List NodeRegistry.AdapterPlan)
  | performance (nodeID : GoString) (indices : List ℤ)

def NodeStep (reg : NodeRegistry) : NodeMessage → NodeRegistry → Prop
  | .adapters nodeID plans, reg' => reg' = reg.applyAdapterPlans nodeID plans
  | .performance nodeID indices, reg' => reg' = reg.setManagedGPUPerformance nodeID indices

/-! ## What the operations do to an entry -/

namespace NodeRegistry

variable {reg reg' : NodeRegistry} {nodeID n₁ n₂ id : GoString} {advertised : List GoString}
  {t : Target}

variable (reg)

theorem lookup_retireTarget (k id : GoString) :
    (reg.retireTarget k).targets.entries.lookup id =
      if id = k then none else reg.targets.entries.lookup id := by
  unfold retireTarget
  cases hk : reg.targets.entries.lookup k with
  | none =>
    split_ifs with h
    · rw [h, hk]
    · rfl
  | some retired => exact lookup_erase_of _ _ _

variable (ids : List GoString)

theorem lookup_foldl_retireTarget (id : GoString) :
    (ids.foldl retireTarget reg).targets.entries.lookup id =
      if id ∈ ids then none else reg.targets.entries.lookup id := by
  induction ids generalizing reg with
  | nil => simp
  | cons k ids ih =>
    rw [List.foldl_cons, ih, lookup_retireTarget]
    by_cases hk : id = k
    · simp [hk]
    · simp [hk]

theorem foldl_forgetLease_targets : (ids.foldl forgetLease reg).targets = reg.targets := by
  induction ids generalizing reg with
  | nil => rfl
  | cons k ids ih =>
    rw [List.foldl_cons, ih]
    unfold forgetLease
    split_ifs <;> rfl

variable {reg}

theorem mem_candidates : id ∈ reg.candidates nodeID advertised ↔
    id ∈ reg.targets.entries.keys ∧ targetPrefix nodeID <+: id ∧ id ∉ advertised := by
  unfold candidates
  simp

/-- **What a reconciliation retires**: the targets under the node's name that are not
advertised. -/
theorem lookup_reconcileNodeTargets (reg : NodeRegistry) (nodeID : GoString)
    (advertised : List GoString) (id : GoString) :
    (reg.reconcileNodeTargets nodeID advertised).targets.entries.lookup id =
      if targetPrefix nodeID <+: id ∧ id ∉ advertised then none
      else reg.targets.entries.lookup id := by
  unfold reconcileNodeTargets
  simp only [foldl_forgetLease_targets, lookup_foldl_retireTarget, mem_candidates]
  by_cases hmem : id ∈ reg.targets.entries.keys
  · simp [hmem]
  · have hnone : reg.targets.entries.lookup id = none :=
      AList.lookup_eq_none.2 fun h => hmem (AList.mem_keys.1 h)
    simp [hnone]

/-- A new advertisement of performance keeps the accelerators that are not under the node's name. -/
theorem lookup_setManagedGPUPerformance (indices : List ℤ) (hid : ¬ gpuPrefix nodeID <+: id) :
    (reg.setManagedGPUPerformance nodeID indices).managedGPUPerformance.lookup id =
      reg.managedGPUPerformance.lookup id := by
  have hinsert : ∀ (ks : List GoString) (m : GoMap Unit), id ∉ ks →
      (ks.foldl (fun t k => t.insert k ()) m).lookup id = m.lookup id := by
    intro ks
    induction ks with
    | nil => exact fun _ _ => rfl
    | cons k ks ih =>
      intro m hk
      simp only [List.mem_cons, not_or] at hk
      rw [List.foldl_cons, ih _ hk.2, AList.lookup_insert_ne hk.1]
  simp only [setManagedGPUPerformance]
  rw [hinsert, lookup_foldl_erase, if_neg]
  · intro hmem
    exact hid (by simpa using (List.mem_filter.1 hmem).2)
  · intro hmem
    obtain ⟨index, -, rfl⟩ := List.mem_map.1 hmem
    exact hid (List.prefix_append _ _)

/-! ## Names -/

theorem prefix_advertisedID (nodeID id : GoString) :
    targetPrefix nodeID <+: advertisedID nodeID id := by
  unfold advertisedID
  split_ifs with h
  · exact List.isPrefixOf_iff_prefix.1 h
  · exact List.prefix_append _ _

/-- Neither id continues the other with a dash. -/
def Apart (n₁ n₂ : GoString) : Prop := ¬ targetPrefix n₁ <+: n₂ ∧ ¬ targetPrefix n₂ <+: n₁

/-- **Two nodes that are apart have no id in common.** -/
theorem Apart.eq_of_prefix (h : Apart n₁ n₂) (h₁ : targetPrefix n₁ <+: id)
    (h₂ : targetPrefix n₂ <+: id) : n₁ = n₂ := by
  have hdash : ∀ a b : GoString, targetPrefix a <+: targetPrefix b →
      a = b ∨ targetPrefix a <+: b := by
    intro a b hab
    rcases List.prefix_concat_iff.1 hab with heq | hpre
    · exact .inl (List.append_cancel_right heq)
    · exact .inr hpre
  rcases List.prefix_or_prefix_of_prefix h₁ h₂ with hpre | hpre
  · exact (hdash n₁ n₂ hpre).resolve_right h.1
  · exact ((hdash n₂ n₁ hpre).resolve_right h.2).symm

theorem targetPrefix_prefix_gpuPrefix (nodeID : GoString) :
    targetPrefix nodeID <+: gpuPrefix nodeID :=
  ⟨"gpu", by rw [targetPrefix, List.append_assoc]; rfl⟩

/-! ## Runs -/

/-- Every target is under the name of the node that registered it. -/
def Named (reg : NodeRegistry) : Prop :=
  ∀ id t, reg.targets.entries.lookup id = some t → targetPrefix t.nodeID <+: id

section

variable (h : Named reg)
include h

theorem Named.remove (k : GoString) (hreg : reg'.targets = reg.targets.remove k) : Named reg' := by
  intro id t ht
  rw [hreg, TargetRegistry.remove, lookup_erase_of] at ht
  split_ifs at ht
  exact h id t ht

theorem Named.registerTarget {target : Target} (htarget : targetPrefix target.nodeID <+: target.id)
    (r : Registration) : Named (reg.registerTarget target r) := by
  have hpublish : ∀ generation, Named (reg.publishTarget target generation) := by
    intro generation id t ht
    rcases of_lookup_insert ht with ⟨rfl, rfl⟩ | ⟨-, ht⟩
    · exact htarget
    · exact h id t ht
  fun_cases NodeRegistry.registerTarget reg target r with
  | case1 | case5 => exact h
  | case3 _ _ previous => exact h.remove previous.id rfl
  | case2 | case4 | case6 => exact hpublish _

theorem Named.registerPlans (nodeID : GoString) (plans : List AdapterPlan) :
    Named (registerPlans nodeID reg plans).1 := by
  induction plans generalizing reg with
  | nil => exact h
  | cons plan plans ih =>
    have hreg : Named (reg.registerTarget (plan.target nodeID) plan.registration) :=
      h.registerTarget (prefix_advertisedID nodeID plan.id) plan.registration
    simp only [NodeRegistry.registerPlans]
    split_ifs
    · exact hreg
    · exact ih hreg

theorem Named.applyAdapterPlans (nodeID : GoString) (plans : List AdapterPlan) :
    Named (reg.applyAdapterPlans nodeID plans) := by
  have hreg := h.registerPlans nodeID plans
  unfold NodeRegistry.applyAdapterPlans
  split <;> next he =>
    rw [he] at hreg
    first
    | exact hreg
    | intro id t ht
      rw [lookup_reconcileNodeTargets] at ht
      split_ifs at ht
      exact hreg id t ht

theorem Named.step {m : NodeMessage} (hstep : NodeStep reg m reg') : Named reg' := by
  cases m with
  | adapters nodeID plans =>
    cases hstep
    exact h.applyAdapterPlans nodeID plans
  | performance nodeID indices =>
    cases hstep
    exact h

end

/-- Messages of the first node leave the second alone: they retire no target that it registered, and
remove none of its accelerators. -/
structure Undisturbed (reg : NodeRegistry) (n₁ n₂ : GoString) : Prop where
  targets : ∀ plans id t,
    (NodeRegistry.registerPlans n₁ reg plans).1.targets.entries.lookup id = some t →
    t.nodeID = n₂ → (reg.applyAdapterPlans n₁ plans).targets.entries.lookup id = some t
  managed : ∀ indices index,
    reg.managedGPUPerformance.lookup (acceleratorID n₂ index) = some () →
    (reg.setManagedGPUPerformance n₁ indices).managedGPUPerformance.lookup
      (acceleratorID n₂ index) = some ()

theorem Named.undisturbed (h : Named reg) (hne : n₁ ≠ n₂) (hapart : Apart n₁ n₂) :
    Undisturbed reg n₁ n₂ := by
  constructor
  · intro plans id t ht hnode
    have hnamed := h.registerPlans n₁ plans id t ht
    rw [hnode] at hnamed
    have hfree : ¬ targetPrefix n₁ <+: id := fun hpre => hne (hapart.eq_of_prefix hpre hnamed)
    unfold NodeRegistry.applyAdapterPlans
    split <;> next he =>
      rw [he] at ht
      first
      | exact ht
      | rw [lookup_reconcileNodeTargets, if_neg fun hc => hfree hc.1]
        exact ht
  · intro indices index hm
    have hgpu : ¬ gpuPrefix n₁ <+: acceleratorID n₂ index := by
      intro hpre
      refine hne (hapart.eq_of_prefix ((targetPrefix_prefix_gpuPrefix n₁).trans hpre) ?_)
      exact (targetPrefix_prefix_gpuPrefix n₂).trans (List.prefix_append _ _)
    rw [lookup_setManagedGPUPerformance indices hgpu]
    exact hm

theorem lookup_applyAdapterPlans_first (hid : targetPrefix nodeID <+: id) :
    ∃ t, (applyAdapterPlans {} nodeID [{ id }]).targets.entries.lookup id = some t ∧
      t.nodeID = nodeID := by
  have hadv : advertisedID nodeID id = id := by
    rw [advertisedID, if_pos (List.isPrefixOf_iff_prefix.2 hid)]
  have hplans : registerPlans nodeID {} [{ id }] =
      (publishTarget {} (AdapterPlan.target { id } nodeID) 1, true) := rfl
  refine ⟨AdapterPlan.target { id } nodeID, ?_, rfl⟩
  unfold applyAdapterPlans
  rw [hplans]
  rw [lookup_reconcileNodeTargets, if_neg (by simp [hadv])]
  simp only [publishTarget, TargetRegistry.register, AdapterPlan.target, hadv]
  exact AList.lookup_insert _

/-- A node retires whatever stands under its name when it advertises nothing. -/
theorem lookup_applyAdapterPlans_nil (reg : NodeRegistry) (hid : targetPrefix nodeID <+: id) :
    (reg.applyAdapterPlans nodeID []).targets.entries.lookup id = none := by
  unfold applyAdapterPlans
  simp only [registerPlans, List.map_nil]
  rw [lookup_reconcileNodeTargets, if_pos ⟨hid, List.not_mem_nil⟩]

/-- **Two nodes are safe from each other** exactly if neither node id continues the other with a
dash. -/
theorem nodes_undisturbed_iff {n₁ n₂ : GoString} (hne : n₁ ≠ n₂) :
    (∀ tr reg, Run NodeStep {} tr reg → Undisturbed reg n₁ n₂) ↔ Apart n₁ n₂ := by
  constructor
  · intro h
    -- a target of the second node under the first's name is retired by an empty registration
    have hshared : ∀ id, targetPrefix n₂ <+: id → ¬ targetPrefix n₁ <+: id := by
      intro id h₂ h₁
      obtain ⟨t, ht, hnode⟩ := lookup_applyAdapterPlans_first h₂
      have hrun : Run NodeStep {} [⟨{}, .adapters n₂ [{ id }], applyAdapterPlans {} n₂ [{ id }]⟩]
          (applyAdapterPlans {} n₂ [{ id }]) := .snoc .nil rfl
      have hkept := (h _ _ hrun).targets [] id t ht hnode
      rw [lookup_applyAdapterPlans_nil _ h₁] at hkept
      cases hkept
    refine ⟨fun hpre => ?_, fun hpre => ?_⟩
    · exact hshared (targetPrefix n₂) List.prefix_rfl (hpre.trans (List.prefix_append _ _))
    · exact hshared (targetPrefix n₁) (hpre.trans (List.prefix_append _ _)) List.prefix_rfl
  · intro hapart tr reg hrun
    have hnamed : Named reg :=
      hrun.invariant (I := Named) (fun id t ht => by simp [TargetRegistry.empty] at ht)
        fun s m s' hs hstep => hs.step hstep
    exact hnamed.undisturbed hne hapart

/-- After `b` has registered a target, the messages of `a` leave it alone. -/
theorem nodes_undisturbed_plain : Undisturbed (applyAdapterPlans {} "b" [{ id := "x" }]) "a" "b" :=
  (nodes_undisturbed_iff (by decide)).2 ⟨by decide, by decide⟩
    [⟨{}, .adapters "b" [{ id := "x" }], _⟩] _ (.snoc .nil rfl)

def ownerOf (reg : NodeRegistry) (id : GoString) : Option GoString :=
  (reg.targets.entries.lookup id).map Target.nodeID

def isManaged (reg : NodeRegistry) (id : GoString) : Bool :=
  (reg.managedGPUPerformance.lookup id).isSome

/-- A node `a` without adapters retires the target of the node `a-b`, and its advertisement removes
the accelerator of the node `a-gpu1`. -/
theorem dashed_nodes_disturbed :
    let reg := applyAdapterPlans (setManagedGPUPerformance {} "a-gpu1" [0]) "a-b" [{ id := "x" }]
    (reg.ownerOf "a-b-x" = some "a-b" ∧ (reg.applyAdapterPlans "a" []).ownerOf "a-b-x" = none) ∧
      reg.isManaged (acceleratorID "a-gpu1" 0) = true ∧
      (reg.setManagedGPUPerformance "a" [0]).isManaged (acceleratorID "a-gpu1" 0) = false := by
  decide +kernel

end NodeRegistry

end VramGovernor.Workloads
