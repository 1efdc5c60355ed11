import VramGovernor.Store.ModelResidencies
import VramGovernor.Store.ResidencyTransitions
import VramGovernor.Workloads.NodeTargets

/-!
# Generations of targets across a restart

The generation of a target counts the execution configurations that were published for it. The
counter is memory, the residency rows with its values are durable. The first registration after a
restart continues at the newest row with its fingerprint, or past every row of the target if there
is none.

A generation then names one configuration if each first registration finds its fingerprint in the
newest rows of the target, or in none (`live_generation_names_configuration`). A target that comes
back with an older fingerprint takes the generation of a newer row at its next change
(`generation_taken_twice`).
-/

namespace VramGovernor.Workloads

open GoString GoMap Store NodeRegistry

/-! ## Targets -/

/-- The controls of a target that operators tune. -/
structure TargetPolicy where
  enabled : Bool := true
  (quarantined sharingEnabled guardedExploration : Bool := false)
  vramReserveMB : Int64 := 0
  maxSlowdown : ℚ := 0
  deriving DecidableEq

/-- A target with the fields that its registration reads or replaces after the defaults; `facts` are
all others. -/
structure AdvertisedTarget where
  id : GoString
  capabilityVersion : GoString := []
  contextLimit : ℤ := 0
  slots : ℤ := 1
  activeRuntimeProfile : GoString := []
  capacityVerified : Bool := false
  capacitySource : GoString := []
  residentModels : List GoString := []
  (acceleratorVRAMMB standaloneVRAMMB : Int64 := 0)
  standaloneVRAMSource : GoString := []
  standaloneVRAMVerified : Bool := false
  workloadClass : GoString := []
  predictedSlowdown : ℚ := 0
  policy : TargetPolicy := {}
  facts : GoString := []
  deriving DecidableEq

namespace AdvertisedTarget

/-- A target whose runtime profile has an unresolved outcome offers no capacity. -/
def withheld (target : AdvertisedTarget) : AdvertisedTarget :=
  { target with
    contextLimit := 0
    slots := 0
    activeRuntimeProfile := []
    capacityVerified := false
    capacitySource := "runtime-profile:observation_unavailable" }

/-- What an advertisement leaves out is taken over from the registered target, most of it only
from one of the same capability version. -/
def keepLearned (target existing : AdvertisedTarget) (inFlight : Bool) : AdvertisedTarget :=
  let sameCapability := existing.capabilityVersion = target.capabilityVersion
  let keepEnvelope := target.standaloneVRAMMB ≤ 0 ∧ sameCapability
  { target with
    residentModels :=
      if sameCapability ∧ target.residentModels = [] ∧ inFlight then existing.residentModels
      else target.residentModels
    acceleratorVRAMMB :=
      if target.acceleratorVRAMMB ≤ 0 then existing.acceleratorVRAMMB else target.acceleratorVRAMMB
    standaloneVRAMMB := if keepEnvelope then existing.standaloneVRAMMB else target.standaloneVRAMMB
    standaloneVRAMSource :=
      if keepEnvelope then existing.standaloneVRAMSource else target.standaloneVRAMSource
    standaloneVRAMVerified :=
      if keepEnvelope then existing.standaloneVRAMVerified else target.standaloneVRAMVerified
    workloadClass :=
      if target.workloadClass = [] then existing.workloadClass else target.workloadClass
    predictedSlowdown :=
      if target.predictedSlowdown ≤ 0 ∧ sameCapability then existing.predictedSlowdown
      else target.predictedSlowdown }

end AdvertisedTarget

/-- The target, generation and fingerprint of a residency or a transition. -/
structure DurableRow where
  targetID : GoString
  targetGeneration : UInt64
  executionFingerprint : GoString
  deriving DecidableEq

def DurableRow.ofResidency (r : ModelResidency) : DurableRow :=
  ⟨r.targetID, r.targetGeneration, r.executionFingerprint⟩

def DurableRow.ofTransition (t : ResidencyTransition) : DurableRow :=
  ⟨t.targetID, t.targetGeneration, t.executionFingerprint⟩

/-- The target maps of the manager and the rows of the store. -/
structure GenerationRegistry where
  targets : GoMap AdvertisedTarget := ∅
  targetGenerations : GoMap UInt64 := ∅
  residencies : List ModelResidency := []
  transitions : List ResidencyTransition := []

open GenerationRegistry

namespace GenerationRegistry

def rows (reg : GenerationRegistry) : List DurableRow :=
  reg.residencies.map .ofResidency ++ reg.transitions.map .ofTransition

def generation (reg : GenerationRegistry) (id : GoString) : UInt64 :=
  GoMap.get reg.targetGenerations id

end GenerationRegistry

/-! ## Registration -/

/-- What a registration finds outside the target maps:
* whether one of its checks refuses it, and whether a runtime profile keeps the capacity back at the
  first read (`quarantined`) or at the commit (`blocked`);
* whether the two lists of durable rows can be read;
* whether a transition is under way or a reservation holds the target;
* the VRAM of a confident learned profile, and the stored policy, neither of which is applied while
  a runtime profile switch is unresolved (`switching`);
* the models whose rows the observation writes. -/
structure RegistrationFindings where
  (refused quarantined blocked : Bool := false)
  (residenciesRead transitionsRead : Bool := true)
  inFlight : Bool := false
  learnedVRAMMB : Option Int64 := none
  storedPolicy : Option TargetPolicy := none
  switching : Bool := false
  observed : List GoString := []

/-- The target of which a registration takes the fingerprint. -/
def registrationTarget (target : AdvertisedTarget) (f : RegistrationFindings) :
    AdvertisedTarget := if f.quarantined then target.withheld else target

/-- The target that a registration puts into the map. -/
def publishedTarget (reg : GenerationRegistry) (target : AdvertisedTarget)
    (f : RegistrationFindings) : AdvertisedTarget :=
  let offered := if f.quarantined || f.blocked then target.withheld else target
  match reg.targets.lookup target.id with
  | some existing => offered.keepLearned existing f.inFlight
  | none => offered

@[simp] theorem publishedTarget_id (reg : GenerationRegistry) (target : AdvertisedTarget)
    (f : RegistrationFindings) : (publishedTarget reg target f).id = target.id := by
  unfold publishedTarget
  cases f.quarantined || f.blocked <;> cases reg.targets.lookup target.id <;> rfl

/-- One row of the loops that look for the highest generations. -/
def durableGenerations (id fingerprint : GoString) (r : NodeRegistry.Registration)
    (row : DurableRow) : NodeRegistry.Registration :=
  if row.targetID ≠ id then r
  else
    { r with
      durableGenerationAny := if r.durableGenerationAny < row.targetGeneration then
        row.targetGeneration else r.durableGenerationAny
      durableGeneration := if row.executionFingerprint = fingerprint ∧
          r.durableGeneration < row.targetGeneration then row.targetGeneration
        else r.durableGeneration }

/-- The rows that a registration gets to read. -/
def readRows (reg : GenerationRegistry) (f : RegistrationFindings) : List DurableRow :=
  (if f.residenciesRead then reg.residencies.map .ofResidency else []) ++
    if f.transitionsRead then reg.transitions.map .ofTransition else []

section Registration

variable (targetExecutionFingerprint : AdvertisedTarget → GoString)

variable (reg : GenerationRegistry)

/-- The map has a target of the id and fingerprint. -/
def targetObservationFactsCurrent (target : AdvertisedTarget) : Bool :=
  match reg.targets.lookup target.id with
  | some current => targetExecutionFingerprint current = targetExecutionFingerprint target
  | none => false

def replaceTargetLocked (target : AdvertisedTarget) : Option GenerationRegistry :=
  if targetObservationFactsCurrent targetExecutionFingerprint reg target then
    some { reg with targets := reg.targets.insert target.id target }
  else if reg.generation target.id = NodeRegistry.exhausted then none
  else some { reg with
    targets := reg.targets.insert target.id target
    targetGenerations := reg.targetGenerations.insert target.id (reg.generation target.id + 1) }

/-- `invalidateTargetAtExhaustedGenerationLocked` at an exhausted generation. -/
def invalidateTarget (id : GoString) : GenerationRegistry :=
  if id = [] then reg else { reg with targets := reg.targets.erase id }

/-- The section of `RegisterTarget` under its locks. It also tells whether the target was
published. -/
def publishRegistration (target : AdvertisedTarget)
    (f : RegistrationFindings) : GenerationRegistry × Bool :=
  let fingerprint := targetExecutionFingerprint (registrationTarget target f)
  let published := publishedTarget reg target f
  if (reg.targets.lookup target.id).isSome then
    if targetObservationFactsCurrent targetExecutionFingerprint reg published = false ∧
        reg.generation target.id = NodeRegistry.exhausted then
      (invalidateTarget reg target.id, false)
    else
      match replaceTargetLocked targetExecutionFingerprint reg published with
      | some reg' => (reg', true)
      | none => (reg, false)
  else
    let seed := NodeRegistry.publishGeneration (reg.generation target.id)
      ((readRows reg f).foldl (durableGenerations target.id fingerprint) {})
    if seed = NodeRegistry.exhausted then (reg, false)
    else
      let seeded := { reg with targetGenerations := reg.targetGenerations.insert target.id seed }
      match replaceTargetLocked targetExecutionFingerprint seeded published with
      | some reg' => (reg', true)
      | none => (seeded, false)

/-- A learned envelope is applied over a smaller advertisement. -/
def learnCapacity (target : AdvertisedTarget) (f : RegistrationFindings) : GenerationRegistry :=
  match f.learnedVRAMMB, reg.targets.lookup target.id with
  | some p95VRAMMB, some current =>
    if ¬target.standaloneVRAMVerified ∧ target.standaloneVRAMMB < p95VRAMMB ∧ ¬f.switching ∧
        targetExecutionFingerprint target = targetExecutionFingerprint current ∧
        current.standaloneVRAMMB < p95VRAMMB then
      (replaceTargetLocked targetExecutionFingerprint reg
        { current with standaloneVRAMMB := p95VRAMMB }).getD reg
    else reg
  | _, _ => reg

/-- The rows with that of the model replaced, or with a first one for it. -/
def writeResidency (residencies : List ModelResidency) (targetID model : GoString)
    (generation : UInt64) (fingerprint : GoString) : List ModelResidency :=
  match residencies.find? fun r => r.targetID = targetID && r.model = model with
  | none => residencies ++ [⟨targetID, model, 1, generation, fingerprint⟩]
  | some residency =>
    let row := { residency with
      targetGeneration := generation
      executionFingerprint := fingerprint }
    if residencyGenerationCompatible residency row then
      residencies.map fun r => if r.targetID = targetID && r.model = model then
        { row with revision := residency.revision + 1 } else r
    else residencies

/-- One model of `observeTargetResidencyLocked`. -/
def observeModel (target : AdvertisedTarget) (generation : UInt64) (reg : GenerationRegistry)
    (model : GoString) : GenerationRegistry :=
  if targetObservationFactsCurrent targetExecutionFingerprint reg target then
    { reg with
      residencies := writeResidency reg.residencies target.id model generation
        (targetExecutionFingerprint target) }
  else reg

def observeTargetResidencyLocked (reg : GenerationRegistry) (target : AdvertisedTarget)
    (models : List GoString) : GenerationRegistry :=
  models.foldl (observeModel targetExecutionFingerprint target (reg.generation target.id)) reg

def maxMiB : Int64 := Int64.ofInt (2 ^ 43 - 1)

variable (reg : GenerationRegistry)

/-- No policy is accepted if there is none; a registration only logs the reason. -/
def updateTargetPolicy (id : GoString) (policy : TargetPolicy)
    (switching : Bool) : Option GenerationRegistry := do
  guard ¬(policy.vramReserveMB < 0 ∨ maxMiB < policy.vramReserveMB)
  guard ¬(policy.maxSlowdown < 0 ∨ 10 < policy.maxSlowdown ∨
    (policy.sharingEnabled ∧ policy.maxSlowdown < 1))
  let target ← reg.targets.lookup id
  guard ¬switching
  guard ¬(policy.sharingEnabled ∧ target.acceleratorVRAMMB = 0)
  guard ¬(policy.guardedExploration ∧ ¬policy.sharingEnabled)
  replaceTargetLocked targetExecutionFingerprint reg { target with policy := policy }

/-- The stored policy of a target is applied if it is valid. -/
def applyStoredPolicy (id : GoString) (f : RegistrationFindings) : GenerationRegistry :=
  match f.storedPolicy with
  | some policy =>
    (updateTargetPolicy targetExecutionFingerprint reg id policy f.switching).getD reg
  | none => reg

def registerTarget (target : AdvertisedTarget) (f : RegistrationFindings) : GenerationRegistry :=
  if f.refused then reg
  else
    let published := publishedTarget reg target f
    match publishRegistration targetExecutionFingerprint reg target f with
    | (reg', false) => reg'
    | (reg', true) =>
      let learned := learnCapacity targetExecutionFingerprint reg' published f
      let observed :=
        observeTargetResidencyLocked targetExecutionFingerprint learned published f.observed
      applyStoredPolicy targetExecutionFingerprint observed target.id f

def RegisterStep (call : AdvertisedTarget × RegistrationFindings)
    (reg' : GenerationRegistry) : Prop :=
  reg' = registerTarget targetExecutionFingerprint reg call.1 call.2

end Registration

/-- The manager after a restart: only the rows are left. -/
def GenerationRegistry.restarted (residencies : List ModelResidency)
    (transitions : List ResidencyTransition) : GenerationRegistry where
  residencies := residencies
  transitions := transitions

/-! ## One configuration for a generation -/

section Configurations

variable (fingerprint : AdvertisedTarget → GoString) {r : NodeRegistry.Registration}

/-- The rows of a target are not above the generation, and those at it have the target's
fingerprint. -/
def Fits (rows : List DurableRow) (target : AdvertisedTarget) (generation : UInt64) : Prop :=
  ∀ row ∈ rows, row.targetID = target.id → row.targetGeneration ≤ generation ∧
    (row.targetGeneration = generation →
      row.executionFingerprint = fingerprint target)

/-- Every registered target is kept under its id and fits the rows at its live generation. -/
structure OneConfiguration (reg : GenerationRegistry) : Prop where
  keyed : ∀ id target, reg.targets.lookup id = some target → target.id = id
  fits : ∀ id target, reg.targets.lookup id = some target →
    Fits fingerprint reg.rows target (reg.generation id)

/-- The first registration of a target reads all rows and, if one has its fingerprint, finds it in a
newest one, whose generation no row has with another fingerprint than the published one. -/
structure ContinuesNewest (reg : GenerationRegistry) (target : AdvertisedTarget)
    (f : RegistrationFindings) : Prop where
  residenciesRead : f.residenciesRead = true
  transitionsRead : f.transitionsRead = true
  newest : (∃ row ∈ reg.rows, row.targetID = target.id ∧ 0 < row.targetGeneration ∧
      row.executionFingerprint = fingerprint (registrationTarget target f)) →
    ∃ row ∈ reg.rows, row.targetID = target.id ∧
      row.executionFingerprint = fingerprint (registrationTarget target f) ∧
      Fits fingerprint reg.rows (publishedTarget reg target f) row.targetGeneration

variable {fingerprint} {reg reg' : GenerationRegistry}
  {target previous : AdvertisedTarget} {f : RegistrationFindings}

/-- A target and its generation are replaced and nothing else. -/
theorem OneConfiguration.insert (h : OneConfiguration fingerprint reg)
    (htargets : reg'.targets = reg.targets.insert target.id target) (hrows : reg'.rows = reg.rows)
    (hother : ∀ id, id ≠ target.id → reg'.generation id = reg.generation id)
    (hfits : Fits fingerprint reg.rows target (reg'.generation target.id)) :
    OneConfiguration fingerprint reg' := by
  constructor
  · intro id t ht
    rcases of_lookup_insert (htargets ▸ ht) with ⟨rfl, rfl⟩ | ⟨-, ht⟩
    · rfl
    · exact h.keyed id t ht
  · intro id t ht
    rw [hrows]
    rcases of_lookup_insert (htargets ▸ ht) with ⟨rfl, rfl⟩ | ⟨hid, ht⟩
    · exact hfits
    · rw [hother id hid]
      exact h.fits id t ht

variable {rows : List DurableRow} {generation : UInt64}

/-- A new generation lies above all rows that lay at or below the old one. -/
theorem Fits.succ (h : ∀ row ∈ rows, row.targetID = target.id → row.targetGeneration ≤ generation)
    (hmax : generation ≠ exhausted) :
    Fits fingerprint rows target (generation + 1) := by
  intro row hrow hid
  have hle := UInt64.le_iff_toNat_le.1 (h row hrow hid)
  have hlt : (generation + 1).toNat = generation.toNat + 1 := by
    have hne : generation.toNat ≠ 2 ^ 64 - 1 := fun he => hmax (UInt64.toNat_inj.1 he)
    have hbound := UInt64.toNat_lt generation
    rw [UInt64.toNat_add]
    exact Nat.mod_eq_of_lt (by simp only [UInt64.reduceToNat]; omega)
  refine ⟨UInt64.le_iff_toNat_le.2 (by omega), fun heq => ?_⟩
  rw [heq] at hle
  omega

/-- **A registered target is replaced** at its generation if its fingerprint stays, else at the next
one. -/
theorem OneConfiguration.replace (h : OneConfiguration fingerprint reg)
    (hprev : reg.targets.lookup target.id = some previous)
    (hreplace : replaceTargetLocked fingerprint reg target = some reg') :
    OneConfiguration fingerprint reg' := by
  have hfits := h.fits _ _ hprev
  have hid := h.keyed _ _ hprev
  unfold replaceTargetLocked at hreplace
  split_ifs at hreplace with hsame hmax
  · obtain rfl := Option.some.inj hreplace
    refine h.insert rfl rfl (fun _ _ => rfl) fun row hrow htarget => ?_
    obtain ⟨hle, heq⟩ := hfits row hrow (htarget.trans hid.symm)
    simp only [targetObservationFactsCurrent, hprev, decide_eq_true_eq] at hsame
    exact ⟨hle, fun hg => (heq hg).trans hsame⟩
  · obtain rfl := Option.some.inj hreplace
    refine h.insert rfl rfl (fun id hne => get_insert_of_ne _ _ hne) ?_
    rw [generation, get_insert_self]
    exact Fits.succ (fun row hrow htarget => (hfits row hrow (htarget.trans hid.symm)).1) hmax

/-! ### The first registration of a target -/

/-- The rows of the id are counted in `any`, those that also have the fingerprint in `exact`. -/
structure Scanned (id fingerprint : GoString) (rows : List DurableRow)
    (r : NodeRegistry.Registration) : Prop where
  any : ∀ row ∈ rows, row.targetID = id → row.targetGeneration ≤ r.durableGenerationAny
  matching : ∀ row ∈ rows, row.targetID = id → row.executionFingerprint = fingerprint →
    row.targetGeneration ≤ r.durableGeneration
  attained : 0 < r.durableGeneration → ∃ row ∈ rows, row.targetID = id ∧
    row.executionFingerprint = fingerprint ∧ row.targetGeneration = r.durableGeneration

theorem Scanned.step {id fingerprint : GoString}
    (h : Scanned id fingerprint rows r) (row : DurableRow) :
    Scanned id fingerprint (rows ++ [row]) (durableGenerations id fingerprint r row) := by
  obtain ⟨hany, hmatching, hattained⟩ := h
  unfold durableGenerations
  constructor
  · intro row' hrow' hid'
    rcases List.mem_append.1 hrow' with hrow' | hrow'
    · grind
    · grind
  · intro row' hrow' hid' hfp'
    rcases List.mem_append.1 hrow' with hrow' | hrow'
    · grind
    · grind
  · intro hpos
    -- Either the row is the new maximum or an earlier one still is.
    by_cases hnew : row.targetID = id ∧ row.executionFingerprint = fingerprint ∧
        r.durableGeneration < row.targetGeneration
    · exact ⟨row, by simp, hnew.1, hnew.2.1, by simp [hnew]⟩
    · obtain ⟨row', hrow', hrest⟩ := hattained (by grind)
      exact ⟨row', by simp [hrow'], by grind⟩

theorem scanned_foldl (id fingerprint : GoString) (rows : List DurableRow) :
    Scanned id fingerprint rows (rows.foldl (durableGenerations id fingerprint) {}) := by
  -- Rows are added at the end, as the loop reads them.
  induction rows using List.reverseRecOn with
  | nil => exact ⟨by simp, by simp, by simp⟩
  | append_singleton rows row ih =>
    rw [List.foldl_append]
    exact ih.step row

theorem readRows_of_read (hres : f.residenciesRead = true) (htra : f.transitionsRead = true) :
    readRows reg f = reg.rows := by simp [readRows, rows, hres, htra]

theorem Fits.mono {generation' : UInt64} (h : Fits fingerprint rows target generation)
    (hle : generation ≤ generation') : Fits fingerprint rows target generation' := by
  intro row hrow hid
  obtain ⟨hrow_le, hfp⟩ := h row hrow hid
  refine ⟨UInt64.le_trans hrow_le hle, fun heq => hfp ?_⟩
  exact UInt64.le_antisymm hrow_le (heq ▸ hle)

theorem uint64_le_max_right (a b : UInt64) : b ≤ max a b := by
  rw [show max a b = if a ≤ b then b else a from rfl]
  grind

/-- Without a row of the fingerprint the seed is not below any row of the target. -/
theorem Scanned.le_publishGeneration {id fingerprint : GoString}
    (h : Scanned id fingerprint rows r) (current : UInt64) (hzero : ¬0 < r.durableGeneration)
    {row : DurableRow} (hrow : row ∈ rows) (hid : row.targetID = id) :
    row.targetGeneration ≤ publishGeneration current r := by
  have hany := h.any row hrow hid
  rw [publishGeneration, if_neg hzero]
  split_ifs with hpos
  · exact UInt64.le_trans hany (uint64_le_max_right _ _)
  · grind

/-- With one the next generation is not below the highest of them. -/
theorem le_publishGeneration_succ (current : UInt64) (hpos : 0 < r.durableGeneration)
    (hmax : publishGeneration current r ≠ exhausted) :
    r.durableGeneration ≤ publishGeneration current r + 1 := by
  have hle : r.durableGeneration - 1 ≤ publishGeneration current r := by
    rw [publishGeneration, if_pos hpos]
    exact uint64_le_max_right _ _
  generalize publishGeneration current r = seed at hle hmax ⊢
  have hne : seed.toNat ≠ 2 ^ 64 - 1 := fun he => hmax (UInt64.toNat_inj.1 he)
  have hbound := UInt64.toNat_lt seed
  rw [UInt64.le_iff_toNat_le, UInt64.toNat_add]
  rw [UInt64.le_iff_toNat_le, UInt64.toNat_sub_of_le _ _ (by grind)] at hle
  simp only [UInt64.reduceToNat] at hle ⊢
  omega

/-- **The first registration of a target fits its rows.** -/
theorem ContinuesNewest.fits (h : ContinuesNewest fingerprint reg target f) (current : UInt64)
    {r : NodeRegistry.Registration}
    (hscan : Scanned target.id (fingerprint (registrationTarget target f)) reg.rows r)
    (hmax : publishGeneration current r ≠ exhausted) :
    Fits fingerprint reg.rows (publishedTarget reg target f)
      (publishGeneration current r + 1) := by
  by_cases hpos : 0 < r.durableGeneration
  · obtain ⟨top, htop, htopid, htopfp, htopgen⟩ := hscan.attained hpos
    obtain ⟨row, hrow, hid, hfp, hfits⟩ := h.newest ⟨top, htop, htopid, htopgen ▸ hpos, htopfp⟩
    exact hfits.mono (UInt64.le_trans (hscan.matching row hrow hid hfp)
      (le_publishGeneration_succ current hpos hmax))
  · refine Fits.succ (fun row hrow hid => ?_) hmax
    rw [publishedTarget_id] at hid
    exact hscan.le_publishGeneration current hpos hrow hid

/-! ### The stages of a registration -/

section

variable (h : OneConfiguration fingerprint reg)
include h

theorem OneConfiguration.invalidate
    (id : GoString) : OneConfiguration fingerprint (invalidateTarget reg id) := by
  unfold invalidateTarget
  split_ifs with hid
  · exact h
  · have hsub : ∀ id' t, (reg.targets.erase id).lookup id' = some t →
        reg.targets.lookup id' = some t := by
      intro id' t ht
      rw [lookup_erase_of] at ht
      split_ifs at ht
      exact ht
    exact ⟨fun id' t ht => h.keyed id' t (hsub id' t ht),
      fun id' t ht => h.fits id' t (hsub id' t ht)⟩

/-- Seeding the generation of a target that is not registered changes nothing for the others. -/
theorem OneConfiguration.publish_first {published : AdvertisedTarget} {seed : UInt64}
    (hnone : reg.targets.lookup published.id = none) (hmax : seed ≠ exhausted)
    (hfits : Fits fingerprint reg.rows published (seed + 1)) :
    ∃ reg', replaceTargetLocked fingerprint
        { reg with targetGenerations := reg.targetGenerations.insert published.id seed }
        published = some reg' ∧ OneConfiguration fingerprint reg' := by
  rw [replaceTargetLocked, if_neg (by simp [targetObservationFactsCurrent, hnone]),
    if_neg (by rwa [generation, get_insert_self])]
  refine ⟨_, rfl, h.insert rfl rfl (fun id hid => ?_) ?_⟩
  · rw [generation, get_insert_of_ne _ _ hid,
      get_insert_of_ne _ _ hid, generation]
  · simpa only [generation, get_insert_self] using hfits

theorem OneConfiguration.publishRegistration
    (hfirst : reg.targets.lookup target.id = none → ContinuesNewest fingerprint reg target f) :
    OneConfiguration fingerprint (publishRegistration fingerprint reg target f).1 := by
  unfold Workloads.publishRegistration
  dsimp only
  cases hprev : reg.targets.lookup target.id with
  | some previous =>
    rw [if_pos (by simp)]
    split_ifs with hexhausted
    · exact h.invalidate _
    · split
      · next hreplace => exact h.replace (by rwa [publishedTarget_id]) hreplace
      · exact h
  | none =>
    have hnewest := hfirst hprev
    rw [if_neg (by simp), readRows_of_read hnewest.residenciesRead hnewest.transitionsRead]
    split_ifs with hexhausted
    · exact h
    · obtain ⟨reg', hreplace, hreg'⟩ := h.publish_first (by rwa [publishedTarget_id]) hexhausted
        (hnewest.fits (reg.generation target.id) (scanned_foldl _ _ _) hexhausted)
      rw [publishedTarget_id] at hreplace
      rw [hreplace]
      exact hreg'

/-- A replacement that is left out at the largest generation changes nothing. -/
theorem OneConfiguration.replace_getD (hprev : reg.targets.lookup target.id = some previous) :
    OneConfiguration fingerprint ((replaceTargetLocked fingerprint reg target).getD reg) := by
  cases hreplace : replaceTargetLocked fingerprint reg target with
  | none => exact h
  | some reg' => exact h.replace hprev hreplace

theorem OneConfiguration.learnCapacity :
    OneConfiguration fingerprint (learnCapacity fingerprint reg target f) := by
  unfold Workloads.learnCapacity
  split
  · next current _ hcurrent =>
    have hkeyed : reg.targets.lookup current.id = some current := by
      rwa [h.keyed _ _ hcurrent]
    split_ifs
    · exact h.replace_getD hkeyed
    · exact h
  · exact h

omit h in
/-- The rows after an observation are earlier ones or have what was observed. -/
theorem mem_writeResidency {residencies : List ModelResidency}
    {targetID model fingerprint : GoString} {row : ModelResidency}
    (h : row ∈ writeResidency residencies targetID model generation fingerprint) :
    row ∈ residencies ∨ DurableRow.ofResidency row = ⟨targetID, generation, fingerprint⟩ := by
  unfold writeResidency at h
  split at h
  · rcases of_mem_snoc h with h | rfl
    · exact .inl h
    · exact .inr rfl
  · next residency hfind =>
    have hfound := List.find?_some hfind
    dsimp only at h
    split_ifs at h
    · obtain ⟨r, hr, rfl⟩ := List.mem_map.1 h
      split_ifs
      · exact .inr (by simp_all [DurableRow.ofResidency])
      · exact .inl hr
    · exact .inl h

/-- A row of the live generation and fingerprint may be added. -/
theorem OneConfiguration.observeModel (model : GoString) :
    OneConfiguration fingerprint
      (observeModel fingerprint target (reg.generation target.id) reg model) := by
  unfold Workloads.observeModel
  split_ifs with hcurrent
  · refine ⟨h.keyed, fun id t ht row hrow hid => ?_⟩
    simp only [rows, List.mem_append, List.mem_map] at hrow
    rcases hrow with ⟨r, hr, rfl⟩ | ⟨r, hr, rfl⟩
    · rcases mem_writeResidency hr with hold | hnew
      · exact h.fits id t ht _ (by simp [rows]; exact .inl ⟨r, hold, rfl⟩) hid
      · rw [hnew] at hid ⊢
        have hkey : target.id = id := hid.trans (h.keyed id t ht)
        subst hkey
        simp only [targetObservationFactsCurrent, ht, decide_eq_true_eq] at hcurrent
        exact ⟨UInt64.le_refl _, fun _ => hcurrent.symm⟩
    · exact h.fits id t ht _ (by simp [rows]; exact .inr ⟨r, hr, rfl⟩) hid
  · exact h

omit h in
theorem observeModel_generation (generation : UInt64) (model id : GoString) :
    (observeModel fingerprint target generation reg model).generation id = reg.generation id := by
  unfold observeModel
  split_ifs <;> rfl

theorem OneConfiguration.observeTarget (models : List GoString) :
    OneConfiguration fingerprint (observeTargetResidencyLocked fingerprint reg target models) := by
  unfold observeTargetResidencyLocked
  -- No write of the loop moves the generation that was read before it.
  induction models generalizing reg with
  | nil => exact h
  | cons model models ih =>
    have hobserved : OneConfiguration fingerprint
        (Workloads.observeModel fingerprint target (reg.generation target.id) reg
          model) := h.observeModel model
    have hnext := ih hobserved
    rw [observeModel_generation] at hnext
    exact hnext

theorem OneConfiguration.applyStoredPolicy (id : GoString) :
    OneConfiguration fingerprint (applyStoredPolicy fingerprint reg id f) := by
  unfold Workloads.applyStoredPolicy
  cases f.storedPolicy with
  | none => exact h
  | some policy =>
    dsimp only
    cases hupdate : updateTargetPolicy fingerprint reg id policy f.switching with
    | none => exact h
    | some reg' =>
      simp only [updateTargetPolicy, Option.bind_eq_bind, Option.bind_eq_some_iff] at hupdate
      obtain ⟨_, _, _, _, current, hcurrent, _, _, _, _, _, _, hreplace⟩ := hupdate
      have hkeyed : reg.targets.lookup current.id = some current := by
        rwa [h.keyed _ _ hcurrent]
      exact h.replace (by exact hkeyed) hreplace

/-- **A registration keeps one configuration for a generation**, if a first one continues the newest
rows. -/
theorem OneConfiguration.registerTarget
    (hfirst : f.refused = false → reg.targets.lookup target.id = none →
      ContinuesNewest fingerprint reg target f) :
    OneConfiguration fingerprint (registerTarget fingerprint reg target f) := by
  unfold Workloads.registerTarget
  split_ifs with hrefused
  · exact h
  · have hpublish := h.publishRegistration (hfirst (by simpa using hrefused))
    dsimp only
    split
    · next hresult => simpa only [hresult] using hpublish
    · next hresult =>
      rw [hresult] at hpublish
      exact (hpublish.learnCapacity.observeTarget _).applyStoredPolicy _

end

end Configurations

/-- **A generation names one configuration**, if every first registration of a target after a
restart continues its newest rows. -/
theorem live_generation_names_configuration
    (targetExecutionFingerprint : AdvertisedTarget → GoString)
    {residencies : List ModelResidency} {transitions : List ResidencyTransition}
    {tr : List (Transition GenerationRegistry (AdvertisedTarget × RegistrationFindings))}
    {reg : GenerationRegistry}
    (hrun : Run (RegisterStep targetExecutionFingerprint) (.restarted residencies transitions)
      tr reg)
    (hfirst : ∀ t ∈ tr, t.label.2.refused = false → t.pre.targets.lookup t.label.1.id = none →
      ContinuesNewest targetExecutionFingerprint t.pre t.label.1 t.label.2)
    {id : GoString} {target : AdvertisedTarget} (htarget : reg.targets.lookup id = some target)
    {row : DurableRow} (hrow : row ∈ reg.rows) (hid : row.targetID = id)
    (hgeneration : row.targetGeneration = reg.generation id) :
    row.executionFingerprint = targetExecutionFingerprint target := by
  have hinv : OneConfiguration targetExecutionFingerprint reg := by
    refine hrun.invariant_of hfirst ⟨fun _ _ => nofun, fun _ _ => nofun⟩ ?_
    rintro reg ⟨target, f⟩ _ h rfl hcond
    exact h.registerTarget hcond
  exact (hinv.fits id target htarget row hrow (hid.trans (hinv.keyed _ _ htarget).symm)).2
    hgeneration

/-- A target whose fingerprint is its text, to run registrations on. -/
def plainTarget (facts : GoString) : AdvertisedTarget := { id := "node-llm", facts := facts }

/-- The target comes back as its newest row has it and keeps that row's generation. -/
theorem newest_row_continued :
    let before := GenerationRegistry.restarted
      [⟨"node-llm", "llama", 1, 3, "old"⟩, ⟨"node-llm", "qwen", 1, 4, "new"⟩] []
    let reg := registerTarget AdvertisedTarget.facts before (plainTarget "new") {}
    reg.generation "node-llm" = 4 ∧ ("new" : GoString) = (plainTarget "new").facts := by
  intro before reg
  have hlive : reg.generation "node-llm" = 4 := by decide +kernel
  refine ⟨hlive, ?_⟩
  have hrun : Run (RegisterStep AdvertisedTarget.facts) before
      [⟨before, (plainTarget "new", {}), reg⟩] reg := Run.nil.snoc rfl
  have htarget : reg.targets.lookup (ofString "node-llm") = some (plainTarget "new") := by
    decide +kernel
  have hrow : (⟨"node-llm", 4, "new"⟩ : DurableRow) ∈ reg.rows := by decide +kernel
  refine live_generation_names_configuration AdvertisedTarget.facts hrun ?_ htarget hrow rfl
    hlive.symm
  · simp only [List.mem_singleton, forall_eq]
    intro _ _
    exact ⟨rfl, rfl, fun _ => ⟨⟨"node-llm", 4, "new"⟩, by decide, rfl, rfl, by unfold Fits; decide⟩⟩

/-- **A generation is taken twice.** A target with two published configurations comes back as in the
first, and its next change gets the generation of the second. -/
theorem generation_taken_twice :
    let first := registerTarget AdvertisedTarget.facts
      (registerTarget AdvertisedTarget.facts {} (plainTarget "a") { observed := ["llama"] })
      (plainTarget "b") { observed := ["qwen"] }
    let reg := registerTarget AdvertisedTarget.facts
      (registerTarget AdvertisedTarget.facts (.restarted first.residencies []) (plainTarget "a") {})
      (plainTarget "c") {}
    first.residencies = [⟨"node-llm", "llama", 1, 1, "a"⟩, ⟨"node-llm", "qwen", 1, 2, "b"⟩] ∧
      reg.generation "node-llm" = 2 ∧
      reg.targets.lookup (ofString "node-llm") = some (plainTarget "c") ∧
      (⟨"node-llm", 2, "b"⟩ : DurableRow) ∈ reg.rows := by
  decide +kernel

end VramGovernor.Workloads
