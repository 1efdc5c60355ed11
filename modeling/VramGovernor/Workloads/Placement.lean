import Mathlib.Data.Rat.Defs
import Mathlib.Algebra.Order.Ring.Rat
import Mathlib.Data.List.Destutter
import Mathlib.Data.List.Sort
import VramGovernor.Domain
import VramGovernor.Foundations.GoMap

/-!
# Placements

The tests that `reserveTarget` makes while it holds the placement lock. The manager counts the
placements of each target and keeps, for each target in use, the durable lease it runs under.
Targets of one accelerator may run under one lease if `canCoScheduleLocked` allows it. VRAM is
counted in `int64`, slowdowns and confidences are rational.
-/

namespace VramGovernor.Workloads

open GoString GoMap

/-- How a running workload may be disturbed. -/
inductive DisruptionPolicy
  | locked | slowdown | yieldable | checkpointable | cancelable
  deriving DecidableEq, Repr

/-- The measured concurrency of one model on a target. -/
structure ModelPool where
  (poolTokens slots maxRequestTokens : ℤ := 0)
  deriving DecidableEq

/-- A runtime target, as far as placement reads it. -/
structure Target where
  id : GoString
  acceleratorID : GoString := []
  slots : ℤ := 0
  (adapter workloadClass capabilityVersion : GoString := [])
  cloud : Bool := false
  modelPools : GoMap ModelPool := ∅
  (standaloneVRAMMB acceleratorVRAMMB vramReserveMB : Int64 := 0)
  (sharingEnabled guardedExploration : Bool := false)
  (predictedSlowdown maxSlowdown : ℚ := 0)
  safetyCritical : Bool := false
  /-- The node that registered the target; a configured target has none. -/
  nodeID : GoString := []
  enabled : Bool := true
  /-- `targetExecutionFingerprint` of the target. -/
  executionFingerprint : GoString := []

/-- A request and its requirements; the fingerprint is the digest that `workloadProfileFingerprint`
takes of the payload. -/
structure Request where
  workloadID : GoString
  disruption : DisruptionPolicy := .locked
  (fingerprint model : GoString := [])
  contextTokens : ℤ := 0

/-- A learned profile: the VRAM and the slowdown measured for a combination of workloads. -/
structure InterferenceProfile where
  p95VRAMMB : Int64
  (predictedSlowdown confidence : ℚ)

structure ActivePlacement where
  (workloadID targetID acceleratorID : GoString)
  (workloadClass runtimeVersion fingerprint : GoString := [])
  disruption : DisruptionPolicy := .locked
  (vramMB capacityVRAMMB reserveVRAMMB : Int64 := 0)
  (sharingEnabled guardedExploration : Bool := false)
  (predictedSlowdown maxSlowdown : ℚ := 0)
  (safetyCritical sharedObserved : Bool := false)
  model : GoString := []
  contextTokens : ℤ := 0

/-- The accelerator that a target is leased under; one without an accelerator has its own. -/
def leaseID (target : Target) : GoString :=
  if target.acceleratorID = [] then "virtual/" ++ target.id else target.acceleratorID

def targetWorkloadClass (target : Target) : GoString :=
  if target.workloadClass ≠ [] then target.workloadClass else target.adapter

def modelPool (target : Target) (model : GoString) : Option ModelPool :=
  (target.modelPools.lookup model).filter fun pool =>
    model ≠ [] && 0 < pool.poolTokens && 0 < pool.slots && 0 < pool.maxRequestTokens

/-! ## Profiles -/

/-- The profile at the exact key, or at the general one, that is confident enough. -/
def confidentProfile (profiles : GoMap InterferenceProfile) (exact general : GoString) :
    Option InterferenceProfile :=
  let confident (p : InterferenceProfile) : Bool := (1 / 2 : ℚ) ≤ p.confidence
  ((profiles.lookup exact).filter confident).or ((profiles.lookup general).filter confident)

def standaloneProfileKey (target : Target) : GoString :=
  leaseID target ++ "|" ++ target.capabilityVersion ++ "|" ++ targetWorkloadClass target

/-- The VRAM of a placement: what the target advertises, or what was learned for the request. -/
def standaloneVRAMMB (profiles : GoMap InterferenceProfile) (target : Target) (req : Request) :
    Int64 :=
  if 0 < target.standaloneVRAMMB then target.standaloneVRAMMB
  else
    let key := standaloneProfileKey target
    match confidentProfile profiles (key ++ "|fp:" ++ req.fingerprint) key with
    | some profile => profile.p95VRAMMB
    | none => target.standaloneVRAMMB

def sortStrings (values : List GoString) : List GoString := values.insertionSort (· ≤ ·)

/-- The placements on the newcomer's accelerator, in the order of a scan. -/
def victims (newcomer : ActivePlacement) (order : List (Entry ActivePlacement)) :
    List ActivePlacement :=
  (order.map (·.2)).filter fun victim => victim.acceleratorID = newcomer.acceleratorID

/-- The name of a combination of placements under which its interference is learned. -/
structure SharingProfile where
  (key exactKey : GoString := [])
  workloadClasses : List GoString := []
  runtimeVersion : GoString := []
  deriving DecidableEq

/-- `order` is the one in which the placements are visited. -/
def sharingProfileKeyLocked (newcomer : ActivePlacement)
    (order : List (Entry ActivePlacement)) : SharingProfile :=
  let placements := newcomer :: victims newcomer order
  let classes := sortStrings (placements.map (·.workloadClass))
  let versions := (sortStrings (placements.map (·.runtimeVersion))).destutter (· ≠ ·)
  let runtimeVersion := List.intercalate "+" versions
  { key := newcomer.acceleratorID ++ "|" ++ runtimeVersion ++ "|" ++ List.intercalate "+" classes
    workloadClasses := classes, runtimeVersion }

def sharingExactProfileKeyLocked (newcomer : ActivePlacement)
    (order : List (Entry ActivePlacement)) (classKey : GoString) : GoString :=
  classKey ++ "|fp:" ++ List.intercalate "+"
    (sortStrings ((newcomer :: victims newcomer order).map (·.fingerprint)))

def sharingProfile (newcomer : ActivePlacement) (order : List (Entry ActivePlacement)) :
    SharingProfile :=
  let profile := sharingProfileKeyLocked newcomer order
  { profile with exactKey := sharingExactProfileKeyLocked newcomer order profile.key }

/-! ## Sharing -/

/-- What `canCoScheduleLocked` returns: the combined envelope, and why sharing is refused if it
is. -/
structure CoSchedule where
  (predictedVRAMMB reserveVRAMMB capacityVRAMMB : Int64 := 0)
  maxSlowdown : ℚ := 0
  exploration : Bool := false
  refusal : Option GoString := none

/-- The accumulators of the loop over the placements. -/
structure Envelope where
  combined : CoSchedule
  profileKnown : Bool

/-- The placement may be slowed down by others. -/
def allowsSharing (p : ActivePlacement) : Bool :=
  p.sharingEnabled && !p.safetyCritical && p.disruption = .slowdown

/-- The accumulators with one more placement. -/
def Envelope.add (e : Envelope) (victim : ActivePlacement) : Envelope :=
  let c := e.combined
  { combined :=
      { c with
        predictedVRAMMB := c.predictedVRAMMB + victim.vramMB
        capacityVRAMMB :=
          if 0 < victim.capacityVRAMMB &&
              (c.capacityVRAMMB = 0 || victim.capacityVRAMMB < c.capacityVRAMMB) then
            victim.capacityVRAMMB else c.capacityVRAMMB
        reserveVRAMMB :=
          if c.reserveVRAMMB < victim.reserveVRAMMB then victim.reserveVRAMMB else c.reserveVRAMMB
        maxSlowdown :=
          if 0 < victim.maxSlowdown && victim.maxSlowdown < c.maxSlowdown then victim.maxSlowdown
          else c.maxSlowdown }
    profileKnown := e.profileKnown && 0 < victim.predictedSlowdown }

/-- One turn of the loop over the placements of the accelerator; a refusal ends it. -/
def addVictim (e : Envelope) (victim : ActivePlacement) : Except CoSchedule Envelope :=
  if !allowsSharing victim || victim.vramMB ≤ 0 then
    .error { refusal := some "active victim disruption policy forbids sharing" }
  else if (e.add victim).combined.maxSlowdown < victim.predictedSlowdown then
    .error { (e.add victim).combined with
      refusal := some "predicted victim slowdown exceeds policy" }
  else .ok (e.add victim)

/-- The tests after the loop: the reserve, the learned profile and guarded exploration. -/
def closeEnvelope (newcomer : ActivePlacement) (learned : Option InterferenceProfile)
    (e : Envelope) : CoSchedule :=
  let c := { e.combined with
    reserveVRAMMB := if e.combined.reserveVRAMMB ≤ 0 then 512 else e.combined.reserveVRAMMB }
  if c.capacityVRAMMB < c.predictedVRAMMB + c.reserveVRAMMB then
    { c with refusal := some "conservative p95 VRAM composition exceeds reserve" }
  else if learned.any fun p => c.capacityVRAMMB < p.p95VRAMMB + c.reserveVRAMMB then
    { c with
      predictedVRAMMB := (learned.map (·.p95VRAMMB)).getD c.predictedVRAMMB
      refusal := some "learned p95 VRAM profile exceeds reserve" }
  else if learned.any fun p => c.maxSlowdown < p.predictedSlowdown then
    { c with refusal := some "learned slowdown profile exceeds policy" }
  else if e.profileKnown || learned.isSome then c
  else if newcomer.guardedExploration &&
      c.predictedVRAMMB + 2 * c.reserveVRAMMB ≤ c.capacityVRAMMB then
    { c with exploration := true }
  else { c with refusal := some "sharing combination lacks a measured interference profile" }

/-- `order` is the one in which the placements are visited. -/
def canCoScheduleLocked (profiles : GoMap InterferenceProfile) (newcomer : ActivePlacement)
    (order : List (Entry ActivePlacement)) : CoSchedule :=
  let start : CoSchedule :=
    { predictedVRAMMB := newcomer.vramMB, reserveVRAMMB := newcomer.reserveVRAMMB
      capacityVRAMMB := newcomer.capacityVRAMMB, maxSlowdown := newcomer.maxSlowdown }
  if !allowsSharing newcomer then
    { refusal := some "accelerator is busy and newcomer policy does not allow sharing" }
  else if newcomer.vramMB ≤ 0 || newcomer.capacityVRAMMB ≤ 0 then
    { refusal := some "sharing requires measured standalone VRAM envelopes" }
  else if newcomer.maxSlowdown < newcomer.predictedSlowdown then
    { start with refusal := some "predicted newcomer slowdown exceeds policy" }
  else
    match (victims newcomer order).foldlM addVictim ⟨start, 0 < newcomer.predictedSlowdown⟩ with
    | .error refused => refused
    | .ok e =>
      let profile := sharingProfile newcomer order
      closeEnvelope newcomer (confidentProfile profiles profile.exactKey profile.key) e

end VramGovernor.Workloads
