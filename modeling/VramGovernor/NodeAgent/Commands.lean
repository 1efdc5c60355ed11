import VramGovernor.Foundations.GoError
import VramGovernor.Foundations.GoTime
import VramGovernor.Foundations.LengthPrefix
import Mathlib.Data.Rat.Defs

/-!
# Commands of the node agent

A node command mutates one resource of one target, and what orders the mutations of a resource is
the fencing token of the command. The target and the resource come out of the command's arguments in
`commandIntent`. Fences are kept under one key for each pair (`fenceKey`), which is injective; the
fences of stops and relaunches live under keys of another shape.
-/

namespace VramGovernor.NodeAgent

open GoString

/-! ## Fence keys -/

/-- The fence of a resource of a target: `fmt.Sprintf("%d:%s%d:%s", …)`. -/
def fenceKey (target resource : GoString) : GoString :=
  sprint target.length ++ ":" ++ target ++ sprint resource.length ++ ":" ++ resource

def ownedStopFenceKey (accelerator : GoString) : GoString :=
  "owned-stop-accelerator:" ++ accelerator

def checkpointPlanRelaunchFenceKey (accelerator : GoString) : GoString :=
  "plan-relaunch-accelerator:" ++ accelerator

theorem fenceKey_eq (target resource : GoString) :
    fenceKey target resource = lengthPrefixed target ++ lengthPrefixed resource := by
  simp [fenceKey, lengthPrefixed]

theorem fenceKey_inj {target target' resource resource' : GoString}
    (h : fenceKey target resource = fenceKey target' resource') :
    target = target' ∧ resource = resource' := by
  rw [fenceKey_eq, fenceKey_eq] at h
  obtain ⟨htarget, hrest⟩ := lengthPrefixed_append_inj h
  have hrest : lengthPrefixed resource ++ [] = lengthPrefixed resource' ++ [] := by
    simpa using hrest
  exact ⟨htarget, (lengthPrefixed_append_inj hrest).1⟩

/-- A fence key starts with a digit, the other keys with a letter. -/
theorem fenceKey_ne_of_letter {target resource key : GoString} {b : UInt8} {t : GoString}
    (hkey : key = b :: t) (hb : 0x39 < b) : fenceKey target resource ≠ key := by
  intro h
  obtain ⟨c, u, hcu, hc⟩ := head_lengthPrefixed target (lengthPrefixed resource)
  rw [fenceKey_eq, hcu, hkey, List.cons.injEq] at h
  exact absurd hc (by rw [h.1]; exact UInt8.not_le.2 hb)

variable (target resource accelerator : GoString)

theorem fenceKey_ne_ownedStopFenceKey :
    fenceKey target resource ≠ ownedStopFenceKey accelerator :=
  fenceKey_ne_of_letter (b := 0x6F) rfl (by decide)

theorem fenceKey_ne_checkpointPlanRelaunchFenceKey :
    fenceKey target resource ≠ checkpointPlanRelaunchFenceKey accelerator :=
  fenceKey_ne_of_letter (b := 0x70) rfl (by decide)

/-! ## Commands -/

/-- The name of a command. The phases of a checkpoint share the text `checkpoint_`. -/
inductive CommandName
  | loadModel | unloadModel
  | warmModel | offloadModel | demoteModel
  | protectWarmModel | cleanupWarmModel | reverifyWarmModel
  | queryModelState
  | reclaimAccelerator | drainRuntimes | switchRuntimeProfile | setGPUPerformanceProfile
  | llmDisplacementStop | llmDisplacementStopQuery
  | planUrgentLoad | planVictimReload | planQuery
  | checkpointSlotQuery | checkpointStateQuery | checkpointPhase (phase : GoString)
  | refreshCapabilities
  | other (name : GoString)
  deriving DecidableEq, Repr

open CommandName

namespace CommandName

def text : CommandName → GoString
  | loadModel => "load_model"
  | unloadModel => "unload_model"
  | warmModel => "warm_model"
  | offloadModel => "offload_model"
  | demoteModel => "demote_model"
  | protectWarmModel => "protect_warm_model"
  | cleanupWarmModel => "cleanup_warm_model"
  | reverifyWarmModel => "reverify_warm_model"
  | queryModelState => "query_model_state"
  | reclaimAccelerator => "reclaim_accelerator"
  | drainRuntimes => "drain_runtimes"
  | switchRuntimeProfile => "switch_runtime_profile"
  | setGPUPerformanceProfile => "set_gpu_performance_profile"
  | llmDisplacementStop => "llm_displacement_stop"
  | llmDisplacementStopQuery => "llm_displacement_stop_query"
  | planUrgentLoad => "llm_displacement_plan_urgent_load"
  | planVictimReload => "llm_displacement_plan_victim_reload"
  | planQuery => "llm_displacement_plan_query"
  | checkpointSlotQuery => "checkpoint_slot_query"
  | checkpointStateQuery => "checkpoint_state_query"
  | checkpointPhase phase => "checkpoint_" ++ phase
  | refreshCapabilities => "refresh_capabilities"
  | other name => name

def isResidencyCommand : CommandName → Bool
  | loadModel | unloadModel | warmModel | offloadModel | demoteModel
  | protectWarmModel | cleanupWarmModel | reverifyWarmModel | queryModelState => true
  | _ => false

def isReadOnlyResidencyCommand (name : CommandName) : Bool := name = queryModelState

def isReadOnlyCheckpointCommand (name : CommandName) : Bool :=
  name = checkpointSlotQuery || name = checkpointStateQuery

def isCheckpointCommand : CommandName → Bool
  | checkpointSlotQuery | checkpointStateQuery | checkpointPhase _ => true
  | _ => false

def isWarmLifecycleCommand : CommandName → Bool
  | warmModel | offloadModel | demoteModel
  | protectWarmModel | cleanupWarmModel | reverifyWarmModel => true
  | _ => false

/-- A step of a plan relaunch that mutates. -/
def isPlanRelaunch (name : CommandName) : Bool := name = planUrgentLoad || name = planVictimReload

def isQuery (name : CommandName) : Bool :=
  name.isReadOnlyResidencyCommand || name.isReadOnlyCheckpointCommand ||
    name = llmDisplacementStopQuery || name = planQuery

/-- A command whose execution ends in `commitFence`. -/
def commitsFence : CommandName → Bool
  | loadModel | unloadModel | warmModel | offloadModel | demoteModel => true
  | _ => false

end CommandName

/-- The value of an argument that should be an integer. -/
inductive NumberArg
  /-- An `int`, an `int64`, or the integer of a `json.Number`. -/
  | integer (n : ℤ)
  /-- A finite `float64`. -/
  | float (q : ℚ)
  /-- Any other value: a text, a NaN, an infinity. -/
  | other
  deriving DecidableEq

def InInt64 (n : ℤ) : Prop := -2 ^ 63 ≤ n ∧ n < 2 ^ 63

instance (n : ℤ) : Decidable (InInt64 n) := inferInstanceAs (Decidable (_ ∧ _))

/-- The token of a command; an absent argument is the value `nil`. -/
def exactFenceToken : Option NumberArg → Except GoError ℤ
  | some (.integer n) =>
    if InInt64 n then .ok n else .error ⟨"fencing_token must be an integer", none⟩
  | some (.float q) =>
    if q.den = 1 ∧ InInt64 q.num then .ok q.num
    else .error ⟨"fencing_token must be an integer", none⟩
  | _ => .error ⟨"fencing_token must be an integer", none⟩

/-- The token of a command that needs one of at least `low`. -/
def fenceTokenFrom (low : ℤ) (e : GoError) (arg : Option NumberArg) : Except GoError ℤ :=
  match exactFenceToken arg with
  | .error _ => .error e
  | .ok token => if token < low then .error e else .ok token

theorem exactFenceToken_of_fenceTokenFrom {low token : ℤ} {e : GoError} {arg : Option NumberArg}
    (h : fenceTokenFrom low e arg = .ok token) : exactFenceToken arg = .ok token := by
  unfold fenceTokenFrom at h
  cases ht : exactFenceToken arg with
  | error e' => simp [ht] at h
  | ok t =>
    simp only [ht] at h
    split_ifs at h
    exact h

/-- A command as it reaches the agent. A text argument that is absent is empty. -/
structure NodeCommand where
  id : GoString
  idempotencyKey : GoString := []
  name : CommandName
  expiresAt : GoTime
  (targetID model profileID acceleratorID profile : GoString := [])
  slotID : Option GoString := none
  fencingToken : Option NumberArg := none
  deriving DecidableEq

/-! ## Targets -/

structure LlamaCPPServerConfig where
  id : GoString
  runtimeProfiles : List GoString := []
  deriving DecidableEq, Repr

structure Config where
  nodeID : GoString
  servers : List LlamaCPPServerConfig
  strictResidencyEnvelope : Bool := true
  deriving DecidableEq, Repr

def trimPrefix (s start : GoString) : GoString :=
  if start.isPrefixOf s then s.drop start.length else s

namespace Config

variable (cfg : Config)

def routerTarget (targetID : GoString) : Option LlamaCPPServerConfig :=
  let shortID := trimPrefix targetID (cfg.nodeID ++ "-")
  cfg.servers.find? fun server => server.id = targetID || server.id = shortID

/-- The name under which a server is advertised. -/
def canonicalTarget (server : LlamaCPPServerConfig) : GoString := cfg.nodeID ++ "-" ++ server.id

def normalizeCommandTarget (command : NodeCommand) : NodeCommand :=
  if command.targetID = [] then command
  else
    match cfg.routerTarget command.targetID with
    | none => command
    | some server => { command with targetID := cfg.canonicalTarget server }

end Config

/-! ## Intents -/

/-- The write-ahead record of a mutation. -/
structure PendingCommand where
  (targetID model : GoString := [])
  command : CommandName := .other []
  token : ℤ := 0
  (commandID idempotencyKey : GoString := [])
  deriving DecidableEq, Repr

/-- The intent of a command on a resource of a target. -/
def NodeCommand.intentOn (command : NodeCommand) (target resource : GoString) (token : ℤ) :
    PendingCommand where
  targetID := target
  model := resource
  command := command.name
  token := token
  commandID := command.id
  idempotencyKey := command.idempotencyKey

namespace Config

variable (cfg : Config) (command : NodeCommand)

/-- `plan` is what the arguments, the broker's journal or the recovery epoch object to. -/
def commandIntentPlanRelaunch (plan : Option GoError) : Except GoError PendingCommand :=
  match plan, cfg.routerTarget command.targetID with
  | some e, _ => .error e
  | none, none => .error ⟨"plan relaunch target is not the canonical local llama.cpp target", none⟩
  | none, some server =>
    if command.targetID ≠ cfg.canonicalTarget server then
      .error ⟨"plan relaunch target is not the canonical local llama.cpp target", none⟩
    else if command.acceleratorID = [] then
      .error ⟨"plan relaunch fence or recovery epoch is invalid", none⟩
    else
      (fenceTokenFrom 1 ⟨"plan relaunch fence or recovery epoch is invalid", none⟩
        command.fencingToken).map
          (command.intentOn command.targetID ("plan-relaunch:" ++ command.acceleratorID))

/-- `plan` is what the arguments, the pinned plan or the recovery epoch object to. -/
def commandIntentOwnedStop (plan : Option GoError) : Except GoError PendingCommand :=
  match cfg.routerTarget command.targetID with
  | none => .error ⟨"owned stop target is not locally allowlisted", none⟩
  | some server =>
    if command.targetID ≠ cfg.canonicalTarget server then
      .error ⟨"owned stop target must use its canonical node-qualified identity", none⟩
    else
      match plan with
      | some e => .error e
      | none =>
        (fenceTokenFrom 1 ⟨"owned stop fencing_token must be positive", none⟩
          command.fencingToken).map
            (command.intentOn (cfg.canonicalTarget server) ("owned-stop:" ++ command.acceleratorID))

/-- The resource of a checkpoint slot; `-1` is the slot of a command that names none. -/
def checkpointResource (slotID : Option GoString) : GoString := "checkpoint:" ++ slotID.getD "-1"

def commandIntentCheckpoint : Except GoError PendingCommand :=
  match cfg.routerTarget command.targetID with
  | none => .error ⟨"checkpoint target is not allowlisted", none⟩
  | some server =>
    (fenceTokenFrom 1 ⟨"checkpoint fencing_token must be positive", none⟩ command.fencingToken).map
      (command.intentOn (cfg.canonicalTarget server) (checkpointResource command.slotID))

/-- The target and the resource of a command that mutates the node and not a model. -/
def resourceTarget : Except GoError (GoString × GoString) :=
  match command.name with
  | .reclaimAccelerator =>
    if command.targetID ≠ cfg.nodeID ++ "-comfy" then
      .error ⟨"target is not the allowlisted accelerator runtime", none⟩
    else .ok (command.targetID, "reclaim_accelerator")
  | .drainRuntimes =>
    if command.targetID ≠ [] ∧ command.targetID ≠ cfg.nodeID ++ "-runtimes" then
      .error ⟨"target is not the allowlisted runtime group", none⟩
    else .ok (cfg.nodeID ++ "-runtimes", "drain_runtimes")
  | .switchRuntimeProfile =>
    if command.targetID = [] ∨ command.profileID = [] then
      .error ⟨"target_id and profile_id are required", none⟩
    else
      match cfg.routerTarget command.targetID with
      | none => .error ⟨"target is not an allowlisted local inference server", none⟩
      | some server =>
        if command.profileID ∈ server.runtimeProfiles then
          .ok (cfg.canonicalTarget server, "runtime_profile")
        else .error ⟨"runtime profile is not allowlisted for target", none⟩
  | _ =>
    if command.acceleratorID = [] ∨
        command.profile ≠ ofString "idle" ∧ command.profile ≠ ofString "active" then
      .error ⟨"accelerator_id and an allowlisted profile are required", none⟩
    else if (cfg.nodeID ++ "-gpu").isPrefixOf command.acceleratorID then
      .ok (command.acceleratorID, "gpu_profile")
    else .error ⟨"accelerator is not owned by this node", none⟩

def commandIntentResource : Except GoError PendingCommand :=
  match cfg.resourceTarget command with
  | .error e => .error e
  | .ok (target, resource) =>
    (fenceTokenFrom 0 ⟨"fencing_token must be a nonnegative integer", none⟩
      command.fencingToken).map (command.intentOn target resource)

def commandIntentModel : Except GoError PendingCommand :=
  if command.targetID = [] ∨ command.model = [] then
    .error ⟨"target_id and model are required", none⟩
  else
    match exactFenceToken command.fencingToken with
    | .error e => .error e
    | .ok token =>
      match cfg.routerTarget command.targetID with
      | none => .error ⟨"target is not an allowlisted local inference server", none⟩
      | some server => .ok (command.intentOn (cfg.canonicalTarget server) command.model token)

/-- The intent of a command, `none` for one that mutates nothing it fences. -/
def commandIntent (plan : Option GoError) : Except GoError (Option PendingCommand) :=
  match command.name with
  | .planUrgentLoad | .planVictimReload => (cfg.commandIntentPlanRelaunch command plan).map some
  | .llmDisplacementStop => (cfg.commandIntentOwnedStop command plan).map some
  | .checkpointPhase _ => (cfg.commandIntentCheckpoint command).map some
  | .reclaimAccelerator | .drainRuntimes | .switchRuntimeProfile | .setGPUPerformanceProfile =>
    (cfg.commandIntentResource command).map some
  | .loadModel | .unloadModel | .warmModel | .offloadModel | .demoteModel
  | .protectWarmModel | .cleanupWarmModel | .reverifyWarmModel =>
    (cfg.commandIntentModel command).map some
  | _ => .ok none

/-! ## What an intent says -/

/-- What the fence of an intent has to do with its command. -/
structure IntentOf (intent : PendingCommand) : Prop where
  token : exactFenceToken command.fencingToken = .ok intent.token
  checkpoint : command.name.isCheckpointCommand → intent.model = checkpointResource command.slotID
  committed : command.name.commitsFence → intent.model = command.model ∧
    ∃ server, cfg.routerTarget command.targetID = some server ∧
      intent.targetID = cfg.canonicalTarget server

variable {cfg command} {intent : PendingCommand} {plan : Option GoError}

theorem intentOn_of_map {low : ℤ} {e : GoError} {target resource : GoString}
    (h : (fenceTokenFrom low e command.fencingToken).map (command.intentOn target resource) =
      .ok intent) :
    exactFenceToken command.fencingToken = .ok intent.token ∧ intent.model = resource := by
  cases ht : fenceTokenFrom low e command.fencingToken with
  | error e' =>
    rw [ht] at h
    cases h
  | ok token =>
    rw [ht] at h
    cases h
    exact ⟨exactFenceToken_of_fenceTokenFrom ht, rfl⟩

theorem commandIntentPlanRelaunch_token
    (h : cfg.commandIntentPlanRelaunch command plan = .ok intent) :
    exactFenceToken command.fencingToken = .ok intent.token := by
  revert h
  fun_cases commandIntentPlanRelaunch cfg command plan with
  | case1 | case2 | case3 | case4 => exact nofun
  | case5 => exact fun h => (intentOn_of_map h).1

theorem commandIntentOwnedStop_token (h : cfg.commandIntentOwnedStop command plan = .ok intent) :
    exactFenceToken command.fencingToken = .ok intent.token := by
  revert h
  fun_cases commandIntentOwnedStop cfg command plan with
  | case1 | case2 | case3 => exact nofun
  | case4 => exact fun h => (intentOn_of_map h).1

theorem commandIntentCheckpoint_token (h : cfg.commandIntentCheckpoint command = .ok intent) :
    exactFenceToken command.fencingToken = .ok intent.token ∧
      intent.model = checkpointResource command.slotID := by
  unfold commandIntentCheckpoint at h
  cases hs : cfg.routerTarget command.targetID with
  | none => simp [hs] at h
  | some server =>
    simp only [hs] at h
    exact intentOn_of_map h

theorem commandIntentResource_token (h : cfg.commandIntentResource command = .ok intent) :
    exactFenceToken command.fencingToken = .ok intent.token := by
  unfold commandIntentResource at h
  cases hr : cfg.resourceTarget command with
  | error e => simp [hr] at h
  | ok fenced =>
    simp only [hr] at h
    exact (intentOn_of_map h).1

theorem commandIntentModel_token (h : cfg.commandIntentModel command = .ok intent) :
    exactFenceToken command.fencingToken = .ok intent.token ∧ intent.model = command.model ∧
      ∃ server, cfg.routerTarget command.targetID = some server ∧
        intent.targetID = cfg.canonicalTarget server := by
  revert h
  fun_cases commandIntentModel cfg command with
  | case1 | case2 | case3 => exact nofun
  | case4 _ token ht server hs =>
    rintro ⟨⟩
    exact ⟨ht, rfl, server, hs, rfl⟩

theorem ok_of_map_some {x : Except GoError PendingCommand}
    (h : x.map some = .ok (some intent)) : x = .ok intent := by
  cases x with
  | error e => cases h
  | ok b =>
    cases h
    rfl

/-- **An intent is its command's**: its token is the argument's, a checkpoint is fenced under a
slot, and a command under the key it commits. -/
theorem intentOf_commandIntent (h : cfg.commandIntent command plan = .ok (some intent)) :
    cfg.IntentOf command intent := by
  have unchecked (ht : exactFenceToken command.fencingToken = .ok intent.token)
      (hc : command.name.isCheckpointCommand = false) (hf : command.name.commitsFence = false) :
      cfg.IntentOf command intent :=
    ⟨ht, by simp [hc], by simp [hf]⟩
  have model (hc : command.name.isCheckpointCommand = false)
      (hm : cfg.commandIntentModel command = .ok intent) : cfg.IntentOf command intent := by
    obtain ⟨ht, hrest⟩ := commandIntentModel_token hm
    exact ⟨ht, by simp [hc], fun _ => hrest⟩
  cases hname : command.name
  all_goals simp only [commandIntent, hname] at h
  case checkpointPhase phase =>
    obtain ⟨ht, hm⟩ := commandIntentCheckpoint_token (ok_of_map_some h)
    exact ⟨ht, fun _ => hm, by simp [hname, commitsFence]⟩
  all_goals first
    | exact absurd h (by simp)
    | exact model (by simp [hname, isCheckpointCommand]) (ok_of_map_some h)
    | refine unchecked ?_ (by simp [hname, isCheckpointCommand])
        (by simp [hname, commitsFence])
  all_goals first
    | exact commandIntentPlanRelaunch_token (ok_of_map_some h)
    | exact commandIntentOwnedStop_token (ok_of_map_some h)
    | exact commandIntentResource_token (ok_of_map_some h)

theorem commitsFence_of_commandIntent (h : cfg.commandIntent command plan = .ok none) :
    command.name.commitsFence = false := by
  cases hname : command.name
  case loadModel | unloadModel | warmModel | offloadModel | demoteModel =>
    simp only [commandIntent, hname] at h
    cases hm : cfg.commandIntentModel command <;> rw [hm] at h <;> cases h
  all_goals rfl

theorem commandIntent_of_isQuery (h : command.name.isQuery = true) :
    cfg.commandIntent command plan = .ok none := by
  unfold isQuery isReadOnlyResidencyCommand
    isReadOnlyCheckpointCommand at h
  cases hname : command.name <;> simp [hname, commandIntent] at h ⊢

end Config

end VramGovernor.NodeAgent
