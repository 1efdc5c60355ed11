import VramGovernor.NodeAgent.Guards

/-!
# The write-ahead fence

A command past the gates is either a query, which has no intent, or comes to a processor that is
not sealed, whose fences cover the executions. Its token is checked against the fence of its
resource (`Processor.above_of_checkTransition`), raised in memory and saved; a command that leaves
this stage without an error is armed (`Armed`): the fences of memory and disk cover the executions
with its own added to them, and the fence it found covers those before it.
-/

namespace VramGovernor.NodeAgent

open GoString Processor Handling

variable {cfg : Config} {command : NodeCommand} {c : Circumstances} {intent : PendingCommand}

/-! ## Admission -/

variable {p : Processor} {h : Handling}

/-- **A sealed processor passes queries only.** -/
theorem Processor.isQuery_of_gate (h : p.Sealed) (hgate : p.gate cfg command c = none) :
    command.name.isQuery = true := by
  obtain ⟨hblocked, reason, hreason, hne⟩ := h
  have habsolute : p.absoluteBlocked = true := by
    simp [absoluteBlocked, unsettled, hblocked, hreason, hne]
  have hretry : p.cleanupRetry cfg command c = false := by
    simp [cleanupRetry, hreason, hne]
  have hquery : p.queryRecovery command c = true := by
    by_contra hrecovery
    rw [Bool.not_eq_true] at hrecovery
    simp only [gate, habsolute, hretry, hrecovery, Bool.not_false, Bool.and_true, if_true] at hgate
    split_ifs at hgate
  unfold queryRecovery rootQueryRecovery at hquery
  unfold CommandName.isQuery
  simp only [hreason, hblocked, Bool.or_eq_true, Bool.and_eq_true] at hquery ⊢
  tauto

theorem commandIntent_of_intentStage {intent : Option PendingCommand}
    (h : intentStage cfg command c = .ok intent) :
    cfg.commandIntent command c.plan = .ok intent := by
  unfold intentStage at h
  split at h
  · cases h
  · split_ifs at h with hquery
    · cases h
      refine Config.commandIntent_of_isQuery ?_
      simp only [CommandName.isQuery, hquery, Bool.true_or]
    · cases hintent : cfg.commandIntent command c.plan with
      | error e => simp [hintent] at h
      | ok intent' =>
        simp only [hintent, Except.ok.injEq] at h
        rw [h]

theorem Processor.lt_of_checkFence {target model : GoString} {token fence : ℤ}
    (h : p.checkFence command target model = none)
    (htoken : exactFenceToken command.fencingToken = .ok token)
    (hfence : p.fences.lookup (fenceKey target model) = some fence) : fence < token := by
  unfold checkFence at h
  cases hvalue : command.fencingToken with
  | none =>
    rw [hvalue] at htoken
    cases htoken
  | some value =>
    rw [hvalue] at htoken
    simp only [hvalue, htoken, hfence] at h
    split_ifs at h with _ hstale
    omega

/-- **A checked token is above what ran under its key.** -/
theorem Processor.above_of_checkTransition {executed : List Execution}
    (hintent : cfg.IntentOf command intent) (hcovers : Covers p.fences executed)
    (hcheck : p.checkTransition command c intent = none) :
    Above executed (transitionKey command intent) intent.token := by
  intro e he hordered hkey
  obtain ⟨fence, hfence, hle⟩ := hcovers e he hordered
  obtain ⟨target, resource, hresource, hslot⟩ := hordered
  rw [hkey] at hresource hfence
  by_cases hstop : command.name = .llmDisplacementStop
  · rw [transitionKey, if_pos hstop] at hresource
    exact absurd hresource.symm (fenceKey_ne_ownedStopFenceKey _ _ _)
  by_cases hrelaunch : command.name.isPlanRelaunch = true
  · rw [transitionKey, if_neg hstop, if_pos hrelaunch] at hresource
    exact absurd hresource.symm (fenceKey_ne_checkpointPlanRelaunchFenceKey _ _ _)
  rw [transitionKey, if_neg hstop, if_neg hrelaunch] at hresource hfence
  obtain ⟨-, rfl⟩ := fenceKey_inj hresource
  by_cases hcheckpoint : command.name.isCheckpointCommand = true
  · exact absurd ⟨_, hintent.checkpoint hcheckpoint⟩ hslot
  -- what is left is the check of the fence itself
  simp only [checkTransition, hstop, hrelaunch, hcheckpoint, decide_false, Bool.or_self,
    Bool.false_eq_true, if_false] at hcheck
  have hlt : fence < intent.token := p.lt_of_checkFence hcheck hintent.token hfence
  omega

/-! ## Stages -/

/-- The executions are guarded on both sides of a crash, and increase. -/
structure Handling.Fenced (h : Handling) : Prop where
  memory : h.processor.Guards h.executed
  disk : h.disk.Guards h.executed
  increasing : Increasing h.executed

structure Crash.Fenced (crash : Crash) : Prop where
  disk : crash.disk.Guards crash.executed
  increasing : Increasing crash.executed

/-- A stage keeps the executions guarded when it crashes, and ends in `P` when it does not. -/
def Keeps {α : Type} (stage : Except Crash α) (P : α → Prop) : Prop :=
  match stage with
  | .error crash => crash.Fenced
  | .ok a => P a

theorem Keeps.bind {α β : Type} {x : Except Crash α} {f : α → Except Crash β} {P : α → Prop}
    {Q : β → Prop} (hx : Keeps x P) (hf : ∀ a, P a → Keeps (f a) Q) : Keeps (x >>= f) Q := by
  cases x with
  | error crash => exact hx
  | ok a => exact hf a hx

theorem Handling.Fenced.quiet (hf : h.Fenced) {q : Processor} (hq : h.processor.Quiet q)
    (error : Option GoString) : Handling.Fenced { h with processor := q, error := error } :=
  ⟨hf.memory.quiet hq, hf.disk, hf.increasing⟩

/-- **A save keeps the executions guarded**; one that succeeded has put the state in place. -/
theorem Handling.Fenced.keeps_save (hf : h.Fenced) (o : SaveOutcome) :
    Keeps (h.save o) fun r => r.1.Fenced ∧ (r.2 = true →
      r.1 = { h with disk := h.disk.reach h.processor.commandStatePayload .renamed }) := by
  unfold save
  cases hs : h.processor.save h.disk o with
  | error disk => exact ⟨save_crash hs hf.memory hf.disk, hf.increasing⟩
  | ok result =>
    obtain ⟨p, d, saved⟩ := result
    obtain ⟨hq, hd⟩ := save_ok hs hf.memory hf.disk
    refine ⟨⟨hf.memory.quiet hq, hd, hf.increasing⟩, ?_⟩
    rintro (rfl : saved = true)
    obtain ⟨rfl, rfl⟩ := save_true hs
    rfl

/-! ## The write-ahead fence -/

/-- The fence of a command is raised and saved: the command may run, or put back what it found. -/
structure Armed (cfg : Config) (command : NodeCommand) (h : Handling) (fence : RaisedFence) :
    Prop where
  memory : Covers h.processor.fences (h.executed ++ [fence.execution command])
  disk : h.disk.Guards (h.executed ++ [fence.execution command])
  above : Above h.executed fence.key fence.token
  restores : Covers (h.processor.restoreFence fence.key fence.previous).fences h.executed
  commits : command.name.commitsFence → exactFenceToken command.fencingToken = .ok fence.token ∧
    ∃ server, cfg.routerTarget command.targetID = some server ∧
      fence.key = fenceKey (cfg.canonicalTarget server) command.model

/-- A command without an error is armed, or has no fence to commit. -/
def Handling.Ready (h : Handling) (cfg : Config) (command : NodeCommand) : Prop :=
  h.error = none → match h.fence with
    | none => command.name.commitsFence = false
    | some fence => Armed cfg command h fence

theorem Handling.ready_of_error {message : GoString} (herror : h.error = some message) :
    h.Ready cfg command := by
  intro hnone
  rw [herror] at hnone
  cases hnone

theorem Processor.lookup_restoreFence_enter (p : Processor) (key k : GoString) :
    ((p.enter command intent key).restoreFence key (p.fences.lookup key)).fences.lookup k =
      p.fences.lookup k := by
  by_cases hk : k = key
  · subst hk
    cases hl : p.fences.lookup k <;> simp [restoreFence]
  · cases hl : p.fences.lookup key <;> simp [restoreFence, enter, hk]

theorem commits_transitionKey (hintent : cfg.IntentOf command intent)
    (hcommits : command.name.commitsFence = true) :
    exactFenceToken command.fencingToken = .ok intent.token ∧
      ∃ server, cfg.routerTarget command.targetID = some server ∧
        transitionKey command intent = fenceKey (cfg.canonicalTarget server) command.model := by
  obtain ⟨hmodel, server, hserver, htarget⟩ := hintent.committed hcommits
  refine ⟨hintent.token, server, hserver, ?_⟩
  rw [← htarget, ← hmodel]
  cases hname : command.name <;> simp [hname, CommandName.commitsFence] at hcommits
  all_goals simp [transitionKey, hname, CommandName.isPlanRelaunch]

theorem Handling.Fenced.keeps_saveIntent (hf : h.Fenced) (o : SaveOutcome) :
    Keeps (h.saveIntent o) fun h' => h'.Fenced ∧ (h'.error = none →
      h' = { h with disk := h.disk.reach h.processor.commandStatePayload .renamed }) := by
  have hsave := hf.keeps_save o
  unfold saveIntent
  cases hs : h.save o with
  | error crash => rwa [hs] at hsave
  | ok result =>
    obtain ⟨h', saved⟩ := result
    rw [hs] at hsave
    cases saved with
    | true => exact ⟨hsave.1, fun _ => hsave.2 rfl⟩
    | false => exact ⟨hsave.1.quiet (quiet_block _ _) _, by rintro ⟨⟩⟩

/-- A command whose token is above what ran is armed once its intent is in place. -/
theorem Handling.armed_enter (hcovers : Covers h.processor.fences h.executed)
    (hintent : cfg.IntentOf command intent)
    (habove : Above h.executed (transitionKey command intent) intent.token) :
    Handling.Ready
      { h.enter command intent with
        disk := h.disk.reach (h.enter command intent).processor.commandStatePayload .renamed }
      cfg command := by
  intro _
  have hraised : Covers (h.enter command intent).processor.fences h.executed :=
    hcovers.insert_above habove
  have hmemory : Covers (h.enter command intent).processor.fences
      (h.executed ++ [⟨command.id, transitionKey command intent, intent.token⟩]) :=
    hraised.append (AList.lookup_insert _)
  exact
    { memory := hmemory
      disk := Disk.guards_renamed (.inr hmemory)
      above := habove
      restores := hcovers.congr (h.processor.lookup_restoreFence_enter _)
      commits := commits_transitionKey hintent }

section

variable (hf : h.Fenced) (hcovers : Covers h.processor.fences h.executed)
  (hintent : cfg.IntentOf command intent)
include hf hcovers hintent

/-- **The write-ahead stage** arms a command whose token is above what ran, or stops it. -/
theorem Handling.raise_keeps
    (habove : Above h.executed (transitionKey command intent) intent.token) :
    Keeps (h.raise command intent c) fun h' => h'.Fenced ∧ h'.Ready cfg command := by
  have hentered : (h.enter command intent).Fenced :=
    ⟨.inr (hcovers.insert_above habove), hf.disk, hf.increasing⟩
  unfold raise
  split_ifs
  · have hsealed : ((h.enter command intent).processor.block .durability).Sealed :=
      block_sealed (by simp)
    exact ⟨⟨.inl hsealed, hf.disk, hf.increasing⟩, ready_of_error rfl⟩
  · have hsave := hentered.keeps_saveIntent c.intentSave
    cases hs : (h.enter command intent).saveIntent c.intentSave with
    | error crash => rwa [hs] at hsave
    | ok h' =>
      rw [hs] at hsave
      refine ⟨hsave.1, fun hnone => ?_⟩
      have hplaced := hsave.2 hnone
      rw [hplaced] at hnone ⊢
      exact armed_enter hcovers hintent habove hnone

theorem Handling.fenceStage_keeps :
    Keeps (h.fenceStage cfg command intent c) fun h' => h'.Fenced ∧ h'.Ready cfg command := by
  unfold fenceStage
  extract_lets key p q h'
  have hquiet : h.processor.Quiet q := by
    by_cases hretry : command.name = .cleanupWarmModel ∧
        h.processor.pendingWarmCleanupRetryFor cfg command c = true
    · simp only [q, p, hretry, decide_true, Bool.and_self, if_true]
      exact quiet_settle _ _
    · simp only [q, p, Bool.and_eq_true, decide_eq_true_eq, hretry, if_false]
      exact quiet_refl _
  have hf' : h'.Fenced := hf.quiet hquiet h.error
  have hcovers' : Covers q.fences h.executed := by
    rw [hquiet.fences]
    exact hcovers
  split_ifs
  · exact ⟨hf'.quiet (quiet_refl _) _, ready_of_error rfl⟩
  · cases hcheck : q.checkTransition command c intent with
    | some e => exact ⟨hf'.quiet (quiet_refl _) _, ready_of_error rfl⟩
    | none =>
      exact raise_keeps hf' hcovers' hintent
        (above_of_checkTransition hintent hcovers' hcheck)

end

/-- **The first stage past the gates.** A sealed processor gets here with a query only. -/
theorem Handling.intend_keeps (hf : h.Fenced) (hfence : h.fence = none)
    (hsealed : h.processor.Sealed → command.name.isQuery = true) :
    Keeps (h.intend cfg command c) fun r => r.1.Fenced ∧ r.1.Ready cfg command := by
  unfold intend
  cases hstage : intentStage cfg command c with
  | error refused => exact ⟨hf.quiet (quiet_refl _) _, ready_of_error rfl⟩
  | ok stage =>
    have hcommand := commandIntent_of_intentStage hstage
    cases stage with
    | none =>
      refine ⟨hf, fun _ => ?_⟩
      rw [hfence]
      exact Config.commitsFence_of_commandIntent hcommand
    | some intent =>
      have hcovers : Covers h.processor.fences h.executed := by
        obtain hs | hcovers := hf.memory
        · rw [Config.commandIntent_of_isQuery (hsealed hs)] at hcommand
          cases hcommand
        · exact hcovers
      have hstage := h.fenceStage_keeps (c := c) hf hcovers (Config.intentOf_commandIntent hcommand)
      dsimp only
      cases hs : h.fenceStage cfg command intent c with
      | error crash | ok h' => rwa [hs] at hstage

end VramGovernor.NodeAgent
