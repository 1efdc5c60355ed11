import VramGovernor.NodeAgent.DisplacementProtocol

/-!
# The order of the steps of a displacement

The journals of a node are a state of the protocol (`DisplacementState.view`), and every call of the
node is a run of it (`DisplacementCall.exec_refines`). So the history of a node is a history of the
protocol, and its admissions are in order (`displacement_in_order`).
-/

namespace VramGovernor.NodeAgent

open DisplacementEvent DisplacementState

/-! ## The journals as a state of the protocol -/

/-- The receipt of an acknowledged step. -/
def StepStatus.receipt (status : StepStatus) (sha256 : GoString) : Option GoString :=
  match status with
  | .pending => none
  | .acknowledged => some sha256

def OwnedStopOperationState.view (s : OwnedStopOperationState) : StopView where
  operationID := s.operationID
  fence := s.fence
  recoveryEpoch := s.recoveryEpoch
  used := {op | s.used op = true}
  steps := fun k => (s.steps k).map fun row => row.status.receipt row.receiptSHA256
  consumed := by simp [used, s.consumed]

open OwnedStopOperationState hiding view

def PlanRelaunchOperation.view (o : PlanRelaunchOperation) : RelaunchView where
  operationID := o.operationID
  fence := o.fence
  recoveryEpoch := o.recoveryEpoch
  steps := fun k => (o.steps k).map fun row => row.status.receipt row.receiptSHA256

namespace DisplacementState

def view (p : DisplacementState) : DisplacementView where
  stops := fun a => (p.ownedStopOperations.lookup a).map (·.view)
  relaunches := fun a => (p.planRelaunchOperations.lookup a).map (·.view)

variable {p q p' : DisplacementState} {c : StopCommand} {token : ℤ} {status : StepStatus}
  {sha256 a : GoString} {s : OwnedStopOperationState}

theorem view_stops (hs : p.ownedStopOperations.lookup a = some s) :
    p.view.stops a = some s.view := by
  simp [view, hs]

theorem view_insert_stop (p : DisplacementState) (a : GoString) (s : OwnedStopOperationState) :
    { p with ownedStopOperations := p.ownedStopOperations.insert a s }.view =
      p.view.setStop a s.view :=
  congrArg (fun f => (⟨f, p.view.relaunches⟩ : DisplacementView)) (GoMap.map_lookup_insert _)

theorem view_setStep (s : OwnedStopOperationState) (k : StopStep)
    (row : Option OwnedStopStepState) :
    (s.setStep k row).view =
      s.view.setStep k (row.map fun row => row.status.receipt row.receiptSHA256) := by
  ext1
  · rfl
  · rfl
  · rfl
  · rfl
  · funext k'
    simp only [OwnedStopOperationState.view, setStep, StopView.setStep,
      Function.update_apply]
    split_ifs <;> rfl

/-! ### Stops -/

theorem isOf_iff : s.isOf c token = true ↔
    s.operationID = c.operationID ∧ s.fence = token ∧ s.recoveryEpoch = c.recoveryEpoch := by
  simp [isOf, and_assoc]

theorem stepID_of_isOf (hof : s.isOf c token = true) :
    c.stepID token = s.view.id c.acceleratorID c.step := by
  obtain ⟨hop, hfence, hepoch⟩ := isOf_iff.1 hof
  rw [StopCommand.stepID, ← hop, ← hfence, ← hepoch]
  rfl

theorem view_markUsed (s : OwnedStopOperationState) : (s.markUsed s.operationID).view = s.view := by
  ext1
  · rfl
  · rfl
  · rfl
  · ext op
    show decide ((s.usedOperationIDs.insert s.operationID true).lookup op = some true) = true ↔
      decide (s.usedOperationIDs.lookup op = some true) = true
    rw [GoMap.lookup_insert_of]
    split_ifs with h
    · rw [h, s.consumed]
    · rfl
  · rfl

theorem isOf_stopOperationFor (p : DisplacementState) (c : StopCommand) (token : ℤ) :
    (p.stopOperationFor c token).isOf c token = true := by
  have hnew (used : GoMap Bool) : (newStopOperation c token used).isOf c token = true :=
    isOf_iff.2 ⟨rfl, rfl, rfl⟩
  unfold stopOperationFor
  split
  next => exact hnew _
  next s _ =>
    split_ifs with hof
    · exact isOf_iff.2 (isOf_iff.1 hof)
    · exact hnew _

theorem stopOperationFor_of_isOf (hs : p.ownedStopOperations.lookup c.acceleratorID = some s)
    (hof : s.isOf c token = true) : (p.stopOperationFor c token).view = s.view := by
  rw [stopOperationFor, hs]
  show (if s.isOf c token then s.markUsed c.operationID else _).view = s.view
  rw [if_pos hof, ← (isOf_iff.1 hof).1, view_markUsed]

theorem recordOwnedStopStep_ok (h : p.recordOwnedStopStep c token status sha256 = .ok p') :
    ∃ s : OwnedStopOperationState, s.isOf c token = true ∧
      s.steps c.step = some ⟨c.id, c.idempotencyKey, c.envelopeSHA256, status, sha256⟩ ∧
      s.view = (p.stopOperationFor c token).view.setStep c.step (some (status.receipt sha256)) ∧
      p' = { p with ownedStopOperations := p.ownedStopOperations.insert c.acceleratorID s } := by
  simp only [recordOwnedStopStep] at h
  split_ifs at h
  cases h
  exact ⟨(p.stopOperationFor c token).setStep c.step
      (some ⟨c.id, c.idempotencyKey, c.envelopeSHA256, status, sha256⟩),
    isOf_stopOperationFor p c token, Function.update_self _ _ _, view_setStep _ _ _, rfl⟩

/-- When a stop is admitted: as the first of a new operation, or as the next of the current one. -/
inductive StopAdmissible (p : DisplacementState) (c : StopCommand) (token : ℤ) : Prop
  | first (hstep : c.step = .victimStop) (hfence : p.stopFence c.acceleratorID < token)
      (hprior : ∀ s, p.ownedStopOperations.lookup c.acceleratorID = some s →
        s.operationID ≠ c.operationID ∧ s.used c.operationID = false ∧ s.allSettled = true)
  | next {s : OwnedStopOperationState}
      (hs : p.ownedStopOperations.lookup c.acceleratorID = some s) (hof : s.isOf c token = true)
      (hk : s.steps c.step = none)
      (hu : c.step = .urgentStop →
        (s.steps .victimStop).any (fun row => row.status = .acknowledged) = true)

theorem checkNextStop_none (hs : p.ownedStopOperations.lookup c.acceleratorID = some s)
    (h : p.checkNextStop c token s = none) : p.StopAdmissible c token := by
  unfold checkNextStop at h
  split_ifs at h with hused hop hof hsettled hk hu hnew
  · refine .next hs hof ?_ fun hstep => ?_
    · simpa using hk
    · simpa [hstep] using hu
  · simp only [Bool.or_eq_true, not_or, Bool.not_eq_true, decide_eq_true_iff, Bool.not_eq_false',
      not_le, not_not] at hnew
    obtain ⟨⟨hsettled, hfence⟩, hstep⟩ := hnew
    have hne : s.operationID ≠ c.operationID := by
      intro he
      simp only [he, decide_true, Bool.true_and, Bool.or_eq_true, decide_eq_true_iff, not_or,
        not_not] at hop
      exact hof (isOf_iff.2 ⟨he, hop⟩)
    refine .first hstep hfence fun s' hs' => ?_
    obtain rfl : s = s' := Option.mem_unique hs hs'
    exact ⟨hne, by simpa [hne] using hused, by simpa using hsettled⟩

theorem checkStop_none (h : p.checkStop c token = none) : p.StopAdmissible c token := by
  revert h
  fun_cases checkStop p c token with
  | case1 => exact nofun
  | case2 hs hnew =>
    simp only [Bool.or_eq_true, decide_eq_true_iff, not_or, not_le, not_not] at hnew
    exact fun _ => .first hnew.2 hnew.1 fun s hs' => by simp [hs] at hs'
  | case3 s hs => exact checkNextStop_none hs

theorem checkOwnedStopTransition_ok (h : p.checkOwnedStopTransition c = .ok token) :
    exactFenceToken c.fencingToken = .ok token ∧ p.StopAdmissible c token := by
  revert h
  fun_cases checkOwnedStopTransition p c with
  | case1 | case2 | case3 => exact nofun
  | case4 t ht _ hcheck =>
    rintro ⟨⟩
    exact ⟨ht, checkStop_none hcheck⟩

theorem view_newStopOperation (used : GoMap Bool)
    (hused : p.view.usedOn c.acceleratorID = {op | used.lookup op = some true}) :
    (newStopOperation c token used).view.setStep .victimStop (some none) =
      p.view.firstStop c.acceleratorID c.operationID c.recoveryEpoch token := by
  ext1
  · rfl
  · rfl
  · rfl
  · ext op
    show decide ((used.insert c.operationID true).lookup op = some true) = true ↔
      op ∈ insert c.operationID (p.view.usedOn c.acceleratorID)
    rw [hused, GoMap.lookup_insert_of, Set.mem_insert_iff]
    split_ifs with h <;> simp [h]
  · rfl

/-- The first stop of an operation takes over the operations seen before. -/
theorem stopOperationFor_first
    (hprior : ∀ s, p.ownedStopOperations.lookup c.acceleratorID = some s →
      s.operationID ≠ c.operationID) :
    (p.stopOperationFor c token).view.setStep .victimStop (some none) =
      p.view.firstStop c.acceleratorID c.operationID c.recoveryEpoch token := by
  cases hs : p.ownedStopOperations.lookup c.acceleratorID with
  | none =>
    simp only [stopOperationFor, hs]
    exact view_newStopOperation ∅ (by simp [DisplacementView.usedOn, view, hs])
  | some s =>
    have hof : ¬ s.isOf c token = true := fun hof => hprior s hs (isOf_iff.1 hof).1
    simp only [stopOperationFor, hs, if_neg hof]
    refine view_newStopOperation _ ?_
    simp [DisplacementView.usedOn, view, hs, OwnedStopOperationState.view,
      used]

theorem StopAdmissible.step (ha : p.StopAdmissible c token)
    (h : q.recordOwnedStopStep c token .pending [] = .ok p')
    (hq : q.ownedStopOperations = p.ownedStopOperations)
    (hq' : q.planRelaunchOperations = p.planRelaunchOperations) :
    ViewStep p.view (admitted (c.stepID token) []) p'.view := by
  have hview : q.view = p.view := by simp only [view, hq, hq']
  obtain ⟨s', -, -, hs', rfl⟩ := recordOwnedStopStep_ok h
  rw [view_insert_stop, hs', ← hview]
  cases ha with
  | first hstep hfence hprior =>
    have hsame : (q.stopOperationFor c token).view.setStep c.step (some none) = _ :=
      hstep ▸ stopOperationFor_first fun s hs => (hprior s (hq ▸ hs)).1
    rw [StepStatus.receipt, hsame, StopCommand.stepID, hstep]
    refine .beginStop fun hop => ?_
    rw [hview] at hop
    cases hs : p.ownedStopOperations.lookup c.acceleratorID with
    | none => simp [DisplacementView.usedOn, view, hs] at hop
    | some s =>
      have hused : s.used c.operationID = true := by
        simpa [DisplacementView.usedOn, view, hs, OwnedStopOperationState.view] using hop
      simp [(hprior s hs).2.1] at hused
  | @next s hs hof hk hu =>
    rw [stopOperationFor_of_isOf (hq ▸ hs) hof, stepID_of_isOf hof]
    refine .nextStop (view_stops (hq ▸ hs)) ?_ fun hstep => ?_
    · simp [OwnedStopOperationState.view, hk]
    · obtain ⟨row, hrow, hack⟩ := (Option.any_eq_true _ _).1 (hu hstep)
      exact ⟨row.receiptSHA256, by
        simp [OwnedStopOperationState.view, hrow, of_decide_eq_true hack, StepStatus.receipt]⟩

section

variable (hs : p.ownedStopOperations.lookup c.acceleratorID = some s) (hof : s.isOf c token = true)
include hs hof

theorem acknowledge_stop (h : p.recordOwnedStopStep c token .acknowledged sha256 = .ok p') :
    ViewStep p.view (acknowledged (c.stepID token) sha256) p'.view := by
  obtain ⟨s', -, -, hs', rfl⟩ := recordOwnedStopStep_ok h
  rw [view_insert_stop, hs', stopOperationFor_of_isOf hs hof, stepID_of_isOf hof]
  exact .acknowledgeStop (view_stops hs)

theorem drop_stop
    (hk : s.steps c.step = some ⟨c.id, c.idempotencyKey, c.envelopeSHA256, .pending, sha256⟩) :
    ViewStep p.view (dropped (c.stepID token)) (p.dropOwnedStopStep c).view := by
  have hdrop : p.dropOwnedStopStep c = { p with
      ownedStopOperations := p.ownedStopOperations.insert c.acceleratorID
        (s.setStep c.step none) } := by
    simp [dropOwnedStopStep, hs, hk]
  rw [hdrop, view_insert_stop, view_setStep, stepID_of_isOf hof]
  exact .dropStop (view_stops hs)

end

/-- The events of a call are a run of the protocol between the views of its states. -/
def Refines (p : DisplacementState) (result : DisplacementState × List DisplacementEvent) : Prop :=
  ∃ tr, Run ViewStep p.view tr result.1.view ∧ tr.map (·.label) = result.2

theorem Refines.silent (h : q.view = p.view) : p.Refines (q, []) := ⟨[], h ▸ .nil, rfl⟩

theorem Refines.one {e : DisplacementEvent} (h : ViewStep p.view e q.view) : p.Refines (q, [e]) :=
  ⟨_, Run.nil.snoc h, rfl⟩

theorem Refines.two {e e' : DisplacementEvent} {r : DisplacementState}
    (h : ViewStep p.view e q.view) (h' : ViewStep q.view e' r.view) : p.Refines (r, [e, e']) :=
  ⟨_, (Run.nil.snoc h).snoc h', rfl⟩

variable (p)

theorem handleStop_refines (c : StopCommand) (answer : SupervisorAnswer)
    (saved : Bool) : p.Refines (p.handleStop c answer saved) := by
  unfold handleStop
  cases hcheck : p.checkOwnedStopTransition c with
  | error e => exact .silent rfl
  | ok token =>
    simp only
    cases hrecord : recordOwnedStopStep { p with
        fences := p.fences.insert (ownedStopFenceKey c.acceleratorID) token
        pending := p.pending.insert c.id c } c token .pending [] with
    | error e => exact .silent rfl
    | ok recorded =>
      have hadmit : ViewStep p.view (admitted (c.stepID token) []) recorded.view :=
        (checkOwnedStopTransition_ok hcheck).2.step hrecord rfl rfl
      obtain ⟨s, hof, hk, -, hrec⟩ := recordOwnedStopStep_ok hrecord
      have hs : recorded.ownedStopOperations.lookup c.acceleratorID = some s := by
        rw [hrec]
        exact AList.lookup_insert _
      simp only
      cases answer with
      | expired =>
        have hdrop (key : GoString) (previous : Option ℤ) :=
          drop_stop (p := recorded.restoreFence key previous) hs hof hk
        exact .two hadmit (hdrop _ _)
      | unanswered retained => exact .one hadmit
      | receipt bytes sha256 =>
        simp only
        cases hsettled : recorded.recordOwnedStopStep c token .acknowledged sha256 with
        | error e => exact .one hadmit
        | ok settled =>
          have hack := acknowledge_stop hs hof hsettled
          exact .two hadmit hack

theorem handleStopQuery_refines (q : StopQuery) (sha256 : GoString) :
    p.Refines (p.handleStopQuery q sha256) := by
  unfold handleStopQuery
  cases hq : p.ownedStopQueryMatchesPending q with
  | none => exact .silent rfl
  | some c =>
    simp only
    cases hrecord : p.recordOwnedStopStep c (int64FromArg c.fencingToken) .acknowledged sha256 with
    | error e => exact .silent rfl
    | ok settled =>
      have hmatch := (Option.filter_eq_some_iff.1 hq).2
      cases hs : p.ownedStopOperations.lookup c.acceleratorID with
      | none => simp [hs] at hmatch
      | some s =>
        simp only [hs, Bool.and_eq_true, decide_eq_true_iff] at hmatch
        obtain ⟨-, ⟨⟨⟨-, hop⟩, hfence⟩, hepoch⟩, -⟩ := hmatch
        have hof : s.isOf c (int64FromArg c.fencingToken) = true := isOf_iff.2 ⟨hop, hfence, hepoch⟩
        have hack := acknowledge_stop hs hof hrecord
        exact .one hack

variable {p}

/-! ### Relaunches -/

section Relaunch

variable {c : RelaunchCommand} {o : PlanRelaunchOperation} {bytes : GoString}
  {row : PlanRelaunchStepState}

theorem view_relaunches (ho : p.planRelaunchOperations.lookup a = some o) :
    p.view.relaunches a = some o.view := by
  simp [view, ho]

variable (p a)

theorem view_insert_relaunch (o : PlanRelaunchOperation) :
    { p with planRelaunchOperations := p.planRelaunchOperations.insert a o }.view =
      p.view.setRelaunch a (some o.view) :=
  congrArg (fun f => (⟨p.view.stops, f⟩ : DisplacementView)) (GoMap.map_lookup_insert _)

theorem view_erase_relaunch :
    { p with planRelaunchOperations := p.planRelaunchOperations.erase a }.view =
      p.view.setRelaunch a none :=
  congrArg (fun f => (⟨p.view.stops, f⟩ : DisplacementView)) (GoMap.map_lookup_erase _)

variable {p a}

theorem view_setStep_relaunch (o : PlanRelaunchOperation) (k : RelaunchStep)
    (row : Option PlanRelaunchStepState) :
    (o.setStep k row).view =
      o.view.setStep k (row.map fun row => row.status.receipt row.receiptSHA256) := by
  ext1
  · rfl
  · rfl
  · rfl
  · funext k'
    simp only [PlanRelaunchOperation.view, PlanRelaunchOperation.setStep, RelaunchView.setStep,
      Function.update_apply]
    split_ifs <;> rfl

/-- The operation, fence and epoch of a relaunch command. -/
def IsOf (o : PlanRelaunchOperation) (c : RelaunchCommand) (token : ℤ) : Prop :=
  o.operationID = c.operationID ∧ o.fence = token ∧ o.recoveryEpoch = c.recoveryEpoch

theorem relaunch_stepID (hof : IsOf o c token) :
    c.stepID token = o.view.id c.acceleratorID c.step := by
  obtain ⟨hop, hfence, hepoch⟩ := hof
  rw [RelaunchCommand.stepID, ← hop, ← hfence, ← hepoch]
  rfl

theorem keepsIdentity_isOf (h : keepsIdentity o c token = true) : IsOf o c token := by
  simp only [keepsIdentity, Bool.and_eq_true, decide_eq_true_iff] at h
  exact ⟨h.1.1.1.1.1.1, h.1.1.1.1.2, h.1.1.1.2⟩

theorem recordPlanRelaunchStep_ok
    (h : p.recordPlanRelaunchStep c token status bytes sha256 = .ok p') :
    ∃ o, p.relaunchOperationFor c token status = .ok o ∧ IsOf o c token ∧
      p' = { p with
        planRelaunchOperations := p.planRelaunchOperations.insert c.acceleratorID
          (o.setStep c.step (some (relaunchRow c status bytes sha256))) } := by
  revert h
  fun_cases recordPlanRelaunchStep p c token status bytes sha256 with
  | case1 | case2 | case3 | case4 | case5 => exact nofun
  | case6 o ho hid =>
    rintro ⟨⟩
    exact ⟨o, ho, keepsIdentity_isOf (by simpa using hid), rfl⟩

section

variable (ho : p.planRelaunchOperations.lookup c.acceleratorID = some o)
include ho

theorem relaunchOperationFor_of
    (hop : o.operationID = c.operationID) : p.relaunchOperationFor c token status = .ok o := by
  simp [relaunchOperationFor, ho, hop]

theorem acknowledge_relaunch (hop : o.operationID = c.operationID) (hbytes : bytes ≠ [])
    (h : p.recordPlanRelaunchStep c token .acknowledged bytes sha256 = .ok p') :
    ViewStep p.view (acknowledged (c.stepID token) sha256) p'.view := by
  obtain ⟨o', ho', hof, rfl⟩ := recordPlanRelaunchStep_ok h
  obtain rfl : o = o' := Except.ok.inj ((relaunchOperationFor_of ho hop).symm.trans ho')
  rw [view_insert_relaunch, view_setStep_relaunch, relaunch_stepID hof]
  simp only [Option.map_some, relaunchRow, if_neg hbytes]
  exact .acknowledgeRelaunch (view_relaunches ho)

theorem drop_relaunch (hof : IsOf o c token) (hk : o.steps c.step = some row)
    (hid : row.commandID = c.id) (hpending : row.status = .pending) :
    ViewStep p.view (dropped (c.stepID token)) (p.dropPlanRelaunchStep c).view := by
  rw [relaunch_stepID hof]
  have hpend : (!(o.steps c.step).any
      fun step => step.commandID = c.id && step.status = .pending) = false := by
    simp [hk, hid, hpending]
  simp only [dropPlanRelaunchStep, ho, hpend, Bool.false_eq_true, if_false]
  split_ifs with hleft
  · simp only [Bool.and_eq_true, decide_eq_true_iff, Option.isNone_iff_eq_none] at hleft
    obtain ⟨⟨hstep, -⟩, hreload⟩ := hleft
    rw [view_erase_relaunch]
    refine .dropRelaunch (view_relaunches ho) (.inr ⟨rfl, fun k' hk' => ?_⟩)
    cases k' with
    | urgentLoad => exact absurd hstep.symm hk'
    | victimReload =>
      have hnone : o.steps .victimReload = none := by
        simpa [PlanRelaunchOperation.setStep, hstep] using hreload
      simp [PlanRelaunchOperation.view, hnone]
  · rw [view_insert_relaunch, view_setStep_relaunch]
    exact .dropRelaunch (view_relaunches ho) (.inl rfl)

end

/-- What an admitted relaunch rests on: the stop it follows, and the relaunches recorded before. -/
structure RelaunchLinked (p : DisplacementState) (c : RelaunchCommand) (token : ℤ) : Prop where
  stop : ∃ s, p.ownedStopOperations.lookup c.acceleratorID = some s ∧
    s.operationID = c.operationID ∧ s.fence = token ∧ s.recoveryEpoch = c.recoveryEpoch ∧
    s.view.steps (priorStopStep c.step) = some (some c.priorReceiptSHA256)
  load : c.step = .urgentLoad → p.checkUrgentLoad c = none
  reload : c.step = .victimReload → p.checkVictimReload c = none

theorem checkPlanRelaunchTransition_none (htoken : int64FromArg c.fencingToken = token)
    (h : p.checkPlanRelaunchTransition c = none) : p.RelaunchLinked c token := by
  unfold checkPlanRelaunchTransition at h
  cases hstop : p.linkedStop c with
  | none => simp [hstop] at h
  | some s =>
    simp only [hstop] at h
    split_ifs at h with hprior
    obtain ⟨hs, hlink⟩ := Option.filter_eq_some_iff.1 hstop
    simp only [htoken, Bool.and_eq_true, decide_eq_true_iff] at hlink
    obtain ⟨⟨⟨⟨hop, -⟩, hepoch⟩, hfence⟩, -⟩ := hlink
    obtain ⟨row, hrow, hr⟩ := (Option.any_eq_true _ _).1 (by simpa using hprior)
    simp only [isPrior, Bool.and_eq_true, decide_eq_true_iff] at hr
    obtain ⟨⟨⟨hack, -⟩, -⟩, hsha⟩ := hr
    refine ⟨⟨s, hs, hop, hfence, hepoch, ?_⟩, fun hstep => ?_, fun hstep => ?_⟩
    · simp [OwnedStopOperationState.view, hrow, hack, hsha, StepStatus.receipt]
    all_goals simpa only [hstep] using h

theorem checkUrgentLoad_none (h : p.checkUrgentLoad c = none)
    (ho : p.planRelaunchOperations.lookup c.acceleratorID = some o) :
    o.operationID ≠ c.operationID ∧
      (o.steps .victimReload).any (fun row => row.status = .acknowledged) = true ∧
      o.fence < int64FromArg c.fencingToken := by
  simp only [checkUrgentLoad] at h
  split_ifs at h with hfence
  simp only [ho] at h
  split_ifs at h with hprior
  simpa [and_assoc] using hprior

/-- The operation of an admitted urgent load is new. -/
theorem relaunchOperationFor_load (htoken : int64FromArg c.fencingToken = token)
    (hstep : c.step = .urgentLoad) (h : p.checkUrgentLoad c = none) :
    p.relaunchOperationFor c token .pending = .ok (newRelaunchOperation c token) := by
  cases ho : p.planRelaunchOperations.lookup c.acceleratorID with
  | none => simp [relaunchOperationFor, ho, hstep]
  | some o =>
    obtain ⟨hop, hreload, hfence⟩ := checkUrgentLoad_none h ho
    have hnot : ¬ token ≤ o.fence := by omega
    simp [relaunchOperationFor, ho, hstep, hop, hreload, hnot]

theorem checkVictimReload_none (h : p.checkVictimReload c = none) :
    ∃ o, p.planRelaunchOperations.lookup c.acceleratorID = some o ∧
      IsOf o c (int64FromArg c.fencingToken) ∧
      (∃ r, o.view.steps .urgentLoad = some (some r)) ∧ o.steps .victimReload = none := by
  revert h
  fun_cases checkVictimReload p c with
  | case1 | case2 | case3 => exact nofun
  | case4 o hf hload hused =>
    obtain ⟨ho, hreloads⟩ := Option.filter_eq_some_iff.1 hf
    simp only [reloads, Bool.and_eq_true, decide_eq_true_iff] at hreloads
    simp only [Bool.or_eq_true, not_or, Bool.not_eq_true', Bool.not_eq_false] at hload
    obtain ⟨row, hrow, hr⟩ := (Option.any_eq_true _ _).1 hload.2
    simp only [Bool.and_eq_true, decide_eq_true_iff] at hr
    refine fun _ => ⟨o, ho, ⟨hreloads.1.1.1.1.1.1, hreloads.1.1.1.1.1.2, hreloads.1.1.1.1.2⟩,
      ⟨row.receiptSHA256, ?_⟩, by simpa using hused⟩
    simp [PlanRelaunchOperation.view, hrow, hr.1, StepStatus.receipt]

theorem view_newRelaunchOperation (hop : s.operationID = c.operationID) (hfence : s.fence = token)
    (hepoch : s.recoveryEpoch = c.recoveryEpoch) :
    (newRelaunchOperation c token).view.setStep .urgentLoad (some none) = s.view.firstLoad := by
  ext1
  · exact hop.symm
  · exact hfence.symm
  · exact hepoch.symm
  · rfl

section

variable (hl : p.RelaunchLinked c token) (htoken : int64FromArg c.fencingToken = token)
include hl htoken

theorem RelaunchLinked.step (h : q.recordPlanRelaunchStep c token .pending [] [] = .ok p')
    (hq : q.ownedStopOperations = p.ownedStopOperations)
    (hq' : q.planRelaunchOperations = p.planRelaunchOperations) :
    ViewStep p.view (admitted (c.stepID token) c.priorReceiptSHA256) p'.view := by
  have hview : q.view = p.view := by simp only [view, hq, hq']
  have hfor :
      q.relaunchOperationFor c token .pending = p.relaunchOperationFor c token .pending := by
    simp only [relaunchOperationFor, hq']
  obtain ⟨o, ho, hof, rfl⟩ := recordPlanRelaunchStep_ok h
  obtain ⟨s, hs, hop, hfence, hepoch, hprior⟩ := hl.stop
  rw [hfor] at ho
  rw [view_insert_relaunch, view_setStep_relaunch, hview, relaunch_stepID hof]
  cases hstep : c.step with
  | urgentLoad =>
    rw [hstep] at hprior
    have hload := hl.load hstep
    obtain rfl : newRelaunchOperation c token = o :=
      Except.ok.inj ((relaunchOperationFor_load htoken hstep hload).symm.trans ho)
    have hid : (newRelaunchOperation c token).view.id c.acceleratorID .urgentLoad =
        s.view.firstLoad.id c.acceleratorID .urgentLoad := by
      rw [← view_newRelaunchOperation hop hfence hepoch]
      rfl
    rw [hid]
    show ViewStep _ _ (p.view.setRelaunch _
      (some ((newRelaunchOperation c token).view.setStep .urgentLoad (some none))))
    rw [view_newRelaunchOperation hop hfence hepoch]
    refine .load (view_stops hs) hprior fun l hl' => ?_
    obtain ⟨o', ho', rfl⟩ := Option.map_eq_some_iff.1 hl'
    show o'.operationID ≠ s.operationID
    rw [hop]
    exact (checkUrgentLoad_none hload ho').1
  | victimReload =>
    rw [hstep] at hprior
    obtain ⟨o', ho', hof', ⟨r, hr⟩, hn⟩ := checkVictimReload_none (hl.reload hstep)
    obtain rfl : o' = o := Except.ok.inj ((relaunchOperationFor_of ho' hof'.1).symm.trans ho)
    refine .reload (view_stops hs) (view_relaunches ho') ?_ hprior hr ?_
    · show (⟨_, s.operationID, s.fence, s.recoveryEpoch, _⟩ : StepID) =
        ⟨_, o'.operationID, o'.fence, o'.recoveryEpoch, _⟩
      rw [hop, hfence, hepoch, hof.1, hof.2.1, hof.2.2]
      rfl
    · simp [PlanRelaunchOperation.view, hn]

/-- An admitted relaunch whose step cannot be recorded is not in the journal. -/
theorem RelaunchLinked.drop {e : GoError}
    (h : q.recordPlanRelaunchStep c token .pending [] [] = .error e)
    (hq' : q.planRelaunchOperations = p.planRelaunchOperations) : q.dropPlanRelaunchStep c = q := by
  cases hstep : c.step with
  | urgentLoad =>
    -- such a step is always recorded
    have hfor : q.relaunchOperationFor c token .pending =
        .ok (newRelaunchOperation c token) := by
      rw [← relaunchOperationFor_load htoken hstep (hl.load hstep)]
      simp only [relaunchOperationFor, hq']
    simp [recordPlanRelaunchStep, hfor, keepsIdentity, newRelaunchOperation, hstep] at h
  | victimReload =>
    obtain ⟨o, ho, -, -, hn⟩ := checkVictimReload_none (hl.reload hstep)
    simp [dropPlanRelaunchStep, hq', ho, hstep, hn]

end

theorem handleRelaunch_refines (p : DisplacementState) (c : RelaunchCommand)
    (answer : SupervisorAnswer) : p.Refines (p.handleRelaunch c answer) := by
  unfold handleRelaunch
  cases hfence : fenceTokenFrom 1 ⟨"plan relaunch fence or recovery epoch is invalid", none⟩
      c.fencingToken with
  | error e => exact .silent rfl
  | ok token =>
    cases hcheck : p.checkPlanRelaunchTransition c with
    | some e => exact .silent rfl
    | none =>
      have htoken : int64FromArg c.fencingToken = token := by
        rw [int64FromArg, exactFenceToken_of_fenceTokenFrom hfence]
      have hlinked := checkPlanRelaunchTransition_none htoken hcheck
      simp only
      cases hrecord : recordPlanRelaunchStep { p with
          fences := p.fences.insert (checkpointPlanRelaunchFenceKey c.acceleratorID) token
          pending := p.pending.erase c.id } c token .pending [] [] with
      | error e =>
        simp only [hlinked.drop htoken hrecord rfl]
        exact .silent rfl
      | ok recorded =>
        have hadmit := hlinked.step htoken hrecord rfl rfl
        obtain ⟨o, -, hof, hrec⟩ := recordPlanRelaunchStep_ok hrecord
        have ho : recorded.planRelaunchOperations.lookup c.acceleratorID =
            some (o.setStep c.step (some (relaunchRow c .pending [] []))) := by
          rw [hrec]
          exact AList.lookup_insert _
        simp only
        cases answer with
        | expired =>
          have hdrop (key : GoString) (previous : Option ℤ) :=
            drop_relaunch (p := recorded.restoreFence key previous) ho hof
              (Function.update_self _ _ _) rfl rfl
          exact .two hadmit (hdrop _ _)
        | unanswered retained => exact .one hadmit
        | receipt bytes sha256 =>
          simp only
          split_ifs with hbytes
          · exact .one hadmit
          · cases hsettled : recorded.recordPlanRelaunchStep c token .acknowledged bytes sha256 with
            | error e => exact .one hadmit
            | ok settled => exact .two hadmit (acknowledge_relaunch ho hof.1 hbytes hsettled)

theorem lookup_of_queriedStep {q : RelaunchQuery} (h : p.queriedStep q = some (o, row)) :
    p.planRelaunchOperations.lookup q.acceleratorID = some o := by
  revert h
  fun_cases queriedStep p q with
  | case1 | case2 | case4 => exact nofun
  | case3 o' ho =>
    rintro ⟨⟩
    exact ho

theorem handleRelaunchQuery_refines (p : DisplacementState) (q : RelaunchQuery)
    (bytes sha256 : GoString) : p.Refines (p.handleRelaunchQuery q bytes sha256) := by
  simp only [handleRelaunchQuery, settlePlanRelaunchQuery]
  cases hq : p.queriedStep q with
  | none => exact .silent rfl
  | some found =>
    obtain ⟨o, row⟩ := found
    simp only
    split_ifs with hdone
    · exact .silent rfl
    · have hack : ViewStep p.view (acknowledged (o.view.id q.acceleratorID q.step) sha256)
          (p.view.setRelaunch q.acceleratorID
            (some (o.view.setStep q.step (some (some sha256))))) :=
        .acknowledgeRelaunch (view_relaunches (lookup_of_queriedStep hq))
      refine .one ?_
      have hview := view_insert_relaunch { p with pending := p.pending.erase row.commandID }
        q.acceleratorID (o.setStep q.step (some { row with
          status := .acknowledged, receipt := bytes, receiptSHA256 := sha256 }))
      rw [view_setStep_relaunch] at hview
      exact hview ▸ hack

end Relaunch

end DisplacementState

/-! ## Runs -/

def DisplacementCall.Step (p : DisplacementState) (call : DisplacementCall)
    (p' : DisplacementState) : Prop :=
  p' = (call.exec p).1

def displacementHistory (tr : List (Transition DisplacementState DisplacementCall)) :
    List DisplacementEvent :=
  tr.flatMap fun t => (t.label.exec t.pre).2

theorem DisplacementCall.exec_refines (p : DisplacementState) (call : DisplacementCall) :
    p.Refines (call.exec p) := by
  cases call with
  | stop c answer saved => exact p.handleStop_refines c answer saved
  | stopQuery q sha256 => exact p.handleStopQuery_refines q sha256
  | relaunch c answer => exact p.handleRelaunch_refines c answer
  | relaunchQuery q bytes sha256 => exact p.handleRelaunchQuery_refines q bytes sha256

variable {p : DisplacementState} {tr : List (Transition DisplacementState DisplacementCall)}

/-- **Refinement.** The history of a run of the node is that of a run of the protocol. -/
theorem run_refines (h : Run DisplacementCall.Step {} tr p) :
    ∃ tr', Run ViewStep ({} : DisplacementState).view tr' p.view ∧
      tr'.map (·.label) = displacementHistory tr := by
  induction h with
  | nil => exact ⟨[], .nil, rfl⟩
  | @snoc tr p p' call _ hstep ih =>
    obtain ⟨tr₁, hrun₁, hlabels₁⟩ := ih
    obtain ⟨tr₂, hrun₂, hlabels₂⟩ := call.exec_refines p
    rw [← (show p' = (call.exec p).1 from hstep)] at hrun₂
    refine ⟨tr₁ ++ tr₂, hrun₁.append hrun₂, ?_⟩
    rw [List.map_append, hlabels₁, hlabels₂, displacementHistory, displacementHistory,
      List.flatMap_append]
    simp

theorem consistent_init : Consistent ({} : DisplacementState).view [] where
  consumed hm := by simp at hm
  stop_acknowledged hs := by simp [view] at hs
  relaunch_acknowledged hl := by simp [view] at hl
  stop_open hs := by simp [view] at hs
  relaunch_open hs := by simp [view] at hs
  current hs := by simp [view] at hs

variable {id : StepID} {prior : GoString} {answer : SupervisorAnswer}

theorem DisplacementState.check_of_admitted {c : StopCommand} {saved : Bool}
    (h : admitted id prior ∈ (p.handleStop c answer saved).2) :
    ∃ token, p.checkOwnedStopTransition c = .ok token ∧ id = c.stepID token := by
  revert h
  fun_cases handleStop p c answer saved with
  | case1 | case2 => simp
  | case3 token hcheck | case4 token hcheck | case5 token hcheck | case6 token hcheck =>
    exact fun h => ⟨token, hcheck, (by simpa +zetaDelta using h : _ ∧ _).1⟩

theorem DisplacementState.step_of_admitted {c : RelaunchCommand}
    (h : admitted id prior ∈ (p.handleRelaunch c answer).2) : id.step = .relaunch c.step := by
  have hid {token : ℤ} (hid : id = c.stepID token) : id.step = .relaunch c.step := by
    rw [hid]
    rfl
  revert h
  fun_cases handleRelaunch p c answer with
  | case1 | case7 => simp
  | case2 | case3 | case4 | case5 | case6 =>
    exact fun h => hid (by simpa +zetaDelta using h : _ ∧ _).1

theorem OwnedStopOperationState.acknowledged_of_allSettled {s : OwnedStopOperationState}
    (h : s.allSettled = true) {k : StopStep} {row : OwnedStopStepState}
    (hk : s.steps k = some row) : row.status = .acknowledged := by
  have hall := List.all_eq_true.1 h k (by cases k <;> simp)
  simpa [hk] using hall

theorem new_operation_of_admitted {call : DisplacementCall} {id : StepID} {prior : GoString}
    {step : StopStep} (h : admitted id prior ∈ (call.exec p).2) (hid : id.step = .stop step)
    (hnew : ∀ s, p.ownedStopOperations.lookup id.acceleratorID = some s →
      s.operationID ≠ id.operationID) :
    step = .victimStop ∧ p.stopFence id.acceleratorID < id.fence ∧
      ∀ s, p.ownedStopOperations.lookup id.acceleratorID = some s →
        ∀ k row, s.steps k = some row → row.status = .acknowledged := by
  cases call with
  | stop c answer saved =>
    obtain ⟨token, hcheck, rfl⟩ := check_of_admitted h
    obtain rfl : c.step = step := by simpa [StopCommand.stepID] using hid
    cases (checkOwnedStopTransition_ok hcheck).2 with
    | first hstep hfence hprior =>
      exact ⟨hstep, hfence, fun s hs k row => s.acknowledged_of_allSettled (hprior s hs).2.2⟩
    | next hs hof _ _ => exact absurd (isOf_iff.1 hof).1 (hnew _ hs)
  | stopQuery q sha256 =>
    simp only [DisplacementCall.exec, handleStopQuery] at h
    split at h
    next => simp at h
    next => split at h <;> simp at h
  | relaunch c answer =>
    rw [step_of_admitted h] at hid
    cases hid
  | relaunchQuery q bytes sha256 =>
    simp [DisplacementCall.exec, handleRelaunchQuery] at h

/-- **The steps of displacements are in order.** An admission follows the acknowledgements it rests
on, is the only one of its step that was not dropped and is not of a superseded operation. The first
stop of an operation raises the fence, once the operation before is acknowledged. -/
theorem displacement_in_order (h : Run DisplacementCall.Step {} tr p) :
    (∀ h₁ id prior h₂, displacementHistory tr = h₁ ++ admitted id prior :: h₂ →
      InOrder h₁ id prior) ∧
    ∀ t ∈ tr, ∀ id prior step, admitted id prior ∈ (t.label.exec t.pre).2 →
      id.step = .stop step →
      (∀ s, t.pre.ownedStopOperations.lookup id.acceleratorID = some s →
        s.operationID ≠ id.operationID) →
      step = .victimStop ∧ t.pre.stopFence id.acceleratorID < id.fence ∧
        ∀ s, t.pre.ownedStopOperations.lookup id.acceleratorID = some s →
          ∀ k row, s.steps k = some row → row.status = .acknowledged := by
  obtain ⟨tr', hrun, hlabels⟩ := run_refines h
  refine ⟨fun h₁ id prior h₂ hh => ?_, fun t _ id prior step hadm hstep hnew => ?_⟩
  · exact consistent_init.run_inOrder hrun (hlabels.trans hh)
  · exact new_operation_of_admitted hadm hstep hnew

/-! ### A displacement -/

def sampleStop (id : GoString) (step : StopStep) : StopCommand where
  id := id
  idempotencyKey := id
  acceleratorID := "gpu"
  operationID := "op"
  step := step
  recoveryEpoch := "e"
  fencingToken := some (.integer 1)
  envelopeSHA256 := id

def sampleRelaunch (id : GoString) (step : RelaunchStep) (prior : GoString) (catalog : GoString) :
    RelaunchCommand where
  id := id
  idempotencyKey := id
  step := step
  acceleratorID := "gpu"
  operationID := "op"
  targetID := "t"
  workloadID := "w"
  workloadRevision := some (.integer 1)
  recoveryEpoch := "e"
  fencingToken := some (.integer 1)
  catalogID := catalog
  linkedCatalogID := "victim"
  priorCommandID := prior
  priorIdempotencyKey := prior
  priorReceiptSHA256 := prior
  envelope := id
  envelopeSHA256 := id

/-- The first stop expires and is sent again, and the load is acknowledged by a query. -/
def sampleCalls : List DisplacementCall :=
  [.stop (sampleStop "0" .victimStop) .expired true,
    .stop (sampleStop "1" .victimStop) (.receipt "r" "1") true,
    .relaunch (sampleRelaunch "2" .urgentLoad "1" "urgent") (.unanswered true),
    .relaunchQuery ⟨"gpu", "op", .urgentLoad, "2", "2"⟩ "r" "2",
    .stop (sampleStop "3" .urgentStop) (.receipt "r" "3") true,
    .relaunch (sampleRelaunch "4" .victimReload "3" "victim") (.receipt "r" "4")]

def sampleTransitions : List (Transition DisplacementState DisplacementCall) :=
  Run.script (fun p (call : DisplacementCall) => (call.exec p).1) {}
    (sampleCalls.map fun call _ => call)

def sampleStepID (step : DisplacementStepName) : StepID := ⟨"gpu", "op", 1, "e", step⟩

/-- All four steps are admitted and acknowledged in order. -/
theorem displacement_completed : displacementHistory sampleTransitions =
      [admitted (sampleStepID (.stop .victimStop)) [], dropped (sampleStepID (.stop .victimStop)),
        admitted (sampleStepID (.stop .victimStop)) [],
        acknowledged (sampleStepID (.stop .victimStop)) "1",
        admitted (sampleStepID (.relaunch .urgentLoad)) "1",
        acknowledged (sampleStepID (.relaunch .urgentLoad)) "2",
        admitted (sampleStepID (.stop .urgentStop)) [],
        acknowledged (sampleStepID (.stop .urgentStop)) "3",
        admitted (sampleStepID (.relaunch .victimReload)) "3",
        acknowledged (sampleStepID (.relaunch .victimReload)) "4"] ∧
    ∀ h₁ id prior h₂, displacementHistory sampleTransitions = h₁ ++ admitted id prior :: h₂ →
      InOrder h₁ id prior := by
  have hrun : Run DisplacementCall.Step {} sampleTransitions _ :=
    Run.of_script _ (fun _ _ _ => rfl) _
  exact ⟨by decide +kernel, (displacement_in_order hrun).1⟩

end VramGovernor.NodeAgent
