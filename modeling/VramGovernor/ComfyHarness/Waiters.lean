import VramGovernor.ComfyHarness.Panics

/-!
# Requests that wait for a run

A request to yield or to checkpoint registers a channel for its execution and waits until it is
closed, as the sections that end a run do (`notifyLocked`). Others take the execution out of running
and leave the channels: `markSubmissionUnknown`, an acceptance that could not be recorded, a cancel
request. The run then ends in silence, and the request waits on (`waiter_left_behind`). Without such
sections no channel is registered when no run is left (`waiters_woken`), since a running execution
has a run of its epoch (`Cell.Driven`).
-/

namespace VramGovernor.ComfyHarness

open GoString

/-- The next section of a run takes its execution out of running and wakes no one: that of
`markSubmissionUnknown`, and a failed write of an accepted prompt. -/
def RunRoutine.leavesSilently (refused : Commit → Writes → Bool) (e : Option Execution)
    (a : RunAnswer) (r : RunRoutine) : Bool :=
  match r.place with
  | .chunk _ (.marking _) => true
  | .chunk _ (.accepting promptID) => e.any fun e => refused (e.accept promptID) a.writes
  | _ => false

/-- The same of a control request: one to cancel, unless nothing was submitted and its first write
succeeds. -/
def ControlRoutine.leavesSilently (refused : Commit → Writes → Bool) (e : Option Execution)
    (a : ControlAnswer) (c : ControlRoutine) : Bool :=
  match c.place with
  | .queued _ _ => true
  | .entered =>
    c.operation = .cancel && e.any fun e =>
      e.submission ≠ .unset || e.currentPrompt ≠ [] || refused e.cancelUnsubmitted a.writes
  | _ => false

/-- Such a section is next, with a channel registered for its execution. -/
def leavesWaiter (o : HarnessOptions) (t : Transition Harness HarnessEvent) : Bool :=
  let h := t.pre
  h.process = .up &&
    match t.label with
    | .proceedRun i a => h.runs[i]?.any fun r => (h.waiters.lookup r.id).isSome &&
        r.leavesSilently (h.refuses o) (h.executions.get r.id) a
    | .proceedControl j a => h.controls[j]?.any fun c => (h.waiters.lookup c.id).isSome &&
        c.leavesSilently (h.refuses o) (h.executions.get c.id) a
    | _ => false

/-- The same for the cell of the execution. -/
def Cell.LeavesWaiter (refused : Commit → Writes → Bool) (c : Cell) (event : HarnessEvent) : Prop :=
  c.process = .up ∧ c.waiters ≠ none ∧
    ((∃ i a r, event = .proceedRun i a ∧ c.runs i = some r ∧
        r.leavesSilently refused c.mem a = true) ∨
      ∃ j a r, event = .proceedControl j a ∧ c.controls j = some r ∧
        r.leavesSilently refused c.mem a = true)

theorem leavesWaiter_cell {o : HarnessOptions} {h h' : Harness} {event : HarnessEvent}
    {id : GoString} (hno : leavesWaiter o ⟨h, event, h'⟩ = false) :
    ¬(h.cell id).LeavesWaiter (h.refuses o) event := by
  rintro ⟨hup, hw, ⟨i, a, r, rfl, hview, hsilent⟩ | ⟨j, a, r, rfl, hview, hsilent⟩⟩
  · obtain ⟨hr, rfl⟩ := cell_runs.1 hview
    have hw : (h.waiters.lookup r.id).isSome = true := Option.isSome_iff_ne_none.2 hw
    have hsilent : r.leavesSilently (h.refuses o) (h.executions.get r.id) a = true := hsilent
    have hup : h.process = .up := hup
    simp [leavesWaiter, hup, hr, hw, hsilent] at hno
  · obtain ⟨hc, rfl⟩ := cell_controls.1 hview
    have hw : (h.waiters.lookup r.id).isSome = true := Option.isSome_iff_ne_none.2 hw
    have hsilent : r.leavesSilently (h.refuses o) (h.executions.get r.id) a = true := hsilent
    have hup : h.process = .up := hup
    simp [leavesWaiter, hup, hc, hw, hsilent] at hno

def RunRoutine.Live (r : RunRoutine) : Prop := r.place ≠ .exiting ∧ r.place ≠ .gone

/-- A running execution has a run of its epoch. -/
def Cell.Driven (c : Cell) : Prop :=
  ∀ e, c.mem = some e → e.state = .running → ∃ i r, c.runs i = some r ∧ r.epoch = e.epoch ∧ r.Live

theorem Cell.setRun_self (c : Cell) (i : ℕ) (r : RunRoutine) : (c.setRun i r).runs i = some r :=
  Function.update_self ..

section Runs

variable {o : HarnessOptions} {h h' : Harness} {event : HarnessEvent} {i : ℕ} {a : RunAnswer}
  {r : RunRoutine} {e mem : Execution} {k : Commit} {place written unwritten : RunPlace}
  {disk disk' : Option Execution} {ok : Bool} {refused : Commit → Writes → Bool}

/-- A section after which the execution runs on is one of a run that goes on. -/
theorem RunSection.runs_on (hsection : RunSection e place k written unwritten)
    (heffect : Effect k a.writes disk mem disk' ok) (hstate : mem.state = .running) :
    e.state = .running ∧ mem.epoch = e.epoch ∧ (if ok then written else unwritten) ≠ .exiting ∧
      (if ok then written else unwritten) ≠ .gone := by
  cases hsection with
  | boundary =>
    cases heffect with
    | written =>
      simp only [Execution.reachBoundary] at hstate
      split at hstate <;> cases hstate
    | kept | torn | rewritten => cases hstate
  | complete | refuse | submit | accept | acceptLate | unknown | failed | unresolved | missReference
  | advance => cases heffect <;> first | cases hstate | exact ⟨hstate, rfl, by simp, by simp⟩

theorem ControlSection.runs_on {op : Operation} {idle : Prop} {notice : ControlNotice}
    {place written : ControlPlace} {a : ControlAnswer}
    (hsection : ControlSection op idle e place k notice written)
    (heffect : Effect k a.writes disk mem disk' ok) (hstate : mem.state = .running) :
    e.state = .running ∧ mem.epoch = e.epoch := by
  cases hsection <;> cases heffect <;> first | cases hstate | exact ⟨hstate, rfl⟩

/-- A section of a run keeps the execution running, unless it ends the run or leaves silently. -/
theorem RunSection.keeps_running (hsection : RunSection e r.place k written unwritten)
    (heffect : Effect k a.writes disk mem disk' ok) (hok : ok = !refused k a.writes)
    (hsilent : r.leavesSilently refused (some e) a ≠ true) (hstate : e.state = .running)
    (hgoes : (if ok then written else unwritten) ≠ .exiting) : mem.state = .running := by
  unfold RunRoutine.leavesSilently at hsilent
  generalize r.place = place at hsection hsilent
  obtain ⟨rfl, rfl⟩ | ⟨rfl, rfl⟩ := heffect.mem_eq
  · cases hsection with
    | submit | accept | acceptLate | advance => exact hstate
    | unknown => exact absurd rfl hsilent
    | complete | refuse | failed | unresolved | missReference | boundary => exact absurd rfl hgoes
  · cases hsection with
    | accept => exact absurd (by simpa using hok.symm) hsilent
    | acceptLate => exact hstate
    | unknown => exact absurd rfl hsilent
    | complete | refuse | submit | failed | unresolved | missReference | boundary | advance =>
      exact absurd rfl hgoes

/-- A section of a control request does, unless it wakes the waiting requests or leaves silently. -/
theorem ControlSection.keeps_running {c : ControlRoutine} {a : ControlAnswer} {idle : Prop}
    {notice : ControlNotice} {written : ControlPlace}
    (hsection : ControlSection c.operation idle e c.place k notice written)
    (heffect : Effect k a.writes disk mem disk' ok) (hok : ok = !refused k a.writes)
    (hsilent : c.leavesSilently refused (some e) a ≠ true) (hstate : e.state = .running)
    (hwake : ok = true → notice ≠ .wake) : mem.state = .running := by
  unfold ControlRoutine.leavesSilently at hsilent
  generalize c.place = place at hsection hsilent
  cases hsection with
  | request => cases heffect <;> exact hstate
  | giveUpQueued | cancelProven => exact absurd rfl hsilent
  | stopFailed _ hcancelling | stopConfirmed _ hcancelling => cases hcancelling.symm.trans hstate
  | cancelUnsubmitted hop =>
    cases ok with
    | true => exact absurd rfl (hwake rfl)
    | false =>
      have hrefused : refused e.cancelUnsubmitted a.writes = true := by simpa using hok.symm
      simp [hop, hrefused] at hsilent
  | giveUp hop _ hsubmitted =>
    simp only [hop, decide_true, Bool.true_and, Option.any_some] at hsilent
    simp_all
  | cancelIntent hop _ _ _ hprompt => simp [hop, hprompt] at hsilent

section Cells

variable {c c' : Cell} {id : GoString}

/-- A step of a run, after which an execution that runs on has the same epoch. -/
theorem Cell.Driven.setRun (hd : c.Driven) (hr : c.runs i = some r)
    (hruns : c'.runs = (c.setRun i { r with place := place }).runs)
    (hmem : ∀ e', c'.mem = some e' → e'.state = .running →
      ∃ e, c.mem = some e ∧ e.state = .running ∧ e'.epoch = e.epoch ∧
        (r.epoch = e.epoch → r.Live → place ≠ .exiting ∧ place ≠ .gone)) : c'.Driven := by
  intro e' he' hstate'
  obtain ⟨e, he, hstate, hsame, hplace⟩ := hmem e' he' hstate'
  obtain ⟨j, r₀, hr₀, hepoch, hlive⟩ := hd e he hstate
  rw [hruns, hsame]
  by_cases hj : j = i
  · subst hj
    obtain rfl := Option.mem_unique hr hr₀
    exact ⟨j, _, c.setRun_self j _, hepoch, hplace hepoch hlive⟩
  · exact ⟨j, r₀, (Function.update_of_ne hj ..).trans hr₀, hepoch, hlive⟩

theorem Cell.Driven.step (hd : c.Driven) (hstep : CellStep refused id c event c') : c'.Driven := by
  have hloaded (e : Execution) : e.loaded.state ≠ .running := by
    simp only [Execution.loaded, Execution.recovered, Execution.requiresRestartRecovery]
    split_ifs with hrecovered <;> simp_all
  cases hstep with
  | keep => exact hd
  | restart hload =>
    intro e he hstate
    cases hload with
    | rejected => cases he
    | kept | written =>
      obtain ⟨e₀, -, rfl⟩ := Option.map_eq_some_iff.1 he
      exact absurd hstate (hloaded e₀)
  | active _ hactive =>
    cases hactive with
    | keep | sync | panic | enter | moveControl => exact hd
    | created | resumed =>
      rintro e ⟨rfl⟩ -
      exact ⟨_, _, Cell.setRun_self .., rfl, by rintro ⟨⟩, by rintro ⟨⟩⟩
    | uncreated => rintro e ⟨⟩
    | unresumed _ hstate heffect =>
      rintro e ⟨rfl⟩ hrunning
      obtain ⟨hok, -⟩ | ⟨-, rfl⟩ := heffect.mem_eq
      · cases hok
      · rcases hstate with hstate | hstate <;> cases hstate.symm.trans hrunning
    | post _ hr | repost _ hr | observe hr =>
      refine hd.setRun hr rfl fun e he hstate => ⟨e, he, hstate, rfl, fun _ _ => ?_⟩
      constructor <;> rintro ⟨⟩
    | @moveRun i a r place hr hmove hleaves =>
      refine hd.setRun hr rfl fun e he hstate => ⟨e, he, hstate, rfl, fun hepoch hlive => ?_⟩
      refine ⟨fun hexit => hleaves hexit e he hstate hepoch.symm, ?_⟩
      rintro rfl
      have hexiting := hlive.1
      generalize r.place = old at hmove hexiting
      cases hmove
      exact hexiting rfl
    | sectionRun hr he hsection heffect =>
      refine hd.setRun hr rfl ?_
      rintro e' ⟨rfl⟩ hstate
      obtain ⟨hrunning, hepoch, hplace⟩ := hsection.runs_on heffect hstate
      exact ⟨_, he, hrunning, hepoch, fun _ _ => hplace⟩
    | sectionControl _ he hsection heffect =>
      rintro e' ⟨rfl⟩ hstate
      obtain ⟨hrunning, hepoch⟩ := hsection.runs_on heffect hstate
      rw [hepoch]
      exact hd _ he hrunning

/-- An execution that is waited for is running. -/
def Cell.Waited (c : Cell) : Prop := c.waiters ≠ none → ∃ e, c.mem = some e ∧ e.state = .running

theorem Cell.Waited.step (h : c.Waited) (hsound : Sound c) (hno : ¬c.LeavesWaiter refused event)
    (hstep : CellStep refused id c event c') : c'.Waited := by
  cases hstep with
  | keep => exact h
  | restart => exact fun hw => absurd rfl hw
  | active hup hactive =>
    cases hactive with
    | keep | sync | panic | enter | moveRun | post | repost | observe | moveControl => exact h
    | created | resumed => exact fun _ => ⟨_, rfl, rfl⟩
    | uncreated _ _ hnew =>
      intro hw
      obtain ⟨e, he, -⟩ := h hw
      cases hnew.symm.trans (hsound.held e (.inl he)).planned
    | unresumed he hboundary =>
      intro hw
      obtain ⟨e', he', hstate⟩ := h hw
      obtain rfl := Option.mem_unique he he'
      rcases hboundary with hboundary | hboundary <;> cases hboundary.symm.trans hstate
    | @sectionRun i a r e mem k written unwritten disk ok hr he hsection heffect hok =>
      intro hw
      have hgoes : (if ok then written else unwritten) ≠ .exiting := fun hexit =>
        hw (if_pos hexit)
      have hw : c.waiters ≠ none := fun hnone => hw ((if_neg hgoes).trans hnone)
      obtain ⟨e', he', hstate⟩ := h hw
      obtain rfl := Option.mem_unique he he'
      refine ⟨mem, rfl, hsection.keeps_running heffect hok (fun hsilent => ?_) hstate hgoes⟩
      exact hno ⟨hup, hw, .inl ⟨i, a, r, rfl, hr, he ▸ hsilent⟩⟩
    | @sectionControl j a r e mem k notice written disk ok next hr he hsection heffect hok =>
      intro hw
      by_cases hnone : c.waiters = none
      · -- Only a request to yield or to checkpoint registers a first channel.
        generalize r.place = place at hsection
        cases heffect with
        | kept | torn | rewritten => exact absurd hnone hw
        | written =>
          cases hsection with
          | request _ _ hstate => exact ⟨_, rfl, hstate⟩
          | cancelUnsubmitted | cancelProven | stopConfirmed => exact absurd rfl hw
          | giveUp | giveUpQueued | cancelIntent | stopFailed => exact absurd hnone hw
      · obtain ⟨e', he', hstate⟩ := h hnone
        obtain rfl := Option.mem_unique he he'
        refine ⟨mem, rfl, hsection.keeps_running heffect hok (fun hsilent => ?_) hstate ?_⟩
        · exact hno ⟨hup, hnone, .inr ⟨j, a, r, rfl, hr, he ▸ hsilent⟩⟩
        · rintro rfl rfl
          exact hw rfl

end Cells

/-! ## Channels -/

/-- The channels that are closed or registered for an execution. -/
def Harness.channels (h : Harness) (id : GoString) : List ℕ :=
  h.closedWaits ++ (h.waiters.lookup id).getD []

/-- A request that waits has its channel among them. -/
def Harness.Heard (h : Harness) : Prop :=
  ∀ c ∈ h.controls, ∀ n, c.place = .waiting n → n ∈ h.channels c.id

theorem Harness.Heard.notify (hheard : h.Heard) (id : GoString) : (notifyLocked h id).Heard := by
  intro c hc n hn
  have hold := hheard c hc n hn
  simp only [Harness.channels, notifyLocked, GoMap.lookup_erase_of] at hold ⊢
  grind

theorem Harness.Heard.notice (hheard : h.Heard) (notice : ControlNotice) (id : GoString) :
    (notice.apply h id).Heard := by
  cases notice with
  | silent => exact hheard
  | wake => exact hheard.notify id
  | await =>
    intro c hc n hn
    have hold := hheard c hc n hn
    simp only [Harness.channels, ControlNotice.apply, awaitLocked, GoMap.lookup_insert_of] at hold ⊢
    grind

theorem Harness.Heard.moveControl {j : ℕ} {c : ControlRoutine} {place : ControlPlace}
    (hheard : h.Heard) (hplace : ∀ n, place = .waiting n → n ∈ h.channels c.id) :
    (h.moveControl j c place).Heard := by
  intro c' hc' n hn
  rcases List.mem_or_eq_of_mem_set hc' with hc' | rfl
  · exact hheard c' hc' n hn
  · exact hplace n hn

theorem controlAction_waiting {c : ControlRoutine} {a : ControlAnswer} {notice : ControlNotice}
    {n : ℕ} (haction : controlAction h c a = .write k notice (.waiting n)) :
    notice = .await ∧ n = h.nextWait := by
  have hacts := controlAction_spec (a := a) (h := h) (c := c) fun _ => True.intro
  rw [haction] at hacts
  generalize hplace : c.place = place at hacts
  cases hacts with
  | write he hsection =>
    cases hsection
    simp only [controlAction, hplace, he, cancelEntered] at haction
    grind

theorem Harness.Heard.step (hheard : h.Heard) (hstep : HarnessStep o h event h') : h'.Heard := by
  have hcommit (k : Commit) (w : Writes) : (commit o h k w).1.Heard := by
    obtain ⟨t, d, hframe⟩ := commit_frame o h k w
    rw [hframe]
    exact hheard
  cases step_change hstep with
  | keep | close => exact hheard
  | enter =>
    intro c hc n hn
    rcases of_mem_snoc hc with hc | rfl
    · exact hheard c hc n hn
    · cases hn
  | restart readable w =>
    have hrestart := restart_spec o h readable w
    generalize restart o h readable w = h' at hrestart
    cases hrestart <;> rintro c ⟨⟩
  | @start r id' w _ hup hstart =>
    cases hstart with
    | keep => exact hheard
    | @create chunks =>
      have hwrite := persistLocked_spec o (h.withExecution r chunks id') w.first
      generalize persistLocked o (h.withExecution r chunks id') w.first = p at hwrite
      cases hwrite <;> exact hheard
    | @resume e =>
      dsimp only
      split <;> exact hcommit e.resume w
  | @run i r hup hr a =>
    unfold runStep
    cases runAction r.epoch (h.executions.get r.id) a r.place with
    | write k written unwritten =>
      have hafter (place : RunPlace) : Harness.Heard (if place = .exiting then
          notifyLocked (commit o h k a.writes).1 r.id else (commit o h k a.writes).1) := by
        split
        · exact (hcommit k a.writes).notify r.id
        · exact hcommit k a.writes
      exact hafter _
    | stay | panic | post | observe | move => exact hheard
  | @control j c hup hc a =>
    have hacts := controlAction_spec (a := a) (h := h) (c := c) fun _ => True.intro
    unfold controlStep
    cases haction : controlAction h c a with
    | stay | panic => exact hheard
    | move place =>
      rw [haction] at hacts
      refine hheard.moveControl fun n hn => ?_
      generalize c.place = old at hacts
      cases hacts with
      | move hmove => cases hmove <;> cases hn
    | write k notice written =>
      dsimp only
      split
      · refine ((hcommit k a.writes).notice notice c.id).moveControl fun n hn => ?_
        obtain ⟨rfl, rfl⟩ := controlAction_waiting (hn ▸ haction)
        obtain ⟨t, d, hframe⟩ := commit_frame o h k a.writes
        simp [Harness.channels, ControlNotice.apply, awaitLocked, hframe]
      · exact (hcommit k a.writes).moveControl fun n hn => by cases hn

end Runs

/-- **Waiting requests are woken**, if no step takes an execution out of running past its channels:
an execution without a run has no channel, and a request that waits for it goes on. -/
theorem waiters_woken {o : HarnessOptions} {tr : List (Transition Harness HarnessEvent)}
    {h : Harness} (hrun : Run (HarnessStep o) {} tr h) (hno : ∀ t ∈ tr, leavesWaiter o t = false)
    (id : GoString) (hidle : h.activeRuns id = 0) :
    h.waiters.lookup id = none ∧ ∀ c ∈ h.controls, c.id = id → ∀ n, c.place = .waiting n →
      ∀ a, controlAction h c a = .move .woken := by
  obtain ⟨hcells, hheard⟩ : (∀ id, Sound (h.cell id) ∧ (h.cell id).Driven ∧ (h.cell id).Waited) ∧
      h.Heard := by
    refine hrun.invariant_of hno (I := fun h => (∀ id, Sound (h.cell id) ∧ (h.cell id).Driven ∧
      (h.cell id).Waited) ∧ h.Heard) ?_ fun h₁ event h₂ hinv hstep hno => ?_
    · exact ⟨fun id => ⟨.empty, fun e => nofun, fun hw => absurd rfl hw⟩, nofun⟩
    · refine ⟨fun id => ?_, hinv.2.step hstep⟩
      obtain ⟨hsound, hdriven, hwaited⟩ := hinv.1 id
      have hcell := step_cell hstep id
      exact ⟨hsound.step hcell, hdriven.step hcell,
        hwaited.step hsound (leavesWaiter_cell hno) hcell⟩
  obtain ⟨-, hdriven, hwaited⟩ := hcells id
  have hnone : h.waiters.lookup id = none := by
    by_contra hw
    obtain ⟨e, he, hstate⟩ := hwaited hw
    obtain ⟨i, r, hr, -, hlive⟩ := hdriven e he hstate
    obtain ⟨hget, hid⟩ := cell_runs.1 hr
    have hgone := List.countP_eq_zero.1 hidle r (List.mem_of_getElem? hget)
    exact hlive.2 (by simpa [hid] using hgone)
  refine ⟨hnone, fun c hc hid n hn a => ?_⟩
  have hclosed := hheard c hc n hn
  rw [Harness.channels, hid, hnone, Option.getD_none, List.append_nil] at hclosed
  simp only [controlAction, hn, if_pos hclosed]

/-- A request to yield waits when the first chunk is sent, and the run goes on after the reply. -/
def yieldDuring (reply : PostReply) : List HarnessEvent :=
  [.start twoChunks "exec" {}, .proceedRun 0 {}, .control "exec" .yield, .proceedControl 0 {},
    .proceedRun 0 {}, .proceedRun 0 { reply := reply }] ++ List.replicate 4 (.proceedRun 0 {})

theorem waiters_woken_rejected :
    (Harness.after (yieldDuring (.rejected []))).activeRuns "exec" = 0 ∧
      (Harness.after (yieldDuring (.rejected []))).waiters.lookup (ofString "exec") = none :=
  ⟨by decide +kernel, (waiters_woken (run_after _) (by decide +kernel) _ (by decide +kernel)).1⟩

/-- **A waiter is left behind.** The outcome of a POST is unknown, `markSubmissionUnknown` wakes no
one, and the run ends in silence. -/
theorem waiter_left_behind :
    Run (HarnessStep smallHarness) {} (Harness.transitions (yieldDuring (.ambiguous [])))
        (Harness.after (yieldDuring (.ambiguous []))) ∧
      (Harness.after (yieldDuring (.ambiguous []))).activeRuns "exec" = 0 ∧
      (Harness.after (yieldDuring (.ambiguous []))).waiters.lookup (ofString "exec") = some [0] ∧
      (Harness.after (yieldDuring (.ambiguous []))).controls = [⟨"exec", .yield, .waiting 0⟩] ∧
      (Harness.after (yieldDuring (.ambiguous []))).closedWaits = [] :=
  ⟨run_after _, by decide +kernel⟩

end VramGovernor.ComfyHarness
