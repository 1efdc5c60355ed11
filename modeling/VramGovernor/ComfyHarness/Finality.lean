import VramGovernor.ComfyHarness.Custody

/-!
# Terminal states

An execution that is completed, failed or cancelled on disk is so in memory, and no section changes
it, with two exceptions: a write that is reported as failed after it took effect, and a cancel
request that comes back from reading the queue and does not look whether the execution has ended
meanwhile. `terminal_state_final` is about the runs without either, and
`cancelled_becomes_uncertain` is a run with the second.
-/

namespace VramGovernor.ComfyHarness

open GoString HarnessEvent

def Harness.durable (h : Harness) (id : GoString) : Option Execution := h.disk.bind (·.get id)

/-- A terminal state on disk is the state in memory, unless the process did not start. -/
def Cell.Final (c : Cell) : Prop :=
  c.process ≠ .down → ∀ e, c.disk = some e → legacyTerminalState e.state = true →
    ∃ e', c.mem = some e' ∧ e'.state = e.state

/-- A terminal state on disk stays. -/
def Cell.KeepsEnd (c c' : Cell) : Prop :=
  ∀ e, c.disk = some e → legacyTerminalState e.state = true →
    ∃ e', c'.disk = some e' ∧ e'.state = e.state

/-- No write of a request or a run is reported as failed after it took effect. -/
def HarnessEvent.untorn : HarnessEvent → Bool
  | .start _ _ w => w.first ≠ .torn
  | .proceedRun _ a => a.writes.first ≠ .torn
  | .proceedControl _ a => a.writes.first ≠ .torn
  | .control _ _ | .close | .restart _ _ => true

/-- A cancel request comes back from reading the queue to an execution that has ended. -/
def returnsToEnded (h : Harness) : HarnessEvent → Bool
  | .proceedControl j _ =>
    match h.controls[j]? with
    | some ⟨id, _, .queued _ _⟩ =>
      ((h.executions.get id).map (legacyTerminalState ·.state)).getD false
    | _ => false
  | _ => false

section Sections

variable {c : Cell} {e : Execution} {k : Commit}

theorem legacyTerminal_atRest {state : ExecutionState} (h : legacyTerminalState state = true) :
    atRest state = true := by
  cases state <;> simp_all [legacyTerminalState, atRest]

/-- The sections of a run change no execution that has ended. -/
theorem RunSection.unended {place written unwritten : RunPlace}
    (hsection : RunSection e place k written unwritten) (hs : Shape e)
    (hnamed : ∀ ch stage, place = .chunk ch stage → ch.id ≠ []) :
    legacyTerminalState e.state = false := by
  have hsubmitted (hsub : e.submission ≠ .unset) : legacyTerminalState e.state = false := by
    by_contra hend
    exact hsub (hs.settled (legacyTerminal_atRest (by simpa using hend)))
  have hrunning (hstate : e.state = .running) : legacyTerminalState e.state = false := by
    simp [hstate, legacyTerminalState]
  cases hsection with
  | complete hstate | refuse hstate | submit hstate | failed hstate | unresolved hstate
  | missReference hstate | boundary hstate | advance hstate => exact hrunning hstate
  | accept _ hsubmitting | unknown hsubmitting => exact hsubmitted (by simp [hsubmitting])
  | acceptLate _ hchunk =>
    refine hsubmitted fun hunset => hnamed _ _ rfl ?_
    rw [← hchunk]
    exact (hs.unsubmitted hunset).1

/-- Nor do those of a control request, unless it comes back from reading the queue. -/
theorem ControlSection.unended {op : Operation} {idle : Prop} {notice : ControlNotice}
    {place written : ControlPlace} (hsection : ControlSection op idle e place k notice written)
    (hqueued : ∀ epoch b, place = .queued epoch b → legacyTerminalState e.state = false) :
    legacyTerminalState e.state = false := by
  have hfree (hrest : atRest e.state = false) : legacyTerminalState e.state = false := by
    by_contra hend
    rw [legacyTerminal_atRest (by simpa using hend)] at hrest
    cases hrest
  cases hsection with
  | cancelUnsubmitted _ hrest | giveUp _ hrest | cancelIntent _ hrest => exact hfree hrest
  | giveUpQueued | cancelProven => exact hqueued _ _ rfl
  | stopFailed _ hstate | stopConfirmed _ hstate | request _ _ hstate =>
    simp [hstate, legacyTerminalState]

/-- **A commit of an execution that has not ended.** -/
theorem Cell.Final.commit (h : c.Final) (hup : c.process = .up) (he : c.mem = some e)
    (hend : legacyTerminalState e.state = false) {w : Writes} {mem : Execution}
    {disk : Option Execution} {ok : Bool} (hw : w.first ≠ .torn)
    (heffect : Effect k w c.disk mem disk ok) :
    (c.record mem disk).Final ∧ c.KeepsEnd (c.record mem disk) := by
  have hopen (e' : Execution) (he' : c.disk = some e') : legacyTerminalState e'.state = false := by
    by_contra hend'
    obtain ⟨e₀, he₀, hstate⟩ := h (by simp [hup]) e' he' (by simpa using hend')
    obtain rfl : e = e₀ := Option.mem_unique he he₀
    rw [hstate] at hend
    exact hend' hend
  constructor
  · intro _ e' he' hend'
    cases heffect with
    | written | rewritten =>
      obtain rfl := Option.some.inj he'
      exact ⟨_, rfl, rfl⟩
    | kept =>
      rw [hopen e' he'] at hend'
      cases hend'
    | torn htorn => exact absurd htorn hw
  · intro e' he' hend'
    rw [hopen e' he'] at hend'
    cases hend'

end Sections

section Steps

variable {refused : Commit → Writes → Bool} {c c' : Cell} {id : GoString} {event : HarnessEvent}

/-- A cancel request of the cell comes back to an execution that has ended. -/
def Cell.ReturnsToEnded (c : Cell) (event : HarnessEvent) : Prop :=
  ∃ j a r epoch b e, event = .proceedControl j a ∧ c.controls j = some r ∧
    r.place = .queued epoch b ∧ c.mem = some e ∧ legacyTerminalState e.state = true

/-- A change that leaves the records and the process as they are. -/
theorem Cell.Final.same (h : c.Final) (hprocess : c'.process = c.process) (hmem : c'.mem = c.mem)
    (hdisk : c'.disk = c.disk) : c'.Final ∧ c.KeepsEnd c' := by
  constructor
  · intro hdown e he
    rw [hmem]
    exact h (hprocess ▸ hdown) e (hdisk ▸ he)
  · intro e he _
    exact ⟨e, hdisk.trans he, rfl⟩

theorem Cell.Final.synced (h : c.Final) (hup : c.process = .up) :
    c.synced.Final ∧ c.KeepsEnd c.synced := by
  constructor
  · intro _ e he _
    obtain ⟨e₀, he₀, rfl⟩ := Option.map_eq_some_iff.1 he
    exact ⟨e₀, he₀, rfl⟩
  · intro e he hend
    obtain ⟨e', he', hstate⟩ := h (by simp [hup]) e he hend
    exact ⟨e'.encoded, by simp [Cell.synced, he'], hstate⟩

theorem Cell.Final.active (h : c.Final) (hsound : Sound c) (hup : c.process = .up)
    (hwrites : event.untorn = true) (hqueue : ¬c.ReturnsToEnded event)
    (hstep : ActiveCellStep refused id c event c') : c'.Final ∧ c.KeepsEnd c' := by
  have hopen (hnew : c.plan = none) : c.disk = none := by
    cases hdisk : c.disk with
    | none => rfl
    | some e =>
      have hplan := (hsound.held e (.inr hdisk)).planned
      rw [hnew] at hplan
      cases hplan
  have hboundary {e : Execution} (hstate : e.state = .yielded ∨ e.state = .checkpointed) :
      legacyTerminalState e.state = false := by
    rcases hstate with hstate | hstate <;> simp [hstate, legacyTerminalState]
  cases hstep with
  | keep | enter | moveRun | post | repost | observe | moveControl => exact h.same rfl rfl rfl
  | sync => exact h.synced hup
  | panic =>
    constructor
    · intro _ e he
      exact h (by simp [hup]) e he
    · intro e he _
      exact ⟨e, he, rfl⟩
  | created _ _ hnew =>
    constructor
    · intro _ e he _
      obtain rfl := Option.some.inj he
      exact ⟨_, rfl, rfl⟩
    · intro e he
      rw [hopen hnew] at he
      cases he
  | uncreated _ _ hnew _ hdisk =>
    constructor
    · intro _ e he
      rcases hdisk with rfl | ⟨htorn, -⟩
      · rw [show c.disk = some e from he] at hopen
        exact nomatch hopen hnew
      · simp [untorn, htorn] at hwrites
    · intro e he
      rw [hopen hnew] at he
      cases he
  | @resumed r id' w e i he hstate hi =>
    exact h.commit hup he (hboundary hstate) (by simpa [untorn] using hwrites)
      (.written (w := w))
  | unresumed he hstate heffect =>
    exact h.commit hup he (hboundary hstate) (by simpa [untorn] using hwrites) heffect
  | @sectionRun i a r e mem k written unwritten disk ok hr he hsection heffect =>
    have hfits := hsound.held e (.inl he)
    refine h.commit hup he (hsection.unended hfits.shape fun ch stage hplace => ?_)
      (by simpa [untorn] using hwrites) heffect
    obtain ⟨n, hheld⟩ := hsound.inChunk i r ch stage hr hplace
    obtain ⟨chunks, hplan, hch⟩ := hheld.planned
    exact (hsound.valid chunks hplan).named ch (List.mem_of_getElem? hch)
  | @sectionControl j a r e mem k notice written disk ok _ hr he hsection heffect =>
    refine h.commit hup he (hsection.unended fun epoch b hplace => ?_)
      (by simpa [untorn] using hwrites) heffect
    by_contra hend
    exact hqueue ⟨j, a, r, epoch, b, e, rfl, hr, hplace, he, by simpa using hend⟩

theorem Cell.Final.restart (hsound : Sound c) {mem disk : Option Execution} {p : Process}
    (hload : Reloaded c.disk mem disk p) :
    (c.restarted p mem disk).Final ∧ c.KeepsEnd (c.restarted p mem disk) := by
  have hloaded {e : Execution} (he : c.disk = some e) (hend : legacyTerminalState e.state = true) :
      e.loaded.state = e.state := by
    have hshape := (hsound.held e (.inr he)).shape
    rw [hshape.loaded_eq, hshape.recovered_of_atRest (legacyTerminal_atRest hend)]
  cases hload with
  | rejected => exact ⟨fun hdown => absurd rfl hdown, fun e he _ => ⟨e, he, rfl⟩⟩
  | kept =>
    refine ⟨fun _ e he hend => ?_, fun e he _ => ⟨e, he, rfl⟩⟩
    have he' : c.disk = some e := he
    exact ⟨e.loaded, by simp [Cell.restarted, he'], hloaded he' hend⟩
  | written =>
    refine ⟨fun _ e he _ => ?_, fun e he hend => ?_⟩
    · obtain ⟨e₀, he₀, rfl⟩ := Option.map_eq_some_iff.1 he
      exact ⟨e₀.loaded, by simp [Cell.restarted, he₀], rfl⟩
    · exact ⟨e.loaded.encoded, by simp [Cell.restarted, he], hloaded he hend⟩

theorem Cell.Final.step (h : c.Final) (hsound : Sound c) (hwrites : event.untorn = true)
    (hqueue : ¬c.ReturnsToEnded event) (hstep : CellStep refused id c event c') :
    c'.Final ∧ c.KeepsEnd c' := by
  cases hstep with
  | keep => exact h.same rfl rfl rfl
  | active hup hactive => exact h.active hsound hup hwrites hqueue hactive
  | restart hload => exact Cell.Final.restart hsound hload

end Steps

section Runs

variable {o : HarnessOptions} {h h' : Harness} {tr tr' : List (Transition Harness HarnessEvent)}

theorem returnsToEnded_cell {event : HarnessEvent} {id : GoString}
    (hqueue : returnsToEnded h event = false) : ¬(h.cell id).ReturnsToEnded event := by
  rintro ⟨j, a, r, epoch, b, e, rfl, hr, hplace, he, hend⟩
  obtain ⟨hcontrol, rfl⟩ := cell_controls.1 hr
  obtain ⟨id, operation, place⟩ := r
  obtain rfl : place = .queued epoch b := hplace
  have hget : h.executions.get id = some e := he
  simp [returnsToEnded, hcontrol, hget, hend] at hqueue

/-- **A terminal state on disk is final** without torn writes, if no cancel request comes back from
reading the queue to an execution that has ended. -/
theorem terminal_state_final (hrun : Run (HarnessStep o) {} tr h)
    (hrun' : Run (HarnessStep o) h tr' h') (hwrites : ∀ t ∈ tr ++ tr', t.label.untorn = true)
    (hqueue : ∀ t ∈ tr ++ tr', returnsToEnded t.pre t.label = false) {id : GoString} {e : Execution}
    (hdurable : h.durable id = some e) (hend : legacyTerminalState e.state = true) :
    ∃ e', h'.durable id = some e' ∧ e'.state = e.state := by
  have hgood : ∀ t ∈ tr ++ tr', t.label.untorn = true ∧ returnsToEnded t.pre t.label = false :=
    fun t ht => ⟨hwrites t ht, hqueue t ht⟩
  have hfinal : Sound (h.cell id) ∧ (h.cell id).Final := by
    refine cell_invariant (I := fun _ c => Sound c ∧ c.Final)
      (C := fun _ c event => event.untorn = true ∧ ¬c.ReturnsToEnded event) hrun ?_ ?_ ?_ id
    · exact fun t ht id => ⟨(hgood t (by simp [ht])).1,
        returnsToEnded_cell (hgood t (by simp [ht])).2⟩
    · exact fun _ => ⟨.empty, fun _ e he => nomatch he⟩
    · rintro _ id c event c' ⟨hsound, hfinal⟩ hstep ⟨huntorn, hreturns⟩
      exact ⟨hsound.step hstep, (hfinal.step hsound huntorn hreturns hstep).1⟩
  have hkept : Sound (h'.cell id) ∧ (h'.cell id).Final ∧
      ∃ e', h'.durable id = some e' ∧ e'.state = e.state := by
    refine hrun'.invariant_of (I := fun h' => Sound (h'.cell id) ∧ (h'.cell id).Final ∧
      ∃ e', h'.durable id = some e' ∧ e'.state = e.state)
      (fun t ht => hgood t (by simp [ht])) ⟨hfinal.1, hfinal.2, e, hdurable, rfl⟩ ?_
    rintro h₁ event h₂ ⟨hsound, hfinal, e₁, he₁, hstate⟩ hstep ⟨huntorn, hreturns⟩
    have hcell := step_cell hstep id
    obtain ⟨hfinal', hkeeps⟩ := hfinal.step hsound huntorn (returnsToEnded_cell hreturns) hcell
    obtain ⟨e₂, he₂, hstate'⟩ := hkeeps e₁ he₁ (hstate ▸ hend)
    exact ⟨hsound.step hcell, hfinal', e₂, he₂, hstate'.trans hstate⟩
  exact hkept.2.2

end Runs

/-- A cancel request and a restart after the execution has completed. -/
def laterEvents : List HarnessEvent :=
  [.control "exec" .cancel, .proceedControl 0 {}, .restart true .written]

theorem completed_stays_completed :
    ((Harness.after completedEvents).durable "exec").map (·.state) = some .completed ∧
      ∃ e', (Harness.after laterEvents (Harness.after completedEvents)).durable "exec" = some e' ∧
        e'.state = .completed := by
  have hstate : ((Harness.after completedEvents).durable "exec").map (·.state) =
      some .completed := by decide +kernel
  obtain ⟨e, hdurable, hcompleted⟩ := Option.map_eq_some_iff.1 hstate
  have hfinal := terminal_state_final (run_after completedEvents)
    (run_after laterEvents (Harness.after completedEvents)) (by decide +kernel) (by decide +kernel)
    hdurable (by simp [hcompleted, legacyTerminalState])
  exact ⟨hstate, hcompleted ▸ hfinal⟩

/-- A submission whose outcome is not known, after which the run has ended. -/
def abandonedEvents : List HarnessEvent :=
  [.start twoChunks "exec" {}, .proceedRun 0 {}, .proceedRun 0 {},
    .proceedRun 0 { reply := .ambiguous "timeout" }, .proceedRun 0 {}, .proceedRun 0 {},
    .proceedRun 0 {}]

/-- Two cancel requests leave to read the queue. The first finds it idle and cancels. -/
def cancelledEvents : List HarnessEvent :=
  abandonedEvents ++
    [.control "exec" .cancel, .control "exec" .cancel, .proceedControl 0 {}, .proceedControl 1 {},
      .proceedControl 0 { queue := .rows [] [] }, .proceedControl 0 {}]

/-- The second request comes back. -/
def secondCancel : List HarnessEvent :=
  [.proceedControl 1 { queue := .rows [] [] }, .proceedControl 1 {}]

/-- **A second cancel request makes a cancelled execution uncertain.** Both left to read the queue;
the one that comes back later does not cancel again, and falls through to the section for
submissions that may still be under way. -/
theorem cancelled_becomes_uncertain :
    Run (HarnessStep smallHarness) {} (Harness.transitions cancelledEvents)
        (Harness.after cancelledEvents) ∧
      Run (HarnessStep smallHarness) (Harness.after cancelledEvents)
        (Harness.transitions secondCancel (Harness.after cancelledEvents))
        (Harness.after secondCancel (Harness.after cancelledEvents)) ∧
      ((Harness.after cancelledEvents).durable "exec").map (·.state) = some .cancelled ∧
      ((Harness.after secondCancel (Harness.after cancelledEvents)).durable "exec").map (·.state) =
        some .uncertain :=
  ⟨run_after _, run_after _ _, by decide +kernel, by decide +kernel⟩

end VramGovernor.ComfyHarness
