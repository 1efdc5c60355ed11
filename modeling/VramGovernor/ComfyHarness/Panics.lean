import VramGovernor.ComfyHarness.Custody

/-!
# Panics

A control request that comes back finds its execution (`Cell.Attended`). A run that finishes a chunk
writes into the map of histories, which is there unless a failed write of a control request has put
back a copy in which an empty map has become nil (`Cell.Mapped`):
`harness_panics_only_after_rollback` is about every run without that, and `rollback_leaves_nil_map`
is a run with it.
-/

namespace VramGovernor.ComfyHarness

open GoString

/-- A control request on its way has its execution. -/
def Cell.Attended (c : Cell) : Prop :=
  ∀ j r, c.controls j = some r → r.place ≠ .entered → r.place ≠ .answered → c.mem ≠ none

/-- A running execution with a run that is left has a map for its histories. -/
def Cell.Mapped (c : Cell) : Prop :=
  ∀ e, c.mem = some e → e.state = .running → e.histories = none → c.Quiet

/-- The write of an entering control request, if its failure puts back a copy of the execution. -/
def ControlRoutine.copied (c : ControlRoutine) (e : Execution) : Option Commit :=
  if c.operation ≠ .cancel then some (e.request c.operation.requested)
  else if e.submission = .submitting || e.submission = .unknown || e.currentPrompt = [] then none
  else some e.cancelIntent

/-- That write fails for a running execution without a history. -/
def rollsBack (o : HarnessOptions) (t : Transition Harness HarnessEvent) : Bool :=
  match t.label with
  | .proceedControl j a =>
    t.pre.process = .up && t.pre.controls[j]?.any fun c => c.place = .entered &&
      (t.pre.executions.get c.id).any fun e => e.state = .running && e.historyCount = 0 &&
        (c.copied e).any (t.pre.refuses o · a.writes)
  | _ => false

/-- The same for the cell of the execution. -/
def Cell.RollsBack (refused : Commit → Writes → Bool) (c : Cell) (event : HarnessEvent) : Prop :=
  ∃ j a r e k, event = .proceedControl j a ∧ c.process = .up ∧ c.controls j = some r ∧
    r.place = .entered ∧ c.mem = some e ∧ e.state = .running ∧ e.historyCount = 0 ∧
    r.copied e = some k ∧ refused k a.writes = true

theorem rollsBack_cell {o : HarnessOptions} {h h' : Harness} {event : HarnessEvent} {id : GoString}
    (hgood : rollsBack o ⟨h, event, h'⟩ = false) :
    ¬(h.cell id).RollsBack (h.refuses o) event := by
  rintro ⟨j, a, c, e, k, rfl, hup, hview, hplace, he, hstate, hcount, hcopied, hrefused⟩
  obtain ⟨hc, rfl⟩ := cell_controls.1 hview
  have hup : h.process = .up := hup
  have he : h.executions.get c.id = some e := he
  simp [rollsBack, hup, hc, hplace, he, hstate, hcount, hcopied, hrefused] at hgood

section Steps

variable {refused : Commit → Writes → Bool} {c c' : Cell} {id : GoString} {event : HarnessEvent}
  {e mem : Execution} {k : Commit}

theorem Cell.Attended.active (h : c.Attended) (hsound : Sound c)
    (hstep : ActiveCellStep refused id c event c') : c'.Attended := by
  cases hstep with
  | keep | sync | panic | moveRun | post | repost | observe => exact h
  | created | resumed | unresumed | sectionRun | sectionControl =>
    exact fun _ _ _ _ _ => Option.some_ne_none _
  | enter =>
    intro j r hr hentered hanswered
    rcases Cell.setControl_controls hr with ⟨-, rfl⟩ | ⟨-, hr⟩
    · exact absurd rfl hentered
    · exact h j r hr hentered hanswered
  | uncreated _ _ hnew =>
    intro j r hr hentered hanswered _
    obtain ⟨e, he⟩ := Option.ne_none_iff_exists'.1 (h j r hr hentered hanswered)
    have hplan := (hsound.held e (.inl he)).planned
    rw [hnew] at hplan
    cases hplan
  | @moveControl j a r place hr hmove =>
    intro j' r' hr' hentered hanswered
    rcases Cell.setControl_controls hr' with ⟨-, rfl⟩ | ⟨-, hr'⟩
    · have hold := h j r hr
      generalize r.place = old at hmove hold
      cases hmove with
      | answer => exact absurd rfl hanswered
      | readQueue he => exact fun hnone => nomatch he.symm.trans hnone
      | unstopped _ _ hplace => exact hold hplace.1 hplace.2
      | queued | delete | confirm | absent | stopped | wake => exact hold (by simp) (by simp)
    · exact h j' r' hr' hentered hanswered

theorem Effect.mem_eq {w : Writes} {disk disk' : Option Execution} {ok : Bool}
    (heffect : Effect k w disk mem disk' ok) :
    ok = true ∧ mem = k.record ∨ ok = false ∧ mem = k.fallback := by
  cases heffect <;> simp

theorem RunSection.mapped {place written unwritten : RunPlace}
    (hsection : RunSection e place k written unwritten) {e' : Execution}
    (he' : e' = k.record ∨ e' = k.fallback) (hstate : e'.state = .running)
    (hnil : e'.histories = none) : e.state = .running ∧ e.histories = none := by
  rcases he' with rfl | rfl <;> cases hsection <;>
    first | exact ⟨hstate, hnil⟩ | cases hstate | cases hnil

theorem Cell.Mapped.active (h : c.Mapped) (hsound : Sound c) (hup : c.process = .up)
    (hgood : ¬c.RollsBack refused event)
    (hstep : ActiveCellStep refused id c event c') : c'.Mapped := by
  have hrunning {i : ℕ} {r : RunRoutine} (hr : c.runs i = some r) (hlive : r.place ≠ .gone)
      {e : Execution} (he : c.mem = some e) (hstate : e.state = .running) : e.histories ≠ none :=
    fun hnil => hlive (h e he hstate hnil i r hr)
  cases hstep with
  | keep | sync | panic | enter | moveControl => exact h
  | moveRun hr hmove => exact fun e he hstate hnil => absurd hnil (hrunning hr hmove.live he hstate)
  | post _ hr hplace | repost _ hr hplace | observe hr hplace =>
    exact fun e he hstate hnil => absurd hnil (hrunning hr (by simp [hplace]) he hstate)
  | created =>
    rintro e ⟨rfl⟩ - hnil
    cases hnil
  | uncreated => rintro e ⟨⟩
  | @resumed _ _ _ e _ he hstate =>
    rintro e' ⟨rfl⟩ - hnil
    have hnil : e.histories = none := hnil
    have hsome := ((hsound.held e (.inl he)).shape.boundary hstate).histories
    simp [hnil] at hsome
  | @unresumed _ _ _ e mem _ _ hstate heffect =>
    rintro e' ⟨rfl⟩ hrunning
    obtain ⟨hok, -⟩ | ⟨-, rfl⟩ := heffect.mem_eq
    · cases hok
    · have hrunning : e.state = .running := hrunning
      rcases hstate with hstate | hstate <;> simp [hstate] at hrunning
  | @sectionRun i a r e mem k written unwritten disk ok hr he hsection heffect =>
    rintro e' ⟨rfl⟩ hstate hnil
    obtain ⟨hstate, hnil⟩ := hsection.mapped (heffect.mem_eq.imp And.right And.right) hstate hnil
    exact absurd hnil (hrunning hr hsection.live he hstate)
  | @sectionControl j a r e mem k notice written disk ok _ hr he hsection heffect hok =>
    rintro e' ⟨rfl⟩ hstate hnil
    generalize hplace : r.place = place at hsection
    obtain ⟨-, rfl⟩ | ⟨hfails, rfl⟩ := heffect.mem_eq
    · cases hsection with
      | request => exact h e he hstate hnil
      | cancelUnsubmitted | giveUp | giveUpQueued | cancelProven | cancelIntent | stopFailed
      | stopConfirmed => cases hstate
    · have hback (hentered : r.place = .entered) (hcopy : k.fallback = e.encoded)
          (hcopied : r.copied e = some k) : False := by
        rw [hcopy] at hstate hnil
        have hcount : e.historyCount = 0 := by
          rw [Execution.historyCount_eq, ← Execution.encoded_histories, hnil]
          rfl
        exact hgood ⟨j, a, r, e, k, rfl, hup, hr, hentered, he, hstate, hcount, hcopied,
          by simpa [hfails] using hok⟩
      cases hsection with
      | request hop => exact (hback hplace rfl (if_pos hop)).elim
      | cancelIntent hop _ hsub hsub' hprompt =>
        exact (hback hplace rfl (by simp [ControlRoutine.copied, hop, hsub, hsub', hprompt])).elim
      | cancelProven _ hidle => exact hidle
      | stopConfirmed _ hcancelling => cases hcancelling.symm.trans hstate
      | cancelUnsubmitted | giveUp | giveUpQueued | stopFailed => cases hstate

theorem Cell.Attended.step (h : c.Attended) (hsound : Sound c)
    (hstep : CellStep refused id c event c') :
    c'.Attended := by
  cases hstep with
  | keep => exact h
  | active _ hactive => exact h.active hsound hactive
  | restart => exact fun _ _ hr => nomatch hr

theorem Cell.Mapped.step (h : c.Mapped) (hsound : Sound c) (hgood : ¬c.RollsBack refused event)
    (hstep : CellStep refused id c event c') : c'.Mapped := by
  cases hstep with
  | keep => exact h
  | active hup hactive => exact h.active hsound hup hgood hactive
  | restart => exact fun _ _ _ _ _ _ hr => nomatch hr

end Steps

section Runs

variable {o : HarnessOptions} {h : Harness} {tr : List (Transition Harness HarnessEvent)}

/-- **The harness does not panic**: no control request dereferences a missing execution, and no run
writes to a nil map unless a control request has rolled back an execution without histories. -/
theorem harness_panics_only_after_rollback (hrun : Run (HarnessStep o) {} tr h) :
    (∀ c ∈ h.controls, ∀ a, controlAction h c a ≠ .panic) ∧
      ((∀ t ∈ tr, rollsBack o t = false) →
        ∀ r ∈ h.runs, ∀ a, runAction r.epoch (h.executions.get r.id) a r.place ≠ .panic) := by
  constructor
  · intro c hc a hpanic
    have hattended : Sound (h.cell c.id) ∧ (h.cell c.id).Attended :=
      cell_invariant (I := fun _ c => Sound c ∧ c.Attended) (C := fun _ _ _ => True) hrun
        (fun _ _ _ => trivial) (fun _ => ⟨.empty, fun _ _ hr => nomatch hr⟩)
        (fun _ _ _ _ _ h hstep _ => ⟨h.1.step hstep, h.2.step h.1 hstep⟩) c.id
    have hacts := controlAction_spec (a := a) (cell_quiet (h := h) c.id)
    obtain ⟨j, hj⟩ := List.mem_iff_getElem?.1 hc
    rw [hpanic] at hacts
    cases hacts with
    | panic hplace hnone =>
      refine hattended.2 j c (cell_controls.2 ⟨hj, rfl⟩) ?_ ?_ hnone <;>
        rcases hplace with hplace | ⟨_, _, hplace⟩ <;> simp [hplace]
  · intro hgood r hr a hpanic
    have hmapped : ∀ id, Sound (h.cell id) ∧ (h.cell id).Mapped := by
      refine hrun.invariant_of (I := fun h => ∀ id, Sound (h.cell id) ∧ (h.cell id).Mapped) hgood
        (fun _ => ⟨.empty, fun _ he => nomatch he⟩) fun h₁ event h₂ hcells hstep hgood id => ?_
      obtain ⟨hsound, hmapped⟩ := hcells id
      have hcell := step_cell hstep id
      exact ⟨hsound.step hcell, hmapped.step hsound (rollsBack_cell hgood) hcell⟩
    have hacts := runAction_spec (a := a) r.epoch (h.executions.get r.id) r.place
    obtain ⟨i, hi⟩ := List.mem_iff_getElem?.1 hr
    rw [hpanic] at hacts
    generalize hplace : r.place = place at hacts
    cases hacts with
    | panic _ _ _ he hstate hnil =>
      rw [(hmapped r.id).2 _ he hstate hnil i r (cell_runs.2 ⟨hi, rfl⟩)] at hplace
      cases hplace

end Runs

/-- A request to yield whose write fails while the second chunk is under way. -/
def laterRollback : List HarnessEvent :=
  [.start twoChunks "exec" {}] ++ finishedChunk "p" ++
    [.proceedRun 0 {}, .control "exec" .yield,
     .proceedControl 0 { writes := ⟨.unwritten, .written⟩ }]

theorem later_rollback_is_harmless :
    (∀ t ∈ Harness.transitions laterRollback, rollsBack smallHarness t = false) ∧
      ∀ r ∈ (Harness.after laterRollback).runs, ∀ a,
        runAction r.epoch
          ((Harness.after laterRollback).executions.get r.id) a r.place ≠ .panic := by
  have hgood : ∀ t ∈ Harness.transitions laterRollback, rollsBack smallHarness t = false := by
    decide +kernel
  exact ⟨hgood, (harness_panics_only_after_rollback (run_after laterRollback)).2 hgood⟩

/-- The same while the first chunk is under way, which then finishes. -/
def firstRollback : List HarnessEvent :=
  [.start twoChunks "exec" {}] ++ (finishedChunk "p").take 5 ++
    [.control "exec" .yield, .proceedControl 0 { writes := ⟨.unwritten, .written⟩ },
     .proceedRun 0 {}]

/-- **A run writes to a nil map.** The yield request could not write and put back a copy, whose
empty map of histories came back as nil; the live run then stores its first history. -/
theorem rollback_leaves_nil_map :
    Run (HarnessStep smallHarness) {} (Harness.transitions firstRollback)
        (Harness.after firstRollback) ∧
      (Harness.after firstRollback).process = .panicked .nilMapWrite :=
  ⟨run_after _, by decide +kernel⟩

end VramGovernor.ComfyHarness
