import VramGovernor.ComfyHarness.Changes

/-!
# The harness as seen from one execution

A section changes one execution and writes all of them. `Harness.cell` is what the harness has of
one execution. To the other executions a section does nothing, or writes them as they are in memory
(`ActiveCellStep.sync`). By `cell_invariant` the later modules lift an invariant of cells to the
runs of the harness.
-/

namespace VramGovernor.ComfyHarness

open GoString Harness ExecutionTable

/-! ## Cells -/

/-- What the harness has of one execution. -/
structure Cell where
  process : Process
  (mem disk : Option Execution)
  plan : Option (List Chunk)
  posted : List Post
  observed : List Observed
  waiters : Option (List ℕ)
  runs : ℕ → Option RunRoutine
  controls : ℕ → Option ControlRoutine

open Cell

def Harness.cell (h : Harness) (id : GoString) : Cell where
  process := h.process
  mem := h.executions.get id
  disk := h.disk.bind (·.get id)
  plan := h.plans.lookup id
  posted := h.posted.filter (·.execution = id)
  observed := h.observed.filter (·.execution = id)
  waiters := h.waiters.lookup id
  runs i := h.runs[i]?.filter (·.id = id)
  controls j := h.controls[j]?.filter (·.id = id)

namespace Cell

/-- The run at a place of the list. -/
def setRun (c : Cell) (i : ℕ) (r : RunRoutine) : Cell :=
  { c with runs := Function.update c.runs i (some r) }

def setControl (c : Cell) (j : ℕ) (r : ControlRoutine) : Cell :=
  { c with controls := Function.update c.controls j (some r) }

/-- The execution as it is now in memory and on disk. -/
def record (c : Cell) (mem : Execution) (disk : Option Execution) : Cell :=
  { c with mem := some mem, disk := disk }

/-- The channels that are registered for the execution now. -/
def wait (c : Cell) (waiters : Option (List ℕ)) : Cell := { c with waiters := waiters }

/-- The execution in a new process. -/
def restarted (c : Cell) (p : Process) (mem disk : Option Execution) : Cell :=
  { c with
    process := p
    mem := mem
    disk := disk
    waiters := none
    runs := fun _ => none
    controls := fun _ => none }

end Cell

variable {i j : ℕ} {c : ControlRoutine}

section Views

variable {o : HarnessOptions} {h : Harness} {id : GoString}

theorem cell_runs {r : RunRoutine} :
    (h.cell id).runs i = some r ↔ h.runs[i]? = some r ∧ r.id = id := by
  simp [cell, Option.filter_eq_some_iff]

theorem cell_controls : (h.cell id).controls j = some c ↔ h.controls[j]? = some c ∧ c.id = id := by
  simp [cell, Option.filter_eq_some_iff]

variable {α : Type*}

theorem filter_set {l : List α} {x y : α} {p : α → Bool} (hx : l[i]? = some x) (hp : p y = p x) :
    (fun k => (l.set i y)[k]?.filter p) =
      if p x then Function.update (fun k => l[k]?.filter p) i (some y)
      else fun k => l[k]?.filter p := by
  obtain ⟨hi, rfl⟩ := List.getElem?_eq_some_iff.1 hx
  funext k
  by_cases hk : i = k
  · subst hk
    cases hpx : p l[i] <;> simp [hi, hp, hpx, Option.filter]
  · cases hpx : p l[i] <;> simp [hk, Function.update_of_ne (Ne.symm hk)]

theorem cell_moveRun {r : RunRoutine} {place : RunPlace} (hr : h.runs[i]? = some r) :
    (h.moveRun i r place).cell id =
      if r.id = id then (h.cell id).setRun i { r with place := place } else h.cell id := by
  have hview := filter_set (p := fun r : RunRoutine => decide (r.id = id))
    (y := { r with place := place }) hr rfl
  simp only [decide_eq_true_eq] at hview
  simp only [cell, moveRun, setRun, hview]
  split_ifs <;> rfl

theorem cell_moveControl {place : ControlPlace} (hc : h.controls[j]? = some c) :
    (h.moveControl j c place).cell id =
      if c.id = id then (h.cell id).setControl j { c with place := place } else h.cell id := by
  have hview := filter_set (p := fun c : ControlRoutine => decide (c.id = id))
    (y := { c with place := place }) hc rfl
  simp only [decide_eq_true_eq] at hview
  simp only [cell, moveControl, setControl, hview]
  split_ifs <;> rfl

theorem filter_concat (l : List α) (x : α) (p : α → Bool) : (fun k => (l ++ [x])[k]?.filter p) =
      if p x then Function.update (fun k => l[k]?.filter p) l.length (some x)
      else fun k => l[k]?.filter p := by
  funext k
  rcases Nat.lt_trichotomy k l.length with hk | rfl | hk
  · cases hpx : p x <;> simp [List.getElem?_append_left hk, Function.update_of_ne hk.ne]
  · cases hpx : p x <;> simp [hpx, Option.filter]
  · have hout : (l ++ [x])[k]? = none := by simp; omega
    have hout' : l[k]? = none := by simp; omega
    cases hpx : p x <;> simp [hout, hout', Function.update_of_ne hk.ne']

theorem cell_launch {id' : GoString} {epoch : UInt64} : (launchLocked h id' epoch).cell id =
      if id' = id then (h.cell id).setRun h.runs.length ⟨id', epoch, .top⟩ else h.cell id := by
  have hview := filter_concat h.runs ⟨id', epoch, .top⟩ fun r : RunRoutine => decide (r.id = id)
  simp only [decide_eq_true_eq] at hview
  simp only [cell, launchLocked, setRun, hview]
  split_ifs <;> rfl

theorem cell_notify {id' : GoString} :
    (notifyLocked h id').cell id = if id' = id then (h.cell id).wait none else h.cell id := by
  simp only [cell, notifyLocked, wait, GoMap.lookup_erase_of]
  split_ifs <;> simp_all

/-- The registered channels after a notice; the next channel has the number. -/
def ControlNotice.channels (next : ℕ) (waiters : Option (List ℕ)) : ControlNotice → Option (List ℕ)
  | silent => waiters
  | wake => none
  | await => some (waiters.getD [] ++ [next])

theorem cell_notice {id' : GoString} (notice : ControlNotice) :
    (notice.apply h id').cell id =
      if id' = id then (h.cell id).wait (notice.channels h.nextWait (h.cell id).waiters)
      else h.cell id := by
  cases notice with
  | silent => exact (ite_self _).symm
  | wake => exact cell_notify
  | await =>
    simp only [cell, ControlNotice.apply, awaitLocked, wait, ControlNotice.channels,
      GoMap.lookup_insert_of]
    grind

/-- What a commit leaves: the record in memory, the one on disk, and whether the write succeeded. -/
inductive Effect (k : Commit) (w : Writes) (disk : Option Execution) :
    Execution → Option Execution → Bool → Prop
  | written : Effect k w disk k.record (some k.record.encoded) true
  | kept : Effect k w disk k.fallback disk false
  | torn (hw : w.first = .torn) : Effect k w disk k.fallback (some k.record.encoded) false
  | rewritten : Effect k w disk k.fallback (some k.fallback.encoded) false

theorem commit_cell {k : Commit} {w : Writes} (hrecord : k.record.id = id)
    (hfallback : k.fallback.id = id) :
    ∃ mem disk, Effect k w (h.cell id).disk mem disk (commit o h k w).2 ∧
      (commit o h k w).1.cell id = (h.cell id).record mem disk := by
  have hput (t : ExecutionTable) : (t.put k.record).get id = some k.record := by
    rw [get_put, if_pos hrecord.symm]
  have hput' (t : ExecutionTable) : (t.put k.fallback).get id = some k.fallback := by
    rw [get_put, if_pos hfallback.symm]
  have hcommit := commit_spec o h k w
  generalize commit o h k w = p at hcommit
  cases hcommit with
  | written => exact ⟨_, _, .written, by simp [cell, record, hput]⟩
  | kept => exact ⟨_, _, .kept, by simp [cell, record, hput']⟩
  | torn hw => exact ⟨_, _, .torn hw, by simp [cell, record, hput, hput']⟩
  | rewritten => exact ⟨_, _, .rewritten, by simp [cell, record, hput']⟩

/-- The cell with the execution on disk as it is in memory. -/
def Cell.synced (c : Cell) : Cell := { c with disk := c.mem.map Execution.encoded }

theorem commit_cell_other {k : Commit} {w : Writes} (hrecord : k.record.id ≠ id)
    (hfallback : k.fallback.id ≠ id) :
    (commit o h k w).1.cell id = h.cell id ∨ (commit o h k w).1.cell id = (h.cell id).synced := by
  have hput (t : ExecutionTable) : (t.put k.record).get id = t.get id := by
    rw [get_put, if_neg hrecord.symm]
  have hput' (t : ExecutionTable) : (t.put k.fallback).get id = t.get id := by
    rw [get_put, if_neg hfallback.symm]
  have hcommit := commit_spec o h k w
  generalize commit o h k w = p at hcommit
  cases hcommit with
  | written => exact .inr (by simp [cell, synced, hput])
  | kept => exact .inl (by simp [cell, hput, hput'])
  | torn | rewritten => exact .inr (by simp [cell, synced, hput, hput'])

end Views

/-! ## Steps of a cell -/

/-- No run of the execution is left. -/
def Cell.Quiet (c : Cell) : Prop := ∀ i r, c.runs i = some r → r.place = .gone

/-- What a step of a process can do to one execution, by the commits that are refused. -/
inductive ActiveCellStep (refused : Commit → Writes → Bool) (id : GoString) (c : Cell) :
    HarnessEvent → Cell → Prop
  | keep (event : HarnessEvent) : ActiveCellStep refused id c event c
  | sync (event : HarnessEvent) : ActiveCellStep refused id c event c.synced
  | panic (event : HarnessEvent) (p : Panic) :
      ActiveCellStep refused id c event { c with process := .panicked p }
  | enter (j : ℕ) (operation : Operation) :
      ActiveCellStep refused id c (.control id operation) (c.setControl j ⟨id, operation, .entered⟩)
  | created {r : StartRequest} {chunks : List Chunk} {w : Writes} {i : ℕ} (hid : id ≠ [])
      (hkey : r.idempotencyKey ≠ []) (hnew : c.plan = none) (hchunks : ChunksValid chunks)
      (hi : c.runs i = none) :
      ActiveCellStep refused id c (.start r id w)
        ({ c.record (newExecution r chunks id) (some (newExecution r chunks id).encoded) with
            plan := some chunks }.setRun i ⟨id, 1, .top⟩)
  | uncreated {r : StartRequest} {chunks : List Chunk} {w : Writes} {disk : Option Execution}
      (hid : id ≠ []) (hkey : r.idempotencyKey ≠ []) (hnew : c.plan = none)
      (hchunks : ChunksValid chunks)
      (hdisk : disk = c.disk ∨ w.first = .torn ∧ disk = some (newExecution r chunks id).encoded) :
      ActiveCellStep refused id c (.start r id w)
        { c with mem := none, disk := disk, plan := some chunks }
  | resumed {r : StartRequest} {id' : GoString} {w : Writes} {e : Execution} {i : ℕ}
      (he : c.mem = some e) (hstate : e.state = .yielded ∨ e.state = .checkpointed)
      (hi : c.runs i = none) :
      ActiveCellStep refused id c (.start r id' w)
        ((c.record e.resume.record (some e.resume.record.encoded)).setRun i ⟨id, e.epoch + 1, .top⟩)
  | unresumed {r : StartRequest} {id' : GoString} {w : Writes} {e mem : Execution}
      {disk : Option Execution} (he : c.mem = some e)
      (hstate : e.state = .yielded ∨ e.state = .checkpointed)
      (heffect : Effect e.resume w c.disk mem disk false) :
      ActiveCellStep refused id c (.start r id' w) (c.record mem disk)
  | moveRun {i : ℕ} {a : RunAnswer} {r : RunRoutine} {place : RunPlace} (hr : c.runs i = some r)
      (hmove : RunMove a r.place place)
      (hleaves : place = .exiting → ∀ e, c.mem = some e → e.state = .running → e.epoch ≠ r.epoch) :
      ActiveCellStep refused id c (.proceedRun i a) (c.setRun i { r with place := place })
  | post {i : ℕ} {a : RunAnswer} {r : RunRoutine} {ch : Chunk} (request : ℕ)
      (hr : c.runs i = some r)
      (hplace : r.place = .chunk ch .submitting) :
      ActiveCellStep refused id c (.proceedRun i a)
        (Cell.setRun { c with posted := c.posted ++ [⟨request, id, ch.id, 0⟩] } i
          { r with place := .chunk ch (.posting request 0) })
  | repost {i : ℕ} {a : RunAnswer} {r : RunRoutine} {ch : Chunk} {hops request : ℕ} (request' : ℕ)
      (hr : c.runs i = some r) (hplace : r.place = .chunk ch (.posting request hops))
      (ha : a.reply = .redirected) :
      ActiveCellStep refused id c (.proceedRun i a)
        (Cell.setRun { c with posted := c.posted ++ [⟨request', id, ch.id, hops + 1⟩] } i
          { r with place := .chunk ch (.posting request' (hops + 1)) })
  | observe {i : ℕ} {a : RunAnswer} {r : RunRoutine} {ch : Chunk} {promptID history : GoString}
      (hr : c.runs i = some r) (hplace : r.place = .chunk ch (.polling promptID))
      (ha : comfyHistory promptID a.history = .success history) :
      ActiveCellStep refused id c (.proceedRun i a)
        (Cell.setRun { c with observed := c.observed ++ [⟨id, ch.id, promptID, history⟩] } i
          { r with place := .chunk ch (.returned (.finished promptID history)) })
  | sectionRun {i : ℕ} {a : RunAnswer} {r : RunRoutine} {e mem : Execution} {k : Commit}
      {written unwritten : RunPlace} {disk : Option Execution} {ok : Bool} (hr : c.runs i = some r)
      (he : c.mem = some e) (hsection : RunSection e r.place k written unwritten)
      (heffect : Effect k a.writes c.disk mem disk ok) (hok : ok = !refused k a.writes) :
      ActiveCellStep refused id c (.proceedRun i a)
        (((c.record mem disk).setRun i { r with place := if ok then written else unwritten }).wait
          (if (if ok then written else unwritten) = .exiting then none else c.waiters))
  | moveControl {j : ℕ} {a : ControlAnswer} {r : ControlRoutine} {place : ControlPlace}
      (hr : c.controls j = some r) (hmove : ControlMove a c.Quiet c.mem r.place place) :
      ActiveCellStep refused id c (.proceedControl j a) (c.setControl j { r with place := place })
  | sectionControl {j : ℕ} {a : ControlAnswer} {r : ControlRoutine} {e mem : Execution}
      {k : Commit} {notice : ControlNotice} {written : ControlPlace} {disk : Option Execution}
      {ok : Bool} {next : ℕ} (hr : c.controls j = some r) (he : c.mem = some e)
      (hsection : ControlSection r.operation c.Quiet e r.place k notice written)
      (heffect : Effect k a.writes c.disk mem disk ok) (hok : ok = !refused k a.writes) :
      ActiveCellStep refused id c (.proceedControl j a)
        (((c.record mem disk).setControl j
          { r with place := if ok then written else .answered }).wait
          (if ok then notice.channels next c.waiters else c.waiters))

open ActiveCellStep

/-- What a restart makes of an execution, by what is on disk. -/
inductive Reloaded (disk : Option Execution) : Option Execution → Option Execution → Process → Prop
  | rejected : Reloaded disk none disk .down
  | kept (p : Process) : Reloaded disk (disk.map Execution.loaded) disk p
  | written (p : Process) :
      Reloaded disk (disk.map Execution.loaded) (disk.map fun e => e.loaded.encoded) p

/-- **What a step can do to one execution.** -/
inductive CellStep (refused : Commit → Writes → Bool) (id : GoString) (c : Cell) :
    HarnessEvent → Cell → Prop
  | keep (event : HarnessEvent) : CellStep refused id c event c
  | active {event : HarnessEvent} {c' : Cell} (hup : c.process = .up)
      (hactive : ActiveCellStep refused id c event c') : CellStep refused id c event c'
  | restart {readable : Bool} {w : WriteOutcome} {mem disk : Option Execution} {p : Process}
      (hload : Reloaded c.disk mem disk p) :
      CellStep refused id c (.restart readable w)
        (c.restarted p mem disk)

section Steps

variable {o : HarnessOptions} {h h' : Harness} {event : HarnessEvent} {id id' : GoString}
  {place : RunPlace} {e : Execution} {k : Commit} {w : Writes} {r : StartRequest}

theorem RunMove.live {a : RunAnswer} {place' : RunPlace} (hmove : RunMove a place place') :
    place ≠ .gone := by
  cases hmove <;> simp

theorem RunSection.live {written unwritten : RunPlace}
    (hsection : RunSection e place k written unwritten) : place ≠ .gone := by
  cases hsection <;> simp

theorem RunSection.ids {written unwritten : RunPlace}
    (hsection : RunSection e place k written unwritten) :
    k.record.id = e.id ∧ k.fallback.id = e.id := by
  cases hsection <;> exact ⟨rfl, rfl⟩

theorem ControlSection.ids {op : Operation} {idle : Prop} {notice : ControlNotice}
    {place written : ControlPlace} (hsection : ControlSection op idle e place k notice written) :
    k.record.id = e.id ∧ k.fallback.id = e.id := by
  cases hsection <;> exact ⟨rfl, rfl⟩

theorem cell_quiet (id : GoString) (hidle : h.activeRuns id = 0) : (h.cell id).Quiet := by
  intro i r hr
  obtain ⟨hr, hid⟩ := cell_runs.1 hr
  simpa [hid] using List.countP_eq_zero.1 hidle r (List.mem_of_getElem? hr)

theorem ActiveCellStep.other {c : Cell} (hrecord : k.record.id ≠ id)
    (hfallback : k.fallback.id ≠ id) (hc : c = (commit o h k w).1.cell id) :
    ActiveCellStep (h.refuses o) id (h.cell id) event c := by
  rcases commit_cell_other (o := o) (h := h) (w := w) hrecord hfallback with hsame | hsame
  · exact hc ▸ hsame ▸ .keep _
  · exact hc ▸ hsame ▸ .sync _

/-- A section of a thread of some execution, which the thread goes on from. -/
theorem ActiveCellStep.of_commit {k : Commit} {w : Writes} {e : Execution} {id' : GoString}
    {f : Cell → Bool → Cell} (he : h.executions.get id' = some e)
    (hids : k.record.id = e.id ∧ k.fallback.id = e.id)
    (hcell : h'.cell id = if id' = id then
      f ((commit o h k w).1.cell id) (commit o h k w).2 else (commit o h k w).1.cell id)
    (hstep : id' = id → ∀ mem disk ok, Effect k w (h.cell id).disk mem disk ok →
      ok = !h.refuses o k w →
        ActiveCellStep (h.refuses o) id (h.cell id) event (f ((h.cell id).record mem disk) ok)) :
    ActiveCellStep (h.refuses o) id (h.cell id) event (h'.cell id) := by
  rw [id_of_get he] at hids
  rw [hcell]
  split
  · rename_i hid
    obtain ⟨mem, disk, heffect, hrecord⟩ :=
      commit_cell (o := o) (h := h) (w := w) (hids.1.trans hid) (hids.2.trans hid)
    rw [hrecord]
    exact hstep hid mem disk _ heffect (commit_ok o h k w)
  · rename_i hid
    exact .other (hids.1 ▸ hid) (hids.2 ▸ hid) rfl

theorem cell_create {chunks : List Chunk} (hid : id' ≠ []) (hkey : r.idempotencyKey ≠ [])
    (hnew : h.plans.lookup id' = none) (hchunks : ChunksValid chunks) :
    ActiveCellStep (h.refuses o) id (h.cell id) (.start r id' w)
      ((let p := persistLocked o (h.withExecution r chunks id') w.first
        if p.2 then launchLocked p.1 id' 1 else p.1.withoutExecution r id').cell id) := by
  have hwrite := persistLocked_spec o (h.withExecution r chunks id') w.first
  generalize persistLocked o (h.withExecution r chunks id') w.first = p at hwrite
  by_cases hcase : id = id'
  · subst hcase
    have hput : (h.executions.put (newExecution r chunks id)).get id =
        some (newExecution r chunks id) :=
      (get_put ..).trans (if_pos rfl)
    have hi : (h.cell id).runs h.runs.length = none := by simp [cell]
    have huncreated {disk : Option Execution} :=
      @uncreated (h.refuses o) id (h.cell id) r chunks w disk hid hkey hnew hchunks
    cases hwrite with
    | written =>
      have hcreated := @created (h.refuses o) id _ r chunks w _ hid hkey hnew hchunks hi
      rw [if_pos rfl, cell_launch, if_pos rfl]
      simpa [cell, withExecution, setRun, record, hput] using hcreated
    | kept =>
      simpa [cell, withExecution, withoutExecution, get_erase] using huncreated (.inl rfl)
    | torn hw =>
      simpa [cell, withExecution, withoutExecution, get_erase, hput] using
        huncreated (.inr ⟨hw, rfl⟩)
  · have hput : (h.executions.put (newExecution r chunks id')).get id = h.executions.get id :=
      (get_put ..).trans (if_neg hcase)
    have hplan : (h.plans.insert id' chunks).lookup id = h.plans.lookup id := by
      rw [GoMap.lookup_insert_of, if_neg hcase]
    cases hwrite with
    | written =>
      have hsync := @sync (h.refuses o) id (h.cell id) (.start r id' w)
      rw [if_pos rfl, cell_launch, if_neg (Ne.symm hcase)]
      simpa [cell, withExecution, synced, hput, hplan] using hsync
    | kept =>
      have hkeep := @keep (h.refuses o) id (h.cell id) (.start r id' w)
      simpa [cell, withExecution, withoutExecution, get_erase, hput, hplan, hcase] using hkeep
    | torn hw =>
      have hsync := @sync (h.refuses o) id (h.cell id) (.start r id' w)
      simpa [cell, withExecution, withoutExecution, synced,
        get_erase, hput, hplan, hcase] using hsync

theorem cell_resume (he : h.executions.get e.id = some e)
    (hstate : e.state = .yielded ∨ e.state = .checkpointed) :
    ActiveCellStep (h.refuses o) id (h.cell id) (.start r id' w)
      ((let p := commit o h e.resume w
        if p.2 then launchLocked p.1 e.id (e.epoch + 1) else p.1).cell id) := by
  by_cases hid : e.id = id
  · obtain ⟨mem, disk, heffect, hcell⟩ :=
      commit_cell (o := o) (h := h) (k := e.resume) (w := w) hid hid
    obtain ⟨t, d, hframe⟩ := commit_frame o h e.resume w
    have hi : (h.cell id).runs h.runs.length = none := by simp [cell]
    have hmem : (h.cell id).mem = some e := hid ▸ he
    dsimp only
    generalize (commit o h e.resume w).2 = ok at heffect
    cases ok with
    | true =>
      cases heffect
      rw [if_pos rfl, cell_launch, if_pos hid, hcell, hframe, hid]
      exact .resumed hmem hstate hi
    | false =>
      rw [if_neg (by simp), hcell]
      exact .unresumed hmem hstate heffect
  · refine .other (o := o) (k := e.resume) (w := w) hid hid ?_
    dsimp only
    split
    · rw [cell_launch, if_neg hid]
    · rfl

theorem started_cell (hstart : Started o h r id' w h') :
    ActiveCellStep (h.refuses o) id (h.cell id) (.start r id' w) (h'.cell id) := by
  cases hstart with
  | keep => exact .keep _
  | create hid hkey hnew _ hchunks => exact cell_create hid hkey hnew hchunks
  | resume he hstate => exact cell_resume he hstate

theorem cell_enter {operation : Operation} :
    cell { h with controls := h.controls ++ [⟨id', operation, .entered⟩] } id =
      if id' = id then (h.cell id).setControl h.controls.length ⟨id', operation, .entered⟩
      else h.cell id := by
  have hview := filter_concat h.controls ⟨id', operation, .entered⟩
    fun c : ControlRoutine => decide (c.id = id)
  simp only [decide_eq_true_eq] at hview
  simp only [cell, setControl, hview]
  split_ifs <;> rfl

theorem ActiveCellStep.of_run {r : RunRoutine} {place : RunPlace} {event : HarnessEvent}
    (hr : h.runs[i]? = some r) (hruns : h'.runs = h.runs)
    (hother : r.id ≠ id → h'.cell id = h.cell id)
    (hstep : r.id = id → (h.cell id).runs i = some r →
      ActiveCellStep (h.refuses o) id (h.cell id) event
        ((h'.cell id).setRun i { r with place := place })) :
    ActiveCellStep (h.refuses o) id (h.cell id) event ((h'.moveRun i r place).cell id) := by
  rw [cell_moveRun (hruns ▸ hr)]
  split
  · rename_i hid
    exact hstep hid (cell_runs.2 ⟨hr, hid⟩)
  · rename_i hid
    exact hother hid ▸ .keep _

theorem cell_afterSection {r : RunRoutine} (hr : h.runs[i]? = some r) :
    (h.afterSection i r place).cell id =
      if r.id = id then ((h.cell id).setRun i { r with place := place }).wait
        (if place = .exiting then none else (h.cell id).waiters) else h.cell id := by
  unfold afterSection
  split
  · rw [cell_moveRun (h := notifyLocked h r.id) hr, cell_notify]
    split_ifs <;> rfl
  · exact cell_moveRun hr

theorem run_cell {r : RunRoutine} (hr : h.runs[i]? = some r) (a : RunAnswer) :
    ActiveCellStep (h.refuses o) id (h.cell id) (.proceedRun i a)
      ((runStep o h i r a).cell id) := by
  have hacts := runAction_spec (a := a) r.epoch (h.executions.get r.id) r.place
  unfold runStep
  generalize runAction r.epoch (h.executions.get r.id) a r.place = action at hacts
  generalize hplace : r.place = place at hacts
  cases hacts with
  | stay => exact .keep _
  | panic => exact .panic _ _
  | move hmove hleaves =>
    exact .of_run hr rfl (fun _ => rfl) fun hid hrun =>
      .moveRun hrun (hplace ▸ hmove) (hid ▸ hleaves)
  | post c =>
    refine .of_run hr rfl (fun hid => by simp [cell, hid]) fun hid hrun => ?_
    simpa [cell, hid] using post (a := a) h.posted.length hrun hplace
  | repost c request hops ha =>
    refine .of_run hr rfl (fun hid => by simp [cell, hid]) fun hid hrun => ?_
    simpa [cell, hid] using repost h.posted.length hrun hplace ha
  | observe c ha =>
    refine .of_run hr rfl (fun hid => by simp [cell, hid]) fun hid hrun => ?_
    simpa [cell, hid] using observe hrun hplace ha
  | @write e k _ written unwritten he hsection =>
    refine .of_commit (o := o) (f := fun c ok => (c.setRun i
      { r with place := if ok then written else unwritten }).wait
        (if (if ok then written else unwritten) = .exiting then none else c.waiters)) he
      hsection.ids ?_ fun hid mem disk ok heffect =>
        .sectionRun (cell_runs.2 ⟨hr, hid⟩) (hid ▸ he) (hplace ▸ hsection) heffect
    obtain ⟨t, d, hframe⟩ := commit_frame o h k a.writes
    have hr' : (commit o h k a.writes).1.runs[i]? = some r := by
      rw [hframe]
      exact hr
    exact cell_afterSection hr'

theorem control_cell (hc : h.controls[j]? = some c) (a : ControlAnswer) :
    ActiveCellStep (h.refuses o) id (h.cell id) (.proceedControl j a)
      ((controlStep o h j c a).cell id) := by
  have hacts := controlAction_spec (a := a) (cell_quiet (h := h) c.id)
  unfold controlStep
  generalize controlAction h c a = action at hacts
  cases hacts with
  | stay => exact .keep _
  | panic => exact .panic _ _
  | move hmove =>
    rw [cell_moveControl hc]
    split
    · rename_i hid
      exact .moveControl (cell_controls.2 ⟨hc, hid⟩) (hid ▸ hmove)
    · exact .keep _
  | @write e k notice written he hsection =>
    refine .of_commit (o := o) (f := fun cell ok => (cell.setControl j
      { c with place := if ok then written else .answered }).wait
        (if ok then notice.channels h.nextWait cell.waiters else cell.waiters)) he
      hsection.ids ?_ fun hid mem disk ok heffect =>
        .sectionControl (cell_controls.2 ⟨hc, hid⟩) (hid ▸ he) (hid ▸ hsection) heffect
    obtain ⟨t, d, hframe⟩ := commit_frame o h k a.writes
    have hc' : (commit o h k a.writes).1.controls[j]? = some c := by
      rw [hframe]
      exact hc
    have hc'' : (notice.apply (commit o h k a.writes).1 c.id).controls[j]? = some c := by
      cases notice <;> exact hc'
    have hnext : (commit o h k a.writes).1.nextWait = h.nextWait := by rw [hframe]
    dsimp only
    split
    · rw [cell_moveControl hc'', cell_notice, hnext]
      split_ifs <;> rfl
    · exact cell_moveControl hc'

/-- What a restart leaves: the file, and no thread. -/
inductive Restarted (o : HarnessOptions) (h : Harness) : Harness → Prop
  | missing (hdisk : h.disk = none) : Restarted o h h.fresh
  | rejected : Restarted o h { h.fresh with process := .down }
  | kept {t : ExecutionTable} {l : Loaded} (p : Process) (hdisk : h.disk = some t)
      (hload : loadExecutions t.rows = .ok l) :
      Restarted o h
        { h.fresh with
          executions := l.executions
          idempotency := l.idempotency
          process := p }
  | written {t : ExecutionTable} {l : Loaded} (p : Process) (hdisk : h.disk = some t)
      (hload : loadExecutions t.rows = .ok l)
      (hfits : fitsState o l.executions.encoded = true) :
      Restarted o h
        { h.fresh with
          executions := l.executions
          idempotency := l.idempotency
          process := p
          disk := some l.executions.encoded }

theorem restart_spec (o : HarnessOptions) (h : Harness) (readable : Bool) (w : WriteOutcome) :
    Restarted o h (restart o h readable w) := by
  fun_cases restart o h readable w with
  | case1 hdisk => exact .missing hdisk
  | case2 | case3 => exact .rejected
  | case4 t hdisk _ l hload loaded _ h' hp =>
    have hwrite := persistLocked_spec o loaded w
    rw [hp] at hwrite
    cases hwrite with
    | written _ hfits => exact .written .up hdisk hload hfits
  | case5 t hdisk _ l hload loaded _ h' hp =>
    have hwrite := persistLocked_spec o loaded w
    rw [hp] at hwrite
    cases hwrite with
    | kept => exact .kept .down hdisk hload
    | torn _ hfits => exact .written .down hdisk hload hfits
  | case6 t hdisk _ l hload => exact .kept .up hdisk hload

theorem restart_cell (readable : Bool) (w : WriteOutcome) :
    CellStep (h.refuses o) id (h.cell id) (.restart readable w)
      ((restart o h readable w).cell id) := by
  have hrestart := restart_spec o h readable w
  generalize restart o h readable w = h' at hrestart
  cases hrestart with
  | missing hdisk =>
    have hload := @Reloaded.kept (h.cell id).disk .up
    simpa [cell, fresh, restarted, hdisk] using CellStep.restart (w := w) hload
  | rejected => exact CellStep.restart .rejected
  | kept p hdisk hload =>
    have hreload := @Reloaded.kept (h.cell id).disk p
    simpa [cell, fresh, restarted, hdisk, loadExecutions_get hload]
      using CellStep.restart (w := w) hreload
  | written p hdisk hload =>
    have hreload := @Reloaded.written (h.cell id).disk p
    simpa [cell, fresh, restarted, hdisk, loadExecutions_get hload, Function.comp_def]
      using CellStep.restart (w := w) hreload

/-- **Every step of the harness is, for each execution, a step of its cell.** -/
theorem step_cell (hstep : HarnessStep o h event h') (id : GoString) :
    CellStep (h.refuses o) id (h.cell id) event (h'.cell id) := by
  cases step_change hstep with
  | keep | close => exact .keep _
  | start hup hstart => exact .active hup (started_cell hstart)
  | enter hup id' operation =>
    rw [cell_enter]
    split
    · subst id'
      exact .active hup (.enter _ _)
    · exact .keep _
  | run hup hr a => exact .active hup (run_cell hr a)
  | control hup hc a => exact .active hup (control_cell hc a)
  | restart readable w => exact restart_cell readable w

end Steps

/-! ## Runs -/

def Cell.empty : Cell := ({} : Harness).cell []

section Runs

variable {o : HarnessOptions} {h : Harness} {tr : List (Transition Harness HarnessEvent)}

/-- **The invariant rule for cells.** The step may be taken under a condition that every transition
meets. -/
theorem cell_invariant {I : GoString → Cell → Prop} {C : GoString → Cell → HarnessEvent → Prop}
    (hrun : Run (HarnessStep o) {} tr h) (hC : ∀ t ∈ tr, ∀ id, C id (t.pre.cell id) t.label)
    (h₀ : ∀ id, I id .empty)
    (hI : ∀ refused id c event c', I id c → CellStep refused id c event c' → C id c event → I id c')
    (id : GoString) : I id (h.cell id) := by
  refine hrun.invariant_of (I := fun h => ∀ id, I id (h.cell id)) hC h₀ ?_ id
  intro h₁ event h₂ hcells hstep hcond id
  exact hI _ id _ event _ (hcells id) (step_cell hstep id) (hcond id)

end Runs

end VramGovernor.ComfyHarness
