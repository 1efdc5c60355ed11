import VramGovernor.ComfyHarness.Server

/-!
# What a step of the harness can do

A thread goes on without a write (`RunMove`, `ControlMove`), sends a POST, sees a history, or takes
a section that writes, with what each of those is sure of when it does (`RunSection`,
`ControlSection`). `runAction_spec`, `controlAction_spec` and `handleStart_spec` say that there is
nothing else; what later modules know of the code, they know from these.
-/

namespace VramGovernor.ComfyHarness

open GoString

/-! ## Writes -/

/-- The outcomes of writing the state file. -/
inductive Persisted (o : HarnessOptions) (h : Harness) (w : WriteOutcome) : Harness × Bool → Prop
  | written (hw : w = .written) (hfits : fitsState o h.executions.encoded = true) :
      Persisted o h w ({ h with disk := some h.executions.encoded }, true)
  | kept : Persisted o h w (h, false)
  | torn (hw : w = .torn) (hfits : fitsState o h.executions.encoded = true) :
      Persisted o h w ({ h with disk := some h.executions.encoded }, false)

theorem persistLocked_spec (o : HarnessOptions) (h : Harness) (w : WriteOutcome) :
    Persisted o h w (persistLocked o h w) := by
  unfold persistLocked
  dsimp only
  split
  · rename_i hfits
    cases w with
    | written => exact .written rfl hfits
    | unwritten => exact .kept
    | torn => exact .torn rfl hfits
  · exact .kept

/-- The outcomes of a commit. -/
inductive Committed (o : HarnessOptions) (h : Harness) (k : Commit) (w : Writes) :
    Harness × Bool → Prop
  | written (hfits : fitsState o (h.executions.put k.record).encoded = true) :
      Committed o h k w
        ({ h with
            executions := h.executions.put k.record
            disk := some (h.executions.put k.record).encoded }, true)
  | kept :
      Committed o h k w ({ h with executions := (h.executions.put k.record).put k.fallback }, false)
  | torn (hw : w.first = .torn) (hfits : fitsState o (h.executions.put k.record).encoded = true) :
      Committed o h k w
        ({ h with
            executions := (h.executions.put k.record).put k.fallback
            disk := some (h.executions.put k.record).encoded }, false)
  | rewritten
      (hfits : fitsState o ((h.executions.put k.record).put k.fallback).encoded = true) :
      Committed o h k w
        ({ h with
            executions := (h.executions.put k.record).put k.fallback
            disk := some ((h.executions.put k.record).put k.fallback).encoded }, false)

variable (o : HarnessOptions) (h : Harness) (k : Commit) (w : Writes)

theorem commit_spec : Committed o h k w (commit o h k w) := by
  unfold commit
  generalize hp : persistLocked o _ w.first = p
  have hfirst := hp ▸ persistLocked_spec o _ w.first
  cases hfirst with
  | written _ hfits => exact .written hfits
  | kept =>
    dsimp only
    split
    · generalize hq : persistLocked o _ w.second = q
      have hsecond := hq ▸ persistLocked_spec o _ w.second
      cases hsecond with
      | written _ hfits | torn _ hfits => exact .rewritten hfits
      | kept => exact .kept
    · exact .kept
  | torn hw hfits =>
    dsimp only
    split
    · generalize hq : persistLocked o _ w.second = q
      have hsecond := hq ▸ persistLocked_spec o _ w.second
      cases hsecond with
      | written _ hfits | torn _ hfits => exact .rewritten hfits
      | kept => exact .torn hw hfits
    · exact .torn hw hfits

theorem commit_ok : (commit o h k w).2 = !h.refuses o k w := by
  have hfirst : (commit o h k w).2 =
      (persistLocked o { h with executions := h.executions.put k.record } w.first).2 := by
    unfold commit
    split <;> rename_i hp <;> rw [hp]
  rw [hfirst, Harness.refuses]
  unfold persistLocked
  cases w.first <;> cases hfits : fitsState o (h.executions.put k.record).encoded <;> simp [hfits]

/-- A commit changes the executions and the file, and nothing else. -/
theorem commit_frame : ∃ t d, (commit o h k w).1 = { h with executions := t, disk := d } := by
  have hcommit := commit_spec o h k w
  generalize commit o h k w = p at hcommit
  cases hcommit <;> exact ⟨_, _, rfl⟩

/-! ## Runs -/

/-- Where a run goes without a write. -/
inductive RunMove (a : RunAnswer) : RunPlace → RunPlace → Prop
  | leave : RunMove a .top .exiting
  | exit : RunMove a .exiting .gone
  | dismiss (c : Chunk) (outcome : ChunkOutcome) : RunMove a (.chunk c (.returned outcome)) .exiting
  | invalid (c : Chunk) (e : GoString) :
      RunMove a (.chunk c .submitting) (.chunk c (.returned (.unresolved e)))
  | unsent (c : Chunk) (e : GoString) : RunMove a (.chunk c .submitting) (.chunk c (.marking e))
  | abandon (c : Chunk) (request hops : ℕ) (e : GoString) :
      RunMove a (.chunk c (.posting request hops)) (.chunk c (.marking e))
  | rejected (c : Chunk) (request hops : ℕ) {message : GoString}
      (ha : a.reply = .rejected message) :
      RunMove a (.chunk c (.posting request hops)) (.chunk c (.returned (.failed message)))
  | accepted (c : Chunk) (request hops : ℕ) {promptID : GoString}
      (ha : a.reply = .accepted promptID) (hne : promptID ≠ []) :
      RunMove a (.chunk c (.posting request hops)) (.chunk c (.accepting promptID))
  | fenced (c : Chunk) (promptID e : GoString) :
      RunMove a (.chunk c (.accepting promptID)) (.chunk c (.returned (.unresolved e)))
  | marked (c : Chunk) (cause : GoString) :
      RunMove a (.chunk c (.marking cause)) (.chunk c (.returned (.unresolved cause)))
  | unobserved (c : Chunk) (promptID e : GoString) :
      RunMove a (.chunk c (.polling promptID)) (.chunk c (.returned (.unresolved e)))
  | failed (c : Chunk) {promptID message : GoString}
      (ha : comfyHistory promptID a.history = .failed message) :
      RunMove a (.chunk c (.polling promptID)) (.chunk c (.returned (.failed message)))

/-- The sections of a run that write, with the place after a write and after one that failed. -/
inductive RunSection (e : Execution) : RunPlace → Commit → RunPlace → RunPlace → Prop
  | complete (hstate : e.state = .running) (hdone : e.chunks[e.nextChunk]? = none) :
      RunSection e .top e.complete .exiting .exiting
  | refuse (hstate : e.state = .running) : RunSection e .top e.refuseResubmission .exiting .exiting
  | submit {c : Chunk} (hstate : e.state = .running) (hc : e.chunks[e.nextChunk]? = some c)
      (hunset : e.submission = .unset) :
      RunSection e .top (e.submit c.id) (.chunk c .submitting) .exiting
  | accept {c : Chunk} {promptID : GoString} (message : GoString)
      (hsubmitting : e.submission = .submitting) :
      RunSection e (.chunk c (.accepting promptID)) (e.accept promptID)
        (.chunk c (.polling promptID)) (.chunk c (.returned (.unresolved message)))
  | acceptLate {c : Chunk} {promptID : GoString} (message : GoString)
      (hchunk : e.submittingChunk = c.id) :
      RunSection e (.chunk c (.accepting promptID)) (e.acceptLate promptID)
        (.chunk c (.returned (.unresolved message))) (.chunk c (.returned (.unresolved message)))
  | unknown {c : Chunk} {cause : GoString} (hsubmitting : e.submission = .submitting) :
      RunSection e (.chunk c (.marking cause)) (e.submissionUnknown cause)
        (.chunk c (.returned (.unresolved cause))) (.chunk c (.returned (.unresolved cause)))
  | failed {c : Chunk} {message : GoString} (hstate : e.state = .running) :
      RunSection e (.chunk c (.returned (.failed message))) (e.chunkFailed message)
        .exiting .exiting
  | unresolved {c : Chunk} {message : GoString} (hstate : e.state = .running) :
      RunSection e (.chunk c (.returned (.unresolved message))) (e.chunkUncertain message) .exiting
        .exiting
  | missReference {c : Chunk} {promptID history : GoString} (hstate : e.state = .running) :
      RunSection e (.chunk c (.returned (.finished promptID history))) e.missReference .exiting
        .exiting
  | boundary {c : Chunk} {promptID history : GoString} {histories : GoMap GoString}
      {ref : CheckpointRef} (hstate : e.state = .running)
      (hhistories : e.histories = some histories) :
      RunSection e (.chunk c (.returned (.finished promptID history)))
        (e.reachBoundary histories promptID history ref) .exiting .exiting
  | advance {c : Chunk} {promptID history : GoString} {histories : GoMap GoString}
      (hstate : e.state = .running) (hhistories : e.histories = some histories) :
      RunSection e (.chunk c (.returned (.finished promptID history)))
        (e.advance histories promptID history) .top .exiting

/-- What a run can do, by the record that it finds. -/
inductive RunActs (a : RunAnswer) (epoch : UInt64) (e : Option Execution) :
    RunPlace → RunAction → Prop
  | stay (place : RunPlace) : RunActs a epoch e place .stay
  | move {place place' : RunPlace} (hmove : RunMove a place place')
      (hleaves : place' = .exiting → ∀ x, e = some x → x.state = .running → x.epoch ≠ epoch) :
      RunActs a epoch e place (.move place')
  | post (c : Chunk) : RunActs a epoch e (.chunk c .submitting) (.post c 0)
  | repost (c : Chunk) (request hops : ℕ) (ha : a.reply = .redirected) :
      RunActs a epoch e (.chunk c (.posting request hops)) (.post c (hops + 1))
  | observe (c : Chunk) {promptID history : GoString}
      (ha : comfyHistory promptID a.history = .success history) :
      RunActs a epoch e (.chunk c (.polling promptID)) (.observe c promptID history)
  | write {x : Execution} {k : Commit} {place written unwritten : RunPlace} (he : e = some x)
      (hsection : RunSection x place k written unwritten) :
      RunActs a epoch e place (.write k written unwritten)
  | panic {x : Execution} (c : Chunk) (promptID history : GoString) (he : e = some x)
      (hstate : x.state = .running) (hnil : x.histories = none) :
      RunActs a epoch e (.chunk c (.returned (.finished promptID history))) .panic

section Runs

variable {a : RunAnswer} (epoch : UInt64) (e : Option Execution) (c : Chunk)

theorem runTop_spec : RunActs a epoch e .top (runTop epoch e) := by
  unfold runTop
  split
  · exact .move .leave nofun
  rename_i e
  split
  · exact .move .leave (by grind)
  have hstate : e.state = .running := by simp_all
  split
  · rename_i hdone
    exact .write rfl (.complete hstate hdone)
  rename_i c hc
  split
  · exact .write rfl (.refuse hstate)
  · exact .write rfl (.submit hstate hc (by simp_all))

theorem runAccept_spec (promptID : GoString) :
    RunActs a epoch e (.chunk c (.accepting promptID)) (runAccept epoch c promptID e) := by
  unfold runAccept
  split
  · exact .move (.fenced c promptID _) nofun
  split
  · exact .write rfl (.accept _ (by simp_all))
  split
  · exact .write rfl (.acceptLate _ (by simp_all))
  · exact .move (.fenced c promptID _) nofun

theorem markSubmissionUnknown_spec (cause : GoString) :
    RunActs a epoch e (.chunk c (.marking cause)) (markSubmissionUnknown epoch c cause e) := by
  unfold markSubmissionUnknown
  split
  · exact .move (.marked c cause) nofun
  split
  · exact .write rfl (.unknown (by simp_all))
  · exact .move (.marked c cause) nofun

theorem runReturned_spec (outcome : ChunkOutcome) :
    RunActs a epoch e (.chunk c (.returned outcome)) (runReturned epoch outcome a e) := by
  unfold runReturned
  split
  · exact .move (.dismiss c outcome) nofun
  rename_i e
  split
  · exact .move (.dismiss c outcome) (by grind)
  have hstate : e.state = .running := by simp_all
  split
  · exact .write rfl (.failed hstate)
  · exact .write rfl (.unresolved hstate)
  · split
    · rename_i hnil
      exact .panic c _ _ rfl hstate hnil
    rename_i histories hhistories
    split
    · split
      · exact .write rfl (.missReference hstate)
      · exact .write rfl (.boundary hstate hhistories)
    · exact .write rfl (.advance hstate hhistories)

theorem runAction_spec (place : RunPlace) :
    RunActs a epoch e place (runAction epoch e a place) := by
  fun_cases runAction epoch e a place with
  | case1 => exact runTop_spec epoch e
  | case2 => exact .post _
  | case3 => exact .move (.invalid _ _) nofun
  | case4 => exact .move (.unsent _ _) nofun
  | case5 _ _ _ hreply => exact .repost _ _ _ hreply
  | case6 | case8 | case10 => exact .move (.abandon _ _ _ _) nofun
  | case7 _ _ _ _ hreply => exact .move (.rejected _ _ _ hreply) nofun
  | case9 _ _ _ _ hreply hne => exact .move (.accepted _ _ _ hreply hne) nofun
  | case11 => exact runAccept_spec epoch e _ _
  | case12 => exact markSubmissionUnknown_spec epoch e _ _
  | case13 | case16 | case18 => exact .move (.unobserved _ _ _) nofun
  | case14 _ _ _ hfailed => exact .move (.failed _ hfailed) nofun
  | case15 _ _ _ hsuccess => exact .observe _ hsuccess
  | case20 => exact runReturned_spec epoch e _ _
  | case21 => exact .move .exit nofun
  | case17 | case19 | case22 => exact .stay _

end Runs

/-! ## Control requests -/

/-- Where a control request goes without a write; `idle` follows if no run is counted. -/
inductive ControlMove (a : ControlAnswer) (idle : Prop) (e : Option Execution) :
    ControlPlace → ControlPlace → Prop
  | answer {place : ControlPlace}
      (hends : place = .entered → ∀ x, e = some x → x.state ≠ .running) :
      ControlMove a idle e place .answered
  | readQueue {x : Execution} (he : e = some x) (hrest : atRest x.state = false) (hidle : idle) :
      ControlMove a idle e .entered (.queueing x.epoch)
  | queued (epoch : UInt64) : ControlMove a idle e (.queueing epoch) (.queued epoch a.queue.idle)
  | delete (epoch : UInt64) (promptID : GoString) :
      ControlMove a idle e (.observing epoch promptID) (.deleting epoch promptID)
  | confirm (epoch : UInt64) (promptID : GoString) :
      ControlMove a idle e (.deleting epoch promptID) (.confirming epoch promptID)
  | absent (epoch : UInt64) {promptID : GoString} {pending running : List GoString}
      (ha : a.queue = .rows pending running) (hpending : promptID ∉ pending)
      (hrunning : promptID ∉ running) :
      ControlMove a idle e (.confirming epoch promptID) (.recalling epoch promptID)
  | stopped (epoch : UInt64) (promptID : GoString) :
      ControlMove a idle e (.recalling epoch promptID) (.stopped epoch none)
  | unstopped (epoch : UInt64) (message : GoString) {place : ControlPlace}
      (hplace : place ≠ .entered ∧ place ≠ .answered) :
      ControlMove a idle e place (.stopped epoch (some message))
  | wake (wait : ℕ) : ControlMove a idle e (.waiting wait) .woken

/-- The sections of a control request that write, with what follows a write. -/
inductive ControlSection (op : Operation) (idle : Prop) (e : Execution) :
    ControlPlace → Commit → ControlNotice → ControlPlace → Prop
  | cancelUnsubmitted (hop : op = .cancel) (hrest : atRest e.state = false)
      (hunset : e.submission = .unset) (hprompt : e.currentPrompt = []) :
      ControlSection op idle e .entered e.cancelUnsubmitted .wake .answered
  | giveUp (hop : op = .cancel) (hrest : atRest e.state = false)
      (hsubmitted : ¬(e.submission = .unset ∧ e.currentPrompt = [])) :
      ControlSection op idle e .entered e.cancelUncertain .silent .answered
  | giveUpQueued (epoch : UInt64) (b : Bool) :
      ControlSection op idle e (.queued epoch b) e.cancelUncertain .silent .answered
  | cancelProven (epoch : UInt64) (hidle : idle) :
      ControlSection op idle e (.queued epoch true) e.cancelProven .wake .answered
  | cancelIntent (hop : op = .cancel) (hrest : atRest e.state = false)
      (hsub : e.submission ≠ .submitting) (hsub' : e.submission ≠ .unknown)
      (hprompt : e.currentPrompt ≠ []) :
      ControlSection op idle e .entered e.cancelIntent .silent
        (.observing (e.epoch + 1) e.currentPrompt)
  | stopFailed (epoch : UInt64) {message : GoString} (hstate : e.state = .cancelling) :
      ControlSection op idle e (.stopped epoch (some message)) (e.stopFailed message) .silent
        .answered
  | stopConfirmed (epoch : UInt64) (hstate : e.state = .cancelling) :
      ControlSection op idle e (.stopped epoch none) e.stopConfirmed .wake .answered
  | request (hop : op ≠ .cancel) (wait : ℕ) (hstate : e.state = .running) :
      ControlSection op idle e .entered (e.request op.requested) .await (.waiting wait)

/-- What a control request can do, by the record that it finds. -/
inductive ControlActs (a : ControlAnswer) (op : Operation) (idle : Prop) (e : Option Execution)
    (place : ControlPlace) : ControlAction → Prop
  | stay : ControlActs a op idle e place .stay
  | move {place' : ControlPlace} (hmove : ControlMove a idle e place place') :
      ControlActs a op idle e place (.move place')
  | write {x : Execution} {k : Commit} {notice : ControlNotice} {written : ControlPlace}
      (he : e = some x) (hsection : ControlSection op idle x place k notice written) :
      ControlActs a op idle e place (.write k notice written)
  | panic (hplace : place = .woken ∨ ∃ epoch message, place = .stopped epoch (some message))
      (hnone : e = none) : ControlActs a op idle e place .panic

section Controls

variable {a : ControlAnswer} {op : Operation} {idle : Prop}

theorem cancelEntered_spec {active : ℕ} (hidle : active = 0 → idle) (e : Execution)
    (hop : op = .cancel) : ControlActs a op idle (some e) .entered (cancelEntered active e) := by
  unfold cancelEntered
  split
  · rename_i hrest
    refine .move (.answer ?_)
    rintro - _ ⟨rfl⟩ hstate
    simp [atRest, hstate] at hrest
  rename_i hrest
  rw [Bool.not_eq_true] at hrest
  split
  · rename_i hunset
    obtain ⟨hunset, hprompt⟩ : e.submission = .unset ∧ e.currentPrompt = [] := by simpa using hunset
    exact .write rfl (.cancelUnsubmitted hop hrest hunset hprompt)
  rename_i hsubmitted
  split
  · split
    · rename_i hzero
      exact .move (.readQueue rfl hrest (hidle hzero))
    · exact .write rfl (.giveUp hop hrest (by simpa using hsubmitted))
  · rename_i hknown
    obtain ⟨⟨hsubmitting, hunknown⟩, hprompt⟩ :
        (e.submission ≠ .submitting ∧ e.submission ≠ .unknown) ∧ e.currentPrompt ≠ [] := by
      simpa using hknown
    exact .write rfl (.cancelIntent hop hrest hsubmitting hunknown hprompt)

theorem cancelQueued_spec {active : ℕ} (hidle : active = 0 → idle) (epoch : UInt64) (b : Bool)
    (e : Option Execution) :
    ControlActs a op idle e (.queued epoch b) (cancelQueued active epoch b e) := by
  unfold cancelQueued
  split
  · exact .move (.answer nofun)
  split
  · obtain ⟨rfl, hzero⟩ : b = true ∧ active = 0 := by simp_all
    exact .write rfl (.cancelProven epoch (hidle hzero))
  · exact .write rfl (.giveUpQueued epoch b)

theorem cancelStopped_spec (epoch : UInt64) (failure : Option GoString) (e : Option Execution) :
    ControlActs a op idle e (.stopped epoch failure) (cancelStopped epoch failure e) := by
  unfold cancelStopped
  split
  · exact .move (.answer nofun)
  · exact .panic (.inr ⟨epoch, _, rfl⟩) rfl
  · split
    · exact .write rfl (.stopConfirmed epoch (by simp_all))
    · exact .move (.answer nofun)
  · split
    · exact .write rfl (.stopFailed epoch (by simp_all))
    · exact .move (.answer nofun)

theorem controlAction_spec {h : Harness} {c : ControlRoutine}
    (hidle : h.activeRuns c.id = 0 → idle) :
    ControlActs a c.operation idle (h.executions.get c.id) c.place (controlAction h c a) := by
  have hfails (epoch : UInt64) (message : GoString)
      (hplace : c.place ≠ .entered ∧ c.place ≠ .answered) :
      ControlActs a c.operation idle (h.executions.get c.id) c.place
        (.move (.stopped epoch (some message))) :=
    .move (.unstopped epoch message hplace)
  fun_cases controlAction h c a with
  | case1 | case3 | case25 | case27 => exact .move (.answer (by simp_all))
  | case2 hplace e he hop => exact hplace ▸ he ▸ cancelEntered_spec hidle e hop
  | case4 hplace e he hop hstate =>
    exact hplace ▸ .write he (.request hop _ (by simpa using hstate))
  | case5 epoch hplace => exact hplace ▸ .move (.queued epoch)
  | case6 epoch b hplace => exact hplace ▸ cancelQueued_spec hidle epoch b _
  | case7 _ _ _ hplace | case8 _ _ _ hplace | case10 _ _ _ hplace | case11 _ _ _ hplace
  | case13 _ _ _ hplace | case14 _ _ _ hplace | case15 _ _ _ hplace | case18 _ _ _ hplace
  | case19 _ _ _ hplace | case20 _ _ _ hplace | case21 _ _ _ hplace =>
    exact hfails _ _ (by simp [hplace])
  | case9 epoch promptID hplace => exact hplace ▸ .move (.delete epoch promptID)
  | case12 epoch promptID hplace => exact hplace ▸ .move (.confirm epoch promptID)
  | case17 epoch promptID hplace _ _ hqueue hrunning hpending =>
    exact hplace ▸ .move (.absent epoch hqueue hpending hrunning)
  | case22 epoch promptID hplace => exact hplace ▸ .move (.stopped epoch promptID)
  | case23 epoch failure hplace => exact hplace ▸ cancelStopped_spec epoch failure _
  | case24 wait hplace => exact hplace ▸ .move (.wake wait)
  | case28 hplace hnone => exact hplace ▸ .panic (.inl rfl) (by simpa using hnone)
  | case16 | case26 | case29 => exact .stay

end Controls

/-! ## Starts -/

/-- The state in which a new execution is written. -/
def Harness.withExecution (h : Harness) (r : StartRequest) (chunks : List Chunk) (id : GoString) :
    Harness :=
  { h with
    executions := h.executions.put (newExecution r chunks id)
    idempotency := h.idempotency.insert r.idempotencyKey id
    plans := h.plans.insert id chunks }

/-- The state after a new execution could not be written. -/
def Harness.withoutExecution (h : Harness) (r : StartRequest) (id : GoString) : Harness :=
  { h with
    executions := h.executions.erase id
    idempotency := h.idempotency.erase r.idempotencyKey }

/-- What a start request can do. -/
inductive Started (o : HarnessOptions) (h : Harness) (r : StartRequest) (id : GoString)
    (w : Writes) : Harness → Prop
  | keep : Started o h r id w h
  | create {chunks : List Chunk} (hid : id ≠ []) (hkey : r.idempotencyKey ≠ [])
      (hnew : h.plans.lookup id = none)
      (hfree : (h.idempotency.lookup r.idempotencyKey).getD [] = [])
      (hchunks : ChunksValid chunks) :
      Started o h r id w
        (let p := persistLocked o (h.withExecution r chunks id) w.first
         if p.2 then launchLocked p.1 id 1 else p.1.withoutExecution r id)
  | resume {e : Execution} (he : h.executions.get e.id = some e)
      (hstate : e.state = .yielded ∨ e.state = .checkpointed) :
      Started o h r id w
        (let p := commit o h e.resume w
         if p.2 then launchLocked p.1 e.id (e.epoch + 1) else p.1)

variable {o : HarnessOptions} {h : Harness}

theorem handleStart_spec (r : StartRequest) {id : GoString} (w : Writes) (hid : id ≠ [])
    (hnew : h.plans.lookup id = none) : Started o h r id w (handleStart o h r id w) := by
  fun_cases handleStart o h r id w with
  | case4 hrequest chunks hparse _ hfree =>
    have hkey : r.idempotencyKey ≠ [] := by simp_all
    unfold createExecution
    split
    · exact .keep
    have hcreate := Started.create (o := o) (w := w) hid hkey hnew hfree (parseChunks_valid hparse)
    rcases hp : persistLocked o (h.withExecution r chunks id) w.first with ⟨h₁, _ | _⟩
    all_goals
      rw [hp] at hcreate
      simp only [Harness.withExecution] at hp
      simp only [hp]
      exact hcreate
  | case6 _ chunks _ _ existing _ hget =>
    have hresume (hstate : (existing.state = .yielded || existing.state = .checkpointed) = true) :
        Started o h r id w _ := .resume (e := existing) (ExecutionTable.id_of_get hget ▸ hget)
          (by simpa using hstate)
    fun_cases resumeExecution o h r chunks existing w with
    | case4 _ _ hstate _ h' hp | case5 _ _ hstate _ h' hp => simpa [hp] using hresume hstate
    | _ => exact .keep
  | _ => exact .keep

/-! ## Steps -/

/-- **What a step can do.** -/
inductive HarnessChange (o : HarnessOptions) (h : Harness) : HarnessEvent → Harness → Prop
  | keep (event : HarnessEvent) : HarnessChange o h event h
  | close : HarnessChange o h .close { h with closed := true }
  | start {r : StartRequest} {id : GoString} {w : Writes} {h' : Harness} (hup : h.process = .up)
      (hstart : Started o h r id w h') : HarnessChange o h (.start r id w) h'
  | enter (hup : h.process = .up) (id : GoString) (operation : Operation) :
      HarnessChange o h (.control id operation)
        { h with controls := h.controls ++ [⟨id, operation, .entered⟩] }
  | run {i : ℕ} {r : RunRoutine} (hup : h.process = .up) (hr : h.runs[i]? = some r)
      (a : RunAnswer) :
      HarnessChange o h (.proceedRun i a) (runStep o h i r a)
  | control {j : ℕ} {c : ControlRoutine} (hup : h.process = .up) (hc : h.controls[j]? = some c)
      (a : ControlAnswer) : HarnessChange o h (.proceedControl j a) (controlStep o h j c a)
  | restart (readable : Bool) (w : WriteOutcome) :
      HarnessChange o h (.restart readable w) (restart o h readable w)

theorem step_change {event : HarnessEvent} {h' : Harness} (hstep : HarnessStep o h event h') :
    HarnessChange o h event h' := by
  obtain ⟨hfresh, rfl⟩ := hstep
  unfold Harness.step
  split
  · exact .restart _ _
  split
  · rename_i hup
    split
    · obtain ⟨hid, hnew⟩ := Bool.and_eq_true_iff.1 hfresh
      exact .start hup (handleStart_spec _ _ (of_decide_eq_true hid)
        (Option.isNone_iff_eq_none.1 hnew))
    · exact .enter hup _ _
    · split
      · rename_i hc
        exact .control hup hc _
      · exact .keep _
    · split
      · rename_i hr
        exact .run hup hr _
      · exact .keep _
    · exact .close
    · exact .keep _
  · exact .keep _

end VramGovernor.ComfyHarness
