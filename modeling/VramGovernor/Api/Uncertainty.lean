import VramGovernor.Api.NodeCommandTasks

/-!
# An uncertain command stays uncertain until it is settled

A command that crossed a side effect with an unknown outcome is marked uncertain, and every handler
may hold a copy of its row from before the mark. A swap compares the uncertainty of the row with
that of the copy, so the question is which copies may be uncertain: `Task.Guarded` says it for every
task. Only a settlement writes an uncertain copy back as certain.

`Keeps` is what every other write does to a row; `Task.exec_change` is the step,
`uncertain_until_settled` the run.
-/

namespace VramGovernor.Api

open GoString GoMap Store NodeCommandTable Controller
open NodeAgent (CommandName)

/-! ## Rows -/

/-- The queries with which the controller reconciles other commands. -/
def isReconcilingQuery (command : CommandName) : Prop :=
  command = .queryModelState ∨ command = .checkpointStateQuery

variable {row : NodeCommandRow} {m : NodeCommandTable} {task : Task} {s : Controller}

theorem not_isReconcilingQuery (h : row.isResidencyMutation = true) :
    ¬isReconcilingQuery row.command := by
  rw [NodeCommandRow.isResidencyMutation, Bool.and_eq_true, decide_eq_true_eq] at h
  rintro (hq | hq)
  · exact h.2 hq
  · rw [hq] at h
    exact absurd h.1 (by decide)

/-- A row has the evidence of an authoritative observation only if it is settled by one. -/
def Sound (row : NodeCommandRow) : Prop :=
  row.evidenceKind = authoritativeObservation → row.isSettled = true

/-- What a write other than a settlement does to a row. -/
structure Keeps (row row' : NodeCommandRow) : Prop where
  uncertain : ¬isReconcilingQuery row.command → row.uncertain = true →
    row'.uncertain = true ∧ row'.attempts = row.attempts ∧ row'.command = row.command
  settled : row.isSettled = true → row' = row

open Keeps

theorem Keeps.refl (row : NodeCommandRow) : Keeps row row :=
  ⟨fun _ h => ⟨h, rfl, rfl⟩, fun _ => rfl⟩

theorem isSettled_iff : row.isSettled = true ↔
    row.uncertain = false ∧ (row.status = .succeeded ∨ row.status = .failed) ∧
      row.evidenceKind = authoritativeObservation := by
  simp [NodeCommandRow.isSettled, and_assoc]

theorem Sound.evidenceKind_ne (h : Sound row)
    (hopen : row.uncertain = true ∨ row.status ≠ .succeeded ∧ row.status ≠ .failed) :
    row.evidenceKind ≠ authoritativeObservation := by
  intro he
  obtain ⟨hcertain, hstatus, -⟩ := isSettled_iff.1 (h he)
  rcases hopen with hu | ⟨hs, hf⟩
  · rw [hcertain] at hu
    cases hu
  · exact hstatus.elim hs hf

theorem Keeps.of_marked {updated : NodeCommandRow} (hs : row.isSettled = false)
    (h : updated.uncertain = true ∧ updated.attempts = row.attempts ∧
      updated.command = row.command) : Keeps row updated :=
  ⟨fun _ _ => h, fun hs' => by rw [hs] at hs'; cases hs'⟩

/-! ## Tables -/

def SoundTable (m : NodeCommandTable) : Prop :=
  ∀ id row, m.nodeCommands.lookup id = some row → Sound row

variable {id : GoString}

/-! ## Tasks -/

/-- What the copies of a task may be. -/
def Task.Guarded : Task → Prop
  | send command _ =>
    Sound command ∧ (isReconcilingQuery command.command ∨ command.uncertain = false)
  | reopenWrite row | expire row =>
    row.uncertain = false ∧ row.evidenceKind ≠ authoritativeObservation
  | dispatchRow command => Sound command
  | createQuery _ request _ => isReconcilingQuery request.command
  | observe command _ | rejectQuery command _ _ =>
    isReconcilingQuery command.command ∧ command.evidenceKind ≠ authoritativeObservation
  | writeResult command _ =>
    (isReconcilingQuery command.command ∨ command.uncertain = false) ∧
      command.evidenceKind ≠ authoritativeObservation
  | settleWrite original observed _ => boundToOriginal original observed = true
  | backoff latest => latest.uncertain = true ∧ latest.evidenceKind ≠ authoritativeObservation
  | _ => True

def AllGuarded (tasks : List Task) : Prop := ∀ task ∈ tasks, task.Guarded

@[simp] theorem allGuarded_nil : AllGuarded [] := by simp [AllGuarded]

@[simp] theorem allGuarded_cons {tasks : List Task} :
    AllGuarded (task :: tasks) ↔ task.Guarded ∧ AllGuarded tasks := by simp [AllGuarded]

@[simp] theorem allGuarded_append {tasks tasks' : List Task} :
    AllGuarded (tasks ++ tasks') ↔ AllGuarded tasks ∧ AllGuarded tasks' := by
  simp [AllGuarded, or_imp, forall_and]

@[simp] theorem unreconciled_guarded (id : GoString) (recovering : Bool) :
    AllGuarded (unreconciled id recovering) := by
  cases recovering <;> simp [unreconciled, Task.Guarded]

@[simp] theorem failed_guarded (id : GoString) (use : QueryUse) : AllGuarded (use.failed id) := by
  cases use <;> simp [QueryUse.failed]

@[simp] theorem issued_guarded (original query : NodeCommandRow) (use : QueryUse) :
    AllGuarded (use.issued original query) := by
  cases use <;> simp [QueryUse.issued, Task.Guarded]

theorem reading_guarded {missing : List Task} {found : NodeCommandRow → List Task}
    (hmissing : AllGuarded missing)
    (hfound : ∀ row, m.nodeCommands.lookup id = some row → AllGuarded (found row)) :
    AllGuarded (reading m id missing found).2 := by
  unfold reading
  cases hl : m.nodeCommands.lookup id with
  | none => exact hmissing
  | some row => exact hfound row hl

theorem sendNodeCommand_guarded (m : NodeCommandTable) (a : Answers) (command : NodeCommandRow)
    (execution : Bool) : AllGuarded (sendNodeCommand m a command execution).2 := by
  unfold sendNodeCommand
  split_ifs <;> try exact allGuarded_nil
  simp only [deliverTasks]
  split
  · exact allGuarded_nil
  · split_ifs <;> simp [Task.Guarded]

theorem reopenTasks_guarded {latest : NodeCommandRow} (h : Sound latest) :
    AllGuarded (reopenTasks latest) := by
  unfold reopenTasks
  split_ifs with hopen
  · exact allGuarded_nil
  · simp only [Bool.or_eq_true, decide_eq_true_eq, not_or, not_not, Bool.not_eq_true] at hopen
    have hne := h.evidenceKind_ne (.inr (by simp [hopen.1]))
    exact allGuarded_cons.2 ⟨⟨hopen.2, hne⟩, allGuarded_nil⟩

theorem waitTasks_guarded (a : Answers) (id : GoString) (current : NodeCommandRow) :
    AllGuarded (waitTasks a id current) := by
  unfold waitTasks
  split_ifs <;> simp [Task.Guarded]

variable {command : NodeCommandRow} {e : ControllerEvent}

theorem dispatchTasks_guarded (now : GoTime) (h : Sound command) :
    AllGuarded (dispatchTasks now command) := by
  unfold dispatchTasks
  split_ifs with hopen hu
  · exact allGuarded_nil
  · simp [Task.Guarded]
  · have hne : command.evidenceKind ≠ authoritativeObservation := by
      refine h.evidenceKind_ne (.inr ⟨fun hs => ?_, fun hf => ?_⟩)
      · exact hopen (by simp [hs])
      · exact hopen (by simp [hf])
    simp [Task.Guarded, hne, hu]
  · simp [Task.Guarded, h, hu]

theorem reconcileTasks_guarded (a : Answers) (original : NodeCommandRow) (recovering : Bool) :
    AllGuarded (reconcileTasks a original recovering) := by
  unfold reconcileTasks
  split_ifs <;> simp [Task.Guarded]

theorem queryCommand_reconciles (original : NodeCommandRow) :
    isReconcilingQuery (queryCommand original) := by
  unfold queryCommand isReconcilingQuery
  split_ifs <;> simp

variable {a : Answers}

/-- A query that is sent again is a row of the table, and one of a query. -/
theorem issueTasks_guarded (hm : SoundTable m) (ha : RangeOrder m.nodeCommands a.rows)
    (original : NodeCommandRow) (use : QueryUse) : AllGuarded (issueTasks a original use) := by
  unfold issueTasks
  by_cases hswitch : original.command = .switchRuntimeProfile
  · rw [if_pos hswitch]
    exact failed_guarded _ _
  · rw [if_neg hswitch]
    cases queryArgs original with
    | none => exact failed_guarded _ _
    | some args =>
      dsimp only
      cases hf : a.rows.find? fun e => reusableQuery original args a.now e.2 with
      | none => exact allGuarded_cons.2 ⟨queryCommand_reconciles original, allGuarded_nil⟩
      | some e =>
        obtain ⟨hl, hreuse⟩ := ha.lookup_of_find? hf
        have hcommand : e.2.command = queryCommand original := by
          simp only [reusableQuery, nodeCommandReplayMatches, Bool.and_eq_true,
            decide_eq_true_eq] at hreuse
          exact hreuse.1.1.1.2
        have hq : isReconcilingQuery e.2.command := hcommand ▸ queryCommand_reconciles original
        refine allGuarded_append.2 ⟨?_, issued_guarded _ _ _⟩
        split_ifs
        · exact allGuarded_nil
        · exact allGuarded_cons.2 ⟨⟨hm _ _ hl, .inl hq⟩, allGuarded_nil⟩

theorem awaitTasks_guarded (a : Answers) (original query current : NodeCommandRow) (failures : ℕ)
    (recovering : Bool) : AllGuarded (awaitTasks a original query current failures recovering) := by
  unfold awaitTasks
  by_cases hover : windowOver original a.now = true
  · rw [if_pos hover]
    exact unreconciled_guarded _ _
  · cases current.status <;> dsimp only <;> split_ifs <;> simp [Task.Guarded]

/-- A result is recorded over a copy that is certain, unless it is the result of a query. -/
theorem receiveTasks_guarded (h : Sound command) (r : CommandResultPayload) :
    AllGuarded (receiveTasks command r) := by
  unfold receiveTasks
  split_ifs with hnode hpromote hdone hstale hquery
  · exact allGuarded_nil
  · simp [Task.Guarded]
  · exact allGuarded_nil
  · exact allGuarded_nil
  all_goals
    have hne : command.evidenceKind ≠ authoritativeObservation := by
      refine h.evidenceKind_ne (.inr ⟨fun hs => ?_, fun hf => ?_⟩)
      · exact hdone (by simp [hs])
      · exact hdone (by simp [hf])
  · simp only [Bool.and_eq_true, decide_eq_true_eq] at hquery
    simp [Task.Guarded, isReconcilingQuery, hquery.1.1, hne]
  · have hcertain : isReconcilingQuery command.command ∨ command.uncertain = false := by
      by_cases hq : command.command = .queryModelState
      · exact .inl (.inl hq)
      · have hr : r.uncertain = false := by simpa [hq] using hpromote
        exact .inr (by simpa [hq, hr] using hstale)
    simp [Task.Guarded, hcertain, hne]

theorem settleTasks_guarded (a : Answers) (original : NodeCommandRow) (observed : WireObject)
    (recovering : Bool) : AllGuarded (settleTasks a original observed recovering) := by
  unfold settleTasks
  split_ifs with h₁ h₂ h₃ h₄ hbound h₆ <;>
    first
      | exact allGuarded_nil
      | exact unreconciled_guarded _ _
      | exact allGuarded_cons.2 ⟨by simpa [Task.Guarded] using hbound, allGuarded_nil⟩

theorem recoverTasks_guarded (now : GoTime) (row : NodeCommandRow) :
    AllGuarded (recoverTasks now row) := by
  unfold recoverTasks
  split_ifs <;> simp [Task.Guarded]

theorem recordedTasks_guarded (command : NodeCommandRow) (r : CommandResultPayload)
    (swapped : Except GoError NodeCommandRow) : AllGuarded (recordedTasks command r swapped) := by
  cases swapped with
  | error e => exact allGuarded_nil
  | ok stored =>
    simp only [recordedTasks]
    split_ifs <;> simp [Task.Guarded]

theorem settledTasks_guarded (id : GoString) (recovering : Bool)
    (swapped : Except GoError NodeCommandRow) :
    AllGuarded (settledTasks id recovering swapped) := by
  cases swapped with
  | error e => simp [settledTasks, Task.Guarded]
  | ok settled =>
    simp only [settledTasks]
    split_ifs <;> simp

/-! ## What a task writes -/

theorem sound_of_ne (h : row.evidenceKind ≠ authoritativeObservation) :
    Sound row := fun he => absurd he h

theorem recorded_frame (command : NodeCommandRow) (r : CommandResultPayload) (now : GoTime) :
    (recorded command r now).command = command.command ∧
      (recorded command r now).evidenceKind = command.evidenceKind := by
  unfold recorded withOutcome
  split_ifs <;> exact ⟨rfl, rfl⟩

theorem settledRow_isSettled (a : Answers) (original : NodeCommandRow) (observed : WireObject) :
    (settledRow a original observed).isSettled = true := by
  refine isSettled_iff.2 ⟨rfl, ?_, rfl⟩
  simp only [settledRow]
  split_ifs
  · exact .inl rfl
  · exact .inr rfl

/-- What a task does to the rows: it keeps what is uncertain or settled, or it settles a row that is
sent and has the attempts of its copy. -/
inductive TaskChange (m : NodeCommandTable) (a : Answers) (task : Task) :
    GoMap NodeCommandRow → Prop
  | kept : TaskChange m a task m.nodeCommands
  | created {key} (row : NodeCommandRow) (hl : m.nodeCommands.lookup key = none)
      (hsound : Sound row) : TaskChange m a task (m.nodeCommands.insert key row)
  | written {key} (old new : NodeCommandRow) (hl : m.nodeCommands.lookup key = some old)
      (hkeeps : Keeps old new) (hsound : Sound new) :
      TaskChange m a task (m.nodeCommands.insert key new)
  | settled (original : NodeCommandRow) (observed : WireObject) (recovering : Bool)
      (current : NodeCommandRow) (htask : task = .settleWrite original observed recovering)
      (hl : m.nodeCommands.lookup original.id = some current) (hsent : current.status = .sent)
      (hattempts : current.attempts = original.attempts) :
      TaskChange m a task (m.nodeCommands.insert original.id
        { settledRow a original observed with revision := current.revision + 1 })

theorem TaskChange.sound {rows : GoMap NodeCommandRow} (h : TaskChange m a task rows)
    (hm : SoundTable m) (id : GoString) (row : NodeCommandRow) (hl : rows.lookup id = some row) :
    Sound row := by
  cases h with
  | kept => exact hm id row hl
  | created new _ hsound | written _ new _ _ hsound =>
    rcases of_lookup_insert hl with ⟨-, rfl⟩ | ⟨-, hl⟩
    · exact hsound
    · exact hm id row hl
  | settled original observed =>
    rcases of_lookup_insert hl with ⟨-, rfl⟩ | ⟨-, hl⟩
    · exact fun _ => settledRow_isSettled a original observed
    · exact hm id row hl

theorem create_change (request : NodeCommandRequest) :
    TaskChange m a task (m.createNodeCommand request.row).1.nodeCommands := by
  fun_cases createNodeCommand m request.row with
  | case1 | case2 => exact .kept
  | case3 _ _ hfree =>
    refine .created _ hfree (sound_of_ne ?_)
    show ([] : GoString) ≠ authoritativeObservation
    decide

/-- **A swap keeps** uncertain and settled rows when it expects no terminal row, and its row is one
of a query, is expected to be certain, or is uncertain with the attempts it expects. -/
theorem swap_change {command : NodeCommandRow} {revision : UInt64} {attempts : ℤ} {uncertain : Bool}
    {expected : List NodeCommandStatus}
    (hopen : ∀ status ∈ expected, status ≠ .succeeded ∧ status ≠ .failed)
    (hrow : isReconcilingQuery command.command ∨ uncertain = false ∨
      command.uncertain = true ∧ command.attempts = attempts)
    (hne : command.evidenceKind ≠ authoritativeObservation) :
    TaskChange m a task (m.compareAndSwapNodeCommandRevision command revision attempts uncertain
      expected).1.nodeCommands := by
  rcases compareAndSwapNodeCommandRevision_cases (m := m) command revision attempts
    uncertain expected with he | ⟨current, hl, hstatus, hattempts, huncertain, hcommand, he⟩ <;>
    rw [he]
  · exact .kept
  · refine .written current _ hl ⟨fun hq hu => ?_, fun hs => ?_⟩ (sound_of_ne hne)
    · rcases hrow with hq' | hfalse | ⟨hu', ha⟩
      · rw [hcommand] at hq
        exact absurd hq' hq
      · rw [← huncertain, hu] at hfalse
        cases hfalse
      · exact ⟨hu', ha.trans hattempts.symm, hcommand.symm⟩
    · obtain ⟨hs', hf'⟩ := hopen _ hstatus
      obtain ⟨-, hterminal, -⟩ := isSettled_iff.1 hs
      exact absurd hterminal (by simp [hs', hf'])

/-- **A write keeps** every uncertain and every settled row, or it settles the row. -/
theorem Task.exec_change (hm : SoundTable m) (ht : task.Guarded) :
    TaskChange m a task (task.exec m a).1.nodeCommands := by
  cases task with
  | create request execution | createQuery original request use => exact create_change request
  | send command execution =>
    simp only [exec]
    fun_cases sendNodeCommand m a command execution with
    | case1 | case2 | case3 => exact .kept
    | case4 hopen =>
      -- the row is open
      refine swap_change (by simp) (ht.2.imp_right .inl) (ht.1.evidenceKind_ne (.inr ⟨?_, ?_⟩))
      all_goals exact fun hs => hopen (by simp [hs])
  | reopenWrite latest | expire command =>
    exact swap_change (by simp) (.inr (.inl ht.1)) ht.2
  | rejectQuery command result objection => exact swap_change (by simp) (.inl ht.1) ht.2
  | backoff latest => exact swap_change (by simp) (.inr (.inr ⟨ht.1, rfl⟩)) ht.2
  | writeResult command result =>
    refine swap_change (by simp) ?_ ?_
    · rw [(recorded_frame _ _ _).1]
      exact ht.1.imp_right .inl
    · rw [(recorded_frame _ _ _).2]
      exact ht.2
  | promote id nodeID result error =>
    simp only [exec]
    fun_cases promoteNodeCommandUncertain m id nodeID result error a.now with
    | case1 | case2 | case3 => exact .kept
    | case4 current hl _ hs =>
      refine .written current _ hl (.of_marked (by simpa using hs) ⟨rfl, rfl, rfl⟩) fun hkind => ?_
      exact absurd (hm _ _ hl hkind) hs
  | advance id =>
    simp only [exec]
    fun_cases advanceNodeCommandRecovery m id a.now with
    | case1 | case2 => exact .kept
    | case3 current hl hopen =>
      simp only [Bool.or_eq_true, Bool.not_eq_true', decide_eq_true_eq, not_or,
        Bool.not_eq_false] at hopen
      have hs : current.isSettled = false := by simp [NodeCommandRow.isSettled, hopen.1]
      exact .written current _ hl (.of_marked hs ⟨hopen.1, rfl, rfl⟩) (sound_of_ne hopen.2)
  | settleWrite original observed recovering =>
    simp only [exec, settleUncertainOriginal]
    rcases compareAndSwapNodeCommandRevision_cases (m := m)
      (settledRow a original observed) original.revision original.attempts original.uncertain
      [.sent] with he | ⟨current, hl, hstatus, hattempts, -, -, he⟩ <;> rw [he]
    · exact .kept
    · exact .settled original observed recovering current rfl hl (List.mem_singleton.1 hstatus)
        hattempts
  | _ => exact .kept

/-- **The tasks that follow are guarded**, since their copies are rows of the table. -/
theorem Task.exec_guarded (hm : SoundTable m) (ha : RangeOrder m.nodeCommands a.rows)
    (ht : task.Guarded) : AllGuarded (task.exec m a).2 := by
  have hm' : SoundTable (task.exec m a).1 := (Task.exec_change hm ht).sound hm
  cases task with
  | create request execution =>
    simp only [Task.exec] at hm' ⊢
    cases hc : (m.createNodeCommand request.row).2 with
    | error e => exact allGuarded_nil
    | ok created =>
      obtain ⟨⟨id, hl⟩, -⟩ := createNodeCommand_ok hc
      have hsound := hm' _ _ hl
      dsimp only
      split_ifs with hmatch hu <;> simp_all [Task.Guarded]
  | createQuery original request use =>
    simp only [Task.exec] at hm' ⊢
    cases hc : (m.createNodeCommand request.row).2 with
    | error e => exact failed_guarded _ _
    | ok created =>
      obtain ⟨⟨id, hl⟩, hcommand⟩ := createNodeCommand_ok hc
      have hq : isReconcilingQuery created.1.command := hcommand ▸ ht
      simp only [createdQueryTasks]
      split_ifs <;> simp [Task.Guarded, hm' _ _ hl, hq]
  | send command execution => exact sendNodeCommand_guarded m a command execution
  | reopen id => exact reading_guarded allGuarded_nil fun _ hl => reopenTasks_guarded (hm _ _ hl)
  | wait id => exact reading_guarded allGuarded_nil fun row _ => waitTasks_guarded a id row
  | dispatch nodeID =>
    intro task htask
    obtain ⟨e, he, rfl⟩ := List.mem_map.1 htask
    exact hm _ _ (ha.mem_iff.1 (List.mem_of_mem_filter he))
  | dispatchRow command => exact dispatchTasks_guarded a.now ht
  | reconcile original recovering => exact reconcileTasks_guarded a original recovering
  | query original use => exact issueTasks_guarded hm ha original use
  | awaitQuery original issued failures recovering =>
    exact reading_guarded (unreconciled_guarded _ _) fun row _ =>
      awaitTasks_guarded a original issued row failures recovering
  | receive result =>
    exact reading_guarded allGuarded_nil fun _ hl => receiveTasks_guarded (hm _ _ hl) result
  | observe command result =>
    refine reading_guarded allGuarded_nil fun _ _ => ?_
    cases a.objection with
    | none => exact allGuarded_cons.2 ⟨⟨.inl ht.1, ht.2⟩, allGuarded_nil⟩
    | some objection => exact allGuarded_cons.2 ⟨ht, allGuarded_nil⟩
  | writeResult command result => exact recordedTasks_guarded _ _ _
  | settle id observed recovering =>
    exact reading_guarded (unreconciled_guarded _ _) fun row _ =>
      settleTasks_guarded a row observed recovering
  | settleWrite original observed recovering => exact settledTasks_guarded _ _ _
  | settleReload id recovering =>
    refine reading_guarded (unreconciled_guarded _ _) fun row _ => ?_
    split_ifs <;> simp
  | recover id => exact reading_guarded allGuarded_nil fun row _ => recoverTasks_guarded a.now row
  | advance id =>
    simp only [Task.exec]
    cases (m.advanceNodeCommandRecovery id a.now).2 with
    | error e => exact allGuarded_nil
    | ok updated =>
      dsimp only
      split_ifs <;> simp [Task.Guarded]
  | recoverAgain id =>
    refine reading_guarded allGuarded_nil fun row hl => ?_
    split_ifs with hu
    · exact allGuarded_nil
    · have hu : row.uncertain = true := by simpa using hu
      exact allGuarded_cons.2 ⟨⟨hu, (hm _ _ hl).evidenceKind_ne (.inl hu)⟩, allGuarded_nil⟩
  | reopenWrite latest | promote id nodeID result error | expire command
  | rejectQuery command result objection | backoff latest => exact allGuarded_nil

/-! ## Runs of the controller -/

/-- The rows are sound, and every task that is left is guarded. -/
structure Controller.Guarded (s : Controller) : Prop where
  sound : SoundTable s.table
  tasks : ∀ tasks ∈ s.goroutines, AllGuarded tasks

theorem Task.guarded_of_isEntry (h : task.isEntry = true) : task.Guarded := by
  cases task <;> trivial

/-- A goroutine that proceeds has no task left, or does its first. -/
theorem Controller.exec_proceed_cases (s : Controller) (i : ℕ) (a : Answers) :
    s.exec (.proceed i a) = s ∨
      ∃ task rest, s.goroutines[i]? = some (task :: rest) ∧
        s.exec (.proceed i a) =
          { table := (task.exec s.table a).1
            goroutines := s.goroutines.set i ((task.exec s.table a).2 ++ rest) } := by
  simp only [exec]
  rcases s.goroutines[i]? with _ | _ | ⟨task, rest⟩
  · exact .inl rfl
  · exact .inl rfl
  · exact .inr ⟨task, rest, rfl, rfl⟩

/-- The next task of a goroutine is guarded, and so are those after it. -/
theorem Controller.Guarded.next (hs : s.Guarded) {i : ℕ} {rest : List Task}
    (hi : s.goroutines[i]? = some (task :: rest)) : task.Guarded ∧ AllGuarded rest :=
  allGuarded_cons.1 (hs.tasks _ (List.mem_of_getElem? hi))

variable {s' : Controller}

theorem Controller.Guarded.step (hs : s.Guarded) (h : ControllerStep s e s') : s'.Guarded := by
  obtain ⟨hpossible, rfl⟩ := h
  cases e with
  | start task =>
    refine ⟨hs.sound, fun tasks ht => ?_⟩
    rcases of_mem_snoc ht with ht | rfl
    · exact hs.tasks _ ht
    · exact allGuarded_cons.2 ⟨Task.guarded_of_isEntry hpossible, allGuarded_nil⟩
  | proceed i a =>
    rcases s.exec_proceed_cases i a with he | ⟨task, rest, hi, he⟩
    · rwa [he]
    · obtain ⟨htask, hrest⟩ := hs.next hi
      rw [he]
      refine ⟨(Task.exec_change hs.sound htask).sound hs.sound, fun tasks ht => ?_⟩
      rcases List.mem_or_eq_of_mem_set ht with ht | rfl
      · exact hs.tasks _ ht
      · exact allGuarded_append.2 ⟨task.exec_guarded hs.sound hpossible htask, hrest⟩

theorem guarded_of_run {tr : List (Transition Controller ControllerEvent)}
    (h : Run ControllerStep {} tr s) : s.Guarded := by
  refine h.invariant (I := Controller.Guarded) ⟨fun id row hl => ?_, by simp⟩
    fun _ _ _ hs hstep => hs.step hstep
  cases hl

/-- The transition is a swap with an observation that is bound to the command. -/
def IsSettlement (id : GoString) (observed : WireObject)
    (t : Transition Controller ControllerEvent) : Prop :=
  ∃ i a original recovering rest, t.label = .proceed i a ∧
    t.pre.goroutines[i]? = some (.settleWrite original observed recovering :: rest) ∧
    original.id = id ∧ boundToOriginal original observed = true

theorem step_keeps_or_settles (hs : s.Guarded) (h : ControllerStep s e s') (id : GoString) :
    Advances Keeps id s.table.nodeCommands s'.table.nodeCommands ∨
      ∃ observed before after, IsSettlement id observed ⟨s, e, s'⟩ ∧
        s.table.nodeCommands.lookup id = some before ∧ before.status = .sent ∧
        s'.table.nodeCommands.lookup id = some after ∧ after.isSettled = true ∧
        after.result = some observed ∧ after.attempts = before.attempts := by
  obtain ⟨-, rfl⟩ := h
  have hunchanged : Advances Keeps id s.table.nodeCommands s.table.nodeCommands :=
    advances_refl refl id _
  cases e with
  | start task => exact .inl hunchanged
  | proceed i a =>
    rcases s.exec_proceed_cases i a with he | ⟨task, rest, hi, he⟩
    · rw [he]
      exact .inl hunchanged
    · have htask := (hs.next hi).1
      have hchange := Task.exec_change (a := a) hs.sound htask
      rw [he]
      dsimp only
      generalize (task.exec s.table a).1.nodeCommands = rows at hchange ⊢
      cases hchange with
      | kept => exact .inl hunchanged
      | created row hl => exact .inl (advances_insert_new refl hl row)
      | written old new hl hkeeps => exact .inl (advances_insert refl hl hkeeps)
      | settled original observed recovering current htask' hl hsent hattempts =>
        subst htask'
        by_cases hid : original.id = id
        · subst hid
          exact .inr ⟨observed, current, _,
            ⟨i, a, original, recovering, rest, rfl, hi, rfl, htask⟩, hl, hsent,
            AList.lookup_insert _, settledRow_isSettled a original observed, rfl, hattempts.symm⟩
        · exact .inl fun row hrow => ⟨row, by rwa [AList.lookup_insert_ne (Ne.symm hid)], refl row⟩

/-- **An uncertain command stays uncertain until it is settled**, with its count of attempts: only
the write of an authoritative observation ends it. A row with the terminal evidence of one does not
change. -/
theorem uncertain_until_settled {tr₀ tr : List (Transition Controller ControllerEvent)}
    {s₀ s : Controller} (h₀ : Run ControllerStep {} tr₀ s₀) (h : Run ControllerStep s₀ tr s)
    {id : GoString} {row : NodeCommandRow} (hrow : s₀.table.nodeCommands.lookup id = some row) :
    (row.isResidencyMutation = true → row.uncertain = true →
      (∃ row', s.table.nodeCommands.lookup id = some row' ∧ row'.uncertain = true ∧
        row'.attempts = row.attempts) ∨
      ∃ l₁ t l₂ observed before after, tr = l₁ ++ t :: l₂ ∧ IsSettlement id observed t ∧
        t.pre.table.nodeCommands.lookup id = some before ∧ before.uncertain = true ∧
        before.attempts = row.attempts ∧
        t.post.table.nodeCommands.lookup id = some after ∧ after.isSettled = true ∧
        after.result = some observed ∧ after.attempts = row.attempts) ∧
    ((row.status = .succeeded ∨ row.status = .failed) →
      row.evidenceKind = authoritativeObservation →
      s.table.nodeCommands.lookup id = some row) := by
  constructor
  · intro hmutation huncertain
    have hq := not_isReconcilingQuery hmutation
    suffices hs : (∃ row', s.table.nodeCommands.lookup id = some row' ∧ row'.uncertain = true ∧
        row'.attempts = row.attempts ∧ row'.command = row.command) ∨ _ from
      hs.imp_left fun ⟨row', hl, hu, ha, _⟩ => ⟨row', hl, hu, ha⟩
    induction h with
    | nil => exact .inl ⟨row, hrow, huncertain, rfl, rfl⟩
    | @snoc tr s s' e h hstep ih =>
      rcases ih with ⟨row', hl, hu, ha, hc⟩ | ⟨l₁, t, l₂, observed, before, after, rfl, hrest⟩
      · rcases step_keeps_or_settles (guarded_of_run (h₀.append h)) hstep id with hkeeps |
          ⟨observed, before, after, hsettles, hbefore, -, hafter, hsettled, hresult, hattempts⟩
        · obtain ⟨row'', hl', hkeep⟩ := hkeeps row' hl
          obtain ⟨hu', ha', hc'⟩ := hkeep.uncertain (hc ▸ hq) hu
          exact .inl ⟨row'', hl', hu', ha'.trans ha, hc'.trans hc⟩
        · obtain rfl := Option.mem_unique hl hbefore
          exact .inr ⟨tr, _, [], observed, row', after, rfl, hsettles, hl, hu, ha, hafter, hsettled,
            hresult, hattempts.trans ha⟩
      · exact .inr ⟨l₁, t, l₂ ++ [⟨s, e, s'⟩], observed, before, after, by simp, hrest⟩
  · intro hstatus hevidence
    have hsettled : row.isSettled = true := (guarded_of_run h₀).sound id row hrow hevidence
    induction h with
    | nil => exact hrow
    | @snoc tr s s' e h hstep ih =>
      rcases step_keeps_or_settles (guarded_of_run (h₀.append h)) hstep id with hkeeps |
        ⟨observed, before, after, -, hbefore, hsent, -⟩
      · obtain ⟨row', hl', hkeep⟩ := hkeeps row ih
        rwa [hkeep.settled hsettled] at hl'
      · -- a settlement swaps a row that is sent
        obtain rfl := Option.mem_unique ih hbefore
        rw [hsent] at hstatus
        simp at hstatus

def loadRequest : NodeCommandRequest :=
  { id := "load", idempotencyKey := "key", nodeID := "node", command := .loadModel
    args := some (canonicalResidencyCommandArgs "llama" "model" "runtime" "v1" "r1" "hot_vram" 5)
    expiresAt := ⟨1000, 0⟩ }

/-- What the query for the load observes. -/
def loadObservation : WireObject :=
  WireObject.put (∅ : WireObject) "action" (.text "load_model")
    |>.put "target_kind" (.text "llamacpp")
    |>.put "target_id" (.text "llama")
    |>.put "model" (.text "model")
    |>.put "runtime_identity" (.text "runtime")
    |>.put "capability_version" (.text "v1")
    |>.put "capability_revision" (.text "r1")
    |>.put "tier" (.text "hot_vram")
    |>.put "original_command_id" (.text "load")
    |>.put "original_idempotency_key" (.text "key")
    |>.put "expected_fence" (.number (.float 5) "5")
    |>.put "fencing_token" (.number (.float 5) "5")
    |>.put "observed_after_fence" (.number (.float 5) "5")

/-- A goroutine starts, or the one at that place proceeds with a listing of the table as it is. -/
def scripted : Task ⊕ ℕ × Answers → Controller → ControllerEvent
  | .inl task, _ => .start task
  | .inr (i, a), s => .proceed i { a with rows := s.table.nodeCommands.entries }

theorem run_scripted (acts : List (Task ⊕ ℕ × Answers))
    (h : ∀ task, .inl task ∈ acts → task.isEntry = true) (s : Controller) :
    Run ControllerStep s (Run.script exec s (acts.map scripted))
      (Run.afterScript exec s (acts.map scripted)) := by
  refine Run.of_script exec (fun act hact s => ?_) s
  obtain ⟨act, hmem, rfl⟩ := List.mem_map.1 hact
  rcases act with task | ⟨i, a⟩
  · exact ⟨h task hmem, rfl⟩
  · exact ⟨rangeOrder_entries _, rfl⟩

/-- The load is sent, and the node reports an uncertain outcome. -/
def loadTurnsUncertain : List (Task ⊕ ℕ × Answers) :=
  [.inl (.create loadRequest false), .inr (0, {}), .inr (0, {}),
   .inl (.receive { id := "load", nodeID := "node", ok := false, uncertain := true }),
   .inr (1, {}), .inr (1, {})]

/-- A recovery issues the query, and the result of the query settles the load. -/
def loadIsSettled : List (Task ⊕ ℕ × Answers) :=
  .inl (.recover "load") ::
    List.replicate 6 (.inr (2, { queryID := "query", queryKey := "key:authoritative-query" })) ++
  .inl (.receive { id := "query", nodeID := "node", ok := true, result := loadObservation }) ::
    List.replicate 5 (.inr (3, {}))

/-- The load of a model is sent once, turns uncertain and is settled by the query of its
recovery. -/
theorem load_settled_by_recovery :
    ∃ tr₀ s₀ tr s row, Run ControllerStep {} tr₀ s₀ ∧ Run ControllerStep s₀ tr s ∧
      s₀.table.nodeCommands.lookup loadRequest.id = some row ∧ row.isResidencyMutation = true ∧
      row.uncertain = true ∧ row.attempts = 1 ∧
      ∃ l₁ t l₂ observed before after, tr = l₁ ++ t :: l₂ ∧ IsSettlement loadRequest.id observed t ∧
        t.pre.table.nodeCommands.lookup loadRequest.id = some before ∧ before.uncertain = true ∧
        before.attempts = row.attempts ∧
        t.post.table.nodeCommands.lookup loadRequest.id = some after ∧ after.isSettled = true ∧
        after.result = some observed ∧ after.attempts = row.attempts := by
  have h₀ := run_scripted loadTurnsUncertain
    (by simp [loadTurnsUncertain, Task.isEntry, loadRequest]) {}
  have h := run_scripted loadIsSettled (by simp [loadIsSettled, Task.isEntry])
    (Run.afterScript exec {} (loadTurnsUncertain.map scripted))
  have huncertain : ((Run.afterScript exec {}
      (loadTurnsUncertain.map scripted)).table.nodeCommands.lookup loadRequest.id).any
      (fun row => row.isResidencyMutation && row.uncertain && row.attempts = 1) = true := by
    decide +kernel
  have hsettled : ((Run.afterScript exec (Run.afterScript exec {}
      (loadTurnsUncertain.map scripted)) (loadIsSettled.map scripted)).table.nodeCommands.lookup
      loadRequest.id).any (fun row => row.uncertain) = false := by
    decide +kernel
  obtain ⟨row, hrow, hprops⟩ := (Option.any_eq_true _ _).1 huncertain
  simp only [Bool.and_eq_true, decide_eq_true_eq] at hprops
  obtain ⟨⟨hmutation, hu⟩, hattempts⟩ := hprops
  refine ⟨_, _, _, _, row, h₀, h, hrow, hmutation, hu, hattempts, ?_⟩
  rcases (uncertain_until_settled h₀ h hrow).1 hmutation hu with ⟨row', hl, hu', -⟩ | hs
  · rw [hl, Option.any_some, hu'] at hsettled
    cases hsettled
  · exact hs

end VramGovernor.Api
