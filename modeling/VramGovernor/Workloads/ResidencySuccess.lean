import VramGovernor.Foundations.Goroutines
import VramGovernor.Store.ResidencyTransitions

/-!
# Succeeded residency transitions

The manager and the residency adapter write a transition with the same loop: read the row, leave it
if it is the result of a success, otherwise swap in a candidate, and start again if another writer
was faster. A succeeded row whose projection is to be repaired is not left by a caller whose
snapshot does not say so: the manager writes the status of its snapshot, which can be a stale
failure (`stale_failure_overturns`). A success is final as long as the manager reads no such row
with a snapshot of another status (`success_final`).
-/

namespace VramGovernor.Workloads

open GoString GoMap Store

/-! ## The writers -/

def tierText : ResidencyTier → GoString
  | .unset => ""
  | .remote => "remote"
  | .coldDisk => "cold_disk"
  | .warmRAM => "warm_ram"
  | .hotVRAM => "hot_vram"

/-- The part of a `ResidencyObservation` that a transition takes over. -/
structure ResidencyObservation where
  runtimeIdentity : GoString := []
  tier : ResidencyTier := .unset
  (warmModelBytes lockedBytes : Int64 := 0)
  (warmModelBytesVerified vramReleased : Bool := false)
  fencingToken : UInt64 := 0

def observedText (o : ResidencyObservation) : GoString :=
  "observed tier=" ++ tierText o.tier ++ " warm_model_bytes=" ++ sprint o.warmModelBytes.toInt ++
    " locked_bytes=" ++ sprint o.lockedBytes.toInt ++ " released_vram=" ++
    (if o.vramReleased then ofString "true" else ofString "false") ++ " runtime=" ++
    o.runtimeIdentity ++ " fence=" ++ sprint o.fencingToken.toNat

/-- The callback of `persistTransitionObservation`. -/
def observe (o : ResidencyObservation) (finished : GoTime) (current : ResidencyTransition) :
    ResidencyTransition :=
  if current.status = .succeeded then current
  else
    { current with
      status := .succeeded
      finishedAt := some finished
      observedTier := o.tier
      warmModelBytes := o.warmModelBytes
      warmModelBytesVerified := o.warmModelBytesVerified
      runtimeIdentity := o.runtimeIdentity
      observedFence := o.fencingToken.toInt64
      projectionRepairPending := true
      error := observedText o }

/-- The callback of `persistTransitionFailure`. -/
def recordFailure (text : GoString) (keepPending : Bool) (now : GoTime)
    (current : ResidencyTransition) : ResidencyTransition :=
  if current.status = .succeeded then current
  else if keepPending then { current with error := text }
  else { current with error := text, status := .failed, finishedAt := some now }

/-- What `casResidencyTransition` makes of the row it has read. -/
def mergeDesired (current desired : ResidencyTransition) : ResidencyTransition :=
  let measured := desired.warmModelBytes ≠ 0 || desired.warmModelBytesVerified
  { current with
    status := desired.status
    reason := if desired.reason ≠ [] then desired.reason else current.reason
    startedAt := desired.startedAt
    finishedAt := desired.finishedAt
    error := if desired.error ≠ [] || current.error = [] then desired.error else current.error
    observedTier :=
      if desired.observedTier ≠ .unset then desired.observedTier else current.observedTier
    warmModelBytes := if measured then desired.warmModelBytes else current.warmModelBytes
    warmModelBytesVerified :=
      if measured then desired.warmModelBytesVerified else current.warmModelBytesVerified
    runtimeIdentity :=
      if desired.runtimeIdentity ≠ [] then desired.runtimeIdentity else current.runtimeIdentity
    capabilityVersion :=
      if desired.capabilityVersion ≠ [] then desired.capabilityVersion
      else current.capabilityVersion
    capabilityRevision :=
      if desired.capabilityRevision ≠ [] then desired.capabilityRevision
      else current.capabilityRevision
    observedFence :=
      if desired.observedFence ≠ 0 then desired.observedFence else current.observedFence
    projectionRepairPending :=
      if desired.status = .succeeded then desired.projectionRepairPending
      else current.projectionRepairPending }

/-- A call, with the snapshot its caller holds. -/
inductive TransitionWriter
  | casResidencyTransition (desired : ResidencyTransition)
  | persistTransitionObservation (transition : ResidencyTransition) (o : ResidencyObservation)
      (finished : GoTime)
  | persistTransitionFailure (transition : ResidencyTransition) (text : GoString)
      (keepPending : Bool)

namespace TransitionWriter

def snapshot : TransitionWriter → ResidencyTransition
  | casResidencyTransition desired => desired
  | persistTransitionObservation transition _ _ => transition
  | persistTransitionFailure transition _ _ => transition

/-- The row that the call wants in place of `current`. -/
def candidate (now : GoTime) (current : ResidencyTransition) :
    TransitionWriter → ResidencyTransition
  | casResidencyTransition desired => mergeDesired current desired
  | persistTransitionObservation _ o finished => observe o finished current
  | persistTransitionFailure _ text keepPending => recordFailure text keepPending now current

end TransitionWriter

/-- A succeeded row wins over the snapshot, unless only it says that its projection is to be
repaired. -/
def authoritative (current snapshot : ResidencyTransition) : Bool :=
  current.status = .succeeded &&
    !(current.projectionRepairPending && !snapshot.projectionRepairPending)

def getResidencyTransition (m : TransitionStore) (id : GoString) :
    Except GoError ResidencyTransition :=
  match m.transitions.lookup id with
  | some row => .ok row
  | none => .error errNotFound

/-- Where a writer is in its loop. -/
inductive WriterPlace
  /-- Before the read of an attempt. -/
  | reading (attempt : ℕ)
  /-- Before the swap of an attempt. -/
  | swapping (attempt : ℕ) (current candidate : ResidencyTransition)
  | returned (r : Except GoError ResidencyTransition)

structure WriterRoutine where
  writer : TransitionWriter
  place : WriterPlace

def WriterRoutine.exec (m : TransitionStore) (g : WriterRoutine) (now : GoTime) :
    TransitionStore × WriterRoutine :=
  match g.place with
  | .reading attempt =>
    if attempt < 3 then
      match getResidencyTransition m g.writer.snapshot.id with
      | .error e => (m, { g with place := .returned (.error e) })
      | .ok current =>
        if authoritative current g.writer.snapshot then
          (m, { g with place := .returned (.ok current) })
        else (m, { g with place := .swapping attempt current (g.writer.candidate now current) })
    else (m, { g with place := .returned (.error errResidencyTransitionConflict) })
  | .swapping attempt current candidate =>
    match compareAndSwapResidencyTransition m candidate current.revision current.status
      current.fencingToken with
    | (m', .ok updated) => (m', { g with place := .returned (.ok updated) })
    | (m', .error e) =>
      if e.is errResidencyTransitionConflict then (m', { g with place := .reading (attempt + 1) })
      else (m', { g with place := .returned (.error e) })
  | .returned _ => (m, g)

/-- Any number of writers, with arbitrary snapshots, over one store. -/
def transitionWriters : Program TransitionStore WriterRoutine TransitionWriter GoTime Empty where
  enter w := ⟨w, .reading 0⟩
  exec := WriterRoutine.exec
  env m _ := m
  restart := id

/-! ## Success -/

/-- A succeeded row stays one. -/
def SuccessKept (m m' : TransitionStore) : Prop :=
  ∀ id, Advances (fun row row' => row.status = .succeeded → row'.status = .succeeded) id
    m.transitions m'.transitions

/-- The manager is about to read a succeeded row whose projection is to be repaired, with a snapshot
that says neither. -/
def WriterRoutine.readsStale (m : TransitionStore) (g : WriterRoutine) : Bool :=
  match g with
  | ⟨.casResidencyTransition desired, .reading _⟩ =>
    (m.transitions.lookup desired.id).any fun row =>
      row.status = .succeeded && row.projectionRepairPending &&
        !desired.projectionRepairPending && desired.status ≠ .succeeded
  | _ => false

/-- A transition of the writers. -/
abbrev WriterTransition :=
  Transition (Threads TransitionStore WriterRoutine) (ThreadEvent TransitionWriter GoTime Empty)

/-- The step is such a read. -/
def readsStale (t : WriterTransition) : Bool :=
  match t.label with
  | .proceed i _ => t.pre.goroutines[i]?.any (·.readsStale t.pre.shared)
  | _ => false

/-- A writer that has read a success is about to write one. -/
def Prepared (g : WriterRoutine) : Prop :=
  ∀ attempt current candidate, g.place = .swapping attempt current candidate →
    current.status = .succeeded → candidate.status = .succeeded

variable {attempt : ℕ} {current : ResidencyTransition} {w : TransitionWriter}

section Steps

variable {m : TransitionStore} {g : WriterRoutine} {now : GoTime}

/-- The candidate of a succeeded row: the adapter leaves it, the manager writes its snapshot. -/
theorem candidate_status_of_succeeded (h : current.status = .succeeded) :
    (w.candidate now current).status =
      match w with
      | .casResidencyTransition desired => desired.status
      | _ => .succeeded := by
  cases w with
  | casResidencyTransition desired => rfl
  | persistTransitionObservation transition o finished =>
    simp [TransitionWriter.candidate, observe, h]
  | persistTransitionFailure transition text keepPending =>
    simp [TransitionWriter.candidate, recordFailure, h]

/-- The candidate of a row that the writer does not leave, and whose read was not stale. -/
theorem candidate_succeeded (hl : m.transitions.lookup w.snapshot.id = some current)
    (hauth : ¬ authoritative current w.snapshot = true)
    (hstale : WriterRoutine.readsStale m ⟨w, .reading attempt⟩ = false)
    (hs : current.status = .succeeded) : (w.candidate now current).status = .succeeded := by
  rw [candidate_status_of_succeeded hs]
  cases w with
  | casResidencyTransition desired =>
    have hl : m.transitions.lookup desired.id = some current := hl
    simp only [authoritative, hs, TransitionWriter.snapshot] at hauth
    simp only [WriterRoutine.readsStale, hl, Option.any_some, hs] at hstale
    grind
  | persistTransitionObservation | persistTransitionFailure => rfl

theorem exec_reading (h : g.place = .reading attempt) (hstale : g.readsStale m = false) :
    (g.exec m now).1 = m ∧ Prepared (g.exec m now).2 := by
  obtain ⟨w, place⟩ := g
  obtain rfl : place = _ := h
  simp only [WriterRoutine.exec, getResidencyTransition]
  by_cases hn : attempt < 3
  · rw [if_pos hn]
    cases hl : m.transitions.lookup w.snapshot.id with
    | none => exact ⟨rfl, fun _ _ _ hplace => nomatch hplace⟩
    | some row =>
      dsimp only
      by_cases hauth : authoritative row w.snapshot = true
      · rw [if_pos hauth]
        exact ⟨rfl, fun _ _ _ hplace => nomatch hplace⟩
      · rw [if_neg hauth]
        refine ⟨rfl, fun _ _ _ hplace => ?_⟩
        cases hplace
        exact candidate_succeeded hl hauth hstale
  · rw [if_neg hn]
    exact ⟨rfl, fun _ _ _ hplace => nomatch hplace⟩

theorem successKept_refl (m : TransitionStore) : SuccessKept m m :=
  fun id => advances_refl (fun _ hs => hs) id _

/-- The swap of a prepared writer keeps every success, and the attempt ends with it. -/
theorem exec_swapping {candidate : ResidencyTransition} (hprep : Prepared g)
    (h : g.place = .swapping attempt current candidate) :
    SuccessKept m (g.exec m now).1 ∧ Prepared (g.exec m now).2 := by
  have hs := hprep attempt current candidate h
  obtain ⟨w, place⟩ := g
  obtain rfl : place = _ := h
  simp only [WriterRoutine.exec]
  fun_cases compareAndSwapResidencyTransition m candidate current.revision current.status
    current.fencingToken with
  | case1 | case2 =>
    dsimp only
    split_ifs
    all_goals exact ⟨successKept_refl m, fun _ _ _ hplace => by cases hplace⟩
  | case3 stored hl _ hchecks =>
    refine ⟨fun id => advances_insert (fun _ hs => hs) hl ?_, fun _ _ _ hplace => by cases hplace⟩
    rw [(swapChecks_ok hchecks).1.2.1]
    exact hs

theorem successKept_exec (hprep : Prepared g) (hstale : g.readsStale m = false) :
    SuccessKept m (g.exec m now).1 ∧ Prepared (g.exec m now).2 := by
  cases hplace : g.place with
  | reading attempt =>
    obtain ⟨hsame, hprep'⟩ := exec_reading hplace hstale
    exact ⟨hsame.symm ▸ successKept_refl m, hprep'⟩
  | swapping attempt current candidate => exact exec_swapping hprep hplace
  | returned r =>
    simp only [WriterRoutine.exec, hplace]
    exact ⟨successKept_refl m, hprep⟩

end Steps

/-- **A success is final** as long as the manager reads no succeeded row with a projection to repair
while its snapshot has another status and no repair. -/
theorem success_final {m : TransitionStore} {tr : List WriterTransition}
    {s : Threads TransitionStore WriterRoutine}
    (h : Run transitionWriters.Step { shared := m } tr s) (hno : ∀ t ∈ tr, readsStale t = false) :
    ∀ t ∈ tr, SuccessKept t.pre.shared t.post.shared := by
  refine (h.observe_of (I := fun s => ∀ g ∈ s.goroutines, Prepared g) hno (by simp) ?_).2
  rintro s e s' hprep rfl hno
  cases e with
  | call w =>
    refine ⟨fun g hg => ?_, successKept_refl _⟩
    rcases of_mem_snoc hg with hg | rfl
    · exact hprep g hg
    · exact fun _ _ _ hplace => nomatch hplace
  | restart => exact ⟨by simp [Program.step], successKept_refl _⟩
  | other e => cases e
  | proceed i now =>
    cases hi : s.goroutines[i]? with
    | none =>
      rw [Program.step_proceed_none hi]
      exact ⟨hprep, successKept_refl _⟩
    | some g =>
      have hstale : g.readsStale s.shared = false := by simpa [readsStale, hi] using hno
      obtain ⟨hkept, hprep'⟩ :
          SuccessKept s.shared (g.exec s.shared now).1 ∧ Prepared (g.exec s.shared now).2 :=
        successKept_exec (hprep g (List.mem_of_getElem? hi)) hstale
      rw [Program.step_proceed hi]
      refine ⟨fun g' hg' => ?_, hkept⟩
      rcases List.mem_or_eq_of_mem_set hg' with hg' | rfl
      · exact hprep g' hg'
      · exact hprep'

def runningTransition : ResidencyTransition :=
  { id := "r", status := .running, revision := 1, fencingToken := 1 }

def runningStore : TransitionStore := { transitions := AList.singleton "r" runningTransition }

/-- The adapter stores its observation; then the manager writes its snapshot. -/
def observeThenCas (desired : ResidencyTransition) :
    List (Threads TransitionStore WriterRoutine → ThreadEvent TransitionWriter GoTime Empty) :=
  [fun _ => .call (.persistTransitionObservation runningTransition {} {}),
   fun _ => .proceed 0 {}, fun _ => .proceed 0 {},
   fun _ => .call (.casResidencyTransition desired),
   fun _ => .proceed 1 {}, fun _ => .proceed 1 {}]

/-- A manager that knows of the success repairs the projection. -/
theorem repaired_success_kept : ((Run.script transitionWriters.step { shared := runningStore }
          (observeThenCas { runningTransition with status := .succeeded })).map fun t =>
        (t.post.shared.transitions.lookup (ofString "r")).map (·.status)) =
      [some .running, some .running, some .succeeded, some .succeeded, some .succeeded,
        some .succeeded] ∧
    ∀ t ∈ Run.script transitionWriters.step { shared := runningStore }
        (observeThenCas { runningTransition with status := .succeeded }),
      SuccessKept t.pre.shared t.post.shared :=
  ⟨by decide +kernel, success_final (Run.of_script _ (fun _ _ _ => rfl) _) (by decide +kernel)⟩

/-- A manager with a stale failure ends the success: the row is succeeded after the third event and
failed after the last. -/
theorem stale_failure_overturns : (∃ tr, Run transitionWriters.Step { shared := runningStore } tr
        (Run.afterScript transitionWriters.step { shared := runningStore }
          (observeThenCas { runningTransition with status := .failed }))) ∧
      ((Run.script transitionWriters.step { shared := runningStore }
          (observeThenCas { runningTransition with status := .failed })).map fun t =>
        (t.post.shared.transitions.lookup (ofString "r")).map (·.status)) =
      [some .running, some .running, some .succeeded, some .succeeded, some .succeeded,
        some .failed] :=
  ⟨⟨_, Run.of_script _ (fun _ _ _ => rfl) _⟩, by decide +kernel⟩

end VramGovernor.Workloads
