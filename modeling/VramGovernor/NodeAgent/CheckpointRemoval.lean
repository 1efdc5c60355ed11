import VramGovernor.Foundations.Goroutines
import VramGovernor.NodeAgent.CheckpointFinalization
import VramGovernor.NodeAgent.CheckpointQuota

/-!
# Goroutines on one checkpoint root

`recordOwnedCheckpoint`, `FinalizeOwnedCheckpoint`, `CleanupOwnedCheckpoint` and
`cleanupCheckpointRoot` work on one directory. A goroutine is the place it has reached, with its
copy of a manifest (`Goroutine`), and a step is one access to the directory or the mutex
(`Goroutine.exec`). All of it happens under `checkpointManifestMu`, but for the removals of a
finalization (`Goroutine.unlocking`).

An access to `checkpointTerminalizedOperations` is one step with the access to the directory next to
it. The files that belong to a snapshot are removed in one step with it.
-/

namespace VramGovernor.NodeAgent

open GoString

/-! ## Calls and places -/

inductive RootCall
  | record (owner snapshotName operationID : GoString) (size : ℤ)
  /-- `FinalizeOwnedCheckpoint`. -/
  | finalize (owner snapshotName operationID : GoString)
  /-- `CleanupOwnedCheckpoint`. -/
  | cleanup (owner snapshotName : GoString) (operationIDs : List GoString)
  /-- `cleanupCheckpointRoot`. -/
  | sweep

/-- The removal of a snapshot by `removeOwnedCheckpointForOwner`, with what follows it. -/
structure Removal where
  (owner operationID snapshotName : GoString)
  /-- The snapshots that are removed next. -/
  rest : List GoString := []
  /-- Whether the mutex is held meanwhile. -/
  locked : Bool

/-- The visit of a sweep to one manifest. -/
structure Visit where
  owner : GoString
  entries : OwnerManifest
  changed : Bool := false
  cutoff : GoTime
  /-- The owners that are visited next. -/
  owners : List GoString

/-- The place a goroutine has reached: what it is going to do next. -/
inductive Goroutine
  | starting (call : RootCall)
  | waiting (call : RootCall)
  | entered (call : RootCall)
  | recording (owner snapshotName : GoString) (entries : OwnerManifest)
  | finalizing (owner operationID : GoString) (entries : OwnerManifest) (names : List GoString)
  /-- The mutex is released, and the terminal snapshots are removed without it. -/
  | unlocking (owner operationID : GoString) (names : List GoString)
  | checking (r : Removal)
  | deleting (r : Removal) (entries : OwnerManifest)
  | clearing (r : Removal) (entries : OwnerManifest)
  | sweeping (cutoff : GoTime) (owners : List GoString)
  | sweepingFiles (v : Visit) (names : List GoString)
  | sweepWriting (v : Visit)
  /-- The deferred release of the mutex. -/
  | leaving
  | returned

/-- What a step meets: whether the directory can be read, how a write and a removal end, the time,
and the order of a loop over a map. -/
structure RootAnswer where
  read : Bool := true
  write : WriteAnswer := .done
  artifacts : ArtifactAnswer := {}
  now : GoTime := {}
  order : List GoString := []

/-- The keys in the order of the loop. -/
def inOrder (order keys : List GoString) : List GoString :=
  if order.isPerm keys then order else keys

/-! ## The steps -/

variable (root : CheckpointRoot)

/-- What is done before the mutex is asked for. -/
def RootCall.start : RootCall → Goroutine
  | finalize owner snapshotName operationID =>
    if isBlank operationID then .returned else .waiting (.finalize owner snapshotName operationID)
  | cleanup owner snapshotName [operationID] =>
    if isBlank operationID || alreadyTerminal root owner snapshotName operationID then .returned
    else .waiting (.cleanup owner snapshotName [operationID])
  | cleanup _ _ _ => .returned
  | call => .waiting call

/-- A manifest, if it can be read. -/
def readManifest (owner : GoString) (a : RootAnswer) : Option OwnerManifest :=
  if a.read then (readCheckpointOwnerManifest root owner).toOption else none

def enterRecord (owner snapshotName operationID : GoString) (size : ℤ)
    (a : RootAnswer) : CheckpointRoot × Goroutine :=
  if !recordable snapshotName operationID size then (root, .leaving)
  else
    match readManifest root owner a with
    | none => (root, .leaving)
    | some entries =>
      match recordEntry entries owner snapshotName operationID size a.now with
      | .error _ => (root, .leaving)
      | .ok recorded =>
        (root.deleteTerminalized owner snapshotName operationID,
          .recording owner snapshotName recorded)

def enterFinalize (owner snapshotName operationID : GoString) (a : RootAnswer) : Goroutine :=
  match readManifest root owner a with
  | none => .leaving
  | some entries =>
    match endReferences entries snapshotName operationID with
    | .ok (some (ended, names)) => .finalizing owner operationID ended (inOrder a.order names)
    | _ => .leaving

/-- The operation that made the entry terminal; an entry of an older agent has its last one. -/
def provenOperation (e : ManifestEntry) : GoString :=
  if e.terminalizedOperationID = [] then e.operationID else e.terminalizedOperationID

def enterCleanup (root : CheckpointRoot) (owner snapshotName : GoString)
    (operationIDs : List GoString) (a : RootAnswer) : Goroutine :=
  match readManifest root owner a with
  | none => .leaving
  | some entries =>
    match entries.lookup snapshotName, operationIDs with
    | some e, [operationID] =>
      if removable entries owner snapshotName && provenOperation e = operationID then
        .checking { owner, operationID, snapshotName, locked := true }
      else .leaving
    | _, _ => .leaving

/-- The directory is listed once. A duration is an `int64`. -/
def enterSweep (expirySeconds : ℤ) (root : CheckpointRoot) (a : RootAnswer) : Goroutine :=
  if expirySeconds ≤ 0 || !a.read then .leaving
  else .sweeping (a.now.add ((-expirySeconds * 10 ^ 9).bmod (2 ^ 64)))
    (inOrder a.order root.manifests.keys)

def RootCall.enter (expirySeconds : ℤ) (root : CheckpointRoot) (a : RootAnswer) :
    RootCall → CheckpointRoot × Goroutine
  | record owner snapshotName operationID size =>
    enterRecord root owner snapshotName operationID size a
  | finalize owner snapshotName operationID =>
    (root, enterFinalize root owner snapshotName operationID a)
  | cleanup owner snapshotName operationIDs =>
    (root, enterCleanup root owner snapshotName operationIDs a)
  | sweep => (root, enterSweep expirySeconds root a)

/-- The end of the removals, or of the first that fails. -/
def Removal.leave (r : Removal) : Goroutine := if r.locked then .leaving else .returned

def Removal.next (r : Removal) : Goroutine :=
  match r.rest with
  | [] => r.leave
  | name :: names => .checking { r with snapshotName := name, rest := names }

/-- The first part of `removeOwnedCheckpointForOwner`. -/
def Removal.check (root : CheckpointRoot) (a : RootAnswer) (r : Removal) : Goroutine :=
  if !validCheckpointSnapshotName r.snapshotName then r.leave
  else
    match readManifest root r.owner a with
    | none => r.leave
    | some entries =>
      if removable entries r.owner r.snapshotName then .deleting r entries else r.leave

/-- The removals of a finalization, once the mutex is released. -/
def removals (owner operationID : GoString) : List GoString → Goroutine
  | [] => .returned
  | name :: names =>
    .checking { owner, operationID, snapshotName := name, rest := names, locked := false }

def expired (entries : OwnerManifest) (cutoff : GoTime) (name : GoString) : Bool :=
  (entries.lookup name).any fun e =>
    e.activeReferences = 0 && e.terminalized && !e.createdAt.isZero && e.createdAt.before cutoff

/-- The next manifest of a sweep; one that cannot be read is passed over. -/
def sweepNext (root : CheckpointRoot) (a : RootAnswer) (cutoff : GoTime) : List GoString → Goroutine
  | [] => .leaving
  | owner :: owners =>
    match readManifest root owner a with
    | none => .sweeping cutoff owners
    | some entries =>
      .sweepingFiles { owner, entries, cutoff, owners } (inOrder a.order entries.keys)

/-- The visit after the files of a snapshot were removed. -/
def Visit.removed (v : Visit) (name : GoString) : Visit :=
  { v with entries := v.entries.erase name, changed := true }

/-- One snapshot of a visit. -/
def Visit.remove (root : CheckpointRoot) (a : RootAnswer) (v : Visit) (name : GoString) :
    CheckpointRoot × Visit :=
  if expired v.entries v.cutoff name then
    ((removeArtifacts root name a.artifacts).1,
      if (removeArtifacts root name a.artifacts).2 then v.removed name else v)
  else (root, v)

/-- **One step of a goroutine.** One that waits for a mutex that is held stays where it is. -/
def Goroutine.exec (expirySeconds : ℤ) (root : CheckpointRoot) (a : RootAnswer) :
    Goroutine → CheckpointRoot × Goroutine
  | starting call => (root, call.start root)
  | waiting call =>
    if root.locked then (root, waiting call) else ({ root with locked := true }, entered call)
  | entered call => call.enter expirySeconds root a
  | recording owner _ entries => (writeCheckpointOwnerManifest root owner entries a.write, leaving)
  | finalizing owner operationID entries names =>
    (writeCheckpointOwnerManifest root owner entries a.write,
      if a.write = .done then unlocking owner operationID names else leaving)
  | unlocking owner operationID names =>
    ({ root with locked := false }, removals owner operationID names)
  | checking r => (root, r.check root a)
  | deleting r entries =>
    ((removeArtifacts root r.snapshotName a.artifacts).1,
      if (removeArtifacts root r.snapshotName a.artifacts).2 then
        clearing r (entries.erase r.snapshotName)
      else r.leave)
  | clearing r entries =>
    let written := writeCheckpointOwnerManifest root r.owner entries a.write
    if a.write = .done then (written.storeTerminalized r.owner r.snapshotName r.operationID, r.next)
    else (written, r.leave)
  | sweeping cutoff owners => (root, sweepNext root a cutoff owners)
  | sweepingFiles v [] => (root, if v.changed then sweepWriting v else sweeping v.cutoff v.owners)
  | sweepingFiles v (name :: names) =>
    ((v.remove root a name).1, sweepingFiles (v.remove root a name).2 names)
  | sweepWriting v =>
    (writeCheckpointOwnerManifest root v.owner v.entries a.write, sweeping v.cutoff v.owners)
  | leaving => ({ root with locked := false }, returned)
  | returned => (root, returned)

/-! ## A goroutine by itself

With nobody else at work, a goroutine does what the function of its call does in one go. -/

section Alone

variable (expiry : ℤ)

def Goroutine.alone (g : Goroutine) (answers : List RootAnswer) : CheckpointRoot × Goroutine :=
  answers.foldl (fun s a => s.2.exec expiry s.1 a) (root, g)

theorem alone_returned (answers : List RootAnswer) :
    Goroutine.returned.alone root expiry answers = (root, .returned) := by
  induction answers with
  | nil => rfl
  | cons a answers ih => exact ih

theorem alone_append (g : Goroutine) (answers answers' : List RootAnswer) :
    g.alone root expiry (answers ++ answers') =
      (g.alone root expiry answers).2.alone (g.alone root expiry answers).1 expiry answers' :=
  List.foldl_append

theorem record_alone (c : SaveCall) (size : ℤ) :
    (Goroutine.entered (.record c.owner c.snapshotName c.operationID size)).alone root expiry
      [{ now := c.answers.now }, { write := c.answers.write }, {}] =
      ({ (recordOwnedCheckpoint root c size).1 with locked := false }, .returned) := by
  simp only [Goroutine.alone, List.foldl, Goroutine.exec, RootCall.enter, enterRecord, readManifest]
  fun_cases recordOwnedCheckpoint root c size with
  | case1 hr => simp [hr]
  | case2 hr e hread => simp_all [Except.toOption]
  | case3 hr entries hread e he => simp [hr, hread, he, Except.toOption]
  | case4 hr entries hread recorded he kept => simp [hr, hread, he, Except.toOption, kept]

def RemovalAnswer.steps (a : RemovalAnswer) : List RootAnswer :=
  [{ read := a.read }, { artifacts := a.artifacts }, { write := a.write }]

theorem removal_alone (r : Removal) (hr : r.locked = false) (a : RemovalAnswer) :
    (Goroutine.checking r).alone root expiry a.steps =
      let removed := removeOwnedCheckpointForOwner root r.owner r.snapshotName a
      if removed.2 then
        (removed.1.storeTerminalized r.owner r.snapshotName r.operationID, r.next)
      else (removed.1, .returned) := by
  have hleave : r.leave = .returned := by simp [Removal.leave, hr]
  simp only [Goroutine.alone, RemovalAnswer.steps, List.foldl, Goroutine.exec, Removal.check,
    readManifest, hleave]
  fun_cases removeOwnedCheckpointForOwner root r.owner r.snapshotName a with
  | case1 h =>
    rcases (Bool.or_eq_true_iff ..).1 h with h | h
    · simp [h]
    · simp_all
  | case2 | case3 => simp_all [Except.toOption]
  | case4 h entries hread he removed | case5 h entries hread he removed =>
    simp_all [Except.toOption, removed]

theorem removals_alone (owner operationID : GoString) (a : FinalizeAnswers)
    (names : List GoString) (root : CheckpointRoot) :
    (removals owner operationID names).alone root expiry
        (names.flatMap fun name => (a.removal name).steps) =
      ((removeTerminal owner operationID a names root).1, .returned) := by
  induction names generalizing root with
  | nil => rfl
  | cons name names ih =>
    rw [List.flatMap_cons, alone_append, removals, removal_alone root expiry _ rfl]
    simp only [removeTerminal]
    by_cases hok : (removeOwnedCheckpointForOwner root owner name (a.removal name)).2 = true
    · rw [if_pos hok, if_neg (by simp [hok])]
      cases names <;> exact ih _
    · rw [if_neg hok, if_pos (by simp [hok])]
      exact alone_returned _ expiry _

theorem write_unlocked (owner : GoString) (entries : OwnerManifest) (a : WriteAnswer) :
    writeCheckpointOwnerManifest { root with locked := false } owner entries a =
      { writeCheckpointOwnerManifest root owner entries a with locked := false } := by
  unfold writeCheckpointOwnerManifest
  split_ifs <;> rfl

/-- The answers up to the release of the mutex. -/
def FinalizeAnswers.steps (a : FinalizeAnswers) : List RootAnswer :=
  [{ read := a.read }, { write := a.write }, {}]

theorem finalize_alone (owner snapshotName operationID : GoString) (a : FinalizeAnswers)
    (h : isBlank operationID = false) : ∃ answers,
      (Goroutine.entered (.finalize owner snapshotName operationID)).alone root expiry answers =
        ((markOwnedCheckpointTerminal { root with locked := false } owner snapshotName operationID
          a).1, .returned) := by
  have hread : readCheckpointOwnerManifest root owner =
    readCheckpointOwnerManifest { root with locked := false } owner := rfl
  fun_cases markOwnedCheckpointTerminal { root with locked := false } owner snapshotName operationID
      a with
  | case1 hblank => simp [h] at hblank
  | case2 | case3 | case4 | case5 =>
    refine ⟨a.steps, ?_⟩
    simp_all [Goroutine.alone, FinalizeAnswers.steps, Goroutine.exec, RootCall.enter,
      enterFinalize, readManifest, Except.toOption]
  | case6 _ _ entries _ ended names _ written =>
    refine ⟨a.steps, ?_⟩
    simp_all [Goroutine.alone, FinalizeAnswers.steps, Goroutine.exec, RootCall.enter,
      enterFinalize, readManifest, Except.toOption, write_unlocked, written]
  | case7 _ _ entries _ ended names _ written =>
    have horder : inOrder [] names = names := by cases names <;> rfl
    have hunlock : (Goroutine.entered (.finalize owner snapshotName operationID)).alone root expiry
        a.steps = (written, removals owner operationID names) := by
      simp_all [Goroutine.alone, FinalizeAnswers.steps, Goroutine.exec, RootCall.enter,
        enterFinalize, readManifest, Except.toOption, write_unlocked, written]
    refine ⟨a.steps ++ names.flatMap fun name => (a.removal name).steps, ?_⟩
    rw [alone_append, hunlock]
    exact removals_alone expiry owner operationID a names written

end Alone
/-! ## The agent -/

/-- The goroutines of an agent. The runtime writes snapshots beside them, and of a restart the
directory is all that is left. -/
def checkpointAgent (expirySeconds : ℤ) :
    Program CheckpointRoot Goroutine RootCall RootAnswer (GoString × ℤ) where
  enter := .starting
  exec root g a := g.exec expirySeconds root a
  env root file := withFile root file.1 file.2
  restart root := { root with terminalizedOperations := [], locked := false }

abbrev RootState := Threads CheckpointRoot Goroutine

abbrev RootEvent := ThreadEvent RootCall RootAnswer (GoString × ℤ)

end VramGovernor.NodeAgent
