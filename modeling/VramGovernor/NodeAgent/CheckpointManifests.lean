import Mathlib.Algebra.Order.BigOperators.Group.List
import VramGovernor.Domain
import VramGovernor.Foundations.GoMap

/-!
# The checkpoint root and its owner manifests

The snapshots of a node are `.kv` files in one directory. Which operations may still resume from one
is kept in a manifest for every owner: an entry for each snapshot, with the references of its
operations and their total. The snapshot of an entry without references is removed.

A manifest is modelled decoded (`ManifestFile`): `encoding/json` leaves an empty map of references
out (`omitEmpty`), and an entry without one is read as one of the agents that kept a single
operation (`normalize`). The entries stand in the order of the loops. `ManifestEntry.held` is what
an operation holds of an entry, and `entryAt_write` says what a write leaves in the root.
-/

namespace VramGovernor.NodeAgent

open GoString GoMap

/-! ## Entries -/

def maxInt : ℤ := 2 ^ 63 - 1

structure ManifestEntry where
  (owner snapshotName operationID : GoString := [])
  bytes : ℤ := 0
  createdAt : GoTime := {}
  activeReferences : ℤ := 0
  terminalized : Bool := false
  terminalizedOperationID : GoString := []
  /-- The references of the operations; `none` is the nil map. -/
  references : Option (GoMap ℤ) := none

open ManifestEntry

/-- The entries of a manifest. -/
abbrev OwnerManifest := GoMap ManifestEntry

namespace ManifestEntry

variable (e : ManifestEntry)

/-- The references of an entry, where an entry without a map has those of its one operation. -/
def referenceMap : GoMap ℤ :=
  match e.references with
  | some refs => refs
  | none =>
    if 0 < e.activeReferences && e.operationID ≠ [] then
      (∅ : GoMap ℤ).insert e.operationID e.activeReferences
    else ∅

def held (operationID : GoString) : ℤ := GoMap.get e.referenceMap operationID

def total (refs : GoMap ℤ) : ℤ := (refs.entries.map fun r => r.2).sum

/-- The checks that a manifest makes of an entry when it is read. -/
def check (owner name : GoString) : Except GoError Unit :=
  firstError
    [(name ≠ e.snapshotName || e.owner ≠ owner || name.contains 0x2F ||
        !(ofString ".kv").isSuffixOf name || e.bytes ≤ 0 || e.activeReferences < 0,
      ⟨"checkpoint owner manifest entry is invalid", none⟩)]
    (match e.references with
    | none => .ok ()
    | some refs => firstError
        [(refs.entries.any fun r => r.1 = [] || 128 < r.1.length || r.2 < 0,
          ⟨"checkpoint owner manifest reference is invalid", none⟩),
         (maxInt < total refs, ⟨"checkpoint owner manifest reference count overflow", none⟩),
         (total refs ≠ e.activeReferences,
          ⟨"checkpoint owner manifest reference count mismatch", none⟩)]
        (.ok ()))

/-- An entry of the agents that kept one operation gets its map of references. -/
def normalize : ManifestEntry :=
  if e.references.isNone && 0 < e.activeReferences && e.operationID ≠ [] then
    { e with references := some e.referenceMap }
  else e

def omitEmpty : ManifestEntry :=
  { e with references := e.references.filter fun refs => !refs.entries.isEmpty }

/-- An entry that passed the checks and was given its map. -/
structure Sound (owner name : GoString) : Prop where
  snapshotName : e.snapshotName = name
  ownerName : e.owner = owner
  nonempty : name ≠ []
  active : 0 ≤ e.activeReferences
  references : ∀ refs, e.references = some refs →
    (∀ r ∈ refs.entries, r.1 ≠ [] ∧ 0 ≤ r.2) ∧ total refs = e.activeReferences
  mapped : e.references = none → ¬(0 < e.activeReferences ∧ e.operationID ≠ [])

end ManifestEntry

/-- The references are those of one operation and those of the others. -/
theorem total_eq_get_add_erase {refs : GoMap ℤ} {op : GoString} {n : ℤ}
    (h : refs.lookup op = some n) :
    total refs = n + total (refs.erase op) := by
  have hperm := (entries_perm_of_lookup h).map fun r => r.2
  rw [total, hperm.sum_eq, List.map_cons, List.sum_cons, total]

namespace ManifestEntry

variable {e : ManifestEntry} {owner name op : GoString}

theorem sound_normalize (h : e.check owner name = .ok ()) : e.normalize.Sound owner name := by
  obtain ⟨hfirst, hrefs⟩ := firstError_eq_ok.1 h
  simp only [List.mem_singleton, forall_eq, Bool.or_eq_false_iff, decide_eq_false_iff_not, not_not,
    ne_eq] at hfirst
  obtain ⟨⟨⟨⟨⟨hname, howner⟩, -⟩, hsuffix⟩, -⟩, hactive⟩ := hfirst
  have hne : name ≠ [] := by
    rintro rfl
    exact absurd hsuffix (by decide)
  cases hr : e.references with
  | none =>
    unfold normalize
    by_cases hlegacy : 0 < e.activeReferences ∧ e.operationID ≠ []
    · rw [if_pos (by simp [hr, hlegacy])]
      refine ⟨hname.symm, howner, hne, not_lt.1 hactive, fun refs hrefs => ?_, fun hnone => ?_⟩
      · have hmap : refs = (∅ : GoMap ℤ).insert e.operationID e.activeReferences := by
          simpa [referenceMap, hr, hlegacy] using hrefs.symm
        subst hmap
        refine ⟨fun r hr => ?_, by simp [total]⟩
        obtain rfl : r = ⟨e.operationID, e.activeReferences⟩ := by simpa using hr
        exact ⟨hlegacy.2, hlegacy.1.le⟩
      · cases hnone
    · rw [if_neg (by simpa [hr] using hlegacy)]
      refine ⟨hname.symm, howner, hne, not_lt.1 hactive, fun refs hrefs => ?_, fun _ => hlegacy⟩
      rw [hr] at hrefs
      cases hrefs
  | some refs =>
    rw [normalize, if_neg (by simp [hr])]
    simp only [hr] at hrefs
    have hchecks := (firstError_eq_ok.1 hrefs).1
    simp only [List.mem_cons, List.not_mem_nil, or_false, forall_eq_or_imp, forall_eq,
      List.any_eq_false, Bool.or_eq_true, decide_eq_true_eq, not_or, decide_eq_false_iff_not,
      not_not, ne_eq, not_lt] at hchecks
    obtain ⟨hrefs', -, htotal⟩ := hchecks
    refine ⟨hname.symm, howner, hne, not_lt.1 hactive, fun refs' h' => ?_, fun h' => ?_⟩
    · obtain rfl : refs = refs' := Option.mem_unique hr h'
      exact ⟨fun r hr => ⟨(hrefs' r hr).1.1, (hrefs' r hr).2⟩, htotal⟩
    · rw [hr] at h'
      cases h'

variable (e)

@[simp] theorem normalize_activeReferences : e.normalize.activeReferences = e.activeReferences := by
  unfold normalize
  split_ifs <;> rfl

@[simp] theorem normalize_bytes : e.normalize.bytes = e.bytes := by
  unfold normalize
  split_ifs <;> rfl

@[simp] theorem omitEmpty_bytes : e.omitEmpty.bytes = e.bytes := rfl

theorem normalize_held (op : GoString) : e.normalize.held op = e.held op := by
  unfold normalize
  split_ifs
  · rfl
  · rfl

variable {e}

theorem Sound.held_bounds (h : e.Sound owner name) (op : GoString) :
    0 ≤ e.held op ∧ e.held op ≤ e.activeReferences := by
  unfold held referenceMap
  cases hr : e.references with
  | none =>
    have hmapped := h.mapped hr
    rw [if_neg (by simpa using hmapped)]
    exact ⟨le_rfl, h.active⟩
  | some refs =>
    obtain ⟨hnonneg, htotal⟩ := h.references refs hr
    cases hl : refs.lookup op with
    | none => simpa [GoMap.get, hl] using h.active
    | some n =>
      have hmem : (⟨op, n⟩ : Entry ℤ) ∈ refs.entries := AList.mem_lookup_iff.1 hl
      have hle : n ≤ total refs := List.single_le_sum
        (fun x hx => by
          obtain ⟨r, hr, rfl⟩ := List.mem_map.1 hx
          exact (hnonneg r hr).2) n (List.mem_map.2 ⟨_, hmem, rfl⟩)
      rw [htotal] at hle
      simpa [GoMap.get, hl] using ⟨(hnonneg _ hmem).2, hle⟩

theorem Sound.held_eq_zero (h : e.Sound owner name) (hactive : e.activeReferences ≤ 0)
    (op : GoString) : e.held op = 0 := by
  obtain ⟨hlow, hhigh⟩ := h.held_bounds op
  omega

/-- **What JSON leaves out is read back**, when an entry with an empty map has no references. -/
theorem omitEmpty_held (h : ∀ refs, e.references = some refs → refs.entries = [] →
    e.activeReferences ≤ 0) (op : GoString) : e.omitEmpty.held op = e.held op := by
  unfold held referenceMap omitEmpty
  cases hr : e.references with
  | none => rfl
  | some refs =>
    by_cases hempty : refs.entries = []
    · have hactive := h refs hr hempty
      have hrefs : refs = ∅ := AList.ext hempty
      simp [hrefs, Option.filter, not_lt.2 hactive]
    · simp [hempty, Option.filter]

theorem Sound.omitEmpty_held (h : e.Sound owner name) (op : GoString) :
    e.omitEmpty.held op = e.held op := by
  refine ManifestEntry.omitEmpty_held (fun refs hr hempty => ?_) op
  rw [← (h.references refs hr).2, total, hempty]
  simp

end ManifestEntry

/-! ## The root -/

/-- A manifest as its file holds it: a text that is not one, or its contents. -/
inductive ManifestFile
  | unreadable
  | decoded (version owner : GoString) (entries : OwnerManifest)

/-- What stands in the root beside the manifests. -/
inductive RootItem
  | file (size : ℤ)
  | directory (files : GoMap ℤ)

structure CheckpointRoot where
  /-- The manifests, by owner. -/
  manifests : GoMap ManifestFile := ∅
  content : GoMap RootItem := ∅
  /-- `checkpointTerminalizedOperations`: the transitions this process completed. -/
  terminalizedOperations : List GoString := []
  /-- `checkpointManifestMu`. -/
  locked : Bool := false

def checkpointTerminalizedKey (owner snapshotName operationID : GoString) : GoString :=
  owner ++ [0] ++ snapshotName ++ [0] ++ operationID

def isOwnerByte (b : UInt8) : Bool :=
  (0x41 ≤ b && b ≤ 0x5A) || (0x61 ≤ b && b ≤ 0x7A) || (0x30 ≤ b && b ≤ 0x39) || b = 0x2D || b = 0x5F

def validCheckpointOwner (owner : GoString) : Bool :=
  owner ≠ [] && owner.length ≤ 96 && owner.all isOwnerByte

/-- `^[A-Za-z0-9][A-Za-z0-9._-]{0,95}\.kv$`, without two dots in a row. -/
def validCheckpointSnapshotName (name : GoString) : Bool :=
  match name with
  | [] => false
  | b :: rest =>
    isOwnerByte b && b ≠ 0x2D && b ≠ 0x5F && (ofString ".kv").isSuffixOf rest &&
      (rest.length ≤ 98) && (rest.all fun c => isOwnerByte c || c = 0x2E) &&
      !decide (ofString ".." <:+: name)

def manifestVersion : GoString := "llm-checkpoint-owner-v1"

/-- The error of the first entry that does not pass. -/
def firstInvalid (owner : GoString) (entries : OwnerManifest) : Option GoError :=
  entries.entries.findSome? fun e =>
    match e.2.check owner e.1 with
    | .error err => some err
    | .ok () => none

def readCheckpointOwnerManifest (root : CheckpointRoot) (owner : GoString) :
    Except GoError OwnerManifest :=
  if !validCheckpointOwner owner then .error ⟨"checkpoint owner is invalid", none⟩
  else
    match root.manifests.lookup owner with
    | none => .ok ∅
    | some .unreadable => .error ⟨"checkpoint owner manifest is invalid", none⟩
    | some (.decoded version fileOwner entries) =>
      if version ≠ manifestVersion || fileOwner ≠ owner then
        .error ⟨"checkpoint owner manifest is invalid", none⟩
      else
        match firstInvalid owner entries with
        | some err => .error err
        | none => .ok (mapValues ManifestEntry.normalize entries)

/-- How a write ends: nothing changed, the file changed but the directory was not synced, or it
succeeded. -/
inductive WriteAnswer
  | refused | unsynced | done
  deriving DecidableEq, Repr

variable (root : CheckpointRoot)

/-- An empty manifest is removed. -/
def writeCheckpointOwnerManifest (owner : GoString)
    (entries : OwnerManifest) (a : WriteAnswer) : CheckpointRoot :=
  if a = .refused then root
  else
    { root with
      manifests :=
        if entries.entries.isEmpty then root.manifests.erase owner
        else root.manifests.insert owner
          (.decoded manifestVersion owner (mapValues ManifestEntry.omitEmpty entries)) }

/-- The entries of the owner's manifest, as the file holds them. -/
def CheckpointRoot.entriesOf (owner : GoString) : OwnerManifest :=
  match root.manifests.lookup owner with
  | some (.decoded _ _ entries) => entries
  | _ => ∅

def CheckpointRoot.entryAt (owner name : GoString) : Option ManifestEntry :=
  (root.entriesOf owner).lookup name

/-- What an operation holds of a snapshot in the manifest of an owner. -/
def CheckpointRoot.held (owner name op : GoString) : ℤ :=
  match root.entryAt owner name with
  | some e => e.held op
  | none => 0

section Root

variable {root : CheckpointRoot} {owner name : GoString} {entries : OwnerManifest}

section

variable (h : readCheckpointOwnerManifest root owner = .ok entries)
include h

theorem readCheckpointOwnerManifest_eq :
    entries = mapValues normalize (root.entriesOf owner) ∧
      firstInvalid owner (root.entriesOf owner) = none := by
  revert h
  unfold CheckpointRoot.entriesOf
  fun_cases readCheckpointOwnerManifest root owner with
  | case1 | case3 | case4 | case5 => exact nofun
  | case2 _ hl =>
    rintro ⟨⟩
    rw [hl]
    exact ⟨rfl, rfl⟩
  | case6 _ _ _ _ hl _ hf =>
    rintro ⟨⟩
    rw [hl]
    exact ⟨rfl, hf⟩

/-- **A manifest that is read** has the entries of the file, each of them sound. -/
theorem readCheckpointOwnerManifest_ok :
    (∀ name, entries.lookup name = (root.entryAt owner name).map normalize) ∧
      ∀ name e, entries.lookup name = some e → e.Sound owner name := by
  obtain ⟨rfl, hvalid⟩ := readCheckpointOwnerManifest_eq h
  have hlookup := fun name => lookup_mapValues normalize (root.entriesOf owner) name
  refine ⟨hlookup, fun name e he => ?_⟩
  rw [hlookup] at he
  obtain ⟨e, hl, rfl⟩ := Option.map_eq_some_iff.1 he
  apply sound_normalize
  have hnone := List.findSome?_eq_none_iff.1 hvalid ⟨name, e⟩ (AList.mem_lookup_iff.1 hl)
  cases hc : e.check owner name with
  | error err => simp [hc] at hnone
  | ok u => rfl

theorem held_of_read (name op : GoString) :
    root.held owner name op = (entries.lookup name).elim 0 fun e => e.held op := by
  rw [(readCheckpointOwnerManifest_ok h).1 name, CheckpointRoot.held]
  cases root.entryAt owner name with
  | none => rfl
  | some e => exact (e.normalize_held op).symm

end

variable (root) (owner) (entries) (a : WriteAnswer)

theorem entriesOf_write (owner' : GoString) :
    (writeCheckpointOwnerManifest root owner entries a).entriesOf owner' =
      if a = .refused ∨ owner' ≠ owner then root.entriesOf owner'
      else mapValues omitEmpty entries := by
  unfold writeCheckpointOwnerManifest CheckpointRoot.entriesOf
  by_cases ha : a = .refused
  · simp [ha]
  · by_cases howner : owner' = owner
    · subst howner
      by_cases hempty : entries.entries.isEmpty = true
      · have hentries : entries = ∅ := AList.ext (List.isEmpty_iff.1 hempty)
        simp [ha, hentries]
        rfl
      · simp [ha, hempty]
    · by_cases hempty : entries.entries.isEmpty = true
      · simp [ha, howner, hempty, AList.lookup_erase_ne]
      · simp [ha, howner, hempty, AList.lookup_insert_ne]

theorem entryAt_write (owner' name : GoString) :
    (writeCheckpointOwnerManifest root owner entries a).entryAt owner' name =
      if a = .refused ∨ owner' ≠ owner then root.entryAt owner' name
      else (entries.lookup name).map omitEmpty := by
  unfold CheckpointRoot.entryAt
  rw [entriesOf_write]
  split_ifs
  · rfl
  · exact lookup_mapValues _ _ _

end Root

/-! ## Recording a reference -/

/-- The entry of a snapshot with a reference of the operation: a retry keeps the one it has. -/
def recordedEntry (previous : ManifestEntry) (owner snapshotName operationID : GoString) (size : ℤ)
    (now : GoTime) : Except GoError ManifestEntry :=
  let refs := previous.referenceMap
  let entry := { previous with
    owner := owner, snapshotName := snapshotName, operationID := operationID, bytes := size
    createdAt := if previous.createdAt.isZero then now.utc else previous.createdAt
    terminalized := false, terminalizedOperationID := [], references := some refs }
  if GoMap.get refs operationID = 0 then
    if previous.activeReferences < 0 || previous.activeReferences = maxInt then
      .error ⟨"checkpoint reference count overflow", none⟩
    else
      .ok { entry with
        references := some (refs.insert operationID 1)
        activeReferences := previous.activeReferences + 1 }
  else .ok entry

/-- The manifest with the reference. -/
def recordEntry (entries : OwnerManifest) (owner snapshotName operationID : GoString) (size : ℤ)
    (now : GoTime) : Except GoError OwnerManifest :=
  (recordedEntry ((entries.lookup snapshotName).getD {}) owner snapshotName operationID size
    now).map fun entry => entries.insert snapshotName entry

/-- The tests that `recordOwnedCheckpoint` makes before it reads the manifest. -/
def recordable (snapshotName operationID : GoString) (size : ℤ) : Bool :=
  0 < size && validCheckpointSnapshotName snapshotName && !isBlank operationID &&
    operationID.length ≤ 128

/-! ## Ending a reference -/

/-- The operation is one of the entry, and the entry is asked for. Its key is its `snapshotName`: a
manifest is read with that check. -/
def selects (snapshotName operationID : GoString) (e : ManifestEntry) : Bool :=
  (snapshotName = [] || e.snapshotName = snapshotName) &&
    match e.references with
    | some refs => (refs.lookup operationID).isSome
    | none => e.operationID = operationID

/-- The operation holds a reference that ends. -/
def endsReference (snapshotName operationID : GoString) (e : ManifestEntry) : Bool :=
  selects snapshotName operationID e && 0 < e.held operationID

/-- The entry with one reference of the operation less. -/
def endReference (operationID : GoString) (e : ManifestEntry) : ManifestEntry :=
  let left := e.held operationID - 1
  let terminal := e.activeReferences - 1 = 0
  { e with
    references := some (if left = 0 then e.referenceMap.erase operationID
      else e.referenceMap.insert operationID left)
    activeReferences := e.activeReferences - 1
    terminalized := terminal
    terminalizedOperationID := if terminal then operationID else [] }

/-- The manifest without the references that end, and the entries that are terminal then; `none`
when no reference ends. -/
def endReferences (entries : OwnerManifest) (snapshotName operationID : GoString) :
    Except GoError (Option (OwnerManifest × List GoString)) :=
  let ended := entries.entries.filter fun e => endsReference snapshotName operationID e.2
  if ended.any fun e => e.2.activeReferences ≤ 0 then
    .error ⟨"checkpoint owner manifest reference count underflow", none⟩
  else if ended.isEmpty then .ok none
  else
    .ok (some
      (mapValues
        (fun e => if endsReference snapshotName operationID e then endReference operationID e
        else e) entries,
       (ended.filter fun e => e.2.activeReferences - 1 = 0).map fun e => e.1))

theorem endReferences_ended {entries ended : OwnerManifest} {snapshotName operationID : GoString}
    {names : List GoString}
    (h : endReferences entries snapshotName operationID = .ok (some (ended, names))) :
    ended = mapValues (fun e => if endsReference snapshotName operationID e then
      endReference operationID e else e) entries := by
  simp only [endReferences] at h
  split_ifs at h
  · cases h
  · simp only [Except.ok.injEq, Option.some.injEq, Prod.mk.injEq] at h
    exact h.1.symm

/-- An operation without a reference is no error if this process completed the same call before. -/
def alreadyTerminal (root : CheckpointRoot) (owner snapshotName operationID : GoString) : Bool :=
  checkpointTerminalizedKey owner snapshotName operationID ∈ root.terminalizedOperations

def CheckpointRoot.storeTerminalized (root : CheckpointRoot)
    (owner snapshotName operationID : GoString) : CheckpointRoot :=
  { root with
    terminalizedOperations :=
      checkpointTerminalizedKey owner snapshotName operationID :: root.terminalizedOperations }

def CheckpointRoot.deleteTerminalized (root : CheckpointRoot)
    (owner snapshotName operationID : GoString) : CheckpointRoot :=
  { root with
    terminalizedOperations := root.terminalizedOperations.filter fun k =>
      k ≠ checkpointTerminalizedKey owner snapshotName operationID }

/-! ## Removing a snapshot -/

/-- The entry may be removed: it is one of the owner, terminal and without active references. -/
def removable (entries : OwnerManifest) (owner snapshotName : GoString) : Bool :=
  (entries.lookup snapshotName).any fun e =>
    e.owner = owner && e.activeReferences ≤ 0 && e.terminalized

/-- Whether the snapshot can be removed, and whether the files that belong to it can. -/
structure ArtifactAnswer where
  (snapshot sidecars : Bool := true)
  deriving DecidableEq, Repr

/-- The snapshot as a file of the root. -/
def CheckpointRoot.hasFile (root : CheckpointRoot) (name : GoString) : Bool :=
  match root.content.lookup name with
  | some (.file _) => true
  | _ => false

/-- The removal of the files of a snapshot, and whether it goes on. Something else than a file stops
it. -/
def removeArtifacts (root : CheckpointRoot) (name : GoString) (a : ArtifactAnswer) :
    CheckpointRoot × Bool :=
  match root.content.lookup name with
  | none => (root, a.sidecars)
  | some (.directory _) => (root, false)
  | some (.file _) =>
    if !a.snapshot then (root, false)
    else ({ root with content := root.content.erase name }, a.sidecars)

theorem removeArtifacts_manifests (root : CheckpointRoot) (name : GoString) (a : ArtifactAnswer) :
    (removeArtifacts root name a).1.manifests = root.manifests := by
  unfold removeArtifacts
  split
  · rfl
  · rfl
  · split_ifs <;> rfl

end VramGovernor.NodeAgent
