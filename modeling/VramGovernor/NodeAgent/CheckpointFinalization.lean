import VramGovernor.Foundations.Run
import VramGovernor.NodeAgent.CheckpointManifests

/-!
# Finalizing the reference of an operation

A restore runs under an operation of its own, while its snapshot is recorded for the one that saved
it. So `finalizeCheckpointOwnership` looks for the operation in the entry, and if it is not there
and the entry has one reference, ends that one. An operation whose reference has ended is not there
either: a repeated call can end the reference of another operation (`repeated_call_ends_other`).

`markOwnedCheckpointTerminal_held` says what a call ends; the removal of terminal snapshots leaves
every reference (`removeOwnedCheckpointForOwner_held`). `others_kept_iff` is about sequences of
calls.
-/

namespace VramGovernor.NodeAgent

open GoString GoMap ManifestEntry

/-! ## The calls -/

/-- The answers of the file system to the removal of a snapshot. -/
structure RemovalAnswer where
  read : Bool := true
  artifacts : ArtifactAnswer := {}
  write : WriteAnswer := .done

/-- The removal of a terminal snapshot with its entry, and whether it succeeded. -/
def removeOwnedCheckpointForOwner (root : CheckpointRoot) (owner snapshotName : GoString)
    (a : RemovalAnswer) : CheckpointRoot × Bool :=
  if !validCheckpointSnapshotName snapshotName || !a.read then (root, false)
  else
    match readCheckpointOwnerManifest root owner with
    | .error _ => (root, false)
    | .ok entries =>
      if !removable entries owner snapshotName then (root, false)
      else
        let removed := removeArtifacts root snapshotName a.artifacts
        if !removed.2 then (removed.1, false)
        else
          (writeCheckpointOwnerManifest removed.1 owner (entries.erase snapshotName) a.write,
            a.write = .done)

/-- The answers of the file system to a finalization. -/
structure FinalizeAnswers where
  /-- Whether the manifest can be read when the operation is looked up. -/
  (lookup read : Bool := true)
  write : WriteAnswer := .done
  removal : GoString → RemovalAnswer := fun _ => {}

/-- How a finalization ends: it is refused with an error, or an error of the file system stops
it. -/
inductive FinalizeOutcome
  | done
  | refused (e : GoError)
  | stopped
  deriving DecidableEq

/-- The snapshots that became terminal are removed, until a removal fails. -/
def removeTerminal (owner operationID : GoString) (a : FinalizeAnswers) :
    List GoString → CheckpointRoot → CheckpointRoot × FinalizeOutcome
  | [], root => (root, .done)
  | name :: names, root =>
    let removed := removeOwnedCheckpointForOwner root owner name (a.removal name)
    if !removed.2 then (removed.1, .stopped)
    else removeTerminal owner operationID a names
      (removed.1.storeTerminalized owner name operationID)

def markOwnedCheckpointTerminal (root : CheckpointRoot) (owner snapshotName operationID : GoString)
    (a : FinalizeAnswers) : CheckpointRoot × FinalizeOutcome :=
  if isBlank operationID then
    (root, .refused ⟨"checkpoint terminal lifecycle requires operation identity", none⟩)
  else if !a.read then (root, .stopped)
  else
    match readCheckpointOwnerManifest root owner with
    | .error e => (root, .refused e)
    | .ok entries =>
      match endReferences entries snapshotName operationID with
      | .error e => (root, .refused e)
      | .ok none =>
        (root, if alreadyTerminal root owner snapshotName operationID then .done
          else .refused
            ⟨"checkpoint terminal lifecycle is not authorized for this owner/operation", none⟩)
      | .ok (some (ended, names)) =>
        let written := writeCheckpointOwnerManifest root owner ended a.write
        if a.write ≠ .done then (written, .stopped)
        else removeTerminal owner operationID a names written

/-- The operation whose reference is ended for the one that was named. -/
def resolveOperation (entries : OwnerManifest) (snapshotName operationID : GoString) :
    Except GoError GoString :=
  match entries.lookup snapshotName with
  | none => .ok operationID
  | some e =>
    match e.references with
    | some refs =>
      if (refs.lookup operationID).isSome then .ok operationID
      else
        match refs.entries with
        | [r] => .ok r.1
        | _ => .error ⟨"checkpoint terminal lifecycle reference is ambiguous", none⟩
    | none =>
      if e.operationID ≠ [] && e.operationID ≠ operationID then .ok e.operationID
      else .ok operationID

/-- A call of `finalizeCheckpointOwnership`. -/
structure FinalizeCall where
  (owner snapshotName operationID : GoString)
  answers : FinalizeAnswers := {}

def finalizeCheckpointOwnership (root : CheckpointRoot) (c : FinalizeCall) :
    CheckpointRoot × FinalizeOutcome :=
  if !c.answers.lookup then (root, .stopped)
  else
    match readCheckpointOwnerManifest root c.owner with
    | .error e => (root, .refused e)
    | .ok entries =>
      match resolveOperation entries c.snapshotName c.operationID with
      | .error e => (root, .refused e)
      | .ok operationID =>
        markOwnedCheckpointTerminal root c.owner c.snapshotName operationID c.answers

/-! ## What is held after a call -/

variable {e : ManifestEntry} {snapshotName : GoString}

section Held

variable {root : CheckpointRoot} {owner : GoString} {entries : OwnerManifest}

theorem held_congr {root' : CheckpointRoot} (h : root'.manifests = root.manifests)
    (owner name op : GoString) : root'.held owner name op = root.held owner name op := by
  unfold CheckpointRoot.held CheckpointRoot.entryAt CheckpointRoot.entriesOf
  rw [h]

variable (root)

theorem held_write (owner : GoString) (entries : OwnerManifest)
    (a : WriteAnswer) (owner' name op : GoString) :
    (writeCheckpointOwnerManifest root owner entries a).held owner' name op =
      if a = .refused ∨ owner' ≠ owner then root.held owner' name op
      else (entries.lookup name).elim 0 fun e => e.omitEmpty.held op := by
  unfold CheckpointRoot.held
  rw [entryAt_write]
  split_ifs
  · rfl
  · cases entries.lookup name <;> rfl

theorem removeOwnedCheckpointForOwner_held (owner snapshotName : GoString)
    (a : RemovalAnswer) (owner' name op : GoString) :
    (removeOwnedCheckpointForOwner root owner snapshotName a).1.held owner' name op =
      root.held owner' name op := by
  have hmanifests := removeArtifacts_manifests root snapshotName a.artifacts
  have hsame := held_congr hmanifests owner' name op
  fun_cases removeOwnedCheckpointForOwner root owner snapshotName a with
  | case1 | case2 | case3 => rfl
  | case4 => exact hsame
  | case5 _ entries hread hremovable =>
    have hsound := (readCheckpointOwnerManifest_ok hread).2
    rw [held_write, hsame]
    split_ifs with hkept
    · rfl
    · obtain rfl : owner' = owner := by simpa using (not_or.1 hkept).2
      rw [held_of_read hread, lookup_erase_of]
      split_ifs with hname
      · -- the entry that is removed has no references
        rw [Bool.not_eq_true', Bool.not_eq_false] at hremovable
        obtain ⟨e, hl, he⟩ := (Option.any_eq_true _ _).1 hremovable
        simp only [Bool.and_eq_true, decide_eq_true_eq] at he
        rw [hname, hl]
        exact ((hsound _ _ hl).held_eq_zero he.1.2 op).symm
      · cases hl : entries.lookup name with
        | none => rfl
        | some e => exact (hsound _ _ hl).omitEmpty_held op

variable {root}

theorem removeTerminal_held (owner operationID : GoString) (a : FinalizeAnswers)
    (names : List GoString) (root : CheckpointRoot) (owner' name op : GoString) :
    (removeTerminal owner operationID a names root).1.held owner' name op =
      root.held owner' name op := by
  induction names generalizing root with
  | nil => rfl
  | cons first names ih =>
    have hremoved := removeOwnedCheckpointForOwner_held root owner first (a.removal first) owner'
      name op
    simp only [removeTerminal]
    split_ifs
    · exact hremoved
    · rw [ih]
      exact hremoved

theorem held_endReference {name op : GoString} (h : e.Sound owner name)
    (hheld : 0 < e.held op) (op' : GoString) :
    (endReference op e).omitEmpty.held op' = if op' = op then e.held op' - 1 else e.held op' := by
  have hrefs : ∃ refs, e.references = some refs := by
    cases hr : e.references with
    | some refs => exact ⟨refs, rfl⟩
    | none =>
      have hmapped := h.mapped hr
      simp [held, referenceMap, hr, hmapped, GoMap.get] at hheld
  obtain ⟨refs, hr⟩ := hrefs
  obtain ⟨-, htotal⟩ := h.references refs hr
  have hmap : e.referenceMap = refs := by simp [referenceMap, hr]
  have hget : ∀ p, e.held p = GoMap.get refs p := fun p => by rw [held, hmap]
  rw [omitEmpty_held]
  · show GoMap.get (referenceMap (endReference op e)) op' = _
    have hnew : (endReference op e).referenceMap =
        if e.held op - 1 = 0 then refs.erase op else refs.insert op (e.held op - 1) := by
      simp [referenceMap, endReference, hr]
    rw [hnew, hget op']
    by_cases hop : op' = op
    · subst hop
      rw [if_pos rfl, ← hget]
      split_ifs with hleft
      · rw [get_erase_self, hleft]
      · rw [get_insert_self]
    · split_ifs
      · exact get_erase_of_ne refs hop
      · exact get_insert_of_ne refs _ hop
  · -- when no map is left, the reference that ended was the last
    intro refs' hrefs' hempty
    have hlookup : refs.lookup op = some (e.held op) := by
      rw [hget] at hheld ⊢
      cases hl : refs.lookup op with
      | none => simp [GoMap.get, hl] at hheld
      | some n => simp [GoMap.get, hl]
    simp only [endReference, hmap, Option.some.injEq] at hrefs'
    split_ifs at hrefs' with hleft
    · subst hrefs'
      have hsum := total_eq_get_add_erase hlookup
      have hnone : total (refs.erase op) = 0 := by simp [total, hempty]
      show e.activeReferences - 1 ≤ 0
      omega
    · subst hrefs'
      cases hempty

/-- **The references that end**: an entry that is written has what it had, but for one reference of
the operation if it held one. -/
theorem endReferences_held {operationID : GoString} {ended : OwnerManifest}
    {names : List GoString} (hread : readCheckpointOwnerManifest root owner = .ok entries)
    (h : endReferences entries snapshotName operationID = .ok (some (ended, names)))
    (name op : GoString) :
    ((ended.lookup name).elim 0 fun e => e.omitEmpty.held op) =
      root.held owner name op -
        if op = operationID ∧
            (entries.lookup name).any (endsReference snapshotName operationID) then 1
        else 0 := by
  rw [held_of_read hread, endReferences_ended h, lookup_mapValues]
  cases hl : entries.lookup name with
  | none => simp
  | some e =>
    have hsound := (readCheckpointOwnerManifest_ok hread).2 name e hl
    simp only [Option.map_some, Option.elim_some, Option.any_some]
    by_cases hends : endsReference snapshotName operationID e = true
    · have hheld : 0 < e.held operationID := by simpa using (Bool.and_eq_true_iff.1 hends).2
      rw [if_pos hends, held_endReference hsound hheld]
      split_ifs <;> simp_all
    · rw [if_neg hends, hsound.omitEmpty_held]
      simp [hends]

/-- Where an operation holds a reference that is asked for, references end. -/
theorem endReferences_of_ends {operationID name : GoString}
    (hread : readCheckpointOwnerManifest root owner = .ok entries)
    (hl : entries.lookup name = some e) (hends : endsReference snapshotName operationID e = true) :
    ∃ ended names, endReferences entries snapshotName operationID = .ok (some (ended, names)) := by
  have hmem : (⟨name, e⟩ : Entry ManifestEntry) ∈ entries.entries := AList.mem_lookup_iff.1 hl
  unfold endReferences
  rw [if_neg, if_neg]
  · exact ⟨_, _, rfl⟩
  · rw [List.isEmpty_iff, List.filter_eq_nil_iff]
    exact fun h => h _ hmem hends
  · -- a reference is at most the total, so the count cannot be exhausted
    simp only [List.any_eq_true, List.mem_filter, decide_eq_true_eq, not_exists, not_and, not_le]
    rintro ⟨n, x⟩ ⟨hx, hxends⟩
    have hsound := (readCheckpointOwnerManifest_ok hread).2 n x (AList.mem_lookup_iff.2 hx)
    have hheld : 0 < x.held operationID := by simpa using (Bool.and_eq_true_iff.1 hxends).2
    exact hheld.trans_le (hsound.held_bounds operationID).2

/-- The reference of the operation at the snapshot ends in the call. -/
def Ends (root : CheckpointRoot) (owner snapshotName operationID : GoString) (a : FinalizeAnswers)
    (name : GoString) : Prop :=
  isBlank operationID = false ∧ a.read = true ∧ a.write ≠ .refused ∧
    ∃ entries, readCheckpointOwnerManifest root owner = .ok entries ∧
      (entries.lookup name).any (endsReference snapshotName operationID) = true

/-- **What a call ends**: one reference of its operation at every snapshot where it holds one. -/
theorem markOwnedCheckpointTerminal_held (root : CheckpointRoot)
    (owner snapshotName operationID : GoString) (a : FinalizeAnswers) (owner' name op : GoString) :
    (Ends root owner snapshotName operationID a name ∧ owner' = owner ∧ op = operationID →
      (markOwnedCheckpointTerminal root owner snapshotName operationID a).1.held owner' name op =
        root.held owner' name op - 1) ∧
    (¬(Ends root owner snapshotName operationID a name ∧ owner' = owner ∧ op = operationID) →
      (markOwnedCheckpointTerminal root owner snapshotName operationID a).1.held owner' name op =
        root.held owner' name op) := by
  have hkeep {entries : OwnerManifest}
      (hread : readCheckpointOwnerManifest root owner = .ok entries)
      (h : ∀ ended names,
        endReferences entries snapshotName operationID ≠ .ok (some (ended, names))) :
      ¬Ends root owner snapshotName operationID a name := by
    rintro ⟨-, -, -, entries', hentries, hany⟩
    obtain rfl := Except.ok.inj (hread.symm.trans hentries)
    obtain ⟨x, hl, hends⟩ := (Option.any_eq_true _ _).1 hany
    obtain ⟨ended, names, hok⟩ := endReferences_of_ends hread hl hends
    exact h ended names hok
  fun_cases markOwnedCheckpointTerminal root owner snapshotName operationID a with
  | case1 hblank => simp [Ends, hblank]
  | case2 _ hr => simp_all [Ends]
  | case3 _ _ e hread => simp [Ends, hread]
  | case4 _ _ entries hread e he | case5 _ _ entries hread he =>
    exact ⟨fun h => absurd h.1 (hkeep hread (by simp [he])), fun _ => rfl⟩
  | case6 hblank hr entries hread ended names he written hw
  | case7 hblank hr entries hread ended names he written hw =>
    have hheld := endReferences_held hread he name op
    -- what is removed afterwards has no references
    try rw [removeTerminal_held]
    rw [held_write]
    constructor
    · rintro ⟨⟨-, -, hw, entries', hentries, hany⟩, rfl, rfl⟩
      obtain rfl := Except.ok.inj (hread.symm.trans hentries)
      rw [if_neg (by simp [hw]), hheld, if_pos ⟨rfl, hany⟩]
    · intro hnot
      split_ifs with hkept
      · rfl
      · obtain ⟨hw, howner⟩ := not_or.1 hkept
        obtain rfl : owner' = owner := by simpa using howner
        rw [hheld, if_neg, sub_zero]
        rintro ⟨rfl, hany⟩
        exact hnot ⟨⟨by simpa using hblank, by simpa using hr, hw, entries, hread, hany⟩, rfl, rfl⟩

end Held

/-! ## Sequences of calls -/

def FinalizeStep (root : CheckpointRoot) (c : FinalizeCall) (root' : CheckpointRoot) : Prop :=
  root' = (finalizeCheckpointOwnership root c).1

/-- The call ends no reference but those of its operation. -/
def KeepsOthers (t : Transition CheckpointRoot FinalizeCall) : Prop :=
  ∀ owner name op, op ≠ t.label.operationID → t.post.held owner name op = t.pre.held owner name op

/-- The operation is not in the entry, which has one reference, and nothing keeps the call from
ending it. -/
def FallsBack (root : CheckpointRoot) (c : FinalizeCall) : Prop :=
  c.answers.lookup = true ∧ c.answers.read = true ∧ c.answers.write ≠ .refused ∧
    ∃ entries e refs other n, readCheckpointOwnerManifest root c.owner = .ok entries ∧
      entries.lookup c.snapshotName = some e ∧ e.references = some refs ∧
      refs.lookup c.operationID = none ∧ refs.entries = [⟨other, n⟩] ∧ 0 < n ∧
      isBlank other = false

variable {refs : GoMap ℤ}

theorem held_of_references (h : e.references = some refs)
    (op : GoString) : e.held op = GoMap.get refs op := by
  simp [held, referenceMap, h]

theorem lookup_of_entries_eq {other : GoString} {n : ℤ} (h : refs.entries = [⟨other, n⟩])
    (op : GoString) : refs.lookup op = if op = other then some n else none := by
  have hrefs : refs = (∅ : GoMap ℤ).insert other n := AList.ext (by rw [h]; rfl)
  rw [hrefs, lookup_insert_of]
  rfl

variable {root : CheckpointRoot} {c : FinalizeCall}

theorem FallsBack.resolves (h : FallsBack root c) : ∃ other, other ≠ c.operationID ∧
      Ends root c.owner c.snapshotName other c.answers c.snapshotName ∧
      (finalizeCheckpointOwnership root c).1 =
        (markOwnedCheckpointTerminal root c.owner c.snapshotName other c.answers).1 := by
  obtain ⟨hlookup, hread, hwrite, entries, e, refs, other, n, hentries, hl, hrefs, habsent, hone,
    hn, hblank⟩ := h
  have hother : refs.lookup other = some n := by rw [lookup_of_entries_eq hone, if_pos rfl]
  have hname := ((readCheckpointOwnerManifest_ok hentries).2 _ _ hl).snapshotName
  have hends : endsReference c.snapshotName other e = true := by
    simp [endsReference, selects, hname, hrefs, hother, held_of_references hrefs, GoMap.get, hn]
  refine ⟨other, ?_, ⟨hblank, hread, hwrite, entries, hentries, by simpa [hl] using hends⟩, ?_⟩
  · rintro rfl
    rw [habsent] at hother
    cases hother
  · simp [finalizeCheckpointOwnership, hlookup, hentries, resolveOperation, hl, hrefs, habsent,
      hone]

/-- What a resolved operation that is not the one of the call says of the entry. -/
theorem resolveOperation_ne {entries : OwnerManifest} {operationID other : GoString}
    (h : resolveOperation entries snapshotName operationID = .ok other)
    (hne : other ≠ operationID) :
    ∃ e, entries.lookup snapshotName = some e ∧
      (e.references = none ∨
        ∃ refs n, e.references = some refs ∧ refs.lookup operationID = none ∧
          refs.entries = [⟨other, n⟩]) := by
  revert h
  fun_cases resolveOperation entries snapshotName operationID with
  | case1 | case2 | case6 => exact fun h => absurd (Except.ok.inj h).symm hne
  | case3 e hl refs hr hnone r hentries =>
    rintro ⟨⟩
    exact ⟨e, hl, .inr ⟨refs, _, hr, by simpa using hnone, hentries⟩⟩
  | case4 => exact nofun
  | case5 e hl hr => exact fun _ => ⟨e, hl, .inl hr⟩

/-- A call that does not fall back ends references of its operation only. -/
theorem keepsOthers_of_not_fallsBack (h : ¬FallsBack root c) :
    KeepsOthers ⟨root, c, (finalizeCheckpointOwnership root c).1⟩ := by
  intro owner name op hop
  unfold finalizeCheckpointOwnership
  cases hlookup : c.answers.lookup with
  | false => rfl
  | true =>
    cases hread : readCheckpointOwnerManifest root c.owner with
    | error e => rfl
    | ok entries =>
      dsimp only
      cases hresolve : resolveOperation entries c.snapshotName c.operationID with
      | error e => rfl
      | ok other =>
        refine (markOwnedCheckpointTerminal_held root c.owner c.snapshotName other c.answers owner
          name op).2 ?_
        rintro ⟨⟨hblank, hr, hw, entries', hentries', hany⟩, -, rfl⟩
        obtain rfl := Except.ok.inj (hread.symm.trans hentries')
        obtain ⟨x, hx, hends⟩ := (Option.any_eq_true _ _).1 hany
        obtain ⟨hselects, hheld⟩ := Bool.and_eq_true_iff.1 hends
        obtain ⟨e, hl, he⟩ := resolveOperation_ne hresolve hop
        have hsound := (readCheckpointOwnerManifest_ok hread).2
        -- only the entry of the call's snapshot is asked for
        have hname : name = c.snapshotName := by
          have hasked := (Bool.and_eq_true_iff.1 hselects).1
          rw [(hsound _ _ hx).snapshotName] at hasked
          simpa [(hsound _ _ hl).nonempty] using hasked
        obtain rfl : x = e := Option.some.inj (by rw [← hx, hname, hl])
        have hheld : 0 < x.held op := by simpa using hheld
        rcases he with hnone | ⟨refs, n, hrefs, habsent, hone⟩
        · have hmapped := (hsound _ _ hl).mapped hnone
          simp [held, referenceMap, hnone, hmapped, GoMap.get] at hheld
        · rw [held_of_references hrefs, GoMap.get, lookup_of_entries_eq hone, if_pos rfl] at hheld
          exact h ⟨hlookup, hr, hw, entries, x, refs, op, n, hread, hl, hrefs, habsent, hone, hheld,
            hblank⟩

theorem FallsBack.held_eq_zero (h : FallsBack root c) :
    root.held c.owner c.snapshotName c.operationID = 0 := by
  obtain ⟨-, -, -, entries, e, refs, other, n, hentries, hl, hrefs, habsent, -⟩ := h
  rw [held_of_read hentries, hl, Option.elim_some, held_of_references hrefs, GoMap.get, habsent]
  rfl

/-- **A sequence of finalizations** ends no reference of another operation exactly if none of its
calls falls back. -/
theorem others_kept_iff {root₀ root : CheckpointRoot}
    {tr : List (Transition CheckpointRoot FinalizeCall)} (h : Run FinalizeStep root₀ tr root) :
    (∀ t ∈ tr, KeepsOthers t) ↔ ∀ t ∈ tr, ¬FallsBack t.pre t.label := by
  have hpost : ∀ t ∈ tr, t.post = (finalizeCheckpointOwnership t.pre t.label).1 := by
    intro t ht
    obtain ⟨_, _, _, _, hstep, _⟩ := h.split_mem ht
    exact hstep
  constructor
  · intro hkeeps t ht hfalls
    obtain ⟨other, hne, hends, hmark⟩ := hfalls.resolves
    have hkept := hkeeps t ht t.label.owner t.label.snapshotName other hne
    rw [hpost t ht, hmark, (markOwnedCheckpointTerminal_held t.pre t.label.owner
      t.label.snapshotName other t.label.answers _ _ _).1 ⟨hends, rfl, rfl⟩] at hkept
    omega
  · intro hnot t ht
    have hkeeps := keepsOthers_of_not_fallsBack (hnot t ht)
    rwa [← hpost t ht] at hkeeps

def sharedRoot : CheckpointRoot :=
  { manifests := (∅ : GoMap ManifestFile).insert "owner" (.decoded manifestVersion "owner"
      ((∅ : OwnerManifest).insert "s.kv"
        { owner := "owner", snapshotName := "s.kv", operationID := "B", bytes := 1
          activeReferences := 2
          references := some (((∅ : GoMap ℤ).insert (ofString "A") 1).insert (ofString "B") 1) })) }

/-- The finalization of an operation of the shared snapshot. -/
def finalizing (operationID : GoString) : FinalizeCall :=
  { owner := "owner", snapshotName := "s.kv", operationID := operationID }

/-- Each of the two operations is finalized once. -/
theorem sharers_finalized : ∃ first second, Run FinalizeStep sharedRoot
        [⟨sharedRoot, finalizing "A", first⟩, ⟨first, finalizing "B", second⟩] second ∧
      second.held "owner" "s.kv" "B" = 0 ∧
      ∀ t ∈ [(⟨sharedRoot, finalizing "A", first⟩ : Transition CheckpointRoot FinalizeCall),
        ⟨first, finalizing "B", second⟩], KeepsOthers t := by
  have hstart : Run FinalizeStep sharedRoot [] sharedRoot := .nil
  have hrun := (hstart.snoc (a := finalizing "A") rfl).snoc (a := finalizing "B") rfl
  have hA : sharedRoot.held "owner" "s.kv" "A" = 1 := by decide +kernel
  have hB : (finalizeCheckpointOwnership sharedRoot (finalizing "A")).1.held "owner" "s.kv" "B" = 1
    := by decide +kernel
  refine ⟨_, _, hrun, by decide +kernel, (others_kept_iff hrun).2 fun t ht hfalls => ?_⟩
  have hzero := hfalls.held_eq_zero
  rcases List.mem_cons.1 ht with rfl | ht
  · exact absurd (hA.symm.trans hzero) one_ne_zero
  · obtain rfl := List.mem_singleton.1 ht
    exact absurd (hB.symm.trans hzero) one_ne_zero

/-- **A repeated call ends the reference of another operation**, which holds the snapshot alone
after the first call. -/
theorem repeated_call_ends_other : ∃ first second, Run FinalizeStep sharedRoot
        [⟨sharedRoot, finalizing "A", first⟩, ⟨first, finalizing "A", second⟩] second ∧
      sharedRoot.held "owner" "s.kv" "A" = 1 ∧ first.held "owner" "s.kv" "A" = 0 ∧
      sharedRoot.held "owner" "s.kv" "B" = 1 ∧ first.held "owner" "s.kv" "B" = 1 ∧
      second.held "owner" "s.kv" "B" = 0 := by
  have hstart : Run FinalizeStep sharedRoot [] sharedRoot := .nil
  have hrun := (hstart.snoc (a := finalizing "A") rfl).snoc (a := finalizing "A") rfl
  exact ⟨_, _, hrun, by decide +kernel, by decide +kernel, by decide +kernel, by decide +kernel,
    by decide +kernel⟩

end VramGovernor.NodeAgent
