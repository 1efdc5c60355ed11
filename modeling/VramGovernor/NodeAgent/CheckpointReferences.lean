import VramGovernor.NodeAgent.CheckpointRemoval

/-!
# A snapshot that is referenced is not deleted

A goroutine that deletes a snapshot has seen an entry of its owner without active references. That
is still so at the deletion if nobody has written the manifest in between, and no other owner refers
to the snapshot if names are not shared (`Undisturbed`, `RecordsOwnName`). Under these conditions
only snapshots without references are deleted (`deleted_unreferenced`);
`referenced_snapshot_deleted` has a run against each of them, since the removals of a finalization
run without the mutex and a manifest knows nothing of the others.
-/

namespace VramGovernor.NodeAgent

open GoString GoMap Goroutine CheckpointRoot RootCall Removal

/-! ## What is asked for -/

/-- The owner's manifest has an active reference to the snapshot. -/
def CheckpointRoot.ActiveReference (root : CheckpointRoot) (owner name : GoString) : Prop :=
  ((root.entryAt owner name).any fun e => 0 < e.activeReferences) = true

instance (root : CheckpointRoot) (owner name : GoString) :
    Decidable (root.ActiveReference owner name) :=
  inferInstanceAs (Decidable (_ = true))

def Deletes (t : Transition RootState RootEvent) (name : GoString) : Prop :=
  t.pre.shared.hasFile name = true ∧ t.post.shared.hasFile name = false

instance (t : Transition RootState RootEvent) (name : GoString) : Decidable (Deletes t name) :=
  inferInstanceAs (Decidable (_ ∧ _))

/-- No two manifests have an entry of the same name. -/
def CheckpointRoot.Exclusive (root : CheckpointRoot) : Prop :=
  ∀ name owner owner', owner ≠ owner' →
    root.entryAt owner name = none ∨ root.entryAt owner' name = none

namespace Goroutine

def holdsMutex : Goroutine → Bool
  | entered _ | recording .. | finalizing .. | unlocking .. | sweeping .. | sweepingFiles ..
  | sweepWriting _ | leaving => true
  | checking r | deleting r _ | clearing r _ => r.locked
  | starting _ | waiting _ | returned => false

/-- The owner whose manifest the goroutine has a copy of. -/
def copies : Goroutine → Option GoString
  | recording owner .. | finalizing owner .. => some owner
  | deleting r _ | clearing r _ => some r.owner
  | sweepingFiles v _ | sweepWriting v => some v.owner
  | _ => none

/-- The owner whose manifest the goroutine writes in its next step. -/
def writes : Goroutine → Option GoString
  | recording owner .. | finalizing owner .. => some owner
  | clearing r _ => some r.owner
  | sweepWriting v => some v.owner
  | _ => none

/-- The owner and the name for which the goroutine records a reference in its next step. -/
def records : Goroutine → Option (GoString × GoString)
  | recording owner name _ => some (owner, name)
  | _ => none

end Goroutine

variable (t : Transition RootState RootEvent)

def acting : Option (ℕ × Goroutine) :=
  match t.label with
  | .proceed i _ => (t.pre.goroutines[i]?).map fun g => (i, g)
  | _ => none

/-- A reference is not recorded for a name that the manifest of another owner has. -/
def RecordsOwnName : Prop :=
  ∀ x ∈ acting t, ∀ r ∈ x.2.records, ∀ owner ∈ t.pre.shared.manifests.keys, owner ≠ r.1 →
    (t.pre.shared.entryAt owner r.2).isNone = true

/-- A manifest is not written while another goroutine has a copy of it, unless both run under the
mutex. -/
def Undisturbed : Prop :=
  ∀ x ∈ acting t, ∀ owner ∈ x.2.writes, ∀ y ∈ t.pre.goroutines.zipIdx, y.2 ≠ x.1 →
    y.1.copies = some owner → x.2.holdsMutex = true ∧ y.1.holdsMutex = true

instance (t : Transition RootState RootEvent) : Decidable (RecordsOwnName t) :=
  inferInstanceAs (Decidable (∀ x ∈ acting t, _))

instance (t : Transition RootState RootEvent) : Decidable (Undisturbed t) :=
  inferInstanceAs (Decidable (∀ x ∈ acting t, _))

/-! ## The root during a step -/

section Root

variable {root root' : CheckpointRoot} {owner name : GoString}

theorem entryAt_congr (h : root'.manifests = root.manifests) (owner name : GoString) :
    root'.entryAt owner name = root.entryAt owner name := by
  unfold entryAt entriesOf
  rw [h]

theorem entryAt_of_not_mem (h : owner ∉ root.manifests.keys) (name : GoString) :
    root.entryAt owner name = none := by
  have hlookup : root.manifests.lookup owner = none := AList.lookup_eq_none.2 h
  simp [entryAt, entriesOf, hlookup]

theorem hasFile_removeArtifacts {removed : GoString} {a : ArtifactAnswer}
    (h : root.hasFile name = true) (h' : (removeArtifacts root removed a).1.hasFile name = false) :
    name = removed := by
  by_contra hne
  have hsame : (removeArtifacts root removed a).1.content.lookup name =
      root.content.lookup name := by
    unfold removeArtifacts
    split
    · rfl
    · rfl
    · split_ifs
      · rfl
      · exact AList.lookup_erase_ne hne
  rw [hasFile, hsame] at h'
  rw [hasFile, h'] at h
  cases h

variable (root) (owner) (entries : OwnerManifest) (a : WriteAnswer)

theorem content_write :
    (writeCheckpointOwnerManifest root owner entries a).content = root.content := by
  unfold writeCheckpointOwnerManifest
  split_ifs <;> rfl

theorem locked_write :
    (writeCheckpointOwnerManifest root owner entries a).locked = root.locked := by
  unfold writeCheckpointOwnerManifest
  split_ifs <;> rfl

theorem locked_removeArtifacts (root : CheckpointRoot) (name : GoString) (a : ArtifactAnswer) :
    (removeArtifacts root name a).1.locked = root.locked := by
  unfold removeArtifacts
  split
  · rfl
  · rfl
  · split_ifs <;> rfl

end Root

/-! ## Copies of a manifest -/

/-- The copy has the entries of the file, with the references they have there. -/
def Fresh (root : CheckpointRoot) (owner : GoString) (entries : OwnerManifest) : Prop :=
  ∀ name e, entries.lookup name = some e →
    ∃ e', root.entryAt owner name = some e' ∧ e'.activeReferences = e.activeReferences

/-- The copy has no entries beside those of the file and those of the names. -/
def Within (root : CheckpointRoot) (owner : GoString) (names : List GoString)
    (entries : OwnerManifest) : Prop :=
  ∀ name, root.entryAt owner name = none → name ∉ names → entries.lookup name = none

/-- **What a goroutine may rely on**, by the place it has reached. -/
def Goroutine.Sound (root : CheckpointRoot) : Goroutine → Prop
  | recording owner name entries => Within root owner [name] entries
  | finalizing owner _ entries _ => Within root owner [] entries
  | deleting r entries =>
    Fresh root r.owner entries ∧ removable entries r.owner r.snapshotName = true
  | clearing r entries => Within root r.owner [] entries
  | sweepingFiles v _ | sweepWriting v => Fresh root v.owner v.entries
  | _ => True

section Copies

variable {root root' : CheckpointRoot} {owner name operationID : GoString} {entries : OwnerManifest}
  {a : RootAnswer} {names : List GoString}

section

variable (h : Fresh root owner entries)
include h

theorem Fresh.within (names : List GoString) : Within root owner names entries := by
  intro name hnone _
  cases hl : entries.lookup name with
  | none => rfl
  | some e =>
    obtain ⟨e', he', -⟩ := h name e hl
    rw [hnone] at he'
    cases he'

theorem Fresh.erase (name : GoString) : Fresh root owner (entries.erase name) := by
  intro n e he
  rw [lookup_erase_of] at he
  split_ifs at he
  exact h n e he

theorem Fresh.unreferenced {p : ManifestEntry → Bool}
    (hp : (entries.lookup name).any p = true) (hactive : ∀ e, p e = true → e.activeReferences ≤ 0) :
    ∃ e, root.entryAt owner name = some e ∧ e.activeReferences ≤ 0 := by
  obtain ⟨e, hl, he⟩ := (Option.any_eq_true _ _).1 hp
  obtain ⟨e', he', hsame⟩ := h name e hl
  exact ⟨e', he', hsame ▸ hactive e he⟩

omit h in
theorem readManifest_eq_some (h : readManifest root owner a = some entries) :
    readCheckpointOwnerManifest root owner = .ok entries := by
  unfold readManifest at h
  split_ifs at h
  cases hread : readCheckpointOwnerManifest root owner with
  | error e =>
    rw [hread] at h
    cases h
  | ok es =>
    rw [hread] at h
    exact congrArg Except.ok (Option.some.inj h)

omit h in
theorem fresh_of_read (h : readManifest root owner a = some entries) :
    Fresh root owner entries := by
  intro name e he
  rw [(readCheckpointOwnerManifest_ok (readManifest_eq_some h)).1 name] at he
  obtain ⟨e', he', rfl⟩ := Option.map_eq_some_iff.1 he
  exact ⟨e', he', (e'.normalize_activeReferences).symm⟩

theorem within_recordEntry {size : ℤ} {now : GoTime} {recorded : OwnerManifest}
    (hr : recordEntry entries owner name operationID size now = .ok recorded) :
    Within root owner [name] recorded := by
  unfold recordEntry at hr
  cases he : recordedEntry ((entries.lookup name).getD {}) owner name operationID size now with
  | error e =>
    rw [he] at hr
    cases hr
  | ok e =>
    rw [he] at hr
    obtain rfl : entries.insert name e = recorded := Except.ok.inj hr
    intro n hnone hn
    rw [lookup_insert_of, if_neg (by simpa using hn)]
    exact h.within [] n hnone (by simp)

theorem within_endReferences {ended : OwnerManifest}
    (he : endReferences entries name operationID = .ok (some (ended, names))) :
    Within root owner [] ended := by
  intro n hnone hn
  rw [endReferences_ended he, lookup_mapValues, h.within [] n hnone hn]
  rfl

omit h in
/-- A write leaves no entries beside those that were there and those of the names. -/
theorem within_write (h : Within root owner names entries) (w : WriteAnswer) {o n : GoString}
    (hnone : root.entryAt o n = none) (hn : o = owner → n ∉ names) :
    (writeCheckpointOwnerManifest root owner entries w).entryAt o n = none := by
  rw [entryAt_write]
  split_ifs with hkept
  · exact hnone
  · obtain rfl : o = owner := by simpa using (not_or.1 hkept).2
    rw [h n hnone (hn rfl)]
    rfl

omit h in
theorem Within.congr (h : Within root owner names entries)
    (hroot : ∀ name, root'.entryAt owner name = root.entryAt owner name) :
    Within root' owner names entries :=
  fun n hnone => h n (by rw [← hroot, hnone])

theorem Fresh.congr (hroot : ∀ name, root'.entryAt owner name = root.entryAt owner name) :
    Fresh root' owner entries := by
  intro n e he
  rw [hroot]
  exact h n e he

end

/-- What a goroutine relies on is the manifest that it has a copy of. -/
theorem Goroutine.Sound.congr {g : Goroutine} (h : g.Sound root)
    (hroot : ∀ owner, g.copies = some owner →
      ∀ name, root'.entryAt owner name = root.entryAt owner name) : g.Sound root' := by
  cases g with
  | recording owner name entries | finalizing owner op entries names | clearing r entries =>
    exact Within.congr h (hroot _ rfl)
  | deleting r entries => exact ⟨h.1.congr (hroot _ rfl), h.2⟩
  | sweepingFiles v names | sweepWriting v => exact Fresh.congr h (hroot _ rfl)
  | _ => trivial

end Copies

/-! ## One step of a goroutine -/

section Step

variable {expiry : ℤ} {root : CheckpointRoot} {a : RootAnswer} {g : Goroutine}
  {name : GoString}

variable (r : Removal)

theorem Removal.leave_holdsMutex : r.leave.holdsMutex = r.locked := by
  unfold leave
  cases hl : r.locked <;> rfl

theorem Removal.leave_sound (root : CheckpointRoot) : r.leave.Sound root := by
  unfold leave
  split_ifs <;> trivial

theorem Removal.next_holdsMutex : r.next.holdsMutex = r.locked := by
  unfold next
  split
  · exact r.leave_holdsMutex
  · rfl

theorem Removal.next_sound (root : CheckpointRoot) : r.next.Sound root := by
  unfold next
  split
  · exact r.leave_sound root
  · trivial

theorem RootCall.start_spec (root : CheckpointRoot) (c : RootCall) :
    (c.start root).holdsMutex = false ∧ (c.start root).Sound root := by
  fun_cases start root c with
  | case1 | case2 | case3 | case4 | case5 | case6 => exact ⟨rfl, trivial⟩

/-- **What a step of a goroutine can do.** -/
inductive RootChange (root : CheckpointRoot) (g : Goroutine) : CheckpointRoot × Goroutine → Prop
  /-- The files stay as they are. -/
  | moved {g' done} (hholds : g'.holdsMutex = g.holdsMutex) (hs : g'.Sound root) :
      RootChange root g ({ root with terminalizedOperations := done }, g')
  | locked {call} (hg : g = .waiting call) (hfree : root.locked = false) :
      RootChange root g ({ root with locked := true }, .entered call)
  | unlocked {g'} (hholds : g.holdsMutex = true) (hfree : g'.holdsMutex = false)
      (hs : ∀ root, g'.Sound root) : RootChange root g ({ root with locked := false }, g')
  | written {g' owner names entries w done} (hw : g.writes = some owner)
      (hwithin : Within root owner names entries)
      (hnames : ∀ name ∈ names, ∃ es, g = .recording owner name es)
      (hholds : g'.holdsMutex = g.holdsMutex) (hs : ∀ root, g'.Sound root) :
      RootChange root g
        ({ writeCheckpointOwnerManifest root owner entries w with terminalizedOperations := done },
          g')
  /-- The files of an entry without active references are removed. -/
  | deleted {g' owner name e answer} (he : root.entryAt owner name = some e)
      (hactive : e.activeReferences ≤ 0) (hholds : g'.holdsMutex = g.holdsMutex)
      (hs : g'.Sound root) : RootChange root g ((removeArtifacts root name answer).1, g')

/-- A goroutine that enters leaves again, or has a place it may rely on. -/
theorem RootCall.enter_change (expiry : ℤ) (root : CheckpointRoot) (a : RootAnswer)
    (call : RootCall) : RootChange root (.entered call) (call.enter expiry root a) := by
  cases call with
  | record owner name op size =>
    simp only [enter]
    fun_cases enterRecord root owner name op size a with
    | case1 | case2 | case3 => exact .moved rfl trivial
    | case4 _ entries hread recorded hrec =>
      exact .moved rfl (within_recordEntry (fresh_of_read hread) hrec)
  | finalize owner name op =>
    simp only [enter]
    fun_cases enterFinalize root owner name op a with
    | case2 entries hread ended names hend =>
      exact .moved rfl (within_endReferences (fresh_of_read hread) hend)
    | _ => exact .moved rfl trivial
  | cleanup owner name ops =>
    simp only [enter]
    fun_cases enterCleanup root owner name ops a <;> exact .moved rfl trivial
  | sweep =>
    simp only [enter, enterSweep]
    split_ifs <;> exact .moved rfl trivial

theorem Goroutine.exec_change (expiry : ℤ) (a : RootAnswer) (hg : g.Sound root) :
    RootChange root g (g.exec expiry root a) := by
  cases g with
  | starting call => exact .moved (call.start_spec root).1 (call.start_spec root).2
  | waiting call =>
    simp only [exec]
    split_ifs with hlocked
    · exact .moved rfl trivial
    · exact .locked rfl (by simpa using hlocked)
  | entered call => exact call.enter_change expiry root a
  | recording owner name entries =>
    exact .written rfl hg (fun n hn => ⟨entries, by rw [List.mem_singleton.1 hn]⟩) rfl
      fun _ => trivial
  | finalizing owner op entries names =>
    simp only [exec]
    split_ifs <;> exact .written rfl hg (by simp) rfl fun _ => trivial
  | unlocking owner op names => cases names <;> exact .unlocked rfl rfl fun _ => trivial
  | checking r =>
    simp only [exec]
    fun_cases Removal.check root a r with
    | case1 | case2 | case4 => exact .moved r.leave_holdsMutex (r.leave_sound root)
    | case3 _ entries hread hok => exact .moved rfl ⟨fresh_of_read hread, hok⟩
  | deleting r entries =>
    obtain ⟨hfresh, hok⟩ := hg
    obtain ⟨e, he, hactive⟩ := hfresh.unreferenced hok fun e he => by
      simp only [Bool.and_eq_true, decide_eq_true_eq] at he
      exact he.1.2
    simp only [exec]
    split_ifs
    · exact .deleted he hactive rfl ((hfresh.erase r.snapshotName).within [])
    · exact .deleted he hactive r.leave_holdsMutex (r.leave_sound root)
  | clearing r entries =>
    simp only [exec]
    split_ifs
    · exact .written rfl hg (by simp) r.next_holdsMutex r.next_sound
    · exact .written rfl hg (by simp) r.leave_holdsMutex r.leave_sound
  | sweeping cutoff owners =>
    simp only [exec]
    fun_cases sweepNext root a cutoff owners with
    | case1 | case2 => exact .moved rfl trivial
    | case3 owner owners entries hread => exact .moved rfl (fresh_of_read hread)
  | sweepingFiles v names =>
    cases names with
    | nil =>
      simp only [exec]
      split_ifs
      · exact .moved rfl hg
      · exact .moved rfl trivial
    | cons name names =>
      simp only [exec, Visit.remove]
      by_cases hexp : expired v.entries v.cutoff name = true
      · obtain ⟨e, he, hactive⟩ := Fresh.unreferenced hg hexp fun e he => by
          simp only [Bool.and_eq_true, decide_eq_true_eq] at he
          exact he.1.1.1.le
        simp only [hexp, if_true]
        split_ifs
        · exact .deleted he hactive rfl (Fresh.erase hg name)
        · exact .deleted he hactive rfl hg
      · simp only [hexp]
        exact .moved rfl hg
  | sweepWriting v => exact .written rfl (Fresh.within hg []) (by simp) rfl fun _ => trivial
  | leaving => exact .unlocked rfl rfl fun _ => trivial
  | returned => exact .moved rfl trivial

/-- **The manifests during a step** are as they were, or one of them is written. -/
theorem Goroutine.exec_manifests (expiry : ℤ) (a : RootAnswer) (hg : g.Sound root) :
    (g.exec expiry root a).1.manifests = root.manifests ∨
      ∃ owner names entries w, g.writes = some owner ∧ Within root owner names entries ∧
        (∀ name ∈ names, ∃ es, g = .recording owner name es) ∧
        (g.exec expiry root a).1.manifests =
          (writeCheckpointOwnerManifest root owner entries w).manifests := by
  have hchange := exec_change expiry a hg
  generalize g.exec expiry root a = next at hchange ⊢
  cases hchange with
  | moved | locked | unlocked => exact .inl rfl
  | deleted => exact .inl (removeArtifacts_manifests root _ _)
  | written hw hwithin hnames => exact .inr ⟨_, _, _, _, hw, hwithin, hnames, rfl⟩

theorem Goroutine.exec_entryAt_of_ne (hg : g.Sound root) {owner : GoString}
    (hne : g.writes ≠ some owner) (name : GoString) :
    (g.exec expiry root a).1.entryAt owner name = root.entryAt owner name := by
  rcases exec_manifests expiry a hg with h | ⟨o, names, entries, w, hw, -, -, h⟩
  · exact entryAt_congr h owner name
  · rw [entryAt_congr h, entryAt_write, if_pos (.inr fun ho => hne (ho ▸ hw))]

/-- An entry that was not there is one that is recorded. -/
theorem Goroutine.exec_entryAt_eq_none (hg : g.Sound root) {owner : GoString}
    (hnone : root.entryAt owner name = none) (hrec : ∀ entries, g ≠ .recording owner name entries) :
    (g.exec expiry root a).1.entryAt owner name = none := by
  rcases exec_manifests expiry a hg with
    h | ⟨o, names, entries, w, hw, hwithin, hnames, h⟩
  · rw [entryAt_congr h, hnone]
  · rw [entryAt_congr h]
    refine within_write hwithin w hnone fun ho hn => ?_
    obtain ⟨es, hes⟩ := hnames name hn
    exact hrec es (ho ▸ hes)

theorem Goroutine.exec_sound (hg : g.Sound root) :
    (g.exec expiry root a).2.Sound (g.exec expiry root a).1 := by
  have hchange := exec_change expiry a hg
  generalize g.exec expiry root a = next at hchange ⊢
  cases hchange with
  | moved _ hs => exact hs.congr fun _ _ _ => rfl
  | locked => trivial
  | unlocked _ _ hs | written _ _ _ _ hs => exact hs _
  | deleted _ _ _ hs =>
    exact hs.congr fun owner _ => entryAt_congr (removeArtifacts_manifests root _ _) owner

/-- **The mutex during a step** stays where it is, or is taken when it is free, or is given back. -/
theorem Goroutine.exec_mutex (expiry : ℤ) (a : RootAnswer) (hg : g.Sound root) :
    ((g.exec expiry root a).2.holdsMutex = g.holdsMutex ∧
        (g.exec expiry root a).1.locked = root.locked) ∨
      (root.locked = false ∧ (g.exec expiry root a).1.locked = true) ∨
      (g.holdsMutex = true ∧ (g.exec expiry root a).2.holdsMutex = false) := by
  have hchange := exec_change expiry a hg
  generalize g.exec expiry root a = next at hchange ⊢
  cases hchange with
  | moved hholds => exact .inl ⟨hholds, rfl⟩
  | locked _ hfree => exact .inr (.inl ⟨hfree, rfl⟩)
  | unlocked hholds hfree => exact .inr (.inr ⟨hholds, hfree⟩)
  | written _ _ _ hholds => exact .inl ⟨hholds, locked_write _ _ _ _⟩
  | deleted _ _ hholds => exact .inl ⟨hholds, locked_removeArtifacts _ _ _⟩

/-- **A step that deletes a snapshot** rests on an entry of the file without active references. -/
theorem Goroutine.exec_deletes (hg : g.Sound root) (h : root.hasFile name = true)
    (h' : (g.exec expiry root a).1.hasFile name = false) :
    ∃ owner e, root.entryAt owner name = some e ∧ e.activeReferences ≤ 0 := by
  have hchange := exec_change expiry a hg
  generalize g.exec expiry root a = next at hchange h'
  cases hchange with
  | moved | locked | unlocked => cases h.symm.trans h'
  | written =>
    rw [hasFile, content_write] at h'
    cases h.symm.trans h'
  | deleted he hactive =>
    obtain rfl := hasFile_removeArtifacts h h'
    exact ⟨_, _, he, hactive⟩

end Step

/-! ## Runs -/

/-- **The invariant.** Names are not shared, at most one goroutine has the mutex, and each is at a
place it may rely on. -/
structure RootConsistent (s : RootState) : Prop where
  exclusive : s.shared.Exclusive
  mutex : ∀ {i j : ℕ} {g g' : Goroutine}, s.goroutines[i]? = some g → s.goroutines[j]? = some g' →
    g.holdsMutex = true → g'.holdsMutex = true → i = j
  locked : ∀ {i : ℕ} {g : Goroutine}, s.goroutines[i]? = some g → g.holdsMutex = true →
    s.shared.locked = true
  sound : ∀ {i : ℕ} {g : Goroutine}, s.goroutines[i]? = some g → g.Sound s.shared

section Runs

variable {expiry : ℤ} {s s' : RootState} {i j : ℕ} {a : RootAnswer} {g : Goroutine}
  {l : List Goroutine}

/-- Where names are not shared, an entry without references is the only one of its name. -/
theorem CheckpointRoot.Exclusive.not_activeReference {root : CheckpointRoot} (h : root.Exclusive)
    {owner name : GoString} {e : ManifestEntry} (he : root.entryAt owner name = some e)
    (hactive : e.activeReferences ≤ 0) (owner' : GoString) :
    ¬ root.ActiveReference owner' name := by
  unfold CheckpointRoot.ActiveReference
  by_cases howner : owner = owner'
  · subst howner
    simpa [he] using hactive
  · rcases h name owner owner' howner with hnone | hnone
    · rw [he] at hnone
      cases hnone
    · simp [hnone]

theorem getElem?_set_cases {x y : Goroutine} (h : (l.set i x)[j]? = some y) :
    (j = i ∧ y = x) ∨ (j ≠ i ∧ l[j]? = some y) := by
  rw [List.getElem?_set] at h
  by_cases hij : i = j
  · split_ifs at h
    exact .inl ⟨hij.symm, (Option.some.inj h).symm⟩
  · rw [if_neg hij] at h
    exact .inr ⟨Ne.symm hij, h⟩

theorem getElem?_concat_cases {x y : Goroutine} (h : (l ++ [x])[j]? = some y) :
    l[j]? = some y ∨ y = x := by
  rcases lt_or_ge j l.length with hj | hj
  · rw [List.getElem?_append_left hj] at h
    exact .inl h
  · rw [List.getElem?_append_right hj] at h
    exact .inr (List.mem_singleton.1 (List.mem_of_getElem? h))

theorem exclusive_congr {root root' : CheckpointRoot} (h : root.Exclusive)
    (hm : root'.manifests = root.manifests) : root'.Exclusive := by
  intro name owner owner' hne
  rw [entryAt_congr hm, entryAt_congr hm]
  exact h name owner owner' hne

section

variable (h : RootConsistent s) (hi : s.goroutines[i]? = some g)
include h hi

section

variable (hown : ∀ owner name entries, g = .recording owner name entries →
  ∀ owner', owner' ≠ owner → s.shared.entryAt owner' name = none)
include hown

theorem RootConsistent.exec_exclusive : (g.exec expiry s.shared a).1.Exclusive := by
  have hg := h.sound hi
  -- a name that the first owner does not have
  have hcase : ∀ {name o o' : GoString}, o ≠ o' → s.shared.entryAt o name = none →
      (g.exec expiry s.shared a).1.entryAt o name = none ∨
        (g.exec expiry s.shared a).1.entryAt o' name = none := by
    intro name o o' hne hnone
    by_cases hrec : ∃ entries, g = .recording o name entries
    · obtain ⟨entries, rfl⟩ := hrec
      right
      rw [exec_entryAt_of_ne hg fun hw => hne (Option.some.inj hw)]
      exact hown o name entries rfl o' hne.symm
    · exact .inl (exec_entryAt_eq_none hg hnone fun entries he => hrec ⟨entries, he⟩)
  intro name owner owner' hne
  rcases h.exclusive name owner owner' hne with hnone | hnone
  · exact hcase hne hnone
  · exact (hcase hne.symm hnone).symm

omit hown in
/-- A step of one goroutine leaves the others at places they may rely on. -/
theorem RootConsistent.exec_sound_of_ne
    {g' : Goroutine} (hne : j ≠ i) (hj : s.goroutines[j]? = some g')
    (hquiet : ∀ owner, g.writes = some owner → g'.copies = some owner →
      g.holdsMutex = true ∧ g'.holdsMutex = true) :
    g'.Sound (g.exec expiry s.shared a).1 := by
  refine (h.sound hj).congr fun owner hcopy name => ?_
  refine exec_entryAt_of_ne (h.sound hi) (fun hw => ?_) name
  -- both would have the mutex
  obtain ⟨hg, hg'⟩ := hquiet owner hw hcopy
  exact hne (h.mutex hj hi hg' hg)

omit hown in
/-- A goroutine with the mutex after a step, beside the one that took the step, had it before. -/
theorem RootConsistent.exec_mutex_of_ne
    {g' : Goroutine} (hne : j ≠ i) (hj : s.goroutines[j]? = some g') (hg' : g'.holdsMutex = true) :
    (g.exec expiry s.shared a).2.holdsMutex = false ∧
      (g.exec expiry s.shared a).1.locked = true := by
  have hlocked := h.locked hj hg'
  have hfree : g.holdsMutex ≠ true := fun hg => hne (h.mutex hj hi hg' hg)
  rcases exec_mutex expiry a (h.sound hi) with
    ⟨hsame, hl⟩ | ⟨hunlocked, -⟩ | ⟨hg, -⟩
  · exact ⟨by simpa [hsame] using hfree, hl.trans hlocked⟩
  · rw [hlocked] at hunlocked
    cases hunlocked
  · exact absurd hg hfree

omit hown in
theorem RootConsistent.exec_locked (hg : (g.exec expiry s.shared a).2.holdsMutex = true) :
    (g.exec expiry s.shared a).1.locked = true := by
  rcases exec_mutex expiry a (h.sound hi) with
    ⟨hsame, hl⟩ | ⟨-, hlocked⟩ | ⟨-, hfree⟩
  · exact hl.trans (h.locked hi (hsame ▸ hg))
  · exact hlocked
  · rw [hg] at hfree
    cases hfree

theorem RootConsistent.proceed
    (hquiet : ∀ owner, g.writes = some owner → ∀ j g', j ≠ i → s.goroutines[j]? = some g' →
      g'.copies = some owner → g.holdsMutex = true ∧ g'.holdsMutex = true) :
    RootConsistent
      { shared := (g.exec expiry s.shared a).1
        goroutines := s.goroutines.set i (g.exec expiry s.shared a).2 } := by
  refine ⟨h.exec_exclusive hi hown, fun {j k x y} hj hk hx hy => ?_, fun {j x} hj hx => ?_,
    fun {j x} hj => ?_⟩
  · rcases getElem?_set_cases hj with ⟨rfl, rfl⟩ | ⟨hji, hj'⟩
    · rcases getElem?_set_cases hk with ⟨rfl, -⟩ | ⟨hki, hk'⟩
      · rfl
      · rw [(h.exec_mutex_of_ne hi hki hk' hy).1] at hx
        cases hx
    · rcases getElem?_set_cases hk with ⟨rfl, rfl⟩ | ⟨hki, hk'⟩
      · rw [(h.exec_mutex_of_ne hi hji hj' hx).1] at hy
        cases hy
      · exact h.mutex hj' hk' hx hy
  · rcases getElem?_set_cases hj with ⟨rfl, rfl⟩ | ⟨hji, hj⟩
    · exact h.exec_locked hi hx
    · exact (h.exec_mutex_of_ne hi hji hj hx).2
  · rcases getElem?_set_cases hj with ⟨rfl, rfl⟩ | ⟨hji, hj⟩
    · exact exec_sound (h.sound hi)
    · exact h.exec_sound_of_ne hi hji hj fun owner hw => hquiet owner hw j x hji hj

end

end

theorem RootConsistent.call (h : RootConsistent s) (c : RootCall) :
    RootConsistent { s with goroutines := s.goroutines ++ [.starting c] } := by
  -- a goroutine with the mutex is not the new one
  have hold : ∀ {j : ℕ} {x : Goroutine}, (s.goroutines ++ [starting c])[j]? = some x →
      x.holdsMutex = true → s.goroutines[j]? = some x := by
    intro j x hj hx
    rcases getElem?_concat_cases hj with hj | rfl
    · exact hj
    · cases hx
  refine ⟨h.exclusive, fun hj hk hx hy => h.mutex (hold hj hx) (hold hk hy) hx hy,
    fun hj hx => h.locked (hold hj hx) hx, fun {j x} hj => ?_⟩
  rcases getElem?_concat_cases hj with hj | rfl
  · exact h.sound hj
  · trivial

theorem RootConsistent.save (h : RootConsistent s) (name : GoString) (size : ℤ) :
    RootConsistent { s with shared := withFile s.shared name size } :=
  ⟨exclusive_congr h.exclusive rfl, h.mutex, h.locked,
    fun hj => (h.sound hj).congr fun owner _ name => entryAt_congr rfl owner name⟩

theorem rootConsistent_of_exclusive (hs : s.goroutines = []) (h : s.shared.Exclusive) :
    RootConsistent s := by
  refine ⟨h, ?_, ?_, ?_⟩ <;> simp [hs]

/-- **One step of the agent** keeps the invariant, and deletes only what is not referenced. -/
theorem RootConsistent.step {e : RootEvent} (h : RootConsistent s)
    (hs : (checkpointAgent expiry).Step s e s') (hown : RecordsOwnName ⟨s, e, s'⟩)
    (hquiet : Undisturbed ⟨s, e, s'⟩) :
    RootConsistent s' ∧ ∀ name, Deletes ⟨s, e, s'⟩ name →
      ∀ owner, ¬ s.shared.ActiveReference owner name := by
  have hkept : s'.shared.content = s.shared.content → ∀ name, Deletes ⟨s, e, s'⟩ name →
      ∀ owner, ¬ s.shared.ActiveReference owner name := by
    rintro hcontent name ⟨hpre, hpost⟩
    rw [hasFile, hcontent, ← hasFile, hpre] at hpost
    cases hpost
  subst hs
  cases e with
  | call c => exact ⟨h.call c, hkept rfl⟩
  | restart => exact ⟨rootConsistent_of_exclusive rfl (exclusive_congr h.exclusive rfl), hkept rfl⟩
  | other file =>
    refine ⟨h.save file.1 file.2, ?_⟩
    rintro n ⟨hpre, hpost⟩
    simp only [Program.step, checkpointAgent, withFile, hasFile, lookup_insert_of] at hpre hpost
    split_ifs at hpost
    rw [hpost] at hpre
    cases hpre
  | proceed i a =>
    cases hi : s.goroutines[i]? with
    | none =>
      have hexec := (checkpointAgent expiry).step_proceed_none hi a
      exact ⟨by rwa [hexec], hkept (by rw [hexec])⟩
    | some g =>
      have hacting : ∀ s', acting ⟨s, .proceed i a, s'⟩ = some (i, g) := fun _ => by
        simp [acting, hi]
      rw [Program.step_proceed hi]
      refine ⟨h.proceed hi (fun owner name entries hg owner' hne => ?_)
        (fun owner hw j g' hji hj => ?_), ?_⟩
      · by_cases hmem : owner' ∈ s.shared.manifests.keys
        · exact Option.isNone_iff_eq_none.1
            (hown _ (hacting _) (owner, name) (by simp [hg, records]) owner' hmem hne)
        · exact entryAt_of_not_mem hmem name
      · exact hquiet _ (hacting _) owner hw (g', j) (List.mem_zipIdx_iff_getElem?.2 hj) hji
      · rintro name ⟨hpre, hpost⟩
        obtain ⟨owner, e, he, hactive⟩ := exec_deletes (h.sound hi) hpre hpost
        exact h.exclusive.not_activeReference he hactive

end Runs

/-- **A snapshot that is deleted is not referenced**, if names are not shared, no owner records a
name of another, and no manifest is written beside a copy that is used without the mutex. -/
theorem deleted_unreferenced {expirySeconds : ℤ} {s₀ s : RootState}
    {tr : List (Transition RootState RootEvent)}
    (h : Run (checkpointAgent expirySeconds).Step s₀ tr s)
    (hstart : s₀.goroutines = []) (hnames : s₀.shared.Exclusive)
    (hown : ∀ t ∈ tr, RecordsOwnName t) (hquiet : ∀ t ∈ tr, Undisturbed t) :
    ∀ t ∈ tr, ∀ name, Deletes t name → ∀ owner, ¬ t.pre.shared.ActiveReference owner name :=
  (h.observe_of (C := fun t => RecordsOwnName t ∧ Undisturbed t)
    (O := fun t => ∀ name, Deletes t name → ∀ owner, ¬ t.pre.shared.ActiveReference owner name)
    (fun t ht => ⟨hown t ht, hquiet t ht⟩) (rootConsistent_of_exclusive hstart hnames)
    fun _ _ _ hs hst hC => hs.step hst hC.1 hC.2).2

/-! ## Runs with and against the conditions -/

/-- A call, and the first steps of its goroutine, which is the one at that place. -/
def called (c : RootCall) (i steps : ℕ) : List (RootState → RootEvent) :=
  (fun _ => .call c) :: List.replicate steps fun _ => .proceed i {}

def saved (name : GoString) : List (RootState → RootEvent) := [fun _ => .other (name, 10)]

/-- Two owners record snapshots of their own, and one of them is finalized. -/
def ownNames : List (RootState → RootEvent) :=
  called (.record "alice" "a.kv" "op1" 10) 0 5 ++ saved "a.kv" ++
    called (.record "bob" "b.kv" "op2" 10) 1 5 ++ called (.finalize "alice" "a.kv" "op1") 2 8

/-- Two owners record the same snapshot, and it is finalized for one of them. -/
def sharedName : List (RootState → RootEvent) :=
  called (.record "alice" "s.kv" "op1" 10) 0 5 ++ saved "s.kv" ++
    called (.record "bob" "s.kv" "op2" 10) 1 5 ++ called (.finalize "alice" "s.kv" "op1") 2 7

/-- A finalization has found the snapshot terminal when another operation records a reference. -/
def recordedMeanwhile : List (RootState → RootEvent) :=
  called (.record "alice" "s.kv" "op1" 10) 0 5 ++ saved "s.kv" ++
    called (.finalize "alice" "s.kv" "op1") 1 6 ++
    called (.record "alice" "s.kv" "op2" 10) 2 5 ++ [fun _ => .proceed 1 {}]

abbrev emptyRoot : RootState := { shared := {} }

abbrev rootScript (as : List (RootState → RootEvent)) : List (Transition RootState RootEvent) :=
  Run.script (checkpointAgent 3600).step emptyRoot as

theorem rootScript_run (as : List (RootState → RootEvent)) :
    Run (checkpointAgent 3600).Step emptyRoot (rootScript as)
      (Run.afterScript (checkpointAgent 3600).step emptyRoot as) :=
  Run.of_script (checkpointAgent 3600).step (fun _ _ _ => rfl) emptyRoot

/-- The snapshot is deleted when its last reference has ended, and the other one stays. -/
theorem own_names_deleted : (∃ t ∈ rootScript ownNames, Deletes t "a.kv") ∧
      ∀ t ∈ rootScript ownNames, ∀ name, Deletes t name →
        ∀ owner, ¬ t.pre.shared.ActiveReference owner name :=
  ⟨by decide +kernel, deleted_unreferenced (rootScript_run ownNames) rfl
    (fun _ _ _ _ => .inl rfl) (by decide +kernel) (by decide +kernel)⟩

/-- **Snapshots that are referenced are deleted**: one of another owner, and one recorded after the
finalization read the manifest. -/
theorem referenced_snapshot_deleted :
    (∃ s, Run (checkpointAgent 3600).Step emptyRoot (rootScript sharedName) s ∧
      ∃ t ∈ rootScript sharedName, Deletes t "s.kv" ∧ t.pre.shared.ActiveReference "bob" "s.kv") ∧
    ∃ s, Run (checkpointAgent 3600).Step emptyRoot (rootScript recordedMeanwhile) s ∧
      ∃ t ∈ rootScript recordedMeanwhile,
        Deletes t "s.kv" ∧ t.pre.shared.ActiveReference "alice" "s.kv" :=
  ⟨⟨_, rootScript_run sharedName, by decide +kernel⟩,
    ⟨_, rootScript_run recordedMeanwhile, by decide +kernel⟩⟩

end VramGovernor.NodeAgent
