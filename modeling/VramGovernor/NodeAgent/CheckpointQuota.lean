import VramGovernor.NodeAgent.CheckpointManifests

/-!
# The quotas of checkpoint saves

A save asks `checkpointQuotaAllowed` before the runtime writes the file and once more after it. The
second scan finds the file in the total of the root; but the bytes that the owner claims under the
name are taken off, although the file they stood for is gone, and the owner is charged with what its
manifest claims, since the new size is recorded after the scan.

So a save of a name that the owner does not claim keeps the total of the root within its maximum
(`snapshotBytes_le_of_allowed`), and the recorded bytes of an owner are not bounded.
`saved_within_quota_iff` is the exact condition.
-/

namespace VramGovernor.NodeAgent

open GoString GoMap

/-! ## Checked arithmetic -/

def checkedCheckpointAdd (left right : ℤ) : Except GoError ℤ :=
  if left < 0 || right < 0 then .error ⟨"checkpoint quota accounting has a negative size", none⟩
  else if maxInt - left < right then .error ⟨"checkpoint quota accounting overflow", none⟩
  else .ok (left + right)

def checkedCheckpointSub (left right : ℤ) : Except GoError ℤ :=
  if left < 0 || right < 0 || left < right then
    .error ⟨"checkpoint quota accounting underflow", none⟩
  else .ok (left - right)

def checkedCheckpointReplacement (used incoming replaced : ℤ) : Except GoError ℤ := do
  let withoutReplacement ← checkedCheckpointSub used replaced
  checkedCheckpointAdd withoutReplacement incoming

def checkedCheckpointFileCount (count : ℤ) : Except GoError ℤ :=
  if count < 0 || count = maxInt then .error ⟨"checkpoint quota file count overflow", none⟩
  else .ok (count + 1)

theorem checkedCheckpointAdd_ok {left right sum : ℤ}
    (h : checkedCheckpointAdd left right = .ok sum) : sum = left + right := by
  unfold checkedCheckpointAdd at h
  split_ifs at h
  exact (Except.ok.inj h).symm

theorem checkedCheckpointReplacement_ok {used incoming replaced result : ℤ}
    (h : checkedCheckpointReplacement used incoming replaced = .ok result) :
    result = used - replaced + incoming := by
  obtain ⟨left, hsub, hadd⟩ := bind_eq_ok.1 h
  unfold checkedCheckpointSub at hsub
  split_ifs at hsub
  rw [checkedCheckpointAdd_ok hadd, ← Except.ok.inj hsub]

/-! ## The scan -/

/-- The quotas of `CheckpointConfig`. -/
structure CheckpointQuotas where
  (maxBytes maxFiles perOwnerMaxBytes perOwnerMaxFiles maxMetadataBytes maxOutputBytes : ℤ)

/-- A snapshot file of a scan: its size, the bytes that the owner of the save is charged with, and
whether it has the name of the save. -/
structure Charge where
  size : ℤ
  owned : Option ℤ
  named : Bool

def isSnapshotFile (name : GoString) : Bool := (ofString ".kv").isSuffixOf name

/-- The snapshot files of an item. The owner is charged with what its manifest claims for a file of
the root, and with the size of a file in its directory. -/
def itemCharges (entries : OwnerManifest) (owner snapshotName : GoString)
    (item : Entry RootItem) : List Charge :=
  match item.2 with
  | .file size =>
    if isSnapshotFile item.1 then
      [⟨size, ((entries.lookup item.1).filter fun e => e.owner = owner).map fun e => e.bytes,
        item.1 = snapshotName⟩]
    else []
  | .directory files =>
    (files.entries.filter fun file => isSnapshotFile file.1).map fun file =>
      ⟨file.2, if item.1 = owner then some file.2 else none, file.1 = snapshotName⟩

structure QuotaScan where
  (globalBytes ownerBytes globalFiles ownerFiles replacementBytes : ℤ := 0)
  found : Bool := false

def QuotaScan.charge (s : QuotaScan) (c : Charge) : Except GoError QuotaScan := do
  let globalBytes ← checkedCheckpointAdd s.globalBytes c.size
  let globalFiles ← checkedCheckpointFileCount s.globalFiles
  match c.owned with
  | none => .ok { s with globalBytes := globalBytes, globalFiles := globalFiles }
  | some bytes => do
    let ownerBytes ← checkedCheckpointAdd s.ownerBytes bytes
    let ownerFiles ← checkedCheckpointFileCount s.ownerFiles
    .ok { globalBytes := globalBytes, globalFiles := globalFiles
          ownerBytes := ownerBytes, ownerFiles := ownerFiles
          found := s.found || c.named
          replacementBytes := if c.named then bytes else s.replacementBytes }

/-- The number of files with one more for a name that was not found. -/
def QuotaScan.withNewFile (s : QuotaScan) (count : ℤ) : Except GoError ℤ :=
  if s.found then .ok count else checkedCheckpointFileCount count

/-- The comparison of a scan with the quotas. -/
def QuotaScan.allowed (s : QuotaScan) (cfg : CheckpointQuotas) (extra : ℤ) :
    Except GoError Unit := do
  let newBytes ← checkedCheckpointReplacement s.globalBytes extra s.replacementBytes
  let globalFileCount ← s.withNewFile s.globalFiles
  if cfg.maxBytes < newBytes || cfg.maxFiles < globalFileCount then
    .error ⟨"checkpoint global quota exceeded", none⟩
  else do
    let ownerNewBytes ← checkedCheckpointReplacement s.ownerBytes extra s.replacementBytes
    let ownerFileCount ← s.withNewFile s.ownerFiles
    if cfg.perOwnerMaxBytes < ownerNewBytes || cfg.perOwnerMaxFiles < ownerFileCount then
      .error ⟨"checkpoint owner quota exceeded", none⟩
    else .ok ()

/-- The scan of the root. Whether every file is regular and private is an answer of the file system.
-/
def scanRoot (root : CheckpointRoot) (entries : OwnerManifest) (owner snapshotName : GoString)
    (regular : Bool) : Except GoError QuotaScan :=
  if !regular then .error ⟨"checkpoint slot file is not a regular file", none⟩
  else (root.content.entries.flatMap (itemCharges entries owner snapshotName)).foldlM
    QuotaScan.charge {}

def checkpointQuotaAllowed (cfg : CheckpointQuotas) (root : CheckpointRoot)
    (owner snapshotName : GoString) (extra : ℤ) (regular : Bool) : Except GoError Unit :=
  if extra < 0 || cfg.maxBytes ≤ 0 || cfg.maxFiles ≤ 0 || !validCheckpointOwner owner ||
      (snapshotName ≠ [] && !validCheckpointSnapshotName snapshotName) then
    .error ⟨"checkpoint quotas are not configured", none⟩
  else do
    let entries ← readCheckpointOwnerManifest root owner
    let scan ← scanRoot root entries owner snapshotName regular
    scan.allowed cfg extra

/-! ## What a scan finds -/

/-- The bytes of an item of the root that are snapshots. -/
def itemBytes (item : Entry RootItem) : ℤ :=
  match item.2 with
  | .file size => if isSnapshotFile item.1 then size else 0
  | .directory files =>
    ((files.entries.filter fun file => isSnapshotFile file.1).map fun file => file.2).sum

def snapshotBytes (content : GoMap RootItem) : ℤ := (content.entries.map itemBytes).sum

variable (entries : OwnerManifest) (owner snapshotName : GoString)

theorem sum_itemCharges (item : Entry RootItem) :
    ((itemCharges entries owner snapshotName item).map Charge.size).sum = itemBytes item := by
  unfold itemCharges itemBytes
  cases item.2 with
  | file size =>
    split_ifs <;> simp
  | directory files => simp [List.map_map, Function.comp_def]

theorem sum_charges (items : List (Entry RootItem)) :
    ((items.flatMap (itemCharges entries owner snapshotName)).map Charge.size).sum =
      (items.map itemBytes).sum := by
  induction items with
  | nil => rfl
  | cons item items ih =>
    rw [List.flatMap_cons, List.map_append, List.sum_append, ih, sum_itemCharges, List.map_cons,
      List.sum_cons]

variable {c : Charge}

theorem QuotaScan.charge_ok {s s' : QuotaScan} (h : s.charge c = .ok s') :
    s'.globalBytes = s.globalBytes + c.size ∧
      (s'.replacementBytes = s.replacementBytes ∨ c.owned.isSome ∧ c.named = true) := by
  obtain ⟨globalBytes, hbytes, h⟩ := bind_eq_ok.1 h
  obtain ⟨globalFiles, -, h⟩ := bind_eq_ok.1 h
  have hsum := checkedCheckpointAdd_ok hbytes
  cases howned : c.owned with
  | none =>
    simp only [howned, Except.ok.injEq] at h
    subst h
    exact ⟨hsum, .inl rfl⟩
  | some bytes =>
    simp only [howned] at h
    obtain ⟨ownerBytes, -, h⟩ := bind_eq_ok.1 h
    obtain ⟨ownerFiles, -, h⟩ := bind_eq_ok.1 h
    obtain rfl := Except.ok.inj h
    refine ⟨hsum, ?_⟩
    cases hnamed : c.named with
    | true => exact .inr ⟨rfl, rfl⟩
    | false => exact .inl rfl

/-- **A scan that succeeds** adds up the sizes, and takes nothing off unless the owner is charged
with a file of that name. -/
theorem foldlM_charge_ok {charges : List Charge} {s s' : QuotaScan}
    (h : charges.foldlM QuotaScan.charge s = .ok s') :
    s'.globalBytes = s.globalBytes + (charges.map Charge.size).sum ∧
      (s'.replacementBytes = s.replacementBytes ∨
        ∃ c ∈ charges, c.owned.isSome ∧ c.named = true) := by
  induction charges generalizing s with
  | nil =>
    obtain rfl := Except.ok.inj h
    simp
  | cons c charges ih =>
    obtain ⟨next, hfirst, hrest⟩ := bind_eq_ok.1 h
    obtain ⟨hbytes, hreplaced⟩ := QuotaScan.charge_ok hfirst
    obtain ⟨hbytes', hreplaced'⟩ := ih hrest
    refine ⟨?_, ?_⟩
    · rw [hbytes', hbytes, List.map_cons, List.sum_cons]
      omega
    · rcases hreplaced' with hsame | ⟨c', hc', hc⟩
      · rcases hreplaced with hfirst | hc
        · exact .inl (hsame.trans hfirst)
        · exact .inr ⟨c, List.mem_cons_self .., hc⟩
      · exact .inr ⟨c', List.mem_cons_of_mem _ hc', hc⟩

/-- The owner has the name already: its manifest claims it, or its directory has a file of it. -/
def Claims (root : CheckpointRoot) (owner snapshotName : GoString) : Prop :=
  (root.entryAt owner snapshotName).isSome ∨
    ∃ files, root.content.lookup owner = some (.directory files) ∧
      (files.lookup snapshotName).isSome

variable {root : CheckpointRoot} {name owner : GoString} {size : ℤ} {cfg : CheckpointQuotas}

variable {snapshotName : GoString}

theorem claims_of_charge {entries : OwnerManifest}
    (hread : readCheckpointOwnerManifest root owner = .ok entries)
    (hc : c ∈ root.content.entries.flatMap (itemCharges entries owner snapshotName))
    (howned : c.owned.isSome) (hnamed : c.named = true) : Claims root owner snapshotName := by
  obtain ⟨⟨key, item⟩, hitem, hc⟩ := List.mem_flatMap.1 hc
  have hl : root.content.lookup key = some item := AList.mem_lookup_iff.2 hitem
  cases item with
  | file size =>
    simp only [itemCharges] at hc
    split_ifs at hc
    · obtain rfl := List.mem_singleton.1 hc
      obtain rfl : key = snapshotName := by simpa using hnamed
      rw [Option.isSome_map, (readCheckpointOwnerManifest_ok hread).1] at howned
      left
      cases he : root.entryAt owner key with
      | none => simp [he, Option.filter] at howned
      | some e => rfl
    · cases hc
  | directory files =>
    obtain ⟨file, hfile, rfl⟩ := List.mem_map.1 hc
    obtain rfl : file.1 = snapshotName := by simpa using hnamed
    have hkey : key = owner := by
      by_contra hne
      rw [if_neg hne] at howned
      cases howned
    have hmem : files.lookup file.1 = some file.2 :=
      AList.mem_lookup_iff.2 (List.mem_of_mem_filter hfile)
    exact .inr ⟨files, hkey ▸ hl, by rw [hmem]; rfl⟩

/-- **What a check allows**: the total is within the maximum, unless the owner has the name
already. -/
theorem snapshotBytes_le_of_allowed {regular : Bool}
    (h : checkpointQuotaAllowed cfg root owner snapshotName 0 regular = .ok ())
    (hclaims : ¬Claims root owner snapshotName) : snapshotBytes root.content ≤ cfg.maxBytes := by
  unfold checkpointQuotaAllowed at h
  split_ifs at h
  obtain ⟨entries, hread, h⟩ := bind_eq_ok.1 h
  obtain ⟨scan, hscan, h⟩ := bind_eq_ok.1 h
  unfold scanRoot at hscan
  split_ifs at hscan
  obtain ⟨hbytes, hreplaced⟩ := foldlM_charge_ok hscan
  have hzero : scan.replacementBytes = 0 := by
    rcases hreplaced with hzero | ⟨c, hc, howned, hnamed⟩
    · exact hzero
    · exact absurd (claims_of_charge hread hc howned hnamed) hclaims
  obtain ⟨newBytes, hnew, h⟩ := bind_eq_ok.1 h
  obtain ⟨files, -, h⟩ := bind_eq_ok.1 h
  split_ifs at h with hexceeded
  have hle : newBytes ≤ cfg.maxBytes := by
    simp only [Bool.or_eq_true, decide_eq_true_eq, not_or, not_lt] at hexceeded
    exact hexceeded.1
  have hsum : scan.globalBytes = snapshotBytes root.content := by
    rw [hbytes, sum_charges]
    simp [snapshotBytes]
  rw [checkedCheckpointReplacement_ok hnew, hzero, hsum] at hle
  omega

/-! ## Saves -/

/-- The answers to a save: whether the files are regular at the two scans, the sizes that the
runtime wrote and reports or its error, the clock, and how the manifest and the removal of a file
that is not kept fare. -/
structure SaveAnswers where
  regularBefore : Bool := true
  saved : Except GoString (ℤ × ℤ)
  regularAfter : Bool := true
  now : GoTime := {}
  write : WriteAnswer := .done
  writeError : GoString := []
  removal : ArtifactAnswer := {}

/-- The save of a snapshot by an operation. -/
structure SaveCall where
  (owner snapshotName operationID : GoString)
  answers : SaveAnswers

def recordOwnedCheckpoint (root : CheckpointRoot) (c : SaveCall) (size : ℤ) :
    CheckpointRoot × Except GoString Unit :=
  if !recordable c.snapshotName c.operationID size then
    (root, .error "checkpoint ownership entry is invalid")
  else
    match readCheckpointOwnerManifest root c.owner with
    | .error e => (root, .error e.text)
    | .ok entries =>
      match recordEntry entries c.owner c.snapshotName c.operationID size c.answers.now with
      | .error e => (root, .error e.text)
      | .ok recorded =>
        let kept := root.deleteTerminalized c.owner c.snapshotName c.operationID
        (writeCheckpointOwnerManifest kept c.owner recorded c.answers.write,
          if c.answers.write = .done then .ok () else .error c.answers.writeError)

/-- The root without the file of a save that was not kept; a file that was there before stays. -/
def withoutFresh (root saved : CheckpointRoot) (c : SaveCall) : CheckpointRoot :=
  if root.hasFile c.snapshotName then saved
  else (removeArtifacts saved c.snapshotName c.answers.removal).1

/-- The root after the runtime wrote the file. -/
def withFile (root : CheckpointRoot) (name : GoString) (size : ℤ) : CheckpointRoot :=
  { root with content := root.content.insert name (.file size) }

/-- The save of a snapshot that the runtime wrote: the second check, and the reference. -/
def keepSaved (cfg : CheckpointQuotas) (root : CheckpointRoot) (c : SaveCall) (size sizeBytes : ℤ) :
    CheckpointRoot × Except GoString ℤ :=
  let saved := withFile root c.snapshotName size
  if sizeBytes ≤ 0 ||
      (cfg.maxMetadataBytes + cfg.maxOutputBytes + cfg.maxBytes).bmod (2 ^ 64) < sizeBytes then
    (saved, .error "checkpoint snapshot exceeds configured size bounds")
  else
    match checkpointQuotaAllowed cfg saved c.owner c.snapshotName 0 c.answers.regularAfter with
    | .error e => (withoutFresh root saved c, .error e.text)
    | .ok () =>
      let recorded := recordOwnedCheckpoint saved c sizeBytes
      match recorded.2 with
      | .error e => (withoutFresh root recorded.1 c,
          .error ("checkpoint ownership manifest could not be committed: " ++ e))
      | .ok () => (recorded.1, .ok sizeBytes)

/-- The branch of `executeCheckpoint` for a save: the root after it, and the size it reports. -/
def saveCheckpoint (cfg : CheckpointQuotas) (root : CheckpointRoot) (c : SaveCall) :
    CheckpointRoot × Except GoString ℤ :=
  match checkpointQuotaAllowed cfg root c.owner c.snapshotName 0 c.answers.regularBefore with
  | .error e => (root, .error e.text)
  | .ok () =>
    match c.answers.saved with
    | .error e => (root, .error e)
    | .ok (size, sizeBytes) => keepSaved cfg root c size sizeBytes

def recordedBytes (entries : OwnerManifest) : ℤ := (entries.entries.map fun e => e.2.bytes).sum

theorem recordedBytes_mapValues {f : ManifestEntry → ManifestEntry} (h : ∀ e, (f e).bytes = e.bytes)
    (entries : OwnerManifest) : recordedBytes (mapValues f entries) = recordedBytes entries := by
  simp only [recordedBytes, mapValues, List.map_map, Function.comp_def, h]

theorem recordedBytes_insert (entries : OwnerManifest) (name : GoString) (e : ManifestEntry) :
    recordedBytes (entries.insert name e) = e.bytes + recordedBytes (entries.erase name) := by
  simp [recordedBytes, AList.insert, List.kinsert, AList.erase]

theorem recordEntry_ok {entries recorded : OwnerManifest} {op : GoString} {now : GoTime}
    (h : recordEntry entries owner name op size now = .ok recorded) :
    ∃ e, e.bytes = size ∧ recorded = entries.insert name e := by
  unfold recordEntry at h
  cases he : recordedEntry ((entries.lookup name).getD {}) owner name op size now with
  | error err => simp [he, Except.map] at h
  | ok e =>
    simp only [he, Except.map, Except.ok.injEq] at h
    refine ⟨e, ?_, h.symm⟩
    simp only [recordedEntry] at he
    split_ifs at he <;> rw [← Except.ok.inj he]

variable {c : SaveCall}

/-- **A recorded reference**: the files stay, and the owner's manifest has the size for the
snapshot. -/
theorem recordOwnedCheckpoint_ok (h : (recordOwnedCheckpoint root c size).2 = .ok ()) :
    recordable c.snapshotName c.operationID size = true ∧
      (recordOwnedCheckpoint root c size).1.content = root.content ∧
      recordedBytes ((recordOwnedCheckpoint root c size).1.entriesOf c.owner) =
        size + recordedBytes ((root.entriesOf c.owner).erase c.snapshotName) := by
  revert h
  fun_cases recordOwnedCheckpoint root c size with
  | case1 | case2 | case3 => exact nofun
  | case4 hr entries hread recorded he kept =>
    intro h
    have hdone : c.answers.write = .done := by
      by_contra hne
      rw [if_neg hne] at h
      cases h
    obtain ⟨e, hbytes, rfl⟩ := recordEntry_ok he
    obtain ⟨rfl, -⟩ := readCheckpointOwnerManifest_eq hread
    refine ⟨by simpa using hr, ?_, ?_⟩
    · simp [writeCheckpointOwnerManifest, hdone, kept, CheckpointRoot.deleteTerminalized]
    · rw [entriesOf_write, if_neg (by simp [hdone]),
        recordedBytes_mapValues ManifestEntry.omitEmpty_bytes, recordedBytes_insert, hbytes,
        ← mapValues_erase, recordedBytes_mapValues ManifestEntry.normalize_bytes]

theorem isSnapshotFile_of_valid (h : validCheckpointSnapshotName name = true) :
    isSnapshotFile name = true := by
  unfold validCheckpointSnapshotName at h
  cases name with
  | nil => cases h
  | cons b rest =>
    simp only [Bool.and_eq_true] at h
    have hsuffix : ofString ".kv" <:+ rest := List.isSuffixOf_iff_suffix.1 h.1.1.1.2
    exact List.isSuffixOf_iff_suffix.2 (hsuffix.trans (List.suffix_cons b rest))

theorem claims_of_withFile (h : Claims (withFile root name size) owner name) :
    Claims root owner name := by
  rcases h with hentry | ⟨files, hl, hfile⟩
  · exact .inl hentry
  · refine .inr ⟨files, ?_, hfile⟩
    rw [withFile, lookup_insert_of] at hl
    split_ifs at hl
    · cases hl
    · exact hl

/-- **A save that succeeds**: the file and its record are new, and the second check allowed the root
with the file. -/
theorem saveCheckpoint_ok {sizeBytes : ℤ} (h : (saveCheckpoint cfg root c).2 = .ok sizeBytes) :
    ∃ size, c.answers.saved = .ok (size, sizeBytes) ∧
      snapshotBytes (saveCheckpoint cfg root c).1.content =
        size + snapshotBytes (root.content.erase c.snapshotName) ∧
      recordedBytes ((saveCheckpoint cfg root c).1.entriesOf c.owner) =
        sizeBytes + recordedBytes ((root.entriesOf c.owner).erase c.snapshotName) ∧
      (¬Claims root c.owner c.snapshotName →
        snapshotBytes (saveCheckpoint cfg root c).1.content ≤ cfg.maxBytes) := by
  revert h
  fun_cases saveCheckpoint cfg root c with
  | case1 | case2 => exact nofun
  | case3 _ size reported hsaved =>
    fun_cases keepSaved cfg root c size reported with
    | case1 | case2 | case3 => exact nofun
    | case4 saved _ hsecond _ hrecord =>
      rintro ⟨⟩
      obtain ⟨hrecordable, hcontent, hbytes⟩ := recordOwnedCheckpoint_ok hrecord
      have hvalid : validCheckpointSnapshotName c.snapshotName = true := by
        simp only [recordable, Bool.and_eq_true] at hrecordable
        exact hrecordable.1.1.2
      refine ⟨size, hsaved, ?_, hbytes, fun hclaims => ?_⟩
      · rw [hcontent]
        simp [saved, withFile, snapshotBytes, AList.insert, List.kinsert, AList.erase, itemBytes,
          isSnapshotFile_of_valid hvalid]
      · rw [hcontent]
        exact snapshotBytes_le_of_allowed hsecond fun h => hclaims (claims_of_withFile h)

/-- **When a successful save is within the quotas**: of the root, if the file fits beside the others
or the owner did not have the name; of the owner, if the reported size fits beside what is recorded
for its other snapshots. -/
theorem saved_within_quota_iff {cfg : CheckpointQuotas} {root : CheckpointRoot} {c : SaveCall}
    {size sizeBytes : ℤ} (hsaved : c.answers.saved = .ok (size, sizeBytes))
    (h : (saveCheckpoint cfg root c).2 = .ok sizeBytes) :
    (snapshotBytes (saveCheckpoint cfg root c).1.content ≤ cfg.maxBytes ∧
        recordedBytes ((saveCheckpoint cfg root c).1.entriesOf c.owner) ≤ cfg.perOwnerMaxBytes) ↔
      (Claims root c.owner c.snapshotName →
        size + snapshotBytes (root.content.erase c.snapshotName) ≤ cfg.maxBytes) ∧
      sizeBytes + recordedBytes ((root.entriesOf c.owner).erase c.snapshotName) ≤
        cfg.perOwnerMaxBytes := by
  obtain ⟨size', hsaved', htotal, hrecorded, hnew⟩ := saveCheckpoint_ok h
  obtain rfl : size = size' := by
    have hpair := Except.ok.inj (hsaved.symm.trans hsaved')
    exact congrArg Prod.fst hpair
  rw [← hrecorded, ← htotal]
  refine and_congr_left fun _ => ⟨fun hle _ => hle, fun hle => ?_⟩
  by_cases hclaims : Claims root c.owner c.snapshotName
  · exact hle hclaims
  · exact hnew hclaims

def smallQuotas : CheckpointQuotas :=
  { maxBytes := 1000, maxFiles := 10, perOwnerMaxBytes := 500, perOwnerMaxFiles := 5
    maxMetadataBytes := 4096, maxOutputBytes := 4096 }

def saveOf (size : ℤ) : SaveCall :=
  { owner := "owner", snapshotName := "s.kv", operationID := "op"
    answers := { saved := .ok (size, size) } }

/-- A save of 400 bytes beside another snapshot is within the quotas. -/
theorem small_save_within :
    let root := (saveCheckpoint smallQuotas {} { saveOf 100 with snapshotName := "t.kv" }).1
    snapshotBytes root.content = 100 ∧ (saveCheckpoint smallQuotas root (saveOf 400)).2 = .ok 400 ∧
      snapshotBytes (saveCheckpoint smallQuotas root (saveOf 400)).1.content ≤ 1000 ∧
      recordedBytes ((saveCheckpoint smallQuotas root (saveOf 400)).1.entriesOf "owner") ≤ 500 := by
  intro root
  have h : (saveCheckpoint smallQuotas root (saveOf 400)).2 = .ok 400 := by decide +kernel
  refine ⟨by decide +kernel, h, (saved_within_quota_iff rfl h).2 ⟨?_, by decide +kernel⟩⟩
  exact fun _ => by decide +kernel

/-- **A successful save can exceed both quotas**: 800 bytes for an owner that may have 500, and 1300
bytes over 400 in a root that may have 1000. -/
theorem save_exceeds_quotas : ((saveCheckpoint smallQuotas {} (saveOf 800)).2 = .ok 800 ∧
      recordedBytes ((saveCheckpoint smallQuotas {} (saveOf 800)).1.entriesOf "owner") = 800) ∧
    ∃ root, root = (saveCheckpoint smallQuotas {} (saveOf 400)).1 ∧
      (saveCheckpoint smallQuotas root (saveOf 1300)).2 = .ok 1300 ∧
      snapshotBytes (saveCheckpoint smallQuotas root (saveOf 1300)).1.content = 1300 := by
  refine ⟨⟨by decide +kernel, by decide +kernel⟩, _, rfl, by decide +kernel, by decide +kernel⟩

end VramGovernor.NodeAgent
