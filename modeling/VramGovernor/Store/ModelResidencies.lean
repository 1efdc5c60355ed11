import VramGovernor.Foundations.GoError
import VramGovernor.Foundations.GoMap
import VramGovernor.Foundations.Run

/-!
# Model residencies

The store has one row for each target and model. Three calls write it: an upsert, a creation, which
leaves a stored row alone, and a swap. All three refuse a row of an older generation of the target,
and one of the same generation with another execution fingerprint. So the generation of a row never
falls and has one fingerprint (`SameOrNewer`). Its revision rises with each write except at the
largest word, where it starts again from zero (`residency_rows_advance`).
-/

namespace VramGovernor.Store

open GoString GoMap

/-- A residency, as far as the store reads it. -/
structure ModelResidency where
  (targetID model : GoString)
  (revision targetGeneration : UInt64 := 0)
  executionFingerprint : GoString := []
  deriving DecidableEq

def errModelResidencyConflict : GoError := .sentinel "store: model residency revision conflict"

def errModelResidencyGenerationConflict : GoError :=
  .sentinel "store: model residency target generation conflict"

/-- The error of an incompatible row. `%q` only adds the quotes: the fingerprints that the manager
computes are hexadecimal. Other texts, which it would escape, have another error text here. -/
def generationConflict (existing incoming : ModelResidency) : GoError where
  text := errModelResidencyGenerationConflict.text ++ " existing_generation=" ++
    sprint existing.targetGeneration.toNat ++ " incoming_generation=" ++
    sprint incoming.targetGeneration.toNat ++ " existing_fingerprint=\"" ++
    existing.executionFingerprint ++ "\" incoming_fingerprint=\"" ++
    incoming.executionFingerprint ++ "\""
  wraps := errModelResidencyGenerationConflict.wraps

def residencyKey (targetID model : GoString) : GoString := targetID ++ 0 :: model

def residencyGenerationCompatible (existing incoming : ModelResidency) : Bool :=
  if incoming.targetGeneration < existing.targetGeneration then false
  else if incoming.targetGeneration = existing.targetGeneration then
    existing.executionFingerprint ≠ [] && incoming.executionFingerprint ≠ [] &&
      existing.executionFingerprint = incoming.executionFingerprint
  else incoming.executionFingerprint ≠ []

/-! ## Calls -/

def upsertModelResidency (m : GoMap ModelResidency) (r : ModelResidency) :
    GoMap ModelResidency × Except GoError ModelResidency :=
  let key := residencyKey r.targetID r.model
  match m.lookup key with
  | some existing =>
    if !residencyGenerationCompatible existing r then (m, .error (generationConflict existing r))
    else
      let stored := if r.revision ≤ existing.revision then
        { r with revision := existing.revision + 1 } else r
      (m.insert key stored, .ok stored)
  | none =>
    let stored := if r.revision = 0 then { r with revision := 1 } else r
    (m.insert key stored, .ok stored)

/-- The reply tells whether the row is new. -/
def createModelResidency (m : GoMap ModelResidency) (r : ModelResidency) :
    GoMap ModelResidency × Except GoError (ModelResidency × Bool) :=
  let key := residencyKey r.targetID r.model
  match m.lookup key with
  | some existing =>
    if !residencyGenerationCompatible existing r then (m, .error (generationConflict existing r))
    else (m, .ok (existing, false))
  | none =>
    let created := if r.revision = 0 then { r with revision := 1 } else r
    (m.insert key created, .ok (created, true))

/-- The context may have ended with an error. -/
def compareAndSwapModelResidency (m : GoMap ModelResidency) (r : ModelResidency)
    (expectedRevision : UInt64) (ctxErr : Option GoError) :
    GoMap ModelResidency × Except GoError ModelResidency :=
  match ctxErr with
  | some e => (m, .error e)
  | none =>
    let key := residencyKey r.targetID r.model
    match m.lookup key with
    | none => (m, .error errModelResidencyConflict)
    | some current =>
      if current.revision ≠ expectedRevision then (m, .error errModelResidencyConflict)
      else if !residencyGenerationCompatible current r then
        (m, .error (generationConflict current r))
      else
        let updated := { r with revision := expectedRevision + 1 }
        (m.insert key updated, .ok updated)

inductive ResidencyCall
  | upsert (r : ModelResidency)
  | create (r : ModelResidency)
  | swap (r : ModelResidency) (expectedRevision : UInt64) (ctxErr : Option GoError)

open ResidencyCall

namespace ResidencyCall

def row : ResidencyCall → ModelResidency
  | upsert r => r
  | create r => r
  | swap r _ _ => r

def key (c : ResidencyCall) : GoString := residencyKey c.row.targetID c.row.model

/-- The reply of a call that was accepted tells whether it has written a row. -/
def run (m : GoMap ModelResidency) :
    ResidencyCall → GoMap ModelResidency × Except GoError (ModelResidency × Bool)
  | upsert r => (upsertModelResidency m r).map id (·.map (·, true))
  | create r => createModelResidency m r
  | swap r expected ctxErr =>
    (compareAndSwapModelResidency m r expected ctxErr).map id (·.map (·, true))

def writes (m : GoMap ModelResidency) (c : ResidencyCall) (key : GoString) : Bool :=
  match (c.run m).2 with
  | .ok (_, true) => c.key = key
  | _ => false

end ResidencyCall

/-- A step is a call, which holds the mutex of the store. -/
def ResidencyStep (m : GoMap ModelResidency) (c : ResidencyCall) (m' : GoMap ModelResidency) :
    Prop := m' = (c.run m).1

/-! ## What a call can do -/

/-- The row is of the same generation and fingerprint, or of a newer generation. -/
structure SameOrNewer (old new : ModelResidency) : Prop where
  generation : old.targetGeneration ≤ new.targetGeneration
  fingerprint : old.targetGeneration = new.targetGeneration →
    old.executionFingerprint = new.executionFingerprint

open SameOrNewer

theorem SameOrNewer.refl (r : ModelResidency) : SameOrNewer r r := ⟨UInt64.le_refl _, fun _ => rfl⟩

/-- A generation that is the same at both ends was the same between them. -/
theorem SameOrNewer.trans {r₁ r₂ r₃ : ModelResidency} (h : SameOrNewer r₁ r₂)
    (h' : SameOrNewer r₂ r₃) : SameOrNewer r₁ r₃ := by
  refine ⟨UInt64.le_trans h.generation h'.generation, fun heq => ?_⟩
  have hmid : r₁.targetGeneration = r₂.targetGeneration := by
    apply UInt64.le_antisymm h.generation
    rw [heq]
    exact h'.generation
  exact (h.fingerprint hmid).trans (h'.fingerprint (hmid.symm.trans heq))

theorem sameOrNewer_of_compatible {old new : ModelResidency}
    (h : residencyGenerationCompatible old new = true) : SameOrNewer old new := by
  unfold residencyGenerationCompatible at h
  split_ifs at h with hlt heq
  · simp only [Bool.and_eq_true, decide_eq_true_eq] at h
    exact ⟨heq ▸ UInt64.le_refl _, fun _ => h.2⟩
  · exact ⟨UInt64.not_lt.1 hlt, fun he => absurd he.symm heq⟩

/-- The next revision, or a later one that the caller has chosen. -/
def NextRevision (old new : UInt64) : Prop := new = old + 1 ∨ old < new

/-- **Revisions rise up to the largest word**, which is followed by zero. -/
theorem NextRevision.lt_iff {old new : UInt64} (h : NextRevision old new) :
    old < new ↔ old ≠ UInt64.ofNat (2 ^ 64 - 1) := by
  have hmax : (UInt64.ofNat (2 ^ 64 - 1)).toNat = 2 ^ 64 - 1 := rfl
  have hold := UInt64.toNat_lt old
  have hnew := UInt64.toNat_lt new
  rw [ne_eq, ← UInt64.toNat_inj, hmax, UInt64.lt_iff_toNat_lt]
  rcases h with rfl | hlt
  · rw [UInt64.toNat_add]
    have hone : (1 : UInt64).toNat = 1 := rfl
    omega
  · rw [UInt64.lt_iff_toNat_lt] at hlt
    omega

/-- What a call can do to the rows, and its reply. -/
inductive ResidencyChange (m : GoMap ModelResidency) (c : ResidencyCall) :
    GoMap ModelResidency × Except GoError (ModelResidency × Bool) → Prop
  | refused (e : GoError) : ResidencyChange m c (m, .error e)
  /-- A creation finds a row. -/
  | found (row : ModelResidency) : ResidencyChange m c (m, .ok (row, false))
  | created (new : ModelResidency) (hl : m.lookup c.key = none) :
      ResidencyChange m c (m.insert c.key new, .ok (new, true))
  | replaced (old new : ModelResidency) (hl : m.lookup c.key = some old)
      (hrow : SameOrNewer old new) (hrevision : NextRevision old.revision new.revision) :
      ResidencyChange m c (m.insert c.key new, .ok (new, true))

theorem ResidencyCall.change (m : GoMap ModelResidency) (c : ResidencyCall) :
    ResidencyChange m c (c.run m) := by
  cases c with
  | upsert r =>
    simp only [run]
    fun_cases upsertModelResidency m r with
    | case1 => exact .refused _
    | case2 key existing hl hc stored =>
      have hrow := sameOrNewer_of_compatible (by simpa using hc)
      by_cases hle : r.revision ≤ existing.revision
      · simp only [stored, if_pos hle]
        exact .replaced existing _ hl ⟨hrow.generation, hrow.fingerprint⟩ (.inl rfl)
      · simp only [stored, if_neg hle]
        exact .replaced existing r hl hrow (.inr (UInt64.not_le.1 hle))
    | case3 key hl stored => exact .created stored hl
  | create r =>
    simp only [run]
    fun_cases createModelResidency m r with
    | case1 => exact .refused _
    | case2 key existing => exact .found existing
    | case3 key hl created => exact .created created hl
  | swap r expected ctxErr =>
    simp only [run]
    fun_cases compareAndSwapModelResidency m r expected ctxErr with
    | case1 | case2 | case3 | case4 => exact .refused _
    | case5 key current hl hrev hc updated =>
      have hrow := sameOrNewer_of_compatible (by simpa using hc)
      exact .replaced current updated hl ⟨hrow.generation, hrow.fingerprint⟩
        (.inl (by rw [not_not.1 hrev]))

/-! ## Rows over a run -/

section Steps

variable {m m' : GoMap ModelResidency} {c : ResidencyCall}

theorem ResidencyStep.advances (h : ResidencyStep m c m') (key : GoString) :
    Advances SameOrNewer key m m' := by
  have hchange := c.change m
  rw [h]
  generalize c.run m = answer at hchange
  cases hchange with
  | refused | found => exact advances_refl refl key m
  | created new hl => exact advances_insert_new refl hl new
  | replaced old new hl hrow => exact advances_insert refl hl hrow

theorem ResidencyStep.revision (h : ResidencyStep m c m') {key : GoString} {old : ModelResidency}
    (hl : m.lookup key = some old) (hw : c.writes m key = true) :
    ∃ new, m'.lookup key = some new ∧ NextRevision old.revision new.revision := by
  have hchange := c.change m
  unfold writes at hw
  rw [h]
  generalize c.run m = answer at hchange hw
  cases hchange with
  | refused | found => cases hw
  | created new hfree =>
    obtain rfl : c.key = key := by simpa using hw
    rw [hfree] at hl
    cases hl
  | replaced old' new hl' hrow hrevision =>
    obtain rfl : c.key = key := by simpa using hw
    obtain rfl := Option.mem_unique hl hl'
    exact ⟨new, AList.lookup_insert _, hrevision⟩

end Steps

/-- **Residency rows advance.** The generation never falls, the fingerprint stays while the
generation does, and a write raises the revision exactly if that is not the largest word. -/
theorem residency_rows_advance {m₀ m : GoMap ModelResidency}
    {tr : List (Transition (GoMap ModelResidency) ResidencyCall)} (h : Run ResidencyStep m₀ tr m) :
    (∀ key, Advances SameOrNewer key m₀ m) ∧
      ∀ t ∈ tr, ∀ key old, t.pre.lookup key = some old → t.label.writes t.pre key = true →
        ∃ new, t.post.lookup key = some new ∧
          (old.revision < new.revision ↔ old.revision ≠ UInt64.ofNat (2 ^ 64 - 1)) := by
  refine ⟨fun key => ?_, fun t ht key old hl hw => ?_⟩
  · exact h.rel (fun m => advances_refl refl key m)
      (Advances.trans trans) fun _ _ _ hs => hs.advances key
  · obtain ⟨-, -, -, -, hs, -⟩ := h.split_mem ht
    obtain ⟨new, hl', hnext⟩ := hs.revision hl hw
    exact ⟨new, hl', hnext.lt_iff⟩

/-- Three writes of one row: its caller names a revision, then the row is written twice more. -/
def writeThrice (revision : UInt64) : List (GoMap ModelResidency → ResidencyCall) :=
  [fun _ => .upsert ⟨"t", "m", revision, 1, "f"⟩, fun _ => .upsert ⟨"t", "m", 0, 1, "f"⟩,
   fun m => .swap ⟨"t", "m", 0, 2, "g"⟩
     ((m.lookup (residencyKey "t" "m")).elim 0 (·.revision)) none]

theorem writeThrice_run (revision : UInt64) :
    Run ResidencyStep ∅ (Run.script (fun m c => (run m c).1) ∅ (writeThrice revision))
      (Run.afterScript (fun m c => (run m c).1) ∅ (writeThrice revision)) :=
  Run.of_script _ (fun _ _ _ => rfl) _

/-- The row has the revisions 5, 6 and 7, and its fingerprint changes with the generation. -/
theorem revisions_from_five :
    (Run.script (fun m c => (ResidencyCall.run m c).1) ∅ (writeThrice 5)).map
        (fun t => t.post.lookup (residencyKey "t" "m")) =
      [some ⟨"t", "m", 5, 1, "f"⟩, some ⟨"t", "m", 6, 1, "f"⟩, some ⟨"t", "m", 7, 2, "g"⟩] ∧
    ∀ key, Advances SameOrNewer key ∅
      (Run.afterScript (fun m c => (ResidencyCall.run m c).1) ∅ (writeThrice 5)) :=
  ⟨by decide +kernel, (residency_rows_advance (writeThrice_run 5)).1⟩

/-- After the largest word, which a caller may name, the row has the revision zero. -/
theorem revision_starts_again : (Run.script (fun m c => (ResidencyCall.run m c).1) ∅
        (writeThrice (UInt64.ofNat (2 ^ 64 - 1)))).map
        (fun t => (t.post.lookup (residencyKey "t" "m")).map (·.revision)) =
      [some (UInt64.ofNat (2 ^ 64 - 1)), some 0, some 1] ∧
    ∃ tr m, Run ResidencyStep ∅ tr m ∧ ∃ t ∈ tr, ∃ old new,
      t.pre.lookup (residencyKey "t" "m") = some old ∧
      t.label.writes t.pre (residencyKey "t" "m") = true ∧
      t.post.lookup (residencyKey "t" "m") = some new ∧ ¬ old.revision < new.revision := by
  refine ⟨by decide +kernel, _, _, writeThrice_run (UInt64.ofNat (2 ^ 64 - 1)), ?_⟩
  refine ⟨_, List.mem_cons_of_mem _ List.mem_cons_self, ⟨"t", "m", _, 1, "f"⟩,
    ⟨"t", "m", 0, 1, "f"⟩, rfl, ?_, ?_, ?_⟩ <;> decide +kernel

end VramGovernor.Store
