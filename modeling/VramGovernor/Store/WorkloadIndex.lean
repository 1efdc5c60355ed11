import VramGovernor.Foundations.LengthPrefix
import VramGovernor.Foundations.Run
import VramGovernor.Store.Memory

/-!
# The idempotency index of workloads

A create with an idempotency key is answered from the index of owner and key, if it has an entry.
Otherwise the entry is made first, and the row is inserted after it, unless the id of the request is
taken; then the create returns the row that has the id, and the entry stays. So the index can point
to a row of another owner. The entries are right as long as a create that makes an entry also makes
its row (`index_sound_iff`). An owner and a key are joined with a zero byte, so owners must not
contain one.
-/

namespace VramGovernor.Store

open GoString GoMap

/-- The memory store with its idempotency index. -/
structure IndexedStore extends MemoryStore where
  idempotency : GoMap GoString := ∅

variable (m : IndexedStore)

/-- The second part of a create: the row, unless its id is taken. -/
def insertWorkload (w : Workload) : IndexedStore × Option Workload × Bool :=
  match m.workloads.lookup w.requestID with
  | some existing => (m, some existing, false)
  | none => ({ m with workloads := m.workloads.insert w.requestID w }, some w, true)

def createWorkload (w : Workload) : IndexedStore × Option Workload × Bool :=
  let w := { w with revision := 1 }
  if w.requestIdempotencyKey ≠ [] then
    let key := idempotencyIndex w.requestOwnerID w.requestIdempotencyKey
    match m.idempotency.lookup key with
    | some id => (m, m.workloads.lookup id, false)
    | none => insertWorkload { m with idempotency := m.idempotency.insert key w.requestID } w
  else insertWorkload m w

def CreateStep (w : Workload) (m' : IndexedStore) : Prop := m' = (createWorkload m w).1

/-- The entry that a create looks for. -/
def entryOf (w : Workload) : Option GoString :=
  m.idempotency.lookup (idempotencyIndex w.requestOwnerID w.requestIdempotencyKey)

/-- What the index says of an owner and a key is true. -/
def IndexSound : Prop :=
  ∀ owner key id, 0 ∉ owner → m.idempotency.lookup (idempotencyIndex owner key) = some id →
    ∃ w, m.workloads.lookup id = some w ∧ w.requestOwnerID = owner ∧ w.requestIdempotencyKey = key

/-- A create with a key returns a workload of its owner and key. -/
def AnswersOwn (t : Transition IndexedStore Workload) : Prop :=
  t.label.requestIdempotencyKey ≠ [] → ∃ w, (createWorkload t.pre t.label).2.1 = some w ∧
    w.requestOwnerID = t.label.requestOwnerID ∧
    w.requestIdempotencyKey = t.label.requestIdempotencyKey

/-- A create that makes an entry finds its id free. -/
def MakesRow (t : Transition IndexedStore Workload) : Prop :=
  t.label.requestIdempotencyKey ≠ [] → entryOf t.pre t.label = none →
    t.pre.workloads.lookup t.label.requestID = none

instance : DecidablePred MakesRow := fun _ => inferInstanceAs (Decidable (_ → _ → _))

/-! ## What a create can do -/

section Cases

variable {m m' : IndexedStore} {w : Workload}

/-- How a create ends. -/
inductive Creation (m : IndexedStore) (w : Workload) : IndexedStore × Option Workload × Bool → Prop
  /-- It is answered from the index. -/
  | answered (id : GoString) (hkey : w.requestIdempotencyKey ≠ []) (he : entryOf m w = some id) :
      Creation m w (m, m.workloads.lookup id, false)
  /-- Its id is taken; an entry is made if it has a key. -/
  | taken (existing : Workload) (he : w.requestIdempotencyKey ≠ [] → entryOf m w = none)
      (hl : m.workloads.lookup w.requestID = some existing) :
      Creation m w
        ({ m with
            idempotency :=
              if w.requestIdempotencyKey = [] then m.idempotency
              else m.idempotency.insert
                (idempotencyIndex w.requestOwnerID w.requestIdempotencyKey) w.requestID },
          some existing, false)
  /-- The row is made, with its entry if it has a key. -/
  | made (he : w.requestIdempotencyKey ≠ [] → entryOf m w = none)
      (hl : m.workloads.lookup w.requestID = none) :
      Creation m w
        ({ m with
            idempotency :=
              if w.requestIdempotencyKey = [] then m.idempotency
              else m.idempotency.insert
                (idempotencyIndex w.requestOwnerID w.requestIdempotencyKey) w.requestID
            workloads := m.workloads.insert w.requestID { w with revision := 1 } },
          some { w with revision := 1 }, true)

theorem createWorkload_creation (m : IndexedStore) (w : Workload) :
    Creation m w (createWorkload m w) := by
  have hinsert (he : w.requestIdempotencyKey ≠ [] → entryOf m w = none) :
      Creation m w (insertWorkload
        { m with
          idempotency :=
            if w.requestIdempotencyKey = [] then m.idempotency
            else m.idempotency.insert
              (idempotencyIndex w.requestOwnerID w.requestIdempotencyKey) w.requestID }
        { w with revision := 1 }) := by
    unfold insertWorkload
    split
    · next existing hl => exact .taken existing he hl
    · next hl => exact .made he hl
  fun_cases createWorkload m w with
  | case1 _ hkey _ id he => exact .answered id hkey he
  | case2 _ hkey _ he =>
    rw [if_neg hkey] at hinsert
    exact hinsert fun _ => he
  | case3 _ hkey =>
    rw [if_pos (not_not.1 hkey)] at hinsert
    exact hinsert fun h => absurd h hkey

end Cases

/-! ## The table and its index -/

def Indexed (m : IndexedStore) : Prop :=
  ∀ id w, m.workloads.lookup id = some w → w.requestIdempotencyKey ≠ [] → (entryOf m w).isSome

/-- Every entry is the one of the row it points to, and the owner of the row has no zero byte. -/
def EntriesOwned (m : IndexedStore) : Prop :=
  ∀ k id, m.idempotency.lookup k = some id →
    ∃ w, m.workloads.lookup id = some w ∧ 0 ∉ w.requestOwnerID ∧
      k = idempotencyIndex w.requestOwnerID w.requestIdempotencyKey

/-- An owner without a zero byte and a key are determined by the key of their entry. -/
theorem idempotencyIndex_injective {owner owner' key key' : GoString} (ho : 0 ∉ owner)
    (ho' : 0 ∉ owner') (h : idempotencyIndex owner key = idempotencyIndex owner' key') :
    owner = owner' ∧ key = key' := by
  have hsep : ∀ o k : GoString, idempotencyIndex o k = o ++ 0 :: k := by
    intro o k
    unfold idempotencyIndex
    rw [List.append_assoc]
    rfl
  rw [hsep, hsep] at h
  exact eq_of_append_separator ho ho' h

section Steps

variable {m : IndexedStore} {w : Workload}

theorem entryOf_isSome_createWorkload (v : Workload) (h : (entryOf m v).isSome) :
    (entryOf (createWorkload m w).1 v).isSome := by
  have hins : ∀ k id, (entryOf { m with idempotency := m.idempotency.insert k id } v).isSome := by
    intro k id
    unfold entryOf at h ⊢
    rw [lookup_insert_of]
    split_ifs with hk
    · rfl
    · exact h
  generalize hr : createWorkload m w = r
  cases hr ▸ createWorkload_creation m w with
  | answered id hkey he => exact h
  | taken existing he hl | made he hl =>
    by_cases hkey : w.requestIdempotencyKey = []
    · simpa [entryOf, hkey] using h
    · simpa [entryOf, hkey] using hins _ w.requestID

theorem createWorkload_indexed (h : Indexed m) : Indexed (createWorkload m w).1 := by
  intro id v hv hkey
  have hold : m.workloads.lookup id = some v → (entryOf (createWorkload m w).1 v).isSome :=
    fun hl => entryOf_isSome_createWorkload v (h id v hl hkey)
  generalize hr : createWorkload m w = r at hv hold ⊢
  cases hr ▸ createWorkload_creation m w with
  | answered id' hkey' he | taken existing he hl => exact hold hv
  | made he hl =>
    rcases of_lookup_insert hv with ⟨rfl, rfl⟩ | ⟨-, hv⟩
    · simp [entryOf, hkey]
    · exact hold hv

/-- A create that does not find its id taken keeps every entry right. -/
theorem createWorkload_entriesOwned (howner : 0 ∉ w.requestOwnerID)
    (hfree : w.requestIdempotencyKey ≠ [] → entryOf m w = none →
      m.workloads.lookup w.requestID = none)
    (h : EntriesOwned m) : EntriesOwned (createWorkload m w).1 := by
  generalize hr : createWorkload m w = r
  cases hr ▸ createWorkload_creation m w with
  | answered id hkey he => exact h
  | taken existing he hl =>
    by_cases hkey : w.requestIdempotencyKey = []
    · simpa [EntriesOwned, hkey] using h
    · rw [hfree hkey (he hkey)] at hl
      exact absurd hl (by simp)
  | made he hl =>
    intro k id hk
    -- the id was free, so no other entry points to the new row
    have hold : m.idempotency.lookup k = some id →
        ∃ v, (m.workloads.insert w.requestID { w with revision := 1 }).lookup id = some v ∧
          0 ∉ v.requestOwnerID ∧ k = idempotencyIndex v.requestOwnerID v.requestIdempotencyKey := by
      intro hk
      obtain ⟨v, hv, hrest⟩ := h k id hk
      refine ⟨v, ?_, hrest⟩
      rw [lookup_insert_of, if_neg]
      · exact hv
      · rintro rfl
        rw [hl] at hv
        cases hv
    by_cases hkey : w.requestIdempotencyKey = []
    · rw [if_pos hkey] at hk
      exact hold hk
    · rw [if_neg hkey] at hk
      rcases of_lookup_insert hk with ⟨hkk, rfl⟩ | ⟨-, hk⟩
      · exact ⟨{ w with revision := 1 }, AList.lookup_insert _, howner, hkk⟩
      · exact hold hk

theorem EntriesOwned.indexSound (h : EntriesOwned m) : IndexSound m := by
  intro owner key id howner hk
  obtain ⟨w, hl, ho, heq⟩ := h _ _ hk
  obtain ⟨ho', hk'⟩ := idempotencyIndex_injective howner ho heq
  exact ⟨w, hl, ho'.symm, hk'.symm⟩

/-- A sound index answers a create with a row of its owner and key. -/
theorem createWorkload_answers (howner : 0 ∉ w.requestOwnerID) (h : IndexSound m)
    (hfree : w.requestIdempotencyKey ≠ [] → entryOf m w = none →
      m.workloads.lookup w.requestID = none)
    (hkey : w.requestIdempotencyKey ≠ []) :
    ∃ v, (createWorkload m w).2.1 = some v ∧ v.requestOwnerID = w.requestOwnerID ∧
      v.requestIdempotencyKey = w.requestIdempotencyKey := by
  generalize hr : createWorkload m w = r
  cases hr ▸ createWorkload_creation m w with
  | answered id _ he => exact h _ _ id howner he
  | taken existing he hl =>
    rw [hfree hkey (he hkey)] at hl
    exact absurd hl (by simp)
  | made he hl => exact ⟨_, rfl, rfl, rfl⟩

/-- An entry made for a row that is there already is wrong: the row would have had it before. -/
theorem makesRow_of_indexSound (howner : 0 ∉ w.requestOwnerID) (hidx : Indexed m)
    (h : IndexSound (createWorkload m w).1) (hkey : w.requestIdempotencyKey ≠ [])
    (he : entryOf m w = none) : m.workloads.lookup w.requestID = none := by
  generalize hr : createWorkload m w = r at h
  cases hr ▸ createWorkload_creation m w with
  | answered id _ he' =>
    rw [he] at he'
    cases he'
  | taken existing _ hl =>
    obtain ⟨v, hv, ho, hk⟩ := h _ _ w.requestID howner (by
      rw [if_neg hkey]
      exact AList.lookup_insert _)
    have hsome := hidx _ v hv (hk ▸ hkey)
    unfold entryOf at hsome he
    rw [ho, hk, he] at hsome
    cases hsome
  | made _ hl => exact hl

end Steps

/-- **The index is right**, over creates by owners without a zero byte, **exactly if every create
that makes an entry finds its id free.** -/
theorem index_sound_iff {tr : List (Transition IndexedStore Workload)} {m : IndexedStore}
    (h : Run CreateStep {} tr m) (howners : ∀ t ∈ tr, 0 ∉ t.label.requestOwnerID) :
    (∀ t ∈ tr, IndexSound t.post ∧ AnswersOwn t) ↔ ∀ t ∈ tr, MakesRow t := by
  constructor
  · intro hs
    refine (h.observe_of (I := Indexed)
      (C := fun t => 0 ∉ t.label.requestOwnerID ∧ IndexSound t.post)
      (fun t ht => ⟨howners t ht, (hs t ht).1⟩) ?_ ?_).2
    · intro id w hl
      exact absurd hl (by simp)
    · rintro m w m' hidx rfl ⟨howner, hsound⟩
      exact ⟨createWorkload_indexed hidx, makesRow_of_indexSound howner hidx hsound⟩
  · intro hm
    refine (h.observe_of (I := EntriesOwned)
      (C := fun t => 0 ∉ t.label.requestOwnerID ∧ MakesRow t)
      (fun t ht => ⟨howners t ht, hm t ht⟩) ?_ ?_).2
    · intro k id hl
      exact absurd hl (by simp)
    · rintro m w m' hown rfl ⟨howner, hfree⟩
      have hown' := createWorkload_entriesOwned howner hfree hown
      exact ⟨hown', hown'.indexSound, createWorkload_answers howner hown.indexSound hfree⟩

/-- Creates of the given workloads, one after the other. -/
def creates (ws : List Workload) : List (Transition IndexedStore Workload) :=
  Run.script (fun m w => (createWorkload m w).1) {} (ws.map fun w _ => w)

def afterCreates (ws : List Workload) : IndexedStore :=
  Run.afterScript (fun m w => (createWorkload m w).1) {} (ws.map fun w _ => w)

theorem creates_run (ws : List Workload) : Run CreateStep {} (creates ws) (afterCreates ws) :=
  Run.of_script _ (fun _ _ _ => rfl) _

def requestOf (id owner key : GoString) : Workload :=
  { requestID := id, requestOwnerID := owner, requestIdempotencyKey := key }

/-- A create, its repetition under another id, and one of another owner with the same key. -/
def retriedCreates : List Workload :=
  [requestOf "w" "a" "k", requestOf "v" "a" "k", requestOf "u" "b" "k"]

/-- The repetition is answered with the first row. -/
theorem retried_creates_sound : ((creates retriedCreates).map fun t =>
        (createWorkload t.pre t.label).2.1.map fun w => w.requestID) =
      [some (ofString "w"), some (ofString "w"), some (ofString "u")] ∧
    ∀ t ∈ creates retriedCreates, IndexSound t.post ∧ AnswersOwn t :=
  ⟨by decide +kernel, (index_sound_iff (creates_run _) (by decide +kernel)).2 (by decide +kernel)⟩

/-- The create of the second owner with the taken id `w` makes an entry and no row, and its next
create is given the row of the first owner. Owners with a zero byte share an entry. -/
theorem entry_of_other_owner : (∃ tr m, Run CreateStep {} tr m ∧ ∃ w : Workload,
        (createWorkload m (requestOf "v" "b" "k")).2 = (some w, false) ∧
          w.requestOwnerID = "a" ∧ w.requestIdempotencyKey = []) ∧
      ∃ tr m, Run CreateStep {} tr m ∧ ∃ w : Workload,
        (createWorkload m (requestOf "v" "a\x00b" "c")).2 = (some w, false) ∧
          w.requestOwnerID = "a" ∧ w.requestIdempotencyKey = "b\x00c" :=
  ⟨⟨_, _, creates_run [requestOf "w" "a" [], requestOf "w" "b" "k"], _, rfl,
      by decide +kernel, by decide +kernel⟩,
    ⟨_, _, creates_run [requestOf "w" "a" "b\x00c"], _, rfl, by decide +kernel, by decide +kernel⟩⟩

end VramGovernor.Store
