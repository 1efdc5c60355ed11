import VramGovernor.Foundations.GoError
import VramGovernor.Foundations.GoMap
import VramGovernor.Foundations.GoTime

/-!
# Submitting a job

`SubmitJob` stores a job and then its items, one by one, until it finds an identity that is taken.
It returns an error then, and what it has stored stays (`generated_id_taken`). An error leaves the
manager as it was exactly if no identity of the submission is taken (`submission_atomic_iff`),
whatever the dispatch does that ends a successful call.
-/

namespace VramGovernor.Jobs

open GoString

structure ItemIdentity where
  (jobID itemID operationVersion : GoString)
  deriving DecidableEq

/-- An item as the caller describes it. -/
structure ItemInput (π : Type*) where
  (itemID operationVersion : GoString := [])
  payload : π

inductive WorkItemState
  | queued | leased | running | success | failed | leaseExpired | cancelled

structure WorkItem (π : Type*) extends ItemIdentity where
  state : WorkItemState
  payload : π
  (createdAt updatedAt : GoTime)
  seq : ℤ

inductive JobStatus
  | pending | running | paused | cancelled | completed | completedWithErrors
  deriving DecidableEq

structure Job where
  (id operation pool : GoString)
  status : JobStatus
  (createdAt updatedAt : GoTime)
  (maxAttempts total queued : ℤ)
  deriving DecidableEq

/-- The jobs and items of the manager. The workers and leases are left to the dispatch. -/
structure JobManager (π : Type*) where
  jobs : GoMap Job := ∅
  items : AList fun _ : ItemIdentity => WorkItem π := ∅
  itemOrder : GoMap (List ItemIdentity) := ∅
  jobOrder : List GoString := []
  idSeq : Int64 := 0
  defaultMaxAttempts : ℤ := 8

/-- The arguments of a call and its two readings of the clock. -/
structure Submission (π : Type*) where
  (operation pool : GoString := [])
  inputs : List (ItemInput π)
  (maxAttempts unixNano : ℤ := 0)
  now : GoTime := {}

variable {π : Type*}

def nextID (idSeq : Int64) (unixNano : ℤ) : GoString :=
  "job-" ++ sprint unixNano ++ "-" ++ sprint (idSeq + 1).toInt

/-- The item of an input. Missing ids and versions get defaults. -/
def newItem (jobID : GoString) (now : GoTime) (i : ℕ) (input : ItemInput π) : WorkItem π where
  jobID := jobID
  itemID := if input.itemID = [] then "item-" ++ sprint i else input.itemID
  operationVersion := if input.operationVersion = [] then "v1" else input.operationVersion
  state := .queued
  payload := input.payload
  createdAt := now
  updatedAt := now
  seq := i

def Submission.items (s : Submission π) (m : JobManager π) : List (WorkItem π) :=
  s.inputs.mapIdx (newItem (nextID m.idSeq s.unixNano) s.now)

-- `strconv.Quote`, and `tryDispatchLocked` for the workers that are registered
variable (quote : GoString → GoString) (dispatch : JobManager π → JobManager π)

/-- The loop over the items. -/
def addItems (table : AList fun _ : ItemIdentity => WorkItem π) (order : List ItemIdentity) :
    List (WorkItem π) → (AList fun _ : ItemIdentity => WorkItem π) ×
      Except GoError (List ItemIdentity)
  | [] => (table, .ok order)
  | item :: items =>
    let key := item.toItemIdentity
    if key ∈ table then
      (table, .error ⟨"jobs: duplicate item identity " ++ quote key.itemID ++ "/" ++
        quote key.operationVersion, none⟩)
    else addItems (table.insert key item) (order ++ [key]) items

def submitJob (m : JobManager π) (s : Submission π) : JobManager π × Except GoError Job :=
  if s.inputs = [] then (m, .error ⟨"jobs: submit requires at least one work item", none⟩)
  else
    let job : Job :=
      { id := nextID m.idSeq s.unixNano
        operation := s.operation
        pool := s.pool
        status := .running
        createdAt := s.now
        updatedAt := s.now
        maxAttempts := if s.maxAttempts ≤ 0 then m.defaultMaxAttempts else s.maxAttempts
        total := s.inputs.length
        queued := s.inputs.length }
    let stored : JobManager π :=
      { m with
        jobs := m.jobs.insert job.id job
        jobOrder := m.jobOrder ++ [job.id]
        idSeq := m.idSeq + 1 }
    match addItems quote m.items [] (s.items m) with
    | (items, .error e) => ({ stored with items }, .error e)
    | (items, .ok order) =>
      let m := dispatch { stored with items, itemOrder := m.itemOrder.insert job.id order }
      (m, .ok ((m.jobs.lookup job.id).getD job))

/-- The loop ends well if the identities differ and none of them is taken. -/
theorem addItems_ok_iff {items : List (WorkItem π)}
    {table : AList fun _ : ItemIdentity => WorkItem π} (order : List ItemIdentity) :
    (∃ order', (addItems quote table order items).2 = .ok order') ↔
      (items.map (·.toItemIdentity)).Nodup ∧ ∀ item ∈ items, item.toItemIdentity ∉ table := by
  induction items generalizing table order with
  | nil => simp [addItems]
  | cons item items ih =>
    by_cases htaken : item.toItemIdentity ∈ table
    · simp [addItems, htaken]
    · simp only [addItems, if_neg htaken, ih, AList.mem_insert, not_or, List.map_cons,
        List.nodup_cons, List.mem_map, not_exists, not_and, List.forall_mem_cons]
      constructor
      · rintro ⟨hnodup, hrest⟩
        exact ⟨⟨fun other hother => (hrest other hother).1, hnodup⟩, htaken,
          fun other hother => (hrest other hother).2⟩
      · rintro ⟨⟨hdiffers, hnodup⟩, -, hrest⟩
        exact ⟨hnodup, fun other hother => ⟨hdiffers other hother, hrest other hother⟩⟩

/-- **When a failed submission changes nothing**: exactly if its identities differ and none of them
is taken. Then the only error is that of an empty submission. -/
theorem submission_atomic_iff (m : JobManager π) (s : Submission π) :
    (∀ e, (submitJob quote dispatch m s).2 = .error e → (submitJob quote dispatch m s).1 = m) ↔
      ((s.items m).map (·.toItemIdentity)).Nodup ∧
        ∀ item ∈ s.items m, item.toItemIdentity ∉ m.items := by
  rw [← addItems_ok_iff quote [], submitJob]
  by_cases hempty : s.inputs = []
  · simp [hempty, Submission.items, addItems]
  rw [if_neg hempty]
  obtain ⟨items, result⟩ := addItems quote m.items [] (s.items m)
  cases result with
  | ok order => simp
  | error e =>
    -- the job is in the order of the jobs already
    have hkept (hm : m.jobOrder ++ [nextID m.idSeq s.unixNano] = m.jobOrder) : False := by
      simp at hm
    exact ⟨fun h => (hkept (congrArg JobManager.jobOrder (h e rfl))).elim, nofun⟩

/-- **A generated id is taken.** The first item is called `item-1`, and the second has no id: the
job, its place in the order and the first item stay. -/
theorem generated_id_taken :
    let inputs : List (ItemInput Unit) := [{ itemID := "item-1", payload := () }, { payload := () }]
    let r := submitJob (fun text => "\"" ++ text ++ "\"") id {} { inputs }
    r.2 = .error ⟨"jobs: duplicate item identity \"item-1\"/\"v1\"", none⟩ ∧
    r.1.jobs.keys = [ofString "job-0-1"] ∧ r.1.jobOrder = [ofString "job-0-1"] ∧
    r.1.items.keys = [⟨"job-0-1", "item-1", "v1"⟩] := by
  decide +kernel

end VramGovernor.Jobs
