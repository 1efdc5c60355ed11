import VramGovernor.Foundations.Run
import VramGovernor.Store.Memory

/-!
# Runs of the memory store

`StoreCall` lists the calls that read or write leases, checkpoint rows and displacement rows,
together with arbitrary writes to the workload table. What a call can do is said once, in
`StoreChange`, and an invariant of a table is proved from its own change relation: `LeaseChange`,
`CheckpointChange` and `DisplacementChange`.
-/

namespace VramGovernor.Store

/-- A call on the store, with the clock values it reads and the orders it ranges in. -/
inductive StoreCall
  /-- `AcquireAcceleratorLease` when `opID` is empty, and
  `AcquireAcceleratorLeaseForCheckpointRecovery` for any `opID`. -/
  | acquire (a w opID : GoString) (ttl : ℤ) (now : GoTime) (o : ScanOrders)
  | renew (a w : GoString) (token : Int64) (ttl : ℤ) (now : GoTime)
  | release (a w : GoString) (token : Int64)
  | createCheckpoint (op : Option LLMCheckpointOperation) (now : GoTime)
      (order : List (GoMap.Entry LLMCheckpointOperation))
  | updateCheckpoint (op : Option LLMCheckpointOperation) (expected : UInt64) (now : GoTime)
      (order : List (GoMap.Entry LLMCheckpointOperation))
  | createDisplacement (op : Option LLMDisplacementOperation) (now worldNow : GoTime)
      (order : List (GoMap.Entry LLMDisplacementOperation))
  | updateDisplacement (op : Option LLMDisplacementOperation) (expected : UInt64) (now : GoTime)
  | recordIntent (intent : AcceleratorLeaseCleanupIntent) (now : GoTime)
  | deleteIntent (a owner : GoString) (token : Int64)
  | deleteIntentForWorkload (a owner : GoString) (token : Int64) (w : GoString)
  /-- Any call that writes the workload table. -/
  | setWorkloads (workloads : GoMap Workload)

open StoreCall

namespace StoreCall

/-- The orders of the call are ones that `range` may choose. -/
def Admissible (m : MemoryStore) : StoreCall → Prop
  | acquire _ _ _ _ _ o => o.Of m
  | createCheckpoint _ _ order => GoMap.RangeOrder m.llmCheckpointOps order
  | updateCheckpoint _ _ _ order => GoMap.RangeOrder m.llmCheckpointOps order
  | createDisplacement _ _ _ order => GoMap.RangeOrder m.llmDisplacementOps order
  | _ => True

def exec (m : MemoryStore) : StoreCall → MemoryStore
  | acquire a w opID ttl now o => (acquireAcceleratorLease m a w opID ttl now o).1
  | renew a w token ttl now => (renewAcceleratorLease m a w token ttl now).1
  | release a w token => (releaseAcceleratorLease m a w token).1
  | createCheckpoint op now order => (createLLMCheckpointOperation m op now order).1
  | updateCheckpoint op expected now order =>
    (updateLLMCheckpointOperation m op expected now order).1
  | createDisplacement op now worldNow order =>
    (createLLMDisplacementOperation m op now worldNow order).1
  | updateDisplacement op expected now => (updateLLMDisplacementOperation m op expected now).1
  | recordIntent intent now => (recordAcceleratorLeaseCleanupIntent m intent now).1
  | deleteIntent a owner token => deleteAcceleratorLeaseCleanupIntent m a owner token
  | deleteIntentForWorkload a owner token w =>
    deleteAcceleratorLeaseCleanupIntentForWorkload m a owner token w
  | setWorkloads workloads => { m with workloads }

/-- The lease that the call is granted on the accelerator. -/
def granted (m : MemoryStore) (a : GoString) : StoreCall → Option AcceleratorLease
  | acquire a' w opID ttl now o =>
    let r := acquireAcceleratorLease m a' w opID ttl now o
    if a' = a ∧ r.2.2 = true then some r.2.1 else none
  | _ => none

/-- The call is one of those on cleanup intents. -/
def onIntents : StoreCall → Bool
  | recordIntent .. | deleteIntent .. | deleteIntentForWorkload .. => true
  | _ => false

end StoreCall

def StoreStep (m : MemoryStore) (c : StoreCall) (m' : MemoryStore) : Prop :=
  c.Admissible m ∧ m' = c.exec m

def Reachable (m : MemoryStore) : Prop := ∃ tr, Run StoreStep newMemoryStore tr m

/-- The transitions of a script, whose calls may look at the store for the orders they range in. -/
def script (m : MemoryStore) (cs : List (MemoryStore → StoreCall)) :
    List (Transition MemoryStore StoreCall) :=
  Run.script StoreCall.exec m cs

def afterScript (m : MemoryStore) (cs : List (MemoryStore → StoreCall)) : MemoryStore :=
  Run.afterScript StoreCall.exec m cs

theorem run_script {cs : List (MemoryStore → StoreCall)} (h : ∀ c ∈ cs, ∀ m, (c m).Admissible m)
    (m : MemoryStore) : Run StoreStep m (script m cs) (afterScript m cs) :=
  Run.of_script exec (fun c hc m => ⟨h c hc m, rfl⟩) m

/-! ## What a call can do -/

/-- The changes of the store, with the conditions under which a call makes them. -/
inductive StoreChange (m : MemoryStore) : StoreCall → MemoryStore → Prop
  | none {c : StoreCall} (hg : ∀ a, c.granted m a = none) : StoreChange m c m
  | grant {a w opID : GoString} {ttl : ℤ} {now : GoTime} {o : ScanOrders}
      {r : Option (GoMap.Entry LLMCheckpointOperation)} (hr : Grantable m a w opID now.utc r)
      (hg : acquireAcceleratorLease m a w opID ttl now o =
        (grantLease m opID (grantedLease m a w ttl now.utc r) now.utc r,
          grantedLease m a w ttl now.utc r, true)) :
      StoreChange m (.acquire a w opID ttl now o)
        (grantLease m opID (grantedLease m a w ttl now.utc r) now.utc r)
  | renew {a : GoString} {l : AcceleratorLease} {ttl : ℤ} {now : GoTime}
      (hl : m.leases.lookup a = some l) :
      StoreChange m (.renew a l.workloadID l.fencingToken ttl now)
        { m with leases := m.leases.insert a { l with expiresAt := now.utc.add ttl } }
  | release {a : GoString} {l : AcceleratorLease} (hl : m.leases.lookup a = some l) :
      StoreChange m (.release a l.workloadID l.fencingToken) { m with leases := m.leases.erase a }
  | createCheckpoint {op : Option LLMCheckpointOperation} {now : GoTime}
      {order : List (GoMap.Entry LLMCheckpointOperation)} {p : LLMCheckpointOperation}
      (hp : prepareLLMCheckpointCreate op now = .ok p)
      (hfree : m.llmCheckpointOps.lookup p.id = none)
      (hslot : ∀ k row, m.llmCheckpointOps.lookup k = some row → slotHeldBy p row = false) :
      StoreChange m (.createCheckpoint op now order) (insertCheckpoint m p)
  | updateCheckpoint {op : Option LLMCheckpointOperation} {expected : UInt64} {now : GoTime}
      {order : List (GoMap.Entry LLMCheckpointOperation)} {current op' : LLMCheckpointOperation}
      (hl : m.llmCheckpointOps.lookup op'.id = some current)
      (hacc : CheckpointUpdateAccepted current op' expected)
      (hslot : ∀ k row, m.llmCheckpointOps.lookup k = some row → k ≠ op'.id →
        slotHeldBy op' row = false) :
      StoreChange m (.updateCheckpoint op expected now order)
        { m with llmCheckpointOps :=
            m.llmCheckpointOps.insert op'.id (updatedCheckpoint current op' now) }
  | createDisplacement {op : Option LLMDisplacementOperation} {now worldNow : GoTime}
      {order : List (GoMap.Entry LLMDisplacementOperation)} {p : LLMDisplacementOperation}
      (hp : prepareLLMDisplacementCreate op now = .ok p)
      (hfree : m.llmDisplacementOps.lookup p.id = none)
      (hcustody : ∀ k row, m.llmDisplacementOps.lookup k = some row →
        custodyOn p.acceleratorID ⟨k, row⟩ = false)
      (hres : (createLLMDisplacementOperation m op now worldNow order).2 = .ok (p, true)) :
      StoreChange m (.createDisplacement op now worldNow order) (insertDisplacement m p)
  | updateDisplacement {old new : LLMDisplacementOperation} {expected : UInt64} {now : GoTime}
      (hl : m.llmDisplacementOps.lookup new.id = some old)
      (hv : validateDisplacementUpdate old new expected = .ok ()) :
      StoreChange m (.updateDisplacement (some new) expected now)
        { m with llmDisplacementOps :=
            m.llmDisplacementOps.insert new.id (updatedDisplacement old new now) }
  | intents {c : StoreCall} (hc : c.onIntents = true)
      (intents : GoMap AcceleratorLeaseCleanupIntent) :
      StoreChange m c { m with leaseCleanupIntents := intents }
  | workloads (workloads : GoMap Workload) :
      StoreChange m (.setWorkloads workloads) { m with workloads }

variable {m m' : MemoryStore} {c : StoreCall}

theorem StoreChange.of_eq {m₁ : MemoryStore} (h : m₁ = m') (hc : StoreChange m c m') :
    StoreChange m c m₁ := h ▸ hc

theorem storeChange_acquire {a w opID : GoString} {ttl : ℤ} {now : GoTime} {o : ScanOrders}
    (ho : o.Of m) :
    StoreChange m (.acquire a w opID ttl now o)
      ((acquire a w opID ttl now o).exec m) := by
  rcases acquireAcceleratorLease_cases ho a w opID ttl now with ⟨l, hl⟩ | ⟨r, hr, hl⟩
  · refine .of_eq (by simp only [exec, hl]) (.none fun a' => ?_)
    simp [granted, hl]
  · exact .of_eq (by simp only [exec, hl]) (.grant hr hl)

theorem storeChange_recordIntent (i : AcceleratorLeaseCleanupIntent) (now : GoTime) :
    StoreChange m (.recordIntent i now) ((recordIntent i now).exec m) := by
  simp only [exec, recordAcceleratorLeaseCleanupIntent]
  split
  · exact .none fun _ => rfl
  · split
    · exact .intents rfl _
    · split_ifs
      · exact .intents rfl _
      · exact .none fun _ => rfl

theorem StoreStep.change (h : StoreStep m c m') : StoreChange m c m' := by
  obtain ⟨hadm, rfl⟩ := h
  cases c with
  | acquire a w opID ttl now o => exact storeChange_acquire hadm
  | renew a w token ttl now =>
    rcases renewAcceleratorLease_cases m a w token ttl now with h | ⟨l, hl, rfl, rfl, h⟩
    · exact .of_eq (by simp only [exec, h]) (.none fun _ => rfl)
    · exact .of_eq (by simp only [exec, h]) (.renew hl)
  | release a w token =>
    rcases releaseAcceleratorLease_cases m a w token with h | ⟨l, hl, rfl, rfl, h⟩
    · exact .of_eq (by simp only [exec, h]) (.none fun _ => rfl)
    · exact .of_eq (by simp only [exec, h]) (.release hl)
  | createCheckpoint op now order =>
    rcases createLLMCheckpointOperation_cases m op now order with ⟨h, -⟩ | ⟨p, hp, hfree, hslot, h⟩
    · exact .of_eq (by simp only [exec, h]) (.none fun _ => rfl)
    · refine .of_eq (by simp only [exec, h]) (.createCheckpoint hp hfree ?_)
      exact (GoMap.RangeOrder.find?_eq_none hadm).1 hslot
  | updateCheckpoint op expected now order =>
    rcases updateLLMCheckpointOperation_cases m op expected now order with
      ⟨e, h⟩ | ⟨current, op', -, hl, hacc, hslot, h⟩
    · exact .of_eq (by simp only [exec, h]) (.none fun _ => rfl)
    · refine .of_eq (by simp only [exec, h]) (.updateCheckpoint hl hacc ?_)
      intro k row hk hne
      simpa [hne] using (GoMap.RangeOrder.find?_eq_none hadm).1 hslot k row hk
  | createDisplacement op now worldNow order =>
    rcases createLLMDisplacementOperation_cases m op now worldNow order with
      ⟨h, -⟩ | ⟨p, hp, hfree, hcustody, h⟩
    · exact .of_eq (by simp only [exec, h]) (.none fun _ => rfl)
    · refine .of_eq (by simp only [exec, h]) (.createDisplacement hp hfree ?_ (by rw [h]))
      exact (GoMap.RangeOrder.find?_eq_none hadm).1 hcustody
  | updateDisplacement op expected now =>
    rcases updateLLMDisplacementOperation_cases m op expected now with
      ⟨e, h⟩ | ⟨old, new, rfl, hl, hv, h⟩
    · exact .of_eq (by simp only [exec, h]) (.none fun _ => rfl)
    · exact .of_eq (by simp only [exec, h]) (.updateDisplacement hl hv)
  | recordIntent intent now => exact storeChange_recordIntent intent now
  | deleteIntent a owner token | deleteIntentForWorkload a owner token w =>
    exact .intents rfl _
  | setWorkloads workloads => exact .workloads workloads

/-! ## The tables, one by one -/

/-- What a call does to the lease and the fence counter of one accelerator. -/
inductive LeaseChange (m m' : MemoryStore) (a : GoString) (c : StoreCall) : Prop
  | keep (hg : c.granted m a = none)
      (hf : GoMap.get m'.leaseFences a = GoMap.get m.leaseFences a)
      (hl : m'.leases.lookup a = m.leases.lookup a)
  | renew (l : AcceleratorLease) (ttl : ℤ) (now : GoTime)
      (hc : c = .renew a l.workloadID l.fencingToken ttl now) (hl : m.leases.lookup a = some l)
      (hf : GoMap.get m'.leaseFences a = GoMap.get m.leaseFences a)
      (hl' : m'.leases.lookup a = some { l with expiresAt := now.utc.add ttl })
  | release (l : AcceleratorLease) (hc : c = .release a l.workloadID l.fencingToken)
      (hl : m.leases.lookup a = some l)
      (hf : GoMap.get m'.leaseFences a = GoMap.get m.leaseFences a)
      (hl' : m'.leases.lookup a = none)
  | grant (w opID : GoString) (ttl : ℤ) (now : GoTime) (o : ScanOrders)
      (r : Option (GoMap.Entry LLMCheckpointOperation)) (hc : c = .acquire a w opID ttl now o)
      (hr : Grantable m a w opID now.utc r)
      (hg : c.granted m a = some (grantedLease m a w ttl now.utc r))
      (hf : GoMap.get m'.leaseFences a = (grantedLease m a w ttl now.utc r).fencingToken)
      (hl : m'.leases.lookup a = some (grantedLease m a w ttl now.utc r))

theorem StoreStep.leaseChange (h : StoreStep m c m') (a : GoString) : LeaseChange m m' a c := by
  cases h.change with
  | none hg => exact .keep (hg a) rfl rfl
  | intents hc =>
    cases c with
    | recordIntent | deleteIntent | deleteIntentForWorkload => exact .keep rfl rfl rfl
    | _ => cases hc
  | @grant a' w opID ttl now o r hr hg =>
    by_cases ha : a = a'
    · subst ha
      refine .grant w opID ttl now o r rfl hr (by simp [granted, hg]) ?_ ?_
      · exact GoMap.get_insert_self ..
      · exact AList.lookup_insert _
    · refine .keep (by simp [granted, Ne.symm ha]) ?_ ?_
      · exact GoMap.get_insert_of_ne _ _ ha
      · exact AList.lookup_insert_ne ha
  | @renew a' l ttl now hl =>
    by_cases ha : a = a'
    · subst ha
      exact .renew l ttl now rfl hl rfl (AList.lookup_insert _)
    · exact .keep rfl rfl (AList.lookup_insert_ne ha)
  | @release a' l hl =>
    by_cases ha : a = a'
    · subst ha
      exact .release l rfl hl rfl (AList.lookup_erase _ _)
    · exact .keep rfl rfl (AList.lookup_erase_ne ha)
  | _ => exact .keep rfl rfl rfl

/-- What a call does to the checkpoint rows. -/
inductive CheckpointChange (m m' : MemoryStore) (c : StoreCall) : Prop
  | keep (h : m'.llmCheckpointOps = m.llmCheckpointOps)
  | create (op : Option LLMCheckpointOperation) (now : GoTime)
      (order : List (GoMap.Entry LLMCheckpointOperation)) (p : LLMCheckpointOperation)
      (hc : c = .createCheckpoint op now order) (hp : prepareLLMCheckpointCreate op now = .ok p)
      (hfree : m.llmCheckpointOps.lookup p.id = none)
      (hslot : ∀ k row, m.llmCheckpointOps.lookup k = some row → slotHeldBy p row = false)
      (h : m'.llmCheckpointOps = m.llmCheckpointOps.insert p.id p)
  | update (current op : LLMCheckpointOperation) (expected : UInt64) (now : GoTime)
      (hl : m.llmCheckpointOps.lookup op.id = some current)
      (hacc : CheckpointUpdateAccepted current op expected)
      (hslot : ∀ k row, m.llmCheckpointOps.lookup k = some row → k ≠ op.id →
        slotHeldBy op row = false)
      (h : m'.llmCheckpointOps = m.llmCheckpointOps.insert op.id (updatedCheckpoint current op now))
  | recover (a w opID : GoString) (token : Int64) (now : GoTime)
      (e : GoMap.Entry LLMCheckpointOperation) (hl : m.llmCheckpointOps.lookup e.1 = some e.2)
      (ha : armedFor a w opID e.2 = true)
      (h : m'.llmCheckpointOps = m.llmCheckpointOps.insert e.1 (recoveredRow e.2 a opID token now))

theorem StoreStep.checkpointChange (h : StoreStep m c m') : CheckpointChange m m' c := by
  cases h.change with
  | @grant a w opID ttl now o r hr hg =>
    cases r with
    | none => exact .keep rfl
    | some e =>
      obtain ⟨hl, ha⟩ := hr.armed e rfl
      exact .recover a w opID _ now.utc e hl ha rfl
  | createCheckpoint hp hfree hslot => exact .create _ _ _ _ rfl hp hfree hslot rfl
  | updateCheckpoint hl hacc hslot => exact .update _ _ _ _ hl hacc hslot rfl
  | _ => exact .keep rfl

/-- What a call does to the displacement rows. -/
inductive DisplacementChange (m m' : MemoryStore) (c : StoreCall) : Prop
  | keep (h : m'.llmDisplacementOps = m.llmDisplacementOps)
  | create (op : Option LLMDisplacementOperation) (now worldNow : GoTime)
      (order : List (GoMap.Entry LLMDisplacementOperation)) (p : LLMDisplacementOperation)
      (hc : c = .createDisplacement op now worldNow order)
      (hp : prepareLLMDisplacementCreate op now = .ok p)
      (hfree : m.llmDisplacementOps.lookup p.id = none)
      (hcustody : ∀ k row, m.llmDisplacementOps.lookup k = some row →
        custodyOn p.acceleratorID ⟨k, row⟩ = false)
      (hres : (createLLMDisplacementOperation m op now worldNow order).2 = .ok (p, true))
      (h : m'.llmDisplacementOps = m.llmDisplacementOps.insert p.id p)
  | update (old new : LLMDisplacementOperation) (expected : UInt64) (now : GoTime)
      (hl : m.llmDisplacementOps.lookup new.id = some old)
      (hv : validateDisplacementUpdate old new expected = .ok ())
      (h : m'.llmDisplacementOps =
        m.llmDisplacementOps.insert new.id (updatedDisplacement old new now))

theorem StoreStep.displacementChange (h : StoreStep m c m') : DisplacementChange m m' c := by
  cases h.change with
  | createDisplacement hp hfree hcustody hres =>
    exact .create _ _ _ _ _ rfl hp hfree hcustody hres rfl
  | updateDisplacement hl hv => exact .update _ _ _ _ hl hv rfl
  | _ => exact .keep rfl

end VramGovernor.Store
