import VramGovernor.Store.CleanupAdmission
import VramGovernor.Store.LeaseFencing
import VramGovernor.Store.Postgres

/-!
# The two stores agree on leases

Driven by the same lease calls from the same rows, the memory store and the Postgres store grant the
same leases and keep the same rows. `Mirrors` relates their states, and an acquire is compared with
the one that scans its maps in the order of the rows (`RowOrders.scan`).

Postgres keeps times in whole microseconds, and takes the next token from the larger of its counter
and zero. So clocks and lease durations are in whole microseconds, and counters are not negative.
-/

namespace VramGovernor.Store

open GoString GoMap PostgresStore

/-- The two stores hold the same rows. -/
structure Mirrors (m : MemoryStore) (p : PostgresStore) : Prop where
  leases : ∀ a, p.acceleratorLeases.lookup a = (m.leases.lookup a).map LeaseRow.of
  /-- The expiry of a lease is one that a row can hold. -/
  micros : ∀ a l, m.leases.lookup a = some l → l.expiresAt.nanos % 1000 = 0
  fences : ∀ a, GoMap.get p.acceleratorLeaseFences a = GoMap.get m.leaseFences a
  checkpoints : ∀ id, p.llmCheckpointOperations.lookup id = m.llmCheckpointOps.lookup id
  displacements : ∀ id, p.llmDisplacementOperations.lookup id =
    (m.llmDisplacementOps.lookup id).map DisplacementRow.of

/-- Displacement rows are valid with a revision that a `BIGINT` holds, checkpoint rows stand under
their ids, and no counter is negative. -/
structure WellFormedRows (m : MemoryStore) : Prop where
  displacements : ∀ id op, m.llmDisplacementOps.lookup id = some op →
    validateLLMDisplacementIdentity op = .ok () ∧ 0 < op.revision.toInt64
  checkpoints : ∀ id op, m.llmCheckpointOps.lookup id = some op → op.id = id
  counters : ∀ a, 0 ≤ counter m a

variable {m m' : MemoryStore} {p p' : PostgresStore} {a w opID : GoString} {ttl : ℤ} {now : GoTime}

/-! ## Scans -/

/-- The scans of the memory store that see the rows in the order of Postgres. -/
def RowOrders.scan (o : RowOrders) : ScanOrders :=
  ⟨o.displacements.map fun e => ⟨e.1, e.2.body⟩, o.checkpoints, o.checkpoints⟩

variable {o : RowOrders} {lease : AcceleratorLease}

theorem Mirrors.scan_of (h : Mirrors m p) (ho : o.Of p) :
    o.scan.Of m ∧ o.displacements = o.scan.displacements.map fun e => ⟨e.1, .of e.2⟩ := by
  obtain ⟨hd, he⟩ := ho.displacements.decode (g := DisplacementRow.body) (fun _ => rfl)
    h.displacements
  have hc := ho.checkpoints.congr h.checkpoints
  exact ⟨⟨hd, hc, hc⟩, he.symm⟩

/-- A well-formed displacement row refuses an acquire if it keeps the accelerator. -/
theorem displacementVerdict_of (a : GoString) {e : Entry LLMDisplacementOperation}
    (hv : validateLLMDisplacementIdentity e.2 = .ok ()) (hrev : 0 < e.2.revision.toInt64) :
    displacementVerdict a (.of e.2) =
      .ok (if custodyOn a e then some (displacementLease a e.2) else none) := by
  unfold displacementVerdict custodyOn displacementRecordRetainsCustody
  have hindex : ¬ e.2.revision.toInt64 ≤ 0 := Int64.not_le.2 hrev
  by_cases ha : e.2.acceleratorID = a
  · by_cases hphase : e.2.phase = "completed"
    all_goals simp [DisplacementRow.of, ha, hv, hindex, hphase]
  · simp [DisplacementRow.of, ha]

/-- The loop over well-formed displacement rows stops at the first that keeps the accelerator. -/
theorem displacementRefusal_map (a : GoString) {rows : List (Entry LLMDisplacementOperation)}
    (hrows : ∀ e ∈ rows, validateLLMDisplacementIdentity e.2 = .ok () ∧ 0 < e.2.revision.toInt64) :
    displacementRefusal a (rows.map fun e => ⟨e.1, .of e.2⟩) =
      .ok ((rows.find? (custodyOn a)).map fun e => displacementLease a e.2) := by
  induction rows with
  | nil => rfl
  | cons e rows ih =>
    have hfirst := displacementVerdict_of a (hrows e (by simp)).1 (hrows e (by simp)).2
    have hrest := ih fun e he => hrows e (by simp [he])
    simp only [List.map_cons, displacementRefusal, hfirst, List.find?_cons]
    cases hc : custodyOn a e with
    | true => simp
    | false => simpa using hrest

theorem recoveryOp_cleanupOps (o : RowOrders) (a w opID : GoString) :
    recoveryOp w opID (cleanupOps o a) = recoveryEntry a w opID o.scan := by
  rw [recoveryOp, cleanupOps, List.find?_filter]
  refine congrArg (List.find? · o.checkpoints) (funext fun e => ?_)
  rw [Bool.eq_iff_iff]
  simp only [armedFor, unresolvedCleanup, unresolvedCleanupStates, Bool.and_eq_true,
    Bool.or_eq_true, decide_eq_true_eq]
  constructor
  · rintro ⟨⟨ha, -⟩, ⟨⟨hop, hs⟩, hw⟩, hid⟩
    exact ⟨⟨⟨⟨ha, hs⟩, hw⟩, hop⟩, hid⟩
  · rintro ⟨⟨⟨⟨ha, hs⟩, hw⟩, hop⟩, hid⟩
    exact ⟨⟨ha, by simp [hs]⟩, ⟨⟨hop, hs⟩, hw⟩, hid⟩

theorem find?_cleanupOps (o : RowOrders) (a : GoString)
    (r : Option (Entry LLMCheckpointOperation)) :
    (cleanupOps o a).find? (fun e => r.map (·.1) ≠ some e.1) =
      blockingEntry a r o.scan := by
  rw [cleanupOps, List.find?_filter]
  refine congrArg (List.find? · o.checkpoints) (funext fun e => ?_)
  rw [Bool.decide_and, Bool.decide_eq_true, Bool.decide_eq_true]

/-- The fence of a cleanup is chosen before or after its conversion. -/
theorem cleanupLease_fencingToken (a : GoString) (ttl : ℤ) (now : GoTime)
    (op : LLMCheckpointOperation) :
    (cleanupLease a ttl now op).fencingToken =
      if op.cleanupFence.toInt64 = 0 then op.fence.toInt64 else op.cleanupFence.toInt64 := by
  have hzero : op.cleanupFence.toInt64 = 0 ↔ op.cleanupFence = 0 := by
    constructor
    · intro h
      rw [← UInt64.toUInt64_toInt64 op.cleanupFence, h]
      rfl
    · intro h
      rw [h]
      rfl
  by_cases h : op.cleanupFence = 0
  · simp [cleanupLease, h]
  · simp [cleanupLease, h, hzero]

theorem Mirrors.liveLease_eq (h : Mirrors m p) (a : GoString) (now : GoTime) :
    (((p.acceleratorLeases.lookup a).map (·.lease a)).filter
        fun current => current.expiresAt.after now).map (·.fencingToken) =
      (liveLease m a now).map (·.fencingToken) := by
  rw [h.leases, liveLease]
  cases hl : m.leases.lookup a with
  | none => rfl
  | some l =>
    have hm := h.micros a l hl
    have hexp : l.expiresAt.nanos / 1000 * 1000 = l.expiresAt.nanos := by omega
    by_cases hlive : now.nanos < l.expiresAt.nanos <;>
      simp [LeaseRow.of, LeaseRow.lease, timestamptz, GoTime.after, hexp, hlive, Option.filter]

section

variable (h : Mirrors m p) (hwf : WellFormedRows m)
include h hwf

/-- **An acquire is refused by both stores or by neither,** and with the same token. -/
theorem Mirrors.refusal_eq (ho : o.Of p) (a w opID : GoString) (ttl : ℤ) (now : GoTime) :
    ∃ r, p.refusal a w opID ttl now o = .ok r ∧
      r.map (·.fencingToken) = (refusal m a w opID ttl now o.scan).map (·.fencingToken) := by
  obtain ⟨hscan, hrows⟩ := h.scan_of ho
  have hdisp : displacementRefusal a o.displacements =
      .ok ((o.scan.displacements.find? (custodyOn a)).map fun e => displacementLease a e.2) := by
    rw [hrows]
    exact displacementRefusal_map a fun e he =>
      hwf.displacements e.1 e.2 (hscan.displacements.mem_iff.1 he)
  unfold PostgresStore.refusal refusal
  rw [hdisp]
  cases hd : o.scan.displacements.find? (custodyOn a) with
  | some e => exact ⟨_, rfl, rfl⟩
  | none =>
    dsimp only [Option.map_none]
    rw [recoveryOp_cleanupOps, find?_cleanupOps]
    cases hb : blockingEntry a (recoveryEntry a w opID o.scan) o.scan with
    | some e => exact ⟨_, rfl, congrArg some (cleanupLease_fencingToken a ttl now e.2)⟩
    | none => exact ⟨_, rfl, h.liveLease_eq a now⟩

/-! ## Grants -/

variable {t : GoTime}

omit h hwf in
theorem truncateMicrosecond_eq (h : t.nanos % 1000 = 0) : t.truncateMicrosecond = t := by
  simp [GoTime.truncateMicrosecond, h]

omit h hwf in
theorem truncateMicrosecond_add (h : t.nanos % 1000 = 0) (httl : ttl % 1000 = 0) :
    (t.utc.add ttl).truncateMicrosecond = t.utc.add ttl := by
  apply truncateMicrosecond_eq
  simp only [GoTime.add, GoTime.utc]
  omega

/-- Both stores take the next token from the same number. -/
theorem Mirrors.raisedFence_eq (a : GoString) (r : Option LLMCheckpointOperation) :
    (if GoMap.get p.acceleratorLeaseFences a < fenceFloor r then fenceFloor r
      else GoMap.get p.acceleratorLeaseFences a) = raisedFence m a r := by
  have hpos : ¬ GoMap.get m.leaseFences a < 0 := by
    rw [Int64.lt_iff_toInt_lt]
    exact not_lt.2 (hwf.counters a)
  rw [h.fences]
  cases r with
  | none => simp [fenceFloor, raisedFence, hpos]
  | some op =>
    by_cases hzero : 0 < op.cleanupFence
    · simp only [fenceFloor, raisedFence, if_pos hzero]
    · have hfence : op.cleanupFence = 0 := by
        rw [UInt64.lt_iff_toNat_lt] at hzero
        apply UInt64.toNat_inj.1
        have : (0 : UInt64).toNat = 0 := rfl
        omega
      simp [fenceFloor, raisedFence, hfence, hpos]

omit h hwf in
/-- Both stores write the same body into the row that a recovery continues. -/
theorem advancedRow_eq (op : LLMCheckpointOperation) (a : GoString) {opID : GoString}
    (hop : opID ≠ []) (token : Int64) (hnow : now.nanos % 1000 = 0) :
    advancedRow op a opID token now = recoveredRow op a opID token now.utc := by
  have hid : (if op.cleanupOperationID = [] then opID else op.cleanupOperationID) =
      firstNonEmptyMemory [op.cleanupOperationID, opID, op.id] := by
    by_cases hc : op.cleanupOperationID = []
    · simp [firstNonEmptyMemory, hc, hop]
    · simp [firstNonEmptyMemory, hc]
  rw [advancedRow, recoveredRow, hid, truncateMicrosecond_eq (t := now.utc) hnow]

variable {r : Option (Entry LLMCheckpointOperation)}

section

variable (hr : Grantable m a w opID now.utc r) (hnow : now.nanos % 1000 = 0)
include hr hnow

theorem Mirrors.recoveredRows_eq
    {lease : AcceleratorLease} {rows : GoMap LLMCheckpointOperation}
    (hrows : recoveredRows p.llmCheckpointOperations r lease.acceleratorID opID
      lease.fencingToken now = .ok rows) (id : GoString) :
    rows.lookup id = (rowsAfterGrant m opID lease now.utc r).lookup id := by
  cases r with
  | none =>
    obtain rfl := Except.ok.inj hrows
    exact h.checkpoints id
  | some e =>
    obtain ⟨hl, harmed⟩ := hr.armed e rfl
    have hop : opID ≠ [] := by
      simp only [armedFor, Bool.and_eq_true, decide_eq_true_eq] at harmed
      exact harmed.1.2
    rw [advanceRecovery_eq_ok hrows, advancedRow_eq e.2 _ hop _ hnow, hwf.checkpoints e.1 e.2 hl]
    simp only [rowsAfterGrant, lookup_insert_of, h.checkpoints]

theorem Mirrors.grant (httl : ttl % 1000 = 0)
    (hp : (p.lockAcceleratorLeaseFence a).grant a w opID ttl now.utc now r = .ok (p', lease)) :
    lease = grantedLease m a w ttl now.utc r ∧
      Mirrors (grantLease m opID (grantedLease m a w ttl now.utc r) now.utc r) p' ∧
      WellFormedRows (grantLease m opID (grantedLease m a w ttl now.utc r) now.utc r) := by
  obtain ⟨token, rows, htoken, hrows, hlease, rfl⟩ := grant_eq_ok hp
  obtain ⟨hmax, htoken⟩ := nextToken_eq_ok htoken
  rw [get_lockAcceleratorLeaseFence, h.raisedFence_eq hwf] at hmax htoken
  have heq : lease = grantedLease m a w ttl now.utc r := by
    rw [hlease, htoken, truncateMicrosecond_add hnow httl]
    rfl
  have ha : (grantedLease m a w ttl now.utc r).acceleratorID = a := rfl
  have ht : (grantedLease m a w ttl now.utc r).fencingToken = token := htoken.symm
  subst heq
  refine ⟨rfl, ⟨fun a' => ?_, fun a' l hl => ?_, fun a' => ?_, fun id => ?_, ?_⟩, ?_, ?_,
    fun a' => ?_⟩
  · simp only [grantLease, lockAcceleratorLeaseFence_acceleratorLeases,
      lookup_insert_of, ha, h.leases]
    split_ifs <;> rfl
  · rcases of_lookup_insert hl with ⟨-, rfl⟩ | ⟨-, hl⟩
    · simp only [grantedLease, GoTime.add, GoTime.utc]
      omega
    · exact h.micros a' l hl
  · simp only [grantLease, ha, ht]
    by_cases hk : a' = a
    · rw [hk, get_insert_self, get_insert_self]
    · rw [get_insert_of_ne _ _ hk, get_insert_of_ne _ _ hk,
        get_lockAcceleratorLeaseFence, h.fences]
  · rw [lockAcceleratorLeaseFence_llmCheckpointOperations] at hrows
    rw [← ht] at hrows
    exact h.recoveredRows_eq hwf hr hnow hrows id
  · intro id
    simp only [grantLease, lockAcceleratorLeaseFence_llmDisplacementOperations]
    exact h.displacements id
  · exact hwf.displacements
  · intro id op hop
    cases r with
    | none => exact hwf.checkpoints id op hop
    | some e =>
      rcases of_lookup_insert hop with ⟨hk, rfl⟩ | ⟨-, hop⟩
      · exact (hwf.checkpoints e.1 e.2 (hr.armed e rfl).1).trans hk.symm
      · exact hwf.checkpoints id op hop
  · simp only [counter, grantLease, ha, ht]
    by_cases hk : a' = a
    · have hle := (hwf.counters a).trans (counter_le_raisedFence m a (r.map (·.2)))
      have hlt : raisedFence m a (r.map (·.2)) < Int64.maxValue :=
        Int64.lt_of_le_of_ne (Int64.le_maxValue _) hmax
      rw [hk, get_insert_self, htoken, toInt_add_one hlt]
      omega
    · rw [get_insert_of_ne _ _ hk]
      exact hwf.counters a'

end

/-! ## Calls -/

/-- An acquire of both stores, the memory store scanning in the order of the rows. -/
theorem Mirrors.acquire_scan (ho : o.Of p)
    (hnow : now.nanos % 1000 = 0) (httl : ttl % 1000 = 0) {granted : Bool}
    (hp : p.acquireAcceleratorLease a w opID ttl now now o = .ok (p', lease, granted)) :
    let r := acquireAcceleratorLease m a w opID ttl now o.scan
    (r.2.2 = granted ∧ r.2.1.fencingToken = lease.fencingToken) ∧
      Mirrors r.1 p' ∧ WellFormedRows r.1 := by
  obtain ⟨r, hr, htoken⟩ := h.refusal_eq hwf ho a w opID ttl now.utc
  have hscan := (h.scan_of ho).1
  simp only [PostgresStore.acquireAcceleratorLease, truncateMicrosecond_eq (t := now.utc) hnow,
    hr] at hp
  cases r with
  | some l' =>
    obtain ⟨rfl, rfl, rfl⟩ : p = p' ∧ l' = lease ∧ false = granted := by simpa using hp
    obtain ⟨l, hl, ht⟩ := Option.map_eq_some_iff.1 htoken.symm
    simp only [acquireAcceleratorLease, hl]
    exact ⟨⟨trivial, ht⟩, h, hwf⟩
  | none =>
    have hnone : refusal m a w opID ttl now.utc o.scan = none :=
      Option.map_eq_none_iff.1 htoken.symm
    have hgrant := (refusal_eq_none_iff hscan ttl).1 hnone
    dsimp only at hp
    rw [recoveryOp_cleanupOps] at hp
    split at hp
    · cases hp
    next tx l' htx =>
      obtain ⟨rfl, rfl, rfl⟩ : tx = p' ∧ l' = lease ∧ true = granted := by simpa using hp
      obtain ⟨heq, hm, hw⟩ := h.grant hwf hgrant hnow httl htx
      rw [acquireAcceleratorLease_of_grantable hscan ttl hgrant]
      exact ⟨⟨rfl, by rw [heq]⟩, hm, hw⟩

end

theorem Mirrors.of_leases (h : Mirrors m p) {leases : GoMap AcceleratorLease}
    {rows : GoMap LeaseRow} (a : GoString)
    (hl : ∀ a, rows.lookup a = (leases.lookup a).map LeaseRow.of)
    (hm : ∀ a l, leases.lookup a = some l → l.expiresAt.nanos % 1000 = 0) :
    Mirrors { m with leases } { p.lockAcceleratorLeaseFence a with acceleratorLeases := rows } :=
  ⟨hl, hm, fun a' => by rw [get_lockAcceleratorLeaseFence, h.fences],
    by simpa using h.checkpoints, by simpa using h.displacements⟩

theorem Mirrors.renew (h : Mirrors m p) (a w : GoString) (token : Int64)
    (hnow : now.nanos % 1000 = 0) (httl : ttl % 1000 = 0) :
    Mirrors (renewAcceleratorLease m a w token ttl now).1
        (p.renewAcceleratorLease a w token ttl now).1 ∧
      (renewAcceleratorLease m a w token ttl now).2 =
        (p.renewAcceleratorLease a w token ttl now).2 := by
  simp only [renewAcceleratorLease, PostgresStore.renewAcceleratorLease,
    PostgresStore.lockAcceleratorLeaseFence_acceleratorLeases, h.leases]
  cases hl : m.leases.lookup a with
  | none => exact ⟨h, rfl⟩
  | some l =>
    by_cases hne : (l.workloadID ≠ w || l.fencingToken ≠ token) = true
    · simp only [Option.map_some, LeaseRow.of, hne, if_true]
      exact ⟨h, trivial⟩
    · simp only [Option.map_some, LeaseRow.of, hne, truncateMicrosecond_add hnow httl]
      refine ⟨h.of_leases a (fun a' => ?_) fun a' l' hl' => ?_, rfl⟩
      · simp only [lookup_insert_of, h.leases]
        split_ifs <;> rfl
      · rcases of_lookup_insert hl' with ⟨-, rfl⟩ | ⟨-, hl'⟩
        · simp only [GoTime.add, GoTime.utc]
          omega
        · exact h.micros a' l' hl'

theorem Mirrors.release (h : Mirrors m p) (a w : GoString) (token : Int64) :
    Mirrors (releaseAcceleratorLease m a w token).1 (p.releaseAcceleratorLease a w token).1 ∧
      (m.leases.lookup a ≠ none → (releaseAcceleratorLease m a w token).2 =
        (p.releaseAcceleratorLease a w token).2) := by
  simp only [releaseAcceleratorLease, PostgresStore.releaseAcceleratorLease,
    PostgresStore.lockAcceleratorLeaseFence_acceleratorLeases, h.leases]
  cases hl : m.leases.lookup a with
  | none => exact ⟨h, fun hne => absurd rfl hne⟩
  | some l =>
    by_cases hne : (l.workloadID ≠ w || l.fencingToken ≠ token) = true
    · simp only [Option.map_some, LeaseRow.of, hne, if_true]
      exact ⟨h, fun _ => trivial⟩
    · simp only [Option.map_some, LeaseRow.of, hne]
      refine ⟨h.of_leases a (fun a' => ?_) fun a' l' hl' => ?_, fun _ => rfl⟩
      · simp only [lookup_erase_of, h.leases]
        split_ifs <;> rfl
      · rw [lookup_erase_of] at hl'
        split_ifs at hl' with hk
        exact h.micros a' l' hl'

theorem WellFormedRows.of_leases (hwf : WellFormedRows m) (leases : GoMap AcceleratorLease) :
    WellFormedRows { m with leases } :=
  ⟨hwf.displacements, hwf.checkpoints, hwf.counters⟩

theorem WellFormedRows.renew (hwf : WellFormedRows m) (a w : GoString) (token : Int64) (ttl : ℤ)
    (now : GoTime) : WellFormedRows (renewAcceleratorLease m a w token ttl now).1 := by
  rcases renewAcceleratorLease_cases m a w token ttl now with h | ⟨l, -, -, -, h⟩ <;> rw [h]
  · exact hwf
  · exact hwf.of_leases _

theorem WellFormedRows.release (hwf : WellFormedRows m) (a w : GoString) (token : Int64) :
    WellFormedRows (releaseAcceleratorLease m a w token).1 := by
  rcases releaseAcceleratorLease_cases m a w token with h | ⟨l, -, -, -, h⟩ <;> rw [h]
  · exact hwf
  · exact hwf.of_leases _

/-! ## Sequences of calls -/

/-- A lease call made on both stores, with the orders in which each scans. -/
inductive LeaseCall
  /-- `AcquireAcceleratorLease` when `opID` is empty, and
  `AcquireAcceleratorLeaseForCheckpointRecovery` for any `opID`. -/
  | acquire (a w opID : GoString) (ttl : ℤ) (now : GoTime) (o : ScanOrders) (rows : RowOrders)
  | renew (a w : GoString) (token : Int64) (ttl : ℤ) (now : GoTime)
  | release (a w : GoString) (token : Int64)

namespace LeaseCall

def WholeClock : LeaseCall → Prop
  | acquire _ _ _ _ now _ _ | renew _ _ _ _ now => now.nanos % 1000 = 0
  | release .. => True

/-- The lease is asked for in whole microseconds. -/
def WholeTTL : LeaseCall → Prop
  | acquire _ _ _ ttl _ _ _ | renew _ _ _ ttl _ => ttl % 1000 = 0
  | release .. => True

end LeaseCall

/-- The call on both stores, the transaction of the one being committed. The two clock reads of its
acquire give the same time: the memory store has one time for the lease and the continued row. -/
def BothStep (s : MemoryStore × PostgresStore) (c : LeaseCall) (s' : MemoryStore × PostgresStore) :
    Prop :=
  match c with
  | .acquire a w opID ttl now o rows => o.Of s.1 ∧ rows.Of s.2 ∧
      s'.1 = (acquireAcceleratorLease s.1 a w opID ttl now o).1 ∧
      ∃ lease granted, s.2.acquireAcceleratorLease a w opID ttl now now rows =
        .ok (s'.2, lease, granted)
  | .renew a w token ttl now => s'.1 = (renewAcceleratorLease s.1 a w token ttl now).1 ∧
      s'.2 = (s.2.renewAcceleratorLease a w token ttl now).1
  | .release a w token => s'.1 = (releaseAcceleratorLease s.1 a w token).1 ∧
      s'.2 = (s.2.releaseAcceleratorLease a w token).1

/-- An acquire is granted by both stores or by neither; the tokens agree if it is granted, or if
both scan in the same order. A renewal returns the same, and so does the release of a lease that is
there. -/
def SameReply (t : Transition (MemoryStore × PostgresStore) LeaseCall) : Prop :=
  match t.label with
  | .acquire a w opID ttl now o rows => ∀ p' lease granted,
      t.pre.2.acquireAcceleratorLease a w opID ttl now now rows = .ok (p', lease, granted) →
      let r := acquireAcceleratorLease t.pre.1 a w opID ttl now o
      r.2.2 = granted ∧ (granted = true ∨ o = rows.scan → r.2.1.fencingToken = lease.fencingToken)
  | .renew a w token ttl now => (renewAcceleratorLease t.pre.1 a w token ttl now).2 =
      (t.pre.2.renewAcceleratorLease a w token ttl now).2
  | .release a w token => t.pre.1.leases.lookup a ≠ none →
      (releaseAcceleratorLease t.pre.1 a w token).2 = (t.pre.2.releaseAcceleratorLease a w token).2

theorem BothStep.mirrors {s s' : MemoryStore × PostgresStore} {c : LeaseCall} (hs : BothStep s c s')
    (h : Mirrors s.1 s.2) (hwf : WellFormedRows s.1) (hclock : c.WholeClock) (httl : c.WholeTTL) :
    (Mirrors s'.1 s'.2 ∧ WellFormedRows s'.1) ∧ SameReply ⟨s, c, s'⟩ := by
  obtain ⟨m, p⟩ := s
  obtain ⟨m', p'⟩ := s'
  cases c with
  | acquire a w opID ttl now o rows =>
    obtain ⟨ho, hrows, rfl, lease, granted, hp⟩ := hs
    obtain ⟨⟨hgranted, htoken⟩, hm, hw⟩ := h.acquire_scan hwf hrows hclock httl hp
    -- The memory store may scan in another order than the rows come in.
    obtain ⟨hdecision, hstore, hlease⟩ :
        let r := acquireAcceleratorLease m a w opID ttl now o
        let r' := acquireAcceleratorLease m a w opID ttl now rows.scan
        r.2.2 = r'.2.2 ∧ r.1 = r'.1 ∧ (r.2.2 = true → r.2.1 = r'.2.1) :=
      acquire_order_irrelevant ho (h.scan_of hrows).1 ttl
    refine ⟨?_, fun p'' lease' granted' hp' => ?_⟩
    · rw [hstore]
      exact ⟨hm, hw⟩
    · obtain ⟨rfl, rfl, rfl⟩ : p' = p'' ∧ lease = lease' ∧ granted = granted' := by
        simpa using hp.symm.trans hp'
      refine ⟨hdecision.trans hgranted, ?_⟩
      rintro (hg | rfl)
      · rw [hlease (hdecision.trans (hgranted.trans hg))]
        exact htoken
      · exact htoken
  | renew a w token ttl now =>
    obtain ⟨rfl, rfl⟩ := hs
    obtain ⟨hm, hreply⟩ := h.renew a w token hclock httl
    exact ⟨⟨hm, hwf.renew a w token ttl now⟩, hreply⟩
  | release a w token =>
    obtain ⟨rfl, rfl⟩ := hs
    obtain ⟨hm, hreply⟩ := h.release a w token
    exact ⟨⟨hm, hwf.release a w token⟩, hreply⟩

/-- **The memory store and the Postgres store agree on leases**: from the same well-formed rows,
with times in whole microseconds, every call is answered alike and leaves the same rows. -/
theorem postgres_agrees_with_memory {m₀ m : MemoryStore} {p₀ p : PostgresStore}
    {tr : List (Transition (MemoryStore × PostgresStore) LeaseCall)}
    (h : Run BothStep (m₀, p₀) tr (m, p)) (hrows : Mirrors m₀ p₀) (hwf : WellFormedRows m₀)
    (hclock : ∀ t ∈ tr, t.label.WholeClock) (httl : ∀ t ∈ tr, t.label.WholeTTL) :
    Mirrors m p ∧ ∀ t ∈ tr, SameReply t := by
  obtain ⟨⟨hm, -⟩, hreplies⟩ := h.observe_of
    (I := fun s => Mirrors s.1 s.2 ∧ WellFormedRows s.1)
    (C := fun t => t.label.WholeClock ∧ t.label.WholeTTL) (O := SameReply)
    (fun t ht => ⟨hclock t ht, httl t ht⟩) ⟨hrows, hwf⟩
    fun s c s' hs hstep hc => hstep.mirrors hs.1 hs.2 hc.1 hc.2
  exact ⟨hm, hreplies⟩

/-! ## Leases of less than a microsecond -/

def twoWorkloads : PostgresStore :=
  { workloads := (AList.insert (ofString "w1") {} ∅).insert (ofString "w2") {} }

/-- An acquire for the workload on both stores, each scanning in its own order. -/
def acquireBoth (w : GoString) (ttl : ℤ) (s : MemoryStore × PostgresStore) : LeaseCall :=
  .acquire "gpu" w [] ttl ⟨10 ^ 9, 0⟩ (.ofStore s.1) (.ofStore s.2)

def afterBoth (w : GoString) (ttl : ℤ) (s : MemoryStore × PostgresStore) :
    MemoryStore × PostgresStore :=
  ((acquireAcceleratorLease s.1 "gpu" w [] ttl ⟨10 ^ 9, 0⟩ (.ofStore s.1)).1,
    match s.2.acquireAcceleratorLease "gpu" w [] ttl ⟨10 ^ 9, 0⟩ ⟨10 ^ 9, 0⟩ (.ofStore s.2) with
    | .ok r => r.1
    | .error _ => s.2)

/-- Both workloads ask for the accelerator, one after the other at the same instant. -/
def askBoth (ttl : ℤ) : List (Transition (MemoryStore × PostgresStore) LeaseCall) :=
  let s₀ := (newMemoryStore, twoWorkloads)
  let s₁ := afterBoth "w1" ttl s₀
  [⟨s₀, acquireBoth "w1" ttl s₀, s₁⟩, ⟨s₁, acquireBoth "w2" ttl s₁, afterBoth "w2" ttl s₁⟩]

theorem mirrors_twoWorkloads : Mirrors newMemoryStore twoWorkloads :=
  ⟨fun _ => rfl, fun _ _ h => (nomatch h), fun _ => rfl, fun _ => rfl, fun _ => rfl⟩

theorem wellFormedRows_newMemoryStore : WellFormedRows newMemoryStore :=
  ⟨fun _ _ h => (nomatch h), fun _ _ h => (nomatch h), fun _ => le_rfl⟩

theorem bothStep_acquireBoth {w : GoString} {ttl : ℤ} {s : MemoryStore × PostgresStore}
    (h : (s.2.acquireAcceleratorLease "gpu" w [] ttl ⟨10 ^ 9, 0⟩ ⟨10 ^ 9, 0⟩
      (.ofStore s.2)).toOption.isSome = true) :
    BothStep s (acquireBoth w ttl s) (afterBoth w ttl s) := by
  refine ⟨ScanOrders.of_ofStore _, ⟨rangeOrder_entries _, rangeOrder_entries _⟩, rfl, ?_⟩
  simp only [afterBoth]
  cases hr : s.2.acquireAcceleratorLease "gpu" w [] ttl ⟨10 ^ 9, 0⟩ ⟨10 ^ 9, 0⟩ (.ofStore s.2) with
  | ok r => exact ⟨r.2.1, r.2.2, rfl⟩
  | error e =>
    rw [hr] at h
    cases h

theorem run_askBoth_minute : Run BothStep (newMemoryStore, twoWorkloads) (askBoth (60 * 10 ^ 9))
    (afterBoth "w2" (60 * 10 ^ 9) (afterBoth "w1" (60 * 10 ^ 9) (newMemoryStore, twoWorkloads))) :=
  (Run.nil.snoc (bothStep_acquireBoth (by decide))).snoc (bothStep_acquireBoth (by decide))

/-- For a lease of a minute the second workload is refused by both stores. -/
theorem askBoth_minute_agrees :
    Mirrors newMemoryStore twoWorkloads ∧ ∀ t ∈ askBoth (60 * 10 ^ 9), SameReply t := by
  refine ⟨mirrors_twoWorkloads, (postgres_agrees_with_memory run_askBoth_minute
    mirrors_twoWorkloads wellFormedRows_newMemoryStore ?_ ?_).2⟩
  · simp [askBoth, acquireBoth, LeaseCall.WholeClock]
  · simp [askBoth, acquireBoth, LeaseCall.WholeTTL]

theorem run_askBoth_short : Run BothStep (newMemoryStore, twoWorkloads) (askBoth 500)
    (afterBoth "w2" 500 (afterBoth "w1" 500 (newMemoryStore, twoWorkloads))) :=
  (Run.nil.snoc (bothStep_acquireBoth (by decide))).snoc (bothStep_acquireBoth (by decide))

/-- A lease of half a microsecond keeps the second workload out of the memory store only. -/
theorem askBoth_short_diverges :
    Mirrors newMemoryStore twoWorkloads ∧ WellFormedRows newMemoryStore ∧
    Run BothStep (newMemoryStore, twoWorkloads) (askBoth 500)
      (afterBoth "w2" 500 (afterBoth "w1" 500 (newMemoryStore, twoWorkloads))) ∧
    (∀ t ∈ askBoth 500, t.label.WholeClock) ∧ ∃ t ∈ askBoth 500, ¬ SameReply t := by
  refine ⟨mirrors_twoWorkloads, wellFormedRows_newMemoryStore, run_askBoth_short,
    by simp [askBoth, acquireBoth, LeaseCall.WholeClock], _, List.mem_cons_of_mem _
      (List.mem_singleton.2 rfl), fun h => ?_⟩
  have hrefused : (acquireAcceleratorLease (afterBoth "w1" 500 (newMemoryStore, twoWorkloads)).1
      "gpu" "w2" [] 500 ⟨10 ^ 9, 0⟩ (.ofStore
        (afterBoth "w1" 500 (newMemoryStore, twoWorkloads)).1)).2.2 = false := by decide
  have hgranted := (h _ _ true rfl).1
  cases hgranted

end VramGovernor.Store
