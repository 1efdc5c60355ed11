import VramGovernor.Store.CleanupIntents
import VramGovernor.Workloads.LeaseCleanup

/-!
# What a rollback leaves behind

A rollback that cannot release its lease is to leave a durable intent, from which the release is
retried. Here the calls of one rollback are run one after another (`Rollback.run`), each answered by
the store or by a failure of its own. When the release failed, the last call records the intent that
`Rollback.continuation` makes of the error. The intent made from a prepared one passes the
validator, since the error text is cut. The intent made without one carries the text as it is:
`rollback_recorded_iff` says when that is too much.
-/

namespace VramGovernor.Workloads

open GoString Store

def HoldsLease (st : MemoryStore) (acceleratorID workloadID : GoString) (token : Int64) : Prop :=
  ∃ l, st.leases.lookup acceleratorID = some l ∧ l.workloadID = workloadID ∧ l.fencingToken = token

def IntentStored (st : MemoryStore) (acceleratorID owner : GoString) (token : Int64) : Prop :=
  ∃ key i, st.leaseCleanupIntents.lookup key = some i ∧
    i.acceleratorID = acceleratorID ∧ i.owner = owner ∧ i.fencingToken = token

variable {st : MemoryStore} {i : AcceleratorLeaseCleanupIntent} {a w : GoString} {token : Int64}

/-! ## Recording -/

/-- After recording, the lease has an intent if it had one before or the new one is accepted. -/
theorem intentStored_record (ha : i.acceleratorID = a) (hw : i.owner = w)
    (ht : i.fencingToken = token) (now : GoTime) :
    IntentStored (recordAcceleratorLeaseCleanupIntent st i now).1 a w token ↔
      IntentStored st a w token ∨ Recordable st i := by
  rcases recordAcceleratorLeaseCleanupIntent_cases st i now with
    ⟨hno, e, h⟩ | ⟨hyes, stored, h, hcase⟩
  · rw [h]
    simp [hno]
  · refine iff_of_true ?_ (.inr hyes)
    have hstored : stored.acceleratorID = a ∧ stored.owner = w ∧ stored.fencingToken = token := by
      rcases hcase with ⟨-, rfl⟩ | ⟨existing, -, -, rfl⟩ <;> exact ⟨ha, hw, ht⟩
    rw [h]
    exact ⟨_, stored, AList.lookup_insert _, hstored⟩

/-- An intent with its error cut to size and its attempts counted up stays valid. -/
theorem intentValid_scheduleRetry (h : IntentValid i) (e : GoError) (now : GoTime) :
    IntentValid (scheduleLeaseCleanupRetry i (some e) now) := by
  obtain ⟨ha, ho, ht, hatt, -, hc, hord, hterm, hp, hs⟩ := h
  refine ⟨ha, ho, ht, ?_, ?_, hc, hord, hterm, hp, hs⟩
  · simp only [scheduleLeaseCleanupRetry]
    omega
  · exact List.length_take_le ..

theorem intentValid_setError (h : IntentValid i) (e : GoError) :
    IntentValid { i with lastError := e.text.take 512 } := by
  obtain ⟨ha, ho, ht, hatt, -, hc, hord, hterm, hp, hs⟩ := h
  exact ⟨ha, ho, ht, hatt, List.length_take_le .., hc, hord, hterm, hp, hs⟩

/-- The intent made at the first failure passes the validator if its error text is short enough. -/
theorem intentValid_ordinaryIntent {lease : AcceleratorLease} {owner : GoString} {e : GoError}
    {now : GoTime} :
    IntentValid (ordinaryIntent lease owner e now) ↔
      lease.acceleratorID ≠ [] ∧ owner ≠ [] ∧ 0 < lease.fencingToken ∧ e.text.length ≤ 512 := by
  constructor
  · intro h
    exact ⟨h.accelerator, h.owner, h.token, h.error_length⟩
  · rintro ⟨ha, ho, ht, he⟩
    exact ⟨ha, ho, ht, le_rfl, he, by simp [ordinaryIntent], fun _ => ⟨rfl, rfl, rfl⟩,
      fun h => absurd rfl h, by simp [ordinaryIntent],
      by simp [ordinaryIntent, sideEffectPublished]⟩

namespace Rollback

variable (rb : Rollback) (faults : RollbackStage → Fault) (clock : RollbackStage → GoTime)
  {r : MemoryStore × (RollbackStage ⊕ Option GoError)}

/-- The prepared intent, if there is one, is a valid intent for the lease of the rollback. -/
def Prepared : Prop :=
  ∀ i, rb.terminal = some i → IntentValid i ∧ i.acceleratorID = rb.lease.acceleratorID ∧
    i.owner = rb.owner ∧ i.fencingToken = rb.lease.fencingToken

/-- The intent of the error is accepted: without a prepared one the lease is named in full and the
text fits, and nothing else is stored under the key. -/
def Accepted (st : MemoryStore) (e : GoError) (now : GoTime) : Prop :=
  (rb.terminal = none → rb.lease.acceleratorID ≠ [] ∧ rb.owner ≠ [] ∧ 0 < rb.lease.fencingToken ∧
    e.text.length ≤ 512) ∧
  ∀ existing, st.leaseCleanupIntents.lookup (leaseCleanupRecordKey (rb.continuation e now)) =
    some existing → sameContinuation existing (rb.continuation e now) = true

variable {rb}

theorem Prepared.continuation_lease (h : rb.Prepared) (e : GoError) (now : GoTime) :
    (rb.continuation e now).acceleratorID = rb.lease.acceleratorID ∧
      (rb.continuation e now).owner = rb.owner ∧
      (rb.continuation e now).fencingToken = rb.lease.fencingToken := by
  unfold continuation
  cases ht : rb.terminal with
  | none => exact ⟨rfl, rfl, rfl⟩
  | some i =>
    obtain ⟨-, hi⟩ := h i ht
    split_ifs <;> exact hi

theorem Prepared.recordable_iff (h : rb.Prepared) (e : GoError) (now : GoTime) :
    Recordable st (rb.continuation e now) ↔ rb.Accepted st e now := by
  refine and_congr_left fun _ => ?_
  cases ht : rb.terminal with
  | none => simp only [continuation, ht, intentValid_ordinaryIntent, true_imp_iff]
  | some i =>
    obtain ⟨hi, -⟩ := h i ht
    refine iff_of_true ?_ (by simp)
    simp only [continuation, ht]
    split_ifs
    · exact intentValid_setError hi e
    · exact intentValid_scheduleRetry hi e now

/-! ## The calls, one after another -/

variable (rb)

def next : MemoryStore × (RollbackStage ⊕ Option GoError) →
    MemoryStore × (RollbackStage ⊕ Option GoError)
  | (st, .inl stage) => rb.step st (faults stage) (clock stage) stage
  | (st, .inr err) => (st, .inr err)

/-- `rollbackAcceleratorLeaseWithIntentMode`: the release, the read after `ErrNotFound`, and the
fate of the intent. -/
def run (st : MemoryStore) : MemoryStore × (RollbackStage ⊕ Option GoError) :=
  rb.next faults clock (rb.next faults clock (rb.next faults clock (st, .inl .release)))

/-- The error that the rollback records when the release fails with `e` and leaves the lease. -/
def failure (e : GoError) : GoError :=
  if e.is errNotFound then
    match faults .verify with
    | .none => ⟨"fenced accelerator lease belongs to another live owner", none⟩
    | .before e' | .after e' =>
      ⟨"verify absent accelerator lease after fenced release: " ++ e'.text, e'.wraps⟩
  else e

/-- `ErrNotFound` is not answered for a lease that is there, by the read or by the release of an
expired one. -/
structure Truthful (st : MemoryStore) : Prop where
  release : ∀ e l, faults .release = .before e → e.is errNotFound = true →
    st.leases.lookup rb.lease.acceleratorID = some l → l.workloadID = rb.owner →
    l.fencingToken = rb.lease.fencingToken → l.expiresAt.after (clock .verify).utc = true
  read : ∀ e, faults .verify = .before e ∨ faults .verify = .after e → e.is errNotFound = false

theorem step_ne_release (st : MemoryStore) (fault : Fault) (now : GoTime) (stage : RollbackStage) :
    (rb.step st fault now stage).2 ≠ .inl .release := by
  intro h
  have hresult := rb.step_result st fault now stage
  rw [h] at hresult
  generalize rb.confirms st fault now stage = confirms at hresult
  cases hresult

theorem next_leases (hr : r.2 ≠ .inl .release) : (rb.next faults clock r).1.leases = r.1.leases ∧
      (rb.next faults clock r).2 ≠ .inl .release := by
  obtain ⟨st, stage | err⟩ := r
  · exact ⟨rb.step_leases _ _ _ fun h => hr (by rw [h]), rb.step_ne_release _ _ _ _⟩
  · exact ⟨rfl, hr⟩

/-- The release decides which lease is left. -/
theorem run_leases (st : MemoryStore) : (rb.run faults clock st).1.leases =
      (rb.step st (faults .release) (clock .release) .release).1.leases := by
  obtain ⟨h₁, hs₁⟩ := rb.next_leases faults clock (rb.step_ne_release st _ _ .release)
  obtain ⟨h₂, -⟩ := rb.next_leases faults clock hs₁
  exact h₂.trans h₁

/-- A release that takes effect leaves the lease with nobody of that name and token. -/
theorem not_holdsLease_release (st : MemoryStore) (a w : GoString) (token : Int64) :
    ¬ HoldsLease (releaseAcceleratorLease st a w token).1 a w token := by
  rintro ⟨l, hl, rfl, rfl⟩
  unfold releaseAcceleratorLease at hl
  cases hst : st.leases.lookup a with
  | none => simp [hst] at hl
  | some lease =>
    simp only [hst] at hl
    split_ifs at hl with hne
    · obtain rfl : lease = l := by simpa [hst] using hl
      simp at hne
    · simp at hl

/-- The lease is still held only if the release failed before it took effect. -/
theorem holdsLease_run (st : MemoryStore) :
    HoldsLease (rb.run faults clock st).1 rb.lease.acceleratorID rb.owner rb.lease.fencingToken ↔
      (∃ e, faults .release = .before e) ∧
        HoldsLease st rb.lease.acceleratorID rb.owner rb.lease.fencingToken := by
  have hrelease := not_holdsLease_release st rb.lease.acceleratorID rb.owner rb.lease.fencingToken
  have hfst : (rb.step st (faults .release) (clock .release) .release).1 =
      ((faults .release).call st fun st =>
        releaseAcceleratorLease st rb.lease.acceleratorID rb.owner rb.lease.fencingToken).1 := by
    simp only [step]
    split <;> next he => rw [he]
  unfold HoldsLease at hrelease ⊢
  rw [run_leases, hfst]
  cases hf : faults .release with
  | none | after e => exact iff_of_false hrelease (by simp)
  | before e => simp [Fault.call]

theorem step_persist_returns (st : MemoryStore) (fault : Fault) (now : GoTime) (e : GoError) :
    ∃ err, (rb.step st fault now (.persist e)).2 = .inr err := by
  simp only [step]
  split <;> exact ⟨_, rfl⟩

theorem next_of_returned (hr : ∃ err, r.2 = .inr err) : rb.next faults clock r = r := by
  obtain ⟨st, stage | err⟩ := r
  · simp at hr
  · rfl

theorem next_returns (hr : r.2 ≠ .inl .release) (hv : r.2 ≠ .inl .verify) :
    ∃ err, (rb.next faults clock r).2 = .inr err := by
  obtain ⟨st, stage | err⟩ := r
  · cases stage with
    | release => exact absurd rfl hr
    | verify => exact absurd rfl hv
    | forget => exact ⟨none, rfl⟩
    | persist e => exact rb.step_persist_returns ..
  · exact ⟨err, rfl⟩

theorem run_returns (st : MemoryStore) : ∃ err, (rb.run faults clock st).2 = .inr err := by
  have hsecond : ∀ r : MemoryStore × (RollbackStage ⊕ Option GoError), r.2 ≠ .inl .release →
      (rb.next faults clock r).2 ≠ .inl .release ∧ (rb.next faults clock r).2 ≠ .inl .verify := by
    rintro ⟨st, stage | err⟩ hr
    · refine ⟨rb.step_ne_release _ _ _ _, fun h => ?_⟩
      -- only the release is followed by the read
      have hresult := rb.step_result st (faults stage) (clock stage) stage
      rw [show (rb.step st (faults stage) (clock stage) stage).2 = .inl .verify from h] at hresult
      generalize rb.confirms st _ _ stage = confirms at hresult
      cases hresult
      exact hr rfl
    · simp [next]
  obtain ⟨hr, hv⟩ := hsecond _ (rb.step_ne_release st (faults .release) (clock .release) .release)
  exact rb.next_returns faults clock hr hv

/-- After a release that failed and left the lease, the rollback records its failure. -/
theorem run_of_before {st : MemoryStore} {e : GoError} (htruth : rb.Truthful faults clock st)
    (hf : faults .release = .before e)
    (hheld : HoldsLease st rb.lease.acceleratorID rb.owner rb.lease.fencingToken) :
    rb.run faults clock st = rb.step st (faults (.persist (failure faults e)))
      (clock (.persist (failure faults e))) (.persist (failure faults e)) := by
  obtain ⟨l, hl, hw, ht⟩ := hheld
  have hfirst : rb.next faults clock (st, .inl .release) =
      (st, .inl (if e.is errNotFound then .verify else .persist e)) := by
    simp only [next, step, hf, Fault.call]
  by_cases hnf : e.is errNotFound = true
  · -- the read finds the lease, which is live, or fails
    have hlive := htruth.release e l hf hnf hl hw ht
    have hsecond : rb.next faults clock (st, .inl .verify) =
        (st, .inl (.persist (failure faults e))) := by
      simp only [next, step, failure, hnf, if_true]
      cases hv : faults .verify with
      | none => simp [Fault.call, getAcceleratorLease, hl, hlive]
      | before e' => simp [Fault.call, htruth.read e' (.inl hv)]
      | after e' => simp [Fault.call, htruth.read e' (.inr hv)]
    rw [run, hfirst, if_pos hnf, hsecond]
    rfl
  · have hfail : failure faults e = e := if_neg hnf
    rw [run, hfirst, if_neg hnf, hfail]
    exact rb.next_of_returned faults clock (rb.step_persist_returns ..)

/-- After a failed release a lease that is left has an intent, if it had one or the record of the
failure is accepted. -/
theorem intentStored_run_of_before {st : MemoryStore} {e : GoError} (hprep : rb.Prepared)
    (htruth : rb.Truthful faults clock st) (hwrite : ∀ e, faults (.persist e) = .none)
    (hf : faults .release = .before e)
    (hheld : HoldsLease st rb.lease.acceleratorID rb.owner rb.lease.fencingToken) :
    IntentStored (rb.run faults clock st).1 rb.lease.acceleratorID rb.owner
        rb.lease.fencingToken ↔
      IntentStored st rb.lease.acceleratorID rb.owner rb.lease.fencingToken ∨
        rb.Accepted st (failure faults e) (clock (.persist (failure faults e))) := by
  have hstep : (rb.run faults clock st).1 = (recordAcceleratorLeaseCleanupIntent st
      (rb.continuation (failure faults e) (clock (.persist (failure faults e))))
      (clock (.persist (failure faults e)))).1 := by
    rw [rb.run_of_before faults clock htruth hf hheld, hwrite]
    simp only [step, Fault.call]
    split <;> next he => rw [he]
  obtain ⟨ha, hw, ht⟩ := hprep.continuation_lease (failure faults e)
    (clock (.persist (failure faults e)))
  rw [hstep, intentStored_record ha hw ht, hprep.recordable_iff]

end Rollback

open Rollback in
/-- **A failed release leaves a record, unless its record is refused**: the lease is gone or has an
intent exactly if the release took effect, an intent was stored before, or the one made from the
failure is accepted. -/
theorem rollback_recorded_iff (rb : Rollback) (faults : RollbackStage → Fault)
    (clock : RollbackStage → GoTime) (st : MemoryStore) (hprep : rb.Prepared)
    (htruth : rb.Truthful faults clock st) (hwrite : ∀ e, faults (.persist e) = .none) :
    (∃ err, (rb.run faults clock st).2 = .inr err) ∧
    ((¬ HoldsLease (rb.run faults clock st).1 rb.lease.acceleratorID rb.owner
          rb.lease.fencingToken ∨
        IntentStored (rb.run faults clock st).1 rb.lease.acceleratorID rb.owner
          rb.lease.fencingToken) ↔
      ∀ e, faults .release = .before e →
        HoldsLease st rb.lease.acceleratorID rb.owner rb.lease.fencingToken →
        IntentStored st rb.lease.acceleratorID rb.owner rb.lease.fencingToken ∨
          rb.Accepted st (failure faults e) (clock (.persist (failure faults e)))) := by
  refine ⟨rb.run_returns faults clock st, ?_⟩
  have hholds := rb.holdsLease_run faults clock st
  by_cases hleft : (∃ e, faults .release = .before e) ∧
      HoldsLease st rb.lease.acceleratorID rb.owner rb.lease.fencingToken
  · obtain ⟨⟨e, hf⟩, hheld⟩ := hleft
    rw [rb.intentStored_run_of_before faults clock hprep htruth hwrite hf hheld, hholds]
    simp only [hf, Fault.before.injEq, exists_eq', hheld, and_self, not_true_eq_false, false_or,
      forall_eq', true_imp_iff]
  · have hgone := fun h => hleft (hholds.1 h)
    exact iff_of_true (.inl hgone) fun e he hheld => absurd ⟨⟨e, he⟩, hheld⟩ hleft

/-! ## A lease without a record -/

/-- The lease of `w`, granted by a fresh store. -/
def heldStore : MemoryStore :=
  Store.afterScript newMemoryStore
    [fun m => .acquire "gpu" "w" [] (60 * 10 ^ 9) ⟨0, 0⟩ (.ofStore m)]

/-- The rollback of that lease, as an admission makes it: without a prepared intent. -/
def heldRollback : Rollback := { lease := ⟨"gpu", "w", 1, ⟨60 * 10 ^ 9, 0⟩⟩, owner := "w" }

def errorOfLength (n : ℕ) : GoError := ⟨List.replicate n 120, none⟩

/-- The release fails with such an error, and leaves the lease. -/
def failsWith (n : ℕ) : RollbackStage → Fault
  | .release => .before (errorOfLength n)
  | _ => .none

theorem heldRollback_prepared : heldRollback.Prepared := by
  simp [Rollback.Prepared, heldRollback]

theorem heldRollback_truthful (n : ℕ) :
    heldRollback.Truthful (failsWith n) (fun _ => ⟨10 ^ 9, 0⟩) heldStore := by
  refine ⟨fun e l he hnf _ _ _ => ?_, fun e h => by simp [failsWith] at h⟩
  obtain rfl : errorOfLength n = e := by simpa [failsWith] using he
  simp [GoError.is, errorOfLength] at hnf

theorem heldStore_holds : HoldsLease heldStore "gpu" "w" 1 :=
  ⟨⟨"gpu", "w", 1, ⟨60 * 10 ^ 9, 0⟩⟩, by decide, rfl, rfl⟩

theorem heldStore_intents : heldStore.leaseCleanupIntents = ∅ := rfl

theorem heldRollback_accepted (n : ℕ) :
    heldRollback.Accepted heldStore (Rollback.failure (failsWith n) (errorOfLength n))
      ⟨10 ^ 9, 0⟩ ↔ n ≤ 512 := by
  have hfail : Rollback.failure (failsWith n) (errorOfLength n) = errorOfLength n := rfl
  rw [hfail, Rollback.Accepted, heldStore_intents]
  simp [errorOfLength, heldRollback, show ofString "gpu" ≠ [] by decide,
    show ofString "w" ≠ [] by decide, show (0 : Int64) < 1 by decide]

/-- At the length that the validator allows, the failed release is recorded. -/
theorem rollback_recorded_short_error :
    IntentStored (heldRollback.run (failsWith 512) (fun _ => ⟨10 ^ 9, 0⟩) heldStore).1
      "gpu" "w" 1 := by
  have hheld := (heldRollback.holdsLease_run (failsWith 512) (fun _ => ⟨10 ^ 9, 0⟩) heldStore).2
    ⟨⟨_, rfl⟩, heldStore_holds⟩
  refine ((rollback_recorded_iff heldRollback (failsWith 512) (fun _ => ⟨10 ^ 9, 0⟩) heldStore
    heldRollback_prepared (heldRollback_truthful 512) fun _ => rfl).2.2 ?_).resolve_left
      (not_not_intro hheld)
  rintro e he -
  obtain rfl : errorOfLength 512 = e := Fault.before.inj he
  exact .inr ((heldRollback_accepted 512).2 le_rfl)

/-- One byte more, and the lease is still held with nothing recorded. -/
theorem rollback_long_error_unrecorded :
    let r := heldRollback.run (failsWith 513) (fun _ => ⟨10 ^ 9, 0⟩) heldStore
    HoldsLease r.1 "gpu" "w" 1 ∧ ¬ IntentStored r.1 "gpu" "w" 1 := by
  refine ⟨(heldRollback.holdsLease_run (failsWith 513) _ heldStore).2 ⟨⟨_, rfl⟩, heldStore_holds⟩,
    fun h => ?_⟩
  rcases (heldRollback.intentStored_run_of_before (failsWith 513) _ heldRollback_prepared
    (heldRollback_truthful 513) (fun _ => rfl) rfl heldStore_holds).1 h with
    ⟨key, i, hi, -⟩ | hacc
  · simp [heldStore_intents] at hi
  · have hlen := (heldRollback_accepted 513).1 hacc
    omega

end VramGovernor.Workloads
