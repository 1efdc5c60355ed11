import VramGovernor.Store.MemoryRun

/-!
# Admission against unresolved cleanups

A checkpoint row whose cleanup is unresolved keeps its accelerator from being leased, except to the
recovery that names the row. The acquire looks for the named row first and for blocking rows second,
both times in the unspecified order of a map. By `acquire_admission` the decision, the token and the
store it leaves do not depend on the orders, and the row that is continued becomes pending under the
new token in the same step. A recovery that names no armed row is decided as an ordinary acquire.
-/

namespace VramGovernor.Store

open GoString

variable {m : MemoryStore} {a w opID : GoString} {now : GoTime} {o o' : ScanOrders}

theorem Grantable.eq_none_of_nil {r : Option (GoMap.Entry LLMCheckpointOperation)}
    (h : Grantable m a w [] now r) : r = none := by
  cases r with
  | none => rfl
  | some e =>
    have ha := (h.armed e rfl).2
    simp [armedFor] at ha

theorem Grantable.unresolved_eq_false (h : Grantable m a w opID now none) {k : GoString}
    {row : LLMCheckpointOperation} (hk : m.llmCheckpointOps.lookup k = some row) :
    unresolvedCleanup a row = false := by
  by_contra hne
  rw [Bool.not_eq_false] at hne
  cases h.onlyBlocker k row hk hne

theorem recoveryEntry_eq_none (ho : o.Of m) (hunarmed : ∀ k row,
    m.llmCheckpointOps.lookup k = some row → armedFor a w opID row = false) :
    recoveryEntry a w opID o = none := by
  by_contra hne
  obtain ⟨e, he⟩ := Option.ne_none_iff_exists'.1 hne
  obtain ⟨hk, harmed⟩ := recoveryEntry_eq_some ho he
  rw [hunarmed e.1 e.2 hk] at harmed
  cases harmed

/-- A recovery without an armed row is an ordinary acquire. -/
theorem acquire_unarmed (ho : o.Of m) (ttl : ℤ) (hunarmed : ∀ k row,
    m.llmCheckpointOps.lookup k = some row → armedFor a w opID row = false) :
    acquireAcceleratorLease m a w opID ttl now o = acquireAcceleratorLease m a w [] ttl now o := by
  have hnone := recoveryEntry_eq_none ho hunarmed
  have hordinary : recoveryEntry a w [] o = none :=
    recoveryEntry_eq_none ho fun _ _ _ => by simp [armedFor]
  simp only [acquireAcceleratorLease, refusal, hnone, hordinary]
  rfl

theorem grantable_of_granted (ho : o.Of m) {ttl : ℤ}
    (hg : (acquireAcceleratorLease m a w opID ttl now o).2.2 = true) :
    ∃ r, Grantable m a w opID now.utc r := by
  rcases acquireAcceleratorLease_cases ho a w opID ttl now with ⟨l, hl⟩ | ⟨r, hr, -⟩
  · rw [hl] at hg
    cases hg
  · exact ⟨r, hr⟩

/-- **The orders of the scans do not matter** to the decision, the store and a lease that is
granted. -/
theorem acquire_order_irrelevant (ho : o.Of m) (ho' : o'.Of m) (ttl : ℤ) :
    let r := acquireAcceleratorLease m a w opID ttl now o
    let r' := acquireAcceleratorLease m a w opID ttl now o'
    r.2.2 = r'.2.2 ∧ r.1 = r'.1 ∧ (r.2.2 = true → r.2.1 = r'.2.1) := by
  intro r r'
  rcases acquireAcceleratorLease_cases ho a w opID ttl now with ⟨l, hl⟩ | ⟨rec, hr, hl⟩
  · rcases acquireAcceleratorLease_cases ho' a w opID ttl now with ⟨l', hl'⟩ | ⟨rec, hr, -⟩
    · simp [r, r', hl, hl']
    · rw [acquireAcceleratorLease_of_grantable ho ttl hr] at hl
      cases congrArg (·.2.2) hl
  · have hl' := acquireAcceleratorLease_of_grantable ho' ttl hr
    simp [r, r', hl, hl']

/-- **Admission of an acquire.** An ordinary one is granted only if no row has an unresolved cleanup
of the accelerator, a recovery only if no row but the one it continues has. Without an armed row, a
recovery is decided as an ordinary acquire, and a refusal changes nothing. Decision, token and store
do not depend on the orders of the scans. -/
theorem acquire_admission (m : MemoryStore) (a w opID : GoString) (ttl : ℤ) (now : GoTime) :
    (∀ o : ScanOrders, o.Of m → (acquireAcceleratorLease m a w [] ttl now o).2.2 = true →
      ∀ k row, m.llmCheckpointOps.lookup k = some row → unresolvedCleanup a row = false) ∧
    (∀ o : ScanOrders, o.Of m →
      let r := acquireAcceleratorLease m a w opID ttl now o
      r.2.2 = true →
        (∃ k row, m.llmCheckpointOps.lookup k = some row ∧ armedFor a w opID row = true ∧
          (∀ k' row', m.llmCheckpointOps.lookup k' = some row' →
            unresolvedCleanup a row' = true → k' = k) ∧
          (∃ row', r.1.llmCheckpointOps.lookup k = some row' ∧ row'.cleanupState = "pending" ∧
            row'.cleanupFence = r.2.1.fencingToken.toUInt64) ∧
          ∀ k', k' ≠ k → r.1.llmCheckpointOps.lookup k' = m.llmCheckpointOps.lookup k') ∨
        ((∀ k row, m.llmCheckpointOps.lookup k = some row → unresolvedCleanup a row = false) ∧
          r.1.llmCheckpointOps = m.llmCheckpointOps)) ∧
    (∀ o : ScanOrders, o.Of m →
      let r := acquireAcceleratorLease m a w opID ttl now o
      ((∀ k row, m.llmCheckpointOps.lookup k = some row → armedFor a w opID row = false) →
        r = acquireAcceleratorLease m a w [] ttl now o) ∧ (r.2.2 = false → r.1 = m)) ∧
    (∀ o o' : ScanOrders, o.Of m → o'.Of m →
      let r := acquireAcceleratorLease m a w opID ttl now o
      let r' := acquireAcceleratorLease m a w opID ttl now o'
      r.2.2 = r'.2.2 ∧ r.1 = r'.1 ∧ (r.2.2 = true → r.2.1 = r'.2.1)) := by
  refine ⟨?_, ?_, fun o ho => ⟨acquire_unarmed ho ttl, fun hrefused => ?_⟩,
    fun o o' ho ho' => acquire_order_irrelevant ho ho' ttl⟩
  · intro o ho hg k row hk
    obtain ⟨r, hr⟩ := grantable_of_granted ho hg
    obtain rfl := hr.eq_none_of_nil
    exact hr.unresolved_eq_false hk
  · intro o ho r hg
    obtain ⟨rec, hr⟩ := grantable_of_granted ho hg
    have hl : r = _ := acquireAcceleratorLease_of_grantable ho ttl hr
    cases rec with
    | some e =>
      obtain ⟨hk, harmed⟩ := hr.armed e rfl
      refine .inl ⟨e.1, e.2, hk, harmed, ?_, ?_, ?_⟩
      · intro k' row' hk' hu
        exact (Option.some.inj (hr.onlyBlocker k' row' hk' hu)).symm
      · rw [hl]
        exact ⟨_, AList.lookup_insert _, rfl, rfl⟩
      · intro k' hne
        rw [hl]
        exact AList.lookup_insert_ne hne
    | none => exact .inr ⟨fun k row hk => hr.unresolved_eq_false hk, by rw [hl]; rfl⟩
  · rcases acquireAcceleratorLease_cases ho a w opID ttl now with ⟨l, hl⟩ | ⟨r, hr, hl⟩
    · rw [hl]
    · rw [hl] at hrefused
      cases hrefused

/-- A recovery acquire that names an operation the store does not know is granted. -/
theorem unknown_recovery_granted : newMemoryStore.llmCheckpointOps.lookup (ofString "op") = none ∧
    (acquireAcceleratorLease newMemoryStore "gpu" "w" "op" 10 {} (.ofStore newMemoryStore)).2.2 =
      true := by
  decide

end VramGovernor.Store
