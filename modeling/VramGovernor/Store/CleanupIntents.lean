import VramGovernor.Store.MemoryRun

/-!
# Stored cleanup intents

An intent is stored under a key built from its lease and, for a terminal one, its workload.
Recording over a stored intent merges the two field by field, and the incoming one may be stale. The
merge of two valid intents that continue one disposition is valid (`IntentValid.merge`), and every
call deletes a row or moves it along the order `IntentProgress`: no flag is taken back, no attempt
forgotten, and the continuation stays the same.
-/

namespace VramGovernor.Store

open StoreCall

variable {i j k existing : AcceleratorLeaseCleanupIntent} {m m' : MemoryStore} {c : StoreCall}

/-! ## What the validator accepts -/

/-- The intents that `validateLeaseCleanupIntent` accepts. -/
structure IntentValid (i : AcceleratorLeaseCleanupIntent) : Prop where
  accelerator : i.acceleratorID ≠ []
  owner : i.owner ≠ []
  token : 0 < i.fencingToken
  attempts : 1 ≤ i.attempts
  error_length : i.lastError.length ≤ 512
  code_length : i.terminalErrorCode.length ≤ 128
  /-- An ordinary intent carries no continuation. -/
  ordinary : i.terminalDisposition = [] → i.workloadID = [] ∧ i.expectedWorkloadRevision = 0 ∧
    i.releaseConfirmed = false
  /-- A terminal intent carries a whole one. -/
  terminal : i.terminalDisposition ≠ [] → i.workloadID ≠ [] ∧ i.expectedWorkloadRevision ≠ 0 ∧
    i.terminalErrorCode ≠ [] ∧ (i.terminalDisposition = "success" ∨
      i.terminalDisposition = "failure" ∨ i.terminalDisposition = "cancel")
  /-- The terminal state is published after the release is confirmed. -/
  published : i.terminalPublished = true → i.releaseConfirmed = true
  /-- The side effects follow the terminal state. -/
  effects : sideEffectPublished i = true → i.terminalPublished = true

theorem validateLeaseCleanupIntent_eq_ok :
    validateLeaseCleanupIntent i = .ok () ↔ IntentValid i := by
  have himp : ∀ p q : Bool, (p && !q) = false ↔ (p = true → q = true) := by decide
  unfold validateLeaseCleanupIntent
  by_cases hd : i.terminalDisposition = []
  · simp only [hd, if_true, firstError_eq_ok, List.forall_mem_cons, List.not_mem_nil,
      IsEmpty.forall_iff, implies_true, and_true, Bool.or_eq_false_iff, decide_eq_false_iff_not,
      not_lt, Int64.not_le, not_not]
    constructor
    · rintro ⟨⟨⟨⟨ha, ho⟩, ht⟩, hn, he, hc⟩, ⟨⟨⟨hw, hr⟩, hf⟩, hp⟩, hs⟩
      exact ⟨ha, ho, ht, hn, he, hc, fun _ => ⟨hw, hr, hf⟩, fun h => absurd hd h,
        by simp [hp], by simp [hs]⟩
    · rintro ⟨ha, ho, ht, hn, he, hc, hord, -, hp, hs⟩
      obtain ⟨hw, hr, hf⟩ := hord hd
      have hp' : i.terminalPublished = false := by simpa [hf] using hp
      have hs' : sideEffectPublished i = false := by simpa [hp'] using hs
      exact ⟨⟨⟨⟨ha, ho⟩, ht⟩, hn, he, hc⟩, ⟨⟨⟨hw, hr⟩, hf⟩, hp'⟩, hs'⟩
  · simp only [hd, if_false, firstError_eq_ok, List.forall_mem_cons, List.not_mem_nil,
      IsEmpty.forall_iff, implies_true, and_true, Bool.or_eq_false_iff, himp,
      Bool.and_eq_false_iff, decide_eq_false_iff_not, not_lt, Int64.not_le, not_not, or_assoc]
    constructor
    · rintro ⟨⟨⟨⟨ha, ho⟩, ht⟩, hn, he, hc⟩, ⟨⟨hw, hr⟩, hcode⟩, hdisp, hp, hs⟩
      exact ⟨ha, ho, ht, hn, he, hc, fun h => absurd h hd, fun _ => ⟨hw, hr, hcode, hdisp⟩, hp, hs⟩
    · rintro ⟨ha, ho, ht, hn, he, hc, -, hterm, hp, hs⟩
      obtain ⟨hw, hr, hcode, hdisp⟩ := hterm hd
      exact ⟨⟨⟨⟨ha, ho⟩, ht⟩, hn, he, hc⟩, ⟨⟨hw, hr⟩, hcode⟩, hdisp, hp, hs⟩

theorem sameContinuation_iff : sameContinuation existing i = true ↔
    existing.workloadID = i.workloadID ∧
      existing.expectedWorkloadRevision = i.expectedWorkloadRevision ∧
      existing.terminalDisposition = i.terminalDisposition ∧
      existing.terminalErrorCode = i.terminalErrorCode := by
  simp [sameContinuation, and_assoc]

theorem IntentValid.withDefaults (h : IntentValid i) (now : GoTime) :
    IntentValid (withIntentDefaults i now) := by
  have hn : ¬ i.attempts ≤ 0 := by have := h.attempts; omega
  obtain ⟨ha, ho, ht, hatt, he, hc, hord, hterm, hp, hs⟩ := h
  exact ⟨ha, ho, ht, by simp [withIntentDefaults, hn, hatt], he, hc, hord, hterm, hp, hs⟩

theorem sideEffectPublished_mergeIntent : sideEffectPublished (mergeIntent existing i) =
      (sideEffectPublished existing || sideEffectPublished i) := by
  simp only [sideEffectPublished, mergeIntent]
  ac_rfl

/-- **The merge of two valid intents is valid** if they continue one disposition: each flag still
comes with those it rests on. -/
theorem IntentValid.merge (he : IntentValid existing) (hi : IntentValid i)
    (hsame : sameContinuation existing i = true) : IntentValid (mergeIntent existing i) := by
  obtain ⟨-, -, hdisp, -⟩ := sameContinuation_iff.1 hsame
  refine ⟨hi.accelerator, hi.owner, hi.token, hi.attempts.trans (le_max_left _ _),
    hi.error_length, hi.code_length, fun h => ?_, hi.terminal, fun h => ?_, fun h => ?_⟩
  · obtain ⟨hw, hr, hf⟩ := hi.ordinary h
    obtain ⟨-, -, hf'⟩ := he.ordinary (hdisp.trans h)
    exact ⟨hw, hr, by simp [mergeIntent, hf, hf']⟩
  · have h' : existing.terminalPublished = true ∨ i.terminalPublished = true := by
      simpa [mergeIntent] using h
    rcases h' with h' | h'
    · simp [mergeIntent, he.published h']
    · simp [mergeIntent, hi.published h']
  · rw [sideEffectPublished_mergeIntent, Bool.or_eq_true] at h
    rcases h with h | h
    · simp [mergeIntent, he.effects h]
    · simp [mergeIntent, hi.effects h]

/-! ## Progress of a row -/

/-- A later state of the row of `i` is `j`. -/
structure IntentProgress (i j : AcceleratorLeaseCleanupIntent) : Prop where
  releaseConfirmed : i.releaseConfirmed = true → j.releaseConfirmed = true
  terminalPublished : i.terminalPublished = true → j.terminalPublished = true
  auditPublished : i.auditPublished = true → j.auditPublished = true
  notificationPublished : i.notificationPublished = true → j.notificationPublished = true
  budgetSettled : i.budgetSettled = true → j.budgetSettled = true
  attempts : i.attempts ≤ j.attempts
  continuation : sameContinuation i j = true

theorem IntentProgress.refl (i : AcceleratorLeaseCleanupIntent) : IntentProgress i i :=
  ⟨id, id, id, id, id, le_rfl, by simp [sameContinuation]⟩

theorem IntentProgress.trans (h : IntentProgress i j) (h' : IntentProgress j k) :
    IntentProgress i k := by
  have hsame : sameContinuation i k = true := by
    obtain ⟨h₁, h₂, h₃, h₄⟩ := sameContinuation_iff.1 h.continuation
    rw [sameContinuation_iff, h₁, h₂, h₃, h₄]
    exact sameContinuation_iff.1 h'.continuation
  exact ⟨h'.1 ∘ h.1, h'.2 ∘ h.2, h'.3 ∘ h.3, h'.4 ∘ h.4, h'.5 ∘ h.5,
    h.attempts.trans h'.attempts, hsame⟩

/-- Merging moves the stored intent forward, whatever comes in. -/
theorem intentProgress_merge (hsame : sameContinuation existing i = true) :
    IntentProgress existing (mergeIntent existing i) := by
  constructor
  case attempts => exact le_max_right _ _
  case continuation => exact hsame
  all_goals
    intro h
    simp [mergeIntent, h]

/-! ## The calls -/

/-- The store accepts the intent: it is valid and continues what is stored under its key. -/
def Recordable (m : MemoryStore) (i : AcceleratorLeaseCleanupIntent) : Prop :=
  IntentValid i ∧ ∀ existing,
    m.leaseCleanupIntents.lookup (leaseCleanupRecordKey i) = some existing →
      sameContinuation existing i = true

/-- **What recording can do**: nothing, or store an accepted intent under its key, alone or merged
into the one it continues. -/
theorem recordAcceleratorLeaseCleanupIntent_cases (m : MemoryStore)
    (i : AcceleratorLeaseCleanupIntent) (now : GoTime) :
    (¬ Recordable m i ∧ ∃ e, recordAcceleratorLeaseCleanupIntent m i now = (m, .error e)) ∨
    Recordable m i ∧ ∃ stored, recordAcceleratorLeaseCleanupIntent m i now =
        ({ m with leaseCleanupIntents :=
            m.leaseCleanupIntents.insert (leaseCleanupRecordKey i) stored }, .ok stored) ∧
      (m.leaseCleanupIntents.lookup (leaseCleanupRecordKey i) = none ∧
          stored = withIntentDefaults i now.utc ∨
        ∃ existing, m.leaseCleanupIntents.lookup (leaseCleanupRecordKey i) = some existing ∧
          sameContinuation existing i = true ∧
          stored = mergeIntent existing (withIntentDefaults i now.utc)) := by
  fun_cases recordAcceleratorLeaseCleanupIntent m i now with
  | case1 e hv =>
    exact .inl ⟨fun h => by simp [validateLeaseCleanupIntent_eq_ok.2 h.1] at hv, e, rfl⟩
  | case2 _ hv _ _ hl =>
    refine .inr ⟨⟨validateLeaseCleanupIntent_eq_ok.1 hv, ?_⟩, _, rfl, .inl ⟨hl, rfl⟩⟩
    exact fun existing h => nomatch hl.symm.trans h
  | case3 _ hv _ _ existing hl hsame =>
    refine .inr ⟨⟨validateLeaseCleanupIntent_eq_ok.1 hv, ?_⟩, _, rfl,
      .inr ⟨existing, hl, hsame, rfl⟩⟩
    exact fun existing h => Option.some.inj (hl.symm.trans h) ▸ hsame
  | case4 _ _ _ existing hl hsame => exact .inl ⟨fun h => hsame (h.2 existing hl), _, rfl⟩

/-- The call deletes whatever is stored under the key. -/
def StoreCall.deletesIntent (key : GoString) : StoreCall → Bool
  | .deleteIntent a owner token =>
    key = leaseCleanupKey a owner token || (leaseCleanupKey a owner token ++ "\x00").isPrefixOf key
  | .deleteIntentForWorkload a owner token w => key = workloadCleanupKey a owner token w
  | _ => false

theorem lookup_deleteAcceleratorLeaseCleanupIntent (m : MemoryStore) (a owner : GoString)
    (token : Int64) (key : GoString) :
    (deleteAcceleratorLeaseCleanupIntent m a owner token).leaseCleanupIntents.lookup key =
      if (deleteIntent a owner token).deletesIntent key then none
      else m.leaseCleanupIntents.lookup key := by
  simp only [deleteAcceleratorLeaseCleanupIntent, GoMap.lookup_foldl_erase, List.mem_filter,
    deletesIntent]
  by_cases hmem : key ∈ m.leaseCleanupIntents.keys
  · simp [hmem]
  · have hnone : m.leaseCleanupIntents.lookup key = none :=
      AList.lookup_eq_none.2 fun h => hmem (AList.mem_keys.1 h)
    simp [hnone]

/-- What a call does to the intent stored under a key. -/
inductive IntentChange (m m' : MemoryStore) (key : GoString) (c : StoreCall) : Prop
  | keep (h : m'.leaseCleanupIntents.lookup key = m.leaseCleanupIntents.lookup key)
  | delete (hc : c.deletesIntent key = true) (h : m'.leaseCleanupIntents.lookup key = none)
  | record (i : AcceleratorLeaseCleanupIntent) (hi : IntentValid i)
      (hl : m.leaseCleanupIntents.lookup key = none)
      (h : m'.leaseCleanupIntents.lookup key = some i)
  | merge (existing i : AcceleratorLeaseCleanupIntent) (hi : IntentValid i)
      (hl : m.leaseCleanupIntents.lookup key = some existing)
      (hsame : sameContinuation existing i = true)
      (h : m'.leaseCleanupIntents.lookup key = some (mergeIntent existing i))

theorem intentChange_record (m : MemoryStore) (i : AcceleratorLeaseCleanupIntent) (now : GoTime)
    (key : GoString) :
    IntentChange m (recordAcceleratorLeaseCleanupIntent m i now).1 key (.recordIntent i now) := by
  rcases recordAcceleratorLeaseCleanupIntent_cases m i now with
    ⟨-, e, h⟩ | ⟨⟨hi, -⟩, stored, h, hcase⟩
  · exact .keep (by rw [h])
  · by_cases hk : key = leaseCleanupRecordKey i
    · subst hk
      have hnew : (recordAcceleratorLeaseCleanupIntent m i now).1.leaseCleanupIntents.lookup
          (leaseCleanupRecordKey i) = some stored := by rw [h]; exact AList.lookup_insert _
      rcases hcase with ⟨hl, rfl⟩ | ⟨existing, hl, hsame, rfl⟩
      · exact .record _ (hi.withDefaults _) hl hnew
      · exact .merge existing _ (hi.withDefaults _) hl hsame hnew
    · exact .keep (by rw [h]; exact AList.lookup_insert_ne hk)

theorem StoreStep.intentChange (h : StoreStep m c m') (key : GoString) :
    IntentChange m m' key c := by
  cases h.change with
  | intents hc =>
    rw [h.2]
    cases c with
    | recordIntent i now => exact intentChange_record m i now key
    | deleteIntent a owner token =>
      have hl := lookup_deleteAcceleratorLeaseCleanupIntent m a owner token key
      by_cases hd : (deleteIntent a owner token).deletesIntent key = true
      · exact .delete hd (by rw [if_pos hd] at hl; exact hl)
      · exact .keep (by rw [if_neg hd] at hl; exact hl)
    | deleteIntentForWorkload a owner token w =>
      by_cases hk : key = workloadCleanupKey a owner token w
      · exact .delete (by simp [deletesIntent, hk]) (hk ▸ AList.lookup_erase _ _)
      · exact .keep (AList.lookup_erase_ne hk)
    | _ => cases hc
  | _ => exact .keep rfl

/-! ## Runs -/

def IntentsValid (m : MemoryStore) : Prop :=
  ∀ key i, m.leaseCleanupIntents.lookup key = some i → IntentValid i

theorem IntentsValid.step (hm : IntentsValid m) (h : StoreStep m c m') : IntentsValid m' := by
  intro key i hi
  cases h.intentChange key with
  | keep hl => exact hm key i (hl ▸ hi)
  | delete _ hl => simp [hl] at hi
  | record j hj _ hl =>
    obtain rfl : j = i := by simpa [hl] using hi
    exact hj
  | merge existing j hj hex hsame hl =>
    obtain rfl : mergeIntent existing j = i := by simpa [hl] using hi
    exact (hm key existing hex).merge hj hsame

theorem StoreStep.intentProgress (h : StoreStep m c m') {key : GoString}
    (hi : m.leaseCleanupIntents.lookup key = some i) (hc : c.deletesIntent key = false) :
    ∃ j, m'.leaseCleanupIntents.lookup key = some j ∧ IntentProgress i j := by
  cases h.intentChange key with
  | keep hl => exact ⟨i, hl.trans hi, .refl i⟩
  | delete hd _ => simp [hd] at hc
  | record _ _ hl _ => simp [hl] at hi
  | merge existing j _ hex hsame hl =>
    obtain rfl : existing = i := by simpa [hex] using hi
    exact ⟨_, hl, intentProgress_merge hsame⟩

/-- A run moves a stored intent forward as long as no call deletes it. -/
theorem run_intentProgress {tr : List (Transition MemoryStore StoreCall)}
    (h : Run StoreStep m tr m') {key : GoString} (hi : m.leaseCleanupIntents.lookup key = some i)
    (hc : ∀ t ∈ tr, t.label.deletesIntent key = false) :
    ∃ j, m'.leaseCleanupIntents.lookup key = some j ∧ IntentProgress i j := by
  refine h.invariant_of (I := fun s => ∃ j, s.leaseCleanupIntents.lookup key = some j ∧
    IntentProgress i j) hc ⟨i, hi, .refl i⟩ ?_
  rintro s c s' ⟨j, hj, hij⟩ hstep hkeep
  obtain ⟨k, hk, hjk⟩ := hstep.intentProgress hj hkeep
  exact ⟨k, hk, hij.trans hjk⟩

/-- **Stored intents are valid and only move forward**, in any order of calls with any payloads, as
long as they are not deleted. -/
theorem cleanupIntents_valid_and_monotone {tr tr' : List (Transition MemoryStore StoreCall)}
    {m m' : MemoryStore} (h : Run StoreStep newMemoryStore tr m) (h' : Run StoreStep m tr' m') :
    (∀ key i, m.leaseCleanupIntents.lookup key = some i →
      validateLeaseCleanupIntent i = .ok () ∧
      (i.terminalPublished = true → i.releaseConfirmed = true) ∧
      (i.auditPublished = true → i.terminalPublished = true) ∧
      (i.notificationPublished = true → i.terminalPublished = true) ∧
      (i.budgetSettled = true → i.terminalPublished = true)) ∧
    ∀ key i, m.leaseCleanupIntents.lookup key = some i →
      (∀ t ∈ tr', t.label.deletesIntent key = false) →
      ∃ j, m'.leaseCleanupIntents.lookup key = some j ∧ IntentProgress i j := by
  refine ⟨fun key i hi => ?_, fun key i hi hkeep => run_intentProgress h' hi hkeep⟩
  have hvalid : IntentsValid m :=
    h.invariant (fun key i hi => by simp [newMemoryStore] at hi) fun s c s' hs hstep =>
      hs.step hstep
  have hv := hvalid key i hi
  refine ⟨validateLeaseCleanupIntent_eq_ok.2 hv, hv.published, fun h => ?_, fun h => ?_,
    fun h => ?_⟩
  all_goals exact hv.effects (by simp [sideEffectPublished, h])

/-- A terminal intent after its second attempt, with the terminal state published. -/
def publishedIntent : AcceleratorLeaseCleanupIntent :=
  { acceleratorID := "gpu0", owner := "w", fencingToken := 1, workloadID := "w",
    expectedWorkloadRevision := 3, terminalDisposition := "failure", terminalErrorCode := "exit",
    releaseConfirmed := true, terminalPublished := true, attempts := 2 }

/-- The same intent as a thread read it before the first attempt. -/
def staleIntent : AcceleratorLeaseCleanupIntent :=
  { publishedIntent with releaseConfirmed := false, terminalPublished := false, attempts := 1 }

def publishedStore : MemoryStore :=
  afterScript newMemoryStore [fun _ => .recordIntent publishedIntent ⟨1, 0⟩]

theorem staleIntent_keeps_published : ∃ j, (afterScript publishedStore
        [fun _ => .recordIntent staleIntent ⟨2, 0⟩]).leaseCleanupIntents.lookup
          (leaseCleanupRecordKey publishedIntent) = some j ∧
      j.terminalPublished = true ∧ 2 ≤ j.attempts := by
  have h : Run StoreStep newMemoryStore _ publishedStore :=
    run_script (by simp [StoreCall.Admissible]) newMemoryStore
  have h' : Run StoreStep publishedStore _
      (afterScript publishedStore [fun _ => .recordIntent staleIntent ⟨2, 0⟩]) :=
    run_script (by simp [StoreCall.Admissible]) publishedStore
  obtain ⟨j, hj, hprogress⟩ := (cleanupIntents_valid_and_monotone h h').2
    (leaseCleanupRecordKey publishedIntent) (withIntentDefaults publishedIntent ⟨1, 0⟩) (by decide)
    (by simp [script, Run.script, deletesIntent])
  exact ⟨j, hj, hprogress.terminalPublished rfl, hprogress.attempts⟩

end VramGovernor.Store
