import VramGovernor.Store.MemoryRun

/-!
# Histories of checkpoint rows

Two calls write a checkpoint row after its creation: the update, and the recovery grant, which
rewrites the cleanup fields. Both keep the row's identity and count its revision, so whatever was
prepared against an older revision is rejected (`checkpoint_history`). A slot is claimed against all
other rows, so no slot is held twice (`slots_exclusive`). The transition table reads phases exactly
and create does not: `cancellable_iff` says which rows can always be brought to an end.
-/

namespace VramGovernor.Store

open GoString GoMap

variable {m m' : MemoryStore} {c : StoreCall} {k : GoString} {row row' : LLMCheckpointOperation}

/-! ## One step of a row -/

/-- A call keeps the identity of a row, its final phase, and the order of its ordinals; a change
counts the revision. -/
structure RowStep (row row' : LLMCheckpointOperation) : Prop where
  identity : row'.identity = row.identity
  ordinal : llmCheckpointPhaseOrdinal row.phase ≤ llmCheckpointPhaseOrdinal row'.phase
  final : llmCheckpointPhaseIsFinal row.phase = true → row'.phase = row.phase
  revision : row' = row ∨ row'.revision = row.revision + 1
  transition : row'.phase = row.phase ∨ row'.phase ∈ successorPhases row.phase

theorem RowStep.refl (row : LLMCheckpointOperation) : RowStep row row :=
  ⟨rfl, le_refl _, fun _ => rfl, .inl rfl, .inl rfl⟩

variable {expected : UInt64} {tr : List (Transition MemoryStore StoreCall)}

theorem CheckpointUpdateAccepted.rowStep {current op : LLMCheckpointOperation}
    (h : CheckpointUpdateAccepted current op expected) (now : GoTime) :
    RowStep current (updatedCheckpoint current op now) := by
  rcases transitionAllowedFor_cases h.transition with he | ht
  · refine ⟨h.identity, ?_, fun _ => he.symm, .inr rfl, .inl he.symm⟩
    exact (congrArg llmCheckpointPhaseOrdinal he).le
  · refine ⟨h.identity, ordinal_le_of_transition ht, fun hf => ?_, .inr rfl, ?_⟩
    · rcases transition_cases ht with he | ⟨hn, -⟩
      · exact he.symm
      · rw [hf] at hn
        cases hn
    · rcases transition_cases ht with he | ⟨-, hs⟩
      · exact .inl he.symm
      · exact .inr hs

/-- **Rows are never lost,** and each takes at most one step at a call. -/
theorem StoreStep.rowStep (h : StoreStep m c m') (hk : m.llmCheckpointOps.lookup k = some row) :
    ∃ row', m'.llmCheckpointOps.lookup k = some row' ∧ RowStep row row' := by
  have hadvances : Advances RowStep k m.llmCheckpointOps m'.llmCheckpointOps := by
    cases h.checkpointChange with
    | keep he =>
      rw [he]
      exact advances_refl .refl _ _
    | create op now order p hc hp hfree hslot he =>
      rw [he]
      exact advances_insert_new .refl hfree _
    | update current op expected now hl hacc hslot he =>
      rw [he]
      exact advances_insert .refl hl (hacc.rowStep now)
    | recover a w opID token now e hl ha he =>
      rw [he]
      exact advances_insert .refl hl ⟨rfl, le_refl _, fun _ => rfl, .inr rfl, .inl rfl⟩
  exact hadvances row hk

/-- A row after a call is an old one, a new one, an update or a recovered one. -/
theorem StoreStep.forall_rows {P : GoString → LLMCheckpointOperation → Prop}
    (h : StoreStep m c m') (hm : ∀ k row, m.llmCheckpointOps.lookup k = some row → P k row)
    (hcreate : ∀ op now p, prepareLLMCheckpointCreate op now = .ok p → P p.id p)
    (hupdate : ∀ current op expected now, m.llmCheckpointOps.lookup op.id = some current →
      CheckpointUpdateAccepted current op expected → P op.id (updatedCheckpoint current op now))
    (hrecover : ∀ k row a opID token now, P k row → P k (recoveredRow row a opID token now)) :
    ∀ k row, m'.llmCheckpointOps.lookup k = some row → P k row := by
  intro k row hk
  cases h.checkpointChange with
  | keep he => exact hm k row (he ▸ hk)
  | create op now order p hc hp hfree hslot he =>
    rcases of_lookup_insert (he ▸ hk) with ⟨rfl, rfl⟩ | ⟨-, hk⟩
    · exact hcreate op now _ hp
    · exact hm k row hk
  | update current op expected now hl hacc hslot he =>
    rcases of_lookup_insert (he ▸ hk) with ⟨rfl, rfl⟩ | ⟨-, hk⟩
    · exact hupdate current op expected now hl hacc
    · exact hm k row hk
  | recover a w opID token now e hl ha he =>
    rcases of_lookup_insert (he ▸ hk) with ⟨rfl, rfl⟩ | ⟨-, hk⟩
    · exact hrecover e.1 e.2 a opID token now (hm e.1 e.2 hl)
    · exact hm k row hk

theorem Reachable.phaseOrdinal_eq (h : Reachable m) (hk : m.llmCheckpointOps.lookup k = some row) :
    row.phaseOrdinal = llmCheckpointPhaseOrdinal row.phase := by
  obtain ⟨tr, h⟩ := h
  refine h.invariant (I := fun m => ∀ k row, m.llmCheckpointOps.lookup k = some row →
    row.phaseOrdinal = llmCheckpointPhaseOrdinal row.phase) ?_ ?_ k row hk
  · intro k row hk
    cases hk
  · intro m c m' hm hs
    refine hs.forall_rows hm ?_ ?_ ?_
    · intro op now p hp
      exact (prepareLLMCheckpointCreate_eq_ok hp).1
    · intro current op expected now hl hacc
      exact phaseOrdinal_of_valid hacc.valid
    · intro k row a opID token now hr
      exact hr

/-! ## Histories -/

/-- What a run may change of a row. -/
def RowHistory (row row' : LLMCheckpointOperation) : Prop :=
  row'.identity = row.identity ∧
    llmCheckpointPhaseOrdinal row.phase ≤ llmCheckpointPhaseOrdinal row'.phase ∧
    (llmCheckpointPhaseIsFinal row.phase = true → row'.phase = row.phase)

theorem RowHistory.trans {r₁ r₂ r₃ : LLMCheckpointOperation} (h : RowHistory r₁ r₂)
    (h' : RowHistory r₂ r₃) : RowHistory r₁ r₃ := by
  obtain ⟨hi, ho, hf⟩ := h
  obtain ⟨hi', ho', hf'⟩ := h'
  refine ⟨hi'.trans hi, ho.trans ho', fun h => ?_⟩
  rw [← hf h]
  exact hf' (by rw [hf h]; exact h)

theorem run_rowHistory (h : Run StoreStep m tr m') (hk : m.llmCheckpointOps.lookup k = some row) :
    ∃ row', m'.llmCheckpointOps.lookup k = some row' ∧ RowHistory row row' := by
  have hadvances : Advances RowHistory k m.llmCheckpointOps m'.llmCheckpointOps := by
    refine h.rel (R := fun m m' =>
      Advances RowHistory k m.llmCheckpointOps m'.llmCheckpointOps) ?_ ?_ ?_
    · intro m
      exact advances_refl (fun row => ⟨rfl, le_refl _, fun _ => rfl⟩) _ _
    · intro m₁ m₂ m₃ h₁₂ h₂₃
      exact h₁₂.trans RowHistory.trans h₂₃
    · intro m c m' hs row hk
      obtain ⟨row', hk', hr⟩ := hs.rowStep hk
      exact ⟨row', hk', hr.identity, hr.ordinal, hr.final⟩
  exact hadvances row hk

/-- **A stale update is rejected** and changes nothing. -/
theorem stale_update_rejected {op current : LLMCheckpointOperation}
    (hl : m.llmCheckpointOps.lookup op.id = some current) (hne : current.revision ≠ expected)
    (now : GoTime) (order : List (Entry LLMCheckpointOperation)) :
    ∃ e, updateLLMCheckpointOperation m (some op) expected now order = (m, .error e) := by
  rcases updateLLMCheckpointOperation_cases m (some op) expected now order with
    h | ⟨current', op', ho, hl', hacc, -, -⟩
  · exact h
  · have hid : op'.id = op.id := by
      obtain rfl := Option.some.inj ho
      unfold withConversation
      split_ifs <;> rfl
    rw [hid, hl] at hl'
    obtain rfl := Option.some.inj hl'
    exact absurd hacc.revision hne

/-- **Histories of checkpoint rows.** A row stays, its identity is unchanged, its ordinal is that of
its phase and does not fall, a final phase stays, each change counts its revision by one, and a
stale update is rejected. -/
theorem checkpoint_history (hm : Reachable m) {tr : List (Transition MemoryStore StoreCall)}
    (h : Run StoreStep m tr m') :
    (∀ k row, m.llmCheckpointOps.lookup k = some row →
      row.phaseOrdinal = llmCheckpointPhaseOrdinal row.phase) ∧
    (∀ k row, m.llmCheckpointOps.lookup k = some row →
      ∃ row', m'.llmCheckpointOps.lookup k = some row' ∧ row'.identity = row.identity ∧
        row.phaseOrdinal ≤ row'.phaseOrdinal ∧
        (llmCheckpointPhaseIsFinal row.phase = true → row'.phase = row.phase)) ∧
    (∀ t ∈ tr, ∀ k row row', t.pre.llmCheckpointOps.lookup k = some row →
      t.post.llmCheckpointOps.lookup k = some row' →
        row' = row ∨ row'.revision = row.revision + 1) ∧
    (∀ op expected now order row',
      (updateLLMCheckpointOperation m op expected now order).2 = .ok row' →
        ∃ row, m.llmCheckpointOps.lookup row'.id = some row ∧ row'.revision = row.revision + 1) ∧
    (∀ op current expected now order, m.llmCheckpointOps.lookup op.id = some current →
      current.revision ≠ expected →
        ∃ e, updateLLMCheckpointOperation m (some op) expected now order = (m, .error e)) ∧
    (∀ a w opID ttl now o e, Grantable m a w opID now.utc (some e) → o.Of m →
      ∀ op now' order, op.id = e.1 →
        let granted := (acquireAcceleratorLease m a w opID ttl now o).1
        ∃ e', updateLLMCheckpointOperation granted (some op) e.2.revision now' order =
          (granted, .error e')) := by
  refine ⟨fun k row hk => hm.phaseOrdinal_eq hk, ?_, ?_, ?_, ?_, ?_⟩
  · intro k row hk
    obtain ⟨row', hk', hid, hord, hfin⟩ := run_rowHistory h hk
    have hm' : Reachable m' := let ⟨tr₀, h₀⟩ := hm; ⟨_, h₀.append h⟩
    refine ⟨row', hk', hid, ?_, hfin⟩
    rw [hm.phaseOrdinal_eq hk, hm'.phaseOrdinal_eq hk']
    exact hord
  · intro t ht k row row' hk hk'
    obtain ⟨_, _, _, _, hs, _⟩ := h.split_mem ht
    obtain ⟨row'', hk'', hr⟩ := hs.rowStep hk
    obtain rfl := Option.mem_unique hk' hk''
    exact hr.revision
  · intro op expected now order row' hrow'
    rcases updateLLMCheckpointOperation_cases m op expected now order with
      ⟨e, he⟩ | ⟨current, op', -, hl, -, -, he⟩
    · rw [he] at hrow'
      cases hrow'
    · rw [he] at hrow'
      obtain rfl := Except.ok.inj hrow'
      exact ⟨current, hl, rfl⟩
  · intro op current expected now order hl hne
    exact stale_update_rejected hl hne now order
  · intro a w opID ttl now o e hg ho op now' order hid granted
    have hgr : granted = _ := congrArg (·.1) (acquireAcceleratorLease_of_grantable ho ttl hg)
    have hl : granted.llmCheckpointOps.lookup op.id = some (recoveredRow e.2 a opID
        (grantedLease m a w ttl now.utc (some e)).fencingToken now.utc) := by
      rw [hgr, hid]
      exact AList.lookup_insert _
    refine stale_update_rejected hl ?_ now' order
    simp [recoveredRow]

def plannedRow (id phase : GoString) (slot : ℤ) : LLMCheckpointOperation :=
  { id, idempotencyKey := id, ownerID := "owner", workloadID := "w", nodeID := "node"
    acceleratorID := "gpu", targetID := "target", model := "model", slotID := slot, generation := 1
    fence := 1, runtimeIdentity := "runtime", modelFingerprint := "model"
    profileFingerprint := "profile", contextFingerprint := "context"
    conversationID := "conversation", workloadRevision := 1, phase }

def createAndCancel : List (MemoryStore → StoreCall) :=
  [fun m => .createCheckpoint (some (plannedRow "op" "planned" 0)) {} m.llmCheckpointOps.entries,
   fun m => .updateCheckpoint
      (some { plannedRow "op" "cancelled" 0 with phaseOrdinal := 15, revision := 1 }) 1 {}
      m.llmCheckpointOps.entries]

/-- The history at a row that is created and cancelled. -/
theorem checkpoint_history_cancelled : (∀ t ∈ script newMemoryStore createAndCancel, ∀ k row row',
      t.pre.llmCheckpointOps.lookup k = some row → t.post.llmCheckpointOps.lookup k = some row' →
        row' = row ∨ row'.revision = row.revision + 1) ∧
    ((afterScript newMemoryStore createAndCancel).llmCheckpointOps.lookup (ofString "op")).map
      (fun row => (row.phase, row.phaseOrdinal, row.revision)) =
        some (ofString "cancelled", 15, 2) :=
  ⟨(checkpoint_history ⟨_, .nil⟩ (run_script
    (by simp [createAndCancel, StoreCall.Admissible, rangeOrder_entries]) newMemoryStore)).2.2.1,
    by decide⟩

/-! ## Slots -/

theorem slotHeldBy_comm (row row' : LLMCheckpointOperation) :
    slotHeldBy row row' = slotHeldBy row' row := by
  rw [Bool.eq_iff_iff]
  simp only [slotHeldBy, Bool.and_eq_true, decide_eq_true_eq]
  constructor
  all_goals
    rintro ⟨⟨⟨⟨⟨ht, ha⟩, h0⟩, hs⟩, hh⟩, hh'⟩
    exact ⟨⟨⟨⟨⟨ht.symm, ha.symm⟩, hs ▸ h0⟩, hs.symm⟩, hh'⟩, hh⟩

/-- No two rows of the table keep one slot. -/
def SlotsExclusive (ops : GoMap LLMCheckpointOperation) : Prop :=
  ∀ k k' row row', k ≠ k' → ops.lookup k = some row → ops.lookup k' = some row' →
    slotHeldBy row row' = false

theorem SlotsExclusive.insert {ops : GoMap LLMCheckpointOperation} (h : SlotsExclusive ops)
    {k₀ : GoString} {row₀ : LLMCheckpointOperation}
    (h₀ : ∀ k row, k ≠ k₀ → ops.lookup k = some row → slotHeldBy row₀ row = false) :
    SlotsExclusive (ops.insert k₀ row₀) := by
  intro k k' row row' hne hk hk'
  rcases of_lookup_insert hk with ⟨rfl, rfl⟩ | ⟨hk₀, hl⟩ <;>
    rcases of_lookup_insert hk' with ⟨rfl, rfl⟩ | ⟨hk'₀, hl'⟩
  · exact absurd rfl hne
  · exact h₀ k' row' hk'₀ hl'
  · rw [slotHeldBy_comm]
    exact h₀ k row hk₀ hl
  · exact h k k' row row' hne hl hl'

theorem StoreStep.slotsExclusive (h : StoreStep m c m')
    (hm : SlotsExclusive m.llmCheckpointOps) : SlotsExclusive m'.llmCheckpointOps := by
  cases h.checkpointChange with
  | keep he => rwa [he]
  | create op now order p hc hp hfree hslot he =>
    rw [he]
    exact hm.insert fun k row _ hk => hslot k row hk
  | update current op expected now hl hacc hslot he =>
    rw [he]
    exact hm.insert fun k row hne hk => hslot k row hk hne
  | recover a w opID token now e hl ha he =>
    -- The recovery grant moves neither the slot nor the phase.
    rw [he]
    exact hm.insert fun k row hne hk => hm e.1 k e.2 row hne.symm hl hk

/-- **Slots are exclusive.** In no reachable state do two rows with one target, accelerator and slot
both have a phase that holds the slot. -/
theorem slots_exclusive (h : Reachable m) (k k' : GoString) (row row' : LLMCheckpointOperation)
    (hne : k ≠ k') (hk : m.llmCheckpointOps.lookup k = some row)
    (hk' : m.llmCheckpointOps.lookup k' = some row') (ht : row.targetID = row'.targetID)
    (ha : row.acceleratorID = row'.acceleratorID) (hs : row.slotID = row'.slotID)
    (h0 : 0 ≤ row.slotID) :
    ¬ (llmCheckpointHoldsSlot row.phase = true ∧ llmCheckpointHoldsSlot row'.phase = true) := by
  rintro ⟨hh, hh'⟩
  obtain ⟨tr, h⟩ := h
  have hex : SlotsExclusive m.llmCheckpointOps :=
    h.invariant (I := fun m => SlotsExclusive m.llmCheckpointOps)
      (fun _ _ _ _ _ hk _ => nomatch hk) fun m c m' hm hs => hs.slotsExclusive hm
  have hfalse := hex k k' row row' hne hk hk'
  simp [slotHeldBy, ← ht, ← ha, ← hs, h0, hh, hh'] at hfalse

/-- The row as create stores it at the zero time. -/
def createdRow (id phase : GoString) (slot : ℤ) : LLMCheckpointOperation :=
  withCreateTimes (withCreateDefaults (plannedRow id phase slot)) {}

/-- The update that cancels the first row, and the one that moves the second to the first's slot. -/
def cancelFirst : LLMCheckpointOperation :=
  { plannedRow "op1" "cancelled" 0 with phaseOrdinal := 15 }

def moveSecond : LLMCheckpointOperation := { plannedRow "op2" "assigned" 0 with phaseOrdinal := 1 }

/-- Two rows on two slots; the first is cancelled and the second takes its slot. -/
def moveSlot : List (MemoryStore → StoreCall) :=
  [fun m => .createCheckpoint (some (plannedRow "op1" "planned" 0)) {} m.llmCheckpointOps.entries,
   fun m => .createCheckpoint (some (plannedRow "op2" "planned" 1)) {} m.llmCheckpointOps.entries,
   fun m => .updateCheckpoint (some cancelFirst) 1 {} m.llmCheckpointOps.entries,
   fun m => .updateCheckpoint (some moveSecond) 1 {} m.llmCheckpointOps.entries]

theorem moveSlot_admissible : ∀ c ∈ moveSlot, ∀ m, (c m).Admissible m := by
  simp [moveSlot, StoreCall.Admissible, rangeOrder_entries]

/-- Exclusivity at the two rows of one slot. -/
theorem slots_exclusive_moved : llmCheckpointHoldsSlot moveSecond.phase = true ∧
    ¬ (llmCheckpointHoldsSlot cancelFirst.phase = true ∧
      llmCheckpointHoldsSlot moveSecond.phase = true) :=
  ⟨by decide, slots_exclusive ⟨_, run_script moveSlot_admissible newMemoryStore⟩ "op1" "op2"
    (updatedCheckpoint (createdRow "op1" "planned" 0) cancelFirst {})
    (updatedCheckpoint (createdRow "op2" "planned" 1) moveSecond {})
    (by decide) (by decide) (by decide) rfl rfl rfl (by decide)⟩

/-! ## Ways out -/

/-- The table has an edge from the row's phase to an end without result. -/
def cancellable (row : LLMCheckpointOperation) : Bool :=
  llmCheckpointTransitionAllowed row.phase "cancelled" ||
    llmCheckpointTransitionAllowed row.phase "failed"

/-- The phase is one of the table, or final. -/
def onTable (phase : GoString) : Bool :=
  phase ∈ llmCheckpointTransitions.map (·.1) || llmCheckpointPhaseIsFinal phase

theorem onTable_of_mem_successorPhases {src dst : GoString} (h : dst ∈ successorPhases src) :
    onTable dst = true := by
  have htable : ∀ e ∈ llmCheckpointTransitions, ∀ d ∈ e.2, onTable d = true := by decide
  obtain ⟨dsts, hmem, hd⟩ := exists_mem_of_mem_successorPhases h
  exact htable _ hmem _ hd

theorem cancellable_of_onTable (h : onTable row.phase = true)
    (hf : llmCheckpointPhaseIsFinal row.phase = false) : cancellable row = true := by
  have htable : ∀ s ∈ llmCheckpointTransitions.map (·.1),
      llmCheckpointTransitionAllowed s "cancelled" = true := by decide
  simp only [onTable, hf, Bool.or_false, decide_eq_true_eq] at h
  simp [cancellable, htable _ h]

theorem onTable_of_cancellable (h : cancellable row = true) : onTable row.phase = true := by
  have hedge : ∀ dst : GoString, onTable dst = true →
      llmCheckpointTransitionAllowed row.phase dst = true → onTable row.phase = true := by
    intro dst hdst ht
    rcases transition_cases ht with he | ⟨-, hs⟩
    · rwa [he]
    · obtain ⟨dsts, hmem, -⟩ := exists_mem_of_mem_successorPhases hs
      have hkey : row.phase ∈ llmCheckpointTransitions.map (·.1) := List.mem_map.2 ⟨_, hmem, rfl⟩
      simp [onTable, hkey]
  rcases Bool.or_eq_true_iff.1 h with h | h
  all_goals exact hedge _ (by decide) h

theorem normalPhase_of_onTable {phase : GoString} (h : onTable phase = true) :
    normalPhase phase = phase := by
  have htable : ∀ s ∈ llmCheckpointTransitions.map (·.1), normalPhase s = s := by decide
  have hfinal : ∀ s ∈ llmCheckpointFinalPhases, normalPhase s = s := by decide
  rcases Bool.or_eq_true_iff.1 h with h | h
  · exact htable _ (of_decide_eq_true h)
  · exact hfinal _ (of_decide_eq_true h)

theorem run_onTable (h : Run StoreStep m tr m') (hk : m.llmCheckpointOps.lookup k = some row)
    (ht : onTable row.phase = true) :
    ∃ row', m'.llmCheckpointOps.lookup k = some row' ∧ onTable row'.phase = true := by
  refine h.invariant (I := fun m => ∃ row, m.llmCheckpointOps.lookup k = some row ∧
    onTable row.phase = true) ⟨row, hk, ht⟩ ?_
  rintro m c m' ⟨row, hk, ht⟩ hs
  obtain ⟨row', hk', hr⟩ := hs.rowStep hk
  refine ⟨row', hk', ?_⟩
  rcases hr.transition with he | hsucc
  · rwa [he]
  · exact onTable_of_mem_successorPhases hsucc

/-- **Which rows can always be brought to an end**: those created with the phase spelled `planned`
or `restore_planned`. -/
theorem cancellable_iff (m : MemoryStore) (op : Option LLMCheckpointOperation) (now : GoTime)
    (order : List (Entry LLMCheckpointOperation)) (p : LLMCheckpointOperation)
    (hc : (createLLMCheckpointOperation m op now order).2 = .ok (p, true)) :
    (∀ tr m' row, Run StoreStep (createLLMCheckpointOperation m op now order).1 tr m' →
      m'.llmCheckpointOps.lookup p.id = some row →
      llmCheckpointPhaseIsFinal row.phase = false → cancellable row = true) ↔
    p.phase = "planned" ∨ p.phase = "restore_planned" := by
  rcases createLLMCheckpointOperation_cases m op now order with ⟨-, hne⟩ | ⟨p', hp, -, -, hc'⟩
  · exact absurd hc (hne p)
  obtain rfl : p' = p := by simpa [hc'] using hc
  rw [hc']
  have hk : (insertCheckpoint m p').llmCheckpointOps.lookup p'.id = some p' := AList.lookup_insert _
  obtain ⟨-, hroot, -⟩ := prepareLLMCheckpointCreate_eq_ok hp
  constructor
  · intro h
    have ht : onTable p'.phase = true := by
      by_cases hf : llmCheckpointPhaseIsFinal p'.phase = true
      · simp [onTable, hf]
      · exact onTable_of_cancellable (h [] _ p' .nil hk (by simpa using hf))
    rwa [normalPhase_of_onTable ht] at hroot
  · rintro hphase tr m' row hrun hrow hf
    have ht : onTable p'.phase = true := by
      rcases hphase with he | he <;> rw [he] <;> decide
    obtain ⟨row', hrow', ht'⟩ := run_onTable hrun hk ht
    obtain rfl := Option.mem_unique hrow hrow'
    exact cancellable_of_onTable ht' hf

/-- The condition holds of a row created in phase `planned`. -/
theorem cancellable_planned : cancellable (createdRow "op" "planned" 0) = true :=
  (cancellable_iff newMemoryStore (some (plannedRow "op" "planned" 0)) {} []
    (createdRow "op" "planned" 0) (by decide)).2 (.inl rfl) [] _ _ .nil (by decide) (by decide)

/-- A row created in phase ` Planned ` is stored, holds its slot and has no edge out. -/
theorem misspelled_phase_stuck :
    let r :=
      createLLMCheckpointOperation newMemoryStore (some (plannedRow "op" " Planned " 0)) {} []
    r.2 = .ok (createdRow "op" " Planned " 0, true) ∧
    llmCheckpointPhaseIsFinal " Planned " = false ∧ llmCheckpointHoldsSlot " Planned " = true ∧
    cancellable (createdRow "op" " Planned " 0) = false := by
  decide

end VramGovernor.Store
