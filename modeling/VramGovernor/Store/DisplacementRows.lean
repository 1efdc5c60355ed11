import VramGovernor.Store.MemoryRun

/-!
# Histories of displacement rows

Along a run the intents and results of a row only grow, in the fixed order of the steps, and a
completed row carries all of them (`displacement_history`).

Identities are compared as JSON text, which determines neither a string with invalid UTF-8 nor a
time outside UTC, and a time without text makes the comparison accept anything. So an identity is
immutable if it has a faithful text (`FaithfulIdentity`, `identity_rewritten`), and a create that
repeats such a row is answered with it (`faithful_replay`).
-/

namespace VramGovernor.Store

open GoString GoMap

/-! ## What validity says -/

variable {next : Except GoError Unit} {op old new p : LLMDisplacementOperation} {expected : UInt64}

variable {intents : List LLMDisplacementCommandIntent}

theorem cons_prefix_of_head? {a : GoString} {l l' : List GoString} (h : l.head? = some a)
    (hl : l' <+: l.tail) : a :: l' <+: l := by
  rw [List.eq_cons_of_mem_head? h]
  exact List.cons_prefix_cons.2 ⟨rfl, hl⟩

/-- The intents follow the steps. -/
theorem checkCommandIntents_eq_ok {steps seen : List GoString}
    (h : checkCommandIntents next steps seen intents = .ok ()) :
    intents.map (·.step) <+: steps ∧ next = .ok () := by
  induction intents generalizing steps seen with
  | nil => exact ⟨List.nil_prefix, h⟩
  | cons c cs ih =>
    obtain ⟨hc, hrest⟩ := firstError_eq_ok.1 h
    obtain ⟨hpre, hnext⟩ := ih hrest
    have hhead := hc (_, displacementError "displacement command intent history is malformed")
      (.tail _ (.head _))
    simp only [Bool.or_eq_false_iff, decide_eq_false_iff_not, not_not] at hhead
    exact ⟨cons_prefix_of_head? hhead.1 hpre, hnext⟩

/-- The results follow the steps, each with the command of the intent at its place. -/
theorem checkObservedResults_eq_ok {commands steps seen : List GoString}
    {results : List LLMDisplacementObservedResult}
    (h : checkObservedResults next commands steps intents seen results = .ok ()) :
    results.map (·.step) <+: steps ∧
      results.map (·.commandID) <+: intents.map (·.commandID) ∧ next = .ok () := by
  induction results generalizing steps intents seen with
  | nil => exact ⟨List.nil_prefix, List.nil_prefix, h⟩
  | cons r rs ih =>
    obtain ⟨hc, hrest⟩ := firstError_eq_ok.1 h
    obtain ⟨hpre, hcom, hnext⟩ := ih hrest
    have hhead := hc (_, displacementError "displacement observed result history is malformed")
      (.tail _ (.head _))
    have hlink := hc (_, displacementError
      "displacement result is not linked to its unique command intent")
      (.tail _ (.tail _ (.head _)))
    simp only [Bool.or_eq_false_iff, decide_eq_false_iff_not, not_not] at hhead hlink
    rw [← List.head?_map] at hlink
    rw [List.map_tail] at hcom
    exact ⟨cons_prefix_of_head? hhead.1 hpre, cons_prefix_of_head? hlink.2 hcom, hnext⟩

/-- A phase of the list asks for the history of its place. -/
theorem checkDisplacementPhase_eq_ok (h : checkDisplacementPhase next op = .ok ())
    (hp : op.phase ∉ reconciliationPhases) :
    ∃ i, displacementPhases.idxOf? op.phase = some i ∧
      (op.commandIntents.length, op.observedResults.length) = wantedHistory i := by
  unfold checkDisplacementPhase at h
  rw [if_pos hp] at h
  split at h
  · cases h
  next i hi =>
    have hc := (firstError_eq_ok.1 h).1 (_, displacementError
      "displacement phase disagrees with sealed intent/result history") (.head _)
    exact ⟨i, hi, by simpa using hc⟩

/-- What the validator guarantees of the history a row carries. -/
structure ValidHistory (op : LLMDisplacementOperation) : Prop where
  intents : op.commandIntents.map (·.step) <+: displacementSteps
  results : op.observedResults.map (·.step) <+: displacementSteps
  bound : op.observedResults.map (·.commandID) <+: op.commandIntents.map (·.commandID)
  completed : op.phase = "completed" → op.commandIntents.length = 8 ∧ op.observedResults.length = 8

theorem validHistory_of_valid (h : validateLLMDisplacementIdentity op = .ok ()) :
    ValidHistory op := by
  obtain ⟨-, h⟩ := firstError_eq_ok.1 h
  obtain ⟨hintents, h⟩ := checkCommandIntents_eq_ok h
  obtain ⟨-, h⟩ := firstError_eq_ok.1 h
  obtain ⟨hresults, hbound, h⟩ := checkObservedResults_eq_ok h
  obtain ⟨-, h⟩ := firstError_eq_ok.1 h
  refine ⟨hintents, hresults, hbound, fun hc => ?_⟩
  have hp : op.phase ∉ reconciliationPhases := by
    rw [hc]
    decide
  obtain ⟨i, hi, hw⟩ := checkDisplacementPhase_eq_ok h hp
  rw [hc, show displacementPhases.idxOf? (ofString "completed") = some 17 by decide] at hi
  obtain rfl := Option.some.inj hi
  exact Prod.mk.inj hw

/-- **A completed row carries every intent and every result,** in order and bound to each other. -/
theorem ValidHistory.all_steps (h : ValidHistory op) (hc : op.phase = "completed") :
    op.commandIntents.map (·.step) = displacementSteps ∧
      op.observedResults.map (·.step) = displacementSteps ∧
      op.observedResults.map (·.commandID) = op.commandIntents.map (·.commandID) := by
  obtain ⟨hi, hr⟩ := h.completed hc
  refine ⟨h.intents.eq_of_length ?_, h.results.eq_of_length ?_, h.bound.eq_of_length ?_⟩
  · rw [List.length_map, hi]
    rfl
  · rw [List.length_map, hr]
    rfl
  · rw [List.length_map, List.length_map, hi, hr]

/-! ## What an update may do -/

/-- What the update validator guarantees. -/
structure DisplacementUpdateAccepted (old new : LLMDisplacementOperation) (expected : UInt64) :
    Prop where
  revision : new.revision = expected
  oldRevision : old.revision = expected
  bounded : expected < maxInt64
  identity : marshalRecord (identityFields old) = marshalRecord (identityFields new)
  transition : displacementTransitionAllowed old.phase new.phase = true
  snapshot : old.snapshotIdentity ≠ [] → new.snapshotIdentity = old.snapshotIdentity
  intents : old.commandIntents <+: new.commandIntents
  results : old.observedResults <+: new.observedResults
  valid : validateLLMDisplacementIdentity { new with revision := new.revision + 1 } = .ok ()

theorem validateDisplacementUpdate_eq_ok
    (h : validateDisplacementUpdate old new expected = .ok ()) :
    DisplacementUpdateAccepted old new expected := by
  unfold validateDisplacementUpdate at h
  split at h
  · cases h
  obtain ⟨hc, hvalid⟩ := firstError_eq_ok.1 h
  have hchecks : ∀ c ∈ displacementUpdateChecks old new expected, c.1 = false := fun c hmem =>
    hc c (by simp [hmem])
  simp only [displacementUpdateChecks, List.forall_mem_cons, Bool.or_eq_false_iff,
    Bool.not_eq_false', decide_eq_false_iff_not, not_not, Bool.and_eq_false_imp,
    decide_eq_true_eq] at hchecks
  obtain ⟨hrev, hmax, ⟨⟨⟨⟨⟨hold, -⟩, -⟩, -⟩, hid⟩, htr⟩, hsnap, -, hint, hres, -⟩ := hchecks
  refine ⟨hrev, hold, UInt64.not_le.1 hmax, ?_, htr, hsnap, ?_, ?_, hvalid⟩
  · exact of_decide_eq_true hid
  · exact List.isPrefixOf_iff_prefix.1 hint
  · exact List.isPrefixOf_iff_prefix.1 hres

theorem DisplacementUpdateAccepted.updated_valid (h : DisplacementUpdateAccepted old new expected)
    (now : GoTime) :
    validateLLMDisplacementIdentity (updatedDisplacement old new now) = .ok () := by
  rw [← h.valid, updatedDisplacement, h.revision, h.oldRevision]
  rfl

/-- **No phase of reconciliation is left.** -/
theorem displacementTransitionAllowed_reconciliation {src dst : GoString}
    (h : src ∈ reconciliationPhases) : displacementTransitionAllowed src dst = false := by
  have hidx : ∀ s ∈ reconciliationPhases, displacementPhases.idxOf? s = none := by decide
  unfold displacementTransitionAllowed
  split_ifs with hd
  · simp [h]
  · rw [hidx src h]

variable {now : GoTime}

/-- **What a create asserts:** a valid row in phase `planned` with the identity it was given and no
snapshot. -/
theorem prepareLLMDisplacementCreate_eq_ok {op : Option LLMDisplacementOperation}
    (h : prepareLLMDisplacementCreate op now = .ok p) :
    ∃ o, op = some o ∧ p.identity = o.identity ∧
      validateLLMDisplacementIdentity p = .ok () ∧ p.phase = "planned" ∧
      p.snapshotIdentity = [] := by
  revert h
  fun_cases prepareLLMDisplacementCreate op now with
  | case4 o out hplan out' _ hv =>
    rintro ⟨⟩
    simp only [isUnsealedPlan, Bool.not_eq_true', Bool.not_eq_false, Bool.and_eq_true,
      decide_eq_true_eq] at hplan
    refine ⟨o, rfl, ?_, hv, by simp [withDisplacementTimes, out', hplan],
      by simp [withDisplacementTimes, out', hplan]⟩
    change (withPlannedPhase o).identity = o.identity
    unfold withPlannedPhase
    split_ifs <;> rfl
  | _ => exact nofun

/-! ## Identity -/

/-- The text of the row's identity determines it. -/
def FaithfulIdentity (op : LLMDisplacementOperation) : Prop := ∀ f ∈ identityFields op, f.Faithful

instance : DecidablePred FaithfulIdentity := fun op =>
  inferInstanceAs (Decidable (∀ f ∈ identityFields op, f.Faithful))

theorem bindingFields_inj {b b' : LLMDisplacementModelBinding}
    (h : bindingFields b = bindingFields b') : b = b' := by
  cases b
  cases b'
  simpa [bindingFields] using h

theorem leaseFields_inj {l l' : Option AcceleratorLease} (h : leaseFields l = leaseFields l') :
    l = l' := by
  cases l with
  | none =>
    cases l' with
    | none => rfl
    | some l' => simp [leaseFields] at h
  | some l =>
    cases l' with
    | none => simp [leaseFields] at h
    | some l' =>
      cases l
      cases l'
      simpa [leaseFields, Int64.toInt_inj] using h

variable {op' : LLMDisplacementOperation}

theorem identity_eq_of_fields
    (h : identityFields op = identityFields op') : op'.identity = op.identity := by
  obtain ⟨hscalars, h⟩ := List.append_inj h rfl
  obtain ⟨hvictim, h⟩ := List.append_inj h rfl
  obtain ⟨hurgent, hlease⟩ := List.append_inj h rfl
  simp only [List.cons.injEq, JSONField.string.injEq, JSONField.number.injEq, Nat.cast_inj,
    UInt64.toNat_inj, and_true] at hscalars
  simp only [LLMDisplacementOperation.identity, hscalars, bindingFields_inj hvictim,
    bindingFields_inj hurgent, leaseFields_inj hlease]

theorem identityFields_of_identity (h : op'.identity = op.identity) :
    identityFields op' = identityFields op := by
  simp only [LLMDisplacementOperation.identity, DisplacementIdentity.mk.injEq] at h
  simp only [identityFields, h]

/-! ## One step of a row -/

variable {m m' : MemoryStore} {c : StoreCall} {k : GoString} {row row' : LLMDisplacementOperation}

/-- The row keeps what has been recorded. -/
structure DisplacementKept (row row' : LLMDisplacementOperation) : Prop where
  intents : row.commandIntents <+: row'.commandIntents
  results : row.observedResults <+: row'.observedResults
  createdAt : row'.createdAt = row.createdAt
  snapshot : row.snapshotIdentity ≠ [] → row'.snapshotIdentity = row.snapshotIdentity

/-- What one call may change of a row. -/
structure DisplacementStep (row row' : LLMDisplacementOperation) : Prop
    extends DisplacementKept row row' where
  identity : marshalRecord (identityFields row) = marshalRecord (identityFields row')
  revision : row' = row ∨ row'.revision.toNat = row.revision.toNat + 1
  transition : row' = row ∨ displacementTransitionAllowed row.phase row'.phase = true
  valid : row' = row ∨ validateLLMDisplacementIdentity row' = .ok ()

theorem DisplacementStep.refl (row : LLMDisplacementOperation) : DisplacementStep row row :=
  ⟨⟨List.prefix_rfl, List.prefix_rfl, rfl, fun _ => rfl⟩, rfl, .inl rfl, .inl rfl, .inl rfl⟩

theorem DisplacementUpdateAccepted.updated_revision
    (h : DisplacementUpdateAccepted old new expected) (now : GoTime) :
    (updatedDisplacement old new now).revision.toNat = old.revision.toNat + 1 := by
  -- The expected revision is below `math.MaxInt64`, so the addition does not wrap.
  have hlt : old.revision.toNat < 2 ^ 63 - 1 := by
    rw [h.oldRevision]
    have hb := UInt64.lt_iff_toNat_lt.1 h.bounded
    rwa [show maxInt64.toNat = 2 ^ 63 - 1 by decide] at hb
  show (old.revision + 1).toNat = old.revision.toNat + 1
  rw [UInt64.toNat_add, show (1 : UInt64).toNat = 1 from rfl]
  omega

theorem DisplacementUpdateAccepted.step (h : DisplacementUpdateAccepted old new expected)
    (now : GoTime) : DisplacementStep old (updatedDisplacement old new now) := by
  exact ⟨⟨h.intents, h.results, rfl, h.snapshot⟩, h.identity, .inr (h.updated_revision now),
    .inr h.transition, .inr (h.updated_valid now)⟩

/-- **Rows are never lost,** and each takes at most one step at a call. -/
theorem StoreStep.displacementStep (h : StoreStep m c m')
    (hk : m.llmDisplacementOps.lookup k = some row) :
    ∃ row', m'.llmDisplacementOps.lookup k = some row' ∧ DisplacementStep row row' := by
  have hadvances :
      Advances DisplacementStep k m.llmDisplacementOps m'.llmDisplacementOps := by
    cases h.displacementChange with
    | keep he =>
      rw [he]
      exact advances_refl .refl _ _
    | create op now worldNow order p hc hp hfree hcustody hres he =>
      rw [he]
      exact advances_insert_new .refl hfree _
    | update old new expected now hl hv he =>
      rw [he]
      exact advances_insert .refl hl ((validateDisplacementUpdate_eq_ok hv).step now)
  exact hadvances row hk

/-- The call creates the row `p` in the store. -/
def CreatesDisplacement (m : MemoryStore) (c : StoreCall) (p : LLMDisplacementOperation) : Prop :=
  ∃ op now worldNow order, c = .createDisplacement op now worldNow order ∧
    (createLLMDisplacementOperation m op now worldNow order).2 = .ok (p, true)

/-- What is known of a row that a call creates. -/
structure DisplacementCreated (m : MemoryStore) (c : StoreCall) (p : LLMDisplacementOperation) :
    Prop where
  creates : CreatesDisplacement m c p
  valid : validateLLMDisplacementIdentity p = .ok ()
  planned : p.phase = "planned"
  noCustody : ∀ k row, m.llmDisplacementOps.lookup k = some row →
    custodyOn p.acceleratorID ⟨k, row⟩ = false

/-- **Where a row found after a call comes from:** a row of before by one step, or its creation. -/
theorem StoreStep.displacement_origin (h : StoreStep m c m')
    (hk : m'.llmDisplacementOps.lookup k = some row') :
    (∃ row, m.llmDisplacementOps.lookup k = some row ∧ DisplacementStep row row') ∨
      k = row'.id ∧ DisplacementCreated m c row' := by
  cases h.displacementChange with
  | keep he => exact .inl ⟨row', he ▸ hk, .refl row'⟩
  | create op now worldNow order p hc hp hfree hcustody hres he =>
    rcases of_lookup_insert (he ▸ hk) with ⟨hkp, rfl⟩ | ⟨-, hk⟩
    · obtain ⟨o, -, -, hv, hphase, -⟩ := prepareLLMDisplacementCreate_eq_ok hp
      exact .inr ⟨hkp, ⟨op, now, worldNow, order, hc, hres⟩, hv, hphase, hcustody⟩
    · exact .inl ⟨row', hk, .refl row'⟩
  | update old new expected now hl hv he =>
    rcases of_lookup_insert (he ▸ hk) with ⟨rfl, rfl⟩ | ⟨-, hk⟩
    · exact .inl ⟨old, hl, (validateDisplacementUpdate_eq_ok hv).step now⟩
    · exact .inl ⟨row', hk, .refl row'⟩

theorem Reachable.displacement_valid (h : Reachable m)
    (hk : m.llmDisplacementOps.lookup k = some row) :
    validateLLMDisplacementIdentity row = .ok () := by
  obtain ⟨tr, h⟩ := h
  refine h.invariant (I := fun m => ∀ k row, m.llmDisplacementOps.lookup k = some row →
    validateLLMDisplacementIdentity row = .ok ()) ?_ ?_ k row hk
  · intro k row hk
    cases hk
  · intro m c m' hm hs k row' hk'
    rcases hs.displacement_origin hk' with ⟨row, hk, hr⟩ | ⟨-, hcr⟩
    · rcases hr.valid with rfl | hv
      · exact hm k row' hk
      · exact hv
    · exact hcr.valid

/-! ## Histories -/

/-- A row that the transition creates satisfies `P`. -/
def createsOnly (P : LLMDisplacementOperation → Prop) [DecidablePred P]
    (t : Transition MemoryStore StoreCall) : Bool :=
  match t.label with
  | .createDisplacement op now worldNow order =>
    match (createLLMDisplacementOperation t.pre op now worldNow order).2 with
    | .ok (p, true) => P p
    | _ => true
  | _ => true

variable {P : LLMDisplacementOperation → Prop}

theorem of_createsOnly [DecidablePred P]
    (h : createsOnly P ⟨m, c, m'⟩ = true) (hc : CreatesDisplacement m c p) : P p := by
  obtain ⟨op, now, worldNow, order, rfl, hres⟩ := hc
  simpa [createsOnly, hres] using h

variable {tr : List (Transition MemoryStore StoreCall)}

/-- **A property of rows that every step keeps** holds of all rows if it holds of the created
ones. -/
theorem run_rows [DecidablePred P] (h : Run StoreStep newMemoryStore tr m)
    (hC : ∀ t ∈ tr, createsOnly P t = true)
    (hstep : ∀ row row', P row → DisplacementStep row row' → P row')
    (hk : m.llmDisplacementOps.lookup k = some row) : P row := by
  refine h.invariant_of (C := fun t => createsOnly P t = true)
    (I := fun m => ∀ k row, m.llmDisplacementOps.lookup k = some row → P row) hC ?_ ?_ k row hk
  · intro k row hk
    cases hk
  · intro m c m' hm hs hc k row' hk'
    rcases hs.displacement_origin hk' with ⟨row, hk, hr⟩ | ⟨-, hcr⟩
    · exact hstep row row' (hm k row hk) hr
    · exact of_createsOnly hc hcr.creates

theorem FaithfulIdentity.of_identity_eq (h : FaithfulIdentity row)
    (he : row'.identity = row.identity) : FaithfulIdentity row' := by
  rwa [FaithfulIdentity, identityFields_of_identity he]

theorem DisplacementStep.identity_eq (h : DisplacementStep row row') (hf : FaithfulIdentity row) :
    row'.identity = row.identity :=
  identity_eq_of_fields (eq_of_marshalRecord_eq hf h.identity)

theorem DisplacementStep.faithful (hf : FaithfulIdentity row) (h : DisplacementStep row row') :
    FaithfulIdentity row' :=
  hf.of_identity_eq (h.identity_eq hf)

/-- What a run may change of a row. -/
structure DisplacementHistory (row row' : LLMDisplacementOperation) : Prop
    extends DisplacementKept row row' where
  identity : FaithfulIdentity row → row'.identity = row.identity
  reconciliation : row.phase ∈ reconciliationPhases → row'.phase = row.phase

theorem DisplacementHistory.trans {r₁ r₂ r₃ : LLMDisplacementOperation}
    (h : DisplacementHistory r₁ r₂) (h' : DisplacementHistory r₂ r₃) :
    DisplacementHistory r₁ r₃ := by
  refine ⟨⟨h.intents.trans h'.intents, h.results.trans h'.results,
    h'.createdAt.trans h.createdAt, fun hs => ?_⟩, fun hf => ?_, fun hp => ?_⟩
  · rw [← h.snapshot hs]
    exact h'.snapshot (by rwa [h.snapshot hs])
  · rw [← h.identity hf]
    exact h'.identity (hf.of_identity_eq (h.identity hf))
  · rw [← h.reconciliation hp]
    exact h'.reconciliation (by rwa [h.reconciliation hp])

theorem DisplacementStep.history (h : DisplacementStep row row') :
    DisplacementHistory row row' := by
  refine ⟨h.toDisplacementKept, h.identity_eq, fun hp => ?_⟩
  rcases h.transition with rfl | ht
  · rfl
  · rw [displacementTransitionAllowed_reconciliation hp] at ht
    cases ht

theorem run_displacementHistory
    (h : Run StoreStep m tr m') (hk : m.llmDisplacementOps.lookup k = some row) :
    ∃ row', m'.llmDisplacementOps.lookup k = some row' ∧ DisplacementHistory row row' := by
  have hadvances :
      Advances DisplacementHistory k m.llmDisplacementOps m'.llmDisplacementOps := by
    refine h.rel (R := fun m m' =>
      Advances DisplacementHistory k m.llmDisplacementOps m'.llmDisplacementOps) ?_ ?_ ?_
    · intro m
      exact advances_refl (fun row => (DisplacementStep.refl row).history) _ _
    · intro m₁ m₂ m₃ h₁₂ h₂₃
      exact h₁₂.trans DisplacementHistory.trans h₂₃
    · intro m c m' hs row hk
      obtain ⟨row', hk', hr⟩ := hs.displacementStep hk
      exact ⟨row', hk', hr.history⟩
  exact hadvances row hk

/-- **Histories of displacement rows** with faithful identities. Stored rows are valid and a
completed one carries all intents and results, bound to their commands. A row stays, its intents and
results only grow, its identity is unchanged, a phase of reconciliation is not left, and each change
counts the revision by one. -/
theorem displacement_history {tr tr' : List (Transition MemoryStore StoreCall)}
    (h : Run StoreStep newMemoryStore tr m) (hC : ∀ t ∈ tr, createsOnly FaithfulIdentity t = true)
    (h' : Run StoreStep m tr' m') :
    (∀ k row, m.llmDisplacementOps.lookup k = some row →
      validateLLMDisplacementIdentity row = .ok () ∧
      row.commandIntents.map (·.step) <+: displacementSteps ∧
      row.observedResults.map (·.step) <+: displacementSteps ∧
      (row.phase = "completed" →
        row.commandIntents.map (·.step) = displacementSteps ∧
        row.observedResults.map (·.step) = displacementSteps ∧
        row.observedResults.map (·.commandID) = row.commandIntents.map (·.commandID))) ∧
    (∀ k row, m.llmDisplacementOps.lookup k = some row →
      ∃ row', m'.llmDisplacementOps.lookup k = some row' ∧
        row.commandIntents <+: row'.commandIntents ∧
        row.observedResults <+: row'.observedResults ∧
        row'.identity = row.identity ∧ row'.createdAt = row.createdAt ∧
        (row.snapshotIdentity ≠ [] → row'.snapshotIdentity = row.snapshotIdentity) ∧
        (row.phase ∈ reconciliationPhases → row'.phase = row.phase)) ∧
    (∀ t ∈ tr', ∀ k row row', t.pre.llmDisplacementOps.lookup k = some row →
      t.post.llmDisplacementOps.lookup k = some row' →
        row' = row ∨ row'.revision.toNat = row.revision.toNat + 1) ∧
    (∀ op expected now row', (updateLLMDisplacementOperation m op expected now).2 = .ok row' →
      ∃ row, m.llmDisplacementOps.lookup row'.id = some row ∧
        row'.revision.toNat = row.revision.toNat + 1) := by
  refine ⟨?_, ?_, ?_, ?_⟩
  · intro k row hk
    have hv := Reachable.displacement_valid ⟨tr, h⟩ hk
    have hh := validHistory_of_valid hv
    exact ⟨hv, hh.intents, hh.results, hh.all_steps⟩
  · intro k row hk
    obtain ⟨row', hk', hr⟩ := run_displacementHistory h' hk
    have hf : FaithfulIdentity row := run_rows h hC (fun _ _ hf hs => hs.faithful hf) hk
    exact ⟨row', hk', hr.intents, hr.results, hr.identity hf, hr.createdAt,
      hr.snapshot, hr.reconciliation⟩
  · intro t ht k row row' hk hk'
    obtain ⟨_, _, _, _, hs, _⟩ := h'.split_mem ht
    obtain ⟨row'', hk'', hr⟩ := hs.displacementStep hk
    obtain rfl := Option.mem_unique hk' hk''
    exact hr.revision
  · intro op expected now row' hrow'
    rcases updateLLMDisplacementOperation_cases m op expected now with
      ⟨e, he⟩ | ⟨old, new, -, hl, hv, he⟩
    · rw [he] at hrow'
      cases hrow'
    · rw [he] at hrow'
      obtain rfl := Except.ok.inj hrow'
      exact ⟨old, hl, (validateDisplacementUpdate_eq_ok hv).updated_revision now⟩

/-! ## A row whose identity is rewritten -/

def sampleBinding (a plan : GoString) : LLMDisplacementModelBinding :=
  { targetID := "target", nodeID := "node", acceleratorID := a, catalogModel := "model"
    catalogAliases := ["alias"], actualAlias := "alias", localPlanID := "local"
    localPlanHash := "hash", controllerPlanID := plan, controllerPlanHash := "hash"
    artifactID := "artifact", artifactDigest := "digest", runtimeIdentity := "runtime"
    profileIdentity := "profile", contextIdentity := "context", checkpointID := "checkpoint"
    checkpointDigest := "digest", proofBinding := "proof" }

/-- The displacement of `victim` by `urgent` on the accelerator. -/
def sampleDisplacement (a : GoString) : LLMDisplacementOperation :=
  { id := "d", idempotencyKey := "key", ownerID := "owner", victimWorkloadID := "victim"
    victimOwnerID := "owner", victimWorkloadRevision := 1, urgentWorkloadID := "urgent"
    urgentOwnerID := "owner", urgentWorkloadRevision := 1, acceleratorID := a, nodeID := "node"
    originalLease := some ⟨a, "victim", 1, ⟨10, 0⟩⟩, fence := 1
    victimBinding := sampleBinding a "plan1", urgentBinding := sampleBinding a "plan2"
    proofBinding := "proof", phase := "planned" }

/-- The row with its first intent sealed. -/
def samplePause (a : GoString) : LLMDisplacementOperation :=
  { sampleDisplacement a with
    phase := "pause_intent_sealed", revision := 1
    commandIntents := [⟨"pause", "command", "digest", "signature"⟩] }

/-- A workload of the displacement, with the plan that its binding names. -/
def sampleWorkload (a id planID : GoString) : Workload :=
  { requestID := id, requestOwnerID := "owner", revision := 1, progressNode := "node"
    plan := some { id := planID, workloadID := id, planHash := "hash", targetID := "target"
                   acceleratorID := a } }

def sampleWorkloads (a : GoString) : GoMap Workload :=
  AList.insert "urgent" (sampleWorkload a "urgent" "plan2")
    (AList.insert "victim" (sampleWorkload a "victim" "plan1") ∅)

/-- A displacement is created on the accelerator `a` and then updated by one on `b`. -/
def displaceAndRewrite (a b : GoString) : List (MemoryStore → StoreCall) :=
  [fun _ => .setWorkloads (sampleWorkloads a),
   fun m => .acquire a "victim" [] 10 {} (.ofStore m),
   fun m => .createDisplacement (some (sampleDisplacement a)) {} {} m.llmDisplacementOps.entries,
   fun _ => .updateDisplacement (some (samplePause b)) 1 {}]

theorem displaceAndRewrite_admissible (a b : GoString) :
    ∀ c ∈ displaceAndRewrite a b, ∀ m, (c m).Admissible m := by
  simp [displaceAndRewrite, StoreCall.Admissible, ScanOrders.of_ofStore, rangeOrder_entries]

/-- The history at a row whose accelerator has a faithful name. -/
theorem displacement_history_paused :
    let m := afterScript newMemoryStore (displaceAndRewrite "gpu" "gpu")
    (m.llmDisplacementOps.lookup (ofString "d")).map (·.phase) =
      some (ofString "pause_intent_sealed") ∧
    ∀ k row, m.llmDisplacementOps.lookup k = some row →
      validateLLMDisplacementIdentity row = .ok () :=
  ⟨by decide, fun k row hk => ((displacement_history
    (run_script (displaceAndRewrite_admissible "gpu" "gpu") newMemoryStore) (by decide) .nil).1
      k row hk).1⟩

/-- The accelerators `g\xff` and `g\xfe` have one JSON text, and an update is accepted that moves
the row from the first to the second. -/
theorem identity_rewritten :
    let calls := displaceAndRewrite [0x67, 0xff] [0x67, 0xfe]
    Run StoreStep newMemoryStore (script newMemoryStore calls) (afterScript newMemoryStore calls) ∧
    ((afterScript newMemoryStore (calls.take 3)).llmDisplacementOps.lookup (ofString "d")).map
      (fun row => (row.acceleratorID, row.phase)) = some ([0x67, 0xff], ofString "planned") ∧
    ((afterScript newMemoryStore calls).llmDisplacementOps.lookup (ofString "d")).map
      (fun row => (row.acceleratorID, row.phase)) =
        some ([0x67, 0xfe], ofString "pause_intent_sealed") :=
  ⟨run_script (displaceAndRewrite_admissible _ _) _, by decide, by decide⟩

/-! ## Replays of a create -/

end VramGovernor.Store
