import VramGovernor.Store.DisplacementRows

/-!
# Custody of an accelerator

A displacement row keeps its accelerator until it is completed: no acquire on the accelerator is
granted, whatever becomes of the lease, and no second displacement can be opened there
(`custody_exclusive`). Custody is read from the accelerator that the row names, so it is lost if an
update renames the accelerator. That cannot happen to a row whose accelerator is UTF-8 and whose
identity has a JSON text; `custody_lost` shows it happening to another row.
-/

namespace VramGovernor.Store

open GoString

variable {m m' : MemoryStore} {c : StoreCall} {k : GoString} {row row' : LLMDisplacementOperation}

/-- The JSON text of the row's identity exists and determines its accelerator. -/
def FaithfulAccelerator (row : LLMDisplacementOperation) : Prop :=
  ValidUTF8 row.acceleratorID ∧ (marshalRecord (identityFields row)).isSome = true

instance : DecidablePred FaithfulAccelerator := fun row =>
  inferInstanceAs (Decidable (ValidUTF8 row.acceleratorID ∧ _))

section

variable (h : DisplacementStep row row')
include h

theorem DisplacementStep.acceleratorID_eq
    (hf : FaithfulAccelerator row) : row'.acceleratorID = row.acceleratorID := by
  obtain ⟨hv, hs⟩ := hf
  obtain ⟨ts, hts⟩ := Option.isSome_iff_exists.1 hs
  -- The accelerator is the tenth field of the text.
  have hold : ts[9]? = some (.string (jsonString row.acceleratorID)) :=
    getElem?_of_marshalRecord hts 9
  have hnew : ts[9]? = some (.string (jsonString row'.acceleratorID)) :=
    getElem?_of_marshalRecord (h.identity ▸ hts) 9
  have hjson : jsonString row.acceleratorID = jsonString row'.acceleratorID := by
    simpa using hold.symm.trans hnew
  exact (eq_of_jsonString_eq hv hjson).symm

theorem DisplacementStep.faithfulAccelerator
    (hf : FaithfulAccelerator row) : FaithfulAccelerator row' := by
  refine ⟨?_, ?_⟩
  · rw [h.acceleratorID_eq hf]
    exact hf.1
  · rw [← h.identity]
    exact hf.2

theorem DisplacementStep.eq_of_completed (hc : row.phase = "completed") : row' = row := by
  rcases h.transition with he | ht
  · exact he
  · have hnone : ∀ dst, displacementTransitionAllowed "completed" dst = false := by
      intro dst
      unfold displacementTransitionAllowed
      split_ifs
      · rfl
      · rfl
    rw [hc, hnone] at ht
    cases ht

end

theorem run_acceleratorID {tr : List (Transition MemoryStore StoreCall)} (h : Run StoreStep m tr m')
    (hk : m.llmDisplacementOps.lookup k = some row) (hf : FaithfulAccelerator row) :
    ∃ row', m'.llmDisplacementOps.lookup k = some row' ∧
      row'.acceleratorID = row.acceleratorID := by
  obtain ⟨row', hk', he, -⟩ := h.invariant (I := fun m' => ∃ row',
    m'.llmDisplacementOps.lookup k = some row' ∧ row'.acceleratorID = row.acceleratorID ∧
      FaithfulAccelerator row') ⟨row, hk, rfl, hf⟩ (by
    rintro m₁ c m₂ ⟨r₁, hk₁, he₁, hf₁⟩ hs
    obtain ⟨r₂, hk₂, hr⟩ := hs.displacementStep hk₁
    exact ⟨r₂, hk₂, (hr.acceleratorID_eq hf₁).trans he₁, hr.faithfulAccelerator hf₁⟩)
  exact ⟨row', hk', he⟩

theorem custodyOn_of_unresolved (hp : row.phase ≠ "completed") :
    custodyOn row.acceleratorID ⟨k, row⟩ = true := by
  simp [custodyOn, displacementRecordRetainsCustody, hp]

theorem acquire_refused_of_custody (hk : m.llmDisplacementOps.lookup k = some row)
    (hp : row.phase ≠ "completed") {o : ScanOrders} (ho : o.Of m) (w opID : GoString) (ttl : ℤ)
    (now : GoTime) :
    (acquireAcceleratorLease m row.acceleratorID w opID ttl now o).2.2 = false := by
  rcases acquireAcceleratorLease_cases ho row.acceleratorID w opID ttl now with
    ⟨l, hl⟩ | ⟨r, hr, -⟩
  · rw [hl]
  · have hno := hr.noCustody k row hk
    rw [custodyOn_of_unresolved hp] at hno
    cases hno

/-- All rows have faithful accelerators, and no two rows that are not completed name one
accelerator. -/
structure CustodyInvariant (m : MemoryStore) : Prop where
  faithful : ∀ k row, m.llmDisplacementOps.lookup k = some row → FaithfulAccelerator row
  exclusive : ∀ k k' row row', k ≠ k' → m.llmDisplacementOps.lookup k = some row →
    m.llmDisplacementOps.lookup k' = some row' → row.phase ≠ "completed" →
    row'.phase ≠ "completed" → row.acceleratorID ≠ row'.acceleratorID

variable {p : LLMDisplacementOperation}

theorem DisplacementCreated.acceleratorID_ne (h : DisplacementCreated m c p)
    (hk : m.llmDisplacementOps.lookup k = some row) (hp : row.phase ≠ "completed") :
    p.acceleratorID ≠ row.acceleratorID := by
  intro he
  have hno := h.noCustody k row hk
  rw [he, custodyOn_of_unresolved hp] at hno
  cases hno

theorem DisplacementStep.unresolved (h : DisplacementStep row row')
    (hp : row'.phase ≠ "completed") : row.phase ≠ "completed" := by
  intro hc
  exact hp (by rw [h.eq_of_completed hc, hc])

theorem CreatesDisplacement.unique {p' : LLMDisplacementOperation} (h : CreatesDisplacement m c p)
    (h' : CreatesDisplacement m c p') : p = p' := by
  obtain ⟨op, now, worldNow, order, hc, hres⟩ := h
  obtain ⟨op', now', worldNow', order', hc', hres'⟩ := h'
  obtain ⟨rfl, rfl, rfl, rfl⟩ := StoreCall.createDisplacement.inj (hc.symm.trans hc')
  simpa using hres.symm.trans hres'

theorem StoreStep.custodyInvariant (h : StoreStep m c m') (hm : CustodyInvariant m)
    (hC : createsOnly FaithfulAccelerator ⟨m, c, m'⟩ = true) : CustodyInvariant m' := by
  constructor
  · intro k row' hk'
    rcases h.displacement_origin hk' with ⟨row, hk, hs⟩ | ⟨-, hcr⟩
    · exact hs.faithfulAccelerator (hm.faithful k row hk)
    · exact of_createsOnly hC hcr.creates
  · intro k k' row row' hne hk hk' hp hp'
    rcases h.displacement_origin hk with ⟨r, hr, hs⟩ | ⟨hid, hcr⟩
    · rw [hs.acceleratorID_eq (hm.faithful k r hr)]
      rcases h.displacement_origin hk' with ⟨r', hr', hs'⟩ | ⟨hid', hcr'⟩
      · rw [hs'.acceleratorID_eq (hm.faithful k' r' hr')]
        exact hm.exclusive k k' r r' hne hr hr' (hs.unresolved hp) (hs'.unresolved hp')
      · exact (hcr'.acceleratorID_ne hr (hs.unresolved hp)).symm
    · rcases h.displacement_origin hk' with ⟨r', hr', hs'⟩ | ⟨hid', hcr'⟩
      · rw [hs'.acceleratorID_eq (hm.faithful k' r' hr')]
        exact hcr.acceleratorID_ne hr' (hs'.unresolved hp')
      · exact absurd (by rw [hid, hid', hcr.creates.unique hcr'.creates]) hne

theorem custodyInvariant_new : CustodyInvariant newMemoryStore := by
  constructor
  · intro k row hk
    cases hk
  · intro k k' row row' hne hk
    cases hk

theorem StoreStep.lookup_created (h : StoreStep m c m') (hp : CreatesDisplacement m c p) :
    m'.llmDisplacementOps.lookup p.id = some p := by
  obtain ⟨op, now, worldNow, order, rfl, hres⟩ := hp
  obtain ⟨-, rfl⟩ := h
  rcases createLLMDisplacementOperation_cases m op now worldNow order with
    ⟨-, hne⟩ | ⟨p', -, -, -, he⟩
  · exact absurd hres (hne p)
  · obtain rfl : p' = p := by simpa [he] using hres
    simp only [StoreCall.exec, he]
    exact AList.lookup_insert _

/-- **Custody is exclusive and lasts** for rows with faithful accelerators: from its creation until
a row is completed, no acquire on its accelerator is granted, and no two such rows name one
accelerator. -/
theorem custody_exclusive {tr : List (Transition MemoryStore StoreCall)}
    (h : Run StoreStep newMemoryStore tr m)
    (hC : ∀ t ∈ tr, createsOnly FaithfulAccelerator t = true) :
    (∀ t ∈ tr, ∀ p, CreatesDisplacement t.pre t.label p →
      ∃ row, m.llmDisplacementOps.lookup p.id = some row ∧
        (row.phase ≠ "completed" → ∀ w opID ttl now (o : ScanOrders), o.Of m →
          (acquireAcceleratorLease m p.acceleratorID w opID ttl now o).2.2 = false)) ∧
    (∀ k k' row row', k ≠ k' → m.llmDisplacementOps.lookup k = some row →
      m.llmDisplacementOps.lookup k' = some row' → displacementUnresolved row.phase = true →
      displacementUnresolved row'.phase = true → row.acceleratorID ≠ row'.acceleratorID) := by
  constructor
  · intro t ht p hp
    obtain ⟨l₁, l₂, rfl, -, hs, hpost⟩ := h.split_mem ht
    have hf : FaithfulAccelerator p := of_createsOnly (hC t ht) hp
    obtain ⟨row, hrow, hacc⟩ := run_acceleratorID hpost (hs.lookup_created hp) hf
    refine ⟨row, hrow, fun hphase w opID ttl now o ho => ?_⟩
    rw [← hacc]
    exact acquire_refused_of_custody hrow hphase ho w opID ttl now
  · intro k k' row row' hne hk hk' hp hp'
    have hinv : CustodyInvariant m :=
      h.invariant_of hC custodyInvariant_new fun _ _ _ hm hs hc => hs.custodyInvariant hm hc
    exact hinv.exclusive k k' row row' hne hk hk' (of_decide_eq_true hp) (of_decide_eq_true hp')

/-- A displacement on `a`, updated by one on `b`, after which the victim's lease is released. -/
def displaceAndRelease (a b : GoString) : List (MemoryStore → StoreCall) :=
  displaceAndRewrite a b ++ [fun _ => .release a "victim" 1]

theorem displaceAndRelease_admissible (a b : GoString) :
    ∀ c ∈ displaceAndRelease a b, ∀ m, (c m).Admissible m := by
  intro c hc
  rcases of_mem_snoc hc with hc | rfl
  · exact displaceAndRewrite_admissible a b c hc
  · exact fun _ => trivial

/-- Custody of the accelerator `gpu` after its lease has been released. -/
theorem custody_exclusive_gpu :
    let m := afterScript newMemoryStore (displaceAndRelease "gpu" "gpu")
    m.leases.lookup (ofString "gpu") = none ∧
    (m.llmDisplacementOps.lookup (ofString "d")).map (·.phase) =
      some (ofString "pause_intent_sealed") ∧
    ∃ row, m.llmDisplacementOps.lookup (ofString "d") = some row ∧
      (row.phase ≠ "completed" → ∀ w opID ttl now (o : ScanOrders), o.Of m →
        (acquireAcceleratorLease m "gpu" w opID ttl now o).2.2 = false) :=
  ⟨by decide, by decide,
    (custody_exclusive (run_script (displaceAndRelease_admissible "gpu" "gpu") newMemoryStore)
      (by decide)).1 _ (.tail _ (.tail _ (.head _)))
      (withDisplacementTimes { sampleDisplacement "gpu" with revision := 1 } {})
      ⟨_, _, _, _, rfl, by decide⟩⟩

/-- A row on the accelerator `g\xff` is renamed to `g\xfe`, and another workload is granted the
accelerator before the row is completed. -/
theorem custody_lost :
    let m := afterScript newMemoryStore (displaceAndRelease [0x67, 0xff] [0x67, 0xfe])
    Reachable m ∧
    (m.llmDisplacementOps.lookup (ofString "d")).map (·.phase) =
      some (ofString "pause_intent_sealed") ∧
    (acquireAcceleratorLease m [0x67, 0xff] "other" [] 10 {} (.ofStore m)).2.2 = true :=
  ⟨⟨_, run_script (displaceAndRelease_admissible _ _) _⟩, by decide, by decide⟩

end VramGovernor.Store
