import Mathlib.Data.List.Dedup
import VramGovernor.Workloads.PlacementSteps
import VramGovernor.Workloads.ReleaseElection

/-!
# The accelerator limit of a model

A model may run on a limited number of local accelerators. `reserveTarget` tests the limit in its
first critical section only, so two admissions can both pass the test and then both publish a lease
(`concurrent_admissions_exceed_limit`). If every publication would pass the test again, and no other
target has the accelerator of a local one, the limit holds in every state (`model_limit_kept`).
-/

namespace VramGovernor.Workloads

open GoString GoMap Store Manager

/-! ## The accelerators of a model -/

/-- The target runs on an accelerator of a node. -/
def Target.isLocal (target : Target) : Bool := target.acceleratorID ≠ [] && !target.cloud

theorem leaseID_of_isLocal {target : Target} (h : target.isLocal = true) :
    leaseID target = target.acceleratorID ∧ target.acceleratorID ≠ [] := by
  simp only [Target.isLocal, Bool.and_eq_true, decide_eq_true_eq] at h
  exact ⟨if_neg h.1, h.1⟩

/-- The placement is on a local target. -/
def Manager.onLocal (m : Manager) (p : ActivePlacement) : Bool :=
  (m.targets.entries.lookup p.targetID).any (·.isLocal)

/-- The accelerators on which the model has a placement on a local target. -/
def Manager.localAccelerators (m : Manager) (model : GoString) : List GoString :=
  ((m.activePlacements.entries.filter fun e => e.2.model = model && m.onLocal e.2).map
    (·.2.acceleratorID)).dedup

variable {adm : Admission}

section

variable {m m' : Manager} {model acc : GoString} {p : ActivePlacement}

variable {k : GoString}

theorem Manager.mem_placements (h : m.activePlacements.lookup k = some p) :
    m.placements.lookup k = some p.facts := by
  rw [placements, lookup_mapValues, h]
  rfl

theorem Manager.of_mem_placements (h : m.placements.lookup k = some p) :
    ∃ q, m.activePlacements.lookup k = some q ∧ q.facts = p := by
  rw [placements, lookup_mapValues] at h
  simpa using h

theorem Manager.mem_localAccelerators : acc ∈ m.localAccelerators model ↔
    ∃ k p, m.placements.lookup k = some p ∧ p.model = model ∧ m.onLocal p = true ∧
      p.acceleratorID = acc := by
  simp only [localAccelerators, List.mem_dedup, List.mem_map, List.mem_filter, Bool.and_eq_true,
    decide_eq_true_eq, Sigma.exists, (rangeOrder_entries _).mem_iff]
  constructor
  · rintro ⟨k, p, ⟨hl, hm, hlocal⟩, hacc⟩
    exact ⟨k, p.facts, mem_placements hl, hm, hlocal, hacc⟩
  · rintro ⟨k, p, hl, hm, hlocal, hacc⟩
    obtain ⟨q, hq, rfl⟩ := of_mem_placements hl
    exact ⟨k, q, ⟨hq, hm, hlocal⟩, hacc⟩

theorem Manager.mem_activeAccelerators : acc ∈ m.activeAccelerators model ↔
    acc ≠ [] ∧ ∃ k p, m.placements.lookup k = some p ∧ p.model = model ∧ p.acceleratorID = acc := by
  simp only [activeAccelerators, List.mem_dedup, List.mem_map, List.mem_filter, Bool.and_eq_true,
    decide_eq_true_eq, Sigma.exists, (rangeOrder_entries _).mem_iff]
  constructor
  · rintro ⟨k, p, ⟨hl, hm, hne⟩, rfl⟩
    exact ⟨hne, k, p.facts, mem_placements hl, hm, rfl⟩
  · rintro ⟨hne, k, p, hl, hm, rfl⟩
    obtain ⟨q, hq, rfl⟩ := of_mem_placements hl
    exact ⟨k, q, ⟨hq, hm, hne⟩, rfl⟩

theorem Manager.length_localAccelerators_le {l : List GoString}
    (h : m.localAccelerators model ⊆ l) : (m.localAccelerators model).length ≤ l.length :=
  (List.subperm_of_subset (List.nodup_dedup _) h).length_le

/-- What the test of the limit shows. -/
theorem within_of_modelLimitReason (h : m.modelLimitReason adm = none)
    (hmodel : adm.request.model ≠ []) (hlocal : adm.target.isLocal = true) :
    adm.target.acceleratorID ∈ m.activeAccelerators adm.request.model ∨
      ((m.activeAccelerators adm.request.model).length : ℤ) < adm.modelLimit := by
  simp only [Target.isLocal, Bool.and_eq_true, decide_eq_true_eq, Bool.not_eq_true'] at hlocal
  by_contra hnot
  obtain ⟨hfresh, hfull⟩ := not_or.1 hnot
  rw [modelLimitReason, if_pos] at h
  · cases h
  · simp [hmodel, hlocal, hfresh, not_lt.1 hfull]

end

/-! ## Steps and runs -/

/-- An admission that publishes a lease still passes the test of the limit. -/
def publishesWithinLimit (s : System) (a : Action) : Bool :=
  match a.grant s with
  | some (adm, .published) => (s.manager.modelLimitReason adm).isNone
  | _ => true

/-- No other target is leased under the accelerator of a local one. -/
def TargetRegistry.localApart (reg : TargetRegistry) : Bool :=
  reg.entries.entries.all fun e => reg.entries.entries.all fun e' =>
    leaseID e.2 ≠ leaseID e'.2 || e.2.isLocal = e'.2.isLocal

theorem TargetRegistry.isLocal_eq {reg : TargetRegistry} (h : reg.localApart = true)
    {target target' : Target} (ht : reg.Has target) (ht' : reg.Has target')
    (hid : leaseID target = leaseID target') : target.isLocal = target'.isLocal := by
  have hmem : ⟨target.id, target⟩ ∈ reg.entries.entries := (rangeOrder_entries _).mem_iff.2 ht
  have hmem' : ⟨target'.id, target'⟩ ∈ reg.entries.entries := (rangeOrder_entries _).mem_iff.2 ht'
  have hall := List.all_eq_true.1 (List.all_eq_true.1 h _ hmem) _ hmem'
  simpa [hid] using hall

/-- The placements are on registered targets, and no model is above its limit. -/
structure WithinLimits (m : Manager) : Prop where
  apart : m.targets.localApart = true
  registered : ∀ k p, m.placements.lookup k = some p →
    ∃ target, m.targets.Has target ∧ p.targetID = target.id ∧ p.acceleratorID = leaseID target
  bound : ∀ model, model ≠ [] → ((m.localAccelerators model).length : ℤ) ≤ m.modelLimitLocked model

namespace WithinLimits

variable {m m' : Manager}

/-- The local accelerators of a model are among those that the test counts. -/
theorem localAccelerators_subset (h : WithinLimits m) (model : GoString) :
    m.localAccelerators model ⊆ m.activeAccelerators model := by
  intro acc hacc
  obtain ⟨k, p, hl, hm, hlocal, rfl⟩ := mem_localAccelerators.1 hacc
  obtain ⟨target, hreg, hid, hlease⟩ := h.registered k p hl
  rw [onLocal, hid, hreg] at hlocal
  obtain ⟨he, hne⟩ := leaseID_of_isLocal hlocal
  exact mem_activeAccelerators.2 ⟨by rw [hlease, he]; exact hne, k, p, hl, hm, rfl⟩

theorem of_subset (h : WithinLimits m) (hreg : SameRegistry m m')
    (hsub : ∀ k p, m'.placements.lookup k = some p → m.placements.lookup k = some p) :
    WithinLimits m' := by
  refine ⟨by rw [hreg.targets]; exact h.apart, ?_, ?_⟩
  · intro k p hp
    rw [hreg.targets]
    exact h.registered k p (hsub k p hp)
  · intro model hmodel
    have hle : (m'.localAccelerators model).length ≤ (m.localAccelerators model).length := by
      refine length_localAccelerators_le fun acc hacc => ?_
      obtain ⟨k, p, hl, hm, hlocal, rfl⟩ := mem_localAccelerators.1 hacc
      rw [onLocal, hreg.targets] at hlocal
      exact mem_localAccelerators.2 ⟨k, p, hsub k p hl, hm, hlocal, rfl⟩
    rw [hreg.limits]
    have hbound := h.bound model hmodel
    omega

/-- **An admission is granted** that passes the test of the limit. -/
theorem of_insert (h : WithinLimits m) (hreg : SameRegistry m m')
    (hinf : adm.Informed m) (hlimit : m.modelLimitReason adm = none)
    (he : m'.placements = m.placements.insert adm.request.workloadID adm.placement) :
    WithinLimits m' := by
  have hcases : ∀ k p, m'.placements.lookup k = some p →
      p = adm.placement ∨ m.placements.lookup k = some p := by
    intro k p hp
    exact (of_lookup_insert (he ▸ hp)).imp And.right And.right
  refine ⟨by rw [hreg.targets]; exact h.apart, ?_, ?_⟩
  · intro k p hp
    rw [hreg.targets]
    rcases hcases k p hp with rfl | hp
    · exact ⟨adm.target, hinf.registered, rfl, rfl⟩
    · exact h.registered k p hp
  · intro model hmodel
    rw [hreg.limits]
    have hbound := h.bound model hmodel
    -- The only accelerator that can be new is that of the admission.
    have hnew : ∀ acc ∈ m'.localAccelerators model, acc ∈ m.localAccelerators model ∨
        adm.request.model = model ∧ adm.target.isLocal = true ∧ acc = leaseID adm.target := by
      intro acc hacc
      obtain ⟨k, p, hl, hm, hlocal, rfl⟩ := mem_localAccelerators.1 hacc
      rw [onLocal, hreg.targets] at hlocal
      rcases hcases k p hl with rfl | hl
      · refine .inr ⟨hm, ?_, rfl⟩
        rw [show adm.placement.targetID = adm.target.id from rfl, hinf.registered] at hlocal
        exact hlocal
      · exact .inl (mem_localAccelerators.2 ⟨k, p, hl, hm, hlocal, rfl⟩)
    by_cases hold : m'.localAccelerators model ⊆ m.localAccelerators model
    · have hle := length_localAccelerators_le hold
      omega
    · obtain ⟨acc, hacc, hfresh⟩ : ∃ acc ∈ m'.localAccelerators model,
          acc ∉ m.localAccelerators model := by
        simpa [List.subset_def] using hold
      obtain ⟨rfl, hlocal, rfl⟩ := (hnew acc hacc).resolve_left hfresh
      obtain ⟨hid, -⟩ := leaseID_of_isLocal hlocal
      have hused := length_localAccelerators_le
        (h.localAccelerators_subset adm.request.model)
      rcases within_of_modelLimitReason hlimit hmodel hlocal with hin | hlt
      · -- A placement of the model on this accelerator is on a local target as well.
        obtain ⟨-, k, p, hl, hm, hpacc⟩ := mem_activeAccelerators.1 hin
        obtain ⟨target, htarget, hpid, hlease⟩ := h.registered k p hl
        have hsame := TargetRegistry.isLocal_eq h.apart hinf.registered htarget
          (by rw [← hlease, hpacc, hid])
        refine absurd (mem_localAccelerators.2 ⟨k, p, hl, hm, ?_, ?_⟩) hfresh
        · rw [onLocal, hpid, htarget, Option.any_some, ← hsame, hlocal]
        · rw [hpacc, hid]
      · have hle : (m'.localAccelerators adm.request.model).length ≤
            (leaseID adm.target :: m.localAccelerators adm.request.model).length := by
          refine length_localAccelerators_le fun acc hacc => ?_
          rcases hnew acc hacc with hold | ⟨-, -, rfl⟩
          · exact List.mem_cons_of_mem _ hold
          · exact List.mem_cons_self
        rw [List.length_cons] at hle
        rw [hinf.limit] at hlt
        omega

end WithinLimits

/-- A grant has passed the test of the limit, at the publication by assumption. -/
theorem PlacementChange.modelLimitReason {m m' : Manager} {c : Choice} {th : Thread} {g : Grant}
    (h : PlacementChange m c th m') (hg : th.grant m c = some (adm, g))
    (hpub : g = .published → m.modelLimitReason adm = none) : m.modelLimitReason adm = none := by
  cases h with
  | keep hnone | drop hnone => rw [hnone] at hg; cases hg
  | join adm' lease _ hg' hopen | share adm' e d _ hg' hopen =>
    obtain ⟨rfl, rfl⟩ := Prod.mk.inj (Option.mem_unique hg' hg)
    exact hopen.limit
  | publish adm' lease _ hg' =>
    obtain ⟨rfl, rfl⟩ := Prod.mk.inj (Option.mem_unique hg' hg)
    exact hpub rfl

theorem WithinLimits.step {s s' : System} {a : Action} (h : WithinLimits s.manager)
    (hadm : Admissions s) (hs : Step s a s') (hpub : publishesWithinLimit s a = true) :
    WithinLimits s'.manager := by
  have hreg := hs.actionChange.sameRegistry
  cases hs.actionChange with
  | environment _ hsame _ _ =>
    refine h.of_subset hreg fun k p hp => ?_
    rw [placements, hsame.placements] at hp
    exact hp
  | run i c th ha hc hi hg hchange hths =>
    rcases hchange.placements with ⟨-, he⟩ | ⟨adm, g, hgrant, he⟩ | ⟨-, w, he⟩
    · exact h.of_subset hreg fun k p hp => he ▸ hp
    · have hinf := hadm.informed th (List.mem_of_getElem? hi) adm
        (Thread.admission_of_grant hgrant s.store).1
      refine h.of_insert hreg hinf (hchange.modelLimitReason hgrant fun hpublished => ?_) he
      rw [publishesWithinLimit, hg, hgrant, hpublished] at hpub
      simpa using hpub
    · refine h.of_subset hreg fun k p hp => ?_
      rw [he, lookup_erase_of] at hp
      split_ifs at hp
      exact hp

/-- **The limit of a model** is kept on local targets, if every admission that publishes a lease
still passes its test and no other target is leased under the accelerator of a local one. -/
theorem model_limit_kept {s₀ s : System} {tr : List (Transition System Action)}
    (h : Run Step s₀ tr s) (h₀ : s₀.Unplaced) (hapart : s₀.manager.targets.localApart = true)
    (hpub : ∀ t ∈ tr, publishesWithinLimit t.pre t.label = true) (model : GoString)
    (hmodel : model ≠ []) :
    ((s.manager.localAccelerators model).length : ℤ) ≤ s.manager.modelLimitLocked model := by
  have hstart : WithinLimits s₀.manager := by
    refine ⟨hapart, ?_, ?_⟩
    · intro k p hp
      rw [h₀.placements_eq] at hp
      cases hp
    · intro model _
      have hnone : s₀.manager.localAccelerators model = [] := by
        rw [localAccelerators, h₀.placements]
        rfl
      rw [hnone, modelLimitLocked]
      dsimp only [List.length_nil]
      split_ifs <;> omega
  have hinv : Admissions s ∧ WithinLimits s.manager :=
    h.invariant_of (I := fun s => Admissions s ∧ WithinLimits s.manager) hpub
      ⟨.of_nil h₀.threads, hstart⟩
      fun s a s' hinv hs hpub => ⟨hinv.1.step hs, hinv.2.step hinv.1 hs hpub⟩
  exact hinv.2.bound model hmodel

/-! ## Two admissions at once -/

/-- Two targets on accelerators of their own; a model may run on one accelerator. -/
def twoAccelerators : System :=
  { manager :=
    { targets := (TargetRegistry.empty.register { id := "t1", acceleratorID := "g1", slots := 2 })
        |>.register { id := "t2", acceleratorID := "g2", slots := 2 }
      leaseTTL := 60 * 10 ^ 9 } }

theorem unplaced_twoAccelerators : twoAccelerators.Unplaced := ⟨⟨rfl, rfl, rfl, rfl⟩, rfl⟩

/-- Two workloads of one model on the first target, then one on the second. -/
def admitInTurn : List (System → Action) :=
  [fun _ => .reserveTarget "t1" { workloadID := "w1", model := "m" },
   runAt 0 {} .none, runAt 0 {} .none, runAt 0 {} .none,
   fun _ => .reserveTarget "t1" { workloadID := "w2", model := "m" }, runAt 1 {} .none,
   fun _ => .reserveTarget "t2" { workloadID := "w3", model := "m" }, runAt 2 {} .none]

/-- The third admission is refused. -/
theorem model_limit_kept_in_turn :
    let s := afterScript twoAccelerators admitInTurn
    s.manager.activePlacements.keys = [ofString "w2", ofString "w1"] ∧
    s.manager.localAccelerators "m" = [ofString "g1"] ∧ s.manager.modelLimitLocked "m" = 1 ∧
    ((s.manager.localAccelerators "m").length : ℤ) ≤ s.manager.modelLimitLocked "m" :=
  ⟨by decide, by decide, by decide,
    model_limit_kept (run_script (by simp [admitInTurn, Action.Admissible, runAt,
      Choice.of_ofSystem]) twoAccelerators) unplaced_twoAccelerators (by decide) (by decide) _
      (by decide)⟩

/-- Two admissions pass the fast path before either publishes its lease. -/
def admitAtOnce : List (System → Action) :=
  [fun _ => .reserveTarget "t1" { workloadID := "w1", model := "m" },
   fun _ => .reserveTarget "t2" { workloadID := "w2", model := "m" },
   runAt 0 {} .none, runAt 1 {} .none, runAt 0 {} .none, runAt 1 {} .none,
   runAt 0 {} .none, runAt 1 {} .none]

/-- The model runs on two accelerators, and its limit is one. -/
theorem concurrent_admissions_exceed_limit :
    let tr := script twoAccelerators admitAtOnce
    let s := afterScript twoAccelerators admitAtOnce
    twoAccelerators.Unplaced ∧ Run Step twoAccelerators tr s ∧
    twoAccelerators.manager.targets.localApart = true ∧
    s.manager.localAccelerators "m" = [ofString "g2", ofString "g1"] ∧
    s.manager.modelLimitLocked "m" = 1 :=
  ⟨unplaced_twoAccelerators, run_script (by simp [admitAtOnce, Action.Admissible, runAt,
    Choice.of_ofSystem]) twoAccelerators, by decide, by decide, by decide⟩

end VramGovernor.Workloads
