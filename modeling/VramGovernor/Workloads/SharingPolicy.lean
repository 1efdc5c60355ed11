import Mathlib.Algebra.Order.BigOperators.Group.List
import VramGovernor.Workloads.PlacementSteps
import VramGovernor.Workloads.ReleaseElection

/-!
# The sharing policy of an accelerator

Placements of different targets on one accelerator should all allow sharing, and fit into its memory
together. `canCoScheduleLocked` tests this for a newcomer (`coScheduled_of_canCoSchedule`), but
`reserveTarget` asks it only when the newcomer's target runs under no lease. A workload that joins
the lease of its target is admitted whatever its policy (`locked_joins_shared`), and so is one that
publishes a lease. If these admissions pass the same test, the policy holds in every state
(`sharing_policy_kept`).
-/

namespace VramGovernor.Workloads

open GoString Store

/-! ## The policy -/

def sharersOf (placements : GoMap ActivePlacement) (acceleratorID : GoString) :
    List ActivePlacement :=
  (placements.entries.map (·.2)).filter fun p => p.acceleratorID = acceleratorID

/-- Two of the placements are of different targets. -/
def MultiTarget (ps : List ActivePlacement) : Prop := ∃ p ∈ ps, ∃ q ∈ ps, p.targetID ≠ q.targetID

def totalVRAM (ps : List ActivePlacement) : ℤ := (ps.map (·.vramMB.toInt)).sum

/-- All allow it, and their VRAM with the largest reserve is at most the smallest advertised
capacity. -/
structure CoScheduled (ps : List ActivePlacement) : Prop where
  allowed : ∀ p ∈ ps, allowsSharing p = true
  measured : ∀ p ∈ ps, 0 < p.vramMB.toInt
  fits : ∀ p ∈ ps, 0 < p.capacityVRAMMB.toInt → ∀ q ∈ ps,
    totalVRAM ps + q.reserveVRAMMB.toInt ≤ p.capacityVRAMMB.toInt

section

variable {ps ps' : List ActivePlacement}

theorem totalVRAM_le (h : ps'.Subperm ps) (hpos : ∀ p ∈ ps, 0 < p.vramMB.toInt) :
    totalVRAM ps' ≤ totalVRAM ps := by
  obtain ⟨l, hl, hsub⟩ := h
  have hsum : totalVRAM ps' = totalVRAM l := ((hl.map _).sum_eq).symm
  rw [hsum]
  refine (hsub.map _).sum_le_sum fun x hx => ?_
  obtain ⟨p, hp, rfl⟩ := List.mem_map.1 hx
  exact (hpos p hp).le

theorem CoScheduled.subperm (h : CoScheduled ps) (hsub : ps'.Subperm ps) : CoScheduled ps' := by
  refine ⟨fun p hp => h.allowed p (hsub.subset hp), fun p hp => h.measured p (hsub.subset hp), ?_⟩
  intro p hp hcap q hq
  have hle := totalVRAM_le hsub h.measured
  have hfit := h.fits p (hsub.subset hp) hcap q (hsub.subset hq)
  omega

theorem MultiTarget.subset (h : MultiTarget ps') (hsub : ps' ⊆ ps) : MultiTarget ps := by
  obtain ⟨p, hp, q, hq, hne⟩ := h
  exact ⟨p, hsub hp, q, hsub hq, hne⟩

theorem totalVRAM_map_facts (ps : List ActivePlacement) :
    totalVRAM (ps.map (·.facts)) = totalVRAM ps := by
  rw [totalVRAM, List.map_map]
  rfl

/-- Whether the placements were ever shared plays no role. -/
theorem coScheduled_map_facts : CoScheduled (ps.map (·.facts)) ↔ CoScheduled ps := by
  constructor
  · rintro ⟨hallowed, hmeasured, hfits⟩
    rw [List.forall_mem_map] at hallowed hmeasured hfits
    refine ⟨hallowed, hmeasured, fun p hp hcap q hq => ?_⟩
    have hfit := hfits p hp hcap q.facts (List.mem_map_of_mem hq)
    rwa [totalVRAM_map_facts] at hfit
  · rintro ⟨hallowed, hmeasured, hfits⟩
    refine ⟨?_, ?_, ?_⟩ <;> rw [List.forall_mem_map]
    · exact hallowed
    · exact hmeasured
    · intro p hp hcap
      rw [List.forall_mem_map, totalVRAM_map_facts]
      exact hfits p hp hcap

end

/-! ## What the test of a newcomer shows -/

/-- The accumulators of the loop cover the placements seen so far. The sum of the VRAM wraps as an
`int64`. -/
structure Covers (c : CoSchedule) (ps : List ActivePlacement) : Prop where
  allowed : ∀ p ∈ ps, allowsSharing p = true
  measured : ∀ p ∈ ps, 0 < p.vramMB.toInt
  predicted : c.predictedVRAMMB.toInt = (totalVRAM ps).bmod (2 ^ 64)
  reserve : ∀ p ∈ ps, p.reserveVRAMMB.toInt ≤ c.reserveVRAMMB.toInt
  requested : ∃ p ∈ ps, c.reserveVRAMMB = p.reserveVRAMMB
  advertised : 0 < c.capacityVRAMMB.toInt
  capacity : ∀ p ∈ ps, 0 < p.capacityVRAMMB.toInt → c.capacityVRAMMB.toInt ≤ p.capacityVRAMMB.toInt

variable {e : Envelope} {ps : List ActivePlacement} {newcomer : ActivePlacement}

theorem Covers.addVictim {e' : Envelope} {v : ActivePlacement} (h : Covers e.combined ps)
    (hv : addVictim e v = .ok e') : Covers e'.combined (ps ++ [v]) := by
  simp only [Workloads.addVictim, ite_eq_iff, reduceCtorEq, and_false, false_or] at hv
  obtain ⟨hallowed, -, hv⟩ := hv
  obtain rfl := Except.ok.inj hv
  simp only [Bool.or_eq_true, Bool.not_eq_true', decide_eq_true_eq, not_or,
    Bool.not_eq_false, Int64.not_le] at hallowed
  obtain ⟨hshare, hvram⟩ := hallowed
  have hvram' : 0 < v.vramMB.toInt := Int64.lt_iff_toInt_lt.1 hvram
  have hpos := h.advertised
  unfold Envelope.add
  refine ⟨?_, ?_, ?_, ?_, ?_, ?_, ?_⟩
  · simpa [or_imp, forall_and] using ⟨h.allowed, hshare⟩
  · simpa [or_imp, forall_and] using ⟨h.measured, hvram'⟩
  · dsimp only
    rw [Int64.toInt_add, h.predicted, Int.bmod_add_bmod]
    simp [totalVRAM]
  · intro p hp
    dsimp only
    rcases of_mem_snoc hp with hp | rfl
    · have hle := h.reserve p hp
      split_ifs with hlt
      · have hlt := Int64.lt_iff_toInt_lt.1 hlt
        omega
      · exact hle
    · split_ifs with hlt
      · exact le_refl _
      · exact Int64.le_iff_toInt_le.1 (Int64.not_lt.1 hlt)
  · dsimp only
    split_ifs
    · exact ⟨v, by simp, rfl⟩
    · obtain ⟨p, hp, he⟩ := h.requested
      exact ⟨p, by simp [hp], he⟩
  · dsimp only
    split_ifs with hcap
    · simp only [Bool.and_eq_true, decide_eq_true_eq] at hcap
      exact Int64.lt_iff_toInt_lt.1 hcap.1
    · exact hpos
  · intro p hp hcap
    dsimp only
    rcases of_mem_snoc hp with hp | rfl
    · have hle := h.capacity p hp hcap
      split_ifs with hless
      · simp only [Bool.and_eq_true, Bool.or_eq_true, decide_eq_true_eq] at hless
        rcases hless.2 with hzero | hlt
        · rw [hzero] at hpos
          exact absurd hpos (by decide)
        · have hlt := Int64.lt_iff_toInt_lt.1 hlt
          omega
      · exact hle
    · split_ifs with hless
      · exact le_refl _
      · simp only [Bool.and_eq_true, Bool.or_eq_true, decide_eq_true_eq, not_and, not_or,
          Int64.not_lt] at hless
        exact Int64.le_iff_toInt_le.1 (hless (Int64.lt_iff_toInt_lt.2 hcap)).2

variable {vs : List ActivePlacement} {order : List (GoMap.Entry ActivePlacement)}
  {placements : GoMap ActivePlacement}

theorem Covers.foldlM {e' : Envelope} (h : Covers e.combined ps)
    (hv : vs.foldlM Workloads.addVictim e = .ok e') : Covers e'.combined (ps ++ vs) := by
  induction vs generalizing e ps with
  | nil =>
    obtain rfl : e = e' := Except.ok.inj hv
    simpa using h
  | cons v vs ih =>
    rw [List.foldlM_cons] at hv
    cases he : Workloads.addVictim e v with
    | error refused =>
      rw [he] at hv
      cases hv
    | ok e₁ =>
      rw [he] at hv
      simpa using ih (h.addVictim he) hv

/-- The sum that is compared with the capacity does not overflow an `int64`. -/
def sumFits (ps : List ActivePlacement) : Bool :=
  ps.all fun p => totalVRAM ps + max 512 p.reserveVRAMMB.toInt < 2 ^ 63

theorem totalVRAM_nonneg (h : ∀ p ∈ ps, 0 < p.vramMB.toInt) : 0 ≤ totalVRAM ps := by
  refine List.sum_nonneg fun x hx => ?_
  obtain ⟨p, hp, rfl⟩ := List.mem_map.1 hx
  exact (h p hp).le

theorem Covers.coScheduled {learned : Option InterferenceProfile} (h : Covers e.combined ps)
    (hfits : sumFits ps = true) (hclose : (closeEnvelope newcomer learned e).refusal = none) :
    CoScheduled ps := by
  refine ⟨h.allowed, h.measured, fun p hp hcap q hq => ?_⟩
  have hnonneg := totalVRAM_nonneg h.measured
  have hreserve := h.reserve q hq
  have hcapacity := h.capacity p hp hcap
  obtain ⟨x, hx, hmax⟩ := h.requested
  have hsmall : totalVRAM ps + max 512 x.reserveVRAMMB.toInt < 2 ^ 63 := by
    simpa using List.all_eq_true.1 hfits x hx
  -- The reserve that is used is the largest one that is asked for, or 512.
  have hused : ∀ r : Int64, r.toInt ≤ max 512 x.reserveVRAMMB.toInt → 0 ≤ r.toInt →
      ¬ e.combined.capacityVRAMMB < e.combined.predictedVRAMMB + r →
      totalVRAM ps + r.toInt ≤ e.combined.capacityVRAMMB.toInt := by
    intro r hr hr₀ hnot
    have hle := Int64.le_iff_toInt_le.1 (Int64.not_lt.1 hnot)
    rw [Int64.toInt_add, h.predicted, Int.bmod_add_bmod, Int.bmod_eq_of_le (by omega) (by omega)]
      at hle
    exact hle
  have hcmp : ¬ e.combined.capacityVRAMMB < e.combined.predictedVRAMMB +
      if e.combined.reserveVRAMMB ≤ 0 then 512 else e.combined.reserveVRAMMB := by
    intro hlt
    rw [closeEnvelope, if_pos hlt] at hclose
    cases hclose
  split_ifs at hcmp with hzero
  · have hfit := hused 512 (le_max_left _ _) (by decide) hcmp
    have hle := Int64.le_iff_toInt_le.1 hzero
    simp only [show (512 : Int64).toInt = 512 from rfl, show (0 : Int64).toInt = 0 from rfl]
      at hfit hle
    omega
  · have hlt := Int64.lt_iff_toInt_lt.1 (Int64.not_le.1 hzero)
    have hfit := hused _ (by rw [hmax]; exact le_max_right _ _) hlt.le hcmp
    omega

/-- What ends the loop early is a refusal. -/
theorem refusal_of_foldlM {refused : CoSchedule} (h : vs.foldlM addVictim e = .error refused) :
    refused.refusal ≠ none := by
  induction vs generalizing e with
  | nil => cases h
  | cons v vs ih =>
    rw [List.foldlM_cons] at h
    cases he : addVictim e v with
    | ok e₁ =>
      rw [he] at h
      exact ih h
    | error r =>
      rw [he] at h
      obtain rfl : r = refused := Except.error.inj h
      revert he
      fun_cases addVictim e v with
      | case1 | case2 =>
        rintro ⟨⟩
        simp
      | case3 => exact nofun

/-- **What a newcomer's test shows:** it may run together with the placements there, if their sum
does not overflow. -/
theorem coScheduled_of_canCoSchedule {profiles : GoMap InterferenceProfile}
    (h : (canCoScheduleLocked profiles newcomer order).refusal = none)
    (hfits : sumFits (newcomer :: victims newcomer order) = true) :
    CoScheduled (newcomer :: victims newcomer order) := by
  simp only [canCoScheduleLocked] at h
  split_ifs at h with hshare hmeasured hslow
  split at h
  · next refused he => exact absurd h (refusal_of_foldlM he)
  · next e he =>
    simp only [Bool.or_eq_true, decide_eq_true_eq, not_or, Int64.not_le, Int64.lt_iff_toInt_lt]
      at hmeasured
    have hcovers : Covers e.combined ([newcomer] ++ victims newcomer order) := by
      refine Covers.foldlM ⟨?_, ?_, ?_, ?_, ?_, ?_, ?_⟩ he
      · simpa using hshare
      · simpa using hmeasured.1
      · rw [totalVRAM, List.map_singleton, List.sum_singleton]
        exact (Int64.toInt_bmod _).symm
      · simp
      · simp
      · exact hmeasured.2
      · simp
    exact hcovers.coScheduled hfits h

/-! ## Steps and runs -/

/-- A workload that joins another target on an accelerator passes the test of a newcomer, whose sum
does not overflow. -/
def sharesSafely (s : System) (a : Action) : Bool :=
  match a, a.grant s with
  | .run _ c, some (adm, _) =>
    let others := victims adm.placement c.placementOrder
    others.all (fun p => p.targetID = adm.target.id) ||
      ((canCoScheduleLocked s.manager.interferenceProfiles adm.placement
        c.placementOrder).refusal.isNone && sumFits (adm.placement :: others))
  | _, _ => true

/-- The policy holds for these placements. -/
def SharingPolicy (placements : GoMap ActivePlacement) : Prop :=
  ∀ a, MultiTarget (sharersOf placements a) → CoScheduled (sharersOf placements a)

theorem sharersOf_erase (placements : GoMap ActivePlacement) (w a : GoString) :
    (sharersOf (placements.erase w) a).Sublist (sharersOf placements a) :=
  ((List.kerase_sublist w placements.entries).map _).filter _

theorem SharingPolicy.erase (h : SharingPolicy placements) (w : GoString) :
    SharingPolicy (placements.erase w) := by
  intro a hmulti
  have hsub := sharersOf_erase placements w a
  exact (h a (hmulti.subset hsub.subset)).subperm hsub.subperm

/-- A new placement meets only those of its own target on its accelerator, or may run together with
them. -/
theorem SharingPolicy.insert {placements : GoMap ActivePlacement} (h : SharingPolicy placements)
    (w : GoString) (p : ActivePlacement)
    (hp : (∀ q ∈ sharersOf placements p.acceleratorID, q.targetID = p.targetID) ∨
      CoScheduled (p :: sharersOf placements p.acceleratorID)) :
    SharingPolicy (placements.insert w p) := by
  intro a hmulti
  have hsub := sharersOf_erase placements w a
  have he : sharersOf (placements.insert w p) a =
      if p.acceleratorID = a then p :: sharersOf (placements.erase w) a
      else sharersOf (placements.erase w) a := by
    rw [sharersOf, AList.entries_insert, List.map_cons, List.filter_cons]
    simp only [decide_eq_true_eq]
    rfl
  rw [he] at hmulti ⊢
  split_ifs at hmulti ⊢ with ha
  · subst ha
    rcases hp with hsame | hco
    · -- All the placements are of one target.
      have hall : ∀ q ∈ p :: sharersOf (placements.erase w) p.acceleratorID,
          q.targetID = p.targetID := by
        intro q hq
        rcases List.mem_cons.1 hq with rfl | hq
        · rfl
        · exact hsame q (hsub.subset hq)
      obtain ⟨q, hq, q', hq', hne⟩ := hmulti
      exact absurd ((hall q hq).trans (hall q' hq').symm) hne
    · exact hco.subperm (hsub.cons_cons p).subperm
  · exact (h a (hmulti.subset hsub.subset)).subperm hsub.subperm

def Manager.sharers (m : Manager) (acceleratorID : GoString) : List ActivePlacement :=
  sharersOf m.activePlacements acceleratorID

theorem Manager.sharers_map_facts (m : Manager) (acceleratorID : GoString) :
    (m.sharers acceleratorID).map (·.facts) = sharersOf m.placements acceleratorID := by
  simp only [Manager.sharers, sharersOf, Manager.placements, GoMap.mapValues, List.map_map,
    List.filter_map]
  rfl

theorem Step.sharingPolicy {s s' : System} {a : Action} (hs : Step s a s')
    (h : SharingPolicy s.manager.placements) (hsafe : sharesSafely s a = true) :
    SharingPolicy s'.manager.placements := by
  cases hs.actionChange with
  | environment _ hsame _ _ =>
    rw [Manager.placements, hsame.placements]
    exact h
  | run i c th ha hc hi hg hchange hths =>
    rcases hchange.placements with ⟨-, he⟩ | ⟨adm, g, hgrant, he⟩ | ⟨-, w, he⟩ <;> rw [he]
    · exact h
    · refine h.insert _ _ ?_
      have hperm : ((victims adm.placement c.placementOrder).map (·.facts)).Perm
          (sharersOf s.manager.placements adm.placement.acceleratorID) := by
        rw [← s.manager.sharers_map_facts]
        exact ((hc.placementOrder.map _).filter _).map _
      rw [ha] at hsafe hg
      simp only [sharesSafely, hg, hgrant, Bool.or_eq_true, Bool.and_eq_true,
        Option.isNone_iff_eq_none] at hsafe
      rcases hsafe with hsame | ⟨hco, hfits⟩
      · refine .inl fun q hq => ?_
        obtain ⟨v, hv, rfl⟩ := List.mem_map.1 (hperm.mem_iff.2 hq)
        exact of_decide_eq_true (List.all_eq_true.1 hsame v hv)
      · have hall := coScheduled_map_facts.2 (coScheduled_of_canCoSchedule hco hfits)
        exact .inr (hall.subperm (hperm.symm.cons _).subperm)
    · exact h.erase w

/-- **The sharing policy** is kept, if every admission onto an accelerator of another target passes
the test of a newcomer without overflow. -/
theorem sharing_policy_kept {s₀ s : System} {tr : List (Transition System Action)}
    (h : Run Step s₀ tr s) (h₀ : s₀.Unplaced)
    (hsafe : ∀ t ∈ tr, sharesSafely t.pre t.label = true) (a : GoString)
    (hmulti : ∃ p ∈ s.manager.sharers a, ∃ q ∈ s.manager.sharers a, p.targetID ≠ q.targetID) :
    (∀ p ∈ s.manager.sharers a,
      p.sharingEnabled = true ∧ p.safetyCritical = false ∧ p.disruption = .slowdown) ∧
    ∀ p ∈ s.manager.sharers a, 0 < p.capacityVRAMMB.toInt → ∀ q ∈ s.manager.sharers a,
      totalVRAM (s.manager.sharers a) + q.reserveVRAMMB.toInt ≤ p.capacityVRAMMB.toInt := by
  have hpolicy : SharingPolicy s.manager.placements := by
    refine h.invariant_of (I := fun s => SharingPolicy s.manager.placements) hsafe ?_
      fun s a s' hinv hs hsafe => hs.sharingPolicy hinv hsafe
    rw [h₀.placements_eq]
    rintro a ⟨p, hp, -⟩
    cases hp
  have hco : CoScheduled (s.manager.sharers a) := by
    rw [← coScheduled_map_facts, s.manager.sharers_map_facts]
    apply hpolicy
    rw [← s.manager.sharers_map_facts]
    obtain ⟨p, hp, q, hq, hne⟩ := hmulti
    exact ⟨p.facts, List.mem_map_of_mem hp, q.facts, List.mem_map_of_mem hq, hne⟩
  refine ⟨fun p hp => ?_, hco.fits⟩
  simpa [allowsSharing, and_assoc] using hco.allowed p hp

/-! ## Joining a shared accelerator -/

/-- Two targets on one accelerator that may be shared, the first with two slots. -/
def sharedAccelerator : System :=
  let target : Target :=
    { id := "a", acceleratorID := "gpu", slots := 2, sharingEnabled := true
      standaloneVRAMMB := 1000, acceleratorVRAMMB := 8000, predictedSlowdown := 1 }
  { manager :=
    { targets := (TargetRegistry.empty.register target).register { target with id := "b" }
      leaseTTL := 60 * 10 ^ 9 } }

/-- The first workload publishes a lease on `a`, the second shares it on `b`, the third joins it on
`a`. -/
def admitThree (third : DisruptionPolicy) : List (System → Action) :=
  [fun _ => .reserveTarget "a" { workloadID := "w1", disruption := .slowdown },
   runAt 0 {} .none, runAt 0 {} .none, runAt 0 {} .none,
   fun _ => .reserveTarget "b" { workloadID := "w2", disruption := .slowdown }, runAt 1 {} .none,
   fun _ => .reserveTarget "a" { workloadID := "w3", disruption := third }, runAt 2 {} .none]

theorem admitThree_admissible (third : DisruptionPolicy) :
    ∀ a ∈ admitThree third, ∀ s, (a s).Admissible s := by
  simp [admitThree, Action.Admissible, runAt, Choice.of_ofSystem]

theorem unplaced_sharedAccelerator : sharedAccelerator.Unplaced := ⟨⟨rfl, rfl, rfl, rfl⟩, rfl⟩

/-- Three workloads that allow slowdown share the accelerator. -/
theorem sharing_policy_kept_three :
    let s := afterScript sharedAccelerator (admitThree .slowdown)
    (s.manager.sharers "gpu").map (fun p => (p.workloadID, p.targetID)) =
      [(ofString "w3", ofString "a"), (ofString "w2", ofString "b"),
        (ofString "w1", ofString "a")] ∧
    (∀ p ∈ s.manager.sharers "gpu",
      p.sharingEnabled = true ∧ p.safetyCritical = false ∧ p.disruption = .slowdown) ∧
    ∀ p ∈ s.manager.sharers "gpu", 0 < p.capacityVRAMMB.toInt → ∀ q ∈ s.manager.sharers "gpu",
      totalVRAM (s.manager.sharers "gpu") + q.reserveVRAMMB.toInt ≤ p.capacityVRAMMB.toInt :=
  ⟨by decide +kernel, sharing_policy_kept (run_script (admitThree_admissible _) sharedAccelerator)
    unplaced_sharedAccelerator (by decide +kernel) _ (by decide +kernel)⟩

/-- A workload that may not be disturbed joins the two that share the accelerator. -/
theorem locked_joins_shared :
    let tr := script sharedAccelerator (admitThree .locked)
    let s := afterScript sharedAccelerator (admitThree .locked)
    sharedAccelerator.Unplaced ∧ Run Step sharedAccelerator tr s ∧
    (s.manager.sharers "gpu").map (fun p => (p.workloadID, p.targetID, p.disruption)) =
      [(ofString "w3", ofString "a", .locked), (ofString "w2", ofString "b", .slowdown),
        (ofString "w1", ofString "a", .slowdown)] :=
  ⟨unplaced_sharedAccelerator, run_script (admitThree_admissible _) sharedAccelerator,
    by decide +kernel⟩

end VramGovernor.Workloads
