import VramGovernor.Workloads.SharedLease

/-!
# What an action does to the placements

An admission that is granted joins the lease of its target, shares the lease of another target or
publishes one of its own; a release that succeeds takes one placement away. Nothing else changes the
placements, the counters and the cached leases: `Step.placementChange` says this of every action,
with the tests that the code has made when it grants. The threads that admit keep the facts they
started with (`Admissions`).
-/

namespace VramGovernor.Workloads

open GoString GoMap Store Bookkeeping Thread Manager ActivePlacement

/-! ## The tests of an admission -/

/-- The fast path finds a free slot and a model that is below its limit. -/
structure FastOpen (m : Manager) (adm : Admission) : Prop where
  slots : GoMap.get m.targetActive adm.target.id < adm.slots
  limit : m.modelLimitReason adm = none

section

variable {m : Manager} {adm : Admission} {blocked : Option GoString}
  {leaseOrder : List (Entry AcceleratorLease)}
  {placementOrder : List (Entry ActivePlacement)} {lease : AcceleratorLease} {d : CoSchedule}

theorem fastOpen_of_fastPath {path : FastPath}
    (he : m.fastPath adm blocked leaseOrder placementOrder = path)
    (h : ∀ reason, path ≠ .refused reason) : FastOpen m adm := by
  rw [← he] at h
  unfold fastPath at h
  split at h
  · exact absurd rfl (h _)
  split_ifs at h with hslots
  · exact absurd rfl (h _)
  split at h
  · exact absurd rfl (h _)
  · next hor => exact ⟨not_le.1 hslots, (Option.or_eq_none_iff.1 hor).2⟩

/-- A lease is shared only with the consent of `canCoScheduleLocked`. -/
theorem canCoSchedule_of_shared
    (h : m.fastPath adm blocked leaseOrder placementOrder = .shared lease d) :
    (canCoScheduleLocked m.interferenceProfiles adm.placement placementOrder).refusal = none := by
  revert h
  fun_cases fastPath m adm blocked leaseOrder placementOrder with
  | case7 => exact fun _ => ‹_›
  | _ => rintro ⟨⟩

theorem slots_of_published (h : m.publication adm blocked = .published) :
    GoMap.get m.targetActive adm.target.id < adm.slots := by
  unfold publication at h
  split at h
  · cases h
  · split_ifs at h with hc
    simp only [Bool.or_eq_true, decide_eq_true_eq, not_or, not_le] at hc
    exact hc.1

end

/-! ## Grants -/

/-- How an admission is granted. -/
inductive Grant
  | joined | shared | published
  deriving DecidableEq

/-- The admission that a thread is granted in its next step. -/
def Thread.grant (m : Manager) (c : Choice) : Thread → Option (Admission × Grant)
  | .reserve adm =>
    match m.fastPath adm c.blocked c.leaseOrder c.placementOrder with
    | .joined _ => some (adm, .joined)
    | .shared _ _ => some (adm, .shared)
    | _ => none
  | .publish adm _ =>
    match m.publication adm c.blocked with
    | .published => some (adm, .published)
    | _ => none
  | _ => none

def Action.grant (s : System) : Action → Option (Admission × Grant)
  | .run i c => s.threads[i]?.bind (Thread.grant s.manager c)
  | _ => none

def SameLimits (m m' : Manager) : Prop :=
  ∀ model, m'.modelLimitLocked model = m.modelLimitLocked model

/-- **What a step of a thread does to the placements.** -/
inductive PlacementChange (m : Manager) (c : Choice) (th : Thread) (m' : Manager) : Prop
  /-- Nothing. -/
  | keep (hg : th.grant m c = none) (h : Same m m') (hl : SameLimits m m')
  /-- An admission joins the lease of its target. -/
  | join (adm : Admission) (lease : AcceleratorLease) (hth : th = .reserve adm)
      (hg : th.grant m c = some (adm, .joined)) (hopen : FastOpen m adm)
      (hlease : m.targetLeases.lookup adm.target.id = some lease) (h : m' = m.join adm lease)
  /-- An admission shares the lease of another target. -/
  | share (adm : Admission) (e : Entry AcceleratorLease) (d : CoSchedule)
      (hth : th = .reserve adm) (hg : th.grant m c = some (adm, .shared)) (hopen : FastOpen m adm)
      (hlease : m.targetLeases.lookup adm.target.id = none)
      (hacc : e.2.acceleratorID = leaseID adm.target)
      (hshare : (canCoScheduleLocked m.interferenceProfiles adm.placement
        c.placementOrder).refusal = none) (h : m' = m.share adm e.2 d)
  /-- An admission publishes the lease that it has acquired. -/
  | publish (adm : Admission) (lease : AcceleratorLease) (hth : th = .publish adm lease)
      (hg : th.grant m c = some (adm, .published))
      (hslots : GoMap.get m.targetActive adm.target.id < adm.slots)
      (hlease : m.targetLeases.lookup adm.target.id = none) (h : m' = m.publish adm lease)
  /-- The placement of a reservation is dropped. -/
  | drop (hg : th.grant m c = none) (p : ℕ) (r r' : TargetReservation) (hp : m.Live p r)
      (hr' : r'.released = true) (h : m' = (m.setReservation p r').dropPlacement r)

section

variable {m m' : Manager} {st : MemoryStore} {c : Choice} {th : Thread}

theorem PlacementChange.refl (hg : th.grant m c = none) : PlacementChange m c th m :=
  .keep hg (.refl m) fun _ => rfl

theorem PlacementChange.setReservation {p : ℕ} {r r' : TargetReservation}
    (hg : th.grant m c = none) (hp : m.heap[p]? = some r) (hr : core r' = core r) :
    PlacementChange m c th (m.setReservation p r') :=
  .keep hg (.setReservation hp hr) fun _ => rfl

theorem PlacementChange.updateReservation {f : TargetReservation → TargetReservation}
    (hg : th.grant m c = none) (p : ℕ) (hf : ∀ r, core (f r) = core r) :
    PlacementChange m c th (m.updateReservation p f) := by
  unfold Manager.updateReservation
  split
  · exact .refl hg
  · next hp => exact .setReservation hg hp (hf _)

theorem Thread.placementChange (m : Manager) (st : MemoryStore) (c : Choice) (th : Thread) :
    PlacementChange m c th (th.step m st c).1 := by
  have hchange := th.change m st c
  generalize th.step m st c = next at hchange
  cases hchange with
  | refused he | vacant he | notPublished he => exact .refl (by simp [Thread.grant, he])
  | joined he hl =>
    exact .join _ _ rfl (by simp [Thread.grant, he]) (fastOpen_of_fastPath he (by simp)) hl rfl
  | @shared adm d e he hl hmem hacc =>
    exact .share adm e d rfl (by simp [Thread.grant, he]) (fastOpen_of_fastPath he (by simp)) hl
      hacc (canCoSchedule_of_shared he) rfl
  | published he =>
    exact .publish _ _ rfl (by simp [Thread.grant, he]) (slots_of_published he)
      (lease_eq_none_of_published he) rfl
  | fenced hp | last hp | prepared hp => exact .setReservation rfl hp rfl
  | left hp he => exact .drop rfl _ _ _ ⟨hp, (open_of_election (.inr he)).1⟩ rfl rfl
  | finished hp hr => exact .drop rfl _ _ _ ⟨hp, hr⟩ rfl rfl
  | cleared | binds => exact .updateReservation rfl _ fun _ => rfl
  | unregistered =>
    unfold stepUnregister
    split
    · exact .refl rfl
    · unfold Manager.unregister
      split_ifs
      · exact .keep rfl ⟨rfl, rfl, rfl, rfl, rfl⟩ fun _ => rfl
      · exact .refl rfl
  | _ => exact .refl rfl

end

namespace Thread

variable {m : Manager} {st : MemoryStore} {c : Choice} {th : Thread} {adm : Admission}

/-- A thread publishes the lease of its target's accelerator. -/
theorem lease_of_step_publish {lease : AcceleratorLease} (ho : c.acquireOrders.Of st)
    (h : (th.step m st c).2.2 = .publish adm lease) : lease.acceleratorID = leaseID adm.target := by
  have hadm : th.admission = some adm := admission_of_step (by rw [h]; rfl)
  have hchange := th.change m st c
  generalize th.step m st c = next at h hchange
  cases hchange with
  | acquired hg =>
    obtain ⟨rfl, rfl⟩ := publish.inj h
    exact (granted_names ho hg).1
  | @rolledBack rb stage e k =>
    cases k with
    | reserve adm' reason => cases e <;> cases reason <;> cases h
    | _ => cases hadm
  | _ => first | cases h | cases hadm

end Thread

/-! ## Actions -/

/-- The admission is to a registered target and knows the limit of its model. -/
structure Admission.Informed (m : Manager) (adm : Admission) : Prop where
  registered : m.targets.Has adm.target
  limit : adm.modelLimit = m.modelLimitLocked adm.request.model

/-- If the action starts the thread and the thread admits, then the action is `reserveTarget`. -/
def Action.Starts (s : System) (a : Action) (th : Thread) : Prop :=
  ∀ adm, th.admission = some adm → th = .reserve adm ∧
    a = .reserveTarget adm.target.id adm.request ∧ adm.Informed s.manager

/-- **What an action does to the placements**: the step of a thread, or nothing, and at most one
thread starts. -/
inductive ActionChange (s : System) (a : Action) (s' : System) : Prop
  | environment (hg : a.grant s = none) (h : Same s.manager s'.manager)
      (hl : SameLimits s.manager s'.manager)
      (hths : s'.threads = s.threads ∨ ∃ th, a.Starts s th ∧ s'.threads = s.threads ++ [th])
  | run (i : ℕ) (c : Choice) (th : Thread) (ha : a = .run i c) (hc : c.Of s)
      (hi : s.threads[i]? = some th) (hg : a.grant s = th.grant s.manager c)
      (h : PlacementChange s.manager c th s'.manager)
      (hths : s'.threads = s.threads.set i (th.step s.manager s.store c).2.2)

variable {s : System} {a : Action} {th : Thread} {c : Choice}

theorem ActionChange.spawn (hg : a.grant s = none) (h : a.Starts s th) :
    ActionChange s a (Action.spawn s th) :=
  .environment hg (.refl _) (fun _ => rfl) (.inr ⟨th, h, rfl⟩)

variable {s' : System} {m : Manager}

theorem Step.actionChange (h : Step s a s') : ActionChange s a s' := by
  obtain ⟨hadm, rfl⟩ := h
  cases a with
  | run i c =>
    cases hi : s.threads[i]? with
    | none =>
      simp only [Action.exec, hi]
      exact .environment (by simp [Action.grant, hi]) (.refl _) (fun _ => rfl) (.inl rfl)
    | some th =>
      simp only [Action.exec, hi]
      exact .run i c th rfl hadm hi (by simp [Action.grant, hi])
        (th.placementChange s.manager s.store c) rfl
  | reserveTarget targetID request =>
    simp only [Action.exec]
    split
    · exact .spawn rfl fun adm hadm => by cases hadm
    · next target ht =>
      refine .spawn rfl fun adm hadm => ?_
      obtain rfl := Option.some.inj hadm
      obtain rfl := s.manager.targets.keyed _ _ ht
      exact ⟨rfl, rfl, ht, rfl⟩
  | releaseTarget p | releaseTargetWithIntent p intent | releaseBeforeTerminal p w disposition
  | retryAcceleratorLeaseCleanupIntents => exact .spawn rfl fun adm hadm => by cases hadm
  | register w p | learn profiles =>
    exact .environment rfl ⟨rfl, rfl, rfl, rfl, rfl⟩ (fun _ => rfl) (.inl rfl)
  | backendStop p pending confirmed =>
    simp only [Action.exec, updateReservation]
    split
    · exact .environment rfl (.refl _) (fun _ => rfl) (.inl rfl)
    · next hp => exact .environment rfl (.setReservation hp rfl) (fun _ => rfl) (.inl rfl)
  | storeCall call => exact .environment rfl (.refl _) (fun _ => rfl) (.inl rfl)

/-! ## The facts of the admissions -/

/-- The registry and the limits of the manager are never changed. -/
structure SameRegistry (m m' : Manager) : Prop where
  targets : m'.targets = m.targets
  limits : SameLimits m m'

theorem PlacementChange.sameRegistry {m' : Manager} (h : PlacementChange m c th m') :
    SameRegistry m m' := by
  cases h with
  | keep _ h hl => exact ⟨h.targets, hl⟩
  | join _ _ _ _ _ _ h | share _ _ _ _ _ _ _ _ _ h | publish _ _ _ _ _ _ h | drop _ _ _ _ _ _ h =>
    exact h ▸ ⟨rfl, fun _ => rfl⟩

theorem ActionChange.sameRegistry (h : ActionChange s a s') :
    SameRegistry s.manager s'.manager := by
  cases h with
  | environment _ h hl _ => exact ⟨h.targets, hl⟩
  | run _ _ _ _ _ _ _ h _ => exact h.sameRegistry

theorem Admission.Informed.of_same {m' : Manager} {adm : Admission} (h : adm.Informed m)
    (hs : SameRegistry m m') : adm.Informed m' :=
  ⟨by rw [hs.targets]; exact h.registered, by rw [hs.limits]; exact h.limit⟩

/-- The admissions under way are informed, and publish leases of their targets' accelerators. -/
structure Admissions (s : System) : Prop where
  informed : ∀ th ∈ s.threads, ∀ adm, th.admission = some adm → adm.Informed s.manager
  lease : ∀ adm lease, .publish adm lease ∈ s.threads → lease.acceleratorID = leaseID adm.target

theorem Admissions.of_nil (h : s.threads = []) : Admissions s := by
  constructor <;> simp [h]

theorem Admissions.step (h : Admissions s) (hs : Step s a s') : Admissions s' := by
  have hreg := hs.actionChange.sameRegistry
  have hold : ∀ th ∈ s.threads, ∀ adm, th.admission = some adm → adm.Informed s'.manager :=
    fun th hth adm hadm => (h.informed th hth adm hadm).of_same hreg
  cases hs.actionChange with
  | environment _ _ _ hths =>
    rcases hths with hths | ⟨th, hstarts, hths⟩
    · exact ⟨hths ▸ hold, hths ▸ h.lease⟩
    · refine ⟨?_, ?_⟩ <;> rw [hths]
      · intro x hx adm hadm
        rcases of_mem_snoc hx with hx | rfl
        · exact hold x hx adm hadm
        · exact (hstarts adm hadm).2.2.of_same hreg
      · intro adm lease hx
        rcases of_mem_snoc hx with hx | rfl
        · exact h.lease adm lease hx
        · cases (hstarts adm rfl).1
  | run i c th ha hc hi _ _ hths =>
    refine ⟨?_, ?_⟩ <;> rw [hths]
    · intro x hx adm hadm
      rcases List.mem_or_eq_of_mem_set hx with hx | rfl
      · exact hold x hx adm hadm
      · exact hold th (List.mem_of_getElem? hi) adm (admission_of_step hadm)
    · intro adm lease hx
      rcases List.mem_or_eq_of_mem_set hx with hx | hx
      · exact h.lease adm lease hx
      · exact lease_of_step_publish hc.acquireOrders hx.symm

/-- An admission that is granted is that of the thread, and not under way any more. -/
theorem Thread.admission_of_grant {adm : Admission} {g : Grant} (hg : th.grant m c = some (adm, g))
    (st : MemoryStore) : th.admission = some adm ∧ (th.step m st c).2.2.admission = none := by
  have hchange := th.change m st c
  generalize th.step m st c = next at hchange
  cases hchange with
  | joined he | shared he | published he =>
    simp only [grant, he] at hg
    cases hg
    exact ⟨rfl, rfl⟩
  | refused he | vacant he | notPublished he => simp [grant, he] at hg
  | _ => cases hg

/-! ## The placements after a change -/

/-- The facts of a placement that never change. -/
def ActivePlacement.facts (p : ActivePlacement) : ActivePlacement :=
  { p with sharedObserved := false }

/-- The placements, as far as they never change. -/
def Manager.placements (m : Manager) : GoMap ActivePlacement :=
  mapValues ActivePlacement.facts m.activePlacements

/-- Nothing is placed or reserved and no thread has started. -/
structure System.Unplaced (s : System) : Prop extends s.Fresh where
  placements : s.manager.activePlacements = ∅

theorem System.Unplaced.placements_eq (h : s.Unplaced) : s.manager.placements = ∅ := by
  rw [Manager.placements, h.placements]
  rfl

variable (m) (adm : Admission) (lease : AcceleratorLease)

theorem Manager.placements_join :
    (m.join adm lease).placements = m.placements.insert adm.request.workloadID adm.placement := by
  exact mapValues_insert ..

theorem Manager.placements_publish :
    (m.publish adm lease).placements =
      m.placements.insert adm.request.workloadID adm.placement := by
  exact mapValues_insert ..

theorem Manager.placements_share (d : CoSchedule) : (m.share adm lease d).placements =
      m.placements.insert adm.request.workloadID adm.placement := by
  have hfacts : facts ∘ (fun p : ActivePlacement =>
      if p.acceleratorID = leaseID adm.target then { p with sharedObserved := true } else p) =
        facts := by
    funext p
    simp only [Function.comp_apply]
    split_ifs <;> rfl
  calc (m.share adm lease d).placements
      = (mapValues facts (markShared (leaseID adm.target)
          m.activePlacements)).insert adm.request.workloadID adm.placement :=
        mapValues_insert ..
    _ = m.placements.insert adm.request.workloadID adm.placement := by
        rw [markShared, mapValues_mapValues, hfacts]
        rfl

theorem Manager.placements_dropPlacement (m : Manager) (r : TargetReservation) :
    (m.dropPlacement r).placements = m.placements.erase r.workloadID := by
  exact mapValues_erase ..

/-- **The placements after a change:** those before, with the one that is granted or without one. -/
theorem PlacementChange.placements {m' : Manager} (h : PlacementChange m c th m') :
    th.grant m c = none ∧ m'.placements = m.placements ∨
    (∃ adm g, th.grant m c = some (adm, g) ∧
      m'.placements = m.placements.insert adm.request.workloadID adm.placement) ∨
    th.grant m c = none ∧ ∃ w, m'.placements = m.placements.erase w := by
  cases h with
  | keep hg h _ => exact .inl ⟨hg, by rw [Manager.placements, h.placements]; rfl⟩
  | join adm lease _ hg _ _ h => exact .inr (.inl ⟨adm, _, hg, h ▸ m.placements_join adm lease⟩)
  | share adm e d _ hg _ _ _ _ h => exact .inr (.inl ⟨adm, _, hg, h ▸ m.placements_share adm e.2 d⟩)
  | publish adm lease _ hg _ _ h =>
    exact .inr (.inl ⟨adm, _, hg, h ▸ m.placements_publish adm lease⟩)
  | drop hg p r r' _ _ h =>
    exact .inr (.inr ⟨hg, r.workloadID, h ▸ (m.setReservation p r').placements_dropPlacement r⟩)

end VramGovernor.Workloads
