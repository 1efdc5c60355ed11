import VramGovernor.Workloads.Manager

/-!
# Placements, counters and cached leases agree

What the manager keeps in memory about its reservations is redundant: a placement for each workload,
a counter and a lease for each target. `Bookkeeping` says that they agree with the reservations that
are not released. Admission keeps this (`Bookkeeping.of_admits`), as long as the workload has no
other reservation, and so does the end of a reservation (`Bookkeeping.drop`).
-/

namespace VramGovernor.Workloads

open Manager

/-- The reservation at `p` is not released. -/
def Manager.Live (m : Manager) (p : ℕ) (r : TargetReservation) : Prop :=
  m.heap[p]? = some r ∧ r.released = false

/-- The number of reservations on a target that are not released. -/
def Manager.liveOn (m : Manager) (targetID : GoString) : ℕ :=
  m.heap.countP fun r => !r.released && r.targetID = targetID

/-- Placements, counters and cached leases are those of the reservations that are not released. -/
structure Bookkeeping (m : Manager) : Prop where
  placed : ∀ p r, m.Live p r → ∃ a, m.activePlacements.lookup r.workloadID = some a ∧
    a.workloadID = r.workloadID ∧ a.acceleratorID = r.lease.acceleratorID
  distinct : ∀ p q r r', m.Live p r → m.Live q r' → r.workloadID = r'.workloadID → p = q
  counted : ∀ id, GoMap.get m.targetActive id = m.liveOn id
  cached : ∀ p r, m.Live p r → m.targetLeases.lookup r.targetID = some r.lease
  cached_iff : ∀ id, (m.targetLeases.lookup id).isSome = true ↔ 0 < m.liveOn id
  leased : ∀ target l, m.targets.Has target → m.targetLeases.lookup target.id = some l →
    l.acceleratorID = leaseID target

namespace Bookkeeping

variable {m m' : Manager} {id : GoString} {p : ℕ} {r r' : TargetReservation} {adm : Admission}
  {lease : AcceleratorLease}

theorem of_empty (hheap : m.heap = []) (hactive : m.targetActive = ∅)
    (hleases : m.targetLeases = ∅) : Bookkeeping m := by
  have hlive : ∀ p r, ¬ m.Live p r := by
    rintro p r ⟨hp, -⟩
    simp [hheap] at hp
  have hcount : ∀ id, m.liveOn id = 0 := by simp [liveOn, hheap]
  refine ⟨?_, ?_, ?_, ?_, ?_, ?_⟩
  · exact fun p r h => absurd h (hlive p r)
  · exact fun p _ r _ h => absurd h (hlive p r)
  · intro id
    rw [hcount, hactive]
    rfl
  · exact fun p r h => absurd h (hlive p r)
  · intro id
    rw [hcount, hleases]
    simp
  · intro target l _ hl
    rw [hleases] at hl
    cases hl

/-- A target with a cached lease has a reservation under it. -/
theorem exists_live (h : Bookkeeping m) {l : AcceleratorLease}
    (hl : m.targetLeases.lookup id = some l) : ∃ p r, m.Live p r ∧ r.lease = l := by
  have hpos : 0 < m.liveOn id := (h.cached_iff id).1 (by rw [hl]; rfl)
  obtain ⟨r, hmem, hr⟩ := List.countP_pos_iff.1 hpos
  simp only [Bool.and_eq_true, Bool.not_eq_true', decide_eq_true_eq] at hr
  obtain ⟨p, hp⟩ := List.mem_iff_getElem?.1 hmem
  have hcached := h.cached p r ⟨hp, hr.1⟩
  rw [hr.2, hl] at hcached
  exact ⟨p, r, ⟨hp, hr.1⟩, (Option.some.inj hcached).symm⟩

/-! ## Changes that the bookkeeping does not see -/

/-- The facts of a reservation that the bookkeeping sees. -/
def core (r : TargetReservation) : GoString × GoString × AcceleratorLease × Bool :=
  (r.targetID, r.workloadID, r.lease, r.released)

/-- The managers differ in nothing that the bookkeeping sees. -/
structure Same (m m' : Manager) : Prop where
  targets : m'.targets = m.targets
  placements : m'.activePlacements = m.activePlacements
  active : m'.targetActive = m.targetActive
  leases : m'.targetLeases = m.targetLeases
  heap : m'.heap.map core = m.heap.map core

theorem Same.refl (m : Manager) : Same m m := ⟨rfl, rfl, rfl, rfl, rfl⟩

theorem Same.symm (h : Same m m') : Same m' m :=
  ⟨h.targets.symm, h.placements.symm, h.active.symm, h.leases.symm, h.heap.symm⟩

theorem map_set_eq {α β : Type*} {f : α → β} {l : List α} {r r' : α} (hp : l[p]? = some r)
    (hf : f r' = f r) : (l.set p r').map f = l.map f := by
  obtain ⟨hlt, rfl⟩ := List.getElem?_eq_some_iff.1 hp
  rw [List.map_set, hf]
  apply List.ext_getElem?
  intro q
  by_cases hq : p = q
  · subst hq
    simp [hlt]
  · rw [List.getElem?_set_ne hq]

theorem Same.setReservation (hp : m.heap[p]? = some r) (hr : core r' = core r) :
    Same m (m.setReservation p r') :=
  ⟨rfl, rfl, rfl, rfl, map_set_eq hp hr⟩

theorem Same.getElem? (h : Same m m') (hp : m'.heap[p]? = some r) :
    ∃ r₀, m.heap[p]? = some r₀ ∧ core r₀ = core r := by
  have he : (m'.heap.map core)[p]? = (m.heap.map core)[p]? := by rw [h.heap]
  rw [List.getElem?_map, List.getElem?_map, hp] at he
  cases hr : m.heap[p]? with
  | none => simp [hr] at he
  | some r₀ => exact ⟨r₀, rfl, by simpa [hr] using he.symm⟩

theorem Same.live (h : Same m m') (hr : m'.Live p r) : ∃ r₀, m.Live p r₀ ∧ core r₀ = core r := by
  obtain ⟨r₀, hp, he⟩ := h.getElem? hr.1
  refine ⟨r₀, ⟨hp, ?_⟩, he⟩
  simp only [core, Prod.mk.injEq] at he
  rw [he.2.2.2, hr.2]

theorem Same.live_workload (h : Same m m') (p : ℕ) (r : TargetReservation) (hr : m'.Live p r) :
    ∃ q r₀, m.Live q r₀ ∧ r₀.workloadID = r.workloadID := by
  obtain ⟨r₀, hr₀, he⟩ := h.live hr
  simp only [core, Prod.mk.injEq] at he
  exact ⟨p, r₀, hr₀, he.2.1⟩

theorem Same.liveOn (h : Same m m') (id : GoString) : m'.liveOn id = m.liveOn id := by
  have hfun : (fun r : TargetReservation => !r.released && decide (r.targetID = id)) =
      (fun c : GoString × GoString × AcceleratorLease × Bool =>
        !c.2.2.2 && decide (c.1 = id)) ∘ core := rfl
  rw [Manager.liveOn, Manager.liveOn, hfun, ← List.countP_map, ← List.countP_map, h.heap]

theorem of_same (h : Bookkeeping m) (hs : Same m m') : Bookkeeping m' := by
  refine ⟨?_, ?_, ?_, ?_, ?_, ?_⟩
  · intro p r hr
    obtain ⟨r₀, hr₀, he⟩ := hs.live hr
    simp only [core, Prod.mk.injEq] at he
    rw [hs.placements, ← he.2.1, ← he.2.2.1]
    exact h.placed p r₀ hr₀
  · intro p q r r' hr hr' hw
    obtain ⟨r₀, hr₀, he⟩ := hs.live hr
    obtain ⟨r₁, hr₁, he'⟩ := hs.live hr'
    simp only [core, Prod.mk.injEq] at he he'
    exact h.distinct p q r₀ r₁ hr₀ hr₁ (by rw [he.2.1, he'.2.1, hw])
  · intro id
    rw [hs.active, hs.liveOn]
    exact h.counted id
  · intro p r hr
    obtain ⟨r₀, hr₀, he⟩ := hs.live hr
    simp only [core, Prod.mk.injEq] at he
    rw [hs.leases, ← he.1, ← he.2.2.1]
    exact h.cached p r₀ hr₀
  · intro id
    rw [hs.leases, hs.liveOn]
    exact h.cached_iff id
  · intro target l ht hl
    rw [hs.targets] at ht
    rw [hs.leases] at hl
    exact h.leased target l ht hl

/-! ## Admission -/

/-- The reservation `r` is handed out, its workload is placed, and its target counts one more and
runs under the lease. -/
structure Admits (m m' : Manager) (r : TargetReservation) : Prop where
  targets : m'.targets = m.targets
  heap : m'.heap = m.heap ++ [r]
  released : r.released = false
  placed : ∃ a, m'.activePlacements.lookup r.workloadID = some a ∧
    a.workloadID = r.workloadID ∧ a.acceleratorID = r.lease.acceleratorID
  others : ∀ k a, k ≠ r.workloadID → m.activePlacements.lookup k = some a →
    ∃ a', m'.activePlacements.lookup k = some a' ∧
      a'.workloadID = a.workloadID ∧ a'.acceleratorID = a.acceleratorID
  active : GoMap.get m'.targetActive r.targetID = GoMap.get m.targetActive r.targetID + 1
  active_ne : ∀ id, id ≠ r.targetID → GoMap.get m'.targetActive id = GoMap.get m.targetActive id
  lease : m'.targetLeases.lookup r.targetID = some r.lease
  lease_ne : ∀ id, id ≠ r.targetID → m'.targetLeases.lookup id = m.targetLeases.lookup id

section

variable (ha : Admits m m' r)
include ha

theorem Admits.get_cases (hp : m'.heap[p]? = some r') :
    m.heap[p]? = some r' ∨ p = m.heap.length ∧ r' = r := by
  rw [ha.heap] at hp
  rcases Nat.lt_or_ge p m.heap.length with hlt | hge
  · rw [List.getElem?_append_left hlt] at hp
    exact .inl hp
  · obtain rfl | hgt := hge.eq_or_lt
    · exact .inr ⟨rfl, by simpa using hp.symm⟩
    · rw [List.getElem?_eq_none (by simp; omega)] at hp
      cases hp

theorem Admits.get_of_get (hp : m.heap[p]? = some r') : m'.heap[p]? = some r' := by
  obtain ⟨hlt, -⟩ := List.getElem?_eq_some_iff.1 hp
  rw [ha.heap, List.getElem?_append_left hlt, hp]

theorem Admits.live_cases (h : m'.Live p r') : m.Live p r' ∨ p = m.heap.length ∧ r' = r := by
  rcases ha.get_cases h.1 with hp | hnew
  · exact .inl ⟨hp, h.2⟩
  · exact .inr hnew

theorem Admits.liveOn : m'.liveOn r.targetID = m.liveOn r.targetID + 1 := by
  rw [Manager.liveOn, Manager.liveOn, ha.heap, List.countP_append]
  simp [ha.released]

theorem Admits.liveOn_ne (hid : id ≠ r.targetID) : m'.liveOn id = m.liveOn id := by
  rw [Manager.liveOn, Manager.liveOn, ha.heap, List.countP_append]
  simp [Ne.symm hid]

end

/-- **Admission keeps the bookkeeping** if the workload has no other reservation and the target runs
under no other lease. -/
theorem of_admits {r : TargetReservation} (h : Bookkeeping m) (ha : Admits m m' r)
    (hnew : ∀ p r', m.Live p r' → r'.workloadID ≠ r.workloadID)
    (hlease : ∀ l, m.targetLeases.lookup r.targetID = some l → l = r.lease)
    (hacc : ∀ target, m.targets.Has target → target.id = r.targetID →
      r.lease.acceleratorID = leaseID target) : Bookkeeping m' := by
  refine ⟨?_, ?_, ?_, ?_, ?_, ?_⟩
  · intro p r' hr
    rcases ha.live_cases hr with hr | ⟨-, rfl⟩
    · obtain ⟨a, hl, hw, hacc⟩ := h.placed p r' hr
      obtain ⟨a', hl', hw', hacc'⟩ := ha.others _ a (hnew p r' hr) hl
      exact ⟨a', hl', hw'.trans hw, hacc'.trans hacc⟩
    · exact ha.placed
  · intro p q r₁ r₂ h₁ h₂ hw
    rcases ha.live_cases h₁ with h₁ | ⟨rfl, rfl⟩ <;> rcases ha.live_cases h₂ with h₂ | ⟨rfl, rfl⟩
    · exact h.distinct p q r₁ r₂ h₁ h₂ hw
    · exact absurd hw (hnew p r₁ h₁)
    · exact absurd hw.symm (hnew q r₂ h₂)
    · rfl
  · intro id
    by_cases hid : id = r.targetID
    · rw [hid, ha.active, ha.liveOn, h.counted]
      rfl
    · rw [ha.active_ne id hid, ha.liveOn_ne hid, h.counted]
  · intro p r' hr
    rcases ha.live_cases hr with hr | ⟨-, rfl⟩
    · have hc := h.cached p r' hr
      by_cases hid : r'.targetID = r.targetID
      · rw [hid] at hc ⊢
        rw [ha.lease, hlease _ hc]
      · rw [ha.lease_ne _ hid, hc]
    · exact ha.lease
  · intro id
    by_cases hid : id = r.targetID
    · rw [hid, ha.lease, ha.liveOn]
      simp
    · rw [ha.lease_ne id hid, ha.liveOn_ne hid]
      exact h.cached_iff id
  · intro target l ht hl
    rw [ha.targets] at ht
    by_cases hid : target.id = r.targetID
    · rw [hid, ha.lease] at hl
      obtain rfl := Option.some.inj hl
      exact hacc target ht hid
    · rw [ha.lease_ne _ hid] at hl
      exact h.leased target l ht hl

theorem admits_join (hl : m.targetLeases.lookup adm.target.id = some lease)
    (hacc : lease.acceleratorID = leaseID adm.target) :
    Admits m (m.join adm lease) (adm.reservation lease) where
  targets := rfl
  heap := rfl
  released := rfl
  placed := ⟨adm.placement, AList.lookup_insert _, rfl, hacc.symm⟩
  others k a hk ha := ⟨a, by rw [← ha]; exact AList.lookup_insert_ne hk, rfl, rfl⟩
  active := GoMap.get_insert_self ..
  active_ne _ hid := GoMap.get_insert_of_ne _ _ hid
  lease := hl
  lease_ne _ _ := rfl

/-- The reservation that an admission is granted when it shares a lease. -/
def sharedReservation (m : Manager) (adm : Admission) (lease : AcceleratorLease) (d : CoSchedule) :
    TargetReservation :=
  { adm.reservation lease with
    shared := true, envelope := d
    profile := sharingProfile { adm.placement with sharedObserved := true }
      (m.share adm lease d).activePlacements.entries }

theorem admits_share (d : CoSchedule) (hacc : lease.acceleratorID = leaseID adm.target) :
    Admits m (m.share adm lease d) (sharedReservation m adm lease d) where
  targets := rfl
  heap := rfl
  released := rfl
  placed := ⟨_, AList.lookup_insert _, rfl, hacc.symm⟩
  others k a hk ha := by
    have hl : (m.share adm lease d).activePlacements.lookup k =
        (markShared (leaseID adm.target) m.activePlacements).lookup k :=
      AList.lookup_insert_ne hk
    rw [hl, markShared, GoMap.lookup_mapValues, ha]
    refine ⟨_, rfl, ?_⟩
    dsimp only
    split_ifs <;> exact ⟨rfl, rfl⟩
  active := GoMap.get_insert_self ..
  active_ne _ hid := GoMap.get_insert_of_ne _ _ hid
  lease := AList.lookup_insert _
  lease_ne _ hid := AList.lookup_insert_ne hid

theorem admits_publish (hidle : GoMap.get m.targetActive adm.target.id = 0)
    (hacc : lease.acceleratorID = leaseID adm.target) :
    Admits m (m.publish adm lease) (adm.reservation lease) where
  targets := rfl
  heap := rfl
  released := rfl
  placed := ⟨adm.placement, AList.lookup_insert _, rfl, hacc.symm⟩
  others k a hk ha := ⟨a, by rw [← ha]; exact AList.lookup_insert_ne hk, rfl, rfl⟩
  active := by
    rw [show (adm.reservation lease).targetID = adm.target.id from rfl, hidle, zero_add]
    exact GoMap.get_insert_self ..
  active_ne _ hid := GoMap.get_insert_of_ne _ _ hid
  lease := AList.lookup_insert _
  lease_ne _ hid := AList.lookup_insert_ne hid

/-! ## The end of a reservation -/

/-- A reservation after the one at `p` has been released is another one, and was there before. -/
theorem live_of_set {q : ℕ} {r₁ : TargetReservation} (hp : m.heap[p]? = some r)
    (hr' : r'.released = true) (hq : (m.setReservation p r').Live q r₁) : q ≠ p ∧ m.Live q r₁ := by
  obtain ⟨hq, hr₁⟩ := hq
  rw [getElem?_setReservation hp] at hq
  split_ifs at hq with hqp
  · obtain rfl := Option.some.inj hq
    rw [hr'] at hr₁
    cases hr₁
  · exact ⟨hqp, hq, hr₁⟩

theorem liveOn_set (hp : m.Live p r) (hr' : r'.released = true) :
    m.liveOn r.targetID = (m.setReservation p r').liveOn r.targetID + 1 := by
  obtain ⟨hlt, hget⟩ := List.getElem?_eq_some_iff.1 hp.1
  have hpos : 0 < m.liveOn r.targetID := by
    refine List.countP_pos_iff.2 ⟨r, List.mem_of_getElem? hp.1, ?_⟩
    simp [hp.2]
  have hset : (m.setReservation p r').liveOn r.targetID = m.liveOn r.targetID - 1 := by
    rw [liveOn, setReservation, List.countP_set hlt]
    simp [hget, hr', hp.2, liveOn]
  omega

theorem liveOn_set_ne (hp : m.heap[p]? = some r) (hr' : r'.released = true)
    (hid : id ≠ r.targetID) : (m.setReservation p r').liveOn id = m.liveOn id := by
  obtain ⟨hlt, hget⟩ := List.getElem?_eq_some_iff.1 hp
  rw [liveOn, setReservation, List.countP_set hlt]
  simp [hget, hr', Ne.symm hid, liveOn]

/-- What `dropPlacement` does to counter and lease of the target, if they agree with its
reservations. -/
theorem drop_target (h : Bookkeeping m) (hp : m.Live p r) (hr' : r'.released = true) :
    let m' := (m.setReservation p r').dropPlacement r
    GoMap.get m'.targetActive r.targetID = (m.setReservation p r').liveOn r.targetID ∧
    m'.targetLeases.lookup r.targetID =
      if 0 < (m.setReservation p r').liveOn r.targetID then some r.lease else none := by
  have hlive := liveOn_set hp hr'
  have hcount := h.counted r.targetID
  have hactive : (m.setReservation p r').targetActive = m.targetActive := rfl
  have hleases : (m.setReservation p r').targetLeases = m.targetLeases := rfl
  dsimp only [dropPlacement]
  rw [hactive, hleases]
  by_cases hmore : 1 < GoMap.get m.targetActive r.targetID
  · rw [if_pos hmore, if_pos hmore, if_pos (by omega), GoMap.get_insert_self, h.cached p r hp]
    exact ⟨by omega, rfl⟩
  · rw [if_neg hmore, if_neg hmore, if_neg (by omega), GoMap.get_erase_self]
    exact ⟨by omega, AList.lookup_erase _ _⟩

/-- **The end of a reservation keeps the bookkeeping.** -/
theorem drop (h : Bookkeeping m) (hp : m.Live p r) (hr' : r'.released = true) :
    Bookkeeping ((m.setReservation p r').dropPlacement r) := by
  obtain ⟨hactive, hlease⟩ := drop_target h hp hr'
  have hactive_ne : ∀ id, id ≠ r.targetID →
      GoMap.get ((m.setReservation p r').dropPlacement r).targetActive id =
        GoMap.get m.targetActive id := by
    intro id hid
    dsimp only [dropPlacement]
    split_ifs
    · exact GoMap.get_insert_of_ne _ _ hid
    · exact GoMap.get_erase_of_ne _ hid
  have hlease_ne : ∀ id, id ≠ r.targetID →
      ((m.setReservation p r').dropPlacement r).targetLeases.lookup id =
        m.targetLeases.lookup id := by
    intro id hid
    dsimp only [dropPlacement]
    split_ifs
    · rfl
    · exact AList.lookup_erase_ne hid
  refine ⟨?_, ?_, ?_, ?_, ?_, ?_⟩
  · intro q r₁ hq
    obtain ⟨hne, hq⟩ := live_of_set hp.1 hr' hq
    obtain ⟨a, ha, hw⟩ := h.placed q r₁ hq
    refine ⟨a, ?_, hw⟩
    rw [← ha]
    exact AList.lookup_erase_ne fun hw => hne (h.distinct q p r₁ r hq hp hw)
  · intro q q' r₁ r₂ hq hq' hw
    exact h.distinct q q' r₁ r₂ (live_of_set hp.1 hr' hq).2 (live_of_set hp.1 hr' hq').2 hw
  · intro id
    by_cases hid : id = r.targetID
    · rw [hid]
      exact hactive
    · rw [hactive_ne id hid, h.counted, ← liveOn_set_ne hp.1 hr' hid]
      rfl
  · intro q r₁ hq
    have hmem : r₁ ∈ (m.setReservation p r').heap := List.mem_of_getElem? hq.1
    obtain ⟨-, hq'⟩ := live_of_set hp.1 hr' hq
    have hc := h.cached q r₁ hq'
    by_cases hid : r₁.targetID = r.targetID
    · -- Another reservation of the target is left, so the target keeps its lease.
      have hpos : 0 < (m.setReservation p r').liveOn r.targetID :=
        List.countP_pos_iff.2 ⟨r₁, hmem, by simp [hq.2, hid]⟩
      rw [hid, h.cached p r hp] at hc
      rw [hid, hlease, if_pos hpos]
      exact hc
    · rw [hlease_ne _ hid]
      exact hc
  · intro id
    by_cases hid : id = r.targetID
    · rw [hid, hlease]
      change _ ↔ 0 < (m.setReservation p r').liveOn r.targetID
      split_ifs with hpos <;> simp [hpos]
    · rw [hlease_ne id hid, h.cached_iff, ← liveOn_set_ne hp.1 hr' hid]
      rfl
  · intro target l ht hl
    by_cases hid : target.id = r.targetID
    · rw [hid, hlease] at hl
      split_ifs at hl
      refine h.leased target l ht ?_
      rw [hid, h.cached p r hp]
      exact hl
    · rw [hlease_ne _ hid] at hl
      exact h.leased target l ht hl

end Bookkeeping

end VramGovernor.Workloads
