import VramGovernor.Workloads.PlacementSteps
import VramGovernor.Workloads.ReleaseElection

/-!
# Counters, placements and slots

The counter of a target is raised on three branches of `reserveTarget` and lowered on two of the
release, and the placements are kept under the workload's id, so the two agree only as long as a
workload has one reservation at a time (`counters_match_placements`). What carries the induction is
that every placement belongs to one reservation which is not released, on the same target
(`PlacedExactly`), and that the workload of an admission under way has no reservation and no other
admission (`Solitary`).
-/

namespace VramGovernor.Workloads

open GoString GoMap Store Bookkeeping Manager

/-! ## Placements and reservations -/

def Manager.placementsOn (m : Manager) (targetID : GoString) : ℕ :=
  m.activePlacements.entries.countP fun e => e.2.targetID = targetID

theorem Manager.placementsOn_eq (m : Manager) (targetID : GoString) :
    m.placementsOn targetID = m.placements.entries.countP fun e => e.2.targetID = targetID := by
  rw [placements, mapValues, List.countP_map]
  rfl

/-- Every placement is that of one reservation which is not released. -/
structure PlacedExactly (m : Manager) : Prop where
  books : Bookkeeping m
  target : ∀ p r a, m.Live p r → m.placements.lookup r.workloadID = some a → a.targetID = r.targetID
  owned : ∀ k a, m.placements.lookup k = some a → ∃ p r, m.Live p r ∧ r.workloadID = k
  count : ∀ id, m.placementsOn id = m.liveOn id

variable {r : TargetReservation}

namespace PlacedExactly

variable {m m' : Manager}

theorem of_empty (hheap : m.heap = []) (hactive : m.targetActive = ∅) (hleases : m.targetLeases = ∅)
    (hplaced : m.activePlacements = ∅) : PlacedExactly m := by
  have hnone : m.placements = ∅ := by rw [placements, hplaced]; rfl
  refine ⟨.of_empty hheap hactive hleases, ?_, ?_, ?_⟩
  · rintro p r a ⟨hp, -⟩
    simp [hheap] at hp
  · intro k a ha
    rw [hnone] at ha
    cases ha
  · intro id
    simp [placementsOn, liveOn, hplaced, hheap]

section

variable (h : PlacedExactly m)
include h

theorem of_same (hs : Same m m') : PlacedExactly m' := by
  have hplaced : m'.placements = m.placements := by rw [placements, hs.placements]; rfl
  refine ⟨h.books.of_same hs, ?_, ?_, ?_⟩
  · intro p r a hr ha
    obtain ⟨r₀, hr₀, he⟩ := hs.live hr
    simp only [core, Prod.mk.injEq] at he
    rw [hplaced, ← he.2.1] at ha
    rw [← he.1]
    exact h.target p r₀ a hr₀ ha
  · intro k a ha
    rw [hplaced] at ha
    obtain ⟨p, r, hr, rfl⟩ := h.owned k a ha
    exact hs.symm.live_workload p r hr
  · intro id
    rw [placementsOn_eq, hplaced, ← placementsOn_eq, h.count, hs.liveOn]

theorem lookup_eq_none {w : GoString}
    (hnew : ∀ p r, m.Live p r → r.workloadID ≠ w) : m.placements.lookup w = none := by
  cases ha : m.placements.lookup w with
  | none => rfl
  | some a =>
    obtain ⟨p, r, hr, hw⟩ := h.owned w a ha
    exact absurd hw (hnew p r hr)

/-- **Admission of a workload without a reservation.** -/
theorem of_admits {a : ActivePlacement} (ha : Admits m m' r)
    (hplaced : m'.placements = m.placements.insert r.workloadID a)
    (htarget : a.targetID = r.targetID) (hnew : ∀ p r', m.Live p r' → r'.workloadID ≠ r.workloadID)
    (hbooks : Bookkeeping m') : PlacedExactly m' := by
  refine ⟨hbooks, ?_, ?_, ?_⟩
  · intro p r' a' hr' ha'
    rw [hplaced] at ha'
    rcases ha.live_cases hr' with hr' | ⟨-, rfl⟩
    · rw [AList.lookup_insert_ne (hnew p r' hr')] at ha'
      exact h.target p r' a' hr' ha'
    · rw [AList.lookup_insert] at ha'
      obtain rfl := Option.some.inj ha'
      exact htarget
  · intro k a' ha'
    rcases of_lookup_insert (hplaced ▸ ha') with ⟨hk, -⟩ | ⟨-, ha'⟩
    · exact ⟨m.heap.length, r, ⟨by simp [ha.heap], ha.released⟩, hk.symm⟩
    · obtain ⟨p, r', hr', hw⟩ := h.owned k a' ha'
      exact ⟨p, r', ⟨ha.get_of_get hr'.1, hr'.2⟩, hw⟩
  · intro id
    have hcount : m'.placementsOn id = m.placementsOn id + if r.targetID = id then 1 else 0 := by
      rw [placementsOn_eq, placementsOn_eq, hplaced, AList.entries_insert_of_notMem
        (AList.lookup_eq_none.1 (h.lookup_eq_none hnew)), List.countP_cons]
      simp [htarget]
    rw [hcount, h.count]
    by_cases hid : id = r.targetID
    · rw [hid, ha.liveOn, if_pos rfl]
    · rw [ha.liveOn_ne hid, if_neg (Ne.symm hid), add_zero]

theorem drop {p : ℕ} {r' : TargetReservation} (hp : m.Live p r)
    (hr' : r'.released = true) : PlacedExactly ((m.setReservation p r').dropPlacement r) := by
  have hplaced : ((m.setReservation p r').dropPlacement r).placements =
      m.placements.erase r.workloadID := placements_dropPlacement ..
  refine ⟨h.books.drop hp hr', ?_, ?_, ?_⟩
  · intro q r₁ a hq ha
    obtain ⟨-, hq⟩ := live_of_set hp.1 hr' hq
    rw [hplaced, lookup_erase_of] at ha
    split_ifs at ha
    exact h.target q r₁ a hq ha
  · intro k a ha
    rw [hplaced, lookup_erase_of] at ha
    split_ifs at ha with hk
    obtain ⟨q, r₁, hq, hw⟩ := h.owned k a ha
    have hqp : q ≠ p := by
      rintro rfl
      obtain rfl := Option.mem_unique hp.1 hq.1
      exact hk hw.symm
    refine ⟨q, r₁, ⟨?_, hq.2⟩, hw⟩
    show (m.setReservation p r').heap[q]? = some r₁
    rw [getElem?_setReservation hp.1, if_neg hqp, hq.1]
  · intro id
    obtain ⟨a, ha, -⟩ := h.books.placed p r hp
    have hfacts : m.placements.lookup r.workloadID = some a.facts := by
      rw [placements, lookup_mapValues, ha]
      rfl
    have hcount : m.placementsOn id =
        ((m.setReservation p r').dropPlacement r).placementsOn id +
          if r.targetID = id then 1 else 0 := by
      rw [placementsOn_eq, placementsOn_eq, hplaced,
        (entries_perm_of_lookup hfacts).countP_eq, List.countP_cons,
        h.target p r a.facts hp hfacts]
      simp
    have hlive : ((m.setReservation p r').dropPlacement r).liveOn id =
        (m.setReservation p r').liveOn id := rfl
    rw [hlive]
    rw [h.count] at hcount
    by_cases hid : id = r.targetID
    · rw [hid, if_pos rfl] at hcount
      have hset := liveOn_set hp hr'
      rw [hid]
      omega
    · rw [if_neg (Ne.symm hid)] at hcount
      rw [liveOn_set_ne hp.1 hr' hid]
      omega

end

end PlacedExactly

/-! ## Workloads with one admission at a time -/

/-- The workload that asks for an admission has no reservation and asks for no other admission. -/
def Action.byNewWorkload (s : System) : Action → Bool
  | .reserveTarget _ request =>
    notReserved s.manager request.workloadID && s.threads.all fun th =>
      th.admission.all fun adm => adm.request.workloadID ≠ request.workloadID
  | _ => true

/-- The workload of an admission under way has no reservation and no other admission. -/
structure Solitary (s : System) : Prop where
  unreserved : ∀ th ∈ s.threads, ∀ adm, th.admission = some adm →
    ∀ p r, s.manager.Live p r → r.workloadID ≠ adm.request.workloadID
  apart : ∀ (i j : ℕ) (th th' : Thread) (adm adm' : Admission),
    s.threads[i]? = some th → s.threads[j]? = some th' →
    th.admission = some adm → th'.admission = some adm' →
    adm.request.workloadID = adm'.request.workloadID → i = j

variable {th : Thread} {adm : Admission}

namespace Solitary

variable {s s' : System}

theorem of_nil (h : s.threads = []) : Solitary s := by
  constructor <;> simp [h]

/-- No reservation is handed out, and no thread takes up another admission. -/
theorem of_le (h : Solitary s)
    (hlive : ∀ p r, s'.manager.Live p r →
      ∃ q r₀, s.manager.Live q r₀ ∧ r₀.workloadID = r.workloadID)
    (hths : ∀ (i : ℕ) th adm, s'.threads[i]? = some th → th.admission = some adm →
      ∃ th₀, s.threads[i]? = some th₀ ∧ th₀.admission = some adm) : Solitary s' := by
  constructor
  · intro th hth adm hadm p r hr
    obtain ⟨i, hi⟩ := List.mem_iff_getElem?.1 hth
    obtain ⟨th₀, hi₀, hadm₀⟩ := hths i th adm hi hadm
    obtain ⟨q, r₀, hr₀, hw⟩ := hlive p r hr
    rw [← hw]
    exact h.unreserved th₀ (List.mem_of_getElem? hi₀) adm hadm₀ q r₀ hr₀
  · intro i j th th' adm adm' hi hj hadm hadm' hw
    obtain ⟨th₀, hi₀, hadm₀⟩ := hths i th adm hi hadm
    obtain ⟨th₁, hj₁, hadm₁⟩ := hths j th' adm' hj hadm'
    exact h.apart i j th₀ th₁ adm adm' hi₀ hj₁ hadm₀ hadm₁ hw

theorem of_admits {i : ℕ} {th' : Thread} (h : Solitary s) (hi : s.threads[i]? = some th)
    (hadm : th.admission = some adm) (hdone : th'.admission = none)
    (hths : s'.threads = s.threads.set i th') (ha : Admits s.manager s'.manager r)
    (hw : r.workloadID = adm.request.workloadID) : Solitary s' := by
  have hother : ∀ (j : ℕ) x adm', s'.threads[j]? = some x → x.admission = some adm' →
      j ≠ i ∧ s.threads[j]? = some x := by
    intro j x adm' hj hx
    by_cases hji : j = i
    · subst hji
      obtain ⟨hlt, -⟩ := List.getElem?_eq_some_iff.1 hi
      rw [hths, List.getElem?_set_self hlt] at hj
      obtain rfl := Option.some.inj hj
      rw [hdone] at hx
      cases hx
    · rw [hths, List.getElem?_set_ne (Ne.symm hji)] at hj
      exact ⟨hji, hj⟩
  constructor
  · intro x hx adm' hadm' p r' hr'
    obtain ⟨j, hj⟩ := List.mem_iff_getElem?.1 hx
    obtain ⟨hji, hj⟩ := hother j x adm' hj hadm'
    rcases ha.live_cases hr' with hr' | ⟨-, rfl⟩
    · exact h.unreserved x (List.mem_of_getElem? hj) adm' hadm' p r' hr'
    · intro he
      exact hji (h.apart j i x th adm' adm hj hi hadm' hadm (he.symm.trans hw))
  · intro j k x x' adm₁ adm₂ hj hk h₁ h₂ he
    exact h.apart j k x x' adm₁ adm₂ (hother j x adm₁ hj h₁).2 (hother k x' adm₂ hk h₂).2 h₁ h₂ he

theorem spawn {a : Action} (h : Solitary s) (hstarts : a.Starts s th)
    (hnew : a.byNewWorkload s = true) (hths : s'.threads = s.threads ++ [th])
    (hs : Same s.manager s'.manager) : Solitary s' := by
  have hfresh : ∀ adm, th.admission = some adm →
      (∀ p r, s.manager.Live p r → r.workloadID ≠ adm.request.workloadID) ∧
      ∀ x ∈ s.threads, ∀ adm', x.admission = some adm' →
        adm'.request.workloadID ≠ adm.request.workloadID := by
    intro adm hadm
    obtain ⟨-, rfl, -⟩ := hstarts adm hadm
    simp only [Action.byNewWorkload, Bool.and_eq_true, List.all_eq_true] at hnew
    refine ⟨fun p r hr => live_of_notReserved hnew.1 hr, fun x hx adm' hadm' => ?_⟩
    simpa [hadm'] using hnew.2 x hx
  have hget : ∀ (j : ℕ) x, s'.threads[j]? = some x →
      s.threads[j]? = some x ∨ j = s.threads.length ∧ x = th := by
    intro j x hj
    rw [hths] at hj
    rcases Nat.lt_or_ge j s.threads.length with hlt | hge
    · rw [List.getElem?_append_left hlt] at hj
      exact .inl hj
    · rw [List.getElem?_append_right hge] at hj
      have hzero : j - s.threads.length = 0 := by
        by_contra hne
        rw [List.getElem?_eq_none (by simp; omega)] at hj
        cases hj
      rw [hzero] at hj
      exact .inr ⟨by omega, (Option.some.inj hj).symm⟩
  constructor
  · intro x hx adm hadm p r hr
    obtain ⟨q, r₀, hr₀, hw⟩ := hs.live_workload p r hr
    rw [← hw]
    rw [hths] at hx
    rcases of_mem_snoc hx with hx | rfl
    · exact h.unreserved x hx adm hadm q r₀ hr₀
    · exact (hfresh adm hadm).1 q r₀ hr₀
  · intro j k x x' adm adm' hj hk h₁ h₂ he
    rcases hget j x hj with hj | ⟨rfl, rfl⟩ <;> rcases hget k x' hk with hk | ⟨rfl, rfl⟩
    · exact h.apart j k x x' adm adm' hj hk h₁ h₂ he
    · exact absurd he ((hfresh adm' h₂).2 x (List.mem_of_getElem? hj) adm h₁)
    · exact absurd he.symm ((hfresh adm h₁).2 x' (List.mem_of_getElem? hk) adm' h₂)
    · rfl

end Solitary

/-! ## Steps and runs -/

variable {c : Choice}

/-- **What a grant does to the bookkeeping:** a reservation on the lease of the accelerator, on a
target with a free slot. -/
theorem PlacementChange.admits {m m' : Manager} {g : Grant} (h : PlacementChange m c th m')
    (hg : th.grant m c = some (adm, g)) (hbooks : Bookkeeping m) (hreg : m.targets.Has adm.target)
    (hown : ∀ lease, th = .publish adm lease → lease.acceleratorID = leaseID adm.target) :
    ∃ r, Admits m m' r ∧ r.workloadID = adm.request.workloadID ∧ r.targetID = adm.target.id ∧
      r.lease.acceleratorID = leaseID adm.target ∧
      (∀ l, m.targetLeases.lookup adm.target.id = some l → l = r.lease) ∧
      m'.placements = m.placements.insert adm.request.workloadID adm.placement ∧
      GoMap.get m.targetActive adm.target.id < adm.slots := by
  cases h with
  | keep hnone | drop hnone => rw [hnone] at hg; cases hg
  | join adm' lease _ hg' hopen hlease hm =>
    obtain ⟨rfl, rfl⟩ := Prod.mk.inj (Option.mem_unique hg' hg)
    have hacc : lease.acceleratorID = leaseID adm'.target := hbooks.leased _ _ hreg hlease
    rw [hm]
    refine ⟨_, admits_join hlease hacc, rfl, rfl, hacc, ?_, m.placements_join adm' lease,
      hopen.slots⟩
    exact fun l hl => Option.mem_unique hl hlease
  | share adm' e d _ hg' hopen hlease hacc _ hm =>
    obtain ⟨rfl, rfl⟩ := Prod.mk.inj (Option.mem_unique hg' hg)
    rw [hm]
    refine ⟨_, admits_share d hacc, rfl, rfl, hacc, ?_, m.placements_share adm' e.2 d, hopen.slots⟩
    exact fun l hl => nomatch hl.symm.trans hlease
  | publish adm' lease hth hg' hslots hlease hm =>
    obtain ⟨rfl, rfl⟩ := Prod.mk.inj (Option.mem_unique hg' hg)
    have hidle : GoMap.get m.targetActive adm'.target.id = 0 := by
      have hiff := hbooks.cached_iff adm'.target.id
      rw [hlease] at hiff
      rw [hbooks.counted]
      simp only [Option.isSome_none, Bool.false_eq_true, false_iff, not_lt, Nat.le_zero] at hiff
      rw [hiff]
      rfl
    rw [hm]
    refine ⟨_, admits_publish hidle (hown lease hth), rfl, rfl, hown lease hth, ?_,
      m.placements_publish adm' lease, hslots⟩
    exact fun l hl => nomatch hl.symm.trans hlease

/-- The invariant of the slot counts. -/
structure SlotInvariant (s : System) : Prop where
  placed : PlacedExactly s.manager
  admissions : Admissions s
  solitary : Solitary s

/-- Only an admission that finds a free slot raises the counter of a target. -/
def CounterStep (s : System) (a : Action) (s' : System) (id : GoString) : Prop :=
  match a.grant s with
  | some (adm, _) =>
    if adm.target.id = id then GoMap.get s'.manager.targetActive id ≤ adm.slots
    else GoMap.get s'.manager.targetActive id = GoMap.get s.manager.targetActive id
  | none => GoMap.get s'.manager.targetActive id ≤ GoMap.get s.manager.targetActive id

section

variable {s s' : System} {a : Action}

theorem SlotInvariant.grant {i : ℕ} {g : Grant} (h : SlotInvariant s) (hi : s.threads[i]? = some th)
    (hg : th.grant s.manager c = some (adm, g)) (hc : PlacementChange s.manager c th s'.manager)
    (hths : s'.threads = s.threads.set i (th.step s.manager s.store c).2.2) :
    PlacedExactly s'.manager ∧ Solitary s' ∧
    (GoMap.get s'.manager.targetActive adm.target.id ≤ adm.slots ∧
      ∀ id, id ≠ adm.target.id →
        GoMap.get s'.manager.targetActive id = GoMap.get s.manager.targetActive id) := by
  have hmem := List.mem_of_getElem? hi
  obtain ⟨hadm, hdone⟩ := Thread.admission_of_grant hg s.store
  have hreg := (h.admissions.informed th hmem adm hadm).registered
  obtain ⟨r, ha, hw, ht, hacc, hlease, hplaced, hslots⟩ := hc.admits hg h.placed.books hreg
    fun lease hth => h.admissions.lease adm lease (hth ▸ hmem)
  have hnew : ∀ p r', s.manager.Live p r' → r'.workloadID ≠ r.workloadID := by
    rw [hw]
    exact h.solitary.unreserved th hmem adm hadm
  have hbooks : Bookkeeping s'.manager := by
    refine h.placed.books.of_admits ha hnew (by rw [ht]; exact hlease) ?_
    intro target htarget hid
    rw [hacc, htarget.eq_of_id hreg (hid.trans ht)]
  refine ⟨?_, h.solitary.of_admits hi hadm hdone hths ha hw, ?_, ?_⟩
  · exact h.placed.of_admits ha (by rw [hw]; exact hplaced) ht.symm hnew hbooks
  · rw [← ht, ha.active, ht]
    omega
  · intro id hid
    exact ha.active_ne id (by rw [ht]; exact hid)

theorem SlotInvariant.step (h : SlotInvariant s) (hs : Step s a s')
    (hnew : a.byNewWorkload s = true) : SlotInvariant s' ∧ ∀ id, CounterStep s a s' id := by
  have hadmissions := h.admissions.step hs
  cases hs.actionChange with
  | environment hg hsame _ hths =>
    have hcounter : ∀ id, CounterStep s a s' id := by
      intro id
      simp only [CounterStep, hg, hsame.active, le_refl]
    refine ⟨⟨h.placed.of_same hsame, hadmissions, ?_⟩, hcounter⟩
    rcases hths with hths | ⟨th, hstarts, hths⟩
    · exact h.solitary.of_le hsame.live_workload fun i th adm hi hadm => ⟨th, hths ▸ hi, hadm⟩
    · exact h.solitary.spawn hstarts hnew hths hsame
  | run i c th ha hc hi hg hchange hths =>
    -- A thread that is granted nothing stays with its admission, if it has one.
    have hstay : ∀ (j : ℕ) x adm, s'.threads[j]? = some x → x.admission = some adm →
        ∃ th₀, s.threads[j]? = some th₀ ∧ th₀.admission = some adm := by
      intro j x adm hj hx
      by_cases hji : j = i
      · subst hji
        obtain ⟨hlt, -⟩ := List.getElem?_eq_some_iff.1 hi
        rw [hths, List.getElem?_set_self hlt] at hj
        obtain rfl := Option.some.inj hj
        exact ⟨th, hi, Thread.admission_of_step hx⟩
      · rw [hths, List.getElem?_set_ne (Ne.symm hji)] at hj
        exact ⟨x, hj, hx⟩
    cases hgrant : th.grant s.manager c with
    | some x =>
      obtain ⟨hplaced, hsolitary, hle, hne⟩ := h.grant hi hgrant hchange hths
      refine ⟨⟨hplaced, hadmissions, hsolitary⟩, fun id => ?_⟩
      simp only [CounterStep, hg, hgrant]
      split_ifs with hid
      · rw [← hid]
        exact hle
      · exact hne id (Ne.symm hid)
    | none =>
      simp only [CounterStep, hg, hgrant]
      cases hchange with
      | keep _ hsame _ =>
        refine ⟨⟨h.placed.of_same hsame, hadmissions, h.solitary.of_le hsame.live_workload hstay⟩,
          fun id => le_of_eq (by rw [hsame.active])⟩
      | drop _ p r r' hp hr' hm =>
        have hplaced := h.placed.drop hp hr'
        refine ⟨⟨hm ▸ hplaced, hadmissions, h.solitary.of_le ?_ hstay⟩, fun id => ?_⟩
        · intro q r₁ hq
          rw [hm] at hq
          exact ⟨q, r₁, (live_of_set hp.1 hr' hq).2, rfl⟩
        · rw [hm, hplaced.books.counted, h.placed.books.counted]
          have hlive : ((s.manager.setReservation p r').dropPlacement r).liveOn id =
              (s.manager.setReservation p r').liveOn id := rfl
          rw [hlive]
          by_cases hid : id = r.targetID
          · have hset := liveOn_set hp hr'
            rw [hid]
            omega
          · rw [liveOn_set_ne hp.1 hr' hid]
      | join _ _ _ hg' | share _ _ _ _ hg' | publish _ _ _ hg' => rw [hgrant] at hg'; cases hg'

end

/-- The slot bound checked when the target's latest placement was admitted; zero if there was none.
-/
def slotBound (tr : List (Transition System Action)) (targetID : GoString) : ℤ :=
  tr.foldl (fun bound t =>
    match t.label.grant t.pre with
    | some (adm, _) => if adm.target.id = targetID then adm.slots else bound
    | none => bound) 0

theorem slotInvariant_run {s₀ s : System} {tr : List (Transition System Action)}
    (h : Run Step s₀ tr s) (h₀ : s₀.Unplaced)
    (hnew : ∀ t ∈ tr, t.label.byNewWorkload t.pre = true) :
    SlotInvariant s ∧ ∀ id, GoMap.get s.manager.targetActive id ≤ slotBound tr id := by
  induction h with
  | nil =>
    refine ⟨⟨.of_empty h₀.heap h₀.targetActive h₀.targetLeases h₀.placements, .of_nil h₀.threads,
      .of_nil h₀.threads⟩, fun id => ?_⟩
    rw [h₀.targetActive]
    exact le_refl _
  | @snoc tr s s' a _ hs ih =>
    obtain ⟨hinv, hbound⟩ := ih fun t ht => hnew t (by simp [ht])
    obtain ⟨hinv', hcounter⟩ := hinv.step hs (hnew ⟨s, a, s'⟩ (by simp))
    refine ⟨hinv', fun id => ?_⟩
    have hid := hcounter id
    rw [slotBound, List.foldl_append, List.foldl_cons, List.foldl_nil]
    simp only [CounterStep] at hid
    change _ ≤ (match a.grant s with
      | some (adm, _) => if adm.target.id = id then adm.slots else slotBound tr id
      | none => slotBound tr id)
    split at hid
    · split_ifs at hid with htarget
      · rw [if_pos htarget]
        exact hid
      · rw [if_neg htarget, hid]
        exact hbound id
    · exact hid.trans (hbound id)

/-- **Counters, placements and leases agree**, however admissions and releases are interleaved, if a
workload asks for an admission only while it has none. -/
theorem counters_match_placements {s₀ s : System} {tr : List (Transition System Action)}
    (h : Run Step s₀ tr s) (h₀ : s₀.Unplaced) (hnew : ∀ t ∈ tr, t.label.byNewWorkload t.pre = true)
    (id : GoString) : GoMap.get s.manager.targetActive id = s.manager.placementsOn id ∧
    GoMap.get s.manager.targetActive id ≤ slotBound tr id ∧
    ((s.manager.targetLeases.lookup id).isSome = true ↔
      0 < GoMap.get s.manager.targetActive id) := by
  obtain ⟨hinv, hbound⟩ := slotInvariant_run h h₀ hnew
  have hcount := hinv.placed.books.counted id
  refine ⟨?_, hbound id, ?_⟩
  · rw [hcount, hinv.placed.count]
  · rw [hinv.placed.books.cached_iff, hcount]
    omega

/-- Two workloads take two slots. The first leaves; the release of the second fails once and is
repeated while a third is admitted. -/
def comeAndGo : List (System → Action) :=
  admitTwo ++
  [fun _ => .releaseTarget 0, runAt 2 {} .none, runAt 2 {} .none, runAt 2 {} .none,
   fun _ => .releaseTarget 1, runAt 3 {} .none, runAt 3 {} .none,
   runAt 3 {} (.before unavailable), runAt 3 {} .none, runAt 3 {} .none, runAt 3 {} .none,
   fun _ => .releaseTarget 1, runAt 4 {} .none, runAt 4 {} .none,
   fun _ => .reserveTarget "t" { workloadID := "w3" }, runAt 5 {} .none,
   runAt 4 {} .none, runAt 4 {} .none, runAt 4 {} .none]

theorem unplaced_oneTarget : oneTarget.Unplaced := ⟨fresh_oneTarget, rfl⟩

/-- In the end the third workload is placed, and counted. -/
theorem counters_match_comeAndGo :
    let tr := script oneTarget comeAndGo
    let s := afterScript oneTarget comeAndGo
    s.manager.activePlacements.keys = [ofString "w3"] ∧
    GoMap.get s.manager.targetActive "t" = 1 ∧ slotBound tr "t" = 2 ∧
    GoMap.get s.manager.targetActive "t" = s.manager.placementsOn "t" ∧
    GoMap.get s.manager.targetActive "t" ≤ slotBound tr "t" ∧
    ((s.manager.targetLeases.lookup (ofString "t")).isSome = true ↔
      0 < GoMap.get s.manager.targetActive "t") :=
  ⟨by decide, by decide, by decide,
    counters_match_placements (run_script (by simp [comeAndGo, admitTwo, Action.Admissible, runAt,
      Choice.of_ofSystem]) oneTarget) unplaced_oneTarget (by decide) _⟩

end VramGovernor.Workloads
