import VramGovernor.Workloads.LeaseLedger

/-!
# Admission and the ledger

What the steps of `reserveTarget` do to the ledger. A lease that is acquired has a token above the
fence counter, so nobody has seen it (`LeaseInvariant.stepAcquire`); it is then published, or given
back. The fast path puts the lease of another reservation on a new one, which the ledger allows if
that one is not in flight. The code does not test this, nor that the workload has no other
reservation; `grantsSafely` says that it is so.
-/

namespace VramGovernor.Workloads

open GoString Store Thread

/-! ## The condition -/

/-- The workload has no reservation that is not released. -/
def notReserved (m : Manager) (workloadID : GoString) : Bool :=
  m.heap.all fun r => r.released || r.workloadID ≠ workloadID

/-- No reservation on the lease has its release in flight. -/
def notReleasing (m : Manager) (n : LeaseName) : Bool :=
  m.heap.all fun r => !r.releaseInFlight || leaseName r.lease ≠ n

/-- The call with which `reserveTarget` acquires a lease. -/
def acquireCall (m : Manager) (c : Choice) (adm : Admission) : StoreCall :=
  .acquire (leaseID adm.target) adm.request.workloadID [] m.leaseTTL c.now c.acquireOrders

/-- A workload that is granted a reservation has no other one, the lease that it joins is not being
released, and no fence counter wraps. -/
def grantsSafely (s : System) : Action → Bool
  | .run i c =>
    match s.threads[i]? with
    | some (.reserve adm) =>
      match s.manager.fastPath adm c.blocked c.leaseOrder c.placementOrder with
      | .joined lease | .shared lease _ =>
        notReserved s.manager adm.request.workloadID && notReleasing s.manager (leaseName lease)
      | _ => true
    | some (.acquire adm) => (acquireCall s.manager c adm).noWrap s.store
    | some (.publish adm _) =>
      match s.manager.publication adm c.blocked with
      | .published => notReserved s.manager adm.request.workloadID
      | _ => true
    | _ => true
  | .storeCall c => c.noWrap s.store
  | _ => true

section

variable {s : System} {gone : List LeaseName} {i p : ℕ} {th th' : Thread} {c : Choice}
  {m m' : Manager} {r : TargetReservation} {adm : Admission} {next : Manager × MemoryStore × Thread}

theorem live_of_notReserved {w : GoString} (h : notReserved m w = true) (hr : m.Live p r) :
    r.workloadID ≠ w := by
  have hmem := List.all_eq_true.1 h r (List.mem_of_getElem? hr.1)
  simpa [hr.2] using hmem

theorem not_inFlight_of_notReleasing {n : LeaseName} (h : notReleasing m n = true) (hr : m.Live p r)
    (hn : leaseName r.lease = n) : ¬ m.InFlight p := by
  rintro ⟨r', hp, hf⟩
  obtain rfl := Option.mem_unique hr.1 hp
  have hmem := List.all_eq_true.1 h r (List.mem_of_getElem? hp)
  simp [hf, hn] at hmem

theorem extends_of_admits (ha : Bookkeeping.Admits m m' r) : Extends m m' := by
  refine ⟨ha.targets, fun p x hp => ⟨x, ?_, rfl⟩⟩
  obtain ⟨hlt, -⟩ := List.getElem?_eq_some_iff.1 hp
  rw [ha.heap, List.getElem?_append_left hlt, hp]

theorem inFlight_of_admits (ha : Bookkeeping.Admits m m' r) (hr : r.releaseInFlight = false) :
    m'.InFlight p ↔ m.InFlight p := by
  constructor
  · rintro ⟨x, hp, hf⟩
    rcases ha.get_cases hp with hp | ⟨-, rfl⟩
    · exact ⟨x, hp, hf⟩
    · rw [hr] at hf
      cases hf
  · rintro ⟨x, hp, hf⟩
    exact ⟨x, ha.get_of_get hp, hf⟩

section

variable (h : LeaseInvariant s gone)
include h

/-- **An admission** hands out a reservation on a lease which was not released, is not being
released and is in no other thread's hands. -/
theorem LeaseInvariant.of_admits {m' : Manager} {r : TargetReservation}
    (hi : s.threads[i]? = some th) (hconf : th.confirmed = none)
    (ha : Bookkeeping.Admits s.manager m' r) (hbooks : Bookkeeping m')
    (hr : r.releaseInFlight = false) (hg : Granted s.store (leaseName r.lease))
    (hgone : leaseName r.lease ∉ gone)
    (hflight : ∀ q r', s.manager.Live q r' → leaseName r'.lease = leaseName r.lease →
      ¬ s.manager.InFlight q)
    (hheld : ∀ j, j ≠ i → ¬ ThreadHas s.threads holds j (leaseName r.lease)) (o : Outcome) :
    LeaseInvariant ⟨m', s.store, s.threads.set i (.done o)⟩ gone := by
  -- The thread no longer holds the lease when it is put on the reservation.
  let L := { s.ledger gone with holds := fun j n => j ≠ i ∧ ThreadHas s.threads holds j n }
  have hL : L.Safe := by
    refine h.safe.shrink (fun _ _ hl => hl) (fun _ hf => hf) ?_ h.safe.owns_of_confirmed ?_ ?_ ?_
    · exact fun j p ho => ⟨ho, h.safe.flight_of_owns j p ho⟩
    · exact fun j p n hc _ => hc
    · exact fun j n hj => hj.2
    · exact fun n hn => hn
  have hnew : ¬ s.manager.InFlight s.manager.heap.length := by
    rintro ⟨x, hx, -⟩
    simp at hx
  have hsafe : (L.attach s.manager.heap.length (leaseName r.lease)).Safe := by
    refine hL.attach hnew ?_ hgone fun j hj => hheld j hj.1 hj.2
    rintro q ⟨r', hr', hn⟩
    exact hflight q r' hr' hn
  refine h.replace hi hbooks (extends_of_admits ha) trivial ?_ (fun _ => le_refl _)
    (fun n hn => .inl hn) ?_ (fun n hn => nomatch hn)
    (ledger_safe_of hsafe _ hi ?_ ?_ ?_ ?_ ?_ ?_ ?_ ?_ ?_)
  · intro p x hp hf
    rcases ha.get_cases hp with hp | ⟨-, rfl⟩
    · exact h.inFlight_live p x hp hf
    · exact ha.released
  · intro x hx
    rw [ha.heap] at hx
    rcases of_mem_snoc hx with hx | rfl
    · exact h.heap_granted x hx
    · exact hg
  · intro p x hx
    rcases ha.live_cases hx with hx | ⟨rfl, rfl⟩
    · exact .inl ⟨x, hx, rfl⟩
    · exact .inr ⟨rfl, rfl⟩
  · exact fun p hp => (inFlight_of_admits ha hr).1 hp
  · exact fun p hp => nomatch hp
  · exact fun j p _ ho => ⟨ho, (inFlight_of_admits ha hr).2 (h.safe.flight_of_owns j p ho)⟩
  · intro p x hc _
    have hc : th.confirmed = some p := (threadHas_self hi).1 hc
    rw [hconf] at hc
    cases hc
  · exact fun j p _ hc => hc
  · exact fun n hn => nomatch hn
  · exact fun j n hj hh => ⟨hj, hh⟩
  · exact fun n hn => hn

theorem LeaseInvariant.stepReserve (hi : s.threads[i]? = some (.reserve adm)) (hc : c.Of s)
    (hsafe : grantsSafely s (.run i c) = true)
    (hchange : Change s.manager s.store c (.reserve adm) next) :
    LeaseInvariant ⟨next.1, next.2.1, s.threads.set i next.2.2⟩ gone := by
  have hhas : s.manager.targets.Has adm.target := h.sound _ (List.mem_of_getElem? hi)
  simp only [grantsSafely, hi] at hsafe
  -- A lease that some reservation is on was not released and is in no thread's hands.
  have hshared : ∀ (lease : AcceleratorLease) (id : GoString),
      s.manager.targetLeases.lookup id = some lease →
      notReleasing s.manager (leaseName lease) = true →
      Granted s.store (leaseName lease) ∧ leaseName lease ∉ gone ∧
        ∀ j, ¬ ThreadHas s.threads holds j (leaseName lease) := by
    intro lease id hl hnr
    obtain ⟨q, r, hr, rfl⟩ := h.books.exists_live hl
    have hlive : (s.ledger gone).live q (leaseName r.lease) := ⟨r, hr, rfl⟩
    refine ⟨h.heap_granted r (List.mem_of_getElem? hr.1), ?_, fun j hj => ?_⟩
    · exact h.safe.not_gone hlive (not_inFlight_of_notReleasing hnr hr rfl)
    · exact h.safe.held_not_live j _ hj q hlive
  cases hchange with
  | refused => exact h.idle hi (.refl _) (fun _ => le_refl _) rfl trivial ⟨rfl, rfl⟩
  | vacant => exact h.idle hi (.refl _) (fun _ => le_refl _) rfl hhas ⟨rfl, rfl⟩
  | @joined _ lease he hl =>
    rw [he] at hsafe
    obtain ⟨hnew, hnr⟩ := Bool.and_eq_true_iff.1 hsafe
    obtain ⟨hg, hgone, hheld⟩ := hshared lease _ hl hnr
    have hacc : lease.acceleratorID = leaseID adm.target := h.books.leased _ _ hhas hl
    have ha := Bookkeeping.admits_join hl hacc
    refine h.of_admits hi rfl ha ?_ rfl hg hgone ?_ (fun j _ => hheld j) _
    · refine h.books.of_admits ha (fun p r hr => live_of_notReserved hnew hr) ?_ ?_
      · intro l hl'
        exact Option.mem_unique hl' hl
      · intro target ht hid
        have hl' : s.manager.targetLeases.lookup target.id = some lease := by rw [hid]; exact hl
        exact h.books.leased target lease ht hl'
    · exact fun q r hr hn => not_inFlight_of_notReleasing hnr hr hn
  | @shared _ d e he hnone hmem hacc =>
    rw [he] at hsafe
    obtain ⟨hnew, hnr⟩ := Bool.and_eq_true_iff.1 hsafe
    obtain ⟨hg, hgone, hheld⟩ := hshared e.2 e.1 (hc.leaseOrder.mem_iff.1 hmem) hnr
    have ha := Bookkeeping.admits_share (m := s.manager) d hacc
    refine h.of_admits hi rfl ha ?_ rfl hg hgone ?_ (fun j _ => hheld j) _
    · refine h.books.of_admits ha (fun p r hr => live_of_notReserved hnew hr) ?_ ?_
      · intro l hl
        change s.manager.targetLeases.lookup adm.target.id = some l at hl
        rw [hnone] at hl
        cases hl
      · intro target ht hid
        rw [ht.eq_of_id hhas hid]
        exact hacc
    · exact fun q r hr hn => not_inFlight_of_notReleasing hnr hr hn

omit h in
theorem granted_names {st : MemoryStore} {a w : GoString} {ttl : ℤ} {now : GoTime} {o : ScanOrders}
    (ho : o.Of st) (hg : (acquireAcceleratorLease st a w [] ttl now o).2.2 = true) :
    (acquireAcceleratorLease st a w [] ttl now o).2.1.acceleratorID = a ∧
      (acquireAcceleratorLease st a w [] ttl now o).2.1.workloadID = w := by
  rcases acquireAcceleratorLease_cases ho a w [] ttl now with ⟨l, hl⟩ | ⟨r, -, hl⟩
  · rw [hl] at hg
    cases hg
  · rw [hl]
    exact ⟨rfl, rfl⟩

theorem LeaseInvariant.stepAcquire (hi : s.threads[i]? = some (.acquire adm)) (hc : c.Of s)
    (hsafe : grantsSafely s (.run i c) = true)
    (hchange : Change s.manager s.store c (.acquire adm) next) :
    LeaseInvariant ⟨next.1, next.2.1, s.threads.set i next.2.2⟩ gone := by
  have hhas : s.manager.targets.Has adm.target := h.sound _ (List.mem_of_getElem? hi)
  simp only [grantsSafely, hi] at hsafe
  have hstep : StoreStep s.store (acquireCall s.manager c adm)
      ((acquireCall s.manager c adm).exec s.store) := ⟨hc.acquireOrders, rfl⟩
  have hmono : ∀ a, counter s.store a ≤ counter ((acquireCall s.manager c adm).exec s.store) a :=
    fun a => (counter_step hstep a (counterBelowMax_of_noWrap hsafe a _)).1
  cases hchange with
  | notAcquired hst =>
    rcases hst with rfl | rfl
    · exact h.idle hi (.refl _) (fun _ => le_refl _) rfl trivial ⟨rfl, rfl⟩
    · exact h.idle hi (.refl _) hmono rfl trivial ⟨rfl, rfl⟩
  | acquired hg =>
    -- The token is above the counter, so nobody has seen the lease.
    obtain ⟨hacc, hw⟩ := granted_names hc.acquireOrders hg
    unfold acquisition at hg ⊢
    generalize hlease : (acquireAcceleratorLease s.store (leaseID adm.target)
      adm.request.workloadID [] s.manager.leaseTTL c.now c.acquireOrders).2.1 = lease at hacc hw ⊢
    have htoken : grantedToken (leaseID adm.target)
        ⟨s.store, acquireCall s.manager c adm, (acquireCall s.manager c adm).exec s.store⟩ =
          some lease.fencingToken.toInt := by
      simp [grantedToken, StoreCall.granted, acquireCall, hg, hlease]
    obtain ⟨hlt, hle⟩ := (counter_step hstep (leaseID adm.target)
      (counterBelowMax_of_noWrap hsafe _ _)).2 _ htoken
    have hnew : ¬ Granted s.store (leaseName lease) := by
      simp only [Granted, leaseName, hacc]
      omega
    have hgranted : Granted ((acquireCall s.manager c adm).exec s.store) (leaseName lease) := by
      simp only [Granted, leaseName, hacc]
      exact hle
    have hhold : ((s.ledger gone).hold i (leaseName lease)).Safe := by
      refine h.safe.hold (fun hn => hnew (h.gone_granted _ hn)) ?_ fun j hj => ?_
      · rintro p ⟨r, hr, hn⟩
        exact hnew (hn ▸ h.heap_granted r (List.mem_of_getElem? hr.1))
      · exact hnew (h.held_granted j _ hj)
    refine h.operate hi hhold rfl rfl rfl hmono ⟨hhas, hacc, hw⟩ (fun p hp => by cases hp) ?_
      (fun j p _ hconf => hconf) ?_ (fun j n _ hj => .inl hj) (fun n hn => ⟨hn, .inl hn⟩)
    · intro p hconf
      cases (threadHas_self hi).1 hconf
    · intro n hn
      obtain rfl : leaseName lease = n := Option.some.inj hn
      exact ⟨.inr ⟨rfl, rfl⟩, hgranted⟩

theorem LeaseInvariant.stepPublish {lease : AcceleratorLease}
    (hi : s.threads[i]? = some (.publish adm lease)) (hsafe : grantsSafely s (.run i c) = true)
    (hchange : Change s.manager s.store c (.publish adm lease) next) :
    LeaseInvariant ⟨next.1, next.2.1, s.threads.set i next.2.2⟩ gone := by
  obtain ⟨hhas, hacc, hw⟩ : (publish adm lease).Sound s.manager :=
    h.sound _ (List.mem_of_getElem? hi)
  simp only [grantsSafely, hi] at hsafe
  have hheld : (s.ledger gone).holds i (leaseName lease) := ⟨_, hi, rfl⟩
  cases hchange with
  | notPublished =>
    -- The lease stays in the hands of the thread, which gives it back.
    refine h.quiet hi (.refl _) (fun _ => le_refl _) hhas (fun p hp => nomatch hp)
      (fun p hp => nomatch hp) ?_
    intro n hn
    rw [← hn]
    simp [holds, Rollback.name, leaseName, hw]
  | published hp =>
    rw [hp] at hsafe
    have hnone := Manager.lease_eq_none_of_published hp
    have hidle : GoMap.get s.manager.targetActive adm.target.id = 0 := by
      have hcached := h.books.cached_iff adm.target.id
      rw [hnone] at hcached
      have hzero : s.manager.liveOn adm.target.id = 0 := by simpa using hcached
      rw [h.books.counted, hzero]
      rfl
    have ha := Bookkeeping.admits_publish hidle hacc
    refine h.of_admits hi rfl ha ?_ rfl (h.held_granted i _ hheld) (h.safe.held_not_gone i _ hheld)
      ?_ ?_ _
    · refine h.books.of_admits ha (fun p r hr => live_of_notReserved hsafe hr) ?_ ?_
      · intro l hl
        exact nomatch hnone.symm.trans hl
      · intro target ht hid
        rw [ht.eq_of_id hhas hid]
        exact hacc
    · exact fun q r hr hn => absurd ⟨r, hr, hn⟩ (h.safe.held_not_live i _ hheld q)
    · exact fun j hj hh => hj (h.safe.holder_unique j i _ hh hheld)

/-- **A thread gives back the lease that it has acquired.** -/
theorem LeaseInvariant.discard {st' : MemoryStore} {n : LeaseName} (hi : s.threads[i]? = some th)
    (hst : ∀ a, counter s.store a ≤ counter st' a) (hheld : th.holds = some n)
    (hconf : th.confirmed = none) (hsound : th'.Sound s.manager) (hidle : th'.Idle) :
    LeaseInvariant ⟨s.manager, st', s.threads.set i th'⟩ (gone ++ [n]) := by
  have hholds : (s.ledger gone).holds i n := ⟨th, hi, hheld⟩
  refine h.operate hi (h.safe.discard hholds) rfl rfl rfl hst hsound ?_ ?_ (fun j p _ hc => hc) ?_
    ?_ ?_
  · intro p hp
    rw [hidle.owns] at hp
    cases hp
  · intro p hc
    have hc : th.confirmed = some p := (threadHas_self hi).1 hc
    rw [hconf] at hc
    cases hc
  · intro x hx
    rw [hidle.holds] at hx
    cases hx
  · refine fun j x hj hx => ⟨hx, ?_⟩
    rintro rfl
    exact hj (h.safe.holder_unique j i x hx hholds)
  · intro x hx
    rcases of_mem_snoc hx with hx | rfl
    · exact ⟨.inl hx, .inl hx⟩
    · exact ⟨.inr rfl, .inr ((h.held_granted i x hholds).mono hst)⟩

/-- The rollback of a lease that an admission could not publish. -/
theorem LeaseInvariant.stepRollback_reserve {rb : Rollback} {stage : RollbackStage}
    {reason : Option GoString}
    (hi : s.threads[i]? = some (.rollback rb stage (.reserve adm reason)))
    (hchange : Change s.manager s.store c (.rollback rb stage (.reserve adm reason)) next) :
    LeaseInvariant ⟨next.1, next.2.1, s.threads.set i next.2.2⟩
      (gone ++ (releasedName s (.run i c)).toList) := by
  have hhas : s.manager.targets.Has adm.target := h.sound _ (List.mem_of_getElem? hi)
  have hst : ∀ a, counter s.store a ≤ counter (rb.step s.store c.fault c.now stage).1 a :=
    counter_le_of_leaseFences (rb.step_leaseFences s.store c.fault c.now stage)
  have hafter : ∀ e, (afterRollback e (.reserve adm reason)).Sound s.manager ∧
      (afterRollback e (.reserve adm reason)).Idle := by
    intro e
    cases e with
    | some e => exact ⟨trivial, rfl, rfl⟩
    | none =>
      cases reason with
      | some reason => exact ⟨trivial, rfl, rfl⟩
      | none => exact ⟨hhas, rfl, rfl⟩
  have hnone : (rollback rb stage (.reserve adm reason)).confirmed = none := by
    cases stage <;> rfl
  simp only [releasedName, hi]
  have hresult := rb.step_result s.store c.fault c.now stage
  generalize rb.confirms s.store c.fault c.now stage = confirms at hresult
  cases hchange with
  | rollsBack he =>
    rw [he] at hresult
    cases hresult with
    | forget hstage =>
      refine h.discard hi hst ?_ hnone hhas ⟨rfl, rfl⟩
      rcases hstage with rfl | rfl <;> rfl
    | verify =>
      rw [if_neg Bool.false_ne_true, Option.toList_none, List.append_nil]
      exact h.quiet hi (.refl _) hst hhas (fun p hp => nomatch hp) (fun p hp => nomatch hp)
        (fun n hn => hn)
    | persist =>
      rw [if_neg Bool.false_ne_true, Option.toList_none, List.append_nil]
      exact h.idle hi (.refl _) hst hnone hhas ⟨rfl, rfl⟩
  | @rolledBack _ _ e _ he =>
    obtain ⟨hsound, hidle⟩ := hafter e
    rw [he] at hresult
    cases hresult with
    | gone hstage =>
      refine h.discard hi hst ?_ hnone hsound hidle
      rcases hstage with rfl | rfl <;> rfl
    | forgotten | persisted =>
      rw [if_neg Bool.false_ne_true, Option.toList_none, List.append_nil]
      exact h.idle hi (.refl _) hst hnone hsound hidle

end

end

end VramGovernor.Workloads
