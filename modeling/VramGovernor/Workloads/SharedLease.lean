import VramGovernor.Workloads.AdmissionSteps
import VramGovernor.Workloads.ReleaseSteps

/-!
# Reservations and released leases

A reservation that was granted and is not released should not carry a durable lease that the manager
has given back. `reserveTarget` joins the lease that a target runs under without looking whether its
release is in flight, and hands out a reservation on a lease that is then released
(`joined_lease_released`). If no admission does this, the ledger stays safe
(`live_lease_not_released`).
-/

namespace VramGovernor.Workloads

open GoString Store

def Action.startsRetry : Action → Bool
  | .retryAcceleratorLeaseCleanupIntents => true
  | _ => false

/-! ## Steps of threads -/

section

variable {s : System} {gone : List LeaseName} {i : ℕ} {th th' : Thread} {c : Choice}
  {new : List Thread} {st' : MemoryStore}

section

variable (h : LeaseInvariant s gone)
include h

section

variable (hi : s.threads[i]? = some th) (hc : c.Of s) (hsafe : grantsSafely s (.run i c) = true)
include hi hc hsafe

/-- The points of a thread at which it releases no lease. -/
theorem LeaseInvariant.stepThread_of_ne (hne : ∀ rb stage k, th ≠ .rollback rb stage k) :
    LeaseInvariant (Action.stepThread s i th c) gone := by
  have hsound : th.Sound s.manager := h.sound th (List.mem_of_getElem? hi)
  have hchange := th.change s.manager s.store c
  unfold Action.stepThread
  generalize th.step s.manager s.store c = next at hchange
  have hkept : ∀ a, counter s.store a ≤ counter s.store a := fun _ => le_refl _
  cases th with
  | reserve adm => exact h.stepReserve hi hc hsafe hchange
  | acquire adm => exact h.stepAcquire hi hc hsafe hchange
  | publish adm lease => exact h.stepPublish hi hsafe hchange
  | rollback rb stage k => exact absurd rfl (hne rb stage k)
  | elect p intent terminal =>
    cases hchange with
    | absent => exact h.idle hi (.refl _) hkept rfl trivial ⟨rfl, rfl⟩
    | fenced hp => exact h.idle hi (.setReservation hp rfl rfl) hkept rfl trivial ⟨rfl, rfl⟩
    | settled =>
      obtain ⟨hsound, hidle⟩ := afterRelease_idle s.manager terminal
      exact h.idle hi (.refl _) hkept rfl hsound hidle
    | last hp he => exact h.elect hi hc hp he rfl rfl
    | left hp he => exact h.leave hi hp he
  | clearInFlight p e =>
    cases hchange
    exact h.clearInFlight hi _
  | finish p terminal rest =>
    obtain rfl : rest = none := hsound
    exact h.stepFinish hi hchange
  | unregister p terminal rest =>
    obtain rfl : rest = none := hsound
    cases hchange
    obtain ⟨hsound, hidle⟩ := afterRelease_idle (Thread.stepUnregister s.manager p) terminal
    exact h.idle hi (quiet_stepUnregister _ p) hkept rfl hsound hidle
  | done | releaseTarget =>
    cases hchange
    exact h.idle hi (.refl _) hkept rfl trivial ⟨rfl, rfl⟩
  | prepare p w disposition =>
    cases hchange with
    | notPrepared => exact h.idle hi (.refl _) hkept rfl trivial ⟨rfl, rfl⟩
    | prepared hp => exact h.idle hi (.setReservation hp rfl rfl) hkept rfl trivial ⟨rfl, rfl⟩
  | bindIntent p intent =>
    cases hchange
    exact h.idle hi (.updateReservation _ p (fun _ => rfl) (fun _ => rfl)) hkept rfl trivial
      ⟨rfl, rfl⟩
  | finalize intent rest =>
    cases hchange <;> exact h.idle hi (.refl _) hkept rfl hsound ⟨rfl, rfl⟩
  | recordIntent p intent =>
    cases hchange with
    | notRecorded hst | recorded hst =>
      exact h.idle hi (.refl _) (counter_le_of_leaseFences hst.leaseFences) rfl trivial ⟨rfl, rfl⟩
  | confirm intent rest =>
    cases hchange with
    | confirmed hst | notConfirmed hst =>
      exact h.idle hi (.refl _) (counter_le_of_leaseFences hst.leaseFences) rfl hsound ⟨rfl, rfl⟩
  | forgetIntent | reschedule =>
    subst hsound
    cases hchange
    next hst =>
      exact h.idle hi (.refl _) (counter_le_of_leaseFences hst.leaseFences) rfl trivial ⟨rfl, rfl⟩
  -- The retry loop does not run.
  | listIntents | retry intents | findReservation w terminal rest => exact hsound.elim

/-- **A step of a thread keeps the invariant,** with the lease that it releases. -/
theorem LeaseInvariant.stepThread :
    LeaseInvariant (Action.stepThread s i th c) (gone ++ (releasedName s (.run i c)).toList) := by
  by_cases hroll : ∃ rb stage k, th = .rollback rb stage k
  · obtain ⟨rb, stage, k, rfl⟩ := hroll
    have hchange := (Thread.rollback rb stage k).change s.manager s.store c
    cases k with
    | reserve adm reason => exact h.stepRollback_reserve hi hchange
    | release p terminal => exact h.stepRollback_release hi hchange
    | retry intent rest => exact (h.sound _ (List.mem_of_getElem? hi)).elim
  · have hne : ∀ rb stage k, th ≠ .rollback rb stage k :=
      fun rb stage k he => hroll ⟨rb, stage, k, he⟩
    have hnone : releasedName s (.run i c) = none := by
      simp only [releasedName, hi]
      split
      · next he => exact absurd (Option.some.inj he) (hne _ _ _)
      · rfl
    rw [hnone, Option.toList_none, List.append_nil]
    exact h.stepThread_of_ne hi hc hsafe hne

end

/-! ## Runs -/

omit h in
theorem threadHas_append {β : Type} (threads : List Thread) {f : Thread → Option β}
    (hnew : ∀ th ∈ new, f th = none) (j : ℕ) (b : β) :
    ThreadHas (threads ++ new) f j b ↔ ThreadHas threads f j b := by
  constructor
  · rintro ⟨x, hx, hb⟩
    rcases Nat.lt_or_ge j threads.length with hlt | hge
    · rw [List.getElem?_append_left hlt] at hx
      exact ⟨x, hx, hb⟩
    · rw [List.getElem?_append_right hge] at hx
      rw [hnew x (List.mem_of_getElem? hx)] at hb
      cases hb
  · rintro ⟨x, hx, hb⟩
    obtain ⟨hlt, -⟩ := List.getElem?_eq_some_iff.1 hx
    exact ⟨x, by rw [List.getElem?_append_left hlt, hx], hb⟩

/-- **An action of the environment:** threads may start, and nothing else happens. -/
theorem LeaseInvariant.environment {m' : Manager} (hq : Quiet s.manager m')
    (hst : ∀ a, counter s.store a ≤ counter st' a) (hnew : ∀ th ∈ new, th.Sound m' ∧ th.Idle) :
    LeaseInvariant ⟨m', st', s.threads ++ new⟩ gone := by
  have howns := threadHas_append s.threads fun th hth => (hnew th hth).2.owns
  have hconf := threadHas_append s.threads fun th hth => (hnew th hth).2.confirmed
  have hholds := threadHas_append s.threads fun th hth => (hnew th hth).2.holds
  refine ⟨h.books.of_same hq.same, ?_, hq.inFlight_live h.inFlight_live, ?_, ?_, ?_, ?_⟩
  · intro th hth
    rcases List.mem_append.1 hth with hth | hth
    · exact (h.sound th hth).extends hq.subsides.toExtends
    · exact (hnew th hth).1
  · refine h.safe.shrink ?_ (fun p hp => hq.inFlight hp) ?_ ?_ ?_ ?_ (fun n hn => hn)
    · rintro p n ⟨r, ⟨hp, hr⟩, rfl⟩
      obtain ⟨r₀, hp₀, hl, hlive⟩ := hq.subsides.back p r hp
      exact ⟨r₀, ⟨hp₀, hlive hr⟩, by rw [hl]⟩
    · intro j p hj
      have ho : (s.ledger gone).owns j p := (howns j p).1 hj
      exact ⟨ho, hq.symm.inFlight (h.safe.flight_of_owns j p ho)⟩
    · intro j p hj
      exact (howns j p).2 (h.safe.owns_of_confirmed j p ((hconf j p).1 hj))
    · exact fun j p n hc _ => (hconf j p).2 hc
    · exact fun j n hj => (hholds j n).1 hj
  · exact fun n hn => (h.gone_granted n hn).mono hst
  · exact hq.subsides.granted h.heap_granted hst
  · exact fun j n hj => (h.held_granted j n ((hholds j n).1 hj)).mono hst

theorem LeaseInvariant.spawn (hsound : th.Sound s.manager)
    (hidle : th.Idle) : LeaseInvariant (Action.spawn s th) gone :=
  h.environment (.refl _) (fun _ => le_refl _) (by simpa using ⟨hsound, hidle⟩)

/-- The manager or the store changes, and nothing of reservations and leases. -/
theorem LeaseInvariant.change {m' : Manager} (hq : Quiet s.manager m')
    (hst : ∀ a, counter s.store a ≤ counter st' a) : LeaseInvariant ⟨m', st', s.threads⟩ gone := by
  have hchange := h.environment hq hst (fun th (hth : th ∈ []) => nomatch hth)
  rwa [List.append_nil] at hchange

/-- What is done outside the threads, the retry loop apart. -/
theorem LeaseInvariant.exec_of_ne {a : Action} (ha : a.Admissible s)
    (hretry : a.startsRetry = false) (hsafe : grantsSafely s a = true)
    (hne : ∀ i c, a ≠ .run i c) : LeaseInvariant (a.exec s) gone := by
  cases a with
  | run i c => exact absurd rfl (hne i c)
  | reserveTarget targetID request =>
    simp only [Action.exec]
    split
    · exact h.spawn trivial ⟨rfl, rfl⟩
    · next target ht =>
      have hhas : s.manager.targets.Has target := by
        rw [TargetRegistry.Has, s.manager.targets.keyed _ _ ht]
        exact ht
      exact h.spawn hhas ⟨rfl, rfl⟩
  | releaseTarget p | releaseTargetWithIntent p intent | releaseBeforeTerminal p w disposition =>
    exact h.spawn trivial ⟨rfl, rfl⟩
  | retryAcceleratorLeaseCleanupIntents => cases hretry
  | register w p | learn profiles =>
    exact h.change ⟨⟨rfl, rfl, rfl, rfl, rfl⟩, rfl⟩ fun _ => le_refl _
  | backendStop p pending confirmed =>
    exact h.change (.updateReservation _ p (fun _ => rfl) (fun _ => rfl)) fun _ => le_refl _
  | storeCall call =>
    refine h.change (.refl _) fun a => ?_
    have hstep : StoreStep s.store call (call.exec s.store) := ⟨ha, rfl⟩
    exact (counter_step hstep a (counterBelowMax_of_noWrap hsafe a _)).1

/-- **Every action keeps the invariant** if it grants safely and does not start the retry loop. -/
theorem LeaseInvariant.step {s' : System} {a : Action}
    (hs : Step s a s') (hretry : a.startsRetry = false) (hsafe : grantsSafely s a = true) :
    LeaseInvariant s' (gone ++ (releasedName s a).toList) := by
  obtain ⟨ha, rfl⟩ := hs
  by_cases hrun : ∃ i c, a = .run i c
  · obtain ⟨i, c, rfl⟩ := hrun
    cases hi : s.threads[i]? with
    | none => simpa [Action.exec, releasedName, hi] using h
    | some th =>
      simp only [Action.exec, hi]
      exact h.stepThread hi ha hsafe
  · have hne : ∀ i c, a ≠ .run i c := fun i c he => hrun ⟨i, c, he⟩
    have hnone : releasedName s a = none := by
      cases a with
      | run i c => exact absurd rfl (hne i c)
      | _ => rfl
    rw [hnone, Option.toList_none, List.append_nil]
    exact h.exec_of_ne ha hretry hsafe hne

end

end

/-- No reservation was handed out and no thread has started. -/
structure System.Fresh (s : System) : Prop where
  targetActive : s.manager.targetActive = ∅
  targetLeases : s.manager.targetLeases = ∅
  heap : s.manager.heap = []
  threads : s.threads = []

theorem LeaseInvariant.of_fresh {s : System} (h : s.Fresh) : LeaseInvariant s [] := by
  have hlive : ∀ p n, ¬ (s.ledger []).live p n := by
    rintro p n ⟨r, ⟨hp, -⟩, -⟩
    simp [h.heap] at hp
  have hhas : ∀ {β : Type} (f : Thread → Option β) (i : ℕ) (b : β),
      ¬ ThreadHas s.threads f i b := by
    rintro β f i b ⟨th, hi, -⟩
    simp [h.threads] at hi
  refine ⟨.of_empty h.heap h.targetActive h.targetLeases, ?_, ?_, ?_, ?_, ?_, ?_⟩
  · simp [h.threads]
  · simp [h.heap]
  · refine ⟨?_, ?_, ?_, ?_, ?_, ?_, ?_, ?_⟩
    · exact fun p _ n _ hp => absurd hp (hlive p n)
    · exact fun p n hp => absurd hp (hlive p n)
    · exact fun i p hc => absurd hc (hhas _ i p)
    · exact fun i p ho => absurd ho (hhas _ i p)
    · exact fun i _ p ho => absurd ho (hhas _ i p)
    · exact fun i n hn => absurd hn (hhas _ i n)
    · exact fun i n hn => absurd hn (hhas _ i n)
    · exact fun i _ n hn => absurd hn (hhas _ i n)
  · exact fun n hn => nomatch hn
  · simp [h.heap]
  · exact fun i n hn => absurd hn (hhas _ i n)

/-- The leases that the manager has released in a run. -/
def releasedNames (tr : List (Transition System Action)) : List LeaseName :=
  tr.filterMap fun t => releasedName t.pre t.label

theorem leaseInvariant_run {s₀ s : System} {tr : List (Transition System Action)}
    (h : Run Step s₀ tr s) (h₀ : s₀.Fresh) (hretry : ∀ t ∈ tr, t.label.startsRetry = false)
    (hsafe : ∀ t ∈ tr, grantsSafely t.pre t.label = true) :
    LeaseInvariant s (releasedNames tr) := by
  induction h with
  | nil => exact .of_fresh h₀
  | @snoc tr s s' a _ hs ih =>
    have hstep := (ih (fun t ht => hretry t (by simp [ht])) fun t ht => hsafe t (by simp [ht])).step
      hs (hretry ⟨s, a, s'⟩ (by simp)) (hsafe ⟨s, a, s'⟩ (by simp))
    have he : releasedNames (tr ++ [⟨s, a, s'⟩]) =
        releasedNames tr ++ (releasedName s a).toList := by
      cases hn : releasedName s a <;> simp [releasedNames, hn]
    rw [he]
    exact hstep

/-- **A live reservation carries no released lease**, without the retry loop, if no admission joins
a lease that is being released, no workload has two reservations and no counter wraps. -/
theorem live_lease_not_released {s₀ s : System} {tr : List (Transition System Action)}
    (h : Run Step s₀ tr s) (h₀ : s₀.Fresh) (hretry : ∀ t ∈ tr, t.label.startsRetry = false)
    (hsafe : ∀ t ∈ tr, grantsSafely t.pre t.label = true) :
    ∀ r ∈ s.manager.heap, r.released = false → r.releaseInFlight = false →
      leaseName r.lease ∉ releasedNames tr := by
  intro r hr hlive hflying
  have hinv := leaseInvariant_run h h₀ hretry hsafe
  obtain ⟨p, hp⟩ := List.mem_iff_getElem?.1 hr
  refine hinv.safe.not_gone (p := p) ⟨r, ⟨hp, hlive⟩, rfl⟩ ?_
  rintro ⟨r', hp', hf⟩
  obtain rfl := Option.mem_unique hp hp'
  rw [hflying] at hf
  cases hf

/-- A workload runs and ends, and another takes its place. -/
def takeTurns : List (System → Action) :=
  [fun _ => .reserveTarget "t" { workloadID := "w1" },
   runAt 0 {} .none, runAt 0 {} .none, runAt 0 {} .none,
   fun _ => .releaseTarget 0, runAt 1 {} .none, runAt 1 {} .none, runAt 1 {} .none,
   runAt 1 {} .none, runAt 1 {} .none, runAt 1 {} .none,
   fun _ => .reserveTarget "t" { workloadID := "w2" },
   runAt 2 {} .none, runAt 2 {} .none, runAt 2 {} .none]

theorem fresh_oneTarget : oneTarget.Fresh := ⟨rfl, rfl, rfl, rfl⟩

/-- The second workload runs under a lease of its own. -/
theorem live_lease_not_released_turns :
    let tr := script oneTarget takeTurns
    let s := afterScript oneTarget takeTurns
    releasedNames tr = [(ofString "gpu", ofString "w1", 1)] ∧
    s.manager.heap.map (fun r => (r.released, leaseName r.lease)) =
      [(true, ofString "gpu", ofString "w1", 1), (false, ofString "gpu", ofString "w2", 2)] ∧
    ∀ r ∈ s.manager.heap, r.released = false → r.releaseInFlight = false →
      leaseName r.lease ∉ releasedNames tr :=
  ⟨by decide, by decide,
    live_lease_not_released
      (run_script (by simp [takeTurns, Action.Admissible, runAt, Choice.of_ofSystem]) oneTarget)
      fresh_oneTarget (by decide) (by decide)⟩

/-! ## Joining a lease that is being released -/

/-- While the release of the first workload is in flight, the second joins its lease. -/
def joinReleasing : List (System → Action) :=
  [fun _ => .reserveTarget "t" { workloadID := "w1" },
   runAt 0 {} .none, runAt 0 {} .none, runAt 0 {} .none,
   fun _ => .releaseTarget 0, runAt 1 {} .none, runAt 1 {} .none,
   fun _ => .reserveTarget "t" { workloadID := "w2" }, runAt 2 {} .none,
   runAt 1 {} .none]

/-- The second workload has a reservation that nobody has begun to release, and its lease is gone
from the store. -/
theorem joined_lease_released :
    let tr := script oneTarget joinReleasing
    let s := afterScript oneTarget joinReleasing
    oneTarget.Fresh ∧ Run Step oneTarget tr s ∧ (∀ t ∈ tr, t.label.startsRetry = false) ∧
    s.threads[2]? = some (.done (.granted 1)) ∧
    (∃ r, s.manager.heap[1]? = some r ∧ r.workloadID = ofString "w2" ∧
      r.released = false ∧ r.releaseInFlight = false ∧
      leaseName r.lease = (ofString "gpu", ofString "w1", 1)) ∧
    (ofString "gpu", ofString "w1", 1) ∈ releasedNames tr ∧
    s.store.leases.lookup (ofString "gpu") = none :=
  ⟨fresh_oneTarget,
    run_script (by simp [joinReleasing, Action.Admissible, runAt, Choice.of_ofSystem]) oneTarget,
    by decide, rfl, ⟨_, rfl, rfl, rfl, rfl, rfl⟩, by decide, by decide⟩

end VramGovernor.Workloads
