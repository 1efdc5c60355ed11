import VramGovernor.Foundations.ClaimLedger
import VramGovernor.Store.LeaseFencing
import VramGovernor.Workloads.Bookkeeping
import VramGovernor.Workloads.Interleaving

/-!
# The ledger of the manager

The reservations of the manager are claims on durable leases, and its threads are the agents that
act for them: `System.ledger` reads a `ClaimLedger` off the system. `LeaseInvariant` says that the
ledger is safe, together with what a step needs to keep it so. Most steps only take entries away
(`LeaseInvariant.shrink`, `.quiet`, `.idle`).
-/

namespace VramGovernor.Workloads

open GoString Store Bookkeeping Thread

/-- A durable lease: its accelerator, its owner and its token. -/
abbrev LeaseName := GoString × GoString × Int64

def leaseName (l : AcceleratorLease) : LeaseName := (l.acceleratorID, l.workloadID, l.fencingToken)

/-- The lease that a rollback releases. -/
def Rollback.name (rb : Rollback) : LeaseName :=
  (rb.lease.acceleratorID, rb.owner, rb.lease.fencingToken)

/-! ## The ledger of a system -/

namespace Thread

/-- The reservation whose release is in the hands of the thread. -/
def owns : Thread → Option ℕ
  | rollback _ _ (.release p _) | clearInFlight p _ | finish p _ none => some p
  | _ => none

/-- The reservation whose lease the thread has released. -/
def confirmed : Thread → Option ℕ
  | rollback _ .forget (.release p _) | finish p _ none => some p
  | _ => none

/-- The lease that the thread has acquired and not published. -/
def holds : Thread → Option LeaseName
  | publish _ lease => some (leaseName lease)
  | rollback rb .release (.reserve _ _) | rollback rb .verify (.reserve _ _) => some rb.name
  | _ => none

theorem owns_of_confirmed {th : Thread} {p : ℕ} (h : th.confirmed = some p) : th.owns = some p := by
  unfold confirmed at h
  split at h
  · exact h
  · exact h
  · cases h

/-- The thread is none of the retry loop, its target is registered, and the lease that it publishes
or releases is its own. -/
def Sound (m : Manager) : Thread → Prop
  | reserve adm | acquire adm | rollback _ _ (.reserve adm _) => m.targets.Has adm.target
  | publish adm lease =>
    m.targets.Has adm.target ∧ lease.acceleratorID = leaseID adm.target ∧
      lease.workloadID = adm.request.workloadID
  | rollback rb _ (.release p _) => ∃ r, m.heap[p]? = some r ∧ rb.name = leaseName r.lease
  | finish _ _ rest | unregister _ _ rest | confirm _ rest | finalize _ rest | forgetIntent _ rest
  | reschedule _ _ rest => rest = none
  | rollback _ _ (.retry _ _) | listIntents | retry _ | findReservation _ _ _ => False
  | _ => True

end Thread

/-- The release of the reservation at `p` is in flight. -/
def Manager.InFlight (m : Manager) (p : ℕ) : Prop :=
  ∃ r, m.heap[p]? = some r ∧ r.releaseInFlight = true

/-- Thread `i` is one at which `f` is `b`. -/
def ThreadHas {β : Type} (threads : List Thread) (f : Thread → Option β) (i : ℕ) (b : β) : Prop :=
  ∃ th, threads[i]? = some th ∧ f th = some b

/-- The claims, agents and resources of the system, given the leases that were released. -/
def System.ledger (s : System) (gone : List LeaseName) : ClaimLedger ℕ ℕ LeaseName where
  live p n := ∃ r, s.manager.Live p r ∧ leaseName r.lease = n
  flight := s.manager.InFlight
  owns := ThreadHas s.threads Thread.owns
  confirmed := ThreadHas s.threads Thread.confirmed
  holds := ThreadHas s.threads Thread.holds
  gone n := n ∈ gone

/-- The lease that the manager successfully releases in the action. -/
def releasedName (s : System) : Action → Option LeaseName
  | .run i c =>
    match s.threads[i]? with
    | some (.rollback rb stage _) =>
      if rb.confirms s.store c.fault c.now stage then some rb.name else none
    | _ => none
  | _ => none

def Granted (st : MemoryStore) (n : LeaseName) : Prop := n.2.2.toInt ≤ counter st n.1

/-- The ledger is safe, and what it rests on. -/
structure LeaseInvariant (s : System) (gone : List LeaseName) : Prop where
  books : Bookkeeping s.manager
  sound : ∀ th ∈ s.threads, th.Sound s.manager
  inFlight_live : ∀ (p : ℕ) r, s.manager.heap[p]? = some r → r.releaseInFlight = true →
    r.released = false
  safe : (s.ledger gone).Safe
  gone_granted : ∀ n ∈ gone, Granted s.store n
  heap_granted : ∀ r ∈ s.manager.heap, Granted s.store (leaseName r.lease)
  held_granted : ∀ i n, (s.ledger gone).holds i n → Granted s.store n

/-! ## Replacing a thread -/

variable {th : Thread} {threads : List Thread} {i : ℕ}

theorem threadHas_set {β : Type} {th' : Thread} (hi : threads[i]? = some th) (f : Thread → Option β)
    (j : ℕ) (b : β) :
    ThreadHas (threads.set i th') f j b ↔
      j = i ∧ f th' = some b ∨ j ≠ i ∧ ThreadHas threads f j b := by
  obtain ⟨hlt, -⟩ := List.getElem?_eq_some_iff.1 hi
  by_cases hj : j = i
  · subst hj
    simp [ThreadHas, hlt]
  · simp [ThreadHas, List.getElem?_set_ne (Ne.symm hj), hj]

theorem threadHas_self {β : Type} (hi : threads[i]? = some th) {f : Thread → Option β} {b : β} :
    ThreadHas threads f i b ↔ f th = some b := by
  simp [ThreadHas, hi]

/-- **From an operation of the ledger to a step**: the ledger has no entry but those of a safe one,
and keeps what that has confirmed. -/
theorem ledger_safe_of {L : ClaimLedger ℕ ℕ LeaseName} (hL : L.Safe) {s : System} {th' : Thread}
    {m' : Manager} (st' : MemoryStore) {gone' : List LeaseName} (hi : s.threads[i]? = some th)
    (hlive : ∀ p r, m'.Live p r → L.live p (leaseName r.lease))
    (hflight : ∀ p, m'.InFlight p → L.flight p)
    (howns : ∀ p, th'.owns = some p → L.owns i p ∧ m'.InFlight p)
    (howns_ne : ∀ j p, j ≠ i → ThreadHas s.threads owns j p → L.owns j p ∧ m'.InFlight p)
    (hkeep : ∀ p r, L.confirmed i p → m'.Live p r → th'.confirmed = some p)
    (hkeep_ne : ∀ j p, j ≠ i → L.confirmed j p → ThreadHas s.threads confirmed j p)
    (hholds : ∀ n, th'.holds = some n → L.holds i n)
    (hholds_ne : ∀ j n, j ≠ i → ThreadHas s.threads holds j n → L.holds j n)
    (hgone : ∀ n ∈ gone', L.gone n) :
    ((⟨m', st', s.threads.set i th'⟩ : System).ledger gone').Safe := by
  refine hL.shrink ?_ hflight ?_ ?_ ?_ ?_ hgone
  · rintro p n ⟨r, hr, rfl⟩
    exact hlive p r hr
  · intro j p hj
    rcases (threadHas_set hi _ j p).1 hj with ⟨rfl, ho⟩ | ⟨hne, ho⟩
    · exact howns p ho
    · exact howns_ne j p hne ho
  · rintro j p ⟨x, hx, hc⟩
    exact ⟨x, hx, owns_of_confirmed hc⟩
  · rintro j p n hc ⟨r, hr, -⟩
    refine (threadHas_set hi _ j p).2 ?_
    by_cases hj : j = i
    · subst hj
      exact .inl ⟨rfl, hkeep p r hc hr⟩
    · exact .inr ⟨hj, hkeep_ne j p hj hc⟩
  · intro j n hj
    rcases (threadHas_set hi _ j n).1 hj with ⟨rfl, hh⟩ | ⟨hne, hh⟩
    · exact hholds n hh
    · exact hholds_ne j n hne hh

/-- The targets stay, and the reservations keep their leases. -/
structure Extends (m m' : Manager) : Prop where
  targets : m'.targets = m.targets
  heap : ∀ (p : ℕ) r, m.heap[p]? = some r → ∃ r', m'.heap[p]? = some r' ∧ r'.lease = r.lease

theorem Thread.Sound.extends {m m' : Manager} (h : th.Sound m) (he : Extends m m') :
    th.Sound m' := by
  have hhas : ∀ target, m.targets.Has target → m'.targets.Has target := fun target ht => by
    rw [he.targets]
    exact ht
  cases th with
  | reserve adm | acquire adm => exact hhas _ h
  | publish adm lease => exact ⟨hhas _ h.1, h.2⟩
  | rollback rb stage k =>
    cases k with
    | reserve adm reason => exact hhas _ h
    | release p terminal =>
      obtain ⟨r, hp, hn⟩ := h
      obtain ⟨r', hp', hl⟩ := he.heap p r hp
      exact ⟨r', hp', by rw [hn, hl]⟩
    | retry intent rest => exact h
  | _ => exact h

section

variable {s : System} {gone gone' : List LeaseName} {i p : ℕ} {th th' : Thread} {m' m : Manager}
  {st' st : MemoryStore}

theorem counter_le_of_leaseFences {st' : MemoryStore} (h : st'.leaseFences = st.leaseFences)
    (a : GoString) : counter st a ≤ counter st' a := by
  rw [counter, counter, h]

theorem Granted.mono {n : LeaseName} (h : Granted st n) (hst : ∀ a, counter st a ≤ counter st' a) :
    Granted st' n := le_trans h (hst n.1)

/-- The parts of the invariant that are not about the ledger, after a step of thread `i`. -/
theorem LeaseInvariant.replace (h : LeaseInvariant s gone) (hi : s.threads[i]? = some th)
    (hbooks : Bookkeeping m') (hext : Extends s.manager m') (hsound : th'.Sound m')
    (hflying : ∀ (p : ℕ) r, m'.heap[p]? = some r → r.releaseInFlight = true → r.released = false)
    (hst : ∀ a, counter s.store a ≤ counter st' a) (hgone : ∀ n ∈ gone', n ∈ gone ∨ Granted st' n)
    (hheap : ∀ r ∈ m'.heap, Granted st' (leaseName r.lease))
    (hheld : ∀ n, th'.holds = some n → Granted st' n)
    (hsafe : ((⟨m', st', s.threads.set i th'⟩ : System).ledger gone').Safe) :
    LeaseInvariant ⟨m', st', s.threads.set i th'⟩ gone' where
  books := hbooks
  sound x hx := by
    rcases List.mem_or_eq_of_mem_set hx with hx | rfl
    · exact (h.sound x hx).extends hext
    · exact hsound
  inFlight_live := hflying
  safe := hsafe
  gone_granted n hn := by
    rcases hgone n hn with hn | hn
    · exact (h.gone_granted n hn).mono hst
    · exact hn
  heap_granted := hheap
  held_granted j n hj := by
    rcases (threadHas_set hi _ j n).1 hj with ⟨-, hj⟩ | ⟨-, hj⟩
    · exact hheld n hj
    · exact (h.held_granted j n hj).mono hst

/-- **An operation of the ledger that leaves the manager as it is.** -/
theorem LeaseInvariant.operate {L : ClaimLedger ℕ ℕ LeaseName} (h : LeaseInvariant s gone)
    (hi : s.threads[i]? = some th) (hL : L.Safe) (hlive : L.live = (s.ledger gone).live)
    (hflight : L.flight = (s.ledger gone).flight) (howned : L.owns = (s.ledger gone).owns)
    (hst : ∀ a, counter s.store a ≤ counter st' a) (hsound : th'.Sound s.manager)
    (howns : ∀ p, th'.owns = some p → th.owns = some p)
    (hkeep : ∀ p, L.confirmed i p → th'.confirmed = some p)
    (hkeep_ne : ∀ j p, j ≠ i → L.confirmed j p → ThreadHas s.threads confirmed j p)
    (hheld : ∀ n, th'.holds = some n → L.holds i n ∧ Granted st' n)
    (hheld_ne : ∀ j n, j ≠ i → ThreadHas s.threads holds j n → L.holds j n)
    (hgone : ∀ n ∈ gone', L.gone n ∧ (n ∈ gone ∨ Granted st' n)) :
    LeaseInvariant ⟨s.manager, st', s.threads.set i th'⟩ gone' := by
  refine h.replace hi h.books ⟨rfl, fun _ r hr => ⟨r, hr, rfl⟩⟩ hsound h.inFlight_live hst
    (fun n hn => (hgone n hn).2) (fun r hr => (h.heap_granted r hr).mono hst)
    (fun n hn => (hheld n hn).2)
    (ledger_safe_of hL _ hi ?_ ?_ ?_ ?_ (fun p _ hc _ => hkeep p hc) hkeep_ne
      (fun n hn => (hheld n hn).1) hheld_ne (fun n hn => (hgone n hn).1))
  · intro p r hr
    rw [hlive]
    exact ⟨r, hr, rfl⟩
  · intro p hp
    rw [hflight]
    exact hp
  · intro p hp
    have ho : (s.ledger gone).owns i p := ⟨th, hi, howns p hp⟩
    exact ⟨by rw [howned]; exact ho, h.safe.flight_of_owns i p ho⟩
  · intro j p _ ho
    exact ⟨by rw [howned]; exact ho, h.safe.flight_of_owns j p ho⟩

/-! ## Landing -/

theorem Manager.inFlight_setReservation {r r' : TargetReservation} (hp : m.heap[p]? = some r)
    (hland : r'.releaseInFlight = false) (q : ℕ) :
    (m.setReservation p r').InFlight q ↔ q ≠ p ∧ m.InFlight q := by
  rw [InFlight, getElem?_setReservation hp]
  by_cases hqp : q = p
  · simp [hqp, hland]
  · simp [hqp, InFlight]

theorem Manager.inFlight_live_setReservation {r r' : TargetReservation} (hp : m.heap[p]? = some r)
    (hland : r'.releaseInFlight = false)
    (hm : ∀ (q : ℕ) x, m.heap[q]? = some x → x.releaseInFlight = true → x.released = false) :
    ∀ (q : ℕ) x, (m.setReservation p r').heap[q]? = some x → x.releaseInFlight = true →
      x.released = false := by
  intro q x hq hf
  rw [getElem?_setReservation hp] at hq
  split_ifs at hq with hqp
  · obtain rfl := Option.some.inj hq
    rw [hland] at hf
    cases hf
  · exact hm q x hq hf

/-! ## Steps that only take away -/

/-- No reservation is added, and none that was released comes back. -/
structure Subsides (m m' : Manager) : Prop extends Extends m m' where
  back : ∀ (p : ℕ) r', m'.heap[p]? = some r' → ∃ r, m.heap[p]? = some r ∧ r'.lease = r.lease ∧
    (r'.released = false → r.released = false)

theorem Subsides.setReservation {r r' : TargetReservation} (hp : m.heap[p]? = some r)
    (hl : r'.lease = r.lease) (hr : r'.released = false → r.released = false) :
    Subsides m (m.setReservation p r') := by
  refine ⟨⟨rfl, fun q x hq => ?_⟩, fun q x hq => ?_⟩
  · rw [Manager.getElem?_setReservation hp]
    split_ifs with hqp
    · subst hqp
      obtain rfl := Option.mem_unique hp hq
      exact ⟨r', rfl, hl⟩
    · exact ⟨x, hq, rfl⟩
  · rw [Manager.getElem?_setReservation hp] at hq
    split_ifs at hq with hqp
    · subst hqp
      obtain rfl := Option.some.inj hq
      exact ⟨r, hp, hl, hr⟩
    · exact ⟨x, hq, rfl, id⟩

theorem Subsides.granted (hs : Subsides m m') (h : ∀ r ∈ m.heap, Granted st (leaseName r.lease))
    (hst : ∀ a, counter st a ≤ counter st' a) : ∀ r ∈ m'.heap, Granted st' (leaseName r.lease) := by
  intro r hr
  obtain ⟨p, hp⟩ := List.mem_iff_getElem?.1 hr
  obtain ⟨r₀, hp₀, hl, -⟩ := hs.back p r hp
  rw [hl]
  exact (h r₀ (List.mem_of_getElem? hp₀)).mono hst

/-- **A step that only takes away**: the thread owned before what it owns, and a reservation that
leaves the air was its own. -/
theorem LeaseInvariant.shrink (h : LeaseInvariant s gone) (hi : s.threads[i]? = some th)
    (hbooks : Bookkeeping m') (hs : Subsides s.manager m') (hsound : th'.Sound m')
    (hflying : ∀ (p : ℕ) r, m'.heap[p]? = some r → r.releaseInFlight = true → r.released = false)
    (hst : ∀ a, counter s.store a ≤ counter st' a)
    (hflight : ∀ p, m'.InFlight p → s.manager.InFlight p)
    (hlands : ∀ p, s.manager.InFlight p → th.owns = some p ∧ th'.owns ≠ some p ∨ m'.InFlight p)
    (howns : ∀ p, th'.owns = some p → th.owns = some p)
    (hconf : ∀ p, th.confirmed = some p → th'.confirmed = some p ∨ ∀ r, ¬ m'.Live p r)
    (hholds : ∀ n, th'.holds = some n → th.holds = some n) :
    LeaseInvariant ⟨m', st', s.threads.set i th'⟩ gone := by
  have hown_i : ∀ p, th.owns = some p → (s.ledger gone).owns i p := fun p hp => ⟨th, hi, hp⟩
  refine h.replace hi hbooks hs.toExtends hsound hflying hst (fun n hn => .inl hn)
    (hs.granted h.heap_granted hst) ?_
    (ledger_safe_of h.safe st' hi ?_ hflight ?_ ?_ ?_ ?_ ?_ ?_ ?_)
  · intro n hn
    exact (h.held_granted i n ⟨th, hi, hholds n hn⟩).mono hst
  · rintro p r ⟨hp, hr⟩
    obtain ⟨r₀, hp₀, hl, hlive⟩ := hs.back p r hp
    exact ⟨r₀, ⟨hp₀, hlive hr⟩, by rw [hl]⟩
  · intro p hp
    have ho := hown_i p (howns p hp)
    refine ⟨ho, ?_⟩
    rcases hlands p (h.safe.flight_of_owns i p ho) with ⟨-, hne⟩ | hf
    · exact absurd hp hne
    · exact hf
  · intro j p hj ho
    refine ⟨ho, ?_⟩
    rcases hlands p (h.safe.flight_of_owns j p ho) with ⟨hown, -⟩ | hf
    · exact absurd (h.safe.owner_unique j i p ho (hown_i p hown)) hj
    · exact hf
  · intro p r hc hr
    rcases hconf p ((threadHas_self hi).1 hc) with hc | hdead
    · exact hc
    · exact absurd hr (hdead r)
  · exact fun j p _ hc => hc
  · exact fun n hn => ⟨th, hi, hholds n hn⟩
  · exact fun j n _ hj => hj
  · exact fun n hn => hn

/-- The managers agree in what the bookkeeping sees, and in the reservations in flight. -/
structure Quiet (m m' : Manager) : Prop where
  same : Bookkeeping.Same m m'
  flags : m'.heap.map (·.releaseInFlight) = m.heap.map (·.releaseInFlight)

namespace Quiet

variable {m : Manager} {p : ℕ}

theorem refl (m : Manager) : Quiet m m := ⟨.refl m, rfl⟩

theorem setReservation {r r' : TargetReservation} (hp : m.heap[p]? = some r)
    (hc : core r' = core r) (hf : r'.releaseInFlight = r.releaseInFlight) :
    Quiet m (m.setReservation p r') :=
  ⟨.setReservation hp hc, map_set_eq hp hf⟩

theorem updateReservation (m : Manager) (p : ℕ) {f : TargetReservation → TargetReservation}
    (hc : ∀ r, core (f r) = core r)
    (hf : ∀ r, (f r).releaseInFlight = r.releaseInFlight) : Quiet m (m.updateReservation p f) := by
  unfold Manager.updateReservation
  cases hp : m.heap[p]? with
  | none => exact refl m
  | some r => exact setReservation hp (hc r) (hf r)

section

variable (h : Quiet m m')
include h

theorem symm : Quiet m' m := ⟨h.same.symm, h.flags.symm⟩

/-- The reservation at `p`, as far as admission and release see it, is the same. -/
theorem get {r' : TargetReservation} (hp : m'.heap[p]? = some r') :
    ∃ r, m.heap[p]? = some r ∧ core r = core r' ∧
      r.releaseInFlight = r'.releaseInFlight := by
  obtain ⟨r, hr, hc⟩ := h.same.getElem? hp
  refine ⟨r, hr, hc, ?_⟩
  have he : (m'.heap.map (·.releaseInFlight))[p]? = (m.heap.map (·.releaseInFlight))[p]? := by
    rw [h.flags]
  simpa [hp, hr] using he.symm

theorem inFlight (hp : m'.InFlight p) : m.InFlight p := by
  obtain ⟨r', hr', hf⟩ := hp
  obtain ⟨r, hr, -, hflag⟩ := h.get hr'
  exact ⟨r, hr, hflag.trans hf⟩

theorem subsides : Subsides m m' := by
  refine ⟨⟨h.same.targets, fun p r hp => ?_⟩, fun p r' hp => ?_⟩
  · obtain ⟨r', hp', hc, -⟩ := h.symm.get hp
    simp only [core, Prod.mk.injEq] at hc
    exact ⟨r', hp', hc.2.2.1⟩
  · obtain ⟨r, hp', hc, -⟩ := h.get hp
    simp only [core, Prod.mk.injEq] at hc
    exact ⟨r, hp', hc.2.2.1.symm, fun hr => hc.2.2.2.trans hr⟩

theorem inFlight_live
    (hm : ∀ (p : ℕ) r, m.heap[p]? = some r → r.releaseInFlight = true → r.released = false) :
    ∀ (p : ℕ) r, m'.heap[p]? = some r → r.releaseInFlight = true → r.released = false := by
  intro p r hp hf
  obtain ⟨r₀, hp₀, hc, hflag⟩ := h.get hp
  simp only [core, Prod.mk.injEq] at hc
  rw [← hc.2.2.2]
  exact hm p r₀ hp₀ (hflag.trans hf)

end

end Quiet

/-- **A step that changes nothing of the reservations.** -/
theorem LeaseInvariant.quiet (h : LeaseInvariant s gone) (hi : s.threads[i]? = some th)
    (hq : Quiet s.manager m') (hst : ∀ a, counter s.store a ≤ counter st' a)
    (hsound : th'.Sound m') (howns : ∀ p, th'.owns = some p → th.owns = some p)
    (hconf : ∀ p, th.confirmed = some p → th'.confirmed = some p ∨ ∀ r, ¬ m'.Live p r)
    (hholds : ∀ n, th'.holds = some n → th.holds = some n) :
    LeaseInvariant ⟨m', st', s.threads.set i th'⟩ gone :=
  h.shrink hi (h.books.of_same hq.same) hq.subsides hsound (hq.inFlight_live h.inFlight_live) hst
    (fun _ => hq.inFlight) (fun _ hp => .inr (hq.symm.inFlight hp)) howns hconf hholds

/-- The thread owns no release and holds no lease. -/
structure Thread.Idle (th : Thread) : Prop where
  owns : th.owns = none
  holds : th.holds = none

theorem Thread.Idle.confirmed (h : th.Idle) : th.confirmed = none := by
  cases hc : th.confirmed with
  | none => rfl
  | some p => exact absurd (owns_of_confirmed hc) (by rw [h.owns]; simp)

/-- A step from which on the thread owns and holds nothing. -/
theorem LeaseInvariant.idle (h : LeaseInvariant s gone) (hi : s.threads[i]? = some th)
    (hq : Quiet s.manager m') (hst : ∀ a, counter s.store a ≤ counter st' a)
    (hc : th.confirmed = none) (hsound : th'.Sound m') (hidle : th'.Idle) :
    LeaseInvariant ⟨m', st', s.threads.set i th'⟩ gone := by
  refine h.quiet hi hq hst hsound ?_ ?_ ?_
  · intro p hp
    rw [hidle.owns] at hp
    cases hp
  · intro p hp
    rw [hc] at hp
    cases hp
  · intro n hn
    rw [hidle.holds] at hn
    cases hn

end

end VramGovernor.Workloads
