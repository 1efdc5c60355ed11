import VramGovernor.Workloads.LeaseLedger

/-!
# Release and the ledger

What the steps of `releaseTargetWithIntent` do to the ledger. The thread that is elected finds no
other placement on the accelerator, so no other reservation is on the lease; it gives the lease back
(`LeaseInvariant.confirm`) and ends the reservation (`LeaseInvariant.drop`), or gives up.
-/

namespace VramGovernor.Workloads

open GoString Store Thread

section

variable {s : System} {gone : List LeaseName} {i p : ℕ} {th th' : Thread} {c : Choice}
  {terminal intent : Option AcceleratorLeaseCleanupIntent} {r : TargetReservation}
  {next : Manager × MemoryStore × Thread}

section

variable (h : LeaseInvariant s gone)
include h

/-- **A thread gives back the lease of the reservation that is in its hands.** -/
theorem LeaseInvariant.confirm {st' : MemoryStore}
    (hi : s.threads[i]? = some th) (hst : ∀ a, counter s.store a ≤ counter st' a)
    (hp : s.manager.heap[p]? = some r) (howns : th.owns = some p) (hsound : th'.Sound s.manager)
    (hconf : th'.confirmed = some p) (hholds : th'.holds = none) :
    LeaseInvariant ⟨s.manager, st', s.threads.set i th'⟩ (gone ++ [leaseName r.lease]) := by
  have hown : (s.ledger gone).owns i p := ⟨th, hi, howns⟩
  have hflight : s.manager.InFlight p := h.safe.flight_of_owns i p hown
  have hlive : (s.ledger gone).live p (leaseName r.lease) := by
    obtain ⟨r', hp', hf⟩ := hflight
    obtain rfl := Option.mem_unique hp hp'
    exact ⟨r, ⟨hp, h.inFlight_live p r hp hf⟩, rfl⟩
  refine h.operate hi (h.safe.confirm hown hlive) rfl rfl rfl hst hsound ?_ ?_ ?_ ?_
    (fun j x _ hx => hx) ?_
  · intro q hq
    rw [howns, ← hq, owns_of_confirmed hconf]
  · rintro q (hc | ⟨-, rfl⟩)
    · -- What the thread had confirmed before is the reservation in its hands.
      have ho : th.owns = some q := owns_of_confirmed ((threadHas_self hi).1 hc)
      rw [hconf, ← howns, ho]
    · exact hconf
  · rintro j q hj (hc | ⟨rfl, -⟩)
    · exact hc
    · exact absurd rfl hj
  · intro x hx
    rw [hholds] at hx
    cases hx
  · intro x hx
    rcases of_mem_snoc hx with hx | rfl
    · exact ⟨.inl hx, .inl hx⟩
    · exact ⟨.inr rfl, .inr ((h.heap_granted r (List.mem_of_getElem? hp)).mono hst)⟩

theorem LeaseInvariant.stepRollback_release {rb : Rollback} {stage : RollbackStage}
    (hi : s.threads[i]? = some (.rollback rb stage (.release p terminal)))
    (hchange : Change s.manager s.store c (.rollback rb stage (.release p terminal)) next) :
    LeaseInvariant ⟨next.1, next.2.1, s.threads.set i next.2.2⟩
      (gone ++ (releasedName s (.run i c)).toList) := by
  have hsound : (rollback rb stage (.release p terminal)).Sound s.manager :=
    h.sound _ (List.mem_of_getElem? hi)
  obtain ⟨r, hp, hname⟩ := hsound
  have hst : ∀ a, counter s.store a ≤ counter (rb.step s.store c.fault c.now stage).1 a :=
    counter_le_of_leaseFences (rb.step_leaseFences s.store c.fault c.now stage)
  simp only [releasedName, hi]
  have hresult := rb.step_result s.store c.fault c.now stage
  generalize rb.confirms s.store c.fault c.now stage = confirms at hresult
  cases hchange with
  | rollsBack he =>
    rw [he] at hresult
    cases hresult with
    | forget =>
      rw [if_pos rfl, hname]
      exact h.confirm hi hst hp rfl ⟨r, hp, hname⟩ rfl rfl
    | verify =>
      rw [if_neg Bool.false_ne_true, Option.toList_none, List.append_nil]
      exact h.quiet hi (.refl _) hst ⟨r, hp, hname⟩ (fun q hq => hq) (fun q hq => nomatch hq)
        (fun n hn => nomatch hn)
    | persist hstage =>
      rw [if_neg Bool.false_ne_true, Option.toList_none, List.append_nil]
      refine h.quiet hi (.refl _) hst ⟨r, hp, hname⟩ (fun q hq => hq) ?_ (fun n hn => nomatch hn)
      rcases hstage with rfl | rfl <;> exact fun q hq => nomatch hq
  | rolledBack he =>
    rw [he] at hresult
    cases hresult with
    | gone =>
      rw [if_pos rfl, hname]
      exact h.confirm hi hst hp rfl rfl rfl rfl
    | forgotten =>
      rw [if_neg Bool.false_ne_true, Option.toList_none, List.append_nil]
      exact h.quiet hi (.refl _) hst rfl (fun q hq => hq) (fun q hq => .inl hq)
        (fun n hn => nomatch hn)
    | persisted =>
      rw [if_neg Bool.false_ne_true, Option.toList_none, List.append_nil]
      exact h.quiet hi (.refl _) hst trivial (fun q hq => hq) (fun q hq => nomatch hq)
        (fun n hn => nomatch hn)

/-- **A thread is elected to release the lease of a reservation,** the only one on it. -/
theorem LeaseInvariant.elect {r' : TargetReservation}
    (hi : s.threads[i]? = some (.elect p intent terminal)) (hc : c.Of s)
    (hp : s.manager.heap[p]? = some r) (he : election r c.placementOrder = .last)
    (hcore : Bookkeeping.core r' = Bookkeeping.core r) (hfly : r'.releaseInFlight = true) :
    LeaseInvariant
      ⟨s.manager.setReservation p r', s.store, s.threads.set i
        (.rollback (releaseRollback r intent) .release (.release p terminal))⟩ gone := by
  obtain ⟨hlive, hflying⟩ := open_of_election (.inl he)
  obtain ⟨-, -, hlease, hreleased⟩ :
      r'.targetID = r.targetID ∧ r'.workloadID = r.workloadID ∧ r'.lease = r.lease ∧
        r'.released = r.released := by
    simpa only [Bookkeeping.core, Prod.mk.injEq] using hcore
  have hget := Manager.getElem?_setReservation hp r'
  have hgot : (s.manager.setReservation p r').heap[p]? = some r' := by rw [hget, if_pos rfl]
  have hsub : Subsides s.manager (s.manager.setReservation p r') :=
    .setReservation hp hlease fun _ => hlive
  have hground : ¬ s.manager.InFlight p := by
    rintro ⟨x, hx, hf⟩
    obtain rfl := Option.mem_unique hp hx
    rw [hflying] at hf
    cases hf
  have halone : ∀ q n, (s.ledger gone).live p n → (s.ledger gone).live q n → q = p := by
    rintro q n ⟨r₀, hr₀, rfl⟩ ⟨x, hx, hn⟩
    obtain rfl := Option.mem_unique hp hr₀.1
    obtain ⟨a, hk, hw, hacc⟩ := h.books.placed q x hx
    have hother := alone_of_election hc.placementOrder he _ a hk
    have hacc' : a.acceleratorID = r.lease.acceleratorID := hacc.trans (congrArg Prod.fst hn)
    have hw' : x.workloadID = r.workloadID := by simpa [otherPlacement, hacc', hw] using hother
    exact h.books.distinct q p x r hx hr₀ hw'
  refine h.replace hi (h.books.of_same (.setReservation hp hcore)) hsub.toExtends
    ⟨r', hgot, by rw [hlease]; rfl⟩ ?_ (fun _ => le_refl _) (fun n hn => .inl hn)
    (hsub.granted h.heap_granted fun _ => le_refl _) (fun n hn => by cases hn)
    (ledger_safe_of (h.safe.elect (i := i) hground halone) _ hi ?_ ?_ ?_ ?_ ?_ ?_ ?_ ?_ ?_)
  · intro q x hq hf
    rw [hget] at hq
    split_ifs at hq with hqp
    · obtain rfl := Option.some.inj hq
      exact hreleased.trans hlive
    · exact h.inFlight_live q x hq hf
  · rintro q x ⟨hq, hx⟩
    obtain ⟨r₀, hq₀, hl, hlive₀⟩ := hsub.back q x hq
    exact ⟨r₀, ⟨hq₀, hlive₀ hx⟩, by rw [hl]⟩
  · rintro q ⟨x, hq, hf⟩
    rw [hget] at hq
    split_ifs at hq with hqp
    · exact .inr hqp
    · exact .inl ⟨x, hq, hf⟩
  · intro q hq
    obtain rfl : p = q := Option.some.inj hq
    exact ⟨.inr ⟨rfl, rfl⟩, r', hgot, hfly⟩
  · intro j q _ ho
    refine ⟨.inl ho, ?_⟩
    by_cases hqp : q = p
    · rw [hqp]
      exact ⟨r', hgot, hfly⟩
    · obtain ⟨x, hx, hf⟩ := h.safe.flight_of_owns j q ho
      exact ⟨x, by rw [hget, if_neg hqp, hx], hf⟩
  · intro q x hconf
    cases (threadHas_self hi).1 hconf
  · exact fun j q _ hconf => hconf
  · rintro n ⟨⟩
  · exact fun j n _ hn => hn
  · exact fun n hn => hn

/-- **A reservation ends.** If its release was in flight, it was in the hands of the thread. -/
theorem LeaseInvariant.drop {r' : TargetReservation} (hi : s.threads[i]? = some th)
    (hp : s.manager.Live p r) (hlease : r'.lease = r.lease) (hr' : r'.released = true)
    (hland : r'.releaseInFlight = false) (howns : r.releaseInFlight = true → th.owns = some p)
    (hconf : ∀ q, th.confirmed = some q → q = p)
    (hsound : th'.Sound ((s.manager.setReservation p r').dropPlacement r)) (hidle : th'.Idle) :
    LeaseInvariant ⟨(s.manager.setReservation p r').dropPlacement r, s.store,
      s.threads.set i th'⟩ gone := by
  have hsub : Subsides s.manager (s.manager.setReservation p r') :=
    .setReservation hp.1 hlease fun _ => hp.2
  -- `dropPlacement` leaves the reservations as they are.
  have hflight : ∀ q, ((s.manager.setReservation p r').dropPlacement r).InFlight q ↔
      q ≠ p ∧ s.manager.InFlight q := Manager.inFlight_setReservation hp.1 hland
  refine h.shrink hi (h.books.drop hp hr') ⟨⟨hsub.targets, hsub.heap⟩, hsub.back⟩ hsound
    (Manager.inFlight_live_setReservation hp.1 hland h.inFlight_live)
    (fun _ => le_refl _) (fun q hq => ((hflight q).1 hq).2) ?_ ?_ ?_ ?_
  · intro q hq
    by_cases hqp : q = p
    · obtain ⟨x, hx, hf⟩ := hq
      rw [hqp] at hx ⊢
      obtain rfl := Option.mem_unique hp.1 hx
      exact .inl ⟨howns hf, by rw [hidle.owns]; simp⟩
    · exact .inr ((hflight q).2 ⟨hqp, hq⟩)
  · intro q hq
    rw [hidle.owns] at hq
    cases hq
  · intro q hq
    refine .inr fun x hx => ?_
    rw [hconf q hq] at hx
    exact (Bookkeeping.live_of_set hp.1 hr' hx).1 rfl
  · intro n hn
    rw [hidle.holds] at hn
    cases hn

omit h in
theorem afterRelease_idle (m : Manager) (terminal : Option AcceleratorLeaseCleanupIntent) :
    (afterRelease terminal none).Sound m ∧ (afterRelease terminal none).Idle := by
  cases terminal with
  | none => exact ⟨trivial, rfl, rfl⟩
  | some intent => exact ⟨rfl, rfl, rfl⟩

theorem LeaseInvariant.leave (hi : s.threads[i]? = some (.elect p intent terminal))
    (hp : s.manager.heap[p]? = some r) (he : election r c.placementOrder = .left) :
    LeaseInvariant ⟨(s.manager.setReservation p { r with released := true }).dropPlacement r,
      s.store, s.threads.set i (.unregister p terminal none)⟩ gone := by
  obtain ⟨hlive, hflying⟩ := open_of_election (.inr he)
  refine h.drop hi ⟨hp, hlive⟩ rfl rfl hflying ?_ (fun q hq => by cases hq) rfl ⟨rfl, rfl⟩
  intro hf
  rw [hflying] at hf
  cases hf

theorem LeaseInvariant.clearInFlight {e : GoError}
    (hi : s.threads[i]? = some (.clearInFlight p e)) (o : Outcome) :
    LeaseInvariant ⟨s.manager.updateReservation p fun r => { r with releaseInFlight := false },
      s.store, s.threads.set i (.done o)⟩ gone := by
  cases hp : s.manager.heap[p]? with
  | none =>
    rw [Manager.updateReservation, hp]
    exact h.idle hi (.refl _) (fun _ => le_refl _) rfl trivial ⟨rfl, rfl⟩
  | some r =>
    rw [Manager.updateReservation, hp]
    have hflight : ∀ q,
        (s.manager.setReservation p { r with releaseInFlight := false }).InFlight q ↔
          q ≠ p ∧ s.manager.InFlight q := Manager.inFlight_setReservation hp rfl
    refine h.shrink hi (h.books.of_same (.setReservation hp rfl)) (.setReservation hp rfl id)
      trivial (Manager.inFlight_live_setReservation hp rfl h.inFlight_live) (fun _ => le_refl _)
      (fun q hq => ((hflight q).1 hq).2) ?_ (fun q hq => nomatch hq) (fun q hq => nomatch hq)
      (fun n hn => nomatch hn)
    intro q hq
    by_cases hqp : q = p
    · rw [hqp]
      exact .inl ⟨rfl, by simp [owns]⟩
    · exact .inr ((hflight q).2 ⟨hqp, hq⟩)

theorem LeaseInvariant.stepFinish (hi : s.threads[i]? = some (.finish p terminal none))
    (hchange : Change s.manager s.store c (.finish p terminal none) next) :
    LeaseInvariant ⟨next.1, next.2.1, s.threads.set i next.2.2⟩ gone := by
  cases hchange with
  | skipped hskip =>
    obtain ⟨r, hp, hf⟩ : s.manager.InFlight p := h.safe.flight_of_owns i p ⟨_, hi, rfl⟩
    cases (h.inFlight_live p r hp hf).symm.trans (hskip r hp)
  | finished hp hr =>
    refine h.drop hi ⟨hp, hr⟩ rfl rfl rfl (fun _ => rfl) ?_ rfl ⟨rfl, rfl⟩
    intro q hq
    exact (Option.some.inj hq).symm

omit h in
theorem quiet_stepUnregister (m : Manager) (p : ℕ) : Quiet m (stepUnregister m p) := by
  unfold stepUnregister
  split
  · exact .refl m
  · unfold Manager.unregister
    split_ifs
    · exact ⟨⟨rfl, rfl, rfl, rfl, rfl⟩, rfl⟩
    · exact .refl m

end

end

end VramGovernor.Workloads
