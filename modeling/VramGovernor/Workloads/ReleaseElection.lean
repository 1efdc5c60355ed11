import VramGovernor.Workloads.Interleaving

/-!
# Who releases a shared lease

Workloads that run under one durable lease elect the last of them to release it. As long as no
workload is admitted, placements only go, so what the election saw still holds when the store is
called (`Alone.of_shrinks`). The retry loop makes no election: it releases the leases of the intents
it has listed, and a workload that left early has such an intent until its end is published
(`lease_released_under_other`). If every intent that the loop lists belongs to the last workload on
its accelerator, all releases do (`released_only_by_last`).
-/

namespace VramGovernor.Workloads

open GoString GoMap Store Thread

/-- The workload for which the retry loop releases the lease of an intent. -/
def intentWorkload (intent : AcceleratorLeaseCleanupIntent) : GoString :=
  if intent.terminalDisposition = [] then intent.owner else intent.workloadID

def Manager.workloadAt (m : Manager) (p : ℕ) : GoString := (m.heap[p]?.map (·.workloadID)).getD []

/-- The workload for which a rollback is made. -/
def Continuation.workload (m : Manager) : Continuation → GoString
  | .reserve adm _ => adm.request.workloadID
  | .release p _ => m.workloadAt p
  | .retry intent _ => intentWorkload intent

/-- A call of `ReleaseAcceleratorLease`, and the workload for which it is made. -/
structure ReleaseCall where
  (acceleratorID owner : GoString)
  fencingToken : Int64
  workloadID : GoString
  deriving DecidableEq

/-- The call of `ReleaseAcceleratorLease` that the action makes. -/
def releaseCall (s : System) : Action → Option ReleaseCall
  | .run i _ =>
    match s.threads[i]? with
    | some (.rollback rb .release k) =>
      some ⟨rb.lease.acceleratorID, rb.owner, rb.lease.fencingToken, k.workload s.manager⟩
    | _ => none
  | _ => none

/-- The intents that the retry loop lists in the action. -/
def listedIntents (s : System) : Action → List AcceleratorLeaseCleanupIntent
  | .run i c =>
    match s.threads[i]? with
    | some .listIntents => listAcceleratorLeaseCleanupIntents c.now.utc c.now 100 c.intentOrder
    | _ => []
  | _ => []

/-- An intent that the retry loop lists belongs to the last workload on its accelerator. -/
def listsLastOnly (t : Transition System Action) : Bool :=
  (listedIntents t.pre t.label).all fun intent =>
    t.pre.manager.activePlacements.entries.all fun e =>
      !otherPlacement intent.acceleratorID (intentWorkload intent) e.2

def Action.startsAdmission : Action → Bool
  | .reserveTarget _ _ => true
  | _ => false

/-! ## Placements only go -/

/-- Placements are only removed, and the reservations keep their workloads. -/
structure Shrinks (m m' : Manager) : Prop where
  placements : ∀ k p, m'.activePlacements.lookup k = some p → m.activePlacements.lookup k = some p
  workloadAt : ∀ p, m'.workloadAt p = m.workloadAt p

theorem Shrinks.refl (m : Manager) : Shrinks m m := ⟨fun _ _ h => h, fun _ => rfl⟩

variable {m' m : Manager} {th : Thread} {s s' : System}
  {rest : Option (List AcceleratorLeaseCleanupIntent)}

theorem Alone.of_shrinks {a w : GoString} (h : Alone m a w) (hs : Shrinks m m') :
    Alone m' a w := fun k p hk => h k p (hs.placements k p hk)

theorem shrinks_setReservation {p : ℕ} {r r' : TargetReservation} (hp : m.heap[p]? = some r)
    (hw : r'.workloadID = r.workloadID) : Shrinks m (m.setReservation p r') := by
  refine ⟨fun _ _ h => h, fun q => ?_⟩
  rw [Manager.workloadAt, Manager.getElem?_setReservation hp]
  split_ifs with hq
  · simp [Manager.workloadAt, hq, hp, hw]
  · rfl

theorem shrinks_updateReservation (m : Manager) (p : ℕ) {f : TargetReservation → TargetReservation}
    (hf : ∀ r, (f r).workloadID = r.workloadID) : Shrinks m (m.updateReservation p f) := by
  unfold Manager.updateReservation
  cases hp : m.heap[p]? with
  | none => exact .refl m
  | some r => exact shrinks_setReservation hp (hf r)

theorem Shrinks.drop (h : Shrinks m m') (r : TargetReservation) :
    Shrinks m (m'.dropPlacement r) := by
  refine ⟨fun k p hk => h.placements k p ?_, h.workloadAt⟩
  have he : (m'.activePlacements.erase r.workloadID).lookup k = some p := hk
  rw [lookup_erase_of] at he
  split_ifs at he
  exact he

theorem shrinks_unregister (m : Manager) (p : ℕ) (r : TargetReservation) :
    Shrinks m (m.unregister p r) := by
  unfold Manager.unregister
  split_ifs
  · exact ⟨fun _ _ h => h, fun _ => rfl⟩
  · exact .refl m

/-! ## Steps of threads -/

namespace Thread

def returned : Thread → Bool
  | done _ => true
  | _ => false

/-- The releases that the thread may make without another election: the accelerator, and the
workload. -/
def pending (m : Manager) : Thread → List (GoString × GoString)
  | rollback rb _ (.retry intent rest) =>
    (rb.lease.acceleratorID, intentWorkload intent) ::
      rest.map fun i => (i.acceleratorID, intentWorkload i)
  | rollback rb _ k => [(rb.lease.acceleratorID, k.workload m)]
  | finish _ _ rest | unregister _ _ rest | confirm _ rest | finalize _ rest | forgetIntent _ rest
  | reschedule _ _ rest => (rest.getD []).map fun i => (i.acceleratorID, intentWorkload i)
  | retry intents => intents.map fun i => (i.acceleratorID, intentWorkload i)
  | findReservation _ _ rest => rest.map fun i => (i.acceleratorID, intentWorkload i)
  | _ => []

theorem pending_of_shrinks {m m' : Manager} (h : Shrinks m m') (th : Thread) :
    th.pending m' = th.pending m := by
  cases th with
  | rollback rb stage k =>
    cases k with
    | release p terminal => simp only [pending, Continuation.workload, h.workloadAt]
    | _ => rfl
  | _ => rfl

theorem pending_next (m : Manager) (rest : Option (List AcceleratorLeaseCleanupIntent)) :
    (next rest).pending m = (rest.getD []).map fun i => (i.acceleratorID, intentWorkload i) := by
  cases rest <;> rfl

theorem pending_afterRelease (m : Manager) (terminal : Option AcceleratorLeaseCleanupIntent)
    (rest : Option (List AcceleratorLeaseCleanupIntent)) :
    (afterRelease terminal rest).pending m =
      (rest.getD []).map fun i => (i.acceleratorID, intentWorkload i) := by
  cases terminal with
  | none => exact pending_next m rest
  | some intent => rfl

end Thread

/-! ## The invariant -/

/-- No admission is under way, and each release that a thread may make is for the last workload on
its accelerator. -/
def PromisesKept (s : System) : Prop :=
  ∀ th ∈ s.threads, th.admission = none ∧ ∀ x ∈ th.pending s.manager, Alone s.manager x.1 x.2

/-- Placements only go, and the thread may make the releases it might before, and those of a
workload that is the last one now. -/
structure SafeStep (m : Manager) (th : Thread) (m' : Manager) (th' : Thread) : Prop where
  shrinks : Shrinks m m'
  pending : ∀ x ∈ th'.pending m', x ∈ th.pending m ∨ Alone m x.1 x.2

variable {m : Manager} {st : MemoryStore} {c : Choice}

/-- A step after which the thread has the same releases before it, or fewer. -/
theorem SafeStep.of_subset {th' : Thread} (hs : Shrinks m m')
    (hp : th'.pending m' ⊆ th.pending m) : SafeStep m th m' th' :=
  ⟨hs, fun _ hx => .inl (hp hx)⟩

theorem safeStep_last (ho : RangeOrder m.activePlacements c.placementOrder) {p : ℕ}
    {intent terminal : Option AcceleratorLeaseCleanupIntent} {r : TargetReservation}
    (hp : m.heap[p]? = some r) (he : election r c.placementOrder = .last) :
    SafeStep m (.elect p intent terminal)
      (m.setReservation p { r with releaseRequested := true, releaseInFlight := true })
      (.rollback (releaseRollback r intent) .release (.release p terminal)) := by
  have hs : Shrinks m
      (m.setReservation p { r with releaseRequested := true, releaseInFlight := true }) :=
    shrinks_setReservation hp rfl
  refine ⟨hs, fun x hx => .inr ?_⟩
  -- The only release before the thread is the one it was elected for.
  have hw : m.workloadAt p = r.workloadID := by simp [Manager.workloadAt, hp]
  have hx : x = (r.lease.acceleratorID, m.workloadAt p) := by
    rw [← hs.workloadAt]
    simpa [pending, Continuation.workload, releaseRollback] using hx
  rw [hx, hw]
  exact alone_of_election ho he

theorem safeStep_afterRollback (rb : Rollback) (stage : RollbackStage) (e : Option GoError)
    {k : Continuation} (ha : (rollback rb stage k).admission = none) :
    SafeStep m (.rollback rb stage k) m (afterRollback e k) := by
  cases k with
  | reserve adm reason => cases ha
  | release p terminal => cases e <;> exact .of_subset (.refl m) (List.nil_subset _)
  | retry intent rest =>
    unfold afterRollback
    cases e with
    | none | some e =>
      dsimp only
      split_ifs <;> exact .of_subset (.refl m) (List.subset_cons_self _ _)

theorem safeStep_afterRelease (hs : Shrinks m m') (terminal : Option AcceleratorLeaseCleanupIntent)
    (h : th.pending m = (rest.getD []).map fun i => (i.acceleratorID, intentWorkload i)) :
    SafeStep m th m' (afterRelease terminal rest) := by
  refine .of_subset hs ?_
  rw [pending_afterRelease, h]
  exact fun _ hx => hx

/-- **One step of a thread that is no admission**, if the retry loop lists intents of last workloads
only. -/
theorem Thread.safeStep (ho : RangeOrder m.activePlacements c.placementOrder) (th : Thread)
    (ha : th.admission = none)
    (hl : th = .listIntents →
      ∀ i ∈ listAcceleratorLeaseCleanupIntents c.now.utc c.now 100 c.intentOrder,
        Alone m i.acceleratorID (intentWorkload i)) :
    SafeStep m th (th.step m st c).1 (th.step m st c).2.2 := by
  have hchange := th.change m st c
  generalize th.step m st c = next at hchange
  cases hchange with
  | refused | vacant | joined | shared | notAcquired | acquired | notPublished | published =>
    cases ha
  | @rollsBack rb stage stage' k =>
    cases k with
    | reserve adm reason => cases ha
    | _ => exact .of_subset (.refl m) fun _ hx => hx
  | @rolledBack rb stage e k => exact safeStep_afterRollback rb stage e ha
  | fenced hp | prepared hp => exact .of_subset (shrinks_setReservation hp rfl) (List.nil_subset _)
  | last hp he => exact safeStep_last ho hp he
  | left hp =>
    refine .of_subset (Shrinks.drop ?_ _) (List.nil_subset _)
    exact shrinks_setReservation hp rfl
  | finished hp =>
    refine .of_subset (Shrinks.drop ?_ _) fun _ hx => hx
    exact shrinks_setReservation hp rfl
  | cleared | binds =>
    exact .of_subset (shrinks_updateReservation m _ fun _ => rfl) (List.nil_subset _)
  | settled | skipped | notFound => exact safeStep_afterRelease (.refl m) _ rfl
  | unregistered =>
    refine safeStep_afterRelease ?_ _ rfl
    unfold stepUnregister
    split
    · exact .refl m
    · exact shrinks_unregister m _ _
  | @forgotten intent rest =>
    refine .of_subset (.refl m) ?_
    exact (pending_next m rest).symm ▸ List.Subset.refl _
  | listed =>
    refine ⟨.refl m, fun x hx => .inr ?_⟩
    obtain ⟨i, hi, rfl⟩ := List.mem_map.1 hx
    exact hl rfl i hi
  | @visits intent rest =>
    refine .of_subset (.refl m) fun x hx => ?_
    have hlease : (retryRollback intent c.now).lease.acceleratorID = intent.acceleratorID := by
      unfold retryRollback
      split_ifs <;> rfl
    simpa [pending, hlease] using hx
  | confirmed | notConfirmed | finalized | notFinalized | rescheduled | found =>
    exact .of_subset (.refl m) fun _ hx => hx
  | _ => exact .of_subset (.refl m) (List.nil_subset _)

/-! ## Runs -/

/-- A change of the manager under which placements only go keeps the promises. -/
theorem PromisesKept.of_shrinks (h : PromisesKept s) (hs : Shrinks s.manager s'.manager)
    (ht : s'.threads = s.threads) : PromisesKept s' := by
  intro th hth
  rw [ht] at hth
  obtain ⟨ha, hp⟩ := h th hth
  refine ⟨ha, fun x hx => ?_⟩
  rw [pending_of_shrinks hs] at hx
  exact (hp x hx).of_shrinks hs

theorem PromisesKept.spawn (h : PromisesKept s) (ha : th.admission = none)
    (hp : th.pending s.manager = []) : PromisesKept (Action.spawn s th) := by
  intro th' hth'
  rcases of_mem_snoc hth' with hth' | rfl
  · exact h th' hth'
  · refine ⟨ha, fun x hx => ?_⟩
    rw [show (Action.spawn s th').manager = s.manager from rfl, hp] at hx
    cases hx

theorem PromisesKept.stepThread (h : PromisesKept s) {i : ℕ} {c : Choice}
    (hs : SafeStep s.manager th (th.step s.manager s.store c).1 (th.step s.manager s.store c).2.2)
    (hi : s.threads[i]? = some th) : PromisesKept (Action.stepThread s i th c) := by
  intro th' hth'
  rcases List.mem_or_eq_of_mem_set hth' with hth' | rfl
  · obtain ⟨ha, hp⟩ := h th' hth'
    refine ⟨ha, fun x hx => ?_⟩
    have hx : x ∈ th'.pending s.manager := pending_of_shrinks hs.shrinks th' ▸ hx
    exact (hp x hx).of_shrinks hs.shrinks
  · obtain ⟨ha, -⟩ := h th (List.mem_of_getElem? hi)
    refine ⟨Option.eq_none_iff_forall_ne_some.2 fun adm hadm => ?_, fun x hx => ?_⟩
    · cases ha.symm.trans (admission_of_step hadm)
    rcases hs.pending x hx with hx | hx
    · exact ((h th (List.mem_of_getElem? hi)).2 x hx).of_shrinks hs.shrinks
    · exact hx.of_shrinks hs.shrinks

/-- What the condition says of a thread that lists intents. -/
theorem alone_of_listsLastOnly {i : ℕ} {c : Choice} (h : listsLastOnly ⟨s, .run i c, s'⟩ = true)
    (hi : s.threads[i]? = some .listIntents) :
    ∀ intent ∈ listAcceleratorLeaseCleanupIntents c.now.utc c.now 100 c.intentOrder,
      Alone s.manager intent.acceleratorID (intentWorkload intent) := by
  intro intent hintent k p hk
  simp only [listsLastOnly, listedIntents, hi, List.all_eq_true] at h
  have hmem : ⟨k, p⟩ ∈ s.manager.activePlacements.entries := AList.mem_lookup_iff.1 hk
  simpa using h intent hintent ⟨k, p⟩ hmem

theorem Step.promisesKept {a : Action} (h : Step s a s') (hk : PromisesKept s)
    (ha : a.startsAdmission = false) (hC : listsLastOnly ⟨s, a, s'⟩ = true) : PromisesKept s' := by
  obtain ⟨hadm, rfl⟩ := h
  cases a with
  | reserveTarget targetID request => cases ha
  | run i c =>
    dsimp only [Action.exec]
    cases hi : s.threads[i]? with
    | none => exact hk
    | some th =>
      refine hk.stepThread (th.safeStep hadm.placementOrder ?_ ?_) hi
      · exact (hk th (List.mem_of_getElem? hi)).1
      · rintro rfl
        exact alone_of_listsLastOnly hC hi
  | register w p | learn profiles => exact hk.of_shrinks ⟨fun _ _ h => h, fun _ => rfl⟩ rfl
  | backendStop p pending confirmed =>
    exact hk.of_shrinks (shrinks_updateReservation s.manager p fun _ => rfl) rfl
  | storeCall c => exact hk.of_shrinks (.refl _) rfl
  | _ => exact hk.spawn rfl rfl

/-- The release that a step makes was among those before its thread. -/
theorem alone_of_releaseCall (h : PromisesKept s) {a : Action} {call : ReleaseCall}
    (hc : releaseCall s a = some call) : Alone s.manager call.acceleratorID call.workloadID := by
  cases a with
  | run i c =>
    simp only [releaseCall] at hc
    split at hc
    · next rb k hi =>
      obtain rfl := Option.some.inj hc
      refine (h _ (List.mem_of_getElem? hi)).2 (_, _) ?_
      cases k <;> exact .head _
    · cases hc
  | _ => cases hc

/-- **Only the last workload releases the lease**, if no workload is admitted and every intent that
the retry loop lists belongs to the last workload on its accelerator. -/
theorem released_only_by_last {s₀ s : System} {tr : List (Transition System Action)}
    (h : Run Step s₀ tr s) (h₀ : ∀ th ∈ s₀.threads, th.returned = true)
    (hr : ∀ t ∈ tr, t.label.startsAdmission = false) (hC : ∀ t ∈ tr, listsLastOnly t = true) :
    ∀ t ∈ tr, ∀ call, releaseCall t.pre t.label = some call →
      ∀ k p, t.pre.manager.activePlacements.lookup k = some p →
        p.acceleratorID = call.acceleratorID → p.workloadID = call.workloadID := by
  intro t ht call hcall k p hk ha
  obtain ⟨l₁, l₂, rfl, hpre, -, -⟩ := h.split_mem ht
  have hkept : PromisesKept t.pre := by
    refine hpre.invariant_of
      (C := fun t => t.label.startsAdmission = false ∧ listsLastOnly t = true)
      (fun u hu => ⟨hr u (by simp [hu]), hC u (by simp [hu])⟩) ?_ ?_
    · intro th hth
      have hret := h₀ th hth
      cases th with
      | done o => exact ⟨rfl, fun x hx => nomatch hx⟩
      | _ => cases hret
    · intro s a s' hs hst hc
      exact hst.promisesKept hs hc.1 hc.2
  have halone := alone_of_releaseCall hkept hcall k p hk
  by_contra hw
  simp [otherPlacement, hw, ha] at halone

/-! ## Two workloads on one accelerator -/

/-- The first workload acquires the lease and the second joins it. -/
def admitTwo : List (System → Action) :=
  [fun _ => .reserveTarget "t" { workloadID := "w1" },
   runAt 0 {} .none, runAt 0 {} .none, runAt 0 {} .none,
   fun _ => .reserveTarget "t" { workloadID := "w2" }, runAt 1 {} .none]

/-- Two workloads placed under one lease. -/
def placed : System := afterScript oneTarget admitTwo

def unavailable : GoError := ⟨"store unavailable", none⟩

/-- The first workload leaves; the release of the second fails after its intent is recorded, and is
retried. -/
def leaveAndRetry : List (System → Action) :=
  [fun _ => .releaseTarget 0, runAt 2 {} .none, runAt 2 {} .none, runAt 2 {} .none,
   fun _ => .releaseBeforeTerminal 1 "w2" "success",
   runAt 3 {} .none, runAt 3 {} .none, runAt 3 {} .none, runAt 3 {} .none,
   runAt 3 {} (.before unavailable), runAt 3 {} .none, runAt 3 {} .none,
   fun _ => .retryAcceleratorLeaseCleanupIntents,
   runAt 4 ⟨3 * 10 ^ 9, 0⟩ .none, runAt 4 ⟨3 * 10 ^ 9, 0⟩ .none]

/-- The retry's call of the store. -/
def retryRelease : System → Action := runAt 4 ⟨3 * 10 ^ 9, 0⟩ .none

theorem leaveAndRetry_admissible :
    ∀ a ∈ leaveAndRetry ++ [retryRelease], ∀ s, (a s).Admissible s := by
  simp [leaveAndRetry, retryRelease, Action.Admissible, runAt, Choice.of_ofSystem]

/-- The second workload, the last one, has its lease released by the retry loop. -/
theorem released_only_by_last_retried :
    let s := afterScript placed leaveAndRetry
    releaseCall s (retryRelease s) = some ⟨"gpu", "w1", 1, "w2"⟩ ∧
    ∀ k p, s.manager.activePlacements.lookup k = some p → p.acceleratorID = "gpu" →
      p.workloadID = "w2" := by
  have hcall : releaseCall (afterScript placed leaveAndRetry)
      (retryRelease (afterScript placed leaveAndRetry)) = some ⟨"gpu", "w1", 1, "w2"⟩ := by decide
  refine ⟨hcall, ?_⟩
  exact released_only_by_last (run_script leaveAndRetry_admissible placed) (by decide) (by decide)
    (by decide) _ (List.mem_of_getElem? (i := 15) rfl) _ hcall

/-- The first workload leaves while the second runs, and the confirmation of its release cannot be
recorded. The retry loop takes up its intent. -/
def endFirst : List (System → Action) :=
  [fun _ => .releaseBeforeTerminal 0 "w1" "success",
   runAt 2 {} .none, runAt 2 {} .none, runAt 2 {} .none, runAt 2 {} .none, runAt 2 {} .none,
   runAt 2 {} (.before unavailable), runAt 2 {} (.before unavailable),
   fun _ => .retryAcceleratorLeaseCleanupIntents,
   runAt 3 ⟨3 * 10 ^ 9, 0⟩ .none, runAt 3 ⟨3 * 10 ^ 9, 0⟩ .none]

/-- The retry loop releases the lease for the first workload while the second is still placed on the
accelerator, and the store no longer has the lease. -/
theorem lease_released_under_other :
    let s := afterScript placed endFirst
    let release := runAt 3 ⟨3 * 10 ^ 9, 0⟩ .none s
    Run Step oneTarget (script oneTarget admitTwo) placed ∧
    (∀ th ∈ placed.threads, th.returned = true) ∧
    Run Step placed (script placed endFirst) s ∧
    (∀ t ∈ script placed endFirst, t.label.startsAdmission = false) ∧
    releaseCall s release = some ⟨"gpu", "w1", 1, "w1"⟩ ∧
    (s.manager.activePlacements.lookup (ofString "w2")).map
      (fun p => (p.workloadID, p.acceleratorID)) = some (ofString "w2", ofString "gpu") ∧
    s.store.leases.lookup (ofString "gpu") = some ⟨"gpu", "w1", 1, ⟨60 * 10 ^ 9, 0⟩⟩ ∧
    (release.exec s).store.leases.lookup (ofString "gpu") = none :=
  ⟨run_script (by simp [admitTwo, Action.Admissible, runAt, Choice.of_ofSystem]) oneTarget,
    by decide, run_script (by simp [endFirst, Action.Admissible, runAt, Choice.of_ofSystem]) placed,
    by decide, by decide, by decide, by decide, by decide⟩

end VramGovernor.Workloads
