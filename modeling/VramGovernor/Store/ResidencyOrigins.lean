import VramGovernor.Store.ResidencyTransitions

/-!
# The lease origin of residency transitions

A transition that was allocated under a lease has the accelerator, the workload and the token of the
lease, and a mark that it was allocated. Of the five calls that take such a row, two make rows and
refuse every origin, one makes rows and writes the origin after it has compared the caller's lease
with the live one, and two replace rows and compare the origin with the stored one. So origins
cannot be forged (`lease_origins_unforgeable`).
-/

namespace VramGovernor.Store

open GoString GoMap TransitionCall

/-- Where a transition was allocated. -/
structure LeaseOrigin where
  (acceleratorID workloadID : GoString)
  fencingToken : Int64
  allocated : Bool
  deriving DecidableEq

def ResidencyTransition.origin (t : ResidencyTransition) : LeaseOrigin where
  acceleratorID := t.leaseOriginAcceleratorID
  workloadID := t.leaseOriginWorkloadID
  fencingToken := t.leaseOriginFencingToken
  allocated := t.leaseOriginAllocated

/-- The arguments that identify a transition. -/
structure CanonicalArguments where
  (idempotencyKey targetID acceleratorID model : GoString)
  (fromTier toTier : ResidencyTier)
  (reason requestedBy workloadID : GoString)
  fencingToken : Int64
  (capabilityVersion capabilityRevision : GoString)
  targetGeneration : UInt64
  executionFingerprint : GoString
  deriving DecidableEq

def ResidencyTransition.canonical (t : ResidencyTransition) : CanonicalArguments := { t with }

variable {lease : AcceleratorLease}

section Validators

variable {t current row : ResidencyTransition} {resource : GoString}

/-- **The comparison of the source compares all canonical arguments.** -/
theorem canonicalDiffers_eq_false_iff :
    canonicalDiffers current row true = false ↔ current.canonical = row.canonical := by
  simp only [canonicalDiffers, ResidencyTransition.canonical, CanonicalArguments.mk.injEq,
    Bool.or_eq_false_iff, Bool.true_and, decide_eq_false_iff_not, not_not, ne_eq]
  tauto

theorem sameResidencyTransitionLeaseOrigin_iff :
    sameResidencyTransitionLeaseOrigin current row = true ↔ current.origin = row.origin := by
  simp only [sameResidencyTransitionLeaseOrigin, ResidencyTransition.origin, LeaseOrigin.mk.injEq,
    Bool.and_eq_true, decide_eq_true_eq, and_assoc]

/-- A call that refuses origins accepts only a row that is not marked. -/
theorem not_allocated_of_refuseLeaseOrigin {detail : String}
    (h : refuseLeaseOrigin t detail = .ok ()) : t.leaseOriginAllocated = false := by
  obtain ⟨-, -, h⟩ := bind_eq_ok.1 h
  split_ifs at h with hn
  simp only [residencyTransitionHasLeaseOrigin, Bool.not_eq_true, Bool.or_eq_false_iff] at hn
  exact hn.2

/-- An update keeps the origin, and the canonical arguments of a row with a lease. -/
theorem updateChecks_kept (h : updateChecks current t = .ok ()) : current.origin = t.origin ∧
      (current.leaseOriginAllocated = true → current.canonical = t.canonical) := by
  obtain ⟨-, -, h⟩ := bind_eq_ok.1 h
  obtain ⟨-, -, h⟩ := bind_eq_ok.1 h
  split_ifs at h with hs hc
  simp only [Bool.not_eq_true', Bool.not_eq_false] at hs
  refine ⟨sameResidencyTransitionLeaseOrigin_iff.1 hs, fun ha => ?_⟩
  rw [← canonicalDiffers_eq_false_iff]
  simpa [ha] using hc

theorem leaseOriginResource_ok
    (h : leaseOriginResource t lease = .ok resource) : lease.acceleratorID = resource := by
  have hnonempty {r : GoString} (h : (if r = [] then
      .error (transitionConflict "lease resource is empty") else .ok r) = Except.ok resource) :
      r = resource := by
    split_ifs at h
    exact Except.ok.inj h
  revert h
  fun_cases leaseOriginResource t lease with
  | case1 | case3 => exact nofun
  | case2 => exact hnonempty
  | case4 _ _ hv => exact fun h => not_not.1 hv ▸ hnonempty h

/-- The request that passes has the lease whose resource is looked up, and its token. -/
theorem leaseOriginRequest_ok {lease : Option AcceleratorLease} {l : AcceleratorLease}
    (h : validateResidencyTransitionLeaseOriginRequest t lease = .ok (resource, l)) :
    lease = some l ∧ l.acceleratorID = resource ∧ t.fencingToken = l.fencingToken := by
  obtain ⟨-, -, h⟩ := bind_eq_ok.1 h
  cases lease with
  | none => cases h
  | some l' =>
    dsimp only at h
    split_ifs at h with hbad
    simp only [Bool.or_eq_true, decide_eq_true_eq, not_or, ne_eq, not_not] at hbad
    cases hr : leaseOriginResource t l' with
    | error e => simp [hr, Except.map] at h
    | ok r =>
      simp only [hr, Except.map, Except.ok.injEq, Prod.mk.injEq] at h
      obtain ⟨rfl, rfl⟩ := h
      exact ⟨rfl, leaseOriginResource_ok hr, hbad.2⟩

end Validators

/-- The workload of the origin holds its lease, which is live and has its token. -/
def HoldsLease (m : TransitionStore) (now : GoTime) (o : LeaseOrigin) : Prop :=
  ∃ lease, m.leases.lookup o.acceleratorID = some lease ∧ lease.acceleratorID = o.acceleratorID ∧
    lease.workloadID = o.workloadID ∧ lease.fencingToken = o.fencingToken ∧
    lease.expiresAt.after now = true

variable {m : TransitionStore} {c : TransitionCall}

theorem holdsLease_of_validate {m : TransitionStore} {now : GoTime}
    (h : validateCurrentResidencyLeaseOrigin (m.leases.lookup lease.acceleratorID) lease now =
      .ok ()) :
    HoldsLease m now ⟨lease.acceleratorID, lease.workloadID, lease.fencingToken, true⟩ := by
  unfold validateCurrentResidencyLeaseOrigin at h
  split_ifs at h
  split at h
  · cases h
  · rename_i current hl
    split_ifs at h with hstale
    simp only [Bool.or_eq_true, decide_eq_true_eq, Bool.not_eq_true', not_or, ne_eq, not_not,
      Bool.not_eq_false] at hstale
    obtain ⟨⟨⟨ha, hw⟩, ht⟩, hlive⟩ := hstale
    exact ⟨current, hl, ha, hw, ht, hlive⟩

/-! ## What a call can do to the origins -/

/-- What a call can do to the rows, as far as their origins go. -/
inductive OriginChange (m : TransitionStore) (c : TransitionCall) : TransitionStore → Prop
  | kept (m' : TransitionStore) (h : m'.transitions = m.transitions) : OriginChange m c m'
  | unleased (row : ResidencyTransition) (hfree : m.transitions.lookup row.id = none)
      (ha : row.leaseOriginAllocated = false) : OriginChange m c (m.insertTransition row)
  | leased (t row : ResidencyTransition) (lease : AcceleratorLease) (now : GoTime)
      (order : List (Entry ResidencyTransition))
      (hc : c = .allocateWithLease t (some lease) now order)
      (hfree : m.transitions.lookup row.id = none)
      (hreply : (c.run m).2 = .ok (some row, true)) (hheld : HoldsLease m now row.origin)
      (htoken : row.leaseOriginFencingToken ≤ row.fencingToken) :
      OriginChange m c (m.insertTransition row)
  | rewritten (current row : ResidencyTransition)
      (hl : m.transitions.lookup row.id = some current) (horigin : row.origin = current.origin)
      (hcanonical : current.leaseOriginAllocated = true → row.canonical = current.canonical) :
      OriginChange m c { m with transitions := m.transitions.insert row.id row }

variable {m' : TransitionStore}

/-- Only an allocation under a lease writes an origin, and only if the lease is the live one. -/
theorem TransitionStep.originChange (h : TransitionStep m c m') : OriginChange m c m' := by
  have hchange := h.change
  generalize hreply : (c.run m).2 = r at hchange
  cases hchange with
  | refused | replayed | other => exact .kept _ rfl
  | created t _ hfresh ho => exact .unleased t hfresh.2 (not_allocated_of_refuseLeaseOrigin ho)
  | allocated t row _ hfresh _ _ hmade =>
    obtain ⟨stamp, mark, hstamp, hmax, rfl⟩ := hmade
    cases hstamp with
    | unleased order ho => exact .unleased _ hfresh.2 (not_allocated_of_refuseLeaseOrigin ho)
    | @leased lease now order resource l hreq hcur =>
      obtain ⟨rfl, rfl, htoken⟩ := leaseOriginRequest_ok hreq
      refine .leased t _ l now order rfl hfresh.2 hreply (holdsLease_of_validate hcur) ?_
      show l.fencingToken ≤ (fencedRow t mark).fencingToken
      rw [← htoken, Int64.le_iff_toInt_le, fencedRow_toInt t hmax]
      exact le_max_left _ _
  | swapped current row revision _ _ _ hl hchecks =>
    obtain ⟨-, hc, hs⟩ := swapChecks_ok hchecks
    have horigin := sameResidencyTransitionLeaseOrigin_iff.1 hs
    have hcanonical := canonicalDiffers_eq_false_iff.1 hc
    exact .rewritten current { row with revision := revision + 1 } hl horigin.symm
      fun _ => hcanonical.symm
  | updated current row _ hl hchecks =>
    obtain ⟨horigin, hcanonical⟩ := updateChecks_kept hchecks
    exact .rewritten current row hl horigin.symm fun ha => (hcanonical ha).symm

/-! ## Origins over a run -/

/-- The row that takes the place of another has its origin, and its canonical arguments if it was
allocated under a lease. -/
structure SameOrigin (row row' : ResidencyTransition) : Prop where
  origin : row'.origin = row.origin
  canonical : row.leaseOriginAllocated = true → row'.canonical = row.canonical

theorem SameOrigin.refl (row : ResidencyTransition) : SameOrigin row row := ⟨rfl, fun _ => rfl⟩

theorem TransitionStep.sameOrigin (h : TransitionStep m c m')
    (id : GoString) : Advances SameOrigin id m.transitions m'.transitions := by
  cases h.originChange with
  | kept _ heq =>
    rw [heq]
    exact advances_refl SameOrigin.refl id _
  | unleased row hfree | leased t row lease now order hc hfree =>
    exact advances_insert_new SameOrigin.refl hfree row
  | rewritten current row hl horigin hcanonical =>
    exact advances_insert SameOrigin.refl hl ⟨horigin, hcanonical⟩

/-- The transition has made the row under the lease of its origin, which its workload held then. -/
def AllocatedUnderLease (t : Transition TransitionStore TransitionCall) (id : GoString)
    (row : ResidencyTransition) : Prop :=
  ∃ request lease now order made,
    t.label = .allocateWithLease request (some lease) now order ∧
    (t.label.run t.pre).2 = .ok (some made, true) ∧ made.id = id ∧
    HoldsLease t.pre now row.origin ∧ made.origin = row.origin ∧ made.canonical = row.canonical

/-- A marked row comes from a marked row of the same origin and arguments, or the step has made it
under its lease. -/
theorem TransitionStep.marked (h : TransitionStep m c m') {id : GoString}
    {row' : ResidencyTransition} (hl : m'.transitions.lookup id = some row')
    (ha : row'.leaseOriginAllocated = true) :
    (∃ row, m.transitions.lookup id = some row ∧ row.leaseOriginAllocated = true ∧
        row'.origin = row.origin ∧ row'.canonical = row.canonical) ∨
      (AllocatedUnderLease ⟨m, c, m'⟩ id row' ∧
        row'.leaseOriginFencingToken ≤ row'.fencingToken) := by
  cases h.originChange with
  | kept _ heq =>
    rw [heq] at hl
    exact .inl ⟨row', hl, ha, rfl, rfl⟩
  | unleased row hfree hno =>
    rcases of_lookup_insert hl with ⟨-, rfl⟩ | ⟨-, hl⟩
    · rw [hno] at ha
      cases ha
    · exact .inl ⟨row', hl, ha, rfl, rfl⟩
  | leased t row lease now order hc hfree hreply hheld htoken =>
    rcases of_lookup_insert hl with ⟨hid, rfl⟩ | ⟨-, hl⟩
    · exact .inr ⟨⟨t, lease, now, order, _, hc, hreply, hid.symm, hheld, rfl, rfl⟩, htoken⟩
    · exact .inl ⟨row', hl, ha, rfl, rfl⟩
  | rewritten current row hl₀ horigin hcanonical =>
    rcases of_lookup_insert hl with ⟨rfl, rfl⟩ | ⟨-, hl⟩
    · have ha' : current.leaseOriginAllocated = true :=
        (congrArg LeaseOrigin.allocated horigin).symm.trans ha
      exact .inl ⟨current, hl₀, ha', horigin, hcanonical ha'⟩
    · exact .inl ⟨row', hl, ha, rfl, rfl⟩

/-- **Lease origins cannot be forged.** A marked row was made by
`AllocateResidencyTransitionWithLease` while the workload of its origin held the live lease, its
fence is not below the token of that lease, and no call alters the origin or the canonical
arguments. -/
theorem lease_origins_unforgeable {m₀ m : TransitionStore}
    {tr : List (Transition TransitionStore TransitionCall)} (h : Run TransitionStep m₀ tr m)
    (h₀ : m₀.transitions = ∅) :
    (∀ id row, m.transitions.lookup id = some row → row.leaseOriginAllocated = true →
        (∃ t ∈ tr, AllocatedUnderLease t id row) ∧ row.leaseOriginFencingToken ≤ row.fencingToken) ∧
      ∀ t ∈ tr, ∀ id, Advances SameOrigin id t.pre.transitions t.post.transitions := by
  constructor
  · induction h with
    | nil =>
      intro id row hl
      rw [h₀] at hl
      cases hl
    | @snoc tr m m' c _ hs ih =>
      intro id row' hl ha
      rcases hs.marked hl ha with ⟨row, hl₀, ha₀, horigin, hcanonical⟩ | ⟨hmade, htoken⟩
      · obtain ⟨⟨t, ht, request, lease, now, order, made, hc, hreply, hid, hheld, ho, hcan⟩,
          htoken⟩ := ih id row hl₀ ha₀
        refine ⟨⟨t, by simp [ht], request, lease, now, order, made, hc, hreply, hid, ?_, ?_, ?_⟩,
          ?_⟩
        · rwa [horigin]
        · rw [ho, horigin]
        · rw [hcan, hcanonical]
        · have h₁ : row'.leaseOriginFencingToken = row.leaseOriginFencingToken :=
            congrArg LeaseOrigin.fencingToken horigin
          have h₂ : row'.fencingToken = row.fencingToken :=
            congrArg CanonicalArguments.fencingToken hcanonical
          rwa [h₁, h₂]
      · exact ⟨⟨_, by simp, hmade⟩, htoken⟩
  · intro t ht id
    obtain ⟨-, -, -, -, hs, -⟩ := h.split_mem ht
    exact hs.sameOrigin id

/-- The lease of the accelerator `a` that the workload `w` holds. -/
def heldLease : AcceleratorLease := ⟨"a", "w", 4, { nanos := 10 }⟩

def leasedRequest : ResidencyTransition :=
  { id := "r", idempotencyKey := "k", targetID := "t", acceleratorID := "a", model := "m",
    fencingToken := 4 }

/-- A transition is allocated under a granted lease and started, and its origin is tried to be
removed. -/
def allocateUnderLease : List (TransitionStore → TransitionCall) :=
  [fun m => .other { m.toMemoryStore with leases := m.leases.insert "a" heldLease },
   fun m => .allocateWithLease leasedRequest (some heldLease) { nanos := 5 } m.transitions.entries,
   fun m => .swap { (m.transitions.lookup (ofString "r")).getD {} with status := .running } 1
     .planned 4,
   fun _ => .update { leasedRequest with status := .running }]

theorem allocateUnderLease_run : Run TransitionStep {}
      (Run.script (fun m c => (run m c).1) {} allocateUnderLease)
      (Run.afterScript (fun m c => (run m c).1) {} allocateUnderLease) := by
  refine Run.of_script _ (fun a ha m => ⟨?_, rfl⟩) _
  simp only [allocateUnderLease, List.mem_cons, List.not_mem_nil, or_false] at ha
  rcases ha with rfl | rfl | rfl | rfl
  · trivial
  · exact rangeOrder_entries _
  · trivial
  · trivial

/-- The update is refused, and the running row still says where it was allocated. -/
theorem origin_of_running_row : ∃ row, (Run.afterScript (fun m c => (TransitionCall.run m c).1) {}
        allocateUnderLease).transitions.lookup (ofString "r") = some row ∧
      row.status = .running ∧ row.origin = ⟨"a", "w", 4, true⟩ ∧
      (∃ t ∈ Run.script (fun m c => (TransitionCall.run m c).1) {} allocateUnderLease,
        AllocatedUnderLease t "r" row) ∧ row.leaseOriginFencingToken ≤ row.fencingToken := by
  refine ⟨{ leasedRequest with
    status := .running, revision := 2, leaseOriginAcceleratorID := "a",
    leaseOriginWorkloadID := "w", leaseOriginFencingToken := 4, leaseOriginAllocated := true },
    by decide +kernel, rfl, rfl, ?_⟩
  exact (lease_origins_unforgeable allocateUnderLease_run rfl).1 "r" _ (by decide +kernel) rfl

end VramGovernor.Store
