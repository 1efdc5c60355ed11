import VramGovernor.Foundations.Run
import VramGovernor.Store.Budget

/-!
# Writes of workload rows

`UpdateWorkload` and `CompareAndSwapWorkload` replace a row, `ReserveAndLinkBudgetClaim` links it to
a budget claim. Each is refused unless the caller names the revision that is stored, and raises it
by one.

* `reserveAndLink_whole`: the row and the claim change together or not at all.
* `writes_follow_reads`: a write that names the revision of an older read has nothing to overwrite,
  until the counter has gone round once.
-/

namespace VramGovernor.Store

open GoString GoMap

/-! ## Linked reservations -/

/-- The claim has the fields that a reservation would fill in. -/
def BudgetReservation.current (r : BudgetReservation) : Bool :=
  r.revision ≠ 0 && r.attempt ≠ 0 && r.ownershipToken ≠ []

theorem normalizeBudget_of_current {r : BudgetReservation} (h : r.current = true)
    (workloadID : GoString) : normalizeBudget workloadID r = r := by
  simp only [BudgetReservation.current, Bool.and_eq_true, decide_eq_true_eq, ne_eq] at h
  obtain ⟨⟨hrev, hattempt⟩, htoken⟩ := h
  simp [normalizeBudget, hrev, hattempt, htoken]

/-- The row carries the reservation. -/
structure CarriesClaim (w : Workload) (r : BudgetReservation) : Prop where
  token : w.budgetReservationToken = r.ownershipToken
  attempt : w.budgetReservationAttempt = r.attempt
  cents : w.budgetReservationCents = r.reservedCents
  limitCents : w.budgetReservationLimitCents = r.limitCents
  currency : w.budgetReservationCurrency = r.currency

/-- The claim that a row is linked to: the stored one, with its defaults, or a new one. -/
structure LinkedClaim (m : BudgetStore) (terms : BudgetTerms) (now : GoTime)
    (r : BudgetReservation) : Prop where
  token : isBlank r.ownershipToken = false
  reserved : r.status = .reserved
  source : (∃ existing, m.budgets.lookup terms.workloadID = some existing ∧
      r = normalizeBudget terms.workloadID existing) ∨
    r = newBudgetReservation (m.budgets.lookup terms.workloadID) terms now

/-- How a linked reservation ends. -/
inductive Linking (m : BudgetStore) (terms : BudgetTerms) (expected : ExpectedRow) (now : GoTime) :
    BudgetStore × BudgetReply → Prop
  /-- It is refused. -/
  | refused (reply : BudgetReply) (hr : reply.allowed = false) :
      Linking m terms expected now (m, reply)
  /-- It is refused for the claim that it finds, which gets its defaults. -/
  | found (reply : BudgetReply) (existing : BudgetReservation) (hr : reply.allowed = false)
      (hl : m.budgets.lookup terms.workloadID = some existing) (hs : existing.status ≠ .released) :
      Linking m terms expected now
        ({ m with
            budgets :=
              m.budgets.insert terms.workloadID (normalizeBudget terms.workloadID existing) },
          reply)
  /-- The row and the claim are written together. -/
  | linked (reply : BudgetReply) (row : Workload) (r : BudgetReservation)
      (hl : m.workloads.lookup terms.workloadID = some row)
      (hrev : row.revision = expected.revision)
      (hr : reply.allowed = true) (hv : reply.reservation = some r)
      (hclaim : LinkedClaim m terms now r) :
      Linking m terms expected now
        ({ m with
            budgets := m.budgets.insert terms.workloadID r
            workloads := m.workloads.insert terms.workloadID (linkBudget row r now) },
          reply)

theorem revision_of_not_rowConflicts {row : Workload} {terms : BudgetTerms} {expected : ExpectedRow}
    (h : rowConflicts row terms expected = false) : row.revision = expected.revision := by
  simp only [rowConflicts, Bool.or_eq_false_iff, decide_eq_false_iff_not, ne_eq, not_not] at h
  exact h.1.1.1

theorem reserveAndLink_linking (m : BudgetStore) (terms : BudgetTerms) (expected : ExpectedRow)
    (now : GoTime) :
    Linking m terms expected now (reserveAndLinkBudgetClaim m terms expected now) := by
  fun_cases reserveAndLinkBudgetClaim m terms expected now with
  | case1 | case2 | case3 | case6 => exact .refused _ rfl
  | case4 _ row hw _ existing ha =>
    obtain ⟨hl, hs⟩ := activeBudget_eq_some.1 ha
    exact .found _ existing rfl hl hs
  | case5 ht row hw hc existing ha _ _ hother =>
    have hrev := revision_of_not_rowConflicts (Bool.or_eq_false_iff.1 (Bool.not_eq_true _ ▸ hc)).1
    obtain ⟨hl, hs⟩ := activeBudget_eq_some.1 ha
    refine .linked _ row _ hw hrev rfl rfl ?_
    simp only [BudgetReservation.hasTerms, Bool.or_eq_true, Bool.not_eq_true',
      Bool.and_eq_false_iff, decide_eq_false_iff_not, not_or, not_not] at hother
    obtain ⟨⟨⟨⟨⟨⟨⟨hreserved, -⟩, -⟩, htoken⟩, -⟩, -⟩, -⟩, -⟩ := hother
    exact ⟨htoken ▸ Bool.eq_false_iff.2 ht, hreserved, .inl ⟨existing, hl, rfl⟩⟩
  | case7 ht row hw hc =>
    have hrev := revision_of_not_rowConflicts (Bool.or_eq_false_iff.1 (Bool.not_eq_true _ ▸ hc)).1
    exact .linked _ row _ hw hrev rfl rfl ⟨Bool.eq_false_iff.2 ht, rfl, .inr rfl⟩

/-- **The row and the claim change together or not at all**, if the claim that is found has all its
fields. -/
theorem reserveAndLink_whole (m : BudgetStore) (terms : BudgetTerms) (expected : ExpectedRow)
    (now : GoTime) :
    ((reserveAndLinkBudgetClaim m terms expected now).2.allowed = true →
      ∃ row row' r, m.workloads.lookup terms.workloadID = some row ∧
        (reserveAndLinkBudgetClaim m terms expected now).1.workloads.lookup terms.workloadID =
          some row' ∧
        (reserveAndLinkBudgetClaim m terms expected now).2.reservation = some r ∧
        (reserveAndLinkBudgetClaim m terms expected now).1.budgets.lookup terms.workloadID =
          some r ∧
        CarriesClaim row' r ∧ row'.revision = row.revision + 1) ∧
    ((reserveAndLinkBudgetClaim m terms expected now).2.allowed = false →
      (∀ r, activeBudget m.budgets terms.workloadID = some r → r.current = true) →
      ∀ id, (reserveAndLinkBudgetClaim m terms expected now).1.budgets.lookup id =
          m.budgets.lookup id ∧
        (reserveAndLinkBudgetClaim m terms expected now).1.workloads.lookup id =
          m.workloads.lookup id) := by
  generalize hout : reserveAndLinkBudgetClaim m terms expected now = out
  have hlink : Linking m terms expected now out :=
    hout ▸ reserveAndLink_linking m terms expected now
  cases hlink with
  | refused reply hr => exact ⟨fun ha => absurd ha (by simp [hr]), fun _ _ id => ⟨rfl, rfl⟩⟩
  | found reply existing hr hl hs =>
    refine ⟨fun ha => absurd ha (by simp [hr]), fun _ hcurrent id => ⟨?_, rfl⟩⟩
    have hnorm := normalizeBudget_of_current (hcurrent existing (activeBudget_eq_some.2 ⟨hl, hs⟩))
      terms.workloadID
    rw [hnorm, lookup_insert_of]
    split_ifs with hid
    · rw [hid, hl]
    · rfl
  | linked reply row r hl hrev hr hv _ =>
    refine ⟨fun _ => ⟨row, linkBudget row r now, r, hl, ?_, hv, ?_, ⟨rfl, rfl, rfl, rfl, rfl⟩,
      rfl⟩, fun ha => ?_⟩
    · exact AList.lookup_insert _
    · exact AList.lookup_insert _
    · rw [show reply.allowed = false from ha] at hr
      cases hr

/-! ## Calls -/

def updateWorkload (m : MemoryStore) (w : Option Workload) :
    MemoryStore × Except GoError Workload :=
  match w with
  | none => (m, .error errWorkloadConflict)
  | some w =>
    if w.revision = 0 then (m, .error errWorkloadConflict)
    else
      match m.workloads.lookup w.requestID with
      | none => (m, .error errNotFound)
      | some current =>
        if current.revision ≠ w.revision then (m, .error errWorkloadConflict)
        else if current.cancellationOwner ≠ w.cancellationOwner then (m, .error errWorkloadConflict)
        else
          let updated := { w with revision := current.revision + 1 }
          ({ m with workloads := m.workloads.insert w.requestID updated }, .ok updated)

/-- A call that writes a row, or a change of the claims. -/
inductive WorkloadCall
  | update (w : Option Workload)
  | swap (w : Workload) (expectedRevision : UInt64) (expectedStatus : WorkloadStatus)
      (expectedCancellationOwner : GoString)
  | reserveAndLink (terms : BudgetTerms) (expected : ExpectedRow) (now : GoTime)
  | claims (budgets : GoMap BudgetReservation)

open WorkloadCall

namespace WorkloadCall

/-- The store after the call, and whether the write was accepted. -/
def run (m : BudgetStore) : WorkloadCall → BudgetStore × Bool
  | update w =>
    ({ m with toMemoryStore := (updateWorkload m.toMemoryStore w).1 },
      (updateWorkload m.toMemoryStore w).2.toOption.isSome)
  | swap w revision status owner =>
    ({ m with
        toMemoryStore := (compareAndSwapWorkload m.toMemoryStore w revision status owner).1 },
      (compareAndSwapWorkload m.toMemoryStore w revision status owner).2.toOption.isSome)
  | reserveAndLink terms expected now =>
    ((reserveAndLinkBudgetClaim m terms expected now).1,
      (reserveAndLinkBudgetClaim m terms expected now).2.allowed)
  | claims budgets => ({ m with budgets }, false)

/-- The row that the call is about, and the revision of it that the caller has read. -/
def basis : WorkloadCall → Option (GoString × UInt64)
  | update w => w.map fun w => (w.requestID, w.revision)
  | swap w revision _ _ => some (w.requestID, revision)
  | reserveAndLink terms expected _ => some (terms.workloadID, expected.revision)
  | claims _ => none

end WorkloadCall

def WorkloadStep (m : BudgetStore) (c : WorkloadCall) (m' : BudgetStore) : Prop := m' = (c.run m).1

/-- The transition is an accepted write of the row. -/
def WritesRow (id : GoString) (t : Transition BudgetStore WorkloadCall) : Prop :=
  (t.label.run t.pre).2 = true ∧ ∃ revision, t.label.basis = some (id, revision)

/-- What a call can do to the rows, and whether it is accepted. -/
inductive WorkloadChange (m : BudgetStore) (c : WorkloadCall) : BudgetStore × Bool → Prop
  | keep (m' : BudgetStore) (hw : m'.workloads = m.workloads) : WorkloadChange m c (m', false)
  | write (m' : BudgetStore) (id : GoString) (current row : Workload)
      (hl : m.workloads.lookup id = some current) (hb : c.basis = some (id, current.revision))
      (hw : m'.workloads = m.workloads.insert id row) (hrev : row.revision = current.revision + 1)
      (ho : row.cancellationOwner = current.cancellationOwner ∨
        ∃ w status, c = .swap w current.revision status current.cancellationOwner) :
      WorkloadChange m c (m', true)

theorem WorkloadCall.change (m : BudgetStore) (c : WorkloadCall) :
    WorkloadChange m c (c.run m) := by
  cases c with
  | update w =>
    simp only [run]
    fun_cases updateWorkload m.toMemoryStore w with
    | case1 | case2 | case3 | case4 | case5 => exact .keep _ rfl
    | case6 w _ current hl hrev howner updated =>
      exact .write _ w.requestID current updated hl (by simp [basis, not_not.1 hrev]) rfl rfl
        (.inl (not_not.1 howner).symm)
  | swap w revision status owner =>
    simp only [run]
    rcases compareAndSwapWorkload_accepted m.toMemoryStore w revision status owner with
      ⟨e, he⟩ | ⟨current, hl, rfl, -, rfl, -, he⟩ <;> rw [he]
    · exact .keep _ rfl
    · exact .write _ w.requestID current _ hl rfl rfl rfl (.inr ⟨w, status, rfl⟩)
  | reserveAndLink terms expected now =>
    have hlink := reserveAndLink_linking m terms expected now
    simp only [run]
    generalize reserveAndLinkBudgetClaim m terms expected now = out at hlink
    cases hlink with
    | refused reply hr | found reply existing hr hl hs =>
      rw [hr]
      exact .keep _ rfl
    | linked reply row r hl hrev hr hv _ =>
      rw [hr]
      exact .write _ terms.workloadID row _ hl (by simp [basis, hrev]) rfl rfl (.inl rfl)
  | claims budgets => exact .keep _ rfl

/-! ## Runs -/

instance (id : GoString) (t : Transition BudgetStore WorkloadCall) : Decidable (WritesRow id t) :=
  decidable_of_iff ((t.label.run t.pre).2 = true ∧ (t.label.basis.map Prod.fst) = some id) <| by
    simp [WritesRow, Option.map_eq_some_iff]

def writesTo (id : GoString) (tr : List (Transition BudgetStore WorkloadCall)) : ℕ :=
  tr.countP fun t => decide (WritesRow id t)

section Runs

variable {m m' : BudgetStore} {c : WorkloadCall} {id : GoString} {w : Workload}
  {tr : List (Transition BudgetStore WorkloadCall)}

/-- An accepted write names the revision that is stored, and raises it by one. -/
theorem WorkloadStep.revision_of_writes (h : WorkloadStep m c m') (hw : WritesRow id ⟨m, c, m'⟩) :
    ∃ row row', m.workloads.lookup id = some row ∧ m'.workloads.lookup id = some row' ∧
      c.basis = some (id, row.revision) ∧ row'.revision = row.revision + 1 := by
  obtain ⟨haccepted, revision, hbasis⟩ := hw
  have hchange := c.change m
  rw [h]
  dsimp only at haccepted
  generalize c.run m = answer at hchange haccepted
  cases hchange with
  | keep => cases haccepted
  | write m' id' current row hl hb hkeep hrev ho =>
    obtain rfl : id = id' := by
      rw [show c.basis = some (id, revision) from hbasis] at hb
      exact (Prod.mk.inj (Option.some.inj hb)).1
    exact ⟨current, row, hl, by rw [hkeep, AList.lookup_insert], hb, hrev⟩

theorem WorkloadStep.lookup_of_not_writes (h : WorkloadStep m c m')
    (hw : ¬ WritesRow id ⟨m, c, m'⟩) :
    m'.workloads.lookup id = m.workloads.lookup id := by
  have hchange := c.change m
  simp only [WritesRow, not_and] at hw
  rw [h]
  generalize c.run m = answer at hchange hw
  cases hchange with
  | keep m' hkeep => rw [hkeep]
  | write m' id' current row hl hb hkeep hrev ho =>
    rw [hkeep, lookup_insert_of, if_neg]
    rintro rfl
    exact hw rfl ⟨_, hb⟩

/-- The owner of a cancellation changes with an accepted swap that names the one stored. -/
theorem WorkloadStep.owner_of_change (h : WorkloadStep m c m') {w' : Workload}
    (hl : m.workloads.lookup id = some w) (hl' : m'.workloads.lookup id = some w')
    (hne : w'.cancellationOwner ≠ w.cancellationOwner) :
    WritesRow id ⟨m, c, m'⟩ ∧
      ∃ desired status, c = .swap desired w.revision status w.cancellationOwner := by
  have hchange := c.change m
  rw [h] at hl'
  unfold WritesRow
  generalize c.run m = answer at hchange hl' ⊢
  cases hchange with
  | keep m' hkeep =>
    rw [hkeep, hl] at hl'
    exact absurd (congrArg Workload.cancellationOwner (Option.some.inj hl').symm) hne
  | write m' id' current row hcurrent hb hkeep hrev ho =>
    rw [hkeep, lookup_insert_of] at hl'
    split_ifs at hl' with hid
    · subst hid
      obtain rfl : current = w := Option.mem_unique hcurrent hl
      obtain rfl : row = w' := Option.some.inj hl'
      refine ⟨⟨rfl, _, hb⟩, ?_⟩
      rcases ho with ho | ho
      · exact absurd ho hne
      · exact ho
    · rw [hl] at hl'
      exact absurd (congrArg Workload.cancellationOwner (Option.some.inj hl').symm) hne

/-- **The revision counts the accepted writes of a row**, and without one the row stays. -/
theorem WorkloadStep.run_revision (h : Run WorkloadStep m tr m')
    (hl : m.workloads.lookup id = some w) :
    ∃ w', m'.workloads.lookup id = some w' ∧
      w'.revision = w.revision + UInt64.ofNat (writesTo id tr) ∧ (writesTo id tr = 0 → w' = w) := by
  induction h with
  | nil => exact ⟨w, hl, by simp [writesTo], fun _ => rfl⟩
  | @snoc tr s s' c h hs ih =>
    obtain ⟨w', hl', hrev, hsame⟩ := ih
    by_cases hw : WritesRow id ⟨s, c, s'⟩
    · have hcount : writesTo id (tr ++ [⟨s, c, s'⟩]) = writesTo id tr + 1 := by
        simp [writesTo, hw]
      obtain ⟨row, row', hrow, hrow', -, hnext⟩ := WorkloadStep.revision_of_writes hs hw
      obtain rfl : w' = row := Option.mem_unique hl' hrow
      refine ⟨row', hrow', ?_, fun hzero => absurd hzero (by omega)⟩
      rw [hnext, hrev, hcount, UInt64.ofNat_add, UInt64.add_assoc]
      rfl
    · have hcount : writesTo id (tr ++ [⟨s, c, s'⟩]) = writesTo id tr := by
        simp [writesTo, hw]
      rw [hcount]
      exact ⟨w', (WorkloadStep.lookup_of_not_writes hs hw).trans hl', hrev, hsame⟩

/-- **A write that names the revision of an older read** comes right after it for the row, if fewer
than `2 ^ 64` writes lie between. -/
theorem WorkloadStep.quiet_of_basis {m'' : BudgetStore} (h : Run WorkloadStep m tr m')
    (hs : WorkloadStep m' c m'') (hl : m.workloads.lookup id = some w)
    (hw : WritesRow id ⟨m', c, m''⟩) (hb : c.basis = some (id, w.revision))
    (hfew : writesTo id tr < 2 ^ 64) : writesTo id tr = 0 ∧ m'.workloads.lookup id = some w := by
  obtain ⟨w', hl', hrev, hsame⟩ := WorkloadStep.run_revision h hl
  obtain ⟨row, -, hrow, -, hbasis, -⟩ := WorkloadStep.revision_of_writes hs hw
  obtain rfl : w' = row := Option.mem_unique hl' hrow
  have hsum : w.revision + UInt64.ofNat (writesTo id tr) = w.revision := by
    rw [hb] at hbasis
    exact hrev.symm.trans (Prod.mk.inj (Option.some.inj hbasis)).2.symm
  have hzero : writesTo id tr = 0 := by
    have hnat := congrArg UInt64.toNat hsum
    simp only [UInt64.toNat_add, UInt64.toNat_ofNat'] at hnat
    omega
  exact ⟨hzero, by rw [hl', hsame hzero]⟩

end Runs

/-- **Accepted writes follow the reads they are based on**: a write names the stored revision and
raises it, a write based on an older read finds the row as it was read below `2 ^ 64` writes, and
the owner of a cancellation changes with a swap that names it. -/
theorem writes_follow_reads {m₀ m : BudgetStore} {tr : List (Transition BudgetStore WorkloadCall)}
    (h : Run WorkloadStep m₀ tr m) :
    (∀ t ∈ tr, ∀ id, WritesRow id t → ∃ row row', t.pre.workloads.lookup id = some row ∧
      t.post.workloads.lookup id = some row' ∧ t.label.basis = some (id, row.revision) ∧
      row'.revision = row.revision + 1) ∧
    (∀ l₁ l₂ l₃ t, tr = l₁ ++ (l₂ ++ t :: l₃) → ∃ s, Run WorkloadStep m₀ l₁ s ∧
      ∀ id w, s.workloads.lookup id = some w → WritesRow id t →
        t.label.basis = some (id, w.revision) → writesTo id l₂ < 2 ^ 64 →
        writesTo id l₂ = 0 ∧ t.pre.workloads.lookup id = some w) ∧
    ∀ t ∈ tr, ∀ id w w', t.pre.workloads.lookup id = some w → t.post.workloads.lookup id = some w' →
      w'.cancellationOwner ≠ w.cancellationOwner → WritesRow id t ∧
        ∃ desired status, t.label = .swap desired w.revision status w.cancellationOwner := by
  refine ⟨fun t ht id hw => ?_, ?_, fun t ht id w w' hl hl' hne => ?_⟩
  · obtain ⟨-, -, -, -, hs, -⟩ := h.split_mem ht
    exact WorkloadStep.revision_of_writes hs hw
  · rintro l₁ l₂ l₃ t rfl
    obtain ⟨s, h₁, h₂⟩ := h.of_append
    obtain ⟨hread, hs, -⟩ := h₂.split rfl
    exact ⟨s, h₁, fun id w hl hw hb hfew => WorkloadStep.quiet_of_basis hread hs hl hw hb hfew⟩
  · obtain ⟨-, -, -, -, hs, -⟩ := h.split_mem ht
    exact WorkloadStep.owner_of_change hs hl hl' hne

/-! ## Single runs -/

def newTerms : BudgetTerms :=
  { principalID := "p", workloadID := "w", amountCents := 5, limitCents := 0, attemptToken := "t" }

def oneRow (revision : UInt64) : BudgetStore :=
  { workloads := (∅ : GoMap Workload).insert "w" { requestID := "w", revision } }

/-- A claim from before claims had revisions. -/
def oldClaim : BudgetReservation :=
  { workloadID := "w", principalID := "p", ownershipToken := "other", attempt := 3 }

def withOldClaim : BudgetStore :=
  { oneRow 7 with budgets := (∅ : GoMap BudgetReservation).insert "w" oldClaim }

/-- **Two exceptions**: a refused reservation gives the claim of an older store a revision, and the
largest revision is followed by zero. -/
theorem refused_reservation_normalizes :
    (withOldClaim.budgets.lookup (ofString "w") = some oldClaim ∧
      (reserveAndLinkBudgetClaim withOldClaim newTerms ⟨7, .queued, []⟩ {}).2.error =
        some errOtherBudgetAttempt ∧
      (reserveAndLinkBudgetClaim withOldClaim newTerms ⟨7, .queued, []⟩ {}).1.budgets.lookup
        (ofString "w") = some { oldClaim with revision := 1 }) ∧
    ∃ w : Workload, (reserveAndLinkBudgetClaim (oneRow 18446744073709551615) newTerms
      ⟨18446744073709551615, .queued, []⟩ {}).1.workloads.lookup (ofString "w") = some w ∧
        w.revision = 0 :=
  ⟨⟨by decide +kernel, by decide +kernel, by decide +kernel⟩, _, rfl, by decide +kernel⟩

/-- A cancellation is claimed with the revision that was read; another client, with the same one, is
too late. -/
def cancelThenUpdate : List (BudgetStore → WorkloadCall) :=
  [fun _ => .swap { requestID := "w", cancellationOwner := "alice" } 1 .queued [],
   fun _ => .update (some { requestID := "w", revision := 1 }),
   fun _ => .reserveAndLink newTerms ⟨2, .queued, "alice"⟩ {}]

theorem late_update_refused :
    ((Run.script (fun m c => (WorkloadCall.run m c).1) (oneRow 1) cancelThenUpdate).map
        fun t => decide (WritesRow "w" t)) = [true, false, true] ∧
      ∀ t ∈ Run.script (fun m c => (WorkloadCall.run m c).1) (oneRow 1) cancelThenUpdate,
        ∀ id, WritesRow id t → ∃ row row', t.pre.workloads.lookup id = some row ∧
          t.post.workloads.lookup id = some row' ∧ t.label.basis = some (id, row.revision) ∧
          row'.revision = row.revision + 1 :=
  ⟨by decide +kernel, (writes_follow_reads (Run.of_script _ (fun _ _ _ => rfl) _)).1⟩

/-- The swap that a client makes after reading that revision. -/
def plainSwap (revision : UInt64) : WorkloadCall := .swap { requestID := "w" } revision .queued []

theorem plainSwap_run (revision : UInt64) :
    (plainSwap revision).run (oneRow revision) = (oneRow (revision + 1), true) := by
  have hl : (oneRow revision).workloads.lookup (ofString "w") =
      some { requestID := "w", revision } := AList.lookup_insert _
  have hswap := compareAndSwapWorkload_of_stored (w := { requestID := "w" }) hl nofun
  have hrun : (plainSwap revision).run (oneRow revision) =
      ({ oneRow revision with
          toMemoryStore := (compareAndSwapWorkload (oneRow revision).toMemoryStore
            { requestID := "w" } revision .queued []).1 },
        (compareAndSwapWorkload (oneRow revision).toMemoryStore
          { requestID := "w" } revision .queued []).2.toOption.isSome) := rfl
  rw [hrun, hswap]
  simp only [oneRow, AList.insert_insert, Except.toOption, Option.isSome_some]

theorem writes_unbounded (revision : UInt64) (n : ℕ) :
    ∃ tr, Run WorkloadStep (oneRow revision) tr (oneRow (revision + UInt64.ofNat n)) ∧
      writesTo "w" tr = n := by
  induction n with
  | zero => exact ⟨[], by simpa using Run.nil, rfl⟩
  | succ n ih =>
    obtain ⟨tr, h, hcount⟩ := ih
    have hrun := plainSwap_run (revision + UInt64.ofNat n)
    have hnext : revision + UInt64.ofNat n + 1 = revision + UInt64.ofNat (n + 1) := by
      rw [UInt64.ofNat_add, UInt64.add_assoc]
      rfl
    refine ⟨_, h.snoc (a := plainSwap (revision + UInt64.ofNat n)) ?_, ?_⟩
    · show _ = ((plainSwap (revision + UInt64.ofNat n)).run _).1
      rw [hrun, ← hnext]
    · have hw : WritesRow "w" ⟨oneRow (revision + UInt64.ofNat n),
          plainSwap (revision + UInt64.ofNat n), oneRow (revision + UInt64.ofNat (n + 1))⟩ :=
        ⟨by rw [hrun], revision + UInt64.ofNat n, rfl⟩
      rw [writesTo, List.countP_append, ← writesTo, hcount, List.countP_singleton,
        if_pos (decide_eq_true hw)]

/-- **The revision goes round**: after `2 ^ 64` accepted writes, a write that is based on a read
before all of them is accepted. -/
theorem revision_goes_round :
    ∃ tr, Run WorkloadStep (oneRow 1) tr (oneRow 1) ∧ writesTo "w" tr = 2 ^ 64 ∧
      WritesRow "w" ⟨oneRow 1, plainSwap 1, oneRow 2⟩ := by
  obtain ⟨tr, h, hcount⟩ := writes_unbounded 1 (2 ^ 64)
  have hround : (1 : UInt64) + UInt64.ofNat (2 ^ 64) = 1 := by decide
  exact ⟨tr, h, hcount, by rw [plainSwap_run], 1, rfl⟩

end VramGovernor.Store
