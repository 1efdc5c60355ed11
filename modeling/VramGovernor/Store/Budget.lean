import VramGovernor.Workloads.WorkloadRows

/-!
# Budget claims

A workload has at most one claim on the budget of its principal. A reservation takes it, under a
token of the caller and with the next attempt number; a settlement replaces the reserved amount by
the actual one and a release gives it back, both only for the exact token and attempt. A repeated
reservation with the same terms is answered from the stored claim.

The functions are those of the memory store; sums are those of `int64`, which wrap. `BudgetChange`
says what a call can do to the stored claims.
-/

namespace VramGovernor.Store

open GoString

/-- `BudgetReservationStatus`. -/
inductive BudgetReservationStatus
  | reserved
  | settled
  | released
  deriving DecidableEq

structure BudgetReservation where
  (workloadID principalID : GoString := [])
  (revision attempt : UInt64 := 0)
  ownershipToken : GoString := []
  (reservedCents limitCents : Int64 := 0)
  currency : GoString := []
  actualCents : Int64 := 0
  status : BudgetReservationStatus := .reserved
  (createdAt updatedAt : GoTime := {})
  deriving DecidableEq

def defaultBudgetCurrency : GoString := "USD"

/-- The memory store with its budget claims. -/
structure BudgetStore extends MemoryStore where
  budgets : GoMap BudgetReservation := ∅

/-- What a reservation returns. -/
structure BudgetReply where
  reservation : Option BudgetReservation := none
  workload : Option Workload := none
  (allowed created : Bool := false)
  error : Option GoError := none

/-! ## Reservations -/

/-- The terms of a reservation. -/
structure BudgetTerms where
  (principalID workloadID : GoString)
  (amountCents limitCents : Int64)
  attemptToken : GoString
  deriving DecidableEq

/-- The defaults that a stored claim gets when a reservation finds it. -/
def normalizeBudget (workloadID : GoString) (existing : BudgetReservation) : BudgetReservation :=
  let attempt := if existing.attempt = 0 then 1 else existing.attempt
  { existing with
    revision := if existing.revision = 0 then 1 else existing.revision
    attempt
    ownershipToken :=
      if existing.ownershipToken = [] then "budget:" ++ workloadID ++ ":" ++ sprint attempt.toNat
      else existing.ownershipToken }

/-- The stored claim is the one that a reservation with these terms made. -/
def BudgetReservation.hasTerms (existing : BudgetReservation) (terms : BudgetTerms) : Bool :=
  existing.status = .reserved && existing.workloadID = terms.workloadID &&
    existing.principalID = terms.principalID && existing.ownershipToken = terms.attemptToken &&
    existing.reservedCents = terms.amountCents && existing.limitCents = terms.limitCents &&
    existing.currency = defaultBudgetCurrency

/-- What a claim takes from the budget of a principal. -/
def BudgetReservation.commits (r : BudgetReservation) (principalID : GoString) : Int64 :=
  if r.principalID ≠ principalID then 0
  else
    match r.status with
    | .reserved => r.reservedCents
    | .settled => r.actualCents
    | .released => 0

/-- What is taken already. The order of the map does not matter, as the sum wraps. -/
def committedCents (budgets : GoMap BudgetReservation) (principalID : GoString) : Int64 :=
  (budgets.entries.map fun e => e.2.commits principalID).sum

/-- The limit leaves no room for the amount. -/
def exceedsLimit (budgets : GoMap BudgetReservation) (terms : BudgetTerms) : Bool :=
  0 < terms.limitCents &&
    terms.limitCents < committedCents budgets terms.principalID + terms.amountCents

/-- The claim that a reservation makes. It succeeds the released claim of an earlier attempt. -/
def newBudgetReservation (previous : Option BudgetReservation) (terms : BudgetTerms)
    (now : GoTime) : BudgetReservation :=
  { workloadID := terms.workloadID
    principalID := terms.principalID
    revision := 1
    attempt := match previous with
      | some existing => existing.attempt + 1
      | none => 1
    ownershipToken := terms.attemptToken
    reservedCents := terms.amountCents
    limitCents := terms.limitCents
    currency := defaultBudgetCurrency
    createdAt := match previous with
      | some existing => existing.createdAt
      | none => now.utc
    updatedAt := now.utc }

/-- The claim of the workload, unless it was released. -/
def activeBudget (budgets : GoMap BudgetReservation) (workloadID : GoString) :
    Option BudgetReservation :=
  (budgets.lookup workloadID).filter fun existing => existing.status ≠ .released

def errEmptyBudgetToken : GoError := errWorkloadConflict.wrapf "empty budget attempt token"

def errOtherBudgetAttempt : GoError :=
  errWorkloadConflict.wrapf "active budget reservation belongs to another attempt"

def reserveBudgetClaim (m : BudgetStore) (terms : BudgetTerms) (now : GoTime) :
    BudgetStore × BudgetReply :=
  if isBlank terms.attemptToken then (m, { error := some errEmptyBudgetToken })
  else
    match activeBudget m.budgets terms.workloadID with
    | some existing =>
      let existing := normalizeBudget terms.workloadID existing
      let m := { m with budgets := m.budgets.insert terms.workloadID existing }
      if !existing.hasTerms terms then
        (m, { reservation := some existing, error := some errOtherBudgetAttempt })
      else (m, { reservation := some existing, allowed := true })
    | none =>
      if exceedsLimit m.budgets terms then (m, {})
      else
        let reservation := newBudgetReservation (m.budgets.lookup terms.workloadID) terms now
        ({ m with budgets := m.budgets.insert terms.workloadID reservation },
          { reservation := some reservation, allowed := true, created := true })

/-- What the caller of a linked reservation expects of the row. -/
structure ExpectedRow where
  revision : UInt64
  status : WorkloadStatus
  cancellationOwner : GoString

/-- The row is not the one that the caller read, or is of another principal. -/
def rowConflicts (workload : Workload) (terms : BudgetTerms) (expected : ExpectedRow) : Bool :=
  workload.revision ≠ expected.revision || workload.status ≠ expected.status ||
    workload.cancellationOwner ≠ expected.cancellationOwner ||
    workload.requestPrincipalID ≠ [] && workload.requestPrincipalID ≠ terms.principalID

/-- The row is linked to a claim with other terms. -/
def linkConflicts (workload : Workload) (terms : BudgetTerms) : Bool :=
  workload.budgetReservationToken ≠ [] &&
    (workload.budgetReservationToken ≠ terms.attemptToken ||
      workload.budgetReservationCents ≠ 0 && workload.budgetReservationCents ≠ terms.amountCents ||
      workload.budgetReservationLimitCents ≠ 0 &&
        workload.budgetReservationLimitCents ≠ terms.limitCents ||
      workload.budgetReservationCurrency ≠ [] &&
        workload.budgetReservationCurrency ≠ defaultBudgetCurrency)

def linkBudget (workload : Workload) (reservation : BudgetReservation) (now : GoTime) : Workload :=
  { workload with
    budgetReservationToken := reservation.ownershipToken
    budgetReservationAttempt := reservation.attempt
    budgetReservationCents := reservation.reservedCents
    budgetReservationLimitCents := reservation.limitCents
    budgetReservationCurrency := reservation.currency
    revision := workload.revision + 1
    updatedAt := now.utc }

def reserveAndLinkBudgetClaim (m : BudgetStore) (terms : BudgetTerms) (expected : ExpectedRow)
    (now : GoTime) : BudgetStore × BudgetReply :=
  if isBlank terms.attemptToken then (m, { error := some errEmptyBudgetToken })
  else
    match m.workloads.lookup terms.workloadID with
    | none => (m, { error := some errWorkloadConflict })
    | some workload =>
      if rowConflicts workload terms expected || linkConflicts workload terms then
        (m, { error := some errWorkloadConflict })
      else
        match activeBudget m.budgets terms.workloadID with
        | some existing =>
          let existing := normalizeBudget terms.workloadID existing
          let m := { m with budgets := m.budgets.insert terms.workloadID existing }
          if !existing.hasTerms terms || workload.budgetReservationAttempt ≠ 0 &&
              workload.budgetReservationAttempt ≠ existing.attempt then
            (m, { reservation := some existing, error := some errOtherBudgetAttempt })
          else
            let updated := linkBudget workload existing now
            ({ m with workloads := m.workloads.insert terms.workloadID updated },
              { reservation := some existing, workload := some updated, allowed := true })
        | none =>
          if exceedsLimit m.budgets terms then (m, { workload := some workload })
          else
            let reservation := newBudgetReservation (m.budgets.lookup terms.workloadID) terms now
            let updated := linkBudget workload reservation now
            ({ m with
                budgets := m.budgets.insert terms.workloadID reservation
                workloads := m.workloads.insert terms.workloadID updated },
              { reservation := some reservation, workload := some updated, allowed := true,
                created := true })

/-! ## Settlements and releases -/

/-- The caller names the token and the attempt of the claim. -/
def BudgetReservation.ownedBy (r : BudgetReservation) (token : GoString)
    (attempt : UInt64) : Bool :=
  token ≠ [] && r.ownershipToken = token && attempt ≠ 0 && r.attempt = attempt

def settleBudgetClaim (m : BudgetStore) (workloadID ownershipToken : GoString) (attempt : UInt64)
    (actualCents : Int64) (now : GoTime) : BudgetStore × Except GoError BudgetReservation :=
  match m.budgets.lookup workloadID with
  | none => (m, .error errNotFound)
  | some reservation =>
    if !reservation.ownedBy ownershipToken attempt then (m, .error errWorkloadConflict)
    else
      let actualCents := if actualCents < 0 then 0 else actualCents
      match reservation.status with
      | .settled =>
        if reservation.actualCents = actualCents then (m, .ok reservation)
        else (m, .error errWorkloadConflict)
      | .released => (m, .error errWorkloadConflict)
      | .reserved =>
        let settled := { reservation with
          actualCents
          status := .settled
          revision := reservation.revision + 1
          updatedAt := now.utc }
        ({ m with budgets := m.budgets.insert workloadID settled }, .ok settled)

def releaseBudgetClaim (m : BudgetStore) (workloadID ownershipToken : GoString) (attempt : UInt64)
    (now : GoTime) : BudgetStore × Option GoError :=
  match m.budgets.lookup workloadID with
  | none => (m, none)
  | some reservation =>
    if !reservation.ownedBy ownershipToken attempt then (m, some errWorkloadConflict)
    else
      match reservation.status with
      | .released => (m, none)
      | .settled => (m, some errWorkloadConflict)
      | .reserved =>
        let released := { reservation with
          revision := reservation.revision + 1
          status := .released
          updatedAt := now.utc }
        ({ m with budgets := m.budgets.insert workloadID released }, none)

/-! ## Calls -/

/-- A call on the claims, or anything else that happens to the store. -/
inductive BudgetCall
  | reserve (terms : BudgetTerms) (now : GoTime)
  | reserveAndLink (terms : BudgetTerms) (expected : ExpectedRow) (now : GoTime)
  | settle (workloadID token : GoString) (attempt : UInt64) (actualCents : Int64) (now : GoTime)
  | release (workloadID token : GoString) (attempt : UInt64) (now : GoTime)
  | other (store : MemoryStore)

open BudgetCall

def BudgetCall.exec (m : BudgetStore) : BudgetCall → BudgetStore
  | .reserve terms now => (reserveBudgetClaim m terms now).1
  | .reserveAndLink terms expected now => (reserveAndLinkBudgetClaim m terms expected now).1
  | .settle workloadID token attempt actualCents now =>
    (settleBudgetClaim m workloadID token attempt actualCents now).1
  | .release workloadID token attempt now => (releaseBudgetClaim m workloadID token attempt now).1
  | .other store => { m with toMemoryStore := store }

def BudgetStep (m : BudgetStore) (c : BudgetCall) (m' : BudgetStore) : Prop := m' = c.exec m

def BudgetCall.reply (m : BudgetStore) : BudgetCall → Option (BudgetTerms × BudgetReply)
  | .reserve terms now => some (terms, (reserveBudgetClaim m terms now).2)
  | .reserveAndLink terms expected now =>
    some (terms, (reserveAndLinkBudgetClaim m terms expected now).2)
  | _ => none

/-- What a call does to the claims. -/
inductive BudgetChange (m m' : BudgetStore) (c : BudgetCall) : Prop
  /-- Nothing, and no reservation is allowed. -/
  | keep (hb : m'.budgets = m.budgets) (hr : ∀ terms reply, c.reply m = some (terms, reply) →
      reply.allowed = false ∧ reply.created = false)
  /-- A reservation finds a claim, which gets its defaults. -/
  | find (terms : BudgetTerms) (reply : BudgetReply) (existing : BudgetReservation)
      (hc : c.reply m = some (terms, reply))
      (hl : m.budgets.lookup terms.workloadID = some existing) (hs : existing.status ≠ .released)
      (hb : m'.budgets =
        m.budgets.insert terms.workloadID (normalizeBudget terms.workloadID existing))
      (ha : reply.allowed = true →
        (normalizeBudget terms.workloadID existing).hasTerms terms = true)
      (hn : reply.created = false)
  /-- A reservation makes a claim. -/
  | reserve (terms : BudgetTerms) (reply : BudgetReply) (now : GoTime)
      (hc : c.reply m = some (terms, reply)) (ht : isBlank terms.attemptToken = false)
      (hl : activeBudget m.budgets terms.workloadID = none)
      (hx : exceedsLimit m.budgets terms = false)
      (hb : m'.budgets = m.budgets.insert terms.workloadID
        (newBudgetReservation (m.budgets.lookup terms.workloadID) terms now))
      (hv : reply.reservation =
        some (newBudgetReservation (m.budgets.lookup terms.workloadID) terms now))
      (ha : reply.allowed = true) (hn : reply.created = true)
  /-- The claim is settled. -/
  | settle (workloadID token : GoString) (attempt : UInt64) (actualCents : Int64) (now : GoTime)
      (r : BudgetReservation) (hc : c = .settle workloadID token attempt actualCents now)
      (hl : m.budgets.lookup workloadID = some r) (hs : r.status = .reserved)
      (ho : r.ownedBy token attempt = true)
      (hb : m'.budgets = m.budgets.insert workloadID { r with
        actualCents := if actualCents < 0 then 0 else actualCents
        status := .settled
        revision := r.revision + 1
        updatedAt := now.utc })
  /-- The claim is released. -/
  | release (workloadID token : GoString) (attempt : UInt64) (now : GoTime)
      (r : BudgetReservation) (hc : c = .release workloadID token attempt now)
      (hl : m.budgets.lookup workloadID = some r) (hs : r.status = .reserved)
      (ho : r.ownedBy token attempt = true)
      (hb : m'.budgets = m.budgets.insert workloadID { r with
        revision := r.revision + 1
        status := .released
        updatedAt := now.utc })

section Change

variable {m m' : BudgetStore} {c : BudgetCall}

theorem activeBudget_eq_some {budgets : GoMap BudgetReservation} {w : GoString}
    {r : BudgetReservation} :
    activeBudget budgets w = some r ↔ budgets.lookup w = some r ∧ r.status ≠ .released := by
  simp [activeBudget, Option.filter_eq_some_iff]

variable (m) (terms : BudgetTerms)

theorem budgetChange_reserve (now : GoTime) :
    BudgetChange m (reserveBudgetClaim m terms now).1 (.reserve terms now) := by
  have hreply : (reserve terms now).reply m =
      some (terms, (reserveBudgetClaim m terms now).2) := rfl
  revert hreply
  fun_cases reserveBudgetClaim m terms now with
  | case1 | case4 => exact fun hreply => .keep rfl (by simp [hreply])
  | case2 _ existing ha =>
    obtain ⟨hl, hs⟩ := activeBudget_eq_some.1 ha
    exact fun hreply => .find terms _ existing hreply hl hs rfl (by simp) rfl
  | case3 _ existing ha _ _ hterms =>
    obtain ⟨hl, hs⟩ := activeBudget_eq_some.1 ha
    exact fun hreply => .find terms _ existing hreply hl hs rfl (fun _ => by simpa using hterms) rfl
  | case5 ht ha hx =>
    rw [Bool.not_eq_true] at ht hx
    exact fun hreply => .reserve terms _ now hreply ht ha hx rfl rfl rfl rfl

theorem budgetChange_reserveAndLink (expected : ExpectedRow) (now : GoTime) :
    BudgetChange m (reserveAndLinkBudgetClaim m terms expected now).1
      (.reserveAndLink terms expected now) := by
  have hreply : (reserveAndLink terms expected now).reply m =
      some (terms, (reserveAndLinkBudgetClaim m terms expected now).2) := rfl
  revert hreply
  fun_cases reserveAndLinkBudgetClaim m terms expected now with
  | case1 | case2 | case3 | case6 => exact fun hreply => .keep rfl (by simp [hreply])
  | case4 _ _ _ _ existing ha =>
    obtain ⟨hl, hs⟩ := activeBudget_eq_some.1 ha
    exact fun hreply => .find terms _ existing hreply hl hs rfl (by simp) rfl
  | case5 _ _ _ _ existing ha _ _ hterms =>
    obtain ⟨hl, hs⟩ := activeBudget_eq_some.1 ha
    simp only [Bool.not_eq_true, Bool.or_eq_false_iff, Bool.not_eq_false'] at hterms
    exact fun hreply => .find terms _ existing hreply hl hs rfl (fun _ => hterms.1) rfl
  | case7 ht _ _ _ ha hx =>
    rw [Bool.not_eq_true] at ht hx
    exact fun hreply => .reserve terms _ now hreply ht ha hx rfl rfl rfl rfl

variable {m}

variable (m) (w token : GoString) (attempt : UInt64)

variable (actualCents : Int64) (now : GoTime)

theorem budgetChange_settle :
    BudgetChange m (settleBudgetClaim m w token attempt actualCents now).1
      (.settle w token attempt actualCents now) := by
  fun_cases settleBudgetClaim m w token attempt actualCents now with
  | case1 | case2 | case3 | case4 | case5 => exact .keep rfl (by simp [reply])
  | case6 r hl ho _ hs =>
    exact .settle w token attempt actualCents now r rfl hl hs (by simpa using ho) rfl

theorem budgetChange_release (now : GoTime) :
    BudgetChange m (releaseBudgetClaim m w token attempt now).1 (.release w token attempt now) := by
  fun_cases releaseBudgetClaim m w token attempt now with
  | case1 | case2 | case3 | case4 => exact .keep rfl (by simp [reply])
  | case5 r hl ho hs => exact .release w token attempt now r rfl hl hs (by simpa using ho) rfl

theorem BudgetStep.change (h : BudgetStep m c m') : BudgetChange m m' c := by
  subst h
  cases c with
  | reserve terms now => exact budgetChange_reserve m terms now
  | reserveAndLink terms expected now => exact budgetChange_reserveAndLink m terms expected now
  | settle w token attempt actualCents now =>
    exact budgetChange_settle m w token attempt actualCents now
  | release w token attempt now => exact budgetChange_release m w token attempt now
  | other store => exact .keep rfl (by simp [reply])

end Change

end VramGovernor.Store
