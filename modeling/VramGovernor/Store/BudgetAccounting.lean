import Mathlib.Algebra.Order.BigOperators.Group.List
import VramGovernor.Store.Budget
import VramGovernor.Foundations.GoInt
import VramGovernor.Foundations.Run

/-!
# What a run does to the budget of a principal and to the claims of a workload

* `allowed_within_limit`: a reservation that makes a claim is within the limit exactly when the sum
  is below `2 ^ 63`, where the sum of the code does not wrap (`wrapped_sum_allowed`). An allowed
  reservation that makes no claim repeats an earlier one that did.
* `budget_claims_once`: the attempts of a workload are numbered upwards, each is settled or released
  once, and a settlement is final. The numbers wrap after `2 ^ 64` reservations of one workload
  (`attempts_wrap`). Both orders come from one clock of the claim, `claimClock`.
-/

namespace VramGovernor.Store

open GoString GoMap BudgetReservation BudgetCall

variable {m m' s : BudgetStore} {c : BudgetCall} {tr : List (Transition BudgetStore BudgetCall)}
  {store : MemoryStore} {w : GoString}

/-! ## The exact sums -/

def outstandingCents (budgets : GoMap BudgetReservation) (principalID : GoString) : ℤ :=
  (budgets.entries.map fun e =>
    if e.2.principalID = principalID ∧ e.2.status = .reserved then e.2.reservedCents.toInt
    else 0).sum

def settledCents (budgets : GoMap BudgetReservation) (principalID : GoString) : ℤ :=
  (budgets.entries.map fun e =>
    if e.2.principalID = principalID ∧ e.2.status = .settled then e.2.actualCents.toInt else 0).sum

/-- What the principal would have taken with the reservation. -/
def exactCents (m : BudgetStore) (terms : BudgetTerms) : ℤ :=
  outstandingCents m.budgets terms.principalID + settledCents m.budgets terms.principalID +
    terms.amountCents.toInt

theorem commits_toInt (r : BudgetReservation) (p : GoString) : (r.commits p).toInt =
      (if r.principalID = p ∧ r.status = .reserved then r.reservedCents.toInt else 0) +
        if r.principalID = p ∧ r.status = .settled then r.actualCents.toInt else 0 := by
  unfold commits
  by_cases hp : r.principalID = p
  · cases hs : r.status <;> simp [hp]
  · simp [hp]

/-- The sum of the code is the exact one, wrapped. -/
theorem committedCents_toInt (budgets : GoMap BudgetReservation) (p : GoString) :
    (committedCents budgets p).toInt =
      (outstandingCents budgets p + settledCents budgets p).bmod (2 ^ 64) := by
  rw [committedCents, toInt_sum, List.map_map, outstandingCents, settledCents, ← List.sum_map_add]
  simp only [Function.comp_def, commits_toInt]

theorem exceedsLimit_eq (m : BudgetStore) (terms : BudgetTerms) : exceedsLimit m.budgets terms =
      decide (0 < terms.limitCents ∧
        terms.limitCents.toInt < (exactCents m terms).bmod (2 ^ 64)) := by
  have hsum : (committedCents m.budgets terms.principalID + terms.amountCents).toInt =
      (exactCents m terms).bmod (2 ^ 64) := by
    rw [Int64.toInt_add, committedCents_toInt, Int.bmod_add_bmod]
    rfl
  rw [exceedsLimit, Bool.decide_and, ← hsum]
  simp only [Int64.lt_iff_toInt_lt]

def BudgetReservation.NonNegative (r : BudgetReservation) : Prop :=
  0 ≤ r.reservedCents.toInt ∧ 0 ≤ r.actualCents.toInt

theorem exactCents_nonneg {terms : BudgetTerms}
    (hm : ∀ k r, m.budgets.lookup k = some r → r.NonNegative) (ha : 0 ≤ terms.amountCents.toInt) :
    0 ≤ exactCents m terms := by
  have hrow : ∀ e ∈ m.budgets.entries, e.2.NonNegative := fun e he =>
    hm e.1 e.2 ((rangeOrder_entries m.budgets).mem_iff.1 he)
  have ho : 0 ≤ outstandingCents m.budgets terms.principalID := by
    refine List.sum_nonneg fun x hx => ?_
    obtain ⟨e, he, rfl⟩ := List.mem_map.1 hx
    have := (hrow e he).1
    split_ifs <;> omega
  have hs : 0 ≤ settledCents m.budgets terms.principalID := by
    refine List.sum_nonneg fun x hx => ?_
    obtain ⟨e, he, rfl⟩ := List.mem_map.1 hx
    have := (hrow e he).2
    split_ifs <;> omega
  unfold exactCents
  omega

/-- A sum that does not wrap is compared as it is, and one that wraps is above every limit. -/
theorem exactCents_le_iff {terms : BudgetTerms} (hx : exceedsLimit m.budgets terms = false)
    (hl : 0 < terms.limitCents) (h0 : 0 ≤ exactCents m terms) :
    exactCents m terms ≤ terms.limitCents.toInt ↔ exactCents m terms < 2 ^ 63 := by
  rw [exceedsLimit_eq, decide_eq_false_iff_not, not_and, not_lt] at hx
  have hle := hx hl
  have hmax := Int64.toInt_lt terms.limitCents
  constructor
  · intro h
    omega
  · intro h
    rwa [Int.bmod_eq_of_le (by omega) (by omega)] at hle

/-! ## Reservations within the limit -/

/-- No reservation of the call is of a negative amount. -/
def BudgetCall.NonNegative : BudgetCall → Prop
  | .reserve terms _ => 0 ≤ terms.amountCents
  | .reserveAndLink terms _ _ => 0 ≤ terms.amountCents
  | _ => True

instance : DecidablePred BudgetCall.NonNegative
  | .reserve terms _ => inferInstanceAs (Decidable (0 ≤ terms.amountCents))
  | .reserveAndLink terms _ _ => inferInstanceAs (Decidable (0 ≤ terms.amountCents))
  | .settle .. => isTrue trivial
  | .release .. => isTrue trivial
  | .other _ => isTrue trivial

theorem BudgetCall.NonNegative.amount (h : c.NonNegative) {terms : BudgetTerms}
    {reply : BudgetReply} (hr : c.reply m = some (terms, reply)) : 0 ≤ terms.amountCents.toInt := by
  have hle : (0 : Int64) ≤ terms.amountCents := by
    cases c <;> simp only [BudgetCall.reply, Option.some.injEq, Prod.mk.injEq, reduceCtorEq] at hr
    · exact hr.1 ▸ h
    · exact hr.1 ▸ h
  exact Int64.le_iff_toInt_le.1 hle

/-- The call is answered with a claim made for the terms. -/
def Reserves (terms : BudgetTerms) (t : Transition BudgetStore BudgetCall) : Prop :=
  ∃ reply, t.label.reply t.pre = some (terms, reply) ∧ reply.allowed = true ∧ reply.created = true

def BudgetReservation.terms (r : BudgetReservation) : BudgetTerms :=
  { principalID := r.principalID
    workloadID := r.workloadID
    amountCents := r.reservedCents
    limitCents := r.limitCents
    attemptToken := r.ownershipToken }

variable {r : BudgetReservation} {token k : GoString} {t : Transition BudgetStore BudgetCall}
  {n : ℕ}

variable {terms : BudgetTerms}

theorem BudgetReservation.terms_of_hasTerms (h : r.hasTerms terms = true) :
    r.status = .reserved ∧ r.terms = terms := by
  simp only [hasTerms, Bool.and_eq_true, decide_eq_true_eq] at h
  obtain ⟨⟨⟨⟨⟨⟨hs, hw⟩, hp⟩, ho⟩, ha⟩, hl⟩, -⟩ := h
  exact ⟨hs, by simp [BudgetReservation.terms, hw, hp, ho, ha, hl]⟩

/-- The amounts of every claim are not negative, and an outstanding one was made by a reservation of
the run. -/
structure Accounted (tr : List (Transition BudgetStore BudgetCall)) (r : BudgetReservation) :
    Prop where
  nonneg : r.NonNegative
  token : r.ownershipToken ≠ []
  made : r.status = .reserved → ∃ t ∈ tr, Reserves r.terms t

theorem Accounted.append (h : Accounted tr r) (tr' : List (Transition BudgetStore BudgetCall)) :
    Accounted (tr ++ tr') r :=
  ⟨h.nonneg, h.token, fun hs => by
    obtain ⟨t, ht, hr⟩ := h.made hs
    exact ⟨t, List.mem_append_left _ ht, hr⟩⟩

theorem normalizeBudget_terms (k : GoString) (h : r.ownershipToken ≠ []) :
    (normalizeBudget k r).terms = r.terms := by
  simp [normalizeBudget, terms, h]

theorem Accounted.normalize (h : Accounted tr r) (k : GoString) :
    Accounted tr (normalizeBudget k r) :=
  ⟨h.nonneg, by simp [normalizeBudget, h.token], by
    rw [normalizeBudget_terms k h.token]
    exact h.made⟩

theorem ne_nil_of_isBlank_eq_false (h : isBlank token = false) : token ≠ [] := by
  rintro rfl
  exact absurd h (by decide)

theorem forall_lookup_insert {V : Type*} {P : V → Prop} {t : GoMap V} {v : V}
    (ht : ∀ k v, t.lookup k = some v → P v) (hv : P v) :
    ∀ k' v', (t.insert k v).lookup k' = some v' → P v' := by
  intro k' v' h
  rcases of_lookup_insert h with ⟨-, rfl⟩ | ⟨-, h⟩
  · exact hv
  · exact ht k' v' h

theorem accounted_step (hm : ∀ k r, m.budgets.lookup k = some r → Accounted tr r)
    (h : BudgetStep m c m') (hc : c.NonNegative) :
    ∀ k r, m'.budgets.lookup k = some r → Accounted (tr ++ [⟨m, c, m'⟩]) r := by
  have hm' : ∀ k r, m.budgets.lookup k = some r → Accounted (tr ++ [⟨m, c, m'⟩]) r :=
    fun k r hr => (hm k r hr).append _
  cases h.change with
  | keep hb => rwa [hb]
  | find terms reply existing hr hl hs hb =>
    rw [hb]
    exact forall_lookup_insert hm' ((hm' _ _ hl).normalize _)
  | reserve terms reply now hr ht hl hx hb hv ha hn =>
    rw [hb]
    refine forall_lookup_insert hm' ⟨⟨hc.amount hr, le_refl _⟩, ne_nil_of_isBlank_eq_false ht, ?_⟩
    intro
    exact ⟨_, List.mem_concat_self, reply, hr, ha, hn⟩
  | settle k token attempt actual now r hc hl hs ho hb =>
    rw [hb]
    have hr := hm' _ _ hl
    refine forall_lookup_insert hm' ⟨⟨hr.nonneg.1, ?_⟩, hr.token, by simp⟩
    split_ifs with h0
    · exact le_refl _
    · rw [Int64.lt_iff_toInt_lt] at h0
      exact not_lt.1 h0
  | release k token attempt now r hc hl hs ho hb =>
    rw [hb]
    have hr := hm' _ _ hl
    exact forall_lookup_insert hm' ⟨hr.nonneg, hr.token, by simp⟩

theorem accounted_run (h : Run BudgetStep { toMemoryStore := store } tr s)
    (hn : ∀ t ∈ tr, t.label.NonNegative) : ∀ k r, s.budgets.lookup k = some r → Accounted tr r := by
  induction h with
  | nil =>
    intro k r hr
    exact absurd hr (by simp)
  | snoc _ hs ih =>
    exact accounted_step (ih fun t ht => hn t (List.mem_append_left _ ht)) hs
      (hn _ List.mem_concat_self)

theorem exceedsLimit_of_reserves (h : BudgetStep m c m')
    (hr : Reserves terms ⟨m, c, m'⟩) : exceedsLimit m.budgets terms = false := by
  obtain ⟨reply, hr, -, hn⟩ := hr
  have hcreated : ∀ terms' reply', c.reply m = some (terms', reply') → reply'.created = true := by
    intro terms' reply' h'
    obtain ⟨-, rfl⟩ := Prod.mk.inj (Option.mem_unique hr h')
    exact hn
  cases h.change with
  | keep hb hk => exact absurd (hk _ _ hr).2 (by simp [hn])
  | find terms' reply' existing hr' _ _ _ _ hn' => exact absurd (hcreated _ _ hr') (by simp [hn'])
  | reserve terms' reply' now hr' ht hl hx =>
    obtain ⟨rfl, -⟩ := Prod.mk.inj (Option.mem_unique hr hr')
    exact hx
  | settle _ _ _ _ _ _ hc | release _ _ _ _ _ hc => simp [hc, BudgetCall.reply] at hr

/-- An allowed reservation either makes its claim or repeats one of the run. -/
theorem reserves_of_allowed (hm : ∀ k r, m.budgets.lookup k = some r → Accounted tr r)
    (h : BudgetStep m c m') {reply : BudgetReply}
    (hr : c.reply m = some (terms, reply)) (ha : reply.allowed = true) :
    if reply.created then Reserves terms ⟨m, c, m'⟩ else ∃ t ∈ tr, Reserves terms t := by
  split_ifs with hn
  · exact ⟨reply, hr, ha, hn⟩
  cases h.change with
  | keep hb hk => exact absurd (hk _ _ hr).1 (by simp [ha])
  | find terms' reply' existing hr' hl hs hb ha' =>
    obtain ⟨rfl, rfl⟩ := Prod.mk.inj (Option.mem_unique hr hr')
    have hacc := (hm _ _ hl).normalize terms.workloadID
    obtain ⟨hstatus, hterms⟩ := terms_of_hasTerms (ha' ha)
    rw [← hterms]
    exact hacc.made hstatus
  | reserve terms' reply' now hr' ht hl hx hb hv ha' hn' =>
    obtain ⟨rfl, rfl⟩ := Prod.mk.inj (Option.mem_unique hr hr')
    exact absurd hn' hn
  | settle _ _ _ _ _ _ hc | release _ _ _ _ _ hc => simp [hc, BudgetCall.reply] at hr

/-- The bound at a call of a run that makes a claim. -/
theorem exactCents_le_iff_of_reserves (h : Run BudgetStep { toMemoryStore := store } tr s)
    (hn : ∀ t ∈ tr, t.label.NonNegative) (ht : t ∈ tr) {terms : BudgetTerms} (hr : Reserves terms t)
    (hl : 0 < terms.limitCents) :
    exactCents t.pre terms ≤ terms.limitCents.toInt ↔ exactCents t.pre terms < 2 ^ 63 := by
  obtain ⟨l₁, l₂, rfl, hpre, hstep, -⟩ := h.split_mem ht
  have hacc := accounted_run hpre fun u hu => hn u (List.mem_append_left _ hu)
  have hamount : 0 ≤ terms.amountCents.toInt := by
    obtain ⟨reply, hreply, -⟩ := hr
    exact (hn t ht).amount hreply
  exact exactCents_le_iff (exceedsLimit_of_reserves hstep hr) hl
    (exactCents_nonneg (fun k r hk => (hacc k r hk).nonneg) hamount)

/-- **Allowed reservations.** An allowed reservation makes its claim or repeats one that was made.
The call that makes it is within the limit exactly if the sum is below `2 ^ 63`. -/
theorem allowed_within_limit (h : Run BudgetStep { toMemoryStore := store } tr s)
    (hn : ∀ t ∈ tr, t.label.NonNegative) {l₁ l₂ : List (Transition BudgetStore BudgetCall)}
    {t : Transition BudgetStore BudgetCall} (ht : tr = l₁ ++ t :: l₂) {terms : BudgetTerms}
    {reply : BudgetReply} (hr : t.label.reply t.pre = some (terms, reply))
    (ha : reply.allowed = true) (hl : 0 < terms.limitCents) :
    ∃ t₀ : Transition BudgetStore BudgetCall,
      (if reply.created then t₀ = t else t₀ ∈ l₁) ∧ Reserves terms t₀ ∧
      (outstandingCents t₀.pre.budgets terms.principalID +
            settledCents t₀.pre.budgets terms.principalID + terms.amountCents.toInt ≤
          terms.limitCents.toInt ↔
        outstandingCents t₀.pre.budgets terms.principalID +
            settledCents t₀.pre.budgets terms.principalID + terms.amountCents.toInt < 2 ^ 63) := by
  obtain ⟨hpre, hstep, -⟩ := h.split ht
  have hacc := accounted_run hpre fun u hu => hn u (ht ▸ List.mem_append_left _ hu)
  have hres := reserves_of_allowed hacc hstep hr ha
  have hbound := fun (u : Transition BudgetStore BudgetCall) (hu : u ∈ tr)
    (hru : Reserves terms u) =>
    exactCents_le_iff_of_reserves h hn hu hru hl
  split_ifs at hres with hcr
  · exact ⟨t, by simp [hcr], hres, hbound t (by simp [ht]) hres⟩
  · obtain ⟨t₀, ht₀, hr₀⟩ := hres
    exact ⟨t₀, by simpa [hcr] using ht₀, hr₀, hbound t₀ (by simp [ht, ht₀]) hr₀⟩

/-- A reservation by the principal `p` under a token of the workload's name. -/
def sampleTerms (workloadID : GoString) (amountCents limitCents : Int64) : BudgetTerms :=
  { principalID := "p", workloadID, amountCents, limitCents, attemptToken := workloadID }

theorem budgetRun_script (calls : List BudgetCall) :
    Run BudgetStep {} (Run.script exec {} (calls.map fun c _ => c))
      (Run.afterScript exec {} (calls.map fun c _ => c)) := by
  refine Run.of_script _ ?_ _
  intro a ha s
  rfl

/-- A reservation of 4 and its repetition, under a limit of 10. -/
theorem repeated_reservation_within_limit :
    ∃ t₀ : Transition BudgetStore BudgetCall, Reserves (sampleTerms "w" 4 10) t₀ ∧
      (outstandingCents t₀.pre.budgets "p" + settledCents t₀.pre.budgets "p" + 4 ≤ 10 ↔
        outstandingCents t₀.pre.budgets "p" + settledCents t₀.pre.budgets "p" + 4 < 2 ^ 63) := by
  have hrun := budgetRun_script
    [.reserve (sampleTerms "w" 4 10) {}, .reserve (sampleTerms "w" 4 10) {}]
  obtain ⟨t₀, -, hr, hb⟩ := allowed_within_limit hrun (by decide)
    (List.singleton_append.symm : _ = [_] ++ _ :: []) rfl rfl (by decide)
  exact ⟨t₀, hr, hb⟩

/-- **The sum of the code wraps.** After a reservation of `2 ^ 63 - 1` cents without a limit, one of
a single cent is allowed under a limit of 10. -/
theorem wrapped_sum_allowed : ∃ tr s, Run BudgetStep {} tr s ∧ (∀ t ∈ tr, t.label.NonNegative) ∧
      ∃ t ∈ tr, Reserves (sampleTerms "v" 1 10) t ∧
        outstandingCents t.pre.budgets "p" + settledCents t.pre.budgets "p" + 1 = 2 ^ 63 := by
  refine ⟨_, _, budgetRun_script [.reserve (sampleTerms "w" Int64.maxValue 0) {},
    .reserve (sampleTerms "v" 1 10) {}], by decide, _, List.mem_cons_of_mem _ (by
      exact List.mem_singleton.2 rfl), ⟨_, rfl, ?_, ?_⟩, ?_⟩
  · decide
  · decide
  · decide

/-! ## The clock of a claim -/

/-- The attempt of the reservation that the call makes for the workload. -/
def reservedAttempt (w : GoString) (t : Transition BudgetStore BudgetCall) : Option UInt64 :=
  (t.label.reply t.pre).bind fun (terms, reply) =>
    if terms.workloadID = w ∧ reply.created then reply.reservation.map (·.attempt) else none

/-- The attempt that the call settles or releases. -/
def finishedAttempt (w : GoString) (t : Transition BudgetStore BudgetCall) : Option UInt64 :=
  (t.post.budgets.lookup w).bind fun r =>
    if r.status ≠ .reserved ∧ (t.pre.budgets.lookup w).map (·.status) ≠ some r.status then
      some r.attempt
    else none

def BudgetReservation.clock (r : BudgetReservation) : ℕ :=
  2 * r.attempt.toNat + if r.status = .reserved then 0 else 1

/-- The time of the claim: each attempt is outstanding at one instant, and finished at the next. -/
def claimClock (w : GoString) (m : BudgetStore) : ℕ :=
  (m.budgets.lookup w).elim 0 BudgetReservation.clock

/-- The number of reservations that a run made for the workload, as its claim has it. -/
def Numbered (w : GoString) (n : ℕ) (m : BudgetStore) : Prop :=
  (m.budgets.lookup w).elim (n = 0) fun r => r.attempt.toNat = n ∧ n ≠ 0

/-- What a call shows of the claim of a workload that has had `n` reservations. -/
structure ClaimStep (w : GoString) (n : ℕ) (t : Transition BudgetStore BudgetCall) : Prop where
  numbered : Numbered w (n + (reservedAttempt w t).toList.length) t.post
  clock_le : claimClock w t.pre ≤ claimClock w t.post
  reserved : ∀ a, reservedAttempt w t = some a →
    claimClock w t.pre < 2 * a.toNat ∧ 2 * a.toNat ≤ claimClock w t.post
  finished : ∀ a, finishedAttempt w t = some a →
    claimClock w t.pre < 2 * a.toNat + 1 ∧ 2 * a.toNat + 1 ≤ claimClock w t.post

theorem claimStep_of_same {t : Transition BudgetStore BudgetCall} {n : ℕ}
    (hn : Numbered w n t.pre) (hr : reservedAttempt w t = none)
    (h : (t.post.budgets.lookup w).map (fun r => (r.status, r.attempt)) =
      (t.pre.budgets.lookup w).map fun r => (r.status, r.attempt)) : ClaimStep w n t := by
  cases hpre : t.pre.budgets.lookup w <;> cases hpost : t.post.budgets.lookup w <;>
    simp only [hpre, hpost, Option.map_some, Option.map_none, Option.some.injEq, Prod.mk.injEq,
      reduceCtorEq] at h
  · constructor <;> simp_all [Numbered, claimClock, finishedAttempt]
  · constructor <;> simp_all [Numbered, claimClock, finishedAttempt, clock]

theorem reservedAttempt_of_not_created
    (h : ∀ terms reply, t.label.reply t.pre = some (terms, reply) → reply.created = false) :
    reservedAttempt w t = none := by
  unfold reservedAttempt
  cases hr : t.label.reply t.pre with
  | none => rfl
  | some p => simp [h p.1 p.2 hr]

theorem claimStep_of_finish {r' : BudgetReservation} (hn : Numbered w n t.pre)
    (hr : reservedAttempt w t = none) (hpre : t.pre.budgets.lookup w = some r)
    (hs : r.status = .reserved) (hpost : t.post.budgets.lookup w = some r')
    (hs' : r'.status ≠ .reserved) (ha : r'.attempt = r.attempt) : ClaimStep w n t := by
  constructor <;> simp_all [Numbered, claimClock, finishedAttempt, clock]

theorem claimStep_of_reserve {t : Transition BudgetStore BudgetCall} {n : ℕ}
    {now : GoTime} (hn : Numbered w n t.pre) (hlt : n + 1 < 2 ^ 64)
    (hr : reservedAttempt w t =
      some (newBudgetReservation (t.pre.budgets.lookup w) terms now).attempt)
    (hpost : t.post.budgets.lookup w =
      some (newBudgetReservation (t.pre.budgets.lookup w) terms now)) : ClaimStep w n t := by
  have hattempt :
      (newBudgetReservation (t.pre.budgets.lookup w) terms now).attempt.toNat = n + 1 := by
    cases hpre : t.pre.budgets.lookup w with
    | none =>
      have : n = 0 := by simpa [Numbered, hpre] using hn
      simp [newBudgetReservation, this]
    | some r =>
      obtain ⟨hr, -⟩ : r.attempt.toNat = n ∧ n ≠ 0 := by simpa [Numbered, hpre] using hn
      simp only [newBudgetReservation, UInt64.toNat_add, hr]
      exact Nat.mod_eq_of_lt hlt
  have hclock : claimClock w t.pre < 2 * (n + 1) := by
    cases hpre : t.pre.budgets.lookup w with
    | none => simp [claimClock, hpre]
    | some r =>
      obtain ⟨hr, -⟩ : r.attempt.toNat = n ∧ n ≠ 0 := by simpa [Numbered, hpre] using hn
      simp only [claimClock, hpre, Option.elim_some, clock, hr]
      split_ifs <;> omega
  have hstatus : (newBudgetReservation (t.pre.budgets.lookup w) terms now).status = .reserved := rfl
  have hclock' : claimClock w t.post = 2 * (n + 1) := by
    simp [claimClock, hpost, clock, hattempt, hstatus]
  refine ⟨?_, ?_, ?_, ?_⟩
  · simp [Numbered, hpost, hr, hattempt]
  · omega
  · intro a ha
    obtain rfl := Option.mem_unique hr ha
    omega
  · intro a ha
    simp [finishedAttempt, hpost, hstatus] at ha

theorem lookup_of_insert {budgets budgets' : GoMap BudgetReservation}
    (hb : budgets' = budgets.insert k r) :
    budgets'.lookup w = if w = k then some r else budgets.lookup w := by
  rw [hb, lookup_insert_of]

theorem normalizeBudget_attempt (h : r.attempt ≠ 0) :
    (normalizeBudget k r).attempt = r.attempt := by
  simp [normalizeBudget, h]

/-- **The step.** Each call keeps the number of the claim and moves its clock forward. -/
theorem claimStep_of_step (hn : Numbered w n m) (h : BudgetStep m c m')
    (hlt : n + (reservedAttempt w ⟨m, c, m'⟩).toList.length < 2 ^ 64) :
    ClaimStep w n ⟨m, c, m'⟩ := by
  cases h.change with
  | keep hb hr =>
    exact claimStep_of_same hn
      (reservedAttempt_of_not_created fun terms reply h' => (hr terms reply h').2) (by simp [hb])
  | find terms reply existing hr hl hs hb _ hcr =>
    refine claimStep_of_same hn (reservedAttempt_of_not_created fun terms' reply' h' => ?_) ?_
    · obtain ⟨-, rfl⟩ := Prod.mk.inj (Option.mem_unique hr h')
      exact hcr
    · rw [lookup_of_insert hb]
      split_ifs with hw
      · subst hw
        have hne : existing.attempt ≠ 0 := by
          intro h0
          obtain ⟨ha, h0'⟩ : existing.attempt.toNat = n ∧ n ≠ 0 := by
            simpa [Numbered, hl] using hn
          exact h0' (by rw [← ha, h0]; rfl)
        rw [hl, Option.map_some, Option.map_some, normalizeBudget_attempt hne]
        rfl
      · rfl
  | reserve terms reply now hr ht hl hx hb hv ha hcr =>
    by_cases hw : terms.workloadID = w
    · subst hw
      have hres : reservedAttempt terms.workloadID ⟨m, c, m'⟩ =
          some (newBudgetReservation (m.budgets.lookup terms.workloadID) terms now).attempt := by
        simp [reservedAttempt, hr, hcr, hv]
      refine claimStep_of_reserve hn (by simpa [hres] using hlt) hres ?_
      rw [lookup_of_insert hb, if_pos rfl]
    · refine claimStep_of_same hn (by simp [reservedAttempt, hr, hw]) ?_
      rw [lookup_of_insert hb, if_neg (Ne.symm hw)]
  | settle k token attempt actual now r hc hl hs ho hb
  | release k token attempt now r hc hl hs ho hb =>
    have hres : reservedAttempt w ⟨m, c, m'⟩ = none := by simp [reservedAttempt, hc, reply]
    by_cases hw : w = k
    · subst hw
      exact claimStep_of_finish hn hres hl hs ((lookup_of_insert hb).trans (if_pos rfl))
        (by simp) rfl
    · exact claimStep_of_same hn hres (by dsimp only; rw [lookup_of_insert hb, if_neg hw])

/-- **The run.** Below `2 ^ 64` reservations of the workload, every call moves its clock forward. -/
theorem claimStep_run (h : Run BudgetStep { toMemoryStore := store } tr s) (w : GoString)
    (hlt : (tr.filterMap (reservedAttempt w)).length < 2 ^ 64) :
    Numbered w (tr.filterMap (reservedAttempt w)).length s ∧ ∀ t ∈ tr, ∃ n, ClaimStep w n t := by
  induction h with
  | nil => exact ⟨by simp [Numbered], by simp⟩
  | @snoc tr s s' a h hs ih =>
    have hlen : ∀ t : Transition BudgetStore BudgetCall,
        ((tr ++ [t]).filterMap (reservedAttempt w)).length =
          (tr.filterMap (reservedAttempt w)).length + (reservedAttempt w t).toList.length := by
      intro t
      cases h : reservedAttempt w t <;> simp [h]
    rw [hlen] at hlt ⊢
    obtain ⟨hnum, hsteps⟩ := ih (by omega)
    have hlast := claimStep_of_step hnum hs hlt
    refine ⟨hlast.numbered, fun t ht => ?_⟩
    rcases of_mem_snoc ht with ht | rfl
    · exact hsteps t ht
    · exact ⟨_, hlast⟩

theorem pairwise_lt_of_clock (h : Run BudgetStep { toMemoryStore := store } tr s) {f : UInt64 → ℕ}
    (hf : ∀ a b : UInt64, f a < f b → a < b)
    {grant : Transition BudgetStore BudgetCall → Option UInt64}
    (hc : ∀ t ∈ tr, claimClock w t.pre ≤ claimClock w t.post)
    (hg : ∀ t ∈ tr, ∀ a, grant t = some a → claimClock w t.pre < f a ∧ f a ≤ claimClock w t.post) :
    (tr.filterMap grant).Pairwise (· < ·) := by
  have hpair : (tr.filterMap fun t => (grant t).map f).Pairwise (· < ·) := by
    refine (h.pairwise_lt hc fun t ht k hk => ?_).1
    obtain ⟨a, ha, rfl⟩ := Option.map_eq_some_iff.1 hk
    exact hg t ht a ha
  rw [← List.map_filterMap, List.pairwise_map] at hpair
  exact hpair.imp fun {a b} => hf a b

/-! ## Settlements are final -/

/-- The claim of the workload is settled with this amount, token and attempt. -/
def SettledAs (w : GoString) (actual : Int64) (token : GoString) (attempt : UInt64)
    (m : BudgetStore) : Prop :=
  ∃ r, m.budgets.lookup w = some r ∧ r.status = .settled ∧ r.actualCents = actual ∧
    r.ownershipToken = token ∧ r.attempt = attempt

/-- What a settled claim was settled with: a token and an attempt, neither of which is empty. -/
def SettledOwned (m : BudgetStore) : Prop :=
  ∀ k r, m.budgets.lookup k = some r → r.status = .settled → r.ownershipToken ≠ [] ∧ r.attempt ≠ 0

variable {attempt : UInt64}

theorem BudgetReservation.ne_of_ownedBy (h : r.ownedBy token attempt = true) :
    r.ownershipToken ≠ [] ∧ r.attempt ≠ 0 := by
  simp only [ownedBy, Bool.and_eq_true, decide_eq_true_eq] at h
  obtain ⟨⟨⟨ht, rfl⟩, ha⟩, rfl⟩ := h
  exact ⟨ht, ha⟩

theorem settledOwned_step (hm : SettledOwned m) (h : BudgetStep m c m') : SettledOwned m' := by
  cases h.change with
  | keep hb => simpa only [SettledOwned, hb] using hm
  | find terms reply existing hr hl hs hb =>
    rw [SettledOwned, hb]
    refine forall_lookup_insert hm fun hs' => ?_
    obtain ⟨ht, ha⟩ := hm _ _ hl hs'
    simp [normalizeBudget, ht, ha]
  | reserve terms reply now hr ht hl hx hb | release k token attempt now r hc hl hs ho hb =>
    rw [SettledOwned, hb]
    exact forall_lookup_insert hm fun hs' => by cases hs'
  | settle k token attempt actual now r hc hl hs ho hb =>
    rw [SettledOwned, hb]
    exact forall_lookup_insert hm fun _ => ne_of_ownedBy ho

theorem settledOwned_run (h : Run BudgetStep { toMemoryStore := store } tr s) : SettledOwned s :=
  h.invariant (fun k r hr => absurd hr (by simp)) fun _ _ _ hm hs => settledOwned_step hm hs

theorem settledAs_step {actual : Int64} (ht : token ≠ []) (ha : attempt ≠ 0)
    (hm : SettledAs w actual token attempt m) (h : BudgetStep m c m') :
    SettledAs w actual token attempt m' := by
  obtain ⟨r, hl, hs, rfl, rfl, rfl⟩ := hm
  -- The claim of the workload is replaced only while it is outstanding or after its release.
  have hother : ∀ {k r'}, (w = k → False) → m'.budgets = m.budgets.insert k r' →
      SettledAs w r.actualCents r.ownershipToken r.attempt m' := by
    intro k r' hk hb
    exact ⟨r, by rw [lookup_of_insert hb, if_neg hk, hl], hs, rfl, rfl, rfl⟩
  cases h.change with
  | keep hb => exact ⟨r, by rw [hb, hl], hs, rfl, rfl, rfl⟩
  | find terms reply existing hr hl' hs' hb =>
    by_cases hw : w = terms.workloadID
    · subst hw
      obtain rfl := Option.mem_unique hl hl'
      exact ⟨_, (lookup_of_insert hb).trans (if_pos rfl), hs, rfl, by simp [normalizeBudget, ht],
        normalizeBudget_attempt ha⟩
    · exact hother hw hb
  | reserve terms reply now hr ht' hl' hx hb =>
    refine hother (fun hw => ?_) hb
    subst hw
    rw [activeBudget_eq_some.2 ⟨hl, by simp [hs]⟩] at hl'
    cases hl'
  | settle k token attempt actual now r' hc hl' hs' ho hb
  | release k token attempt now r' hc hl' hs' ho hb =>
    refine hother (fun hw => ?_) hb
    subst hw
    obtain rfl := Option.mem_unique hl hl'
    cases hs.symm.trans hs'

/-- The call names a token or an attempt that is not the claim's. -/
def StaleCall (w : GoString) (m : BudgetStore) (c : BudgetCall) : Prop :=
  ∃ token attempt, ((∃ actual now, c = .settle w token attempt actual now) ∨
      ∃ now, c = .release w token attempt now) ∧
    ∀ r, m.budgets.lookup w = some r → r.ownershipToken ≠ token ∨ r.attempt ≠ attempt

theorem stale_step (hs : StaleCall w m c) (h : BudgetStep m c m') : m' = m := by
  obtain ⟨token, attempt, hc, hstale⟩ := hs
  have howned : ∀ r, m.budgets.lookup w = some r → r.ownedBy token attempt = false := by
    intro r hr
    rcases hstale r hr with h' | h' <;> simp [ownedBy, h']
  subst h
  rcases hc with ⟨actual, now, rfl⟩ | ⟨now, rfl⟩
  · cases hl : m.budgets.lookup w with
    | none => simp [exec, settleBudgetClaim, hl]
    | some r => simp [exec, settleBudgetClaim, hl, howned r hl]
  · cases hl : m.budgets.lookup w with
    | none => simp [exec, releaseBudgetClaim, hl]
    | some r => simp [exec, releaseBudgetClaim, hl, howned r hl]

/-- **Budget claims.** Below `2 ^ 64` reservations of a workload, each attempt is settled or
released once, a settlement is final, stale calls change nothing, and attempts increase. -/
theorem budget_claims_once (h : Run BudgetStep { toMemoryStore := store } tr s) (w : GoString)
    (hlt : (tr.filterMap (reservedAttempt w)).length < 2 ^ 64) :
    (tr.filterMap (finishedAttempt w)).Nodup ∧
    (∀ l₁ t l₂ actual token attempt, tr = l₁ ++ t :: l₂ →
      SettledAs w actual token attempt t.post → SettledAs w actual token attempt s) ∧
    (∀ t ∈ tr, StaleCall w t.pre t.label → t.post = t.pre) ∧
    (tr.filterMap (reservedAttempt w)).Pairwise (· < ·) := by
  obtain ⟨-, hsteps⟩ := claimStep_run h w hlt
  have hclock : ∀ t ∈ tr, claimClock w t.pre ≤ claimClock w t.post := fun t ht =>
    (hsteps t ht).elim fun _ hn => hn.clock_le
  refine ⟨?_, ?_, ?_, ?_⟩
  · have hfinished := pairwise_lt_of_clock h (f := fun a => 2 * a.toNat + 1)
      (fun a b hab => UInt64.lt_iff_toNat_lt.2 (by omega)) hclock
      fun t ht a ha => (hsteps t ht).elim fun _ hn => hn.finished a ha
    exact hfinished.imp fun hab => UInt64.ne_of_lt hab
  · intro l₁ t l₂ actual token attempt htr hset
    obtain ⟨hpre, hstep, hrest⟩ := h.split htr
    obtain ⟨r, hl, hs, -, rfl, rfl⟩ := id hset
    obtain ⟨htoken, hattempt⟩ := settledOwned_run (hpre.snoc hstep) w r hl hs
    exact hrest.invariant hset fun _ _ _ hm hstep => settledAs_step htoken hattempt hm hstep
  · intro t ht hstale
    obtain ⟨l₁, l₂, -, -, hstep, -⟩ := h.split_mem ht
    exact stale_step hstale hstep
  · exact pairwise_lt_of_clock h (f := fun a => 2 * a.toNat)
      (fun a b hab => UInt64.lt_iff_toNat_lt.2 (by omega)) hclock
      fun t ht a ha => (hsteps t ht).elim fun _ hn => hn.reserved a ha

/-- Two attempts of one workload: the first is released, the second settled. -/
theorem two_attempts_once :
    ∃ tr s, Run BudgetStep {} tr s ∧ tr.filterMap (reservedAttempt "w") = [1, 2] ∧
      tr.filterMap (finishedAttempt "w") = [1, 2] ∧ (tr.filterMap (finishedAttempt "w")).Nodup ∧
      (tr.filterMap (reservedAttempt "w")).Pairwise (· < ·) := by
  have hrun := budgetRun_script
    [.reserve (sampleTerms "w" 4 10) {}, .release "w" "w" 1 {}, .reserve (sampleTerms "w" 5 10) {},
      .release "w" "w" 1 {}, .settle "w" "w" 2 3 {}]
  obtain ⟨hfin, -, -, hres⟩ := budget_claims_once hrun "w" (by decide)
  exact ⟨_, _, hrun, by decide, by decide, hfin, hres⟩

/-! ## The attempts wrap -/

/-- A reservation, its repetition, which gives the claim its defaults, and its release. -/
def reserveAndRelease (terms : BudgetTerms) : List (BudgetStore → BudgetCall) :=
  [fun _ => .reserve terms {}, fun _ => .reserve terms {}, fun m =>
    .release terms.workloadID terms.attemptToken
      ((m.budgets.lookup terms.workloadID).elim 0 (·.attempt)) {}]

/-- The three calls make one reservation, and leave the workload without a claim. -/
theorem reserveAndRelease_spec (ht : isBlank terms.attemptToken = false)
    (hl : terms.limitCents = 0) (hm : activeBudget m.budgets terms.workloadID = none) :
    activeBudget (Run.afterScript exec m (reserveAndRelease terms)).budgets
        terms.workloadID = none ∧
      ((Run.script exec m (reserveAndRelease terms)).filterMap
        (reservedAttempt terms.workloadID)).length = 1 := by
  set r := newBudgetReservation (m.budgets.lookup terms.workloadID) terms {} with hr
  set m₁ : BudgetStore := { m with budgets := m.budgets.insert terms.workloadID r } with hm₁
  set r₂ := normalizeBudget terms.workloadID r with hr₂
  set m₂ : BudgetStore := { m₁ with budgets := m₁.budgets.insert terms.workloadID r₂ } with hm₂
  have htoken : terms.attemptToken ≠ [] := ne_nil_of_isBlank_eq_false ht
  have hfirst : reserveBudgetClaim m terms {} =
      (m₁, { reservation := some r, allowed := true, created := true }) := by
    simp [reserveBudgetClaim, ht, hm, exceedsLimit, hl, hm₁, hr]
  have hactive : activeBudget m₁.budgets terms.workloadID = some r :=
    activeBudget_eq_some.2 ⟨by simp [hm₁], by simp [hr, newBudgetReservation]⟩
  have hterms : r₂.hasTerms terms = true := by
    simp [hr₂, hr, normalizeBudget, newBudgetReservation, hasTerms, htoken]
  have hsecond : reserveBudgetClaim m₁ terms {} =
      (m₂, { reservation := some r₂, allowed := true }) := by
    simp [reserveBudgetClaim, ht, hactive, ← hr₂, hterms, hm₂]
  have howned : r₂.ownedBy terms.attemptToken r₂.attempt = true := by
    simp only [hr₂, hr, normalizeBudget, newBudgetReservation, ownedBy, htoken]
    split_ifs <;> simp_all
  have hlookup : m₂.budgets.lookup terms.workloadID = some r₂ := by simp [hm₂]
  have hstatus : r₂.status = .reserved := rfl
  have hthird :
      (releaseBudgetClaim m₂ terms.workloadID terms.attemptToken r₂.attempt {}).1.budgets =
      m₂.budgets.insert terms.workloadID { r₂ with
        revision := r₂.revision + 1
        status := .released
        updatedAt := GoTime.utc {} } := by
    simp [releaseBudgetClaim, hlookup, howned, hstatus]
  constructor
  · simp only [reserveAndRelease, Run.afterScript, List.foldl_cons, List.foldl_nil, exec,
      hfirst, hsecond, hlookup, Option.elim_some, hthird]
    simp [activeBudget]
  · simp only [reserveAndRelease, Run.script, exec, hfirst, hsecond]
    simp [reservedAttempt, reply, hfirst, hsecond]

theorem reservations_unbounded (n : ℕ) :
    ∃ tr s, Run BudgetStep {} tr s ∧ activeBudget s.budgets "w" = none ∧
      (tr.filterMap (reservedAttempt "w")).length = n := by
  induction n with
  | zero => exact ⟨[], {}, .nil, rfl, rfl⟩
  | succ n ih =>
    obtain ⟨tr, s, hrun, hs, hn⟩ := ih
    have hround : Run BudgetStep s
        (Run.script exec s (reserveAndRelease (sampleTerms "w" 4 0)))
        (Run.afterScript exec s (reserveAndRelease (sampleTerms "w" 4 0))) :=
      Run.of_script _ (fun _ _ _ => rfl) s
    have htoken : isBlank (sampleTerms "w" 4 0).attemptToken = false := by decide
    obtain ⟨hnone, hone⟩ := reserveAndRelease_spec htoken rfl hs
    refine ⟨_, _, hrun.append hround, hnone, ?_⟩
    rw [List.filterMap_append, List.length_append, hn]
    exact congrArg (n + ·) hone

theorem length_le_of_pairwise_lt {l : List UInt64} (h : l.Pairwise (· < ·)) :
    l.length ≤ 2 ^ 64 := by
  have hnodup : (l.map UInt64.toNat).Nodup :=
    List.pairwise_map.2 (h.imp fun hab => (UInt64.lt_iff_toNat_lt.1 hab).ne)
  have hsub : l.map UInt64.toNat ⊆ List.range (2 ^ 64) := by
    intro k hk
    obtain ⟨a, -, rfl⟩ := List.mem_map.1 hk
    exact List.mem_range.2 a.toNat_lt
  simpa only [List.length_map, List.length_range] using
    (List.subperm_of_subset hnodup hsub).length_le

/-- **The attempts of a workload wrap.** With more than `2 ^ 64` reservations they cannot all be in
order. -/
theorem attempts_wrap :
    ∃ tr s, Run BudgetStep {} tr s ∧ ¬ (tr.filterMap (reservedAttempt "w")).Pairwise (· < ·) := by
  obtain ⟨tr, s, hrun, -, hn⟩ := reservations_unbounded (2 ^ 64 + 1)
  refine ⟨tr, s, hrun, fun h => ?_⟩
  have := length_le_of_pairwise_lt h
  omega

end VramGovernor.Store
