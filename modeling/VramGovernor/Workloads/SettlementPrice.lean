import VramGovernor.Foundations.GoInt
import VramGovernor.Workloads.WorkloadRows
import Mathlib.Tactic.Linarith

/-!
# The price that is settled against the price that was reserved

A cloud plan is priced before it runs: its context tokens at the higher rate of the target, in
cents, rounded up. After the run the tokens that the response reports are priced at their own rates
and rounded up once. The second price is at most the first (`settled_le_reserved`).
-/

namespace VramGovernor.Workloads

/-- The price of a target. -/
structure TargetPrice where
  cloud : Bool
  (inputCentsPerMTok outputCentsPerMTok : Int64)

/-- The higher rate. -/
def TargetPrice.rate (target : TargetPrice) : Int64 :=
  if target.inputCentsPerMTok < target.outputCentsPerMTok then target.outputCentsPerMTok
  else target.inputCentsPerMTok

def estimateTargetCost (target : TargetPrice) (contextTokens : Int64) : Int64 :=
  if !target.cloud || contextTokens ≤ 0 then 0
  else if target.rate ≤ 0 then 0
  else (contextTokens * target.rate + 999999) / 1000000

/-- The workload runs under a plan for this target with its rates, and its estimated price was
reserved. -/
structure PricedFor (target : TargetPrice) (contextTokens : Int64) (w : Workload)
    (plan : ExecutionPlan) : Prop where
  plan_eq : w.plan = some plan
  estimate : plan.estimatedCostCents = estimateTargetCost target contextTokens
  input : plan.inputCentsPerMTok = target.inputCentsPerMTok
  output : plan.outputCentsPerMTok = target.outputCentsPerMTok
  reserved : w.budgetReservationCents = plan.estimatedCostCents

section Words

variable {x y : Int64}

theorem toInt_add_of_fits (hlo : 0 ≤ x.toInt + y.toInt) (hhi : x.toInt + y.toInt < 2 ^ 63) :
    (x + y).toInt = x.toInt + y.toInt := by
  rw [Int64.toInt_add]
  apply Int.bmod_eq_of_le <;> omega

theorem toInt_mul_of_fits (hlo : 0 ≤ x.toInt * y.toInt) (hhi : x.toInt * y.toInt < 2 ^ 63) :
    (x * y).toInt = x.toInt * y.toInt := by
  rw [Int64.toInt_mul]
  apply Int.bmod_eq_of_le <;> omega

/-- Rounding up is exact where the sum fits. -/
theorem toInt_cents (hlo : 0 ≤ x.toInt) (hhi : x.toInt + 999999 < 2 ^ 63) :
    ((x + 999999) / 1000000).toInt = (x.toInt + 999999) / 1000000 := by
  have hadd : (x + 999999).toInt = x.toInt + 999999 := toInt_add_of_fits (y := 999999) (by
    show 0 ≤ x.toInt + 999999
    omega) hhi
  rw [Int64.toInt_div_of_ne_right _ _ (by decide), hadd]
  exact Int.tdiv_eq_ediv_of_nonneg (by omega)

end Words

theorem TargetPrice.toInt_rate (target : TargetPrice) :
    target.rate.toInt = max target.inputCentsPerMTok.toInt target.outputCentsPerMTok.toInt := by
  rw [TargetPrice.rate]
  split_ifs with h
  all_goals
    rw [Int64.lt_iff_toInt_lt] at h
    omega

variable {target : TargetPrice} {contextTokens : Int64}

/-- The estimate is zero, or the exact price rounded up. -/
theorem estimateTargetCost_cases
    (hfits : contextTokens.toInt * target.rate.toInt + 999999 < 2 ^ 63) :
    estimateTargetCost target contextTokens = 0 ∨
      (estimateTargetCost target contextTokens).toInt =
        (contextTokens.toInt * target.rate.toInt + 999999) / 1000000 := by
  rw [estimateTargetCost]
  split_ifs with hfree hrate
  · exact .inl rfl
  · exact .inl rfl
  · right
    simp only [Bool.or_eq_true, decide_eq_true_eq, not_or, Int64.le_iff_toInt_le, Int64.toInt_zero,
      not_le] at hfree hrate
    have hpos := Int.mul_nonneg hfree.2.le hrate.le
    have hmul := toInt_mul_of_fits hpos (by omega)
    rw [toInt_cents (hmul ▸ hpos) (hmul ▸ hfits), hmul]

variable {w : Workload} {plan : ExecutionPlan}

/-- **A settlement stays within its reservation**, if the rates and the reported tokens are not
negative, the tokens are at most those of the estimate, and the estimate does not overflow. -/
theorem settled_le_reserved (h : PricedFor target contextTokens w plan)
    (hin : 0 ≤ target.inputCentsPerMTok.toInt) (hout : 0 ≤ target.outputCentsPerMTok.toInt)
    (hprompt : 0 ≤ w.inlineUsage.promptTokens.toInt)
    (hcompletion : 0 ≤ w.inlineUsage.completionTokens.toInt)
    (htokens : w.inlineUsage.promptTokens.toInt + w.inlineUsage.completionTokens.toInt ≤
      contextTokens.toInt)
    (hfits : contextTokens.toInt * target.rate.toInt + 999999 < 2 ^ 63) :
    budgetActualCents w ≤ w.budgetReservationCents := by
  have hcases := estimateTargetCost_cases hfits
  rw [← h.estimate] at hcases
  have hrate := target.toInt_rate
  -- the exact prices of the two kinds of tokens, against the price of the whole context
  have hi := Int.mul_nonneg hprompt hin
  have ho := Int.mul_nonneg hcompletion hout
  have hle : w.inlineUsage.promptTokens.toInt * target.inputCentsPerMTok.toInt +
      w.inlineUsage.completionTokens.toInt * target.outputCentsPerMTok.toInt ≤
      contextTokens.toInt * target.rate.toInt := by
    calc _ ≤ w.inlineUsage.promptTokens.toInt * target.rate.toInt +
          w.inlineUsage.completionTokens.toInt * target.rate.toInt :=
        Int.add_le_add (Int.mul_le_mul_of_nonneg_left (by omega) hprompt)
          (Int.mul_le_mul_of_nonneg_left (by omega) hcompletion)
      _ = (w.inlineUsage.promptTokens.toInt + w.inlineUsage.completionTokens.toInt) *
          target.rate.toInt := (Int.add_mul ..).symm
      _ ≤ _ := Int.mul_le_mul_of_nonneg_right htokens (by omega)
  simp only [budgetActualCents, h.plan_eq, h.reserved, h.input, h.output]
  split_ifs with hestimate hreserved husage
  · exact Int64.le_refl _
  · rcases hcases with hzero | hexact
    · exact hzero ▸ Int64.le_refl _
    · rw [Int64.le_iff_toInt_le, hexact, Int64.toInt_zero]
      omega
  · rcases hcases with hzero | hexact
    · exact absurd (hzero ▸ Int64.le_refl _) hestimate
    · have himul := toInt_mul_of_fits hi (by omega)
      have homul := toInt_mul_of_fits ho (by omega)
      have hadd := toInt_add_of_fits (x := _ * _) (y := _ * _) (himul.symm ▸ homul.symm ▸
        Int.add_nonneg hi ho) (by omega)
      rw [Int64.le_iff_toInt_le, hexact, toInt_cents (by omega) (by omega), hadd, himul, homul]
      exact Int.ediv_le_ediv (by decide) (by omega)
  · exact Int64.le_refl _

/-- Two rates, 900 tokens in and 100 out of a context of 1000: 4 cents of 5. -/
theorem settled_le_reserved_small :
    let plan : ExecutionPlan :=
      { estimatedCostCents := 5, inputCentsPerMTok := 3000, outputCentsPerMTok := 5000 }
    let w : Workload :=
      { plan := some plan, budgetReservationCents := 5
        inlineUsage := { promptTokens := 900, completionTokens := 100 } }
    budgetActualCents w = 4 ∧ budgetActualCents w ≤ w.budgetReservationCents :=
  ⟨by decide, @settled_le_reserved ⟨true, 3000, 5000⟩ 1000 _ _ ⟨rfl, by decide, rfl, rfl, rfl⟩
    (by decide) (by decide) (by decide) (by decide) (by decide) (by decide)⟩

end VramGovernor.Workloads
