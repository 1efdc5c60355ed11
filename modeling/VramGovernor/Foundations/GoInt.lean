import Mathlib.Data.Int.Order.Basic
import Mathlib.Data.UInt
import Mathlib.Tactic.SplitIfs

/-!
# Fixed-width integers as numbers

An `int64` counter is incremented with wrap-around, a sum of `int64` values wraps, and a `uint64` is
converted to an `int64` by reinterpreting its bits. These are stated here as facts about the
integers the words stand for.
-/

namespace VramGovernor

/-- Below the largest value, an increment is the increment of the number. -/
theorem toInt_add_one {x : Int64} (h : x < Int64.maxValue) : (x + 1).toInt = x.toInt + 1 := by
  have hx : x.toInt < 2 ^ 63 - 1 := Int64.lt_iff_toInt_lt.1 h
  have hle := Int64.le_toInt x
  rw [Int64.toInt_add, show (1 : Int64).toInt = 1 from rfl, Int.bmod_def]
  split_ifs <;> omega

theorem toInt_add_one_of_not_lt {x : Int64} (h : ¬ x < Int64.maxValue) :
    (x + 1).toInt = -2 ^ 63 := by
  have hx : x = Int64.maxValue := by
    rw [Int64.lt_iff_toInt_lt, Int64.toInt_maxValue] at h
    have hlt := Int64.toInt_lt x
    apply Int64.toInt_inj.1
    rw [Int64.toInt_maxValue]
    omega
  subst hx
  decide

/-- A sum of words is the sum of the numbers, wrapped once. -/
theorem toInt_sum (l : List Int64) : l.sum.toInt = (l.map Int64.toInt).sum.bmod (2 ^ 64) := by
  induction l with
  | nil => rfl
  | cons x l ih =>
    rw [List.sum_cons, List.map_cons, List.sum_cons, Int64.toInt_add, ih, Int.add_bmod_bmod]

/-- The conversion of a word: the upper half becomes negative. -/
theorem toInt_toInt64 (u : UInt64) :
    u.toInt64.toInt = if u.toNat < 2 ^ 63 then (u.toNat : ℤ) else u.toNat - 2 ^ 64 := by
  rw [show u.toInt64.toInt = u.toBitVec.toInt from rfl, BitVec.toInt_eq_toNat_cond,
    show u.toBitVec.toNat = u.toNat from rfl]
  split_ifs <;> omega

end VramGovernor
