import Mathlib.Algebra.Order.Field.Rat
import Mathlib.Data.List.Sort
import VramGovernor.Foundations.GoMap

/-!
# The order in which an admission tries the targets

`tryAdmit` reads the targets from a map and sorts them. Its relation compares the times of two pools
if both are known, and takes times within 10 % of each other for equal; the contexts likewise. So a
target can be taken for equal to two others that are told apart (`near_times_cycle`). A cycle goes
over such a bridge (`Preference.cycle_iff`), and without one the sorted order is the same however
the map is read (`admission_order_strict_iff`).
-/

namespace VramGovernor.Workloads

open GoString

/-! ## The relation -/

/-- The measured speeds of one model on a target. -/
structure SpeedPool where
  (decodeTPS promptTPS : ℚ)
  maxRequestTokens : ℤ

structure RuntimeCapacityProfile where
  id : GoString
  (contextLimit slots : ℤ)

/-- A target, as far as the order reads it. -/
structure Route where
  id : GoString
  adapter : GoString := []
  cloud : Bool := false
  models : List GoString := []
  modelPools : GoMap SpeedPool := ∅
  contextLimit : ℤ := 0
  runtimeProfiles : List RuntimeCapacityProfile := []
  supportsRuntimeProfileSwitch : Bool := false

/-- What the order takes from the request and the manager: `creatorRank` of
`creatorProfileForTarget`, `score` of `estimateTargets`, and the decode and prompt speeds `learned`
from enough requests. -/
structure Ranking where
  boundTarget : GoString := []
  creatorStudio : Bool := false
  (adapter model : GoString := [])
  (contextTokens maxOutput : ℤ := 0)
  creatorRank : Route → Option ℕ := fun _ => none
  score : GoString → ℚ := fun _ => 0
  learned : GoString → Option (ℚ × ℚ) := fun _ => none

namespace Ranking

variable (q : Ranking)

def withLearnedSpeeds (target : Route) : Route :=
  match target.modelPools.lookup q.model, q.learned target.id with
  | some pool, some (decode, prompt) =>
    if q.model = [] || decode ≤ 0 then target
    else
      let pool := { pool with decodeTPS := decode, promptTPS := prompt }
      { target with modelPools := target.modelPools.insert q.model pool }
  | _, _ => target

/-- The time of the request in the pool of its model, if the speeds are known and the pool is large
enough. -/
def seconds (target : Route) : Option ℚ :=
  let pool := (target.modelPools.lookup q.model).filter fun pool =>
    q.model ≠ [] && 0 < pool.decodeTPS && 0 < pool.promptTPS &&
      (q.contextTokens ≤ 0 || q.contextTokens ≤ pool.maxRequestTokens)
  let output := if q.maxOutput ≤ 0 then 2048 else q.maxOutput
  let prompt := max 0 (q.contextTokens - output)
  pool.map fun pool => prompt / pool.promptTPS + output / pool.decodeTPS

def poolSpeedPreference (left right : Route) : ℤ :=
  match q.seconds left, q.seconds right with
  | some leftSeconds, some rightSeconds =>
    if left.cloud ≠ right.cloud then 0
    else if leftSeconds * 1.1 < rightSeconds then -1
    else if rightSeconds * 1.1 < leftSeconds then 1
    else 0
  | _, _ => 0

def smallestRuntimeProfile (profiles : List RuntimeCapacityProfile) (required : ℤ) :
    Option RuntimeCapacityProfile :=
  profiles.foldl (fun selected profile =>
    if profile.id = [] || profile.contextLimit ≤ 0 || profile.slots ≤ 0 ||
        profile.contextLimit < required then selected
    else if selected.all fun s => profile.contextLimit < s.contextLimit ||
        profile.contextLimit = s.contextLimit && s.slots < profile.slots then some profile
    else selected) none

/-- The context that the target offers, if it is enough. -/
def effectiveContextCapacity (target : Route) (required : ℤ) : Option ℤ :=
  match smallestRuntimeProfile target.runtimeProfiles required,
    target.supportsRuntimeProfileSwitch with
  | some profile, true => some profile.contextLimit
  | _, _ =>
    if 0 < target.contextLimit && required ≤ target.contextLimit then some target.contextLimit
    else none

/-- The context that is compared with that of other targets. -/
def context (target : Route) : Option ℤ :=
  if 0 < q.contextTokens && target.adapter = q.adapter &&
      (q.model = [] || q.model ∈ target.models) then
    effectiveContextCapacity target q.contextTokens
  else none

def contextProfilePreference (left right : Route) : ℤ :=
  match q.context left, q.context right with
  | some leftContext, some rightContext =>
    if left.cloud ≠ right.cloud || leftContext = rightContext then 0
    else if leftContext < rightContext then -1 else 1
  | _, _ => 0

/-- A preference decides, and where it has none the `rest`. -/
def thenBy (preference : Route → Route → ℤ) (rest : Route → Route → Bool) (left right : Route) :
    Bool :=
  if preference left right ≠ 0 then preference left right < 0 else rest left right

def byScore (left right : Route) : Bool :=
  if q.score left.id ≠ q.score right.id then q.score left.id < q.score right.id
  else left.id < right.id

def byContext : Route → Route → Bool := thenBy q.contextProfilePreference q.byScore

def speedPreference (left right : Route) : ℤ :=
  q.poolSpeedPreference (q.withLearnedSpeeds left) (q.withLearnedSpeeds right)

def bySpeed : Route → Route → Bool := thenBy q.speedPreference q.byContext

def before (left right : Route) : Bool :=
  if q.boundTarget ≠ [] && decide (left.id = q.boundTarget) ≠ decide (right.id = q.boundTarget) then
    left.id = q.boundTarget
  else if q.creatorStudio && (q.creatorRank left).isSome ≠ (q.creatorRank right).isSome then
    (q.creatorRank left).isSome
  else if q.creatorStudio && q.creatorRank left ≠ q.creatorRank right then
    (q.creatorRank left).getD 0 < (q.creatorRank right).getD 0
  else q.bySpeed left right

/-! ## Cycles -/

def Cycle (before : Route → Route → Bool) (a b c : Route) : Prop :=
  before a b = true ∧ before b c = true ∧ before c a = true

/-- The preference puts `c` before `a` and takes `b` for equal to both, and the rest puts `a` before
`b` and `b` before `c`. -/
def Bridges (preference : Route → Route → ℤ) (rest : Route → Route → Bool) (a b c : Route) : Prop :=
  preference c a < 0 ∧ preference a b = 0 ∧ preference b c = 0 ∧ rest a b = true ∧ rest b c = true

/-- What is compared before the speeds. -/
def rank (t : Route) : Bool × Option ℕ :=
  (q.boundTarget ≠ [] && t.id = q.boundTarget, if q.creatorStudio then q.creatorRank t else none)

/-- Of targets with the same rank, the second bridges the times of the others, or it bridges their
contexts and their times are all taken for equal. -/
def Bridged (a b c : Route) : Prop :=
  (q.rank a = q.rank b ∧ q.rank b = q.rank c) ∧
    (Bridges q.speedPreference q.byContext a b c ∨
      q.speedPreference a b = 0 ∧ q.speedPreference b c = 0 ∧ q.speedPreference c a = 0 ∧
        Bridges q.contextProfilePreference q.byScore a b c)

/-- It is opposite for the two sides, and transitive where it decides. -/
structure Preference (p : Route → Route → ℤ) : Prop where
  swap : ∀ a b, p b a = -p a b
  trans : ∀ a b c, p a b < 0 → p b c < 0 → p a c < 0

variable {q} {targets : List Route} {p : Route → Route → ℤ} {rest : Route → Route → Bool}
  {a b c : Route}

/-- **A cycle** of a relation that starts with a preference goes over a bridge, or is one of the
rest. -/
theorem Preference.cycle_iff (h : Preference p) : Cycle (thenBy p rest) a b c ↔
    Bridges p rest a b c ∨ Bridges p rest b c a ∨ Bridges p rest c a b ∨
      p a b = 0 ∧ p b c = 0 ∧ p c a = 0 ∧ Cycle rest a b c := by
  have hab := h.swap a b
  have hbc := h.swap b c
  have hca := h.swap c a
  have habc := h.trans a b c
  have hbca := h.trans b c a
  have hcab := h.trans c a b
  unfold Cycle Bridges thenBy
  grind

theorem Preference.thenBy_swap (h : Preference p) (hrest : rest b a = !rest a b) :
    thenBy p rest b a = !thenBy p rest a b := by
  have hab := h.swap a b
  unfold thenBy
  grind

theorem seconds_nonneg {t : Route} {a : ℚ} (h : q.seconds t = some a) : 0 ≤ a := by
  obtain ⟨pool, hpool, rfl⟩ := Option.map_eq_some_iff.1 h
  have hspeeds := (Option.filter_eq_some_iff.1 hpool).2
  simp only [Bool.and_eq_true, decide_eq_true_eq] at hspeeds
  have hdecode := hspeeds.1.1.2
  have hprompt := hspeeds.1.2
  have houtput : (0 : ℤ) ≤ if q.maxOutput ≤ 0 then 2048 else q.maxOutput := by
    split_ifs <;> omega
  refine add_nonneg (div_nonneg ?_ hprompt.le) (div_nonneg ?_ hdecode.le)
  · exact_mod_cast le_max_left _ _
  · exact_mod_cast houtput

theorem preference_poolSpeed (q : Ranking) : Preference q.poolSpeedPreference where
  swap a b := by
    have ha := @seconds_nonneg q a
    have hb := @seconds_nonneg q b
    unfold poolSpeedPreference
    grind
  trans a b c := by
    have hb := @seconds_nonneg q b
    unfold poolSpeedPreference
    grind

theorem preference_speed (q : Ranking) : Preference q.speedPreference where
  swap _ _ := (preference_poolSpeed q).swap _ _
  trans _ _ _ := (preference_poolSpeed q).trans _ _ _

theorem preference_context (q : Ranking) : Preference q.contextProfilePreference where
  swap a b := by
    unfold contextProfilePreference
    grind
  trans a b c := by
    unfold contextProfilePreference
    grind

theorem byScore_swap (h : a.id ≠ b.id) : q.byScore b a = !q.byScore a b := by
  unfold byScore
  grind

theorem not_cycle_byScore : ¬ Cycle q.byScore a b c := by
  unfold Cycle byScore
  grind

theorem before_of_rank_eq (h : q.rank a = q.rank b) : q.before a b = q.bySpeed a b := by
  simp only [rank, Prod.mk.injEq] at h
  unfold before
  grind

theorem before_swap (h : a.id ≠ b.id) : q.before b a = !q.before a b := by
  have hspeed : q.bySpeed b a = !q.bySpeed a b :=
    (preference_speed q).thenBy_swap ((preference_context q).thenBy_swap (byScore_swap h))
  unfold before
  cases q.creatorRank a <;> cases q.creatorRank b <;> grind

theorem before_irrefl (a : Route) : q.before a a = false := by
  have hspeed := (preference_speed q).swap a a
  have hcontext := (preference_context q).swap a a
  simp only [before_of_rank_eq, bySpeed, byContext, thenBy, byScore]
  grind

theorem cycle_before_iff : Cycle q.before a b c ↔
    q.Bridged a b c ∨ q.Bridged b c a ∨ q.Bridged c a b := by
  have hrank : Cycle q.before a b c → q.rank a = q.rank b ∧ q.rank b = q.rank c := by
    simp only [Cycle, before, rank, Prod.mk.injEq]
    cases q.creatorRank a <;> cases q.creatorRank b <;> cases q.creatorRank c <;> grind
  have hsame : q.rank a = q.rank b ∧ q.rank b = q.rank c →
      (Cycle q.before a b c ↔ Cycle q.bySpeed a b c) := by
    rintro ⟨hab, hbc⟩
    rw [Cycle, before_of_rank_eq hab, before_of_rank_eq hbc, before_of_rank_eq (hab.trans hbc).symm]
    rfl
  have hspeed : Cycle q.bySpeed a b c ↔ _ := (preference_speed q).cycle_iff
  have hcontext : Cycle q.byContext a b c ↔ _ := (preference_context q).cycle_iff
  unfold Bridged
  grind [not_cycle_byScore]

/-- **The order of an admission** is a strict weak one of targets with distinct ids, and the same
however they are listed, exactly if no target bridges two others. -/
theorem admission_order_strict_iff (hids : (targets.map (·.id)).Nodup) :
    ((∀ a ∈ targets, q.before a a = false) ∧
    (∀ a ∈ targets, ∀ b ∈ targets, ∀ c ∈ targets,
      q.before a b = true → q.before b c = true → q.before a c = true) ∧
    (∀ a ∈ targets, ∀ b ∈ targets, ∀ c ∈ targets,
      q.before a b = false → q.before b a = false → q.before b c = false → q.before c b = false →
      q.before a c = false ∧ q.before c a = false) ∧
    ∀ s s' : List Route, s.Perm targets → s'.Perm targets →
      s.Pairwise (fun a b => q.before b a = false) →
      s'.Pairwise (fun a b => q.before b a = false) → s = s') ↔
    ∀ a ∈ targets, ∀ b ∈ targets, ∀ c ∈ targets, ¬ q.Bridged a b c := by
  have hid {a b : Route} (ha : a ∈ targets) (hb : b ∈ targets) (hne : a ≠ b) : a.id ≠ b.id :=
    fun hid => hne (List.inj_on_of_nodup_map hids ha hb hid)
  have heq {a b : Route} (ha : a ∈ targets) (hb : b ∈ targets) (hab : q.before a b = false)
      (hba : q.before b a = false) : a = b := by
    by_contra hne
    have hswap := before_swap (q := q) (hid ha hb hne)
    simp [hab, hba] at hswap
  constructor
  · rintro ⟨-, htrans, -⟩ a ha b hb c hc hbridged
    obtain ⟨hab, hbc, hca⟩ := cycle_before_iff.2 (.inl hbridged)
    have haa := htrans a ha c hc a ha (htrans a ha b hb c hc hab hbc) hca
    simp [before_irrefl] at haa
  · intro h
    refine ⟨fun a _ => before_irrefl a, ?_, ?_, ?_⟩
    · intro a ha b hb c hc hab hbc
      by_contra hac
      have hne : a ≠ b := by
        rintro rfl
        simp [before_irrefl] at hab
      by_cases heq : a = c
      · subst heq
        simp [before_swap (hid ha hb hne), hab] at hbc
      · have hca : q.before c a = true := by simpa [before_swap (hid ha hc heq)] using hac
        rcases cycle_before_iff.1 ⟨hab, hbc, hca⟩ with hbridged | hbridged | hbridged
        · exact h a ha b hb c hc hbridged
        · exact h b hb c hc a ha hbridged
        · exact h c hc a ha b hb hbridged
    · intro a ha b hb c hc hab hba hbc hcb
      obtain rfl := heq ha hb hab hba
      exact ⟨hbc, hcb⟩
    · intro s s' hs hs' hsorted hsorted'
      refine List.Perm.eq_of_pairwise ?_ hsorted hsorted' (hs.trans hs'.symm)
      exact fun a b ha hb hab hba => heq (hs.mem_iff.1 ha) (hs'.mem_iff.1 hb) hba hab

end Ranking

def timedRoute (id : GoString) (decodeTPS : ℚ) : Route :=
  { id, modelPools := AList.singleton (ofString "m") ⟨decodeTPS, 1, 4096⟩ }

/-- A request for 1000 tokens of the model. -/
def modelRequest : Ranking := { model := "m", maxOutput := 1000 }

/-- Two targets that take 2 s and 1 s and one in the cloud have one order. -/
theorem admission_order_strict_cloud :
    let targets := [timedRoute "a" 500, timedRoute "b" 1000,
      { timedRoute "c" 1000 with cloud := true }]
    modelRequest.before (timedRoute "b" 1000) (timedRoute "a" 500) = true ∧
    ∀ s s' : List Route, s.Perm targets → s'.Perm targets →
      s.Pairwise (fun a b => modelRequest.before b a = false) →
      s'.Pairwise (fun a b => modelRequest.before b a = false) → s = s' := by
  refine ⟨by decide +kernel, ((Ranking.admission_order_strict_iff (by decide +kernel)).2 ?_).2.2.2⟩
  unfold Ranking.Bridged Ranking.Bridges
  decide +kernel

/-- **Near times.** Of targets that take 1 s, 1.08 s and 1.16 s, `c` comes before `a` for its time,
and `a` before `b` and `b` before `c` for their ids. -/
theorem near_times_cycle :
    let a := timedRoute "a" (1000 / 1.16)
    let b := timedRoute "b" (1000 / 1.08)
    let c := timedRoute "c" 1000
    modelRequest.before c a = true ∧ modelRequest.before a b = true ∧
      modelRequest.before b c = true ∧ modelRequest.before c b = false := by
  decide +kernel

end VramGovernor.Workloads
