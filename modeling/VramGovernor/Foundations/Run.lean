import Mathlib.Order.Basic
import Mathlib.Data.List.Pairwise

/-!
# Runs of a transition system

A run is the list of its transitions, each with the state before it, its label and the state after
it. What one step preserves, a run preserves (`Run.invariant`, `Run.rel`); a transition of a run is
a step from a state that a shorter run reaches (`Run.split`); values handed out from a counter that
never falls are strictly increasing (`Run.pairwise_lt`).
-/

namespace VramGovernor

theorem of_mem_snoc {α : Type*} {l : List α} {x a : α} (h : x ∈ l ++ [a]) : x ∈ l ∨ x = a := by
  simpa using h

/-- One step of a run. -/
structure Transition (σ α : Type*) where
  pre : σ
  label : α
  post : σ

/-- The transitions, in order, lead from the first state to the last. -/
inductive Run {σ α : Type*} (step : σ → α → σ → Prop) (s₀ : σ) : List (Transition σ α) → σ → Prop
  | nil : Run step s₀ [] s₀
  | snoc {tr : List (Transition σ α)} {s s' : σ} {a : α} :
      Run step s₀ tr s → step s a s' → Run step s₀ (tr ++ [⟨s, a, s'⟩]) s'

namespace Run

variable {σ α : Type*} {step : σ → α → σ → Prop} {s₀ s s' : σ} {tr tr' : List (Transition σ α)}
  {I : σ → Prop} {t : Transition σ α}

section

variable (h : Run step s₀ tr s)
include h

theorem append (h' : Run step s tr' s') : Run step s₀ (tr ++ tr') s' := by
  induction h' with
  | nil => simpa using h
  | snoc _ hs ih => simpa using ih.snoc hs

/-- **The invariant rule.** The step may be taken under a condition that every transition of the run
meets. -/
theorem invariant_of {C : Transition σ α → Prop} (hC : ∀ t ∈ tr, C t)
    (h₀ : I s₀) (hI : ∀ s a s', I s → step s a s' → C ⟨s, a, s'⟩ → I s') : I s := by
  induction h with
  | nil => exact h₀
  | snoc _ hs ih => exact hI _ _ _ (ih fun t ht => hC t (by simp [ht])) hs (hC _ (by simp))

theorem invariant (h₀ : I s₀) (hI : ∀ s a s', I s → step s a s' → I s') : I s :=
  h.invariant_of (C := fun _ => True) (fun _ _ => trivial) h₀
    fun s a s' hs hst _ => hI s a s' hs hst

/-- **The invariant rule with an observation.** What every step from a state of the invariant shows
holds of every transition of the run. -/
theorem observe_of {C O : Transition σ α → Prop} (hC : ∀ t ∈ tr, C t)
    (h₀ : I s₀) (hI : ∀ s a s', I s → step s a s' → C ⟨s, a, s'⟩ → I s' ∧ O ⟨s, a, s'⟩) :
    I s ∧ ∀ t ∈ tr, O t := by
  induction h with
  | nil => exact ⟨h₀, by simp⟩
  | @snoc tr s s' a _ hs ih =>
    obtain ⟨hinv, hobs⟩ := ih fun t ht => hC t (by simp [ht])
    obtain ⟨hinv', hlast⟩ := hI _ _ _ hinv hs (hC _ (by simp))
    refine ⟨hinv', fun t ht => ?_⟩
    rcases List.mem_append.1 ht with ht | ht
    · exact hobs t ht
    · obtain rfl : t = ⟨s, a, s'⟩ := by simpa using ht
      exact hlast

theorem rel {R : σ → σ → Prop} (hr : ∀ s, R s s) (ht : ∀ {s₁ s₂ s₃}, R s₁ s₂ → R s₂ s₃ → R s₁ s₃)
    (hR : ∀ s a s', step s a s' → R s s') : R s₀ s := by
  induction h with
  | nil => exact hr _
  | snoc _ hs ih => exact ht ih (hR _ _ _ hs)

/-- **A transition of a run** is a step between two shorter runs. -/
theorem split {l₁ l₂ : List (Transition σ α)} (ht : tr = l₁ ++ t :: l₂) :
    Run step s₀ l₁ t.pre ∧ step t.pre t.label t.post ∧ Run step t.post l₂ s := by
  induction h generalizing l₂ with
  | nil => simp at ht
  | @snoc tr s s' a h hs ih =>
    rcases List.eq_nil_or_concat l₂ with rfl | ⟨l, u, rfl⟩
    · obtain ⟨rfl, ht⟩ := List.append_inj' ht rfl
      obtain rfl : (⟨s, a, s'⟩ : Transition σ α) = t := by simpa using ht
      exact ⟨h, hs, .nil⟩
    · rw [List.concat_eq_append, ← List.cons_append, ← List.append_assoc] at ht
      obtain ⟨rfl, ht⟩ := List.append_inj' ht rfl
      obtain rfl : (⟨s, a, s'⟩ : Transition σ α) = u := by simpa using ht
      obtain ⟨h₁, h₂, h₃⟩ := ih rfl
      exact ⟨h₁, h₂, by simpa using h₃.snoc hs⟩

theorem split_mem (ht : t ∈ tr) :
    ∃ l₁ l₂, tr = l₁ ++ t :: l₂ ∧ Run step s₀ l₁ t.pre ∧ step t.pre t.label t.post ∧
      Run step t.post l₂ s := by
  obtain ⟨l₁, l₂, e⟩ := List.append_of_mem ht
  exact ⟨l₁, l₂, e, h.split e⟩

end

theorem of_append {l₁ l₂ : List (Transition σ α)} (h : Run step s₀ (l₁ ++ l₂) s) :
    ∃ s', Run step s₀ l₁ s' ∧ Run step s' l₂ s := by
  cases l₂ with
  | nil => exact ⟨s, by simpa using h, .nil⟩
  | cons t l₂ =>
    obtain ⟨h₁, ht, h₂⟩ := h.split rfl
    have hfirst : Run step t.pre [t] t.post := Run.nil.snoc ht
    exact ⟨t.pre, h₁, hfirst.append h₂⟩

section Script

variable (exec : σ → α → σ)

/-- The transitions of a script. An action may look at the state it is taken in. -/
def script (s : σ) : List (σ → α) → List (Transition σ α)
  | [] => []
  | a :: as => ⟨s, a s, exec s (a s)⟩ :: script (exec s (a s)) as

def afterScript (s : σ) (as : List (σ → α)) : σ := as.foldl (fun s a => exec s (a s)) s

theorem of_script {as : List (σ → α)} (h : ∀ a ∈ as, ∀ s, step s (a s) (exec s (a s))) (s : σ) :
    Run step s (script exec s as) (afterScript exec s as) := by
  induction as generalizing s with
  | nil => exact .nil
  | cons a as ih =>
    have hfirst : Run step s [⟨s, a s, exec s (a s)⟩] (exec s (a s)) :=
      Run.nil.snoc (h a (by simp) s)
    exact hfirst.append (ih (fun a ha => h a (by simp [ha])) _)

/-- The labels, with another one in place of those that are not allowed in their state. -/
def guarded (allowed : σ → α → Bool) (d : α) (as : List α) : List (σ → α) :=
  as.map fun a s => if allowed s a then a else d

theorem of_guarded {allowed : σ → α → Bool} {d : α} (hd : ∀ s, step s d (exec s d))
    (h : ∀ s a, allowed s a = true → step s a (exec s a)) (as : List α) (s : σ) :
    Run step s (script exec s (guarded allowed d as))
      (afterScript exec s (guarded allowed d as)) := by
  refine of_script exec (fun f hf s => ?_) s
  obtain ⟨a, -, rfl⟩ := List.mem_map.1 hf
  dsimp only
  split
  · exact h s a ‹_›
  · exact hd s

end Script

/-- **Values handed out from a counter** that never falls increase strictly, if each is above the
counter before and not above the counter after. -/
theorem pairwise_lt {τ : Type*} [Preorder τ] {c : σ → τ} {grant : Transition σ α → Option τ}
    (h : Run step s₀ tr s) (hc : ∀ t ∈ tr, c t.pre ≤ c t.post)
    (hg : ∀ t ∈ tr, ∀ k, grant t = some k → c t.pre < k ∧ k ≤ c t.post) :
    (tr.filterMap grant).Pairwise (· < ·) ∧ ∀ k ∈ tr.filterMap grant, k ≤ c s := by
  induction h with
  | nil => simp
  | @snoc tr s s' a h hs ih =>
    obtain ⟨ih₁, ih₂⟩ := ih (fun t ht => hc t (by simp [ht])) fun t ht => hg t (by simp [ht])
    have hle : c s ≤ c s' := hc ⟨s, a, s'⟩ (by simp)
    have hlast := hg ⟨s, a, s'⟩ (by simp)
    rw [List.filterMap_append]
    cases e : grant ⟨s, a, s'⟩ with
    | none =>
      refine ⟨by simpa [e] using ih₁, fun k hk => (ih₂ k ?_).trans hle⟩
      simpa [e] using hk
    | some k =>
      obtain ⟨hlt, hk⟩ := hlast k e
      refine ⟨List.pairwise_append.2 ⟨ih₁, by simp [e], fun x hx y hy => ?_⟩, fun x hx => ?_⟩
      · obtain rfl : y = k := by simpa [e] using hy
        exact (ih₂ x hx).trans_lt hlt
      · rcases List.mem_append.1 hx with hx | hx
        · exact (ih₂ x hx).trans hle
        · obtain rfl : x = k := by simpa [e] using hx
          exact hk

end Run

end VramGovernor
