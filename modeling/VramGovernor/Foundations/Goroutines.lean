import VramGovernor.Foundations.Run

/-!
# Goroutines over a shared state

A program says where a call enters, what a goroutine does in one step (one access to the shared
state, with what the world answers), what else can happen to the shared state, and what a restart
leaves of it. Its runs are the interleavings of its calls.

* `Program.step_invariant` is the rule for an invariant of the shared state together with what each
  goroutine relies on, which the steps of the others must leave true.
* `Program.step_goroutines` is its case for what a goroutine knows of itself.
-/

namespace VramGovernor

/-- The shared state and the goroutines, each with its place and its locals. -/
structure Threads (σ γ : Type*) where
  shared : σ
  goroutines : List γ := []

/-- The next event. -/
inductive ThreadEvent (κ α ε : Type*)
  | call (c : κ)
  /-- The goroutine at that place takes its next step. -/
  | proceed (i : ℕ) (a : α)
  | other (e : ε)
  /-- The process is started again, and its goroutines are gone. -/
  | restart

structure Program (σ γ κ α ε : Type*) where
  enter : κ → γ
  exec : σ → γ → α → σ × γ
  env : σ → ε → σ
  restart : σ → σ

namespace Program

variable {σ γ κ α ε : Type*} (P : Program σ γ κ α ε)

def step (s : Threads σ γ) : ThreadEvent κ α ε → Threads σ γ
  | .call c => { s with goroutines := s.goroutines ++ [P.enter c] }
  | .proceed i a =>
    match s.goroutines[i]? with
    | some g =>
      { shared := (P.exec s.shared g a).1
        goroutines := s.goroutines.set i (P.exec s.shared g a).2 }
    | none => s
  | .other e => { s with shared := P.env s.shared e }
  | .restart => { shared := P.restart s.shared }

/-- **One step of the program**: any goroutine may be the next. -/
def Step (s : Threads σ γ) (e : ThreadEvent κ α ε) (s' : Threads σ γ) : Prop := s' = P.step s e

variable {P} {s : Threads σ γ}

theorem step_proceed {i : ℕ} {g : γ} (h : s.goroutines[i]? = some g) (a : α) :
    P.step s (.proceed i a) =
      { shared := (P.exec s.shared g a).1
        goroutines := s.goroutines.set i (P.exec s.shared g a).2 } := by
  simp only [step, h]

theorem step_proceed_none {i : ℕ} (h : s.goroutines[i]? = none) (a : α) :
    P.step s (.proceed i a) = s := by
  simp only [step, h]

/-- **The invariant rule for goroutines.** An access keeps the invariant of the shared state,
establishes what its goroutine relies on next, and does not disturb the others. -/
theorem step_invariant {I : σ → Prop} {J : σ → γ → Prop} {e : ThreadEvent κ α ε} (hI : I s.shared)
    (hJ : ∀ g ∈ s.goroutines, J s.shared g) (henter : ∀ c, J s.shared (P.enter c))
    (hexec : ∀ g a, J s.shared g → I (P.exec s.shared g a).1 ∧
      J (P.exec s.shared g a).1 (P.exec s.shared g a).2 ∧
      ∀ g', J s.shared g' → J (P.exec s.shared g a).1 g')
    (henv : ∀ e', e = .other e' →
      I (P.env s.shared e') ∧ ∀ g, J s.shared g → J (P.env s.shared e') g)
    (hrestart : I (P.restart s.shared)) :
    I (P.step s e).shared ∧ ∀ g ∈ (P.step s e).goroutines, J (P.step s e).shared g := by
  cases e with
  | call c =>
    refine ⟨hI, fun g hg => ?_⟩
    rcases of_mem_snoc hg with hg | rfl
    · exact hJ g hg
    · exact henter c
  | proceed i a =>
    cases hi : s.goroutines[i]? with
    | none =>
      rw [step_proceed_none hi]
      exact ⟨hI, hJ⟩
    | some g₀ =>
      obtain ⟨hI', hself, hothers⟩ := hexec g₀ a (hJ g₀ (List.mem_of_getElem? hi))
      rw [step_proceed hi]
      refine ⟨hI', fun g hg => ?_⟩
      rcases List.mem_or_eq_of_mem_set hg with hg | rfl
      · exact hothers g (hJ g hg)
      · exact hself
  | other e => exact ⟨(henv e rfl).1, fun g hg => (henv e rfl).2 g (hJ g hg)⟩
  | restart =>
    refine ⟨hrestart, fun g hg => ?_⟩
    cases hg

/-- **What holds of every goroutine by itself**: where a call enters, and after each of its steps.
-/
theorem step_goroutines {J : γ → Prop} (henter : ∀ c, J (P.enter c))
    (hexec : ∀ s g a, J g → J (P.exec s g a).2) (h : ∀ g ∈ s.goroutines, J g)
    (e : ThreadEvent κ α ε) : ∀ g ∈ (P.step s e).goroutines, J g :=
  (step_invariant (I := fun _ => True) (J := fun _ g => J g) trivial h henter
    (fun g a hg => ⟨trivial, hexec _ g a hg, fun _ h => h⟩) (fun _ _ => ⟨trivial, fun _ h => h⟩)
    trivial).2

end Program

end VramGovernor
