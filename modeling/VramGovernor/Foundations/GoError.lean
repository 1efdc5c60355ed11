import VramGovernor.Foundations.GoString

/-!
# Errors and validators

An error is its text, together with the sentinel that `errors.Is` finds in it. A validator of the
source is a chain of tests that returns the error of the first that fires; `firstError` is that
chain, and `firstError_eq_ok` turns its success into the failure of every test.
-/

namespace VramGovernor

/-- An error: its text and the text of the sentinel it wraps. -/
structure GoError where
  text : GoString
  wraps : Option GoString := none
  deriving DecidableEq, Repr

namespace GoError

/-- `errors.New` of a package variable that others compare with `errors.Is`. -/
def sentinel (text : GoString) : GoError := ⟨text, some text⟩

/-- `fmt.Errorf("%w: …")`. -/
def wrapf (e : GoError) (detail : GoString) : GoError := ⟨e.text ++ ": " ++ detail, e.wraps⟩

/-- `errors.Is`. -/
def is (e s : GoError) : Bool := e.wraps.isSome && e.wraps = s.wraps

end GoError

/-- The error of the first test that fires, in order; `next` when none does. -/
def firstError (cs : List (Bool × GoError)) (next : Except GoError Unit) : Except GoError Unit :=
  match cs with
  | [] => next
  | (c, e) :: cs => if c then .error e else firstError cs next

/-- **A chain of tests succeeds** when no test fires and what follows it succeeds. -/
theorem firstError_eq_ok {cs : List (Bool × GoError)} {next : Except GoError Unit} :
    firstError cs next = .ok () ↔ (∀ c ∈ cs, c.1 = false) ∧ next = .ok () := by
  induction cs with
  | nil => simp [firstError]
  | cons c cs ih =>
    obtain ⟨c, e⟩ := c
    cases c <;> simp [firstError, ih]

theorem bind_eq_ok {α β : Type} {x : Except GoError α} {f : α → Except GoError β} {b : β} :
    x >>= f = .ok b ↔ ∃ a, x = .ok a ∧ f a = .ok b := by
  cases x with
  | error e | ok a => simp [bind, Except.bind]

end VramGovernor
