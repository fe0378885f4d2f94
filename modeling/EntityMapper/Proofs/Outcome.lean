/-!
# Outcomes of steps that may fail

A sequence of steps succeeds exactly when each step does, and fails with the cause of the first
step that does not.
-/
namespace EntityMapper

theorem bind_eq_ok {ε α β : Type} {step : Except ε α} {next : α → Except ε β} {value : β} :
    (step >>= next) = .ok value ↔ ∃ a, step = .ok a ∧ next a = .ok value := by
  cases step <;> simp [bind, Except.bind]

theorem bind_eq_error {ε α β : Type} {step : Except ε α} {next : α → Except ε β} {cause : ε} :
    (step >>= next) = .error cause ↔
      step = .error cause ∨ ∃ a, step = .ok a ∧ next a = .error cause := by
  cases step <;> simp [bind, Except.bind]

/-- A check in front of another step. -/
theorem andThen_eq_ok {ε β : Type} {check : Except ε Unit} {next : Unit → Except ε β} {value : β} :
    (check >>= next) = .ok value ↔ check = .ok () ∧ next () = .ok value := by
  cases check <;> simp [bind, Except.bind]

theorem pure_eq_ok {ε α : Type} {a value : α} :
    (pure a : Except ε α) = .ok value ↔ a = value := by
  simp [pure, Except.pure]

theorem mapError_eq_ok {ε ε' α : Type} {step : Except ε α} {f : ε → ε'} {value : α} :
    step.mapError f = .ok value ↔ step = .ok value := by
  cases step with
  | error cause => exact ⟨nofun, nofun⟩
  | ok a =>
    exact ⟨fun same => congrArg _ (Except.ok.inj same), fun same => congrArg _ (Except.ok.inj same)⟩

theorem exists_eq_ok {ε α : Type} {outcome : Except ε α} (succeeds : outcome.isOk = true) :
    ∃ value, outcome = .ok value := by
  cases outcome with
  | error cause => cases succeeds
  | ok value => exact ⟨value, rfl⟩

/-- A step whose value passes a test has succeeded with such a value. -/
theorem exists_ok_and {ε α : Type} {outcome : Except ε α} {test : α → Bool}
    (passes : outcome.toOption.any test = true) :
    ∃ value, outcome = .ok value ∧ test value = true := by
  cases outcome with
  | error cause => cases passes
  | ok value => exact ⟨value, rfl, passes⟩

theorem toOption_eq_some {ε α : Type} {outcome : Except ε α} {value : α} :
    outcome.toOption = some value ↔ outcome = .ok value := by
  cases outcome <;> simp [Except.toOption]

/-- What a step failed for. -/
def cause? {ε α : Type} : Except ε α → Option ε
  | .error cause => some cause
  | .ok _ => none

theorem cause?_eq_some {ε α : Type} {outcome : Except ε α} {cause : ε} :
    cause? outcome = some cause ↔ outcome = .error cause := by
  cases outcome <;> simp [cause?]

/-- Two runs that both fail, for any cause, or both succeed, with results that are related. -/
inductive SameOutcome {ε α β : Type} (related : α → β → Prop) : Except ε α → Except ε β → Prop where
  | error (first second : ε) : SameOutcome related (.error first) (.error second)
  | ok {a : α} {b : β} (results : related a b) : SameOutcome related (.ok a) (.ok b)

namespace SameOutcome

variable {ε α β : Type} {related : α → β → Prop}

/-- Runs have the same outcome when the success of either gives that of the other. -/
theorem of_ok {first : Except ε α} {second : Except ε β}
    (there : ∀ a, first = .ok a → ∃ b, second = .ok b ∧ related a b)
    (back : ∀ b, second = .ok b → first.isOk = true) : SameOutcome related first second := by
  cases first with
  | ok a =>
    obtain ⟨b, rfl, results⟩ := there a rfl
    exact .ok results
  | error cause =>
    cases second with
    | error other => exact .error cause other
    | ok b => cases back b rfl

theorem exists_ok {first : Except ε α} {second : Except ε β}
    (same : SameOutcome related first second) {a : α} (succeeds : first = .ok a) :
    ∃ b, second = .ok b ∧ related a b := by
  cases same with
  | error cause other => cases succeeds
  | ok results =>
    cases succeeds
    exact ⟨_, rfl, results⟩

theorem bind {γ δ : Type} {results : γ → δ → Prop} {first : Except ε α} {second : Except ε β}
    (same : SameOutcome related first second) {next : α → Except ε γ} {again : β → Except ε δ}
    (later : ∀ a b, related a b → SameOutcome results (next a) (again b)) :
    SameOutcome results (first >>= next) (second >>= again) := by
  cases same with
  | error cause other => exact .error cause other
  | ok alike => exact later _ _ alike

theorem refl (outcome : Except ε α) : SameOutcome (· = ·) outcome outcome := by
  cases outcome with
  | error cause => exact .error cause cause
  | ok value => exact .ok rfl

theorem mapError {ε' : Type} {first : Except ε α} {second : Except ε β}
    (same : SameOutcome related first second) (wrap : ε → ε') :
    SameOutcome related (first.mapError wrap) (second.mapError wrap) := by
  cases same with
  | error cause other => exact .error _ _
  | ok alike => exact .ok alike

end SameOutcome

end EntityMapper
