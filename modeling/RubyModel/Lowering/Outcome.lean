/-
# Outcomes with warnings

Turning a tree into a model gives a result or a failure, and in either case the warnings
recorded up to there: a failure stops the run, but does not take back a warning.

`SPEC_FULL.md`, §7 and §16.2: every failure ends the run, and warnings are gathered beside it.
-/

import RubyModel.Diagnostic
import RubyModel.Lowering.Failure

namespace RubyModel

/-- A result or a failure, with the warnings recorded on the way, in order. -/
structure Outcome (α : Type) where
  result : Except Failure α
  diagnostics : List Diagnostic

namespace Outcome

/-- A result without warnings. -/
def ok {α : Type} (value : α) : Outcome α := ⟨.ok value, []⟩

/-- A failure. -/
def fail {α : Type} (failure : Failure) : Outcome α := ⟨.error failure, []⟩

/-- A result with one warning. -/
def warn {α : Type} (diagnostic : Diagnostic) (value : α) : Outcome α := ⟨.ok value, [diagnostic]⟩

/-- Goes on with the result; warnings add up. -/
def andThen {α β : Type} (first : Outcome α) (next : α → Outcome β) : Outcome β :=
  match first with
  | ⟨.error failure, diagnostics⟩ => ⟨.error failure, diagnostics⟩
  | ⟨.ok value, diagnostics⟩ =>
    let second := next value
    ⟨second.result, diagnostics ++ second.diagnostics⟩

instance : Monad Outcome where
  pure := ok
  bind := andThen

@[simp] theorem pure_eq {α : Type} (value : α) : (pure value : Outcome α) = ⟨.ok value, []⟩ := rfl

/-- What goes on from a result adds its warnings to those that are there. -/
@[simp] theorem bind_ok {α β : Type} (value : α) (diagnostics : List Diagnostic)
    (next : α → Outcome β) :
    ((⟨.ok value, diagnostics⟩ : Outcome α) >>= next) =
      ⟨(next value).result, diagnostics ++ (next value).diagnostics⟩ := rfl

/-- Nothing goes on from a failure. -/
@[simp] theorem bind_error {α β : Type} (failure : Failure) (diagnostics : List Diagnostic)
    (next : α → Outcome β) :
    ((⟨.error failure, diagnostics⟩ : Outcome α) >>= next) = ⟨.error failure, diagnostics⟩ := rfl

/-- A result that is gone on from is a result, and so is what comes of it. -/
theorem result_bind_eq_ok {α β : Type} {first : Outcome α} {next : α → Outcome β} {result : β} :
    (first >>= next).result = .ok result ↔
      ∃ value, first.result = .ok value ∧ (next value).result = .ok result := by
  rcases first with ⟨failure | value, diagnostics⟩
  · exact ⟨nofun, fun ⟨_, e, _⟩ => nomatch e⟩
  · exact ⟨fun h => ⟨value, rfl, h⟩, fun ⟨_, e, h⟩ => by cases e; exact h⟩

/-- After a result, the next step decides. -/
theorem result_bind_of_ok {α β : Type} {first : Outcome α} {next : α → Outcome β} {value : α}
    (h : first.result = .ok value) : (first >>= next).result = (next value).result := by
  obtain ⟨result, diagnostics⟩ := first
  cases h
  rfl

/-- A failure is not gone on from. -/
theorem result_bind_of_error {α β : Type} {first : Outcome α} {next : α → Outcome β}
    {failure : Failure} (h : first.result = .error failure) :
    (first >>= next).result = .error failure := by
  obtain ⟨result, diagnostics⟩ := first
  cases h
  rfl

instance : LawfulMonad Outcome := LawfulMonad.mk' Outcome
  (fun x => by rcases x with ⟨_ | _, _⟩ <;> simp [Functor.map, andThen, ok])
  (fun value next => by simp)
  (fun x f g => by
    rcases x with ⟨_ | value, _⟩
    · simp
    · simp only [bind_ok]
      rcases f value with ⟨_ | _, _⟩ <;> simp)

/-! ## What results have -/

/-- Every result of the outcome has a property. -/
def Yields {α : Type} (outcome : Outcome α) (P : α → Prop) : Prop :=
  ∀ result, outcome.result = .ok result → P result

namespace Yields

variable {α β : Type} {P : α → Prop} {Q : β → Prop}

/-- A result with the property. -/
theorem ok {value : α} (h : P value) : (Outcome.ok value).Yields P
  | _, rfl => h

theorem fail {failure : Failure} : (Outcome.fail failure : Outcome α).Yields P := nofun

/-- Two properties of all results hold of each result together. -/
theorem and {P' : α → Prop} {outcome : Outcome α} (h : outcome.Yields P)
    (h' : outcome.Yields P') : outcome.Yields fun result => P result ∧ P' result :=
  fun result e => ⟨h result e, h' result e⟩

/-- What the results of a first outcome have can be used about what comes of them. -/
theorem bind {first : Outcome α} {next : α → Outcome β} (h : first.Yields P)
    (step : ∀ value, P value → (next value).Yields Q) : (first >>= next).Yields Q := by
  intro result e
  obtain ⟨value, found, e⟩ := result_bind_eq_ok.1 e
  exact step value (h value found) result e

end Yields
end Outcome
end RubyModel
