import Mathlib

/-!
# Outcomes

What the steps of a computation that can fail have come to, where the whole has
come to a result.  Two computations are compared by what they come to: both to a
result, or both to a fault.
-/

namespace Except

universe u

variable {α β ε ε' : Type u}

@[simp]
theorem ok_bind (value : α) (next : α → Except ε β) :
    (Except.ok value >>= next) = next value :=
  rfl

@[simp]
theorem error_bind (fault : ε) (next : α → Except ε β) :
    (Except.error fault >>= next) = Except.error fault :=
  rfl

@[simp]
theorem throw_eq_error (fault : ε) : (throw fault : Except ε α) = .error fault :=
  rfl

/-- Two steps have a result just if the first has one and the second has it from there. -/
theorem bind_eq_ok_iff {first : Except ε α} {next : α → Except ε β} {result : β} :
    (first >>= next) = .ok result ↔ ∃ value, first = .ok value ∧ next value = .ok result := by
  cases first with
  | error fault => simp
  | ok value => simp

/-- A check and a step have a result just if the check passes and the step has it. -/
theorem check_bind_eq_ok_iff {ε β : Type} {check : Except ε Unit} {next : Unit → Except ε β}
    {result : β} : (check >>= next) = .ok result ↔ check = .ok () ∧ next () = .ok result := by
  cases check with
  | error fault => simp
  | ok done => simp

/-- Two steps fail just if the first fails or the second does from its result. -/
theorem bind_eq_error_iff {first : Except ε α} {next : α → Except ε β} {fault : ε} :
    (first >>= next) = .error fault ↔
      first = .error fault ∨ ∃ value, first = .ok value ∧ next value = .error fault := by
  cases first with
  | error fault => simp
  | ok value => simp

theorem bind_pure_eq_map (outcome : Except ε α) (f : α → β) :
    (outcome >>= fun value => pure (f value)) = outcome.map f := by
  cases outcome <;> rfl

theorem map_bind {γ : Type u} (outcome : Except ε α) (f : α → β) (next : β → Except ε γ) :
    (outcome.map f >>= next) = outcome >>= fun value => next (f value) := by
  cases outcome <;> rfl

@[simp]
theorem pure_eq_ok_iff {value result : α} :
    (pure value : Except ε α) = .ok result ↔ value = result :=
  Except.ok.injEq value result ▸ Iff.rfl

@[simp]
theorem mapError_eq_ok_iff {outcome : Except ε α} {wrap : ε → ε'} {result : α} :
    outcome.mapError wrap = .ok result ↔ outcome = .ok result := by
  cases outcome with
  | error fault => simp [Except.mapError]
  | ok value => simp [Except.mapError]

/-! ### Outcomes of two computations -/

/-- Whether two computations come both to a result or both to a fault, related as such. -/
inductive Rel (faults : ε → ε → Prop) (results : α → β → Prop) : Except ε α → Except ε β → Prop
  | ok {value : α} {other : β} (related : results value other) :
      Rel faults results (.ok value) (.ok other)
  | error {fault other : ε} (related : faults fault other) :
      Rel faults results (.error fault) (.error other)

namespace Rel

variable {faults : ε → ε → Prop}

theorem refl (same : ∀ fault, faults fault fault) (outcome : Except ε α) :
    Rel faults Eq outcome outcome := by
  cases outcome with
  | error fault => exact .error (same fault)
  | ok value => exact .ok rfl

/-- What a computation comes to is related to itself. -/
theorem self {results : α → α → Prop} (same : ∀ fault, faults fault fault)
    (alike : ∀ value, results value value) (outcome : Except ε α) :
    Rel faults results outcome outcome := by
  cases outcome with
  | error fault => exact .error (same fault)
  | ok value => exact .ok (alike value)

/-- Two steps after each other come to the like, if each of them does. -/
theorem bind {γ δ : Type u} {firsts : α → β → Prop} {results : γ → δ → Prop}
    {first : Except ε α} {other : Except ε β} {next : α → Except ε γ} {otherNext : β → Except ε δ}
    (isFirst : Rel faults firsts first other)
    (isNext : ∀ value another, first = .ok value → firsts value another →
      Rel faults results (next value) (otherNext another)) :
    Rel faults results (first >>= next) (other >>= otherNext) := by
  cases isFirst with
  | ok related => exact isNext _ _ rfl related
  | error related => exact .error related

theorem map {γ δ : Type u} {results : α → β → Prop} {results' : γ → δ → Prop} {f : α → γ}
    {g : β → δ} {first : Except ε α} {other : Except ε β}
    (isRelated : Rel faults results first other)
    (kept : ∀ value another, results value another → results' (f value) (g another)) :
    Rel faults results' (first.map f) (other.map g) := by
  cases isRelated with
  | ok related => exact .ok (kept _ _ related)
  | error related => exact .error related

theorem mapError {faults' : ε' → ε' → Prop} {results : α → β → Prop} {wrap : ε → ε'}
    {first : Except ε α} {other : Except ε β} (isRelated : Rel faults results first other)
    (kept : ∀ fault another, faults fault another → faults' (wrap fault) (wrap another)) :
    Rel faults' results (first.mapError wrap) (other.mapError wrap) := by
  cases isRelated with
  | ok related => exact .ok related
  | error related => exact .error (kept _ _ related)

/-- Results that are equal and faults that are equal make outcomes that are equal. -/
theorem eq {first other : Except ε α} (isRelated : Rel Eq Eq first other) : first = other := by
  cases isRelated with
  | ok same => rw [same]
  | error same => rw [same]

/-- Outcomes with equal results, whatever their faults, have the same result or none. -/
theorem toOption_eq {first other : Except ε α} (isRelated : Rel faults Eq first other) :
    first.toOption = other.toOption := by
  cases isRelated with
  | ok same => rw [same]
  | error _ => rfl

end Rel

end Except
