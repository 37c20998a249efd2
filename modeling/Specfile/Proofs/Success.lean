import Specfile.Failure

/-! When a chain of computations that may fail succeeds: each of them does, on what the one
before it gave. And how the outcome of one is told, when each case is known to have its own. -/

set_option autoImplicit false

namespace Specfile

variable {ε ε' α β : Type}

@[simp] theorem ok_bind (value : α) (next : α → Except ε β) :
    (Except.ok value >>= next) = next value := rfl

@[simp] theorem error_bind (error : ε) (next : α → Except ε β) :
    (Except.error error >>= next) = .error error := rfl

@[simp] theorem mapError_ok (translate : ε → ε') (value : α) :
    (Except.ok value).mapError translate = .ok value := rfl

@[simp] theorem mapError_error (translate : ε → ε') (error : ε) :
    (Except.error error : Except ε α).mapError translate = .error (translate error) := rfl

@[simp] theorem map_ok (f : α → β) (value : α) :
    (Except.ok value : Except ε α).map f = .ok (f value) := rfl

@[simp] theorem map_error (f : α → β) (error : ε) :
    (Except.error error : Except ε α).map f = .error error := rfl

theorem bind_eq_ok_iff {result : Except ε α} {next : α → Except ε β} {value : β} :
    result >>= next = .ok value ↔ ∃ first, result = .ok first ∧ next first = .ok value := by
  cases result <;> simp

theorem bind_eq_error_iff {result : Except ε α} {next : α → Except ε β} {error : ε} :
    result >>= next = .error error ↔
      result = .error error ∨ ∃ first, result = .ok first ∧ next first = .error error := by
  cases result <;> simp

theorem mapError_eq_error_iff {result : Except ε α} {translate : ε → ε'} {error : ε'} :
    result.mapError translate = .error error ↔
      ∃ first, result = .error first ∧ translate first = error := by
  cases result <;> simp

theorem mapError_eq_ok_iff {result : Except ε α} {translate : ε → ε'} {value : α} :
    result.mapError translate = .ok value ↔ result = .ok value := by
  cases result <;> simp

theorem map_eq_ok_iff {result : Except ε α} {f : α → β} {value : β} :
    result.map f = .ok value ↔ ∃ first, result = .ok first ∧ f first = value := by
  cases result <;> simp

theorem pure_eq_ok_iff {value other : α} :
    (pure value : Except ε α) = .ok other ↔ other = value := by
  simp [pure, Except.pure, eq_comm]

theorem exists_of_toOption_map {result : Except ε α} {read : α → β} {value : β}
    (found : result.toOption.map read = some value) :
    ∃ outcome, result = .ok outcome ∧ read outcome = value := by
  cases result with
  | error error => cases found
  | ok outcome => exact ⟨outcome, rfl, Option.some.inj found⟩

/-- Conditions that leave no case out, and of which each makes for an outcome of its own, hold
exactly when that is the outcome. -/
theorem eq_iff_of_cover {result : Except Failure α} {succeeds : α → Prop}
    {refuses : Problem → Prop} {breaks : Fault → Prop}
    (ok : ∀ value, succeeds value → result = .ok value)
    (problem : ∀ problem, refuses problem → result = .error (.problem problem))
    (fault : ∀ fault, breaks fault → result = .error (.fault fault))
    (cover : (∃ value, succeeds value) ∨ (∃ problem, refuses problem) ∨ ∃ fault, breaks fault) :
    (∀ value, result = .ok value ↔ succeeds value) ∧
      (∀ problem, result = .error (.problem problem) ↔ refuses problem) ∧
      ∀ fault, result = .error (.fault fault) ↔ breaks fault := by
  -- The case that holds tells the outcome, and no other case has the same one.
  refine ⟨fun value => ⟨fun found => ?_, ok value⟩,
    fun other => ⟨fun found => ?_, problem other⟩, fun other => ⟨fun found => ?_, fault other⟩⟩ <;>
    rcases cover with ⟨other, holds⟩ | ⟨other, holds⟩ | ⟨other, holds⟩
  · cases (ok other holds).symm.trans found
    exact holds
  · cases (problem other holds).symm.trans found
  · cases (fault other holds).symm.trans found
  · cases (ok other holds).symm.trans found
  · cases (problem other holds).symm.trans found
    exact holds
  · cases (fault other holds).symm.trans found
  · cases (ok other holds).symm.trans found
  · cases (problem other holds).symm.trans found
  · cases (fault other holds).symm.trans found
    exact holds

end Specfile
