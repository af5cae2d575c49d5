import QueryBindings.Log.Traced

/-!
# Outcomes of traced computations

What a computation yields, apart from the records that it leaves.
-/

namespace QueryBindings

namespace Log.Traced

variable {ε ε' α β : Type}

theorem bind_outcome (first : Traced ε α) (next : α → Traced ε β) :
    (first >>= next).outcome = first.outcome.bind fun value => (next value).outcome := by
  cases h : first.outcome with
  | ok value =>
      rw [bind_ok h]
      rfl
  | error fault =>
      rw [bind_error h]
      rfl

theorem bind_eq_ok_iff {first : Traced ε α} {next : α → Traced ε β} {value : β} :
    (first >>= next).outcome = .ok value ↔
      ∃ middle, first.outcome = .ok middle ∧ (next middle).outcome = .ok value := by
  rw [bind_outcome]
  cases first.outcome <;> simp [Except.bind]

@[simp] theorem ofExcept_outcome (outcome : Except ε α) : (ofExcept outcome).outcome = outcome :=
  rfl

@[simp] theorem log_outcome (level : Level) (message : String) :
    (log level message : Traced ε Unit).outcome = .ok () := rfl

@[simp] theorem mapError_outcome (f : ε → ε') (traced : Traced ε α) :
    (traced.mapError f).outcome = traced.outcome.mapError f := rfl

end Log.Traced

section Except

variable {ε ε' α : Type} {f : ε → ε'}

@[simp] theorem mapError_ok (value : α) : (Except.ok value).mapError f = .ok value := rfl

@[simp] theorem mapError_error (fault : ε) :
    (Except.error fault : Except ε α).mapError f = .error (f fault) := rfl

theorem mapError_eq_ok_iff {outcome : Except ε α} {value : α} :
    outcome.mapError f = .ok value ↔ outcome = .ok value := by
  cases outcome <;> simp

end Except

instance decidableEqExcept {ε α : Type} [DecidableEq ε] [DecidableEq α] :
    DecidableEq (Except ε α)
  | .error fault, .error fault' => decidable_of_iff (fault = fault') (by simp)
  | .ok value, .ok value' => decidable_of_iff (value = value') (by simp)
  | .error _, .ok _ => isFalse (by simp)
  | .ok _, .error _ => isFalse (by simp)

end QueryBindings
