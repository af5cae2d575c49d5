import QueryBindings.Log.Traced

/-!
# Computations that stay below a threshold

Most steps leave records that are only shown on request.  What is put together from
such steps is itself such a step, so a whole run has no more records at or above a
threshold than its steps that reach it.
-/

namespace QueryBindings.Log.Traced

variable {ε ε' α β : Type} {threshold : Level}

/-- No record of the computation reaches the threshold. -/
def StaysBelow (threshold : Level) (traced : Traced ε α) : Prop :=
  shown threshold traced.records = []

theorem staysBelow_pure (value : α) : (pure value : Traced ε α).StaysBelow threshold := rfl

theorem staysBelow_ofExcept (outcome : Except ε α) :
    (ofExcept outcome).StaysBelow threshold := rfl

theorem staysBelow_log {level : Level} (h : level < threshold) (message : String) :
    (log level message : Traced ε Unit).StaysBelow threshold := by
  have hnot : ¬ threshold ≤ level := Int.not_le.2 h
  simp [StaysBelow, shown, log, hnot]

theorem StaysBelow.bind {first : Traced ε α} {next : α → Traced ε β}
    (hfirst : first.StaysBelow threshold) (hnext : ∀ value, (next value).StaysBelow threshold) :
    (first >>= next).StaysBelow threshold := by
  unfold StaysBelow at hfirst ⊢
  cases houtcome : first.outcome with
  | error fault =>
      rw [bind_error houtcome]
      exact hfirst
  | ok value =>
      rw [bind_ok houtcome, shown_append, hfirst]
      exact hnext value

end QueryBindings.Log.Traced
