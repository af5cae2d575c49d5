import QueryBindings.Log.Level

/-!
# Traced computations

A computation that may fail and leaves log records either way.  Records are
plain data in the order in which they were made; which of them are shown is
decided by a threshold afterwards.
-/

namespace QueryBindings.Log

structure Record where
  level : Level
  message : String
  deriving DecidableEq, Repr

structure Traced (ε α : Type) where
  records : List Record
  outcome : Except ε α

namespace Traced

variable {ε ε' α β : Type}

/-- The second computation runs only if the first succeeds. -/
def bind (first : Traced ε α) (next : α → Traced ε β) : Traced ε β :=
  match first.outcome with
  | .ok value => ⟨first.records ++ (next value).records, (next value).outcome⟩
  | .error fault => ⟨first.records, .error fault⟩

instance : Monad (Traced ε) where
  pure value := ⟨[], .ok value⟩
  bind := bind

def ofExcept (outcome : Except ε α) : Traced ε α :=
  ⟨[], outcome⟩

def fail (fault : ε) : Traced ε α :=
  ⟨[], .error fault⟩

def log (level : Level) (message : String) : Traced ε Unit :=
  ⟨[⟨level, message⟩], .ok ()⟩

def mapError (f : ε → ε') (traced : Traced ε α) : Traced ε' α :=
  ⟨traced.records, traced.outcome.mapError f⟩

@[simp] theorem pure_outcome (value : α) :
    (pure value : Traced ε α).outcome = .ok value := rfl

theorem bind_ok {first : Traced ε α} {value : α} (h : first.outcome = .ok value)
    (next : α → Traced ε β) :
    first >>= next = ⟨first.records ++ (next value).records, (next value).outcome⟩ := by
  show bind first next = _
  simp [bind, h]

theorem bind_error {first : Traced ε α} {fault : ε} (h : first.outcome = .error fault)
    (next : α → Traced ε β) : first >>= next = ⟨first.records, .error fault⟩ := by
  show bind first next = _
  simp [bind, h]

end Traced

/-- The records at or above a threshold, in order. -/
def shown (threshold : Level) (records : List Record) : List Record :=
  records.filter fun record => threshold ≤ record.level

theorem shown_append (threshold : Level) (first second : List Record) :
    shown threshold (first ++ second) = shown threshold first ++ shown threshold second := by
  simp [shown]

end QueryBindings.Log
