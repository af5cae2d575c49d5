/-!
# Result shapes

A result row comes as an object or as a tuple, and integers in it come as
numbers or as big integers.  Each combination has a type of its own, named by a
suffix after the query's name.
-/

namespace QueryBindings

inductive RowMode where
  | object
  | tuple
  deriving DecidableEq, Repr

namespace RowMode

def name : RowMode → String
  | object => "object"
  | tuple => "tuple"

def label : RowMode → String
  | object => "Object"
  | tuple => "Tuple"

def all : List RowMode := [object, tuple]

end RowMode

inductive IntegerMode where
  | number
  | bigint
  deriving DecidableEq, Repr

namespace IntegerMode

def name : IntegerMode → String
  | number => "number"
  | bigint => "bigint"

def label : IntegerMode → String
  | number => "Number"
  | bigint => "BigInt"

def all : List IntegerMode := [number, bigint]

end IntegerMode

structure ResultShape where
  rowMode : RowMode
  integerMode : IntegerMode
  deriving DecidableEq, Repr

namespace ResultShape

def suffix (shape : ResultShape) : String :=
  "RecordRowMode" ++ shape.rowMode.label ++ "IntegerMode" ++ shape.integerMode.label

def all : List ResultShape :=
  [⟨.object, .number⟩, ⟨.object, .bigint⟩, ⟨.tuple, .number⟩, ⟨.tuple, .bigint⟩]

/-- The shape that a bound query has unless its caller asks for another. -/
def standard : ResultShape := ⟨.object, .number⟩

theorem mem_all (shape : ResultShape) : shape ∈ all := by
  obtain ⟨row, integer⟩ := shape
  cases row <;> cases integer <;> decide

end ResultShape

end QueryBindings
