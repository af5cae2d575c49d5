import QueryBindings.Binding.Family
import QueryBindings.Binding.Shape
import QueryBindings.Query.Batch

/-!
# Mapping database types to host types

The types of result columns are sound: they depend on the integer mode and fall
back to a type that promises nothing.  The types of parameters are permissive:
they accept every representation that a caller may pass.
-/

namespace QueryBindings

structure TypeMap where
  numberType : String := "number"
  bigintType : String := "bigint"
  stringType : String := "string"
  booleanType : String := "boolean"
  blobOutputType : String := "Uint8Array"
  blobInputType : String := "NodeJS.ArrayBufferView"
  unknownOutputType : String := "unknown"
  /-- The type of a parameter whose database type is not recognised. -/
  unknownInputType : String := "any"
  nullType : String := "null"
  deriving DecidableEq, Repr

namespace TypeMap

def inputBase (types : TypeMap) : TypeFamily → String
  | .integer => types.numberType ++ " | " ++ types.bigintType
  | .float => types.numberType
  | .blob => types.blobInputType
  | .boolean => types.booleanType
  | .text => types.stringType

/-- The result type of a family; integers follow the integer mode. -/
def outputBase (types : TypeMap) (mode : IntegerMode) : TypeFamily → String
  | .integer =>
      match mode with
      | .number => types.numberType
      | .bigint => types.bigintType
  | .blob => types.blobOutputType
  | .float => types.inputBase .float
  | .boolean => types.inputBase .boolean
  | .text => types.inputBase .text

/-- A type that also admits null unless the column excludes it. -/
def withNull (types : TypeMap) (column : Column) (base : String) : String :=
  if column.notNull then base else base ++ " | " ++ types.nullType

def outputType? (types : TypeMap) (mode : IntegerMode) (column : Column) : Option String :=
  (TypeFamily.ofType? column.typeName).map fun family =>
    types.withNull column (types.outputBase mode family)

def inputType? (types : TypeMap) (column : Column) : Option String :=
  (TypeFamily.ofType? column.typeName).map fun family =>
    types.withNull column (types.inputBase family)

/-- The result type of a column; the fallback is never widened by null. -/
def outputType (types : TypeMap) (mode : IntegerMode) (column : Column) : String :=
  (types.outputType? mode column).getD types.unknownOutputType

/-- The parameter type of a column; the fallback is never widened by null. -/
def inputType (types : TypeMap) (column : Column) : String :=
  (types.inputType? column).getD types.unknownInputType

theorem outputType_of_unknown (types : TypeMap) (mode : IntegerMode) {column : Column}
    (h : TypeFamily.ofType? column.typeName = none) :
    types.outputType mode column = types.unknownOutputType := by
  simp [outputType, outputType?, h]

theorem inputType_of_unknown (types : TypeMap) {column : Column}
    (h : TypeFamily.ofType? column.typeName = none) :
    types.inputType column = types.unknownInputType := by
  simp [inputType, inputType?, h]

end TypeMap

end QueryBindings
