/-!
# Type families

The database types that a mapping to host types recognises, grouped into
families of one representation each.
-/

namespace QueryBindings

/-- Database types that share their representation. -/
inductive TypeFamily where
  | integer
  | float
  | blob
  | boolean
  | text
  deriving DecidableEq, Repr

namespace TypeFamily

def name : TypeFamily → String
  | integer => "integer"
  | float => "float"
  | blob => "blob"
  | boolean => "boolean"
  | text => "text"

def known : List (String × TypeFamily) :=
  [("int", integer), ("integer", integer), ("tinyint", integer), ("smallint", integer),
    ("mediumint", integer), ("bigint", integer), ("unsignedbigint", integer),
    ("int2", integer), ("int8", integer),
    ("real", float), ("double", float), ("doubleprecisionfloat", float), ("float", float),
    ("blob", blob),
    ("bool", boolean), ("boolean", boolean),
    ("text", text), ("varchar", text)]

/-- The family of a database type; a missing type has none. -/
def ofType? : Option String → Option TypeFamily
  | none => none
  | some typeName => known.lookup typeName

end TypeFamily

end QueryBindings
