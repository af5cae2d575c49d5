import QueryBindings.Protocol.Schema

/-!
# Messages

The messages of the plugin protocol as values.  A field that is not sent has the
empty value of its type; only for a message inside a message does it matter
whether it is there.
-/

namespace QueryBindings.Protocol

/-- A name of the database, with the names of what it belongs to. -/
structure Identifier where
  catalog : String := ""
  schema : String := ""
  name : String := ""
  deriving DecidableEq, Repr, Inhabited

structure Column where
  name : String := ""
  notNull : Bool := false
  isArray : Bool := false
  comment : String := ""
  type : Option Identifier := none
  deriving DecidableEq, Repr, Inhabited

structure Parameter where
  number : Int32 := 0
  column : Option Column := none
  deriving DecidableEq, Repr, Inhabited

structure Query where
  text : String := ""
  name : String := ""
  cmd : String := ""
  columns : List Column := []
  params : List Parameter := []
  comments : List String := []
  filename : String := ""
  deriving DecidableEq, Repr, Inhabited

structure Request where
  queries : List Query := []
  compilerVersion : String := ""
  pluginOptions : Text.Bytes := []
  globalOptions : Text.Bytes := []
  deriving DecidableEq, Repr, Inhabited

structure File where
  name : String := ""
  contents : Text.Bytes := []
  deriving DecidableEq, Repr, Inhabited

structure Response where
  files : List File := []
  deriving DecidableEq, Repr, Inhabited

end QueryBindings.Protocol
