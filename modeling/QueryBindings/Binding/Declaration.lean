import QueryBindings.Binding.TypeMap
import QueryBindings.Query.Command
import QueryBindings.Query.Name

/-!
# Declarations of a query

What the generated code of a query declares: the members of its parameter types
and those of its four result types.
-/

namespace QueryBindings

structure Member where
  name : String
  type : String
  comment : Option String
  deriving DecidableEq, Repr

/-- The declaration of one result type; without members the type has no values. -/
structure ResultDeclaration where
  shape : ResultShape
  members : Option (List Member)
  deriving DecidableEq, Repr

namespace TypeMap

/-- The member of a parameter, which takes its name from the column bound to it. -/
def parameterMember (types : TypeMap) (query : Query) (parameter : Parameter) :
    Except QueryFault Member :=
  match parameter.column with
  | none => .error (.unresolvedParameter query.name parameter.number)
  | some column => .ok ⟨column.name, types.inputType column, column.comment?⟩

/-- The members of parameters in order, or the first parameter without a column. -/
def membersOf (types : TypeMap) (query : Query) :
    List Parameter → Except QueryFault (List Member)
  | [] => .ok []
  | parameter :: rest =>
      match types.parameterMember query parameter with
      | .error fault => .error fault
      | .ok member => (types.membersOf query rest).map (member :: ·)

def parameterMembers (types : TypeMap) (query : Query) : Except QueryFault (List Member) :=
  types.membersOf query query.params

/-- The member of a result column; only object rows show comments. -/
def resultMember (types : TypeMap) (shape : ResultShape) (column : Column) : Member :=
  ⟨column.name, types.outputType shape.integerMode column,
    if shape.rowMode = .object then column.comment? else none⟩

/-- The four result declarations; without rows or columns none has members. -/
def resultDeclarations (types : TypeMap) (query : Query) (command : Command) :
    List ResultDeclaration :=
  ResultShape.all.map fun shape =>
    ⟨shape,
      if command.returnsRows && !query.columns.isEmpty then
        some (query.columns.map (types.resultMember shape))
      else none⟩

end TypeMap

namespace QueryName

def namedType (name : QueryName) : String := name.name ++ "ParametersNamed"

def anonymousType (name : QueryName) : String := name.name ++ "ParametersAnonymous"

def resultType (name : QueryName) (shape : ResultShape) : String := name.name ++ shape.suffix

def typeNames (name : QueryName) : List String :=
  name.namedType :: name.anonymousType :: ResultShape.all.map name.resultType

end QueryName

def literalUnion (values : List String) : String :=
  " | ".intercalate (values.map fun value => "\"" ++ value ++ "\"")

def configurationType : String :=
  "\x7b rowMode?: " ++ literalUnion (RowMode.all.map RowMode.name) ++ ", integerMode?: " ++
    literalUnion (IntegerMode.all.map IntegerMode.name) ++ " \x7d"

end QueryBindings
