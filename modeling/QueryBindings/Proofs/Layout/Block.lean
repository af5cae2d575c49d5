import QueryBindings.Binding.Declaration
import QueryBindings.Proofs.Text.Contained

/-!
# Blocks

The generated code of one query, written down without templates: the parameter
types, the result types, a blank line, and the exported constant with its two
binding functions.  Texts of the query stand in it as they are.
-/

namespace QueryBindings.Block

def descriptionLine (column : Column) : String :=
  if Text.isAllBlank column.comment then "" else "\t/** " ++ column.comment ++ " */\n"

def objectLine (column : Column) (type : String) : String :=
  descriptionLine column ++ "\t\"" ++ column.name ++ "\": " ++ type ++ ";\n"

def tupleLine (column : Column) (type : String) : String :=
  "\t" ++ column.name ++ ": " ++ type ++ ",\n"

def objectType (name : String) (columns : List Column) (typeOf : Column → String) : String :=
  "type " ++ name ++ " = \x7b\n" ++
    String.join (columns.map fun column => objectLine column (typeOf column)) ++ "\x7d;\n"

def tupleType (name : String) (columns : List Column) (typeOf : Column → String) : String :=
  "type " ++ name ++ " = [\n" ++
    String.join (columns.map fun column => tupleLine column (typeOf column)) ++ "];\n"

def parameterTypes (types : TypeMap) (name : String) (columns : List Column) : String :=
  if columns.isEmpty then
    "type " ++ name ++ "ParametersNamed = Record<string, never>;\n" ++
      "type " ++ name ++ "ParametersAnonymous = [];\n"
  else
    objectType (name ++ "ParametersNamed") columns types.inputType ++
      tupleType (name ++ "ParametersAnonymous") columns types.inputType

/-- The type of one result shape; without rows or columns it has no values. -/
def resultType (types : TypeMap) (name : String) (command : Command) (columns : List Column)
    (shape : ResultShape) : String :=
  if command = .exec ∨ columns = [] then "type " ++ name ++ shape.suffix ++ " = never;\n"
  else
    match shape.rowMode with
    | .object => objectType (name ++ shape.suffix) columns (types.outputType shape.integerMode)
    | .tuple => tupleType (name ++ shape.suffix) columns (types.outputType shape.integerMode)

def typeSuffixes : List String :=
  ["ParametersNamed", "ParametersAnonymous"] ++ ResultShape.all.map ResultShape.suffix

/-- What a bound query is: one alternative on a line for each result shape. -/
def boundTypes (name : QueryName) (command : Command) : String :=
  "\n".intercalate (ResultShape.all.map fun shape =>
    "\t\t\t| BoundQuery<\"" ++ command.resultMode ++ "\", \"" ++ name.connectionMode.code ++
      "\", " ++ name.name ++ shape.suffix ++ ">")

/-- A binding function, given the lines of the parameters that it passes on. -/
def bindingFunction (name : QueryName) (command : Command)
    (mode parametersSuffix parameters : String) : String :=
  "\t\t" ++ mode ++ ": (\n" ++
    "\t\t\tparameters: " ++ name.name ++ parametersSuffix ++
      ", configuration?: \x7b rowMode?: \"object\" | \"tuple\"" ++
      ", integerMode?: \"number\" | \"bigint\" \x7d\n" ++
    "\t\t):\n" ++
    boundTypes name command ++ " => \x7b\n" ++
    "\t\t\treturn \x7b\n" ++
    "\t\t\t\tname: " ++ name.valueName ++ ".name,\n" ++
    "\t\t\t\tquery: " ++ name.valueName ++ ".query,\n" ++
    parameters ++
    "\t\t\t\trowMode: configuration?.rowMode ?? \"object\",\n" ++
    "\t\t\t\tintegerMode: configuration?.integerMode ?? \"number\",\n" ++
    "\t\t\t\tresultMode: \"" ++ command.resultMode ++ "\",\n" ++
    "\t\t\t\tconnectionMode: \"" ++ name.connectionMode.code ++ "\",\n" ++
    "\t\t\t\x7d;\n" ++
    "\t\t\x7d,\n"

def namedParameters (columns : List Column) : String :=
  "\t\t\t\tparameters: [\n" ++
    String.join (columns.map fun column => "\t\t\t\t\tparameters[\"" ++ column.name ++ "\"],\n") ++
    "\t\t\t\t],\n"

def anonymousParameters : String := "\t\t\t\tparameters,\n"

def exportHead (name : QueryName) (command : Command) (tag : String) : String :=
  "export const " ++ name.valueName ++ ": Query<\n" ++
    "\t\"" ++ command.resultMode ++ "\",\n" ++
    "\t\"" ++ name.connectionMode.code ++ "\",\n" ++
    ",\n".intercalate (typeSuffixes.map fun suffix => "\t" ++ name.name ++ suffix) ++ "\n" ++
    "> = \x7b\n" ++
    "\tname: \"" ++ name.name ++ "\",\n" ++
    "\tquery: `-- name: " ++ name.name ++ " " ++ tag ++ "\n"

def exportTail (name : QueryName) (command : Command) (columns : List Column) : String :=
  "`,\n" ++
    "\tbind: \x7b\n" ++
    bindingFunction name command "named" "ParametersNamed" (namedParameters columns) ++
    bindingFunction name command "anonymous" "ParametersAnonymous" anonymousParameters ++
    "\t\x7d\n" ++
    "\x7d as const;\n"

def parameterColumns (query : Query) : List Column :=
  query.params.filterMap Parameter.column

def text (types : TypeMap) (query : Query) (name : QueryName) (command : Command) : String :=
  parameterTypes types name.name (parameterColumns query) ++
    String.join (ResultShape.all.map (resultType types name.name command query.columns)) ++
    "\n" ++
    exportHead name command query.cmd ++ query.text ++
    exportTail name command (parameterColumns query)

open Text (Contains) in
theorem text_contains_bindings (types : TypeMap) (query : Query) (name : QueryName)
    (command : Command) :
    Contains (text types query name command)
        (bindingFunction name command "named" "ParametersNamed"
          (namedParameters (parameterColumns query))) ∧
      Contains (text types query name command)
        (bindingFunction name command "anonymous" "ParametersAnonymous"
          anonymousParameters) := by
  have htail : Contains (text types query name command)
      (exportTail name command (parameterColumns query)) :=
    (Contains.refl _).append_left _
  unfold exportTail at htail
  refine ⟨htail.trans ?_, htail.trans ?_⟩
  · exact ((((Contains.refl _).append_left _).append_right _).append_right _).append_right _
  · exact (((Contains.refl _).append_left _).append_right _).append_right _

def fileHeader (typesPath : String) : String :=
  "/* c8 ignore start */\n\n" ++
    "import type \x7b BoundQuery, Query \x7d from \"" ++ typesPath ++ "\"\n\n"

def fileFooter : String := "/* c8 ignore stop */\n"

def fileText (typesPath : String) (blocks : List String) : String :=
  fileHeader typesPath ++ String.join (blocks.map (· ++ "\n")) ++ fileFooter

end QueryBindings.Block
