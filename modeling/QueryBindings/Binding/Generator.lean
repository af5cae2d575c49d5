import QueryBindings.Binding.Declaration
import QueryBindings.Binding.Layout
import QueryBindings.Log.Traced

/-!
# Generating modules

From a batch of queries to one module for each source file.  A query is checked
name first, then command, then parameters; the first fault ends the whole batch.
-/

namespace QueryBindings

structure Generator where
  /-- The module that generated files import their types from. -/
  typesPath : String
  types : TypeMap := {}
  library : Template.Library := Layout.library

inductive GenerateFault where
  | query (fault : QueryFault)
  | template (name : String) (fault : Template.RenderFault)
  deriving DecidableEq, Repr

namespace GenerateFault

def message : GenerateFault → String
  | query fault => fault.message
  | template name fault => fault.message name

end GenerateFault

open Template (Value Scope)
open Log (Traced Level)

namespace Member

def toValue (member : Member) : Value :=
  .record [("name", .text member.name), ("type", .text member.type),
    ("comment", (member.comment.map Value.text).getD .none)]

/-- A member of a positional type, which shows no comment. -/
def toPositionalValue (member : Member) : Value :=
  .record [("name", .text member.name), ("type", .text member.type)]

end Member

namespace ResultDeclaration

def toValue (declaration : ResultDeclaration) : Value :=
  .record [("suffix", .text declaration.shape.suffix),
    ("row_mode", .text declaration.shape.rowMode.name),
    ("members",
      match declaration.members with
      | none => .none
      | some members => .list (members.map Member.toValue))]

end ResultDeclaration

def bindings : List Value :=
  [.record [("mode", .text "named"), ("parameters_suffix", .text "ParametersNamed"),
      ("by_name", .bool true)],
    .record [("mode", .text "anonymous"), ("parameters_suffix", .text "ParametersAnonymous"),
      ("by_name", .bool false)]]

def queryScope (query : Query) (name : QueryName) (command : Command) (members : List Member)
    (results : List ResultDeclaration) : Scope :=
  [("name", .text name.name), ("value_name", .text name.valueName),
    ("command_tag", .text query.cmd), ("sql", .text query.text),
    ("result_mode", .text command.resultMode),
    ("connection_mode", .text name.connectionMode.code),
    ("has_parameters", .bool (!query.params.isEmpty)),
    ("named_parameters", .list (members.map Member.toValue)),
    ("anonymous_parameters", .list (members.map Member.toPositionalValue)),
    ("results", .list (results.map ResultDeclaration.toValue)),
    ("type_names", .list (name.typeNames.map Value.text)),
    ("bindings", .list bindings),
    ("configuration_type", .text configurationType),
    ("default_row_mode", .text ResultShape.standard.rowMode.name),
    ("default_integer_mode", .text ResultShape.standard.integerMode.name)]

def fileScope (typesPath : String) (blocks : List String) : Scope :=
  [("types_path", .text typesPath), ("blocks", .list (blocks.map Value.text))]

/-- The ending of source files, which generated files do not keep. -/
def sourceSuffix : String := ".sql"

def fileExtension : String := ".ts"

def languageName : String := "typescript"

def moduleFileName (source : String) : String :=
  let cs := source.toList
  let stem :=
    if sourceSuffix.toList.isSuffixOf cs then cs.take (cs.length - sourceSuffix.length) else cs
  String.ofList stem ++ fileExtension

namespace Generator

def render (generator : Generator) (name : String) (scope : Scope) :
    Except GenerateFault String :=
  (generator.library.render name scope).mapError (.template name)

def generateQuery (generator : Generator) (query : Query) : Traced GenerateFault String := do
  let name ← .ofExcept ((QueryName.parse query.name).mapError .query)
  let command ← .ofExcept ((Command.ofTag query.cmd).mapError .query)
  Traced.log Level.debug ("Serializing " ++ name.name ++ " (" ++ command.tag ++ ")")
  let members ← .ofExcept ((generator.types.parameterMembers query).mapError .query)
  let results := generator.types.resultDeclarations query command
  .ofExcept (generator.render Layout.queryTemplate
    (queryScope query name command members results))

def generateBlocks (generator : Generator) : List Query → Traced GenerateFault (List String)
  | [] => pure []
  | query :: rest => do
      let block ← generator.generateQuery query
      let blocks ← generator.generateBlocks rest
      pure (block :: blocks)

def generateFile (generator : Generator) (group : FileGroup) :
    Traced GenerateFault OutputFile := do
  Traced.log Level.debug
    ("Generating " ++ group.filename ++ " (" ++ toString group.queries.length ++ " queries)")
  let blocks ← generator.generateBlocks group.queries
  let contents ← .ofExcept
    (generator.render Layout.fileTemplate (fileScope generator.typesPath blocks))
  pure ⟨moduleFileName group.filename, contents⟩

def generateFiles (generator : Generator) :
    List FileGroup → Traced GenerateFault (List OutputFile)
  | [] => pure []
  | group :: rest => do
      let file ← generator.generateFile group
      let files ← generator.generateFiles rest
      pure (file :: files)

/-- One file for each source file of a batch. -/
def generate (generator : Generator) (queries : List Query) :
    Traced GenerateFault (List OutputFile) :=
  generator.generateFiles (FileGroup.ofBatch queries)

def textWarning? (query : Query) : Option String :=
  if Text.isAllBlank query.text then
    some ("Query '" ++ query.name ++ "' has no SQL text")
  else none

def shownType : Option String → String
  | none => "None"
  | some typeName => Text.quoted typeName

def typeWarning? (query : Query) (role fallback : String) (column : Column) : Option String :=
  match TypeFamily.ofType? column.typeName with
  | some _ => none
  | none =>
      some ("Unknown type " ++ shownType column.typeName ++ " for " ++ role ++ " " ++
        query.name ++ "." ++ column.name ++ ", using " ++ fallback)

def typeWarnings (generator : Generator) (query : Query) : List String :=
  query.columns.filterMap
      (typeWarning? query "column" generator.types.unknownOutputType) ++
    query.params.filterMap fun parameter =>
      parameter.column.bind
        (typeWarning? query "parameter" generator.types.unknownInputType)

/-- All warnings about a batch: missing texts first, then types query by query. -/
def warnings (generator : Generator) (queries : List Query) : List String :=
  queries.filterMap textWarning? ++ queries.flatMap generator.typeWarnings

end Generator

inductive Report where
  | success (files : List OutputFile) (warnings : List String) (queryCount : Nat)
  /-- A faulty query leaves no files and no warnings. -/
  | failure (fault : QueryFault)
  deriving DecidableEq, Repr

structure Metadata where
  language : String
  fileExtension : String
  queryCount : Nat
  fileCount : Nat
  deriving DecidableEq, Repr

namespace Report

def failureMessage (fault : QueryFault) : String :=
  "Code generation failed: " ++ fault.message

def files : Report → List OutputFile
  | success files _ _ => files
  | failure _ => []

def warnings : Report → List String
  | success _ warnings _ => warnings
  | failure _ => []

def metadata? : Report → Option Metadata
  | success files _ queryCount => some ⟨languageName, fileExtension, queryCount, files.length⟩
  | failure _ => none

def fault? : Report → Option QueryFault
  | success _ _ _ => none
  | failure fault => some fault

end Report

namespace Generator

/--
Generate code for a batch and report.  Faults of queries are part of the report;
a template that cannot be rendered is a fault of the generator itself.
-/
def report (generator : Generator) (queries : List Query) :
    Traced (String × Template.RenderFault) Report :=
  let generated := generator.generate queries
  match generated.outcome with
  | .ok files =>
      let warnings := generator.warnings queries
      ⟨generated.records ++ warnings.map fun warning => ⟨Level.warning, warning⟩,
        .ok (.success files warnings queries.length)⟩
  | .error (.query fault) =>
      ⟨generated.records ++ [⟨Level.error, Report.failureMessage fault⟩],
        .ok (.failure fault)⟩
  | .error (.template name fault) => ⟨generated.records, .error (name, fault)⟩

end Generator

end QueryBindings
