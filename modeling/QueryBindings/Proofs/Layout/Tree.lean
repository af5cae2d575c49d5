import QueryBindings.Binding.Layout
import QueryBindings.Proofs.Template.Piece

/-!
# The trees of the built-in templates

What the two built-in templates read as.  Tags on lines of their own have left
nothing behind: every literal text below is a run of whole lines, up to the
expressions inside them.
-/

namespace QueryBindings.Layout

open Template (ofPieces said printed each either)
open QueryBindings.Expr (ref literal field filtered negation isNone equals choice)

def objectMember (owner : Expr) : List Template :=
  [either (field owner "comment")
      [said "\t", printed (filtered (field owner "comment") "doc_comment"), said "\n"] [],
    said "\t\"", printed (field owner "name"), said "\": ", printed (field owner "type"),
    said ";\n"]

def tupleMember (owner : Expr) : List Template :=
  [said "\t", printed (field owner "name"), said ": ", printed (field owner "type"), said ",\n"]

def parameterTypes : Template :=
  either (ref "has_parameters")
    [said "type ", printed (ref "name"), said "ParametersNamed = \x7b\n",
      each "parameter" (ref "named_parameters") (objectMember (ref "parameter")),
      said "\x7d;\ntype ", printed (ref "name"), said "ParametersAnonymous = [\n",
      each "parameter" (ref "anonymous_parameters") (tupleMember (ref "parameter")),
      said "];\n"]
    [said "type ", printed (ref "name"),
      said "ParametersNamed = Record<string, never>;\ntype ", printed (ref "name"),
      said "ParametersAnonymous = [];\n"]

def resultType : Template :=
  either (isNone (field (ref "result") "members"))
    [said "type ", printed (ref "name"), printed (field (ref "result") "suffix"),
      said " = never;\n"]
    [either (equals (field (ref "result") "row_mode") (literal "object"))
      [said "type ", printed (ref "name"), printed (field (ref "result") "suffix"),
        said " = \x7b\n",
        each "member" (field (ref "result") "members") (objectMember (ref "member")),
        said "\x7d;\n"]
      [said "type ", printed (ref "name"), printed (field (ref "result") "suffix"),
        said " = [\n",
        each "member" (field (ref "result") "members") (tupleMember (ref "member")),
        said "];\n"]]

def boundType : List Template :=
  [said "\t\t\t| BoundQuery<\"", printed (ref "result_mode"), said "\", \"",
    printed (ref "connection_mode"), said "\", ", printed (ref "name"),
    printed (field (ref "result") "suffix"), said ">",
    printed (choice (literal " => \x7b") (field (ref "loop") "last") (literal "")), said "\n"]

def boundParameters : Template :=
  either (field (ref "binding") "by_name")
    [said "\t\t\t\tparameters: [\n",
      each "parameter" (ref "named_parameters")
        [said "\t\t\t\t\tparameters[\"", printed (field (ref "parameter") "name"),
          said "\"],\n"],
      said "\t\t\t\t],\n"]
    [said "\t\t\t\tparameters,\n"]

def bindingFunction : List Template :=
  [said "\t\t", printed (field (ref "binding") "mode"), said ": (\n\t\t\tparameters: ",
    printed (ref "name"), printed (field (ref "binding") "parameters_suffix"),
    said ", configuration?: ", printed (ref "configuration_type"), said "\n\t\t):\n",
    each "result" (ref "results") boundType,
    said "\t\t\treturn \x7b\n\t\t\t\tname: ", printed (ref "value_name"),
    said ".name,\n\t\t\t\tquery: ", printed (ref "value_name"), said ".query,\n",
    boundParameters,
    said "\t\t\t\trowMode: configuration?.rowMode ?? \"", printed (ref "default_row_mode"),
    said "\",\n\t\t\t\tintegerMode: configuration?.integerMode ?? \"",
    printed (ref "default_integer_mode"), said "\",\n\t\t\t\tresultMode: \"",
    printed (ref "result_mode"), said "\",\n\t\t\t\tconnectionMode: \"",
    printed (ref "connection_mode"), said "\",\n\t\t\t\x7d;\n\t\t\x7d,\n"]

def exportHead : List Template :=
  [said "\nexport const ", printed (ref "value_name"), said ": Query<\n\t\"",
    printed (ref "result_mode"), said "\",\n\t\"", printed (ref "connection_mode"),
    said "\",\n",
    each "type_name" (ref "type_names")
      [said "\t", printed (ref "type_name"),
        printed (choice (literal ",") (negation (field (ref "loop") "last")) (literal "")),
        said "\n"],
    said "> = \x7b\n\tname: \"", printed (ref "name"), said "\",\n\tquery: `-- name: ",
    printed (ref "name"), said " ", printed (ref "command_tag"), said "\n",
    printed (ref "sql"), said "`,\n\tbind: \x7b\n"]

def queryTree : Template :=
  ofPieces (parameterTypes :: each "result" (ref "results") [resultType] ::
    (exportHead ++
      [each "binding" (ref "bindings") bindingFunction, said "\t\x7d\n\x7d as const;\n"]))

def fileTree : Template :=
  ofPieces
    [said "/* c8 ignore start */\n\nimport type \x7b BoundQuery, Query \x7d from \"",
      printed (ref "types_path"), said "\"\n\n",
      each "block" (ref "blocks") [printed (ref "block"), said "\n"],
      said "/* c8 ignore stop */\n"]

theorem toList_ofLines (lines : List String) :
    (ofLines lines).toList = lines.flatMap fun line => line.toList ++ ['\n'] := by
  simp [ofLines, String.toList_join, List.flatMap_map]

set_option maxRecDepth 20000 in
theorem read_queryLines : Template.read (ofLines queryLines) = .ok queryTree := by
  unfold Template.read
  rw [toList_ofLines]
  simp only [queryLines, block, hole, String.toList_append, List.flatMap_cons,
    List.flatMap_nil, String.reduceToList]
  rfl

set_option maxRecDepth 20000 in
theorem read_fileLines : Template.read (ofLines fileLines) = .ok fileTree := by
  unfold Template.read
  rw [toList_ofLines]
  simp only [fileLines, block, hole, String.toList_append, List.flatMap_cons,
    List.flatMap_nil, String.reduceToList]
  rfl

theorem unknownFilter?_queryTree : Template.unknownFilter? false queryTree = none := by
  simp [queryTree, parameterTypes, objectMember, tupleMember, resultType, exportHead,
    bindingFunction, boundType, boundParameters, ofPieces, said, printed, each, either,
    Template.append, Template.unknownFilter?, Template.Expr.unknownFilter?]

theorem unknownFilter?_fileTree : Template.unknownFilter? false fileTree = none := by
  simp [fileTree, ofPieces, said, printed, each, Template.append, Template.unknownFilter?,
    Template.Expr.unknownFilter?]

theorem load_of_read {library : Template.Library} {name source : String}
    {template : Template} (hlookup : library.lookup name = some source)
    (hread : Template.read source = .ok template)
    (hfilter : Template.unknownFilter? false template = none) :
    library.load name = .ok template := by
  simp [Template.Library.load, hlookup, hread, hfilter]

theorem load_queryTemplate : library.load queryTemplate = .ok queryTree := by
  have hlookup : library.lookup queryTemplate = some (ofLines queryLines) := by
    simp only [library, List.lookup_cons, beq_self_eq_true]
  exact load_of_read hlookup read_queryLines unknownFilter?_queryTree

theorem load_fileTemplate : library.load fileTemplate = .ok fileTree := by
  have hnames : (fileTemplate == queryTemplate) = false := by
    simp [fileTemplate, queryTemplate]
  have hlookup : library.lookup fileTemplate = some (ofLines fileLines) := by
    simp only [library, List.lookup_cons, hnames, beq_self_eq_true]
  exact load_of_read hlookup read_fileLines unknownFilter?_fileTree

end QueryBindings.Layout
