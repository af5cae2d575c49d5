import QueryBindings.Template.Library

/-!
# Built-in templates

The text of a generated module: one block for each query, and the frame of a
file around its blocks.  Every block tag stands on a line of its own, so tags
leave nothing behind in the output.  Generated code is indented with tabs.
-/

namespace QueryBindings.Layout

def block (content : String) : String :=
  "\x7b% " ++ content ++ " %\x7d"

def hole (content : String) : String :=
  "\x7b\x7b " ++ content ++ " \x7d\x7d"

def queryLines : List String :=
  [
    block "if has_parameters",
    "type " ++ hole "name" ++ "ParametersNamed = \x7b",
    block "for parameter in named_parameters",
    block "if parameter.comment",
    "\t" ++ hole "parameter.comment | doc_comment",
    block "endif",
    "\t\"" ++ hole "parameter.name" ++ "\": " ++ hole "parameter.type" ++ ";",
    block "endfor",
    "\x7d;",
    "type " ++ hole "name" ++ "ParametersAnonymous = [",
    block "for parameter in anonymous_parameters",
    "\t" ++ hole "parameter.name" ++ ": " ++ hole "parameter.type" ++ ",",
    block "endfor",
    "];",
    block "else",
    "type " ++ hole "name" ++ "ParametersNamed = Record<string, never>;",
    "type " ++ hole "name" ++ "ParametersAnonymous = [];",
    block "endif",
    block "for result in results",
    block "if result.members is none",
    "type " ++ hole "name" ++ hole "result.suffix" ++ " = never;",
    block "elif result.row_mode == \"object\"",
    "type " ++ hole "name" ++ hole "result.suffix" ++ " = \x7b",
    block "for member in result.members",
    block "if member.comment",
    "\t" ++ hole "member.comment | doc_comment",
    block "endif",
    "\t\"" ++ hole "member.name" ++ "\": " ++ hole "member.type" ++ ";",
    block "endfor",
    "\x7d;",
    block "else",
    "type " ++ hole "name" ++ hole "result.suffix" ++ " = [",
    block "for member in result.members",
    "\t" ++ hole "member.name" ++ ": " ++ hole "member.type" ++ ",",
    block "endfor",
    "];",
    block "endif",
    block "endfor",
    "",
    "export const " ++ hole "value_name" ++ ": Query<",
    "\t\"" ++ hole "result_mode" ++ "\",",
    "\t\"" ++ hole "connection_mode" ++ "\",",
    block "for type_name in type_names",
    "\t" ++ hole "type_name" ++ hole "\",\" if not loop.last else \"\"",
    block "endfor",
    "> = \x7b",
    "\tname: \"" ++ hole "name" ++ "\",",
    "\tquery: `-- name: " ++ hole "name" ++ " " ++ hole "command_tag",
    hole "sql" ++ "`,",
    "\tbind: \x7b",
    block "for binding in bindings",
    "\t\t" ++ hole "binding.mode" ++ ": (",
    "\t\t\tparameters: " ++ hole "name" ++ hole "binding.parameters_suffix" ++
      ", configuration?: " ++ hole "configuration_type",
    "\t\t):",
    block "for result in results",
    "\t\t\t| BoundQuery<\"" ++ hole "result_mode" ++ "\", \"" ++ hole "connection_mode" ++
      "\", " ++ hole "name" ++ hole "result.suffix" ++ ">" ++
      hole "\" => \x7b\" if loop.last else \"\"",
    block "endfor",
    "\t\t\treturn \x7b",
    "\t\t\t\tname: " ++ hole "value_name" ++ ".name,",
    "\t\t\t\tquery: " ++ hole "value_name" ++ ".query,",
    block "if binding.by_name",
    "\t\t\t\tparameters: [",
    block "for parameter in named_parameters",
    "\t\t\t\t\tparameters[\"" ++ hole "parameter.name" ++ "\"],",
    block "endfor",
    "\t\t\t\t],",
    block "else",
    "\t\t\t\tparameters,",
    block "endif",
    "\t\t\t\trowMode: configuration?.rowMode ?? \"" ++ hole "default_row_mode" ++ "\",",
    "\t\t\t\tintegerMode: configuration?.integerMode ?? \"" ++ hole "default_integer_mode" ++
      "\",",
    "\t\t\t\tresultMode: \"" ++ hole "result_mode" ++ "\",",
    "\t\t\t\tconnectionMode: \"" ++ hole "connection_mode" ++ "\",",
    "\t\t\t\x7d;",
    "\t\t\x7d,",
    block "endfor",
    "\t\x7d",
    "\x7d as const;"
  ]

def fileLines : List String :=
  [
    "/* c8 ignore start */",
    "",
    "import type \x7b BoundQuery, Query \x7d from \"" ++ hole "types_path" ++ "\"",
    "",
    block "for block in blocks",
    hole "block",
    block "endfor",
    "/* c8 ignore stop */"
  ]

def typesPathPosition : Nat :=
  "/* c8 ignore start */\n\nimport type \x7b BoundQuery, Query \x7d from \"".length

def ofLines (lines : List String) : String :=
  String.join (lines.map (· ++ "\n"))

def queryTemplate : String := "query.ts"

def fileTemplate : String := "file.ts"

def library : Template.Library :=
  [(queryTemplate, ofLines queryLines), (fileTemplate, ofLines fileLines)]

end QueryBindings.Layout
