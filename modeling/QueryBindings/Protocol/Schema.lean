import QueryBindings.Protocol.Naming
import QueryBindings.Wire.Field

/-!
# The schema of the plugin protocol

The messages that a request and a response consist of, with the fields that are
understood.  Every other field of a message is skipped.
-/

namespace QueryBindings.Protocol

inductive MessageType where
  | identifier
  | column
  | parameter
  | query
  | request
  | file
  | response
  deriving DecidableEq, Repr

inductive FieldType where
  | text
  | bool
  | int32
  | bytes
  | message (type : MessageType)
  deriving DecidableEq, Repr

namespace FieldType

def code : FieldType → Nat
  | text => 9
  | bool => 8
  | int32 => 5
  | bytes => 12
  | message _ => 11

def form : FieldType → Wire.Form
  | text | bytes | message _ => .bytes
  | bool | int32 => .varint

def message? : FieldType → Option MessageType
  | message type => some type
  | _ => none

end FieldType

structure FieldSpec where
  name : String
  number : Nat
  type : FieldType
  repeated : Bool := false
  /-- The name in JSON, where it does not follow from the field's name. -/
  givenJsonName : Option String := none
  deriving DecidableEq, Repr

namespace FieldSpec

def jsonName (spec : FieldSpec) : String :=
  spec.givenJsonName.getD (Protocol.jsonName spec.name)

def label (spec : FieldSpec) : Nat :=
  if spec.repeated then 3 else 1

end FieldSpec

namespace MessageType

def all : List MessageType :=
  [identifier, column, parameter, query, request, file, response]

def name : MessageType → String
  | identifier => "Identifier"
  | column => "Column"
  | parameter => "Parameter"
  | query => "Query"
  | request => "GenerateRequest"
  | file => "File"
  | response => "GenerateResponse"

def ofName? (name : String) : Option MessageType :=
  all.find? fun type => type.name == name

/-- The fields of a message, in the order of their numbers. -/
def fields : MessageType → List FieldSpec
  | identifier =>
      [⟨"catalog", 1, .text, false, none⟩,
        ⟨"schema", 2, .text, false, none⟩,
        ⟨"name", 3, .text, false, none⟩]
  | column =>
      [⟨"name", 1, .text, false, none⟩,
        ⟨"not_null", 3, .bool, false, none⟩,
        ⟨"is_array", 4, .bool, false, none⟩,
        ⟨"comment", 5, .text, false, none⟩,
        ⟨"type", 12, .message identifier, false, none⟩]
  | parameter =>
      [⟨"number", 1, .int32, false, none⟩,
        ⟨"column", 2, .message column, false, none⟩]
  | query =>
      [⟨"text", 1, .text, false, none⟩,
        ⟨"name", 2, .text, false, none⟩,
        ⟨"cmd", 3, .text, false, none⟩,
        ⟨"columns", 4, .message column, true, none⟩,
        ⟨"params", 5, .message parameter, true, some "parameters"⟩,
        ⟨"comments", 6, .text, true, none⟩,
        ⟨"filename", 7, .text, false, none⟩]
  | request =>
      [⟨"queries", 3, .message query, true, none⟩,
        ⟨"sqlc_version", 4, .text, false, none⟩,
        ⟨"plugin_options", 5, .bytes, false, none⟩,
        ⟨"global_options", 6, .bytes, false, none⟩]
  | file =>
      [⟨"name", 1, .text, false, none⟩,
        ⟨"contents", 2, .bytes, false, none⟩]
  | response => [⟨"files", 1, .message file, true, none⟩]

def field? (type : MessageType) (number : Nat) : Option FieldSpec :=
  type.fields.find? fun spec => spec.number == number

/-- The number of the field that a JSON key stands for, by either of its names. -/
def numberOfKey? (type : MessageType) (key : String) : Option Nat :=
  ((type.fields.find? fun spec => spec.jsonName == key).or
    (type.fields.find? fun spec => spec.name == key)).map FieldSpec.number

def keyOf (type : MessageType) (number : Nat) : String :=
  ((type.field? number).map FieldSpec.jsonName).getD ""

/-- Whether a field on the wire is one of the message's fields in its proper form. -/
def declares (type : MessageType) (number : Nat) (form : Wire.Form) : Bool :=
  type.fields.any fun spec => spec.number == number && spec.type.form == form

end MessageType

def packageName : String := "plugin"

def schemaFile : String := "plugin/codegen.proto"

def schemaDialect : String := "proto3"

def MessageType.fullName (type : MessageType) : String :=
  packageName ++ "." ++ type.name

end QueryBindings.Protocol
