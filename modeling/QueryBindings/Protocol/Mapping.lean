import QueryBindings.Json.Integer
import QueryBindings.Json.Printer
import QueryBindings.Protocol.Message
import QueryBindings.Text.Base64

/-!
# The JSON form of messages

The JSON mapping of proto3, with unknown fields ignored.  A message is an object with
a member for each field, under the field's JSON name or its own.  Members are taken in
one after another.  Null gives a field its empty value, and keys that name no field are
passed over.
-/

namespace QueryBindings.Protocol

open Json (JsonString Value Members)

class Mapped (α : Type) [Inhabited α] where
  type : MessageType
  absorb : α → Nat → Value → Option α
  /-- The values of the fields in the order of their numbers, without empty ones. -/
  toValues : α → List (Nat × Value)

/-! ## Keys -/

def isQualifiedChar (c : Char) : Bool :=
  ('a' ≤ c && c ≤ 'z') || ('A' ≤ c && c ≤ 'Z') || ('0' ≤ c && c ≤ '9') || c == '.' || c == '_'

/--
Whether a key is a qualified name in brackets, which names an extension and not
a field; a line break after the brackets makes no difference.
-/
def isBracketed : List Char → Bool
  | '[' :: rest =>
      let after := rest.dropWhile isQualifiedChar
      after == [']'] || after == [']', '\n']
  | _ => false

inductive KeyMeaning where
  | field (number : Nat)
  | extension
  | unknown
  deriving DecidableEq, Repr

def MessageType.meaning (type : MessageType) (key : JsonString) : KeyMeaning :=
  match key.toChars? with
  | none => .unknown
  | some chars =>
      match type.numberOfKey? (String.ofList chars) with
      | some number => .field number
      | none => if isBracketed chars then .extension else .unknown

namespace Mapped

variable {α : Type} [Inhabited α] [Mapped α]

def absorbMember (message : α) (member : JsonString × Value) : Option α :=
  match (type α).meaning member.1 with
  | .field number => absorb message number member.2
  | .extension => none
  | .unknown => some message

def absorbMembers (message : α) : Members → Option α
  | [] => some message
  | member :: rest =>
      match absorbMember message member with
      | none => none
      | some message => absorbMembers message rest

/-- Whether a value is a text that could be the key of no field. -/
def isUnknownKey (type : MessageType) : Value → Bool
  | .text key => type.meaning key == .unknown
  | _ => false

/--
Take in the members of an object.  A list of keys stands for an object without
values, which only keys of no field can be; a text is such a list of
single characters.
-/
def absorbValue (message : α) : Value → Option α
  | .object members => absorbMembers message members
  | .array keys => if keys.all (isUnknownKey (type α)) then some message else none
  | .text _ => some message
  | _ => none

def ofValue (value : Value) : Option α :=
  absorbValue default value

def toValue (message : α) : Value :=
  .object ((toValues message).map fun field =>
    (JsonString.ofString ((type α).keyOf field.1), field.2))

def print (message : α) : List Char :=
  Json.print (toValue message)

end Mapped

/-! ## Values of fields -/

def text? : Value → Option String
  | .text s => s.toString?
  | _ => none

def bool? : Value → Option Bool
  | .bool b => some b
  | _ => none

def int32? (value : Value) : Option Int32 :=
  match value.integer? with
  | some n => if -0x80000000 ≤ n ∧ n < 0x80000000 then some (Int32.ofInt n) else none
  | none => none

def bytes? (value : Value) : Option Text.Bytes :=
  (text? value).bind Base64.decode

def orEmpty {α : Type} [Inhabited α] (read : Value → Option α) : Value → Option α
  | .null => some default
  | value => read value

def readAll {α : Type} (read : Value → Option α) : List Value → Option (List α)
  | [] => some []
  | item :: rest =>
      match read item with
      | none => none
      | some value => (readAll read rest).map (value :: ·)

/-- The values of an array, none of which may be null. -/
def items? {α : Type} (read : Value → Option α) : Value → Option (List α)
  | .array items => readAll read items
  | _ => none

/-- A message inside a message, which takes in what is there already. -/
def message? {α : Type} [Inhabited α] [Mapped α] (present : Option α) : Value → Option (Option α)
  | .null => some none
  | value => (Mapped.absorbValue (present.getD default) value).map some

def textValue (number : Nat) (s : String) : List (Nat × Value) :=
  if s = "" then [] else [(number, .text (JsonString.ofString s))]

def bytesValue (number : Nat) (content : Text.Bytes) : List (Nat × Value) :=
  if content.isEmpty then []
  else [(number, .text ((Base64.encode content).map Json.CodePoint.scalar))]

def boolValue (number : Nat) (b : Bool) : List (Nat × Value) :=
  if b then [(number, .bool true)] else []

def int32Value (number : Nat) (n : Int32) : List (Nat × Value) :=
  if n = 0 then [] else [(number, .int n.toInt)]

def optionalValue {α : Type} [Inhabited α] [Mapped α] (number : Nat) (message : Option α) :
    List (Nat × Value) :=
  (message.map fun message => (number, Mapped.toValue message)).toList

def repeatedValue (number : Nat) (items : List Value) : List (Nat × Value) :=
  if items.isEmpty then [] else [(number, .array items)]

/-! ## The messages -/

instance : Mapped Identifier where
  type := .identifier
  absorb message number value :=
    match number with
    | 1 => (orEmpty text? value).map fun s => { message with catalog := s }
    | 2 => (orEmpty text? value).map fun s => { message with schema := s }
    | 3 => (orEmpty text? value).map fun s => { message with name := s }
    | _ => none
  toValues message :=
    textValue 1 message.catalog ++ textValue 2 message.schema ++ textValue 3 message.name

instance : Mapped Column where
  type := .column
  absorb message number value :=
    match number with
    | 1 => (orEmpty text? value).map fun s => { message with name := s }
    | 3 => (orEmpty bool? value).map fun b => { message with notNull := b }
    | 4 => (orEmpty bool? value).map fun b => { message with isArray := b }
    | 5 => (orEmpty text? value).map fun s => { message with comment := s }
    | 12 => (message? message.type value).map fun type => { message with type := type }
    | _ => none
  toValues message :=
    textValue 1 message.name ++ boolValue 3 message.notNull ++ boolValue 4 message.isArray ++
      textValue 5 message.comment ++ optionalValue 12 message.type

instance : Mapped Parameter where
  type := .parameter
  absorb message number value :=
    match number with
    | 1 => (orEmpty int32? value).map fun n => { message with number := n }
    | 2 => (message? message.column value).map fun column => { message with column := column }
    | _ => none
  toValues message := int32Value 1 message.number ++ optionalValue 2 message.column

instance : Mapped Query where
  type := .query
  absorb message number value :=
    match number with
    | 1 => (orEmpty text? value).map fun s => { message with text := s }
    | 2 => (orEmpty text? value).map fun s => { message with name := s }
    | 3 => (orEmpty text? value).map fun s => { message with cmd := s }
    | 4 =>
        (orEmpty (items? Mapped.ofValue) value).map fun columns =>
          { message with columns := columns }
    | 5 =>
        (orEmpty (items? Mapped.ofValue) value).map fun params =>
          { message with params := params }
    | 6 => (orEmpty (items? text?) value).map fun texts => { message with comments := texts }
    | 7 => (orEmpty text? value).map fun s => { message with filename := s }
    | _ => none
  toValues message :=
    textValue 1 message.text ++ textValue 2 message.name ++ textValue 3 message.cmd ++
      repeatedValue 4 (message.columns.map Mapped.toValue) ++
      repeatedValue 5 (message.params.map Mapped.toValue) ++
      repeatedValue 6 (message.comments.map fun s => .text (JsonString.ofString s)) ++
      textValue 7 message.filename

instance : Mapped Request where
  type := .request
  absorb message number value :=
    match number with
    | 3 =>
        (orEmpty (items? Mapped.ofValue) value).map fun queries =>
          { message with queries := queries }
    | 4 => (orEmpty text? value).map fun s => { message with compilerVersion := s }
    | 5 => (orEmpty bytes? value).map fun content => { message with pluginOptions := content }
    | 6 => (orEmpty bytes? value).map fun content => { message with globalOptions := content }
    | _ => none
  toValues message :=
    repeatedValue 3 (message.queries.map Mapped.toValue) ++ textValue 4 message.compilerVersion ++
      bytesValue 5 message.pluginOptions ++ bytesValue 6 message.globalOptions

instance : Mapped File where
  type := .file
  absorb message number value :=
    match number with
    | 1 => (orEmpty text? value).map fun s => { message with name := s }
    | 2 => (orEmpty bytes? value).map fun content => { message with contents := content }
    | _ => none
  toValues message := textValue 1 message.name ++ bytesValue 2 message.contents

instance : Mapped Response where
  type := .response
  absorb message number value :=
    match number with
    | 1 =>
        (orEmpty (items? Mapped.ofValue) value).map fun files => { message with files := files }
    | _ => none
  toValues message := repeatedValue 1 (message.files.map Mapped.toValue)

end QueryBindings.Protocol
