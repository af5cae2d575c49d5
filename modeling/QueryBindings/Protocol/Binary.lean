import QueryBindings.Protocol.Message

/-!
# The binary form of messages

The binary encoding of proto3.  A message is read by taking in its fields one after
another, starting from the empty message.  A number, a truth value or a text replaces
the one before, an item is appended, and a message inside a message takes in more
fields.  Fields that are not declared, or come in another form, are passed over.
Because reading is a fold over fields, bytes one after the other are read one after
the other.
-/

namespace QueryBindings.Protocol

open Text (Bytes)

inductive BinaryFault where
  | corrupt
  /-- A text field that is not UTF-8. -/
  | invalidText
  deriving DecidableEq, Repr

namespace BinaryFault

def message : BinaryFault → String
  | corrupt => "Wire format was corrupt"
  | invalidText => "String field had bad UTF-8"

end BinaryFault

class Binary (α : Type) [Inhabited α] where
  absorb : α → Wire.Field → Except BinaryFault α
  /-- The fields in the order of their numbers, without those of empty value. -/
  toFields : α → List Wire.Field

namespace Binary

variable {α : Type} [Inhabited α] [Binary α]

def absorbAll (message : α) : List Wire.Field → Except BinaryFault α
  | [] => .ok message
  | field :: rest =>
      match absorb message field with
      | .error fault => .error fault
      | .ok message => absorbAll message rest

/--
Take in the fields of bytes.  Bytes that end inside a field are a fault, unless
one of the fields before has a fault of its own.
-/
def absorbBytes (message : α) (bytes : Bytes) : Except BinaryFault α :=
  let reading := Wire.readFields bytes
  match absorbAll message reading.fields with
  | .error fault => .error fault
  | .ok message => if reading.whole then .ok message else .error .corrupt

def decode (bytes : Bytes) : Except BinaryFault α :=
  absorbBytes default bytes

def encode (message : α) : Bytes :=
  Wire.writeFields (toFields message)

theorem absorbAll_append (message : α) (first second : List Wire.Field) :
    absorbAll message (first ++ second) =
      (absorbAll message first).bind fun message => absorbAll message second := by
  induction first generalizing message with
  | nil => rfl
  | cons field rest ih =>
      simp only [List.cons_append, absorbAll]
      cases absorb message field with
      | error fault => rfl
      | ok message => exact ih message

end Binary

def readText (content : Bytes) : Except BinaryFault String :=
  (Text.decode content).mapError fun _ => .invalidText

/-- The number of a field: its lowest 32 bits, the highest of them as the sign. -/
def readInt32 (n : UInt64) : Int32 :=
  n.toUInt32.toInt32

/-- A negative number is written with all of its 64 bits. -/
def writeInt32 (n : Int32) : UInt64 :=
  n.toInt64.toUInt64

def textField (number : Nat) (s : String) : List Wire.Field :=
  if s = "" then [] else [(number, .bytes (Text.encode s))]

def bytesField (number : Nat) (content : Bytes) : List Wire.Field :=
  if content.isEmpty then [] else [(number, .bytes content)]

def boolField (number : Nat) (b : Bool) : List Wire.Field :=
  if b then [(number, .varint 1)] else []

def int32Field (number : Nat) (n : Int32) : List Wire.Field :=
  if n = 0 then [] else [(number, .varint (writeInt32 n))]

/-- A message inside a message, even an empty one, makes a field. -/
def messageField {α : Type} [Inhabited α] [Binary α] (number : Nat) (message : α) : Wire.Field :=
  (number, .bytes (Binary.encode message))

def optionalField {α : Type} [Inhabited α] [Binary α] (number : Nat) (message : Option α) :
    List Wire.Field :=
  (message.map (messageField number)).toList

def repeatedFields {α : Type} [Inhabited α] [Binary α] (number : Nat) (messages : List α) :
    List Wire.Field :=
  messages.map (messageField number)

instance : Binary Identifier where
  absorb message
    | (1, .bytes content) => (readText content).map fun s => { message with catalog := s }
    | (2, .bytes content) => (readText content).map fun s => { message with schema := s }
    | (3, .bytes content) => (readText content).map fun s => { message with name := s }
    | _ => .ok message
  toFields message :=
    textField 1 message.catalog ++ textField 2 message.schema ++ textField 3 message.name

instance : Binary Column where
  absorb message
    | (1, .bytes content) => (readText content).map fun s => { message with name := s }
    | (3, .varint n) => .ok { message with notNull := n != 0 }
    | (4, .varint n) => .ok { message with isArray := n != 0 }
    | (5, .bytes content) => (readText content).map fun s => { message with comment := s }
    | (12, .bytes content) =>
        (Binary.absorbBytes (message.type.getD default) content).map fun type =>
          { message with type := some type }
    | _ => .ok message
  toFields message :=
    textField 1 message.name ++ boolField 3 message.notNull ++ boolField 4 message.isArray ++
      textField 5 message.comment ++ optionalField 12 message.type

instance : Binary Parameter where
  absorb message
    | (1, .varint n) => .ok { message with number := readInt32 n }
    | (2, .bytes content) =>
        (Binary.absorbBytes (message.column.getD default) content).map fun column =>
          { message with column := some column }
    | _ => .ok message
  toFields message := int32Field 1 message.number ++ optionalField 2 message.column

instance : Binary Query where
  absorb message
    | (1, .bytes content) => (readText content).map fun s => { message with text := s }
    | (2, .bytes content) => (readText content).map fun s => { message with name := s }
    | (3, .bytes content) => (readText content).map fun s => { message with cmd := s }
    | (4, .bytes content) =>
        (Binary.decode content).map fun column =>
          { message with columns := message.columns ++ [column] }
    | (5, .bytes content) =>
        (Binary.decode content).map fun parameter =>
          { message with params := message.params ++ [parameter] }
    | (6, .bytes content) =>
        (readText content).map fun s => { message with comments := message.comments ++ [s] }
    | (7, .bytes content) => (readText content).map fun s => { message with filename := s }
    | _ => .ok message
  toFields message :=
    textField 1 message.text ++ textField 2 message.name ++ textField 3 message.cmd ++
      repeatedFields 4 message.columns ++ repeatedFields 5 message.params ++
      message.comments.map (fun s => (6, .bytes (Text.encode s))) ++
      textField 7 message.filename

instance : Binary Request where
  absorb message
    | (3, .bytes content) =>
        (Binary.decode content).map fun query =>
          { message with queries := message.queries ++ [query] }
    | (4, .bytes content) => (readText content).map fun s => { message with compilerVersion := s }
    | (5, .bytes content) => .ok { message with pluginOptions := content }
    | (6, .bytes content) => .ok { message with globalOptions := content }
    | _ => .ok message
  toFields message :=
    repeatedFields 3 message.queries ++ textField 4 message.compilerVersion ++
      bytesField 5 message.pluginOptions ++ bytesField 6 message.globalOptions

instance : Binary File where
  absorb message
    | (1, .bytes content) => (readText content).map fun s => { message with name := s }
    | (2, .bytes content) => .ok { message with contents := content }
    | _ => .ok message
  toFields message := textField 1 message.name ++ bytesField 2 message.contents

instance : Binary Response where
  absorb message
    | (1, .bytes content) =>
        (Binary.decode content).map fun file => { message with files := message.files ++ [file] }
    | _ => .ok message
  toFields message := repeatedFields 1 message.files

end QueryBindings.Protocol
