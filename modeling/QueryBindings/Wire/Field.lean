import QueryBindings.Wire.Varint

/-!
# Fields on the wire

The wire format of protocol buffers.  A message is a sequence of fields, each a
number and a payload whose form the field's tag announces.  Groups hold fields of
their own and end with a tag that repeats their number.  Reading yields the fields up
to the first place where the bytes are no field, and says whether that place is the end.
-/

namespace QueryBindings.Wire

open Text (Bytes)

inductive Payload where
  | varint (n : UInt64)
  | fixed64 (n : UInt64)
  | bytes (content : Bytes)
  | group (fields : List (Nat × Payload))
  | fixed32 (n : UInt32)
  deriving Repr

abbrev Field := Nat × Payload

/-! ## Tags -/

/-- How the payload of a field is laid out. -/
inductive Form where
  | varint
  | fixed64
  | bytes
  | groupStart
  | groupEnd
  | fixed32
  deriving DecidableEq, Repr

namespace Form

def code : Form → Nat
  | varint => 0
  | fixed64 => 1
  | bytes => 2
  | groupStart => 3
  | groupEnd => 4
  | fixed32 => 5

/-- The form of a code; two of the eight have none. -/
def ofCode? : Nat → Option Form
  | 0 => some varint
  | 1 => some fixed64
  | 2 => some bytes
  | 3 => some groupStart
  | 4 => some groupEnd
  | 5 => some fixed32
  | _ => none

theorem ofCode?_code (form : Form) : ofCode? form.code = some form := by
  cases form <;> rfl

end Form

structure Tag where
  number : Nat
  form : Form
  deriving DecidableEq, Repr

/-- A tag has at most five bytes. -/
def widestTag : Nat := 5

/-- Every tag is below this number. -/
def tagBound : Nat := 0x100000000

/-- Every length is below this number. -/
def lengthBound : Nat := 0x7FFFFFFF

/-- Read a tag; no field has the number zero. -/
def readTag (bytes : Bytes) : Option (Tag × Bytes) :=
  match readVarint widestTag bytes with
  | none => none
  | some (n, rest) =>
      if n < tagBound ∧ n / 8 ≠ 0 then
        (Form.ofCode? (n % 8)).map fun form => (⟨n / 8, form⟩, rest)
      else none

def writeTag (tag : Tag) : Bytes :=
  writeVarint widestTag (8 * tag.number + tag.form.code)

/-! ## Payloads -/

/-- Read a number of 64 bits; higher bits are lost. -/
def readWord (bytes : Bytes) : Option (UInt64 × Bytes) :=
  (readVarint widestVarint bytes).map fun (n, rest) => (UInt64.ofNat n, rest)

def writeWord (n : UInt64) : Bytes :=
  writeVarint widestVarint n.toNat

def readCounted (bytes : Bytes) : Option (Bytes × Bytes) :=
  match readWord bytes with
  | none => none
  | some (size, rest) =>
      if size.toNat < lengthBound then takeBytes size.toNat rest else none

def writeCounted (content : Bytes) : Bytes :=
  writeVarint widestVarint content.length ++ content

abbrev GroupReader := Nat → Bytes → Option (List Field × Bytes)

def readPayload (group : GroupReader) (tag : Tag) (bytes : Bytes) :
    Option (Payload × Bytes) :=
  match tag.form with
  | .varint => (readWord bytes).map fun (n, rest) => (.varint n, rest)
  | .fixed64 =>
      (takeBytes 8 bytes).map fun (content, rest) =>
        (.fixed64 (UInt64.ofNat (bytesToNat content)), rest)
  | .bytes => (readCounted bytes).map fun (content, rest) => (.bytes content, rest)
  | .groupStart => (group tag.number bytes).map fun (fields, rest) => (.group fields, rest)
  | .groupEnd => none
  | .fixed32 =>
      (takeBytes 4 bytes).map fun (content, rest) =>
        (.fixed32 (UInt32.ofNat (bytesToNat content)), rest)

/--
Read fields up to the end of the group of a number.  The fuel bounds how many
tags are read in a row, which the number of bytes does too.
-/
def readGroup : Nat → GroupReader
  | 0, _, _ => none
  | fuel + 1, number, bytes =>
      match readTag bytes with
      | none => none
      | some (tag, rest) =>
          if tag.form = .groupEnd then
            if tag.number = number then some ([], rest) else none
          else
            match readPayload (readGroup fuel) tag rest with
            | none => none
            | some (payload, rest) =>
                (readGroup fuel number rest).map fun (fields, rest) =>
                  ((tag.number, payload) :: fields, rest)

/-! ## Fields -/

def readField (bytes : Bytes) : Option (Field × Bytes) :=
  match readTag bytes with
  | none => none
  | some (tag, rest) =>
      (readPayload (readGroup rest.length) tag rest).map fun (payload, rest) =>
        ((tag.number, payload), rest)

/-- The fields of a message, and whether the bytes are fields to their end. -/
structure Reading where
  fields : List Field
  whole : Bool
  deriving Repr

def readFieldsWith : Nat → Bytes → Reading
  | _, [] => ⟨[], true⟩
  | 0, _ :: _ => ⟨[], false⟩
  | fuel + 1, bytes =>
      match readField bytes with
      | none => ⟨[], false⟩
      | some (field, rest) =>
          let reading := readFieldsWith fuel rest
          ⟨field :: reading.fields, reading.whole⟩

def readFields (bytes : Bytes) : Reading :=
  readFieldsWith bytes.length bytes

mutual

def writeField : Field → Bytes
  | (number, payload) => writePayload number payload
termination_by structural field => field

def writePayload (number : Nat) : Payload → Bytes
  | .varint n => writeTag ⟨number, .varint⟩ ++ writeWord n
  | .fixed64 n => writeTag ⟨number, .fixed64⟩ ++ natToBytes 8 n.toNat
  | .bytes content => writeTag ⟨number, .bytes⟩ ++ writeCounted content
  | .group fields =>
      writeTag ⟨number, .groupStart⟩ ++ writeFields fields ++ writeTag ⟨number, .groupEnd⟩
  | .fixed32 n => writeTag ⟨number, .fixed32⟩ ++ natToBytes 4 n.toNat
termination_by structural payload => payload

def writeFields : List Field → Bytes
  | [] => []
  | field :: rest => writeField field ++ writeFields rest
termination_by structural fields => fields

end

end QueryBindings.Wire
