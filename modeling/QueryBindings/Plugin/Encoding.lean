import QueryBindings.Log.Traced
import QueryBindings.Text.Quoted
import QueryBindings.Text.Utf8

/-!
# Encodings of requests

A request comes in the binary or in the JSON form of its message.  Unless the
caller says which, the first byte that is not blank decides.
-/

namespace QueryBindings.Plugin

open Text (Bytes)
open Log (Traced Level)

inductive Encoding where
  | protobuf
  | json
  deriving DecidableEq, Repr

namespace Encoding

def name : Encoding → String
  | protobuf => "protobuf"
  | json => "json"

def isBlankByte (byte : UInt8) : Bool :=
  (0x09 ≤ byte && byte ≤ 0x0D) || byte == 0x20

def openingBrace : UInt8 := 0x7B

/-- The encoding that the beginning of a request suggests. -/
def detect (data : Bytes) : Encoding :=
  if (data.dropWhile isBlankByte).head? = some openingBrace then json else protobuf

theorem detect_blank_cons {byte : UInt8} (h : isBlankByte byte = true) (data : Bytes) :
    detect (byte :: data) = detect data := by
  simp [detect, h]

end Encoding

inductive EncodingChoice where
  | auto
  | given (encoding : Encoding)
  deriving DecidableEq, Repr

structure UnknownEncoding where
  name : String
  deriving DecidableEq, Repr

namespace UnknownEncoding

def message (fault : UnknownEncoding) : String :=
  Text.quoted fault.name ++ " is not a valid WireFormat"

end UnknownEncoding

namespace EncodingChoice

def all : List EncodingChoice := [auto, given .protobuf, given .json]

def name : EncodingChoice → String
  | auto => "auto"
  | given encoding => encoding.name

def ofName (name : String) : Except UnknownEncoding EncodingChoice :=
  match all.find? fun choice => choice.name == name with
  | some choice => .ok choice
  | none => .error ⟨name⟩

/-- The encoding of a request; only a detected one leaves a record. -/
def resolve {ε : Type} (data : Bytes) : EncodingChoice → Traced ε Encoding
  | given encoding => pure encoding
  | auto => do
      let encoding := Encoding.detect data
      Traced.log Level.debug ("Detected " ++ encoding.name ++ " request")
      pure encoding

end EncodingChoice

end QueryBindings.Plugin
