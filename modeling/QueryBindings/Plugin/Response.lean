import QueryBindings.Json.Value
import QueryBindings.Plugin.Encoding
import QueryBindings.Protocol.Binary
import QueryBindings.Protocol.Mapping
import QueryBindings.Query.Batch

/-!
# Encoding responses

From generated files to the bytes of a response.  UTF-8 has no bytes for surrogates,
which only the path in the import lines of generated files may hold.
-/

namespace QueryBindings.Plugin

open Text (Bytes)

def fileMessage (file : OutputFile) : Protocol.File :=
  ⟨file.name, Text.encode file.contents⟩

def responseMessage (files : List OutputFile) : Protocol.Response :=
  ⟨files.map fileMessage⟩

def encodeAs (files : List OutputFile) : Encoding → Bytes
  | .protobuf => Protocol.Binary.encode (responseMessage files)
  | .json => Text.encodeChars (Protocol.Mapped.print (responseMessage files))

/-- Why a response cannot be encoded: nothing suggests an encoding. -/
inductive ResponseFault where
  | noEncoding
  deriving DecidableEq, Repr

namespace ResponseFault

def message : ResponseFault → String
  | noEncoding => "response format must be protobuf or json"

end ResponseFault

def encodeFor (files : List OutputFile) : EncodingChoice → Except ResponseFault Bytes
  | .auto => .error .noEncoding
  | .given encoding => .ok (encodeAs files encoding)

/-- A run of surrogates in a file. -/
structure SurrogateFault where
  position : Nat
  count : Nat
  first : Nat
  deriving DecidableEq, Repr

namespace SurrogateFault

def message (fault : SurrogateFault) : String :=
  let place :=
    if fault.count ≤ 1 then
      "character '\\u" ++ String.ofList (Text.hexDigits 4 fault.first) ++ "' in position " ++
        toString fault.position
    else
      "characters in position " ++ toString fault.position ++ "-" ++
        toString (fault.position + fault.count - 1)
  "'utf-8' codec can't encode " ++ place ++ ": surrogates not allowed"

end SurrogateFault

def isSurrogate : Json.CodePoint → Bool
  | .scalar _ => false
  | .surrogate _ => true

def firstSurrogates? (position : Nat) : Json.JsonString → Option SurrogateFault
  | [] => none
  | .scalar _ :: rest => firstSurrogates? (position + 1) rest
  | .surrogate n :: rest => some ⟨position, 1 + (rest.takeWhile isSurrogate).length, n⟩

theorem firstSurrogates?_eq_none_iff {position : Nat} {s : Json.JsonString} :
    firstSurrogates? position s = none ↔ (Json.JsonString.toChars? s).isSome = true := by
  induction s generalizing position with
  | nil => simp [firstSurrogates?, Json.JsonString.toChars?]
  | cons point rest ih =>
      cases point with
      | scalar c => simp [firstSurrogates?, Json.JsonString.toChars?, ih]
      | surrogate n => simp [firstSurrogates?, Json.JsonString.toChars?]

/--
Files that can be encoded, given the path that their import lines name and its
position in them; without files nothing names it.
-/
def encodable (path : Json.JsonString) (position : Nat) (files : List OutputFile) :
    Except SurrogateFault (List OutputFile) :=
  match files, firstSurrogates? position path with
  | _ :: _, some fault => .error fault
  | _, _ => .ok files

end QueryBindings.Plugin
