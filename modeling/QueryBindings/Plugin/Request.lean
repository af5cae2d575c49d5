import QueryBindings.Plugin.Encoding
import QueryBindings.Protocol.Binary
import QueryBindings.Protocol.Mapping
import QueryBindings.Query.Batch

/-!
# Decoding requests

From the bytes of a request to the queries of its batch and the options of the
plugin.
-/

namespace QueryBindings.Plugin

open Text (Bytes)
open Log (Traced Level)

structure Request where
  queries : List Query
  /-- The options, not yet read. -/
  options : Bytes
  compilerVersion : String
  deriving DecidableEq, Repr

inductive RequestFault where
  | encoding (fault : Text.Utf8Fault)
  | unreadable (text : List Char) (fault : Json.ReadFault)
  /-- A JSON text is no request. -/
  | unsuitable
  | binary (fault : Protocol.BinaryFault)
  deriving DecidableEq, Repr

namespace RequestFault

def message : RequestFault → String
  | encoding fault => "JSON request is not valid UTF-8: " ++ fault.message
  | unreadable text fault =>
      "JSON request decoding failed: Failed to load JSON: " ++ fault.message text ++ "."
  | unsuitable => "JSON request decoding failed: the document is no request"
  | binary fault =>
      "protocol buffer decoding failed: Error parsing message with type '" ++
        Protocol.MessageType.request.fullName ++ "': " ++ fault.message

end RequestFault

/-- The column of a message; without a type it has no database type. -/
def columnOf (message : Protocol.Column) : Column :=
  ⟨message.name, message.type.map Protocol.Identifier.name, message.notNull, message.comment⟩

def parameterOf (message : Protocol.Parameter) : Parameter :=
  ⟨message.number.toInt, message.column.map columnOf⟩

def queryOf (message : Protocol.Query) : Query :=
  ⟨message.name, message.cmd, message.text, message.params.map parameterOf,
    message.columns.map columnOf, message.filename⟩

def Request.ofMessage (message : Protocol.Request) : Request :=
  ⟨message.queries.map queryOf, message.pluginOptions, message.compilerVersion⟩

def messageOfText {α : Type} [Inhabited α] [Protocol.Mapped α] (text : List Char)
    (levels : Nat := Json.mostLevels) : Except RequestFault α :=
  match Json.readText .reject text levels with
  | .error fault => .error (.unreadable text fault)
  | .ok value =>
      match Protocol.Mapped.ofValue value with
      | some message => .ok message
      | none => .error .unsuitable

def decodeMessage {α : Type} [Inhabited α] [Protocol.Binary α] [Protocol.Mapped α]
    (data : Bytes) (encoding : Encoding) (levels : Nat := Json.mostLevels) :
    Except RequestFault α :=
  match encoding with
  | .protobuf => (Protocol.Binary.decode data).mapError .binary
  | .json =>
      match Text.decodeChars data with
      | .error fault => .error (.encoding fault)
      | .ok text => messageOfText text levels

def shownVersion (version : String) : String :=
  if version = "" then "unknown" else version

namespace Request

def decodeAs (data : Bytes) (encoding : Encoding) (levels : Nat := Json.mostLevels) :
    Traced RequestFault Request := do
  let message ← .ofExcept
    (decodeMessage data encoding levels : Except RequestFault Protocol.Request)
  Traced.log Level.info
    ("Decoded request with " ++ toString message.queries.length ++ " queries (sqlc " ++
      shownVersion message.compilerVersion ++ ")")
  pure (ofMessage message)

def decode (data : Bytes) (choice : EncodingChoice) (levels : Nat := Json.mostLevels) :
    Traced RequestFault Request := do
  let encoding ← choice.resolve data
  decodeAs data encoding levels

end Request

end QueryBindings.Plugin
