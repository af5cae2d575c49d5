import QueryBindings.Proofs.Plugin.Handling
import QueryBindings.Proofs.Protocol.Insertion

/-!
# Requests with more fields than are declared

A host may send fields that are not declared.  A binary request with such fields is
decoded to the same request as without them, wherever they stand.
-/

namespace QueryBindings.Plugin

open Text (Bytes)
open Protocol (Inserts MessageType WellFormed)

theorem decode_given (data : Bytes) (encoding : Encoding) :
    Request.decode data (.given encoding) = Request.decodeAs data encoding := rfl

theorem decodeMessage_of_insertions {data extended : Bytes}
    (h : Relation.ReflTransGen (Inserts .request) data extended) :
    (decodeMessage extended .protobuf : Except RequestFault Protocol.Request) =
      decodeMessage data .protobuf := by
  have hsame := Protocol.absorbBytes_of_insertions h (default : Protocol.Request)
  exact congrArg (Except.mapError RequestFault.binary) hsame

theorem wellFormed_of_decode {data : Bytes} {request : Request}
    (h : (Request.decode data (.given .protobuf)).outcome = .ok request) :
    WellFormed .request data := by
  obtain ⟨message, hmessage, _⟩ := Request.exists_message_of_decode h
  have hdecode : Protocol.Binary.absorbBytes (default : MessageType.request.Message) data =
      .ok message := hmessage
  exact Protocol.wellFormed_of_absorbBytes hdecode

/--
Undeclared fields are passed over.  An accepted binary request consists of records, at
every depth.  Records of fields that are not declared, or not in this form, may be
inserted after any of them, in the request itself and in the messages inside of it,
and as often as one likes: the request is decoded to the same, with the same log records.
-/
theorem decode_of_insertions {data : Bytes} {request : Request}
    (haccepted : (Request.decode data (.given .protobuf)).outcome = .ok request) :
    WellFormed .request data ∧
      ∀ extended, Relation.ReflTransGen (Inserts .request) data extended →
        (Request.decode extended (.given .protobuf)).outcome = .ok request ∧
        (Request.decode extended (.given .protobuf)).records =
          (Request.decode data (.given .protobuf)).records := by
  refine ⟨wellFormed_of_decode haccepted, fun extended hinserts => ?_⟩
  have hsame : Request.decode extended (.given .protobuf) =
      Request.decode data (.given .protobuf) := by
    simp only [decode_given, Request.decodeAs, decodeMessage_of_insertions hinserts]
  rw [hsame]
  exact ⟨haccepted, rfl⟩

/-- Settings in front, and inside of a type a group, a word, and a name in another form. -/
theorem decode_of_insertions_at_depth :
    let settings := Wire.writeFields [(1, .bytes (Text.encode "sqlite"))]
    let others := Wire.writeFields
      [(9, .group [(9, .group []), (1, .varint 7)]), (100, .fixed64 1), (3, .fixed32 0)]
    let type := Wire.writeFields [(3, .bytes (Text.encode "text"))]
    let requestOf (type : Bytes) :=
      let column := Wire.writeFields [(12, .bytes type), (3, .varint 1)]
      Wire.writeFields [(3, .bytes (Wire.writeFields [(4, .bytes column)]))]
    let column : Column := { name := "", typeName := some "text", notNull := true }
    (Request.decode (settings ++ requestOf (others ++ type)) (.given .protobuf)).outcome =
      .ok ⟨[{ name := "", cmd := "", columns := [column] }], [], ""⟩ := by
  intro settings others type requestOf column
  have haccepted : (Request.decode (requestOf type) (.given .protobuf)).outcome =
      .ok ⟨[{ name := "", cmd := "", columns := [column] }], [], ""⟩ := by
    decide +kernel
  have hothers : Wire.Records others (Wire.readFields others).fields :=
    Wire.records_of_readFields (by decide +kernel)
  have htype : Inserts .identifier type (others ++ type) :=
    .here .nil hothers (by decide +kernel)
  have hcolumn := Inserts.first
    (show ⟨"type", 12, .message .identifier, false, none⟩ ∈ MessageType.column.fields by decide)
    rfl (by decide +kernel) (by decide +kernel) htype (Wire.writeFields [(3, .varint 1)])
  have hquery := Inserts.first
    (show ⟨"columns", 4, .message .column, true, none⟩ ∈ MessageType.query.fields by decide)
    rfl (by decide +kernel) (by decide +kernel) hcolumn (Wire.writeFields [])
  have hrequest : Inserts .request (requestOf type) (requestOf (others ++ type)) := Inserts.first
    (show ⟨"queries", 3, .message .query, true, none⟩ ∈ MessageType.request.fields by decide)
    rfl (by decide +kernel) (by decide +kernel) hquery (Wire.writeFields [])
  have hfront : Wire.Records settings (Wire.readFields settings).fields :=
    Wire.records_of_readFields (by decide +kernel)
  have hsettings : Inserts .request (requestOf (others ++ type))
      (settings ++ requestOf (others ++ type)) := .here .nil hfront (by decide +kernel)
  obtain ⟨_, hinsertions⟩ := decode_of_insertions haccepted
  exact (hinsertions _ (.tail (.single hrequest) hsettings)).1

end QueryBindings.Plugin
