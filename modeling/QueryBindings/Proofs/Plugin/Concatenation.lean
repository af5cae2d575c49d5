import QueryBindings.Proofs.Plugin.Handling
import QueryBindings.Proofs.Protocol.Merging

/-!
# Requests in parts

Bytes of one request after those of another make a request again, in which the second
is merged into the first.  A message inside of a request may be sent in parts too.
-/

namespace QueryBindings.Plugin

open Text (Bytes)
open Protocol (Carries MessageType Splits)
open Wire (Field Records)

/--
A request with another one after it.  Queries come after queries.  The version and
the options are those of the other request if its bytes have a record of them.
-/
structure Merged (first second : Request) (after : Bytes) (merged : Request) : Prop where
  queries : merged.queries = first.queries ++ second.queries
  version_sent : Carries .request after "sqlc_version" →
    merged.compilerVersion = second.compilerVersion
  version_kept : ¬ Carries .request after "sqlc_version" →
    merged.compilerVersion = first.compilerVersion
  options_sent : Carries .request after "plugin_options" → merged.options = second.options
  options_kept : ¬ Carries .request after "plugin_options" → merged.options = first.options

theorem merged_ofMessage {after : Bytes} {fields : List Field} (h : Records after fields)
    (first second : Protocol.Request) :
    Merged (Request.ofMessage first) (Request.ofMessage second) after
      (Request.ofMessage (first.merge second fields)) where
  queries := List.map_append
  version_sent hsent := if_pos ((Protocol.carries_iff h _ _).1 hsent)
  version_kept hkept := if_neg (mt (Protocol.carries_iff h _ _).2 hkept)
  options_sent hsent := if_pos ((Protocol.carries_iff h _ _).1 hsent)
  options_kept hkept := if_neg (mt (Protocol.carries_iff h _ _).2 hkept)

theorem exists_merged {before after : Bytes} {first second : Request}
    (hfirst : (Request.decode before (.given .protobuf)).outcome = .ok first)
    (hsecond : (Request.decode after (.given .protobuf)).outcome = .ok second) :
    ∃ merged, (Request.decode (before ++ after) (.given .protobuf)).outcome = .ok merged ∧
      Merged first second after merged := by
  obtain ⟨message, hmessage, rfl⟩ := Request.exists_message_of_decode hfirst
  obtain ⟨other, hother, rfl⟩ := Request.exists_message_of_decode hsecond
  obtain ⟨fields, hfields, _⟩ := (Protocol.absorbBytes_eq_ok_iff _).1 hother
  refine ⟨_, ?_, merged_ofMessage hfields message other⟩
  rw [Request.decode_binary_outcome, Protocol.Request.absorbBytes_merge hmessage hfields, hother]
  rfl

theorem decode_of_splits {data parted : Bytes}
    (h : Relation.ReflTransGen (Splits .request) data parted) :
    (Request.decode parted (.given .protobuf)).outcome =
      (Request.decode data (.given .protobuf)).outcome := by
  have hsame := Protocol.absorbBytes_of_splittings h (default : Protocol.Request)
  rw [Request.decode_binary_outcome, Request.decode_binary_outcome]
  exact congrArg
    (fun outcome => (outcome.mapError RequestFault.binary).map Request.ofMessage) hsame

/--
Concatenation is merging.  Bytes of accepted binary requests, one after the other, are
those of an accepted request, in which the second is merged into the first.  Likewise,
inside of any request, two records of a message that is not repeated, one after the
other, count as one record with the contents of both.
-/
theorem decode_append {before after : Bytes} {first second : Request}
    (hfirst : (Request.decode before (.given .protobuf)).outcome = .ok first)
    (hsecond : (Request.decode after (.given .protobuf)).outcome = .ok second) :
    (∃ merged, (Request.decode (before ++ after) (.given .protobuf)).outcome = .ok merged ∧
        Merged first second after merged) ∧
      ∀ data parted, Relation.ReflTransGen (Splits .request) data parted →
        (Request.decode parted (.given .protobuf)).outcome =
          (Request.decode data (.given .protobuf)).outcome :=
  ⟨exists_merged hfirst hsecond, fun _ _ hsplits => decode_of_splits hsplits⟩

/-- An empty version counts, and options that are a number do not; a column in two parts. -/
theorem decode_append_of_empty_version :
    let before := Wire.writeFields
      [(4, .bytes (Text.encode "1.30.0")), (5, .bytes (Text.encode "./types"))]
    let after := Wire.writeFields [(3, .bytes []), (4, .bytes []), (5, .varint 7)]
    let name := Wire.writeFields [(1, .bytes (Text.encode "id"))]
    let notNull := Wire.writeFields [(3, .varint 1)]
    let requestOf (columns : List Bytes) :=
      let parameter := Wire.writeFields (columns.map fun column => (2, .bytes column))
      Wire.writeFields [(3, .bytes (Wire.writeFields [(5, .bytes parameter)]))]
    (Request.decode (before ++ after) (.given .protobuf)).outcome =
        .ok ⟨[{ name := "", cmd := "" }], Text.encode "./types", ""⟩ ∧
      (Request.decode (requestOf [name, notNull]) (.given .protobuf)).outcome =
        (Request.decode (requestOf [name ++ notNull]) (.given .protobuf)).outcome := by
  intro before after name notNull requestOf
  have hfirst : (Request.decode before (.given .protobuf)).outcome =
      .ok ⟨[], Text.encode "./types", "1.30.0"⟩ := by
    decide +kernel
  have hsecond : (Request.decode after (.given .protobuf)).outcome =
      .ok ⟨[{ name := "", cmd := "" }], [], ""⟩ := by
    decide +kernel
  obtain ⟨⟨merged, hmerged, hparts⟩, hsplits⟩ := decode_append hfirst hsecond
  have hafter : Records after (Wire.readFields after).fields :=
    Wire.records_of_readFields (by decide +kernel)
  constructor
  · have hversion := hparts.version_sent ((Protocol.carries_iff hafter _ _).2 (by decide +kernel))
    have hoptions := hparts.options_kept
      (mt (Protocol.carries_iff hafter _ _).1 (by decide +kernel))
    obtain ⟨queries, options, version⟩ := merged
    obtain rfl : queries = _ := hparts.queries
    obtain rfl : version = _ := hversion
    obtain rfl : options = _ := hoptions
    exact hmerged
  · have hname : Records name (Wire.readFields name).fields :=
      Wire.records_of_readFields (by decide +kernel)
    have hcolumn : ⟨"column", 2, .message .column, false, none⟩ ∈
        MessageType.parameter.fields := by decide
    have hparameter : Splits .parameter (Wire.writeFields [(2, .bytes (name ++ notNull))])
        (Wire.writeFields [(2, .bytes name), (2, .bytes notNull)]) :=
      .here .nil hcolumn rfl rfl hname (Protocol.flatRecord_of_mem hcolumn (by decide +kernel))
        (Protocol.flatRecord_of_mem hcolumn (by decide +kernel))
        (Protocol.flatRecord_of_mem hcolumn (by decide +kernel))
    have hquery := Splits.first
      (show ⟨"params", 5, .message .parameter, true, some "parameters"⟩ ∈
        MessageType.query.fields by decide)
      rfl (by decide +kernel) (by decide +kernel) hparameter (Wire.writeFields [])
    have hrequest : Splits .request (requestOf [name ++ notNull]) (requestOf [name, notNull]) :=
      .first
        (show ⟨"queries", 3, .message .query, true, none⟩ ∈ MessageType.request.fields by decide)
        rfl (by decide +kernel) (by decide +kernel) hquery (Wire.writeFields [])
    exact hsplits _ _ (.single hrequest)

end QueryBindings.Plugin
