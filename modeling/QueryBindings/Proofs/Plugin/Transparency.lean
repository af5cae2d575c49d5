import Mathlib.Data.List.Forall2
import QueryBindings.Proofs.Plugin.Detection
import QueryBindings.Proofs.Plugin.Handling
import QueryBindings.Proofs.Protocol.Binary
import QueryBindings.Proofs.Protocol.Mapping

/-!
# Both encodings of a request mean the same

A request message has a binary and a JSON form.  Each of them is decoded to the
request that mirrors the message field for field, whether its encoding is given or
detected, so what is answered does not depend on the encoding.
-/

namespace QueryBindings.Plugin

open Text (Bytes)

/-- A column says what its message says; it has a type name exactly if the message has a type. -/
structure ColumnMirrors (column : Column) (message : Protocol.Column) : Prop where
  name : column.name = message.name
  notNull : column.notNull = message.notNull
  comment : column.comment = message.comment
  absent : column.typeName = none ↔ message.type = none
  present : ∀ type, message.type = some type → column.typeName = some type.name

structure ParameterMirrors (parameter : Parameter) (message : Protocol.Parameter) : Prop where
  number : parameter.number = message.number.toInt
  absent : parameter.column = none ↔ message.column = none
  present : ∀ inner, message.column = some inner →
    ∃ column, parameter.column = some column ∧ ColumnMirrors column inner

structure QueryMirrors (query : Query) (message : Protocol.Query) : Prop where
  name : query.name = message.name
  cmd : query.cmd = message.cmd
  text : query.text = message.text
  filename : query.filename = message.filename
  params : List.Forall₂ ParameterMirrors query.params message.params
  columns : List.Forall₂ ColumnMirrors query.columns message.columns

structure RequestMirrors (request : Request) (message : Protocol.Request) : Prop where
  queries : List.Forall₂ QueryMirrors request.queries message.queries
  options : request.options = message.pluginOptions
  compilerVersion : request.compilerVersion = message.compilerVersion

theorem columnMirrors_columnOf (message : Protocol.Column) :
    ColumnMirrors (columnOf message) message where
  name := rfl
  notNull := rfl
  comment := rfl
  absent := Option.map_eq_none_iff
  present := by
    rintro type htype
    simp [columnOf, htype]

theorem parameterMirrors_parameterOf (message : Protocol.Parameter) :
    ParameterMirrors (parameterOf message) message where
  number := rfl
  absent := Option.map_eq_none_iff
  present := by
    rintro inner hinner
    exact ⟨columnOf inner, by simp [parameterOf, hinner], columnMirrors_columnOf inner⟩

theorem queryMirrors_queryOf (message : Protocol.Query) :
    QueryMirrors (queryOf message) message where
  name := rfl
  cmd := rfl
  text := rfl
  filename := rfl
  params := List.forall₂_map_left_iff.2
    (List.forall₂_same.2 fun parameter _ => parameterMirrors_parameterOf parameter)
  columns := List.forall₂_map_left_iff.2
    (List.forall₂_same.2 fun column _ => columnMirrors_columnOf column)

theorem requestMirrors_ofMessage (message : Protocol.Request) :
    RequestMirrors (Request.ofMessage message) message where
  queries := List.forall₂_map_left_iff.2
    (List.forall₂_same.2 fun query _ => queryMirrors_queryOf query)
  options := rfl
  compilerVersion := rfl

/-- The fields of a request begin with bytes that neither blanks nor objects begin with. -/
theorem detect_encode (message : Protocol.Request) :
    Encoding.detect (Protocol.Binary.encode message) = .protobuf := by
  have hfields : ∀ field ∈ Protocol.Binary.toFields message,
      ∃ number content, field = (number, .bytes content) ∧
        (number = 3 ∨ number = 4 ∨ number = 5 ∨ number = 6) := by
    intro field hfield
    simp only [Protocol.Binary.toFields, List.mem_append] at hfield
    rcases hfield with ((hqueries | hversion) | hplugin) | hglobal
    · obtain ⟨query, _, rfl⟩ := List.mem_map.1 hqueries
      exact ⟨3, _, rfl, by simp⟩
    · exact ⟨4, _, Protocol.eq_of_mem_textField hversion, by simp⟩
    · exact ⟨5, _, Protocol.eq_of_mem_bytesField hplugin, by simp⟩
    · exact ⟨6, _, Protocol.eq_of_mem_bytesField hglobal, by simp⟩
  unfold Protocol.Binary.encode
  cases h : Protocol.Binary.toFields message with
  | nil => rfl
  | cons field rest =>
      obtain ⟨number, content, rfl, hnumber⟩ := hfields field (by simp [h])
      rw [Wire.writeFields]
      rcases hnumber with rfl | rfl | rfl | rfl <;>
        exact Encoding.detect_writeField (by decide) (by decide) (by decide) _

theorem detect_print (message : Protocol.Request) :
    Encoding.detect (Text.encodeChars (Protocol.Mapped.print message)) = .json := by
  unfold Protocol.Mapped.print Protocol.Mapped.toValue Json.print Json.printValue
  split <;> exact Encoding.detect_encodeChars_brace _

theorem decodeMessage_encode {message : Protocol.Request}
    (hsize : (Protocol.Binary.encode message).length < Protocol.sizeBound) :
    decodeMessage (Protocol.Binary.encode message) .protobuf = .ok message := by
  rw [decodeMessage, message.decode_encode hsize]
  rfl

theorem decodeMessage_print (message : Protocol.Request) :
    decodeMessage (Text.encodeChars (Protocol.Mapped.print message)) .json = .ok message := by
  have hread : Json.readText .reject (Protocol.Mapped.print message) =
      .ok (Protocol.Mapped.toValue message) :=
    Json.readText_print (Protocol.printable_toValue (message.areValuesOf _)) .reject
  simp only [decodeMessage, Text.decodeChars_encodeChars, messageOfText, hread,
    message.ofValue_toValue]

theorem encoding_encode (message : Protocol.Request) {choice : EncodingChoice}
    (hchoice : choice = .auto ∨ choice = .given .protobuf) :
    choice.encoding (Protocol.Binary.encode message) = .protobuf := by
  rcases hchoice with rfl | rfl
  · exact detect_encode message
  · rfl

theorem encoding_print (message : Protocol.Request) {choice : EncodingChoice}
    (hchoice : choice = .auto ∨ choice = .given .json) :
    choice.encoding (Text.encodeChars (Protocol.Mapped.print message)) = .json := by
  rcases hchoice with rfl | rfl
  · exact detect_print message
  · rfl

theorem decode_encode {message : Protocol.Request}
    (hsize : (Protocol.Binary.encode message).length < Protocol.sizeBound)
    {choice : EncodingChoice} (hchoice : choice = .auto ∨ choice = .given .protobuf) :
    (Request.decode (Protocol.Binary.encode message) choice).outcome =
      .ok (Request.ofMessage message) := by
  rw [Request.decode_outcome, encoding_encode message hchoice, Request.decodeAs_outcome,
    decodeMessage_encode hsize]
  rfl

theorem decode_print (message : Protocol.Request) {choice : EncodingChoice}
    (hchoice : choice = .auto ∨ choice = .given .json) :
    (Request.decode (Text.encodeChars (Protocol.Mapped.print message)) choice).outcome =
      .ok (Request.ofMessage message) := by
  rw [Request.decode_outcome, encoding_print message hchoice, Request.decodeAs_outcome,
    decodeMessage_print]
  rfl

/--
A request means the same in both encodings.  Its binary form and its JSON form are
decoded to one request, which mirrors the message, whether the encoding is given or
detected; and either both are refused for one reason, or both are answered with the
same files, each in its own encoding.  No binary message has two gibibytes or more.
-/
theorem encodings_agree (message : Protocol.Request)
    (hsize : (Protocol.Binary.encode message).length < Protocol.sizeBound) :
    let binary := Protocol.Binary.encode message
    let json := Text.encodeChars (Protocol.Mapped.print message)
    (∃ request, RequestMirrors request message ∧
      (Request.decode binary (.given .protobuf)).outcome = .ok request ∧
      (Request.decode binary .auto).outcome = .ok request ∧
      (Request.decode json (.given .json)).outcome = .ok request ∧
      (Request.decode json .auto).outcome = .ok request) ∧
    ∀ first second : EncodingChoice, first = .auto ∨ first = .given .protobuf →
      second = .auto ∨ second = .given .json →
      (∃ fault, (process binary first).outcome = .error fault ∧
        (process json second).outcome = .error fault) ∨
      (∃ files, (process binary first).outcome = .ok (encodeAs files .protobuf) ∧
        (process json second).outcome = .ok (encodeAs files .json)) := by
  intro binary json
  refine ⟨⟨Request.ofMessage message, requestMirrors_ofMessage message,
    decode_encode hsize (.inr rfl), decode_encode hsize (.inl rfl),
    decode_print message (.inr rfl), decode_print message (.inl rfl)⟩, ?_⟩
  intro first second hfirst hsecond
  have hbinary := process_outcome_of_ok (decode_encode hsize hfirst)
  have hjson := process_outcome_of_ok (decode_print message hsecond)
  rw [encoding_encode message hfirst] at hbinary
  rw [encoding_print message hsecond] at hjson
  cases hanswer : answer (Request.ofMessage message) with
  | error fault =>
      rw [hanswer] at hbinary hjson
      exact .inl ⟨fault, hbinary, hjson⟩
  | ok files =>
      rw [hanswer] at hbinary hjson
      exact .inr ⟨files, hbinary, hjson⟩

/-- A negative number, absent messages beside empty ones, and characters beyond ASCII. -/
theorem encodings_agree_on_presence :
    let message : Protocol.Request :=
      { queries :=
          [{ name := "GetUser", cmd := ":one", text := "SELECT '\u00E9\n'",
             columns := [{ name := "a" }, { name := "b", type := some {} },
               { name := "c", type := some { name := "text" } }],
             params := [{ number := -1 }, { number := 2, column := some {} }],
             comments := ["😀", ""] }],
        pluginOptions := [0x00, 0xFF] }
    ∃ request, RequestMirrors request message ∧
      (Request.decode (Protocol.Binary.encode message) .auto).outcome = .ok request ∧
      (Request.decode (Text.encodeChars (Protocol.Mapped.print message)) .auto).outcome =
        .ok request := by
  intro message
  have hsize : (Protocol.Binary.encode message).length < Protocol.sizeBound := by
    decide +kernel
  obtain ⟨⟨request, hmirrors, _, hbinary, _, hjson⟩, _⟩ := encodings_agree message hsize
  exact ⟨request, hmirrors, hbinary, hjson⟩

end QueryBindings.Plugin
