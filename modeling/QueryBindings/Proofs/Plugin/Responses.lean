import QueryBindings.Proofs.Json.Ascii
import QueryBindings.Proofs.Plugin.Failures

/-!
# Responses carry their files

A response is decoded to the files that it was encoded from, in either encoding.
The answer to a request is such a response, in the encoding in which the request
was decoded.
-/

namespace QueryBindings.Plugin

open Text (Bytes)
open Log (Traced)

/-- A message has the name of a file and the UTF-8 bytes of its contents. -/
structure FileMirrors (file : OutputFile) (message : Protocol.File) : Prop where
  name : message.name = file.name
  contents : message.contents = file.contents.toUTF8.data.toList

/-- A response has a message for each file, in the order of the files. -/
def Carries (response : Protocol.Response) (files : List OutputFile) : Prop :=
  List.Forall₂ FileMirrors files response.files

theorem carries_responseMessage (files : List OutputFile) :
    Carries (responseMessage files) files := by
  refine List.forall₂_map_right_iff.2 (List.forall₂_same.2 fun file _ => ?_)
  exact ⟨rfl, Text.encode_eq_toUTF8 file.contents⟩

/-- The binary form of a file is within what a length on the wire may say. -/
def FitsLength (file : OutputFile) : Prop :=
  (Protocol.Binary.encode (fileMessage file)).length < Wire.lengthBound

instance : DecidablePred FitsLength := fun file =>
  inferInstanceAs (Decidable ((Protocol.Binary.encode (fileMessage file)).length < _))

theorem decodeMessage_binary {files : List OutputFile} (hfits : ∀ file ∈ files, FitsLength file) :
    decodeMessage (encodeAs files .protobuf) .protobuf = .ok (responseMessage files) := by
  have hmessages : ∀ message ∈ (responseMessage files).files,
      (Protocol.Binary.encode message).length < Wire.lengthBound := by
    intro message hmessage
    obtain ⟨file, hfile, rfl⟩ := List.mem_map.1 hmessage
    exact hfits file hfile
  have hdecode := Protocol.Response.decode_encode (responseMessage files) hmessages
  simp only [decodeMessage, encodeAs, hdecode, mapError_ok]

theorem printable_responseMessage (files : List OutputFile) :
    Json.Printable Json.mostLevels (Protocol.Mapped.toValue (responseMessage files)) :=
  Protocol.printable_toValue ((responseMessage files).areValuesOf _)

theorem decodeMessage_json (files : List OutputFile) :
    decodeMessage (encodeAs files .json) .json = .ok (responseMessage files) := by
  have hread : Json.readText .reject (Protocol.Mapped.print (responseMessage files)) =
      .ok (Protocol.Mapped.toValue (responseMessage files)) :=
    Json.readText_print (printable_responseMessage files) .reject
  simp only [decodeMessage, encodeAs, Text.decodeChars_encodeChars, messageOfText, hread,
    Protocol.Response.ofValue_toValue]

theorem toNat_lt_of_mem_json (files : List OutputFile) :
    ∀ byte ∈ encodeAs files .json, byte.toNat < 0x80 :=
  Text.toNat_lt_of_mem_encodeChars ((printable_responseMessage files).isAscii 0)

theorem eq_of_encodable {path : Json.JsonString} {position : Nat}
    {files encoded : List OutputFile} (h : encodable path position files = .ok encoded) :
    encoded = files := by
  unfold encodable at h
  split at h
  · contradiction
  · exact (Except.ok.inj h).symm

theorem exists_of_process {data bytes : Bytes} {choice : EncodingChoice}
    (h : (process data choice).outcome = .ok bytes) :
    ∃ handled files warnings queryCount,
      (handle data choice).outcome = .ok handled ∧
      handled.report = .success files warnings queryCount ∧
      encodeFor files (.given handled.encoding) = .ok bytes := by
  obtain ⟨handled, hmapped, hanswer⟩ := Traced.bind_eq_ok_iff.1 h
  have hhandled := mapError_eq_ok_iff.1 hmapped
  cases hreport : handled.report with
  | failure fault =>
      rw [hreport] at hanswer
      contradiction
  | success files warnings queryCount =>
      rw [hreport] at hanswer
      have hrespond := mapError_eq_ok_iff.1 hanswer
      refine ⟨handled, files, warnings, queryCount, hhandled, hreport, ?_⟩
      unfold Handled.respond at hrespond
      cases hencodable : encodable handled.typesPath Layout.typesPathPosition files with
      | error fault =>
          rw [hencodable] at hrespond
          contradiction
      | ok encoded =>
          rw [hencodable, eq_of_encodable hencodable] at hrespond
          have hbytes : encodeAs files handled.encoding = bytes := Except.ok.inj hrespond
          rw [encodeFor, hbytes]

theorem decoded_of_handle {data : Bytes} {choice : EncodingChoice} {handled : Handled}
    (h : (handle data choice).outcome = .ok handled) :
    handled.encoding = choice.encoding data ∧
      ∃ request, (Request.decodeAs data handled.encoding).outcome = .ok request := by
  obtain ⟨encoding, hencoding, h⟩ := Traced.bind_eq_ok_iff.1 h
  obtain ⟨request, hrequest, h⟩ := Traced.bind_eq_ok_iff.1 h
  obtain ⟨options, _, h⟩ := Traced.bind_eq_ok_iff.1 h
  obtain ⟨report, _, h⟩ := Traced.bind_eq_ok_iff.1 h
  rw [choice.resolve_outcome] at hencoding
  rw [← Except.ok.inj h, ← Except.ok.inj hencoding] at *
  exact ⟨rfl, request, mapError_eq_ok_iff.1 hrequest⟩

/--
Responses carry the files that they are made of.  In binary form a response is decoded
to its files if each of them fits into a record; in JSON it always is, and all of its
bytes are ASCII.  An answered request was decoded in the encoding of its answer, which
is the response with the files that were generated.
-/
theorem responses_carry_files :
    (∀ files : List OutputFile, ∃ bytes, encodeFor files (.given .protobuf) = .ok bytes ∧
      ((∀ file ∈ files, FitsLength file) →
        ∃ response, decodeMessage bytes .protobuf = .ok response ∧ Carries response files)) ∧
    (∀ files : List OutputFile, ∃ bytes, encodeFor files (.given .json) = .ok bytes ∧
      (∃ response, decodeMessage bytes .json = .ok response ∧ Carries response files) ∧
      ∀ byte ∈ bytes, byte.toNat < 0x80) ∧
    ∀ (data bytes : Bytes) (choice : EncodingChoice),
      (process data choice).outcome = .ok bytes →
      ∃ handled files warnings queryCount request,
        (handle data choice).outcome = .ok handled ∧
        handled.report = .success files warnings queryCount ∧
        handled.encoding = choice.encoding data ∧
        (Request.decodeAs data handled.encoding).outcome = .ok request ∧
        encodeFor files (.given handled.encoding) = .ok bytes := by
  refine ⟨?binary, ?json, ?answers⟩
  case binary =>
    intro files
    refine ⟨encodeAs files .protobuf, rfl, fun hfits => ?_⟩
    exact ⟨_, decodeMessage_binary hfits, carries_responseMessage files⟩
  case json =>
    intro files
    refine ⟨encodeAs files .json, rfl, ?_, toNat_lt_of_mem_json files⟩
    exact ⟨_, decodeMessage_json files, carries_responseMessage files⟩
  case answers =>
    intro data bytes choice h
    obtain ⟨handled, files, warnings, queryCount, hhandled, hreport, hencode⟩ :=
      exists_of_process h
    obtain ⟨hencoding, request, hrequest⟩ := decoded_of_handle hhandled
    exact ⟨handled, files, warnings, queryCount, request, hhandled, hreport, hencoding,
      hrequest, hencode⟩

/-- An empty file, one name twice with other contents, and an answer to a detected request. -/
theorem responses_carry_files_of_repeated_names :
    let files : List OutputFile :=
      [⟨"", ""⟩, ⟨"users.ts", "a"⟩, ⟨"users.ts", "\u00E9\n"⟩, ⟨"😀.ts", "\\u\"😀"⟩]
    let message : Protocol.Request :=
      { queries := [{ name := "GetUser", cmd := ":one", filename := "users.sql" }],
        pluginOptions := Text.encode "\x7b\"types_path\":\"./types\"\x7d" }
    (∃ bytes response, encodeFor files (.given .protobuf) = .ok bytes ∧
      decodeMessage bytes .protobuf = .ok response ∧ Carries response files) ∧
    ∃ generated bytes,
      (process (Text.encodeChars (Protocol.Mapped.print message)) .auto).outcome = .ok bytes ∧
      encodeFor generated (.given .json) = .ok bytes := by
  intro files message
  obtain ⟨hbinary, _, hanswers⟩ := responses_carry_files
  constructor
  · obtain ⟨bytes, hencode, hdecode⟩ := hbinary files
    obtain ⟨response, hresponse, hcarries⟩ := hdecode (by decide +kernel)
    exact ⟨bytes, response, hencode, hresponse, hcarries⟩
  · obtain ⟨options, hload, hpath⟩ :=
      Options.exists_of_scalars message.pluginOptions (by decide +kernel)
    have hvalid : (Request.ofMessage message).IsValid := by
      intro query hquery
      rw [List.mem_singleton.1 hquery]
      exact Query.isValid_of_leadingWord .get .one (by decide) rfl (List.forall_mem_nil _)
    obtain ⟨bytes, hprocess⟩ :=
      exists_response (decode_print message (.inl rfl)) hload hvalid hpath
    obtain ⟨_, generated, _, _, _, _, _, hencoding, _, hencode⟩ :=
      hanswers _ bytes .auto hprocess
    rw [hencoding, encoding_print message (.inl rfl)] at hencode
    exact ⟨generated, bytes, hprocess, hencode⟩

end QueryBindings.Plugin
