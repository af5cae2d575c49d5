import QueryBindings.Proofs.Plugin.Detection
import QueryBindings.Proofs.Plugin.Handling
import QueryBindings.Proofs.Wire.Progress

/-!
# Where a detected encoding leads

Detection looks for an opening brace after blanks.  No JSON object escapes it, and no
request that begins with one of its declared fields is mistaken for an object.  A
field that is not declared is passed over in a binary request, but if it comes
first its tag and its length may look like blanks and a brace.
-/

namespace QueryBindings.Plugin

open Text (Bytes)

def IsDeclared (field : Wire.Field) : Prop :=
  ∃ number content, field = (number, .bytes content) ∧ 3 ≤ number ∧ number ≤ 6

theorem absorb_of_not_declared {field : Wire.Field} (h : ¬ IsDeclared field)
    (message : Protocol.Request) : Protocol.Binary.absorb message field = .ok message := by
  simp only [Protocol.Binary.absorb]
  split
  next content => exact absurd ⟨3, content, rfl, by decide, by decide⟩ h
  next content => exact absurd ⟨4, content, rfl, by decide, by decide⟩ h
  next content => exact absurd ⟨5, content, rfl, by decide, by decide⟩ h
  next content => exact absurd ⟨6, content, rfl, by decide, by decide⟩ h
  · rfl

theorem decodeMessage_of_not_declared {data rest : Bytes} {field : Wire.Field}
    (hread : Wire.readField data = some (field, rest)) (hfield : ¬ IsDeclared field) :
    (decodeMessage data .protobuf : Except RequestFault Protocol.Request) =
      decodeMessage rest .protobuf := by
  simp only [decodeMessage, Protocol.Binary.decode, Protocol.Binary.absorbBytes,
    Wire.readFields_of_readField hread, Protocol.Binary.absorbAll,
    absorb_of_not_declared hfield]

theorem decode_of_not_declared {data rest : Bytes} {field : Wire.Field}
    (hread : Wire.readField data = some (field, rest)) (hfield : ¬ IsDeclared field) :
    (Request.decode data (.given .protobuf)).outcome =
      (Request.decode rest (.given .protobuf)).outcome := by
  rw [Request.decode_outcome, Request.decode_outcome, EncodingChoice.encoding,
    EncodingChoice.encoding, Request.decodeAs_outcome, Request.decodeAs_outcome,
    decodeMessage_of_not_declared hread hfield]

theorem form_of_readPayload {group : Wire.GroupReader} {tag : Wire.Tag}
    {bytes content rest : Bytes}
    (h : Wire.readPayload group tag bytes = some (.bytes content, rest)) : tag.form = .bytes := by
  obtain ⟨number, form⟩ := tag
  cases form <;> simp [Wire.readPayload] at h ⊢

/-- No declared field begins like an object, however long its tag and its length are. -/
theorem detect_of_declared {data rest : Bytes} {field : Wire.Field}
    (hread : Wire.readField data = some (field, rest)) (hfield : IsDeclared field) :
    Encoding.detect data = .protobuf := by
  obtain ⟨number, content, rfl, hlow, hhigh⟩ := hfield
  cases hdetect : Encoding.detect data with
  | protobuf => rfl
  | json =>
      unfold Wire.readField at hread
      split at hread
      · contradiction
      next tag left htag =>
        obtain ⟨⟨payload, after⟩, hpayload, heq⟩ := Option.map_eq_some_iff.1 hread
        cases heq
        have hform := form_of_readPayload hpayload
        rcases Encoding.readTag_of_detect_json hdetect htag with
          ⟨hnumber, _⟩ | ⟨_, hother⟩ | ⟨_, hother⟩
        · omega
        · rw [hform] at hother
          contradiction
        · rw [hform] at hother
          contradiction

theorem decode_auto_outcome (data : Bytes) :
    (Request.decode data .auto).outcome =
      (Request.decode data (.given (Encoding.detect data))).outcome := by
  rw [Request.decode_outcome, Request.decode_outcome]
  rfl

theorem decode_auto_of_detect {data : Bytes} {encoding : Encoding}
    (h : Encoding.detect data = encoding) :
    (Request.decode data .auto).outcome = (Request.decode data (.given encoding)).outcome := by
  rw [decode_auto_outcome, h]

theorem detect_of_object {text : List Char} {members : Json.Members}
    (h : Json.readText .reject text = .ok (.object members)) :
    Encoding.detect (Text.encodeChars text) = .json := by
  obtain ⟨spaces, tail, hspaces, rfl⟩ := Json.exists_brace_of_readText h
  exact Encoding.detect_encodeChars_object hspaces tail

/--
Where requests of a detected encoding end up.  One that is binary and no JSON is
decoded exactly if it does not begin like an object, and otherwise has the fault of
a JSON request; this cannot happen if a declared field comes first.  A field 1 in
front changes nothing for a binary request, but makes it begin like an object if it
is 123 bytes long, or 9 to 13 or 32 bytes in front of such bytes.  Every JSON object
is decoded.
-/
theorem decode_auto_iff (data : Bytes) :
    (∀ request fault,
      (Request.decode data (.given .protobuf)).outcome = .ok request →
      (Request.decode data (.given .json)).outcome = .error fault →
      ((Request.decode data .auto).outcome = .ok request ↔ ¬ Encoding.LooksLikeObject data) ∧
      ((Request.decode data .auto).outcome = .error fault ↔ Encoding.LooksLikeObject data)) ∧
    (∀ field rest, Wire.readField data = some (field, rest) → IsDeclared field →
      (Request.decode data .auto).outcome =
        (Request.decode data (.given .protobuf)).outcome) ∧
    (∀ settings rest, settings.length < Wire.lengthBound →
      data = Wire.writeField (1, .bytes settings) ++ rest →
      (Request.decode data (.given .protobuf)).outcome =
        (Request.decode rest (.given .protobuf)).outcome ∧
      (Encoding.LooksLikeObject data ↔
        settings.length = 123 ∨
          (((9 ≤ settings.length ∧ settings.length ≤ 13) ∨ settings.length = 32) ∧
            Encoding.LooksLikeObject (settings ++ rest)))) ∧
    (∀ text members request, data = Text.encodeChars text →
      Json.readText .reject text = .ok (.object members) →
      (Request.decode data (.given .json)).outcome = .ok request →
      (Request.decode data .auto).outcome = .ok request) := by
  refine ⟨?binary, ?declared, ?settings, ?object⟩
  case binary =>
    intro request fault hbinary hjson
    by_cases hlooks : Encoding.LooksLikeObject data
    · have hauto := decode_auto_of_detect (Encoding.detect_eq_json_iff.2 hlooks)
      simp [hauto, hjson, hlooks]
    · have hauto := decode_auto_of_detect (Encoding.detect_eq_protobuf_iff.2 hlooks)
      simp [hauto, hbinary, hlooks]
  case declared =>
    intro field rest hread hfield
    exact decode_auto_of_detect (detect_of_declared hread hfield)
  case settings =>
    rintro settings rest hlength rfl
    have hwritable : Wire.IsWritable (1, .bytes settings) :=
      ⟨Nat.one_pos, Nat.one_lt_two_pow (by decide), hlength⟩
    have hread := Wire.readField_writeField hwritable rest
    have hfield : ¬ IsDeclared (1, .bytes settings) := by
      rintro ⟨number, content, hequal, hlow, _⟩
      cases hequal
      contradiction
    refine ⟨decode_of_not_declared hread hfield, ?_⟩
    rw [← Encoding.detect_eq_json_iff, ← Encoding.detect_eq_json_iff]
    exact Encoding.detect_writeField_one_iff
  case object =>
    rintro text members request rfl hread hjson
    rw [decode_auto_of_detect (detect_of_object hread), hjson]

/-- Settings of eleven bytes look blank, but not the bytes that come after them. -/
theorem decode_auto_of_short_settings :
    let settings := Wire.writeFields
      [(1, .bytes (Text.encode "2")), (2, .bytes (Text.encode "sqlite"))]
    let message : Protocol.Request :=
      { queries := [{ name := "GetOne", cmd := ":one", text := "SELECT 1" }] }
    let data := Wire.writeField (1, .bytes settings) ++ Protocol.Binary.encode message
    settings.length = 11 ∧
      (Request.decode data .auto).outcome = .ok (Request.ofMessage message) := by
  intro settings message data
  have hbinary : (Request.decode data (.given .protobuf)).outcome =
      .ok (Request.ofMessage message) := by
    decide +kernel
  have hjson : (Request.decode data (.given .json)).outcome =
      .error (.unreadable (data.map fun byte => Char.ofNat byte.toNat)
        ⟨.expectingValue, data.length - 1⟩) := by
    decide +kernel
  have hlooks : ¬ Encoding.LooksLikeObject data :=
    Encoding.detect_eq_protobuf_iff.1 (by decide +kernel)
  obtain ⟨hserves, _⟩ := decode_auto_iff data
  exact ⟨by decide +kernel, (hserves _ _ hbinary hjson).1.2 hlooks⟩

/--
Settings of 123 bytes come first in this request.  It is binary and no JSON, but is
taken for JSON and has no other outcome than a fault.
-/
theorem decode_auto_of_long_settings :
    let settings := Wire.writeFields
      [(1, .bytes (Text.encode "2")), (2, .bytes (Text.encode "postgresql")),
        (3, .bytes (Text.encode "services/accounts/internal/storage/schema/tables.sql")),
        (4, .bytes (Text.encode "services/accounts/internal/storage/queries/users.sql"))]
    let message : Protocol.Request :=
      { queries :=
          [{ name := "GetOne", cmd := ":one", text := "SELECT 1", filename := "users.sql" }],
        compilerVersion := "v1.27.0",
        pluginOptions := Text.encode "\x7b\"types_path\":\"../types\"\x7d" }
    let data := Wire.writeField (1, .bytes settings) ++ Protocol.Binary.encode message
    let fault : RequestFault :=
      .unreadable (data.map fun byte => Char.ofNat byte.toNat) ⟨.expectingName, 195⟩
    (Request.decode data (.given .protobuf)).outcome = .ok (Request.ofMessage message) ∧
      (Request.decode data (.given .json)).outcome = .error fault ∧
      (Request.decode data .auto).outcome = .error fault := by
  decide +kernel

end QueryBindings.Plugin
