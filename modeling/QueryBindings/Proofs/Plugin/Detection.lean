import QueryBindings.Plugin.Encoding
import QueryBindings.Proofs.Json.Spelling
import QueryBindings.Proofs.Text.Utf8
import QueryBindings.Proofs.Wire.RoundTrip

/-!
# Detecting the encoding of a request

A request is taken for JSON if it begins with blanks and an opening brace.  A
tag of one byte is such a blank or brace only for some fields.
-/

namespace QueryBindings.Plugin.Encoding

open Text (Bytes)

/-- Blanks and an opening brace. -/
def LooksLikeObject (data : Bytes) : Prop :=
  ∃ blanks rest, (∀ byte ∈ blanks, isBlankByte byte = true) ∧
    data = blanks ++ openingBrace :: rest

theorem isBlankByte_iff {byte : UInt8} :
    isBlankByte byte = true ↔ (9 ≤ byte.toNat ∧ byte.toNat ≤ 13) ∨ byte.toNat = 32 := by
  simp [isBlankByte, UInt8.le_iff_toNat_le, ← UInt8.toNat_inj]

theorem detect_cons_of_not_blank {byte : UInt8} (h : isBlankByte byte = false) (rest : Bytes) :
    detect (byte :: rest) = if byte = openingBrace then .json else .protobuf := by
  simp [detect, h]

theorem detect_brace (rest : Bytes) : detect (openingBrace :: rest) = .json := by
  rw [detect_cons_of_not_blank (by decide), if_pos rfl]

theorem detect_cons_eq_json_iff {byte : UInt8} {rest : Bytes} :
    detect (byte :: rest) = .json ↔
      byte = openingBrace ∨ (isBlankByte byte = true ∧ detect rest = .json) := by
  by_cases hblank : isBlankByte byte = true
  · have hbrace : byte ≠ openingBrace := by
      rintro rfl
      exact absurd hblank (by decide)
    simp [detect_blank_cons hblank, hblank, hbrace]
  · rw [detect_cons_of_not_blank (Bool.eq_false_iff.2 hblank)]
    simp [hblank]

theorem detect_append_of_blank {blanks : Bytes}
    (h : ∀ byte ∈ blanks, isBlankByte byte = true) (data : Bytes) :
    detect (blanks ++ data) = detect data := by
  induction blanks with
  | nil => rfl
  | cons byte rest ih =>
      obtain ⟨hbyte, hrest⟩ := List.forall_mem_cons.1 h
      rw [List.cons_append, detect_blank_cons hbyte, ih hrest]

theorem detect_eq_json_iff {data : Bytes} : detect data = .json ↔ LooksLikeObject data := by
  constructor
  · intro h
    induction data with
    | nil => contradiction
    | cons byte rest ih =>
        rcases detect_cons_eq_json_iff.1 h with rfl | ⟨hblank, hrest⟩
        · exact ⟨[], rest, by simp, rfl⟩
        · obtain ⟨blanks, tail, hblanks, rfl⟩ := ih hrest
          exact ⟨byte :: blanks, tail, List.forall_mem_cons.2 ⟨hblank, hblanks⟩, rfl⟩
  · rintro ⟨blanks, rest, hblanks, rfl⟩
    rw [detect_append_of_blank hblanks, detect_brace]

theorem detect_eq_protobuf_iff {data : Bytes} :
    detect data = .protobuf ↔ ¬ LooksLikeObject data := by
  rw [← detect_eq_json_iff]
  cases detect data <;> simp

theorem writeTag_of_small {number : Nat} {form : Wire.Form}
    (h : 8 * number + form.code < Wire.continuation) :
    Wire.writeTag ⟨number, form⟩ = [UInt8.ofNat (8 * number + form.code)] := by
  simp [Wire.writeTag, Wire.widestTag, Wire.writeVarint, h]

theorem detect_writeField {number : Nat} {content : Bytes}
    (hsmall : 8 * number + Wire.Form.bytes.code < Wire.continuation)
    (hblank : isBlankByte (UInt8.ofNat (8 * number + Wire.Form.bytes.code)) = false)
    (hbrace : UInt8.ofNat (8 * number + Wire.Form.bytes.code) ≠ openingBrace) (rest : Bytes) :
    detect (Wire.writeField (number, .bytes content) ++ rest) = .protobuf := by
  rw [Wire.writeField, Wire.writePayload, writeTag_of_small hsmall, List.append_assoc,
    List.singleton_append, detect_cons_of_not_blank hblank, if_neg hbrace]

theorem readTag_cons_of_small {byte : UInt8} (h : byte.toNat < Wire.continuation)
    (tail : Bytes) :
    Wire.readTag (byte :: tail) =
      if byte.toNat / 8 ≠ 0 then
        (Wire.Form.ofCode? (byte.toNat % 8)).map fun form => (⟨byte.toNat / 8, form⟩, tail)
      else none := by
  have hbound : byte.toNat < Wire.tagBound := Nat.lt_trans h (by decide)
  simp [Wire.readTag, Wire.readVarint, Wire.widestTag, h, hbound]

/--
Bytes taken for JSON can only be fields if the first of them is one of three: field 1
in any form but a number, field 4 as a number, or field 15 as a group.
-/
theorem readTag_of_detect_json {data : Bytes} (h : detect data = .json)
    {tag : Wire.Tag} {rest : Bytes} (hread : Wire.readTag data = some (tag, rest)) :
    (tag.number = 1 ∧ tag.form ≠ .varint) ∨ (tag.number = 4 ∧ tag.form = .varint) ∨
      (tag.number = 15 ∧ tag.form = .groupStart) := by
  cases data with
  | nil => contradiction
  | cons byte tail =>
      have hcases : byte.toNat = 9 ∨ byte.toNat = 10 ∨ byte.toNat = 11 ∨ byte.toNat = 12 ∨
          byte.toNat = 13 ∨ byte.toNat = 32 ∨ byte.toNat = 123 := by
        rcases detect_cons_eq_json_iff.1 h with rfl | ⟨hblank, _⟩
        · decide
        · have := isBlankByte_iff.1 hblank
          omega
      have hsmall : byte.toNat < Wire.continuation := by
        unfold Wire.continuation
        omega
      rw [readTag_cons_of_small hsmall] at hread
      rcases hcases with h | h | h | h | h | h | h <;>
        (rw [h] at hread
         cases hread
         simp)

/--
A counted field 1 is taken for JSON if its length stands where a brace would, or is
a blank before bytes that are taken for JSON.
-/
theorem detect_writeField_one_iff {content rest : Bytes} :
    detect (Wire.writeField (1, .bytes content) ++ rest) = .json ↔
      content.length = 123 ∨
        (((9 ≤ content.length ∧ content.length ≤ 13) ∨ content.length = 32) ∧
          detect (content ++ rest) = .json) := by
  have htag : Wire.writeTag ⟨1, .bytes⟩ = [0x0A] := writeTag_of_small (by decide)
  rw [Wire.writeField, Wire.writePayload, htag, List.append_assoc, List.singleton_append,
    detect_blank_cons (by decide), Wire.writeCounted, Wire.widestVarint, Wire.writeVarint,
    List.append_assoc]
  by_cases hsmall : content.length < Wire.continuation
  · have hbyte : (UInt8.ofNat content.length).toNat = content.length :=
      Text.toNat_ofNat_of_lt (Nat.lt_trans hsmall (by decide))
    have hbrace : UInt8.ofNat content.length = openingBrace ↔ content.length = 123 := by
      rw [← UInt8.toNat_inj, hbyte]
      rfl
    rw [if_pos hsmall, List.singleton_append, detect_cons_eq_json_iff, isBlankByte_iff, hbyte,
      hbrace]
  · have hlarge : 128 ≤ content.length := Nat.not_lt.1 hsmall
    have hbyte : (UInt8.ofNat (content.length % Wire.continuation + Wire.continuation)).toNat =
        content.length % Wire.continuation + Wire.continuation :=
      Text.toNat_ofNat_of_lt (by unfold Wire.continuation; omega)
    have hbrace :
        UInt8.ofNat (content.length % Wire.continuation + Wire.continuation) ≠ openingBrace := by
      intro hequal
      rw [hequal, show openingBrace.toNat = 123 from rfl] at hbyte
      unfold Wire.continuation at hbyte
      omega
    rw [if_neg hsmall, List.cons_append, detect_cons_eq_json_iff, isBlankByte_iff, hbyte]
    unfold Wire.continuation at hbrace ⊢
    constructor
    · rintro (hequal | ⟨hblank, _⟩)
      · exact absurd hequal hbrace
      · omega
    · rintro (hequal | ⟨hblank, _⟩) <;> omega

theorem detect_encodeChars_brace (rest : List Char) :
    detect (Text.encodeChars ('\x7b' :: rest)) = .json := by
  have hbytes : Text.encodeChars ('\x7b' :: rest) = openingBrace :: Text.encodeChars rest := rfl
  rw [hbytes, detect_brace]

theorem isBlankByte_of_spaces {spaces : List Char} (h : Json.Spaces spaces) :
    ∀ byte ∈ Text.encodeChars spaces, isBlankByte byte = true := by
  intro byte hbyte
  obtain ⟨c, hc, hmem⟩ := List.mem_flatMap.1 hbyte
  have hspace := h c hc
  simp only [Json.isSpace, Bool.or_eq_true, beq_iff_eq] at hspace
  rcases hspace with ((rfl | rfl) | rfl) | rfl <;>
    (rw [Text.utf8EncodeChar_one (by decide), List.mem_singleton] at hmem
     subst hmem
     decide)

theorem detect_encodeChars_object {spaces : List Char} (h : Json.Spaces spaces)
    (rest : List Char) : detect (Text.encodeChars (spaces ++ '\x7b' :: rest)) = .json := by
  have hsplit : Text.encodeChars (spaces ++ '\x7b' :: rest) =
      Text.encodeChars spaces ++ Text.encodeChars ('\x7b' :: rest) := List.flatMap_append
  rw [hsplit, detect_append_of_blank (isBlankByte_of_spaces h), detect_encodeChars_brace]

end QueryBindings.Plugin.Encoding
