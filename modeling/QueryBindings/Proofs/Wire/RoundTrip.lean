import Mathlib.Algebra.Group.Nat.Defs
import QueryBindings.Wire.Field

/-!
# Reading what was written

Numbers, tags and fields read back as they were written, whatever bytes come
after them.  A sequence of fields reads back to its end.
-/

namespace QueryBindings.Wire

open Text (Bytes)

theorem readVarint_writeVarint {most n : Nat} (h : n < continuation ^ (most + 1))
    (rest : Bytes) :
    readVarint (most + 1) (writeVarint (most + 1) n ++ rest) = some (n, rest) := by
  induction most generalizing n with
  | zero =>
      have hlast : n < continuation := by simpa using h
      have hbyte : (UInt8.ofNat n).toNat = n := by
        simp only [continuation] at hlast
        simp only [UInt8.toNat_ofNat']
        omega
      simp [writeVarint, readVarint, hlast, hbyte]
  | succ most ih =>
      rw [writeVarint]
      by_cases hlast : n < continuation
      · have hbyte : (UInt8.ofNat n).toNat = n := by
          simp only [continuation] at hlast
          simp only [UInt8.toNat_ofNat']
          omega
        simp [readVarint, hlast, hbyte]
      · have hbyte :
            (UInt8.ofNat (n % continuation + continuation)).toNat =
              n % continuation + continuation := by
          simp only [continuation, UInt8.toNat_ofNat']
          omega
        have hrest : n / continuation < continuation ^ (most + 1) := by
          rw [Nat.pow_succ, Nat.mul_comm] at h
          exact Nat.div_lt_of_lt_mul h
        have hmore : ¬ n % continuation + continuation < continuation := by omega
        rw [if_neg hlast, List.cons_append, readVarint, hbyte, if_neg hmore, ih hrest]
        simp only [Option.map_some, Nat.add_sub_cancel]
        rw [Nat.mod_add_div]

theorem bytesToNat_natToBytes {width n : Nat} (h : n < 256 ^ width) :
    bytesToNat (natToBytes width n) = n := by
  induction width generalizing n with
  | zero => simp_all [natToBytes, bytesToNat]
  | succ width ih =>
      have hrest : n / 256 < 256 ^ width := by
        rw [Nat.pow_succ] at h
        omega
      have hbyte : (UInt8.ofNat (n % 256)).toNat = n % 256 := by
        simp
      simp only [natToBytes, bytesToNat, ih hrest, hbyte]
      omega

theorem writeVarint_ne_nil (most n : Nat) : writeVarint (most + 1) n ≠ [] := by
  rw [writeVarint]
  split <;> simp

theorem readWord_writeWord (n : UInt64) (rest : Bytes) :
    readWord (writeWord n ++ rest) = some (n, rest) := by
  have hfits : n.toNat < continuation ^ (9 + 1) :=
    Nat.lt_trans n.toNat_lt (by decide)
  unfold readWord writeWord widestVarint
  rw [readVarint_writeVarint hfits]
  simp

theorem readCounted_writeCounted {content : Bytes} (h : content.length < lengthBound)
    (rest : Bytes) :
    readCounted (writeCounted content ++ rest) = some (content, rest) := by
  have hword : content.length < 2 ^ 64 := Nat.lt_trans h (by decide)
  have hfits : content.length < continuation ^ (9 + 1) := Nat.lt_trans h (by decide)
  have hsize : (UInt64.ofNat content.length).toNat = content.length := by
    rw [UInt64.toNat_ofNat', Nat.mod_eq_of_lt hword]
  unfold readCounted readWord writeCounted widestVarint
  rw [List.append_assoc, readVarint_writeVarint hfits]
  simp only [Option.map_some, hsize, if_pos h]
  exact takeBytes_append content rest

def numberBound : Nat := 2 ^ 29

theorem Form.code_lt (form : Form) : form.code < 8 := by
  cases form <;> decide

theorem readTag_writeTag {tag : Tag} (hpositive : 0 < tag.number)
    (hsmall : tag.number < numberBound) (rest : Bytes) :
    readTag (writeTag tag ++ rest) = some (tag, rest) := by
  have hcode := tag.form.code_lt
  have hbound : 8 * tag.number + tag.form.code < tagBound := by
    unfold numberBound at hsmall
    unfold tagBound
    omega
  have hfits : 8 * tag.number + tag.form.code < continuation ^ (4 + 1) :=
    Nat.lt_trans hbound (by decide)
  have hnumber : (8 * tag.number + tag.form.code) / 8 = tag.number := by omega
  have hform : (8 * tag.number + tag.form.code) % 8 = tag.form.code := by omega
  unfold readTag writeTag widestTag
  rw [readVarint_writeVarint hfits]
  simp only [hnumber, hform, Form.ofCode?_code, Option.map_some]
  rw [if_pos ⟨hbound, Nat.ne_of_gt hpositive⟩]

/-- A payload that is no group and whose length a reader accepts. -/
def Payload.IsFlat : Payload → Prop
  | .bytes content => content.length < lengthBound
  | .group _ => False
  | .varint _ | .fixed64 _ | .fixed32 _ => True

/-- A field that reads back once it is written. -/
structure IsWritable (field : Field) : Prop where
  positive : 0 < field.1
  small : field.1 < numberBound
  flat : field.2.IsFlat

theorem readField_writeField {field : Field} (h : IsWritable field) (rest : Bytes) :
    readField (writeField field ++ rest) = some (field, rest) := by
  obtain ⟨number, payload⟩ := field
  obtain ⟨hpositive, hsmall, hflat⟩ := h
  rw [writeField]
  cases payload with
  | varint n =>
      rw [writePayload, List.append_assoc, readField, readTag_writeTag hpositive hsmall]
      simp only [readPayload, readWord_writeWord, Option.map_some]
  | fixed64 n =>
      have hcount := natToBytes_length 8 n.toNat
      have htake := takeBytes_append (natToBytes 8 n.toNat) rest
      have hvalue : bytesToNat (natToBytes 8 n.toNat) = n.toNat :=
        bytesToNat_natToBytes n.toNat_lt
      rw [hcount] at htake
      rw [writePayload, List.append_assoc, readField, readTag_writeTag hpositive hsmall]
      simp only [readPayload, htake, hvalue, Option.map_some, UInt64.ofNat_toNat]
  | bytes content =>
      rw [writePayload, List.append_assoc, readField, readTag_writeTag hpositive hsmall]
      simp only [readPayload, readCounted_writeCounted hflat, Option.map_some]
  | group fields => exact hflat.elim
  | fixed32 n =>
      have hcount := natToBytes_length 4 n.toNat
      have htake := takeBytes_append (natToBytes 4 n.toNat) rest
      have hvalue : bytesToNat (natToBytes 4 n.toNat) = n.toNat :=
        bytesToNat_natToBytes n.toNat_lt
      rw [hcount] at htake
      rw [writePayload, List.append_assoc, readField, readTag_writeTag hpositive hsmall]
      simp only [readPayload, htake, hvalue, Option.map_some, UInt32.ofNat_toNat]

theorem writeField_ne_nil {field : Field} (h : IsWritable field) : writeField field ≠ [] := by
  intro hnil
  have hread := readField_writeField h []
  rw [hnil] at hread
  simp [readField, readTag, readVarint, widestTag] at hread

theorem readFieldsWith_writeFields {fields : List Field} (h : ∀ field ∈ fields, IsWritable field)
    (fuel : Nat) (hfuel : (writeFields fields).length ≤ fuel) :
    readFieldsWith fuel (writeFields fields) = ⟨fields, true⟩ := by
  induction fields generalizing fuel with
  | nil => simp [writeFields, readFieldsWith]
  | cons field rest ih =>
      obtain ⟨hfield, hrest⟩ := List.forall_mem_cons.1 h
      have hread := readField_writeField hfield (writeFields rest)
      have hlength := List.length_pos_iff.2 (writeField_ne_nil hfield)
      rw [writeFields, List.length_append] at hfuel
      rw [writeFields]
      obtain ⟨fuel, rfl⟩ : ∃ less, fuel = less + 1 := ⟨fuel - 1, by omega⟩
      obtain ⟨byte, bytes, hbytes⟩ :=
        List.exists_cons_of_ne_nil (writeField_ne_nil hfield)
      rw [hbytes, List.cons_append] at hread ⊢
      have hfields := ih hrest fuel (by omega)
      simp only [readFieldsWith, hread, hfields]

theorem readFields_writeFields {fields : List Field} (h : ∀ field ∈ fields, IsWritable field) :
    readFields (writeFields fields) = ⟨fields, true⟩ :=
  readFieldsWith_writeFields h _ (Nat.le_refl _)

theorem length_lt_writeField (number : Nat) (content : Bytes) :
    content.length + 1 < (writeField (number, .bytes content)).length := by
  have htag : 0 < (writeTag ⟨number, .bytes⟩).length :=
    List.length_pos_iff.2 (writeVarint_ne_nil 4 _)
  have hlength : 0 < (writeVarint widestVarint content.length).length :=
    List.length_pos_iff.2 (writeVarint_ne_nil 9 _)
  simp only [writeField, writePayload, writeCounted, List.length_append]
  omega

theorem writeField_length_le {field : Field} {fields : List Field} (h : field ∈ fields) :
    (writeField field).length ≤ (writeFields fields).length := by
  induction fields with
  | nil => contradiction
  | cons first rest ih =>
      rw [writeFields, List.length_append]
      rcases List.mem_cons.1 h with rfl | hrest
      · omega
      · have := ih hrest
        omega

end QueryBindings.Wire
