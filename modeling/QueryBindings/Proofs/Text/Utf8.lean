import QueryBindings.Text.Utf8

/-!
# UTF-8 back and forth

Reading bytes yields characters exactly if the bytes are the encoding of these
characters.  One direction follows a character through the states that its bytes
lead to, the other one finds the bytes that a successful reading must have seen.
-/

namespace QueryBindings.Text

theorem toNat_ofNat_of_lt {n : Nat} (h : n < 256) : (UInt8.ofNat n).toNat = n := by
  rw [UInt8.toNat_ofNat', Nat.mod_eq_of_lt h]

/-! ## Code points -/

/-- A number of a character: it is in range and no surrogate. -/
def IsScalar (n : Nat) : Prop :=
  n < 0xD800 ∨ (0xDFFF < n ∧ n < 0x110000)

theorem isScalar_toNat (c : Char) : IsScalar c.toNat := c.valid

theorem toNat_ofNat_of_isScalar {n : Nat} (h : IsScalar n) : (Char.ofNat n).toNat = n := by
  have hvalid : n.isValidChar := h
  rw [Char.ofNat, dif_pos hvalid]
  rfl

/-! ## The bytes of a character -/

section Encoding

variable {c : Char}

theorem utf8EncodeChar_one (h : c.toNat < 0x80) :
    String.utf8EncodeChar c = [UInt8.ofNat c.toNat] := by
  have hle : c.val.toNat ≤ 0x7F := Nat.le_of_lt_succ h
  simp only [String.utf8EncodeChar, if_pos hle]
  rfl

theorem utf8EncodeChar_two (hlow : 0x80 ≤ c.toNat) (hhigh : c.toNat < 0x800) :
    String.utf8EncodeChar c =
      [UInt8.ofNat (c.toNat / 64 + 0xC0), UInt8.ofNat (c.toNat % 64 + 0x80)] := by
  have hone : ¬ c.val.toNat ≤ 0x7F := Nat.not_le.2 hlow
  have htwo : c.val.toNat ≤ 0x7FF := Nat.le_of_lt_succ hhigh
  have hlead : c.toNat / 64 % 0x20 = c.toNat / 64 := by omega
  simp only [String.utf8EncodeChar, if_neg hone, if_pos htwo]
  rw [← hlead]
  rfl

theorem utf8EncodeChar_three (hlow : 0x800 ≤ c.toNat) (hhigh : c.toNat < 0x10000) :
    String.utf8EncodeChar c =
      [UInt8.ofNat (c.toNat / 4096 + 0xE0), UInt8.ofNat (c.toNat / 64 % 64 + 0x80),
        UInt8.ofNat (c.toNat % 64 + 0x80)] := by
  have hone : ¬ c.val.toNat ≤ 0x7F := by
    have : c.val.toNat = c.toNat := rfl
    omega
  have htwo : ¬ c.val.toNat ≤ 0x7FF := Nat.not_le.2 hlow
  have hthree : c.val.toNat ≤ 0xFFFF := Nat.le_of_lt_succ hhigh
  have hlead : c.toNat / 4096 % 0x10 = c.toNat / 4096 := by omega
  simp only [String.utf8EncodeChar, if_neg hone, if_neg htwo, if_pos hthree]
  rw [← hlead]
  rfl

theorem utf8EncodeChar_four (hlow : 0x10000 ≤ c.toNat) :
    String.utf8EncodeChar c =
      [UInt8.ofNat (c.toNat / 262144 + 0xF0), UInt8.ofNat (c.toNat / 4096 % 64 + 0x80),
        UInt8.ofNat (c.toNat / 64 % 64 + 0x80), UInt8.ofNat (c.toNat % 64 + 0x80)] := by
  have hsame : c.val.toNat = c.toNat := rfl
  have hscalar : IsScalar c.toNat := isScalar_toNat c
  unfold IsScalar at hscalar
  have hone : ¬ c.val.toNat ≤ 0x7F := by omega
  have htwo : ¬ c.val.toNat ≤ 0x7FF := by omega
  have hthree : ¬ c.val.toNat ≤ 0xFFFF := by omega
  have hlead : c.toNat / 262144 % 0x08 = c.toNat / 262144 := by omega
  simp only [String.utf8EncodeChar, if_neg hone, if_neg htwo, if_neg hthree]
  rw [← hlead]
  rfl

end Encoding

theorem toNat_lt_of_mem_encodeChars {cs : List Char} (h : ∀ c ∈ cs, c.toNat < 0x80) :
    ∀ byte ∈ encodeChars cs, byte.toNat < 0x80 := by
  intro byte hbyte
  obtain ⟨c, hc, hmem⟩ := List.mem_flatMap.1 hbyte
  have hlow := h c hc
  rw [utf8EncodeChar_one hlow, List.mem_singleton] at hmem
  rw [hmem, toNat_ofNat_of_lt (by omega)]
  exact hlow

theorem encode_eq_toUTF8 (s : String) : encode s = s.toUTF8.data.toList := by
  rw [String.toUTF8_eq_toByteArray, ← String.utf8Encode_toList, List.utf8Encode,
    List.data_toByteArray]
  rfl

/-! ## Reading what was written -/

section Steps

theorem readLead_two (byte : UInt8) (hlow : 0xC2 ≤ byte.toNat) (hhigh : byte.toNat < 0xE0) :
    readLead byte = .begins ⟨byte, 1, 1, 0x80, 0xBF, byte.toNat - 0xC0⟩ := by
  simp only [readLead]
  rw [if_neg (by omega), if_neg (by omega), if_pos hhigh]

theorem readLead_three (byte : UInt8) (hlow : 0xE0 ≤ byte.toNat) (hhigh : byte.toNat < 0xF0) :
    readLead byte =
      .begins ⟨byte, 1, 2, if byte.toNat = 0xE0 then 0xA0 else 0x80,
        if byte.toNat = 0xED then 0x9F else 0xBF, byte.toNat - 0xE0⟩ := by
  simp only [readLead]
  rw [if_neg (by omega), if_neg (by omega), if_neg (by omega), if_pos hhigh]

theorem readLead_four (byte : UInt8) (hlow : 0xF0 ≤ byte.toNat) (hhigh : byte.toNat < 0xF5) :
    readLead byte =
      .begins ⟨byte, 1, 3, if byte.toNat = 0xF0 then 0x90 else 0x80,
        if byte.toNat = 0xF4 then 0x8F else 0xBF, byte.toNat - 0xF0⟩ := by
  simp only [readLead]
  rw [if_neg (by omega), if_neg (by omega), if_neg (by omega), if_neg (by omega), if_pos hhigh]

variable {position : Nat} {state : PartialChar} {byte : UInt8}

theorem decodeFrom_last (howed : state.owed = 1)
    (hrange : state.low ≤ byte.toNat ∧ byte.toNat ≤ state.high) (rest : Bytes) :
    decodeFrom position (some state) (byte :: rest) =
      (decodeFrom (position + 1) none rest).map
        (Char.ofNat (64 * state.value + (byte.toNat - 0x80)) :: ·) := by
  obtain ⟨lead, count, owed, low, high, value⟩ := state
  subst howed
  simp only [decodeFrom, if_pos hrange]

theorem decodeFrom_more {owed : Nat} (howed : state.owed = owed + 2)
    (hrange : state.low ≤ byte.toNat ∧ byte.toNat ≤ state.high) (rest : Bytes) :
    decodeFrom position (some state) (byte :: rest) =
      decodeFrom (position + 1)
        (some ⟨state.lead, state.count + 1, owed + 1, 0x80, 0xBF,
          64 * state.value + (byte.toNat - 0x80)⟩) rest := by
  obtain ⟨lead, count, _, low, high, value⟩ := state
  subst howed
  simp only [decodeFrom, if_pos hrange]

theorem decodeFrom_begins (hlead : readLead byte = .begins state) (rest : Bytes) :
    decodeFrom position none (byte :: rest) = decodeFrom (position + 1) (some state) rest := by
  simp only [decodeFrom, hlead]

end Steps

/-- The bytes of a character are read as it, whatever comes after them. -/
def IsReadBack (c : Char) : Prop :=
  ∀ position rest, ∃ next, decodeFrom position none (String.utf8EncodeChar c ++ rest) =
    (decodeFrom next none rest).map (c :: ·)

section ReadBack

variable {c : Char}

theorem isReadBack_one (h : c.toNat < 0x80) : IsReadBack c := by
  intro position rest
  have hbyte := toNat_ofNat_of_lt (n := c.toNat) (by omega)
  have hread := decodeFrom_ascii position (UInt8.ofNat c.toNat) rest (by omega)
  rw [hbyte, Char.ofNat_toNat] at hread
  rw [utf8EncodeChar_one h]
  exact ⟨_, hread⟩

theorem isReadBack_two (hlow : 0x80 ≤ c.toNat) (hhigh : c.toNat < 0x800) : IsReadBack c := by
  intro position rest
  have hfirst := toNat_ofNat_of_lt (n := c.toNat / 64 + 0xC0) (by omega)
  have hlast := toNat_ofNat_of_lt (n := c.toNat % 64 + 0x80) (by omega)
  have hlead := readLead_two (UInt8.ofNat (c.toNat / 64 + 0xC0)) (by omega) (by omega)
  rw [hfirst] at hlead
  have hvalue :
      64 * (c.toNat / 64 + 0xC0 - 0xC0) + (c.toNat % 64 + 0x80 - 0x80) = c.toNat := by omega
  rw [utf8EncodeChar_two hlow hhigh, List.cons_append, decodeFrom_begins hlead,
    List.cons_append, decodeFrom_last rfl (by rw [hlast]; dsimp only; omega), hlast]
  dsimp only
  rw [hvalue, Char.ofNat_toNat]
  exact ⟨_, rfl⟩

theorem isReadBack_three (hlow : 0x800 ≤ c.toNat) (hhigh : c.toNat < 0x10000) :
    IsReadBack c := by
  intro position rest
  have hscalar := isScalar_toNat c
  unfold IsScalar at hscalar
  have hfirst := toNat_ofNat_of_lt (n := c.toNat / 4096 + 0xE0) (by omega)
  have hinner := toNat_ofNat_of_lt (n := c.toNat / 64 % 64 + 0x80) (by omega)
  have hlast := toNat_ofNat_of_lt (n := c.toNat % 64 + 0x80) (by omega)
  have hlead := readLead_three (UInt8.ofNat (c.toNat / 4096 + 0xE0)) (by omega) (by omega)
  rw [hfirst] at hlead
  have hvalue :
      64 * (64 * (c.toNat / 4096 + 0xE0 - 0xE0) + (c.toNat / 64 % 64 + 0x80 - 0x80)) +
        (c.toNat % 64 + 0x80 - 0x80) = c.toNat := by omega
  rw [utf8EncodeChar_three hlow hhigh, List.cons_append, decodeFrom_begins hlead,
    List.cons_append, decodeFrom_more rfl (by rw [hinner]; dsimp only; split <;> split <;> omega),
    List.cons_append, decodeFrom_last rfl (by rw [hlast]; dsimp only; omega), hlast, hinner]
  dsimp only
  rw [hvalue, Char.ofNat_toNat]
  exact ⟨_, rfl⟩

theorem isReadBack_four (hlow : 0x10000 ≤ c.toNat) : IsReadBack c := by
  intro position rest
  have hscalar := isScalar_toNat c
  unfold IsScalar at hscalar
  have hfirst := toNat_ofNat_of_lt (n := c.toNat / 262144 + 0xF0) (by omega)
  have houter := toNat_ofNat_of_lt (n := c.toNat / 4096 % 64 + 0x80) (by omega)
  have hinner := toNat_ofNat_of_lt (n := c.toNat / 64 % 64 + 0x80) (by omega)
  have hlast := toNat_ofNat_of_lt (n := c.toNat % 64 + 0x80) (by omega)
  have hlead := readLead_four (UInt8.ofNat (c.toNat / 262144 + 0xF0)) (by omega) (by omega)
  rw [hfirst] at hlead
  have hvalue :
      64 * (64 * (64 * (c.toNat / 262144 + 0xF0 - 0xF0) +
        (c.toNat / 4096 % 64 + 0x80 - 0x80)) + (c.toNat / 64 % 64 + 0x80 - 0x80)) +
        (c.toNat % 64 + 0x80 - 0x80) = c.toNat := by omega
  rw [utf8EncodeChar_four hlow, List.cons_append, decodeFrom_begins hlead,
    List.cons_append, decodeFrom_more rfl (by rw [houter]; dsimp only; split <;> split <;> omega),
    List.cons_append, decodeFrom_more rfl (by rw [hinner]; dsimp only; omega),
    List.cons_append, decodeFrom_last rfl (by rw [hlast]; dsimp only; omega), hlast, hinner,
    houter]
  dsimp only
  rw [hvalue, Char.ofNat_toNat]
  exact ⟨_, rfl⟩

theorem isReadBack (c : Char) : IsReadBack c := by
  by_cases hone : c.toNat < 0x80
  · exact isReadBack_one hone
  by_cases htwo : c.toNat < 0x800
  · exact isReadBack_two (Nat.not_lt.1 hone) htwo
  by_cases hthree : c.toNat < 0x10000
  · exact isReadBack_three (Nat.not_lt.1 htwo) hthree
  · exact isReadBack_four (Nat.not_lt.1 hthree)

end ReadBack

theorem decodeFrom_encodeChars (cs : List Char) (position : Nat) :
    decodeFrom position none (encodeChars cs) = .ok cs := by
  induction cs generalizing position with
  | nil => rfl
  | cons c rest ih =>
      obtain ⟨next, hread⟩ := isReadBack c position (encodeChars rest)
      have hbytes : encodeChars (c :: rest) = String.utf8EncodeChar c ++ encodeChars rest := rfl
      rw [hbytes, hread, ih]
      rfl

theorem decodeChars_encodeChars (cs : List Char) : decodeChars (encodeChars cs) = .ok cs :=
  decodeFrom_encodeChars cs 0

theorem decode_encode (s : String) : decode (encode s) = .ok s := by
  simp [decode, encode, decodeChars_encodeChars, Except.map]

/-! ## Writing what was read -/

theorem exists_of_decodeFrom_last {position : Nat} {state : PartialChar} {bytes : Bytes}
    {cs : List Char} (howed : state.owed = 1)
    (h : decodeFrom position (some state) bytes = .ok cs) :
    ∃ byte rest others, bytes = byte :: rest ∧
      (state.low ≤ byte.toNat ∧ byte.toNat ≤ state.high) ∧
      decodeFrom (position + 1) none rest = .ok others ∧
      cs = Char.ofNat (64 * state.value + (byte.toNat - 0x80)) :: others := by
  cases bytes with
  | nil => simp [decodeFrom] at h
  | cons byte rest =>
      by_cases hrange : state.low ≤ byte.toNat ∧ byte.toNat ≤ state.high
      · rw [decodeFrom_last howed hrange] at h
        cases hrest : decodeFrom (position + 1) none rest with
        | error fault => simp [hrest, Except.map] at h
        | ok others =>
            simp only [hrest, Except.map, Except.ok.injEq] at h
            exact ⟨byte, rest, others, rfl, hrange, hrest, h.symm⟩
      · simp [decodeFrom, hrange] at h

theorem exists_of_decodeFrom_more {position owed : Nat} {state : PartialChar} {bytes : Bytes}
    {cs : List Char} (howed : state.owed = owed + 2)
    (h : decodeFrom position (some state) bytes = .ok cs) :
    ∃ byte rest, bytes = byte :: rest ∧
      (state.low ≤ byte.toNat ∧ byte.toNat ≤ state.high) ∧
      decodeFrom (position + 1)
        (some ⟨state.lead, state.count + 1, owed + 1, 0x80, 0xBF,
          64 * state.value + (byte.toNat - 0x80)⟩) rest = .ok cs := by
  cases bytes with
  | nil => simp [decodeFrom] at h
  | cons byte rest =>
      by_cases hrange : state.low ≤ byte.toNat ∧ byte.toNat ≤ state.high
      · rw [decodeFrom_more howed hrange] at h
        exact ⟨byte, rest, rfl, hrange, h⟩
      · simp [decodeFrom, hrange] at h

theorem ofNat_toNat_of_eq (byte : UInt8) {n : Nat} (h : n = byte.toNat) : UInt8.ofNat n = byte := by
  rw [h, UInt8.ofNat_toNat]

/-- Bytes begin with those of a character, as which they are read, and a text comes after it. -/
def BeginsWithChar (bytes : Bytes) (cs : List Char) : Prop :=
  ∃ c rest others next, bytes = String.utf8EncodeChar c ++ rest ∧
    decodeFrom next none rest = .ok others ∧ cs = c :: others

section FirstChar

variable {position : Nat} {byte : UInt8} {bytes : Bytes} {cs : List Char}

theorem beginsWithChar_of_one (h : decodeFrom position none (byte :: bytes) = .ok cs)
    (hone : byte.toNat < 0x80) : BeginsWithChar (byte :: bytes) cs := by
  rw [decodeFrom_ascii position byte bytes hone] at h
  cases hrest : decodeFrom (position + 1) none bytes with
  | error fault => simp [hrest, Except.map] at h
  | ok others =>
      simp only [hrest, Except.map, Except.ok.injEq] at h
      have hc := toNat_ofNat_of_isScalar (n := byte.toNat) (.inl (by omega))
      refine ⟨Char.ofNat byte.toNat, bytes, others, position + 1, ?_, hrest, h.symm⟩
      rw [utf8EncodeChar_one (by omega), hc, UInt8.ofNat_toNat]
      rfl

theorem beginsWithChar_of_two (h : decodeFrom position none (byte :: bytes) = .ok cs)
    (hlow : 0xC2 ≤ byte.toNat) (hhigh : byte.toNat < 0xE0) :
    BeginsWithChar (byte :: bytes) cs := by
  rw [decodeFrom_begins (readLead_two _ hlow hhigh)] at h
  obtain ⟨last, rest, others, rfl, hrange, hrest, rfl⟩ := exists_of_decodeFrom_last rfl h
  dsimp only at hrange hrest ⊢
  have hc := toNat_ofNat_of_isScalar
    (n := 64 * (byte.toNat - 0xC0) + (last.toNat - 0x80)) (.inl (by omega))
  refine ⟨_, rest, others, _, ?_, hrest, rfl⟩
  rw [utf8EncodeChar_two (by omega) (by omega), hc, ofNat_toNat_of_eq byte (by omega),
    ofNat_toNat_of_eq last (by omega)]
  rfl

theorem beginsWithChar_of_three (h : decodeFrom position none (byte :: bytes) = .ok cs)
    (hlow : 0xE0 ≤ byte.toNat) (hhigh : byte.toNat < 0xF0) :
    BeginsWithChar (byte :: bytes) cs := by
  rw [decodeFrom_begins (readLead_three _ hlow hhigh)] at h
  obtain ⟨inner, _, rfl, hinner, h⟩ := exists_of_decodeFrom_more rfl h
  obtain ⟨last, rest, others, rfl, hrange, hrest, rfl⟩ := exists_of_decodeFrom_last rfl h
  dsimp only at hinner hrange hrest ⊢
  have hscalar : IsScalar
      (64 * (64 * (byte.toNat - 0xE0) + (inner.toNat - 0x80)) + (last.toNat - 0x80)) := by
    unfold IsScalar
    split at hinner <;> split at hinner <;> omega
  have hc := toNat_ofNat_of_isScalar hscalar
  have hleast : 0xA0 ≤ inner.toNat ∨ byte.toNat ≠ 0xE0 := by
    split at hinner <;> omega
  have hbounds : 0x80 ≤ inner.toNat ∧ inner.toNat ≤ 0xBF := by
    split at hinner <;> split at hinner <;> omega
  refine ⟨_, rest, others, _, ?_, hrest, rfl⟩
  rw [utf8EncodeChar_three (by omega) (by omega), hc, ofNat_toNat_of_eq byte (by omega),
    ofNat_toNat_of_eq inner (by omega), ofNat_toNat_of_eq last (by omega)]
  rfl

theorem beginsWithChar_of_four (h : decodeFrom position none (byte :: bytes) = .ok cs)
    (hlow : 0xF0 ≤ byte.toNat) (hhigh : byte.toNat < 0xF5) :
    BeginsWithChar (byte :: bytes) cs := by
  rw [decodeFrom_begins (readLead_four _ hlow hhigh)] at h
  obtain ⟨outer, _, rfl, houter, h⟩ := exists_of_decodeFrom_more rfl h
  obtain ⟨inner, _, rfl, hinner, h⟩ := exists_of_decodeFrom_more rfl h
  obtain ⟨last, rest, others, rfl, hrange, hrest, rfl⟩ := exists_of_decodeFrom_last rfl h
  dsimp only at houter hinner hrange hrest ⊢
  have hbounds : 0x80 ≤ outer.toNat ∧ outer.toNat ≤ 0xBF := by
    split at houter <;> split at houter <;> omega
  have hleast : 0x90 ≤ outer.toNat ∨ byte.toNat ≠ 0xF0 := by
    split at houter <;> omega
  have hmost : outer.toNat ≤ 0x8F ∨ byte.toNat ≠ 0xF4 := by
    split at houter <;> split at houter <;> omega
  have hc := toNat_ofNat_of_isScalar
    (n := 64 * (64 * (64 * (byte.toNat - 0xF0) + (outer.toNat - 0x80)) +
      (inner.toNat - 0x80)) + (last.toNat - 0x80)) (.inr (by omega))
  refine ⟨_, rest, others, _, ?_, hrest, rfl⟩
  rw [utf8EncodeChar_four (by omega), hc, ofNat_toNat_of_eq byte (by omega),
    ofNat_toNat_of_eq outer (by omega), ofNat_toNat_of_eq inner (by omega),
    ofNat_toNat_of_eq last (by omega)]
  rfl

theorem beginsWithChar_of_decodeFrom (h : decodeFrom position none (byte :: bytes) = .ok cs) :
    BeginsWithChar (byte :: bytes) cs := by
  by_cases hone : byte.toNat < 0x80
  · exact beginsWithChar_of_one h hone
  by_cases hinvalid : byte.toNat < 0xC2
  · have hlead : readLead byte = .invalid := by
      simp only [readLead, if_neg hone, if_pos hinvalid]
    simp [decodeFrom, hlead] at h
  by_cases htwo : byte.toNat < 0xE0
  · exact beginsWithChar_of_two h (Nat.not_lt.1 hinvalid) htwo
  by_cases hthree : byte.toNat < 0xF0
  · exact beginsWithChar_of_three h (Nat.not_lt.1 htwo) hthree
  by_cases hfour : byte.toNat < 0xF5
  · exact beginsWithChar_of_four h (Nat.not_lt.1 hthree) hfour
  · have hlead : readLead byte = .invalid := by
      simp only [readLead, if_neg hone, if_neg hinvalid, if_neg htwo, if_neg hthree, if_neg hfour]
    simp [decodeFrom, hlead] at h

end FirstChar

theorem encodeChars_of_decodeFrom {size position : Nat} {bytes : Bytes} {cs : List Char}
    (hsize : bytes.length ≤ size) (h : decodeFrom position none bytes = .ok cs) :
    encodeChars cs = bytes := by
  induction size generalizing position bytes cs with
  | zero =>
      cases bytes with
      | nil =>
          cases h
          rfl
      | cons byte bytes => simp at hsize
  | succ size ih =>
      cases bytes with
      | nil =>
          cases h
          rfl
      | cons byte bytes =>
          obtain ⟨c, rest, others, next, hbytes, hrest, rfl⟩ := beginsWithChar_of_decodeFrom h
          have hpositive : 0 < (String.utf8EncodeChar c).length := by
            rw [String.length_utf8EncodeChar]
            exact c.utf8Size_pos
          have hlength := congrArg List.length hbytes
          rw [List.length_append] at hlength
          rw [hbytes, ← ih (by omega) hrest]
          rfl

/-- Bytes read as characters exactly if they are the bytes of these characters. -/
theorem decodeChars_eq_ok_iff {bytes : Bytes} {cs : List Char} :
    decodeChars bytes = .ok cs ↔ bytes = encodeChars cs := by
  constructor
  · intro h
    exact (encodeChars_of_decodeFrom (Nat.le_refl _) h).symm
  · rintro rfl
    exact decodeChars_encodeChars cs

/-! ## Cutting bytes -/

theorem exists_of_encodeChars_append {cs text : List Char} {rest : Bytes}
    (h : encodeChars text = encodeChars cs ++ rest) :
    ∃ others, text = cs ++ others ∧ rest = encodeChars others := by
  induction cs generalizing text with
  | nil => exact ⟨text, rfl, h.symm⟩
  | cons c cs ih =>
      have hbytes : encodeChars (c :: cs) = String.utf8EncodeChar c ++ encodeChars cs := rfl
      rw [hbytes, List.append_assoc] at h
      obtain ⟨next, hread⟩ := isReadBack c 0 (encodeChars cs ++ rest)
      rw [← h, decodeFrom_encodeChars] at hread
      obtain ⟨tail, rfl⟩ : ∃ tail, text = c :: tail := by
        cases hrest : decodeFrom next none (encodeChars cs ++ rest) with
        | error fault =>
            rw [hrest] at hread
            contradiction
        | ok tail =>
            rw [hrest] at hread
            exact ⟨tail, Except.ok.inj hread⟩
      have htail : encodeChars tail = encodeChars cs ++ rest := List.append_cancel_left h
      obtain ⟨others, rfl, hothers⟩ := ih htail
      exact ⟨others, rfl, hothers⟩

theorem take_encodeChars_of_ascii {cs : List Char} (h : ∀ c ∈ cs, c.toNat < 0x80) (count : Nat) :
    (encodeChars cs).take count = encodeChars (cs.take count) := by
  induction cs generalizing count with
  | nil => rw [List.take_nil]; exact List.take_nil
  | cons c rest ih =>
      obtain ⟨hc, hrest⟩ := List.forall_mem_cons.1 h
      have hbytes (others : List Char) :
          encodeChars (c :: others) = UInt8.ofNat c.toNat :: encodeChars others := by
        simp [encodeChars, utf8EncodeChar_one hc]
      cases count with
      | zero => rfl
      | succ count => rw [hbytes, List.take_succ_cons, List.take_succ_cons, hbytes, ih hrest]

end QueryBindings.Text
