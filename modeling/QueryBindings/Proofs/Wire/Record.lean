import QueryBindings.Proofs.Wire.Progress

/-!
# Records

What well-formed records are, in terms of bytes alone.  Numbers may have more bytes
than they need, and groups nest to any depth.  A reader reads such records, whatever
comes after them, and bytes that are read to their end are a sequence of records.
-/

namespace QueryBindings.Wire

open Text (Bytes)

variable {α : Type}

/-- A reader takes the spelling of a value off its bytes, and takes off nothing else. -/
structure Reads (reader : Bytes → Option (α × Bytes)) (spells : Bytes → α → Prop) : Prop where
  complete : ∀ {spelled value}, spells spelled value → ∀ rest,
    reader (spelled ++ rest) = some (value, rest)
  sound : ∀ {bytes value rest}, reader bytes = some (value, rest) →
    ∃ spelled, bytes = spelled ++ rest ∧ spells spelled value

theorem Reads.spells {reader : Bytes → Option (α × Bytes)} {spells : Bytes → α → Prop}
    (h : Reads reader spells) {spelled : Bytes} {value : α}
    (hread : reader spelled = some (value, [])) : spells spelled value := by
  obtain ⟨bytes, rfl, hspells⟩ := h.sound hread
  rwa [List.append_nil]

theorem Reads.exists_of_map {β : Type} {reader : Bytes → Option (α × Bytes)}
    {spells : Bytes → α → Prop} (h : Reads reader spells) (f : α → β) {bytes rest : Bytes}
    {value : β} (hread : (reader bytes).map (fun (read, rest) => (f read, rest)) =
      some (value, rest)) :
    ∃ read spelled, value = f read ∧ bytes = spelled ++ rest ∧ spells spelled read := by
  obtain ⟨⟨read, left⟩, hreader, heq⟩ := Option.map_eq_some_iff.1 hread
  cases heq
  obtain ⟨spelled, hbytes, hspells⟩ := h.sound hreader
  exact ⟨read, spelled, rfl, hbytes, hspells⟩

/-! ## Numbers -/

/-- Seven bits to a byte, the lowest first; the last byte alone is below 128. -/
inductive VarintSpelling : Bytes → Nat → Prop where
  | last {byte : UInt8} (h : byte.toNat < continuation) : VarintSpelling [byte] byte.toNat
  | more {byte : UInt8} {rest : Bytes} {n : Nat} (h : continuation ≤ byte.toNat)
      (hrest : VarintSpelling rest n) :
      VarintSpelling (byte :: rest) (byte.toNat - continuation + continuation * n)

theorem VarintSpelling.length_pos {spelled : Bytes} {n : Nat} (h : VarintSpelling spelled n) :
    0 < spelled.length := by
  cases h <;> simp

/-- A number in so many bytes at most. -/
structure ShortVarint (most : Nat) (spelled : Bytes) (n : Nat) : Prop where
  spells : VarintSpelling spelled n
  short : spelled.length ≤ most

theorem readVarint_of_spelling {spelled : Bytes} {n : Nat} (h : VarintSpelling spelled n)
    {most : Nat} (hshort : spelled.length ≤ most) (rest : Bytes) :
    readVarint most (spelled ++ rest) = some (n, rest) := by
  induction h generalizing most with
  | @last byte h =>
      obtain ⟨most, rfl⟩ := Nat.exists_eq_add_of_le' hshort
      simp only [List.singleton_append, List.length_singleton, readVarint, if_pos h]
  | @more byte tail n h _ ih =>
      rw [List.length_cons] at hshort
      obtain ⟨most, rfl⟩ : ∃ less, most = less + 1 := ⟨most - 1, by omega⟩
      have hread := ih (Nat.le_of_succ_le_succ hshort)
      rw [List.cons_append, readVarint, if_neg (Nat.not_lt.2 h), hread]
      rfl

theorem exists_of_readVarint {most : Nat} {bytes rest : Bytes} {n : Nat}
    (h : readVarint most bytes = some (n, rest)) :
    ∃ spelled, bytes = spelled ++ rest ∧ ShortVarint most spelled n := by
  induction most generalizing bytes n with
  | zero => simp [readVarint] at h
  | succ most ih =>
      cases bytes with
      | nil => simp [readVarint] at h
      | cons byte tail =>
          rw [readVarint] at h
          by_cases hlast : byte.toNat < continuation
          · rw [if_pos hlast] at h
            cases h
            exact ⟨[byte], rfl, .last hlast, by simp⟩
          · rw [if_neg hlast] at h
            obtain ⟨⟨m, left⟩, hread, heq⟩ := Option.map_eq_some_iff.1 h
            cases heq
            obtain ⟨spelled, rfl, hspells, hshort⟩ := ih hread
            exact ⟨byte :: spelled, rfl, .more (Nat.not_lt.1 hlast) hspells,
              Nat.succ_le_succ hshort⟩

theorem reads_varint (most : Nat) : Reads (readVarint most) (ShortVarint most) where
  complete h := readVarint_of_spelling h.spells h.short
  sound := exists_of_readVarint

/-! ## Tags and lengths -/

structure TagSpelling (spelled : Bytes) (tag : Tag) : Prop where
  spells : ShortVarint widestTag spelled (8 * tag.number + tag.form.code)
  positive : 0 < tag.number
  bounded : 8 * tag.number + tag.form.code < tagBound

theorem TagSpelling.length_pos {spelled : Bytes} {tag : Tag} (h : TagSpelling spelled tag) :
    0 < spelled.length :=
  h.spells.spells.length_pos

theorem Form.code_of_ofCode? {code : Nat} {form : Form} (h : ofCode? code = some form) :
    form.code = code := by
  unfold ofCode? at h
  split at h <;> cases h <;> rfl

theorem reads_tag : Reads readTag TagSpelling where
  complete := by
    intro spelled tag h rest
    have hcode := tag.form.code_lt
    have hpositive := h.positive
    have hnumber : (8 * tag.number + tag.form.code) / 8 = tag.number := by omega
    have hform : (8 * tag.number + tag.form.code) % 8 = tag.form.code := by omega
    unfold readTag
    rw [(reads_varint widestTag).complete h.spells]
    simp only [hnumber, hform, Form.ofCode?_code, Option.map_some]
    rw [if_pos ⟨h.bounded, Nat.ne_of_gt hpositive⟩]
  sound := by
    intro bytes tag rest h
    unfold readTag at h
    split at h
    · contradiction
    next n left hread =>
      obtain ⟨spelled, rfl, hspells⟩ := (reads_varint widestTag).sound hread
      split at h
      next hbounds =>
        obtain ⟨form, hform, heq⟩ := Option.map_eq_some_iff.1 h
        cases heq
        have hcode := Form.code_of_ofCode? hform
        have hn : 8 * (n / 8) + form.code = n := by omega
        refine ⟨spelled, rfl, ?_, Nat.pos_of_ne_zero hbounds.2, ?_⟩
        · rwa [hn]
        · rw [hn]
          exact hbounds.1
      · contradiction

/-- A number of which the lowest 64 bits count. -/
def WordSpelling (spelled : Bytes) (n : UInt64) : Prop :=
  ∃ m, ShortVarint widestVarint spelled m ∧ n = UInt64.ofNat m

theorem reads_word : Reads readWord WordSpelling where
  complete := by
    rintro spelled n ⟨m, hspells, rfl⟩ rest
    unfold readWord
    rw [(reads_varint widestVarint).complete hspells]
    rfl
  sound := by
    intro bytes n rest h
    obtain ⟨m, spelled, rfl, rfl, hspells⟩ :=
      (reads_varint widestVarint).exists_of_map UInt64.ofNat h
    exact ⟨spelled, rfl, m, hspells, rfl⟩

theorem reads_bytes (size : Nat) :
    Reads (takeBytes size) fun spelled content => spelled = content ∧ content.length = size where
  complete := by
    rintro spelled content ⟨rfl, rfl⟩ rest
    exact takeBytes_append spelled rest
  sound := by
    intro bytes content rest h
    unfold takeBytes at h
    split at h
    next hsize =>
      cases h
      exact ⟨bytes.take size, (List.take_append_drop size bytes).symm, rfl,
        List.length_take_of_le hsize⟩
    · contradiction

inductive CountedSpelling : Bytes → Bytes → Prop where
  | mk {spelled content : Bytes} {size : UInt64} (hspells : WordSpelling spelled size)
      (hsize : size.toNat = content.length) (hbounded : content.length < lengthBound) :
      CountedSpelling (spelled ++ content) content

theorem reads_counted : Reads readCounted CountedSpelling where
  complete := by
    rintro _ content ⟨hspells, hsize, hbounded⟩ rest
    unfold readCounted
    rw [List.append_assoc, reads_word.complete hspells]
    simp only [hsize, if_pos hbounded]
    exact takeBytes_append content rest
  sound := by
    intro bytes content rest h
    unfold readCounted at h
    split at h
    · contradiction
    next size left hread =>
      obtain ⟨spelled, rfl, hspells⟩ := reads_word.sound hread
      split at h
      next hbounded =>
        obtain ⟨_, rfl, rfl, hlength⟩ := (reads_bytes _).sound h
        refine ⟨_, (List.append_assoc ..).symm, hspells, hlength.symm, ?_⟩
        rwa [hlength]
      · contradiction

/-! ## Payloads -/

/-- The form that the tag in front of a payload has. -/
def Payload.form : Payload → Form
  | .varint _ => .varint
  | .fixed64 _ => .fixed64
  | .bytes _ => .bytes
  | .group _ => .groupStart
  | .fixed32 _ => .fixed32

/-- The content of a payload that is no group, after a tag of some form. -/
inductive ContentSpelling : Form → Bytes → Payload → Prop where
  | varint {spelled : Bytes} {n : UInt64} (h : WordSpelling spelled n) :
      ContentSpelling .varint spelled (.varint n)
  | fixed64 {content : Bytes} (h : content.length = 8) :
      ContentSpelling .fixed64 content (.fixed64 (UInt64.ofNat (bytesToNat content)))
  | bytes {spelled content : Bytes} (h : CountedSpelling spelled content) :
      ContentSpelling .bytes spelled (.bytes content)
  | fixed32 {content : Bytes} (h : content.length = 4) :
      ContentSpelling .fixed32 content (.fixed32 (UInt32.ofNat (bytesToNat content)))

theorem ContentSpelling.form_ne {form : Form} {content : Bytes} {payload : Payload}
    (h : ContentSpelling form content payload) : form ≠ .groupEnd := by
  cases h <;> nofun

theorem ContentSpelling.length_le {form : Form} {spelled content : Bytes}
    (h : ContentSpelling form spelled (.bytes content)) : content.length ≤ spelled.length := by
  cases h with
  | bytes h =>
      obtain ⟨_, _, _⟩ := h
      rw [List.length_append]
      omega

theorem readPayload_of_spelling {tag : Tag} {content : Bytes} {payload : Payload}
    (h : ContentSpelling tag.form content payload) (group : GroupReader) (rest : Bytes) :
    readPayload group tag (content ++ rest) = some (payload, rest) := by
  obtain ⟨number, form⟩ := tag
  cases h with
  | varint h => simp only [readPayload, reads_word.complete h, Option.map_some]
  | fixed64 h =>
      simp only [readPayload, (reads_bytes 8).complete ⟨rfl, h⟩, Option.map_some]
  | bytes h => simp only [readPayload, reads_counted.complete h, Option.map_some]
  | fixed32 h =>
      simp only [readPayload, (reads_bytes 4).complete ⟨rfl, h⟩, Option.map_some]

/-- A payload that is read is a content that was spelled, or what the reader of groups read. -/
theorem exists_of_readPayload {group : GroupReader} {tag : Tag} {bytes rest : Bytes}
    {payload : Payload} (h : readPayload group tag bytes = some (payload, rest)) :
    (∃ content, bytes = content ++ rest ∧ ContentSpelling tag.form content payload) ∨
      ∃ fields, tag.form = .groupStart ∧ payload = .group fields ∧
        group tag.number bytes = some (fields, rest) := by
  obtain ⟨number, form⟩ := tag
  cases form with
  | varint =>
      obtain ⟨n, spelled, rfl, rfl, hspells⟩ := reads_word.exists_of_map Payload.varint h
      exact .inl ⟨spelled, rfl, .varint hspells⟩
  | fixed64 =>
      obtain ⟨content, _, rfl, rfl, rfl, hlength⟩ := (reads_bytes 8).exists_of_map
        (fun content => Payload.fixed64 (UInt64.ofNat (bytesToNat content))) h
      exact .inl ⟨_, rfl, .fixed64 hlength⟩
  | bytes =>
      obtain ⟨content, spelled, rfl, rfl, hspells⟩ := reads_counted.exists_of_map Payload.bytes h
      exact .inl ⟨spelled, rfl, .bytes hspells⟩
  | groupStart =>
      obtain ⟨⟨fields, left⟩, hread, heq⟩ := Option.map_eq_some_iff.1 h
      cases heq
      exact .inr ⟨fields, rfl, rfl, hread⟩
  | groupEnd => contradiction
  | fixed32 =>
      obtain ⟨content, _, rfl, rfl, rfl, hlength⟩ := (reads_bytes 4).exists_of_map
        (fun content => Payload.fixed32 (UInt32.ofNat (bytesToNat content))) h
      exact .inl ⟨_, rfl, .fixed32 hlength⟩

/-! ## Sequences of records -/

/-- A record that is no group: a tag, and a content of the tag's form. -/
inductive FlatRecord : Bytes → Field → Prop where
  | mk {spelled content : Bytes} {tag : Tag} {payload : Payload} (htag : TagSpelling spelled tag)
      (hcontent : ContentSpelling tag.form content payload) :
      FlatRecord (spelled ++ content) (tag.number, payload)

/-- Well-formed records, one after the other; those of a group stand between two tags. -/
inductive Records : Bytes → List Field → Prop where
  | nil : Records [] []
  | flat {record rest : Bytes} {field : Field} {fields : List Field}
      (h : FlatRecord record field) (hrest : Records rest fields) :
      Records (record ++ rest) (field :: fields)
  | group {start content stop rest : Bytes} {number : Nat} {inner fields : List Field}
      (hstart : TagSpelling start ⟨number, .groupStart⟩) (hcontent : Records content inner)
      (hstop : TagSpelling stop ⟨number, .groupEnd⟩) (hrest : Records rest fields) :
      Records (start ++ (content ++ (stop ++ rest))) ((number, .group inner) :: fields)

theorem Records.append {first second : Bytes} {fields others : List Field}
    (hfirst : Records first fields) (hsecond : Records second others) :
    Records (first ++ second) (fields ++ others) := by
  induction hfirst with
  | nil => exact hsecond
  | flat h _ ih =>
      rw [List.append_assoc]
      exact .flat h ih
  | group hstart hcontent hstop _ _ ih =>
      simp only [List.append_assoc]
      exact .group hstart hcontent hstop ih

theorem FlatRecord.records {record : Bytes} {field : Field} (h : FlatRecord record field) :
    Records record [field] := by
  have hrecords := Records.flat h .nil
  rwa [List.append_nil] at hrecords

theorem FlatRecord.length_lt {record : Bytes} {number : Nat} {content : Bytes}
    (h : FlatRecord record (number, .bytes content)) : content.length < record.length := by
  obtain ⟨htag, hcontent⟩ := h
  have hpositive := htag.length_pos
  have hle := hcontent.length_le
  rw [List.length_append]
  omega

theorem Records.length_lt {data : Bytes} {fields : List Field} (h : Records data fields)
    {number : Nat} {content : Bytes} (hmem : (number, .bytes content) ∈ fields) :
    content.length < data.length := by
  induction h with
  | nil => contradiction
  | flat h _ ih =>
      rw [List.length_append]
      rcases List.mem_cons.1 hmem with heq | hrest
      · rw [← heq] at h
        have := h.length_lt
        omega
      · have := ih hrest
        omega
  | group _ _ _ _ _ ih =>
      rcases List.mem_cons.1 hmem with heq | hrest
      · cases heq
      · have := ih hrest
        simp only [List.length_append]
        omega

/-! ## Records are read -/

theorem readGroup_of_records {content : Bytes} {fields : List Field} (h : Records content fields)
    {number : Nat} {stop : Bytes} (hstop : TagSpelling stop ⟨number, .groupEnd⟩) {fuel : Nat}
    (hfuel : content.length + stop.length ≤ fuel) (rest : Bytes) :
    readGroup fuel number (content ++ (stop ++ rest)) = some (fields, rest) := by
  induction h generalizing number stop fuel rest with
  | nil =>
      have hpositive := hstop.length_pos
      obtain ⟨fuel, rfl⟩ : ∃ less, fuel = less + 1 := ⟨fuel - 1, by omega⟩
      rw [List.nil_append, readGroup, reads_tag.complete hstop]
      simp
  | flat h _ ih =>
      obtain ⟨htag, hcontent⟩ := h
      -- The bytes of the tag pay for the fuel that reading it uses up.
      have hpositive := htag.length_pos
      simp only [List.length_append] at hfuel
      obtain ⟨fuel, rfl⟩ : ∃ less, fuel = less + 1 := ⟨fuel - 1, by omega⟩
      have hothers := ih hstop (show _ ≤ fuel by omega) rest
      simp only [List.append_assoc]
      rw [readGroup, reads_tag.complete htag]
      simp only [if_neg hcontent.form_ne, readPayload_of_spelling hcontent, hothers,
        Option.map_some]
  | group hstart _ hend _ ihcontent ihrest =>
      have hpositive := hstart.length_pos
      simp only [List.length_append] at hfuel
      obtain ⟨fuel, rfl⟩ : ∃ less, fuel = less + 1 := ⟨fuel - 1, by omega⟩
      have hothers := ihrest hstop (show _ ≤ fuel by omega) rest
      have hinner := ihcontent hend (show _ ≤ fuel by omega)
      simp only [List.append_assoc]
      rw [readGroup, reads_tag.complete hstart]
      simp [readPayload, hinner, hothers]

theorem readField_of_flat {record : Bytes} {field : Field} (h : FlatRecord record field)
    (rest : Bytes) : readField (record ++ rest) = some (field, rest) := by
  obtain ⟨htag, hcontent⟩ := h
  rw [List.append_assoc, readField, reads_tag.complete htag]
  simp only [readPayload_of_spelling hcontent, Option.map_some]

theorem readField_of_group {start content stop : Bytes} {number : Nat} {inner : List Field}
    (hstart : TagSpelling start ⟨number, .groupStart⟩) (hcontent : Records content inner)
    (hstop : TagSpelling stop ⟨number, .groupEnd⟩) (rest : Bytes) :
    readField (start ++ (content ++ (stop ++ rest))) = some ((number, .group inner), rest) := by
  have hfuel : content.length + stop.length ≤ (content ++ (stop ++ rest)).length := by
    simp only [List.length_append]
    omega
  rw [readField, reads_tag.complete hstart]
  simp only [readPayload, readGroup_of_records hcontent hstop hfuel, Option.map_some]

theorem readFields_append {before : Bytes} {fields : List Field} (h : Records before fields)
    (after : Bytes) :
    readFields (before ++ after) =
      ⟨fields ++ (readFields after).fields, (readFields after).whole⟩ := by
  induction h with
  | nil => rfl
  | flat h _ ih =>
      rw [List.append_assoc, readFields_of_readField (readField_of_flat h _), ih]
      rfl
  | group hstart hcontent hstop _ _ ih =>
      simp only [List.append_assoc]
      rw [readFields_of_readField (readField_of_group hstart hcontent hstop _), ih]
      rfl

theorem flatRecord_writeField {number : Nat} (hpositive : 0 < number)
    (hsmall : number < numberBound) {content : Bytes} (hlength : content.length < lengthBound) :
    FlatRecord (writeField (number, .bytes content)) (number, .bytes content) := by
  have htag : readTag (writeTag ⟨number, .bytes⟩ ++ []) = some (⟨number, .bytes⟩, []) :=
    readTag_writeTag hpositive hsmall []
  have hcounted := readCounted_writeCounted hlength []
  rw [List.append_nil] at htag hcounted
  rw [writeField, writePayload]
  exact .mk (reads_tag.spells htag) (.bytes (reads_counted.spells hcounted))

/-! ## What is read are records -/

/-- The record of a field, if groups that are read are records up to the end of a group. -/
theorem record_of_readPayload {group : GroupReader}
    (hgroup : ∀ {number bytes fields rest}, group number bytes = some (fields, rest) →
      ∃ content stop, bytes = content ++ (stop ++ rest) ∧ Records content fields ∧
        TagSpelling stop ⟨number, .groupEnd⟩)
    {bytes left rest : Bytes} {tag : Tag} {payload : Payload}
    (htag : readTag bytes = some (tag, left))
    (hpayload : readPayload group tag left = some (payload, rest)) :
    ∃ record, bytes = record ++ rest ∧ Records record [(tag.number, payload)] := by
  obtain ⟨spelled, rfl, hspells⟩ := reads_tag.sound htag
  rcases exists_of_readPayload hpayload with
    ⟨content, rfl, hcontent⟩ | ⟨fields, hform, rfl, hread⟩
  · have hrecord := FlatRecord.mk hspells hcontent
    exact ⟨spelled ++ content, (List.append_assoc ..).symm, hrecord.records⟩
  · obtain ⟨number, form⟩ := tag
    obtain rfl : form = .groupStart := hform
    obtain ⟨content, stop, rfl, hcontent, hstop⟩ := hgroup hread
    refine ⟨spelled ++ (content ++ (stop ++ [])), by simp, ?_⟩
    exact .group hspells hcontent hstop .nil

theorem records_of_readGroup {fuel number : Nat} {bytes rest : Bytes} {fields : List Field}
    (h : readGroup fuel number bytes = some (fields, rest)) :
    ∃ content stop, bytes = content ++ (stop ++ rest) ∧ Records content fields ∧
      TagSpelling stop ⟨number, .groupEnd⟩ := by
  induction fuel generalizing number bytes rest fields with
  | zero => simp [readGroup] at h
  | succ fuel ih =>
      rw [readGroup] at h
      split at h
      · contradiction
      next tag left htag =>
        by_cases hend : tag.form = .groupEnd
        · rw [if_pos hend] at h
          split at h
          next hnumber =>
            cases h
            obtain ⟨stop, rfl, hstop⟩ := reads_tag.sound htag
            have heq : tag = ⟨number, .groupEnd⟩ := by
              rw [← hnumber, ← hend]
            rw [heq] at hstop
            exact ⟨[], stop, rfl, .nil, hstop⟩
          · contradiction
        · rw [if_neg hend] at h
          split at h
          · contradiction
          next payload after hpayload =>
            obtain ⟨⟨others, last⟩, hothers, heq⟩ := Option.map_eq_some_iff.1 h
            cases heq
            obtain ⟨record, rfl, hrecord⟩ := record_of_readPayload ih htag hpayload
            obtain ⟨content, stop, rfl, hcontent, hstop⟩ := ih hothers
            exact ⟨record ++ content, stop, (List.append_assoc ..).symm,
              hrecord.append hcontent, hstop⟩

theorem record_of_readField {bytes rest : Bytes} {field : Field}
    (h : readField bytes = some (field, rest)) :
    ∃ record, bytes = record ++ rest ∧ Records record [field] := by
  unfold readField at h
  split at h
  · contradiction
  next tag left htag =>
    obtain ⟨⟨payload, after⟩, hpayload, heq⟩ := Option.map_eq_some_iff.1 h
    cases heq
    exact record_of_readPayload records_of_readGroup htag hpayload

theorem records_of_readFieldsWith {fuel : Nat} {bytes : Bytes}
    (h : (readFieldsWith fuel bytes).whole = true) :
    Records bytes (readFieldsWith fuel bytes).fields := by
  induction fuel generalizing bytes with
  | zero =>
      cases bytes with
      | nil => exact .nil
      | cons byte tail => contradiction
  | succ fuel ih =>
      cases bytes with
      | nil => exact .nil
      | cons byte tail =>
          simp only [readFieldsWith] at h ⊢
          cases hread : readField (byte :: tail) with
          | none =>
              rw [hread] at h
              contradiction
          | some read =>
              obtain ⟨field, rest⟩ := read
              rw [hread] at h
              obtain ⟨record, hbytes, hrecord⟩ := record_of_readField hread
              rw [hbytes]
              exact hrecord.append (ih h)

/-- Bytes that are read to their end are records. -/
theorem records_of_readFields {bytes : Bytes} (h : (readFields bytes).whole = true) :
    Records bytes (readFields bytes).fields :=
  records_of_readFieldsWith h

end QueryBindings.Wire
