import QueryBindings.Proofs.Text.Utf8
import QueryBindings.Proofs.Wire.RoundTrip
import QueryBindings.Protocol.Binary

/-!
# Binary messages back and forth

A message that was written in binary form reads back.  Its fields are taken in
in the order in which they were written, each of them on top of a message that
has the fields before it and nothing else.
-/

namespace QueryBindings.Protocol

open Text (Bytes)
open Wire (Field IsWritable)

/-! ## Values of fields -/

theorem readInt32_writeInt32 (n : Int32) : readInt32 (writeInt32 n) = n := by
  have hback := congrArg Int32.toBitVec (Int32.toInt32_toInt64 n)
  rw [Int64.toBitVec_toInt32, BitVec.signExtend_eq_setWidth_of_le _ (by decide)] at hback
  exact Int32.toBitVec_inj.1 hback

theorem readText_encode (s : String) : readText (Text.encode s) = .ok s := by
  rw [readText, Text.decode_encode]
  rfl

/-! ## Taking in fields -/

section Absorb

variable {α β : Type} [Inhabited α] [Binary α] (message : α) (number : Nat)

theorem absorbAll_textField (set : String → α)
    (habsorb : ∀ content, Binary.absorb message (number, .bytes content) =
      (readText content).map set)
    (hempty : set "" = message) (s : String) :
    Binary.absorbAll message (textField number s) = .ok (set s) := by
  by_cases hs : s = ""
  · simp [textField, hs, Binary.absorbAll, hempty]
  · simp [textField, hs, Binary.absorbAll, habsorb, readText_encode, Except.map]

theorem absorbAll_bytesField (set : Bytes → α)
    (habsorb : ∀ content, Binary.absorb message (number, .bytes content) = .ok (set content))
    (hempty : set [] = message) (content : Bytes) :
    Binary.absorbAll message (bytesField number content) = .ok (set content) := by
  cases content with
  | nil => simp [bytesField, Binary.absorbAll, hempty]
  | cons byte rest => simp [bytesField, Binary.absorbAll, habsorb]

theorem absorbAll_boolField (set : Bool → α)
    (habsorb : ∀ n, Binary.absorb message (number, .varint n) = .ok (set (n != 0)))
    (hempty : set false = message) (b : Bool) :
    Binary.absorbAll message (boolField number b) = .ok (set b) := by
  cases b with
  | false => simp [boolField, Binary.absorbAll, hempty]
  | true => simp [boolField, Binary.absorbAll, habsorb]

theorem absorbAll_int32Field (set : Int32 → α)
    (habsorb : ∀ n, Binary.absorb message (number, .varint n) = .ok (set (readInt32 n)))
    (hempty : set 0 = message) (n : Int32) :
    Binary.absorbAll message (int32Field number n) = .ok (set n) := by
  by_cases hn : n = 0
  · simp [int32Field, hn, Binary.absorbAll, hempty]
  · simp [int32Field, hn, Binary.absorbAll, habsorb, readInt32_writeInt32]

theorem absorbAll_optionalField [Inhabited β] [Binary β] (set : Option β → α)
    (habsorb : ∀ content, Binary.absorb message (number, .bytes content) =
      (Binary.decode content).map fun inner => set (some inner))
    (hempty : set none = message) {value : Option β}
    (hvalue : ∀ inner, value = some inner →
      Binary.decode (Binary.encode inner) = .ok inner) :
    Binary.absorbAll message (optionalField number value) = .ok (set value) := by
  cases value with
  | none => simp [optionalField, Binary.absorbAll, hempty]
  | some inner =>
      simp [optionalField, messageField, Binary.absorbAll, habsorb, hvalue inner rfl, Except.map]

theorem absorbAll_items (set : List β → α) {read : Bytes → Except BinaryFault β}
    (write : β → Bytes)
    (habsorb : ∀ done content, Binary.absorb (set done) (number, .bytes content) =
      (read content).map fun item => set (done ++ [item]))
    {items : List β} (hitems : ∀ item ∈ items, read (write item) = .ok item)
    (done : List β) :
    Binary.absorbAll (set done) (items.map fun item => (number, .bytes (write item))) =
      .ok (set (done ++ items)) := by
  induction items generalizing done with
  | nil => simp [Binary.absorbAll]
  | cons item rest ih =>
      obtain ⟨hitem, hrest⟩ := List.forall_mem_cons.1 hitems
      simp only [List.map_cons, Binary.absorbAll, habsorb, hitem, Except.map]
      rw [ih hrest, List.append_assoc]
      rfl

theorem absorbAll_repeatedFields [Inhabited β] [Binary β] (set : List β → α)
    (habsorb : ∀ done content, Binary.absorb (set done) (number, .bytes content) =
      (Binary.decode content).map fun item => set (done ++ [item]))
    (hempty : set [] = message) {items : List β}
    (hitems : ∀ item ∈ items, Binary.decode (Binary.encode item) = .ok item) :
    Binary.absorbAll message (repeatedFields number items) = .ok (set items) := by
  rw [← hempty]
  exact absorbAll_items number set Binary.encode habsorb hitems []

theorem absorbAll_append_of_ok {message middle result : α} {first second : List Field}
    (hfirst : Binary.absorbAll message first = .ok middle)
    (hsecond : Binary.absorbAll middle second = .ok result) :
    Binary.absorbAll message (first ++ second) = .ok result := by
  rw [Binary.absorbAll_append, hfirst]
  exact hsecond

end Absorb

/-! ## Fields that can be written -/

theorem eq_of_mem_textField {number : Nat} {s : String} {field : Field}
    (h : field ∈ textField number s) : field = (number, .bytes (Text.encode s)) := by
  unfold textField at h
  split at h
  · contradiction
  · exact List.mem_singleton.1 h

theorem eq_of_mem_bytesField {number : Nat} {content : Bytes} {field : Field}
    (h : field ∈ bytesField number content) : field = (number, .bytes content) := by
  unfold bytesField at h
  split at h
  · contradiction
  · exact List.mem_singleton.1 h

/-- A field under a proper number that is no group. -/
structure IsSound (field : Field) : Prop where
  positive : 0 < field.1
  small : field.1 < Wire.numberBound
  noGroup : ∀ fields, field.2 ≠ .group fields

section Sound

variable {number : Nat} (hpositive : 0 < number) (hsmall : number < Wire.numberBound)
include hpositive hsmall

theorem isSound_bytes (content : Bytes) : IsSound (number, .bytes content) :=
  ⟨hpositive, hsmall, by simp⟩

theorem isSound_varint (n : UInt64) : IsSound (number, .varint n) :=
  ⟨hpositive, hsmall, by simp⟩

theorem isSound_textField (s : String) : ∀ field ∈ textField number s, IsSound field := by
  intro field hfield
  rw [eq_of_mem_textField hfield]
  exact isSound_bytes hpositive hsmall _

theorem isSound_bytesField (content : Bytes) :
    ∀ field ∈ bytesField number content, IsSound field := by
  intro field hfield
  rw [eq_of_mem_bytesField hfield]
  exact isSound_bytes hpositive hsmall _

theorem isSound_boolField (b : Bool) : ∀ field ∈ boolField number b, IsSound field := by
  intro field hfield
  unfold boolField at hfield
  split at hfield
  · rw [List.mem_singleton.1 hfield]
    exact isSound_varint hpositive hsmall _
  · contradiction

theorem isSound_int32Field (n : Int32) : ∀ field ∈ int32Field number n, IsSound field := by
  intro field hfield
  unfold int32Field at hfield
  split at hfield
  · contradiction
  · rw [List.mem_singleton.1 hfield]
    exact isSound_varint hpositive hsmall _

theorem isSound_items {β : Type} (write : β → Bytes) (items : List β) :
    ∀ field ∈ items.map (fun item => ((number, .bytes (write item)) : Field)),
      IsSound field := by
  intro field hfield
  obtain ⟨item, _, rfl⟩ := List.mem_map.1 hfield
  exact isSound_bytes hpositive hsmall _

theorem isSound_optionalField {β : Type} [Inhabited β] [Binary β] (value : Option β) :
    ∀ field ∈ optionalField number value, IsSound field := by
  intro field hfield
  obtain ⟨inner, _, rfl⟩ := Option.map_eq_some_iff.1 (Option.mem_toList.1 hfield)
  exact isSound_bytes hpositive hsmall _

end Sound

def sizeBound : Nat := 2 ^ 31

section Decode

variable {α β : Type} [Inhabited α] [Binary α] [Inhabited β] [Binary β] {message : α}

theorem length_lt_encode {number : Nat} {content : Bytes}
    (h : (number, .bytes content) ∈ Binary.toFields message) :
    content.length + 1 < (Binary.encode message).length := by
  have hcontent := Wire.length_lt_writeField number content
  have hfield := Wire.writeField_length_le h
  unfold Binary.encode
  omega

theorem decode_encode_of_isWritable
    (hwritable : ∀ field ∈ Binary.toFields message, IsWritable field)
    (habsorb : Binary.absorbAll default (Binary.toFields message) = .ok message) :
    Binary.decode (Binary.encode message) = .ok message := by
  have hread := Wire.readFields_writeFields hwritable
  simp [Binary.decode, Binary.absorbBytes, Binary.encode, hread, habsorb]

theorem decode_encode_of_absorbAll (hsize : (Binary.encode message).length < sizeBound)
    (hsound : ∀ field ∈ Binary.toFields message, IsSound field)
    (habsorb : Binary.absorbAll default (Binary.toFields message) = .ok message) :
    Binary.decode (Binary.encode message) = .ok message := by
  refine decode_encode_of_isWritable ?_ habsorb
  intro field hfield
  obtain ⟨hpositive, hsmall, hgroup⟩ := hsound field hfield
  obtain ⟨number, payload⟩ := field
  refine ⟨hpositive, hsmall, ?_⟩
  cases payload with
  | bytes content =>
      have hlength := length_lt_encode hfield
      unfold sizeBound at hsize
      show content.length < Wire.lengthBound
      unfold Wire.lengthBound
      omega
  | group fields => exact absurd rfl (hgroup fields)
  | varint n => trivial
  | fixed64 n => trivial
  | fixed32 n => trivial

end Decode

/-! ## The messages -/

theorem encode_length_lt_of_mem {α β : Type} [Inhabited α] [Binary α] [Inhabited β]
    [Binary β] {message : α} {inner : β} (number : Nat)
    (hsize : (Binary.encode message).length < sizeBound)
    (h : messageField number inner ∈ Binary.toFields message) :
    (Binary.encode inner).length < sizeBound := by
  have hlength := length_lt_encode h
  omega

theorem mem_repeatedFields {β : Type} [Inhabited β] [Binary β] {inner : β} {items : List β}
    (h : inner ∈ items) {number : Nat} :
    messageField number inner ∈ repeatedFields number items :=
  List.mem_map.2 ⟨inner, h, rfl⟩

theorem Identifier.decode_encode (message : Identifier)
    (hsize : (Binary.encode message).length < sizeBound) :
    Binary.decode (Binary.encode message) = .ok message := by
  obtain ⟨catalog, schema, name⟩ := message
  refine decode_encode_of_absorbAll hsize ?_ ?_
  · simp only [Binary.toFields, List.forall_mem_append]
    refine ⟨⟨?_, ?_⟩, ?_⟩ <;> exact isSound_textField (by decide) (by decide) _
  · have hcatalog := absorbAll_textField (default : Identifier) 1
      (fun s => ⟨s, "", ""⟩) (fun _ => rfl) rfl catalog
    have hschema := absorbAll_textField (⟨catalog, "", ""⟩ : Identifier) 2
      (fun s => ⟨catalog, s, ""⟩) (fun _ => rfl) rfl schema
    have hname := absorbAll_textField (⟨catalog, schema, ""⟩ : Identifier) 3
      (fun s => ⟨catalog, schema, s⟩) (fun _ => rfl) rfl name
    exact absorbAll_append_of_ok (absorbAll_append_of_ok hcatalog hschema) hname

theorem Column.decode_encode (message : Column)
    (hsize : (Binary.encode message).length < sizeBound) :
    Binary.decode (Binary.encode message) = .ok message := by
  have hinner : ∀ inner, message.type = some inner →
      Binary.decode (Binary.encode inner) = .ok inner := by
    intro inner hvalue
    refine Identifier.decode_encode inner (encode_length_lt_of_mem 12 hsize ?_)
    simp [Binary.toFields, optionalField, hvalue]
  obtain ⟨name, notNull, isArray, comment, type⟩ := message
  refine decode_encode_of_absorbAll hsize ?_ ?_
  · simp only [Binary.toFields, List.forall_mem_append]
    exact ⟨⟨⟨⟨isSound_textField (by decide) (by decide) _,
      isSound_boolField (by decide) (by decide) _⟩,
      isSound_boolField (by decide) (by decide) _⟩,
      isSound_textField (by decide) (by decide) _⟩,
      isSound_optionalField (by decide) (by decide) _⟩
  · have hname := absorbAll_textField (default : Column) 1
      (fun s => ⟨s, false, false, "", none⟩) (fun _ => rfl) rfl name
    have hnotNull := absorbAll_boolField
      (⟨name, false, false, "", none⟩ : Column) 3
      (fun b => ⟨name, b, false, "", none⟩) (fun _ => rfl) rfl notNull
    have hisArray := absorbAll_boolField
      (⟨name, notNull, false, "", none⟩ : Column) 4
      (fun b => ⟨name, notNull, b, "", none⟩) (fun _ => rfl) rfl isArray
    have hcomment := absorbAll_textField
      (⟨name, notNull, isArray, "", none⟩ : Column) 5
      (fun s => ⟨name, notNull, isArray, s, none⟩) (fun _ => rfl) rfl comment
    have htype := absorbAll_optionalField
      (⟨name, notNull, isArray, comment, none⟩ : Column) 12
      (fun type => ⟨name, notNull, isArray, comment, type⟩) (fun _ => rfl) rfl hinner
    exact absorbAll_append_of_ok (absorbAll_append_of_ok
      (absorbAll_append_of_ok (absorbAll_append_of_ok hname hnotNull) hisArray) hcomment) htype

theorem Parameter.decode_encode (message : Parameter)
    (hsize : (Binary.encode message).length < sizeBound) :
    Binary.decode (Binary.encode message) = .ok message := by
  have hinner : ∀ inner, message.column = some inner →
      Binary.decode (Binary.encode inner) = .ok inner := by
    intro inner hvalue
    refine Column.decode_encode inner (encode_length_lt_of_mem 2 hsize ?_)
    simp [Binary.toFields, optionalField, hvalue]
  obtain ⟨number, column⟩ := message
  refine decode_encode_of_absorbAll hsize ?_ ?_
  · simp only [Binary.toFields, List.forall_mem_append]
    exact ⟨isSound_int32Field (by decide) (by decide) _,
      isSound_optionalField (by decide) (by decide) _⟩
  · have hnumber := absorbAll_int32Field (default : Parameter) 1
      (fun n => ⟨n, none⟩) (fun _ => rfl) rfl number
    have hcolumn := absorbAll_optionalField (⟨number, none⟩ : Parameter) 2
      (fun column => ⟨number, column⟩) (fun _ => rfl) rfl hinner
    exact absorbAll_append_of_ok hnumber hcolumn

theorem Query.decode_encode (message : Query)
    (hsize : (Binary.encode message).length < sizeBound) :
    Binary.decode (Binary.encode message) = .ok message := by
  have hinnerColumns : ∀ inner ∈ message.columns,
      Binary.decode (Binary.encode inner) = .ok inner := by
    intro inner hmem
    refine Column.decode_encode inner (encode_length_lt_of_mem 4 hsize ?_)
    simp [Binary.toFields, mem_repeatedFields hmem]
  have hinnerParams : ∀ inner ∈ message.params,
      Binary.decode (Binary.encode inner) = .ok inner := by
    intro inner hmem
    refine Parameter.decode_encode inner (encode_length_lt_of_mem 5 hsize ?_)
    simp [Binary.toFields, mem_repeatedFields hmem]
  obtain ⟨text, name, cmd, columns, params, comments, filename⟩ := message
  refine decode_encode_of_absorbAll hsize ?_ ?_
  · simp only [Binary.toFields, List.forall_mem_append]
    exact ⟨⟨⟨⟨⟨⟨isSound_textField (by decide) (by decide) _,
      isSound_textField (by decide) (by decide) _⟩,
      isSound_textField (by decide) (by decide) _⟩,
      isSound_items (by decide) (by decide) Binary.encode _⟩,
      isSound_items (by decide) (by decide) Binary.encode _⟩,
      isSound_items (by decide) (by decide) Text.encode _⟩,
      isSound_textField (by decide) (by decide) _⟩
  · have htext := absorbAll_textField (default : Query) 1
      (fun s => ⟨s, "", "", [], [], [], ""⟩) (fun _ => rfl) rfl text
    have hname := absorbAll_textField
      (⟨text, "", "", [], [], [], ""⟩ : Query) 2
      (fun s => ⟨text, s, "", [], [], [], ""⟩) (fun _ => rfl) rfl name
    have hcmd := absorbAll_textField
      (⟨text, name, "", [], [], [], ""⟩ : Query) 3
      (fun s => ⟨text, name, s, [], [], [], ""⟩) (fun _ => rfl) rfl cmd
    have hcolumns := absorbAll_repeatedFields
      (⟨text, name, cmd, [], [], [], ""⟩ : Query) 4
      (fun items => ⟨text, name, cmd, items, [], [], ""⟩) (fun _ _ => rfl) rfl
      hinnerColumns
    have hparams := absorbAll_repeatedFields
      (⟨text, name, cmd, columns, [], [], ""⟩ : Query) 5
      (fun items => ⟨text, name, cmd, columns, items, [], ""⟩) (fun _ _ => rfl) rfl
      hinnerParams
    have hcomments := absorbAll_items 6
      (fun items => (⟨text, name, cmd, columns, params, items, ""⟩ : Query)) Text.encode
      (fun _ _ => rfl) (fun s (_ : s ∈ comments) => readText_encode s) []
    have hfilename := absorbAll_textField
      (⟨text, name, cmd, columns, params, comments, ""⟩ : Query) 7
      (fun s => ⟨text, name, cmd, columns, params, comments, s⟩) (fun _ => rfl) rfl
      filename
    exact absorbAll_append_of_ok (absorbAll_append_of_ok (absorbAll_append_of_ok
      (absorbAll_append_of_ok (absorbAll_append_of_ok (absorbAll_append_of_ok
      htext hname) hcmd) hcolumns) hparams) hcomments) hfilename

theorem Request.decode_encode (message : Request)
    (hsize : (Binary.encode message).length < sizeBound) :
    Binary.decode (Binary.encode message) = .ok message := by
  have hinner : ∀ inner ∈ message.queries,
      Binary.decode (Binary.encode inner) = .ok inner := by
    intro inner hmem
    refine Query.decode_encode inner (encode_length_lt_of_mem 3 hsize ?_)
    simp [Binary.toFields, mem_repeatedFields hmem]
  obtain ⟨queries, compilerVersion, pluginOptions, globalOptions⟩ := message
  refine decode_encode_of_absorbAll hsize ?_ ?_
  · simp only [Binary.toFields, List.forall_mem_append]
    exact ⟨⟨⟨isSound_items (by decide) (by decide) Binary.encode _,
      isSound_textField (by decide) (by decide) _⟩,
      isSound_bytesField (by decide) (by decide) _⟩,
      isSound_bytesField (by decide) (by decide) _⟩
  · have hqueries := absorbAll_repeatedFields (default : Request) 3
      (fun items => ⟨items, "", [], []⟩) (fun _ _ => rfl) rfl hinner
    have hversion := absorbAll_textField
      (⟨queries, "", [], []⟩ : Request) 4
      (fun s => ⟨queries, s, [], []⟩) (fun _ => rfl) rfl compilerVersion
    have hplugin := absorbAll_bytesField
      (⟨queries, compilerVersion, [], []⟩ : Request) 5
      (fun content => ⟨queries, compilerVersion, content, []⟩) (fun _ => rfl) rfl
      pluginOptions
    have hglobal := absorbAll_bytesField
      (⟨queries, compilerVersion, pluginOptions, []⟩ : Request) 6
      (fun content => ⟨queries, compilerVersion, pluginOptions, content⟩)
      (fun _ => rfl) rfl globalOptions
    exact absorbAll_append_of_ok (absorbAll_append_of_ok
      (absorbAll_append_of_ok hqueries hversion) hplugin) hglobal

theorem File.decode_encode (message : File)
    (hsize : (Binary.encode message).length < sizeBound) :
    Binary.decode (Binary.encode message) = .ok message := by
  obtain ⟨name, contents⟩ := message
  refine decode_encode_of_absorbAll hsize ?_ ?_
  · simp only [Binary.toFields, List.forall_mem_append]
    exact ⟨isSound_textField (by decide) (by decide) _,
      isSound_bytesField (by decide) (by decide) _⟩
  · have hname := absorbAll_textField (default : File) 1
      (fun s => ⟨s, []⟩) (fun _ => rfl) rfl name
    have hcontents := absorbAll_bytesField (⟨name, []⟩ : File) 2
      (fun content => ⟨name, content⟩) (fun _ => rfl) rfl contents
    exact absorbAll_append_of_ok hname hcontents

/--
A response that was written in binary form reads back, however many files it has, if
each of them alone is within what a length may say.
-/
theorem Response.decode_encode (message : Response)
    (hsize : ∀ file ∈ message.files, (Binary.encode file).length < Wire.lengthBound) :
    Binary.decode (Binary.encode message) = .ok message := by
  have hinner : ∀ inner ∈ message.files,
      Binary.decode (Binary.encode inner) = .ok inner := by
    intro inner hmem
    exact File.decode_encode inner (Nat.lt_trans (hsize inner hmem) (by decide))
  obtain ⟨files⟩ := message
  refine decode_encode_of_isWritable ?_ ?_
  · intro field hfield
    obtain ⟨file, hfile, rfl⟩ := List.mem_map.1 hfield
    exact ⟨show 0 < 1 by decide, show 1 < Wire.numberBound by decide, hsize file hfile⟩
  · exact absorbAll_repeatedFields (default : Response) 1
      (fun items => ⟨items⟩) (fun _ _ => rfl) rfl hinner

end QueryBindings.Protocol
