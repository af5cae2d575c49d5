import QueryBindings.Proofs.Json.Printed
import QueryBindings.Proofs.Text.Base64
import QueryBindings.Protocol.Mapping

/-!
# JSON messages back and forth

A message that was written as a JSON value is read back from it, and the value
has a spelling.  The members of the value are taken in in the order in which they
were written, as the fields of binary messages are.
-/

namespace QueryBindings.Protocol

open Json (JsonString Value Members Printable)

/-! ## Keys -/

theorem meaning_keyOf (type : MessageType) {spec : FieldSpec} (h : spec ∈ type.fields) :
    type.meaning (JsonString.ofString (type.keyOf spec.number)) = .field spec.number := by
  cases type <;> revert spec <;> decide +kernel

theorem nodup_keys (type : MessageType) :
    (type.fields.map fun spec => JsonString.ofString (type.keyOf spec.number)).Nodup := by
  cases type <;> decide +kernel

/-! ## Taking in members -/

section Absorb

variable {α β : Type} [Inhabited α] [Mapped α]

def absorbAll (message : α) : List (Nat × Value) → Option α
  | [] => some message
  | (number, value) :: rest =>
      match Mapped.absorb message number value with
      | none => none
      | some message => absorbAll message rest

theorem absorbAll_append (message : α) (first second : List (Nat × Value)) :
    absorbAll message (first ++ second) =
      (absorbAll message first).bind fun message => absorbAll message second := by
  induction first generalizing message with
  | nil => rfl
  | cons field rest ih =>
      obtain ⟨number, value⟩ := field
      simp only [List.cons_append, absorbAll]
      cases Mapped.absorb message number value with
      | none => rfl
      | some message => exact ih message

theorem absorbAll_append_of_some {message middle result : α} {first second : List (Nat × Value)}
    (hfirst : absorbAll message first = some middle)
    (hsecond : absorbAll middle second = some result) :
    absorbAll message (first ++ second) = some result := by
  rw [absorbAll_append, hfirst]
  exact hsecond

def keyed (type : MessageType) (field : Nat × Value) : JsonString × Value :=
  (JsonString.ofString (type.keyOf field.1), field.2)

theorem absorbMembers_keyed {message : α} {values : List (Nat × Value)}
    (hvalues : ∀ field ∈ values, ∃ spec ∈ (Mapped.type α).fields, spec.number = field.1) :
    Mapped.absorbMembers message (values.map (keyed (Mapped.type α))) =
      absorbAll message values := by
  induction values generalizing message with
  | nil => rfl
  | cons field rest ih =>
      obtain ⟨⟨spec, hspec, hnumber⟩, hrest⟩ := List.forall_mem_cons.1 hvalues
      have hmeaning := meaning_keyOf (Mapped.type α) hspec
      rw [hnumber] at hmeaning
      simp only [List.map_cons, Mapped.absorbMembers, Mapped.absorbMember, keyed, absorbAll,
        hmeaning]
      cases Mapped.absorb message field.1 field.2 with
      | none => rfl
      | some message => exact ih hrest

theorem text?_ofString (s : String) : text? (.text (JsonString.ofString s)) = some s :=
  JsonString.toString?_ofString s

theorem bytes?_encode (content : Text.Bytes) :
    bytes? (.text ((Base64.encode content).map .scalar)) = some content := by
  simp [bytes?, text?, JsonString.toString?, JsonString.toChars?_map_scalar,
    Base64.decode_encode]

theorem int32?_toInt (n : Int32) : int32? (.int n.toInt) = some n := by
  have hlow := n.le_toInt
  have hhigh := n.toInt_lt
  simp only [int32?, Value.integer?]
  rw [if_pos ⟨by omega, by omega⟩, Int32.ofInt_toInt]

theorem absorbAll_textValue (message : α) (number : Nat) (set : String → α)
    (habsorb : ∀ value, Mapped.absorb message number value = (orEmpty text? value).map set)
    (hempty : set "" = message) (s : String) :
    absorbAll message (textValue number s) = some (set s) := by
  by_cases hs : s = ""
  · simp [textValue, hs, absorbAll, hempty]
  · simp [textValue, hs, absorbAll, habsorb, orEmpty, text?_ofString]

theorem absorbAll_bytesValue (message : α) (number : Nat) (set : Text.Bytes → α)
    (habsorb : ∀ value, Mapped.absorb message number value = (orEmpty bytes? value).map set)
    (hempty : set [] = message) (content : Text.Bytes) :
    absorbAll message (bytesValue number content) = some (set content) := by
  cases content with
  | nil => simp [bytesValue, absorbAll, hempty]
  | cons byte rest => simp [bytesValue, absorbAll, habsorb, orEmpty, bytes?_encode]

theorem absorbAll_boolValue (message : α) (number : Nat) (set : Bool → α)
    (habsorb : ∀ value, Mapped.absorb message number value = (orEmpty bool? value).map set)
    (hempty : set false = message) (b : Bool) :
    absorbAll message (boolValue number b) = some (set b) := by
  cases b with
  | false => simp [boolValue, absorbAll, hempty]
  | true => simp [boolValue, absorbAll, habsorb, orEmpty, bool?]

theorem absorbAll_int32Value (message : α) (number : Nat) (set : Int32 → α)
    (habsorb : ∀ value, Mapped.absorb message number value = (orEmpty int32? value).map set)
    (hempty : set 0 = message) (n : Int32) :
    absorbAll message (int32Value number n) = some (set n) := by
  by_cases hn : n = 0
  · simp [int32Value, hn, absorbAll, hempty]
  · simp [int32Value, hn, absorbAll, habsorb, orEmpty, int32?_toInt]

theorem absorbAll_optionalValue [Inhabited β] [Mapped β] (message : α) (number : Nat)
    (set : Option β → α)
    (habsorb : ∀ value, Mapped.absorb message number value = (message? none value).map set)
    (hempty : set none = message) {value : Option β}
    (hvalue : ∀ inner, value = some inner → Mapped.ofValue (Mapped.toValue inner) = some inner) :
    absorbAll message (optionalValue number value) = some (set value) := by
  cases value with
  | none => simp [optionalValue, absorbAll, hempty]
  | some inner =>
      have hmessage : message? none (Mapped.toValue inner) = some (some inner) := by
        have hinner := hvalue inner rfl
        unfold Mapped.ofValue at hinner
        unfold Mapped.toValue at hinner ⊢
        simp [message?, hinner]
      simp [optionalValue, absorbAll, habsorb, hmessage]

theorem readAll_map {read : Value → Option β} {write : β → Value} {items : List β}
    (hitems : ∀ item ∈ items, read (write item) = some item) :
    readAll read (items.map write) = some items := by
  induction items with
  | nil => rfl
  | cons item rest ih =>
      obtain ⟨hitem, hrest⟩ := List.forall_mem_cons.1 hitems
      simp [readAll, hitem, ih hrest]

theorem absorbAll_repeatedValue (message : α) (number : Nat) (set : List β → α)
    {read : Value → Option β} {write : β → Value}
    (habsorb : ∀ value,
      Mapped.absorb message number value = (orEmpty (items? read) value).map set)
    (hempty : set [] = message) {items : List β}
    (hitems : ∀ item ∈ items, read (write item) = some item) :
    absorbAll message (repeatedValue number (items.map write)) = some (set items) := by
  have hread := readAll_map hitems
  cases items with
  | nil => simp [repeatedValue, absorbAll, hempty]
  | cons item rest =>
      rw [List.map_cons] at hread ⊢
      simp [repeatedValue, absorbAll, habsorb, orEmpty, items?, hread]

end Absorb

/-! ## Values that can be written -/

/-- Values of some of these fields, in order and each of them once. -/
structure AreValuesOf (levels : Nat) (numbers : List Nat) (values : List (Nat × Value)) :
    Prop where
  numbers : (values.map Prod.fst).Sublist numbers
  printable : ∀ field ∈ values, Printable levels field.2

variable {levels : Nat}

theorem AreValuesOf.append {numbers others : List Nat} {first second : List (Nat × Value)}
    (hfirst : AreValuesOf levels numbers first) (hsecond : AreValuesOf levels others second) :
    AreValuesOf levels (numbers ++ others) (first ++ second) := by
  constructor
  · rw [List.map_append]
    exact hfirst.numbers.append hsecond.numbers
  · exact List.forall_mem_append.2 ⟨hfirst.printable, hsecond.printable⟩

section Printable

variable {number : Nat}

theorem areValuesOf_nil : AreValuesOf levels [number] [] :=
  ⟨List.nil_sublist _, by simp⟩

theorem areValuesOf_singleton {value : Value} (h : Printable levels value) :
    AreValuesOf levels [number] [(number, value)] :=
  ⟨List.Sublist.refl _, by simpa using h⟩

theorem areValuesOf_textValue (s : String) :
    AreValuesOf levels [number] (textValue number s) := by
  unfold textValue
  split
  · exact areValuesOf_nil
  · exact areValuesOf_singleton (.text s.toList)

theorem areValuesOf_bytesValue (content : Text.Bytes) :
    AreValuesOf levels [number] (bytesValue number content) := by
  unfold bytesValue
  split
  · exact areValuesOf_nil
  · exact areValuesOf_singleton (.text (Base64.encode content))

theorem areValuesOf_boolValue (b : Bool) :
    AreValuesOf levels [number] (boolValue number b) := by
  unfold boolValue
  split
  · exact areValuesOf_singleton (.bool true)
  · exact areValuesOf_nil

theorem isShort_toInt (n : Int32) : Json.IsShort n.toInt := by
  have hlow := n.le_toInt
  have hhigh := n.toInt_lt
  have hten : (10 : Nat) ^ 10 ≤ 10 ^ Json.mostIntegerDigits :=
    Nat.pow_le_pow_right (by decide) (by decide)
  have habs : n.toInt.natAbs < 10 ^ 10 := by omega
  exact Nat.lt_of_lt_of_le habs hten

theorem areValuesOf_int32Value (n : Int32) :
    AreValuesOf levels [number] (int32Value number n) := by
  unfold int32Value
  split
  · exact areValuesOf_nil
  · exact areValuesOf_singleton (.int (isShort_toInt n))

theorem areValuesOf_optionalValue {β : Type} [Inhabited β] [Mapped β] {value : Option β}
    (h : ∀ inner, value = some inner → Printable levels (Mapped.toValue inner)) :
    AreValuesOf levels [number] (optionalValue number value) := by
  cases value with
  | none => exact areValuesOf_nil
  | some inner => exact areValuesOf_singleton (h inner rfl)

theorem areValuesOf_repeatedValue {β : Type} {write : β → Value} {items : List β}
    (h : ∀ item ∈ items, Printable levels (write item)) :
    AreValuesOf (levels + 1) [number] (repeatedValue number (items.map write)) := by
  unfold repeatedValue
  split
  · exact areValuesOf_nil
  · refine areValuesOf_singleton (.array ?_)
    intro value hvalue
    obtain ⟨item, hitem, rfl⟩ := List.mem_map.1 hvalue
    exact h item hitem

end Printable

theorem repeated?_eq_none {members : Members} (h : (members.map Prod.fst).Nodup)
    {seen : List JsonString} (hnew : ∀ key ∈ members.map Prod.fst, key ∉ seen) :
    Members.repeated? seen members = none := by
  induction members generalizing seen with
  | nil => rfl
  | cons member rest ih =>
      rw [List.map_cons] at h hnew
      obtain ⟨hmember, hrest⟩ := List.nodup_cons.1 h
      obtain ⟨hfirst, hothers⟩ := List.forall_mem_cons.1 hnew
      have hseen : seen.contains member.1 = false := by
        simpa using hfirst
      simp only [Members.repeated?, hseen, Bool.false_eq_true, if_false]
      refine ih hrest fun key hkey hin => ?_
      rcases List.mem_cons.1 hin with rfl | hold
      · exact hmember hkey
      · exact hothers key hkey hold

section Written

variable {α : Type} [Inhabited α] [Mapped α] {message : α}

theorem printable_toValue
    (hvalues : AreValuesOf levels ((Mapped.type α).fields.map FieldSpec.number)
      (Mapped.toValues message)) :
    Printable (levels + 1) (Mapped.toValue message) := by
  refine .object ?_ ?_ ?_
  · intro member hmember
    obtain ⟨field, _, rfl⟩ := List.mem_map.1 hmember
    exact ⟨((Mapped.type α).keyOf field.1).toList, rfl⟩
  · refine repeated?_eq_none ?_ (by simp)
    have hkeys := hvalues.numbers.map fun number =>
      JsonString.ofString ((Mapped.type α).keyOf number)
    have hnodup := nodup_keys (Mapped.type α)
    rw [List.map_map] at hkeys ⊢
    rw [List.map_map] at hkeys
    exact hkeys.nodup hnodup
  · intro member hmember
    obtain ⟨field, hfield, rfl⟩ := List.mem_map.1 hmember
    exact hvalues.printable field hfield

theorem ofValue_toValue_of_absorbAll
    (hvalues : AreValuesOf levels ((Mapped.type α).fields.map FieldSpec.number)
      (Mapped.toValues message))
    (habsorb : absorbAll default (Mapped.toValues message) = some message) :
    Mapped.ofValue (Mapped.toValue message) = some message := by
  have hdeclared : ∀ field ∈ Mapped.toValues message,
      ∃ spec ∈ (Mapped.type α).fields, spec.number = field.1 := by
    intro field hfield
    have hnumber := hvalues.numbers.subset (List.mem_map_of_mem hfield)
    exact List.mem_map.1 hnumber
  exact (absorbMembers_keyed hdeclared).trans habsorb

end Written

/-! ## The messages -/

theorem Identifier.areValuesOf (message : Identifier) (levels : Nat) :
    AreValuesOf levels (MessageType.identifier.fields.map FieldSpec.number)
      (Mapped.toValues message) :=
  ((areValuesOf_textValue message.catalog).append (areValuesOf_textValue message.schema)).append
    (areValuesOf_textValue message.name)

theorem Identifier.ofValue_toValue (message : Identifier) :
    Mapped.ofValue (Mapped.toValue message) = some message := by
  refine ofValue_toValue_of_absorbAll (message.areValuesOf 0) ?_
  obtain ⟨catalog, schema, name⟩ := message
  have hcatalog := absorbAll_textValue (default : Identifier) 1
    (fun s => ⟨s, "", ""⟩) (fun _ => rfl) rfl catalog
  have hschema := absorbAll_textValue (⟨catalog, "", ""⟩ : Identifier) 2
    (fun s => ⟨catalog, s, ""⟩) (fun _ => rfl) rfl schema
  have hname := absorbAll_textValue (⟨catalog, schema, ""⟩ : Identifier) 3
    (fun s => ⟨catalog, schema, s⟩) (fun _ => rfl) rfl name
  exact absorbAll_append_of_some (absorbAll_append_of_some hcatalog hschema) hname

theorem Column.areValuesOf (message : Column) (levels : Nat) :
    AreValuesOf (levels + 1) (MessageType.column.fields.map FieldSpec.number)
      (Mapped.toValues message) :=
  ((((areValuesOf_textValue message.name).append (areValuesOf_boolValue message.notNull)).append
    (areValuesOf_boolValue message.isArray)).append
    (areValuesOf_textValue message.comment)).append
    (areValuesOf_optionalValue fun inner _ => printable_toValue (inner.areValuesOf _))

theorem Column.ofValue_toValue (message : Column) :
    Mapped.ofValue (Mapped.toValue message) = some message := by
  refine ofValue_toValue_of_absorbAll (message.areValuesOf 0) ?_
  obtain ⟨name, notNull, isArray, comment, type⟩ := message
  have hname := absorbAll_textValue (default : Column) 1
    (fun s => ⟨s, false, false, "", none⟩) (fun _ => rfl) rfl name
  have hnotNull := absorbAll_boolValue
    (⟨name, false, false, "", none⟩ : Column) 3
    (fun b => ⟨name, b, false, "", none⟩) (fun _ => rfl) rfl notNull
  have hisArray := absorbAll_boolValue
    (⟨name, notNull, false, "", none⟩ : Column) 4
    (fun b => ⟨name, notNull, b, "", none⟩) (fun _ => rfl) rfl isArray
  have hcomment := absorbAll_textValue
    (⟨name, notNull, isArray, "", none⟩ : Column) 5
    (fun s => ⟨name, notNull, isArray, s, none⟩) (fun _ => rfl) rfl comment
  have htype := absorbAll_optionalValue
    (⟨name, notNull, isArray, comment, none⟩ : Column) 12
    (fun type => ⟨name, notNull, isArray, comment, type⟩) (fun _ => rfl) rfl
    (fun inner (_ : type = some inner) => inner.ofValue_toValue)
  exact absorbAll_append_of_some (absorbAll_append_of_some (absorbAll_append_of_some
    (absorbAll_append_of_some hname hnotNull) hisArray) hcomment) htype

theorem Parameter.areValuesOf (message : Parameter) (levels : Nat) :
    AreValuesOf (levels + 2) (MessageType.parameter.fields.map FieldSpec.number)
      (Mapped.toValues message) :=
  (areValuesOf_int32Value message.number).append
    (areValuesOf_optionalValue fun inner _ => printable_toValue (inner.areValuesOf _))

theorem Parameter.ofValue_toValue (message : Parameter) :
    Mapped.ofValue (Mapped.toValue message) = some message := by
  refine ofValue_toValue_of_absorbAll (message.areValuesOf 0) ?_
  obtain ⟨number, column⟩ := message
  have hnumber := absorbAll_int32Value (default : Parameter) 1
    (fun n => ⟨n, none⟩) (fun _ => rfl) rfl number
  have hcolumn := absorbAll_optionalValue (⟨number, none⟩ : Parameter) 2
    (fun column => ⟨number, column⟩) (fun _ => rfl) rfl
    (fun inner (_ : column = some inner) => inner.ofValue_toValue)
  exact absorbAll_append_of_some hnumber hcolumn

theorem Query.areValuesOf (message : Query) (levels : Nat) :
    AreValuesOf (levels + 4) (MessageType.query.fields.map FieldSpec.number)
      (Mapped.toValues message) :=
  ((((((areValuesOf_textValue message.text).append (areValuesOf_textValue message.name)).append
    (areValuesOf_textValue message.cmd)).append
    (areValuesOf_repeatedValue fun item _ => printable_toValue (item.areValuesOf _))).append
    (areValuesOf_repeatedValue fun item _ => printable_toValue (item.areValuesOf _))).append
    (areValuesOf_repeatedValue fun s _ => .text s.toList)).append
    (areValuesOf_textValue message.filename)

theorem Query.ofValue_toValue (message : Query) :
    Mapped.ofValue (Mapped.toValue message) = some message := by
  refine ofValue_toValue_of_absorbAll (message.areValuesOf 0) ?_
  obtain ⟨text, name, cmd, columns, params, comments, filename⟩ := message
  have htext := absorbAll_textValue (default : Query) 1
    (fun s => ⟨s, "", "", [], [], [], ""⟩) (fun _ => rfl) rfl text
  have hname := absorbAll_textValue
    (⟨text, "", "", [], [], [], ""⟩ : Query) 2
    (fun s => ⟨text, s, "", [], [], [], ""⟩) (fun _ => rfl) rfl name
  have hcmd := absorbAll_textValue
    (⟨text, name, "", [], [], [], ""⟩ : Query) 3
    (fun s => ⟨text, name, s, [], [], [], ""⟩) (fun _ => rfl) rfl cmd
  have hcolumns := absorbAll_repeatedValue
    (⟨text, name, cmd, [], [], [], ""⟩ : Query) 4
    (fun items => ⟨text, name, cmd, items, [], [], ""⟩) (fun _ => rfl) rfl
    (fun item (_ : item ∈ columns) => item.ofValue_toValue)
  have hparams := absorbAll_repeatedValue
    (⟨text, name, cmd, columns, [], [], ""⟩ : Query) 5
    (fun items => ⟨text, name, cmd, columns, items, [], ""⟩) (fun _ => rfl) rfl
    (fun item (_ : item ∈ params) => item.ofValue_toValue)
  have hcomments := absorbAll_repeatedValue
    (⟨text, name, cmd, columns, params, [], ""⟩ : Query) 6
    (fun items => ⟨text, name, cmd, columns, params, items, ""⟩) (fun _ => rfl) rfl
    (fun s (_ : s ∈ comments) => text?_ofString s)
  have hfilename := absorbAll_textValue
    (⟨text, name, cmd, columns, params, comments, ""⟩ : Query) 7
    (fun s => ⟨text, name, cmd, columns, params, comments, s⟩) (fun _ => rfl) rfl
    filename
  exact absorbAll_append_of_some (absorbAll_append_of_some (absorbAll_append_of_some
    (absorbAll_append_of_some (absorbAll_append_of_some (absorbAll_append_of_some
    htext hname) hcmd) hcolumns) hparams) hcomments) hfilename

theorem Request.areValuesOf (message : Request) (levels : Nat) :
    AreValuesOf (levels + 6) (MessageType.request.fields.map FieldSpec.number)
      (Mapped.toValues message) :=
  (((areValuesOf_repeatedValue fun item _ => printable_toValue (item.areValuesOf _)).append
    (areValuesOf_textValue message.compilerVersion)).append
    (areValuesOf_bytesValue message.pluginOptions)).append
    (areValuesOf_bytesValue message.globalOptions)

theorem Request.ofValue_toValue (message : Request) :
    Mapped.ofValue (Mapped.toValue message) = some message := by
  refine ofValue_toValue_of_absorbAll (message.areValuesOf 0) ?_
  obtain ⟨queries, compilerVersion, pluginOptions, globalOptions⟩ := message
  have hqueries := absorbAll_repeatedValue (default : Request) 3
    (fun items => ⟨items, "", [], []⟩) (fun _ => rfl) rfl
    (fun item (_ : item ∈ queries) => item.ofValue_toValue)
  have hversion := absorbAll_textValue
    (⟨queries, "", [], []⟩ : Request) 4
    (fun s => ⟨queries, s, [], []⟩) (fun _ => rfl) rfl compilerVersion
  have hplugin := absorbAll_bytesValue
    (⟨queries, compilerVersion, [], []⟩ : Request) 5
    (fun content => ⟨queries, compilerVersion, content, []⟩) (fun _ => rfl) rfl
    pluginOptions
  have hglobal := absorbAll_bytesValue
    (⟨queries, compilerVersion, pluginOptions, []⟩ : Request) 6
    (fun content => ⟨queries, compilerVersion, pluginOptions, content⟩)
    (fun _ => rfl) rfl globalOptions
  exact absorbAll_append_of_some (absorbAll_append_of_some
    (absorbAll_append_of_some hqueries hversion) hplugin) hglobal

theorem File.areValuesOf (message : File) (levels : Nat) :
    AreValuesOf levels (MessageType.file.fields.map FieldSpec.number)
      (Mapped.toValues message) :=
  (areValuesOf_textValue message.name).append (areValuesOf_bytesValue message.contents)

theorem File.ofValue_toValue (message : File) :
    Mapped.ofValue (Mapped.toValue message) = some message := by
  refine ofValue_toValue_of_absorbAll (message.areValuesOf 0) ?_
  obtain ⟨name, contents⟩ := message
  have hname := absorbAll_textValue (default : File) 1
    (fun s => ⟨s, []⟩) (fun _ => rfl) rfl name
  have hcontents := absorbAll_bytesValue (⟨name, []⟩ : File) 2
    (fun content => ⟨name, content⟩) (fun _ => rfl) rfl contents
  exact absorbAll_append_of_some hname hcontents

theorem Response.areValuesOf (message : Response) (levels : Nat) :
    AreValuesOf (levels + 2) (MessageType.response.fields.map FieldSpec.number)
      (Mapped.toValues message) :=
  areValuesOf_repeatedValue fun item _ => printable_toValue (item.areValuesOf _)

theorem Response.ofValue_toValue (message : Response) :
    Mapped.ofValue (Mapped.toValue message) = some message := by
  refine ofValue_toValue_of_absorbAll (message.areValuesOf 0) ?_
  obtain ⟨files⟩ := message
  exact absorbAll_repeatedValue (default : Response) 1
    (fun items => ⟨items⟩) (fun _ => rfl) rfl
    (fun item (_ : item ∈ files) => item.ofValue_toValue)

end QueryBindings.Protocol
