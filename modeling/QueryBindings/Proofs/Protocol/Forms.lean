import Mathlib.Data.List.Forall2
import Mathlib.Data.List.Nodup
import QueryBindings.Proofs.Json.Integer
import QueryBindings.Proofs.Text.Base64
import QueryBindings.Protocol.Mapping

/-!
# Forms of messages

The JSON values that stand for a message.  Fields come in any order, each under its JSON name
or its own but not under both, and an empty field may be left out or be null; other keys may
come with any values.  A message is read from every one of its forms: taking in a field
settles this field and no other, so the order does not matter.
-/

namespace QueryBindings.Protocol

open Json (JsonString Value Members IntegerSpelling)
open Text (Bytes)

/-! ## Forms of fields -/

inductive TextForm : String → Value → Prop where
  | text (s : String) : TextForm s (.text (JsonString.ofString s))

inductive BoolForm : Bool → Value → Prop where
  | mk (b : Bool) : BoolForm b (.bool b)

inductive IntegerForm (n : Int32) : Value → Prop where
  | number : IntegerForm n (.int n.toInt)
  | text {digits : List Char} (h : IntegerSpelling n.toInt digits) :
      IntegerForm n (.text (digits.map .scalar))

inductive BytesForm (content : Bytes) : Value → Prop where
  | mk {text : List Char} (h : Base64.Spelling content text) :
      BytesForm content (.text (text.map .scalar))

inductive ItemsForm {α : Type} (form : α → Value → Prop) : List α → Value → Prop where
  | mk {items : List α} {values : List Value} (h : List.Forall₂ form items values) :
      ItemsForm form items (.array values)

/-- A form of a content, where null stands for the empty one. -/
inductive OrNull {α : Type} [Inhabited α] (form : α → Value → Prop) : α → Value → Prop where
  | value {content : α} {value : Value} (h : form content value) : OrNull form content value
  | null : OrNull form default .null

inductive Optional {α : Type} (form : α → Value → Prop) : Option α → Value → Prop where
  | present {inner : α} {value : Value} (h : form inner value) : Optional form (some inner) value
  | absent : Optional form none .null

/-! ## Forms of messages -/

def FieldSpec.Names (spec : FieldSpec) (key : JsonString) : Prop :=
  key = JsonString.ofString spec.jsonName ∨ key = JsonString.ofString spec.name

instance (spec : FieldSpec) (key : JsonString) : Decidable (spec.Names key) :=
  inferInstanceAs (Decidable (_ ∨ _))

/-- The forms that the fields of a message may have; for an empty field null is one. -/
class Formed (α : Type) [Inhabited α] [Mapped α] where
  FieldForm : α → Nat → Value → Prop

open Formed (FieldForm)

section Forms

variable {α : Type} [Inhabited α] [Mapped α] [Formed α]

structure MemberForm (message : α) (member : JsonString × Value) : Prop where
  named : ∀ spec ∈ (Mapped.type α).fields, spec.Names member.1 →
    FieldForm message spec.number member.2
  /-- Any other key may have any value, unless it is a name in brackets. -/
  unnamed : (∀ spec ∈ (Mapped.type α).fields, ¬ spec.Names member.1) →
    ∀ chars, member.1.toChars? = some chars → isBracketed chars = false

structure ObjectForm (message : α) (members : Members) : Prop where
  each : ∀ member ∈ members, MemberForm message member
  /-- No field has a value under both of its names. -/
  once : members.Pairwise fun first second =>
    ∀ spec ∈ (Mapped.type α).fields, spec.Names first.1 → ¬ spec.Names second.1
  leftOut : ∀ spec ∈ (Mapped.type α).fields, (∀ member ∈ members, ¬ spec.Names member.1) →
    FieldForm message spec.number .null

inductive Form (message : α) : Value → Prop where
  | object {members : Members} (h : ObjectForm message members) : Form message (.object members)

end Forms

instance : Formed Identifier where
  FieldForm message number value :=
    match number with
    | 1 => OrNull TextForm message.catalog value
    | 2 => OrNull TextForm message.schema value
    | 3 => OrNull TextForm message.name value
    | _ => False

instance : Formed Column where
  FieldForm message number value :=
    match number with
    | 1 => OrNull TextForm message.name value
    | 3 => OrNull BoolForm message.notNull value
    | 4 => OrNull BoolForm message.isArray value
    | 5 => OrNull TextForm message.comment value
    | 12 => Optional Form message.type value
    | _ => False

instance : Formed Parameter where
  FieldForm message number value :=
    match number with
    | 1 => OrNull IntegerForm message.number value
    | 2 => Optional Form message.column value
    | _ => False

instance : Formed Query where
  FieldForm message number value :=
    match number with
    | 1 => OrNull TextForm message.text value
    | 2 => OrNull TextForm message.name value
    | 3 => OrNull TextForm message.cmd value
    | 4 => OrNull (ItemsForm Form) message.columns value
    | 5 => OrNull (ItemsForm Form) message.params value
    | 6 => OrNull (ItemsForm TextForm) message.comments value
    | 7 => OrNull TextForm message.filename value
    | _ => False

instance : Formed Request where
  FieldForm message number value :=
    match number with
    | 3 => OrNull (ItemsForm Form) message.queries value
    | 4 => OrNull TextForm message.compilerVersion value
    | 5 => OrNull BytesForm message.pluginOptions value
    | 6 => OrNull BytesForm message.globalOptions value
    | _ => False

/-! ## Reading fields -/

/-- A content is read from each of its forms. -/
def IsReadBy {α : Type} (form : α → Value → Prop) (read : Value → Option α) : Prop :=
  ∀ ⦃content value⦄, form content value → read value = some content

theorem textForm_isReadBy : IsReadBy TextForm text? := by
  rintro s _ ⟨⟩
  exact JsonString.toString?_ofString s

theorem boolForm_isReadBy : IsReadBy BoolForm bool? := by
  rintro b _ ⟨⟩
  rfl

theorem integerForm_isReadBy : IsReadBy IntegerForm int32? := by
  intro n value h
  have hinteger : value.integer? = some n.toInt := by
    cases h with
    | number => rfl
    | text h =>
        simp only [Value.integer?, JsonString.toChars?_map_scalar, Option.bind_some]
        exact Json.integerOfText?_of_spelling h
  have hlow := n.le_toInt
  have hhigh := n.toInt_lt
  simp only [int32?, hinteger]
  rw [if_pos ⟨by omega, by omega⟩, Int32.ofInt_toInt]

theorem bytesForm_isReadBy : IsReadBy BytesForm bytes? := by
  rintro content _ ⟨h⟩
  simp only [bytes?, text?, JsonString.toString?, JsonString.toChars?_map_scalar,
    Option.map_some, Option.bind_some, Base64.decode_of_spelling h]

section IsReadBy

variable {α : Type} {form : α → Value → Prop} {read : Value → Option α}

theorem itemsForm_isReadBy (hread : IsReadBy form read) :
    IsReadBy (ItemsForm form) (items? read) := by
  rintro items _ ⟨h⟩
  unfold items?
  induction h with
  | nil => rfl
  | cons hitem _ ih =>
      simp only at ih
      simp [readAll, hread hitem, ih]

theorem orNull_isReadBy [Inhabited α] (hread : IsReadBy form read) (hnull : read .null = none) :
    IsReadBy (OrNull form) (orEmpty read) := by
  intro content value h
  cases h with
  | null => rfl
  | value h =>
      have hvalue := hread h
      unfold orEmpty
      split
      · rw [hnull] at hvalue
        contradiction
      · exact hvalue

theorem optional_isReadBy [Inhabited α] [Mapped α] (hread : IsReadBy form Mapped.ofValue) :
    IsReadBy (Optional form) (message? none) := by
  intro content value h
  cases h with
  | absent => rfl
  | present h =>
      have hvalue := hread h
      unfold message?
      split
      · contradiction
      · rw [Option.getD_none, ← Mapped.ofValue, hvalue]
        rfl

end IsReadBy

/-! ## Keys -/

theorem eq_of_toChars? {key : JsonString} {chars : List Char} (h : key.toChars? = some chars) :
    key = JsonString.ofString (String.ofList chars) := by
  rw [JsonString.ofString, String.toList_ofList]
  exact JsonString.eq_map_scalar_of_toChars? h

theorem eq_of_number (type : MessageType) {first second : FieldSpec}
    (hfirst : first ∈ type.fields) (hsecond : second ∈ type.fields)
    (h : first.number = second.number) : first = second := by
  have hnodup : (type.fields.map FieldSpec.number).Nodup := by cases type <;> decide
  exact List.inj_on_of_nodup_map hnodup hfirst hsecond h

theorem meaning_of_names (type : MessageType) {spec : FieldSpec} (hspec : spec ∈ type.fields)
    {key : JsonString} (h : spec.Names key) : type.meaning key = .field spec.number := by
  rcases h with rfl | rfl
  all_goals cases type <;> revert spec <;> decide +kernel

theorem meaning_of_no_names (type : MessageType) {key : JsonString}
    (hnames : ∀ spec ∈ type.fields, ¬ spec.Names key) {chars : List Char}
    (hchars : key.toChars? = some chars) :
    type.meaning key = if isBracketed chars then .extension else .unknown := by
  have hkey := eq_of_toChars? hchars
  have hnone : type.numberOfKey? (String.ofList chars) = none := by
    unfold MessageType.numberOfKey?
    rw [Option.map_eq_none_iff, Option.or_eq_none_iff, List.find?_eq_none, List.find?_eq_none]
    constructor
    · intro spec hspec hname
      refine hnames spec hspec (.inl ?_)
      rw [hkey, beq_iff_eq.1 hname]
    · intro spec hspec hname
      refine hnames spec hspec (.inr ?_)
      rw [hkey, beq_iff_eq.1 hname]
  simp only [MessageType.meaning, hchars, hnone]

theorem meaning_eq_unknown (type : MessageType) {key : JsonString}
    (hnames : ∀ spec ∈ type.fields, ¬ spec.Names key)
    (hbrackets : ∀ chars, key.toChars? = some chars → isBracketed chars = false) :
    type.meaning key = .unknown := by
  cases hchars : key.toChars? with
  | none => simp [MessageType.meaning, hchars]
  | some chars => simp [meaning_of_no_names type hnames hchars, hbrackets chars hchars]

section Members

variable {α : Type} [Inhabited α] [Mapped α] [Formed α] {message : α} {member : JsonString × Value}

end Members

/-! ## Taking in fields in any order -/

/-- A content that has been taken in, or the empty one. -/
def taken {β : Type} [Inhabited β] (settled : List Nat) (number : Nat) (content : β) : β :=
  if number ∈ settled then content else default

section Taken

variable {β : Type} [Inhabited β] {settled : List Nat} {number : Nat} {content : β}

@[simp] theorem taken_cons_self : taken (number :: settled) number content = content :=
  if_pos List.mem_cons_self

@[simp] theorem taken_cons_of_ne {other : Nat} (h : other ≠ number) :
    taken (number :: settled) other content = taken settled other content := by
  simp [taken, h]

theorem taken_of_not_mem (h : number ∉ settled) : taken settled number content = default :=
  if_neg h

theorem taken_of_null {form : β → Value → Prop} {read : Value → Option β}
    (hread : IsReadBy form read) (hnull : read .null = some default)
    (h : number ∉ settled → form content .null) : taken settled number content = content := by
  unfold taken
  split
  · rfl
  next hnot => exact Option.some.inj (hnull.symm.trans (hread (h hnot)))

end Taken

section Assembles

variable {α : Type} [Inhabited α] [Mapped α] [Formed α] {message : α} {part : List Nat → α}

/-- A message with only some of its fields; taking in a form of another one settles it. -/
structure Assembles (message : α) (part : List Nat → α) : Prop where
  start : part [] = default
  step : ∀ {settled number value}, number ∉ settled → FieldForm message number value →
    Mapped.absorb (part settled) number value = some (part (number :: settled))
  finish : ∀ {settled},
    (∀ number ∈ (Mapped.type α).fields.map FieldSpec.number, number ∉ settled →
      FieldForm message number .null) → part settled = message

/-- A member settles the field that it names, and any other member none. -/
theorem absorbMember_of_form (h : Assembles message part) {settled : List Nat}
    {member : JsonString × Value} (hmember : MemberForm message member)
    (hnew : ∀ spec ∈ (Mapped.type α).fields, spec.Names member.1 → spec.number ∉ settled) :
    (∃ spec ∈ (Mapped.type α).fields, spec.Names member.1 ∧
      Mapped.absorbMember (part settled) member = some (part (spec.number :: settled))) ∨
    ((∀ spec ∈ (Mapped.type α).fields, ¬ spec.Names member.1) ∧
      Mapped.absorbMember (part settled) member = some (part settled)) := by
  by_cases hnames : ∃ spec ∈ (Mapped.type α).fields, spec.Names member.1
  · obtain ⟨spec, hspec, hname⟩ := hnames
    refine .inl ⟨spec, hspec, hname, ?_⟩
    simp only [Mapped.absorbMember, meaning_of_names _ hspec hname]
    exact h.step (hnew spec hspec hname) (hmember.named spec hspec hname)
  · have hnone : ∀ spec ∈ (Mapped.type α).fields, ¬ spec.Names member.1 :=
      fun spec hspec hname => hnames ⟨spec, hspec, hname⟩
    refine .inr ⟨hnone, ?_⟩
    simp only [Mapped.absorbMember, meaning_eq_unknown _ hnone (hmember.unnamed hnone)]

theorem absorbMembers_of_form (h : Assembles message part) {members : Members}
    (hmembers : ∀ member ∈ members, MemberForm message member)
    (honce : members.Pairwise fun first second =>
      ∀ spec ∈ (Mapped.type α).fields, spec.Names first.1 → ¬ spec.Names second.1)
    (settled : List Nat)
    (hnew : ∀ member ∈ members, ∀ spec ∈ (Mapped.type α).fields, spec.Names member.1 →
      spec.number ∉ settled) :
    ∃ all, Mapped.absorbMembers (part settled) members = some (part all) ∧
      settled ⊆ all ∧
      ∀ member ∈ members, ∀ spec ∈ (Mapped.type α).fields, spec.Names member.1 →
        spec.number ∈ all := by
  induction members generalizing settled with
  | nil => exact ⟨settled, rfl, List.Subset.refl _, by simp⟩
  | cons member rest ih =>
      obtain ⟨hmember, hmembers⟩ := List.forall_mem_cons.1 hmembers
      obtain ⟨honceFirst, honce⟩ := List.pairwise_cons.1 honce
      obtain ⟨hnewFirst, hnew⟩ := List.forall_mem_cons.1 hnew
      rcases absorbMember_of_form h hmember hnewFirst with
        ⟨spec, hspec, hname, habsorb⟩ | ⟨hnone, habsorb⟩
      · have hnewRest : ∀ other ∈ rest, ∀ field ∈ (Mapped.type α).fields,
            field.Names other.1 → field.number ∉ spec.number :: settled := by
          intro other hother field hfield hfieldName hmem
          rcases List.mem_cons.1 hmem with hnumber | hold
          · obtain rfl := eq_of_number _ hfield hspec hnumber
            exact honceFirst other hother field hfield hname hfieldName
          · exact hnew other hother field hfield hfieldName hold
        obtain ⟨all, hall, hsubset, hsettled⟩ :=
          ih hmembers honce (spec.number :: settled) hnewRest
        refine ⟨all, ?_, fun number hnumber => hsubset (List.mem_cons_of_mem _ hnumber), ?_⟩
        · simp only [Mapped.absorbMembers, habsorb, hall]
        · refine List.forall_mem_cons.2 ⟨fun field hfield hfieldName => ?_, hsettled⟩
          have hnumber : field.number = spec.number := by
            have hmeaning := meaning_of_names _ hfield hfieldName
            rw [meaning_of_names _ hspec hname] at hmeaning
            exact (KeyMeaning.field.inj hmeaning).symm
          exact hnumber ▸ hsubset List.mem_cons_self
      · obtain ⟨all, hall, hsubset, hsettled⟩ := ih hmembers honce settled hnew
        refine ⟨all, ?_, hsubset, List.forall_mem_cons.2 ⟨?_, hsettled⟩⟩
        · simp only [Mapped.absorbMembers, habsorb, hall]
        · exact fun field hfield hfieldName => absurd hfieldName (hnone field hfield)

theorem form_isReadBy {part : α → List Nat → α}
    (h : ∀ message, Assembles message (part message)) :
    IsReadBy (Form : α → Value → Prop) Mapped.ofValue := by
  rintro message _ ⟨hobject⟩
  obtain ⟨all, hall, _, hsettled⟩ :=
    absorbMembers_of_form (h message) hobject.each hobject.once [] (by simp)
  have hmessage : part message all = message := by
    refine (h message).finish fun number hnumber hnot => ?_
    obtain ⟨spec, hspec, rfl⟩ := List.mem_map.1 hnumber
    exact hobject.leftOut spec hspec fun member hmember hname =>
      hnot (hsettled member hmember spec hspec hname)
  rw [(h message).start, hmessage] at hall
  exact hall

end Assembles

/-! ## The messages -/

theorem textField_isReadBy : IsReadBy (OrNull TextForm) (orEmpty text?) :=
  orNull_isReadBy textForm_isReadBy rfl

theorem boolField_isReadBy : IsReadBy (OrNull BoolForm) (orEmpty bool?) :=
  orNull_isReadBy boolForm_isReadBy rfl

theorem integerField_isReadBy : IsReadBy (OrNull IntegerForm) (orEmpty int32?) :=
  orNull_isReadBy integerForm_isReadBy rfl

theorem bytesField_isReadBy : IsReadBy (OrNull BytesForm) (orEmpty bytes?) :=
  orNull_isReadBy bytesForm_isReadBy rfl

theorem itemsField_isReadBy {α : Type} {form : α → Value → Prop} {read : Value → Option α}
    (hread : IsReadBy form read) : IsReadBy (OrNull (ItemsForm form)) (orEmpty (items? read)) :=
  orNull_isReadBy (itemsForm_isReadBy hread) rfl

theorem Identifier.assembles (message : Identifier) :
    Assembles message fun settled =>
      ⟨taken settled 1 message.catalog, taken settled 2 message.schema,
        taken settled 3 message.name⟩ where
  start := rfl
  step := by
    intro settled number value hnew hform
    simp only [FieldForm] at hform
    split at hform
    · simp [Mapped.absorb, textField_isReadBy hform]
    · simp [Mapped.absorb, textField_isReadBy hform]
    · simp [Mapped.absorb, textField_isReadBy hform]
    · contradiction
  finish := by
    intro settled hempty
    rw [taken_of_null textField_isReadBy rfl (hempty 1 (by decide)),
      taken_of_null textField_isReadBy rfl (hempty 2 (by decide)),
      taken_of_null textField_isReadBy rfl (hempty 3 (by decide))]

theorem Column.assembles (message : Column) :
    Assembles message fun settled =>
      ⟨taken settled 1 message.name, taken settled 3 message.notNull,
        taken settled 4 message.isArray, taken settled 5 message.comment,
        taken settled 12 message.type⟩ where
  start := rfl
  step := by
    intro settled number value hnew hform
    simp only [FieldForm] at hform
    split at hform
    · simp [Mapped.absorb, textField_isReadBy hform]
    · simp [Mapped.absorb, boolField_isReadBy hform]
    · simp [Mapped.absorb, boolField_isReadBy hform]
    · simp [Mapped.absorb, textField_isReadBy hform]
    · have hnone : taken settled 12 message.type = none := taken_of_not_mem hnew
      have htype := optional_isReadBy (form_isReadBy Identifier.assembles) hform
      simp [Mapped.absorb, hnone, htype]
    · contradiction
  finish := by
    intro settled hempty
    rw [taken_of_null textField_isReadBy rfl (hempty 1 (by decide)),
      taken_of_null boolField_isReadBy rfl (hempty 3 (by decide)),
      taken_of_null boolField_isReadBy rfl (hempty 4 (by decide)),
      taken_of_null textField_isReadBy rfl (hempty 5 (by decide)),
      taken_of_null (optional_isReadBy (form_isReadBy Identifier.assembles)) rfl
        (hempty 12 (by decide))]

theorem Parameter.assembles (message : Parameter) :
    Assembles message fun settled =>
      ⟨taken settled 1 message.number, taken settled 2 message.column⟩ where
  start := rfl
  step := by
    intro settled number value hnew hform
    simp only [FieldForm] at hform
    split at hform
    · simp [Mapped.absorb, integerField_isReadBy hform]
    · have hnone : taken settled 2 message.column = none := taken_of_not_mem hnew
      have hcolumn := optional_isReadBy (form_isReadBy Column.assembles) hform
      simp [Mapped.absorb, hnone, hcolumn]
    · contradiction
  finish := by
    intro settled hempty
    rw [taken_of_null integerField_isReadBy rfl (hempty 1 (by decide)),
      taken_of_null (optional_isReadBy (form_isReadBy Column.assembles)) rfl
        (hempty 2 (by decide))]

theorem Query.assembles (message : Query) :
    Assembles message fun settled =>
      ⟨taken settled 1 message.text, taken settled 2 message.name, taken settled 3 message.cmd,
        taken settled 4 message.columns, taken settled 5 message.params,
        taken settled 6 message.comments, taken settled 7 message.filename⟩ where
  start := rfl
  step := by
    intro settled number value hnew hform
    simp only [FieldForm] at hform
    split at hform
    · simp [Mapped.absorb, textField_isReadBy hform]
    · simp [Mapped.absorb, textField_isReadBy hform]
    · simp [Mapped.absorb, textField_isReadBy hform]
    · have hcolumns := itemsField_isReadBy (form_isReadBy Column.assembles) hform
      simp [Mapped.absorb, hcolumns]
    · have hparams := itemsField_isReadBy (form_isReadBy Parameter.assembles) hform
      simp [Mapped.absorb, hparams]
    · have hcomments := itemsField_isReadBy textForm_isReadBy hform
      simp [Mapped.absorb, hcomments]
    · simp [Mapped.absorb, textField_isReadBy hform]
    · contradiction
  finish := by
    intro settled hempty
    rw [taken_of_null textField_isReadBy rfl (hempty 1 (by decide)),
      taken_of_null textField_isReadBy rfl (hempty 2 (by decide)),
      taken_of_null textField_isReadBy rfl (hempty 3 (by decide)),
      taken_of_null (itemsField_isReadBy (form_isReadBy Column.assembles)) rfl
        (hempty 4 (by decide)),
      taken_of_null (itemsField_isReadBy (form_isReadBy Parameter.assembles)) rfl
        (hempty 5 (by decide)),
      taken_of_null (itemsField_isReadBy textForm_isReadBy) rfl (hempty 6 (by decide)),
      taken_of_null textField_isReadBy rfl (hempty 7 (by decide))]

theorem Request.assembles (message : Request) :
    Assembles message fun settled =>
      ⟨taken settled 3 message.queries, taken settled 4 message.compilerVersion,
        taken settled 5 message.pluginOptions, taken settled 6 message.globalOptions⟩ where
  start := rfl
  step := by
    intro settled number value hnew hform
    simp only [FieldForm] at hform
    split at hform
    · have hqueries := itemsField_isReadBy (form_isReadBy Query.assembles) hform
      simp [Mapped.absorb, hqueries]
    · simp [Mapped.absorb, textField_isReadBy hform]
    · simp [Mapped.absorb, bytesField_isReadBy hform]
    · simp [Mapped.absorb, bytesField_isReadBy hform]
    · contradiction
  finish := by
    intro settled hempty
    rw [taken_of_null (itemsField_isReadBy (form_isReadBy Query.assembles)) rfl
        (hempty 3 (by decide)),
      taken_of_null textField_isReadBy rfl (hempty 4 (by decide)),
      taken_of_null bytesField_isReadBy rfl (hempty 5 (by decide)),
      taken_of_null bytesField_isReadBy rfl (hempty 6 (by decide))]

theorem Request.form_isReadBy : IsReadBy (Form : Request → Value → Prop) Mapped.ofValue :=
  Protocol.form_isReadBy Request.assembles

end QueryBindings.Protocol
