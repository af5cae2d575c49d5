import Mathlib.Logic.Relation
import QueryBindings.Proofs.Wire.Record
import QueryBindings.Protocol.Binary

/-!
# Records that messages do not declare

Between the records of a message there may be records that its type does not declare,
and likewise between the records of the messages inside of it.  They are read, but
nothing is taken in from them.
-/

namespace QueryBindings.Protocol

open Text (Bytes)
open Wire (Field FlatRecord Records)

/-! ## Messages by their type -/

def MessageType.Message : MessageType → Type
  | .identifier => Identifier
  | .column => Column
  | .parameter => Parameter
  | .query => Query
  | .request => Request
  | .file => File
  | .response => Response

instance : (type : MessageType) → Inhabited type.Message
  | .identifier => instInhabitedIdentifier
  | .column => instInhabitedColumn
  | .parameter => instInhabitedParameter
  | .query => instInhabitedQuery
  | .request => instInhabitedRequest
  | .file => instInhabitedFile
  | .response => instInhabitedResponse

instance : (type : MessageType) → Binary type.Message
  | .identifier => instBinaryIdentifier
  | .column => instBinaryColumn
  | .parameter => instBinaryParameter
  | .query => instBinaryQuery
  | .request => instBinaryRequest
  | .file => instBinaryFile
  | .response => instBinaryResponse

/-- A field that a message does not have, or has in another form. -/
def MessageType.Undeclared (type : MessageType) (field : Field) : Prop :=
  type.declares field.1 field.2.form = false

instance (type : MessageType) : DecidablePred type.Undeclared := fun field =>
  inferInstanceAs (Decidable (type.declares field.1 field.2.form = false))

theorem absorb_of_undeclared {type : MessageType} {field : Field} (h : type.Undeclared field)
    (message : type.Message) : Binary.absorb message field = .ok message := by
  cases type
  all_goals
    simp only [Binary.absorb]
    split
  -- The fields with a case of their own are the declared ones.
  all_goals first
    | rfl
    | exact Bool.noConfusion (show true = false from h)

theorem exists_absorb_eq_map {type inner : MessageType} {spec : FieldSpec}
    (hspec : spec ∈ type.fields) (hinner : spec.type = .message inner) (message : type.Message) :
    ∃ (present : inner.Message) (put : inner.Message → type.Message), ∀ content,
      Binary.absorb message (spec.number, .bytes content) =
        (Binary.absorbBytes present content).map put := by
  cases type
  all_goals
    simp only [MessageType.fields, List.mem_cons, List.not_mem_nil, or_false] at hspec
    rcases hspec with rfl | rfl | rfl | rfl | rfl | rfl | rfl
  all_goals cases hinner
  all_goals exact ⟨_, _, fun _ => rfl⟩

theorem absorb_congr {type inner : MessageType} {spec : FieldSpec} (hspec : spec ∈ type.fields)
    (hinner : spec.type = .message inner) {content changed : Bytes}
    (h : ∀ message : inner.Message,
      Binary.absorbBytes message changed = Binary.absorbBytes message content)
    (message : type.Message) :
    Binary.absorb message (spec.number, .bytes changed) =
      Binary.absorb message (spec.number, .bytes content) := by
  obtain ⟨present, put, hput⟩ := exists_absorb_eq_map hspec hinner message
  rw [hput, hput, h]

theorem exists_of_map_eq_ok {ε α β : Type} {f : α → β} {outcome : Except ε α} {value : β}
    (h : outcome.map f = .ok value) : ∃ inner, outcome = .ok inner := by
  cases outcome with
  | error fault => contradiction
  | ok inner => exact ⟨inner, rfl⟩

/-! ## Taking in records -/

section Absorb

variable {α : Type} [Inhabited α] [Binary α] (message : α)

theorem absorbAll_singleton (field : Field) :
    Binary.absorbAll message [field] = Binary.absorb message field := by
  simp only [Binary.absorbAll]
  cases Binary.absorb message field <;> rfl

theorem absorbBytes_append {before : Bytes} {fields : List Field} (h : Records before fields)
    (after : Bytes) :
    Binary.absorbBytes message (before ++ after) =
      (Binary.absorbAll message fields).bind fun message =>
        Binary.absorbBytes message after := by
  simp only [Binary.absorbBytes, Wire.readFields_append h, Binary.absorbAll_append]
  cases Binary.absorbAll message fields <;> rfl

theorem absorbBytes_of_records {data : Bytes} {fields : List Field} (h : Records data fields) :
    Binary.absorbBytes message data = Binary.absorbAll message fields := by
  have happend := absorbBytes_append message h []
  rw [List.append_nil] at happend
  rw [happend]
  cases Binary.absorbAll message fields <;> rfl

theorem absorbBytes_eq_ok_iff {data : Bytes} {result : α} :
    Binary.absorbBytes message data = .ok result ↔
      ∃ fields, Records data fields ∧ Binary.absorbAll message fields = .ok result := by
  constructor
  · intro h
    simp only [Binary.absorbBytes] at h
    split at h
    · contradiction
    next taken habsorb =>
      split at h
      next hwhole =>
        rw [Except.ok.inj h] at habsorb
        exact ⟨_, Wire.records_of_readFields hwhole, habsorb⟩
      · contradiction
  · rintro ⟨fields, hrecords, habsorb⟩
    rw [absorbBytes_of_records message hrecords, habsorb]

theorem exists_of_absorbAll {fields : List Field} {result : α}
    (h : Binary.absorbAll message fields = .ok result) {field : Field} (hmem : field ∈ fields) :
    ∃ before after : α, Binary.absorb before field = .ok after := by
  induction fields generalizing message with
  | nil => contradiction
  | cons first rest ih =>
      simp only [Binary.absorbAll] at h
      split at h
      · contradiction
      next taken habsorb =>
        rcases List.mem_cons.1 hmem with rfl | hrest
        · exact ⟨message, taken, habsorb⟩
        · exact ih taken h hrest

end Absorb

theorem absorbBytes_congr {type inner : MessageType} {spec : FieldSpec}
    {before record content changedRecord changed : Bytes} {fields : List Field}
    (hbefore : Records before fields) (hspec : spec ∈ type.fields)
    (hinner : spec.type = .message inner)
    (hrecord : FlatRecord record (spec.number, .bytes content))
    (hchanged : FlatRecord changedRecord (spec.number, .bytes changed))
    (h : ∀ message : inner.Message,
      Binary.absorbBytes message changed = Binary.absorbBytes message content)
    (after : Bytes) (message : type.Message) :
    Binary.absorbBytes message (before ++ (changedRecord ++ after)) =
      Binary.absorbBytes message (before ++ (record ++ after)) := by
  simp only [absorbBytes_append _ hbefore, absorbBytes_append _ hrecord.records,
    absorbBytes_append _ hchanged.records, absorbAll_singleton, absorb_congr hspec hinner h]

theorem absorbAll_of_undeclared {type : MessageType} {fields : List Field}
    (h : ∀ field ∈ fields, type.Undeclared field) (message : type.Message) :
    Binary.absorbAll message fields = .ok message := by
  induction fields with
  | nil => rfl
  | cons field rest ih =>
      obtain ⟨hfield, hrest⟩ := List.forall_mem_cons.1 h
      simp only [Binary.absorbAll, absorb_of_undeclared hfield, ih hrest]

/-- Records, and likewise the contents of those that are declared to hold messages. -/
inductive WellFormed : MessageType → Bytes → Prop where
  | mk {type : MessageType} {data : Bytes} {fields : List Field} (hrecords : Records data fields)
      (hinner : ∀ spec ∈ type.fields, ∀ inner content, spec.type = .message inner →
        (spec.number, .bytes content) ∈ fields → WellFormed inner content) :
      WellFormed type data

/-- Only well-formed bytes are taken in, at every depth. -/
theorem wellFormed_of_absorbBytes {type : MessageType} {data : Bytes}
    {message result : type.Message} (h : Binary.absorbBytes message data = .ok result) :
    WellFormed type data := by
  obtain ⟨fields, hrecords, habsorb⟩ := (absorbBytes_eq_ok_iff message).1 h
  refine .mk hrecords fun spec hspec inner content hinner hmem => ?_
  obtain ⟨before, _, hfield⟩ := exists_of_absorbAll message habsorb hmem
  obtain ⟨present, put, hput⟩ := exists_absorb_eq_map hspec hinner before
  rw [hput] at hfield
  obtain ⟨_, hcontent⟩ := exists_of_map_eq_ok hfield
  exact wellFormed_of_absorbBytes hcontent
termination_by data.length
decreasing_by exact hrecords.length_lt hmem

/-! ## Insertions -/

/--
One insertion of undeclared records into a message of some type: after some of its
records, or inside of a message that one of its records holds.  The record then has
another content, and a length of that content.
-/
inductive Inserts : MessageType → Bytes → Bytes → Prop where
  | here {type : MessageType} {before inserted after : Bytes} {fields undeclared : List Field}
      (hbefore : Records before fields) (hinserted : Records inserted undeclared)
      (hundeclared : ∀ field ∈ undeclared, type.Undeclared field) :
      Inserts type (before ++ after) (before ++ (inserted ++ after))
  | inside {type inner : MessageType} {spec : FieldSpec}
      {before record content changedRecord changed after : Bytes} {fields : List Field}
      (hbefore : Records before fields) (hspec : spec ∈ type.fields)
      (hinner : spec.type = .message inner)
      (hrecord : FlatRecord record (spec.number, .bytes content))
      (hchanged : FlatRecord changedRecord (spec.number, .bytes changed))
      (h : Inserts inner content changed) :
      Inserts type (before ++ (record ++ after)) (before ++ (changedRecord ++ after))

theorem number_bounds {type : MessageType} {spec : FieldSpec} (h : spec ∈ type.fields) :
    0 < spec.number ∧ spec.number < Wire.numberBound := by
  cases type <;> revert spec <;> decide

theorem flatRecord_of_mem {type : MessageType} {spec : FieldSpec} (h : spec ∈ type.fields)
    {content : Bytes} (hlength : content.length < Wire.lengthBound) :
    FlatRecord (Wire.writeField (spec.number, .bytes content)) (spec.number, .bytes content) := by
  obtain ⟨hpositive, hsmall⟩ := number_bounds h
  exact Wire.flatRecord_writeField hpositive hsmall hlength

theorem Inserts.first {type inner : MessageType} {spec : FieldSpec} (hspec : spec ∈ type.fields)
    (hinner : spec.type = .message inner) {content changed : Bytes}
    (hcontent : content.length < Wire.lengthBound) (hchanged : changed.length < Wire.lengthBound)
    (h : Inserts inner content changed) (after : Bytes) :
    Inserts type (Wire.writeField (spec.number, .bytes content) ++ after)
      (Wire.writeField (spec.number, .bytes changed) ++ after) :=
  .inside .nil hspec hinner (flatRecord_of_mem hspec hcontent)
    (flatRecord_of_mem hspec hchanged) h

/-- One insertion makes no difference to what is taken in. -/
theorem absorbBytes_of_inserts {type : MessageType} {data extended : Bytes}
    (h : Inserts type data extended) (message : type.Message) :
    Binary.absorbBytes message extended = Binary.absorbBytes message data := by
  induction h with
  | here hbefore hinserted hundeclared =>
      simp only [absorbBytes_append _ hbefore, absorbBytes_append _ hinserted,
        absorbAll_of_undeclared hundeclared, Except.bind]
  | inside hbefore hspec hinner hrecord hchanged _ ih =>
      exact absorbBytes_congr hbefore hspec hinner hrecord hchanged ih _ message

/-- Insertions make no difference, however many there are. -/
theorem absorbBytes_of_insertions {type : MessageType} {data extended : Bytes}
    (h : Relation.ReflTransGen (Inserts type) data extended) (message : type.Message) :
    Binary.absorbBytes message extended = Binary.absorbBytes message data := by
  induction h with
  | refl => rfl
  | tail _ hinserts ih => exact (absorbBytes_of_inserts hinserts message).trans ih

end QueryBindings.Protocol
