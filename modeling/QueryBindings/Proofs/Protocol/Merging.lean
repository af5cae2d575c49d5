import QueryBindings.Proofs.Protocol.Insertion

/-!
# Merging

A message after another one is taken in on top of it: items come after items, and a
value takes the place of the one before, but only if there is a record of it.  A message
inside of a message may therefore stand in several records, each with a part of it.
-/

namespace QueryBindings.Protocol

open Text (Bytes)
open Wire (Field FlatRecord Records)

/-! ## Fields that are sent -/

/-- Whether fields have one of a name, in the form that the name is declared with. -/
def MessageType.carries (type : MessageType) (fields : List Field) (name : String) : Bool :=
  fields.any fun field =>
    type.fields.any fun spec =>
      spec.name == name && (spec.number == field.1 && spec.type.form == field.2.form)

/-- Bytes with a record of a declared field. -/
def Carries (type : MessageType) (data : Bytes) (name : String) : Prop :=
  ∃ fields, Records data fields ∧ type.carries fields name = true

theorem carries_append (type : MessageType) (first second : List Field) (name : String) :
    type.carries (first ++ second) name =
      (type.carries first name || type.carries second name) :=
  List.any_append

theorem carries_of_undeclared {type : MessageType} {field : Field} (h : type.Undeclared field)
    (name : String) : type.carries [field] name = false := by
  have hnone : ∀ spec ∈ type.fields,
      (spec.number == field.1 && spec.type.form == field.2.form) = false := fun spec hspec =>
    Bool.eq_false_iff.2 (List.any_eq_false.1 h spec hspec)
  simp only [MessageType.carries, List.any_cons, List.any_nil, Bool.or_false]
  refine List.any_eq_false.2 fun spec hspec => ?_
  simp [hnone spec hspec]

theorem fields_unique {data : Bytes} {fields others : List Field} (hfields : Records data fields)
    (hothers : Records data others) : fields = others := by
  have hread := Wire.readFields_append hfields []
  rw [Wire.readFields_append hothers []] at hread
  simpa using (congrArg Wire.Reading.fields hread).symm

theorem carries_iff {data : Bytes} {fields : List Field} (h : Records data fields)
    (type : MessageType) (name : String) :
    Carries type data name ↔ type.carries fields name = true := by
  constructor
  · rintro ⟨others, hothers, hcarries⟩
    rwa [fields_unique h hothers]
  · exact fun hcarries => ⟨fields, h, hcarries⟩

/-! ## Requests one after the other -/

namespace Request

/-- A request with another one on top of it, of which so many fields were sent. -/
def merge (first second : Request) (sent : List Field) : Request where
  queries := first.queries ++ second.queries
  compilerVersion :=
    if MessageType.request.carries sent "sqlc_version" then second.compilerVersion
    else first.compilerVersion
  pluginOptions :=
    if MessageType.request.carries sent "plugin_options" then second.pluginOptions
    else first.pluginOptions
  globalOptions :=
    if MessageType.request.carries sent "global_options" then second.globalOptions
    else first.globalOptions

theorem merge_default (first : Request) : merge first default [] = first := by
  have hqueries : first.queries ++ (default : Request).queries = first.queries :=
    List.append_nil _
  simp [merge, MessageType.carries, hqueries]

theorem exists_of_declared {field : Field} (h : ¬ MessageType.request.Undeclared field) :
    ∃ spec ∈ MessageType.request.fields, ∃ content, field = (spec.number, .bytes content) := by
  obtain ⟨number, payload⟩ := field
  have hdeclares := eq_true_of_ne_false h
  obtain ⟨spec, hspec, hdeclared⟩ := List.any_eq_true.1 hdeclares
  obtain ⟨hnumber, hform⟩ := Bool.and_eq_true_iff.1 hdeclared
  have hbytes : ∀ spec ∈ MessageType.request.fields, spec.type.form = .bytes := by decide
  have hpayload : spec.type.form = payload.form := beq_iff_eq.1 hform
  rw [hbytes spec hspec] at hpayload
  cases beq_iff_eq.1 hnumber
  cases payload with
  | bytes content => exact ⟨spec, hspec, content, rfl⟩
  | _ => contradiction

theorem carries_of_mem {spec : FieldSpec} (h : spec ∈ MessageType.request.fields)
    (content : Bytes) (name : String) :
    MessageType.request.carries [(spec.number, .bytes content)] name = (spec.name == name) := by
  simp only [MessageType.fields, List.mem_cons, List.not_mem_nil, or_false] at h
  rcases h with rfl | rfl | rfl | rfl <;>
    simp [MessageType.carries, MessageType.fields, FieldType.form, Wire.Payload.form]

theorem absorb_merge (first second : Request) (sent : List Field) (field : Field) :
    Binary.absorb (merge first second sent) field =
      (Binary.absorb second field).map fun second => merge first second (sent ++ [field]) := by
  by_cases hundeclared : MessageType.request.Undeclared field
  · have hmerged : Binary.absorb (merge first second sent) field =
        .ok (merge first second sent) := absorb_of_undeclared hundeclared _
    have hsecond : Binary.absorb second field = .ok second := absorb_of_undeclared hundeclared _
    rw [hmerged, hsecond]
    simp only [Except.map, merge, carries_append, carries_of_undeclared hundeclared, Bool.or_false]
  · obtain ⟨spec, hspec, content, rfl⟩ := exists_of_declared hundeclared
    have hcarries := carries_of_mem hspec content
    simp only [MessageType.fields, List.mem_cons, List.not_mem_nil, or_false] at hspec
    rcases hspec with rfl | rfl | rfl | rfl
    · simp only [Binary.absorb]
      cases (Binary.decode content : Except BinaryFault Query) with
      | error fault => rfl
      | ok query => simp [Except.map, merge, carries_append, hcarries]
    · simp only [Binary.absorb]
      cases readText content with
      | error fault => rfl
      | ok version => simp [Except.map, merge, carries_append, hcarries]
    · simp [Binary.absorb, Except.map, merge, carries_append, hcarries]
    · simp [Binary.absorb, Except.map, merge, carries_append, hcarries]

theorem absorbAll_merge (first second : Request) (sent fields : List Field) :
    Binary.absorbAll (merge first second sent) fields =
      (Binary.absorbAll second fields).map fun second =>
        merge first second (sent ++ fields) := by
  induction fields generalizing second sent with
  | nil => simp only [Binary.absorbAll, Except.map, List.append_nil]
  | cons field rest ih =>
      simp only [Binary.absorbAll, absorb_merge]
      cases Binary.absorb second field with
      | error fault => rfl
      | ok taken =>
          simp only [Except.map, ih, List.append_assoc, List.singleton_append]

/-- An accepted request with more after it is the request with what comes after on top. -/
theorem absorbBytes_merge {data : Bytes} {first : Request}
    (h : Binary.absorbBytes (default : Request) data = .ok first) {after : Bytes}
    {fields : List Field} (hafter : Records after fields) :
    Binary.absorbBytes (default : Request) (data ++ after) =
      (Binary.absorbBytes (default : Request) after).map fun second =>
        merge first second fields := by
  obtain ⟨before, hbefore, hfirst⟩ := (absorbBytes_eq_ok_iff default).1 h
  have hmerged := absorbAll_merge first default [] fields
  rw [merge_default, List.nil_append] at hmerged
  rw [absorbBytes_append default hbefore, hfirst]
  simp only [Except.bind, absorbBytes_of_records _ hafter, hmerged]

end Request

/-! ## Messages in parts -/

theorem exists_absorb_eq_put {type inner : MessageType} {spec : FieldSpec}
    (hspec : spec ∈ type.fields) (hinner : spec.type = .message inner)
    (hsingle : spec.repeated = false) (message : type.Message) :
    ∃ (present : inner.Message) (put : inner.Message → type.Message),
      (∀ content, Binary.absorb message (spec.number, .bytes content) =
        (Binary.absorbBytes present content).map put) ∧
      ∀ taken content, Binary.absorb (put taken) (spec.number, .bytes content) =
        (Binary.absorbBytes taken content).map put := by
  cases type
  all_goals
    simp only [MessageType.fields, List.mem_cons, List.not_mem_nil, or_false] at hspec
    rcases hspec with rfl | rfl | rfl | rfl | rfl | rfl | rfl
  all_goals cases hinner
  all_goals cases hsingle
  all_goals exact ⟨_, _, fun _ => rfl, fun _ _ => rfl⟩

/-- Two parts of a message are taken in one after the other as the whole of it is at once. -/
theorem absorbAll_parts {type inner : MessageType} {spec : FieldSpec}
    (hspec : spec ∈ type.fields) (hinner : spec.type = .message inner)
    (hsingle : spec.repeated = false) {first second : Bytes} {fields : List Field}
    (hfirst : Records first fields) (message : type.Message) :
    Binary.absorbAll message [(spec.number, .bytes first), (spec.number, .bytes second)] =
      Binary.absorb message (spec.number, .bytes (first ++ second)) := by
  obtain ⟨present, put, hmessage, hput⟩ := exists_absorb_eq_put hspec hinner hsingle message
  rw [hmessage, absorbBytes_append present hfirst]
  simp only [Binary.absorbAll, hmessage, absorbBytes_of_records present hfirst]
  cases Binary.absorbAll present fields with
  | error fault => rfl
  | ok taken =>
      simp only [Except.map, Except.bind, hput]
      cases Binary.absorbBytes taken second <;> rfl

/--
One record of a message becomes two, with the first and the second part of its content:
a record of the message itself, or of one inside of it.  The first part is whole records.
-/
inductive Splits : MessageType → Bytes → Bytes → Prop where
  | here {type inner : MessageType} {spec : FieldSpec}
      {before record first second firstRecord secondRecord after : Bytes}
      {fields parts : List Field} (hbefore : Records before fields) (hspec : spec ∈ type.fields)
      (hinner : spec.type = .message inner) (hsingle : spec.repeated = false)
      (hparts : Records first parts)
      (hrecord : FlatRecord record (spec.number, .bytes (first ++ second)))
      (hfirst : FlatRecord firstRecord (spec.number, .bytes first))
      (hsecond : FlatRecord secondRecord (spec.number, .bytes second)) :
      Splits type (before ++ (record ++ after))
        (before ++ (firstRecord ++ (secondRecord ++ after)))
  | inside {type inner : MessageType} {spec : FieldSpec}
      {before record content changedRecord changed after : Bytes} {fields : List Field}
      (hbefore : Records before fields) (hspec : spec ∈ type.fields)
      (hinner : spec.type = .message inner)
      (hrecord : FlatRecord record (spec.number, .bytes content))
      (hchanged : FlatRecord changedRecord (spec.number, .bytes changed))
      (h : Splits inner content changed) :
      Splits type (before ++ (record ++ after)) (before ++ (changedRecord ++ after))

theorem Splits.first {type inner : MessageType} {spec : FieldSpec} (hspec : spec ∈ type.fields)
    (hinner : spec.type = .message inner) {content changed : Bytes}
    (hcontent : content.length < Wire.lengthBound) (hchanged : changed.length < Wire.lengthBound)
    (h : Splits inner content changed) (after : Bytes) :
    Splits type (Wire.writeField (spec.number, .bytes content) ++ after)
      (Wire.writeField (spec.number, .bytes changed) ++ after) :=
  .inside .nil hspec hinner (flatRecord_of_mem hspec hcontent)
    (flatRecord_of_mem hspec hchanged) h

theorem absorbBytes_of_splits {type : MessageType} {data parted : Bytes}
    (h : Splits type data parted) (message : type.Message) :
    Binary.absorbBytes message parted = Binary.absorbBytes message data := by
  induction h with
  | here hbefore hspec hinner hsingle hparts hrecord hfirst hsecond =>
      have htwo := hfirst.records.append hsecond.records
      rw [absorbBytes_append message hbefore, absorbBytes_append message hbefore]
      refine congrArg (Except.bind _) (funext fun taken => ?_)
      rw [← List.append_assoc, absorbBytes_append taken htwo, List.singleton_append,
        absorbAll_parts hspec hinner hsingle hparts, absorbBytes_append taken hrecord.records,
        absorbAll_singleton]
  | inside hbefore hspec hinner hrecord hchanged _ ih =>
      exact absorbBytes_congr hbefore hspec hinner hrecord hchanged ih _ message

theorem absorbBytes_of_splittings {type : MessageType} {data parted : Bytes}
    (h : Relation.ReflTransGen (Splits type) data parted) (message : type.Message) :
    Binary.absorbBytes message parted = Binary.absorbBytes message data := by
  induction h with
  | refl => rfl
  | tail _ hsplits ih => exact (absorbBytes_of_splits hsplits message).trans ih

end QueryBindings.Protocol
