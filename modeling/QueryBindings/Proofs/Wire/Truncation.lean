import QueryBindings.Proofs.Wire.Record

/-!
# Cutting records

No record is the beginning of another one, so bytes that are cut inside of a record are
not read to their end: the records before the cut are read, and nothing of what is left of
the one in which it falls.
-/

namespace QueryBindings.Wire

open Text (Bytes)

/-- Bytes that are one well-formed record. -/
def IsRecord (record : Bytes) : Prop :=
  ∃ field, Records record [field]

theorem readField_of_record {record : Bytes} {field : Field} (h : Records record [field])
    (rest : Bytes) : readField (record ++ rest) = some (field, rest) := by
  cases h with
  | flat hflat hrest =>
      cases hrest
      rw [List.append_nil]
      exact readField_of_flat hflat rest
  | group hstart hcontent hstop hrest =>
      cases hrest
      simp only [List.append_assoc, List.nil_append]
      exact readField_of_group hstart hcontent hstop rest

theorem isRecord_iff {record : Bytes} :
    IsRecord record ↔ ∃ field, readField record = some (field, []) := by
  constructor
  · rintro ⟨field, hrecord⟩
    have hread := readField_of_record hrecord []
    rw [List.append_nil] at hread
    exact ⟨field, hread⟩
  · rintro ⟨field, hread⟩
    obtain ⟨spelled, rfl, hrecord⟩ := record_of_readField hread
    rw [List.append_nil]
    exact ⟨field, hrecord⟩

theorem readField_of_cut {first second : Bytes} (h : IsRecord (first ++ second))
    (hsecond : second ≠ []) : readField first = none := by
  cases hread : readField first with
  | none => rfl
  | some read =>
      obtain ⟨field, rest⟩ := read
      obtain ⟨record, rfl, hrecord⟩ := record_of_readField hread
      have hpart := readField_of_record hrecord (rest ++ second)
      obtain ⟨other, hwhole⟩ := isRecord_iff.1 h
      rw [List.append_assoc, hpart] at hwhole
      have hrest : rest ++ second = [] := congrArg Prod.snd (Option.some.inj hwhole)
      exact absurd (List.append_eq_nil_iff.1 hrest).2 hsecond

theorem readFields_of_cut {first second : Bytes} (h : IsRecord (first ++ second))
    (hfirst : first ≠ []) (hsecond : second ≠ []) : readFields first = ⟨[], false⟩ := by
  obtain ⟨byte, rest, rfl⟩ := List.exists_cons_of_ne_nil hfirst
  simp only [readFields, List.length_cons, readFieldsWith, readField_of_cut h hsecond]

/-- Bytes are divided into well-formed records. -/
structure Divides (records : List Bytes) (data : Bytes) : Prop where
  flatten : data = records.flatten
  isRecord : ∀ record ∈ records, IsRecord record

theorem exists_fields {records : List Bytes} (h : ∀ record ∈ records, IsRecord record) :
    ∃ fields, Records records.flatten fields := by
  induction records with
  | nil => exact ⟨[], .nil⟩
  | cons record rest ih =>
      obtain ⟨⟨field, hrecord⟩, hrest⟩ := List.forall_mem_cons.1 h
      obtain ⟨fields, hfields⟩ := ih hrest
      exact ⟨_, hrecord.append hfields⟩

theorem exists_divides {data : Bytes} {fields : List Field} (h : Records data fields) :
    ∃ records, Divides records data := by
  induction h with
  | nil => exact ⟨[], rfl, nofun⟩
  | flat hflat _ ih =>
      obtain ⟨records, rfl, hrecords⟩ := ih
      exact ⟨_ :: records, rfl, List.forall_mem_cons.2 ⟨⟨_, hflat.records⟩, hrecords⟩⟩
  | @group start content stop rest number inner fields hstart hcontent hstop _ _ ih =>
      obtain ⟨records, rfl, hrecords⟩ := ih
      have hgroup : Records (start ++ (content ++ (stop ++ []))) [(number, .group inner)] :=
        .group hstart hcontent hstop .nil
      exact ⟨_ :: records, by simp, List.forall_mem_cons.2 ⟨⟨_, hgroup⟩, hrecords⟩⟩

/-- The beginning, and the places where one of the records ends. -/
def IsBoundary (records : List Bytes) (place : Nat) : Prop :=
  ∃ count, place = (records.take count).flatten.length

theorem take_of_isBoundary {records : List Bytes} {place : Nat} (h : IsBoundary records place) :
    ∃ before after, records = before ++ after ∧ records.flatten.take place = before.flatten := by
  obtain ⟨count, rfl⟩ := h
  refine ⟨records.take count, records.drop count, (List.take_append_drop count records).symm, ?_⟩
  have hsplit := congrArg List.flatten (List.take_append_drop count records)
  rw [List.flatten_append] at hsplit
  rw [← hsplit, List.take_left]

theorem take_of_not_isBoundary {records : List Bytes} {place : Nat}
    (hplace : place ≤ records.flatten.length) (h : ¬ IsBoundary records place) :
    ∃ before first second after, records = before ++ (first ++ second) :: after ∧
      first ≠ [] ∧ second ≠ [] ∧ records.flatten.take place = before.flatten ++ first := by
  induction records generalizing place with
  | nil =>
      have hzero : place = 0 := Nat.le_zero.1 hplace
      exact absurd ⟨0, hzero⟩ h
  | cons record rest ih =>
      by_cases hinside : place < record.length
      · have hpositive : place ≠ 0 := fun hzero => h ⟨0, hzero⟩
        refine ⟨[], record.take place, record.drop place, rest, ?_, ?_, ?_, ?_⟩
        · rw [List.take_append_drop, List.nil_append]
        · rw [← List.length_pos_iff, List.length_take_of_le (Nat.le_of_lt hinside)]
          exact Nat.pos_of_ne_zero hpositive
        · rw [← List.length_pos_iff, List.length_drop]
          omega
        · rw [List.flatten_cons, List.take_append_of_le_length (Nat.le_of_lt hinside)]
          rfl
      · obtain ⟨more, rfl⟩ := Nat.exists_eq_add_of_le (Nat.le_of_not_lt hinside)
        rw [List.flatten_cons, List.length_append] at hplace
        have hrest : ¬ IsBoundary rest more := by
          rintro ⟨count, rfl⟩
          exact h ⟨count + 1, by simp⟩
        obtain ⟨before, first, second, after, rfl, hfirst, hsecond, htake⟩ :=
          ih (Nat.le_of_add_le_add_left hplace) hrest
        refine ⟨record :: before, first, second, after, rfl, hfirst, hsecond, ?_⟩
        rw [List.flatten_cons, List.take_length_add_append, htake, List.flatten_cons,
          List.append_assoc]

end QueryBindings.Wire
