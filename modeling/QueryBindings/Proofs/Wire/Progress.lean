import QueryBindings.Proofs.Wire.RoundTrip

/-!
# Readers move forward

A reader leaves less than it was given, so the fuel of a reader of fields only has
to be the number of bytes.  The fields of a message are then those of its first
field and of what is left after it.
-/

namespace QueryBindings.Wire

open Text (Bytes)

theorem takeBytes_shortens {size : Nat} {bytes content rest : Bytes}
    (h : takeBytes size bytes = some (content, rest)) : rest.length ≤ bytes.length := by
  unfold takeBytes at h
  split at h
  · cases h
    rw [List.length_drop]
    omega
  · contradiction

theorem readWord_shortens {bytes rest : Bytes} {n : UInt64}
    (h : readWord bytes = some (n, rest)) : rest.length < bytes.length := by
  obtain ⟨⟨m, left⟩, hread, heq⟩ := Option.map_eq_some_iff.1 h
  cases heq
  exact readVarint_shortens hread

theorem readCounted_shortens {bytes content rest : Bytes}
    (h : readCounted bytes = some (content, rest)) : rest.length < bytes.length := by
  unfold readCounted at h
  split at h
  · contradiction
  next size left hword =>
    have hless := readWord_shortens hword
    split at h
    · have := takeBytes_shortens h
      omega
    · contradiction

theorem readTag_shortens {bytes rest : Bytes} {tag : Tag}
    (h : readTag bytes = some (tag, rest)) : rest.length < bytes.length := by
  unfold readTag at h
  split at h
  · contradiction
  next n left hnumber =>
    have hless := readVarint_shortens hnumber
    split at h
    · obtain ⟨form, _, heq⟩ := Option.map_eq_some_iff.1 h
      cases heq
      exact hless
    · contradiction

theorem readPayload_shortens {group : GroupReader}
    (hgroup : ∀ {number bytes fields rest}, group number bytes = some (fields, rest) →
      rest.length ≤ bytes.length)
    {tag : Tag} {bytes rest : Bytes} {payload : Payload}
    (h : readPayload group tag bytes = some (payload, rest)) : rest.length ≤ bytes.length := by
  obtain ⟨number, form⟩ := tag
  cases form with
  | varint =>
      obtain ⟨⟨n, left⟩, hread, heq⟩ := Option.map_eq_some_iff.1 h
      cases heq
      exact Nat.le_of_lt (readWord_shortens hread)
  | fixed64 =>
      obtain ⟨⟨content, left⟩, hread, heq⟩ := Option.map_eq_some_iff.1 h
      cases heq
      exact takeBytes_shortens hread
  | bytes =>
      obtain ⟨⟨content, left⟩, hread, heq⟩ := Option.map_eq_some_iff.1 h
      cases heq
      exact Nat.le_of_lt (readCounted_shortens hread)
  | groupStart =>
      obtain ⟨⟨fields, left⟩, hread, heq⟩ := Option.map_eq_some_iff.1 h
      cases heq
      exact hgroup hread
  | groupEnd => contradiction
  | fixed32 =>
      obtain ⟨⟨content, left⟩, hread, heq⟩ := Option.map_eq_some_iff.1 h
      cases heq
      exact takeBytes_shortens hread

theorem readGroup_shortens {fuel number : Nat} {bytes rest : Bytes} {fields : List Field}
    (h : readGroup fuel number bytes = some (fields, rest)) : rest.length ≤ bytes.length := by
  induction fuel generalizing number bytes rest fields with
  | zero => simp [readGroup] at h
  | succ fuel ih =>
      rw [readGroup] at h
      split at h
      · contradiction
      next tag left htag =>
        have htagged := readTag_shortens htag
        split at h
        · split at h
          · cases h
            omega
          · contradiction
        · split at h
          · contradiction
          next payload after hpayload =>
            have hpassed := readPayload_shortens ih hpayload
            obtain ⟨⟨others, last⟩, hothers, heq⟩ := Option.map_eq_some_iff.1 h
            cases heq
            have hlast := ih hothers
            omega

theorem readField_shortens {bytes rest : Bytes} {field : Field}
    (h : readField bytes = some (field, rest)) : rest.length < bytes.length := by
  unfold readField at h
  split at h
  · contradiction
  next tag left htag =>
    obtain ⟨⟨payload, after⟩, hpayload, heq⟩ := Option.map_eq_some_iff.1 h
    cases heq
    have htagged := readTag_shortens htag
    have hpassed := readPayload_shortens readGroup_shortens hpayload
    omega

/-- Fuel beyond the number of bytes makes no difference. -/
theorem readFieldsWith_of_length_le {bytes : Bytes} {fuel more : Nat}
    (hfuel : bytes.length ≤ fuel) (hmore : bytes.length ≤ more) :
    readFieldsWith fuel bytes = readFieldsWith more bytes := by
  induction fuel generalizing bytes more with
  | zero =>
      obtain rfl := List.eq_nil_of_length_eq_zero (Nat.le_zero.1 hfuel)
      cases more <;> rfl
  | succ fuel ih =>
      cases bytes with
      | nil => cases more <;> rfl
      | cons byte tail =>
          cases more with
          | zero => simp at hmore
          | succ more =>
              simp only [readFieldsWith]
              cases hread : readField (byte :: tail) with
              | none => rfl
              | some read =>
                  obtain ⟨field, rest⟩ := read
                  have hless := readField_shortens hread
                  have hrest : rest.length ≤ fuel := by omega
                  simp only [ih hrest (show rest.length ≤ more by omega)]

theorem readFields_of_readField {bytes rest : Bytes} {field : Field}
    (h : readField bytes = some (field, rest)) :
    readFields bytes = ⟨field :: (readFields rest).fields, (readFields rest).whole⟩ := by
  have hless := readField_shortens h
  obtain ⟨byte, tail, rfl⟩ := List.exists_cons_of_length_pos (Nat.zero_lt_of_lt hless)
  have hfuel : rest.length ≤ tail.length := Nat.le_of_lt_succ hless
  have hrest := readFieldsWith_of_length_le hfuel (Nat.le_refl rest.length)
  unfold readFields
  simp only [List.length_cons, readFieldsWith, h, hrest]

end QueryBindings.Wire
