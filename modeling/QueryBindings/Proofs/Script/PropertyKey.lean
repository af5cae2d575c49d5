import Mathlib.Data.List.Nodup
import QueryBindings.Proofs.Script.StringLiteral
import QueryBindings.Proofs.Text.Utf8

/-!
# Keys of objects in scripts

The key of a member, or of an access to one, is the value of the string literal that spells
it.  Two spellings may have one key, since there are escapes, but plain ones do not.
-/

namespace QueryBindings.Script

open StringLiteral (IsPlainChar)

theorem ofNat_inj_of_lt {a b : Nat} (ha : a < 0x10000) (hb : b < 0x10000)
    (h : UInt16.ofNat a = UInt16.ofNat b) : a = b := by
  have hnumbers := congrArg UInt16.toNat h
  rwa [UInt16.toNat_ofNat_of_lt' ha, UInt16.toNat_ofNat_of_lt' hb] at hnumbers

/-- No character begins with the code units of another one. -/
theorem eq_of_codeUnits_append {c d : Char} {first second : List UInt16}
    (h : codeUnits c.toNat ++ first = codeUnits d.toNat ++ second) :
    c = d ∧ first = second := by
  have hc : Text.IsScalar c.toNat := Text.isScalar_toNat c
  have hd : Text.IsScalar d.toNat := Text.isScalar_toNat d
  unfold Text.IsScalar at hc hd
  unfold codeUnits at h
  split at h <;> split at h <;>
    simp only [List.cons_append, List.nil_append, List.cons.injEq] at h
  · have hnumbers := ofNat_inj_of_lt (by omega) (by omega) h.1
    exact ⟨Char.toNat_inj.1 hnumbers, h.2⟩
  · have hnumbers := ofNat_inj_of_lt (by omega) (by omega) h.1
    omega
  · have hnumbers := ofNat_inj_of_lt (by omega) (by omega) h.1
    omega
  · obtain ⟨hhigh, hlow, hrest⟩ := h
    have hquotients := ofNat_inj_of_lt (by omega) (by omega) hhigh
    have hremainders := ofNat_inj_of_lt (by omega) (by omega) hlow
    exact ⟨Char.toNat_inj.1 (by omega), hrest⟩

theorem unitsOf_cons_ne_nil (c : Char) (text : List Char) : unitsOf (c :: text) ≠ [] := by
  intro h
  rw [unitsOf_cons, List.append_eq_nil_iff] at h
  have hpos := codeUnits_length_pos c.toNat
  rw [h.1] at hpos
  contradiction

theorem unitsOf_injective : Function.Injective unitsOf := by
  intro first second h
  induction first generalizing second with
  | nil =>
      cases second with
      | nil => rfl
      | cons d others => exact absurd h.symm (unitsOf_cons_ne_nil d others)
  | cons c rest ih =>
      cases second with
      | nil => exact absurd h (unitsOf_cons_ne_nil c rest)
      | cons d others =>
          obtain ⟨rfl, hrest⟩ := eq_of_codeUnits_append h
          rw [ih hrest]

/-- The key that a name between double quotes spells, if the quotes hold it. -/
def propertyKey? (name : String) : Option (List UInt16) :=
  match StringLiteral.read (name.toList ++ ['"']) with
  | some (key, []) => some key
  | _ => none

/-- A name that is read as itself. -/
def IsPlainName (name : String) : Prop :=
  ∀ c ∈ name.toList, IsPlainChar c

instance (name : String) : Decidable (IsPlainName name) :=
  List.decidableBAll _ _

theorem propertyKey?_of_isPlainName {name : String} (h : IsPlainName name) :
    propertyKey? name = some (unitsOf name.toList) := by
  rw [propertyKey?, StringLiteral.read_eq_some_iff.2 h]

/-- Every one of the names spells a key, and no two of them spell the same one. -/
structure HasDistinctKeys (names : List String) : Prop where
  isSome : ∀ key ∈ names.map propertyKey?, key.isSome = true
  nodup : (names.map propertyKey?).Nodup

theorem hasDistinctKeys_nil : HasDistinctKeys [] where
  isSome := List.forall_mem_nil _
  nodup := List.nodup_nil

theorem hasDistinctKeys_iff_nodup {names : List String} (h : ∀ name ∈ names, IsPlainName name) :
    HasDistinctKeys names ↔ names.Nodup := by
  constructor
  · intro hkeys
    exact hkeys.nodup.of_map propertyKey?
  · intro hnames
    refine ⟨?_, List.Nodup.map_on ?_ hnames⟩
    · intro key hkey
      obtain ⟨name, hname, rfl⟩ := List.mem_map.1 hkey
      rw [propertyKey?_of_isPlainName (h name hname)]
      rfl
    · intro first hfirst second hsecond hkeys
      rw [propertyKey?_of_isPlainName (h first hfirst),
        propertyKey?_of_isPlainName (h second hsecond)] at hkeys
      exact String.toList_inj.1 (unitsOf_injective (Option.some.inj hkeys))

example : propertyKey? "\\x61ge" = propertyKey? "age" ∧ propertyKey? "a\"b" = none := by
  decide +kernel

end QueryBindings.Script
