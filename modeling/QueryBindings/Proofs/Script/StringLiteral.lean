import QueryBindings.Proofs.Script.Escape

/-!
# String literals in scripts

A string literal of ECMAScript is read from its opening double quote on.  It ends at the next
quote that is no part of an escape, and a line feed or a carriage return may only stand in
it after a backslash.  The two other line breaks of scripts may stand in it.
-/

namespace QueryBindings.Script.StringLiteral

/-- One character of the value, which may be an escape; the length is that after `c`. -/
def readCharacter (c : Char) (rest : List Char) : Option Piece :=
  if c = '\\' then readEscape rest
  else if c = '\n' ∨ c = '\r' then none
  else some ⟨codeUnits c.toNat, 0⟩

/-- The value of a literal and the text after its closing quote, if it has one. -/
def read : List Char → Option (List UInt16 × List Char)
  | [] => none
  | c :: rest =>
      if c = '"' then some ([], rest)
      else
        match readCharacter c rest with
        | none => none
        | some piece =>
            (read (rest.drop piece.length)).map fun (value, left) => (piece.units ++ value, left)
termination_by text => text.length

theorem isPieceOf_of_readCharacter {c : Char} {rest : List Char} {piece : Piece}
    (h : readCharacter c rest = some piece) : IsPieceOf c rest piece := by
  refine isPieceOf_of_ite h fun hplain => ?_
  split at hplain
  · contradiction
  · cases hplain
    exact Nat.le_refl _

theorem endsBefore_of_read {text rest : List Char} {value : List UInt16}
    (h : read text = some (value, rest)) : EndsBefore '"' text value rest := by
  induction text using read.induct generalizing value with
  | case1 => simp [read] at h
  | case2 after =>
      rw [read, if_pos rfl] at h
      cases h
      exact .close
  | case3 c after hquote hnone => simp [read, hquote, hnone] at h
  | case4 c after hquote piece hpiece ih =>
      rw [read, if_neg hquote, hpiece] at h
      obtain ⟨⟨inner, left⟩, hinner, heq⟩ := Option.map_eq_some_iff.1 h
      cases heq
      exact .piece (isPieceOf_of_readCharacter hpiece) (ih hinner)

example : read "a\\x41\\\n\u2028\\\"\";".toList =
    some ([0x61, 0x41, 0x2028, 0x22], [';']) := by decide +kernel

/-- A character that is read as itself. -/
structure IsPlainChar (c : Char) : Prop where
  quote : c ≠ '"'
  backslash : c ≠ '\\'
  lineFeed : c ≠ '\n'
  carriageReturn : c ≠ '\r'

instance (c : Char) : Decidable (IsPlainChar c) :=
  decidable_of_iff (c ≠ '"' ∧ c ≠ '\\' ∧ c ≠ '\n' ∧ c ≠ '\r')
    ⟨fun ⟨a, b, c, d⟩ => ⟨a, b, c, d⟩, fun ⟨a, b, c, d⟩ => ⟨a, b, c, d⟩⟩

theorem eq_or_isPlainChar (c : Char) :
    c = '"' ∨ c = '\\' ∨ (c = '\n' ∨ c = '\r') ∨ IsPlainChar c := by
  by_cases hquote : c = '"'
  · exact .inl hquote
  by_cases hbackslash : c = '\\'
  · exact .inr (.inl hbackslash)
  by_cases hbreak : c = '\n' ∨ c = '\r'
  · exact .inr (.inr (.inl hbreak))
  obtain ⟨hfeed, hreturn⟩ := not_or.1 hbreak
  exact .inr (.inr (.inr ⟨hquote, hbackslash, hfeed, hreturn⟩))

theorem read_cons_of_isPlainChar {c : Char} (h : IsPlainChar c) (text : List Char) :
    read (c :: text) =
      (read text).map fun (value, left) => (codeUnits c.toNat ++ value, left) := by
  rw [read, if_neg h.quote]
  simp [readCharacter, h.backslash, h.lineFeed, h.carriageReturn]

/-- A literal is read as the text it was made from exactly if that text is plain. -/
theorem read_eq_some_iff {text rest : List Char} :
    read (text ++ '"' :: rest) = some (unitsOf text, rest) ↔ ∀ c ∈ text, IsPlainChar c := by
  constructor
  · intro h
    induction text with
    | nil => simp
    | cons c text ih =>
        have hpos := codeUnits_length_pos c.toNat
        rw [List.cons_append] at h
        rcases eq_or_isPlainChar c with rfl | rfl | hbreak | hc
        · rw [read, if_pos rfl] at h
          injection h with hpair
          have hlength := congrArg (List.length ∘ Prod.fst) hpair
          simp only [Function.comp, unitsOf_cons, List.length_append, List.length_nil] at hlength
          omega
        · have hlength := (endsBefore_of_read h).length_lt_of_backslash (by decide)
          have hquote : (codeUnits '"'.toNat).length = 1 := rfl
          simp only [unitsOf_cons, unitsOf_append, List.length_append] at hlength
          omega
        · rcases hbreak with rfl | rfl <;>
            simp [read, readCharacter] at h
        · rw [read_cons_of_isPlainChar hc] at h
          obtain ⟨⟨inner, left⟩, hinner, heq⟩ := Option.map_eq_some_iff.1 h
          obtain ⟨hunits, rfl⟩ := Prod.mk.inj heq
          have hsame : unitsOf text = inner := (List.append_cancel_left hunits).symm
          exact List.forall_mem_cons.2 ⟨hc, ih (hsame ▸ hinner)⟩
  · intro h
    induction text with
    | nil => simp [read]
    | cons c text ih =>
        obtain ⟨hc, htext⟩ := List.forall_mem_cons.1 h
        rw [List.cons_append, read_cons_of_isPlainChar hc, ih htext]
        rfl

end QueryBindings.Script.StringLiteral
