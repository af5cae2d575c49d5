import QueryBindings.Text.Digit

/-!
# Escapes in scripts

The escapes of ECMAScript literals in strict code.  The text of a script has characters,
but the value of a string has code units of sixteen bits.  An escape stands for a
character, for one code unit, which may be half of a character, or, in front of a line
break, for nothing.  It never has more code units than its own spelling.
-/

namespace QueryBindings.Script

/-- The code units of a code point, which has two of them if it needs more than sixteen bits. -/
def codeUnits (point : Nat) : List UInt16 :=
  if point < 0x10000 then [UInt16.ofNat point]
  else
    [UInt16.ofNat (0xD800 + (point - 0x10000) / 0x400),
      UInt16.ofNat (0xDC00 + (point - 0x10000) % 0x400)]

def unitsOf (text : List Char) : List UInt16 :=
  text.flatMap fun c => codeUnits c.toNat

@[simp] theorem unitsOf_nil : unitsOf [] = [] := rfl

@[simp] theorem unitsOf_cons (c : Char) (text : List Char) :
    unitsOf (c :: text) = codeUnits c.toNat ++ unitsOf text := rfl

@[simp] theorem unitsOf_append (first second : List Char) :
    unitsOf (first ++ second) = unitsOf first ++ unitsOf second :=
  List.flatMap_append

theorem codeUnits_length_pos (point : Nat) : 0 < (codeUnits point).length := by
  unfold codeUnits
  split <;> simp

theorem codeUnits_length_le (point : Nat) : (codeUnits point).length ≤ 2 := by
  unfold codeUnits
  split <;> simp

theorem length_unitsOf_take_add_drop (count : Nat) (text : List Char) :
    (unitsOf (text.take count)).length + (unitsOf (text.drop count)).length =
      (unitsOf text).length := by
  rw [← List.length_append, ← unitsOf_append, List.take_append_drop]

/-- A piece of a literal: its code units and how many characters it takes up. -/
structure Piece where
  units : List UInt16
  length : Nat
  deriving DecidableEq, Repr

def isLineTerminator (c : Char) : Bool :=
  c == '\n' || c == '\r' || c == '\u2028' || c == '\u2029'

/-- The controls that have letters; any other character stands for itself. -/
def controlUnit? (c : Char) : Option UInt16 :=
  [('b', 8), ('t', 9), ('n', 10), ('v', 11), ('f', 12), ('r', 13)].lookup c

def hexNumber? (digits : List Char) : Option Nat :=
  digits.foldlM (fun n c => (Text.hexValue? c).map (16 * n + ·)) 0

def hexUnit? (width : Nat) (text : List Char) : Option UInt16 :=
  if width ≤ text.length then (hexNumber? (text.take width)).map UInt16.ofNat else none

def readBraced (text : List Char) : Option Piece :=
  let digits := text.takeWhile fun c => (Text.hexValue? c).isSome
  if digits = [] ∨ (text.drop digits.length).head? ≠ some '\x7d' then none
  else
    match hexNumber? digits with
    | none => none
    | some point =>
        if point ≤ 0x10FFFF then some ⟨codeUnits point, digits.length + 1⟩ else none

/-- What an escape stands for, given the text after its backslash. -/
def readEscape : List Char → Option Piece
  | [] => none
  | 'x' :: rest => (hexUnit? 2 rest).map fun unit => ⟨[unit], 3⟩
  | 'u' :: '\x7b' :: rest =>
      (readBraced rest).map fun piece => ⟨piece.units, piece.length + 2⟩
  | 'u' :: rest => (hexUnit? 4 rest).map fun unit => ⟨[unit], 5⟩
  | '0' :: rest => if rest.head?.any Text.isAsciiDigit then none else some ⟨[0], 1⟩
  | '\r' :: '\n' :: _ => some ⟨[], 2⟩
  | c :: _ =>
      if isLineTerminator c then some ⟨[], 1⟩
      else if Text.isAsciiDigit c then none
      else
        match controlUnit? c with
        | some unit => some ⟨[unit], 1⟩
        | none => some ⟨codeUnits c.toNat, 1⟩

theorem readBraced_length_le {text : List Char} {piece : Piece}
    (h : readBraced text = some piece) : piece.units.length ≤ 2 := by
  unfold readBraced at h
  dsimp only at h
  split at h
  · contradiction
  · split at h
    · contradiction
    · split at h
      · cases h
        exact codeUnits_length_le _
      · contradiction

theorem readEscape_length_le {text : List Char} {piece : Piece}
    (h : readEscape text = some piece) :
    piece.units.length ≤ (unitsOf (text.take piece.length)).length := by
  have hfirst (c : Char) (rest : List Char) (count : Nat) :
      1 ≤ (unitsOf ((c :: rest).take (count + 1))).length := by
    have hpos := codeUnits_length_pos c.toNat
    simp only [List.take_succ_cons, unitsOf_cons, List.length_append]
    omega
  unfold readEscape at h
  split at h
  case h_1 => contradiction
  case h_2 rest =>
      obtain ⟨unit, _, rfl⟩ := Option.map_eq_some_iff.1 h
      exact hfirst 'x' rest 2
  case h_3 rest =>
      obtain ⟨braced, hbraced, rfl⟩ := Option.map_eq_some_iff.1 h
      have hunits := readBraced_length_le hbraced
      have hrest := hfirst '\x7b' rest braced.length
      -- Two code units are no more than the letter and the brace have themselves.
      have hpos := codeUnits_length_pos 'u'.toNat
      show braced.units.length ≤ (unitsOf (('u' :: '\x7b' :: rest).take (braced.length + 2))).length
      rw [List.take_succ_cons, unitsOf_cons, List.length_append]
      omega
  case h_4 rest _ =>
      obtain ⟨unit, _, rfl⟩ := Option.map_eq_some_iff.1 h
      exact hfirst 'u' rest 4
  case h_5 rest =>
      split at h
      · contradiction
      · cases h
        exact hfirst '0' rest 0
  case h_6 =>
      cases h
      exact Nat.zero_le _
  case h_7 c rest _ _ _ _ _ =>
      split at h
      · cases h
        exact Nat.zero_le _
      · split at h
        · contradiction
        · split at h
          · cases h
            exact hfirst c rest 0
          · cases h
            simp

/-- What a literal reads off from a character on: an escape, or no more than the character. -/
structure IsPieceOf (c : Char) (rest : List Char) (piece : Piece) : Prop where
  escape : c = '\\' → readEscape rest = some piece
  plain : c ≠ '\\' → piece.units.length ≤ (codeUnits c.toNat).length

theorem isPieceOf_of_ite {c : Char} {rest : List Char} {plain : Option Piece} {piece : Piece}
    (h : (if c = '\\' then readEscape rest else plain) = some piece)
    (hplain : plain = some piece → piece.units.length ≤ (codeUnits c.toNat).length) :
    IsPieceOf c rest piece := by
  constructor
  · intro hc
    rwa [if_pos hc] at h
  · intro hc
    rw [if_neg hc] at h
    exact hplain h

theorem IsPieceOf.length_le {c : Char} {rest : List Char} {piece : Piece}
    (h : IsPieceOf c rest piece) :
    piece.units.length + (unitsOf (rest.drop piece.length)).length ≤
      (unitsOf (c :: rest)).length := by
  rw [unitsOf_cons, List.length_append, ← length_unitsOf_take_add_drop piece.length rest]
  by_cases hc : c = '\\'
  · have hescape := readEscape_length_le (h.escape hc)
    omega
  · have hplain := h.plain hc
    omega

/-- The literal whose inside a text begins with has this value, and ends in front of `rest`. -/
inductive EndsBefore (closing : Char) : List Char → List UInt16 → List Char → Prop where
  | close {rest : List Char} : EndsBefore closing (closing :: rest) [] rest
  | piece {c : Char} {text rest : List Char} {piece : Piece} {value : List UInt16}
      (hpiece : IsPieceOf c text piece)
      (h : EndsBefore closing (text.drop piece.length) value rest) :
      EndsBefore closing (c :: text) (piece.units ++ value) rest

namespace EndsBefore

variable {closing : Char} {text rest : List Char} {value : List UInt16}

/-- A value has fewer code units than its spelling, for which the closing character is enough. -/
theorem length_lt (h : EndsBefore closing text value rest) :
    value.length + (unitsOf rest).length < (unitsOf text).length := by
  induction h with
  | close =>
      have hpos := codeUnits_length_pos closing.toNat
      simp only [unitsOf_cons, List.length_append, List.length_nil]
      omega
  | piece hpiece _ ih =>
      have hlength := hpiece.length_le
      rw [List.length_append]
      omega

theorem length_lt_of_backslash (hclosing : closing ≠ '\\')
    (h : EndsBefore closing ('\\' :: text) value rest) :
    value.length + (unitsOf rest).length < (unitsOf text).length := by
  cases h with
  | close => contradiction
  | @piece _ _ _ piece inner hpiece hinner =>
      have hrest := hinner.length_lt
      have hescape := readEscape_length_le (hpiece.escape rfl)
      have htext := length_unitsOf_take_add_drop piece.length text
      rw [List.length_append]
      omega

end EndsBefore

end QueryBindings.Script
