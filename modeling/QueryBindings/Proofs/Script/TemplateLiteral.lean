import QueryBindings.Proofs.Script.Escape

/-!
# Template literals in scripts

A template literal of ECMAScript is read from its opening backtick on.  It ends at the next
backtick that is no part of an escape; a dollar sign in front of a brace starts a
substitution; a carriage return is read as a line feed, with or without one after it.  The
value is that of a literal without a tag.
-/

namespace QueryBindings.Script.TemplateLiteral

/-- How a literal goes on after its opening backtick. -/
inductive Reading where
  | closed (value : List UInt16) (rest : List Char)
  | substitution
  | invalid
  | unterminated
  deriving DecidableEq, Repr

def Reading.prepend (units : List UInt16) : Reading → Reading
  | closed value rest => closed (units ++ value) rest
  | substitution => substitution
  | invalid => invalid
  | unterminated => unterminated

def readCharacter (c : Char) (rest : List Char) : Option Piece :=
  if c = '\\' then readEscape rest
  else if c = '\r' then
    some ⟨codeUnits '\n'.toNat, if rest.head? = some '\n' then 1 else 0⟩
  else some ⟨codeUnits c.toNat, 0⟩

def read : List Char → Reading
  | [] => .unterminated
  | c :: rest =>
      if c = '\x60' then .closed [] rest
      else if c = '$' ∧ rest.head? = some '\x7b' then .substitution
      else
        match readCharacter c rest with
        | none => .invalid
        | some piece => (read (rest.drop piece.length)).prepend piece.units
termination_by text => text.length

@[simp] theorem Reading.prepend_nil (reading : Reading) : reading.prepend [] = reading := by
  cases reading <;> rfl

theorem Reading.prepend_append (first second : List UInt16) (reading : Reading) :
    reading.prepend (first ++ second) = (reading.prepend second).prepend first := by
  cases reading <;> simp [prepend]

theorem prepend_eq_closed_iff {units value : List UInt16} {reading : Reading}
    {rest : List Char} :
    reading.prepend units = .closed value rest ↔
      ∃ inner, reading = .closed inner rest ∧ value = units ++ inner := by
  cases reading with
  | closed inner left =>
      simp only [Reading.prepend, Reading.closed.injEq]
      constructor
      · rintro ⟨hvalue, hrest⟩
        exact ⟨inner, ⟨rfl, hrest⟩, hvalue.symm⟩
      · rintro ⟨_, ⟨rfl, hrest⟩, hvalue⟩
        exact ⟨hvalue.symm, hrest⟩
  | substitution | invalid | unterminated => simp [Reading.prepend]

theorem isPieceOf_of_readCharacter {c : Char} {rest : List Char} {piece : Piece}
    (h : readCharacter c rest = some piece) : IsPieceOf c rest piece := by
  refine isPieceOf_of_ite h fun hplain => ?_
  split at hplain
  · cases hplain
    exact codeUnits_length_pos c.toNat
  · cases hplain
    exact Nat.le_refl _

theorem endsBefore_of_read {text rest : List Char} {value : List UInt16}
    (h : read text = .closed value rest) : EndsBefore '\x60' text value rest := by
  induction text using read.induct generalizing value with
  | case1 => simp [read] at h
  | case2 after =>
      rw [read, if_pos rfl] at h
      cases h
      exact .close
  | case3 c after hbacktick hsubstitution =>
      rw [read, if_neg hbacktick, if_pos hsubstitution] at h
      contradiction
  | case4 c after hbacktick hsubstitution hnone =>
      simp [read, hbacktick, hsubstitution, hnone] at h
  | case5 c after hbacktick hsubstitution piece hpiece ih =>
      rw [read, if_neg hbacktick, if_neg hsubstitution, hpiece] at h
      obtain ⟨inner, hinner, rfl⟩ := prepend_eq_closed_iff.1 h
      exact .piece (isPieceOf_of_readCharacter hpiece) (ih hinner)

example : read "\\x41\\u\x7b1F600\x7d\\\n$\x60;".toList =
    .closed [0x41, 0xD83D, 0xDE00, 0x24] [';'] := by decide +kernel

theorem head_of_read_carriageReturn {text rest : List Char} {value : List UInt16}
    (h : read ('\r' :: text) = .closed value rest) : value.head? = some 10 := by
  rw [read, if_neg (by decide), if_neg (by simp), readCharacter, if_neg (by decide),
    if_pos rfl] at h
  obtain ⟨inner, _, rfl⟩ := prepend_eq_closed_iff.1 h
  rfl

/-- Text that is read as itself. -/
structure IsPlain (text : List Char) : Prop where
  backtick : '\x60' ∉ text
  backslash : '\\' ∉ text
  carriageReturn : '\r' ∉ text
  substitution : ¬ ['$', '\x7b'] <:+: text

/-- A character that is read as itself in front of this text. -/
structure IsPlainBefore (c : Char) (text : List Char) : Prop where
  backtick : c ≠ '\x60'
  backslash : c ≠ '\\'
  carriageReturn : c ≠ '\r'
  substitution : ¬ (c = '$' ∧ text.head? = some '\x7b')

theorem eq_or_isPlainBefore (c : Char) (text : List Char) :
    c = '\x60' ∨ c = '\\' ∨ c = '\r' ∨ (c = '$' ∧ text.head? = some '\x7b') ∨
      IsPlainBefore c text := by
  by_cases hbacktick : c = '\x60'
  · exact .inl hbacktick
  by_cases hbackslash : c = '\\'
  · exact .inr (.inl hbackslash)
  by_cases hreturn : c = '\r'
  · exact .inr (.inr (.inl hreturn))
  by_cases hsubstitution : c = '$' ∧ text.head? = some '\x7b'
  · exact .inr (.inr (.inr (.inl hsubstitution)))
  exact .inr (.inr (.inr (.inr ⟨hbacktick, hbackslash, hreturn, hsubstitution⟩)))

theorem isPlain_cons_iff {c : Char} {text : List Char} :
    IsPlain (c :: text) ↔ IsPlainBefore c text ∧ IsPlain text := by
  have hstart : ['$', '\x7b'] <+: c :: text ↔ c = '$' ∧ text.head? = some '\x7b' := by
    cases text <;> simp [List.cons_prefix_cons, eq_comm]
  constructor
  · rintro ⟨hbacktick, hbackslash, hreturn, hsubstitution⟩
    simp only [List.mem_cons, not_or, List.infix_cons_iff, hstart] at *
    exact ⟨⟨Ne.symm hbacktick.1, Ne.symm hbackslash.1, Ne.symm hreturn.1, hsubstitution.1⟩,
      ⟨hbacktick.2, hbackslash.2, hreturn.2, hsubstitution.2⟩⟩
  · rintro ⟨⟨hbacktick, hbackslash, hreturn, hsubstitution⟩, htext⟩
    constructor
    all_goals simp only [List.mem_cons, not_or, List.infix_cons_iff, hstart]
    · exact ⟨Ne.symm hbacktick, htext.backtick⟩
    · exact ⟨Ne.symm hbackslash, htext.backslash⟩
    · exact ⟨Ne.symm hreturn, htext.carriageReturn⟩
    · exact ⟨hsubstitution, htext.substitution⟩

theorem isPlain_nil : IsPlain [] :=
  ⟨List.not_mem_nil, List.not_mem_nil, List.not_mem_nil, by simp⟩

instance (c : Char) (text : List Char) : Decidable (IsPlainBefore c text) :=
  decidable_of_iff
    (c ≠ '\x60' ∧ c ≠ '\\' ∧ c ≠ '\r' ∧ ¬ (c = '$' ∧ text.head? = some '\x7b'))
    ⟨fun ⟨a, b, c, d⟩ => ⟨a, b, c, d⟩, fun ⟨a, b, c, d⟩ => ⟨a, b, c, d⟩⟩

def decideIsPlain : (text : List Char) → Decidable (IsPlain text)
  | [] => .isTrue isPlain_nil
  | _ :: text =>
      have := decideIsPlain text
      decidable_of_iff' _ isPlain_cons_iff

instance (text : List Char) : Decidable (IsPlain text) := decideIsPlain text

theorem isPlainBefore_append_iff {c : Char} {text rest : List Char}
    (hrest : rest.head? ≠ some '\x7b') :
    IsPlainBefore c (text ++ rest) ↔ IsPlainBefore c text := by
  have hhead : (text ++ rest).head? = some '\x7b' ↔ text.head? = some '\x7b' := by
    cases text with
    | nil => exact iff_of_false hrest nofun
    | cons next text => rfl
  constructor
  · rintro ⟨hbacktick, hbackslash, hreturn, hsubstitution⟩
    exact ⟨hbacktick, hbackslash, hreturn, by rwa [hhead] at hsubstitution⟩
  · rintro ⟨hbacktick, hbackslash, hreturn, hsubstitution⟩
    exact ⟨hbacktick, hbackslash, hreturn, by rwa [hhead]⟩

/-- A character that has no meaning of its own keeps the texts around it apart. -/
theorem isPlain_append_cons_iff {first second : List Char} {c : Char}
    (hc : IsPlainBefore c second) (hbrace : c ≠ '\x7b') :
    IsPlain (first ++ c :: second) ↔ IsPlain first ∧ IsPlain second := by
  induction first with
  | nil => simp [isPlain_cons_iff, hc, isPlain_nil]
  | cons next rest ih =>
      have hhead : (c :: second).head? ≠ some '\x7b' := by simpa using hbrace
      rw [List.cons_append, isPlain_cons_iff, isPlain_cons_iff, ih,
        isPlainBefore_append_iff hhead, and_assoc]

theorem read_cons_of_isPlainBefore {c : Char} {text : List Char} (h : IsPlainBefore c text) :
    read (c :: text) = (read text).prepend (codeUnits c.toNat) := by
  obtain ⟨hbacktick, hbackslash, hreturn, hsubstitution⟩ := h
  rw [read, if_neg hbacktick, if_neg hsubstitution]
  simp [readCharacter, hbackslash, hreturn]

theorem read_append_of_isPlain {text rest : List Char} (h : IsPlain text)
    (hrest : rest.head? ≠ some '\x7b') :
    read (text ++ rest) = (read rest).prepend (unitsOf text) := by
  induction text with
  | nil => simp
  | cons c text ih =>
      obtain ⟨hc, htext⟩ := isPlain_cons_iff.1 h
      have hbefore := (isPlainBefore_append_iff hrest).2 hc
      rw [List.cons_append, read_cons_of_isPlainBefore hbefore, ih htext, unitsOf_cons,
        Reading.prepend_append]

/-- A literal is read as the text it was made from exactly if that text is plain. -/
theorem read_eq_closed_iff {text rest : List Char} :
    read (text ++ '\x60' :: rest) = .closed (unitsOf text) rest ↔ IsPlain text := by
  constructor
  · intro h
    induction text with
    | nil => exact isPlain_nil
    | cons c text ih =>
        have hpos := codeUnits_length_pos c.toNat
        rw [List.cons_append] at h
        rcases eq_or_isPlainBefore c (text ++ '\x60' :: rest) with
          rfl | rfl | rfl | ⟨rfl, hbrace⟩ | hc
        · rw [read, if_pos rfl] at h
          injection h with hunits
          have hlength := congrArg List.length hunits
          simp only [unitsOf_cons, List.length_append, List.length_nil] at hlength
          omega
        · have hlength := (endsBefore_of_read h).length_lt_of_backslash (by decide)
          have hbacktick : (codeUnits '\x60'.toNat).length = 1 := rfl
          simp only [unitsOf_cons, unitsOf_append, List.length_append] at hlength
          omega
        · have hhead : (unitsOf ('\r' :: text)).head? = some 13 := rfl
          rw [head_of_read_carriageReturn h] at hhead
          exact absurd hhead (by decide)
        · rw [read, if_neg (by decide), if_pos ⟨rfl, hbrace⟩] at h
          contradiction
        · rw [read_cons_of_isPlainBefore hc] at h
          obtain ⟨inner, hinner, hunits⟩ := prepend_eq_closed_iff.1 h
          have hsame : unitsOf text = inner := List.append_cancel_left hunits
          have hbefore := (isPlainBefore_append_iff (by simp)).1 hc
          exact isPlain_cons_iff.2 ⟨hbefore, ih (hsame ▸ hinner)⟩
  · intro h
    rw [read_append_of_isPlain h (by simp), read, if_pos rfl]
    simp [Reading.prepend]

end QueryBindings.Script.TemplateLiteral
