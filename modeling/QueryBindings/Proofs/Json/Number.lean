import Mathlib.Algebra.Group.Nat.Defs
import QueryBindings.Json.Reader

/-!
# Numbers in JSON texts

How the numbers of a text are written, and where they end.  A number with a
fraction or an exponent is read however long it is, an integer only if it does
not have too many digits.
-/

namespace QueryBindings.Json

def Spaces (cs : List Char) : Prop :=
  ∀ c ∈ cs, isSpace c = true

instance (cs : List Char) : Decidable (Spaces cs) :=
  List.decidableBAll (isSpace · = true) cs

theorem spaces_nil : Spaces [] := by
  simp [Spaces]

theorem skipSpace_append {spaces : List Char} (h : Spaces spaces) {c : Char}
    (hc : isSpace c = false) (rest : List Char) :
    skipSpace (spaces ++ c :: rest) = c :: rest := by
  induction spaces with
  | nil => simp [skipSpace, hc]
  | cons space others ih =>
      obtain ⟨hspace, hothers⟩ := List.forall_mem_cons.1 h
      simpa [skipSpace, hspace] using ih hothers

theorem skipSpace_of_spaces {spaces : List Char} (h : Spaces spaces) : skipSpace spaces = [] := by
  induction spaces with
  | nil => rfl
  | cons space others ih =>
      obtain ⟨hspace, hothers⟩ := List.forall_mem_cons.1 h
      simpa [skipSpace, hspace] using ih hothers

/-- What may come after a value: its end can be told from what follows. -/
def Closes (rest : List Char) : Prop :=
  ∀ c, rest.head? = some c → isSpace c = true ∨ c = ',' ∨ c = ']' ∨ c = '\x7d'

theorem closes_append {spaces rest : List Char} (hspaces : Spaces spaces) (hrest : Closes rest) :
    Closes (spaces ++ rest) := by
  cases spaces with
  | nil => exact hrest
  | cons space others =>
      intro c hc
      cases hc
      exact .inl (hspaces _ List.mem_cons_self)

theorem closes_cons {c : Char} (hc : c = ',' ∨ c = ']' ∨ c = '\x7d') (rest : List Char) :
    Closes (c :: rest) := by
  intro d hd
  cases hd
  exact .inr hc

theorem closes_nil : Closes [] := by
  intro c hc
  contradiction
/-! ## Digits -/

theorem isAsciiDigit_iff {c : Char} :
    Text.isAsciiDigit c = true ↔ 0x30 ≤ c.toNat ∧ c.toNat ≤ 0x39 := by
  simp only [Text.isAsciiDigit, Bool.and_eq_true, decide_eq_true_eq, Char.le_def,
    UInt32.le_iff_toNat_le]
  rfl

theorem ne_of_isAsciiDigit {c d : Char} (hc : Text.isAsciiDigit c = true)
    (hd : Text.isAsciiDigit d = false) : c ≠ d := by
  rintro rfl
  rw [hd] at hc
  contradiction

structure IsDigits (digits : List Char) : Prop where
  ne_nil : digits ≠ []
  all : ∀ d ∈ digits, Text.isAsciiDigit d = true

instance (digits : List Char) : Decidable (IsDigits digits) :=
  decidable_of_iff (digits ≠ [] ∧ digits.all Text.isAsciiDigit = true)
    ⟨fun h => ⟨h.1, List.all_eq_true.1 h.2⟩, fun h => ⟨h.ne_nil, List.all_eq_true.2 h.all⟩⟩

/-- A text that does not go on with a digit. -/
def EndsDigits (rest : List Char) : Prop :=
  ∀ c, rest.head? = some c → Text.isAsciiDigit c = false

theorem endsDigits_cons {c : Char} (hc : Text.isAsciiDigit c = false) (rest : List Char) :
    EndsDigits (c :: rest) := by
  intro d hd
  cases hd
  exact hc

theorem takeWhile_digits {digits rest : List Char}
    (hdigits : ∀ d ∈ digits, Text.isAsciiDigit d = true) (hrest : EndsDigits rest) :
    (digits ++ rest).takeWhile Text.isAsciiDigit = digits ∧
      (digits ++ rest).dropWhile Text.isAsciiDigit = rest := by
  induction digits with
  | nil =>
      cases rest with
      | nil => exact ⟨rfl, rfl⟩
      | cons c others => simp [hrest c rfl]
  | cons d others ih =>
      obtain ⟨hd, hothers⟩ := List.forall_mem_cons.1 hdigits
      simpa [hd] using ih hothers

/-! ## Parts of numbers -/

/-- The digits of an integer: a single zero, or digits that do not begin with one. -/
def WholeDigits (digits : List Char) : Prop :=
  digits = ['0'] ∨ ∃ c rest, digits = c :: rest ∧ c ≠ '0' ∧
    ∀ d ∈ digits, Text.isAsciiDigit d = true

theorem wholeDigits_cons {c : Char} {rest : List Char} (hc : c ≠ '0')
    (h : IsDigits (c :: rest)) : WholeDigits (c :: rest) :=
  .inr ⟨c, rest, rfl, hc, h.all⟩

theorem exists_of_wholeDigits {digits : List Char} (h : WholeDigits digits) :
    ∃ c rest, digits = c :: rest ∧ Text.isAsciiDigit c = true := by
  rcases h with rfl | ⟨c, rest, rfl, _, hall⟩
  · exact ⟨'0', [], rfl, by decide⟩
  · exact ⟨c, rest, rfl, hall c List.mem_cons_self⟩

def signed (negative : Bool) (digits : List Char) : Int :=
  if negative then -(Text.digitsToNat digits : Int) else Text.digitsToNat digits

def signedText (negative : Bool) (digits : List Char) : List Char :=
  if negative then '-' :: digits else digits

inductive SignSpelling : Bool → List Char → Prop where
  | absent : SignSpelling false []
  | plus : SignSpelling false ['+']
  | minus : SignSpelling true ['-']

inductive ExponentSpelling : Int → List Char → Prop where
  | mk {mark : Char} {negative : Bool} {sign digits : List Char}
      (hmark : mark = 'e' ∨ mark = 'E') (hsign : SignSpelling negative sign)
      (hdigits : IsDigits digits) :
      ExponentSpelling (signed negative digits) (mark :: sign ++ digits)

/-- What comes after the whole part of a number: digits, an exponent, or both. -/
inductive TailSpelling : List Char → Int → List Char → Prop where
  | fraction {digits : List Char} (hdigits : IsDigits digits) :
      TailSpelling digits 0 ('.' :: digits)
  | exponent {n : Int} {text : List Char} (hexponent : ExponentSpelling n text) :
      TailSpelling [] n text
  | both {n : Int} {digits text : List Char} (hdigits : IsDigits digits)
      (hexponent : ExponentSpelling n text) : TailSpelling digits n ('.' :: digits ++ text)

/-- The texts of a number that is not written as an integer. -/
inductive RealSpelling : Decimal → List Char → Prop where
  | mk (negative : Bool) {whole fraction tail : List Char} {exponent : Int}
      (hwhole : WholeDigits whole) (htail : TailSpelling fraction exponent tail) :
      RealSpelling
        ⟨negative, Text.digitsToNat (whole ++ fraction), exponent - fraction.length⟩
        (signedText negative whole ++ tail)

/-! ## Reading numbers -/

theorem readSign_signedText (negative : Bool) {digits : List Char} (h : WholeDigits digits)
    (rest : List Char) :
    readSign (signedText negative digits ++ rest) = (negative, digits ++ rest) := by
  cases negative with
  | true => rfl
  | false =>
      obtain ⟨c, others, rfl, hc⟩ := exists_of_wholeDigits h
      have hne : c ≠ '-' := ne_of_isAsciiDigit hc (by decide)
      simp only [signedText, Bool.false_eq_true, if_false, List.cons_append]
      rw [readSign]
      intro _ hequal
      exact hne (List.cons.inj hequal).1

theorem readWhole_of_digits {digits rest : List Char} (hdigits : WholeDigits digits)
    (hrest : EndsDigits rest) : readWhole (digits ++ rest) = some (digits, rest) := by
  rcases hdigits with rfl | ⟨c, others, rfl, hzero, hall⟩
  · rfl
  · obtain ⟨htake, hdrop⟩ := takeWhile_digits hall hrest
    rw [List.cons_append] at htake hdrop ⊢
    rw [readWhole, htake, hdrop]
    · rfl
    · intro _ hequal
      exact hzero (List.cons.inj hequal).1

theorem not_digit_of_closes {c : Char} {rest : List Char} (h : Closes (c :: rest)) :
    Text.isAsciiDigit c = false ∧ c ≠ '.' ∧ c ≠ 'e' ∧ c ≠ 'E' := by
  rcases h c rfl with hspace | rfl | rfl | rfl
  · simp only [isSpace, Bool.or_eq_true, beq_iff_eq] at hspace
    rcases hspace with ((rfl | rfl) | rfl) | rfl <;> decide
  all_goals decide

theorem Closes.endsDigits {rest : List Char} (h : Closes rest) : EndsDigits rest := by
  cases rest with
  | nil =>
      intro c hc
      contradiction
  | cons c others => exact endsDigits_cons (not_digit_of_closes h).1 others

theorem readFraction_of_ne {rest : List Char} (h : rest.head? ≠ some '.') :
    readFraction rest = none := by
  unfold readFraction
  split
  · exact absurd rfl h
  · rfl

theorem readFraction_of_closes {rest : List Char} (h : Closes rest) :
    readFraction rest = none := by
  refine readFraction_of_ne fun hpoint => ?_
  cases rest with
  | nil => contradiction
  | cons c others => exact (not_digit_of_closes h).2.1 (Option.some.inj hpoint)

theorem readExponent_of_closes {rest : List Char} (h : Closes rest) :
    readExponent rest = none := by
  cases rest with
  | nil => rfl
  | cons c others =>
      obtain ⟨_, _, hsmall, hcapital⟩ := not_digit_of_closes h
      simp [readExponent, hsmall, hcapital]

theorem readFraction_of_digits {digits rest : List Char} (hdigits : IsDigits digits)
    (hrest : EndsDigits rest) :
    readFraction ('.' :: digits ++ rest) = some (digits, rest) := by
  obtain ⟨htake, hdrop⟩ := takeWhile_digits hdigits.all hrest
  have hempty : digits.isEmpty = false := by simpa using hdigits.ne_nil
  simp [readFraction, htake, hdrop, hempty]

theorem readExponentSign_of_sign {negative : Bool} {sign digits : List Char}
    (hsign : SignSpelling negative sign) (hdigits : IsDigits digits) (rest : List Char) :
    readExponentSign (sign ++ (digits ++ rest)) = (negative, digits ++ rest) := by
  cases hsign with
  | plus => rfl
  | minus => rfl
  | absent =>
      obtain ⟨c, others, rfl⟩ := List.exists_cons_of_ne_nil hdigits.ne_nil
      have hdigit := hdigits.all c List.mem_cons_self
      have hplus : c ≠ '+' := ne_of_isAsciiDigit hdigit (by decide)
      have hminus : c ≠ '-' := ne_of_isAsciiDigit hdigit (by decide)
      simp only [List.nil_append, List.cons_append]
      rw [readExponentSign] <;> simp_all

theorem readExponent_of_spelling {n : Int} {text rest : List Char}
    (h : ExponentSpelling n text) (hrest : EndsDigits rest) :
    readExponent (text ++ rest) = some (n, rest) := by
  cases h with
  | @mk mark negative sign digits hmark hsign hdigits =>
      obtain ⟨htake, hdrop⟩ := takeWhile_digits hdigits.all hrest
      have hempty : digits.isEmpty = false := by simpa using hdigits.ne_nil
      have hletter : (mark == 'e' || mark == 'E') = true := by simpa using hmark
      simp only [List.cons_append, List.append_assoc, readExponent, hletter, if_true,
        readExponentSign_of_sign hsign hdigits, htake, hdrop, hempty, Bool.false_eq_true,
        if_false, signed]

theorem ExponentSpelling.head {n : Int} {text : List Char} (h : ExponentSpelling n text)
    (rest : List Char) :
    EndsDigits (text ++ rest) ∧ (text ++ rest).head? ≠ some '.' := by
  cases h with
  | mk hmark _ _ =>
      rcases hmark with rfl | rfl <;>
        exact ⟨endsDigits_cons (by decide) _, by simp⟩

theorem readNumber_signedText (negative : Bool) {digits rest : List Char}
    (hdigits : WholeDigits digits) (hrest : Closes rest) :
    readNumber (signedText negative digits ++ rest) =
      if mostIntegerDigits < digits.length then
        failAt (.longInteger digits.length) (signedText negative digits ++ rest)
      else .ok (.int (signed negative digits), rest) := by
  unfold readNumber
  simp only [readSign_signedText negative hdigits, readWhole_of_digits hdigits hrest.endsDigits,
    readFraction_of_closes hrest, readExponent_of_closes hrest, Option.map_none,
    Option.getD_none]
  rfl

theorem readNumber_of_real {decimal : Decimal} {text rest : List Char}
    (h : RealSpelling decimal text) (hrest : Closes rest) :
    readNumber (text ++ rest) = .ok (.real (.decimal decimal), rest) := by
  cases h with
  | @mk negative whole fraction tail exponent hwhole htail =>
      unfold readNumber
      rw [List.append_assoc, readSign_signedText negative hwhole]
      cases htail with
      | fraction hdigits =>
          have hends := endsDigits_cons (c := '.') (by decide) (fraction ++ rest)
          simp only [List.cons_append, readWhole_of_digits hwhole hends]
          have hfraction := readFraction_of_digits hdigits hrest.endsDigits
          rw [List.cons_append] at hfraction
          simp [hfraction, readExponent_of_closes hrest]
      | exponent hexponent =>
          obtain ⟨hends, hpoint⟩ := hexponent.head rest
          simp [readWhole_of_digits hwhole hends, readFraction_of_ne hpoint,
            readExponent_of_spelling hexponent hrest.endsDigits]
      | @both _ _ text hdigits hexponent =>
          have hends := endsDigits_cons (c := '.') (by decide) (fraction ++ (text ++ rest))
          have hfraction := readFraction_of_digits hdigits (hexponent.head rest).1
          rw [List.cons_append] at hfraction
          simp [readWhole_of_digits hwhole hends, hfraction,
            readExponent_of_spelling hexponent hrest.endsDigits]

/-! ## Long integers -/

def IsShort (n : Int) : Prop :=
  n.natAbs < 10 ^ mostIntegerDigits

theorem digitsToNat_cons (c : Char) (digits : List Char) :
    Text.digitsToNat (c :: digits) =
      10 ^ digits.length * (c.toNat - '0'.toNat) + Text.digitsToNat digits := by
  have h : Nat.ofDigitChars 10 digits (c.toNat - '0'.toNat) =
      10 ^ digits.length * (c.toNat - '0'.toNat) + Nat.ofDigitChars 10 digits 0 :=
    Nat.ofDigitChars_eq_ofDigitChars_zero
  rw [Nat.ofDigitChars_eq_foldl, Nat.ofDigitChars_eq_foldl] at h
  simpa [Text.digitsToNat] using h

theorem digitsToNat_lt {digits : List Char} (h : ∀ d ∈ digits, Text.isAsciiDigit d = true) :
    Text.digitsToNat digits < 10 ^ digits.length := by
  induction digits with
  | nil => decide
  | cons c others ih =>
      obtain ⟨hc, hothers⟩ := List.forall_mem_cons.1 h
      have hbounds := isAsciiDigit_iff.1 hc
      have hdigit : c.toNat - '0'.toNat ≤ 9 := by
        have hzero : '0'.toNat = 0x30 := rfl
        omega
      have hscaled := Nat.mul_le_mul_left (10 ^ others.length) hdigit
      have hrest := ih hothers
      rw [digitsToNat_cons, List.length_cons, Nat.pow_succ]
      omega

/-- The number of digits of an integer tells how large it is. -/
theorem digitsToNat_lt_iff {digits : List Char} (h : WholeDigits digits) {count : Nat}
    (hcount : 0 < count) : Text.digitsToNat digits < 10 ^ count ↔ digits.length ≤ count := by
  rcases h with rfl | ⟨c, others, rfl, hzero, hall⟩
  · exact ⟨fun _ => hcount, fun _ => Nat.pow_pos (by decide)⟩
  · constructor
    · intro hless
      refine Nat.not_lt.1 fun hlong => ?_
      have hbounds := isAsciiDigit_iff.1 (hall c List.mem_cons_self)
      have hne : c.toNat ≠ '0'.toNat := fun hequal => hzero (Char.toNat_inj.1 hequal)
      have hdigit : 1 ≤ c.toNat - '0'.toNat := by
        have hvalue : '0'.toNat = 0x30 := rfl
        omega
      have hscaled := Nat.mul_le_mul_left (10 ^ others.length) hdigit
      have hpower : 10 ^ count ≤ 10 ^ others.length :=
        Nat.pow_le_pow_right (by decide) (Nat.lt_succ_iff.1 hlong)
      rw [digitsToNat_cons] at hless
      omega
    · intro hlength
      exact Nat.lt_of_lt_of_le (digitsToNat_lt hall) (Nat.pow_le_pow_right (by decide) hlength)

theorem isShort_signed_iff (negative : Bool) {digits : List Char} (h : WholeDigits digits) :
    IsShort (signed negative digits) ↔ digits.length ≤ mostIntegerDigits := by
  have habs : (signed negative digits).natAbs = Text.digitsToNat digits := by
    cases negative <;> simp [signed]
  rw [IsShort, habs]
  exact digitsToNat_lt_iff h (by decide)

def longDigits : List Char := List.replicate 4301 '1'

theorem wholeDigits_longDigits : WholeDigits longDigits := by
  refine .inr ⟨'1', List.replicate 4300 '1', rfl, by decide, ?_⟩
  intro d hd
  rw [List.eq_of_mem_replicate hd]
  decide

theorem lt_length_longDigits : mostIntegerDigits < longDigits.length := by
  rw [longDigits, List.length_replicate]
  decide

end QueryBindings.Json
