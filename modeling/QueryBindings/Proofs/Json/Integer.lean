import QueryBindings.Json.Integer
import QueryBindings.Proofs.Json.Number

/-!
# Decimal texts of integers

Where a text stands for an integer, it may be written with a sign of either kind or none,
and with zeros in front.
-/

namespace QueryBindings.Json

inductive IntegerSpelling : Int → List Char → Prop where
  | mk {negative : Bool} {sign digits : List Char} (hsign : SignSpelling negative sign)
      (hdigits : IsDigits digits) : IntegerSpelling (signed negative digits) (sign ++ digits)

/-- A character that a reader of integers takes as it is. -/
structure IsTakenAsIs (c : Char) : Prop where
  blank : c ≠ ' '
  underscore : c ≠ '_'
  space : isNumberSpace c = false
  digit : asciiDigit c = c

theorem isTakenAsIs_digit {c : Char} (h : Text.isAsciiDigit c = true) : IsTakenAsIs c := by
  have hbounds := isAsciiDigit_iff.1 h
  have hall : ∀ n : Fin 10, Char.ofNat (0x30 + n) ≠ ' ' ∧ Char.ofNat (0x30 + n) ≠ '_' ∧
      isNumberSpace (Char.ofNat (0x30 + n)) = false ∧
      asciiDigit (Char.ofNat (0x30 + n)) = Char.ofNat (0x30 + n) := by decide
  have hc := hall ⟨c.toNat - 0x30, by omega⟩
  rw [show 0x30 + (c.toNat - 0x30) = c.toNat by omega, Char.ofNat_toNat] at hc
  exact ⟨hc.1, hc.2.1, hc.2.2.1, hc.2.2.2⟩

theorem isTakenAsIs_of_spelling {n : Int} {text : List Char} (h : IntegerSpelling n text) :
    ∀ c ∈ text, IsTakenAsIs c := by
  cases h with
  | mk hsign hdigits =>
      refine List.forall_mem_append.2 ⟨?_, fun c hc => isTakenAsIs_digit (hdigits.all c hc)⟩
      cases hsign with
      | absent => simp
      | plus => exact List.forall_mem_singleton.2 ⟨by decide, by decide, by decide, by decide⟩
      | minus => exact List.forall_mem_singleton.2 ⟨by decide, by decide, by decide, by decide⟩

theorem dropWhile_eq_self {p : Char → Bool} {text : List Char} (h : ∀ c ∈ text, p c = false) :
    text.dropWhile p = text := by
  cases text with
  | nil => rfl
  | cons c rest => simp [h c List.mem_cons_self]

theorem underscoresFit_of_none {before : Char} {text : List Char} (hbefore : before ≠ '_')
    (h : ∀ c ∈ text, c ≠ '_') : underscoresFit before text = true := by
  induction text generalizing before with
  | nil => simp [underscoresFit, hbefore]
  | cons c rest ih =>
      obtain ⟨hc, hrest⟩ := List.forall_mem_cons.1 h
      simp [underscoresFit, hbefore, hc, ih hc hrest]

theorem unsignedInteger?_of_digits (negative : Bool) {digits : List Char}
    (h : IsDigits digits) : unsignedInteger? negative digits = some (signed negative digits) := by
  have hempty : digits.isEmpty = false := by simpa using h.ne_nil
  have hall : digits.all Text.isAsciiDigit = true := List.all_eq_true.2 h.all
  simp only [unsignedInteger?, hempty, hall]
  rfl

theorem integerOfText?_of_spelling {n : Int} {text : List Char} (h : IntegerSpelling n text) :
    integerOfText? text = some n := by
  have hall := isTakenAsIs_of_spelling h
  have hblank : text.contains ' ' = false := by
    simpa using fun hmem => (hall ' ' hmem).blank rfl
  have hinner :
      ((text.dropWhile isNumberSpace).reverse.dropWhile isNumberSpace).reverse = text := by
    rw [dropWhile_eq_self fun c hc => (hall c hc).space,
      dropWhile_eq_self fun c hc => (hall c (List.mem_reverse.1 hc)).space, List.reverse_reverse]
  have hascii : text.map asciiDigit = text := by
    rw [List.map_congr_left fun c hc => (hall c hc).digit, List.map_id']
  have hfit : underscoresFit ' ' text = true :=
    underscoresFit_of_none (by decide) fun c hc => (hall c hc).underscore
  have hkept : text.filter (· != '_') = text :=
    List.filter_eq_self.2 fun c hc => by simpa using (hall c hc).underscore
  unfold integerOfText?
  simp only [hblank, Bool.false_eq_true, if_false, hinner, hascii, hfit, if_true, hkept]
  cases h with
  | mk hsign hdigits =>
      cases hsign with
      | plus => exact unsignedInteger?_of_digits false hdigits
      | minus => exact unsignedInteger?_of_digits true hdigits
      | absent =>
          obtain ⟨c, rest, rfl⟩ := List.exists_cons_of_ne_nil hdigits.ne_nil
          have hdigit := hdigits.all c List.mem_cons_self
          have hminus : c ≠ '-' := ne_of_isAsciiDigit hdigit (by decide)
          have hplus : c ≠ '+' := ne_of_isAsciiDigit hdigit (by decide)
          rw [List.nil_append]
          split
          · next heq => exact absurd (List.cons.inj heq).1 hminus
          · next heq => exact absurd (List.cons.inj heq).1 hplus
          · exact unsignedInteger?_of_digits false hdigits

example : integerOfText? "-007".toList = some (-7) := by decide

end QueryBindings.Json
