import Mathlib.Data.List.Forall2
import QueryBindings.Proofs.Text.Utf8
import QueryBindings.Text.Base64

/-!
# Base64 back and forth

Bytes written in base64 read back.  Written digits are never skipped, so groups
fill up four digits at a time; what is left open at the end is closed by the
padding, and padding after full groups means nothing.  The digits may be those of
the second alphabet, and the padding may be left out.
-/

namespace QueryBindings.Base64

open Text (Bytes ofNat_toNat_of_eq)

theorem value?_digit {n : Nat} (h : n < 64) : value? (digit n) = some n := by
  have hall : ∀ n : Fin 64, value? (digit n) = some n.val := by decide
  exact hall ⟨n, h⟩

theorem digit_ne_padding {n : Nat} (h : n < 64) : digit n ≠ '=' := by
  intro hequal
  have hvalue := value?_digit h
  have hnone : value? '=' = none := by decide
  rw [hequal, hnone] at hvalue
  contradiction

theorem decodeFrom_digit {n : Nat} (h : n < 64) (group : Group) (padding : Nat)
    (rest : List Char) :
    decodeFrom group padding (digit n :: rest) =
      match group with
      | .empty => decodeFrom (.one n) 0 rest
      | .one a => decodeFrom (.two a n) 0 rest
      | .two a b => decodeFrom (.three a b n) 0 rest
      | .three a b c => (decodeFrom .empty 0 rest).map (groupBytes a b c n ++ ·) := by
  cases group <;> simp only [decodeFrom, if_neg (digit_ne_padding h), value?_digit h]

theorem decodeFrom_padding (count : Nat) :
    decodeFrom .empty 0 (List.replicate count '=') = some [] := by
  induction count with
  | zero => rfl
  | succ count ih => simpa [List.replicate_succ, decodeFrom, Group.size] using ih

theorem decodeFrom_two_padding (a b : Nat) (rest : List Char) :
    decodeFrom (.two a b) 0 ('=' :: '=' :: rest) = some (Group.two a b).bytes := by
  simp only [decodeFrom, Group.size]
  rfl

theorem decodeFrom_three_padding (a b c : Nat) (rest : List Char) :
    decodeFrom (.three a b c) 0 ('=' :: rest) = some (Group.three a b c).bytes := by
  simp only [decodeFrom, Group.size]
  rfl

theorem decodeFrom_encode (bytes : Bytes) (count : Nat) :
    decodeFrom .empty 0 (encode bytes ++ List.replicate count '=') = some bytes := by
  fun_induction encode bytes with
  | case1 => exact decodeFrom_padding count
  | case2 a =>
      have ha := a.toNat_lt
      have hfirst : UInt8.ofNat (4 * (a.toNat / 4) + a.toNat % 4 * 16 / 16) = a :=
        ofNat_toNat_of_eq _ (by omega)
      simp only [List.cons_append, decodeFrom_digit (show a.toNat / 4 < 64 by omega),
        decodeFrom_digit (show a.toNat % 4 * 16 < 64 by omega), decodeFrom_two_padding,
        Group.bytes, hfirst]
  | case3 a b =>
      have ha := a.toNat_lt
      have hb := b.toNat_lt
      have hfirst :
          UInt8.ofNat (4 * (a.toNat / 4) + (a.toNat % 4 * 16 + b.toNat / 16) / 16) = a :=
        ofNat_toNat_of_eq _ (by omega)
      have hsecond :
          UInt8.ofNat ((a.toNat % 4 * 16 + b.toNat / 16) % 16 * 16 + b.toNat % 16 * 4 / 4) = b :=
        ofNat_toNat_of_eq _ (by omega)
      simp only [List.cons_append, decodeFrom_digit (show a.toNat / 4 < 64 by omega),
        decodeFrom_digit (show a.toNat % 4 * 16 + b.toNat / 16 < 64 by omega),
        decodeFrom_digit (show b.toNat % 16 * 4 < 64 by omega), decodeFrom_three_padding,
        Group.bytes, hfirst, hsecond]
  | case4 a b c rest ih =>
      have ha := a.toNat_lt
      have hb := b.toNat_lt
      have hc := c.toNat_lt
      have hgroup :
          groupBytes (a.toNat / 4) (a.toNat % 4 * 16 + b.toNat / 16)
            (b.toNat % 16 * 4 + c.toNat / 64) (c.toNat % 64) = [a, b, c] := by
        unfold groupBytes
        rw [ofNat_toNat_of_eq a (by omega), ofNat_toNat_of_eq b (by omega),
          ofNat_toNat_of_eq c (by omega)]
      simp only [List.cons_append, decodeFrom_digit (show a.toNat / 4 < 64 by omega),
        decodeFrom_digit (show a.toNat % 4 * 16 + b.toNat / 16 < 64 by omega),
        decodeFrom_digit (show b.toNat % 16 * 4 + c.toNat / 64 < 64 by omega),
        decodeFrom_digit (show c.toNat % 64 < 64 by omega), ih, hgroup]
      rfl

theorem decode_encode (bytes : Bytes) : decode (String.ofList (encode bytes)) = some bytes := by
  unfold decode padding
  rw [String.toList_ofList]
  exact decodeFrom_encode bytes _

inductive SameDigit : Char → Char → Prop where
  | same (c : Char) : SameDigit c c
  | minus : SameDigit '-' '+'
  | underscore : SameDigit '_' '/'

theorem SameDigit.value?_eq {c d : Char} (h : SameDigit c d) :
    (c = '=' ↔ d = '=') ∧ value? c = value? d := by
  cases h with
  | same => exact ⟨Iff.rfl, rfl⟩
  | minus => decide
  | underscore => decide

/-- The texts that write bytes: digits of either alphabet, with padding or without. -/
def Spelling (bytes : Bytes) (text : List Char) : Prop :=
  ∃ count ≤ 2, List.Forall₂ SameDigit (text ++ List.replicate count '=') (encode bytes)

theorem decodeFrom_congr {first second : List Char} (h : List.Forall₂ SameDigit first second)
    (rest : List Char) (group : Group) (padding : Nat) :
    decodeFrom group padding (first ++ rest) = decodeFrom group padding (second ++ rest) := by
  induction h generalizing group padding with
  | nil => rfl
  | cons hdigit _ ih =>
      obtain ⟨hpadding, hvalue⟩ := hdigit.value?_eq
      cases group <;> simp only [List.cons_append, decodeFrom, hpadding, hvalue, ih]

theorem utf8ByteSize_ofList_of_size_one {cs : List Char} (h : ∀ c ∈ cs, c.utf8Size = 1) :
    (String.ofList cs).utf8ByteSize = cs.length := by
  induction cs with
  | nil => rfl
  | cons c rest ih =>
      obtain ⟨hc, hrest⟩ := List.forall_mem_cons.1 h
      rw [String.ofList_cons, String.utf8ByteSize_append, String.utf8ByteSize_singleton, hc,
        ih hrest, List.length_cons, Nat.add_comm]

theorem utf8Size_digit (n : Nat) : (digit n).utf8Size = 1 := by
  by_cases h : n < 64
  · have hall : ∀ n : Fin 64, (digit n).utf8Size = 1 := by decide
    exact hall ⟨n, h⟩
  · have hlast : digit n = '/' := by
      unfold digit
      rw [if_neg (by omega), if_neg (by omega), if_neg (by omega), if_neg (by omega)]
    rw [hlast]
    decide

theorem utf8Size_of_mem_encode (bytes : Bytes) : ∀ c ∈ encode bytes, c.utf8Size = 1 := by
  have hpadding : '='.utf8Size = 1 := by decide
  fun_induction encode bytes with
  | case1 => simp
  | case2 a => simp [utf8Size_digit, hpadding]
  | case3 a b => simp [utf8Size_digit, hpadding]
  | case4 a b c rest ih => simpa [utf8Size_digit] using ih

theorem length_encode_mod (bytes : Bytes) : (encode bytes).length % 4 = 0 := by
  fun_induction encode bytes with
  | case1 => rfl
  | case2 a => simp
  | case3 a b => simp
  | case4 a b c rest ih =>
      simp only [List.length_cons]
      omega

theorem SameDigit.utf8Size_eq {c d : Char} (h : SameDigit c d) : c.utf8Size = d.utf8Size := by
  cases h with
  | same => rfl
  | minus => decide
  | underscore => decide

theorem utf8Size_of_sameDigits {first second : List Char}
    (h : List.Forall₂ SameDigit first second) (hsecond : ∀ d ∈ second, d.utf8Size = 1) :
    ∀ c ∈ first, c.utf8Size = 1 := by
  induction h with
  | nil => simp
  | cons hdigit _ ih =>
      obtain ⟨hd, hrest⟩ := List.forall_mem_cons.1 hsecond
      exact List.forall_mem_cons.2 ⟨hdigit.utf8Size_eq.trans hd, ih hrest⟩

/-- Reading adds padding, even to a padded text; whatever is too much is skipped. -/
theorem decode_of_spelling {bytes : Bytes} {text : List Char} (h : Spelling bytes text) :
    decode (String.ofList text) = some bytes := by
  obtain ⟨count, hcount, hdigits⟩ := h
  have hlength := hdigits.length_eq
  rw [List.length_append, List.length_replicate] at hlength
  have hmod := length_encode_mod bytes
  have hsizes := utf8Size_of_sameDigits hdigits (utf8Size_of_mem_encode bytes)
  have hsize : (String.ofList text).utf8ByteSize = text.length :=
    utf8ByteSize_ofList_of_size_one fun c hc => hsizes c (List.mem_append_left _ hc)
  obtain ⟨more, hmore⟩ : ∃ more, 4 - text.length % 4 = count + more :=
    Nat.exists_eq_add_of_le (by omega)
  unfold decode padding
  rw [String.toList_ofList, hsize, hmore, List.replicate_add, ← List.append_assoc,
    decodeFrom_congr hdigits, decodeFrom_encode]

end QueryBindings.Base64
