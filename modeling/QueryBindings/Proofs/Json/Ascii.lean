import QueryBindings.Proofs.Json.Printed
import QueryBindings.Proofs.Text.Utf8

/-!
# Printed values are ASCII

Characters beyond ASCII are printed as escapes, so whatever a value says, its
printed text has a byte for each character and no byte of 128 or more.
-/

namespace QueryBindings.Json

def IsAscii (cs : List Char) : Prop :=
  ∀ c ∈ cs, c.toNat < 0x80

theorem isAscii_nil : IsAscii [] := by
  simp [IsAscii]

theorem isAscii_cons {c : Char} {cs : List Char} (hc : c.toNat < 0x80) (hcs : IsAscii cs) :
    IsAscii (c :: cs) :=
  List.forall_mem_cons.2 ⟨hc, hcs⟩

theorem IsAscii.append {first second : List Char} (hfirst : IsAscii first)
    (hsecond : IsAscii second) : IsAscii (first ++ second) :=
  List.forall_mem_append.2 ⟨hfirst, hsecond⟩

theorem toNat_hexDigit {n : Nat} (h : n < 16) : (Text.hexDigit n).toNat < 0x80 := by
  have hall : ∀ n : Fin 16, (Text.hexDigit n).toNat < 0x80 := by decide
  exact hall ⟨n, h⟩

theorem isAscii_unitEscape (n : Nat) : IsAscii (unitEscape n) := by
  have hdigit (m : Nat) : (Text.hexDigit (m % 16)).toNat < 0x80 :=
    toNat_hexDigit (Nat.mod_lt m (by decide))
  rw [unitEscape_eq]
  simp [IsAscii, hdigit]

theorem isAscii_escape {c : Char} (h : c.toNat < 0x80) : IsAscii ['\\', c] :=
  isAscii_cons (by decide) (isAscii_cons h isAscii_nil)

theorem isAscii_printPoint (point : CodePoint) : IsAscii (printPoint point) := by
  cases point with
  | surrogate n => exact isAscii_unitEscape n
  | scalar c =>
      simp only [printPoint]
      split
      next hmeant =>
        have hc : c = '"' ∨ c = '\\' := by simpa using hmeant
        rcases hc with rfl | rfl <;> exact isAscii_escape (by decide)
      split
      · exact isAscii_escape (by decide)
      split
      · exact isAscii_escape (by decide)
      split
      · exact isAscii_escape (by decide)
      split
      · exact isAscii_escape (by decide)
      split
      · exact isAscii_escape (by decide)
      split
      next hplain =>
        simp only [Bool.and_eq_true, decide_eq_true_eq] at hplain
        have hle : c.toNat ≤ '~'.toNat := hplain.2
        have htilde : '~'.toNat < 0x80 := by decide
        exact isAscii_cons (by omega) isAscii_nil
      split
      · exact isAscii_unitEscape _
      · exact (isAscii_unitEscape _).append (isAscii_unitEscape _)

theorem isAscii_printString (s : JsonString) : IsAscii (printString s) := by
  have hpoints : IsAscii (s.flatMap printPoint) := by
    intro c hc
    obtain ⟨point, _, hmem⟩ := List.mem_flatMap.1 hc
    exact isAscii_printPoint point c hmem
  exact (isAscii_cons (by decide) hpoints).append (isAscii_cons (by decide) isAscii_nil)

theorem isAscii_toDigits (n : Nat) : IsAscii (Nat.toDigits 10 n) := by
  intro c hc
  have hdigit := Nat.isDigit_of_mem_toDigits (by decide) (by decide) hc
  rw [Char.isDigit_iff_toNat] at hdigit
  have hnine : '9'.toNat < 0x80 := by decide
  omega

theorem isAscii_toString (n : Int) : IsAscii (toString n).toList := by
  rw [Int.toString_eq_repr, Int.repr_eq_if]
  split
  · rw [Nat.toList_repr]
    exact isAscii_toDigits _
  · rw [String.toList_append, Nat.toList_repr]
    exact isAscii_cons (by decide) (isAscii_toDigits _)

theorem isAscii_newLine (depth : Nat) : IsAscii (newLine depth) := by
  refine isAscii_cons (by decide) fun c hc => ?_
  rw [List.eq_of_mem_replicate hc]
  decide

theorem isAscii_separator (depth : Nat) (last : Bool) :
    IsAscii (if last then [] else ',' :: newLine depth) := by
  cases last with
  | true => exact isAscii_nil
  | false => exact isAscii_cons (by decide) (isAscii_newLine depth)

theorem isAscii_printItems {depth : Nat} {items : List Value}
    (h : ∀ item ∈ items, IsAscii (printValue depth item)) : IsAscii (printItems depth items) := by
  induction items with
  | nil => exact isAscii_nil
  | cons item rest ih =>
      obtain ⟨hitem, hrest⟩ := List.forall_mem_cons.1 h
      rw [printItems]
      exact (hitem.append (isAscii_separator depth rest.isEmpty)).append (ih hrest)

theorem isAscii_printMembers {depth : Nat} {members : Members}
    (h : ∀ member ∈ members, IsAscii (printValue depth member.2)) :
    IsAscii (printMembers depth members) := by
  induction members with
  | nil => exact isAscii_nil
  | cons member rest ih =>
      obtain ⟨hmember, hrest⟩ := List.forall_mem_cons.1 h
      have hfirst : IsAscii (printMember depth member) := by
        rw [printMember_eq]
        exact (isAscii_printString member.1).append
          (isAscii_cons (by decide) (isAscii_cons (by decide) hmember))
      rw [printMembers]
      exact (hfirst.append (isAscii_separator depth rest.isEmpty)).append (ih hrest)

theorem isAscii_enclosed {opening closing : Char} {content : List Char} (depth : Nat)
    (hopening : opening.toNat < 0x80) (hcontent : IsAscii content)
    (hclosing : closing.toNat < 0x80) :
    IsAscii (opening :: newLine (depth + 1) ++ content ++ newLine depth ++ [closing]) :=
  (((isAscii_cons hopening (isAscii_newLine _)).append hcontent).append
    (isAscii_newLine depth)).append (isAscii_cons hclosing isAscii_nil)

theorem Printable.isAscii {levels : Nat} {value : Value} (h : Printable levels value)
    (depth : Nat) :
    IsAscii (printValue depth value) := by
  induction h generalizing depth with
  | null => simp [IsAscii, printValue]
  | bool b => cases b <;> simp [IsAscii, printValue]
  | @int _ n _ => exact isAscii_toString n
  | text cs => exact isAscii_printString _
  | @array _ items _ ih =>
      have hitems := isAscii_printItems fun item hitem => ih item hitem (depth + 1)
      rw [printValue]
      split
      · exact isAscii_cons (by decide) (isAscii_cons (by decide) isAscii_nil)
      · exact isAscii_enclosed depth (by decide) hitems (by decide)
  | @object _ members _ _ _ ih =>
      have hmembers := isAscii_printMembers fun member hmember => ih member hmember (depth + 1)
      rw [printValue]
      split
      · exact isAscii_cons (by decide) (isAscii_cons (by decide) isAscii_nil)
      · exact isAscii_enclosed depth (by decide) hmembers (by decide)

end QueryBindings.Json
