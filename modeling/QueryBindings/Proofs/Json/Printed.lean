import Mathlib.Algebra.Group.Nat.Defs
import QueryBindings.Json.Printer
import QueryBindings.Proofs.Json.Spelling

/-!
# Printed values

The printed text of a value is one of its spellings, so a reader finds the value
in it.  The value must have a spelling at all: no surrogate without a partner, no
number that is not an integer, no integer too long or part too deep to be read, and
no key twice.
-/

namespace QueryBindings.Json

/-! ## Escapes -/

theorem hexValue?_hexDigit {n : Nat} (h : n < 16) : Text.hexValue? (Text.hexDigit n) = some n := by
  have hall : ∀ n : Fin 16, Text.hexValue? (Text.hexDigit n) = some n.val := by decide
  exact hall ⟨n, h⟩

theorem unitEscape_eq (n : Nat) :
    unitEscape n =
      ['\\', 'u', Text.hexDigit (n / 16 / 16 / 16 % 16), Text.hexDigit (n / 16 / 16 % 16),
        Text.hexDigit (n / 16 % 16), Text.hexDigit (n % 16)] := rfl

theorem pointSpelling_unitEscape {n : Nat} (h : n < 0x10000) :
    PointSpelling (codePoint n) (unitEscape n) := by
  rw [unitEscape_eq]
  refine .unit ?_
  have hvalue :
      ((n / 16 / 16 / 16 % 16 * 16 + n / 16 / 16 % 16) * 16 + n / 16 % 16) * 16 + n % 16 = n := by
    omega
  simp only [hexValue4?, hexValue?_hexDigit (Nat.mod_lt _ (by decide : 0 < 16)),
    Option.bind_eq_bind, Option.bind_some, hvalue]

/-! ## Characters -/

/-- The code points that are written for a character: a pair of surrogates for a high one. -/
def writtenPoints (c : Char) : List CodePoint :=
  if c.toNat < 0x10000 then [.scalar c]
  else
    [.surrogate (0xD800 + (c.toNat - 0x10000) / 0x400),
      .surrogate (0xDC00 + (c.toNat - 0x10000) % 0x400)]

theorem joinSurrogates_writtenPoints (c : Char) (rest : List CodePoint) :
    joinSurrogates (writtenPoints c ++ rest) = .scalar c :: joinSurrogates rest := by
  have hvalid : c.toNat < 0xD800 ∨ (0xDFFF < c.toNat ∧ c.toNat < 0x110000) := c.valid
  unfold writtenPoints
  by_cases hlow : c.toNat < 0x10000
  · rw [if_pos hlow, List.singleton_append, joinSurrogates]
    simp
  · have hhigh : isHighSurrogate (0xD800 + (c.toNat - 0x10000) / 0x400) = true := by
      simp only [isHighSurrogate, Bool.and_eq_true, decide_eq_true_eq]
      omega
    have hsecond : isLowSurrogate (0xDC00 + (c.toNat - 0x10000) % 0x400) = true := by
      simp only [isLowSurrogate, Bool.and_eq_true, decide_eq_true_eq]
      omega
    have hvalue :
        0x10000 + (0xD800 + (c.toNat - 0x10000) / 0x400 - 0xD800) * 0x400 +
          (0xDC00 + (c.toNat - 0x10000) % 0x400 - 0xDC00) = c.toNat := by omega
    rw [if_neg hlow, List.cons_append, List.singleton_append, joinSurrogates, hhigh, hsecond,
      hvalue, Char.ofNat_toNat]
    rfl

theorem pointsSpelling_singleton {point : CodePoint} {cs : List Char}
    (h : PointSpelling point cs) : PointsSpelling [point] cs := by
  simpa using PointsSpelling.cons h .nil

theorem codePoint_toNat (c : Char) : codePoint c.toNat = .scalar c := by
  have hvalid : c.toNat < 0xD800 ∨ (0xDFFF < c.toNat ∧ c.toNat < 0x110000) := c.valid
  have hsurrogate : (decide (0xD800 ≤ c.toNat) && decide (c.toNat ≤ 0xDFFF)) = false := by
    simp only [Bool.and_eq_false_iff, decide_eq_false_iff_not]
    omega
  simp [codePoint, hsurrogate]

theorem codePoint_of_surrogate {n : Nat} (hfirst : 0xD800 ≤ n) (hlast : n ≤ 0xDFFF) :
    codePoint n = .surrogate n := by
  simp [codePoint, hfirst, hlast]

theorem pointsSpelling_short {c escape : Char} (h : escapeChar? escape = some c)
    (hlow : c.toNat < 0x10000) : PointsSpelling (writtenPoints c) ['\\', escape] := by
  rw [writtenPoints, if_pos hlow]
  exact pointsSpelling_singleton (.short escape h)

theorem pointsSpelling_unitEscape {c : Char} (hlow : c.toNat < 0x10000) :
    PointsSpelling (writtenPoints c) (unitEscape c.toNat) := by
  have hunit := pointSpelling_unitEscape hlow
  rw [codePoint_toNat] at hunit
  rw [writtenPoints, if_pos hlow]
  exact pointsSpelling_singleton hunit

theorem pointsSpelling_unitEscapes {c : Char} (hhigh : ¬ c.toNat < 0x10000) :
    PointsSpelling (writtenPoints c)
      (unitEscape (0xD800 + (c.toNat - 0x10000) / 0x400) ++
        unitEscape (0xDC00 + (c.toNat - 0x10000) % 0x400)) := by
  have hvalid : c.toNat < 0xD800 ∨ (0xDFFF < c.toNat ∧ c.toNat < 0x110000) := c.valid
  have hfirst := pointSpelling_unitEscape
    (n := 0xD800 + (c.toNat - 0x10000) / 0x400) (by omega)
  have hsecond := pointSpelling_unitEscape
    (n := 0xDC00 + (c.toNat - 0x10000) % 0x400) (by omega)
  rw [codePoint_of_surrogate (by omega) (by omega)] at hfirst hsecond
  rw [writtenPoints, if_neg hhigh]
  exact .cons hfirst (pointsSpelling_singleton hsecond)

theorem pointsSpelling_printPoint (c : Char) :
    PointsSpelling (writtenPoints c) (printPoint (.scalar c)) := by
  simp only [printPoint]
  split
  next hmeant =>
    have hc : c = '"' ∨ c = '\\' := by simpa using hmeant
    rcases hc with rfl | rfl <;> exact pointsSpelling_short rfl (by decide)
  next hmeant =>
    obtain ⟨hquote, hslash⟩ : c ≠ '"' ∧ c ≠ '\\' := by simpa using hmeant
    split
    next h =>
      obtain rfl : c = '\n' := by simpa using h
      exact pointsSpelling_short rfl (by decide)
    split
    next h =>
      obtain rfl : c = '\r' := by simpa using h
      exact pointsSpelling_short rfl (by decide)
    split
    next h =>
      obtain rfl : c = '\t' := by simpa using h
      exact pointsSpelling_short rfl (by decide)
    split
    next h =>
      obtain rfl : c = '\x08' := by simpa using h
      exact pointsSpelling_short rfl (by decide)
    split
    next h =>
      obtain rfl : c = '\x0c' := by simpa using h
      exact pointsSpelling_short rfl (by decide)
    split
    next hplain =>
      simp only [Bool.and_eq_true, decide_eq_true_eq] at hplain
      have hlow : c.toNat < 0x10000 := by
        have hle : c.toNat ≤ '~'.toNat := hplain.2
        have htilde : '~'.toNat = 0x7E := rfl
        omega
      rw [writtenPoints, if_pos hlow]
      exact pointsSpelling_singleton (.plain hquote hslash (Char.not_lt.2 hplain.1))
    split
    next hlow => exact pointsSpelling_unitEscape hlow
    next hhigh => exact pointsSpelling_unitEscapes hhigh

theorem stringSpelling_printed (cs : List Char) :
    StringSpelling (cs.map .scalar) ((cs.map CodePoint.scalar).flatMap printPoint) := by
  refine ⟨cs.flatMap writtenPoints, ?_, ?_⟩
  · induction cs with
    | nil => exact .nil
    | cons c rest ih => exact (pointsSpelling_printPoint c).append ih
  · induction cs with
    | nil => simp [joinSurrogates]
    | cons c rest ih =>
        rw [List.flatMap_cons, joinSurrogates_writtenPoints, ih]
        rfl

/-! ## Integers -/

theorem digitsToNat_toDigits (n : Nat) : Text.digitsToNat (Nat.toDigits 10 n) = n := by
  have h := Nat.ofDigitChars_ten_toDigits (n := n)
  rwa [Nat.ofDigitChars_eq_foldl] at h

theorem exists_of_toDigits {n : Nat} (hn : 0 < n) :
    ∃ c rest, Nat.toDigits 10 n = c :: rest ∧ c ≠ '0' := by
  induction n using Nat.strongRecOn with
  | ind n ih =>
      by_cases hsmall : n < 10
      · rw [Nat.toDigits_of_lt_base hsmall]
        refine ⟨_, [], rfl, ?_⟩
        have hall : ∀ n : Fin 10, 0 < n.val → Nat.digitChar n.val ≠ '0' := by decide
        exact hall ⟨n, hsmall⟩ hn
      · obtain ⟨c, rest, hdigits, hc⟩ := ih (n / 10) (by omega) (by omega)
        rw [Nat.toDigits_of_base_le (by decide) (by omega), hdigits]
        exact ⟨c, _, rfl, hc⟩

theorem wholeDigits_toDigits (n : Nat) : WholeDigits (Nat.toDigits 10 n) := by
  by_cases hn : n = 0
  · subst hn
    exact .inl (Nat.toDigits_zero 10)
  · obtain ⟨c, rest, hdigits, hc⟩ := exists_of_toDigits (Nat.pos_of_ne_zero hn)
    refine .inr ⟨c, rest, hdigits, hc, ?_⟩
    intro d hd
    have hdigit := Nat.isDigit_of_mem_toDigits (by decide) (by decide) hd
    rw [Char.isDigit_iff_toNat] at hdigit
    exact isAsciiDigit_iff.2 hdigit

theorem spells_toString (n : Int) : Spells (.int n) (toString n).toList := by
  have hdigits := wholeDigits_toDigits n.natAbs
  rw [Int.toString_eq_repr, Int.repr_eq_if]
  by_cases hn : 0 ≤ n
  · have htext : n.toNat.repr.toList = signedText false (Nat.toDigits 10 n.natAbs) := by
      rw [Nat.toList_repr]
      have habs : n.toNat = n.natAbs := by omega
      rw [habs]
      rfl
    have hvalue : n = signed false (Nat.toDigits 10 n.natAbs) := by
      simp only [signed, Bool.false_eq_true, if_false, digitsToNat_toDigits]
      omega
    rw [if_pos hn, htext]
    have hspells := Spells.int false hdigits
    rwa [← hvalue] at hspells
  · have htext : ("-" ++ (-n).toNat.repr).toList = signedText true (Nat.toDigits 10 n.natAbs) := by
      have habs : (-n).toNat = n.natAbs := by omega
      rw [String.toList_append, Nat.toList_repr, habs]
      rfl
    have hvalue : n = signed true (Nat.toDigits 10 n.natAbs) := by
      simp only [signed, if_true, digitsToNat_toDigits]
      omega
    rw [if_neg hn, htext]
    have hspells := Spells.int true hdigits
    rwa [← hvalue] at hspells

/-! ## Values -/

/--
The values that have a spelling, as far as printing is concerned, with at most so many
levels of arrays and objects.
-/
inductive Printable : (levels : Nat) → Value → Prop where
  | null {levels : Nat} : Printable levels .null
  | bool {levels : Nat} (b : Bool) : Printable levels (.bool b)
  | int {levels : Nat} {n : Int} (h : IsShort n) : Printable levels (.int n)
  | text {levels : Nat} (cs : List Char) : Printable levels (.text (cs.map .scalar))
  | array {levels : Nat} {items : List Value} (h : ∀ item ∈ items, Printable levels item) :
      Printable (levels + 1) (.array items)
  | object {levels : Nat} {members : Members}
      (hnames : ∀ member ∈ members, ∃ cs : List Char, member.1 = cs.map .scalar)
      (hkeys : Members.repeated? [] members = none)
      (h : ∀ member ∈ members, Printable levels member.2) :
      Printable (levels + 1) (.object members)

theorem spaces_newLine (depth : Nat) : Spaces (newLine depth) := by
  intro c hc
  rcases List.mem_cons.1 hc with rfl | hc
  · decide
  · rw [List.eq_of_mem_replicate hc]
    decide

/-- The slots of printed items; the last one ends where its array does. -/
def printedSlots (depth : Nat) (close : List Char) : List Value → List Slot
  | [] => []
  | [item] => [⟨newLine depth, printValue depth item, close, item⟩]
  | item :: next :: rest =>
      ⟨newLine depth, printValue depth item, [], item⟩ :: printedSlots depth close (next :: rest)

section Slots

variable (depth : Nat) (close : List Char)

theorem map_value_printedSlots (items : List Value) :
    (printedSlots depth close items).map Slot.value = items := by
  fun_induction printedSlots depth close items with
  | case1 => rfl
  | case2 item => rfl
  | case3 item next rest ih => simp [ih]

theorem separated_printedSlots {items : List Value} (hitems : items ≠ []) :
    separated ']' ((printedSlots depth close items).map Slot.padded) =
      newLine depth ++ printItems depth items ++ close ++ [']'] := by
  fun_induction printedSlots depth close items with
  | case1 => contradiction
  | case2 item => simp [separated, Slot.padded, printItems]
  | case3 item next rest ih =>
      obtain ⟨slot, others, hslots⟩ : ∃ slot others,
          printedSlots depth close (next :: rest) = slot :: others := by
        cases rest <;> exact ⟨_, _, rfl⟩
      have htail := ih (by simp)
      rw [hslots] at htail ⊢
      simp only [List.map_cons, separated] at htail ⊢
      rw [htail]
      simp [Slot.padded, printItems]

theorem of_mem_printedSlots {close : List Char} (hclose : Spaces close) {items : List Value}
    {slot : Slot} (h : slot ∈ printedSlots depth close items) :
    slot.IsPadded ∧ slot.value ∈ items ∧ slot.text = printValue depth slot.value := by
  fun_induction printedSlots depth close items with
  | case1 => contradiction
  | case2 item =>
      rw [List.mem_singleton.1 h]
      exact ⟨⟨spaces_newLine depth, hclose⟩, by simp, rfl⟩
  | case3 item next rest ih =>
      rcases List.mem_cons.1 h with rfl | hrest
      · exact ⟨⟨spaces_newLine depth, spaces_nil⟩, by simp, rfl⟩
      · obtain ⟨hpadded, hmem, htext⟩ := ih hrest
        exact ⟨hpadded, List.mem_cons_of_mem item hmem, htext⟩

end Slots

def printedEntry (depth : Nat) (close : List Char) (member : JsonString × Value) : Entry :=
  ⟨newLine depth, member.1, member.1.flatMap printPoint, [],
    ⟨[' '], printValue depth member.2, close, member.2⟩⟩

def printedEntries (depth : Nat) (close : List Char) : Members → List Entry
  | [] => []
  | [member] => [printedEntry depth close member]
  | member :: next :: rest =>
      printedEntry depth [] member :: printedEntries depth close (next :: rest)

section Entries

variable (depth : Nat) (close : List Char)

theorem printMember_eq (member : JsonString × Value) :
    printMember depth member =
      printString member.1 ++ ':' :: ' ' :: printValue depth member.2 := by
  cases member
  rw [printMember]

theorem map_member_printedEntries (members : Members) :
    (printedEntries depth close members).map Entry.member = members := by
  fun_induction printedEntries depth close members with
  | case1 => rfl
  | case2 member => rfl
  | case3 member next rest ih =>
      rw [List.map_cons, ih]
      rfl

theorem separated_printedEntries {members : Members} (hmembers : members ≠ []) :
    separated '\x7d' ((printedEntries depth close members).map Entry.padded) =
      newLine depth ++ printMembers depth members ++ close ++ ['\x7d'] := by
  fun_induction printedEntries depth close members with
  | case1 => contradiction
  | case2 member =>
      simp [separated, printedEntry, Entry.padded, Slot.padded, printMembers,
        printMember_eq, printString]
  | case3 member next rest ih =>
      obtain ⟨entry, others, hentries⟩ : ∃ entry others,
          printedEntries depth close (next :: rest) = entry :: others := by
        cases rest <;> exact ⟨_, _, rfl⟩
      have htail := ih (by simp)
      rw [hentries] at htail ⊢
      simp only [List.map_cons, separated] at htail ⊢
      rw [htail]
      simp [printedEntry, Entry.padded, Slot.padded, printMembers, printMember_eq, printString]

theorem of_mem_printedEntries {close : List Char} (hclose : Spaces close) {members : Members}
    {entry : Entry} (h : entry ∈ printedEntries depth close members) :
    entry.IsPadded ∧ entry.member ∈ members ∧
      entry.name = entry.key.flatMap printPoint ∧
      entry.slot.text = printValue depth entry.slot.value := by
  have hspace : Spaces [' '] := by
    simp [Spaces, isSpace]
  fun_induction printedEntries depth close members with
  | case1 => contradiction
  | case2 member =>
      rw [List.mem_singleton.1 h]
      exact ⟨⟨spaces_newLine depth, spaces_nil, ⟨hspace, hclose⟩⟩, List.mem_cons_self, rfl, rfl⟩
  | case3 member next rest ih =>
      rcases List.mem_cons.1 h with rfl | hrest
      · exact ⟨⟨spaces_newLine depth, spaces_nil, ⟨hspace, spaces_nil⟩⟩, List.mem_cons_self,
          rfl, rfl⟩
      · obtain ⟨hpadded, hmem, hname, htext⟩ := ih hrest
        exact ⟨hpadded, List.mem_cons_of_mem member hmem, hname, htext⟩

end Entries

/-- The printed text of a value is a spelling of it, however deep it is indented. -/
theorem Printable.spells {levels : Nat} {value : Value} (h : Printable levels value)
    (depth : Nat) :
    Spells value (printValue depth value) := by
  induction h generalizing depth with
  | null => exact .word (by simp [wordValues, printValue])
  | bool b => cases b <;> exact .word (by simp [wordValues, printValue])
  | int _ => exact spells_toString _
  | text cs => exact .text (stringSpelling_printed cs)
  | @array _ items _ ih =>
      cases items with
      | nil => exact .emptyArray spaces_nil
      | cons item rest =>
          have hslots : printedSlots (depth + 1) (newLine depth) (item :: rest) ≠ [] := by
            cases rest <;> simp [printedSlots]
          have hspells : Spells _ _ := .array hslots
            (fun slot hslot => (of_mem_printedSlots _ (spaces_newLine depth) hslot).1)
            (fun slot hslot => by
              obtain ⟨_, hmem, htext⟩ := of_mem_printedSlots _ (spaces_newLine depth) hslot
              rw [htext]
              exact ih slot.value hmem (depth + 1))
          rw [map_value_printedSlots, separated_printedSlots _ _ (by simp)] at hspells
          simpa [printValue] using hspells
  | @object _ members hnames hkeys _ ih =>
      cases members with
      | nil => exact .emptyObject spaces_nil
      | cons member rest =>
          have hentries : printedEntries (depth + 1) (newLine depth) (member :: rest) ≠ [] := by
            cases rest <;> simp [printedEntries]
          have hspells : Spells _ _ := .object hentries
            (fun entry hentry => (of_mem_printedEntries _ (spaces_newLine depth) hentry).1)
            (fun entry hentry => by
              obtain ⟨_, hmem, hname, _⟩ :=
                of_mem_printedEntries _ (spaces_newLine depth) hentry
              obtain ⟨cs, hcs⟩ := hnames entry.member hmem
              have hkey : entry.key = cs.map .scalar := hcs
              rw [hname, hkey]
              exact stringSpelling_printed cs)
            (by rwa [map_member_printedEntries])
            (fun entry hentry => by
              obtain ⟨_, hmem, _, htext⟩ :=
                of_mem_printedEntries _ (spaces_newLine depth) hentry
              rw [htext]
              exact ih entry.member hmem (depth + 1))
          rw [map_member_printedEntries, separated_printedEntries _ _ (by simp)] at hspells
          simpa [printValue] using hspells

theorem Printable.fits {levels : Nat} {value : Value} (h : Printable levels value) :
    Fits levels value := by
  intro limit hexceeds
  induction h with
  | null => cases hexceeds
  | bool _ => cases hexceeds
  | int h => exact (exceeds_int.1 hexceeds).2 h
  | text _ => cases hexceeds
  | array _ ih =>
      obtain ⟨item, hitem, hexceedsItem⟩ := exceeds_array_succ.1 hexceeds
      exact ih item hitem hexceedsItem
  | object _ _ _ ih =>
      obtain ⟨member, hmember, hexceedsMember⟩ := exceeds_object_succ.1 hexceeds
      exact ih member hmember hexceedsMember

theorem readText_print {levels : Nat} {value : Value} (h : Printable levels value)
    (keys : RepeatedKeys) : readText keys (print value) levels = .ok value := by
  have hread := readText_of_spells keys spaces_nil (h.spells 0) h.fits spaces_nil
  rwa [List.nil_append, List.append_nil] at hread

end QueryBindings.Json
