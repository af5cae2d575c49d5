import Mathlib.Logic.Basic
import QueryBindings.Proofs.Json.Number

/-!
# Spellings of JSON values

The JSON texts that stand for a value, the words for numbers that are not finite
included.  White space is free between the parts of a text, and a character
of a string may be written plainly or as an escape.  A reader finds the value in every
one of its spellings, if it does not go beyond a limit.
-/

namespace QueryBindings.Json

/-! ## Strings -/

/-- The ways to write one code point between quotes. -/
inductive PointSpelling : CodePoint → List Char → Prop where
  | plain {c : Char} (hquote : c ≠ '"') (hescape : c ≠ '\\') (hcontrol : ¬ c < ' ') :
      PointSpelling (.scalar c) [c]
  | short (letter : Char) {c : Char} (h : escapeChar? letter = some c) :
      PointSpelling (.scalar c) ['\\', letter]
  | unit {a b c d : Char} {n : Nat} (h : hexValue4? a b c d = some n) :
      PointSpelling (codePoint n) ['\\', 'u', a, b, c, d]

inductive PointsSpelling : List CodePoint → List Char → Prop where
  | nil : PointsSpelling [] []
  | cons {point : CodePoint} {points : List CodePoint} {cs others : List Char}
      (hpoint : PointSpelling point cs) (hpoints : PointsSpelling points others) :
      PointsSpelling (point :: points) (cs ++ others)

theorem PointsSpelling.append {first second : List CodePoint} {cs others : List Char}
    (hfirst : PointsSpelling first cs) (hsecond : PointsSpelling second others) :
    PointsSpelling (first ++ second) (cs ++ others) := by
  induction hfirst with
  | nil => exact hsecond
  | cons hpoint _ ih =>
      rw [List.append_assoc]
      exact .cons hpoint ih

/-- Characters that need no escape. -/
def ArePlain (cs : List Char) : Prop :=
  ∀ c ∈ cs, c ≠ '"' ∧ c ≠ '\\' ∧ ¬ c < ' '

instance (cs : List Char) : Decidable (ArePlain cs) :=
  List.decidableBAll (fun c => c ≠ '"' ∧ c ≠ '\\' ∧ ¬ c < ' ') cs

theorem pointsSpelling_plain (cs : List Char) (h : ArePlain cs) :
    PointsSpelling (cs.map .scalar) cs := by
  induction cs with
  | nil => exact .nil
  | cons c rest ih =>
      obtain ⟨⟨hquote, hescape, hcontrol⟩, hrest⟩ := List.forall_mem_cons.1 h
      exact .cons (.plain hquote hescape hcontrol) (ih hrest)

/-- What stands between quotes for a string; a pair of surrogates stands for one character. -/
def StringSpelling (s : JsonString) (cs : List Char) : Prop :=
  ∃ points, PointsSpelling points cs ∧ joinSurrogates points = s

theorem joinSurrogates_scalars (cs : List Char) :
    joinSurrogates (cs.map .scalar) = cs.map .scalar := by
  induction cs with
  | nil => rw [List.map_nil, joinSurrogates]
  | cons c rest ih =>
      rw [List.map_cons, joinSurrogates, ih]
      simp

theorem stringSpelling_of_points (cs : List Char) {text : List Char}
    (h : PointsSpelling (cs.map .scalar) text) : StringSpelling (cs.map .scalar) text :=
  ⟨_, h, joinSurrogates_scalars cs⟩

theorem stringSpelling_plain (cs : List Char) (h : ArePlain cs) :
    StringSpelling (cs.map .scalar) cs :=
  stringSpelling_of_points cs (pointsSpelling_plain cs h)

theorem readPoints_of_pointSpelling {point : CodePoint} {cs : List Char}
    (h : PointSpelling point cs) (opening : Nat) {next : Char} (rest : List Char) :
    readPoints opening (cs ++ next :: rest) =
      consPoint point (readPoints opening (next :: rest)) := by
  cases h with
  | plain hquote hescape hcontrol =>
      rw [List.singleton_append, readPoints, if_neg hcontrol] <;> simp_all
  | @short letter c h =>
      have hletter : letter ≠ 'u' := by
        rintro rfl
        have hnone : escapeChar? 'u' = none := by decide
        rw [hnone] at h
        contradiction
      simp only [List.cons_append, List.nil_append]
      rw [readPoints] <;> simp_all
  | unit h =>
      simp only [List.cons_append, List.nil_append]
      rw [readPoints]
      simp only [h]

theorem readPoints_of_spelling {points : List CodePoint} {cs : List Char}
    (h : PointsSpelling points cs) (opening : Nat) (rest : List Char) :
    readPoints opening (cs ++ '"' :: rest) = .ok (points, rest) := by
  induction h with
  | nil => simp [readPoints]
  | @cons point points cs others hpoint _ ih =>
      obtain ⟨next, tail, htail⟩ : ∃ next tail, others ++ '"' :: rest = next :: tail :=
        List.exists_cons_of_ne_nil (by simp)
      rw [List.append_assoc, htail, readPoints_of_pointSpelling hpoint, ← htail, ih]
      rfl

theorem readString_of_spelling {s : JsonString} {cs : List Char} (h : StringSpelling s cs)
    (rest : List Char) : readString (cs ++ '"' :: rest) = .ok (s, rest) := by
  obtain ⟨points, hpoints, rfl⟩ := h
  unfold readString
  rw [readPoints_of_spelling hpoints]
  rfl

/-! ## Values -/

structure Slot where
  before : List Char
  text : List Char
  after : List Char
  value : Value

namespace Slot

def padded (slot : Slot) : List Char :=
  slot.before ++ slot.text ++ slot.after

structure IsPadded (slot : Slot) : Prop where
  before : Spaces slot.before
  after : Spaces slot.after

end Slot

structure Entry where
  /-- The white space before the key. -/
  before : List Char
  key : JsonString
  name : List Char
  between : List Char
  slot : Slot

namespace Entry

def padded (entry : Entry) : List Char :=
  entry.before ++ '"' :: entry.name ++ '"' :: entry.between ++ ':' :: entry.slot.padded

def member (entry : Entry) : JsonString × Value :=
  (entry.key, entry.slot.value)

structure IsPadded (entry : Entry) : Prop where
  before : Spaces entry.before
  between : Spaces entry.between
  slot : entry.slot.IsPadded

end Entry

/-- Parts with commas between them, up to a closing bracket. -/
def separated (closing : Char) : List (List Char) → List Char
  | [] => [closing]
  | [part] => part ++ [closing]
  | part :: next :: rest => part ++ ',' :: separated closing (next :: rest)

/-- The texts that stand for a value whose objects have each key once. -/
inductive Spells : Value → List Char → Prop where
  | word {word : List Char} {value : Value} (h : (word, value) ∈ wordValues) : Spells value word
  | int (negative : Bool) {digits : List Char} (hdigits : WholeDigits digits) :
      Spells (.int (signed negative digits)) (signedText negative digits)
  | real {decimal : Decimal} {text : List Char} (h : RealSpelling decimal text) :
      Spells (.real (.decimal decimal)) text
  | text {s : JsonString} {cs : List Char} (h : StringSpelling s cs) :
      Spells (.text s) ('"' :: cs ++ ['"'])
  | emptyArray {spaces : List Char} (h : Spaces spaces) :
      Spells (.array []) ('[' :: spaces ++ [']'])
  | array {slots : List Slot} (hslots : slots ≠ []) (hpadded : ∀ slot ∈ slots, slot.IsPadded)
      (h : ∀ slot ∈ slots, Spells slot.value slot.text) :
      Spells (.array (slots.map Slot.value)) ('[' :: separated ']' (slots.map Slot.padded))
  | emptyObject {spaces : List Char} (h : Spaces spaces) :
      Spells (.object []) ('\x7b' :: spaces ++ ['\x7d'])
  | object {entries : List Entry} (hentries : entries ≠ [])
      (hpadded : ∀ entry ∈ entries, entry.IsPadded)
      (hnames : ∀ entry ∈ entries, StringSpelling entry.key entry.name)
      (hkeys : Members.repeated? [] (entries.map Entry.member) = none)
      (h : ∀ entry ∈ entries, Spells entry.slot.value entry.slot.text) :
      Spells (.object (entries.map Entry.member))
        ('\x7b' :: separated '\x7d' (entries.map Entry.padded))

/--
A value goes beyond a limit of a reader: it has an integer that is too long to be read, or
an array or object with no level left for it.
-/
inductive Exceeds : Limit → (levels : Nat) → Value → Prop where
  | int {levels : Nat} {n : Int} (h : ¬ IsShort n) : Exceeds .digits levels (.int n)
  | array {items : List Value} : Exceeds .levels 0 (.array items)
  | object {members : Members} : Exceeds .levels 0 (.object members)
  | item {limit : Limit} {levels : Nat} {items : List Value} {item : Value}
      (hitem : item ∈ items) (h : Exceeds limit levels item) :
      Exceeds limit (levels + 1) (.array items)
  | member {limit : Limit} {levels : Nat} {members : Members} {member : JsonString × Value}
      (hmember : member ∈ members) (h : Exceeds limit levels member.2) :
      Exceeds limit (levels + 1) (.object members)

section Exceeds

variable {limit : Limit} {levels : Nat}

theorem exceeds_int {n : Int} :
    Exceeds limit levels (.int n) ↔ limit = .digits ∧ ¬ IsShort n := by
  constructor
  · intro h
    cases h with
    | int h => exact ⟨rfl, h⟩
  · rintro ⟨rfl, h⟩
    exact .int h

theorem exceeds_array_zero {items : List Value} :
    Exceeds limit 0 (.array items) ↔ limit = .levels := by
  constructor
  · intro h
    cases h with
    | array => rfl
  · rintro rfl
    exact .array

theorem exceeds_object_zero {members : Members} :
    Exceeds limit 0 (.object members) ↔ limit = .levels := by
  constructor
  · intro h
    cases h with
    | object => rfl
  · rintro rfl
    exact .object

theorem exceeds_array_succ {items : List Value} :
    Exceeds limit (levels + 1) (.array items) ↔ ∃ item ∈ items, Exceeds limit levels item := by
  constructor
  · intro h
    cases h with
    | item hitem h => exact ⟨_, hitem, h⟩
  · rintro ⟨_, hitem, h⟩
    exact .item hitem h

theorem exceeds_object_succ {members : Members} :
    Exceeds limit (levels + 1) (.object members) ↔
      ∃ member ∈ members, Exceeds limit levels member.2 := by
  constructor
  · intro h
    cases h with
    | member hmember h => exact ⟨_, hmember, h⟩
  · rintro ⟨_, hmember, h⟩
    exact .member hmember h

end Exceeds

/-- A value that no limit keeps a reader with so many levels left from reading. -/
def Fits (levels : Nat) (value : Value) : Prop :=
  ∀ limit, ¬ Exceeds limit levels value

theorem fits_int {levels : Nat} {n : Int} : Fits levels (.int n) ↔ IsShort n := by
  simp [Fits, exceeds_int]

theorem fits_real {levels : Nat} {r : Real} : Fits levels (.real r) := by
  intro limit h
  cases h

theorem fits_text {levels : Nat} {s : JsonString} : Fits levels (.text s) := by
  intro limit h
  cases h

theorem fits_word {levels : Nat} {word : List Char} {value : Value}
    (h : (word, value) ∈ wordValues) : Fits levels value := by
  intro limit hexceeds
  simp only [wordValues, List.mem_cons, Prod.mk.injEq, List.not_mem_nil, or_false] at h
  rcases h with ⟨_, rfl⟩ | ⟨_, rfl⟩ | ⟨_, rfl⟩ | ⟨_, rfl⟩ | ⟨_, rfl⟩ | ⟨_, rfl⟩ <;>
    cases hexceeds

theorem fits_array {levels : Nat} {items : List Value} :
    Fits levels (.array items) ↔ ∃ inner, levels = inner + 1 ∧ ∀ item ∈ items, Fits inner item := by
  cases levels with
  | zero => simp [Fits, exceeds_array_zero]
  | succ inner =>
      have hexceeds : Fits (inner + 1) (.array items) ↔ ∀ item ∈ items, Fits inner item := by
        simp only [Fits, exceeds_array_succ, not_exists, not_and]
        exact ⟨fun h item hitem limit => h limit item hitem,
          fun h limit item hitem => h item hitem limit⟩
      simpa using hexceeds

theorem fits_object {levels : Nat} {members : Members} :
    Fits levels (.object members) ↔
      ∃ inner, levels = inner + 1 ∧ ∀ member ∈ members, Fits inner member.2 := by
  cases levels with
  | zero => simp [Fits, exceeds_object_zero]
  | succ inner =>
      have hexceeds :
          Fits (inner + 1) (.object members) ↔ ∀ member ∈ members, Fits inner member.2 := by
        simp only [Fits, exceeds_object_succ, not_exists, not_and]
        exact ⟨fun h member hmember limit => h limit member hmember,
          fun h limit member hmember => h member hmember limit⟩
      simpa using hexceeds

theorem fits_slots {levels : Nat} {slots : List Slot} :
    Fits levels (.array (slots.map Slot.value)) ↔
      ∃ inner, levels = inner + 1 ∧ ∀ slot ∈ slots, Fits inner slot.value := by
  simp [fits_array]

theorem fits_entries {levels : Nat} {entries : List Entry} :
    Fits levels (.object (entries.map Entry.member)) ↔
      ∃ inner, levels = inner + 1 ∧ ∀ entry ∈ entries, Fits inner entry.slot.value := by
  simp [fits_object, Entry.member]

theorem not_fits_of_long_member {members : Members} {key : JsonString} {negative : Bool}
    {digits : List Char} (hdigits : WholeDigits digits)
    (hlong : mostIntegerDigits < digits.length)
    (hmember : (key, .int (signed negative digits)) ∈ members) (levels : Nat) :
    ¬ Fits levels (.object members) := by
  intro hfits
  obtain ⟨inner, _, hinner⟩ := fits_object.1 hfits
  have hshort := fits_int.1 (hinner _ hmember)
  rw [isShort_signed_iff negative hdigits] at hshort
  omega

def opensValue (c : Char) : Bool :=
  Text.isAsciiDigit c || ['n', 't', 'f', 'N', 'I', '-', '"', '[', '\x7b'].contains c

theorem opens_signedText (negative : Bool) {digits : List Char} (h : WholeDigits digits)
    (tail : List Char) :
    ∃ c rest, signedText negative digits ++ tail = c :: rest ∧ opensValue c = true := by
  obtain ⟨c, others, rfl, hc⟩ := exists_of_wholeDigits h
  cases negative with
  | true => exact ⟨'-', _, rfl, by decide⟩
  | false => exact ⟨c, _, rfl, by simp [opensValue, hc]⟩

theorem Spells.opens {value : Value} {text : List Char} (h : Spells value text) :
    ∃ c rest, text = c :: rest ∧ opensValue c = true := by
  cases h with
  | word h =>
      simp only [wordValues, List.mem_cons, Prod.mk.injEq, List.not_mem_nil, or_false] at h
      rcases h with ⟨rfl, _⟩ | ⟨rfl, _⟩ | ⟨rfl, _⟩ | ⟨rfl, _⟩ | ⟨rfl, _⟩ | ⟨rfl, _⟩ <;>
        exact ⟨_, _, rfl, by decide⟩
  | int negative hdigits =>
      simpa using opens_signedText negative hdigits []
  | real h =>
      cases h with
      | mk negative hwhole _ => exact opens_signedText negative hwhole _
  | text h => exact ⟨'"', _, rfl, by decide⟩
  | emptyArray h => exact ⟨'[', _, rfl, by decide⟩
  | array _ _ _ => exact ⟨'[', _, rfl, by decide⟩
  | emptyObject h => exact ⟨'\x7b', _, rfl, by decide⟩
  | object _ _ _ _ _ => exact ⟨'\x7b', _, rfl, by decide⟩

/-- No character is both the beginning of a value and one that a reader passes over there. -/
theorem of_opensValue {c : Char} (h : opensValue c = true) :
    isSpace c = false ∧ c ≠ ']' ∧ c ≠ '\uFEFF' := by
  simp only [opensValue, Bool.or_eq_true, List.contains_iff_mem, List.mem_cons,
    List.not_mem_nil, or_false] at h
  rcases h with hdigit | rfl | rfl | rfl | rfl | rfl | rfl | rfl | rfl | rfl
  · refine ⟨?_, ne_of_isAsciiDigit hdigit (by decide), ne_of_isAsciiDigit hdigit (by decide)⟩
    cases hspace : isSpace c with
    | false => rfl
    | true =>
        simp only [isSpace, Bool.or_eq_true, beq_iff_eq] at hspace
        rcases hspace with ((rfl | rfl) | rfl) | rfl <;> contradiction
  all_goals decide

/-! ## Reading values -/

theorem readScalar_word {word : List Char} {value : Value} (h : (word, value) ∈ wordValues)
    (rest : List Char) : readScalar (word ++ rest) = .ok (value, rest) := by
  simp only [wordValues, List.mem_cons, Prod.mk.injEq, List.not_mem_nil, or_false] at h
  rcases h with ⟨rfl, rfl⟩ | ⟨rfl, rfl⟩ | ⟨rfl, rfl⟩ | ⟨rfl, rfl⟩ | ⟨rfl, rfl⟩ | ⟨rfl, rfl⟩ <;> rfl

theorem readScalar_signedText (negative : Bool) {digits : List Char}
    (hdigits : WholeDigits digits) (rest : List Char) :
    readScalar (signedText negative digits ++ rest) =
      readNumber (signedText negative digits ++ rest) := by
  obtain ⟨c, others, rfl, hc⟩ := exists_of_wholeDigits hdigits
  have hne {d : Char} (hd : Text.isAsciiDigit d = false) : d ≠ c :=
    fun hequal => ne_of_isAsciiDigit hc hd hequal.symm
  have hword :
      wordValues.find?
          (fun word => word.1.isPrefixOf (signedText negative (c :: others) ++ rest)) =
        none := by
    have hn := hne (d := 'n') (by decide)
    have ht := hne (d := 't') (by decide)
    have hf := hne (d := 'f') (by decide)
    have hN := hne (d := 'N') (by decide)
    have hI := hne (d := 'I') (by decide)
    have hminus := hne (d := '-') (by decide)
    cases negative <;> simp [wordValues, signedText, hn, ht, hf, hN, hI, hminus]
  unfold readScalar
  rw [hword]

/-- What a reader makes of a spelling, given enough fuel. -/
def Reads (keys : RepeatedKeys) (levels : Nat) (value : Value) (text : List Char) : Prop :=
  ∀ fuel, text.length < fuel → ∀ rest, Closes rest →
    readValue keys fuel levels (text ++ rest) = .ok (value, rest)

theorem Slot.skipSpace_padded {slot : Slot} (hpadded : slot.IsPadded)
    (hspells : Spells slot.value slot.text) (rest : List Char) :
    skipSpace (slot.padded ++ rest) = slot.text ++ (slot.after ++ rest) := by
  obtain ⟨c, tail, htext, hc⟩ := hspells.opens
  unfold Slot.padded
  rw [htext, List.append_assoc, List.append_assoc, List.cons_append]
  exact skipSpace_append hpadded.before (of_opensValue hc).1 _

theorem Slot.readValue_padded {keys : RepeatedKeys} {levels : Nat} {slot : Slot}
    (hpadded : slot.IsPadded) (hreads : Reads keys levels slot.value slot.text) {fuel : Nat}
    (hfuel : slot.text.length < fuel)
    {c : Char} (hc : c = ',' ∨ c = ']' ∨ c = '\x7d') (rest : List Char) :
    readValue keys fuel levels (slot.text ++ (slot.after ++ c :: rest)) =
        .ok (slot.value, slot.after ++ c :: rest) ∧
      skipSpace (slot.after ++ c :: rest) = c :: rest := by
  refine ⟨hreads fuel hfuel _ (closes_append hpadded.after (closes_cons hc rest)), ?_⟩
  refine skipSpace_append hpadded.after ?_ rest
  rcases hc with rfl | rfl | rfl <;> decide

theorem Slot.text_length_le (slot : Slot) : slot.text.length ≤ slot.padded.length := by
  simp only [Slot.padded, List.length_append]
  omega

theorem Slot.readItems_last {keys : RepeatedKeys} {levels : Nat} {slot : Slot}
    (hpadded : slot.IsPadded) (hspells : Spells slot.value slot.text)
    (hreads : Reads keys levels slot.value slot.text) {fuel : Nat}
    (hfuel : slot.text.length < fuel) (rest : List Char) :
    readItems keys (fuel + 1) levels (skipSpace (slot.padded ++ ']' :: rest)) =
      .ok ([slot.value], rest) := by
  obtain ⟨hvalue, hskip⟩ := Slot.readValue_padded hpadded hreads hfuel (.inr (.inl rfl)) rest
  rw [Slot.skipSpace_padded hpadded hspells]
  simp only [readItems, hvalue, hskip]

theorem Slot.readItems_next {keys : RepeatedKeys} {levels : Nat} {slot : Slot}
    (hpadded : slot.IsPadded) (hspells : Spells slot.value slot.text)
    (hreads : Reads keys levels slot.value slot.text) {fuel : Nat}
    (hfuel : slot.text.length < fuel) (rest : List Char) :
    readItems keys (fuel + 1) levels (skipSpace (slot.padded ++ ',' :: rest)) =
      (readItems keys fuel levels (skipSpace rest)).map fun read =>
        (slot.value :: read.1, read.2) := by
  obtain ⟨hvalue, hskip⟩ := Slot.readValue_padded hpadded hreads hfuel (.inl rfl) rest
  rw [Slot.skipSpace_padded hpadded hspells]
  simp only [readItems, hvalue, hskip]

theorem readItems_of_slots {keys : RepeatedKeys} {levels : Nat} {slots : List Slot}
    (hslots : slots ≠ []) (hpadded : ∀ slot ∈ slots, slot.IsPadded)
    (hspells : ∀ slot ∈ slots, Spells slot.value slot.text)
    (hreads : ∀ slot ∈ slots, Reads keys levels slot.value slot.text) (fuel : Nat)
    (hfuel : (separated ']' (slots.map Slot.padded)).length < fuel) (rest : List Char) :
    readItems keys fuel levels (skipSpace (separated ']' (slots.map Slot.padded) ++ rest)) =
      .ok (slots.map Slot.value, rest) := by
  induction slots generalizing fuel with
  | nil => contradiction
  | cons slot others ih =>
      obtain ⟨hslot, hothers⟩ := List.forall_mem_cons.1 hpadded
      obtain ⟨hspell, hspells⟩ := List.forall_mem_cons.1 hspells
      obtain ⟨hread, hreads⟩ := List.forall_mem_cons.1 hreads
      have hlength := slot.text_length_le
      obtain ⟨fuel, rfl⟩ : ∃ less, fuel = less + 1 := ⟨fuel - 1, by omega⟩
      cases others with
      | nil =>
          simp only [List.map_cons, List.map_nil, separated, List.length_append,
            List.length_singleton] at hfuel
          simp only [List.map_cons, List.map_nil, separated, List.append_assoc,
            List.singleton_append]
          exact Slot.readItems_last hslot hspell hread (by omega) rest
      | cons next more =>
          simp only [List.map_cons, separated, List.length_append, List.length_cons] at hfuel
          have hrest := ih (by simp) hothers hspells hreads fuel
            (by simp only [List.map_cons]; omega)
          simp only [List.map_cons, separated, List.append_assoc, List.cons_append] at *
          rw [Slot.readItems_next hslot hspell hread (by omega), hrest]
          rfl

theorem Entry.skipSpace_padded {entry : Entry} (hpadded : entry.IsPadded) (rest : List Char) :
    skipSpace (entry.padded ++ rest) =
      '"' :: (entry.name ++
        '"' :: (entry.between ++ ':' :: (entry.slot.padded ++ rest))) := by
  unfold Entry.padded
  simp only [List.append_assoc, List.cons_append]
  exact skipSpace_append hpadded.before (by decide) _

theorem Entry.slot_length_le (entry : Entry) :
    entry.slot.padded.length ≤ entry.padded.length := by
  simp only [Entry.padded, List.length_append, List.length_cons]
  omega

theorem Entry.readMembers_padded {keys : RepeatedKeys} {levels : Nat} {entry : Entry}
    (hpadded : entry.IsPadded) (hname : StringSpelling entry.key entry.name)
    (hspells : Spells entry.slot.value entry.slot.text)
    (hreads : Reads keys levels entry.slot.value entry.slot.text) {fuel : Nat}
    (hfuel : entry.slot.text.length < fuel) {c : Char} (hc : c = ',' ∨ c = '\x7d')
    (rest : List Char) :
    readMembers keys (fuel + 1) levels (skipSpace (entry.padded ++ c :: rest)) =
      match c :: rest with
      | '\x7d' :: rest => .ok ([entry.member], rest)
      | ',' :: rest =>
          (readMembers keys fuel levels (skipSpace rest)).map fun (members, rest) =>
            (entry.member :: members, rest)
      | rest => failAt .expectingComma rest := by
  have hclose : c = ',' ∨ c = ']' ∨ c = '\x7d' := by
    rcases hc with rfl | rfl <;> simp
  obtain ⟨hvalue, hskip⟩ := Slot.readValue_padded hpadded.slot hreads hfuel hclose rest
  have hcolon := skipSpace_append hpadded.between (c := ':') (by decide)
    (entry.slot.padded ++ c :: rest)
  rw [Entry.skipSpace_padded hpadded]
  simp only [readMembers, readString_of_spelling hname, hcolon,
    Slot.skipSpace_padded hpadded.slot hspells, hvalue, hskip]
  rfl

theorem readMembers_of_entries {keys : RepeatedKeys} {levels : Nat} {entries : List Entry}
    (hentries : entries ≠ []) (hpadded : ∀ entry ∈ entries, entry.IsPadded)
    (hnames : ∀ entry ∈ entries, StringSpelling entry.key entry.name)
    (hspells : ∀ entry ∈ entries, Spells entry.slot.value entry.slot.text)
    (hreads : ∀ entry ∈ entries, Reads keys levels entry.slot.value entry.slot.text) (fuel : Nat)
    (hfuel : (separated '\x7d' (entries.map Entry.padded)).length < fuel) (rest : List Char) :
    readMembers keys fuel levels (skipSpace (separated '\x7d' (entries.map Entry.padded) ++ rest)) =
      .ok (entries.map Entry.member, rest) := by
  induction entries generalizing fuel with
  | nil => contradiction
  | cons entry others ih =>
      obtain ⟨hentry, hothers⟩ := List.forall_mem_cons.1 hpadded
      obtain ⟨hname, hnames⟩ := List.forall_mem_cons.1 hnames
      obtain ⟨hspell, hspells⟩ := List.forall_mem_cons.1 hspells
      obtain ⟨hread, hreads⟩ := List.forall_mem_cons.1 hreads
      have hslot := entry.slot.text_length_le
      have hlength := entry.slot_length_le
      obtain ⟨fuel, rfl⟩ : ∃ less, fuel = less + 1 := ⟨fuel - 1, by omega⟩
      cases others with
      | nil =>
          simp only [List.map_cons, List.map_nil, separated, List.length_append,
            List.length_singleton] at hfuel
          simp only [List.map_cons, List.map_nil, separated, List.append_assoc,
            List.singleton_append]
          rw [Entry.readMembers_padded hentry hname hspell hread (by omega) (.inr rfl)]
          rfl
      | cons next more =>
          simp only [List.map_cons, separated, List.length_append, List.length_cons] at hfuel
          have hrest := ih (by simp) hothers hnames hspells hreads fuel
            (by simp only [List.map_cons]; omega)
          simp only [List.map_cons, separated, List.append_assoc, List.cons_append] at *
          rw [Entry.readMembers_padded hentry hname hspell hread (by omega) (.inl rfl)]
          simp only [hrest]
          rfl

/-! ## Distinct keys -/

theorem insert_of_not_mem {key : JsonString} {value : Value} {members : Members}
    (h : ∀ member ∈ members, member.1 ≠ key) :
    Members.insert key value members = members ++ [(key, value)] := by
  induction members with
  | nil => rfl
  | cons member rest ih =>
      obtain ⟨hmember, hrest⟩ := List.forall_mem_cons.1 h
      simp [Members.insert, hmember, ih hrest]

theorem foldl_insert_of_distinct {members kept : Members} {seen : List JsonString}
    (hseen : ∀ member ∈ kept, member.1 ∈ seen)
    (h : Members.repeated? seen members = none) :
    members.foldl (fun kept member => Members.insert member.1 member.2 kept) kept =
      kept ++ members := by
  induction members generalizing kept seen with
  | nil => simp
  | cons member rest ih =>
      unfold Members.repeated? at h
      split at h
      · contradiction
      · next hnew =>
          have hfresh : ∀ other ∈ kept, other.1 ≠ member.1 := by
            intro other hother hequal
            exact hnew (List.contains_iff_mem.2 (hequal ▸ hseen other hother))
          have hkept : ∀ other ∈ kept ++ [member], other.1 ∈ member.1 :: seen := by
            intro other hother
            rcases List.mem_append.1 hother with hold | hlast
            · exact List.mem_cons_of_mem _ (hseen other hold)
            · rw [List.mem_singleton.1 hlast]
              exact List.mem_cons_self
          rw [List.foldl_cons, insert_of_not_mem hfresh, ih hkept h, List.append_assoc]
          rfl

theorem closeObject_of_distinct {keys : RepeatedKeys} {members : Members}
    (h : Members.repeated? [] members = none) (rest : List Char) :
    closeObject keys members rest = .ok (.object members, rest) := by
  cases keys with
  | reject => simp [closeObject, h]
  | keepLast =>
      have hempty : ∀ member ∈ ([] : Members), member.1 ∈ ([] : List JsonString) := by simp
      have hkeep : members.keepLast = members := foldl_insert_of_distinct hempty h
      simp [closeObject, hkeep]

/-! ## The reader -/

theorem exists_of_skipSpace_slots {slots : List Slot} (hslots : slots ≠ [])
    (hpadded : ∀ slot ∈ slots, slot.IsPadded)
    (hspells : ∀ slot ∈ slots, Spells slot.value slot.text) (rest : List Char) :
    ∃ c tail, skipSpace (separated ']' (slots.map Slot.padded) ++ rest) = c :: tail ∧
      opensValue c = true := by
  obtain ⟨slot, others, rfl⟩ := List.exists_cons_of_ne_nil hslots
  obtain ⟨c, tail, htext, hc⟩ := (hspells slot List.mem_cons_self).opens
  obtain ⟨left, hleft⟩ : ∃ left,
      separated ']' ((slot :: others).map Slot.padded) = slot.padded ++ left := by
    cases others <;> exact ⟨_, rfl⟩
  rw [hleft, List.append_assoc,
    Slot.skipSpace_padded (hpadded slot List.mem_cons_self) (hspells slot List.mem_cons_self),
    htext]
  exact ⟨c, _, rfl, hc⟩

theorem exists_of_skipSpace_entries {entries : List Entry} (hentries : entries ≠ [])
    (hpadded : ∀ entry ∈ entries, entry.IsPadded) (rest : List Char) :
    ∃ tail, skipSpace (separated '\x7d' (entries.map Entry.padded) ++ rest) = '"' :: tail := by
  obtain ⟨entry, others, rfl⟩ := List.exists_cons_of_ne_nil hentries
  obtain ⟨left, hleft⟩ : ∃ left,
      separated '\x7d' ((entry :: others).map Entry.padded) = entry.padded ++ left := by
    cases others <;> exact ⟨_, rfl⟩
  rw [hleft, List.append_assoc, Entry.skipSpace_padded (hpadded entry List.mem_cons_self)]
  exact ⟨_, rfl⟩

theorem readValue_signedText {keys : RepeatedKeys} {negative : Bool} {digits : List Char}
    (hdigits : WholeDigits digits) {fuel levels : Nat} (rest : List Char) :
    readValue keys (fuel + 1) levels (signedText negative digits ++ rest) =
      readNumber (signedText negative digits ++ rest) := by
  rw [← readScalar_signedText negative hdigits]
  obtain ⟨c, others, rfl, hc⟩ := exists_of_wholeDigits hdigits
  cases negative with
  | true => rfl
  | false =>
      have hquote : c ≠ '"' := ne_of_isAsciiDigit hc (by decide)
      have hbracket : c ≠ '[' := ne_of_isAsciiDigit hc (by decide)
      have hbrace : c ≠ '\x7b' := ne_of_isAsciiDigit hc (by decide)
      simp only [signedText, Bool.false_eq_true, if_false, List.cons_append]
      rw [readValue] <;> simp_all

theorem readValue_emptyArray {keys : RepeatedKeys} {spaces : List Char} (h : Spaces spaces)
    {fuel : Nat} (hfuel : ('[' :: spaces ++ [']']).length < fuel) (levels : Nat)
    (rest : List Char) :
    readValue keys fuel (levels + 1) ('[' :: spaces ++ [']'] ++ rest) = .ok (.array [], rest) := by
  obtain ⟨fuel, rfl⟩ : ∃ less, fuel = less + 1 := ⟨fuel - 1, by omega⟩
  have hskip := skipSpace_append h (c := ']') (by decide) rest
  simp only [List.cons_append, List.append_assoc, List.nil_append, readValue, hskip]

theorem readValue_of_slots {keys : RepeatedKeys} {levels : Nat} {slots : List Slot}
    (hslots : slots ≠ []) (hpadded : ∀ slot ∈ slots, slot.IsPadded)
    (hspells : ∀ slot ∈ slots, Spells slot.value slot.text)
    (hreads : ∀ slot ∈ slots, Reads keys levels slot.value slot.text) {fuel : Nat}
    (hfuel : ('[' :: separated ']' (slots.map Slot.padded)).length < fuel) (rest : List Char) :
    readValue keys fuel (levels + 1) ('[' :: separated ']' (slots.map Slot.padded) ++ rest) =
      .ok (.array (slots.map Slot.value), rest) := by
  obtain ⟨fuel, rfl⟩ : ∃ less, fuel = less + 1 := ⟨fuel - 1, by omega⟩
  have hitems := readItems_of_slots hslots hpadded hspells hreads fuel (by simpa using hfuel) rest
  obtain ⟨c, tail, hskip, hc⟩ := exists_of_skipSpace_slots hslots hpadded hspells rest
  rw [hskip] at hitems
  simp only [List.cons_append, readValue, hskip]
  split
  · next heq =>
      cases heq
      exact absurd rfl (of_opensValue hc).2.1
  · rw [hitems]
    rfl

theorem readValue_emptyObject {keys : RepeatedKeys} {spaces : List Char} (h : Spaces spaces)
    {fuel : Nat} (hfuel : ('\x7b' :: spaces ++ ['\x7d']).length < fuel) (levels : Nat)
    (rest : List Char) :
    readValue keys fuel (levels + 1) ('\x7b' :: spaces ++ ['\x7d'] ++ rest) =
      .ok (.object [], rest) := by
  obtain ⟨fuel, rfl⟩ : ∃ less, fuel = less + 1 := ⟨fuel - 1, by omega⟩
  have hskip := skipSpace_append h (c := '\x7d') (by decide) rest
  simp only [List.cons_append, List.append_assoc, List.nil_append, readValue, hskip]

theorem readValue_of_entries {keys : RepeatedKeys} {levels : Nat} {entries : List Entry}
    (hentries : entries ≠ []) (hpadded : ∀ entry ∈ entries, entry.IsPadded)
    (hnames : ∀ entry ∈ entries, StringSpelling entry.key entry.name)
    (hkeys : Members.repeated? [] (entries.map Entry.member) = none)
    (hspells : ∀ entry ∈ entries, Spells entry.slot.value entry.slot.text)
    (hreads : ∀ entry ∈ entries, Reads keys levels entry.slot.value entry.slot.text) {fuel : Nat}
    (hfuel : ('\x7b' :: separated '\x7d' (entries.map Entry.padded)).length < fuel)
    (rest : List Char) :
    readValue keys fuel (levels + 1)
        ('\x7b' :: separated '\x7d' (entries.map Entry.padded) ++ rest) =
      .ok (.object (entries.map Entry.member), rest) := by
  obtain ⟨fuel, rfl⟩ : ∃ less, fuel = less + 1 := ⟨fuel - 1, by omega⟩
  have hmembers := readMembers_of_entries hentries hpadded hnames hspells hreads fuel
    (by simpa using hfuel) rest
  obtain ⟨tail, hskip⟩ := exists_of_skipSpace_entries hentries hpadded rest
  rw [hskip] at hmembers
  simp only [List.cons_append, readValue, hskip]
  split
  · next heq => simp at heq
  · rw [hmembers]
    exact closeObject_of_distinct hkeys rest

/-- A value is read back from every one of its spellings, unless it goes beyond a limit. -/
theorem Spells.reads {value : Value} {text : List Char} (h : Spells value text) {levels : Nat}
    (hfits : Fits levels value) (keys : RepeatedKeys) : Reads keys levels value text := by
  induction h generalizing levels with
  | @word word value h =>
      intro fuel hfuel rest hrest
      obtain ⟨fuel, rfl⟩ : ∃ less, fuel = less + 1 := ⟨fuel - 1, by omega⟩
      have hread := readScalar_word h rest
      simp only [wordValues, List.mem_cons, Prod.mk.injEq, List.not_mem_nil, or_false] at h
      rcases h with ⟨rfl, _⟩ | ⟨rfl, _⟩ | ⟨rfl, _⟩ | ⟨rfl, _⟩ | ⟨rfl, _⟩ | ⟨rfl, _⟩ <;>
        exact hread
  | @int negative digits hdigits =>
      intro fuel hfuel rest hrest
      obtain ⟨fuel, rfl⟩ : ∃ less, fuel = less + 1 := ⟨fuel - 1, by omega⟩
      rw [fits_int, isShort_signed_iff negative hdigits] at hfits
      rw [readValue_signedText hdigits, readNumber_signedText negative hdigits hrest,
        if_neg (Nat.not_lt.2 hfits)]
  | @real decimal text h =>
      intro fuel hfuel rest hrest
      obtain ⟨fuel, rfl⟩ : ∃ less, fuel = less + 1 := ⟨fuel - 1, by omega⟩
      have hread := readNumber_of_real h hrest
      cases h with
      | mk negative hwhole _ =>
          rw [List.append_assoc] at hread ⊢
          rw [readValue_signedText hwhole, hread]
  | @text s cs h =>
      intro fuel hfuel rest hrest
      obtain ⟨fuel, rfl⟩ : ∃ less, fuel = less + 1 := ⟨fuel - 1, by omega⟩
      simp only [List.cons_append, List.append_assoc, List.nil_append, readValue,
        readString_of_spelling h]
      rfl
  | emptyArray h =>
      obtain ⟨levels, rfl, -⟩ := fits_array.1 hfits
      exact fun fuel hfuel rest _ => readValue_emptyArray h hfuel levels rest
  | array hslots hpadded hspells ih =>
      intro fuel hfuel rest _
      obtain ⟨levels, rfl, hslotsFit⟩ := fits_slots.1 hfits
      exact readValue_of_slots hslots hpadded hspells
        (fun slot hslot => ih slot hslot (hslotsFit slot hslot)) hfuel rest
  | emptyObject h =>
      obtain ⟨levels, rfl, -⟩ := fits_object.1 hfits
      exact fun fuel hfuel rest _ => readValue_emptyObject h hfuel levels rest
  | object hentries hpadded hnames hkeys hspells ih =>
      intro fuel hfuel rest _
      obtain ⟨levels, rfl, hentriesFit⟩ := fits_entries.1 hfits
      exact readValue_of_entries hentries hpadded hnames hkeys hspells
        (fun entry hentry => ih entry hentry (hentriesFit entry hentry)) hfuel rest

theorem Spells.reads_object {members : Members} {text : List Char}
    (h : Spells (.object members) text) {levels : Nat} (hfits : Fits levels (.object members))
    (keys : RepeatedKeys) {fuel : Nat} (hfuel : text.length < fuel) (rest : List Char) :
    readValue keys fuel levels (text ++ rest) = .ok (.object members, rest) := by
  cases h with
  | word h => simp [wordValues] at h
  | emptyObject h =>
      obtain ⟨levels, rfl, -⟩ := fits_object.1 hfits
      exact readValue_emptyObject h hfuel levels rest
  | object hentries hpadded hnames hkeys hspells =>
      obtain ⟨levels, rfl, hentriesFit⟩ := fits_entries.1 hfits
      exact readValue_of_entries hentries hpadded hnames hkeys hspells
        (fun entry hentry => (hspells entry hentry).reads (hentriesFit entry hentry) keys) hfuel
        rest

/-! ## Texts -/

theorem readText_eq (keys : RepeatedKeys) {value : Value} {before text after : List Char}
    (hbefore : Spaces before) (hspells : Spells value text) (levels : Nat) :
    readText keys (before ++ text ++ after) levels =
      match readValue keys ((before ++ text ++ after).length + 1) levels (text ++ after) with
      | .error fault => .error fault
      | .ok (value, rest) =>
          match skipSpace rest with
          | [] => .ok value
          | rest => failAt .extraData rest := by
  obtain ⟨c, tail, htext, hc⟩ := hspells.opens
  have hmark : (before ++ text ++ after).head? ≠ some '\uFEFF' := by
    rw [htext]
    cases before with
    | nil =>
        intro hequal
        exact (of_opensValue hc).2.2 (Option.some.inj hequal)
    | cons space others =>
        intro hequal
        have hspace := hbefore space List.mem_cons_self
        rw [Option.some.inj hequal] at hspace
        exact absurd hspace (by decide)
  have hskip : skipSpace (before ++ text ++ after) = text ++ after := by
    rw [htext, List.append_assoc, List.cons_append]
    exact skipSpace_append hbefore (of_opensValue hc).1 _
  unfold readText
  rewrite [if_neg hmark, hskip]
  rfl

theorem length_lt_of_padded (before text after : List Char) :
    text.length < (before ++ text ++ after).length + 1 := by
  simp only [List.length_append]
  omega

theorem closes_of_spaces {spaces : List Char} (h : Spaces spaces) : Closes spaces := by
  simpa using closes_append h closes_nil

theorem readText_of_spells (keys : RepeatedKeys) {value : Value}
    {before text after : List Char} (hbefore : Spaces before) (hspells : Spells value text)
    {levels : Nat} (hfits : Fits levels value) (hafter : Spaces after) :
    readText keys (before ++ text ++ after) levels = .ok value := by
  have hread := hspells.reads hfits keys _ (length_lt_of_padded before text after) after
    (closes_of_spaces hafter)
  rw [readText_eq keys hbefore hspells, hread]
  simp only [skipSpace_of_spaces hafter]

/-! ## Objects -/

theorem readNumber_ne_object {text rest : List Char} {members : Members} :
    readNumber text ≠ .ok (.object members, rest) := by
  intro h
  simp only [readNumber, failAt] at h
  split at h
  · contradiction
  · split at h
    · split at h <;> simp at h
    · simp at h

theorem readScalar_ne_object {text rest : List Char} {members : Members} :
    readScalar text ≠ .ok (.object members, rest) := by
  intro h
  unfold readScalar at h
  split at h
  next word hword =>
    have hmem := List.mem_of_find?_eq_some hword
    have hvalue : word.2 = .object members := congrArg Prod.fst (Except.ok.inj h)
    simp only [wordValues, List.mem_cons, List.not_mem_nil, or_false] at hmem
    rcases hmem with rfl | rfl | rfl | rfl | rfl | rfl <;> contradiction
  · exact readNumber_ne_object h

theorem exists_brace_of_readValue {keys : RepeatedKeys} {fuel levels : Nat}
    {text rest : List Char} {members : Members}
    (h : readValue keys fuel levels text = .ok (.object members, rest)) :
    ∃ tail, text = '\x7b' :: tail := by
  cases fuel with
  | zero => simp [readValue, failAt] at h
  | succ fuel =>
      unfold readValue at h
      split at h
      next tail =>
        cases hread : readString tail <;> simp [hread, Except.map] at h
      next => contradiction
      next tail levels =>
        split at h
        · simp at h
        · cases hread : readItems keys fuel levels (skipSpace tail) <;>
            simp [hread, Except.map] at h
      next tail => exact ⟨tail, rfl⟩
      next tail levels => exact ⟨tail, rfl⟩
      · exact absurd h readScalar_ne_object

theorem exists_brace_of_readText {keys : RepeatedKeys} {text : List Char} {members : Members}
    {levels : Nat} (h : readText keys text levels = .ok (.object members)) :
    ∃ spaces tail, Spaces spaces ∧ text = spaces ++ '\x7b' :: tail := by
  unfold readText at h
  split at h
  · contradiction
  · split at h
    · contradiction
    next value rest hread =>
      have hvalue : value = .object members := by
        split at h
        · simpa using h
        · contradiction
      subst hvalue
      obtain ⟨tail, htail⟩ := exists_brace_of_readValue hread
      have hsplit := List.takeWhile_append_dropWhile (p := isSpace) (l := text)
      rw [show text.dropWhile isSpace = '\x7b' :: tail from htail] at hsplit
      refine ⟨text.takeWhile isSpace, tail, ?_, hsplit.symm⟩
      intro c hc
      exact List.all_eq_true.1 List.all_takeWhile c hc

end QueryBindings.Json
