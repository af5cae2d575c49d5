import QueryBindings.Proofs.Json.Spelling

/-!
# What readers refuse

A reader refuses a text for a fault that has a place in it.  Where repeated keys are kept
the only exceptions are the limits: an integer with more digits than can be read, and an
array or object deeper than can be reached.  No spelling of a value that goes beyond a
limit is read.
-/

namespace QueryBindings.Json

inductive FaultKind.Reports : FaultKind → Limit → Prop where
  | longInteger {digits : Nat} (h : mostIntegerDigits < digits) :
      Reports (.longInteger digits) .digits
  | deepArray : Reports .deepArray .levels
  | deepObject : Reports .deepObject .levels

theorem FaultKind.Reports.limit?_eq {kind : FaultKind} {limit : Limit}
    (h : kind.Reports limit) : kind.limit? = some limit := by
  cases h <;> rfl

/-- What a reader that keeps repeated keys refuses. -/
def FaultKind.IsOfText (kind : FaultKind) : Prop :=
  kind.hasPlace = true ∨ ∃ limit, kind.Reports limit

/-- Every fault of a reader is of this kind. -/
def RefusesOnly {α : Type} (allowed : FaultKind → Prop) (result : Except ReadFault α) : Prop :=
  ∀ fault, result = .error fault → allowed fault.kind

section RefusesOnly

variable {α β : Type} {allowed : FaultKind → Prop}

theorem refusesOnly_ok (value : α) : RefusesOnly allowed (.ok value) := by
  intro fault h
  contradiction

theorem refusesOnly_error {fault : ReadFault} (h : allowed fault.kind) :
    RefusesOnly allowed (.error fault : Except ReadFault α) := by
  intro other hother
  cases hother
  exact h

theorem RefusesOnly.map {result : Except ReadFault α} (h : RefusesOnly allowed result)
    (f : α → β) : RefusesOnly allowed (result.map f) := by
  intro fault hfault
  cases result with
  | error other => exact h fault (by simpa [Except.map] using hfault)
  | ok value => contradiction

end RefusesOnly

/-! ## Strings and numbers -/

theorem readPoints_refusesOnly (opening : Nat) (text : List Char) :
    RefusesOnly FaultKind.IsOfText (readPoints opening text) := by
  fun_induction readPoints opening text
  case case2 => exact refusesOnly_ok _
  case case4 ih | case7 ih | case10 ih => exact ih.map _
  all_goals exact refusesOnly_error (.inl rfl)

theorem readString_refusesOnly (rest : List Char) :
    RefusesOnly FaultKind.IsOfText (readString rest) :=
  (readPoints_refusesOnly _ rest).map _

theorem readNumber_refusesOnly (text : List Char) :
    RefusesOnly FaultKind.IsOfText (readNumber text) := by
  unfold readNumber
  dsimp only
  split
  · exact refusesOnly_error (.inl rfl)
  · split
    · split
      case isTrue hlong => exact refusesOnly_error (.inr ⟨_, .longInteger hlong⟩)
      case isFalse => exact refusesOnly_ok _
    · exact refusesOnly_ok _

theorem readScalar_refusesOnly (text : List Char) :
    RefusesOnly FaultKind.IsOfText (readScalar text) := by
  unfold readScalar
  split
  · exact refusesOnly_ok _
  · exact readNumber_refusesOnly text

/-! ## Values -/

/-- With less fuel, values, items and members are all refused for such faults only. -/
def RefusesOnlyAt (fuel : Nat) : Prop :=
  ∀ levels text,
    RefusesOnly FaultKind.IsOfText (readValue .keepLast fuel levels text) ∧
    RefusesOnly FaultKind.IsOfText (readItems .keepLast fuel levels text) ∧
    RefusesOnly FaultKind.IsOfText (readMembers .keepLast fuel levels text)

theorem readValue_refusesOnly_succ {fuel : Nat} (ih : RefusesOnlyAt fuel) (levels : Nat)
    (text : List Char) :
    RefusesOnly FaultKind.IsOfText (readValue .keepLast (fuel + 1) levels text) := by
  unfold readValue
  split
  · exact (readString_refusesOnly _).map _
  · exact refusesOnly_error (.inr ⟨_, .deepArray⟩)
  · split
    · exact refusesOnly_ok _
    · exact (ih _ _).2.1.map _
  · exact refusesOnly_error (.inr ⟨_, .deepObject⟩)
  · split
    · exact refusesOnly_ok _
    · split
      case h_1 fault hmembers =>
        exact refusesOnly_error ((ih _ _).2.2 fault hmembers)
      case h_2 => exact refusesOnly_ok _
  · exact readScalar_refusesOnly _

theorem readItems_refusesOnly_succ {fuel : Nat} (ih : RefusesOnlyAt fuel) (levels : Nat)
    (text : List Char) :
    RefusesOnly FaultKind.IsOfText (readItems .keepLast (fuel + 1) levels text) := by
  unfold readItems
  split
  case h_1 fault hitem => exact refusesOnly_error ((ih levels text).1 fault hitem)
  case h_2 =>
    split
    · exact refusesOnly_ok _
    · exact (ih _ _).2.1.map _
    · exact refusesOnly_error (.inl rfl)

theorem readMembers_refusesOnly_succ {fuel : Nat} (ih : RefusesOnlyAt fuel) (levels : Nat)
    (text : List Char) :
    RefusesOnly FaultKind.IsOfText (readMembers .keepLast (fuel + 1) levels text) := by
  unfold readMembers
  split
  case h_1 rest =>
    split
    case h_1 fault hkey => exact refusesOnly_error (readString_refusesOnly rest fault hkey)
    case h_2 =>
      split
      case h_1 =>
        split
        case h_1 fault hvalue => exact refusesOnly_error ((ih _ _).1 fault hvalue)
        case h_2 =>
          split
          · exact refusesOnly_ok _
          · exact (ih _ _).2.2.map _
          · exact refusesOnly_error (.inl rfl)
      case h_2 => exact refusesOnly_error (.inl rfl)
  case h_2 => exact refusesOnly_error (.inl rfl)

theorem refusesOnlyAt (fuel : Nat) : RefusesOnlyAt fuel := by
  -- The three readers call each other, always with less fuel.
  induction fuel with
  | zero =>
      intro levels text
      unfold readValue readItems readMembers
      exact ⟨refusesOnly_error (.inl rfl), refusesOnly_error (.inl rfl),
        refusesOnly_error (.inl rfl)⟩
  | succ fuel ih =>
      intro levels text
      exact ⟨readValue_refusesOnly_succ ih levels text, readItems_refusesOnly_succ ih levels text,
        readMembers_refusesOnly_succ ih levels text⟩

theorem readText_refusesOnly (text : List Char) (levels : Nat) :
    RefusesOnly FaultKind.IsOfText (readText .keepLast text levels) := by
  unfold readText
  split
  · exact refusesOnly_error (.inl rfl)
  · split
    case h_1 fault hvalue => exact refusesOnly_error ((refusesOnlyAt _ _ _).1 fault hvalue)
    case h_2 =>
      split
      · exact refusesOnly_ok _
      · exact refusesOnly_error (.inl rfl)

/-! ## Limits -/

/-- A reader ended at one of these limits. -/
def EndsAtLimit {α : Type} (exceeded : Limit → Prop) (result : Except ReadFault α) : Prop :=
  ∃ limit fault, exceeded limit ∧ fault.kind.Reports limit ∧ result = .error fault

section EndsAtLimit

variable {α β : Type} {exceeded other : Limit → Prop} {result : Except ReadFault α}

theorem EndsAtLimit.map (h : EndsAtLimit exceeded result) (f : α → β) :
    EndsAtLimit exceeded (result.map f) := by
  obtain ⟨limit, fault, hexceeded, hreports, rfl⟩ := h
  exact ⟨limit, fault, hexceeded, hreports, rfl⟩

theorem EndsAtLimit.mono (h : EndsAtLimit exceeded result)
    (himp : ∀ limit, exceeded limit → other limit) : EndsAtLimit other result := by
  obtain ⟨limit, fault, hexceeded, hreports, rfl⟩ := h
  exact ⟨limit, fault, himp limit hexceeded, hreports, rfl⟩

end EndsAtLimit

/-- What a reader makes of a spelling of a value that goes beyond a limit, given enough fuel. -/
def Refuses (keys : RepeatedKeys) (levels : Nat) (value : Value) (text : List Char) : Prop :=
  ∀ fuel, text.length < fuel → ∀ rest, Closes rest →
    EndsAtLimit (Exceeds · levels value) (readValue keys fuel levels (text ++ rest))

theorem exists_of_separated (closing : Char) (part : List Char) (parts : List (List Char)) :
    ∃ c tail, (c = ',' ∨ c = closing) ∧
      separated closing (part :: parts) = part ++ c :: tail := by
  cases parts with
  | nil => exact ⟨closing, [], .inr rfl, rfl⟩
  | cons next rest => exact ⟨',', _, .inl rfl, rfl⟩

section Parts

variable {keys : RepeatedKeys} {levels : Nat}

theorem Slot.readItems_refused {slot : Slot} (hpadded : slot.IsPadded)
    (hspells : Spells slot.value slot.text) (hrefuses : Refuses keys levels slot.value slot.text)
    {fuel : Nat} (hfuel : slot.text.length < fuel) {c : Char} (hc : c = ',' ∨ c = ']')
    (rest : List Char) :
    EndsAtLimit (Exceeds · levels slot.value)
      (readItems keys (fuel + 1) levels (skipSpace (slot.padded ++ c :: rest))) := by
  have hclose : c = ',' ∨ c = ']' ∨ c = '\x7d' := by
    rcases hc with rfl | rfl <;> simp
  obtain ⟨limit, fault, hexceeds, hreports, hread⟩ := hrefuses fuel hfuel _
    (closes_append hpadded.after (closes_cons hclose rest))
  rw [Slot.skipSpace_padded hpadded hspells]
  simp only [readItems, hread]
  exact ⟨limit, fault, hexceeds, hreports, rfl⟩

theorem Entry.readMembers_refused {entry : Entry} (hpadded : entry.IsPadded)
    (hname : StringSpelling entry.key entry.name)
    (hspells : Spells entry.slot.value entry.slot.text)
    (hrefuses : Refuses keys levels entry.slot.value entry.slot.text) {fuel : Nat}
    (hfuel : entry.slot.text.length < fuel) {c : Char} (hc : c = ',' ∨ c = '\x7d')
    (rest : List Char) :
    EndsAtLimit (Exceeds · levels entry.slot.value)
      (readMembers keys (fuel + 1) levels (skipSpace (entry.padded ++ c :: rest))) := by
  have hclose : c = ',' ∨ c = ']' ∨ c = '\x7d' := by
    rcases hc with rfl | rfl <;> simp
  obtain ⟨limit, fault, hexceeds, hreports, hread⟩ := hrefuses fuel hfuel _
    (closes_append hpadded.slot.after (closes_cons hclose rest))
  have hcolon := skipSpace_append hpadded.between (c := ':') (by decide)
    (entry.slot.padded ++ c :: rest)
  rw [Entry.skipSpace_padded hpadded]
  simp only [readMembers, readString_of_spelling hname, hcolon,
    Slot.skipSpace_padded hpadded.slot hspells, hread]
  exact ⟨limit, fault, hexceeds, hreports, rfl⟩

theorem readItems_of_slots_beyond {slots : List Slot} (hpadded : ∀ slot ∈ slots, slot.IsPadded)
    (hspells : ∀ slot ∈ slots, Spells slot.value slot.text)
    (hrefuses : ∀ slot ∈ slots, ¬ Fits levels slot.value →
      Refuses keys levels slot.value slot.text)
    (hbeyond : ∃ slot ∈ slots, ¬ Fits levels slot.value) (fuel : Nat)
    (hfuel : (separated ']' (slots.map Slot.padded)).length < fuel) (rest : List Char) :
    EndsAtLimit (fun limit => ∃ slot ∈ slots, Exceeds limit levels slot.value)
      (readItems keys fuel levels
        (skipSpace (separated ']' (slots.map Slot.padded) ++ rest))) := by
  induction slots generalizing fuel with
  | nil => simp at hbeyond
  | cons slot others ih =>
      obtain ⟨hslot, hothers⟩ := List.forall_mem_cons.1 hpadded
      obtain ⟨hspell, hspells⟩ := List.forall_mem_cons.1 hspells
      obtain ⟨hrefuse, hrefuses⟩ := List.forall_mem_cons.1 hrefuses
      have hlength := slot.text_length_le
      obtain ⟨fuel, rfl⟩ : ∃ less, fuel = less + 1 := ⟨fuel - 1, by omega⟩
      by_cases hfits : Fits levels slot.value
      · have hmore : ∃ slot ∈ others, ¬ Fits levels slot.value := by
          simpa [hfits] using hbeyond
        cases others with
        | nil => simp at hmore
        | cons next more =>
            simp only [List.map_cons, separated, List.length_append, List.length_cons] at hfuel
            have hrest := ih hothers hspells hrefuses hmore fuel
              (by simp only [List.map_cons]; omega)
            simp only [List.map_cons, separated, List.append_assoc, List.cons_append] at *
            rw [Slot.readItems_next hslot hspell (hspell.reads hfits keys) (by omega)]
            refine (hrest.map _).mono ?_
            rintro limit ⟨slot, hslot, h⟩
            exact ⟨slot, List.mem_cons_of_mem _ hslot, h⟩
      · obtain ⟨c, tail, hc, hparts⟩ :=
          exists_of_separated ']' slot.padded (others.map Slot.padded)
        rw [List.map_cons, hparts, List.length_append, List.length_cons] at hfuel
        rw [List.map_cons, hparts, List.append_assoc, List.cons_append]
        exact (Slot.readItems_refused hslot hspell (hrefuse hfits) (by omega) hc _).mono
          fun limit h => ⟨slot, List.mem_cons_self, h⟩

theorem readMembers_of_entries_beyond {entries : List Entry}
    (hpadded : ∀ entry ∈ entries, entry.IsPadded)
    (hnames : ∀ entry ∈ entries, StringSpelling entry.key entry.name)
    (hspells : ∀ entry ∈ entries, Spells entry.slot.value entry.slot.text)
    (hrefuses : ∀ entry ∈ entries, ¬ Fits levels entry.slot.value →
      Refuses keys levels entry.slot.value entry.slot.text)
    (hbeyond : ∃ entry ∈ entries, ¬ Fits levels entry.slot.value) (fuel : Nat)
    (hfuel : (separated '\x7d' (entries.map Entry.padded)).length < fuel) (rest : List Char) :
    EndsAtLimit (fun limit => ∃ entry ∈ entries, Exceeds limit levels entry.slot.value)
      (readMembers keys fuel levels
        (skipSpace (separated '\x7d' (entries.map Entry.padded) ++ rest))) := by
  induction entries generalizing fuel with
  | nil => simp at hbeyond
  | cons entry others ih =>
      obtain ⟨hentry, hothers⟩ := List.forall_mem_cons.1 hpadded
      obtain ⟨hname, hnames⟩ := List.forall_mem_cons.1 hnames
      obtain ⟨hspell, hspells⟩ := List.forall_mem_cons.1 hspells
      obtain ⟨hrefuse, hrefuses⟩ := List.forall_mem_cons.1 hrefuses
      have hslot := entry.slot.text_length_le
      have hlength := entry.slot_length_le
      obtain ⟨fuel, rfl⟩ : ∃ less, fuel = less + 1 := ⟨fuel - 1, by omega⟩
      by_cases hfits : Fits levels entry.slot.value
      · have hmore : ∃ entry ∈ others, ¬ Fits levels entry.slot.value := by
          simpa [hfits] using hbeyond
        cases others with
        | nil => simp at hmore
        | cons next more =>
            simp only [List.map_cons, separated, List.length_append, List.length_cons] at hfuel
            have hrest := ih hothers hnames hspells hrefuses hmore fuel
              (by simp only [List.map_cons]; omega)
            simp only [List.map_cons, separated, List.append_assoc, List.cons_append] at *
            rw [Entry.readMembers_padded hentry hname hspell (hspell.reads hfits keys) (by omega)
              (.inl rfl)]
            refine (hrest.map _).mono ?_
            rintro limit ⟨entry, hentry, h⟩
            exact ⟨entry, List.mem_cons_of_mem _ hentry, h⟩
      · obtain ⟨c, tail, hc, hparts⟩ :=
          exists_of_separated '\x7d' entry.padded (others.map Entry.padded)
        rw [List.map_cons, hparts, List.length_append, List.length_cons] at hfuel
        rw [List.map_cons, hparts, List.append_assoc, List.cons_append]
        exact (Entry.readMembers_refused hentry hname hspell (hrefuse hfits) (by omega) hc
          _).mono fun limit h => ⟨entry, List.mem_cons_self, h⟩

theorem refuses_array_zero (items : List Value) (text : List Char) :
    Refuses keys 0 (.array items) ('[' :: text) := by
  intro fuel hfuel rest hrest
  obtain ⟨fuel, rfl⟩ : ∃ less, fuel = less + 1 := ⟨fuel - 1, by omega⟩
  exact ⟨.levels, _, .array, .deepArray, rfl⟩

theorem refuses_object_zero (members : Members) (text : List Char) :
    Refuses keys 0 (.object members) ('\x7b' :: text) := by
  intro fuel hfuel rest hrest
  obtain ⟨fuel, rfl⟩ : ∃ less, fuel = less + 1 := ⟨fuel - 1, by omega⟩
  exact ⟨.levels, _, .object, .deepObject, rfl⟩

theorem refuses_slots {slots : List Slot} (hslots : slots ≠ [])
    (hpadded : ∀ slot ∈ slots, slot.IsPadded)
    (hspells : ∀ slot ∈ slots, Spells slot.value slot.text)
    (hrefuses : ∀ slot ∈ slots, ¬ Fits levels slot.value →
      Refuses keys levels slot.value slot.text)
    (hbeyond : ∃ slot ∈ slots, ¬ Fits levels slot.value) :
    Refuses keys (levels + 1) (.array (slots.map Slot.value))
      ('[' :: separated ']' (slots.map Slot.padded)) := by
  intro fuel hfuel rest hrest
  obtain ⟨fuel, rfl⟩ : ∃ less, fuel = less + 1 := ⟨fuel - 1, by omega⟩
  have hitems := readItems_of_slots_beyond hpadded hspells hrefuses hbeyond fuel
    (by simpa using hfuel) rest
  obtain ⟨c, tail, hskip, hc⟩ := exists_of_skipSpace_slots hslots hpadded hspells rest
  rw [hskip] at hitems
  simp only [List.cons_append, readValue, hskip]
  split
  · next heq =>
      cases heq
      exact absurd rfl (of_opensValue hc).2.1
  · refine (hitems.map _).mono fun limit h => ?_
    rw [exceeds_array_succ]
    simpa using h

theorem refuses_entries {entries : List Entry} (hentries : entries ≠ [])
    (hpadded : ∀ entry ∈ entries, entry.IsPadded)
    (hnames : ∀ entry ∈ entries, StringSpelling entry.key entry.name)
    (hspells : ∀ entry ∈ entries, Spells entry.slot.value entry.slot.text)
    (hrefuses : ∀ entry ∈ entries, ¬ Fits levels entry.slot.value →
      Refuses keys levels entry.slot.value entry.slot.text)
    (hbeyond : ∃ entry ∈ entries, ¬ Fits levels entry.slot.value) :
    Refuses keys (levels + 1) (.object (entries.map Entry.member))
      ('\x7b' :: separated '\x7d' (entries.map Entry.padded)) := by
  intro fuel hfuel rest hrest
  obtain ⟨fuel, rfl⟩ : ∃ less, fuel = less + 1 := ⟨fuel - 1, by omega⟩
  obtain ⟨limit, fault, ⟨entry, hentry, hexceeds⟩, hreports, hmembers⟩ :=
    readMembers_of_entries_beyond hpadded hnames hspells hrefuses hbeyond fuel
      (by simpa using hfuel) rest
  obtain ⟨tail, hskip⟩ := exists_of_skipSpace_entries hentries hpadded rest
  rw [hskip] at hmembers
  simp only [List.cons_append, readValue, hskip]
  split
  · next heq => simp at heq
  · rw [hmembers]
    exact ⟨limit, fault, .member (List.mem_map_of_mem hentry) hexceeds, hreports, rfl⟩

end Parts

/-- No spelling of a value that goes beyond a limit is read. -/
theorem Spells.refuses {value : Value} {text : List Char} (h : Spells value text) {levels : Nat}
    (hbeyond : ¬ Fits levels value) (keys : RepeatedKeys) :
    Refuses keys levels value text := by
  induction h generalizing levels with
  | word h => exact absurd (fits_word h) hbeyond
  | @int negative digits hdigits =>
      intro fuel hfuel rest hrest
      obtain ⟨fuel, rfl⟩ : ∃ less, fuel = less + 1 := ⟨fuel - 1, by omega⟩
      have hlong := hbeyond
      rw [fits_int, isShort_signed_iff negative hdigits, Nat.not_le] at hlong
      rw [readValue_signedText hdigits, readNumber_signedText negative hdigits hrest,
        if_pos hlong]
      exact ⟨.digits, _, .int (fits_int.not.1 hbeyond), .longInteger hlong, rfl⟩
  | real _ => exact absurd fits_real hbeyond
  | text _ => exact absurd fits_text hbeyond
  | emptyArray _ =>
      cases levels with
      | zero => exact refuses_array_zero _ _
      | succ levels => exact absurd (fits_array.2 ⟨levels, rfl, List.forall_mem_nil _⟩) hbeyond
  | array hslots hpadded hspells ih =>
      cases levels with
      | zero => exact refuses_array_zero _ _
      | succ levels =>
          exact refuses_slots hslots hpadded hspells (fun slot hslot => ih slot hslot)
            (by simpa [fits_slots] using hbeyond)
  | emptyObject _ =>
      cases levels with
      | zero => exact refuses_object_zero _ _
      | succ levels => exact absurd (fits_object.2 ⟨levels, rfl, List.forall_mem_nil _⟩) hbeyond
  | object hentries hpadded hnames _ hspells ih =>
      cases levels with
      | zero => exact refuses_object_zero _ _
      | succ levels =>
          exact refuses_entries hentries hpadded hnames hspells
            (fun entry hentry => ih entry hentry) (by simpa [fits_entries] using hbeyond)

theorem readText_of_spells_beyond (keys : RepeatedKeys) {value : Value}
    {before text after : List Char} (hbefore : Spaces before) (hspells : Spells value text)
    {levels : Nat} (hbeyond : ¬ Fits levels value) (hafter : Spaces after) :
    EndsAtLimit (Exceeds · levels value) (readText keys (before ++ text ++ after) levels) := by
  obtain ⟨limit, fault, hexceeds, hreports, hread⟩ := hspells.refuses hbeyond keys _
    (length_lt_of_padded before text after) after (closes_of_spaces hafter)
  rw [readText_eq keys hbefore hspells, hread]
  exact ⟨limit, fault, hexceeds, hreports, rfl⟩

end QueryBindings.Json
