import QueryBindings.Proofs.Json.Refusals

/-!
# Texts that are read are spellings

What the strict reader takes off a text is a spelling of the value that it returns, which
does not go beyond a limit.  Together with the spellings being read this says which texts
there are: those of the grammar and no others.
-/

namespace QueryBindings.Json

theorem exists_spaces (text : List Char) :
    ∃ spaces, Spaces spaces ∧ text = spaces ++ skipSpace text :=
  ⟨text.takeWhile isSpace, List.all_eq_true.1 List.all_takeWhile,
    List.takeWhile_append_dropWhile.symm⟩

theorem exists_spaces_cons {text rest : List Char} {c : Char} (h : skipSpace text = c :: rest) :
    ∃ spaces, Spaces spaces ∧ text = spaces ++ c :: rest := by
  obtain ⟨spaces, hspaces, htext⟩ := exists_spaces text
  rw [h] at htext
  exact ⟨spaces, hspaces, htext⟩

/-! ## Strings -/

theorem consPoint_eq_ok_iff {point : CodePoint} {reading : Reading JsonString}
    {points : JsonString} {rest : List Char} :
    consPoint point reading = .ok (points, rest) ↔
      ∃ others, reading = .ok (others, rest) ∧ points = point :: others := by
  cases reading with
  | error fault => simp [consPoint, Except.map]
  | ok read =>
      obtain ⟨others, left⟩ := read
      constructor
      · intro h
        cases h
        exact ⟨others, rfl, rfl⟩
      · rintro ⟨_, hsame, rfl⟩
        cases hsame
        rfl

theorem exists_of_readPoints {opening : Nat} {text rest : List Char} {points : JsonString}
    (h : readPoints opening text = .ok (points, rest)) :
    ∃ spelled, text = spelled ++ '"' :: rest ∧ PointsSpelling points spelled := by
  fun_induction readPoints opening text generalizing points with
  | case2 left =>
      cases h
      exact ⟨[], rfl, .nil⟩
  | case4 a b c d next left n hn ih =>
      obtain ⟨others, hothers, rfl⟩ := consPoint_eq_ok_iff.1 h
      obtain ⟨spelled, hspelled, hpoints⟩ := ih hothers
      exact ⟨_, by rw [hspelled]; rfl, .cons (.unit hn) hpoints⟩
  | case7 letter left _ _ escaped hletter ih =>
      obtain ⟨others, hothers, rfl⟩ := consPoint_eq_ok_iff.1 h
      obtain ⟨spelled, rfl, hpoints⟩ := ih hothers
      exact ⟨_, rfl, .cons (.short letter hletter) hpoints⟩
  | case10 c left hquote hlone _ _ hescape hcontrol ih =>
      obtain ⟨others, hothers, rfl⟩ := consPoint_eq_ok_iff.1 h
      obtain ⟨spelled, rfl, hpoints⟩ := ih hothers
      have hplain : c ≠ '\\' := by
        rintro rfl
        obtain ⟨next, tail, htail⟩ : ∃ next tail, spelled ++ '"' :: rest = next :: tail :=
          List.exists_cons_of_ne_nil (by simp)
        exact hescape next tail rfl htail
      exact ⟨c :: spelled, rfl, .cons (.plain hquote hplain hcontrol) hpoints⟩
  | _ => contradiction

theorem exists_of_readString {text rest : List Char} {s : JsonString}
    (h : readString text = .ok (s, rest)) :
    ∃ spelled, text = spelled ++ '"' :: rest ∧ StringSpelling s spelled := by
  unfold readString at h
  cases hread : readPoints (text.length + 1) text with
  | error fault =>
      rw [hread] at h
      contradiction
  | ok read =>
      rw [hread] at h
      cases h
      obtain ⟨spelled, htext, hpoints⟩ := exists_of_readPoints hread
      exact ⟨spelled, htext, _, hpoints, rfl⟩

/-! ## Numbers -/

theorem signedText_readSign (text : List Char) :
    text = signedText (readSign text).1 (readSign text).2 := by
  unfold readSign
  split <;> rfl

theorem signedText_append (negative : Bool) (first second : List Char) :
    signedText negative (first ++ second) = signedText negative first ++ second := by
  cases negative <;> rfl

theorem isDigits_takeWhile {text : List Char}
    (h : (text.takeWhile Text.isAsciiDigit).isEmpty = false) :
    IsDigits (text.takeWhile Text.isAsciiDigit) where
  ne_nil := by simpa using h
  all := List.all_eq_true.1 List.all_takeWhile

theorem exists_of_readWhole {text digits rest : List Char}
    (h : readWhole text = some (digits, rest)) :
    text = digits ++ rest ∧ WholeDigits digits := by
  unfold readWhole at h
  split at h
  · cases h
    exact ⟨rfl, .inl rfl⟩
  next hzero =>
    dsimp only at h
    split at h
    · contradiction
    next hempty =>
      cases h
      have hdigits := isDigits_takeWhile (Bool.not_eq_true _ ▸ hempty)
      refine ⟨List.takeWhile_append_dropWhile.symm, ?_⟩
      obtain ⟨c, others, hcons⟩ := List.exists_cons_of_ne_nil hdigits.ne_nil
      rw [hcons] at hdigits ⊢
      refine wholeDigits_cons ?_ hdigits
      rintro rfl
      have htext := (List.takeWhile_append_dropWhile (p := Text.isAsciiDigit) (l := text)).symm
      rw [hcons] at htext
      exact hzero _ htext

theorem exists_of_readFraction {text digits rest : List Char}
    (h : readFraction text = some (digits, rest)) :
    text = '.' :: digits ++ rest ∧ IsDigits digits := by
  unfold readFraction at h
  split at h
  next tail =>
    dsimp only at h
    split at h
    · contradiction
    next hempty =>
      cases h
      have hdigits := isDigits_takeWhile (Bool.not_eq_true _ ▸ hempty)
      refine ⟨?_, hdigits⟩
      rw [List.cons_append, List.takeWhile_append_dropWhile]
  · contradiction

theorem exists_of_readExponentSign (text : List Char) :
    ∃ sign, text = sign ++ (readExponentSign text).2 ∧
      SignSpelling (readExponentSign text).1 sign := by
  unfold readExponentSign
  split
  · exact ⟨_, rfl, .minus⟩
  · exact ⟨_, rfl, .plus⟩
  · exact ⟨_, rfl, .absent⟩

theorem exists_of_readExponent {text rest : List Char} {n : Int}
    (h : readExponent text = some (n, rest)) :
    ∃ spelled, text = spelled ++ rest ∧ ExponentSpelling n spelled := by
  unfold readExponent at h
  split at h
  next mark tail =>
    split at h
    next hmark =>
      obtain ⟨sign, htail, hsign⟩ := exists_of_readExponentSign tail
      dsimp only at h
      split at h
      · contradiction
      next hempty =>
        cases h
        have hdigits := isDigits_takeWhile (Bool.not_eq_true _ ▸ hempty)
        have hletter : mark = 'e' ∨ mark = 'E' := by simpa using hmark
        refine ⟨_, ?_, .mk hletter hsign hdigits⟩
        rw [List.append_assoc, List.takeWhile_append_dropWhile, List.cons_append, ← htail]
    · contradiction
  · contradiction

/-- What a reader of values takes off is the spelling of a value that can be read. -/
def IsRead (levels : Nat) (value : Value) (spelled : List Char) : Prop :=
  Spells value spelled ∧ Fits levels value

variable {levels : Nat}

theorem isRead_real {decimal : Decimal} {spelled : List Char} (h : RealSpelling decimal spelled) :
    IsRead levels (.real (.decimal decimal)) spelled :=
  ⟨.real h, fits_real⟩

theorem exists_of_readNumber {text rest : List Char} {value : Value}
    (h : readNumber text = .ok (value, rest)) :
    ∃ spelled, text = spelled ++ rest ∧ IsRead levels value spelled := by
  have hsign := signedText_readSign text
  unfold readNumber at h
  generalize readSign text = sign at h hsign
  obtain ⟨negative, unsigned⟩ := sign
  dsimp only at h hsign
  split at h
  · contradiction
  next whole left hwhole =>
    obtain ⟨rfl, hdigits⟩ := exists_of_readWhole hwhole
    cases hfraction : readFraction left with
    | none =>
        simp only [hfraction, Option.map_none, Option.getD_none] at h
        cases hexponent : readExponent left with
        | none =>
            simp only [hexponent, Option.map_none, Option.getD_none] at h
            split at h
            · contradiction
            next hshort =>
              cases h
              refine ⟨signedText negative whole, ?_, .int negative hdigits, ?_⟩
              · rw [hsign, signedText_append]
              · rw [fits_int]
                exact (isShort_signed_iff negative hdigits).2 (Nat.not_lt.1 hshort)
        | some read =>
            obtain ⟨n, after⟩ := read
            simp only [hexponent, Option.map_some, Option.getD_some] at h
            cases h
            obtain ⟨spelled, rfl, hspelled⟩ := exists_of_readExponent hexponent
            refine ⟨_, ?_, isRead_real (.mk negative hdigits (.exponent hspelled))⟩
            rw [hsign, signedText_append, List.append_assoc]
    | some read =>
        obtain ⟨digits, middle⟩ := read
        obtain ⟨rfl, hfractional⟩ := exists_of_readFraction hfraction
        simp only [hfraction, Option.map_some, Option.getD_some] at h
        cases hexponent : readExponent middle with
        | none =>
            simp only [hexponent, Option.map_none, Option.getD_none] at h
            cases h
            refine ⟨_, ?_, isRead_real (.mk negative hdigits (.fraction hfractional))⟩
            rw [hsign, signedText_append, List.append_assoc]
        | some read =>
            obtain ⟨n, after⟩ := read
            simp only [hexponent, Option.map_some, Option.getD_some] at h
            cases h
            obtain ⟨spelled, rfl, hspelled⟩ := exists_of_readExponent hexponent
            refine ⟨_, ?_, isRead_real (.mk negative hdigits (.both hfractional hspelled))⟩
            rw [hsign, signedText_append, List.append_assoc, List.append_assoc]

theorem exists_of_readScalar {text rest : List Char} {value : Value}
    (h : readScalar text = .ok (value, rest)) :
    ∃ spelled, text = spelled ++ rest ∧ IsRead levels value spelled := by
  unfold readScalar at h
  split at h
  next word hword =>
    cases h
    have hmem := List.mem_of_find?_eq_some hword
    have hfound := List.find?_some hword
    have hprefix : word.1 <+: text := List.isPrefixOf_iff_prefix.1 hfound
    exact ⟨word.1, (List.prefix_iff_eq_append.1 hprefix).symm, .word hmem, fits_word hmem⟩
  · exact exists_of_readNumber h

/-! ## Items and members -/

structure Slot.IsSpelled (levels : Nat) (slot : Slot) : Prop where
  padded : slot.IsPadded
  read : IsRead levels slot.value slot.text

structure Entry.IsSpelled (levels : Nat) (entry : Entry) : Prop where
  padded : entry.IsPadded
  name : StringSpelling entry.key entry.name
  read : IsRead levels entry.slot.value entry.slot.text

/-- Items that were read after white space are those of slots that spell them. -/
def ItemsSound (fuel : Nat) : Prop :=
  ∀ {levels spaces text rest items}, Spaces spaces →
    readItems .reject fuel levels text = .ok (items, rest) →
    ∃ slots, slots ≠ [] ∧ (∀ slot ∈ slots, slot.IsSpelled levels) ∧
      items = slots.map Slot.value ∧
      spaces ++ text = separated ']' (slots.map Slot.padded) ++ rest

def MembersSound (fuel : Nat) : Prop :=
  ∀ {levels spaces text rest members}, Spaces spaces →
    readMembers .reject fuel levels text = .ok (members, rest) →
    ∃ entries, entries ≠ [] ∧ (∀ entry ∈ entries, entry.IsSpelled levels) ∧
      members = entries.map Entry.member ∧
      spaces ++ text = separated '\x7d' (entries.map Entry.padded) ++ rest

def ValueSound (fuel : Nat) : Prop :=
  ∀ {levels text rest value}, readValue .reject fuel levels text = .ok (value, rest) →
    ∃ spelled, text = spelled ++ rest ∧ IsRead levels value spelled

theorem exists_slot {spaces text spelled rest left : List Char} {value : Value} {c : Char}
    (hspaces : Spaces spaces) (htext : text = spelled ++ rest) (hread : IsRead levels value spelled)
    (hrest : skipSpace rest = c :: left) :
    ∃ slot : Slot, slot.IsSpelled levels ∧ slot.value = value ∧
      spaces ++ text = slot.padded ++ c :: left := by
  obtain ⟨after, hafter, rfl⟩ := exists_spaces_cons hrest
  refine ⟨⟨spaces, spelled, after, value⟩, ⟨⟨hspaces, hafter⟩, hread⟩, rfl, ?_⟩
  simp [Slot.padded, htext]

theorem separated_cons {closing : Char} {part : List Char} {parts : List (List Char)}
    (h : parts ≠ []) :
    separated closing (part :: parts) = part ++ ',' :: separated closing parts := by
  obtain ⟨next, rest, rfl⟩ := List.exists_cons_of_ne_nil h
  rfl

theorem exists_of_map_ok {α β : Type} {result : Reading α} {f : α → β} {value : β}
    {rest : List Char}
    (h : (result.map fun (read, rest) => (f read, rest)) = .ok (value, rest)) :
    ∃ read, result = .ok (read, rest) ∧ value = f read := by
  cases result with
  | error fault => contradiction
  | ok read =>
      cases h
      exact ⟨read.1, rfl, rfl⟩

theorem itemsSound_succ {fuel : Nat} (hvalues : ValueSound fuel) (ih : ItemsSound fuel) :
    ItemsSound (fuel + 1) := by
  intro levels spaces text rest items hspaces h
  unfold readItems at h
  split at h
  · contradiction
  next item left hitem =>
    obtain ⟨spelled, htext, hread⟩ := hvalues hitem
    split at h
    next last hlast =>
      cases h
      obtain ⟨slot, hslot, rfl, hparts⟩ := exists_slot hspaces htext hread hlast
      refine ⟨[slot], List.cons_ne_nil _ _, List.forall_mem_singleton.2 hslot, rfl, ?_⟩
      rw [hparts]
      simp [separated]
    next more hmore =>
      obtain ⟨others, hothers, rfl⟩ := exists_of_map_ok h
      obtain ⟨slot, hslot, rfl, hparts⟩ := exists_slot hspaces htext hread hmore
      obtain ⟨between, hbetween, hnext⟩ := exists_spaces more
      obtain ⟨slots, hne, hslots, rfl, hrest⟩ := ih hbetween hothers
      refine ⟨slot :: slots, List.cons_ne_nil _ _, List.forall_mem_cons.2 ⟨hslot, hslots⟩, rfl, ?_⟩
      rw [hparts, hnext, hrest, List.map_cons, separated_cons (by simpa using hne),
        List.append_assoc, List.cons_append]
    · contradiction

theorem exists_entry {spaces name rest left : List Char} {key : JsonString} {slot : Slot}
    (hspaces : Spaces spaces) (hname : StringSpelling key name) (hslot : slot.IsSpelled levels)
    (hcolon : skipSpace rest = ':' :: left) :
    ∃ entry : Entry, entry.IsSpelled levels ∧ entry.slot = slot ∧ entry.key = key ∧
      ∀ after, left = slot.padded ++ after →
        spaces ++ '"' :: (name ++ '"' :: rest) = entry.padded ++ after := by
  obtain ⟨between, hbetween, rfl⟩ := exists_spaces_cons hcolon
  refine ⟨⟨spaces, key, name, between, slot⟩, ⟨⟨hspaces, hbetween, hslot.padded⟩, hname, hslot.read⟩,
    rfl, rfl, ?_⟩
  rintro after rfl
  simp [Entry.padded]

theorem membersSound_succ {fuel : Nat} (hvalues : ValueSound fuel) (ih : MembersSound fuel) :
    MembersSound (fuel + 1) := by
  intro levels spaces text rest members hspaces h
  unfold readMembers at h
  split at h
  next quoted =>
    split at h
    · contradiction
    next key afterKey hkey =>
      obtain ⟨name, rfl, hname⟩ := exists_of_readString hkey
      split at h
      next afterColon hcolon =>
        split at h
        · contradiction
        next value left hvalue =>
          obtain ⟨before, hbefore, hpadded⟩ := exists_spaces afterColon
          obtain ⟨spelled, htext, hread⟩ := hvalues hvalue
          split at h
          next last hlast =>
            cases h
            obtain ⟨slot, hslot, rfl, hslotted⟩ := exists_slot hbefore htext hread hlast
            obtain ⟨entry, hentry, rfl, rfl, hparts⟩ := exists_entry hspaces hname hslot hcolon
            refine ⟨[entry], List.cons_ne_nil _ _, List.forall_mem_singleton.2 hentry, rfl, ?_⟩
            rw [hparts _ (hpadded.trans hslotted)]
            simp [separated]
          next more hmore =>
            obtain ⟨others, hothers, rfl⟩ := exists_of_map_ok h
            obtain ⟨slot, hslot, rfl, hslotted⟩ := exists_slot hbefore htext hread hmore
            obtain ⟨entry, hentry, rfl, rfl, hparts⟩ := exists_entry hspaces hname hslot hcolon
            obtain ⟨between, hbetween, hnext⟩ := exists_spaces more
            obtain ⟨entries, hne, hentries, rfl, hrest⟩ := ih hbetween hothers
            refine ⟨entry :: entries, List.cons_ne_nil _ _,
              List.forall_mem_cons.2 ⟨hentry, hentries⟩, rfl, ?_⟩
            rw [hparts _ (hpadded.trans hslotted), hnext, hrest, List.map_cons,
              separated_cons (by simpa using hne), List.append_assoc, List.cons_append]
          · contradiction
      · contradiction
  · contradiction

/-! ## Values -/

theorem isRead_array {slots : List Slot} (hne : slots ≠ [])
    (hslots : ∀ slot ∈ slots, slot.IsSpelled levels) :
    IsRead (levels + 1) (.array (slots.map Slot.value))
      ('[' :: separated ']' (slots.map Slot.padded)) :=
  ⟨.array hne (fun slot hslot => (hslots slot hslot).padded)
      fun slot hslot => (hslots slot hslot).read.1,
    fits_slots.2 ⟨levels, rfl, fun slot hslot => (hslots slot hslot).read.2⟩⟩

theorem isRead_object {entries : List Entry} (hne : entries ≠ [])
    (hentries : ∀ entry ∈ entries, entry.IsSpelled levels)
    (hkeys : Members.repeated? [] (entries.map Entry.member) = none) :
    IsRead (levels + 1) (.object (entries.map Entry.member))
      ('\x7b' :: separated '\x7d' (entries.map Entry.padded)) :=
  ⟨.object hne (fun entry hentry => (hentries entry hentry).padded)
      (fun entry hentry => (hentries entry hentry).name) hkeys
      fun entry hentry => (hentries entry hentry).read.1,
    fits_entries.2 ⟨levels, rfl, fun entry hentry => (hentries entry hentry).read.2⟩⟩

theorem closeObject_reject_eq_ok {members : Members} {left rest : List Char} {value : Value}
    (h : closeObject .reject members left = .ok (value, rest)) :
    Members.repeated? [] members = none ∧ value = .object members ∧ left = rest := by
  unfold closeObject at h
  dsimp only at h
  split at h
  · contradiction
  next hkeys =>
    cases h
    exact ⟨hkeys, rfl, rfl⟩

theorem valueSound_succ {fuel : Nat} (hitems : ItemsSound fuel) (hmembers : MembersSound fuel) :
    ValueSound (fuel + 1) := by
  intro levels text rest value h
  unfold readValue at h
  split at h
  next quoted =>
    obtain ⟨s, hread, rfl⟩ := exists_of_map_ok h
    obtain ⟨spelled, rfl, hspelled⟩ := exists_of_readString hread
    exact ⟨_, by simp, .text hspelled, fits_text⟩
  next => contradiction
  next inner levels =>
    split at h
    next last hlast =>
      cases h
      obtain ⟨spaces, hspaces, rfl⟩ := exists_spaces_cons hlast
      exact ⟨_, by simp, .emptyArray hspaces, fits_array.2 ⟨levels, rfl, List.forall_mem_nil _⟩⟩
    next hmore =>
      obtain ⟨items, hread, rfl⟩ := exists_of_map_ok h
      obtain ⟨spaces, hspaces, htext⟩ := exists_spaces inner
      obtain ⟨slots, hne, hslots, rfl, hparts⟩ := hitems hspaces hread
      refine ⟨_, ?_, isRead_array hne hslots⟩
      rw [List.cons_append, ← hparts, ← htext]
  next => contradiction
  next inner levels =>
    split at h
    next last hlast =>
      cases h
      obtain ⟨spaces, hspaces, rfl⟩ := exists_spaces_cons hlast
      exact ⟨_, by simp, .emptyObject hspaces,
        fits_object.2 ⟨levels, rfl, List.forall_mem_nil _⟩⟩
    next hmore =>
      split at h
      · contradiction
      next members left hread =>
        obtain ⟨hkeys, rfl, rfl⟩ := closeObject_reject_eq_ok h
        obtain ⟨spaces, hspaces, htext⟩ := exists_spaces inner
        obtain ⟨entries, hne, hentries, rfl, hparts⟩ := hmembers hspaces hread
        refine ⟨_, ?_, isRead_object hne hentries hkeys⟩
        rw [List.cons_append, ← hparts, ← htext]
  · exact exists_of_readScalar h

theorem sound (fuel : Nat) : ValueSound fuel ∧ ItemsSound fuel ∧ MembersSound fuel := by
  induction fuel with
  | zero =>
      refine ⟨?_, ?_, ?_⟩
      · intro levels text rest value h
        contradiction
      · intro levels spaces text rest items hspaces h
        contradiction
      · intro levels spaces text rest members hspaces h
        contradiction
  | succ fuel ih =>
      obtain ⟨hvalue, hitems, hmembers⟩ := ih
      exact ⟨valueSound_succ hitems hmembers, itemsSound_succ hvalue hitems,
        membersSound_succ hvalue hmembers⟩

/-- The texts that are read are the spellings of values that can be read, in white space. -/
theorem readText_eq_ok_iff {text : List Char} {value : Value} :
    readText .reject text levels = .ok value ↔
      ∃ before spelled after, text = before ++ spelled ++ after ∧ Spaces before ∧
        Spaces after ∧ IsRead levels value spelled := by
  constructor
  · intro h
    unfold readText at h
    split at h
    · contradiction
    split at h
    · contradiction
    next read rest hread =>
      split at h
      next hrest =>
        cases h
        obtain ⟨before, hbefore, htext⟩ := exists_spaces text
        obtain ⟨spelled, hspelled, hvalue⟩ := (sound _).1 hread
        obtain ⟨after, hafter, hend⟩ := exists_spaces rest
        rw [hrest, List.append_nil] at hend
        refine ⟨before, spelled, rest, ?_, hbefore, hend ▸ hafter, hvalue⟩
        rw [List.append_assoc, ← hspelled, ← htext]
      · contradiction
  · rintro ⟨before, spelled, after, rfl, hbefore, hafter, hspells, hfits⟩
    exact readText_of_spells .reject hbefore hspells hfits hafter

end QueryBindings.Json
