import QueryBindings.Proofs.Options.Loading
import QueryBindings.Proofs.Text.Utf8

/-!
# Sources of options

Options mean the same as a value, as a text that spells the value and as the bytes of the
text, unless they go beyond a limit of readers.  Such a value is loaded all the same; its
texts are refused, and not for a fault of the options.
-/

namespace QueryBindings.Options

open Json (JsonString Members Value Spaces spaces_nil Spells Exceeds Fits WholeDigits
  mostIntegerDigits stringSpelling_plain)
open Log (Traced)

theorem load_bytes_encodeChars (document : List Char) (levels : Nat) :
    load (.bytes (Text.encodeChars document)) levels = load (.text document) levels := by
  simp [load, ofBytes, Text.decodeChars_encodeChars]

theorem not_all_isBlank {members : Members} {text : List Char}
    (h : Spells (.object members) text) (before after : List Char) :
    (before ++ text ++ after).all Text.isBlank = false := by
  have hbrace : Text.isBlank '\x7b' = false := by decide
  cases h with
  | word h => simp [Json.wordValues] at h
  | emptyObject _ => simp [hbrace]
  | object _ _ _ _ _ => simp [hbrace]

section Texts

variable {members : Members} {before text after : List Char} (hbefore : Spaces before)
  (hspells : Spells (.object members) text) (hafter : Spaces after) {levels : Nat}

include hbefore hspells hafter

theorem load_text_of_spells_beyond (hbeyond : ¬ Fits levels (.object members)) :
    ∃ limit fault, Exceeds limit levels (.object members) ∧ fault.Reports limit ∧
      load (.text (before ++ text ++ after)) levels = .fail fault := by
  obtain ⟨limit, fault, hexceeds, hreports, hread⟩ :=
    Json.readText_of_spells_beyond .keepLast hbefore hspells hbeyond hafter
  refine ⟨limit, _, hexceeds, ⟨before ++ text ++ after, fault, hreports, rfl⟩, ?_⟩
  unfold load ofText
  dsimp only
  rw [not_all_isBlank hspells, if_neg (by simp), hread]

end Texts

/-- Settings in which keys and values are partly escaped, with a number of each kind. -/
def settingsEntries : List Json.Entry :=
  [⟨[], typesPathKey, "types\\u005fpath".toList, [' '],
      ⟨['\n'], "\".\\/types\"".toList, [], .text (JsonString.ofString "./types")⟩⟩,
    ⟨[' '], JsonString.ofString "limit", "limit".toList, [],
      ⟨[], "-12".toList, [' '], .int (-12)⟩⟩,
    ⟨[], JsonString.ofString "scale", "scale".toList, [],
      ⟨[' '], "1.50E+2".toList, [], .real (.decimal ⟨false, 150, 0⟩)⟩⟩]

def settings : Members := settingsEntries.map Json.Entry.member

section LongIntegers

variable (digits : List Char)

def textWithInteger : List Char :=
  '\x7b' :: '"' :: ("limit".toList ++ '"' :: ':' ::
    (digits ++ ",\"types_path\":\"./types\"\x7d".toList))

def entriesWithInteger : List Json.Entry :=
  [⟨[], JsonString.ofString "limit", "limit".toList, [],
      ⟨[], digits, [], .int (Json.signed false digits)⟩⟩,
    ⟨[], typesPathKey, "types_path".toList, [],
      ⟨[], "\"./types\"".toList, [], .text (JsonString.ofString "./types")⟩⟩]

def settingsWithInteger : Members := (entriesWithInteger digits).map Json.Entry.member

theorem spells_settingsWithInteger (h : WholeDigits digits) :
    Spells (.object (settingsWithInteger digits)) (textWithInteger digits) := by
  have htext : textWithInteger digits =
      '\x7b' :: Json.separated '\x7d' ((entriesWithInteger digits).map Json.Entry.padded) := by
    simp [textWithInteger, entriesWithInteger, Json.separated, Json.Entry.padded,
      Json.Slot.padded]
  rw [htext]
  refine .object (by simp [entriesWithInteger]) ?_ ?_ rfl ?_
  · simp only [entriesWithInteger, List.forall_mem_cons]
    exact ⟨⟨spaces_nil, spaces_nil, ⟨spaces_nil, spaces_nil⟩⟩,
      ⟨spaces_nil, spaces_nil, ⟨spaces_nil, spaces_nil⟩⟩, by simp⟩
  · simp only [entriesWithInteger, List.forall_mem_cons]
    exact ⟨stringSpelling_plain "limit".toList (by decide),
      stringSpelling_plain "types_path".toList (by decide), by simp⟩
  · simp only [entriesWithInteger, List.forall_mem_cons]
    exact ⟨.int false h, .text (stringSpelling_plain "./types".toList (by decide)), by simp⟩

end LongIntegers

theorem limit_eq_digits_of_exceeds {digits : List Char} {limit : Json.Limit}
    (h : Exceeds limit Json.mostLevels (.object (settingsWithInteger digits))) :
    limit = .digits := by
  obtain ⟨member, hmember, hexceeds⟩ := Json.exceeds_object_succ.1 h
  simp only [settingsWithInteger, entriesWithInteger, List.map_cons, List.map_nil, List.mem_cons,
    List.not_mem_nil, or_false] at hmember
  rcases hmember with rfl | rfl
  · exact (Json.exceeds_int.1 hexceeds).1
  · exact absurd hexceeds (Json.fits_text limit)

theorem load_textWithInteger {digits : List Char} (hdigits : WholeDigits digits)
    (hlong : mostIntegerDigits < digits.length) :
    ∃ fault, fault.Reports .digits ∧
      load (.bytes (Text.encodeChars (textWithInteger digits))) = .fail fault := by
  have hbeyond : ¬ Fits Json.mostLevels (.object (settingsWithInteger digits)) :=
    Json.not_fits_of_long_member hdigits hlong List.mem_cons_self Json.mostLevels
  obtain ⟨limit, fault, hexceeds, hreports, hload⟩ := load_text_of_spells_beyond spaces_nil
    (spells_settingsWithInteger digits hdigits) spaces_nil hbeyond
  obtain rfl := limit_eq_digits_of_exceeds hexceeds
  rw [List.nil_append, List.append_nil] at hload
  exact ⟨fault, hreports, (load_bytes_encodeChars _ _).trans hload⟩

end QueryBindings.Options
