import Mathlib.Data.List.TakeWhile
import QueryBindings.Proofs.Query.Identifiers

/-!
# Which names are accepted

A word is a capital with small letters after it, and the longest word that a name begins
with decides what the name is read as.  Every text is accepted, malformed, or begins with a
word that is no action word, and it is exactly one of the three.
-/

namespace QueryBindings

namespace Action

theorem toLower_capital (action : Action) : action.capital.toLower = action.small := by
  cases action <;> decide

theorem ofWord?_eq_none_iff {word : String} : ofWord? word = none ↔ word ∉ actionWords := by
  rw [ofWord?, List.find?_eq_none, ← map_word_all]
  simp only [beq_iff_eq, List.mem_map, not_exists, not_and]

end Action

namespace QueryName

/-! ## Words -/

/-- A capital and the small letters after it, of which there is at least one. -/
def IsWord (word : List Char) : Prop :=
  ∃ capital small, word = capital :: small ∧ isCapital capital = true ∧ small ≠ [] ∧
    ∀ c ∈ small, isSmall c = true

/-- The longest of the words that a text begins with. -/
structure IsLongestWord (word text : List Char) : Prop where
  isWord : IsWord word
  begins : word <+: text
  longest : ∀ other, IsWord other → other <+: text → other.length ≤ word.length

/-- A text that no small letter begins, so that a word in front of it goes no further. -/
def EndsWord (rest : List Char) : Prop :=
  ∀ c ∈ rest.head?, isSmall c = false

def BeginsWithWord (text : List Char) : Prop :=
  ∃ capital small rest, text = capital :: small :: rest ∧ isCapital capital = true ∧
    isSmall small = true

/-- The word of an action and a text that does not go on with it. -/
def BeginsWithAction (text : List Char) (action : Action) : Prop :=
  ∃ rest, text = action.word.toList ++ rest ∧ EndsWord rest

theorem IsWord.concat {word : List Char} {c : Char} (h : IsWord word) (hc : isSmall c = true) :
    IsWord (word ++ [c]) := by
  obtain ⟨capital, small, rfl, hcapital, hne, hsmall⟩ := h
  refine ⟨capital, small ++ [c], rfl, hcapital, by simp, ?_⟩
  intro other hother
  rcases List.mem_append.1 hother with hmem | hmem
  · exact hsmall other hmem
  · rw [List.mem_singleton.1 hmem]
    exact hc

theorem IsWord.isSmall_of_append_cons {word rest : List Char} {c : Char} (h : IsWord word)
    (hother : IsWord (word ++ c :: rest)) : isSmall c = true := by
  obtain ⟨capital, small, rfl, _⟩ := h
  obtain ⟨_, others, hequal, _, _, hsmall⟩ := hother
  obtain ⟨_, rfl⟩ := List.cons.inj hequal
  exact hsmall c (by simp)

theorem IsWord.beginsWithWord {word text : List Char} (h : IsWord word)
    (hstart : word <+: text) : BeginsWithWord text := by
  obtain ⟨capital, small, rfl, hcapital, hne, hsmall⟩ := h
  obtain ⟨rest, rfl⟩ := hstart
  obtain ⟨c, others, rfl⟩ := List.exists_cons_of_ne_nil hne
  exact ⟨capital, c, others ++ rest, rfl, hcapital, hsmall c List.mem_cons_self⟩

theorem isWord_word (action : Action) : IsWord action.word.toList := by
  cases action <;> exact ⟨_, _, rfl, by decide, by decide, List.all_eq_true.1 (by decide)⟩

/-- A word is the longest one exactly if the text does not go on with it. -/
theorem isLongestWord_iff {word text : List Char} :
    IsLongestWord word text ↔ IsWord word ∧ ∃ rest, text = word ++ rest ∧ EndsWord rest := by
  constructor
  · intro h
    obtain ⟨rest, rfl⟩ := h.begins
    refine ⟨h.isWord, rest, rfl, ?_⟩
    intro c hc
    obtain ⟨others, rfl⟩ := List.head?_eq_some_iff.1 hc
    by_contra hsmall
    have hword : IsWord (word ++ [c]) := h.isWord.concat (by simpa using hsmall)
    have hlonger := h.longest (word ++ [c]) hword ⟨others, by simp⟩
    rw [List.length_append, List.length_singleton] at hlonger
    omega
  · rintro ⟨hword, rest, rfl, hends⟩
    refine ⟨hword, List.prefix_append word rest, ?_⟩
    intro other hother hstart
    by_contra hlonger
    obtain ⟨between, rfl⟩ := List.prefix_of_prefix_length_le (List.prefix_append word rest)
      hstart (by omega)
    cases between with
    | nil => simp at hlonger
    | cons c between =>
        obtain ⟨others, rfl⟩ := (List.prefix_append_right_inj word).1 hstart
        have hsmall := hword.isSmall_of_append_cons hother
        rw [hends c rfl] at hsmall
        contradiction

theorem beginsWithAction_iff {text : List Char} {action : Action} :
    BeginsWithAction text action ↔ IsLongestWord action.word.toList text := by
  rw [isLongestWord_iff]
  exact ⟨fun h => ⟨isWord_word action, h⟩, And.right⟩

/-! ## The leading word -/

theorem leadingWord?_append {word rest : List Char} (hword : IsWord word)
    (hends : EndsWord rest) : leadingWord? (word ++ rest) = some word := by
  obtain ⟨capital, small, rfl, hcapital, hne, hsmall⟩ := hword
  have hrest : rest.takeWhile isSmall = [] := by
    cases rest with
    | nil => rfl
    | cons c others => exact List.takeWhile_cons_of_neg (by simp [hends c rfl])
  have hrun : (small ++ rest).takeWhile isSmall = small := by
    rw [List.takeWhile_append_of_pos hsmall, hrest, List.append_nil]
  rw [List.cons_append, leadingWord?, hrun]
  simp [hcapital, hne]

theorem leadingWord?_eq_some_iff {text word : List Char} :
    leadingWord? text = some word ↔ IsLongestWord word text := by
  rw [isLongestWord_iff]
  constructor
  · intro h
    cases text with
    | nil => contradiction
    | cons capital rest =>
        rw [leadingWord?] at h
        split at h
        next hletters =>
          cases h
          simp only [Bool.and_eq_true, Bool.not_eq_true', List.isEmpty_eq_false_iff] at hletters
          refine ⟨⟨capital, _, rfl, hletters.1, hletters.2, fun c => List.mem_takeWhile_imp⟩,
            rest.dropWhile isSmall, ?_, ?_⟩
          · rw [List.cons_append, List.takeWhile_append_dropWhile]
          · intro c hc
            have hhead := List.head?_dropWhile_not isSmall rest
            rw [Option.mem_def.1 hc] at hhead
            exact hhead
        next => contradiction
  · rintro ⟨hword, rest, rfl, hends⟩
    exact leadingWord?_append hword hends

theorem leadingWord?_eq_none_iff {text : List Char} :
    leadingWord? text = none ↔ ¬ BeginsWithWord text := by
  rw [← Option.not_isSome_iff_eq_none, Option.isSome_iff_exists, not_iff_not]
  constructor
  · rintro ⟨word, hword⟩
    have hlongest := leadingWord?_eq_some_iff.1 hword
    exact hlongest.isWord.beginsWithWord hlongest.begins
  · rintro ⟨capital, small, rest, rfl, hcapital, hsmall⟩
    exact ⟨capital :: small :: rest.takeWhile isSmall, by simp [leadingWord?, hcapital, hsmall]⟩

/-! ## Reading names -/

variable {text : String}

theorem parse_of_leadingWord (action : Action)
    (h : leadingWord? text.toList = some action.word.toList) :
    parse text = .ok ⟨text, Text.lowerFirst text, action⟩ := by
  have haction : Action.ofWord? (String.ofList action.word.toList) = some action := by
    rw [String.ofList_toList]
    exact Action.ofWord?_word action
  unfold parse
  rw [h]
  dsimp only
  rw [haction]

theorem parse_of_action {action : Action} (h : BeginsWithAction text.toList action) :
    parse text = .ok ⟨text, Text.lowerFirst text, action⟩ :=
  parse_of_leadingWord action (leadingWord?_eq_some_iff.2 (beginsWithAction_iff.1 h))

theorem parse_of_no_word (h : ¬ BeginsWithWord text.toList) :
    parse text = .error (.malformedName text) := by
  rw [parse, leadingWord?_eq_none_iff.2 h]

theorem parse_of_unknown_word {word : String} (h : IsLongestWord word.toList text.toList)
    (hword : word ∉ actionWords) : parse text = .error (.unrecognizedAction text word) := by
  have hnone : Action.ofWord? (String.ofList word.toList) = none := by
    rw [String.ofList_toList]
    exact Action.ofWord?_eq_none_iff.2 hword
  unfold parse
  rw [leadingWord?_eq_some_iff.2 h]
  dsimp only
  rw [hnone, String.ofList_toList]

/-- What a text is read as, which is settled by how it begins. -/
inductive Verdict (text : String) : Except QueryFault QueryName → Prop where
  | accepted {action : Action} (hbegins : BeginsWithAction text.toList action) :
      Verdict text (.ok ⟨text, Text.lowerFirst text, action⟩)
  | malformed (hbegins : ¬ BeginsWithWord text.toList) :
      Verdict text (.error (.malformedName text))
  | unrecognized {word : String} (hlongest : IsLongestWord word.toList text.toList)
      (hword : word ∉ actionWords) : Verdict text (.error (.unrecognizedAction text word))

theorem verdict_parse (text : String) : Verdict text (parse text) := by
  cases hleading : leadingWord? text.toList with
  | none =>
      have hbegins := leadingWord?_eq_none_iff.1 hleading
      rw [parse_of_no_word hbegins]
      exact .malformed hbegins
  | some letters =>
      have hlongest : IsLongestWord (String.ofList letters).toList text.toList := by
        rw [String.toList_ofList]
        exact leadingWord?_eq_some_iff.1 hleading
      cases haction : Action.ofWord? (String.ofList letters) with
      | none =>
          have hword := Action.ofWord?_eq_none_iff.1 haction
          rw [parse_of_unknown_word hlongest hword]
          exact .unrecognized hlongest hword
      | some action =>
          rw [← Action.word_of_ofWord? haction] at hlongest
          have hbegins := beginsWithAction_iff.2 hlongest
          rw [parse_of_action hbegins]
          exact .accepted hbegins

theorem beginsWithAction_of_parse {name : QueryName} (h : parse text = .ok name) :
    BeginsWithAction text.toList name.action := by
  have hverdict := verdict_parse text
  rw [h] at hverdict
  cases hverdict with
  | accepted hbegins => exact hbegins

/-- What an accepted text is read as, its action apart. -/
structure IsReadAs (text : String) (name : QueryName) : Prop where
  name_eq : name.name = text
  mode : name.connectionMode = .read ↔ name.action = .get
  valueName : ∃ first rest, text.toList = first :: rest ∧
    name.valueName.toList = first.toLower :: rest
  /-- The constant belongs to no other text. -/
  unique : ∀ other otherName, parse other = .ok otherName →
    otherName.valueName = name.valueName → other = text

theorem connectionMode_eq_read_iff {name : QueryName} :
    name.connectionMode = .read ↔ name.action = .get := by
  unfold connectionMode
  cases name.action <;> simp [Action.connectionMode]

theorem isReadAs_of_parse {name : QueryName} (h : parse text = .ok name) : IsReadAs text name := by
  have hparsed := isParsed_of_parse h
  have hname := name_of_parse h
  refine ⟨hname, connectionMode_eq_read_iff, ?valueName, ?unique⟩
  case valueName =>
    obtain ⟨rest, hletters, hvalue⟩ := exists_rest_of_isParsed hparsed
    rw [hname] at hletters
    exact ⟨name.action.capital, rest, hletters, by rw [hvalue, Action.toLower_capital]⟩
  case unique =>
    intro other otherName hother hvalue
    rw [← hname, ← name_of_parse hother]
    exact name_eq_of_valueName_eq (isParsed_of_parse hother) hparsed hvalue

/--
Texts are told apart by the longest word they begin with.  A text is accepted, with the
action of that word, exactly if it is an action word; it is malformed exactly if it begins
with no word at all; in all other cases the word is no action word and is reported.
-/
theorem parse_settles_every_name (text : String) :
    (∀ action, (∃ name, parse text = .ok name ∧ name.action = action) ↔
      BeginsWithAction text.toList action) ∧
    (∀ name, parse text = .ok name → IsReadAs text name) ∧
    (∀ shown, parse text = .error (.malformedName shown) ↔
      shown = text ∧ ¬ BeginsWithWord text.toList) ∧
    (∀ shown word, parse text = .error (.unrecognizedAction shown word) ↔
      shown = text ∧ IsLongestWord word.toList text.toList ∧ word ∉ actionWords) ∧
    (BeginsWithWord text.toList → (∀ action, ¬ BeginsWithAction text.toList action) →
      ∃ word, parse text = .error (.unrecognizedAction text word)) := by
  have hverdict := verdict_parse text
  refine ⟨?accepted, fun name => isReadAs_of_parse, ?malformed, ?unrecognized, ?remaining⟩
  case accepted =>
    intro action
    constructor
    · rintro ⟨name, h, rfl⟩
      exact beginsWithAction_of_parse h
    · intro hbegins
      exact ⟨_, parse_of_action hbegins, rfl⟩
  case malformed =>
    intro shown
    constructor
    · intro h
      rw [h] at hverdict
      cases hverdict with
      | malformed hbegins => exact ⟨rfl, hbegins⟩
    · rintro ⟨rfl, hbegins⟩
      exact parse_of_no_word hbegins
  case unrecognized =>
    intro shown word
    constructor
    · intro h
      rw [h] at hverdict
      cases hverdict with
      | unrecognized hlongest hword => exact ⟨rfl, hlongest, hword⟩
    · rintro ⟨rfl, hlongest, hword⟩
      exact parse_of_unknown_word hlongest hword
  case remaining =>
    intro hbegins hnone
    generalize hresult : parse text = result at hverdict
    cases hverdict with
    | accepted haction => exact absurd haction (hnone _)
    | malformed hmissing => exact absurd hbegins hmissing
    | unrecognized => exact ⟨_, rfl⟩

example : leadingWord? "GetÉtat".toList = some "Get".toList ∧
    parse "Getusers" = .error (.unrecognizedAction "Getusers" "Getusers") := by decide

end QueryName

end QueryBindings
