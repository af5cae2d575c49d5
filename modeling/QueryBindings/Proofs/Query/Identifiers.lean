import Mathlib.Data.List.Nodup
import QueryBindings.Proofs.Layout.Block

/-!
# Identifiers of queries

The types of a query are named after it with one of six endings, and its constant has
its name with a small first letter.  No ending ends in another one, and the small first
letter of an action word tells which capital it was, so every identifier belongs to
one query.
-/

namespace QueryBindings

namespace Action

def capital : Action → Char
  | get => 'G'
  | insert => 'I'
  | update | upsert => 'U'
  | delete => 'D'

def small : Action → Char
  | get => 'g'
  | insert => 'i'
  | update | upsert => 'u'
  | delete => 'd'

theorem exists_word_eq_capital_cons (action : Action) :
    ∃ rest, action.word.toList = action.capital :: rest := by
  cases action <;> exact ⟨_, rfl⟩

theorem lowerChar_capital (action : Action) :
    Text.lowerChar action.capital = [action.small] := by
  cases action <;> decide

theorem capital_eq_of_small_eq {first second : Action} (h : first.small = second.small) :
    first.capital = second.capital := by
  revert h
  cases first <;> cases second <;> decide

theorem small_ne_capital (first second : Action) : first.small ≠ second.capital := by
  cases first <;> cases second <;> decide

theorem word_of_ofWord? {word : String} {action : Action} (h : ofWord? word = some action) :
    action.word = word := by
  have hfound := List.find?_some h
  simpa using hfound

end Action

namespace QueryName

/-- A name as it is read from its own text. -/
def IsParsed (name : QueryName) : Prop :=
  parse name.name = .ok name

theorem isParsed_of_parse {text : String} {name : QueryName} (h : parse text = .ok name) :
    name.IsParsed := by
  unfold IsParsed
  rw [name_of_parse h, h]

theorem valueName_of_parse {text : String} {name : QueryName} (h : parse text = .ok name) :
    name.valueName = Text.lowerFirst text := by
  unfold parse at h
  split at h
  · contradiction
  · split at h
    · contradiction
    · cases h
      rfl

/-- The identifiers of a query: those of its six types, then that of its constant. -/
def identifiers (name : QueryName) : List String :=
  name.typeNames ++ [name.valueName]

theorem typeNames_eq_map (name : QueryName) :
    name.typeNames = Block.typeSuffixes.map (name.name ++ ·) := rfl

theorem typeSuffixes_suffixFree :
    ∀ first ∈ Block.typeSuffixes, ∀ second ∈ Block.typeSuffixes,
      first.toList <:+ second.toList → first = second := by
  decide

theorem mem_typeNames {name : QueryName} {identifier : String} :
    identifier ∈ name.typeNames ↔
      ∃ ending ∈ Block.typeSuffixes, name.name ++ ending = identifier := by
  rw [typeNames_eq_map, List.mem_map]

theorem eq_of_append_typeSuffix {name other first second : String}
    (hfirst : first ∈ Block.typeSuffixes) (hsecond : second ∈ Block.typeSuffixes)
    (h : name ++ first = other ++ second) : name = other := by
  have hchars := congrArg String.toList h
  rw [String.toList_append, String.toList_append] at hchars
  have hsame : first = second := by
    rcases List.append_eq_append_iff.1 hchars with ⟨between, _, htail⟩ | ⟨between, _, htail⟩
    · exact (typeSuffixes_suffixFree second hsecond first hfirst ⟨between, htail.symm⟩).symm
    · exact typeSuffixes_suffixFree first hfirst second hsecond ⟨between, htail.symm⟩
  rw [hsame] at hchars
  exact String.toList_inj.1 (List.append_cancel_right hchars)

theorem name_eq_of_mem_typeNames {first second : QueryName} {identifier : String}
    (hfirst : identifier ∈ first.typeNames) (hsecond : identifier ∈ second.typeNames) :
    first.name = second.name := by
  obtain ⟨ending, hending, rfl⟩ := mem_typeNames.1 hfirst
  obtain ⟨other, hother, hequal⟩ := mem_typeNames.1 hsecond
  exact eq_of_append_typeSuffix hending hother hequal.symm

theorem nodup_typeNames (name : QueryName) : name.typeNames.Nodup := by
  have hsuffixes : Block.typeSuffixes.Nodup := by decide
  rw [typeNames_eq_map]
  exact hsuffixes.map fun _ _ => (String.append_right_inj name.name).1

theorem leadingWord?_eq_some {chars word : List Char} (h : leadingWord? chars = some word) :
    word <+: chars := by
  cases chars with
  | nil => contradiction
  | cons c rest =>
      rw [leadingWord?] at h
      split at h
      · cases h
        exact List.cons_prefix_cons.2 ⟨rfl, List.takeWhile_prefix _⟩
      · contradiction

variable {name first second : QueryName} {identifier : String}

theorem exists_rest_of_isParsed (h : name.IsParsed) :
    ∃ rest, name.name.toList = name.action.capital :: rest ∧
      name.valueName.toList = name.action.small :: rest := by
  have hvalue := valueName_of_parse h
  unfold IsParsed parse at h
  split at h
  · contradiction
  next word hword =>
    split at h
    · contradiction
    next action haction =>
      obtain ⟨after, hafter⟩ := leadingWord?_eq_some hword
      obtain ⟨rest, hrest⟩ := action.exists_word_eq_capital_cons
      have hletters : word = action.word.toList := by
        rw [Action.word_of_ofWord? haction, String.toList_ofList]
      rw [hletters, hrest, List.cons_append] at hafter
      have hsame := Except.ok.inj h
      have hnamed : name.action = action := by rw [← hsame]
      refine ⟨rest ++ after, ?_, ?_⟩
      · rw [hnamed, hafter]
      · rw [hvalue, hnamed, Text.lowerFirst, String.toList_ofList, ← hafter,
          Text.lowerFirstChars, action.lowerChar_capital]
        rfl

theorem name_eq_of_valueName_eq (hfirst : first.IsParsed) (hsecond : second.IsParsed)
    (h : first.valueName = second.valueName) : first.name = second.name := by
  obtain ⟨rest, hname, hvalue⟩ := exists_rest_of_isParsed hfirst
  obtain ⟨others, hotherName, hotherValue⟩ := exists_rest_of_isParsed hsecond
  rw [h, hotherValue] at hvalue
  injection hvalue with hsmall hrest
  have hcapital := Action.capital_eq_of_small_eq hsmall
  rw [← String.toList_inj, hname, hotherName, hcapital, hrest]

theorem head_of_mem_typeNames (h : name.IsParsed) (hmem : identifier ∈ name.typeNames) :
    identifier.toList.head? = some name.action.capital := by
  obtain ⟨ending, _, rfl⟩ := mem_typeNames.1 hmem
  obtain ⟨rest, hname, _⟩ := exists_rest_of_isParsed h
  rw [String.toList_append, hname]
  rfl

theorem head_of_valueName (h : name.IsParsed) :
    name.valueName.toList.head? = some name.action.small := by
  obtain ⟨rest, _, hvalue⟩ := exists_rest_of_isParsed h
  rw [hvalue]
  rfl

theorem valueName_not_mem_typeNames (hfirst : first.IsParsed) (hsecond : second.IsParsed) :
    first.valueName ∉ second.typeNames := by
  intro hmem
  have hcapital := head_of_mem_typeNames hsecond hmem
  rw [head_of_valueName hfirst] at hcapital
  exact Action.small_ne_capital _ _ (Option.some.inj hcapital)

theorem mem_identifiers :
    identifier ∈ name.identifiers ↔ identifier ∈ name.typeNames ∨ identifier = name.valueName := by
  simp [identifiers]

theorem name_eq_of_mem_identifiers (hfirst : first.IsParsed) (hsecond : second.IsParsed)
    (hmem : identifier ∈ first.identifiers) (hother : identifier ∈ second.identifiers) :
    first.name = second.name := by
  rcases mem_identifiers.1 hmem with htype | rfl
  · rcases mem_identifiers.1 hother with hothers | rfl
    · exact name_eq_of_mem_typeNames htype hothers
    · exact absurd htype (valueName_not_mem_typeNames hsecond hfirst)
  · rcases mem_identifiers.1 hother with hothers | hvalue
    · exact absurd hothers (valueName_not_mem_typeNames hfirst hsecond)
    · exact name_eq_of_valueName_eq hfirst hsecond hvalue

theorem nodup_identifiers (h : name.IsParsed) : name.identifiers.Nodup := by
  refine List.nodup_append.2 ⟨name.nodup_typeNames, List.nodup_singleton _, ?_⟩
  intro identifier hmem other hother hequal
  rw [List.mem_singleton.1 hother] at hequal
  exact valueName_not_mem_typeNames h h (hequal ▸ hmem)

theorem head_of_mem_identifiers (h : name.IsParsed) (hmem : identifier ∈ name.identifiers) :
    identifier.toList.head? = some name.action.capital ∨
      identifier.toList.head? = some name.action.small := by
  rcases mem_identifiers.1 hmem with htype | rfl
  · exact .inl (head_of_mem_typeNames h htype)
  · exact .inr (head_of_valueName h)

end QueryName

end QueryBindings
