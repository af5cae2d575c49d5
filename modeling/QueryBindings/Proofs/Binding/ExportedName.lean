import QueryBindings.Proofs.Binding.Generation
import QueryBindings.Proofs.Query.LeadingWord
import QueryBindings.Proofs.Script.Identifier
import QueryBindings.Proofs.Text.Contained

/-!
# Names of exported constants

The constant of a query is named like the query, with a small first letter.  If the name of
the query has only letters, digits and underscores, this is a well-formed identifier.  It
begins with an action word, and of these one is a reserved word of scripts.
-/

namespace QueryBindings

open Script.Identifier (IsWellFormed IsBinding reservedWords unboundNames isStart isPart)

namespace Action

def smallWord (action : Action) : List Char :=
  action.small :: action.word.toList.tail

theorem toList_word (action : Action) :
    action.word.toList = action.capital :: action.word.toList.tail := by
  cases action <;> rfl

theorem isStart_small (action : Action) : isStart action.small = true := by
  cases action <;> decide

theorem eq_delete_of_begins (action : Action) :
    ∀ name ∈ reservedWords ++ unboundNames, action.smallWord <+: name.toList →
      name = "delete" := by
  cases action <;> decide

end Action

namespace QueryName

def isNameCharacter (c : Char) : Bool := c.isAlphanum || c == '_'

theorem isPart_of_isNameCharacter {c : Char} (h : isNameCharacter c = true) :
    isPart c = true := by
  simp only [isNameCharacter, Char.isAlphanum, isPart, isStart, Bool.or_eq_true] at h ⊢
  rcases h with (hletter | hdigit) | hunderscore
  · exact .inl (.inl (.inl hletter))
  · exact .inr hdigit
  · exact .inl (.inr hunderscore)

variable {text : String} {name : QueryName}

theorem smallWord_begins_of_parse (h : parse text = .ok name) :
    name.action.smallWord <+: name.valueName.toList := by
  obtain ⟨letters, hletters, hvalue⟩ := exists_rest_of_isParsed (isParsed_of_parse h)
  obtain ⟨rest, hrest, _⟩ := beginsWithAction_of_parse h
  rw [name_of_parse h, hrest, Action.toList_word, List.cons_append] at hletters
  obtain ⟨_, rfl⟩ := List.cons.inj hletters
  exact ⟨rest, hvalue.symm⟩

theorem isWellFormed_valueName (h : parse text = .ok name)
    (hcharacters : ∀ c ∈ text.toList, isNameCharacter c = true) :
    IsWellFormed name.valueName := by
  obtain ⟨letters, hletters, hvalue⟩ := exists_rest_of_isParsed (isParsed_of_parse h)
  rw [name_of_parse h] at hletters
  refine ⟨name.action.small, letters, hvalue, name.action.isStart_small, ?_⟩
  intro c hc
  have hmem : c ∈ text.toList := by
    rw [hletters]
    exact List.mem_cons_of_mem _ hc
  exact isPart_of_isNameCharacter (hcharacters c hmem)

theorem valueName_eq_delete_iff (h : parse text = .ok name) :
    name.valueName = "delete" ↔ text = "Delete" := by
  have hdelete : parse "Delete" = .ok ⟨"Delete", "delete", .delete⟩ := by decide
  constructor
  · intro hvalue
    rw [← name_of_parse h]
    exact name_eq_of_valueName_eq (isParsed_of_parse h) (isParsed_of_parse hdelete) hvalue
  · rintro rfl
    rw [hdelete] at h
    cases h
    rfl

/-- What modules cannot bind is no constant, but for one. -/
theorem valueName_mem_iff (h : parse text = .ok name) :
    name.valueName ∈ reservedWords ++ unboundNames ↔ text = "Delete" := by
  rw [← valueName_eq_delete_iff h]
  constructor
  · intro hmem
    exact name.action.eq_delete_of_begins _ hmem (smallWord_begins_of_parse h)
  · intro hvalue
    rw [hvalue]
    decide

end QueryName

namespace Block

open Text (Contains)

/-- What stands in front of the name of a constant and after it, wherever it is used. -/
def constantUses : List (String × String) :=
  [("export const ", ": Query<\n"), ("\t\t\t\tname: ", ".name,\n"),
    ("\t\t\t\tquery: ", ".query,\n")]

theorem bindingFunction_contains (name : QueryName) (command : Command)
    (mode parametersSuffix parameters : String) :
    Contains (bindingFunction name command mode parametersSuffix parameters)
        ("\t\t\t\tname: " ++ name.valueName ++ ".name,\n") ∧
      Contains (bindingFunction name command mode parametersSuffix parameters)
        ("\t\t\t\tquery: " ++ name.valueName ++ ".query,\n") := by
  unfold bindingFunction
  constructor
  all_goals
    repeat first
      | with_reducible exact Contains.last_three _ _ _ _
      | with_reducible apply Contains.append_right

theorem exportHead_contains (name : QueryName) (command : Command) (tag : String) :
    Contains (exportHead name command tag)
      ("export const " ++ name.valueName ++ ": Query<\n") := by
  unfold exportHead
  repeat first
    | with_reducible exact Contains.refl _
    | with_reducible apply Contains.append_right

theorem text_contains (types : TypeMap) (query : Query) (name : QueryName) (command : Command) :
    ∀ use ∈ constantUses,
      Contains (text types query name command) (use.1 ++ name.valueName ++ use.2) := by
  have hhead : Contains (text types query name command)
      (exportHead name command query.cmd) :=
    (((Contains.refl _).append_left _).append_right _).append_right _
  have hbinding := (text_contains_bindings types query name command).1
  obtain ⟨hname, hquery⟩ := bindingFunction_contains name command "named" "ParametersNamed"
    (namedParameters (parameterColumns query))
  intro use huse
  simp only [constantUses, List.mem_cons, List.not_mem_nil, or_false] at huse
  rcases huse with rfl | rfl | rfl
  · exact hhead.trans (exportHead_contains name command query.cmd)
  · exact hbinding.trans hname
  · exact hbinding.trans hquery

end Block

namespace Generator

/-- The name is read as far as it goes wherever a block has it. -/
theorem read_constantUse {name : String} (h : IsWellFormed name) (closing : String) :
    ∀ use ∈ Block.constantUses,
      Script.Identifier.read (name.toList ++ (use.2 ++ closing).toList) =
        (name.toList, (use.2 ++ closing).toList) := by
  have hstops : ∀ use ∈ Block.constantUses,
      ∃ c rest, use.2.toList = c :: rest ∧ isPart c = false := by
    intro use huse
    simp only [Block.constantUses, List.mem_cons, List.not_mem_nil, or_false] at huse
    rcases huse with rfl | rfl | rfl <;> exact ⟨_, _, rfl, by decide⟩
  intro use huse
  obtain ⟨c, rest, hafter, hc⟩ := hstops use huse
  rw [String.toList_append, hafter, List.cons_append]
  exact Script.Identifier.read_append_cons h hc (rest ++ closing.toList)

/--
The constant of a name of letters, digits and underscores is an identifier, and is read as
one where the block declares it and where it refers to it; a module can bind it exactly if
the name is not the bare word `Delete`.
-/
theorem exported_name_isBinding_iff {text : String} {name : QueryName}
    (hcharacters : ∀ c ∈ text.toList, QueryName.isNameCharacter c = true)
    (h : QueryName.parse text = .ok name) :
    IsWellFormed name.valueName ∧
    (name.valueName ∈ reservedWords ↔ text = "Delete") ∧
    (IsBinding name.valueName ↔ text ≠ "Delete") ∧
    ∀ (typesPath : String) (types : TypeMap) (query : Query) (block : String),
      query.name = text →
      (generateQuery { typesPath := typesPath, types := types } query).outcome = .ok block →
      ∀ use ∈ Block.constantUses, ∃ opening closing,
        block = opening ++ (use.1 ++ name.valueName ++ use.2) ++ closing ∧
        Script.Identifier.read (name.valueName.toList ++ (use.2 ++ closing).toList) =
          (name.valueName.toList, (use.2 ++ closing).toList) := by
  have hwellFormed := QueryName.isWellFormed_valueName h hcharacters
  have hmem := QueryName.valueName_mem_iff h
  have hdelete := QueryName.valueName_eq_delete_iff h
  have hreserved : name.valueName ∈ reservedWords ↔ text = "Delete" := by
    constructor
    · intro hword
      exact hmem.1 (List.mem_append_left _ hword)
    · intro htext
      rw [hdelete.2 htext]
      decide
  refine ⟨hwellFormed, hreserved, ?binding, ?uses⟩
  case binding =>
    constructor
    · intro hbinding htext
      exact hbinding.notReserved (hreserved.2 htext)
    · intro htext
      obtain ⟨hword, hunbound⟩ := not_or.1 (List.mem_append.not.1 (hmem.not.2 htext))
      exact ⟨hwellFormed, hword, hunbound⟩
  case uses =>
    intro typesPath types query block hname hblock use huse
    obtain ⟨parsed, command, hparsed, _, _, rfl⟩ := (generateQuery_eq_ok_iff rfl).1 hblock
    rw [hname, h] at hparsed
    cases hparsed
    obtain ⟨opening, closing, htext⟩ := Block.text_contains types query name command use huse
    exact ⟨opening, closing, htext, read_constantUse hwellFormed closing use huse⟩

theorem exported_name_isBinding_of_underscore :
    (∀ c ∈ "Delete_2users".toList, QueryName.isNameCharacter c = true) ∧
    QueryName.parse "Delete_2users" = .ok ⟨"Delete_2users", "delete_2users", .delete⟩ ∧
    IsBinding "delete_2users" := by
  have hcharacters : ∀ c ∈ "Delete_2users".toList, QueryName.isNameCharacter c = true :=
    List.all_eq_true.1 (by decide)
  have hname : QueryName.parse "Delete_2users" =
      .ok ⟨"Delete_2users", "delete_2users", .delete⟩ := by decide
  obtain ⟨_, _, hbinding, _⟩ := exported_name_isBinding_iff hcharacters hname
  exact ⟨hcharacters, hname, hbinding.2 (by decide)⟩

theorem exported_name_of_bare_delete :
    let query : Query := { name := "Delete", cmd := ":exec", text := "DELETE FROM users" }
    (∀ c ∈ query.name.toList, QueryName.isNameCharacter c = true) ∧
    QueryName.parse query.name = .ok ⟨"Delete", "delete", .delete⟩ ∧
    (∃ block, (generateQuery { typesPath := "./types" } query).outcome = .ok block ∧
      Text.Contains block ("export const " ++ "delete" ++ ": Query<\n")) ∧
    ¬ IsBinding "delete" := by
  intro query
  have hname : QueryName.parse query.name = .ok ⟨"Delete", "delete", .delete⟩ := by decide
  have hblock : (generateQuery { typesPath := "./types" } query).outcome = _ :=
    (generateQuery_eq_ok_iff rfl).2
      ⟨_, .exec, hname, Command.ofTag_tag .exec, by simp [query], rfl⟩
  have hcharacters : ∀ c ∈ query.name.toList, QueryName.isNameCharacter c = true :=
    List.all_eq_true.1 (by decide)
  refine ⟨hcharacters, hname, ⟨_, hblock, ?_⟩, fun hbinding => hbinding.notReserved (by decide)⟩
  exact Block.text_contains {} query _ .exec ("export const ", ": Query<\n") (by decide)

end Generator

end QueryBindings
