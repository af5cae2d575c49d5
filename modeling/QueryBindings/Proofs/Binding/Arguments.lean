import QueryBindings.Proofs.Binding.Declarations
import QueryBindings.Proofs.Binding.ResultShapes
import QueryBindings.Proofs.Script.PropertyKey
import QueryBindings.Proofs.Text.Contained

/-!
# Named and positional arguments

The arguments of a query are given in an object, under the names of the columns they are
bound to, or in a tuple.  A tuple has a place for every parameter, but parameters whose
columns have one name share a key of the object, so that named arguments go as far as
positional ones exactly if the keys are distinct.
-/

namespace QueryBindings

/-! ## Lists of arguments -/

/-- What the caller of a binding function hands over. -/
inductive Given (V : Type) where
  /-- An object, by what it has under each of its keys. -/
  | object (field : List UInt16 → Option V)
  | tuple (values : List V)

/-- How a binding function lists the arguments of a statement. -/
inductive ArgumentList where
  | accesses (names : List String)
  | asGiven

namespace ArgumentList

def accessLines (names : List String) : String :=
  "\t\t\t\tparameters: [\n" ++
    String.join (names.map fun name => "\t\t\t\t\tparameters[\"" ++ name ++ "\"],\n") ++
    "\t\t\t\t],\n"

def text : ArgumentList → String
  | accesses names => accessLines names
  | asGiven => "\t\t\t\tparameters,\n"

/-- The arguments of the statement; an access to a key that the object lacks gives none. -/
def values {V : Type} : ArgumentList → Given V → Option (List V)
  | accesses names, .object field =>
      names.mapM fun name => (Script.propertyKey? name).bind field
  | asGiven, .tuple values => some values
  | accesses _, .tuple _ | asGiven, .object _ => none

theorem accessLines_map (columns : List Column) :
    accessLines (columns.map Column.name) = Block.namedParameters columns := by
  unfold accessLines Block.namedParameters
  rw [List.map_map]
  rfl

variable {V : Type}

theorem mapM_eq_some_iff {names : List String} {f : String → Option V} {values : List V} :
    names.mapM f = some values ↔ names.map f = values.map some := by
  induction names generalizing values with
  | nil => cases values <;> simp
  | cons name rest ih =>
      simp only [List.mapM_cons, List.map_cons, Option.bind_eq_bind, Option.bind_eq_some_iff,
        Option.pure_def, Option.some.injEq]
      constructor
      · rintro ⟨value, hvalue, others, hothers, rfl⟩
        rw [List.map_cons, ih.1 hothers, hvalue]
      · intro h
        cases values with
        | nil => contradiction
        | cons value others =>
            obtain ⟨hvalue, hothers⟩ := List.cons.inj h
            exact ⟨value, hvalue, others, ih.2 hothers, rfl⟩

theorem exists_field_iff {keys : List (Option (List UInt16))} {values : List V}
    (hlength : values.length = keys.length) :
    (∃ field : List UInt16 → Option V, keys.map (·.bind field) = values.map some) ↔
      (∀ key ∈ keys, key.isSome = true) ∧
        ∀ i j : Nat, keys[i]? = keys[j]? → values[i]? = values[j]? := by
  constructor
  · rintro ⟨field, hfield⟩
    constructor
    · intro key hkey
      have hmem : key.bind field ∈ values.map some := hfield ▸ List.mem_map_of_mem hkey
      obtain ⟨value, _, hvalue⟩ := List.mem_map.1 hmem
      obtain ⟨units, hunits, _⟩ := Option.bind_eq_some_iff.1 hvalue.symm
      rw [hunits]
      rfl
    · intro i j hkeys
      have hvalue (k : Nat) : values[k]?.map some = keys[k]?.map (·.bind field) := by
        rw [← List.getElem?_map, ← List.getElem?_map, hfield]
      have hboth : values[i]?.map some = values[j]?.map some := by
        rw [hvalue i, hvalue j, hkeys]
      exact Option.map_injective (fun _ _ => Option.some.inj) hboth
  · rintro ⟨hkeys, hagree⟩
    refine ⟨fun units => values[keys.idxOf (some units)]?, List.ext_getElem (by simp [hlength]) ?_⟩
    intro i hi hvalues
    rw [List.length_map] at hi hvalues
    obtain ⟨units, hunits⟩ := Option.isSome_iff_exists.1 (hkeys keys[i] (List.getElem_mem hi))
    have hfirst : keys[keys.idxOf (some units)]? = keys[i]? := by
      rw [List.getElem?_eq_getElem hi, ← hunits]
      exact List.getElem?_idxOf (List.getElem_mem hi)
    rw [List.getElem_map, List.getElem_map, hunits, Option.bind_some, hagree _ i hfirst,
      List.getElem?_eq_getElem hvalues]

/-- Whether some object makes the accesses list what a tuple of the values lists. -/
def CanGiveByName (names : List String) (values : List V) : Prop :=
  ∃ field, (accesses names).values (.object field) = asGiven.values (.tuple values)

theorem canGiveByName_iff {names : List String} {values : List V}
    (hlength : values.length = names.length) :
    let keys := names.map Script.propertyKey?
    CanGiveByName names values ↔
      (∀ key ∈ keys, key.isSome = true) ∧
        ∀ i j : Nat, keys[i]? = keys[j]? → values[i]? = values[j]? := by
  intro keys
  have hkeys : values.length = keys.length := by rw [hlength, List.length_map]
  rw [← exists_field_iff hkeys]
  refine exists_congr fun field => ?_
  have haccesses : keys.map (·.bind field) =
      names.map fun name => (Script.propertyKey? name).bind field := List.map_map
  rw [haccesses]
  exact mapM_eq_some_iff

/-- Any values can be given by name exactly if the keys are distinct. -/
theorem forall_canGiveByName_iff {names : List String} :
    (∀ (V : Type) (values : List V), values.length = names.length →
        CanGiveByName names values) ↔
      Script.HasDistinctKeys names := by
  have hkeysLength : (names.map Script.propertyKey?).length = names.length := List.length_map _
  constructor
  · intro h
    -- Each place asks for its own number.
    have hlength : (List.range names.length).length = names.length := List.length_range
    obtain ⟨hkeys, hagree⟩ := (canGiveByName_iff hlength).1 (h Nat _ hlength)
    refine ⟨hkeys, List.nodup_iff_getElem?_ne_getElem?.2 ?_⟩
    intro i j hij hj hsame
    have hplaces := hagree i j hsame
    rw [List.getElem?_range (by omega), List.getElem?_range (by omega)] at hplaces
    have hplace := Option.some.inj hplaces
    omega
  · intro hdistinct V values hlength
    refine (canGiveByName_iff hlength).2 ⟨hdistinct.isSome, ?_⟩
    intro i j hsame
    by_cases hi : i < (names.map Script.propertyKey?).length
    · rw [(List.getElem?_inj hi hdistinct.nodup).1 hsame]
    · have hnone : (names.map Script.propertyKey?)[j]? = none := by
        rw [← hsame]
        exact List.getElem?_eq_none (by omega)
      have hj := List.getElem?_eq_none_iff.1 hnone
      rw [List.getElem?_eq_none (by omega), List.getElem?_eq_none (by omega)]

end ArgumentList

/-! ## Object types -/

/-- A type of objects that the code of a query declares. -/
structure ObjectType where
  name : String
  members : List Member
  deriving DecidableEq, Repr

namespace ObjectType

def names (object : ObjectType) : List String :=
  object.members.map Member.name

def memberLine (member : Member) : String :=
  (match member.comment with
    | none => ""
    | some comment => "\t/** " ++ comment ++ " */\n") ++
  "\t\"" ++ member.name ++ "\": " ++ member.type ++ ";\n"

def declaration (object : ObjectType) : Declaration :=
  .typeAlias object.name ("\x7b\n" ++ String.join (object.members.map memberLine) ++ "\x7d")

theorem memberLine_eq (column : Column) (type : String) :
    memberLine ⟨column.name, type, column.comment?⟩ = Block.objectLine column type := by
  unfold memberLine Block.objectLine Block.descriptionLine Column.comment? Column.hasComment
  cases Text.isAllBlank column.comment <;> rfl

theorem declaration_map (name : String) (columns : List Column) (typeOf : Column → String) :
    declaration ⟨name, columns.map fun column => ⟨column.name, typeOf column, column.comment?⟩⟩ =
      .typeAlias name (Block.objectDefinition columns typeOf) := by
  have hlines : (memberLine ∘ fun column => ⟨column.name, typeOf column, column.comment?⟩) =
      fun column => Block.objectLine column (typeOf column) :=
    funext fun column => memberLine_eq column (typeOf column)
  unfold declaration Block.objectDefinition
  rw [List.map_map, hlines]

end ObjectType

/-- The object types of a query: that of its named parameters, then those of its rows. -/
def TypeMap.objectTypes (types : TypeMap) (query : Query) (name : QueryName) (command : Command)
    (members : List Member) : List ObjectType :=
  ⟨name.namedType, members⟩ ::
    (types.resultDeclarations query command).filterMap fun declaration =>
      if declaration.shape.rowMode = .object then
        declaration.members.map fun row => ⟨name.resultType declaration.shape, row⟩
      else none

theorem TypeMap.mem_objectTypes {types : TypeMap} {query : Query} {name : QueryName}
    {command : Command} {members : List Member} {object : ObjectType} :
    object ∈ types.objectTypes query name command members ↔
      object = ⟨name.namedType, members⟩ ∨
        ¬ (command = .exec ∨ query.columns = []) ∧ ∃ mode,
          object = ⟨name.resultType ⟨.object, mode⟩,
            query.columns.map (types.resultMember ⟨.object, mode⟩)⟩ := by
  rw [objectTypes, List.mem_cons, List.mem_filterMap]
  refine or_congr Iff.rfl ⟨?_, ?_⟩
  · rintro ⟨declaration, hdeclaration, hobject⟩
    split at hobject
    next hrow =>
      rw [members_of_mem_resultDeclarations hdeclaration] at hobject
      split at hobject
      next hrows =>
        refine ⟨emitsRows_iff.1 hrows, declaration.shape.integerMode, ?_⟩
        have hshape : declaration.shape = ⟨.object, declaration.shape.integerMode⟩ := by
          rw [← hrow]
        rw [← hshape]
        exact (Option.some.inj hobject).symm
      next => contradiction
    next => contradiction
  · rintro ⟨hrows, mode, rfl⟩
    obtain ⟨declaration, hdeclaration, hshape⟩ :=
      types.exists_mem_resultDeclarations query command ⟨.object, mode⟩
    refine ⟨declaration, hdeclaration, ?_⟩
    rw [members_of_mem_resultDeclarations hdeclaration, hshape, if_pos rfl,
      if_pos (emitsRows_iff.2 hrows)]
    rfl

/-- The keys of every object type are distinct if those of the parameters and of the rows are. -/
theorem TypeMap.forall_hasDistinctKeys_iff {types : TypeMap} {query : Query} {name : QueryName}
    {command : Command} {members : List Member} :
    (∀ object ∈ types.objectTypes query name command members,
        Script.HasDistinctKeys object.names) ↔
      Script.HasDistinctKeys (members.map Member.name) ∧
        (command = .exec ∨ Script.HasDistinctKeys (query.columns.map Column.name)) := by
  have hrow (shape : ResultShape) :
      (query.columns.map (types.resultMember shape)).map Member.name =
        query.columns.map Column.name := List.map_map
  constructor
  · intro h
    refine ⟨h _ (mem_objectTypes.2 (.inl rfl)), or_iff_not_imp_left.2 fun hcommand => ?_⟩
    by_cases hcolumns : query.columns = []
    · rw [hcolumns]
      exact Script.hasDistinctKeys_nil
    · rw [← hrow ⟨.object, .number⟩]
      exact h _ (mem_objectTypes.2 (.inr ⟨not_or.2 ⟨hcommand, hcolumns⟩, .number, rfl⟩))
  · rintro ⟨hparameters, hrows⟩ object hobject
    rcases mem_objectTypes.1 hobject with rfl | ⟨hnever, mode, rfl⟩
    · exact hparameters
    · unfold ObjectType.names
      rw [hrow]
      exact hrows.resolve_left (not_or.1 hnever).1

namespace Block

variable {types : TypeMap} {query : Query} {name : QueryName} {command : Command}

/-- The members of the named parameters of a query. -/
def parameterMembers (types : TypeMap) (query : Query) : List Member :=
  (parameterColumns query).map (Layout.inputMember types)

theorem declaration_mem_declarations {object : ObjectType}
    (h : object ∈ types.objectTypes query name command (parameterMembers types query))
    (hmembers : object.members ≠ []) :
    object.declaration ∈ declarations types query name command := by
  unfold declarations
  rcases TypeMap.mem_objectTypes.1 h with rfl | ⟨hrows, mode, rfl⟩
  · have hcolumns : (parameterColumns query).isEmpty = false := by
      simpa [parameterMembers] using hmembers
    have hdefinition : namedDefinition types (parameterColumns query) =
        objectDefinition (parameterColumns query) types.inputType := by
      simp [namedDefinition, hcolumns]
    rw [hdefinition, ← ObjectType.declaration_map]
    exact List.mem_append_left _ (List.mem_append_left _ List.mem_cons_self)
  · have hdefinition : resultDefinition types command query.columns ⟨.object, mode⟩ =
        objectDefinition query.columns (types.outputType mode) := if_neg hrows
    refine List.mem_append_left _ (List.mem_append_right _ ?_)
    refine List.mem_map.2 ⟨⟨.object, mode⟩, ResultShape.mem_all _, ?_⟩
    rw [hdefinition, ← ObjectType.declaration_map]
    rfl

theorem map_column_of_isSome {params : List Parameter}
    (h : ∀ parameter ∈ params, parameter.column.isSome = true) :
    params.map Parameter.column = (params.filterMap Parameter.column).map some := by
  induction params with
  | nil => rfl
  | cons parameter rest ih =>
      obtain ⟨hcolumn, hrest⟩ := List.forall_mem_cons.1 h
      obtain ⟨column, hcolumn⟩ := Option.isSome_iff_exists.1 hcolumn
      rw [List.map_cons, ih hrest, List.filterMap_cons_some hcolumn, List.map_cons, hcolumn]

theorem map_name_parameterMembers
    (h : ∀ parameter ∈ query.params, parameter.column.isSome = true) :
    query.params.map (fun parameter => parameter.column.map Column.name) =
      ((parameterMembers types query).map Member.name).map some := by
  have hnames : query.params.map (fun parameter => parameter.column.map Column.name) =
      (query.params.map Parameter.column).map (Option.map Column.name) := by
    rw [List.map_map]
    rfl
  rw [hnames, map_column_of_isSome h, parameterMembers, parameterColumns]
  simp only [List.map_map]
  rfl

end Block

namespace Generator

open ArgumentList (CanGiveByName accesses asGiven)
open Script (HasDistinctKeys IsPlainName)

/--
The two ways to bind.  The named one accesses the given object once for each parameter, under
the name of its column, where the other one passes on the tuple.  Values can be given by name
exactly if parameters with one key have one value, so that all values can exactly if the keys
are distinct.  The object types of the query have no key twice exactly if also those of the
rows are distinct; plain names have distinct keys if they are distinct.
-/
theorem named_arguments_iff (typesPath : String) (types : TypeMap) {query : Query}
    {block : String}
    (h : (generateQuery { typesPath := typesPath, types := types } query).outcome = .ok block) :
    ∃ name command members,
      QueryName.parse query.name = .ok name ∧
      Command.ofTag query.cmd = .ok command ∧
      types.parameterMembers query = .ok members ∧
      let names := members.map Member.name
      let keys := names.map Script.propertyKey?
      let rows := query.columns.map Column.name
      let objects := types.objectTypes query name command members
      let declarations := Block.declarations types query name command
      query.params.map (fun parameter => parameter.column.map Column.name) = names.map some ∧
      block ++ "\n" = Declaration.texts declarations ∧
      (∀ object ∈ objects, object.members ≠ [] → object.declaration ∈ declarations) ∧
      Text.Contains block
        (Block.bindingFunction name command "named" "ParametersNamed" (accesses names).text) ∧
      Text.Contains block
        (Block.bindingFunction name command "anonymous" "ParametersAnonymous" asGiven.text) ∧
      (∀ (V : Type) (values : List V), values.length = names.length →
        (CanGiveByName names values ↔
          (∀ key ∈ keys, key.isSome = true) ∧
            ∀ i j : Nat, keys[i]? = keys[j]? → values[i]? = values[j]?)) ∧
      ((∀ (V : Type) (values : List V), values.length = names.length →
        CanGiveByName names values) ↔ HasDistinctKeys names) ∧
      ((∀ object ∈ objects, HasDistinctKeys object.names) ↔
        HasDistinctKeys names ∧ (command = .exec ∨ HasDistinctKeys rows)) ∧
      ((∀ name ∈ names ++ rows, IsPlainName name) →
        (HasDistinctKeys names ↔ names.Nodup) ∧ (HasDistinctKeys rows ↔ rows.Nodup)) := by
  obtain ⟨name, command, hname, hcommand, hcolumns, rfl⟩ := (generateQuery_eq_ok_iff rfl).1 h
  have hmembers : types.parameterMembers query = .ok (Block.parameterMembers types query) :=
    Layout.membersOf_eq_ok_iff.2 ⟨hcolumns, rfl⟩
  have haccesses : (accesses ((Block.parameterMembers types query).map Member.name)).text =
      Block.namedParameters (Block.parameterColumns query) := by
    rw [← ArgumentList.accessLines_map, Block.parameterMembers, List.map_map]
    rfl
  obtain ⟨hnamed, hanonymous⟩ := Block.text_contains_bindings types query name command
  refine ⟨name, command, _, hname, hcommand, hmembers, Block.map_name_parameterMembers hcolumns,
    Block.text_eq_texts types query name command,
    fun object => Block.declaration_mem_declarations, ?_, hanonymous,
    fun V values => ArgumentList.canGiveByName_iff, ArgumentList.forall_canGiveByName_iff,
    TypeMap.forall_hasDistinctKeys_iff, ?_⟩
  · rw [haccesses]
    exact hnamed
  · intro hplain
    obtain ⟨hparameters, hrows⟩ := List.forall_mem_append.1 hplain
    exact ⟨Script.hasDistinctKeys_iff_nodup hparameters, Script.hasDistinctKeys_iff_nodup hrows⟩

theorem named_arguments_of_two_columns :
    let id : Column := { name := "id", typeName := some "integer", notNull := true }
    let age : Column := { name := "age", typeName := some "integer" }
    let query : Query :=
      { name := "GetUsers", cmd := ":many", text := "SELECT id, age FROM users",
        params := [⟨1, some id⟩, ⟨2, some age⟩], columns := [id, age] }
    ∃ block, (generateQuery { typesPath := "./types" } query).outcome = .ok block ∧
      ∀ (V : Type) (values : List V), values.length = 2 →
        CanGiveByName ["id", "age"] values := by
  intro id age query
  have hname : QueryName.parse query.name = .ok ⟨"GetUsers", "getUsers", .get⟩ := by decide
  have hblock : (generateQuery { typesPath := "./types" } query).outcome = _ :=
    (generateQuery_eq_ok_iff rfl).2
      ⟨_, .many, hname, Command.ofTag_tag .many, by simp [query], rfl⟩
  obtain ⟨_, _, members, _, _, _, hnames, _, _, _, _, _, hall, _, hplain⟩ :=
    named_arguments_iff "./types" {} hblock
  have hmembers : members.map Member.name = ["id", "age"] :=
    List.map_injective_iff.2 (fun _ _ => Option.some.inj) hnames.symm
  rw [hmembers] at hall hplain
  obtain ⟨hkeys, _⟩ := hplain (by decide)
  exact ⟨_, hblock, hall.2 (hkeys.2 (by decide))⟩

/-- Two parameters that are bound to one column cannot be given different values by name. -/
theorem named_arguments_of_one_column :
    let name : Column := { name := "name", typeName := some "text", notNull := true }
    let age : Column := { name := "age", typeName := some "integer", notNull := true }
    let query : Query :=
      { name := "GetUsersByAge", cmd := ":many",
        text := "SELECT name FROM users WHERE age >= ? AND age < ?",
        params := [⟨1, some age⟩, ⟨2, some age⟩], columns := [name] }
    let parsed : QueryName := ⟨"GetUsersByAge", "getUsersByAge", .get⟩
    let member : Member := ⟨"age", "number | bigint", none⟩
    let object : ObjectType := ⟨"GetUsersByAgeParametersNamed", [member, member]⟩
    ∃ block, (generateQuery { typesPath := "./types" } query).outcome = .ok block ∧
      block ++ "\n" = Declaration.texts (Block.declarations {} query parsed .many) ∧
      object.declaration ∈ Block.declarations {} query parsed .many ∧
      ¬ (object.names.map Script.propertyKey?).Nodup ∧
      Text.Contains block
        (Block.bindingFunction parsed .many "named" "ParametersNamed"
          (accesses ["age", "age"]).text) ∧
      ¬ CanGiveByName ["age", "age"] [18, 65] := by
  intro name age query parsed member object
  have hname : QueryName.parse query.name = .ok parsed := by decide
  have hblock : (generateQuery { typesPath := "./types" } query).outcome = _ :=
    (generateQuery_eq_ok_iff rfl).2
      ⟨_, .many, hname, Command.ofTag_tag .many, by simp [query], rfl⟩
  have hmembers : Block.parameterMembers {} query = [member, member] := by decide
  have hobject : object ∈ TypeMap.objectTypes {} query parsed .many
      (Block.parameterMembers {} query) := by
    rw [hmembers]
    exact TypeMap.mem_objectTypes.2 (.inl (by decide))
  refine ⟨_, hblock, Block.text_eq_texts {} query parsed .many,
    Block.declaration_mem_declarations hobject (List.cons_ne_nil _ _), ?_,
    (Block.text_contains_bindings {} query parsed .many).1, ?_⟩
  · simp [ObjectType.names, object]
  · intro hgiven
    have hlength : [18, 65].length = ["age", "age"].length := rfl
    obtain ⟨_, hagree⟩ := (ArgumentList.canGiveByName_iff hlength).1 hgiven
    have hvalues := hagree 0 1 rfl
    simp at hvalues

end Generator

end QueryBindings
