import QueryBindings.Proofs.Binding.Assembly
import QueryBindings.Proofs.Query.Identifiers

/-!
# Declarations of modules

What a module declares at its top level: the imported types, and for each query its six
types and its constant.  The text of a module is nothing but these declarations, so the
identifiers of a module are those of its queries and the imported ones.
-/

namespace QueryBindings

/-- A statement at the top level of a module. -/
inductive Declaration where
  | imports (names : List String) (path : String)
  | typeAlias (name definition : String)
  | constant (name definition : String)
  deriving DecidableEq, Repr

namespace Declaration

/-- The identifiers that a declaration introduces. -/
def names : Declaration → List String
  | imports names _ => names
  | typeAlias name _ | constant name _ => [name]

/-- A declaration with the blank lines around it. -/
def text : Declaration → String
  | imports names path =>
      "import type \x7b " ++ ", ".intercalate names ++ " \x7d from \"" ++ path ++ "\"\n\n"
  | typeAlias name definition => "type " ++ name ++ " = " ++ definition ++ ";\n"
  | constant name definition => "\nexport const " ++ name ++ ": " ++ definition ++ ";\n\n"

def texts (declarations : List Declaration) : String :=
  String.join (declarations.map text)

/-- A module is its declarations between two comments. -/
def moduleText (declarations : List Declaration) : String :=
  "/* c8 ignore start */\n\n" ++ texts declarations ++ "/* c8 ignore stop */\n"

theorem texts_append (first second : List Declaration) :
    texts (first ++ second) = texts first ++ texts second := by
  simp [texts]

theorem texts_pair (first second : Declaration) :
    texts [first, second] = first.text ++ second.text := by
  simp [texts]

end Declaration

namespace Block

open Declaration (texts)

/-! ## Definitions of types -/

def objectDefinition (columns : List Column) (typeOf : Column → String) : String :=
  "\x7b\n" ++ String.join (columns.map fun column => objectLine column (typeOf column)) ++ "\x7d"

def tupleDefinition (columns : List Column) (typeOf : Column → String) : String :=
  "[\n" ++ String.join (columns.map fun column => tupleLine column (typeOf column)) ++ "]"

def namedDefinition (types : TypeMap) (columns : List Column) : String :=
  if columns.isEmpty then "Record<string, never>" else objectDefinition columns types.inputType

def anonymousDefinition (types : TypeMap) (columns : List Column) : String :=
  if columns.isEmpty then "[]" else tupleDefinition columns types.inputType

def resultDefinition (types : TypeMap) (command : Command) (columns : List Column)
    (shape : ResultShape) : String :=
  if command = .exec ∨ columns = [] then "never"
  else
    match shape.rowMode with
    | .object => objectDefinition columns (types.outputType shape.integerMode)
    | .tuple => tupleDefinition columns (types.outputType shape.integerMode)

theorem objectType_eq (name : String) (columns : List Column) (typeOf : Column → String) :
    objectType name columns typeOf =
      (Declaration.typeAlias name (objectDefinition columns typeOf)).text := by
  have hopening : " = \x7b\n" = " = " ++ "\x7b\n" := by decide
  have hclosing : "\x7d;\n" = "\x7d" ++ ";\n" := by decide
  unfold objectType objectDefinition Declaration.text
  rw [hopening, hclosing]
  simp only [String.append_assoc]

theorem tupleType_eq (name : String) (columns : List Column) (typeOf : Column → String) :
    tupleType name columns typeOf =
      (Declaration.typeAlias name (tupleDefinition columns typeOf)).text := by
  have hopening : " = [\n" = " = " ++ "[\n" := by decide
  have hclosing : "];\n" = "]" ++ ";\n" := by decide
  unfold tupleType tupleDefinition Declaration.text
  rw [hopening, hclosing]
  simp only [String.append_assoc]

theorem parameterTypes_eq (types : TypeMap) (name : String) (columns : List Column) :
    parameterTypes types name columns =
      texts [.typeAlias (name ++ "ParametersNamed") (namedDefinition types columns),
        .typeAlias (name ++ "ParametersAnonymous") (anonymousDefinition types columns)] := by
  cases columns with
  | nil =>
      have hnamed : "ParametersNamed = Record<string, never>;\n" =
          "ParametersNamed" ++ (" = " ++ ("Record<string, never>" ++ ";\n")) := by decide
      have hanonymous : "ParametersAnonymous = [];\n" =
          "ParametersAnonymous" ++ (" = " ++ ("[]" ++ ";\n")) := by decide
      have hempty : ([] : List Column).isEmpty = true := rfl
      rw [Declaration.texts_pair, parameterTypes, if_pos hempty, hnamed, hanonymous]
      unfold Declaration.text namedDefinition anonymousDefinition
      simp only [-String.reduceAppend, if_pos hempty, String.append_assoc]
  | cons column rest =>
      rw [Declaration.texts_pair]
      exact congrArg₂ (· ++ ·) (objectType_eq _ _ _) (tupleType_eq _ _ _)

theorem resultType_eq (types : TypeMap) (name : String) (command : Command)
    (columns : List Column) (shape : ResultShape) :
    resultType types name command columns shape =
      (Declaration.typeAlias (name ++ shape.suffix)
        (resultDefinition types command columns shape)).text := by
  have hnever : " = never;\n" = " = " ++ "never" ++ ";\n" := by decide
  unfold resultType resultDefinition
  split
  · unfold Declaration.text
    rw [hnever]
    simp only [-String.reduceAppend, String.append_assoc]
  · cases shape.rowMode with
    | object => exact objectType_eq _ columns _
    | tuple => exact tupleType_eq _ columns _

/-! ## The definition of the constant -/

def constantDefinition (query : Query) (name : QueryName) (command : Command) : String :=
  "Query<\n" ++
    "\t\"" ++ command.resultMode ++ "\",\n" ++
    "\t\"" ++ name.connectionMode.code ++ "\",\n" ++
    ",\n".intercalate (name.typeNames.map ("\t" ++ ·)) ++ "\n" ++
    "> = \x7b\n" ++
    "\tname: \"" ++ name.name ++ "\",\n" ++
    "\tquery: `-- name: " ++ name.name ++ " " ++ query.cmd ++ "\n" ++ query.text ++ "`,\n" ++
    "\tbind: \x7b\n" ++
    bindingFunction name command "named" "ParametersNamed"
      (namedParameters (parameterColumns query)) ++
    bindingFunction name command "anonymous" "ParametersAnonymous" anonymousParameters ++
    "\t\x7d\n" ++
    "\x7d as const"

theorem constant_eq (query : Query) (name : QueryName) (command : Command) :
    "\n" ++ exportHead name command query.cmd ++ query.text ++
        exportTail name command (parameterColumns query) ++ "\n" =
      (Declaration.constant name.valueName (constantDefinition query name command)).text := by
  have hstart : "\nexport const " = "\n" ++ "export const " := by decide
  have htype : ": Query<\n" = ": " ++ "Query<\n" := by decide
  have hfinish : "\x7d as const;\n" ++ "\n" = "\x7d as const" ++ ";\n\n" := by decide
  have hnames : name.typeNames.map ("\t" ++ ·) =
      typeSuffixes.map fun ending => "\t" ++ name.name ++ ending := by
    rw [QueryName.typeNames_eq_map, List.map_map]
    simp only [Function.comp_def, String.append_assoc]
  unfold exportHead exportTail constantDefinition Declaration.text
  rw [hstart, htype, hnames]
  simp only [-String.reduceAppend, String.append_assoc, hfinish]

/-- The declarations of a query: its types, then its constant. -/
def declarations (types : TypeMap) (query : Query) (name : QueryName) (command : Command) :
    List Declaration :=
  [.typeAlias name.namedType (namedDefinition types (parameterColumns query)),
      .typeAlias name.anonymousType (anonymousDefinition types (parameterColumns query))] ++
    ResultShape.all.map (fun shape =>
      .typeAlias (name.resultType shape) (resultDefinition types command query.columns shape)) ++
    [.constant name.valueName (constantDefinition query name command)]

/-- A block with the line break after it is the declarations of its query. -/
theorem text_eq_texts (types : TypeMap) (query : Query) (name : QueryName)
    (command : Command) :
    text types query name command ++ "\n" = texts (declarations types query name command) := by
  have hresults : String.join (ResultShape.all.map
        (resultType types name.name command query.columns)) =
      texts (ResultShape.all.map fun shape =>
        .typeAlias (name.resultType shape)
          (resultDefinition types command query.columns shape)) := by
    have htypes := funext (resultType_eq types name.name command query.columns)
    rw [htypes, texts, List.map_map]
    rfl
  have hconstant : texts [.constant name.valueName (constantDefinition query name command)] =
      "\n" ++ exportHead name command query.cmd ++ query.text ++
        exportTail name command (parameterColumns query) ++ "\n" := by
    rw [constant_eq]
    simp [texts]
  unfold declarations text
  rw [Declaration.texts_append, Declaration.texts_append, hconstant, parameterTypes_eq, hresults]
  simp only [QueryName.namedType, QueryName.anonymousType, String.append_assoc]

theorem names_declarations (types : TypeMap) (query : Query) (name : QueryName)
    (command : Command) :
    (declarations types query name command).flatMap Declaration.names = name.identifiers := by
  rfl

end Block

/-! ## Declarations of a batch -/

def importedNames : List String := ["BoundQuery", "Query"]

namespace Query

/-- The declarations of a query; a query that is refused has none. -/
def declarations (types : TypeMap) (query : Query) : List Declaration :=
  match QueryName.parse query.name, Command.ofTag query.cmd with
  | .ok name, .ok command => Block.declarations types query name command
  | _, _ => []

def identifiers (query : Query) : List String :=
  Block.typeSuffixes.map (query.name ++ ·) ++ [Text.lowerFirst query.name]

theorem identifiers_of_parse {query : Query} {name : QueryName}
    (h : QueryName.parse query.name = .ok name) : name.identifiers = query.identifiers := by
  have hname := QueryName.name_of_parse h
  have hvalue := QueryName.valueName_of_parse h
  rw [QueryName.identifiers, identifiers, QueryName.typeNames_eq_map, hname, hvalue]

theorem names_declarations (types : TypeMap) {query : Query} (h : query.IsValid) :
    (query.declarations types).flatMap Declaration.names = query.identifiers := by
  obtain ⟨⟨name, hname⟩, ⟨command, hcommand⟩, _⟩ := h
  rw [declarations, hname, hcommand, ← identifiers_of_parse hname]
  exact Block.names_declarations types query name command

theorem name_eq_of_mem_identifiers {first second : Query} {identifier : String}
    (hfirst : first.IsValid) (hsecond : second.IsValid)
    (hmem : identifier ∈ first.identifiers) (hother : identifier ∈ second.identifiers) :
    first.name = second.name := by
  obtain ⟨name, hname⟩ := hfirst.name
  obtain ⟨other, hothers⟩ := hsecond.name
  rw [← identifiers_of_parse hname] at hmem
  rw [← identifiers_of_parse hothers] at hother
  rw [← QueryName.name_of_parse hname, ← QueryName.name_of_parse hothers]
  exact QueryName.name_eq_of_mem_identifiers (QueryName.isParsed_of_parse hname)
    (QueryName.isParsed_of_parse hothers) hmem hother

theorem disjoint_identifiers_iff {first second : Query} (hfirst : first.IsValid)
    (hsecond : second.IsValid) :
    List.Disjoint first.identifiers second.identifiers ↔ first.name ≠ second.name := by
  constructor
  · intro hdisjoint hequal
    have hmem : Text.lowerFirst first.name ∈ first.identifiers := by simp [identifiers]
    have hother : Text.lowerFirst first.name ∈ second.identifiers := by
      simp [identifiers, hequal]
    exact hdisjoint hmem hother
  · intro hdistinct identifier hmem hother
    exact hdistinct (name_eq_of_mem_identifiers hfirst hsecond hmem hother)

theorem nodup_identifiers {query : Query} (h : query.IsValid) : query.identifiers.Nodup := by
  obtain ⟨name, hname⟩ := h.name
  rw [← identifiers_of_parse hname]
  exact QueryName.nodup_identifiers (QueryName.isParsed_of_parse hname)

theorem imported_not_mem_identifiers {query : Query} (h : query.IsValid) {identifier : String}
    (himported : identifier ∈ importedNames) : identifier ∉ query.identifiers := by
  obtain ⟨name, hname⟩ := h.name
  have hletters : ∀ imported ∈ importedNames, ∀ action : Action,
      imported.toList.head? ≠ some action.capital ∧
        imported.toList.head? ≠ some action.small := by
    intro imported hmem action
    simp only [importedNames, List.mem_cons, List.not_mem_nil, or_false] at hmem
    rcases hmem with rfl | rfl <;> cases action <;> decide
  obtain ⟨hcapital, hsmall⟩ := hletters identifier himported name.action
  rw [← identifiers_of_parse hname]
  intro hmem
  rcases QueryName.head_of_mem_identifiers (QueryName.isParsed_of_parse hname) hmem with h | h
  · exact hcapital h
  · exact hsmall h

end Query

/-- The identifiers of a module are distinct exactly if the names of its queries are. -/
theorem nodup_identifiers_iff {queries : List Query} (h : ∀ query ∈ queries, query.IsValid) :
    (importedNames ++ queries.flatMap Query.identifiers).Nodup ↔
      (queries.map Query.name).Nodup := by
  have himported : importedNames.Nodup := by decide
  have hfresh : ∀ imported ∈ importedNames,
      ∀ identifier ∈ queries.flatMap Query.identifiers, imported ≠ identifier := by
    rintro imported himported identifier hidentifier rfl
    obtain ⟨query, hquery, hmem⟩ := List.mem_flatMap.1 hidentifier
    exact Query.imported_not_mem_identifiers (h query hquery) himported hmem
  have heach : ∀ query ∈ queries, query.identifiers.Nodup :=
    fun query hquery => Query.nodup_identifiers (h query hquery)
  have hpairs : queries.Pairwise (Function.onFun List.Disjoint Query.identifiers) ↔
      queries.Pairwise fun first second => first.name ≠ second.name :=
    List.Pairwise.iff_of_mem fun hfirst hsecond =>
      Query.disjoint_identifiers_iff (h _ hfirst) (h _ hsecond)
  have hnames : (queries.map Query.name).Nodup ↔
      queries.Pairwise fun first second => first.name ≠ second.name := List.pairwise_map
  rw [List.nodup_append, List.nodup_flatMap, hpairs, hnames]
  exact ⟨fun hall => hall.2.1.2, fun hdistinct => ⟨himported, ⟨heach, hdistinct⟩, hfresh⟩⟩

namespace Generator

def declarations (generator : Generator) (queries : List Query) : List Declaration :=
  .imports importedNames generator.typesPath :: queries.flatMap (Query.declarations generator.types)

variable {generator : Generator} {queries : List Query}

theorem blockOf_eq_texts (hlibrary : generator.library = Layout.library) {query : Query}
    (h : query.IsValid) :
    generator.blockOf query ++ "\n" = Declaration.texts (query.declarations generator.types) := by
  obtain ⟨⟨name, hname⟩, ⟨command, hcommand⟩, hcolumns⟩ := h
  have hblock := (generateQuery_eq_ok_iff hlibrary).2
    ⟨name, command, hname, hcommand, hcolumns, rfl⟩
  rw [blockOf, hblock, Query.declarations, hname, hcommand]
  exact Block.text_eq_texts generator.types query name command

theorem join_blocks_eq_texts (hlibrary : generator.library = Layout.library)
    (h : ∀ query ∈ queries, query.IsValid) :
    String.join ((queries.map generator.blockOf).map (· ++ "\n")) =
      Declaration.texts (queries.flatMap (Query.declarations generator.types)) := by
  induction queries with
  | nil => rfl
  | cons query rest ih =>
      obtain ⟨hquery, hrest⟩ := List.forall_mem_cons.1 h
      rw [List.flatMap_cons, Declaration.texts_append, ← blockOf_eq_texts hlibrary hquery,
        ← ih hrest, List.map_cons, List.map_cons, String.join_cons]

theorem fileHeader_eq (typesPath : String) :
    Block.fileHeader typesPath =
      "/* c8 ignore start */\n\n" ++ (Declaration.imports importedNames typesPath).text := by
  have hline : "import type \x7b BoundQuery, Query \x7d from \"" =
      "import type \x7b " ++ ", ".intercalate importedNames ++ " \x7d from \"" := by decide
  unfold Block.fileHeader Declaration.text
  rw [hline]
  simp only [-String.reduceAppend, String.append_assoc]

theorem moduleOf_contents (hlibrary : generator.library = Layout.library)
    (h : ∀ query ∈ queries, query.IsValid) (file : String) :
    (generator.moduleOf file queries).contents =
      Declaration.moduleText (generator.declarations queries) := by
  have himports (declarations : List Declaration) :
      Declaration.texts (.imports importedNames generator.typesPath :: declarations) =
        (Declaration.imports importedNames generator.typesPath).text ++
          Declaration.texts declarations := by
    exact String.join_cons
  unfold moduleOf Block.fileText Declaration.moduleText declarations Block.fileFooter
  rw [join_blocks_eq_texts hlibrary h, himports, fileHeader_eq]
  simp only [String.append_assoc]

theorem names_declarations (h : ∀ query ∈ queries, query.IsValid) :
    (generator.declarations queries).flatMap Declaration.names =
      importedNames ++ queries.flatMap Query.identifiers := by
  have hqueries : (queries.flatMap (Query.declarations generator.types)).flatMap
      Declaration.names = queries.flatMap Query.identifiers := by
    rw [List.flatMap_assoc]
    exact List.flatMap_congr fun query hquery =>
      Query.names_declarations generator.types (h query hquery)
  rw [declarations, List.flatMap_cons, hqueries]
  rfl

/--
Generated names are hygienic.  A module consists of its declarations, which introduce
the two imported types and, for each of its queries, six types and a constant; all of
these are distinct exactly if the names of the queries are.  Whatever the accepted names
are, two of them share no type name and no constant, and no constant is named like a type.
-/
theorem module_identifiers_distinct (typesPath : String) (types : TypeMap)
    {queries : List Query} {files : List OutputFile}
    (h : (generate { typesPath := typesPath, types := types } queries).outcome = .ok files) :
    (∀ file ∈ sourceFiles queries,
      let generator : Generator := { typesPath := typesPath, types := types }
      let declarations := generator.declarations (queriesOf queries file)
      let introduced := declarations.flatMap Declaration.names
      ∃ output, moduleIn queries files file = some output ∧
        output.contents = Declaration.moduleText declarations ∧
        introduced =
          ["BoundQuery", "Query"] ++ (queriesOf queries file).flatMap Query.identifiers ∧
        (introduced.Nodup ↔ ((queriesOf queries file).map Query.name).Nodup)) ∧
    (∀ first second : QueryName, first.IsParsed → second.IsParsed →
      (first.name ≠ second.name → List.Disjoint first.typeNames second.typeNames) ∧
      (first.valueName = second.valueName → first.name = second.name) ∧
      first.valueName ∉ second.typeNames) := by
  refine ⟨?modules, ?names⟩
  case modules =>
    intro file hfile generator declarations introduced
    have hvalid : ∀ query ∈ queriesOf queries file, query.IsValid := by
      intro query hquery
      have hgenerates := ((generate_eq_ok_iff generator rfl).1 h).1 query
        (List.mem_of_mem_filter hquery)
      exact (generates_iff rfl).1 hgenerates
    have hintroduced : introduced = _ := names_declarations hvalid
    refine ⟨_, (moduleIn_of_generate rfl h file).trans (if_pos hfile),
      moduleOf_contents rfl hvalid file, hintroduced, ?_⟩
    rw [hintroduced]
    exact nodup_identifiers_iff hvalid
  case names =>
    intro first second hfirst hsecond
    refine ⟨?_, QueryName.name_eq_of_valueName_eq hfirst hsecond,
      QueryName.valueName_not_mem_typeNames hfirst hsecond⟩
    intro hdistinct identifier hmem hother
    exact hdistinct (QueryName.name_eq_of_mem_typeNames hmem hother)

theorem module_identifiers_distinct_of_endings :
    let queries : List Query :=
      [{ name := "GetUser", cmd := ":one" }, { name := "GetUserParametersNamed", cmd := ":one" },
        { name := "GetUserRecordRowModeObject", cmd := ":many" }]
    let generator : Generator := { typesPath := "./types" }
    ∃ files, (generator.generate queries).outcome = .ok files ∧
      ((generator.declarations (queriesOf queries "")).flatMap Declaration.names).Nodup := by
  intro queries generator
  have hvalid : ∀ query ∈ queries, query.IsValid := by
    intro query hquery
    simp only [queries, List.mem_cons, List.not_mem_nil, or_false] at hquery
    rcases hquery with rfl | rfl | rfl
    · exact Query.isValid_of_leadingWord .get .one (by decide) rfl (by simp)
    · exact Query.isValid_of_leadingWord .get .one (by decide) rfl (by simp)
    · exact Query.isValid_of_leadingWord .get .many (by decide) rfl (by simp)
  have hgenerate : (generator.generate queries).outcome = .ok (generator.modulesOf queries) :=
    generate_of_valid rfl hvalid
  obtain ⟨hmodules, _⟩ := module_identifiers_distinct "./types" {} hgenerate
  obtain ⟨_, _, _, _, hdistinct⟩ := hmodules "" (by decide)
  exact ⟨_, hgenerate, hdistinct.2 (by decide)⟩

end Generator

end QueryBindings
