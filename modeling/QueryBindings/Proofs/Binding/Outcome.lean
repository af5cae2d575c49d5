import QueryBindings.Proofs.Binding.Generation
import QueryBindings.Proofs.Binding.Grouping
import QueryBindings.Proofs.Query.Validity

/-!
# What generating code comes to

Generation gets through if all queries are valid and otherwise stops at the first that
is not.  Every level, from one query over the blocks of a file to the files of a batch,
has the outcome that its queries decide in the order in which they are generated.
-/

namespace QueryBindings

theorem Query.isValid_of_leadingWord {query : Query} (action : Action) (command : Command)
    (hname : QueryName.leadingWord? query.name.toList = some action.word.toList)
    (hcmd : query.cmd = command.tag)
    (hparams : ∀ parameter ∈ query.params, parameter.column.isSome = true) : query.IsValid where
  name := ⟨_, QueryName.parse_of_leadingWord action hname⟩
  command := ⟨command, by rw [hcmd, Command.ofTag_tag]⟩
  columns := hparams

/-- The queries of a batch file by file, which is the order in which they are generated. -/
def fileOrder (queries : List Query) : List Query :=
  (sourceFiles queries).flatMap (queriesOf queries)

theorem mem_fileOrder {queries : List Query} {query : Query} :
    query ∈ fileOrder queries ↔ query ∈ queries :=
  (flatMap_queriesOf_perm queries).mem_iff

/-- The value of a step for which queries were generated, unless one of them has a fault. -/
def unlessFaulty {α : Type} (queries : List Query) (value : α) : Except GenerateFault α :=
  match queries.findSome? Query.fault? with
  | some fault => .error (.query fault)
  | none => .ok value

section UnlessFaulty

variable {α β : Type} {queries first second : List Query} {value : α}

/-- The queries of one step after those of another decide what both steps come to. -/
theorem bind_unlessFaulty {next : α → Except GenerateFault β} {result : β}
    (hnext : next value = unlessFaulty second result) :
    (unlessFaulty first value).bind next = unlessFaulty (first ++ second) result := by
  unfold unlessFaulty at hnext ⊢
  rw [List.findSome?_append]
  cases first.findSome? Query.fault? with
  | some fault => rfl
  | none => exact hnext

theorem bind_unlessFaulty_ok {next : α → Except GenerateFault β} {result : β}
    (hnext : next value = .ok result) :
    (unlessFaulty queries value).bind next = unlessFaulty queries result := by
  have hnone : next value = unlessFaulty [] result := hnext
  have hall : (unlessFaulty queries value).bind next = unlessFaulty (queries ++ []) result :=
    bind_unlessFaulty hnone
  rwa [List.append_nil] at hall

theorem unlessFaulty_of_valid (h : queries.findSome? Query.fault? = none) :
    unlessFaulty queries value = .ok value := by
  simp [unlessFaulty, h]

theorem unlessFaulty_of_fault {fault : QueryFault}
    (h : queries.findSome? Query.fault? = some fault) :
    unlessFaulty queries value = .error (.query fault) := by
  simp [unlessFaulty, h]

theorem unlessFaulty_eq_ok_iff {other : α} :
    unlessFaulty queries value = .ok other ↔
      (∀ query ∈ queries, query.IsValid) ∧ other = value := by
  rw [← Query.findSome?_fault?_eq_none_iff]
  unfold unlessFaulty
  cases queries.findSome? Query.fault? <;> simp [eq_comm]

end UnlessFaulty

theorem TypeMap.membersOf_of_no_column (types : TypeMap) (query : Query)
    {before after : List Parameter} {parameter : Parameter}
    (hbefore : ∀ earlier ∈ before, earlier.column.isSome = true)
    (hcolumn : parameter.column = none) :
    types.membersOf query (before ++ parameter :: after) =
      .error (.unresolvedParameter query.name parameter.number) := by
  induction before with
  | nil => simp [membersOf, parameterMember, hcolumn]
  | cons earlier rest ih =>
      obtain ⟨column, hearlier⟩ :=
        Option.isSome_iff_exists.1 (hbefore earlier List.mem_cons_self)
      have hrest := ih fun other hother => hbefore other (List.mem_cons_of_mem _ hother)
      simp [membersOf, parameterMember, hearlier, hrest, Except.map]

namespace Generator

open Log (Traced)

/-- The block of a query; a query without code has none. -/
def blockOf (generator : Generator) (query : Query) : String :=
  match (generator.generateQuery query).outcome with
  | .ok block => block
  | .error _ => ""

def moduleOf (generator : Generator) (file : String) (queries : List Query) : OutputFile :=
  ⟨moduleFileName file,
    Block.fileText generator.typesPath (queries.map generator.blockOf)⟩

def modulesOf (generator : Generator) (queries : List Query) : List OutputFile :=
  (sourceFiles queries).map fun file => generator.moduleOf file (queriesOf queries file)

variable {generator : Generator}

theorem modulesOf_eq_nil_iff {queries : List Query} :
    generator.modulesOf queries = [] ↔ queries = [] := by
  unfold modulesOf
  rw [List.map_eq_nil_iff, List.eq_nil_iff_forall_not_mem]
  simp only [mem_sourceFiles, not_exists, not_and]
  constructor
  · intro h
    exact List.eq_nil_iff_forall_not_mem.2 fun query hquery => h query.filename query hquery rfl
  · rintro rfl file query hquery
    contradiction

theorem generateQuery_of_hasFault {query : Query} {fault : QueryFault}
    (h : query.HasFault fault) :
    (generator.generateQuery query).outcome = .error (.query fault) := by
  unfold generateQuery TypeMap.parameterMembers
  simp only [Traced.bind_outcome, Traced.ofExcept_outcome, Traced.log_outcome]
  cases h with
  | name hname => simp [hname, Except.bind]
  | command hname hcommand => simp [hname, hcommand, Except.bind]
  | parameter hname hcommand hparams hbefore hcolumn =>
      rw [hparams, generator.types.membersOf_of_no_column query hbefore hcolumn]
      simp [hname, hcommand, Except.bind]

theorem generateQuery_outcome (hlibrary : generator.library = Layout.library) (query : Query) :
    (generator.generateQuery query).outcome =
      unlessFaulty [query] (generator.blockOf query) := by
  cases hfault : query.fault? with
  | some fault =>
      have hfirst : [query].findSome? Query.fault? = some fault := by simp [hfault]
      rw [unlessFaulty_of_fault hfirst]
      exact generateQuery_of_hasFault (Query.fault?_eq_some_iff.1 hfault)
  | none =>
      obtain ⟨⟨name, hname⟩, ⟨command, hcommand⟩, hcolumns⟩ :=
        Query.fault?_eq_none_iff.1 hfault
      have hblock := (generateQuery_eq_ok_iff hlibrary).2
        ⟨name, command, hname, hcommand, hcolumns, rfl⟩
      rw [unlessFaulty_of_valid (by simp [hfault]), blockOf, hblock]

theorem generateBlocks_outcome (hlibrary : generator.library = Layout.library)
    (queries : List Query) :
    (generator.generateBlocks queries).outcome =
      unlessFaulty queries (queries.map generator.blockOf) := by
  induction queries with
  | nil => rfl
  | cons query rest ih =>
      unfold generateBlocks
      simp only [Traced.bind_outcome, Traced.pure_outcome, ih,
        generateQuery_outcome hlibrary query]
      show _ = unlessFaulty ([query] ++ rest) _
      exact bind_unlessFaulty (bind_unlessFaulty_ok rfl)

theorem generateFile_outcome (hlibrary : generator.library = Layout.library)
    (group : FileGroup) :
    (generator.generateFile group).outcome =
      unlessFaulty group.queries (generator.moduleOf group.filename group.queries) := by
  have hload : generator.library.load Layout.fileTemplate = .ok Layout.fileTree := by
    rw [hlibrary]
    exact Layout.load_fileTemplate
  have hrender (blocks : List String) :=
    render_of_load hload (Layout.render_fileTree generator.typesPath blocks)
  unfold generateFile moduleOf
  simp only [Traced.bind_outcome, Traced.log_outcome, Traced.ofExcept_outcome, hrender,
    Traced.pure_outcome, generateBlocks_outcome hlibrary]
  exact bind_unlessFaulty_ok rfl

theorem generateFiles_outcome (hlibrary : generator.library = Layout.library)
    (groups : List FileGroup) :
    (generator.generateFiles groups).outcome =
      unlessFaulty (groups.flatMap FileGroup.queries)
        (groups.map fun group => generator.moduleOf group.filename group.queries) := by
  induction groups with
  | nil => rfl
  | cons group rest ih =>
      unfold generateFiles
      simp only [Traced.bind_outcome, Traced.pure_outcome, ih,
        generateFile_outcome hlibrary group]
      exact bind_unlessFaulty (bind_unlessFaulty_ok rfl)

/-- A batch has one module for each file, unless one of its queries has a fault. -/
theorem generate_outcome (hlibrary : generator.library = Layout.library)
    (queries : List Query) :
    (generator.generate queries).outcome =
      unlessFaulty (fileOrder queries) (generator.modulesOf queries) := by
  unfold generate fileOrder modulesOf
  rw [generateFiles_outcome hlibrary, FileGroup.ofBatch_eq_map, List.map_map,
    List.flatMap_map]
  rfl

theorem generate_of_valid (hlibrary : generator.library = Layout.library)
    {queries : List Query} (h : ∀ query ∈ queries, query.IsValid) :
    (generator.generate queries).outcome = .ok (generator.modulesOf queries) := by
  rw [generate_outcome hlibrary, unlessFaulty_eq_ok_iff]
  exact ⟨fun query hquery => h query (mem_fileOrder.1 hquery), rfl⟩

end Generator

end QueryBindings
