import QueryBindings.Proofs.Binding.Outcome

/-!
# Assembling a batch

What a successful batch consists of.  Every query has a block, every source file
has one module, and the module of a file is made of the blocks of its queries
and of nothing else.
-/

namespace QueryBindings.Generator

open Log (Traced)

def Generates (generator : Generator) (query : Query) : Prop :=
  (generator.generateQuery query).outcome = .ok (generator.blockOf query)

theorem outcome_eq_ok_iff {generator : Generator} {query : Query} {block : String} :
    (generator.generateQuery query).outcome = .ok block ↔
      generator.Generates query ∧ block = generator.blockOf query := by
  unfold Generates blockOf
  cases (generator.generateQuery query).outcome with
  | ok other => simp [eq_comm]
  | error fault => simp

theorem generates_iff {generator : Generator} (hlibrary : generator.library = Layout.library)
    {query : Query} : generator.Generates query ↔ query.IsValid := by
  unfold Generates
  rw [generateQuery_outcome hlibrary, unlessFaulty_eq_ok_iff, List.forall_mem_singleton]
  exact and_iff_left rfl

theorem generate_eq_ok_iff (generator : Generator)
    (hlibrary : generator.library = Layout.library) {queries : List Query}
    {files : List OutputFile} :
    (generator.generate queries).outcome = .ok files ↔
      (∀ query ∈ queries, generator.Generates query) ∧
        files = (sourceFiles queries).map fun file =>
          generator.moduleOf file (queriesOf queries file) := by
  rw [generate_outcome hlibrary, unlessFaulty_eq_ok_iff]
  simp only [generates_iff hlibrary, mem_fileOrder, modulesOf]

/-- The module of a source file among the modules of a batch. -/
def moduleIn (queries : List Query) (files : List OutputFile) (file : String) :
    Option OutputFile :=
  ((sourceFiles queries).zip files).lookup file

theorem lookup_zip_map {β : Type} (f : String → β) (keys : List String) (key : String) :
    (keys.zip (keys.map f)).lookup key = if key ∈ keys then some (f key) else none := by
  induction keys with
  | nil => rfl
  | cons other rest ih =>
      by_cases hkey : key = other
      · simp [hkey]
      · have hne : (key == other) = false := by simpa using hkey
        simp [List.lookup_cons, hne, ih, hkey]

theorem moduleIn_of_generate {generator : Generator}
    (hlibrary : generator.library = Layout.library) {queries : List Query}
    {files : List OutputFile} (h : (generator.generate queries).outcome = .ok files)
    (file : String) :
    moduleIn queries files file =
      if file ∈ sourceFiles queries then
        some (generator.moduleOf file (queriesOf queries file))
      else none := by
  rw [moduleIn, ((generate_eq_ok_iff generator hlibrary).1 h).2, lookup_zip_map]

theorem mem_sourceFiles_iff_queriesOf_ne_nil {queries : List Query} {file : String} :
    file ∈ sourceFiles queries ↔ queriesOf queries file ≠ [] :=
  ⟨queriesOf_ne_nil, fun h => by
    by_contra hmem
    exact h (queriesOf_eq_nil hmem)⟩

/-- Batches that agree on a file leave the same module for it. -/
theorem moduleIn_congr {generator : Generator}
    (hlibrary : generator.library = Layout.library) {queries others : List Query}
    {files otherFiles : List OutputFile}
    (h : (generator.generate queries).outcome = .ok files)
    (hothers : (generator.generate others).outcome = .ok otherFiles) {file : String}
    (hagree : queriesOf others file = queriesOf queries file) :
    moduleIn others otherFiles file = moduleIn queries files file := by
  rw [moduleIn_of_generate hlibrary h, moduleIn_of_generate hlibrary hothers]
  simp only [mem_sourceFiles_iff_queriesOf_ne_nil, hagree]

theorem report_of_generate {generator : Generator} {queries : List Query}
    {files : List OutputFile} (h : (generator.generate queries).outcome = .ok files) :
    (generator.report queries).outcome =
      .ok (.success files (generator.warnings queries) queries.length) := by
  simp [report, h]

/--
A successful batch loses, repeats and mixes nothing.  Its modules are those of the
source files in the order in which these first occur; the module of a file is the
header, the blocks of its queries in batch order, each with one line break, and the
footer; every query is in one of them, once; the module of a file is the same in
every batch with the same queries of that file; and the metadata of the report count
the queries and the source files.
-/
theorem generate_assembles (typesPath : String) (types : TypeMap) {queries : List Query}
    {files : List OutputFile}
    (h : (generate { typesPath := typesPath, types := types } queries).outcome = .ok files) :
    let generator : Generator := { typesPath := typesPath, types := types }
    (∀ query ∈ queries,
      (generator.generateQuery query).outcome = .ok (generator.blockOf query)) ∧
    (files = (sourceFiles queries).map fun file =>
      ⟨moduleFileName file,
        Block.fileHeader typesPath ++
          String.join ((queriesOf queries file).map fun query =>
            generator.blockOf query ++ "\n") ++
          Block.fileFooter⟩) ∧
    (sourceFiles queries).Nodup ∧
    ((sourceFiles queries).flatMap (queriesOf queries)).Perm queries ∧
    (∀ others otherFiles, (generator.generate others).outcome = .ok otherFiles →
      ∀ file, queriesOf others file = queriesOf queries file →
        moduleIn others otherFiles file = moduleIn queries files file) ∧
    files.length = (sourceFiles queries).length ∧
    ∃ report, (generator.report queries).outcome = .ok report ∧
      report = .success files (generator.warnings queries) queries.length ∧
      report.metadata? = some
        { language := languageName, fileExtension := fileExtension,
          queryCount := queries.length, fileCount := (sourceFiles queries).length } := by
  intro generator
  obtain ⟨hqueries, hfiles⟩ := (generate_eq_ok_iff generator rfl).1 h
  have hlength : files.length = (sourceFiles queries).length := by
    rw [hfiles, List.length_map]
  refine ⟨hqueries, ?_, nodup_sourceFiles queries, flatMap_queriesOf_perm queries, ?_, hlength,
    _, report_of_generate h, rfl, ?_⟩
  · rw [hfiles]
    refine List.map_congr_left fun file _ => ?_
    simp only [moduleOf, Block.fileText, List.map_map, Function.comp_def, generator]
  · intro others otherFiles hothers file hagree
    exact moduleIn_congr rfl h hothers hagree
  · rw [Report.metadata?, hlength]

/-- Queries of two files that take turns. -/
theorem generate_assembles_interleaved :
    let queries : List Query :=
      [{ name := "GetUser", cmd := ":one", filename := "users.sql" },
        { name := "InsertPost", cmd := ":exec", filename := "posts.sql" },
        { name := "DeleteUser", cmd := ":exec", filename := "users.sql" }]
    let generator : Generator := { typesPath := "./types" }
    ∃ files, (generator.generate queries).outcome = .ok files ∧
      files.map OutputFile.name = ["users.ts", "posts.ts"] ∧
      ∃ report, (generator.report queries).outcome = .ok report ∧
        report.metadata? = some ⟨languageName, fileExtension, 3, 2⟩ := by
  intro queries generator
  have hgenerates : ∀ query ∈ queries, generator.Generates query := by
    intro query hquery
    simp only [queries, List.mem_cons, List.not_mem_nil, or_false] at hquery
    rcases hquery with rfl | rfl | rfl
    · exact (outcome_eq_ok_iff.1 ((generateQuery_eq_ok_iff rfl).2
        ⟨_, _, QueryName.parse_of_leadingWord .get (by decide),
          Command.ofTag_tag .one, by simp, rfl⟩)).1
    · exact (outcome_eq_ok_iff.1 ((generateQuery_eq_ok_iff rfl).2
        ⟨_, _, QueryName.parse_of_leadingWord .insert (by decide),
          Command.ofTag_tag .exec, by simp, rfl⟩)).1
    · exact (outcome_eq_ok_iff.1 ((generateQuery_eq_ok_iff rfl).2
        ⟨_, _, QueryName.parse_of_leadingWord .delete (by decide),
          Command.ofTag_tag .exec, by simp, rfl⟩)).1
  have hgenerate := (generate_eq_ok_iff generator rfl).2 ⟨hgenerates, rfl⟩
  obtain ⟨_, hfiles, _, _, _, _, report, hreport, _, hmetadata⟩ :=
    generate_assembles "./types" {} hgenerate
  have hsources : sourceFiles queries = ["users.sql", "posts.sql"] := by decide
  refine ⟨_, hgenerate, ?_, report, hreport, ?_⟩
  · have hnames : (sourceFiles queries).map moduleFileName = ["users.ts", "posts.ts"] := by
      decide
    rw [hfiles, List.map_map, ← hnames]
    rfl
  · rw [hmetadata, hsources]
    rfl

end QueryBindings.Generator
