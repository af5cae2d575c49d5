import QueryBindings.Proofs.Options.Loading
import QueryBindings.Proofs.Plugin.Failures
import QueryBindings.Proofs.Script.StringLiteral

/-!
# The import line of generated files

Every file imports its types from the path of the options, which stands in a string literal
without escapes.  Loading refuses quotes and line feeds in the path, but a backslash or a
carriage return in it makes the literal mean something else as well.
-/

namespace QueryBindings

open Json (JsonString CodePoint)
open Script (unitsOf isLineTerminator)
open Script.StringLiteral (IsPlainChar read_eq_some_iff read_cons_of_isPlainChar)

namespace Json.JsonString

theorem toList_shown_of_toChars? {s : JsonString} {cs : List Char}
    (h : s.toChars? = some cs) : s.shown.toList = cs := by
  obtain rfl := eq_map_scalar_of_toChars? h
  simp [shown, Function.comp_def]

theorem mem_shown_iff {s : JsonString} {c : Char} (hc : c ≠ '\uFFFD') :
    c ∈ s.shown.toList ↔ .scalar c ∈ s := by
  unfold shown
  rw [String.toList_ofList, List.mem_map]
  constructor
  · rintro ⟨point, hpoint, rfl⟩
    cases point with
    | scalar c => exact hpoint
    | surrogate n => contradiction
  · intro h
    exact ⟨.scalar c, h, rfl⟩

theorem shown_isPlain_iff {s : JsonString} (hquote : .scalar '"' ∉ s)
    (hfeed : .scalar '\n' ∉ s) :
    (∀ c ∈ s.shown.toList, IsPlainChar c) ↔ .scalar '\\' ∉ s ∧ .scalar '\r' ∉ s := by
  rw [← mem_shown_iff (by decide)] at hquote hfeed
  rw [← mem_shown_iff (by decide), ← mem_shown_iff (by decide)]
  constructor
  · intro h
    exact ⟨fun hmem => (h _ hmem).backslash rfl, fun hmem => (h _ hmem).carriageReturn rfl⟩
  · rintro ⟨hbackslash, hreturn⟩ c hc
    exact ⟨ne_of_mem_of_not_mem hc hquote, ne_of_mem_of_not_mem hc hbackslash,
      ne_of_mem_of_not_mem hc hfeed, ne_of_mem_of_not_mem hc hreturn⟩

theorem shown_isOneLine_iff {s : JsonString} (hfeed : .scalar '\n' ∉ s) :
    (∀ c ∈ s.shown.toList, isLineTerminator c = false) ↔
      .scalar '\r' ∉ s ∧ .scalar '\u2028' ∉ s ∧ .scalar '\u2029' ∉ s := by
  rw [← mem_shown_iff (by decide)] at hfeed
  rw [← mem_shown_iff (by decide), ← mem_shown_iff (by decide), ← mem_shown_iff (by decide)]
  constructor
  · intro h
    exact ⟨fun hmem => absurd (h _ hmem) (by decide), fun hmem => absurd (h _ hmem) (by decide),
      fun hmem => absurd (h _ hmem) (by decide)⟩
  · rintro ⟨hreturn, hline, hparagraph⟩ c hc
    simp [isLineTerminator, ne_of_mem_of_not_mem hc hfeed, ne_of_mem_of_not_mem hc hreturn,
      ne_of_mem_of_not_mem hc hline, ne_of_mem_of_not_mem hc hparagraph]

end Json.JsonString

theorem Options.typesPath_of_load {source : OptionsSource} {options : Options}
    (h : (load source).outcome = .ok options) :
    .scalar '"' ∉ options.typesPath ∧ .scalar '\n' ∉ options.typesPath := by
  obtain ⟨members, hmembers⟩ := exists_ofMembers_of_load h
  rw [hmembers] at h
  exact (of_checkTypesPath (of_ofMembers h).1).2

namespace Generator

def importOpening : String :=
  "/* c8 ignore start */\n\nimport type \x7b BoundQuery, Query \x7d from \""

theorem fileText_eq_import (typesPath : String) (blocks : List String) :
    ∃ rest, (Block.fileText typesPath blocks).toList =
      importOpening.toList ++ (typesPath.toList ++ '"' :: '\n' :: rest) := by
  have hopening : importOpening = "/* c8 ignore start */\n\n" ++
      "import type \x7b BoundQuery, Query \x7d from \"" := by decide
  have hclosing : "\"\n\n".toList = ['"', '\n', '\n'] := by decide
  rw [hopening]
  unfold Block.fileText Block.fileHeader
  simp only [String.toList_append, hclosing, List.append_assoc, List.cons_append,
    List.nil_append]
  exact ⟨_, rfl⟩

theorem exists_fileText_of_generate {generator : Generator}
    (hlibrary : generator.library = Layout.library) {queries : List Query}
    {files : List OutputFile} (h : (generator.generate queries).outcome = .ok files)
    {file : OutputFile} (hfile : file ∈ files) :
    ∃ blocks, file.contents = Block.fileText generator.typesPath blocks := by
  rw [generate_outcome hlibrary] at h
  obtain ⟨_, rfl⟩ := unlessFaulty_eq_ok_iff.1 h
  obtain ⟨source, _, rfl⟩ := List.mem_map.1 hfile
  exact ⟨_, rfl⟩

/--
The literal of every import line is read as the path of the options, and ends at the quote
of its template, exactly if the path has no backslash and no carriage return.  It stays on
one line if the path has neither a carriage return nor one of the two other line breaks.  A
path with a surrogate is shown with another character, but files with it have no bytes.
-/
theorem import_literal {source : OptionsSource} {options : Options} {queries : List Query}
    {files : List OutputFile} (hload : (Options.load source).outcome = .ok options)
    (hfiles : ((ofOptions options).generate queries).outcome = .ok files) :
    let path := options.typesPath.shown.toList
    (∀ file ∈ files, ∃ rest,
      file.contents.toList = importOpening.toList ++ (path ++ '"' :: '\n' :: rest) ∧
      (Script.StringLiteral.read (path ++ '"' :: '\n' :: rest) =
          some (unitsOf path, '\n' :: rest) ↔
        .scalar '\\' ∉ options.typesPath ∧ .scalar '\r' ∉ options.typesPath)) ∧
    ((∀ c ∈ path, isLineTerminator c = false) ↔
      .scalar '\r' ∉ options.typesPath ∧ .scalar '\u2028' ∉ options.typesPath ∧
        .scalar '\u2029' ∉ options.typesPath) ∧
    (∀ cs, options.typesPath.toChars? = some cs → path = cs) ∧
    (options.typesPath.toChars? = none → files ≠ [] →
      ∃ fault, Plugin.encodable options.typesPath Layout.typesPathPosition files =
        .error fault) := by
  intro path
  obtain ⟨hquote, hfeed⟩ := Options.typesPath_of_load hload
  refine ⟨?_, JsonString.shown_isOneLine_iff hfeed,
    fun cs => JsonString.toList_shown_of_toChars?,
    fun hpath hne => Plugin.encodable_eq_error_iff.2 ⟨hne, hpath⟩⟩
  intro file hfile
  obtain ⟨blocks, hcontents⟩ := exists_fileText_of_generate rfl hfiles hfile
  obtain ⟨rest, hrest⟩ := fileText_eq_import (ofOptions options).typesPath blocks
  refine ⟨rest, hcontents ▸ hrest, ?_⟩
  rw [read_eq_some_iff, JsonString.shown_isPlain_iff hquote hfeed]

def pathSource (path : String) : OptionsSource :=
  .value (.object [(Options.typesPathKey, .text (JsonString.ofString path))])

def pathOptions (path : String) : Options :=
  ⟨JsonString.ofString path, []⟩

theorem load_pathSource {path : String}
    (h : Options.checkTypesPath (some (.text (JsonString.ofString path))) =
      .ok (JsonString.ofString path)) :
    (Options.load (pathSource path)).outcome = .ok (pathOptions path) := by
  have hlookup : [(Options.typesPathKey, Json.Value.text (JsonString.ofString path))].lookup
      Options.typesPathKey = some (.text (JsonString.ofString path)) :=
    List.lookup_cons_self
  unfold pathSource Options.load Options.ofValue Options.ofMembers
  simp only [hlookup, h]
  rfl

theorem exists_files_of_path (path : String) :
    ∃ query files, ((ofOptions (pathOptions path)).generate [query]).outcome = .ok files ∧
      files ≠ [] := by
  have hvalid : ∀ query ∈ [({ name := "GetUser", cmd := ":one" } : Query)], query.IsValid := by
    intro query hquery
    rw [List.mem_singleton.1 hquery]
    exact Query.isValid_of_leadingWord .get .one (by decide) rfl (by simp)
  exact ⟨_, _, generate_of_valid rfl hvalid, modulesOf_eq_nil_iff.not.2 (by simp)⟩

theorem import_literal_of_relative_path :
    let path := "../it's/тип.js"
    (Options.load (pathSource path)).outcome = .ok (pathOptions path) ∧
    ∃ query files, ((ofOptions (pathOptions path)).generate [query]).outcome = .ok files ∧
      files ≠ [] ∧
      ∀ file ∈ files, ∃ rest,
        file.contents.toList = importOpening.toList ++ (path.toList ++ '"' :: '\n' :: rest) ∧
        Script.StringLiteral.read (path.toList ++ '"' :: '\n' :: rest) =
          some (unitsOf path.toList, '\n' :: rest) := by
  intro path
  have hload : (Options.load (pathSource path)).outcome = .ok (pathOptions path) :=
    load_pathSource (by decide)
  obtain ⟨query, files, hfiles, hne⟩ := exists_files_of_path path
  obtain ⟨hliteral, _, hshown, _⟩ := import_literal hload hfiles
  have hpath := hshown path.toList (JsonString.toChars?_map_scalar _)
  rw [hpath] at hliteral
  refine ⟨hload, query, files, hfiles, hne, fun file hfile => ?_⟩
  obtain ⟨rest, hcontents, hread⟩ := hliteral file hfile
  exact ⟨rest, hcontents, hread.2 ⟨by decide, by decide⟩⟩

theorem import_literal_of_backslash :
    let path := ".\\types"
    (Options.load (pathSource path)).outcome = .ok (pathOptions path) ∧
    ∃ query files, ((ofOptions (pathOptions path)).generate [query]).outcome = .ok files ∧
      files ≠ [] ∧
      ∀ file ∈ files, ∃ rest,
        file.contents.toList = importOpening.toList ++ (path.toList ++ '"' :: '\n' :: rest) ∧
        Script.StringLiteral.read (path.toList ++ '"' :: '\n' :: rest) =
          some (unitsOf ".\types".toList, '\n' :: rest) ∧
        unitsOf ".\types".toList ≠ unitsOf path.toList := by
  intro path
  have hload : (Options.load (pathSource path)).outcome = .ok (pathOptions path) :=
    load_pathSource (by decide)
  obtain ⟨query, files, hfiles, hne⟩ := exists_files_of_path path
  refine ⟨hload, query, files, hfiles, hne, fun file hfile => ?_⟩
  obtain ⟨blocks, hcontents⟩ := exists_fileText_of_generate rfl hfiles hfile
  obtain ⟨rest, hrest⟩ := fileText_eq_import (ofOptions (pathOptions path)).typesPath blocks
  have hshown : (ofOptions (pathOptions path)).typesPath.toList = path.toList :=
    JsonString.toList_shown_of_toChars? (JsonString.toChars?_map_scalar _)
  rw [← hcontents, hshown] at hrest
  refine ⟨rest, hrest, ?_, by decide⟩
  have hplain : "ypes".toList.all (IsPlainChar ·) = true := by decide
  have htail : Script.StringLiteral.read ("ypes".toList ++ '"' :: '\n' :: rest) =
      some (unitsOf "ypes".toList, '\n' :: rest) :=
    read_eq_some_iff.2 fun c hc => of_decide_eq_true (List.all_eq_true.1 hplain c hc)
  have hescape : Script.readEscape ('t' :: ("ypes".toList ++ '"' :: '\n' :: rest)) =
      some ⟨[9], 1⟩ := rfl
  have hpath : path.toList = '.' :: '\\' :: 't' :: "ypes".toList := by decide
  rw [hpath, List.cons_append, read_cons_of_isPlainChar (by decide), List.cons_append,
    Script.StringLiteral.read, if_neg (by decide), Script.StringLiteral.readCharacter,
    if_pos rfl, List.cons_append, hescape]
  simp only [List.drop_succ_cons, List.drop_zero, htail]
  rfl

end Generator

end QueryBindings
