import Mathlib.Data.List.Nodup
import QueryBindings.Proofs.Binding.Assembly

/-!
# Names of generated files

A module is named after its source file without the ending that source files have.  Two
source files have modules of one name exactly if one of them has no such ending and the
other is the same name with it.
-/

namespace QueryBindings

/-- Whether a source file has the ending that its module does not keep. -/
def HasSourceSuffix (source : String) : Prop :=
  sourceSuffix.toList <:+ source.toList

instance (source : String) : Decidable (HasSourceSuffix source) :=
  inferInstanceAs (Decidable (sourceSuffix.toList <:+ source.toList))

/-- A name without the ending and the same name with it. -/
structure Collides (first second : String) : Prop where
  bare : ¬ HasSourceSuffix first
  extended : second = first ++ sourceSuffix

theorem hasSourceSuffix_append (stem : String) : HasSourceSuffix (stem ++ sourceSuffix) := by
  unfold HasSourceSuffix
  rw [String.toList_append]
  exact List.suffix_append _ _

theorem exists_stem_of_hasSourceSuffix {source : String} (h : HasSourceSuffix source) :
    ∃ stem, source = stem ++ sourceSuffix := by
  obtain ⟨stem, hstem⟩ := h
  refine ⟨String.ofList stem, ?_⟩
  rw [← String.toList_inj, String.toList_append, String.toList_ofList, hstem]

theorem moduleFileName_of_bare {source : String} (h : ¬ HasSourceSuffix source) :
    moduleFileName source = source ++ fileExtension := by
  have hsuffix : sourceSuffix.toList.isSuffixOf source.toList = false := by
    rw [Bool.eq_false_iff, ne_eq, List.isSuffixOf_iff_suffix]
    exact h
  unfold moduleFileName
  simp only [hsuffix, Bool.false_eq_true, if_false, String.ofList_toList]

theorem moduleFileName_append (stem : String) :
    moduleFileName (stem ++ sourceSuffix) = stem ++ fileExtension := by
  have hsuffix : sourceSuffix.toList.isSuffixOf (stem ++ sourceSuffix).toList = true :=
    List.isSuffixOf_iff_suffix.2 (hasSourceSuffix_append stem)
  have hstem : (stem ++ sourceSuffix).toList.take
      ((stem ++ sourceSuffix).toList.length - sourceSuffix.length) = stem.toList := by
    rw [String.toList_append, List.length_append, String.length_toList, String.length_toList,
      Nat.add_sub_cancel, ← String.length_toList, List.take_left]
  unfold moduleFileName
  simp only [hsuffix, if_true, hstem, String.ofList_toList]

theorem Collides.ne {first second : String} (h : Collides first second) : first ≠ second := by
  rintro rfl
  exact h.bare (h.extended ▸ hasSourceSuffix_append first)

theorem Collides.moduleFileName_eq {first second : String} (h : Collides first second) :
    moduleFileName first = moduleFileName second := by
  rw [moduleFileName_of_bare h.bare, h.extended, moduleFileName_append]

theorem moduleFileName_eq_iff {first second : String} :
    moduleFileName first = moduleFileName second ↔
      first = second ∨ Collides first second ∨ Collides second first := by
  constructor
  · intro h
    by_cases hfirst : HasSourceSuffix first <;> by_cases hsecond : HasSourceSuffix second
    · obtain ⟨stem, rfl⟩ := exists_stem_of_hasSourceSuffix hfirst
      obtain ⟨other, rfl⟩ := exists_stem_of_hasSourceSuffix hsecond
      rw [moduleFileName_append, moduleFileName_append, String.append_left_inj] at h
      exact .inl (by rw [h])
    · obtain ⟨stem, rfl⟩ := exists_stem_of_hasSourceSuffix hfirst
      rw [moduleFileName_append, moduleFileName_of_bare hsecond, String.append_left_inj] at h
      exact .inr (.inr ⟨hsecond, by rw [h]⟩)
    · obtain ⟨other, rfl⟩ := exists_stem_of_hasSourceSuffix hsecond
      rw [moduleFileName_append, moduleFileName_of_bare hfirst, String.append_left_inj] at h
      exact .inr (.inl ⟨hfirst, by rw [h]⟩)
    · rw [moduleFileName_of_bare hfirst, moduleFileName_of_bare hsecond,
        String.append_left_inj] at h
      exact .inl h
  · rintro (rfl | hcollides | hcollides)
    · rfl
    · exact hcollides.moduleFileName_eq
    · exact hcollides.moduleFileName_eq.symm

namespace Generator

theorem map_name_of_generate {generator : Generator}
    (hlibrary : generator.library = Layout.library) {queries : List Query}
    {files : List OutputFile} (h : (generator.generate queries).outcome = .ok files) :
    files.map OutputFile.name = (sourceFiles queries).map moduleFileName := by
  rw [((generate_eq_ok_iff generator hlibrary).1 h).2, List.map_map]
  rfl

/--
Which files of a batch have one name.  The module of every source file is named after it;
the names are distinct exactly if no two source files of the batch collide, as they never
do if all of them have the ending of source files.
-/
theorem generated_names_nodup_iff (typesPath : String) (types : TypeMap)
    {queries : List Query} {files : List OutputFile}
    (h : (generate { typesPath := typesPath, types := types } queries).outcome = .ok files) :
    files.map OutputFile.name = (sourceFiles queries).map moduleFileName ∧
    (∀ first second, moduleFileName first = moduleFileName second ↔
      first = second ∨ Collides first second ∨ Collides second first) ∧
    ((files.map OutputFile.name).Nodup ↔
      ∀ first ∈ sourceFiles queries, ∀ second ∈ sourceFiles queries,
        ¬ Collides first second) ∧
    ((∀ query ∈ queries, HasSourceSuffix query.filename) →
      (files.map OutputFile.name).Nodup) := by
  have hnames := map_name_of_generate rfl h
  have hiff : (files.map OutputFile.name).Nodup ↔
      ∀ first ∈ sourceFiles queries, ∀ second ∈ sourceFiles queries,
        ¬ Collides first second := by
    rw [hnames, List.nodup_map_iff_inj_on (nodup_sourceFiles queries)]
    constructor
    · intro hdistinct first hfirst second hsecond hcollides
      exact hcollides.ne (hdistinct first hfirst second hsecond hcollides.moduleFileName_eq)
    · intro hapart first hfirst second hsecond hequal
      rcases moduleFileName_eq_iff.1 hequal with hsame | hcollides | hcollides
      · exact hsame
      · exact absurd hcollides (hapart first hfirst second hsecond)
      · exact absurd hcollides (hapart second hsecond first hfirst)
  refine ⟨hnames, fun _ _ => moduleFileName_eq_iff, hiff, ?_⟩
  intro hsuffixes
  refine hiff.2 fun first hfirst second _ hcollides => ?_
  obtain ⟨query, hquery, rfl⟩ := mem_sourceFiles.1 hfirst
  exact hcollides.bare (hsuffixes query hquery)

/-- Only one ending is taken off, so a name with two of them keeps apart from a name with one. -/
theorem generated_names_nodup_of_backup :
    let queries : List Query :=
      [{ name := "GetUser", cmd := ":one", filename := "users.sql" },
        { name := "GetPost", cmd := ":one", filename := "users.sql.sql" },
        { name := "GetTag", cmd := ":one", filename := "schema" }]
    let generator : Generator := { typesPath := "./types" }
    ∃ files, (generator.generate queries).outcome = .ok files ∧
      (files.map OutputFile.name).Nodup := by
  intro queries generator
  have hvalid : ∀ query ∈ queries, query.IsValid := by
    intro query hquery
    simp only [queries, List.mem_cons, List.not_mem_nil, or_false] at hquery
    rcases hquery with rfl | rfl | rfl <;>
      exact Query.isValid_of_leadingWord .get .one (by decide) rfl (by simp)
  have hgenerate : (generator.generate queries).outcome = .ok (generator.modulesOf queries) :=
    generate_of_valid rfl hvalid
  have hfiles : sourceFiles queries = ["users.sql", "users.sql.sql", "schema"] := by decide
  obtain ⟨_, _, hdistinct, _⟩ := generated_names_nodup_iff "./types" {} hgenerate
  refine ⟨_, hgenerate, hdistinct.2 ?_⟩
  rw [hfiles]
  rintro first hfirst second hsecond ⟨hbare, hextended⟩
  simp only [List.mem_cons, List.not_mem_nil, or_false] at hfirst hsecond
  rcases hfirst with rfl | rfl | rfl <;> rcases hsecond with rfl | rfl | rfl <;>
    revert hbare hextended <;> decide

theorem exists_rest_of_blockOf {generator : Generator}
    (hlibrary : generator.library = Layout.library) {query : Query} (h : query.IsValid) :
    ∃ rest, generator.blockOf query = "type " ++ (query.name ++ rest) := by
  obtain ⟨⟨name, hname⟩, ⟨command, hcommand⟩, hcolumns⟩ := h
  have hblock := (generateQuery_eq_ok_iff hlibrary).2
    ⟨name, command, hname, hcommand, hcolumns, rfl⟩
  rw [blockOf, hblock, ← QueryName.name_of_parse hname]
  show ∃ rest, Block.text generator.types query name command = "type " ++ (name.name ++ rest)
  unfold Block.text Block.parameterTypes Block.objectType
  split <;> simp only [-String.reduceAppend, String.append_assoc] <;> exact ⟨_, rfl⟩

theorem blockOf_eq_of_contents_eq {generator : Generator} {file other : String}
    {first second : Query}
    (h : (generator.moduleOf file [first]).contents =
      (generator.moduleOf other [second]).contents) :
    generator.blockOf first = generator.blockOf second := by
  unfold moduleOf Block.fileText at h
  simpa using h

/-- A source file without the ending and one with it: two files of one name, but not of one text. -/
theorem generated_names_of_collision :
    let getUser : Query :=
      { name := "GetUser", cmd := ":one", text := "SELECT 1", filename := "users" }
    let getPosts : Query :=
      { name := "GetPosts", cmd := ":many", text := "SELECT 2", filename := "users.sql" }
    let generator : Generator := { typesPath := "./types" }
    ∃ first second,
      (generator.generate [getUser, getPosts]).outcome = .ok [first, second] ∧
      first.name = "users.ts" ∧ second.name = "users.ts" ∧ first.contents ≠ second.contents := by
  intro getUser getPosts generator
  have huser : getUser.IsValid :=
    Query.isValid_of_leadingWord .get .one (by decide) rfl (by simp [getUser])
  have hposts : getPosts.IsValid :=
    Query.isValid_of_leadingWord .get .many (by decide) rfl (by simp [getPosts])
  have hgenerate : (generator.generate [getUser, getPosts]).outcome =
      .ok [generator.moduleOf "users" [getUser], generator.moduleOf "users.sql" [getPosts]] := by
    have hmodules : generator.modulesOf [getUser, getPosts] =
        [generator.moduleOf "users" [getUser], generator.moduleOf "users.sql" [getPosts]] := by
      have hfiles : sourceFiles [getUser, getPosts] = ["users", "users.sql"] := by decide
      unfold modulesOf
      rw [hfiles]
      rfl
    rw [← hmodules]
    exact generate_of_valid rfl (by simp [huser, hposts])
  refine ⟨_, _, hgenerate, by decide, by decide, ?_⟩
  have hlibrary : generator.library = Layout.library := rfl
  obtain ⟨rest, hfirst⟩ := exists_rest_of_blockOf hlibrary huser
  obtain ⟨others, hsecond⟩ := exists_rest_of_blockOf hlibrary hposts
  intro hcontents
  have hblocks := blockOf_eq_of_contents_eq hcontents
  rw [hfirst, hsecond] at hblocks
  simp [getUser, getPosts, ← String.toList_inj] at hblocks

end Generator

end QueryBindings
