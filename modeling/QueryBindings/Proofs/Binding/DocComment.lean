import QueryBindings.Proofs.Binding.Arguments
import QueryBindings.Proofs.Script.BlockComment

/-!
# Doc comments in generated code

Object types show the descriptions of their members in comments, without escapes.  Such a
comment ends where it is meant to exactly if the end of a comment does not occur in the
description; otherwise what comes after it there is read as code.
-/

namespace QueryBindings

open Script.BlockComment (ending readBody readBody_append_iff readBody_of_no_ending)

namespace Template

theorem toList_docComment (description after : String) :
    (docComment description ++ after).toList =
      '/' :: '*' :: ('*' :: ' ' :: (description.toList ++ [' ']) ++ '*' :: '/' :: after.toList) := by
  have hopening : "/** ".toList = ['/', '*', '*', ' '] := by decide
  have hclosing : " */".toList = [' ', '*', '/'] := by decide
  unfold docComment
  simp only [String.toList_append, hopening, hclosing, List.append_assoc, List.cons_append,
    List.nil_append]

/-- The white space around a description keeps it apart from the stars. -/
theorem ending_infix_padded_iff {description : List Char} :
    ending <:+: '*' :: ' ' :: (description ++ [' ']) ↔ ending <:+: description := by
  have hfirst (rest : List Char) : ¬ ending <+: '*' :: ' ' :: rest := by
    simp [ending, List.cons_prefix_cons]
  have hsecond (rest : List Char) : ¬ ending <+: ' ' :: rest := by
    simp [ending, List.cons_prefix_cons]
  have hlast : ¬ ending <:+ description ++ [' '] := by
    rintro ⟨before, hbefore⟩
    have hblank := congrArg List.getLast? hbefore
    simp [ending] at hblank
  rw [List.infix_cons_iff, List.infix_cons_iff, List.infix_concat_iff]
  simp only [hfirst, hsecond, hlast, false_or]

theorem read_docComment_iff {description after : String} :
    Script.BlockComment.read (docComment description ++ after).toList = some after.toList ↔
      ¬ ending <:+: description.toList := by
  rw [toList_docComment, Script.BlockComment.read, readBody_append_iff, ending_infix_padded_iff]

theorem read_docComment_of_ending {description after : String} {first rest : List Char}
    (hdescription : description.toList = first ++ '*' :: '/' :: rest)
    (hfirst : ¬ ending <:+: first) :
    Script.BlockComment.read (docComment description ++ after).toList =
      some (rest ++ (" */" ++ after).toList) := by
  have hclosing : " */".toList = [' ', '*', '/'] := by decide
  rw [toList_docComment, Script.BlockComment.read, hdescription, String.toList_append, hclosing]
  have hopening : ¬ ending <:+: '*' :: ' ' :: first := by
    rw [← ending_infix_padded_iff] at hfirst
    exact fun h => hfirst (h.trans ⟨[], [' '], rfl⟩)
  have hread := readBody_of_no_ending hopening (rest ++ ' ' :: '*' :: '/' :: after.toList)
  simpa using hread

end Template

namespace ObjectType

def upTo (object : ObjectType) (earlier : List Member) : String :=
  "type " ++ object.name ++ " = \x7b\n" ++ String.join (earlier.map memberLine) ++ "\t"

/-- A type from behind the doc comment of a member on, which stands on the next line. -/
def past (member : Member) (later : List Member) : String :=
  "\n" ++ memberLine { member with comment := none } ++ String.join (later.map memberLine) ++
    "\x7d;\n"

theorem text_declaration {object : ObjectType} {earlier later : List Member} {member : Member}
    {description : String} (hmembers : object.members = earlier ++ member :: later)
    (hcomment : member.comment = some description) :
    object.declaration.text =
      object.upTo earlier ++ Template.docComment description ++ past member later := by
  unfold declaration Declaration.text upTo past Template.docComment
  rw [hmembers]
  simp [memberLine, hcomment, ← String.toList_inj]

end ObjectType

namespace Block

variable {types : TypeMap} {query : Query} {name : QueryName} {command : Command}

theorem contains_declaration {object : ObjectType}
    (h : object ∈ types.objectTypes query name command (parameterMembers types query))
    (hmembers : object.members ≠ []) :
    Text.Contains (text types query name command) object.declaration.text := by
  unfold text
  refine Text.Contains.append_right (Text.Contains.append_right (Text.Contains.append_right
    (Text.Contains.append_right ?_ _) _) _) _
  rcases TypeMap.mem_objectTypes.1 h with rfl | ⟨hrows, mode, rfl⟩
  · have hcolumns : (parameterColumns query).isEmpty = false := by
      simpa [parameterMembers] using hmembers
    have hdeclaration : ObjectType.declaration ⟨name.namedType, parameterMembers types query⟩ =
        .typeAlias name.namedType (objectDefinition (parameterColumns query) types.inputType) :=
      ObjectType.declaration_map name.namedType (parameterColumns query) types.inputType
    rw [hdeclaration, QueryName.namedType, ← objectType_eq, parameterTypes, hcolumns]
    exact ((Text.Contains.refl _).append_right _).append_right _
  · have hdeclaration : ObjectType.declaration
          ⟨name.resultType ⟨.object, mode⟩, query.columns.map (types.resultMember ⟨.object, mode⟩)⟩ =
        .typeAlias (name.resultType ⟨.object, mode⟩)
          (objectDefinition query.columns (types.outputType mode)) :=
      ObjectType.declaration_map (name.resultType ⟨.object, mode⟩) query.columns
        (types.outputType mode)
    have htype : resultType types name.name command query.columns ⟨.object, mode⟩ =
        (ObjectType.declaration ⟨name.resultType ⟨.object, mode⟩,
          query.columns.map (types.resultMember ⟨.object, mode⟩)⟩).text := by
      rw [hdeclaration, QueryName.resultType, ← objectType_eq, resultType, if_neg hrows]
    rw [← htype]
    exact (Text.Contains.of_mem_join
      (List.mem_map_of_mem (ResultShape.mem_all ⟨.object, mode⟩))).append_left _

theorem text_eq_docComment {object : ObjectType} {earlier later : List Member} {member : Member}
    {description : String}
    (h : object ∈ types.objectTypes query name command (parameterMembers types query))
    (hmembers : object.members = earlier ++ member :: later)
    (hcomment : member.comment = some description) :
    ∃ opening closing, text types query name command =
      opening ++ object.upTo earlier ++ Template.docComment description ++
        (ObjectType.past member later ++ closing) := by
  have hne : object.members ≠ [] := by
    rw [hmembers]
    exact List.append_ne_nil_of_right_ne_nil _ (List.cons_ne_nil _ _)
  obtain ⟨opening, closing, htext⟩ := contains_declaration h hne
  refine ⟨opening, closing, ?_⟩
  rw [htext, ObjectType.text_declaration hmembers hcomment]
  simp only [String.append_assoc]

theorem map_comment_parameterMembers
    (h : ∀ parameter ∈ query.params, parameter.column.isSome = true) :
    query.params.map (fun parameter => parameter.column.bind Column.comment?) =
      (parameterMembers types query).map Member.comment := by
  have hcomments : query.params.map (fun parameter => parameter.column.bind Column.comment?) =
      (query.params.map Parameter.column).map (fun column => column.bind Column.comment?) := by
    rw [List.map_map]
    rfl
  rw [hcomments, map_column_of_isSome h, parameterMembers, parameterColumns]
  simp only [List.map_map]
  rfl

end Block

namespace Generator

open Script.BlockComment (read)

/--
Where the doc comments of a query end.  The named parameters and the object rows show the
description of each of their columns that has one, in front of its member.  Read from its
opening on, such a comment ends at the ending that its template has after the description,
so that the member comes next, exactly if the description has no ending of a comment in it;
otherwise it ends at the first one, and the rest of the description is code.
-/
theorem doc_comments_end_iff (typesPath : String) (types : TypeMap) {query : Query}
    {block : String}
    (h : (generateQuery { typesPath := typesPath, types := types } query).outcome = .ok block) :
    ∃ name command members,
      QueryName.parse query.name = .ok name ∧
      Command.ofTag query.cmd = .ok command ∧
      types.parameterMembers query = .ok members ∧
      let objects := types.objectTypes query name command members
      query.params.map (fun parameter => parameter.column.bind Column.comment?) =
        members.map Member.comment ∧
      ⟨name.namedType, members⟩ ∈ objects ∧
      (¬ (command = .exec ∨ query.columns = []) → ∀ mode, ∃ rows,
        query.columns.map Column.comment? = rows.map Member.comment ∧
        ⟨name.resultType ⟨.object, mode⟩, rows⟩ ∈ objects) ∧
      ∀ object ∈ objects, ∀ earlier member later description,
        object.members = earlier ++ member :: later → member.comment = some description →
        ∃ opening closing,
          let after := ObjectType.past member later ++ closing
          block = opening ++ object.upTo earlier ++ Template.docComment description ++ after ∧
          (read (Template.docComment description ++ after).toList = some after.toList ↔
            ¬ ending <:+: description.toList) ∧
          ∀ first rest, description.toList = first ++ '*' :: '/' :: rest → ¬ ending <:+: first →
            read (Template.docComment description ++ after).toList =
              some (rest ++ (" */" ++ after).toList) := by
  obtain ⟨name, command, hname, hcommand, hcolumns, rfl⟩ := (generateQuery_eq_ok_iff rfl).1 h
  have hmembers : types.parameterMembers query = .ok (Block.parameterMembers types query) :=
    Layout.membersOf_eq_ok_iff.2 ⟨hcolumns, rfl⟩
  refine ⟨name, command, _, hname, hcommand, hmembers,
    Block.map_comment_parameterMembers hcolumns, TypeMap.mem_objectTypes.2 (.inl rfl),
    ?rows, ?comments⟩
  case rows =>
    intro hrows mode
    refine ⟨_, ?_, TypeMap.mem_objectTypes.2 (.inr ⟨hrows, mode, rfl⟩)⟩
    rw [List.map_map]
    rfl
  case comments =>
    intro object hobject earlier member later description hsplit hcomment
    obtain ⟨opening, closing, htext⟩ := Block.text_eq_docComment hobject hsplit hcomment
    exact ⟨opening, closing, htext, Template.read_docComment_iff,
      fun first rest => Template.read_docComment_of_ending⟩

theorem doc_comments_end_of_stars :
    let description := "/ a * b **"
    let column : Column :=
      { name := "id", typeName := some "integer", notNull := true, comment := description }
    let query : Query := { name := "GetUser", cmd := ":one", params := [⟨1, some column⟩] }
    ∃ block opening after,
      (generateQuery { typesPath := "./types" } query).outcome = .ok block ∧
      block = opening ++ Template.docComment description ++ ("\n\t\"id\": " ++ after) ∧
      read (Template.docComment description ++ ("\n\t\"id\": " ++ after)).toList =
        some ("\n\t\"id\": " ++ after).toList := by
  intro description column query
  have hblock : (generateQuery { typesPath := "./types" } query).outcome = _ :=
    (generateQuery_eq_ok_iff rfl).2
      ⟨⟨"GetUser", "getUser", .get⟩, .one, by decide, Command.ofTag_tag .one,
        by simp [query], rfl⟩
  obtain ⟨name, command, members, _, _, hmembers, _, hobject, _, hends⟩ :=
    doc_comments_end_iff "./types" {} hblock
  have hmember : ({} : TypeMap).parameterMembers query =
      .ok [⟨"id", "number | bigint", some description⟩] := by decide
  obtain rfl : [⟨"id", "number | bigint", some description⟩] = members :=
    Except.ok.inj (hmember.symm.trans hmembers)
  obtain ⟨opening, closing, htext, hread, _⟩ :=
    hends _ hobject [] ⟨"id", "number | bigint", some description⟩ [] description rfl rfl
  have hpast : ObjectType.past ⟨"id", "number | bigint", some description⟩ [] ++ closing =
      "\n\t\"id\": " ++ ("number | bigint;\n\x7d;\n" ++ closing) := by
    simp [ObjectType.past, ObjectType.memberLine, ← String.toList_inj]
  simp only [hpast] at htext hread
  have hdescription : ¬ ending <:+: description.toList := by
    simp [description, ending, List.infix_cons_iff]
  exact ⟨_, _, _, hblock, htext, hread.2 hdescription⟩

theorem doc_comments_end_of_path_pattern :
    let description := "Files such as src/*/main.ts"
    let column : Column :=
      { name := "pattern", typeName := some "text", notNull := true, comment := description }
    let query : Query :=
      { name := "GetRule", cmd := ":one", text := "SELECT pattern FROM rules",
        columns := [column] }
    ∃ block opening after,
      (generateQuery { typesPath := "./types" } query).outcome = .ok block ∧
      block = opening ++ Template.docComment description ++ ("\n\t\"pattern\": " ++ after) ∧
      read (Template.docComment description ++ ("\n\t\"pattern\": " ++ after)).toList =
        some ("main.ts */\n\t\"pattern\": " ++ after).toList ∧
      read (Template.docComment description ++ ("\n\t\"pattern\": " ++ after)).toList ≠
        some ("\n\t\"pattern\": " ++ after).toList := by
  intro description column query
  have hblock : (generateQuery { typesPath := "./types" } query).outcome = _ :=
    (generateQuery_eq_ok_iff rfl).2
      ⟨⟨"GetRule", "getRule", .get⟩, .one, by decide, Command.ofTag_tag .one,
        by simp [query], rfl⟩
  let member : Member := ⟨"pattern", "string", some description⟩
  have hrows : ⟨"GetRuleRecordRowModeObjectIntegerModeNumber", [member]⟩ ∈
      ({} : TypeMap).objectTypes query ⟨"GetRule", "getRule", .get⟩ .one
        (Block.parameterMembers {} query) := by decide
  have hmembers : ObjectType.members ⟨"GetRuleRecordRowModeObjectIntegerModeNumber", [member]⟩ =
      [] ++ member :: [] := rfl
  obtain ⟨opening, closing, htext⟩ := Block.text_eq_docComment hrows hmembers rfl
  have hpast : ObjectType.past member [] ++ closing =
      "\n\t\"pattern\": " ++ ("string;\n\x7d;\n" ++ closing) := by
    simp [member, ObjectType.past, ObjectType.memberLine, ← String.toList_inj]
  simp only [hpast] at htext
  have hdescription : description.toList =
      "Files such as src/".toList ++ '*' :: '/' :: "main.ts".toList := by decide
  have hfirst : ¬ ending <:+: "Files such as src/".toList := by
    simp [ending, List.infix_cons_iff]
  refine ⟨_, _, _, hblock, htext, ?_, ?_⟩
  · rw [Template.read_docComment_of_ending hdescription hfirst]
    simp
  · rw [Template.read_docComment_of_ending hdescription hfirst]
    simp

end Generator

end QueryBindings
