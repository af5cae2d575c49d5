import QueryBindings.Proofs.Binding.Generation
import QueryBindings.Proofs.Script.TemplateLiteral

/-!
# The SQL text in generated code

A block has the SQL text of its query in a template literal, without escapes.  The literal
has this text as its value exactly if nothing in the text means something in a literal.
-/

namespace QueryBindings

open Script (unitsOf)
open Script.TemplateLiteral (IsPlain IsPlainBefore isPlain_append_cons_iff
  read_eq_closed_iff)

/-- What the module of a query is to execute. -/
def Query.statement (query : Query) : String :=
  "-- name: " ++ query.name ++ " " ++ query.cmd ++ "\n" ++ query.text

theorem Query.toList_statement (query : Query) :
    query.statement.toList =
      "-- name:".toList ++ ' ' :: (query.name.toList ++ ' ' ::
        (query.cmd.toList ++ '\n' :: query.text.toList)) := by
  have hannotation : "-- name: ".toList = "-- name:".toList ++ [' '] := by decide
  have hblank : " ".toList = [' '] := rfl
  have hbreak : "\n".toList = ['\n'] := rfl
  unfold statement
  simp only [String.toList_append, hannotation, hblank, hbreak, List.append_assoc,
    List.cons_append, List.nil_append]

/-- The annotation of an accepted command puts nothing but the name at risk. -/
theorem Query.isPlain_statement_iff {query : Query} {command : Command}
    (hcommand : Command.ofTag query.cmd = .ok command) :
    IsPlain query.statement.toList ↔ IsPlain query.name.toList ∧ IsPlain query.text.toList := by
  have hblank (second : List Char) : IsPlainBefore ' ' second :=
    ⟨by decide, by decide, by decide, by simp⟩
  have hbreak (second : List Char) : IsPlainBefore '\n' second :=
    ⟨by decide, by decide, by decide, by simp⟩
  have hopening : IsPlain "-- name:".toList := by decide
  have htag : IsPlain query.cmd.toList := by
    rw [← Command.tag_of_ofTag hcommand]
    cases command <;> decide
  rw [toList_statement, isPlain_append_cons_iff (hblank _) (by decide),
    isPlain_append_cons_iff (hblank _) (by decide),
    isPlain_append_cons_iff (hbreak _) (by decide)]
  simp only [hopening, htag, true_and]

theorem Query.read_statement_iff {query : Query} {command : Command}
    (hcommand : Command.ofTag query.cmd = .ok command) (closing : String) :
    Script.TemplateLiteral.read (query.statement ++ "`" ++ closing).toList =
        .closed (unitsOf query.statement.toList) closing.toList ↔
      IsPlain query.name.toList ∧ IsPlain query.text.toList := by
  have hquote : "`".toList = ['\x60'] := rfl
  rw [String.toList_append, String.toList_append, hquote, List.append_assoc,
    List.singleton_append, read_eq_closed_iff, Query.isPlain_statement_iff hcommand]

namespace Block

theorem exportHead_eq_literal (name : QueryName) (command : Command) (tag : String) :
    ∃ opening, exportHead name command tag =
      opening ++ "\tquery: `" ++ ("-- name: " ++ name.name ++ " " ++ tag ++ "\n") := by
  have hquery : "\tquery: `-- name: " = "\tquery: `" ++ "-- name: " := by decide
  unfold exportHead
  rw [hquery]
  simp only [← String.append_assoc]
  exact ⟨_, rfl⟩

theorem exportTail_eq_literal (name : QueryName) (command : Command) (columns : List Column) :
    ∃ closing, exportTail name command columns = "`" ++ closing := by
  have hquote : "`,\n" = "`" ++ ",\n" := by decide
  unfold exportTail
  rw [hquote]
  simp only [String.append_assoc]
  exact ⟨_, rfl⟩

theorem text_eq_literal (types : TypeMap) {query : Query} {name : QueryName}
    (hname : QueryName.parse query.name = .ok name) (command : Command) :
    ∃ opening closing, "`" ++ closing = exportTail name command (parameterColumns query) ∧
      text types query name command =
        opening ++ "\tquery: `" ++ query.statement ++ "`" ++ closing := by
  obtain ⟨opening, hopening⟩ := exportHead_eq_literal name command query.cmd
  obtain ⟨closing, hclosing⟩ := exportTail_eq_literal name command (parameterColumns query)
  obtain ⟨before, hbefore⟩ :
      ∃ before, text types query name command =
        before ++ "\tquery: `" ++ query.statement ++ "`" ++ closing := by
    unfold text Query.statement
    rw [hopening, hclosing, QueryName.name_of_parse hname]
    simp only [← String.append_assoc]
    exact ⟨_, rfl⟩
  exact ⟨before, closing, hclosing.symm, hbefore⟩

end Block

namespace Generator

/--
The literal is read as what the module is to execute, and ends where its template ends it,
exactly if the name and the SQL text have no backtick, no backslash, no carriage return and
no dollar sign in front of a brace.
-/
theorem generateQuery_literal (typesPath : String) (types : TypeMap) {query : Query}
    {block : String}
    (h : (generateQuery { typesPath := typesPath, types := types } query).outcome = .ok block) :
    ∃ name command opening closing,
      QueryName.parse query.name = .ok name ∧ Command.ofTag query.cmd = .ok command ∧
      "`" ++ closing = Block.exportTail name command (Block.parameterColumns query) ∧
      block = opening ++ "\tquery: `" ++ query.statement ++ "`" ++ closing ∧
      (Script.TemplateLiteral.read (query.statement ++ "`" ++ closing).toList =
          .closed (unitsOf query.statement.toList) closing.toList ↔
        IsPlain query.name.toList ∧ IsPlain query.text.toList) := by
  obtain ⟨name, command, hname, hcommand, _, rfl⟩ := (generateQuery_eq_ok_iff rfl).1 h
  obtain ⟨opening, closing, hclosing, hblock⟩ := Block.text_eq_literal types hname command
  exact ⟨name, command, opening, closing, hname, hcommand, hclosing, hblock,
    Query.read_statement_iff hcommand closing⟩

theorem generateQuery_literal_of_placeholder :
    let query : Query :=
      { name := "GetUser", cmd := ":one", text := "SELECT '\x7b\x7d' FROM users\nWHERE id = $1" }
    ∃ block opening closing,
      (generateQuery { typesPath := "./types" } query).outcome = .ok block ∧
      block = opening ++ "\tquery: `" ++ query.statement ++ "`" ++ closing ∧
      Script.TemplateLiteral.read (query.statement ++ "`" ++ closing).toList =
        .closed (unitsOf query.statement.toList) closing.toList := by
  intro query
  have hname : QueryName.parse query.name = .ok ⟨"GetUser", Text.lowerFirst "GetUser", .get⟩ :=
    QueryName.parse_of_leadingWord .get (by decide)
  have hblock : (generateQuery { typesPath := "./types" } query).outcome = _ :=
    (generateQuery_eq_ok_iff rfl).2
      ⟨_, .one, hname, Command.ofTag_tag .one, by simp [query], rfl⟩
  obtain ⟨_, _, opening, closing, _, _, _, htext, hread⟩ :=
    generateQuery_literal "./types" {} hblock
  exact ⟨_, opening, closing, hblock, htext, hread.2 ⟨by decide, by decide⟩⟩

theorem generateQuery_literal_of_quoted_identifier :
    let query : Query :=
      { name := "GetUser", cmd := ":one", text := "SELECT `id` FROM `users`" }
    ∃ block opening closing,
      (generateQuery { typesPath := "./types" } query).outcome = .ok block ∧
      block = opening ++ "\tquery: `" ++ query.statement ++ "`" ++ closing ∧
      Script.TemplateLiteral.read (query.statement ++ "`" ++ closing).toList =
        .closed (unitsOf "-- name: GetUser :one\nSELECT ".toList)
          ("id` FROM `users``" ++ closing).toList ∧
      Script.TemplateLiteral.read (query.statement ++ "`" ++ closing).toList ≠
        .closed (unitsOf query.statement.toList) closing.toList := by
  intro query
  have hname : QueryName.parse query.name = .ok ⟨"GetUser", Text.lowerFirst "GetUser", .get⟩ :=
    QueryName.parse_of_leadingWord .get (by decide)
  have hcommand : Command.ofTag query.cmd = .ok .one := Command.ofTag_tag .one
  have hblock : (generateQuery { typesPath := "./types" } query).outcome = _ :=
    (generateQuery_eq_ok_iff rfl).2 ⟨_, .one, hname, hcommand, by simp [query], rfl⟩
  obtain ⟨opening, closing, _, htext⟩ := Block.text_eq_literal {} hname .one
  refine ⟨_, opening, closing, hblock, htext, ?_, ?_⟩
  · have hstatement : query.statement.toList =
        "-- name: GetUser :one\nSELECT ".toList ++ '\x60' :: "id` FROM `users`".toList := by
      decide
    have hrest : "id` FROM `users``".toList = "id` FROM `users`".toList ++ "`".toList := by
      decide
    rw [String.toList_append, String.toList_append, String.toList_append, hstatement, hrest,
      List.append_assoc, List.append_assoc, List.append_assoc, List.cons_append]
    exact read_eq_closed_iff.2 (by decide)
  · intro hclosed
    have hplain := ((Query.read_statement_iff hcommand closing).1 hclosed).2
    exact absurd hplain (by decide)

end Generator

end QueryBindings
