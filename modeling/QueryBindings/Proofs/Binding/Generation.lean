import QueryBindings.Proofs.Layout.Rendering
import QueryBindings.Proofs.Log.Outcome
import QueryBindings.Proofs.Query.LeadingWord

/-!
# Generating the code of a query

When generation has an outcome, and which one.  A query whose name, command and
parameters are in order always has code, and the code is its block.
-/

namespace QueryBindings

open Log (Traced)
open Template (Scope)

namespace Generator

theorem render_of_load {generator : Generator} {name : String} {template : Template}
    {scope : Scope} {text : String} (hload : generator.library.load name = .ok template)
    (hrender : Template.render template scope = .ok text) :
    generator.render name scope = .ok text := by
  simp [Generator.render, Template.Library.render, hload, hrender]

theorem generateQuery_eq_ok_iff {generator : Generator}
    (hlibrary : generator.library = Layout.library) {query : Query} {text : String} :
    (generator.generateQuery query).outcome = .ok text ↔
      ∃ name command, QueryName.parse query.name = .ok name ∧
        Command.ofTag query.cmd = .ok command ∧
        (∀ parameter ∈ query.params, parameter.column.isSome = true) ∧
        text = Block.text generator.types query name command := by
  have hload : generator.library.load Layout.queryTemplate = .ok Layout.queryTree := by
    rw [hlibrary]
    exact Layout.load_queryTemplate
  have hrender (name : QueryName) (command : Command)
      (hcolumns : ∀ parameter ∈ query.params, parameter.column.isSome = true) :=
    render_of_load hload (Layout.render_queryTree generator.types name command hcolumns)
  unfold generateQuery TypeMap.parameterMembers
  simp only [Traced.bind_eq_ok_iff, Traced.ofExcept_outcome, Traced.log_outcome,
    mapError_eq_ok_iff, Layout.membersOf_eq_ok_iff]
  constructor
  · rintro ⟨name, hname, command, hcommand, _, _, _, ⟨hcolumns, rfl⟩, htext⟩
    have hblock := hrender name command hcolumns
    exact ⟨name, command, hname, hcommand, hcolumns, Except.ok.inj (htext.symm.trans hblock)⟩
  · rintro ⟨name, command, hname, hcommand, hcolumns, rfl⟩
    exact ⟨name, hname, command, hcommand, (), trivial, _, ⟨hcolumns, rfl⟩,
      hrender name command hcolumns⟩

/--
Rendering refines the direct printer: a query whose name parses, whose command is
known and whose parameters all have columns gets exactly its block, whatever its
texts contain.
-/
theorem generateQuery_prints_block (typesPath : String) (types : TypeMap) {query : Query}
    {name : QueryName} {command : Command} (hname : QueryName.parse query.name = .ok name)
    (hcommand : Command.ofTag query.cmd = .ok command)
    (hcolumns : ∀ parameter ∈ query.params, parameter.column.isSome = true) :
    (generateQuery { typesPath := typesPath, types := types } query).outcome =
      .ok (Block.text types query name command) :=
  (generateQuery_eq_ok_iff rfl).2 ⟨name, command, hname, hcommand, hcolumns, rfl⟩

theorem generateQuery_prints_block_of_template_syntax :
    let column : Column :=
      { name := "a\x7b\x7b", typeName := some "text", comment := "\x7b%\n" }
    let query : Query :=
      { name := "GetUser\x7b# #\x7d", cmd := ":one", text := "SELECT\t\x7b\x7b name \x7d\x7d\n",
        params := [⟨1, some column⟩, ⟨2, some column⟩], columns := [column] }
    let name : QueryName := ⟨"GetUser\x7b# #\x7d", "getUser\x7b# #\x7d", .get⟩
    (generateQuery { typesPath := "./types" } query).outcome =
      .ok (Block.text {} query name .one) := by
  intro column query name
  have hletter : Text.lowerChar 'G' = ['g'] := by decide
  have hvalue : Text.lowerFirst query.name = name.valueName := by
    simp [query, name, Text.lowerFirst, Text.lowerFirstChars, hletter]
  have hname : QueryName.parse query.name = .ok name := by
    rw [QueryName.parse_of_leadingWord .get (by decide), hvalue]
  have hcolumns : ∀ parameter ∈ query.params, parameter.column.isSome = true := by
    simp [query]
  exact generateQuery_prints_block "./types" {} hname (Command.ofTag_tag .one) hcolumns

end Generator

end QueryBindings
