import QueryBindings.Binding.Generator
import QueryBindings.Proofs.Layout.Block
import QueryBindings.Proofs.Layout.Tree

/-!
# Rendering the built-in templates

The built-in templates print blocks and files.  Each piece of a tree is matched
with the function that prints the same lines, so that the main statement, that
the code of a query is its block, only puts the pieces together.
-/

namespace QueryBindings.Layout

open Template

theorem evaluate_field {scope : Scope} {owner : Expr} {fields : List (String × Value)}
    {value : Value} (howner : evaluate scope owner = .ok (.record fields)) (name : String)
    (hfield : fields.lookup name = some value) :
    evaluate scope (.field owner name) = .ok value := by
  simp [evaluate, howner, hfield, Value.field, bind, Except.bind]

theorem evaluate_comment {scope : Scope} {argument : Expr} {description : String}
    (hargument : evaluate scope argument = .ok (.text description)) :
    evaluate scope (.filtered argument "doc_comment") =
      .ok (.text ("/** " ++ description ++ " */")) := by
  simp [evaluate, hargument, commentFilter, docComment, Value.print, bind, Except.bind]

theorem evaluate_isNone_none {scope : Scope} {argument : Expr}
    (hargument : evaluate scope argument = .ok .none) :
    evaluate scope (.isNone argument) = .ok (.bool true) := by
  simp [evaluate, hargument, bind, Except.bind]

theorem evaluate_isNone_list {scope : Scope} {argument : Expr} {items : List Value}
    (hargument : evaluate scope argument = .ok (.list items)) :
    evaluate scope (.isNone argument) = .ok (.bool false) := by
  simp [evaluate, hargument, bind, Except.bind]

theorem evaluate_equals_literal {scope : Scope} {argument : Expr} {s : String}
    (hargument : evaluate scope argument = .ok (.text s)) (t : String) :
    evaluate scope (.equals argument (.literal t)) = .ok (.bool (s == t)) := by
  simp [evaluate, hargument, Value.isEqual, bind, Except.bind]

theorem evaluate_choice {scope : Scope} {condition : Expr} {holds : Bool}
    (hcondition : evaluate scope condition = .ok (.bool holds)) (first second : String) :
    evaluate scope (.choice (.literal first) condition (.literal second)) =
      .ok (.text (if holds then first else second)) := by
  cases holds <;> simp [evaluate, hcondition, Value.isTrue, bind, Except.bind]

theorem evaluate_negation {scope : Scope} {argument : Expr} {holds : Bool}
    (hargument : evaluate scope argument = .ok (.bool holds)) :
    evaluate scope (.negation argument) = .ok (.bool !holds) := by
  simp [evaluate, hargument, Value.isTrue, bind, Except.bind]

/-! ## Scopes of loops -/

@[simp] theorem evaluate_ref_forItem (scope : Scope) (name : String) (item : Value)
    (last : Bool) : evaluate (scope.forItem name item last) (.ref name) = .ok item := by
  simp [evaluate, Scope.forItem]

theorem evaluate_last_forItem (scope : Scope) (name : String) (item : Value) (last : Bool)
    (hname : "loop" ≠ name) :
    evaluate (scope.forItem name item last) (.field (.ref "loop") "last") =
      .ok (.bool last) := by
  have hname' : ("loop" == name) = false := by simpa using hname
  simp [evaluate, Scope.forItem, List.lookup_cons, hname', Value.field, bind, Except.bind]

/-! ## Members -/

theorem isTrue_comment (column : Column) :
    ((column.comment?.map Value.text).getD .none).isTrue =
      .ok (!Text.isAllBlank column.comment) := by
  by_cases hblank : Text.isAllBlank column.comment = true
  · simp [Column.comment?, Column.hasComment, hblank, Value.isTrue]
  · have hne : column.comment ≠ "" := by
      intro hempty
      exact hblank (by simp [hempty, Text.isAllBlank])
    simp [Column.comment?, Column.hasComment, hblank, Value.isTrue, hne]

theorem render_objectMember {owner : Expr} {scope : Scope} {column : Column} {type : String}
    (howner : evaluate scope owner =
      .ok (Member.toValue ⟨column.name, type, column.comment?⟩)) :
    render (ofPieces (objectMember owner)) scope = .ok (Block.objectLine column type) := by
  have hcomment := evaluate_field howner "comment" rfl
  have hname := evaluate_field howner "name" rfl
  have htype := evaluate_field howner "type" rfl
  have hdescription :
      render
          (either (.field owner "comment")
            [said "\t", printed (.filtered (.field owner "comment") "doc_comment"), said "\n"] [])
          scope =
        .ok (Block.descriptionLine column) := by
    rw [render_either hcomment (isTrue_comment column)]
    by_cases hblank : Text.isAllBlank column.comment = true
    · simp [hblank, Block.descriptionLine]
    · have htext : evaluate scope (.field owner "comment") = .ok (.text column.comment) := by
        simp [hcomment, Column.comment?, Column.hasComment, hblank]
      simp [hblank, Block.descriptionLine, evaluate_comment htext, Value.print, Except.bind,
        ← String.toList_inj]
  simp [objectMember, hdescription, hname, htype, Value.print, Except.bind, Block.objectLine,
    String.append_assoc]

theorem render_tupleMember {owner : Expr} {scope : Scope} {column : Column} {type : String}
    {fields : List (String × Value)} (howner : evaluate scope owner = .ok (.record fields))
    (hname : fields.lookup "name" = some (.text column.name))
    (htype : fields.lookup "type" = some (.text type)) :
    render (ofPieces (tupleMember owner)) scope = .ok (Block.tupleLine column type) := by
  simp [tupleMember, evaluate_field howner "name" hname, evaluate_field howner "type" htype,
    Value.print, Except.bind, Block.tupleLine, String.append_assoc]

/-! ## Parameter types -/

def inputMember (types : TypeMap) (column : Column) : Member :=
  ⟨column.name, types.inputType column, column.comment?⟩

theorem membersOf_eq_ok_iff {types : TypeMap} {query : Query} {params : List Parameter}
    {members : List Member} :
    types.membersOf query params = .ok members ↔
      (∀ parameter ∈ params, parameter.column.isSome = true) ∧
        members = (params.filterMap Parameter.column).map (inputMember types) := by
  induction params generalizing members with
  | nil => simp [TypeMap.membersOf]
  | cons parameter rest ih =>
      cases hcolumn : parameter.column with
      | none => simp [TypeMap.membersOf, TypeMap.parameterMember, hcolumn]
      | some column =>
          simp only [TypeMap.membersOf, TypeMap.parameterMember, hcolumn,
            List.forall_mem_cons, Option.isSome_some, true_and, List.filterMap_cons,
            List.map_cons]
          constructor
          · intro h
            cases hrest : types.membersOf query rest with
            | error fault => simp [hrest, Except.map] at h
            | ok others =>
                obtain ⟨hcolumns, rfl⟩ := ih.1 hrest
                simp only [hrest, Except.map, Except.ok.injEq] at h
                exact ⟨hcolumns, h.symm⟩
          · rintro ⟨hcolumns, rfl⟩
            rw [ih.2 ⟨hcolumns, rfl⟩]
            rfl

theorem parameterColumns_isEmpty {query : Query}
    (h : ∀ parameter ∈ query.params, parameter.column.isSome = true) :
    (Block.parameterColumns query).isEmpty = query.params.isEmpty := by
  unfold Block.parameterColumns
  cases hparams : query.params with
  | nil => rfl
  | cons parameter rest =>
      obtain ⟨column, hcolumn⟩ := Option.isSome_iff_exists.1
        (h parameter (by simp [hparams]))
      simp [hcolumn]

section Pieces

variable {types : TypeMap} {name : String} {columns : List Column} {scope : Scope}

theorem render_parameterTypes
    (hhas : evaluate scope (.ref "has_parameters") = .ok (.bool (!columns.isEmpty)))
    (hname : evaluate scope (.ref "name") = .ok (.text name))
    (hnamed : evaluate scope (.ref "named_parameters") =
      .ok (.list (columns.map fun column => (inputMember types column).toValue)))
    (hanonymous : evaluate scope (.ref "anonymous_parameters") =
      .ok (.list (columns.map fun column => (inputMember types column).toPositionalValue))) :
    render parameterTypes scope = .ok (Block.parameterTypes types name columns) := by
  have hobject := render_each_lines "parameter" (objectMember (.ref "parameter"))
    (fun column => Block.objectLine column (types.inputType column)) hnamed
    (fun column _ last => render_objectMember (evaluate_ref_forItem scope _ _ last))
  have htuple := render_each_lines "parameter" (tupleMember (.ref "parameter"))
    (fun column => Block.tupleLine column (types.inputType column)) hanonymous
    (fun column _ last => render_tupleMember (evaluate_ref_forItem scope _ _ last) rfl rfl)
  unfold parameterTypes
  rw [render_either hhas rfl]
  cases hempty : columns.isEmpty with
  | true =>
      simp [Block.parameterTypes, hempty, hname, Value.print, Except.bind,
        ← String.toList_inj]
  | false =>
      simp [Block.parameterTypes, Block.objectType, Block.tupleType, hempty, hname, hobject,
        htuple, Value.print, Except.bind, ← String.toList_inj]

/-- The value that a result declaration of a query has in templates. -/
def resultValue (types : TypeMap) (command : Command) (columns : List Column)
    (shape : ResultShape) : Value :=
  .record [("suffix", .text shape.suffix), ("row_mode", .text shape.rowMode.name),
    ("members",
      if command = .exec ∨ columns = [] then .none
      else .list (columns.map fun column => (types.resultMember shape column).toValue))]

theorem map_toValue_resultDeclarations (types : TypeMap) (query : Query) (command : Command) :
    (types.resultDeclarations query command).map ResultDeclaration.toValue =
      ResultShape.all.map (resultValue types command query.columns) := by
  rw [TypeMap.resultDeclarations, List.map_map]
  congr 1
  funext shape
  cases command <;> cases hcolumns : query.columns <;>
    simp [ResultDeclaration.toValue, resultValue, Command.returnsRows]

theorem render_resultType {command : Command} {shape : ResultShape}
    (hname : evaluate scope (.ref "name") = .ok (.text name))
    (hresult : evaluate scope (.ref "result") =
      .ok (resultValue types command columns shape)) :
    render resultType scope = .ok (Block.resultType types name command columns shape) := by
  have hsuffix := evaluate_field hresult "suffix" rfl
  have hmode := evaluate_field hresult "row_mode" rfl
  have hmembers := evaluate_field hresult "members" rfl
  unfold resultType
  by_cases hnever : command = .exec ∨ columns = []
  · rw [if_pos hnever] at hmembers
    rw [render_either (evaluate_isNone_none hmembers) rfl]
    simp [Block.resultType, hnever, hname, hsuffix, Value.print, Except.bind,
      String.append_assoc]
  · rw [if_neg hnever] at hmembers
    rw [render_either (evaluate_isNone_list hmembers) rfl]
    simp only [Bool.false_eq_true, if_false, render_ofPieces_cons, render_ofPieces_nil,
      joinTexts_empty_right]
    rw [render_either (evaluate_equals_literal hmode "object") rfl]
    obtain ⟨rowMode, integerMode⟩ := shape
    cases rowMode with
    | object =>
        have hlines := render_each_lines "member" (objectMember (.ref "member"))
          (fun column => Block.objectLine column (types.outputType integerMode column)) hmembers
          (fun column _ last => render_objectMember (evaluate_ref_forItem scope _ _ last))
        simp [Block.resultType, Block.objectType, RowMode.name, hnever, hname, hsuffix, hlines,
          Value.print, Except.bind, String.append_assoc]
    | tuple =>
        have hlines := render_each_lines "member" (tupleMember (.ref "member"))
          (fun column => Block.tupleLine column (types.outputType integerMode column)) hmembers
          (fun column _ last =>
            render_tupleMember (evaluate_ref_forItem scope _ _ last) rfl rfl)
        simp [Block.resultType, Block.tupleType, RowMode.name, hnever, hname, hsuffix, hlines,
          Value.print, Except.bind, String.append_assoc]

end Pieces

/-! ## The scope of a block -/

/-- The variables of the template of a query whose parameters are all bound to columns. -/
def blockScope (types : TypeMap) (query : Query) (name : QueryName) (command : Command) :
    Scope :=
  queryScope query name command ((Block.parameterColumns query).map (inputMember types))
    (types.resultDeclarations query command)

def loopNames : List String := ["parameter", "result", "type_name", "binding"]

section Block

variable {types : TypeMap} {query : Query} {name : QueryName} {command : Command}
variable {scope : Scope}

theorem extends_forItem (hscope : scope.Extends (blockScope types query name command))
    (loopName : String) (hloop : loopName ∈ loopNames) (item : Value) (last : Bool) :
    (scope.forItem loopName item last).Extends (blockScope types query name command) := by
  have hnew : (blockScope types query name command).lookup loopName = none := by
    simp only [loopNames, List.mem_cons, List.not_mem_nil, or_false] at hloop
    rcases hloop with rfl | rfl | rfl | rfl <;> simp [blockScope, queryScope, List.lookup_cons]
  exact hscope.forItem hnew (by simp [blockScope, queryScope, List.lookup_cons]) item last

/-- What the variables of a block evaluate to, inside its loops too. -/
structure Describes (scope : Scope) (types : TypeMap) (query : Query) (name : QueryName)
    (command : Command) : Prop where
  queryName : evaluate scope (.ref "name") = .ok (.text name.name)
  valueName : evaluate scope (.ref "value_name") = .ok (.text name.valueName)
  tag : evaluate scope (.ref "command_tag") = .ok (.text query.cmd)
  sql : evaluate scope (.ref "sql") = .ok (.text query.text)
  resultMode : evaluate scope (.ref "result_mode") = .ok (.text command.resultMode)
  connectionMode :
    evaluate scope (.ref "connection_mode") = .ok (.text name.connectionMode.code)
  hasParameters :
    evaluate scope (.ref "has_parameters") = .ok (.bool (!query.params.isEmpty))
  named : evaluate scope (.ref "named_parameters") =
    .ok (.list ((Block.parameterColumns query).map fun column =>
      (inputMember types column).toValue))
  anonymous : evaluate scope (.ref "anonymous_parameters") =
    .ok (.list ((Block.parameterColumns query).map fun column =>
      (inputMember types column).toPositionalValue))
  results : evaluate scope (.ref "results") =
    .ok (.list (ResultShape.all.map (resultValue types command query.columns)))
  typeNames : evaluate scope (.ref "type_names") =
    .ok (.list (Block.typeSuffixes.map fun suffix => .text (name.name ++ suffix)))
  bindings : evaluate scope (.ref "bindings") = .ok (.list bindings)
  configuration :
    evaluate scope (.ref "configuration_type") = .ok (.text configurationType)
  rowMode : evaluate scope (.ref "default_row_mode") = .ok (.text "object")
  integerMode : evaluate scope (.ref "default_integer_mode") = .ok (.text "number")

theorem describes_of_extends (hscope : scope.Extends (blockScope types query name command)) :
    Describes scope types query name command := by
  constructor
  case results =>
    rw [← map_toValue_resultDeclarations]
    exact hscope.evaluate_ref (by simp [blockScope, queryScope, List.lookup_cons])
  case typeNames =>
    exact hscope.evaluate_ref (by
      simp [blockScope, queryScope, List.lookup_cons, QueryName.typeNames, QueryName.namedType,
        QueryName.anonymousType, QueryName.resultType, Block.typeSuffixes])
  case rowMode =>
    exact hscope.evaluate_ref (by
      simp [blockScope, queryScope, List.lookup_cons, ResultShape.standard, RowMode.name])
  case integerMode =>
    exact hscope.evaluate_ref (by
      simp [blockScope, queryScope, List.lookup_cons, ResultShape.standard, IntegerMode.name])
  all_goals exact hscope.evaluate_ref (by simp [blockScope, queryScope, List.lookup_cons])

theorem render_boundTypes (hscope : scope.Extends (blockScope types query name command)) :
    render (each "result" (.ref "results") boundType) scope =
      .ok (Block.boundTypes name command ++ " => \x7b\n") := by
  refine render_each_separated "\n" " => \x7b\n" (by decide)
    (describes_of_extends hscope).results ?_
  intro shape _ last
  let item := resultValue types command query.columns shape
  have hvalues := describes_of_extends
    (extends_forItem hscope "result" (by decide) item last)
  have hsuffix := evaluate_field (evaluate_ref_forItem scope "result" item last) "suffix" rfl
  have hlast := evaluate_choice
    (evaluate_last_forItem scope "result" item last (by decide)) " => \x7b" ""
  simp only [boundType, render_ofPieces_cons, render_ofPieces_nil, render_said,
    render_printed, hvalues.queryName, hvalues.resultMode, hvalues.connectionMode, hsuffix,
    hlast, item]
  cases last <;> simp [Value.print, Except.bind, ← String.toList_inj]

theorem render_namedParameters
    (hscope : scope.Extends (blockScope types query name command)) :
    render
        (each "parameter" (.ref "named_parameters")
          [said "\t\t\t\t\tparameters[\"", printed (.field (.ref "parameter") "name"),
            said "\"],\n"])
        scope =
      .ok (String.join ((Block.parameterColumns query).map fun column =>
        "\t\t\t\t\tparameters[\"" ++ column.name ++ "\"],\n")) := by
  refine render_each_lines _ _ _ (describes_of_extends hscope).named ?_
  intro column _ last
  have hname :
      evaluate (scope.forItem "parameter" (inputMember types column).toValue last)
        (.field (.ref "parameter") "name") = .ok (.text column.name) :=
    evaluate_field (evaluate_ref_forItem scope _ _ last) "name" rfl
  simp [hname, Value.print, Except.bind, String.append_assoc]

def bindingValue (mode parametersSuffix : String) (byName : Bool) : Value :=
  .record [("mode", .text mode), ("parameters_suffix", .text parametersSuffix),
    ("by_name", .bool byName)]

theorem render_boundParameters
    (hscope : scope.Extends (blockScope types query name command))
    {mode parametersSuffix : String} {byName : Bool}
    (hbinding : evaluate scope (.ref "binding") =
      .ok (bindingValue mode parametersSuffix byName)) :
    render boundParameters scope =
      .ok (if byName then Block.namedParameters (Block.parameterColumns query)
        else Block.anonymousParameters) := by
  have hbyName : evaluate scope (.field (.ref "binding") "by_name") = .ok (.bool byName) :=
    evaluate_field hbinding "by_name" (by simp [List.lookup_cons])
  unfold boundParameters
  rw [render_either hbyName rfl]
  cases byName with
  | true =>
      generalize hs : Block.namedParameters (Block.parameterColumns query) = s
      simp only [if_true, render_ofPieces_cons, render_ofPieces_nil, render_said,
        render_namedParameters hscope, joinTexts_ok, joinTexts_empty_right]
      refine congrArg Except.ok ?_
      rw [← hs]
      unfold Block.namedParameters
      simp only [String.append_assoc]
  | false =>
      generalize hs : Block.anonymousParameters = s
      simp only [Bool.false_eq_true, if_false, render_ofPieces_cons, render_ofPieces_nil,
        render_said, joinTexts_empty_right]
      rw [← hs]
      rfl

set_option maxRecDepth 20000 in
theorem render_bindingFunction
    (hscope : scope.Extends (blockScope types query name command))
    {mode parametersSuffix : String} {byName : Bool}
    (hbinding : evaluate scope (.ref "binding") =
      .ok (bindingValue mode parametersSuffix byName)) :
    render (ofPieces bindingFunction) scope =
      .ok (Block.bindingFunction name command mode parametersSuffix
        (if byName then Block.namedParameters (Block.parameterColumns query)
          else Block.anonymousParameters)) := by
  have hvalues := describes_of_extends hscope
  have hmode : evaluate scope (.field (.ref "binding") "mode") = .ok (.text mode) :=
    evaluate_field hbinding "mode" rfl
  have hsuffix : evaluate scope (.field (.ref "binding") "parameters_suffix") =
      .ok (.text parametersSuffix) :=
    evaluate_field hbinding "parameters_suffix" (by simp [List.lookup_cons])
  have hparameters := render_boundParameters hscope hbinding
  have hconfiguration : configurationType.toList =
      ("\x7b rowMode?: \"object\" | \"tuple\"" ++
        ", integerMode?: \"number\" | \"bigint\" \x7d").toList := by
    decide
  generalize hs : Block.bindingFunction name command mode parametersSuffix
    (if byName then Block.namedParameters (Block.parameterColumns query)
      else Block.anonymousParameters) = s
  simp only [bindingFunction, render_ofPieces_cons, render_ofPieces_nil, render_said,
    render_printed_text hvalues.queryName, render_printed_text hvalues.valueName,
    render_printed_text hvalues.resultMode, render_printed_text hvalues.connectionMode,
    render_printed_text hvalues.configuration, render_printed_text hvalues.rowMode,
    render_printed_text hvalues.integerMode, render_printed_text hmode,
    render_printed_text hsuffix, hparameters, render_boundTypes hscope, joinTexts_ok]
  refine congrArg Except.ok ?_
  rw [← hs]
  unfold Block.bindingFunction
  rw [← String.toList_inj]
  simp [hconfiguration]

theorem render_typeNames (hscope : scope.Extends (blockScope types query name command)) :
    render
        (each "type_name" (.ref "type_names")
          [said "\t", printed (.ref "type_name"),
            printed (.choice (.literal ",") (.negation (.field (.ref "loop") "last"))
              (.literal "")),
            said "\n"])
        scope =
      .ok (",\n".intercalate (Block.typeSuffixes.map fun suffix => "\t" ++ name.name ++ suffix) ++
        "\n") := by
  refine render_each_separated ",\n" "\n" (by decide)
    (describes_of_extends hscope).typeNames ?_
  intro suffix _ last
  have hitem := evaluate_ref_forItem scope "type_name" (.text (name.name ++ suffix)) last
  have hlast := evaluate_choice (evaluate_negation
    (evaluate_last_forItem scope "type_name" (.text (name.name ++ suffix)) last
      (by decide))) "," ""
  simp only [render_ofPieces_cons, render_ofPieces_nil, render_said,
    render_printed_text hitem, render_printed_text hlast]
  cases last <;> simp [← String.toList_inj]

set_option maxRecDepth 20000 in
theorem render_exportHead (hscope : scope.Extends (blockScope types query name command)) :
    render (ofPieces exportHead) scope =
      .ok ("\n" ++ Block.exportHead name command query.cmd ++ query.text ++
        "`,\n\tbind: \x7b\n") := by
  have hvalues := describes_of_extends hscope
  generalize hs : "\n" ++ Block.exportHead name command query.cmd ++ query.text ++
    "`,\n\tbind: \x7b\n" = s
  simp only [exportHead, render_ofPieces_cons, render_ofPieces_nil, render_said,
    render_printed_text hvalues.queryName, render_printed_text hvalues.valueName,
    render_printed_text hvalues.resultMode, render_printed_text hvalues.connectionMode,
    render_printed_text hvalues.tag, render_printed_text hvalues.sql,
    render_typeNames hscope, joinTexts_ok]
  refine congrArg Except.ok ?_
  rw [← hs]
  unfold Block.exportHead
  rw [← String.toList_inj]
  simp

theorem render_bindings (hscope : scope.Extends (blockScope types query name command)) :
    render (each "binding" (.ref "bindings") bindingFunction) scope =
      .ok (Block.bindingFunction name command "named" "ParametersNamed"
          (Block.namedParameters (Block.parameterColumns query)) ++
        Block.bindingFunction name command "anonymous" "ParametersAnonymous"
          Block.anonymousParameters) := by
  have hitems : evaluate scope (.ref "bindings") = .ok (.list
      ([("named", "ParametersNamed", true), ("anonymous", "ParametersAnonymous", false)].map
        fun binding => bindingValue binding.1 binding.2.1 binding.2.2)) :=
    (describes_of_extends hscope).bindings
  rw [render_each_lines _ _ _ hitems fun binding _ last =>
    render_bindingFunction (extends_forItem hscope "binding" (by decide) _ last)
      (evaluate_ref_forItem scope "binding" _ last)]
  simp

theorem render_results (hscope : scope.Extends (blockScope types query name command)) :
    render (each "result" (.ref "results") [resultType]) scope =
      .ok (String.join
        (ResultShape.all.map (Block.resultType types name.name command query.columns))) := by
  refine render_each_lines _ _ _ (describes_of_extends hscope).results ?_
  intro shape _ last
  let item := resultValue types command query.columns shape
  have hvalues := describes_of_extends
    (extends_forItem hscope "result" (by decide) item last)
  rw [render_ofPieces_cons, render_ofPieces_nil, joinTexts_empty_right]
  exact render_resultType hvalues.queryName (evaluate_ref_forItem scope "result" item last)

end Block

/-- The template of a query prints its block. -/
theorem render_queryTree (types : TypeMap) {query : Query} (name : QueryName)
    (command : Command)
    (hcolumns : ∀ parameter ∈ query.params, parameter.column.isSome = true) :
    render queryTree (blockScope types query name command) =
      .ok (Block.text types query name command) := by
  have hscope := Scope.Extends.refl (blockScope types query name command)
  have hvalues := describes_of_extends hscope
  have hhas := hvalues.hasParameters
  rw [← parameterColumns_isEmpty hcolumns] at hhas
  have hparameters :=
    render_parameterTypes hhas hvalues.queryName hvalues.named hvalues.anonymous
  generalize hs : Block.text types query name command = s
  simp only [queryTree, render_ofPieces_cons, render_ofPieces_append, render_ofPieces_nil,
    hparameters, render_results hscope, render_exportHead hscope, render_bindings hscope,
    render_said, joinTexts_ok]
  refine congrArg Except.ok ?_
  rw [← hs]
  unfold Block.text Block.exportTail
  rw [← String.toList_inj]
  simp

/-! ## Files -/

theorem render_fileTree (typesPath : String) (blocks : List String) :
    render fileTree (fileScope typesPath blocks) = .ok (Block.fileText typesPath blocks) := by
  have hpath : evaluate (fileScope typesPath blocks) (.ref "types_path") =
      .ok (.text typesPath) := by
    simp [fileScope, evaluate]
  have hitems : evaluate (fileScope typesPath blocks) (.ref "blocks") =
      .ok (.list (blocks.map Value.text)) := by
    simp [fileScope, evaluate, List.lookup_cons]
  have hblocks := render_each_lines "block" [printed (.ref "block"), said "\n"]
    (fun text => text ++ "\n") hitems
    (fun text _ last => by
      have hitem := evaluate_ref_forItem (fileScope typesPath blocks) "block" (.text text) last
      simp only [render_ofPieces_cons, render_ofPieces_nil, render_printed_text hitem,
        render_said, joinTexts_ok, joinTexts_empty_right])
  generalize hs : Block.fileText typesPath blocks = s
  simp only [fileTree, render_ofPieces_cons, render_ofPieces_nil, render_said,
    render_printed_text hpath, hblocks, joinTexts_ok]
  refine congrArg Except.ok ?_
  rw [← hs]
  unfold Block.fileText Block.fileHeader Block.fileFooter
  rw [← String.toList_inj]
  simp

end QueryBindings.Layout
