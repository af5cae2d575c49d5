import Mathlib.Data.List.Flatten
import QueryBindings.Proofs.Binding.Report
import QueryBindings.Proofs.Binding.ResultShapes

/-!
# Warnings about types

A column whose database type is not recognised is shown with a fallback, and a report has a
warning about it.  The warnings are those that the declarations give rise to exactly if no
query without rows has such a result column, which none of its declarations shows.
-/

namespace QueryBindings

/-- Whether no type is known for a column, so that a fallback stands in its place. -/
def Column.isUnknown (column : Column) : Bool :=
  (TypeFamily.ofType? column.typeName).isNone

namespace TypeMap

theorem type_resultMember_of_isUnknown (types : TypeMap) (shape : ResultShape) {column : Column}
    (h : column.isUnknown = true) :
    (types.resultMember shape column).type = types.unknownOutputType :=
  types.outputType_of_unknown shape.integerMode (Option.isNone_iff_eq_none.1 h)

theorem type_inputMember_of_isUnknown (types : TypeMap) {column : Column}
    (h : column.isUnknown = true) :
    (Layout.inputMember types column).type = types.unknownInputType :=
  types.inputType_of_unknown (Option.isNone_iff_eq_none.1 h)

end TypeMap

/-! ## Fallbacks in declarations -/

section Fallbacks

variable {columns : List Column} {declared : List (List Member)} {fallback : String}

/--
The columns for which no type is known and whose member in one of the declarations, which
have their members in the order of the columns, is of the fallback type.
-/
def fallbacks (fallback : String) (columns : List Column) (declared : List (List Member)) :
    List Column :=
  (columns.zipIdx.filter fun entry =>
    entry.1.isUnknown &&
      declared.any fun members => members[entry.2]?.any fun member => member.type == fallback).map
    Prod.fst

theorem fallbacks_nil : fallbacks fallback columns [] = [] := by
  simp [fallbacks]

theorem fallbacks_of_forall (hdeclared : declared ≠ [])
    (h : ∀ members ∈ declared, ∃ memberOf : Column → Member, members = columns.map memberOf ∧
      ∀ column, column.isUnknown = true → (memberOf column).type = fallback) :
    fallbacks fallback columns declared = columns.filter Column.isUnknown := by
  have hshown : ∀ entry ∈ columns.zipIdx,
      (entry.1.isUnknown && declared.any fun members =>
        members[entry.2]?.any fun member => member.type == fallback) = entry.1.isUnknown := by
    rintro ⟨column, place⟩ hentry
    have hcolumn : columns[place]? = some column := List.mk_mem_zipIdx_iff_getElem?.1 hentry
    cases hunknown : column.isUnknown with
    | false => rfl
    | true =>
        obtain ⟨members, hmembers⟩ := List.exists_mem_of_ne_nil declared hdeclared
        obtain ⟨memberOf, rfl, htype⟩ := h members hmembers
        refine List.any_eq_true.2 ⟨_, hmembers, ?_⟩
        simp [List.getElem?_map, hcolumn, htype column hunknown]
  have hfilter := List.filter_map (f := Prod.fst) (p := Column.isUnknown) (l := columns.zipIdx)
  rw [List.zipIdx_map_fst] at hfilter
  rw [fallbacks, List.filter_congr hshown, hfilter]
  rfl

end Fallbacks

namespace TypeMap

variable {types : TypeMap} {query : Query}

theorem fallbacks_resultDeclarations (types : TypeMap) (query : Query) (command : Command) :
    fallbacks types.unknownOutputType query.columns
        ((types.resultDeclarations query command).filterMap ResultDeclaration.members) =
      if command = .exec then [] else query.columns.filter Column.isUnknown := by
  by_cases hempty : command = .exec ∨ query.columns = []
  case pos =>
    have hnone : ∀ declaration ∈ types.resultDeclarations query command,
        declaration.members = none :=
      (resultDeclarations_agree types query command).2.1.2 hempty
    rw [List.filterMap_eq_nil_iff.2 hnone, fallbacks_nil]
    rcases hempty with hexec | hcolumns
    · rw [if_pos hexec]
    · simp [hcolumns]
  case neg =>
    obtain ⟨declaration, hdeclaration, _⟩ :=
      exists_mem_resultDeclarations types query command .standard
    have hmembers {declaration : ResultDeclaration}
        (h : declaration ∈ types.resultDeclarations query command) :
        declaration.members = some (query.columns.map (types.resultMember declaration.shape)) := by
      rw [members_of_mem_resultDeclarations h, if_pos (emitsRows_iff.2 hempty)]
    rw [if_neg fun hexec => hempty (.inl hexec), fallbacks_of_forall]
    · exact List.ne_nil_of_mem
        (List.mem_filterMap.2 ⟨declaration, hdeclaration, hmembers hdeclaration⟩)
    · intro members hdeclared
      obtain ⟨other, hother, hsome⟩ := List.mem_filterMap.1 hdeclared
      exact ⟨_, Option.some.inj (hsome.symm.trans (hmembers hother)),
        fun column => types.type_resultMember_of_isUnknown other.shape⟩

theorem fallbacks_parameterMembers {members : List Member}
    (h : types.parameterMembers query = .ok members) :
    fallbacks types.unknownInputType (query.params.filterMap Parameter.column) [members] =
      (query.params.filterMap Parameter.column).filter Column.isUnknown := by
  obtain ⟨_, rfl⟩ := Layout.membersOf_eq_ok_iff.1 h
  refine fallbacks_of_forall (List.cons_ne_nil _ _) fun members hmembers => ?_
  exact ⟨_, List.mem_singleton.1 hmembers, fun column => types.type_inputMember_of_isUnknown⟩

end TypeMap

/-! ## Warnings -/

namespace Generator

open Log (Traced)

def missingTextWarning (query : Query) : String :=
  "Query '" ++ query.name ++ "' has no SQL text"

/-- The warning that a fallback is used for a column, as which it has a role in its query. -/
def fallbackWarning (query : Query) (role fallback : String) (column : Column) : String :=
  "Unknown type " ++ shownType column.typeName ++ " for " ++ role ++ " " ++
    query.name ++ "." ++ column.name ++ ", using " ++ fallback

def missingTextWarnings (queries : List Query) : List String :=
  (queries.filter fun query => Text.isAllBlank query.text).map missingTextWarning

/-- The warnings about columns of a query in its results and its parameters. -/
def fallbackWarnings (types : TypeMap) (query : Query) (results parameters : List Column) :
    List String :=
  results.map (fallbackWarning query "column" types.unknownOutputType) ++
    parameters.map (fallbackWarning query "parameter" types.unknownInputType)

/-- The warnings that the declarations of a query give rise to. -/
def declaredWarnings (types : TypeMap) (query : Query) : List String :=
  match Command.ofTag query.cmd, types.parameterMembers query with
  | .ok command, .ok members =>
      fallbackWarnings types query
        (fallbacks types.unknownOutputType query.columns
          ((types.resultDeclarations query command).filterMap ResultDeclaration.members))
        (fallbacks types.unknownInputType (query.params.filterMap Parameter.column) [members])
  | _, _ => []

theorem filterMap_textWarning? (queries : List Query) :
    queries.filterMap textWarning? = missingTextWarnings queries := by
  rw [missingTextWarnings, ← List.filterMap_eq_map, List.filterMap_filter]
  rfl

theorem filterMap_typeWarning? (query : Query) (role fallback : String)
    (columns : List Column) :
    columns.filterMap (typeWarning? query role fallback) =
      (columns.filter Column.isUnknown).map (fallbackWarning query role fallback) := by
  rw [← List.filterMap_eq_map, List.filterMap_filter]
  refine List.filterMap_congr fun column _ => ?_
  unfold typeWarning? Column.isUnknown
  cases TypeFamily.ofType? column.typeName <;> rfl

theorem typeWarnings_eq (generator : Generator) (query : Query) :
    generator.typeWarnings query =
      fallbackWarnings generator.types query (query.columns.filter Column.isUnknown)
        ((query.params.filterMap Parameter.column).filter Column.isUnknown) := by
  rw [typeWarnings, fallbackWarnings, ← filterMap_typeWarning?,
    ← filterMap_typeWarning? query "parameter", List.filterMap_filterMap]

theorem declaredWarnings_eq {types : TypeMap} {query : Query} (h : query.IsValid) :
    declaredWarnings types query =
      fallbackWarnings types query
        (if Command.ofTag query.cmd = .ok .exec then []
          else query.columns.filter Column.isUnknown)
        ((query.params.filterMap Parameter.column).filter Column.isUnknown) := by
  obtain ⟨command, hcommand⟩ := h.command
  have hmembers : types.parameterMembers query = .ok _ :=
    Layout.membersOf_eq_ok_iff.2 ⟨h.columns, rfl⟩
  unfold declaredWarnings
  simp only [hcommand, hmembers, Except.ok.injEq]
  rw [TypeMap.fallbacks_resultDeclarations, TypeMap.fallbacks_parameterMembers hmembers]

theorem declaredWarnings_sublist (generator : Generator) {query : Query} (h : query.IsValid) :
    (declaredWarnings generator.types query).Sublist (generator.typeWarnings query) := by
  rw [declaredWarnings_eq h, typeWarnings_eq]
  refine List.Sublist.append (List.Sublist.map _ ?_) (List.Sublist.refl _)
  split
  · exact List.nil_sublist _
  · exact List.Sublist.refl _

theorem declaredWarnings_eq_typeWarnings_iff (generator : Generator) {query : Query}
    (h : query.IsValid) :
    declaredWarnings generator.types query = generator.typeWarnings query ↔
      (Command.ofTag query.cmd = .ok .exec →
        ∀ column ∈ query.columns, column.isUnknown = false) := by
  rw [declaredWarnings_eq h, typeWarnings_eq, fallbackWarnings, fallbackWarnings,
    List.append_cancel_right_eq]
  split
  case isTrue hexec =>
    rw [List.map_nil, eq_comm, List.map_eq_nil_iff, List.filter_eq_nil_iff]
    simp [hexec]
  case isFalse hexec => simp [hexec]

/-- If the parts are in order in the wholes, all of them make up all of these if each does. -/
theorem flatMap_eq_flatMap_iff {α β : Type} {items : List α} {part whole : α → List β}
    (h : ∀ item ∈ items, (part item).Sublist (whole item)) :
    items.flatMap part = items.flatMap whole ↔ ∀ item ∈ items, part item = whole item := by
  constructor
  · intro hsame
    induction items with
    | nil => exact fun item hitem => absurd hitem List.not_mem_nil
    | cons item rest ih =>
        obtain ⟨hitem, hrest⟩ := List.forall_mem_cons.1 h
        have hlengths := congrArg List.length hsame
        simp only [List.flatMap_cons, List.length_append] at hlengths
        have hrestLength := (List.Sublist.flatMap_right rest hrest).length_le
        have hfirst : part item = whole item :=
          hitem.eq_of_length (by have := hitem.length_le; omega)
        rw [List.flatMap_cons, List.flatMap_cons, hfirst, List.append_cancel_left_eq] at hsame
        exact List.forall_mem_cons.2 ⟨hfirst, ih hrest hsame⟩
  · exact fun hsame => List.flatMap_congr hsame

/-! ## Reports -/

theorem warnings_eq (generator : Generator) (queries : List Query) :
    generator.warnings queries =
      missingTextWarnings queries ++ queries.flatMap generator.typeWarnings := by
  rw [warnings, filterMap_textWarning?]

/--
What a successful report warns of: queries without a text, and then, query by query, result
columns and parameters without a known type.  Every member that is declared with a fallback
for want of a type is among them, in its place, and there are no other warnings exactly if
all result columns of queries without rows have known types.  Such a column is in none of
the declarations of its query.
-/
theorem fallback_warnings_agree_iff (typesPath : String) (types : TypeMap)
    {queries : List Query} {report : Report}
    (h : (Generator.report { typesPath := typesPath, types := types } queries).outcome =
      .ok report)
    (hsuccess : report.fault? = none) :
    let declared := missingTextWarnings queries ++ queries.flatMap (declaredWarnings types)
    (report.warnings =
      missingTextWarnings queries ++ queries.flatMap fun query =>
        fallbackWarnings types query (query.columns.filter Column.isUnknown)
          ((query.params.filterMap Parameter.column).filter Column.isUnknown)) ∧
    declared.Sublist report.warnings ∧
    (report.warnings = declared ↔
      ∀ query ∈ queries, Command.ofTag query.cmd = .ok .exec →
        ∀ column ∈ query.columns, column.isUnknown = false) ∧
    ∀ query, ∀ declaration ∈ types.resultDeclarations query .exec, declaration.members = none := by
  intro declared
  let generator : Generator := { typesPath := typesPath, types := types }
  obtain ⟨other, hreport, hvalid, _, _⟩ := report_all_or_nothing typesPath types queries
  obtain rfl : report = other := Except.ok.inj (h.symm.trans hreport)
  have hqueries : ∀ query ∈ queries, query.IsValid := hvalid.1 hsuccess
  have hwarnings : report.warnings = generator.warnings queries := by
    have hlibrary : generator.library = Layout.library := rfl
    have hrun := congrArg Traced.outcome
      (report_of_valid hlibrary (findSome?_fileOrder_eq_none_iff.2 hqueries))
    rw [Except.ok.inj (h.symm.trans hrun)]
    rfl
  rw [warnings_eq] at hwarnings
  have hparts : ∀ query ∈ queries,
      (declaredWarnings types query).Sublist (generator.typeWarnings query) :=
    fun query hquery => declaredWarnings_sublist generator (hqueries query hquery)
  refine ⟨?exact, ?reported, ?agree, ?exec⟩
  case exact =>
    rw [hwarnings, List.flatMap_congr fun query _ => typeWarnings_eq generator query]
  case reported =>
    rw [hwarnings]
    exact List.Sublist.append_left (List.Sublist.flatMap_right queries hparts) _
  case agree =>
    rw [hwarnings, eq_comm, List.append_cancel_left_eq, flatMap_eq_flatMap_iff hparts]
    refine forall₂_congr fun query hquery => ?_
    exact declaredWarnings_eq_typeWarnings_iff generator (hqueries query hquery)
  case exec =>
    intro query
    exact (TypeMap.resultDeclarations_agree types query .exec).2.1.2 (.inl rfl)

/-- A column without a type, a parameter with an unknown one, and a query without a text. -/
theorem fallback_warnings_agree_of_event :
    let getEvent : Query :=
      { name := "GetEvent", cmd := ":one", text := "SELECT payload FROM events WHERE at = ?",
        columns := [{ name := "payload" }],
        params := [⟨1, some { name := "at", typeName := some "datetime" }⟩] }
    let deleteEvent : Query := { name := "DeleteEvent", cmd := ":exec", text := " " }
    ∃ report,
      (Generator.report { typesPath := "./types" } [getEvent, deleteEvent]).outcome = .ok report ∧
      report.fault? = none ∧
      report.warnings =
        missingTextWarnings [getEvent, deleteEvent] ++
          [getEvent, deleteEvent].flatMap (declaredWarnings {}) ∧
      report.warnings =
        ["Query 'DeleteEvent' has no SQL text",
          "Unknown type None for column GetEvent.payload, using unknown",
          "Unknown type 'datetime' for parameter GetEvent.at, using any"] := by
  intro getEvent deleteEvent
  have hget : getEvent.IsValid :=
    Query.isValid_of_leadingWord .get .one (by decide) rfl (by simp [getEvent])
  have hdelete : deleteEvent.IsValid :=
    Query.isValid_of_leadingWord .delete .exec (by decide) rfl (by simp [deleteEvent])
  have hqueries : ∀ query ∈ [getEvent, deleteEvent], query.IsValid := by
    simpa using ⟨hget, hdelete⟩
  obtain ⟨report, hreport, hvalid, _, _⟩ :=
    report_all_or_nothing "./types" {} [getEvent, deleteEvent]
  have hsuccess := hvalid.2 hqueries
  obtain ⟨hexact, _, hagree, _⟩ := fallback_warnings_agree_iff "./types" {} hreport hsuccess
  refine ⟨report, hreport, hsuccess, hagree.2 ?_, ?_⟩
  · simp [getEvent, deleteEvent, Command.ofTag, Command.all, Command.tag]
  · rw [hexact]
    decide

/-- What an inserted row would show is not declared, but reported to be of unknown type. -/
theorem fallback_warnings_of_exec :
    let insertEvent : Query :=
      { name := "InsertEvent", cmd := ":exec",
        text := "INSERT INTO events (id) VALUES (1) RETURNING payload",
        columns := [{ name := "payload", typeName := some "jsonb" }] }
    ∃ report,
      (Generator.report { typesPath := "./types" } [insertEvent]).outcome = .ok report ∧
      report.fault? = none ∧
      report.warnings =
        ["Unknown type 'jsonb' for column InsertEvent.payload, using unknown"] ∧
      (∀ declaration ∈ ({} : TypeMap).resultDeclarations insertEvent .exec,
        declaration.members = none) ∧
      missingTextWarnings [insertEvent] ++ [insertEvent].flatMap (declaredWarnings {}) = [] := by
  intro insertEvent
  have hinsert : insertEvent.IsValid :=
    Query.isValid_of_leadingWord .insert .exec (by decide) rfl (by simp [insertEvent])
  have hlibrary : ({ typesPath := "./types" } : Generator).library = Layout.library := rfl
  have hfirst : (fileOrder [insertEvent]).findSome? Query.fault? = none :=
    findSome?_fileOrder_eq_none_iff.2 (List.forall_mem_singleton.2 hinsert)
  refine ⟨_, congrArg Traced.outcome (report_of_valid hlibrary hfirst), rfl, ?_, ?_, ?_⟩
  · decide
  · decide
  · decide

end Generator

end QueryBindings
