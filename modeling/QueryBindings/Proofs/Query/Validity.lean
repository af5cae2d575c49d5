import QueryBindings.Query.Command
import QueryBindings.Query.Batch
import QueryBindings.Query.Name

/-!
# Valid queries

Which queries code can be generated for, and what the others are refused for.  A name
is looked at before the command and the command before the parameters, so a query has
at most one fault.
-/

namespace QueryBindings.Query

/-- A query is valid if nothing in it is refused. -/
structure IsValid (query : Query) : Prop where
  name : ∃ name, QueryName.parse query.name = .ok name
  command : ∃ command, Command.ofTag query.cmd = .ok command
  columns : ∀ parameter ∈ query.params, parameter.column.isSome = true

/-- What a query is refused for. -/
inductive HasFault (query : Query) : QueryFault → Prop where
  | name {fault : QueryFault} (hname : QueryName.parse query.name = .error fault) :
      HasFault query fault
  | command {name : QueryName} {fault : QueryFault}
      (hname : QueryName.parse query.name = .ok name)
      (hcommand : Command.ofTag query.cmd = .error fault) : HasFault query fault
  /-- The first parameter without a column is to blame. -/
  | parameter {name : QueryName} {command : Command} {before after : List Parameter}
      {parameter : Parameter} (hname : QueryName.parse query.name = .ok name)
      (hcommand : Command.ofTag query.cmd = .ok command)
      (hparams : query.params = before ++ parameter :: after)
      (hbefore : ∀ earlier ∈ before, earlier.column.isSome = true)
      (hcolumn : parameter.column = none) :
      HasFault query (.unresolvedParameter query.name parameter.number)

def parameterFault? (query : Query) : Option QueryFault :=
  query.params.findSome? fun parameter =>
    if parameter.column.isNone then some (.unresolvedParameter query.name parameter.number)
    else none

/-- The fault of a query, if it has one. -/
def fault? (query : Query) : Option QueryFault :=
  match QueryName.parse query.name, Command.ofTag query.cmd with
  | .error fault, _ => some fault
  | .ok _, .error fault => some fault
  | .ok _, .ok _ => query.parameterFault?

theorem parameterFault?_eq_none_iff {query : Query} :
    query.parameterFault? = none ↔
      ∀ parameter ∈ query.params, parameter.column.isSome = true := by
  unfold parameterFault?
  rw [List.findSome?_eq_none_iff]
  refine forall₂_congr fun parameter _ => ?_
  cases parameter.column <;> simp

theorem parameterFault?_eq_some_iff {query : Query} {fault : QueryFault} :
    query.parameterFault? = some fault ↔
      ∃ before parameter after, query.params = before ++ parameter :: after ∧
        (∀ earlier ∈ before, earlier.column.isSome = true) ∧ parameter.column = none ∧
        fault = .unresolvedParameter query.name parameter.number := by
  unfold parameterFault?
  rw [List.findSome?_eq_some_iff]
  constructor
  · rintro ⟨before, parameter, after, hparams, hfault, hbefore⟩
    refine ⟨before, parameter, after, hparams, ?_, ?_⟩
    · intro earlier hearlier
      have hnone := hbefore earlier hearlier
      cases hcolumn : earlier.column <;> simp [hcolumn] at hnone ⊢
    · cases hcolumn : parameter.column <;> simp [hcolumn] at hfault ⊢
      exact hfault.symm
  · rintro ⟨before, parameter, after, hparams, hbefore, hcolumn, rfl⟩
    refine ⟨before, parameter, after, hparams, by simp [hcolumn], ?_⟩
    intro earlier hearlier
    obtain ⟨column, hsome⟩ := Option.isSome_iff_exists.1 (hbefore earlier hearlier)
    simp [hsome]

theorem fault?_eq_none_iff {query : Query} : query.fault? = none ↔ query.IsValid := by
  unfold fault?
  cases hname : QueryName.parse query.name with
  | error fault =>
      refine iff_of_false (by simp) ?_
      rintro ⟨⟨name, h⟩, _, _⟩
      rw [hname] at h
      contradiction
  | ok name =>
      cases hcommand : Command.ofTag query.cmd with
      | error fault =>
          refine iff_of_false (by simp) ?_
          rintro ⟨_, ⟨command, h⟩, _⟩
          rw [hcommand] at h
          contradiction
      | ok command =>
          show query.parameterFault? = none ↔ _
          rw [parameterFault?_eq_none_iff]
          exact ⟨fun h => ⟨⟨name, hname⟩, ⟨command, hcommand⟩, h⟩, IsValid.columns⟩

theorem fault?_eq_some_iff {query : Query} {fault : QueryFault} :
    query.fault? = some fault ↔ query.HasFault fault := by
  constructor
  · intro h
    unfold fault? at h
    cases hname : QueryName.parse query.name with
    | error other =>
        simp only [hname, Option.some.injEq] at h
        exact .name (h ▸ hname)
    | ok name =>
        cases hcommand : Command.ofTag query.cmd with
        | error other =>
            simp only [hname, hcommand, Option.some.injEq] at h
            exact .command hname (h ▸ hcommand)
        | ok command =>
            simp only [hname, hcommand] at h
            obtain ⟨before, parameter, after, hparams, hbefore, hcolumn, rfl⟩ :=
              parameterFault?_eq_some_iff.1 h
            exact .parameter hname hcommand hparams hbefore hcolumn
  · intro h
    unfold fault?
    cases h with
    | name hname => simp [hname]
    | command hname hcommand => simp [hname, hcommand]
    | parameter hname hcommand hparams hbefore hcolumn =>
        simp only [hname, hcommand]
        exact parameterFault?_eq_some_iff.2 ⟨_, _, _, hparams, hbefore, hcolumn, rfl⟩

/-- The first query that is not valid, and nothing before it, decides the fault of several. -/
def HasFirstFault (queries : List Query) (fault : QueryFault) : Prop :=
  ∃ before query after, queries = before ++ query :: after ∧
    (∀ earlier ∈ before, earlier.IsValid) ∧ query.HasFault fault

theorem findSome?_fault?_eq_none_iff {queries : List Query} :
    queries.findSome? fault? = none ↔ ∀ query ∈ queries, query.IsValid := by
  simp only [List.findSome?_eq_none_iff, fault?_eq_none_iff]

theorem findSome?_fault?_eq_some_iff {queries : List Query} {fault : QueryFault} :
    queries.findSome? fault? = some fault ↔ HasFirstFault queries fault := by
  unfold HasFirstFault
  rw [List.findSome?_eq_some_iff]
  simp only [fault?_eq_none_iff, fault?_eq_some_iff]
  constructor
  · rintro ⟨before, query, after, hqueries, hfault, hbefore⟩
    exact ⟨before, query, after, hqueries, hbefore, hfault⟩
  · rintro ⟨before, query, after, hqueries, hbefore, hfault⟩
    exact ⟨before, query, after, hqueries, hfault, hbefore⟩

end QueryBindings.Query
