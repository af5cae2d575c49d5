import QueryBindings.Proofs.Binding.Outcome
import QueryBindings.Proofs.Log.Threshold

/-!
# Reports

A batch has all of its files or none.  If there are none, the first faulty query in the
order of generation is to blame, which need not be the first in the batch.
-/

namespace QueryBindings.Generator

open Log (Traced Level)
open Log.Traced (StaysBelow staysBelow_pure staysBelow_ofExcept staysBelow_log)

variable {generator : Generator} {queries : List Query}

theorem staysBelow_generateQuery (generator : Generator) (query : Query) :
    (generator.generateQuery query).StaysBelow Level.warning := by
  unfold generateQuery
  apply (staysBelow_ofExcept _).bind
  intro name
  apply (staysBelow_ofExcept _).bind
  intro command
  apply (staysBelow_log (by decide) _).bind
  intro _
  apply (staysBelow_ofExcept _).bind
  intro members
  exact staysBelow_ofExcept _

theorem staysBelow_generateBlocks (generator : Generator) (queries : List Query) :
    (generator.generateBlocks queries).StaysBelow Level.warning := by
  induction queries with
  | nil => exact staysBelow_pure []
  | cons query rest ih =>
      apply (staysBelow_generateQuery generator query).bind
      intro block
      apply ih.bind
      intro blocks
      exact staysBelow_pure (block :: blocks)

theorem staysBelow_generateFile (generator : Generator) (group : FileGroup) :
    (generator.generateFile group).StaysBelow Level.warning := by
  unfold generateFile
  apply (staysBelow_log (by decide) _).bind
  intro _
  apply (staysBelow_generateBlocks generator group.queries).bind
  intro blocks
  apply (staysBelow_ofExcept _).bind
  intro contents
  exact staysBelow_pure _

theorem staysBelow_generateFiles (generator : Generator) (groups : List FileGroup) :
    (generator.generateFiles groups).StaysBelow Level.warning := by
  induction groups with
  | nil => exact staysBelow_pure []
  | cons group rest ih =>
      apply (staysBelow_generateFile generator group).bind
      intro file
      apply ih.bind
      intro files
      exact staysBelow_pure (file :: files)

theorem report_of_valid (hlibrary : generator.library = Layout.library)
    (h : (fileOrder queries).findSome? Query.fault? = none) :
    generator.report queries =
      ⟨(generator.generate queries).records ++
          (generator.warnings queries).map fun warning => ⟨Level.warning, warning⟩,
        .ok (.success (generator.modulesOf queries) (generator.warnings queries)
          queries.length)⟩ := by
  have hgenerate := (generate_outcome hlibrary queries).trans (unlessFaulty_of_valid h)
  simp [report, hgenerate]

theorem report_of_fault (hlibrary : generator.library = Layout.library) {fault : QueryFault}
    (h : (fileOrder queries).findSome? Query.fault? = some fault) :
    generator.report queries =
      ⟨(generator.generate queries).records ++ [⟨Level.error, Report.failureMessage fault⟩],
        .ok (.failure fault)⟩ := by
  have hgenerate := (generate_outcome hlibrary queries).trans (unlessFaulty_of_fault h)
  simp [report, hgenerate]

theorem findSome?_fileOrder_eq_none_iff :
    (fileOrder queries).findSome? Query.fault? = none ↔ ∀ query ∈ queries, query.IsValid := by
  rw [Query.findSome?_fault?_eq_none_iff]
  simp only [mem_fileOrder]

theorem shown_warnings (warnings : List String) :
    Log.shown Level.warning (warnings.map fun warning => ⟨Level.warning, warning⟩) =
      warnings.map fun warning => ⟨Level.warning, warning⟩ := by
  simp [Log.shown]

/--
Generation is all or nothing.  There is a report on every batch, with files exactly if
all queries are valid; otherwise it has nothing but the fault of the first query in
file order that is not.  The log has the warnings of the report or its one error.
-/
theorem report_all_or_nothing (typesPath : String) (types : TypeMap) (queries : List Query) :
    let generator : Generator := { typesPath := typesPath, types := types }
    let run := generator.report queries
    ∃ report, run.outcome = .ok report ∧
      (report.fault? = none ↔ ∀ query ∈ queries, query.IsValid) ∧
      (∀ fault, report.fault? = some fault ↔ Query.HasFirstFault (fileOrder queries) fault) ∧
      (report.fault? = none →
        (generator.generate queries).outcome = .ok report.files ∧
        Log.shown Level.warning run.records =
          report.warnings.map fun warning => ⟨Level.warning, warning⟩) ∧
      (∀ fault, report.fault? = some fault →
        report.files = [] ∧ report.warnings = [] ∧ report.metadata? = none ∧
        Log.shown Level.warning run.records =
          [⟨Level.error, Report.failureMessage fault⟩]) := by
  intro generator run
  have hlibrary : generator.library = Layout.library := rfl
  have hquiet : Log.shown Level.warning (generator.generate queries).records = [] :=
    staysBelow_generateFiles generator (FileGroup.ofBatch queries)
  -- Which query is the first faulty one, if there is any, decides all parts.
  cases hfirst : (fileOrder queries).findSome? Query.fault? with
  | none =>
      have hrun : run = _ := report_of_valid hlibrary hfirst
      have hgenerate := (generate_outcome hlibrary queries).trans
        (unlessFaulty_of_valid hfirst)
      refine ⟨_, congrArg Traced.outcome hrun, ?valid, ?fault, ?success, ?failure⟩
      case valid => exact iff_of_true rfl (findSome?_fileOrder_eq_none_iff.1 hfirst)
      case fault =>
        intro fault
        rw [← Query.findSome?_fault?_eq_some_iff, hfirst]
        exact iff_of_false nofun nofun
      case success =>
        intro _
        refine ⟨hgenerate, ?_⟩
        rw [hrun, Log.shown_append, hquiet, shown_warnings]
        rfl
      case failure =>
        intro fault hfault
        contradiction
  | some first =>
      have hrun : run = _ := report_of_fault hlibrary hfirst
      refine ⟨_, congrArg Traced.outcome hrun, ?valid, ?fault, ?success, ?failure⟩
      case valid =>
        refine iff_of_false nofun ?_
        intro hall
        rw [findSome?_fileOrder_eq_none_iff.2 hall] at hfirst
        contradiction
      case fault =>
        intro fault
        rw [← Query.findSome?_fault?_eq_some_iff, hfirst]
        rfl
      case success =>
        intro hnone
        contradiction
      case failure =>
        intro fault hfault
        cases hfault
        refine ⟨rfl, rfl, rfl, ?_⟩
        rw [hrun, Log.shown_append, hquiet]
        rfl

/-- The query to blame is the last of the batch, but of the first file. -/
theorem report_all_or_nothing_interleaved :
    let getUser : Query := { name := "GetUser", cmd := ":one", filename := "users.sql" }
    let removePost : Query := { name := "RemovePost", cmd := ":all", filename := "posts.sql" }
    let deleteUser : Query :=
      { name := "DeleteUser", cmd := ":exec", filename := "users.sql",
        params := [⟨1, some { name := "id" }⟩, ⟨2, none⟩, ⟨3, none⟩] }
    let batch := [getUser, removePost, deleteUser]
    (Generator.report { typesPath := "./types" } batch).outcome =
        .ok (.failure (.unresolvedParameter "DeleteUser" 2)) ∧
      Log.shown Level.warning (Generator.report { typesPath := "./types" } batch).records =
        [⟨Level.error, Report.failureMessage (.unresolvedParameter "DeleteUser" 2)⟩] := by
  intro getUser removePost deleteUser batch
  have horder : fileOrder batch = [getUser, deleteUser, removePost] := by decide
  have hvalid : getUser.IsValid :=
    ⟨⟨_, QueryName.parse_of_leadingWord .get (by decide)⟩, ⟨_, Command.ofTag_tag .one⟩,
      by simp [getUser]⟩
  have hparams : deleteUser.params =
      [⟨1, some { name := "id" }⟩] ++ ⟨2, none⟩ :: [⟨3, none⟩] := rfl
  have hdelete : deleteUser.HasFault (.unresolvedParameter "DeleteUser" 2) :=
    .parameter (QueryName.parse_of_leadingWord .delete (by decide))
      (Command.ofTag_tag .exec) hparams (by simp) rfl
  have hfirst : Query.HasFirstFault (fileOrder batch)
      (.unresolvedParameter "DeleteUser" 2) :=
    ⟨[getUser], deleteUser, [removePost], horder, by simpa using hvalid, hdelete⟩
  obtain ⟨report, houtcome, _, hfault, _, hfailure⟩ :=
    report_all_or_nothing "./types" {} batch
  have hreport := (hfault _).2 hfirst
  have hrecords := (hfailure _ hreport).2.2.2
  cases report with
  | success files warnings count => cases hreport
  | failure fault =>
      have hsame : fault = .unresolvedParameter "DeleteUser" 2 := Option.some.inj hreport
      exact ⟨hsame ▸ houtcome, hrecords⟩

end QueryBindings.Generator
