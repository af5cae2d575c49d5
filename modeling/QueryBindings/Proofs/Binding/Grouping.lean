import Mathlib.Data.List.Induction
import QueryBindings.Query.Batch

/-!
# Grouping a batch

The groups of a batch are its source files in the order in which they first
occur, each with its own queries in batch order.  Adding a query to groups of
this form leaves groups of this form, which carries the statement through a batch.
-/

namespace QueryBindings

/-- The source files of a batch in the order in which they first occur. -/
def sourceFiles (queries : List Query) : List String :=
  (queries.map Query.filename).eraseDups

def queriesOf (queries : List Query) (file : String) : List Query :=
  queries.filter fun query => query.filename = file

theorem mem_sourceFiles {queries : List Query} {file : String} :
    file ∈ sourceFiles queries ↔ ∃ query ∈ queries, query.filename = file := by
  simp [sourceFiles, List.mem_eraseDups]

theorem sourceFiles_concat (queries : List Query) (query : Query) :
    sourceFiles (queries ++ [query]) =
      if query.filename ∈ sourceFiles queries then sourceFiles queries
      else sourceFiles queries ++ [query.filename] := by
  unfold sourceFiles
  rw [List.map_append, List.eraseDups_append]
  by_cases hmem : query.filename ∈ queries.map Query.filename
  · have hnew : List.removeAll [query.filename] (queries.map Query.filename) = [] := by
      rw [List.removeAll, List.filter_eq_nil_iff]
      simpa using hmem
    rw [if_pos (List.mem_eraseDups.2 hmem), List.map_singleton, hnew]
    simp
  · have hnew :
        List.removeAll [query.filename] (queries.map Query.filename) = [query.filename] := by
      rw [List.removeAll, List.filter_eq_self]
      simpa using hmem
    rw [if_neg fun h => hmem (List.mem_eraseDups.1 h), List.map_singleton, hnew]
    simp [List.eraseDups_cons]

theorem nodup_sourceFiles (queries : List Query) : (sourceFiles queries).Nodup := by
  induction queries using List.reverseRecOn with
  | nil => simp [sourceFiles]
  | append_singleton queries query ih =>
      rw [sourceFiles_concat]
      by_cases hmem : query.filename ∈ sourceFiles queries
      · rwa [if_pos hmem]
      · rw [if_neg hmem, List.nodup_append]
        refine ⟨ih, by simp, ?_⟩
        intro file hfile other hother hequal
        rw [List.mem_singleton.1 hother] at hequal
        exact hmem (hequal ▸ hfile)

theorem queriesOf_concat (queries : List Query) (query : Query) (file : String) :
    queriesOf (queries ++ [query]) file =
      if query.filename = file then queriesOf queries file ++ [query]
      else queriesOf queries file := by
  by_cases hfile : query.filename = file <;> simp [queriesOf, hfile]

theorem queriesOf_eq_nil {queries : List Query} {file : String}
    (h : file ∉ sourceFiles queries) : queriesOf queries file = [] := by
  rw [queriesOf, List.filter_eq_nil_iff]
  intro query hquery
  have hne : query.filename ≠ file := fun hfile => h (mem_sourceFiles.2 ⟨query, hquery, hfile⟩)
  simpa using hne

theorem queriesOf_ne_nil {queries : List Query} {file : String}
    (h : file ∈ sourceFiles queries) : queriesOf queries file ≠ [] := by
  obtain ⟨query, hquery, hfile⟩ := mem_sourceFiles.1 h
  exact List.ne_nil_of_mem (List.mem_filter.2 ⟨hquery, by simpa using hfile⟩)

namespace FileGroup

theorem add_of_mem (query : Query) (contents : String → List Query) {files : List String}
    (hfiles : files.Nodup) (hmem : query.filename ∈ files) :
    add query (files.map fun file => ⟨file, contents file⟩) =
      files.map fun file =>
        ⟨file, if query.filename = file then contents file ++ [query] else contents file⟩ := by
  induction files with
  | nil => contradiction
  | cons file rest ih =>
      obtain ⟨hfile, hrest⟩ := List.nodup_cons.1 hfiles
      by_cases hsame : file = query.filename
      · subst hsame
        have hothers : ∀ other ∈ rest, query.filename ≠ other := by
          rintro other hother rfl
          exact hfile hother
        simp only [List.map_cons, add, if_true]
        congr 1
        exact List.map_congr_left fun other hother => by rw [if_neg (hothers other hother)]
      · have hin : query.filename ∈ rest := by
          rcases List.mem_cons.1 hmem with h | h
          · exact absurd h.symm hsame
          · exact h
        simp only [List.map_cons, add, if_neg hsame, if_neg (Ne.symm hsame), ih hrest hin]

theorem add_of_not_mem (query : Query) (contents : String → List Query) {files : List String}
    (hmem : query.filename ∉ files) :
    add query (files.map fun file => ⟨file, contents file⟩) =
      (files.map fun file => ⟨file, contents file⟩) ++ [⟨query.filename, [query]⟩] := by
  induction files with
  | nil => rfl
  | cons file rest ih =>
      obtain ⟨hfile, hrest⟩ := List.ne_and_not_mem_of_not_mem_cons hmem
      simp only [List.map_cons, add, if_neg (Ne.symm hfile), ih hrest, List.cons_append]

theorem flatMap_queries_add (query : Query) (groups : List FileGroup) :
    ((add query groups).flatMap FileGroup.queries).Perm
      (groups.flatMap FileGroup.queries ++ [query]) := by
  induction groups with
  | nil => simp [add]
  | cons group rest ih =>
      by_cases hsame : group.filename = query.filename
      · simp only [add, if_pos hsame, List.flatMap_cons, List.append_assoc]
        exact List.Perm.append_left group.queries List.perm_append_comm
      · simp only [add, if_neg hsame, List.flatMap_cons, List.append_assoc]
        exact ih.append_left group.queries

theorem ofBatch_concat (queries : List Query) (query : Query) :
    ofBatch (queries ++ [query]) = add query (ofBatch queries) := by
  simp [ofBatch]

theorem ofBatch_eq_map (queries : List Query) :
    ofBatch queries =
      (sourceFiles queries).map fun file => ⟨file, queriesOf queries file⟩ := by
  induction queries using List.reverseRecOn with
  | nil => rfl
  | append_singleton queries query ih =>
      rw [ofBatch_concat, ih, sourceFiles_concat]
      by_cases hmem : query.filename ∈ sourceFiles queries
      · rw [if_pos hmem, add_of_mem query _ (nodup_sourceFiles queries) hmem]
        simp only [queriesOf_concat]
      · rw [if_neg hmem, add_of_not_mem query _ hmem, List.map_append]
        congr 1
        · refine List.map_congr_left fun file hfile => ?_
          have hne : query.filename ≠ file := fun hequal => hmem (hequal ▸ hfile)
          rw [queriesOf_concat, if_neg hne]
        · simp [queriesOf_concat, queriesOf_eq_nil hmem]

theorem flatMap_queries_ofBatch (queries : List Query) :
    ((ofBatch queries).flatMap FileGroup.queries).Perm queries := by
  induction queries using List.reverseRecOn with
  | nil => simp [ofBatch]
  | append_singleton queries query ih =>
      rw [ofBatch_concat]
      exact (flatMap_queries_add query (ofBatch queries)).trans (ih.append_right [query])

end FileGroup

theorem flatMap_queriesOf_perm (queries : List Query) :
    ((sourceFiles queries).flatMap (queriesOf queries)).Perm queries := by
  have hgroups := FileGroup.flatMap_queries_ofBatch queries
  rwa [FileGroup.ofBatch_eq_map, List.flatMap_map] at hgroups

end QueryBindings
