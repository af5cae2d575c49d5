import Mathlib.Data.List.Forall2
import QueryBindings.Binding.Declaration

/-!
# Agreement of the result shapes

The rows of a query are declared in four shapes.  They have the same members, and the types
of a member differ between two shapes only where the integer mode tells them to.
-/

namespace QueryBindings

namespace TypeFamily

def typeNames : TypeFamily → List String
  | integer =>
      ["int", "integer", "tinyint", "smallint", "mediumint", "bigint", "unsignedbigint", "int2",
        "int8"]
  | float => ["real", "double", "doubleprecisionfloat", "float"]
  | blob => ["blob"]
  | boolean => ["bool", "boolean"]
  | text => ["text", "varchar"]

theorem lookup_eq_some_iff_mem {α : Type} {key : String} {value : α} {table : List (String × α)}
    (hkeys : (table.map Prod.fst).Nodup) :
    table.lookup key = some value ↔ (key, value) ∈ table := by
  induction table with
  | nil => simp
  | cons entry rest ih =>
      obtain ⟨other, held⟩ := entry
      rw [List.map_cons, List.nodup_cons] at hkeys
      by_cases hkey : key = other
      · subst hkey
        have hlater : (key, value) ∉ rest := fun h => hkeys.1 (List.mem_map.2 ⟨_, h, rfl⟩)
        simp [hlater, eq_comm]
      · have hne : (key == other) = false := by simpa using hkey
        simp [List.lookup_cons, hne, hkey, ih hkeys.2]

/-- A type is recognised exactly if it is one of the types of a family. -/
theorem ofType?_eq_some_iff {typeName? : Option String} {family : TypeFamily} :
    ofType? typeName? = some family ↔ ∃ typeName ∈ family.typeNames, typeName? = some typeName := by
  have hkeys : (known.map Prod.fst).Nodup := by decide
  cases typeName? with
  | none => simp [ofType?]
  | some typeName =>
      rw [ofType?, lookup_eq_some_iff_mem hkeys]
      cases family <;> simp [known, typeNames]

end TypeFamily

namespace TypeMap

/-- The ending of the type of a column, which admits null unless the column excludes it. -/
def nullSuffix (types : TypeMap) (column : Column) : String :=
  if column.notNull then "" else " | " ++ types.nullType

theorem withNull_eq (types : TypeMap) (column : Column) (base : String) :
    types.withNull column base = base ++ types.nullSuffix column := by
  unfold withNull nullSuffix
  cases column.notNull with
  | true => exact String.append_empty.symm
  | false => exact String.append_assoc

theorem outputType_of_family (types : TypeMap) (mode : IntegerMode) {column : Column}
    {family : TypeFamily} (h : TypeFamily.ofType? column.typeName = some family) :
    types.outputType mode column = types.outputBase mode family ++ types.nullSuffix column := by
  simp [outputType, outputType?, h, withNull_eq]

theorem outputBase_of_ne_integer (types : TypeMap) {family : TypeFamily}
    (h : family ≠ .integer) (first second : IntegerMode) :
    types.outputBase first family = types.outputBase second family := by
  cases family with
  | integer => contradiction
  | float | blob | boolean | text => rfl

theorem outputType_of_ne_integer (types : TypeMap) {column : Column}
    (h : TypeFamily.ofType? column.typeName ≠ some .integer) (first second : IntegerMode) :
    types.outputType first column = types.outputType second column := by
  cases hfamily : TypeFamily.ofType? column.typeName with
  | none => rw [outputType_of_unknown types _ hfamily, outputType_of_unknown types _ hfamily]
  | some family =>
      have hne : family ≠ .integer := fun hinteger => h (hinteger ▸ hfamily)
      rw [outputType_of_family types _ hfamily, outputType_of_family types _ hfamily,
        outputBase_of_ne_integer types hne first second]

theorem outputType_of_nullable (types : TypeMap) (mode : IntegerMode) {column : Column}
    (hnull : column.notNull = false) (h : (TypeFamily.ofType? column.typeName).isSome = true) :
    types.outputType mode column =
      types.outputType mode { column with notNull := true } ++ (" | " ++ types.nullType) := by
  obtain ⟨family, hfamily⟩ := Option.isSome_iff_exists.1 h
  have hother : TypeFamily.ofType? { column with notNull := true }.typeName = some family := hfamily
  rw [outputType_of_family types mode hfamily, outputType_of_family types mode hother]
  simp [nullSuffix, hnull]

end TypeMap

theorem Column.comment?_eq_some_iff {column : Column} {comment : String} :
    column.comment? = some comment ↔
      comment = column.comment ∧ ∃ c ∈ column.comment.toList, Text.isBlank c = false := by
  have hblank : column.hasComment = true ↔
      ∃ c ∈ column.comment.toList, Text.isBlank c = false := by
    simp [Column.hasComment, Text.isAllBlank]
  rw [Column.comment?, ← hblank]
  split
  · next hshown => simp [hshown, eq_comm]
  · next hshown => simp [hshown]

namespace TypeMap

/-- How the members that the shapes have for one column go together. -/
structure AgreesOn (types : TypeMap) (column : Column) (member : ResultShape → Member) :
    Prop where
  name : ∀ shape, (member shape).name = column.name
  rowMode : ∀ mode, (member ⟨.object, mode⟩).type = (member ⟨.tuple, mode⟩).type
  integer : TypeFamily.ofType? column.typeName = some .integer → ∀ row,
    (member ⟨row, .number⟩).type = types.numberType ++ types.nullSuffix column ∧
      (member ⟨row, .bigint⟩).type = types.bigintType ++ types.nullSuffix column
  integerMode : TypeFamily.ofType? column.typeName ≠ some .integer → ∀ row,
    (member ⟨row, .number⟩).type = (member ⟨row, .bigint⟩).type
  nullable : column.notNull = false → (TypeFamily.ofType? column.typeName).isSome = true →
    ∀ shape, (member shape).type =
      types.outputType shape.integerMode { column with notNull := true } ++
        (" | " ++ types.nullType)
  unknown : TypeFamily.ofType? column.typeName = none →
    ∀ shape, (member shape).type = types.unknownOutputType
  comment : ∀ shape comment, (member shape).comment = some comment ↔
    shape.rowMode = .object ∧ comment = column.comment ∧
      ∃ c ∈ column.comment.toList, Text.isBlank c = false

theorem agreesOn_resultMember (types : TypeMap) (column : Column) :
    types.AgreesOn column (types.resultMember · column) where
  name _ := rfl
  rowMode _ := rfl
  integer hinteger _ :=
    ⟨types.outputType_of_family .number hinteger, types.outputType_of_family .bigint hinteger⟩
  integerMode hfamily _ := types.outputType_of_ne_integer hfamily .number .bigint
  nullable hnull hknown shape := types.outputType_of_nullable shape.integerMode hnull hknown
  unknown hunknown shape := types.outputType_of_unknown shape.integerMode hunknown
  comment shape comment := by
    rw [← Column.comment?_eq_some_iff]
    unfold resultMember
    by_cases hrow : shape.rowMode = .object <;> simp [hrow]

theorem emitsRows_iff {query : Query} {command : Command} :
    (command.returnsRows && !query.columns.isEmpty) = true ↔
      ¬ (command = .exec ∨ query.columns = []) := by
  cases command <;> simp [Command.returnsRows]

theorem members_of_mem_resultDeclarations {types : TypeMap} {query : Query} {command : Command}
    {declaration : ResultDeclaration}
    (h : declaration ∈ types.resultDeclarations query command) :
    declaration.members =
      if command.returnsRows && !query.columns.isEmpty then
        some (query.columns.map (types.resultMember declaration.shape))
      else none := by
  obtain ⟨shape, _, rfl⟩ := List.mem_map.1 h
  rfl

theorem exists_mem_resultDeclarations (types : TypeMap) (query : Query) (command : Command)
    (shape : ResultShape) :
    ∃ declaration ∈ types.resultDeclarations query command, declaration.shape = shape :=
  ⟨_, List.mem_map_of_mem (ResultShape.mem_all shape), rfl⟩

/--
The four declarations stand in the order of the shapes.  Either none of them has members,
which is so exactly if the command yields no rows or there are no columns, or each of them
has one member for every column in order, and these agree with each other.
-/
theorem resultDeclarations_agree (types : TypeMap) (query : Query) (command : Command) :
    let declarations := types.resultDeclarations query command
    declarations.map ResultDeclaration.shape = ResultShape.all ∧
    ((∀ declaration ∈ declarations, declaration.members = none) ↔
      command = .exec ∨ query.columns = []) ∧
    (¬ (command = .exec ∨ query.columns = []) →
      ∃ rows : List (ResultShape → Member),
        List.Forall₂ types.AgreesOn query.columns rows ∧
        ∀ declaration ∈ declarations,
          declaration.members = some (rows.map fun member => member declaration.shape)) := by
  intro declarations
  refine ⟨?shapes, ?none, ?rows⟩
  case shapes =>
    unfold declarations resultDeclarations
    rw [List.map_map]
    exact List.map_id _
  case none =>
    constructor
    · intro hnone
      by_contra hrows
      obtain ⟨declaration, hdeclaration, _⟩ :=
        types.exists_mem_resultDeclarations query command .standard
      have hmembers := members_of_mem_resultDeclarations hdeclaration
      rw [hnone declaration hdeclaration, if_pos (emitsRows_iff.2 hrows)] at hmembers
      contradiction
    · intro hempty declaration hdeclaration
      rw [members_of_mem_resultDeclarations hdeclaration, if_neg (emitsRows_iff.not_left.2 hempty)]
  case rows =>
    intro hrows
    refine ⟨query.columns.map fun column shape => types.resultMember shape column, ?_, ?_⟩
    · rw [List.forall₂_map_right_iff, List.forall₂_same]
      exact fun column _ => types.agreesOn_resultMember column
    · intro declaration hdeclaration
      rw [members_of_mem_resultDeclarations hdeclaration, if_pos (emitsRows_iff.2 hrows), List.map_map]
      rfl

end TypeMap

end QueryBindings
