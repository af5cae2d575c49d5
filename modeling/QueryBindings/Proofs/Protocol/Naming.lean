import QueryBindings.Proofs.Text.Case
import QueryBindings.Protocol.Naming

/-!
# Member names in one pass

Cutting a name into words and joining them with inner capitals is the same as one pass
over its characters that remembers whether it has just dropped an underscore.
-/

namespace QueryBindings.Protocol

open Text (upperChar upperFirstChars)

/--
One pass over a name: underscores are dropped, and the first character kept after them is
put in upper case.  `pending` tells whether one has been dropped since the last one kept.
-/
def camelCase (upper : Char → List Char) : List Char → (pending : Bool) → List Char
  | [], _ => []
  | c :: rest, pending =>
      if c = '_' then camelCase upper rest true
      else (if pending then upper c else [c]) ++ camelCase upper rest false

section Pass

variable {upper : Char → List Char}

/-- The pass is in the middle of a word, which it has to begin with a capital if one is pending. -/
theorem camelCase_eq_words (name : List Char) (pending : Bool) :
    camelCase upperChar name pending =
      (if pending then upperFirstChars (splitWords name).1 else (splitWords name).1) ++
        (splitWords name).2.flatMap upperFirstChars := by
  induction name generalizing pending with
  | nil => cases pending <;> rfl
  | cons c rest ih =>
      by_cases hc : c = '_'
      · have hword : splitWords (c :: rest) =
            ([], (splitWords rest).1 :: (splitWords rest).2) := by
          simp [splitWords, hc]
        rw [camelCase, if_pos hc, ih true, hword, List.flatMap_cons]
        cases pending <;> rfl
      · have hword : splitWords (c :: rest) =
            (c :: (splitWords rest).1, (splitWords rest).2) := by
          simp [splitWords, hc]
        rw [camelCase, if_neg hc, ih false, hword]
        cases pending <;> simp [upperFirstChars]

theorem camelCase_congr {other : Char → List Char} {name : List Char}
    (h : ∀ c ∈ name, upper c = other c) (pending : Bool) :
    camelCase upper name pending = camelCase other name pending := by
  induction name generalizing pending with
  | nil => rfl
  | cons c rest ih =>
      have hrest := ih fun d hd => h d (List.mem_cons_of_mem c hd)
      rw [camelCase, camelCase, h c List.mem_cons_self, hrest true, hrest false]

theorem underscore_not_mem_camelCase (h : ∀ c, c ≠ '_' → '_' ∉ upper c) (name : List Char)
    (pending : Bool) : '_' ∉ camelCase upper name pending := by
  induction name generalizing pending with
  | nil => exact List.not_mem_nil
  | cons c rest ih =>
      rw [camelCase]
      split
      case isTrue => exact ih true
      case isFalse hc =>
        rw [List.mem_append, not_or]
        refine ⟨?_, ih false⟩
        cases pending with
        | true => exact h c hc
        | false => simpa using Ne.symm hc

end Pass

theorem jsonNameChars_eq_camelCase (name : List Char) :
    jsonNameChars name = camelCase upperChar name false :=
  (camelCase_eq_words name false).symm

theorem jsonNameChars_of_not_mem {name : List Char} (h : '_' ∉ name) :
    jsonNameChars name = name := by
  simp [jsonNameChars, splitWords_of_not_mem h]

/--
A member name is what the pass makes of the name, with the letters of ASCII as capitals if
the name is ASCII.  It has no underscore, and a name without one is its own member name.
-/
theorem jsonName_eq_camelCase (name : String) :
    jsonName name = String.ofList (camelCase upperChar name.toList false) ∧
    ((∀ c ∈ name.toList, c.toNat < 0x80) →
      jsonName name = String.ofList (camelCase (fun c => [c.toUpper]) name.toList false)) ∧
    '_' ∉ (jsonName name).toList ∧
    ('_' ∉ name.toList → jsonName name = name) := by
  have hpass : jsonName name = String.ofList (camelCase upperChar name.toList false) := by
    rw [jsonName, jsonNameChars_eq_camelCase]
  refine ⟨hpass, ?ascii, ?dropped, ?kept⟩
  case ascii =>
    intro hascii
    rw [hpass, camelCase_congr fun c hc => Text.upperChar_of_ascii (hascii c hc)]
  case dropped =>
    rw [hpass, String.toList_ofList]
    exact underscore_not_mem_camelCase (fun _ => Text.underscore_not_mem_upperChar) _ _
  case kept =>
    intro hnone
    rw [jsonName, jsonNameChars_of_not_mem hnone, String.ofList_toList]

theorem jsonName_eq_camelCase_of_underscores :
    jsonName "__plugin__options_" =
        String.ofList (camelCase (fun c => [c.toUpper]) "__plugin__options_".toList false) ∧
      jsonName "__plugin__options_" = "PluginOptions" ∧
      jsonName "sqlcVersion" = "sqlcVersion" := by
  obtain ⟨-, hascii, -, -⟩ := jsonName_eq_camelCase "__plugin__options_"
  obtain ⟨-, -, -, hkept⟩ := jsonName_eq_camelCase "sqlcVersion"
  have hall : "__plugin__options_".toList.all (·.toNat < 0x80) = true := by decide
  have hname := hascii fun c hc => of_decide_eq_true (List.all_eq_true.1 hall c hc)
  refine ⟨hname, ?_, hkept (by decide)⟩
  rw [hname]
  decide

end QueryBindings.Protocol
