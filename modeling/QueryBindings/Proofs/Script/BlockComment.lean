import Mathlib.Data.List.Infix

/-!
# Block comments in scripts

A multi-line comment of ECMAScript ends at the first star with a slash after it, whatever
stands in between: there are no escapes, and comments do not nest.
-/

namespace QueryBindings.Script.BlockComment

/-- What comes after the comment that the text is in. -/
def readBody : List Char → Option (List Char)
  | '*' :: '/' :: rest => some rest
  | _ :: rest => readBody rest
  | [] => none

def read : List Char → Option (List Char)
  | '/' :: '*' :: rest => readBody rest
  | _ => none

def ending : List Char := ['*', '/']

theorem readBody_cons {c : Char} {rest : List Char} (h : c = '*' → rest.head? ≠ some '/') :
    readBody (c :: rest) = readBody rest := by
  rw [readBody]
  rintro tail rfl rfl
  exact h rfl rfl

theorem readBody_of_no_ending {inner : List Char} (h : ¬ ending <:+: inner) (rest : List Char) :
    readBody (inner ++ '*' :: '/' :: rest) = some rest := by
  induction inner with
  | nil => rfl
  | cons c others ih =>
      have hothers : ¬ ending <:+: others := fun hinfix =>
        h (List.infix_cons_iff.2 (.inr hinfix))
      rw [List.cons_append, readBody_cons, ih hothers]
      rintro rfl hhead
      cases others with
      | nil => cases hhead
      | cons next tail =>
          obtain rfl : next = '/' := Option.some.inj hhead
          exact h ⟨[], tail, rfl⟩

theorem readBody_eq_some_iff {text rest : List Char} :
    readBody text = some rest ↔
      ∃ inner, text = inner ++ '*' :: '/' :: rest ∧ ¬ ending <:+: inner := by
  constructor
  · intro h
    fun_induction readBody text with
    | case1 tail =>
        cases h
        exact ⟨[], rfl, by decide⟩
    | case2 c tail hends ih =>
        obtain ⟨inner, rfl, hinner⟩ := ih h
        refine ⟨c :: inner, rfl, fun hinfix => ?_⟩
        rcases List.infix_cons_iff.1 hinfix with ⟨others, hprefix⟩ | htail
        · cases hprefix
          exact hends _ rfl rfl
        · exact hinner htail
    | case3 => contradiction
  · rintro ⟨inner, rfl, hinner⟩
    exact readBody_of_no_ending hinner rest

/-- A comment goes up to the ending that was put after it exactly if it has none of its own. -/
theorem readBody_append_iff {inner rest : List Char} :
    readBody (inner ++ '*' :: '/' :: rest) = some rest ↔ ¬ ending <:+: inner := by
  constructor
  · intro h
    obtain ⟨first, hsame, hfirst⟩ := readBody_eq_some_iff.1 h
    rwa [List.append_cancel_right hsame]
  · intro h
    exact readBody_of_no_ending h rest

end QueryBindings.Script.BlockComment
