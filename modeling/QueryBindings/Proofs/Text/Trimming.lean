import QueryBindings.Text.Blank

/-!
# Trimming

What trimming keeps: a part without white space stays in the text, and a mapping that
leaves white space alone may as well come before the trimming.
-/

namespace QueryBindings.Text

theorem infix_dropWhile {α : Type} {p : α → Bool} {part whole : List α} (h : part <:+: whole)
    (hpart : ∀ x ∈ part, p x = false) : part <:+: whole.dropWhile p := by
  obtain ⟨before, after, rfl⟩ := h
  cases part with
  | nil => exact List.nil_infix
  | cons x rest =>
      have hx : ¬ p x = true := by
        rw [hpart x List.mem_cons_self]
        exact Bool.false_ne_true
      rw [List.append_assoc, List.dropWhile_append]
      split
      · rw [List.cons_append, List.dropWhile_cons_of_neg hx]
        exact (List.prefix_append (x :: rest) after).isInfix
      · rw [← List.append_assoc]
        exact List.infix_append _ _ _

theorem infix_trimChars {part cs : List Char} (h : part <:+: cs)
    (hpart : ∀ c ∈ part, isBlank c = false) : part <:+: trimChars cs := by
  have hreverse : ∀ c ∈ part.reverse, isBlank c = false :=
    fun c hc => hpart c (List.mem_reverse.1 hc)
  have hstart := (infix_dropWhile h hpart).reverse
  rw [trimChars, ← List.reverse_infix, List.reverse_reverse]
  exact infix_dropWhile hstart hreverse

section Ends

variable {c : Char}

theorem trimChars_cons (h : isBlank c = true) (cs : List Char) :
    trimChars (c :: cs) = trimChars cs := by
  rw [trimChars, List.dropWhile_cons_of_pos h, trimChars]

theorem trimChars_concat (h : isBlank c = true) (cs : List Char) :
    trimChars (cs ++ [c]) = trimChars cs := by
  unfold trimChars
  rw [List.dropWhile_append]
  split
  case isTrue hnil =>
    rw [List.isEmpty_iff.1 hnil, List.dropWhile_cons_of_pos h]
    rfl
  case isFalse =>
    rw [List.reverse_append, List.reverse_singleton, List.singleton_append,
      List.dropWhile_cons_of_pos h]

end Ends

/-- White space is its own image, and nothing else becomes white space or vanishes. -/
def KeepsBlanks (f : Char → List Char) : Prop :=
  ∀ c, (isBlank c = true → f c = [c]) ∧
    (isBlank c = false → f c ≠ [] ∧ ∀ d ∈ f c, isBlank d = false)

namespace KeepsBlanks

variable {f : Char → List Char}

theorem reverse (h : KeepsBlanks f) : KeepsBlanks (List.reverse ∘ f) := by
  intro c
  refine ⟨fun hc => ?_, fun hc => ?_⟩
  · rw [Function.comp, (h c).1 hc, List.reverse_singleton]
  · obtain ⟨hne, hall⟩ := (h c).2 hc
    exact ⟨mt List.reverse_eq_nil_iff.1 hne, fun d hd => hall d (List.mem_reverse.1 hd)⟩

theorem dropWhile_flatMap (h : KeepsBlanks f) (cs : List Char) :
    (cs.flatMap f).dropWhile isBlank = (cs.dropWhile isBlank).flatMap f := by
  induction cs with
  | nil => rfl
  | cons c cs ih =>
      cases hc : isBlank c with
      | true =>
          rw [List.flatMap_cons, (h c).1 hc, List.singleton_append,
            List.dropWhile_cons_of_pos hc, List.dropWhile_cons_of_pos hc, ih]
      | false =>
          obtain ⟨hne, hall⟩ := (h c).2 hc
          obtain ⟨d, rest, himage⟩ := List.exists_cons_of_ne_nil hne
          have hd : ¬ isBlank d = true := by
            rw [hall d (by rw [himage]; exact List.mem_cons_self)]
            exact Bool.false_ne_true
          rw [List.dropWhile_cons_of_neg (by rw [hc]; exact Bool.false_ne_true),
            List.flatMap_cons, himage, List.cons_append, List.dropWhile_cons_of_neg hd]

theorem trimChars_flatMap (h : KeepsBlanks f) (cs : List Char) :
    trimChars (cs.flatMap f) = (trimChars cs).flatMap f := by
  have htwice : List.reverse ∘ List.reverse ∘ f = f :=
    funext fun c => List.reverse_reverse (f c)
  rw [trimChars, h.dropWhile_flatMap, List.reverse_flatMap, h.reverse.dropWhile_flatMap,
    List.reverse_flatMap, htwice, trimChars]

end KeepsBlanks

end QueryBindings.Text
