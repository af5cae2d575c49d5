import QueryBindings.Proofs.Json.Soundness

/-!
# Cutting texts of objects

An object ends at its closing brace and can be told from everything else by its opening
brace.  The beginning of a text of an object is therefore read only if the closing brace is
in it, and then as the same object.
-/

namespace QueryBindings.Json

variable {levels : Nat}

theorem exists_members_of_brace {keys : RepeatedKeys} {fuel : Nat} {tail rest : List Char}
    {value : Value} (h : readValue keys fuel levels ('\x7b' :: tail) = .ok (value, rest)) :
    ∃ members, value = .object members := by
  cases fuel with
  | zero => contradiction
  | succ fuel =>
      obtain ⟨levels, rfl⟩ : ∃ inner, levels = inner + 1 := by
        cases levels with
        | zero => contradiction
        | succ inner => exact ⟨inner, rfl⟩
      rw [readValue] at h
      split at h
      · cases h
        exact ⟨[], rfl⟩
      · split at h
        · contradiction
        next members left _ =>
          cases keys with
          | keepLast =>
              cases h
              exact ⟨_, rfl⟩
          | reject => exact ⟨members, (closeObject_reject_eq_ok h).2.1⟩

theorem Spells.exists_members {value : Value} {text tail : List Char} (h : Spells value text)
    (hfits : Fits levels value) (htext : text = '\x7b' :: tail) :
    ∃ members, value = .object members := by
  have hread := h.reads hfits .reject _ (Nat.lt_succ_self _) [] closes_nil
  rw [List.append_nil, htext] at hread
  exact exists_members_of_brace hread

theorem exists_separated_concat (closing : Char) (parts : List (List Char)) :
    ∃ inner, separated closing parts = inner ++ [closing] := by
  induction parts with
  | nil => exact ⟨[], rfl⟩
  | cons part rest ih =>
      cases rest with
      | nil => exact ⟨part, rfl⟩
      | cons next others =>
          obtain ⟨inner, hinner⟩ := ih
          exact ⟨part ++ ',' :: inner, by simp [separated, hinner]⟩

theorem Spells.exists_braces {members : Members} {text : List Char}
    (h : Spells (.object members) text) : ∃ inner, text = '\x7b' :: inner ++ ['\x7d'] := by
  cases h with
  | word h => simp [wordValues] at h
  | emptyObject _ => exact ⟨_, rfl⟩
  | object _ _ _ _ _ =>
      obtain ⟨inner, hinner⟩ := exists_separated_concat '\x7d' _
      exact ⟨inner, by rw [hinner]; rfl⟩

theorem exists_of_readText_prefix {before spelled after kept cut : List Char} {members : Members}
    {value : Value} (hbefore : Spaces before) (hobject : IsRead levels (.object members) spelled)
    (hsplit : before ++ spelled ++ after = kept ++ cut)
    (hkept : readText .reject kept levels = .ok value) :
    ∃ rest, kept = before ++ spelled ++ rest ∧ after = rest ++ cut := by
  obtain ⟨spaces, other, rest, rfl, hspaces, _, hother⟩ := readText_eq_ok_iff.1 hkept
  obtain ⟨inner, hbraces⟩ := hobject.1.exists_braces
  obtain ⟨c, tail, hopens, hc⟩ := hother.1.opens
  have hfirst : skipSpace (before ++ spelled ++ after) = spelled ++ after := by
    rw [hbraces, List.append_assoc, List.cons_append, List.cons_append]
    exact skipSpace_append hbefore (by decide) _
  have hsecond : skipSpace (spaces ++ other ++ rest ++ cut) = other ++ (rest ++ cut) := by
    rw [hopens, List.append_assoc, List.append_assoc, List.cons_append]
    exact skipSpace_append hspaces (of_opensValue hc).1 _
  have hsame : spelled ++ after = other ++ (rest ++ cut) := by
    rw [← hfirst, hsplit, hsecond]
  have hbrace : other = '\x7b' :: tail := by
    rw [hbraces, hopens, List.cons_append, List.cons_append, List.cons_append] at hsame
    rw [hopens, ← (List.cons.inj hsame).1]
  obtain ⟨others, rfl⟩ := hother.1.exists_members hother.2 hbrace
  have hlength := congrArg List.length hsame
  simp only [List.length_append] at hlength
  have hreads := hobject.1.reads_object hobject.2 .reject
    (show spelled.length < spelled.length + other.length + 1 by omega) after
  have hreadsOther := hother.1.reads_object hother.2 .reject
    (show other.length < spelled.length + other.length + 1 by omega) (rest ++ cut)
  rw [hsame, hreadsOther] at hreads
  have hafter : rest ++ cut = after := congrArg Prod.snd (Except.ok.inj hreads)
  have hspelled : spelled = other := List.append_cancel_right (hafter ▸ hsame)
  refine ⟨rest, ?_, hafter.symm⟩
  have hspaces : before = spaces := by
    rw [← hafter, hspelled] at hsplit
    simpa using hsplit
  rw [hspaces, hspelled]

/--
A text of an object has a brace, with only white space after it, up to which no beginning of
the text is read.  The beginnings with the brace in them are read as the same object.
-/
theorem readText_take_of_object {text : List Char} {members : Members}
    (h : readText .reject text levels = .ok (.object members)) :
    ∃ opening after, text = opening ++ '\x7d' :: after ∧ Spaces after ∧
      ∀ kept cut, text = kept ++ cut →
        ((opening ++ ['\x7d']) <+: kept → readText .reject kept levels = .ok (.object members)) ∧
        (¬ (opening ++ ['\x7d']) <+: kept →
          ∀ value, readText .reject kept levels ≠ .ok value) := by
  obtain ⟨before, spelled, after, rfl, hbefore, hafter, hobject⟩ := readText_eq_ok_iff.1 h
  obtain ⟨inner, rfl⟩ := hobject.1.exists_braces
  refine ⟨before ++ '\x7b' :: inner, after, by simp, hafter, ?_⟩
  intro kept cut hsplit
  constructor
  · rintro ⟨rest, rfl⟩
    refine readText_eq_ok_iff.2 ⟨before, _, rest, by simp, hbefore, ?_, hobject⟩
    have hrest : after = rest ++ cut := by simpa using hsplit
    exact fun c hc => hafter c (hrest ▸ List.mem_append_left _ hc)
  · intro hmissing value hread
    obtain ⟨rest, rfl, _⟩ := exists_of_readText_prefix hbefore hobject hsplit hread
    exact hmissing ⟨rest, by simp⟩

end QueryBindings.Json
