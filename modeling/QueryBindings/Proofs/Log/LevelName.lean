import Mathlib.Logic.Relation
import QueryBindings.Log.Level
import QueryBindings.Proofs.Text.Case
import QueryBindings.Proofs.Text.Trimming

/-!
# Spellings of a level

The letter case of a name and the white space around it make no difference to the level
that it stands for.
-/

namespace QueryBindings.Log

open Text (isBlank lowerChar upperChar trimChars)

/-- One character in another letter case, or one more white space at an end. -/
inductive Respelled : List Char → List Char → Prop
  | lower (before : List Char) (c : Char) (after : List Char) :
      Respelled (before ++ [c] ++ after) (before ++ lowerChar c ++ after)
  | upper (before : List Char) (c : Char) (after : List Char) :
      Respelled (before ++ [c] ++ after) (before ++ upperChar c ++ after)
  | blankBefore {c : Char} (hc : isBlank c = true) (name : List Char) :
      Respelled name (c :: name)
  | blankAfter {c : Char} (hc : isBlank c = true) (name : List Char) :
      Respelled name (name ++ [c])

/-- Names that any number of changes of letter case and white space leads between. -/
def SameName (name other : String) : Prop :=
  Relation.EqvGen Respelled name.toList other.toList

theorem eqvGen_upper (before cs : List Char) :
    Relation.EqvGen Respelled (before ++ cs) (before ++ cs.flatMap upperChar) := by
  induction cs generalizing before with
  | nil => exact .refl _
  | cons c cs ih =>
      have hstep := Respelled.upper before c cs
      rw [List.append_assoc, List.singleton_append] at hstep
      rw [List.flatMap_cons, ← List.append_assoc]
      exact (Relation.EqvGen.rel _ _ hstep).trans _ _ _ (ih (before ++ upperChar c))

theorem eqvGen_dropWhile (cs : List Char) :
    Relation.EqvGen Respelled cs (cs.dropWhile isBlank) := by
  induction cs with
  | nil => exact .refl _
  | cons c cs ih =>
      rw [List.dropWhile_cons]
      split
      case isTrue hc => exact ((Relation.EqvGen.rel _ _ (.blankBefore hc cs)).symm).trans _ _ _ ih
      case isFalse => exact .refl _

theorem eqvGen_dropWhile_reverse (cs : List Char) :
    Relation.EqvGen Respelled cs.reverse (cs.dropWhile isBlank).reverse := by
  induction cs with
  | nil => exact .refl _
  | cons c cs ih =>
      rw [List.dropWhile_cons]
      split
      case isTrue hc =>
        have hstep := Respelled.blankAfter hc cs.reverse
        rw [← List.reverse_cons] at hstep
        exact ((Relation.EqvGen.rel _ _ hstep).symm).trans _ _ _ ih
      case isFalse => exact .refl _

theorem sameName_upper (name : String) : SameName name (Text.upper name) := by
  rw [SameName, Text.upper, String.toList_ofList]
  exact eqvGen_upper [] name.toList

theorem sameName_trim (name : String) : SameName name (Text.trim name) := by
  rw [SameName, Text.trim, String.toList_ofList, trimChars]
  have hend := eqvGen_dropWhile_reverse (name.toList.dropWhile isBlank).reverse
  rw [List.reverse_reverse] at hend
  exact (eqvGen_dropWhile name.toList).trans _ _ _ hend

/-- The level of a name that is trimmed and in upper case; the empty one has the default level. -/
def levelOfChars (cs : List Char) : Option Level :=
  if cs = [] then some Level.warning else Level.ofName? (String.ofList cs)

theorem keepsBlanks_upperChar : Text.KeepsBlanks upperChar :=
  fun _ => ⟨Text.upperChar_of_isBlank, Text.upperChar_of_not_isBlank⟩

theorem upperChar_ne_nil (c : Char) : upperChar c ≠ [] := by
  cases hc : isBlank c with
  | true =>
      rw [Text.upperChar_of_isBlank hc]
      exact List.cons_ne_nil c []
  | false => exact (Text.upperChar_of_not_isBlank hc).1

theorem flatMap_upperChar_eq_nil_iff {cs : List Char} : cs.flatMap upperChar = [] ↔ cs = [] := by
  cases cs with
  | nil => exact Iff.rfl
  | cons c cs => simp [upperChar_ne_nil c]

theorem toOption_namedLevel (name : String) :
    (namedLevel name).toOption = levelOfChars (trimChars (name.toList.flatMap upperChar)) := by
  have hupper : Text.upper (Text.trim name) =
      String.ofList ((trimChars name.toList).flatMap upperChar) := by
    rw [Text.upper, Text.trim, String.toList_ofList]
  rw [keepsBlanks_upperChar.trimChars_flatMap, levelOfChars]
  -- The equation lemma would be slow to make: it looks the default up in the tables.
  delta namedLevel
  dsimp only
  by_cases hnil : trimChars name.toList = []
  · have hempty : Text.trim name = "" := by
      rw [Text.trim, hnil]
    rw [if_pos (flatMap_upperChar_eq_nil_iff.2 hnil), hempty]
    rfl
  · have hne : Text.trim name ≠ "" := fun hempty => hnil (String.ofList_eq_empty_iff.1 hempty)
    rw [if_neg (mt flatMap_upperChar_eq_nil_iff.1 hnil), if_neg hne, hupper]
    cases Level.ofName? (String.ofList ((trimChars name.toList).flatMap upperChar)) <;> rfl

/-- A part without white space that no name of a level has. -/
structure IsAlien (part : List Char) : Prop where
  ne_nil : part ≠ []
  not_blank : ∀ c ∈ part, isBlank c = false
  not_infix : ∀ entry ∈ Level.names, ¬ part <:+: entry.1.toList

theorem levelOfChars_of_alien {part cs : List Char} (hpart : IsAlien part) (h : part <:+: cs) :
    levelOfChars (trimChars cs) = none := by
  have hinside := Text.infix_trimChars h hpart.not_blank
  have hne : trimChars cs ≠ [] := by
    intro hnil
    rw [hnil] at hinside
    exact hpart.ne_nil (List.infix_nil.1 hinside)
  rw [levelOfChars, if_neg hne, Level.ofName?, List.lookup_eq_none_iff]
  intro entry hentry
  rw [bne_iff_ne]
  intro hname
  refine hpart.not_infix entry hentry ?_
  rwa [← hname, String.toList_ofList]

theorem names_are_ascii :
    Level.names.all (fun entry => entry.1.toList.all (·.toNat < 0x80)) = true := by
  decide

theorem toNat_lt_of_mem_names {entry : String × Level} (h : entry ∈ Level.names) {c : Char}
    (hc : c ∈ entry.1.toList) : c.toNat < 0x80 := by
  have hall := List.all_eq_true.1 names_are_ascii entry h
  simpa using List.all_eq_true.1 hall c hc

theorem isAlien_of_isForeign {c : Char} (h : Text.isForeign c = true) : IsAlien [c] := by
  rw [Text.isForeign, Text.apart_append, Bool.and_eq_true] at h
  obtain ⟨hnear, hblank⟩ := h
  refine ⟨List.cons_ne_nil c [], ?_, ?_⟩
  · intro d hd
    rw [List.mem_singleton.1 hd]
    exact Text.isBlank_eq_false_iff.2 hblank
  · intro entry hentry hinside
    have hlow := toNat_lt_of_mem_names hentry (hinside.subset (List.mem_singleton_self c))
    simp [Text.apart, Text.nearRanges] at hnear
    omega

theorem isAlien_k : IsAlien ['K'] :=
  ⟨List.cons_ne_nil _ _, List.forall_mem_singleton.2 (by decide), by decide +kernel⟩

theorem isAlien_double_s : IsAlien ['S', 'S'] :=
  ⟨List.cons_ne_nil _ _, by simpa using (by decide : isBlank 'S' = false), by decide +kernel⟩

def HasAlien (cs : List Char) : Prop :=
  ∃ part, IsAlien part ∧ part <:+: cs

theorem hasAlien_of_hasForeign {cs : List Char} (h : Text.HasForeign cs) : HasAlien cs := by
  obtain ⟨c, hc, hforeign⟩ := h
  obtain ⟨before, after, rfl⟩ := List.append_of_mem hc
  exact ⟨[c], isAlien_of_isForeign hforeign, before, after, by simp⟩

/-- Two parts have one upper case, or upper cases that are in no name of a level. -/
def Exchangeable (first second : List Char) : Prop :=
  first.flatMap upperChar = second.flatMap upperChar ∨
    HasAlien (first.flatMap upperChar) ∧ HasAlien (second.flatMap upperChar)

theorem exchangeable_of_alike {first second : List Char}
    (h : Text.AlikeInUpperCase first second) : Exchangeable first second :=
  h.imp_right fun hboth =>
    ⟨hasAlien_of_hasForeign hboth.1, hasAlien_of_hasForeign hboth.2⟩

theorem exchangeable_of_returning {c : Char}
    (h : Text.apart Text.returningRanges c.toNat c.toNat = false) :
    Exchangeable (lowerChar c) [c] := by
  have hmem : c.toNat = 0x1E9E ∨ c.toNat = 0x212A := by
    simp only [Text.apart, Text.returningRanges, List.all_cons, List.all_nil,
      Bool.and_eq_false_iff, Bool.or_eq_false_iff, decide_eq_false_iff_not, reduceCtorEq,
      or_false] at h
    omega
  have hupper : HasAlien ([c].flatMap upperChar) := by
    have hforeign : Text.isForeign c = true := by
      rw [Text.isForeign]
      rcases hmem with hc | hc <;> rw [hc] <;> decide
    rw [List.flatMap_singleton]
    exact hasAlien_of_hasForeign (Text.hasForeign_upperChar hforeign)
  refine .inr ⟨?_, hupper⟩
  rw [← Char.ofNat_toNat c]
  rcases hmem with hc | hc <;> rw [hc]
  · have hback : (lowerChar (Char.ofNat 0x1E9E)).flatMap upperChar = ['S', 'S'] := by
      decide
    exact ⟨_, by rw [hback]; exact isAlien_double_s, List.infix_rfl⟩
  · have hback : (lowerChar (Char.ofNat 0x212A)).flatMap upperChar = ['K'] := by
      decide
    exact ⟨_, by rw [hback]; exact isAlien_k, List.infix_rfl⟩

theorem exchangeable_lowerChar (c : Char) : Exchangeable (lowerChar c) [c] := by
  cases h : Text.apart Text.returningRanges c.toNat c.toNat with
  | true => exact exchangeable_of_alike (Text.alike_lowerChar h)
  | false => exact exchangeable_of_returning h

theorem levelOfChars_congr {first second : List Char} (h : Exchangeable first second)
    (before after : List Char) :
    levelOfChars (trimChars ((before ++ first ++ after).flatMap upperChar)) =
      levelOfChars (trimChars ((before ++ second ++ after).flatMap upperChar)) := by
  have hnone : ∀ middle : List Char, HasAlien (middle.flatMap upperChar) →
      levelOfChars (trimChars ((before ++ middle ++ after).flatMap upperChar)) = none := by
    rintro middle ⟨part, hpart, hinside⟩
    refine levelOfChars_of_alien hpart (hinside.trans ?_)
    rw [List.flatMap_append, List.flatMap_append]
    exact List.infix_append _ _ _
  rcases h with hsame | ⟨hfirst, hsecond⟩
  · simp only [List.flatMap_append, hsame]
  · rw [hnone first hfirst, hnone second hsecond]

theorem levelOfChars_of_respelled {name other : List Char} (h : Respelled name other) :
    levelOfChars (trimChars (name.flatMap upperChar)) =
      levelOfChars (trimChars (other.flatMap upperChar)) := by
  cases h with
  | lower before c after => exact (levelOfChars_congr (exchangeable_lowerChar c) before after).symm
  | upper before c after =>
      exact (levelOfChars_congr (exchangeable_of_alike (Text.alike_upperChar c)) before after).symm
  | blankBefore hc =>
      rw [List.flatMap_cons, Text.upperChar_of_isBlank hc, List.singleton_append,
        Text.trimChars_cons hc]
  | blankAfter hc =>
      rw [List.flatMap_append, List.flatMap_singleton, Text.upperChar_of_isBlank hc,
        Text.trimChars_concat hc]

theorem levelOfChars_of_eqvGen {name other : List Char}
    (h : Relation.EqvGen Respelled name other) :
    levelOfChars (trimChars (name.flatMap upperChar)) =
      levelOfChars (trimChars (other.flatMap upperChar)) := by
  induction h with
  | rel name other hstep => exact levelOfChars_of_respelled hstep
  | refl name => rfl
  | symm name other _ ih => exact ih.symm
  | trans name middle other _ _ hfirst hsecond => exact hfirst.trans hsecond

/-- A change of letter case or of the white space around a name leaves its level. -/
theorem toOption_namedLevel_congr {name other : String} (h : SameName name other) :
    (namedLevel name).toOption = (namedLevel other).toOption := by
  rw [toOption_namedLevel, toOption_namedLevel]
  exact levelOfChars_of_eqvGen h

end QueryBindings.Log
