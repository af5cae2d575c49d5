import QueryBindings.Proofs.Text.Utf8
import QueryBindings.Text.Blank
import QueryBindings.Text.Case

/-!
# Images under a change of case

A run of a case table moves a whole stretch of code points by one distance, so where its
images lie is settled by its two ends.  White space is its own upper case and that of
nothing else, no upper case has an underscore, and few characters beyond 127 have an
image below 128.
-/

namespace QueryBindings.Text

/-! ## Ranges of code points -/

/-- Whether no number from `low` to `high` lies in one of the ranges. -/
def apart (ranges : List (Nat × Nat)) (low high : Nat) : Bool :=
  ranges.all fun range => high < range.1 || range.2 < low

theorem apart_of_le {ranges : List (Nat × Nat)} {low high n : Nat}
    (h : apart ranges low high = true) (hlow : low ≤ n) (hhigh : n ≤ high) :
    apart ranges n n = true := by
  simp only [apart, List.all_eq_true, Bool.or_eq_true, decide_eq_true_eq] at h ⊢
  intro range hrange
  have hbounds := h range hrange
  omega

theorem apart_append {first second : List (Nat × Nat)} {low high : Nat} :
    apart (first ++ second) low high = (apart first low high && apart second low high) :=
  List.all_append

theorem apart_cons_self {n : Nat} {ranges : List (Nat × Nat)} {m : Nat} :
    apart ((n, n) :: ranges) m m = true ↔ m ≠ n ∧ apart ranges m m = true := by
  simp only [apart, List.all_cons, Bool.and_eq_true, Bool.or_eq_true, decide_eq_true_eq]
  rw [← Nat.lt_or_gt, Nat.ne_iff_lt_or_gt]

def blankRanges : List (Nat × Nat) :=
  [(0x09, 0x0D), (0x1C, 0x20), (0x85, 0x85), (0xA0, 0xA0), (0x1680, 0x1680), (0x2000, 0x200A),
    (0x2028, 0x2029), (0x202F, 0x202F), (0x205F, 0x205F), (0x3000, 0x3000)]

theorem isBlank_eq_not_apart (c : Char) :
    isBlank c = !apart blankRanges c.toNat c.toNat := by
  rw [Bool.eq_iff_iff]
  simp only [isBlank, apart, blankRanges, List.all_cons, List.all_nil, Bool.or_eq_true,
    Bool.and_eq_true, decide_eq_true_eq, beq_iff_eq, Bool.not_eq_true', Bool.and_eq_false_iff,
    Bool.or_eq_false_iff, decide_eq_false_iff_not]
  grind

theorem isBlank_eq_false_iff {c : Char} :
    isBlank c = false ↔ apart blankRanges c.toNat c.toNat = true := by
  rw [isBlank_eq_not_apart, Bool.not_eq_false']

/-! ## Runs -/

namespace CaseRun

/-- Where a run moves a code point. -/
def image (run : CaseRun) (n : Nat) : Nat :=
  Int.toNat (n + run.shift)

structure Moves (run : CaseRun) (c d : Char) : Prop where
  covers : run.covers c.toNat = true
  image_eq : d = Char.ofNat (run.image c.toNat)

def landsApart (run : CaseRun) (ranges : List (Nat × Nat)) : Bool :=
  run.image run.last < 0x110000 &&
    apart ([(0xD800, 0xDFFF)] ++ ranges) (run.image run.first) (run.image run.last)

namespace Moves

variable {run : CaseRun} {c d : Char} {ranges : List (Nat × Nat)}

theorem bounds (h : run.Moves c d) : run.first ≤ c.toNat ∧ c.toNat ≤ run.last := by
  have hcovers := h.covers
  simp only [CaseRun.covers, Bool.and_eq_true, decide_eq_true_eq] at hcovers
  exact hcovers.1

theorem source_apart (h : run.Moves c d) (hrun : apart ranges run.first run.last = true) :
    apart ranges c.toNat c.toNat = true :=
  apart_of_le hrun h.bounds.1 h.bounds.2

theorem image_apart (h : run.Moves c d) (hrun : run.landsApart ranges = true) :
    apart ranges d.toNat d.toNat = true := by
  rw [landsApart, Bool.and_eq_true, decide_eq_true_eq, apart_append, Bool.and_eq_true] at hrun
  obtain ⟨hrange, hsurrogates, hranges⟩ := hrun
  obtain ⟨hfirst, hlast⟩ := h.bounds
  have hlow : run.image run.first ≤ run.image c.toNat := by
    unfold image
    omega
  have hhigh : run.image c.toNat ≤ run.image run.last := by
    unfold image
    omega
  have hscalar : IsScalar (run.image c.toNat) := by
    have hapart := apart_of_le hsurrogates hlow hhigh
    simp only [apart, List.all_cons, List.all_nil, Bool.and_true, Bool.or_eq_true,
      decide_eq_true_eq] at hapart
    unfold IsScalar
    omega
  rw [h.image_eq, toNat_ofNat_of_isScalar hscalar]
  exact apart_of_le hranges hlow hhigh

end Moves

end CaseRun

/--
What holds of a character and its image, be it the character itself, listed, or moved by
a run, holds of every character.
-/
theorem mapCase_induction {runs : List CaseRun} {exceptions : List (Nat × List Nat)}
    {P : Char → List Char → Prop} (hkept : ∀ c, P c [c])
    (hlisted : ∀ entry ∈ exceptions, P (Char.ofNat entry.1) (entry.2.map Char.ofNat))
    (hmoved : ∀ run ∈ runs, ∀ c d, run.Moves c d → P c [d]) (c : Char) :
    P c (mapCase runs exceptions c) := by
  unfold mapCase
  cases hlookup : exceptions.lookup c.toNat with
  | some image =>
      obtain ⟨before, after, hsplit, -⟩ := List.lookup_eq_some_iff.1 hlookup
      have hentry : (c.toNat, image) ∈ exceptions := by
        rw [hsplit]
        exact List.mem_append_right before List.mem_cons_self
      have hlist := hlisted _ hentry
      rwa [Char.ofNat_toNat] at hlist
  | none =>
      cases hfind : runs.find? (·.covers c.toNat) with
      | none => exact hkept c
      | some run =>
          have hcovers := List.find?_some hfind
          exact hmoved run (List.mem_of_find?_eq_some hfind) c _ ⟨hcovers, rfl⟩

/-! ## White space and underscores -/

section Blanks

variable {c d : Char}

theorem upperRuns_blank_apart :
    upperRuns.all (fun run => apart blankRanges run.first run.last &&
      run.landsApart ((0x5F, 0x5F) :: blankRanges)) = true := by
  decide

theorem upperExceptions_blank_apart :
    ∀ entry ∈ upperExceptions, isBlank (Char.ofNat entry.1) = false ∧
      (entry.2.map Char.ofNat).isEmpty = false ∧
      (entry.2.map Char.ofNat).all (fun d => !isBlank d && d != '_') = true := by
  decide

theorem of_mem_upperExceptions {entry : Nat × List Nat} (h : entry ∈ upperExceptions) :
    entry.2.map Char.ofNat ≠ [] ∧
      ∀ d ∈ entry.2.map Char.ofNat, isBlank d = false ∧ d ≠ '_' := by
  obtain ⟨-, hne, hall⟩ := upperExceptions_blank_apart entry h
  refine ⟨fun hnil => ?_, fun d hd => ?_⟩
  · rw [hnil] at hne
    contradiction
  · simpa using List.all_eq_true.1 hall d hd

theorem not_isBlank_of_moves {run : CaseRun} (hrun : run ∈ upperRuns) (h : run.Moves c d) :
    isBlank c = false ∧ isBlank d = false ∧ d ≠ '_' := by
  have hcheck := List.all_eq_true.1 upperRuns_blank_apart run hrun
  rw [Bool.and_eq_true] at hcheck
  obtain ⟨hne, himage⟩ := apart_cons_self.1 (h.image_apart hcheck.2)
  refine ⟨isBlank_eq_false_iff.2 (h.source_apart hcheck.1), isBlank_eq_false_iff.2 himage, ?_⟩
  rintro rfl
  exact hne rfl

theorem upperChar_of_isBlank : isBlank c = true → upperChar c = [c] := by
  refine mapCase_induction (P := fun c image => isBlank c = true → image = [c]) ?_ ?_ ?_ c
  · exact fun _ _ => rfl
  · intro entry hentry hblank
    rw [(upperExceptions_blank_apart entry hentry).1] at hblank
    contradiction
  · intro run hrun c d hmoves hblank
    rw [(not_isBlank_of_moves hrun hmoves).1] at hblank
    contradiction

theorem upperChar_of_not_isBlank : isBlank c = false →
    upperChar c ≠ [] ∧ ∀ d ∈ upperChar c, isBlank d = false := by
  refine mapCase_induction
    (P := fun c image => isBlank c = false → image ≠ [] ∧ ∀ d ∈ image, isBlank d = false)
    ?_ ?_ ?_ c
  · intro c hc
    simpa using hc
  · intro entry hentry _
    obtain ⟨hne, himage⟩ := of_mem_upperExceptions hentry
    exact ⟨hne, fun d hd => (himage d hd).1⟩
  · intro run hrun c d hmoves _
    simpa using (not_isBlank_of_moves hrun hmoves).2.1

theorem underscore_not_mem_upperChar : c ≠ '_' → '_' ∉ upperChar c := by
  refine mapCase_induction (P := fun c image => c ≠ '_' → '_' ∉ image) ?_ ?_ ?_ c
  · intro c hc
    simpa using hc.symm
  · intro entry hentry _ hmem
    exact ((of_mem_upperExceptions hentry).2 _ hmem).2 rfl
  · intro run hrun c d hmoves _
    simpa using (not_isBlank_of_moves hrun hmoves).2.2.symm

end Blanks

/-! ## Characters below 128 -/

section Ascii

variable {c : Char}

theorem forall_ascii {P : Char → Prop} (h : ∀ n < 0x80, P (Char.ofNat n))
    (hc : c.toNat < 0x80) : P c := by
  have hn := h c.toNat hc
  rwa [Char.ofNat_toNat] at hn

theorem mapCase_of_ascii {letters : CaseRun} {others : List CaseRun}
    {exceptions : List (Nat × List Nat)} {f : Char → Char}
    (hothers : others.all (0x80 ≤ ·.first) = true)
    (hexceptions : exceptions.all (0x80 ≤ ·.1) = true)
    (hletters : ∀ n < 0x80, (if letters.covers n then Char.ofNat (letters.image n)
      else Char.ofNat n) = f (Char.ofNat n))
    (hc : c.toNat < 0x80) : mapCase (letters :: others) exceptions c = [f c] := by
  have hlookup : exceptions.lookup c.toNat = none := by
    rw [List.lookup_eq_none_iff]
    intro entry hentry
    have hlow := List.all_eq_true.1 hexceptions entry hentry
    rw [decide_eq_true_eq] at hlow
    rw [bne_iff_ne]
    omega
  have hfind : others.find? (·.covers c.toNat) = none := by
    rw [List.find?_eq_none]
    intro run hrun hcovers
    have hlow := List.all_eq_true.1 hothers run hrun
    rw [decide_eq_true_eq] at hlow
    have hbounds := CaseRun.Moves.bounds ⟨hcovers, rfl⟩
    omega
  have himage := hletters c.toNat hc
  rw [Char.ofNat_toNat] at himage
  unfold mapCase
  rw [hlookup, ← himage]
  cases hcovers : letters.covers c.toNat with
  | true => simp [hcovers, CaseRun.image]
  | false => simp [hcovers, hfind]

theorem upperChar_of_ascii : c.toNat < 0x80 → upperChar c = [c.toUpper] :=
  mapCase_of_ascii (by decide) (by decide) (by decide)

theorem lowerChar_of_ascii : c.toNat < 0x80 → lowerChar c = [c.toLower] :=
  mapCase_of_ascii (by decide) (by decide) (by decide)

theorem toUpper_of_ascii (hc : c.toNat < 0x80) :
    c.toUpper.toNat < 0x80 ∧ c.toUpper.toUpper = c.toUpper ∧
      c.toLower.toNat < 0x80 ∧ c.toLower.toUpper = c.toUpper := by
  revert hc
  exact forall_ascii (P := fun c => c.toUpper.toNat < 0x80 ∧ c.toUpper.toUpper = c.toUpper ∧
    c.toLower.toNat < 0x80 ∧ c.toLower.toUpper = c.toUpper) (by decide)

end Ascii

/-! ## Foreign characters -/

/-- Code points beyond 127 whose whole upper case lies below 128. -/
def nearPoints : List Nat :=
  [0xDF, 0x131, 0x17F, 0xFB00, 0xFB01, 0xFB02, 0xFB03, 0xFB04, 0xFB05, 0xFB06]

def nearRanges : List (Nat × Nat) :=
  [(0, 0x7F), (0xDF, 0xDF), (0x131, 0x131), (0x17F, 0x17F), (0xFB00, 0xFB06)]

/-- Whether a character is no white space and has an upper case that is not all below 128. -/
def isForeign (c : Char) : Bool :=
  apart (nearRanges ++ blankRanges) c.toNat c.toNat

def HasForeign (cs : List Char) : Prop :=
  ∃ d ∈ cs, isForeign d = true

def CaseRun.isWithin (run : CaseRun) (ranges : List (Nat × Nat)) : Bool :=
  ranges.any fun range => range.1 ≤ run.first && run.last ≤ range.2

theorem CaseRun.Moves.not_apart {run : CaseRun} {c d : Char} {ranges : List (Nat × Nat)}
    (h : run.Moves c d) (hrun : run.isWithin ranges = true) :
    apart ranges c.toNat c.toNat = false := by
  obtain ⟨range, hrange, hends⟩ := List.any_eq_true.1 hrun
  simp only [Bool.and_eq_true, decide_eq_true_eq] at hends
  obtain ⟨hfirst, hlast⟩ := h.bounds
  refine List.all_eq_false.2 ⟨range, hrange, ?_⟩
  simp only [Bool.or_eq_true, decide_eq_true_eq]
  omega

section Foreign

variable {c : Char}

theorem upperRuns_foreign :
    upperRuns.all (fun run => run.isWithin nearRanges ||
      run.landsApart (nearRanges ++ blankRanges)) = true := by
  decide

theorem upperExceptions_foreign :
    ∀ entry ∈ upperExceptions, isForeign (Char.ofNat entry.1) = true →
      (entry.2.map Char.ofNat).any isForeign = true := by
  decide

theorem hasForeign_upperChar : isForeign c = true → HasForeign (upperChar c) := by
  refine mapCase_induction (P := fun c image => isForeign c = true → HasForeign image)
    ?_ ?_ ?_ c
  · exact fun c hc => ⟨c, List.mem_singleton_self c, hc⟩
  · exact fun entry hentry hc => List.any_eq_true.1 (upperExceptions_foreign entry hentry hc)
  · intro run hrun c d hmoves hc
    rcases Bool.or_eq_true_iff.1 (List.all_eq_true.1 upperRuns_foreign run hrun) with hnear | hfar
    · rw [isForeign, apart_append, hmoves.not_apart hnear] at hc
      contradiction
    · exact ⟨d, List.mem_singleton_self d, hmoves.image_apart hfar⟩

theorem HasForeign.upper {cs : List Char} (h : HasForeign cs) :
    HasForeign (cs.flatMap upperChar) := by
  obtain ⟨c, hc, hforeign⟩ := h
  obtain ⟨d, hd, hd'⟩ := hasForeign_upperChar hforeign
  exact ⟨d, List.mem_flatMap.2 ⟨c, hc, hd⟩, hd'⟩

/-- The capital sharp s and the Kelvin sign, whose lower case leads back below 128. -/
def returningRanges : List (Nat × Nat) :=
  [(0x1E9E, 0x1E9E), (0x212A, 0x212A)]

theorem lowerRuns_foreign :
    lowerRuns.all (fun run => run.isWithin ([(0, 0x7F)] ++ returningRanges) ||
      apart (nearRanges ++ blankRanges) run.first run.last &&
        run.landsApart (nearRanges ++ blankRanges)) = true := by
  decide

theorem lowerExceptions_foreign :
    ∀ entry ∈ lowerExceptions, isForeign (Char.ofNat entry.1) = true ∧
      (entry.2.map Char.ofNat).any isForeign = true := by
  decide

theorem lowerChar_settles : apart ([(0, 0x7F)] ++ returningRanges) c.toNat c.toNat = true →
    lowerChar c = [c] ∨ isForeign c = true ∧ HasForeign (lowerChar c) := by
  refine mapCase_induction
    (P := fun c image => apart ([(0, 0x7F)] ++ returningRanges) c.toNat c.toNat = true →
      image = [c] ∨ isForeign c = true ∧ HasForeign image) ?_ ?_ ?_ c
  · exact fun c _ => .inl rfl
  · intro entry hentry _
    obtain ⟨hforeign, himage⟩ := lowerExceptions_foreign entry hentry
    exact .inr ⟨hforeign, List.any_eq_true.1 himage⟩
  · intro run hrun c d hmoves hc
    rcases Bool.or_eq_true_iff.1 (List.all_eq_true.1 lowerRuns_foreign run hrun) with hnear | hfar
    · rw [hmoves.not_apart hnear] at hc
      contradiction
    · rw [Bool.and_eq_true] at hfar
      exact .inr ⟨hmoves.source_apart hfar.1, d, List.mem_singleton_self d,
        hmoves.image_apart hfar.2⟩

/-! ## Upper case after a change of case -/

/-- The upper case of two texts is one, or it is foreign in both. -/
def AlikeInUpperCase (first second : List Char) : Prop :=
  first.flatMap upperChar = second.flatMap upperChar ∨
    HasForeign (first.flatMap upperChar) ∧ HasForeign (second.flatMap upperChar)

theorem mem_nearPoints (hforeign : isForeign c = false) (hblank : isBlank c = false)
    (hascii : ¬ c.toNat < 0x80) : c.toNat ∈ nearPoints := by
  rw [isForeign, apart_append, isBlank_eq_false_iff.1 hblank, Bool.and_true] at hforeign
  simp only [apart, nearRanges, List.all_cons, List.all_nil, Bool.and_eq_false_iff,
    Bool.or_eq_false_iff, decide_eq_false_iff_not, reduceCtorEq, or_false] at hforeign
  simp only [nearPoints, List.mem_cons, List.not_mem_nil, or_false]
  omega

theorem upperChar_of_near : ∀ n ∈ nearPoints,
    (upperChar (Char.ofNat n)).flatMap upperChar = upperChar (Char.ofNat n) := by
  decide

theorem alike_upperChar (c : Char) : AlikeInUpperCase (upperChar c) [c] := by
  rw [AlikeInUpperCase, List.flatMap_singleton]
  by_cases hascii : c.toNat < 0x80
  · obtain ⟨hupper, hagain, -⟩ := toUpper_of_ascii hascii
    rw [upperChar_of_ascii hascii, List.flatMap_singleton, upperChar_of_ascii hupper, hagain]
    exact .inl rfl
  cases hblank : isBlank c with
  | true =>
      rw [upperChar_of_isBlank hblank, List.flatMap_singleton, upperChar_of_isBlank hblank]
      exact .inl rfl
  | false =>
      cases hforeign : isForeign c with
      | true =>
          have hupper := hasForeign_upperChar hforeign
          exact .inr ⟨hupper.upper, hupper⟩
      | false =>
          -- Only the near code points are left, which are settled one by one.
          have hnear := upperChar_of_near _ (mem_nearPoints hforeign hblank hascii)
          rw [Char.ofNat_toNat] at hnear
          exact .inl hnear

theorem alike_lowerChar (hc : apart returningRanges c.toNat c.toNat = true) :
    AlikeInUpperCase (lowerChar c) [c] := by
  rw [AlikeInUpperCase, List.flatMap_singleton]
  by_cases hascii : c.toNat < 0x80
  · obtain ⟨-, -, hlower, hback⟩ := toUpper_of_ascii hascii
    rw [lowerChar_of_ascii hascii, List.flatMap_singleton, upperChar_of_ascii hlower, hback,
      upperChar_of_ascii hascii]
    exact .inl rfl
  have hapart : apart ([(0, 0x7F)] ++ returningRanges) c.toNat c.toNat = true := by
    rw [apart_append, hc, Bool.and_true]
    simp only [apart, List.all_cons, List.all_nil, Bool.and_true, Bool.or_eq_true,
      decide_eq_true_eq]
    omega
  rcases lowerChar_settles hapart with hkept | ⟨hforeign, hlower⟩
  · rw [hkept, List.flatMap_singleton]
    exact .inl rfl
  · exact .inr ⟨hlower.upper, hasForeign_upperChar hforeign⟩

end Foreign

end QueryBindings.Text
