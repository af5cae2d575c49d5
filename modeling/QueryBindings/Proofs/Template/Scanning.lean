import Mathlib.Data.List.Forall2
import QueryBindings.Proofs.Template.Outline

/-!
# Scanning lines

What the scanner makes of a text that is spelled line by line.  Between two parts
of a line the scanner stands in literal text, and what it has read so far are the
items of the parts, as long as nobody asks how the literal text is cut up.  At the
start of a line it also knows that it stands there, so that the white space before
a tag goes, and the newline after a tag goes with the step that reads it.
-/

namespace QueryBindings.Template

namespace Scan

/-! ## The inside of a tag -/

section

variable {kind : TagKind} {c : Char}

theorem isBlank_of_isWordChar (h : isWordChar c = true) : Text.isBlank c = false := by
  simp only [isWordChar, Bool.or_eq_true, Bool.and_eq_true, Bool.not_eq_true', beq_iff_eq] at h
  rcases h with (halnum | rfl) | ⟨-, hblank⟩
  · delta Char.isAlphanum Char.isAlpha Char.isUpper Char.isLower Char.isDigit at halnum
    simp only [Bool.or_eq_true, Bool.and_eq_true, decide_eq_true_eq, UInt32.le_iff_toNat_le,
      ge_iff_le] at halnum
    change (((65 ≤ c.toNat ∧ c.toNat ≤ 90) ∨ 97 ≤ c.toNat ∧ c.toNat ≤ 122) ∨
      48 ≤ c.toNat ∧ c.toNat ≤ 57) at halnum
    simp only [Text.isBlank, Bool.or_eq_false_iff, Bool.and_eq_false_iff, beq_eq_false_iff_ne,
      decide_eq_false_iff_not]
    omega
  · decide
  · exact hblank

theorem not_quote_of_isWordChar (h : isWordChar c = true) : (c == '"' || c == '\'') = false := by
  rw [Bool.eq_false_iff]
  intro hquote
  simp only [Bool.or_eq_true, beq_iff_eq] at hquote
  rcases hquote with rfl | rfl <;> simp +decide at h

theorem tagChar_blank (tokens : List Token) (inWord : Bool) (h : Text.isBlank c = true) :
    tagChar kind tokens inWord c = .tag kind tokens false :=
  if_pos h

theorem tagChar_quote (tokens : List Token) (inWord : Bool) (h : c = '"' ∨ c = '\'') :
    tagChar kind tokens inWord c = .quoted kind tokens c [] := by
  rw [tagChar.eq_def]
  rcases h with rfl | rfl <;> rfl

theorem tagChar_wordStart (tokens : List Token) (h : isWordChar c = true) :
    tagChar kind tokens false c = .tag kind (.word [c] :: tokens) true := by
  rw [tagChar.eq_def]
  simp [isBlank_of_isWordChar h, not_quote_of_isWordChar h, h]

theorem tagChar_wordMore (read : List Char) (tokens : List Token) (h : isWordChar c = true) :
    tagChar kind (.word read :: tokens) true c = .tag kind (.word (c :: read) :: tokens) true := by
  rw [tagChar.eq_def]
  simp [isBlank_of_isWordChar h, not_quote_of_isWordChar h, h]

theorem tagChar_sign {tokens : List Token} (inWord : Bool)
    (hc : c = '.' ∨ c = '|' ∨ c = '=') (h : c = '=' → tokens.head? ≠ some (.sign ['='])) :
    tagChar kind tokens inWord c = .tag kind (.sign [c] :: tokens) false := by
  have hother : Text.isBlank c = false ∧ (c == '"' || c == '\'') = false ∧
      isWordChar c = false ∧ (c == closer kind) = false := by
    rcases hc with rfl | rfl | rfl <;> cases kind <;> decide
  obtain ⟨hblank, hquote, hword, hcloser⟩ := hother
  rw [tagChar.eq_def]
  simp only [hblank, hquote, hword, hcloser, Bool.false_eq_true, if_false]
  split
  · simp_all
  · rfl

theorem tagChar_equals_twice (tokens : List Token) :
    tagChar kind (.sign ['='] :: tokens) false '=' = .tag kind (.sign ['=', '='] :: tokens) false := by
  rw [tagChar.eq_def]
  cases kind <;> rfl

theorem tagChar_closer (tokens : List Token) (inWord : Bool) :
    tagChar kind tokens inWord (closer kind) = .closing kind tokens := by
  rw [tagChar.eq_def]
  cases kind <;> rfl

end

@[simp] theorem finishTokens_nil : finishTokens [] = [] := rfl

@[simp] theorem finishTokens_cons (token : Token) (tokens : List Token) :
    finishTokens (token :: tokens) = finishTokens tokens ++ [finishToken token] := by
  simp [finishTokens]

section

variable {spans : List Span} {kind : TagKind} {read : List Token} {inWord : Bool}

/-- Inside a tag the scanner takes some text in as some more tokens. -/
def TakesIn (spans : List Span) (kind : TagKind) (read : List Token) (inWord : Bool)
    (text : List Char) (tokens : List Token) : Prop :=
  ∃ after inWord', text.foldl step ⟨spans, .tag kind read inWord⟩ =
      ⟨spans, .tag kind after inWord'⟩ ∧
    finishTokens after = finishTokens read ++ tokens

theorem TakesIn.nil : TakesIn spans kind read inWord [] [] :=
  ⟨read, inWord, rfl, by simp⟩

theorem TakesIn.blank {c : Char} {rest : List Char} {tokens : List Token}
    (hc : Text.isBlank c = true) (h : TakesIn spans kind read false rest tokens) :
    TakesIn spans kind read inWord (c :: rest) tokens := by
  have hstep : step ⟨spans, .tag kind read inWord⟩ c = ⟨spans, .tag kind read false⟩ := by
    simp only [step, tagChar_blank _ _ hc]
  rwa [TakesIn, List.foldl_cons, hstep]

theorem TakesIn.token {first rest : List Char} {token : Token} {tokens : List Token}
    {grows : Bool} (hfirst : first.foldl step ⟨spans, .tag kind read inWord⟩ =
      ⟨spans, .tag kind (token :: read) grows⟩)
    (h : TakesIn spans kind (token :: read) grows rest tokens) :
    TakesIn spans kind read inWord (first ++ rest) (finishToken token :: tokens) := by
  obtain ⟨after, inWord', hfold, hafter⟩ := h
  refine ⟨after, inWord', ?_, by simp [hafter]⟩
  rw [List.foldl_append, hfirst, hfold]

theorem foldl_step_letters {name : List Char} (hname : ∀ c ∈ name, isWordChar c = true)
    (letters : List Char) :
    name.foldl step ⟨spans, .tag kind (.word letters :: read) true⟩ =
      ⟨spans, .tag kind (.word (name.reverse ++ letters) :: read) true⟩ := by
  induction name generalizing letters with
  | nil => rfl
  | cons c name ih =>
      have hrest := ih (fun d hd => hname d (List.mem_cons_of_mem c hd)) (c :: letters)
      rw [List.foldl_cons, step]
      simpa [tagChar_wordMore letters read (hname c (by simp))] using hrest

theorem foldl_step_word {c : Char} {name : List Char}
    (hname : ∀ d ∈ c :: name, isWordChar d = true) :
    (c :: name).foldl step ⟨spans, .tag kind read false⟩ =
      ⟨spans, .tag kind (.word (c :: name).reverse :: read) true⟩ := by
  rw [List.foldl_cons, step]
  simpa [tagChar_wordStart read (hname c (by simp))] using
    foldl_step_letters (fun d hd => hname d (List.mem_cons_of_mem c hd)) [c]

theorem foldl_step_inQuotes {quote : Char} {text : List Char} (htext : quote ∉ text)
    (letters : List Char) :
    text.foldl step ⟨spans, .quoted kind read quote letters⟩ =
      ⟨spans, .quoted kind read quote (text.reverse ++ letters)⟩ := by
  induction text generalizing letters with
  | nil => rfl
  | cons c text ih =>
      simp only [List.mem_cons, not_or] at htext
      have hne : (c == quote) = false := by simpa using fun h : c = quote => htext.1 h.symm
      rw [List.foldl_cons, step]
      simpa [hne] using ih htext.2 (c :: letters)

theorem foldl_step_quoted {quote : Char} {text : List Char} (hquote : quote = '"' ∨ quote = '\'')
    (htext : quote ∉ text) :
    (quote :: text ++ [quote]).foldl step ⟨spans, .tag kind read inWord⟩ =
      ⟨spans, .tag kind (.quoted text :: read) false⟩ := by
  rw [List.cons_append, List.foldl_cons, step]
  simp only [tagChar_quote _ _ hquote]
  rw [List.foldl_append, foldl_step_inQuotes htext []]
  simp [step]

/--
The scanner reads the inside of a tag as its tokens.  A word that may still grow is
not followed by another character of it, and no single equals sign is left open.
-/
theorem takesIn_tagText {inner : List Char} {tokens : List Token} (h : TagText inner tokens)
    (hword : inWord = true → ∀ c ∈ inner.head?, isWordChar c = false)
    (hequals : read.head? ≠ some (.sign ['='])) :
    TakesIn spans kind read inWord inner tokens := by
  induction h generalizing read inWord with
  | nil => exact .nil
  | blank hc _ ih => exact .blank hc (ih nofun hequals)
  | @word name rest tokens hne hname hend _ ih =>
      obtain ⟨c, name, rfl⟩ := List.exists_cons_of_ne_nil hne
      have hstart : inWord = false := by
        cases inWord with
        | false => rfl
        | true => simp [hname c (by simp)] at hword
      subst hstart
      simpa [finishToken] using
        TakesIn.token (foldl_step_word hname) (ih (fun _ => hend) (by simp))
  | @quoted quote text rest tokens hquote htext _ ih =>
      simpa [finishToken] using
        TakesIn.token (foldl_step_quoted hquote htext) (ih nofun (by simp))
  | @mark c rest tokens hc _ ih =>
      have hsign : [c].foldl step ⟨spans, .tag kind read inWord⟩ =
          ⟨spans, .tag kind (.sign [c] :: read) false⟩ := by
        simp only [List.foldl_cons, List.foldl_nil, step,
          tagChar_sign _ (hc.imp_right .inl) fun _ => hequals]
      have hopen : (Token.sign [c] :: read).head? ≠ some (.sign ['=']) := by
        rcases hc with rfl | rfl <;> simp
      exact .token hsign (ih nofun hopen)
  | @equals rest tokens _ ih =>
      have hsign : ['=', '='].foldl step ⟨spans, .tag kind read inWord⟩ =
          ⟨spans, .tag kind (.sign ['=', '='] :: read) false⟩ := by
        simp only [List.foldl_cons, List.foldl_nil, step,
          tagChar_sign _ (.inr (.inr rfl)) fun _ => hequals, tagChar_equals_twice]
      exact .token hsign (ih nofun (by simp))

end

/-! ## The spans of the rest of a text -/

/-- The spans of a text whose first part has brought the scanner to some place. -/
def spansFrom (scan : Scan) (text : List Char) : List Span :=
  (text.foldl step scan).finish

theorem spansFrom_cons (scan : Scan) (c : Char) (rest : List Char) :
    spansFrom scan (c :: rest) = spansFrom (scan.step c) rest := rfl

theorem spansFrom_append (scan : Scan) (first second : List Char) :
    spansFrom scan (first ++ second) = spansFrom (first.foldl step scan) second := by
  rw [spansFrom, foldl_step_append, spansFrom]

section

variable (spans : List Span) (lineStart : Bool) (read : List Char)

theorem spansFrom_char {c : Char} {rest : List Char}
    (hbrace : c = '{' → ∀ next ∈ rest.head?, next ∉ ['{', '%', '#']) :
    spansFrom ⟨spans, .text lineStart false read⟩ (c :: rest) =
      spansFrom ⟨spans, .text lineStart false (c :: read)⟩ rest := by
  have hstep : step ⟨spans, .text lineStart false read⟩ c =
      ⟨spans, textChar lineStart read c⟩ := by
    simp [step]
  rw [spansFrom_cons, hstep, textChar]
  by_cases hc : c = '{'
  · subst hc
    cases rest with
    | nil => rfl
    | cons next rest =>
        have hnext := hbrace rfl next (by simp)
        simp only [List.mem_cons, List.not_mem_nil, or_false, not_or] at hnext
        simp [spansFrom_cons, step, textChar, hnext]
  · simp [hc]

theorem spansFrom_skip (rest : List Char) :
    spansFrom ⟨spans, .text lineStart true read⟩ ('\n' :: rest) =
      spansFrom ⟨spans, .text true false read⟩ rest := rfl

theorem spansFrom_plain {text : List Char} (htext : '{' ∉ text) (rest : List Char) :
    spansFrom ⟨spans, .text lineStart false read⟩ (text ++ rest) =
      spansFrom ⟨spans, .text lineStart false (text.reverse ++ read)⟩ rest := by
  induction text generalizing read with
  | nil => rfl
  | cons c text ih =>
      simp only [List.mem_cons, not_or] at htext
      rw [List.cons_append, spansFrom_char _ _ _ fun h => absurd h.symm htext.1, ih _ htext.2]
      simp

theorem spansFrom_closer {inner : List Char} {tokens : List Token} (hinner : TagText inner tokens)
    (kind : TagKind) (rest : List Char) :
    spansFrom ⟨spans, .tag kind [] false⟩ (inner ++ closer kind :: '}' :: rest) =
      spansFrom ⟨.tag kind tokens :: spans, .text false (kind == .block) []⟩ rest := by
  have htokens : TakesIn spans kind [] false inner tokens :=
    takesIn_tagText hinner nofun (by simp)
  obtain ⟨after, inWord, hfold, hafter⟩ := htokens
  rw [spansFrom_append, hfold, spansFrom_cons, step]
  simp only [tagChar_closer]
  rw [spansFrom_cons, step]
  simp [hafter]

theorem spansFrom_hole {inner : List Char} {tokens : List Token} (hinner : TagText inner tokens)
    (rest : List Char) :
    spansFrom ⟨spans, .text lineStart false read⟩ ('{' :: '{' :: (inner ++ '}' :: '}' :: rest)) =
      spansFrom ⟨.tag .output tokens :: pushText read spans, .text false false []⟩ rest :=
  spansFrom_closer (pushText read spans) hinner .output rest

theorem spansFrom_tag {inner : List Char} {tokens : List Token} (hinner : TagText inner tokens)
    (rest : List Char) :
    spansFrom ⟨spans, .text lineStart false read⟩ ('{' :: '%' :: (inner ++ '%' :: '}' :: rest)) =
      spansFrom ⟨.tag .block tokens :: pushText (stripIndent lineStart read) spans,
        .text false true []⟩ rest :=
  spansFrom_closer (pushText (stripIndent lineStart read) spans) hinner .block rest

end

/-! ## Starts of lines -/

/-- Whether the scanner stands at the start of a line and knows it. -/
def AtLineStart (lineStart : Bool) (read : List Char) : Prop :=
  lineStart = true ∧ read = [] ∨ read.head? = some '\n'

/-- White space between the start of a line and a tag is stripped, and nothing else is. -/
theorem stripIndent_append {lineStart : Bool} {read : List Char} (h : AtLineStart lineStart read)
    {indent : List Char} (hindent : ∀ c ∈ indent, c = ' ' ∨ c = '\t') :
    stripIndent lineStart (indent ++ read) = read := by
  have hline : ∀ c ∈ indent, (c != '\n') = true ∧ Text.isBlank c = true := by
    intro c hc
    rcases hindent c hc with rfl | rfl <;> decide
  have htake : read.takeWhile (· != '\n') = [] ∧ read.dropWhile (· != '\n') = read := by
    rcases h with ⟨-, rfl⟩ | h
    · simp
    · cases read <;> simp_all
  rw [stripIndent, List.takeWhile_append_of_pos fun c hc => (hline c hc).1,
    List.dropWhile_append_of_pos fun c hc => (hline c hc).1, htake.1, htake.2]
  have hstart : (lineStart || !read.isEmpty) = true := by
    rcases h with ⟨rfl, -⟩ | h
    · rfl
    · cases read <;> simp_all
  have hblank : indent.all Text.isBlank = true :=
    List.all_eq_true.2 fun c hc => (hline c hc).2
  simp [hblank, hstart]

end Scan

/-! ## Items of spans -/

/-- The items of spans, where each of them has one. -/
def Reads (spans : List Span) (items : List Item) : Prop :=
  List.Forall₂ (fun span item => Item.ofSpan span = .ok item) spans items

theorem Reads.append {first second : List Span} {items more : List Item}
    (h : Reads first items) (hmore : Reads second more) :
    Reads (first ++ second) (items ++ more) :=
  List.rel_append h hmore

theorem Reads.unique {spans : List Span} {items others : List Item} (h : Reads spans items)
    (hothers : Reads spans others) : items = others := by
  induction h generalizing others with
  | nil => cases hothers; rfl
  | cons hitem _ ih =>
      cases hothers with
      | cons hother hrest =>
          rw [ih hrest, Except.ok.inj (hitem.symm.trans hother)]

namespace Item

def ofChar (c : Char) : Item := .text (String.singleton c)

/-- An item with literal text cut into characters. -/
def split : Item → List Item
  | .text s => s.toList.map ofChar
  | item => [item]

end Item

def LinePart.item : LinePart → Item
  | char c => Item.ofChar c
  | hole value => .output value

/-- The items of a line, one for each character and one for each tag. -/
def Line.items : Line → List Item
  | content parts => parts.map LinePart.item
  | tag t => [t.item]

@[simp] theorem BlockTag.split_item (tag : BlockTag) : tag.item.split = [tag.item] := by
  cases tag <;> rfl

/-- What was scanned so far: spans, and literal text that belongs to the next span. -/
def Scanned (spans : List Span) (read : List Char) (items : List Item) : Prop :=
  ∃ whole, Reads spans.reverse whole ∧
    whole.flatMap Item.split ++ read.reverse.map Item.ofChar = items

namespace Scanned

open Scan

variable {spans : List Span} {read : List Char} {items : List Item}

theorem start : Scanned [] [] [] :=
  ⟨[], .nil, rfl⟩

theorem char (h : Scanned spans read items) (c : Char) :
    Scanned spans (c :: read) (items ++ [Item.ofChar c]) := by
  obtain ⟨whole, hwhole, rfl⟩ := h
  exact ⟨whole, hwhole, by simp⟩

theorem span (h : Scanned spans [] items) {next : Span} {item : Item}
    (hitem : Item.ofSpan next = .ok item) :
    Scanned (next :: spans) [] (items ++ item.split) := by
  obtain ⟨whole, hwhole, rfl⟩ := h
  refine ⟨whole ++ [item], ?_, by simp⟩
  rw [List.reverse_cons]
  exact hwhole.append (.cons hitem .nil)

theorem pushText (h : Scanned spans read items) : Scanned (pushText read spans) [] items := by
  cases read with
  | nil => exact h
  | cons c read =>
      obtain ⟨whole, hwhole, rfl⟩ := h
      have hspan : Item.ofSpan (.text (c :: read).reverse) =
          .ok (.text (String.ofList (c :: read).reverse)) := rfl
      have hspans : Scanned spans [] (whole.flatMap Item.split) := ⟨whole, hwhole, by simp⟩
      simpa [Item.split, Scan.pushText] using hspans.span hspan

theorem finish (h : Scanned spans read items) (lineStart skipNewline : Bool) :
    ∃ whole, Reads (spansFrom ⟨spans, .text lineStart skipNewline read⟩ []) whole ∧
      whole.flatMap Item.split = items := by
  obtain ⟨whole, hwhole, hitems⟩ := h.pushText
  exact ⟨whole, hwhole, by simpa using hitems⟩

theorem lineText {text : List Char} {parts : List LinePart} (htext : LineText text parts)
    (rest : List Char) (hrest : ∀ next ∈ rest.head?, next = '\n') (lineStart : Bool)
    (h : Scanned spans read items) :
    ∃ spans' lineStart' read',
      spansFrom ⟨spans, .text lineStart false read⟩ (text ++ rest) =
        spansFrom ⟨spans', .text lineStart' false read'⟩ rest ∧
      Scanned spans' read' (items ++ parts.map LinePart.item) := by
  induction htext generalizing spans lineStart read items with
  | nil => exact ⟨spans, lineStart, read, rfl, by simpa using h⟩
  | @char c text parts hc hbrace _ ih =>
      obtain ⟨spans', lineStart', read', hspans, h'⟩ := ih lineStart (h.char c)
      refine ⟨spans', lineStart', read', ?_, by simpa [LinePart.item] using h'⟩
      rw [List.cons_append, spansFrom_char, hspans]
      intro hopen next hnext
      cases text with
      | nil =>
          rw [hrest next hnext]
          decide
      | cons d text => exact hbrace hopen next hnext
  | @hole inner tokens value text parts hinner hvalue _ ih =>
      have hspan : Item.ofSpan (.tag .output tokens) = .ok (.output value) := by
        simp [Item.ofSpan, hvalue, Except.map]
      obtain ⟨spans', lineStart', read', hspans, h'⟩ := ih false (h.pushText.span hspan)
      refine ⟨spans', lineStart', read', ?_, by simpa [LinePart.item, Item.split] using h'⟩
      have hhole := spansFrom_hole spans lineStart read hinner (text ++ rest)
      simpa [← hspans] using hhole

/-- The scanner reads a line with a tag as the item of the tag. -/
theorem tagLine {indent inner : List Char} {tokens : List Token} {tag : BlockTag}
    (hindent : ∀ c ∈ indent, c = ' ' ∨ c = '\t') (hinner : TagText inner tokens)
    (htag : Item.ofBlockTag (.closed .block) tokens = .ok tag.item) {lineStart : Bool}
    (hstart : AtLineStart lineStart read) (h : Scanned spans read items) (rest : List Char) :
    ∃ spans', spansFrom ⟨spans, .text lineStart false read⟩
        (indent ++ '{' :: '%' :: (inner ++ '%' :: '}' :: rest)) =
          spansFrom ⟨spans', .text false true []⟩ rest ∧
      Scanned spans' [] (items ++ [tag.item]) := by
  have hbrace : '{' ∉ indent := by
    intro hmem
    rcases hindent _ hmem with h | h <;> simp at h
  have hstrip : stripIndent lineStart (indent.reverse ++ read) = read :=
    stripIndent_append hstart fun c hc => hindent c (List.mem_reverse.1 hc)
  have hspan : Item.ofSpan (.tag .block tokens) = .ok tag.item := htag
  refine ⟨_, ?_, by simpa using h.pushText.span hspan⟩
  rw [spansFrom_plain _ _ _ hbrace, spansFrom_tag _ _ _ hinner, hstrip]

theorem lines {text : List Char} {lines : List Line} (hlines : Lines text lines)
    {lineStart : Bool} (hstart : AtLineStart lineStart read) (h : Scanned spans read items) :
    ∃ whole, Reads (spansFrom ⟨spans, .text lineStart false read⟩ text) whole ∧
      whole.flatMap Item.split = items ++ lines.flatMap Line.items := by
  induction hlines generalizing spans lineStart read items with
  | last hline =>
      cases hline with
      | content htext =>
          obtain ⟨spans', lineStart', read', hspans, h'⟩ :=
            h.lineText htext [] nofun lineStart
          rw [List.append_nil] at hspans
          simpa [hspans, Line.items] using h'.finish lineStart' false
      | tag hindent hinner htag =>
          obtain ⟨spans', hspans, h'⟩ := h.tagLine hindent hinner htag hstart []
          rw [hspans]
          simpa [Line.items] using h'.finish false true
  | @next text line rest lines hline _ ih =>
      cases hline with
      | content htext =>
          obtain ⟨spans', lineStart', read', hspans, h'⟩ :=
            h.lineText htext ('\n' :: rest) (by simp) lineStart
          have hnewline : spansFrom ⟨spans', .text lineStart' false read'⟩ ('\n' :: rest) =
              spansFrom ⟨spans', .text lineStart' false ('\n' :: read')⟩ rest :=
            spansFrom_char spans' lineStart' read' nofun
          rw [hspans, hnewline]
          simpa [Line.items, Line.ended, LinePart.item] using
            ih (.inr rfl) (h'.char '\n')
      | tag hindent hinner htag =>
          obtain ⟨spans', hspans, h'⟩ :=
            h.tagLine hindent hinner htag hstart ('\n' :: rest)
          have hnewline := spansFrom_skip spans' false [] rest
          simp only [List.append_assoc, List.cons_append, List.nil_append]
          rw [hspans, hnewline]
          simpa [Line.items, Line.ended] using ih (.inl ⟨rfl, rfl⟩) h'

end Scanned

theorem unifyNewlines_of_not_mem {text : List Char} (h : '\r' ∉ text) :
    unifyNewlines text = text := by
  fun_induction unifyNewlines text with
  | case1 => rfl
  | case2 rest ih => simp at h
  | case3 c rest hcr ih =>
      simp only [List.mem_cons, not_or] at h
      have hne : (c == '\r') = false := by simpa using fun hc : c = '\r' => h.1 hc.symm
      simp [hne, ih h.2]

theorem reads_spans {text : List Char} {lines : List Line} (hlines : Lines text lines)
    (hcr : '\r' ∉ text) :
    ∃ whole, Reads (spans text) whole ∧
      whole.flatMap Item.split = lines.flatMap Line.items := by
  rw [spans, unifyNewlines_of_not_mem hcr]
  simpa [Scan.start, Scan.spansFrom] using Scanned.start.lines hlines (.inl ⟨rfl, rfl⟩)

end QueryBindings.Template
