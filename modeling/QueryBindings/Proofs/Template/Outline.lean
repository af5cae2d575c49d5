import QueryBindings.Template.Reader
import QueryBindings.Template.Render

/-!
# Templates line by line

How a template reads to someone who looks at its lines.  A line either holds one
block tag and nothing else, or it is text in which some places are left to be
filled in.  The lines between the tags of a block belong to the block, so that the
lines of a template form an outline; its text is the text of the lines that count,
those of a loop as often as there are items.
-/

namespace QueryBindings.Template

/--
The inside of a tag as words, quoted texts and signs, in any layout.  A word is as
long as it can be.
-/
inductive TagText : List Char → List Token → Prop where
  | nil : TagText [] []
  | blank {c rest tokens} (hc : Text.isBlank c = true) (hrest : TagText rest tokens) :
      TagText (c :: rest) tokens
  | word {name rest tokens} (hne : name ≠ []) (hname : ∀ c ∈ name, Scan.isWordChar c = true)
      (hend : ∀ c ∈ rest.head?, Scan.isWordChar c = false) (hrest : TagText rest tokens) :
      TagText (name ++ rest) (.word name :: tokens)
  | quoted {quote text rest tokens} (hquote : quote = '"' ∨ quote = '\'')
      (htext : quote ∉ text) (hrest : TagText rest tokens) :
      TagText (quote :: text ++ quote :: rest) (.quoted text :: tokens)
  | mark {c rest tokens} (hc : c = '.' ∨ c = '|') (hrest : TagText rest tokens) :
      TagText (c :: rest) (.sign [c] :: tokens)
  | equals {rest tokens} (hrest : TagText rest tokens) :
      TagText ('=' :: '=' :: rest) (.sign ['=', '='] :: tokens)

def spaced (words : List String) : List Char :=
  ' ' :: words.flatMap fun word => word.toList ++ [' ']

theorem TagText.spaced {words : List String}
    (h : words.all fun word => !word.toList.isEmpty && word.toList.all Scan.isWordChar) :
    TagText (spaced words) (words.map fun word => .word word.toList) := by
  apply TagText.blank rfl
  induction words with
  | nil => exact .nil
  | cons word words ih =>
      simp only [List.all_cons, Bool.and_eq_true, Bool.not_eq_true', List.isEmpty_eq_false_iff,
        List.all_eq_true] at h ih
      obtain ⟨⟨hne, hword⟩, hwords⟩ := h
      rw [List.flatMap_cons, List.append_assoc]
      exact .word hne hword (by simp +decide) (.blank rfl (ih hwords))

/-- A tag that opens, continues or closes a block. -/
inductive BlockTag where
  | openFor (name : String) (items : Expr)
  | openIf (condition : Expr)
  | elseIf (condition : Expr)
  | otherwise
  | closeIf
  | closeFor
  deriving DecidableEq, Repr

def BlockTag.item : BlockTag → Item
  | openFor name items => .openFor name items
  | openIf condition => .openIf condition
  | elseIf condition => .elseIf condition
  | otherwise => .otherwise
  | closeIf => .closeIf
  | closeFor => .closeFor

/-- A character of a line that stands for itself, or a place that an expression fills. -/
inductive LinePart where
  | char (c : Char)
  | hole (value : Expr)
  deriving DecidableEq, Repr

inductive Line where
  | content (parts : List LinePart)
  | tag (tag : BlockTag)
  deriving DecidableEq, Repr

/-- The parts of a stretch of text that has no newline outside its holes, and no tags. -/
inductive LineText : List Char → List LinePart → Prop where
  | nil : LineText [] []
  | char {c rest parts} (hc : c ≠ '\n')
      (hbrace : c = '{' → ∀ next ∈ rest.head?, next ∉ ['{', '%', '#'])
      (hrest : LineText rest parts) : LineText (c :: rest) (.char c :: parts)
  | hole {inner tokens value rest parts} (hinner : TagText inner tokens)
      (hvalue : readExpr .output (.closed .output) tokens = .ok value)
      (hrest : LineText rest parts) :
      LineText ('{' :: '{' :: (inner ++ '}' :: '}' :: rest)) (.hole value :: parts)

inductive Line.Spells : List Char → Line → Prop where
  | content {text parts} (h : LineText text parts) : Spells text (.content parts)
  | tag {indent inner tokens} {tag : BlockTag} (hindent : ∀ c ∈ indent, c = ' ' ∨ c = '\t')
      (hinner : TagText inner tokens)
      (htag : Item.ofBlockTag (.closed .block) tokens = .ok tag.item) :
      Spells (indent ++ '{' :: '%' :: (inner ++ ['%', '}'])) (.tag tag)

/-- A line with its newline, which is part of the text that the line stands for. -/
def Line.ended : Line → Line
  | content parts => content (parts ++ [.char '\n'])
  | tag t => tag t

/-- The lines of a text; the last one has no newline. -/
inductive Lines : List Char → List Line → Prop where
  | last {text line} (h : Line.Spells text line) : Lines text [line]
  | next {text line rest lines} (h : Line.Spells text line) (hrest : Lines rest lines) :
      Lines (text ++ '\n' :: rest) (line.ended :: lines)

theorem LineText.plain {text rest : List Char} {parts : List LinePart}
    (htext : ∀ c ∈ text, c ≠ '\n' ∧ c ≠ '{') (hrest : LineText rest parts) :
    LineText (text ++ rest) (text.map .char ++ parts) := by
  induction text with
  | nil => exact hrest
  | cons c text ih =>
      obtain ⟨hnewline, hbrace⟩ := htext c (by simp)
      exact .char hnewline (fun h => absurd h hbrace)
        (ih fun d hd => htext d (List.mem_cons_of_mem c hd))

mutual

/-- Lines whose blocks are closed again. -/
inductive Outline where
  | done
  | line (parts : List LinePart) (rest : Outline)
  | loop (name : String) (items : Expr) (body rest : Outline)
  | loopElse (name : String) (items : Expr) (body ifEmpty rest : Outline)
  | branch (condition : Expr) (yes : Outline) (others : Alternatives) (rest : Outline)

/-- What follows the first branch of a block, down to its closing tag. -/
inductive Alternatives where
  | none
  | otherwise (block : Outline)
  | elseIf (condition : Expr) (block : Outline) (others : Alternatives)

end

mutual

/-- The lines of an outline in order. -/
def Outline.lines : Outline → List Line
  | .done => []
  | .line parts rest => .content parts :: rest.lines
  | .loop name items body rest =>
      .tag (.openFor name items) :: (body.lines ++ .tag .closeFor :: rest.lines)
  | .loopElse name items body ifEmpty rest =>
      .tag (.openFor name items) ::
        (body.lines ++ .tag .otherwise :: (ifEmpty.lines ++ .tag .closeFor :: rest.lines))
  | .branch condition yes others rest =>
      .tag (.openIf condition) ::
        (yes.lines ++ (others.lines ++ .tag .closeIf :: rest.lines))

def Alternatives.lines : Alternatives → List Line
  | .none => []
  | .otherwise block => .tag .otherwise :: block.lines
  | .elseIf condition block others =>
      .tag (.elseIf condition) :: (block.lines ++ others.lines)

end

def LinePart.print (scope : Scope) : LinePart → Except EvalFault String
  | char c => .ok (String.singleton c)
  | hole value => (evaluate scope value).bind Value.print

mutual

/--
The text of an outline: that of its lines one after the other.  The lines with tags
have no text; they only decide which of the other lines count, and how often.
-/
def Outline.print : Outline → Scope → Except EvalFault String
  | .done, _ => .ok ""
  | .line parts rest, scope =>
      joinTexts (concatItems (LinePart.print scope) parts) (rest.print scope)
  | .loop name items body rest, scope =>
      joinTexts
        (((evaluate scope items).bind Value.items).bind fun values =>
          concatItems (fun item => body.print (scope.forItem name item.1 item.2))
            (withLast values))
        (rest.print scope)
  | .loopElse name items body ifEmpty rest, scope =>
      joinTexts
        (((evaluate scope items).bind Value.items).bind fun values =>
          if values.isEmpty then ifEmpty.print scope
          else
            concatItems (fun item => body.print (scope.forItem name item.1 item.2))
              (withLast values))
        (rest.print scope)
  | .branch condition yes others rest, scope =>
      joinTexts
        (((evaluate scope condition).bind Value.isTrue).bind fun holds =>
          if holds then yes.print scope else others.print scope)
        (rest.print scope)

def Alternatives.print : Alternatives → Scope → Except EvalFault String
  | .none, _ => .ok ""
  | .otherwise block, scope => block.print scope
  | .elseIf condition block others, scope =>
      ((evaluate scope condition).bind Value.isTrue).bind fun holds =>
        if holds then block.print scope else others.print scope

end

end QueryBindings.Template
