import QueryBindings.Template.Span
import QueryBindings.Template.Tree
import QueryBindings.Text.Quoted

/-!
# Reading templates

From the spans of a text to its tree.  The subset of Jinja2 that is covered has
loops over the items of a value, branches, names with fields, texts, equations and
filters without arguments; a name stands for a variable even if it is spelled like
a number or a constant.  A first pass from the left reads each
tag and keeps the stack of open blocks, so that the fault reported is the first
one in the text.  A second pass from the right builds the tree of a text whose
blocks are properly nested: each closing tag opens a pending block, which the
matching opening tag completes.
-/

namespace QueryBindings.Template

inductive ReadFault where
  /-- The text ends inside a block, which waits for one of several tags. -/
  | openBlock (awaited : List String) (innermost : String)
  /-- A tag that has no meaning here. -/
  | unknownTag (tag : String) (awaited : List String) (innermost : Option String)
      (misnested : Bool)
  | endsBefore (needed : String)
  | expected (needed found : String)
  | unexpected (found : String)
  | noExpression (found : String)
  | noTagName
  | openComment
  deriving DecidableEq, Repr

namespace ReadFault

def alternatives (tags : List String) : String :=
  " or ".intercalate (tags.map Text.quoted)

def innermostNote (block : String) : String :=
  " The innermost block that needs to be closed is " ++ Text.quoted block ++ "."

def message : ReadFault → String
  | openBlock awaited innermost =>
      "Unexpected end of template. Jinja was looking for the following tags: " ++
        alternatives awaited ++ "." ++ innermostNote innermost
  | unknownTag tag awaited innermost misnested =>
      "Encountered unknown tag " ++ Text.quoted tag ++ "." ++
        (if awaited.isEmpty then ""
          else if misnested then
            " You probably made a nesting mistake. Jinja is expecting this tag, but " ++
              "currently looking for " ++ alternatives awaited ++ "."
          else " Jinja was looking for the following tags: " ++ alternatives awaited ++ ".") ++
        (innermost.map innermostNote).getD ""
  | endsBefore needed =>
      "unexpected end of template, expected " ++ Text.quoted needed ++ "."
  | expected needed found =>
      "expected token " ++ Text.quoted needed ++ ", got " ++ Text.quoted found
  | unexpected found => "unexpected " ++ Text.quoted found
  | noExpression found => "Expected an expression, got " ++ Text.quoted found
  | noTagName => "tag name expected"
  | openComment => "Missing end of comment tag"

end ReadFault

/-! ## Expressions -/

inductive TagEnd where
  | closed (kind : TagKind)
  | endOfText
  deriving DecidableEq, Repr

namespace TagEnd

def ofKind : TagKind → String
  | .output => "end of print statement"
  | .block => "end of statement block"

def name : TagEnd → String
  | closed kind => ofKind kind
  | endOfText => "end of template"

end TagEnd

def Token.shown : Token → String
  | .word name => String.ofList name
  | .quoted _ => "string"
  | .sign chars => String.ofList chars

def found (tagEnd : TagEnd) : List Token → String
  | [] => tagEnd.name
  | token :: _ => token.shown

abbrev Reading (α : Type) := Except ReadFault (α × List Token)

/-- Attributes, filters and tests after an expression. -/
def readSuffixes (e : Expr) : List Token → Reading Expr
  | .sign ['.'] :: .word name :: rest =>
      readSuffixes (.field e (String.ofList name)) rest
  | .sign ['|'] :: .word name :: rest =>
      readSuffixes (.filtered e (String.ofList name)) rest
  | .word ['i', 's'] :: .word ['n', 'o', 't'] :: .word ['n', 'o', 'n', 'e'] :: rest =>
      readSuffixes (.negation (.isNone e)) rest
  | .word ['i', 's'] :: .word ['n', 'o', 'n', 'e'] :: rest =>
      readSuffixes (.isNone e) rest
  | rest => .ok (e, rest)

def readOperand (tagEnd : TagEnd) : List Token → Reading Expr
  | .word name :: rest => readSuffixes (.ref (String.ofList name)) rest
  | .quoted chars :: rest => readSuffixes (.literal (String.ofList chars)) rest
  | tokens => .error (.unexpected (found tagEnd tokens))

def readComparison (tagEnd : TagEnd) (tokens : List Token) : Reading Expr :=
  match readOperand tagEnd tokens with
  | .error fault => .error fault
  | .ok (left, .sign ['=', '='] :: rest) =>
      (readOperand tagEnd rest).map fun (right, rest) => (.equals left right, rest)
  | .ok (left, rest) => .ok (left, rest)

def readCondition (tagEnd : TagEnd) : List Token → Reading Expr
  | .word ['n', 'o', 't'] :: rest =>
      (readCondition tagEnd rest).map fun (e, rest) => (.negation e, rest)
  | tokens => readComparison tagEnd tokens

/-- An expression; the second alternative of a choice may again be a choice. -/
def readChoice (tagEnd : TagEnd) : Nat → List Token → Reading Expr
  | 0, tokens => .error (.unexpected (found tagEnd tokens))
  | fuel + 1, tokens =>
      match readCondition tagEnd tokens with
      | .error fault => .error fault
      | .ok (first, .word ['i', 'f'] :: rest) =>
          match readCondition tagEnd rest with
          | .error fault => .error fault
          | .ok (condition, .word ['e', 'l', 's', 'e'] :: rest) =>
              (readChoice tagEnd fuel rest).map fun (second, rest) =>
                (.choice first condition second, rest)
          | .ok (_, rest) => .error (.expected "else" (found tagEnd rest))
      | .ok (first, rest) => .ok (first, rest)

def readEnd (kind : TagKind) (tagEnd : TagEnd) : List Token → Except ReadFault Unit
  | [] =>
      match tagEnd with
      | .closed _ => .ok ()
      | .endOfText => .error (.endsBefore (TagEnd.ofKind kind))
  | tokens => .error (.expected (TagEnd.ofKind kind) (found tagEnd tokens))

def readExpr (kind : TagKind) (tagEnd : TagEnd) (tokens : List Token) :
    Except ReadFault Expr :=
  match tokens with
  | [] => .error (.noExpression tagEnd.name)
  | _ =>
      match readChoice tagEnd (tokens.length + 1) tokens with
      | .error fault => .error fault
      | .ok (e, rest) => (readEnd kind tagEnd rest).map fun _ => e

/-! ## Items -/

/-- A template text as a flat sequence. -/
inductive Item where
  | text (text : String)
  | output (value : Expr)
  | openFor (name : String) (items : Expr)
  | openIf (condition : Expr)
  | elseIf (condition : Expr)
  | otherwise
  | closeIf
  | closeFor
  | unknown (tag : String)
  deriving DecidableEq, Repr

namespace Item

def ofBlockTag (tagEnd : TagEnd) : List Token → Except ReadFault Item
  | [] => .error .noTagName
  | .word ['f', 'o', 'r'] :: .word name :: .word ['i', 'n'] :: rest =>
      (readExpr .block tagEnd rest).map (openFor (String.ofList name))
  | .word ['f', 'o', 'r'] :: .word _ :: rest =>
      .error (.expected "in" (found tagEnd rest))
  | .word ['f', 'o', 'r'] :: rest => .error (.expected "name" (found tagEnd rest))
  | .word ['i', 'f'] :: rest => (readExpr .block tagEnd rest).map openIf
  | .word ['e', 'l', 'i', 'f'] :: rest => (readExpr .block tagEnd rest).map elseIf
  | .word ['e', 'l', 's', 'e'] :: rest => (readEnd .block tagEnd rest).map fun _ => otherwise
  | .word ['e', 'n', 'd', 'i', 'f'] :: rest =>
      (readEnd .block tagEnd rest).map fun _ => closeIf
  | .word ['e', 'n', 'd', 'f', 'o', 'r'] :: rest =>
      (readEnd .block tagEnd rest).map fun _ => closeFor
  | .word tag :: _ => .ok (unknown (String.ofList tag))
  | _ => .error .noTagName

def ofSpan : Span → Except ReadFault Item
  | .text chars => .ok (Item.text (String.ofList chars))
  | .tag .output tokens => (readExpr .output (.closed .output) tokens).map output
  | .tag .block tokens => ofBlockTag (.closed .block) tokens
  | .openTag .output tokens => (readExpr .output .endOfText tokens).map output
  | .openTag .block tokens => ofBlockTag .endOfText tokens
  | .openComment => .error .openComment

end Item

/-! ## Nesting -/

inductive OpenBlock where
  | forBody
  | forElse
  | ifBody
  | ifElse
  deriving DecidableEq, Repr

namespace OpenBlock

def opener : OpenBlock → String
  | forBody | forElse => "for"
  | ifBody | ifElse => "if"

def awaited : OpenBlock → List String
  | forBody => ["endfor", "else"]
  | forElse => ["endfor"]
  | ifBody => ["elif", "else", "endif"]
  | ifElse => ["endif"]

end OpenBlock

/-- A tag that the innermost block does not wait for. -/
def misplaced (tag : String) (stack : List OpenBlock) : ReadFault :=
  match stack with
  | [] => .unknownTag tag [] none false
  | top :: _ =>
      .unknownTag tag top.awaited (some top.opener)
        (stack.any fun block => block.awaited.contains tag)

def Item.advance (stack : List OpenBlock) : Item → Except ReadFault (List OpenBlock)
  | .text _ | .output _ => .ok stack
  | .openFor _ _ => .ok (.forBody :: stack)
  | .openIf _ => .ok (.ifBody :: stack)
  | .elseIf _ =>
      match stack with
      | .ifBody :: _ => .ok stack
      | _ => .error (misplaced "elif" stack)
  | .otherwise =>
      match stack with
      | .forBody :: outer => .ok (.forElse :: outer)
      | .ifBody :: outer => .ok (.ifElse :: outer)
      | _ => .error (misplaced "else" stack)
  | .closeIf =>
      match stack with
      | .ifBody :: outer | .ifElse :: outer => .ok outer
      | _ => .error (misplaced "endif" stack)
  | .closeFor =>
      match stack with
      | .forBody :: outer | .forElse :: outer => .ok outer
      | _ => .error (misplaced "endfor" stack)
  | .unknown tag => .error (misplaced tag stack)

def readItems : List OpenBlock → List Span → Except ReadFault (List Item)
  | [], [] => .ok []
  | block :: _, [] => .error (.openBlock block.awaited block.opener)
  | stack, span :: rest => do
      let item ← Item.ofSpan span
      let stack ← item.advance stack
      let items ← readItems stack rest
      .ok (item :: items)

/-! ## Building the tree -/

/-- What is known of a block from its closing tag on, going left. -/
structure Pending where
  /-- From here to the next tag of the same block. -/
  body : Template
  /-- The parts of the block that stand further right, as one template. -/
  alternative : Template := .done
  deriving DecidableEq, Repr

/-- The tree from a place in the text on, and the blocks that are closed after it. -/
structure Building where
  outer : List Pending
  here : Pending
  deriving DecidableEq, Repr

namespace Building

def push (piece : Template → Template) (building : Building) : Building :=
  ⟨building.outer, ⟨piece building.here.body, building.here.alternative⟩⟩

def close (building : Building) : Building :=
  ⟨building.here :: building.outer, ⟨.done, .done⟩⟩

def complete (piece : Pending → Template → Template) (building : Building) : Building :=
  match building.outer with
  | [] => building
  | next :: outer => ⟨outer, ⟨piece building.here next.body, next.alternative⟩⟩

def add (item : Item) (building : Building) : Building :=
  match item with
  | .text s => building.push (.text s)
  | .output e => building.push (.output e)
  | .closeIf | .closeFor => building.close
  | .otherwise => ⟨building.outer, ⟨.done, building.here.body⟩⟩
  | .elseIf condition =>
      ⟨building.outer,
        ⟨.done, .branch condition building.here.body building.here.alternative .done⟩⟩
  | .openIf condition =>
      building.complete fun block rest =>
        .branch condition block.body block.alternative rest
  | .openFor name items =>
      building.complete fun block rest =>
        .forEach name items block.body block.alternative rest
  | .unknown _ => building

end Building

/-- The tree of properly nested items. -/
def ofItems (items : List Item) : Template :=
  (items.foldr Building.add ⟨[], ⟨.done, .done⟩⟩).here.body

def readChars (text : List Char) : Except ReadFault Template :=
  (readItems [] (spans text)).map ofItems

def read (text : String) : Except ReadFault Template :=
  readChars text.toList

end QueryBindings.Template
