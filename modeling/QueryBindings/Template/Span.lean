import QueryBindings.Text.Blank

/-!
# Spans of a template text

The split of a Jinja2 template into literal text, expression tags and block tags,
under the options `trim_blocks`, `lstrip_blocks` and `keep_trailing_newline`: white
space before a block tag or a comment is dropped when nothing else stands before it
on its line, and so is one newline directly after such a tag.  A block tag on a line
of its own therefore leaves nothing behind.

Signs that trim the text around a tag, raw blocks and backslash escapes in quoted
texts are not part of the subset that is covered; built-in templates have none.
-/

namespace QueryBindings.Template

inductive Token where
  | word (name : List Char)
  | quoted (text : List Char)
  | sign (text : List Char)
  deriving DecidableEq, Repr

inductive TagKind where
  | output
  | block
  deriving DecidableEq, Repr

inductive Span where
  | text (text : List Char)
  | tag (kind : TagKind) (tokens : List Token)
  | openTag (kind : TagKind) (tokens : List Token)
  | openComment
  deriving DecidableEq, Repr

/-- Where the scanner stands; what was read of the current part is in reverse order. -/
inductive ScanMode where
  /-- In literal text; at its start a newline may have to be skipped. -/
  | text (lineStart skipNewline : Bool) (read : List Char)
  /-- In literal text, after a brace that may open a tag. -/
  | brace (lineStart : Bool) (read : List Char)
  /-- In a tag; whether the last token is a word that may still grow. -/
  | tag (kind : TagKind) (tokens : List Token) (inWord : Bool)
  /-- In a tag, after a character that may begin its end. -/
  | closing (kind : TagKind) (tokens : List Token)
  | quoted (kind : TagKind) (tokens : List Token) (quote : Char) (read : List Char)
  | comment
  | commentClosing
  deriving DecidableEq, Repr

/-- The spans read so far, in reverse order, and the place of the scanner. -/
structure Scan where
  spans : List Span
  mode : ScanMode
  deriving DecidableEq, Repr

namespace Scan

def start : Scan := ⟨[], .text true false []⟩

def pushText (read : List Char) (spans : List Span) : List Span :=
  if read.isEmpty then spans else .text read.reverse :: spans

/--
Text, in reverse order, without the white space of its last line if that line
has nothing else and its start is known.
-/
def stripIndent (lineStart : Bool) (read : List Char) : List Char :=
  let line := read.takeWhile (· != '\n')
  let before := read.dropWhile (· != '\n')
  if line.all Text.isBlank && (lineStart || !before.isEmpty) then before else read

def isWordChar (c : Char) : Bool :=
  c.isAlphanum || c == '_' || (0x80 ≤ c.toNat && !Text.isBlank c)

def closer : TagKind → Char
  | .output => '}'
  | .block => '%'

/-- Reverse the characters of words, which are collected backwards. -/
def finishToken : Token → Token
  | .word read => .word read.reverse
  | .quoted content => .quoted content
  | .sign content => .sign content

def finishTokens (tokens : List Token) : List Token :=
  (tokens.map finishToken).reverse

def tagChar (kind : TagKind) (tokens : List Token) (inWord : Bool) (c : Char) : ScanMode :=
  if Text.isBlank c then .tag kind tokens false
  else if c == '"' || c == '\'' then .quoted kind tokens c []
  else if isWordChar c then
    match inWord, tokens with
    | true, .word read :: rest => .tag kind (.word (c :: read) :: rest) true
    | _, _ => .tag kind (.word [c] :: tokens) true
  else if c == closer kind then .closing kind tokens
  else
    match tokens with
    | .sign ['='] :: rest =>
        if c == '=' && !inWord then .tag kind (.sign ['=', '='] :: rest) false
        else .tag kind (.sign [c] :: tokens) false
    | _ => .tag kind (.sign [c] :: tokens) false

def textChar (lineStart : Bool) (read : List Char) (c : Char) : ScanMode :=
  if c == '{' then .brace lineStart read else .text lineStart false (c :: read)

def step (scan : Scan) (c : Char) : Scan :=
  match scan.mode with
  | .text lineStart skipNewline read =>
      if skipNewline && c == '\n' then ⟨scan.spans, .text true false read⟩
      else ⟨scan.spans, textChar lineStart read c⟩
  | .brace lineStart read =>
      if c == '{' then ⟨pushText read scan.spans, .tag .output [] false⟩
      else if c == '%' then
        ⟨pushText (stripIndent lineStart read) scan.spans, .tag .block [] false⟩
      else if c == '#' then
        ⟨pushText (stripIndent lineStart read) scan.spans, .comment⟩
      else ⟨scan.spans, .text lineStart false (c :: '{' :: read)⟩
  | .tag kind tokens inWord => ⟨scan.spans, tagChar kind tokens inWord c⟩
  | .closing kind tokens =>
      if c == '}' then
        ⟨.tag kind (finishTokens tokens) :: scan.spans, .text false (kind == .block) []⟩
      else ⟨scan.spans, tagChar kind (.sign [closer kind] :: tokens) false c⟩
  | .quoted kind tokens quote read =>
      if c == quote then ⟨scan.spans, .tag kind (.quoted read.reverse :: tokens) false⟩
      else ⟨scan.spans, .quoted kind tokens quote (c :: read)⟩
  | .comment => if c == '#' then ⟨scan.spans, .commentClosing⟩ else scan
  | .commentClosing =>
      if c == '}' then ⟨scan.spans, .text false true []⟩
      else if c == '#' then scan
      else ⟨scan.spans, .comment⟩

def finish (scan : Scan) : List Span :=
  (match scan.mode with
    | .text _ _ read => pushText read scan.spans
    | .brace _ read => pushText ('{' :: read) scan.spans
    | .tag kind tokens _ => .openTag kind (finishTokens tokens) :: scan.spans
    | .closing kind tokens =>
        .openTag kind (finishTokens (.sign [closer kind] :: tokens)) :: scan.spans
    | .quoted kind tokens quote _ =>
        .openTag kind (finishTokens (.sign [quote] :: tokens)) :: scan.spans
    | .comment | .commentClosing => .openComment :: scan.spans).reverse

end Scan

def unifyNewlines : List Char → List Char
  | [] => []
  | '\r' :: '\n' :: rest => '\n' :: unifyNewlines rest
  | c :: rest => (if c == '\r' then '\n' else c) :: unifyNewlines rest

def spans (text : List Char) : List Span :=
  ((unifyNewlines text).foldl Scan.step Scan.start).finish

theorem foldl_step_append (scan : Scan) (first second : List Char) :
    (first ++ second).foldl Scan.step scan =
      second.foldl Scan.step (first.foldl Scan.step scan) :=
  List.foldl_append

end QueryBindings.Template
