import QueryBindings.Proofs.Template.Nesting
import QueryBindings.Proofs.Template.Piece
import QueryBindings.Template.Library

/-!
# Templates read line by line

The tree that is built from an outline has the text of the outline.  The tree that is
built from the template itself has its literal text in longer stretches, which makes
no difference when it is rendered.
-/

namespace QueryBindings.Template

/-! ## Trees of outlines -/

def LinePart.piece : LinePart → Template → Template
  | char c => .text (String.singleton c)
  | hole value => .output value

mutual

/-- The tree of an outline, with each character as a text of its own. -/
def Outline.template : Outline → Template
  | .done => .done
  | .line parts rest => parts.foldr LinePart.piece rest.template
  | .loop name items body rest => .forEach name items body.template .done rest.template
  | .loopElse name items body ifEmpty rest =>
      .forEach name items body.template ifEmpty.template rest.template
  | .branch condition yes others rest =>
      .branch condition yes.template others.template rest.template

def Alternatives.template : Alternatives → Template
  | .none => .done
  | .otherwise block => block.template
  | .elseIf condition block others => .branch condition block.template others.template .done

end

theorem render_line (parts : List LinePart) (rest : Template) (scope : Scope) :
    render (parts.foldr LinePart.piece rest) scope =
      joinTexts (concatItems (LinePart.print scope) parts) (render rest scope) := by
  induction parts with
  | nil => simp [concatItems]
  | cons part parts ih =>
      rw [List.foldr_cons, concatItems, joinTexts_assoc, ← ih]
      cases part <;> rfl

theorem concatItems_chars (scope : Scope) (s : String) :
    concatItems (LinePart.print scope) (s.toList.map .char) = .ok s := by
  have hchars (cs : List Char) :
      concatItems (LinePart.print scope) (cs.map .char) = .ok (String.ofList cs) := by
    induction cs with
    | nil => rfl
    | cons c cs ih =>
        rw [List.map_cons, concatItems, ih, LinePart.print, joinTexts_ok, String.ofList_cons]
  rw [hchars, String.ofList_toList]

theorem render_forEach {body : Template} {bodyText : Scope → Except EvalFault String}
    (hbody : ∀ scope, render body scope = bodyText scope) (name : String) (items : Expr)
    (ifEmpty rest : Template) (scope : Scope) :
    render (.forEach name items body ifEmpty rest) scope =
      joinTexts
        (((evaluate scope items).bind Value.items).bind fun values =>
          if values.isEmpty then render ifEmpty scope
          else
            concatItems (fun item => bodyText (scope.forItem name item.1 item.2))
              (withLast values))
        (render rest scope) := by
  obtain rfl : render body = bodyText := funext hbody
  rfl

mutual

/-- The tree of an outline has the text of the outline. -/
theorem Outline.render_template : ∀ (outline : Outline) (scope : Scope),
    render outline.template scope = outline.print scope
  | .done, scope => rfl
  | .line parts rest, scope => by
      rw [Outline.template, render_line, rest.render_template, Outline.print]
  | .loop name items body rest, scope => by
      rw [Outline.template, render_forEach body.render_template, Outline.print,
        rest.render_template]
      -- Without an alternative, a loop over no items is a loop like any other.
      congr 2
      funext values
      cases values <;> rfl
  | .loopElse name items body ifEmpty rest, scope => by
      rw [Outline.template, render_forEach body.render_template, Outline.print,
        rest.render_template, ifEmpty.render_template]
  | .branch condition yes others rest, scope => by
      rw [Outline.template, render, Outline.print, rest.render_template, yes.render_template,
        others.render_template]

theorem Alternatives.render_template : ∀ (others : Alternatives) (scope : Scope),
    render others.template scope = others.print scope
  | .none, scope => rfl
  | .otherwise block, scope => by
      rw [Alternatives.template, block.render_template, Alternatives.print]
  | .elseIf condition block others, scope => by
      rw [Alternatives.template, render, Alternatives.print, block.render_template,
        others.render_template]
      exact joinTexts_empty_right _

end

/-! ## Building from lines -/

namespace Building

/-- The tree from some items on, given what is built of the text after them. -/
def extend (items : List Item) (building : Building) : Building :=
  items.foldr Building.add building

theorem extend_append (first second : List Item) (building : Building) :
    extend (first ++ second) building = extend first (extend second building) :=
  List.foldr_append

theorem extend_line (parts : List LinePart) (building : Building) :
    extend (Line.content parts).items building =
      ⟨building.outer,
        ⟨parts.foldr LinePart.piece building.here.body, building.here.alternative⟩⟩ := by
  induction parts with
  | nil => rfl
  | cons part parts ih =>
      simp only [extend, Line.items, List.map_cons, List.foldr_cons] at ih ⊢
      rw [ih]
      cases part <;> rfl

theorem extend_tag (tag : BlockTag) (building : Building) :
    extend (Line.tag tag).items building = building.add tag.item := rfl

end Building

theorem append_line (parts : List LinePart) (first second : Template) :
    (parts.foldr LinePart.piece first).append second =
      parts.foldr LinePart.piece (first.append second) := by
  induction parts with
  | nil => rfl
  | cons part parts ih =>
      rw [List.foldr_cons, List.foldr_cons, ← ih]
      cases part <;> rfl

open Building

mutual

/-- The lines of an outline put its tree before what is built already. -/
theorem Outline.extend_lines : ∀ (outline : Outline) (building : Building),
    extend (outline.lines.flatMap Line.items) building =
      ⟨building.outer,
        ⟨outline.template.append building.here.body, building.here.alternative⟩⟩
  | .done, building => rfl
  | .line parts rest, building => by
      rw [Outline.lines, List.flatMap_cons, extend_append, rest.extend_lines, extend_line,
        Outline.template, append_line]
  | .loop name items body rest, building => by
      simp only [Outline.lines, List.flatMap_cons, List.flatMap_append, extend_append, extend_tag,
        rest.extend_lines, body.extend_lines]
      simp [add, BlockTag.item, close, complete, Outline.template, append]
  | .loopElse name items body ifEmpty rest, building => by
      simp only [Outline.lines, List.flatMap_cons, List.flatMap_append, extend_append, extend_tag,
        rest.extend_lines, body.extend_lines, ifEmpty.extend_lines]
      simp [add, BlockTag.item, close, complete, Outline.template, append]
  | .branch condition yes others rest, building => by
      simp only [Outline.lines, List.flatMap_cons, List.flatMap_append, extend_append, extend_tag,
        rest.extend_lines, yes.extend_lines]
      simp [add, BlockTag.item, close, complete, Outline.template, append, others.extend_lines]

/-- The lines after the first branch of a block put their tree in the place of its alternative. -/
theorem Alternatives.extend_lines : ∀ (others : Alternatives) (outer : List Pending),
    extend (others.lines.flatMap Line.items) ⟨outer, ⟨.done, .done⟩⟩ =
      ⟨outer, ⟨.done, others.template⟩⟩
  | .none, outer => rfl
  | .otherwise block, outer => by
      simp only [Alternatives.lines, List.flatMap_cons, extend_append, extend_tag,
        block.extend_lines]
      simp [add, BlockTag.item, Alternatives.template]
  | .elseIf condition block others, outer => by
      simp only [Alternatives.lines, List.flatMap_cons, List.flatMap_append, extend_append,
        extend_tag, block.extend_lines, others.extend_lines]
      simp [add, BlockTag.item, Alternatives.template]

end

/-! ## Literal text in longer stretches -/

/-- Two trees that differ only in how their literal text is cut up. -/
structure Alike (first second : Template) : Prop where
  sameText : ∀ scope, render first scope = render second scope
  sameFilter : ∀ inBranch, first.unknownFilter? inBranch = second.unknownFilter? inBranch

namespace Alike

theorem refl (template : Template) : Alike template template :=
  ⟨fun _ => rfl, fun _ => rfl⟩

variable {rest rest' : Template}

theorem chars (h : Alike rest rest') (s : String) :
    Alike ((s.toList.map .char).foldr LinePart.piece rest) (.text s rest') := by
  constructor
  · intro scope
    rw [render_line, concatItems_chars, h.sameText]
    rfl
  · intro inBranch
    rw [unknownFilter?, ← h.sameFilter]
    induction s.toList with
    | nil => rfl
    | cons c cs ih => exact ih

theorem output (h : Alike rest rest') (e : Expr) : Alike (.output e rest) (.output e rest') :=
  ⟨fun scope => by simp only [render, h.sameText],
    fun inBranch => by simp only [unknownFilter?, h.sameFilter]⟩

theorem forEach {body body' ifEmpty ifEmpty' : Template} (hbody : Alike body body')
    (hempty : Alike ifEmpty ifEmpty') (h : Alike rest rest') (name : String) (items : Expr) :
    Alike (.forEach name items body ifEmpty rest) (.forEach name items body' ifEmpty' rest') :=
  ⟨fun scope => by simp only [render, hbody.sameText, hempty.sameText, h.sameText],
    fun inBranch => by
      simp only [unknownFilter?, hbody.sameFilter, hempty.sameFilter, h.sameFilter]⟩

theorem branch {yes yes' no no' : Template} (hyes : Alike yes yes') (hno : Alike no no')
    (h : Alike rest rest') (condition : Expr) :
    Alike (.branch condition yes no rest) (.branch condition yes' no' rest') :=
  ⟨fun scope => by simp only [render, hyes.sameText, hno.sameText, h.sameText],
    fun inBranch => by
      simp only [unknownFilter?, hyes.sameFilter, hno.sameFilter, h.sameFilter]⟩

end Alike

structure Pending.Alike (first second : Pending) : Prop where
  body : Template.Alike first.body second.body
  alternative : Template.Alike first.alternative second.alternative

structure Building.Alike (first second : Building) : Prop where
  outer : List.Forall₂ Pending.Alike first.outer second.outer
  here : first.here.Alike second.here

namespace Building

theorem Alike.done : Alike ⟨[], ⟨.done, .done⟩⟩ ⟨[], ⟨.done, .done⟩⟩ :=
  ⟨.nil, ⟨.refl _, .refl _⟩⟩

variable {first second : Building}

theorem Alike.close (h : first.Alike second) : first.close.Alike second.close :=
  ⟨.cons h.here h.outer, ⟨.refl _, .refl _⟩⟩

theorem Alike.complete (h : first.Alike second) (piece : Pending → Template → Template)
    (hpiece : ∀ {p q : Pending} {t u : Template}, p.Alike q → Template.Alike t u →
      Template.Alike (piece p t) (piece q u)) :
    (first.complete piece).Alike (second.complete piece) := by
  obtain ⟨outer, here⟩ := first
  obtain ⟨outer', here'⟩ := second
  cases h.outer with
  | nil => exact h
  | cons hnext houter => exact ⟨houter, ⟨hpiece h.here hnext.body, hnext.alternative⟩⟩

theorem Alike.add_split (h : first.Alike second) (item : Item) :
    (extend item.split first).Alike (second.add item) := by
  cases item with
  | text s =>
      have hsplit : (Item.text s).split = (Line.content (s.toList.map .char)).items := by
        simp [Item.split, Line.items, LinePart.item]
      rw [hsplit, extend_line]
      exact ⟨h.outer, ⟨h.here.body.chars s, h.here.alternative⟩⟩
  | output e => exact ⟨h.outer, ⟨h.here.body.output e, h.here.alternative⟩⟩
  | openFor name items =>
      exact h.complete (fun block rest => .forEach name items block.body block.alternative rest)
        fun hpq htu => .forEach hpq.body hpq.alternative htu name items
  | openIf condition =>
      exact h.complete (fun block rest => .branch condition block.body block.alternative rest)
        fun hpq htu => .branch hpq.body hpq.alternative htu condition
  | elseIf condition =>
      exact ⟨h.outer, ⟨.refl _, .branch h.here.body h.here.alternative (.refl _) condition⟩⟩
  | otherwise => exact ⟨h.outer, ⟨.refl _, h.here.body⟩⟩
  | closeIf => exact h.close
  | closeFor => exact h.close
  | unknown tag => exact h

theorem extend_split_alike (items : List Item) :
    (extend (items.flatMap Item.split) ⟨[], ⟨.done, .done⟩⟩).Alike
      (extend items ⟨[], ⟨.done, .done⟩⟩) := by
  induction items with
  | nil => exact .done
  | cons item items ih =>
      rw [List.flatMap_cons, extend_append]
      exact ih.add_split item

end Building

/-- How literal text is cut up makes no difference to the tree that is built. -/
theorem ofItems_split_alike (items : List Item) :
    Alike (ofItems (items.flatMap Item.split)) (ofItems items) :=
  (Building.extend_split_alike items).here.body

theorem ofItems_lines (outline : Outline) :
    ofItems (outline.lines.flatMap Line.items) = outline.template := by
  have hextend := outline.extend_lines ⟨[], ⟨.done, .done⟩⟩
  rw [ofItems]
  simpa [Building.extend] using congrArg (fun b : Building => b.here.body) hextend

/-! ## Templates in lines -/

section

variable {text : List Char}

theorem exists_outline_of_readChars {lines : List Line} (hlines : Lines text lines)
    (hcr : '\r' ∉ text) {template : Template} (h : readChars text = .ok template) :
    ∃ outline : Outline, outline.lines = lines := by
  obtain ⟨whole, hwhole, hsplit⟩ := reads_spans hlines hcr
  rw [readChars] at h
  cases hitems : readItems [] (spans text) with
  | error fault => simp [hitems, Except.map] at h
  | ok items =>
      obtain ⟨hreads, hwalk⟩ := readItems_eq_ok_iff.1 hitems
      have hsame : items = whole := hreads.unique hwhole
      apply exists_outline_of_walk
      rw [← hsplit, walk_flatMap_split, ← hsame]
      exact hwalk

theorem readChars_of_outline {outline : Outline} (hlines : Lines text outline.lines)
    (hcr : '\r' ∉ text) :
    ∃ template, readChars text = .ok template ∧ Alike outline.template template := by
  obtain ⟨whole, hwhole, hsplit⟩ := reads_spans hlines hcr
  have hwalk : walk [] whole = .ok [] := by
    rw [← walk_flatMap_split, hsplit, outline.walk_lines]
  have hitems : readItems [] (spans text) = .ok whole := readItems_eq_ok_iff.2 ⟨hwhole, hwalk⟩
  refine ⟨ofItems whole, by rw [readChars, hitems, Except.map], ?_⟩
  rw [← ofItems_lines, ← hsplit]
  exact ofItems_split_alike whole

end

def Outline.unknownFilter? (outline : Outline) : Option String :=
  outline.template.unknownFilter? false

namespace Library

variable {library : Library} {name source : String} {scope : Scope}

/-- Rendering a template whose lines form an outline is printing the outline. -/
theorem render_of_outline (hsource : library.lookup name = some source) {outline : Outline}
    (hlines : Lines source.toList outline.lines) (hcr : '\r' ∉ source.toList) :
    library.render name scope =
      match outline.unknownFilter? with
      | some filter => .error (.load (.unknownFilter filter))
      | none => (outline.print scope).mapError .evaluation := by
  obtain ⟨template, hread, halike⟩ := readChars_of_outline hlines hcr
  rw [← outline.render_template, halike.sameText, Outline.unknownFilter?, halike.sameFilter,
    render, load, hsource]
  simp only [Template.read, hread]
  cases template.unknownFilter? false <;> rfl

/--
The text of a template whose tags stand on lines of their own is the text of its
outline: lines with tags leave nothing behind, and every other line that counts leaves
its text with the newline.  Rendering fails only where the lines form no outline, where a
filter is unknown, or where the outline itself has no text.
-/
theorem render_eq_outline {lines : List Line} (hsource : library.lookup name = some source)
    (hlines : Lines source.toList lines) (hcr : '\r' ∉ source.toList) :
    (∀ text, library.render name scope = .ok text →
      (∃ outline : Outline, outline.lines = lines) ∧
        ∀ outline : Outline, outline.lines = lines → outline.print scope = .ok text) ∧
      ∀ outline : Outline, outline.lines = lines → outline.unknownFilter? = none →
        library.render name scope = (outline.print scope).mapError .evaluation := by
  refine ⟨fun text hrender => ⟨?outline, ?print⟩, ?render⟩
  case outline =>
    rw [render, load, hsource] at hrender
    cases hread : readChars source.toList with
    | error fault => simp [Template.read, hread] at hrender
    | ok template => exact exists_outline_of_readChars hlines hcr hread
  case print =>
    rintro outline rfl
    rw [render_of_outline hsource hlines hcr] at hrender
    cases hfilter : outline.unknownFilter? with
    | some filter => simp [hfilter] at hrender
    | none =>
        cases hprint : outline.print scope with
        | error fault => simp [hfilter, hprint, Except.mapError] at hrender
        | ok printed => simpa [hfilter, hprint, Except.mapError] using hrender
  case render =>
    rintro outline rfl hfilter
    rw [render_of_outline hsource hlines hcr, hfilter]

end Library

def rowsSource : String :=
  "{{ title }}:\n\t{% for row in rows %}\n  {% if row %}\n- {{ row }}\n  {% endif %}\n\t{% endfor %}"

def rowsOutline : Outline :=
  .line (.hole (.ref "title") :: [.char ':', .char '\n'])
    (.loop "row" (.ref "rows")
      (.branch (.ref "row")
        (.line [.char '-', .char ' ', .hole (.ref "row"), .char '\n'] .done) .none .done)
      .done)

def rowsScope : Scope :=
  [("title", .text "Rows"), ("rows", .list [.text "{% x %}\ny", .text ""])]

theorem lines_rowsSource : Lines rowsSource.toList rowsOutline.lines := by
  have hheading : Line.Spells ('{' :: '{' :: (spaced ["title"] ++ '}' :: '}' :: [':']))
      (.content [.hole (.ref "title"), .char ':']) :=
    .content (.hole (.spaced (by decide +kernel)) rfl (.char (by decide) nofun .nil))
  have hfor : Line.Spells
      (['\t'] ++ '{' :: '%' :: (spaced ["for", "row", "in", "rows"] ++ ['%', '}']))
      (.tag (.openFor "row" (.ref "rows"))) := .tag (by simp) (.spaced (by decide +kernel)) rfl
  have hif : Line.Spells ([' ', ' '] ++ '{' :: '%' :: (spaced ["if", "row"] ++ ['%', '}']))
      (.tag (.openIf (.ref "row"))) := .tag (by simp) (.spaced (by decide +kernel)) rfl
  have hrow : Line.Spells (['-', ' '] ++ '{' :: '{' :: (spaced ["row"] ++ ['}', '}']))
      (.content [.char '-', .char ' ', .hole (.ref "row")]) :=
    .content (.plain (by simp) (.hole (.spaced (by decide +kernel)) rfl .nil))
  have hendif : Line.Spells ([' ', ' '] ++ '{' :: '%' :: (spaced ["endif"] ++ ['%', '}']))
      (.tag .closeIf) := .tag (by simp) (.spaced (by decide +kernel)) rfl
  have hendfor : Line.Spells (['\t'] ++ '{' :: '%' :: (spaced ["endfor"] ++ ['%', '}']))
      (.tag .closeFor) := .tag (by simp) (.spaced (by decide +kernel)) rfl
  have hlines := Lines.next hheading
    (.next hfor (.next hif (.next hrow (.next hendif (.last hendfor)))))
  convert hlines using 1 <;> decide +kernel

theorem Library.render_eq_outline_of_rows :
    Lines rowsSource.toList rowsOutline.lines ∧ rowsOutline.unknownFilter? = none ∧
      Library.render [("rows", rowsSource)] "rows" rowsScope = .ok "Rows:\n- {% x %}\ny\n" ∧
      rowsOutline.print rowsScope = .ok "Rows:\n- {% x %}\ny\n" := by
  have hsource : List.lookup "rows" [("rows", rowsSource)] = some rowsSource := rfl
  have hcr : '\r' ∉ rowsSource.toList := by decide +kernel
  have hrender :
      Library.render [("rows", rowsSource)] "rows" rowsScope = .ok "Rows:\n- {% x %}\ny\n" := by
    decide +kernel
  obtain ⟨-, hprint⟩ := (Library.render_eq_outline hsource lines_rowsSource hcr).1 _ hrender
  exact ⟨lines_rowsSource, rfl, hrender, hprint rowsOutline rfl⟩

end QueryBindings.Template
