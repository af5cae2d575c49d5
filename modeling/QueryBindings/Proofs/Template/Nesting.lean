import QueryBindings.Proofs.Template.Scanning

/-!
# Nesting of lines

A walk over the items of a text keeps the stack of open blocks.  If it ends with no
block open, the lines of the text form an outline.  The invariant, read from the end
of the text backwards, is that the lines from some place on close the blocks that are
open there, one after the other, with an outline before each closing tag.
-/

namespace QueryBindings.Template

/-- The open blocks after some items. -/
def walk (stack : List OpenBlock) (items : List Item) : Except ReadFault (List OpenBlock) :=
  items.foldlM Item.advance stack

@[simp] theorem walk_cons (stack : List OpenBlock) (item : Item) (items : List Item) :
    walk stack (item :: items) = (item.advance stack).bind fun stack => walk stack items := rfl

@[simp] theorem walk_append (stack : List OpenBlock) (first second : List Item) :
    walk stack (first ++ second) = (walk stack first).bind fun stack => walk stack second := by
  simp only [walk, List.foldlM_append]
  rfl

/-- Items can be read exactly if each span has one and they close every block they open. -/
theorem readItems_eq_ok_iff {stack : List OpenBlock} {spans : List Span} {items : List Item} :
    readItems stack spans = .ok items ↔ Reads spans items ∧ walk stack items = .ok [] := by
  constructor
  · intro h
    induction spans generalizing stack items with
    | nil =>
        cases stack with
        | nil =>
            cases h
            exact ⟨.nil, rfl⟩
        | cons block stack => cases h
    | cons span spans ih =>
        rw [readItems.eq_def] at h
        simp only [bind, Except.bind] at h
        cases hitem : Item.ofSpan span with
        | error fault => simp [hitem] at h
        | ok item =>
            simp only [hitem] at h
            cases hstack : item.advance stack with
            | error fault => simp [hstack] at h
            | ok next =>
                simp only [hstack] at h
                cases hrest : readItems next spans with
                | error fault => simp [hrest] at h
                | ok rest =>
                    simp only [hrest, Except.ok.injEq] at h
                    subst h
                    obtain ⟨hreads, hwalk⟩ := ih hrest
                    exact ⟨.cons hitem hreads, by simp [hstack, Except.bind, hwalk]⟩
  · rintro ⟨hreads, hwalk⟩
    induction hreads generalizing stack with
    | nil =>
        cases hwalk
        rfl
    | @cons span item spans items hitem _ ih =>
        rw [walk_cons] at hwalk
        cases hstack : item.advance stack with
        | error fault => simp [hstack, Except.bind] at hwalk
        | ok next =>
            rw [hstack] at hwalk
            rw [readItems.eq_def]
            simp [bind, Except.bind, hitem, hstack, ih hwalk]

theorem walk_singleton (stack : List OpenBlock) (item : Item) :
    walk stack [item] = item.advance stack := by
  rw [walk_cons]
  cases item.advance stack <;> rfl

theorem walk_of_texts {stack : List OpenBlock} {items : List Item}
    (h : ∀ item ∈ items, item.advance stack = .ok stack) : walk stack items = .ok stack := by
  induction items with
  | nil => rfl
  | cons item items ih =>
      rw [walk_cons, h item (by simp)]
      exact ih fun other hother => h other (List.mem_cons_of_mem item hother)

theorem walk_split (stack : List OpenBlock) (item : Item) :
    walk stack item.split = item.advance stack := by
  cases item with
  | text s =>
      apply walk_of_texts
      intro item hitem
      obtain ⟨c, -, rfl⟩ := List.mem_map.1 hitem
      rfl
  | _ => exact walk_singleton stack _

theorem walk_flatMap_split (stack : List OpenBlock) (items : List Item) :
    walk stack (items.flatMap Item.split) = walk stack items := by
  induction items generalizing stack with
  | nil => rfl
  | cons item items ih => simp [walk_split, ih]

theorem walk_content (stack : List OpenBlock) (parts : List LinePart) :
    walk stack (Line.content parts).items = .ok stack := by
  apply walk_of_texts
  intro item hitem
  obtain ⟨part, -, rfl⟩ := List.mem_map.1 hitem
  cases part <;> rfl

theorem walk_tag (stack : List OpenBlock) (tag : BlockTag) :
    walk stack (Line.tag tag).items = tag.item.advance stack :=
  walk_singleton stack tag.item

/--
Lines that begin with a tag of the innermost open block and close all open blocks, with
an outline after each closing tag.
-/
inductive Closes : List OpenBlock → List Line → Prop where
  | nothing : Closes [] []
  | forBody {stack tail} (rest : Outline) (htail : Closes stack tail) :
      Closes (.forBody :: stack) (.tag .closeFor :: (rest.lines ++ tail))
  | forBodyElse {stack tail} (ifEmpty rest : Outline) (htail : Closes stack tail) :
      Closes (.forBody :: stack)
        (.tag .otherwise :: (ifEmpty.lines ++ .tag .closeFor :: (rest.lines ++ tail)))
  | forElse {stack tail} (rest : Outline) (htail : Closes stack tail) :
      Closes (.forElse :: stack) (.tag .closeFor :: (rest.lines ++ tail))
  | ifBody {stack tail} (others : Alternatives) (rest : Outline) (htail : Closes stack tail) :
      Closes (.ifBody :: stack) (others.lines ++ .tag .closeIf :: (rest.lines ++ tail))
  | ifElse {stack tail} (rest : Outline) (htail : Closes stack tail) :
      Closes (.ifElse :: stack) (.tag .closeIf :: (rest.lines ++ tail))

/-- Lines inside open blocks: an outline, and then what closes the blocks. -/
def Continues (stack : List OpenBlock) (lines : List Line) : Prop :=
  ∃ (outline : Outline) (tail : List Line), lines = outline.lines ++ tail ∧ Closes stack tail

namespace Continues

variable {stack : List OpenBlock} {lines : List Line}

theorem of_closes (h : Closes stack lines) : Continues stack lines :=
  ⟨.done, lines, rfl, h⟩

theorem content (h : Continues stack lines) (parts : List LinePart) :
    Continues stack (.content parts :: lines) := by
  obtain ⟨outline, tail, rfl, htail⟩ := h
  exact ⟨.line parts outline, tail, rfl, htail⟩

theorem openFor (h : Continues (.forBody :: stack) lines) (name : String) (items : Expr) :
    Continues stack (.tag (.openFor name items) :: lines) := by
  obtain ⟨body, tail, rfl, htail⟩ := h
  cases htail with
  | forBody rest htail => exact ⟨.loop name items body rest, _, by simp [Outline.lines], htail⟩
  | forBodyElse ifEmpty rest htail =>
      exact ⟨.loopElse name items body ifEmpty rest, _, by simp [Outline.lines], htail⟩

theorem openIf (h : Continues (.ifBody :: stack) lines) (condition : Expr) :
    Continues stack (.tag (.openIf condition) :: lines) := by
  obtain ⟨yes, tail, rfl, htail⟩ := h
  cases htail with
  | ifBody others rest htail =>
      exact ⟨.branch condition yes others rest, _, by simp [Outline.lines], htail⟩

theorem elseIf (h : Continues (.ifBody :: stack) lines) (condition : Expr) :
    Closes (.ifBody :: stack) (.tag (.elseIf condition) :: lines) := by
  obtain ⟨block, tail, rfl, htail⟩ := h
  cases htail with
  | ifBody others rest htail =>
      simpa [Alternatives.lines] using
        Closes.ifBody (.elseIf condition block others) rest htail

theorem otherwiseFor (h : Continues (.forElse :: stack) lines) :
    Closes (.forBody :: stack) (.tag .otherwise :: lines) := by
  obtain ⟨ifEmpty, tail, rfl, htail⟩ := h
  cases htail with
  | forElse rest htail => exact .forBodyElse ifEmpty rest htail

theorem otherwiseIf (h : Continues (.ifElse :: stack) lines) :
    Closes (.ifBody :: stack) (.tag .otherwise :: lines) := by
  obtain ⟨block, tail, rfl, htail⟩ := h
  cases htail with
  | ifElse rest htail => simpa [Alternatives.lines] using Closes.ifBody (.otherwise block) rest htail

end Continues

theorem continues_of_advance {stack next : List OpenBlock} {tag : BlockTag} {lines : List Line}
    (hadvance : tag.item.advance stack = .ok next) (h : Continues next lines) :
    Continues stack (.tag tag :: lines) := by
  cases tag with
  | openFor name items =>
      cases hadvance
      exact h.openFor name items
  | openIf condition =>
      cases hadvance
      exact h.openIf condition
  | elseIf condition =>
      rcases stack with _ | ⟨_ | _ | _ | _, stack⟩ <;> cases hadvance
      exact .of_closes (h.elseIf condition)
  | otherwise =>
      rcases stack with _ | ⟨_ | _ | _ | _, stack⟩ <;> cases hadvance
      · exact .of_closes h.otherwiseFor
      · exact .of_closes h.otherwiseIf
  | closeIf =>
      obtain ⟨rest, tail, rfl, htail⟩ := h
      rcases stack with _ | ⟨_ | _ | _ | _, stack⟩ <;> cases hadvance
      · exact .of_closes (.ifBody .none rest htail)
      · exact .of_closes (.ifElse rest htail)
  | closeFor =>
      obtain ⟨rest, tail, rfl, htail⟩ := h
      rcases stack with _ | ⟨_ | _ | _ | _, stack⟩ <;> cases hadvance
      · exact .of_closes (.forBody rest htail)
      · exact .of_closes (.forElse rest htail)

theorem continues_of_walk {stack : List OpenBlock} {lines : List Line}
    (h : walk stack (lines.flatMap Line.items) = .ok []) : Continues stack lines := by
  -- The stack changes from left to right, but the outlines are put together from the right.
  induction lines generalizing stack with
  | nil =>
      cases h
      exact .of_closes .nothing
  | cons line lines ih =>
      rw [List.flatMap_cons, walk_append] at h
      cases line with
      | content parts =>
          rw [walk_content] at h
          exact (ih h).content parts
      | tag tag =>
          rw [walk_tag] at h
          cases hadvance : tag.item.advance stack with
          | error fault => simp [hadvance, Except.bind] at h
          | ok next =>
              rw [hadvance] at h
              exact continues_of_advance hadvance (ih h)

/-- Lines that are properly nested form an outline. -/
theorem exists_outline_of_walk {lines : List Line}
    (h : walk [] (lines.flatMap Line.items) = .ok []) :
    ∃ outline : Outline, outline.lines = lines := by
  obtain ⟨outline, tail, rfl, htail⟩ := continues_of_walk h
  cases htail
  exact ⟨outline, by simp⟩

mutual

theorem Outline.walk_lines : ∀ (outline : Outline) (stack : List OpenBlock),
    walk stack (outline.lines.flatMap Line.items) = .ok stack
  | .done, stack => rfl
  | .line parts rest, stack => by
      simp only [Outline.lines, List.flatMap_cons, walk_append, walk_content, Except.bind,
        rest.walk_lines]
  | .loop name items body rest, stack => by
      simp only [Outline.lines, List.flatMap_cons, List.flatMap_append, walk_append, walk_tag,
        BlockTag.item, Item.advance, Except.bind, body.walk_lines, rest.walk_lines]
  | .loopElse name items body ifEmpty rest, stack => by
      simp only [Outline.lines, List.flatMap_cons, List.flatMap_append, walk_append, walk_tag,
        BlockTag.item, Item.advance, Except.bind, body.walk_lines, ifEmpty.walk_lines,
        rest.walk_lines]
  | .branch condition yes others rest, stack => by
      obtain ⟨top, hothers, hclose⟩ := others.walk_lines stack
      have hopen : (Item.openIf condition).advance stack = .ok (.ifBody :: stack) := rfl
      simp only [Outline.lines, List.flatMap_cons, List.flatMap_append, walk_append, walk_tag,
        BlockTag.item, hopen, Except.bind, yes.walk_lines, hothers, hclose, rest.walk_lines]

/-- The lines after the first branch leave the block open, in a place where it can be closed. -/
theorem Alternatives.walk_lines : ∀ (others : Alternatives) (stack : List OpenBlock),
    ∃ top, walk (.ifBody :: stack) (others.lines.flatMap Line.items) = .ok (top :: stack) ∧
      Item.closeIf.advance (top :: stack) = .ok stack
  | .none, stack => ⟨.ifBody, rfl, rfl⟩
  | .otherwise block, stack => by
      refine ⟨.ifElse, ?_, rfl⟩
      simp only [Alternatives.lines, List.flatMap_cons, walk_append, walk_tag, BlockTag.item,
        Item.advance, Except.bind, block.walk_lines]
  | .elseIf condition block others, stack => by
      obtain ⟨top, hothers, hclose⟩ := others.walk_lines stack
      refine ⟨top, ?_, hclose⟩
      simp only [Alternatives.lines, List.flatMap_cons, List.flatMap_append, walk_append, walk_tag,
        BlockTag.item, Item.advance, Except.bind, block.walk_lines, hothers]

end

end QueryBindings.Template
