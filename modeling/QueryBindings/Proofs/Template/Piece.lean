import QueryBindings.Template.Render

/-!
# Templates in pieces

A template is a sequence of pieces, each of which ends where the next one begins.
Its text is the text of the pieces in order.  A loop leaves one text for each
item, and separated texts where its body asks which item is the last.
-/

namespace QueryBindings.Template

def ofPieces (pieces : List Template) : Template :=
  pieces.foldr append done

def said (s : String) : Template := text s done

def printed (e : Expr) : Template := output e done

def each (name : String) (items : Expr) (body : List Template) : Template :=
  forEach name items (ofPieces body) done done

def either (condition : Expr) (yes no : List Template) : Template :=
  branch condition (ofPieces yes) (ofPieces no) done

@[simp] theorem joinTexts_ok (first second : String) :
    joinTexts (.ok first) (.ok second) = .ok (first ++ second) := rfl

@[simp] theorem joinTexts_empty_right (text : Except EvalFault String) :
    joinTexts text (.ok "") = text := by
  cases text <;> simp [joinTexts, Except.bind, Except.map]

@[simp] theorem render_ofPieces_nil (scope : Scope) : render (ofPieces []) scope = .ok "" := rfl

@[simp] theorem render_ofPieces_cons (piece : Template) (rest : List Template) (scope : Scope) :
    render (ofPieces (piece :: rest)) scope =
      joinTexts (render piece scope) (render (ofPieces rest) scope) :=
  render_append piece (ofPieces rest) scope

theorem render_ofPieces_append (first second : List Template) (scope : Scope) :
    render (ofPieces (first ++ second)) scope =
      joinTexts (render (ofPieces first) scope) (render (ofPieces second) scope) := by
  induction first with
  | nil => simp
  | cons piece rest ih => simp [ih, joinTexts_assoc]

@[simp] theorem render_said (s : String) (scope : Scope) : render (said s) scope = .ok s := by
  simp [said, render]

@[simp] theorem render_printed (e : Expr) (scope : Scope) :
    render (printed e) scope = (evaluate scope e).bind Value.print := by
  simp [printed, render]

theorem render_printed_text {e : Expr} {scope : Scope} {s : String}
    (h : evaluate scope e = .ok (.text s)) : render (printed e) scope = .ok s := by
  rw [render_printed, h]
  rfl

theorem render_either {condition : Expr} {scope : Scope} {value : Value} {holds : Bool}
    (hvalue : evaluate scope condition = .ok value) (hholds : value.isTrue = .ok holds)
    (yes no : List Template) :
    render (either condition yes no) scope =
      if holds then render (ofPieces yes) scope else render (ofPieces no) scope := by
  simp [either, render, hvalue, hholds, Except.bind]

theorem withLast_map {α β : Type} (f : α → β) (items : List α) :
    withLast (items.map f) = (withLast items).map fun item => (f item.1, item.2) := by
  fun_induction withLast items with
  | case1 => rfl
  | case2 item => rfl
  | case3 item next rest ih => simpa [withLast] using ih

theorem concatItems_withLast {α : Type} {text : α × Bool → Except EvalFault String}
    {line : α → String} (items : List α)
    (h : ∀ item ∈ items, ∀ last, text (item, last) = .ok (line item)) :
    concatItems text (withLast items) = .ok (String.join (items.map line)) := by
  fun_induction withLast items with
  | case1 => simp [concatItems]
  | case2 item => simp [concatItems, h]
  | case3 item next rest ih =>
      have htail := ih fun other hother => h other (List.mem_cons_of_mem item hother)
      simp [concatItems, h item, htail]

theorem concatItems_separated {α : Type} {text : α × Bool → Except EvalFault String}
    {line : α → String} {separator final : String} (items : List α) (hitems : items ≠ [])
    (h : ∀ item ∈ items, ∀ last,
      text (item, last) = .ok (line item ++ if last then final else separator)) :
    concatItems text (withLast items) =
      .ok (separator.intercalate (items.map line) ++ final) := by
  fun_induction withLast items with
  | case1 => contradiction
  | case2 item => simp [concatItems, h]
  | case3 item next rest ih =>
      have htail := ih (by simp) fun other hother => h other (List.mem_cons_of_mem item hother)
      simp [concatItems, h item, htail, String.append_assoc]

theorem concatItems_map {α β : Type} (text : β → Except EvalFault String) (f : α → β)
    (items : List α) :
    concatItems text (items.map f) = concatItems (fun item => text (f item)) items := by
  induction items with
  | nil => rfl
  | cons item rest ih => simp [concatItems, ih]

theorem render_each {α : Type} {name : String} {items : Expr} {scope : Scope}
    {toValue : α → Value} {values : List α} (body : List Template)
    (hitems : evaluate scope items = .ok (.list (values.map toValue))) :
    render (each name items body) scope =
      concatItems
        (fun item => render (ofPieces body) (scope.forItem name (toValue item.1) item.2))
        (withLast values) := by
  have hpairs := concatItems_map
    (fun item => render (ofPieces body) (scope.forItem name item.1 item.2))
    (fun item : α × Bool => (toValue item.1, item.2)) (withLast values)
  cases values with
  | nil => simp [each, render, hitems, Except.bind, Value.items, withLast, concatItems]
  | cons first rest =>
      rw [← hpairs, ← withLast_map]
      simp [each, render, hitems, Except.bind, Value.items]

theorem render_each_lines {α : Type} (name : String) {items : Expr} {scope : Scope}
    {toValue : α → Value} {values : List α} (body : List Template) (line : α → String)
    (hitems : evaluate scope items = .ok (.list (values.map toValue)))
    (hbody : ∀ value ∈ values, ∀ last,
      render (ofPieces body) (scope.forItem name (toValue value) last) = .ok (line value)) :
    render (each name items body) scope = .ok (String.join (values.map line)) := by
  rw [render_each body hitems]
  exact concatItems_withLast values hbody

theorem render_each_separated {α : Type} {name : String} {items : Expr} {scope : Scope}
    {toValue : α → Value} {values : List α} {body : List Template} {line : α → String}
    (separator final : String) (hvalues : values ≠ [])
    (hitems : evaluate scope items = .ok (.list (values.map toValue)))
    (hbody : ∀ value ∈ values, ∀ last,
      render (ofPieces body) (scope.forItem name (toValue value) last) =
        .ok (line value ++ if last then final else separator)) :
    render (each name items body) scope =
      .ok (separator.intercalate (values.map line) ++ final) := by
  rw [render_each body hitems]
  exact concatItems_separated values hvalues hbody

namespace Scope

/-- A scope in which the variables of an outer scope still have their values. -/
def Extends (scope outer : Scope) : Prop :=
  ∀ name value, outer.lookup name = some value → scope.lookup name = some value

theorem Extends.refl (scope : Scope) : scope.Extends scope :=
  fun _ _ h => h

theorem Extends.forItem {scope outer : Scope} (h : scope.Extends outer) {name : String}
    (hname : outer.lookup name = none) (hloop : outer.lookup "loop" = none) (item : Value)
    (last : Bool) : (scope.forItem name item last).Extends outer := by
  intro other value hvalue
  have hne : (other == name) = false := by
    apply beq_eq_false_iff_ne.2
    rintro rfl
    simp [hname] at hvalue
  have hne' : (other == "loop") = false := by
    apply beq_eq_false_iff_ne.2
    rintro rfl
    simp [hloop] at hvalue
  simpa [Scope.forItem, List.lookup_cons, hne, hne'] using h other value hvalue

theorem Extends.evaluate_ref {scope outer : Scope} (h : scope.Extends outer) {name : String}
    {value : Value} (hvalue : outer.lookup name = some value) :
    evaluate scope (.ref name) = .ok value := by
  simp [evaluate, h name value hvalue]

end Scope

end QueryBindings.Template
