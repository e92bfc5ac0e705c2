import PropertyGraph.Value.Clock

/-!
# Nested lists are read in one way

A list is written as the texts of its elements in square brackets with commas between them, to any
depth.  Where an element ends is nowhere said: it must follow from what the elements are.  It does
if the texts of the leaves, the values that are no lists, can be told from each other whatever
comes after them, or if at least what is shown of the leaves can.  What can come after an element
is a condition on texts that the format decides; it holds of the rest of a list, so the elements
are found one after the other, and with the last of them the list ends.

* `Built` — the values that are built from some leaves by lists;
* `Legible` — leaves can be told from each other before everything that can follow them;
* `Legible.append_inj` — then so can all values that are built from them.
-/

namespace PropertyGraph

/-! ## Texts in brackets -/

/-- What follows an element of a list: the elements after it, the closing bracket and a rest. -/
def afterElement : List (List Char) → List Char → List Char
  | [], rest => ']' :: rest
  | item :: items, rest => ',' :: ' ' :: (item ++ afterElement items rest)

theorem intercalate_append_afterElement (item : List Char) (items : List (List Char))
    (rest : List Char) :
    [',', ' '].intercalate (item :: items) ++ ']' :: rest = item ++ afterElement items rest := by
  induction items generalizing item with
  | nil => rw [List.intercalate_singleton, afterElement]
  | cons next items ih =>
    rw [List.intercalate_cons_cons, List.append_assoc, ih next]
    simp [afterElement]

theorem toList_bracketed (items : List String) :
    (bracketed items).toList =
      '[' :: ([',', ' '].intercalate (items.map String.toList) ++ [']']) := by
  simp [bracketed, String.toList_intercalate]

namespace Value

/-! ## Values over leaves -/

/-- The values that are built by lists from those of a kind. -/
inductive Built (leaf : Value → Prop) : Value → Prop
  | leaf {v : Value} : leaf v → Built leaf v
  | list {vs : List Value} : (∀ v ∈ vs, Built leaf v) → Built leaf (.list vs)

theorem Built.mono {leaf other : Value → Prop} (sub : ∀ v, leaf v → other v) {v : Value}
    (h : Built leaf v) : Built other v := by
  induction h with
  | leaf hleaf => exact .leaf (sub _ hleaf)
  | list _ ih => exact .list ih

/-- A format writes a list as its elements in brackets. -/
def Brackets (render : Value → List Char) : Prop :=
  ∀ vs, render (.list vs) = '[' :: ([',', ' '].intercalate (vs.map render) ++ [']'])

namespace Brackets

variable {render : Value → List Char} (h : Brackets render)

include h

theorem render_nil (r : List Char) : render (.list []) ++ r = '[' :: ']' :: r := by
  rw [h]
  rfl

theorem render_cons (v : Value) (vs : List Value) (r : List Char) :
    render (.list (v :: vs)) ++ r = '[' :: (render v ++ afterElement (vs.map render) r) := by
  rw [h, List.map_cons, List.cons_append, List.append_assoc, ← intercalate_append_afterElement]
  rfl

end Brackets

theorem brackets_text : Brackets fun v => v.text.toList := by
  intro vs
  simp [text_list, toList_bracketed, Function.comp_def]

theorem brackets_display : Brackets fun v => v.display.toList := by
  intro vs
  simp [display_list, toList_bracketed, Function.comp_def]

/-- The leaves of a format can be told from those of a larger kind, before every text that can
follow an element. -/
structure Legible (render : Value → List Char) (leaf other : Value → Prop)
    (CanFollow : List Char → Prop) : Prop where
  list : Brackets render
  sub : ∀ v, leaf v → other v
  head : ∀ v, other v → ∃ c rest, render v = c :: rest ∧ c ≠ '[' ∧ c ≠ ']'
  apart : ∀ v w r s, leaf v → other w → CanFollow r → CanFollow s →
    render v ++ r = render w ++ s → v.shown = w.shown ∧ r = s
  close : ∀ r, CanFollow r → CanFollow (']' :: r)
  next : ∀ v r, Built other v → CanFollow r → CanFollow (',' :: ' ' :: (render v ++ r))

namespace Legible

variable {render : Value → List Char} {leaf other : Value → Prop} {CanFollow : List Char → Prop}
  (h : Legible render leaf other CanFollow)

include h

/-- A text does not begin with the bracket that would close the list around it. -/
theorem head_built {v : Value} (hv : Built other v) :
    ∃ c rest, render v = c :: rest ∧ c ≠ ']' := by
  cases hv with
  | leaf hleaf =>
    obtain ⟨c, rest, htext, _, hclose⟩ := h.head v hleaf
    exact ⟨c, rest, htext, hclose⟩
  | list _ => exact ⟨'[', _, h.list _, by decide⟩

/-- The rest of a list can follow an element. -/
theorem canFollow_afterElement {vs : List Value} (hvs : ∀ v ∈ vs, Built other v) {r : List Char}
    (hr : CanFollow r) : CanFollow (afterElement (vs.map render) r) := by
  induction vs with
  | nil => exact h.close r hr
  | cons v vs ih =>
    have hrest := ih fun w hw => hvs w (List.mem_cons_of_mem v hw)
    exact h.next v _ (hvs v List.mem_cons_self) hrest

/-- A leaf is not read as a list, nor a list as a leaf. -/
theorem leaf_ne_list {v : Value} (hv : other v) (ws : List Value) (r s : List Char) :
    render v ++ r ≠ render (.list ws) ++ s := by
  obtain ⟨c, rest, htext, hopen, _⟩ := h.head v hv
  rw [htext, h.list]
  intro heq
  exact hopen (List.cons.inj heq).1

/-- Elements that can be told from others are found one after the other. -/
theorem elements_inj {vs ws : List Value} {r s : List Char}
    (ih : ∀ v ∈ vs, ∀ w r s, Built other w → CanFollow r → CanFollow s →
      render v ++ r = render w ++ s → v.shown = w.shown ∧ r = s)
    (hvs : ∀ v ∈ vs, Built other v) (hws : ∀ w ∈ ws, Built other w)
    (hr : CanFollow r) (hs : CanFollow s)
    (heq : afterElement (vs.map render) r = afterElement (ws.map render) s) :
    vs.map shown = ws.map shown ∧ r = s := by
  induction vs generalizing ws with
  | nil =>
    cases ws with
    | nil => exact ⟨rfl, (List.cons.inj heq).2⟩
    | cons w ws => exact absurd (List.cons.inj heq).1 (by decide)
  | cons v vs ihvs =>
    cases ws with
    | nil => exact absurd (List.cons.inj heq).1 (by decide)
    | cons w ws =>
      simp only [List.forall_mem_cons] at ih hvs hws
      simp only [List.map_cons, afterElement, List.cons.injEq, true_and] at heq
      obtain ⟨hhead, hrest⟩ := ih.1 w _ _ hws.1 (h.canFollow_afterElement hvs.2 hr)
        (h.canFollow_afterElement hws.2 hs) heq
      obtain ⟨htail, hend⟩ := ihvs ih.2 hvs.2 hws.2 hrest
      exact ⟨by rw [List.map_cons, List.map_cons, hhead, htail], hend⟩

/-- Lists with the same text have the same first elements or none, so their elements can be read as
if a comma stood before each of them. -/
theorem afterElement_eq_of_lists {vs ws : List Value} (hvs : ∀ v ∈ vs, Built other v)
    (hws : ∀ w ∈ ws, Built other w) {r s : List Char}
    (heq : render (.list vs) ++ r = render (.list ws) ++ s) :
    afterElement (vs.map render) r = afterElement (ws.map render) s := by
  -- An element does not begin with the bracket that closes an empty list.
  have hmixed : ∀ {v : Value} (vs : List Value) (r s : List Char), Built other v →
      render (.list (v :: vs)) ++ r ≠ render (.list []) ++ s := by
    intro v vs r s hv
    obtain ⟨c, rest, htext, hclose⟩ := h.head_built hv
    rw [h.list.render_nil, h.list.render_cons, htext]
    intro heq
    exact hclose (List.cons.inj (List.cons.inj heq).2).1
  cases vs with
  | nil =>
    cases ws with
    | nil =>
      rw [h.list.render_nil, h.list.render_nil] at heq
      exact (List.cons.inj heq).2
    | cons w ws => exact absurd heq.symm (hmixed ws s r (hws w List.mem_cons_self))
  | cons v vs =>
    cases ws with
    | nil => exact absurd heq (hmixed vs r s (hvs v List.mem_cons_self))
    | cons w ws =>
      rw [h.list.render_cons, h.list.render_cons] at heq
      simp only [List.map_cons, afterElement, (List.cons.inj heq).2]

/-- **What is shown of values over legible leaves can be told from each other**, and it can be told
where they end. -/
theorem append_inj {v w : Value} {r s : List Char} (hv : Built leaf v) (hw : Built other w)
    (hr : CanFollow r) (hs : CanFollow s) (heq : render v ++ r = render w ++ s) :
    v.shown = w.shown ∧ r = s := by
  -- The induction follows the first value; where it is a list, so is the second.
  induction hv generalizing w r s with
  | @leaf v hleaf =>
    cases hw with
    | leaf hother => exact h.apart v w r s hleaf hother hr hs heq
    | list _ => exact absurd heq (h.leaf_ne_list (h.sub v hleaf) _ r s)
  | @list vs hvs ih =>
    cases hw with
    | leaf hother => exact absurd heq.symm (h.leaf_ne_list hother vs s r)
    | @list ws hws =>
      have hbuilt : ∀ v ∈ vs, Built other v := fun v hv => (hvs v hv).mono h.sub
      have helements := h.afterElement_eq_of_lists hbuilt hws heq
      obtain ⟨hlists, hend⟩ := h.elements_inj (fun v hv w r s hw hr hs => ih v hv hw hr hs)
        hbuilt hws hr hs helements
      exact ⟨by rw [shown_list, shown_list, hlists], hend⟩

/-- Values over legible leaves with one text are shown alike. -/
theorem shown_eq_of_render {v w : Value} (hv : Built leaf v) (hw : Built other w)
    (hend : CanFollow []) (heq : render v = render w) : v.shown = w.shown :=
  (h.append_inj hv hw hend hend (congrArg (· ++ []) heq)).1

end Legible

end Value

end PropertyGraph
