import Mathlib.Data.List.Basic
import PropertyGraph.Value.Leaves
import PropertyGraph.Value.Text

/-!
# The two texts differ inside strings, numbers and bytes alone

The text of a value for snapshots and its text for people come about in two recursions.  Still
they are put together from the same pieces.  Brackets, commas and the leaves that have one text
only stand in both at the same places; between these pieces stand the strings, the floating-point
numbers and the bytes of the value, which each text writes in its own way.  A number inside a
point is not among these: it belongs to the text of the point.

So a value without strings, floating-point numbers and bytes has one text.

* `hasOwnTexts` — the leaves that have two texts;
* `pieces` — what both texts are put together from;
* `Rendering.eq_written` — a text that writes lists in brackets is put together from the pieces;
* `own_pieces` — the pieces that each text writes in its own way are the leaves that have two texts;
* `texts_differ_inside_own_leaves` — the main statement.
-/

namespace PropertyGraph

namespace Value

/-! ## Leaves -/

/-- The kinds of leaves that each of the two texts writes in its own way. -/
def hasOwnTexts : Value → Bool
  | .string _ => true
  | .float _ => true
  | .bytes _ => true
  | _ => false

/-- A leaf of any other kind has one text. -/
theorem text_eq_display_of_leaf {v : Value} (hleaf : ∀ vs, v ≠ .list vs)
    (hown : v.hasOwnTexts = false) : v.text = v.display := by
  cases v with
  | list vs => exact absurd rfl (hleaf vs)
  | string s => cases hown
  | float x => cases hown
  | bytes bs => cases hown
  | _ => rfl

/-! ## Pieces -/

/-- A piece of the texts of a value: characters that stand in both of them, or a leaf that each of
them writes in its own way. -/
inductive Piece where
  | fixed (s : String)
  | own (v : Value)

namespace Piece

/-- The piece in a text that writes values with `render`. -/
def written (render : Value → String) : Piece → String
  | fixed s => s
  | own v => render v

/-- The leaf of a piece that is not fixed. -/
def own? : Piece → Option Value
  | fixed _ => none
  | own v => some v

end Piece

/-- Pieces one after the other, in a text that writes values with `render`. -/
def written (render : Value → String) (ps : List Piece) : String :=
  String.join (ps.map (Piece.written render))

/-- The piece that a leaf is. -/
def leafPiece (v : Value) : Piece := if v.hasOwnTexts then .own v else .fixed v.display

mutual

/-- The pieces of the texts of a value: a list has brackets around it, and commas between the pieces
of its elements. -/
def pieces : Value → List Piece
  | .list vs => .fixed "[" :: ([.fixed ", "].intercalate (piecesOfEach vs) ++ [.fixed "]"])
  | leaf => [leafPiece leaf]

/-- The pieces of each of several values. -/
def piecesOfEach : List Value → List (List Piece)
  | [] => []
  | v :: vs => pieces v :: piecesOfEach vs

end

theorem pieces_list (vs : List Value) :
    pieces (.list vs) =
      .fixed "[" :: ([.fixed ", "].intercalate (vs.map pieces) ++ [.fixed "]"]) := by
  have heach : piecesOfEach vs = vs.map pieces := by
    induction vs with
    | nil => rfl
    | cons v vs ih => rw [piecesOfEach, ih, List.map_cons]
  rw [pieces, heach]

theorem pieces_leaf {v : Value} (h : ∀ vs, v ≠ .list vs) : pieces v = [leafPiece v] := by
  cases v with
  | list vs => exact absurd rfl (h vs)
  | _ => rfl

section Written

variable (render : Value → String)

theorem written_cons (p : Piece) (ps : List Piece) :
    written render (p :: ps) = p.written render ++ written render ps := by
  simp [written]

theorem written_append (ps qs : List Piece) :
    written render (ps ++ qs) = written render ps ++ written render qs := by
  simp [written]

/-- What stands between pieces stands between what they are written as. -/
theorem written_intercalate (between : Piece) (groups : List (List Piece)) :
    written render ([between].intercalate groups) =
      (between.written render).intercalate (groups.map (written render)) := by
  induction groups with
  | nil => simp [written]
  | cons ps groups ih =>
    cases groups with
    | nil => simp
    | cons qs groups =>
      rw [List.intercalate_cons_cons, written_append, written_append, ih]
      simp [written]

end Written

/-! ## Texts from pieces -/

/-- A text that writes lists in brackets, and leaves with one text by that text. -/
structure Rendering (render : Value → String) : Prop where
  list : ∀ vs, render (.list vs) = bracketed (vs.map render)
  leaf : ∀ v, (∀ vs, v ≠ .list vs) → v.hasOwnTexts = false → render v = v.display

theorem rendering_text : Rendering text where
  list := text_list
  leaf := fun _ => text_eq_display_of_leaf

theorem rendering_display : Rendering display where
  list := display_list
  leaf := fun _ _ _ => rfl

/-- **A text is put together from the pieces**, each leaf with two texts as this text writes it. -/
theorem Rendering.eq_written {render : Value → String} (h : Rendering render) (v : Value) :
    render v = written render v.pieces := by
  induction v using tree_induction with
  | list vs ih =>
    have helements : vs.map render = (vs.map pieces).map (written render) := by
      rw [List.map_map]
      exact List.map_congr_left ih
    rw [h.list, pieces_list, written_cons, written_append, written_intercalate, helements]
    simp [bracketed, Piece.written, written, String.append_assoc]
  | leaf v hleaf =>
    rw [pieces_leaf hleaf, leafPiece]
    cases hown : v.hasOwnTexts with
    | true => simp [written, Piece.written]
    | false => simp [written, Piece.written, h.leaf v hleaf hown]

theorem own_intercalate (s : String) (groups : List (List Piece)) :
    ([Piece.fixed s].intercalate groups).filterMap Piece.own? =
      groups.flatMap fun ps => ps.filterMap Piece.own? := by
  induction groups with
  | nil => rfl
  | cons ps groups ih =>
    cases groups with
    | nil => simp
    | cons qs groups =>
      rw [List.intercalate_cons_cons, List.filterMap_append, List.filterMap_append, ih]
      simp [Piece.own?]

/-- **The pieces that each text writes in its own way are the leaves that have two texts**, from
left to right. -/
theorem own_pieces (v : Value) :
    v.pieces.filterMap Piece.own? = v.leaves.filter hasOwnTexts := by
  induction v using tree_induction with
  | list vs ih =>
    rw [pieces_list, leaves_list, List.filter_flatMap]
    calc (Piece.fixed "[" :: ([Piece.fixed ", "].intercalate (vs.map pieces) ++
            [Piece.fixed "]"])).filterMap Piece.own?
        = ([Piece.fixed ", "].intercalate (vs.map pieces)).filterMap Piece.own? := by
          simp only [List.filterMap_cons, List.filterMap_append, Piece.own?, List.filterMap_nil,
            List.append_nil]
      _ = vs.flatMap fun v => v.pieces.filterMap Piece.own? := by
          rw [own_intercalate, List.flatMap_map]
      _ = vs.flatMap fun v => v.leaves.filter hasOwnTexts := List.flatMap_congr ih
  | leaf v hleaf =>
    rw [pieces_leaf hleaf, leaves_leaf hleaf, leafPiece]
    cases hown : v.hasOwnTexts <;> simp [Piece.own?, hown]

/-- Fixed pieces are written alike in all texts. -/
theorem written_eq_of_fixed {ps : List Piece} (h : ps.filterMap Piece.own? = [])
    (render other : Value → String) : written render ps = written other ps := by
  induction ps with
  | nil => rfl
  | cons p ps ih =>
    cases p with
    | fixed s =>
      rw [written_cons, written_cons, ih h]
      rfl
    | own v => cases h

/-- **The two texts of a value differ inside its strings, its floating-point numbers and its bytes
alone.**  A value without any of these has one text.  Both texts write a list as the texts of its
elements in brackets with commas between them.  So both are put together from the same pieces, and
the pieces that are not fixed are, from left to right, the strings, the numbers and the bytes. -/
theorem texts_differ_inside_own_leaves :
    (∀ v : Value, (∀ leaf ∈ v.leaves, leaf.hasOwnTexts = false) → v.text = v.display) ∧
      (∀ vs : List Value, (Value.list vs).text = bracketed (vs.map text) ∧
        (Value.list vs).display = bracketed (vs.map display)) ∧
      ∀ v : Value, v.text = written text v.pieces ∧ v.display = written display v.pieces ∧
        v.pieces.filterMap Piece.own? = v.leaves.filter hasOwnTexts := by
  refine ⟨?alike, fun vs => ⟨text_list vs, display_list vs⟩, ?pieces⟩
  case alike =>
    intro v hleaves
    have hnone : v.leaves.filter hasOwnTexts = [] := by
      rw [List.filter_eq_nil_iff]
      intro leaf hleaf
      rw [hleaves leaf hleaf]
      exact Bool.false_ne_true
    have hfixed : v.pieces.filterMap Piece.own? = [] := (own_pieces v).trans hnone
    calc v.text = written text v.pieces := rendering_text.eq_written v
      _ = written display v.pieces := written_eq_of_fixed hfixed text display
      _ = v.display := (rendering_display.eq_written v).symm
  case pieces =>
    intro v
    exact ⟨rendering_text.eq_written v, rendering_display.eq_written v, own_pieces v⟩

/-- A point and a day, in lists. -/
def surveyed : Value :=
  .list [.point 7203 ⟨0x3ff8000000000000⟩ ⟨0xbfd0000000000000⟩,
    .list [.date ⟨2013, 5, 1, by decide⟩, .null], .list []]

theorem surveyed_has_one_text :
    (∀ leaf ∈ surveyed.leaves, leaf.hasOwnTexts = false) ∧ surveyed.text = surveyed.display ∧
      (Value.list [.string "x", surveyed, .bytes [7]]).text =
        bracketed [(Value.string "x").text, surveyed.display, (Value.bytes [7]).text] ∧
      (Value.list [.string "x", surveyed, .bytes [7]]).pieces.filterMap Piece.own? =
        [.string "x", .bytes [7]] := by
  obtain ⟨halike, hlists, hpieces⟩ := texts_differ_inside_own_leaves
  have hleaves : ∀ leaf ∈ surveyed.leaves, leaf.hasOwnTexts = false := by
    simp [surveyed, leaves, leavesOfEach, hasOwnTexts]
  have hone : surveyed.text = surveyed.display := halike surveyed hleaves
  refine ⟨hleaves, hone, ?_, (hpieces _).2.2⟩
  rw [(hlists _).1, ← hone]
  rfl

end Value

end PropertyGraph
