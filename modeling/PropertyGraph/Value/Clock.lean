import PropertyGraph.Value.Leaves
import PropertyGraph.Value.Text

/-!
# Values as their texts show them

Both texts of a value show each timestamp in it as a clock does.  So they cannot say more of a value
than `Value.shown` keeps: the value with the timestamps that clocks show.  This is the value itself,
unless the nanoseconds of a timestamp in it run on after a second other than fifty-nine.

* `shown`, `shown_list`, `shown_leaf` — what is shown of a value;
* `shown_eq_self_iff` — it is the value itself just if all its leap seconds are those of a clock;
* `text_shown`, `display_shown` — it has the texts of the value.
-/

namespace PropertyGraph

namespace Value

/-! ## What is shown -/

mutual

/-- The value with the timestamps that clocks show. -/
def shown : Value → Value
  | .list vs => .list (shownEach vs)
  | .dateTime t => .dateTime t.shown
  | .localDateTime t => .localDateTime t.shown
  | leaf => leaf

/-- What is shown of several values. -/
def shownEach : List Value → List Value
  | [] => []
  | v :: vs => shown v :: shownEach vs

end

theorem shownEach_eq_map (vs : List Value) : shownEach vs = vs.map shown := by
  induction vs with
  | nil => rfl
  | cons v vs ih => rw [shownEach, ih, List.map_cons]

theorem shown_list (vs : List Value) : shown (.list vs) = .list (vs.map shown) := by
  rw [shown, shownEach_eq_map]

/-! ## Timestamps -/

/-- The timestamp that a value is. -/
def timestamp? : Value → Option Timestamp
  | .dateTime t => some t
  | .localDateTime t => some t
  | _ => none

/-- The timestamps in a value, from left to right. -/
def timestamps (v : Value) : List Timestamp := v.leaves.filterMap timestamp?

/-- In all timestamps of the value, the nanoseconds run on after second fifty-nine alone. -/
def LeapsAtSixty (v : Value) : Prop := ∀ t ∈ v.timestamps, t.LeapsAtSixty

instance (v : Value) : Decidable v.LeapsAtSixty :=
  inferInstanceAs (Decidable (∀ t ∈ v.timestamps, t.LeapsAtSixty))

theorem leapsAtSixty_list {vs : List Value} :
    LeapsAtSixty (.list vs) ↔ ∀ v ∈ vs, v.LeapsAtSixty := by
  have htimestamps : timestamps (.list vs) = vs.flatMap timestamps := by
    rw [timestamps, leaves_list, List.filterMap_flatMap]
    rfl
  simp only [LeapsAtSixty, htimestamps, List.mem_flatMap]
  constructor
  · intro h v hv t ht
    exact h t ⟨v, hv, ht⟩
  · rintro h t ⟨v, hv, ht⟩
    exact h v hv t ht

theorem leapsAtSixty_leaf {v : Value} (h : ∀ vs, v ≠ .list vs) :
    v.LeapsAtSixty ↔ ∀ t ∈ v.timestamp?, t.LeapsAtSixty := by
  rw [LeapsAtSixty, timestamps, leaves_leaf h]
  cases htimestamp : v.timestamp? <;> simp [htimestamp]

/-- **A value is shown as it is just if all its leap seconds come after second fifty-nine.** -/
theorem shown_eq_self_iff {v : Value} : v.shown = v ↔ v.LeapsAtSixty := by
  induction v using tree_induction with
  | list vs ih =>
    have hmap : vs.map shown = vs ↔ ∀ v ∈ vs, v.shown = v := by
      have heach : vs.map shown = vs.map id ↔ ∀ v ∈ vs, v.shown = id v := List.map_inj_left
      rwa [List.map_id] at heach
    rw [shown_list, leapsAtSixty_list, Value.list.injEq, hmap]
    exact forall₂_congr ih
  | leaf v hleaf =>
    rw [leapsAtSixty_leaf hleaf]
    cases v with
    | list vs => exact absurd rfl (hleaf vs)
    | dateTime t => simp [shown, timestamp?, Timestamp.shown_eq_self_iff]
    | localDateTime t => simp [shown, timestamp?, Timestamp.shown_eq_self_iff]
    | _ => simp [shown, timestamp?]

/-! ## Texts -/

/-- A text that writes lists in brackets is one of what is shown if it is so for leaves. -/
theorem render_shown {render : Value → String}
    (hlist : ∀ vs, render (.list vs) = bracketed (vs.map render))
    (hleaf : ∀ v, (∀ vs, v ≠ .list vs) → render v.shown = render v) (v : Value) :
    render v.shown = render v := by
  induction v using tree_induction with
  | list vs ih =>
    have helements : (vs.map shown).map render = vs.map render := by
      rw [List.map_map]
      exact List.map_congr_left ih
    rw [shown_list, hlist, hlist, helements]
  | leaf v hv => exact hleaf v hv

/-- **What is shown of a value has its text for people.** -/
theorem display_shown (v : Value) : v.shown.display = v.display := by
  refine render_shown display_list (fun v hleaf => ?_) v
  cases v with
  | list vs => exact absurd rfl (hleaf vs)
  | dateTime t => simp [shown, display, Timestamp.chars_shown]
  | localDateTime t => simp [shown, display, Timestamp.chars_shown]
  | _ => rfl

/-- **What is shown of a value has its text for snapshots.** -/
theorem text_shown (v : Value) : v.shown.text = v.text := by
  refine render_shown text_list (fun v hleaf => ?_) v
  cases v with
  | list vs => exact absurd rfl (hleaf vs)
  | dateTime t => exact display_shown (.dateTime t)
  | localDateTime t => exact display_shown (.localDateTime t)
  | _ => rfl

end Value

end PropertyGraph
