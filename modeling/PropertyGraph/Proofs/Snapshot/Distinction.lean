import PropertyGraph.Proofs.Snapshot.Matching
import PropertyGraph.Proofs.Value.Bracketing
import PropertyGraph.Proofs.Value.Scalar

/-!
# What a snapshot cannot confuse

A snapshot keeps texts, and two values may have one text: a string stands there as it is, so it can
look like anything, and bytes look like a list of numbers.  Nothing else is confused.  A value that
is built from other scalars by lists is the only one of its kind with its text, and no value with a
floating-point number anywhere in it has that text.  So a snapshot sees every change of such a value
into another one, or of a part of it into a floating-point number.

This takes it that a clock shows nanoseconds that run on as those of second sixty, so that they
come after second fifty-nine (`Value.LeapsAtSixty`).  After another second they have the text of
the second after it.

* `shown_eq_of_text` — what is shown of values over scalars can be told from what is shown of all
  values over scalars and numbers;
* `eq_of_text_eq` — where leap seconds are shown as second sixty, so can the values themselves;
* `TextMap.matchesLive_insert_iff` — a snapshot sees a changed property iff its text changes;
* `text_tells_values_apart` — hence it sees every change of a value over scalars.
-/

namespace PropertyGraph

namespace Value

/-- Scalars can be told from each other and from numbers before the end of a list or of the text. -/
theorem legible_text :
    Legible (fun v => v.text.toList) Scalar ScalarOrFloat MarkAhead where
  list := brackets_text
  sub := fun _ => .scalar
  head := by
    intro v hv
    obtain ⟨c, rest, htext, hmark⟩ := hv.text_head
    exact ⟨c, rest, htext, ne_of_isMark hmark rfl, ne_of_isMark hmark rfl⟩
  apart := fun _ _ _ _ => Scalar.append_inj
  close := by simp [MarkAhead, isMark]
  next := by simp [MarkAhead, isMark]

/-- Values over scalars are shown alike if they have one text, and no value with a number in it has
the text of one. -/
theorem shown_eq_of_text {v w : Value} (hv : Built Scalar v) (hw : Built ScalarOrFloat w)
    (h : v.text = w.text) : v.shown = w.shown := by
  have hend : MarkAhead [] := by simp [MarkAhead]
  exact legible_text.shown_eq_of_render hv hw hend (congrArg String.toList h)

/-- **A value over scalars is the only value over scalars and numbers with its text**, as long as
nanoseconds run on after second fifty-nine alone. -/
theorem eq_of_text_eq {v w : Value} (hv : Built Scalar v) (hw : Built ScalarOrFloat w)
    (hvs : v.LeapsAtSixty) (hws : w.LeapsAtSixty) (h : v.text = w.text) : v = w := by
  rw [← shown_eq_self_iff.2 hvs, shown_eq_of_text hv hw h, shown_eq_self_iff.2 hws]

end Value

/-- A snapshot sees a changed property iff its text changes. -/
theorem TextMap.matchesLive_insert_iff {m : TextMap} {live : PropertyMap} {key : String}
    {v w : Value} (h : m.matchesLive live = true) (hv : live.get? key = some v) :
    m.matchesLive (live.insert key w) = true ↔ w.text = v.text := by
  obtain rfl := (m.matchesLive_iff_eq live).1 h
  have hold : ∀ i, (ofLive live).get? i = (live.get? i).map Value.text :=
    OrderedMap.get?_map Value.text live
  have hnew : ∀ i, (ofLive (live.insert key w)).get? i =
      (if i = key then some w else live.get? i).map Value.text := by
    intro i
    rw [ofLive, OrderedMap.get?_map, OrderedMap.get?_insert]
  rw [matchesLive_iff_eq]
  constructor
  · intro heq
    have hkey := congrArg (fun texts => texts.get? key) heq
    simp only [hold, hnew, hv, if_pos, Option.map_some, Option.some.injEq] at hkey
    exact hkey.symm
  · intro htext
    refine OrderedMap.ext_get? fun i => ?_
    rw [hold, hnew]
    by_cases hi : i = key
    · rw [if_pos hi, hi, hv, Option.map_some, Option.map_some, htext]
    · rw [if_neg hi]

open Value in
/-- **The texts of snapshots tell values over scalars apart.**  Two such values have one text only
if they are the same, no floating-point number has the text of one, and a snapshot that matches live
properties does not match them any more after one of these values is replaced by another one, or by
a value with a floating-point number in it.  Leap seconds are taken to be shown as second sixty. -/
theorem text_tells_values_apart :
    (∀ v w, Built Scalar v → Built Scalar w → v.LeapsAtSixty → w.LeapsAtSixty →
        v.text = w.text → v = w) ∧
      (∀ x v, Built Scalar v → (Value.float x).text ≠ v.text) ∧
      ∀ (m : TextMap) (live : PropertyMap) (key : String) (v w : Value),
        m.matchesLive live = true → live.get? key = some v → Built Scalar v →
          Built ScalarOrFloat w → v.LeapsAtSixty → w.LeapsAtSixty → w ≠ v →
            m.matchesLive (live.insert key w) = false := by
  refine ⟨?scalars, ?number, ?changed⟩
  case scalars =>
    intro v w hv hw hvs hws h
    exact eq_of_text_eq hv (hw.mono fun _ => .scalar) hvs hws h
  case number =>
    intro x v hv h
    have hshown : v.shown = .float x := shown_eq_of_text hv (.leaf (.float x)) h.symm
    cases hv with
    | leaf hscalar => cases hscalar <;> cases hshown
    | list _ => cases hshown
  case changed =>
    intro m live key v w hmatches hlive hv hw hvs hws hne
    rw [Bool.eq_false_iff]
    intro hagain
    have htext := (TextMap.matchesLive_insert_iff hmatches hlive).1 hagain
    exact hne (eq_of_text_eq hv hw hvs hws htext.symm).symm

/-- A time within a leap second. -/
def leapSecond : Timestamp :=
  ⟨⟨2016, 12, 31, by decide⟩, ⟨23, 59, 59, 1250000000, by decide⟩⟩

/-- An element before a list with a timestamp. -/
def beside (v t : Value) : Value := .list [v, .list [.null, t]]

theorem built_beside {leaf : Value → Prop} {v t : Value} (hv : leaf v) (hnull : leaf .null)
    (ht : leaf t) : Value.Built leaf (beside v t) := by
  have hinner : Value.Built leaf (.list [.null, t]) := by
    refine .list ?_
    simp only [List.forall_mem_cons]
    exact ⟨.leaf hnull, .leaf ht, by simp⟩
  refine .list ?_
  simp only [List.forall_mem_cons]
  exact ⟨.leaf hv, hinner, by simp⟩

open Value in
theorem leapSecond_told_apart :
    let v := beside (.int 2) (.dateTime leapSecond)
    let u := beside (.int 2) (.localDateTime leapSecond)
    let w := beside (.float ⟨0x4000000000000000⟩) (.dateTime leapSecond)
    let live : PropertyMap := OrderedMap.empty.insert "seen" v
    Built Scalar v ∧ Built Scalar u ∧ v.LeapsAtSixty ∧ u.LeapsAtSixty ∧ v.text ≠ u.text ∧
      (Value.float ⟨0x4000000000000000⟩).text ≠ (Value.int 2).text ∧
      (TextMap.ofLive live).matchesLive live = true ∧ live.get? "seen" = some v ∧
      Built ScalarOrFloat w ∧ w.LeapsAtSixty ∧ w ≠ v ∧
      (TextMap.ofLive live).matchesLive (live.insert "seen" w) = false := by
  intro v u w live
  have hv : Built Scalar v := built_beside (.int 2) .null (.dateTime _)
  have hu : Built Scalar u := built_beside (.int 2) .null (.localDateTime _)
  have hw : Built ScalarOrFloat w := built_beside (.float _) (.scalar .null) (.scalar (.dateTime _))
  have hvs : v.LeapsAtSixty := by decide
  have hus : u.LeapsAtSixty := by decide
  have hws : w.LeapsAtSixty := by decide
  have hvu : v ≠ u := by simp [v, u, beside]
  have hwv : w ≠ v := by simp [v, w, beside]
  have hmatches : (TextMap.ofLive live).matchesLive live = true :=
    (TextMap.matchesLive_iff_eq _ _).2 rfl
  have hget : live.get? "seen" = some v := by simp [live, OrderedMap.get?_insert]
  obtain ⟨hscalars, hnumber, hchanged⟩ := text_tells_values_apart
  exact ⟨hv, hu, hvs, hus, fun h => hvu (hscalars v u hv hu hvs hus h),
    hnumber _ _ (.leaf (.int 2)), hmatches, hget, hw, hws, hwv,
    hchanged _ live "seen" v w hmatches hget hv hw hvs hws hwv⟩

end PropertyGraph
