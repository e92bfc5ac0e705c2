import PropertyGraph.Snapshot.Node
import PropertyGraph.Snapshot.Relationship

/-!
# Matching a live element is comparing with a fresh snapshot

Whether a snapshot matches a live element is decided without taking a second snapshot: the keys are
counted and each live key is looked up.  The look-ups go in one direction only.  That no text is
left over follows from the count, since the keys of a map are different from each other.

* `TextMap.matchesLive_iff_eq`, `TextMap.eq_ofLive_iff` — texts match live properties iff they are
  the texts of these properties, that is, iff they have the same keys and the text of each value;
* `matches_iff_eq_fresh` — the same for snapshots of nodes and of relationships.
-/

namespace PropertyGraph

namespace TextMap

/-- The look-ups of the matcher, one for each live property. -/
theorem matchesLive_iff_get? (m : TextMap) (live : PropertyMap) :
    m.matchesLive live = true ↔
      live.size = m.size ∧ ∀ key v, live.get? key = some v → m.get? key = some v.text := by
  simp only [matchesLive, Bool.and_eq_true, beq_iff_eq, List.all_eq_true, Prod.forall,
    OrderedMap.mem_entries_iff]

/-- **Texts match live properties iff they are their texts.** -/
theorem matchesLive_iff_eq (m : TextMap) (live : PropertyMap) :
    m.matchesLive live = true ↔ m = ofLive live := by
  have hsize : (ofLive live).size = live.size := by simp [ofLive, OrderedMap.map, OrderedMap.size]
  rw [matchesLive_iff_get?]
  constructor
  · intro h
    obtain ⟨hcount, hlook⟩ := h
    refine (OrderedMap.eq_of_size_le (fun key text htext => ?_) (by omega)).symm
    rw [ofLive, OrderedMap.get?_map] at htext
    obtain ⟨v, hv, rfl⟩ := Option.map_eq_some_iff.1 htext
    exact hlook key v hv
  · rintro rfl
    refine ⟨hsize.symm, fun key v hv => ?_⟩
    rw [ofLive, OrderedMap.get?_map, hv, Option.map_some]

/-- The texts of live properties have their keys, each with the text of its value. -/
theorem eq_ofLive_iff (m : TextMap) (live : PropertyMap) :
    m = ofLive live ↔
      (∀ key, key ∈ m.keys ↔ key ∈ live.keys) ∧
        ∀ key v, live.get? key = some v → m.get? key = some v.text := by
  constructor
  · rintro rfl
    refine ⟨fun key => ?_, fun key v hv => ?_⟩
    · rw [OrderedMap.mem_keys_iff, OrderedMap.mem_keys_iff, ofLive, OrderedMap.get?_map,
        Option.isSome_map]
    · rw [ofLive, OrderedMap.get?_map, hv, Option.map_some]
  · intro h
    obtain ⟨hkeys, hlook⟩ := h
    refine OrderedMap.ext_get? fun key => ?_
    rw [ofLive, OrderedMap.get?_map]
    cases hv : live.get? key with
    | some v => exact hlook key v hv
    | none =>
      have habsent : key ∉ m.keys := by simp [hkeys, OrderedMap.mem_keys_iff, hv]
      simpa [OrderedMap.mem_keys_iff] using habsent

end TextMap

/-- **A snapshot matches a live element iff it is the snapshot of that element**, however the
snapshot was made and in whatever order the element lists its labels.  The texts that match live
properties are those with the live keys and the text of each live value. -/
theorem matches_iff_eq_fresh :
    (∀ (s : NodeSnapshot) (n : Node), s.matchesNode n = true ↔ s = .ofNode n) ∧
      (∀ (s : RelationshipSnapshot) (r : Relationship),
        s.matchesRelationship r = true ↔ s = .ofRelationship r) ∧
      ∀ (m : TextMap) (live : PropertyMap),
        m.matchesLive live = true ↔
          (∀ key, key ∈ m.keys ↔ key ∈ live.keys) ∧
            ∀ key v, live.get? key = some v → m.get? key = some v.text := by
  refine ⟨fun s n => ?_, fun s r => ?_, fun m live => ?_⟩
  · obtain ⟨labels, properties⟩ := s
    simp only [NodeSnapshot.matchesNode, Bool.and_eq_true, decide_eq_true_eq,
      TextMap.matchesLive_iff_eq, NodeSnapshot.ofNode, NodeSnapshot.ofNodeWith, NodeSnapshot.make,
      NodeSnapshot.mk.injEq]
    rw [eq_comm (a := labels)]
  · obtain ⟨type, properties⟩ := s
    simp only [RelationshipSnapshot.matchesRelationship, Bool.and_eq_true, beq_iff_eq,
      TextMap.matchesLive_iff_eq, RelationshipSnapshot.ofRelationship,
      RelationshipSnapshot.ofRelationshipWith, RelationshipSnapshot.mk.injEq]
  · rw [TextMap.matchesLive_iff_eq, TextMap.eq_ofLive_iff]

end PropertyGraph
