import PropertyGraph.Json.Record
import PropertyGraph.Json.Snapshot
import PropertyGraph.Proofs.Snapshot.Matching
import PropertyGraph.Text.ByteOrder
import Std.Data.HashSet

/-!
# Snapshots are their contents

A snapshot keeps neither the id nor the history of what it was made from.  Whichever way a snapshot
of a node was made — from a live node, from listed labels, from another snapshot or from a text — it
has the labels that were given at first, each once and in the order of their bytes.  A set has one
such list.  So everything that can be asked of two snapshots, whether they are equal, whether one
matches the other, how they are printed or written, and whether a hashed set tells them apart, is
decided by their labels and texts.  Relationships have a type in place of labels.

* `NodeSnapshot.Made` — the ways to make a snapshot, one after the other;
* `NodeSnapshot.exists_listsLabels` — a text that is read as a snapshot lists its labels once;
* `NodeSnapshot.Made.mem_labels` — a snapshot has the labels that it was given;
* `TextMap.ofLive_eq_iff` — when two live elements have the same texts;
* `snapshots_are_contents` — the main statement, for both kinds of snapshots.
-/

namespace PropertyGraph

open Json

/-! ## Where the labels of a snapshot come from -/

namespace NodeSnapshot

/-- A tree lists the labels of a snapshot: under `labels` in an object, and first in an array. -/
def ListsLabels (labels : List String) : Tree → Prop
  | .object members => members.Has "labels" (Document.strings labels).tree
  | .array (.cons head _) => head = (Document.strings labels).tree
  | _ => False

/-- The snapshots that can be made, each with the labels that it was given at first. -/
inductive Made : List String → NodeSnapshot → Prop
  | ofNode (n : Node) : Made n.labels (.ofNode n)
  | ofNodeWith (n : Node) (properties : TextMap) : Made n.labels (.ofNodeWith n properties)
  | make (labels : List String) (properties : TextMap) : Made labels (.make labels properties)
  | copy {labels : List String} {s : NodeSnapshot} : Made labels s → Made labels s.copy
  | read {labels : List String} {text : String} {s : NodeSnapshot} :
      decodeText decoder text = .ok s → ListsLabels labels (Reading.ofText text).tree →
      Made labels s
  | reread {labels : List String} {s t : NodeSnapshot} :
      Made labels s → decodeText decoder s.document.text = .ok t → Made labels t

theorem component_labels : Component fields "labels" (readList readText) Prod.fst where
  isField := by simp [fields]
  own := by simp +contextual [fields]
  other := by simp +contextual [fields]

/-- The labels of an object that is read as a snapshot. -/
theorem labels_of_members {depth : Nat} {members : Members} {labels : List String}
    {properties : TextMap}
    (h : readFieldMembers fields false depth [] ([], .empty) members = .ok (labels, properties)) :
    members.Has "labels" (Document.strings labels).tree ∧
      ∀ others, members.Has "labels" (Document.strings others).tree → others = labels := by
  have hhas := component_labels.has_strings ⟨_, List.mem_cons_self, rfl, rfl⟩ h
  refine ⟨hhas, fun others hothers => ?_⟩
  have hread := component_labels.eq_of_has members [] _ h hothers
  exact strings_injective (Document.tree_injective (readList_text_iff.1 hread).2)

/-- The labels of an array that is read as a snapshot: its first item, as no later one sets them. -/
theorem labels_of_items {depth : Nat} {items : Items} {labels : List String}
    {properties : TextMap}
    (h : readFieldItems depth fields ([], .empty) items = .ok (labels, properties)) :
    ∃ tail, items = .cons (Document.strings labels).tree tail := by
  obtain ⟨head, tail, r, rfl, hset, hrest⟩ := exists_of_readFieldItems rfl h
  obtain ⟨names, hnames, rfl⟩ := set_reading.1 hset
  have hlabels : labels = names := by
    refine readFieldItems_keeps Prod.fst ?_ hrest
    simp +contextual
  rw [hlabels, ← (readList_text_iff.1 hnames).2]
  exact ⟨tail, rfl⟩

/-- **A tree that is read as a snapshot lists its labels**, and it lists them once. -/
theorem exists_listsLabels {depth : Nat} {t : Tree} {s : NodeSnapshot}
    (h : decoder depth t = .ok s) :
    ∃ labels, ListsLabels labels t ∧ (∀ others, ListsLabels others t → others = labels) ∧
      s.labels = .ofList labels := by
  rw [decoder] at h
  cases hread : readRecord fields false ([], .empty) depth t with
  | error fault => simp [hread, Except.map] at h
  | ok parts =>
    obtain ⟨labels, properties⟩ := parts
    rw [hread] at h
    obtain rfl := Except.ok.inj h
    unfold readRecord at hread
    split at hread
    · obtain ⟨tail, rfl⟩ := labels_of_items hread
      refine ⟨labels, rfl, fun others hothers => ?_, rfl⟩
      exact (strings_injective (Document.tree_injective hothers)).symm
    · obtain ⟨hlists, hunique⟩ := labels_of_members hread
      exact ⟨labels, hlists, hunique, rfl⟩
    · cases hread

/-- The labels of a text that spells a document are those that the document lists. -/
theorem Made.of_spells {labels : List String} {text : String} {s : NodeSnapshot} {d : Document}
    (hspells : SpellsPadded d text.toList) (hread : decodeText decoder text = .ok s)
    (hlists : ListsLabels labels d.tree) : Made labels s := by
  refine .read hread ?_
  rw [ofText_of_spells hspells]
  exact hlists

/-- **A snapshot has the labels that it was given**, whatever was done to it since. -/
theorem Made.mem_labels {labels : List String} {s : NodeSnapshot} (h : Made labels s) :
    ∀ label, label ∈ s.labels ↔ label ∈ labels := by
  induction h with
  | ofNode n => exact OrderedSet.mem_ofList n.labels
  | ofNodeWith n properties => exact OrderedSet.mem_ofList n.labels
  | make labels properties => exact OrderedSet.mem_ofList labels
  | copy _ ih =>
    rw [copy_eq]
    exact ih
  | read hread hlists =>
    obtain ⟨given, -, hunique, hlabels⟩ := exists_listsLabels (decodeText_iff.1 hread).1
    rw [hunique _ hlists, hlabels]
    exact OrderedSet.mem_ofList given
  | @reread labels s t _ hread ih =>
    rw [decodeText_text] at hread
    obtain ⟨given, -, hunique, hlabels⟩ := exists_listsLabels hread
    have hwritten : ListsLabels s.labels.toList s.document.tree :=
      has_memberTrees.2 ⟨_, List.mem_cons_self, rfl⟩
    intro label
    rw [hlabels, ← hunique _ hwritten, OrderedSet.mem_ofList]
    exact ih label

/-- Two snapshots with the same labels and the same text for every key. -/
structure SameContents (a b : NodeSnapshot) : Prop where
  labels : ∀ label, label ∈ a.labels ↔ label ∈ b.labels
  texts : ∀ key, a.properties.get? key = b.properties.get? key

theorem eq_iff_sameContents (a b : NodeSnapshot) : a = b ↔ a.SameContents b := by
  constructor
  · rintro rfl
    exact ⟨fun _ => Iff.rfl, fun _ => rfl⟩
  · intro h
    have hlabels : a.labels = b.labels := OrderedSet.ext_mem h.labels
    have hproperties : a.properties = b.properties := OrderedMap.ext_get? h.texts
    cases a
    cases b
    simp_all

theorem matchesSnapshot_iff (a b : NodeSnapshot) : a.matchesSnapshot b = true ↔ a = b := by
  cases a
  cases b
  simp [matchesSnapshot]

end NodeSnapshot

namespace RelationshipSnapshot

/-- Two snapshots with the same type and the same text for every key. -/
structure SameContents (a b : RelationshipSnapshot) : Prop where
  type : a.type = b.type
  texts : ∀ key, a.properties.get? key = b.properties.get? key

theorem eq_iff_sameContents (a b : RelationshipSnapshot) : a = b ↔ a.SameContents b := by
  constructor
  · rintro rfl
    exact ⟨rfl, fun _ => rfl⟩
  · intro h
    have htype : a.type = b.type := h.type
    have hproperties : a.properties = b.properties := OrderedMap.ext_get? h.texts
    cases a
    cases b
    simp_all

theorem matchesSnapshot_iff (a b : RelationshipSnapshot) :
    a.matchesSnapshot b = true ↔ a = b := by
  cases a
  cases b
  simp [matchesSnapshot]

end RelationshipSnapshot

/-! ## Snapshots of live elements -/

/-- Live properties that read alike: the same keys, with the same text for each. -/
structure PropertyMap.SameTexts (a b : PropertyMap) : Prop where
  keys : ∀ key, key ∈ a.keys ↔ key ∈ b.keys
  texts : ∀ key v w, a.get? key = some v → b.get? key = some w → v.text = w.text

theorem TextMap.ofLive_eq_iff (a b : PropertyMap) : ofLive a = ofLive b ↔ a.SameTexts b := by
  constructor
  · intro h
    have hget : ∀ key, (a.get? key).map Value.text = (b.get? key).map Value.text := by
      intro key
      rw [← OrderedMap.get?_map, ← OrderedMap.get?_map]
      exact congrArg (OrderedMap.get? · key) h
    constructor
    · intro key
      have hsome := congrArg Option.isSome (hget key)
      rw [Option.isSome_map, Option.isSome_map] at hsome
      rw [OrderedMap.mem_keys_iff, OrderedMap.mem_keys_iff, hsome]
    · intro key v w hv hw
      have htext := hget key
      rw [hv, hw] at htext
      exact Option.some.inj htext
  · intro h
    refine OrderedMap.ext_get? fun key => ?_
    have hkey := h.keys key
    rw [OrderedMap.mem_keys_iff, OrderedMap.mem_keys_iff] at hkey
    rw [ofLive, ofLive, OrderedMap.get?_map, OrderedMap.get?_map]
    cases hv : a.get? key with
    | none =>
      cases hw : b.get? key with
      | none => rfl
      | some w => simp [hv, hw] at hkey
    | some v =>
      cases hw : b.get? key with
      | none => simp [hv, hw] at hkey
      | some w => exact congrArg some (h.texts key v w hv hw)

theorem NodeSnapshot.ofNode_eq_iff (n n' : Node) :
    NodeSnapshot.ofNode n = .ofNode n' ↔
      (∀ label, label ∈ n.labels ↔ label ∈ n'.labels) ∧ n.properties.SameTexts n'.properties := by
  simp only [ofNode, ofNodeWith, make, NodeSnapshot.mk.injEq, TextMap.ofLive_eq_iff]
  refine and_congr ?_ Iff.rfl
  constructor
  · intro h label
    rw [← OrderedSet.mem_ofList n.labels, h, OrderedSet.mem_ofList]
  · intro h
    refine OrderedSet.ext_mem fun label => ?_
    rw [OrderedSet.mem_ofList, OrderedSet.mem_ofList]
    exact h label

theorem RelationshipSnapshot.ofRelationship_eq_iff (r r' : Relationship) :
    RelationshipSnapshot.ofRelationship r = .ofRelationship r' ↔
      r.type = r'.type ∧ r.properties.SameTexts r'.properties := by
  simp only [ofRelationship, ofRelationshipWith, RelationshipSnapshot.mk.injEq,
    TextMap.ofLive_eq_iff]

/-! ## Identity -/

/-- Snapshots of one kind are their contents: equality, matching from either side, the texts, copies
and hashed sets all go by the contents alone. -/
structure IdentifiedBy {α : Type} [BEq α] [Hashable α] (Same : α → α → Prop)
    (matchesSnapshot : α → α → Bool) (display : α → String) (document : α → Document)
    (copy : α → α) : Prop where
  eq_iff_same : ∀ a b, a = b ↔ Same a b
  eq_iff_matches : ∀ a b, a = b ↔ matchesSnapshot a b = true
  eq_iff_matched : ∀ a b, a = b ↔ matchesSnapshot b a = true
  display_eq : ∀ a b, Same a b → display a = display b
  text_eq : ∀ a b, Same a b → (document a).text = (document b).text
  copy_eq : ∀ a, copy a = a
  /-- a hashed set holds one element for each class of its members -/
  hashed : ∀ l : List α,
    (∀ a, (∃ e ∈ (Std.HashSet.ofList l).toList, Same e a) ↔ ∃ e ∈ l, Same e a) ∧
      (Std.HashSet.ofList l).toList.Pairwise fun a b => ¬ Same a b

theorem identifiedBy_of_eq_iff {α : Type} [BEq α] [LawfulBEq α] [Hashable α]
    {Same : α → α → Prop} {matchesSnapshot : α → α → Bool} {copy : α → α}
    (display : α → String) (document : α → Document) (hsame : ∀ a b, a = b ↔ Same a b)
    (hmatches : ∀ a b, matchesSnapshot a b = true ↔ a = b) (hcopy : ∀ a, copy a = a) :
    IdentifiedBy Same matchesSnapshot display document copy where
  eq_iff_same := hsame
  eq_iff_matches := fun a b => (hmatches a b).symm
  eq_iff_matched := fun a b => eq_comm.trans (hmatches b a).symm
  display_eq := fun a b h => congrArg display ((hsame a b).2 h)
  text_eq := fun a b h => congrArg (fun s => (document s).text) ((hsame a b).2 h)
  copy_eq := hcopy
  hashed := by
    intro l
    constructor
    · intro a
      simp only [Std.HashSet.mem_toList, Std.HashSet.mem_ofList, List.contains_iff_mem]
    · refine Std.HashSet.distinct_toList.imp fun {a b} hne hab => ?_
      rw [(hsame a b).2 hab] at hne
      simp at hne

/-- **Snapshots are their contents.**  However a snapshot of a node was made, its labels are those
that it was given, in the strict order of their bytes; so two snapshots are the same just if they
were given the same labels and have the same text for every key. -/
theorem snapshots_are_contents :
    (∀ labels s, NodeSnapshot.Made labels s →
        s.labels.toList.Pairwise (fun a b => utf8Bytes a < utf8Bytes b) ∧
          ∀ label, label ∈ s.labels.toList ↔ label ∈ labels) ∧
      (∀ text s, decodeText NodeSnapshot.decoder text = .ok s →
        ∃ labels, NodeSnapshot.ListsLabels labels (Reading.ofText text).tree) ∧
      (∀ labels others a b, NodeSnapshot.Made labels a → NodeSnapshot.Made others b →
        (a = b ↔ (∀ label, label ∈ labels ↔ label ∈ others) ∧
          ∀ key, a.properties.get? key = b.properties.get? key)) ∧
      IdentifiedBy NodeSnapshot.SameContents NodeSnapshot.matchesSnapshot NodeSnapshot.display
        NodeSnapshot.document NodeSnapshot.copy ∧
      (∀ n n' : Node, NodeSnapshot.ofNode n = .ofNode n' ↔
        (∀ label, label ∈ n.labels ↔ label ∈ n'.labels) ∧
          n.properties.SameTexts n'.properties) ∧
      IdentifiedBy RelationshipSnapshot.SameContents RelationshipSnapshot.matchesSnapshot
        RelationshipSnapshot.display RelationshipSnapshot.document RelationshipSnapshot.copy ∧
      (∀ r r' : Relationship, RelationshipSnapshot.ofRelationship r = .ofRelationship r' ↔
        r.type = r'.type ∧ r.properties.SameTexts r'.properties) := by
  refine ⟨?_, ?_, ?_, ?_, NodeSnapshot.ofNode_eq_iff, ?_,
    RelationshipSnapshot.ofRelationship_eq_iff⟩
  · intro labels s hmade
    exact ⟨s.labels.increasing.imp fun h => (utf8Bytes_lt_iff _ _).2 h, hmade.mem_labels⟩
  · intro text s hread
    obtain ⟨labels, hlists, -⟩ := NodeSnapshot.exists_listsLabels (decodeText_iff.1 hread).1
    exact ⟨labels, hlists⟩
  · intro labels others a b ha hb
    rw [NodeSnapshot.eq_iff_sameContents]
    constructor
    · intro h
      refine ⟨fun label => ?_, h.texts⟩
      rw [← ha.mem_labels, h.labels, hb.mem_labels]
    · intro h
      obtain ⟨hlabels, htexts⟩ := h
      refine ⟨fun label => ?_, htexts⟩
      rw [ha.mem_labels, hlabels, hb.mem_labels]
  · exact identifiedBy_of_eq_iff _ _ NodeSnapshot.eq_iff_sameContents
      NodeSnapshot.matchesSnapshot_iff NodeSnapshot.copy_eq
  · exact identifiedBy_of_eq_iff _ _ RelationshipSnapshot.eq_iff_sameContents
      RelationshipSnapshot.matchesSnapshot_iff fun _ => rfl

/-- An object with a member that is no field, and labels out of order of which one is repeated. -/
def mixedLabels : Document := .object [("note", .null), ("labels", .strings ["b", "a", "b"])]

theorem snapshot_of_mixedLabels :
    decodeText NodeSnapshot.decoder mixedLabels.text = .ok (.make ["b", "a", "b"] .empty) ∧
      (NodeSnapshot.make ["b", "a", "b"] .empty).labels.toList.Pairwise
        (fun a b => utf8Bytes a < utf8Bytes b) ∧
      NodeSnapshot.make ["b", "a", "b"] .empty = .ofNode ⟨⟨7⟩, ["a", "b"], .empty⟩ := by
  have hread : decodeText NodeSnapshot.decoder mixedLabels.text =
      .ok (.make ["b", "a", "b"] .empty) := by
    rw [decodeText_text]
    rfl
  have hmade : NodeSnapshot.Made ["b", "a", "b"] (.make ["b", "a", "b"] .empty) :=
    .of_spells (Document.spells_text mixedLabels) hread (Or.inr (Or.inl ⟨rfl, rfl⟩))
  obtain ⟨hincreasing, -, hsame, -⟩ := snapshots_are_contents
  refine ⟨hread, (hincreasing _ _ hmade).1, ?_⟩
  refine (hsame _ _ _ _ hmade (.ofNode ⟨⟨7⟩, ["a", "b"], .empty⟩)).2 ⟨fun label => ?_, fun _ => rfl⟩
  simp only [List.mem_cons, List.not_mem_nil, or_false]
  constructor
  · rintro (rfl | rfl | rfl) <;> simp
  · rintro (rfl | rfl) <;> simp

end PropertyGraph
