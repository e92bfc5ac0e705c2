import PropertyGraph.Json.Element
import PropertyGraph.Json.Record
import PropertyGraph.Proofs.Json.ValueText

/-!
# Nodes and relationships are read back from JSON

The text of an element holds its ids, its labels or its type and ends, and its properties.  Nothing
depends on the order in which these are written, and properties are held in a map that may hand them
out in any order.  So an element has many texts; each of them is read as that element, with every id
in full range, the labels in their order with their repetitions, and every property under its key.
Timestamps among the properties are read as clocks show them.

As with values, two things are refused: a property with a number that is not finite, and contents
that are nested deeper than a reader goes.  An element takes one level, its properties another, and
what is left is for the values.

* `PropertyMap.shown`, `Node.shown`, `Relationship.shown` — elements as their texts show them;
* `PropertyMap.decoder_iff` — properties come back as they are shown if each value does;
* `PropertyMap.survive_iff` — an element survives just if each of its values fits what is left;
* `Node.decoder_iff`, `Relationship.decoder_iff` — an element is read part by part, whatever the
  order of the parts;
* `elements_come_back` — the main statement, for the texts.
-/

namespace PropertyGraph

open Json

/-! ## Ids -/

theorem readUnsignedNumber_unsigned (n : UInt64) (depth : Nat) :
    readUnsignedNumber depth (Document.unsigned n).tree = .ok n := by
  simp only [Document.unsigned, Document.int, Document.tree, readUnsignedNumber, readNumber,
    Numeral.toUnsigned?_toNat, orUnreadable]

theorem NodeId.decoder_document (id : NodeId) (depth : Nat) :
    NodeId.decoder depth id.document.tree = .ok id := by
  rw [decoder, document, readUnsignedNumber_unsigned, Except.map]

theorem RelationshipId.decoder_document (id : RelationshipId) (depth : Nat) :
    RelationshipId.decoder depth id.document.tree = .ok id := by
  rw [decoder, document, readUnsignedNumber_unsigned, Except.map]

theorem nesting_strings (texts : List String) : (Document.strings texts).nesting = 1 := by
  have hitems : Document.itemNesting (texts.map .string) ≤ 0 := by
    rw [Document.itemNesting_le_iff]
    intro d hd
    obtain ⟨text, -, rfl⟩ := List.mem_map.1 hd
    exact Nat.le_refl 0
  rw [Document.strings, Document.nesting, Nat.le_zero.1 hitems]

/-! ## Properties -/

theorem Value.mem_floatsEach_iff {x : Binary64} {vs : List Value} :
    x ∈ floatsEach vs ↔ ∃ v ∈ vs, x ∈ v.floats := by
  induction vs with
  | nil => simp [floatsEach]
  | cons v vs ih => simp [floatsEach, ih]

namespace PropertyMap

/-- The floating-point numbers in properties. -/
def floats (m : PropertyMap) : List Binary64 := Value.floatsEach m.values

theorem mem_floats_iff {x : Binary64} {m : PropertyMap} :
    x ∈ floats m ↔ ∃ e ∈ m.entries, x ∈ e.2.floats := by
  simp only [floats, Value.mem_floatsEach_iff, OrderedMap.values, List.mem_map,
    exists_exists_and_eq_and]

/-- The object of pairs of a key and a value. -/
def listed (pairs : List (String × Value)) : Document :=
  .object (pairs.map fun (k, v) => (k, v.document))

/-- Properties as their texts show them. -/
def shown (m : PropertyMap) : PropertyMap := OrderedMap.map Value.shown m

/-- In all timestamps among the properties, the nanoseconds run on after second fifty-nine alone. -/
def LeapsAtSixty (m : PropertyMap) : Prop := ∀ v ∈ m.values, v.LeapsAtSixty

instance (m : PropertyMap) : Decidable (LeapsAtSixty m) :=
  inferInstanceAs (Decidable (∀ v ∈ m.values, v.LeapsAtSixty))

theorem shown_eq_self_iff {m : PropertyMap} : shown m = m ↔ LeapsAtSixty m := by
  rw [shown, OrderedMap.map_eq_self_iff]
  exact forall₂_congr fun v _ => Value.shown_eq_self_iff

/-- **Properties come back as they are shown if each of their values does**, in whatever order they
are listed. -/
theorem decoder_iff {m : PropertyMap} (hread : Value.FiniteReadBack (floats m))
    {pairs : List (String × Value)} (hpairs : pairs.Perm m.entries) {depth : Nat}
    {m' : PropertyMap} :
    decoder (depth + 1) (listed pairs).tree = .ok m' ↔
      (∀ e ∈ m.entries, Value.Fits depth e.2) ∧ m' = shown m := by
  have hvalue : ∀ e ∈ pairs, ∀ v,
      Value.decoder depth e.2.document.tree = .ok v ↔ Value.Fits depth e.2 ∧ v = e.2.shown := by
    intro e he v
    have hfloats : Value.FiniteReadBack e.2.floats := fun x hx =>
      hread x (mem_floats_iff.2 ⟨e, hpairs.mem_iff.1 he, hx⟩)
    rw [Value.decoder, Value.readValue_document false depth e.2 hfloats]
    by_cases hfits : Value.Fits depth e.2 <;> simp [hfits, eq_comm]
  rw [decoder, listed, Document.tree, readMap_object_iff]
  simp only [gives_written_iff hvalue, hpairs.mem_iff]
  have hfill : OrderedMap.ofList (pairs.map fun e => (e.1, e.2.shown)) = shown m :=
    OrderedMap.ofList_of_perm (hpairs.map _)
  constructor
  · intro h
    obtain ⟨others, ⟨hfits, hothers⟩, hm⟩ := h
    rw [hm, hothers, hfill]
    exact ⟨hfits, rfl⟩
  · intro h
    obtain ⟨hfits, hm⟩ := h
    exact ⟨_, ⟨hfits, rfl⟩, hm.trans hfill.symm⟩

/-- The values of properties fit just if their numbers are finite and the object that lists them is
not nested too deep. -/
theorem fit_iff {m : PropertyMap} {pairs : List (String × Value)} (hpairs : pairs.Perm m.entries)
    {depth : Nat} :
    (∀ e ∈ m.entries, Value.Fits depth e.2) ↔
      Value.AllFinite (floats m) ∧ (listed pairs).nesting ≤ depth + 1 := by
  simp only [listed, Document.nesting, Nat.succ_le_succ_iff, Document.memberNesting_le_iff,
    List.forall_mem_map, hpairs.mem_iff, Value.Fits, Value.AllFinite]
  constructor
  · intro h
    refine ⟨fun x hx => ?_, fun e he => (h e he).2⟩
    obtain ⟨e, he, hmem⟩ := mem_floats_iff.1 hx
    exact (h e he).1 x hmem
  · intro h e he
    exact ⟨fun x hx => h.1 x (mem_floats_iff.2 ⟨e, he, hx⟩), h.2 e he⟩

/-- An element with these properties survives being written as this document and read again: its
numbers are finite, and the document is not nested too deep. -/
def Survive (m : PropertyMap) (d : Document) : Prop :=
  Value.AllFinite (floats m) ∧ d.nesting ≤ nestingLimit

/-- **Whether an element survives is a matter of its values**: no other part of it is nested deeper
than a list of texts. -/
theorem survive_iff {m : PropertyMap} {pairs : List (String × Value)}
    (hpairs : pairs.Perm m.entries) {ms : List (String × Document)}
    (hlisted : ("properties", listed pairs) ∈ ms)
    (hothers : ∀ part ∈ ms, part.2 ≠ listed pairs → part.2.nesting ≤ 1) :
    Survive m (.object ms) ↔ ∀ e ∈ m.entries, Value.Fits 125 e.2 := by
  rw [fit_iff hpairs, Survive]
  refine and_congr_right fun _ => ?_
  -- Of 127 levels the element takes one and the object of its properties another.
  show Document.memberNesting ms + 1 ≤ 126 + 1 ↔ _
  rw [Nat.succ_le_succ_iff, Document.memberNesting_le_iff]
  constructor
  · intro h
    exact h _ hlisted
  · intro h part hpart
    by_cases hsame : part.2 = listed pairs
    · rw [hsame]
      exact h
    · exact Nat.le_trans (hothers part hpart hsame) (by decide)

end PropertyMap

/-! ## Texts that come back -/

/-- What is written comes back if it survives, and if it does not nothing is read. -/
structure ComesBack {α : Type} (decoder : Decoder α) (d : Document) (a : α) (survives : Prop) :
    Prop where
  read : survives → decodeText decoder d.text = .ok a
  refused : ¬ survives → ∃ fault, decodeText decoder d.text = .error fault

theorem comesBack_of_iff {α : Type} {decoder : Decoder α} {d : Document} {a : α} {survives : Prop}
    (h : ∀ b, decoder nestingLimit d.tree = .ok b ↔ survives ∧ b = a) :
    ComesBack decoder d a survives := by
  constructor
  · intro hsurvives
    rw [decodeText_text, h]
    exact ⟨hsurvives, rfl⟩
  · intro hno
    rw [decodeText_text]
    cases hread : decoder nestingLimit d.tree with
    | ok b => exact absurd ((h b).1 hread).1 hno
    | error fault => exact ⟨fault, rfl⟩

/-! ## Nodes -/

namespace Node

/-- The node as its texts show it. -/
def shown (n : Node) : Node := { n with properties := PropertyMap.shown n.properties }

theorem shown_eq_self_iff {n : Node} : n.shown = n ↔ PropertyMap.LeapsAtSixty n.properties := by
  rw [← PropertyMap.shown_eq_self_iff]
  constructor
  · exact congrArg Node.properties
  · intro hproperties
    rw [shown, hproperties]

/-- A node is written as an object of its parts, which stand in any order, and so do its
properties. -/
inductive WrittenAs (n : Node) : Document → Prop
  | object {pairs : List (String × Value)} {ms : List (String × Document)} :
      pairs.Perm n.properties.entries →
      ms.Perm [("id", n.id.document), ("labels", .strings n.labels),
        ("properties", PropertyMap.listed pairs)] →
      WrittenAs n (.object ms)

theorem writtenAs_document (n : Node) : n.WrittenAs n.document :=
  .object (List.Perm.refl n.properties.entries) (List.Perm.refl _)

theorem component_id : Component fields "id" NodeId.decoder id where
  isField := by simp [fields]
  own := by simp +contextual [fields]
  other := by simp +contextual [fields]

theorem component_labels : Component fields "labels" (readList readText) labels where
  isField := by simp [fields]
  own := by simp +contextual [fields]
  other := by simp +contextual [fields]

theorem component_properties :
    Component fields "properties" PropertyMap.decoder properties where
  isField := by simp [fields]
  own := by simp +contextual [fields]
  other := by simp +contextual [fields]

/-- **A node is read part by part**, whatever the order of the parts. -/
theorem decoder_iff {ms : List (String × Document)} {dId dLabels dProperties : Document}
    (hms : ms.Perm [("id", dId), ("labels", dLabels), ("properties", dProperties)]) {depth : Nat}
    {n : Node} :
    decoder (depth + 1) (Document.object ms).tree = .ok n ↔
      NodeId.decoder depth dId.tree = .ok n.id ∧
        readList readText depth dLabels.tree = .ok n.labels ∧
        PropertyMap.decoder depth dProperties.tree = .ok n.properties := by
  refine readRecord_parts_iff (fields.zip [dId, dLabels, dProperties])
    (fun n => NodeId.decoder depth dId.tree = .ok n.id ∧
      readList readText depth dLabels.tree = .ok n.labels ∧
      PropertyMap.decoder depth dProperties.tree = .ok n.properties)
    (by simp [fields]) (by simp [fields, steady_reading]) hms ?_ ?_ ?_
  · intro n hn
    exact ⟨component_id.eq_of_mem hn (hms.mem_iff.2 (by simp)),
      component_labels.eq_of_mem hn (hms.mem_iff.2 (by simp)),
      component_properties.eq_of_mem hn (hms.mem_iff.2 (by simp))⟩
  · intro n m h h'
    obtain ⟨id, labels, properties⟩ := n
    have hid : id = m.id := Except.ok.inj (h.1.symm.trans h'.1)
    have hlabels : labels = m.labels := Except.ok.inj (h.2.1.symm.trans h'.2.1)
    have hproperties : properties = m.properties := Except.ok.inj (h.2.2.symm.trans h'.2.2)
    rw [hid, hlabels, hproperties]
  · intro n h
    simp only [fields, List.zip_cons_cons, List.zip_nil_right, List.forall_mem_cons,
      accepts_reading]
    exact ⟨⟨_, h.1⟩, ⟨_, h.2.1⟩, ⟨_, h.2.2⟩, nofun⟩

theorem WrittenAs.decoder_iff {n : Node} {d : Document} (h : n.WrittenAs d)
    (hread : Value.FiniteReadBack (PropertyMap.floats n.properties)) (m : Node) :
    decoder nestingLimit d.tree = .ok m ↔ n.properties.Survive d ∧ m = n.shown := by
  obtain @⟨pairs, ms, hpairs, hms⟩ := h
  have hid : n.id.document.nesting = 0 := rfl
  have hsurvive := PropertyMap.survive_iff hpairs (hms.mem_iff.2 (by simp)) (by
    simp +contextual [hms.mem_iff, hid, nesting_strings])
  rw [hsurvive, nestingLimit, Node.decoder_iff hms, NodeId.decoder_document, readList_text_iff,
    PropertyMap.decoder_iff hread hpairs]
  constructor
  · intro h
    obtain ⟨hid, ⟨-, hlabels⟩, hfits, hproperties⟩ := h
    have hsame : n.labels = m.labels := strings_injective (Document.tree_injective hlabels)
    obtain ⟨id, labels, properties⟩ := m
    cases hid
    cases hsame
    cases hproperties
    exact ⟨hfits, rfl⟩
  · intro h
    obtain ⟨hfits, rfl⟩ := h
    exact ⟨rfl, ⟨by decide, rfl⟩, hfits, rfl⟩

end Node

/-! ## Relationships -/

namespace Relationship

/-- The relationship as its texts show it. -/
def shown (r : Relationship) : Relationship :=
  { r with properties := PropertyMap.shown r.properties }

theorem shown_eq_self_iff {r : Relationship} :
    r.shown = r ↔ PropertyMap.LeapsAtSixty r.properties := by
  rw [← PropertyMap.shown_eq_self_iff]
  constructor
  · exact congrArg Relationship.properties
  · intro hproperties
    rw [shown, hproperties]

/-- A relationship is written as an object of its parts, which stand in any order, and so do its
properties. -/
inductive WrittenAs (r : Relationship) : Document → Prop
  | object {pairs : List (String × Value)} {ms : List (String × Document)} :
      pairs.Perm r.properties.entries →
      ms.Perm [("id", r.id.document), ("src", r.source.document), ("dst", r.target.document),
        ("rel_type", .string r.type), ("properties", PropertyMap.listed pairs)] →
      WrittenAs r (.object ms)

theorem writtenAs_document (r : Relationship) : r.WrittenAs r.document :=
  .object (List.Perm.refl r.properties.entries) (List.Perm.refl _)

theorem component_id : Component fields "id" RelationshipId.decoder id where
  isField := by simp [fields]
  own := by simp +contextual [fields]
  other := by simp +contextual [fields]

theorem component_source : Component fields "src" NodeId.decoder source where
  isField := by simp [fields]
  own := by simp +contextual [fields]
  other := by simp +contextual [fields]

theorem component_target : Component fields "dst" NodeId.decoder target where
  isField := by simp [fields]
  own := by simp +contextual [fields]
  other := by simp +contextual [fields]

theorem component_type : Component fields "rel_type" readText type where
  isField := by simp [fields]
  own := by simp +contextual [fields]
  other := by simp +contextual [fields]

theorem component_properties :
    Component fields "properties" PropertyMap.decoder properties where
  isField := by simp [fields]
  own := by simp +contextual [fields]
  other := by simp +contextual [fields]

/-- What the parts of a relationship are read as. -/
structure ReadFrom (depth : Nat) (dId dSource dTarget dType dProperties : Document)
    (r : Relationship) : Prop where
  id : RelationshipId.decoder depth dId.tree = .ok r.id
  source : NodeId.decoder depth dSource.tree = .ok r.source
  target : NodeId.decoder depth dTarget.tree = .ok r.target
  type : readText depth dType.tree = .ok r.type
  properties : PropertyMap.decoder depth dProperties.tree = .ok r.properties

/-- **A relationship is read part by part**, whatever the order of the parts. -/
theorem decoder_iff {ms : List (String × Document)}
    {dId dSource dTarget dType dProperties : Document}
    (hms : ms.Perm [("id", dId), ("src", dSource), ("dst", dTarget), ("rel_type", dType),
      ("properties", dProperties)]) {depth : Nat} {r : Relationship} :
    decoder (depth + 1) (Document.object ms).tree = .ok r ↔
      r.ReadFrom depth dId dSource dTarget dType dProperties := by
  refine readRecord_parts_iff (fields.zip [dId, dSource, dTarget, dType, dProperties])
    (ReadFrom depth dId dSource dTarget dType dProperties)
    (by simp [fields]) (by simp [fields, steady_reading]) hms ?_ ?_ ?_
  · intro r hr
    exact {
      id := component_id.eq_of_mem hr (hms.mem_iff.2 (by simp))
      source := component_source.eq_of_mem hr (hms.mem_iff.2 (by simp))
      target := component_target.eq_of_mem hr (hms.mem_iff.2 (by simp))
      type := component_type.eq_of_mem hr (hms.mem_iff.2 (by simp))
      properties := component_properties.eq_of_mem hr (hms.mem_iff.2 (by simp)) }
  · intro r q h h'
    obtain ⟨id, source, target, type, properties⟩ := r
    have hid : id = q.id := Except.ok.inj (h.id.symm.trans h'.id)
    have hsource : source = q.source := Except.ok.inj (h.source.symm.trans h'.source)
    have htarget : target = q.target := Except.ok.inj (h.target.symm.trans h'.target)
    have htype : type = q.type := Except.ok.inj (h.type.symm.trans h'.type)
    have hproperties : properties = q.properties :=
      Except.ok.inj (h.properties.symm.trans h'.properties)
    rw [hid, hsource, htarget, htype, hproperties]
  · intro r h
    simp only [fields, List.zip_cons_cons, List.zip_nil_right, List.forall_mem_cons,
      accepts_reading]
    exact ⟨⟨_, h.id⟩, ⟨_, h.source⟩, ⟨_, h.target⟩, ⟨_, h.type⟩, ⟨_, h.properties⟩, nofun⟩

theorem WrittenAs.decoder_iff {r : Relationship} {d : Document} (h : r.WrittenAs d)
    (hread : Value.FiniteReadBack (PropertyMap.floats r.properties)) (q : Relationship) :
    decoder nestingLimit d.tree = .ok q ↔ r.properties.Survive d ∧ q = r.shown := by
  obtain @⟨pairs, ms, hpairs, hms⟩ := h
  have hid : r.id.document.nesting = 0 := rfl
  have hsource : r.source.document.nesting = 0 := rfl
  have htarget : r.target.document.nesting = 0 := rfl
  have htype : (Document.string r.type).nesting = 0 := rfl
  have hsurvive := PropertyMap.survive_iff hpairs (hms.mem_iff.2 (by simp)) (by
    simp +contextual [hms.mem_iff, hid, hsource, htarget, htype])
  rw [hsurvive, nestingLimit, Relationship.decoder_iff hms]
  constructor
  · intro h
    obtain ⟨hfits, hproperties⟩ := (PropertyMap.decoder_iff hread hpairs).1 h.properties
    refine ⟨hfits, ?_⟩
    have hid := h.id
    have hsource := h.source
    have htarget := h.target
    have htype := h.type
    rw [RelationshipId.decoder_document] at hid
    rw [NodeId.decoder_document] at hsource htarget
    obtain ⟨id, source, target, type, properties⟩ := q
    cases hid
    cases hsource
    cases htarget
    cases htype
    cases hproperties
    rfl
  · intro h
    obtain ⟨hfits, rfl⟩ := h
    exact {
      id := RelationshipId.decoder_document _ _
      source := NodeId.decoder_document _ _
      target := NodeId.decoder_document _ _
      type := rfl
      properties := (PropertyMap.decoder_iff hread hpairs).2 ⟨hfits, rfl⟩ }

end Relationship

/-! ## Elements -/

/-- **A node and a relationship come back from each of their texts as they are shown**, with the
same ids, the same labels or ends and type, and the same properties but for their clocks.  They come
back as they are just if the nanoseconds of their timestamps never run on after a second other than
fifty-nine.  One with a number that is not finite, or with a text that is nested too deep, is
refused and never read as another one. -/
theorem elements_come_back :
    (∀ n : Node, n.WrittenAs n.document ∧
        (n.shown = n ↔ PropertyMap.LeapsAtSixty n.properties) ∧
        ∀ d, n.WrittenAs d → Value.FiniteReadBack (PropertyMap.floats n.properties) →
          ComesBack Node.decoder d n.shown (n.properties.Survive d)) ∧
      ∀ r : Relationship, r.WrittenAs r.document ∧
        (r.shown = r ↔ PropertyMap.LeapsAtSixty r.properties) ∧
        ∀ d, r.WrittenAs d → Value.FiniteReadBack (PropertyMap.floats r.properties) →
          ComesBack Relationship.decoder d r.shown (r.properties.Survive d) := by
  constructor
  · intro n
    exact ⟨n.writtenAs_document, Node.shown_eq_self_iff,
      fun d hd hread => comesBack_of_iff (hd.decoder_iff hread)⟩
  · intro r
    exact ⟨r.writtenAs_document, Relationship.shown_eq_self_iff,
      fun d hd hread => comesBack_of_iff (hd.decoder_iff hread)⟩

/-- Properties with the empty key, a key that needs escapes, and a number. -/
def mixedProperties : PropertyMap :=
  .ofList [("a\"b\n", .list [.float ⟨0x3FB999999999999A⟩, .bytes [0, 255]]), ("", .string "\\")]

/-- A node with the greatest id and a label that is repeated. -/
def mixedNode : Node := ⟨⟨18446744073709551615⟩, ["b", "a", "b"], mixedProperties⟩

/-- A loop without a name for its type. -/
def mixedLoop : Relationship := ⟨⟨0⟩, ⟨7⟩, ⟨7⟩, "", mixedProperties⟩

/-- A node with a property that is not a number. -/
def undefinedNode : Node := ⟨⟨1⟩, [], .ofList [("x", .float ⟨0x7FF8000000000000⟩)]⟩

theorem finiteReadBack_mixedProperties :
    Value.FiniteReadBack (PropertyMap.floats mixedProperties) := by
  intro x hx _
  have hfloats : PropertyMap.floats mixedProperties = [⟨0x3FB999999999999A⟩] := by decide +kernel
  rw [hfloats, List.mem_singleton] at hx
  have hnumber :
      Numeral.toBinary64? (numberLayout.numeral ⟨0x3FB999999999999A⟩) =
        some ⟨0x3FB999999999999A⟩ := by decide +kernel
  rw [hx, Value.ReadsBack, decodeText_text, Document.float, if_pos (by decide), Document.tree,
    Value.readFloat, readNumber, hnumber]
  rfl

theorem elements_come_back_mixed :
    Value.FiniteReadBack (PropertyMap.floats mixedProperties) ∧
      PropertyMap.LeapsAtSixty mixedProperties ∧
      decodeText Node.decoder mixedNode.document.text = .ok mixedNode ∧
      decodeText Relationship.decoder mixedLoop.document.text = .ok mixedLoop ∧
      ∃ fault, decodeText Node.decoder undefinedNode.document.text = .error fault := by
  obtain ⟨hnodes, hrelationships⟩ := elements_come_back
  have hread := finiteReadBack_mixedProperties
  have hleaps : PropertyMap.LeapsAtSixty mixedProperties := by decide +kernel
  obtain ⟨hwritten, hshown, hback⟩ := hnodes mixedNode
  have hnode := hback _ hwritten hread
  rw [hshown.2 hleaps] at hnode
  obtain ⟨hwritten, hshown, hback⟩ := hrelationships mixedLoop
  have hloop := hback _ hwritten hread
  rw [hshown.2 hleaps] at hloop
  have hinfinite : ∀ x ∈ PropertyMap.floats undefinedNode.properties, x.isFinite = false := by
    decide +kernel
  obtain ⟨hwritten, -, hback⟩ := hnodes undefinedNode
  have hundefined := hback _ hwritten fun x hx hfinite => absurd hfinite (by simp [hinfinite x hx])
  refine ⟨hread, hleaps, hnode.read ?_, hloop.read ?_, hundefined.refused ?_⟩
  · exact ⟨by decide +kernel, by decide +kernel⟩
  · exact ⟨by decide +kernel, by decide +kernel⟩
  · intro h
    have hfinite := h.1
    revert hfinite
    decide +kernel

/-- A node that was seen at a time. -/
def seenAt (t : Timestamp) : Node := ⟨⟨1⟩, [], .ofList [("seen", .localDateTime t)]⟩

/-- **A node that survives can come back as another one.** -/
theorem seen_comes_back_changed :
    (seenAt .overrun).properties.Survive (seenAt .overrun).document ∧
      decodeText Node.decoder (seenAt .overrun).document.text = .ok (seenAt .nextSecond) ∧
      seenAt .nextSecond ≠ seenAt .overrun := by
  have hread : Value.FiniteReadBack (PropertyMap.floats (seenAt .overrun).properties) := by
    have hfloats : PropertyMap.floats (seenAt .overrun).properties = [] := by decide +kernel
    simp [Value.FiniteReadBack, hfloats]
  have hwritten := (seenAt .overrun).writtenAs_document
  have hback := comesBack_of_iff (hwritten.decoder_iff hread)
  have hshown : (seenAt .overrun).shown = seenAt .nextSecond := by rfl
  have hsurvives : (seenAt .overrun).properties.Survive (seenAt .overrun).document :=
    ⟨by decide +kernel, by decide +kernel⟩
  rw [← hshown]
  refine ⟨hsurvives, hback.read hsurvives, ?_⟩
  rw [Ne, Node.shown_eq_self_iff]
  decide +kernel

end PropertyGraph
