import PropertyGraph.Proofs.Snapshot.Identity

/-!
# Snapshots are read back from JSON

A snapshot is written as it is, and it is read like one that is made: listed labels become a set,
pairs of a key and a text become a map, and a type must not be empty.  What a snapshot holds is in
that form already, so to a text that was written none of this does anything, with one exception.
A live relationship may have an empty type, and its snapshot takes the type as it is; such a
snapshot has a text, but none that is accepted.

Other texts say more than a snapshot keeps.  A key may be repeated, and then the last text under it
counts; the properties may be left out, and then there are none.

* `TextMap.decoder_document`, `NodeSnapshot.decoder_document`,
  `RelationshipSnapshot.decoder_document` — what the written texts are read as;
* `texts_of_read` — the properties of a snapshot that is read are those that its text lists;
* `RelationshipSnapshot.Origin.type_eq_empty_iff` — where an empty type comes from;
* `snapshots_come_back` — all of this, for the texts.
-/

namespace PropertyGraph

open Json

theorem TextMap.decoder_document (m : TextMap) (depth : Nat) :
    decoder (depth + 1) m.document.tree = .ok m :=
  readMap_text_iff.2
    ⟨Nat.succ_pos depth, m.entries, rfl, (OrderedMap.ofList_of_perm (List.Perm.refl _)).symm⟩

/-! ## Records with texts -/

section Texted

variable {α : Type} {name : String} {decoder : Decoder α} {depth : Nat}

/-- The fields of a snapshot of either kind: one of its own, and texts that may be left out. -/
def textedFields (name : String) (decoder : Decoder α) : List (RecordField (α × TextMap)) :=
  [.reading name true decoder fun s a => (a, s.2),
    .reading "properties" false TextMap.decoder fun s properties => (s.1, properties)]

theorem NodeSnapshot.fields_eq :
    NodeSnapshot.fields = textedFields "labels" (readList readText) := rfl

theorem RelationshipSnapshot.fields_eq :
    RelationshipSnapshot.fields = textedFields "rel_type" readText := rfl

theorem component_first (hname : name ≠ "properties") :
    Component (textedFields name decoder) name decoder Prod.fst where
  isField := by simp [textedFields]
  own := by simp +contextual [textedFields, hname.symm]
  other := by simp +contextual [textedFields]

theorem component_texts (hname : name ≠ "properties") :
    Component (textedFields name decoder) "properties" TextMap.decoder Prod.snd where
  isField := by simp [textedFields]
  own := by simp +contextual [textedFields, hname]
  other := by simp +contextual [textedFields]

/-- A record with both parts is read part by part, in whatever order they stand. -/
theorem readRecord_texted_iff (hname : name ≠ "properties") {ms : List (String × Document)}
    {d e : Document} (hms : ms.Perm [(name, d), ("properties", e)]) {blank s : α × TextMap} :
    readRecord (textedFields name decoder) false blank (depth + 1) (Document.object ms).tree =
        .ok s ↔
      decoder depth d.tree = .ok s.1 ∧ TextMap.decoder depth e.tree = .ok s.2 := by
  refine readRecord_parts_iff ((textedFields name decoder).zip [d, e])
    (fun s => decoder depth d.tree = .ok s.1 ∧ TextMap.decoder depth e.tree = .ok s.2)
    (by simp [textedFields, hname]) (by simp [textedFields, steady_reading]) hms ?_ ?_ ?_
  · intro s hs
    exact ⟨(component_first hname).eq_of_mem hs (hms.mem_iff.2 (by simp)),
      (component_texts hname).eq_of_mem hs (hms.mem_iff.2 (by simp))⟩
  · intro s r h h'
    have hfirst : s.1 = r.1 := Except.ok.inj (h.1.symm.trans h'.1)
    have htexts : s.2 = r.2 := Except.ok.inj (h.2.symm.trans h'.2)
    exact Prod.ext hfirst htexts
  · intro s h
    have hinhabited : Nonempty (α × TextMap) := ⟨s⟩
    simp only [textedFields, List.zip_cons_cons, List.zip_nil_right, List.forall_mem_cons,
      accepts_reading]
    exact ⟨⟨s.1, h.1⟩, ⟨s.2, h.2⟩, nofun⟩

/-- A tree lists pairs of a key and a text for a snapshot: under `properties` in an object, and
second in an array; and none if that is left out. -/
def ListsTexts (pairs : List (String × String)) : Tree → Prop
  | .object members =>
    members.Has "properties" (Document.texts pairs).tree ∨
      (∀ t, ¬ members.Has "properties" t) ∧ pairs = []
  | .array (.cons _ (.cons item _)) => item = (Document.texts pairs).tree
  | .array (.cons _ .closed) => pairs = []
  | _ => False

/-- The texts that are read from a tree are those of the pairs that it gives. -/
theorem texts_of_decoder {t : Tree} {m : TextMap} (h : TextMap.decoder depth t = .ok m) :
    (∃ pairs, t = (Document.texts pairs).tree) ∧
      ∀ pairs, t = (Document.texts pairs).tree → m = .ofList pairs := by
  obtain ⟨-, pairs, rfl, rfl⟩ := readMap_text_iff.1 h
  refine ⟨⟨pairs, rfl⟩, fun others hothers => ?_⟩
  rw [texts_injective (Document.tree_injective hothers)]

theorem texts_of_members (hname : name ≠ "properties") {a : α} {members : Members}
    {s : α × TextMap}
    (h : readFieldMembers (textedFields name decoder) false depth [] (a, .empty) members = .ok s) :
    (∃ pairs, ListsTexts pairs (.object members)) ∧
      ∀ pairs, ListsTexts pairs (.object members) → s.2 = .ofList pairs := by
  have hcomponent : Component (textedFields name decoder) "properties" TextMap.decoder Prod.snd :=
    component_texts hname
  by_cases hhas : ∃ t, members.Has "properties" t
  · obtain ⟨t, ht⟩ := hhas
    obtain ⟨⟨pairs, rfl⟩, -⟩ := texts_of_decoder (hcomponent.eq_of_has members [] _ h ht)
    refine ⟨⟨pairs, Or.inl ht⟩, fun others hlists => ?_⟩
    rcases hlists with hothers | ⟨hno, -⟩
    · exact (texts_of_decoder (hcomponent.eq_of_has members [] _ h hothers)).2 others rfl
    · exact absurd ht (hno _)
  · have hno : ∀ t, ¬ members.Has "properties" t := not_exists.1 hhas
    refine ⟨⟨[], Or.inr ⟨hno, rfl⟩⟩, fun others hlists => ?_⟩
    rcases hlists with hothers | ⟨-, rfl⟩
    · exact absurd hothers (hno _)
    · exact hcomponent.eq_of_not_has members [] _ h hno

theorem texts_of_items {a : α} {items : Items} {s : α × TextMap}
    (h : readFieldItems depth (textedFields name decoder) (a, .empty) items = .ok s) :
    (∃ pairs, ListsTexts pairs (.array items)) ∧
      ∀ pairs, ListsTexts pairs (.array items) → s.2 = .ofList pairs := by
  obtain ⟨head, tail, r, rfl, hset, hrest⟩ := exists_of_readFieldItems rfl h
  obtain ⟨b, -, rfl⟩ := set_reading.1 hset
  cases tail with
  | closed =>
    obtain rfl : (b, .empty) = s := Except.ok.inj hrest
    exact ⟨⟨[], rfl⟩, fun pairs hpairs => by rw [show pairs = [] from hpairs]; rfl⟩
  | broken => cases hrest
  | cons item rest =>
    rw [readFieldItems, bind_eq_ok] at hrest
    obtain ⟨r, hset, hend⟩ := hrest
    obtain ⟨m, hm, rfl⟩ := set_reading.1 hset
    cases rest with
    | closed =>
      obtain rfl : (b, m) = s := Except.ok.inj hend
      exact texts_of_decoder hm
    | broken => cases hend
    | cons _ _ => cases hend

/-- **The texts of a snapshot that is read are those that its tree lists.** -/
theorem texts_of_read (hname : name ≠ "properties") {a : α} {t : Tree} {s : α × TextMap}
    (h : readRecord (textedFields name decoder) false (a, .empty) depth t = .ok s) :
    (∃ pairs, ListsTexts pairs t) ∧ ∀ pairs, ListsTexts pairs t → s.2 = .ofList pairs := by
  unfold readRecord at h
  split at h
  · exact texts_of_items h
  · exact texts_of_members hname h
  · cases h

end Texted

/-! ## Snapshots of nodes -/

namespace NodeSnapshot

theorem decoder_document (s : NodeSnapshot) (depth : Nat) :
    decoder (depth + 2) s.document.tree = .ok s := by
  have hread : readRecord fields false ([], .empty) (depth + 2) s.document.tree =
      .ok (s.labels.toList, s.properties) := by
    rw [fields_eq, document, readRecord_texted_iff (by decide) (List.Perm.refl _)]
    exact ⟨readList_text_iff.2 ⟨Nat.succ_pos depth, rfl⟩, s.properties.decoder_document depth⟩
  rw [decoder, hread]
  exact congrArg Except.ok s.copy_eq

/-- **A snapshot that is read is made** from the labels and the texts that its tree lists. -/
theorem eq_make_of_read {depth : Nat} {t : Tree} {s : NodeSnapshot} (h : decoder depth t = .ok s) :
    (∃ labels pairs, ListsLabels labels t ∧ ListsTexts pairs t) ∧
      ∀ labels pairs, ListsLabels labels t → ListsTexts pairs t →
        s = .make labels (.ofList pairs) := by
  obtain ⟨labels, hlabels, hunique, hset⟩ := exists_listsLabels h
  have hparts : ∃ parts, readRecord fields false ([], .empty) depth t = .ok parts ∧
      s.properties = parts.2 := by
    rw [decoder] at h
    cases hread : readRecord fields false ([], .empty) depth t with
    | error fault => simp [hread, Except.map] at h
    | ok parts =>
      rw [hread] at h
      obtain rfl := Except.ok.inj h
      exact ⟨parts, rfl, rfl⟩
  obtain ⟨parts, hread, hproperties⟩ := hparts
  rw [fields_eq] at hread
  obtain ⟨⟨pairs, hpairs⟩, htexts⟩ := texts_of_read (by decide) hread
  refine ⟨⟨labels, pairs, hlabels, hpairs⟩, fun others otherPairs hothers hotherPairs => ?_⟩
  obtain ⟨set, properties⟩ := s
  rw [hunique others hothers, make, ← htexts otherPairs hotherPairs, ← hset, ← hproperties]

end NodeSnapshot

/-! ## Snapshots of relationships -/

namespace RelationshipSnapshot

/-- A snapshot with a type comes back, and one without is refused. -/
theorem decoder_document (s : RelationshipSnapshot) (depth : Nat) :
    decoder (depth + 2) s.document.tree =
      if s.type = "" then .error (.refused (.emptyName .relationshipType)) else .ok s := by
  have hread : readRecord fields false ("", .empty) (depth + 2) s.document.tree =
      .ok (s.type, s.properties) := by
    rw [fields_eq, document, readRecord_texted_iff (by decide) (List.Perm.refl _)]
    exact ⟨rfl, s.properties.decoder_document depth⟩
  rw [decoder, hread]
  by_cases htype : s.type = ""
  · have hmake : make s.type s.properties = .error (.emptyName .relationshipType) := if_pos htype
    rw [if_pos htype]
    simp only [bind, Except.bind, hmake]
    rfl
  · have hmake : make s.type s.properties = .ok s := if_neg htype
    rw [if_neg htype]
    simp only [bind, Except.bind, hmake]
    rfl

/-- **A snapshot that is read has a type.** -/
theorem type_ne_empty_of_read {depth : Nat} {t : Tree} {s : RelationshipSnapshot}
    (h : decoder depth t = .ok s) : s.type ≠ "" := by
  rw [decoder, bind_eq_ok] at h
  obtain ⟨⟨type, properties⟩, -, hmake⟩ := h
  by_cases htype : type = ""
  · simp [make, htype, throw, throwThe, MonadExceptOf.throw] at hmake
  · simp only [make, if_neg htype] at hmake
    obtain rfl := Except.ok.inj hmake
    exact htype

/-- The ways to a snapshot of a relationship. -/
inductive Origin where
  | ofRelationship (r : Relationship)
  | ofRelationshipWith (r : Relationship) (properties : TextMap)
  | make (type : String) (properties : TextMap)
  | ofType (type : String)
  /-- a copy of anything that has a type and texts -/
  | copy (s : RelationshipSnapshot)
  | read (text : String)

namespace Origin

/-- The snapshot, if there is one. -/
def snapshot? : Origin → Option RelationshipSnapshot
  | .ofRelationship r => some (.ofRelationship r)
  | .ofRelationshipWith r properties => some (.ofRelationshipWith r properties)
  | .make type properties => (RelationshipSnapshot.make type properties).toOption
  | .ofType type => (RelationshipSnapshot.ofType type).toOption
  | .copy s => some s.copy
  | .read text => (decodeText decoder text).toOption

/-- Whether an empty type is taken over from what the snapshot is made of. -/
def TakesEmptyType : Origin → Prop
  | .ofRelationship r => r.type = ""
  | .ofRelationshipWith r _ => r.type = ""
  | .copy s => s.type = ""
  | .make _ _ => False
  | .ofType _ => False
  | .read _ => False

theorem type_ne_empty_of_make {type : String} {properties : TextMap} {s : RelationshipSnapshot}
    (h : (RelationshipSnapshot.make type properties).toOption = some s) : s.type ≠ "" := by
  by_cases htype : type = ""
  · simp [RelationshipSnapshot.make, htype, Except.toOption] at h
  · simp only [RelationshipSnapshot.make, if_neg htype, Except.toOption, Option.some.injEq] at h
    rwa [← h]

/-- **An empty type is never made**: it is taken over from a relationship or from another
snapshot. -/
theorem type_eq_empty_iff {o : Origin} {s : RelationshipSnapshot} (h : o.snapshot? = some s) :
    s.type = "" ↔ o.TakesEmptyType := by
  cases o with
  | ofRelationship r =>
    obtain rfl := Option.some.inj h
    exact Iff.rfl
  | ofRelationshipWith r properties =>
    obtain rfl := Option.some.inj h
    exact Iff.rfl
  | copy other =>
    obtain rfl := Option.some.inj h
    exact Iff.rfl
  | make type properties => exact iff_false_intro (type_ne_empty_of_make h)
  | ofType type => exact iff_false_intro (type_ne_empty_of_make h)
  | read text =>
    refine iff_false_intro ?_
    cases hread : decodeText decoder text with
    | error fault => simp [snapshot?, hread, Except.toOption] at h
    | ok other =>
      have hsame : other = s := by simpa [snapshot?, hread, Except.toOption] using h
      rw [← hsame]
      exact type_ne_empty_of_read (decodeText_iff.1 hread).1

end Origin

end RelationshipSnapshot

/-! ## Texts -/

/-- **Every snapshot comes back from its text**, but for a relationship's snapshot without a type:
it is refused for that, and it comes from a relationship or a snapshot that had none.  A text that
is accepted gives the snapshot that is made of what it lists; of a repeated key the last text
counts. -/
theorem snapshots_come_back :
    (∀ m : TextMap, decodeText TextMap.decoder m.document.text = .ok m) ∧
      (∀ s : NodeSnapshot, decodeText NodeSnapshot.decoder s.document.text = .ok s) ∧
      (∀ s : RelationshipSnapshot,
        (s.type ≠ "" → decodeText RelationshipSnapshot.decoder s.document.text = .ok s) ∧
        (s.type = "" → ∃ fault,
          decodeText RelationshipSnapshot.decoder s.document.text = .error fault ∧
            fault.message? = some "Invalid argument: relationship type must not be empty")) ∧
      (∀ (o : RelationshipSnapshot.Origin) (s : RelationshipSnapshot), o.snapshot? = some s →
        (s.type = "" ↔ o.TakesEmptyType)) ∧
      (∀ text s, decodeText RelationshipSnapshot.decoder text = .ok s → s.type ≠ "") ∧
      ∀ text s, decodeText NodeSnapshot.decoder text = .ok s →
        (∃ labels pairs, NodeSnapshot.ListsLabels labels (Reading.ofText text).tree ∧
          ListsTexts pairs (Reading.ofText text).tree) ∧
        ∀ labels pairs, NodeSnapshot.ListsLabels labels (Reading.ofText text).tree →
          ListsTexts pairs (Reading.ofText text).tree →
            s = .make labels (.ofList pairs) ∧
              ∀ key, s.properties.get? key = OrderedMap.lookup key pairs.reverse := by
  refine ⟨fun m => ?_, fun s => ?_, fun s => ?_, fun o s h => ?_, fun text s h => ?_,
    fun text s h => ?_⟩
  · rw [decodeText_text]
    exact m.decoder_document 126
  · rw [decodeText_text]
    exact s.decoder_document 125
  · rw [decodeText_text, nestingLimit, s.decoder_document 125]
    exact ⟨fun htype => if_neg htype, fun htype => ⟨_, if_pos htype, by decide⟩⟩
  · exact RelationshipSnapshot.Origin.type_eq_empty_iff h
  · exact RelationshipSnapshot.type_ne_empty_of_read (decodeText_iff.1 h).1
  · obtain ⟨hlists, hmade⟩ := NodeSnapshot.eq_make_of_read (decodeText_iff.1 h).1
    refine ⟨hlists, fun labels pairs hlabels hpairs => ?_⟩
    have hmake := hmade labels pairs hlabels hpairs
    refine ⟨hmake, fun key => ?_⟩
    rw [hmake]
    exact OrderedMap.get?_ofList pairs key

/-- Texts under keys, one of them repeated and one empty. -/
def repeatedKeys : List (String × String) := [("k", "1"), ("", "\"\n"), ("k", "2")]

/-- An object with these texts, and with labels out of order after them. -/
def mixedSnapshot : Document :=
  .object [("properties", .texts repeatedKeys), ("labels", .strings ["b", "a", "b"])]

/-- An array with labels and nothing else. -/
def bareSnapshot : Document := .array [.strings ["a"]]

/-- A relationship without a name for its type. -/
def untyped : Relationship := ⟨⟨1⟩, ⟨1⟩, ⟨2⟩, "", .empty⟩

theorem snapshots_come_back_mixed :
    (∃ s, decodeText NodeSnapshot.decoder mixedSnapshot.text = .ok s ∧
        s = .make ["b", "a", "b"] (.ofList repeatedKeys) ∧ s.properties.get? "k" = some "2" ∧
        decodeText NodeSnapshot.decoder s.document.text = .ok s) ∧
      (∃ s, decodeText NodeSnapshot.decoder bareSnapshot.text = .ok s ∧
        s = .make ["a"] .empty) ∧
      (RelationshipSnapshot.Origin.ofRelationship untyped).snapshot? =
        some (.ofRelationship untyped) ∧
      (RelationshipSnapshot.Origin.ofRelationship untyped).TakesEmptyType ∧
      (∃ fault, decodeText RelationshipSnapshot.decoder
        (RelationshipSnapshot.ofRelationship untyped).document.text = .error fault) ∧
      decodeText RelationshipSnapshot.decoder
        (RelationshipSnapshot.document ⟨"KNOWS", .empty⟩).text = .ok ⟨"KNOWS", .empty⟩ := by
  obtain ⟨-, hnodes, hrelationships, horigins, -, hmade⟩ := snapshots_come_back
  have htree : ∀ d : Document, (Reading.ofText d.text).tree = d.tree := by
    intro d
    rw [ofText_of_spells d.spells_text]
  have hmixed : decodeText NodeSnapshot.decoder mixedSnapshot.text =
      .ok (.make ["b", "a", "b"] (.ofList repeatedKeys)) := by
    rw [decodeText_text]
    rfl
  have hbare : decodeText NodeSnapshot.decoder bareSnapshot.text = .ok (.make ["a"] .empty) := by
    rw [decodeText_text]
    rfl
  obtain ⟨hlisted, hlast⟩ := (hmade _ _ hmixed).2 ["b", "a", "b"] repeatedKeys
    (by rw [htree]; exact Or.inr (Or.inl ⟨rfl, rfl⟩))
    (by rw [htree]; exact Or.inl (Or.inl ⟨rfl, rfl⟩))
  obtain ⟨hmissing, -⟩ := (hmade _ _ hbare).2 ["a"] [] (by rw [htree]; rfl) (by rw [htree]; rfl)
  have hempty : (RelationshipSnapshot.ofRelationship untyped).type = "" :=
    (horigins (.ofRelationship untyped) _ rfl).2 rfl
  obtain ⟨fault, hrefused, -⟩ := (hrelationships _).2 hempty
  exact ⟨⟨_, hmixed, hlisted, hlast "k", hnodes _⟩, ⟨_, hbare, hmissing⟩, rfl, rfl,
    ⟨fault, hrefused⟩, (hrelationships _).1 (by decide)⟩

end PropertyGraph
