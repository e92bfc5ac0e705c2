import PropertyGraph.Collection.Interleaving
import PropertyGraph.Json.Accepted
import PropertyGraph.Proofs.Json.ValueText

/-!
# All spellings of a value are read alike

A value may be an array of its kind and its contents, or an object with the two in either order and
with further members in any place.  With the kind first the contents are read directly; with the
contents first they are set aside and read afterwards, and then an element of a list may spell its
kind in a way that is refused elsewhere: under `type` by an object with an empty object in it, and
in an array by its position.  Nothing else depends on the spelling.  So a value is read directly
just if it is read in contents that were set aside and all its kinds are named, and then as the same
value.

* `ReadsIf`, `ReadsIf.bind` — a reading that succeeds where another one does, under a condition;
* `readKind_readsIf`, `readKindItem_readsIf` — the two ways to spell a kind without naming it;
* `namesKinds`, `contentsNameKinds` — whether all kinds that are read directly are named;
* `readValue_readsIf`, `readContents_readsIf` — what is read directly, and what is read in contents
  that were set aside;
* `readValueMembers_further` — further members change nothing;
* `readValue_kindFirst`, `readValue_contentsFirst` — a spelling is read as its contents;
* `Respelled`, `readValues_respelled` — other spellings at any depth;
* `once_of_readValueMembers` — kind and contents stand once at most;
* `spellings_are_read_alike` — all of this for the texts.
-/

namespace PropertyGraph

namespace Value

open Json

/-! ## Readings under a condition -/

section ReadsIf

variable {α β : Type} {x y : Except Fault α} {f g : α → Except Fault β} {p q : Bool}

/-- The first reading succeeds just if the second one does and the condition holds, and then with
the same result. -/
def ReadsIf (x y : Except Fault α) (p : Bool) : Prop := ∀ a, x = .ok a ↔ y = .ok a ∧ p = true

theorem ReadsIf.same (x : Except Fault α) : ReadsIf x x true := fun a => by simp

theorem ReadsIf.error (e e' : Fault) (p : Bool) :
    ReadsIf (.error e : Except Fault α) (.error e') p := fun a => by simp

/-- The conditions of two steps add up. -/
theorem ReadsIf.bind (hx : ReadsIf x y p) (hf : ∀ a, ReadsIf (f a) (g a) q) :
    ReadsIf (x >>= f) (y >>= g) (p && q) := by
  intro b
  rw [bind_eq_ok, bind_eq_ok, Bool.and_eq_true]
  constructor
  · intro h
    obtain ⟨a, hxa, hfa⟩ := h
    obtain ⟨hya, hp⟩ := (hx a).1 hxa
    obtain ⟨hga, hq⟩ := (hf a b).1 hfa
    exact ⟨⟨a, hya, hga⟩, hp, hq⟩
  · intro h
    obtain ⟨⟨a, hya, hga⟩, hp, hq⟩ := h
    exact ⟨a, (hx a).2 ⟨hya, hp⟩, (hf a b).2 ⟨hga, hq⟩⟩

/-- What is made of the result adds no condition. -/
theorem ReadsIf.bind_same (hx : ReadsIf x y p) (f : α → Except Fault β) :
    ReadsIf (x >>= f) (y >>= f) p := by
  simpa using hx.bind fun a => ReadsIf.same (f a)

theorem ReadsIf.map (hx : ReadsIf x y p) (f : α → β) : ReadsIf (x.map f) (y.map f) p := by
  have hmap : ∀ z : Except Fault α, z.map f = z >>= fun a => .ok (f a) := by
    intro z
    cases z <;> rfl
  rw [hmap, hmap]
  exact hx.bind_same _

end ReadsIf

/-! ## Kinds that are named -/

/-- Under `type`, a kind that is an object with an empty object in it. -/
def isEmptyChoice : Tree → Bool
  | .object (.cons _ (.object .closed) _) => true
  | _ => false

/-- In an array, a kind that is a number. -/
def isPosition : Tree → Bool
  | .number _ => true
  | _ => false

theorem isUnit_readsIf (name : Option String) (value : Tree) (tail : Members) :
    isUnit false value = true ↔
      isUnit true value = true ∧ (!isEmptyChoice (.object (.cons name value tail))) = true := by
  unfold isUnit isEmptyChoice
  split <;> simp_all

/-- Under `type`, a kind needs no name only if it is set aside. -/
theorem readKind_readsIf (depth : Nat) (t : Tree) :
    ReadsIf (readKind false depth t) (readKind true depth t) (!isEmptyChoice t) := by
  unfold readKind
  match depth, t with
  | _, .string (some name) => exact ReadsIf.same _
  | depth + 1, .object (.cons (some name) value .closed) =>
    intro k
    simp only [readVariant, Members.isClosed, Bool.and_true, Bool.not_true, Bool.and_false,
      Bool.false_eq_true, if_false, bind_eq_ok, ite_throw_eq_ok,
      isUnit_readsIf (some name) value .closed]
    constructor
    · intro h
      obtain ⟨found, hfound, ⟨hunit, hnamed⟩, rfl⟩ := h
      exact ⟨⟨found, hfound, hunit, rfl⟩, hnamed⟩
    · intro h
      obtain ⟨⟨found, hfound, hunit, rfl⟩, hnamed⟩ := h
      exact ⟨found, hfound, ⟨hunit, hnamed⟩, rfl⟩
  -- With other members beside it, a kind is refused in either way, if for different reasons.
  | depth + 1, .object (.cons (some name) value .broken) =>
    intro k
    simp [readVariant, Members.isClosed, bind_eq_ok]
  | depth + 1, .object (.cons (some name) value (.cons _ _ _)) =>
    intro k
    simp [readVariant, Members.isClosed, bind_eq_ok]
  | 0, .object _ =>
    intro k
    simp [readVariant]
  | _ + 1, .object .closed => exact ReadsIf.error _ _ _
  | _ + 1, .object .broken => exact ReadsIf.error _ _ _
  | _ + 1, .object (.cons none _ _) => exact ReadsIf.error _ _ _
  | _, .string none => exact ReadsIf.error _ _ _
  | _, .null => exact ReadsIf.error _ _ _
  | _, .bool _ => exact ReadsIf.error _ _ _
  | _, .number _ => exact ReadsIf.error _ _ _
  | _, .array _ => exact ReadsIf.error _ _ _
  | _, .broken => exact ReadsIf.error _ _ _

/-- In an array, a kind needs no name only if it is set aside. -/
theorem readKindItem_readsIf (depth : Nat) (t : Tree) :
    ReadsIf (readKindItem false depth t) (readKindItem true depth t) (!isPosition t) := by
  intro k
  cases t with
  | string s => cases s <;> simp [readKindItem, isPosition]
  | number n => simp [readKindItem, isPosition]
  | _ => simp [readKindItem]

mutual

/-- Whether the kinds are named in a value and in the elements that are read together with it. -/
def namesKinds : Tree → Bool
  | .array items => pairNamesKinds items
  | .object members => membersNameKinds false members
  | _ => true

/-- Whether the kinds of all elements are named, if the contents are a list. -/
def contentsNameKinds : Tree → Bool
  | .array items => itemsNameKinds items
  | _ => true

/-- Whether the kinds are named in each of the items. -/
def itemsNameKinds : Items → Bool
  | .cons head tail => namesKinds head && itemsNameKinds tail
  | _ => true

/-- Whether the kinds are named in a value that is an array of its kind and its contents. -/
def pairNamesKinds : Items → Bool
  | .cons kind (.cons contents _) => !isPosition kind && contentsNameKinds contents
  | _ => true

/-- Whether the kinds are named in a value that is an object, from here on.  Contents that come
before the kind is known are set aside, and the kinds in them need no names. -/
def membersNameKinds : Bool → Members → Bool
  | known, .cons (some key) t tail =>
    if key = "type" then !isEmptyChoice t && membersNameKinds true tail
    else if key = "value" then (!known || contentsNameKinds t) && membersNameKinds known tail
    else membersNameKinds known tail
  | _, _ => true

end

/-- Whether the kind of the value is known. -/
def Progress.knowsKind : Progress → Bool
  | .start | .contents _ => false
  | .kind _ | .done _ => true

/-- Bytes are numbers, so no kind is read in them. -/
theorem itemsNameKinds_of_bytes {depth : Nat} : ∀ {items : Items} {bs : List UInt8},
    readEach (readByte depth) items = .ok bs → itemsNameKinds items = true
  | .closed, _, _ => rfl
  | .broken, _, _ => rfl
  | .cons head tail, bs, h => by
    obtain ⟨b, rest, hhead, htail, -⟩ := readEach_cons.1 h
    have hnumber : namesKinds head = true := by
      cases head with
      | number n => rfl
      | _ => cases hhead
    rw [itemsNameKinds, hnumber, itemsNameKinds_of_bytes htail]
    rfl

/-- Contents without elements are read in one way only. -/
theorem readContents_plain {k : ValueKind} {t : Tree}
    (hplain : k = .list → ∀ items, t ≠ .array items) (depth : Nat) :
    ReadsIf (readContents false depth t k) (readContents true depth t k)
      (contentsNameKinds t) := by
  have hsame : readContents false depth t k = readContents true depth t k := by
    cases k with
    | list =>
      cases t with
      | array items => exact absurd rfl (hplain rfl items)
      | _ => rfl
    | null => cases t <;> rfl
    | _ => simp only [readContents]
  rw [hsame]
  cases t with
  | array items =>
    cases k with
    | list => exact absurd rfl (hplain rfl items)
    | bytes =>
      cases depth with
      | zero => exact ReadsIf.error _ _ _
      | succ depth =>
        simp only [readContents, readList]
        cases hbytes : readEach (readByte depth) items with
        | ok bs =>
          rw [contentsNameKinds, itemsNameKinds_of_bytes hbytes]
          exact ReadsIf.same _
        | error fault => exact ReadsIf.error _ _ _
    | _ => exact ReadsIf.error _ _ _
  | _ => exact ReadsIf.same _

mutual

/-- **A value is read directly just if it is read in contents that were set aside and its kinds are
named**, and then as the same value. -/
theorem readValue_readsIf : ∀ (depth : Nat) (t : Tree),
    ReadsIf (readValue false depth t) (readValue true depth t) (namesKinds t)
  | depth + 1, .array items => by
    simp only [readValue, namesKinds]
    exact readValueItems_readsIf depth items
  | depth + 1, .object members => by
    simp only [readValue, namesKinds]
    exact readValueMembers_readsIf depth .start members
  | 0, _ => by simp only [readValue]; exact ReadsIf.error _ _ _
  | _ + 1, .null => ReadsIf.error _ _ _
  | _ + 1, .bool _ => ReadsIf.error _ _ _
  | _ + 1, .number _ => ReadsIf.error _ _ _
  | _ + 1, .string _ => ReadsIf.error _ _ _
  | _ + 1, .broken => ReadsIf.error _ _ _

theorem readContents_readsIf : ∀ (depth : Nat) (t : Tree) (k : ValueKind),
    ReadsIf (readContents false depth t k) (readContents true depth t k) (contentsNameKinds t)
  | depth, .array items, k => by
    by_cases hk : k = .list
    · subst hk
      cases depth with
      | zero => exact ReadsIf.error _ _ _
      | succ depth =>
        simp only [readContents, contentsNameKinds]
        exact (readValues_readsIf depth items).map _
    · exact readContents_plain (by simp [hk]) depth
  | depth, .object _, _ => readContents_plain (by simp) depth
  | depth, .null, _ => readContents_plain (by simp) depth
  | depth, .bool _, _ => readContents_plain (by simp) depth
  | depth, .number _, _ => readContents_plain (by simp) depth
  | depth, .string _, _ => readContents_plain (by simp) depth
  | depth, .broken, _ => readContents_plain (by simp) depth

theorem readValues_readsIf : ∀ (depth : Nat) (items : Items),
    ReadsIf (readValues false depth items) (readValues true depth items) (itemsNameKinds items)
  | _, .closed => ReadsIf.same _
  | _, .broken => ReadsIf.error _ _ _
  | depth, .cons head tail => by
    simp only [readValues, itemsNameKinds]
    exact (readValue_readsIf depth head).bind fun v => (readValues_readsIf depth tail).bind_same _

theorem readValueItems_readsIf : ∀ (depth : Nat) (items : Items),
    ReadsIf (readValueItems false depth items) (readValueItems true depth items)
      (pairNamesKinds items)
  | depth, .cons kind (.cons contents tail) => by
    simp only [readValueItems, pairNamesKinds]
    exact (readKindItem_readsIf depth kind).bind fun k =>
      (readContents_readsIf depth contents k).bind_same _
  | depth, .cons kind .closed => by
    intro v
    simp [readValueItems, bind_eq_ok]
  | depth, .cons kind .broken => by
    intro v
    simp [readValueItems, bind_eq_ok]
  | _, .closed => ReadsIf.error _ _ _
  | _, .broken => ReadsIf.error _ _ _

theorem readValueMembers_readsIf : ∀ (depth : Nat) (progress : Progress) (members : Members),
    ReadsIf (readValueMembers false depth progress members)
      (readValueMembers true depth progress members)
      (membersNameKinds progress.knowsKind members)
  | _, progress, .closed => ReadsIf.same _
  | _, _, .broken => ReadsIf.error _ _ _
  | _, _, .cons none _ _ => ReadsIf.error _ _ _
  | depth, progress, .cons (some key) t tail => by
    have htail := fun p => readValueMembers_readsIf depth p tail
    -- Which member comes next decides the step, and how far the value is known what it leads to.
    by_cases htype : key = "type"
    · have hkind := readKind_readsIf depth t
      simp only [readValueMembers, membersNameKinds, htype, if_true]
      cases progress with
      | start => exact hkind.bind fun k => htail (.kind k)
      | contents read =>
        refine hkind.bind fun k => ?_
        simpa using (ReadsIf.same (read k)).bind fun v => htail (.done v)
      | kind k => exact ReadsIf.error _ _ _
      | done w => exact ReadsIf.error _ _ _
    · by_cases hvalue : key = "value"
      · simp only [readValueMembers, membersNameKinds, if_neg htype, if_pos hvalue]
        cases progress with
        | start =>
          by_cases hsound : t.isSound depth = true
          · rw [if_pos hsound, if_pos hsound]
            exact htail (.contents (readContents true depth t))
          · rw [if_neg hsound, if_neg hsound]
            exact ReadsIf.error _ _ _
        | kind k => exact (readContents_readsIf depth t k).bind fun v => htail (.done v)
        | contents read => exact ReadsIf.error _ _ _
        | done w => exact ReadsIf.error _ _ _
      · simp only [readValueMembers, membersNameKinds, if_neg htype, if_neg hvalue]
        by_cases hwhole : t.isWhole = true
        · rw [if_pos hwhole, if_pos hwhole]
          exact htail progress
        · rw [if_neg hwhole, if_neg hwhole]
          exact ReadsIf.error _ _ _

end

/-! ## Three spellings -/

/-- The member is neither the kind of a value nor its contents. -/
def IsFurther (m : String × Document) : Prop := m.1 ≠ "type" ∧ m.1 ≠ "value"

/-- The spellings of a value in which the kind comes first: an array of the two, or an object with
further members in any place. -/
inductive KindFirst (k : ValueKind) (contents : Document) : Document → Prop
  | array : KindFirst k contents (.array [.string k.name, contents])
  | object {further members : List (String × Document)} :
      Interleaving [("type", .string k.name), ("value", contents)] further members →
      (∀ m ∈ further, IsFurther m) → KindFirst k contents (.object members)

/-- The spellings of a value in which the contents come first. -/
inductive ContentsFirst (k : ValueKind) (contents : Document) : Document → Prop
  | object {further members : List (String × Document)} :
      Interleaving [("value", contents), ("type", .string k.name)] further members →
      (∀ m ∈ further, IsFurther m) → ContentsFirst k contents (.object members)

/-- The document spells the value with this kind and these contents. -/
def Tags (k : ValueKind) (contents d : Document) : Prop :=
  KindFirst k contents d ∨ ContentsFirst k contents d

theorem isSound_of_mem_members {depth : Nat} : ∀ {ms : List (String × Document)},
    Members.isSound depth (memberTrees ms) = true → ∀ m ∈ ms, m.2.tree.isSound depth = true
  | [], _ => nofun
  | m :: ms, h => by
    obtain ⟨hhead, htail⟩ : m.2.tree.isSound depth = true ∧
        Members.isSound depth (memberTrees ms) = true := by
      simpa [memberTrees, Members.isSound] using h
    exact List.forall_mem_cons.2 ⟨hhead, isSound_of_mem_members htail⟩

/-- If the members from the second one on are read alike, then all of them are. -/
theorem readValueMembers_cons {lax : Bool} {depth : Nat} {tail other : Members}
    (h : ∀ progress, readValueMembers lax depth progress tail =
      readValueMembers lax depth progress other) (key : String) (t : Tree) (progress : Progress) :
    readValueMembers lax depth progress (.cons (some key) t tail) =
      readValueMembers lax depth progress (.cons (some key) t other) := by
  simp only [readValueMembers, h]

/-- Further members change nothing, wherever they stand. -/
theorem readValueMembers_further {own further members : List (String × Document)}
    (hmembers : Interleaving own further members) (hfurther : ∀ m ∈ further, IsFurther m)
    {depth : Nat} (hsound : ∀ m ∈ further, m.2.tree.isSound depth = true) (lax : Bool)
    (progress : Progress) : readValueMembers lax depth progress (memberTrees members) =
      readValueMembers lax depth progress (memberTrees own) := by
  induction hmembers generalizing progress with
  | nil => rfl
  | @left m _ _ _ _ ih => exact readValueMembers_cons (ih hfurther hsound) m.1 m.2.tree progress
  | @right m own further members _ ih =>
    obtain ⟨⟨htype, hvalue⟩, hothers⟩ := List.forall_mem_cons.1 hfurther
    obtain ⟨hhead, htail⟩ := List.forall_mem_cons.1 hsound
    have hwhole := Tree.isWhole_of_isSound depth m.2.tree hhead
    calc readValueMembers lax depth progress (memberTrees (m :: members))
        = readValueMembers lax depth progress (memberTrees members) := by
          simp [memberTrees, readValueMembers, htype, hvalue, hwhole]
      _ = readValueMembers lax depth progress (memberTrees own) := ih hothers htail progress

/-- An object is read as its own members, without the further ones. -/
theorem readValue_object {own further members : List (String × Document)}
    (hmembers : Interleaving own further members) (hfurther : ∀ m ∈ further, IsFurther m)
    {depth : Nat} (hsound : (Document.object members).tree.isSound (depth + 1) = true) :
    (∀ m ∈ own, m.2.tree.isSound depth = true) ∧
      ∀ lax, readValue lax (depth + 1) (Document.object members).tree =
        readValueMembers lax depth .start (memberTrees own) := by
  have heach : ∀ m ∈ members, m.2.tree.isSound depth = true := isSound_of_mem_members hsound
  refine ⟨fun m hm => heach m (hmembers.mem_iff.2 (.inl hm)), fun lax => ?_⟩
  rw [Document.tree, Value.readValue]
  exact readValueMembers_further hmembers hfurther
    (fun m hm => heach m (hmembers.mem_iff.2 (.inr hm))) lax .start

/-- **With the kind first, the contents are read in the way in which the value is.** -/
theorem readValue_kindFirst {k : ValueKind} {t d : Document} (h : KindFirst k t d) {depth : Nat}
    (hsound : d.tree.isSound (depth + 1) = true) :
    t.tree.isSound depth = true ∧
      ∀ lax, readValue lax (depth + 1) d.tree = readContents lax depth t.tree k := by
  cases h with
  | array =>
    have ht : t.tree.isSound depth = true := by
      simpa [Document.tree, itemTrees, Tree.isSound, Items.isSound] using hsound
    refine ⟨ht, fun lax => ?_⟩
    simp only [Document.tree, itemTrees, readValue, readValueItems, readKindItem,
      ValueKind.findVariant_name]
    show (readContents lax depth t.tree k >>= fun v => pure v) = _
    cases readContents lax depth t.tree k <;> rfl
  | object hmembers hfurther =>
    obtain ⟨hown, hread⟩ := readValue_object hmembers hfurther hsound
    refine ⟨hown ("value", t) (by simp), fun lax => ?_⟩
    rw [hread]
    exact readValue_tagged lax depth k t

/-- **With the contents first, they are set aside.** -/
theorem readValue_contentsFirst {k : ValueKind} {t d : Document} (h : ContentsFirst k t d)
    {depth : Nat} (hsound : d.tree.isSound (depth + 1) = true) :
    t.tree.isSound depth = true ∧
      ∀ lax, readValue lax (depth + 1) d.tree = readContents true depth t.tree k := by
  obtain ⟨hmembers, hfurther⟩ := h
  obtain ⟨hown, hread⟩ := readValue_object hmembers hfurther hsound
  have ht : t.tree.isSound depth = true := hown ("value", t) (by simp)
  have hvalue : ¬ ("value" = "type") := by decide
  refine ⟨ht, fun lax => ?_⟩
  rw [hread]
  simp only [memberTrees, readValueMembers, if_true, if_neg hvalue, ht, Document.tree, readKind,
    readVariant, ValueKind.findVariant_name]
  show (readContents true depth t.tree k >>= fun v => (Progress.done v).finish) = _
  cases readContents true depth t.tree k <;> rfl

/-! ## Other spellings at any depth -/

/-- Documents that differ in the spellings of values only: of the values themselves, of the elements
of those that are lists, and so on. -/
inductive Respelled : List Document → List Document → Prop
  | nil : Respelled [] []
  | same {d : Document} {l m : List Document} : Respelled l m → Respelled (d :: l) (d :: m)
  | value {k : ValueKind} {t d e : Document} {l m : List Document} :
      Tags k t d → Tags k t e → Respelled l m → Respelled (d :: l) (e :: m)
  | list {items others : List Document} {d e : Document} {l m : List Document} :
      Respelled items others → Tags .list (.array items) d → Tags .list (.array others) e →
      Respelled l m → Respelled (d :: l) (e :: m)

/-- In contents that were set aside, every spelling of a value is read as its contents. -/
theorem readValue_tags {k : ValueKind} {t d : Document} (h : Tags k t d) {depth : Nat}
    (hsound : d.tree.isSound depth = true) :
    ∃ inner, depth = inner + 1 ∧ t.tree.isSound inner = true ∧
      readValue true depth d.tree = readContents true inner t.tree k := by
  cases depth with
  | zero =>
    obtain hfirst | hlast := h
    · cases hfirst <;> simp [Document.tree, Tree.isSound] at hsound
    · cases hlast
      simp [Document.tree, Tree.isSound] at hsound
  | succ inner =>
    obtain hfirst | hlast := h
    · obtain ⟨ht, hread⟩ := readValue_kindFirst hfirst hsound
      exact ⟨inner, rfl, ht, hread true⟩
    · obtain ⟨ht, hread⟩ := readValue_contentsFirst hlast hsound
      exact ⟨inner, rfl, ht, hread true⟩

theorem readValues_respelled {l m : List Document} (h : Respelled l m) {depth : Nat}
    (hl : Items.isSound depth (itemTrees l) = true)
    (hm : Items.isSound depth (itemTrees m) = true) :
    readValues true depth (itemTrees l) = readValues true depth (itemTrees m) := by
  -- Both lists are sound, so both spellings of a value take a level and leave the same one inside.
  induction h generalizing depth with
  | nil => rfl
  | same _ ih =>
    simp only [itemTrees, Items.isSound, Bool.and_eq_true] at hl hm
    simp only [itemTrees, readValues, ih hl.2 hm.2]
  | value hd he _ ih =>
    simp only [itemTrees, Items.isSound, Bool.and_eq_true] at hl hm
    obtain ⟨inner, rfl, -, hdread⟩ := readValue_tags hd hl.1
    obtain ⟨inner', hinner, -, heread⟩ := readValue_tags he hm.1
    obtain rfl : inner = inner' := Nat.succ.inj hinner
    simp only [itemTrees, readValues, ih hl.2 hm.2, hdread, heread]
  | list hitems hd he _ ihitems ih =>
    simp only [itemTrees, Items.isSound, Bool.and_eq_true] at hl hm
    obtain ⟨inner, rfl, hds, hdread⟩ := readValue_tags hd hl.1
    obtain ⟨inner', hinner, hes, heread⟩ := readValue_tags he hm.1
    obtain rfl : inner = inner' := Nat.succ.inj hinner
    cases inner with
    | zero => cases hds
    | succ inner =>
      have heach := ihitems hds hes
      simp only [itemTrees, readValues, ih hl.2 hm.2, hdread, heread, Document.tree, readContents,
        heach]

theorem readValues_singleton {lax : Bool} {depth : Nat} {d : Document} {v : Value} :
    readValues lax depth (itemTrees [d]) = .ok [v] ↔ readValue lax depth d.tree = .ok v := by
  simp [itemTrees, readValues, bind_eq_ok, pure, Except.pure]

/-! ## Members that are repeated -/

/-- How often a key stands among the members of an object. -/
def times (key : String) : Members → Nat
  | .cons name _ tail => (if name = some key then 1 else 0) + times key tail
  | _ => 0

/-- Whether the contents of the value are known or set aside. -/
def Progress.hasContents : Progress → Bool
  | .start | .kind _ => false
  | .contents _ | .done _ => true

/-- **Kind and contents stand once at most in an object that is read.** -/
theorem once_of_readValueMembers {lax : Bool} {depth : Nat} : ∀ {members : Members}
    {progress : Progress} {v : Value}, readValueMembers lax depth progress members = .ok v →
      progress.knowsKind.toNat + times "type" members ≤ 1 ∧
        progress.hasContents.toNat + times "value" members ≤ 1
  | .closed, progress, _, _ => ⟨Bool.toNat_le _, Bool.toNat_le _⟩
  | .broken, _, _, h => by cases h
  | .cons none _ _, _, _, h => by cases h
  | .cons (some key) t tail, progress, v, h => by
    have htail := fun p (hp : readValueMembers lax depth p tail = .ok v) =>
      once_of_readValueMembers hp
    by_cases htype : key = "type"
    · subst htype
      cases progress with
      | start =>
        obtain ⟨k, -, hrest⟩ := bind_eq_ok.1 h
        simpa [times, Progress.knowsKind, Progress.hasContents] using htail _ hrest
      | contents read =>
        obtain ⟨k, -, hread⟩ := bind_eq_ok.1 h
        obtain ⟨w, -, hrest⟩ := bind_eq_ok.1 hread
        simpa [times, Progress.knowsKind, Progress.hasContents] using htail _ hrest
      | kind k => cases h
      | done w => cases h
    · by_cases hvalue : key = "value"
      · subst hvalue
        simp only [readValueMembers, if_neg htype, if_true] at h
        cases progress with
        | start =>
          by_cases hsound : t.isSound depth = true
          · rw [if_pos hsound] at h
            simpa [times, Progress.knowsKind, Progress.hasContents] using htail _ h
          · rw [if_neg hsound] at h
            cases h
        | kind k =>
          obtain ⟨w, -, hrest⟩ := bind_eq_ok.1 h
          simpa [times, Progress.knowsKind, Progress.hasContents] using htail _ hrest
        | contents read => cases h
        | done w => cases h
      · simp only [readValueMembers, if_neg htype, if_neg hvalue] at h
        by_cases hwhole : t.isWhole = true
        · rw [if_pos hwhole] at h
          simpa [times, htype, hvalue] using htail _ h
        · rw [if_neg hwhole] at h
          cases h

/-! ## Texts -/

/-- The text spells a document that can be read in full. -/
def SpelledInFull (d : Document) (text : String) : Prop :=
  SpellsPadded d text.toList ∧ d.tree.isSound nestingLimit = true

theorem decodeText_kindFirst {k : ValueKind} {t d : Document} {text : String}
    (hd : KindFirst k t d) (h : SpelledInFull d text) :
    decodeText decoder text = readContents false 126 t.tree k := by
  rw [decodeText_of_spells decoder h.1]
  exact (readValue_kindFirst hd h.2).2 false

theorem decodeText_contentsFirst {k : ValueKind} {t d : Document} {text : String}
    (hd : ContentsFirst k t d) (h : SpelledInFull d text) :
    decodeText decoder text = readContents true 126 t.tree k := by
  rw [decodeText_of_spells decoder h.1]
  exact (readValue_contentsFirst hd h.2).2 false

theorem decodeText_iff_namesKinds {d : Document} {text : String} (h : SpelledInFull d text)
    {v : Value} : decodeText decoder text = .ok v ↔
      readValue true nestingLimit d.tree = .ok v ∧ namesKinds d.tree = true := by
  rw [decodeText_of_spells decoder h.1]
  exact readValue_readsIf nestingLimit d.tree v

/-- **All spellings of a value are read alike.**  With the kind first, as an array or as an object
with any further members, a value is read as the same value or refused for the same reason, and so
it is with the contents first.  Between these two the outcome is the same as well, as long as the
elements name their kinds; if not all of them do, the value can be read only with the contents
first.  The same holds if elements are spelled otherwise, at any depth.  And an object with two kinds
or two contents is never read as a value, wherever it stands. -/
theorem spellings_are_read_alike :
    (∀ k t d e text other, KindFirst k t d → KindFirst k t e → SpelledInFull d text →
      SpelledInFull e other → decodeText decoder text = decodeText decoder other) ∧
    (∀ k t d e text other, ContentsFirst k t d → ContentsFirst k t e → SpelledInFull d text →
      SpelledInFull e other → decodeText decoder text = decodeText decoder other) ∧
    (∀ k t d e text other, KindFirst k t d → ContentsFirst k t e → SpelledInFull d text →
      SpelledInFull e other → ∀ v, decodeText decoder text = .ok v ↔
        decodeText decoder other = .ok v ∧ contentsNameKinds t.tree = true) ∧
    (∀ d e text other, Respelled [d] [e] → SpelledInFull d text → SpelledInFull e other →
      ∀ v, (decodeText decoder text = .ok v ∧ namesKinds e.tree = true) ↔
        (decodeText decoder other = .ok v ∧ namesKinds d.tree = true)) ∧
    ∀ lax depth members v, 2 ≤ times "type" members ∨ 2 ≤ times "value" members →
      readValue lax depth (.object members) ≠ .ok v := by
  refine ⟨?kindFirst, ?contentsFirst, ?order, ?respelled, ?repeated⟩
  case kindFirst =>
    intro k t d e text other hd he htext hother
    rw [decodeText_kindFirst hd htext, decodeText_kindFirst he hother]
  case contentsFirst =>
    intro k t d e text other hd he htext hother
    rw [decodeText_contentsFirst hd htext, decodeText_contentsFirst he hother]
  case order =>
    intro k t d e text other hd he htext hother v
    rw [decodeText_kindFirst hd htext, decodeText_contentsFirst he hother]
    exact readContents_readsIf 126 t.tree k v
  case respelled =>
    intro d e text other hde htext hother v
    have hd : Items.isSound nestingLimit (itemTrees [d]) = true := by
      simpa [itemTrees, Items.isSound] using htext.2
    have he : Items.isSound nestingLimit (itemTrees [e]) = true := by
      simpa [itemTrees, Items.isSound] using hother.2
    have heach := readValues_respelled hde hd he
    have halike : readValue true nestingLimit d.tree = .ok v ↔
        readValue true nestingLimit e.tree = .ok v := by
      rw [← readValues_singleton, heach, readValues_singleton]
    rw [decodeText_iff_namesKinds htext, decodeText_iff_namesKinds hother, halike, and_right_comm]
  case repeated =>
    intro lax depth members v htwice hread
    cases depth with
    | zero => cases hread
    | succ depth =>
      obtain ⟨htype, hvalue⟩ := once_of_readValueMembers hread
      omega

/-- Elements of a list with their kinds first, one of them a list again. -/
def elements : List Document :=
  [tagged .int (.int 5), .array [.string "List", .array [tagged .string (.string "a")]]]

/-- The same elements, each of them in another spelling. -/
def respelledElements : List Document :=
  [.array [.string "Int", .int 5],
    .object [("type", .string "List"), ("note", .null),
      ("value", .array [.object [("value", .string "a"), ("type", .string "String")]])]]

theorem tags_tagged (k : ValueKind) (t : Document) : Tags k t (tagged k t) :=
  .inl (.object (.left (.left .nil)) nofun)

theorem respelled_elements : Respelled elements respelledElements := by
  have hnote : ∀ m ∈ [("note", Document.null)], IsFurther m := by simp [IsFurther]
  refine .value (tags_tagged .int (.int 5)) (.inl .array) (.list ?_ (.inl .array)
    (.inl (.object (.left (.right (.left .nil))) hnote)) .nil)
  exact .value (tags_tagged .string _) (.inr (.object (.left (.left .nil)) nofun)) .nil

theorem elements_read_alike :
    let t : Document := .array elements
    let pair : Document := .array [.string "List", t]
    let first : Document := .object [("type", .string "List"), ("note", .null), ("value", t)]
    let last : Document := .object [("value", t), ("type", .string "List")]
    let late : Document := .object [("note", .null), ("value", t), ("type", .string "List")]
    let other : Document := .object [("value", .array respelledElements), ("type", .string "List")]
    (KindFirst .list t pair ∧ KindFirst .list t first ∧ ContentsFirst .list t last ∧
      ContentsFirst .list t late ∧ Respelled [first] [other]) ∧
    (SpelledInFull pair pair.text ∧ SpelledInFull first first.text ∧
      SpelledInFull last last.text ∧ SpelledInFull late late.text ∧
      SpelledInFull other other.text) ∧
    (∀ d ∈ [pair, first, last, late, other],
      decodeText decoder d.text = .ok (.list [.int 5, .list [.string "a"]])) ∧
    ∀ v, readValue false nestingLimit
      (.object (memberTrees [("type", .string "Null"), ("type", .string "Null")])) ≠ .ok v := by
  intro t pair first last late other
  have hnote : ∀ m ∈ [("note", Document.null)], IsFurther m := by simp [IsFurther]
  have hpair : KindFirst .list t pair := .array
  have hfirst : KindFirst .list t first := .object (.left (.right (.left .nil))) hnote
  have hlast : ContentsFirst .list t last := .object (.left (.left .nil)) nofun
  have hlate : ContentsFirst .list t late := .object (.right (.left (.left .nil))) hnote
  have hother : ContentsFirst .list (.array respelledElements) other :=
    .object (.left (.left .nil)) nofun
  have hrespelled : Respelled [first] [other] :=
    .list respelled_elements (.inl hfirst) (.inr hother) .nil
  have hpairtext : SpelledInFull pair pair.text := ⟨pair.spells_text, rfl⟩
  have hfirsttext : SpelledInFull first first.text := ⟨first.spells_text, rfl⟩
  have hlasttext : SpelledInFull last last.text := ⟨last.spells_text, rfl⟩
  have hlatetext : SpelledInFull late late.text := ⟨late.spells_text, rfl⟩
  have hothertext : SpelledInFull other other.text := ⟨other.spells_text, rfl⟩
  obtain ⟨hkinds, hcontents, horder, helements, hrepeated⟩ := spellings_are_read_alike
  have hreadpair : decodeText decoder pair.text = .ok (.list [.int 5, .list [.string "a"]]) := by
    rw [decodeText_text]
    rfl
  have hreadfirst := (hkinds _ _ _ _ _ _ hpair hfirst hpairtext hfirsttext).symm.trans hreadpair
  have hreadlast := ((horder _ _ _ _ _ _ hfirst hlast hfirsttext hlasttext _).1 hreadfirst).1
  have hreadlate := (hcontents _ _ _ _ _ _ hlast hlate hlasttext hlatetext).symm.trans hreadlast
  have hreadother :=
    ((helements _ _ _ _ hrespelled hfirsttext hothertext _).1 ⟨hreadfirst, rfl⟩).1
  refine ⟨⟨hpair, hfirst, hlast, hlate, hrespelled⟩,
    ⟨hpairtext, hfirsttext, hlasttext, hlatetext, hothertext⟩, ?_, fun v => ?_⟩
  · simp only [List.forall_mem_cons]
    exact ⟨hreadpair, hreadfirst, hreadlast, hreadlate, hreadother, nofun⟩
  · exact hrepeated _ _ _ v (.inl (by decide))

/-- An element that gives its kind by the position: with the kind of the list first the list is
refused, and with the contents first it is read. -/
theorem position_read_apart :
    let t : Document := .array [.array [.int 2, .int 5]]
    (∃ d, KindFirst .list t d ∧
      SpelledInFull d "\x7b\"type\":\"List\",\"value\":[[2,5]]\x7d") ∧
    (∃ d, KindFirst .list t d ∧ SpelledInFull d "[\"List\",[[2,5]]]") ∧
    (∃ d, ContentsFirst .list t d ∧
      SpelledInFull d "\x7b\"value\":[[2,5]],\"type\":\"List\"\x7d") ∧
    decodeText decoder "\x7b\"type\":\"List\",\"value\":[[2,5]]\x7d" = .error .unreadable ∧
    decodeText decoder "[\"List\",[[2,5]]]" = .error .unreadable ∧
    decodeText decoder "\x7b\"value\":[[2,5]],\"type\":\"List\"\x7d" = .ok (.list [.int 5]) := by
  intro t
  let first : Document := .object [("type", .string "List"), ("value", t)]
  let pair : Document := .array [.string "List", t]
  let last : Document := .object [("value", t), ("type", .string "List")]
  have hfirst : first.text = "\x7b\"type\":\"List\",\"value\":[[2,5]]\x7d" := by decide +kernel
  have hpair : pair.text = "[\"List\",[[2,5]]]" := by decide +kernel
  have hlast : last.text = "\x7b\"value\":[[2,5]],\"type\":\"List\"\x7d" := by decide +kernel
  simp only [← hfirst, ← hpair, ← hlast, decodeText_text]
  exact ⟨⟨first, .object (.left (.left .nil)) nofun, first.spells_text, rfl⟩,
    ⟨pair, .array, pair.spells_text, rfl⟩,
    ⟨last, .object (.left (.left .nil)) nofun, last.spells_text, rfl⟩, rfl, rfl, rfl⟩

end Value

end PropertyGraph
