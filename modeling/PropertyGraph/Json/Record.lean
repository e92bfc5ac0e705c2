import PropertyGraph.Json.Accepted

/-!
# Records and their members

A record is read member by member, and what was read before decides what a member may be.  Looked at
from the end a reading that succeeded is simpler.  A component of the record comes from the one
member with its name, or it is as it was if there is no such member; and whether an object is
accepted can be said of its members without an order.

* `readFieldMembers_cons`, `readFieldMembers_closed` — one step of a reading that succeeds;
* `Component.eq_of_has`, `Component.eq_of_not_has` — where a component of a record comes from;
* `exists_of_required` — a field that is required has a member;
* `exists_readRecord_iff`, `readRecord_iff` — which objects a strict record accepts, and what it
  gives for them;
* `readRecord_parts_iff` — an object with each field once is read part by part, strict or not.
-/

namespace PropertyGraph

namespace Json

/-! ## Members -/

/-- An object has a member with this key and this value. -/
def Members.Has (key : String) (value : Tree) : Members → Prop
  | .closed => False
  | .broken => False
  | .cons k v tail => (k = some key ∧ v = value) ∨ tail.Has key value

theorem has_memberTrees {ms : List (String × Document)} {key : String} {t : Tree} :
    (memberTrees ms).Has key t ↔ ∃ d, (key, d) ∈ ms ∧ d.tree = t := by
  induction ms with
  | nil => simp [memberTrees, Members.Has]
  | cons m ms ih =>
    obtain ⟨k, d⟩ := m
    simp only [memberTrees, Members.Has, ih, Option.some.injEq, List.mem_cons, Prod.mk.injEq]
    constructor
    · rintro (⟨rfl, rfl⟩ | ⟨e, he, rfl⟩)
      · exact ⟨d, Or.inl ⟨rfl, rfl⟩, rfl⟩
      · exact ⟨e, Or.inr he, rfl⟩
    · intro h
      obtain ⟨e, ⟨rfl, rfl⟩ | he, rfl⟩ := h
      · exact Or.inl ⟨rfl, rfl⟩
      · exact Or.inr ⟨e, he, rfl⟩

section Record

variable {α σ : Type} {fields : List (RecordField σ)} {strict : Bool} {depth : Nat}

/-! ## One member -/

/-- The members may end once every field that is required has been seen. -/
theorem readFieldMembers_closed {seen : List String} {s s' : σ} :
    readFieldMembers fields strict depth seen s .closed = .ok s' ↔
      s' = s ∧ ∀ field ∈ fields, field.required = true → field.name ∈ seen := by
  unfold readFieldMembers
  cases hfind : fields.find? fun field => field.required && !seen.contains field.name with
  | none =>
    simp only [List.find?_eq_none, Bool.and_eq_true, Bool.not_eq_true', not_and,
      Bool.not_eq_false, List.contains_iff_mem] at hfind
    simp only [Except.ok.injEq]
    exact ⟨fun h => ⟨h.symm, hfind⟩, fun h => h.1.symm⟩
  | some field =>
    have hmissing := List.find?_some hfind
    simp only [Bool.and_eq_true, Bool.not_eq_true', ← Bool.not_eq_true,
      List.contains_iff_mem] at hmissing
    simp only [reduceCtorEq, false_iff, not_and]
    exact fun _ h => hmissing.2 (h field (List.mem_of_find?_eq_some hfind) hmissing.1)

/-- A member is a field that was not seen before and that its value sets, or it is passed over. -/
theorem readFieldMembers_cons {seen : List String} {s s' : σ} {key : Option String} {value : Tree}
    {tail : Members} :
    readFieldMembers fields strict depth seen s (.cons key value tail) = .ok s' ↔
      ∃ name, key = some name ∧
        ((∃ field r, fields.find? (·.name == name) = some field ∧ name ∉ seen ∧
            field.set depth value s = .ok r ∧
            readFieldMembers fields strict depth (name :: seen) r tail = .ok s') ∨
          (fields.find? (·.name == name) = none ∧ strict = false ∧ value.isWhole = true ∧
            readFieldMembers fields strict depth seen s tail = .ok s')) := by
  cases key with
  | none => simp [readFieldMembers]
  | some name =>
    simp only [Option.some.injEq, exists_eq_left']
    rw [readFieldMembers]
    cases hfind : fields.find? (·.name == name) with
    | none => cases strict <;> cases hwhole : value.isWhole <;> simp
    | some field =>
      by_cases hseen : name ∈ seen
      · simp [hseen]
      · simp [hseen, bind_eq_ok]

/-! ## Components -/

/-- A component of a record: the field with this name reads it by a decoder, and no other field
changes it. -/
structure Component (fields : List (RecordField σ)) (name : String) (decoder : Decoder α)
    (get : σ → α) : Prop where
  isField : ∃ field ∈ fields, field.name = name
  own : ∀ field ∈ fields, field.name = name → ∀ {depth : Nat} {t : Tree} {s s' : σ},
    field.set depth t s = .ok s' → decoder depth t = .ok (get s')
  other : ∀ field ∈ fields, field.name ≠ name → ∀ {depth : Nat} {t : Tree} {s s' : σ},
    field.set depth t s = .ok s' → get s' = get s

/-- A field has a member only if it was not seen before. -/
theorem unseen_of_has {name : String} (hname : ∃ field ∈ fields, field.name = name) {t : Tree}
    {s' : σ} : ∀ (members : Members) (seen : List String) (s : σ),
      readFieldMembers fields strict depth seen s members = .ok s' → members.Has name t →
        name ∉ seen
  | .closed, _, _, _, hhas => hhas.elim
  | .broken, _, _, _, hhas => hhas.elim
  | .cons key value tail, seen, s, hread, hhas => by
    obtain ⟨k, rfl, ⟨_, r, _, hseen, _, hrest⟩ | ⟨hfind, _, _, hrest⟩⟩ :=
      readFieldMembers_cons.1 hread
    · rcases hhas with ⟨hk, -⟩ | hhas
      · rwa [← Option.some.inj hk]
      · have htail := unseen_of_has hname tail (k :: seen) r hrest hhas
        exact fun hin => htail (List.mem_cons_of_mem _ hin)
    · rcases hhas with ⟨hk, -⟩ | hhas
      · obtain ⟨field, hmem, rfl⟩ := hname
        exact absurd (List.find?_eq_none.1 hfind field hmem) (by simp [Option.some.inj hk])
      · exact unseen_of_has hname tail seen s hrest hhas

/-- A component without a member is as it was before. -/
theorem Component.eq_of_not_has {name : String} {decoder : Decoder α} {get : σ → α}
    (h : Component fields name decoder get) {s' : σ} :
    ∀ (members : Members) (seen : List String) (s : σ),
      readFieldMembers fields strict depth seen s members = .ok s' →
        (∀ t, ¬ members.Has name t) → get s' = get s
  | .closed, seen, s, hread, _ => by rw [(readFieldMembers_closed.1 hread).1]
  | .broken, seen, s, hread, _ => by simp [readFieldMembers] at hread
  | .cons key value tail, seen, s, hread, hno => by
    have htail : ∀ t, ¬ tail.Has name t := fun t ht => hno t (Or.inr ht)
    obtain ⟨k, rfl, ⟨field, r, hfind, _, hset, hrest⟩ | ⟨_, _, _, hrest⟩⟩ :=
      readFieldMembers_cons.1 hread
    · have hk : field.name = k := by simpa using List.find?_some hfind
      have hother : field.name ≠ name := by
        rw [hk]
        rintro rfl
        exact hno value (Or.inl ⟨rfl, rfl⟩)
      rw [h.eq_of_not_has tail _ r hrest htail,
        h.other field (List.mem_of_find?_eq_some hfind) hother hset]
    · exact h.eq_of_not_has tail seen s hrest htail

/-- **A component comes from its member.** -/
theorem Component.eq_of_has {name : String} {decoder : Decoder α} {get : σ → α}
    (h : Component fields name decoder get) {t : Tree} {s' : σ} :
    ∀ (members : Members) (seen : List String) (s : σ),
      readFieldMembers fields strict depth seen s members = .ok s' → members.Has name t →
        decoder depth t = .ok (get s')
  | .closed, _, _, _, hhas => hhas.elim
  | .broken, _, _, _, hhas => hhas.elim
  | .cons key value tail, seen, s, hread, hhas => by
    have hunseen := unseen_of_has h.isField _ seen s hread hhas
    obtain ⟨k, rfl, ⟨field, r, hfind, _, hset, hrest⟩ | ⟨hfind, _, _, hrest⟩⟩ :=
      readFieldMembers_cons.1 hread
    · rcases hhas with ⟨hk, rfl⟩ | hhas
      · obtain rfl := Option.some.inj hk
        have hname : field.name = k := by simpa using List.find?_some hfind
        -- The name is seen from here on, so no other member has it.
        have htail : ∀ t, ¬ tail.Has k t := fun t ht =>
          unseen_of_has h.isField tail _ r hrest ht List.mem_cons_self
        rw [h.eq_of_not_has tail _ r hrest htail]
        exact h.own field (List.mem_of_find?_eq_some hfind) hname hset
      · exact h.eq_of_has tail _ r hrest hhas
    · rcases hhas with ⟨hk, -⟩ | hhas
      · obtain ⟨field, hmem, rfl⟩ := h.isField
        exact absurd (List.find?_eq_none.1 hfind field hmem) (by simp [Option.some.inj hk])
      · exact h.eq_of_has tail seen s hrest hhas

/-- A field that is required has been seen or has a member. -/
theorem exists_of_required {field : RecordField σ} (hfield : field ∈ fields)
    (hrequired : field.required = true) {s' : σ} :
    ∀ (members : Members) (seen : List String) (s : σ),
      readFieldMembers fields strict depth seen s members = .ok s' →
        field.name ∈ seen ∨ ∃ t, members.Has field.name t
  | .closed, seen, s, hread =>
    Or.inl ((readFieldMembers_closed.1 hread).2 field hfield hrequired)
  | .broken, seen, s, hread => by simp [readFieldMembers] at hread
  | .cons key value tail, seen, s, hread => by
    obtain ⟨k, rfl, ⟨_, r, _, _, _, hrest⟩ | ⟨_, _, _, hrest⟩⟩ := readFieldMembers_cons.1 hread
    · rcases exists_of_required hfield hrequired tail (k :: seen) r hrest with hseen | ⟨t, ht⟩
      · rcases List.mem_cons.1 hseen with hk | hseen
        · exact Or.inr ⟨value, Or.inl ⟨congrArg some hk.symm, rfl⟩⟩
        · exact Or.inl hseen
      · exact Or.inr ⟨t, Or.inr ht⟩
    · exact (exists_of_required hfield hrequired tail seen s hrest).imp id
        fun ⟨t, ht⟩ => ⟨t, Or.inr ht⟩

/-- A component of a record that is read from an object comes from the member with its key. -/
theorem Component.eq_of_mem {name : String} {decoder : Decoder α} {get : σ → α}
    (h : Component fields name decoder get) {ms : List (String × Document)} {blank s : σ}
    (hread : readRecord fields strict blank (depth + 1) (Document.object ms).tree = .ok s)
    {d : Document} (hd : (name, d) ∈ ms) : decoder depth d.tree = .ok (get s) :=
  h.eq_of_has (memberTrees ms) [] blank hread (has_memberTrees.2 ⟨d, hd, rfl⟩)

/-- A list of texts that is required is the array of a member. -/
theorem Component.has_strings {name : String} {get : σ → List String}
    (h : Component fields name (readList readText) get)
    (hrequired : ∃ field ∈ fields, field.name = name ∧ field.required = true) {members : Members}
    {s s' : σ} (hread : readFieldMembers fields strict depth [] s members = .ok s') :
    members.Has name (Document.strings (get s')).tree := by
  obtain ⟨field, hfield, rfl, hreq⟩ := hrequired
  have hpresent := exists_of_required hfield hreq members [] s hread
  rcases hpresent with hseen | ⟨t, ht⟩
  · cases hseen
  · have hown := h.eq_of_has members [] s hread ht
    rwa [(readList_text_iff.1 hown).2] at ht

/-! ## Arrays -/

/-- The first field of a record comes from the first item, unless it may be left out. -/
theorem exists_of_readFieldItems {field : RecordField σ} (hrequired : field.required = true)
    {items : Items} {s s' : σ}
    (hread : readFieldItems depth (field :: fields) s items = .ok s') :
    ∃ head tail r, items = .cons head tail ∧ field.set depth head s = .ok r ∧
      readFieldItems depth fields r tail = .ok s' := by
  cases items with
  | closed => simp [readFieldItems, hrequired] at hread
  | broken => simp [readFieldItems] at hread
  | cons head tail =>
    rw [readFieldItems, bind_eq_ok] at hread
    obtain ⟨r, hset, hrest⟩ := hread
    exact ⟨head, tail, r, rfl, hset, hrest⟩

/-- What no field changes stays as it is. -/
theorem readFieldItems_keeps (get : σ → α)
    (hkeep : ∀ field ∈ fields, ∀ {t : Tree} {s s' : σ},
      field.set depth t s = .ok s' → get s' = get s) {items : Items} {s s' : σ}
    (hread : readFieldItems depth fields s items = .ok s') : get s' = get s := by
  induction fields generalizing items s with
  | nil =>
    cases items <;> simp only [readFieldItems, Except.ok.injEq, reduceCtorEq] at hread
    rw [hread]
  | cons field fields ih =>
    cases items with
    | closed =>
      rw [readFieldItems] at hread
      split at hread
      · cases hread
      · rw [Except.ok.inj hread]
    | broken => simp [readFieldItems] at hread
    | cons head tail =>
      rw [readFieldItems, bind_eq_ok] at hread
      obtain ⟨r, hset, hrest⟩ := hread
      rw [ih (fun f hf => hkeep f (List.mem_cons_of_mem _ hf)) hrest,
        hkeep field List.mem_cons_self hset]

/-! ## Which objects are accepted -/

/-- A field accepts a tree, whatever has been read before. -/
def RecordField.Accepts (field : RecordField σ) (depth : Nat) (t : Tree) : Prop :=
  ∀ s, ∃ s', field.set depth t s = .ok s'

/-- What a field accepts does not depend on what has been read before. -/
def RecordField.Steady (field : RecordField σ) : Prop :=
  ∀ {depth : Nat} {t : Tree} {s s' : σ}, field.set depth t s = .ok s' → field.Accepts depth t

@[simp] theorem name_reading (name : String) (required : Bool) (decoder : Decoder α)
    (put : σ → α → σ) : (RecordField.reading name required decoder put).name = name := rfl

@[simp] theorem required_reading (name : String) (required : Bool) (decoder : Decoder α)
    (put : σ → α → σ) : (RecordField.reading name required decoder put).required = required := rfl

@[simp] theorem set_reading {name : String} {required : Bool} {decoder : Decoder α}
    {put : σ → α → σ} {t : Tree} {s s' : σ} :
    (RecordField.reading name required decoder put).set depth t s = .ok s' ↔
      ∃ a, decoder depth t = .ok a ∧ s' = put s a := by
  simp only [RecordField.reading]
  cases decoder depth t <;> simp [Except.map, eq_comm]

theorem steady_reading (name : String) (required : Bool) (decoder : Decoder α)
    (put : σ → α → σ) : (RecordField.reading name required decoder put).Steady := by
  intro depth t s s' hset r
  obtain ⟨a, ha, -⟩ := set_reading.1 hset
  exact ⟨put r a, set_reading.2 ⟨a, ha, rfl⟩⟩

theorem accepts_reading [Nonempty σ] {name : String} {required : Bool} {decoder : Decoder α}
    {put : σ → α → σ} {t : Tree} :
    (RecordField.reading name required decoder put).Accepts depth t ↔
      ∃ a, decoder depth t = .ok a := by
  simp only [RecordField.Accepts, set_reading]
  constructor
  · intro h
    obtain ⟨s⟩ := ‹Nonempty σ›
    obtain ⟨_, a, ha, -⟩ := h s
    exact ⟨a, ha⟩
  · rintro ⟨a, ha⟩ s
    exact ⟨put s a, a, ha, rfl⟩

theorem find_name_eq_some (hnames : (fields.map (·.name)).Nodup) {field : RecordField σ}
    (hfield : field ∈ fields) : fields.find? (·.name == field.name) = some field := by
  cases hfind : fields.find? (·.name == field.name) with
  | none => exact absurd (List.find?_eq_none.1 hfind field hfield) (by simp)
  | some found =>
    have hname : found.name = field.name := by simpa using List.find?_some hfind
    rw [List.inj_on_of_nodup_map hnames (List.mem_of_find?_eq_some hfind) hfield hname]

/-- One member of an object that a strict record accepts. -/
theorem exists_readFieldMembers_cons (hnames : (fields.map (·.name)).Nodup) {seen : List String}
    {s : σ} {k : String} {value : Tree} {tail : Members} :
    (∃ s', readFieldMembers fields true depth seen s (.cons (some k) value tail) = .ok s') ↔
      k ∉ seen ∧ ∃ field ∈ fields, field.name = k ∧ ∃ r, field.set depth value s = .ok r ∧
        ∃ s', readFieldMembers fields true depth (k :: seen) r tail = .ok s' := by
  constructor
  · intro h
    obtain ⟨s', hread⟩ := h
    obtain ⟨name, hkey, hstep⟩ := readFieldMembers_cons.1 hread
    cases hkey
    rcases hstep with ⟨field, r, hfind, hseen, hset, hrest⟩ | ⟨_, hstrict, _⟩
    · exact ⟨hseen, field, List.mem_of_find?_eq_some hfind, by simpa using List.find?_some hfind, r,
        hset, s', hrest⟩
    · cases hstrict
  · intro h
    obtain ⟨hseen, field, hmem, rfl, r, hset, s', hrest⟩ := h
    exact ⟨s', readFieldMembers_cons.2 ⟨_, rfl,
      Or.inl ⟨field, r, find_name_eq_some hnames hmem, hseen, hset, hrest⟩⟩⟩

/-- A strict record accepts members whose keys are different from each other and were not seen
before, that are fields with values which these accept, and of which none is missing. -/
theorem exists_readFieldMembers_iff (hnames : (fields.map (·.name)).Nodup)
    (hsteady : ∀ field ∈ fields, field.Steady) {ms : List (String × Document)}
    {seen : List String} {s : σ} :
    (∃ s', readFieldMembers fields true depth seen s (memberTrees ms) = .ok s') ↔
      (ms.map Prod.fst).Nodup ∧
        (∀ m ∈ ms, m.1 ∉ seen ∧ ∃ field ∈ fields, field.name = m.1 ∧
          field.Accepts depth m.2.tree) ∧
        ∀ field ∈ fields, field.required = true →
          field.name ∈ seen ∨ field.name ∈ ms.map Prod.fst := by
  induction ms generalizing seen s with
  | nil => simp [memberTrees, readFieldMembers_closed]
  | cons m ms ih =>
    obtain ⟨k, d⟩ := m
    -- What is seen after this member is its key and what was seen before.
    have hmissing : ∀ name : String, name ∈ k :: seen ∨ name ∈ ms.map Prod.fst ↔
        name ∈ seen ∨ name ∈ ((k, d) :: ms).map Prod.fst := by
      intro name
      simp only [List.map_cons, List.mem_cons]
      tauto
    rw [memberTrees, exists_readFieldMembers_cons hnames]
    simp only [ih, hmissing, List.map_cons, List.nodup_cons]
    constructor
    · intro h
      obtain ⟨hseen, field, hmem, hname, r, hset, hnodup, heach, hrequired⟩ := h
      refine ⟨⟨fun hk => ?_, hnodup⟩, ?_, hrequired⟩
      · obtain ⟨m, hm, rfl⟩ := List.mem_map.1 hk
        exact (heach m hm).1 List.mem_cons_self
      · rintro m (_ | ⟨_, hm⟩)
        · exact ⟨hseen, field, hmem, hname, hsteady field hmem hset⟩
        · exact ⟨fun hin => (heach m hm).1 (List.mem_cons_of_mem _ hin), (heach m hm).2⟩
    · intro h
      obtain ⟨⟨hk, hnodup⟩, heach, hrequired⟩ := h
      obtain ⟨hseen, field, hmem, hname, haccepts⟩ := heach (k, d) List.mem_cons_self
      obtain ⟨r, hset⟩ := haccepts s
      refine ⟨hseen, field, hmem, hname, r, hset, hnodup, fun m hm => ?_, hrequired⟩
      obtain ⟨hunseen, h⟩ := heach m (List.mem_cons_of_mem _ hm)
      refine ⟨fun hin => ?_, h⟩
      rcases List.mem_cons.1 hin with heq | hin
      · exact hk (List.mem_map.2 ⟨m, hm, heq⟩)
      · exact hunseen hin

/-- The keys of an object are different from each other and among some names. -/
structure KeyedBy (names : List String) (ms : List (String × Document)) : Prop where
  once : (ms.map Prod.fst).Nodup
  known : ∀ key ∈ ms.map Prod.fst, key ∈ names

/-- **A strict record accepts an object** whose keys are names of fields, none of them twice, that
has the fields which are required, and whose values are accepted by their fields. -/
theorem exists_readRecord_iff (hnames : (fields.map (·.name)).Nodup)
    (hsteady : ∀ field ∈ fields, field.Steady) {ms : List (String × Document)} {blank : σ} :
    (∃ s, readRecord fields true blank (depth + 1) (Document.object ms).tree = .ok s) ↔
      KeyedBy (fields.map (·.name)) ms ∧
        (∀ field ∈ fields, ∀ d, (field.name, d) ∈ ms → field.Accepts depth d.tree) ∧
        ∀ field ∈ fields, field.required = true → field.name ∈ ms.map Prod.fst := by
  simp only [Document.tree, readRecord, exists_readFieldMembers_iff hnames hsteady,
    List.not_mem_nil, not_false_eq_true, true_and, false_or]
  constructor
  · intro h
    obtain ⟨honce, heach, hrequired⟩ := h
    refine ⟨⟨honce, fun key hkey => ?_⟩, fun field hfield d hd => ?_, hrequired⟩
    · obtain ⟨m, hm, rfl⟩ := List.mem_map.1 hkey
      obtain ⟨field, hfield, hname, -⟩ := heach m hm
      exact List.mem_map.2 ⟨field, hfield, hname⟩
    · obtain ⟨other, hother, hname, haccepts⟩ := heach _ hd
      rwa [List.inj_on_of_nodup_map hnames hother hfield hname] at haccepts
  · intro h
    obtain ⟨hkeys, haccepts, hrequired⟩ := h
    refine ⟨hkeys.once, fun m hm => ?_, hrequired⟩
    obtain ⟨field, hfield, hname⟩ :=
      List.mem_map.1 (hkeys.known m.1 (List.mem_map_of_mem hm))
    exact ⟨field, hfield, hname, haccepts field hfield m.2 (hname ▸ hm)⟩

/-- What a strict record gives for an object, told by what its reading implies: of the records with
these properties there is one at most, and where there is one the object is accepted. -/
theorem readRecord_iff (hnames : (fields.map (·.name)).Nodup)
    (hsteady : ∀ field ∈ fields, field.Steady) {ms : List (String × Document)} {blank : σ}
    {P : σ → Prop}
    (hread : ∀ s, readRecord fields true blank (depth + 1) (Document.object ms).tree = .ok s → P s)
    (hunique : KeyedBy (fields.map (·.name)) ms → ∀ s r, P s → P r → s = r)
    (haccepts : KeyedBy (fields.map (·.name)) ms → ∀ s, P s →
      (∀ field ∈ fields, ∀ d, (field.name, d) ∈ ms → field.Accepts depth d.tree) ∧
        ∀ field ∈ fields, field.required = true → field.name ∈ ms.map Prod.fst) {s : σ} :
    readRecord fields true blank (depth + 1) (Document.object ms).tree = .ok s ↔
      KeyedBy (fields.map (·.name)) ms ∧ P s := by
  constructor
  · intro hs
    exact ⟨((exists_readRecord_iff hnames hsteady).1 ⟨s, hs⟩).1, hread s hs⟩
  · intro h
    obtain ⟨hkeys, hP⟩ := h
    obtain ⟨r, hr⟩ := (exists_readRecord_iff hnames hsteady).2 ⟨hkeys, haccepts hkeys s hP⟩
    rw [hr, hunique hkeys s r hP (hread r hr)]

/-- Whether a record is strict does not matter for an object whose keys are all names of fields. -/
theorem readRecord_of_known {ms : List (String × Document)} {blank : σ}
    (h : ∀ key ∈ ms.map Prod.fst, key ∈ fields.map (·.name)) :
    readRecord fields strict blank (depth + 1) (Document.object ms).tree =
      readRecord fields true blank (depth + 1) (Document.object ms).tree := by
  show readFieldMembers fields strict depth [] blank (memberTrees ms) =
    readFieldMembers fields true depth [] blank (memberTrees ms)
  generalize ([] : List String) = seen
  induction ms generalizing seen blank with
  | nil => rfl
  | cons m ms ih =>
    obtain ⟨hhead, htail⟩ := List.forall_mem_cons.1 h
    obtain ⟨field, hfield, hname⟩ := List.mem_map.1 hhead
    have hsome : (fields.find? (·.name == m.1)).isSome := by
      rw [List.find?_isSome]
      exact ⟨field, hfield, by simpa using hname⟩
    obtain ⟨found, hfind⟩ := Option.isSome_iff_exists.1 hsome
    simp only [memberTrees, readFieldMembers, hfind, ih htail]

/-- An object with different keys has one member with a key at most. -/
theorem KeyedBy.unique {names : List String} {ms : List (String × Document)}
    (h : KeyedBy names ms) {key : String} {d e : Document} (hd : (key, d) ∈ ms)
    (he : (key, e) ∈ ms) : d = e :=
  (Prod.mk.inj (List.inj_on_of_nodup_map h.once hd he rfl)).2

theorem KeyedBy.perm {names : List String} {ms ms' : List (String × Document)}
    (h : KeyedBy names ms) (hperm : ms.Perm ms') : KeyedBy names ms' where
  once := (hperm.map Prod.fst).nodup h.once
  known := fun key hkey => h.known key ((hperm.map Prod.fst).mem_iff.2 hkey)

/-- A record is read from the object that has each field once, in whatever order the members stand.
What it gives is told by what its reading implies, as for strict records. -/
theorem readRecord_parts_iff (parts : List (RecordField σ × Document)) (P : σ → Prop)
    (hnames : (parts.map fun part => part.1.name).Nodup)
    (hsteady : ∀ part ∈ parts, part.1.Steady) {ms : List (String × Document)}
    (hms : ms.Perm (parts.map fun part => (part.1.name, part.2))) {blank : σ}
    (hread : ∀ s, readRecord (parts.map Prod.fst) strict blank (depth + 1)
      (Document.object ms).tree = .ok s → P s)
    (hunique : ∀ s r, P s → P r → s = r)
    (haccepts : ∀ s, P s → ∀ part ∈ parts, part.1.Accepts depth part.2.tree) {s : σ} :
    readRecord (parts.map Prod.fst) strict blank (depth + 1) (Document.object ms).tree = .ok s ↔
      P s := by
  have hnodup : ((parts.map Prod.fst).map (·.name)).Nodup := by rwa [List.map_map]
  have hkeyed : (ms.map Prod.fst).Perm ((parts.map Prod.fst).map (·.name)) := by
    have hmapped := hms.map Prod.fst
    rw [List.map_map] at hmapped ⊢
    exact hmapped
  have hkeys : KeyedBy ((parts.map Prod.fst).map (·.name)) ms :=
    ⟨hkeyed.nodup_iff.2 hnodup, fun key hkey => hkeyed.mem_iff.1 hkey⟩
  have hfields : ∀ field ∈ parts.map Prod.fst, field.Steady := by
    simpa only [List.forall_mem_map] using hsteady
  rw [readRecord_of_known hkeys.known]
  refine (readRecord_iff hnodup hfields (fun s hs => hread s ?_) (fun _ => hunique)
    fun _ s hs => ⟨fun field hfield d hd => ?_, fun field hfield _ => ?_⟩).trans
    (and_iff_right hkeys)
  · rw [readRecord_of_known hkeys.known]
    exact hs
  · obtain ⟨part, hpart, heq⟩ := List.mem_map.1 (hms.mem_iff.1 hd)
    obtain ⟨hname, rfl⟩ := Prod.mk.inj heq
    have hsame : part.1 = field :=
      List.inj_on_of_nodup_map hnodup (List.mem_map_of_mem hpart) hfield hname
    rw [← hsame]
    exact haccepts s hs part hpart
  · exact hkeyed.mem_iff.2 (List.mem_map_of_mem hfield)

/-- What an object states of a component: its member with this key states it, or there is no such
member and the component is as it is without one. -/
def MemberStates (states : Document → α → Prop) (absent : α) (ms : List (String × Document))
    (key : String) (a : α) : Prop :=
  (∃ d, (key, d) ∈ ms ∧ states d a) ∨ (key ∉ ms.map Prod.fst ∧ a = absent)

theorem Component.memberStates {name : String} {decoder : Decoder α} {get : σ → α}
    (h : Component fields name decoder get) {states : Document → α → Prop}
    (hstates : ∀ d a, decoder depth d.tree = .ok a → states d a) {ms : List (String × Document)}
    {s s' : σ} (hread : readFieldMembers fields strict depth [] s (memberTrees ms) = .ok s') :
    MemberStates states (get s) ms name (get s') := by
  by_cases hkey : name ∈ ms.map Prod.fst
  · obtain ⟨⟨_, d⟩, hd, rfl⟩ := List.mem_map.1 hkey
    have hown := h.eq_of_has (memberTrees ms) [] s hread (has_memberTrees.2 ⟨d, hd, rfl⟩)
    exact Or.inl ⟨d, hd, hstates d _ hown⟩
  · refine Or.inr ⟨hkey, h.eq_of_not_has (memberTrees ms) [] s hread fun t ht => ?_⟩
    obtain ⟨d, hd, -⟩ := has_memberTrees.1 ht
    exact hkey (List.mem_map.2 ⟨_, hd, rfl⟩)

theorem MemberStates.perm {states : Document → α → Prop} {absent a : α}
    {ms ms' : List (String × Document)} {key : String} (h : MemberStates states absent ms key a)
    (hperm : ms.Perm ms') : MemberStates states absent ms' key a := by
  rcases h with ⟨d, hd, ha⟩ | ⟨hkey, ha⟩
  · exact Or.inl ⟨d, hperm.mem_iff.1 hd, ha⟩
  · exact Or.inr ⟨fun h => hkey ((hperm.map Prod.fst).mem_iff.2 h), ha⟩

/-- A member states what its object states. -/
theorem MemberStates.of_mem {states : Document → α → Prop} {absent a : α} {names : List String}
    {ms : List (String × Document)} {key : String} (h : MemberStates states absent ms key a)
    (hkeys : KeyedBy names ms) {d : Document} (hd : (key, d) ∈ ms) : states d a := by
  rcases h with ⟨e, he, ha⟩ | ⟨hkey, -⟩
  · rwa [hkeys.unique hd he]
  · exact (hkey (List.mem_map.2 ⟨_, hd, rfl⟩)).elim

/-- An object with different keys states one thing of a component at most. -/
theorem MemberStates.unique {states : Document → α → Prop} {absent a b : α} {names : List String}
    {ms : List (String × Document)} {key : String} (ha : MemberStates states absent ms key a)
    (hb : MemberStates states absent ms key b) (hkeys : KeyedBy names ms)
    (hstates : ∀ d, states d a → states d b → a = b) : a = b := by
  rcases ha with ⟨d, hd, ha⟩ | ⟨hkey, rfl⟩
  · exact hstates d ha (hb.of_mem hkeys hd)
  · rcases hb with ⟨d, hd, -⟩ | ⟨-, rfl⟩
    · exact (hkey (List.mem_map.2 ⟨_, hd, rfl⟩)).elim
    · rfl

end Record

end Json

end PropertyGraph
