import Mathlib.Data.List.Nodup
import PropertyGraph.Json.Spelled

/-!
# What decoders accept

Each decoder for plain contents accepts certain documents and makes one thing of each of them: a
list of texts comes from an array of just these strings, and a choice from its name.  What is
accepted is told by trees; different documents have different trees, so it may be told by documents
as well.

* `bind_eq_ok`, `ite_throw_eq_ok` — a reading that succeeds, step by step;
* `decodeText_iff` — a text is accepted if its tree is;
* `Document.tree_injective` — a tree is the tree of one document at most;
* `readList_text_iff`, `readMap_text_iff`, `readVariant_iff` — the documents of lists of texts, of
  maps of texts and of choices;
* `readMap_object_iff`, `gives_written_iff` — a map is filled with the pairs of an object, and those
  that were written come back;
* `isSound_members`, `isSound_strings`, `isSound_of_chooses` — documents that can be read in full.
-/

namespace PropertyGraph

namespace Json

/-! ## Readings that succeed -/

/-- Two steps succeed if the first does and then the second. -/
theorem bind_eq_ok {α β : Type} {x : Except Fault α} {f : α → Except Fault β} {b : β} :
    x >>= f = .ok b ↔ ∃ a, x = .ok a ∧ f a = .ok b := by
  cases x <;> simp [bind, Except.bind]

theorem ite_throw_eq_ok {α : Type} {p : Prop} [Decidable p] {a b : α} {fault : Fault} :
    (if p then pure a else throw fault : Except Fault α) = .ok b ↔ p ∧ a = b := by
  by_cases h : p <;> simp [h, pure, Except.pure, throw, throwThe, MonadExceptOf.throw]

/-- A text is accepted if its tree is and it ends there. -/
theorem decodeText_iff {α : Type} {decoder : Decoder α} {text : String} {a : α} :
    decodeText decoder text = .ok a ↔
      decoder nestingLimit (Reading.ofText text).tree = .ok a ∧
        (Reading.ofText text).ended = true := by
  simp only [decodeText, bind_eq_ok, ite_throw_eq_ok]
  constructor
  · intro h
    obtain ⟨b, hb, hended, rfl⟩ := h
    exact ⟨hb, hended⟩
  · intro h
    obtain ⟨ha, hended⟩ := h
    exact ⟨a, ha, hended, rfl⟩

/-- What is read is one thing at most. -/
theorem eq_of_read_iff {α : Type} {r : Except Fault α} {P : α → Prop}
    (h : ∀ a, r = .ok a ↔ P a) {a b : α} (ha : P a) (hb : P b) : a = b :=
  Except.ok.inj (((h a).2 ha).symm.trans ((h b).2 hb))

/-! ## Documents by their trees -/

mutual

/-- Different documents have different trees. -/
theorem Document.tree_injective : ∀ {d e : Document}, d.tree = e.tree → d = e
  | .null, e, h => by cases e <;> simp_all [Document.tree]
  | .bool _, e, h => by cases e <;> simp_all [Document.tree]
  | .number _, e, h => by cases e <;> simp_all [Document.tree]
  | .string _, e, h => by cases e <;> simp_all [Document.tree]
  | .array items, e, h => by
    cases e with
    | array others => rw [itemTrees_injective (Tree.array.inj h)]
    | _ => cases h
  | .object members, e, h => by
    cases e with
    | object others => rw [memberTrees_injective (Tree.object.inj h)]
    | _ => cases h

theorem itemTrees_injective : ∀ {l m : List Document}, itemTrees l = itemTrees m → l = m
  | [], [], _ => rfl
  | [], _ :: _, h => by cases h
  | _ :: _, [], h => by cases h
  | d :: l, e :: m, h => by
    obtain ⟨hhead, htail⟩ := Items.cons.inj h
    rw [Document.tree_injective hhead, itemTrees_injective htail]

theorem memberTrees_injective : ∀ {l m : List (String × Document)},
    memberTrees l = memberTrees m → l = m
  | [], [], _ => rfl
  | [], _ :: _, h => by cases h
  | _ :: _, [], h => by cases h
  | (j, d) :: l, (k, e) :: m, h => by
    obtain ⟨hkey, hvalue, htail⟩ := Members.cons.inj h
    rw [Option.some.inj hkey, Document.tree_injective hvalue, memberTrees_injective htail]

end

theorem strings_injective {texts others : List String}
    (h : Document.strings texts = Document.strings others) : texts = others := by
  simpa [Document.strings, List.map_inj_right] using h

theorem isSound_members {depth : Nat} {ms : List (String × Document)}
    (h : ∀ m ∈ ms, m.2.tree.isSound depth = true) :
    (Document.object ms).tree.isSound (depth + 1) = true := by
  show Members.isSound depth (memberTrees ms) = true
  induction ms with
  | nil => rfl
  | cons m ms ih =>
    have hhead := h m List.mem_cons_self
    have htail := ih fun m hm => h m (List.mem_cons_of_mem _ hm)
    simp [memberTrees, Members.isSound, hhead, htail]

theorem isSound_strings (depth : Nat) (texts : List String) :
    (Document.strings texts).tree.isSound (depth + 1) = true := by
  show Items.isSound depth (itemTrees (texts.map .string)) = true
  induction texts with
  | nil => rfl
  | cons text texts ih => exact ih

/-! ## Lists of texts -/

theorem readText_iff {depth : Nat} {t : Tree} {s : String} :
    readText depth t = .ok s ↔ t = (Document.string s).tree := by
  unfold readText
  split <;> simp_all [Document.tree]

theorem readEach_cons {α : Type} {decoder : Tree → Except Fault α} {head : Tree} {tail : Items}
    {l : List α} :
    readEach decoder (.cons head tail) = .ok l ↔
      ∃ a rest, decoder head = .ok a ∧ readEach decoder tail = .ok rest ∧ l = a :: rest := by
  simp only [readEach, bind_eq_ok]
  constructor
  · intro h
    obtain ⟨a, ha, rest, hrest, hl⟩ := h
    exact ⟨a, rest, ha, hrest, (Except.ok.inj hl).symm⟩
  · intro h
    obtain ⟨a, rest, ha, hrest, rfl⟩ := h
    exact ⟨a, ha, rest, hrest, rfl⟩

theorem readEach_text_iff {depth : Nat} : ∀ (items : Items) {texts : List String},
    readEach (readText depth) items = .ok texts ↔ items = itemTrees (texts.map .string)
  | .closed, texts => by cases texts <;> simp [readEach, itemTrees]
  | .broken, texts => by cases texts <;> simp [readEach, itemTrees]
  | .cons head tail, texts => by
    simp only [readEach_cons, readText_iff, readEach_text_iff tail]
    cases texts <;> simp [itemTrees]

/-- A list of texts is read from an array of strings. -/
theorem readList_text_iff {depth : Nat} {t : Tree} {texts : List String} :
    readList readText depth t = .ok texts ↔ 0 < depth ∧ t = (Document.strings texts).tree := by
  unfold readList
  split
  · simp [readEach_text_iff, Document.strings, Document.tree]
  · rename_i hother
    simp only [reduceCtorEq, Document.strings, Document.tree, false_iff, not_and]
    rintro hdepth rfl
    exact hother (depth - 1) _ (by omega) rfl

/-! ## Maps -/

section Maps

variable {α : Type}

/-- The members of an object give pairs, in their order: the value under each key is read. -/
inductive Members.Gives (decoder : Tree → Except Fault α) : Members → List (String × α) → Prop
  | closed : Gives decoder .closed []
  | cons {key : String} {value : Tree} {tail : Members} {a : α} {pairs : List (String × α)} :
      decoder value = .ok a → Gives decoder tail pairs →
      Gives decoder (.cons (some key) value tail) ((key, a) :: pairs)

/-- The members are put into the map one after the other. -/
theorem readEntries_iff {decoder : Tree → Except Fault α} :
    ∀ (members : Members) {m m' : OrderedMap String α},
      readEntries decoder m members = .ok m' ↔
        ∃ pairs, members.Gives decoder pairs ∧ m' = pairs.foldl (fun m e => m.insert e.1 e.2) m
  | .closed, m, m' => by
    rw [readEntries, Except.ok.injEq]
    constructor
    · intro h
      exact ⟨[], .closed, h.symm⟩
    · intro h
      obtain ⟨pairs, hpairs, rfl⟩ := h
      cases hpairs
      rfl
  | .broken, m, m' => by
    simp only [readEntries, reduceCtorEq, false_iff]
    intro h
    obtain ⟨pairs, hpairs, -⟩ := h
    cases hpairs
  | .cons none _ _, m, m' => by
    simp only [readEntries, reduceCtorEq, false_iff]
    intro h
    obtain ⟨pairs, hpairs, -⟩ := h
    cases hpairs
  | .cons (some key) value tail, m, m' => by
    simp only [readEntries, bind_eq_ok, readEntries_iff tail]
    constructor
    · intro h
      obtain ⟨a, ha, pairs, hpairs, rfl⟩ := h
      exact ⟨(key, a) :: pairs, .cons ha hpairs, rfl⟩
    · intro h
      obtain ⟨pairs, hpairs, rfl⟩ := h
      cases hpairs with
      | cons ha htail => exact ⟨_, ha, _, htail, rfl⟩

/-- **An object is read as the map that its pairs fill**: of a repeated key the last one counts. -/
theorem readMap_object_iff {decoder : Decoder α} {depth : Nat} {members : Members}
    {m : OrderedMap String α} :
    readMap decoder (depth + 1) (.object members) = .ok m ↔
      ∃ pairs, members.Gives (decoder depth) pairs ∧ m = .ofList pairs :=
  readEntries_iff members

/-- Pairs that were written are read as what their values are read as, if each of these survives. -/
theorem gives_written_iff {decoder : Tree → Except Fault α} {write : α → Document}
    {Survives : α → Prop} {back : α → α} {pairs others : List (String × α)}
    (h : ∀ e ∈ pairs, ∀ b, decoder (write e.2).tree = .ok b ↔ Survives e.2 ∧ b = back e.2) :
    (memberTrees (pairs.map fun (k, a) => (k, write a))).Gives decoder others ↔
      (∀ e ∈ pairs, Survives e.2) ∧ others = pairs.map fun e => (e.1, back e.2) := by
  induction pairs generalizing others with
  | nil =>
    constructor
    · intro hgives
      cases hgives
      exact ⟨nofun, rfl⟩
    · intro hsame
      rw [hsame.2]
      exact .closed
  | cons e pairs ih =>
    have hrest : ∀ f ∈ pairs, ∀ b,
        decoder (write f.2).tree = .ok b ↔ Survives f.2 ∧ b = back f.2 :=
      fun f hf => h f (List.mem_cons_of_mem _ hf)
    constructor
    · intro hgives
      cases hgives with
      | cons ha hpairs =>
        obtain ⟨hhead, rfl⟩ := (h e List.mem_cons_self _).1 ha
        obtain ⟨heach, rfl⟩ := (ih hrest).1 hpairs
        exact ⟨List.forall_mem_cons.2 ⟨hhead, heach⟩, rfl⟩
    · intro hsurvive
      obtain ⟨heach, rfl⟩ := hsurvive
      obtain ⟨hhead, htail⟩ := List.forall_mem_cons.1 heach
      exact .cons ((h e List.mem_cons_self _).2 ⟨hhead, rfl⟩) ((ih hrest).2 ⟨htail, rfl⟩)

/-- The object of texts under keys. -/
def Document.texts (pairs : List (String × String)) : Document :=
  .object (pairs.map fun (k, s) => (k, .string s))

theorem texts_injective {pairs others : List (String × String)}
    (h : Document.texts pairs = Document.texts others) : pairs = others := by
  have hinj : Function.Injective fun e : String × String => (e.1, Document.string e.2) := by
    intro e f hef
    simpa [Prod.ext_iff] using hef
  exact hinj.list_map (Document.object.inj h)

theorem gives_text_iff {depth : Nat} : ∀ (members : Members) {pairs : List (String × String)},
    members.Gives (readText depth) pairs ↔
      members = memberTrees (pairs.map fun (k, s) => (k, .string s))
  | .closed, pairs => by
    constructor
    · intro h
      cases h
      rfl
    · intro h
      cases pairs with
      | nil => exact .closed
      | cons e pairs => cases h
  | .broken, pairs => by
    constructor
    · intro h
      cases h
    · intro h
      cases pairs <;> cases h
  | .cons key value tail, pairs => by
    constructor
    · intro h
      cases h with
      | cons ha hpairs =>
        rw [readText_iff.1 ha, (gives_text_iff tail).1 hpairs]
        rfl
    · intro h
      cases pairs with
      | nil => cases h
      | cons e pairs =>
        obtain ⟨rfl, hvalue, htail⟩ := Members.cons.inj h
        exact .cons (readText_iff.2 hvalue) ((gives_text_iff tail).2 htail)

/-- A map of texts is read from an object of strings. -/
theorem readMap_text_iff {depth : Nat} {t : Tree} {m : OrderedMap String String} :
    readMap readText depth t = .ok m ↔
      0 < depth ∧ ∃ pairs, t = (Document.texts pairs).tree ∧ m = .ofList pairs := by
  constructor
  · intro h
    unfold readMap at h
    split at h
    · rename_i depth members
      obtain ⟨pairs, hpairs, rfl⟩ := (readEntries_iff members).1 h
      have hmembers := (gives_text_iff members).1 hpairs
      exact ⟨Nat.succ_pos depth, pairs, congrArg Tree.object hmembers, rfl⟩
    · cases h
  · intro h
    obtain ⟨hdepth, pairs, rfl, rfl⟩ := h
    obtain ⟨depth, rfl⟩ := Nat.exists_eq_add_of_lt hdepth
    rw [Nat.zero_add]
    exact readMap_object_iff.2 ⟨pairs, (gives_text_iff _).2 rfl, rfl⟩

end Maps

/-! ## Choices -/

theorem findVariant_iff {α : Type} {choices : List (String × α)}
    (h : (choices.map Prod.fst).Nodup) {name : String} {a : α} :
    findVariant choices name = .ok a ↔ (name, a) ∈ choices := by
  unfold findVariant
  cases hfind : choices.find? (·.1 == name) with
  | none =>
    have hnone := List.find?_eq_none.1 hfind (name, a)
    simpa using hnone
  | some found =>
    obtain ⟨k, b⟩ := found
    have hmem := List.mem_of_find?_eq_some hfind
    obtain rfl : k = name := by simpa using List.find?_some hfind
    simp only [Except.ok.injEq]
    constructor
    · rintro rfl
      exact hmem
    · intro hother
      exact (Prod.mk.inj (List.inj_on_of_nodup_map h hmem hother rfl)).2

/-- A document is one of several choices: its name, or an object whose only member has that name and
holds null. -/
def Document.Chooses {α : Type} (choices : List (String × α)) (d : Document) (a : α) : Prop :=
  ∃ name, (name, a) ∈ choices ∧ (d = .string name ∨ d = .object [(name, .null)])

theorem isUnit_tree_iff (d : Document) : isUnit false d.tree = true ↔ d = .null := by
  cases d with
  | object members => cases members <;> simp [isUnit, Document.tree, memberTrees]
  | _ => simp [isUnit, Document.tree]

theorem isClosed_memberTrees_iff (ms : List (String × Document)) :
    (memberTrees ms).isClosed = true ↔ ms = [] := by
  cases ms <;> simp [Members.isClosed, memberTrees]

theorem readVariant_object {α : Type} {choices : List (String × α)} {depth : Nat} {k : String}
    {d : Document} {rest : List (String × Document)} {a : α} :
    readVariant choices false (depth + 1) (Document.object ((k, d) :: rest)).tree = .ok a ↔
      findVariant choices k = .ok a ∧ d = .null ∧ rest = [] := by
  simp only [Document.tree, memberTrees, readVariant, Bool.false_and, Bool.false_eq_true, if_false,
    bind_eq_ok, ite_throw_eq_ok, Bool.and_eq_true, isUnit_tree_iff, isClosed_memberTrees_iff]
  constructor
  · intro h
    obtain ⟨b, hb, hend, rfl⟩ := h
    exact ⟨hb, hend⟩
  · intro h
    exact ⟨a, h.1, h.2, rfl⟩

/-- **A choice is read from the documents that choose it.** -/
theorem readVariant_iff {α : Type} {choices : List (String × α)}
    (hnames : (choices.map Prod.fst).Nodup) (depth : Nat) {d : Document} {a : α} :
    readVariant choices false (depth + 1) d.tree = .ok a ↔ d.Chooses choices a := by
  cases d with
  | string s => simp [readVariant, Document.tree, Document.Chooses, findVariant_iff hnames]
  | object members =>
    cases members with
    | nil => simp [readVariant, Document.tree, memberTrees, Document.Chooses]
    | cons m rest =>
      rw [readVariant_object, findVariant_iff hnames]
      constructor
      · intro h
        obtain ⟨hmem, hnull, hrest⟩ := h
        refine ⟨m.1, hmem, Or.inr ?_⟩
        rw [hrest, ← hnull]
      · intro h
        obtain ⟨name, hmem, hstring | hobject⟩ := h
        · cases hstring
        · cases hobject
          exact ⟨hmem, rfl, rfl⟩
  | _ => simp [readVariant, Document.tree, Document.Chooses]

theorem isSound_of_chooses {α : Type} {choices : List (String × α)} {d : Document} {a : α}
    (h : d.Chooses choices a) (depth : Nat) : d.tree.isSound (depth + 1) = true := by
  obtain ⟨name, -, rfl | rfl⟩ := h <;> rfl

/-- A document chooses one thing at most. -/
theorem chooses_unique {α : Type} {choices : List (String × α)} (h : (choices.map Prod.fst).Nodup)
    {d : Document} {a b : α} (ha : d.Chooses choices a) (hb : d.Chooses choices b) : a = b :=
  eq_of_read_iff (fun _ => readVariant_iff h 0) ha hb

end Json

end PropertyGraph
