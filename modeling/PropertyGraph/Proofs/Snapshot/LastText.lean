import Mathlib.Data.List.Dedup
import PropertyGraph.Snapshot.Properties
import PropertyGraph.Text.ByteOrder

/-!
# A map of texts holds the last text of each key

The texts of a snapshot come from pairs of a key and a text, and a key may stand in several of them.
The pairs may be collected one by one, or fill a search tree or a hashed map first; a hashed map
gives its entries in whatever order it likes.  It is always the same map that is made of them: each
key of the pairs once, in the order of the bytes, with the text of the last pair that has it.

A map has one list of entries.  So pairs that agree on the last texts make one map, and the
comparison of two maps, which reads their entries from the first on, is an order on maps.

* `IsLastText`, `lookup_reverse_iff` — the last text of a key in a list of pairs;
* `holdsLastTexts_ofList` — what can be asked of the map that pairs make;
* `ofTreeMap_ofList`, `ofHashMap_ofList`, `ofTreeMap_toTreeMap` — the ways to make it;
* `compareEntries_eq_lt_iff`, `transCmp_compareEntries` — the order of maps;
* `texts_are_the_last` — all of this.
-/

namespace PropertyGraph

/-- A text is the last one that pairs give to a key. -/
def IsLastText (pairs : List (String × String)) (key text : String) : Prop :=
  ∃ before after, pairs = before ++ (key, text) :: after ∧ ∀ e ∈ after, e.1 ≠ key

theorem lookup_eq_find? {κ ν : Type} [DecidableEq κ] (k : κ) (l : List (κ × ν)) :
    OrderedMap.lookup k l = (l.find? fun e => e.1 = k).map Prod.snd := by
  induction l with
  | nil => rfl
  | cons e l ih =>
    by_cases hk : k = e.1
    · simp [OrderedMap.lookup, hk]
    · simp [OrderedMap.lookup, hk, Ne.symm hk, ih]

/-- The first pair of a key, from the end, is its last one. -/
theorem lookup_reverse_iff (pairs : List (String × String)) (key text : String) :
    OrderedMap.lookup key pairs.reverse = some text ↔ IsLastText pairs key text := by
  rw [lookup_eq_find?, Option.map_eq_some_iff]
  constructor
  · rintro ⟨⟨k, t⟩, hfind, rfl⟩
    obtain ⟨hkey, after, before, hpairs, hafter⟩ := List.find?_eq_some_iff_append.1 hfind
    obtain rfl : k = key := by simpa using hkey
    refine ⟨before.reverse, after.reverse, ?_, fun e he => ?_⟩
    · simpa using congrArg List.reverse hpairs
    · simpa using hafter e (List.mem_reverse.1 he)
  · rintro ⟨before, after, rfl, hafter⟩
    refine ⟨(key, text), List.find?_eq_some_iff_append.2 ⟨by simp, ?_⟩, rfl⟩
    exact ⟨after.reverse, before.reverse, by simp, by simpa using hafter⟩

theorem lookup_reverse_eq_none_iff (pairs : List (String × String)) (key : String) :
    OrderedMap.lookup key pairs.reverse = none ↔ key ∉ pairs.map Prod.fst := by
  rw [← Option.not_isSome_iff_eq_none, OrderedMap.isSome_lookup_iff, List.map_reverse,
    List.mem_reverse]

namespace TextMap

/-! ## What is held -/

/-- A map holds the last text of each key of a list of pairs, and its questions are answered
accordingly. -/
structure HoldsLastTexts (pairs : List (String × String)) (m : TextMap) : Prop where
  get?_iff : ∀ key text, m.get? key = some text ↔ IsLastText pairs key text
  get?_eq_none_iff : ∀ key, m.get? key = none ↔ key ∉ pairs.map Prod.fst
  contains_iff : ∀ key, m.contains key = true ↔ ∃ text, m.get? key = some text
  mem_entries_iff : ∀ key text, (key, text) ∈ m.entries ↔ m.get? key = some text
  keys_eq : m.keys = m.entries.map Prod.fst
  increasing : m.keys.Pairwise fun a b => utf8Bytes a < utf8Bytes b
  size_eq : m.size = (pairs.map Prod.fst).dedup.length
  display_eq : m.display =
    "\x7b" ++ ", ".intercalate (m.entries.map fun (key, text) => key ++ ": " ++ text) ++ "\x7d"

variable (pairs : List (String × String))

theorem get?_ofList_iff (key text : String) :
    (OrderedMap.ofList pairs).get? key = some text ↔ IsLastText pairs key text := by
  rw [OrderedMap.get?_ofList, lookup_reverse_iff]

/-- The keys of the map are those of the pairs, each once. -/
theorem perm_keys_ofList :
    (OrderedMap.ofList pairs).keys.Perm (pairs.map Prod.fst).dedup := by
  apply (List.perm_ext_iff_of_nodup (OrderedMap.nodup_keys _) (List.nodup_dedup _)).2
  intro key
  rw [OrderedMap.mem_keys_ofList, List.mem_dedup]

/-- **Collected pairs make the map of their last texts.** -/
theorem holdsLastTexts_ofList : HoldsLastTexts pairs (.ofList pairs) where
  get?_iff := get?_ofList_iff pairs
  get?_eq_none_iff := fun key => by rw [OrderedMap.get?_ofList, lookup_reverse_eq_none_iff]
  contains_iff := fun key => by rw [OrderedMap.contains, Option.isSome_iff_exists]
  mem_entries_iff := OrderedMap.mem_entries_iff _
  keys_eq := rfl
  increasing := List.pairwise_map.2 <|
    (OrderedMap.ofList pairs).increasing.imp fun h => (utf8Bytes_lt_iff _ _).2 h
  size_eq := by
    rw [← (perm_keys_ofList pairs).length_eq, OrderedMap.keys, List.length_map]
    rfl
  display_eq := display_eq _

/-! ## Other containers -/

theorem get?_ofTreeMap (m : Std.TreeMap String String) (key : String) :
    (ofTreeMap m).get? key = m[key]? := by
  ext text
  rw [← OrderedMap.mem_entries_iff]
  exact Std.TreeMap.mem_toList_iff_getElem?_eq_some

theorem get?_ofHashMap (m : Std.HashMap String String) (key : String) :
    (ofHashMap m).get? key = m[key]? := by
  have hkeys : (m.toList.reverse.map Prod.fst).Nodup := by
    rw [List.map_reverse, Std.HashMap.map_fst_toList_eq_keys, List.nodup_reverse]
    exact Std.HashMap.nodup_keys
  ext text
  rw [ofHashMap, OrderedMap.get?_ofList]
  constructor
  · intro h
    have hmem := List.mem_reverse.1 (OrderedMap.mem_of_lookup h)
    exact Std.HashMap.mem_toList_iff_getElem?_eq_some.1 hmem
  · intro h
    have hmem := Std.HashMap.mem_toList_iff_getElem?_eq_some.2 h
    exact OrderedMap.lookup_of_mem hkeys (List.mem_reverse.2 hmem)

theorem treeMap_insertMany_eq_foldl (m : Std.TreeMap String String) :
    m.insertMany pairs = pairs.foldl (fun m e => m.insert e.1 e.2) m := by
  induction pairs generalizing m with
  | nil => exact Std.TreeMap.insertMany_nil
  | cons e pairs ih => rw [Std.TreeMap.insertMany_cons, ih, List.foldl_cons]

theorem hashMap_insertMany_eq_foldl (m : Std.HashMap String String) :
    m.insertMany pairs = pairs.foldl (fun m e => m.insert e.1 e.2) m := by
  induction pairs generalizing m with
  | nil => exact Std.HashMap.insertMany_nil
  | cons e pairs ih => rw [Std.HashMap.insertMany_cons, ih, List.foldl_cons]

theorem ofTreeMap_ofList : ofTreeMap (.ofList pairs) = .ofList pairs := by
  have hput : ∀ (m : Std.TreeMap String String) k v i,
      (m.insert k v)[i]? = if i = k then some v else m[i]? := by
    intro m k v i
    have hsame : compare k i = .eq ↔ i = k := Std.LawfulEqCmp.compare_eq_iff_eq.trans eq_comm
    simp only [Std.TreeMap.getElem?_insert, hsame]
  apply OrderedMap.ext_get?
  intro key
  have hfill := OrderedMap.look_foldl_put hput pairs ∅ key
  rw [Std.TreeMap.getElem?_emptyc, Option.or_none] at hfill
  rw [get?_ofTreeMap, Std.TreeMap.ofList_eq_insertMany_empty, treeMap_insertMany_eq_foldl, hfill,
    OrderedMap.get?_ofList]

theorem ofHashMap_ofList : ofHashMap (.ofList pairs) = .ofList pairs := by
  have hput : ∀ (m : Std.HashMap String String) k v i,
      (m.insert k v)[i]? = if i = k then some v else m[i]? := by
    intro m k v i
    have hsame : (k == i) = true ↔ i = k := beq_iff_eq.trans eq_comm
    simp only [Std.HashMap.getElem?_insert, hsame]
  apply OrderedMap.ext_get?
  intro key
  have hfill := OrderedMap.look_foldl_put hput pairs ∅ key
  rw [Std.HashMap.getElem?_empty, Option.or_none] at hfill
  rw [get?_ofHashMap, Std.HashMap.ofList_eq_insertMany_empty, hashMap_insertMany_eq_foldl, hfill,
    OrderedMap.get?_ofList]

theorem ofTreeMap_toTreeMap (m : TextMap) : ofTreeMap m.toTreeMap = m := by
  rw [toTreeMap, ofTreeMap_ofList]
  exact OrderedMap.ofList_of_perm (.refl _)

/-! ## The order of maps -/

/-- An entry comes before another one by the bytes of its key, or of its text under the same key. -/
def EntryBefore (x y : String × String) : Prop :=
  utf8Bytes x.1 < utf8Bytes y.1 ∨ x.1 = y.1 ∧ utf8Bytes x.2 < utf8Bytes y.2

theorem compareLex_eq_lt_iff {α : Type} (cmp : α → α → Ordering) [Std.LawfulEqCmp cmp]
    (l m : List α) : List.compareLex cmp l m = .lt ↔ List.Lex (fun a b => cmp a b = .lt) l m := by
  induction l generalizing m with
  | nil =>
    cases m with
    | nil => simp [List.compareLex_nil_nil]
    | cons b m => simp [List.compareLex_nil_cons]
  | cons a l ih =>
    cases m with
    | nil => simp [List.compareLex_cons_nil]
    | cons b m =>
      rw [List.compareLex_cons_cons, Ordering.then_eq_lt, Std.LawfulEqCmp.compare_eq_iff_eq, ih]
      constructor
      · rintro (h | ⟨rfl, h⟩)
        · exact .rel h
        · exact .cons h
      · intro h
        cases h with
        | rel h => exact .inl h
        | cons h => exact .inr ⟨rfl, h⟩

/-- Entries are compared by their keys and then by their texts. -/
abbrev compareEntry : String × String → String × String → Ordering :=
  compareLex (compareOn Prod.fst) (compareOn Prod.snd)

instance : Std.LawfulEqCmp compareEntry where
  eq_of_compare := by
    intro x y h
    obtain ⟨hkey, htext⟩ := compareLex_eq_eq.1 h
    exact Prod.ext (Std.LawfulEqCmp.eq_of_compare hkey) (Std.LawfulEqCmp.eq_of_compare htext)

theorem compareEntry_eq_lt_iff (x y : String × String) :
    compareEntry x y = .lt ↔ EntryBefore x y := by
  rw [EntryBefore, utf8Bytes_lt_iff, utf8Bytes_lt_iff, compareEntry, compareLex,
    Ordering.then_eq_lt, compareOn, compareOn, Std.LawfulEqCmp.compare_eq_iff_eq]

/-- **Maps are compared as their lists of entries are ordered.** -/
theorem compareEntries_eq_lt_iff (a b : TextMap) :
    a.compareEntries b = .lt ↔ List.Lex EntryBefore a.entries b.entries := by
  have hentry : (fun x y => compareEntry x y = .lt) = EntryBefore := by
    funext x y
    exact propext (compareEntry_eq_lt_iff x y)
  rw [← hentry]
  exact compareLex_eq_lt_iff compareEntry a.entries b.entries

theorem compareEntries_eq_eq_iff (a b : TextMap) : a.compareEntries b = .eq ↔ a = b := by
  have hentries : a.compareEntries b = .eq ↔ a.entries = b.entries :=
    @Std.LawfulEqCmp.compare_eq_iff_eq _ (List.compareLex compareEntry) _ _ _
  rw [hentries]
  constructor
  · intro h
    cases a
    cases b
    cases h
    rfl
  · exact congrArg OrderedMap.entries

theorem transCmp_compareEntries : Std.TransCmp compareEntries := by
  have h : Std.TransCmp (List.compareLex compareEntry) := inferInstance
  exact { eq_swap := h.eq_swap, isLE_trans := h.isLE_trans }

/-! ## All ways make one map -/

theorem ofList_eq_iff (pairs others : List (String × String)) :
    (.ofList pairs : TextMap) = .ofList others ↔
      ∀ key text, IsLastText pairs key text ↔ IsLastText others key text := by
  constructor
  · intro h key text
    rw [← get?_ofList_iff, h, get?_ofList_iff]
  · intro h
    refine OrderedMap.ext_get? fun key => Option.ext fun text => ?_
    rw [get?_ofList_iff, h, get?_ofList_iff]

/-- **A map of texts holds the last text of each key of the pairs that make it**, whether they are
collected, fill a search tree or a hashed map, or come back from the map itself.  Two lists of pairs
make the same map just if they agree on the last texts, and just then the maps compare as equal.
Otherwise the maps are ordered as their sorted lists of entries are, which is a total order. -/
theorem texts_are_the_last :
    (∀ pairs, HoldsLastTexts pairs (.ofList pairs) ∧
        ofTreeMap (.ofList pairs) = .ofList pairs ∧
        ofHashMap (.ofList pairs) = .ofList pairs ∧
        ofTreeMap (toTreeMap (.ofList pairs)) = .ofList pairs) ∧
      (∀ pairs others : List (String × String),
        ((.ofList pairs : TextMap) = .ofList others ↔
          ∀ key text, IsLastText pairs key text ↔ IsLastText others key text) ∧
        (compareEntries (.ofList pairs) (.ofList others) = .eq ↔
          ∀ key text, IsLastText pairs key text ↔ IsLastText others key text)) ∧
      (∀ a b, compareEntries a b = .lt ↔ List.Lex EntryBefore a.entries b.entries) ∧
      (∀ a b, compareEntries a b = .gt ↔ List.Lex EntryBefore b.entries a.entries) ∧
      Std.TransCmp compareEntries := by
  refine ⟨fun pairs => ?made, fun pairs others => ?equal, compareEntries_eq_lt_iff, ?after,
    transCmp_compareEntries⟩
  case made =>
    exact ⟨holdsLastTexts_ofList pairs, ofTreeMap_ofList pairs, ofHashMap_ofList pairs,
      ofTreeMap_toTreeMap _⟩
  case equal =>
    rw [compareEntries_eq_eq_iff, ofList_eq_iff]
    exact ⟨Iff.rfl, Iff.rfl⟩
  case after =>
    intro a b
    have := transCmp_compareEntries
    rw [Std.OrientedCmp.gt_iff_lt, compareEntries_eq_lt_iff]

/-- The second text of `a` counts, and it stands before `b`. -/
example :
    display (.ofList [("b", "1"), ("a", "2"), ("a", "3")]) = "\x7ba: 3, b: 1\x7d" := by
  decide

end TextMap

end PropertyGraph
