import PropertyGraph.Collection.Increasing

/-!
# Maps kept in the order of their keys

A map is a list of entries whose keys strictly increase.  The order is part of the type, so a
map has one representation: it can be compared, printed and walked without asking how it was
filled.  Property maps, snapshot properties and the element tables of the store are such maps.

The operations are `insert` (the last write to a key wins), `get?`, `contains`, `keys`, `size`,
`map` (on the held values) and `ofList`.  What each does is said through `get?`:

* `get?_empty`, `get?_insert`, `get?_map`, `get?_ofList` — the look-up after each operation; a map
  made from pairs holds the last pair of each key;
* `mem_entries_iff` — an entry is listed iff its key looks up to its value;
* `ext_get?`, `eq_of_size_le` — two maps with the same look-ups are the same map, and so are two of
  the same size of which one has the look-ups of the other;
* `ofList_of_perm` — the entries of a map, in any order, fill that map again;
* `keys_insert_of_get?`, `keys_insert_of_last` — a write to a key that is there changes no key, and
  a key beyond all others is added at the end.
-/

namespace PropertyGraph

/-- A map from keys to values, held as its entries in strictly increasing order of the keys. -/
structure OrderedMap (κ ν : Type) [Ord κ] where
  entries : List (κ × ν)
  increasing : entries.Pairwise (fun a b => compare a.1 b.1 = .lt)

namespace OrderedMap

variable {κ ν μ : Type}

/-- The value beside the first occurrence of a key in a list of entries. -/
def lookup [DecidableEq κ] (k : κ) : List (κ × ν) → Option ν
  | [] => none
  | (j, v) :: rest => if k = j then some v else lookup k rest

/-- Entries with `k` set to `v`: the entry of `k` is replaced where it stands, or put before the
first greater key. -/
def place [Ord κ] (k : κ) (v : ν) : List (κ × ν) → List (κ × ν)
  | [] => [(k, v)]
  | (j, w) :: rest =>
    match compare k j with
    | .lt => (k, v) :: (j, w) :: rest
    | .eq => (k, v) :: rest
    | .gt => (j, w) :: place k v rest

theorem mem_of_mem_place [Ord κ] {k : κ} {v : ν} {e : κ × ν} {l : List (κ × ν)}
    (h : e ∈ place k v l) : e = (k, v) ∨ e ∈ l := by
  induction l with
  | nil => simpa [place] using h
  | cons hd tl ih =>
    obtain ⟨j, w⟩ := hd
    unfold place at h
    split at h
    · simpa using h
    · rcases List.mem_cons.1 h with h | h
      · exact Or.inl h
      · exact Or.inr (List.mem_cons_of_mem _ h)
    · rcases List.mem_cons.1 h with h | h
      · exact Or.inr (h ▸ List.mem_cons_self)
      · exact (ih h).imp id (List.mem_cons_of_mem _)

/-- The map without entries. -/
def empty [Ord κ] : OrderedMap κ ν := ⟨[], List.Pairwise.nil⟩

instance [Ord κ] : Inhabited (OrderedMap κ ν) := ⟨empty⟩

section Ordered

variable [Ord κ] [Std.TransOrd κ] [Std.LawfulEqOrd κ]

theorem pairwise_place (k : κ) (v : ν) {l : List (κ × ν)}
    (h : l.Pairwise (fun a b => compare a.1 b.1 = .lt)) :
    (place k v l).Pairwise (fun a b => compare a.1 b.1 = .lt) := by
  induction l with
  | nil => simp [place]
  | cons hd tl ih =>
    obtain ⟨j, w⟩ := hd
    obtain ⟨hj, htl⟩ := List.pairwise_cons.1 h
    unfold place
    split
    · rename_i hlt
      refine List.pairwise_cons.2 ⟨fun e he => ?_, h⟩
      rcases List.mem_cons.1 he with rfl | he
      · exact hlt
      · exact Std.TransCmp.lt_trans hlt (hj e he)
    · rename_i heq
      have hkj : k = j := Std.LawfulEqCmp.compare_eq_iff_eq.1 heq
      exact List.pairwise_cons.2 ⟨fun e he => hkj ▸ hj e he, htl⟩
    · rename_i hgt
      refine List.pairwise_cons.2 ⟨fun e he => ?_, ih htl⟩
      rcases mem_of_mem_place he with rfl | he
      · exact Std.OrientedCmp.gt_iff_lt.1 hgt
      · exact hj e he

/-- The map with `k` set to `v`; an earlier value of `k` is lost. -/
def insert (m : OrderedMap κ ν) (k : κ) (v : ν) : OrderedMap κ ν :=
  ⟨place k v m.entries, pairwise_place k v m.increasing⟩

/-- The map filled by inserting the pairs one after the other: the last pair of a key wins. -/
def ofList (pairs : List (κ × ν)) : OrderedMap κ ν :=
  pairs.foldl (fun m e => m.insert e.1 e.2) empty

end Ordered

section Views

variable [Ord κ]

/-- The keys, in increasing order. -/
def keys (m : OrderedMap κ ν) : List κ := m.entries.map Prod.fst

/-- The values, in the order of their keys. -/
def values (m : OrderedMap κ ν) : List ν := m.entries.map Prod.snd

/-- The number of keys. -/
def size (m : OrderedMap κ ν) : Nat := m.entries.length

/-- Whether the map has no entry. -/
def isEmpty (m : OrderedMap κ ν) : Bool := m.entries.isEmpty

/-- The map with every value changed by `f`; the keys stay. -/
def map (f : ν → μ) (m : OrderedMap κ ν) : OrderedMap κ μ :=
  ⟨m.entries.map (fun e => (e.1, f e.2)), List.pairwise_map.2 m.increasing⟩

variable [DecidableEq κ]

/-- The value of a key. -/
def get? (m : OrderedMap κ ν) (k : κ) : Option ν := lookup k m.entries

/-- Whether a key has a value. -/
def contains (m : OrderedMap κ ν) (k : κ) : Bool := (m.get? k).isSome

end Views

instance [Ord κ] [DecidableEq κ] [DecidableEq ν] : DecidableEq (OrderedMap κ ν) := fun a b =>
  match a, b with
  | ⟨l, _⟩, ⟨r, _⟩ => decidable_of_iff (l = r) (by simp)

instance [Ord κ] [Hashable κ] [Hashable ν] : Hashable (OrderedMap κ ν) := ⟨fun m => hash m.entries⟩

/-! ## Look-ups after each operation -/

section Lemmas

variable [DecidableEq κ]

theorem mem_of_lookup {k : κ} {v : ν} {l : List (κ × ν)} (h : lookup k l = some v) :
    (k, v) ∈ l := by
  induction l with
  | nil => simp [lookup] at h
  | cons hd tl ih =>
    obtain ⟨j, w⟩ := hd
    unfold lookup at h
    split at h
    · rename_i hk
      subst hk
      simp_all
    · exact List.mem_cons_of_mem _ (ih h)

theorem isSome_lookup_iff (k : κ) (l : List (κ × ν)) :
    (lookup k l).isSome = true ↔ k ∈ l.map Prod.fst := by
  induction l with
  | nil => simp [lookup]
  | cons hd tl ih =>
    obtain ⟨j, w⟩ := hd
    by_cases hk : k = j <;> simp [lookup, hk, ih]

theorem lookup_map (f : ν → μ) (k : κ) (l : List (κ × ν)) :
    lookup k (l.map (fun e => (e.1, f e.2))) = (lookup k l).map f := by
  induction l with
  | nil => rfl
  | cons hd tl ih =>
    obtain ⟨j, w⟩ := hd
    by_cases hk : k = j <;> simp [lookup, hk, ih]

variable [Ord κ]

theorem get?_map (f : ν → μ) (m : OrderedMap κ ν) (k : κ) :
    (m.map f).get? k = (m.get? k).map f :=
  lookup_map f k m.entries

variable [Std.TransOrd κ] [Std.LawfulEqOrd κ]

omit [Std.TransOrd κ] in
theorem lookup_place (k i : κ) (v : ν) (l : List (κ × ν)) :
    lookup i (place k v l) = if i = k then some v else lookup i l := by
  induction l with
  | nil => simp [place, lookup]
  | cons hd tl ih =>
    obtain ⟨j, w⟩ := hd
    unfold place
    split
    · simp [lookup]
    · rename_i heq
      have hkj : k = j := Std.LawfulEqCmp.compare_eq_iff_eq.1 heq
      subst hkj
      by_cases hi : i = k <;> simp [lookup, hi]
    · rename_i hgt
      have hne : k ≠ j := by
        intro hkj
        subst hkj
        simp [Std.ReflCmp.compare_self] at hgt
      by_cases hi : i = j
      · subst hi
        simp [lookup, Ne.symm hne]
      · simp [lookup, hi, ih]

omit [Ord κ] [Std.TransOrd κ] [Std.LawfulEqOrd κ] in
/-- Without repeated keys each entry is found, wherever it stands. -/
theorem lookup_of_mem {k : κ} {v : ν} {l : List (κ × ν)} (h : (l.map Prod.fst).Nodup)
    (hm : (k, v) ∈ l) : lookup k l = some v := by
  induction l with
  | nil => simp at hm
  | cons hd tl ih =>
    obtain ⟨j, w⟩ := hd
    obtain ⟨hj, htl⟩ := List.nodup_cons.1 h
    rcases List.mem_cons.1 hm with he | he
    · cases he
      simp [lookup]
    · have hne : k ≠ j := by
        rintro rfl
        exact hj (List.mem_map.2 ⟨_, he, rfl⟩)
      simp [lookup, hne, ih htl he]

omit [DecidableEq κ] [Std.TransOrd κ] in
theorem nodup_keys (m : OrderedMap κ ν) : m.keys.Nodup := by
  refine List.pairwise_map.2 (m.increasing.imp fun {a b} hlt heq => ?_)
  simp [heq, Std.ReflCmp.compare_self] at hlt

omit [Std.TransOrd κ] [Std.LawfulEqOrd κ] in
@[simp] theorem get?_empty (k : κ) : (empty : OrderedMap κ ν).get? k = none := rfl

/-- After an insertion the key has the new value and every other key the old one. -/
theorem get?_insert (m : OrderedMap κ ν) (k i : κ) (v : ν) :
    (m.insert k v).get? i = if i = k then some v else m.get? i :=
  lookup_place k i v m.entries

/-- What holds of every entry and of a new one holds of every entry after the insertion. -/
theorem forall_get?_insert {m : OrderedMap κ ν} {k : κ} {v : ν}
    {p : κ → ν → Prop} (old : ∀ i w, m.get? i = some w → p i w) (new : p k v) :
    ∀ i w, (m.insert k v).get? i = some w → p i w := by
  intro i w h
  rw [get?_insert] at h
  by_cases hik : i = k
  · rw [if_pos hik] at h
    cases h
    exact hik ▸ new
  · rw [if_neg hik] at h
    exact old i w h

theorem get?_insert_ne_none {m : OrderedMap κ ν} {i : κ} (k : κ) (v : ν)
    (h : m.get? i ≠ none) : (m.insert k v).get? i ≠ none := by
  rw [get?_insert]
  by_cases hik : i = k
  · simp [hik]
  · rwa [if_neg hik]

omit [Ord κ] [Std.TransOrd κ] [Std.LawfulEqOrd κ] in
/-- Whatever is looked up by keys and filled with pairs: the last pair of a key wins, and a key
without a pair looks up as before. -/
theorem look_foldl_put {γ : Type} {look : γ → κ → Option ν} {put : γ → κ → ν → γ}
    (look_put : ∀ c k v i, look (put c k v) i = if i = k then some v else look c i)
    (pairs : List (κ × ν)) (c : γ) (k : κ) :
    look (pairs.foldl (fun c e => put c e.1 e.2) c) k =
      (lookup k pairs.reverse).or (look c k) := by
  induction pairs generalizing c with
  | nil => simp [lookup]
  | cons e rest ih =>
    have hsnoc : ∀ l : List (κ × ν),
        lookup k (l ++ [e]) = (lookup k l).or (if k = e.1 then some e.2 else none) := by
      intro l
      induction l with
      | nil => simp [lookup]
      | cons hd tl ihl =>
        by_cases hk : k = hd.1 <;> simp [lookup, hk, ihl]
    rw [List.foldl_cons, ih, List.reverse_cons, hsnoc, look_put]
    by_cases hk : k = e.1 <;> simp [hk]

/-- Filling a map further: the last pair of a key wins, and a key without a pair keeps its value. -/
theorem get?_foldl_insert (pairs : List (κ × ν)) (m : OrderedMap κ ν) (k : κ) :
    (pairs.foldl (fun m e => m.insert e.1 e.2) m).get? k =
      (lookup k pairs.reverse).or (m.get? k) :=
  look_foldl_put (fun m k v i => get?_insert m k i v) pairs m k

/-- **The last pair of a key wins.** -/
theorem get?_ofList (pairs : List (κ × ν)) (k : κ) :
    (ofList pairs).get? k = lookup k pairs.reverse := by
  simp [ofList, get?_foldl_insert]

omit [Std.TransOrd κ] in
/-- **The entries are the look-ups.** -/
theorem mem_entries_iff (m : OrderedMap κ ν) (k : κ) (v : ν) :
    (k, v) ∈ m.entries ↔ m.get? k = some v :=
  ⟨lookup_of_mem m.nodup_keys, mem_of_lookup⟩

/-- **A map is what it looks up.** -/
theorem ext_get? {a b : OrderedMap κ ν} (h : ∀ k, a.get? k = b.get? k) : a = b := by
  have hab : a.entries = b.entries :=
    Increasing.eq_of_mem_iff (fun _ _ => compare_lt_asymm _ _) a.increasing b.increasing fun e => by
      rw [mem_entries_iff, mem_entries_iff, h]
  cases a
  cases b
  cases hab
  rfl

/-- **A map is filled with its entries, in whatever order they come.** -/
theorem ofList_of_perm {m : OrderedMap κ ν} {pairs : List (κ × ν)} (h : pairs.Perm m.entries) :
    ofList pairs = m := by
  have hkeys : (pairs.reverse.map Prod.fst).Nodup :=
    (((List.reverse_perm pairs).trans h).map Prod.fst).nodup_iff.2 m.nodup_keys
  have hmem : ∀ k v, (k, v) ∈ pairs.reverse ↔ m.get? k = some v := by
    intro k v
    rw [List.mem_reverse, h.mem_iff, mem_entries_iff]
  refine ext_get? fun k => Option.ext fun v => ?_
  rw [get?_ofList, ← hmem]
  exact ⟨mem_of_lookup, lookup_of_mem hkeys⟩

/-- **A map within another one that is no larger is that map.** -/
theorem eq_of_size_le {a b : OrderedMap κ ν}
    (hsub : ∀ k v, a.get? k = some v → b.get? k = some v) (hsize : b.size ≤ a.size) : a = b := by
  have hentries : ∀ e ∈ a.entries, e ∈ b.entries := fun e he =>
    (mem_entries_iff b e.1 e.2).2 (hsub e.1 e.2 ((mem_entries_iff a e.1 e.2).1 he))
  have hnodup : a.entries.Nodup :=
    List.Pairwise.of_map Prod.fst (fun _ _ hne heq => hne (congrArg Prod.fst heq)) a.nodup_keys
  refine ext_get? fun k => Option.ext fun v => ⟨hsub k v, fun hv => ?_⟩
  -- An entry of `b` alone would make `b` larger than `a`.
  apply Classical.byContradiction
  intro hnone
  have hnew : (k, v) ∉ a.entries := fun he => hnone ((mem_entries_iff a k v).1 he)
  have hlength : ((k, v) :: a.entries).length ≤ b.entries.length :=
    (List.nodup_cons.2 ⟨hnew, hnodup⟩).length_le_of_subset <|
      List.cons_subset.2 ⟨(mem_entries_iff b k v).2 hv, hentries⟩
  simp only [size, List.length_cons] at hsize hlength
  omega

omit [Std.TransOrd κ] in
theorem mem_keys_iff (m : OrderedMap κ ν) (k : κ) : k ∈ m.keys ↔ (m.get? k).isSome := by
  simp only [keys, List.mem_map, Prod.exists, exists_and_right, exists_eq_right,
    Option.isSome_iff_exists]
  exact exists_congr fun v => mem_entries_iff m k v

/-- A map made from pairs has their keys. -/
theorem mem_keys_ofList (pairs : List (κ × ν)) (k : κ) :
    k ∈ (ofList pairs).keys ↔ k ∈ pairs.map Prod.fst := by
  rw [mem_keys_iff, get?_ofList, isSome_lookup_iff, List.map_reverse, List.mem_reverse]

omit [DecidableEq κ] [Std.TransOrd κ] [Std.LawfulEqOrd κ] in
theorem length_values (m : OrderedMap κ ν) : m.values.length = m.size := by
  simp [values, size]

omit [Std.TransOrd κ] in
theorem mem_values_iff (m : OrderedMap κ ν) (v : ν) : v ∈ m.values ↔ ∃ k, m.get? k = some v := by
  simp only [values, List.mem_map, Prod.exists, exists_eq_right]
  exact exists_congr fun k => mem_entries_iff m k v

/-- A map stays as it is just if each of its values does. -/
theorem map_eq_self_iff {m : OrderedMap κ ν} {f : ν → ν} :
    m.map f = m ↔ ∀ v ∈ m.values, f v = v := by
  constructor
  · intro h v hv
    obtain ⟨k, hk⟩ := (mem_values_iff m v).1 hv
    have hsame := congrArg (fun m => m.get? k) h
    simpa [get?_map, hk] using hsame
  · intro h
    refine ext_get? fun k => ?_
    rw [get?_map]
    cases hk : m.get? k with
    | none => rfl
    | some v => rw [Option.map_some, h v ((mem_values_iff m v).2 ⟨k, hk⟩)]

omit [Std.TransOrd κ] in
/-- Values that tell their keys are listed in the order of the keys. -/
theorem map_values_of_keyed (m : OrderedMap κ ν) {key : ν → κ}
    (h : ∀ k v, m.get? k = some v → key v = k) : m.values.map key = m.keys := by
  simp only [values, keys, List.map_map]
  refine List.map_congr_left fun e he => ?_
  exact h e.1 e.2 ((mem_entries_iff m e.1 e.2).1 he)

omit [DecidableEq κ] in
theorem map_fst_place_of_mem {k : κ} {v : ν} {l : List (κ × ν)}
    (h : l.Pairwise (fun a b => compare a.1 b.1 = .lt)) (hk : k ∈ l.map Prod.fst) :
    (place k v l).map Prod.fst = l.map Prod.fst := by
  induction l with
  | nil => simp at hk
  | cons hd tl ih =>
    obtain ⟨j, w⟩ := hd
    obtain ⟨hj, htl⟩ := List.pairwise_cons.1 h
    by_cases hkj : k = j
    · subst hkj
      simp [place, Std.ReflCmp.compare_self]
    · have hmem : k ∈ tl.map Prod.fst := by simpa [hkj] using hk
      obtain ⟨e, he, rfl⟩ := List.mem_map.1 hmem
      have hgt : compare e.1 j = .gt := Std.OrientedCmp.gt_iff_lt.2 (hj e he)
      simp [place, hgt, ih htl hmem]

/-- A write to a key that is there changes no key. -/
theorem keys_insert_of_get? {m : OrderedMap κ ν} {k : κ} {w : ν} (v : ν)
    (h : m.get? k = some w) : (m.insert k v).keys = m.keys :=
  map_fst_place_of_mem m.increasing ((mem_keys_iff m k).2 (by simp [h]))

omit [DecidableEq κ] [Std.LawfulEqOrd κ] in
theorem map_fst_place_of_last {k : κ} {v : ν} {l : List (κ × ν)}
    (h : ∀ j ∈ l.map Prod.fst, compare j k = .lt) :
    (place k v l).map Prod.fst = l.map Prod.fst ++ [k] := by
  induction l with
  | nil => rfl
  | cons hd tl ih =>
    obtain ⟨j, w⟩ := hd
    have hgt : compare k j = .gt := Std.OrientedCmp.gt_iff_lt.2 (h j (by simp))
    have htl := ih fun i hi => h i (List.mem_cons_of_mem _ hi)
    simp [place, hgt, htl]

omit [DecidableEq κ] in
/-- A key beyond all others is added at the end. -/
theorem keys_insert_of_last {m : OrderedMap κ ν} {k : κ} (v : ν)
    (h : ∀ j ∈ m.keys, compare j k = .lt) : (m.insert k v).keys = m.keys ++ [k] :=
  map_fst_place_of_last h

end Lemmas

end OrderedMap

end PropertyGraph
