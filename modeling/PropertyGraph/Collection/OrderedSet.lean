import PropertyGraph.Collection.Increasing

/-!
# Sets kept in increasing order

A set is a list of members that strictly increases, so it has one representation: two sets
with the same members are equal, print alike and compare alike.  Label sets of snapshots and the
name sets of the filtering policies are such sets of strings.

* `mem_insert`, `mem_ofList` — the members after each operation;
* `ext_mem` — two sets with the same members are the same set.
-/

namespace PropertyGraph

/-- A set, held as its members in strictly increasing order. -/
structure OrderedSet (κ : Type) [Ord κ] where
  toList : List κ
  increasing : toList.Pairwise (fun a b => compare a b = .lt)

namespace OrderedSet

variable {κ : Type}

/-- Members with `k` put before the first greater one, unless it is there already. -/
def place [Ord κ] (k : κ) : List κ → List κ
  | [] => [k]
  | j :: rest =>
    match compare k j with
    | .lt => k :: j :: rest
    | .eq => j :: rest
    | .gt => j :: place k rest

/-- The set without members. -/
def empty [Ord κ] : OrderedSet κ := ⟨[], List.Pairwise.nil⟩

instance [Ord κ] : Inhabited (OrderedSet κ) := ⟨empty⟩

instance [Ord κ] : Membership κ (OrderedSet κ) := ⟨fun s k => k ∈ s.toList⟩

instance [Ord κ] [DecidableEq κ] : DecidableEq (OrderedSet κ) := fun a b =>
  match a, b with
  | ⟨l, _⟩, ⟨r, _⟩ => decidable_of_iff (l = r) (by simp)

instance [Ord κ] [Hashable κ] : Hashable (OrderedSet κ) := ⟨fun s => hash s.toList⟩

/-- Whether `k` is a member. -/
def contains [Ord κ] [DecidableEq κ] (s : OrderedSet κ) (k : κ) : Bool := k ∈ s.toList

/-- Whether there is no member. -/
def isEmpty [Ord κ] (s : OrderedSet κ) : Bool := s.toList.isEmpty

theorem contains_iff [Ord κ] [DecidableEq κ] (s : OrderedSet κ) (k : κ) :
    s.contains k = true ↔ k ∈ s := by
  simp [contains, Membership.mem]

theorem isEmpty_eq_false_iff [Ord κ] (s : OrderedSet κ) : s.isEmpty = false ↔ ∃ k, k ∈ s := by
  rw [isEmpty, List.isEmpty_eq_false_iff_exists_mem]
  rfl

section Ordered

variable [Ord κ] [Std.TransOrd κ] [Std.LawfulEqOrd κ]

omit [Std.TransOrd κ] in
theorem mem_place (k i : κ) (l : List κ) : i ∈ place k l ↔ i = k ∨ i ∈ l := by
  induction l with
  | nil => simp [place]
  | cons j rest ih =>
    unfold place
    split
    · simp
    · rename_i heq
      have hkj : k = j := Std.LawfulEqCmp.compare_eq_iff_eq.1 heq
      subst hkj
      simp
    · simp only [List.mem_cons, ih]
      constructor <;> rintro (h | h | h) <;> simp [h]

theorem pairwise_place (k : κ) {l : List κ} (h : l.Pairwise (fun a b => compare a b = .lt)) :
    (place k l).Pairwise (fun a b => compare a b = .lt) := by
  induction l with
  | nil => simp [place]
  | cons j rest ih =>
    obtain ⟨hj, hrest⟩ := List.pairwise_cons.1 h
    unfold place
    split
    · rename_i hlt
      refine List.pairwise_cons.2 ⟨fun i hi => ?_, h⟩
      rcases List.mem_cons.1 hi with rfl | hi
      · exact hlt
      · exact Std.TransCmp.lt_trans hlt (hj i hi)
    · exact h
    · rename_i hgt
      refine List.pairwise_cons.2 ⟨fun i hi => ?_, ih hrest⟩
      rcases (mem_place k i rest).1 hi with rfl | hi
      · exact Std.OrientedCmp.gt_iff_lt.1 hgt
      · exact hj i hi

/-- The set with one more member. -/
def insert (s : OrderedSet κ) (k : κ) : OrderedSet κ :=
  ⟨place k s.toList, pairwise_place k s.increasing⟩

/-- The set of the members of a list, whatever their order and repetitions. -/
def ofList (l : List κ) : OrderedSet κ := l.foldl insert empty

theorem mem_insert (s : OrderedSet κ) (k i : κ) : i ∈ s.insert k ↔ i = k ∨ i ∈ s :=
  mem_place k i s.toList

theorem mem_foldl_insert (l : List κ) (s : OrderedSet κ) (i : κ) :
    i ∈ l.foldl insert s ↔ i ∈ l ∨ i ∈ s := by
  induction l generalizing s with
  | nil => simp
  | cons k rest ih =>
    rw [List.foldl_cons, ih, mem_insert]
    simp only [List.mem_cons]
    constructor
    · rintro (h | h | h)
      · exact Or.inl (Or.inr h)
      · exact Or.inl (Or.inl h)
      · exact Or.inr h
    · rintro ((h | h) | h)
      · exact Or.inr (Or.inl h)
      · exact Or.inl h
      · exact Or.inr (Or.inr h)

/-- **A set made from a list has the members of the list.** -/
theorem mem_ofList (l : List κ) (i : κ) : i ∈ ofList l ↔ i ∈ l := by
  rw [ofList, mem_foldl_insert]
  exact or_iff_left List.not_mem_nil

omit [Std.LawfulEqOrd κ] in
/-- **A set is its members.** -/
theorem ext_mem {a b : OrderedSet κ} (h : ∀ k, k ∈ a ↔ k ∈ b) : a = b := by
  have hab : a.toList = b.toList :=
    Increasing.eq_of_mem_iff compare_lt_asymm a.increasing b.increasing h
  cases a
  cases b
  cases hab
  rfl

end Ordered

end OrderedSet

end PropertyGraph
