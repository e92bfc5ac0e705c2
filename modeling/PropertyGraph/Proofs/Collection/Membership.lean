import PropertyGraph.Collection.Member
import PropertyGraph.Proofs.Sequence.Searching

/-!
# All collections of the same items answer alike

A target can be looked for in a list by walking along it, in a hashed set or map under its hash,
and in an ordered set or map along the order of the keys.  Where the collections were filled with
the same items, in whatever order and with whatever repetitions, all of them give the same answer:
they hold the target iff it is among the items.

Nothing is assumed of the hash function; two kinds of hashed sets may differ in it.  The search
along the order relies on the keys being in order, and an insertion keeps them so.

* `contains_eq` — what the walk along a finite sequence answers;
* `holds_orderedSet`, `holds_orderedMap` — what the searches along the order answer;
* `AnswersAlike` — the answers of all collections of some items;
* `collections_answer_alike` — the main statement.
-/

namespace PropertyGraph

namespace Sequence

variable {α : Type}

/-- Where an item passes the test, there is a first one. -/
theorem exists_firstAt (test : α → Bool) {items : List α} {a : α} (hmem : a ∈ items)
    (htest : test a = true) : ∃ i < items.length, (finite items).FirstAt test i := by
  have hlength : items.findIdx test < items.length :=
    List.findIdx_lt_length_of_exists ⟨a, hmem, htest⟩
  refine ⟨items.findIdx test, hlength, ⟨items[items.findIdx test], ?_, ?_⟩, ?_⟩
  · exact List.getElem?_eq_getElem hlength
  · exact List.findIdx_getElem
  · intro j hj b hb
    obtain ⟨hjlength, rfl⟩ := List.getElem?_eq_some_iff.1 hb
    exact List.not_of_lt_findIdx hj

/-- **A walk along the items tells whether the target is among them.** -/
theorem contains_eq [BEq α] [LawfulBEq α] [DecidableEq α] (items : List α) (target : α) :
    ∃ progress, (finite items).contains target (finite items).questions =
      some ⟨progress, decide (target ∈ items)⟩ := by
  by_cases hmem : target ∈ items
  · obtain ⟨i, hlength, hfirst⟩ := exists_firstAt (· == target) hmem (beq_self_eq_true target)
    have hbound : i < (finite items).questions := Nat.lt_succ_of_lt hlength
    refine ⟨⟨i + 1, false⟩, ?_⟩
    rw [contains, search_eq_of_firstAt hfirst, if_pos hbound, decide_eq_true hmem]
  · have hnone : ∀ a ∈ items, (a == target) = false := by
      intro a ha
      rw [beq_eq_false_iff_ne]
      rintro rfl
      exact hmem ha
    have hbound : items.length < (finite items).questions := Nat.lt_succ_self _
    refine ⟨⟨items.length, true⟩, ?_⟩
    rw [contains, search_eq_of_none hnone, if_pos hbound, decide_eq_false hmem]

end Sequence

section Ordered

variable {κ ν : Type} [Ord κ] [Std.TransOrd κ] [Std.LawfulEqOrd κ]

theorem holds_orderedSet (s : OrderedSet κ) (k : κ) : holds s k = true ↔ k ∈ s :=
  isAlong_iff_mem s.increasing

theorem holds_orderedMap (m : OrderedMap κ ν) (k : κ) : holds m k = true ↔ k ∈ m.keys :=
  isAlong_iff_mem (List.pairwise_map.2 m.increasing)

end Ordered

/-- The answers of all collections of some items to the question for a target: of the walk along
them, of the list and the array that they stand in, of the sets that they were inserted into, with
any hash function and along the order, and of the maps that have them as keys, with any values. -/
structure AnswersAlike (items : List String) (target : String) (answer : Bool) : Prop where
  walk : ∃ progress, (Sequence.finite items).contains target (Sequence.finite items).questions =
    some ⟨progress, answer⟩
  list : holds items target = answer
  array : holds items.toArray target = answer
  hashSet : ∀ [Hashable String], holds (Std.HashSet.ofList items) target = answer
  orderedSet : holds (OrderedSet.ofList items) target = answer
  hashMap : ∀ [Hashable String] {ν : Type} (pairs : List (String × ν)),
    pairs.map Prod.fst = items → holds (Std.HashMap.ofList pairs) target = answer
  orderedMap : ∀ {ν : Type} (pairs : List (String × ν)),
    pairs.map Prod.fst = items → holds (OrderedMap.ofList pairs) target = answer

theorem answersAlike (items : List String) (target : String) :
    AnswersAlike items target (decide (target ∈ items)) where
  walk := Sequence.contains_eq items target
  list := List.contains_eq_mem target items
  array := by
    show items.toArray.contains target = _
    rw [List.contains_toArray, List.contains_eq_mem]
  hashSet := by
    intro _
    show (Std.HashSet.ofList items).contains target = _
    rw [Std.HashSet.contains_ofList, List.contains_eq_mem]
  orderedSet := by
    rw [Bool.eq_iff_iff, holds_orderedSet, OrderedSet.mem_ofList, decide_eq_true_iff]
  hashMap := by
    rintro _ ν pairs rfl
    show (Std.HashMap.ofList pairs).contains target = _
    rw [Std.HashMap.contains_ofList, List.contains_eq_mem]
  orderedMap := by
    rintro ν pairs rfl
    rw [Bool.eq_iff_iff, holds_orderedMap, OrderedMap.mem_keys_ofList, decide_eq_true_iff]

/-- **All collections of the same items answer alike**: they hold the target iff it is among the
items.  So items in another order, or with other repetitions, give the same answer. -/
theorem collections_answer_alike (items : List String) (target : String) :
    AnswersAlike items target (decide (target ∈ items)) ∧
      ∀ others : List String, (∀ s, s ∈ others ↔ s ∈ items) →
        AnswersAlike others target (decide (target ∈ items)) := by
  refine ⟨answersAlike items target, fun others hsame => ?_⟩
  have hmem : decide (target ∈ others) = decide (target ∈ items) :=
    decide_eq_decide.2 (hsame target)
  rw [← hmem]
  exact answersAlike others target

theorem london_is_held :
    (∀ s, s ∈ ["London", "Prague"] ↔ s ∈ ["Prague", "London", "Prague"]) ∧
      AnswersAlike ["London", "Prague"] "London" true ∧
      [("Prague", 1), ("London", 2), ("Prague", 3)].map Prod.fst =
        ["Prague", "London", "Prague"] ∧
      holds (Std.HashMap.ofList [("Prague", 1), ("London", 2), ("Prague", 3)]) "London" = true ∧
      holds (OrderedMap.ofList [("Prague", 1), ("London", 2), ("Prague", 3)]) "London" = true := by
  obtain ⟨hhere, hothers⟩ := collections_answer_alike ["Prague", "London", "Prague"] "London"
  have hsame : ∀ s, s ∈ ["London", "Prague"] ↔ s ∈ ["Prague", "London", "Prague"] := by
    intro s
    grind
  have hheld : decide ("London" ∈ ["Prague", "London", "Prague"]) = true := by decide
  rw [hheld] at hhere hothers
  exact ⟨hsame, hothers _ hsame, rfl, hhere.hashMap _ rfl, hhere.orderedMap _ rfl⟩

end PropertyGraph
