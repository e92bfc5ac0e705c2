import PropertyGraph.Collection.OrderedMap
import PropertyGraph.Collection.OrderedSet
import Std.Data.HashMap
import Std.Data.HashSet

/-!
# Membership in collections

Every collection is asked for a member in its own way: lists and arrays are walked, hashed sets
and maps look the hash up, and ordered ones compare along their order.  A map holds its keys.

The search along the order stops at the first key that is not smaller.  It finds what is there
because the keys increase.

* `isAlong_iff_mem` — the search along increasing keys finds the keys.
-/

namespace PropertyGraph

/-- Collections that can be asked whether they hold an item. -/
class Collection (γ : Type) (α : outParam Type) where
  holds : γ → α → Bool

export Collection (holds)

instance {α : Type} [BEq α] : Collection (List α) α := ⟨fun l a => l.contains a⟩

instance {α : Type} [BEq α] : Collection (Array α) α := ⟨fun l a => l.contains a⟩

instance {α : Type} [BEq α] [Hashable α] : Collection (Std.HashSet α) α :=
  ⟨fun s a => s.contains a⟩

instance {α β : Type} [BEq α] [Hashable α] : Collection (Std.HashMap α β) α :=
  ⟨fun m a => m.contains a⟩

/-- Looks for a key along other keys, up to the first one that is not smaller. -/
def isAlong {κ : Type} [Ord κ] (k : κ) : List κ → Bool
  | [] => false
  | j :: rest =>
    match compare k j with
    | .lt => false
    | .eq => true
    | .gt => isAlong k rest

/-- **The search along increasing keys finds the keys.** -/
theorem isAlong_iff_mem {κ : Type} [Ord κ] [Std.TransOrd κ] [Std.LawfulEqOrd κ] {k : κ}
    {keys : List κ} (h : Increasing (fun a b => compare a b = .lt) keys) :
    isAlong k keys = true ↔ k ∈ keys := by
  induction keys with
  | nil => simp [isAlong]
  | cons j rest ih =>
    obtain ⟨hj, hrest⟩ := List.pairwise_cons.1 h
    have hself : k = j → compare k j = .eq := Std.LawfulEqCmp.compare_eq_iff_eq.2
    cases hcompare : compare k j with
    | lt =>
      -- All keys from here on are greater than `k`.
      have hne : k ≠ j := fun heq => by simp [hself heq] at hcompare
      have hnone : k ∉ rest := fun hk => compare_lt_asymm k j hcompare (hj k hk)
      simp [isAlong, hcompare, hne, hnone]
    | eq => simp [isAlong, Std.LawfulEqCmp.eq_of_compare hcompare]
    | gt =>
      have hne : k ≠ j := fun heq => by simp [hself heq] at hcompare
      simp [isAlong, hcompare, hne, ih hrest]

instance {κ : Type} [Ord κ] : Collection (OrderedSet κ) κ := ⟨fun s k => isAlong k s.toList⟩

instance {κ ν : Type} [Ord κ] : Collection (OrderedMap κ ν) κ := ⟨fun m k => isAlong k m.keys⟩

end PropertyGraph
