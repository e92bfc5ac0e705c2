import PropertyGraph.Proofs.Policy.Conjunction
import PropertyGraph.Proofs.Store.Reading

/-!
# Scans are filters

A scan by policy goes through all elements of a kind and keeps those that the policy includes, so it
has them in the order of the store and each of them once.  What holds of the answers of policies
then holds of their scans: the members of a conjunction can be scanned with one after the other in
any order, a direction does not count, since no point of view is taken, and the labels of two
policies can be put together.  The last needs labels on both sides, since a policy without labels
includes every node.

* `Filters`, `filters_filter` — what a scan keeps of a table;
* `filter_allOf` — to filter by a conjunction is to filter by its members in turn, in any order;
* `scans_are_filters` — all of this for the scans of a store, whatever history led to it.
-/

namespace PropertyGraph

/-- A list keeps the elements that are asked for, in their order and each of them once. -/
structure Filters {ι η : Type} (idOf : η → ι) (all : List η) (asked : η → Bool)
    (kept : List η) : Prop where
  sublist : kept.Sublist all
  mem_iff : ∀ e, e ∈ kept ↔ e ∈ all ∧ asked e = true
  once : (kept.map idOf).Nodup

/-- Elements that are filed under their own ids are kept once. -/
theorem filters_filter {ι η : Type} [Ord ι] [Std.TransOrd ι] [Std.LawfulEqOrd ι] [DecidableEq ι]
    {table : OrderedMap ι η} {idOf : η → ι}
    (filed : ∀ id e, table.get? id = some e → idOf e = id) (asked : η → Bool) :
    Filters idOf table.values asked (table.values.filter asked) where
  sublist := List.filter_sublist
  mem_iff := fun _ => List.mem_filter
  once := by
    have hall : (table.values.map idOf).Nodup := by
      rw [table.map_values_of_keyed filed]
      exact table.nodup_keys
    exact hall.sublist (List.filter_sublist.map idOf)

/-- To filter by all questions at once is to filter by one after the other. -/
theorem filter_all_eq_foldl {π η : Type} (ask : π → η → Bool) (ps : List π) (l : List η) :
    (l.filter fun e => ps.all fun p => ask p e) = ps.foldl (fun kept p => kept.filter (ask p)) l := by
  induction ps generalizing l with
  | nil => simp
  | cons p ps ih =>
    rw [List.foldl_cons, ← ih, List.filter_filter]
    simp only [List.all_cons, Bool.and_comm]

/-- **To filter by a conjunction is to filter by its members in turn**, in whatever order. -/
theorem filter_allOf {π η : Type} [Composed π] {ask : π → η → Bool}
    (h : ∀ e, Judges fun p => ask p e) {members order : List π} (hperm : order.Perm members)
    (l : List η) :
    l.filter (ask (Composed.allOf members)) = order.foldl (fun kept p => kept.filter (ask p)) l := by
  have hask : ask (Composed.allOf members) = fun e => order.all fun p => ask p e := by
    funext e
    rw [hperm.all_eq]
    exact (h e).allOf members
  rw [hask, filter_all_eq_foldl]

namespace NodePolicy

theorem labels_includes_iff {names : NameSet} (h : names.isEmpty = false) (n : Node) :
    (NodePolicy.labels names).includes n = true ↔ ∃ name ∈ names, name ∈ n.labels := by
  simp [includes, h, Node.hasLabel, Membership.mem]

/-- Two policies that ask for labels include together what the policy for all their labels does. -/
theorem labels_union_includes {a b u : NameSet} (ha : a.isEmpty = false) (hb : b.isEmpty = false)
    (hu : ∀ name, name ∈ u ↔ name ∈ a ∨ name ∈ b) (n : Node) :
    (NodePolicy.labels u).includes n = true ↔
      (NodePolicy.labels a).includes n = true ∨ (NodePolicy.labels b).includes n = true := by
  have hne : u.isEmpty = false := by
    obtain ⟨name, hname⟩ := a.isEmpty_eq_false_iff.1 ha
    exact u.isEmpty_eq_false_iff.2 ⟨name, (hu name).2 (.inl hname)⟩
  rw [labels_includes_iff ha, labels_includes_iff hb, labels_includes_iff hne]
  simp only [hu, or_and_right, exists_or]

end NodePolicy

namespace Store

/-- **A scan by policy is a filter of the whole scan**, in every store that a history leads to.  A
conjunction scans as its members do one after the other, in whatever order; a direction makes no
difference; and where two policies ask for labels, the policy that asks for all of these labels scans
the nodes that one of the two does. -/
theorem scans_are_filters (history : List Operation) :
    let s := empty.run history
    (∀ p, Filters Node.id s.allNodes p.includes (s.nodesIn p)) ∧
      (∀ q, Filters Relationship.id s.allRelationships q.includes (s.relationshipsIn q)) ∧
      (∀ ps order : List NodePolicy, order.Perm ps → s.nodesIn (.allOf ps) =
        order.foldl (fun kept p => kept.filter p.includes) s.allNodes) ∧
      (∀ qs order : List RelationshipPolicy, order.Perm qs → s.relationshipsIn (.allOf qs) =
        order.foldl (fun kept q => kept.filter q.includes) s.allRelationships) ∧
      (∀ names direction other,
        s.relationshipsIn (.types names direction) = s.relationshipsIn (.types names other)) ∧
      ∀ a b u : NameSet, a.isEmpty = false → b.isEmpty = false →
        (∀ name, name ∈ u ↔ name ∈ a ∨ name ∈ b) →
        ∀ n, n ∈ s.nodesIn (.labels u) ↔
          n ∈ s.nodesIn (.labels a) ∨ n ∈ s.nodesIn (.labels b) := by
  intro s
  have hfiled : Filed s := filed_run history
  refine ⟨fun p => filters_filter hfiled.nodes p.includes,
    fun q => filters_filter hfiled.relationships q.includes,
    fun ps order hperm => filter_allOf NodePolicy.judges_includes hperm s.allNodes,
    fun qs order hperm => filter_allOf RelationshipPolicy.judges_includes hperm s.allRelationships,
    fun _ _ _ => rfl, ?union⟩
  case union =>
    intro a b u ha hb hu n
    simp only [nodesIn, List.mem_filter, NodePolicy.labels_union_includes ha hb hu, and_or_left]

/-- Nodes with a name. -/
def named : NodePolicy := .custom "Named" fun n => (n.get? "name").isSome

theorem scans_in_mixedHistory :
    let s := empty.run mixedHistory
    let a : NameSet := .ofList ["A"]
    let b : NameSet := .ofList ["B"]
    let u : NameSet := .ofList ["B", "A"]
    let n : Node := ⟨⟨1⟩, ["A", "A"], OrderedMap.empty.insert "name" (.string "a")⟩
    [named, .labels a].Perm [.labels a, named] ∧
      s.nodesIn (.allOf [.labels a, named]) =
        (s.allNodes.filter named.includes).filter (NodePolicy.labels a).includes ∧
      a.isEmpty = false ∧ b.isEmpty = false ∧ (∀ name, name ∈ u ↔ name ∈ a ∨ name ∈ b) ∧
      n ∈ s.nodesIn (.labels u) := by
  intro s a b u n
  have hperm : [named, .labels a].Perm [.labels a, named] := .swap _ _ _
  have hu : ∀ name, name ∈ u ↔ name ∈ a ∨ name ∈ b := by
    intro name
    simp [u, a, b, OrderedSet.mem_ofList, or_comm]
  obtain ⟨hnodes, -, hcomposite, -, -, hunion⟩ := scans_are_filters mixedHistory
  have hfound : n ∈ s.nodesIn (.labels a) := by
    have hall : n ∈ s.allNodes := by
      show n ∈ s.nodes.values
      exact (s.nodes.mem_values_iff n).2 ⟨⟨1⟩, rfl⟩
    exact ((hnodes (.labels a)).mem_iff n).2 ⟨hall, by decide⟩
  exact ⟨hperm, hcomposite _ _ hperm, by decide, by decide, hu,
    (hunion a b u (by decide) (by decide) hu n).2 (.inl hfound)⟩

/-- Without labels every node is included, so the labels of two policies are not put together if one
of them has none. -/
example :
    let s := empty.run mixedHistory
    (s.nodesIn (.labels .empty)).length = 2 ∧ s.nodesIn (.labels (.ofList ["B"])) = [] := by
  decide

end Store

end PropertyGraph
