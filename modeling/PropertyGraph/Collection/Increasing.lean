/-!
# Increasing lists

A list that increases along a strict order has one representation for its members.  Both the
ordered maps and the ordered sets of this library rest on that fact.

* `Increasing.eq_of_mem_iff` — two increasing lists with the same members are the same list.
-/

namespace PropertyGraph

/-- The list increases along `r`: every element is related to all later ones. -/
abbrev Increasing {α : Type} (r : α → α → Prop) (l : List α) : Prop := l.Pairwise r

/-- **Two increasing lists with the same members are the same list**, for a relation under which
no two elements precede each other. -/
theorem Increasing.eq_of_mem_iff {α : Type} {r : α → α → Prop}
    (asymm : ∀ a b, r a b → r b a → False) {l m : List α}
    (hl : Increasing r l) (hm : Increasing r m) (h : ∀ e, e ∈ l ↔ e ∈ m) : l = m := by
  induction l generalizing m with
  | nil =>
    cases m with
    | nil => rfl
    | cons e tl => exact absurd ((h e).2 List.mem_cons_self) (by simp)
  | cons a l ih =>
    cases m with
    | nil => exact absurd ((h a).1 List.mem_cons_self) (by simp)
    | cons b m =>
      obtain ⟨ha, hl'⟩ := List.pairwise_cons.1 hl
      obtain ⟨hb, hm'⟩ := List.pairwise_cons.1 hm
      have hab : a = b := by
        rcases List.mem_cons.1 ((h a).1 List.mem_cons_self) with e | e
        · exact e
        · rcases List.mem_cons.1 ((h b).2 List.mem_cons_self) with e' | e'
          · exact e'.symm
          · exact (asymm _ _ (hb _ e) (ha _ e')).elim
      subst hab
      congr 1
      refine ih hl' hm' fun e => ⟨fun he => ?_, fun he => ?_⟩
      · rcases List.mem_cons.1 ((h e).1 (List.mem_cons_of_mem _ he)) with e' | e'
        · subst e'
          exact (asymm _ _ (ha _ he) (ha _ he)).elim
        · exact e'
      · rcases List.mem_cons.1 ((h e).2 (List.mem_cons_of_mem _ he)) with e' | e'
        · subst e'
          exact (asymm _ _ (hb _ he) (hb _ he)).elim
        · exact e'

/-- In a total comparison no two elements precede each other. -/
theorem compare_lt_asymm {κ : Type} [Ord κ] [Std.TransOrd κ] (a b : κ)
    (hab : compare a b = .lt) (hba : compare b a = .lt) : False := by
  have h : compare a a = .lt := Std.TransCmp.lt_trans hab hba
  simp [Std.ReflCmp.compare_self] at h

end PropertyGraph
