import Mathlib.Algebra.Group.Nat.Defs
import Mathlib.Data.List.Induction
import PropertyGraph.Sequence

/-!
# Counting with and without a walk

Items are counted by taking all of them, unless a size hint leaves no choice about their number.
Then no item is taken.  A hint that says nothing false about a sequence cannot leave another number,
so the two ways agree, and they agree with the list of all items.

Counts are numbers of 64 bits.  A sequence with more items than these can say has no hint that
leaves no choice, so its items are taken, and their number is lost on the way: the count starts
again from zero, or it breaks off.  Nothing that is held in memory is so long, but a range of
numbers is.

* `fold_along` — a fold along a finite sequence takes what is left of it, and each item once, as
  long as it can go on;
* `fold_along_endless` — a fold along an endless sequence is broken off, at whatever bound;
* `foldlM_next`, `foldlM_addLast` — what counting and collecting come to;
* `count_eq`, `toList?_eq` — the count with any hint, and the list;
* `count_agrees_with_walking` — the main statement.
-/

namespace PropertyGraph

/-- A hint that says nothing false about a sequence of `n` items. -/
structure SizeHint.Truthful (h : SizeHint) (n : Nat) : Prop where
  lower_le : h.lower.toNat ≤ n
  le_upper : ∀ upper, h.upper = some upper → n ≤ upper.toNat

/-- The only number that a hint without a choice is truthful for. -/
theorem SizeHint.Truthful.eq_lower {h : SizeHint} {n : Nat} (truthful : h.Truthful n)
    (certain : h.upper = some h.lower) : h.lower.toNat = n :=
  Nat.le_antisymm truthful.lower_le (truthful.le_upper h.lower certain)

/-! ## Folds -/

/-- The next item of a finite sequence is the first one of what is left. -/
theorem Sequence.get?_of_drop {α : Type} {items rest : List α} {n : Nat} {a : α}
    (h : items.drop n = a :: rest) :
    (finite items).get? n = some a ∧ items.drop (n + 1) = rest := by
  constructor
  · show items[n]? = some a
    rw [← List.head?_drop, h, List.head?_cons]
  · rw [← List.drop_drop, h, List.drop_one, List.tail_cons]

namespace Walk

variable {α β : Type} {update : β → α → Option β} {s : Sequence α} {p : Progress} {a : α} {b c : β}

theorem fold_of_update (hitem : s.get? p.taken = some a) (hupdate : update b a = some c)
    (bound : Nat) :
    (fold update (bound + 1) b).along s p =
      (fold update bound c).along s { p with taken := p.taken + 1 } := by
  rw [fold, along_ask_of_some hitem]
  simp only [hupdate]

theorem fold_of_no_update (hitem : s.get? p.taken = some a) (hupdate : update b a = none)
    (bound : Nat) : ((fold update (bound + 1) b).along s p).answer = none := by
  rw [fold, along_ask_of_some hitem]
  simp only [hupdate, along_done]

/-- **A fold that can go on takes what is left of a finite sequence**, one item after the other, and
meets the end. -/
theorem fold_along {items rest : List α} (hrest : items.drop p.taken = rest) {bound : Nat}
    (hbound : rest.length < bound) (hfold : rest.foldlM update b = some c) :
    (fold update bound b).along (.finite items) p =
      ⟨⟨p.taken + rest.length, true⟩, some c⟩ := by
  induction rest generalizing p bound b with
  | nil =>
    obtain ⟨bound, rfl⟩ := Nat.exists_eq_add_one_of_ne_zero (Nat.ne_of_gt hbound)
    have hend : (Sequence.finite items).get? p.taken = none :=
      List.getElem?_eq_none (List.drop_eq_nil_iff.1 hrest)
    cases hfold
    rw [fold, along_ask_of_none hend, along_done, List.length_nil, Nat.add_zero]
  | cons a rest ih =>
    cases bound with
    | zero => exact absurd hbound (Nat.not_lt_zero _)
    | succ bound =>
      obtain ⟨hitem, hnext⟩ := Sequence.get?_of_drop hrest
      have hleft : rest.length < bound := by simpa using hbound
      rw [List.foldlM_cons, Option.bind_eq_bind, Option.bind_eq_some_iff] at hfold
      obtain ⟨b', hupdate, hfold⟩ := hfold
      rw [fold_of_update hitem hupdate, ih hnext hleft hfold]
      simp only [List.length_cons, Nat.add_assoc, Nat.add_comm 1]

/-- A fold that cannot go on has no answer. -/
theorem fold_along_eq_none {items rest : List α} (hrest : items.drop p.taken = rest) (bound : Nat)
    (hfold : rest.foldlM update b = none) :
    ((fold update bound b).along (.finite items) p).answer = none := by
  induction rest generalizing p bound b with
  | nil => cases hfold
  | cons a rest ih =>
    cases bound with
    | zero => rfl
    | succ bound =>
      obtain ⟨hitem, hnext⟩ := Sequence.get?_of_drop hrest
      cases hupdate : update b a with
      | none => exact fold_of_no_update hitem hupdate bound
      | some b' =>
        rw [List.foldlM_cons, hupdate] at hfold
        rw [fold_of_update hitem hupdate]
        exact ih hnext bound hfold

/-- The items of an endless sequence are never all taken. -/
theorem fold_along_endless (item : Nat → α) (bound : Nat) (b : β) (p : Progress) :
    ((fold update bound b).along (.endless item) p).answer = none := by
  induction bound generalizing b p with
  | zero => rfl
  | succ bound ih =>
    have hitem : (Sequence.endless item).get? p.taken = some (item p.taken) := rfl
    cases hupdate : update b (item p.taken) with
    | none => exact fold_of_no_update hitem hupdate bound
    | some b' =>
      rw [fold_of_update hitem hupdate]
      exact ih b' _

/-- **All items are collected if their number is one of 64 bits.** -/
theorem foldlM_addLast (items : List α) :
    items.foldlM addLast [] = if items.length < UInt64.size then some items else none := by
  induction items using List.reverseRecOn with
  | nil => rfl
  | append_singleton items a ih =>
    rw [List.foldlM_append, ih, List.length_append, List.length_singleton]
    by_cases hroom : items.length < UInt64.size
    · rw [if_pos hroom, Option.bind_eq_bind, Option.bind_some, List.foldlM_cons, addLast]
      split <;> rfl
    · have hlonger : ¬ items.length + 1 < UInt64.size := by omega
      rw [if_neg hroom, if_neg hlonger]
      rfl

end Walk

/-! ## Counting in numbers of 64 bits -/

namespace Overflow

/-- What counting `n` items from zero comes to. -/
def total (overflow : Overflow) (n : Nat) : Option UInt64 :=
  match overflow with
  | .wraps => some (.ofNat n)
  | .breaksOff => if n < UInt64.size then some (.ofNat n) else none

theorem toNat_total (overflow : Overflow) {n : Nat} (h : n < UInt64.size) :
    overflow.total n = some (.ofNat n) ∧ (UInt64.ofNat n).toNat = n := by
  refine ⟨?_, UInt64.toNat_ofNat_of_lt h⟩
  cases overflow with
  | wraps => rfl
  | breaksOff => exact if_pos h

/-- The next total is that of one more item. -/
theorem total_bind_next (overflow : Overflow) (n : Nat) :
    (overflow.total n).bind overflow.next = overflow.total (n + 1) := by
  cases overflow with
  | wraps =>
    rw [total, total, Option.bind_some, next, UInt64.ofNat_add]
    rfl
  | breaksOff =>
    by_cases hroom : n < UInt64.size
    · have hsame : (UInt64.ofNat n).toNat = n := UInt64.toNat_ofNat_of_lt hroom
      rw [total, total, if_pos hroom, Option.bind_some, next, hsame, UInt64.ofNat_add]
      rfl
    · have hlonger : ¬ n + 1 < UInt64.size := by omega
      rw [total, total, if_neg hroom, if_neg hlonger, Option.bind_none]

/-- **Counting one item after the other comes to the total.** -/
theorem foldlM_next {α : Type} (overflow : Overflow) (items : List α) :
    items.foldlM (fun n _ => overflow.next n) 0 = overflow.total items.length := by
  induction items using List.reverseRecOn with
  | nil => cases overflow <;> rfl
  | append_singleton items a ih =>
    rw [List.foldlM_append, ih, List.length_append, List.length_singleton, ← total_bind_next]
    cases overflow.total items.length with
    | none => rfl
    | some n =>
      rw [Option.bind_eq_bind, Option.bind_some, Option.bind_some, List.foldlM_cons]
      cases overflow.next n <;> rfl

end Overflow

namespace Sequence

variable {α β : Type} {update : β → α → Option β} {b : β} {items : List α}

/-! ## Whole sequences -/

/-- **A fold along the whole of a finite sequence**: all items are taken if it can go on to the end,
and there is no answer if it cannot. -/
theorem walk_fold (update : β → α → Option β) (b : β) (items : List α) :
    ((finite items).walk (.fold update (finite items).questions b)).settled? =
      (items.foldlM update b).map fun c => ⟨⟨items.length, true⟩, c⟩ := by
  have hleft : items.drop ({} : Progress).taken = items := List.drop_zero
  cases hfold : items.foldlM update b with
  | some c =>
    rw [walk, questions, Walk.fold_along hleft (Nat.lt_add_one items.length) hfold, Nat.zero_add]
    rfl
  | none =>
    have hnone := Walk.fold_along_eq_none hleft (finite items).questions hfold
    rw [Taken.settled?, walk, hnone]
    rfl

theorem toList?_eq (items : List α) :
    (finite items).toList? =
      if items.length < UInt64.size then some ⟨⟨items.length, true⟩, items⟩ else none := by
  rw [toList?, Walk.toList, walk_fold, Walk.foldlM_addLast]
  split <;> rfl

/-- A hint that leaves no choice is the answer; with any other the items are taken. -/
theorem count_eq (overflow : Overflow) (hint : SizeHint) (items : List α) :
    (finite items).count overflow hint =
      if hint.upper = some hint.lower then some ⟨{}, hint.lower⟩
      else (overflow.total items.length).map fun n => ⟨⟨items.length, true⟩, n⟩ := by
  rw [count, Walk.count, SizeHint.certain?]
  by_cases hcertain : hint.upper = some hint.lower
  · rw [if_pos hcertain, if_pos hcertain]
    rfl
  · rw [if_neg hcertain, if_neg hcertain]
    simp only [walk_fold, Overflow.foldlM_next]

/-- **Counting agrees with walking.**  With any hint that says nothing false, the count of a
sequence of fewer than `2 ^ 64` items is their number and the length of the list of them, which has
them in their order.  A hint that leaves no choice saves all questions; otherwise every item is
taken once and the end is met.  Of a longer sequence there is no list and no hint without a choice.
All its items are taken, and what is left of their number is its remainder, unless the count breaks
off. -/
theorem count_agrees_with_walking (overflow : Overflow) (items : List α) (hint : SizeHint)
    (truthful : hint.Truthful items.length) :
    (items.length < 2 ^ 64 →
      ∃ counted listed, (finite items).count overflow hint = some counted ∧
        (finite items).toList? = some listed ∧
        counted.answer.toNat = items.length ∧ counted.answer.toNat = listed.answer.length ∧
        listed.answer = items ∧ listed.taken = items.length ∧
        (hint.upper = some hint.lower → counted.taken = 0 ∧ counted.ended = false) ∧
        (hint.upper ≠ some hint.lower → counted.taken = items.length ∧ counted.ended = true)) ∧
      (2 ^ 64 ≤ items.length →
        hint.upper ≠ some hint.lower ∧ (finite items).toList? = none ∧
          (finite items).count .breaksOff hint = none ∧
          ∃ counted, (finite items).count .wraps hint = some counted ∧
            counted.answer.toNat = items.length % 2 ^ 64 ∧ counted.taken = items.length ∧
            counted.ended = true) := by
  constructor
  · intro hroom
    have hroom : items.length < UInt64.size := hroom
    have hlist := toList?_eq items
    rw [if_pos hroom] at hlist
    have hcount := count_eq overflow hint items
    by_cases hcertain : hint.upper = some hint.lower
    · rw [if_pos hcertain] at hcount
      have hlower : hint.lower.toNat = items.length := truthful.eq_lower hcertain
      exact ⟨_, _, hcount, hlist, hlower, hlower, rfl, rfl, fun _ => ⟨rfl, rfl⟩,
        fun hloose => absurd hcertain hloose⟩
    · obtain ⟨htotal, hnumber⟩ := overflow.toNat_total hroom
      rw [if_neg hcertain, htotal] at hcount
      exact ⟨_, _, hcount, hlist, hnumber, hnumber, rfl, rfl,
        fun hno => absurd hno hcertain, fun _ => ⟨rfl, rfl⟩⟩
  · intro hlong
    have hlong : ¬ items.length < UInt64.size := Nat.not_lt_of_le hlong
    -- A hint without a choice would say a number that has no 64 bits.
    have hloose : hint.upper ≠ some hint.lower := by
      intro hcertain
      exact hlong (truthful.eq_lower hcertain ▸ hint.lower.toNat_lt_size)
    refine ⟨hloose, ?list, ?breaksOff, ?wraps⟩
    case list => rw [toList?_eq, if_neg hlong]
    case breaksOff => rw [count_eq, if_neg hloose, Overflow.total, if_neg hlong, Option.map_none]
    case wraps =>
      refine ⟨⟨⟨items.length, true⟩, .ofNat items.length⟩, ?_, UInt64.toNat_ofNat', rfl, rfl⟩
      rw [count_eq, if_neg hloose, Overflow.total, Option.map_some]

/-- A loose hint and one without a choice for the same three items. -/
theorem count_of_three_items :
    SizeHint.Truthful ⟨1, some 5⟩ [7, 7, 8].length ∧
      SizeHint.Truthful ⟨3, some 3⟩ [7, 7, 8].length ∧
      (∃ counted, (finite [7, 7, 8]).count .breaksOff ⟨1, some 5⟩ = some counted ∧
        counted.answer.toNat = 3 ∧ counted.taken = 3) ∧
      ∃ counted, (finite [7, 7, 8]).count .breaksOff ⟨3, some 3⟩ = some counted ∧
        counted.answer.toNat = 3 ∧ counted.taken = 0 := by
  have hloose : SizeHint.Truthful ⟨1, some 5⟩ [7, 7, 8].length := ⟨by decide, by simp⟩
  have hcertain : SizeHint.Truthful ⟨3, some 3⟩ [7, 7, 8].length := ⟨by decide, by simp⟩
  obtain ⟨hwalked, -⟩ := count_agrees_with_walking .breaksOff [7, 7, 8] ⟨1, some 5⟩ hloose
  obtain ⟨walked, _, hwalked, -, hthree, -, -, -, -, htaken⟩ := hwalked (by decide)
  obtain ⟨hbelieved, -⟩ := count_agrees_with_walking .breaksOff [7, 7, 8] ⟨3, some 3⟩ hcertain
  obtain ⟨believed, _, hbelieved, -, hthree', -, -, -, hnone, -⟩ := hbelieved (by decide)
  exact ⟨hloose, hcertain, ⟨walked, hwalked, hthree, (htaken (by decide)).1⟩,
    ⟨believed, hbelieved, hthree', (hnone rfl).1⟩⟩

/-- **A count can miss all items**: behind the greatest number it starts again, or it breaks off. -/
theorem count_of_too_many_items :
    let items := List.replicate (2 ^ 64) ()
    let hint : SizeHint := ⟨18446744073709551615, none⟩
    items.length = 2 ^ 64 ∧ hint.Truthful items.length ∧
      (finite items).count .wraps hint = some ⟨⟨2 ^ 64, true⟩, 0⟩ ∧
      (finite items).count .breaksOff hint = none := by
  intro items hint
  have hlength : items.length = 2 ^ 64 := List.length_replicate
  have hloose : hint.upper ≠ some hint.lower := nofun
  have htruthful : hint.Truthful items.length := by
    rw [hlength]
    exact ⟨by decide, nofun⟩
  refine ⟨hlength, htruthful, ?_, ?_⟩
  · rw [count_eq, if_neg hloose, hlength]
    rfl
  · rw [count_eq, if_neg hloose, hlength]
    rfl

end Sequence

end PropertyGraph
