import PropertyGraph.Proofs.Json.ValueText
import PropertyGraph.Sequence

/-!
# Searching takes no more than it needs

A search for a target takes the items up to the first one that equals it, and all items of a finite
sequence if none does.  The search for a single item takes one item more than it may find, since it
must see that nothing follows.  Neither needs a sequence to have an end.

A walk knows the items that it was given and nothing else.  So another sequence that begins with the
items that were taken, and ends with them if the end was met, gives the same answer for the same
number of items, whatever it goes on with.  This holds of every walk.

Equality of values is that of users: a value with a NaN in it equals nothing, not even itself, and it
is never found.

* `along_eq_of_agreeUpTo` — a walk depends on the items that it takes;
* `search_skip` — the items that do not pass the test are taken one by one;
* `search_eq_of_firstAt`, `search_eq_of_none`, `search_eq_none` — what becomes of a search;
* `isNaN_eq_false_of_equals` — what equals something has no NaN in it;
* `questions_take_no_more_than_needed` — the main statement.
-/

namespace PropertyGraph

variable {α β : Type}

/-! ## What a walk depends on -/

/-- A sequence goes like another one as far as a walk came along that one: it has the items that
were taken, and it ends there if the end was met. -/
structure Sequence.AgreeUpTo (s t : Sequence α) (p : Progress) : Prop where
  items : ∀ i < p.taken, t.get? i = s.get? i
  ended : p.ended = true → t.get? p.taken = none

namespace Walk

theorem taken_le_along (w : Walk α β) (s : Sequence α) (p : Progress) :
    p.taken ≤ (w.along s p).taken := by
  induction w generalizing p with
  | done b => exact Nat.le_refl _
  | ask goOn ih =>
    cases hitem : s.get? p.taken with
    | none =>
      rw [along_ask_of_none hitem]
      exact ih none { p with ended := true }
    | some a =>
      rw [along_ask_of_some hitem]
      have hle := ih (some a) { p with taken := p.taken + 1 }
      exact Nat.le_trans (Nat.le_succ _) hle

/-- Who has met the end makes no further progress. -/
theorem along_at_end (w : Walk α β) {s : Sequence α} {p : Progress}
    (hend : s.get? p.taken = none) (hended : p.ended = true) : (w.along s p).toProgress = p := by
  induction w with
  | done b => rfl
  | ask goOn ih =>
    have hp : { p with ended := true } = p := by rw [← hended]
    rw [along_ask_of_none hend, hp]
    exact ih none

/-- **A walk depends on the items that it takes**, and on the end if it meets it. -/
theorem along_eq_of_agreeUpTo (w : Walk α β) {s t : Sequence α} {p : Progress}
    (h : s.AgreeUpTo t (w.along s p).toProgress) : w.along t p = w.along s p := by
  induction w generalizing p with
  | done b => rfl
  | ask goOn ih =>
    cases hitem : s.get? p.taken with
    | none =>
      rw [along_ask_of_none hitem] at h ⊢
      have hprogress := (goOn none).along_at_end (p := { p with ended := true }) hitem rfl
      have hend : t.get? p.taken = none := by
        have hended := h.ended
        rw [hprogress] at hended
        exact hended rfl
      rw [along_ask_of_none hend]
      exact ih none h
    | some a =>
      rw [along_ask_of_some hitem] at h ⊢
      have hlt : p.taken < ((goOn (some a)).along s { p with taken := p.taken + 1 }).taken :=
        (goOn (some a)).taken_le_along s { p with taken := p.taken + 1 }
      have hsame : t.get? p.taken = some a := (h.items p.taken hlt).trans hitem
      rw [along_ask_of_some hsame]
      exact ih (some a) h

/-! ## Searching -/

/-- Items that do not pass the test are taken one by one, and the search goes on behind them. -/
theorem search_skip {test : α → Bool} {s : Sequence α} {n : Nat} {p : Progress}
    (h : ∀ j < n, ∃ a, s.get? (p.taken + j) = some a ∧ test a = false) (bound : Nat) :
    (search test (n + bound)).along s p =
      (search test bound).along s { p with taken := p.taken + n } := by
  induction n generalizing p with
  | zero => rw [Nat.zero_add, Nat.add_zero]
  | succ n ih =>
    obtain ⟨a, hitem, hfails⟩ := h 0 (Nat.succ_pos n)
    have hrest : ∀ j < n, ∃ a, s.get? (p.taken + 1 + j) = some a ∧ test a = false := by
      intro j hj
      rw [Nat.add_assoc, Nat.add_comm 1 j]
      exact h (j + 1) (by omega)
    have hnext := ih (p := { p with taken := p.taken + 1 }) hrest
    rw [Nat.add_right_comm, search, along_ask_of_some hitem]
    simp only [hfails, Bool.false_eq_true, if_false]
    rw [hnext, Nat.add_assoc, Nat.add_comm 1 n]

end Walk

namespace Sequence

variable {test : α → Bool} {s : Sequence α}

/-- The item at a position passes the test, and no earlier one does. -/
structure FirstAt (test : α → Bool) (s : Sequence α) (i : Nat) : Prop where
  here : ∃ a, s.get? i = some a ∧ test a = true
  before : ∀ j < i, ∀ a, s.get? j = some a → test a = false

/-- There is no gap in a sequence. -/
theorem exists_get?_of_le {i j : Nat} {a : α} (h : s.get? i = some a) (hj : j ≤ i) :
    ∃ b, s.get? j = some b := by
  cases s with
  | finite items =>
    have hi : i < items.length := (List.getElem?_eq_some_iff.1 h).1
    exact ⟨items[j], List.getElem?_eq_getElem (Nat.lt_of_le_of_lt hj hi)⟩
  | endless item => exact ⟨item j, rfl⟩

theorem FirstAt.passed {i : Nat} (h : s.FirstAt test i) :
    ∀ j < i, ∃ a, s.get? j = some a ∧ test a = false := by
  intro j hj
  obtain ⟨a, ha, -⟩ := h.here
  obtain ⟨b, hb⟩ := exists_get?_of_le ha (Nat.le_of_lt hj)
  exact ⟨b, hb, h.before j hj b hb⟩

/-- A search that sees only items that do not pass is broken off. -/
theorem search_eq_none {bound : Nat} (h : ∀ j < bound, ∃ a, s.get? j = some a ∧ test a = false) :
    s.search test bound = none := by
  have hskip := Walk.search_skip (p := {}) (by simpa using h) 0
  rw [search, walk, ← Nat.add_zero bound, hskip]
  rfl

/-- **A search stops at the first hit.** -/
theorem search_eq_of_firstAt {i : Nat} (h : s.FirstAt test i) (bound : Nat) :
    s.search test bound = if i < bound then some ⟨⟨i + 1, false⟩, true⟩ else none := by
  by_cases hi : i < bound
  · obtain ⟨further, rfl⟩ : ∃ further, bound = i + (further + 1) := ⟨bound - i - 1, by omega⟩
    obtain ⟨a, hitem, hpasses⟩ := h.here
    have hskip := Walk.search_skip (p := {}) (by simpa using h.passed) (further + 1)
    rw [Nat.zero_add] at hskip
    rw [if_pos hi, search, walk, hskip, Walk.search, Walk.along_ask_of_some hitem]
    simp only [hpasses, if_true]
    rfl
  · rw [if_neg hi]
    exact search_eq_none fun j hj => h.passed j (by omega)

/-- **A search without a hit takes all items of a finite sequence.** -/
theorem search_eq_of_none {items : List α} (h : ∀ a ∈ items, test a = false) (bound : Nat) :
    (finite items).search test bound =
      if items.length < bound then some ⟨⟨items.length, true⟩, false⟩ else none := by
  have hpassed : ∀ j < items.length, ∃ a, (finite items).get? j = some a ∧ test a = false :=
    fun j hj => ⟨items[j], List.getElem?_eq_getElem hj, h _ (List.getElem_mem hj)⟩
  by_cases hlength : items.length < bound
  · obtain ⟨further, rfl⟩ : ∃ further, bound = items.length + (further + 1) :=
      ⟨bound - items.length - 1, by omega⟩
    have hskip := Walk.search_skip (p := {}) (by simpa using hpassed) (further + 1)
    have hend : (finite items).get? items.length = none := List.getElem?_eq_none (Nat.le_refl _)
    rw [Nat.zero_add] at hskip
    rw [if_pos hlength, search, walk, hskip, Walk.search, Walk.along_ask_of_none hend]
    rfl
  · rw [if_neg hlength]
    exact search_eq_none fun j hj => hpassed j (by omega)

/-- A search that settles its question settles it likewise on every sequence that agrees. -/
theorem search_eq_of_agreeUpTo {t : Sequence α} {bound : Nat} {r : Taken Bool}
    (hr : s.search test bound = some r) (h : s.AgreeUpTo t r.toProgress) :
    t.search test bound = some r := by
  obtain ⟨b, -, rfl⟩ := Option.map_eq_some_iff.1 hr
  have hwalk : t.walk (.search test bound) = s.walk (.search test bound) :=
    Walk.along_eq_of_agreeUpTo _ h
  rw [search, hwalk]
  exact hr

theorem single_eq_of_agreeUpTo {t : Sequence α} (h : s.AgreeUpTo t s.single.toProgress) :
    t.single = s.single :=
  Walk.along_eq_of_agreeUpTo _ h

end Sequence

/-! ## Values that are never found -/

theorem Binary64.isNaN_eq_false_of_equals {x y : Binary64} (h : x.equals y = true) :
    y.isNaN = false := by
  simp only [equals, Bool.and_eq_true, Bool.not_eq_true'] at h
  exact h.1.2

namespace Value

theorem equals_float_iff {v : Value} {y : Binary64} :
    v.equals (.float y) = true ↔ ∃ x, v = .float x ∧ x.equals y = true := by
  cases v <;> simp [equals]

theorem equals_list_iff {v : Value} {ws : List Value} :
    v.equals (.list ws) = true ↔ ∃ vs, v = .list vs ∧ equalsEach vs ws = true := by
  cases v <;> simp [equals]

theorem equals_point_iff {v : Value} {srid : Int32} {x y : Binary64} :
    v.equals (.point srid x y) = true ↔
      ∃ a b, v = .point srid a b ∧ a.equals x = true ∧ b.equals y = true := by
  cases v <;> simp [equals, and_assoc]

mutual

/-- **What equals something has no NaN in it**, at whatever depth. -/
theorem isNaN_eq_false_of_equals : ∀ {w v : Value}, v.equals w = true →
    ∀ z ∈ w.floats, z.isNaN = false
  | .float y, v, h, z, hz => by
    obtain ⟨x, rfl, hxy⟩ := equals_float_iff.1 h
    rw [floats, List.mem_singleton] at hz
    rw [hz]
    exact Binary64.isNaN_eq_false_of_equals hxy
  | .list ws, v, h, z, hz => by
    obtain ⟨vs, rfl, hvs⟩ := equals_list_iff.1 h
    rw [floats] at hz
    exact isNaN_eq_false_of_equalsEach hvs z hz
  | .point srid x y, v, h, z, hz => by
    obtain ⟨a, b, rfl, hax, hby⟩ := equals_point_iff.1 h
    rw [floats, List.mem_cons, List.mem_singleton] at hz
    rcases hz with rfl | rfl
    · exact Binary64.isNaN_eq_false_of_equals hax
    · exact Binary64.isNaN_eq_false_of_equals hby
  | .null, _, _, _, hz => by simp [floats] at hz
  | .bool _, _, _, _, hz => by simp [floats] at hz
  | .int _, _, _, _, hz => by simp [floats] at hz
  | .string _, _, _, _, hz => by simp [floats] at hz
  | .bytes _, _, _, _, hz => by simp [floats] at hz
  | .date _, _, _, _, hz => by simp [floats] at hz
  | .dateTime _, _, _, _, hz => by simp [floats] at hz
  | .localDateTime _, _, _, _, hz => by simp [floats] at hz

theorem isNaN_eq_false_of_equalsEach : ∀ {ws vs : List Value}, equalsEach vs ws = true →
    ∀ z ∈ floatsEach ws, z.isNaN = false
  | [], _, _, z, hz => by simp [floatsEach] at hz
  | w :: ws, [], h, _, _ => by simp [equalsEach] at h
  | w :: ws, v :: vs, h, z, hz => by
    rw [equalsEach, Bool.and_eq_true] at h
    rw [floatsEach, List.mem_append] at hz
    rcases hz with hz | hz
    · exact isNaN_eq_false_of_equals h.1 z hz
    · exact isNaN_eq_false_of_equalsEach h.2 z hz

end

theorem beq_eq_false_of_isNaN {target : Value} {z : Binary64} (hz : z ∈ target.floats)
    (hnan : z.isNaN = true) (v : Value) : (v == target) = false := by
  rw [Bool.eq_false_iff]
  intro h
  rw [isNaN_eq_false_of_equals h z hz] at hnan
  cases hnan

end Value

/-! ## Both searches -/

namespace Sequence

/-- **A search for a target takes the items up to the first one that equals it**, and if there is none
all items of a finite sequence, while it never settles the question of an endless one.  A target with
a NaN in it equals nothing.  **The search for a single item takes two items at most.**  Both give the
same answer, for the same number of items, on every sequence that begins with the items they took and
ends with them if they met the end. -/
theorem questions_take_no_more_than_needed [BEq α] :
    (∀ (target : α) (s : Sequence α) (i : Nat), s.FirstAt (· == target) i → ∀ bound,
        s.contains target bound = if i < bound then some ⟨⟨i + 1, false⟩, true⟩ else none) ∧
      (∀ (target : α) (items : List α), (∀ a ∈ items, (a == target) = false) → ∀ bound,
        (finite items).contains target bound =
          if items.length < bound then some ⟨⟨items.length, true⟩, false⟩ else none) ∧
      (∀ (target : α) (item : Nat → α), (∀ i, (item i == target) = false) → ∀ bound,
        (endless item).contains target bound = none) ∧
      (∀ (target : Value) (z : Binary64), z ∈ target.floats → z.isNaN = true →
        ∀ v : Value, (v == target) = false) ∧
      (∀ items : List α, (finite items).single.taken = min 2 items.length ∧
        (finite items).single.ended = decide (items.length < 2) ∧
        (finite items).single.answer =
          match items with
          | [] => .ok none
          | [a] => .ok (some a)
          | _ => .error .severalItems) ∧
      (∀ item : Nat → α, (endless item).single = ⟨⟨2, false⟩, .error .severalItems⟩) ∧
      Error.severalItems.kind = .illegalState ∧
      (∀ (target : α) (s t : Sequence α) (bound : Nat) (r : Taken Bool),
        s.contains target bound = some r → s.AgreeUpTo t r.toProgress →
          t.contains target bound = some r) ∧
      ∀ s t : Sequence α, s.AgreeUpTo t s.single.toProgress → t.single = s.single := by
  refine ⟨fun _ _ _ h => search_eq_of_firstAt h, fun _ _ h => search_eq_of_none h,
    fun _ item h bound => search_eq_none fun j _ => ⟨item j, rfl, h j⟩,
    fun _ _ => Value.beq_eq_false_of_isNaN, ?single, fun _ => rfl, rfl,
    fun _ _ _ _ _ => search_eq_of_agreeUpTo, fun _ _ => single_eq_of_agreeUpTo⟩
  case single =>
    intro items
    match items with
    | [] => exact ⟨rfl, rfl, rfl⟩
    | [a] => exact ⟨rfl, rfl, rfl⟩
    | a :: b :: rest =>
      have htwo : (finite (a :: b :: rest)).single = ⟨⟨2, false⟩, .error .severalItems⟩ := rfl
      rw [htwo]
      refine ⟨?_, ?_, rfl⟩
      · simp only [List.length_cons]
        omega
      · simp

/-- Not a number. -/
def nan : Binary64 := ⟨0x7ff8000000000000⟩

/-- A few items over and over. -/
def recurring : Sequence Value := cycle [.int 1, .float nan, .int 5]

theorem recurring_searched :
    recurring.FirstAt (· == .int 5) 2 ∧
      recurring.contains (.int 5) 9 = some ⟨⟨3, false⟩, true⟩ ∧
      (∀ a ∈ [Value.int 1, .float nan], (a == .list [.float nan]) = false) ∧
      (finite [Value.int 1, .float nan]).contains (.list [.float nan]) 9 =
        some ⟨⟨2, true⟩, false⟩ ∧
      nan ∈ (Value.list [.float nan]).floats ∧ nan.isNaN = true ∧
      (endless fun _ => Value.float nan).contains (.list [.float nan]) 9 = none ∧
      recurring.AgreeUpTo (finite [.int 1, .float nan, .int 5, .null]) ⟨3, false⟩ ∧
      (finite [Value.int 1, .float nan, .int 5, .null]).contains (.int 5) 9 =
        some ⟨⟨3, false⟩, true⟩ ∧
      recurring.AgreeUpTo (finite [.int 1, .float nan]) recurring.single.toProgress ∧
      (finite [.int 1, .float nan]).single = recurring.single := by
  obtain ⟨hfirst, hnone, hnever, hnan, -, -, -, hfound, hsingle⟩ :=
    @questions_take_no_more_than_needed Value _
  have hfive : recurring.FirstAt (· == .int 5) 2 := by
    refine ⟨⟨.int 5, rfl, by decide⟩, fun j hj a ha => ?_⟩
    match j, hj, ha with
    | 0, _, rfl => decide
    | 1, _, rfl => decide
  have hsearched : recurring.contains (.int 5) 9 = some ⟨⟨3, false⟩, true⟩ := hfirst _ _ 2 hfive 9
  have hmember : nan ∈ (Value.list [.float nan]).floats := List.mem_cons_self
  have hisNaN : nan.isNaN = true := by decide
  have hdiffers := hnan (.list [.float nan]) nan hmember hisNaN
  have hthree : recurring.AgreeUpTo (finite [.int 1, .float nan, .int 5, .null]) ⟨3, false⟩ := by
    refine ⟨fun i hi => ?_, nofun⟩
    match i, hi with
    | 0, _ => rfl
    | 1, _ => rfl
    | 2, _ => rfl
  have htwo : recurring.AgreeUpTo (finite [.int 1, .float nan]) recurring.single.toProgress := by
    refine ⟨fun i hi => ?_, nofun⟩
    match i, hi with
    | 0, _ => rfl
    | 1, _ => rfl
  exact ⟨hfive, hsearched, fun a _ => hdiffers a, hnone _ _ (fun a _ => hdiffers a) 9, hmember, hisNaN,
    hnever _ _ (fun _ => hdiffers _) 9, hthree, hfound _ _ _ 9 _ hsearched hthree, htwo,
    hsingle _ _ htwo⟩

end Sequence

end PropertyGraph
