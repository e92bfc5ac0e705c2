import PropertyGraph.Policy.Bundle

/-!
# Replacing the sections of a bundle

A bundle is asked five kinds of questions, and each of them is about one of its four sections.  A
call that replaces a section is heard in the answers about that section alone.  So after any calls,
one on the result of the other, a question is answered by the policy of the last call about its
section, or else as by the bundle that the calls began with.  Calls about different sections do not
see each other and can change places.

Every call gives a bundle of its own.  The bundles before it stay, and so do their answers.

* `answer_replace` — the answers after one call;
* `answer_replaceAll` — the answers after several calls;
* `getElem?_history`, `history_isPrefix` — the bundles on the way;
* `replace_comm` — calls about different sections change places;
* `sections_are_replaced_alone` — all of this.
-/

namespace PropertyGraph

namespace PolicyBundle

/-- The sections of a bundle. -/
inductive Section where
  | nodes
  | nodeProperties
  | relationships
  | relationshipProperties
  deriving DecidableEq

/-- What a bundle can be asked. -/
inductive Question where
  | node (n : Node)
  | nodeProperty (key : String) (n : Node)
  | relationship (r : Relationship)
  | relationshipFrom (r : Relationship) (pointOfView : NodeId)
  | relationshipProperty (key : String) (r : Relationship)

/-- The section that a question is about. -/
def Question.about : Question → Section
  | .node _ => .nodes
  | .nodeProperty _ _ => .nodeProperties
  | .relationship _ => .relationships
  | .relationshipFrom _ _ => .relationships
  | .relationshipProperty _ _ => .relationshipProperties

/-- The answer of a bundle. -/
def answer (b : PolicyBundle) : Question → Bool
  | .node n => b.nodes.includes n
  | .nodeProperty key n => b.nodeProperties.includes key n
  | .relationship r => b.relationships.includes r
  | .relationshipFrom r pointOfView => b.relationships.includesFrom r pointOfView
  | .relationshipProperty key r => b.relationshipProperties.includes key r

namespace Replacement

/-- The section that is replaced. -/
def about : Replacement → Section
  | .nodes _ => .nodes
  | .nodeProperties _ => .nodeProperties
  | .relationships _ => .relationships
  | .relationshipProperties _ => .relationshipProperties

/-- The answer of the new policy to a question about its section. -/
def answer? : Replacement → Question → Option Bool
  | .nodes policy, .node n => some (policy.includes n)
  | .nodeProperties policy, .nodeProperty key n => some (policy.includes key n)
  | .relationships policy, .relationship r => some (policy.includes r)
  | .relationships policy, .relationshipFrom r pointOfView =>
    some (policy.includesFrom r pointOfView)
  | .relationshipProperties policy, .relationshipProperty key r => some (policy.includes key r)
  | _, _ => Option.none

/-- The same call with the policy behind a shared pointer. -/
def shared : Replacement → Replacement
  | .nodes policy => .nodes (.shared policy)
  | .nodeProperties policy => .nodeProperties (.shared policy)
  | .relationships policy => .relationships (.shared policy)
  | .relationshipProperties policy => .relationshipProperties (.shared policy)

theorem isSome_answer?_iff (r : Replacement) (q : Question) :
    (r.answer? q).isSome = true ↔ r.about = q.about := by
  cases r <;> cases q <;> simp [answer?, about, Question.about]

theorem answer?_shared (r : Replacement) (q : Question) : r.shared.answer? q = r.answer? q := by
  cases r <;> cases q <;>
    simp [answer?, shared, NodePolicy.includes, PropertyPolicy.includes,
      RelationshipPolicy.includes, RelationshipPolicy.includesFrom]

end Replacement

/-! ## Calls one after the other -/

/-- **A call is heard in its own section alone.** -/
theorem answer_replace (b : PolicyBundle) (r : Replacement) (q : Question) :
    (b.replace r).answer q = (r.answer? q).getD (b.answer q) := by
  cases r <;> cases q <;> rfl

/-- The bundle after several calls, each on the result of the one before. -/
def replaceAll (b : PolicyBundle) (calls : List Replacement) : PolicyBundle :=
  calls.foldl replace b

/-- The last answer that some call gives to a question. -/
def lastAnswer? (calls : List Replacement) (q : Question) : Option Bool :=
  (calls.filterMap (·.answer? q)).getLast?

theorem lastAnswer?_cons (r : Replacement) (calls : List Replacement) (q : Question) :
    lastAnswer? (r :: calls) q = (lastAnswer? calls q).or (r.answer? q) := by
  cases h : r.answer? q with
  | none => simp [lastAnswer?, h]
  | some a => simp [lastAnswer?, h, List.getLast?_cons, Option.or_some]

/-- **After any calls the last one about the section answers.** -/
theorem answer_replaceAll (b : PolicyBundle) (calls : List Replacement) (q : Question) :
    (b.replaceAll calls).answer q = (lastAnswer? calls q).getD (b.answer q) := by
  induction calls generalizing b with
  | nil => rfl
  | cons r calls ih =>
    calc (b.replaceAll (r :: calls)).answer q
        = (lastAnswer? calls q).getD ((b.replace r).answer q) := ih (b.replace r)
      _ = (lastAnswer? calls q).getD ((r.answer? q).getD (b.answer q)) := by rw [answer_replace]
      _ = (lastAnswer? (r :: calls) q).getD (b.answer q) := by
        rw [lastAnswer?_cons, Option.getD_or]

/-- The bundles on the way: the first one, and the result of each call. -/
def history (b : PolicyBundle) : List Replacement → List PolicyBundle
  | [] => [b]
  | r :: calls => b :: history (b.replace r) calls

theorem getElem?_history (b : PolicyBundle) {calls : List Replacement} {k : Nat}
    (h : k ≤ calls.length) : (b.history calls)[k]? = some (b.replaceAll (calls.take k)) := by
  induction calls generalizing b k with
  | nil =>
    obtain rfl : k = 0 := Nat.le_zero.1 h
    rfl
  | cons r calls ih =>
    cases k with
    | zero => rfl
    | succ k => exact ih (b.replace r) (Nat.le_of_succ_le_succ h)

/-- **Further calls add bundles and change none.** -/
theorem history_isPrefix (b : PolicyBundle) (calls further : List Replacement) :
    b.history calls <+: b.history (calls ++ further) := by
  induction calls generalizing b with
  | nil =>
    cases further with
    | nil => exact List.prefix_refl _
    | cons r further => exact ⟨history (b.replace r) further, rfl⟩
  | cons r calls ih => exact List.cons_prefix_cons.2 ⟨rfl, ih (b.replace r)⟩

theorem replace_comm (b : PolicyBundle) {r s : Replacement} (h : r.about ≠ s.about) :
    (b.replace r).replace s = (b.replace s).replace r := by
  cases r <;> cases s <;> simp_all [replace, Replacement.about]

theorem replaceAll_swap (b : PolicyBundle) {r s : Replacement} (h : r.about ≠ s.about)
    (before after : List Replacement) :
    b.replaceAll (before ++ r :: s :: after) = b.replaceAll (before ++ s :: r :: after) := by
  simp only [replaceAll, List.foldl_append, List.foldl_cons, replace_comm _ h]

/-- **A call replaces one section and leaves everything else as it was.**  Whatever bundle a sequence
of calls begins with, after each of them a question is answered by the policy of the last call about
its section, which may stand behind a shared pointer, and as at the beginning if there was none.  The
bundles that were there stay as further calls are made, and neighbouring calls about different
sections can change places. -/
theorem sections_are_replaced_alone (start : PolicyBundle) :
    (∀ calls k, k ≤ calls.length → ∃ b, (start.history calls)[k]? = some b ∧
        ∀ q, b.answer q = (lastAnswer? (calls.take k) q).getD (start.answer q)) ∧
      (∀ (r : Replacement) (q : Question), ((r.answer? q).isSome = true ↔ r.about = q.about) ∧
        r.shared.answer? q = r.answer? q) ∧
      (∀ (calls further : List Replacement) (k : Nat) (b : PolicyBundle),
        (start.history calls)[k]? = some b → (start.history (calls ++ further))[k]? = some b) ∧
      ∀ before (r s : Replacement) after, r.about ≠ s.about →
        ∀ q, (start.replaceAll (before ++ r :: s :: after)).answer q =
          (start.replaceAll (before ++ s :: r :: after)).answer q := by
  refine ⟨?last, fun r q => ⟨r.isSome_answer?_iff q, r.answer?_shared q⟩, ?kept, ?swapped⟩
  case last =>
    intro calls k hk
    exact ⟨_, start.getElem?_history hk, start.answer_replaceAll (calls.take k)⟩
  case kept =>
    intro calls further k b hb
    obtain ⟨added, hadded⟩ := start.history_isPrefix calls further
    have hlt : k < (start.history calls).length := (List.getElem?_eq_some_iff.1 hb).1
    rw [← hadded, List.getElem?_append_left hlt, hb]
  case swapped =>
    intro before r s after hne q
    rw [start.replaceAll_swap hne]

/-- Calls about two sections, one of which is replaced again. -/
def mixedCalls : List Replacement :=
  [.nodes .none, .relationshipProperties (.shared .none), .nodes (.labels (.ofList ["Place"]))]

theorem answers_after_mixedCalls :
    let n : Node := ⟨⟨1⟩, ["Place"], .empty⟩
    2 ≤ mixedCalls.length ∧
      (∃ b, (all.history mixedCalls)[2]? = some b ∧ b.answer (.node n) = false ∧
        b.answer (.nodeProperty "name" n) = true ∧
        (all.history (mixedCalls ++ [.nodeProperties .none]))[2]? = some b) ∧
      Replacement.about (.nodes .none) ≠ Replacement.about (.relationshipProperties (.shared .none)) ∧
      (all.replaceAll ([] ++ .relationshipProperties (.shared .none) :: .nodes .none ::
        [.nodes (.labels (.ofList ["Place"]))])).answer (.node n) = true := by
  intro n
  obtain ⟨hlast, -, hkept, hswapped⟩ := sections_are_replaced_alone all
  have htwo : 2 ≤ mixedCalls.length := by decide
  have hne : Replacement.about (.nodes .none) ≠
      Replacement.about (.relationshipProperties (.shared .none)) := by decide
  obtain ⟨b, hb, hanswer⟩ := hlast mixedCalls 2 htwo
  refine ⟨htwo, ⟨b, hb, ?_, ?_, hkept mixedCalls _ 2 b hb⟩, hne, ?_⟩
  · rw [hanswer]
    rfl
  · rw [hanswer]
    rfl
  · rw [← hswapped [] _ _ _ hne]
    rfl

end PolicyBundle

end PropertyGraph
