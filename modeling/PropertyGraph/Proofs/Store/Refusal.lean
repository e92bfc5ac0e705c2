import PropertyGraph.Store.History

/-!
# Refused operations leave no mark

An operation is refused for its first objection, with an error that names what the objection is
about: the transaction, or the id that is not there.  Then the store is what it was before.  So a
history can be thinned out to the operations that are accepted, and neither the answers of these
nor the store at the end tell the difference.

* `refused_iff_objection` — when an operation fails, with what error and message, and that it
  changes nothing, however many attempts fail in between.
-/

namespace PropertyGraph

namespace Store

/-- The operations of a history that are not refused. -/
def accepted (s : Store) (history : List Operation) : List Operation :=
  ((s.trace history).filter Event.succeeded).map Event.op

/-- Failed attempts can be left out: the other operations answer as before, and the store at the
end is the same. -/
theorem accepted_spec (s : Store) (history : List Operation) :
    s.trace (s.accepted history) = (s.trace history).filter Event.succeeded ∧
      s.run (s.accepted history) = s.run history := by
  induction history generalizing s with
  | nil => exact ⟨rfl, rfl⟩
  | cons op rest ih =>
    obtain ⟨htrace, hrun⟩ := ih (s.perform op).2
    cases hanswer : (s.perform op).1 with
    | ok reply =>
      have hkept : s.accepted (op :: rest) = op :: (s.perform op).2.accepted rest := by
        simp [accepted, trace, List.filter_cons, Event.succeeded, hanswer]
      rw [hkept]
      refine ⟨?_, hrun⟩
      simp [trace, htrace, List.filter_cons, Event.succeeded, hanswer]
    | error cause =>
      have hsame : (s.perform op).2 = s := perform_of_error hanswer
      rw [hsame] at htrace hrun
      have hkept : s.accepted (op :: rest) = s.accepted rest := by
        simp [accepted, trace, Event.succeeded, hanswer, hsame]
      rw [hkept]
      refine ⟨?_, ?_⟩
      · simpa [trace, List.filter_cons, Event.succeeded, hanswer, hsame] using htrace
      · simpa [run, hsame] using hrun

/-- **A write fails for its first objection and for no other reason, and a failure leaves no mark**:
neither on the elements nor on the counters, so the ids that a history hands out do not depend on
its failed attempts.  The error has the cause, the kind and the message of that objection. -/
theorem refused_iff_objection (s : Store) (op : Operation) (history : List Operation) :
    RefusedBy (s.perform op).1 (s.objections op) ∧
      ((∃ e, (s.perform op).1 = .error e) → (s.perform op).2 = s) ∧
      s.trace (s.accepted history) = (s.trace history).filter Event.succeeded ∧
      s.run (s.accepted history) = s.run history := by
  refine ⟨s.perform_refusedBy op, ?_, s.accepted_spec history⟩
  rintro ⟨e, he⟩
  exact perform_of_error he

end Store

end PropertyGraph
