import PropertyGraph.Store.Step

/-!
# Histories

A history is a list of operations.  Each operation names the transaction it goes through, so a
history can interleave any number of transactions in any way.  The trace of a history has each
operation beside its answer.

* `run_append`, `trace_append` — histories are carried out one after the other;
* `answers_of_mem_trace` — what succeeds in a history has the reply that fits it;
* `run_induction` — what holds of the empty store and survives every step holds after every history.
-/

namespace PropertyGraph

namespace Store

/-- The store after a history. -/
def run (s : Store) (history : List Operation) : Store :=
  history.foldl (fun s op => (s.perform op).2) s

end Store

/-- An operation that was carried out, and its answer. -/
structure Event where
  op : Operation
  answer : Except Error Reply

/-- Whether the operation was not refused. -/
def Event.succeeded (event : Event) : Bool :=
  match event.answer with
  | .ok _ => true
  | .error _ => false

/-- What is read off events is read off one more event at the end. -/
theorem filterMap_concat {α : Type} (read : Event → Option α) (events : List Event)
    (event : Event) :
    (events ++ [event]).filterMap read = events.filterMap read ++ (read event).toList := by
  cases h : read event <;> simp [h]

namespace Store

/-- The operations of a history beside their answers. -/
def trace (s : Store) : List Operation → List Event
  | [] => []
  | op :: rest => ⟨op, (s.perform op).1⟩ :: trace (s.perform op).2 rest

/-- A store that some history leads to from the empty one. -/
def Reachable (s : Store) : Prop := ∃ history, s = empty.run history

/-! ## One history after the other -/

theorem run_append (s : Store) (first second : List Operation) :
    s.run (first ++ second) = (s.run first).run second := by
  simp [run, List.foldl_append]

theorem run_concat (s : Store) (history : List Operation) (op : Operation) :
    s.run (history ++ [op]) = ((s.run history).perform op).2 := by
  simp [run]

theorem trace_append (s : Store) (first second : List Operation) :
    s.trace (first ++ second) = s.trace first ++ (s.run first).trace second := by
  induction first generalizing s with
  | nil => rfl
  | cons op rest ih => simp [trace, run, ih]

theorem trace_concat (s : Store) (history : List Operation) (op : Operation) :
    s.trace (history ++ [op]) =
      s.trace history ++ [⟨op, ((s.run history).perform op).1⟩] := by
  simp [trace_append, trace]

/-- **Each operation of a history that succeeds has the reply that fits it.** -/
theorem answers_of_mem_trace {s : Store} {history : List Operation} {event : Event} {reply : Reply}
    (h : event ∈ s.trace history) (hok : event.answer = .ok reply) : event.op.Answers reply := by
  induction history generalizing s with
  | nil => cases h
  | cons op rest ih =>
    rcases List.mem_cons.1 h with rfl | hrest
    · have hanswer : (s.perform op).1 = .ok reply := hok
      have hstep := s.step_perform op
      rw [hanswer] at hstep
      exact hstep.answers
    · exact ih hrest

/-! ## Induction over histories -/

/-- What holds before anything was done and survives every step holds after every history. -/
theorem run_induction {motive : List Event → Store → Prop} (start : motive [] empty)
    (step : ∀ {events : List Event} {s t : Store} {op : Operation} {answer : Except Error Reply},
      motive events s → s.Step op answer t → motive (events ++ [⟨op, answer⟩]) t)
    (history : List Operation) : motive (empty.trace history) (empty.run history) := by
  -- The rest of a history starts from any events and any store that they may have led to.
  have hfrom : ∀ events s, motive events s →
      motive (events ++ s.trace history) (s.run history) := by
    induction history with
    | nil =>
      intro events s h
      simpa [trace, run] using h
    | cons op rest ih =>
      intro events s h
      have hnext := ih _ _ (step h (s.step_perform op))
      simpa [trace, run] using hnext
  exact hfrom [] empty start

theorem reachable_empty : Reachable empty := ⟨[], rfl⟩

theorem Reachable.perform {s : Store} (h : s.Reachable) (op : Operation) :
    (s.perform op).2.Reachable := by
  obtain ⟨history, rfl⟩ := h
  exact ⟨history ++ [op], (run_concat empty history op).symm⟩

end Store

end PropertyGraph
