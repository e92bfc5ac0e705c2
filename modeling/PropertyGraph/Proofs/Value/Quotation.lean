import PropertyGraph.Proofs.Value.Bracketing
import PropertyGraph.Proofs.Value.Scalar

/-!
# Strings in quotation marks

In the text for people a string stands in quotation marks, with a backslash before each quotation
mark of its own.  A backslash of its own stays as it is, so a quotation mark behind a backslash may
belong to the string or end it, and nothing near it says which.  The whole text does.

Suppose that one reading ends a string at such a mark where another one goes on.  From there on one
of them is inside a string and the other is not.  What follows outside up to the next quotation mark
has no backslash in it, so that mark opens a string in the one reading and has to end the string of
the other.  So it goes on: at each mark the readings change places, and at the end of the text one
of them is still inside a string.

* `Outside` — the texts that can be read from outside a string;
* `Outside.ne_inside` — no such text can be read from inside a string as well;
* `escaped_append_inj` — so a string ends in one place;
* `display_tells_values_apart` — values over scalars and strings can be told from each other.
-/

namespace PropertyGraph

/-! ## Strings and what stands between them -/

/-- A string with a backslash before each quotation mark. -/
def escaped (cs : List Char) : List Char :=
  cs.flatMap fun c => if c = '"' then ['\\', '"'] else [c]

theorem escaped_quote_cons (cs : List Char) : escaped ('"' :: cs) = '\\' :: '"' :: escaped cs := rfl

theorem escaped_cons {c : Char} (h : c ≠ '"') (cs : List Char) :
    escaped (c :: cs) = c :: escaped cs := by
  simp [escaped, h]

/-- The characters outside a string, of which there is at least one before each string. -/
def IsGap (gap : List Char) : Prop := gap ≠ [] ∧ ∀ c ∈ gap, c ≠ '"' ∧ c ≠ '\\'

theorem IsGap.append {gap next : List Char} (hgap : IsGap gap) (hnext : IsGap next) :
    IsGap (gap ++ next) := by
  refine ⟨by simp [hgap.1], fun c hc => ?_⟩
  rcases List.mem_append.1 hc with hc | hc
  · exact hgap.2 c hc
  · exact hnext.2 c hc

theorem isGap_separator : IsGap [',', ' '] := by simp [IsGap]

theorem isGap_closing : IsGap [']'] := by simp [IsGap]

/-- A text that can be read from outside a string, where no string can begin at once. -/
inductive Outside : List Char → Prop
  | quiet {gap : List Char} : '"' ∉ gap → Outside gap
  | string {gap rest : List Char} (cs : List Char) : IsGap gap → Outside rest →
      Outside (gap ++ '"' :: (escaped cs ++ '"' :: rest))

theorem Outside.gap_append {gap rest : List Char} (hgap : IsGap gap) (h : Outside rest) :
    Outside (gap ++ rest) := by
  cases h with
  | quiet hquiet =>
    refine .quiet fun hmem => ?_
    rcases List.mem_append.1 hmem with hmem | hmem
    · exact (hgap.2 _ hmem).1 rfl
    · exact hquiet hmem
  | @string next rest cs hnext hrest =>
    rw [← List.append_assoc]
    exact .string cs (hgap.append hnext) hrest

/-- A quotation mark at the start ends the string. -/
theorem eq_nil_of_quote {cs x r : List Char} (h : escaped cs ++ '"' :: r = '"' :: x) :
    cs = [] ∧ r = x := by
  cases cs with
  | nil => exact ⟨rfl, (List.cons.inj h).2⟩
  | cons c cs =>
    by_cases hc : c = '"'
    · rw [hc, escaped_quote_cons] at h
      exact absurd (List.cons.inj h).1 (by decide)
    · rw [escaped_cons hc] at h
      exact absurd (List.cons.inj h).1 hc

/-- A quotation mark without a backslash before it ends the string that it stands in. -/
theorem rest_eq_of_gap {gap cs x r : List Char} (hgap : ∀ c ∈ gap, c ≠ '"' ∧ c ≠ '\\')
    (h : escaped cs ++ '"' :: r = gap ++ '"' :: x) : r = x := by
  induction gap generalizing cs with
  | nil => exact (eq_nil_of_quote h).2
  | cons g gap ih =>
    obtain ⟨hquote, hbackslash⟩ := hgap g List.mem_cons_self
    cases cs with
    | nil => exact absurd (List.cons.inj h).1.symm hquote
    | cons c cs =>
      by_cases hc : c = '"'
      · rw [hc, escaped_quote_cons] at h
        exact absurd (List.cons.inj h).1.symm hbackslash
      · rw [escaped_cons hc] at h
        exact ih (fun d hd => hgap d (List.mem_cons_of_mem g hd)) (List.cons.inj h).2

/-- **No text can be read both from outside a string and from inside one.** -/
theorem Outside.ne_inside {t : List Char} (h : Outside t) :
    ∀ cs r, Outside r → t ≠ escaped cs ++ '"' :: r := by
  induction h with
  | quiet hquiet =>
    intro cs r _ heq
    apply hquiet
    rw [heq]
    simp
  | @string gap t' cs' hgap _ ih =>
    intro cs r hr heq
    -- The string that opens here is what the other reading has outside.
    have hinside : r = escaped cs' ++ '"' :: t' := rest_eq_of_gap hgap.2 heq.symm
    cases hr with
    | quiet hquiet =>
      apply hquiet
      rw [hinside]
      simp
    | @string gap' t'' cs'' hgap' houtside =>
      -- It ends where the other reading opens its next string, and the places are changed again.
      have hrest : t' = escaped cs'' ++ '"' :: t'' := rest_eq_of_gap hgap'.2 hinside.symm
      exact ih cs'' t'' houtside hrest

/-- A quotation mark of the string is not read as its end behind a backslash of the string. -/
theorem escaped_quote_ne {cs ds r s : List Char} {d : Char} (hd : d ≠ '"') (hr : Outside r)
    (hs : Outside s) :
    escaped ('"' :: cs) ++ '"' :: r ≠ escaped (d :: ds) ++ '"' :: s := by
  intro h
  rw [escaped_quote_cons, escaped_cons hd] at h
  have hend := eq_nil_of_quote (List.cons.inj h).2.symm
  exact hs.ne_inside cs r hr hend.2

/-- **A string ends in one place**, if what follows can be read from outside. -/
theorem escaped_append_inj {cs ds r s : List Char} (hr : Outside r) (hs : Outside s)
    (h : escaped cs ++ '"' :: r = escaped ds ++ '"' :: s) : cs = ds ∧ r = s := by
  induction cs generalizing ds with
  | nil =>
    obtain ⟨hds, hrest⟩ := eq_nil_of_quote h.symm
    exact ⟨hds.symm, hrest.symm⟩
  | cons c cs ih =>
    cases ds with
    | nil => exact eq_nil_of_quote h
    | cons d ds =>
      by_cases hc : c = '"'
      · by_cases hd : d = '"'
        · rw [hc, hd, escaped_quote_cons, escaped_quote_cons] at h
          obtain ⟨hcs, hrest⟩ := ih (List.cons.inj (List.cons.inj h).2).2
          exact ⟨by rw [hc, hd, hcs], hrest⟩
        · rw [hc] at h
          exact absurd h (escaped_quote_ne hd hr hs)
      · by_cases hd : d = '"'
        · rw [hd] at h
          exact absurd h.symm (escaped_quote_ne hc hs hr)
        · rw [escaped_cons hc, escaped_cons hd] at h
          obtain ⟨hhead, htail⟩ := List.cons.inj h
          obtain ⟨hcs, hrest⟩ := ih htail
          exact ⟨by rw [hhead, hcs], hrest⟩

namespace Value

/-! ## Values -/

/-- A scalar or a string. -/
inductive ScalarOrString : Value → Prop
  | scalar {v : Value} : Scalar v → ScalarOrString v
  | string (s : String) : ScalarOrString (.string s)

theorem toList_display_string (s : String) (r : List Char) :
    (Value.string s).display.toList ++ r = '"' :: (escaped s.toList ++ '"' :: r) := by
  simp [display, escapeQuotes, escaped]

theorem Scalar.isGap_display {v : Value} (h : Scalar v) : IsGap v.display.toList := by
  rw [h.display_eq]
  have hall := (ScalarOrFloat.scalar h).noMarks
  exact ⟨(ScalarOrFloat.scalar h).text_ne_nil, fun c hc =>
    ⟨ne_of_isMark (hall c hc) rfl, ne_of_isMark (hall c hc) rfl⟩⟩

/-- The rest of a list can be read from outside a string if its elements can. -/
theorem outside_afterElement {vs : List Value} {r : List Char} (hr : Outside r)
    (h : ∀ v ∈ vs, ∀ gap r, IsGap gap → Outside r → Outside (gap ++ (v.display.toList ++ r))) :
    Outside (afterElement (vs.map fun v => v.display.toList) r) := by
  induction vs with
  | nil => exact hr.gap_append isGap_closing
  | cons v vs ih =>
    have hrest := ih fun w hw => h w (List.mem_cons_of_mem v hw)
    exact h v List.mem_cons_self _ _ isGap_separator hrest

/-- **A value can be read from outside a string wherever it stands**, if what follows it can. -/
theorem outside_display {v : Value} (h : Built ScalarOrString v) {gap r : List Char}
    (hgap : IsGap gap) (hr : Outside r) : Outside (gap ++ (v.display.toList ++ r)) := by
  induction h generalizing gap r with
  | leaf hleaf =>
    cases hleaf with
    | scalar hscalar => exact (hr.gap_append hscalar.isGap_display).gap_append hgap
    | string s =>
      rw [toList_display_string]
      exact .string s.toList hgap hr
  | @list vs _ ih =>
    have hbracket : IsGap ['['] := by simp [IsGap]
    cases vs with
    | nil =>
      have hclosed : IsGap ['[', ']'] := by simp [IsGap]
      rw [brackets_display.render_nil]
      exact (hr.gap_append hclosed).gap_append hgap
    | cons v vs =>
      have hrest := outside_afterElement hr fun w hw gap r hgap hr =>
        ih w (List.mem_cons_of_mem v hw) hgap hr
      have hfirst := ih v List.mem_cons_self (hgap.append hbracket) hrest
      rw [brackets_display.render_cons]
      simpa using hfirst

/-- A scalar is not read as a string. -/
theorem Scalar.display_ne_string {v : Value} (h : Scalar v) (s : String) (r u : List Char) :
    v.display.toList ++ r ≠ (Value.string s).display.toList ++ u := by
  obtain ⟨c, rest, htext, hmark⟩ := (ScalarOrFloat.scalar h).text_head
  rw [h.display_eq, htext, toList_display_string]
  intro heq
  exact ne_of_isMark hmark rfl (List.cons.inj heq).1

theorem ScalarOrString.append_inj {v w : Value} {r u : List Char} (hv : ScalarOrString v)
    (hw : ScalarOrString w) (hr : MarkAhead r ∧ Outside r) (hu : MarkAhead u ∧ Outside u)
    (h : v.display.toList ++ r = w.display.toList ++ u) : v.shown = w.shown ∧ r = u := by
  cases hv with
  | scalar hv =>
    cases hw with
    | scalar hw =>
      rw [hv.display_eq, hw.display_eq] at h
      exact hv.append_inj (.scalar hw) hr.1 hu.1 h
    | string t => exact absurd h (hv.display_ne_string t r u)
  | string s =>
    cases hw with
    | scalar hw => exact absurd h.symm (hw.display_ne_string s u r)
    | string t =>
      rw [toList_display_string, toList_display_string] at h
      obtain ⟨hchars, hrest⟩ := escaped_append_inj hr.2 hu.2 (List.cons.inj h).2
      exact ⟨by rw [String.toList_inj.1 hchars], hrest⟩

/-- Scalars and strings can be told from each other before the end of a list or of the text. -/
theorem legible_display :
    Legible (fun v => v.display.toList) ScalarOrString ScalarOrString
      (fun r => MarkAhead r ∧ Outside r) where
  list := brackets_display
  sub := fun _ h => h
  head := by
    intro v hv
    cases hv with
    | scalar hscalar =>
      obtain ⟨c, rest, htext, hmark⟩ := (ScalarOrFloat.scalar hscalar).text_head
      rw [← hscalar.display_eq] at htext
      exact ⟨c, rest, htext, ne_of_isMark hmark rfl, ne_of_isMark hmark rfl⟩
    | string s =>
      have hquoted := toList_display_string s []
      rw [List.append_nil] at hquoted
      exact ⟨'"', _, hquoted, by decide, by decide⟩
  apart := fun _ _ _ _ => ScalarOrString.append_inj
  close := by
    intro r hr
    exact ⟨by simp [MarkAhead, isMark], hr.2.gap_append isGap_closing⟩
  next := by
    intro v r hv hr
    exact ⟨by simp [MarkAhead, isMark], outside_display hv isGap_separator hr.2⟩

/-- Values over scalars and strings with one text for people are shown alike. -/
theorem shown_eq_of_display {v w : Value} (hv : Built ScalarOrString v)
    (hw : Built ScalarOrString w) (h : v.display = w.display) : v.shown = w.shown := by
  have hend : MarkAhead [] ∧ Outside [] := ⟨by simp [MarkAhead], .quiet (by simp)⟩
  exact legible_display.shown_eq_of_render hv hw hend (congrArg String.toList h)

/-- **The text for people tells all values over scalars and strings apart that are not shown
alike**, whatever quotation marks, backslashes, commas and brackets their strings have.  So a value
whose nanoseconds never run on after a second other than fifty-nine is the only such value with its
text. -/
theorem display_tells_values_apart {v w : Value} (hv : Built ScalarOrString v)
    (hw : Built ScalarOrString w) :
    (v.display = w.display ↔ v.shown = w.shown) ∧ (v.shown = v ↔ v.LeapsAtSixty) ∧
      (v.LeapsAtSixty → w.LeapsAtSixty → (v.display = w.display ↔ v = w)) := by
  have hdisplay : v.display = w.display ↔ v.shown = w.shown := by
    constructor
    · exact shown_eq_of_display hv hw
    · intro hshown
      rw [← v.display_shown, hshown, w.display_shown]
  refine ⟨hdisplay, shown_eq_self_iff, fun hvs hws => ?_⟩
  rw [hdisplay, shown_eq_self_iff.2 hvs, shown_eq_self_iff.2 hws]

/-- A list of two strings, the first of which ends in a backslash. -/
def twoStrings : Value := .list [.string "a\\", .string "b"]

/-- A list of one string, with quotation marks where the other list has two strings. -/
def oneString : Value := .list [.string "a\", \"b"]

theorem twoStrings_ne_oneString :
    Built ScalarOrString twoStrings ∧ Built ScalarOrString oneString ∧
      twoStrings.LeapsAtSixty ∧ oneString.LeapsAtSixty ∧
      twoStrings.display = "[\"a\\\", \"b\"]" ∧ oneString.display = "[\"a\\\", \\\"b\"]" ∧
      twoStrings.display ≠ oneString.display := by
  have htwo : Built ScalarOrString twoStrings := by
    refine .list fun v hv => .leaf ?_
    simp only [List.mem_cons, List.not_mem_nil, or_false] at hv
    rcases hv with rfl | rfl <;> exact .string _
  have hone : Built ScalarOrString oneString := by
    refine .list fun v hv => .leaf ?_
    rw [List.mem_singleton.1 hv]
    exact .string _
  have htimes : twoStrings.LeapsAtSixty ∧ oneString.LeapsAtSixty := by decide
  have hne : twoStrings ≠ oneString := by simp [twoStrings, oneString]
  obtain ⟨-, -, hapart⟩ := display_tells_values_apart htwo hone
  exact ⟨htwo, hone, htimes.1, htimes.2, by decide, by decide,
    fun h => hne ((hapart htimes.1 htimes.2).1 h)⟩

/-- **Two values that are shown alike**: nothing but a clock tells them apart. -/
theorem overrun_displayed_as_nextSecond :
    Built ScalarOrString (localDateTime .overrun) ∧
      Built ScalarOrString (localDateTime .nextSecond) ∧
      (localDateTime .overrun).display = (localDateTime .nextSecond).display ∧
      localDateTime .overrun ≠ .localDateTime .nextSecond := by
  refine ⟨.leaf (.scalar (.localDateTime _)), .leaf (.scalar (.localDateTime _)), by decide, ?_⟩
  intro heq
  exact Timestamp.nextSecond_ne_overrun (localDateTime.inj heq).symm

end Value

end PropertyGraph
