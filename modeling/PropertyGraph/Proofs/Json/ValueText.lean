import PropertyGraph.Json.Value
import PropertyGraph.Json.Spelled
import PropertyGraph.Proofs.Calendar.Spelling
import PropertyGraph.Value.Clock

/-!
# Values are read back from JSON

The text of a value is read as what is shown of that value or it is refused, and it is never read
as anything else.  What is shown is the value itself, unless the nanoseconds of a timestamp in it
run on after a second other than fifty-nine: the text then shows the second after it.  Two things
are refused: a number that is not finite, which is written as null, and contents that are nested
deeper than a reader goes.

Reading a number is rounding, so whether a number is read back is a fact about that number.  It is
assumed here for the finite numbers that occur in the value (`ReadsBack`), and nothing else is.

* `readValue_tagged` — a value is read as the contents of its kind, one level further in;
* `readValue_plain`, `readValue_float`, `readValue_bytes`, `readValue_point`, `readValue_list` — the
  kinds;
* `readValue_document`, `readValues_documents` — a value and a list of values at any depth;
* `decode_text_iff_fits` — the same for the texts;
* `overrun_comes_back_changed` — a text that is read as another value than the one it was written
  for.
-/

namespace PropertyGraph

namespace Value

open Json

mutual

/-- The floating-point numbers in a value, the coordinates of points included. -/
def floats : Value → List Binary64
  | .float x => [x]
  | .list vs => floatsEach vs
  | .point _ x y => [x, y]
  | _ => []

/-- The floating-point numbers in several values. -/
def floatsEach : List Value → List Binary64
  | [] => []
  | v :: vs => floats v ++ floatsEach vs

end

/-- The number is read back from the text that it is written as. -/
def ReadsBack (x : Binary64) : Prop := decodeText readFloat (Document.float x).text = .ok x

/-- The numbers that are not finite have no text of their own. -/
def AllFinite (xs : List Binary64) : Prop := ∀ x ∈ xs, x.isFinite = true

instance (xs : List Binary64) : Decidable (AllFinite xs) :=
  inferInstanceAs (Decidable (∀ x ∈ xs, x.isFinite = true))

/-- The finite ones among these numbers are read back. -/
def FiniteReadBack (xs : List Binary64) : Prop := ∀ x ∈ xs, x.isFinite = true → ReadsBack x

/-! ## Scalars -/

theorem readFloat_number {x : Binary64} (hfinite : x.isFinite = true) (hread : ReadsBack x)
    (depth : Nat) : readFloat depth (Document.float x).tree = .ok x := by
  rw [ReadsBack, decodeText_text] at hread
  simp only [Document.float, if_pos hfinite, Document.tree, readFloat, readNumber] at hread ⊢
  exact hread

theorem readFloat_null {x : Binary64} (hinfinite : ¬ x.isFinite = true) (depth : Nat) :
    readFloat depth (Document.float x).tree = .error .unreadable := by
  simp only [Document.float, if_neg hinfinite, Document.tree, readFloat, readNumber]

theorem readInt_int (i : Int64) (depth : Nat) :
    readNumber Numeral.toSigned? depth (Document.int i.toInt).tree = .ok i := by
  simp only [Document.int, Document.tree, readNumber, Numeral.toSigned?_toInt, orUnreadable]

theorem readSrid_int (i : Int32) (depth : Nat) :
    readSrid depth (Document.int i.toInt).tree = .ok i := by
  have hbounded := Numeral.toBounded?_ofInt _ _ _ i.minValue_le_toInt i.toInt_le
  simp only [Document.int, Document.tree, readSrid, readNumber, hbounded, Option.map_some,
    Int32.ofInt_toInt, orUnreadable]

theorem readByte_int (b : UInt8) (depth : Nat) :
    readByte depth (Document.int b.toNat).tree = .ok b := by
  have hbound := b.toNat_lt
  have hbounded := Numeral.toBounded?_ofInt 0 255 b.toNat (by omega) (by omega)
  simp only [Document.int, Document.tree, readByte, readNumber, hbounded, Option.map_some,
    Int.toNat_natCast, UInt8.ofNat_toNat, orUnreadable]

theorem readSpelled_string {α : Type} {read : List Char → Option α} {s : List Char} {a : α}
    (h : read s = some a) (depth : Nat) :
    readSpelled read depth (Document.string (String.ofList s)).tree = .ok a := by
  simp only [Document.tree, readSpelled, String.toList_ofList, h, orUnreadable]

theorem readEach_bytes (bs : List UInt8) (depth : Nat) :
    readEach (readByte depth) (itemTrees (bs.map fun b => .int b.toNat)) = .ok bs := by
  induction bs with
  | nil => rfl
  | cons b rest ih =>
    rw [List.map_cons, itemTrees, readEach, readByte_int, ih]
    rfl

theorem itemNesting_bytes (bs : List UInt8) :
    Document.itemNesting (bs.map fun b => .int b.toNat) = 0 := by
  induction bs with
  | nil => rfl
  | cons b rest ih =>
    rw [List.map_cons, Document.itemNesting, ih]
    rfl

/-- The coordinates of a point are read one after the other. -/
theorem readPoint_members (srid : Int32) (x y : Binary64) (depth : Nat) :
    readPoint (depth + 1)
        (Document.object [("srid", .int srid.toInt), ("x", .float x), ("y", .float y)]).tree =
      (do
        let x ← readFloat depth (Document.float x).tree
        let y ← readFloat depth (Document.float y).tree
        return .point srid x y) := by
  simp [readPoint, Document.tree, memberTrees, readRecord, readFieldMembers, pointFields,
    RecordField.reading, readSrid_int]
  cases readFloat depth (Document.float x).tree with
  | error fault => rfl
  | ok x => cases readFloat depth (Document.float y).tree <;> rfl

/-- A point is read back if both coordinates are finite. -/
theorem readPoint_document {x y : Binary64} (hread : FiniteReadBack [x, y]) (srid : Int32)
    (depth : Nat) :
    readPoint (depth + 1)
        (Document.object [("srid", .int srid.toInt), ("x", .float x), ("y", .float y)]).tree =
      if AllFinite [x, y] then .ok (.point srid x y) else .error .unreadable := by
  rw [readPoint_members]
  by_cases hx : x.isFinite = true
  · rw [readFloat_number hx (hread x (by simp) hx)]
    by_cases hy : y.isFinite = true
    · rw [readFloat_number hy (hread y (by simp) hy), if_pos (by simp [AllFinite, hx, hy])]
      rfl
    · rw [readFloat_null hy, if_neg (by simp [AllFinite, hy])]
      rfl
  · rw [readFloat_null hx, if_neg (by simp [AllFinite, hx])]
    rfl

/-! ## Values -/

/-- A value with its kind and contents is read as the contents of that kind. -/
theorem readValue_tagged (lax : Bool) (depth : Nat) (kind : ValueKind) (contents : Document) :
    readValue lax (depth + 1) (tagged kind contents).tree =
      readContents lax depth contents.tree kind := by
  have hkind : readKind lax depth (.string (some kind.name)) = .ok kind :=
    ValueKind.findVariant_name kind
  have hvalue : ¬ ("value" = "type") := by decide
  simp only [tagged, Document.tree, memberTrees, readValue, readValueMembers, hkind, if_true,
    if_neg hvalue]
  show (readContents lax depth contents.tree kind >>= fun v => (Progress.done v).finish) = _
  cases readContents lax depth contents.tree kind <;> rfl

theorem nesting_tagged (kind : ValueKind) (contents : Document) :
    (tagged kind contents).nesting = contents.nesting + 1 := by
  simp [tagged, Document.nesting, Document.memberNesting]

/-- Whether a value survives being written and read at a depth: its numbers are finite and it is not
nested too deep. -/
def Fits (depth : Nat) (v : Value) : Prop :=
  AllFinite v.floats ∧ v.document.nesting ≤ depth

/-- Whether several values survive. -/
def FitEach (depth : Nat) (vs : List Value) : Prop :=
  AllFinite (floatsEach vs) ∧ Document.itemNesting (documents vs) ≤ depth

instance (depth : Nat) (v : Value) : Decidable (Fits depth v) :=
  inferInstanceAs (Decidable (_ ∧ _))

instance (depth : Nat) (vs : List Value) : Decidable (FitEach depth vs) :=
  inferInstanceAs (Decidable (_ ∧ _))

theorem fitEach_cons (depth : Nat) (v : Value) (vs : List Value) :
    FitEach depth (v :: vs) ↔ Fits depth v ∧ FitEach depth vs := by
  simp only [FitEach, Fits, AllFinite, floatsEach, documents, Document.itemNesting,
    List.mem_append, Nat.max_le]
  constructor
  · rintro ⟨hfinite, hhead, htail⟩
    exact ⟨⟨fun x hx => hfinite x (.inl hx), hhead⟩, fun x hx => hfinite x (.inr hx), htail⟩
  · rintro ⟨⟨hhead, hnesting⟩, htail, hrest⟩
    refine ⟨?_, hnesting, hrest⟩
    rintro x (hx | hx)
    · exact hhead x hx
    · exact htail x hx

/-- Every value takes a level. -/
theorem readValue_zero (lax : Bool) (v : Value) :
    readValue lax 0 v.document.tree = if Fits 0 v then .ok v.shown else .error .unreadable := by
  have hobject : ∃ members, v.document = .object members := by
    cases v <;> exact ⟨_, rfl⟩
  obtain ⟨members, hmembers⟩ := hobject
  have hdeep : ¬ Fits 0 v := by
    rintro ⟨_, hnesting⟩
    rw [hmembers, Document.nesting] at hnesting
    omega
  rw [hmembers, if_neg hdeep]
  rfl

theorem fits_tagged {v : Value} {kind : ValueKind} {contents : Document}
    (hdocument : v.document = tagged kind contents) (depth : Nat) :
    Fits (depth + 1) v ↔ AllFinite v.floats ∧ contents.nesting ≤ depth := by
  rw [Fits, hdocument, nesting_tagged, Nat.succ_le_succ_iff]

/-- A value of a kind without numbers and levels of its own is always read as it is shown. -/
theorem readValue_plain {lax : Bool} {depth : Nat} {v : Value} {kind : ValueKind}
    {contents : Document} (hdocument : v.document = tagged kind contents) (hfloats : v.floats = [])
    (hplain : contents.nesting = 0)
    (hread : readContents lax depth contents.tree kind = .ok v.shown) :
    readValue lax (depth + 1) v.document.tree =
      if Fits (depth + 1) v then .ok v.shown else .error .unreadable := by
  have hfits : Fits (depth + 1) v := by
    rw [fits_tagged hdocument, hfloats, hplain]
    exact ⟨nofun, Nat.zero_le depth⟩
  rw [if_pos hfits, hdocument, readValue_tagged, hread]

theorem nesting_float (x : Binary64) : (Document.float x).nesting = 0 := by
  unfold Document.float
  split <;> rfl

theorem readValue_null (lax : Bool) (depth : Nat) :
    readValue lax (depth + 1) (document .null).tree =
      if Fits (depth + 1) .null then .ok .null else .error .unreadable := by
  have hfits : Fits (depth + 1) .null := by
    refine ⟨nofun, ?_⟩
    simp [document, Document.nesting, Document.memberNesting]
  rw [if_pos hfits]
  rfl

theorem readValue_float (lax : Bool) (depth : Nat) {x : Binary64} (hread : FiniteReadBack [x]) :
    readValue lax (depth + 1) (document (.float x)).tree =
      if Fits (depth + 1) (.float x) then .ok (.float x) else .error .unreadable := by
  have hdocument : document (.float x) = tagged .float (.float x) := by rw [document]
  rw [hdocument, readValue_tagged, readContents]
  by_cases hx : x.isFinite = true
  · have hfits : Fits (depth + 1) (.float x) := by
      rw [fits_tagged hdocument, nesting_float]
      exact ⟨by simpa [AllFinite, floats] using hx, Nat.zero_le depth⟩
    rw [if_pos hfits, readFloat_number hx (hread x (by simp) hx)]
    rfl
  · have hfits : ¬ Fits (depth + 1) (.float x) := by
      rintro ⟨hfinite, _⟩
      exact hx (hfinite x (by simp [floats]))
    rw [if_neg hfits, readFloat_null hx]
    rfl

theorem readValue_bytes (lax : Bool) (depth : Nat) (bs : List UInt8) :
    readValue lax (depth + 1) (document (.bytes bs)).tree =
      if Fits (depth + 1) (.bytes bs) then .ok (.bytes bs) else .error .unreadable := by
  have hdocument : document (.bytes bs) =
      tagged .bytes (.array (bs.map fun b => .int b.toNat)) := by rw [document]
  have hfits : Fits (depth + 1) (.bytes bs) ↔ 1 ≤ depth := by
    rw [fits_tagged hdocument, Document.nesting, itemNesting_bytes]
    exact ⟨fun h => h.2, fun h => ⟨nofun, h⟩⟩
  rw [hdocument, readValue_tagged, readContents]
  cases depth with
  | zero =>
    rw [if_neg (by simp [hfits])]
    rfl
  | succ depth =>
    rw [if_pos (by simp [hfits]), Document.tree, readList, readEach_bytes]
    rfl

theorem readValue_point (lax : Bool) (depth : Nat) (srid : Int32) {x y : Binary64}
    (hread : FiniteReadBack [x, y]) :
    readValue lax (depth + 1) (document (.point srid x y)).tree =
      if Fits (depth + 1) (.point srid x y) then .ok (.point srid x y)
      else .error .unreadable := by
  have hdocument : document (.point srid x y) = tagged .point
      (.object [("srid", .int srid.toInt), ("x", .float x), ("y", .float y)]) := by rw [document]
  have hnesting : (Document.object
      [("srid", .int srid.toInt), ("x", .float x), ("y", .float y)]).nesting = 1 := by
    have hx : (Document.float x).nesting = 0 := nesting_float x
    have hy : (Document.float y).nesting = 0 := nesting_float y
    simp [Document.nesting, Document.memberNesting, Document.int, hx, hy]
  have hfits : Fits (depth + 1) (.point srid x y) ↔ AllFinite [x, y] ∧ 1 ≤ depth := by
    rw [fits_tagged hdocument, hnesting, floats]
  rw [hdocument, readValue_tagged, readContents]
  cases depth with
  | zero =>
    rw [if_neg (by simp [hfits])]
    rfl
  | succ depth =>
    rw [readPoint_document hread]
    simp [hfits]

/-- A list is read as it is shown if its values are. -/
theorem readValue_list {lax : Bool} {vs : List Value}
    (heach : ∀ depth, readValues lax depth (itemTrees (documents vs)) =
      if FitEach depth vs then .ok (vs.map shown) else .error .unreadable) (depth : Nat) :
    readValue lax (depth + 1) (document (.list vs)).tree =
      if Fits (depth + 1) (.list vs) then .ok (shown (.list vs)) else .error .unreadable := by
  have hdocument : document (.list vs) = tagged .list (.array (documents vs)) := by rw [document]
  have hfits : Fits (depth + 1) (.list vs) ↔
      AllFinite (floatsEach vs) ∧ Document.itemNesting (documents vs) + 1 ≤ depth := by
    rw [fits_tagged hdocument, Document.nesting, floats]
  rw [hdocument, readValue_tagged, Document.tree]
  -- The object has taken one level, and its array takes another.
  cases depth with
  | zero =>
    rw [if_neg (by simp [hfits])]
    rfl
  | succ depth =>
    have heq : Fits (depth + 1 + 1) (.list vs) ↔ FitEach depth vs := by
      rw [hfits, FitEach, Nat.succ_le_succ_iff]
    rw [readContents, heach depth, shown_list]
    simp only [heq]
    by_cases hall : FitEach depth vs
    · rw [if_pos hall, if_pos hall]
      rfl
    · rw [if_neg hall, if_neg hall]
      rfl

mutual

/-- **A value is read as it is shown if it fits**, and it is refused if it does not. -/
theorem readValue_document (lax : Bool) : ∀ (depth : Nat) (v : Value), FiniteReadBack v.floats →
    readValue lax depth v.document.tree =
      if Fits depth v then .ok v.shown else .error .unreadable
  | 0, v, _ => readValue_zero lax v
  | depth + 1, .null, _ => readValue_null lax depth
  | depth + 1, .bool b, _ => readValue_plain (by rw [document]) rfl rfl rfl
  | depth + 1, .int i, _ => by
    refine readValue_plain (by rw [document]) rfl rfl ?_
    rw [readContents, readInt_int]
    rfl
  | depth + 1, .float x, hread => readValue_float lax depth hread
  | depth + 1, .string s, _ => readValue_plain (by rw [document]) rfl rfl rfl
  | depth + 1, .bytes bs, _ => readValue_bytes lax depth bs
  | depth + 1, .list vs, hread =>
    readValue_list (fun depth => readValues_documents lax depth vs hread) depth
  | depth + 1, .date d, _ => by
    refine readValue_plain (by rw [document]) rfl rfl ?_
    rw [readContents, readSpelled_string d.read?_chars]
    rfl
  | depth + 1, .dateTime t, _ => by
    refine readValue_plain (by rw [document]) rfl rfl ?_
    rw [readContents, readSpelled_string t.readUtc?_chars]
    rfl
  | depth + 1, .localDateTime t, _ => by
    refine readValue_plain (by rw [document]) rfl rfl ?_
    rw [readContents, readSpelled_string t.readLocal?_chars]
    rfl
  | depth + 1, .point srid x y, hread => readValue_point lax depth srid hread

/-- Several values are read as they are shown if all of them fit. -/
theorem readValues_documents (lax : Bool) : ∀ (depth : Nat) (vs : List Value),
    FiniteReadBack (floatsEach vs) →
    readValues lax depth (itemTrees (documents vs)) =
      if FitEach depth vs then .ok (vs.map shown) else .error .unreadable
  | depth, [], _ => by
    have hfit : FitEach depth [] := ⟨nofun, Nat.zero_le depth⟩
    rw [if_pos hfit]
    rfl
  | depth, v :: vs, hread => by
    have hhead : FiniteReadBack v.floats := fun x hx => hread x (List.mem_append_left _ hx)
    have htail : FiniteReadBack (floatsEach vs) := fun x hx => hread x (List.mem_append_right _ hx)
    rw [documents, itemTrees, readValues, readValue_document lax depth v hhead,
      readValues_documents lax depth vs htail]
    simp only [fitEach_cons]
    by_cases hv : Fits depth v
    · by_cases hvs : FitEach depth vs
      · rw [if_pos hv, if_pos hvs, if_pos ⟨hv, hvs⟩]
        rfl
      · have hneither : ¬ (Fits depth v ∧ FitEach depth vs) := fun h => hvs h.2
        rw [if_pos hv, if_neg hvs, if_neg hneither]
        rfl
    · have hneither : ¬ (Fits depth v ∧ FitEach depth vs) := fun h => hv h.1
      rw [if_neg hv, if_neg hneither]
      rfl

end

/-! ## Texts -/

/-- The text of a value is read as what is shown of it, if it fits. -/
theorem decode_text (v : Value) (hread : FiniteReadBack v.floats) :
    decodeText decoder v.document.text =
      if AllFinite v.floats ∧ v.document.nesting ≤ nestingLimit then .ok v.shown
      else .error .unreadable := by
  rw [decodeText_text, decoder, readValue_document false nestingLimit v hread]
  rfl

/-- **Writing a value and reading it again changes its clocks alone**: it comes back as it is shown,
or not at all, and the latter just if one of its numbers is not finite or its text is nested deeper
than a reader goes.  What is shown is the value itself just if its nanoseconds never run on after a
second other than fifty-nine. -/
theorem decode_text_iff_fits (v : Value) (hread : FiniteReadBack v.floats) :
    (decodeText decoder v.document.text =
      if AllFinite v.floats ∧ v.document.nesting ≤ nestingLimit then .ok v.shown
      else .error .unreadable) ∧ (v.shown = v ↔ v.LeapsAtSixty) :=
  ⟨decode_text v hread, shown_eq_self_iff⟩

/-- A value with a number, a string that needs escapes, and a leap second of a year before zero. -/
def mixedValue : Value :=
  .list [.float ⟨0x3FB999999999999A⟩, .list [.string "a\"b\\c\n", .int (-1)],
    .localDateTime ⟨⟨-1, 12, 31, by decide⟩, ⟨23, 59, 59, 1500000000, by decide⟩⟩]

theorem decode_text_mixedValue :
    FiniteReadBack mixedValue.floats ∧ mixedValue.LeapsAtSixty ∧
      decodeText decoder mixedValue.document.text = .ok mixedValue := by
  have hread : FiniteReadBack mixedValue.floats := by
    intro x hx _
    have heq : x = ⟨0x3FB999999999999A⟩ := by simpa [mixedValue, floats, floatsEach] using hx
    have hnumber :
        Numeral.toBinary64? (numberLayout.numeral ⟨0x3FB999999999999A⟩) =
          some ⟨0x3FB999999999999A⟩ := by decide +kernel
    rw [heq, ReadsBack, decodeText_text, Document.float, if_pos (by decide), Document.tree,
      readFloat, readNumber, hnumber]
    rfl
  have hleaps : mixedValue.LeapsAtSixty := by decide
  obtain ⟨htext, hshown⟩ := decode_text_iff_fits mixedValue hread
  refine ⟨hread, hleaps, ?_⟩
  rw [htext, if_pos (by decide +kernel), hshown.2 hleaps]

/-- **A value that fits can come back as another one.** -/
theorem overrun_comes_back_changed :
    (localDateTime .overrun).document.text =
        "\x7b\"type\":\"LocalDateTime\",\"value\":\"2015-06-30T20:19:24\"\x7d" ∧
      decodeText decoder (localDateTime .overrun).document.text = .ok (.localDateTime .nextSecond) ∧
      localDateTime .nextSecond ≠ .localDateTime .overrun := by
  have hread : FiniteReadBack (localDateTime .overrun).floats := by simp [FiniteReadBack, floats]
  refine ⟨by decide +kernel, ?_, ?_⟩
  · rw [decode_text _ hread, if_pos (by decide +kernel), shown, Timestamp.shown_overrun]
  · intro heq
    exact Timestamp.nextSecond_ne_overrun (localDateTime.inj heq)

end Value

end PropertyGraph
