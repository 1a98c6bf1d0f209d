import SitBank.Python.Json

/-!
Rows as `csv.writer` writes them and `csv.reader` reads them, both with the default dialect.

The reader is a machine over characters and ends of lines, where a line ends at `\n`, `\r` or
`\r\n` and keeps its ending. Inside quotes an end of line means nothing. Whatever the cells are,
the rows that are written are the rows that are read (`readerRows_writerows`).
-/

namespace SitBank.Python

/-! ### The writer -/

/-- Delimiter, quote and the ends of lines. -/
def csvSpecial (c : ℕ) : Bool := c = 44 || c = 34 || c = 10 || c = 13

/-- `doublequote`. -/
def doubleQuote (c : ℕ) : PyStr := if c = 34 then [34, 34] else [c]

def quotedField (field : PyStr) : PyStr := 34 :: (field.flatMap doubleQuote ++ [34])

/-- `QUOTE_MINIMAL`. A row of one empty field is not left blank. -/
def writeField (alone : Bool) (field : PyStr) : PyStr :=
  if field.any csvSpecial || alone && field.isEmpty then quotedField field else field

def joinFields (alone : Bool) : List PyStr → PyStr
  | [] => []
  | [field] => writeField alone field
  | field :: fields => writeField alone field ++ 44 :: joinFields alone fields

def writerow (row : List PyStr) : PyStr := joinFields (row.length = 1) row ++ [13, 10]

def writerows (rows : List (List PyStr)) : PyStr := rows.flatMap writerow

/-! ### The reader -/

inductive ReaderState
  | startRecord
  | startField
  | inField
  | inQuotedField
  | quoteInQuotedField
  | eatCrnl
  deriving DecidableEq

/-- "new-line character seen in unquoted field". -/
inductive CsvError
  | newLine
  deriving DecidableEq

structure Reader where
  state : ReaderState
  field : PyStr
  fields : List PyStr
  deriving DecidableEq

/-- The characters of a text, with a mark at the end of each line. -/
def markedLines : PyStr → List (Option ℕ)
  | [] => []
  | [c] => [some c, none]
  | c :: d :: s =>
      if c = 13 ∧ d = 10 then some 13 :: some 10 :: none :: markedLines s
      else if c = 10 ∨ c = 13 then some c :: none :: markedLines (d :: s)
      else some c :: markedLines (d :: s)

namespace Reader

def start : Reader := ⟨.startRecord, [], []⟩

variable (r : Reader)

def add (c : ℕ) (state : ReaderState) : Reader := { r with field := r.field ++ [c], state := state }

def save (state : ReaderState) : Reader := ⟨state, [], r.fields ++ [r.field]⟩

def firstChar (c : ℕ) : Reader :=
  if c = 10 ∨ c = 13 then r.save .eatCrnl
  else if c = 34 then { r with state := .inQuotedField }
  else if c = 44 then r.save .startField
  else r.add c .inField

def char (c : ℕ) : Except CsvError Reader :=
  match r.state with
  | .startRecord => .ok (if c = 10 ∨ c = 13 then { r with state := .eatCrnl } else r.firstChar c)
  | .startField => .ok (r.firstChar c)
  | .inField => .ok <|
      if c = 10 ∨ c = 13 then r.save .eatCrnl
      else if c = 44 then r.save .startField
      else r.add c .inField
  | .inQuotedField => .ok <|
      if c = 34 then { r with state := .quoteInQuotedField } else r.add c .inQuotedField
  | .quoteInQuotedField => .ok <|
      if c = 34 then r.add c .inQuotedField
      else if c = 44 then r.save .startField
      else if c = 10 ∨ c = 13 then r.save .eatCrnl
      else r.add c .inField
  | .eatCrnl => if c = 10 ∨ c = 13 then .ok r else .error .newLine

def endLine : Reader :=
  match r.state with
  | .startRecord => r
  | .startField => r.save .startRecord
  | .inField => r.save .startRecord
  | .inQuotedField => r
  | .quoteInQuotedField => r.save .startRecord
  | .eatCrnl => { r with state := .startRecord }

/-- The rows of what is still to be read. A quote that is left open is closed at the end. -/
def rows : Reader → List (Option ℕ) → Except CsvError (List (List PyStr))
  | r, [] => .ok (if r.state = .inQuotedField then [r.fields ++ [r.field]] else [])
  | r, some c :: marks => (r.char c).bind fun r => rows r marks
  | r, none :: marks =>
      if r.endLine.state = .startRecord then
        (rows start marks).map fun rest => r.endLine.fields :: rest
      else rows r.endLine marks

end Reader

/-- `list(csv.reader(io.StringIO(text, newline="")))`. -/
def readerRows (text : PyStr) : Except CsvError (List (List PyStr)) :=
  Reader.start.rows (markedLines text)

/-! ### Reading back -/

section ReadBack

theorem csvSpecial_eq_false {c : ℕ} : csvSpecial c = false ↔ c ≠ 44 ∧ c ≠ 34 ∧ c ≠ 10 ∧ c ≠ 13 := by
  simp [csvSpecial, and_assoc]

theorem markedLines_plain {c : ℕ} (hc : ¬(c = 10 ∨ c = 13)) {s : PyStr} (hs : s ≠ []) :
    markedLines (c :: s) = some c :: markedLines s := by
  cases s with
  | nil => exact absurd rfl hs
  | cons d s =>
      have hcr : ¬(c = 13 ∧ d = 10) := fun h => hc (.inr h.1)
      rw [markedLines, if_neg hcr, if_neg hc]

theorem markedLines_crlf (s : PyStr) :
    markedLines (13 :: 10 :: s) = some 13 :: some 10 :: none :: markedLines s := by
  rw [markedLines, if_pos ⟨rfl, rfl⟩]

variable {r : Reader} {field : PyStr} {fields : List PyStr}

/-- Inside quotes every character but the quote is itself, and lines do not end. -/
theorem rows_inQuotes (hr : r.state = .inQuotedField) {c : ℕ} (hc : c ≠ 34) {s : PyStr}
    (hs : s ≠ []) : r.rows (markedLines (c :: s)) =
      (r.add c .inQuotedField).rows (markedLines s) := by
  have hchar : r.char c = .ok (r.add c .inQuotedField) := by simp [Reader.char, hr, hc]
  have hmark : ∀ marks, (r.add c .inQuotedField).rows (none :: marks) =
      (r.add c .inQuotedField).rows marks := fun marks => by simp [Reader.rows, Reader.endLine,
        Reader.add]
  cases s with
  | nil => exact absurd rfl hs
  | cons d s =>
      rw [markedLines]
      split
      · next h =>
          obtain ⟨rfl, rfl⟩ := h
          -- the mark after `\r\n` is the mark after `\n`
          have hnext : markedLines (10 :: s) = some 10 :: none :: markedLines s := by
            cases s with
            | nil => rfl
            | cons e s =>
                rw [markedLines, if_neg fun h => absurd h.1 (by decide), if_pos (.inl rfl)]
          rw [hnext, Reader.rows, hchar]
          rfl
      · split
        · rw [Reader.rows, hchar]
          exact hmark _
        · rw [Reader.rows, hchar]
          rfl

theorem rows_doubled (hr : r.state = .inQuotedField) {s : PyStr} (hs : s ≠ []) :
    r.rows (markedLines (34 :: 34 :: s)) =
      (r.add 34 .inQuotedField).rows (markedLines s) := by
  rw [markedLines_plain (by decide) (List.cons_ne_nil 34 s), markedLines_plain (by decide) hs]
  simp [Reader.rows, Reader.char, Reader.add, hr, Except.bind]

/-- The text between quotes, and the quote that ends it. -/
theorem rows_quoted (hr : r.state = .inQuotedField) {s : PyStr} (hs : s ≠ []) :
    r.rows (markedLines (field.flatMap doubleQuote ++ 34 :: s)) =
      ({ r with field := r.field ++ field, state := .quoteInQuotedField } : Reader).rows
        (markedLines s) := by
  induction field generalizing r with
  | nil =>
      rw [List.flatMap_nil, List.nil_append, markedLines_plain (by decide) hs, List.append_nil]
      simp [Reader.rows, Reader.char, hr, Except.bind]
  | cons c field ih =>
      have hrest : field.flatMap doubleQuote ++ 34 :: s ≠ [] :=
        List.append_ne_nil_of_right_ne_nil _ (List.cons_ne_nil _ _)
      have hstep : r.rows (markedLines ((c :: field).flatMap doubleQuote ++ 34 :: s)) =
          (r.add c .inQuotedField).rows (markedLines (field.flatMap doubleQuote ++ 34 :: s)) := by
        rw [List.flatMap_cons, doubleQuote]
        split
        · next hc =>
            rw [hc]
            exact rows_doubled hr hrest
        · next hc => exact rows_inQuotes hr hc hrest
      rw [hstep, ih rfl]
      simp [Reader.add]

/-- A field without special characters, up to what ends it. -/
theorem rows_unquoted (hfield : ∀ c ∈ field, csvSpecial c = false) {s : PyStr} (hs : s ≠ [])
    (hr : r.state = .inField) : r.rows (markedLines (field ++ s)) =
      ({ r with field := r.field ++ field } : Reader).rows (markedLines s) := by
  induction field generalizing r with
  | nil => simp
  | cons c field ih =>
      obtain ⟨hcomma, hquote, hlf, hcr⟩ := csvSpecial_eq_false.mp (hfield c (.head _))
      have hrest : field ++ s ≠ [] := List.append_ne_nil_of_right_ne_nil _ hs
      have hchar : r.char c = .ok (r.add c .inField) := by simp [Reader.char, hr, hlf, hcr, hcomma]
      rw [List.cons_append, markedLines_plain (by simp [hlf, hcr]) hrest, Reader.rows, hchar]
      refine (ih (r := r.add c .inField) (fun d hd => hfield d (.tail _ hd)) rfl).trans ?_
      simp [Reader.add, hr]

/-- The states in which a field has been read. -/
def FieldRead (r : Reader) (field : PyStr) (fields : List PyStr) : Prop :=
  r = ⟨.inField, field, fields⟩ ∨ r = ⟨.quoteInQuotedField, field, fields⟩ ∨
    field = [] ∧ r = ⟨.startField, [], fields⟩

theorem FieldRead.comma (hr : FieldRead r field fields) {s : PyStr} (hs : s ≠ []) :
    r.rows (markedLines (44 :: s)) =
      (⟨.startField, [], fields ++ [field]⟩ : Reader).rows (markedLines s) := by
  rw [markedLines_plain (by decide) hs]
  rcases hr with rfl | rfl | ⟨rfl, rfl⟩ <;> rfl

theorem FieldRead.endRow (hr : FieldRead r field fields) (s : PyStr) :
    r.rows (markedLines (13 :: 10 :: s)) =
      (readerRows s).map fun rest => (fields ++ [field]) :: rest := by
  rw [markedLines_crlf]
  rcases hr with rfl | rfl | ⟨rfl, rfl⟩ <;> rfl

/-- A field at the start of a row or after a delimiter. -/
theorem rows_writeField (field : PyStr) (fields : List PyStr) {state : ReaderState}
    (hstate : state = .startRecord ∨ state = .startField) (alone : Bool) {s : PyStr}
    (hs : s ≠ []) (hne : state = .startField ∨ writeField alone field ≠ []) :
    ∃ r, FieldRead r field fields ∧ (⟨state, [], fields⟩ : Reader).rows
      (markedLines (writeField alone field ++ s)) = r.rows (markedLines s) := by
  unfold writeField at hne ⊢
  split
  · refine ⟨⟨.quoteInQuotedField, field, fields⟩, .inr (.inl rfl), ?_⟩
    have hrest : field.flatMap doubleQuote ++ 34 :: s ≠ [] :=
      List.append_ne_nil_of_right_ne_nil _ (List.cons_ne_nil _ _)
    have hopen : (⟨state, [], fields⟩ : Reader).rows (markedLines (quotedField field ++ s)) =
        (⟨.inQuotedField, [], fields⟩ : Reader).rows
          (markedLines (field.flatMap doubleQuote ++ 34 :: s)) := by
      rw [quotedField, List.cons_append, List.append_assoc, List.singleton_append,
        markedLines_plain (by decide) hrest]
      rcases hstate with rfl | rfl <;> rfl
    rw [hopen, rows_quoted rfl hs]
    rfl
  · next hplain =>
      rw [if_neg hplain] at hne
      rw [Bool.or_eq_true, not_or, Bool.not_eq_true, List.any_eq_false] at hplain
      have hfield : ∀ c ∈ field, csvSpecial c = false := fun c hc => by
        simpa using hplain.1 c hc
      cases field with
      | nil =>
          obtain rfl : state = .startField := hne.resolve_right fun h => h rfl
          exact ⟨_, .inr (.inr ⟨rfl, rfl⟩), rfl⟩
      | cons c field =>
          obtain ⟨hcomma, hquote, hlf, hcr⟩ := csvSpecial_eq_false.mp (hfield c (.head _))
          refine ⟨⟨.inField, c :: field, fields⟩, .inl rfl, ?_⟩
          have hrest : field ++ s ≠ [] := List.append_ne_nil_of_right_ne_nil _ hs
          have hfirst : (⟨state, [], fields⟩ : Reader).char c = .ok ⟨.inField, [c], fields⟩ := by
            rcases hstate with rfl | rfl <;>
              simp [Reader.char, Reader.firstChar, Reader.add, hcomma, hquote, hlf, hcr]
          rw [List.cons_append, markedLines_plain (by simp [hlf, hcr]) hrest, Reader.rows, hfirst]
          exact rows_unquoted (fun d hd => hfield d (.tail _ hd)) hs rfl

/-- A field and the delimiter after it. -/
theorem rows_writeField_comma {state : ReaderState}
    (hstate : state = .startRecord ∨ state = .startField) (alone : Bool) {s : PyStr}
    (hs : s ≠ []) : (⟨state, [], fields⟩ : Reader).rows
      (markedLines (writeField alone field ++ 44 :: s)) =
      (⟨.startField, [], fields ++ [field]⟩ : Reader).rows (markedLines s) := by
  by_cases hne : writeField alone field = []
  · have hfield : field = [] := by
      unfold writeField at hne
      split at hne
      · exact absurd hne (List.cons_ne_nil _ _)
      · exact hne
    rw [hne, hfield, List.nil_append, markedLines_plain (by decide) hs]
    rcases hstate with rfl | rfl <;> rfl
  · obtain ⟨r, hr, hread⟩ := rows_writeField field fields hstate alone
      (List.cons_ne_nil 44 s) (.inr hne)
    rw [hread, hr.comma hs]

/-- The fields of a row that has begun, and the rows after it. -/
theorem rows_joinFields (alone : Bool) (field : PyStr) (row : List PyStr) (s : PyStr) :
    (⟨.startField, [], fields⟩ : Reader).rows
      (markedLines (joinFields alone (field :: row) ++ 13 :: 10 :: s)) =
      (readerRows s).map fun rest => (fields ++ field :: row) :: rest := by
  induction row generalizing field fields with
  | nil =>
      obtain ⟨r, hr, hread⟩ := rows_writeField field fields (.inr rfl) alone
        (List.cons_ne_nil 13 (10 :: s)) (.inl rfl)
      exact hread.trans (hr.endRow s)
  | cons field' row ih =>
      have hrest : joinFields alone (field' :: row) ++ 13 :: 10 :: s ≠ [] :=
        List.append_ne_nil_of_right_ne_nil _ (List.cons_ne_nil _ _)
      rw [joinFields, List.append_assoc, List.cons_append,
        rows_writeField_comma (.inr rfl) alone hrest, ih, List.append_assoc, List.singleton_append]
      exact List.cons_ne_nil _ _

theorem readerRows_writerow (row : List PyStr) (s : PyStr) :
    readerRows (writerow row ++ s) = (readerRows s).map fun rest => row :: rest := by
  unfold writerow
  rw [List.append_assoc]
  cases row with
  | nil =>
      change Reader.start.rows (markedLines (13 :: 10 :: s)) = _
      rw [markedLines_crlf]
      rfl
  | cons field row =>
      cases row with
      | nil =>
          have hne : writeField true field ≠ [] := by
            unfold writeField
            split
            · exact List.cons_ne_nil _ _
            · next hplain =>
                rintro rfl
                exact hplain rfl
          obtain ⟨r, hr, hread⟩ := rows_writeField field [] (.inl rfl) true
            (List.cons_ne_nil 13 (10 :: s)) (.inr hne)
          exact hread.trans (hr.endRow s)
      | cons field' row =>
          have hrest : joinFields false (field' :: row) ++ 13 :: 10 :: s ≠ [] :=
            List.append_ne_nil_of_right_ne_nil _ (List.cons_ne_nil _ _)
          have halone : decide ((field :: field' :: row).length = 1) = false := by simp
          rw [halone, joinFields, List.append_assoc, List.cons_append]
          · exact (rows_writeField_comma (.inl rfl) false hrest).trans
              (rows_joinFields false field' row s)
          · exact List.cons_ne_nil _ _

/-- Whatever the cells are, the rows that were written are read. -/
theorem readerRows_writerows (rows : List (List PyStr)) :
    readerRows (writerows rows) = .ok rows := by
  induction rows with
  | nil => rfl
  | cons row rows ih =>
      rw [writerows, List.flatMap_cons, readerRows_writerow]
      change (readerRows (writerows rows)).map _ = _
      rw [ih]
      rfl

end ReadBack

end SitBank.Python
