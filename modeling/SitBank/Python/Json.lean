import Mathlib.Data.Int.Notation
import SitBank.Python.Text

/-!
`json.dumps` with `separators=(",", ":")` and `ensure_ascii=True`, as text.

A `str` is the list of its code points, so that it can hold the surrogates that a
Lean character cannot. The text of a value can be told apart from what follows it
without knowing the value: `scan` keeps track of brackets and quotes only, and
finds the end of every text that `dumps` produces (`scan_dumps`). Two texts with
the same continuation are therefore equal piece by piece (`dumps_append_inj`).
-/

namespace SitBank.Python

/-! ### Values -/

/-- A `str`: its code points. -/
abbrev PyStr := List ℕ

/-- For membership in lists of texts. -/
instance pyStr_lawfulBEq : LawfulBEq PyStr := inferInstance

def PyStr.ofString (s : String) : PyStr := s.toList.map Char.toNat

theorem ofString_injective {s s' : String} (h : PyStr.ofString s = PyStr.ofString s') : s = s' := by
  unfold PyStr.ofString at h
  have hchars : s.toList = s'.toList :=
    (List.map_inj_right fun _ _ hc => Char.toNat_inj.mp hc).mp h
  rw [← String.ofList_toList (s := s), hchars, String.ofList_toList]

/-- Characters outside the structure of a text. -/
def plainChar (c : Char) : Bool :=
  c ≠ '"' && c ≠ '\\' && c ≠ '[' && c ≠ ']' && c ≠ '{' && c ≠ '}' && c ≠ ','

/-- `float.__repr__`; its digits are of no concern here. -/
structure FloatText where
  text : List Char
  plain : ∀ c ∈ text, plainChar c = true

theorem plainChar_nil : ∀ c ∈ ([] : List Char), plainChar c = true := List.forall_mem_nil _

inductive Json
  | null
  | bool (b : Bool)
  | int (n : ℤ)
  | float (x : FloatText)
  | str (s : PyStr)
  | arr (items : List Json)
  | obj (pairs : List (PyStr × Json))

/-! ### Texts -/

def hexDigit (n : ℕ) : Char := (Nat.toDigits 16 (n % 16)).headD '0'

/-- `\uXXXX`. -/
def escapeUnit (n : ℕ) : List Char :=
  ['\\', 'u', hexDigit (n / 4096), hexDigit (n / 256), hexDigit (n / 16), hexDigit n]

def escapeCodePoint (n : ℕ) : List Char :=
  if n = 0x22 then ['\\', '"']
  else if n = 0x5C then ['\\', '\\']
  else if n = 0x0A then ['\\', 'n']
  else if n = 0x0D then ['\\', 'r']
  else if n = 0x09 then ['\\', 't']
  else if n = 0x0C then ['\\', 'f']
  else if n = 0x08 then ['\\', 'b']
  else if 0x20 ≤ n ∧ n ≤ 0x7E then [Char.ofNat n]
  else if n ≤ 0xFFFF then escapeUnit n
  else escapeUnit (0xD800 + (n - 0x10000) / 0x400) ++ escapeUnit (0xDC00 + (n - 0x10000) % 0x400)

def dumpsStr (s : PyStr) : List Char := '"' :: (s.flatMap escapeCodePoint ++ ['"'])

def dumpsInt (n : ℤ) : List Char :=
  if n < 0 then '-' :: Nat.toDigits 10 n.natAbs else Nat.toDigits 10 n.natAbs

mutual

def dumps : Json → List Char
  | .null => ['n', 'u', 'l', 'l']
  | .bool true => ['t', 'r', 'u', 'e']
  | .bool false => ['f', 'a', 'l', 's', 'e']
  | .int n => dumpsInt n
  | .float x => x.text
  | .str s => dumpsStr s
  | .arr items => '[' :: dumpsItems items
  | .obj pairs => '{' :: dumpsPairs pairs

/-- The items, and the closing bracket. -/
def dumpsItems : List Json → List Char
  | [] => [']']
  | [v] => dumps v ++ [']']
  | v :: v' :: items => dumps v ++ ',' :: dumpsItems (v' :: items)

def dumpsPairs : List (PyStr × Json) → List Char
  | [] => ['}']
  | [(k, v)] => dumpsStr k ++ ':' :: (dumps v ++ ['}'])
  | (k, v) :: p :: pairs => dumpsStr k ++ ':' :: (dumps v ++ ',' :: dumpsPairs (p :: pairs))

end

/-- How `json.loads` fails: `decode` is a `JSONDecodeError` or a `UnicodeDecodeError`. -/
inductive JsonFault
  | decode
  | recursion
  | value
  deriving DecidableEq, Repr

/-! ### Sorted keys -/

/-- The order of `str`. -/
def strLe : PyStr → PyStr → Bool
  | [], _ => true
  | _ :: _, [] => false
  | a :: s, b :: t => a < b || (a = b && strLe s t)

def insertPair {α : Type} (p : PyStr × α) : List (PyStr × α) → List (PyStr × α)
  | [] => [p]
  | q :: pairs => if strLe p.1 q.1 then p :: q :: pairs else q :: insertPair p pairs

/-- `sorted(pairs, key=...)`; the sort is stable. -/
def sortPairs {α : Type} : List (PyStr × α) → List (PyStr × α)
  | [] => []
  | p :: pairs => insertPair p (sortPairs pairs)

mutual

/-- `sort_keys=True`. -/
def sortKeys : Json → Json
  | .arr items => .arr (sortKeysItems items)
  | .obj pairs => .obj (sortPairs (sortKeysPairs pairs))
  | .null => .null
  | .bool b => .bool b
  | .int n => .int n
  | .float x => .float x
  | .str s => .str s

def sortKeysItems : List Json → List Json
  | [] => []
  | v :: items => sortKeys v :: sortKeysItems items

def sortKeysPairs : List (PyStr × Json) → List (PyStr × Json)
  | [] => []
  | (k, v) :: pairs => (k, sortKeys v) :: sortKeysPairs pairs

end

/-! ### The end of a text -/

inductive ScanMode
  | code
  | text
  | escape

/-- What follows the first value, when `depth` brackets are open. -/
def scan : ℕ → ScanMode → List Char → List Char
  | _, _, [] => []
  | depth, .escape, _ :: s => scan depth .text s
  | depth, .text, c :: s =>
      if c = '\\' then scan depth .escape s
      else if c = '"' then scan depth .code s
      else scan depth .text s
  | depth, .code, c :: s =>
      if c = '"' then scan depth .text s
      else if c = '[' ∨ c = '{' then scan (depth + 1) .code s
      else if depth = 0 ∧ (c = ',' ∨ c = ']' ∨ c = '}') then c :: s
      else if c = ']' ∨ c = '}' then scan (depth - 1) .code s
      else scan depth .code s

theorem scan_plain {c : Char} (h : plainChar c = true) (depth : ℕ) (s : List Char) :
    scan depth .code (c :: s) = scan depth .code s := by
  simp only [plainChar, Bool.and_eq_true, decide_eq_true_eq] at h
  obtain ⟨⟨⟨⟨⟨⟨h₁, _⟩, h₃⟩, h₄⟩, h₅⟩, h₆⟩, h₇⟩ := h
  rw [scan, if_neg h₁, if_neg (by simp [h₃, h₅]), if_neg (by simp [h₄, h₆, h₇]),
    if_neg (by simp [h₄, h₆])]

theorem scan_plains {l : List Char} (h : ∀ c ∈ l, plainChar c = true) (depth : ℕ)
    (s : List Char) : scan depth .code (l ++ s) = scan depth .code s := by
  induction l with
  | nil => rfl
  | cons c l ih =>
      rw [List.cons_append, scan_plain (h c (List.mem_cons_self ..))]
      exact ih fun c' hc' => h c' (List.mem_cons_of_mem c hc')

theorem plainChar_of_isDigit {c : Char} (h : c.isDigit = true) : plainChar c = true := by
  have hne : ∀ d : Char, d.isDigit = false → c ≠ d := by
    rintro d hd rfl
    rw [hd] at h
    cases h
  simp [plainChar, hne]

theorem scan_dumpsInt (n : ℤ) (depth : ℕ) (s : List Char) :
    scan depth .code (dumpsInt n ++ s) = scan depth .code s := by
  have hdigits : ∀ c ∈ Nat.toDigits 10 n.natAbs, plainChar c = true := fun c hc =>
    plainChar_of_isDigit (Nat.isDigit_of_mem_toDigits (by decide) (by decide) hc)
  unfold dumpsInt
  split
  · rw [List.cons_append, scan_plain (by decide), scan_plains hdigits]
  · exact scan_plains hdigits depth s

/-! ### Inside a string -/

/-- Neither a quote nor a backslash. -/
def quotable (c : Char) : Prop := c ≠ '\\' ∧ c ≠ '"'

theorem scan_quotable {c : Char} (h : quotable c) (depth : ℕ) (s : List Char) :
    scan depth .text (c :: s) = scan depth .text s := by
  rw [scan, if_neg h.1, if_neg h.2]

theorem hexDigit_quotable (n : ℕ) : quotable (hexDigit n) := by
  have h : ∀ m < 16, quotable (hexDigit m) := by
    unfold quotable
    decide
  have hmod : hexDigit n = hexDigit (n % 16) := by rw [hexDigit, hexDigit, Nat.mod_mod]
  rw [hmod]
  exact h _ (Nat.mod_lt _ (by decide))

theorem scan_escapeUnit (n depth : ℕ) (s : List Char) :
    scan depth .text (escapeUnit n ++ s) = scan depth .text s := by
  show scan depth .text ('\\' :: 'u' :: hexDigit (n / 4096) :: hexDigit (n / 256) ::
    hexDigit (n / 16) :: hexDigit n :: s) = _
  rw [scan, if_pos rfl, scan]
  iterate 4 rw [scan_quotable (hexDigit_quotable _)]

theorem scan_pair (c : Char) (depth : ℕ) (s : List Char) :
    scan depth .text ('\\' :: c :: s) = scan depth .text s := by
  rw [scan, if_pos rfl, scan]

theorem quotable_ofNat {n : ℕ} (h : 0x20 ≤ n ∧ n ≤ 0x7E) (h₁ : n ≠ 0x22) (h₂ : n ≠ 0x5C) :
    quotable (Char.ofNat n) := by
  have hall : ∀ m < 0x7F, 0x20 ≤ m → m ≠ 0x22 → m ≠ 0x5C → quotable (Char.ofNat m) := by
    unfold quotable
    decide
  exact hall n (by omega) h.1 h₁ h₂

theorem toNat_ofNat_of_valid {n : ℕ} (h : n.isValidChar) : (Char.ofNat n).toNat = n := by
  rw [Char.ofNat, dif_pos h]
  rfl

/-- The letters of the short escapes. -/
def shortEscapes : List (Char × ℕ) :=
  [('"', 0x22), ('\\', 0x5C), ('n', 0x0A), ('r', 0x0D), ('t', 0x09), ('f', 0x0C), ('b', 0x08)]

/-- The ways in which a code point is written. -/
inductive Escaped (n : ℕ) : List Char → Prop
  | short {c : Char} (hc : (c, n) ∈ shortEscapes) : Escaped n ['\\', c]
  | printable (h : 0x20 ≤ n ∧ n ≤ 0x7E) (hc : quotable (Char.ofNat n)) : Escaped n [Char.ofNat n]
  | unit (h : n ≤ 0xFFFF) : Escaped n (escapeUnit n)
  | surrogates (h : ¬n ≤ 0xFFFF) :
      Escaped n (escapeUnit (0xD800 + (n - 0x10000) / 0x400) ++
        escapeUnit (0xDC00 + (n - 0x10000) % 0x400))

theorem escaped_escapeCodePoint (n : ℕ) : Escaped n (escapeCodePoint n) := by
  unfold escapeCodePoint
  split
  · next hn => exact hn ▸ .short (by decide)
  split
  · next hn => exact hn ▸ .short (by decide)
  split
  · next hn => exact hn ▸ .short (by decide)
  split
  · next hn => exact hn ▸ .short (by decide)
  split
  · next hn => exact hn ▸ .short (by decide)
  split
  · next hn => exact hn ▸ .short (by decide)
  split
  · next hn => exact hn ▸ .short (by decide)
  split
  · next hquote hslash _ _ _ _ _ h => exact .printable h (quotable_ofNat h hquote hslash)
  split
  · next h => exact .unit h
  · next h => exact .surrogates h

theorem scan_escapeCodePoint (n depth : ℕ) (s : List Char) :
    scan depth .text (escapeCodePoint n ++ s) = scan depth .text s := by
  have h := escaped_escapeCodePoint n
  generalize escapeCodePoint n = text at h
  cases h with
  | short => exact scan_pair ..
  | printable _ hc => exact scan_quotable hc ..
  | unit => exact scan_escapeUnit ..
  | surrogates => rw [List.append_assoc, scan_escapeUnit, scan_escapeUnit]

theorem scan_dumpsStr (t : PyStr) (depth : ℕ) (s : List Char) :
    scan depth .code (dumpsStr t ++ s) = scan depth .code s := by
  have hcontent : ∀ t : PyStr, scan depth .text ((t.flatMap escapeCodePoint ++ ['"']) ++ s) =
      scan depth .code s := by
    intro t
    induction t with
    | nil =>
        show scan depth .text ('"' :: s) = _
        rw [scan, if_neg (by decide), if_pos rfl]
    | cons n t ih =>
        rw [List.flatMap_cons, List.append_assoc, List.append_assoc, scan_escapeCodePoint,
          ← List.append_assoc]
        exact ih
  rw [dumpsStr, List.cons_append, scan, if_pos rfl]
  exact hcontent t

/-! ### Whole values -/

theorem scan_open {c : Char} (h : c = '[' ∨ c = '{') (depth : ℕ) (s : List Char) :
    scan depth .code (c :: s) = scan (depth + 1) .code s := by
  have hq : c ≠ '"' := by rcases h with rfl | rfl <;> decide
  rw [scan, if_neg hq, if_pos h]

theorem scan_close {c : Char} (h : c = ']' ∨ c = '}') (depth : ℕ) (s : List Char) :
    scan (depth + 1) .code (c :: s) = scan depth .code s := by
  have hq : c ≠ '"' := by rcases h with rfl | rfl <;> decide
  have ho : ¬(c = '[' ∨ c = '{') := by rcases h with rfl | rfl <;> decide
  rw [scan, if_neg hq, if_neg ho, if_neg (by simp), if_pos h, Nat.add_sub_cancel]

theorem scan_comma (depth : ℕ) (s : List Char) :
    scan (depth + 1) .code (',' :: s) = scan (depth + 1) .code s := by
  rw [scan, if_neg (by decide), if_neg (by decide), if_neg (by simp), if_neg (by decide)]

theorem scan_colon (depth : ℕ) (s : List Char) :
    scan depth .code (':' :: s) = scan depth .code s := scan_plain (by decide) ..

mutual

theorem scan_dumps (v : Json) (depth : ℕ) (s : List Char) :
    scan depth .code (dumps v ++ s) = scan depth .code s := by
  match v with
  | .null => exact scan_plains (l := ['n', 'u', 'l', 'l']) (List.all_eq_true.mp rfl) ..
  | .bool true => exact scan_plains (l := ['t', 'r', 'u', 'e']) (List.all_eq_true.mp rfl) ..
  | .bool false => exact scan_plains (l := ['f', 'a', 'l', 's', 'e']) (List.all_eq_true.mp rfl) ..
  | .int n => exact scan_dumpsInt ..
  | .float x => exact scan_plains x.plain ..
  | .str t => exact scan_dumpsStr ..
  | .arr items =>
      rw [dumps, List.cons_append, scan_open (.inl rfl)]
      exact scan_dumpsItems items depth s
  | .obj pairs =>
      rw [dumps, List.cons_append, scan_open (.inr rfl)]
      exact scan_dumpsPairs pairs depth s

theorem scan_dumpsItems (items : List Json) (depth : ℕ) (s : List Char) :
    scan (depth + 1) .code (dumpsItems items ++ s) = scan depth .code s := by
  match items with
  | [] => exact scan_close (.inl rfl) ..
  | [v] =>
      rw [dumpsItems, List.append_assoc, scan_dumps]
      exact scan_close (.inl rfl) ..
  | v :: v' :: items =>
      rw [dumpsItems, List.append_assoc, scan_dumps, List.cons_append, scan_comma]
      exact scan_dumpsItems (v' :: items) depth s

theorem scan_dumpsPairs (pairs : List (PyStr × Json)) (depth : ℕ) (s : List Char) :
    scan (depth + 1) .code (dumpsPairs pairs ++ s) = scan depth .code s := by
  match pairs with
  | [] => exact scan_close (.inr rfl) ..
  | [(k, v)] =>
      rw [dumpsPairs, List.append_assoc, scan_dumpsStr, List.cons_append, scan_colon,
        List.append_assoc, scan_dumps]
      exact scan_close (.inr rfl) ..
  | (k, v) :: p :: pairs =>
      rw [dumpsPairs, List.append_assoc, scan_dumpsStr, List.cons_append, scan_colon,
        List.append_assoc, scan_dumps, List.cons_append, scan_comma]
      exact scan_dumpsPairs (p :: pairs) depth s

end

/-- What can follow a value. -/
def Delimited : List Char → Prop
  | [] => True
  | c :: _ => c = ',' ∨ c = ']' ∨ c = '}'

theorem scan_delimited {s : List Char} (h : Delimited s) : scan 0 .code s = s := by
  cases s with
  | nil => rfl
  | cons c s =>
      have hq : c ≠ '"' := by rcases h with rfl | rfl | rfl <;> decide
      have ho : ¬(c = '[' ∨ c = '{') := by rcases h with rfl | rfl | rfl <;> decide
      rw [scan, if_neg hq, if_neg ho, if_pos ⟨rfl, h⟩]

/-- Texts that agree with what follows them agree. -/
theorem dumps_append_inj {v v' : Json} {s s' : List Char} (hs : Delimited s) (hs' : Delimited s')
    (h : dumps v ++ s = dumps v' ++ s') : dumps v = dumps v' ∧ s = s' := by
  have hrest : s = s' := by
    calc s = scan 0 .code (dumps v ++ s) := by rw [scan_dumps, scan_delimited hs]
      _ = scan 0 .code (dumps v' ++ s') := by rw [h]
      _ = s' := by rw [scan_dumps, scan_delimited hs']
  subst hrest
  exact ⟨List.append_cancel_right h, rfl⟩

/-- The first pair of an object, and the others. -/
theorem dumpsPairs_inj {k : PyStr} {v v' : Json} {p p' : PyStr × Json}
    {pairs pairs' : List (PyStr × Json)}
    (h : dumpsPairs ((k, v) :: p :: pairs) = dumpsPairs ((k, v') :: p' :: pairs')) :
    dumps v = dumps v' ∧ dumpsPairs (p :: pairs) = dumpsPairs (p' :: pairs') := by
  rw [dumpsPairs, dumpsPairs] at h
  have htail := List.append_cancel_left h
  have hcomma : ∀ s : List Char, Delimited (',' :: s) := fun _ => .inl rfl
  obtain ⟨hv, hrest⟩ := dumps_append_inj (hcomma _) (hcomma _)
    ((List.cons_inj_right ':').mp htail)
  exact ⟨hv, (List.cons_inj_right ',').mp hrest⟩

/-- A text without characters that have to be escaped is written as it is. -/
theorem dumpsStr_ofString {s : String} (h : ∀ c ∈ s.toList, escapeCodePoint c.toNat = [c]) :
    dumpsStr (.ofString s) = '"' :: (s.toList ++ ['"']) := by
  have hcontent : (PyStr.ofString s).flatMap escapeCodePoint = s.toList := by
    rw [PyStr.ofString, List.flatMap_map, List.flatMap_def]
    have hmap : s.toList.map (fun c => escapeCodePoint c.toNat) = s.toList.map fun c => [c] :=
      List.map_congr_left h
    rw [hmap, ← List.flatMap_def, List.flatMap_singleton']
  rw [dumpsStr, hcontent]

end SitBank.Python
