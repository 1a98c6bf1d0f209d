import SitBank.Python.Dict

/-!
`json.loads`, and that it reads back what `json.dumps` wrote.

The reader is a descent over the text, bounded by its length: a value is a string, an
object, an array, a word or a number, and white space may stand between the tokens.
The escapes of a string are read one by one, and then a pair of surrogates is one
character. What a float is read as is a parameter.

`reloaded` is what `loads` makes of the text of a value, which may have white space after
its separators (`loads_dumpsWith`). It is the value itself if its strings have no
surrogates and its keys are distinct (`Loadable`).
-/

namespace SitBank.Python

/-! ### Strings -/

def hexNibble (c : Char) : Option ℕ :=
  if c.isDigit then some (c.toNat - 48)
  else if 'a' ≤ c ∧ c ≤ 'f' then some (c.toNat - 87)
  else if 'A' ≤ c ∧ c ≤ 'F' then some (c.toNat - 55)
  else none

/-- The four digits of `\uXXXX`. -/
def hexUnit (a b c d : Char) : Option ℕ := do
  let a ← hexNibble a
  let b ← hexNibble b
  let c ← hexNibble c
  let d ← hexNibble d
  pure (a * 4096 + b * 256 + c * 16 + d)

def unescapeChar (c : Char) : Option ℕ :=
  if c = '"' then some 0x22 else if c = '\\' then some 0x5C else if c = '/' then some 0x2F
  else if c = 'b' then some 0x08 else if c = 'f' then some 0x0C else if c = 'n' then some 0x0A
  else if c = 'r' then some 0x0D else if c = 't' then some 0x09 else none

/-- The contents of a string up to its closing quote, and what follows it. Control
characters have to be escaped. -/
def loadsUnits : List Char → Option (List ℕ × List Char)
  | [] => none
  | '\\' :: 'u' :: a :: b :: c :: d :: s =>
      match hexUnit a b c d, loadsUnits s with
      | some n, some (t, rest) => some (n :: t, rest)
      | _, _ => none
  | '\\' :: c :: s =>
      match unescapeChar c, loadsUnits s with
      | some n, some (t, rest) => some (n :: t, rest)
      | _, _ => none
  | c :: s =>
      if c = '"' then some ([], s)
      else if c = '\\' ∨ c.toNat < 0x20 then none
      else
        match loadsUnits s with
        | some (t, rest) => some (c.toNat :: t, rest)
        | none => none

def highSurrogate (n : ℕ) : Bool := 0xD800 ≤ n && n ≤ 0xDBFF

def lowSurrogate (n : ℕ) : Bool := 0xDC00 ≤ n && n ≤ 0xDFFF

/-- Surrogates are written as escapes only, so a pair of them was one escape after the
other. -/
def joinSurrogates : List ℕ → PyStr
  | a :: b :: t =>
      if highSurrogate a && lowSurrogate b then
        (0x10000 + (a - 0xD800) * 0x400 + (b - 0xDC00)) :: joinSurrogates t
      else a :: joinSurrogates (b :: t)
  | t => t

def loadsStr (s : List Char) : Option (PyStr × List Char) :=
  (loadsUnits s).map fun p => (joinSurrogates p.1, p.2)

/-! ### Numbers -/

/-- The digits at the start of a text, and the rest. -/
def spanDigits (s : List Char) : List Char × List Char :=
  (s.takeWhile Char.isDigit, s.dropWhile Char.isDigit)

/-- `(\.\d+)?`. -/
def fracPart : List Char → List Char × List Char
  | '.' :: s =>
      let (digits, rest) := spanDigits s
      if digits = [] then ([], '.' :: s) else ('.' :: digits, rest)
  | s => ([], s)

/-- `([eE][-+]?\d+)?`. -/
def expPart : List Char → List Char × List Char
  | c :: s =>
      if c = 'e' ∨ c = 'E' then
        let (sign, s') := match s with
          | '-' :: s' => (['-'], s')
          | '+' :: s' => (['+'], s')
          | s' => ([], s')
        let (digits, rest) := spanDigits s'
        if digits = [] then ([], c :: s) else (c :: (sign ++ digits), rest)
      else ([], c :: s)
  | [] => ([], [])

/-- `0|[1-9]\d*`. -/
def intPart (s : List Char) : List Char × List Char :=
  match s with
  | '0' :: rest => (['0'], rest)
  | s => spanDigits s

section Loads

variable (floatOf : List Char → FloatText)

/-- A number without its sign. -/
def loadsUnsigned (negative : Bool) (s : List Char) : Option (Json × List Char) :=
  let (digits, rest) := intPart s
  let (frac, rest) := fracPart rest
  let (exp, rest) := expPart rest
  if digits = [] then none
  else if frac = [] ∧ exp = [] then
    let n : ℤ := Nat.ofDigitChars 10 digits 0
    some (.int (if negative then -n else n), rest)
  else some (.float (floatOf ((if negative then ['-'] else []) ++ digits ++ frac ++ exp)), rest)

def loadsNumber : List Char → Option (Json × List Char)
  | 'N' :: 'a' :: 'N' :: rest => some (.float (floatOf ['N', 'a', 'N']), rest)
  | 'I' :: 'n' :: 'f' :: 'i' :: 'n' :: 'i' :: 't' :: 'y' :: rest =>
      some (.float (floatOf "Infinity".toList), rest)
  | '-' :: 'I' :: 'n' :: 'f' :: 'i' :: 'n' :: 'i' :: 't' :: 'y' :: rest =>
      some (.float (floatOf "-Infinity".toList), rest)
  | '-' :: s => loadsUnsigned floatOf true s
  | s => loadsUnsigned floatOf false s

/-! ### Values -/

def jsonSpace (c : Char) : Bool := c = ' ' || c = '\t' || c = '\n' || c = '\r'

def skipSpace (s : List Char) : List Char := s.dropWhile jsonSpace

/-- `dict(pairs)`: a key that comes again keeps its place and gets the new value. -/
def dictOf (pairs : List (PyStr × Json)) : List (PyStr × Json) := pairs.foldl set []
where
  set : List (PyStr × Json) → PyStr × Json → List (PyStr × Json)
  | [], p => [p]
  | q :: d, p => if q.1 = p.1 then p :: d else q :: set d p

mutual

def loadsValue : ℕ → List Char → Option (Json × List Char)
  | 0, _ => none
  | fuel + 1, s =>
      match s with
      | '"' :: s => (loadsStr s).map fun p => (.str p.1, p.2)
      | '{' :: s =>
          match skipSpace s with
          | '}' :: rest => some (.obj [], rest)
          | s => (loadsPairs fuel s).map fun p => (.obj (dictOf p.1), p.2)
      | '[' :: s =>
          match skipSpace s with
          | ']' :: rest => some (.arr [], rest)
          | s => (loadsItems fuel s).map fun p => (.arr p.1, p.2)
      | 'n' :: 'u' :: 'l' :: 'l' :: rest => some (.null, rest)
      | 't' :: 'r' :: 'u' :: 'e' :: rest => some (.bool true, rest)
      | 'f' :: 'a' :: 'l' :: 's' :: 'e' :: rest => some (.bool false, rest)
      | s => loadsNumber floatOf s

/-- The items after the opening bracket. -/
def loadsItems : ℕ → List Char → Option (List Json × List Char)
  | 0, _ => none
  | fuel + 1, s =>
      match loadsValue fuel s with
      | none => none
      | some (v, rest) =>
          match skipSpace rest with
          | ']' :: rest => some ([v], rest)
          | ',' :: rest => (loadsItems fuel (skipSpace rest)).map fun p => (v :: p.1, p.2)
          | _ => none

/-- The pairs after the opening brace. -/
def loadsPairs : ℕ → List Char → Option (List (PyStr × Json) × List Char)
  | 0, _ => none
  | fuel + 1, s =>
      match s with
      | '"' :: s =>
          match loadsStr s with
          | none => none
          | some (k, rest) =>
              match skipSpace rest with
              | ':' :: rest =>
                  match loadsValue fuel (skipSpace rest) with
                  | none => none
                  | some (v, rest) =>
                      match skipSpace rest with
                      | '}' :: rest => some ([(k, v)], rest)
                      | ',' :: rest =>
                          (loadsPairs fuel (skipSpace rest)).map fun p => ((k, v) :: p.1, p.2)
                      | _ => none
              | _ => none
      | _ => none

end

/-- Two levels of the descent can start at one character. -/
def loads (text : List Char) : Option Json :=
  match loadsValue floatOf (2 * text.length) (skipSpace text) with
  | some (v, rest) => if skipSpace rest = [] then some v else none
  | none => none

end Loads

/-! ### Strings are read back -/

/-- A character, as a code point that is no surrogate. -/
def scalar (n : ℕ) : Bool := n ≤ 0x10FFFF && !highSurrogate n && !lowSurrogate n

/-- The units that a code point is written with. -/
def codeUnits (n : ℕ) : List ℕ :=
  if n ≤ 0xFFFF then [n] else [0xD800 + (n - 0x10000) / 0x400, 0xDC00 + (n - 0x10000) % 0x400]

/-- The units read before the rest of a string. -/
def readBefore (units : List ℕ) (r : Option (List ℕ × List Char)) : Option (List ℕ × List Char) :=
  r.map fun p => (units ++ p.1, p.2)

theorem hexNibble_hexDigit (n : ℕ) : hexNibble (hexDigit n) = some (n % 16) := by
  have hfin : ∀ i : Fin 16, hexNibble (hexDigit i) = some i.val := by decide
  have hdigit : hexDigit (n % 16) = hexDigit n := by
    unfold hexDigit
    rw [Nat.mod_mod]
  rw [← hdigit]
  exact hfin ⟨n % 16, Nat.mod_lt n (by decide)⟩

theorem loadsUnits_escapeUnit {n : ℕ} (h : n ≤ 0xFFFF) (s : List Char) :
    loadsUnits (escapeUnit n ++ s) = readBefore [n] (loadsUnits s) := by
  show loadsUnits ('\\' :: 'u' :: _ :: _ :: _ :: _ :: s) = _
  have hunit : hexUnit (hexDigit (n / 4096)) (hexDigit (n / 256)) (hexDigit (n / 16)) (hexDigit n) =
      some n := by
    simp only [hexUnit, hexNibble_hexDigit, Option.bind_eq_bind, Option.bind_some, Option.pure_def]
    congr 1
    omega
  rw [loadsUnits, hunit]
  cases loadsUnits s <;> rfl

theorem loadsUnits_pair {c : Char} {n : ℕ} (hc : c ≠ 'u') (h : unescapeChar c = some n)
    (s : List Char) : loadsUnits ('\\' :: c :: s) = readBefore [n] (loadsUnits s) := by
  rw [loadsUnits.eq_def]
  split
  · next heq => cases heq
  · next heq => exact absurd (List.cons.inj (List.cons.inj heq).2).1 hc
  · next heq =>
      obtain ⟨rfl, rfl⟩ := List.cons.inj (List.cons.inj heq).2
      rw [h]
      cases loadsUnits s <;> rfl
  · next hnot heq =>
      obtain ⟨rfl, rfl⟩ := List.cons.inj heq
      exact absurd rfl (hnot _ _ rfl)

theorem loadsUnits_char {c : Char} (hc : quotable c) (hcode : 0x20 ≤ c.toNat) (s : List Char) :
    loadsUnits (c :: s) = readBefore [c.toNat] (loadsUnits s) := by
  rw [loadsUnits.eq_def]
  split
  · next heq => cases heq
  · next heq => exact absurd (List.cons.inj heq).1 hc.1
  · next heq => exact absurd (List.cons.inj heq).1 hc.1
  · next heq =>
      obtain ⟨rfl, rfl⟩ := List.cons.inj heq
      rw [if_neg hc.2, if_neg (by
        rintro (h | h)
        · exact hc.1 h
        · omega)]
      cases loadsUnits _ <;> rfl

theorem loadsUnits_escapeCodePoint {n : ℕ} (h : n ≤ 0x10FFFF) (s : List Char) :
    loadsUnits (escapeCodePoint n ++ s) = readBefore (codeUnits n) (loadsUnits s) := by
  have hescaped := escaped_escapeCodePoint n
  generalize escapeCodePoint n = text at hescaped
  cases hescaped with
  | short hc =>
      have hshort : ∀ p ∈ shortEscapes, p.1 ≠ 'u' ∧ unescapeChar p.1 = some p.2 ∧
          codeUnits p.2 = [p.2] := by decide
      obtain ⟨hu, hread, hunits⟩ := hshort _ hc
      rw [hunits]
      exact loadsUnits_pair hu hread s
  | printable hprint hc =>
      have hnat : (Char.ofNat n).toNat = n := toNat_ofNat_of_valid (.inl (by omega))
      have hread := loadsUnits_char hc (by omega) s
      rw [hnat] at hread
      rw [codeUnits, if_pos (by omega)]
      exact hread
  | unit hunit =>
      rw [codeUnits, if_pos hunit]
      exact loadsUnits_escapeUnit hunit s
  | surrogates hunit =>
      rw [codeUnits, if_neg hunit, List.append_assoc, loadsUnits_escapeUnit (by omega),
        loadsUnits_escapeUnit (by omega)]
      cases loadsUnits s <;> rfl

/-- The string is a `str`. -/
def PyStr.Points (t : PyStr) : Prop := ∀ n ∈ t, n ≤ 0x10FFFF

/-- What is read for a string: its surrogates are joined. -/
def rejoined (t : PyStr) : PyStr := joinSurrogates (t.flatMap codeUnits)

theorem points_of_scalar {t : PyStr} (ht : ∀ n ∈ t, scalar n = true) : t.Points := by
  intro n hn
  have hscalar := ht n hn
  simp only [scalar, Bool.and_eq_true, decide_eq_true_eq] at hscalar
  exact hscalar.1.1

theorem loadsUnits_content {t : PyStr} (ht : t.Points) (s : List Char) :
    loadsUnits (t.flatMap escapeCodePoint ++ '"' :: s) = some (t.flatMap codeUnits, s) := by
  induction t with
  | nil => simp [loadsUnits]
  | cons n t ih =>
      rw [List.flatMap_cons, List.append_assoc,
        loadsUnits_escapeCodePoint (ht n (List.mem_cons_self ..)),
        ih fun m hm => ht m (List.mem_cons_of_mem n hm), List.flatMap_cons]
      rfl

theorem joinSurrogates_cons {n : ℕ} (h : highSurrogate n = false) (t : List ℕ) :
    joinSurrogates (n :: t) = n :: joinSurrogates t := by
  cases t with
  | nil => rfl
  | cons b t =>
      rw [joinSurrogates, h]
      rfl

theorem rejoined_of_scalar {t : PyStr} (ht : ∀ n ∈ t, scalar n = true) : rejoined t = t := by
  unfold rejoined
  induction t with
  | nil => rfl
  | cons n t ih =>
      have hn := ht n (List.mem_cons_self ..)
      simp only [scalar, Bool.and_eq_true, decide_eq_true_eq, Bool.not_eq_true'] at hn
      have hrest := ih fun m hm => ht m (List.mem_cons_of_mem n hm)
      rw [List.flatMap_cons, codeUnits]
      split
      · rw [List.singleton_append, joinSurrogates_cons hn.1.2, hrest]
      · next hbig =>
          have hcode : 0x10000 + (0xD800 + (n - 0x10000) / 0x400 - 0xD800) * 0x400 +
              (0xDC00 + (n - 0x10000) % 0x400 - 0xDC00) = n := by omega
          rw [List.cons_append, List.singleton_append, joinSurrogates, if_pos, hrest, hcode]
          · simp only [highSurrogate, lowSurrogate, Bool.and_eq_true, decide_eq_true_eq]
            omega

theorem loadsStr_dumpsStr {t : PyStr} (ht : t.Points) (s : List Char) :
    loadsStr (t.flatMap escapeCodePoint ++ '"' :: s) = some (rejoined t, s) := by
  rw [loadsStr, loadsUnits_content ht, Option.map_some]
  rfl

/-! ### Numbers are read back -/

/-- A number ends here. -/
def Stops (s : List Char) : Prop :=
  ∀ c ∈ s.head?, c.isDigit = false ∧ c ≠ '.' ∧ c ≠ 'e' ∧ c ≠ 'E'

theorem spanDigits_append {ds s : List Char} (hd : ∀ c ∈ ds, c.isDigit = true) (hs : Stops s) :
    spanDigits (ds ++ s) = (ds, s) := by
  have hhead : s.takeWhile Char.isDigit = [] ∧ s.dropWhile Char.isDigit = s := by
    cases s with
    | nil => exact ⟨rfl, rfl⟩
    | cons c s =>
        have hc := (hs c (by simp)).1
        exact ⟨List.takeWhile_cons_of_neg (by simp [hc]), List.dropWhile_cons_of_neg (by simp [hc])⟩
  rw [spanDigits, List.takeWhile_append_of_pos hd,
    List.dropWhile_append_of_pos hd, hhead.1, hhead.2, List.append_nil]

/-- Only zero is written with a zero in front. -/
theorem toDigits_head {n : ℕ} (h : 0 < n) : ∃ c ds, Nat.toDigits 10 n = c :: ds ∧ c ≠ '0' := by
  induction n using Nat.strongRecOn with
  | ind n ih =>
      by_cases hn : n < 10
      · rw [Nat.toDigits_of_lt_base hn]
        refine ⟨_, [], rfl, ?_⟩
        have hall : ∀ m < 10, 0 < m → Nat.digitChar m ≠ '0' := by decide
        exact hall n hn h
      · obtain ⟨c, ds, hds, hc⟩ := ih (n / 10) (by omega) (by omega)
        rw [Nat.toDigits_of_base_le (by decide) (by omega), hds]
        exact ⟨c, _, rfl, hc⟩

theorem intPart_toDigits (n : ℕ) {s : List Char} (hs : Stops s) :
    intPart (Nat.toDigits 10 n ++ s) = (Nat.toDigits 10 n, s) := by
  have hdigits : ∀ c ∈ Nat.toDigits 10 n, c.isDigit = true := fun c hc =>
    Nat.isDigit_of_mem_toDigits (by decide) (by decide) hc
  rcases Nat.eq_zero_or_pos n with rfl | hn
  · rw [Nat.toDigits_zero]
    rfl
  · obtain ⟨c, ds, hds, hc⟩ := toDigits_head hn
    have hspan := spanDigits_append hdigits hs
    rw [hds] at hspan ⊢
    unfold intPart
    split
    · next heq => exact absurd (List.cons.inj heq).1 hc
    · exact hspan

theorem fracPart_stops {s : List Char} (hs : Stops s) : fracPart s = ([], s) := by
  unfold fracPart
  split
  · next s => exact absurd rfl (hs '.' (by simp)).2.1
  · rfl

theorem expPart_stops {s : List Char} (hs : Stops s) : expPart s = ([], s) := by
  unfold expPart
  split
  · next c s =>
      have hc := hs c (by simp)
      rw [if_neg (by simp [hc.2.2.1, hc.2.2.2])]
  · rfl

theorem loadsUnsigned_toDigits (floatOf : List Char → FloatText) (negative : Bool) (n : ℕ)
    {s : List Char} (hs : Stops s) :
    loadsUnsigned floatOf negative (Nat.toDigits 10 n ++ s) =
      some (.int (if negative then -n else n), s) := by
  unfold loadsUnsigned
  rw [intPart_toDigits n hs]
  dsimp only
  rw [fracPart_stops hs]
  dsimp only
  rw [expPart_stops hs]
  simp [Nat.toDigits_ne_nil, Nat.ofDigitChars_ten_toDigits]

theorem ne_of_isDigit {c d : Char} (hc : c.isDigit = true) (hd : d.isDigit = false) : c ≠ d := by
  rintro rfl
  rw [hd] at hc
  cases hc

/-- A number is read without its sign. -/
theorem loadsNumber_minus (floatOf : List Char → FloatText) {c : Char} (hc : c.isDigit = true)
    (s : List Char) :
    loadsNumber floatOf ('-' :: c :: s) = loadsUnsigned floatOf true (c :: s) := by
  rw [loadsNumber.eq_def]
  split
  · next heq => cases heq
  · next heq => cases heq
  · next heq =>
      exact absurd (List.cons.inj (List.cons.inj heq).2).1 (ne_of_isDigit hc (by decide))
  · next heq =>
      cases heq
      rfl
  · next hminus => exact absurd rfl (hminus _)

theorem loadsNumber_digit (floatOf : List Char → FloatText) {c : Char} (hc : c.isDigit = true)
    (s : List Char) : loadsNumber floatOf (c :: s) = loadsUnsigned floatOf false (c :: s) := by
  rw [loadsNumber.eq_def]
  split
  · next heq => exact absurd (List.cons.inj heq).1 (ne_of_isDigit hc (by decide))
  · next heq => exact absurd (List.cons.inj heq).1 (ne_of_isDigit hc (by decide))
  · next heq => exact absurd (List.cons.inj heq).1 (ne_of_isDigit hc (by decide))
  · next heq => exact absurd (List.cons.inj heq).1 (ne_of_isDigit hc (by decide))
  · rfl

theorem loadsNumber_dumpsInt (floatOf : List Char → FloatText) (n : ℤ) {s : List Char}
    (hs : Stops s) : loadsNumber floatOf (dumpsInt n ++ s) = some (.int n, s) := by
  cases hds : Nat.toDigits 10 n.natAbs with
  | nil => exact absurd hds Nat.toDigits_ne_nil
  | cons c ds =>
      have hc : c.isDigit = true := by
        refine Nat.isDigit_of_mem_toDigits (b := 10) (n := n.natAbs) (by decide) (by decide) ?_
        rw [hds]
        exact List.mem_cons_self ..
      have hunsigned : ∀ negative, loadsUnsigned floatOf negative (c :: ds ++ s) =
          some (.int (if negative then -n.natAbs else n.natAbs), s) := by
        intro negative
        rw [← hds]
        exact loadsUnsigned_toDigits floatOf negative _ hs
      unfold dumpsInt
      rw [hds]
      split
      · next hneg =>
          rw [List.cons_append, List.cons_append, loadsNumber_minus floatOf hc,
            ← List.cons_append, hunsigned, if_pos rfl]
          congr 3
          omega
      · next hneg =>
          rw [List.cons_append, loadsNumber_digit floatOf hc, ← List.cons_append, hunsigned,
            if_neg Bool.false_ne_true]
          congr 3
          omega

/-- A Lean text has no surrogates. -/
theorem scalar_ofString (s : String) : ∀ n ∈ PyStr.ofString s, scalar n = true := by
  intro n hn
  obtain ⟨c, -, rfl⟩ := List.mem_map.mp hn
  have hvalid : c.toNat < 0xD800 ∨ 0xDFFF < c.toNat ∧ c.toNat < 0x110000 := c.valid
  simp only [scalar, highSurrogate, lowSurrogate, Bool.and_eq_true, decide_eq_true_eq,
    Bool.not_eq_true', Bool.and_eq_false_iff, decide_eq_false_iff_not]
  omega

/-! ### Texts with white space -/

section Spaced

variable (space : List Char)

mutual

/-- `json.dumps` with white space after its separators: a blank by default. -/
def dumpsWith : Json → List Char
  | .arr items => '[' :: dumpsItemsWith items
  | .obj pairs => '{' :: dumpsPairsWith pairs
  | .null => dumps .null
  | .bool b => dumps (.bool b)
  | .int n => dumps (.int n)
  | .float x => dumps (.float x)
  | .str t => dumps (.str t)

def dumpsItemsWith : List Json → List Char
  | [] => [']']
  | [v] => dumpsWith v ++ [']']
  | v :: v' :: items => dumpsWith v ++ ',' :: (space ++ dumpsItemsWith (v' :: items))

def dumpsPairsWith : List (PyStr × Json) → List Char
  | [] => ['}']
  | [(k, v)] => dumpsStr k ++ ':' :: (space ++ (dumpsWith v ++ ['}']))
  | (k, v) :: p :: pairs => dumpsStr k ++ ':' :: (space ++ (dumpsWith v ++
      ',' :: (space ++ dumpsPairsWith (p :: pairs))))

end

mutual

theorem dumpsWith_nil (v : Json) : dumpsWith [] v = dumps v := by
  match v with
  | .null => rfl
  | .bool b => rfl
  | .int n => rfl
  | .float x => rfl
  | .str t => rfl
  | .arr items => rw [dumpsWith, dumps, dumpsItemsWith_nil items]
  | .obj pairs => rw [dumpsWith, dumps, dumpsPairsWith_nil pairs]

theorem dumpsItemsWith_nil (items : List Json) : dumpsItemsWith [] items = dumpsItems items := by
  match items with
  | [] => rfl
  | [v] => rw [dumpsItemsWith, dumpsItems, dumpsWith_nil v]
  | v :: v' :: items =>
      rw [dumpsItemsWith, dumpsItems, dumpsWith_nil v, List.nil_append,
        dumpsItemsWith_nil (v' :: items)]

theorem dumpsPairsWith_nil (pairs : List (PyStr × Json)) :
    dumpsPairsWith [] pairs = dumpsPairs pairs := by
  match pairs with
  | [] => rfl
  | [(k, v)] => rw [dumpsPairsWith, dumpsPairs, dumpsWith_nil v, List.nil_append]
  | (k, v) :: p :: pairs =>
      rw [dumpsPairsWith, dumpsPairs, dumpsWith_nil v, List.nil_append, List.nil_append,
        dumpsPairsWith_nil (p :: pairs)]

end

end Spaced

/-! ### Values are read back -/

mutual

/-- What `loads` makes of the text of a value. -/
def reloaded : Json → Json
  | .str t => .str (rejoined t)
  | .arr items => .arr (reloadedItems items)
  | .obj pairs => .obj (dictOf (reloadedPairs pairs))
  | .null => .null
  | .bool b => .bool b
  | .int n => .int n
  | .float x => .float x

def reloadedItems : List Json → List Json
  | [] => []
  | v :: items => reloaded v :: reloadedItems items

def reloadedPairs : List (PyStr × Json) → List (PyStr × Json)
  | [] => []
  | (k, v) :: pairs => (rejoined k, reloaded v) :: reloadedPairs pairs

end

section Loads

variable (floatOf : List Char → FloatText)

/-- A float is read back from its text, which is a token of its own. -/
structure FloatRead (x : FloatText) : Prop where
  head : ∃ c r, x.text = c :: r ∧ jsonSpace c = false
  read : ∀ fuel s, Stops s → loadsValue floatOf (fuel + 1) (x.text ++ s) = some (.float x, s)

mutual

/-- What `dumps` writes so that `loads` can read it. -/
def Readable : Json → Prop
  | .null => True
  | .bool _ => True
  | .int _ => True
  | .float x => FloatRead floatOf x
  | .str t => t.Points
  | .arr items => ReadableItems items
  | .obj pairs => ReadablePairs pairs

def ReadableItems : List Json → Prop
  | [] => True
  | v :: items => Readable v ∧ ReadableItems items

def ReadablePairs : List (PyStr × Json) → Prop
  | [] => True
  | (k, v) :: pairs => k.Points ∧ Readable v ∧ ReadablePairs pairs

end

mutual

/-- What `dumps` writes so that `loads` gives it back. -/
def Loadable : Json → Prop
  | .null => True
  | .bool _ => True
  | .int _ => True
  | .float x => FloatRead floatOf x
  | .str t => ∀ n ∈ t, scalar n = true
  | .arr items => LoadableItems items
  | .obj pairs => (pairs.map Prod.fst).Nodup ∧ LoadablePairs pairs

def LoadableItems : List Json → Prop
  | [] => True
  | v :: items => Loadable v ∧ LoadableItems items

def LoadablePairs : List (PyStr × Json) → Prop
  | [] => True
  | (k, v) :: pairs => (∀ n ∈ k, scalar n = true) ∧ Loadable v ∧ LoadablePairs pairs

end

variable {floatOf} {space : List Char}

theorem dictOf_set_new {d : List (PyStr × Json)} {p : PyStr × Json}
    (h : p.1 ∉ d.map Prod.fst) : dictOf.set d p = d ++ [p] := by
  induction d with
  | nil => rfl
  | cons q d ih =>
      rw [List.map_cons, List.mem_cons, not_or] at h
      rw [dictOf.set, if_neg (Ne.symm h.1), ih h.2]
      rfl

theorem dictOf_nodup {pairs : List (PyStr × Json)} (h : (pairs.map Prod.fst).Nodup) :
    dictOf pairs = pairs := by
  have hfold : ∀ d, ((d ++ pairs).map Prod.fst).Nodup →
      pairs.foldl dictOf.set d = d ++ pairs := by
    clear h
    induction pairs with
    | nil =>
        intro d _
        rw [List.append_nil]
        rfl
    | cons p pairs ih =>
        intro d hd
        have hnew : p.1 ∉ d.map Prod.fst := by
          rw [List.map_append, List.map_cons] at hd
          intro hmem
          exact (List.nodup_append.mp hd).2.2 _ hmem _ (List.mem_cons_self ..) rfl
        rw [List.foldl_cons, dictOf_set_new hnew, ih _ (by simpa using hd), List.append_assoc]
        rfl
  exact hfold [] h

mutual

theorem Loadable.readable (v : Json) (hv : Loadable floatOf v) : Readable floatOf v := by
  match v, hv with
  | .null, _ => trivial
  | .bool _, _ => trivial
  | .int _, _ => trivial
  | .float x, hx => exact hx
  | .str t, ht => exact points_of_scalar ht
  | .arr items, hitems => exact LoadableItems.readable items hitems
  | .obj pairs, hpairs => exact LoadablePairs.readable pairs hpairs.2

theorem LoadableItems.readable (items : List Json) (h : LoadableItems floatOf items) :
    ReadableItems floatOf items := by
  match items, h with
  | [], _ => trivial
  | v :: items, ⟨hv, hitems⟩ =>
      exact ⟨Loadable.readable v hv, LoadableItems.readable items hitems⟩

theorem LoadablePairs.readable (pairs : List (PyStr × Json)) (h : LoadablePairs floatOf pairs) :
    ReadablePairs floatOf pairs := by
  match pairs, h with
  | [], _ => trivial
  | (k, v) :: pairs, ⟨hk, hv, hpairs⟩ =>
      exact ⟨points_of_scalar hk, Loadable.readable v hv, LoadablePairs.readable pairs hpairs⟩

end

mutual

theorem Loadable.reloaded (v : Json) (hv : Loadable floatOf v) : reloaded v = v := by
  match v, hv with
  | .null, _ => rfl
  | .bool _, _ => rfl
  | .int _, _ => rfl
  | .float _, _ => rfl
  | .str t, ht => rw [Python.reloaded, rejoined_of_scalar ht]
  | .arr items, hitems => rw [Python.reloaded, LoadableItems.reloaded items hitems]
  | .obj pairs, hpairs =>
      rw [Python.reloaded, LoadablePairs.reloaded pairs hpairs.2, dictOf_nodup hpairs.1]

theorem LoadableItems.reloaded (items : List Json) (h : LoadableItems floatOf items) :
    reloadedItems items = items := by
  match items, h with
  | [], _ => rfl
  | v :: items, ⟨hv, hitems⟩ =>
      rw [reloadedItems, Loadable.reloaded v hv, LoadableItems.reloaded items hitems]

theorem LoadablePairs.reloaded (pairs : List (PyStr × Json)) (h : LoadablePairs floatOf pairs) :
    reloadedPairs pairs = pairs := by
  match pairs, h with
  | [], _ => rfl
  | (k, v) :: pairs, ⟨hk, hv, hpairs⟩ =>
      rw [reloadedPairs, rejoined_of_scalar hk, Loadable.reloaded v hv,
        LoadablePairs.reloaded pairs hpairs]

end

theorem skipSpace_cons {c : Char} (h : jsonSpace c = false) (s : List Char) :
    skipSpace (c :: s) = c :: s := List.dropWhile_cons_of_neg (by simp [h])

theorem skipSpace_append (hspace : ∀ c ∈ space, jsonSpace c = true) (s : List Char) :
    skipSpace (space ++ s) = skipSpace s := List.dropWhile_append_of_pos hspace

/-- The first character of a value is no white space, and closes nothing. -/
theorem dumpsWith_head {v : Json} (hv : Readable floatOf v) (space : List Char) :
    ∃ c r, dumpsWith space v = c :: r ∧ jsonSpace c = false ∧ c ≠ ']' ∧ c ≠ '}' := by
  cases v with
  | null => exact ⟨_, _, rfl, by decide⟩
  | bool b => cases b <;> exact ⟨_, _, rfl, by decide⟩
  | int n =>
      show ∃ c r, dumpsInt n = c :: r ∧ _
      unfold dumpsInt
      split
      · exact ⟨_, _, rfl, by decide⟩
      · cases hds : Nat.toDigits 10 n.natAbs with
        | nil => exact absurd hds Nat.toDigits_ne_nil
        | cons c ds =>
            have hdigit : c.isDigit = true := by
              refine Nat.isDigit_of_mem_toDigits (b := 10) (n := n.natAbs) (by decide)
                (by decide) ?_
              rw [hds]
              exact List.mem_cons_self ..
            refine ⟨c, ds, rfl, ?_, ne_of_isDigit hdigit (by decide),
              ne_of_isDigit hdigit (by decide)⟩
            simp [jsonSpace, ne_of_isDigit hdigit]
  | float x =>
      obtain ⟨c, r, htext, hspace⟩ := hv.head
      have hplain := x.plain c (by rw [htext]; exact List.mem_cons_self ..)
      simp only [plainChar, Bool.and_eq_true, decide_eq_true_eq] at hplain
      exact ⟨c, r, htext, hspace, hplain.1.1.1.2, hplain.1.2⟩
  | str t => exact ⟨_, _, rfl, by decide⟩
  | arr items => exact ⟨_, _, rfl, by decide⟩
  | obj pairs => exact ⟨_, _, rfl, by decide⟩

theorem skipSpace_dumpsWith {v : Json} (hv : Readable floatOf v) (s : List Char) :
    skipSpace (dumpsWith space v ++ s) = dumpsWith space v ++ s := by
  obtain ⟨c, r, hd, hspace, -⟩ := dumpsWith_head hv space
  rw [hd, List.cons_append, skipSpace_cons hspace]

/-- A minus sign or a digit starts a number. -/
theorem loadsValue_number (fuel : ℕ) {c : Char} (hc : c = '-' ∨ c.isDigit = true) (s : List Char) :
    loadsValue floatOf (fuel + 1) (c :: s) = loadsNumber floatOf (c :: s) := by
  have hnot : ∀ d : Char, d ≠ '-' → d.isDigit = false → c ≠ d := by
    rintro d hminus hdigit rfl
    rcases hc with rfl | h
    · exact hminus rfl
    · exact ne_of_isDigit h hdigit rfl
  rw [loadsValue.eq_def]
  dsimp only
  split
  · next heq => exact absurd (List.cons.inj heq).1 (hnot '"' (by decide) (by decide))
  · next heq => exact absurd (List.cons.inj heq).1 (hnot '{' (by decide) (by decide))
  · next heq => exact absurd (List.cons.inj heq).1 (hnot '[' (by decide) (by decide))
  · next heq => exact absurd (List.cons.inj heq).1 (hnot 'n' (by decide) (by decide))
  · next heq => exact absurd (List.cons.inj heq).1 (hnot 't' (by decide) (by decide))
  · next heq => exact absurd (List.cons.inj heq).1 (hnot 'f' (by decide) (by decide))
  · rfl

theorem loadsValue_int (fuel : ℕ) (n : ℤ) {s : List Char} (hs : Stops s) :
    loadsValue floatOf (fuel + 1) (dumpsInt n ++ s) = some (.int n, s) := by
  obtain ⟨c, r, hd, hhead⟩ : ∃ c r, dumpsInt n = c :: r ∧ (c = '-' ∨ c.isDigit = true) := by
    unfold dumpsInt
    split
    · exact ⟨_, _, rfl, .inl rfl⟩
    · cases hds : Nat.toDigits 10 n.natAbs with
      | nil => exact absurd hds Nat.toDigits_ne_nil
      | cons c ds =>
          refine ⟨c, ds, rfl, .inr ?_⟩
          refine Nat.isDigit_of_mem_toDigits (b := 10) (n := n.natAbs) (by decide) (by decide) ?_
          rw [hds]
          exact List.mem_cons_self ..
  have hnumber := loadsNumber_dumpsInt floatOf n hs
  rw [hd, List.cons_append] at hnumber ⊢
  rw [loadsValue_number fuel hhead, hnumber]

/-- What follows a value inside a text. -/
theorem stops_of_delimiter {c : Char} (h : c = ',' ∨ c = ']' ∨ c = '}') (s : List Char) :
    Stops (c :: s) := by
  intro d hd
  obtain rfl : c = d := by simpa using hd
  rcases h with rfl | rfl | rfl <;> decide

theorem loadsItems_last {fuel : ℕ} {v : Json} {text s : List Char}
    (h : loadsValue floatOf fuel text = some (v, ']' :: s)) :
    loadsItems floatOf (fuel + 1) text = some ([v], s) := by
  rw [loadsItems, h]
  rfl

theorem loadsItems_next {fuel : ℕ} {v : Json} {items : List Json} {text rest s : List Char}
    (h : loadsValue floatOf fuel text = some (v, ',' :: rest))
    (hrest : loadsItems floatOf fuel (skipSpace rest) = some (items, s)) :
    loadsItems floatOf (fuel + 1) text = some (v :: items, s) := by
  rw [loadsItems, h]
  show (loadsItems floatOf fuel (skipSpace rest)).map _ = _
  rw [hrest]
  rfl

theorem loadsPairs_last {fuel : ℕ} {k : PyStr} (hk : k.Points) {v : Json}
    {text s : List Char} (h : loadsValue floatOf fuel (skipSpace text) = some (v, '}' :: s)) :
    loadsPairs floatOf (fuel + 1) (dumpsStr k ++ ':' :: text) = some ([(rejoined k, v)], s) := by
  rw [dumpsStr, List.cons_append, List.append_assoc, List.singleton_append, loadsPairs,
    loadsStr_dumpsStr hk]
  show (match loadsValue floatOf fuel (skipSpace text) with
      | none => none | some (v, rest) => _) = _
  rw [h]
  rfl

theorem loadsPairs_next {fuel : ℕ} {k : PyStr} (hk : k.Points) {v : Json}
    {pairs : List (PyStr × Json)} {text rest s : List Char}
    (h : loadsValue floatOf fuel (skipSpace text) = some (v, ',' :: rest))
    (hrest : loadsPairs floatOf fuel (skipSpace rest) = some (pairs, s)) :
    loadsPairs floatOf (fuel + 1) (dumpsStr k ++ ':' :: text) =
      some ((rejoined k, v) :: pairs, s) := by
  rw [dumpsStr, List.cons_append, List.append_assoc, List.singleton_append, loadsPairs,
    loadsStr_dumpsStr hk]
  show (match loadsValue floatOf fuel (skipSpace text) with
      | none => none | some (v, rest) => _) = _
  rw [h]
  show (loadsPairs floatOf fuel (skipSpace rest)).map _ = _
  rw [hrest]
  rfl

theorem skipSpace_dumpsItemsWith {v : Json} {items : List Json} (hv : Readable floatOf v)
    (s : List Char) : skipSpace (dumpsItemsWith space (v :: items) ++ s) =
      dumpsItemsWith space (v :: items) ++ s := by
  cases items with
  | nil => rw [dumpsItemsWith, List.append_assoc, skipSpace_dumpsWith hv]
  | cons v' items => rw [dumpsItemsWith, List.append_assoc, skipSpace_dumpsWith hv]

theorem skipSpace_dumpsPairsWith (p : PyStr × Json) (pairs : List (PyStr × Json)) (s : List Char) :
    skipSpace (dumpsPairsWith space (p :: pairs) ++ s) =
      dumpsPairsWith space (p :: pairs) ++ s := by
  cases pairs with
  | nil =>
      rw [dumpsPairsWith, dumpsStr]
      exact skipSpace_cons (by decide) _
  | cons q pairs =>
      rw [dumpsPairsWith, dumpsStr]
      exact skipSpace_cons (by decide) _

theorem loadsValue_arr {fuel : ℕ} {items : List Json} {text s : List Char}
    (hspace : skipSpace text = text) (hhead : ∀ r, text ≠ ']' :: r)
    (h : loadsItems floatOf fuel text = some (items, s)) :
    loadsValue floatOf (fuel + 1) ('[' :: text) = some (.arr items, s) := by
  rw [loadsValue, hspace]
  split
  · next r => exact absurd rfl (hhead r)
  · rw [h]
    rfl

theorem loadsValue_obj {fuel : ℕ} {pairs : List (PyStr × Json)} {text s : List Char}
    (hspace : skipSpace text = text) (hhead : ∀ r, text ≠ '}' :: r)
    (h : loadsPairs floatOf fuel text = some (pairs, s)) :
    loadsValue floatOf (fuel + 1) ('{' :: text) = some (.obj (dictOf pairs), s) := by
  rw [loadsValue, hspace]
  split
  · next r => exact absurd rfl (hhead r)
  · rw [h, Option.map_some]

theorem dumpsItemsWith_head {v : Json} {items : List Json} (hv : Readable floatOf v)
    (s r : List Char) : dumpsItemsWith space (v :: items) ++ s ≠ ']' :: r := by
  obtain ⟨c, r', hd, -, hclose, -⟩ := dumpsWith_head hv space
  cases items with
  | nil =>
      rw [dumpsItemsWith, hd]
      exact fun h => hclose (List.cons.inj h).1
  | cons v' items =>
      rw [dumpsItemsWith, hd]
      exact fun h => hclose (List.cons.inj h).1

theorem dumpsPairsWith_head (p : PyStr × Json) (pairs : List (PyStr × Json)) (s r : List Char) :
    dumpsPairsWith space (p :: pairs) ++ s ≠ '}' :: r := by
  cases pairs with
  | nil =>
      rw [dumpsPairsWith, dumpsStr]
      exact fun h => absurd (List.cons.inj h).1 (by decide)
  | cons q pairs =>
      rw [dumpsPairsWith, dumpsStr]
      exact fun h => absurd (List.cons.inj h).1 (by decide)

mutual

/-- The induction is on the bound, of which a level of the text takes two at most for each
character. -/
theorem loadsValue_dumpsWith (hspace : ∀ c ∈ space, jsonSpace c = true) (v : Json)
    (hv : Readable floatOf v) (fuel : ℕ) (s : List Char)
    (hfuel : 2 * (dumpsWith space v).length ≤ fuel) (hs : Stops s) :
    loadsValue floatOf fuel (dumpsWith space v ++ s) = some (reloaded v, s) := by
  obtain ⟨fuel, rfl⟩ : ∃ m, fuel = m + 1 := by
    obtain ⟨c, r, hd, -⟩ := dumpsWith_head hv space
    rw [hd, List.length_cons] at hfuel
    exact ⟨fuel - 1, by omega⟩
  match v, hv with
  | .null, _ => rfl
  | .bool true, _ => rfl
  | .bool false, _ => rfl
  | .int n, _ => exact loadsValue_int fuel n hs
  | .float x, hx => exact hx.read fuel s hs
  | .str t, ht =>
      rw [dumpsWith, dumps, dumpsStr, List.cons_append, List.append_assoc, List.singleton_append,
        loadsValue, loadsStr_dumpsStr ht]
      rfl
  | .arr [], _ => rfl
  | .arr (v :: items), hitems =>
      rw [dumpsWith, List.length_cons] at hfuel
      exact loadsValue_arr (skipSpace_dumpsItemsWith hitems.1 s) (dumpsItemsWith_head hitems.1 s)
        (loadsItems_dumpsWith hspace v items hitems.1 hitems.2 fuel s (by omega))
  | .obj [], _ => rfl
  | .obj ((k, v) :: pairs), ⟨hk, hv, hpairs⟩ =>
      rw [dumpsWith, List.length_cons] at hfuel
      exact loadsValue_obj (skipSpace_dumpsPairsWith (k, v) pairs s)
        (dumpsPairsWith_head (k, v) pairs s)
        (loadsPairs_dumpsWith hspace k v pairs hk hv hpairs fuel s (by omega))
termination_by fuel

theorem loadsItems_dumpsWith (hspace : ∀ c ∈ space, jsonSpace c = true) (v : Json)
    (items : List Json) (hv : Readable floatOf v) (hitems : ReadableItems floatOf items)
    (fuel : ℕ) (s : List Char)
    (hfuel : 2 * (dumpsItemsWith space (v :: items)).length ≤ fuel + 1) :
    loadsItems floatOf fuel (dumpsItemsWith space (v :: items) ++ s) =
      some (reloadedItems (v :: items), s) := by
  match items, hitems with
  | [], _ =>
      rw [dumpsItemsWith, List.length_append, List.length_singleton] at hfuel
      rw [dumpsItemsWith, List.append_assoc]
      obtain ⟨fuel, rfl⟩ : ∃ m, fuel = m + 1 := ⟨fuel - 1, by omega⟩
      exact loadsItems_last (loadsValue_dumpsWith hspace v hv fuel _ (by omega)
        (stops_of_delimiter (.inr (.inl rfl)) _))
  | v' :: items, ⟨hv', hitems⟩ =>
      rw [dumpsItemsWith, List.length_append, List.length_cons, List.length_append] at hfuel
      rw [dumpsItemsWith, List.append_assoc, List.cons_append, List.append_assoc]
      obtain ⟨fuel, rfl⟩ : ∃ m, fuel = m + 1 := ⟨fuel - 1, by omega⟩
      refine loadsItems_next (loadsValue_dumpsWith hspace v hv fuel _ (by omega)
        (stops_of_delimiter (.inl rfl) _)) ?_
      rw [skipSpace_append hspace, skipSpace_dumpsItemsWith hv']
      exact loadsItems_dumpsWith hspace v' items hv' hitems fuel s (by omega)
termination_by fuel

theorem loadsPairs_dumpsWith (hspace : ∀ c ∈ space, jsonSpace c = true) (k : PyStr) (v : Json)
    (pairs : List (PyStr × Json)) (hk : k.Points) (hv : Readable floatOf v)
    (hpairs : ReadablePairs floatOf pairs) (fuel : ℕ) (s : List Char)
    (hfuel : 2 * (dumpsPairsWith space ((k, v) :: pairs)).length ≤ fuel + 1) :
    loadsPairs floatOf fuel (dumpsPairsWith space ((k, v) :: pairs) ++ s) =
      some (reloadedPairs ((k, v) :: pairs), s) := by
  match pairs, hpairs with
  | [], _ =>
      rw [dumpsPairsWith, List.length_append, List.length_cons, List.length_append,
        List.length_append, List.length_singleton] at hfuel
      rw [dumpsPairsWith, List.append_assoc, List.cons_append, List.append_assoc, List.append_assoc]
      obtain ⟨fuel, rfl⟩ : ∃ m, fuel = m + 1 := ⟨fuel - 1, by omega⟩
      refine loadsPairs_last hk ?_
      rw [skipSpace_append hspace, skipSpace_dumpsWith hv]
      exact loadsValue_dumpsWith hspace v hv fuel _ (by omega)
        (stops_of_delimiter (.inr (.inr rfl)) _)
  | (k', v') :: pairs, ⟨hk', hv', hpairs⟩ =>
      rw [dumpsPairsWith, List.length_append, List.length_cons, List.length_append,
        List.length_append, List.length_cons, List.length_append] at hfuel
      rw [dumpsPairsWith, List.append_assoc, List.cons_append, List.append_assoc, List.append_assoc,
        List.cons_append, List.append_assoc]
      obtain ⟨fuel, rfl⟩ : ∃ m, fuel = m + 1 := ⟨fuel - 1, by omega⟩
      refine @loadsPairs_next floatOf _ _ hk _ _ _
        (space ++ (dumpsPairsWith space ((k', v') :: pairs) ++ s)) _ ?_ ?_
      · rw [skipSpace_append hspace, skipSpace_dumpsWith hv]
        exact loadsValue_dumpsWith hspace v hv fuel _ (by omega) (stops_of_delimiter (.inl rfl) _)
      · rw [skipSpace_append hspace, skipSpace_dumpsPairsWith]
        exact loadsPairs_dumpsWith hspace k' v' pairs hk' hv' hpairs fuel s (by omega)
termination_by fuel

end

/-- A text is read, also when white space follows it. -/
theorem loads_dumpsWith {v : Json} (hv : Readable floatOf v) {after : List Char}
    (hspace : ∀ c ∈ space, jsonSpace c = true) (hafter : ∀ c ∈ after, jsonSpace c = true) :
    loads floatOf (dumpsWith space v ++ after) = some (reloaded v) := by
  have hstops : Stops after := by
    intro c hc
    have hmem := hafter c (List.mem_of_mem_head? hc)
    simp only [jsonSpace, Bool.or_eq_true, decide_eq_true_eq] at hmem
    rcases hmem with ((rfl | rfl) | rfl) | rfl <;> decide
  have hskip : skipSpace after = [] := List.dropWhile_eq_nil_iff.mpr hafter
  unfold loads
  rw [skipSpace_dumpsWith hv, loadsValue_dumpsWith hspace v hv _ after (by
    rw [List.length_append]
    omega) hstops]
  exact if_pos hskip

theorem loads_dumps {v : Json} (hv : Loadable floatOf v) {space : List Char}
    (hspace : ∀ c ∈ space, jsonSpace c = true) : loads floatOf (dumps v ++ space) = some v := by
  rw [← dumpsWith_nil, loads_dumpsWith (hv.readable v) (List.forall_mem_nil _) hspace,
    hv.reloaded v]

/-- A text determines its value. -/
theorem dumps_injective {v v' : Json} (hv : ∀ floatOf, Loadable floatOf v)
    (hv' : ∀ floatOf, Loadable floatOf v') (h : dumps v = dumps v') : v = v' := by
  have hread {w : Json} (hw : ∀ floatOf, Loadable floatOf w) :
      loads (fun _ => ⟨[], List.forall_mem_nil _⟩) (dumps w) = some w := by
    have hloads := loads_dumps (hw fun _ => ⟨[], List.forall_mem_nil _⟩)
      (List.forall_mem_nil fun c => jsonSpace c = true)
    rwa [List.append_nil] at hloads
  exact Option.some.inj ((hread hv).symm.trans (h ▸ hread hv'))

end Loads

end SitBank.Python
