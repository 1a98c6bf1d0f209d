import SitBank.Python.Decimal
import SitBank.Python.Dict

/-!
The numbers that `int` and `Decimal` read from a text.

Both take the decimal digits of every script and white space around the number. `Decimal`
leaves out all underscores before it reads; `int` wants them between two digits. What
stands for the digits outside ASCII is a parameter.
-/

namespace SitBank.Python

/-! ### Digits -/

def isDigitCode (n : ℕ) : Bool := 48 ≤ n && n ≤ 57

def digitsValue (s : PyStr) : ℕ := s.foldl (fun v n => 10 * v + (n - 48)) 0

def spanDigitCodes (s : PyStr) : PyStr × PyStr := (s.takeWhile isDigitCode, s.dropWhile isDigitCode)

/-- A sign at the start; `true` is a minus. -/
def takeSign : PyStr → Bool × PyStr
  | 45 :: s => (true, s)
  | 43 :: s => (false, s)
  | s => (false, s)

section Digits

-- `unicodedata.decimal` outside ASCII.
variable (decimal : ℕ → Option (Fin 10))

/-- White space becomes a space, digits become ASCII, and what is neither cannot be read. -/
def asciiCode (n : ℕ) : ℕ :=
  if n < 128 then n
  else if PyStr.strip.spaceCode n then 32
  else
    match decimal n with
    | some d => 48 + d
    | none => 63

/-! ### `int` -/

/-- Digits with single underscores between them; `digits` are those before, in reverse
order, and the flag says that one of them has just been read. -/
def intDigits (digits : PyStr) (afterDigit : Bool) : PyStr → Option PyStr
  | [] => if afterDigit then some digits.reverse else none
  | n :: s =>
      if isDigitCode n then intDigits (n :: digits) true s
      else if n = 95 ∧ afterDigit = true then intDigits digits false s
      else none

/-- `sys.get_int_max_str_digits()`. -/
def maxStrDigits : ℕ := 4300

/-- The white space of C, which `int` leaves out; outside ASCII it has become a space. -/
def cSpace (n : ℕ) : Bool := n = 32 || 9 ≤ n && n ≤ 13

/-- `int(text)`; `none` is `ValueError`. -/
def intOfText (text : PyStr) : Option ℤ :=
  let ascii := text.map (asciiCode decimal)
  let (negative, s) := takeSign ((ascii.dropWhile cSpace).rdropWhile cSpace)
  match intDigits [] false s with
  | none => none
  | some digits =>
      if maxStrDigits < digits.length then none
      else some (if negative then -(digitsValue digits : ℤ) else digitsValue digits)

example : intOfText (fun _ => none) (.ofString " +600_000 ") = some 600000 ∧
    intOfText (fun _ => none) (.ofString "6__0") = none := by decide

end Digits

/-- `str(n)`. -/
def numeral (n : ℕ) : PyStr := (Nat.toDigits 10 n).map Char.toNat

theorem numeral_digits {n c : ℕ} (h : c ∈ numeral n) : isDigitCode c = true := by
  obtain ⟨d, hd, rfl⟩ := List.mem_map.mp h
  have := Nat.isDigit_of_mem_toDigits (by decide) (by decide) hd
  simp only [Char.isDigit, Bool.and_eq_true, decide_eq_true_eq] at this
  unfold isDigitCode
  rw [Bool.and_eq_true, decide_eq_true_eq, decide_eq_true_eq]
  exact ⟨this.1, this.2⟩

theorem intDigits_of_digits {s : PyStr} (h : ∀ c ∈ s, isDigitCode c = true) (digits : PyStr) :
    intDigits digits true s = some (digits.reverse ++ s) := by
  induction s generalizing digits with
  | nil => simp [intDigits]
  | cons c s ih =>
      obtain ⟨hc, hs⟩ := List.forall_mem_cons.mp h
      rw [intDigits, if_pos hc, ih hs, List.reverse_cons, List.append_assoc]
      rfl

/-- Digits and nothing else are read as they stand. -/
theorem intOfText_of_digits (decimal : ℕ → Option (Fin 10)) {s : PyStr} (hne : s ≠ [])
    (h : ∀ c ∈ s, isDigitCode c = true) (hlength : s.length ≤ maxStrDigits) :
    intOfText decimal s = some (digitsValue s : ℤ) := by
  have hcode {c : ℕ} (hc : isDigitCode c = true) : 48 ≤ c ∧ c ≤ 57 := by
    simpa [isDigitCode] using hc
  have hspace {c : ℕ} (hc : isDigitCode c = true) : cSpace c = false := by
    have := hcode hc
    simp only [cSpace, Bool.or_eq_false_iff, Bool.and_eq_false_iff, decide_eq_false_iff_not]
    omega
  -- digits are ASCII, no white space and no sign, so nothing is stripped before they are read
  have hascii : s.map (asciiCode decimal) = s := by
    refine (List.map_congr_left fun c hc => ?_).trans (List.map_id s)
    exact if_pos (by have := hcode (h c hc); omega)
  have hleft : s.dropWhile cSpace = s := List.dropWhile_eq_self_iff.mpr fun hpos => by
    rw [hspace (h _ (List.getElem_mem hpos))]
    decide
  have hright : s.rdropWhile cSpace = s := List.rdropWhile_eq_self_iff.mpr fun hne => by
    rw [hspace (h _ (List.getLast_mem hne))]
    decide
  have hsign : takeSign s = (false, s) := by
    cases s with
    | nil => exact absurd rfl hne
    | cons c s =>
        have := hcode (h c (List.mem_cons_self ..))
        unfold takeSign
        split
        · next heq => cases heq; omega
        · next heq => cases heq; omega
        · rfl
  have hdigits : intDigits [] false s = some s := by
    cases s with
    | nil => exact absurd rfl hne
    | cons c s =>
        obtain ⟨hc, hs⟩ := List.forall_mem_cons.mp h
        rw [intDigits, if_pos hc, intDigits_of_digits hs]
        rfl
  unfold intOfText
  rw [hascii]
  dsimp only
  rw [hleft, hright, hsign]
  dsimp only
  rw [hdigits]
  dsimp only
  rw [if_neg (by omega)]
  rfl

theorem digitsValue_numeral (n : ℕ) : digitsValue (numeral n) = n := by
  have hfold : digitsValue (numeral n) = Nat.ofDigitChars 10 (Nat.toDigits 10 n) 0 := by
    unfold digitsValue numeral Nat.ofDigitChars
    rw [List.foldl_map]
    rfl
  rw [hfold, Nat.ofDigitChars_ten_toDigits]

theorem intOfText_numeral (decimal : ℕ → Option (Fin 10)) {n : ℕ} (h : n < 2 ^ 63) :
    intOfText decimal (numeral n) = some (n : ℤ) := by
  have hlength : (numeral n).length ≤ 19 := by
    rw [numeral, List.length_map, Nat.length_toDigits_le_iff (by decide) (by decide)]
    exact lt_trans h (by decide)
  have hne : numeral n ≠ [] := by
    intro hnil
    have := Nat.length_toDigits_pos (b := 10) (n := n)
    rw [← List.length_map Char.toNat, ← numeral, hnil] at this
    cases this
  rw [intOfText_of_digits decimal hne (fun _ => numeral_digits) (hlength.trans (by decide)),
    digitsValue_numeral]

section Digits

variable (decimal : ℕ → Option (Fin 10))

/-! ### `Decimal` -/

inductive Number
  | finite (d : Decimal)
  | infinity (negative : Bool)
  | nan (negative signaling : Bool) (payload : ℕ)
  deriving DecidableEq

/-- The exponent after the digits, if any. -/
def exponentOf : PyStr → Option ℤ
  | [] => some 0
  | c :: s =>
      let (negative, digits) := takeSign s
      if (c = 101 ∨ c = 69) ∧ digits ≠ [] ∧ digits.all isDigitCode = true then
        some (if negative then -(digitsValue digits : ℤ) else digitsValue digits)
      else none

/-- `MAX_EMAX` and `MIN_ETINY`. -/
def maxEmax : ℤ := 999999999999999999

def minEtiny : ℤ := -1999999999999999997

def Decimal.inLimits (d : Decimal) : Bool :=
  d.exponent + (Nat.toDigits 10 d.coefficient).length - 1 ≤ maxEmax && minEtiny ≤ d.exponent

def finiteOfText (negative : Bool) (s : PyStr) : Option Decimal :=
  let (whole, rest) := spanDigitCodes s
  let (frac, rest) := match rest with
    | 46 :: rest => spanDigitCodes rest
    | rest => ([], rest)
  if whole = [] ∧ frac = [] then none
  else
    match exponentOf rest with
    | none => none
    | some e =>
        let d : Decimal := ⟨negative, digitsValue (whole ++ frac), e - frac.length⟩
        if d.inLimits then some d else none

/-- What is not a number, in lower case. -/
def specialOfText (negative : Bool) : PyStr → Option Number
  | [105, 110, 102] | [105, 110, 102, 105, 110, 105, 116, 121] => some (.infinity negative)
  | 110 :: 97 :: 110 :: payload =>
      if payload.all isDigitCode then some (.nan negative false (digitsValue payload)) else none
  | 115 :: 110 :: 97 :: 110 :: payload =>
      if payload.all isDigitCode then some (.nan negative true (digitsValue payload)) else none
  | _ => none

/-- `Decimal(text)`; `none` is `InvalidOperation`. -/
def decimalOfText (text : PyStr) : Option Number :=
  let (negative, s) := takeSign ((text.strip.filter (· ≠ 95)).map (asciiCode decimal))
  match specialOfText negative (s.map lowerCode) with
  | some number => some number
  | none => (finiteOfText negative s).map .finite

end Digits

example : decimalOfText (fun _ => none) (.ofString " -1_2.50e-1 ") =
    some (.finite ⟨true, 1250, -3⟩) ∧
    decimalOfText (fun _ => none) (.ofString "sNaN12") = some (.nan false true 12) ∧
    decimalOfText (fun _ => none) (.ofString "1e") = none := by decide

/-- ASCII is read without the table. -/
theorem decimalOfText_ascii (decimal : ℕ → Option (Fin 10)) {text : PyStr} (h : text.Ascii) :
    decimalOfText decimal text = decimalOfText (fun _ => none) text := by
  have hcode (decimal : ℕ → Option (Fin 10)) :
      (text.strip.filter (· ≠ 95)).map (asciiCode decimal) = text.strip.filter (· ≠ 95) := by
    refine (List.map_congr_left fun n hn => ?_).trans (List.map_id _)
    exact if_pos (ascii_strip h n (List.mem_of_mem_filter hn))
  unfold decimalOfText
  rw [hcode decimal, hcode fun _ => none]

/-! ### Operations on what is read -/

/-- `quantize(Decimal("0.01"))`; `none` is `InvalidOperation`. -/
def Number.quantize : Number → Option Number
  | .finite d => d.quantize.map .finite
  | .infinity _ => none
  | .nan _ true _ => none
  | .nan negative false payload => some (.nan negative false payload)

/-- The coefficient with the sign. -/
def Decimal.signed (d : Decimal) : ℤ := if d.negative then -d.coefficient else d.coefficient

/-- `a < b`, with the larger exponent brought down to the smaller one. -/
def Decimal.lt (a b : Decimal) : Bool :=
  a.signed * 10 ^ (a.exponent - b.exponent).toNat < b.signed * 10 ^ (b.exponent - a.exponent).toNat

/-- `a < b`; `none` is `InvalidOperation`, which a NaN raises. -/
def Number.lt : Number → Number → Option Bool
  | .nan .., _ | _, .nan .. => none
  | .finite a, .finite b => some (a.lt b)
  | .finite _, .infinity negative => some !negative
  | .infinity negative, .finite _ => some negative
  | .infinity negative, .infinity negative' => some (negative && !negative')

end SitBank.Python
