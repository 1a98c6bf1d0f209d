import Mathlib.Algebra.Group.Int.Defs
import Mathlib.Algebra.Group.Nat.Defs
import SitBank.Python.IsoDates

/-!
Amounts of money as `Decimal` and as `Numeric(12, 2)` columns.

`quantize` rounds half a cent to the even neighbour, the column rounds it away from
zero. They agree on whole cents, which is what is signed and stored here. The text of
an amount with two places determines it, also its sign.
-/

namespace SitBank.Python

/-- A finite `Decimal`, as `as_tuple()` gives it. -/
structure Decimal where
  negative : Bool
  coefficient : ℕ
  exponent : ℤ
deriving DecidableEq

/-! ### Two places -/

/-- `ROUND_HALF_EVEN`. -/
def divHalfEven (n d : ℕ) : ℕ :=
  if d < 2 * (n % d) ∨ d = 2 * (n % d) ∧ n / d % 2 = 1 then n / d + 1 else n / d

/-- Half is rounded up, which is away from zero for a coefficient. -/
def divHalfUp (n d : ℕ) : ℕ := if d ≤ 2 * (n % d) then n / d + 1 else n / d

/-- The coefficient for the exponent -2; `round` is for the places that are dropped. -/
def Decimal.rescaled (round : ℕ → ℕ → ℕ) (amount : Decimal) : ℕ :=
  if 0 ≤ amount.exponent + 2 then amount.coefficient * 10 ^ (amount.exponent + 2).toNat
  else round amount.coefficient (10 ^ (-(amount.exponent + 2)).toNat)

/-- `amount.quantize(Decimal("0.01"))`; `none` is `InvalidOperation`, for more than the
28 digits of the context. -/
def Decimal.quantize (amount : Decimal) : Option Decimal :=
  if amount.rescaled divHalfEven < 10 ^ 28 then
    some ⟨amount.negative, amount.rescaled divHalfEven, -2⟩
  else none

/-- What a `Numeric(12, 2)` column gives back; it has no negative zero. `none` is the
error for a value out of range. -/
def Decimal.stored (amount : Decimal) : Option Decimal :=
  if amount.rescaled divHalfUp < 10 ^ 12 then
    some ⟨amount.negative && amount.rescaled divHalfUp ≠ 0, amount.rescaled divHalfUp, -2⟩
  else none

example : (Decimal.mk false 125 (-3)).quantize = some ⟨false, 12, -2⟩ ∧
    (Decimal.mk false 125 (-3)).stored = some ⟨false, 13, -2⟩ := by decide

/-- No place after the second one is in use. -/
def Decimal.WholeCents (amount : Decimal) : Prop :=
  0 ≤ amount.exponent + 2 ∨ 10 ^ (-(amount.exponent + 2)).toNat ∣ amount.coefficient

theorem rescaled_two_places (round : ℕ → ℕ → ℕ) (negative : Bool) (coefficient : ℕ) :
    (Decimal.mk negative coefficient (-2)).rescaled round = coefficient := by
  simp [Decimal.rescaled]

theorem rescaled_of_wholeCents {amount : Decimal} (h : amount.WholeCents) :
    amount.rescaled divHalfUp = amount.rescaled divHalfEven := by
  unfold Decimal.rescaled
  split
  · rfl
  · next hplaces =>
      have hdvd := h.resolve_left hplaces
      have hpos : 0 < 10 ^ (-(amount.exponent + 2)).toNat := Nat.pow_pos (by omega)
      have hrest := Nat.mod_eq_zero_of_dvd hdvd
      unfold divHalfUp divHalfEven
      rw [hrest, if_neg (by omega), if_neg (by omega)]

/-- A stored amount is quantized to what was quantized before. -/
theorem quantize_of_stored {amount back : Decimal} (hwhole : amount.WholeCents)
    (hsign : amount.negative = false) (hstored : amount.stored = some back) :
    back.quantize = amount.quantize := by
  unfold Decimal.stored at hstored
  split at hstored
  · next hrange =>
      obtain rfl := Option.some.inj hstored
      rw [rescaled_of_wholeCents hwhole] at hrange ⊢
      unfold Decimal.quantize
      rw [rescaled_two_places, if_pos (Nat.lt_trans hrange (by decide)),
        if_pos (Nat.lt_trans hrange (by decide))]
      simp [hsign]
  · cases hstored

theorem wholeCents_of_quantize {amount quantized : Decimal}
    (h : amount.quantize = some quantized) : quantized.WholeCents := by
  unfold Decimal.quantize at h
  split at h
  · obtain rfl := Option.some.inj h
    exact .inl (show (0 : ℤ) ≤ -2 + 2 by decide)
  · cases h

/-! ### Texts -/

/-- `format(amount, "f")`. -/
def Decimal.formatFixed (amount : Decimal) : String :=
  let places := (-amount.exponent).toNat
  let digits := amount.coefficient * 10 ^ amount.exponent.toNat
  (if amount.negative then "-" else "") ++ String.ofList (Nat.toDigits 10 (digits / 10 ^ places)) ++
    if places = 0 then "" else "." ++ zeroFill places (digits % 10 ^ places : ℕ)

example : (Decimal.mk true 5 (-2)).formatFixed = "-0.05" := by decide +kernel

/-- The characters of an amount with two places. -/
theorem formatFixed_toList (negative : Bool) (coefficient : ℕ) :
    (Decimal.mk negative coefficient (-2)).formatFixed.toList =
      (if negative then ['-'] else []) ++ (Nat.toDigits 10 (coefficient / 100) ++
        '.' :: (zeroFill 2 (coefficient % 100 : ℕ)).toList) := by
  have hplaces : (-(-2) : ℤ).toNat = 2 := rfl
  have hscale : coefficient * 10 ^ (-2 : ℤ).toNat = coefficient := Nat.mul_one _
  unfold Decimal.formatFixed
  simp only [hplaces, hscale, String.toList_append, String.toList_ofList, List.append_assoc]
  rw [if_neg (show ¬(2 = 0) by decide), String.toList_append]
  cases negative <;> simp

theorem toDigits_append_inj {m n : ℕ} {x y : List Char}
    (h : Nat.toDigits 10 m ++ '.' :: x = Nat.toDigits 10 n ++ '.' :: y) : m = n ∧ x = y := by
  have hdigits (k : ℕ) : ∀ c ∈ Nat.toDigits 10 k, c.isDigit = true := fun c hc =>
    Nat.isDigit_of_mem_toDigits (by decide) (by decide) hc
  obtain ⟨hnumber, hrest⟩ := digits_append_inj (hdigits m) (hdigits n) rfl rfl h
  refine ⟨?_, (List.cons.inj hrest).2⟩
  calc
    m = Nat.ofDigitChars 10 (Nat.toDigits 10 m) 0 := Nat.ofDigitChars_ten_toDigits.symm
    _ = Nat.ofDigitChars 10 (Nat.toDigits 10 n) 0 := by rw [hnumber]
    _ = n := Nat.ofDigitChars_ten_toDigits

/-- A number does not start with a sign. -/
theorem toDigits_append_ne_minus (n : ℕ) (x y : List Char) :
    Nat.toDigits 10 n ++ '.' :: x ≠ '-' :: y := by
  intro h
  cases hdigits : Nat.toDigits 10 n with
  | nil =>
      rw [hdigits] at h
      exact absurd (List.cons.inj h).1 (by decide)
  | cons c ds =>
      have hc : c.isDigit = true := Nat.isDigit_of_mem_toDigits (by decide) (by decide)
        (hdigits ▸ List.mem_cons_self (l := ds))
      rw [hdigits] at h
      rw [(List.cons.inj h).1] at hc
      exact absurd hc (by decide)

theorem formatFixed_inj {negative negative' : Bool} {m n : ℕ}
    (h : (Decimal.mk negative m (-2)).formatFixed = (Decimal.mk negative' n (-2)).formatFixed) :
    negative = negative' ∧ m = n := by
  have hchars := congrArg String.toList h
  rw [formatFixed_toList, formatFixed_toList] at hchars
  have hvalue (htail : Nat.toDigits 10 (m / 100) ++ '.' :: (zeroFill 2 (m % 100 : ℕ)).toList =
      Nat.toDigits 10 (n / 100) ++ '.' :: (zeroFill 2 (n % 100 : ℕ)).toList) : m = n := by
    obtain ⟨hwhole, hcents⟩ := toDigits_append_inj htail
    have := zeroFill_injective (by omega) (by omega) hcents
    omega
  cases negative <;> cases negative'
  · exact ⟨rfl, hvalue hchars⟩
  · exact absurd hchars (toDigits_append_ne_minus _ _ _)
  · exact absurd hchars.symm (toDigits_append_ne_minus _ _ _)
  · exact ⟨rfl, hvalue (List.cons.inj hchars).2⟩

/-- The text of a quantized amount determines it. -/
theorem formatFixed_quantize_inj {amount amount' quantized quantized' : Decimal}
    (hq : amount.quantize = some quantized) (hq' : amount'.quantize = some quantized')
    (h : quantized.formatFixed = quantized'.formatFixed) : quantized = quantized' := by
  have hplaces {a q : Decimal} (hq : a.quantize = some q) : q.exponent = -2 := by
    unfold Decimal.quantize at hq
    split at hq
    · exact (congrArg Decimal.exponent (Option.some.inj hq)).symm
    · cases hq
  obtain ⟨negative, m, e⟩ := quantized
  obtain ⟨negative', n, e'⟩ := quantized'
  obtain rfl := hplaces hq
  obtain rfl := hplaces hq'
  obtain ⟨rfl, rfl⟩ := formatFixed_inj h
  rfl

end SitBank.Python
