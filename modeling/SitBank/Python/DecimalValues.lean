import Mathlib.Algebra.Order.Field.Power
import Mathlib.Algebra.Order.Field.Rat
import Mathlib.Tactic.FieldSimp
import Mathlib.Tactic.Linarith
import Mathlib.Tactic.Positivity
import Mathlib.Tactic.Ring
import SitBank.Python.Decimal

/-!
The number that a `Decimal` stands for, and what `quantize` makes of it.

Half a cent goes to the even neighbour. An even number of cents is therefore not left
behind by the half cent above it, and is reached by the half cent below it.
-/

namespace SitBank.Python

/-! ### Halves -/

section Halves

variable {n m k : ℕ}

theorem divHalfEven_cases (n m : ℕ) :
    (divHalfEven n m = n / m + 1 ∧ (m < 2 * (n % m) ∨ m = 2 * (n % m) ∧ n / m % 2 = 1)) ∨
      (divHalfEven n m = n / m ∧
        (2 * (n % m) < m ∨ m = 2 * (n % m) ∧ n / m % 2 = 0)) := by
  unfold divHalfEven
  split
  · next h => exact .inl ⟨rfl, h⟩
  · next h => exact .inr ⟨rfl, by omega⟩

theorem divHalfEven_le_iff (hm : 0 < m) (hk : k % 2 = 0) :
    divHalfEven n m ≤ k ↔ 2 * n ≤ (2 * k + 1) * m := by
  have hn := Nat.div_add_mod n m
  have hr := Nat.mod_lt n hm
  have hcases := divHalfEven_cases n m
  generalize n / m = q at hn hcases
  generalize n % m = r at hn hr hcases
  have hk' : (2 * k + 1) * m = 2 * (m * k) + m := by ring
  rw [hk']
  rcases Nat.lt_trichotomy q k with hlt | rfl | hgt
  · have hprod : m * (q + 1) ≤ m * k := Nat.mul_le_mul_left m hlt
    rw [Nat.mul_add, Nat.mul_one] at hprod
    omega
  · omega
  · have hprod : m * (k + 1) ≤ m * q := Nat.mul_le_mul_left m hgt
    rw [Nat.mul_add, Nat.mul_one] at hprod
    omega

theorem divHalfEven_lt_iff (hm : 0 < m) (hk : k % 2 = 0) :
    divHalfEven n m < k ↔ 2 * n + m < 2 * k * m := by
  have hn := Nat.div_add_mod n m
  have hr := Nat.mod_lt n hm
  have hcases := divHalfEven_cases n m
  generalize n / m = q at hn hcases
  generalize n % m = r at hn hr hcases
  have hk' : 2 * k * m = 2 * (m * k) := by ring
  rw [hk']
  rcases Nat.lt_trichotomy (q + 1) k with hlt | rfl | hgt
  · have hprod : m * (q + 2) ≤ m * k := Nat.mul_le_mul_left m hlt
    rw [Nat.mul_add] at hprod
    omega
  · rw [Nat.mul_add, Nat.mul_one] at *
    omega
  · have hprod : m * k ≤ m * q := Nat.mul_le_mul_left m (Nat.le_of_lt_succ hgt)
    omega

/-- Nothing is rounded exactly where the division leaves no rest. -/
theorem divHalfEven_mul_iff (hm : 0 < m) : divHalfEven n m * m = n ↔ m ∣ n := by
  have hn := Nat.div_add_mod n m
  have hr := Nat.mod_lt n hm
  rw [Nat.dvd_iff_mod_eq_zero]
  rcases divHalfEven_cases n m with ⟨hd, hrest⟩ | ⟨hd, hrest⟩
  · rw [hd, Nat.add_mul, Nat.one_mul, Nat.mul_comm]
    omega
  · rw [hd, Nat.mul_comm]
    omega

end Halves

/-! ### Values -/

namespace Decimal

def value (d : Decimal) : ℚ :=
  (if d.negative then -(d.coefficient : ℚ) else d.coefficient) * 10 ^ d.exponent

/-- Without the sign, in cents. -/
def cents (d : Decimal) : ℚ := d.coefficient * 10 ^ (d.exponent + 2)

variable (d : Decimal)

theorem cents_nonneg : 0 ≤ d.cents := by
  unfold cents
  positivity

theorem value_eq_cents : d.value = (if d.negative then -d.cents else d.cents) / 100 := by
  unfold value cents
  rw [zpow_add₀ (by norm_num : (10 : ℚ) ≠ 0)]
  split <;> ring

/-- The fraction of natural numbers that is rounded. -/
theorem rescaled_fraction : ∃ n m : ℕ, 0 < m ∧ d.rescaled divHalfEven = divHalfEven n m ∧
    d.cents * m = n ∧ (d.WholeCents ↔ m ∣ n) := by
  unfold rescaled cents WholeCents
  by_cases h : 0 ≤ d.exponent + 2
  · refine ⟨d.coefficient * 10 ^ (d.exponent + 2).toNat, 1, Nat.one_pos, ?_, ?_, ?_⟩
    · rw [if_pos h]
      simp [divHalfEven, Nat.mod_one]
    · have hpow : (10 : ℚ) ^ (d.exponent + 2) = 10 ^ (d.exponent + 2).toNat := by
        rw [← zpow_natCast, Int.toNat_of_nonneg h]
      rw [hpow]
      push_cast
      ring
    · simp [h]
  · refine ⟨d.coefficient, 10 ^ (-(d.exponent + 2)).toNat, by positivity, if_neg h, ?_, ?_⟩
    · have hpow : (10 : ℚ) ^ (d.exponent + 2) * 10 ^ (-(d.exponent + 2)).toNat = 1 := by
        rw [← zpow_natCast, Int.toNat_of_nonneg (by omega), ← zpow_add₀ (by norm_num),
          Int.add_right_neg, zpow_zero]
      push_cast
      rw [mul_assoc, hpow, mul_one]
    · simp [h]

theorem rescaled_le_iff {k : ℕ} (hk : k % 2 = 0) :
    d.rescaled divHalfEven ≤ k ↔ d.cents ≤ k + 1 / 2 := by
  obtain ⟨n, m, hm, hround, hcents, -⟩ := d.rescaled_fraction
  have hpos : (0 : ℚ) < m := by exact_mod_cast hm
  rw [hround, divHalfEven_le_iff hm hk, ← mul_le_mul_iff_left₀ hpos, hcents]
  constructor
  · intro h
    have h' : (2 : ℚ) * n ≤ (2 * k + 1) * m := by exact_mod_cast h
    linarith
  · intro h
    have h' : (2 : ℚ) * n ≤ (2 * k + 1) * m := by linarith
    exact_mod_cast h'

theorem rescaled_lt_iff {k : ℕ} (hk : k % 2 = 0) :
    d.rescaled divHalfEven < k ↔ d.cents < k - 1 / 2 := by
  obtain ⟨n, m, hm, hround, hcents, -⟩ := d.rescaled_fraction
  have hpos : (0 : ℚ) < m := by exact_mod_cast hm
  rw [hround, divHalfEven_lt_iff hm hk, ← mul_lt_mul_iff_left₀ hpos, hcents]
  constructor
  · intro h
    have h' : (2 : ℚ) * n + m < 2 * k * m := by exact_mod_cast h
    linarith
  · intro h
    have h' : (2 : ℚ) * n + m < 2 * k * m := by linarith
    exact_mod_cast h'

/-- The rounded cents are the cents exactly if there are only whole ones. -/
theorem rescaled_eq_iff : (d.rescaled divHalfEven : ℚ) = d.cents ↔ d.WholeCents := by
  obtain ⟨n, m, hm, hround, hcents, hwhole⟩ := d.rescaled_fraction
  have hpos : (m : ℚ) ≠ 0 := by exact_mod_cast hm.ne'
  rw [hround, hwhole, ← divHalfEven_mul_iff hm, ← mul_left_inj' hpos, hcents]
  exact_mod_cast Iff.rfl

/-- More than the 28 digits of the context are reached from half a cent below on. -/
theorem rescaled_lt_prec : d.rescaled divHalfEven < 10 ^ 28 ↔ d.cents < 10 ^ 28 - 1 / 2 := by
  have hbound := d.rescaled_lt_iff (k := 10 ^ 28) (by decide)
  rwa [Nat.cast_pow, Nat.cast_ofNat] at hbound

theorem quantize_eq_some_iff {q : Decimal} : d.quantize = some q ↔
    d.cents < 10 ^ 28 - 1 / 2 ∧ q = ⟨d.negative, d.rescaled divHalfEven, -2⟩ := by
  rw [quantize, ← rescaled_lt_prec]
  by_cases h : d.rescaled divHalfEven < 10 ^ 28
  · rw [if_pos h]
    exact ⟨fun hq => ⟨h, (Option.some.inj hq).symm⟩, fun hq => congrArg some hq.2.symm⟩
  · rw [if_neg h]
    exact ⟨nofun, fun hq => absurd hq.1 h⟩

theorem quantize_eq_none_iff : d.quantize = none ↔ 10 ^ 28 - 1 / 2 ≤ d.cents := by
  rw [quantize, ← not_lt, ← rescaled_lt_prec]
  by_cases h : d.rescaled divHalfEven < 10 ^ 28
  · rw [if_pos h]
    exact ⟨nofun, fun hnot => absurd h hnot⟩
  · rw [if_neg h]
    exact ⟨fun _ => h, fun _ => rfl⟩

/-- An amount with two places. -/
theorem value_two_places (negative : Bool) (coefficient : ℕ) :
    (Decimal.mk negative coefficient (-2)).value =
      (if negative then -(coefficient : ℚ) else coefficient) / 100 := by
  rw [value_eq_cents]
  simp [cents]

end Decimal

end SitBank.Python
