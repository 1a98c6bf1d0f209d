import SitBank.Python.IsoDates

/-!
Dates and months of the proleptic Gregorian calendar.

`datetime(year, month, day)` counts the days before the year and before the month;
`civilFromDays` is its inverse. Months are numbered through the years, so that the
month after `k` is `k + 1`.
-/

namespace SitBank.Python

/-! ### Days of a date -/

def isLeap (year : ℤ) : Bool := year % 4 = 0 && (year % 100 ≠ 0 || year % 400 = 0)

def daysBeforeYear (year : ℤ) : ℤ :=
  (year - 1) * 365 + (year - 1) / 4 - (year - 1) / 100 + (year - 1) / 400

def daysBeforeMonth (year month : ℤ) : ℤ :=
  [0, 31, 59, 90, 120, 151, 181, 212, 243, 273, 304, 334].getD (month - 1).toNat 0 +
    if 2 < month ∧ isLeap year = true then 1 else 0

/-- The day of a date, counted from the epoch. -/
def daysFromCivil (year month day : ℤ) : ℤ :=
  daysBeforeYear year + daysBeforeMonth year month + day - 719163

example : daysFromCivil 1970 1 1 = 0 ∧ daysFromCivil 2000 2 29 = 11016 := by decide

/-- The first day of month `k`, where January of the year 0 is month 0. -/
def monthStart (k : ℤ) : ℤ := daysFromCivil (k / 12) (k % 12 + 1) 1

/-- The leap day of a year, if it has one. -/
def leapDay (year : ℤ) : ℤ := if isLeap year = true then 1 else 0

theorem leapDay_cases (year : ℤ) :
    (leapDay year = 1 ∧ year % 4 = 0 ∧ (year % 100 ≠ 0 ∨ year % 400 = 0)) ∨
      (leapDay year = 0 ∧ (year % 4 ≠ 0 ∨ year % 100 = 0 ∧ year % 400 ≠ 0)) := by
  unfold leapDay
  by_cases h : isLeap year = true
  · rw [if_pos h]
    exact .inl ⟨rfl, by simpa [isLeap] using h⟩
  · rw [if_neg h]
    have hnot : ¬(year % 4 = 0 ∧ (year % 100 ≠ 0 ∨ year % 400 = 0)) := by simpa [isLeap] using h
    exact .inr ⟨rfl, by omega⟩

/-- The days before the year, counted with its leap day. -/
theorem daysBeforeYear_add_leap (year : ℤ) : daysBeforeYear year + leapDay year =
    365 * (year - 1) + year / 4 - year / 100 + year / 400 := by
  unfold daysBeforeYear
  rcases leapDay_cases year with ⟨hleap, h4, h⟩ | ⟨hleap, h⟩ <;> rw [hleap] <;> omega

theorem daysBeforeYear_succ (year : ℤ) :
    daysBeforeYear (year + 1) = daysBeforeYear year + 365 + leapDay year := by
  have h := daysBeforeYear_add_leap year
  have hnext : daysBeforeYear (year + 1) = 365 * year + year / 4 - year / 100 + year / 400 := by
    unfold daysBeforeYear
    rw [Int.add_sub_cancel, Int.mul_comm]
  omega

/-! ### Months -/

/-- The first days of the months of a year. -/
theorem monthStart_of_year (year j : ℤ) (hj : 0 ≤ j) (hj' : j < 12) :
    monthStart (12 * year + j) = daysBeforeYear year +
      [0, 31, 59, 90, 120, 151, 181, 212, 243, 273, 304, 334].getD j.toNat 0 +
        (if 2 ≤ j then leapDay year else 0) - 719162 := by
  have hyear : (12 * year + j) / 12 = year := by omega
  have hmonth : (12 * year + j) % 12 = j := by omega
  unfold monthStart daysFromCivil daysBeforeMonth leapDay
  rw [hyear, hmonth, Int.add_sub_cancel]
  by_cases hlate : 2 ≤ j
  · rw [if_pos hlate]
    simp only [show 2 < j + 1 by omega, true_and]
    omega
  · rw [if_neg hlate, if_neg (by omega)]
    omega

theorem twelve_cases {j : ℤ} (hj : 0 ≤ j) (hj' : j < 12) : j = 0 ∨ j = 1 ∨ j = 2 ∨ j = 3 ∨
    j = 4 ∨ j = 5 ∨ j = 6 ∨ j = 7 ∨ j = 8 ∨ j = 9 ∨ j = 10 ∨ j = 11 := by
  omega

/-- A month has from 28 to 31 days. -/
theorem monthStart_succ (k : ℤ) :
    monthStart k + 28 ≤ monthStart (k + 1) ∧ monthStart (k + 1) ≤ monthStart k + 31 := by
  obtain ⟨year, j, hj, hj', rfl⟩ : ∃ year j : ℤ, 0 ≤ j ∧ j < 12 ∧ k = 12 * year + j :=
    ⟨k / 12, k % 12, by omega, by omega, by omega⟩
  have hleap : leapDay year = 0 ∨ leapDay year = 1 := by
    rcases leapDay_cases year with h | h
    · exact .inr h.1
    · exact .inl h.1
  by_cases hlast : j = 11
  · subst hlast
    -- December is followed by January of the next year.
    have hnext : 12 * year + 11 + 1 = 12 * (year + 1) + 0 := by omega
    rw [hnext, monthStart_of_year _ 0 (by decide) (by decide),
      monthStart_of_year year 11 (by decide) (by decide), daysBeforeYear_succ]
    simp
    omega
  · have hnext : 12 * year + j + 1 = 12 * year + (j + 1) := by omega
    rw [hnext, monthStart_of_year year j hj hj', monthStart_of_year year (j + 1)
      (by omega) (by omega)]
    rcases twelve_cases hj hj' with
        rfl | rfl | rfl | rfl | rfl | rfl | rfl | rfl | rfl | rfl | rfl | rfl <;>
      simp at hlast ⊢ <;> omega

theorem monthStart_mono {k k' : ℤ} (h : k ≤ k') : monthStart k ≤ monthStart k' := by
  obtain ⟨n, rfl⟩ := Int.le.dest h
  induction n with
  | zero => simp
  | succ n ih =>
      have hstep := (monthStart_succ (k + n)).1
      have hsum : k + (n + 1 : ℕ) = k + n + 1 := by omega
      have hrest := ih (by omega)
      rw [hsum]
      omega

/-- A day is in at most one month. -/
theorem month_unique {k k' day : ℤ} (h : monthStart k ≤ day) (hk : day < monthStart (k + 1))
    (h' : monthStart k' ≤ day) (hk' : day < monthStart (k' + 1)) : k = k' := by
  rcases Int.lt_trichotomy k k' with hlt | heq | hgt
  · have := monthStart_mono (show k + 1 ≤ k' by omega)
    omega
  · exact heq
  · have := monthStart_mono (show k' + 1 ≤ k by omega)
    omega

/-! ### The month of a day -/

/-- The number of the month of a day. -/
def monthOf (day : ℤ) : ℤ := 12 * (civilFromDays day).1 + (civilFromDays day).2.1 - 1

/-- The computation with years that start in March finds the month of the day. -/
theorem civilFromDays_month (day : ℤ) :
    (1 ≤ (civilFromDays day).2.1 ∧ (civilFromDays day).2.1 ≤ 12) ∧
      monthStart (monthOf day) ≤ day ∧ day < monthStart (monthOf day + 1) := by
  obtain ⟨era, y, n, i, hy, hy', hn, hn', hleap, hi, hday, hcivil⟩ := civilFromDays_spec day
  unfold monthOf
  rw [hcivil]
  dsimp only
  have hi₀ : 0 ≤ i := by omega
  have hi₁ : i < 12 := by omega
  have hyear : daysBeforeYear (y + era * 400) + leapDay (y + era * 400) =
      146097 * era + (365 * y + y / 4 - y / 100) - 365 := by
    have hfour : (y + era * 400) / 4 = y / 4 + 100 * era := by omega
    have hhundred : (y + era * 400) / 100 = y / 100 + 4 * era := by omega
    have hera : (y + era * 400) / 400 = era := by omega
    rw [daysBeforeYear_add_leap, hfour, hhundred, hera]
    omega
  have hnext := daysBeforeYear_succ (y + era * 400)
  by_cases hearly : i < 10
  · rw [if_pos hearly, if_pos hearly]
    refine ⟨by omega, ?_⟩
    have hindex : 12 * (y + era * 400) + (i + 3) - 1 = 12 * (y + era * 400) + (i + 2) := by omega
    rw [hindex, monthStart_of_year _ (i + 2) (by omega) (by omega)]
    by_cases hdecember : i = 9
    · subst hdecember
      have hjanuary : 12 * (y + era * 400) + (9 + 2) + 1 = 12 * (y + era * 400 + 1) + 0 := by omega
      rw [hjanuary, monthStart_of_year _ 0 (by omega) (by omega)]
      simp
      omega
    · have hlater : 12 * (y + era * 400) + (i + 2) + 1 = 12 * (y + era * 400) + (i + 3) := by omega
      rw [hlater, monthStart_of_year _ (i + 3) (by omega) (by omega)]
      rcases twelve_cases hi₀ hi₁ with
          rfl | rfl | rfl | rfl | rfl | rfl | rfl | rfl | rfl | rfl | rfl | rfl <;>
        simp at hearly hdecember ⊢ <;> omega
  · rw [if_neg hearly, if_neg hearly]
    refine ⟨by omega, ?_⟩
    have hindex : 12 * (y + era * 400 + 1) + (i - 9) - 1 =
        12 * (y + era * 400 + 1) + (i - 10) := by omega
    have hlater : 12 * (y + era * 400 + 1) + (i - 10) + 1 =
        12 * (y + era * 400 + 1) + (i - 9) := by omega
    rw [hindex, hlater, monthStart_of_year _ (i - 10) (by omega) (by omega),
      monthStart_of_year _ (i - 9) (by omega) (by omega)]
    -- The year ends in February, which has its leap day when `n` is the day 365.
    have hlast : n = 365 → leapDay (y + era * 400 + 1) = 1 := by
      intro h365
      have hlong := hleap h365
      rcases leapDay_cases (y + era * 400 + 1) with ⟨hone, -⟩ | ⟨-, hshort⟩
      · exact hone
      · have hfour : (y + era * 400 + 1) % 4 = (y + 1) % 4 := by omega
        have hhundred : (y + era * 400 + 1) % 100 = (y + 1) % 100 := by omega
        omega
    have hbounds := leapDay_cases (y + era * 400 + 1)
    rcases (show i = 10 ∨ i = 11 by omega) with rfl | rfl <;> simp <;> omega

theorem monthOf_eq_iff {day k : ℤ} :
    monthOf day = k ↔ monthStart k ≤ day ∧ day < monthStart (k + 1) := by
  obtain ⟨-, h, h'⟩ := civilFromDays_month day
  constructor
  · rintro rfl
    exact ⟨h, h'⟩
  · rintro ⟨hk, hk'⟩
    exact month_unique h h' hk hk'

end SitBank.Python
