import SitBank.Python.Time

/-!
The text of a timestamp determines it.

For days this is the calendar: a day has one year, month and day in it. The rest is
that numbers are written with a fixed sign after them that is no digit. Years are
written without a sign, so the days are those from the first of March of the year 0 on.
-/

namespace SitBank.Python

/-! ### Days -/

/-- The year in a cycle of four hundred years, from its day: the century, the four
years in it and the day of these. -/
theorem yearOfEra_spec {d y : ℤ} (h : 0 ≤ d) (h' : d < 146097)
    (hy : y = (d - d / 1460 + d / 36524 - d / 146096) / 365) :
    (0 ≤ y ∧ y < 400) ∧ 0 ≤ d - (365 * y + y / 4 - y / 100) ∧
      d - (365 * y + y / 4 - y / 100) ≤ 365 ∧
      (d - (365 * y + y / 4 - y / 100) = 365 →
        (y + 1) % 4 = 0 ∧ ((y + 1) % 100 ≠ 0 ∨ y = 399)) := by
  rcases Int.lt_or_eq_of_le (Int.le_of_lt_add_one (b := 146096) h') with hlast | rfl
  · obtain ⟨k, hk, hk', hcentury⟩ : ∃ k : ℤ, 0 ≤ k ∧ k ≤ 3 ∧ d / 36524 = k :=
      ⟨_, by omega, by omega, rfl⟩
    obtain ⟨a, b, ha, ha', hb, hb', hd⟩ : ∃ a b : ℤ, 0 ≤ a ∧ a ≤ 24 ∧ 0 ≤ b ∧ b < 1461 ∧
        d = 36524 * k + 1461 * a + b :=
      ⟨(d % 36524) / 1461, (d % 36524) % 1461, by omega, by omega, by omega, by omega, by omega⟩
    have hleap : d / 146096 = 0 := by omega
    have hfour : d / 1460 = 25 * k + a ∨ d / 1460 = 25 * k + a + 1 ∧ 1364 ≤ b := by omega
    rw [hleap, hcentury] at hy
    obtain ⟨c, hc, hc', hcb, hcb', hlong, hyear⟩ : ∃ c : ℤ, 0 ≤ c ∧ c ≤ 3 ∧ 365 * c ≤ b ∧
        b ≤ 365 * c + 365 ∧ (b = 365 * c + 365 → c = 3) ∧ y = 100 * k + 4 * a + c := by
      rcases hfour with hfour | ⟨hfour, hlate⟩
      · exact ⟨b / 365, by omega, by omega, by omega, by omega, by omega, by omega⟩
      · exact ⟨3, by omega, by omega, by omega, by omega, fun _ => rfl, by omega⟩
    have hquarter : y / 4 = 25 * k + a := by omega
    have hhundred : y / 100 = k := by omega
    refine ⟨by omega, by omega, by omega, fun hlast => ?_⟩
    have hthree : c = 3 := hlong (by omega)
    exact ⟨by omega, .inl (by omega)⟩
  · have : y = 399 := by omega
    omega

/-- Years from March on, with the months and days as `civilFromDays` counts them. -/
theorem civilFromDays_spec (days : ℤ) : ∃ era y n i : ℤ, 0 ≤ y ∧ y < 400 ∧ 0 ≤ n ∧ n ≤ 365 ∧
    (n = 365 → (y + 1) % 4 = 0 ∧ ((y + 1) % 100 ≠ 0 ∨ y = 399)) ∧
    i = (5 * n + 2) / 153 ∧ days + 719468 = 146097 * era + (365 * y + y / 4 - y / 100) + n ∧
    civilFromDays days = (if i < 10 then y + era * 400 else y + era * 400 + 1,
      if i < 10 then i + 3 else i - 9, n - (153 * i + 2) / 5 + 1) := by
  unfold civilFromDays
  dsimp only
  generalize hera : (days + 719468) / 146097 = era
  generalize hd : (days + 719468) % 146097 = d
  generalize hy : (d - d / 1460 + d / 36524 - d / 146096) / 365 = y
  obtain ⟨⟨hy₀, hy₁⟩, hn₀, hn₁, hleap⟩ := yearOfEra_spec (by omega) (by omega) hy.symm
  generalize hn : d - (365 * y + y / 4 - y / 100) = n at hn₀ hn₁ hleap ⊢
  generalize hi : (5 * n + 2) / 153 = i
  refine ⟨era, y, n, i, hy₀, hy₁, hn₀, hn₁, hleap, hi.symm, by omega, ?_⟩
  by_cases hearly : i < 10
  · rw [if_pos hearly, if_pos hearly, if_neg (by omega)]
  · rw [if_neg hearly, if_neg hearly, if_pos (by omega)]

theorem civilFromDays_injective {a b : ℤ} (h : civilFromDays a = civilFromDays b) : a = b := by
  obtain ⟨era, y, n, i, hy, hy', hn, hn', -, hi, ha, hcivil⟩ := civilFromDays_spec a
  obtain ⟨era', z, m, j, hz, hz', hm, hm', -, hj, hb, hcivil'⟩ := civilFromDays_spec b
  rw [hcivil, hcivil'] at h
  simp only [Prod.mk.injEq] at h
  obtain ⟨hyear, hmonth, hday⟩ := h
  have hindex : i = j := by
    split at hmonth <;> split at hmonth <;> omega
  rw [hindex] at hday hyear
  have hyears : y + era * 400 = z + era' * 400 := by
    split at hyear <;> omega
  have hera : era = era' := by omega
  subst hera
  obtain rfl : y = z := by omega
  omega

/-- Dates from the first of March of the year 0 on are written without signs. -/
theorem civilFromDays_nonneg {days : ℤ} (h : -719468 ≤ days) : 0 ≤ (civilFromDays days).1 ∧
    0 ≤ (civilFromDays days).2.1 ∧ 0 ≤ (civilFromDays days).2.2 := by
  obtain ⟨era, y, n, i, hy, hy', hn, hn', -, hi, hdays, hcivil⟩ := civilFromDays_spec days
  rw [hcivil]
  have hera : 0 ≤ era := by omega
  refine ⟨?_, ?_, ?_⟩
  · dsimp only
    split <;> omega
  · dsimp only
    split <;> omega
  · dsimp only
    omega

/-! ### Texts -/

theorem isDigit_of_mem_zeroFill {width : ℕ} {n : ℤ} {c : Char}
    (h : c ∈ (zeroFill width n).toList) : c.isDigit = true := by
  unfold zeroFill at h
  rw [String.toList_ofList] at h
  rcases List.mem_append.mp h with h | h
  · rw [(List.mem_replicate.mp h).2]
    rfl
  · exact Nat.isDigit_of_mem_toDigits (by decide) (by decide) h

theorem zeroFill_injective {width : ℕ} {m n : ℤ} (hm : 0 ≤ m) (hn : 0 ≤ n)
    (h : (zeroFill width m).toList = (zeroFill width n).toList) : m = n := by
  have hvalue (k : ℤ) : Nat.ofDigitChars 10 (zeroFill width k).toList 0 = k.natAbs := by
    unfold zeroFill
    rw [String.toList_ofList, Nat.ofDigitChars_append, Nat.ofDigitChars_replicate_zero,
      Nat.mul_zero, Nat.ofDigitChars_ten_toDigits]
  have habs : m.natAbs = n.natAbs := by rw [← hvalue m, ← hvalue n, h]
  omega

/-- Digits end where something else begins. -/
theorem digits_append_inj {a b x y : List Char} {c d : Char} (ha : ∀ e ∈ a, e.isDigit = true)
    (hb : ∀ e ∈ b, e.isDigit = true) (hc : c.isDigit = false) (hd : d.isDigit = false)
    (h : a ++ c :: x = b ++ d :: y) : a = b ∧ c :: x = d :: y := by
  induction a generalizing b with
  | nil =>
      cases b with
      | nil => exact ⟨rfl, h⟩
      | cons e b =>
          obtain ⟨rfl, -⟩ := List.cons.inj h
          rw [hb c (List.mem_cons_self ..)] at hc
          cases hc
  | cons e a ih =>
      cases b with
      | nil =>
          obtain ⟨rfl, -⟩ := List.cons.inj h
          rw [ha e (List.mem_cons_self ..)] at hd
          cases hd
      | cons e' b =>
          obtain ⟨rfl, htail⟩ := List.cons.inj h
          obtain ⟨rfl, hrest⟩ := ih (fun e he => ha e (List.mem_cons_of_mem _ he))
            (fun e he => hb e (List.mem_cons_of_mem _ he)) htail
          exact ⟨rfl, hrest⟩

theorem zeroFill_append_inj {width : ℕ} {m n : ℤ} {c d : Char} {x y : List Char} (hm : 0 ≤ m)
    (hn : 0 ≤ n) (hc : c.isDigit = false) (hd : d.isDigit = false)
    (h : (zeroFill width m).toList ++ c :: x = (zeroFill width n).toList ++ d :: y) :
    m = n ∧ c :: x = d :: y := by
  obtain ⟨hdigits, hrest⟩ := digits_append_inj (fun _ => isDigit_of_mem_zeroFill)
    (fun _ => isDigit_of_mem_zeroFill) hc hd h
  exact ⟨zeroFill_injective hm hn hdigits, hrest⟩

theorem fraction_append_inj {m n : ℤ} (hm : 0 ≤ m) (hn : 0 ≤ n) {x y : List Char}
    (h : (fraction m).toList ++ '+' :: x = (fraction n).toList ++ '+' :: y) : m = n := by
  have hpoint {k : ℤ} (hk : k ≠ 0) (z : List Char) :
      (fraction k).toList ++ z = '.' :: ((zeroFill 6 k).toList ++ z) := by
    rw [fraction, if_neg hk, String.toList_append]
    rfl
  by_cases hm0 : m = 0 <;> by_cases hn0 : n = 0
  · rw [hm0, hn0]
  · rw [hpoint hn0, hm0] at h
    exact absurd (List.cons.inj h).1 (by decide)
  · rw [hpoint hm0, hn0] at h
    exact absurd (List.cons.inj h).1 (by decide)
  · rw [hpoint hm0, hpoint hn0] at h
    exact (zeroFill_append_inj hm hn rfl rfl (List.cons.inj h).2).1

theorem fraction_append_head (n : ℤ) (x : List Char) :
    ∃ c z, c.isDigit = false ∧ (fraction n).toList ++ '+' :: x = c :: z := by
  unfold fraction
  split
  · exact ⟨'+', x, rfl, rfl⟩
  · rw [String.toList_append]
    exact ⟨'.', _, rfl, rfl⟩

/-- Date and time up to the second. -/
def secondText (seconds : ℤ) : List Char :=
  (zeroFill 4 (civilFromDays (seconds / 86400)).1).toList ++ '-' ::
    ((zeroFill 2 (civilFromDays (seconds / 86400)).2.1).toList ++ '-' ::
      ((zeroFill 2 (civilFromDays (seconds / 86400)).2.2).toList ++ 'T' ::
        ((zeroFill 2 (seconds % 86400 / 3600)).toList ++ ':' ::
          ((zeroFill 2 (seconds % 86400 / 60 % 60)).toList ++ ':' ::
            (zeroFill 2 (seconds % 86400 % 60)).toList))))

theorem isoFormat_toList (instant : ℤ) : (isoFormat instant).toList =
    secondText (instant / 1000000) ++ (fraction (instant % 1000000)).toList := by
  unfold isoFormat secondText
  simp only [String.toList_append, List.append_assoc, List.cons_append]
  rfl

/-- The second is determined by its text when no digit follows. -/
theorem secondText_append_inj {a b : ℤ} (ha : -719468 ≤ a / 86400) (hb : -719468 ≤ b / 86400)
    {c d : Char} {x y : List Char} (hc : c.isDigit = false) (hd : d.isDigit = false)
    (h : secondText a ++ c :: x = secondText b ++ d :: y) : a = b ∧ c :: x = d :: y := by
  unfold secondText at h
  simp only [List.append_assoc, List.cons_append] at h
  obtain ⟨hy, hm, hday⟩ := civilFromDays_nonneg ha
  obtain ⟨hy', hm', hday'⟩ := civilFromDays_nonneg hb
  obtain ⟨hyear, h⟩ := zeroFill_append_inj hy hy' rfl rfl h
  obtain ⟨hmonth, h⟩ := zeroFill_append_inj hm hm' rfl rfl (List.cons.inj h).2
  obtain ⟨hdays, h⟩ := zeroFill_append_inj hday hday' rfl rfl (List.cons.inj h).2
  obtain ⟨hhour, h⟩ := zeroFill_append_inj (by omega) (by omega) rfl rfl (List.cons.inj h).2
  obtain ⟨hminute, h⟩ := zeroFill_append_inj (by omega) (by omega) rfl rfl (List.cons.inj h).2
  obtain ⟨hsecond, h⟩ := zeroFill_append_inj (by omega) (by omega) hc hd (List.cons.inj h).2
  have hdate : a / 86400 = b / 86400 :=
    civilFromDays_injective (Prod.ext hyear (Prod.ext hmonth hdays))
  exact ⟨by omega, h⟩

/-- The text of an instant from the epoch on determines it. -/
theorem isoFormat_append_inj {a b : ℤ} (ha : 0 ≤ a) (hb : 0 ≤ b) {x y : List Char}
    (h : (isoFormat a).toList ++ '+' :: x = (isoFormat b).toList ++ '+' :: y) : a = b := by
  rw [isoFormat_toList, isoFormat_toList, List.append_assoc, List.append_assoc] at h
  obtain ⟨c, z, hc, hz⟩ := fraction_append_head (a % 1000000) x
  obtain ⟨c', z', hc', hz'⟩ := fraction_append_head (b % 1000000) y
  rw [hz, hz'] at h
  obtain ⟨hsecond, h⟩ := secondText_append_inj (by omega) (by omega) hc hc' h
  rw [← hz, ← hz'] at h
  have hmicros := fraction_append_inj (by omega) (by omega) h
  omega

/-- With six digits for the microseconds, also before the epoch. -/
theorem isoFormatMicroseconds_injective {a b : ℤ} (ha : -719468 ≤ a / 1000000 / 86400)
    (hb : -719468 ≤ b / 1000000 / 86400)
    (h : isoFormatMicroseconds a = isoFormatMicroseconds b) : a = b := by
  have hlist (instant : ℤ) : (isoFormatMicroseconds instant).toList =
      secondText (instant / 1000000) ++ '.' :: (zeroFill 6 (instant % 1000000)).toList := by
    have hsecond : (instant - instant % 1000000) / 1000000 = instant / 1000000 := by omega
    have hwhole : (instant - instant % 1000000) % 1000000 = 0 := by omega
    unfold isoFormatMicroseconds
    rw [String.toList_append, String.toList_append, isoFormat_toList, hsecond, hwhole]
    simp [fraction]
  have hchars := congrArg String.toList h
  rw [hlist, hlist] at hchars
  obtain ⟨hsecond, hrest⟩ := secondText_append_inj ha hb rfl rfl hchars
  have hmicros := zeroFill_injective (by omega) (by omega) (List.cons.inj hrest).2
  omega

end SitBank.Python
