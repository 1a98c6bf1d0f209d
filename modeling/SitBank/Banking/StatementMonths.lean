import SitBank.Banking.Statements

/-!
The months of the statements (`sgt_month_bounds_utc`, `_adjacent_period`).

Months are numbered through the years, and the month after `k` is `k + 1`. What a
`datetime` can hold starts with the February of the year 1 in Singapore, as its January
starts in the year 0 in UTC, and ends with the November of 9999, as the end of December is
in the year 10000. The months in between leave no instant out and share none.
-/

namespace SitBank.Banking

open SitBank.Python

/-! ### Neighbouring periods -/

theorem adjacentPeriod_month (year month delta : ℤ) :
    1 ≤ (adjacentPeriod year month delta).2 ∧ (adjacentPeriod year month delta).2 ≤ 12 := by
  unfold adjacentPeriod
  dsimp only
  omega

/-- The number of a month determines it. -/
theorem monthNumber_inj {year month year' month' : ℤ} (h : 1 ≤ month ∧ month ≤ 12)
    (h' : 1 ≤ month' ∧ month' ≤ 12) (heq : monthNumber year month = monthNumber year' month') :
    (year, month) = (year', month') := by
  unfold monthNumber at heq
  rw [Prod.mk.injEq]
  omega

theorem adjacentPeriod_back {year month : ℤ} (h : 1 ≤ month ∧ month ≤ 12) (delta : ℤ) :
    adjacentPeriod (adjacentPeriod year month delta).1
      (adjacentPeriod year month delta).2 (-delta) =
      (year, month) := by
  have hback := monthNumber_adjacent (adjacentPeriod year month delta).1
    (adjacentPeriod year month delta).2 (-delta)
  have hforth : monthNumber (adjacentPeriod year month delta).1
      (adjacentPeriod year month delta).2 +
      -delta = monthNumber year month := by
    rw [monthNumber_adjacent, Int.add_neg_cancel_right]
  exact monthNumber_inj (adjacentPeriod_month ..) h (hback.trans hforth)

/-! ### Where the bounds are dates -/

theorem monthStart_strictMono {k k' : ℤ} (h : k < k') : monthStart k + 28 ≤ monthStart k' := by
  have hstep := (monthStart_succ k).1
  have hrest := monthStart_mono (show k + 1 ≤ k' from h)
  omega

theorem monthStart_le_iff {k k' : ℤ} : monthStart k ≤ monthStart k' ↔ k ≤ k' := by
  constructor
  · intro h
    by_contra hlt
    have := monthStart_strictMono (Int.not_le.mp hlt)
    omega
  · exact monthStart_mono

/-- The bounds of a month, and where `datetime` overflows. -/
theorem sgtMonthBoundsUtc_isOk_iff {year month : ℤ} (h : 1 ≤ month ∧ month ≤ 12) :
    (∃ b, sgtMonthBoundsUtc year month = .ok b) ↔
      monthNumber 1 2 ≤ monthNumber year month ∧ monthNumber year month ≤ monthNumber 9999 11 := by
  have hlater : daysFromCivil year month 28 + 4 = monthStart (monthNumber year month) + 31 := by
    rw [← daysFromCivil_first h.1 h.2]
    unfold daysFromCivil
    omega
  have hlast : daysFromCivil 9999 12 31 = monthStart (monthNumber 9999 12) + 30 := by decide
  have hfirst : daysFromCivil 1 1 1 = monthStart (monthNumber 1 1) := by decide
  -- Both overflows are in the numbers of the months.
  have hend : daysFromCivil 9999 12 31 < daysFromCivil year month 28 + 4 ↔
      monthNumber 9999 12 ≤ monthNumber year month := by
    rw [hlater, hlast, ← monthStart_le_iff]
    omega
  have hstart : sgtMidnight (daysFromCivil year month 1) < daysFromCivil 1 1 1 * 86400000000 ↔
      monthNumber year month ≤ monthNumber 1 1 := by
    rw [daysFromCivil_first h.1 h.2, hfirst, ← monthStart_le_iff]
    unfold sgtMidnight
    omega
  unfold sgtMonthBoundsUtc
  dsimp only
  simp only [hend, hstart]
  unfold monthNumber
  constructor
  · rintro ⟨b, hb⟩
    split at hb
    · cases hb
    split at hb
    · cases hb
    split at hb
    · cases hb
    · omega
  · intro hrange
    rw [if_neg (by omega), if_neg (by omega), if_neg (by omega)]
    exact ⟨_, rfl⟩

/-! ### The months of the instants -/

/-- The instant lies between the bounds of the month. -/
def InMonth (instant year month : ℤ) : Prop :=
  (1 ≤ month ∧ month ≤ 12) ∧
    ∃ b, sgtMonthBoundsUtc year month = .ok b ∧ b.1 ≤ instant ∧ instant < b.2

/-- The instants of the months whose bounds are dates. -/
def InRange (instant : ℤ) : Prop := sgtMonthStart 1 2 ≤ instant ∧ instant < sgtMonthStart 9999 12

theorem sgtMonth_month (instant : ℤ) :
    1 ≤ (sgtMonth instant).2 ∧ (sgtMonth instant).2 ≤ 12 := (civilFromDays_month _).1

/-- The bounds of the month in Singapore are dates. -/
theorem InRange.bounds {instant : ℤ} (h : InRange instant) :
    ∃ b, sgtMonthBoundsUtc (sgtMonth instant).1 (sgtMonth instant).2 = .ok b := by
  have hmonth := sgtMonth_month instant
  have hcivil : sgtMonth instant = ((sgtMonth instant).1, (sgtMonth instant).2) := rfl
  obtain ⟨hstart, hend⟩ := (sgtMonth_eq_iff hmonth.1 hmonth.2).mp hcivil
  obtain ⟨hfirst, hlast⟩ := h
  unfold sgtMonthStart at hfirst hlast
  rw [sgtMonthBoundsUtc_isOk_iff hmonth]
  constructor
  · by_contra hbefore
    have := monthStart_mono (show monthNumber (sgtMonth instant).1 (sgtMonth instant).2 + 1 ≤
      monthNumber 1 2 by omega)
    unfold sgtMidnight at hend hfirst
    omega
  · by_contra hafter
    have hnext : monthNumber 9999 12 = monthNumber 9999 11 + 1 := rfl
    have := monthStart_mono (show monthNumber 9999 12 ≤
      monthNumber (sgtMonth instant).1 (sgtMonth instant).2 by omega)
    unfold sgtMidnight at hstart hlast
    omega

theorem inMonth_iff {instant : ℤ} (h : InRange instant) (year month : ℤ) :
    InMonth instant year month ↔ sgtMonth instant = (year, month) := by
  constructor
  · rintro ⟨hmonth, b, hb, hstart, hend⟩
    rw [sgtMonth_eq_iff hmonth.1 hmonth.2]
    rw [sgtMonthBoundsUtc_ok hmonth.1 hmonth.2 hb] at hstart hend
    exact ⟨hstart, hend⟩
  · intro hcivil
    have hmonth := sgtMonth_month instant
    obtain ⟨b, hb⟩ := h.bounds
    rw [hcivil] at hmonth hb
    have hbetween := (sgtMonth_eq_iff hmonth.1 hmonth.2).mp hcivil
    refine ⟨hmonth, b, hb, ?_⟩
    rw [sgtMonthBoundsUtc_ok hmonth.1 hmonth.2 hb]
    exact hbetween

/-! ### The statement of a transaction -/

/-- The statement of the period lists the transaction. -/
def ListedIn (db : BankDb) (now : ℤ) (id : ℕ) (accountCreatedAt : Option ℤ) (txn : Transaction)
    (year month : ℤ) : Prop :=
  ∃ s, statementForPeriod db now id accountCreatedAt year month = .ok s ∧ txn ∈ s.transactions

section Listed

variable {db : BankDb} {now : ℤ} {id : ℕ} {accountCreatedAt : Option ℤ} {txn : Transaction}

theorem mem_statement_iff {year month : ℤ} {s : Statement} (htxn : txn ∈ transactionRows db.log)
    (hinv : txn.involves id = true)
    (hs : statementForPeriod db now id accountCreatedAt year month = .ok s) :
    txn ∈ s.transactions ↔ sgtMonth txn.createdAt = (year, month) := by
  rw [(statement_listed hs).mem_iff]
  simp [htxn, hinv]

/-- Whatever is known of the account, no other statement lists the transaction. -/
theorem sgtMonth_of_listedIn {year month : ℤ} (htxn : txn ∈ transactionRows db.log)
    (hinv : txn.involves id = true) (h : ListedIn db now id accountCreatedAt txn year month) :
    sgtMonth txn.createdAt = (year, month) := by
  obtain ⟨s, hs, hmem⟩ := h
  exact (mem_statement_iff htxn hinv hs).mp hmem

theorem listedIn_sgtMonth {user : User} (hu : db.row (.user id) = some user)
    (htxn : txn ∈ transactionRows db.log) (hinv : txn.involves id = true)
    (hrange : InRange txn.createdAt) (hborn : ∀ t, accountCreatedAt = some t → t ≤ txn.createdAt)
    (hnow : txn.createdAt ≤ now) :
    ListedIn db now id accountCreatedAt txn (sgtMonth txn.createdAt).1
      (sgtMonth txn.createdAt).2 := by
  obtain ⟨b, hb⟩ := hrange.bounds
  obtain ⟨s, hs⟩ := statement_available hu hborn hnow (by rw [hb]; rfl)
  exact ⟨s, hs, (mem_statement_iff htxn hinv hs).mpr rfl⟩

end Listed

/-- The months follow one another without a gap, and a transaction is in the statement of
its month in Singapore only. -/
theorem statement_months_tile :
    (∀ year month, 1 ≤ month ∧ month ≤ 12 →
      ((∃ b, sgtMonthBoundsUtc year month = .ok b) ↔
        monthNumber 1 2 ≤ monthNumber year month ∧ monthNumber year month ≤ monthNumber 9999 11) ∧
      (∀ b b', sgtMonthBoundsUtc year month = .ok b →
        sgtMonthBoundsUtc (adjacentPeriod year month 1).1 (adjacentPeriod year month 1).2 = .ok b' →
        b.2 = b'.1) ∧
      adjacentPeriod (adjacentPeriod year month 1).1 (adjacentPeriod year month 1).2 (-1) =
        (year, month) ∧
      adjacentPeriod (adjacentPeriod year month (-1)).1 (adjacentPeriod year month (-1)).2 1 =
        (year, month)) ∧
    (∀ instant, InRange instant → ∀ year month,
      InMonth instant year month ↔ sgtMonth instant = (year, month)) ∧
    -- a statement is refused before the account was made and for the future
    ∀ db now id user accountCreatedAt, db.row (.user id) = some user →
      ∀ txn ∈ transactionRows db.log, txn.involves id = true → InRange txn.createdAt →
      (∀ year month, ListedIn db now id accountCreatedAt txn year month →
        sgtMonth txn.createdAt = (year, month)) ∧
      ((∀ t, accountCreatedAt = some t → t ≤ txn.createdAt) → txn.createdAt ≤ now →
        ListedIn db now id accountCreatedAt txn (sgtMonth txn.createdAt).1
          (sgtMonth txn.createdAt).2) := by
  refine ⟨fun year month hmonth => ⟨sgtMonthBoundsUtc_isOk_iff hmonth, fun b b' hb hb' => ?_,
    adjacentPeriod_back hmonth 1, adjacentPeriod_back hmonth (-1)⟩,
    fun instant h year month => inMonth_iff h year month,
    fun db now id user accountCreatedAt hu txn htxn hinv hrange =>
      ⟨fun year month => sgtMonth_of_listedIn htxn hinv, listedIn_sgtMonth hu htxn hinv hrange⟩⟩
  have hnext := adjacentPeriod_month year month 1
  rw [sgtMonthBoundsUtc_ok hmonth.1 hmonth.2 hb, sgtMonthBoundsUtc_ok hnext.1 hnext.2 hb']
  unfold sgtMonthStart
  rw [monthNumber_adjacent]

end SitBank.Banking
