import SitBank.Banking.Statements
import SitBank.Python.Csv
import SitBank.Python.Decimal
import SitBank.Python.Dict

/-!
The download of a statement as CSV (`statement_download`, `_csv_safe`).

A spreadsheet takes a cell for a formula when its first character that is not blank is one of
four. Names and references come from people, so such a cell gets an apostrophe in front. The
other cells are dates, fixed words and amounts, and only a negative amount starts like a formula.
-/

namespace SitBank.Banking

open SitBank.Python

/-! ### Cells -/

/-- `_CSV_FORMULA_TRIGGER_CHARS`. -/
def formulaTrigger (c : ℕ) : Bool := c = 61 || c = 43 || c = 45 || c = 64

/-- The class of `_CSV_LEADING_NEUTRAL_RE`. -/
def leadingNeutral (c : ℕ) : Bool := c ≤ 32 || c = 127

/-- What a spreadsheet takes for a formula. -/
def startsFormula (cell : PyStr) : Bool :=
  (cell.dropWhile leadingNeutral).head?.any formulaTrigger

def csvSafe (text : PyStr) : PyStr := if startsFormula text then 39 :: text else text

/-- `strftime("%Y-%m-%d %H:%M")`, for years of four digits. -/
def minuteText (date : ℤ × ℤ × ℤ) (minute : ℤ) : PyStr :=
  .ofString (zeroFill 4 date.1 ++ "-" ++ zeroFill 2 date.2.1 ++ "-" ++ zeroFill 2 date.2.2 ++ " " ++
    zeroFill 2 (minute / 60) ++ ":" ++ zeroFill 2 (minute % 60))

/-- The text of `txn.created_at.astimezone(_SGT_STATEMENT_OFFSET)`. -/
def statementDate (createdAt : ℤ) : PyStr :=
  let minutes := (createdAt + 28800000000) / 60000000
  minuteText (civilFromDays (minutes / 1440)) (minutes % 1440)

example : statementDate 0 = .ofString "1970-01-01 08:00" := by decide +kernel

/-- `f"{txn.amount}"`; amounts are positive. -/
def amountText (amount : ℤ) : PyStr :=
  .ofString (Decimal.mk false amount.toNat (-2)).formatFixed

def typeText (type : TransactionType) : PyStr :=
  .ofString (if type = .payup then "PayUp" else "Local Transfer")

def statusText : TransactionStatus → PyStr
  | .completed => .ofString "completed"
  | .failed => .ofString "failed"

/-! ### The counterparty -/

/-- What a statement shows of an account. -/
structure Party where
  fullName : PyStr
  username : PyStr
  phoneNumber : Option PyStr
  payupNickname : Option PyStr

/-- `a or b`. -/
def orElseText (a b : PyStr) : PyStr := if a = [] then b else a

/-- `_payup_nickname_value`. -/
def payupNicknameValue (party : Party) : PyStr :=
  let nickname := (party.payupNickname.getD []).strip
  if nickname.length < 2 ∨ 128 < nickname.length then []
  else if nickname.any fun c => c < 32 || c = 127 then []
  else nickname

/-- `_statement_counterparty_name`. -/
def statementCounterpartyName (txn : Transaction) (isSender : Bool) (counterparty : Option Party) :
    PyStr :=
  match counterparty with
  | none =>
      if txn.transactionType = .payup then
        .ofString (if isSender then "PayUp recipient" else "PayUp sender")
      else []
  | some party =>
      if txn.transactionType = .payup then
        orElseText (payupNicknameValue party)
          (if isSender then
            orElseText (party.phoneNumber.getD []) (.ofString "PayUp recipient")
          else .ofString "PayUp sender")
      else orElseText party.fullName party.username

/-! ### The download -/

def csvHeader : List PyStr :=
  ["Date", "Type", "Counterparty", "Reference", "Amount (SGD)", "Status"].map .ofString

def statementRow (parties : ℕ → Option Party) (id : ℕ) (txn : Transaction) : List PyStr :=
  let isSender : Bool := txn.senderId = id
  let counterparty := parties (if isSender then txn.recipientId else txn.senderId)
  [statementDate txn.createdAt,
    typeText txn.transactionType,
    csvSafe (statementCounterpartyName txn isSender counterparty),
    csvSafe (.ofString txn.reference),
    (if isSender then [45] else []) ++ amountText txn.amount,
    statusText txn.status]

def statementCsv (parties : ℕ → Option Party) (id : ℕ) (transactions : List Transaction) : PyStr :=
  writerow csvHeader ++ writerows (transactions.map (statementRow parties id))

/-- The text of the response. -/
def statementDownload (db : BankDb) (parties : ℕ → Option Party) (now : ℤ) (id : ℕ)
    (accountCreatedAt : Option ℤ) (year month : ℤ) : Except StatementError PyStr :=
  (statementForPeriod db now id accountCreatedAt year month).map fun data =>
    statementCsv parties id data.transactions

/-! ### What a spreadsheet makes of it -/

theorem startsFormula_of_head {c : ℕ} {cell : PyStr} (hc : leadingNeutral c = false) :
    startsFormula (c :: cell) = formulaTrigger c := by
  simp [startsFormula, hc]

theorem startsFormula_csvSafe (text : PyStr) : startsFormula (csvSafe text) = false := by
  unfold csvSafe
  split
  · exact startsFormula_of_head (by decide)
  · next h => exact Bool.eq_false_iff.mpr h

/-- A text that starts with a digit is no formula. -/
theorem startsFormula_digit {s : String} {c : Char} (hs : s.toList.head? = some c)
    (hc : c.isDigit = true) : startsFormula (.ofString s) = false := by
  have hcode : 48 ≤ c.toNat ∧ c.toNat ≤ 57 := by
    simp only [Char.isDigit, Bool.and_eq_true, decide_eq_true_eq, ge_iff_le,
      UInt32.le_iff_toNat_le] at hc
    exact hc
  have htrigger : formulaTrigger c.toNat = false := by
    simp only [formulaTrigger, Bool.or_eq_false_iff, decide_eq_false_iff_not]
    omega
  have hneutral : leadingNeutral c.toNat = false := by
    simp only [leadingNeutral, Bool.or_eq_false_iff, decide_eq_false_iff_not]
    omega
  obtain ⟨rest, hrest⟩ := List.head?_eq_some_iff.mp hs
  rw [PyStr.ofString, hrest, List.map_cons, startsFormula_of_head hneutral, htrigger]

theorem zeroFill_head (width : ℕ) (n : ℤ) : ∃ c, (zeroFill width n).toList.head? = some c ∧
    c.isDigit = true := by
  cases h : (zeroFill width n).toList with
  | nil =>
      rw [zeroFill, String.toList_ofList, List.append_eq_nil_iff] at h
      exact absurd h.2 Nat.toDigits_ne_nil
  | cons c rest =>
      have hmem : c ∈ (zeroFill width n).toList := by
        rw [h]
        exact .head _
      exact ⟨c, rfl, isDigit_of_mem_zeroFill hmem⟩

theorem startsFormula_minuteText (date : ℤ × ℤ × ℤ) (minute : ℤ) :
    startsFormula (minuteText date minute) = false := by
  obtain ⟨c, hyear, hc⟩ := zeroFill_head 4 date.1
  refine startsFormula_digit (c := c) ?_ hc
  simp only [String.toList_append, List.head?_append, hyear, Option.some_or]

theorem startsFormula_amountText (amount : ℤ) : startsFormula (amountText amount) = false := by
  have hdigits : Nat.toDigits 10 (amount.toNat / 100) ≠ [] := Nat.toDigits_ne_nil
  obtain ⟨c, hc⟩ := Option.ne_none_iff_exists'.mp (List.head?_eq_none_iff.not.mpr hdigits)
  refine startsFormula_digit (c := c) ?_
    (Nat.isDigit_of_mem_toDigits (by decide) (by decide) (List.mem_of_head? hc))
  rw [formatFixed_toList, if_neg Bool.false_ne_true, List.nil_append, List.head?_append, hc]
  rfl

/-- The cells of a row, and which of them can start like a formula. -/
theorem formula_is_amount (parties : ℕ → Option Party) (id : ℕ) (txn : Transaction) :
    ∀ cell ∈ statementRow parties id txn, startsFormula cell = true →
      txn.senderId = id ∧ cell = 45 :: amountText txn.amount := by
  intro cell hcell hformula
  have hsafe : ∀ text, cell = text → startsFormula text = false → False := by
    rintro text rfl hno
    exact Bool.false_ne_true (hno.symm.trans hformula)
  simp only [statementRow, List.mem_cons, List.not_mem_nil, or_false] at hcell
  rcases hcell with h | h | h | h | h | h
  · exact (hsafe _ h (startsFormula_minuteText _ _)).elim
  · refine (hsafe _ h ?_).elim
    unfold typeText
    split <;> decide +kernel
  · exact (hsafe _ h (startsFormula_csvSafe _)).elim
  · exact (hsafe _ h (startsFormula_csvSafe _)).elim
  · by_cases hsender : txn.senderId = id
    · simp only [hsender, decide_true, if_true] at h
      exact ⟨hsender, h⟩
    · simp only [hsender, decide_false, Bool.false_eq_true, if_false, List.nil_append] at h
      exact (hsafe _ h (startsFormula_amountText _)).elim
  · refine (hsafe _ h ?_).elim
    cases txn.status <;> decide +kernel

theorem statementCsv_rows (parties : ℕ → Option Party) (id : ℕ)
    (transactions : List Transaction) : readerRows (statementCsv parties id transactions) =
      .ok (csvHeader :: transactions.map (statementRow parties id)) := by
  rw [statementCsv, readerRows_writerow, readerRows_writerows]
  rfl

/-- Whatever names and references contain, the download of a statement is read back as the
header and one row for each transaction of the period, in their order, and no cell of it is a
formula but the amounts that were sent. -/
theorem statement_download_rows {db : BankDb} {parties : ℕ → Option Party} {now : ℤ} {id : ℕ}
    {accountCreatedAt : Option ℤ} {year month : ℤ} {text : PyStr}
    (h : statementDownload db parties now id accountCreatedAt year month = .ok text) :
    ∃ data, statementForPeriod db now id accountCreatedAt year month = .ok data ∧
      readerRows text = .ok (csvHeader :: data.transactions.map (statementRow parties id)) ∧
      (∀ txn ∈ data.transactions, ∀ cell ∈ statementRow parties id txn,
        startsFormula cell = true → txn.senderId = id ∧ cell = 45 :: amountText txn.amount) ∧
      ∀ cell ∈ csvHeader, startsFormula cell = false := by
  unfold statementDownload at h
  cases hdata : statementForPeriod db now id accountCreatedAt year month with
  | error e =>
      rw [hdata] at h
      cases h
  | ok data =>
      rw [hdata] at h
      cases h
      exact ⟨data, rfl, statementCsv_rows parties id data.transactions,
        fun txn _ => formula_is_amount parties id txn, by decide +kernel⟩

/-- One transfer sent and one PayUp transfer received, in July 2026. -/
def exportDb : BankDb :=
  { sampleDb with
    log := [.transaction ⟨"t1", 1, 2, some 1, 1250, "-rent", .completed, .localTransfer,
        1783000000000000⟩ none true,
      .transaction ⟨"t2", 2, 1, none, 5, "\"lunch\"", .completed, .payup, 1783100000000000⟩
        none true] }

def exportParties (id : ℕ) : Option Party :=
  if id = 2 then some ⟨.ofString "=1+1, \"Ltd\"", .ofString "u2", none, none⟩ else none

/-- The name and the reference that start like formulas are quoted, the amount is not. -/
def exportedText : PyStr := .ofString
  ("Date,Type,Counterparty,Reference,Amount (SGD),Status\r\n" ++
    "2026-07-02 21:46,Local Transfer,\"'=1+1, \"\"Ltd\"\"\",'-rent,-12.50,completed\r\n" ++
    "2026-07-04 01:33,PayUp,PayUp sender,\"\"\"lunch\"\"\",0.05,completed\r\n")

theorem statement_download_rows_july :
    statementDownload exportDb exportParties 1784000000000000 1 none 2026 7 = .ok exportedText ∧
      ∃ data, statementForPeriod exportDb 1784000000000000 1 none 2026 7 = .ok data ∧
        readerRows exportedText =
          .ok (csvHeader :: data.transactions.map (statementRow exportParties 1)) := by
  have h : statementDownload exportDb exportParties 1784000000000000 1 none 2026 7 =
      .ok exportedText := by decide +kernel
  obtain ⟨data, hdata, hrows, -, -⟩ := statement_download_rows h
  exact ⟨h, data, hdata, hrows⟩

end SitBank.Banking
