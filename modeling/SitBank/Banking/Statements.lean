import SitBank.Banking.Conservation
import SitBank.Python.Calendar
import Mathlib.Algebra.BigOperators.Group.List.Basic
import Mathlib.Data.List.Sort

/-!
Monthly statements (`statement_for_period`).

There is no balance in the history of an account. A statement takes the balance of
today and goes back: the closing balance is the balance less the transactions after
the period, the opening balance is the closing balance less those within it. A
transaction counts as sent when the account is its sender, and as received otherwise.
The transaction that documents a top-up has the account on both sides, so it is taken
for money sent: the figures before a top-up are off by twice its amount.
-/

namespace SitBank.Banking

open SitBank.Interaction SitBank.Orm SitBank.Python

/-! ### The period -/

inductive StatementError
  | auth (message : String) (status : ℕ)
  | valueError
  | overflowError
  | invalidRequest
  deriving DecidableEq, Repr

/-- Midnight in Singapore at the start of a day. -/
def sgtMidnight (day : ℤ) : ℤ := day * 86400000000 - 28800000000

/-- The UTC instants of the calendar month in Singapore. A `datetime` is in the
years from 1 to 9999. -/
def sgtMonthBoundsUtc (year month : ℤ) : Except StatementError (ℤ × ℤ) :=
  let startSgt := daysFromCivil year month 1
  let later := daysFromCivil year month 28 + 4
  let endSgt := daysFromCivil (civilFromDays later).1 (civilFromDays later).2.1 1
  if year < 1 ∨ 9999 < year then .error .valueError
  else if daysFromCivil 9999 12 31 < later then .error .overflowError
  else if sgtMidnight startSgt < daysFromCivil 1 1 1 * 86400000000 then .error .overflowError
  else .ok (sgtMidnight startSgt, sgtMidnight endSgt)

/-! ### The statement -/

/-- The rows of `transactions`, in the order of their ids. -/
def transactionRows (log : List Ledger) : List Transaction :=
  log.filterMap fun
    | .transaction txn _ _ => some txn
    | _ => none

/-- `sender_id == user.id or recipient_id == user.id`. -/
def Transaction.involves (id : ℕ) (txn : Transaction) : Bool :=
  txn.senderId = id || txn.recipientId = id

/-- `-signed if sender_id == user.id else signed`. -/
def Transaction.signed (id : ℕ) (txn : Transaction) : ℤ :=
  if txn.senderId = id then -txn.amount else txn.amount

/-- `start <= created_at < end`, with a bound that may be missing. -/
def Transaction.inPeriod (start stop : Option ℤ) (txn : Transaction) : Bool :=
  start.all (fun t => t ≤ txn.createdAt) && stop.all fun t => txn.createdAt < t

def signedNetAmount (id : ℕ) (start stop : Option ℤ) (log : List Ledger) : ℤ :=
  ((transactionRows log).filter fun txn =>
      txn.involves id && txn.status = .completed && txn.inPeriod start stop).foldl
    (fun net txn => net + txn.signed id) 0

structure Statement where
  periodStart : ℤ
  periodEnd : ℤ
  openingBalance : ℤ
  closingBalance : ℤ
  transactions : List Transaction
  deriving DecidableEq, Repr

def futurePeriod : StatementError := .auth "Cannot generate a statement for a future period." 400

def noAccountYet : StatementError :=
  .auth "This account did not exist yet during the requested period." 400

/-- What is computed from the account, which is read again before its balance is
used. -/
def statementOf (db : BankDb) (id : ℕ) (user : User) (periodStart periodEnd : ℤ) : Statement :=
  let closingBalance := user.balance - signedNetAmount id (some periodEnd) none db.log
  let transactions := ((transactionRows db.log).filter fun txn =>
    txn.involves id && txn.inPeriod (some periodStart) (some periodEnd)).insertionSort
      fun txn txn' => txn.createdAt ≤ txn'.createdAt
  let netWithin := transactions.foldl (fun net txn =>
    if txn.status ≠ .completed then net else net + txn.signed id) 0
  ⟨periodStart, periodEnd, closingBalance - netWithin, closingBalance, transactions⟩

def statementForPeriod (db : BankDb) (now : ℤ) (id : ℕ) (accountCreatedAt : Option ℤ)
    (year month : ℤ) : Except StatementError Statement :=
  if month < 1 ∨ 12 < month then .error (.auth "Enter a valid month." 400)
  else
    match sgtMonthBoundsUtc year month with
    | .error e => .error e
    | .ok (periodStart, periodEnd) =>
        if now < periodStart then .error futurePeriod
        else if accountCreatedAt.any fun t => periodEnd ≤ t then .error noAccountYet
        else
          match db.row (.user id) with
          | none => .error .invalidRequest
          | some user => .ok (statementOf db id user periodStart periodEnd)

/-! ### What the period is -/

/-- The month of a year, numbered as in `monthStart`. -/
def monthNumber (year month : ℤ) : ℤ := 12 * year + month - 1

/-- The instant at which a month starts in Singapore. -/
def sgtMonthStart (year month : ℤ) : ℤ := sgtMidnight (monthStart (monthNumber year month))

/-- The month in Singapore at an instant. -/
def sgtMonth (instant : ℤ) : ℤ × ℤ :=
  let date := civilFromDays ((instant + 28800000000) / 86400000000)
  (date.1, date.2.1)

theorem daysFromCivil_first {year month : ℤ} (h : 1 ≤ month) (h' : month ≤ 12) :
    daysFromCivil year month 1 = monthStart (monthNumber year month) := by
  have hyear : monthNumber year month / 12 = year := by unfold monthNumber; omega
  have hmonth : monthNumber year month % 12 + 1 = month := by unfold monthNumber; omega
  unfold monthStart
  rw [hyear, hmonth]

/-- Four days after the 28th it is the next month. -/
theorem monthOf_later (k : ℤ) : monthOf (monthStart k + 31) = k + 1 := by
  have h := monthStart_succ k
  have hnext := monthStart_succ (k + 1)
  rw [monthOf_eq_iff]
  omega

theorem sgtMonthBoundsUtc_ok {year month : ℤ} {b : ℤ × ℤ} (h : 1 ≤ month) (h' : month ≤ 12)
    (hb : sgtMonthBoundsUtc year month = .ok b) :
    b = (sgtMonthStart year month, sgtMidnight (monthStart (monthNumber year month + 1))) := by
  have hlater : daysFromCivil year month 28 + 4 = monthStart (monthNumber year month) + 31 := by
    rw [← daysFromCivil_first h h']
    unfold daysFromCivil
    omega
  have hend : daysFromCivil (civilFromDays (daysFromCivil year month 28 + 4)).1
      (civilFromDays (daysFromCivil year month 28 + 4)).2.1 1 =
      monthStart (monthNumber year month + 1) := by
    obtain ⟨hmonth, -⟩ := civilFromDays_month (daysFromCivil year month 28 + 4)
    rw [daysFromCivil_first hmonth.1 hmonth.2]
    rw [hlater] at hmonth ⊢
    rw [← monthOf_later]
    rfl
  unfold sgtMonthBoundsUtc at hb
  dsimp only at hb
  rw [hend, daysFromCivil_first h h'] at hb
  split at hb
  · cases hb
  split at hb
  · cases hb
  split at hb
  · cases hb
  · exact (Except.ok.inj hb).symm

/-- When a statement is returned, and what it says. -/
theorem statementForPeriod_ok {db : BankDb} {now : ℤ} {id : ℕ} {accountCreatedAt : Option ℤ}
    {year month : ℤ} {s : Statement} :
    statementForPeriod db now id accountCreatedAt year month = .ok s ↔
      ∃ b user, (1 ≤ month ∧ month ≤ 12) ∧ sgtMonthBoundsUtc year month = .ok b ∧ b.1 ≤ now ∧
        (∀ t, accountCreatedAt = some t → t < b.2) ∧ db.row (.user id) = some user ∧
        s = statementOf db id user b.1 b.2 := by
  unfold statementForPeriod
  constructor
  · intro h
    split at h
    · cases h
    next hmonth =>
      split at h
      · cases h
      next a b hb =>
        split at h
        · cases h
        next hnow =>
          split at h
          · cases h
          next hborn =>
            split at h
            · cases h
            next user hu =>
              refine ⟨(a, b), user, by omega, hb, by omega, fun t ht => ?_, hu,
                (Except.ok.inj h).symm⟩
              rw [ht] at hborn
              simpa using hborn
  · rintro ⟨b, user, hmonth, hb, hnow, hborn, hu, rfl⟩
    -- the account was opened before the month ended
    have hany : ¬(accountCreatedAt.any fun t => decide (b.2 ≤ t)) = true := by
      intro hany
      obtain ⟨t, ht, hle⟩ := (Option.any_eq_true ..).mp hany
      have := hborn t ht
      simp only [decide_eq_true_eq] at hle
      omega
    rw [if_neg (by omega), hb, hu]
    dsimp only
    rw [if_neg (by omega), if_neg hany]

/-! ### Sums over the transactions -/

/-- The signed amounts of the completed transactions of the account with `p`. -/
def net (id : ℕ) (p : Transaction → Bool) (log : List Ledger) : ℤ :=
  (((transactionRows log).filter fun txn =>
    txn.involves id && txn.status = .completed && p txn).map (·.signed id)).sum

theorem net_append (id : ℕ) (p : Transaction → Bool) (log log' : List Ledger) :
    net id p (log ++ log') = net id p log + net id p log' := by
  simp [net, transactionRows]

theorem signedNetAmount_eq (id : ℕ) (start stop : Option ℤ) (log : List Ledger) :
    signedNetAmount id start stop log = net id (·.inPeriod start stop) log := by
  unfold signedNetAmount net
  rw [List.sum_eq_foldl, List.foldl_map]

/-- The loop over the listed transactions skips those that failed. -/
theorem netWithin_eq (id : ℕ) (txns : List Transaction) (n : ℤ) :
    txns.foldl (fun net txn => if txn.status ≠ .completed then net else net + txn.signed id) n =
      n + ((txns.filter (·.status = .completed)).map (·.signed id)).sum := by
  induction txns generalizing n with
  | nil => simp
  | cons txn txns ih =>
      rw [List.foldl_cons, ih]
      by_cases hc : txn.status = .completed
      · simp [hc]
        omega
      · simp [hc]

theorem netWithin_sorted (id : ℕ) (a b : ℤ) (log : List Ledger) :
    (((transactionRows log).filter fun txn =>
        txn.involves id && txn.inPeriod (some a) (some b)).insertionSort
      fun txn txn' => txn.createdAt ≤ txn'.createdAt).foldl
        (fun net txn => if txn.status ≠ .completed then net else net + txn.signed id) 0 =
      net id (·.inPeriod (some a) (some b)) log := by
  rw [netWithin_eq, Int.zero_add]
  have hperm := (List.perm_insertionSort
    (fun txn txn' : Transaction => txn.createdAt ≤ txn'.createdAt)
    ((transactionRows log).filter fun txn =>
      txn.involves id && txn.inPeriod (some a) (some b))).filter (·.status = .completed)
  rw [(hperm.map (·.signed id)).sum_eq, List.filter_filter]
  unfold net
  congr 3
  funext txn
  cases txn.involves id <;> simp [Bool.and_comm]

/-- From the start on is within the period and after it. -/
theorem net_split (id : ℕ) {a b : ℤ} (h : a ≤ b) (log : List Ledger) :
    net id (·.inPeriod (some a) none) log =
      net id (·.inPeriod (some a) (some b)) log + net id (·.inPeriod (some b) none) log := by
  induction log with
  | nil => rfl
  | cons e log ih =>
      have hcons : ∀ p, net id p (e :: log) = net id p [e] + net id p log := fun p =>
        net_append id p [e] log
      rw [hcons, hcons, hcons, ih]
      have hone : net id (·.inPeriod (some a) none) [e] =
          net id (·.inPeriod (some a) (some b)) [e] + net id (·.inPeriod (some b) none) [e] := by
        cases e with
        | topUpCredit credit request => rfl
        | registrationCredit credit => rfl
        | transaction txn k authorized =>
            by_cases hi : (txn.involves id && decide (txn.status = .completed)) = true
            · by_cases ha : a ≤ txn.createdAt
              · by_cases hb : b ≤ txn.createdAt
                · simp [net, transactionRows, Transaction.inPeriod, hi, ha, hb, Int.not_lt.mpr hb]
                · simp [net, transactionRows, Transaction.inPeriod, hi, ha, hb, Int.not_le.mp hb]
              · have hb : ¬b ≤ txn.createdAt := by omega
                simp [net, transactionRows, Transaction.inPeriod, hi, ha, hb]
            · simp [net, transactionRows, eq_false_of_ne_true hi]
      omega

/-! ### Histories -/

/-- The ledgers that registrations, transfers and top-ups produce. -/
inductive History : List Ledger → Prop
  | nil : History []
  | register (log : List Ledger) (credit : Credit) (h : History log) :
      History (log ++ [.registrationCredit credit])
  | transfer (log : List Ledger) (txn : Transaction) (k : Option Key) (authorized : Bool)
      (h : History log) (hm : txn.moves = true) (hne : txn.senderId ≠ txn.recipientId)
      (hpos : 0 < txn.amount) : History (log ++ [.transaction txn k authorized])
  | topUp (log : List Ledger) (credit : Credit) (request : String) (h : History log)
      (hpos : 0 < credit.amount) :
      History (log ++ [.topUpCredit credit request, .transaction
        (topUpTransaction credit) none true])

/-- The requests keep the ledger such a history. -/
theorem History.step {P : User → User → Prop} {K : ℕ → BankDb → ℤ → Prop}
    {R : Prop} {cfg : Config} {t : ℕ} {w : BankWorld} {d : BankDb}
    (h : History w.db.log) (hs : BankStep P K R cfg t w d) : History d.log := by
  have hmoves : ∀ {txn : Transaction} {k : Key} {a : Bool} {c s c' s' : User},
      Deal P K t w txn c s c' s' → Moves w d txn k a c s c' s' → txn.transactionType ≠ .topup →
      History d.log := by
    intro txn k a c s c' s' hd hm htype
    rw [hm.log]
    exact .transfer _ _ _ _ h (by simp [Transaction.moves, hd.completed, htype]) hd.distinct
      (amount_pos hd.bounds)
  cases hs with
  | localTransfer txn token p q n c s c' s' hd hm hp =>
      exact hmoves hd.toDeal hm (by rw [hd.type]; decide)
  | payupTransfer txn token p n a c s c' s' hd hm hp =>
      exact hmoves hd.toDeal hm (by rw [hd.type]; decide)
  | topUp credit selector l q n c s hs =>
      rw [hs.log]
      exact .topUp _ _ _ h (amount_pos hs.bounds)
  | consume token p n hp hr => rwa [hr.log]
  | consumePayup token p n hp hr => rwa [hr.log]
  | close selector q q' hq hr => rwa [hr.log]
  | freeze id s s' hf hr => rwa [hr.log]
  | limits id s s' hl hr => rwa [hr.log]

/-- Every run of requests leaves a history. -/
theorem history_of_reach (cfg : Config) (before : ℕ → List Before) (requests : ℕ → Request)
    (db : BankDb) (clock : ℤ) (h₀ : History db.log) (y : BankConf)
    (h : Reach exec (stepCond (fun _ _ => True) (fun _ _ _ => True)
      False) (start cfg before requests db clock) y) : History y.world.db.log :=
  reach_preserves (J := fun d => History d.log) (fun _ _ _ hw hs => hw.step hs) h₀ h

/-! ### The balance at an instant -/

/-- The entries created before the instant, and the initial credit. -/
def countsAt (t : ℤ) : Ledger → Bool
  | .registrationCredit _ => true
  | .topUpCredit credit _ => credit.createdAt < t
  | .transaction txn _ _ => txn.createdAt < t

/-- The balance of the account at an instant. -/
def balanceAt (id : ℕ) (t : ℤ) (log : List Ledger) : ℤ :=
  ledgerBalance id (log.filter (countsAt t))

/-- A top-up of the account at the instant or after it. -/
def isTopUpSince (id : ℕ) (t : ℤ) : Ledger → Bool
  | .topUpCredit credit _ => credit.userId = id && t ≤ credit.createdAt
  | _ => false

theorem ledgerBalance_append (id : ℕ) (log log' : List Ledger) :
    ledgerBalance id (log ++ log') = ledgerBalance id log + ledgerBalance id log' := by
  simp only [ledgerBalance, amounts_append]
  omega

theorem balanceAt_append (id : ℕ) (t : ℤ) (log log' : List Ledger) :
    balanceAt id t (log ++ log') = balanceAt id t log + balanceAt id t log' := by
  simp only [balanceAt, List.filter_append, ledgerBalance_append]

/-- Entries of one instant: before `t` the balance counts them, from `t` on the sum
does. -/
theorem balanceAt_of_lt {id : ℕ} {t : ℤ} {log : List Ledger} (h : ∀ e ∈ log, countsAt t e = true) :
    balanceAt id t log = ledgerBalance id log := by
  rw [balanceAt, List.filter_eq_self.mpr h]

theorem balanceAt_of_ge {id : ℕ} {t : ℤ} {log : List Ledger}
    (h : ∀ e ∈ log, ¬countsAt t e = true) : balanceAt id t log = 0 := by
  rw [balanceAt, List.filter_eq_nil_iff.mpr h]
  rfl

theorem net_transfer {txn : Transaction} (hm : txn.moves = true)
    (hne : txn.senderId ≠ txn.recipientId) (id : ℕ) (t : ℤ) (k : Option Key) (authorized : Bool) :
    net id (·.inPeriod (some t) none) [.transaction txn k authorized] =
      ledgerBalance id [.transaction txn k authorized] -
        balanceAt id t [.transaction txn k authorized] := by
  have hcompleted : txn.status = .completed := by
    simp only [Transaction.moves, Bool.and_eq_true, decide_eq_true_eq] at hm
    exact hm.1
  have hledger := ledgerBalance_transfer hm [] k authorized id
  rw [List.nil_append] at hledger
  by_cases ht : t ≤ txn.createdAt
  · rw [balanceAt_of_ge (by simp [countsAt, ht]), hledger]
    by_cases hs : txn.senderId = id
    · have hr : txn.recipientId ≠ id := fun hr => hne (hs.trans hr.symm)
      simp [net, transactionRows, Transaction.involves, Transaction.inPeriod, Transaction.signed,
        ledgerBalance, hcompleted, ht, hs, hr]
    · by_cases hr : txn.recipientId = id <;>
        simp [net, transactionRows, Transaction.involves, Transaction.inPeriod, Transaction.signed,
          ledgerBalance, hcompleted, ht, hs, hr]
  · rw [balanceAt_of_lt (by simpa [countsAt] using ht)]
    simp [net, transactionRows, Transaction.inPeriod, ht]

/-- The transaction of a top-up counts as sent. -/
theorem net_topUp (credit : Credit) (request : String) (id : ℕ) (t : ℤ) :
    net id (·.inPeriod (some t) none)
        [.topUpCredit credit request, .transaction (topUpTransaction credit) none true] =
      ledgerBalance id
          [.topUpCredit credit request, .transaction (topUpTransaction credit) none true] -
        balanceAt id t
          [.topUpCredit credit request, .transaction (topUpTransaction credit) none true] -
        2 * amounts (isTopUpSince id t)
          [.topUpCredit credit request, .transaction (topUpTransaction credit) none true] := by
  have hledger := ledgerBalance_topUp [] credit request id
  rw [List.nil_append] at hledger
  by_cases ht : t ≤ credit.createdAt
  · rw [balanceAt_of_ge (by simp [countsAt, topUpTransaction, ht]), hledger]
    by_cases hs : credit.userId = id
    · simp [net, transactionRows, Transaction.involves, Transaction.inPeriod, Transaction.signed,
        ledgerBalance, isTopUpSince, Ledger.amount, topUpTransaction, ht, hs]
      omega
    · simp [net, transactionRows, Transaction.involves, Transaction.inPeriod, Transaction.signed,
        ledgerBalance, isTopUpSince, topUpTransaction, ht, hs]
  · rw [balanceAt_of_lt (by simpa [countsAt, topUpTransaction] using ht)]
    simp [net, transactionRows, Transaction.inPeriod, isTopUpSince, topUpTransaction, ht]

/-- What the transactions since an instant sum up to: the change of the balance, with
the top-ups counted the other way. -/
theorem History.net_eq {log : List Ledger} (h : History log) (id : ℕ) (t : ℤ) :
    net id (·.inPeriod (some t) none) log =
      ledgerBalance id log - balanceAt id t log - 2 * amounts (isTopUpSince id t) log := by
  induction h with
  | nil => rfl
  | register log credit h ih =>
      rw [net_append, ledgerBalance_append, balanceAt_append, amounts_append, ih,
        balanceAt_of_lt (by simp [countsAt] :
          ∀ e ∈ [Ledger.registrationCredit credit], countsAt t e = true)]
      simp [net, transactionRows, isTopUpSince]
  | transfer log txn k authorized h hm hne hpos ih =>
      rw [net_append, ledgerBalance_append, balanceAt_append, amounts_append, ih,
        net_transfer hm hne]
      simp [isTopUpSince]
      omega
  | topUp log credit request h hpos ih =>
      rw [net_append, ledgerBalance_append, balanceAt_append, amounts_append, ih, net_topUp]
      omega

/-- The amounts are positive, so the sum is zero only if there is none. -/
theorem History.topUps_zero_iff {log : List Ledger} (h : History log) (id : ℕ) (t : ℤ) :
    0 ≤ amounts (isTopUpSince id t) log ∧
      (amounts (isTopUpSince id t) log = 0 ↔ ∀ e ∈ log, isTopUpSince id t e = false) := by
  induction h with
  | nil => simp
  | register log credit h ih =>
      simpa [isTopUpSince, or_imp, forall_and] using ih
  | transfer log txn k authorized h hm hne hpos ih =>
      simpa [isTopUpSince, or_imp, forall_and] using ih
  | topUp log credit request h hpos ih =>
      rw [amounts_append, amounts_cons, amounts_cons, amounts_nil]
      simp only [List.mem_append, or_imp, forall_and, ← ih.2, List.forall_mem_cons]
      by_cases hs : isTopUpSince id t (.topUpCredit credit request) = true
      · rw [if_pos hs, hs]
        simp [isTopUpSince, Ledger.amount]
        omega
      · rw [if_neg hs, eq_false_of_ne_true hs]
        simp [isTopUpSince]
        exact ih.1

/-! ### Reconciliation -/

/-- `_adjacent_period`: the month `delta` months later. -/
def adjacentPeriod (year month delta : ℤ) : ℤ × ℤ :=
  let zeroBased := year * 12 + (month - 1) + delta
  (zeroBased / 12, zeroBased % 12 + 1)

theorem monthNumber_adjacent (year month delta : ℤ) :
    monthNumber (adjacentPeriod year month delta).1 (adjacentPeriod year month delta).2 =
      monthNumber year month + delta := by
  unfold monthNumber adjacentPeriod
  dsimp only
  omega

/-- An instant is in the month of the calendar in Singapore. -/
theorem sgtMonth_eq_iff {year month instant : ℤ} (h : 1 ≤ month) (h' : month ≤ 12) :
    sgtMonth instant = (year, month) ↔
      sgtMidnight (monthStart (monthNumber year month)) ≤ instant ∧
        instant < sgtMidnight (monthStart (monthNumber year month + 1)) := by
  have hday : sgtMonth instant = (year, month) ↔
      monthOf ((instant + 28800000000) / 86400000000) = monthNumber year month := by
    obtain ⟨hmonth, -⟩ := civilFromDays_month ((instant + 28800000000) / 86400000000)
    unfold sgtMonth monthOf monthNumber
    dsimp only
    rw [Prod.mk.injEq]
    omega
  rw [hday, monthOf_eq_iff]
  unfold sgtMidnight
  omega

/-- The statement of the month agrees with the ledger, and the months with each
other. -/
structure Reconciles (db : BankDb) (now : ℤ) (id : ℕ) (accountCreatedAt : Option ℤ)
    (year month : ℤ) (s : Statement) : Prop where
  closing : s.closingBalance = balanceAt id
    (sgtMonthStart (adjacentPeriod year month 1).1 (adjacentPeriod year month 1).2) db.log
  opening : s.openingBalance = balanceAt id (sgtMonthStart year month) db.log
  listed : s.transactions.Perm ((transactionRows db.log).filter fun txn =>
    txn.involves id && sgtMonth txn.createdAt = (year, month))
  available : ∀ txn ∈ transactionRows db.log, txn.involves id = true →
    (sgtMonthBoundsUtc (sgtMonth txn.createdAt).1 (sgtMonth txn.createdAt).2).isOk = true →
    ∃ s', statementForPeriod db now id accountCreatedAt (sgtMonth txn.createdAt).1
      (sgtMonth txn.createdAt).2 = .ok s'
  continues : ∀ s', statementForPeriod db now id accountCreatedAt
      (adjacentPeriod year month (-1)).1 (adjacentPeriod year month (-1)).2 = .ok s' →
    s'.closingBalance = s.openingBalance

/-- The transactions of an account are not older than it, and not of the future. -/
def Dated (accountCreatedAt : Option ℤ) (now : ℤ) (id : ℕ) (log : List Ledger) : Prop :=
  ∀ txn ∈ transactionRows log, txn.involves id = true →
    (∀ t, accountCreatedAt = some t → t ≤ txn.createdAt) ∧ txn.createdAt ≤ now

/-- All top-ups of the account are from before the month. -/
def ToppedUpBefore (id : ℕ) (year month : ℤ) (log : List Ledger) : Prop :=
  ∀ credit request, .topUpCredit credit request ∈ log → credit.userId = id →
    credit.createdAt < sgtMonthStart year month

section Reconciliation

variable {db : BankDb} {now : ℤ} {id : ℕ} {user : User} {accountCreatedAt : Option ℤ}
  {year month : ℤ} {s : Statement}

theorem toppedUpBefore_iff : ToppedUpBefore id year month db.log ↔
    ∀ e ∈ db.log, isTopUpSince id (sgtMonthStart year month) e = false := by
  constructor
  · intro h e he
    cases e with
    | topUpCredit credit request =>
        by_cases hid : credit.userId = id
        · have := h credit request he hid
          simp [isTopUpSince, this]
        · simp [isTopUpSince, hid]
    | transaction txn k authorized => rfl
    | registrationCredit credit => rfl
  · intro h credit request he hid
    have := h _ he
    simpa [isTopUpSince, hid] using this

theorem isTopUpSince_later {t t' : ℤ} (ht : t ≤ t') {e : Ledger}
    (h : isTopUpSince id t e = false) : isTopUpSince id t' e = false := by
  cases e with
  | topUpCredit credit request =>
      simp only [isTopUpSince, Bool.and_eq_false_iff, decide_eq_false_iff_not] at h ⊢
      omega
  | transaction txn k authorized => rfl
  | registrationCredit credit => rfl

theorem month_order (year month : ℤ) : sgtMonthStart year month ≤
    sgtMidnight (monthStart (monthNumber year month + 1)) := by
  have := (monthStart_succ (monthNumber year month)).1
  unfold sgtMonthStart sgtMidnight
  omega

/-- The figures of a statement, from the history. -/
theorem statement_balances (hh : History db.log) (hu : db.row (.user id) = some user)
    (hb : user.balance = ledgerBalance id db.log)
    (hs : statementForPeriod db now id accountCreatedAt year month = .ok s) :
    s.closingBalance = balanceAt id (sgtMidnight (monthStart (monthNumber year month + 1))) db.log +
        2 * amounts (isTopUpSince id (sgtMidnight (monthStart (monthNumber year month + 1))))
          db.log ∧
      s.openingBalance = balanceAt id (sgtMonthStart year month) db.log +
        2 * amounts (isTopUpSince id (sgtMonthStart year month)) db.log := by
  obtain ⟨b, u, hmonth, hbounds, -, -, hu', rfl⟩ := statementForPeriod_ok.mp hs
  cases hu.symm.trans hu'
  rw [sgtMonthBoundsUtc_ok hmonth.1 hmonth.2 hbounds]
  have hclosing := hh.net_eq id (sgtMidnight (monthStart (monthNumber year month + 1)))
  have hopening := hh.net_eq id (sgtMonthStart year month)
  rw [net_split id (month_order year month)] at hopening
  unfold statementOf
  dsimp only
  rw [netWithin_sorted, signedNetAmount_eq]
  omega

theorem statement_listed
    (hs : statementForPeriod db now id accountCreatedAt year month = .ok s) :
    s.transactions.Perm ((transactionRows db.log).filter fun txn =>
      txn.involves id && sgtMonth txn.createdAt = (year, month)) := by
  obtain ⟨b, u, hmonth, hbounds, -, -, -, rfl⟩ := statementForPeriod_ok.mp hs
  rw [sgtMonthBoundsUtc_ok hmonth.1 hmonth.2 hbounds]
  unfold statementOf
  refine (List.perm_insertionSort _ _).trans (List.Perm.of_eq ?_)
  congr 1
  funext txn
  simp only [Transaction.inPeriod, Option.all_some, sgtMonth_eq_iff hmonth.1 hmonth.2,
    Bool.decide_and, sgtMonthStart]

/-- The month of a transaction has a statement. -/
theorem statement_available (hu : db.row (.user id) = some user) {txn : Transaction}
    (hborn : ∀ t, accountCreatedAt = some t → t ≤ txn.createdAt) (hnow : txn.createdAt ≤ now)
    (hok : (sgtMonthBoundsUtc (sgtMonth txn.createdAt).1 (sgtMonth txn.createdAt).2).isOk = true) :
    ∃ s', statementForPeriod db now id accountCreatedAt (sgtMonth txn.createdAt).1
      (sgtMonth txn.createdAt).2 = .ok s' := by
  have hmonth : 1 ≤ (sgtMonth txn.createdAt).2 ∧ (sgtMonth txn.createdAt).2 ≤ 12 :=
    (civilFromDays_month _).1
  obtain ⟨hstart, hend⟩ := (sgtMonth_eq_iff hmonth.1 hmonth.2).mp (rfl : sgtMonth txn.createdAt = _)
  cases hbounds : sgtMonthBoundsUtc (sgtMonth txn.createdAt).1 (sgtMonth txn.createdAt).2 with
  | error e =>
      rw [hbounds] at hok
      cases hok
  | ok b =>
      have hb := sgtMonthBoundsUtc_ok hmonth.1 hmonth.2 hbounds
      refine ⟨_, statementForPeriod_ok.mpr ⟨b, user, hmonth, hbounds, ?_, fun t ht => ?_, hu, rfl⟩⟩
      · rw [hb]
        exact hstart.trans hnow
      · rw [hb]
        exact lt_of_le_of_lt (hborn t ht) hend

/-- A statement closes where the next one opens. -/
theorem statement_continues (hh : History db.log) (hu : db.row (.user id) = some user)
    (hb : user.balance = ledgerBalance id db.log)
    (hs : statementForPeriod db now id accountCreatedAt year month = .ok s) {s' : Statement}
    (hs' : statementForPeriod db now id accountCreatedAt (adjacentPeriod year month (-1)).1
      (adjacentPeriod year month (-1)).2 = .ok s') : s'.closingBalance = s.openingBalance := by
  have hclosing := (statement_balances hh hu hb hs').1
  have hopening := (statement_balances hh hu hb hs).2
  rw [monthNumber_adjacent, Int.neg_add_cancel_right] at hclosing
  rw [hclosing, hopening]
  rfl

/-- A statement is right exactly if no top-up was made since the month started. -/
theorem statement_reconciles_iff (hh : History db.log) (hd : Dated accountCreatedAt now id db.log)
    (hu : db.row (.user id) = some user) (hb : user.balance = ledgerBalance id db.log)
    (hs : statementForPeriod db now id accountCreatedAt year month = .ok s) :
    Reconciles db now id accountCreatedAt year month s ↔ ToppedUpBefore id year month db.log := by
  obtain ⟨hclosing, hopening⟩ := statement_balances hh hu hb hs
  have hzero := hh.topUps_zero_iff id (sgtMonthStart year month)
  constructor
  · intro h
    rw [toppedUpBefore_iff, ← hzero.2]
    have := h.opening
    omega
  · intro h
    have hsince : amounts (isTopUpSince id (sgtMonthStart year month)) db.log = 0 :=
      hzero.2.mpr (toppedUpBefore_iff.mp h)
    have hlater : amounts (isTopUpSince id
        (sgtMidnight (monthStart (monthNumber year month + 1)))) db.log = 0 := by
      refine (hh.topUps_zero_iff id _).2.mpr fun e he => isTopUpSince_later ?_
        (toppedUpBefore_iff.mp h e he)
      exact month_order year month
    exact {
      closing := by
        rw [hclosing, hlater, sgtMonthStart, monthNumber_adjacent]
        omega
      opening := by
        rw [hopening, hsince]
        omega
      listed := statement_listed hs
      available := fun txn htxn hinv hok =>
        statement_available hu (hd txn htxn hinv).1 (hd txn htxn hinv).2 hok
      continues := fun s' hs' => statement_continues hh hu hb hs hs' }

end Reconciliation

/-- The two sample accounts, after a top-up of fifty dollars in June 2026. The first has
two confirmed transfers to the second. -/
def toppedUpDb : BankDb where
  row
    | .user id =>
        if id = 1 then some { sampleUser "100" with balance := 15000 }
        else if id = 2 then some (sampleUser "200") else none
    | .payee id => if id = 1 then some ⟨1, "200", 1780300000000000⟩ else none
    | .pending token =>
        if token = "a" ∨ token = "b" then
          some ⟨1, 1, 100000, "rent", 1783000600000000, none, none⟩
        else none
    | .payupPending _ => none
    | .topup _ => none
  log := [.registrationCredit ⟨"r1", 1, 10000, 1780300000000000⟩,
    .registrationCredit ⟨"r2", 2, 10000, 1780300000000000⟩,
    .topUpCredit ⟨"c1", 1, 5000, 1780400000000000⟩ "q1",
    .transaction (topUpTransaction ⟨"c1", 1, 5000, 1780400000000000⟩) none true]

theorem toppedUpDb_history : History toppedUpDb.log :=
  .topUp [.registrationCredit ⟨"r1", 1, 10000, 1780300000000000⟩,
      .registrationCredit ⟨"r2", 2, 10000, 1780300000000000⟩] _ _
    (.register [_] _ (.register [] _ .nil)) (by decide)

theorem toppedUpDb_dated (now : ℤ) (h : 1780400000000000 ≤ now) :
    Dated (some 1780300000000000) now 1 toppedUpDb.log := by
  intro txn htxn _
  obtain rfl : txn = topUpTransaction ⟨"c1", 1, 5000, 1780400000000000⟩ := by
    simpa [transactionRows, toppedUpDb] using htxn
  refine ⟨fun t ht => ?_, h⟩
  cases ht
  decide

/-- Both transfers are executed in July. -/
def julyTransfers : BankConf :=
  start sampleConfig (fun _ => [])
    (fun t => .executeLocalTransfer 1 1 (if t = 0 then "a" else "b")) toppedUpDb 1783000000000000

/-- One dollar to the second account. -/
def julyTransaction (transactionRef : String) (createdAt : ℤ) : Transaction :=
  ⟨transactionRef, 1, 2, some 1, 100, "rent", .completed, .localTransfer, createdAt⟩

/-- What the run leaves in the ledger. -/
def julyLog : List Ledger := toppedUpDb.log ++
  [.transaction (julyTransaction "x" 1783000000000015) (some (.pending "a")) true,
    .transaction (julyTransaction "y" 1783000000000047) (some (.pending "b")) true]

theorem julyLog_dated : Dated (some 1780300000000000) 1783000001000000 1 julyLog := by
  unfold Dated
  decide

/-- In July the statement is right, and lists the two transfers. -/
theorem statement_reconciles_iff_july :
    ∃ y s, Reach exec (fun _ _ _ => True) julyTransfers y ∧
      statementForPeriod y.world.db 1783000001000000 1 (some 1780300000000000) 2026 7 = .ok s ∧
      s.transactions.length = 2 ∧
      Reconciles y.world.db 1783000001000000 1 (some 1780300000000000) 2026 7 s := by
  have hrun : (run exec julyTransfers (succeeds 0 32 "x" ++ succeeds 1 32 "y")).any (fun y =>
      y.world.db.log = julyLog &&
      (y.world.db.row (.user 1)).any (fun u => u.balance = ledgerBalance 1 julyLog) &&
      statementForPeriod y.world.db 1783000001000000 1 (some 1780300000000000) 2026 7 =
        .ok ⟨1782835200000000, 1785513600000000, 15000, 14800,
          [julyTransaction "x" 1783000000000015, julyTransaction "y" 1783000000000047]⟩) = true := by
    decide +kernel
  obtain ⟨y, hy, hfigures⟩ := (Option.any_eq_true ..).mp hrun
  simp only [Bool.and_eq_true, decide_eq_true_eq] at hfigures
  obtain ⟨⟨hlog, hrow⟩, hs⟩ := hfigures
  obtain ⟨user, hu, hb⟩ := (Option.any_eq_true ..).mp hrow
  have hreach : Reach exec (fun _ _ _ => True) julyTransfers y := reach_of_run exec .refl hy
  have hh : History y.world.db.log := by
    refine history_of_reach _ _ _ _ _ toppedUpDb_history y (hreach.mono fun t o w _ => ?_)
    exact stepCond_of_locks _ _ (fun _ _ _ _ _ _ => trivial) fun _ => trivial
  refine ⟨y, _, hreach, hs, rfl, ?_⟩
  refine (statement_reconciles_iff hh (hlog ▸ julyLog_dated) hu
    (hlog ▸ of_decide_eq_true hb) hs).mpr fun credit request he hid => ?_
  rw [hlog] at he
  obtain rfl : credit = ⟨"c1", 1, 5000, 1780400000000000⟩ := by
    simp [julyLog, toppedUpDb] at he
    exact he.1
  decide

/-- In June the opening balance is two hundred dollars: the account had one hundred
and was credited with fifty. -/
theorem june_statement_wrong :
    (History toppedUpDb.log ∧ Dated (some 1780300000000000) 1783000000000000 1 toppedUpDb.log ∧
      (toppedUpDb.row (.user 1)).map (·.balance) = some (ledgerBalance 1 toppedUpDb.log)) ∧
      ∃ s, statementForPeriod toppedUpDb 1783000000000000 1 (some 1780300000000000) 2026 6 = .ok s ∧
        s.openingBalance = 20000 ∧
        balanceAt 1 (sgtMonthStart 2026 6) toppedUpDb.log = 10000 ∧
        ¬Reconciles toppedUpDb 1783000000000000 1 (some 1780300000000000) 2026 6 s := by
  have hs : statementForPeriod toppedUpDb 1783000000000000 1 (some 1780300000000000) 2026 6 =
      .ok ⟨1780243200000000, 1782835200000000, 20000, 15000,
        [topUpTransaction ⟨"c1", 1, 5000, 1780400000000000⟩]⟩ := by decide +kernel
  have hbalance : balanceAt 1 (sgtMonthStart 2026 6) toppedUpDb.log = 10000 := by decide +kernel
  refine ⟨⟨toppedUpDb_history, toppedUpDb_dated _ (by decide), by decide⟩, _, hs, rfl, hbalance,
    fun h => ?_⟩
  have := h.opening
  rw [hbalance] at this
  exact absurd this (by decide)

end SitBank.Banking
