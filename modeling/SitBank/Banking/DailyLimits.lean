import SitBank.Banking.System

/-!
The daily limits.

The amount already sent on a day is read under the lock of the sender, and the
transaction gets its time afterwards, so the sum that was read covers the whole
day of the transaction even when midnight passes in between. The limit it is
compared with is the one in the session's copy of the sender, and that copy can
be from the day before.
-/

namespace SitBank.Banking

open SitBank.Interaction SitBank.Orm

/-! ### Days -/

/-- One day in microseconds. -/
def dayLength : ℤ := 86400000000

/-- The instant is on the day that starts at `day`. -/
def OnDay (day n : ℤ) : Prop := day ≤ n ∧ n < day + dayLength

instance (day n : ℤ) : Decidable (OnDay day n) := inferInstanceAs (Decidable (_ ∧ _))

theorem sgtDayStart_mono {n n' : ℤ} (h : n ≤ n') : sgtDayStart n ≤ sgtDayStart n' := by
  unfold sgtDayStart
  omega

theorem sgtDayStart_of_onDay {day n : ℤ} (hday : sgtDayStart day = day) (h : OnDay day n) :
    sgtDayStart n = day := by
  unfold OnDay dayLength at h
  unfold sgtDayStart at hday ⊢
  omega

/-! ### What was sent on a day -/

def isSentOn (id : ℕ) (type : TransactionType) (day : ℤ) : Ledger → Bool
  | .transaction txn _ _ => txn.senderId = id && txn.transactionType = type &&
      txn.status = .completed && OnDay day txn.createdAt
  | _ => false

/-- A PayUp transfer of the day that was executed without a second factor. -/
def isQuickOn (id : ℕ) (day : ℤ) : Ledger → Bool
  | .transaction txn k authorized => isSentOn id .payup day (.transaction txn k authorized) &&
      !authorized
  | _ => false

/-- The transfers of the day stay within the limits and the quick cap. -/
structure WithinLimits (id : ℕ) (day localLimit payupLimit quickCap : ℤ) (log : List Ledger) :
    Prop where
  localTransfers : amounts (isSentOn id .localTransfer day) log ≤ localLimit
  payup : amounts (isSentOn id .payup day) log ≤ payupLimit
  quick : amounts (isQuickOn id day) log ≤ quickCap

/-- The limits of the account, as long as the day lasts. -/
def LimitsAre (id : ℕ) (day localLimit payupLimit : ℤ) (d : BankDb) (n : ℤ) : Prop :=
  OnDay day n → ∀ u, d.row (.user id) = some u →
    u.localTransferDailyLimit = localLimit ∧ u.payupDailyLimit = payupLimit

/-- The copy of an account has the committed limits. -/
def SameLimits (c s : User) : Prop :=
  c.localTransferDailyLimit = s.localTransferDailyLimit ∧ c.payupDailyLimit = s.payupDailyLimit

instance (c s : User) : Decidable (SameLimits c s) := inferInstanceAs (Decidable (_ ∧ _))

section Steps

variable {id : ℕ} {day localLimit payupLimit : ℤ} {R : Prop} {cfg : Config}
  {t : ℕ} {w : BankWorld} {d : BankDb}

theorem isSent_of_isSentOn {type : TransactionType} {since : ℤ} (hsince : since ≤ day)
    {e : Ledger} (h : isSentOn id type day e = true) : isSent id type since e = true := by
  cases e with
  | transaction txn k a =>
      simp only [isSentOn, isSent, Bool.and_eq_true, decide_eq_true_eq] at h ⊢
      exact ⟨h.1, le_trans hsince h.2.1⟩
  | topUpCredit credit request => cases h
  | registrationCredit credit => cases h

/-- The sum that was read covers the day of the transaction. -/
theorem Within.onDay {txn : Transaction} {limit : ℤ} (hday : sgtDayStart day = day)
    (hlog : ∀ e ∈ w.db.log, 0 ≤ e.amount) (hon : OnDay day txn.createdAt)
    (h : Within w txn limit) :
    amounts (isSentOn txn.senderId txn.transactionType day) w.db.log + txn.amount ≤ limit := by
  obtain ⟨t₁, ht₁, hsum⟩ := h
  have hsince : sgtDayStart t₁ ≤ day :=
    le_trans (sgtDayStart_mono ht₁) (le_of_eq (sgtDayStart_of_onDay hday hon))
  have hle : amounts (isSentOn txn.senderId txn.transactionType day) w.db.log ≤
      amounts (isSent txn.senderId txn.transactionType (sgtDayStart t₁)) w.db.log :=
    amounts_mono (fun _ => isSent_of_isSentOn hsince) hlog
  have hread : amountSent txn.senderId txn.transactionType (sgtDayStart t₁) w.db.log =
    amounts (isSent txn.senderId txn.transactionType (sgtDayStart t₁)) w.db.log := rfl
  omega

/-- A transaction of another sender, type or day does not count. -/
theorem amounts_isSentOn_append {type : TransactionType} {log : List Ledger}
    {txn : Transaction} {k : Option Key} {a : Bool} (hc : txn.status = .completed) :
    amounts (isSentOn id type day) (log ++ [.transaction txn k a]) =
      amounts (isSentOn id type day) log +
        if txn.senderId = id ∧ txn.transactionType = type ∧ OnDay day txn.createdAt
        then txn.amount else 0 := by
  simp only [amounts_append, amounts_cons, amounts_nil, isSentOn, hc, Ledger.amount,
    decide_true, Bool.and_true, Bool.and_eq_true, decide_eq_true_eq, and_assoc]
  omega

theorem amounts_isQuickOn_append {log : List Ledger} {txn : Transaction} {k : Option Key}
    {a : Bool} (hc : txn.status = .completed) :
    amounts (isQuickOn id day) (log ++ [.transaction txn k a]) =
      amounts (isQuickOn id day) log +
        if a = false ∧ txn.senderId = id ∧ txn.transactionType = .payup ∧
          OnDay day txn.createdAt then txn.amount else 0 := by
  cases a <;>
    simp only [amounts_append, amounts_cons, amounts_nil, isQuickOn, isSentOn, hc, Ledger.amount,
      decide_true, Bool.and_true, Bool.and_eq_true, decide_eq_true_eq, and_assoc, Bool.not_false,
      Bool.not_true, Bool.and_false, Bool.false_eq_true, if_false, true_and, false_and,
      Bool.true_eq_false] <;>
    omega

theorem isSentOn_of_isQuickOn {e : Ledger} (h : isQuickOn id day e = true) :
    isSentOn id .payup day e = true := by
  cases e with
  | transaction txn k a =>
      simp only [isQuickOn, Bool.and_eq_true] at h
      exact h.1
  | topUpCredit credit request => cases h
  | registrationCredit credit => cases h

/-- The limits in the copy are the limits of the day. -/
theorem Deal.limits {txn : Transaction} {c s c' s' : User}
    (h : Deal SameLimits (fun _ => LimitsAre id day localLimit payupLimit) t w txn c s c' s')
    (hid : txn.senderId = id) (hon : OnDay day txn.createdAt) :
    c.localTransferDailyLimit = localLimit ∧ c.payupDailyLimit = payupLimit := by
  obtain ⟨d₀, hk, hrow⟩ := h.known
  rw [hid] at hrow
  obtain ⟨h₁, h₂⟩ := hk hon s hrow
  obtain ⟨hl, hp⟩ := h.sender.related
  exact ⟨hl.trans h₁, hp.trans h₂⟩

/-- Amounts in the ledger are not negative, and the day is within its limits. -/
structure DayOk (id : ℕ) (day localLimit payupLimit quickCap : ℤ) (d : BankDb) : Prop where
  amount : ∀ e ∈ d.log, 0 ≤ e.amount
  limits : WithinLimits id day localLimit payupLimit quickCap d.log

theorem DayOk.same {quickCap : ℤ} (h : DayOk id day localLimit payupLimit quickCap w.db)
    (hlog : d.log = w.db.log) : DayOk id day localLimit payupLimit quickCap d := by
  refine ⟨?_, ?_⟩ <;> rw [hlog]
  · exact h.amount
  · exact h.limits

theorem amount_append {log new : List Ledger} (h : ∀ e ∈ log, 0 ≤ e.amount)
    (hnew : ∀ e ∈ new, 0 ≤ e.amount) : ∀ e ∈ log ++ new, 0 ≤ e.amount := by
  intro e he
  rcases List.mem_append.mp he with he | he
  · exact h e he
  · exact hnew e he

theorem DayOk.localTransfer {quickCap : ℤ}
    (h : DayOk id day localLimit payupLimit quickCap w.db) (hday : sgtDayStart day = day)
    {txn : Transaction} {token : String} {p : PendingTransfer} {q : Payee} {n : ℤ}
    {c s c' s' : User}
    (hd : LocalDeal SameLimits (fun _ => LimitsAre id day localLimit payupLimit) t w txn token p
      q n c s c' s')
    (hm : Moves w d txn (.pending token) true c s c' s') :
    DayOk id day localLimit payupLimit quickCap d := by
  have hpos := amount_pos hd.bounds
  have hlim := h.limits
  refine ⟨?_, ?_, ?_, ?_⟩ <;> rw [hm.log]
  · refine amount_append h.amount fun e he => ?_
    cases List.mem_singleton.mp he
    exact le_of_lt hpos
  · rw [amounts_isSentOn_append hd.completed]
    split
    · next hcount =>
        obtain ⟨hid, htype, hon⟩ := hcount
        have hsum := hd.limit.onDay hday h.amount hon
        rw [(hd.toDeal.limits hid hon).1, hid, htype] at hsum
        exact hsum
    · have := hlim.localTransfers
      omega
  · rw [amounts_isSentOn_append hd.completed, if_neg (by rw [hd.type]; simp)]
    have := hlim.payup
    omega
  · rw [amounts_isQuickOn_append hd.completed, if_neg (by simp)]
    have := hlim.quick
    omega

theorem DayOk.payupTransfer (h : DayOk id day localLimit payupLimit cfg.payupQuickDailyCap w.db)
    (hday : sgtDayStart day = day) {txn : Transaction} {token : String}
    {p : PayupPendingTransfer} {n : ℤ} {a : Bool} {c s c' s' : User}
    (hd : PayupDeal SameLimits (fun _ => LimitsAre id day localLimit payupLimit) cfg t w txn token
      p n a c s c' s')
    (hm : Moves w d txn (.payupPending token) a c s c' s') :
    DayOk id day localLimit payupLimit cfg.payupQuickDailyCap d := by
  have hpos := amount_pos hd.bounds
  have hlim := h.limits
  refine ⟨?_, ?_, ?_, ?_⟩ <;> rw [hm.log]
  · refine amount_append h.amount fun e he => ?_
    cases List.mem_singleton.mp he
    exact le_of_lt hpos
  · rw [amounts_isSentOn_append hd.completed, if_neg (by rw [hd.type]; simp)]
    have := hlim.localTransfers
    omega
  · rw [amounts_isSentOn_append hd.completed]
    split
    · next hcount =>
        obtain ⟨hid, htype, hon⟩ := hcount
        have hsum := hd.limit.onDay hday h.amount hon
        rw [(hd.toDeal.limits hid hon).2, hid, htype] at hsum
        exact hsum
    · have := hlim.payup
      omega
  · rw [amounts_isQuickOn_append hd.completed]
    split
    · next hcount =>
        obtain ⟨ha, hid, htype, hon⟩ := hcount
        have hsum := (hd.quick ha).onDay hday h.amount hon
        rw [hid, htype] at hsum
        -- the quick transfers of the day are among all of the day
        have hle : amounts (isQuickOn id day) w.db.log ≤ amounts
            (isSentOn id .payup day) w.db.log :=
          amounts_mono (fun _ => isSentOn_of_isQuickOn) h.amount
        omega
    · have := hlim.quick
      omega

theorem DayOk.topUp {quickCap : ℤ} (h : DayOk id day localLimit payupLimit quickCap w.db)
    {credit : Credit} {selector : String}
    (hlog : d.log = w.db.log ++ [.topUpCredit credit selector,
      .transaction (topUpTransaction credit) none true])
    (hb : withinBounds credit.amount = true) :
    DayOk id day localLimit payupLimit quickCap d := by
  have hpos := amount_pos hb
  have hlim := h.limits
  refine ⟨?_, ?_, ?_, ?_⟩ <;> rw [hlog]
  · refine amount_append h.amount fun e he => ?_
    rcases List.mem_cons.mp he with rfl | he
    · exact le_of_lt hpos
    · cases List.mem_singleton.mp he
      exact le_of_lt hpos
  · simpa [isSentOn, topUpTransaction] using hlim.localTransfers
  · simpa [isSentOn, topUpTransaction] using hlim.payup
  · simpa [isQuickOn, isSentOn, topUpTransaction] using hlim.quick

theorem DayOk.step (h : DayOk id day localLimit payupLimit cfg.payupQuickDailyCap w.db)
    (hday : sgtDayStart day = day)
    (hs : BankStep SameLimits (fun _ => LimitsAre id day localLimit payupLimit) R cfg t w d) :
    DayOk id day localLimit payupLimit cfg.payupQuickDailyCap d := by
  cases hs with
  | localTransfer txn token p q n c s c' s' hd hm hp => exact h.localTransfer hday hd hm
  | payupTransfer txn token p n a c s c' s' hd hm hp => exact h.payupTransfer hday hd hm
  | topUp credit selector l q n c s ht => exact h.topUp ht.log ht.bounds
  | consume token p n hp hr => exact h.same hr.log
  | consumePayup token p n hp hr => exact h.same hr.log
  | close selector q q' hq hr => exact h.same hr.log
  | freeze id s s' hf hr => exact h.same hr.log
  | limits id s s' hl hr => exact h.same hr.log

end Steps

/-! ### Runs -/

/-- The limits of the account are not changed during the day. -/
def unchangedLimits (id : ℕ) (day localLimit payupLimit : ℤ) :
    ℕ → Op bank Err → BankWorld → Prop :=
  fun _ _ w => LimitsAre id day localLimit payupLimit w.db w.clock

/-- Every lock of accounts returns the committed limits. -/
def freshLimits : ℕ → Op bank Err → BankWorld → Prop :=
  stepCond SameLimits (fun _ _ _ => True) False

/-- On a day on which the limits of an account are not changed, its transfers
stay within them, in every run in which a lock of accounts never returns limits
that are older than the row's. -/
theorem withinLimits_of_freshLimits (cfg : Config) (before : ℕ → List Before)
    (requests : ℕ → Request) (db : BankDb) (clock : ℤ) (id : ℕ) (day localLimit payupLimit : ℤ)
    (hday : sgtDayStart day = day) (hamount : ∀ e ∈ db.log, 0 ≤ e.amount)
    (h₀ : WithinLimits id day localLimit payupLimit cfg.payupQuickDailyCap db.log) (y : BankConf)
    (h : Reach exec (fun t o w => unchangedLimits id day localLimit payupLimit t o w ∧
      freshLimits t o w) (start cfg before requests db clock) y) :
    WithinLimits id day localLimit payupLimit cfg.payupQuickDailyCap y.world.db.log := by
  have hreach : Reach exec (stepCond SameLimits (fun _ => LimitsAre id day localLimit payupLimit)
      False) (start cfg before requests db clock) y := by
    refine h.mono fun t o w hc => stepCond_of_locks _ _ (fun ks ho => ?_) fun ho => ?_
    · subst ho
      exact hc.2
    · subst ho
      exact hc.1
  have hok : DayOk id day localLimit payupLimit cfg.payupQuickDailyCap y.world.db :=
    reach_preserves (fun _ _ _ hw hs => hw.step hday hs) ⟨hamount, h₀⟩ hreach
  exact hok.limits

theorem sampleDb_amount : ∀ e ∈ sampleDb.log, 0 ≤ e.amount := by decide

theorem sampleDb_withinLimits (id : ℕ) (day : ℤ) :
    WithinLimits id day 100000 100000 20000 sampleDb.log := by
  constructor <;> simp [sampleDb, isSentOn, isQuickOn]

/-- A transfer of the day runs under the conditions. -/
theorem withinLimits_of_freshLimits_transfer :
    sgtDayStart (-28800000000) = -28800000000 ∧ ∃ y : BankConf,
      Reach exec (fun t o w => unchangedLimits 1 (-28800000000) 100000 100000 t o w ∧
        freshLimits t o w) twoTransfers y ∧
      amounts (isSentOn 1 .localTransfer (-28800000000)) y.world.db.log = 100 ∧
      WithinLimits 1 (-28800000000) 100000 100000 20000 y.world.db.log := by
  refine ⟨by decide, ?_⟩
  have hrun : (runChecked exec (fun t o (w : BankWorld) =>
      (w.db.row (.user 1)).all (fun u =>
        u.localTransferDailyLimit = 100000 ∧ u.payupDailyLimit = 100000) &&
      stepCheck (fun c s => SameLimits c s) (fun _ _ _ => true) false t o w)
      twoTransfers (succeeds 1 32 "y")).any (fun y =>
        amounts (isSentOn 1 .localTransfer (-28800000000)) y.world.db.log = 100) = true := by
    decide +kernel
  obtain ⟨y, hy, hsum⟩ := (Option.any_eq_true ..).mp hrun
  have hreach : Reach exec (fun t o w => unchangedLimits 1 (-28800000000) 100000 100000 t o w ∧
      freshLimits t o w) twoTransfers y := by
    refine reach_of_runChecked exec (fun t o w h => ?_) .refl hy
    obtain ⟨hlimits, hcheck⟩ := Bool.and_eq_true_iff.mp h
    refine ⟨fun _ u hu => ?_, ?_⟩
    · rw [hu, Option.all_some] at hlimits
      exact of_decide_eq_true hlimits
    · simpa [freshLimits] using stepCond_of_check hcheck
  exact ⟨y, hreach, of_decide_eq_true hsum,
    withinLimits_of_freshLimits _ _ _ _ _ 1 (-28800000000) 100000 100000 (by decide)
      sampleDb_amount (sampleDb_withinLimits 1 _) y hreach⟩

/-- The first account can pay two hundred dollars, and has confirmed a transfer
of that amount. -/
def largeTransferDb : BankDb where
  row
    | .user id =>
        if id = 1 then some { sampleUser "100" with balance := 50000 }
        else if id = 2 then some (sampleUser "200") else none
    | .payee id => if id = 1 then some ⟨1, "200", -1000000000⟩ else none
    | .pending token =>
        if token = "a" then some ⟨1, 1, 20000000, "rent", 100000000000, none, none⟩ else none
    | .payupPending _ => none
    | .topup _ => none
  log := []

/-- The transfer, and the lowering of the limit to one hundred dollars, thirty
microseconds before the day starts. -/
def transferAndLimits : BankConf :=
  start sampleConfig (fun _ => [])
    (fun t => if t = 0 then .executeLocalTransfer 1 1 "a" else .transferLimitsSubmit 1 100000 10000)
    largeTransferDb (57600000000 - 30)

/-- The transfer reads the sender, the limit is lowered before midnight, and the
transfer is executed after midnight with the limit of the day before. -/
theorem staleLimit_exceeded :
    sgtDayStart 57600000000 = 57600000000 ∧
    WithinLimits 1 57600000000 10000 100000 20000 largeTransferDb.log ∧
    ∃ y, Reach exec (unchangedLimits 1 57600000000 10000 100000) transferAndLimits y ∧
      ¬WithinLimits 1 57600000000 10000 100000 20000 y.world.db.log := by
  refine ⟨by decide, by constructor <;> decide, ?_⟩
  have hrun : (runChecked exec (fun _ _ (w : BankWorld) => decide (OnDay 57600000000 w.clock →
      (w.db.row (.user 1)).all (fun u =>
        u.localTransferDailyLimit = 10000 ∧ u.payupDailyLimit = 100000) = true))
      transferAndLimits (succeeds 0 1 "x" ++
        answered 1 "y" [true, true, true, true, true, true, true, true, true, false, true, true,
          false, true, true, true, false, true, true, false, true, true, true, true, true, true,
          true, true, true] ++ succeeds 0 31 "x")).any (fun y =>
        10000 < amounts (isSentOn 1 .localTransfer 57600000000) y.world.db.log) = true := by
    decide +kernel
  obtain ⟨y, hy, hsum⟩ := (Option.any_eq_true ..).mp hrun
  refine ⟨y, reach_of_runChecked exec (fun t o w h hon u hu => ?_) .refl hy, fun h => ?_⟩
  · have := of_decide_eq_true h hon
    rw [hu, Option.all_some] at this
    exact of_decide_eq_true this
  · exact absurd h.localTransfers (not_le.mpr (of_decide_eq_true hsum))

end SitBank.Banking
