import SitBank.Banking.System

/-!
Conservation of money.

The balance of an account is what the ledger says: its registration credit and
top-ups, plus what it received, minus what it sent. The commits keep this as
long as the copies that a lock of accounts returns have the committed balances.
They need not: a session that loaded an account before it locks it keeps the
balance it loaded, and a transfer that commits in between is lost.
-/

namespace SitBank.Banking

open SitBank.Interaction SitBank.Orm

/-! ### The balance in the ledger -/

/-- A `RegistrationCredit` or a `TopUpCredit` of the account. -/
def isCreditOf (id : ℕ) : Ledger → Bool
  | .registrationCredit credit => credit.userId = id
  | .topUpCredit credit _ => credit.userId = id
  | .transaction .. => false

/-- A completed transaction other than a top-up. -/
def Transaction.moves (txn : Transaction) : Bool :=
  txn.status = .completed && txn.transactionType ≠ .topup

def isReceivedBy (id : ℕ) : Ledger → Bool
  | .transaction txn _ _ => txn.recipientId = id && txn.moves
  | _ => false

def isSentBy (id : ℕ) : Ledger → Bool
  | .transaction txn _ _ => txn.senderId = id && txn.moves
  | _ => false

def ledgerBalance (id : ℕ) (log : List Ledger) : ℤ :=
  amounts (isCreditOf id) log + amounts (isReceivedBy id) log - amounts (isSentBy id) log

/-- Every balance is the one in the ledger, and is not negative. -/
def Conserved (db : BankDb) : Prop :=
  ∀ id u, db.row (.user id) = some u → u.balance = ledgerBalance id db.log ∧ 0 ≤ u.balance

/-! ### What the steps do to it -/

theorem ledgerBalance_transfer {txn : Transaction} (hm : txn.moves = true)
    (log : List Ledger) (k : Option Key) (authorized : Bool) (id : ℕ) :
    ledgerBalance id (log ++ [.transaction txn k authorized]) = ledgerBalance id log +
      (if txn.recipientId = id then txn.amount else 0) -
      (if txn.senderId = id then txn.amount else 0) := by
  simp only [ledgerBalance, amounts_append, amounts_cons, amounts_nil, isCreditOf, isReceivedBy,
    isSentBy, Ledger.amount, hm, Bool.and_true, decide_eq_true_eq, Bool.false_eq_true, if_false]
  omega

theorem ledgerBalance_topUp (log : List Ledger) (credit : Credit) (selector : String) (id : ℕ) :
    ledgerBalance id (log ++ [.topUpCredit credit selector,
      .transaction (topUpTransaction credit) none true]) = ledgerBalance id log +
      (if credit.userId = id then credit.amount else 0) := by
  have hm : (topUpTransaction credit).moves = false := by simp [Transaction.moves, topUpTransaction]
  simp only [ledgerBalance, amounts_append, amounts_cons, amounts_nil, isCreditOf, isReceivedBy,
    isSentBy, Ledger.amount, hm, Bool.and_false, decide_eq_true_eq, Bool.false_eq_true, if_false]
  omega

section Steps

variable {P : User → User → Prop} {K : ℕ → BankDb → ℤ → Prop} {R : Prop}
  {cfg : Config} {t : ℕ} {w : BankWorld} {d : BankDb}

/-- Steps that do not write balances. -/
theorem Conserved.of_same (h : Conserved w.db) (hlog : d.log = w.db.log)
    (hrow : ∀ id u, d.row (.user id) = some u →
      ∃ u₀, w.db.row (.user id) = some u₀ ∧ u.balance = u₀.balance) : Conserved d := by
  intro id u hu
  obtain ⟨u₀, hu₀, hb⟩ := hrow id u hu
  rw [hlog, hb]
  exact h id u₀ hu₀

theorem Conserved.rewrites (h : Conserved w.db) {k : Key} {r r' : Row k}
    (hr : Rewrites w d k r r') (hk : ∀ id, k ≠ .user id) : Conserved d := by
  refine h.of_same hr.log fun id u hu => ⟨u, ?_, rfl⟩
  rw [← hr.others (.user id) (hk id).symm]
  exact hu

theorem Conserved.rewritesUser (h : Conserved w.db) {id : ℕ} {s s' : User}
    (hr : Rewrites w d (.user id) s s') (hb : s'.balance = s.balance) : Conserved d := by
  refine h.of_same hr.log fun j u hu => ?_
  by_cases hj : j = id
  · subst hj
    cases hr.new.symm.trans hu
    exact ⟨s, hr.row, hb⟩
  · exact ⟨u, by rw [← hr.others (.user j) (by simpa using hj)]; exact hu, rfl⟩

/-- A transfer that works on the committed balances. -/
theorem Conserved.moves (h : Conserved w.db) {txn : Transaction} {k : Key} {authorized : Bool}
    {c s c' s' : User} (hd : Deal (fun c s => c.balance = s.balance) K t w txn c s c' s')
    (hm : Moves w d txn k authorized c s c' s') (hk : ∀ id, k ≠ .user id)
    (htype : txn.transactionType ≠ .topup) : Conserved d := by
  have hmoves : txn.moves = true := by simp [Transaction.moves, hd.completed, htype]
  have hpos := amount_pos hd.bounds
  have hs := h txn.senderId s hd.sender.row
  have hr := h txn.recipientId s' hd.recipient.row
  have hcs : c.balance = s.balance := hd.sender.related
  have hcr : c'.balance = s'.balance := hd.recipient.related
  have hcovered := hd.covered
  have hne := hd.distinct
  intro id u hu
  rw [hm.log, ledgerBalance_transfer hmoves]
  by_cases hsid : txn.senderId = id
  · subst hsid
    cases hm.debit.symm.trans hu
    rw [if_neg (Ne.symm hne), if_pos rfl]
    dsimp only
    omega
  by_cases hrid : txn.recipientId = id
  · subst hrid
    cases hm.credit.symm.trans hu
    rw [if_pos rfl, if_neg hsid]
    dsimp only
    omega
  · rw [if_neg hrid, if_neg hsid]
    have hother := hm.others (.user id) (by simpa using Ne.symm hsid)
      (by simpa using Ne.symm hrid) (hk id).symm
    have := h id u (hother.symm.trans hu)
    omega

theorem Conserved.topUp (h : Conserved w.db) {credit : Credit} {selector : String}
    {l q : TopUpApprovalRequest} {n : ℤ} {c s : User}
    (hs : TopUpStep (fun c s => c.balance = s.balance) R t w d credit selector l q n c s) :
    Conserved d := by
  have hpos := amount_pos hs.bounds
  have hacc := h credit.userId s hs.account.row
  have hcs : c.balance = s.balance := hs.account.related
  intro id u hu
  rw [hs.log, ledgerBalance_topUp]
  by_cases hid : credit.userId = id
  · subst hid
    cases hs.credited.symm.trans hu
    rw [if_pos rfl]
    dsimp only
    omega
  · rw [if_neg hid]
    have hother := hs.others (.user id) (by simpa using Ne.symm hid) nofun
    have := h id u (hother.symm.trans hu)
    omega

theorem Conserved.step (h : Conserved w.db)
    (hs : BankStep (fun c s => c.balance = s.balance) K R cfg t w d) : Conserved d := by
  cases hs with
  | localTransfer txn token p q n c s c' s' hd hm hp =>
      exact h.moves hd.toDeal hm nofun (by rw [hd.type]; decide)
  | payupTransfer txn token p n a c s c' s' hd hm hp =>
      exact h.moves hd.toDeal hm nofun (by rw [hd.type]; decide)
  | topUp credit selector l q n c s hs => exact h.topUp hs
  | consume token p n hp hr => exact h.rewrites hr nofun
  | consumePayup token p n hp hr => exact h.rewrites hr nofun
  | close selector q q' hq hr => exact h.rewrites hr nofun
  | freeze id s s' hf hr => exact h.rewritesUser hr (by rw [hf.same])
  | limits id s s' hl hr => exact h.rewritesUser hr (by rw [hl.same])

end Steps

/-! ### Runs -/

/-- Every lock of accounts returns the committed balances. -/
def freshBalances : ℕ → Op bank Err → BankWorld → Prop :=
  stepCond (fun c s => c.balance = s.balance) (fun _ _ _ => True) False

/-- Money is conserved in every run in which a lock of accounts never returns an
instance whose balance is older than the row's. -/
theorem conserved_of_freshBalances (cfg : Config) (before : ℕ → List Before)
    (requests : ℕ → Request) (db : BankDb) (clock : ℤ) (h₀ : Conserved db) (y : BankConf)
    (h : Reach exec freshBalances (start cfg before requests db clock) y) :
    Conserved y.world.db :=
  reach_preserves (fun _ _ _ hw hs => hw.step hs) h₀ h

theorem sampleDb_conserved : Conserved sampleDb := by
  intro id u hu
  simp only [sampleDb] at hu
  split at hu
  · next hid =>
      subst hid
      cases hu
      decide
  split at hu
  · next hid =>
      subst hid
      cases hu
      decide
  · cases hu

/-- One of the two requests alone runs under the condition, and moves money. -/
theorem conserved_of_freshBalances_transfer :
    ∃ y, Reach exec freshBalances twoTransfers y ∧ y.world.db.log.length = 3 ∧
      Conserved y.world.db := by
  have hrun : (runChecked exec (stepCheck (fun c s => c.balance = s.balance)
      (fun _ _ _ => true) false) twoTransfers (succeeds 1 32 "y")).any
      (fun y => y.world.db.log.length = 3) = true := by decide +kernel
  obtain ⟨y, hy, hlen⟩ := (Option.any_eq_true ..).mp hrun
  have hreach : Reach exec freshBalances twoTransfers y := by
    refine reach_of_runChecked exec (fun t o w h => ?_) .refl hy
    simpa [freshBalances] using stepCond_of_check h
  exact ⟨y, hreach, of_decide_eq_true hlen,
    conserved_of_freshBalances _ _ _ _ _ sampleDb_conserved y hreach⟩

/-- The first request reads the sender, the second transfers and commits, and
the first transfers with the balance it has read: two dollars are sent and one
is debited. -/
theorem lostUpdate_not_conserved :
    Conserved sampleDb ∧ ∃ y, Reach exec (fun _ _ _ => True) twoTransfers y ∧
      ¬Conserved y.world.db := by
  refine ⟨sampleDb_conserved, ?_⟩
  have hrun : (run exec twoTransfers
      (succeeds 0 1 "x" ++ succeeds 1 32 "y" ++ succeeds 0 31 "x")).any
      (fun y => (y.world.db.row (.user 1)).any
        fun u => u.balance ≠ ledgerBalance 1 y.world.db.log) = true := by decide +kernel
  obtain ⟨y, hy, hbad⟩ := (Option.any_eq_true ..).mp hrun
  obtain ⟨u, hu, hne⟩ := (Option.any_eq_true ..).mp hbad
  exact ⟨y, reach_of_run exec .refl hy, fun h => of_decide_eq_true hne (h 1 u hu).1⟩

end SitBank.Banking
