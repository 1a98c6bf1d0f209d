import SitBank.Banking.Requests

/-!
What the commits of the requests can do.

`BankStep` is the only thing the statements about runs know of the programs:
every program is proved to commit nothing else, and every invariant is an
invariant of these steps.

A transfer works on the copies of the two accounts that its session holds when
it has locked them, so a step names both the committed row and the copy. `P` is
what is assumed of the two at the lock, `K` an assumption on the committed state
and the instant at every reading of the clock. `R` says whether the copies of top-up
requests are assumed to be no older than their completion.
-/

namespace SitBank.Banking

open SitBank.Interaction SitBank.Orm SitBank.Python

/-! ### Sums over the ledger -/

def amounts (p : Ledger → Bool) (log : List Ledger) : ℤ :=
  ((log.filter p).map Ledger.amount).sum

@[simp] theorem amounts_append (p : Ledger → Bool) (log log' : List Ledger) :
    amounts p (log ++ log') = amounts p log + amounts p log' := by
  simp [amounts]

@[simp] theorem amounts_nil (p : Ledger → Bool) : amounts p [] = 0 := rfl

@[simp] theorem amounts_cons (p : Ledger → Bool) (x : Ledger) (log : List Ledger) :
    amounts p (x :: log) = (if p x then x.amount else 0) + amounts p log := by
  unfold amounts
  by_cases hx : p x <;> simp [hx]

theorem amounts_mono {p q : Ledger → Bool} {log : List Ledger} (hpq : ∀ e, p e = true → q e = true)
    (hlog : ∀ e ∈ log, 0 ≤ e.amount) : amounts p log ≤ amounts q log := by
  induction log with
  | nil => exact le_rfl
  | cons x log ih =>
      have hx := hlog x (List.mem_cons_self ..)
      have hrest := ih fun e he => hlog e (List.mem_cons_of_mem x he)
      rw [amounts_cons, amounts_cons]
      by_cases hp : p x = true
      · rw [if_pos hp, if_pos (hpq x hp)]
        omega
      · rw [if_neg hp]
        split <;> omega

/-! ### Steps -/

/-- The transactions that `id` sends. -/
def sentBy (id : ℕ) (log : List Ledger) : List Ledger :=
  log.filter fun
    | .transaction txn _ _ => txn.senderId = id
    | _ => false

/-- The copy of an account that a lock returns: the one the session already
holds, or the row itself. -/
def copyOf (w : BankWorld) (t id : ℕ) (s : User) : User :=
  match (w.sess t).cache (.user id) with
  | some e => e.current
  | none => s

/-- What a thread relies on: nobody else sends from an account it has locked, and
rows only evolve. -/
structure BankExt (t : ℕ) (w w' : BankWorld) : Prop where
  sent : ∀ id, w.lock (.user id) = some t → sentBy id w'.db.log = sentBy id w.db.log
  row : ∀ k r, w.db.row k = some r → ∃ r', w'.db.row k = some r' ∧ evolves k r r'

section Steps

variable (P : User → User → Prop) (K : ℕ → BankDb → ℤ → Prop) (R : Prop)
  (cfg : Config)

/-- Thread `t` holds the account `id`, whose row is `s`, and works on `c`. -/
structure Held (t : ℕ) (w : BankWorld) (id : ℕ) (c s : User) : Prop where
  row : w.db.row (.user id) = some s
  lock : w.lock (.user id) = some t
  related : P c s

/-- What both kinds of transfer have established when they write. -/
structure Deal (t : ℕ) (w : BankWorld) (txn : Transaction) (c s c' s' : User) : Prop where
  sender : Held P t w txn.senderId c s
  recipient : Held P t w txn.recipientId c' s'
  distinct : txn.senderId ≠ txn.recipientId
  completed : txn.status = .completed
  bounds : withinBounds txn.amount = true
  known : ∃ d₀, K t d₀ txn.createdAt ∧ d₀.row (.user txn.senderId) = some s
  unfrozen : c.frozen = false
  covered : txn.amount ≤ c.balance

/-- What the sender had sent on the day of the transaction, and the transaction,
are within `limit`. -/
def Within (w : BankWorld) (txn : Transaction) (limit : ℤ) : Prop :=
  ∃ t₁ ≤ txn.createdAt,
    amountSent txn.senderId txn.transactionType (sgtDayStart t₁) w.db.log + txn.amount ≤ limit

structure LocalDeal (t : ℕ) (w : BankWorld) (txn : Transaction) (token : String)
    (p : PendingTransfer) (q : Payee) (n : ℤ) (c s c' s' : User) : Prop
    extends Deal P K t w txn c s c' s' where
  type : txn.transactionType = .localTransfer
  pending : w.db.row (.pending token) = some p
  lock : w.lock (.pending token) = some t
  unconsumed : p.consumedAt = none
  unexpired : n ≤ p.expiresAt
  read : ∃ d₀, K t d₀ n
  owner : p.userId = txn.senderId
  payee : txn.payeeId = some p.payeeId
  payeeRow : w.db.row (.payee p.payeeId) = some q
  payeeAccount : s'.accountNumber = some q.accountNumber
  amount : wholeCents p.amount = some txn.amount
  reference : txn.reference = truncate 128 p.reference
  limit : Within w txn c.localTransferDailyLimit

structure PayupDeal (t : ℕ) (w : BankWorld) (txn : Transaction) (token : String)
    (p : PayupPendingTransfer) (n : ℤ) (authorized : Bool) (c s c' s' : User) : Prop
    extends Deal P K t w txn c s c' s' where
  type : txn.transactionType = .payup
  pending : w.db.row (.payupPending token) = some p
  lock : w.lock (.payupPending token) = some t
  unconsumed : p.consumedAt = none
  unexpired : n ≤ p.expiresAt
  read : ∃ d₀, K t d₀ n
  owner : p.userId = txn.senderId
  payee : txn.payeeId = none
  recipientId : txn.recipientId = p.recipientUserId
  amount : wholeCents p.amount = some txn.amount
  reference : txn.reference = truncate 128 p.reference
  recipientUnfrozen : c'.isFrozen = false
  limit : Within w txn c.payupDailyLimit
  quick : authorized = false → Within w txn cfg.payupQuickDailyCap

/-- What a transfer writes, except to its confirmation `k`. -/
structure Moves (w : BankWorld) (d : BankDb) (txn : Transaction) (k : Key) (authorized : Bool)
    (c s c' s' : User) : Prop where
  debit : d.row (.user txn.senderId) = some { s with balance := c.balance - txn.amount }
  credit : d.row (.user txn.recipientId) = some { s' with balance := c'.balance + txn.amount }
  log : d.log = w.db.log ++ [.transaction txn (some k) authorized]
  others : ∀ j, j ≠ .user txn.senderId → j ≠ .user txn.recipientId → j ≠ k →
    d.row j = w.db.row j

/-- The transaction that documents a top-up. -/
def topUpTransaction (credit : Credit) : Transaction :=
  ⟨credit.creditRef, credit.userId, credit.userId, none, credit.amount, "", .completed, .topup,
    credit.createdAt⟩

/-- `l` is the copy of the request that was found pending, `q` its row. -/
structure TopUpStep (t : ℕ) (w : BankWorld) (d : BankDb) (credit : Credit) (selector : String)
    (l q : TopUpApprovalRequest) (n : ℤ) (c s : User) : Prop where
  account : Held P t w credit.userId c s
  request : w.db.row (.topup selector) = some q
  pending : l.status = .pending
  copy : evolves (.topup selector) l q
  uncompleted : R → q.status ≠ .completed
  owner : credit.userId = q.userId
  amount : credit.amount = q.amount
  bounds : withinBounds credit.amount = true
  unfrozen : c.frozen = false
  credited : d.row (.user credit.userId) = some { s with balance := c.balance + credit.amount }
  completed : d.row (.topup selector) = some (l.merge { l with
    status := .completed, approvedAt := some n, creditRef := some credit.creditRef } q)
  fresh : credit.creditRef ∉ topUpCreditRefs w.db.log
  log : d.log = w.db.log ++ [.topUpCredit credit selector,
    .transaction (topUpTransaction credit) none true]
  others : ∀ k, k ≠ .user credit.userId → k ≠ .topup selector → d.row k = w.db.row k

/-- One row is rewritten and the ledger is unchanged. -/
structure Rewrites (w : BankWorld) (d : BankDb) (k : Key) (r r' : Row k) : Prop where
  row : w.db.row k = some r
  new : d.row k = some r'
  log : d.log = w.db.log
  others : ∀ j, j ≠ k → d.row j = w.db.row j

/-- The columns a request that fails or expires may change. -/
structure Closes (q q' : TopUpApprovalRequest) : Prop where
  same : q' = { q with status := q'.status, failureCount := q'.failureCount }
  status : q'.status = q.status ∨
    ((q'.status = .failed ∨ q'.status = .expired) ∧ (R → q.status ≠ .completed))

structure Freezes (s s' : User) : Prop where
  same : s' = { s with isFrozen := true, securityLockedAt := s'.securityLockedAt,
                       securityLockReason := s'.securityLockReason }
  locked : s.securityLockedAt ≠ none → s'.securityLockedAt ≠ none

structure SetsLimits (s s' : User) : Prop where
  same : s' = { s with payupDailyLimit := s'.payupDailyLimit,
                       localTransferDailyLimit := s'.localTransferDailyLimit }

/-- The commits of the requests. -/
inductive BankStep (t : ℕ) (w : BankWorld) (d : BankDb) : Prop
  | localTransfer (txn : Transaction) (token : String) (p : PendingTransfer) (q : Payee)
      (n : ℤ) (c s c' s' : User) (h : LocalDeal P K t w txn token p q n c s c' s')
      (hm : Moves w d txn (.pending token) true c s c' s')
      (hp : d.row (.pending token) = some { p with
        consumedAt := some n, consumedTransactionRef := some txn.transactionRef })
  | payupTransfer (txn : Transaction) (token : String) (p : PayupPendingTransfer) (n : ℤ)
      (authorized : Bool) (c s c' s' : User)
      (h : PayupDeal P K cfg t w txn token p n authorized c s c' s')
      (hm : Moves w d txn (.payupPending token) authorized c s c' s')
      (hp : d.row (.payupPending token) = some { p with
        consumedAt := some n, consumedTransactionRef := some txn.transactionRef })
  | topUp (credit : Credit) (selector : String) (l q : TopUpApprovalRequest) (n : ℤ)
      (c s : User) (h : TopUpStep P R t w d credit selector l q n c s)
  | consume (token : String) (p : PendingTransfer) (n : ℤ) (hp : p.consumedAt = none)
      (h : Rewrites w d (.pending token) p { p with consumedAt := some n })
  | consumePayup (token : String) (p : PayupPendingTransfer) (n : ℤ)
      (hp : p.consumedAt = none)
      (h : Rewrites w d (.payupPending token) p { p with consumedAt := some n })
  | close (selector : String) (q q' : TopUpApprovalRequest) (hq : Closes R q q')
      (h : Rewrites w d (.topup selector) q q')
  | freeze (id : ℕ) (s s' : User) (hs : Freezes s s') (h : Rewrites w d (.user id) s s')
  | limits (id : ℕ) (s s' : User) (hs : SetsLimits s s') (h : Rewrites w d (.user id) s s')

/-- The status of a top-up request is not written from a copy that is older than its
completion. -/
def statusFresh (t : ℕ) (w : BankWorld) : Prop :=
  ∀ selector l c d, Key.topup selector ∈ (w.sess t).dirty →
    (w.sess t).cache (.topup selector) = some ⟨some l, c⟩ →
    w.db.row (.topup selector) = some d → c.status ≠ l.status →
    d.status = .completed → l.status = .completed

/-- The runs that are considered: what a lock of accounts returns is related to
the rows by `P`; the clock is read in states that satisfy `K`; and, if `R` is
assumed, no top-up request is completed between its test or its load and the
write of a status. -/
def stepCond (t : ℕ) (o : Op bank Err) (w : BankWorld) : Prop :=
  match o with
  | .lockRows ks => ∀ id s, Key.user id ∈ ks → w.db.row (.user id) = some s →
      P (copyOf w t id s) s
  | .now => K t w.db w.clock
  | .commit => R → statusFresh t w
  | .mark (.rereads tested found) => R → found = .completed → tested = .completed
  | _ => True

/-- Without an assumption on the copies of requests only locks and clock readings
are restricted. -/
theorem stepCond_of_locks {t : ℕ} {o : Op bank Err} {w : BankWorld}
    (hP : ∀ ks, o = .lockRows ks → ∀ id s, Key.user id ∈ ks →
      w.db.row (.user id) = some s → P (copyOf w t id s) s)
    (hK : o = .now → K t w.db w.clock) : stepCond P K False t o w := by
  cases o with
  | lockRows ks => exact hP ks rfl
  | now => exact hK rfl
  | commit => exact fun h => h.elim
  | mark p =>
      cases p with
      | rereads tested found => exact fun h => h.elim
      | validating | ledger | boundary | notifying | saving => trivial
  | load | select | selectAll | lockWhere | assign | addRow | add | query | rollback | uuid4
  | ask | check => trivial

def bankSpec : StepSpec bank Err where
  evolves := evolves
  commits := BankStep P K R cfg
  ext := BankExt
  cond := stepCond P K R

end Steps

section Laws

variable {P : User → User → Prop} {K : ℕ → BankDb → ℤ → Prop} {R : Prop}
  {cfg : Config}

theorem Rewrites.evolves_row {w : BankWorld} {d : BankDb} {k : Key} {r r' : Row k}
    (h : Rewrites w d k r r') (he : evolves k r r') (j : Key) (x : Row j)
    (hx : w.db.row j = some x) : ∃ x', d.row j = some x' ∧ evolves j x x' := by
  by_cases hj : j = k
  · subst hj
    cases h.row.symm.trans hx
    exact ⟨r', h.new, he⟩
  · exact ⟨x, (h.others j hj).trans hx, evolves_refl j x⟩

/-- Rows that a step does not mention stay as they are. -/
theorem evolves_other {w : BankWorld} {d : BankDb} {j : Key} {x : Row j}
    (h : d.row j = w.db.row j) (hx : w.db.row j = some x) :
    ∃ x', d.row j = some x' ∧ evolves j x x' :=
  ⟨x, h.trans hx, evolves_refl j x⟩

/-- Both kinds of transfer rewrite three rows. -/
theorem Moves.evolves_row {t : ℕ} {w : BankWorld} {d : BankDb} {txn : Transaction} {k : Key}
    {a : Bool} {c s c' s' : User} (hm : Moves w d txn k a c s c' s')
    (h : Deal P K t w txn c s c' s') {p p' : Row k} (hp : w.db.row k = some p)
    (hp' : d.row k = some p') (he : evolves k p p') (j : Key) (r : Row j)
    (hr : w.db.row j = some r) : ∃ r', d.row j = some r' ∧ evolves j r r' := by
  by_cases hs : j = .user txn.senderId
  · subst hs
    cases h.sender.row.symm.trans hr
    exact ⟨_, hm.debit, rfl, fun hf => hf, fun hl => hl⟩
  by_cases hr' : j = .user txn.recipientId
  · subst hr'
    cases h.recipient.row.symm.trans hr
    exact ⟨_, hm.credit, rfl, fun hf => hf, fun hl => hl⟩
  by_cases hk : j = k
  · subst hk
    cases hp.symm.trans hr
    exact ⟨p', hp', he⟩
  · exact evolves_other (hm.others j hs hr' hk) hr

theorem Closes.evolves {q q' : TopUpApprovalRequest} (h : Closes R q q') {selector : String} :
    evolves (.topup selector) q q' := by
  have hst : q.status ≠ .pending → q'.status ≠ .pending := by
    intro hq
    rcases h.status with hs | ⟨hs | hs, _⟩ <;> rw [hs]
    · exact hq
    · nofun
    · nofun
  refine ⟨?_, ?_, ?_, ?_, hst, ?_⟩ <;> rw [h.same]
  exact fun hnone => hnone

theorem Freezes.evolves {s s' : User} (h : Freezes s s') {id : ℕ} : evolves (.user id) s s' := by
  refine ⟨?_, fun _ => ?_, h.locked⟩ <;> rw [h.same]

theorem SetsLimits.evolves {s s' : User} (h : SetsLimits s s') {id : ℕ} :
    evolves (.user id) s s' := by
  refine ⟨?_, fun hf => ?_, fun hl => ?_⟩ <;> rw [h.same] <;> assumption

/-- What a completed top-up writes over the row. -/
theorem TopUpApprovalRequest.merge_complete (l q : TopUpApprovalRequest)
    (hl : l.status = .pending) (n : ℤ) (creditRef : String) :
    l.merge { l with
      status := .completed, approvedAt := some n, creditRef := some creditRef } q =
      { q with
        status := .completed
        approvedAt := col l.approvedAt (some n) q.approvedAt
        creditRef := col l.creditRef (some creditRef) q.creditRef } := by
  simp only [TopUpApprovalRequest.merge, col_same, hl]
  rw [col_ne (by decide)]

/-- A stale copy completes its request once more, but takes nothing back. -/
theorem TopUpStep.completes {t : ℕ} {w : BankWorld} {d : BankDb} {credit : Credit}
    {selector : String} {l q : TopUpApprovalRequest} {n : ℤ} {c s : User}
    (h : TopUpStep P R t w d credit selector l q n c s) :
    evolves (.topup selector) q (l.merge { l with
      status := .completed, approvedAt := some n, creditRef := some credit.creditRef } q) := by
  rw [TopUpApprovalRequest.merge_complete l q h.pending]
  refine ⟨rfl, rfl, rfl, rfl, fun _ => nofun, fun hnone => ?_⟩
  unfold col at hnone
  dsimp only at hnone
  split at hnone
  · exact hnone
  · cases hnone

theorem BankStep.evolves_row {t : ℕ} {w : BankWorld} {d : BankDb}
    (h : BankStep P K R cfg t w d) (k : Key) (r : Row k) (hr : w.db.row k = some r) :
    ∃ r', d.row k = some r' ∧ evolves k r r' := by
  cases h with
  | localTransfer txn token p q n c s c' s' h hm hp =>
      exact hm.evolves_row h.toDeal h.pending hp (.inr ⟨h.unconsumed, nofun, rfl⟩) k r hr
  | payupTransfer txn token p n a c s c' s' h hm hp =>
      exact hm.evolves_row h.toDeal h.pending hp (.inr ⟨h.unconsumed, nofun, rfl⟩) k r hr
  | topUp credit selector l q n c s h =>
      by_cases hu : k = .user credit.userId
      · subst hu
        cases h.account.row.symm.trans hr
        exact ⟨_, h.credited, rfl, fun hf => hf, fun hl => hl⟩
      by_cases hq : k = .topup selector
      · subst hq
        cases h.request.symm.trans hr
        exact ⟨_, h.completed, h.completes⟩
      · exact evolves_other (h.others k hu hq) hr
  | consume token p n hp h =>
      exact h.evolves_row (.inr ⟨hp, nofun, rfl⟩) k r hr
  | consumePayup token p n hp h =>
      exact h.evolves_row (.inr ⟨hp, nofun, rfl⟩) k r hr
  | close selector q q' hq h => exact h.evolves_row hq.evolves k r hr
  | freeze id s s' hs h => exact h.evolves_row hs.evolves k r hr
  | limits id s s' hs h => exact h.evolves_row hs.evolves k r hr

/-- Steps add no rows. -/
theorem BankStep.row_none {t : ℕ} {w : BankWorld} {d : BankDb} (h : BankStep P K R cfg t w d)
    {k : Key} (hk : w.db.row k = none) : d.row k = none := by
  have ne : ∀ {j : Key} {r : Row j}, w.db.row j = some r → k ≠ j := by
    rintro j r hr rfl
    rw [hk] at hr
    cases hr
  cases h with
  | localTransfer txn token p q n c s c' s' h hm hp =>
      rw [hm.others k (ne h.sender.row) (ne h.recipient.row) (ne h.pending), hk]
  | payupTransfer txn token p n a c s c' s' h hm hp =>
      rw [hm.others k (ne h.sender.row) (ne h.recipient.row) (ne h.pending), hk]
  | topUp credit selector l q n c s h => rw [h.others k (ne h.account.row) (ne h.request), hk]
  | consume token p n hp h => rw [h.others k (ne h.row), hk]
  | consumePayup token p n hp h => rw [h.others k (ne h.row), hk]
  | close selector q q' hq h => rw [h.others k (ne h.row), hk]
  | freeze id s s' hs h => rw [h.others k (ne h.row), hk]
  | limits id s s' hs h => rw [h.others k (ne h.row), hk]

/-- The row that a row has evolved from. -/
theorem BankStep.row_of {t : ℕ} {w : BankWorld} {d : BankDb} (h : BankStep P K R cfg t w d)
    {k : Key} {r' : Row k} (hr' : d.row k = some r') :
    ∃ r, w.db.row k = some r ∧ evolves k r r' := by
  cases hr : w.db.row k with
  | none =>
      rw [h.row_none hr] at hr'
      cases hr'
  | some r =>
      obtain ⟨x, hx, he⟩ := h.evolves_row k r hr
      cases hx.symm.trans hr'
      exact ⟨r, rfl, he⟩

/-- The ledger entries of an account are written under its lock. -/
theorem BankStep.sentBy_eq {t u : ℕ} {w : BankWorld} {d : BankDb}
    (h : BankStep P K R cfg u w d) (hut : u ≠ t) {id : ℕ}
    (hid : w.lock (.user id) = some t) : sentBy id d.log = sentBy id w.db.log := by
  have key : ∀ j, w.lock (.user j) = some u → j ≠ id := by
    rintro j hj rfl
    rw [hid] at hj
    exact hut (Option.some.inj hj).symm
  cases h with
  | localTransfer txn token p q n c s c' s' h hm hp =>
      have := key _ h.sender.lock
      rw [hm.log]
      simp [sentBy, this]
  | payupTransfer txn token p n a c s c' s' h hm hp =>
      have := key _ h.sender.lock
      rw [hm.log]
      simp [sentBy, this]
  | topUp credit selector l q n c s h =>
      have := key _ h.account.lock
      rw [h.log]
      simp [sentBy, topUpTransaction, this]
  | consume token p n hp h => rw [h.log]
  | consumePayup token p n hp h => rw [h.log]
  | close selector q q' hq h => rw [h.log]
  | freeze id s s' hs h => rw [h.log]
  | limits id s s' hs h => rw [h.log]

theorem bankSpec_lawful : (bankSpec P K R cfg).Lawful where
  evolves_refl := evolves_refl
  evolves_trans := evolves_trans
  commits_evolves _ _ _ h := h.evolves_row
  ext_refl _ _ := ⟨fun _ _ => rfl, fun k r hr => ⟨r, hr, evolves_refl k r⟩⟩
  ext_trans _ _ _ _ hl h h' := by
    refine ⟨fun id hid => (h'.sent id (hl _ hid)).trans (h.sent id hid), fun k r hr => ?_⟩
    obtain ⟨r₁, hr₁, he₁⟩ := h.row k r hr
    obtain ⟨r₂, hr₂, he₂⟩ := h'.row k r₁ hr₁
    exact ⟨r₂, hr₂, evolves_trans k r r₁ r₂ he₁ he₂⟩
  ext_quiet _ w w' hdb := by
    refine ⟨fun _ _ => by rw [hdb], fun k r hr => ⟨r, by rw [hdb]; exact hr, evolves_refl k r⟩⟩
  ext_commits _ _ _ _ hut _ _ h := ⟨fun _ hid => h.sentBy_eq hut hid, h.evolves_row⟩

end Laws

end SitBank.Banking
