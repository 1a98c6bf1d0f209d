import SitBank.Banking.System

/-!
A confirmed transfer is spent at most once, and only as it was confirmed.

A confirmation is locked where it is still unconsumed, and its consumption is
committed with the transaction or before it. The stale instances that endanger
balances are harmless here: nothing but the consumption is ever written to a
confirmation, and the lock is only granted on an unconsumed row.
-/

namespace SitBank.Banking

open SitBank.Interaction SitBank.Orm SitBank.Python

/-- A completed transaction that executes the confirmation `k`. -/
def isSpendingOf (k : Key) : Ledger → Bool
  | .transaction txn (some k') _ => k' = k && txn.status = .completed
  | _ => false

/-- The confirmation is marked as consumed. -/
def Consumed (d : BankDb) : Key → Prop
  | .pending token => ∃ p, d.row (.pending token) = some p ∧ p.consumedAt ≠ none
  | .payupPending token => ∃ p, d.row (.payupPending token) = some p ∧ p.consumedAt ≠ none
  | _ => False

/-- What was added to the ledger since `db` spends every confirmation at most
once, and the confirmations it spends are consumed. -/
def SpentOnce (db d : BankDb) : Prop :=
  ∃ new, d.log = db.log ++ new ∧ ∀ k, (new.filter (isSpendingOf k)).length ≤ 1 ∧
    (new.filter (isSpendingOf k) ≠ [] → Consumed d k)

/-- The length that the column admits. -/
def ShortReferences (d : BankDb) : Prop :=
  (∀ token p, d.row (.pending token) = some p → p.reference.length ≤ 128) ∧
    ∀ token p, d.row (.payupPending token) = some p → p.reference.length ≤ 128

section Steps

variable {P : User → User → Prop} {K : ℕ → BankDb → ℤ → Prop} {R : Prop}
  {cfg : Config} {t : ℕ} {w : BankWorld} {d : BankDb}

theorem Consumed.step {k : Key} (h : Consumed w.db k) (hs : BankStep P K R cfg t w d) :
    Consumed d k := by
  cases k with
  | pending token =>
      obtain ⟨p, hp, hc⟩ := h
      obtain ⟨p', hp', rfl | ⟨hn, _⟩⟩ := hs.evolves_row (.pending token) p hp
      · exact ⟨p', hp', hc⟩
      · exact absurd hn hc
  | payupPending token =>
      obtain ⟨p, hp, hc⟩ := h
      obtain ⟨p', hp', rfl | ⟨hn, _⟩⟩ := hs.evolves_row (.payupPending token) p hp
      · exact ⟨p', hp', hc⟩
      · exact absurd hn hc
  | user id => exact h.elim
  | payee id => exact h.elim
  | topup selector => exact h.elim

/-- The ledger grows by entries that spend nothing. -/
theorem SpentOnce.append {db : BankDb} (h : SpentOnce db w.db) (hs : BankStep P K R cfg t w d)
    {l : List Ledger} (hlog : d.log = w.db.log ++ l)
    (hnew : ∀ k, l.filter (isSpendingOf k) = []) : SpentOnce db d := by
  obtain ⟨old, hold, h⟩ := h
  refine ⟨old ++ l, by rw [hlog, hold, List.append_assoc], fun k => ?_⟩
  rw [List.filter_append, hnew, List.append_nil]
  exact ⟨(h k).1, fun hne => ((h k).2 hne).step hs⟩

theorem SpentOnce.same {db : BankDb} (h : SpentOnce db w.db) (hs : BankStep P K R cfg t w d)
    (hlog : d.log = w.db.log) : SpentOnce db d :=
  h.append hs (l := []) (by rw [hlog, List.append_nil]) fun _ => rfl

/-- An unconsumed confirmation is spent and consumed. -/
theorem SpentOnce.spend {db : BankDb} (h : SpentOnce db w.db) (hs : BankStep P K R cfg t w d)
    {txn : Transaction} {k : Key} {a : Bool}
    (hlog : d.log = w.db.log ++ [.transaction txn (some k) a])
    (hbefore : ¬Consumed w.db k) (hafter : Consumed d k) : SpentOnce db d := by
  obtain ⟨old, hold, h⟩ := h
  refine ⟨old ++ [.transaction txn (some k) a], by rw [hlog, hold, List.append_assoc],
    fun j => ?_⟩
  rw [List.filter_append]
  by_cases hj : k = j
  · subst hj
    have hnone : old.filter (isSpendingOf k) = [] := by
      by_contra hne
      exact hbefore ((h k).2 hne)
    rw [hnone, List.nil_append]
    exact ⟨List.length_filter_le _ _, fun _ => hafter⟩
  · have hother : [Ledger.transaction txn (some k) a].filter (isSpendingOf j) = [] := by
      simp [isSpendingOf, hj]
    rw [hother, List.append_nil]
    exact ⟨(h j).1, fun hne => ((h j).2 hne).step hs⟩

theorem SpentOnce.step {db : BankDb} (h : SpentOnce db w.db)
    (hs : BankStep P K R cfg t w d) : SpentOnce db d := by
  have hs' := hs
  cases hs with
  | localTransfer txn token p q n c s c' s' hd hm hp =>
      refine h.spend hs' hm.log ?_ ⟨_, hp, nofun⟩
      rintro ⟨p', hp', hc⟩
      cases hp'.symm.trans hd.pending
      exact hc hd.unconsumed
  | payupTransfer txn token p n a c s c' s' hd hm hp =>
      refine h.spend hs' hm.log ?_ ⟨_, hp, nofun⟩
      rintro ⟨p', hp', hc⟩
      cases hp'.symm.trans hd.pending
      exact hc hd.unconsumed
  | topUp credit selector l q n c s ht => exact h.append hs' ht.log fun _ => rfl
  | consume token p n hp hr => exact h.same hs' hr.log
  | consumePayup token p n hp hr => exact h.same hs' hr.log
  | close selector q q' hq hr => exact h.same hs' hr.log
  | freeze id s s' hf hr => exact h.same hs' hr.log
  | limits id s s' hl hr => exact h.same hs' hr.log

theorem ShortReferences.step (h : ShortReferences w.db) (hs : BankStep P K R cfg t w d) :
    ShortReferences d := by
  refine ⟨fun token p' hp' => ?_, fun token p' hp' => ?_⟩
  · obtain ⟨p, hp, rfl | ⟨_, _, he⟩⟩ := hs.row_of hp'
    · exact h.1 token p' hp
    · rw [he]
      exact h.1 token p hp
  · obtain ⟨p, hp, rfl | ⟨_, _, he⟩⟩ := hs.row_of hp'
    · exact h.2 token p' hp
    · rw [he]
      exact h.2 token p hp

end Steps

/-! ### What a spending transaction is -/

/-- On the way from `x₀` to `x`, request `t` read the clock as `n`. -/
def ReadClock (x₀ x : BankConf) (t : ℕ) (n : ℤ) : Prop :=
  ∃ w, Visited exec x₀ x t .now w ∧ w.clock = n

/-- Request `t` commits `txn` for the confirmation `p` of a local transfer. -/
structure LocalSpending (x₀ x y : BankConf) (t : ℕ) (txn : Transaction) (token : String)
    (p : PendingTransfer) (n : ℤ) : Prop where
  row : x.world.db.row (.pending token) = some p
  unconsumed : p.consumedAt = none
  read : ReadClock x₀ x t n
  unexpired : n ≤ p.expiresAt
  sender : p.userId = txn.senderId
  amount : p.amount = 1000 * txn.amount
  reference : txn.reference = p.reference
  payee : txn.payeeId = some p.payeeId
  recipient : ∃ q u, x.world.db.row (.payee p.payeeId) = some q ∧
    x.world.db.row (.user txn.recipientId) = some u ∧ u.accountNumber = some q.accountNumber
  consumed : y.world.db.row (.pending token) = some { p with
    consumedAt := some n, consumedTransactionRef := some txn.transactionRef }

/-- Request `t` commits `txn` for the confirmation `p` of a PayUp transfer. -/
structure PayupSpending (x₀ x y : BankConf) (t : ℕ) (txn : Transaction) (token : String)
    (p : PayupPendingTransfer) (n : ℤ) : Prop where
  row : x.world.db.row (.payupPending token) = some p
  unconsumed : p.consumedAt = none
  read : ReadClock x₀ x t n
  unexpired : n ≤ p.expiresAt
  sender : p.userId = txn.senderId
  amount : p.amount = 1000 * txn.amount
  reference : txn.reference = p.reference
  recipient : txn.recipientId = p.recipientUserId
  consumed : y.world.db.row (.payupPending token) = some { p with
    consumedAt := some n, consumedTransactionRef := some txn.transactionRef }

def Spending (x₀ x y : BankConf) (t : ℕ) (txn : Transaction) : Key → Prop
  | .pending token => ∃ p n, LocalSpending x₀ x y t txn token p n
  | .payupPending token => ∃ p n, PayupSpending x₀ x y t txn token p n
  | _ => False

theorem wholeCents_some {amount cents : ℤ} (h : wholeCents amount = some cents) :
    amount = 1000 * cents := by
  unfold wholeCents at h
  split at h
  · cases h
    omega
  · cases h

theorem spending_of_step {x₀ x y : BankConf} {cfg : Config} {t : ℕ}
    {P : User → User → Prop} {R : Prop}
    (hshort : ShortReferences x.world.db)
    (hs : BankStep P (fun t _ n => ReadClock x₀ x t n) R cfg t x.world y.world.db) :
    ∃ new, y.world.db.log = x.world.db.log ++ new ∧
      ∀ txn k a, .transaction txn (some k) a ∈ new → Spending x₀ x y t txn k := by
  have quiet : ∀ {k : Key} {r r' : Row k}, Rewrites x.world y.world.db k r r' →
      ∃ new, y.world.db.log = x.world.db.log ++ new ∧
        ∀ txn k a, .transaction txn (some k) a ∈ new → Spending x₀ x y t txn k :=
    fun h => ⟨[], by rw [h.log, List.append_nil],
      fun _ _ _ hmem => absurd hmem List.not_mem_nil⟩
  cases hs with
  | localTransfer txn token p q n c s c' s' hd hm hp =>
      refine ⟨_, hm.log, fun txn' k a hmem => ?_⟩
      cases List.mem_singleton.mp hmem
      obtain ⟨_, hread⟩ := hd.read
      refine ⟨p, n, hd.pending, hd.unconsumed, hread, hd.unexpired, hd.owner,
        wholeCents_some hd.amount, ?_, hd.payee,
        ⟨q, s', hd.payeeRow, hd.recipient.row, hd.payeeAccount⟩, hp⟩
      rw [hd.reference, truncate_of_length_le (hshort.1 token p hd.pending)]
  | payupTransfer txn token p n a c s c' s' hd hm hp =>
      refine ⟨_, hm.log, fun txn' k a hmem => ?_⟩
      cases List.mem_singleton.mp hmem
      obtain ⟨_, hread⟩ := hd.read
      refine ⟨p, n, hd.pending, hd.unconsumed, hread, hd.unexpired, hd.owner,
        wholeCents_some hd.amount, ?_, hd.recipientId, hp⟩
      rw [hd.reference, truncate_of_length_le (hshort.2 token p hd.pending)]
  | topUp credit selector l q n c s ht =>
      refine ⟨_, ht.log, fun txn k a hmem => ?_⟩
      simp at hmem
  | consume token p n hp hr => exact quiet hr
  | consumePayup token p n hp hr => exact quiet hr
  | close selector q q' hq hr => exact quiet hr
  | freeze id s s' hf hr => exact quiet hr
  | limits id s s' hl hr => exact quiet hr

/-! ### Runs -/

/-- In every interleaving, every confirmation is spent at most once, and the
transaction that spends it is the one that was confirmed. -/
theorem confirmation_spent_once (cfg : Config) (before : ℕ → List Before)
    (requests : ℕ → Request) (db : BankDb) (clock : ℤ) (hdb : ShortReferences db) (x : BankConf)
    (hx : Reach exec (fun _ _ _ => True) (start cfg before requests db clock) x) :
    (∃ new, x.world.db.log = db.log ++ new ∧
      ∀ k, (new.filter (isSpendingOf k)).length ≤ 1) ∧
    ∀ t c y, step exec x t c = some y →
      ∃ new, y.world.db.log = x.world.db.log ++ new ∧
        ∀ txn k a, .transaction txn (some k) a ∈ new →
          Spending (start cfg before requests db clock) x y t txn k := by
  have hcond : ∀ {t o w}, Visited exec (start cfg before requests db clock) x t o w →
      stepCond (fun _ _ => True) (fun t _ n => ReadClock (start cfg before requests db clock) x t n)
        False t o w := by
    intro t o w hv
    refine stepCond_of_locks _ _ (fun _ _ _ _ _ _ => trivial) fun ho => ?_
    subst ho
    exact ⟨w, hv, rfl⟩
  have hreach := (reach_visited hx).mono fun _ _ _ => hcond
  have hspent : SpentOnce db x.world.db := by
    refine reach_preserves (fun _ _ _ hw hs => hw.step hs) ?_ hreach
    exact ⟨[], (List.append_nil _).symm, fun _ => ⟨Nat.zero_le _, fun h => absurd rfl h⟩⟩
  have hshort : ShortReferences x.world.db :=
    reach_preserves (fun _ _ _ hw hs => hw.step hs) hdb hreach
  obtain ⟨new, hnew, hk⟩ := hspent
  refine ⟨⟨new, hnew, fun k => (hk k).1⟩, fun t c y hs => ?_⟩
  have hm : Meets (stepCond (fun _ _ => True)
      (fun t _ n => ReadClock (start cfg before requests db clock) x t n) False) x t := by
    obtain ⟨o, k, _, _, hop, _, _⟩ := step_cases exec hs
    rw [Meets, hop]
    exact hcond ⟨x, k, hx, .refl, rfl, hop⟩
  rcases step_commits hreach hm hs with hsame | hstep
  · refine ⟨[], by rw [hsame, List.append_nil], fun txn k a hmem => ?_⟩
    cases hmem
  · exact spending_of_step hshort hstep

theorem sampleDb_shortReferences : ShortReferences sampleDb := by
  refine ⟨fun token p hp => ?_, fun token p hp => ?_⟩
  · simp only [sampleDb] at hp
    split at hp
    · cases hp
      decide
    · cases hp
  · cases hp

/-- The last step of a transfer spends its confirmation. -/
theorem confirmation_spent_once_transfer :
    ShortReferences sampleDb ∧ ∃ x y : BankConf,
      Reach exec (fun _ _ _ => True) twoTransfers x ∧ step exec x 1 (succeed "y") = some y ∧
      ∃ txn, Spending twoTransfers x y 1 txn (.pending "b") := by
  refine ⟨sampleDb_shortReferences, ?_⟩
  have hrun : (run exec twoTransfers (succeeds 1 31 "y")).any (fun x =>
      (step exec x 1 (succeed "y")).any fun y =>
        (y.world.db.log.drop x.world.db.log.length).any (isSpendingOf (.pending "b"))) = true := by
    decide +kernel
  obtain ⟨x, hx, hstep⟩ := (Option.any_eq_true ..).mp hrun
  obtain ⟨y, hy, hany⟩ := (Option.any_eq_true ..).mp hstep
  have hreach := reach_of_run exec .refl hx
  obtain ⟨new, hnew, h⟩ := (confirmation_spent_once _ _ _ _ _ sampleDb_shortReferences x
    hreach).2 1 (succeed "y") y hy
  rw [hnew, List.drop_left] at hany
  obtain ⟨entry, hmem, hentry⟩ := List.any_eq_true.mp hany
  refine ⟨x, y, hreach, hy, ?_⟩
  cases entry with
  | transaction txn k a =>
      cases k with
      | none => cases hentry
      | some k =>
          have hk : k = .pending "b" := by
            simp only [isSpendingOf, Bool.and_eq_true, decide_eq_true_eq] at hentry
            exact hentry.1
          subst hk
          exact ⟨txn, h txn _ a hmem⟩
  | topUpCredit credit request => cases hentry
  | registrationCredit credit => cases hentry

end SitBank.Banking
