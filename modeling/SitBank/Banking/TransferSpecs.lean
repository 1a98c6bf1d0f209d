import SitBank.Banking.Helpers

/-!
The transfers commit nothing but a transfer or a consumed confirmation.

Each stage of a transfer is specified by what it returns and by the instances
and locks it leaves behind. The stages up to the booking only read, except that
the confirmation is marked as consumed on the way; from there on, the session
can be committed at any time, with the confirmation consumed and nothing else
changed.
-/

namespace SitBank.Banking

open SitBank.Interaction SitBank.Orm SitBank.Python

variable {P : User → User → Prop} {K : ℕ → BankDb → ℤ → Prop} {R : Prop}
  {cfg : Config} {t : ℕ} {w : BankWorld}

/-- The committed row behind a copy. -/
theorem Copy.row (hi : (bankSpec P K R cfg).inv w) {k : Key} {x : Row k}
    (h : Copy (S := bank) t w k x) : ∃ d, w.db.row k = some d ∧ evolves k x d :=
  hi.2 t k _ x h rfl

/-- A confirmation that is not consumed is as it was loaded. -/
theorem eq_of_evolves {token : String} {p d : PendingTransfer}
    (h : evolves (.pending token) p d) (hd : d.consumedAt = none) : d = p := by
  rcases h with h | ⟨_, h, _⟩
  · exact h
  · exact absurd hd h

theorem payup_eq_of_evolves {token : String} {p d : PayupPendingTransfer}
    (h : evolves (.payupPending token) p d) (hd : d.consumedAt = none) : d = p := by
  rcases h with h | ⟨_, h, _⟩
  · exact h
  · exact absurd hd h

section Checks

variable (hσ : (bankSpec P K R cfg).Lawful) (hi : (bankSpec P K R cfg).inv w)
include hσ hi

theorem finds_ensureOutboundTransferAllowed (hidle : Idle t w) (user : ℕ) :
    Finds (bankSpec P K R cfg) t (ensureOutboundTransferAllowed user)
      (fun _ w' => ∃ c : User, Copy (S := bank) t w' (.user user) c ∧ c.frozen = false) w := by
  refine Finds.bind hσ hi (Finds.load_copy hσ (.inl hidle) (hidle.not_mem _))
    fun c w₁ hi₁ hg₁ hc => ?_
  have hs₁ : Settled (bankSpec P K R cfg) t w₁ := .inl (hidle.grows hg₁)
  refine ((finds_ensureAccountNotFrozen hσ hs₁ c _).tryCatch fun e => ?_).mono
    fun _ w₂ hg₂ hf => ⟨c, hc.grows hg₂, hf⟩
  exact .bind ((passive_auditEvent _).quiet hσ) fun _ => .raise e

omit hσ hi in
theorem userByAccountNumber_some {accountNumber : String} {db : BankDb} {k : Key}
    (h : userByAccountNumber cfg accountNumber db = some k) :
    ∃ id u, k = .user id ∧ db.row (.user id) = some u ∧ u.accountNumber = some accountNumber := by
  obtain ⟨id, hid, rfl⟩ := Option.map_eq_some_iff.mp h
  have hany := List.find?_some hid
  cases hu : db.row (.user id) with
  | none => simp [hu] at hany
  | some u => exact ⟨id, u, rfl, hu, by simpa [hu] using hany⟩

theorem finds_localTransferRecipient (hidle : Idle t w) (sender payee : ℕ) :
    Finds (bankSpec P K R cfg) t (localTransferRecipient cfg sender payee)
      (fun recipient w' => recipient ≠ sender ∧ ∃ q c', Copy (S := bank) t w' (.payee payee) q ∧
        Copy (S := bank) t w' (.user recipient) c' ∧
        c'.accountNumber = some q.accountNumber) w := by
  refine Finds.bind hσ hi (Finds.load_copy hσ (.inl hidle) (hidle.not_mem _))
    fun q w₁ hi₁ hg₁ hq => ?_
  have hidle₁ := hidle.grows hg₁
  have hs₁ : Settled (bankSpec P K R cfg) t w₁ := .inl hidle₁
  split
  · exact Finds.of_fails (.bind (Quiet.check hσ _) fun _ => fails_rejectLocalTransfer hσ _ _ _) hs₁
  refine Finds.bind hσ hi₁ (Finds.select hσ _) fun found w₂ hi₂ hg₂ hfound => ?_
  have hidle₂ := hidle₁.grows hg₂
  have hs₂ : Settled (bankSpec P K R cfg) t w₂ := .inl hidle₂
  rw [hidle₁.apply] at hfound
  obtain ⟨hfound, hcached⟩ := hfound
  split
  · next recipient =>
      obtain ⟨id, u, hid, hu, hnumber⟩ := userByAccountNumber_some hfound.symm
      cases hid
      -- the instance may be older than the row, but account numbers do not change
      obtain ⟨e, he⟩ := hcached _ u rfl hu
      have hc' := hi₂.1.copy he (hidle₂.not_mem _)
      obtain ⟨d, hd, hev⟩ := Copy.row hi₂ hc'
      cases hd.symm.trans hu
      split
      · exact Finds.of_fails (fails_rejectLocalTransfer hσ _ _ _) hs₂
      · next hne =>
          refine Finds.bind hσ hi₂ (Finds.load hσ hs₂ _) fun r w₃ hi₃ hg₃ _ => ?_
          split
          · refine Finds.ret hσ ⟨hne, q, e.current, (hq.grows hg₂).grows hg₃, hc'.grows hg₃, ?_⟩
            rw [← hnumber, hev.1]
          · exact Finds.of_fails (fails_rejectLocalTransfer hσ _ _ _) (.inl (hidle₂.grows hg₃))
  · exact Finds.of_fails (.bind (Quiet.check hσ _) fun _ => fails_rejectLocalTransfer hσ _ _ _) hs₂

theorem finds_ensurePayeeCooldownElapsed (hs : Settled (bankSpec P K R cfg) t w)
    (sender payee : ℕ) (now : ℤ) :
    Finds (bankSpec P K R cfg) t (ensurePayeeCooldownElapsed cfg sender payee now)
      (fun _ _ => True) w := by
  refine Finds.bind hσ hi (Finds.load hσ hs _) fun q w₁ hi₁ hg₁ _ => ?_
  split
  · exact Finds.of_fails (fails_rejectLocalTransfer hσ _ _ _) (hs.grows hσ hg₁)
  · exact Finds.ret hσ trivial

omit hσ hi in
theorem unconsumedTransfer_some {token : String} {sender payee : ℕ} {db : BankDb} {k : Key}
    (h : unconsumedTransfer token sender payee db = some k) :
    k = .pending token ∧ ∃ p, db.row (.pending token) = some p ∧ p.userId = sender ∧
      p.payeeId = payee ∧ p.consumedAt = none := by
  unfold unconsumedTransfer at h
  split at h
  · next p hp =>
      split at h
      · next hc => exact ⟨(Option.some.inj h).symm, p, hp, hc⟩
      · cases h
  · cases h

/-- What is known of the confirmation once it is locked. -/
structure PendingHeld (t : ℕ) (w : BankWorld) (token : String) (sender payee : ℕ) (n : ℤ)
    (p : PendingTransfer) : Prop where
  copy : Copy (S := bank) t w (.pending token) p
  lock : w.lock (.pending token) = some t
  row : w.db.row (.pending token) = some p
  owner : p.userId = sender
  payee : p.payeeId = payee
  unconsumed : p.consumedAt = none
  unexpired : n ≤ p.expiresAt

theorem finds_loadPendingLocalTransfer (hidle : Idle t w) (sender payee : ℕ)
    (confirmationToken : String) (n : ℤ) :
    Finds (bankSpec P K R cfg) t (loadPendingLocalTransfer cfg sender payee confirmationToken n)
      (fun p w' => PendingHeld t w' (cfg.localTransferTokenVerifier confirmationToken)
        sender payee n p) w := by
  refine Finds.bind hσ hi (Finds.lockWhere hσ _) fun found w₁ hi₁ hg₁ hfound => ?_
  have hidle₁ := hidle.grows hg₁
  have hs₁ : Settled (bankSpec P K R cfg) t w₁ := .inl hidle₁
  split
  · exact Finds.of_fails (fails_rejectLocalTransfer hσ _ _ _) hs₁
  · next k =>
      obtain ⟨hlock, hq, hcopy⟩ := hfound k rfl
      rw [hidle.apply] at hq
      obtain ⟨rfl, d, hd, howner, hpayee, hunconsumed⟩ := unconsumedTransfer_some hq
      have hc := hcopy d hd (hidle.not_mem _)
      -- the instance may have been loaded before the lock, but it is still current
      obtain ⟨d', hd', hev⟩ := Copy.row hi₁ hc
      cases hd'.symm.trans hd
      have heq := eq_of_evolves hev hunconsumed
      rw [← heq] at hc
      refine Finds.bind hσ hi₁ (Finds.load_known hσ hs₁ hc) fun p w₂ hi₂ hg₂ hp => ?_
      subst hp
      split
      · exact Finds.of_fails (fails_rejectLocalTransfer hσ _ _ _) (.inl (hidle₁.grows hg₂))
      · next hexp =>
          refine Finds.ret hσ ⟨hc.grows hg₂, hg₂.lock _ hlock, ?_, howner, hpayee,
            hunconsumed, not_lt.mp hexp⟩
          rw [hg₂.row _ hlock, hd]

end Checks

/-! ### Sessions with one changed row -/

/-- The session has changed the row `k`, from `l` to `c`, and nothing else. -/
structure Touched (t : ℕ) (w : BankWorld) (k : Key) (l c : Row k) : Prop where
  cache : (w.sess t).cache k = some ⟨some l, c⟩
  dirty : ∀ j, j ∈ (w.sess t).dirty ↔ j = k
  new : (w.sess t).new = []

theorem Touched.grows {σ : StepSpec bank Err} {w' : BankWorld} {k : Key} {l c : Row k}
    (h : Touched t w k l c) (hg : Grows σ t w w') : Touched t w' k l c where
  cache := hg.keep k _ h.cache
  dirty j := by rw [hg.dirty]; exact h.dirty j
  new := hg.new.trans h.new

/-- The first assignment to a row. -/
theorem Touched.of_put {w' : BankWorld} {k : Key} {l c : Row k} (hidle : Idle t w)
    (hs : w'.sess t = (w.sess t).put k ⟨some l, c⟩) : Touched t w' k l c where
  cache := by rw [hs, Session.put_cache_self]
  dirty j := by rw [hs, Session.put_dirty, hidle.dirty]; simp
  new := by rw [hs, Session.put_new, hidle.new]

/-- A further assignment to the same row. -/
theorem Touched.put {w' : BankWorld} {k : Key} {l c c' : Row k} (h : Touched t w k l c)
    (hs : w'.sess t = (w.sess t).put k ⟨some l, c'⟩) : Touched t w' k l c' where
  cache := by rw [hs, Session.put_cache_self]
  dirty j := by
    rw [hs, Session.put_dirty, List.mem_cons, h.dirty]
    exact or_self_iff
  new := by rw [hs, Session.put_new, h.new]

theorem Touched.rewrites {k : Key} {l c d : Row k} (h : Touched t w k l c)
    (hd : w.db.row k = some d) : Rewrites w (w.view t) k d (mergeRow k l c d) where
  row := hd
  new := view_row_of_mem ((h.dirty k).mpr rfl) h.cache hd
  log := by rw [view_log, h.new, List.append_nil]
  others j hj := view_row_of_not_mem fun hm => hj ((h.dirty j).mp hm)

/-! ### Consumed confirmations -/

theorem PendingTransfer.merge_eq (l d : PendingTransfer) (at_ : Option ℤ)
    (ref : Option String) :
    l.merge { l with consumedAt := at_, consumedTransactionRef := ref } d =
      { d with consumedAt := col l.consumedAt at_ d.consumedAt,
               consumedTransactionRef :=
                 col l.consumedTransactionRef ref d.consumedTransactionRef } := by
  simp [PendingTransfer.merge]

theorem PayupPendingTransfer.merge_eq (l d : PayupPendingTransfer) (at_ : Option ℤ)
    (ref : Option String) :
    l.merge { l with consumedAt := at_, consumedTransactionRef := ref } d =
      { d with consumedAt := col l.consumedAt at_ d.consumedAt,
               consumedTransactionRef :=
                 col l.consumedTransactionRef ref d.consumedTransactionRef } := by
  simp [PayupPendingTransfer.merge]

theorem Touched.consumes {token : String} {p : PendingTransfer} {n : ℤ}
    (h : Touched t w (.pending token) p { p with consumedAt := some n })
    (hp : w.db.row (.pending token) = some p) (hun : p.consumedAt = none) :
    Rewrites w (w.view t) (.pending token) p { p with consumedAt := some n } := by
  have hm : mergeRow (.pending token) p { p with consumedAt := some n } p =
      { p with consumedAt := some n } := by
    change p.merge _ p = _
    rw [PendingTransfer.merge_eq p p (some n) p.consumedTransactionRef, col_same, hun,
      col_ne (by simp)]
  exact hm ▸ h.rewrites hp

theorem Touched.consumesPayup {token : String} {p : PayupPendingTransfer} {n : ℤ}
    (h : Touched t w (.payupPending token) p { p with consumedAt := some n })
    (hp : w.db.row (.payupPending token) = some p) (hun : p.consumedAt = none) :
    Rewrites w (w.view t) (.payupPending token) p { p with consumedAt := some n } := by
  have hm : mergeRow (.payupPending token) p { p with consumedAt := some n } p =
      { p with consumedAt := some n } := by
    change p.merge _ p = _
    rw [PayupPendingTransfer.merge_eq p p (some n) p.consumedTransactionRef, col_same, hun,
      col_ne (by simp)]
  exact hm ▸ h.rewrites hp

theorem settled_consume {token : String} {p : PendingTransfer} {n : ℤ}
    (h : Touched t w (.pending token) p { p with consumedAt := some n })
    (hlock : w.lock (.pending token) = some t) (hp : w.db.row (.pending token) = some p)
    (hun : p.consumedAt = none) : Settled (bankSpec P K R cfg) t w := by
  refine .inr fun w' hg _ _ _ => .consume token p n hun ?_
  exact (h.grows hg).consumes ((hg.row _ hlock).trans hp) hun

theorem settled_consumePayup {token : String} {p : PayupPendingTransfer} {n : ℤ}
    (h : Touched t w (.payupPending token) p { p with consumedAt := some n })
    (hlock : w.lock (.payupPending token) = some t)
    (hp : w.db.row (.payupPending token) = some p)
    (hun : p.consumedAt = none) : Settled (bankSpec P K R cfg) t w := by
  refine .inr fun w' hg _ _ _ => .consumePayup token p n hun ?_
  exact (h.grows hg).consumesPayup ((hg.row _ hlock).trans hp) hun

/-! ### Locked accounts -/

/-- The account is locked, and the session works on an unchanged copy of it. -/
structure Working (P : User → User → Prop) (t : ℕ) (w : BankWorld) (id : ℕ) (c s : User) : Prop
    extends Held P t w id c s where
  copy : Copy (S := bank) t w (.user id) c

theorem Held.grows {σ : StepSpec bank Err} {w' : BankWorld} {id : ℕ} {c s : User}
    (h : Held P t w id c s) (hg : Keeps σ t w w') : Held P t w' id c s where
  row := (hg.row _ h.lock).trans h.row
  lock := hg.lock _ h.lock
  related := h.related

theorem Working.grows {σ : StepSpec bank Err} {w' : BankWorld} {id : ℕ} {c s : User}
    (h : Working P t w id c s) (hg : Grows σ t w w') : Working P t w' id c s where
  toHeld := h.toHeld.grows hg.toKeeps
  copy := h.copy.grows hg

theorem finds_lockAccounts (hσ : (bankSpec P K R cfg).Lawful) (hi : (bankSpec P K R cfg).inv w)
    (ks : List Key) :
    Finds (bankSpec P K R cfg) t (lockRows ks) (fun _ w' => ∀ id c, Key.user id ∈ ks →
      Copy (S := bank) t w (.user id) c → ∃ s, Working P t w' id c s) w := by
  have hinv := Holds.with_inv (Finds.lockRows hσ (t := t) (w := w) ks) hi
  refine Holds.mono hinv fun r w' h => ?_
  cases r with
  | error e => exact h.2
  | ok u =>
      obtain ⟨hi', hg, hlock, hcopy, w₁, hs₁, hdb₁, hcond⟩ := h
      refine ⟨hg, fun id c hid hc => ?_⟩
      have hc' : Copy (S := bank) t w' (.user id) c := hc.grows hg
      obtain ⟨s, hs, _⟩ := Copy.row hi' hc'
      have hrel : P (copyOf w₁ t id s) s := hcond id s hid (by rw [hdb₁]; exact hs)
      have hcopyOf : copyOf w₁ t id s = c := by
        have hc₁ : (w₁.sess t).cache (.user id) = some ⟨some c, c⟩ := by rw [hs₁]; exact hc
        simp only [copyOf, hc₁]
      rw [hcopyOf] at hrel
      exact ⟨s, ⟨hs, hlock _ hid, hrel⟩, hc'⟩

theorem User.merge_balance (c s : User) (b : ℤ) :
    c.merge { c with balance := b } s = { s with balance := col c.balance b s.balance } := by
  simp [User.merge]

theorem amount_pos {amount : ℤ} (h : withinBounds amount = true) : 0 < amount := by
  simp only [withinBounds, Bool.and_eq_true, decide_eq_true_eq] at h
  exact lt_of_lt_of_le Int.one_pos h.1

/-! ### What a transfer knows, at a later world of its transaction -/

/-- The amounts sent from an account depend on its own entries only. -/
theorem amountSent_congr {user : ℕ} {log log' : List Ledger}
    (h : sentBy user log = sentBy user log') (type : TransactionType) (since : ℤ) :
    amountSent user type since log = amountSent user type since log' := by
  have key : ∀ l : List Ledger,
      l.filter (isSent user type since) = (sentBy user l).filter (isSent user type since) := by
    intro l
    rw [sentBy, List.filter_filter]
    refine List.filter_congr fun x _ => ?_
    cases x with
    | transaction txn sp a =>
        by_cases hx : txn.senderId = user <;> simp [isSent, hx]
    | topUpCredit credit request => rfl
    | registrationCredit credit => rfl
  rw [amountSent, amountSent, key log, key log', h]

section Keeps

variable {w' : BankWorld} {txn : Transaction} {c s c' s' : User}
  (hk : Keeps (bankSpec P K R cfg) t w w')
include hk

theorem Within.keeps (hs : w.lock (.user txn.senderId) = some t) {limit : ℤ}
    (h : Within w txn limit) : Within w' txn limit := by
  obtain ⟨t₁, ht₁, hsum⟩ := h
  refine ⟨t₁, ht₁, ?_⟩
  rw [amountSent_congr (hk.ext.sent _ hs)]
  exact hsum

theorem Deal.keeps (h : Deal P K t w txn c s c' s') : Deal P K t w' txn c s c' s' :=
  { h with sender := h.sender.grows hk, recipient := h.recipient.grows hk }

theorem LocalDeal.keeps {token : String} {p : PendingTransfer} {q : Payee} {n : ℤ}
    (h : LocalDeal P K t w txn token p q n c s c' s') :
    LocalDeal P K t w' txn token p q n c s c' s' := by
  obtain ⟨q', hq', heq⟩ := hk.ext.row (.payee p.payeeId) q h.payeeRow
  cases heq
  exact { h with
    toDeal := h.toDeal.keeps hk
    pending := (hk.row _ h.lock).trans h.pending
    lock := hk.lock _ h.lock
    payeeRow := hq'
    limit := h.limit.keeps hk h.sender.lock }

theorem PayupDeal.keeps {token : String} {p : PayupPendingTransfer} {n : ℤ} {a : Bool}
    (h : PayupDeal P K cfg t w txn token p n a c s c' s') :
    PayupDeal P K cfg t w' txn token p n a c s c' s' :=
  { h with
    toDeal := h.toDeal.keeps hk
    pending := (hk.row _ h.lock).trans h.pending
    lock := hk.lock _ h.lock
    limit := h.limit.keeps hk h.sender.lock
    quick := fun ha => (h.quick ha).keeps hk h.sender.lock }

end Keeps

/-! ### Booking -/

/-- The session after the booking; `k` is the confirmation. -/
structure Booked (t : ℕ) (w : BankWorld) (txn : Transaction) (k : Key) (authorized : Bool)
    (c c' : User) : Prop where
  sender : (w.sess t).cache (.user txn.senderId) =
    some ⟨some c, { c with balance := c.balance - txn.amount }⟩
  recipient : (w.sess t).cache (.user txn.recipientId) =
    some ⟨some c', { c' with balance := c'.balance + txn.amount }⟩
  dirty : ∀ j, j ∈ (w.sess t).dirty ↔ j = .user txn.senderId ∨ j = .user txn.recipientId ∨ j = k
  new : (w.sess t).new = [.transaction txn (some k) authorized]

namespace Booked

variable {txn : Transaction} {k : Key} {authorized : Bool} {c s c' s' : User}

theorem grows {σ : StepSpec bank Err} {w' : BankWorld} (h : Booked t w txn k authorized c c')
    (hg : Grows σ t w w') : Booked t w' txn k authorized c c' where
  sender := hg.keep _ _ h.sender
  recipient := hg.keep _ _ h.recipient
  dirty j := by rw [hg.dirty]; exact h.dirty j
  new := hg.new.trans h.new

/-- The second assignment to the confirmation. -/
theorem put {w' : BankWorld} (h : Booked t w txn k authorized c c') (hk : ∀ id, k ≠ .user id)
    {e : Entry bank k} (hs : w'.sess t = (w.sess t).put k e) :
    Booked t w' txn k authorized c c' where
  sender := by rw [hs, Session.put_cache_ne _ (hk _).symm, h.sender]
  recipient := by rw [hs, Session.put_cache_ne _ (hk _).symm, h.recipient]
  dirty j := by
    rw [hs, Session.put_dirty, List.mem_cons, h.dirty]
    tauto
  new := by rw [hs, Session.put_new, h.new]

theorem moves (h : Booked t w txn k authorized c c') (hd : Deal P K t w txn c s c' s') :
    Moves w (w.view t) txn k authorized c s c' s' := by
  have hpos := amount_pos hd.bounds
  refine ⟨?_, ?_, ?_, fun j hs hr hk => ?_⟩
  · rw [view_row_of_mem ((h.dirty _).mpr (.inl rfl)) h.sender hd.sender.row]
    change some (c.merge _ s) = _
    rw [User.merge_balance, col_ne (by omega)]
  · rw [view_row_of_mem ((h.dirty _).mpr (.inr (.inl rfl))) h.recipient hd.recipient.row]
    change some (c'.merge _ s') = _
    rw [User.merge_balance, col_ne (by omega)]
  · rw [view_log, h.new]
  · refine view_row_of_not_mem fun hm => ?_
    rcases (h.dirty j).mp hm with h | h | h
    · exact hs h
    · exact hr h
    · exact hk h

theorem spends {token : String} {p : PendingTransfer} {n : ℤ} {ref : String}
    (h : Booked t w txn (.pending token) authorized c c')
    (hp : (w.sess t).cache (.pending token) = some ⟨some p, { p with
      consumedAt := some n, consumedTransactionRef := some ref }⟩)
    (hrow : w.db.row (.pending token) = some p) (hun : p.consumedAt = none) :
    (w.view t).row (.pending token) = some { p with
      consumedAt := some n, consumedTransactionRef := some ref } := by
  rw [view_row_of_mem ((h.dirty _).mpr (.inr (.inr rfl))) hp hrow]
  change some (p.merge _ p) = _
  rw [PendingTransfer.merge_eq, hun, col_ne (by simp), col_of_imp fun hr => hr]

theorem spendsPayup {token : String} {p : PayupPendingTransfer} {n : ℤ} {ref : String}
    (h : Booked t w txn (.payupPending token) authorized c c')
    (hp : (w.sess t).cache (.payupPending token) = some ⟨some p, { p with
      consumedAt := some n, consumedTransactionRef := some ref }⟩)
    (hrow : w.db.row (.payupPending token) = some p) (hun : p.consumedAt = none) :
    (w.view t).row (.payupPending token) = some { p with
      consumedAt := some n, consumedTransactionRef := some ref } := by
  rw [view_row_of_mem ((h.dirty _).mpr (.inr (.inr rfl))) hp hrow]
  change some (p.merge _ p) = _
  rw [PayupPendingTransfer.merge_eq, hun, col_ne (by simp), col_of_imp fun hr => hr]

end Booked

/-- The booking changes the session only; the confirmation keeps its instance. -/
theorem sat_bookTransfer (hσ : (bankSpec P K R cfg).Lawful) {txn : Transaction} {k : Key}
    {authorized : Bool} {c s c' s' : User} {e : Entry bank k}
    (hi : (bankSpec P K R cfg).inv w) (hdistinct : txn.senderId ≠ txn.recipientId)
    (hsender : Working P t w txn.senderId c s) (hrecipient : Working P t w txn.recipientId c' s')
    (hk : ∀ id, k ≠ .user id) (he : (w.sess t).cache k = some e)
    (hdirty : ∀ j, j ∈ (w.sess t).dirty ↔ j = k) (hnew : (w.sess t).new = []) :
    Sat (bankSpec P K R cfg) t (bookTransfer txn k authorized) (fun r w' =>
      r = .ok () ∧ Keeps (bankSpec P K R cfg) t w w' ∧ Booked t w' txn k authorized c c' ∧
        (w'.sess t).cache k = some e) w := by
  have hks := hk txn.senderId
  have hkr := hk txn.recipientId
  have hne : Key.user txn.senderId ≠ Key.user txn.recipientId := by
    simpa using hdistinct
  refine Sat.load_bind hσ hi hsender.copy fun w₁ hi₁ hg₁ hs₁ => ?_
  refine Sat.assign_bind hσ hi₁ (hsender.grows hg₁).copy fun w₂ hi₂ hk₂ hs₂ => ?_
  -- debiting the sender leaves the recipient's instance as it was locked
  have hc₂ : (w₂.sess t).cache (.user txn.recipientId) = some ⟨some c', c'⟩ := by
    rw [hs₂, Session.put_cache_ne _ hne.symm]
    exact hrecipient.copy.grows hg₁
  refine Sat.load_bind hσ hi₂ hc₂ fun w₃ hi₃ hg₃ hs₃ => ?_
  rw [← hs₃] at hc₂
  refine Sat.assign_bind hσ hi₃ hc₂ fun w₄ hi₄ hk₄ hs₄ => ?_
  refine Sat.add hσ fun w₅ hk₅ hs₅ => ?_
  rw [hs₃, hs₂, hs₁] at hs₄
  rw [hs₄] at hs₅
  refine ⟨rfl, ?_, ⟨?_, ?_, fun j => ?_, ?_⟩, ?_⟩
  · exact (((hg₁.toKeeps.trans hσ hk₂).trans hσ hg₃.toKeeps).trans hσ hk₄).trans hσ hk₅
  · rw [hs₅]
    dsimp only
    rw [Session.put_cache_ne _ hne, Session.put_cache_self]
  · rw [hs₅]
    dsimp only
    rw [Session.put_cache_self]
  · rw [hs₅]
    simp only [Session.put_dirty, List.mem_cons, hdirty]
    tauto
  · rw [hs₅]
    simp only [Session.put_new, hnew, List.nil_append]
  · rw [hs₅]
    dsimp only
    rw [Session.put_cache_ne _ hkr, Session.put_cache_ne _ hks, he]

/-! ### Local transfers -/

/-- What is known when the confirmation is locked: the copies the transfer works
on, and the confirmation itself. -/
structure LocalOpened (K : ℕ → BankDb → ℤ → Prop) (t : ℕ) (w : BankWorld) (token : String)
    (sender payee recipient : ℕ) (n : ℤ) (p : PendingTransfer) (c c' : User) (q : Payee) :
    Prop where
  senderCopy : Copy (S := bank) t w (.user sender) c
  unfrozen : c.frozen = false
  recipientCopy : Copy (S := bank) t w (.user recipient) c'
  payeeCopy : Copy (S := bank) t w (.payee payee) q
  account : c'.accountNumber = some q.accountNumber
  distinct : recipient ≠ sender
  lock : w.lock (.pending token) = some t
  row : w.db.row (.pending token) = some p
  owner : p.userId = sender
  payeeId : p.payeeId = payee
  unconsumed : p.consumedAt = none
  unexpired : n ≤ p.expiresAt
  read : ∃ d₀, K t d₀ n

/-- The confirmation is marked as consumed. -/
theorem LocalOpened.put {σ : StepSpec bank Err} {w' : BankWorld} {token : String}
    {sender payee recipient : ℕ} {n : ℤ} {p : PendingTransfer} {c c' : User} {q : Payee}
    {e : Entry bank (.pending token)}
    (h : LocalOpened K t w token sender payee recipient n p c c' q) (hk : Keeps σ t w w')
    (hs : w'.sess t = (w.sess t).put (.pending token) e) :
    LocalOpened K t w' token sender payee recipient n p c c' q :=
  { h with
    senderCopy := h.senderCopy.put hs nofun
    recipientCopy := h.recipientCopy.put hs nofun
    payeeCopy := h.payeeCopy.put hs nofun
    lock := hk.lock _ h.lock
    row := (hk.row _ h.lock).trans h.row }

section LocalTransfer

variable (hσ : (bankSpec P K R cfg).Lawful) (hi : (bankSpec P K R cfg).inv w)
include hσ hi

omit hi in
theorem finds_localTransferAmount (hs : Settled (bankSpec P K R cfg) t w) (sender : ℕ)
    (p : PendingTransfer) :
    Finds (bankSpec P K R cfg) t (localTransferAmount sender p)
      (fun amount _ => wholeCents p.amount = some amount ∧ withinBounds amount = true) w := by
  unfold localTransferAmount
  split
  · exact Finds.of_fails (fails_rejectLocalTransfer hσ _ _ _) hs
  · next amount hamount =>
      split
      · next hb => exact Finds.ret hσ ⟨hamount, hb⟩
      · exact Finds.of_fails (fails_rejectLocalTransfer hσ _ _ _) hs

theorem finds_ensureLocalTransferBalance (hs : Settled (bankSpec P K R cfg) t w)
    {sender payee : ℕ} {amount : ℤ} {c : User} (hc : Copy (S := bank) t w (.user sender) c) :
    Finds (bankSpec P K R cfg) t (ensureLocalTransferBalance sender payee amount)
      (fun _ _ => amount ≤ c.balance) w := by
  refine Finds.bind hσ hi (Finds.load_known hσ hs hc) fun x w₁ hi₁ hg₁ hx => ?_
  subst hx
  split
  · refine Finds.of_fails (.bind (Quiet.load hσ _) fun _ => ?_) (hs.grows hσ hg₁)
    exact .bind (Quiet.check hσ _) fun _ => fails_rejectLocalTransfer hσ _ _ _
  · next hle => exact Finds.ret hσ (not_lt.mp hle)

theorem finds_amountUsedToday (hnew : (w.sess t).new = []) (user : ℕ) (type : TransactionType) :
    Finds (bankSpec P K R cfg) t (amountUsedToday user type)
      (fun used w' => ∃ t₁ ≤ w'.clock,
        used = amountSent user type (sgtDayStart t₁) w'.db.log) w := by
  refine Finds.bind hσ hi (Finds.now hσ) fun t₁ w₁ hi₁ hg₁ ht => ?_
  obtain ⟨w₀, _, _, hg₀, rfl⟩ := ht
  refine (Finds.query hσ _).mono fun used w₂ hg₂ hused => ⟨w₀.clock, ?_, ?_⟩
  · exact le_trans hg₀.clock hg₂.clock
  · rw [hused]
    simp [Session.apply, hg₁.new, hnew]

theorem finds_ensureLocalTransferDailyLimit (hs : Settled (bankSpec P K R cfg) t w)
    (hnew : (w.sess t).new = []) {sender payee : ℕ} {amount : ℤ} {c : User}
    (hc : Copy (S := bank) t w (.user sender) c) :
    Finds (bankSpec P K R cfg) t (ensureLocalTransferDailyLimit sender payee amount)
      (fun _ w' => ∃ t₁ ≤ w'.clock,
        amountSent sender .localTransfer (sgtDayStart t₁) w'.db.log + amount ≤
          c.localTransferDailyLimit) w := by
  refine Finds.bind hσ hi (Finds.load_known hσ hs hc) fun x w₁ hi₁ hg₁ hx => ?_
  subst hx
  refine Finds.bind hσ hi₁ (finds_amountUsedToday hσ hi₁ (hg₁.new.trans hnew) _ _)
    fun used w₂ hi₂ hg₂ hused => ?_
  obtain ⟨t₁, ht₁, rfl⟩ := hused
  split
  · refine Finds.of_fails (.bind (Quiet.load hσ _) fun _ => ?_) ((hs.grows hσ hg₁).grows hσ hg₂)
    exact .bind (Quiet.check hσ _) fun _ => fails_rejectLocalTransfer hσ _ _ _
  · next hle => exact Finds.ret hσ ⟨t₁, ht₁, not_lt.mp hle⟩

theorem finds_openLocalTransfer (hidle : Idle t w) (sender payee : ℕ)
    (confirmationToken : String) :
    Finds (bankSpec P K R cfg) t (openLocalTransfer cfg sender payee confirmationToken)
      (fun x w' => ∃ c c' q, LocalOpened K t w'
          (cfg.localTransferTokenVerifier confirmationToken) sender payee x.1 x.2.1 x.2.2 c c' q ∧
        Copy (S := bank) t w' (.pending (cfg.localTransferTokenVerifier confirmationToken))
          x.2.2) w := by
  refine Finds.bind hσ hi (finds_ensureOutboundTransferAllowed hσ hi hidle sender)
    fun _ w₁ hi₁ hg₁ h₁ => ?_
  obtain ⟨c, hc, hunfrozen⟩ := h₁
  have hidle₁ := hidle.grows hg₁
  refine Finds.bind hσ hi₁ (finds_localTransferRecipient hσ hi₁ hidle₁ sender payee)
    fun recipient w₂ hi₂ hg₂ h₂ => ?_
  obtain ⟨hne, q, c', hq, hc', haccount⟩ := h₂
  have hidle₂ := hidle₁.grows hg₂
  refine Finds.bind hσ hi₂ (Finds.now hσ) fun n w₃ hi₃ hg₃ h₃ => ?_
  obtain ⟨w₀, hk₀, _, _, rfl⟩ := h₃
  have hidle₃ := hidle₂.grows hg₃
  refine Finds.bind hσ hi₃ (finds_ensurePayeeCooldownElapsed hσ hi₃ (.inl hidle₃) _ _ _)
    fun _ w₄ hi₄ hg₄ _ => ?_
  refine Finds.bind hσ hi₄ (finds_loadPendingLocalTransfer hσ hi₄ (hidle₃.grows hg₄) _ _ _ _)
    fun p w₅ hi₅ hg₅ hp => ?_
  have hg₂₅ := (hg₃.trans hσ hg₄).trans hσ hg₅
  exact Finds.ret hσ ⟨c, c', q, ⟨(hc.grows hg₂).grows hg₂₅, hunfrozen, hc'.grows hg₂₅,
    hq.grows hg₂₅, haccount, hne, hp.lock, hp.row, hp.owner, hp.payee, hp.unconsumed,
    hp.unexpired, _, hk₀⟩, hp.copy⟩

theorem finds_prepareLocalTransfer {token : String} {sender recipient payee : ℕ} {n : ℤ}
    {p : PendingTransfer} {c c' : User} {q : Payee}
    (ht : Touched t w (.pending token) p { p with consumedAt := some n })
    (h : LocalOpened K t w token sender payee recipient n p c c' q) :
    Finds (bankSpec P K R cfg) t (prepareLocalTransfer sender recipient payee p)
      (fun x w' => ∃ s s', LocalDeal P K t w' x.1 token p q n c s c' s' ∧
        Working P t w' x.1.senderId c s ∧ Working P t w' x.1.recipientId c' s') w := by
  have hs : Settled (bankSpec P K R cfg) t w := settled_consume ht h.lock h.row h.unconsumed
  refine Finds.bind hσ hi (finds_localTransferAmount hσ hs sender p)
    fun amount w₁ hi₁ hg₁ h₁ => ?_
  obtain ⟨hamount, hbounds⟩ := h₁
  have hs₁ := hs.grows hσ hg₁
  refine Finds.bind hσ hi₁ (finds_lockAccounts hσ hi₁ _) fun _ w₂ hi₂ hg₂ h₂ => ?_
  obtain ⟨s, hw₂⟩ := h₂ sender c (by split <;> simp) (h.senderCopy.grows hg₁)
  obtain ⟨s', hw'₂⟩ := h₂ recipient c' (by split <;> simp) (h.recipientCopy.grows hg₁)
  have hs₂ := hs₁.grows hσ hg₂
  refine Finds.bind hσ hi₂ (finds_ensureLocalTransferBalance hσ hi₂ hs₂ hw₂.copy)
    fun _ w₃ hi₃ hg₃ hcovered => ?_
  have hw₃ := hw₂.grows hg₃
  have hs₃ := hs₂.grows hσ hg₃
  have ht₃ := ((ht.grows hg₁).grows hg₂).grows hg₃
  refine Finds.bind hσ hi₃ (finds_ensureLocalTransferDailyLimit hσ hi₃ hs₃ ht₃.new hw₃.copy)
    fun limits w₄ hi₄ hg₄ h₄ => ?_
  obtain ⟨t₁, ht₁, hlimit⟩ := h₄
  refine Finds.bind hσ hi₄ (Finds.uuid4 hσ) fun txnRef w₅ hi₅ hg₅ _ => ?_
  refine Finds.bind hσ hi₅ (Finds.now hσ) fun created w₆ hi₆ hg₆ h₆ => ?_
  obtain ⟨w₀, hk₀, hg₀, hg₀', rfl⟩ := h₆
  have hs₆ := ((hs₃.grows hσ hg₄).grows hσ hg₅).grows hσ hg₆
  refine Finds.bind hσ hi₆ (Finds.check hσ hs₆ _) fun _ w₇ hi₇ hg₇ _ => Finds.ret hσ ?_
  -- the transaction is fixed; collect what is known of it
  have hg₄₇ := (hg₅.trans hσ hg₆).trans hσ hg₇
  have hg₃₇ := hg₄.trans hσ hg₄₇
  have hg₁₇ := ((hg₁.trans hσ hg₂).trans hσ hg₃).trans hσ hg₃₇
  have hw₄ := hw₃.grows hg₄
  have hw₇ := hw₄.grows hg₄₇
  have hw'₇ := (hw'₂.grows hg₃).grows hg₃₇
  obtain ⟨s₁, hs₁', hev⟩ := Copy.row hi₂ hw'₂.copy
  cases hs₁'.symm.trans hw'₂.row
  obtain ⟨q₁, hq₁, rfl⟩ := Copy.row hi₇ (h.payeeCopy.grows hg₁₇)
  refine ⟨s, s', ?_, hw₇, hw'₇⟩
  exact {
    sender := hw₇.toHeld
    recipient := hw'₇.toHeld
    distinct := h.distinct.symm
    completed := rfl
    bounds := hbounds
    known := ⟨w₀.db, hk₀, ((hw₄.grows hg₅).grows hg₀).row⟩
    unfrozen := h.unfrozen
    covered := hcovered
    type := rfl
    pending := (hg₁₇.row _ h.lock).trans h.row
    lock := hg₁₇.lock _ h.lock
    unconsumed := h.unconsumed
    unexpired := h.unexpired
    read := h.read
    owner := h.owner
    payee := by rw [h.payeeId]
    payeeRow := by rw [h.payeeId]; exact hq₁
    payeeAccount := hev.1.trans h.account
    amount := hamount
    reference := rfl
    limit := Within.keeps hg₄₇.toKeeps hw₄.lock
      ⟨t₁, le_trans ht₁ (le_trans hg₅.clock hg₀.clock), hlimit⟩ }

omit hσ hi in
/-- From the end of the booking on, what the session holds is the transfer. -/
theorem settled_localTransfer {txn : Transaction} {token : String} {p : PendingTransfer}
    {q : Payee} {n : ℤ} {c s c' s' : User} (h : LocalDeal P K t w txn token p q n c s c' s')
    (hb : Booked t w txn (.pending token) true c c')
    (hp : (w.sess t).cache (.pending token) = some ⟨some p, { p with
      consumedAt := some n, consumedTransactionRef := some txn.transactionRef }⟩) :
    Settled (bankSpec P K R cfg) t w := by
  refine .inr fun w' hg _ _ _ => ?_
  have h' := h.keeps hg.toKeeps
  have hb' := hb.grows hg
  exact .localTransfer txn token p q n c s c' s' h' (hb'.moves h'.toDeal)
    (hb'.spends (hg.keep _ _ hp) h'.pending h.unconsumed)

omit hi in
theorem sat_settleLocalTransfer {txn : Transaction} {token : String} {p : PendingTransfer}
    {q : Payee} {n : ℤ} {c s c' s' : User} (hi : (bankSpec P K R cfg).inv w)
    (ht : Touched t w (.pending token) p { p with consumedAt := some n })
    (hd : LocalDeal P K t w txn token p q n c s c' s')
    (hw : Working P t w txn.senderId c s) (hw' : Working P t w txn.recipientId c' s')
    (payee : ℕ) (usedToday dailyLimit : ℤ) :
    Sat (bankSpec P K R cfg) t (settleLocalTransfer token payee txn usedToday dailyLimit)
      (fun _ w' => Settled (bankSpec P K R cfg) t w') w := by
  have hs : Settled (bankSpec P K R cfg) t w := settled_consume ht hd.lock hd.pending hd.unconsumed
  refine Finds.then_sat hi (Finds.mark hσ _) (fun _ w₁ hi₁ hg₁ _ => ?_) fun _ _ h => h
  have ht₁ := ht.grows hg₁
  have hd₁ := hd.keeps hg₁.toKeeps
  refine Holds.bind (Holds.with_inv (sat_bookTransfer hσ hi₁ hd.distinct (hw.grows hg₁)
    (hw'.grows hg₁) nofun ht₁.cache ht₁.dirty ht₁.new) hi₁) ?_ fun _ _ h => nomatch h.2.1
  rintro _ w₂ ⟨hi₂, _, hk₂, hbooked, hcache⟩
  refine Sat.assign_bind hσ hi₂ hcache fun w₃ hi₃ hk₃ hs₃ => ?_
  have hs' : Settled (bankSpec P K R cfg) t w₃ :=
    settled_localTransfer ((hd₁.keeps hk₂).keeps hk₃) (hbooked.put nofun hs₃)
      (by rw [hs₃, Session.put_cache_self])
  refine Holds.bind ((passive_auditLocalTransferSuccess _ _).quiet hσ t w₃ hs') (fun _ w' h => ?_)
    fun _ _ h => h
  exact Holds.bind (quiet_notifyLocalTransfer hσ _ _ _ _ _ _ t w' h) (fun _ _ h => h)
    fun _ _ h => h

theorem sat_executeLocalTransfer (hidle : Idle t w) (sender payee : ℕ)
    (confirmationToken : String) :
    Sat (bankSpec P K R cfg) t (executeLocalTransfer cfg sender payee confirmationToken)
      (fun _ w' => Settled (bankSpec P K R cfg) t w') w := by
  refine Finds.then_sat hi (finds_openLocalTransfer hσ hi hidle sender payee confirmationToken)
    (fun x w₁ hi₁ hg₁ h₁ => ?_) fun _ _ h => h
  obtain ⟨c, c', q, hopen, hcopy⟩ := h₁
  refine Sat.assign_bind hσ hi₁ hcopy fun w₂ hi₂ hk₂ hs₂ => ?_
  have ht : Touched t w₂ (.pending (cfg.localTransferTokenVerifier confirmationToken)) x.2.2
      { x.2.2 with consumedAt := some x.2.1 } :=
    .of_put (hidle.grows hg₁) hs₂
  refine Finds.then_sat hi₂ (finds_prepareLocalTransfer hσ hi₂ ht (hopen.put hk₂ hs₂))
    (fun y w₃ hi₃ hg₃ h₃ => ?_) fun _ _ h => h
  obtain ⟨s, s', hd, hw, hw'⟩ := h₃
  exact sat_settleLocalTransfer hσ hi₃ (ht.grows hg₃) hd hw hw' payee y.2.1 y.2.2

end LocalTransfer

/-! ### PayUp transfers -/

theorem payupRiskPolicy_cases (cfg : Config) (session : SessionRisk) (u : User)
    (amount used : ℤ) (recent : Bool) :
    (∃ r, payupRiskPolicy cfg session u amount used recent = .block r) ∨
    (used + amount ≤ u.payupDailyLimit ∧
      ((∃ rs, payupRiskPolicy cfg session u amount used recent = .stepUp rs) ∨
        (payupRiskPolicy cfg session u amount used recent = .allow ∧
          used + amount ≤ cfg.payupQuickDailyCap))) := by
  generalize hd : payupRiskPolicy cfg session u amount used recent = d
  unfold payupRiskPolicy at hd
  split at hd
  · exact .inl ⟨_, hd.symm⟩
  split at hd
  · exact .inl ⟨_, hd.symm⟩
  split at hd
  · exact .inl ⟨_, hd.symm⟩
  split at hd
  · exact .inl ⟨_, hd.symm⟩
  split at hd
  · exact .inl ⟨_, hd.symm⟩
  split at hd
  · exact .inl ⟨_, hd.symm⟩
  next hlimit =>
  split at hd
  · exact .inl ⟨_, hd.symm⟩
  split at hd
  · exact .inl ⟨_, hd.symm⟩
  refine .inr ⟨not_lt.mp hlimit, ?_⟩
  by_cases hcap : used + amount > cfg.payupQuickDailyCap
  · exact .inl ⟨_, hd.symm.trans (if_neg (by simp [hcap]))⟩
  by_cases hquick : amount > cfg.payupQuickTransferCap
  · exact .inl ⟨_, hd.symm.trans (if_neg (by simp [hquick]))⟩
  · exact .inr ⟨hd.symm.trans (if_pos (by simp [hcap, hquick])), not_lt.mp hcap⟩

section PayupTransfer

variable (hσ : (bankSpec P K R cfg).Lawful) (hi : (bankSpec P K R cfg).inv w)
include hσ hi

omit hσ hi in
theorem unconsumedPayupTransfer_some {token : String} {sender : ℕ} {db : BankDb} {k : Key}
    (h : unconsumedPayupTransfer token sender db = some k) :
    k = .payupPending token ∧ ∃ p, db.row (.payupPending token) = some p ∧ p.userId = sender ∧
      p.consumedAt = none := by
  unfold unconsumedPayupTransfer at h
  split at h
  · next p hp =>
      split at h
      · next hc => exact ⟨(Option.some.inj h).symm, p, hp, hc⟩
      · cases h
  · cases h

theorem finds_openPayupTransfer (hidle : Idle t w) (sender : ℕ) :
    Finds (bankSpec P K R cfg) t (openPayupTransfer sender)
      (fun _ w' => ∃ c : User, Copy (S := bank) t w' (.user sender) c ∧ c.frozen = false) w := by
  refine Finds.bind hσ hi (finds_ensureOutboundTransferAllowed hσ hi hidle sender)
    fun _ w₁ hi₁ hg₁ h₁ => ?_
  obtain ⟨c, hc, hunfrozen⟩ := h₁
  have hidle₁ := hidle.grows hg₁
  refine Finds.bind hσ hi₁ (Finds.load hσ (.inl hidle₁) _) fun x w₂ hi₂ hg₂ _ => ?_
  split
  · exact Finds.of_fails (fails_rejectPayupTransfer hσ _ _ _) (.inl (hidle₁.grows hg₂))
  · exact Finds.ret hσ ⟨c, hc.grows hg₂, hunfrozen⟩

/-- What is known when the confirmation is locked. -/
structure PayupOpened (K : ℕ → BankDb → ℤ → Prop) (t : ℕ) (w : BankWorld) (token : String)
    (sender : ℕ) (n : ℤ) (p : PayupPendingTransfer) (c : User) : Prop where
  senderCopy : Copy (S := bank) t w (.user sender) c
  unfrozen : c.frozen = false
  lock : w.lock (.payupPending token) = some t
  row : w.db.row (.payupPending token) = some p
  owner : p.userId = sender
  unconsumed : p.consumedAt = none
  unexpired : n ≤ p.expiresAt
  read : ∃ d₀, K t d₀ n

omit hσ hi in
/-- The confirmation is marked as consumed. -/
theorem PayupOpened.put {σ : StepSpec bank Err} {w' : BankWorld} {token : String} {sender : ℕ}
    {n : ℤ} {p : PayupPendingTransfer} {c : User} {e : Entry bank (.payupPending token)}
    (h : PayupOpened K t w token sender n p c) (hk : Keeps σ t w w')
    (hs : w'.sess t = (w.sess t).put (.payupPending token) e) :
    PayupOpened K t w' token sender n p c :=
  { h with
    senderCopy := h.senderCopy.put hs nofun
    lock := hk.lock _ h.lock
    row := (hk.row _ h.lock).trans h.row }

theorem finds_lockPayupPendingTransfer (hidle : Idle t w) {sender : ℕ} {c : User}
    (hc : Copy (S := bank) t w (.user sender) c) (hunfrozen : c.frozen = false)
    (confirmationToken : String) :
    Finds (bankSpec P K R cfg) t (lockPayupPendingTransfer cfg sender confirmationToken)
      (fun x w' => PayupOpened K t w' (cfg.payupTransferTokenVerifier confirmationToken) sender
          x.1 x.2 c ∧
        Copy (S := bank) t w' (.payupPending (cfg.payupTransferTokenVerifier confirmationToken))
          x.2) w := by
  refine Finds.bind hσ hi (Finds.lockWhere hσ _) fun found w₁ hi₁ hg₁ hfound => ?_
  have hidle₁ := hidle.grows hg₁
  have hs₁ : Settled (bankSpec P K R cfg) t w₁ := .inl hidle₁
  split
  · exact Finds.of_fails (fails_rejectPayupTransfer hσ _ _ _) hs₁
  next k =>
  obtain ⟨hlock, hq, hcopy⟩ := hfound k rfl
  rw [hidle.apply] at hq
  obtain ⟨rfl, d, hd, howner, hunconsumed⟩ := unconsumedPayupTransfer_some hq
  have hp₁ := hcopy d hd (hidle.not_mem _)
  -- the instance may have been loaded before the lock, but it is still current
  obtain ⟨d', hd', hev⟩ := Copy.row hi₁ hp₁
  cases hd'.symm.trans hd
  rw [← payup_eq_of_evolves hev hunconsumed] at hp₁
  refine Finds.bind hσ hi₁ (Finds.now hσ) fun n w₂ hi₂ hg₂ h₂ => ?_
  obtain ⟨w₀, hk₀, _, _, rfl⟩ := h₂
  have hidle₂ := hidle₁.grows hg₂
  refine Finds.bind hσ hi₂ (Finds.load_known hσ (.inl hidle₂) (hp₁.grows hg₂))
    fun p w₃ hi₃ hg₃ hp => ?_
  subst hp
  have hg₁₃ := hg₂.trans hσ hg₃
  split
  · exact Finds.of_fails (fails_rejectPayupTransfer hσ _ _ _) (.inl (hidle₂.grows hg₃))
  · next hexp =>
      exact Finds.ret hσ ⟨⟨(hc.grows hg₁).grows hg₁₃, hunfrozen, hg₁₃.lock _ hlock,
        (hg₁₃.row _ hlock).trans hd, howner, hunconsumed, not_lt.mp hexp, _, hk₀⟩,
        hp₁.grows hg₁₃⟩

omit hi in
theorem finds_validatePayupAmount (hs : Settled (bankSpec P K R cfg) t w) (sender : ℕ)
    (p : PayupPendingTransfer) :
    Finds (bankSpec P K R cfg) t (validatePayupAmount sender p)
      (fun amount _ => wholeCents p.amount = some amount ∧ withinBounds amount = true) w := by
  unfold validatePayupAmount
  split
  · exact Finds.of_fails (fails_rejectPayupTransfer hσ _ _ _) hs
  · next amount hamount =>
      split
      · next hb => exact Finds.ret hσ ⟨hamount, hb⟩
      · exact Finds.of_fails (fails_rejectPayupTransfer hσ _ _ _) hs

theorem finds_validatePayupRecipient (hs : Settled (bankSpec P K R cfg) t w)
    (sender recipient : ℕ) (hd : Key.user recipient ∉ (w.sess t).dirty) :
    Finds (bankSpec P K R cfg) t (validatePayupRecipient sender recipient)
      (fun _ w' => recipient ≠ sender ∧
        ∃ c' : User, Copy (S := bank) t w' (.user recipient) c' ∧ c'.isFrozen = false) w := by
  refine Finds.bind hσ hi (Finds.select hσ _) fun found w₁ hi₁ hg₁ _ => ?_
  have hs₁ := hs.grows hσ hg₁
  split
  · exact Finds.of_fails (fails_rejectPayupTransfer hσ _ _ _) hs₁
  split
  · exact Finds.of_fails (fails_rejectPayupTransfer hσ _ _ _) hs₁
  next hne =>
  refine Finds.bind hσ hi₁ (Finds.load_copy hσ hs₁ (by rwa [hg₁.dirty]))
    fun c' w₂ hi₂ hg₂ hc' => ?_
  split
  · exact Finds.of_fails (fails_rejectPayupTransfer hσ _ _ _) (hs₁.grows hσ hg₂)
  · next hopen =>
      have hfrozen : ¬c'.isFrozen = true := fun hf => hopen (.inr (.inl hf))
      exact Finds.ret hσ ⟨hne, c', hc', Bool.eq_false_iff.mpr hfrozen⟩

/-- A failing statement in the policy blocks the transfer, and has lost the
transaction. -/
theorem sat_evaluatePayupRisk (hs : Settled (bankSpec P K R cfg) t w) (session : SessionRisk)
    {sender : ℕ} {c : User} (hc : Copy (S := bank) t w (.user sender) c) (amount used : ℤ) :
    Sat (bankSpec P K R cfg) t (evaluatePayupRisk cfg session sender amount used)
      (fun r w' => match r with
        | .ok d => (Grows (bankSpec P K R cfg) t w w' ∧
              ∃ recent, d = payupRiskPolicy cfg session c amount used recent) ∨
            ((∃ reason, d = .block reason) ∧ Settled (bankSpec P K R cfg) t w')
        | .error _ => Settled (bankSpec P K R cfg) t w') w := by
  have hfinds : Finds (bankSpec P K R cfg) t
      (Prog.bind (loadUser sender) fun u => hasRecentPayupSensitiveEvent.bind fun recent =>
        pure (payupRiskPolicy cfg session u amount used recent))
      (fun d _ => ∃ recent, d = payupRiskPolicy cfg session c amount used recent) w := by
    refine Finds.bind hσ hi (Finds.load_known hσ hs hc) fun u w₁ hi₁ hg₁ hu => ?_
    subst hu
    have hrecent : Finds (bankSpec P K R cfg) t hasRecentPayupSensitiveEvent
        (fun _ _ => True) w₁ :=
      Finds.bind hσ hi₁ (Finds.query hσ _) fun _ _ _ _ _ => Finds.ask hσ
    exact Finds.bind hσ hi₁ hrecent fun recent _ _ _ _ => Finds.ret hσ ⟨recent, rfl⟩
  refine Holds.tryCatch hfinds (fun d w' h => .inl h) fun e w' h => ?_
  cases e with
  | db e => exact .inr ⟨⟨_, rfl⟩, h⟩
  | app a => exact h

omit hi in
theorem finds_authorizePayup (hs : Settled (bankSpec P K R cfg) t w) (sender : ℕ) (a : Bool)
    (session : SessionRisk) (u : User) (amount used : ℤ) (recent : Bool) :
    Finds (bankSpec P K R cfg) t
      (authorizePayup sender a (payupRiskPolicy cfg session u amount used recent))
      (fun _ _ => used + amount ≤ u.payupDailyLimit ∧
        (a = false → used + amount ≤ cfg.payupQuickDailyCap)) w := by
  rcases payupRiskPolicy_cases cfg session u amount used recent with
    ⟨r, hr⟩ | ⟨hlimit, ⟨rs, hr⟩ | ⟨hr, hcap⟩⟩
  · rw [hr]
    exact Finds.of_fails (fails_rejectPayupTransfer hσ _ _ _) hs
  · rw [hr]
    cases a with
    | true => exact Finds.ret hσ ⟨hlimit, nofun⟩
    | false => exact Finds.of_fails (fails_rejectPayupTransfer hσ _ _ _) hs
  · rw [hr]
    exact Finds.ret hσ ⟨hlimit, fun _ => hcap⟩

omit hσ hi in
theorem settled_payupTransfer {txn : Transaction} {token : String} {p : PayupPendingTransfer}
    {n : ℤ} {a : Bool} {c s c' s' : User}
    (h : PayupDeal P K cfg t w txn token p n a c s c' s')
    (hb : Booked t w txn (.payupPending token) a c c')
    (hp : (w.sess t).cache (.payupPending token) = some ⟨some p, { p with
      consumedAt := some n, consumedTransactionRef := some txn.transactionRef }⟩) :
    Settled (bankSpec P K R cfg) t w := by
  refine .inr fun w' hg _ _ _ => ?_
  have h' := h.keeps hg.toKeeps
  have hb' := hb.grows hg
  exact .payupTransfer txn token p n a c s c' s' h' (hb'.moves h'.toDeal)
    (hb'.spendsPayup (hg.keep _ _ hp) h'.pending h.unconsumed)

theorem finds_reauthorizePayup (hs : Settled (bankSpec P K R cfg) t w) (session : SessionRisk)
    {sender : ℕ} {c : User} (hc : Copy (S := bank) t w (.user sender) c) (a : Bool)
    (amount used : ℤ) :
    Finds (bankSpec P K R cfg) t (reauthorizePayup cfg session sender a amount used)
      (fun _ _ => used + amount ≤ c.payupDailyLimit ∧
        (a = false → used + amount ≤ cfg.payupQuickDailyCap)) w := by
  refine Holds.bind (Holds.with_inv (sat_evaluatePayupRisk hσ hi hs session hc amount used) hi) ?_
    fun _ _ h => h.2
  rintro risk w₁ ⟨hi₁, ⟨hg₁, recent, rfl⟩ | ⟨⟨reason, rfl⟩, hs₁⟩⟩
  · refine Holds.mono (finds_authorizePayup hσ (hs.grows hσ hg₁) sender a session c amount used
      recent) fun r w' h => ?_
    cases r with
    | ok _ => exact ⟨hg₁.trans hσ h.1, h.2⟩
    | error e => exact h
  · refine Holds.mono (fails_rejectPayupTransfer hσ _ _ _ t w₁ hs₁) ?_
    rintro r w' ⟨⟨e, rfl⟩, hs'⟩
    exact hs'

theorem finds_preparePayupTransfer {sender : ℕ} {token : String} {p : PayupPendingTransfer}
    {n : ℤ} {c : User} (session : SessionRisk) (a : Bool)
    (ht : Touched t w (.payupPending token) p { p with consumedAt := some n })
    (h : PayupOpened K t w token sender n p c) :
    Finds (bankSpec P K R cfg) t (preparePayupTransfer cfg session sender a p)
      (fun x w' => ∃ s c' s', PayupDeal P K cfg t w' x.1 token p n a c s c' s' ∧
        Working P t w' x.1.senderId c s ∧ Working P t w' x.1.recipientId c' s') w := by
  have hs : Settled (bankSpec P K R cfg) t w :=
    settled_consumePayup ht h.lock h.row h.unconsumed
  refine Finds.bind hσ hi (finds_validatePayupAmount hσ hs sender p)
    fun amount w₁ hi₁ hg₁ h₁ => ?_
  obtain ⟨hamount, hbounds⟩ := h₁
  have hs₁ := hs.grows hσ hg₁
  have hclean : Key.user p.recipientUserId ∉ (w₁.sess t).dirty := by
    rw [(ht.grows hg₁).dirty]
    nofun
  refine Finds.bind hσ hi₁ (finds_validatePayupRecipient hσ hi₁ hs₁ _ _ hclean)
    fun _ w₂ hi₂ hg₂ h₂ => ?_
  obtain ⟨hne, c', hc', hopen⟩ := h₂
  have hs₂ := hs₁.grows hσ hg₂
  refine Finds.bind hσ hi₂ (finds_lockAccounts hσ hi₂ _) fun _ w₃ hi₃ hg₃ h₃ => ?_
  obtain ⟨s, hw₃⟩ := h₃ sender c (by split <;> simp) ((h.senderCopy.grows hg₁).grows hg₂)
  obtain ⟨s', hw'₃⟩ := h₃ p.recipientUserId c' (by split <;> simp) hc'
  have hs₃ := hs₂.grows hσ hg₃
  have ht₃ := ((ht.grows hg₁).grows hg₂).grows hg₃
  refine Finds.bind hσ hi₃ (finds_amountUsedToday hσ hi₃ ht₃.new _ _)
    fun used w₄ hi₄ hg₄ h₄ => ?_
  obtain ⟨t₁, ht₁, rfl⟩ := h₄
  have hs₄ := hs₃.grows hσ hg₄
  have hw₄ := hw₃.grows hg₄
  refine Finds.bind hσ hi₄ (Finds.load_known hσ hs₄ hw₄.copy) fun x w₅ hi₅ hg₅ hx => ?_
  subst hx
  have hs₅ := hs₄.grows hσ hg₅
  refine Finds.bind hσ hi₅ (finds_reauthorizePayup hσ hi₅ hs₅ session (hw₄.grows hg₅).copy a
    amount _) fun _ w₆ hi₆ hg₆ h₆ => ?_
  obtain ⟨hlimit, hquick⟩ := h₆
  have hs₆ := hs₅.grows hσ hg₆
  split
  · exact Finds.of_fails (fails_rejectPayupTransfer hσ _ _ _) hs₆
  next hcovered =>
  refine Finds.bind hσ hi₆ (Finds.uuid4 hσ) fun txnRef w₇ hi₇ hg₇ _ => ?_
  refine Finds.bind hσ hi₇ (Finds.now hσ) fun created w₈ hi₈ hg₈ h₈ => ?_
  obtain ⟨w₀, hk₀, hg₀, hg₀', rfl⟩ := h₈
  have hs₈ := (hs₆.grows hσ hg₇).grows hσ hg₈
  refine Finds.bind hσ hi₈ (Finds.check hσ hs₈ _) fun _ w₉ hi₉ hg₉ _ => Finds.ret hσ ?_
  -- the transaction is fixed; collect what is known of it
  have hg₄₇ := (hg₅.trans hσ hg₆).trans hσ hg₇
  have hg₄₉ := (hg₄₇.trans hσ hg₈).trans hσ hg₉
  have hg₃₉ := hg₄.trans hσ hg₄₉
  have hg := ((hg₁.trans hσ hg₂).trans hσ hg₃).trans hσ hg₃₉
  have hw₉ := hw₄.grows hg₄₉
  have hw'₉ := hw'₃.grows hg₃₉
  have htime : t₁ ≤ w₀.clock := le_trans ht₁ (le_trans hg₄₇.clock hg₀.clock)
  refine ⟨s, c', s', ?_, hw₉, hw'₉⟩
  exact {
    sender := hw₉.toHeld
    recipient := hw'₉.toHeld
    distinct := hne.symm
    completed := rfl
    bounds := hbounds
    known := ⟨w₀.db, hk₀, ((hw₄.grows hg₄₇).grows hg₀).row⟩
    unfrozen := h.unfrozen
    covered := not_lt.mp hcovered
    type := rfl
    pending := (hg.row _ h.lock).trans h.row
    lock := hg.lock _ h.lock
    unconsumed := h.unconsumed
    unexpired := h.unexpired
    read := h.read
    owner := h.owner
    payee := rfl
    recipientId := rfl
    amount := hamount
    reference := rfl
    recipientUnfrozen := hopen
    limit := Within.keeps hg₄₉.toKeeps hw₄.lock ⟨t₁, htime, hlimit⟩
    quick := fun ha => Within.keeps hg₄₉.toKeeps hw₄.lock ⟨t₁, htime, hquick ha⟩ }

omit hi in
theorem sat_settlePayupTransfer {txn : Transaction} {token : String} {p : PayupPendingTransfer}
    {n : ℤ} {a : Bool} {c s c' s' : User} (hi : (bankSpec P K R cfg).inv w)
    (ht : Touched t w (.payupPending token) p { p with consumedAt := some n })
    (hd : PayupDeal P K cfg t w txn token p n a c s c' s')
    (hw : Working P t w txn.senderId c s) (hw' : Working P t w txn.recipientId c' s')
    (usedToday dailyLimit : ℤ) :
    Sat (bankSpec P K R cfg) t (settlePayupTransfer token a txn usedToday dailyLimit)
      (fun _ w' => Settled (bankSpec P K R cfg) t w') w := by
  have hs : Settled (bankSpec P K R cfg) t w :=
    settled_consumePayup ht hd.lock hd.pending hd.unconsumed
  refine Finds.then_sat hi (Finds.mark hσ _) (fun _ w₁ hi₁ hg₁ _ => ?_) fun _ _ h => h
  have ht₁ := ht.grows hg₁
  have hd₁ := hd.keeps hg₁.toKeeps
  refine Holds.bind (Holds.with_inv (sat_bookTransfer hσ hi₁ hd.distinct (hw.grows hg₁)
    (hw'.grows hg₁) nofun ht₁.cache ht₁.dirty ht₁.new) hi₁) ?_ fun _ _ h => nomatch h.2.1
  rintro _ w₂ ⟨hi₂, _, hk₂, hbooked, hcache⟩
  refine Sat.assign_bind hσ hi₂ hcache fun w₃ hi₃ hk₃ hs₃ => ?_
  have hs' : Settled (bankSpec P K R cfg) t w₃ :=
    settled_payupTransfer ((hd₁.keeps hk₂).keeps hk₃) (hbooked.put nofun hs₃)
      (by rw [hs₃, Session.put_cache_self])
  refine Holds.bind ((passive_auditPayupTransferSuccess _).quiet hσ t w₃ hs') (fun _ w' h => ?_)
    fun _ _ h => h
  exact Holds.bind (quiet_notifyPayupTransfer hσ _ _ _ _ _ t w' h) (fun _ _ h => h)
    fun _ _ h => h

theorem sat_executePayupTransfer (hidle : Idle t w) (session : SessionRisk) (sender : ℕ)
    (confirmationToken : String) (authorized : Bool) :
    Sat (bankSpec P K R cfg) t
      (executePayupTransfer cfg session sender confirmationToken authorized)
      (fun _ w' => Settled (bankSpec P K R cfg) t w') w := by
  refine Finds.then_sat hi (finds_openPayupTransfer hσ hi hidle sender)
    (fun _ w₁ hi₁ hg₁ h₁ => ?_) fun _ _ h => h
  obtain ⟨c, hc, hunfrozen⟩ := h₁
  have hidle₁ := hidle.grows hg₁
  have hlock : Sat (bankSpec P K R cfg) t
      (loadAndLockPayupPendingTransfer cfg sender confirmationToken) (fun r w' => match r with
        | .ok p => ∃ n, Touched t w' (.payupPending
              (cfg.payupTransferTokenVerifier confirmationToken)) p
              { p with consumedAt := some n } ∧
            PayupOpened K t w' (cfg.payupTransferTokenVerifier confirmationToken) sender n p c
        | .error _ => Settled (bankSpec P K R cfg) t w') w₁ := by
    refine Finds.then_sat hi₁ (finds_lockPayupPendingTransfer hσ hi₁ hidle₁ hc hunfrozen
      confirmationToken) (fun x w₂ hi₂ hg₂ h₂ => ?_) fun _ _ h => h
    refine Sat.assign_bind hσ hi₂ h₂.2 fun w₃ hi₃ hk₃ hs₃ => ?_
    exact ⟨x.1, .of_put (hidle₁.grows hg₂) hs₃, h₂.1.put hk₃ hs₃⟩
  refine Holds.bind (Holds.with_inv hlock hi₁) ?_ fun _ _ h => h.2
  rintro p w₂ ⟨hi₂, n, ht, hopen⟩
  refine Finds.then_sat hi₂ (finds_preparePayupTransfer hσ hi₂ session authorized ht hopen)
    (fun y w₃ hi₃ hg₃ h₃ => ?_) fun _ _ h => h
  obtain ⟨s, c', s', hd, hw, hw'⟩ := h₃
  exact sat_settlePayupTransfer hσ hi₃ (ht.grows hg₃) hd hw hw' y.2.1 y.2.2

end PayupTransfer

end SitBank.Banking
