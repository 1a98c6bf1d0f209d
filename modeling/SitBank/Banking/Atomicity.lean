import SitBank.Banking.System
import SitBank.Orm.Solo

/-!
Transfers as a whole, with every pattern of failures.

A single request is run to its end, `save_session` included; every operation
that can fail may fail. The success audit of a transfer commits the session of
its caller, so the money moves before the commit that the code calls the ledger
boundary. What fails from there on is reported as a failed transfer. And a
failing `audit_reference` is not one of the exceptions that the transfer rolls
back for, so the booked transfer stays in the session for `save_session`.
-/

namespace SitBank.Banking

open SitBank.Interaction SitBank.Orm

/-! ### What is recorded of a run -/

/-- Where the request is, whether an audit reference failed with the booked
transfer in the session, and whether a failure came after the money moved. -/
structure Watch where
  place : Point
  unreferenced : Bool
  late : Bool
  deriving DecidableEq, Repr

def Watch.start : Watch := ⟨.validating, false, false⟩

/-- Only these failures are recorded: the commit at the ledger boundary and the
reloads after it; an audit reference with the transfer in the session, which
comes too late once `save_session` commits. -/
def observe (o : Op bank Err) (r : Except (Exc Err) (Res bank Err o)) (g : Watch) : Watch :=
  match o, r with
  | .mark p, _ => { g with place := p }
  | .check (.runtime .auditReference), .error _ =>
      if g.place = .ledger then { g with unreferenced := true } else g
  | .load _, .error _ => if g.place = .boundary then { g with late := true } else g
  | .commit, .error _ => if g.place = .boundary then { g with late := true } else g
  | .commit, .ok _ =>
      if g.place = .saving ∧ g.unreferenced then { g with late := true } else g
  | _, _ => g

/-- The transfers. -/
inductive Transfer
  | localTransfer (sender payee : ℕ) (confirmationToken : String)
  | payup (session : SessionRisk) (sender : ℕ) (confirmationToken : String) (authorized : Bool)

namespace Transfer

def execute (cfg : Config) : Transfer → BankReq String
  | localTransfer sender payee token => executeLocalTransfer cfg sender payee token
  | payup session sender token authorized =>
      executePayupTransfer cfg session sender token authorized

/-- The row of the confirmation. -/
def confirmation (cfg : Config) : Transfer → Key
  | localTransfer _ _ token => .pending (cfg.localTransferTokenVerifier token)
  | payup _ _ token _ => .payupPending (cfg.payupTransferTokenVerifier token)

def sender : Transfer → ℕ
  | localTransfer sender _ _ => sender
  | payup _ sender _ _ => sender

end Transfer

/-! ### All or nothing -/

/-- The confirmation `k` is consumed by `txn`, which has its owner and amount. -/
def Spent : Key → BankDb → BankDb → Transaction → Prop
  | .pending token, db, db', txn => ∃ p n, db.row (.pending token) = some p ∧
      p.userId = txn.senderId ∧ wholeCents p.amount = some txn.amount ∧
      db'.row (.pending token) = some { p with
        consumedAt := some n, consumedTransactionRef := some txn.transactionRef }
  | .payupPending token, db, db', txn => ∃ p n, db.row (.payupPending token) = some p ∧
      p.userId = txn.senderId ∧ p.recipientUserId = txn.recipientId ∧
      wholeCents p.amount = some txn.amount ∧
      db'.row (.payupPending token) = some { p with
        consumedAt := some n, consumedTransactionRef := some txn.transactionRef }
  | _, _, _, _ => False

/-- `db'` is `db` after the transaction `txn`, and nothing else. -/
structure Transferred (k : Key) (db db' : BankDb) (txn : Transaction) : Prop where
  completed : txn.status = .completed
  distinct : txn.senderId ≠ txn.recipientId
  debit : ∃ s, db.row (.user txn.senderId) = some s ∧
    db'.row (.user txn.senderId) = some { s with balance := s.balance - txn.amount }
  credit : ∃ s, db.row (.user txn.recipientId) = some s ∧
    db'.row (.user txn.recipientId) = some { s with balance := s.balance + txn.amount }
  log : ∃ authorized, db'.log = db.log ++ [.transaction txn (some k) authorized]
  spent : Spent k db db' txn
  others : ∀ j, j ≠ .user txn.senderId → j ≠ .user txn.recipientId → j ≠ k →
    db'.row j = db.row j

/-- The balances, the ledger and the references of the confirmations are the
same. -/
structure Unmoved (db db' : BankDb) : Prop where
  balance : ∀ id, (db'.row (.user id)).map User.balance = (db.row (.user id)).map User.balance
  log : db'.log = db.log
  reference : ∀ token,
    (db'.row (.pending token)).map PendingTransfer.consumedTransactionRef =
      (db.row (.pending token)).map PendingTransfer.consumedTransactionRef
  payupReference : ∀ token,
    (db'.row (.payupPending token)).map PayupPendingTransfer.consumedTransactionRef =
      (db.row (.payupPending token)).map PayupPendingTransfer.consumedTransactionRef

/-- A returned reference stands for one transfer, an exception for none. -/
def AllOrNothing (cfg : Config) (x : Transfer) (db db' : BankDb) :
    Except (Exc Err) String → Prop
  | .ok ref => ∃ txn, txn.transactionRef = ref ∧ txn.senderId = x.sender ∧
      Transferred (x.confirmation cfg) db db' txn
  | .error _ => Unmoved db db'

theorem Unmoved.refl (db : BankDb) : Unmoved db db :=
    ⟨fun _ => rfl, rfl, fun _ => rfl, fun _ => rfl⟩

theorem Transferred.log_ne {k : Key} {db db' : BankDb} {txn : Transaction}
    (h : Transferred k db db' txn) : db'.log ≠ db.log := by
  obtain ⟨a, hlog⟩ := h.log
  rw [hlog]
  simp

/-- A consumed confirmation moves nothing. -/
theorem Unmoved.consume {w : BankWorld} {d : BankDb} {token : String} {p : PendingTransfer}
    {n : Option ℤ} (h : Rewrites w d (.pending token) p { p with consumedAt := n }) :
    Unmoved w.db d where
  balance id := by rw [h.others (.user id) nofun]
  log := h.log
  reference token' := by
    by_cases ht : token' = token
    · subst ht
      rw [h.new, h.row]
      rfl
    · rw [h.others (.pending token') (by simpa using ht)]
  payupReference token' := by rw [h.others (.payupPending token') nofun]

theorem Unmoved.consumePayup {w : BankWorld} {d : BankDb} {token : String}
    {p : PayupPendingTransfer} {n : Option ℤ}
    (h : Rewrites w d (.payupPending token) p { p with consumedAt := n }) :
    Unmoved w.db d where
  balance id := by rw [h.others (.user id) nofun]
  log := h.log
  reference token' := by rw [h.others (.pending token') nofun]
  payupReference token' := by
    by_cases ht : token' = token
    · subst ht
      rw [h.new, h.row]
      rfl
    · rw [h.others (.payupPending token') (by simpa using ht)]

/-! ### The checks are passive -/

section Checks

variable (cfg : Config)

theorem passive_ensureOutboundTransferAllowed (user : ℕ) :
    Passive (ensureOutboundTransferAllowed user) := by
  refine Prog.All.bind (.perform trivial) fun u => Prog.All.tryCatch ?_ fun e => ?_
  · unfold ensureAccountNotFrozen
    split <;> trivial
  · exact (passive_auditEvent _).bind fun _ => trivial

theorem passive_localTransferRecipient (sender payee : ℕ) :
    Passive (localTransferRecipient cfg sender payee) := by
  refine Prog.All.bind (.perform trivial) fun p => ?_
  split
  · exact passive_auditReference.bind fun _ => passive_rejectLocalTransfer _ _ _
  refine Prog.All.bind (.perform trivial) fun found => ?_
  split
  · split
    · exact passive_rejectLocalTransfer _ _ _
    · refine Prog.All.bind (.perform trivial) fun r => ?_
      split
      · trivial
      · exact passive_rejectLocalTransfer _ _ _
  · exact passive_auditReference.bind fun _ => passive_rejectLocalTransfer _ _ _

theorem passive_ensurePayeeCooldownElapsed (sender payee : ℕ) (now : ℤ) :
    Passive (ensurePayeeCooldownElapsed cfg sender payee now) := by
  refine Prog.All.bind (.perform trivial) fun p => ?_
  split
  · exact passive_rejectLocalTransfer _ _ _
  · trivial

theorem passive_loadPendingLocalTransfer (sender payee : ℕ) (confirmationToken : String)
    (now : ℤ) : Passive (loadPendingLocalTransfer cfg sender payee confirmationToken now) := by
  refine Prog.All.bind (.perform trivial) fun found => ?_
  split
  · exact passive_rejectLocalTransfer _ _ _
  · refine Prog.All.bind (.perform trivial) fun p => ?_
    split
    · exact passive_rejectLocalTransfer _ _ _
    · trivial

theorem passive_openLocalTransfer (sender payee : ℕ) (confirmationToken : String) :
    Passive (openLocalTransfer cfg sender payee confirmationToken) := by
  refine (passive_ensureOutboundTransferAllowed sender).bind fun _ => ?_
  refine (passive_localTransferRecipient cfg sender payee).bind fun recipient => ?_
  refine Prog.All.bind (.perform trivial) fun now => ?_
  refine (passive_ensurePayeeCooldownElapsed cfg _ _ _).bind fun _ => ?_
  exact (passive_loadPendingLocalTransfer cfg _ _ _ _).bind fun _ => trivial

theorem passive_localTransferAmount (sender : ℕ) (p : PendingTransfer) :
    Passive (localTransferAmount sender p) := by
  unfold localTransferAmount
  split
  · exact passive_rejectLocalTransfer _ _ _
  · split
    · trivial
    · exact passive_rejectLocalTransfer _ _ _

theorem passive_ensureLocalTransferBalance (sender payee : ℕ) (amount : ℤ) :
    Passive (ensureLocalTransferBalance sender payee amount) := by
  refine Prog.All.bind (.perform trivial) fun s => ?_
  split
  · refine Prog.All.bind (.perform trivial) fun _ => passive_auditReference.bind fun _ => ?_
    exact passive_rejectLocalTransfer _ _ _
  · trivial

theorem passive_amountUsedToday (user : ℕ) (type : TransactionType) :
    Passive (amountUsedToday user type) :=
  Prog.All.bind (.perform trivial) fun _ => .perform trivial

theorem passive_ensureLocalTransferDailyLimit (sender payee : ℕ) (amount : ℤ) :
    Passive (ensureLocalTransferDailyLimit sender payee amount) := by
  refine Prog.All.bind (.perform trivial) fun s => (passive_amountUsedToday _ _).bind fun used => ?_
  split
  · refine Prog.All.bind (.perform trivial) fun _ => passive_auditReference.bind fun _ => ?_
    exact passive_rejectLocalTransfer _ _ _
  · trivial

theorem passive_prepareLocalTransfer (sender recipient payee : ℕ) (p : PendingTransfer) :
    Passive (prepareLocalTransfer sender recipient payee p) := by
  refine (passive_localTransferAmount sender p).bind fun amount => ?_
  refine Prog.All.bind (.perform trivial) fun _ => ?_
  refine (passive_ensureLocalTransferBalance _ _ _).bind fun _ => ?_
  refine (passive_ensureLocalTransferDailyLimit _ _ _).bind fun limits => ?_
  refine Prog.All.bind (.perform trivial) fun _ => Prog.All.bind (.perform trivial) fun _ => ?_
  exact Prog.All.bind (.perform trivial) fun _ => trivial

theorem passive_openPayupTransfer (sender : ℕ) : Passive (openPayupTransfer sender) := by
  refine (passive_ensureOutboundTransferAllowed sender).bind fun _ => ?_
  refine Prog.All.bind (.perform trivial) fun s => ?_
  split
  · exact passive_rejectPayupTransfer _ _ _
  · trivial

theorem passive_lockPayupPendingTransfer (sender : ℕ) (confirmationToken : String) :
    Passive (lockPayupPendingTransfer cfg sender confirmationToken) := by
  refine Prog.All.bind (.perform trivial) fun found => ?_
  split
  · exact passive_rejectPayupTransfer _ _ _
  · refine Prog.All.bind (.perform trivial) fun now => Prog.All.bind (.perform trivial) fun p => ?_
    split
    · exact passive_rejectPayupTransfer _ _ _
    · trivial

theorem passive_validatePayupAmount (sender : ℕ) (p : PayupPendingTransfer) :
    Passive (validatePayupAmount sender p) := by
  unfold validatePayupAmount
  split
  · exact passive_rejectPayupTransfer _ _ _
  · split
    · trivial
    · exact passive_rejectPayupTransfer _ _ _

theorem passive_validatePayupRecipient (sender recipient : ℕ) :
    Passive (validatePayupRecipient sender recipient) := by
  refine Prog.All.bind (.perform trivial) fun found => ?_
  split
  · exact passive_rejectPayupTransfer _ _ _
  split
  · exact passive_rejectPayupTransfer _ _ _
  · refine Prog.All.bind (.perform trivial) fun r => ?_
    split
    · exact passive_rejectPayupTransfer _ _ _
    · trivial

theorem passive_reauthorizePayup (session : SessionRisk) (sender : ℕ) (authorized : Bool)
    (amount used : ℤ) : Passive (reauthorizePayup cfg session sender authorized amount used) := by
  refine Prog.All.bind (Prog.All.tryCatch ?_ fun e => ?_) fun risk => ?_
  · refine Prog.All.bind (.perform trivial) fun u => ?_
    refine Prog.All.bind (Prog.All.bind (.perform trivial) fun _ => .perform trivial) fun _ => ?_
    trivial
  · split <;> trivial
  · unfold authorizePayup
    split
    · exact passive_rejectPayupTransfer _ _ _
    · split
      · trivial
      · exact passive_rejectPayupTransfer _ _ _
    · trivial

theorem passive_preparePayupTransfer (session : SessionRisk) (sender : ℕ) (authorized : Bool)
    (p : PayupPendingTransfer) :
    Passive (preparePayupTransfer cfg session sender authorized p) := by
  refine (passive_validatePayupAmount sender p).bind fun amount => ?_
  refine (passive_validatePayupRecipient _ _).bind fun _ => Prog.All.bind
    (.perform trivial) fun _ => ?_
  refine (passive_amountUsedToday _ _).bind fun used => Prog.All.bind (.perform trivial) fun s => ?_
  refine (passive_reauthorizePayup cfg _ _ _ _ _).bind fun _ => ?_
  split
  · exact passive_rejectPayupTransfer _ _ _
  refine Prog.All.bind (.perform trivial) fun _ => Prog.All.bind (.perform trivial) fun _ => ?_
  exact Prog.All.bind (.perform trivial) fun _ => trivial

end Checks

/-! ### One request, watched -/

abbrev Watched {α : Type} (t : ℕ) (p : BankReq α)
    (Q : Except (Exc Err) α → BankWorld × Watch → Prop) (x : BankWorld × Watch) : Prop :=
  Solo (ghost exec observe) t p Q x

/-- The specifications of the programs, with nothing assumed of the runs. -/
abbrev anySpec (cfg : Config) : StepSpec bank Err :=
  bankSpec (fun _ _ => True) (fun _ _ _ => True) False cfg

theorem anySpec_cond (cfg : Config) (t : ℕ) (o : Op bank Err) (w : BankWorld) :
    (anySpec cfg).cond t o w :=
  stepCond_of_locks (fun _ _ => True) (fun _ _ _ => True) (fun _ _ _ _ _ _ => trivial)
    fun _ => trivial

theorem observe_passive {g : Watch} (hg : g.place = .validating ∨ g.place = .notifying)
    (o : Op bank Err) (r : Except (Exc Err) (Res bank Err o)) (ho : o.passive) :
    observe o r g = g := by
  have hledger : g.place ≠ .ledger := by rcases hg with h | h <;> rw [h] <;> nofun
  have hboundary : g.place ≠ .boundary := by rcases hg with h | h <;> rw [h] <;> nofun
  have hsaving : g.place ≠ .saving := by rcases hg with h | h <;> rw [h] <;> nofun
  unfold observe
  split
  · exact absurd ho id
  · exact if_neg hledger
  · exact if_neg hboundary
  · exact if_neg hboundary
  · exact if_neg fun h => hsaving h.1
  · rfl

section Watched

variable {t : ℕ} {w : BankWorld} {cfg : Config} {g : Watch}

/-- What a program does among others, it does alone. -/
theorem Sat.watched {α : Type} {p : BankReq α} {Q : Except (Exc Err) α → BankWorld → Prop}
    (h : Sat (anySpec cfg) t p Q w) (hi : (anySpec cfg).inv w) :
    Watched t p (fun r x => (anySpec cfg).inv x.1 ∧ Q r x.1) (w, g) :=
  Holds.solo (ρ := (anySpec cfg).rules) (bankSpec_lawful.sound.refl t) (anySpec_cond cfg t) h hi

/-- The checks of a transfer: where they pass, rows were loaded; where they do
not, the transaction may have ended. -/
theorem watched_checks {α : Type} {p : BankReq α} {Post : α → BankWorld → Prop} (hp : Passive p)
    (h : Finds (anySpec cfg) t p Post w) (hi : (anySpec cfg).inv w) (hb : Backed t w)
    (hf : Fresh t w) :
    Watched t p (fun r x => x.2 = .start ∧ (anySpec cfg).inv x.1 ∧ match r with
      | .ok a => x.1.db = w.db ∧ Fresh t x.1 ∧ Grows (anySpec cfg) t w x.1 ∧ Post a x.1
      | .error _ => (x.1.db = w.db ∨ x.1.db = w.view t) ∧
          (x.1.view t = w.db ∨ x.1.view t = w.view t)) (w, .start) := by
  refine ((Passive.solo (observe_passive (.inl rfl)) hp hb).and (Sat.watched h hi)).mono ?_
  rintro r ⟨w', g'⟩ ⟨⟨hd, rfl⟩, hi', hr⟩
  refine ⟨rfl, hi', ?_⟩
  cases r with
  | error e => exact hd.db_view hb
  | ok a =>
      refine ⟨?_, hd.freshness hf, hr.1, hr.2⟩
      rcases hd with hl | ⟨hidle, _, hdb⟩
      · exact hl.own.db
      · -- nothing was changed before either, so there was nothing to commit
        have hw : Idle t w := ⟨hr.1.dirty.symm.trans hidle.dirty, hr.1.new.symm.trans hidle.new⟩
        rw [view_idle hw, or_self_iff] at hdb
        exact hdb

/-! ### The booking -/

/-- The operations of the booking. -/
def Op.books : Op bank Err → Prop
  | .load _ => True
  | .assign _ _ => True
  | .add _ => True
  | _ => False

theorem watched_books {α : Type} {p : BankReq α} (hp : Prog.All Op.books p)
    (hg : g.place = .ledger) :
    Watched t p (fun _ x => x.1.db = w.db ∧ x.2 = g) (w, g) := by
  induction p generalizing w with
  | ret a => exact ⟨rfl, rfl⟩
  | raise e => exact ⟨rfl, rfl⟩
  | op o k ih =>
      rintro x rfl _ _ c r x' he
      obtain ⟨⟨r₁, w₁⟩, h₁, heq⟩ := Option.map_eq_some_iff.mp he
      cases heq
      have ho : o ≠ .commit := by
        rintro rfl
        exact hp.1
      have hnote : observe o r₁ g = g := by
        unfold observe
        split
        · exact absurd hp.1 id
        · exact absurd hp.1 id
        · rw [hg]
          rfl
        · exact absurd hp.1 id
        · exact absurd hp.1 id
        · rfl
      have hdb := exec_db ho h₁
      refine ⟨trivial, trivial, ?_⟩
      dsimp only
      rw [hnote]
      refine (ih r₁ (hp.2 r₁)).mono ?_
      rintro _ _ ⟨hdb', hg'⟩
      exact ⟨hdb'.trans hdb, hg'⟩

theorem books_bookTransfer (txn : Transaction) (k : Key) (authorized : Bool) :
    Prog.All Op.books (bookTransfer txn k authorized) := by
  refine Prog.All.bind (.perform trivial) fun _ => Prog.All.bind (.perform trivial) fun _ => ?_
  refine Prog.All.bind (.perform trivial) fun _ => Prog.All.bind (.perform trivial) fun _ => ?_
  exact .perform trivial

/-- An assignment is not recorded. -/
theorem watched_assign {β : Type} (hi : (anySpec cfg).inv w) {k : Key} {f : Row k → Row k}
    {e : Entry bank k} (he : (w.sess t).cache k = some e) {rest : Unit → BankReq β}
    {Q : Except (Exc Err) β → BankWorld × Watch → Prop}
    (hrest : ∀ w', (anySpec cfg).inv w' → w'.db = w.db → Keeps (anySpec cfg) t w w' →
      w'.sess t = (w.sess t).put k { e with current := f e.current } →
      Watched t (rest ()) Q (w', g)) :
    Watched t ((assign (S := bank) k f).bind rest) Q (w, g) := by
  have hsat : Sat (anySpec cfg) t (assign (S := bank) k f) (fun r w' => r = .ok () ∧
      Keeps (anySpec cfg) t w w' ∧
      w'.sess t = (w.sess t).put k { e with current := f e.current }) w :=
    Sat.assign bankSpec_lawful he fun w' hk hs => ⟨rfl, hk, hs⟩
  have hdb : Watched t (assign (S := bank) k f) (fun _ x => x.1.db = w.db ∧ x.2 = g) (w, g) :=
    Solo.perform fun c r w' hx => ⟨exec_db (o := Op.assign k f) nofun hx, rfl⟩
  refine Holds.bind ((Sat.watched hsat hi).and hdb) ?_ ?_
  · rintro _ ⟨w', _⟩ ⟨⟨hi', _, hk, hs⟩, hsame, rfl⟩
    exact hrest w' hi' hsame hk hs
  · rintro _ _ ⟨⟨_, hr, _⟩, _⟩
    cases hr

/-- From the writes of a transfer to the session that holds all of it. -/
theorem watched_book {β : Type} {txn : Transaction} {k : Key} {authorized : Bool}
    {c s c' s' : User} {l m : Row k} {f : Row k → Row k} (hi : (anySpec cfg).inv w)
    (hk : ∀ id, k ≠ .user id) (ht : Touched t w k l m)
    (hdistinct : txn.senderId ≠ txn.recipientId)
    (hw : Working (fun _ _ => True) t w txn.senderId c s)
    (hw' : Working (fun _ _ => True) t w txn.recipientId c' s') {rest : Unit → BankReq β}
    {Q : Except (Exc Err) β → BankWorld × Watch → Prop}
    (hrest : ∀ w', w'.db = w.db → Keeps (anySpec cfg) t w w' →
      Booked t w' txn k authorized c c' → (w'.sess t).cache k = some ⟨some l, f m⟩ →
      Watched t (rest ()) Q (w', ⟨.ledger, false, false⟩)) :
    Watched t ((mark (S := bank) .ledger).bind fun _ =>
      (bookTransfer txn k authorized).bind fun _ =>
        (assign (S := bank) k f).bind rest) Q (w, .start) := by
  have hσ : (anySpec cfg).Lawful := bankSpec_lawful
  have hmark : Watched t (mark (S := bank) .ledger)
      (fun r x => r = .ok () ∧ x.1.db = w.db ∧ x.2 = ⟨.ledger, false, false⟩) (w, .start) :=
    Solo.mark fun w' hl _ => ⟨rfl, hl.own.db, rfl⟩
  refine Holds.bind ((Sat.watched (Finds.mark hσ .ledger) hi).and hmark) ?_ ?_
  · rintro _ ⟨w₁, _⟩ ⟨⟨hi₁, hg₁, _⟩, _, hdb₁, rfl⟩
    have ht₁ := ht.grows hg₁
    have hbook := books_bookTransfer txn k authorized
    refine Holds.bind ((Sat.watched (sat_bookTransfer hσ hi₁ hdistinct (hw.grows hg₁)
      (hw'.grows hg₁) hk ht₁.cache ht₁.dirty ht₁.new) hi₁).and (watched_books hbook rfl)) ?_ ?_
    · rintro _ ⟨w₂, _⟩ ⟨⟨hi₂, _, hk₂, hbooked, hcache⟩, hdb₂, rfl⟩
      refine watched_assign hi₂ hcache fun w₃ _ hdb₃ hk₃ hs₃ => ?_
      refine hrest w₃ (hdb₃.trans (hdb₂.trans hdb₁)) ?_ (hbooked.put hk hs₃) ?_
      · exact (hg₁.toKeeps.trans hσ hk₂).trans hσ hk₃
      · rw [hs₃, Session.put_cache_self]
    · rintro _ _ ⟨⟨_, hr, _⟩, _⟩
      cases hr
  · rintro _ _ ⟨_, hr, _⟩
    cases hr

/-! ### The success audit -/

/-- The transfer is in the session, and the instances that its audit reads exist. -/
structure Loaded (t sender : ℕ) (w : BankWorld) : Prop where
  backed : Backed t w
  sender : ∃ e s, (w.sess t).cache (.user sender) = some e ∧ w.db.row (.user sender) = some s

theorem Loaded.loads {sender : ℕ} {w' : BankWorld} (h : Loaded t sender w)
    (hl : Loads t w w') : Loaded t sender w' := by
  obtain ⟨e, s, he, hs⟩ := h.sender
  exact ⟨hl.backed h.backed, e, s, hl.keep _ e he, by rw [hl.own.db]; exact hs⟩

/-- How the success audit of the transfer in `w` can end: everything is
committed; nothing is, and the session is empty; or an audit reference failed
and the session still holds the transfer. -/
inductive Audited (t : ℕ) (w : BankWorld) : Except (Exc Err) Unit → BankWorld × Watch → Prop
  | committed {w' : BankWorld} (hdb : w'.db = w.view t) (hidle : Idle t w') :
      Audited t w (.ok ()) (w', ⟨.ledger, false, false⟩)
  | abandoned {w' : BankWorld} (e : Exc Err) (hdb : w'.db = w.db) (hidle : Idle t w') :
      Audited t w (.error e) (w', ⟨.ledger, false, false⟩)
  | unreferenced {w' : BankWorld} (hdb : w'.db = w.db) (hview : w'.view t = w.view t) :
      Audited t w (.error (.app (.runtime .auditReference))) (w', ⟨.ledger, true, false⟩)

theorem Audited.loads {w₀ : BankWorld} {r : Except (Exc Err) Unit} {x : BankWorld × Watch}
    (h : Audited t w r x) (hl : Loads t w₀ w) (hb : Backed t w₀) : Audited t w₀ r x := by
  have hview := hl.view_eq hb
  cases h with
  | committed hdb hidle => exact .committed (hdb.trans hview) hidle
  | abandoned e hdb hidle => exact .abandoned e (hdb.trans hl.own.db) hidle
  | unreferenced hdb hv => exact .unreferenced (hdb.trans hl.own.db) (hv.trans hview)

/-- Rows are read at the ledger: an exception leaves the committed state alone. -/
def Peeks (t : ℕ) (w : BankWorld) (p : BankReq Unit) : Prop :=
  Watched t p (fun r x => x.2 = ⟨.ledger, false, false⟩ ∧ x.1.db = w.db ∧
    (r = .ok () → Loads t w x.1)) (w, ⟨.ledger, false, false⟩)

theorem Peeks.bind {p : BankReq Unit} {f : Unit → BankReq Unit} (hp : Peeks t w p)
    (hf : ∀ w', Peeks t w' (f ())) : Peeks t w (p.bind f) := by
  refine Holds.bind hp ?_ fun _ _ h => ⟨h.1, h.2.1, nofun⟩
  rintro _ ⟨w₁, _⟩ ⟨rfl, hdb₁, h₁⟩
  refine (hf w₁).mono ?_
  rintro r ⟨w₂, _⟩ ⟨rfl, hdb₂, h₂⟩
  exact ⟨rfl, hdb₂.trans hdb₁, fun hr => (h₁ rfl).trans (h₂ hr)⟩

theorem peeks_insertAuditEvent : Peeks t w insertAuditEvent := by
  have hquery : ∀ w', Peeks t w' (query fun _ => ()) := fun w' =>
    Solo.query (fun _ _ hl _ => ⟨rfl, hl.own.db, fun _ => hl⟩) fun _ _ hdb _ => ⟨rfl, hdb, nofun⟩
  have hcheck : ∀ w', Peeks t w' (check (.runtime .auditHash)) := fun w' =>
    Solo.check (fun _ hl => ⟨rfl, hl.own.db, fun _ => hl⟩) fun _ hl => ⟨rfl, hl.own.db, nofun⟩
  exact (hquery w).bind fun w₁ => (hcheck w₁).bind hquery

theorem watched_auditReference {f : Unit → BankReq Unit}
    {Q : Except (Exc Err) Unit → BankWorld × Watch → Prop} (hb : Backed t w)
    (hf : ∀ w', Loads t w w' → Watched t (f ()) Q (w', ⟨.ledger, false, false⟩))
    (hQ : ∀ r x, Audited t w r x → Q r x) :
    Watched t (auditReference.bind f) Q (w, ⟨.ledger, false, false⟩) := by
  refine Holds.bind (M := fun r x => (r = .ok () → Loads t w x.1 ∧ x.2 = ⟨.ledger, false, false⟩) ∧
    (r ≠ .ok () → Audited t w r x)) ?_ ?_ fun e x h => hQ (.error e) x (h.2 fun heq => by cases heq)
  · exact Solo.check (fun _ hl => ⟨fun _ => ⟨hl, rfl⟩, fun hne => absurd rfl hne⟩)
      fun _ hl => ⟨fun heq => (by cases heq), fun _ => .unreferenced hl.own.db (hl.view_eq hb)⟩
  · rintro _ ⟨w₁, x₂⟩ ⟨hok, -⟩
    obtain ⟨hl, rfl⟩ := hok rfl
    exact hf w₁ hl

theorem watched_touchUser {sender : ℕ} (h : Loaded t sender w) :
    Watched t (touchUser (some sender)) (fun r x => r = .ok () ∧ Loads t w x.1 ∧
      x.2 = ⟨.ledger, false, false⟩) (w, ⟨.ledger, false, false⟩) := by
  obtain ⟨e, s, he, hs⟩ := h.sender
  refine Holds.bind (M := fun r x => (∃ u, r = .ok u) ∧ Loads t w x.1 ∧
    x.2 = ⟨.ledger, false, false⟩) (Solo.load hs ?_ ?_) ?_ ?_
  · exact fun u w' hl => ⟨⟨u, rfl⟩, hl, rfl⟩
  · intro _ w' _ _ hnone
    rw [he] at hnone
    cases hnone
  · rintro _ _ ⟨_, hl, hg⟩
    exact ⟨rfl, hl, hg⟩
  · rintro _ _ ⟨⟨_, hr⟩, _⟩
    cases hr

theorem watched_auditEventRequired {sender : ℕ} (h : Loaded t sender w) :
    Watched t (auditEventRequired (some sender)) (fun r x => x.2 = ⟨.ledger, false, false⟩ ∧
      match r with
      | .ok _ => Loads t w x.1
      | .error e => e = .app .auditWrite ∧ x.1.db = w.db) (w, ⟨.ledger, false, false⟩) := by
  refine Holds.bind (watched_touchUser h) ?_ ?_
  · rintro _ ⟨w₁, _⟩ ⟨_, hl₁, rfl⟩
    refine Holds.tryCatch peeks_insertAuditEvent ?_ ?_
    · rintro _ _ ⟨hg, _, hl⟩
      exact ⟨hg, hl₁.trans (hl rfl)⟩
    · rintro _ _ ⟨hg, hdb, _⟩
      exact ⟨hg, rfl, hdb.trans hl₁.own.db⟩
  · rintro _ _ ⟨hr, _⟩
    cases hr

/-- The required audit row and the commit that goes with it. -/
theorem watched_auditOutboundTransferSuccess {sender : ℕ} (h : Loaded t sender w) :
    Watched t (auditOutboundTransferSuccess sender) (fun r x => Audited t w r x ∨
      r = .error (.app .auditWrite) ∧ x.1.db = w.db ∧ x.2 = ⟨.ledger, false, false⟩)
      (w, ⟨.ledger, false, false⟩) := by
  refine watched_auditReference h.backed (fun w₁ hl₁ => ?_) fun _ _ h => .inl h
  refine Holds.bind (watched_auditEventRequired (h.loads hl₁)) ?_ ?_
  · rintro _ ⟨w₂, _⟩ ⟨rfl, hl₂⟩
    have hl := hl₁.trans hl₂
    refine Solo.commit (fun w' hdb hc => .inl ?_) fun e w' hdb hc => .inl ?_
    · exact .committed (hdb.trans (hl.view_eq h.backed)) hc.idle
    · exact .abandoned _ (hdb.trans hl.own.db) hc.idle
  · rintro _ ⟨w₂, _⟩ ⟨rfl, rfl, hdb⟩
    exact .inr ⟨rfl, hdb.trans hl₁.own.db, rfl⟩

/-- The callers' handler. -/
theorem watched_orRollback {p : BankReq Unit}
    (hp : Watched t p (fun r x => Audited t w r x ∨
      r = .error (.app .auditWrite) ∧ x.1.db = w.db ∧ x.2 = ⟨.ledger, false, false⟩)
      (w, ⟨.ledger, false, false⟩)) :
    Watched t (p.tryCatch fun
      | .app .auditWrite => do
          rollback
          raise .auditWrite
      | e => .raise e) (Audited t w) (w, ⟨.ledger, false, false⟩) := by
  refine Holds.tryCatch hp ?_ ?_
  · rintro _ _ (h | ⟨hr, _⟩)
    · exact h
    · cases hr
  · rintro e ⟨w₁, g₁⟩ h
    by_cases he : e = .app .auditWrite
    · subst he
      have hdb : w₁.db = w.db ∧ g₁ = ⟨.ledger, false, false⟩ := by
        rcases h with h | ⟨_, hdb, hg⟩
        · cases h with
          | abandoned _ hdb _ => exact ⟨hdb, rfl⟩
        · exact ⟨hdb, hg⟩
      obtain ⟨hdb, rfl⟩ := hdb
      refine Holds.bind (M := fun r x => r = .ok () ∧ Audited t w (.error (.app .auditWrite)) x)
        (Solo.rollback fun w' hdb' hc => ⟨rfl, .abandoned _ (hdb'.trans hdb) hc.idle⟩)
        (fun _ _ h => h.2) fun _ _ h => nomatch h.1
    · have ha : Audited t w (.error e) (w₁, g₁) := by
        rcases h with h | ⟨hr, _⟩
        · exact h
        · exact absurd (Except.error.inj hr) he
      split
      · exact absurd rfl he
      · exact ha

theorem watched_auditPayupTransferSuccess {sender : ℕ} (h : Loaded t sender w) :
    Watched t (auditPayupTransferSuccess sender) (Audited t w) (w, ⟨.ledger, false, false⟩) :=
  watched_orRollback (watched_auditOutboundTransferSuccess h)

theorem watched_auditLocalTransferSuccess {sender payee : ℕ} {q : Payee} (h : Loaded t sender w)
    (hq : w.db.row (.payee payee) = some q) :
    Watched t (auditLocalTransferSuccess sender payee) (Audited t w)
      (w, ⟨.ledger, false, false⟩) := by
  refine Holds.bind (M := fun r x => match r with
    | .ok _ => Loads t w x.1 ∧ x.2 = ⟨.ledger, false, false⟩
    | .error e => Audited t w (.error e) x) (Solo.load hq ?_ ?_) ?_ fun _ _ h => h
  · exact fun _ w' hl => ⟨hl, rfl⟩
  · exact fun e w' hdb hc _ => .abandoned e hdb hc.idle
  · rintro _ ⟨w₁, _⟩ ⟨hl₁, rfl⟩
    have h₁ := h.loads hl₁
    refine (watched_orRollback (watched_auditReference h₁.backed (fun w₂ hl₂ => ?_)
      fun _ _ h => .inl h)).mono fun _ _ ha => ha.loads hl₁ h.backed
    refine (watched_auditOutboundTransferSuccess (h₁.loads hl₂)).mono ?_
    rintro r x (ha | ⟨hr, hdb, hg⟩)
    · exact .inl (ha.loads hl₂ h₁.backed)
    · exact .inr ⟨hr, hdb.trans hl₂.own.db, hg⟩

/-! ### After the money moved -/

/-- Nothing is written any more, and an exception is one that was recorded. -/
def Concluded {α : Type} (t : ℕ) (db : BankDb) (r : Except (Exc Err) α) (x : BankWorld × Watch) :
    Prop :=
  x.1.db = db ∧ Idle t x.1 ∧ match r with
    | .ok _ => x.2 = ⟨.boundary, false, false⟩
    | .error _ => x.2.late = true

/-- A program from the ledger boundary on. -/
def Concluding {α : Type} (p : BankReq α) : Prop :=
  ∀ t w, Idle t w → Watched t p (Concluded t w.db) (w, ⟨.boundary, false, false⟩)

theorem Concluding.bind {α β : Type} {p : BankReq α} {f : α → BankReq β} (hp : Concluding p)
    (hf : ∀ a, Concluding (f a)) : Concluding (p.bind f) := by
  intro t w hidle
  refine Holds.bind (hp t w hidle) ?_ fun _ _ h => h
  rintro a ⟨w₁, _⟩ ⟨hdb₁, hidle₁, rfl⟩
  refine (hf a t w₁ hidle₁).mono ?_
  rintro r x ⟨hdb, hidle', hr⟩
  exact ⟨hdb.trans hdb₁, hidle', hr⟩

theorem concluding_perform {o : Op bank Err} (ho : o.passive)
    (hok : ∀ a, observe o (.ok a) ⟨.boundary, false, false⟩ = ⟨.boundary, false, false⟩)
    (herr : ∀ e, (observe o (.error e) ⟨.boundary, false, false⟩).late = true) :
    Concluding (Prog.perform o : BankReq (Res bank Err o)) := by
  intro t w hidle
  refine Solo.perform fun c r w' hx => ?_
  obtain ⟨hdb, hidle'⟩ := (exec_passive ho hx).idle hidle
  refine ⟨hdb, hidle', ?_⟩
  cases r with
  | ok a => exact hok a
  | error e => exact herr e

theorem concluding_load (k : Key) : Concluding (load (S := bank) (A := Err) k) :=
  concluding_perform (o := Op.load k) trivial (fun _ => rfl) fun _ => rfl

theorem concluding_commit : Concluding (commit : BankReq Unit) :=
  concluding_perform (o := Op.commit) trivial (fun _ => rfl) fun _ => rfl

/-- A notification cannot fail the request. -/
theorem concluding_safeSendNotification {p : BankReq Unit} (hp : Passive p) :
    Concluding (safeSendNotification p) := by
  intro t w hidle
  refine Holds.bind (M := fun r x => r = .ok () ∧ x.1.db = w.db ∧ Idle t x.1 ∧
    x.2 = ⟨.notifying, false, false⟩)
      (Solo.mark fun w' hl _ => ⟨rfl, hl.own.db, hl.idle hidle, rfl⟩)
    ?_ fun _ _ h => nomatch h.1
  rintro _ ⟨w₁, _⟩ ⟨_, hdb₁, hidle₁, rfl⟩
  have hpass : Passive (p.tryCatch fun _ => pure ()) := hp.tryCatch fun _ => trivial
  refine Holds.bind (M := fun r x => r = .ok () ∧ x.1.db = w.db ∧ Idle t x.1 ∧
    x.2 = ⟨.notifying, false, false⟩) ?_ ?_ fun _ _ h => nomatch h.1
  · refine Holds.tryCatch (Passive.solo (observe_passive (.inr rfl)) hp hidle₁.backed) ?_ ?_
    all_goals
      rintro _ ⟨w₂, _⟩ ⟨hd, rfl⟩
      obtain ⟨hdb₂, hidle₂⟩ := hd.idle hidle₁
      exact ⟨rfl, hdb₂.trans hdb₁, hidle₂, rfl⟩
  · rintro _ ⟨w₂, _⟩ ⟨_, hdb₂, hidle₂, rfl⟩
    exact Solo.mark fun w' hl _ => ⟨hl.own.db.trans hdb₂, hl.idle hidle₂, rfl⟩

/-- The mark at the ledger boundary opens the last part. -/
theorem watched_concluding {rest : BankReq Unit} (hrest : Concluding rest) (hidle : Idle t w) :
    Watched t ((mark (S := bank) .boundary).bind fun _ => rest) (Concluded t w.db)
      (w, ⟨.ledger, false, false⟩) := by
  refine Holds.bind (M := fun r x => r = .ok () ∧ x.1.db = w.db ∧ Idle t x.1 ∧
    x.2 = ⟨.boundary, false, false⟩) (Solo.mark fun w' hl _ => ⟨rfl, hl.own.db, hl.idle hidle, rfl⟩)
    ?_ fun _ _ h => nomatch h.1
  rintro _ ⟨w₁, _⟩ ⟨_, hdb₁, hidle₁, rfl⟩
  refine (hrest t w₁ hidle₁).mono ?_
  rintro r x ⟨hdb, h⟩
  exact ⟨hdb.trans hdb₁, h⟩

theorem concluding_notifications (sender recipient : ℕ)
    (usedToday amount dailyLimit : ℤ) (k : Key) :
    Concluding (do
      commit
      let _ ← load (S := bank) k
      let _ ← loadUser sender
      safeSendNotification (sendTransferNotification sender)
      let _ ← loadUser sender
      let _ ← loadUser recipient
      safeSendNotification (sendTransferNotification recipient)
      safeSendNotification (maybeSendDailyLimitWarning sender usedToday amount dailyLimit)) := by
  refine concluding_commit.bind fun _ => (concluding_load k).bind fun _ => ?_
  refine (concluding_load _).bind fun _ => ?_
  refine (concluding_safeSendNotification (passive_sendTransferNotification _)).bind fun _ => ?_
  refine (concluding_load _).bind fun _ => (concluding_load _).bind fun _ => ?_
  refine (concluding_safeSendNotification (passive_sendTransferNotification _)).bind fun _ => ?_
  exact concluding_safeSendNotification (passive_maybeSendDailyLimitWarning _ _ _ _)

/-! ### The transfers -/

/-- What the handler leaves. After an exception the money has moved and the
failure is recorded; or it has not moved, and what the session still holds
moves nothing, unless an audit reference failed. -/
def Outcome (cfg : Config) (x : Transfer) (db : BankDb) (t : ℕ) (r : Except (Exc Err) String)
    (y : BankWorld × Watch) : Prop :=
  match r with
  | .ok ref => AllOrNothing cfg x db y.1.db (.ok ref) ∧ Idle t y.1 ∧
      y.2.unreferenced = false ∧ y.2.late = false
  | .error _ => y.2.late = true ∧ Idle t y.1 ∧ y.1.db.log ≠ db.log ∨
      y.2.late = false ∧ Unmoved db y.1.db ∧
        (y.2.unreferenced = true ∧ (y.1.view t).log ≠ db.log ∨
          y.2.unreferenced = false ∧ Unmoved db (y.1.view t))

/-- Everything from the audit on. -/
theorem watched_settled {x : Transfer} {txn : Transaction} {db : BankDb} {audit : BankReq Unit}
    {notify : BankReq Unit} (hdb : w.db = db) (hsender : txn.senderId = x.sender)
    (hmoved : Transferred (x.confirmation cfg) db (w.view t) txn)
    (haudit : Watched t audit (Audited t w) (w, ⟨.ledger, false, false⟩))
    (hnotify : ∀ w', Idle t w' →
      Watched t notify (Concluded t w'.db) (w', ⟨.ledger, false, false⟩)) :
    Watched t (audit.bind fun _ => notify.bind fun _ => pure txn.transactionRef)
      (Outcome cfg x db t) (w, ⟨.ledger, false, false⟩) := by
  refine Holds.bind haudit ?_ ?_
  · rintro _ ⟨w₁, _⟩ (⟨hdb₁, hidle₁⟩ | _ | _)
    refine Holds.bind (hnotify w₁ hidle₁) ?_ ?_
    · rintro _ ⟨w₂, _⟩ ⟨hdb₂, hidle₂, rfl⟩
      refine ⟨⟨txn, rfl, hsender, ?_⟩, hidle₂, rfl, rfl⟩
      dsimp only
      rw [hdb₂, hdb₁]
      exact hmoved
    · rintro _ ⟨w₂, _⟩ ⟨hdb₂, hidle₂, hlate⟩
      refine .inl ⟨hlate, hidle₂, ?_⟩
      dsimp only
      rw [hdb₂, hdb₁]
      exact hmoved.log_ne
  · rintro _ ⟨w₁, _⟩ h
    cases h with
    -- the audit failed and rolled back
    | abandoned e hdb₁ hidle₁ =>
        refine .inr ⟨rfl, ?_, .inr ⟨rfl, ?_⟩⟩
        · dsimp only
          rw [hdb₁, hdb]
          exact .refl db
        · dsimp only
          rw [view_idle hidle₁, hdb₁, hdb]
          exact .refl db
    -- the audit failed on its reference, and the booking is still in the session
    | unreferenced hdb₁ hview =>
        refine .inr ⟨rfl, ?_, .inl ⟨rfl, ?_⟩⟩
        · dsimp only
          rw [hdb₁, hdb]
          exact .refl db
        · dsimp only
          rw [hview]
          exact hmoved.log_ne

/-- Where a check fails, all that may have been written is the consumption of the
confirmation. -/
theorem outcome_of_checks {x : Transfer} {db : BankDb} {e : Exc Err} {y : BankWorld × Watch}
    (hg : y.2 = .start) (hdb : w.db = db) (hview : Unmoved db (w.view t))
    (h : (y.1.db = w.db ∨ y.1.db = w.view t) ∧ (y.1.view t = w.db ∨ y.1.view t = w.view t)) :
    Outcome cfg x db t (.error e) y := by
  have hsame : ∀ d, d = w.db ∨ d = w.view t → Unmoved db d := by
    rintro d (rfl | rfl)
    · rw [hdb]
      exact .refl db
    · exact hview
  exact .inr ⟨by rw [hg]; rfl, hsame _ h.1, .inr ⟨by rw [hg]; rfl, hsame _ h.2⟩⟩

/-- With current copies, what the session holds is the transfer itself. -/
theorem Booked.transferred {P : User → User → Prop} {K : ℕ → BankDb → ℤ → Prop}
    {txn : Transaction} {k : Key} {authorized : Bool} {s s' : User}
    (h : Booked t w txn k authorized s s') (hd : Deal P K t w txn s s s' s')
    (hspent : Spent k w.db (w.view t) txn) : Transferred k w.db (w.view t) txn := by
  have hm := h.moves hd
  exact ⟨hd.completed, hd.distinct, ⟨s, hd.sender.row, hm.debit⟩,
    ⟨s', hd.recipient.row, hm.credit⟩, ⟨authorized, hm.log⟩, hspent, hm.others⟩

theorem Working.current {P : User → User → Prop} {id : ℕ} {c s : User}
    (h : Working P t w id c s) (hf : Fresh t w) : s = c := by
  have hrow := h.copy.row_eq hf
  rw [h.row] at hrow
  exact Option.some.inj hrow

theorem Booked.loaded {txn : Transaction} {k : Key} {authorized : Bool} {c c' s : User}
    {e : Entry bank k} (h : Booked t w txn k authorized c c')
    (hs : w.db.row (.user txn.senderId) = some s) (he : (w.sess t).cache k = some e) :
    Loaded t txn.senderId w := by
  refine ⟨fun j hj => ?_, _, s, h.sender, hs⟩
  rcases (h.dirty j).mp hj with rfl | rfl | rfl
  · exact ⟨_, h.sender⟩
  · exact ⟨_, h.recipient⟩
  · exact ⟨_, he⟩

section Execute

variable {db : BankDb} (hi : (anySpec cfg).inv w) (hidle : Idle t w) (hf : Fresh t w)
  (hdb : w.db = db)
include hi hidle hf hdb

theorem watched_executeLocalTransfer (sender payee : ℕ) (confirmationToken : String) :
    Watched t (executeLocalTransfer cfg sender payee confirmationToken)
      (Outcome cfg (.localTransfer sender payee confirmationToken) db t) (w, .start) := by
  have hσ : (anySpec cfg).Lawful := bankSpec_lawful
  refine Holds.bind (watched_checks (passive_openLocalTransfer cfg _ _ _)
    (finds_openLocalTransfer hσ hi hidle sender payee confirmationToken) hi hidle.backed hf) ?_ ?_
  · rintro ⟨recipient, n, p⟩ ⟨w₁, _⟩ ⟨rfl, hi₁, hdb₁, hf₁, hg₁, c, c', q, hopen, hcopy⟩
    have hidle₁ := hidle.grows hg₁
    -- the pending transfer is marked as consumed, in the session only
    refine watched_assign hi₁ hcopy fun w₂ hi₂ hdb₂ hk₂ hs₂ => ?_
    have ht : Touched t w₂ (.pending (cfg.localTransferTokenVerifier confirmationToken)) p
        { p with consumedAt := some n } := .of_put hidle₁ hs₂
    have hopen₂ := hopen.put hk₂ hs₂
    have hdb' : w₂.db = db := hdb₂.trans (hdb₁.trans hdb)
    -- until the booking the view has moved no money
    have hview : Unmoved db (w₂.view t) := by
      rw [← hdb']
      exact .consume (ht.consumes hopen₂.row hopen.unconsumed)
    refine Holds.bind (watched_checks (passive_prepareLocalTransfer _ _ _ _)
      (finds_prepareLocalTransfer hσ hi₂ ht hopen₂) hi₂ (hidle₁.backed.put hs₂)
      (hf₁.put hdb₂ hopen.row hs₂)) ?_ ?_
    · rintro ⟨txn, used, limit⟩ ⟨w₃, _⟩ ⟨rfl, hi₃, hdb₃, hf₃, hg₃, s, s', hd, hw, hw'⟩
      obtain rfl := hw.current hf₃
      obtain rfl := hw'.current hf₃
      -- both accounts are locked and current here, and the booking is written
      refine watched_book (k := .pending (cfg.localTransferTokenVerifier confirmationToken)) hi₃
        nofun (ht.grows hg₃) hd.distinct hw hw' fun w₄ hdb₄ hk₄ hbooked hcache => ?_
      have hd₄ := hd.keeps hk₄
      have hdb₀ : w₄.db = db := hdb₄.trans (hdb₃.trans hdb')
      -- the transaction that is booked spends the pending transfer
      have hspent : Spent (.pending (cfg.localTransferTokenVerifier confirmationToken)) w₄.db
          (w₄.view t) txn :=
        ⟨p, n, hd₄.pending, hd.owner, hd.amount,
          hbooked.spends hcache hd₄.pending hd.unconsumed⟩
      have hmoved := hbooked.transferred hd₄.toDeal hspent
      refine watched_settled hdb₀ (hd.owner.symm.trans hopen.owner) (hdb₀ ▸ hmoved) ?_
        fun w' hidle' => watched_concluding (concluding_notifications _ _ _ _ _ _) hidle'
      have hpayee : w₄.db.row (.payee payee) = some q := by
        rw [← hopen.payeeId]
        exact hd₄.payeeRow
      exact watched_auditLocalTransferSuccess (hbooked.loaded hd₄.sender.row hcache) hpayee
    · rintro e y ⟨hg, _, h⟩
      exact outcome_of_checks hg hdb' hview h
  · rintro e y ⟨hg, _, h⟩
    refine outcome_of_checks hg hdb ?_ h
    rw [view_idle hidle, hdb]
    exact .refl db

theorem watched_executePayupTransfer (session : SessionRisk) (sender : ℕ)
    (confirmationToken : String) (authorized : Bool) :
    Watched t (executePayupTransfer cfg session sender confirmationToken authorized)
      (Outcome cfg (.payup session sender confirmationToken authorized) db t) (w, .start) := by
  have hσ : (anySpec cfg).Lawful := bankSpec_lawful
  -- a check that fails has moved no money, whichever check it was
  have hchecked : ∀ {w' : BankWorld} {e : Exc Err} {y : BankWorld × Watch}, Idle t w' →
      w'.db = db → y.2 = .start →
      (y.1.db = w'.db ∨ y.1.db = w'.view t) ∧ (y.1.view t = w'.db ∨ y.1.view t = w'.view t) →
      Outcome cfg (.payup session sender confirmationToken authorized) db t (.error e) y := by
    intro w' e y hidle' hdb' hg h
    refine outcome_of_checks hg hdb' ?_ h
    rw [view_idle hidle', hdb']
    exact .refl db
  refine Holds.bind (watched_checks (passive_openPayupTransfer _)
    (finds_openPayupTransfer hσ hi hidle sender) hi hidle.backed hf) ?_ ?_
  · rintro _ ⟨w₁, _⟩ ⟨rfl, hi₁, hdb₁, hf₁, hg₁, c, hc, hunfrozen⟩
    have hidle₁ := hidle.grows hg₁
    -- the pending transfer is opened and consumed, in the session only
    refine Holds.bind (M := fun r y => match r with
      | .ok p => ∃ n, y.2 = .start ∧ (anySpec cfg).inv y.1 ∧ y.1.db = db ∧ Fresh t y.1 ∧
          Backed t y.1 ∧ Touched t y.1 (.payupPending
            (cfg.payupTransferTokenVerifier confirmationToken)) p { p with consumedAt := some n } ∧
          PayupOpened (fun _ _ _ => True) t y.1
            (cfg.payupTransferTokenVerifier confirmationToken) sender n p c
      | .error e => Outcome cfg (.payup session sender confirmationToken authorized) db t
          (.error e) y) ?_ ?_ fun _ _ h => h
    · refine Holds.bind (watched_checks (passive_lockPayupPendingTransfer cfg _ _)
        (finds_lockPayupPendingTransfer hσ hi₁ hidle₁ hc hunfrozen confirmationToken) hi₁
        hidle₁.backed hf₁) ?_ ?_
      · rintro ⟨n, p⟩ ⟨w₂, _⟩ ⟨rfl, hi₂, hdb₂, hf₂, hg₂, hopen, hcopy⟩
        have hidle₂ := hidle₁.grows hg₂
        refine watched_assign hi₂ hcopy fun w₃ hi₃ hdb₃ hk₃ hs₃ => ?_
        exact ⟨n, rfl, hi₃, hdb₃.trans (hdb₂.trans (hdb₁.trans hdb)),
          hf₂.put hdb₃ hopen.row hs₃, hidle₂.backed.put hs₃, .of_put hidle₂ hs₃,
          hopen.put hk₃ hs₃⟩
      · rintro e y ⟨hg, _, h⟩
        exact hchecked hidle₁ (hdb₁.trans hdb) hg h
    rintro p ⟨w₂, _⟩ ⟨n, rfl, hi₂, hdb₂, hf₂, hb₂, ht, hopen⟩
    have hview : Unmoved db (w₂.view t) := by
      rw [← hdb₂]
      exact .consumePayup (ht.consumesPayup hopen.row hopen.unconsumed)
    refine Holds.bind (watched_checks (passive_preparePayupTransfer cfg _ _ _ _)
      (finds_preparePayupTransfer hσ hi₂ session authorized ht hopen) hi₂ hb₂ hf₂) ?_ ?_
    · rintro ⟨txn, used, limit⟩ ⟨w₃, _⟩ ⟨rfl, hi₃, hdb₃, hf₃, hg₃, s, c', s', hd, hw, hw'⟩
      obtain rfl := hw.current hf₃
      obtain rfl := hw'.current hf₃
      -- both accounts are locked and current here, and the booking is written
      refine watched_book (k := .payupPending (cfg.payupTransferTokenVerifier confirmationToken))
        hi₃ nofun (ht.grows hg₃) hd.distinct hw hw' fun w₄ hdb₄ hk₄ hbooked hcache => ?_
      have hd₄ := hd.keeps hk₄
      have hdb₀ : w₄.db = db := hdb₄.trans (hdb₃.trans hdb₂)
      have hspent : Spent (.payupPending (cfg.payupTransferTokenVerifier confirmationToken)) w₄.db
          (w₄.view t) txn :=
        ⟨p, n, hd₄.pending, hd.owner, hd.recipientId.symm, hd.amount,
          hbooked.spendsPayup hcache hd₄.pending hd.unconsumed⟩
      have hmoved := hbooked.transferred hd₄.toDeal hspent
      refine watched_settled hdb₀ (hd.owner.symm.trans hopen.owner) (hdb₀ ▸ hmoved) ?_
        fun w' hidle' => watched_concluding (concluding_notifications _ _ _ _ _ _) hidle'
      exact watched_auditPayupTransferSuccess (hbooked.loaded hd₄.sender.row hcache)
    · rintro e y ⟨hg, _, h⟩
      exact outcome_of_checks hg hdb₂ hview h
  · rintro e y ⟨hg, _, h⟩
    exact hchecked hidle hdb hg h

theorem watched_execute (x : Transfer) :
    Watched t (x.execute cfg) (Outcome cfg x db t) (w, .start) := by
  cases x with
  | localTransfer sender payee token =>
      exact watched_executeLocalTransfer hi hidle hf hdb sender payee token
  | payup session sender token authorized =>
      exact watched_executePayupTransfer hi hidle hf hdb session sender token authorized

end Execute

/-! ### The end of the request -/

/-- What `save_session` does with the session of the request. -/
def Saved (t : ℕ) (w : BankWorld) (g : Watch) (x : BankWorld × Watch) : Prop :=
  x.1.db = w.db ∧ x.2 = g ∨
    x.1.db = w.view t ∧ x.2 = { g with late := g.late || g.unreferenced }

theorem watched_commitQuietly (hg : g.place = .saving) :
    Watched t commitQuietly (fun _ x => Saved t w g x) (w, g) := by
  have hok : observe Op.commit (.ok ()) g = { g with late := g.late || g.unreferenced } := by
    obtain ⟨place, unreferenced, late⟩ := g
    subst hg
    cases unreferenced <;> cases late <;> rfl
  have herr : ∀ e, observe Op.commit (.error e) g = g := by
    intro e
    obtain ⟨place, unreferenced, late⟩ := g
    subst hg
    rfl
  have hroll : ∀ w₁ : BankWorld, w₁.db = w.db →
      Watched t rollback (fun _ x => Saved t w g x) (w₁, g) := fun w₁ hdb =>
    Solo.rollback fun w' hdb' _ => .inl ⟨hdb'.trans hdb, rfl⟩
  refine Holds.tryCatch (M := fun r x => match r with
    | .ok _ => Saved t w g x
    | .error _ => x.1.db = w.db ∧ x.2 = g) ?_ (fun _ _ h => h) ?_
  · exact Solo.commit (fun w' hdb _ => .inr ⟨hdb, hok⟩) fun e w' hdb _ => ⟨hdb, herr (.db e)⟩
  · rintro e ⟨w₁, _⟩ ⟨hdb, rfl⟩
    split
    · exact hroll w₁ hdb
    · exact Holds.bind (hroll w₁ hdb) (fun _ _ h => h) fun _ _ h => h

/-- The session is committed, or it is not. -/
theorem watched_saveSession (hg : g.place = .saving) :
    Watched t saveSession (fun _ x => Saved t w g x) (w, g) := by
  refine Holds.bind (M := fun _ x => x.1.db = w.db ∧ x.1.view t = w.view t ∧ x.2 = g)
    (Solo.ask fun _ w' hl hv => ⟨hl.own.db, hv, rfl⟩) ?_ fun _ _ h => .inl ⟨h.1, h.2.2⟩
  rintro session ⟨w₁, g₁⟩ ⟨hdb₁, hv₁, rfl⟩
  split
  · refine Holds.bind (M := fun r x => x.1.db = w.db ∧ x.2 = g₁ ∧
      (r = .ok () → x.1.view t = w.view t)) ?_ ?_ fun _ _ h => .inl ⟨h.1, h.2.1⟩
    · exact Solo.query (fun _ w' hl hv => ⟨hl.own.db.trans hdb₁, rfl, fun _ => hv.trans hv₁⟩)
        fun _ w' hdb _ => ⟨hdb.trans hdb₁, rfl, nofun⟩
    · rintro _ ⟨w₂, _⟩ ⟨hdb₂, rfl, hv₂⟩
      refine (watched_commitQuietly hg).mono ?_
      rintro _ x (⟨hdb, hx⟩ | ⟨hdb, hx⟩)
      · exact .inl ⟨hdb.trans hdb₂, hx⟩
      · exact .inr ⟨hdb.trans (hv₂ rfl), hx⟩
  · exact .inl ⟨hdb₁, rfl⟩

/-- What the whole request leaves. -/
def Final (cfg : Config) (x : Transfer) (db : BankDb) (r : Except (Exc Err) String)
    (y : BankWorld × Watch) : Prop :=
  match r with
  | .ok ref => AllOrNothing cfg x db y.1.db (.ok ref) ∧ y.2.late = false
  | .error _ => y.2.late = true ∧ y.1.db.log ≠ db.log ∨ y.2.late = false ∧ Unmoved db y.1.db

/-- The end of the request begins. -/
theorem Outcome.saving {x : Transfer} {db : BankDb} {r : Except (Exc Err) String} {w' : BankWorld}
    (h : Outcome cfg x db t r (w, g)) (hl : Loads t w w') (hv : w'.view t = w.view t) :
    Outcome cfg x db t r (w', { g with place := .saving }) := by
  cases r with
  | ok ref =>
      obtain ⟨hall, hidle, hg⟩ := h
      refine ⟨?_, hl.idle hidle, hg⟩
      dsimp only
      rw [hl.own.db]
      exact hall
  | error e =>
      unfold Outcome at h ⊢
      dsimp only at h ⊢
      rw [hl.own.db, hv]
      exact h.imp_left fun ⟨hlate, hidle, hlog⟩ => ⟨hlate, hl.idle hidle, hlog⟩

theorem Outcome.saved {x : Transfer} {db : BankDb} {r : Except (Exc Err) String}
    {y : BankWorld × Watch} (h : Outcome cfg x db t r (w, g)) (hs : Saved t w g y) :
    Final cfg x db r y := by
  obtain ⟨w', g'⟩ := y
  cases r with
  -- saving the browser session commits nothing that the transfer left behind
  | ok ref =>
      obtain ⟨hall, hidle, hun, hlate⟩ := h
      rcases hs with ⟨hdb, rfl⟩ | ⟨hdb, rfl⟩
      · exact ⟨hdb ▸ hall, hlate⟩
      · refine ⟨?_, ?_⟩
        · dsimp only at hdb ⊢
          rw [hdb, view_idle hidle]
          exact hall
        · dsimp only at hun hlate ⊢
          rw [hun, hlate]
          rfl
  | error e =>
      rcases h with ⟨hlate, hidle, hlog⟩ | ⟨hlate, hun, hrest⟩
      · refine .inl ?_
        dsimp only at hlate hlog
        rcases hs with ⟨hdb, rfl⟩ | ⟨hdb, rfl⟩
        · exact ⟨hlate, hdb ▸ hlog⟩
        · refine ⟨?_, ?_⟩
          · dsimp only
            rw [hlate]
            rfl
          · dsimp only at hdb ⊢
            rw [hdb, view_idle hidle]
            exact hlog
      -- the transfer was not committed, but saving the session may still commit its booking
      · rcases hs with ⟨hdb, rfl⟩ | ⟨hdb, rfl⟩
        · exact .inr ⟨hlate, hdb ▸ hun⟩
        · rcases hrest with ⟨hu, hlog⟩ | ⟨hu, hview⟩
          · refine .inl ⟨?_, hdb ▸ hlog⟩
            dsimp only at hu ⊢
            rw [hu, Bool.or_true]
          · refine .inr ⟨?_, hdb ▸ hview⟩
            dsimp only at hu hlate ⊢
            rw [hu, hlate]
            rfl

/-- Before the handler rows are loaded and transactions ended, without changes. -/
theorem watched_before {db : BankDb} (hi : (anySpec cfg).inv w) (hclean : Clean t w)
    (hdb : w.db = db) (before : List Before) :
    Watched t (Prog.forEach Before.run before) (fun _ x => (anySpec cfg).inv x.1 ∧
      x.1.db = db ∧ Idle t x.1 ∧ Fresh t x.1 ∧ x.2 = .start) (w, .start) := by
  have hp := passive_before before
  refine ((Passive.solo (observe_passive (.inl rfl)) hp hclean.idle.backed).and
    (Sat.watched (hp.tame bankSpec_lawful t w hi hclean.idle) hi)).mono ?_
  rintro r ⟨w', _⟩ ⟨⟨hd, rfl⟩, hi', _⟩
  obtain ⟨hdb', hidle⟩ := hd.idle hclean.idle
  exact ⟨hi', hdb'.trans hdb, hidle, hd.freshness hclean.fresh, rfl⟩

theorem watched_serve {db : BankDb} (hi : (anySpec cfg).inv w) (hclean : Clean t w)
    (hdb : w.db = db) (before : List Before) (x : Transfer) :
    Watched t (serve before (x.execute cfg))
      (fun r y => ∃ r', r = .ok r' ∧ Final cfg x db r' y) (w, .start) := by
  refine Holds.bind (M := fun r y => ∃ r', r = .ok r' ∧ Outcome cfg x db t r' y) ?_ ?_ ?_
  -- an error of the handler is answered, so what follows runs either way
  · refine Holds.tryCatch (M := fun r y => match r with
      | .ok r' => Outcome cfg x db t r' y
      | .error e => Outcome cfg x db t (.error e) y) ?_ (fun r' _ h => ⟨r', rfl, h⟩)
      fun e _ h => ⟨.error e, rfl, h⟩
    refine Holds.bind (watched_before hi hclean hdb before) ?_ ?_
    · rintro _ ⟨w₁, _⟩ ⟨hi₁, hdb₁, hidle₁, hf₁, rfl⟩
      exact Holds.bind (watched_execute hi₁ hidle₁ hf₁ hdb₁ x) (fun _ _ h => h) fun _ _ h => h
    · rintro e ⟨w₁, _⟩ ⟨_, hdb₁, hidle₁, _, rfl⟩
      dsimp only at hdb₁
      refine .inr ⟨rfl, hdb₁ ▸ .refl _, .inr ⟨rfl, ?_⟩⟩
      rw [view_idle hidle₁, hdb₁]
      exact .refl db
  -- the session is saved, and what is still open rolled back
  · rintro r' ⟨w₁, g₁⟩ ⟨_, hr, hout⟩
    cases hr
    refine Holds.bind (M := fun r y => r = .ok () ∧ y.2.place = .saving ∧
      Outcome cfg x db t r' y) (Solo.mark fun w' hl hv => ⟨rfl, rfl, ?_⟩) ?_
        fun _ _ h => nomatch h.1
    · exact hout.saving hl hv
    · rintro _ ⟨w₂, g₂⟩ ⟨_, hg₂, hout₂⟩
      refine Holds.bind (M := fun r y => r = .ok () ∧ Final cfg x db r' y) ?_ ?_
        fun _ _ h => nomatch h.1
      · exact Holds.tryCatch (watched_saveSession hg₂) (fun _ _ h => ⟨rfl, hout₂.saved h⟩)
          fun _ _ h => ⟨rfl, hout₂.saved h⟩
      · rintro _ ⟨w₃, g₃⟩ ⟨_, hfin⟩
        refine Holds.bind (M := fun r y => r = .ok () ∧ y.1.db = w₃.db ∧ y.2 = g₃)
          (Solo.rollback fun w' hdb' _ => ⟨rfl, hdb', rfl⟩) ?_ fun _ _ h => nomatch h.1
        rintro _ ⟨w₄, _⟩ ⟨_, hdb₄, rfl⟩
        refine ⟨r', rfl, ?_⟩
        unfold Final at hfin ⊢
        rw [hdb₄]
        exact hfin
  · rintro _ _ ⟨_, hr, _⟩
    cases hr

end Watched

/-! ### Complete runs -/

/-- A run of a request that transfers, from `db`, with one choice per operation. -/
def serveTransfer (cfg : Config) (before : List Before) (x : Transfer) (db : BankDb) (clock : ℤ)
    (cs : List Choice) :
    Option (Except (Exc Err) (Except (Exc Err) String) × BankWorld × Watch) :=
  eval (ghost exec observe) 0 (serve before (x.execute cfg)) cs
    (⟨db, fun _ => none, fun _ => Session.empty bank, clock⟩, .start)

/-- For every state of the database and every pattern of failures, a transfer is
all or nothing exactly when no failure came after the money moved. -/
theorem allOrNothing_iff_not_late (cfg : Config) (before : List Before) (x : Transfer)
    (db : BankDb) (clock : ℤ) (cs : List Choice) (r : Except (Exc Err) (Except (Exc Err) String))
    (y : BankWorld × Watch) (h : serveTransfer cfg before x db clock cs = some (r, y)) :
    ∃ r', r = .ok r' ∧ (AllOrNothing cfg x db y.1.db r' ↔ y.2.late = false) := by
  have hi : (anySpec cfg).inv ⟨db, fun _ => none, fun _ => Session.empty bank, clock⟩ :=
    ⟨fun _ _ _ he => (nomatch he), fun _ _ _ _ he => (nomatch he)⟩
  obtain ⟨r', hr, hfinal⟩ := Solo.eval (watched_serve hi rfl rfl before x) h
  refine ⟨r', hr, ?_⟩
  cases r' with
  | ok ref => exact ⟨fun _ => hfinal.2, fun _ => hfinal.1⟩
  | error e =>
      rcases hfinal with ⟨hlate, hlog⟩ | ⟨hlate, hun⟩
      · exact ⟨fun hall => absurd hall.log hlog, fun h => by rw [hlate] at h; cases h⟩
      · exact ⟨fun _ => hlate, fun _ => hun⟩

/-- `n` operations, of which the one with index `i` fails, in a browser session
that has to be saved. -/
def failingAt (i n : ℕ) : List Choice :=
  (List.range n).map fun j => ⟨j = i, 1, "x", true⟩

/-- Nothing fails: one dollar is transferred. -/
theorem allOrNothing_iff_not_late_transfer :
    ∃ ref y, serveTransfer sampleConfig [] (.localTransfer 1 1 "a") sampleDb 0
        (failingAt 51 51) = some (.ok (.ok ref), y) ∧ y.2.late = false ∧
      AllOrNothing sampleConfig (.localTransfer 1 1 "a") sampleDb y.1.db (.ok ref) := by
  have hrun : (serveTransfer sampleConfig [] (.localTransfer 1 1 "a") sampleDb 0
      (failingAt 51 51)).any (fun z => (z.1 matches .ok (.ok _)) && z.2.2.late = false) = true := by
    decide +kernel
  obtain ⟨⟨r, y⟩, hy, hgood⟩ := (Option.any_eq_true ..).mp hrun
  obtain ⟨r', hr, hiff⟩ := allOrNothing_iff_not_late _ _ _ _ _ _ _ _ hy
  subst hr
  simp only [Bool.and_eq_true, decide_eq_true_eq] at hgood
  cases r' with
  | ok ref => exact ⟨ref, y, hy, hgood.2, hiff.mpr hgood.2⟩
  | error e => cases hgood.1

/-- The transfer with these failures is reported as failed, and the ledger has its
entry. -/
def FailsAndMoves (f : ℕ × ℕ) : Prop :=
  ∃ e y, serveTransfer sampleConfig [] (.localTransfer 1 1 "a") sampleDb 0
      (failingAt f.1 f.2) = some (.ok (.error e), y) ∧
    ¬AllOrNothing sampleConfig (.localTransfer 1 1 "a") sampleDb y.1.db (.error e)

theorem failsAndMoves_of_mem (f : ℕ × ℕ) (hf : f ∈ [(25, 31), (33, 39), (34, 40)]) :
    FailsAndMoves f := by
  have hrun : (serveTransfer sampleConfig [] (.localTransfer 1 1 "a") sampleDb 0
      (failingAt f.1 f.2)).any (fun z => (z.1 matches .ok (.error _)) &&
        z.2.1.db.log.length = 3) = true := by
    revert f
    decide +kernel
  obtain ⟨⟨r, y⟩, hy, hbad⟩ := (Option.any_eq_true ..).mp hrun
  simp only [Bool.and_eq_true, decide_eq_true_eq] at hbad
  match r, hbad with
  | .ok (.error e), hbad =>
      refine ⟨e, y, hy, fun hall => ?_⟩
      have hlen := hbad.2
      rw [hall.log] at hlen
      cases hlen

/-- The audit reference fails after the booking and `save_session` commits it;
the commit at the ledger boundary fails; the payee cannot be reloaded after it. -/
theorem failed_transfer_moves_money :
    FailsAndMoves (25, 31) ∧ FailsAndMoves (33, 39) ∧ FailsAndMoves (34, 40) :=
  ⟨failsAndMoves_of_mem _ (by simp), failsAndMoves_of_mem _ (by simp),
    failsAndMoves_of_mem _ (by simp)⟩

end SitBank.Banking
