import SitBank.Banking.System

/-!
A freeze as a barrier for money movement.

The frozen flags are tested on the session's copy of an account, before and
after the account is locked. The lock does not refresh the copy, so a freeze that
commits between the first load and the lock is not seen. When the copies that a
lock returns show every committed freeze, no money moves out of a frozen account,
into one by PayUp, or into one by a top-up.
-/

namespace SitBank.Banking

open SitBank.Interaction SitBank.Orm

/-- The account is neither frozen nor security-locked. -/
def Unfrozen (d : BankDb) (id : ℕ) : Prop :=
  ∃ s, d.row (.user id) = some s ∧ s.frozen = false

/-- The accounts that have to be unfrozen where an entry is committed. -/
def Permitted (d : BankDb) : Ledger → Prop
  | .transaction txn _ _ =>
      Unfrozen d txn.senderId ∧ (txn.transactionType = .payup → Unfrozen d txn.recipientId)
  | .topUpCredit credit _ => Unfrozen d credit.userId
  | .registrationCredit _ => True

/-- Every account that is locked and frozen is frozen in the copy too. -/
def freezesSeen : ℕ → Op bank Err → BankWorld → Prop :=
  stepCond (fun c s => s.frozen = true → c.isFrozen = true) (fun _ _ _ => True) False

section Steps

variable {K : ℕ → BankDb → ℤ → Prop} {R : Prop} {cfg : Config} {t : ℕ}
  {w : BankWorld} {d : BankDb}

theorem frozen_of_isFrozen {c : User} (h : c.isFrozen = true) : c.frozen = true := by
  simp [User.frozen, h]

theorem Held.unfrozen {id : ℕ} {c s : User}
    (h : Held (fun c s => s.frozen = true → c.isFrozen = true) t w id c s)
    (hc : c.isFrozen = false) : Unfrozen w.db id := by
  refine ⟨s, h.row, Bool.eq_false_iff.mpr fun hs => ?_⟩
  rw [h.related hs] at hc
  cases hc

theorem isFrozen_of_unfrozen {c : User} (h : c.frozen = false) : c.isFrozen = false := by
  rw [Bool.eq_false_iff]
  intro hf
  rw [frozen_of_isFrozen hf] at h
  cases h

theorem permitted_of_step
    (hs : BankStep (fun c s => s.frozen = true → c.isFrozen = true) K R cfg t w d) :
    ∃ new, d.log = w.db.log ++ new ∧ ∀ e ∈ new, Permitted w.db e := by
  have quiet : ∀ {k : Key} {r r' : Row k}, Rewrites w d k r r' →
      ∃ new, d.log = w.db.log ++ new ∧ ∀ e ∈ new, Permitted w.db e :=
    fun h => ⟨[], by rw [h.log, List.append_nil], List.forall_mem_nil _⟩
  cases hs with
  | localTransfer txn token p q n c s c' s' hd hm hp =>
      refine ⟨_, hm.log, fun e he => ?_⟩
      cases List.mem_singleton.mp he
      refine ⟨hd.sender.unfrozen (isFrozen_of_unfrozen hd.unfrozen), fun htype => ?_⟩
      rw [hd.type] at htype
      cases htype
  | payupTransfer txn token p n a c s c' s' hd hm hp =>
      refine ⟨_, hm.log, fun e he => ?_⟩
      cases List.mem_singleton.mp he
      exact ⟨hd.sender.unfrozen (isFrozen_of_unfrozen hd.unfrozen),
        fun _ => hd.recipient.unfrozen hd.recipientUnfrozen⟩
  | topUp credit selector l q n c s ht =>
      have hopen := ht.account.unfrozen (isFrozen_of_unfrozen ht.unfrozen)
      refine ⟨_, ht.log, fun e he => ?_⟩
      rcases List.mem_cons.mp he with rfl | he
      · exact hopen
      · cases List.mem_singleton.mp he
        exact ⟨hopen, fun _ => hopen⟩
  | consume token p n hp hr => exact quiet hr
  | consumePayup token p n hp hr => exact quiet hr
  | close selector q q' hq hr => exact quiet hr
  | freeze id s s' hf hr => exact quiet hr
  | limits id s s' hl hr => exact quiet hr

/-- The account is frozen or security-locked. -/
def Frozen (d : BankDb) (id : ℕ) : Prop :=
  ∃ s, d.row (.user id) = some s ∧ s.frozen = true

theorem Frozen.step {P : User → User → Prop} {id : ℕ} (h : Frozen w.db id)
    (hs : BankStep P K R cfg t w d) : Frozen d id := by
  obtain ⟨s, hrow, hfrozen⟩ := h
  obtain ⟨s', hrow', _, hkeep, hlocked⟩ := hs.evolves_row (.user id) s hrow
  refine ⟨s', hrow', ?_⟩
  simp only [User.frozen, Bool.or_eq_true, Option.isSome_iff_ne_none] at hfrozen ⊢
  exact hfrozen.imp hkeep hlocked

theorem sentBy_eq_nil {id : ℕ} {new : List Ledger} (h : Frozen d id)
    (hnew : ∀ e ∈ new, Permitted d e) : sentBy id new = [] := by
  obtain ⟨s, hrow, hfrozen⟩ := h
  refine List.filter_eq_nil_iff.mpr fun e he hsent => ?_
  cases e with
  | transaction txn k a =>
      have hid : txn.senderId = id := of_decide_eq_true hsent
      obtain ⟨s', hrow', hopen⟩ := (hnew _ he).1
      rw [hid, hrow] at hrow'
      cases hrow'
      rw [hfrozen] at hopen
      cases hopen
  | topUpCredit credit request => cases hsent
  | registrationCredit credit => cases hsent

end Steps

/-! ### Runs -/

section Runs

variable {cfg : Config} {before : ℕ → List Before} {requests : ℕ → Request} {db : BankDb}
  {clock : ℤ} {x y : BankConf}

theorem permitted_of_reach
    (hx : Reach exec freezesSeen (start cfg before requests db clock) x) {t : ℕ} {c : Choice}
    (hm : Meets freezesSeen x t) (hs : step exec x t c = some y) :
    ∃ new, y.world.db.log = x.world.db.log ++ new ∧ ∀ e ∈ new, Permitted x.world.db e := by
  rcases step_commits hx hm hs with hsame | hstep
  · exact ⟨[], by rw [hsame, List.append_nil], List.forall_mem_nil _⟩
  · exact permitted_of_step hstep

/-- After a freeze, nothing is sent from the account. -/
theorem sentBy_nil_of_frozen
    (hx : Reach exec freezesSeen (start cfg before requests db clock) x) {id : ℕ}
    (hid : Frozen x.world.db id) (hy : Reach exec freezesSeen x y) :
    Frozen y.world.db id ∧
      ∃ new, y.world.db.log = x.world.db.log ++ new ∧ sentBy id new = [] := by
  induction hy with
  | refl => exact ⟨hid, [], (List.append_nil _).symm, rfl⟩
  | step hr hm hs ih =>
      obtain ⟨hfrozen, old, hold, hnone⟩ := ih
      obtain ⟨new, hnew, hperm⟩ := permitted_of_reach (hx.trans hr) hm hs
      refine ⟨?_, old ++ new, by rw [hnew, hold, List.append_assoc], ?_⟩
      · rcases step_commits (hx.trans hr) hm hs with hsame | hstep
        · rw [hsame]
          exact hfrozen
        · exact hfrozen.step hstep
      · have happend : sentBy id (old ++ new) = sentBy id old ++ sentBy id new :=
          List.filter_append ..
        rw [happend, hnone, sentBy_eq_nil hfrozen hperm, List.nil_append]

end Runs

/-- In every run in which the copies that a lock of accounts returns show the
committed freezes: what is committed is permitted by the committed state it is
applied to, and nothing is sent from an account after it was frozen. -/
theorem freeze_is_barrier (cfg : Config) (before : ℕ → List Before) (requests : ℕ → Request)
    (db : BankDb) (clock : ℤ) (x : BankConf)
    (hx : Reach exec freezesSeen (start cfg before requests db clock) x) :
    (∀ t c y, Meets freezesSeen x t → step exec x t c = some y →
      ∃ new, y.world.db.log = x.world.db.log ++ new ∧ ∀ e ∈ new, Permitted x.world.db e) ∧
    ∀ id, Frozen x.world.db id → ∀ y, Reach exec freezesSeen x y →
      ∃ new, y.world.db.log = x.world.db.log ++ new ∧ sentBy id new = [] :=
  ⟨fun _ _ _ hm hs => permitted_of_reach hx hm hs,
    fun _ hid _ hy => (sentBy_nil_of_frozen hx hid hy).2⟩

/-- A local transfer from the first account, and the security lock of that
account. -/
def transferAndLock : BankConf :=
  start sampleConfig (fun _ => [])
    (fun t => if t = 0 then .executeLocalTransfer 1 1 "a"
      else .lockUserAccount 1 "mfa_failed_attempts") sampleDb 0

/-- Once the lock is committed, and the transfer has not started, nothing leaves
the account. -/
theorem freeze_is_barrier_lock_first :
    ∃ x, Reach exec freezesSeen transferAndLock x ∧ Frozen x.world.db 1 ∧
      ∀ y, Reach exec freezesSeen x y →
        ∃ new, y.world.db.log = x.world.db.log ++ new ∧ sentBy 1 new = [] := by
  have hrun : (runChecked exec (stepCheck (fun c s => !s.frozen || c.isFrozen)
      (fun _ _ _ => true) false) transferAndLock (succeeds 1 9 "y")).any
      (fun x => (x.world.db.row (.user 1)).any User.frozen) = true := by decide +kernel
  obtain ⟨x, hx, hfrozen⟩ := (Option.any_eq_true ..).mp hrun
  have hreach : Reach exec freezesSeen transferAndLock x := by
    refine reach_of_runChecked exec (fun t o w h => ?_) .refl hx
    simpa [freezesSeen, imp_iff_not_or] using stepCond_of_check h
  have hlocked : Frozen x.world.db 1 := (Option.any_eq_true ..).mp hfrozen
  exact ⟨x, hreach, hlocked, (freeze_is_barrier _ _ _ _ _ x hreach).2 1 hlocked⟩

/-- The sender of the only entry. -/
def soleSender : List Ledger → Option ℕ
  | [.transaction txn _ _] => some txn.senderId
  | _ => none

theorem soleSender_eq_some {new : List Ledger} {id : ℕ} (h : soleSender new = some id) :
    ∃ txn k a, new = [.transaction txn k a] ∧ txn.senderId = id := by
  unfold soleSender at h
  split at h
  · exact ⟨_, _, _, rfl, Option.some.inj h⟩
  · cases h

/-- The transfer reads the sender, the lock of the sender commits, and the
transfer is committed all the same. -/
theorem transfer_after_freeze :
    ∃ x y t c, Reach exec (fun _ _ _ => True) transferAndLock x ∧ step exec x t c = some y ∧
      Frozen x.world.db 1 ∧
      ∃ txn k a, y.world.db.log = x.world.db.log ++ [.transaction txn k a] ∧
        txn.senderId = 1 ∧ ¬Permitted x.world.db (.transaction txn k a) := by
  have hrun : (run exec transferAndLock
      (succeeds 0 1 "x" ++ succeeds 1 9 "y" ++ succeeds 0 30 "x")).any (fun x =>
        (x.world.db.row (.user 1)).any User.frozen && (step exec x 0 (succeed "x")).any fun y =>
          y.world.db.log.take x.world.db.log.length = x.world.db.log &&
            soleSender (y.world.db.log.drop x.world.db.log.length) = some 1) = true := by
    decide +kernel
  obtain ⟨x, hx, hstep⟩ := (Option.any_eq_true ..).mp hrun
  obtain ⟨hfrozen, hstep⟩ := Bool.and_eq_true_iff.mp hstep
  obtain ⟨y, hy, hnew⟩ := (Option.any_eq_true ..).mp hstep
  obtain ⟨htake, hnew⟩ := Bool.and_eq_true_iff.mp hnew
  have hlocked : Frozen x.world.db 1 := (Option.any_eq_true ..).mp hfrozen
  refine ⟨x, y, 0, _, reach_of_run exec .refl hx, hy, hlocked, ?_⟩
  obtain ⟨txn, k, a, hdrop, hsender⟩ := soleSender_eq_some (of_decide_eq_true hnew)
  refine ⟨txn, k, a, ?_, hsender, ?_⟩
  · rw [← hdrop]
    exact (List.take_append_drop x.world.db.log.length y.world.db.log).symm.trans
      (by rw [of_decide_eq_true htake])
  · rintro ⟨⟨s, hs, hopen⟩, _⟩
    obtain ⟨s', hs', hf⟩ := hlocked
    rw [hsender, hs'] at hs
    cases hs
    rw [hf] at hopen
    cases hopen

end SitBank.Banking
