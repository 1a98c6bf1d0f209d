import SitBank.Banking.Steps

/-!
Specifications of the programs that do not write business rows: audit,
notifications, counters and one-time codes. They are passive, so all they commit
is what the session already holds.
-/

namespace SitBank.Banking

open SitBank.Interaction SitBank.Orm

/-! ### Passive programs -/

theorem passive_touchUser (user : Option ℕ) : Passive (touchUser user) := by
  cases user with
  | none => trivial
  | some id => exact Prog.All.bind (.perform trivial) fun _ => trivial

theorem passive_insertAuditEvent : Passive insertAuditEvent :=
  Prog.All.bind (.perform trivial) fun _ =>
    Prog.All.bind (.perform trivial) fun _ => .perform trivial

theorem passive_auditEvent (user : Option ℕ) : Passive (auditEvent user) := by
  refine Prog.All.bind (passive_touchUser user) fun _ => ?_
  refine Prog.All.tryCatch ?_ fun _ => .perform trivial
  exact Prog.All.bind passive_insertAuditEvent fun _ => .perform trivial

theorem passive_auditEventRequired (user : Option ℕ) : Passive (auditEventRequired user) :=
  Prog.All.bind (passive_touchUser user) fun _ => passive_insertAuditEvent.tryCatch fun _ => trivial

theorem passive_auditReference : Passive auditReference := .perform trivial

theorem passive_auditOutboundTransferSuccess (sender : ℕ) :
    Passive (auditOutboundTransferSuccess sender) :=
  passive_auditReference.bind fun _ =>
    (passive_auditEventRequired _).bind fun _ => .perform trivial

/-- The callers' handler: a failed required audit is rolled back. -/
theorem passive_orRollback {α : Type} {p : BankReq α} (hp : Passive p) :
    Passive (p.tryCatch fun
      | .app .auditWrite => do
          rollback
          raise .auditWrite
      | e => .raise e) := by
  refine hp.tryCatch fun e => ?_
  split
  · exact Prog.All.bind (.perform trivial) fun _ => trivial
  · trivial

theorem passive_sendBankingEmail (user : ℕ) : Passive (sendBankingEmail user) := by
  refine Prog.All.bind (Prog.All.tryCatch ?_ fun _ => trivial) fun _ => passive_auditEvent _
  exact Prog.All.bind (.perform trivial) fun _ => .perform trivial

theorem passive_sendTransferNotification (user : ℕ) :
    Passive (sendTransferNotification user) := by
  refine Prog.All.bind (.perform trivial) fun u => ?_
  split
  · exact passive_sendBankingEmail user
  · trivial

theorem passive_maybeSendDailyLimitWarning (user : ℕ) (usedBefore amount dailyLimit : ℤ) :
    Passive (maybeSendDailyLimitWarning user usedBefore amount dailyLimit) := by
  unfold maybeSendDailyLimitWarning
  split
  · trivial
  · split
    · trivial
    · exact passive_sendBankingEmail user

theorem passive_auditLocalTransferSuccess (sender payee : ℕ) :
    Passive (auditLocalTransferSuccess sender payee) := by
  refine Prog.All.bind (.perform trivial) fun _ => passive_orRollback ?_
  exact passive_auditReference.bind fun _ => passive_auditOutboundTransferSuccess sender

theorem passive_auditPayupTransferSuccess (sender : ℕ) :
    Passive (auditPayupTransferSuccess sender) :=
  passive_orRollback (passive_auditOutboundTransferSuccess sender)

theorem passive_rejectLocalTransfer {α : Type} (sender : ℕ) (message : String) (status : ℕ) :
    Passive (rejectLocalTransfer sender message status : BankReq α) := by
  refine (passive_auditEvent _).bind fun _ => Prog.All.bind (.perform trivial) fun _ => ?_
  exact (passive_sendTransferNotification _).bind fun _ => trivial

theorem passive_rejectPayupTransfer {α : Type} (sender : ℕ) (message : String) (status : ℕ) :
    Passive (rejectPayupTransfer sender message status : BankReq α) :=
  (passive_auditEvent _).bind fun _ => Prog.All.bind (.perform trivial) fun _ => trivial

theorem passive_statement : Passive statement := .perform trivial

theorem passive_recordFailure (user : ℕ) : Passive (recordFailure user) := by
  refine Prog.All.bind (.perform trivial) fun _ => passive_statement.bind fun _ => ?_
  refine Prog.All.bind (.perform trivial) fun _ => Prog.All.bind (.perform trivial)
    fun audited => ?_
  split
  · exact passive_auditEvent none
  · trivial

theorem passive_enforceAuthBackoff (user : ℕ) : Passive (enforceAuthBackoff user) := by
  refine Prog.All.bind (.perform trivial) fun _ => passive_statement.bind fun _ => ?_
  refine Prog.All.bind (.perform trivial) fun blocked => ?_
  split
  · exact (passive_auditEvent none).bind fun _ => trivial
  · trivial

section Lawful

variable {σ : StepSpec bank Err} (hσ : σ.Lawful)
include hσ

/-! ### Notifications -/

theorem quiet_safeSendNotification {p : BankReq Unit} (hp : Passive p) :
    Quiet σ (safeSendNotification p) :=
  (Quiet.mark hσ _).bind fun _ =>
    ((hp.quiet hσ).tryCatch fun _ => Quiet.ret ()).bind fun _ => Quiet.mark hσ _

theorem quiet_notifyLocalTransfer (sender recipient payee : ℕ)
    (usedToday amount dailyLimit : ℤ) :
    Quiet σ (notifyLocalTransfer sender recipient payee usedToday amount dailyLimit) := by
  refine (Quiet.mark hσ _).bind fun _ => (Quiet.commit hσ).bind fun _ => ?_
  refine (Quiet.load hσ _).bind fun _ => (Quiet.load hσ _).bind fun _ => ?_
  refine (quiet_safeSendNotification hσ (passive_sendTransferNotification _)).bind fun _ => ?_
  refine (Quiet.load hσ _).bind fun _ => (Quiet.load hσ _).bind fun _ => ?_
  refine (quiet_safeSendNotification hσ (passive_sendTransferNotification _)).bind fun _ => ?_
  exact quiet_safeSendNotification hσ (passive_maybeSendDailyLimitWarning _ _ _ _)

theorem quiet_notifyPayupTransfer (sender recipient : ℕ) (usedToday amount dailyLimit : ℤ) :
    Quiet σ (notifyPayupTransfer sender recipient usedToday amount dailyLimit) := by
  refine (Quiet.mark hσ _).bind fun _ => (Quiet.commit hσ).bind fun _ => ?_
  refine (Quiet.load hσ _).bind fun _ => (Quiet.load hσ _).bind fun _ => ?_
  refine (quiet_safeSendNotification hσ (passive_sendTransferNotification _)).bind fun _ => ?_
  refine (Quiet.load hσ _).bind fun _ => (Quiet.load hσ _).bind fun _ => ?_
  refine (quiet_safeSendNotification hσ (passive_sendTransferNotification _)).bind fun _ => ?_
  exact quiet_safeSendNotification hσ (passive_maybeSendDailyLimitWarning _ _ _ _)

/-! ### Rejections -/

theorem fails_rejectLocalTransfer {α : Type} (sender : ℕ) (message : String) (status : ℕ) :
    Fails σ (rejectLocalTransfer sender message status : BankReq α) := by
  refine .bind ((passive_auditEvent _).quiet hσ) fun _ => .bind (Quiet.commit hσ) fun _ => ?_
  exact .bind ((passive_sendTransferNotification _).quiet hσ) fun _ => .raise _

theorem fails_rejectPayupTransfer {α : Type} (sender : ℕ) (message : String) (status : ℕ) :
    Fails σ (rejectPayupTransfer sender message status : BankReq α) :=
  .bind ((passive_auditEvent _).quiet hσ) fun _ => .bind (Quiet.commit hσ) fun _ => .raise _

theorem fails_rejectAction {α : Type} (user : ℕ) (message : String) (status : ℕ) :
    Fails σ (rejectAction user message status : BankReq α) :=
  .bind ((passive_auditEvent _).quiet hσ) fun _ => .raise _

/-! ### Checks that only read -/

theorem finds_touchUser {t : ℕ} {w : BankWorld} (hi : σ.inv w) (hs : Settled σ t w)
    (user : Option ℕ) : Finds σ t (touchUser user) (fun _ _ => True) w := by
  cases user with
  | none => exact Finds.ret hσ trivial
  | some id =>
      exact Finds.bind hσ hi (Finds.load hσ hs _) fun _ _ _ _ _ => Finds.ret hσ trivial

theorem finds_insertAuditEvent {t : ℕ} {w : BankWorld} (hi : σ.inv w) (hs : Settled σ t w) :
    Finds σ t insertAuditEvent (fun _ _ => True) w := by
  refine Finds.bind hσ hi (Finds.query hσ _) fun _ w₁ hi₁ hg₁ _ => ?_
  have hs₁ := hs.grows hσ hg₁
  refine Finds.bind hσ hi₁ (Finds.check hσ hs₁ _) fun _ w₂ hi₂ hg₂ _ => ?_
  exact (Finds.query hσ _).mono fun _ _ _ _ => trivial

theorem finds_auditEventRequired {t : ℕ} {w : BankWorld} (hi : σ.inv w) (hs : Settled σ t w)
    (user : Option ℕ) : Finds σ t (auditEventRequired user) (fun _ _ => True) w := by
  refine Finds.bind hσ hi (finds_touchUser hσ hi hs user) fun _ w₁ hi₁ hg₁ _ => ?_
  exact Finds.tryCatch (finds_insertAuditEvent hσ hi₁ (hs.grows hσ hg₁)) fun _ => .raise _

theorem finds_ensureAccountNotFrozen {t : ℕ} {w : BankWorld} (hs : Settled σ t w) (u : User)
    (action : String) :
    Finds σ t (ensureAccountNotFrozen u action) (fun _ _ => u.frozen = false) w := by
  unfold ensureAccountNotFrozen
  split
  · exact Finds.raise _ hs
  · next hf => exact Finds.ret hσ (Bool.eq_false_iff.mpr hf)

end Lawful

end SitBank.Banking
