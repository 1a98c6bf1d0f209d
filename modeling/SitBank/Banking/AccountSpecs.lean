import SitBank.Banking.TransferSpecs

/-!
Freezing, locking and the daily limits commit nothing but a freeze or new
limits. The one-time-code check is specified on the way: it ends the transaction
of its caller, and after a valid code the session holds nothing but the user.
-/

namespace SitBank.Banking

open SitBank.Interaction SitBank.Orm SitBank.Python

variable {P : User → User → Prop} {K : ℕ → BankDb → ℤ → Prop} {R : Prop}
  {cfg : Config} {t : ℕ} {w : BankWorld}

/-! ### Changes of an account -/

theorem User.merge_freeze (l d : User) (lockedAt : Option ℤ) (reason : Option String) :
    l.merge { l with isFrozen := true, securityLockedAt := lockedAt,
                     securityLockReason := reason } d =
      { d with isFrozen := col l.isFrozen true d.isFrozen,
               securityLockedAt := col l.securityLockedAt lockedAt d.securityLockedAt,
               securityLockReason := col l.securityLockReason reason d.securityLockReason } := by
  simp [User.merge]

theorem User.merge_limits (l d : User) (payupLimit localTransferLimit : ℤ) :
    l.merge { l with payupDailyLimit := payupLimit,
                     localTransferDailyLimit := localTransferLimit } d =
      { d with payupDailyLimit := col l.payupDailyLimit payupLimit d.payupDailyLimit,
               localTransferDailyLimit := col l.localTransferDailyLimit localTransferLimit
                 d.localTransferDailyLimit } := by
  simp [User.merge]

/-- A freeze is written also when the instance is older than the row: an account
that was loaded frozen is still frozen. -/
theorem settled_freeze {id : ℕ} {l : User} {lockedAt : Option ℤ} {reason : Option String}
    (h : Touched t w (.user id) l { l with
      isFrozen := true, securityLockedAt := lockedAt, securityLockReason := reason })
    (hlock : l.securityLockedAt ≠ none → lockedAt ≠ none) :
    Settled (bankSpec P K R cfg) t w := by
  refine .inr fun w' hg hi _ _ => ?_
  have ht := h.grows hg
  obtain ⟨d, hd, _, hfrozen, hlocked⟩ := hi.2 t (.user id) _ l ht.cache rfl
  refine .freeze id d _ ⟨?_, fun hne => ?_⟩ (ht.rewrites hd)
  · change l.merge _ d = _
    rw [User.merge_freeze, col_of_imp hfrozen]
    rfl
  · change (l.merge _ d).securityLockedAt ≠ none
    rw [User.merge_freeze]
    dsimp only
    unfold col
    split
    · exact hne
    · next hcol =>
        by_cases hl : l.securityLockedAt = none
        · rw [hl] at hcol
          exact hcol
        · exact hlock hl

theorem settled_limits {id : ℕ} {l : User} {payupLimit localTransferLimit : ℤ}
    (h : Touched t w (.user id) l { l with
      payupDailyLimit := payupLimit, localTransferDailyLimit := localTransferLimit }) :
    Settled (bankSpec P K R cfg) t w := by
  refine .inr fun w' hg hi _ _ => ?_
  have ht := h.grows hg
  obtain ⟨d, hd, _⟩ := hi.2 t (.user id) _ l ht.cache rfl
  refine .limits id d _ ⟨?_⟩ (ht.rewrites hd)
  change l.merge _ d = _
  rw [User.merge_limits]
  rfl

section Specs

variable (hσ : (bankSpec P K R cfg).Lawful)
include hσ

/-! ### Locking after failures -/

theorem tame_lockUserAccount (user : ℕ) (reason : String) :
    Tame (bankSpec P K R cfg) (lockUserAccount user reason) := by
  intro t w hi hidle
  refine Yields.after hi (Finds.load_copy hσ (.inl hidle) (hidle.not_mem _))
    fun l w₁ hi₁ hg₁ hl => ?_
  refine Yields.after hi₁ (Finds.now hσ) fun n w₂ hi₂ hg₂ _ => ?_
  have hidle₂ := (hidle.grows hg₁).grows hg₂
  refine Yields.assign_bind hσ hi₂ (hl.grows hg₂) fun w₃ hi₃ _ hs₃ => ?_
  have hs : Settled (bankSpec P K R cfg) t w₃ :=
    settled_freeze (.of_put hidle₂ hs₃) fun _ => Option.some_ne_none n
  refine Yields.bind hi₃ (.quiet (Quiet.query hσ _) hs) fun _ w₄ hi₄ h₄ => ?_
  refine Yields.bind hi₄ (.quiet ((passive_auditEventRequired _).quiet hσ) h₄) fun _ w₅ hi₅ h₅ => ?_
  exact (Yields.commit hσ h₅).mono fun _ _ h => h.idle

theorem quiet_recordUserSecurityFailure (user : ℕ) (lockReason : String) :
    Quiet (bankSpec P K R cfg) (recordUserSecurityFailure user lockReason) := by
  refine (Quiet.load hσ _).bind fun _ => (Quiet.query hσ _).bind fun _ => ?_
  refine Quiet.commit_bind hσ ((Tame.ask hσ).bind fun overThreshold => ?_)
  split
  · exact tame_lockUserAccount hσ user lockReason
  · exact Tame.ret ()

/-! ### One-time codes -/

theorem tame_clearCounter (user : ℕ) : Tame (bankSpec P K R cfg) (clearCounter user) := by
  refine (Tame.load hσ _).bind fun _ => (passive_statement.tame hσ).bind fun _ => ?_
  refine (Tame.ask hσ).bind fun found => ?_
  split
  · exact fun t w _ hidle => (Yields.commit hσ (.inl hidle)).mono fun _ _ h => h.idle
  · exact Tame.ret ()

theorem tame_verifyTotpForUserOutcome (user : ℕ) :
    Tame (bankSpec P K R cfg) (verifyTotpForUserOutcome user) := by
  refine (Tame.load hσ _).bind fun _ => (Tame.ask hσ).bind fun configured => ?_
  split
  · exact Tame.of_fails (.raise _)
  refine (Tame.check hσ _).bind fun _ => (Tame.ask hσ).bind fun sixDigits => ?_
  have hinvalid : Tame (bankSpec P K R cfg) ((recordFailure user).bind fun _ =>
      .ret TotpVerificationOutcome.invalid) :=
    ((passive_recordFailure user).tame hσ).bind fun _ => Tame.ret _
  split
  · exact hinvalid
  -- a wait that is asked for counts as a failure
  refine (Tame.tryCatch ((passive_enforceAuthBackoff user).tame hσ) fun e t w hs => ?_).bind
    fun _ => ?_
  · split
    · exact Yields.of_fails
        (.bind (quiet_recordUserSecurityFailure hσ user _) fun _ => .raise _) hs
    · exact Yields.of_fails (.raise _) hs
  refine (Tame.ask hσ).bind fun accepted => ?_
  split
  · exact hinvalid
  refine (Tame.load hσ _).bind fun _ => (Tame.ask hσ).bind fun used => ?_
  split
  · exact fun t w hi _ => Yields.bind hi Yields.rollback fun _ _ _ h => h.idle
  have hcommit : Tame (bankSpec P K R cfg) Orm.commit := fun t w _ hidle =>
    (Yields.commit hσ (.inl hidle)).mono fun _ _ h => h.idle
  refine hcommit.bind fun _ => (tame_clearCounter hσ user).bind fun _ => ?_
  exact (tame_clearCounter hσ user).bind fun _ => Tame.ret _

theorem tame_verifyTotpForUser (user : ℕ) :
    Tame (bankSpec P K R cfg) (verifyTotpForUser user) :=
  (tame_verifyTotpForUserOutcome hσ user).bind fun _ => Tame.ret _

theorem tame_verifyHighRiskAuthorization (user : ℕ) :
    Tame (bankSpec P K R cfg) (verifyHighRiskAuthorization user) := by
  refine (Tame.ask hσ).bind fun stableSession => ?_
  split
  · exact Tame.of_fails (.bind ((passive_auditEvent _).quiet hσ) fun _ => .raise _)
  refine (Tame.load hσ _).bind fun u => ?_
  split
  · exact Tame.of_fails (fails_rejectAction hσ _ _ _)
  refine (Tame.ask hσ).bind fun codeGiven => ?_
  split
  · exact Tame.of_fails (fails_rejectAction hσ _ _ _)
  refine (tame_verifyTotpForUserOutcome hσ user).bind fun outcome => ?_
  cases outcome with
  | valid => exact ((passive_auditEvent _).tame hσ).bind fun _ => passive_statement.tame hσ
  | invalid =>
      refine Tame.of_fails (.bind ((passive_auditEvent _).quiet hσ) fun _ => ?_)
      exact .bind (quiet_recordUserSecurityFailure hσ _ _) fun _ => .raise _
  | replay => exact Tame.of_fails (fails_rejectAction hσ _ _ _)

/-! ### The requests -/

theorem quiet_auditRequiredOrRollback (user : ℕ) :
    Quiet (bankSpec P K R cfg) (auditRequiredOrRollback user) :=
  (passive_orRollback (passive_auditEventRequired _)).quiet hσ

theorem yields_freezeOwnAccount (hi : (bankSpec P K R cfg).inv w) (hidle : Idle t w)
    (user : ℕ) :
    Yields (bankSpec P K R cfg) t (freezeOwnAccount user)
      (fun _ w' => Settled (bankSpec P K R cfg) t w') w := by
  refine Yields.bind hi (Tame.load hσ _ t w hi hidle) fun u w₁ hi₁ h₁ => ?_
  refine Yields.after hi₁ (finds_ensureAccountNotFrozen hσ (.inl h₁) u _) fun _ w₂ hi₂ hg₂ _ => ?_
  have h₂ := h₁.grows hg₂
  refine Yields.bind hi₂ (tame_verifyHighRiskAuthorization hσ user t w₂ hi₂ h₂)
    fun _ w₃ hi₃ h₃ => ?_
  refine Yields.after hi₃ (Finds.load_copy hσ (.inl h₃) (h₃.not_mem _))
    fun l w₄ hi₄ hg₄ hl => ?_
  refine Yields.assign_bind hσ hi₄ hl fun w₅ hi₅ _ hs₅ => ?_
  have hs : Settled (bankSpec P K R cfg) t w₅ :=
    settled_freeze (.of_put (h₃.grows hg₄) hs₅) fun hl => hl
  refine Yields.quiet ?_ hs
  refine (Quiet.query hσ _).bind fun _ => (quiet_auditRequiredOrRollback hσ user).bind fun _ => ?_
  exact (Quiet.commit hσ).bind fun _ => (passive_sendBankingEmail user).quiet hσ

theorem tame_assertNotSelfCustomerAction (actor : ℕ) :
    Tame (bankSpec P K R cfg) (assertNotSelfCustomerAction actor) := by
  refine (passive_statement.tame hσ).bind fun _ => (Tame.ask hσ).bind fun linked => ?_
  split
  · exact Tame.of_fails (.bind (Quiet.check hσ _) fun _ => fails_rejectAction hσ _ _ _)
  · exact Tame.ret ()

theorem yields_freezeCustomerAsStaff (hi : (bankSpec P K R cfg).inv w) (hidle : Idle t w)
    (actor target : ℕ) :
    Yields (bankSpec P K R cfg) t (freezeCustomerAsStaff actor target)
      (fun _ w' => Settled (bankSpec P K R cfg) t w') w := by
  -- a rejection is audited and raised; it writes nothing of its own
  have hreject : ∀ {α : Type} (message : String) (status : ℕ),
      Fails (bankSpec P K R cfg) (Prog.bind auditReference fun _ =>
        (rejectAction actor message status : BankReq α)) := fun message status =>
    .bind (Quiet.check hσ _) fun _ => fails_rejectAction hσ _ _ _
  refine Yields.bind hi (Tame.load hσ _ t w hi hidle) fun a w₁ hi₁ h₁ => ?_
  split
  · exact Yields.of_fails (fails_rejectAction hσ _ _ _) (.inl h₁)
  refine Yields.bind hi₁ (Tame.ask hσ t w₁ hi₁ h₁) fun reasonGiven w₂ hi₂ h₂ => ?_
  split
  · exact Yields.of_fails (fails_rejectAction hσ _ _ _) (.inl h₂)
  refine Yields.after hi₂ (Finds.lockWhere hσ _) fun found w₃ hi₃ hg₃ _ => ?_
  have h₃ := h₂.grows hg₃
  split
  · exact Yields.of_fails (hreject _ _) (.inl h₃)
  refine Yields.bind hi₃ (Tame.load hσ _ t w₃ hi₃ h₃) fun c w₄ hi₄ h₄ => ?_
  split
  · exact Yields.of_fails (hreject _ _) (.inl h₄)
  refine Yields.bind hi₄ (tame_assertNotSelfCustomerAction hσ actor t w₄ hi₄ h₄)
    fun _ w₅ hi₅ h₅ => ?_
  refine Yields.bind hi₅ (Tame.ask hσ t w₅ hi₅ h₅) fun codeGiven w₆ hi₆ h₆ => ?_
  refine Yields.bind hi₆ (P := fun _ w' => Idle t w') ?_ fun verified w₇ hi₇ h₇ => ?_
  · split
    · exact tame_verifyTotpForUser hσ actor t w₆ hi₆ h₆
    · exact h₆
  split
  · exact Yields.of_fails (hreject _ _) (.inl h₇)
  refine Yields.after hi₇ (Finds.load_copy hσ (.inl h₇) (h₇.not_mem _))
    fun l w₈ hi₈ hg₈ hl => ?_
  refine Yields.after hi₈ (Finds.now hσ) fun n w₉ hi₉ hg₉ _ => ?_
  refine Yields.assign_bind hσ hi₉ (hl.grows hg₉) fun w₁₀ hi₁₀ _ hs₁₀ => ?_
  -- up to the freeze the session has nothing to write
  have hs : Settled (bankSpec P K R cfg) t w₁₀ :=
    settled_freeze (.of_put ((h₇.grows hg₈).grows hg₉) hs₁₀) fun _ => Option.some_ne_none n
  refine Yields.quiet ?_ hs
  refine (Quiet.query hσ _).bind fun _ => (Quiet.check hσ _).bind fun _ => ?_
  refine (quiet_auditRequiredOrRollback hσ actor).bind fun _ => ?_
  exact (Quiet.commit hσ).bind fun _ => (passive_sendBankingEmail target).quiet hσ

theorem yields_transferLimitsSubmit (hi : (bankSpec P K R cfg).inv w) (hidle : Idle t w)
    (user : ℕ) (payupLimit localTransferLimit : ℤ) :
    Yields (bankSpec P K R cfg) t (transferLimitsSubmit user payupLimit localTransferLimit)
      (fun _ w' => Settled (bankSpec P K R cfg) t w') w := by
  refine Yields.bind hi (P := fun verified w' => if verified then Idle t w' else
    Settled (bankSpec P K R cfg) t w') ?_ fun verified w₁ hi₁ h₁ => ?_
  · refine Holds.tryCatch (Yields.bind hi (tame_verifyHighRiskAuthorization hσ user t w hi hidle)
      (Q := fun verified w' => verified = true ∧ Idle t w') fun _ _ _ h => ⟨rfl, h⟩) ?_ ?_
    · rintro a w' ⟨rfl, h⟩
      exact h
    · intro e w' h
      split
      · exact Holds.bind ((passive_sendBankingEmail user).quiet hσ t w' h) (fun _ _ h => h)
          fun _ _ h => h
      · exact h
  split
  · next hv =>
      cases verified with
      | true => exact absurd hv (by decide)
      | false => exact h₁
  next hv =>
  cases verified with
  | false => exact absurd rfl hv
  | true =>
      have hidle₁ : Idle t w₁ := h₁
      refine Yields.after hi₁ (Finds.load_copy hσ (.inl hidle₁) (hidle₁.not_mem _))
        fun l w₂ hi₂ hg₂ hl => ?_
      refine Yields.assign_bind hσ hi₂ hl fun w₃ hi₃ _ hs₃ => ?_
      -- the limits are assigned after the authorization, and committed at once
      have hs : Settled (bankSpec P K R cfg) t w₃ :=
        settled_limits (.of_put (hidle₁.grows hg₂) hs₃)
      refine Yields.quiet ?_ hs
      refine (Quiet.commit hσ).bind fun _ => ((passive_auditEvent _).quiet hσ).bind fun _ => ?_
      exact (passive_sendBankingEmail user).quiet hσ

end Specs

end SitBank.Banking
