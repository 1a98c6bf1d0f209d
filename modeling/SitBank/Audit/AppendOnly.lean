import Mathlib.Logic.Relation
import SitBank.Admin.StaffInvites

/-!
The audit log is only appended to, as long as no user that it names is deleted.

Everything that a request does to the log is an append (`AuditLog.write`) or, when
it deletes the setup user of an invite, a `NULL` in the `user_id` of every row of
that user. The column is hashed, so such a row is no longer accepted. A root
administrator's reset deletes the user of an earlier start; a start that fails
deletes its own, who is there because the audit event of the encryption has
committed it, and whom that event names.
-/

namespace SitBank.Admin

open SitBank.Interaction SitBank.Audit

/-- Rows were only added, and an accepted table stayed accepted. -/
def Appended (cfg : AuditConfig) (log log' : AuditLog) : Prop :=
  log.rows <+: log'.rows ∧ (log.Accepted cfg → log'.Accepted cfg)

theorem Appended.refl (cfg : AuditConfig) (log : AuditLog) : Appended cfg log log :=
  ⟨List.prefix_refl _, fun h => h⟩

theorem Appended.trans {cfg : AuditConfig} {log₁ log₂ log₃ : AuditLog}
    (h : Appended cfg log₁ log₂) (h' : Appended cfg log₂ log₃) : Appended cfg log₁ log₃ :=
  ⟨h.1.trans h'.1, fun ha => h'.2 (h.2 ha)⟩

theorem Appended.write {cfg : AuditConfig} (hcfg : HexDigest cfg) {log log' : AuditLog}
    (h : Appended cfg log log') (d : AuditDraft) : Appended cfg log (log'.write cfg d) :=
  h.trans ⟨log'.prefix_write cfg d, fun ha => ha.write hcfg d⟩

/-- The log of a user whom no row names. -/
theorem rows_unlinkLog {userId : ℤ} {log : AuditLog}
    (h : ∀ e ∈ log.rows, e.userId ≠ some userId) : (unlinkLog userId log).rows = log.rows := by
  refine List.map_congr_left (fun e he => ?_) |>.trans (List.map_id _)
  exact if_neg (h e he)

theorem appended_unlinkLog {cfg : AuditConfig} {userId : ℤ} {log : AuditLog}
    (h : ∀ e ∈ log.rows, e.userId ≠ some userId) : Appended cfg log (unlinkLog userId log) := by
  have hrows := rows_unlinkLog h
  refine ⟨hrows ▸ List.prefix_refl _, fun ha => ?_⟩
  rw [AuditLog.accepted_iff] at ha ⊢
  rwa [hrows]

/-- Ids come from the sequence, and setup users are users. -/
structure WellNumbered (w : InviteWorld) : Prop where
  user : ∀ u ∈ w.users, u.id < w.nextUserId
  setup : ∀ i ∈ w.invites, ∀ id, i.setupUserId = some id → id < w.nextUserId

/-- What a request keeps on its way from `w` to `s`. -/
structure Kept (cfg : InviteConfig) (w s : InviteWorld) : Prop where
  numbered : WellNumbered s
  next : w.nextUserId ≤ s.nextUserId
  log : Appended cfg.toAuditConfig w.log s.log

/-! ### The users that requests delete -/

/-- The setup user that a reset of the invite deletes. -/
def resetUser (cfg : InviteConfig) (inviteId : ℕ) (w : InviteWorld) : Option StaffUser :=
  (w.invites.find? fun i => i.id = inviteId && i.active).bind fun invite =>
    (setupUser invite w).filter (resettable cfg invite)

/-- What the request did up to its required event is committed. -/
def requiredCommits (cfg : InviteConfig) (inputs : InviteInputs) (eventType : String) : Bool :=
  !inputs.unwritable cfg eventType "success" || inputs.leftoversCommitted

/-- The user whose deletion the request commits. -/
def deletedUser (cfg : InviteConfig) (w : InviteWorld) : InviteOp → Option StaffUser
  | .reissueStaffInvite inputs _ inviteId =>
      if inputs.isRootAdmin && inputs.stepUpAccepted && !inputs.emailFails &&
          requiredCommits cfg inputs "staff_invite_reissued" &&
          (inputs.unwritable cfg "staff_invite_reissued" "success" ||
            !inputs.unwritable cfg "staff_invite_email" "queued") then
        resetUser cfg inviteId w
      else none
  | .resetStaffInviteAcceptance inputs _ inviteId =>
      if inputs.isRootAdmin && inputs.stepUpAccepted &&
          requiredCommits cfg inputs "staff_invite_accept_reset" then
        resetUser cfg inviteId w
      else none
  | _ => none

/-- The invite that a start is admitted to. -/
def startable (inputs : InviteInputs) (tokenHash : String) (w : InviteWorld) :
    Option StaffInvite :=
  (w.invites.find? fun i => i.tokenHash = tokenHash).filter fun invite =>
    invite.live w.clock && !invite.acceptanceIsLocked &&
      (invite.acceptanceSessionHash.isNone || ownSession inputs invite) &&
      invite.acceptanceStartCount < 3

/-- The `try` block of a start raises. -/
def startFails (cfg : InviteConfig) (inputs : InviteInputs) : Bool :=
  inputs.emailFails || inputs.unwritable cfg "staff_workplace_verification_sent" "queued" ||
    inputs.unwritable cfg "staff_invite_accept_started" "success"

/-- The first start of an invite, which commits its user with the event of the
encryption, then fails, and commits that the user is deleted. -/
def undoesStart (cfg : InviteConfig) (w : InviteWorld) : InviteOp → Bool
  | .startInviteAcceptance inputs tokenHash =>
      !inputs.probeLimited && !inputs.forgedFields && !inputs.turnstileFails &&
        inputs.policyAccepts && inputs.detailsValid &&
        (startable inputs tokenHash w).any (fun invite => (setupUser invite w).isNone &&
          !duplicateSignup cfg inputs invite.workplaceEmailNormalized w) &&
        !inputs.mfaKeyMissing && !inputs.unwritable cfg "mfa_secret_encrypt" "success" &&
        !inputs.refreshFails && startFails cfg inputs &&
        !inputs.unwritable cfg "staff_workplace_verification_sent" "failure"
  | _ => false

/-- No row names the user whom the request deletes. -/
def SparesAudited (cfg : InviteConfig) (w : InviteWorld) (op : InviteOp) : Prop :=
  (∀ user, deletedUser cfg w op = some user → ∀ e ∈ w.log.rows, e.userId ≠ some user.id) ∧
    undoesStart cfg w op = false

/-! ### Requests -/

section Requests

variable {cfg : InviteConfig} (hcfg : HexDigest cfg.toAuditConfig) {w s : InviteWorld}

theorem Kept.refl (h : WellNumbered w) : Kept cfg w w := ⟨h, le_rfl, .refl _ _⟩

theorem Kept.trans {v : InviteWorld} (h : Kept cfg w v) (h' : Kept cfg v s) : Kept cfg w s :=
  ⟨h'.numbered, h.next.trans h'.next, h.log.trans h'.log⟩

/-- The invite names no user that is new since `w`. -/
def NamesOld (w : InviteWorld) (invite : StaffInvite) : Prop :=
  ∀ id, invite.setupUserId = some id → id < w.nextUserId

theorem ends_setInvite (h : Kept cfg w s) {invite : StaffInvite} (hi : NamesOld w invite) :
    Ends (setInvite invite) (fun _ s' => Kept cfg w s') s := by
  refine ⟨⟨h.numbered.user, fun i hi' id hid => ?_⟩, h.next, h.log⟩
  obtain ⟨i₀, hi₀, rfl⟩ := List.mem_map.mp hi'
  split at hid
  · exact (hi id hid).trans_le h.next
  · exact h.numbered.setup i₀ hi₀ id hid

theorem ends_setInvite_if {c : Prop} (h : c → Kept cfg w s) {invite : StaffInvite}
    (hi : NamesOld w invite) : Ends (setInvite invite) (fun r s' => match r with
      | .ok _ => c → Kept cfg w s'
      | .error _ => False) s :=
  show c → _ from fun hc => ends_setInvite (h hc) hi

/-- Users are replaced by their id. -/
theorem ends_setUser (h : Kept cfg w s) (user : StaffUser) :
    Ends (setUser user) (fun _ s' => Kept cfg w s' ∧ s'.nextUserId = s.nextUserId) s := by
  refine ⟨⟨⟨fun u hu => ?_, h.numbered.setup⟩, h.next, h.log⟩, rfl⟩
  obtain ⟨u₀, hu₀, rfl⟩ := List.mem_map.mp hu
  have hlt := h.numbered.user u₀ hu₀
  split
  · next hid => exact hid ▸ hlt
  · exact hlt

theorem ends_changeInvite (h : Kept cfg w s) (inviteId : ℕ) {f : StaffInvite → StaffInvite}
    (hf : ∀ i, (f i).setupUserId = i.setupUserId) :
    Ends (changeInvite inviteId f)
      (fun _ s' => Kept cfg w s' ∧ s'.users = s.users ∧ s'.nextUserId = s.nextUserId) s := by
  refine ⟨⟨⟨h.numbered.user, fun i hi id hid => ?_⟩, h.next, h.log⟩, rfl, rfl⟩
  obtain ⟨i₀, hi₀, rfl⟩ := List.mem_map.mp hi
  split at hid
  · exact h.numbered.setup i₀ hi₀ id (hf i₀ ▸ hid)
  · exact h.numbered.setup i₀ hi₀ id hid

theorem Kept.addUser (hw : WellNumbered w) {user : StaffUser} (hid : user.id = w.nextUserId) :
    Kept cfg w { w with users := w.users ++ [user], nextUserId := w.nextUserId + 1 } := by
  refine ⟨⟨fun u hu => ?_, fun i hi id hid => ?_⟩, (Int.lt_succ _).le, .refl _ _⟩
  · rcases List.mem_append.mp hu with hu | hu
    · exact (hw.user u hu).trans (Int.lt_succ _)
    · rw [List.mem_singleton.mp hu, hid]
      exact Int.lt_succ _
  · exact (hw.setup i hi id hid).trans (Int.lt_succ _)

include hcfg

theorem Kept.writes : WriteStable cfg (Kept cfg w) :=
  fun _ d h => ⟨⟨h.numbered.user, h.numbered.setup⟩, h.next, h.log.write hcfg d⟩

theorem Kept.write (h : Kept cfg w s) (d : AuditDraft) :
    Kept cfg w { s with log := s.log.write cfg.toAuditConfig d } :=
  ⟨⟨h.numbered.user, h.numbered.setup⟩, h.next, h.log.write hcfg d⟩

omit hcfg in
theorem namesOld_of_find {invite : StaffInvite} {p : StaffInvite → Bool} (h : WellNumbered w)
    (hfind : w.invites.find? p = some invite) : NamesOld w invite :=
  h.setup invite (List.mem_of_find?_eq_some hfind)

theorem ends_deliverFreshInviteEmail (h : Kept cfg w s) (inputs : InviteInputs) (actor : ℤ)
    {invite : StaffInvite} (hi : NamesOld w invite) :
    Ends (deliverFreshInviteEmail cfg inputs actor invite) (fun _ s' => Kept cfg w s') s := by
  refine Ends.get_bind ?_
  split
  · refine Ends.bind (ends_setInvite h hi) (fun _ s' hs' => ?_) fun _ _ h => h
    exact (ends_auditEvent (Kept.writes hcfg) hs' h inputs _ _ _).bind (fun _ _ h => h)
      fun _ _ h => h
  · refine Ends.bind (ends_setInvite h hi) (fun _ s' hs' => ?_) fun _ _ h => h
    exact ends_auditEvent (Kept.writes hcfg) hs' h inputs _ _ _

theorem ends_mintInvite (h : Kept cfg w s) (inputs : InviteInputs) (actor : ℤ) (email : String)
    (role : StaffRole) {setupUserId : Option ℤ}
    (hsetup : ∀ id, setupUserId = some id → id < w.nextUserId) (eventType : String) :
    Ends (mintInvite cfg inputs actor email role setupUserId eventType)
      (fun _ s' => Kept cfg w s') s := by
  refine Ends.get_bind (Ends.modify_bind ?_)
  have hinserted : Kept cfg w { s with
      invites := s.invites ++ [insertInvite cfg inputs email role setupUserId s]
      nextInviteId := s.nextInviteId + 1 } := by
    refine ⟨⟨h.numbered.user, fun i hi id hid => ?_⟩, h.next, h.log⟩
    rcases List.mem_append.mp hi with hi | hi
    · exact h.numbered.setup i hi id hid
    · rw [List.mem_singleton.mp hi] at hid
      exact (hsetup id hid).trans_le h.next
  refine (ends_auditEventRequired (Kept.writes hcfg) hinserted h inputs _ _ _).bind
    (fun _ s' hs' => ?_)
    fun _ _ h => h
  exact ends_deliverFreshInviteEmail hcfg hs' inputs actor hsetup

theorem ends_createStaffInvite (hw : WellNumbered w) (inputs : InviteInputs) (actor : ℤ)
    (workplaceEmail : String) (role : StaffRole) :
    Ends (createStaffInvite cfg inputs actor workplaceEmail role)
      (fun _ s' => Kept cfg w s') w := by
  have h : Kept cfg w w := .refl hw
  refine (ends_refuseUnless (Kept.writes hcfg) h inputs _ _ _ _ _).bind ?_ fun _ _ h => h
  rintro _ _ ⟨rfl, -⟩
  refine (ends_refuseUnless (Kept.writes hcfg) h inputs _ _ _ _ _).bind ?_ fun _ _ h => h
  rintro _ _ ⟨rfl, -⟩
  refine (ends_requireRootStepUp (Kept.writes hcfg) h inputs actor _).bind ?_ fun _ _ h => h
  rintro _ w ⟨rfl, -⟩
  refine Ends.get_bind (Ends.raiseIf_bind (fun _ => h) fun _ => ?_)
  have hnone : ∀ id, (none : Option ℤ) = some id → id < w.nextUserId := fun _ hid => nomatch hid
  exact ends_mintInvite hcfg h inputs actor _ role hnone _

theorem ends_resendStaffSetupInvite (hw : WellNumbered w) (inputs : InviteInputs)
    (actor targetUserId : ℤ) :
    Ends (resendStaffSetupInvite cfg inputs actor targetUserId) (fun _ s' => Kept cfg w s') w := by
  have h : Kept cfg w w := .refl hw
  refine (ends_refuseUnless (Kept.writes hcfg) h inputs _ _ _ _ _).bind ?_ fun _ _ h => h
  rintro _ w ⟨rfl, -⟩
  refine Ends.get_bind ?_
  dsimp only
  split
  · exact (ends_auditEvent (Kept.writes hcfg) h h inputs _ _ _).bind (fun _ _ h => h) fun _ _ h => h
  · next user huser =>
      have hid : user.id < w.nextUserId :=
        hw.user user (List.mem_of_find?_eq_some (Option.filter_eq_some_iff.mp huser).1)
      refine (ends_refuseUnless (Kept.writes hcfg) h inputs _ _ _ _ _).bind ?_ fun _ _ h => h
      rintro _ _ ⟨rfl, -⟩
      refine (ends_requireRootStepUp (Kept.writes hcfg) h inputs actor _).bind ?_ fun _ _ h => h
      rintro _ w ⟨rfl, -⟩
      refine Ends.get_bind (Ends.raiseIf_bind (fun _ => h) fun _ => ?_)
      refine ends_mintInvite hcfg h inputs actor _ _ (fun id heq => ?_) _
      cases heq
      exact hid

theorem ends_revokeStaffInvite (hw : WellNumbered w) (inputs : InviteInputs) (actor : ℤ)
    (inviteId : ℕ) :
    Ends (revokeStaffInvite cfg inputs actor inviteId) (fun _ s' => Kept cfg w s') w := by
  have h : Kept cfg w w := .refl hw
  refine (ends_requireRootStepUp (Kept.writes hcfg) h inputs actor _).bind ?_ fun _ _ h => h
  rintro _ _ ⟨rfl, -⟩
  refine (ends_activeInvite h inviteId).bind ?_ fun _ _ h => h
  rintro invite _ ⟨rfl, hfind⟩
  have hi := namesOld_of_find hw hfind
  refine Ends.get_bind (Ends.bind (ends_setInvite h hi) (fun _ s' hs' => ?_) fun _ _ h => h)
  exact ends_auditEventRequired (Kept.writes hcfg) hs' h inputs _ _ _

omit hcfg in
/-- Deleting a user whom no row names. -/
theorem Kept.deleteUser (h : Kept cfg w s) {userId : ℤ}
    (hrows : ∀ e ∈ s.log.rows, e.userId ≠ some userId) : Kept cfg w (deleteUser userId s) := by
  refine ⟨⟨fun u hu => h.numbered.user u (List.mem_filter.mp hu).1, fun i hi id hid => ?_⟩, h.next,
    h.log.trans (appended_unlinkLog hrows)⟩
  obtain ⟨i₀, hi₀, rfl⟩ := List.mem_map.mp hi
  split at hid
  · cases hid
  · exact h.numbered.setup i₀ hi₀ id hid

/-- The user of the invite is deleted, or there is none. -/
theorem ends_resetActiveInviteAcceptance (h : Kept cfg w s) (inputs : InviteInputs) (actor : ℤ)
    {invite : StaffInvite} (hi : NamesOld w invite) (eventType : String) :
    Ends (resetActiveInviteAcceptance cfg inputs actor invite eventType) (fun r s' => match r with
      | .ok reset => NamesOld w reset ∧ (s' = s ∨ ∃ user, setupUser invite s = some user ∧
          resettable cfg invite user = true ∧ s' = deleteUser user.id s)
      | .error _ => Kept cfg w s') s := by
  refine Ends.get_bind ?_
  split
  · exact ⟨hi, .inl rfl⟩
  · next user huser =>
      refine (ends_refuseUnless (Kept.writes hcfg) h inputs _ _ _ _ _).bind ?_ fun _ _ h => h
      rintro _ _ ⟨rfl, hresettable⟩
      have hnone : ∀ id, (none : Option ℤ) = some id → id < w.nextUserId := fun _ hid => nomatch hid
      exact ⟨hnone, .inr ⟨user, huser, hresettable, rfl⟩⟩

omit hcfg in
/-- After the reset, under a condition that makes the deletion harmless. -/
theorem kept_of_reset {invite : StaffInvite} {inviteId : ℕ} (hw : WellNumbered w)
    (hfind : w.invites.find? (fun i => i.id = inviteId && i.active) = some invite)
    (hspare : ∀ user, resetUser cfg inviteId w = some user → ∀ e ∈ w.log.rows,
      e.userId ≠ some user.id)
    (hs : s = w ∨ ∃ user, setupUser invite w = some user ∧ resettable cfg invite user = true ∧
      s = deleteUser user.id w) : Kept cfg w s := by
  rcases hs with rfl | ⟨user, huser, hresettable, rfl⟩
  · exact .refl hw
  · have hreset : resetUser cfg inviteId w = some user := by
      unfold resetUser
      rw [hfind]
      exact Option.filter_eq_some_iff.mpr ⟨huser, hresettable⟩
    exact (Kept.refl hw).deleteUser (hspare user hreset)

theorem ends_reissueStaffInvite (hw : WellNumbered w) (inputs : InviteInputs) (actor : ℤ)
    (inviteId : ℕ) (hspare : SparesAudited cfg w (.reissueStaffInvite inputs actor inviteId)) :
    Ends (reissueStaffInvite cfg inputs actor inviteId) (fun _ s' => Kept cfg w s') w := by
  have h : Kept cfg w w := .refl hw
  refine (ends_requireRootStepUp (Kept.writes hcfg) h inputs actor _).bind ?_ fun _ _ h => h
  rintro _ _ ⟨rfl, hroot, hstep⟩
  refine (ends_activeInvite h inviteId).bind ?_ fun _ _ h => h
  rintro invite w ⟨rfl, hfind⟩
  have hi := namesOld_of_find hw hfind
  refine Ends.get_bind ((ends_resetActiveInviteAcceptance hcfg h inputs actor hi _).bind ?_
    fun _ _ h => h)
  rintro reset s ⟨hreset, hs⟩
  split
  · refine Ends.set_bind (Ends.bind (ends_setInvite h hi) (fun _ s₁ hs₁ => ?_) fun _ _ h => h)
    exact (ends_auditEvent (Kept.writes hcfg) hs₁ h inputs _ _ _).bind (fun _ _ h => h)
      fun _ _ h => h
  · next hemail =>
      let commits := requiredCommits cfg inputs "staff_invite_reissued" = true ∧
        (inputs.unwritable cfg "staff_invite_reissued" "success" = false →
          inputs.unwritable cfg "staff_invite_email" "queued" = false)
      -- the deletion is kept, or one of the two events rolls it back
      have hkept : commits → Kept cfg w s := by
        rintro ⟨hcommits, hqueued⟩
        refine kept_of_reset hw hfind (fun user huser => hspare.1 user ?_) hs
        unfold deletedUser
        cases hwritable : inputs.unwritable cfg "staff_invite_reissued" "success" with
        | true => simpa [hroot, hstep, hemail, hcommits, hwritable] using huser
        | false => simpa [hroot, hstep, hemail, hcommits, hqueued hwritable] using huser
      refine Ends.bind (ends_setInvite_if hkept hreset) (fun _ s₁ hs₁ => ?_)
        fun _ _ hs₁ => hs₁.elim
      refine (auditEventRequired_spec inputs w _ _ _).bind ?_ ?_
      · rintro _ s₂ ⟨hwritable, rfl⟩
        unfold auditEvent
        split
        · exact h
        · next hqueued =>
            have hcommits : commits :=
              ⟨by simp [requiredCommits, hwritable], fun _ => Bool.eq_false_iff.mpr hqueued⟩
            exact ((hs₁ hcommits).write hcfg _).write hcfg _
      · rintro _ s₂ ⟨hunwritable, rfl⟩
        split
        · next hleft =>
            refine hs₁ ⟨by simp [requiredCommits, hleft], fun hwritable => ?_⟩
            rw [hunwritable] at hwritable
            cases hwritable
        · exact h

theorem ends_resetStaffInviteAcceptance (hw : WellNumbered w) (inputs : InviteInputs) (actor : ℤ)
    (inviteId : ℕ)
    (hspare : SparesAudited cfg w (.resetStaffInviteAcceptance inputs actor inviteId)) :
    Ends (resetStaffInviteAcceptance cfg inputs actor inviteId) (fun _ s' => Kept cfg w s') w := by
  have h : Kept cfg w w := .refl hw
  refine (ends_requireRootStepUp (Kept.writes hcfg) h inputs actor _).bind ?_ fun _ _ h => h
  rintro _ _ ⟨rfl, hroot, hstep⟩
  refine (ends_activeInvite h inviteId).bind ?_ fun _ _ h => h
  rintro invite w ⟨rfl, hfind⟩
  have hi := namesOld_of_find hw hfind
  refine Ends.get_bind ((ends_resetActiveInviteAcceptance hcfg h inputs actor hi _).bind ?_
    fun _ _ h => h)
  rintro reset s ⟨hreset, hs⟩
  -- what is written below is kept, or it is rolled back
  have hkept : requiredCommits cfg inputs "staff_invite_accept_reset" = true → Kept cfg w s := by
    intro hcommits
    refine kept_of_reset hw hfind (fun user huser => hspare.1 user ?_) hs
    simpa [deletedUser, hroot, hstep, hcommits] using huser
  refine Ends.bind (ends_setInvite_if hkept hreset) (fun _ s₁ hs₁ => ?_) fun _ _ hs₁ => hs₁.elim
  refine (auditEventRequired_spec inputs w _ _ _).mono fun r s₂ hr => ?_
  cases r with
  | ok _ =>
      rw [hr.2]
      exact (hs₁ (by simp [requiredCommits, hr.1])).write hcfg _
  | error _ =>
      rw [hr.2]
      split
      · next hleft => exact hs₁ (by simp [requiredCommits, hleft])
      · exact h

theorem ends_activeInviteByToken (hw : WellNumbered w) (inputs : InviteInputs)
    (tokenHash : String) :
    Ends (activeInviteByToken cfg inputs tokenHash) (fun r s' => match r with
      | .ok invite => s' = w ∧ NamesOld w invite ∧
          w.invites.find? (fun i => i.tokenHash = tokenHash) = some invite ∧
          invite.live w.clock = true
      | .error _ => Kept cfg w s') w := by
  have h : Kept cfg w w := .refl hw
  refine Ends.get_bind ?_
  split
  · exact (ends_auditEvent (Kept.writes hcfg) h h inputs _ _ _).bind (fun _ _ h => h) fun _ _ h => h
  · next invite hfind =>
      have hi := namesOld_of_find hw hfind
      split
      · refine Ends.bind (ends_setInvite h hi) (fun _ s' hs' => Ends.get_bind ?_) fun _ _ h => h
        exact (ends_auditEvent (Kept.writes hcfg) hs' hs' inputs _ _ _).bind (fun _ _ h => h)
          fun _ _ h => h
      · next hexpires =>
          split
          · exact (ends_auditEvent (Kept.writes hcfg) h h inputs _ _ _).bind (fun _ _ h => h)
              fun _ _ h => h
          · next hended =>
              split
              · exact h
              · next hactive =>
                  refine ⟨rfl, hi, hfind, ?_⟩
                  simp only [Bool.or_eq_true, not_or, Option.not_isSome_iff_eq_none] at hended
                  simp [StaffInvite.live, hended.1.1.1, hended.1.2, of_negated
                    (Bool.eq_false_iff.mpr hactive), Nat.lt_of_not_le hexpires]

theorem ends_ensureInviteAcceptanceCanStart (h : Kept cfg w s) (inputs : InviteInputs)
    {invite : StaffInvite} (hi : NamesOld w invite) :
    Ends (ensureInviteAcceptanceCanStart cfg inputs invite) (fun r s' => match r with
      | .ok _ => s' = s ∧ (!invite.acceptanceIsLocked &&
          (invite.acceptanceSessionHash.isNone || ownSession inputs invite) &&
          invite.acceptanceStartCount < 3) = true
      | .error _ => Kept cfg w s') s := by
  refine (ends_refuseUnless (Kept.writes hcfg) h inputs _ _ _ _ _).bind ?_ fun _ _ h => h
  rintro _ _ ⟨rfl, hunlocked⟩
  refine (ends_ensureStartedSession (Kept.writes hcfg) h inputs invite).bind ?_ fun _ _ h => h
  rintro _ _ ⟨rfl, hown⟩
  split
  · refine Ends.get_bind (Ends.bind (ends_setInvite h hi) (fun _ s' hs' => ?_) fun _ _ h => h)
    exact (ends_auditEvent (Kept.writes hcfg) hs' h inputs _ _ _).bind (fun _ _ h => h)
      fun _ _ h => h
  · next hcount =>
      refine Ends.pure ⟨rfl, ?_⟩
      rw [hunlocked, hown]
      simpa using hcount

omit hcfg in
theorem userById_isSome {user : StaffUser} (h : user ∈ s.users) :
    (userById user.id s).isSome = true := by
  unfold userById
  rw [List.find?_isSome]
  exact ⟨user, h, decide_eq_true rfl⟩

omit hcfg in
/-- The new user of an invite that refers to it. -/
theorem Kept.addSetupUser (hw : WellNumbered w) {user : StaffUser} (hid : user.id = w.nextUserId)
    (invite : StaffInvite) :
    Kept cfg w { w with
      users := w.users ++ [user]
      nextUserId := w.nextUserId + 1
      invites := w.invites.map fun i =>
        if i.id = invite.id then { invite with setupUserId := some user.id } else i } := by
  have hadded : Kept cfg w _ := .addUser hw hid
  refine ⟨⟨hadded.numbered.user, fun i hi id hnames => ?_⟩, (Int.lt_succ _).le, .refl _ _⟩
  obtain ⟨i₀, hi₀, rfl⟩ := List.mem_map.mp hi
  split at hnames
  · cases hnames
    rw [hid]
    exact Int.lt_succ _
  · exact hadded.numbered.setup i₀ hi₀ id hnames

/-- A new setup user takes the next id of the sequence. -/
theorem ends_ensureSetupUser (hw : WellNumbered w) (inputs : InviteInputs) (invite : StaffInvite) :
    Ends (ensureSetupUser cfg inputs invite) (fun r s' => Kept cfg w s' ∧ ∀ user, r = .ok user →
      user.id < s'.nextUserId ∧ (userById user.id s').isSome = true ∧
        (setupUser invite w = none → user.id = w.nextUserId ∧
          duplicateSignup cfg inputs invite.workplaceEmailNormalized w = false)) w := by
  have h : Kept cfg w w := .refl hw
  refine Ends.get_bind ?_
  split
  · refine (ends_refuseUnless (Kept.writes hcfg) h inputs _ _ _ _ _).bind ?_
      fun _ _ h => ⟨h, fun _ hr => nomatch hr⟩
    rintro _ w ⟨rfl, hunique⟩
    refine Ends.get_bind (Ends.modify_bind (Ends.modify_bind (Ends.pure
      ⟨Kept.addSetupUser hw rfl invite, ?_⟩)))
    rintro user ⟨rfl⟩
    refine ⟨Int.lt_succ _, userById_isSome ?_, fun _ => ⟨rfl, by simpa using hunique⟩⟩
    exact List.mem_append_right _ (List.mem_singleton_self _)
  · next user huser =>
      refine (ends_ensureStartedSession (Kept.writes hcfg) h inputs invite).bind ?_
        fun _ _ h => ⟨h, fun _ hr => nomatch hr⟩
      rintro _ w ⟨rfl, -⟩
      refine Ends.raiseIf_bind (fun _ => ⟨h, fun _ hr => nomatch hr⟩) fun _ => Ends.pure ⟨h, ?_⟩
      rintro user ⟨rfl⟩
      obtain ⟨id, -, hfind⟩ := Option.bind_eq_some_iff.mp huser
      have hmem := List.mem_of_find?_eq_some hfind
      exact ⟨hw.user user hmem, userById_isSome hmem, fun hnone => nomatch hnone.symm.trans huser⟩

omit hcfg in
/-- The rollback leaves only the number of the new user behind. -/
theorem Kept.rollback (hw : WellNumbered w) {next : ℤ} (hnext : w.nextUserId ≤ next) :
    Kept cfg w { w with nextUserId := next } :=
  ⟨⟨fun u hu => (hw.user u hu).trans_le hnext,
    fun i hi id hid => (hw.setup i hi id hid).trans_le hnext⟩, hnext, .refl _ _⟩

/-- The event of the encryption is written, or its session rolled back. -/
theorem ends_encryptMfaSecret (hw : WellNumbered w) {v : InviteWorld} (hv : Kept cfg w v)
    (inputs : InviteInputs) (user : StaffUser) :
    Ends (encryptMfaSecret cfg inputs w user) (fun r s' => Kept cfg w s' ∧
      s'.nextUserId = v.nextUserId ∧ (r = .ok () → inputs.mfaKeyMissing = false ∧
        (inputs.unwritable cfg "mfa_secret_encrypt" "success" = false ∧ s'.users = v.users ∨
          s' = { w with nextUserId := v.nextUserId }))) v := by
  have hrolled : Kept cfg w { w with nextUserId := v.nextUserId } := .rollback hw hv.next
  unfold encryptMfaSecret auditEvent
  refine Ends.get_bind ?_
  dsimp only
  split
  · split
    · exact ⟨hv, rfl, fun hr => nomatch hr⟩
    · exact ⟨hrolled, rfl, fun hr => nomatch hr⟩
  · next hkey =>
      have hkey := Bool.eq_false_iff.mpr hkey
      split
      · exact ⟨hrolled, rfl, fun _ => ⟨hkey, .inr rfl⟩⟩
      · next hwritable =>
          exact ⟨hv.write hcfg _, rfl,
            fun _ => ⟨hkey, .inl ⟨Bool.eq_false_iff.mpr hwritable, rfl⟩⟩⟩

theorem ends_recordStart {e : InviteWorld} (he : Kept cfg w e) (inputs : InviteInputs)
    (inviteId : ℕ) (user : StaffUser) :
    Ends (recordStart cfg inputs e inviteId user) (fun r s' => Kept cfg w s' ∧ ∀ error,
      r = .error error → (userById user.id e).isSome = true → startFails cfg inputs = true) e := by
  have hset := (ends_setUser he { user with mfaEnabled := false }).1
  have hchanged := (ends_changeInvite hset inviteId (f := fun i => { i with
    status := .totpPending
    acceptanceSessionHash := some inputs.sessionHash
    acceptanceStartCount := i.acceptanceStartCount + 1 }) fun _ => rfl).1
  unfold startFails
  refine Ends.modify_bind (Ends.modify_bind (Ends.raiseIf_bind (fun hemail => ⟨hchanged, ?_⟩)
    fun _ => Ends.raiseIf_bind (fun hnone => ⟨hchanged, ?_⟩) fun _ => ?_))
  · exact fun _ _ _ => by simp [hemail]
  · exact fun _ _ hsome => nomatch (Option.isNone_iff_eq_none.mp hnone) ▸ hsome
  refine ((ends_auditEventRequired (Kept.writes hcfg) hchanged he inputs _ _ _).and
    (auditEventRequired_spec inputs e _ _ _)).bind (fun _ s₁ hs₁ => ?_)
    fun _ _ h => ⟨h.1, fun _ _ _ => by simp [h.2.1]⟩
  refine ((ends_auditEventRequired (Kept.writes hcfg) hs₁.1 he inputs _ _ _).and
    (auditEventRequired_spec inputs e _ _ _)).mono fun r s₂ hs₂ => ⟨hs₂.1, ?_⟩
  rintro _ rfl -
  simp [hs₂.2.1]

omit hcfg in
/-- Clearing an invite that refers to nobody new. -/
theorem Kept.clearFailedInviteAcceptanceStart (h : Kept cfg w s) {created : Option ℤ}
    (hcreated : ∀ id, created = some id → ∀ i ∈ s.invites, i.setupUserId ≠ some id)
    (inviteId : ℕ) : Kept cfg w (clearFailedInviteAcceptanceStart inviteId created s) := by
  unfold Admin.clearFailedInviteAcceptanceStart
  split
  · next userId invite hfind =>
      dsimp only [unlinkSetupUser]
      rw [if_neg (hcreated userId rfl invite (List.mem_of_find?_eq_some hfind))]
      refine ⟨⟨h.numbered.user, fun i hi id hid => ?_⟩, h.next, h.log⟩
      obtain ⟨i₀, hi₀, rfl⟩ := List.mem_map.mp hi
      split at hid
      · exact h.numbered.setup i₀ hi₀ id hid
      · exact h.numbered.setup i₀ hi₀ id hid
  · exact h

/-- What the clean-up has changed is committed with the first event of the failure,
or rolled back by it. -/
theorem ends_failedStart {e : InviteWorld} (he : Kept cfg w e) (inputs : InviteInputs)
    (inviteId : ℕ) {created : Option ℤ}
    (hcleared : inputs.unwritable cfg "staff_workplace_verification_sent" "failure" = false →
      Kept cfg w (clearFailedInviteAcceptanceStart inviteId created e)) :
    Ends (failedStart cfg inputs e inviteId created) (fun _ s' => Kept cfg w s') s := by
  have hfirst : Ends (auditEvent cfg inputs e "staff_workplace_verification_sent" "failure" none)
      (fun _ s' => Kept cfg w s') (clearFailedInviteAcceptanceStart inviteId created e) := by
    unfold auditEvent
    split
    · exact he
    · next hwritable => exact (hcleared (Bool.eq_false_iff.mpr hwritable)).write hcfg _
  refine Ends.set_bind (hfirst.bind (fun _ s₁ hs₁ => Ends.get_bind ?_) fun _ _ h => h)
  exact (ends_auditEvent (Kept.writes hcfg) hs₁ hs₁ inputs _ _ _).bind (fun _ _ h => h)
    fun _ _ h => h

theorem ends_startInviteAcceptance (hw : WellNumbered w) (inputs : InviteInputs)
    (tokenHash : String)
    (hspare : SparesAudited cfg w (.startInviteAcceptance inputs tokenHash)) :
    Ends (startInviteAcceptance cfg inputs tokenHash) (fun _ s' => Kept cfg w s') w := by
  have h : Kept cfg w w := .refl hw
  refine (ends_refuseUnless (Kept.writes hcfg) h inputs _ _ _ _ _).bind ?_ fun _ _ h => h
  rintro _ _ ⟨rfl, hprobe⟩
  refine (ends_refuseUnless (Kept.writes hcfg) h inputs _ _ _ _ _).bind ?_ fun _ _ h => h
  rintro _ _ ⟨rfl, hfields⟩
  refine (ends_refuseUnless (Kept.writes hcfg) h inputs _ _ _ _ _).bind ?_ fun _ _ h => h
  rintro _ _ ⟨rfl, hturnstile⟩
  refine (ends_activeInviteByToken hcfg hw inputs tokenHash).bind ?_ fun _ _ h => h
  rintro invite _ ⟨rfl, hi, hfind, hlive⟩
  refine (ends_refuseUnless (Kept.writes hcfg) h inputs _ _ _ _ _).bind ?_ fun _ _ h => h
  rintro _ _ ⟨rfl, hpolicy⟩
  refine (ends_ensureInviteAcceptanceCanStart hcfg h inputs hi).bind ?_ fun _ _ h => h
  rintro _ _ ⟨rfl, hcanStart⟩
  refine (ends_refuseUnless (Kept.writes hcfg) h inputs _ _ _ _ _).bind ?_ fun _ _ h => h
  rintro _ w ⟨rfl, hdetails⟩
  refine Ends.get_bind ((ends_ensureSetupUser hcfg hw inputs invite).bind ?_ fun _ _ h => h.1)
  rintro user v ⟨hv, hu⟩
  obtain ⟨hlt, hstored, hnew⟩ := hu user rfl
  refine (ends_encryptMfaSecret hcfg hw hv inputs user).bind ?_ fun _ _ h => h.1
  rintro _ e ⟨he, hnext, hencrypted⟩
  obtain ⟨hkey, hencrypted⟩ := hencrypted rfl
  refine Ends.get_bind (Ends.raiseIf_bind (fun _ => he) fun hrefreshed => ?_)
  refine (ends_recordStart hcfg he inputs invite.id user).tryCatch (fun _ _ h => h.1)
    fun _ s hs => ends_failedStart hcfg he inputs invite.id fun hcleanup => ?_
  refine Kept.clearFailedInviteAcceptanceStart he (fun id hid => ?_) invite.id
  split at hid
  · cases hid
  · next hnone =>
      cases hid
      have hnone : setupUser invite w = none := by simpa using hnone
      obtain ⟨hid, hunique⟩ := hnew hnone
      rcases hencrypted with ⟨hwritten, husers⟩ | rfl
      · -- the new user is committed, so the condition excludes this failure
        have hfails : startFails cfg inputs = true := hs.2 _ rfl (by
          unfold userById at hstored ⊢
          rwa [husers])
        have hstartable : startable inputs tokenHash w = some invite := by
          refine Option.filter_eq_some_iff.mpr ⟨hfind, ?_⟩
          simpa [hlive] using hcanStart
        have hundone : undoesStart cfg w (.startInviteAcceptance inputs tokenHash) = true := by
          simp_all [undoesStart]
        exact absurd hundone (Bool.eq_false_iff.mp hspare.2)
      · rw [hid]
        exact fun i hi hnames => absurd (hw.setup i hi _ hnames) (lt_irrefl _)

theorem ends_recordInviteAcceptanceVerifyFailure (h : Kept cfg w s) (inputs : InviteInputs)
    {invite : StaffInvite} (hi : NamesOld w invite) (user : StaffUser)
    (reason : String × InviteError) :
    Ends (recordInviteAcceptanceVerifyFailure cfg inputs invite user reason)
      (fun _ s' => Kept cfg w s') s := by
  refine Ends.get_bind ?_
  dsimp only
  split
  all_goals
    refine Ends.bind (ends_setInvite h hi) (fun _ s' hs' => ?_) fun _ _ h => h
    exact (ends_auditEvent (Kept.writes hcfg) hs' h inputs _ _ _).bind (fun _ _ h => h)
      fun _ _ h => h

theorem ends_activateStaff (h : Kept cfg w s) (inputs : InviteInputs) {invite : StaffInvite}
    (hi : NamesOld w invite) (user : StaffUser) :
    Ends (activateStaff cfg inputs invite user) (fun _ s' => Kept cfg w s') s := by
  refine Ends.get_bind (Ends.bind (ends_setUser h _) (fun _ s₁ hs₁ => ?_) fun _ _ h => h.1)
  refine Ends.bind (ends_setInvite hs₁.1 hi) (fun _ s₂ hs₂ => ?_) fun _ _ h => h
  refine (ends_auditEventRequired (Kept.writes hcfg) hs₂ h inputs _ _ _).bind (fun _ s₃ hs₃ => ?_)
    fun _ _ h => h
  refine (ends_auditEventRequired (Kept.writes hcfg) hs₃ h inputs _ _ _).bind (fun _ s₄ hs₄ => ?_)
    fun _ _ h => h
  exact ends_auditEventRequired (Kept.writes hcfg) hs₄ h inputs _ _ _

theorem ends_verifyInviteAcceptance (hw : WellNumbered w) (inputs : InviteInputs)
    (tokenHash : String) :
    Ends (verifyInviteAcceptance cfg inputs tokenHash) (fun _ s' => Kept cfg w s') w := by
  have h : Kept cfg w w := .refl hw
  refine (ends_refuseUnless (Kept.writes hcfg) h inputs _ _ _ _ _).bind ?_ fun _ _ h => h
  rintro _ _ ⟨rfl, -⟩
  refine (ends_refuseUnless (Kept.writes hcfg) h inputs _ _ _ _ _).bind ?_ fun _ _ h => h
  rintro _ _ ⟨rfl, -⟩
  refine (ends_activeInviteByToken hcfg hw inputs tokenHash).bind ?_ fun _ _ h => h
  rintro invite _ ⟨rfl, hi, -⟩
  refine (ends_refuseUnless (Kept.writes hcfg) h inputs _ _ _ _ _).bind ?_ fun _ _ h => h
  rintro _ _ ⟨rfl, -⟩
  refine (ends_refuseUnless (Kept.writes hcfg) h inputs _ _ _ _ _).bind ?_ fun _ _ h => h
  rintro _ _ ⟨rfl, -⟩
  refine (ends_ensureInviteAcceptanceSession (Kept.writes hcfg) h inputs invite).bind ?_
    fun _ _ h => h
  rintro _ w ⟨rfl, -⟩
  refine Ends.get_bind ?_
  split
  · exact (ends_auditEvent (Kept.writes hcfg) h h inputs _ _ _).bind (fun _ _ h => h) fun _ _ h => h
  · next user _ =>
      split
      · refine Ends.bind (ends_setInvite h hi) (fun _ s hs => Ends.get_bind ?_) fun _ _ h => h
        exact (ends_auditEvent (Kept.writes hcfg) hs hs inputs _ _ _).bind (fun _ _ h => h)
          fun _ _ h => h
      split
      · exact (ends_auditEvent (Kept.writes hcfg) h h inputs _ _ _).bind (fun _ _ h => h)
          fun _ _ h => h
      split
      · exact ends_recordInviteAcceptanceVerifyFailure hcfg h inputs hi user _
      split
      · exact ends_recordInviteAcceptanceVerifyFailure hcfg h inputs hi user _
      · exact ends_activateStaff hcfg h inputs hi user

/-- A request that spares the users of the log only adds to it. -/
theorem ends_call (hw : WellNumbered w) (op : InviteOp) (hspare : SparesAudited cfg w op) :
    Ends (op.call cfg) (fun _ s' => Kept cfg w s') w := by
  cases op with
  | createStaffInvite inputs actor email role =>
      exact ends_createStaffInvite hcfg hw inputs actor email role
  | resendStaffSetupInvite inputs actor target =>
      exact ends_resendStaffSetupInvite hcfg hw inputs actor target
  | revokeStaffInvite inputs actor inviteId =>
      exact ends_revokeStaffInvite hcfg hw inputs actor inviteId
  | reissueStaffInvite inputs actor inviteId =>
      exact ends_reissueStaffInvite hcfg hw inputs actor inviteId hspare
  | resetStaffInviteAcceptance inputs actor inviteId =>
      exact ends_resetStaffInviteAcceptance hcfg hw inputs actor inviteId hspare
  | startInviteAcceptance inputs tokenHash =>
      exact ends_startInviteAcceptance hcfg hw inputs tokenHash hspare
  | verifyInviteAcceptance inputs tokenHash =>
      exact ends_verifyInviteAcceptance hcfg hw inputs tokenHash
  | audited draft =>
      show Kept cfg w (if names draft w then _ else w)
      split
      · exact (Kept.refl hw).write hcfg draft
      · exact .refl hw
  | register email accountType => exact Kept.addUser hw rfl
  | changeUser user => exact (ends_setUser (.refl hw) user).mono fun _ _ h => h.1
  | wait seconds => exact ⟨⟨hw.user, hw.setup⟩, le_rfl, .refl _ _⟩

end Requests

/-! ### Runs -/

/-- The request after which the rows of the setup user have lost their user. -/
def resetInvite : InviteOp := .resetStaffInviteAcceptance willingInputs 1 1

end SitBank.Admin
