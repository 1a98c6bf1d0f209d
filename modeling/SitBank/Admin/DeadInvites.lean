import SitBank.Admin.Acceptance

/-!
An invite that is revoked or replaced activates nobody, as long as that does not
happen while a verification is under way.

A verification tests the invite once, when it looks it up. What it has found is
still true at its commit if in between nobody has revoked the invite, given it a
new token or accepted it. The row lock would see to that, but it ends with the
check of the authenticator code.
-/

namespace SitBank.Admin.Acceptance

open SitBank.Interaction

/-- The invite is revoked or replaced while no verification is under way, and an
account activated while no other one is. -/
def undisturbed (t : ℕ) (o : AcceptanceOp) (w : AcceptanceWorld) : Prop :=
  match o with
  | .update _ .revoke => w.verifying = []
  | .update _ (.reissue _) => w.verifying = []
  | .update _ (.activate _ _) => ∀ p ∈ w.verifying, p.1 = t
  | _ => True

/-- What a verification has found is still so. -/
def Found (r seen : Invite) : Prop :=
  r.token = seen.token ∧ r.revoked = seen.revoked ∧ r.used = seen.used

structure AcceptanceOk (w : AcceptanceWorld) : Prop where
  found : ∀ p ∈ w.verifying, Found w.row p.2
  inForce : ∀ a ∈ w.activations, a.inForce = true
  once : w.activations.length ≤ 1
  used : w.row.used = false → w.activations = []

def acceptanceRules : Rules AcceptanceOp AcceptanceWorld where
  rely t w w' := ∀ r, (t, r) ∈ w.verifying → (t, r) ∈ w'.verifying
  guar t w w' := ∀ u r, u ≠ t → (u, r) ∈ w.verifying → (u, r) ∈ w'.verifying
  inv := AcceptanceOk
  cond := undisturbed

theorem acceptanceRules_sound : acceptanceRules.Sound where
  refl _ _ _ h := h
  trans _ _ _ _ h h' r hr := h' r (h r hr)
  others t _ _ _ hne _ h r hr := h t r hne.symm hr

/-! ### Operations that do not end a verification -/

/-- An operation that neither activates an account nor ends the request. -/
def Steady : AcceptanceOp → Prop
  | .update _ (.activate _ _) => False
  | .close => False
  | _ => True

section Operations

variable {w w' : AcceptanceWorld} {t : ℕ}

/-- The row keeps what verifications look at, or there is no verification. -/
theorem AcceptanceOk.of_row (h : AcceptanceOk w) (hverifying : w'.verifying = w.verifying)
    (hactivations : w'.activations = w.activations) (hused : w'.row.used = w.row.used)
    (hrow : w.verifying = [] ∨ w'.row.token = w.row.token ∧ w'.row.revoked = w.row.revoked) :
    AcceptanceOk w' := by
  refine ⟨fun p hp => ?_, ?_, ?_, fun hnot => ?_⟩
  · rw [hverifying] at hp
    rcases hrow with hnone | ⟨htoken, hrevoked⟩
    · rw [hnone] at hp
      cases hp
    · have := h.found p hp
      exact ⟨htoken.trans this.1, hrevoked.trans this.2.1, hused.trans this.2.2⟩
  · rw [hactivations]
    exact h.inForce
  · rw [hactivations]
    exact h.once
  · rw [hactivations]
    exact h.used (hused ▸ hnot)

theorem AcceptanceOk.release (h : AcceptanceOk w) : AcceptanceOk (w.release t) :=
  h.of_row rfl rfl rfl (.inr ⟨rfl, rfl⟩)

theorem AcceptanceOk.load (h : AcceptanceOk w) (token : ℕ) (lock verification : Bool) :
    AcceptanceOk (w.load t token lock verification).2 := by
  unfold AcceptanceWorld.load
  split
  · refine ⟨fun p hp => ?_, h.inForce, h.once, h.used⟩
    cases verification with
    | false => exact h.found p hp
    | true =>
        rcases List.mem_append.mp hp with hp | hp
        · exact h.found p hp
        · rw [List.mem_singleton.mp hp]
          exact ⟨rfl, rfl, rfl⟩
  · exact h

theorem verifying_load (token : ℕ) (lock verification : Bool) {p : ℕ × Invite}
    (hp : p ∈ w.verifying) : p ∈ (w.load t token lock verification).2.verifying := by
  unfold AcceptanceWorld.load
  split
  · cases verification with
    | false => exact hp
    | true => exact List.mem_append_left _ hp
  · exact hp

theorem load_found {token : ℕ} {lock : Bool} {seen : Invite}
    (h : (w.load t token lock true).1 = some seen) :
    (t, seen) ∈ (w.load t token lock true).2.verifying ∧ seen.token = token := by
  unfold AcceptanceWorld.load at h ⊢
  split at h
  · next htoken =>
      cases h
      rw [if_pos htoken]
      exact ⟨List.mem_append_right _ (List.mem_singleton.mpr rfl), htoken⟩
  · cases h

theorem AcceptanceOk.update (h : AcceptanceOk w) {record : Invite} {change : Change}
    (hsteady : Steady (.update record change)) (hcond : undisturbed t (.update record change) w) :
    AcceptanceOk (w.update t record change).2 ∧
      (w.update t record change).2.verifying = w.verifying := by
  unfold AcceptanceWorld.update
  split
  · cases change with
    | other | expire | start | reset => exact ⟨h.of_row rfl rfl rfl (.inr ⟨rfl, rfl⟩), rfl⟩
    | link user created => cases created <;> exact ⟨h.of_row rfl rfl rfl (.inr ⟨rfl, rfl⟩), rfl⟩
    | clear statusChanged unlinked deleted =>
        cases deleted <;> exact ⟨h.of_row rfl rfl rfl (.inr ⟨rfl, rfl⟩), rfl⟩
    | revoke | reissue => exact ⟨h.of_row rfl rfl rfl (.inl hcond), rfl⟩
    | activate => exact hsteady.elim
  · exact ⟨h.release, rfl⟩

theorem steady_exec {o : AcceptanceOp} {c : AcceptanceChoice}
    {r : Except AcceptanceError (AcceptanceRes o)} (hsteady : Steady o) (h : AcceptanceOk w)
    (hcond : undisturbed t o w) (he : acceptanceExec t o c w = some (r, w')) :
    AcceptanceOk w' ∧ ∀ p ∈ w.verifying, p ∈ w'.verifying := by
  cases o with
  | ask | get =>
      cases he
      exact ⟨h, fun _ hp => hp⟩
  | insertUser =>
      cases he
      exact ⟨h.of_row rfl rfl rfl (.inr ⟨rfl, rfl⟩), fun _ hp => hp⟩
  | load token lock verification =>
      simp only [acceptanceExec] at he
      split at he
      · cases he
      · cases he
        exact ⟨h.load token lock verification,
          fun _ hp => verifying_load token lock verification hp⟩
  -- an update of a locked row fails or waits; else it writes its own row
  | update record change =>
      simp only [acceptanceExec] at he
      split at he
      · cases he
      split at he
      · cases he
        exact ⟨h.release, fun _ hp => hp⟩
      · have hw : (w.update t record change).2 = w' := congrArg Prod.snd (Option.some.inj he)
        obtain ⟨hok, hsame⟩ := h.update hsteady hcond
        subst hw
        exact ⟨hok, fun _ hp => hsame ▸ hp⟩
  | commit =>
      simp only [acceptanceExec] at he
      split at he <;> cases he <;> exact ⟨h.release, fun _ hp => hp⟩
  | rollback =>
      cases he
      exact ⟨h.release, fun _ hp => hp⟩
  | close => exact hsteady.elim

/-- The commit of an activation, by a verification that has found the invite
neither revoked nor used. -/
theorem AcceptanceOk.activate (h : AcceptanceOk w) {record seen : Invite} {token user : ℕ}
    (hseen : (t, seen) ∈ w.verifying) (htoken : seen.token = token)
    (hrevoked : seen.revoked = false)
    (hused : seen.used = false) (hcond : ∀ p ∈ w.verifying, p.1 = t) :
    AcceptanceOk (w.update t record (.activate token user)).2 := by
  obtain ⟨hftoken, hfrevoked, hfused⟩ := h.found _ hseen
  have hnone : w.activations = [] := h.used (hfused.trans hused)
  have hended : (w.verifying.filter fun p => p.1 ≠ t) = [] := by
    refine List.filter_eq_nil_iff.mpr fun p hp => ?_
    simpa using hcond p hp
  unfold AcceptanceWorld.update
  dsimp only
  split
  · refine ⟨fun p hp => ?_, fun a ha => ?_, ?_, nofun⟩
    · have hp : p ∈ w.verifying.filter fun p => p.1 ≠ t := hp
      rw [hended] at hp
      cases hp
    · have ha : a ∈ w.activations ++ [⟨user, token, w.row.token = token && !w.row.revoked⟩] := ha
      rw [hnone] at ha
      rw [List.mem_singleton.mp ha]
      simp [hftoken, htoken, hfrevoked, hrevoked]
    · show (w.activations ++ [_]).length ≤ 1
      rw [hnone]
      exact Nat.le_refl 1
  · exact h.release

theorem activate_exec {record seen : Invite} {token user : ℕ} {c : AcceptanceChoice}
    {r : Except AcceptanceError Unit} (h : AcceptanceOk w) (hseen : (t, seen) ∈ w.verifying)
    (htoken : seen.token = token) (hrevoked : seen.revoked = false) (hused : seen.used = false)
    (hcond : ∀ p ∈ w.verifying, p.1 = t)
    (he : acceptanceExec t (.update record (.activate token user)) c w = some (r, w')) :
    AcceptanceOk w' := by
  simp only [acceptanceExec] at he
  split at he
  · cases he
  split at he
  · cases he
    exact h.release
  · have hw : (w.update t record (.activate token user)).2 = w' :=
      congrArg Prod.snd (Option.some.inj he)
    rw [← hw]
    exact h.activate hseen htoken hrevoked hused hcond

/-- The end of a request ends its verification. -/
theorem AcceptanceOk.close (h : AcceptanceOk w) :
    AcceptanceOk { w.release t with verifying := w.verifying.filter fun p => p.1 ≠ t } :=
  ⟨fun p hp => h.found p (List.mem_filter.mp hp).1, h.inForce, h.once, h.used⟩

end Operations

/-! ### The programs -/

section Programs

variable {t : ℕ} {w : AcceptanceWorld}

abbrev AcceptanceSat (t : ℕ) {α : Type} (p : AcceptanceReq α)
    (Q : Except AcceptanceError α → AcceptanceWorld → Prop) (w : AcceptanceWorld) : Prop :=
  Holds acceptanceExec acceptanceRules t p Q w

/-- A program of steady operations keeps a verification under way. -/
theorem sat_steady {α : Type} {p : AcceptanceReq α} (hp : Prog.All Steady p)
    {I : AcceptanceWorld → Prop}
    (hI : ∀ w w', I w → (∀ r, (t, r) ∈ w.verifying → (t, r) ∈ w'.verifying) → I w') (hw : I w) :
    AcceptanceSat t p (fun _ w' => I w') w := by
  refine Holds.of_all (fun w w' h hr => hI w w' h hr) (fun o c r w w' ho h hi hc he => ?_) hp hw
  obtain ⟨hok, hkept⟩ := steady_exec ho hi hc he
  exact ⟨fun u r _ hr => hkept _ hr, hok, hI w w' h fun r hr => hkept _ hr⟩

theorem sat_of_steady {α : Type} {p : AcceptanceReq α} (hp : Prog.All Steady p) :
    AcceptanceSat t p (fun _ _ => True) w :=
  sat_steady hp (fun _ _ h _ => h) trivial

theorem steady_ask (q : Question) : Prog.All Steady (ask q) := .perform trivial

theorem steady_get : Prog.All Steady get := .perform trivial

theorem steady_ask_bind {α : Type} {q : Question} {p p' : AcceptanceReq α}
    (hp : Prog.All Steady p) (hp' : Prog.All Steady p') :
    Prog.All Steady ((ask q).bind fun b => if b then p else p') := by
  refine (steady_ask q).bind fun b => ?_
  cases b
  · exact hp'
  · exact hp

theorem steady_update_bind {α : Type} {invite : Invite} {change : Change} {p : AcceptanceReq α}
    (hchange : Steady (.update invite change)) (hp : Prog.All Steady p) :
    Prog.All Steady ((update invite change).bind fun _ => p) :=
  Prog.All.bind (.perform hchange) fun _ => hp

theorem steady_activeInvite (found : Option Invite) :
    Prog.All Steady (match found with
      | none => deny
      | some invite => (ask .expired).bind fun b =>
          if b then (update invite .expire).bind fun _ => deny
          else if invite.revoked || invite.used || !invite.active then deny
          else pure invite : AcceptanceReq Invite) := by
  cases found with
  | none => trivial
  | some invite =>
      refine steady_ask_bind (steady_update_bind trivial trivial) ?_
      split <;> trivial

theorem steady_activeInviteByToken (token : ℕ) (lock verification : Bool) :
    Prog.All Steady (activeInviteByToken token lock verification) :=
  Prog.All.bind (.perform trivial) steady_activeInvite

theorem steady_clearFailedStart (user : ℕ) : Prog.All Steady (clearFailedStart user) := by
  refine Prog.All.bind (.perform trivial) fun invite => (steady_ask _).bind fun statusPending => ?_
  split
  · exact (steady_ask _).bind fun userReady => .perform trivial
  · exact .perform trivial

theorem steady_failedStart (user : ℕ) (created : Bool) :
    Prog.All Steady (failedStart user created) := by
  refine Prog.All.bind (.perform trivial) fun _ => ?_
  cases created with
  | true => exact (steady_clearFailedStart user).bind fun _ => trivial
  | false => trivial

theorem steady_finishStart (invite : Invite) (user : ℕ) (created : Bool) :
    Prog.All Steady (finishStart invite user created) := by
  have hencrypt : Prog.All Steady (encryptMfaSecret invite user created) :=
    Prog.All.tryCatch (.perform trivial) fun _ => trivial
  refine hencrypt.bind fun _ => steady_get.bind fun invite => (steady_ask _).bind fun _ => ?_
  refine Prog.All.tryCatch ?_ fun _ => steady_failedStart user created
  exact steady_ask_bind (.perform trivial) trivial

theorem steady_startInviteAcceptance (token : ℕ) :
    Prog.All Steady (startInviteAcceptance token) := by
  refine steady_ask_bind trivial ((steady_activeInviteByToken _ _ _).bind fun invite => ?_)
  refine steady_ask_bind ?_ (steady_update_bind trivial trivial)
  split
  · exact steady_ask_bind (steady_finishStart _ _ _) trivial
  · refine steady_ask_bind trivial (Prog.All.bind (.perform trivial) fun user => ?_)
    exact steady_finishStart _ _ _

theorem steady_verifyTotpOutcome : Prog.All Steady verifyTotpOutcome := by
  have hcommit (outcome : Outcome) :
      Prog.All Steady (commit.bind fun _ => (pure outcome : AcceptanceReq Outcome)) :=
    Prog.All.bind (.perform trivial) fun _ => trivial
  refine steady_ask_bind ?_ (hcommit .invalid)
  refine steady_ask_bind (Prog.All.bind (.perform trivial) fun _ => trivial) ?_
  refine steady_ask_bind (steady_ask_bind ?_ (hcommit .valid)) (hcommit .invalid)
  exact Prog.All.bind (.perform trivial) fun _ => trivial

theorem steady_activeInviteById : Prog.All Steady activeInviteById := by
  refine steady_ask_bind (Prog.All.bind (.perform trivial) fun invite => ?_) trivial
  split <;> trivial

theorem steady_resettable (invite : Invite) : Prog.All Steady (resettable invite) := by
  unfold resettable
  split
  · trivial
  · exact steady_ask_bind trivial trivial

/-- A verification of this token is under way, and has found nothing against it. -/
def Verifying (t token : ℕ) (w : AcceptanceWorld) : Prop :=
  ∃ seen, (t, seen) ∈ w.verifying ∧ seen.token = token ∧ seen.revoked = false ∧ seen.used = false

theorem sat_verifying {α : Type} {p : AcceptanceReq α} {token : ℕ} (hp : Prog.All Steady p)
    (hw : Verifying t token w) : AcceptanceSat t p (fun _ w' => Verifying t token w') w := by
  refine sat_steady hp (fun w w' h hkept => ?_) hw
  obtain ⟨seen, hseen, hfound⟩ := h
  exact ⟨seen, hkept seen hseen, hfound⟩

theorem sat_select (token : ℕ) :
    AcceptanceSat t (select token true true)
      (fun r w' => ∀ seen, r = .ok (some seen) → (t, seen) ∈ w'.verifying ∧ seen.token = token)
        w := by
  refine Holds.perform fun w₁ _ hi hc c r w₂ he => ?_
  obtain ⟨hok, hkept⟩ := steady_exec (o := .load token true true) trivial hi hc he
  refine ⟨fun u r _ hr => hkept _ hr, hok, fun seen hseen => ?_⟩
  simp only [acceptanceExec] at he
  split at he
  · cases he
  · cases he
    exact load_found (Except.ok.inj hseen)

theorem sat_activeInviteByToken (token : ℕ) :
    AcceptanceSat t (activeInviteByToken token true true)
      (fun r w' => ∀ invite, r = .ok invite → Verifying t token w') w := by
  refine Holds.bind (sat_select token) (fun found w₁ h₁ => ?_) fun e w₁ _ => nofun
  cases found with
  | none => exact nofun
  | some invite =>
      obtain ⟨hseen, htoken⟩ := h₁ invite rfl
      refine Holds.bind (sat_steady (I := fun w' => (t, invite) ∈ w'.verifying)
        (steady_ask .expired)
        (fun _ _ h hkept => hkept _ h) hseen) (fun expired w₂ h₂ => ?_) fun e w₂ _ => nofun
      cases expired with
      | true =>
          have hupdate : Prog.All Steady (update invite .expire) := .perform trivial
          exact Holds.bind (sat_of_steady hupdate) (fun _ _ _ => nofun) fun _ _ _ => nofun
      | false =>
          simp only [Bool.false_eq_true, if_false]
          split
          · exact nofun
          · next hgood =>
              simp only [Bool.or_eq_true, Bool.not_eq_true', not_or, Bool.not_eq_true] at hgood
              exact fun _ _ => ⟨invite, h₂, htoken, hgood.1.1, hgood.1.2⟩

theorem sat_activateStaff {token : ℕ} (user : ℕ) (hw : Verifying t token w) :
    AcceptanceSat t (activateStaff token user) (fun _ _ => True) w := by
  refine Holds.bind (sat_verifying steady_get hw) (fun invite w₁ h₁ => ?_) fun _ _ _ => trivial
  refine Holds.bind (sat_verifying (steady_ask .workplaceCodeRight) h₁) (fun right w₂ h₂ => ?_)
    fun _ _ _ => trivial
  have hfailure : AcceptanceSat t (recordVerifyFailure invite) (fun _ _ => True) w₂ :=
    sat_of_steady (steady_update_bind trivial trivial)
  cases right with
  | false => exact hfailure
  | true =>
      simp only [if_true]
      split
      · refine Holds.perform fun w₃ hr hi hc c r w₄ he => ?_
        obtain ⟨seen, hseen, htoken, hrevoked, hused⟩ := h₂
        refine ⟨fun u r hne hr => absurd (hc _ hr) hne, ?_, trivial⟩
        exact activate_exec hi (hr _ hseen) htoken hrevoked hused hc he
      · exact hfailure

theorem sat_checkCodes {token : ℕ} (user : ℕ) (invite : Invite) (hw : Verifying t token w) :
    AcceptanceSat t (checkCodes token user invite) (fun _ _ => True) w := by
  refine Holds.bind (sat_verifying (steady_ask .sixDigits) hw) (fun sixDigits w₁ h₁ => ?_)
    fun _ _ _ => trivial
  cases sixDigits with
  | false => exact sat_of_steady (steady_update_bind trivial trivial)
  | true =>
      refine Holds.bind (sat_verifying steady_verifyTotpOutcome h₁) (fun outcome w₂ h₂ => ?_)
        fun _ _ _ => trivial
      cases outcome with
      | valid => exact sat_activateStaff user h₂
      | replay => trivial
      | invalid =>
          exact sat_of_steady (steady_get.bind fun invite => steady_update_bind trivial trivial)

theorem sat_verifyInviteAcceptance (token : ℕ) :
    AcceptanceSat t (verifyInviteAcceptance token) (fun _ _ => True) w := by
  refine Holds.bind (sat_of_steady (steady_ask .refused)) (fun refused w₁ _ => ?_)
    fun _ _ _ => trivial
  cases refused with
  | true => trivial
  | false =>
      refine Holds.bind (sat_activeInviteByToken token) (fun invite w₂ h₂ => ?_)
        fun _ _ _ => trivial
      refine Holds.bind (sat_verifying (steady_ask .admitted) (h₂ invite rfl))
        (fun admitted w₃ h₃ => ?_) fun _ _ _ => trivial
      cases admitted with
      | false => trivial
      | true =>
          simp only [if_true, verifyPendingSetup]
          split
          · trivial
          · next user _ =>
              refine Holds.bind (sat_verifying (steady_ask .userReady) h₃)
                (fun ready w₄ h₄ => ?_) fun _ _ _ => trivial
              cases ready with
              | false => trivial
              | true =>
                  refine Holds.bind (sat_verifying (steady_ask .setupActive) h₄)
                    (fun setupActive w₅ h₅ => ?_) fun _ _ _ => trivial
                  cases setupActive with
                  | false => exact sat_of_steady (steady_update_bind trivial trivial)
                  | true => exact sat_checkCodes user invite h₅

theorem sat_handler (request : AcceptanceRequest) :
    AcceptanceSat t request.handler (fun _ _ => True) w := by
  cases request with
  | info token =>
      exact sat_of_steady ((steady_activeInviteByToken token false false).bind fun _ => trivial)
  | start token => exact sat_of_steady (steady_startInviteAcceptance token)
  | verify token => exact sat_verifyInviteAcceptance token
  | revoke => exact sat_of_steady (steady_activeInviteById.bind fun _ => .perform trivial)
  | undelivered =>
      exact sat_of_steady (steady_get.bind fun _ => steady_update_bind trivial trivial)
  | reset =>
      refine sat_of_steady (steady_activeInviteById.bind fun invite => ?_)
      refine (steady_resettable invite).bind fun _ => (steady_ask .statusPending).bind fun _ => ?_
      exact .perform trivial
  | reissue =>
      refine sat_of_steady (steady_activeInviteById.bind fun invite => ?_)
      refine (steady_resettable invite).bind fun _ => (steady_ask .statusPending).bind fun _ => ?_
      exact steady_ask_bind (.perform trivial) (Prog.All.bind (.perform trivial) fun _ => trivial)

theorem sat_close : AcceptanceSat t close (fun _ _ => True) w := by
  refine Holds.perform fun w₁ _ hi _ c r w₂ he => ?_
  cases he
  refine ⟨fun u r hne hr => List.mem_filter.mpr ⟨hr, ?_⟩, hi.close, trivial⟩
  simpa using hne

theorem sat_serve (request : AcceptanceRequest) :
    AcceptanceSat t request.serve (fun _ _ => True) w := by
  refine Holds.bind (Holds.tryCatch (Q := fun _ _ => True) (sat_handler request)
    (fun _ _ _ => trivial) fun e w' _ => ?_) (fun _ w' _ => sat_close) fun _ _ _ => trivial
  exact Holds.bind sat_close (fun _ _ _ => trivial) fun _ _ _ => trivial

end Programs

/-! ### Runs -/

theorem allHold_acceptanceStart (resent : Bool) (requests : ℕ → AcceptanceRequest) :
    AllHold acceptanceExec acceptanceRules (acceptanceStart resent requests) := by
  refine ⟨⟨nofun, nofun, Nat.zero_le 1, fun _ => rfl⟩, fun t => sat_serve (requests t)⟩

/-- In every run in which the invite is revoked or replaced only while no
verification is under way, and accounts are activated one at a time, an account
is activated only through the token of the invite while that is not revoked, and
at most once. -/
theorem dead_invite_activates_nobody {resent : Bool} {requests : ℕ → AcceptanceRequest}
    {x : AcceptanceConf}
    (hx : Reach acceptanceExec undisturbed (acceptanceStart resent requests) x) :
    (∀ a ∈ x.world.activations, a.inForce = true) ∧ x.world.activations.length ≤ 1 := by
  have hok : AcceptanceOk x.world :=
    (reach_holds acceptanceRules_sound (allHold_acceptanceStart resent requests) hx).1
  exact ⟨hok.inForce, hok.once⟩

instance (t : ℕ) (o : AcceptanceOp) (w : AcceptanceWorld) : Decidable (undisturbed t o w) :=
  match o with
  | .update _ .revoke => inferInstanceAs (Decidable (w.verifying = []))
  | .update _ (.reissue _) => inferInstanceAs (Decidable (w.verifying = []))
  | .update _ (.activate _ _) => inferInstanceAs (Decidable (∀ p ∈ w.verifying, p.1 = t))
  | .update _ .other => inferInstanceAs (Decidable True)
  | .update _ .expire => inferInstanceAs (Decidable True)
  | .update _ (.link _ _) => inferInstanceAs (Decidable True)
  | .update _ (.start _ _) => inferInstanceAs (Decidable True)
  | .update _ (.clear _ _ _) => inferInstanceAs (Decidable True)
  | .update _ (.reset _) => inferInstanceAs (Decidable True)
  | .ask _ => inferInstanceAs (Decidable True)
  | .load _ _ _ => inferInstanceAs (Decidable True)
  | .get => inferInstanceAs (Decidable True)
  | .insertUser => inferInstanceAs (Decidable True)
  | .commit => inferInstanceAs (Decidable True)
  | .rollback => inferInstanceAs (Decidable True)
  | .close => inferInstanceAs (Decidable True)

/-- A start, a revocation and verifications of the first token. -/
def sampleAcceptance (t : ℕ) : AcceptanceRequest :=
  if t = 0 then .start 0 else if t = 1 then .revoke else .verify 0

/-- Thread `t` performs its next operations with these answers. -/
def answers (t : ℕ) (yes : List Bool) : List (ℕ × AcceptanceChoice) :=
  yes.map fun b => (t, ⟨b, false⟩)

/-- The acceptance is started. -/
def starts : List (ℕ × AcceptanceChoice) :=
  answers 0 [false, true, false, true, false, true, true, true, false, true, true, true]

/-- Both codes are right, up to the activation. -/
def verifies (t : ℕ) : List (ℕ × AcceptanceChoice) :=
  answers t [false, true, false, true, true, true, true, true, false, true, false, true, true, true]

/-- The account is activated, and a revocation comes too late. -/
theorem dead_invite_activates_nobody_accepted :
    ∃ x, Reach acceptanceExec undisturbed (acceptanceStart false sampleAcceptance) x ∧
      x.world.activations = [⟨1, 0, true⟩] ∧
      ((∀ a ∈ x.world.activations, a.inForce = true) ∧ x.world.activations.length ≤ 1) := by
  have hrun : (runChecked acceptanceExec (fun t o w => decide (undisturbed t o w))
      (acceptanceStart false sampleAcceptance)
      (starts ++ verifies 2 ++ answers 2 [true, true] ++ answers 1 [true, true, true])).any
      (fun x => x.world.activations = [⟨1, 0, true⟩]) = true := by decide +kernel
  obtain ⟨x, hx, hend⟩ := (Option.any_eq_true ..).mp hrun
  have hreach := reach_of_runChecked acceptanceExec (fun _ _ _ => of_decide_eq_true) .refl hx
  exact ⟨x, hreach, of_decide_eq_true hend, dead_invite_activates_nobody hreach⟩

/-- The invite is revoked between the check of the authenticator code and the
activation; and two verifications activate the account twice. -/
theorem revoked_invite_activates :
    (∃ x, Reach acceptanceExec (fun _ _ _ => True) (acceptanceStart false sampleAcceptance) x ∧
      ¬∀ a ∈ x.world.activations, a.inForce = true) ∧
    (∃ x, Reach acceptanceExec (fun _ _ _ => True) (acceptanceStart false sampleAcceptance) x ∧
      ¬x.world.activations.length ≤ 1) := by
  have hrevoked : (run acceptanceExec (acceptanceStart false sampleAcceptance)
      (starts ++ verifies 2 ++ answers 1 [true, true, true, true] ++ answers 2 [true])).any
      (fun x => ¬∀ a ∈ x.world.activations, a.inForce = true) = true := by decide +kernel
  have htwice : (run acceptanceExec (acceptanceStart false sampleAcceptance)
      (starts ++ verifies 2 ++ verifies 3 ++ answers 2 [true] ++ answers 3 [true])).any
      (fun x => ¬x.world.activations.length ≤ 1) = true := by decide +kernel
  obtain ⟨x, hx, hdead⟩ := (Option.any_eq_true ..).mp hrevoked
  obtain ⟨y, hy, hmany⟩ := (Option.any_eq_true ..).mp htwice
  exact ⟨⟨x, reach_of_run acceptanceExec .refl hx, of_decide_eq_true hdead⟩,
    ⟨y, reach_of_run acceptanceExec .refl hy, of_decide_eq_true hmany⟩⟩

end SitBank.Admin.Acceptance
