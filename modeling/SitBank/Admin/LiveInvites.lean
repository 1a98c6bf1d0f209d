import Mathlib.Logic.Relation
import Mathlib.Data.List.Nodup
import SitBank.Admin.StaffInvites

/-!
Live staff invites.

A new invite is refused while another one is live for its address, but an invite
goes out of life silently, by the clock, and a reissue brings it back without
looking at the others. As long as no reissue does that beside a live invite of the
same address, each address has at most one live invite.
-/

namespace SitBank.Admin

open SitBank.Interaction SitBank.Audit

/-- The live invites of an address. -/
def liveInvites (cfg : InviteConfig) (email : String) (w : InviteWorld) : List StaffInvite :=
  w.invites.filter fun i =>
    i.live w.clock && cfg.casefold i.workplaceEmailNormalized = cfg.casefold email

/-- A reissue that gets through to an invite past its expiry, while another invite
of the address is live. -/
def revivesBesideLive (cfg : InviteConfig) (w : InviteWorld) : InviteOp → Bool
  | .reissueStaffInvite inputs _ inviteId =>
      inputs.isRootAdmin && inputs.stepUpAccepted && !inputs.emailFails &&
        (w.invites.find? fun i => i.id = inviteId && i.active).any fun invite =>
          invite.expiresAt ≤ w.clock && activeInviteExists cfg invite.workplaceEmailNormalized w
  | _ => false

/-- The invariant: the invites are numbered, an open one is neither revoked nor
used, and live ones differ in their address. -/
structure OneLive (cfg : InviteConfig) (w : InviteWorld) : Prop where
  ids : w.invites.Pairwise (·.id < ·.id)
  below : ∀ i ∈ w.invites, i.id < w.nextInviteId
  unspent : ∀ i ∈ w.invites, i.active → i.revokedAt = none ∧ i.usedAt = none
  unique : ∀ i ∈ w.invites, ∀ j ∈ w.invites, i.live w.clock → j.live w.clock →
    cfg.casefold i.workplaceEmailNormalized = cfg.casefold j.workplaceEmailNormalized → i.id = j.id

/-- A row of the table has this id and address, and lives as long. -/
def Stands (s : InviteWorld) (invite : StaffInvite) : Prop :=
  ∃ i ∈ s.invites, i.id = invite.id ∧
    i.workplaceEmailNormalized = invite.workplaceEmailNormalized ∧ i.active = invite.active ∧
    i.expiresAt = invite.expiresAt ∧ i.revokedAt = invite.revokedAt ∧ i.usedAt = invite.usedAt

/-! ### Rows -/

section Rows

variable {cfg : InviteConfig} {w s : InviteWorld}

theorem OneLive.writes : WriteStable cfg (OneLive cfg) :=
  fun _ _ h => ⟨h.ids, h.below, h.unspent, h.unique⟩

/-- The invariant reads the invites, their sequence and the clock. -/
theorem OneLive.congr (h : OneLive cfg w) (hinvites : s.invites = w.invites)
    (hnext : s.nextInviteId = w.nextInviteId) (hclock : s.clock = w.clock) : OneLive cfg s where
  ids := hinvites ▸ h.ids
  below := hinvites ▸ hnext ▸ h.below
  unspent := hinvites ▸ h.unspent
  unique := hinvites ▸ hclock ▸ h.unique

theorem Stands.of_mem {invite : StaffInvite} (h : invite ∈ s.invites) : Stands s invite :=
  ⟨invite, h, rfl, rfl, rfl, rfl, rfl, rfl⟩

theorem Stands.live {invite : StaffInvite} {i : StaffInvite} {clock : ℕ}
    (hactive : i.active = invite.active) (hexpires : i.expiresAt = invite.expiresAt)
    (hrevoked : i.revokedAt = invite.revokedAt) (hused : i.usedAt = invite.usedAt) :
    i.live clock = invite.live clock := by
  unfold StaffInvite.live
  rw [hactive, hexpires, hrevoked, hused]

/-- Time only ends lives. -/
theorem StaffInvite.live_of_later {clock clock' : ℕ} (h : clock ≤ clock') {i : StaffInvite}
    (hi : i.live clock' = true) : i.live clock = true := by
  unfold StaffInvite.live at *
  simp only [Bool.and_eq_true, decide_eq_true_eq] at *
  exact ⟨hi.1, by omega⟩

theorem OneLive.wait (h : OneLive cfg w) (seconds : ℕ) :
    OneLive cfg { w with clock := w.clock + seconds } where
  ids := h.ids
  below := h.below
  unspent := h.unspent
  unique i hi j hj hlive hlive' hemail := by
    have hle : w.clock ≤ w.clock + seconds := Nat.le_add_right _ _
    exact h.unique i hi j hj (StaffInvite.live_of_later hle hlive)
      (StaffInvite.live_of_later hle hlive') hemail

/-- Rows change, but neither their ids nor their lives. -/
theorem OneLive.map (h : OneLive cfg s) (f : StaffInvite → StaffInvite)
    (hid : ∀ i, (f i).id = i.id)
    (hunspent : ∀ i ∈ s.invites, (f i).active → (f i).revokedAt = none ∧ (f i).usedAt = none)
    (hunique : ∀ i ∈ s.invites, ∀ j ∈ s.invites, (f i).live s.clock → (f j).live s.clock →
      cfg.casefold (f i).workplaceEmailNormalized = cfg.casefold (f j).workplaceEmailNormalized →
      i.id = j.id) :
    OneLive cfg { s with invites := s.invites.map f } where
  ids := by
    refine List.pairwise_map.mpr (h.ids.imp fun {i j} hlt => ?_)
    rwa [hid, hid]
  below i hi := by
    obtain ⟨i₀, hi₀, rfl⟩ := List.mem_map.mp hi
    rw [hid]
    exact h.below i₀ hi₀
  unspent i hi := by
    obtain ⟨i₀, hi₀, rfl⟩ := List.mem_map.mp hi
    exact hunspent i₀ hi₀
  unique i hi j hj hlive hlive' hemail := by
    obtain ⟨i₀, hi₀, rfl⟩ := List.mem_map.mp hi
    obtain ⟨j₀, hj₀, rfl⟩ := List.mem_map.mp hj
    rw [hid, hid]
    exact hunique i₀ hi₀ j₀ hj₀ hlive hlive' hemail

/-- Replacing the row of an invite that no other live one competes with. -/
theorem OneLive.replace (h : OneLive cfg s) {invite : StaffInvite}
    (hunspent : invite.active → invite.revokedAt = none ∧ invite.usedAt = none)
    (hclash : invite.live s.clock → ∀ j ∈ s.invites, j.live s.clock →
      cfg.casefold j.workplaceEmailNormalized = cfg.casefold invite.workplaceEmailNormalized →
      j.id = invite.id) :
    Ends (setInvite invite) (fun _ s' => OneLive cfg s') s := by
  refine h.map _ (fun i => ?_) (fun i hi => ?_) fun i hi j hj hlive hlive' hemail => ?_
  · split
    · next hid => exact hid.symm
    · rfl
  · split
    · exact hunspent
    · exact h.unspent i hi
  · -- two rows that both became the invite have its id
    split at hlive <;> split at hlive'
    · next hid hid' => exact hid.trans hid'.symm
    · next hid hid' =>
        rw [if_pos hid, if_neg hid'] at hemail
        exact absurd (hclash hlive j hj hlive' hemail.symm) hid'
    · next hid hid' =>
        rw [if_neg hid, if_pos hid'] at hemail
        exact absurd (hclash hlive' i hi hlive hemail) hid
    · next hid hid' =>
        rw [if_neg hid, if_neg hid'] at hemail
        exact h.unique i hi j hj hlive hlive' hemail

/-- Replacing a row by one that lives no longer. -/
theorem OneLive.age (h : OneLive cfg s) {invite invite' : StaffInvite} (hs : Stands s invite)
    (hid : invite'.id = invite.id)
    (hemail : invite'.workplaceEmailNormalized = invite.workplaceEmailNormalized)
    (hunspent : invite'.active → invite'.revokedAt = none ∧ invite'.usedAt = none)
    (hlive : invite'.live s.clock → invite.live s.clock) :
    Ends (setInvite invite') (fun _ s' => OneLive cfg s') s := by
  refine h.replace hunspent fun hlive' j hj hj' hsame => ?_
  obtain ⟨i, hi, hiid, hiemail, hactive, hexpires, hrevoked, hused⟩ := hs
  have hi' : i.live s.clock = true :=
    (Stands.live hactive hexpires hrevoked hused).trans (hlive hlive')
  rw [hemail, ← hiemail] at hsame
  rw [h.unique j hj i hi hj' hi' hsame, hiid, hid]

theorem ends_setUser_oneLive (h : OneLive cfg s) (user : StaffUser) :
    Ends (setUser user) (fun _ s' => OneLive cfg s' ∧ s'.invites = s.invites ∧
      s'.clock = s.clock) s :=
  ⟨h.congr rfl rfl rfl, rfl, rfl⟩

/-- Rows that at most let go of their setup user. -/
theorem OneLive.forget (h : OneLive cfg s) (p : StaffInvite → Prop) [DecidablePred p] :
    OneLive cfg { s with
      invites := s.invites.map fun i => if p i then { i with setupUserId := none } else i } := by
  refine h.map _ (fun i => by split <;> rfl) (fun i hi => ?_) fun i hi j hj => ?_
  · have hopen := h.unspent i hi
    split <;> exact hopen
  · have hsame := h.unique i hi j hj
    split <;> split <;> exact hsame

theorem stands_of_forget {p : StaffInvite → Prop} [DecidablePred p] {i : StaffInvite}
    (hi : i ∈ s.invites.map fun i => if p i then { i with setupUserId := none } else i) :
    Stands s i := by
  obtain ⟨i₀, hi₀, rfl⟩ := List.mem_map.mp hi
  refine ⟨i₀, hi₀, ?_⟩
  split <;> exact ⟨rfl, rfl, rfl, rfl, rfl, rfl⟩

theorem OneLive.deleteUser (h : OneLive cfg s) (userId : ℤ) : OneLive cfg (deleteUser userId s) :=
  (h.forget (·.setupUserId = some userId)).congr rfl rfl rfl

theorem Stands.deleteUser {invite : StaffInvite} (h : Stands s invite) (userId : ℤ) :
    Stands (deleteUser userId s) invite := by
  obtain ⟨i, hi, hsame⟩ := h
  refine ⟨_, List.mem_map_of_mem hi, ?_⟩
  split <;> exact hsame

/-- `_reject_active_invite` finds every live invite of the address. -/
theorem activeInviteExists_eq_false {email : String} (h : activeInviteExists cfg email s = false)
    {j : StaffInvite} (hj : j ∈ s.invites) (hlive : j.live s.clock) :
    cfg.casefold j.workplaceEmailNormalized ≠ cfg.casefold email := by
  intro hemail
  have hany : activeInviteExists cfg email s = true := by
    refine List.any_eq_true.mpr ⟨j, hj, ?_⟩
    unfold StaffInvite.live at hlive
    simpa [hemail] using hlive
  rw [hany] at h
  cases h

/-- The new row of an address that has no live invite. -/
theorem OneLive.insert (h : OneLive cfg s) {email : String}
    (hnone : activeInviteExists cfg email s = false) (inputs : InviteInputs) (role : StaffRole)
    (setupUserId : Option ℤ) :
    OneLive cfg { s with
      invites := s.invites ++ [insertInvite cfg inputs email role setupUserId s]
      nextInviteId := s.nextInviteId + 1 } where
  ids := by
    refine List.pairwise_append.mpr ⟨h.ids, List.pairwise_singleton _ _, fun i hi j hj => ?_⟩
    rw [List.mem_singleton.mp hj]
    exact h.below i hi
  below i hi := by
    rcases List.mem_append.mp hi with hi | hi
    · exact Nat.lt_succ_of_lt (h.below i hi)
    · rw [List.mem_singleton.mp hi]
      exact Nat.lt_succ_self _
  unspent i hi hactive := by
    rcases List.mem_append.mp hi with hi | hi
    · exact h.unspent i hi hactive
    · rw [List.mem_singleton.mp hi]
      exact ⟨rfl, rfl⟩
  unique i hi j hj hlive hlive' hemail := by
    rcases List.mem_append.mp hi with hi | hi <;> rcases List.mem_append.mp hj with hj | hj
    · exact h.unique i hi j hj hlive hlive' hemail
    · rw [List.mem_singleton.mp hj] at hemail
      exact absurd hemail (activeInviteExists_eq_false hnone hi hlive)
    · rw [List.mem_singleton.mp hi] at hemail
      exact absurd hemail.symm (activeInviteExists_eq_false hnone hj hlive')
    · rw [List.mem_singleton.mp hi, List.mem_singleton.mp hj]

theorem OneLive.eq_of_id (h : OneLive cfg s) {i j : StaffInvite} (hi : i ∈ s.invites)
    (hj : j ∈ s.invites) (hid : i.id = j.id) : i = j := by
  have hnodup : (s.invites.map (·.id)).Nodup :=
    List.pairwise_map.mpr (h.ids.imp fun hlt => Nat.ne_of_lt hlt)
  exact List.inj_on_of_nodup_map hnodup hi hj hid

theorem OneLive.unspent_of_stands (h : OneLive cfg s) {invite : StaffInvite}
    (hs : Stands s invite) (hactive : invite.active) :
    invite.revokedAt = none ∧ invite.usedAt = none := by
  obtain ⟨i, hi, -, -, hiactive, -, hrevoked, hused⟩ := hs
  rw [← hrevoked, ← hused]
  exact h.unspent i hi (hiactive.trans hactive)

/-- Letting go of the setup user touches no life. -/
theorem OneLive.unlinkSetupUser (h : OneLive cfg s) (invite : StaffInvite) (userId : ℤ) :
    OneLive cfg (unlinkSetupUser invite userId s) ∧
      ∀ i ∈ (unlinkSetupUser invite userId s).invites, Stands s i := by
  unfold Admin.unlinkSetupUser
  split
  · split
    · exact ⟨h.deleteUser userId, fun i hi => stands_of_forget hi⟩
    · exact ⟨h.forget (·.id = invite.id), fun i hi => stands_of_forget hi⟩
  · exact ⟨h, fun i hi => .of_mem hi⟩

/-- Open rows are opened again. -/
theorem OneLive.reopen (h : OneLive cfg s) {inviteId : ℕ}
    (hopen : ∀ i ∈ s.invites, i.id = inviteId → i.active) (f : StaffInvite → StaffInvite)
    (hid : ∀ i, (f i).id = i.id)
    (hmail : ∀ i, (f i).workplaceEmailNormalized = i.workplaceEmailNormalized)
    (hends : ∀ i, (f i).revokedAt = i.revokedAt ∧ (f i).usedAt = i.usedAt ∧
      (f i).expiresAt = i.expiresAt) :
    OneLive cfg { s with
      invites := s.invites.map fun i => if i.id = inviteId then f i else i } := by
  have hlives : ∀ i ∈ s.invites,
      (if i.id = inviteId then f i else i).live s.clock = true → i.live s.clock = true := by
    intro i hi hlive
    split at hlive
    · next hsame =>
        obtain ⟨hrevoked, hused, hexpires⟩ := hends i
        unfold StaffInvite.live at hlive ⊢
        rw [hrevoked, hused, hexpires] at hlive
        simp only [Bool.and_eq_true] at hlive ⊢
        exact ⟨⟨⟨hopen i hi hsame, hlive.1.1.2⟩, hlive.1.2⟩, hlive.2⟩
    · exact hlive
  refine h.map _ (fun i => ?_) (fun i hi hactive => ?_) fun i hi j hj hlive hlive' hemail => ?_
  · split
    · exact hid i
    · rfl
  · by_cases hsame : i.id = inviteId
    · rw [if_pos hsame, (hends i).1, (hends i).2.1]
      exact h.unspent i hi (hopen i hi hsame)
    · rw [if_neg hsame] at hactive ⊢
      exact h.unspent i hi hactive
  · have hmails : ∀ k : StaffInvite, (if k.id = inviteId then f k else k).workplaceEmailNormalized =
        k.workplaceEmailNormalized := fun k => by
      split
      · exact hmail k
      · rfl
    rw [hmails, hmails] at hemail
    exact h.unique i hi j hj (hlives i hi hlive) (hlives j hj hlive') hemail

/-- Every row of an open invite's id is open. -/
theorem OneLive.open_of_stands (h : OneLive cfg s) {invite : StaffInvite} (hs : Stands s invite)
    (hactive : invite.active) : ∀ i ∈ s.invites, i.id = invite.id → i.active := by
  intro i hi hid
  obtain ⟨j, hj, hjid, -, hjactive, -⟩ := hs
  rw [h.eq_of_id hi hj (hid.trans hjid.symm), hjactive]
  exact hactive

/-- The invite that is opened again was open before the request. -/
theorem OneLive.clearFailedInviteAcceptanceStart (h : OneLive cfg s) {invite : StaffInvite}
    (hs : Stands s invite) (hactive : invite.active) (created : Option ℤ) :
    OneLive cfg (clearFailedInviteAcceptanceStart invite.id created s) := by
  unfold Admin.clearFailedInviteAcceptanceStart
  split
  · next userId found _ =>
      obtain ⟨hunlinked, hstands⟩ := h.unlinkSetupUser found userId
      refine hunlinked.reopen (fun i hi hid => ?_) _ (fun _ => rfl) (fun _ => rfl)
        fun _ => ⟨rfl, rfl, rfl⟩
      obtain ⟨i₀, hi₀, hid₀, -, hactive₀, -⟩ := hstands i hi
      rw [← hactive₀]
      exact h.open_of_stands hs hactive i₀ hi₀ (hid₀.trans hid)
  · exact h

end Rows

/-! ### Requests -/

section Requests

variable {cfg : InviteConfig} {w s : InviteWorld}

/-- A required event leaves the rows, or what it fails from. -/
theorem ends_required_oneLive {committed : InviteWorld} (h : OneLive cfg s)
    (hc : OneLive cfg committed) (inputs : InviteInputs) (eventType outcome : String)
    (userId : Option ℤ) :
    Ends (auditEventRequired cfg inputs committed eventType outcome userId)
      (fun r s' => match r with
      | .ok _ => OneLive cfg s' ∧ s'.invites = s.invites ∧ s'.clock = s.clock
      | .error _ => OneLive cfg s') s := by
  refine (auditEventRequired_spec inputs committed eventType outcome userId).mono fun r s' hr => ?_
  cases r with
  | ok _ =>
      rw [hr.2]
      exact ⟨OneLive.writes _ _ h, rfl, rfl⟩
  | error _ =>
      show OneLive cfg s'
      rw [hr.2]
      split
      · exact h
      · exact hc

theorem oneLive_deliverFreshInviteEmail (h : OneLive cfg s) (inputs : InviteInputs) (actor : ℤ)
    {invite : StaffInvite} (hs : Stands s invite) :
    Ends (deliverFreshInviteEmail cfg inputs actor invite) (fun _ s' => OneLive cfg s') s := by
  refine Ends.get_bind ?_
  split
  · refine Ends.bind (h.age hs rfl rfl (fun hactive => nomatch hactive) fun hlive => nomatch hlive)
      (fun _ s' hs' => ?_) fun _ _ h => h
    exact (ends_auditEvent OneLive.writes hs' h inputs _ _ _).bind (fun _ _ h => h) fun _ _ h => h
  · refine Ends.bind (h.age hs rfl rfl (h.unspent_of_stands hs) fun hlive => hlive)
      (fun _ s' hs' => ?_) fun _ _ h => h
    exact ends_auditEvent OneLive.writes hs' h inputs _ _ _

theorem oneLive_mintInvite (h : OneLive cfg s) (inputs : InviteInputs) (actor : ℤ) {email : String}
    (role : StaffRole) (setupUserId : Option ℤ) (hnone : activeInviteExists cfg email s = false)
    (eventType : String) :
    Ends (mintInvite cfg inputs actor email role setupUserId eventType)
      (fun _ s' => OneLive cfg s') s := by
  refine Ends.get_bind (Ends.modify_bind ?_)
  have hinserted := h.insert hnone inputs role setupUserId
  refine (ends_required_oneLive hinserted h inputs _ _ _).bind ?_ fun _ _ h => h
  rintro _ s' ⟨hs', hinvites, -⟩
  refine oneLive_deliverFreshInviteEmail hs' inputs actor (.of_mem ?_)
  rw [hinvites]
  exact List.mem_append_right _ (List.mem_singleton_self _)

theorem oneLive_createStaffInvite (h : OneLive cfg w) (inputs : InviteInputs) (actor : ℤ)
    (workplaceEmail : String) (role : StaffRole) :
    Ends (createStaffInvite cfg inputs actor workplaceEmail role)
      (fun _ s' => OneLive cfg s') w := by
  refine (ends_refuseUnless OneLive.writes h inputs _ _ _ _ _).bind ?_ fun _ _ h => h
  rintro _ _ ⟨rfl, -⟩
  refine (ends_refuseUnless OneLive.writes h inputs _ _ _ _ _).bind ?_ fun _ _ h => h
  rintro _ _ ⟨rfl, -⟩
  refine (ends_requireRootStepUp OneLive.writes h inputs actor _).bind ?_ fun _ _ h => h
  rintro _ w ⟨rfl, -⟩
  refine Ends.get_bind (Ends.raiseIf_bind (fun _ => h) fun hfree => ?_)
  exact oneLive_mintInvite h inputs actor role none (Bool.or_eq_false_iff.mp hfree).2 _

theorem oneLive_resendStaffSetupInvite (h : OneLive cfg w) (inputs : InviteInputs)
    (actor targetUserId : ℤ) :
    Ends (resendStaffSetupInvite cfg inputs actor targetUserId) (fun _ s' => OneLive cfg s') w := by
  refine (ends_refuseUnless OneLive.writes h inputs _ _ _ _ _).bind ?_ fun _ _ h => h
  rintro _ w ⟨rfl, -⟩
  refine Ends.get_bind ?_
  dsimp only
  split
  · exact (ends_auditEvent OneLive.writes h h inputs _ _ _).bind (fun _ _ h => h) fun _ _ h => h
  · next user huser =>
      refine (ends_refuseUnless OneLive.writes h inputs _ _ _ _ _).bind ?_ fun _ _ h => h
      rintro _ _ ⟨rfl, -⟩
      refine (ends_requireRootStepUp OneLive.writes h inputs actor _).bind ?_ fun _ _ h => h
      rintro _ w ⟨rfl, -⟩
      refine Ends.get_bind (Ends.raiseIf_bind (fun _ => h) fun hfree => ?_)
      exact oneLive_mintInvite h inputs actor _ _ hfree _

/-- The invite of a root administrator's action. -/
theorem open_of_find {inviteId : ℕ} {invite : StaffInvite}
    (hfind : w.invites.find? (fun i => i.id = inviteId && i.active) = some invite) :
    invite ∈ w.invites ∧ invite.active = true := by
  have hp := List.find?_some hfind
  exact ⟨List.mem_of_find?_eq_some hfind, (Bool.and_eq_true_iff.mp hp).2⟩

theorem oneLive_revokeStaffInvite (h : OneLive cfg w) (inputs : InviteInputs) (actor : ℤ)
    (inviteId : ℕ) :
    Ends (revokeStaffInvite cfg inputs actor inviteId) (fun _ s' => OneLive cfg s') w := by
  refine (ends_requireRootStepUp OneLive.writes h inputs actor _).bind ?_ fun _ _ h => h
  rintro _ _ ⟨rfl, -⟩
  refine (ends_activeInvite h inviteId).bind ?_ fun _ _ h => h
  rintro invite _ ⟨rfl, hfind⟩
  refine Ends.get_bind (Ends.bind (h.age (.of_mem (open_of_find hfind).1) rfl rfl
    (fun hactive => nomatch hactive) fun hlive => nomatch hlive) (fun _ s' hs' => ?_)
      fun _ _ h => h)
  exact ends_auditEventRequired OneLive.writes hs' h inputs _ _ _

/-- A reset takes the setup user and the counters, not the life. -/
theorem oneLive_resetActiveInviteAcceptance (h : OneLive cfg s) (inputs : InviteInputs) (actor : ℤ)
    {invite : StaffInvite} (hs : Stands s invite) (eventType : String) :
    Ends (resetActiveInviteAcceptance cfg inputs actor invite eventType) (fun r s' => match r with
      | .ok reset => OneLive cfg s' ∧ Stands s' reset ∧ reset.active = invite.active ∧
          reset.id = invite.id ∧
          reset.workplaceEmailNormalized = invite.workplaceEmailNormalized ∧
          (∀ i ∈ s'.invites, Stands s i) ∧ s'.clock = s.clock
      | .error _ => OneLive cfg s') s := by
  refine Ends.get_bind ?_
  split
  · exact ⟨h, hs, rfl, rfl, rfl, fun i hi => .of_mem hi, rfl⟩
  · next user _ =>
      refine (ends_refuseUnless OneLive.writes h inputs _ _ _ _ _).bind ?_ fun _ _ h => h
      rintro _ _ ⟨rfl, -⟩
      exact ⟨h.deleteUser user.id, hs.deleteUser user.id, rfl, rfl, rfl,
        fun i hi => stands_of_forget hi, rfl⟩

theorem oneLive_resetStaffInviteAcceptance (h : OneLive cfg w) (inputs : InviteInputs) (actor : ℤ)
    (inviteId : ℕ) :
    Ends (resetStaffInviteAcceptance cfg inputs actor inviteId) (fun _ s' => OneLive cfg s') w := by
  refine (ends_requireRootStepUp OneLive.writes h inputs actor _).bind ?_ fun _ _ h => h
  rintro _ _ ⟨rfl, -⟩
  refine (ends_activeInvite h inviteId).bind ?_ fun _ _ h => h
  rintro invite w ⟨rfl, hfind⟩
  obtain ⟨hi, hactive⟩ := open_of_find hfind
  refine Ends.get_bind ((oneLive_resetActiveInviteAcceptance h inputs actor (.of_mem hi) _).bind ?_
    fun _ _ h => h)
  rintro reset s ⟨hs, hreset, hsame, -⟩
  have hopen : reset.active = true := hsame.trans hactive
  have hunspent := hs.unspent_of_stands hreset hopen
  refine Ends.bind (hs.age hreset rfl rfl (fun _ => hunspent) fun hlive => ?_)
    (fun _ s' hs' => ?_) fun _ _ h => h
  · unfold StaffInvite.live at hlive ⊢
    rw [hopen]
    exact hlive
  · exact ends_auditEventRequired OneLive.writes hs' h inputs _ _ _

/-- A reissue gives its invite a new life. -/
theorem oneLive_reissueStaffInvite (h : OneLive cfg w) (inputs : InviteInputs) (actor : ℤ)
    (inviteId : ℕ)
    (hspare : revivesBesideLive cfg w (.reissueStaffInvite inputs actor inviteId) = false) :
    Ends (reissueStaffInvite cfg inputs actor inviteId) (fun _ s' => OneLive cfg s') w := by
  refine (ends_requireRootStepUp OneLive.writes h inputs actor _).bind ?_ fun _ _ h => h
  rintro _ _ ⟨rfl, hroot, hstep⟩
  refine (ends_activeInvite h inviteId).bind ?_ fun _ _ h => h
  rintro invite w ⟨rfl, hfind⟩
  obtain ⟨hi, hactive⟩ := open_of_find hfind
  have hunspent := h.unspent invite hi hactive
  refine Ends.get_bind ((oneLive_resetActiveInviteAcceptance h inputs actor (.of_mem hi) _).bind ?_
    fun _ _ h => h)
  rintro reset s ⟨hs, hreset, hsame, hid, hemail, hold, hclock⟩
  split
  -- the mail fails: the transaction is undone, and only the delivery status changes
  · refine Ends.set_bind (Ends.bind (h.age (.of_mem hi) rfl rfl (fun _ => hunspent)
      fun hlive => hlive) (fun _ s₁ hs₁ => ?_) fun _ _ h => h)
    exact (ends_auditEvent OneLive.writes hs₁ h inputs _ _ _).bind (fun _ _ h => h) fun _ _ h => h
  · next hsent =>
      have hused := (hs.unspent_of_stands hreset (hsame.trans hactive)).2
      refine Ends.bind (hs.replace (fun _ => ⟨rfl, hused⟩) fun _ j hj hlive hmail => ?_)
        (fun _ s₁ hs₁ => ?_) fun _ _ h => h
      · -- another live invite of the address was live before, as was this one
        obtain ⟨j₀, hj₀, hjid, hjmail, hjactive, hjexpires, hjrevoked, hjused⟩ := hold j hj
        have hlive₀ : j₀.live w.clock = true := by
          rw [Stands.live hjactive hjexpires hjrevoked hjused, ← hclock]
          exact hlive
        have hmail₀ : cfg.casefold j₀.workplaceEmailNormalized =
            cfg.casefold invite.workplaceEmailNormalized := by
          rw [hjmail, hmail]
          exact congrArg cfg.casefold hemail
        have hinvite : invite.live w.clock = true := by
          by_cases hexpired : invite.expiresAt ≤ w.clock
          · refine absurd hmail₀ (activeInviteExists_eq_false ?_ hj₀ hlive₀)
            simpa [revivesBesideLive, hroot, hstep, hsent, hfind, hexpired] using hspare
          · simp [StaffInvite.live, hactive, hunspent, Nat.lt_of_not_le hexpired]
        have hj := h.unique j₀ hj₀ invite hi hlive₀ hinvite hmail₀
        exact hjid.symm.trans (hj.trans hid.symm)
      · refine (ends_auditEventRequired OneLive.writes hs₁ h inputs _ _ _).bind (fun _ s₂ hs₂ => ?_)
          fun _ _ h => h
        exact ends_auditEvent OneLive.writes hs₂ h inputs _ _ _

/-- The invite of a token is live. -/
theorem oneLive_activeInviteByToken (h : OneLive cfg w) (inputs : InviteInputs)
    (tokenHash : String) :
    Ends (activeInviteByToken cfg inputs tokenHash) (fun r s' => match r with
      | .ok invite => s' = w ∧ invite ∈ w.invites ∧ invite.active = true
      | .error _ => OneLive cfg s') w := by
  refine Ends.get_bind ?_
  split
  · exact (ends_auditEvent OneLive.writes h h inputs _ _ _).bind (fun _ _ h => h) fun _ _ h => h
  · next invite hfind =>
      have hi := List.mem_of_find?_eq_some hfind
      split
      · refine Ends.bind (h.age (.of_mem hi) rfl rfl (fun hactive => nomatch hactive)
          fun hlive => nomatch hlive) (fun _ s' hs' => Ends.get_bind ?_) fun _ _ h => h
        exact (ends_auditEvent OneLive.writes hs' hs' inputs _ _ _).bind (fun _ _ h => h)
          fun _ _ h => h
      split
      · exact (ends_auditEvent OneLive.writes h h inputs _ _ _).bind (fun _ _ h => h) fun _ _ h => h
      split
      · exact h
      · next hactive => exact ⟨rfl, hi, by simpa using hactive⟩

theorem oneLive_ensureInviteAcceptanceCanStart (h : OneLive cfg s) (inputs : InviteInputs)
    {invite : StaffInvite} (hi : invite ∈ s.invites) :
    Ends (ensureInviteAcceptanceCanStart cfg inputs invite) (fun r s' => match r with
      | .ok _ => s' = s
      | .error _ => OneLive cfg s') s := by
  refine (ends_refuseUnless OneLive.writes h inputs _ _ _ _ _).bind ?_ fun _ _ h => h
  rintro _ _ ⟨rfl, -⟩
  refine (ends_ensureStartedSession OneLive.writes h inputs invite).bind ?_ fun _ _ h => h
  rintro _ s ⟨rfl, -⟩
  have hunspent := h.unspent invite hi
  split
  · refine Ends.get_bind (Ends.bind (h.age (.of_mem hi) rfl rfl hunspent fun hlive => hlive)
      (fun _ s' hs' => ?_) fun _ _ h => h)
    exact (ends_auditEvent OneLive.writes hs' h inputs _ _ _).bind (fun _ _ h => h) fun _ _ h => h
  · exact Ends.pure rfl

theorem oneLive_ensureSetupUser (h : OneLive cfg w) (inputs : InviteInputs) {invite : StaffInvite}
    (hi : invite ∈ w.invites) (hactive : invite.active) :
    Ends (ensureSetupUser cfg inputs invite) (fun r s' => match r with
      | .ok _ => OneLive cfg s' ∧ Stands s' invite
      | .error _ => OneLive cfg s') w := by
  refine Ends.get_bind ?_
  split
  · refine (ends_refuseUnless OneLive.writes h inputs _ _ _ _ _).bind ?_ fun _ _ h => h
    rintro _ w ⟨rfl, -⟩
    have hlinked : Ends (setInvite { invite with setupUserId := some w.nextUserId })
        (fun _ s' => OneLive cfg s') w :=
      h.age (.of_mem hi) rfl rfl (fun _ => h.unspent invite hi hactive) fun hlive => hlive
    refine Ends.get_bind (Ends.modify_bind (Ends.modify_bind (Ends.pure ⟨?_, ?_⟩)))
    · exact hlinked.congr rfl rfl rfl
    · refine ⟨_, List.mem_map_of_mem hi, ?_⟩
      rw [if_pos rfl]
      exact ⟨rfl, rfl, rfl, rfl, rfl, rfl⟩
  · refine (ends_ensureStartedSession OneLive.writes h inputs invite).bind ?_ fun _ _ h => h
    rintro _ w ⟨rfl, -⟩
    exact Ends.raiseIf_bind (fun _ => h) fun _ => Ends.pure ⟨h, .of_mem hi⟩

/-- The invite stands before and after the encryption, whether its event is written
or not. -/
theorem oneLive_encryptMfaSecret {v : InviteWorld} (h : OneLive cfg w) (hv : OneLive cfg v)
    {invite : StaffInvite} (hs : Stands w invite) (hs' : Stands v invite) (inputs : InviteInputs)
    (user : StaffUser) :
    Ends (encryptMfaSecret cfg inputs w user)
      (fun _ s' => OneLive cfg s' ∧ Stands s' invite) v := by
  have hrolled : OneLive cfg { w with nextUserId := v.nextUserId } := h.congr rfl rfl rfl
  unfold encryptMfaSecret auditEvent
  refine Ends.get_bind ?_
  dsimp only
  split
  · split
    · exact ⟨hv, hs'⟩
    · exact ⟨hrolled, hs⟩
  · split
    · exact ⟨hrolled, hs⟩
    · exact ⟨OneLive.writes _ _ hv, hs'⟩

theorem oneLive_recordStart (h : OneLive cfg s) (inputs : InviteInputs) {invite : StaffInvite}
    (hs : Stands s invite) (hactive : invite.active) (user : StaffUser) :
    Ends (recordStart cfg inputs s invite.id user) (fun _ s' => OneLive cfg s') s := by
  have hset := (ends_setUser_oneLive h { user with mfaEnabled := false }).1
  have hrecorded := hset.reopen (h.open_of_stands hs hactive) (fun i => { i with
    status := .totpPending
    acceptanceSessionHash := some inputs.sessionHash
    acceptanceStartCount := i.acceptanceStartCount + 1 }) (fun _ => rfl) (fun _ => rfl)
      fun _ => ⟨rfl, rfl, rfl⟩
  refine Ends.modify_bind (Ends.modify_bind (Ends.raiseIf_bind (fun _ => hrecorded) fun _ =>
    Ends.raiseIf_bind (fun _ => hrecorded) fun _ => ?_))
  refine (ends_auditEventRequired OneLive.writes hrecorded h inputs _ _ _).bind ?_ fun _ _ h => h
  exact fun _ s₃ hs₃ => ends_auditEventRequired OneLive.writes hs₃ h inputs _ _ _

theorem oneLive_failedStart {e : InviteWorld} (h : OneLive cfg e) (inputs : InviteInputs)
    {invite : StaffInvite} (hs : Stands e invite) (hactive : invite.active)
    (created : Option ℤ) :
    Ends (failedStart cfg inputs e invite.id created) (fun _ s' => OneLive cfg s') s := by
  refine Ends.set_bind ?_
  have hcleared := h.clearFailedInviteAcceptanceStart hs hactive created
  refine (ends_auditEvent OneLive.writes hcleared h inputs _ _ _).bind ?_ fun _ _ h => h
  intro _ s₁ hs₁
  refine Ends.get_bind ?_
  exact (ends_auditEvent OneLive.writes hs₁ hs₁ inputs _ _ _).bind (fun _ _ h => h) fun _ _ h => h

theorem oneLive_startInviteAcceptance (h : OneLive cfg w) (inputs : InviteInputs)
    (tokenHash : String) :
    Ends (startInviteAcceptance cfg inputs tokenHash) (fun _ s' => OneLive cfg s') w := by
  refine (ends_refuseUnless OneLive.writes h inputs _ _ _ _ _).bind ?_ fun _ _ h => h
  rintro _ _ ⟨rfl, -⟩
  refine (ends_refuseUnless OneLive.writes h inputs _ _ _ _ _).bind ?_ fun _ _ h => h
  rintro _ _ ⟨rfl, -⟩
  refine (ends_refuseUnless OneLive.writes h inputs _ _ _ _ _).bind ?_ fun _ _ h => h
  rintro _ _ ⟨rfl, -⟩
  refine (oneLive_activeInviteByToken h inputs tokenHash).bind ?_ fun _ _ h => h
  rintro invite _ ⟨rfl, hi, hactive⟩
  refine (ends_refuseUnless OneLive.writes h inputs _ _ _ _ _).bind ?_ fun _ _ h => h
  rintro _ _ ⟨rfl, -⟩
  refine (oneLive_ensureInviteAcceptanceCanStart h inputs hi).bind ?_ fun _ _ h => h
  rintro _ _ rfl
  refine (ends_refuseUnless OneLive.writes h inputs _ _ _ _ _).bind ?_ fun _ _ h => h
  rintro _ w ⟨rfl, -⟩
  refine Ends.get_bind ((oneLive_ensureSetupUser h inputs hi hactive).bind ?_ fun _ _ h => h)
  rintro user v ⟨hv, hs⟩
  refine (oneLive_encryptMfaSecret h hv (.of_mem hi) hs inputs user).bind ?_ fun _ _ h => h.1
  rintro _ e ⟨he, hs⟩
  refine Ends.get_bind (Ends.raiseIf_bind (fun _ => he) fun _ => ?_)
  refine (oneLive_recordStart he inputs hs hactive user).tryCatch (fun _ _ h => h)
    fun _ _ _ => ?_
  exact oneLive_failedStart he inputs hs hactive _

theorem oneLive_recordInviteAcceptanceVerifyFailure (h : OneLive cfg s) (inputs : InviteInputs)
    {invite : StaffInvite} (hi : invite ∈ s.invites) (user : StaffUser)
    (reason : String × InviteError) :
    Ends (recordInviteAcceptanceVerifyFailure cfg inputs invite user reason)
      (fun _ s' => OneLive cfg s') s := by
  have hunspent := h.unspent invite hi
  refine Ends.get_bind ?_
  dsimp only
  split
  all_goals
    refine Ends.bind (h.age (.of_mem hi) rfl rfl hunspent fun hlive => hlive)
      (fun _ s' hs' => ?_) fun _ _ h => h
    exact (ends_auditEvent OneLive.writes hs' h inputs _ _ _).bind (fun _ _ h => h) fun _ _ h => h

/-- An accepted invite is dead. -/
theorem oneLive_activateStaff (h : OneLive cfg s) (inputs : InviteInputs) {invite : StaffInvite}
    (hi : invite ∈ s.invites) (user : StaffUser) :
    Ends (activateStaff cfg inputs invite user) (fun _ s' => OneLive cfg s') s := by
  refine Ends.get_bind (Ends.bind (ends_setUser_oneLive h _) ?_ fun _ _ h => h.1)
  rintro _ s₁ ⟨hs₁, hinvites, -⟩
  have hi₁ : invite ∈ s₁.invites := hinvites ▸ hi
  refine Ends.bind (hs₁.age (.of_mem hi₁) rfl rfl (fun hactive => nomatch hactive)
    fun hlive => nomatch hlive) (fun _ s₂ hs₂ => ?_) fun _ _ h => h
  refine (ends_auditEventRequired OneLive.writes hs₂ h inputs _ _ _).bind (fun _ s₃ hs₃ => ?_)
    fun _ _ h => h
  refine (ends_auditEventRequired OneLive.writes hs₃ h inputs _ _ _).bind (fun _ s₄ hs₄ => ?_)
    fun _ _ h => h
  exact ends_auditEventRequired OneLive.writes hs₄ h inputs _ _ _

theorem oneLive_verifyInviteAcceptance (h : OneLive cfg w) (inputs : InviteInputs)
    (tokenHash : String) :
    Ends (verifyInviteAcceptance cfg inputs tokenHash) (fun _ s' => OneLive cfg s') w := by
  refine (ends_refuseUnless OneLive.writes h inputs _ _ _ _ _).bind ?_ fun _ _ h => h
  rintro _ _ ⟨rfl, -⟩
  refine (ends_refuseUnless OneLive.writes h inputs _ _ _ _ _).bind ?_ fun _ _ h => h
  rintro _ _ ⟨rfl, -⟩
  refine (oneLive_activeInviteByToken h inputs tokenHash).bind ?_ fun _ _ h => h
  rintro invite _ ⟨rfl, hi, hactive⟩
  refine (ends_refuseUnless OneLive.writes h inputs _ _ _ _ _).bind ?_ fun _ _ h => h
  rintro _ _ ⟨rfl, -⟩
  refine (ends_refuseUnless OneLive.writes h inputs _ _ _ _ _).bind ?_ fun _ _ h => h
  rintro _ _ ⟨rfl, -⟩
  refine (ends_ensureInviteAcceptanceSession OneLive.writes h inputs invite).bind ?_ fun _ _ h => h
  rintro _ w ⟨rfl, -⟩
  refine Ends.get_bind ?_
  split
  · exact (ends_auditEvent OneLive.writes h h inputs _ _ _).bind (fun _ _ h => h) fun _ _ h => h
  · next user _ =>
      have hunspent := h.unspent invite hi hactive
      split
      -- the setup of the second factor has run out: the invite is pending again
      · refine Ends.bind (h.age (.of_mem hi) rfl rfl (fun _ => hunspent) fun hlive => ?_)
          (fun _ s hs => Ends.get_bind ?_) fun _ _ h => h
        · unfold StaffInvite.live at hlive ⊢
          rw [hactive]
          exact hlive
        · exact (ends_auditEvent OneLive.writes hs hs inputs _ _ _).bind (fun _ _ h => h)
            fun _ _ h => h
      split
      · exact (ends_auditEvent OneLive.writes h h inputs _ _ _).bind (fun _ _ h => h) fun _ _ h => h
      split
      · exact oneLive_recordInviteAcceptanceVerifyFailure h inputs hi user _
      split
      · exact oneLive_recordInviteAcceptanceVerifyFailure h inputs hi user _
      · exact oneLive_activateStaff h inputs hi user

theorem oneLive_call (h : OneLive cfg w) (op : InviteOp)
    (hspare : revivesBesideLive cfg w op = false) :
    Ends (op.call cfg) (fun _ s' => OneLive cfg s') w := by
  cases op with
  | createStaffInvite inputs actor email role =>
      exact oneLive_createStaffInvite h inputs actor email role
  | resendStaffSetupInvite inputs actor target =>
      exact oneLive_resendStaffSetupInvite h inputs actor target
  | revokeStaffInvite inputs actor inviteId =>
      exact oneLive_revokeStaffInvite h inputs actor inviteId
  | reissueStaffInvite inputs actor inviteId =>
      exact oneLive_reissueStaffInvite h inputs actor inviteId hspare
  | resetStaffInviteAcceptance inputs actor inviteId =>
      exact oneLive_resetStaffInviteAcceptance h inputs actor inviteId
  | startInviteAcceptance inputs tokenHash => exact oneLive_startInviteAcceptance h inputs tokenHash
  | verifyInviteAcceptance inputs tokenHash =>
      exact oneLive_verifyInviteAcceptance h inputs tokenHash
  | audited draft =>
      show OneLive cfg (if names draft w then _ else w)
      split
      · exact OneLive.writes _ _ h
      · exact h
  | register email accountType => exact h.congr rfl rfl rfl
  | changeUser user => exact h.congr rfl rfl rfl
  | wait seconds => exact h.wait seconds

end Requests

/-! ### Runs -/

/-- One request that revives no invite beside a live one. -/
def UnrivalledStep (cfg : InviteConfig) (w w' : InviteWorld) : Prop :=
  ∃ op, revivesBesideLive cfg w op = false ∧ w' = after (InviteOp.call cfg op) w

theorem oneLive_run {cfg : InviteConfig} {w w' : InviteWorld} (h : OneLive cfg w)
    (hrun : Relation.ReflTransGen (UnrivalledStep cfg) w w') : OneLive cfg w' := by
  induction hrun with
  | refl => exact h
  | tail _ hstep ih =>
      obtain ⟨op, hspare, rfl⟩ := hstep
      exact (oneLive_call ih op hspare).after

theorem OneLive.liveInvites_length {cfg : InviteConfig} {w : InviteWorld} (h : OneLive cfg w)
    (email : String) : (liveInvites cfg email w).length ≤ 1 := by
  have hsorted : (liveInvites cfg email w).Pairwise (·.id < ·.id) := h.ids.filter _
  have hmem : ∀ i ∈ liveInvites cfg email w, i ∈ w.invites ∧ i.live w.clock = true ∧
      cfg.casefold i.workplaceEmailNormalized = cfg.casefold email := by
    intro i hi
    obtain ⟨hi, hp⟩ := List.mem_filter.mp hi
    simpa using And.intro hi hp
  match hlist : liveInvites cfg email w with
  | [] => exact Nat.zero_le _
  | [_] => exact Nat.le_refl _
  | i :: j :: rest =>
      rw [hlist] at hsorted hmem
      obtain ⟨hi, hlive, hemail⟩ := hmem i (.head _)
      obtain ⟨hj, hlive', hemail'⟩ := hmem j (.tail _ (.head _))
      have hlt : i.id < j.id := List.rel_of_pairwise_cons hsorted (.head _)
      have heq := h.unique i hi j hj hlive hlive' (hemail.trans hemail'.symm)
      exact absurd heq (Nat.ne_of_lt hlt)

/-- While no reissue revives an expired invite beside a live one of its address,
every address has at most one live invite. -/
theorem at_most_one_live_invite {cfg : InviteConfig} {w₀ w : InviteWorld} (hnone : w₀.invites = [])
    (hrun : Relation.ReflTransGen (UnrivalledStep cfg) w₀ w) (email : String) :
    (liveInvites cfg email w).length ≤ 1 := by
  have h₀ : OneLive cfg w₀ := by
    constructor <;> simp [hnone]
  exact (oneLive_run h₀ hrun).liveInvites_length email

/-- The requests, made one after the other, revive no invite beside a live one. -/
def unrivalled (cfg : InviteConfig) : InviteWorld → List InviteOp → Bool
  | _, [] => true
  | w, op :: ops => !revivesBesideLive cfg w op && unrivalled cfg (after (op.call cfg) w) ops

theorem run_of_unrivalled {cfg : InviteConfig} (ops : List InviteOp) (w : InviteWorld)
    (h : unrivalled cfg w ops = true) : Relation.ReflTransGen (UnrivalledStep cfg) w
      (ops.foldl (fun w op => after (op.call cfg) w) w) := by
  induction ops generalizing w with
  | nil => exact .refl
  | cons op ops ih =>
      obtain ⟨hop, hops⟩ := Bool.and_eq_true_iff.mp h
      exact .head ⟨op, by simpa using hop, rfl⟩ (ih _ hops)

/-- An invite, and its expiry. -/
def expiredInvite : List InviteOp :=
  [.createStaffInvite willingInputs 1 "staff@bank" .staff, .wait 900]

/-- The expired invite lives again, as the only one. -/
theorem at_most_one_live_invite_reissued :
    (liveInvites parityConfig "staff@bank" (afterOps parityConfig
      (expiredInvite ++ [.reissueStaffInvite willingInputs 1 1]))).length ≤ 1 ∧
    (liveInvites parityConfig "staff@bank" (afterOps parityConfig
      (expiredInvite ++ [.reissueStaffInvite willingInputs 1 1]))).map (·.expiresAt) = [1800] := by
  have hnone : emptyInviteWorld.invites = [] := rfl
  have hspare : unrivalled parityConfig emptyInviteWorld
      (expiredInvite ++ [.reissueStaffInvite willingInputs 1 1]) = true := by
    decide +kernel
  have h := at_most_one_live_invite hnone (run_of_unrivalled _ _ hspare) "staff@bank"
  exact ⟨h, by decide +kernel⟩

/-- The expired invite is reissued after a second one was created. -/
theorem reissue_beside_live_invite :
    (liveInvites parityConfig "staff@bank" (afterOps parityConfig (expiredInvite ++
      [.createStaffInvite { willingInputs with freshTokenHash := "u" } 1 "staff@bank" .staff,
        .reissueStaffInvite { willingInputs with freshTokenHash := "v" } 1 1]))).map (·.id) =
      [1, 2] := by
  decide +kernel

end SitBank.Admin
