import SitBank.Admin.RecoveryGraph

/-!
Nobody decides about the customer account of the same person.

Freezes, unlocks and recoveries ask `selfCustomerAction` before they change anything.
The status changes of disputes and support tickets do not ask: a member of the staff
can decide a dispute of the own customer account. Whether a request does so can be
read off the state before it (`resolvesOwnCase`).
-/

namespace SitBank.Admin

open SitBank.Interaction SitBank.Python

/-- Both accounts belong to one person: an identity link that is not revoked, or the
same e-mail. -/
def linked (cfg : LockConfig) (w : LockWorld) (actor owner : LockUser) : Bool :=
  w.links.contains (actor.id, owner.id) ||
    (cfg.normalizedEmail owner.email ≠ "" &&
      [cfg.normalizedEmail actor.email, cfg.normalizedEmail actor.staffPersonalEmail].contains
        (cfg.normalizedEmail owner.email))

def caseOwner {S : Type} (w : CaseWorld) (c : StaffCase S) : Option LockUser :=
  lockUserById c.ownerId w.toLockWorld

/-- The customer that an approval concerns. -/
def requestOwner (w : CaseWorld) (r : AdminActionRequest) : Option LockUser :=
  match operationKind r.operationType with
  | .securityUnlock => w.users.find? fun u => idText u.id = r.targetId
  | .recoveryTransition => (recoveryTarget r w).bind (recoveryOwner w)
  | .recoveryComplete => (recoveryTarget r w).bind (recoveryOwner w)
  | _ => none

/-- The customer that the account or the record belongs to. -/
def PrivilegedOp.owner (w : CaseWorld) : PrivilegedOp → Option LockUser
  | .freeze targetId => lockUserById targetId w.toLockWorld
  | .unfreeze targetId => lockUserById targetId w.toLockWorld
  | .requestUnlock targetId => lockUserById targetId w.toLockWorld
  | .approve requestId => (w.requests.find? fun r => r.id = requestId).bind (requestOwner w)
  | .recoveryTransition recoveryId _ => (recoveryById recoveryId w).bind (recoveryOwner w)
  | .recoveryComplete recoveryId => (recoveryById recoveryId w).bind (recoveryOwner w)
  | .disputeStatus disputeId .. => (caseById disputeKind disputeId w).bind (caseOwner w)
  | .ticketStatus ticketId .. => (caseById ticketKind ticketId w).bind (caseOwner w)

/-- The account of the owner and all records are as before. -/
structure Untouched (owner : LockUser) (w w' : CaseWorld) : Prop where
  account : lockUserById owner.id w'.toLockWorld = some owner
  recoveries : w'.recoveries = w.recoveries
  disputes : w'.disputes = w.disputes
  tickets : w'.tickets = w.tickets

/-- The operation raises and changes nothing of the customer. -/
def Refused {α : Type} (owner : LockUser) (w : CaseWorld) (r : Except LockError α)
    (w' : CaseWorld) : Prop :=
  (∃ e, r = .error e) ∧ Untouched owner w w'

/-- An actor who is linked to the owner is refused. -/
def Separated (cfg : CaseConfig) (inputs : LockInputs) (actorId : ℤ) (op : PrivilegedOp)
    (w : CaseWorld) : Prop :=
  ∀ actor owner, lockUserById actorId w.toLockWorld = some actor → op.owner w = some owner →
    owner.accountType = .customer → linked cfg.toLockConfig w.toLockWorld actor owner = true →
    Ends (op.call cfg inputs actorId) (Refused owner w) w

/-! ### Owners -/

section Owners

variable {cfg : CaseConfig} {inputs : LockInputs} {w : CaseWorld} {actor owner : LockUser}

theorem lockUserById_self {id : ℤ} {l : LockWorld} {u : LockUser} (h : lockUserById id l = some u) :
    lockUserById u.id l = some u := by
  rw [(mem_of_lockUserById h).2]
  exact h

theorem lockUserById_of_find_idText {l : LockWorld} {text : String} {u : LockUser}
    (h : (l.users.find? fun v => idText v.id = text) = some u) :
    lockUserById u.id l = some u := by
  have htext : idText u.id = text := by simpa using List.find?_some h
  subst htext
  have hsame : (fun v : LockUser => decide (idText v.id = idText u.id)) =
      fun v => decide (v.id = u.id) := by
    ext v
    have hiff : idText v.id = idText u.id ↔ v.id = u.id :=
      ⟨idText_injective, congrArg idText⟩
    simp only [hiff]
  rw [hsame] at h
  exact h

theorem lockUserById_recoveryOwner {r : ManualRecoveryRequest}
    (h : recoveryOwner w r = some owner) :
    lockUserById owner.id w.toLockWorld = some owner := by
  obtain ⟨id, -, hid⟩ := Option.bind_eq_some_iff.mp h
  exact lockUserById_self hid

theorem lockUserById_requestOwner {r : AdminActionRequest} (h : requestOwner w r = some owner) :
    lockUserById owner.id w.toLockWorld = some owner := by
  unfold requestOwner at h
  split at h
  · exact lockUserById_of_find_idText h
  · obtain ⟨x, -, hx⟩ := Option.bind_eq_some_iff.mp h
    exact lockUserById_recoveryOwner hx
  · obtain ⟨x, -, hx⟩ := Option.bind_eq_some_iff.mp h
    exact lockUserById_recoveryOwner hx
  · exact nomatch h

theorem selfCustomerAction_of_linked {cfg : LockConfig} {l : LockWorld}
    (h : linked cfg l actor owner = true) : selfCustomerAction cfg l actor owner = true := by
  unfold selfCustomerAction
  unfold linked at h
  rw [Bool.or_assoc, h]
  exact Bool.or_true _

/-- Two accounts of different kinds have different ids. -/
theorem owner_ne_actor {l : LockWorld} {actorId : ℤ} (hactor : lockUserById actorId l = some actor)
    (howner : lockUserById owner.id l = some owner) (hne : actor.accountType ≠ owner.accountType) :
    owner.id ≠ actor.id := by
  intro hid
  rw [hid, (mem_of_lockUserById hactor).2, hactor] at howner
  cases howner
  exact hne rfl

/-- The owner keeps the account while others change theirs. -/
theorem untouched_of_onlyUser {locks : LockWorld}
    (howner : lockUserById owner.id w.toLockWorld = some owner) (hne : owner.id ≠ actor.id)
    (h : OnlyUser actor.id w.toLockWorld locks) :
    Untouched owner w { w with toLockWorld := locks } := by
  obtain ⟨users, counters, -, hothers⟩ := h
  refine ⟨?_, rfl, rfl, rfl⟩
  rw [← howner]
  exact hothers owner.id hne

theorem untouched_refl (howner : lockUserById owner.id w.toLockWorld = some owner) :
    Untouched owner w w :=
  ⟨howner, rfl, rfl, rfl⟩

theorem refused_refl {α : Type} (howner : lockUserById owner.id w.toLockWorld = some owner)
    (e : LockError) : Refused (α := α) owner w (.error e) w :=
  ⟨⟨e, rfl⟩, untouched_refl howner⟩

end Owners

/-! ### Freezes and unlock requests -/

section Reviews

variable {cfg : LockConfig} {inputs : LockInputs} {l : LockWorld} {actor owner : LockUser}
  {α : Type}

theorem ends_assertNotSelf_linked (h : linked cfg l actor owner = true) :
    Ends (assertNotSelfCustomerAction cfg actor owner)
      (fun r l' => (∃ e, r = .error e) ∧ l' = l) l := by
  refine Ends.get_bind (Ends.raiseIf (fun _ => ⟨⟨_, rfl⟩, rfl⟩) fun hfree => ?_)
  rw [selfCustomerAction_of_linked h] at hfree
  exact nomatch hfree

/-- What the reviews of accounts begin with, for a linked actor. -/
theorem ends_review_linked {targetId : ℤ} (howner : lockUserById targetId l = some owner)
    (h : linked cfg l actor owner = true) (eligible : LockUser → Bool) (error : LockError)
    (rest : LockUser → LockCall α) :
    Ends (do
      requireReason inputs
      let target ← eligibleCustomer targetId eligible error
      assertNotSelfCustomerAction cfg actor target
      rest target) (fun r l' => (∃ e, r = .error e) ∧ l' = l) l := by
  refine ends_requireReason.bind ?_ fun e _ hs => ⟨⟨e, rfl⟩, hs⟩
  rintro _ l rfl
  refine (ends_eligibleCustomer targetId eligible error).bind ?_ fun e _ hs => ⟨⟨e, rfl⟩, hs.1⟩
  rintro target l ⟨rfl, htarget, -⟩
  have heq : target = owner := Option.some.inj (htarget.symm.trans howner)
  subst heq
  refine (ends_assertNotSelf_linked h).bind ?_ fun e _ hs => ⟨⟨e, rfl⟩, hs.2⟩
  rintro _ _ ⟨⟨e, heq⟩, -⟩
  exact nomatch heq

/-- The same for a member of the staff. -/
theorem ends_staffReview_linked {actorId targetId : ℤ}
    (hactor : lockUserById actorId l = some actor)
    (howner : lockUserById targetId l = some owner) (h : linked cfg l actor owner = true)
    (eligible : LockUser → Bool) (error : LockError) (rest : LockUser → LockUser → LockCall α) :
    Ends (do
      let actor ← userOrError actorId forbiddenError
      raiseIf (!isPlainStaffUser actor) forbiddenError
      requireReason inputs
      let target ← eligibleCustomer targetId eligible error
      assertNotSelfCustomerAction cfg actor target
      rest actor target) (fun r l' => (∃ e, r = .error e) ∧ l' = l) l := by
  refine (ends_userOrError actorId _).bind ?_ fun e _ hs => ⟨⟨e, rfl⟩, hs.1⟩
  rintro user l ⟨rfl, huser⟩
  have heq : user = actor := Option.some.inj (huser.symm.trans hactor)
  subst heq
  refine Ends.raiseIf_bind (fun _ => ⟨⟨_, rfl⟩, rfl⟩) fun _ => ?_
  exact ends_review_linked howner h eligible error (rest user)

theorem ends_requestUnlock_linked {actorId targetId : ℤ}
    (hactor : lockUserById actorId l = some actor) (howner : lockUserById targetId l = some owner)
    (h : linked cfg l actor owner = true) :
    Ends (requestCustomerSecurityUnlock cfg inputs actorId targetId)
      (fun r l' => (∃ e, r = .error e) ∧ l' = l) l := by
  refine (ends_activeRootAdmin actorId).bind ?_ fun e _ hs => ⟨⟨e, rfl⟩, hs.1⟩
  rintro user l ⟨rfl, huser⟩
  have heq : user = actor := Option.some.inj (huser.symm.trans hactor)
  subst heq
  exact ends_review_linked howner h _ _ _

end Reviews

/-! ### Approvals -/

section Approvals

variable {cfg : CaseConfig} {inputs : LockInputs} {w : CaseWorld} {actor owner : LockUser}

/-- A call that raised without a change to the accounts. -/
theorem ends_onLocks_refused {α : Type} {m : LockCall α}
    (howner : lockUserById owner.id w.toLockWorld = some owner)
    (h : Ends m (fun r l' => (∃ e, r = .error e) ∧ l' = w.toLockWorld) w.toLockWorld) :
    Ends (onLocks m) (Refused owner w) w := by
  refine (ends_onLocks h).mono ?_
  rintro _ _ ⟨_, ⟨⟨e, rfl⟩, rfl⟩, rfl⟩
  exact refused_refl howner e

theorem ends_assertNotSelfRecovery_linked {recoveryId : ℤ}
    (howner : (recoveryById recoveryId w).bind (recoveryOwner w) = some owner)
    (h : linked cfg.toLockConfig w.toLockWorld actor owner = true) :
    selfRecoveryAction cfg w actor recoveryId = true := by
  unfold selfRecoveryAction
  rw [howner]
  exact selfCustomerAction_of_linked h

/-- The executors for recoveries raise before they look at the record. -/
theorem ends_executeRecovery_linked {r : AdminActionRequest}
    (howner : (recoveryTarget r w).bind (recoveryOwner w) = some owner)
    (h : linked cfg.toLockConfig w.toLockWorld actor owner = true) (m : ℤ → CaseCall Unit) :
    Ends (do
      let x ← recoveryTargetOrError r
      assertNotSelfManualRecoveryAction cfg actor x.id
      m x.id
      get) (fun res w' => (∃ e, res = .error e) ∧ w' = w) w := by
  obtain ⟨x, hx, hxowner⟩ := Option.bind_eq_some_iff.mp howner
  have hfound : recoveryById x.id w = some x := by
    have htext : idText x.id = r.targetId := by simpa using List.find?_some hx
    have hsame : (fun y : ManualRecoveryRequest => decide (idText y.id = r.targetId)) =
        fun y => decide (y.id = x.id) := by
      ext y
      have hiff : idText y.id = r.targetId ↔ y.id = x.id := by
        rw [← htext]
        exact ⟨idText_injective, congrArg idText⟩
      simp only [hiff]
    unfold recoveryTarget at hx
    rw [hsame] at hx
    exact hx
  have htarget : recoveryTargetOrError r w = .ok x w := by
    refine Ends.eq_ok (Ends.get_bind ?_)
    rw [hx]
    exact ⟨rfl, rfl⟩
  refine Ends.bind_ok htarget ?_
  refine (assertNotSelfManualRecoveryAction_spec actor x.id).bind ?_
    fun e _ hs => ⟨⟨e, rfl⟩, hs.1⟩
  rintro _ _ ⟨rfl, hfree⟩
  rw [ends_assertNotSelfRecovery_linked (by rw [hfound]; exact hxowner) h] at hfree
  exact nomatch hfree

theorem ends_executeUnlock_linked {cfg : LockConfig} {l : LockWorld} {r : AdminActionRequest}
    (howner : (l.users.find? fun u => idText u.id = r.targetId) = some owner)
    (h : linked cfg l actor owner = true) :
    Ends (executeCustomerSecurityUnlock cfg inputs actor r)
      (fun res l' => (∃ e, res = .error e) ∧ l' = l) l := by
  refine Ends.get_bind ?_
  rw [howner]
  refine (ends_eligibleCustomer owner.id _ _).bind ?_ fun e _ hs => ⟨⟨e, rfl⟩, hs.1⟩
  rintro target _ ⟨rfl, htarget, -⟩
  have heq : target = owner :=
    Option.some.inj (htarget.symm.trans (lockUserById_of_find_idText howner))
  subst heq
  refine (ends_assertNotSelf_linked h).bind ?_ fun e _ hs => ⟨⟨e, rfl⟩, hs.2⟩
  rintro _ _ ⟨⟨e, heq⟩, -⟩
  exact nomatch heq

theorem ends_executeRequest_linked {r : AdminActionRequest} (howner : requestOwner w r = some owner)
    (h : linked cfg.toLockConfig w.toLockWorld actor owner = true) :
    Ends (executeRequest cfg inputs actor r) (fun res w' => (∃ e, res = .error e) ∧ w' = w) w := by
  unfold requestOwner at howner
  unfold executeRequest
  cases hkind : operationKind r.operationType with
  | recoveryTransition =>
      rw [hkind] at howner
      exact ends_executeRecovery_linked howner h
        fun id => transitionManualRecoveryRequest cfg inputs id
          (payloadText cfg.toTextOps r statusKey)
  | recoveryComplete =>
      rw [hkind] at howner
      exact ends_executeRecovery_linked howner h fun id =>
        completeManualRecoveryRequest cfg inputs id
  | securityUnlock =>
      rw [hkind] at howner
      refine Ends.get_bind ((ends_onLocks (ends_executeUnlock_linked howner h)).bind ?_ ?_)
      · rintro _ _ ⟨_, ⟨⟨e, heq⟩, -⟩, -⟩
        exact nomatch heq
      · rintro e _ ⟨_, ⟨-, rfl⟩, rfl⟩
        exact ⟨⟨e, rfl⟩, rfl⟩
  | staffLifecycle => exact ⟨⟨_, rfl⟩, rfl⟩
  | unknown => exact ⟨⟨_, rfl⟩, rfl⟩

theorem requireEvent_users {l committed : LockWorld} (h : l.users = committed.users)
    (eventType : String) :
    Ends (requireEvent inputs committed eventType) (fun _ l' => l'.users = committed.users) l := by
  refine (requireEvent_spec committed eventType).mono fun r l' hr => ?_
  cases r with
  | ok _ =>
      rw [hr.2]
      exact h
  | error _ =>
      rw [hr.2]
      split
      · exact h
      · rfl

/-- Approvals look at requests and at the actor's code before they execute. -/
theorem approvableRequest_spec {cfg : LockConfig} {l : LockWorld} (requestId : ℤ) :
    Ends (approvableRequest cfg inputs actor requestId) (fun res l' => match res with
      | .ok r => (l.requests.find? fun r => r.id = requestId) = some r ∧ OnlyCounters l l'
      | .error _ => ∀ other, other ≠ actor.id → lockUserById other l' = lockUserById other l)
        l := by
  have hpending : Ends (signedPendingRequest cfg inputs requestId) (fun res l' => match res with
      | .ok r => (l.requests.find? fun r => r.id = requestId) = some r ∧ l' = l
      | .error _ => l'.users = l.users) l := by
    refine Ends.bind (M := fun res l' => match res with
      | .ok r => (l.requests.find? fun r => r.id = requestId) = some r ∧ l' = l
      | .error _ => l'.users = l.users) ?_ ?_ fun _ _ hs => hs
    · refine Ends.get_bind ?_
      split
      · exact rfl
      · next r hfind =>
          split
          · refine Ends.modify_bind ?_
            refine Ends.bind (requireEvent_users ?_ _) (fun _ _ hs => Ends.throw hs)
              fun _ _ hs => hs
            rfl
          · exact Ends.raiseIf_bind (fun _ => rfl) fun _ => ⟨hfind, rfl⟩
    · rintro r _ ⟨hfind, rfl⟩
      exact Ends.raiseIf_bind (fun _ => rfl) fun _ => Ends.pure ⟨hfind, rfl⟩
  refine hpending.bind ?_ fun _ l' hs other _ => by unfold lockUserById; rw [hs]
  rintro r l ⟨hfind, rfl⟩
  refine Ends.get_bind (Ends.raiseIf_bind (fun _ _ _ => rfl) fun _ => ?_)
  refine Ends.raiseIf_bind (fun _ _ _ => rfl) fun _ => ?_
  refine (requireFreshCode_spec actor).bind (fun _ l' hs => Ends.pure ⟨hfind, hs.2⟩) ?_
  rintro _ _ ⟨_, _, -, hothers⟩
  exact hothers

/-- A failed execution is noted in the approval request only. -/
theorem ends_executionFailed_refused (requestId : ℤ)
    (howner : lockUserById owner.id w.toLockWorld = some owner) :
    Ends (executionFailed inputs actor requestId) (Refused owner w) w := by
  refine Ends.get_bind ((ends_onLocks (Q := fun res l' => (∃ e, res = .error e) ∧
    l'.users = w.users) ?_).bind ?_ ?_)
  · refine Ends.set_bind (Ends.modify_bind ?_)
    refine Ends.bind (requireEvent_users ?_ _) (fun _ _ hs => Ends.throw ⟨⟨_, rfl⟩, hs⟩)
      fun e _ hs => ⟨⟨e, rfl⟩, hs⟩
    rfl
  · rintro _ _ ⟨_, ⟨⟨e, heq⟩, -⟩, -⟩
    exact nomatch heq
  · rintro e _ ⟨locks, ⟨-, husers⟩, rfl⟩
    refine ⟨⟨e, rfl⟩, ?_, rfl, rfl, rfl⟩
    rw [← howner]
    unfold lockUserById
    rw [← husers]

theorem ends_approveRequest_linked {actorId requestId : ℤ}
    (hactor : lockUserById actorId w.toLockWorld = some actor)
    (howner : (w.requests.find? fun r => r.id = requestId).bind (requestOwner w) = some owner)
    (hcustomer : owner.accountType = .customer)
    (h : linked cfg.toLockConfig w.toLockWorld actor owner = true) :
    Ends (approveRequest cfg inputs actorId requestId) (Refused owner w) w := by
  obtain ⟨r, hr, hrowner⟩ := Option.bind_eq_some_iff.mp howner
  have hself := lockUserById_requestOwner hrowner
  -- only a root administrator gets past the first check
  have hadmin : Ends (activeRootAdmin cfg.toLockConfig actorId) (fun res l' =>
      l' = w.toLockWorld ∧ ∀ user, res = .ok user → user = actor ∧ user.accountType = .rootAdmin)
      w.toLockWorld := by
    refine (ends_userOrError actorId _).bind ?_ fun _ _ hs => ⟨hs.1, fun _ heq => by cases heq⟩
    rintro user _ ⟨rfl, huser⟩
    refine Ends.raiseIf_bind (fun _ => ⟨rfl, fun _ heq => by cases heq⟩) fun hroot =>
      Ends.pure ⟨rfl, fun user' heq => ?_⟩
    obtain rfl := Except.ok.inj heq
    refine ⟨Option.some.inj (huser.symm.trans hactor), ?_⟩
    simp only [isActiveRootAdmin, Bool.not_eq_false', Bool.and_eq_true, decide_eq_true_eq] at hroot
    exact hroot.1.1.1.1
  refine (ends_onLocks hadmin).bind ?_ ?_
  · rintro user _ ⟨_, ⟨rfl, hok⟩, rfl⟩
    obtain ⟨heq, hroot⟩ := hok user rfl
    subst heq
    -- so the actor, whose type differs, is not the owner
    have hne : owner.id ≠ user.id := by
      refine owner_ne_actor hactor hself ?_
      rw [hroot, hcustomer]
      decide
    refine (ends_onLocks (approvableRequest_spec requestId)).bind ?_ ?_
    · rintro x _ ⟨_, ⟨hx, counters, rfl⟩, rfl⟩
      have heq : x = r := Option.some.inj (hx.symm.trans hr)
      subst heq
      refine Ends.bind (M := Refused owner w) ?_ ?_ fun e _ hs => ⟨⟨e, rfl⟩, hs.2⟩
      · -- the code has changed counters only, so the owner is still linked
        have hrowner' : requestOwner { w with
          toLockWorld := { w.toLockWorld with counters := counters } } x = some owner := hrowner
        refine (ends_executeRequest_linked hrowner' h).tryCatch ?_ ?_
        · rintro _ _ ⟨⟨e, heq⟩, -⟩
          cases heq
        · rintro _ _ ⟨-, rfl⟩
          refine (ends_executionFailed_refused requestId
            (lockUserById_requestOwner hrowner')).mono fun _ _ hs => ?_
          exact ⟨hs.1, hs.2.account, hs.2.recoveries, hs.2.disputes, hs.2.tickets⟩
      · rintro _ _ ⟨⟨e, heq⟩, -⟩
        cases heq
    · rintro e _ ⟨locks, hothers, rfl⟩
      refine ⟨⟨e, rfl⟩, ?_, rfl, rfl, rfl⟩
      rw [← hself]
      exact hothers owner.id hne
  · rintro e _ ⟨_, ⟨rfl, -⟩, rfl⟩
    exact refused_refl hself e

/-! ### Requests about recoveries -/

/-- The code may lock the actor out; a linked actor does not get further. -/
theorem ends_recoveryStepUp_linked {recoveryId : ℤ} (hne : owner.id ≠ actor.id)
    (howner : (recoveryById recoveryId w).bind (recoveryOwner w) = some owner)
    (h : linked cfg.toLockConfig w.toLockWorld actor owner = true) :
    Ends (recoveryStepUp cfg inputs actor recoveryId) (Refused owner w) w := by
  refine (recoveryStepUp_spec actor recoveryId).mono fun r w' hr => ?_
  obtain ⟨x, -, hx⟩ := Option.bind_eq_some_iff.mp howner
  have hself := lockUserById_recoveryOwner hx
  obtain ⟨⟨locks, huser, rfl⟩, hr⟩ := hr
  refine ⟨?_, untouched_of_onlyUser hself hne huser⟩
  cases r with
  | ok _ =>
      rw [ends_assertNotSelfRecovery_linked howner h, Bool.not_true, Bool.and_false] at hr
      exact nomatch hr.1
  | error e => exact ⟨e, rfl⟩

theorem ends_rootAdmin_linked {actorId recoveryId : ℤ} {rest : LockUser → CaseCall Unit}
    (hactor : lockUserById actorId w.toLockWorld = some actor)
    (howner : (recoveryById recoveryId w).bind (recoveryOwner w) = some owner)
    (hcustomer : owner.accountType = .customer)
    (hrest : owner.id ≠ actor.id → Ends (rest actor) (Refused owner w) w) :
    Ends (rootAdmin cfg actorId >>= rest) (Refused owner w) w := by
  obtain ⟨x, -, hx⟩ := Option.bind_eq_some_iff.mp howner
  have hself := lockUserById_recoveryOwner hx
  refine (ends_rootAdmin actorId).bind ?_ fun e _ hs => hs.1 ▸ refused_refl hself e
  rintro user w ⟨rfl, huser, hroot⟩
  have heq : user = actor := Option.some.inj (huser.symm.trans hactor)
  subst heq
  refine hrest (owner_ne_actor hactor hself ?_)
  simp only [isRootAdmin, Bool.and_eq_true, decide_eq_true_eq] at hroot
  rw [hroot.1.1, hcustomer]
  decide

theorem ends_transitionAsAdmin_linked {actorId recoveryId : ℤ} (status : PyStr)
    (hactor : lockUserById actorId w.toLockWorld = some actor)
    (howner : (recoveryById recoveryId w).bind (recoveryOwner w) = some owner)
    (hcustomer : owner.accountType = .customer)
    (h : linked cfg.toLockConfig w.toLockWorld actor owner = true) :
    Ends (transitionManualRecoveryRequestAsAdmin cfg inputs actorId recoveryId status)
      (Refused owner w) w := by
  refine ends_rootAdmin_linked hactor howner hcustomer fun hne => ?_
  obtain ⟨x, -, hx⟩ := Option.bind_eq_some_iff.mp howner
  refine Ends.raiseIf_bind (fun _ => refused_refl (lockUserById_recoveryOwner hx) _) fun _ => ?_
  refine (ends_recoveryStepUp_linked hne howner h).bind ?_ fun e _ hs => ⟨⟨e, rfl⟩, hs.2⟩
  rintro _ _ ⟨⟨e, heq⟩, -⟩
  exact nomatch heq

theorem ends_completeAsAdmin_linked {actorId recoveryId : ℤ}
    (hactor : lockUserById actorId w.toLockWorld = some actor)
    (howner : (recoveryById recoveryId w).bind (recoveryOwner w) = some owner)
    (hcustomer : owner.accountType = .customer)
    (h : linked cfg.toLockConfig w.toLockWorld actor owner = true) :
    Ends (completeManualRecoveryRequestAsAdmin cfg inputs actorId recoveryId)
      (Refused owner w) w := by
  refine ends_rootAdmin_linked hactor howner hcustomer fun hne => ?_
  refine (ends_recoveryStepUp_linked hne howner h).bind ?_ fun e _ hs => ⟨⟨e, rfl⟩, hs.2⟩
  rintro _ _ ⟨⟨e, heq⟩, -⟩
  exact nomatch heq

end Approvals

/-! ### Disputes and support tickets -/

section Cases

variable {S : Type} [DecidableEq S] {cfg : CaseConfig} {inputs : LockInputs} {w : CaseWorld}

/-- The status change takes effect. -/
def changesCase (kind : CaseKind S) (inputs : LockInputs) (actor : LockUser) (c : StaffCase S)
    (newStatus : S) : Bool :=
  isPlainStaffUser actor && (kind.transitions c.status).contains newStatus &&
    !inputs.auditFails kind.eventType

/-- A member of the staff changes the status of a record of the own customer
account. -/
def resolvesOwnCase (kind : CaseKind S) (cfg : CaseConfig) (inputs : LockInputs) (w : CaseWorld)
    (actorId caseId : ℤ) (newStatus : S) : Bool :=
  (lockUserById actorId w.toLockWorld).any fun actor =>
    (caseById kind caseId w).any fun c => (caseOwner w c).any fun owner =>
      owner.accountType = .customer && linked cfg.toLockConfig w.toLockWorld actor owner &&
        changesCase kind inputs actor c newStatus

theorem run_onLocks {α : Type} {m : LockCall α} {a : α} {locks : LockWorld}
    (h : m w.toLockWorld = .ok a locks) : onLocks m w = .ok a { w with toLockWorld := locks } := by
  unfold onLocks
  rw [h]

/-- The status change does what it is asked for, or raises and changes nothing. -/
theorem transitionStatusForStaff_spec (kind : CaseKind S) {actorId caseId : ℤ} {actor : LockUser}
    {c : StaffCase S} (hactor : lockUserById actorId w.toLockWorld = some actor)
    (hc : caseById kind caseId w = some c) (newStatus : S) (note : String) :
    Ends (transitionStatusForStaff kind inputs actorId caseId newStatus note) (fun r w' =>
      if changesCase kind inputs actor c newStatus then r = .ok ()
      else (∃ e, r = .error e) ∧ w' = w) w := by
  refine Ends.bind_ok (run_onLocks (run_userOrError hactor forbiddenError)) ?_
  unfold changesCase
  refine Ends.raiseIf_bind (fun hplain => ?_) fun hplain => ?_
  · rw [Bool.not_eq_true'] at hplain
    rw [hplain]
    exact ⟨⟨_, rfl⟩, rfl⟩
  · rw [Bool.not_eq_false'] at hplain
    have hcase : caseOrError kind caseId w = .ok c w := by
      refine Ends.eq_ok (Ends.get_bind ?_)
      rw [hc]
      exact ⟨rfl, rfl⟩
    refine Ends.bind_ok hcase ?_
    rw [hplain]
    refine Ends.raiseIf_bind (fun hillegal => ?_) fun hlegal => ?_
    · rw [Bool.not_eq_true'] at hillegal
      rw [hillegal]
      exact ⟨⟨_, rfl⟩, rfl⟩
    · rw [Bool.not_eq_false'] at hlegal
      rw [hlegal]
      refine Ends.get_bind (Ends.modify_bind ?_)
      split
      · next hfails =>
          rw [hfails]
          exact ⟨⟨_, rfl⟩, rfl⟩
      · next hwritten =>
          rw [Bool.eq_false_iff.mpr hwritten]
          rfl

/-- Exactly then the owner of a dispute or a ticket is kept out. -/
theorem ends_case_linked_iff (kind : CaseKind S) (actorId caseId : ℤ) (newStatus : S)
    (note : String) :
    (∀ actor owner, lockUserById actorId w.toLockWorld = some actor →
      (caseById kind caseId w).bind (caseOwner w) = some owner → owner.accountType = .customer →
      linked cfg.toLockConfig w.toLockWorld actor owner = true →
      Ends (transitionStatusForStaff kind inputs actorId caseId newStatus note)
        (Refused owner w) w) ↔
    resolvesOwnCase kind cfg inputs w actorId caseId newStatus = false := by
  unfold resolvesOwnCase
  constructor
  · intro hseparated
    by_contra hne
    obtain ⟨actor, hactor, hcase⟩ := (Option.any_eq_true ..).mp (Bool.eq_true_of_not_eq_false hne)
    obtain ⟨c, hc, howner⟩ := (Option.any_eq_true ..).mp hcase
    obtain ⟨owner, hownerc, hall⟩ := (Option.any_eq_true ..).mp howner
    simp only [Bool.and_eq_true, decide_eq_true_eq] at hall
    obtain ⟨⟨hcustomer, hlinked⟩, hchanges⟩ := hall
    have hrefused := hseparated actor owner hactor (by rw [hc]; exact hownerc) hcustomer hlinked
    obtain ⟨r, w', ⟨⟨e, rfl⟩, -⟩, hok⟩ :=
      (hrefused.and (transitionStatusForStaff_spec kind hactor hc newStatus note)).exists
    rw [if_pos hchanges] at hok
    exact nomatch hok
  · intro hcond actor owner hactor howner hcustomer hlinked
    obtain ⟨c, hc, hownerc⟩ := Option.bind_eq_some_iff.mp howner
    rw [hactor, Option.any_some, hc, Option.any_some, hownerc, Option.any_some, hlinked,
      hcustomer] at hcond
    have hchanges : changesCase kind inputs actor c newStatus = false := by simpa using hcond
    refine (transitionStatusForStaff_spec kind hactor hc newStatus note).mono fun r w' hr => ?_
    rw [if_neg (by rw [hchanges]; decide)] at hr
    obtain ⟨⟨e, rfl⟩, rfl⟩ := hr
    exact refused_refl (lockUserById_self hownerc) e

end Cases

/-! ### All operations -/

/-- The operation is a status change of a dispute or a ticket that takes effect, by a
member of the staff who is linked to its owner. -/
def PrivilegedOp.resolvesOwn (cfg : CaseConfig) (inputs : LockInputs) (w : CaseWorld)
    (actorId : ℤ) : PrivilegedOp → Bool
  | .disputeStatus disputeId newStatus _ =>
      resolvesOwnCase disputeKind cfg inputs w actorId disputeId newStatus
  | .ticketStatus ticketId newStatus _ =>
      resolvesOwnCase ticketKind cfg inputs w actorId ticketId newStatus
  | _ => false

/-- A privileged operation refuses actors who are linked to the owning customer,
exactly if it is not the decision of an own dispute or ticket. -/
theorem separation_of_duties (cfg : CaseConfig) (inputs : LockInputs) (actorId : ℤ)
    (op : PrivilegedOp) (w : CaseWorld) :
    Separated cfg inputs actorId op w ↔ op.resolvesOwn cfg inputs w actorId = false := by
  cases op with
  | freeze targetId =>
      refine iff_of_true (fun actor owner hactor howner _ hlinked => ?_) rfl
      exact ends_onLocks_refused (lockUserById_self howner)
        (ends_staffReview_linked hactor howner hlinked _ _ _)
  | unfreeze targetId =>
      refine iff_of_true (fun actor owner hactor howner _ hlinked => ?_) rfl
      exact ends_onLocks_refused (lockUserById_self howner)
        (ends_staffReview_linked hactor howner hlinked _ _ _)
  | requestUnlock targetId =>
      refine iff_of_true (fun actor owner hactor howner _ hlinked => ?_) rfl
      refine ends_onLocks_refused (lockUserById_self howner) ?_
      refine Ends.bind (ends_requestUnlock_linked hactor howner hlinked)
        (fun _ _ hs => hs.1.elim fun _ heq => nomatch heq) fun e _ hs => ⟨⟨e, rfl⟩, hs.2⟩
  | approve requestId =>
      refine iff_of_true (fun actor owner hactor howner hcustomer hlinked => ?_) rfl
      exact ends_approveRequest_linked hactor howner hcustomer hlinked
  | recoveryTransition recoveryId status =>
      refine iff_of_true (fun actor owner hactor howner hcustomer hlinked => ?_) rfl
      exact ends_transitionAsAdmin_linked status hactor howner hcustomer hlinked
  | recoveryComplete recoveryId =>
      refine iff_of_true (fun actor owner hactor howner hcustomer hlinked => ?_) rfl
      exact ends_completeAsAdmin_linked hactor howner hcustomer hlinked
  | disputeStatus disputeId newStatus note =>
      exact ends_case_linked_iff disputeKind actorId disputeId newStatus note
  | ticketStatus ticketId newStatus note =>
      exact ends_case_linked_iff ticketKind actorId ticketId newStatus note

/-! ### An own dispute -/

/-- A member of the staff, the customer account of the same person, and a dispute of
that account. -/
def ownDispute : CaseWorld where
  toLockWorld := { noAccounts 0 with
    users := [newAccount 1 "customer@mail" .customer,
      { newAccount 2 "staff@bank" .staff with staffPersonalEmail := "customer@mail" }]
    links := [(2, 1)] }
  recoveries := []
  nextRecoveryId := 1
  disputes := [⟨7, 1, .opened, none, none, none⟩]
  tickets := []
  nextTicketId := 1

/-- The member of the staff resolves the dispute. -/
theorem own_dispute_resolved :
    linked sampleCaseConfig.toLockConfig ownDispute.toLockWorld
        { newAccount 2 "staff@bank" .staff with staffPersonalEmail := "customer@mail" }
        (newAccount 1 "customer@mail" .customer) = true ∧
      ¬ Separated sampleCaseConfig carefulInputs 2 (.disputeStatus 7 .resolved "") ownDispute ∧
      (after (PrivilegedOp.call sampleCaseConfig carefulInputs 2 (.disputeStatus 7 .resolved ""))
        ownDispute).disputes = [⟨7, 1, .resolved, some 2, none, some 0⟩] := by
  refine ⟨by decide +kernel, fun hseparated => ?_, by decide +kernel⟩
  have hcond := (ends_case_linked_iff disputeKind 2 7 .resolved "").mp hseparated
  have hown : resolvesOwnCase disputeKind sampleCaseConfig carefulInputs ownDispute 2 7 .resolved =
      true := by decide +kernel
  rw [hown] at hcond
  exact nomatch hcond

end SitBank.Admin
