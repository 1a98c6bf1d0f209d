import Mathlib.Data.List.Nodup
import Mathlib.Logic.Relation
import SitBank.Admin.CustomerLocks
import SitBank.Admin.RequestIntegrity

/-!
Every locked customer is in one review queue, and can be unlocked through it.

A freeze without a reason is for the staff, a lock with one of three reasons for the
root administrators. The fourth reason is in neither queue: a customer whose account
was locked by failed password changes waits for a lock of another kind. In runs
without such a lock (`locksByPasswordChange`) the lock fields of every account stay
in order (`AccountOk`), and from there each queue's operation goes through.
-/

namespace SitBank.Admin

open SitBank.Interaction SitBank.Python

/-! ### The invariant -/

/-- The lock fields of an account fit together. -/
structure AccountOk (u : LockUser) : Prop where
  unfrozen : u.isFrozen = false → u.securityLockReason = none ∧ u.securityLockedAt = none
  together : u.securityLockReason.isSome = u.securityLockedAt.isSome
  reviewable : u.accountType = .customer → ∀ reason, u.securityLockReason = some reason →
    reason ∈ rootAdminReviewableLockReasons

structure LocksOk (w : LockWorld) : Prop where
  ids : (w.users.map LockUser.id).Nodup
  requestIds : ∀ r ∈ w.requests, r.id < w.nextRequestId
  account : ∀ u ∈ w.users, AccountOk u

/-- Only attempt counters have changed. -/
def OnlyCounters (w w' : LockWorld) : Prop := ∃ counters, w' = { w with counters := counters }

section Rows

variable {w w' : LockWorld}

theorem OnlyCounters.refl (w : LockWorld) : OnlyCounters w w := ⟨w.counters, rfl⟩

theorem onlyCounters_setCounter (w : LockWorld) (id : ℤ) (scope : FailureScope)
    (counter : Option AuthAttemptCounter) : OnlyCounters w (setCounter id scope counter w) :=
  ⟨_, rfl⟩

theorem OnlyCounters.locksOk (h : OnlyCounters w w') (hw : LocksOk w) : LocksOk w' := by
  obtain ⟨counters, rfl⟩ := h
  exact ⟨hw.ids, hw.requestIds, hw.account⟩

theorem LocksOk.updateUser (h : LocksOk w) {id : ℤ} {f : LockUser → LockUser}
    (hid : ∀ u, (f u).id = u.id) (hf : ∀ u ∈ w.users, u.id = id → AccountOk (f u)) :
    LocksOk (updateUser id f w) := by
  refine ⟨?_, h.requestIds, fun u hu => ?_⟩
  · have hmap : (w.users.map fun u => if u.id = id then f u else u).map LockUser.id =
        w.users.map LockUser.id := by
      rw [List.map_map]
      refine List.map_congr_left fun u _ => ?_
      show (if u.id = id then f u else u).id = u.id
      split
      · exact hid u
      · rfl
    show ((w.users.map fun u => if u.id = id then f u else u).map LockUser.id).Nodup
    rw [hmap]
    exact h.ids
  · obtain ⟨u₀, hu₀, rfl⟩ := List.mem_map.mp hu
    split
    · next heq => exact hf u₀ hu₀ heq
    · exact h.account u₀ hu₀

theorem LocksOk.setRequest (h : LocksOk w) {id : ℤ} {f : AdminActionRequest → AdminActionRequest}
    (hf : ∀ r, (f r).id = r.id) : LocksOk (setRequest id f w) := by
  refine ⟨h.ids, fun r hr => ?_, h.account⟩
  obtain ⟨r₀, hr₀, rfl⟩ := List.mem_map.mp hr
  have hlt := h.requestIds r₀ hr₀
  split
  · rw [hf]
    exact hlt
  · exact hlt

/-- Users are found by their ids. -/
theorem mem_of_lockUserById {id : ℤ} {u : LockUser} (h : lockUserById id w = some u) :
    u ∈ w.users ∧ u.id = id := by
  have hid := List.find?_some h
  exact ⟨List.mem_of_find?_eq_some h, of_decide_eq_true hid⟩

theorem LocksOk.eq_of_id (h : LocksOk w) {u v : LockUser} (hu : u ∈ w.users) (hv : v ∈ w.users)
    (hid : u.id = v.id) : u = v :=
  List.inj_on_of_nodup_map h.ids hu hv hid

theorem LocksOk.lockUserById (h : LocksOk w) {u : LockUser} (hu : u ∈ w.users) :
    lockUserById u.id w = some u := by
  cases hfind : Admin.lockUserById u.id w with
  | none =>
      have hne := List.find?_eq_none.mp hfind u hu
      exact absurd (decide_eq_true rfl) hne
  | some v =>
      obtain ⟨hv, hid⟩ := mem_of_lockUserById hfind
      rw [h.eq_of_id hv hu hid]

theorem accountOk_lockFields {u : LockUser} {reason : LockReason} {now : ℤ}
    (h : u.accountType = .customer → reason ∈ rootAdminReviewableLockReasons) :
    AccountOk (lockFields reason now u) := by
  refine ⟨fun hf => (nomatch hf), rfl, fun hc reason' heq => ?_⟩
  cases heq
  exact h hc

end Rows

/-! ### Failures -/

section Failures

variable {cfg : LockConfig} {inputs : LockInputs} {w s : LockWorld}

theorem ends_userOrError (id : ℤ) (error : LockError) :
    Ends (userOrError id error) (fun r s' => s' = s ∧ match r with
      | .ok user => lockUserById id s = some user
      | .error _ => True) s := by
  refine Ends.get_bind ?_
  split
  · next user hfind => exact ⟨rfl, hfind⟩
  · exact ⟨rfl, trivial⟩

theorem requireEvent_spec (committed : LockWorld) (eventType : String) :
    Ends (requireEvent inputs committed eventType) (fun r s' => match r with
      | .ok _ => inputs.auditFails eventType = false ∧ s' = s
      | .error _ => inputs.auditFails eventType = true ∧
          s' = if inputs.leftoversCommitted then s else committed) s := by
  unfold requireEvent
  split
  · next hfails =>
      by_cases hl : inputs.leftoversCommitted = true
      · simp only [hl, if_true]
        exact ⟨hfails, rfl⟩
      · simp only [hl]
        exact ⟨hfails, rfl⟩
  · next hfails => exact ⟨Bool.eq_false_iff.mpr hfails, rfl⟩

theorem ends_requireEvent {committed : LockWorld} (h : LocksOk s) (hc : LocksOk committed)
    (eventType : String) :
    Ends (requireEvent inputs committed eventType) (fun _ s' => LocksOk s') s := by
  refine (requireEvent_spec committed eventType).mono fun r s' hr => ?_
  cases r with
  | ok _ => exact hr.2 ▸ h
  | error _ =>
      rw [hr.2]
      split
      · exact h
      · exact hc

/-- A lock that is committed has a reason that can be reviewed. -/
theorem ends_lockUserAccount (h : LocksOk s) {user : LockUser} (hu : user ∈ s.users)
    {reason : LockReason}
    (hreason : (inputs.auditFails "account_lock" = true → inputs.leftoversCommitted = true) →
      user.accountType = .customer → reason ∈ rootAdminReviewableLockReasons) :
    Ends (lockUserAccount inputs user.id reason) (fun _ s' => LocksOk s') s := by
  refine Ends.get_bind (Ends.modify_bind ?_)
  have hlocked : (inputs.auditFails "account_lock" = true → inputs.leftoversCommitted = true) →
      LocksOk (updateUser user.id (lockFields reason s.clock) s) := by
    intro hkept
    refine h.updateUser (fun _ => rfl) fun u hu' hid => accountOk_lockFields fun hc => ?_
    rw [h.eq_of_id hu' hu hid] at hc
    exact hreason hkept hc
  refine (requireEvent_spec s "account_lock").mono fun r s' hr => ?_
  cases r with
  | ok _ =>
      rw [hr.2]
      exact hlocked fun hfails => absurd (hr.1.symm.trans hfails) (by decide)
  | error _ =>
      rw [hr.2]
      split
      · next hleft => exact hlocked fun _ => hleft
      · exact h

theorem ends_recordUserSecurityFailure (h : LocksOk s) {user : LockUser} (hu : user ∈ s.users)
    {scope : FailureScope} {reason : LockReason}
    (hreason : (inputs.auditFails "account_lock" = true → inputs.leftoversCommitted = true) →
      user.accountType = .customer →
      userSecurityLockThreshold cfg user scope ≤ failureAttempts s user.id scope →
      reason ∈ rootAdminReviewableLockReasons) :
    Ends (recordUserSecurityFailure cfg inputs user scope reason) (fun _ s' => LocksOk s') s := by
  refine Ends.get_bind (Ends.modify_bind ?_)
  have hcounted := (onlyCounters_setCounter s user.id scope
    (some ⟨failureAttempts s user.id scope, s.clock + authLockWindow⟩)).locksOk h
  split
  · next hthreshold =>
      exact ends_lockUserAccount hcounted hu fun hkept hc => hreason hkept hc hthreshold
  · exact hcounted

/-- The failures of passwords and codes. -/
theorem ends_reviewableFailure (h : LocksOk s) {user : LockUser} (hu : user ∈ s.users)
    {scope : FailureScope} {reason : LockReason}
    (hreason : reason ∈ rootAdminReviewableLockReasons) :
    Ends (recordUserSecurityFailure cfg inputs user scope reason) (fun _ s' => LocksOk s') s :=
  ends_recordUserSecurityFailure h hu fun _ _ _ => hreason

theorem ends_verifyTotpForUserOutcome (h : LocksOk s) {user : LockUser} (hu : user ∈ s.users) :
    Ends (verifyTotpForUserOutcome cfg inputs user) (fun r s' => match r with
      | .ok outcome => OnlyCounters s s' ∧ outcome = inputs.code
      | .error _ => LocksOk s') s := by
  unfold verifyTotpForUserOutcome
  split
  · exact (ends_reviewableFailure h hu (by decide)).bind (fun _ _ h => h) fun _ _ h => h
  · next hcode => exact ⟨onlyCounters_setCounter .., hcode.symm⟩
  · exact ⟨.refl s, rfl⟩

theorem ends_requireFreshCode (h : LocksOk s) {actor : LockUser} (hu : actor ∈ s.users) :
    Ends (requireFreshCode cfg inputs actor) (fun r s' => match r with
      | .ok _ => OnlyCounters s s'
      | .error _ => LocksOk s') s := by
  refine Ends.raiseIf_bind (fun _ => h) fun _ => ?_
  refine (ends_verifyTotpForUserOutcome h hu).bind ?_ fun _ _ h => h
  rintro outcome s' ⟨hs', -⟩
  unfold raiseIf
  split
  · exact hs'.locksOk h
  · exact hs'

theorem ends_verifyHighRiskAuthorization (h : LocksOk s) {user : LockUser} (hu : user ∈ s.users) :
    Ends (verifyHighRiskAuthorization cfg inputs user) (fun r s' => match r with
      | .ok _ => OnlyCounters s s'
      | .error _ => LocksOk s') s := by
  refine Ends.raiseIf_bind (fun _ => h) fun _ => Ends.raiseIf_bind (fun _ => h) fun _ => ?_
  refine (ends_verifyTotpForUserOutcome h hu).bind ?_ fun _ _ h => h
  rintro outcome s' ⟨hs', -⟩
  have hok := hs'.locksOk h
  split
  · exact hs'
  · exact hok
  · obtain ⟨counters, rfl⟩ := hs'
    exact (ends_reviewableFailure hok hu (by decide)).bind (fun _ _ h => h) fun _ _ h => h

end Failures

/-! ### Requests -/

/-- The request locks a customer because of failed password changes. -/
def locksByPasswordChange (w : LockWorld) : LockOp → Bool
  | .changePassword inputs userId =>
      inputs.passwordsEqual && !inputs.passwordMatches &&
        (!inputs.auditFails "account_lock" || inputs.leftoversCommitted) &&
        (lockUserById userId w).any fun u =>
          u.accountType = .customer && !u.isFrozen && u.securityLockedAt.isNone &&
            authLockThreshold ≤ failureAttempts w u.id .passwordChange
  | _ => false

section Requests

variable {cfg : LockConfig} {inputs : LockInputs} {w : LockWorld}

theorem ends_enforceCustomerLoginAccountState (user : LockUser) :
    Ends (enforceCustomerLoginAccountState user) (fun _ s' => s' = w) w := by
  unfold enforceCustomerLoginAccountState raiseIf
  split
  · exact Ends.throw rfl
  split
  · exact Ends.throw rfl
  split
  · exact Ends.throw rfl
  · exact Ends.pure rfl

theorem ends_authenticatePrimary (h : LocksOk w) (userId : ℤ) :
    Ends (authenticatePrimary cfg inputs userId) (fun _ s' => LocksOk s') w := by
  refine Ends.raiseIf_bind (fun _ => h) fun _ => ?_
  refine (ends_userOrError userId _).bind ?_ fun _ _ hr => hr.1 ▸ h
  rintro user _ ⟨rfl, hfind⟩
  obtain ⟨hu, -⟩ := mem_of_lockUserById hfind
  refine Ends.raiseIf_bind (fun _ => h) fun _ => ?_
  split
  · refine (ends_enforceCustomerLoginAccountState user).bind ?_ fun _ _ hs => hs ▸ h
    rintro _ _ rfl
    split
    · exact h
    · exact (onlyCounters_setCounter ..).locksOk h
  · exact (ends_reviewableFailure h hu (by decide)).bind (fun _ _ h => h) fun _ _ h => h

theorem ends_authenticateAdminPrimary (h : LocksOk w) (userId : ℤ) :
    Ends (authenticateAdminPrimary cfg inputs userId) (fun _ s' => LocksOk s') w := by
  refine Ends.raiseIf_bind (fun _ => h) fun _ => ?_
  refine (ends_userOrError userId _).bind ?_ fun _ _ hr => hr.1 ▸ h
  rintro user _ ⟨rfl, hfind⟩
  obtain ⟨hu, -⟩ := mem_of_lockUserById hfind
  refine Ends.raiseIf_bind (fun _ => h) fun _ => ?_
  split
  · exact h
  · exact (ends_reviewableFailure h hu (by decide)).bind (fun _ _ h => h) fun _ _ h => h

theorem ends_completePendingMfa (h : LocksOk w) (userId : ℤ) :
    Ends (completePendingMfa cfg inputs userId) (fun _ s' => LocksOk s') w := by
  refine (ends_userOrError userId _).bind ?_ fun _ _ hr => hr.1 ▸ h
  rintro user w ⟨rfl, hfind⟩
  obtain ⟨hu, -⟩ := mem_of_lockUserById hfind
  refine Ends.raiseIf_bind (fun _ => h) fun _ => Ends.raiseIf_bind (fun _ => h) fun _ => ?_
  refine Ends.raiseIf_bind (fun _ => h) fun _ => ?_
  split
  · have hpassword := (onlyCounters_setCounter w user.id .password none).locksOk h
    exact (onlyCounters_setCounter _ user.id .mfa none).locksOk hpassword
  · exact h
  · exact (ends_reviewableFailure h hu (by decide)).bind (fun _ _ h => h) fun _ _ h => h

theorem ends_changePassword (h : LocksOk w) (userId : ℤ)
    (hcond : locksByPasswordChange w (.changePassword inputs userId) = false) :
    Ends (changePassword cfg inputs userId) (fun _ s' => LocksOk s') w := by
  refine (ends_userOrError userId _).bind ?_ fun _ _ hr => hr.1 ▸ h
  rintro user w ⟨rfl, hfind⟩
  obtain ⟨hu, -⟩ := mem_of_lockUserById hfind
  refine Ends.raiseIf_bind (fun _ => h) fun hcustomer => ?_
  refine Ends.raiseIf_bind (fun _ => h) fun hfrozen => ?_
  refine Ends.raiseIf_bind (fun _ => h) fun hequal => ?_
  split
  · refine Ends.raiseIf_bind (fun _ => h) fun _ => ?_
    refine (ends_verifyHighRiskAuthorization h hu).bind (fun _ s' hs' => ?_) fun _ _ h => h
    exact (onlyCounters_setCounter ..).locksOk (hs'.locksOk h)
  · next hmatches =>
      refine Ends.bind (ends_recordUserSecurityFailure h hu fun hkept hc hthreshold => ?_)
        (fun _ _ h => h) fun _ _ h => h
      -- this is the lock that the condition excludes
      have hlocks : locksByPasswordChange w (.changePassword inputs userId) = true := by
        have hthreshold' : authLockThreshold ≤ failureAttempts w user.id .passwordChange :=
          hthreshold
        cases haudit : inputs.auditFails "account_lock" with
        | true => simp_all [locksByPasswordChange]
        | false => simp_all [locksByPasswordChange]
      exact absurd (hlocks.symm.trans hcond) (by decide)

theorem ends_changeOwnPassword (h : LocksOk w) (userId : ℤ) :
    Ends (changeOwnPassword cfg inputs userId) (fun _ s' => LocksOk s') w := by
  refine (ends_userOrError userId _).bind ?_ fun _ _ hr => hr.1 ▸ h
  rintro actor w ⟨rfl, hfind⟩
  obtain ⟨hu, -⟩ := mem_of_lockUserById hfind
  refine Ends.raiseIf_bind (fun _ => h) fun hstaff => Ends.raiseIf_bind (fun _ => h) fun _ => ?_
  split
  · refine Ends.raiseIf_bind (fun _ => h) fun _ => ?_
    refine (ends_requireFreshCode h hu).bind (fun _ s' hs' => ?_) fun _ _ h => h
    exact (onlyCounters_setCounter ..).locksOk (hs'.locksOk h)
  · refine Ends.bind (ends_recordUserSecurityFailure h hu fun _ hc _ => ?_) (fun _ _ h => h)
      fun _ _ h => h
    exact absurd hc (of_decide_eq_false hstaff)

theorem ends_authorizeAction (h : LocksOk w) (userId : ℤ) :
    Ends (authorizeAction cfg inputs userId) (fun _ s' => LocksOk s') w := by
  refine (ends_userOrError userId _).bind ?_ fun _ _ hr => hr.1 ▸ h
  rintro user w ⟨rfl, hfind⟩
  obtain ⟨hu, -⟩ := mem_of_lockUserById hfind
  refine (ends_verifyHighRiskAuthorization h hu).mono fun r s' hr => ?_
  cases r with
  | ok _ => exact hr.locksOk h
  | error _ => exact hr

theorem ends_freezeOwnAccount (h : LocksOk w) (userId : ℤ) :
    Ends (freezeOwnAccount cfg inputs userId) (fun _ s' => LocksOk s') w := by
  refine (ends_userOrError userId _).bind ?_ fun _ _ hr => hr.1 ▸ h
  rintro user w ⟨rfl, hfind⟩
  obtain ⟨hu, -⟩ := mem_of_lockUserById hfind
  refine Ends.raiseIf_bind (fun _ => h) fun _ => ?_
  refine (ends_verifyHighRiskAuthorization h hu).bind (fun _ s' hs' => ?_) fun _ _ h => h
  have hok := hs'.locksOk h
  refine Ends.get_bind (Ends.modify_bind ?_)
  split
  · exact hok
  · refine hok.updateUser (fun _ => rfl) fun u hu' _ => ?_
    have hu'' := hok.account u hu'
    exact ⟨fun hf => (nomatch hf), hu''.together, hu''.reviewable⟩

/-- The actor of a review. -/
theorem ends_requireReason {s : LockWorld} :
    Ends (requireReason inputs) (fun _ s' => s' = s) s := by
  unfold requireReason
  refine Ends.raiseIf_bind (fun _ => rfl) fun _ => ?_
  unfold raiseIf
  split
  · exact Ends.throw rfl
  · exact Ends.pure rfl

theorem ends_assertNotSelfCustomerAction {s : LockWorld} (actor target : LockUser) :
    Ends (assertNotSelfCustomerAction cfg actor target) (fun _ s' => s' = s) s := by
  refine Ends.get_bind ?_
  unfold raiseIf
  split
  · exact Ends.throw rfl
  · exact Ends.pure rfl

theorem ends_eligibleCustomer {s : LockWorld} (targetUserId : ℤ) (eligible : LockUser → Bool)
    (error : LockError) :
    Ends (eligibleCustomer targetUserId eligible error) (fun r s' => s' = s ∧ match r with
      | .ok target => lockUserById targetUserId s = some target ∧ eligible target = true
      | .error _ => True) s := by
  refine (ends_userOrError targetUserId error).bind ?_ fun _ _ hr => ⟨hr.1, trivial⟩
  rintro target s ⟨rfl, hfind⟩
  refine Ends.raiseIf_bind (fun _ => ⟨rfl, trivial⟩) fun heligible => Ends.pure ⟨rfl, hfind, ?_⟩
  simpa using heligible

theorem ends_unfreezeCustomerAsStaff (h : LocksOk w) (actorId targetUserId : ℤ) :
    Ends (unfreezeCustomerAsStaff cfg inputs actorId targetUserId) (fun _ s' => LocksOk s') w := by
  refine (ends_userOrError actorId _).bind ?_ fun _ _ hr => hr.1 ▸ h
  rintro actor _ ⟨rfl, hactor⟩
  refine Ends.raiseIf_bind (fun _ => h) fun _ => ?_
  refine ends_requireReason.bind ?_ fun _ _ hs => hs ▸ h
  rintro _ _ rfl
  refine (ends_eligibleCustomer targetUserId _ _).bind ?_ fun _ _ hr => hr.1 ▸ h
  rintro target _ ⟨rfl, htarget, heligible⟩
  refine (ends_assertNotSelfCustomerAction actor target).bind ?_ fun _ _ hs => hs ▸ h
  rintro _ w rfl
  obtain ⟨hactor, -⟩ := mem_of_lockUserById hactor
  obtain ⟨htarget, -⟩ := mem_of_lockUserById htarget
  refine (ends_requireFreshCode h hactor).bind ?_ fun _ _ h => h
  rintro _ s ⟨counters, rfl⟩
  have hok : LocksOk { w with counters := counters } := ⟨h.ids, h.requestIds, h.account⟩
  refine Ends.get_bind (Ends.modify_bind (ends_requireEvent ?_ hok _))
  refine hok.updateUser (fun _ => rfl) fun u hu hid => ?_
  -- the target has no lock reason, so it has no lock time either
  rw [hok.eq_of_id hu htarget hid]
  have hnone : target.securityLockReason = none := by
    simp only [isVoluntaryCustomerSelfFreeze, Bool.and_eq_true] at heligible
    simpa using heligible.2
  have hok' := hok.account target htarget
  have htime : target.securityLockedAt = none := by
    have htogether := hok'.together
    rw [hnone] at htogether
    simpa using htogether.symm
  exact ⟨fun _ => ⟨hnone, htime⟩, hok'.together, hok'.reviewable⟩

theorem ends_freezeCustomerAsStaff (h : LocksOk w) (actorId targetUserId : ℤ) :
    Ends (freezeCustomerAsStaff cfg inputs actorId targetUserId) (fun _ s' => LocksOk s') w := by
  refine (ends_userOrError actorId _).bind ?_ fun _ _ hr => hr.1 ▸ h
  rintro actor _ ⟨rfl, hactor⟩
  refine Ends.raiseIf_bind (fun _ => h) fun _ => ?_
  refine ends_requireReason.bind ?_ fun _ _ hs => hs ▸ h
  rintro _ _ rfl
  refine (ends_eligibleCustomer targetUserId _ _).bind ?_ fun _ _ hr => hr.1 ▸ h
  rintro target _ ⟨rfl, -, -⟩
  refine (ends_assertNotSelfCustomerAction actor target).bind ?_ fun _ _ hs => hs ▸ h
  rintro _ w rfl
  obtain ⟨hactor, -⟩ := mem_of_lockUserById hactor
  refine (ends_requireFreshCode h hactor).bind (fun _ s hs => ?_) fun _ _ h => h
  have hok := hs.locksOk h
  refine Ends.get_bind (Ends.modify_bind ?_)
  split
  · exact hok
  · exact hok.updateUser (fun _ => rfl) fun u _ _ => accountOk_lockFields fun _ => by decide

theorem ends_activeRootAdmin {s : LockWorld} (actorId : ℤ) :
    Ends (activeRootAdmin cfg actorId) (fun r s' => s' = s ∧ match r with
      | .ok actor => lockUserById actorId s = some actor
      | .error _ => True) s := by
  refine (ends_userOrError actorId _).bind ?_ fun _ _ hr => ⟨hr.1, trivial⟩
  rintro actor s ⟨rfl, hactor⟩
  exact Ends.raiseIf_bind (fun _ => ⟨rfl, trivial⟩) fun _ => Ends.pure ⟨rfl, hactor⟩

theorem LocksOk.addRequest (h : LocksOk w) {n : NewRequest} (hn : n.id = w.nextRequestId) :
    LocksOk (addRequest cfg n w) := by
  refine ⟨h.ids, fun r hr => ?_, h.account⟩
  show r.id < w.nextRequestId + 1
  rcases List.mem_append.mp hr with hr | hr
  · have := h.requestIds r hr
    omega
  · rw [List.mem_singleton.mp hr]
    show n.id < w.nextRequestId + 1
    omega

theorem ends_requestCustomerSecurityUnlock (h : LocksOk w) (actorId targetUserId : ℤ) :
    Ends (requestCustomerSecurityUnlock cfg inputs actorId targetUserId)
      (fun _ s' => LocksOk s') w := by
  refine (ends_activeRootAdmin actorId).bind ?_ fun _ _ hr => hr.1 ▸ h
  rintro actor _ ⟨rfl, hactor⟩
  refine ends_requireReason.bind ?_ fun _ _ hs => hs ▸ h
  rintro _ _ rfl
  refine (ends_eligibleCustomer targetUserId _ _).bind ?_ fun _ _ hr => hr.1 ▸ h
  rintro target _ ⟨rfl, -, -⟩
  refine (ends_assertNotSelfCustomerAction actor target).bind ?_ fun _ _ hs => hs ▸ h
  rintro _ w rfl
  obtain ⟨hactor, -⟩ := mem_of_lockUserById hactor
  refine (ends_requireFreshCode h hactor).bind (fun _ s hs => ?_) fun _ _ h => h
  have hok := hs.locksOk h
  refine Ends.get_bind (Ends.modify_bind ?_)
  exact (ends_requireEvent (hok.addRequest rfl) hok _).bind (fun _ _ h => h) fun _ _ h => h

theorem ends_signedPendingRequest (h : LocksOk w) (requestId : ℤ) :
    Ends (signedPendingRequest cfg inputs requestId) (fun r s' => match r with
      | .ok _ => s' = w
      | .error _ => LocksOk s') w := by
  refine Ends.bind (M := fun r s' => match r with
    | .ok _ => s' = w
    | .error _ => LocksOk s') ?_ ?_ fun _ _ h => h
  · refine Ends.get_bind ?_
    split
    · exact h
    · split
      · refine Ends.modify_bind (Ends.bind (ends_requireEvent ?_ h _) (fun _ _ h => h)
          fun _ _ h => h)
        exact h.setRequest fun _ => rfl
      · exact Ends.raiseIf_bind (fun _ => h) fun _ => Ends.pure rfl
  · rintro r _ rfl
    exact Ends.raiseIf_bind (fun _ => h) fun _ => Ends.pure rfl

theorem accountOk_unlockFields (u : LockUser) : AccountOk (unlockFields u) :=
  ⟨fun _ => ⟨rfl, rfl⟩, rfl, fun _ _ heq => (nomatch heq)⟩

theorem ends_executeCustomerSecurityUnlock (h : LocksOk w) (actor : LockUser)
    (r : AdminActionRequest) :
    Ends (executeCustomerSecurityUnlock cfg inputs actor r) (fun _ s' => LocksOk s') w := by
  refine Ends.get_bind ?_
  refine (ends_eligibleCustomer _ _ _).bind ?_ fun _ _ hr => hr.1 ▸ h
  rintro target _ ⟨rfl, -, -⟩
  refine (ends_assertNotSelfCustomerAction actor target).bind ?_ fun _ _ hs => hs ▸ h
  rintro _ w rfl
  refine Ends.raiseIf_bind (fun _ => h) fun _ => Ends.modify_bind (Ends.modify_bind
    (Ends.modify_bind ?_))
  have hpassword := (onlyCounters_setCounter w target.id .password none).locksOk h
  have hmfa := (onlyCounters_setCounter _ target.id .mfa none).locksOk hpassword
  refine ends_requireEvent ?_ h _
  exact hmfa.updateUser (fun _ => rfl) fun u _ _ => accountOk_unlockFields u

theorem ends_markExecutionFailed {s : LockWorld} (h : LocksOk w) (actor : LockUser)
    (requestId : ℤ) :
    Ends (markExecutionFailed inputs w actor requestId)
      (fun r s' => (∃ e, r = .error e) ∧ LocksOk s') s := by
  refine Ends.set_bind (Ends.modify_bind ?_)
  refine Ends.bind (ends_requireEvent ?_ h _) (fun _ _ h => ?_) fun e _ h => ?_
  · exact h.setRequest fun _ => rfl
  · exact ⟨⟨_, rfl⟩, h⟩
  · exact ⟨⟨e, rfl⟩, h⟩

theorem ends_approveAdminActionRequest (h : LocksOk w) (actorId requestId : ℤ) :
    Ends (approveAdminActionRequest cfg inputs actorId requestId) (fun _ s' => LocksOk s') w := by
  refine (ends_activeRootAdmin actorId).bind ?_ fun _ _ hr => hr.1 ▸ h
  rintro actor _ ⟨rfl, hactor⟩
  refine (ends_signedPendingRequest h requestId).bind ?_ fun _ _ h => h
  rintro r w rfl
  refine Ends.get_bind (Ends.raiseIf_bind (fun _ => h) fun _ => ?_)
  refine Ends.raiseIf_bind (fun _ => h) fun _ => ?_
  obtain ⟨hactor, -⟩ := mem_of_lockUserById hactor
  refine (ends_requireFreshCode h hactor).bind (fun _ s hs => ?_) fun _ _ h => h
  have hok := hs.locksOk h
  refine Ends.get_bind ?_
  refine Ends.bind (M := fun _ s' => LocksOk s') ?_ (fun _ s' hs' => ?_) fun _ _ h => h
  · refine (ends_executeCustomerSecurityUnlock hok actor r).tryCatch (fun _ _ h => h) ?_
    exact fun _ _ _ => (ends_markExecutionFailed hok actor requestId).mono fun _ _ h => h.2
  · refine Ends.modify_bind (ends_requireEvent ?_ hok _)
    exact hs'.setRequest fun _ => rfl

/-- A rejection or a cancellation, after its checks. -/
theorem ends_decideRequest (h : LocksOk w) {actor : LockUser} (hactor : actor ∈ w.users)
    (requestId : ℤ) {f : AdminActionRequest → AdminActionRequest} (hf : ∀ r, (f r).id = r.id)
    (eventType : String) :
    Ends (do
      requireFreshCode cfg inputs actor
      let committed ← get
      modify (setRequest requestId f)
      requireEvent inputs committed eventType) (fun _ s' => LocksOk s') w := by
  refine (ends_requireFreshCode h hactor).bind (fun _ s hs => ?_) fun _ _ h => h
  have hok := hs.locksOk h
  exact Ends.get_bind (Ends.modify_bind (ends_requireEvent (hok.setRequest hf) hok _))

theorem ends_rejectAdminActionRequest (h : LocksOk w) (actorId requestId : ℤ) :
    Ends (rejectAdminActionRequest cfg inputs actorId requestId) (fun _ s' => LocksOk s') w := by
  refine (ends_activeRootAdmin actorId).bind ?_ fun _ _ hr => hr.1 ▸ h
  rintro actor _ ⟨rfl, hactor⟩
  refine (ends_signedPendingRequest h requestId).bind ?_ fun _ _ h => h
  rintro r w rfl
  refine Ends.raiseIf_bind (fun _ => h) fun _ => ?_
  exact ends_decideRequest h (mem_of_lockUserById hactor).1 requestId (by intro; rfl) _

theorem ends_cancelAdminActionRequest (h : LocksOk w) (actorId requestId : ℤ) :
    Ends (cancelAdminActionRequest cfg inputs actorId requestId) (fun _ s' => LocksOk s') w := by
  refine (ends_activeRootAdmin actorId).bind ?_ fun _ _ hr => hr.1 ▸ h
  rintro actor _ ⟨rfl, hactor⟩
  refine (ends_signedPendingRequest h requestId).bind ?_ fun _ _ h => h
  rintro r w rfl
  refine Ends.raiseIf_bind (fun _ => h) fun _ => ?_
  exact ends_decideRequest h (mem_of_lockUserById hactor).1 requestId (by intro; rfl) _

theorem LocksOk.register (h : LocksOk w) {id : ℤ} (hid : Admin.lockUserById id w = none)
    (email : String) (accountType : StaffRole) :
    LocksOk { w with users := w.users ++ [newAccount id email accountType] } := by
  refine ⟨?_, h.requestIds, fun u hu => ?_⟩
  · show ((w.users ++ [newAccount id email accountType]).map LockUser.id).Nodup
    rw [List.map_append]
    refine List.nodup_append.mpr ⟨h.ids, by simp, ?_⟩
    rintro a ha b hb rfl
    obtain ⟨u, hu, rfl⟩ := List.mem_map.mp ha
    have hne := List.find?_eq_none.mp hid u hu
    exact hne (decide_eq_true (List.mem_singleton.mp hb))
  · rcases List.mem_append.mp hu with hu | hu
    · exact h.account u hu
    · rw [List.mem_singleton.mp hu]
      exact ⟨fun _ => ⟨rfl, rfl⟩, rfl, fun _ _ heq => (nomatch heq)⟩

/-- A request that locks nobody by password changes keeps the locks in order. -/
theorem ends_lockOp (h : LocksOk w) (op : LockOp) (hcond : locksByPasswordChange w op = false) :
    Ends (op.call cfg) (fun _ s' => LocksOk s') w := by
  cases op with
  | login inputs userId => exact ends_authenticatePrimary h userId
  | adminLogin inputs userId => exact ends_authenticateAdminPrimary h userId
  | mfa inputs userId => exact ends_completePendingMfa h userId
  | changePassword inputs userId => exact ends_changePassword h userId hcond
  | changeOwnPassword inputs userId => exact ends_changeOwnPassword h userId
  | authorize inputs userId => exact ends_authorizeAction h userId
  | selfFreeze inputs userId => exact ends_freezeOwnAccount h userId
  | staffFreeze inputs actorId targetId => exact ends_freezeCustomerAsStaff h actorId targetId
  | staffUnfreeze inputs actorId targetId => exact ends_unfreezeCustomerAsStaff h actorId targetId
  | requestUnlock inputs actorId targetId =>
      exact (ends_requestCustomerSecurityUnlock h actorId targetId).discard
  | approve inputs actorId requestId => exact ends_approveAdminActionRequest h actorId requestId
  | reject inputs actorId requestId => exact ends_rejectAdminActionRequest h actorId requestId
  | cancel inputs actorId requestId => exact ends_cancelAdminActionRequest h actorId requestId
  | register id email accountType =>
      show LocksOk (if (lockUserById id w).isSome then w else _)
      split
      · exact h
      · next hid => exact h.register (by simpa using hid) email accountType
  | edit userId email personal status mfaEnabled =>
      refine h.updateUser (fun _ => rfl) fun u hu _ => ?_
      have hok := h.account u hu
      exact ⟨hok.unfrozen, hok.together, hok.reviewable⟩
  | link links => exact ⟨h.ids, h.requestIds, h.account⟩
  | wait time => exact ⟨h.ids, h.requestIds, h.account⟩

end Requests

/-! ### Reviews that go through -/

/-- A review with a reason and a valid code, whose events can be written. -/
structure ReviewInputs (inputs : LockInputs) : Prop where
  code : inputs.code = .valid
  reason : strip inputs.reason.toList ≠ []
  short : (strip inputs.reason.toList).length ≤ 512
  audited : ∀ eventType, inputs.auditFails eventType = false

/-- The account is not frozen any more. -/
def Unfrozen (id : ℤ) (w : LockWorld) : Prop :=
  ∃ u, lockUserById id w = some u ∧ u.isFrozen = false

section Reviews

variable {cfg : LockConfig} {inputs : LockInputs} {w s : LockWorld}

theorem run_userOrError {id : ℤ} {u : LockUser} (h : lockUserById id s = some u)
    (error : LockError) : userOrError id error s = .ok u s := by
  rw [userOrError, run_get_bind, h]
  rfl

theorem run_requireReason (h : ReviewInputs inputs) : requireReason inputs s = .ok () s := by
  have hempty : (strip inputs.reason.toList).isEmpty = false := by
    simpa using h.reason
  have hlong : decide (512 < (strip inputs.reason.toList).length) = false := by
    simpa using h.short
  show (raiseIf _ _ >>= fun _ => raiseIf _ _) s = _
  rw [hempty, hlong]
  rfl

theorem run_eligibleCustomer {id : ℤ} {u : LockUser} {eligible : LockUser → Bool}
    (h : lockUserById id s = some u) (he : eligible u = true) (error : LockError) :
    eligibleCustomer id eligible error s = .ok u s := by
  show (userOrError id error >>= fun target => raiseIf (!eligible target) error >>= fun _ =>
    pure target) s = _
  have hrun := run_userOrError h error
  show EStateM.bind _ _ s = _
  unfold EStateM.bind
  rw [hrun]
  show (raiseIf (!eligible u) error >>= fun _ => pure u) s = _
  rw [he]
  rfl

theorem run_assertNotSelfCustomerAction {actor target : LockUser}
    (h : selfCustomerAction cfg s actor target = false) :
    assertNotSelfCustomerAction cfg actor target s = .ok () s := by
  show raiseIf (selfCustomerAction cfg s actor target) _ s = _
  rw [h]
  rfl

theorem run_requireFreshCode (h : ReviewInputs inputs) (actor : LockUser) :
    requireFreshCode cfg inputs actor s = .ok () (setCounter actor.id .mfa none s) := by
  unfold requireFreshCode verifyTotpForUserOutcome
  rw [h.code]
  rfl

theorem run_requireEvent (h : ReviewInputs inputs) (committed : LockWorld) (eventType : String) :
    requireEvent inputs committed eventType s = .ok () s := by
  unfold requireEvent
  rw [h.audited eventType]
  rfl

/-- The row of an updated user. -/
theorem lockUserById_updateUser {u : LockUser} {f : LockUser → LockUser}
    (h : lockUserById u.id s = some u) (hid : ∀ v, (f v).id = v.id) :
    lockUserById u.id (updateUser u.id f s) = some (f u) := by
  have hsame : ∀ v : LockUser, decide ((if v.id = u.id then f v else v).id = u.id) =
      decide (v.id = u.id) := by
    intro v
    split
    · rw [hid]
    · rfl
  unfold lockUserById updateUser at *
  rw [List.find?_map]
  have hcomp : (fun v => decide (v.id = u.id)) ∘ (fun v => if v.id = u.id then f v else v) =
      fun v => decide (v.id = u.id) := funext hsame
  rw [hcomp, h]
  simp

theorem unfreezeCustomerAsStaff_accepted (h : LocksOk w) {u actor : LockUser} (hu : u ∈ w.users)
    (hactor : actor ∈ w.users) (hfrozen : isVoluntaryCustomerSelfFreeze u = true)
    (hstaff : isPlainStaffUser actor = true) (hunlinked : selfCustomerAction cfg w actor u = false)
    (hinputs : ReviewInputs inputs) :
    Ends (unfreezeCustomerAsStaff cfg inputs actor.id u.id)
      (fun r s' => r = .ok () ∧ Unfrozen u.id s') w := by
  refine .bind_ok (run_userOrError (h.lockUserById hactor) _) ?_
  refine Ends.raiseIf_bind (fun hc => absurd hstaff (by simpa using hc)) fun _ => ?_
  refine .bind_ok (run_requireReason hinputs) ?_
  refine .bind_ok (run_eligibleCustomer (h.lockUserById hu) hfrozen _) ?_
  refine .bind_ok (run_assertNotSelfCustomerAction hunlinked) ?_
  refine .bind_ok (run_requireFreshCode hinputs actor) (Ends.get_bind (Ends.modify_bind ?_))
  unfold Ends
  rw [run_requireEvent hinputs]
  exact ⟨rfl, _, lockUserById_updateUser (h.lockUserById hu) (fun _ => rfl), rfl⟩

/-- The request that a root administrator makes for a locked customer. -/
def unlockRequest (w : LockWorld) (requester target : LockUser) (reason : String) : NewRequest where
  operation := .securityUnlock target.securityLockReason target.securityLockedAt
  targetId := target.id
  id := w.nextRequestId
  requesterId := requester.id
  requesterRole := "root_admin"
  reason := reason
  now := w.clock

theorem run_activeRootAdmin {actor : LockUser} (h : lockUserById actor.id s = some actor)
    (hroot : isActiveRootAdmin cfg actor = true) :
    activeRootAdmin cfg actor.id s = .ok actor s := by
  show EStateM.bind (userOrError actor.id forbiddenError) _ s = _
  unfold EStateM.bind
  rw [run_userOrError h]
  show (raiseIf (!isActiveRootAdmin cfg actor) forbiddenError >>= fun _ => pure actor) s = _
  rw [hroot]
  rfl

theorem requestCustomerSecurityUnlock_accepted (h : LocksOk w) {u requester : LockUser}
    (hu : u ∈ w.users) (hrequester : requester ∈ w.users) (hlocked : isLockedCustomer u = true)
    (hroot : isActiveRootAdmin cfg requester = true)
    (hunlinked : selfCustomerAction cfg w requester u = false) (hinputs : ReviewInputs inputs) :
    Ends (requestCustomerSecurityUnlock cfg inputs requester.id u.id) (fun r s' =>
      r = .ok w.nextRequestId ∧ ∃ counters, s' =
        addRequest cfg (unlockRequest w requester u inputs.reason) { w with counters := counters })
      w := by
  refine .bind_ok (run_activeRootAdmin (h.lockUserById hrequester) hroot) ?_
  refine .bind_ok (run_requireReason hinputs) ?_
  refine .bind_ok (run_eligibleCustomer (h.lockUserById hu) hlocked _) ?_
  refine .bind_ok (run_assertNotSelfCustomerAction hunlinked) ?_
  refine .bind_ok (run_requireFreshCode hinputs requester) (Ends.get_bind (Ends.modify_bind ?_))
  refine .bind_ok (run_requireEvent hinputs _ _) (Ends.pure ⟨rfl, _, rfl⟩)

theorem hmacValid_created (cfg : ActionConfig) (n : NewRequest) :
    hmacValid cfg (createAdminActionRequest cfg n) = true :=
  decide_eq_true rfl

/-- The request that was made last, before it expires. -/
theorem run_signedPendingRequest (h : LocksOk w) {n : NewRequest} (hid : n.id = w.nextRequestId)
    (hrequests : s.requests = w.requests ++ [createAdminActionRequest cfg.toActionConfig n])
    (hclock : s.clock < n.now + adminActionRequestTtl) :
    signedPendingRequest cfg inputs n.id s =
      .ok (createAdminActionRequest cfg.toActionConfig n) s := by
  have hfind : s.requests.find? (fun r => r.id = n.id) =
      some (createAdminActionRequest cfg.toActionConfig n) := by
    have hnone : w.requests.find? (fun r => r.id = n.id) = none := by
      refine List.find?_eq_none.mpr fun r hr => ?_
      have hlt := h.requestIds r hr
      simp only [decide_eq_true_eq]
      omega
    rw [hrequests, List.find?_append, hnone, Option.none_or, List.find?_singleton]
    exact if_pos (decide_eq_true rfl)
  have hpending : pendingRequestOrError inputs n.id s =
      .ok (createAdminActionRequest cfg.toActionConfig n) s := by
    rw [pendingRequestOrError, run_get_bind, hfind]
    have hfresh : ¬(createAdminActionRequest cfg.toActionConfig n).expiresAt ≤ s.clock := by
      show ¬n.now + adminActionRequestTtl ≤ s.clock
      omega
    have hstatus : (createAdminActionRequest cfg.toActionConfig n).status = .pending := rfl
    simp only [hstatus, hfresh, decide_true, decide_false, Bool.and_false, Bool.false_eq_true,
      if_false]
    rfl
  show EStateM.bind (pendingRequestOrError inputs n.id) _ s = _
  unfold EStateM.bind
  rw [hpending]
  show (raiseIf (!hmacValid cfg.toActionConfig (createAdminActionRequest cfg.toActionConfig n)) _
    >>= fun _ => pure _) s = _
  rw [hmacValid_created]
  rfl

/-- The lock is found as it was reviewed. -/
theorem currentLockTexts_created {u : LockUser} {reason : LockReason} {instant : ℤ}
    (hreason : u.securityLockReason = some reason) (htime : u.securityLockedAt = some instant)
    {n : NewRequest} (hn : n.operation = .securityUnlock u.securityLockReason u.securityLockedAt) :
    currentLockTexts cfg.toTextOps u =
      (payloadText cfg.toTextOps (createAdminActionRequest cfg.toActionConfig n) lockReasonKey,
        payloadText cfg.toTextOps (createAdminActionRequest cfg.toActionConfig n) lockedAtKey) := by
  rw [hreason, htime] at hn
  have hreasonText : payloadText cfg.toTextOps (createAdminActionRequest cfg.toActionConfig n)
      lockReasonKey = normalText cfg.toTextOps (.ofString reason.text) := by
    refine payloadText_of_lookup _ n (by decide) ?_
    rw [hn]
    rfl
  have htimeText : payloadText cfg.toTextOps (createAdminActionRequest cfg.toActionConfig n)
      lockedAtKey = normalText cfg.toTextOps (.ofString (isoOffset instant)) := by
    refine payloadText_of_lookup _ n (by decide) ?_
    rw [hn]
    rfl
  have hstrip : (PyStr.ofString reason.text).strip = PyStr.ofString reason.text := by
    cases reason <;> decide
  rw [hreasonText, htimeText]
  unfold currentLockTexts normalText
  rw [hreason, htime, hstrip, strip_isoOffset]
  rfl

/-- The target of a request is found by its text. -/
theorem find_idText (h : LocksOk s) {u : LockUser} (hu : u ∈ s.users) :
    ((s.users.find? fun v => idText v.id = idText u.id).map (·.id)).getD 0 = u.id := by
  have hsame : (fun v : LockUser => decide (idText v.id = idText u.id)) =
      fun v => decide (v.id = u.id) := by
    ext v
    have hiff : idText v.id = idText u.id ↔ v.id = u.id :=
      ⟨idText_injective, congrArg idText⟩
    simp only [hiff]
  have hfind : s.users.find? (fun v => decide (v.id = u.id)) = some u := h.lockUserById hu
  rw [hsame, hfind]
  rfl

theorem run_executeCustomerSecurityUnlock (h : LocksOk s) {u approver : LockUser}
    (hu : u ∈ s.users) (hlocked : isLockedCustomer u = true)
    (hunlinked : selfCustomerAction cfg s approver u = false) (hinputs : ReviewInputs inputs)
    {n : NewRequest} (htarget : n.targetId = u.id)
    (hn : n.operation = .securityUnlock u.securityLockReason u.securityLockedAt) :
    executeCustomerSecurityUnlock cfg inputs approver
      (createAdminActionRequest cfg.toActionConfig n) s =
        .ok () (updateUser u.id unlockFields
          (setCounter u.id .mfa none (setCounter u.id .password none s))) := by
  have hreason : ∃ reason, u.securityLockReason = some reason := by
    unfold isLockedCustomer at hlocked
    cases hr : u.securityLockReason with
    | none => simp [hr] at hlocked
    | some reason => exact ⟨reason, rfl⟩
  have htime : ∃ instant, u.securityLockedAt = some instant := by
    have hcustomer := hlocked
    unfold isLockedCustomer at hcustomer
    simp only [Bool.and_eq_true] at hcustomer
    exact Option.isSome_iff_exists.mp hcustomer.1.2
  obtain ⟨reason, hreason⟩ := hreason
  obtain ⟨instant, htime⟩ := htime
  have hid : ((s.users.find? fun v => idText v.id =
      (createAdminActionRequest cfg.toActionConfig n).targetId).map (·.id)).getD 0 = u.id := by
    show ((s.users.find? fun v => idText v.id = idText n.targetId).map (·.id)).getD 0 = u.id
    rw [htarget]
    exact find_idText h hu
  refine Ends.eq_ok (Ends.get_bind ?_)
  rw [hid]
  refine .bind_ok (run_eligibleCustomer (h.lockUserById hu) hlocked _) ?_
  refine .bind_ok (run_assertNotSelfCustomerAction hunlinked) ?_
  refine Ends.raiseIf_bind (fun hc => ?_) fun _ => ?_
  · have hne := of_decide_eq_true hc
    exact absurd (currentLockTexts_created hreason htime hn) hne
  · refine Ends.modify_bind (Ends.modify_bind (Ends.modify_bind ?_))
    unfold Ends
    rw [run_requireEvent hinputs]
    exact ⟨rfl, rfl⟩

theorem unlock_of_execute {u : LockUser} (hu : lockUserById u.id s = some u) :
    Unfrozen u.id (updateUser u.id unlockFields
      (setCounter u.id .mfa none (setCounter u.id .password none s))) :=
  ⟨_, lockUserById_updateUser hu (fun _ => rfl), rfl⟩

/-- The second root administrator lets the reviewed lock go. -/
theorem approveAdminActionRequest_accepted (h : LocksOk w) {u requester approver : LockUser}
    (hu : u ∈ w.users) (hrequester : requester ∈ w.users) (happrover : approver ∈ w.users)
    (hlocked : isLockedCustomer u = true) (hrequesterRoot : isActiveRootAdmin cfg requester = true)
    (happroverRoot : isActiveRootAdmin cfg approver = true) (hother : requester.id ≠ approver.id)
    (hunlinked : selfCustomerAction cfg w approver u = false) (hinputs : ReviewInputs inputs)
    {reason : String} {counters : ℤ → FailureScope → Option AuthAttemptCounter} {delay : ℕ}
    (hdelay : delay < adminActionRequestTtl)
    (hs : s = addRequest cfg (unlockRequest w requester u reason)
      { w with counters := counters, clock := w.clock + delay }) :
    Ends (approveAdminActionRequest cfg inputs approver.id w.nextRequestId)
      (fun r s' => r = .ok () ∧ Unfrozen u.id s') s := by
  -- the request added a row and let time pass; the accounts are those of before
  have hrow : ∀ v ∈ w.users, lockUserById v.id s = some v := by
    intro v hv
    rw [hs]
    exact h.lockUserById hv
  have hclock : s.clock < w.clock + adminActionRequestTtl := by
    rw [hs]
    show w.clock + delay < w.clock + adminActionRequestTtl
    omega
  refine .bind_ok (run_activeRootAdmin (hrow _ happrover) happroverRoot) ?_
  refine .bind_ok (run_signedPendingRequest h (n := unlockRequest w requester u reason) rfl
    (by rw [hs]; rfl) hclock) (Ends.get_bind ?_)
  refine Ends.raiseIf_bind (fun hc => ?_) fun _ => ?_
  · have hfound : lockUserById (createAdminActionRequest cfg.toActionConfig
        (unlockRequest w requester u reason)).requesterId s = some requester := hrow _ hrequester
    rw [hfound] at hc
    simp [hrequesterRoot] at hc
  refine Ends.raiseIf_bind (fun hc => absurd (of_decide_eq_true hc) hother) fun _ => ?_
  refine .bind_ok (run_requireFreshCode hinputs approver) (Ends.get_bind ?_)
  -- the verified code cleared a counter, nothing else
  have hok : LocksOk (setCounter approver.id .mfa none s) := by
    rw [hs]
    exact ⟨h.ids, (h.addRequest rfl).requestIds, h.account⟩
  have hlive : u ∈ (setCounter approver.id .mfa none s).users := by
    rw [hs]
    exact hu
  have hfree : selfCustomerAction cfg (setCounter approver.id .mfa none s) approver u = false := by
    rw [hs]
    exact hunlinked
  have hexecute := run_executeCustomerSecurityUnlock hok hlive hlocked hfree hinputs
    (n := unlockRequest w requester u reason) rfl rfl
  refine .bind_ok (tryCatch_ok hexecute _) (Ends.modify_bind ?_)
  unfold Ends
  rw [run_requireEvent hinputs]
  exact ⟨rfl, unlock_of_execute (hrow _ hu)⟩

end Reviews

/-! ### Runs -/

/-- The staff queue's operation lifts the freeze, for every unlinked member of the
staff. -/
def StaffUnlocks (cfg : LockConfig) (w : LockWorld) (u : LockUser) : Prop :=
  ∀ inputs, ReviewInputs inputs → ∀ actor ∈ w.users, isPlainStaffUser actor = true →
    selfCustomerAction cfg w actor u = false →
    Ends (unfreezeCustomerAsStaff cfg inputs actor.id u.id)
      (fun r s => r = .ok () ∧ Unfrozen u.id s) w

/-- The root administrators' operation lifts the lock: one of them asks, and another
one approves before the request expires. -/
def RootAdminsUnlock (cfg : LockConfig) (w : LockWorld) (u : LockUser) : Prop :=
  ∀ inputs inputs', ReviewInputs inputs → ReviewInputs inputs' →
    ∀ requester ∈ w.users, ∀ approver ∈ w.users,
    isActiveRootAdmin cfg requester = true → isActiveRootAdmin cfg approver = true →
    selfCustomerAction cfg w requester u = false → selfCustomerAction cfg w approver u = false →
    requester.id ≠ approver.id →
    Ends (requestCustomerSecurityUnlock cfg inputs requester.id u.id) (fun r s =>
      ∃ requestId, r = .ok requestId ∧ ∀ delay : ℕ, delay < adminActionRequestTtl →
        Ends (approveAdminActionRequest cfg inputs' approver.id requestId)
          (fun r' s' => r' = .ok () ∧ Unfrozen u.id s') { s with clock := s.clock + delay }) w

/-- One request that locks nobody by password changes. -/
def LockStep (cfg : LockConfig) (w w' : LockWorld) : Prop :=
  ∃ op, locksByPasswordChange w op = false ∧ w' = after (LockOp.call cfg op) w

abbrev LockRun (cfg : LockConfig) : LockWorld → LockWorld → Prop :=
  Relation.ReflTransGen (LockStep cfg)

/-- Nobody is registered yet. -/
def noAccounts (clock : ℤ) : LockWorld where
  clock := clock
  users := []
  counters _ _ := none
  links := []
  requests := []
  nextRequestId := 1

theorem locksOk_noAccounts (clock : ℤ) : LocksOk (noAccounts clock) :=
  ⟨.nil, fun _ h => (nomatch h), fun _ h => (nomatch h)⟩

theorem locksOk_run {cfg : LockConfig} {w w' : LockWorld} (hw : LocksOk w)
    (h : LockRun cfg w w') : LocksOk w' := by
  induction h with
  | refl => exact hw
  | tail _ hstep ih =>
      obtain ⟨op, hcond, rfl⟩ := hstep
      exact (ends_lockOp ih op hcond).after

theorem LocksOk.staffUnlocks {cfg : LockConfig} {w : LockWorld} (h : LocksOk w) {u : LockUser}
    (hu : u ∈ w.users) (hfrozen : isVoluntaryCustomerSelfFreeze u = true) :
    StaffUnlocks cfg w u :=
  fun _ hinputs _ hactor hstaff hunlinked =>
    unfreezeCustomerAsStaff_accepted h hu hactor hfrozen hstaff hunlinked hinputs

theorem LocksOk.rootAdminsUnlock {cfg : LockConfig} {w : LockWorld} (h : LocksOk w) {u : LockUser}
    (hu : u ∈ w.users) (hlocked : isLockedCustomer u = true) : RootAdminsUnlock cfg w u := by
  intro inputs inputs' hinputs hinputs' requester hrequester approver happrover hrequesterRoot
    happroverRoot hunlinked hunlinked' hother
  refine (requestCustomerSecurityUnlock_accepted h hu hrequester hlocked hrequesterRoot hunlinked
    hinputs).mono ?_
  rintro _ _ ⟨rfl, counters, rfl⟩
  refine ⟨_, rfl, fun delay hdelay => ?_⟩
  exact approveAdminActionRequest_accepted h hu hrequester happrover hlocked hrequesterRoot
    happroverRoot hother hunlinked' hinputs' hdelay rfl

/-- A frozen customer whose lock fields are in order waits in one queue. -/
theorem AccountOk.queued {u : LockUser} (h : AccountOk u) (hcustomer : u.accountType = .customer)
    (hfrozen : u.isFrozen = true) :
    isVoluntaryCustomerSelfFreeze u = !isLockedCustomer u := by
  unfold isVoluntaryCustomerSelfFreeze isLockedCustomer
  rw [hcustomer, hfrozen, ← h.together]
  cases hreason : u.securityLockReason with
  | none => rfl
  | some reason =>
      have hmem := h.reviewable hcustomer reason hreason
      simp [hmem]

/-- While no request locks a customer by failed password changes, every frozen or
locked customer is in exactly one queue and that queue's operation lifts the lock,
and an account that is not frozen carries no lock. -/
theorem locked_customers_reviewed (cfg : LockConfig) (clock : ℤ) {w : LockWorld}
    (h : LockRun cfg (noAccounts clock) w) {u : LockUser} (hu : u ∈ w.users)
    (hcustomer : u.accountType = .customer) :
    (u.isFrozen = true ∨ u.securityLockedAt.isSome = true →
      (u ∈ selfFrozenCustomersForStaff w ∧ u ∉ lockedCustomersForAdmin w ∧ StaffUnlocks cfg w u) ∨
      (u ∉ selfFrozenCustomersForStaff w ∧ u ∈ lockedCustomersForAdmin w ∧
        RootAdminsUnlock cfg w u)) ∧
    (u.isFrozen = false → u.securityLockReason = none ∧ u.securityLockedAt = none) := by
  have hw := locksOk_run (locksOk_noAccounts clock) h
  have hok := hw.account u hu
  refine ⟨fun hlocked => ?_, hok.unfrozen⟩
  have hfrozen : u.isFrozen = true := by
    rcases hlocked with hfrozen | htime
    · exact hfrozen
    · by_contra hne
      rw [(hok.unfrozen (Bool.eq_false_iff.mpr hne)).2] at htime
      exact nomatch htime
  have hqueued := hok.queued hcustomer hfrozen
  unfold selfFrozenCustomersForStaff lockedCustomersForAdmin
  simp only [List.mem_filter, hu, true_and]
  cases hadmin : isLockedCustomer u with
  | false =>
      rw [hadmin] at hqueued
      exact .inl ⟨hqueued, Bool.false_ne_true, hw.staffUnlocks hu hqueued⟩
  | true =>
      rw [hadmin] at hqueued
      refine .inr ⟨?_, rfl, hw.rootAdminsUnlock hu hadmin⟩
      rw [hqueued]
      exact Bool.false_ne_true

/-! ### A lock in neither queue -/

def sampleLockConfig : LockConfig where
  toActionConfig := sampleActionConfig
  customerMfaFailureLimit := 5
  isAdminWorkplaceEmail _ := true
  isRootAdminEmail email := ["root@bank", "deputy@bank"].contains email
  normalizedEmail := id

/-- Wrong passwords. -/
def failingInputs : LockInputs where
  backoff := false
  passwordMatches := false
  passwordsEqual := true
  newPasswordAccepted := true
  mfaFailureLimited := false
  code := .invalid
  reason := ""
  auditFails _ := false
  leftoversCommitted := false

def afterLockOps (ops : List LockOp) : LockWorld :=
  ops.foldl (fun w op => after (op.call sampleLockConfig) w) (noAccounts 0)

/-- A reason, a valid code and events that are written. -/
def acceptedInputs : LockInputs :=
  { failingInputs with code := .valid, reason := "reviewed" }

theorem reviewInputs_acceptedInputs : ReviewInputs acceptedInputs where
  code := rfl
  reason := by decide
  short := by decide
  audited _ := rfl

/-- A customer with three failed logins, and two root administrators. -/
def failedLogins : List LockOp :=
  [.register 1 "customer@mail" .customer,
    .register 2 "root@bank" .rootAdmin, .edit 2 "root@bank" "" .active true,
    .register 3 "deputy@bank" .rootAdmin, .edit 3 "deputy@bank" "" .active true,
    .login failingInputs 1, .login failingInputs 1, .login failingInputs 1]

def lockedCustomer (reason : LockReason) : LockUser :=
  lockFields reason 0 (newAccount 1 "customer@mail" .customer)

/-- A root administrator with a second factor. -/
def rootReviewer (id : ℤ) (email : String) : LockUser :=
  { newAccount id email .rootAdmin with mfaEnabled := true }

theorem failedLogins_users :
    (afterLockOps failedLogins).users = [lockedCustomer .passwordFailedAttempts,
      rootReviewer 2 "root@bank", rootReviewer 3 "deputy@bank"] := by
  decide +kernel

theorem lockRun_afterLockOps {ops : List LockOp}
    (h : ∀ w, ∀ op ∈ ops, locksByPasswordChange w op = false) :
    LockRun sampleLockConfig (noAccounts 0) (afterLockOps ops) := by
  unfold afterLockOps
  generalize noAccounts 0 = w
  induction ops generalizing w with
  | nil => exact .refl
  | cons op ops ih =>
      refine .head ⟨op, h w op List.mem_cons_self, rfl⟩ (ih (fun w op' hop => ?_) _)
      exact h w op' (List.mem_cons_of_mem op hop)

theorem lockRun_failedLogins :
    LockRun sampleLockConfig (noAccounts 0) (afterLockOps failedLogins) := by
  refine lockRun_afterLockOps fun w op hop => ?_
  simp only [failedLogins, List.mem_cons, List.not_mem_nil, or_false] at hop
  rcases hop with rfl | rfl | rfl | rfl | rfl | rfl | rfl | rfl <;> rfl

/-- A customer who is locked out by failed logins waits for the root administrators;
when one of them asks and the other one approves, the account is not frozen any more. -/
theorem locked_customers_reviewed_failedLogins :
    lockedCustomer .passwordFailedAttempts ∈ lockedCustomersForAdmin (afterLockOps failedLogins) ∧
      Ends (requestCustomerSecurityUnlock sampleLockConfig acceptedInputs 2 1) (fun r s =>
        ∃ requestId, r = .ok requestId ∧ ∀ delay : ℕ, delay < adminActionRequestTtl →
          Ends (approveAdminActionRequest sampleLockConfig acceptedInputs 3 requestId)
            (fun r' s' => r' = .ok () ∧ Unfrozen 1 s') { s with clock := s.clock + delay })
        (afterLockOps failedLogins) := by
  have husers := failedLogins_users
  have hu : lockedCustomer .passwordFailedAttempts ∈ (afterLockOps failedLogins).users := by
    simp [husers]
  have hroot : rootReviewer 2 "root@bank" ∈ (afterLockOps failedLogins).users := by simp [husers]
  have hdeputy : rootReviewer 3 "deputy@bank" ∈ (afterLockOps failedLogins).users := by
    simp [husers]
  have h := locked_customers_reviewed sampleLockConfig 0 lockRun_failedLogins hu rfl
  rcases h.1 (.inl rfl) with ⟨hqueue, -⟩ | ⟨-, hqueue, hunlock⟩
  · exact absurd (List.mem_filter.mp hqueue).2 (by decide)
  · refine ⟨hqueue, ?_⟩
    exact hunlock acceptedInputs acceptedInputs reviewInputs_acceptedInputs
      reviewInputs_acceptedInputs _ hroot _ hdeputy (by decide) (by decide) (by decide +kernel)
      (by decide +kernel) (by decide)

/-- Ten password changes with a wrong current password. -/
def failedPasswordChanges : List LockOp :=
  .register 1 "customer@mail" .customer :: List.replicate 10 (.changePassword failingInputs 1)

theorem failedPasswordChanges_in_no_queue :
    (afterLockOps failedPasswordChanges).users =
        [lockedCustomer .passwordChangeFailedAttempts] ∧
      (lockedCustomer .passwordChangeFailedAttempts).isFrozen = true ∧
      selfFrozenCustomersForStaff (afterLockOps failedPasswordChanges) = [] ∧
      lockedCustomersForAdmin (afterLockOps failedPasswordChanges) = [] := by
  decide +kernel

end SitBank.Admin
