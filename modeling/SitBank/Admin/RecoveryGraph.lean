import SitBank.Admin.Cases
import SitBank.Admin.ReviewQueues

/-!
Requests for manual recovery move along `manualRecoveryAllowedTransitions`.

Most functions that write a status look at the old one. The two validations of the
administrators' requests do not: they expire whatever is past its time, also a
request that was denied or completed long ago. In runs without such a request
(`overwritesDecision`) every change of a status is an edge of the graph, and a status
without edges is final.
-/

namespace SitBank.Admin

open SitBank.Interaction SitBank.Python

/-! ### Following the rows -/

structure RecoveriesOk (w : CaseWorld) : Prop where
  ids : (w.recoveries.map ManualRecoveryRequest.id).Nodup
  below : ∀ r ∈ w.recoveries, r.id < w.nextRecoveryId

/-- Every request is still there, and its status has changed as `R` says. -/
structure Tracked (R : RecoveryStatus → RecoveryStatus → Prop) (w w' : CaseWorld) : Prop where
  ok : RecoveriesOk w'
  row : ∀ r ∈ w.recoveries, ∃ r' ∈ w'.recoveries, r'.id = r.id ∧ R r.status r'.status

/-- The status stays, or moves along an edge. -/
def Moves (s s' : RecoveryStatus) : Prop := s' = s ∨ s' ∈ manualRecoveryAllowedTransitions s

section Rows

variable {R : RecoveryStatus → RecoveryStatus → Prop} {w w' w'' : CaseWorld}

theorem mem_of_recoveryById {id : ℤ} {r : ManualRecoveryRequest} (h : recoveryById id w = some r) :
    r ∈ w.recoveries ∧ r.id = id :=
  ⟨List.mem_of_find?_eq_some h, by simpa using List.find?_some h⟩

theorem RecoveriesOk.eq_of_id (h : RecoveriesOk w) {r s : ManualRecoveryRequest}
    (hr : r ∈ w.recoveries) (hs : s ∈ w.recoveries) (hid : r.id = s.id) : r = s :=
  List.inj_on_of_nodup_map h.ids hr hs hid

theorem RecoveriesOk.congr (h : RecoveriesOk w) (hrows : w'.recoveries = w.recoveries)
    (hnext : w'.nextRecoveryId = w.nextRecoveryId) : RecoveriesOk w' := by
  refine ⟨hrows ▸ h.ids, fun r hr => ?_⟩
  rw [hrows] at hr
  rw [hnext]
  exact h.below r hr

/-- The table is untouched. -/
theorem RecoveriesOk.tracked (h : RecoveriesOk w) (hR : ∀ s, R s s)
    (hrows : w'.recoveries = w.recoveries) (hnext : w'.nextRecoveryId = w.nextRecoveryId) :
    Tracked R w w' := by
  refine ⟨h.congr hrows hnext, fun r hr => ⟨r, ?_, rfl, hR _⟩⟩
  rw [hrows]
  exact hr

/-- Rows are rewritten in place. -/
theorem RecoveriesOk.tracked_map (h : RecoveriesOk w)
    {f : ManualRecoveryRequest → ManualRecoveryRequest} (hid : ∀ r, (f r).id = r.id)
    (hR : ∀ r ∈ w.recoveries, R r.status (f r).status)
    (hrows : w'.recoveries = w.recoveries.map f) (hnext : w'.nextRecoveryId = w.nextRecoveryId) :
    Tracked R w w' := by
  refine ⟨⟨?_, fun r hr => ?_⟩, fun r hr => ⟨f r, ?_, hid r, hR r hr⟩⟩
  · have hids : (w.recoveries.map f).map ManualRecoveryRequest.id =
        w.recoveries.map ManualRecoveryRequest.id := by
      rw [List.map_map]
      exact List.map_congr_left fun r _ => hid r
    rw [hrows, hids]
    exact h.ids
  · rw [hrows] at hr
    obtain ⟨x, hx, rfl⟩ := List.mem_map.mp hr
    rw [hid, hnext]
    exact h.below x hx
  · rw [hrows]
    exact List.mem_map_of_mem hr

theorem RecoveriesOk.tracked_setRecovery (h : RecoveriesOk w) {id : ℤ}
    {f : ManualRecoveryRequest → ManualRecoveryRequest} (hid : ∀ r, (f r).id = r.id)
    (hrefl : ∀ s, R s s) (hR : ∀ r ∈ w.recoveries, r.id = id → R r.status (f r).status) :
    Tracked R w (setRecovery id f w) := by
  refine h.tracked_map (f := fun r => if r.id = id then f r else r) (fun r => ?_)
    (fun r hr => ?_) rfl rfl
  · split
    · exact hid r
    · rfl
  · split
    · next hr' => exact hR r hr hr'
    · exact hrefl _

theorem Tracked.trans {S T : RecoveryStatus → RecoveryStatus → Prop} (h : Tracked R w w')
    (h' : Tracked S w' w'') (hT : ∀ s s' s'', R s s' → S s' s'' → T s s'') :
    Tracked T w w'' := by
  refine ⟨h'.ok, fun r hr => ?_⟩
  obtain ⟨r', hr', hid, hs⟩ := h.row r hr
  obtain ⟨r'', hr'', hid', hs'⟩ := h'.row r' hr'
  exact ⟨r'', hr'', hid'.trans hid, hT _ _ _ hs hs'⟩

/-- The table is untouched from here on. -/
theorem Tracked.congr (h : Tracked R w w') (hrows : w''.recoveries = w'.recoveries)
    (hnext : w''.nextRecoveryId = w'.nextRecoveryId) : Tracked R w w'' := by
  refine ⟨h.ok.congr hrows hnext, ?_⟩
  rw [hrows]
  exact h.row

theorem Moves.refl (s : RecoveryStatus) : Moves s s := .inl rfl

theorem moves_expired {now : ℤ} {r : ManualRecoveryRequest} (h : isStaleRecovery now r = true) :
    Moves r.status .expired := by
  simp only [isStaleRecovery, Bool.and_eq_true] at h
  have hactive := h.1
  unfold Moves
  revert hactive
  cases r.status <;> decide

theorem RecoveriesOk.tracked_addRecovery (h : RecoveriesOk w) (cfg : CaseConfig)
    (identifierRef : String) (userId : Option ℤ) :
    Tracked Eq w (addRecovery cfg identifierRef userId w) := by
  refine ⟨⟨?_, fun r hr => ?_⟩, fun r hr => ⟨r, List.mem_append_left _ hr, rfl, rfl⟩⟩
  · show (List.map _ (_ ++ [_])).Nodup
    rw [List.map_append, List.nodup_append]
    refine ⟨h.ids, List.nodup_singleton _, ?_⟩
    rintro a ha b hb rfl
    obtain ⟨r, hr, rfl⟩ := List.mem_map.mp ha
    have hid : r.id = w.nextRecoveryId := List.mem_singleton.mp hb
    have hlt := h.below r hr
    omega
  · show r.id < w.nextRecoveryId + 1
    rcases List.mem_append.mp hr with hr | hr
    · have hlt := h.below r hr
      omega
    · rw [List.mem_singleton.mp hr]
      show w.nextRecoveryId < w.nextRecoveryId + 1
      omega

end Rows

/-! ### The pieces of the requests -/

section Pieces

variable {cfg : CaseConfig} {inputs : LockInputs} {w s : CaseWorld} {α : Type}

theorem ends_onLocks {m : LockCall α} {Q : Except LockError α → LockWorld → Prop}
    (h : Ends m Q w.toLockWorld) :
    Ends (onLocks m) (fun r w' => ∃ locks, Q r locks ∧ w' = { w with toLockWorld := locks }) w := by
  unfold Ends onLocks at *
  cases hm : m w.toLockWorld with
  | ok a locks =>
      rw [hm] at h
      exact ⟨locks, h, rfl⟩
  | error e locks =>
      rw [hm] at h
      exact ⟨locks, h, rfl⟩

theorem ends_trivial {σ ε : Type} (m : Call σ ε α) (s : σ) : Ends m (fun _ _ => True) s := by
  unfold Ends
  split <;> trivial

/-- Whatever is done to accounts leaves the recoveries alone. -/
theorem ends_onLocks_tracked (m : LockCall α) (h : RecoveriesOk w) :
    Ends (onLocks m) (fun _ w' => Tracked Moves w w') w := by
  refine (ends_onLocks (ends_trivial m _)).mono ?_
  rintro _ _ ⟨locks, -, rfl⟩
  exact h.tracked Moves.refl rfl rfl

theorem ends_requireCaseEvent (committed : CaseWorld) (eventType : String) :
    Ends (requireCaseEvent inputs committed eventType) (fun _ s' => s' = s ∨ s' = committed) s := by
  unfold requireCaseEvent
  split
  · by_cases hl : inputs.leftoversCommitted = true
    · simp only [hl, if_true]
      exact .inl rfl
    · simp only [hl]
      exact .inr rfl
  · exact .inl rfl

theorem ends_manualRecoveryRequestOrError (id : ℤ) :
    Ends (manualRecoveryRequestOrError id) (fun r s' => s' = s ∧ match r with
      | .ok x => recoveryById id s = some x
      | .error _ => True) s := by
  refine Ends.get_bind ?_
  split
  · next x hfind => exact ⟨rfl, hfind⟩
  · exact ⟨rfl, trivial⟩

theorem ends_moveRecovery (h : RecoveriesOk s) {r : ManualRecoveryRequest}
    (hr : r ∈ s.recoveries) {status : RecoveryStatus} (hmoves : Moves r.status status) :
    Ends (moveRecovery inputs r status) (fun _ s' => Tracked Moves s s') s := by
  refine Ends.get_bind (Ends.modify_bind ?_)
  refine (ends_requireCaseEvent s _).mono ?_
  rintro _ _ (rfl | rfl)
  · refine h.tracked_setRecovery (fun _ => rfl) Moves.refl fun x hx hid => ?_
    rw [h.eq_of_id hx hr hid]
    exact hmoves
  · exact h.tracked Moves.refl rfl rfl

theorem ends_refuseStaleRecovery (h : RecoveriesOk s) {r : ManualRecoveryRequest}
    (hr : r ∈ s.recoveries) :
    Ends (refuseStaleRecovery inputs r) (fun res s' => match res with
      | .ok _ => s' = s
      | .error _ => Tracked Moves s s') s := by
  refine Ends.get_bind ?_
  split
  · next hstale =>
      exact (ends_moveRecovery h hr (moves_expired hstale)).bind (fun _ _ h => h) fun _ _ h => h
  · exact Ends.pure rfl

theorem ends_normalizeManualRecoveryStatus (status : PyStr) :
    Ends (normalizeManualRecoveryStatus cfg status) (fun _ s' => s' = s) s := by
  unfold normalizeManualRecoveryStatus
  split <;> exact rfl

theorem ends_transitionManualRecoveryRequest (h : RecoveriesOk s) (requestId : ℤ)
    (newStatus : PyStr) :
    Ends (transitionManualRecoveryRequest cfg inputs requestId newStatus)
      (fun _ s' => Tracked Moves s s') s := by
  have hsame : Tracked Moves s s := h.tracked Moves.refl rfl rfl
  refine (ends_manualRecoveryRequestOrError requestId).bind ?_ fun _ _ hr => hr.1 ▸ hsame
  rintro r s ⟨rfl, hfind⟩
  obtain ⟨hr, -⟩ := mem_of_recoveryById hfind
  refine (ends_refuseStaleRecovery h hr).bind ?_ fun _ _ h => h
  rintro _ s rfl
  refine (ends_normalizeManualRecoveryStatus newStatus).bind ?_ fun _ _ hs => hs ▸ hsame
  rintro status s rfl
  split
  · exact hsame
  · refine Ends.raiseIf_bind (fun _ => hsame) fun hallowed => ?_
    refine ends_moveRecovery h hr (.inr ?_)
    simpa using hallowed

theorem ends_recoveryUserOrError (r : ManualRecoveryRequest) :
    Ends (recoveryUserOrError cfg r) (fun _ s' => s' = s) s := by
  refine Ends.get_bind ?_
  split
  · exact rfl
  · exact Ends.raiseIf_bind (fun _ => rfl) fun _ => rfl

theorem ends_completeManualRecoveryRequest (h : RecoveriesOk s) (requestId : ℤ) :
    Ends (completeManualRecoveryRequest cfg inputs requestId)
      (fun _ s' => Tracked Moves s s') s := by
  have hsame : Tracked Moves s s := h.tracked Moves.refl rfl rfl
  refine (ends_manualRecoveryRequestOrError requestId).bind ?_ fun _ _ hr => hr.1 ▸ hsame
  rintro r s ⟨rfl, hfind⟩
  obtain ⟨hr, -⟩ := mem_of_recoveryById hfind
  refine (ends_refuseStaleRecovery h hr).bind ?_ fun _ _ h => h
  rintro _ s rfl
  refine Ends.raiseIf_bind (fun _ => hsame) fun hstatus => ?_
  have happroved : r.status = .approved := by simpa using hstatus
  refine (ends_recoveryUserOrError r).bind ?_ fun _ _ hs => hs ▸ hsame
  rintro user s rfl
  refine Ends.get_bind (Ends.modify_bind (Ends.modify_bind ?_))
  refine (ends_requireCaseEvent s _).mono ?_
  rintro _ _ (rfl | rfl)
  · have hreset : RecoveriesOk (resetMfa user.id s) := h.congr rfl rfl
    have hmoved : Tracked Moves (resetMfa user.id s)
        (setRecovery r.id (setManualRecoveryStatus .completed s.clock) (resetMfa user.id s)) := by
      refine hreset.tracked_setRecovery (fun _ => rfl) Moves.refl fun x hx hid => ?_
      rw [h.eq_of_id hx hr hid, happroved]
      refine .inr ?_
      show RecoveryStatus.completed ∈ manualRecoveryAllowedTransitions .approved
      decide
    exact ⟨hmoved.ok, hmoved.row⟩
  · exact hsame

/-! ### Submissions and expiry -/

theorem mem_staleRecoveries {identifierRef : Option String} {limit : Option ℤ}
    {r : ManualRecoveryRequest} (h : r ∈ staleRecoveries identifierRef limit s) :
    r ∈ s.recoveries ∧ isStaleRecovery s.clock r = true := by
  have hrow : r ∈ s.recoveries.filter fun r => isStaleRecovery s.clock r &&
      identifierRef.all (· = r.identifierRef) := by
    unfold staleRecoveries at h
    split at h
    · exact (List.mem_insertionSort _).mp h
    · exact (List.mem_insertionSort _).mp (List.mem_of_mem_take h)
  obtain ⟨hmem, htest⟩ := List.mem_filter.mp hrow
  exact ⟨hmem, (Bool.and_eq_true_iff.mp htest).1⟩

theorem ends_expireManualRecoveryRequests (h : RecoveriesOk s) (identifierRef : Option String)
    (limit : Option ℤ) :
    Ends (expireManualRecoveryRequests inputs identifierRef limit)
      (fun _ s' => Tracked Moves s s') s := by
  have hsame : Tracked Moves s s := h.tracked Moves.refl rfl rfl
  refine Ends.get_bind ?_
  dsimp only
  split
  · exact hsame
  · refine Ends.modify_bind ((ends_requireCaseEvent s _).mono ?_)
    rintro _ _ (rfl | rfl)
    · refine h.tracked_map (f := fun r =>
          if ((staleRecoveries identifierRef limit s).map (·.id)).contains r.id then
            setManualRecoveryStatus .expired s.clock r
          else r) (fun r => ?_) (fun r hr => ?_) rfl rfl
      · split <;> rfl
      · split
        · next hin =>
            obtain ⟨x, hx, hid⟩ := List.mem_map.mp (List.contains_iff_mem.mp hin)
            obtain ⟨hrow, hstale⟩ := mem_staleRecoveries hx
            rw [← h.eq_of_id hrow hr hid]
            exact moves_expired hstale
        · exact .refl _
    · exact hsame

theorem ends_createRecoveryTicket (submission : RecoverySubmission) (user : Option LockUser) :
    Ends (createRecoveryTicket submission user)
      (fun _ s' => s'.recoveries = s.recoveries ∧ s'.nextRecoveryId = s.nextRecoveryId) s := by
  unfold createRecoveryTicket
  split
  · exact ⟨rfl, rfl⟩
  · split <;> exact ⟨rfl, rfl⟩

theorem ends_requestManualRecovery (h : RecoveriesOk s) (submission : RecoverySubmission) :
    Ends (requestManualRecovery cfg inputs submission) (fun _ s' => Tracked Moves s s') s := by
  refine Ends.raiseIf_bind (fun _ => h.tracked Moves.refl rfl rfl) fun _ => Ends.get_bind ?_
  refine (ends_expireManualRecoveryRequests h _ _).bind (fun _ s₁ hs₁ => Ends.get_bind ?_)
    fun _ _ h => h
  have hthen : ∀ {s₂ : CaseWorld}, Tracked Eq s₁ s₂ → Tracked Moves s s₂ :=
    fun h₂ => hs₁.trans h₂ fun _ _ _ hmoves heq => heq ▸ hmoves
  split
  · refine Ends.modify_bind ((ends_requireCaseEvent s₁ _).mono ?_)
    rintro _ _ (rfl | rfl)
    · exact hthen (hs₁.ok.tracked_setRecovery (fun _ => rfl) (fun _ => rfl) fun _ _ _ => rfl)
    · exact hs₁
  · have hadded := hthen (hs₁.ok.tracked_addRecovery cfg (cfg.identifierRef submission.identifier)
      ((Option.filter (fun u => !isAdminLikeUser cfg u)
        (findCustomerUser cfg submission.identifier s)).map (·.id)))
    refine Ends.modify_bind ((ends_requireCaseEvent s₁ _).bind ?_ ?_)
    · rintro _ s₂ (rfl | rfl)
      · exact (ends_createRecoveryTicket submission _).mono fun _ _ hs => hadded.congr hs.1 hs.2
      · exact (ends_createRecoveryTicket submission _).mono fun _ _ hs => hs₁.congr hs.1 hs.2
    · rintro _ s₂ (rfl | rfl)
      · exact hadded
      · exact hs₁

end Pieces

/-! ### Requests of root administrators -/

/-- `_require_manual_recovery_reason` lets the reason pass. -/
def reasonAccepted (inputs : LockInputs) : Bool :=
  !(strip inputs.reason.toList).isEmpty && (strip inputs.reason.toList).length ≤ 512

/-- The customer that a request for manual recovery concerns is the actor's own. -/
def selfRecoveryAction (cfg : CaseConfig) (w : CaseWorld) (actor : LockUser)
    (recoveryId : ℤ) : Bool :=
  ((recoveryById recoveryId w).bind (recoveryOwner w)).any
    (selfCustomerAction cfg.toLockConfig w.toLockWorld actor)

/-- What comes before the validation of an administrator's request lets it pass. -/
def reachesValidation (cfg : CaseConfig) (inputs : LockInputs) (w : CaseWorld)
    (actorId recoveryId : ℤ) : Bool :=
  (lockUserById actorId w.toLockWorld).any fun actor =>
    isRootAdmin cfg actor && reasonAccepted inputs && inputs.code = .valid &&
      !selfRecoveryAction cfg w actor recoveryId

/-- The request is past its time, but was decided before. -/
def decidedBeforeExpiry (w : CaseWorld) (recoveryId : ℤ) : Bool :=
  (recoveryById recoveryId w).any fun r =>
    r.expiresAt ≤ w.clock && [.denied, .cancelled, .completed].contains r.status

/-- A root administrator asks for a decision about, or the completion of, a request
that was decided before and is past its time. -/
def overwritesDecision (cfg : CaseConfig) (w : CaseWorld) : CaseOp → Bool
  | .privileged inputs actorId (.recoveryTransition recoveryId status) =>
      (recoveryDecisionOf (normalText cfg.toTextOps status)).isSome &&
        reachesValidation cfg inputs w actorId recoveryId &&
        !inputs.auditFails "manual_recovery_admin_transition" && decidedBeforeExpiry w recoveryId
  | .privileged inputs actorId (.recoveryComplete recoveryId) =>
      reachesValidation cfg inputs w actorId recoveryId &&
        !inputs.auditFails "manual_recovery_admin_complete" && decidedBeforeExpiry w recoveryId
  | _ => false

section Requests

variable {cfg : CaseConfig} {inputs : LockInputs} {w s : CaseWorld}

/-- Only the row and the counters of one user have changed. -/
def OnlyUser (id : ℤ) (l l' : LockWorld) : Prop :=
  ∃ users counters, l' = { l with users := users, counters := counters } ∧
    ∀ other, other ≠ id → lockUserById other l' = lockUserById other l

theorem OnlyCounters.onlyUser {l l' : LockWorld} (h : OnlyCounters l l') (id : ℤ) :
    OnlyUser id l l' := by
  obtain ⟨counters, rfl⟩ := h
  exact ⟨l.users, counters, rfl, fun _ _ => rfl⟩

theorem lockUserById_updateUser_of_ne {l : LockWorld} {id other : ℤ} {f : LockUser → LockUser}
    (hf : ∀ u, (f u).id = u.id) (hne : other ≠ id) :
    lockUserById other (updateUser id f l) = lockUserById other l := by
  unfold lockUserById updateUser
  rw [List.find?_map]
  have htest : ((fun u : LockUser => decide (u.id = other)) ∘
      fun u => if u.id = id then f u else u) = fun u => decide (u.id = other) := by
    funext u
    show decide ((if u.id = id then f u else u).id = other) = decide (u.id = other)
    split
    · rw [hf]
    · rfl
  rw [htest]
  cases hfind : l.users.find? fun u => decide (u.id = other) with
  | none => rfl
  | some u =>
      have hid : u.id = other := by simpa using List.find?_some hfind
      show some (if u.id = id then f u else u) = some u
      rw [if_neg (hid ▸ hne)]

/-- A failure touches the counters of the user, and may lock the account. -/
theorem ends_recordUserSecurityFailure_onlyUser {cfg : LockConfig} {l : LockWorld}
    (user : LockUser) (scope : FailureScope) (reason : LockReason) :
    Ends (recordUserSecurityFailure cfg inputs user scope reason)
      (fun _ l' => OnlyUser user.id l l') l := by
  refine Ends.get_bind (Ends.modify_bind ?_)
  split
  · refine Ends.get_bind (Ends.modify_bind ?_)
    refine (requireEvent_spec _ _).mono fun r l' hr => ?_
    have hlocked : OnlyUser user.id l (updateUser user.id (lockFields reason l.clock)
        (setCounter user.id scope (some ⟨failureAttempts l user.id scope,
          l.clock + authLockWindow⟩) l)) :=
      ⟨_, _, rfl, fun other hother => lockUserById_updateUser_of_ne (fun _ => rfl) hother⟩
    have hcounted := (onlyCounters_setCounter l user.id scope
      (some ⟨failureAttempts l user.id scope, l.clock + authLockWindow⟩)).onlyUser user.id
    cases r with
    | ok _ => exact hr.2 ▸ hlocked
    | error _ =>
        rw [hr.2]
        split
        · exact hlocked
        · exact hcounted
  · exact (onlyCounters_setCounter ..).onlyUser _

/-- A code that is accepted is valid; a wrong one counts against the actor. -/
theorem requireFreshCode_spec {cfg : LockConfig} {l : LockWorld} (actor : LockUser) :
    Ends (requireFreshCode cfg inputs actor) (fun r l' => match r with
      | .ok _ => inputs.code = .valid ∧ OnlyCounters l l'
      | .error _ => OnlyUser actor.id l l') l := by
  have hsame := (OnlyCounters.refl l).onlyUser actor.id
  refine Ends.raiseIf_bind (fun _ => hsame) fun _ => ?_
  refine Ends.bind (M := fun r l' => OnlyUser actor.id l l' ∧
    ∀ outcome, r = .ok outcome → outcome = inputs.code ∧ OnlyCounters l l') ?_ ?_ fun _ _ h => h.1
  · unfold verifyTotpForUserOutcome
    split
    · exact (ends_recordUserSecurityFailure_onlyUser actor _ _).bind
        (fun _ _ h => ⟨h, fun _ heq => by cases heq⟩) fun _ _ h => ⟨h, fun _ heq => by cases heq⟩
    · next hcode =>
        have hset : OnlyCounters l (setCounter actor.id .mfa none l) := onlyCounters_setCounter ..
        refine ⟨hset.onlyUser actor.id, fun outcome heq => ?_⟩
        exact ⟨(Except.ok.inj heq).symm.trans hcode.symm, hset⟩
    · refine ⟨hsame, fun outcome heq => ?_⟩
      exact ⟨(Except.ok.inj heq).symm, .refl l⟩
  · rintro outcome l' ⟨-, hok⟩
    obtain ⟨rfl, hl'⟩ := hok outcome rfl
    unfold raiseIf
    split
    · exact hl'.onlyUser actor.id
    · next hvalid => exact ⟨by simpa using hvalid, hl'⟩

theorem requireReason_spec {l : LockWorld} :
    Ends (requireReason inputs) (fun r l' => l' = l ∧ match r with
      | .ok _ => reasonAccepted inputs = true
      | .error _ => True) l := by
  refine Ends.raiseIf_bind (fun _ => ⟨rfl, trivial⟩) fun hgiven => ?_
  unfold raiseIf
  split
  · exact ⟨rfl, trivial⟩
  · next hlength =>
      refine ⟨rfl, ?_⟩
      unfold reasonAccepted
      rw [hgiven]
      simpa using hlength

theorem assertNotSelfManualRecoveryAction_spec (actor : LockUser) (recoveryId : ℤ) :
    Ends (assertNotSelfManualRecoveryAction cfg actor recoveryId) (fun r s' => s' = s ∧ match r with
      | .ok _ => selfRecoveryAction cfg s actor recoveryId = false
      | .error _ => True) s := by
  unfold selfRecoveryAction
  refine Ends.get_bind ?_
  split
  · next hnone =>
      rw [hnone]
      exact ⟨rfl, rfl⟩
  · next target hsome =>
      rw [hsome]
      have hlocks : Ends (assertNotSelfCustomerAction cfg.toLockConfig actor target)
          (fun r l' => l' = s.toLockWorld ∧ match r with
            | .ok _ => selfCustomerAction cfg.toLockConfig s.toLockWorld actor target = false
            | .error _ => True) s.toLockWorld := by
        refine Ends.get_bind ?_
        unfold raiseIf
        split
        · exact ⟨rfl, trivial⟩
        · next hself => exact ⟨rfl, Bool.eq_false_iff.mpr hself⟩
      refine (ends_onLocks hlocks).mono ?_
      rintro r _ ⟨_, ⟨rfl, hr⟩, rfl⟩
      exact ⟨rfl, by cases r <;> exact hr⟩

theorem ends_rootAdmin (actorId : ℤ) :
    Ends (rootAdmin cfg actorId) (fun r s' => s' = s ∧ match r with
      | .ok actor => lockUserById actorId s.toLockWorld = some actor ∧ isRootAdmin cfg actor = true
      | .error _ => True) s := by
  refine (ends_onLocks (ends_userOrError actorId _)).bind ?_ ?_
  · rintro actor _ ⟨_, ⟨rfl, hactor⟩, rfl⟩
    refine Ends.raiseIf_bind (fun _ => ⟨rfl, trivial⟩) fun hroot => Ends.pure ⟨rfl, hactor, ?_⟩
    simpa using hroot
  · rintro _ _ ⟨_, ⟨rfl, -⟩, rfl⟩
    exact ⟨rfl, trivial⟩

/-- The step-up changes nothing but the actor's counters, if it lets the request
pass. -/
theorem recoveryStepUp_spec (actor : LockUser) (recoveryId : ℤ) :
    Ends (recoveryStepUp cfg inputs actor recoveryId) (fun r s' =>
      (∃ locks, OnlyUser actor.id s.toLockWorld locks ∧ s' = { s with toLockWorld := locks }) ∧
      match r with
      | .ok _ => (reasonAccepted inputs && inputs.code = .valid &&
          !selfRecoveryAction cfg s actor recoveryId) = true ∧
          s'.clock = s.clock
      | .error _ => True) s := by
  have hsame := (OnlyCounters.refl s.toLockWorld).onlyUser actor.id
  refine (ends_onLocks requireReason_spec).bind ?_ ?_
  · rintro _ _ ⟨_, ⟨rfl, hreason⟩, rfl⟩
    refine (ends_onLocks (requireFreshCode_spec actor)).bind ?_ ?_
    · rintro _ _ ⟨locks, ⟨hcode, hcounters⟩, rfl⟩
      refine (assertNotSelfManualRecoveryAction_spec actor recoveryId).mono ?_
      rintro r _ ⟨rfl, hr⟩
      refine ⟨⟨locks, hcounters.onlyUser actor.id, rfl⟩, ?_⟩
      cases r with
      | ok _ =>
          obtain ⟨counters, rfl⟩ := hcounters
          have hself : selfRecoveryAction cfg s actor recoveryId = false := hr
          rw [hreason, hself]
          exact ⟨by simpa using hcode, rfl⟩
      | error _ => trivial
    · rintro _ _ ⟨locks, huser, rfl⟩
      exact ⟨⟨locks, huser, rfl⟩, trivial⟩
  · rintro _ _ ⟨_, ⟨rfl, -⟩, rfl⟩
    exact ⟨⟨_, hsame, rfl⟩, trivial⟩

theorem noteEvent_spec (committed : CaseWorld) (eventType : String) :
    Ends (noteEvent inputs committed eventType) (fun r s' => r = .ok () ∧
      s' = if inputs.auditFails eventType then committed else s) s := by
  unfold noteEvent
  split <;> exact ⟨rfl, rfl⟩

theorem moves_expired_of_undecided {status : RecoveryStatus}
    (h : [RecoveryStatus.denied, .cancelled, .completed].contains status = false) :
    Moves status .expired := by
  unfold Moves
  revert h
  cases status <;> decide

/-- A validation expires a request only if it is active, or was expired before. -/
theorem ends_unexpiredRecovery (h : RecoveriesOk s) (eventType : String) (recoveryId : ℤ)
    (hcond : (!inputs.auditFails eventType && decidedBeforeExpiry s recoveryId) = false) :
    Ends (unexpiredRecovery inputs eventType recoveryId) (fun r s' => match r with
      | .ok _ => s' = s
      | .error _ => Tracked Moves s s') s := by
  have hsame : Tracked Moves s s := h.tracked Moves.refl rfl rfl
  refine (ends_manualRecoveryRequestOrError recoveryId).bind ?_ fun _ _ hr => hr.1 ▸ hsame
  rintro r s ⟨rfl, hfind⟩
  obtain ⟨hr, -⟩ := mem_of_recoveryById hfind
  refine Ends.get_bind ?_
  split
  · next hoverdue =>
      refine Ends.modify_bind ((noteEvent_spec s eventType).bind ?_ fun _ _ h => nomatch h.1)
      rintro _ _ ⟨-, rfl⟩
      show Tracked Moves s _
      split
      · exact hsame
      · next hwritten =>
          refine h.tracked_setRecovery (fun _ => rfl) Moves.refl fun x hx hid => ?_
          rw [h.eq_of_id hx hr hid]
          refine moves_expired_of_undecided ?_
          rw [Bool.eq_false_iff.mpr hwritten] at hcond
          have hnone : decidedBeforeExpiry s recoveryId = false := hcond
          unfold decidedBeforeExpiry at hnone
          rw [hfind] at hnone
          simpa [hoverdue] using hnone
  · exact Ends.pure rfl

theorem ends_requestRecoveryAction (h : RecoveriesOk s) {validate : CaseCall Unit}
    (hvalidate : Ends validate (fun r s' => match r with
      | .ok _ => s' = s
      | .error _ => Tracked Moves s s') s) (m : LockCall Unit) :
    Ends (validate >>= fun _ => onLocks m) (fun _ s' => Tracked Moves s s') s := by
  refine hvalidate.bind ?_ fun _ _ h => h
  rintro _ _ rfl
  exact ends_onLocks_tracked m h

theorem reachesValidation_of_passes {actor : LockUser} {actorId recoveryId : ℤ}
    (hactor : lockUserById actorId s.toLockWorld = some actor)
    (hroot : isRootAdmin cfg actor = true)
    (hpasses : (reasonAccepted inputs && inputs.code = .valid &&
      !selfRecoveryAction cfg s actor recoveryId) = true) :
    reachesValidation cfg inputs s actorId recoveryId = true := by
  unfold reachesValidation
  rw [hactor]
  simp only [Option.any_some, hroot, Bool.true_and]
  exact hpasses

theorem decidedBeforeExpiry_congr {locks : LockWorld} {recoveryId : ℤ}
    (hclock : locks.clock = s.clock) :
    decidedBeforeExpiry { s with toLockWorld := locks } recoveryId =
      decidedBeforeExpiry s recoveryId := by
  unfold decidedBeforeExpiry
  rw [show ({ s with toLockWorld := locks } : CaseWorld).clock = s.clock from hclock]
  rfl

theorem ends_transitionManualRecoveryRequestAsAdmin (h : RecoveriesOk s) (actorId recoveryId : ℤ)
    (status : PyStr) (hcond : overwritesDecision cfg s
      (.privileged inputs actorId (.recoveryTransition recoveryId status)) = false) :
    Ends (transitionManualRecoveryRequestAsAdmin cfg inputs actorId recoveryId status)
      (fun _ s' => Tracked Moves s s') s := by
  have hsame : Tracked Moves s s := h.tracked Moves.refl rfl rfl
  refine (ends_rootAdmin actorId).bind ?_ fun _ _ hr => hr.1 ▸ hsame
  rintro actor s ⟨rfl, hactor, hroot⟩
  refine Ends.raiseIf_bind (fun _ => hsame) fun _ => ?_
  refine (recoveryStepUp_spec actor recoveryId).bind ?_ ?_
  · rintro _ _ ⟨⟨locks, -, rfl⟩, hpasses, hclock⟩
    have hok : RecoveriesOk { s with toLockWorld := locks } := h.congr rfl rfl
    split
    · next decision hdecision =>
        refine (ends_requestRecoveryAction hok (Ends.bind (ends_unexpiredRecovery hok
          "manual_recovery_admin_transition" recoveryId ?_) ?_ fun _ _ h => h) _).mono
          fun _ _ h => ⟨h.ok, h.row⟩
        · simp only [overwritesDecision, hdecision,
            reachesValidation_of_passes hactor hroot hpasses,
            Option.isSome_some, Bool.true_and] at hcond
          rw [decidedBeforeExpiry_congr hclock]
          exact hcond
        · rintro r _ rfl
          exact Ends.raiseIf (fun _ => hok.tracked Moves.refl rfl rfl) fun _ => rfl
    · exact (ends_transitionManualRecoveryRequest hok recoveryId _).mono
        fun _ _ h => ⟨h.ok, h.row⟩
  · rintro _ _ ⟨⟨locks, -, rfl⟩, -⟩
    exact h.tracked Moves.refl rfl rfl

theorem ends_completeManualRecoveryRequestAsAdmin (h : RecoveriesOk s) (actorId recoveryId : ℤ)
    (hcond : overwritesDecision cfg s
      (.privileged inputs actorId (.recoveryComplete recoveryId)) = false) :
    Ends (completeManualRecoveryRequestAsAdmin cfg inputs actorId recoveryId)
      (fun _ s' => Tracked Moves s s') s := by
  have hsame : Tracked Moves s s := h.tracked Moves.refl rfl rfl
  refine (ends_rootAdmin actorId).bind ?_ fun _ _ hr => hr.1 ▸ hsame
  rintro actor s ⟨rfl, hactor, hroot⟩
  refine (recoveryStepUp_spec actor recoveryId).bind ?_ ?_
  · rintro _ _ ⟨⟨locks, -, rfl⟩, hpasses, hclock⟩
    have hok : RecoveriesOk { s with toLockWorld := locks } := h.congr rfl rfl
    refine (ends_requestRecoveryAction hok (Ends.bind (ends_unexpiredRecovery hok
      "manual_recovery_admin_complete" recoveryId ?_) ?_ fun _ _ h => h) _).mono
      fun _ _ h => ⟨h.ok, h.row⟩
    · simp only [overwritesDecision, reachesValidation_of_passes hactor hroot hpasses,
        Bool.true_and] at hcond
      rw [decidedBeforeExpiry_congr hclock]
      exact hcond
    · rintro r _ rfl
      exact Ends.raiseIf (fun _ => hok.tracked Moves.refl rfl rfl) fun _ => rfl
  · rintro _ _ ⟨⟨locks, -, rfl⟩, -⟩
    exact h.tracked Moves.refl rfl rfl

/-! ### Approvals -/

/-- What an execution left, and what it had committed when it returned. -/
def ExecutionTracked (s : CaseWorld) (res : Except LockError CaseWorld) (s' : CaseWorld) : Prop :=
  Tracked Moves s s' ∧ ∀ committed, res = .ok committed → Tracked Moves s committed

theorem ExecutionTracked.error {s' : CaseWorld} (h : Tracked Moves s s') (e : LockError) :
    ExecutionTracked s (.error e) s' :=
  ⟨h, fun _ heq => (nomatch heq)⟩

theorem ExecutionTracked.ok {s' committed : CaseWorld} (h : Tracked Moves s s')
    (hc : Tracked Moves s committed) : ExecutionTracked s (.ok committed) s' := by
  refine ⟨h, ?_⟩
  rintro _ ⟨⟩
  exact hc

theorem ends_recoveryTargetOrError (r : AdminActionRequest) :
    Ends (recoveryTargetOrError r) (fun _ s' => s' = s) s := by
  refine Ends.get_bind ?_
  split <;> exact rfl

/-- An executor for recoveries, which commits before it returns. -/
theorem ends_executeRecovery (h : RecoveriesOk s) (actor : LockUser) (r : AdminActionRequest)
    {m : ℤ → CaseCall Unit}
    (hm : ∀ id, Ends (m id) (fun _ s' => Tracked Moves s s') s) :
    Ends (do
      let x ← recoveryTargetOrError r
      assertNotSelfManualRecoveryAction cfg actor x.id
      m x.id
      get) (ExecutionTracked s) s := by
  have hsame : Tracked Moves s s := h.tracked Moves.refl rfl rfl
  refine (ends_recoveryTargetOrError r).bind ?_ fun e _ hs => .error (hs ▸ hsame) e
  rintro x _ rfl
  refine (assertNotSelfManualRecoveryAction_spec actor x.id).bind ?_
    fun e _ hs => .error (hs.1 ▸ hsame) e
  rintro _ _ ⟨rfl, -⟩
  exact (hm x.id).bind (fun _ _ hs => .ok hs hs) fun e _ hs => .error hs e

theorem ends_executeRequest (h : RecoveriesOk s) (actor : LockUser) (r : AdminActionRequest) :
    Ends (executeRequest cfg inputs actor r) (ExecutionTracked s) s := by
  have hsame : Tracked Moves s s := h.tracked Moves.refl rfl rfl
  unfold executeRequest
  split
  · exact ends_executeRecovery h actor r
      fun id => ends_transitionManualRecoveryRequest h id (payloadText cfg.toTextOps r statusKey)
  · exact ends_executeRecovery h actor r fun id => ends_completeManualRecoveryRequest h id
  · refine Ends.get_bind ((ends_onLocks_tracked _ h).bind ?_ fun e _ hs => .error hs e)
    exact fun _ _ hs => .ok hs hsame
  · exact .error hsame _

theorem ends_executionFailed (actor : LockUser) (requestId : ℤ) :
    Ends (executionFailed inputs actor requestId) (fun res s' =>
      (s'.recoveries = s.recoveries ∧ s'.nextRecoveryId = s.nextRecoveryId) ∧
        ∀ committed, res = .ok committed → committed = s) s := by
  refine Ends.get_bind ((ends_onLocks (ends_trivial _ _)).bind ?_ ?_)
  · rintro _ _ ⟨locks, -, rfl⟩
    refine Ends.pure ⟨⟨rfl, rfl⟩, ?_⟩
    rintro _ ⟨⟩
    rfl
  · rintro _ _ ⟨locks, -, rfl⟩
    exact ⟨⟨rfl, rfl⟩, fun _ heq => (nomatch heq)⟩

theorem ends_approveRequest (h : RecoveriesOk s) (actorId requestId : ℤ) :
    Ends (approveRequest cfg inputs actorId requestId) (fun _ s' => Tracked Moves s s') s := by
  refine (ends_onLocks (ends_trivial _ _)).bind ?_ ?_
  · rintro actor _ ⟨locks₁, -, rfl⟩
    refine (ends_onLocks (ends_trivial _ _)).bind ?_ ?_
    · rintro r _ ⟨locks₂, -, rfl⟩
      have hok : RecoveriesOk { s with toLockWorld := locks₂ } := h.congr rfl rfl
      refine Ends.bind (M := ExecutionTracked { s with toLockWorld := locks₂ }) ?_ ?_
        fun _ _ hs => ⟨hs.1.ok, hs.1.row⟩
      · refine (ends_executeRequest hok actor r).tryCatch (fun _ _ hs => hs) ?_
        rintro _ s' ⟨hs', -⟩
        refine (ends_executionFailed actor requestId).mono fun res s'' hs'' => ?_
        exact ⟨hs'.congr hs''.1.1 hs''.1.2, fun c hc => hs''.2 c hc ▸ hs'⟩
      · rintro committed s' ⟨hs', hcommitted⟩
        refine Ends.modify_bind ((ends_requireCaseEvent committed _).mono ?_)
        have hc := hcommitted committed rfl
        rintro _ _ (rfl | rfl)
        · exact ⟨hs'.ok.congr rfl rfl, hs'.row⟩
        · exact ⟨hc.ok, hc.row⟩
    · rintro _ _ ⟨locks₂, -, rfl⟩
      exact h.tracked Moves.refl rfl rfl
  · rintro _ _ ⟨locks₁, -, rfl⟩
    exact h.tracked Moves.refl rfl rfl

/-! ### All requests -/

/-- Disputes and tickets are other tables. -/
theorem ends_transitionStatusForStaff {S : Type} [DecidableEq S] {kind : CaseKind S}
    (hkind : ∀ rows w, (kind.setRows rows w).recoveries = w.recoveries ∧
      (kind.setRows rows w).nextRecoveryId = w.nextRecoveryId) (h : RecoveriesOk s)
    (actorId caseId : ℤ) (newStatus : S) (note : String) :
    Ends (transitionStatusForStaff kind inputs actorId caseId newStatus note)
      (fun _ s' => Tracked Moves s s') s := by
  have hsame : Tracked Moves s s := h.tracked Moves.refl rfl rfl
  refine (ends_onLocks (ends_userOrError actorId _)).bind ?_ ?_
  · rintro actor _ ⟨_, ⟨rfl, -⟩, rfl⟩
    refine Ends.raiseIf_bind (fun _ => hsame) fun _ => ?_
    refine Ends.bind (M := fun _ s' => s' = s) ?_ ?_ fun _ _ hs => hs ▸ hsame
    · refine Ends.get_bind ?_
      split <;> exact rfl
    · rintro c _ rfl
      refine Ends.raiseIf_bind (fun _ => hsame) fun _ => Ends.get_bind (Ends.modify_bind ?_)
      split
      · exact hsame
      · exact h.tracked Moves.refl (hkind _ _).1 (hkind _ _).2
  · rintro _ _ ⟨_, ⟨rfl, -⟩, rfl⟩
    exact hsame

theorem ends_caseOp (h : RecoveriesOk s) (op : CaseOp)
    (hcond : overwritesDecision cfg s op = false) :
    Ends (op.call cfg) (fun _ s' => Tracked Moves s s') s := by
  have hadded : Tracked Moves s s := h.tracked Moves.refl rfl rfl
  cases op with
  | privileged inputs actorId op =>
      cases op with
      | freeze | unfreeze | requestUnlock => exact ends_onLocks_tracked _ h
      | approve requestId => exact ends_approveRequest h actorId requestId
      | recoveryTransition recoveryId status =>
          exact ends_transitionManualRecoveryRequestAsAdmin h actorId recoveryId status hcond
      | recoveryComplete recoveryId =>
          exact ends_completeManualRecoveryRequestAsAdmin h actorId recoveryId hcond
      | disputeStatus disputeId newStatus note =>
          exact ends_transitionStatusForStaff (fun _ _ => ⟨rfl, rfl⟩) h actorId disputeId newStatus
            note
      | ticketStatus ticketId newStatus note =>
          exact ends_transitionStatusForStaff (fun _ _ => ⟨rfl, rfl⟩) h actorId ticketId newStatus
            note
  | submitRecovery inputs submission => exact ends_requestManualRecovery h submission
  | expireRecoveries inputs limit => exact ends_expireManualRecoveryRequests h none limit
  | fileDispute dispute => exact hadded.congr rfl rfl
  | fileTicket userId => exact hadded.congr rfl rfl
  | account op =>
      cases op with
      | approve inputs actorId requestId => exact ends_approveRequest h actorId requestId
      | register id email accountType =>
          exact ends_onLocks_tracked
            (LockOp.call cfg.toLockConfig (.register id email accountType)) h
      | edit id email personal status mfaEnabled =>
          exact ends_onLocks_tracked
            (LockOp.call cfg.toLockConfig (.edit id email personal status mfaEnabled)) h
      | link links => exact ends_onLocks_tracked (LockOp.call cfg.toLockConfig (.link links)) h
      | wait time => exact ends_onLocks_tracked (LockOp.call cfg.toLockConfig (.wait time)) h
      | _ => exact ends_onLocks_tracked _ h

end Requests

/-! ### Runs -/

/-- One request that overwrites no decision. -/
def CaseStep (cfg : CaseConfig) (w w' : CaseWorld) : Prop :=
  ∃ op, overwritesDecision cfg w op = false ∧ w' = after (CaseOp.call cfg op) w

abbrev CaseRun (cfg : CaseConfig) : CaseWorld → CaseWorld → Prop :=
  Relation.ReflTransGen (CaseStep cfg)

theorem CaseStep.tracked {cfg : CaseConfig} {w w' : CaseWorld} (h : CaseStep cfg w w')
    (hw : RecoveriesOk w) : Tracked Moves w w' := by
  obtain ⟨op, hcond, rfl⟩ := h
  exact (ends_caseOp hw op hcond).after

/-- The statuses without edges. -/
def manualRecoveryTerminalStatuses : List RecoveryStatus :=
  [.denied, .expired, .cancelled, .completed]

theorem Moves.eq_of_terminal {s s' : RecoveryStatus} (h : Moves s s')
    (hs : s ∈ manualRecoveryTerminalStatuses) : s' = s := by
  rcases h with h | h
  · exact h
  · revert h hs
    cases s <;> simp [manualRecoveryTerminalStatuses, manualRecoveryAllowedTransitions]

/-- Whatever happens in a run, a final status stays. -/
theorem CaseRun.tracked {cfg : CaseConfig} {w w' : CaseWorld} (h : CaseRun cfg w w')
    (hw : RecoveriesOk w) :
    Tracked (fun s s' => s ∈ manualRecoveryTerminalStatuses → s' = s) w w' := by
  induction h with
  | refl => exact hw.tracked (fun _ _ => rfl) rfl rfl
  | tail _ hstep ih =>
      refine ih.trans (hstep.tracked ih.ok) fun s s' s'' hfinal hmoves hs => ?_
      have hsame := hfinal hs
      subst hsame
      exact hmoves.eq_of_terminal hs

theorem Tracked.row_of_id {R : RecoveryStatus → RecoveryStatus → Prop} {w w' : CaseWorld}
    (h : Tracked R w w') {r r' : ManualRecoveryRequest} (hr : r ∈ w.recoveries)
    (hr' : r' ∈ w'.recoveries) (hid : r'.id = r.id) : R r.status r'.status := by
  obtain ⟨x, hx, hxid, hR⟩ := h.row r hr
  rw [h.ok.eq_of_id hr' hx (hid.trans hxid.symm)]
  exact hR

/-- In every state of a run that overwrites no decision, the next request changes
statuses along the edges of the graph only, and a final status stays for the rest of
the run. -/
theorem manual_recovery_follows_graph (cfg : CaseConfig) {w₀ w : CaseWorld}
    (hnew : w₀.recoveries = []) (hrun : CaseRun cfg w₀ w) {r : ManualRecoveryRequest}
    (hr : r ∈ w.recoveries) :
    (∀ w', CaseStep cfg w w' → ∃ r' ∈ w'.recoveries, r'.id = r.id ∧
      (∀ x ∈ w'.recoveries, x.id = r.id → x = r') ∧
      (r'.status ≠ r.status → r'.status ∈ manualRecoveryAllowedTransitions r.status)) ∧
    (r.status ∈ manualRecoveryTerminalStatuses → ∀ w', CaseRun cfg w w' →
      ∀ r' ∈ w'.recoveries, r'.id = r.id → r'.status = r.status) := by
  have hw₀ : RecoveriesOk w₀ := by
    refine ⟨?_, fun x hx => ?_⟩
    · rw [hnew]
      exact .nil
    · rw [hnew] at hx
      exact (nomatch hx)
  have hw := (hrun.tracked hw₀).ok
  refine ⟨fun w' hstep => ?_, fun hfinal w' hrun' r' hr' hid => ?_⟩
  · have htracked := hstep.tracked hw
    obtain ⟨r', hr', hid, hmoves⟩ := htracked.row r hr
    refine ⟨r', hr', hid, fun x hx hx' => ?_, fun hne => hmoves.resolve_left hne⟩
    exact htracked.ok.eq_of_id hx hr' (hx'.trans hid.symm)
  · exact (hrun'.tracked hw).row_of_id hr hr' hid hfinal

/-! ### A denial that expires -/

def sampleCaseConfig : CaseConfig where
  toLockConfig := { sampleLockConfig with isRootAdminEmail := fun _ => true }
  manualRecoveryRequestTtl := 10
  identifies identifier u := u.email = identifier
  adminName _ := false
  identifierRef := id

/-- Valid codes and a reason. -/
def carefulInputs : LockInputs where
  backoff := false
  passwordMatches := true
  passwordsEqual := true
  newPasswordAccepted := true
  mfaFailureLimited := false
  code := .valid
  reason := "identity not shown"
  auditFails _ := false
  leftoversCommitted := false

/-- A customer and two root administrators. -/
def staffedWorld : CaseWorld where
  toLockWorld := { noAccounts 0 with
    users := [newAccount 1 "customer@mail" .customer,
      { newAccount 11 "root1@bank" .rootAdmin with mfaEnabled := true },
      { newAccount 12 "root2@bank" .rootAdmin with mfaEnabled := true }] }
  recoveries := []
  nextRecoveryId := 1
  disputes := []
  tickets := []
  nextTicketId := 1

def afterCaseOps (ops : List CaseOp) (w : CaseWorld) : CaseWorld :=
  ops.foldl (fun w op => after (op.call sampleCaseConfig) w) w

def askForDenial : CaseOp :=
  .privileged carefulInputs 11 (.recoveryTransition 1 (.ofString "denied"))

/-- A submission, its denial by both administrators, and the time of the request
passes. -/
def deniedAndOverdue : List CaseOp :=
  [.submitRecovery carefulInputs ⟨"customer@mail", false, false⟩, askForDenial,
    .privileged carefulInputs 12 (.approve 1), .account (.wait 10)]

/-- Each of the requests in turn overwrites no decision. -/
def decisionsKept (w : CaseWorld) : List CaseOp → Bool
  | [] => true
  | op :: ops => !overwritesDecision sampleCaseConfig w op &&
      decisionsKept (after (op.call sampleCaseConfig) w) ops

theorem caseRun_of_decisionsKept (ops : List CaseOp) {w : CaseWorld}
    (h : decisionsKept w ops = true) : CaseRun sampleCaseConfig w (afterCaseOps ops w) := by
  induction ops generalizing w with
  | nil => exact .refl
  | cons op ops ih =>
      obtain ⟨hop, hops⟩ := Bool.and_eq_true_iff.mp h
      exact .head ⟨op, by simpa using hop, rfl⟩ (ih hops)

def overdueDenial : ManualRecoveryRequest where
  id := 1
  identifierRef := "customer@mail"
  userId := some 1
  status := .denied
  requestCount := 1
  createdAt := 0
  expiresAt := 10
  completedAt := none

theorem deniedAndOverdue_recoveries :
    (afterCaseOps deniedAndOverdue staffedWorld).recoveries = [overdueDenial] := by
  decide +kernel

/-- The denial stands when the command for stale requests runs. -/
theorem manual_recovery_follows_graph_denied :
    overdueDenial ∈ (afterCaseOps deniedAndOverdue staffedWorld).recoveries ∧
      ∀ w', CaseRun sampleCaseConfig (afterCaseOps deniedAndOverdue staffedWorld) w' →
        ∀ r' ∈ w'.recoveries, r'.id = 1 → r'.status = .denied := by
  have hmem : overdueDenial ∈ (afterCaseOps deniedAndOverdue staffedWorld).recoveries := by
    rw [deniedAndOverdue_recoveries]
    exact List.mem_singleton.mpr rfl
  have hrun : CaseRun sampleCaseConfig staffedWorld (afterCaseOps deniedAndOverdue staffedWorld) :=
    caseRun_of_decisionsKept deniedAndOverdue (by decide +kernel)
  exact ⟨hmem, (manual_recovery_follows_graph sampleCaseConfig rfl hrun hmem).2 (by decide)⟩

/-- A root administrator asks for the denial once more: the denied request becomes an
expired one, which is no edge of the graph. -/
theorem denied_recovery_expires :
    (afterCaseOps deniedAndOverdue staffedWorld).recoveries = [overdueDenial] ∧
      (after (askForDenial.call sampleCaseConfig)
        (afterCaseOps deniedAndOverdue staffedWorld)).recoveries =
          [{ overdueDenial with status := .expired }] ∧
      RecoveryStatus.denied ∈ manualRecoveryTerminalStatuses ∧
      RecoveryStatus.expired ∉ manualRecoveryAllowedTransitions .denied := by
  decide +kernel

end SitBank.Admin
