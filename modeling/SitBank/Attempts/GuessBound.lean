import SitBank.Attempts.Guarded

/-!
Wrong codes are bounded, as long as verifications of one row do not overlap.

A code is compared before it is counted. The comparison is within the bound if
every wrong code compared before has been counted, in the row as it is stored
now; the counter is right afterwards if the row is still the one that was copied.
Neither is ensured by the handlers: a reset transaction is not locked at all, and
the lock on a top-up request or an invite ends with the verification of the code.
-/

namespace SitBank.Attempts

open SitBank.Interaction

/-! ### The condition -/

/-- What a request finds when it counts, stores or cleans up, as against what it has read:
the row as it was copied; and, for a start that found no setup user, still no verification
of the invite. -/
def Change.undisturbed (w : GuessWorld) (record : Guarded) : Change → Prop
  | .count seen _ => record = seen ∧ w.row = some seen
  | .store seen => record = seen ∧ w.row = some seen
  | .clearFailed found _ _ =>
      found.setUp = false → w.wrong = 0 ∧ w.pending = [] ∧ w.dead = false
  | _ => True

/-- A code is compared while the row is as the request has tested it, and every wrong code
before it has been counted; what is derived from a copy of the row is written while the
row is as copied; and no row is made again. -/
def undisturbed (_ : ℕ) (o : GuessOp) (w : GuessWorld) : Prop :=
  match o with
  | .compare tested => w.row = some tested ∧ w.pending = []
  | .update record change => change.undisturbed w record
  | .insert _ => False
  | _ => True

/-! ### What the handlers do -/

/-- Nothing stands against the verification of codes. The row of a reset transaction
has no mark: it is deleted. -/
def Kind.Open : Kind → Guarded → Prop
  | .resetTransaction, _ => True
  | .topUpRequest, r => r.locked = false
  | .staffInvite, r => r.locked = false ∧ r.revoked = false ∧ r.used = false

/-- What a request has tested before it compares a code. -/
def Kind.Tested (kind : Kind) (r : Guarded) : Prop :=
  kind.Open r ∧ (kind = .staffInvite → r.setUp = true)

/-- Codes are compared after the tests, a counter that has reached the maximum locks the
row, and the clean-up of a start is of one that has made the setup user. -/
def Allowed (kind : Kind) : GuessOp → Prop
  | .compare tested => kind.Tested tested
  | .update _ (.count seen tooMany) =>
      (tooMany = false → seen.failures + 1 < kind.maxFailures) ∧
        (tooMany = true → kind ≠ .resetTransaction)
  | .update _ .lock => kind ≠ .resetTransaction
  | .update _ .accept => kind = .staffInvite
  | .update _ (.clearFailed found _ _) => found.setUp = false
  | _ => True

section Handlers

variable {kind : Kind}

theorem allowed_ask (q : Question) : Prog.All (Allowed kind) (ask q) := .perform trivial

theorem allowed_select : Prog.All (Allowed kind) select := .perform trivial

theorem allowed_selectForUpdate : Prog.All (Allowed kind) selectForUpdate := .perform trivial

theorem allowed_refresh (r : Guarded) : Prog.All (Allowed kind) (refresh r) := .perform trivial

theorem allowed_commit : Prog.All (Allowed kind) commit := .perform trivial

theorem allowed_rollback : Prog.All (Allowed kind) rollback := .perform trivial

theorem allowed_ask_bind {α : Type} {q : Question} {p p' : GuessReq α}
    (hp : Prog.All (Allowed kind) p) (hp' : Prog.All (Allowed kind) p') :
    Prog.All (Allowed kind) ((ask q).bind fun b => if b then p else p') := by
  refine (allowed_ask q).bind fun b => ?_
  cases b
  · exact hp'
  · exact hp

theorem allowed_verifyTotpOutcome {tested : Guarded} (htested : kind.Tested tested) :
    Prog.All (Allowed kind) (verifyTotpOutcome tested) := by
  refine allowed_ask_bind ?_ (allowed_commit.bind fun _ => trivial)
  refine allowed_ask_bind (allowed_commit.bind fun _ => trivial) ?_
  refine Prog.All.bind (.perform htested) fun b => ?_
  cases b
  · exact allowed_commit.bind fun _ => trivial
  · exact allowed_ask_bind (allowed_rollback.bind fun _ => trivial)
      (allowed_commit.bind fun _ => trivial)

theorem allowed_deleteTransaction (tooMany : Bool) :
    Prog.All (Allowed kind) (deleteTransaction tooMany) := by
  refine allowed_select.bind fun found => ?_
  cases found with
  | none => trivial
  | some record => exact .perform trivial

theorem allowed_loadTransaction : Prog.All (Allowed kind) loadTransaction := by
  have hdelete : Prog.All (Allowed kind)
      ((deleteTransaction false).bind fun _ => (deny : GuessReq Guarded)) :=
    (allowed_deleteTransaction false).bind fun _ => trivial
  refine allowed_select.bind fun found => ?_
  cases found with
  | none => exact hdelete
  | some record => exact allowed_ask_bind hdelete trivial

theorem allowed_transactionUser : Prog.All (Allowed kind) transactionUser :=
  allowed_ask_bind ((allowed_deleteTransaction false).bind fun _ => trivial) trivial

theorem allowed_storeTransaction {change : Change}
    (h : ∀ record, Allowed kind (.update record change)) :
    Prog.All (Allowed kind) (storeTransaction change) := by
  refine allowed_select.bind fun found => ?_
  cases found with
  | none => exact .perform trivial
  | some record => exact .perform (h record)

theorem allowed_failedResetCode (transaction : Guarded) :
    Prog.All (Allowed .resetTransaction) (failedResetCode transaction) := by
  refine Prog.All.bind ?_ fun _ => trivial
  unfold recordTransactionFailure
  split
  · exact (allowed_deleteTransaction true).bind fun _ => trivial
  · next hfew => exact allowed_storeTransaction fun _ => ⟨fun _ => Nat.lt_of_not_le hfew, nofun⟩

theorem allowed_store (transaction : Guarded) :
    Prog.All (Allowed kind) (storeTransaction (.store transaction)) :=
  allowed_storeTransaction fun _ => trivial

theorem allowed_requireSelectedResetMfaMethod (transaction : Guarded) :
    Prog.All (Allowed kind) (requireSelectedResetMfaMethod transaction) :=
  allowed_ask_bind trivial ((allowed_store transaction).bind fun _ => trivial)

theorem allowed_checkResetCode (transaction : Guarded) (method : ResetMethod) :
    Prog.All (Allowed .resetTransaction) (checkResetCode transaction method) := by
  have hverified : Prog.All (Allowed .resetTransaction) (verifiedResetCode transaction) :=
    allowed_commit.bind fun _ => allowed_store transaction
  have hfailed := allowed_failedResetCode transaction
  have htested : Kind.resetTransaction.Tested transaction := ⟨trivial, nofun⟩
  cases method with
  | totp =>
      refine allowed_ask_bind ?_ hfailed
      refine (allowed_verifyTotpOutcome htested).bind fun outcome => ?_
      cases outcome with
      | valid => exact hverified
      | invalid => exact hfailed
      | replay => trivial
  | recoveryCode =>
      refine allowed_ask_bind trivial (Prog.All.bind (.perform htested) fun b => ?_)
      cases b
      · exact allowed_commit.bind fun _ => hfailed
      · exact hverified

theorem allowed_lazilyExpire (request : Guarded) :
    Prog.All (Allowed kind) (lazilyExpire request) := by
  unfold lazilyExpire
  split
  · exact allowed_ask_bind (Prog.All.bind (.perform trivial) fun _ => trivial) trivial
  · trivial

theorem returns_ask (q : Question) : Prog.Returns (fun _ => True) (ask q) := by
  intro r
  cases r <;> trivial

theorem returns_update (record : Guarded) (change : Change) :
    Prog.Returns (fun _ => True) (update record change) := by
  intro r
  cases r <;> trivial

theorem returns_selectForUpdate : Prog.Returns (fun _ => True) selectForUpdate := by
  intro r
  cases r <;> trivial

/-- A request that is found pending is not locked. -/
theorem returns_lazilyExpire (request : Guarded) :
    Prog.Returns (fun found => ∀ r ∈ found, r.locked = false) (lazilyExpire request) := by
  unfold lazilyExpire
  split
  · next hlive =>
      refine (returns_ask _).bind fun expired _ => ?_
      cases expired
      · rintro r ⟨rfl⟩
        simp only [Guarded.live, Bool.and_eq_true, Bool.not_eq_true'] at hlive
        exact hlive.2
      · exact (returns_update _ _).bind fun _ _ => nofun
  · exact nofun

theorem allowed_loadTopupRequestForApproval (copy : Option Guarded) :
    Prog.All (Allowed kind) (loadTopupRequestForApproval copy) := by
  refine allowed_selectForUpdate.bind fun found => ?_
  cases found with
  | none => trivial
  | some request => exact allowed_ask_bind (allowed_lazilyExpire _) trivial

theorem returns_loadTopupRequestForApproval (copy : Option Guarded) :
    Prog.Returns (fun found => ∀ r ∈ found, r.locked = false)
      (loadTopupRequestForApproval copy) := by
  refine returns_selectForUpdate.bind fun found _ => ?_
  cases found with
  | none => exact nofun
  | some request =>
      refine (returns_ask _).bind fun matching _ => ?_
      cases matching
      · exact nofun
      · exact returns_lazilyExpire _

theorem allowed_completeTopUp (request : Guarded) :
    Prog.All (Allowed kind) (completeTopUp request) := by
  refine (allowed_refresh request).bind fun copy => ?_
  refine (allowed_loadTopupRequestForApproval _).bind fun found => ?_
  cases found with
  | none => trivial
  | some request =>
      refine allowed_ask_bind (.perform trivial) (allowed_rollback.bind fun _ => ?_)
      exact allowed_ask_bind (.perform trivial) trivial

theorem allowed_countWrongTopUpCode (request : Guarded) :
    Prog.All (Allowed .topUpRequest) (countWrongTopUpCode request) :=
  (allowed_refresh request).bind fun _ => .perform
    ⟨fun hfew => Nat.lt_of_not_le (of_decide_eq_false hfew), nofun⟩

theorem allowed_topupApproveSubmit :
    Prog.All (Allowed .topUpRequest) topupApproveSubmit := by
  refine (allowed_loadTopupRequestForApproval none).bind_returns
    (returns_loadTopupRequestForApproval none) fun found hfound => ?_
  cases found with
  | none => trivial
  | some request =>
      have htested : Kind.topUpRequest.Tested request := ⟨hfound request rfl, nofun⟩
      refine allowed_ask_bind (allowed_ask_bind ?_ (.perform trivial)) trivial
      refine (allowed_verifyTotpOutcome htested).bind fun outcome => ?_
      cases outcome with
      | valid => exact allowed_completeTopUp request
      | invalid | replay => exact allowed_countWrongTopUpCode request

theorem allowed_topupStatus : Prog.All (Allowed kind) topupStatus := by
  refine allowed_select.bind fun found => ?_
  cases found with
  | none => trivial
  | some request => exact (allowed_lazilyExpire request).bind fun _ => trivial

theorem allowed_activeInviteByToken : Prog.All (Allowed kind) activeInviteByToken := by
  refine allowed_ask_bind (allowed_selectForUpdate.bind fun found => ?_) trivial
  cases found with
  | none => trivial
  | some invite =>
      refine allowed_ask_bind (Prog.All.bind (.perform trivial) fun _ => trivial) ?_
      split
      · trivial
      · split <;> trivial

/-- An invite that is found by its token is neither revoked nor used nor locked. -/
theorem returns_activeInviteByToken : Prog.Returns Kind.staffInvite.Open activeInviteByToken := by
  refine (returns_ask _).bind fun matching _ => ?_
  cases matching
  · trivial
  refine returns_selectForUpdate.bind fun found _ => ?_
  cases found with
  | none => trivial
  | some invite =>
      refine (returns_ask _).bind fun expired _ => ?_
      cases expired
      · simp only [Bool.false_eq_true, if_false]
        split
        · trivial
        · next hmarks =>
            simp only [Bool.or_eq_true, not_or, Bool.not_eq_true] at hmarks
            split
            · next hlive =>
                simp only [Guarded.live, Bool.and_eq_true, Bool.not_eq_true'] at hlive
                exact ⟨hlive.2, hmarks⟩
            · trivial
      · exact (returns_update _ _).bind fun _ _ => trivial

theorem allowed_recordInviteAcceptanceVerifyFailure (invite : Guarded) :
    Prog.All (Allowed .staffInvite) (recordInviteAcceptanceVerifyFailure invite) := by
  refine Prog.All.bind (.perform ⟨fun hfew => ?_, nofun⟩) fun _ => trivial
  exact Nat.lt_of_not_le (of_decide_eq_false hfew)

theorem allowed_checkWorkplaceCode {tested : Guarded} (htested : Kind.staffInvite.Tested tested) :
    Prog.All (Allowed .staffInvite) (checkWorkplaceCode tested) := by
  refine (allowed_refresh tested).bind fun r => ?_
  have hrecord := allowed_recordInviteAcceptanceVerifyFailure r
  refine allowed_ask_bind (Prog.All.bind (.perform htested) fun b => ?_) hrecord
  cases b
  · exact hrecord
  · exact .perform rfl

theorem allowed_checkInviteCodes {invite : Guarded} (htested : Kind.staffInvite.Tested invite) :
    Prog.All (Allowed .staffInvite) (checkInviteCodes invite) := by
  refine allowed_ask_bind ?_ (allowed_recordInviteAcceptanceVerifyFailure invite)
  refine (allowed_verifyTotpOutcome htested).bind fun outcome => ?_
  cases outcome with
  | valid => exact allowed_checkWorkplaceCode htested
  | invalid =>
      exact (allowed_refresh invite).bind fun r => allowed_recordInviteAcceptanceVerifyFailure r
  | replay => trivial

theorem allowed_verifyInviteAcceptance :
    Prog.All (Allowed .staffInvite) verifyInviteAcceptance := by
  refine allowed_activeInviteByToken.bind_returns returns_activeInviteByToken
    fun invite hopen => allowed_ask_bind ?_ trivial
  split
  · next hsetUp =>
      refine allowed_ask_bind (allowed_checkInviteCodes ⟨hopen, fun _ => hsetUp⟩) ?_
      exact (allowed_ask _).bind fun _ => Prog.All.bind (.perform trivial) fun _ => trivial
  · exact allowed_commit.bind fun _ => trivial

theorem allowed_clearFailedInviteAcceptanceStart (found : Guarded) :
    Prog.All (Allowed kind) (clearFailedInviteAcceptanceStart found) := by
  unfold clearFailedInviteAcceptanceStart
  split
  · trivial
  · next hsetUp =>
      refine allowed_select.bind fun stored => ?_
      cases stored with
      | none => trivial
      | some invite =>
          refine (allowed_ask _).bind fun _ => (allowed_ask _).bind fun _ => .perform ?_
          exact Bool.eq_false_iff.mpr hsetUp

theorem allowed_encryptMfaSecret (invite : Guarded) :
    Prog.All (Allowed kind) (encryptMfaSecret invite) := by
  refine Prog.All.tryCatch ?_ fun _ => allowed_rollback
  split
  · exact allowed_commit
  · exact .perform trivial

theorem allowed_startInviteAcceptance :
    Prog.All (Allowed .staffInvite) startInviteAcceptance := by
  refine allowed_activeInviteByToken.bind fun found => ?_
  refine allowed_ask_bind (Prog.All.bind (.perform nofun) fun _ => trivial) ?_
  refine allowed_ask_bind ((allowed_encryptMfaSecret found).bind fun _ => ?_) trivial
  refine (allowed_refresh found).bind fun invite => Prog.All.tryCatch ?_ fun _ => ?_
  · exact allowed_ask_bind ((allowed_ask _).bind fun _ => .perform trivial) trivial
  · exact allowed_rollback.bind fun _ =>
      (allowed_clearFailedInviteAcceptanceStart found).bind fun _ => trivial

theorem allowed_activeInviteById : Prog.All (Allowed kind) activeInviteById := by
  refine allowed_ask_bind (allowed_select.bind fun found => ?_) trivial
  cases found with
  | none => trivial
  | some invite =>
      dsimp only
      split <;> trivial

theorem allowed_resetActiveInviteAcceptance (invite : Guarded) (reissued : Bool) :
    Prog.All (Allowed kind) (resetActiveInviteAcceptance invite reissued) :=
  allowed_ask_bind ((allowed_ask _).bind fun _ => .perform trivial) trivial

theorem allowed_handler {kind : Kind} (request : GuessRequest kind) :
    Prog.All (Allowed kind) request.handler := by
  cases request with
  | verifyReset method =>
      refine allowed_loadTransaction.bind fun transaction =>
        allowed_transactionUser.bind fun _ => ?_
      exact (allowed_requireSelectedResetMfaMethod transaction).bind fun _ =>
        allowed_checkResetCode transaction method
  | selectResetMethod =>
      refine allowed_loadTransaction.bind fun transaction =>
        allowed_transactionUser.bind fun _ => ?_
      have hstore : Prog.All (Allowed .resetTransaction)
          (storeTransaction (.store transaction)) := allowed_store transaction
      exact allowed_ask_bind (allowed_ask_bind trivial hstore) (hstore.bind fun _ => trivial)
  | completeReset =>
      refine allowed_loadTransaction.bind fun _ => allowed_transactionUser.bind fun _ => ?_
      exact allowed_ask_bind (allowed_commit.bind fun _ => allowed_deleteTransaction false) trivial
  | approveTopUp => exact allowed_topupApproveSubmit
  | pollTopUp => exact allowed_topupStatus
  | verifyInvite => exact allowed_verifyInviteAcceptance
  | startInvite => exact allowed_startInviteAcceptance
  | revokeInvite => exact allowed_activeInviteById.bind fun _ => .perform trivial
  | resetInvite =>
      exact allowed_activeInviteById.bind fun invite =>
        allowed_resetActiveInviteAcceptance invite false
  | reissueInvite =>
      refine allowed_activeInviteById.bind fun invite => ?_
      exact allowed_ask_bind (allowed_resetActiveInviteAcceptance invite true)
        (allowed_rollback.bind fun _ => trivial)

theorem allowed_serve {kind : Kind} (request : GuessRequest kind) :
    Prog.All (Allowed kind) request.serve := by
  refine Prog.All.bind ((allowed_handler request).tryCatch fun e => ?_) fun _ => allowed_rollback
  exact allowed_rollback.bind fun _ => trivial

end Handlers

/-! ### The invariant -/

/-- Every wrong code has been counted in the row or is about to be, nothing has failed, and
an invite without a setup user has not been verified. -/
structure Tallied (kind : Kind) (w : GuessWorld) (r : Guarded) : Prop where
  dead : w.dead = false
  counted : w.wrong ≤ r.failures + w.pending.length
  spare : w.wrong < kind.maxFailures + w.pending.length
  unset : kind = .staffInvite → r.setUp = false → w.wrong = 0 ∧ w.pending = []

structure Bounded (kind : Kind) (w : GuessWorld) : Prop where
  wrong_le : w.wrong ≤ kind.maxFailures
  late : w.late = 0
  row : ∀ r, w.row = some r → kind.Open r → Tallied kind w r

theorem Kind.maxFailures_pos (kind : Kind) : 0 < kind.maxFailures := by
  cases kind <;> decide

section Statements

variable {kind : Kind} {w : GuessWorld} {t : ℕ} {r r' : Guarded}

/-- Nothing has been compared. -/
theorem tallied_of_fresh (hwrong : w.wrong = 0) (hpending : w.pending = [])
    (hdead : w.dead = false) : Tallied kind w r where
  dead := hdead
  counted := by
    rw [hwrong]
    exact Nat.zero_le _
  spare := by
    rw [hwrong]
    exact Nat.lt_of_lt_of_le kind.maxFailures_pos (Nat.le_add_right ..)
  unset _ _ := ⟨hwrong, hpending⟩

/-- Only the counter and the setup user matter. -/
theorem Tallied.of_row (h : Tallied kind w r) (hfailures : r'.failures = r.failures)
    (hsetUp : r'.setUp = false → r.setUp = false) : Tallied kind w r' where
  dead := h.dead
  counted := hfailures ▸ h.counted
  spare := h.spare
  unset hkind hunset := h.unset hkind (hsetUp hunset)

theorem Bounded.of_row_none (h : Bounded kind w) {pending : List ℕ} {dead : Bool} :
    Bounded kind { w with row := none, pending := pending, dead := dead } where
  wrong_le := h.wrong_le
  late := h.late
  row _ hr := (nomatch hr)

theorem Bounded.holder (h : Bounded kind w) {holder : Option ℕ} :
    Bounded kind { w with holder := holder } where
  wrong_le := h.wrong_le
  late := h.late
  row r hr hopen := by
    obtain ⟨hdead, hcounted, hspare, hunset⟩ := h.row r hr hopen
    exact ⟨hdead, hcounted, hspare, hunset⟩

theorem Bounded.release (h : Bounded kind w) : Bounded kind (w.release t) := h.holder

/-- A row that is no longer open bears no obligation. -/
theorem Bounded.of_not_open (h : Bounded kind w) (hr : ¬kind.Open r) :
    Bounded kind { w with row := some r } where
  wrong_le := h.wrong_le
  late := h.late
  row := by
    rintro _ ⟨rfl⟩ hopen
    exact absurd hopen hr

/-- A change of the row that neither counts nor opens it. -/
theorem Bounded.of_row (h : Bounded kind w) (hrow : w.row = some r)
    (hopen : kind.Open r' → kind.Open r) (hfailures : r'.failures = r.failures)
    (hsetUp : r'.setUp = false → r.setUp = false) :
    Bounded kind { w with row := some r' } where
  wrong_le := h.wrong_le
  late := h.late
  row := by
    rintro _ ⟨rfl⟩ hopen'
    obtain ⟨hdead, hcounted, hspare, hunset⟩ :=
      (h.row r hrow (hopen hopen')).of_row hfailures hsetUp
    exact ⟨hdead, hcounted, hspare, hunset⟩

theorem length_le_erase (l : List ℕ) (t : ℕ) : l.length ≤ (l.erase t).length + 1 := by
  rw [List.length_erase]
  split <;> omega

theorem Bounded.compared (h : Bounded kind w) {tested : Guarded} (hrow : w.row = some tested)
    (htested : kind.Tested tested) (hpending : w.pending = []) (c : GuessChoice) :
    Bounded kind (w.compared t c) := by
  obtain ⟨hdead, hcounted, hspare, -⟩ := h.row tested hrow htested.1
  rw [hpending] at hcounted hspare
  have hrow' : ∀ r, (w.compared t c).row = some r → r = tested := fun r hr =>
    Option.some.inj (hr.symm.trans hrow)
  cases hc : c.yes with
  | true =>
      refine ⟨?_, ?_, fun r hr _ => ⟨?_, ?_, ?_, fun hkind hunset => ?_⟩⟩ <;>
        simp only [GuessWorld.compared, hc, hdead, if_true]
      · exact h.wrong_le
      · simpa using h.late
      · rw [hrow' r hr]
        simpa [hpending] using hcounted
      · simpa [hpending] using hspare
      · rw [hrow' r hr, htested.2 hkind] at hunset
        cases hunset
  | false =>
      refine ⟨?_, ?_, fun r hr _ => ⟨?_, ?_, ?_, fun hkind hunset => ?_⟩⟩ <;>
        simp only [GuessWorld.compared, hc, hdead]
      · exact Nat.succ_le_of_lt hspare
      · simpa using h.late
      · rw [hrow' r hr]
        simpa [hpending] using hcounted
      · simpa [hpending] using hspare
      · rw [hrow' r hr, htested.2 hkind] at hunset
        cases hunset

/-- A counter that has not reached the maximum leaves the row open, and one that has
does not. -/
theorem open_of_count {seen : Guarded} {tooMany : Bool}
    (hmarks : tooMany = true → kind ≠ .resetTransaction)
    (h : kind.Open (seen.apply seen (.count seen tooMany))) : kind.Open seen ∧ tooMany = false := by
  cases kind with
  | resetTransaction =>
      refine ⟨trivial, ?_⟩
      cases tooMany with
      | true => exact absurd rfl (hmarks rfl)
      | false => rfl
  | topUpRequest =>
      simpa only [Kind.Open, Guarded.apply, Bool.or_eq_false_iff] using h
  | staffInvite =>
      simp only [Kind.Open, Guarded.apply, Bool.or_eq_false_iff] at h
      exact ⟨⟨h.1.1, h.2⟩, h.1.2⟩

theorem Bounded.count (h : Bounded kind w) {seen : Guarded} {tooMany : Bool}
    (hrow : w.row = some seen) (hallowed : Allowed kind (.update seen (.count seen tooMany))) :
    Bounded kind ({ w with row := some (seen.apply seen (.count seen tooMany)) }.record t
      (.count seen tooMany)) := by
  have hfailures : (seen.apply seen (.count seen tooMany)).failures = seen.failures + 1 :=
    written_self ..
  have hlength := length_le_erase w.pending t
  refine ⟨h.wrong_le, h.late, ?_⟩
  rintro r ⟨rfl⟩ hopen
  obtain ⟨hbefore, rfl⟩ := open_of_count hallowed.2 hopen
  obtain ⟨hdead, hcounted, hspare, hunset⟩ := h.row seen hrow hbefore
  have hfew := hallowed.1 rfl
  refine ⟨?_, ?_, ?_, fun hkind hnone => ?_⟩
  · simpa [GuessWorld.record] using hdead
  · rw [hfailures]
    simp only [GuessWorld.record]
    omega
  · simp only [GuessWorld.record]
    omega
  · obtain ⟨hwrong, hpending⟩ := hunset hkind hnone
    refine ⟨hwrong, ?_⟩
    simp only [GuessWorld.record]
    rw [hpending]
    rfl

theorem Bounded.store (h : Bounded kind w) {seen : Guarded} (hrow : w.row = some seen) :
    Bounded kind { w with row := some (seen.apply seen (.store seen)) } := by
  have hsame : seen.apply seen (.store seen) = seen := by
    simp only [Guarded.apply, written_self]
  rw [hsame, ← hrow]
  exact h

theorem Bounded.clearByRoot (h : Bounded kind w) (r : Guarded) (statusChanged reissued : Bool) :
    Bounded kind ({ w with row := some r }.record t (.clearByRoot statusChanged reissued)) :=
  ⟨Nat.zero_le _, h.late, fun _ _ _ => tallied_of_fresh rfl rfl rfl⟩

theorem Bounded.clearFailed (h : Bounded kind w) (r : Guarded)
    (hfresh : w.wrong = 0 ∧ w.pending = [] ∧ w.dead = false) :
    Bounded kind { w with row := some r } :=
  ⟨h.wrong_le, h.late, fun _ _ _ => tallied_of_fresh hfresh.1 hfresh.2.1 hfresh.2.2⟩

theorem Bounded.updated (h : Bounded kind w) {record : Guarded} {change : Change}
    (hallowed : Allowed kind (.update record change)) (hcond : change.undisturbed w record) :
    Bounded kind (w.updated t record change).2 := by
  unfold GuessWorld.updated
  split
  · next r hr =>
      split
      · refine Bounded.release ?_
        cases change with
        | count seen tooMany =>
            obtain ⟨rfl, hrow⟩ := hcond
            cases hr.symm.trans hrow
            exact h.count hrow hallowed
        | store seen =>
            obtain ⟨rfl, hrow⟩ := hcond
            cases hr.symm.trans hrow
            exact h.store hrow
        | close | reopen => exact h.of_row hr (fun hopen => by cases kind <;> exact hopen) rfl id
        | setUp => exact h.of_row hr (fun hopen => by cases kind <;> exact hopen) rfl nofun
        | revoke =>
            refine h.of_row hr (fun hopen => ?_) rfl id
            cases kind with
            | resetTransaction | topUpRequest => exact hopen
            | staffInvite => exact nomatch hopen.2.1
        | lock =>
            refine h.of_not_open fun hopen => ?_
            cases kind with
            | resetTransaction => exact hallowed rfl
            | topUpRequest => exact nomatch hopen
            | staffInvite => exact nomatch hopen.1
        | accept =>
            have hkind : kind = .staffInvite := hallowed
            subst hkind
            exact h.of_not_open fun hopen => nomatch hopen.2.2
        | clearByRoot statusChanged reissued => exact h.clearByRoot _ statusChanged reissued
        | clearFailed found statusChanged keepsUser => exact h.clearFailed _ (hcond hallowed)
      · exact h.release
  · exact h.release

theorem Bounded.deleted (h : Bounded kind w) (record : Guarded) (tooMany : Bool) :
    Bounded kind (w.deleted t record tooMany) := by
  unfold GuessWorld.deleted
  split
  · split
    · exact h.of_row_none.release
    · exact h.release
  · exact h.release

/-- One statement of a handler. -/
theorem Bounded.exec (o : GuessOp) (c : GuessChoice) (r : Except GuessError (GuessRes o))
    (w' : GuessWorld) (hallowed : Allowed kind o) (hcond : undisturbed t o w)
    (he : guessExec t o c w = some (r, w')) (h : Bounded kind w) : Bounded kind w' := by
  cases o with
  | ask q =>
      cases he
      exact h
  | load lock =>
      simp only [guessExec] at he
      split at he
      · cases he
      · cases he
        exact h.holder
  | compare tested =>
      cases he
      exact h.compared hcond.1 hallowed hcond.2 c
  | refresh id =>
      simp only [guessExec] at he
      split at he
      · split at he <;> cases he <;> exact h
      · cases he
        exact h
  | update record change =>
      simp only [guessExec] at he
      split at he
      · cases he
      split at he
      · cases he
        exact h.release
      · have hw : (w.updated t record change).2 = w' := congrArg Prod.snd (Option.some.inj he)
        exact hw ▸ h.updated hallowed hcond
  -- a row that appears is a disturbance
  | insert change => exact hcond.elim
  | delete record tooMany =>
      simp only [guessExec] at he
      split at he
      · cases he
      split at he <;> cases he
      · exact h.release
      · exact h.deleted record tooMany
  | commit =>
      simp only [guessExec] at he
      split at he <;> cases he <;> exact h.release
  | rollback =>
      cases he
      exact h.release

end Statements

/-! ### Runs -/

theorem bounded_guessStart {kind : Kind} (setUp : Bool) (requests : ℕ → GuessRequest kind) :
    Bounded kind (guessStart setUp requests).world :=
  ⟨Nat.zero_le _, rfl, fun _ _ _ => tallied_of_fresh rfl rfl rfl⟩

/-- In every run in which verifications of the row do not disturb each other, at
most the maximum of wrong codes is compared for it, and none once it has been
locked, failed or deleted for too many failures. -/
theorem guesses_bounded {kind : Kind} {setUp : Bool} {requests : ℕ → GuessRequest kind}
    {x : GuessConf} (hx : Reach guessExec undisturbed (guessStart setUp requests) x) :
    x.world.wrong ≤ kind.maxFailures ∧ x.world.late = 0 := by
  have hbounded : Bounded kind x.world :=
    (reach_keeps guessExec (fun t o c r w w' => Bounded.exec (t := t) (w := w) o c r w')
      (fun t => allowed_serve (requests t)) (bounded_guessStart setUp requests) hx).1
  exact ⟨hbounded.wrong_le, hbounded.late⟩

instance (w : GuessWorld) (record : Guarded) :
    (change : Change) → Decidable (change.undisturbed w record)
  | .count seen _ => inferInstanceAs (Decidable (record = seen ∧ w.row = some seen))
  | .store seen => inferInstanceAs (Decidable (record = seen ∧ w.row = some seen))
  | .clearFailed found _ _ => inferInstanceAs (Decidable
      (found.setUp = false → w.wrong = 0 ∧ w.pending = [] ∧ w.dead = false))
  | .clearByRoot _ _ => inferInstanceAs (Decidable True)
  | .close => inferInstanceAs (Decidable True)
  | .revoke => inferInstanceAs (Decidable True)
  | .lock => inferInstanceAs (Decidable True)
  | .accept => inferInstanceAs (Decidable True)
  | .setUp => inferInstanceAs (Decidable True)
  | .reopen _ => inferInstanceAs (Decidable True)

instance (t : ℕ) (o : GuessOp) (w : GuessWorld) : Decidable (undisturbed t o w) :=
  match o with
  | .compare tested => inferInstanceAs (Decidable (w.row = some tested ∧ w.pending = []))
  | .update record change => inferInstanceAs (Decidable (change.undisturbed w record))
  | .insert _ => inferInstanceAs (Decidable False)
  | .ask _ => inferInstanceAs (Decidable True)
  | .load _ => inferInstanceAs (Decidable True)
  | .refresh _ => inferInstanceAs (Decidable True)
  | .delete _ _ => inferInstanceAs (Decidable True)
  | .commit => inferInstanceAs (Decidable True)
  | .rollback => inferInstanceAs (Decidable True)

/-- Thread `t` performs its next operations with these answers. -/
def answers (t : ℕ) (yes : List Bool) : List (ℕ × GuessChoice) :=
  yes.map fun b => (t, ⟨b, false⟩)

/-- A top-up request is found pending, and a wrong code is compared for it. -/
def wrongTopUpCode (t : ℕ) : List (ℕ × GuessChoice) :=
  answers t [true, true, false, true, true, true, false, false, true]

/-- Five wrong codes one after the other: the request has failed, and the sixth
code is not compared. -/
theorem guesses_bounded_topUp :
    ∃ x, Reach guessExec undisturbed (guessStart true fun _ => .approveTopUp) x ∧
      x.world.wrong = 5 ∧ x.world.dead = true ∧
      (x.world.wrong ≤ topupApprovalMaxFailures ∧ x.world.late = 0) := by
  have hrun : (runChecked guessExec (fun t o w => decide (undisturbed t o w))
      (guessStart true fun _ => .approveTopUp)
      ((List.range 5).flatMap (fun t => wrongTopUpCode t ++ answers t [true, true, true]) ++
        answers 5 [true, true, true])).any
      (fun x => x.world.wrong = 5 ∧ x.world.dead = true) = true := by decide +kernel
  obtain ⟨x, hx, hend⟩ := (Option.any_eq_true ..).mp hrun
  have hreach := reach_of_runChecked guessExec (fun _ _ _ => of_decide_eq_true) .refl hx
  obtain ⟨hwrong, hdead⟩ := of_decide_eq_true hend
  exact ⟨x, hreach, hwrong, hdead, guesses_bounded hreach⟩

/-- A reset transaction is read, and a wrong code is compared for it. -/
def wrongResetCode (t : ℕ) : List (ℕ × GuessChoice) :=
  answers t [true, false, false, true, true, true, false, false]

/-- An invite is locked, and a wrong code is compared for it. -/
def wrongInviteCode (t : ℕ) : List (ℕ × GuessChoice) :=
  answers t [true, true, false, true, true, true, true, false, false, true]

/-- Six requests compare a wrong code before one of them counts it: for each kind
of row. -/
theorem six_wrong_codes_compared :
    (∃ x, Reach guessExec (fun _ _ _ => True) (guessStart true fun _ => .verifyReset .totp) x ∧
      ¬x.world.wrong ≤ resetTransactionMaxFailures) ∧
    (∃ x, Reach guessExec (fun _ _ _ => True) (guessStart true fun _ => .approveTopUp) x ∧
      ¬x.world.wrong ≤ topupApprovalMaxFailures) ∧
    (∃ x, Reach guessExec (fun _ _ _ => True) (guessStart true fun _ => .verifyInvite) x ∧
      ¬x.world.wrong ≤ staffInviteMaxVerifyAttempts) := by
  have hreset : (run guessExec (guessStart true fun _ => .verifyReset .totp)
      ((List.range 6).flatMap wrongResetCode)).any
      (fun x => ¬x.world.wrong ≤ resetTransactionMaxFailures) = true := by decide +kernel
  have htopUp : (run guessExec (guessStart true fun _ => .approveTopUp)
      ((List.range 6).flatMap wrongTopUpCode)).any
      (fun x => ¬x.world.wrong ≤ topupApprovalMaxFailures) = true := by decide +kernel
  have hinvite : (run guessExec (guessStart true fun _ => .verifyInvite)
      ((List.range 6).flatMap wrongInviteCode)).any
      (fun x => ¬x.world.wrong ≤ staffInviteMaxVerifyAttempts) = true := by decide +kernel
  obtain ⟨x, hx, hreset⟩ := (Option.any_eq_true ..).mp hreset
  obtain ⟨y, hy, htopUp⟩ := (Option.any_eq_true ..).mp htopUp
  obtain ⟨z, hz, hinvite⟩ := (Option.any_eq_true ..).mp hinvite
  exact ⟨⟨x, reach_of_run guessExec .refl hx, of_decide_eq_true hreset⟩,
    ⟨y, reach_of_run guessExec .refl hy, of_decide_eq_true htopUp⟩,
    ⟨z, reach_of_run guessExec .refl hz, of_decide_eq_true hinvite⟩⟩

end SitBank.Attempts
