import SitBank.Auth.Totp
import SitBank.Interaction.Call

/-!
What a submitted authentication code can do (`app/auth/services.py`,
`app/auth/password_reset.py`).

The login form and the form of the password reset admit any text. A text of six digits
goes on to the comparison with the codes of the authenticator; `str.isdigit` and `\d`
take digits of every script, and `hmac.compare_digest` takes ASCII only. What the
counters, the reset transaction and the recovery codes say is part of the state; the
database does not fail.

The history is not part of the program: it says what a call did, newest first.
-/

namespace SitBank.Auth.CodePaths

open SitBank.Interaction

/-! ### State -/

structure CodeConfig extends TotpConfig where
  /-- The characters of which `str.isdigit` holds. -/
  isDigit : Char → Bool
  isDigit_of_isDecimal : ∀ c, isDecimal c = true → isDigit c = true

inductive Counter
  | backoff (scope : String)
  | customerMfaLogin
  | userSecurity
  deriving DecidableEq, Repr

inductive CodeEvent
  /-- The code was handed to `hmac.compare_digest`. -/
  | compared
  | accepted
  | replayed
  | recorded (counter : Counter)
  deriving DecidableEq, Repr

structure CodeWorld where
  /-- In seconds. -/
  now : ℕ
  replayKeys : List (ℕ × String × ℤ × String)
  /-- `apply_exponential_backoff` asks to wait. -/
  backoff : String → ℕ → Bool
  /-- There are more failures than `CUSTOMER_MFA_FAILURE_LIMIT`, and after one more. -/
  customerLimitExceeded : ℕ → Bool
  customerLimitReached : ℕ → Bool
  /-- An unused recovery code of the user. -/
  recoveryCode : ℕ → String → Bool
  /-- The other conditions of a sensitive action are met. -/
  actionReady : Bool
  /-- There is a reset transaction that asks for an authenticator code. -/
  resetReady : Bool
  resetFailures : ℕ
  history : List CodeEvent

abbrev CodeCall (α : Type) := Call CodeWorld TotpError α

def log (e : CodeEvent) : CodeCall Unit := modify fun w => { w with history := e :: w.history }

def recordFailure (scope : String) : CodeCall Unit := log (.recorded (.backoff scope))

def recordUserSecurityFailure : CodeCall Unit := log (.recorded .userSecurity)

def whenTracked (trackFailures : Bool) (m : CodeCall Unit) : CodeCall Unit :=
  if trackFailures then m else pure ()

/-! ### Verification -/

/-- A backoff counts as a failure of the user. -/
def enforceAuthBackoff (scope : String) (user : ℕ) : CodeCall Unit := do
  let w ← get
  if w.backoff scope user then do
    recordUserSecurityFailure
    throw .auth
  else pure ()

/-- The replay record of an accepted step. -/
def commitReplayRecord (key : ℕ × String × ℤ × String) : CodeCall TotpVerificationOutcome := do
  let w ← get
  if key ∈ w.replayKeys then do
    log .replayed
    pure .replay
  else do
    set { w with replayKeys := key :: w.replayKeys }
    log .accepted
    pure .valid

def invalidCode (scope : String) (trackFailures : Bool) : CodeCall TotpVerificationOutcome := do
  whenTracked trackFailures (recordFailure scope)
  pure .invalid

/-- The loop always reaches the current step, so the code is compared. -/
def compareCode (cfg : CodeConfig) (user : ℕ) (code scope : String) (trackFailures : Bool) :
    CodeCall TotpVerificationOutcome := do
  log .compared
  let w ← get
  match acceptedTotpStep cfg.toTotpConfig (cfg.secret user) code w.now
      (totpValidWindow cfg.toTotpConfig scope none) with
  | .error e => throw e
  | .ok none => invalidCode scope trackFailures
  | .ok (some step) =>
      commitReplayRecord (user, totpReplayScope scope, step,
        codeDigest cfg.toTotpConfig user (totpReplayScope scope) step code)

def verifyTotpForUserOutcome (cfg : CodeConfig) (user : ℕ) (code scope : String)
    (trackFailures : Bool) : CodeCall TotpVerificationOutcome :=
  if !isSixDigits cfg.toTotpConfig code then invalidCode scope trackFailures
  else do
    whenTracked trackFailures (enforceAuthBackoff scope user)
    compareCode cfg user code scope trackFailures

/-- `_is_totp_code`. -/
def isTotpCode (cfg : CodeConfig) (code : String) : Bool :=
  code.toList.length = 6 && code.toList.all cfg.isDigit

/-! ### Paths -/

def recordCustomerMfaLoginFailure (user : ℕ) : CodeCall Unit := do
  log (.recorded .customerMfaLogin)
  recordUserSecurityFailure
  let w ← get
  raiseIf (w.customerLimitReached user) .auth

/-- `complete_pending_mfa`, up to the new session. -/
def verifyPendingLogin (cfg : CodeConfig) (user : ℕ) (code : String) : CodeCall Unit := do
  let w ← get
  raiseIf (w.customerLimitExceeded user) .auth
  if isTotpCode cfg code then do
    let outcome ← verifyTotpForUserOutcome cfg user code "mfa_login" false
    match outcome with
    | .valid => pure ()
    | .replay => throw .auth
    | .invalid => do
        recordCustomerMfaLoginFailure user
        throw .auth
  else if w.recoveryCode user code then pure ()
  else do
    recordCustomerMfaLoginFailure user
    throw .auth

/-- `verify_fresh_mfa_for_action` and `verify_high_risk_authorization`. -/
def verifyForAction (cfg : CodeConfig) (action : String) (user : ℕ) (code : String) :
    CodeCall Unit := do
  let w ← get
  raiseIf (!w.actionReady) .auth
  let outcome ← verifyTotpForUserOutcome cfg user code action true
  match outcome with
  | .valid => pure ()
  | .replay => throw .auth
  | .invalid => do
      recordUserSecurityFailure
      throw .auth

/-- `_record_transaction_failure`; a transaction ends with its fifth failure. -/
def recordTransactionFailure : CodeCall Unit := do
  modify fun w => { w with resetFailures := w.resetFailures + 1 }
  let w ← get
  raiseIf (5 ≤ w.resetFailures) .auth

def failReset : CodeCall Unit := do
  recordTransactionFailure
  throw .auth

/-- `_verify_reset_authentication_code` for the authenticator. -/
def verifyResetCode (cfg : CodeConfig) (user : ℕ) (code : String) : CodeCall Unit := do
  let w ← get
  raiseIf (!w.resetReady) .auth
  if !isTotpCode cfg code then failReset
  else do
    let outcome ← verifyTotpForUserOutcome cfg user code "password_reset_mfa" true
    match outcome with
    | .valid => pure ()
    | .replay => throw .auth
    | .invalid => failReset

inductive CodePath
  | login
  | action (name : String)
  /-- `verify_totp_code_for_user`, for approvals on another device. -/
  | otherDevice (scope : String)
  | passwordReset

def CodePath.run (cfg : CodeConfig) (user : ℕ) (code : String) : CodePath → CodeCall Unit
  | .login => verifyPendingLogin cfg user code
  | .action name => verifyForAction cfg name user code
  | .otherDevice scope => discard (verifyTotpForUserOutcome cfg user code scope true)
  | .passwordReset => verifyResetCode cfg user code

/-! ### The comparison -/

theorem firstMatch_ascii (totpAt : ℤ → String) {code : String} (hascii : isAscii code = true)
    (candidates : List ℤ) : ∃ found, firstMatch totpAt code candidates = .ok found := by
  induction candidates with
  | nil => exact ⟨none, rfl⟩
  | cons candidate candidates ih =>
      rw [firstMatch, hascii]
      split
      · exact ih
      · rw [if_neg (by decide)]
        split
        · exact ⟨_, rfl⟩
        · exact ih

theorem firstMatch_not_ascii (totpAt : ℤ → String) {code : String} (hascii : isAscii code = false)
    {candidates : List ℤ} {candidate : ℤ} (hmem : candidate ∈ candidates) (hpos : 0 ≤ candidate) :
    firstMatch totpAt code candidates = .error .typeError := by
  induction candidates with
  | nil => cases hmem
  | cons first candidates ih =>
      rw [firstMatch, hascii]
      split
      · next hneg =>
          rcases List.mem_cons.mp hmem with rfl | hmem
          · omega
          · exact ih hmem
      · rfl

theorem current_mem_candidateSteps (current w : ℕ) : (current : ℤ) ∈ candidateSteps current w :=
  List.mem_map.mpr ⟨w, List.mem_range.mpr (by omega), by omega⟩

/-! ### What a call leaves -/

/-- A failed comparison is on record. -/
def Noted (new : List CodeEvent) : Prop :=
  .accepted ∈ new ∨ .replayed ∈ new ∨
    ∃ counter, counter ≠ .userSecurity ∧ .recorded counter ∈ new

/-- The call returned or raised an `AuthError`, and what was compared and not accepted is on
record. -/
def Answered {α : Type} (w : CodeWorld) (r : Except TotpError α) (w' : CodeWorld) : Prop :=
  (∀ e, r = .error e → e = .auth) ∧
    ∃ new, w'.history = new ++ w.history ∧ (.compared ∈ new → Noted new)

/-- The code is handed to the comparison. -/
def CodePath.compares (cfg : CodeConfig) (user : ℕ) (code : String) (w : CodeWorld) :
    CodePath → Bool
  | .login => isSixDigits cfg.toTotpConfig code && !w.customerLimitExceeded user
  | .action name => isSixDigits cfg.toTotpConfig code && w.actionReady && !w.backoff name user
  | .otherDevice scope => isSixDigits cfg.toTotpConfig code && !w.backoff scope user
  | .passwordReset => isSixDigits cfg.toTotpConfig code && w.resetReady &&
      !w.backoff "password_reset_mfa" user

/-- The comparison raised, and nothing is on record. -/
def Broken {α : Type} (w : CodeWorld) (r : Except TotpError α) (w' : CodeWorld) : Prop :=
  r = .error .typeError ∧ w'.history = .compared :: w.history

/-- How a verification ends that does not raise a `TypeError`. -/
def Verified (trackFailures : Bool) (w : CodeWorld) (r : Except TotpError TotpVerificationOutcome)
    (w' : CodeWorld) : Prop :=
  ∃ new, w'.history = new ++ w.history ∧
    match r with
    | .error e => e = .auth ∧ .compared ∉ new
    | .ok .invalid => trackFailures = true → Noted new
    | .ok .replay => Noted new
    | .ok .valid => Noted new

section Paths

variable {cfg : CodeConfig} {user : ℕ} {code scope : String} {trackFailures : Bool}
  {w : CodeWorld}

theorem ends_commitReplayRecord (key : ℕ × String × ℤ × String) :
    Ends (commitReplayRecord key) (fun r w' => (r = .ok .replay ∧ w'.history =
      .replayed :: w.history) ∨ (r = .ok .valid ∧ w'.history = .accepted :: w.history)) w := by
  refine Ends.get_bind ?_
  split
  · exact Ends.modify_bind (Ends.pure (.inl ⟨rfl, rfl⟩))
  · exact Ends.set_bind (Ends.modify_bind (Ends.pure (.inr ⟨rfl, rfl⟩)))

theorem ends_invalidCode (scope : String) (trackFailures : Bool) :
    Ends (invalidCode scope trackFailures) (fun r w' => r = .ok .invalid ∧ w'.history =
      (if trackFailures then [.recorded (.backoff scope)] else []) ++ w.history) w := by
  cases trackFailures with
  | true => exact Ends.modify_bind (Ends.pure ⟨rfl, rfl⟩)
  | false => exact Ends.pure ⟨rfl, rfl⟩

theorem ends_compareCode (hascii : isAscii code = true) :
    Ends (compareCode cfg user code scope trackFailures) (Verified trackFailures w) w := by
  refine Ends.modify_bind (Ends.get_bind ?_)
  obtain ⟨found, hfound⟩ := firstMatch_ascii (cfg.totpAt (cfg.secret user)) hascii
    (candidateSteps (w.now / 30) (totpValidWindow cfg.toTotpConfig scope none))
  have hstep : acceptedTotpStep cfg.toTotpConfig (cfg.secret user) code w.now
      (totpValidWindow cfg.toTotpConfig scope none) = .ok found := hfound
  rw [hstep]
  cases found with
  | none =>
      refine (ends_invalidCode scope trackFailures).mono ?_
      rintro r w' ⟨rfl, hhistory⟩
      refine ⟨_, hhistory.trans (List.append_assoc _ [.compared] w.history).symm, fun htrack => ?_⟩
      rw [if_pos htrack]
      exact .inr (.inr ⟨.backoff scope, nofun, .head _⟩)
  | some step =>
      refine (ends_commitReplayRecord _).mono ?_
      rintro r w' (⟨rfl, hhistory⟩ | ⟨rfl, hhistory⟩)
      · exact ⟨[.replayed, .compared], hhistory, .inr (.inl (.head _))⟩
      · exact ⟨[.accepted, .compared], hhistory, .inl (.head _)⟩

theorem ends_compareCode_not_ascii (hascii : isAscii code = false) :
    Ends (compareCode cfg user code scope trackFailures) (Broken w) w := by
  refine Ends.modify_bind (Ends.get_bind ?_)
  have hstep : acceptedTotpStep cfg.toTotpConfig (cfg.secret user) code w.now
      (totpValidWindow cfg.toTotpConfig scope none) = .error .typeError :=
    firstMatch_not_ascii _ hascii (current_mem_candidateSteps _ _) (Int.natCast_nonneg _)
  rw [hstep]
  exact Ends.throw ⟨rfl, rfl⟩

/-- A tracked verification is let through. -/
def letsThrough (scope : String) (user : ℕ) (trackFailures : Bool) (w : CodeWorld) : Bool :=
  !(trackFailures && w.backoff scope user)

theorem ends_enforceAuthBackoff :
    Ends (whenTracked trackFailures (enforceAuthBackoff scope user))
      (fun r w' => (r = .ok () ∧ w' = w ∧ letsThrough scope user trackFailures w = true) ∨
        (r = .error .auth ∧ w'.history = .recorded .userSecurity :: w.history ∧
          letsThrough scope user trackFailures w = false)) w := by
  cases trackFailures with
  | false => exact Ends.pure (.inl ⟨rfl, rfl, rfl⟩)
  | true =>
      refine Ends.get_bind ?_
      unfold letsThrough
      split
      · next hblocked =>
          refine Ends.modify_bind (Ends.throw (.inr ⟨rfl, rfl, ?_⟩))
          rw [hblocked]
          rfl
      · next hblocked =>
          refine Ends.pure (.inl ⟨rfl, rfl, ?_⟩)
          rw [Bool.not_eq_true] at hblocked
          rw [hblocked]
          rfl

/-- A verification without a `TypeError`. -/
theorem ends_verifyTotp (h : isSixDigits cfg.toTotpConfig code = true →
      letsThrough scope user trackFailures w = true → isAscii code = true) :
    Ends (verifyTotpForUserOutcome cfg user code scope trackFailures) (Verified trackFailures w)
      w := by
  unfold verifyTotpForUserOutcome
  cases hsix : isSixDigits cfg.toTotpConfig code with
  | false =>
      rw [if_pos (by decide)]
      refine (ends_invalidCode scope trackFailures).mono ?_
      rintro r w' ⟨rfl, hhistory⟩
      refine ⟨_, hhistory, fun htrack => ?_⟩
      rw [if_pos htrack]
      exact .inr (.inr ⟨.backoff scope, nofun, .head _⟩)
  | true =>
      rw [if_neg (by decide)]
      refine ends_enforceAuthBackoff.bind ?_ ?_
      · rintro a w' (⟨-, rfl, hthrough⟩ | ⟨hr, -⟩)
        · exact ends_compareCode (h hsix hthrough)
        · cases hr
      · rintro e w' (⟨hr, -⟩ | ⟨hr, hhistory, -⟩)
        · cases hr
        · refine ⟨[.recorded .userSecurity], hhistory, Except.error.inj hr, ?_⟩
          simp

theorem ends_verifyTotp_not_ascii (hsix : isSixDigits cfg.toTotpConfig code = true)
    (hthrough : letsThrough scope user trackFailures w = true) (hascii : isAscii code = false) :
    Ends (verifyTotpForUserOutcome cfg user code scope trackFailures)
      (Broken w) w := by
  unfold verifyTotpForUserOutcome
  rw [hsix, if_neg (by decide)]
  refine ends_enforceAuthBackoff.bind ?_ ?_
  · rintro a w' (⟨-, rfl, -⟩ | ⟨hr, -⟩)
    · exact ends_compareCode_not_ascii hascii
    · cases hr
  · rintro e w' (⟨hr, -⟩ | ⟨-, -, hblocked⟩)
    · cases hr
    · rw [hthrough] at hblocked
      cases hblocked

/-! ### The paths -/

theorem isTotpCode_of_isSixDigits (h : isSixDigits cfg.toTotpConfig code = true) :
    isTotpCode cfg code = true := by
  obtain ⟨hlength, hdecimal⟩ := Bool.and_eq_true_iff.mp h
  refine Bool.and_eq_true_iff.mpr ⟨hlength, List.all_eq_true.mpr fun c hc => ?_⟩
  exact cfg.isDigit_of_isDecimal c (List.all_eq_true.mp hdecimal c hc)

variable {w' : CodeWorld}

theorem answered_ok {α : Type} {a : α} {new : List CodeEvent}
    (hhistory : w'.history = new ++ w.history) (hnoted : .compared ∈ new → Noted new) :
    Answered w (.ok a) w' :=
  ⟨nofun, new, hhistory, hnoted⟩

theorem answered_auth {α : Type} {new : List CodeEvent} (hhistory : w'.history = new ++ w.history)
    (hnoted : .compared ∈ new → Noted new) :
    Answered w (.error .auth : Except TotpError α) w' :=
  ⟨fun _ he => (Except.error.inj he).symm, new, hhistory, hnoted⟩

theorem answered_same : Answered w (.error .auth : Except TotpError Unit) w :=
  answered_auth (List.nil_append _).symm (nomatch ·)

/-- More events do not take anything from the record. -/
theorem Noted.append {new : List CodeEvent} (h : Noted new) (newer : List CodeEvent) :
    Noted (newer ++ new) := by
  rcases h with h | h | ⟨counter, hcounter, h⟩
  · exact .inl (List.mem_append_right _ h)
  · exact .inr (.inl (List.mem_append_right _ h))
  · exact .inr (.inr ⟨counter, hcounter, List.mem_append_right _ h⟩)

theorem answered_of_error {e : TotpError} (h : Verified trackFailures w (.error e) w') :
    Answered w (.error e : Except TotpError Unit) w' := by
  obtain ⟨new, hhistory, rfl, hcompared⟩ := h
  exact answered_auth hhistory fun hmem => absurd hmem hcompared

/-- The customer's counter is on record, and the login raises. -/
theorem ends_recordCustomerMfaLoginFailure {new : List CodeEvent}
    (hhistory : w'.history = new ++ w.history) :
    Ends (do recordCustomerMfaLoginFailure user; throw .auth : CodeCall Unit) (Answered w) w' := by
  have hnoted : Noted (.recorded .userSecurity :: .recorded .customerMfaLogin :: new) :=
    .inr (.inr ⟨.customerMfaLogin, nofun, .tail _ (.head _)⟩)
  have hafter : Ends (recordCustomerMfaLoginFailure user) (fun r w'' => w''.history =
      (.recorded .userSecurity :: .recorded .customerMfaLogin :: new) ++ w.history ∧
        ∀ e, r = .error e → e = .auth) w' := by
    have hlogged : CodeEvent.recorded .userSecurity :: .recorded .customerMfaLogin :: w'.history =
        (.recorded .userSecurity :: .recorded .customerMfaLogin :: new) ++ w.history := by
      rw [hhistory]
      rfl
    refine Ends.modify_bind (Ends.modify_bind (Ends.get_bind (Ends.raiseIf ?_ ?_)))
    · exact fun _ => ⟨hlogged, fun _ he => (Except.error.inj he).symm⟩
    · exact fun _ => ⟨hlogged, nofun⟩
  refine hafter.bind ?_ ?_
  · rintro a w'' ⟨hw'', -⟩
    exact Ends.throw (answered_auth hw'' fun _ => hnoted)
  · rintro e w'' ⟨hw'', he⟩
    rw [he e rfl]
    exact answered_auth hw'' fun _ => hnoted

theorem ends_verifyPendingLogin (h : (CodePath.compares cfg user code w .login) = true →
      isAscii code = true) : Ends (verifyPendingLogin cfg user code) (Answered w) w := by
  refine Ends.get_bind (Ends.raiseIf_bind (fun _ => answered_same) fun hlimit => ?_)
  split
  · have hverify : Ends (verifyTotpForUserOutcome cfg user code "mfa_login" false)
        (Verified false w) w := by
      refine ends_verifyTotp fun hsix _ => h ?_
      rw [CodePath.compares, hsix, hlimit]
      rfl
    refine hverify.bind ?_ fun e w' he => answered_of_error he
    rintro outcome w' ⟨new, hhistory, hnoted⟩
    cases outcome with
    | valid => exact Ends.pure (answered_ok hhistory fun _ => hnoted)
    | replay => exact Ends.throw (answered_auth hhistory fun _ => hnoted)
    | invalid => exact ends_recordCustomerMfaLoginFailure hhistory
  · split
    · exact Ends.pure (answered_ok (List.nil_append _).symm (nomatch ·))
    · exact ends_recordCustomerMfaLoginFailure (List.nil_append _).symm

theorem ends_verifyForAction {action : String}
    (h : CodePath.compares cfg user code w (.action action) = true → isAscii code = true) :
    Ends (verifyForAction cfg action user code) (Answered w) w := by
  refine Ends.get_bind (Ends.raiseIf_bind (fun _ => answered_same) fun hready => ?_)
  have hverify : Ends (verifyTotpForUserOutcome cfg user code action true) (Verified true w) w := by
    refine ends_verifyTotp fun hsix hthrough => h ?_
    rw [Bool.not_eq_false'] at hready
    rw [CodePath.compares, hsix, hready]
    exact hthrough
  refine hverify.bind ?_ fun e w' he => answered_of_error he
  rintro outcome w' ⟨new, hhistory, hnoted⟩
  cases outcome with
  | valid => exact Ends.pure (answered_ok hhistory fun _ => hnoted)
  | replay => exact Ends.throw (answered_auth hhistory fun _ => hnoted)
  | invalid =>
      have hlogged : CodeEvent.recorded .userSecurity :: w'.history =
          ([.recorded .userSecurity] ++ new) ++ w.history := by
        rw [hhistory]
        rfl
      exact Ends.modify_bind (Ends.throw (answered_auth hlogged fun _ => (hnoted rfl).append _))

theorem ends_failReset {new : List CodeEvent} (hhistory : w'.history = new ++ w.history)
    (hnoted : .compared ∈ new → Noted new) : Ends failReset (Answered w) w' := by
  have hafter : Ends recordTransactionFailure (fun r w'' => w''.history = new ++ w.history ∧
      ∀ e, r = .error e → e = .auth) w' := by
    refine Ends.modify_bind (Ends.get_bind (Ends.raiseIf ?_ ?_))
    · exact fun _ => ⟨hhistory, fun _ he => (Except.error.inj he).symm⟩
    · exact fun _ => ⟨hhistory, nofun⟩
  refine hafter.bind ?_ ?_
  · rintro a w'' ⟨hw'', -⟩
    exact Ends.throw (answered_auth hw'' hnoted)
  · rintro e w'' ⟨hw'', he⟩
    rw [he e rfl]
    exact answered_auth hw'' hnoted

theorem ends_verifyResetCode
    (h : CodePath.compares cfg user code w .passwordReset = true → isAscii code = true) :
    Ends (verifyResetCode cfg user code) (Answered w) w := by
  refine Ends.get_bind (Ends.raiseIf_bind (fun _ => answered_same) fun hready => ?_)
  split
  · exact ends_failReset (List.nil_append _).symm (nomatch ·)
  · have hverify : Ends (verifyTotpForUserOutcome cfg user code "password_reset_mfa" true)
        (Verified true w) w := by
      refine ends_verifyTotp fun hsix hthrough => h ?_
      rw [Bool.not_eq_false'] at hready
      rw [CodePath.compares, hsix, hready]
      exact hthrough
    refine hverify.bind ?_ fun e w' he => answered_of_error he
    rintro outcome w' ⟨new, hhistory, hnoted⟩
    cases outcome with
    | valid => exact Ends.pure (answered_ok hhistory fun _ => hnoted)
    | replay => exact Ends.throw (answered_auth hhistory fun _ => hnoted)
    | invalid => exact ends_failReset hhistory fun _ => hnoted rfl

theorem ends_otherDevice
    (h : CodePath.compares cfg user code w (.otherDevice scope) = true → isAscii code = true) :
    Ends (discard (verifyTotpForUserOutcome cfg user code scope true)) (Answered w) w := by
  have hverify : Ends (verifyTotpForUserOutcome cfg user code scope true) (Verified true w) w := by
    refine ends_verifyTotp fun hsix hthrough => h ?_
    rw [CodePath.compares, hsix]
    exact hthrough
  refine hverify.bind ?_ fun e w' he => answered_of_error he
  rintro outcome w' ⟨new, hhistory, hnoted⟩
  refine Ends.pure (answered_ok hhistory fun _ => ?_)
  cases outcome with
  | valid => exact hnoted
  | replay => exact hnoted
  | invalid => exact hnoted rfl

/-- A code of six digits that is compared and not ASCII. -/
theorem ends_not_ascii {path : CodePath} (hcompares : path.compares cfg user code w = true)
    (hascii : isAscii code = false) :
    Ends (path.run cfg user code) (Broken w) w := by
  -- each path reaches the comparison, which raises on a character outside ASCII
  have hverify (scope : String) (trackFailures : Bool)
      (hsix : isSixDigits cfg.toTotpConfig code = true)
      (hthrough : letsThrough scope user trackFailures w = true) :
      Ends (verifyTotpForUserOutcome cfg user code scope trackFailures)
        (Broken w) w := ends_verifyTotp_not_ascii hsix hthrough hascii
  have hraised {e : TotpError} {w' : CodeWorld}
      (h : Broken w (.error e : Except TotpError TotpVerificationOutcome) w') :
      Broken w (.error e : Except TotpError Unit) w' := by
    rw [Except.error.inj h.1]
    exact ⟨rfl, h.2⟩
  cases path with
  | login =>
      obtain ⟨hsix, hlimit⟩ := Bool.and_eq_true_iff.mp hcompares
      refine Ends.get_bind (Ends.raiseIf_bind (fun hexceeded => ?_) fun _ => ?_)
      · rw [hexceeded] at hlimit
        cases hlimit
      · rw [if_pos (isTotpCode_of_isSixDigits hsix)]
        exact (hverify _ _ hsix rfl).bind (fun _ _ h => nomatch h.1)
          fun _ _ h => hraised h
  | action name =>
      obtain ⟨hrest, hthrough⟩ := Bool.and_eq_true_iff.mp hcompares
      obtain ⟨hsix, hready⟩ := Bool.and_eq_true_iff.mp hrest
      refine Ends.get_bind (Ends.raiseIf_bind (fun hnot => ?_) fun _ => ?_)
      · rw [hready] at hnot
        cases hnot
      · exact (hverify name true hsix hthrough).bind (fun _ _ h => nomatch h.1)
          fun _ _ h => hraised h
  | otherDevice scope =>
      obtain ⟨hsix, hthrough⟩ := Bool.and_eq_true_iff.mp hcompares
      exact (hverify scope true hsix hthrough).bind (fun _ _ h => nomatch h.1)
        fun _ _ h => hraised h
  | passwordReset =>
      obtain ⟨hrest, hthrough⟩ := Bool.and_eq_true_iff.mp hcompares
      obtain ⟨hsix, hready⟩ := Bool.and_eq_true_iff.mp hrest
      refine Ends.get_bind (Ends.raiseIf_bind (fun hnot => ?_) fun _ => ?_)
      · rw [hready] at hnot
        cases hnot
      · rw [if_neg (by rw [isTotpCode_of_isSixDigits hsix]; decide)]
        exact (hverify _ true hsix hthrough).bind (fun _ _ h => nomatch h.1)
          fun _ _ h => hraised h

end Paths

/-- Every path answers every code, except one of six digits that is compared and has a digit
that is not ASCII. -/
theorem codePath_answers_iff (cfg : CodeConfig) (path : CodePath) (user : ℕ) (code : String)
    (w : CodeWorld) :
    Ends (path.run cfg user code) (Answered w) w ↔
      (path.compares cfg user code w = true → isAscii code = true) := by
  constructor
  · intro hends hcompares
    refine Decidable.byContradiction fun hascii => ?_
    obtain ⟨r, w', ⟨herr, -⟩, rfl, -⟩ :=
      (hends.and (ends_not_ascii hcompares (eq_false_of_ne_true hascii))).exists
    cases herr _ rfl
  · intro h
    cases path with
    | login => exact ends_verifyPendingLogin h
    | action name => exact ends_verifyForAction h
    | otherDevice scope => exact ends_otherDevice h
    | passwordReset => exact ends_verifyResetCode h

/-- `\d` matches ASCII and Arabic-Indic digits here; every code of the authenticator is the
same. -/
def sampleCodeConfig : CodeConfig where
  totpLoginValidWindow := 1
  totpHighRiskValidWindow := 0
  secret _ := "JBSWY3DPEHPK3PXP"
  totpAt _ _ := "123456"
  activeHmacHex := id
  isDecimal c := c.isDigit || 0x660 ≤ c.toNat && c.toNat ≤ 0x669
  isDigit c := c.isDigit || 0x660 ≤ c.toNat && c.toNat ≤ 0x669
  isDigit_of_isDecimal _ h := h

def sampleCodeWorld : CodeWorld where
  now := 1700000000
  replayKeys := []
  backoff _ _ := false
  customerLimitExceeded _ := false
  customerLimitReached _ := false
  recoveryCode _ _ := false
  actionReady := true
  resetReady := true
  resetFailures := 0
  history := []

/-- Six Arabic-Indic digits at the login: the exception is no `AuthError`, and nothing is on
record. -/
theorem codePath_raises_typeError :
    Ends (CodePath.login.run sampleCodeConfig 1 "٠١٢٣٤٥") (fun r w' =>
      r = .error .typeError ∧ w'.history = [.compared] ∧ ¬Answered sampleCodeWorld r w')
      sampleCodeWorld := by
  have hcompares : CodePath.login.compares sampleCodeConfig 1 "٠١٢٣٤٥" sampleCodeWorld = true := by
    decide +kernel
  refine (ends_not_ascii hcompares (by decide +kernel)).mono ?_
  rintro r w' ⟨rfl, hhistory⟩
  refine ⟨rfl, hhistory, ?_⟩
  rintro ⟨herr, -⟩
  cases herr _ rfl

end SitBank.Auth.CodePaths
