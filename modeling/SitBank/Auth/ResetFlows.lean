import Mathlib.Logic.Relation
import SitBank.Auth.PasswordReset

/-!
What password resets guarantee over any sequence of requests.

Every request has at most one effect on tokens, transactions and the history
(`ResetEffect`), beside which it can change accounts, recovery codes and close
browser sessions. Both results are invariants of these effects.

A completed reset marks the unused tokens of the user but leaves the other
transactions of the user as they are, so one that another browser holds can still
be completed. Whether a transaction asks for a code is decided when its token is
exchanged.
-/

namespace SitBank.Auth

open SitBank.Interaction

/-! ### Effects -/

/-- A change of accounts, recovery codes and closed browser sessions only. -/
structure Beside (w w' : ResetWorld) : Prop where
  clock : w'.clock = w.clock
  tokens : w'.tokens = w.tokens
  nextTokenId : w'.nextTokenId = w.nextTokenId
  transactions : w'.transactions = w.transactions
  history : w'.history = w.history
  sessions : ∀ b, w'.sessions b = w.sessions b ∨ w'.sessions b = none

theorem Beside.refl (w : ResetWorld) : Beside w w := ⟨rfl, rfl, rfl, rfl, rfl, fun _ => .inl rfl⟩

theorem Beside.trans {w v w' : ResetWorld} (h : Beside w v) (h' : Beside v w') : Beside w w' where
  clock := h'.clock.trans h.clock
  tokens := h'.tokens.trans h.tokens
  nextTokenId := h'.nextTokenId.trans h.nextTokenId
  transactions := h'.transactions.trans h.transactions
  history := h'.history.trans h.history
  sessions b := by
    rcases h'.sessions b with hb | hb
    · rw [hb]
      exact h.sessions b
    · exact .inr hb

theorem Beside.pop (w : ResetWorld) (browser : ℕ) :
    Beside w { w with sessions := fun b => if b = browser then none else w.sessions b } := by
  refine ⟨rfl, rfl, rfl, rfl, rfl, fun b => ?_⟩
  by_cases hb : b = browser
  · exact .inr (if_pos hb)
  · exact .inl (if_neg hb)

/-- A transaction that `_store_transaction` writes over a row without a verified
code: a row that asks for no code stays so, and a row that asks for one does not
become verified. -/
structure Rewrites (r : PasswordResetTransaction) (transaction : Transaction) : Prop where
  tokenId : transaction.tokenId = r.tokenId
  userId : transaction.userId = r.userId
  unasked : r.mfaRequired = .none → r.mfaVerified = true →
    transaction.mfaRequired = .none ∧ transaction.mfaVerified = true
  asked : r.mfaRequired ≠ .none →
    transaction.mfaRequired ≠ .none ∧ (transaction.mfaVerified = true → r.mfaVerified = true)

/-- The transaction that is stored after a code was verified. -/
structure Verifies (r : PasswordResetTransaction) (transaction : Transaction)
    (factor : ResetMfa) : Prop where
  tokenId : transaction.tokenId = r.tokenId
  userId : transaction.userId = r.userId
  ne_none : factor ≠ .none
  asked : r.mfaRequired = factor
  method : transaction.mfaRequired = factor

/-- The transactions after a token was exchanged. -/
def exchanged (cfg : ResetConfig) (transaction : Transaction) (browser : ℕ) (mfaEnabled : Bool)
    (w : ResetWorld) : ResetWorld :=
  { w with
    tokens := w.tokens.map fun t =>
      if t.id = transaction.tokenId then { t with exchangedAt := some w.clock } else t
    transactions := upsert (storedRow cfg transaction w.clock) w.transactions
    history := w.history ++ [.created transaction.tokenId transaction.userId mfaEnabled]
    sessions := fun b => if b = browser then some transaction.transactionId else w.sessions b }

theorem exchanged_sessions (cfg : ResetConfig) (transaction : Transaction) (browser : ℕ)
    (mfaEnabled : Bool) (w : ResetWorld) (b : ℕ) :
    (exchanged cfg transaction browser mfaEnabled w).sessions b =
      if b = browser then some transaction.transactionId else w.sessions b := rfl

inductive ResetEffect (cfg : ResetConfig) (w : ResetWorld) : ResetWorld → Prop
  | nothing : ResetEffect cfg w w
  | wait (n : ℕ) : ResetEffect cfg w { w with clock := w.clock + n }
  | delete {rows : List PasswordResetTransaction} {tokens : List PasswordResetToken}
      (hrows : rows ⊆ w.transactions) (htokens : tokens ⊆ w.tokens) :
      ResetEffect cfg w { w with transactions := rows, tokens := tokens }
  | issue (t : PasswordResetToken) (hid : t.id = w.nextTokenId) :
      ResetEffect cfg w { w with tokens := w.tokens ++ [t], nextTokenId := w.nextTokenId + 1 }
  | skip : ResetEffect cfg w { w with nextTokenId := w.nextTokenId + 1 }
  | exchange {t : PasswordResetToken} (ht : t ∈ w.tokens) (hused : t.usedAt = none)
      (hfresh : t.exchangedAt = none) (user : ResetUser) (hid : user.id = t.userId)
      (transactionId : String) (methods : List ResetMfa)
      (hmfa : fallbackResetMfaMethod methods = if user.mfaEnabled then .totp else .none)
      (browser : ℕ) :
      ResetEffect cfg w
        (exchanged cfg (newTransaction transactionId user t methods) browser user.mfaEnabled w)
  | store {r : PasswordResetTransaction} {transaction : Transaction}
      (hr : recordOf cfg transaction.transactionId w = some r) (hl : loadable r w.clock = true)
      (h : Rewrites r transaction) :
      ResetEffect cfg w
        { w with transactions := upsert (storedRow cfg transaction w.clock) w.transactions }
  | verify {r : PasswordResetTransaction} {transaction : Transaction} {factor : ResetMfa}
      (hr : recordOf cfg transaction.transactionId w = some r) (hl : loadable r w.clock = true)
      (h : Verifies r transaction factor) :
      ResetEffect cfg w { w with
        transactions := upsert (storedRow cfg transaction w.clock) w.transactions
        history := w.history ++ [.verified transaction.tokenId transaction.userId factor] }
  | spend (userId : ℕ) {rows : List PasswordResetTransaction} (hrows : rows ⊆ w.transactions) :
      ResetEffect cfg w
        { w with tokens := useTokens userId w.clock w.tokens, transactions := rows }

/-- What one request does. -/
def ResetStep (cfg : ResetConfig) (w w' : ResetWorld) : Prop :=
  ∃ v, ResetEffect cfg w v ∧ Beside v w'

theorem ResetStep.of_beside {cfg : ResetConfig} {w w' : ResetWorld} (h : Beside w w') :
    ResetStep cfg w w' := ⟨w, .nothing, h⟩

theorem ResetEffect.step {cfg : ResetConfig} {w w' : ResetWorld} (h : ResetEffect cfg w w') :
    ResetStep cfg w w' := ⟨w', h, .refl w'⟩

theorem ResetEffect.after_beside {cfg : ResetConfig} {w v x : ResetWorld} (hb : Beside w v)
    (h : ResetEffect cfg v x) : ∃ x', ResetEffect cfg w x' ∧ Beside x' x := by
  obtain ⟨clock, tokens, nextTokenId, transactions, history, sessions⟩ := hb
  obtain ⟨c, us, codes, ts, n, rows, ss, hist⟩ := v
  dsimp only at clock tokens nextTokenId transactions history sessions
  subst clock tokens nextTokenId transactions history
  cases h with
  | nothing => exact ⟨_, .nothing, rfl, rfl, rfl, rfl, rfl, sessions⟩
  | wait m => exact ⟨_, .wait m, rfl, rfl, rfl, rfl, rfl, sessions⟩
  | delete hrows htokens => exact ⟨_, .delete hrows htokens, rfl, rfl, rfl, rfl, rfl, sessions⟩
  | issue t hid => exact ⟨_, .issue t hid, rfl, rfl, rfl, rfl, rfl, sessions⟩
  | skip => exact ⟨_, .skip, rfl, rfl, rfl, rfl, rfl, sessions⟩
  | exchange ht hused hfresh user hid transactionId methods hmfa browser =>
      refine ⟨_, .exchange (w := w) ht hused hfresh user hid transactionId methods hmfa browser,
        rfl, rfl, rfl, rfl, rfl, fun b => ?_⟩
      by_cases hb : b = browser
      · exact .inl (by simp only [exchanged_sessions, if_pos hb])
      · simpa only [exchanged_sessions, if_neg hb] using sessions b
  | store hr hl hrow => exact ⟨_, .store (w := w) hr hl hrow, rfl, rfl, rfl, rfl, rfl, sessions⟩
  | verify hr hl hrow => exact ⟨_, .verify (w := w) hr hl hrow, rfl, rfl, rfl, rfl, rfl, sessions⟩
  | spend userId hrows => exact ⟨_, .spend userId hrows, rfl, rfl, rfl, rfl, rfl, sessions⟩

/-- What changes beside an effect can come before it. -/
theorem ResetStep.after_beside {cfg : ResetConfig} {w v w' : ResetWorld} (hb : Beside w v)
    (h : ResetStep cfg v w') : ResetStep cfg w w' := by
  obtain ⟨x, heffect, hx⟩ := h
  obtain ⟨x', heffect', hx'⟩ := heffect.after_beside hb
  exact ⟨x', heffect', hx'.trans hx⟩

/-! ### Requests -/

section Requests

variable {cfg : ResetConfig} {w : ResetWorld}

/-- The browser holds a transaction, whose row can be loaded. -/
structure Loaded (cfg : ResetConfig) (browser : ℕ) (transaction : Transaction)
    (r : PasswordResetTransaction) (w : ResetWorld) : Prop where
  session : w.sessions browser = some transaction.transactionId
  nonempty : transaction.transactionId ≠ ""
  record : recordOf cfg transaction.transactionId w = some r
  loadable : loadable r w.clock = true
  fields : transaction.toTransactionFields = r.toTransactionFields

theorem ResetEffect.deleteHash (p : PasswordResetTransaction → Bool) :
    ResetEffect cfg w { w with transactions := w.transactions.filter p } :=
  .delete (fun _ h => (List.mem_filter.mp h).1) fun _ h => h

theorem ends_clearCurrentResetTransaction (browser : ℕ) :
    Ends (clearCurrentResetTransaction cfg browser) (fun _ w' => ResetStep cfg w w') w := by
  refine Ends.get_bind ?_
  split
  · exact ResetStep.of_beside (.pop w browser)
  · exact ⟨_, .deleteHash _, .pop _ browser⟩

theorem ends_loadTransaction {browser : ℕ} {transactionId : String}
    (hs : w.sessions browser = some transactionId) (hne : transactionId ≠ "") :
    Ends (loadTransaction cfg browser transactionId) (fun r w' => match r with
      | .ok transaction => w' = w ∧ ∃ r, Loaded cfg browser transaction r w
      | .error _ => ResetStep cfg w w') w := by
  refine Ends.get_bind ?_
  split
  · exact (ends_clearCurrentResetTransaction browser).bind (fun _ _ h => h) fun _ _ h => h
  · next record hrecord =>
      split
      · next hl => exact ⟨rfl, record, hs, hne, hrecord, hl, rfl⟩
      · exact (ResetEffect.deleteHash _).step

theorem ends_loadCurrentTransaction (browser : ℕ) :
    Ends (loadCurrentTransaction cfg browser) (fun r w' => match r with
      | .ok transaction => w' = w ∧ ∃ r, Loaded cfg browser transaction r w
      | .error _ => ResetStep cfg w w') w := by
  refine Ends.get_bind (Ends.raiseIf_bind (fun _ => ResetEffect.nothing.step) fun hid => ?_)
  have hne : resetTransactionId browser w ≠ "" := of_decide_eq_false hid
  refine ends_loadTransaction ?_ hne
  unfold resetTransactionId at hne ⊢
  cases hs : w.sessions browser with
  | none =>
      rw [hs] at hne
      exact absurd rfl hne
  | some id => rfl

theorem ends_clearResetTransaction (transaction : Transaction) :
    Ends (clearResetTransaction cfg transaction) (fun _ w' => ResetStep cfg w w') w := by
  unfold clearResetTransaction
  split
  · exact ResetEffect.nothing.step
  · exact (ResetEffect.deleteHash _).step

theorem ends_transactionUser (transaction : Transaction) :
    Ends (transactionUser cfg transaction) (fun r w' => match r with
      | .ok user => w' = w ∧ userById transaction.userId w = some user ∧ mayReset cfg user = true
      | .error _ => ResetStep cfg w w') w := by
  refine Ends.get_bind ?_
  split
  · next user huser =>
      obtain ⟨hfound, hmay⟩ := Option.filter_eq_some_iff.mp huser
      exact ⟨rfl, hfound, hmay⟩
  · exact (ends_clearResetTransaction transaction).bind (fun _ _ h => h) fun _ _ h => h

/-- A transaction that was loaded from a row, up to changes that `_store_transaction`
may write over it. -/
structure Current (cfg : ResetConfig) (transaction : Transaction)
    (r : PasswordResetTransaction) (w : ResetWorld) : Prop where
  record : recordOf cfg transaction.transactionId w = some r
  loadable : loadable r w.clock = true
  rewrites : Rewrites r transaction

theorem Loaded.current {browser : ℕ} {transaction : Transaction} {r : PasswordResetTransaction}
    (h : Loaded cfg browser transaction r w) : Current cfg transaction r w := by
  have hf := h.fields
  refine ⟨h.record, h.loadable, congrArg (·.tokenId) hf, congrArg (·.userId) hf, ?_, ?_⟩
  · intro hnone hverified
    rw [hf]
    exact ⟨hnone, hverified⟩
  · intro hasked
    rw [hf]
    exact ⟨hasked, fun h => h⟩

theorem Current.store {transaction : Transaction} {r : PasswordResetTransaction}
    (h : Current cfg transaction r w) :
    Ends (storeTransaction cfg transaction) (fun _ w' => ResetStep cfg w w') w :=
  (ResetEffect.store h.record h.loadable h.rewrites).step

theorem Current.beside {transaction : Transaction} {r : PasswordResetTransaction} {v : ResetWorld}
    (h : Current cfg transaction r w) (hb : Beside w v) : Current cfg transaction r v := by
  refine ⟨?_, ?_, h.rewrites⟩
  · unfold recordOf
    rw [hb.transactions]
    exact h.record
  · rw [hb.clock]
    exact h.loadable

theorem ends_popSession {v : ResetWorld} (browser : ℕ) (h : ResetStep cfg w v) :
    Ends (popSession browser) (fun _ w' => ResetStep cfg w w') v := by
  obtain ⟨x, heffect, hx⟩ := h
  exact ⟨x, heffect, hx.trans (.pop v browser)⟩

theorem ends_recordTransactionFailure {transaction : Transaction} {r : PasswordResetTransaction}
    (browser : ℕ) (h : Current cfg transaction r w) (reason : String) :
    Ends (recordTransactionFailure cfg browser transaction reason)
      (fun _ w' => ResetStep cfg w w') w := by
  unfold recordTransactionFailure
  dsimp only
  split
  · refine (ends_clearResetTransaction _).bind (fun _ v hv => ?_) fun _ _ h => h
    exact (ends_popSession browser hv).bind (fun _ _ h => h) fun _ _ h => h
  · have hfailed : Current cfg { transaction with
        failureCount := transaction.failureCount + 1
        lastFailureReason := some reason } r w :=
      ⟨h.record, h.loadable, h.rewrites.tokenId, h.rewrites.userId, h.rewrites.unasked,
        h.rewrites.asked⟩
    exact hfailed.store

theorem ends_failedCode {transaction : Transaction} {r : PasswordResetTransaction}
    (browser : ℕ) (h : Current cfg transaction r w) (reason : String) :
    Ends (failedCode cfg browser transaction reason) (fun res w' => match res with
      | .ok _ => Beside w w'
      | .error _ => ResetStep cfg w w') w :=
  (ends_recordTransactionFailure browser h reason).bind (fun _ _ h => h) fun _ _ h => h

theorem ends_checkResetCode {transaction : Transaction} {r : PasswordResetTransaction}
    (inputs : ResetInputs) (browser : ℕ) (h : Current cfg transaction r w) (user : ResetUser)
    (requiredMethod : ResetMfa) (code : String) :
    Ends (checkResetCode cfg inputs browser transaction user requiredMethod code)
      (fun res w' => match res with
        | .ok _ => Beside w w'
        | .error _ => ResetStep cfg w w') w := by
  unfold checkResetCode
  split
  · unfold checkResetTotp
    split
    · exact ends_failedCode browser h _
    · split
      · exact Beside.refl w
      · exact ResetEffect.nothing.step
      · exact ends_failedCode browser h _
      · exact ResetEffect.nothing.step
  · refine Ends.raiseIf_bind (fun _ => ResetEffect.nothing.step) fun _ => Ends.get_bind ?_
    split
    · exact ⟨rfl, rfl, rfl, rfl, rfl, fun _ => .inl rfl⟩
    · exact ends_failedCode browser h _

theorem ends_auditEventRequired (inputs : ResetInputs) (committed : ResetWorld) :
    Ends (auditEventRequired inputs committed) (fun r w' => match r with
      | .ok _ => w' = w
      | .error _ => w' = w ∨ w' = committed) w := by
  unfold auditEventRequired
  split
  · by_cases hl : inputs.leftoversCommitted = true
    · simp only [hl, if_true]
      exact .inl rfl
    · simp only [hl]
      exact .inr rfl
  · rfl

theorem available_ne_none {user : ResetUser} {method : ResetMfa}
    (h : method ∈ availableResetMfaMethodsForUser user w) : method ≠ .none := by
  unfold availableResetMfaMethodsForUser at h
  split at h
  · split at h
    · simp only [List.mem_cons, List.not_mem_nil, or_false] at h
      rcases h with rfl | rfl <;> decide
    · rw [List.mem_singleton] at h
      subst h
      decide
  · cases h

theorem ends_requireSelectedResetMfaMethod {transaction : Transaction}
    {r : PasswordResetTransaction} (h : Current cfg transaction r w) (user : ResetUser)
    (requiredMethod : ResetMfa) :
    Ends (requireSelectedResetMfaMethod cfg transaction user requiredMethod)
      (fun res w' => match res with
        | .ok updated => w' = w ∧ Current cfg updated r w ∧
            updated.mfaRequired = transaction.mfaRequired ∧
            transaction.mfaRequired = requiredMethod ∧ requiredMethod ≠ .none
        | .error _ => ResetStep cfg w w') w := by
  have hupdated : Current cfg { transaction with
      availableMfaMethods := availableResetMfaMethodsForUser user w } r w :=
    ⟨h.record, h.loadable, h.rewrites.tokenId, h.rewrites.userId, h.rewrites.unasked,
      h.rewrites.asked⟩
  refine Ends.get_bind ?_
  dsimp only
  split
  · exact hupdated.store.bind (fun _ _ h => h) fun _ _ h => h
  · next hselected =>
      simp only [Bool.or_eq_true, decide_eq_true_eq, not_or, Decidable.not_not] at hselected
      exact ⟨rfl, hupdated, rfl, hselected.2, available_ne_none hselected.1⟩

theorem ends_verifyResetAuthenticationCode (inputs : ResetInputs) (browser : ℕ)
    (requiredMethod : ResetMfa) (code : String) :
    Ends (verifyResetAuthenticationCode cfg inputs browser requiredMethod code)
      (fun _ w' => ResetStep cfg w w') w := by
  refine (ends_loadCurrentTransaction browser).bind ?_ fun _ _ h => h
  rintro loaded _ ⟨rfl, r, hloaded⟩
  refine (ends_transactionUser loaded).bind ?_ fun _ _ h => h
  rintro user _ ⟨rfl, -⟩
  refine (ends_requireSelectedResetMfaMethod hloaded.current user requiredMethod).bind ?_
    fun _ _ h => h
  rintro transaction _ ⟨rfl, hcurrent, hsame, hmethod, hne⟩
  refine Ends.get_bind ((ends_checkResetCode inputs browser hcurrent user requiredMethod code).bind
    ?_ fun _ _ h => h)
  intro _ v hbeside
  refine (ends_auditEventRequired inputs _).bind ?_ ?_
  · rintro _ _ rfl
    have hasked : r.mfaRequired = requiredMethod := by
      rw [← hmethod, ← congrArg (·.mfaRequired) hloaded.fields]
    have hcurrent' := hcurrent.beside hbeside
    refine ResetStep.after_beside hbeside (ResetEffect.step (.verify hcurrent'.record
      hcurrent'.loadable ⟨hcurrent.rewrites.tokenId, hcurrent.rewrites.userId, hne, hasked, ?_⟩))
    exact hsame.trans hmethod
  · rintro _ _ (rfl | rfl)
    · exact .of_beside hbeside
    · exact ResetEffect.nothing.step

theorem ends_selectResetMfaMethod (browser : ℕ) (method : String) :
    Ends (selectResetMfaMethod cfg browser method) (fun _ w' => ResetStep cfg w w') w := by
  refine (ends_loadCurrentTransaction browser).bind ?_ fun _ _ h => h
  rintro transaction _ ⟨rfl, r, hloaded⟩
  refine (ends_transactionUser transaction).bind ?_ fun _ _ h => h
  rintro user w ⟨rfl, -⟩
  have hnormalize : Ends (normalizeResetMfaMethod cfg method) (fun _ w' => w' = w) w := by
    unfold normalizeResetMfaMethod
    split <;> rfl
  refine hnormalize.bind ?_ fun _ _ h => h ▸ ResetEffect.nothing.step
  rintro selected w rfl
  refine Ends.get_bind ?_
  have h := hloaded.current
  dsimp only
  split
  -- the method is not available: the list is stored, nothing else
  · have hupdated : Current cfg { transaction with
        availableMfaMethods := availableResetMfaMethodsForUser user w } r w :=
      ⟨h.record, h.loadable, h.rewrites.tokenId, h.rewrites.userId, h.rewrites.unasked,
        h.rewrites.asked⟩
    exact hupdated.store.bind (fun _ _ h => h) fun _ _ h => h
  · next havailable =>
      have hne := available_ne_none (Decidable.not_not.mp havailable)
      split
      · exact ResetEffect.nothing.step
      · next hverified =>
          -- choosing another method drops what was verified by the old one
          have hchosen : Current cfg { transaction with
              availableMfaMethods := availableResetMfaMethodsForUser user w
              mfaRequired := selected
              mfaVerified := decide (transaction.mfaRequired = selected) && transaction.mfaVerified
              recoveryCodeVerified := decide (transaction.mfaRequired = selected) &&
                transaction.recoveryCodeVerified } r w := by
            refine ⟨h.record, h.loadable, h.rewrites.tokenId, h.rewrites.userId, ?_, ?_⟩
            · -- a row that asks for no code is verified, so another method was refused
              intro hnone hrow
              obtain ⟨hnone', hverified'⟩ := h.rewrites.unasked hnone hrow
              refine absurd ?_ hverified
              rw [hverified', hnone', Bool.true_and]
              exact decide_eq_true hne.symm
            · intro hasked
              refine ⟨hne, fun hrow => (h.rewrites.asked hasked).2 ?_⟩
              exact ((Bool.and_eq_true ..).mp hrow).2
          exact hchosen.store.bind (fun _ _ h => h) fun _ _ h => h

theorem fallback_available (user : ResetUser) (w : ResetWorld) :
    fallbackResetMfaMethod (availableResetMfaMethodsForUser user w) =
      if user.mfaEnabled then .totp else .none := by
  unfold availableResetMfaMethodsForUser
  split
  · split <;> rfl
  · rfl

theorem ends_exchangeResetToken (inputs : ResetInputs) (browser : ℕ) (rawToken : String) :
    Ends (exchangeResetToken cfg inputs browser rawToken) (fun _ w' => ResetStep cfg w w') w := by
  have hsplit : Ends (splitResetToken rawToken) (fun _ w' => w' = w) w := by
    unfold splitResetToken
    split
    · split <;> rfl
    · rfl
  refine hsplit.bind ?_ fun _ _ h => h ▸ ResetEffect.nothing.step
  rintro ⟨selector, verifier⟩ _ rfl
  refine Ends.get_bind ?_
  split
  · exact ResetEffect.nothing.step
  · next token htoken =>
      split
      · exact ResetEffect.nothing.step
      · next user huser =>
          obtain ⟨hfound, hok⟩ := Option.filter_eq_some_iff.mp huser
          unfold exchangeable at hok
          simp only [Bool.and_eq_true, Option.isNone_iff_eq_none] at hok
          obtain ⟨⟨⟨⟨_, hused⟩, hfresh⟩, _⟩, _⟩ := hok
          have hid : user.id = token.userId := by
            simpa using List.find?_some hfound
          exact (ResetEffect.exchange (List.mem_of_find?_eq_some htoken) hused hfresh user hid
            inputs.transactionId _ (fallback_available user _) browser).step

/-- The state after a completed reset. -/
def completed (cfg : ResetConfig) (transaction : Transaction) (browser : ℕ) (w : ResetWorld) :
    ResetWorld :=
  { w with
    tokens := useTokens transaction.userId w.clock w.tokens
    transactions := w.transactions.filter fun r =>
      r.transactionLookupHash ≠ transactionLookupHash cfg transaction.transactionId
    sessions := fun b => if b = browser then none else w.sessions b }

theorem completed_sessions (transaction : Transaction) (browser b : ℕ) :
    (completed cfg transaction browser w).sessions b =
      if b = browser then none else w.sessions b := rfl

theorem ends_completePasswordReset (inputs : ResetInputs) (browser : ℕ)
    (newPassword confirmNewPassword : String) :
    Ends (completePasswordReset cfg inputs browser newPassword confirmNewPassword)
      (fun res w' => match res with
        | .ok transaction => w' = completed cfg transaction browser w ∧
            (transaction.mfaRequired ≠ .none → transaction.mfaVerified = true) ∧
            ∃ r, Loaded cfg browser transaction r w
        | .error _ => ResetStep cfg w w') w := by
  refine (ends_loadCurrentTransaction browser).bind ?_ fun _ _ h => h
  rintro transaction _ ⟨rfl, r, hloaded⟩
  refine (ends_transactionUser transaction).bind ?_ fun _ _ h => h
  rintro user w ⟨rfl, huser, -⟩
  have hstop : ResetStep cfg w w := ResetEffect.nothing.step
  refine Ends.raiseIf_bind (fun _ => hstop) fun hmfa => Ends.raiseIf_bind (fun _ => hstop) fun _ =>
    Ends.raiseIf_bind (fun _ => hstop) fun _ => Ends.raiseIf_bind (fun _ => hstop) fun _ => ?_
  refine Ends.get_bind (Ends.modify_bind ((ends_auditEventRequired inputs w).bind ?_ ?_))
  · rintro _ _ rfl
    have hid : user.id = transaction.userId := by simpa using List.find?_some huser
    have hclear : clearResetTransaction cfg transaction =
        deleteTransactionId cfg transaction.transactionId := if_neg hloaded.nonempty
    rw [hclear, hid]
    refine ⟨rfl, fun hasked => ?_, r, hloaded⟩
    simpa [hasked] using hmfa
  · rintro _ _ (rfl | rfl)
    · exact (ResetEffect.spend user.id fun _ h => h).step
    · exact hstop

theorem completed_step (transaction : Transaction) (browser : ℕ) :
    ResetStep cfg w (completed cfg transaction browser w) :=
  ⟨_, .spend transaction.userId fun _ h => (List.mem_filter.mp h).1, .pop _ browser⟩

theorem ends_requestPasswordReset (inputs : ResetInputs) (identifier : String) :
    Ends (requestPasswordReset cfg inputs identifier) (fun _ w' => ResetStep cfg w w') w := by
  have hstop : ResetStep cfg w w := ResetEffect.nothing.step
  have hfind : Ends (findCustomerUser cfg (normalize cfg identifier)) (fun _ w' => w' = w) w := by
    refine Ends.get_bind ?_
    split
    · rfl
    · unfold scalarOneOrNone
      split <;> rfl
  refine Ends.raiseIf_bind (fun _ => hstop) fun _ => hfind.bind ?_ fun _ _ h => h ▸ hstop
  rintro found w rfl
  split
  · exact hstop
  · next user _ =>
      split
      · refine Ends.get_bind (Ends.raiseIf_bind (fun _ => hstop) fun _ => Ends.modify_bind ?_)
        refine (ends_auditEventRequired inputs _).mono fun r w' h => ?_
        have hissue : ResetStep cfg w _ := ResetEffect.step (.issue
          { id := w.nextTokenId, selector := inputs.selector
            verifierHmac := tokenHmac cfg inputs.verifier, userId := user.id
            purpose := "password_reset"
            expiresAt := w.clock + cfg.passwordResetTokenTtlSeconds * 1000000
            usedAt := none, exchangedAt := none } rfl)
        cases r with
        | ok _ => exact h ▸ hissue
        | error _ =>
            rcases h with rfl | rfl
            · exact hissue
            · exact ResetEffect.skip.step
      · exact hstop

theorem ends_enrolMfa (inputs : ResetInputs) (user : ResetUser) :
    Ends (enrolMfa cfg inputs user) (fun _ w' => ResetStep cfg w w') w := by
  refine Ends.get_bind (Ends.modify_bind (Ends.modify_bind ?_))
  refine (ends_auditEventRequired inputs w).mono fun r w' h => ?_
  have hbeside : ∀ users codes, ResetStep cfg w { w with users := users, recoveryCodes := codes } :=
    fun _ _ => .of_beside ⟨rfl, rfl, rfl, rfl, rfl, fun _ => .inl rfl⟩
  cases r with
  | ok _ => exact h ▸ hbeside _ _
  | error _ =>
      rcases h with rfl | rfl
      · exact hbeside _ _
      · exact ResetEffect.nothing.step

theorem deleteRows_subset {α : Type} (p : α → Bool) (limit : ℕ) (rows : List α) :
    deleteRows p limit rows ⊆ rows := by
  induction rows generalizing limit with
  | nil => cases limit <;> exact fun _ h => h
  | cons r rows ih =>
      cases limit with
      | zero => exact fun _ h => h
      | succ limit =>
          unfold deleteRows
          split
          · exact List.subset_cons_of_subset r (ih limit)
          · exact List.cons_subset_cons r (ih (limit + 1))

theorem ends_call (op : ResetOp) : Ends (op.call cfg) (fun _ w' => ResetStep cfg w w') w := by
  have hstop : ResetStep cfg w w := ResetEffect.nothing.step
  cases op with
  | requestPasswordReset inputs identifier => exact ends_requestPasswordReset inputs identifier
  | exchangeResetToken inputs browser rawToken =>
      exact (ends_exchangeResetToken inputs browser rawToken).discard
  | currentResetTransaction browser =>
      refine Ends.discard ((ends_loadCurrentTransaction browser).bind ?_ fun _ _ h => h)
      rintro transaction _ ⟨rfl, -⟩
      exact hstop
  | selectResetMfaMethod browser method => exact (ends_selectResetMfaMethod browser method).discard
  | verifyResetTotp inputs browser code =>
      exact (ends_verifyResetAuthenticationCode inputs browser .totp code).discard
  | verifyResetRecoveryCode inputs browser code =>
      exact (ends_verifyResetAuthenticationCode inputs browser .recoveryCode code).discard
  | completePasswordReset inputs browser newPassword confirmNewPassword =>
      refine ((ends_completePasswordReset inputs browser newPassword confirmNewPassword).mono
        fun r w' h => ?_).discard
      cases r with
      | ok transaction => exact h.1 ▸ completed_step transaction browser
      | error _ => exact h
  -- the two ways to enrol differ in their checks, not in what they write
  | verifyMfaSetup inputs userId =>
      refine Ends.get_bind ?_
      split
      · exact hstop
      · exact Ends.raiseIf_bind (fun _ => hstop) fun _ => Ends.raiseIf_bind (fun _ => hstop)
          fun _ => ends_enrolMfa inputs _
  | verifyMfaReplacement inputs userId =>
      refine Ends.get_bind ?_
      split
      · exact hstop
      · exact Ends.raiseIf_bind (fun _ => hstop) fun _ => Ends.raiseIf_bind (fun _ => hstop)
          fun _ => Ends.raiseIf_bind (fun _ => hstop) fun _ => Ends.raiseIf_bind (fun _ => hstop)
          fun _ => ends_enrolMfa inputs _
  | cleanup limit =>
      exact (ResetEffect.delete (deleteRows_subset _ _ _) (deleteRows_subset _ _ _)).step
  -- what the rest of the program does to accounts and browsers
  | accounts users recoveryCodes =>
      exact .of_beside ⟨rfl, rfl, rfl, rfl, rfl, fun _ => .inl rfl⟩
  | endSession browser => exact .of_beside (.pop w browser)
  | wait n => exact (ResetEffect.wait n).step

end Requests

/-! ### Runs -/

/-- Any sequence of requests. -/
def ResetRuns (cfg : ResetConfig) : ResetWorld → ResetWorld → Prop :=
  Relation.ReflTransGen fun w w' => ∃ op : ResetOp, w' = after (op.call cfg) w

theorem resetStep_of_call (cfg : ResetConfig) (op : ResetOp) (w : ResetWorld) :
    ResetStep cfg w (after (op.call cfg) w) :=
  (ends_call op).after

/-- What every effect and every change beside it keeps, every run keeps. -/
theorem ResetRuns.keeps {cfg : ResetConfig} {P : ResetWorld → Prop} {w w' : ResetWorld}
    (heffect : ∀ w w', ResetEffect cfg w w' → P w → P w')
    (hbeside : ∀ w w', Beside w w' → P w → P w') (h : ResetRuns cfg w w') (hw : P w) : P w' := by
  induction h with
  | refl => exact hw
  | tail _ hstep ih =>
      obtain ⟨op, rfl⟩ := hstep
      obtain ⟨v, he, hb⟩ := resetStep_of_call cfg op _
      exact hbeside _ _ hb (heffect _ _ he ih)

/-! ### What the rows say about the history -/

/-- A code of the user was verified in the transaction of the token, after the
transaction was created. -/
def VerifiedWithin (history : List ResetEvent) (tokenId userId : ℕ) : Prop :=
  ∃ before since mfaEnabled factor, history = before ++ since ∧
    .created tokenId userId mfaEnabled ∈ before ∧ .verified tokenId userId factor ∈ since ∧
    factor ≠ .none

theorem VerifiedWithin.append {history : List ResetEvent} {tokenId userId : ℕ}
    (h : VerifiedWithin history tokenId userId) (events : List ResetEvent) :
    VerifiedWithin (history ++ events) tokenId userId := by
  obtain ⟨before, since, mfaEnabled, factor, rfl, hcreated, hverified, hne⟩ := h
  exact ⟨before, since ++ events, mfaEnabled, factor, List.append_assoc .., hcreated,
    List.mem_append_left _ hverified, hne⟩

/-- A row and the history: a row asks for a code exactly when its user had MFA
enabled at the exchange, and is verified only after a code was. -/
def RowOk (history : List ResetEvent) (r : TransactionFields) : Prop :=
  (r.mfaRequired = .none ∧ r.mfaVerified = true ∧ .created r.tokenId r.userId false ∈ history) ∨
  (r.mfaRequired ≠ .none ∧ .created r.tokenId r.userId true ∈ history ∧
    (r.mfaVerified = true → VerifiedWithin history r.tokenId r.userId))

structure ResetOk (w : ResetWorld) : Prop where
  token_lt : ∀ t ∈ w.tokens, t.id < w.nextTokenId
  created_lt : ∀ k u b, .created k u b ∈ w.history → k < w.nextTokenId
  fresh : ∀ t ∈ w.tokens, t.exchangedAt = none → ∀ u b, .created t.id u b ∉ w.history
  unique : ∀ k u b u' b', .created k u b ∈ w.history → .created k u' b' ∈ w.history →
    u = u' ∧ b = b'
  asked : ∀ k u f, .verified k u f ∈ w.history → .created k u true ∈ w.history
  row : ∀ r ∈ w.transactions, RowOk w.history r.toTransactionFields

theorem mem_upsert {row r : PasswordResetTransaction} {rows : List PasswordResetTransaction}
    (h : r ∈ upsert row rows) :
    r = row ∨ (r ∈ rows ∧ r.transactionLookupHash ≠ row.transactionLookupHash) := by
  unfold upsert at h
  split at h
  · obtain ⟨r', hr', heq⟩ := List.mem_map.mp h
    split at heq
    · exact .inl heq.symm
    · next hne => exact .inr (heq ▸ ⟨hr', hne⟩)
  · next hany =>
      rcases List.mem_append.mp h with hr | hr
      · refine .inr ⟨hr, fun heq => hany ?_⟩
        exact List.any_eq_true.mpr ⟨r, hr, decide_eq_true heq⟩
      · exact .inl (List.mem_singleton.mp hr)

theorem RowOk.append {history : List ResetEvent} {r : TransactionFields}
    (h : RowOk history r) (events : List ResetEvent) : RowOk (history ++ events) r := by
  rcases h with ⟨hnone, hverified, hcreated⟩ | ⟨hasked, hcreated, hverified⟩
  · exact .inl ⟨hnone, hverified, List.mem_append_left _ hcreated⟩
  · exact .inr ⟨hasked, List.mem_append_left _ hcreated, fun h => (hverified h).append events⟩

theorem mem_of_recordOf {cfg : ResetConfig} {transactionId : String} {w : ResetWorld}
    {r : PasswordResetTransaction} (h : recordOf cfg transactionId w = some r) :
    r ∈ w.transactions ∧ r.transactionLookupHash = transactionLookupHash cfg transactionId :=
  ⟨List.mem_of_find?_eq_some h, by simpa using List.find?_some h⟩

theorem Rewrites.rowOk {history : List ResetEvent} {r : PasswordResetTransaction}
    {transaction : Transaction} (h : Rewrites r transaction)
    (hr : RowOk history r.toTransactionFields) :
    RowOk history transaction.toTransactionFields := by
  unfold RowOk
  rw [h.tokenId, h.userId]
  rcases hr with ⟨hnone, hverified, hcreated⟩ | ⟨hasked, hcreated, hverified⟩
  · obtain ⟨hnone', hverified'⟩ := h.unasked hnone hverified
    exact .inl ⟨hnone', hverified', hcreated⟩
  · obtain ⟨hasked', hverified'⟩ := h.asked hasked
    exact .inr ⟨hasked', hcreated, fun h => hverified (hverified' h)⟩

theorem Verifies.rowOk {history : List ResetEvent} {r : PasswordResetTransaction}
    {transaction : Transaction} {factor : ResetMfa} (h : Verifies r transaction factor)
    (hr : RowOk history r.toTransactionFields) :
    .created transaction.tokenId transaction.userId true ∈ history ∧
      RowOk (history ++ [.verified transaction.tokenId transaction.userId factor])
        transaction.toTransactionFields := by
  have hcreated : .created transaction.tokenId transaction.userId true ∈ history := by
    rw [h.tokenId, h.userId]
    rcases hr with ⟨hnone, -⟩ | ⟨-, hcreated, -⟩
    · exact absurd (h.asked.symm.trans hnone) h.ne_none
    · exact hcreated
  refine ⟨hcreated, .inr ⟨?_, List.mem_append_left _ hcreated, fun _ => ?_⟩⟩
  · rw [h.method]
    exact h.ne_none
  · exact ⟨history, _, true, factor, rfl, hcreated, List.mem_singleton_self _, h.ne_none⟩

theorem mem_created_append {history : List ResetEvent} {k u k' u' : ℕ} {b b' : Bool}
    (h : .created k u b ∈ history ++ [ResetEvent.created k' u' b']) :
    .created k u b ∈ history ∨ (k = k' ∧ u = u' ∧ b = b') := by
  rcases List.mem_append.mp h with h | h
  · exact .inl h
  · exact .inr (by simpa using List.mem_singleton.mp h)

theorem mem_created_verified {history : List ResetEvent} {k u k' u' : ℕ} {b : Bool}
    {factor : ResetMfa} :
    .created k u b ∈ history ++ [ResetEvent.verified k' u' factor] ↔ .created k u b ∈ history := by
  simp

theorem rowOk_exchange {history : List ResetEvent} {t : PasswordResetToken}
    {user : ResetUser} {methods : List ResetMfa} (transactionId : String)
    (hmfa : fallbackResetMfaMethod methods = if user.mfaEnabled then .totp else .none) :
    RowOk (history ++ [.created t.id user.id user.mfaEnabled])
      (newTransaction transactionId user t methods).toTransactionFields := by
  have hcreated : .created t.id user.id user.mfaEnabled ∈
      history ++ [.created t.id user.id user.mfaEnabled] := by simp
  unfold RowOk newTransaction
  dsimp only
  rw [hmfa]
  cases henabled : user.mfaEnabled with
  | false =>
      rw [henabled] at hcreated
      exact .inl ⟨rfl, rfl, hcreated⟩
  | true =>
      rw [henabled] at hcreated
      exact .inr ⟨nofun, hcreated, nofun⟩

theorem ResetOk.exchange {cfg : ResetConfig} {w : ResetWorld} (hw : ResetOk w)
    {t : PasswordResetToken} (ht : t ∈ w.tokens) (hfresh : t.exchangedAt = none)
    (user : ResetUser) (transactionId : String) (methods : List ResetMfa)
    (hmfa : fallbackResetMfaMethod methods = if user.mfaEnabled then .totp else .none)
    (browser : ℕ) :
    ResetOk (exchanged cfg (newTransaction transactionId user t methods) browser
      user.mfaEnabled w) where
  token_lt t' ht' := by
    obtain ⟨t₀, ht₀, rfl⟩ := List.mem_map.mp ht'
    have := hw.token_lt t₀ ht₀
    split <;> exact this
  created_lt k u b h := by
    rcases mem_created_append h with h | ⟨rfl, -, -⟩
    · exact hw.created_lt k u b h
    · exact hw.token_lt t ht
  fresh t' ht' hnone u b h := by
    obtain ⟨t₀, ht₀, rfl⟩ := List.mem_map.mp ht'
    by_cases heq : t₀.id = t.id
    · rw [show (newTransaction transactionId user t methods).tokenId = t.id from rfl,
        if_pos heq] at hnone
      cases hnone
    · rw [show (newTransaction transactionId user t methods).tokenId = t.id from rfl,
        if_neg heq] at hnone h
      rcases mem_created_append h with h | ⟨heq', -, -⟩
      · exact hw.fresh t₀ ht₀ hnone u b h
      · exact heq heq'
  unique k u b u' b' h h' := by
    rcases mem_created_append h with h | ⟨rfl, rfl, rfl⟩
    · rcases mem_created_append h' with h' | ⟨rfl, rfl, rfl⟩
      · exact hw.unique k u b u' b' h h'
      · exact absurd h (hw.fresh t ht hfresh u b)
    · rcases mem_created_append h' with h' | ⟨-, rfl, rfl⟩
      · exact absurd h' (hw.fresh t ht hfresh u' b')
      · exact ⟨rfl, rfl⟩
  asked k u f h := by
    have hold : .verified k u f ∈ w.history := by simpa [exchanged] using h
    exact List.mem_append_left _ (hw.asked k u f hold)
  row r hr := by
    rcases mem_upsert hr with rfl | ⟨hr, -⟩
    · exact rowOk_exchange transactionId hmfa
    · exact (hw.row r hr).append _

theorem ResetOk.effect {cfg : ResetConfig} {w w' : ResetWorld} (h : ResetEffect cfg w w')
    (hw : ResetOk w) : ResetOk w' := by
  cases h with
  | nothing => exact hw
  | wait n => exact ⟨hw.token_lt, hw.created_lt, hw.fresh, hw.unique, hw.asked, hw.row⟩
  | delete hrows htokens =>
      exact ⟨fun t ht => hw.token_lt t (htokens ht), hw.created_lt,
        fun t ht => hw.fresh t (htokens ht), hw.unique, hw.asked, fun r hr => hw.row r (hrows hr)⟩
  -- the new token takes the next id, under which no exchange is recorded
  | issue t hid =>
      refine ⟨fun t' ht' => ?_, fun k u b h => Nat.lt_succ_of_lt (hw.created_lt k u b h),
        fun t' ht' hnone u b h => ?_, hw.unique, hw.asked, hw.row⟩
      · rcases List.mem_append.mp ht' with ht' | ht'
        · exact Nat.lt_succ_of_lt (hw.token_lt t' ht')
        · rw [List.mem_singleton.mp ht', hid]
          exact Nat.lt_succ_self _
      · rcases List.mem_append.mp ht' with ht' | ht'
        · exact hw.fresh t' ht' hnone u b h
        · rw [List.mem_singleton.mp ht', hid] at h
          exact Nat.lt_irrefl _ (hw.created_lt _ u b h)
  | skip =>
      exact ⟨fun t ht => Nat.lt_succ_of_lt (hw.token_lt t ht),
        fun k u b h => Nat.lt_succ_of_lt (hw.created_lt k u b h), hw.fresh, hw.unique, hw.asked,
        hw.row⟩
  | exchange ht hused hfresh user hid transactionId methods hmfa browser =>
      exact hw.exchange ht hfresh user transactionId methods hmfa browser
  | store hr hl hrow =>
      refine ⟨hw.token_lt, hw.created_lt, hw.fresh, hw.unique, hw.asked, fun r' hr' => ?_⟩
      rcases mem_upsert hr' with rfl | ⟨hr', -⟩
      · exact hrow.rowOk (hw.row _ (mem_of_recordOf hr).1)
      · exact hw.row r' hr'
  -- a verified factor adds to the log of factors and creates nothing
  | @verify r transaction factor hr hl hrow =>
      obtain ⟨hcreated, hstored⟩ := hrow.rowOk (hw.row _ (mem_of_recordOf hr).1)
      refine ⟨hw.token_lt, fun k u b h => hw.created_lt k u b (mem_created_verified.mp h),
        fun t ht hnone u b h => hw.fresh t ht hnone u b (mem_created_verified.mp h),
        fun k u b u' b' h h' => hw.unique k u b u' b' (mem_created_verified.mp h)
          (mem_created_verified.mp h'), fun k u f h => mem_created_verified.mpr ?_,
        fun r' hr' => ?_⟩
      · rcases List.mem_append.mp h with h | h
        · exact hw.asked k u f h
        · obtain ⟨rfl, rfl, rfl⟩ : k = transaction.tokenId ∧ u = transaction.userId ∧
              f = factor := by simpa using List.mem_singleton.mp h
          exact hcreated
      · rcases mem_upsert hr' with rfl | ⟨hr', -⟩
        · exact hstored
        · exact (hw.row r' hr').append _
  -- marking tokens as used keeps their ids and their exchanges
  | spend userId hrows =>
      refine ⟨fun t ht => ?_, hw.created_lt, fun t ht hnone => ?_, hw.unique, hw.asked,
        fun r hr => hw.row r (hrows hr)⟩
      · obtain ⟨t₀, ht₀, rfl⟩ := List.mem_map.mp ht
        have := hw.token_lt t₀ ht₀
        split <;> exact this
      · obtain ⟨t₀, ht₀, rfl⟩ := List.mem_map.mp ht
        have hold := hw.fresh t₀ ht₀
        revert hnone
        split <;> exact hold

theorem ResetOk.beside {w w' : ResetWorld} (h : Beside w w') (hw : ResetOk w) : ResetOk w' where
  token_lt t ht := by
    rw [h.tokens] at ht
    rw [h.nextTokenId]
    exact hw.token_lt t ht
  created_lt := by
    rw [h.history, h.nextTokenId]
    exact hw.created_lt
  fresh := by
    rw [h.history, h.tokens]
    exact hw.fresh
  unique := by
    rw [h.history]
    exact hw.unique
  asked := by
    rw [h.history]
    exact hw.asked
  row := by
    rw [h.history, h.transactions]
    exact hw.row

/-- No token and no transaction exists yet. -/
structure ResetWorld.Initial (w : ResetWorld) : Prop where
  tokens : w.tokens = []
  transactions : w.transactions = []
  history : w.history = []

theorem ResetWorld.Initial.ok {w : ResetWorld} (h : w.Initial) : ResetOk w where
  token_lt _ ht := absurd (h.tokens ▸ ht) List.not_mem_nil
  created_lt _ _ _ hc := absurd (h.history ▸ hc) List.not_mem_nil
  fresh _ ht := absurd (h.tokens ▸ ht) List.not_mem_nil
  unique _ _ _ _ _ hc := absurd (h.history ▸ hc) List.not_mem_nil
  asked _ _ _ hv := absurd (h.history ▸ hv) List.not_mem_nil
  row _ hr := absurd (h.transactions ▸ hr) List.not_mem_nil

theorem resetOk_of_runs {cfg : ResetConfig} {w₀ w : ResetWorld} (h₀ : w₀.Initial)
    (h : ResetRuns cfg w₀ w) : ResetOk w :=
  h.keeps (fun _ _ he hw => hw.effect he) (fun _ _ hb hw => hw.beside hb) h₀.ok

/-! ### Codes -/

/-- The user has MFA enabled. -/
def MfaEnabled (userId : ℕ) (w : ResetWorld) : Prop :=
  ∃ user, userById userId w = some user ∧ user.mfaEnabled = true

/-- After any sequence of requests, a completed reset of a user with MFA is one in
which a code was verified exactly when the user had MFA already at the exchange of
the token. -/
theorem reset_verified_iff {cfg : ResetConfig} {w₀ w w' : ResetWorld} (h₀ : w₀.Initial)
    (hrun : ResetRuns cfg w₀ w) {inputs : ResetInputs} {browser : ℕ}
    {newPassword confirmNewPassword : String} {transaction : Transaction}
    (h : completePasswordReset cfg inputs browser newPassword confirmNewPassword w =
      .ok transaction w') :
    (MfaEnabled transaction.userId w' →
        VerifiedWithin w'.history transaction.tokenId transaction.userId) ↔
      (MfaEnabled transaction.userId w' →
        .created transaction.tokenId transaction.userId true ∈ w'.history) := by
  have hw := resetOk_of_runs h₀ hrun
  obtain ⟨rfl, hmfa, r, hloaded⟩ :=
    (ends_completePasswordReset inputs browser newPassword confirmNewPassword).of_ok h
  have hrow := hw.row r (mem_of_recordOf hloaded.record).1
  rw [← hloaded.fields] at hrow
  rcases hrow with ⟨-, -, hcreated⟩ | ⟨hasked, hcreated, hverified⟩
  · have hnot : .created transaction.tokenId transaction.userId true ∉ w.history := fun h =>
      nomatch (hw.unique _ _ _ _ _ hcreated h).2
    refine forall_congr' fun _ => iff_of_false (fun hwithin => hnot ?_) hnot
    obtain ⟨before, since, _, factor, hhistory, -, hmem, -⟩ := hwithin
    refine hw.asked _ _ factor ?_
    rw [show w.history = before ++ since from hhistory]
    exact List.mem_append_right _ hmem
  · exact forall_congr' fun _ => iff_of_true (hverified (hmfa hasked)) hcreated

/-- A customer whose requests are the samples below. -/
def sampleResetConfig : ResetConfig where
  passwordResetEnabled := true
  passwordResetTokenTtlSeconds := 900
  passwordResetTransactionTtlSeconds := 600
  activeHmacHex text := text
  casefold text := text
  lower text := text
  isAlnum := Char.isAlphanum
  isDigit := Char.isDigit

def sampleInputs (selector : String) : ResetInputs where
  selector := selector
  verifier := "v"
  transactionId := "t" ++ selector
  rateLimited := false
  backoff := false
  auditFails := false
  leftoversCommitted := false
  totpOutcome := .valid
  passwordReused := false
  passwordPolicyRejects := false
  mfaPending := true
  recoveryCodes := ["c"]

def sampleResetWorld (mfaEnabled : Bool) : ResetWorld where
  clock := 0
  users := [⟨1, .customer, "alice", "alice@example.com", false, none, mfaEnabled⟩]
  recoveryCodes := []
  tokens := []
  nextTokenId := 0
  transactions := []
  sessions _ := none
  history := []

def runOps (cfg : ResetConfig) (ops : List ResetOp) (w : ResetWorld) : ResetWorld :=
  ops.foldl (fun w op => after (op.call cfg) w) w

theorem resetRuns_runOps (cfg : ResetConfig) (ops : List ResetOp) (w : ResetWorld) :
    ResetRuns cfg w (runOps cfg ops w) := by
  induction ops generalizing w with
  | nil => exact .refl
  | cons op ops ih => exact .head ⟨op, rfl⟩ (ih _)

/-- A reset link is requested and followed in the browser. -/
def openReset (selector : String) (browser : ℕ) : List ResetOp :=
  [.requestPasswordReset (sampleInputs selector) "alice",
    .exchangeResetToken (sampleInputs selector) browser (selector ++ ".v")]

def completeSample (browser : ℕ) : ResetCall Transaction :=
  completePasswordReset sampleResetConfig (sampleInputs "") browser "new" "new"

/-- How the reset of the browser ends after these requests. -/
def completedAfter (ops : List ResetOp) (mfaEnabled : Bool) (browser : ℕ) :
    EStateM.Result ResetError ResetWorld Transaction :=
  completeSample browser (runOps sampleResetConfig ops (sampleResetWorld mfaEnabled))

/-- A code is verified, and then the reset is completed. -/
theorem reset_verified_iff_verified :
    ∃ transaction w', completedAfter (openReset "a" 0 ++
        [.verifyResetTotp (sampleInputs "a") 0 "123456"]) true 0 = .ok transaction w' ∧
      MfaEnabled transaction.userId w' ∧
      VerifiedWithin w'.history transaction.tokenId transaction.userId := by
  have hrun : (match completedAfter (openReset "a" 0 ++
      [.verifyResetTotp (sampleInputs "a") 0 "123456"]) true 0 with
    | .ok transaction w' => decide (.created transaction.tokenId transaction.userId true ∈
          w'.history) && (userById transaction.userId w').any (·.mfaEnabled)
    | .error _ _ => false) = true := by decide +kernel
  split at hrun
  · next transaction w' h =>
      obtain ⟨hcreated, henabled⟩ := (Bool.and_eq_true ..).mp hrun
      obtain ⟨user, huser, hmfa⟩ := (Option.any_eq_true ..).mp henabled
      refine ⟨transaction, w', h, ⟨user, huser, hmfa⟩, ?_⟩
      exact (reset_verified_iff ⟨rfl, rfl, rfl⟩ (resetRuns_runOps ..) h).mpr
        (fun _ => of_decide_eq_true hcreated) ⟨user, huser, hmfa⟩
  · cases hrun

/-- The token is exchanged before the user enrols MFA. -/
theorem unverified_reset_completed :
    ∃ transaction w', completedAfter (openReset "a" 0 ++
        [.verifyMfaSetup (sampleInputs "a") 1]) false 0 = .ok transaction w' ∧
      MfaEnabled transaction.userId w' ∧
      ¬VerifiedWithin w'.history transaction.tokenId transaction.userId := by
  have hrun : (match completedAfter (openReset "a" 0 ++
      [.verifyMfaSetup (sampleInputs "a") 1]) false 0 with
    | .ok transaction w' => decide (w'.history = [.created 0 1 false]) &&
        (userById transaction.userId w').any (·.mfaEnabled)
    | .error _ _ => false) = true := by decide +kernel
  split at hrun
  · next transaction w' h =>
      obtain ⟨hhistory, henabled⟩ := (Bool.and_eq_true ..).mp hrun
      obtain ⟨user, huser, hmfa⟩ := (Option.any_eq_true ..).mp henabled
      refine ⟨transaction, w', h, ⟨user, huser, hmfa⟩, ?_⟩
      rintro ⟨before, since, _, factor, heq, -, hverified, -⟩
      rw [of_decide_eq_true hhistory] at heq
      have hmem : .verified transaction.tokenId transaction.userId factor ∈
          [ResetEvent.created 0 1 false] := heq ▸ List.mem_append_right before hverified
      cases List.mem_singleton.mp hmem
  · cases hrun

/-! ### Closing the other resets -/

/-- What is left of the resets of a user from before a completed one: tokens that
are used, and no browser that holds a transaction which could still be loaded.
`bound` is the first token id that was not issued then. -/
structure Closed (cfg : ResetConfig) (userId bound : ℕ) (w : ResetWorld) : Prop where
  bound_le : bound ≤ w.nextTokenId
  token : ∀ t ∈ w.tokens, t.userId = userId → t.id < bound → t.usedAt ≠ none
  held : ∀ b id, w.sessions b = some id → ∀ r ∈ w.transactions,
    r.transactionLookupHash = transactionLookupHash cfg id → r.userId = userId →
    r.tokenId < bound → r.expiresAt ≤ w.clock

theorem lt_of_loadable {r : PasswordResetTransaction} {now : ℕ} (h : loadable r now = true) :
    now < r.expiresAt := by
  unfold loadable at h
  exact of_decide_eq_true ((Bool.and_eq_true ..).mp h).2

/-- A transaction that is written over its row. -/
theorem Closed.rewrite {cfg : ResetConfig} {userId bound : ℕ} {w : ResetWorld}
    (hw : Closed cfg userId bound w) {r : PasswordResetTransaction} {transaction : Transaction}
    (hr : recordOf cfg transaction.transactionId w = some r) (hl : loadable r w.clock = true)
    (htoken : transaction.tokenId = r.tokenId) (huser : transaction.userId = r.userId) :
    ∀ b id, w.sessions b = some id →
      ∀ r' ∈ upsert (storedRow cfg transaction w.clock) w.transactions,
        r'.transactionLookupHash = transactionLookupHash cfg id → r'.userId = userId →
        r'.tokenId < bound → r'.expiresAt ≤ w.clock := by
  intro b id hs r' hr' hhash huser' hlt
  rcases mem_upsert hr' with rfl | ⟨hr', -⟩
  · -- the old row could be loaded, so it was not one of those that are left
    obtain ⟨hmem, hrow⟩ := mem_of_recordOf hr
    have hold := hw.held b id hs r hmem (hrow.trans hhash) (huser.symm.trans huser')
      (htoken ▸ hlt)
    exact absurd (lt_of_loadable hl) (Nat.not_lt.mpr hold)
  · exact hw.held b id hs r' hr' hhash huser' hlt

theorem Closed.effect {cfg : ResetConfig} {userId bound : ℕ} {w w' : ResetWorld}
    (h : ResetEffect cfg w w') (hw : Closed cfg userId bound w) : Closed cfg userId bound w' := by
  cases h with
  | nothing => exact hw
  | wait n =>
      exact ⟨hw.bound_le, hw.token, fun b id hs r hr hhash huser hlt =>
        Nat.le_trans (hw.held b id hs r hr hhash huser hlt) (Nat.le_add_right ..)⟩
  | delete hrows htokens =>
      exact ⟨hw.bound_le, fun t ht => hw.token t (htokens ht),
        fun b id hs r hr => hw.held b id hs r (hrows hr)⟩
  -- a token issued later has an id beyond the bound
  | issue t hid =>
      refine ⟨Nat.le_succ_of_le hw.bound_le, fun t' ht' huser hlt => ?_, hw.held⟩
      rcases List.mem_append.mp ht' with ht' | ht'
      · exact hw.token t' ht' huser hlt
      · rw [List.mem_singleton.mp ht', hid] at hlt
        exact absurd hlt (Nat.not_lt.mpr hw.bound_le)
  | skip => exact ⟨Nat.le_succ_of_le hw.bound_le, hw.token, hw.held⟩
  | @exchange t ht hused hfresh user hid transactionId methods hmfa browser =>
      refine ⟨hw.bound_le, fun t' ht' huser hlt => ?_, fun b id hs r hr hhash huser hlt => ?_⟩
      · obtain ⟨t₀, ht₀, rfl⟩ := List.mem_map.mp ht'
        have hold := hw.token t₀ ht₀
        revert huser hlt
        split <;> exact hold
      -- the row of the exchange comes from an unused token, which none within the bound is
      · rcases mem_upsert hr with rfl | ⟨hr, hne⟩
        · have huser' : t.userId = userId := hid.symm.trans huser
          exact absurd hused (hw.token t ht huser' hlt)
        · by_cases hb : b = browser
          · rw [exchanged_sessions, if_pos hb] at hs
            cases hs
            exact absurd hhash hne
          · rw [exchanged_sessions, if_neg hb] at hs
            exact hw.held b id hs r hr hhash huser hlt
  | store hr hl hrow =>
      exact ⟨hw.bound_le, hw.token, hw.rewrite hr hl hrow.tokenId hrow.userId⟩
  | verify hr hl hrow =>
      exact ⟨hw.bound_le, hw.token, hw.rewrite hr hl hrow.tokenId hrow.userId⟩
  -- a token that is used stays used
  | spend userId' hrows =>
      refine ⟨hw.bound_le, fun t ht huser hlt => ?_, fun b id hs r hr =>
        hw.held b id hs r (hrows hr)⟩
      obtain ⟨t₀, ht₀, rfl⟩ := List.mem_map.mp ht
      have hold := hw.token t₀ ht₀
      revert huser hlt
      split
      · exact fun _ _ => nofun
      · exact hold

theorem Closed.beside {cfg : ResetConfig} {userId bound : ℕ} {w w' : ResetWorld}
    (h : Beside w w') (hw : Closed cfg userId bound w) : Closed cfg userId bound w' where
  bound_le := h.nextTokenId ▸ hw.bound_le
  token := h.tokens ▸ hw.token
  held b id hs r hr hhash huser hlt := by
    rw [h.transactions] at hr
    rw [h.clock]
    rcases h.sessions b with hb | hb
    · exact hw.held b id (hb ▸ hs) r hr hhash huser hlt
    · rw [hb] at hs
      cases hs

/-- No browser holds another transaction of the user that could still be loaded. -/
def OnlyOpenReset (cfg : ResetConfig) (browser : ℕ) (w : ResetWorld) : Prop :=
  ∀ id r, w.sessions browser = some id → recordOf cfg id w = some r →
    ∀ b' id', w.sessions b' = some id' → ∀ r' ∈ w.transactions,
      r'.transactionLookupHash = transactionLookupHash cfg id' → r'.userId = r.userId →
      r'.transactionLookupHash = transactionLookupHash cfg id ∨ r'.expiresAt ≤ w.clock

theorem closed_completed {cfg : ResetConfig} {w : ResetWorld} {browser : ℕ}
    {transaction : Transaction} {r : PasswordResetTransaction}
    (hloaded : Loaded cfg browser transaction r w) (honly : OnlyOpenReset cfg browser w) :
    Closed cfg transaction.userId w.nextTokenId (completed cfg transaction browser w) where
  bound_le := Nat.le_refl _
  token t ht huser _ := by
    obtain ⟨t₀, ht₀, rfl⟩ := List.mem_map.mp ht
    revert huser
    split
    · exact fun _ => nofun
    · next hused =>
        intro huser hnone
        exact hused (by simp [huser, hnone])
  held b id hs r' hr' hhash huser _ := by
    obtain ⟨hmem, hne⟩ := List.mem_filter.mp hr'
    have hs' : w.sessions b = some id := by
      by_cases hb : b = browser
      · rw [completed_sessions, if_pos hb] at hs
        cases hs
      · rw [completed_sessions, if_neg hb] at hs
        exact hs
    have huser' : r'.userId = r.userId := huser.trans (congrArg (·.userId) hloaded.fields)
    rcases honly _ r hloaded.session hloaded.record b id hs' r' hmem hhash huser' with heq | hle
    · exact absurd heq (of_decide_eq_true hne)
    · exact hle

theorem nextTokenId_le {cfg : ResetConfig} {w w' : ResetWorld} (h : ResetRuns cfg w w') :
    w.nextTokenId ≤ w'.nextTokenId := by
  refine h.keeps (P := fun x => w.nextTokenId ≤ x.nextTokenId) (fun x x' he hx => ?_)
    (fun x x' hb hx => ?_) (Nat.le_refl _)
  · cases he with
    | issue t hid => exact Nat.le_succ_of_le hx
    | skip => exact Nat.le_succ_of_le hx
    | _ => exact hx
  · rw [hb.nextTokenId]
    exact hx

/-- After a completed reset, a second one of the user has nothing to do with a
token that was issued or a transaction that was created before the first, as long
as no other browser held an open transaction of the user at the first. -/
theorem reset_closes_others {cfg : ResetConfig} {w₀ v w w' x x' : ResetWorld} (h₀ : w₀.Initial)
    (hv₀ : ResetRuns cfg w₀ v) (hv : ResetRuns cfg v w)
    {inputs inputs' : ResetInputs} {browser browser' : ℕ}
    {newPassword confirmNewPassword newPassword' confirmNewPassword' : String}
    {transaction transaction' : Transaction}
    (h : completePasswordReset cfg inputs browser newPassword confirmNewPassword w =
      .ok transaction w')
    (honly : OnlyOpenReset cfg browser w) (hrun' : ResetRuns cfg w' x)
    (h' : completePasswordReset cfg inputs' browser' newPassword' confirmNewPassword' x =
      .ok transaction' x')
    (huser : transaction'.userId = transaction.userId) :
    (∀ t ∈ v.tokens, t.id ≠ transaction'.tokenId) ∧
      ∀ r ∈ v.transactions, r.tokenId ≠ transaction'.tokenId := by
  obtain ⟨rfl, -, r, hloaded⟩ :=
    (ends_completePasswordReset inputs browser newPassword confirmNewPassword).of_ok h
  obtain ⟨-, -, r', hloaded'⟩ :=
    (ends_completePasswordReset inputs' browser' newPassword' confirmNewPassword').of_ok h'
  have hclosed : Closed cfg transaction.userId w.nextTokenId x :=
    hrun'.keeps (fun _ _ he hx => hx.effect he) (fun _ _ hb hx => hx.beside hb)
      (closed_completed hloaded honly)
  have hlater : w.nextTokenId ≤ transaction'.tokenId := by
    obtain ⟨hmem, hhash⟩ := mem_of_recordOf hloaded'.record
    have hfields := hloaded'.fields
    refine Nat.le_of_not_lt fun hlt => ?_
    rw [hfields] at hlt huser
    have hle := hclosed.held browser' _ hloaded'.session r' hmem hhash huser hlt
    exact absurd (lt_of_loadable hloaded'.loadable) (Nat.not_lt.mpr hle)
  have hok := resetOk_of_runs h₀ hv₀
  have hbound : v.nextTokenId ≤ transaction'.tokenId := Nat.le_trans (nextTokenId_le hv) hlater
  refine ⟨fun t ht heq => ?_, fun s hs heq => ?_⟩
  · have := hok.token_lt t ht
    omega
  · have hlt : s.tokenId < v.nextTokenId := by
      rcases hok.row s hs with ⟨-, -, hcreated⟩ | ⟨-, hcreated, -⟩
      · exact hok.created_lt _ _ _ hcreated
      · exact hok.created_lt _ _ _ hcreated
    omega

theorem onlyOpenReset_of_length {cfg : ResetConfig} {browser : ℕ} {w : ResetWorld}
    (h : w.transactions.length ≤ 1) : OnlyOpenReset cfg browser w := by
  intro id r _ hr b' id' _ r' hr' _ _
  obtain ⟨hmem, hhash⟩ := mem_of_recordOf hr
  match hrows : w.transactions with
  | [] =>
      rw [hrows] at hmem
      cases hmem
  | [s] =>
      rw [hrows, List.mem_singleton] at hmem hr'
      rw [hmem] at hhash
      exact .inl (hr' ▸ hhash)
  | _ :: _ :: _ =>
      rw [hrows] at h
      exact absurd h (by simp)

/-- A reset is completed, and another one is requested and completed. -/
theorem reset_closes_others_again :
    ∃ transaction w' transaction' x', completedAfter (openReset "a" 0) false 0 =
        .ok transaction w' ∧
      completeSample 1 (runOps sampleResetConfig (openReset "b" 1) w') = .ok transaction' x' ∧
      ∀ t ∈ (runOps sampleResetConfig (openReset "a" 0) (sampleResetWorld false)).tokens,
        t.id ≠ transaction'.tokenId := by
  have hrun : (match completedAfter (openReset "a" 0) false 0 with
    | .ok transaction w' =>
        (match completeSample 1 (runOps sampleResetConfig (openReset "b" 1) w') with
        | .ok transaction' _ => decide (transaction'.userId = transaction.userId)
        | .error _ _ => false)
    | .error _ _ => false) = true := by decide +kernel
  split at hrun
  · next transaction w' h =>
      split at hrun
      · next transaction' x' h' =>
          refine ⟨transaction, w', transaction', x', h, h', ?_⟩
          exact (reset_closes_others ⟨rfl, rfl, rfl⟩ (resetRuns_runOps ..) .refl h
            (onlyOpenReset_of_length (by decide +kernel)) (resetRuns_runOps ..) h'
            (of_decide_eq_true hrun)).1
      · cases hrun
  · cases hrun

/-- Two links are followed in two browsers before either reset is completed. -/
theorem second_reset_completed :
    ∃ transaction w' transaction' x', completedAfter (openReset "a" 0 ++ openReset "b" 1) false 0 =
        .ok transaction w' ∧
      completeSample 1 w' = .ok transaction' x' ∧ transaction'.userId = transaction.userId ∧
      (∃ t ∈ (runOps sampleResetConfig (openReset "a" 0 ++ openReset "b" 1)
        (sampleResetWorld false)).tokens, t.id = transaction'.tokenId) ∧
      ∃ r ∈ (runOps sampleResetConfig (openReset "a" 0 ++ openReset "b" 1)
        (sampleResetWorld false)).transactions, r.tokenId = transaction'.tokenId := by
  have hrun : (match completedAfter (openReset "a" 0 ++ openReset "b" 1) false 0 with
    | .ok transaction w' =>
        (match completeSample 1 w' with
        | .ok transaction' _ => decide (transaction'.userId = transaction.userId ∧
            (∃ t ∈ (runOps sampleResetConfig (openReset "a" 0 ++ openReset "b" 1)
              (sampleResetWorld false)).tokens, t.id = transaction'.tokenId) ∧
            ∃ r ∈ (runOps sampleResetConfig (openReset "a" 0 ++ openReset "b" 1)
              (sampleResetWorld false)).transactions, r.tokenId = transaction'.tokenId)
        | .error _ _ => false)
    | .error _ _ => false) = true := by decide +kernel
  split at hrun
  · next transaction w' h =>
      split at hrun
      · next transaction' x' h' =>
          exact ⟨transaction, w', transaction', x', h, h', of_decide_eq_true hrun⟩
      · cases hrun
  · cases hrun

end SitBank.Auth
