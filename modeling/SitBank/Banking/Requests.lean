import SitBank.Banking.TopUps

/-!
Whole requests, and how rows evolve under them.

A request loads rows before its handler runs (the signed-in user, the rows the
route shows), may end transactions there, runs the handler, and ends with
`save_session`, whose commit writes whatever the handler left in the session.
-/

namespace SitBank.Banking

open SitBank.Interaction SitBank.Orm SitBank.Python

/-! ### Requests -/

/-- What happens before the handler: a row is loaded or a transaction ended. -/
inductive Before
  | load (k : Key)
  | commit

def Before.run : Before → BankReq Unit
  | .load k => do
      let _ ← Orm.load (S := bank) k
      pure ()
  | .commit => Orm.commit

/-- `_commit_quietly`. -/
def commitQuietly : BankReq Unit :=
  commit.tryCatch fun
    | .db .integrity => rollback
    | e => do
        rollback
        .raise e

/-- `save_session`, for a browser session that has to be written or not: its
record is read, and the commit is the one of the request's own session. -/
def saveSession : BankReq Unit := do
  let session ← ask
  if session then
    query fun _ => ()
    commitQuietly
  else pure ()

/-- A request with its outcome. A session that cannot be saved turns the
response into an error page; removing the database session at the end rolls
back. -/
def serve {α : Type} (before : List Before) (handler : BankReq α) :
    BankReq (Except (Exc Err) α) := do
  let r ← (Prog.bind (Prog.forEach Before.run before) fun _ =>
    handler.bind fun a => pure (Except.ok a)).tryCatch fun e => pure (.error e)
  mark .saving
  saveSession.tryCatch fun _ => pure ()
  rollback
  pure r

inductive Request
  | executeLocalTransfer (sender payee : ℕ) (confirmationToken : String)
  | executePayupTransfer (session : SessionRisk) (sender : ℕ) (confirmationToken : String)
      (authorized : Bool)
  | topupApproveSubmit (rawToken : String)
  | topupApprove (rawToken : String)
  | topupStatus (selector : String) (user : ℕ)
  | freezeOwnAccount (user : ℕ)
  | freezeCustomerAsStaff (actor target : ℕ)
  | lockUserAccount (user : ℕ) (reason : String)
  | transferLimitsSubmit (user : ℕ) (payupLimit localTransferLimit : ℤ)

def handler (cfg : Config) : Request → BankReq Unit
  | .executeLocalTransfer sender payee token =>
      (executeLocalTransfer cfg sender payee token).bind fun _ => pure ()
  | .executePayupTransfer session sender token authorized =>
      (executePayupTransfer cfg session sender token authorized).bind fun _ => pure ()
  | .topupApproveSubmit rawToken => topupApproveSubmit cfg rawToken
  | .topupApprove rawToken => topupApprove cfg rawToken
  | .topupStatus selector user => topupStatus selector user
  | .freezeOwnAccount user => freezeOwnAccount user
  | .freezeCustomerAsStaff actor target => freezeCustomerAsStaff actor target
  | .lockUserAccount user reason => lockUserAccount user reason
  | .transferLimitsSubmit user payupLimit localTransferLimit =>
      transferLimitsSubmit user payupLimit localTransferLimit

abbrev BankConf := Conf (Op bank Err) (Res bank Err) (Exc Err) (Except (Exc Err) Unit) BankWorld

/-- The initial configuration: any number of requests, none of which has
started. -/
def start (cfg : Config) (before : ℕ → List Before) (requests : ℕ → Request) (db : BankDb)
    (clock : ℤ) : BankConf where
  world := ⟨db, fun _ => none, fun _ => Session.empty bank, clock⟩
  prog t := serve (before t) (handler cfg (requests t))

/-! ### How rows evolve -/

def evolves : ∀ k : Key, Row k → Row k → Prop
  | .user _, r, r' => r'.accountNumber = r.accountNumber ∧
      (r.isFrozen = true → r'.isFrozen = true) ∧
      (r.securityLockedAt ≠ none → r'.securityLockedAt ≠ none)
  | .payee _, r, r' => r' = r
  | .pending _, r, r' => r' = r ∨ r.consumedAt = none ∧ r'.consumedAt ≠ none ∧ r' = { r with
      consumedAt := r'.consumedAt, consumedTransactionRef := r'.consumedTransactionRef }
  | .payupPending _, r, r' => r' = r ∨ r.consumedAt = none ∧ r'.consumedAt ≠ none ∧ r' = { r with
      consumedAt := r'.consumedAt, consumedTransactionRef := r'.consumedTransactionRef }
  | .topup _, r, r' => r'.verifierHmac = r.verifierHmac ∧ r'.userId = r.userId ∧
      r'.amount = r.amount ∧ r'.expiresAt = r.expiresAt ∧
      (r.status ≠ .pending → r'.status ≠ .pending) ∧
      (r'.creditRef = none → r.creditRef = none)

theorem evolves_refl (k : Key) (r : Row k) : evolves k r r := by
  cases k <;> simp [evolves]

theorem evolves_trans (k : Key) (a b c : Row k) (h : evolves k a b) (h' : evolves k b c) :
    evolves k a c := by
  cases k with
  | user id =>
      obtain ⟨h₁, h₂, h₃⟩ := h
      obtain ⟨h₁', h₂', h₃'⟩ := h'
      exact ⟨h₁'.trans h₁, fun h => h₂' (h₂ h), fun h => h₃' (h₃ h)⟩
  | payee id => exact h'.trans h
  | pending token =>
      rcases h with rfl | ⟨ha, hb, h⟩
      · exact h'
      · rcases h' with rfl | ⟨hb', _, _⟩
        · exact .inr ⟨ha, hb, h⟩
        · exact absurd hb' hb
  | payupPending token =>
      rcases h with rfl | ⟨ha, hb, h⟩
      · exact h'
      · rcases h' with rfl | ⟨hb', _, _⟩
        · exact .inr ⟨ha, hb, h⟩
        · exact absurd hb' hb
  | topup selector =>
      obtain ⟨h₁, h₂, h₃, h₄, h₅, h₆⟩ := h
      obtain ⟨h₁', h₂', h₃', h₄', h₅', h₆'⟩ := h'
      exact ⟨h₁'.trans h₁, h₂'.trans h₂, h₃'.trans h₃, h₄'.trans h₄, fun h => h₅' (h₅ h),
        fun h => h₆ (h₆' h)⟩

end SitBank.Banking
