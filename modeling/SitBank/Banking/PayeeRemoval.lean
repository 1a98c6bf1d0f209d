import Mathlib.Control.Monad.Basic
import Mathlib.Data.List.Nodup
import SitBank.Security.LedgerSignatures

/-!
Removing a payee.

Deleting a `Payee` sets `payee_id` to `NULL` in the rows that refer to it, because the
relationships are plain backrefs. The column of a `PendingTransfer` does not accept this,
and pending transfers are never deleted, so that a payee to whom a transfer was ever
started cannot be removed. The column of a `Transaction` accepts it, but is covered by
the signature. A removal does what it should exactly for payees that no row refers to.
-/

namespace SitBank.Banking.PayeeRemoval

open SitBank.Python SitBank.Security

/-! ### Tables -/

structure Payee where
  id : ℤ
  userId : ℤ
  nickname : String
  accountNumber : String
  recipientName : String
deriving DecidableEq

/-- `payee_id` is `none` only in a session: the column is `NOT NULL`. -/
structure PendingTransfer where
  id : ℤ
  token : String
  userId : ℤ
  payeeId : Option ℤ
  consumedAt : Option ℤ
  consumedTransactionRef : Option String
deriving DecidableEq

structure Transaction where
  id : ℤ
  row : TransactionRow

structure Tables where
  payees : List Payee
  pendingTransfers : List PendingTransfer
  transactions : List Transaction

def Tables.payeeIds (db : Tables) : List ℤ := db.payees.map Payee.id

/-- Primary keys, unique columns, `NOT NULL` and foreign keys. -/
structure Constraints (db : Tables) : Prop where
  payees : db.payeeIds.Nodup
  payee_accounts : (db.payees.map fun payee => (payee.userId, payee.accountNumber)).Nodup
  pendings : (db.pendingTransfers.map PendingTransfer.id).Nodup
  tokens : (db.pendingTransfers.map PendingTransfer.token).Nodup
  pending_payees : ∀ pending ∈ db.pendingTransfers,
    pending.payeeId.any (fun id => id ∈ db.payeeIds) = true
  transactions : (db.transactions.map Transaction.id).Nodup
  refs : (db.transactions.map fun txn => txn.row.transactionRef).Nodup
  hashes : (db.transactions.map fun txn => txn.row.signature.hash).Nodup
  transaction_payees : ∀ txn ∈ db.transactions,
    txn.row.payeeId.all (fun id => id ∈ db.payeeIds) = true

instance (db : Tables) : Decidable (Constraints db) :=
  decidable_of_iff
    (db.payeeIds.Nodup ∧
      (db.payees.map fun payee => (payee.userId, payee.accountNumber)).Nodup ∧
      (db.pendingTransfers.map PendingTransfer.id).Nodup ∧
      (db.pendingTransfers.map PendingTransfer.token).Nodup ∧
      (∀ pending ∈ db.pendingTransfers,
        pending.payeeId.any (fun id => id ∈ db.payeeIds) = true) ∧
      (db.transactions.map Transaction.id).Nodup ∧
      (db.transactions.map fun txn => txn.row.transactionRef).Nodup ∧
      (db.transactions.map fun txn => txn.row.signature.hash).Nodup ∧
      ∀ txn ∈ db.transactions, txn.row.payeeId.all (fun id => id ∈ db.payeeIds) = true)
    ⟨fun ⟨h₁, h₂, h₃, h₄, h₅, h₆, h₇, h₈, h₉⟩ => ⟨h₁, h₂, h₃, h₄, h₅, h₆, h₇, h₈, h₉⟩,
      fun h => ⟨h.payees, h.payee_accounts, h.pendings, h.tokens, h.pending_payees, h.transactions,
        h.refs, h.hashes, h.transaction_payees⟩⟩

/-- `db.session.commit()` with these rows; `none` is `IntegrityError`. -/
def commit (db : Tables) : Option Tables := if Constraints db then some db else none

/-! ### Requests -/

def findPayee (db : Tables) (userId payeeId : ℤ) : Option Payee :=
  db.payees.find? fun payee => payee.id = payeeId ∧ payee.userId = userId

def PendingTransfer.clearPayee (payeeId : ℤ) (pending : PendingTransfer) : PendingTransfer :=
  if pending.payeeId = some payeeId then { pending with payeeId := none } else pending

def Transaction.clearPayee (payeeId : ℤ) (txn : Transaction) : Transaction :=
  if txn.row.payeeId = some payeeId then { txn with row := { txn.row with payeeId := none } }
  else txn

/-- `db.session.delete(payee)` as it is flushed. -/
def deletePayee (db : Tables) (payeeId : ℤ) : Tables where
  payees := db.payees.filter fun payee => payee.id ≠ payeeId
  pendingTransfers := db.pendingTransfers.map (PendingTransfer.clearPayee payeeId)
  transactions := db.transactions.map (Transaction.clearPayee payeeId)

inductive RemoveError
  | auditWriteError
  | integrityError
deriving DecidableEq

inductive RemoveResponse
  | notFound
  | formInvalid
  | refused (message : String) (statusCode : ℕ)
  | removed
  | raised (error : RemoveError)
deriving DecidableEq

/-- What is outside the three tables: the form, the refusal of
`verify_high_risk_authorization`, and whether the required audit event is written. -/
structure RemoveInput where
  formValid : Bool
  refusal : Option (String × ℕ)
  auditRecorded : Bool

def payeesRemoveSubmit (db : Tables) (currentUser payeeId : ℤ) (input : RemoveInput) :
    Tables × RemoveResponse :=
  match findPayee db currentUser payeeId with
  | none => (db, .notFound)
  | some payee =>
      if !input.formValid then (db, .formInvalid)
      else
        match input.refusal with
        | some (message, statusCode) => (db, .refused message statusCode)
        | none =>
            if !input.auditRecorded then (db, .raised .auditWriteError)
            else
              match commit (deletePayee db payee.id) with
              | some db' => (db', .removed)
              -- Only `AuditWriteError` is caught; the session is discarded with the request.
              | none => (db, .raised .integrityError)

/-- The requests that write to the three tables, with what they write. -/
inductive Request
  | addPayee (payee : Payee)
  | transferSubmit (currentUser payeeId : ℤ) (pending : PendingTransfer)
  | executeLocalTransfer (sender payeeId : ℤ) (token : String) (now : ℤ) (txn : Transaction)
  | otherTransaction (txn : Transaction)
  | backfill (sign : TransactionRow → StoredSignature)
  | payeesRemoveSubmit (currentUser payeeId : ℤ) (input : RemoveInput)

/-- The rows that are committed when nothing else stands in the way. A transfer by phone
number and a top-up have no payee; the backfill signs rows again. -/
def Request.writes (db : Tables) : Request → Option Tables
  | .addPayee payee => commit { db with payees := db.payees ++ [payee] }
  | .transferSubmit currentUser payeeId pending =>
      (findPayee db currentUser payeeId).bind fun payee =>
        commit { db with pendingTransfers :=
          db.pendingTransfers ++
            [{ pending with userId := currentUser, payeeId := some payee.id }] }
  | .executeLocalTransfer sender payeeId token now txn =>
      (findPayee db sender payeeId).bind fun payee =>
        (db.pendingTransfers.find? fun pending => pending.token = token ∧ pending.userId = sender ∧
          pending.payeeId = some payee.id ∧ pending.consumedAt = none).bind fun _ =>
            commit { db with
              pendingTransfers := db.pendingTransfers.map fun pending =>
                if pending.token = token then
                  { pending with
                    consumedAt := some now
                    consumedTransactionRef := some txn.row.transactionRef }
                else pending
              transactions := db.transactions ++
                [{ txn with row :=
                  { txn.row with senderId := sender, payeeId := some payee.id } }] }
  | .otherTransaction txn =>
      commit { db with transactions :=
        db.transactions ++ [{ txn with row := { txn.row with payeeId := none } }] }
  | .backfill sign =>
      commit { db with transactions := db.transactions.map fun txn =>
        { txn with row := { txn.row with signature := sign txn.row } } }
  | .payeesRemoveSubmit currentUser payeeId input =>
      some (PayeeRemoval.payeesRemoveSubmit db currentUser payeeId input).1

/-- A request that fails leaves the tables as they were. -/
def Request.handle (db : Tables) (request : Request) : Tables := (request.writes db).getD db

/-- The states that requests reach from a database that meets its constraints. -/
inductive Reachable : Tables → Prop
  | start {db : Tables} (h : Constraints db) : Reachable db
  | step {db : Tables} (h : Reachable db) (request : Request) : Reachable (request.handle db)

/-! ### The constraints in every run -/

theorem constraints_of_commit {db db' : Tables} (h : commit db = some db') : Constraints db' := by
  unfold commit at h
  split at h
  · next hdb => exact Option.some.inj h ▸ hdb
  · cases h

theorem payeesRemoveSubmit_constraints {db : Tables} (h : Constraints db)
    (currentUser payeeId : ℤ) (input : RemoveInput) :
    Constraints (payeesRemoveSubmit db currentUser payeeId input).1 := by
  unfold payeesRemoveSubmit
  split
  · exact h
  split
  · exact h
  split
  · exact h
  split
  · exact h
  split
  · next hcommit => exact constraints_of_commit hcommit
  · exact h

theorem handle_constraints {db : Tables} (h : Constraints db) (request : Request) :
    Constraints (request.handle db) := by
  unfold Request.handle
  cases hwrites : request.writes db with
  | none => exact h
  | some db' =>
      rw [Option.getD_some]
      cases request with
      | addPayee payee => exact constraints_of_commit hwrites
      | transferSubmit currentUser payeeId pending =>
          obtain ⟨_, _, hcommit⟩ := Option.bind_eq_some_iff.mp hwrites
          exact constraints_of_commit hcommit
      | executeLocalTransfer sender payeeId token now txn =>
          obtain ⟨_, _, hbind⟩ := Option.bind_eq_some_iff.mp hwrites
          obtain ⟨_, _, hcommit⟩ := Option.bind_eq_some_iff.mp hbind
          exact constraints_of_commit hcommit
      | otherTransaction txn => exact constraints_of_commit hwrites
      | backfill sign => exact constraints_of_commit hwrites
      | payeesRemoveSubmit currentUser payeeId input =>
          obtain rfl := Option.some.inj hwrites
          exact payeesRemoveSubmit_constraints h currentUser payeeId input

theorem Reachable.constraints {db : Tables} (h : Reachable db) : Constraints db := by
  induction h with
  | start h => exact h
  | step _ request ih => exact handle_constraints ih request

/-! ### What a removal should do -/

/-- The removal is committed, takes exactly this payee away, and leaves every transaction
as it is, and valid if it was. -/
structure Preserved (hmac : List UInt8 → List UInt8 → List UInt8) (config : LedgerConfig)
    (db : Tables) (payeeId : ℤ) (result : Tables × RemoveResponse) : Prop where
  committed : result.2 = .removed
  gone : payeeId ∉ result.1.payeeIds
  others : ∀ payee, payee.id ≠ payeeId → (payee ∈ result.1.payees ↔ payee ∈ db.payees)
  transactions : result.1.transactions = db.transactions
  valid : ∀ txn ∈ db.transactions,
    transactionIntegrityStatus hmac config txn.row = .ok .valid →
      ∃ txn' ∈ result.1.transactions, txn'.id = txn.id ∧
        transactionIntegrityStatus hmac config txn'.row = .ok .valid

/-- No pending transfer, open, expired or consumed, and no transaction refers to it. -/
structure Unused (db : Tables) (payeeId : ℤ) : Prop where
  pendings : ∀ pending ∈ db.pendingTransfers, pending.payeeId ≠ some payeeId
  transactions : ∀ txn ∈ db.transactions, txn.row.payeeId ≠ some payeeId

theorem pendingTransfer_clearPayee_of_ne {payeeId : ℤ} {pending : PendingTransfer}
    (h : pending.payeeId ≠ some payeeId) : pending.clearPayee payeeId = pending := if_neg h

theorem transaction_clearPayee_eq_self_iff {payeeId : ℤ} {txn : Transaction} :
    txn.clearPayee payeeId = txn ↔ txn.row.payeeId ≠ some payeeId := by
  unfold Transaction.clearPayee
  split
  · next hrefers =>
      constructor
      · intro h
        have hnull : none = txn.row.payeeId := congrArg (fun txn => txn.row.payeeId) h
        rw [← hnull]
        simp
      · exact fun h => absurd hrefers h
  · next hother => simp [hother]

theorem transactions_deletePayee_iff (db : Tables) (payeeId : ℤ) :
    (deletePayee db payeeId).transactions = db.transactions ↔
      ∀ txn ∈ db.transactions, txn.row.payeeId ≠ some payeeId := by
  unfold deletePayee
  dsimp only
  conv_lhs => rw [← List.map_id db.transactions, List.map_map, List.map_inj_left]
  simp only [Function.comp_apply, id_eq, transaction_clearPayee_eq_self_iff]

/-- A row that refers to the payee would violate `NOT NULL`. -/
theorem pendings_of_constraints {db : Tables} {payeeId : ℤ}
    (h : Constraints (deletePayee db payeeId)) :
    ∀ pending ∈ db.pendingTransfers, pending.payeeId ≠ some payeeId := by
  intro pending hmem hrefers
  have hnull := h.pending_payees _ (List.mem_map_of_mem hmem)
  rw [PendingTransfer.clearPayee, if_pos hrefers] at hnull
  cases hnull

section Removal

variable {db : Tables} {payee : Payee} {input : RemoveInput}

theorem findPayee_of_mem (hdb : Constraints db) (h : payee ∈ db.payees) :
    findPayee db payee.userId payee.id = some payee := by
  unfold findPayee
  cases hfind : db.payees.find? fun p => p.id = payee.id ∧ p.userId = payee.userId with
  | none =>
      have := List.find?_eq_none.mp hfind payee h
      simp at this
  | some found =>
      have hfound := List.find?_some hfind
      simp only [decide_eq_true_eq] at hfound
      rw [List.inj_on_of_nodup_map hdb.payees (List.mem_of_find?_eq_some hfind) h hfound.1]

/-- With a valid step-up only the audit event and the commit decide. -/
theorem payeesRemoveSubmit_owner (hdb : Constraints db) (hpayee : payee ∈ db.payees)
    (hform : input.formValid = true) (hstep : input.refusal = none) :
    payeesRemoveSubmit db payee.userId payee.id input =
      if input.auditRecorded = true then
        match commit (deletePayee db payee.id) with
        | some db' => (db', .removed)
        | none => (db, .raised .integrityError)
      else (db, .raised .auditWriteError) := by
  unfold payeesRemoveSubmit
  rw [findPayee_of_mem hdb hpayee]
  simp only [hform, hstep]
  cases input.auditRecorded <;> rfl

/-- Nothing else changes, and the constraints still hold. -/
theorem constraints_of_unused (hdb : Constraints db) (h : Unused db payee.id) :
    Constraints (deletePayee db payee.id) := by
  -- nothing refers to the payee, so neither table changes
  have hpendings : (deletePayee db payee.id).pendingTransfers = db.pendingTransfers := by
    have hself : ∀ pending ∈ db.pendingTransfers, pending.clearPayee payee.id = id pending :=
      fun pending hmem => pendingTransfer_clearPayee_of_ne (h.pendings pending hmem)
    exact (List.map_congr_left hself).trans (List.map_id _)
  have htransactions := (transactions_deletePayee_iff db payee.id).mpr h.transactions
  have hsub : (deletePayee db payee.id).payees.Sublist db.payees := List.filter_sublist
  have hkept {id : ℤ} (hne : id ≠ payee.id) (hid : id ∈ db.payeeIds) :
      id ∈ (deletePayee db payee.id).payeeIds := by
    obtain ⟨other, hother, rfl⟩ := List.mem_map.mp hid
    exact List.mem_map_of_mem (List.mem_filter.mpr ⟨hother, by simpa using hne⟩)
  exact {
    payees := hdb.payees.sublist (hsub.map _)
    payee_accounts := hdb.payee_accounts.sublist (hsub.map _)
    pendings := by rw [hpendings]; exact hdb.pendings
    tokens := by rw [hpendings]; exact hdb.tokens
    pending_payees := by
      rw [hpendings]
      intro pending hmem
      have hrefers := hdb.pending_payees pending hmem
      have hne := h.pendings pending hmem
      cases hpayee : pending.payeeId with
      | none => simp [hpayee] at hrefers
      | some id =>
          rw [hpayee] at hrefers hne
          simp only [Option.any_some, decide_eq_true_eq] at hrefers ⊢
          exact hkept (fun heq => hne (congrArg some heq)) hrefers
    transactions := by rw [htransactions]; exact hdb.transactions
    refs := by rw [htransactions]; exact hdb.refs
    hashes := by rw [htransactions]; exact hdb.hashes
    transaction_payees := by
      rw [htransactions]
      intro txn hmem
      have hrefers := hdb.transaction_payees txn hmem
      have hne := h.transactions txn hmem
      cases hpayee : txn.row.payeeId with
      | none => rfl
      | some id =>
          rw [hpayee] at hrefers hne
          simp only [Option.all_some, decide_eq_true_eq] at hrefers ⊢
          exact hkept (fun heq => hne (congrArg some heq)) hrefers }

theorem preserved_of_unused (hmac : List UInt8 → List UInt8 → List UInt8) (config : LedgerConfig)
    (h : Unused db payee.id) :
    Preserved hmac config db payee.id (deletePayee db payee.id, .removed) := by
  have htransactions := (transactions_deletePayee_iff db payee.id).mpr h.transactions
  exact {
    committed := rfl
    gone := by
      intro hid
      obtain ⟨other, hother, heq⟩ := List.mem_map.mp hid
      exact absurd heq (by simpa using (List.mem_filter.mp hother).2)
    others := by
      intro other hne
      simp [deletePayee, hne]
    transactions := htransactions
    valid := by
      intro txn hmem hvalid
      exact ⟨txn, htransactions ▸ hmem, rfl, hvalid⟩ }

/-- In every reachable state, the removal by the owner with a valid step-up does what it
should if and only if the audit event is recorded and the payee was never used. -/
theorem payee_removal_iff (hmac : List UInt8 → List UInt8 → List UInt8) (config : LedgerConfig)
    (hreach : Reachable db) (hpayee : payee ∈ db.payees) (hform : input.formValid = true)
    (hstep : input.refusal = none) :
    Preserved hmac config db payee.id (payeesRemoveSubmit db payee.userId payee.id input) ↔
      input.auditRecorded = true ∧ Unused db payee.id := by
  have hdb := hreach.constraints
  rw [payeesRemoveSubmit_owner hdb hpayee hform hstep]
  constructor
  · intro h
    have hcommitted := h.committed
    split at hcommitted
    · next haudit =>
        rw [if_pos haudit] at h
        split at hcommitted
        · next db' hcommit =>
            rw [hcommit] at h
            have hflushed : deletePayee db payee.id = db' := by
              unfold commit at hcommit
              split at hcommit
              · exact Option.some.inj hcommit
              · cases hcommit
            subst hflushed
            exact ⟨haudit, pendings_of_constraints (constraints_of_commit hcommit),
              (transactions_deletePayee_iff db payee.id).mp h.transactions⟩
        · cases hcommitted
    · cases hcommitted
  · rintro ⟨haudit, hunused⟩
    have hcommit : commit (deletePayee db payee.id) = some (deletePayee db payee.id) :=
      if_pos (constraints_of_unused hdb hunused)
    rw [if_pos haudit, hcommit]
    exact preserved_of_unused hmac config hunused

end Removal

/-! ### Two payees -/

/-- The owner with a fresh code; the audit event is written. -/
def steppedUp : RemoveInput := ⟨true, none, true⟩

def landlord : Payee := ⟨3, 7, "rent", "200000000008", "L"⟩

def newPayee : Payee := ⟨4, 7, "gym", "200000000009", "G"⟩

def rentKeys : LedgerConfig where
  keyring := some [("june", some (List.replicate 32 1))]
  activeKeyId := "june"

/-- The HMAC of the payload of the transaction below, and of the one without its payee. -/
def rentHmac : List UInt8 → List UInt8 → List UInt8 := fun _ input =>
  if input.length = 236 then
    [232, 209, 134, 39, 179, 184, 39, 142, 82, 172, 249, 92, 206, 199, 72, 92, 246, 83, 148, 88,
      120, 160, 220, 113, 247, 62, 228, 107, 219, 33, 35, 76]
  else
    [168, 216, 73, 196, 224, 203, 86, 201, 230, 75, 155, 82, 18, 243, 27, 101, 223, 199, 123, 83,
      236, 130, 21, 32, 98, 211, 106, 215, 158, 105, 94, 138]

/-- A transfer from before there were pending transfers, signed by the backfill. -/
def rent : Transaction where
  id := 1
  row := {
    signature := ⟨some "e8d18627b3b8278e52acf95ccec7485cf653945878a0dc71f73ee46bdb21234c",
      some "june", some "hmac-sha256", some 1⟩
    transactionRef := "t-1"
    senderId := 7
    recipientId := 8
    payeeId := some 3
    amount := ⟨false, 500, -2⟩
    reference := some "rent"
    status := "completed"
    transactionType := "local_transfer"
    createdAt := ⟨1782561600000000, none, by decide⟩ }

def rentPaid : Tables := ⟨[landlord, newPayee], [], [rent]⟩

/-- A transfer to the landlord that was started and never confirmed. -/
def rentStarted : Tables :=
  Request.handle ⟨[landlord, newPayee], [], []⟩
    (.transferSubmit 7 3 ⟨1, "v", 0, none, none, none⟩)

theorem unused_payee_removed :
    Preserved rentHmac rentKeys rentPaid 4 (payeesRemoveSubmit rentPaid 7 4 steppedUp) := by
  have hreach : Reachable rentPaid := .start (by decide)
  have hunused : Unused rentPaid newPayee.id := ⟨by decide, by decide⟩
  have hmem : newPayee ∈ rentPaid.payees := .tail _ (.head _)
  exact (payee_removal_iff rentHmac rentKeys hreach hmem rfl rfl).mpr ⟨rfl, hunused⟩

theorem used_payee_not_removed :
    (Reachable rentStarted ∧ landlord ∈ rentStarted.payees ∧
      (payeesRemoveSubmit rentStarted 7 3 steppedUp).2 = .raised .integrityError) ∧
    Reachable rentPaid ∧
      transactionIntegrityStatus rentHmac rentKeys rent.row = .ok .valid ∧
      (payeesRemoveSubmit rentPaid 7 3 steppedUp).2 = .removed ∧
      ∀ txn ∈ (payeesRemoveSubmit rentPaid 7 3 steppedUp).1.transactions,
        txn.row.payeeId = none ∧
          transactionIntegrityStatus rentHmac rentKeys txn.row = .ok .invalid := by
  have hafter : (payeesRemoveSubmit rentPaid 7 3 steppedUp).1.transactions =
      [rent.clearPayee 3] := rfl
  refine ⟨⟨.step (.start (by decide)) _, by decide, by decide⟩, .start (by decide),
    by decide +kernel, by decide, ?_⟩
  rw [hafter, List.forall_mem_singleton]
  exact ⟨rfl, by decide +kernel⟩

end SitBank.Banking.PayeeRemoval
