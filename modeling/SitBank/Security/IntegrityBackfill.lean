import SitBank.Audit.Writer
import SitBank.Interaction.Call
import SitBank.Security.LedgerSignatures

/-!
The backfill of transaction signatures (`app/ops/commands.py`).

Transactions without a signature are signed in one transaction of the database, together
with an audit event; a partly signed or tampered row stops it. The rows of the table are in
the order of their ids. Everything that can fail on the way besides is a parameter of the
run: the audit events, loading, flushing and committing, and the log.

The log of the completed event is written after the commit, inside the block whose handler
reports a failure without changes.
-/

namespace SitBank.Security

open SitBank.Interaction SitBank.Audit

/-! ### Rows -/

/-- No part of the metadata is there. -/
def TransactionRow.legacy (row : TransactionRow) : Bool :=
  row.signature.keyId.isNone && row.signature.algorithm.isNone && row.signature.version.isNone

/-- Some part of the metadata is missing. -/
def TransactionRow.incomplete (row : TransactionRow) : Bool :=
  row.signature.keyId.isNone || row.signature.algorithm.isNone || row.signature.version.isNone

/-- The four columns of the signature are replaced. -/
def TransactionRow.signed (row : TransactionRow) (sig : StoredSignature) : TransactionRow :=
  { row with signature := sig }

inductive BackfillError
  | runtimeError (message : String)
  /-- A `RuntimeError` too. -/
  | auditWriteError
  | integrity (e : IntegrityError)
  | databaseError
  | loggingError
  deriving DecidableEq

def BackfillError.isRuntimeError : BackfillError → Bool
  | .runtimeError _ => true
  | .auditWriteError => true
  | .integrity (.runtimeError _) => true
  | _ => false

section Rows

variable (hmac : List UInt8 → List UInt8 → List UInt8) (config : LedgerConfig)

def statusOf (row : TransactionRow) : Except BackfillError IntegrityStatus :=
  (transactionIntegrityStatus hmac config row).mapError .integrity

/-- The legacy rows, and the number of rows that are signed already. -/
def classifyTransactionIntegrityRows :
    List TransactionRow → Except BackfillError (List TransactionRow × ℕ)
  | [] => .ok ([], 0)
  | row :: rows =>
      if row.legacy then do
        let (legacy, valid) ← classifyTransactionIntegrityRows rows
        .ok (row :: legacy, valid)
      else if row.incomplete then
        .error (.runtimeError "Transaction integrity backfill refused partial metadata")
      else do
        let status ← statusOf hmac config row
        if status ≠ .valid then
          .error (.runtimeError "Transaction integrity backfill refused an invalid signed row")
        else do
          let (legacy, valid) ← classifyTransactionIntegrityRows rows
          .ok (legacy, valid + 1)

def signRow (row : TransactionRow) : Except BackfillError TransactionRow := do
  let sig ← (signTransactionIntegrity hmac config row.fields).mapError .integrity
  .ok (row.signed sig.stored)

def signLegacyRow (row : TransactionRow) : Except BackfillError TransactionRow :=
  if row.legacy then signRow hmac config row else .ok row

/-- The table with its legacy rows signed. -/
def signTransactionIntegrityRows : List TransactionRow → Except BackfillError (List TransactionRow)
  | [] => .ok []
  | row :: rows => do
      let row' ← signLegacyRow hmac config row
      let rows' ← signTransactionIntegrityRows rows
      .ok (row' :: rows')

def verifyRows : List TransactionRow → Except BackfillError Unit
  | [] => .ok ()
  | row :: rows => do
      let status ← statusOf hmac config row
      if status ≠ .valid then
        .error (.runtimeError "Transaction integrity backfill verification failed")
      else verifyRows rows

end Rows

/-! ### The database -/

inductive BackfillEvent
  | started
  | completed (scanned backfilled validExisting : ℕ)
  | dryRun (scanned required validExisting : ℕ)
  | failed (error : BackfillError)

/-- The committed table and events, and those that the transaction sees. -/
structure BackfillState where
  transactions : List TransactionRow
  events : List BackfillEvent
  pending : List TransactionRow
  pendingEvents : List BackfillEvent

/-- A new database session. -/
def BackfillState.fresh (transactions : List TransactionRow) (events : List BackfillEvent) :
    BackfillState := ⟨transactions, events, transactions, events⟩

def BackfillState.commit (st : BackfillState) : BackfillState := .fresh st.pending st.pendingEvents

def BackfillState.rollback (st : BackfillState) : BackfillState := .fresh st.transactions st.events

def BackfillState.add (e : BackfillEvent) (st : BackfillState) : BackfillState :=
  { st with pendingEvents := st.pendingEvents ++ [e] }

structure BackfillFaults where
  started : AuditStep
  loaded : Bool
  flushed : Bool
  completed : AuditStep
  committed : Bool
  dryRun : AuditStep
  failed : AuditStep

abbrev Backfill (α : Type) := Call BackfillState BackfillError α

/-- `_write_system_audit_event`, with its own commit. -/
def writeSystemAuditEvent (required : Bool) (audit : AuditStep) (e : BackfillEvent) :
    Backfill Unit :=
  if audit.written then do
    modify fun st => (st.add e).commit
    raiseIf (!audit.logged) .loggingError
  else do
    modify BackfillState.rollback
    raiseIf (!audit.logged) .loggingError
    raiseIf required .auditWriteError

def auditSystemEventInTransactionRequired (audit : AuditStep) (e : BackfillEvent) : Backfill Unit :=
  if audit.written then modify (BackfillState.add e)
  else do
    raiseIf (!audit.logged) .loggingError
    throw .auditWriteError

/-! ### The backfill -/

inductive BackfillMode
  | confirmed
  | dryRun
  deriving DecidableEq, Repr

structure BackfillReport where
  mode : BackfillMode
  scannedCount : ℕ
  backfilledCount : ℕ
  backfillRequiredCount : ℕ
  validExistingCount : ℕ

section Backfill

variable (hmac : List UInt8 → List UInt8 → List UInt8) (config : LedgerConfig)
  (faults : BackfillFaults)

def loadTransactionIntegrityBackfillRows : Backfill (List TransactionRow) := do
  raiseIf (!faults.loaded) .databaseError
  let st ← get
  pure st.pending

def commitTransactionIntegrityBackfill (rows : List TransactionRow)
    (legacyCount validExisting : ℕ) :
    Backfill Unit := do
  raiseIf (!faults.flushed) .databaseError
  ofExcept (verifyRows hmac config rows)
  auditSystemEventInTransactionRequired faults.completed
    (.completed rows.length legacyCount validExisting)
  raiseIf (!faults.committed) .databaseError
  modify BackfillState.commit
  raiseIf (!faults.completed.logged) .loggingError

/-- What is done in the `try` block. -/
def runBackfill (confirm : Bool) : Backfill BackfillReport := do
  let rows ← loadTransactionIntegrityBackfillRows faults
  let (legacy, validExisting) ← ofExcept (classifyTransactionIntegrityRows hmac config rows)
  if confirm then do
    let rows ← ofExcept (signTransactionIntegrityRows hmac config rows)
    modify fun st => { st with pending := rows }
    commitTransactionIntegrityBackfill hmac config faults rows legacy.length validExisting
    pure ⟨.confirmed, rows.length, legacy.length, 0, validExisting⟩
  else do
    modify BackfillState.rollback
    writeSystemAuditEvent false faults.dryRun (.dryRun rows.length legacy.length validExisting)
    pure ⟨.dryRun, rows.length, 0, legacy.length, validExisting⟩

def recordTransactionIntegrityBackfillFailure (confirm : Bool) (e : BackfillError) :
    Backfill Unit := do
  modify BackfillState.rollback
  if confirm then writeSystemAuditEvent false faults.failed (.failed e) else pure ()

def announceBackfill (confirm : Bool) : Backfill Unit :=
  if confirm then writeSystemAuditEvent true faults.started .started else pure ()

/-- A table that is signed half way is rolled back by the handler, as one that is not signed
at all. -/
def backfillTransactionIntegrity (confirm : Bool) : Backfill BackfillReport := do
  let _ ← ofExcept ((validatedKeyring config).mapError .integrity)
  announceBackfill faults confirm
  tryCatch (runBackfill hmac config faults confirm) fun e => do
    recordTransactionIntegrityBackfillFailure faults confirm e
    throw (if e.isRuntimeError then e
      else .runtimeError "Transaction integrity backfill failed without committing changes")

end Backfill

/-! ### What a run commits -/

section Commits

variable (hmac : List UInt8 → List UInt8 → List UInt8) (config : LedgerConfig)
  (faults : BackfillFaults)

/-- The table that would be committed. -/
def prepared (table : List TransactionRow) : Except BackfillError (List TransactionRow) := do
  let _ ← classifyTransactionIntegrityRows hmac config table
  let rows ← signTransactionIntegrityRows hmac config table
  verifyRows hmac config rows
  .ok rows

/-- The steps from loading to the commit succeed, for these rows. -/
structure CommitsRows (table rows : List TransactionRow) : Prop where
  loaded : faults.loaded = true
  rows : prepared hmac config table = .ok rows
  flushed : faults.flushed = true
  written : faults.completed.written = true
  committed : faults.committed = true

/-- A run commits these rows. -/
structure Commits (table rows : List TransactionRow) : Prop
    extends CommitsRows hmac config faults table rows where
  keyring : ∃ keyring, validatedKeyring config = .ok keyring
  started : faults.started.written = true ∧ faults.started.logged = true

/-- What a confirmed run leaves of a table, if it may commit the rows for which `C` holds. -/
def Left (C : List TransactionRow → Prop) (table : List TransactionRow)
    (r : Except BackfillError BackfillReport) (st' : BackfillState) : Prop :=
  match r with
  | .ok _ => ∃ rows, C rows ∧ faults.completed.logged = true ∧ st'.transactions = rows
  | .error _ => (∀ rows, ¬C rows) ∧ st'.transactions = table ∨
      ∃ rows, C rows ∧ faults.completed.logged = false ∧ st'.transactions = rows

variable {hmac config faults} {table : List TransactionRow} {events : List BackfillEvent}

theorem left_failed {C : List TransactionRow → Prop} {e : BackfillError} {st' : BackfillState}
    (hnone : ∀ rows, ¬C rows) (hsame : st'.transactions = table) :
    Left faults C table (.error e) st' := .inl ⟨hnone, hsame⟩

theorem prepared_of_steps {rows : List TransactionRow} {classified : List TransactionRow × ℕ}
    (hclassified : classifyTransactionIntegrityRows hmac config table = .ok classified)
    (hsigned : signTransactionIntegrityRows hmac config table = .ok rows)
    (hverified : verifyRows hmac config rows = .ok ()) :
    prepared hmac config table = .ok rows := by
  unfold prepared
  rw [hclassified, hsigned]
  show (verifyRows hmac config rows >>= fun _ => Except.ok rows) = _
  rw [hverified]
  rfl

theorem steps_of_prepared {rows : List TransactionRow}
    (h : prepared hmac config table = .ok rows) :
    (∃ classified, classifyTransactionIntegrityRows hmac config table = .ok classified) ∧
      signTransactionIntegrityRows hmac config table = .ok rows ∧
      verifyRows hmac config rows = .ok () := by
  unfold prepared at h
  obtain ⟨classified, hclassified, h₁⟩ := returned_bind_iff.mp h
  obtain ⟨rows', hsigned, h₂⟩ := returned_bind_iff.mp h₁
  obtain ⟨_, hverified, h₃⟩ := returned_bind_iff.mp h₂
  cases h₃
  exact ⟨⟨classified, hclassified⟩, hsigned, hverified⟩

theorem ends_commitBackfill {rows : List TransactionRow} {legacyCount validExisting : ℕ}
    (hloaded : faults.loaded = true) {classified : List TransactionRow × ℕ}
    (hclassified : classifyTransactionIntegrityRows hmac config table = .ok classified)
    (hsigned : signTransactionIntegrityRows hmac config table = .ok rows) :
    Ends (commitTransactionIntegrityBackfill hmac config faults rows legacyCount validExisting)
      (fun r st' => match r with
        | .ok _ => CommitsRows hmac config faults table rows ∧ faults.completed.logged = true ∧
            st'.transactions = rows
        | .error _ => (∀ rows, ¬CommitsRows hmac config faults table rows) ∧
            st'.transactions = table ∨
          CommitsRows hmac config faults table rows ∧ faults.completed.logged = false ∧
            st'.transactions = rows)
      ⟨table, events, rows, events⟩ := by
  have hsame {rows' : List TransactionRow} (h : CommitsRows hmac config faults table rows') :
      rows' = rows := by
    have hsigned' := (steps_of_prepared h.rows).2.1
    rw [hsigned] at hsigned'
    exact (Except.ok.inj hsigned').symm
  unfold commitTransactionIntegrityBackfill
  refine Ends.raiseIf_bind (fun hflush => ?_) fun hflush => ?_
  · exact .inl ⟨fun _ h => not_of_negated hflush h.flushed, rfl⟩
  refine Ends.ofExcept_bind (fun e hverified => ?_) fun _ hverified => ?_
  · refine .inl ⟨fun rows' h => ?_, rfl⟩
    have hverified' := (steps_of_prepared h.rows).2.2
    rw [hsame h, hverified] at hverified'
    cases hverified'
  unfold auditSystemEventInTransactionRequired
  cases hwritten : faults.completed.written with
  | false =>
      have hnone : ∀ rows, ¬CommitsRows hmac config faults table rows := by
        intro _ h
        have hwritten' := h.written
        rw [hwritten] at hwritten'
        cases hwritten'
      cases faults.completed.logged <;> exact .inl ⟨hnone, rfl⟩
  | true =>
      refine Ends.modify_bind (Ends.raiseIf_bind (fun hcommit => ?_) fun hcommit => ?_)
      · exact .inl ⟨fun _ h => not_of_negated hcommit h.committed, rfl⟩
      have hcommits : CommitsRows hmac config faults table rows :=
        ⟨hloaded, prepared_of_steps hclassified hsigned hverified, of_negated hflush, hwritten,
          of_negated hcommit⟩
      refine Ends.modify_bind (Ends.raiseIf (fun hlog => ?_) fun hlog => ?_)
      · exact .inr ⟨hcommits, Bool.eq_false_iff.mpr (not_of_negated hlog), rfl⟩
      · exact ⟨hcommits, of_negated hlog, rfl⟩

theorem ends_runBackfill : Ends (runBackfill hmac config faults true)
    (Left faults (CommitsRows hmac config faults table) table) (.fresh table events) := by
  unfold runBackfill
  cases hload : faults.loaded with
  | false =>
      have hraised : loadTransactionIntegrityBackfillRows faults (.fresh table events) =
          .error .databaseError (.fresh table events) := by
        unfold loadTransactionIntegrityBackfillRows
        rw [hload]
        rfl
      refine Ends.bind_error hraised (left_failed (fun _ h => ?_) rfl)
      exact Bool.false_ne_true (hload.symm.trans h.loaded)
  | true =>
  have hrows : loadTransactionIntegrityBackfillRows faults (.fresh table events) =
      .ok table (.fresh table events) := by
    unfold loadTransactionIntegrityBackfillRows
    rw [hload]
    rfl
  refine Ends.bind_ok hrows ?_
  refine Ends.ofExcept_bind (fun e hclassified => ?_) fun classified hclassified => ?_
  · refine left_failed (fun _ h => ?_) rfl
    obtain ⟨classified, hclassified'⟩ := (steps_of_prepared h.rows).1
    cases hclassified.symm.trans hclassified'
  refine Ends.ofExcept_bind (fun e hsigned => ?_) fun rows hsigned => ?_
  · refine left_failed (fun _ h => ?_) rfl
    cases hsigned.symm.trans (steps_of_prepared h.rows).2.1
  refine Ends.modify_bind ((ends_commitBackfill hload hclassified hsigned).bind
    (fun _ st' h => ?_) fun _ st' h => ?_)
  · exact ⟨rows, h⟩
  · exact h.imp id fun h => ⟨rows, h⟩

/-- The handler leaves the committed table alone, and raises. -/
theorem ends_recordFailure {st : BackfillState} (e e' : BackfillError) :
    Ends (recordTransactionIntegrityBackfillFailure faults true e >>= fun _ =>
        (throw e' : Backfill BackfillReport))
      (fun r st' => (∃ e, r = .error e) ∧ st'.transactions = st.transactions) st := by
  unfold recordTransactionIntegrityBackfillFailure writeSystemAuditEvent
  cases faults.failed.written <;> cases faults.failed.logged <;> exact ⟨⟨_, rfl⟩, rfl⟩

theorem ends_announce : Ends (announceBackfill faults true)
    (fun r st' => match r with
      | .ok _ => (faults.started.written = true ∧ faults.started.logged = true) ∧
          ∃ events', st' = .fresh table events'
      | .error _ => ¬(faults.started.written = true ∧ faults.started.logged = true) ∧
          st'.transactions = table)
    (.fresh table events) := by
  unfold announceBackfill writeSystemAuditEvent
  cases hwritten : faults.started.written <;> cases hlogged : faults.started.logged
  · exact ⟨fun h => Bool.false_ne_true h.1, rfl⟩
  · exact ⟨fun h => Bool.false_ne_true h.1, rfl⟩
  · exact ⟨fun h => Bool.false_ne_true h.2, rfl⟩
  · exact ⟨⟨rfl, rfl⟩, _, rfl⟩

/-- A confirmed run commits the prepared table or leaves the old one. -/
theorem ends_backfill : Ends (backfillTransactionIntegrity hmac config faults true)
    (Left faults (Commits hmac config faults table) table) (.fresh table events) := by
  unfold backfillTransactionIntegrity
  refine Ends.ofExcept_bind (fun e hkeys => ?_) fun _ hkeys => ?_
  · refine left_failed (fun _ h => ?_) rfl
    obtain ⟨keyring, hkeyring⟩ := h.keyring
    rw [hkeyring] at hkeys
    cases hkeys
  have hkeyring : ∃ keyring, validatedKeyring config = .ok keyring := by
    cases hvalidated : validatedKeyring config with
    | ok keyring => exact ⟨keyring, rfl⟩
    | error e =>
        rw [hvalidated] at hkeys
        cases hkeys
  refine ends_announce.bind (fun _ st' h => ?_) fun _ st' h => ?_
  · obtain ⟨hstarted, events', rfl⟩ := h
    have hcommits {rows : List TransactionRow} (h : CommitsRows hmac config faults table rows) :
        Commits hmac config faults table rows := ⟨h, hkeyring, hstarted⟩
    refine Ends.tryCatch ends_runBackfill (fun _ st' h => ?_) fun e st' h => ?_
    · obtain ⟨rows, hrows, hlogged, hsame⟩ := h
      exact ⟨rows, hcommits hrows, hlogged, hsame⟩
    · refine (ends_recordFailure e _).mono ?_
      rintro _ st'' ⟨⟨e', rfl⟩, hkept⟩
      rcases h with ⟨hnone, hsame⟩ | ⟨rows, hrows, hlogged, hsame⟩
      · exact .inl ⟨fun rows h => hnone rows h.toCommitsRows, hkept.trans hsame⟩
      · exact .inr ⟨rows, hcommits hrows, hlogged, hkept.trans hsame⟩
  · exact left_failed (fun _ hcommits => h.1 hcommits.started) h.2

end Commits

/-! ### All or nothing -/

/-- At most the signature of a legacy row has changed. -/
def OnlySigned (row row' : TransactionRow) : Prop :=
  if row.legacy then ∃ sig, row' = row.signed sig else row' = row

section Outcome

variable (hmac : List UInt8 → List UInt8 → List UInt8) (config : LedgerConfig)

structure Backfilled (before after : List TransactionRow) : Prop where
  rows : List.Forall₂ OnlySigned before after
  valid : ∀ row ∈ after, transactionIntegrityStatus hmac config row = .ok .valid

/-- A confirmed run raises and changes nothing, or it signs everything that was left, and later
runs change nothing, however they end. -/
def AllOrNothing (faults : BackfillFaults) (table : List TransactionRow)
    (events : List BackfillEvent) : Prop :=
  Ends (backfillTransactionIntegrity hmac config faults true)
    (fun r st' => match r with
      | .ok _ => Backfilled hmac config table st'.transactions ∧
          ∀ config' faults' events', (after (backfillTransactionIntegrity hmac config' faults' true)
            (.fresh st'.transactions events')).transactions = st'.transactions
      | .error _ => st'.transactions = table)
    (.fresh table events)

variable {hmac config} {faults : BackfillFaults} {table rows : List TransactionRow}
  {events : List BackfillEvent}

theorem onlySigned_of_sign (h : signTransactionIntegrityRows hmac config table = .ok rows) :
    List.Forall₂ OnlySigned table rows := by
  induction table generalizing rows with
  | nil =>
      cases h
      exact .nil
  | cons row table ih =>
      rw [signTransactionIntegrityRows] at h
      obtain ⟨row', hrow, h₁⟩ := returned_bind_iff.mp h
      obtain ⟨rows', hrows, h₂⟩ := returned_bind_iff.mp h₁
      cases h₂
      refine .cons ?_ (ih hrows)
      unfold signLegacyRow at hrow
      unfold OnlySigned
      split at hrow
      · next hlegacy =>
          rw [if_pos hlegacy]
          obtain ⟨sig, -, hsig⟩ := returned_bind_iff.mp hrow
          cases hsig
          exact ⟨_, rfl⟩
      · next hlegacy =>
          rw [if_neg hlegacy]
          cases hrow
          rfl

theorem sign_of_noLegacy (h : ∀ row ∈ table, row.legacy = false) :
    signTransactionIntegrityRows hmac config table = .ok table := by
  induction table with
  | nil => rfl
  | cons row table ih =>
      have hrow := h row (.head _)
      rw [signTransactionIntegrityRows, signLegacyRow, hrow,
        ih fun row hrow => h row (.tail _ hrow)]
      rfl

theorem valid_of_verify (h : verifyRows hmac config rows = .ok ()) :
    ∀ row ∈ rows, transactionIntegrityStatus hmac config row = .ok .valid := by
  induction rows with
  | nil =>
      intro row hrow
      cases hrow
  | cons row rows ih =>
      rw [verifyRows] at h
      obtain ⟨status, hstatus, h₁⟩ := returned_bind_iff.mp h
      split at h₁
      · cases h₁
      · next hvalid =>
          refine List.forall_mem_cons.mpr ⟨?_, ih h₁⟩
          rw [Decidable.not_not.mp hvalid] at hstatus
          unfold statusOf at hstatus
          cases hraw : transactionIntegrityStatus hmac config row with
          | error e =>
              rw [hraw] at hstatus
              cases hstatus
          | ok status' =>
              rw [hraw] at hstatus
              cases hstatus
              rfl

theorem not_legacy_of_valid {row : TransactionRow}
    (h : transactionIntegrityStatus hmac config row = .ok .valid) : row.legacy = false := by
  unfold TransactionRow.legacy
  cases hkey : row.signature.keyId with
  | some keyId => rfl
  | none =>
      unfold transactionIntegrityStatus integrityStatus at h
      rw [hkey] at h
      cases h

theorem Commits.backfilled (h : Commits hmac config faults table rows) :
    Backfilled hmac config table rows := by
  obtain ⟨-, hsigned, hverified⟩ := steps_of_prepared h.rows
  exact ⟨onlySigned_of_sign hsigned, valid_of_verify hverified⟩

/-- The committed table is the old one exactly if there was nothing to sign. -/
theorem Commits.same_iff (h : Commits hmac config faults table rows) :
    rows = table ↔ ∀ row ∈ table, row.legacy = false := by
  constructor
  · rintro rfl row hrow
    exact not_legacy_of_valid (h.backfilled.valid row hrow)
  · intro hnone
    have hsigned := (steps_of_prepared h.rows).2.1
    rw [sign_of_noLegacy hnone] at hsigned
    exact (Except.ok.inj hsigned).symm

/-- A table without legacy rows is not changed. -/
theorem unchanged_of_noLegacy (h : ∀ row ∈ table, row.legacy = false) :
    (after (backfillTransactionIntegrity hmac config faults true)
      (.fresh table events)).transactions = table := by
  have hends : Ends (backfillTransactionIntegrity hmac config faults true)
      (fun _ st' => st'.transactions = table) (.fresh table events) := by
    refine ends_backfill.mono fun r st' hleft => ?_
    cases r with
    | ok report =>
        obtain ⟨rows, hrows, -, hsame⟩ := hleft
        exact hsame.trans (hrows.same_iff.mpr h)
    | error e =>
        rcases hleft with ⟨-, hsame⟩ | ⟨rows, hrows, -, hsame⟩
        · exact hsame
        · exact hsame.trans (hrows.same_iff.mpr h)
  exact hends.after

theorem not_allOrNothing (hcommits : Commits hmac config faults table rows)
    (hlogged : faults.completed.logged = false) {row : TransactionRow} (hrow : row ∈ table)
    (hlegacy : row.legacy = true) : ¬AllOrNothing hmac config faults table events := by
  intro h
  obtain ⟨r, st', hleft, hall⟩ := (ends_backfill.and h).exists
  have hchanged : rows ≠ table := by
    intro hsame
    have hnone := hcommits.same_iff.mp hsame row hrow
    rw [hlegacy] at hnone
    cases hnone
  cases r with
  | ok report =>
      obtain ⟨-, -, hlogged', -⟩ := hleft
      rw [hlogged] at hlogged'
      cases hlogged'
  | error e =>
      rcases hleft with ⟨hnone, -⟩ | ⟨rows', hcommits', -, hsame⟩
      · exact hnone rows hcommits
      · have heq := hcommits.rows.symm.trans hcommits'.rows
        rw [← Except.ok.inj heq] at hsame
        exact hchanged (hsame.symm.trans hall)

variable (hmac config faults table events) in
/-- The backfill is all or nothing exactly if the log after the commit does not fail, or there
is nothing to sign, or the commit is not reached. -/
theorem backfill_allOrNothing_iff : AllOrNothing hmac config faults table events ↔
    faults.completed.logged = true ∨ (∀ row ∈ table, row.legacy = false) ∨
      ∀ rows, ¬Commits hmac config faults table rows := by
  constructor
  · intro h
    cases hlogged : faults.completed.logged with
    | true => exact .inl rfl
    | false =>
        cases hany : table.any TransactionRow.legacy with
        | false => exact .inr (.inl fun row hrow => Bool.eq_false_iff.mpr
            (List.any_eq_false.mp hany row hrow))
        | true =>
            obtain ⟨row, hrow, hlegacy⟩ := List.any_eq_true.mp hany
            exact .inr (.inr fun rows hcommits =>
              not_allOrNothing hcommits hlogged hrow hlegacy h)
  · intro h
    refine ends_backfill.mono fun r st' hleft => ?_
    cases r with
    | ok report =>
        obtain ⟨rows, hrows, -, rfl⟩ := hleft
        refine ⟨hrows.backfilled, fun config' faults' events' => ?_⟩
        exact unchanged_of_noLegacy fun row hrow =>
          not_legacy_of_valid (hrows.backfilled.valid row hrow)
    | error e =>
        rcases hleft with ⟨-, hsame⟩ | ⟨rows, hrows, hlogged, hsame⟩
        · exact hsame
        · rcases h with hlogged' | hnone | hcommits
          · rw [hlogged] at hlogged'
            cases hlogged'
          · exact hsame.trans (hrows.same_iff.mpr hnone)
          · exact absurd hrows (hcommits rows)

end Outcome

/-! ### A legacy payment -/

/-- The payment of June, before it was signed. -/
def legacyRow : TransactionRow := payupRow.signed ⟨none, none, none, none⟩

/-- Nothing fails but the last line of the log. -/
def unloggedFaults : BackfillFaults where
  started := ⟨true, true⟩
  loaded := true
  flushed := true
  completed := ⟨true, false⟩
  committed := true
  dryRun := ⟨true, true⟩
  failed := ⟨true, true⟩

/-- The run raises, and the payment is signed in the committed table. -/
theorem unlogged_notAllOrNothing :
    ¬AllOrNothing payupHmac juneKeys unloggedFaults [legacyRow] [] := by
  have hcommits : Commits payupHmac juneKeys unloggedFaults [legacyRow]
      [legacyRow.signed payupSignature.stored] :=
    { loaded := rfl, rows := rfl, flushed := rfl, written := rfl, committed := rfl
      keyring := ⟨_, rfl⟩, started := ⟨rfl, rfl⟩ }
  exact not_allOrNothing hcommits rfl (.head _) rfl

end SitBank.Security
