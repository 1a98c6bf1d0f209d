import SitBank.Interaction.Machine
import SitBank.Mfa.Envelope

/-!
The command `rewrap-mfa-deks` (`app/ops/commands.py`) beside the requests that store
authenticator secrets (`app/auth/services.py`, `app/admin/services.py`).

The command reads all envelopes in one statement, without locks, and writes the
rewrapped ones back in one transaction. Its `UPDATE` has the ciphertext only: the nonce
is set to the value it had. The same holds for a replacement that finds the row loaded
after the check of the code; a setup has just committed an audit event, so its `UPDATE`
has both columns.

Sessions, time and codes are inputs of a request. The events that the command audits
are its own commits and touch no user; what they and its counters report is not read
by anything else. There is no request context, so the events of `crypto.py` are not
written.
-/

namespace SitBank.Mfa

open SitBank.Interaction SitBank.Python

/-! ### Rows -/

/-- The columns of `users` for authenticator secrets. The last three fields are not
stored: the secret that was enrolled (or started to be) last, the number of the commit
that did, and whether it has not been cleared since. -/
structure MfaRow where
  userId : ℤ
  nonce : Option ByteArray
  ciphertext : Option Ciphertext
  mfaEnabled : Bool
  secret : Option String
  stamp : ℕ
  live : Bool

def MfaRow.enveloped (row : MfaRow) : Bool := isEnvelopedMfaSecret row.nonce row.ciphertext

/-- `_mfa_secret_for_user`. -/
def mfaSecretForUser (cfg : MfaConfig) (row : MfaRow) : Option String :=
  decryptMfaSecret cfg row.nonce row.ciphertext row.userId

/-- `enrolments` counts the commits that stored a secret, `startedAt` of them before the
command started; `rewrapped` is set when the command commits. -/
structure MfaWorld where
  rows : List MfaRow
  enrolments : ℕ
  startedAt : ℕ
  rewrapped : Bool

def updateRow (userId : ℤ) (f : MfaRow → MfaRow) (rows : List MfaRow) : List MfaRow :=
  rows.map fun row => if row.userId = userId then f row else row

/-! ### Operations -/

inductive MfaError
  | click (message : String)
  | auth (message : String) (status : ℕ)
  | frozenAccount (action : String)
  | operational
  deriving DecidableEq, Repr

inductive MfaOp
  /-- The command has passed its checks. -/
  | started
  /-- `_users_with_mfa_secret`. -/
  | usersWithMfaSecret
  /-- The rewrapped envelopes, each with the row it was made from. -/
  | commitRewrapped (updates : List (MfaRow × Ciphertext))
  | readUser (userId : ℤ)
  /-- A new secret; without a nonce, that column is not part of the `UPDATE`. -/
  | commitSecret (userId : ℤ) (nonce : Option ByteArray) (ciphertext : Ciphertext)
      (mfaEnabled : Bool) (secret : String)
  /-- Both columns are set to `NULL`; what was `NULL` when it was read is left alone. -/
  | commitCleared (read : MfaRow)
  | commitEnabled (userId : ℤ)

def MfaRes : MfaOp → Type
  | .usersWithMfaSecret => List MfaRow
  | .readUser _ => Option MfaRow
  | _ => Unit

abbrev MfaReq (α : Type) := Prog MfaOp MfaRes MfaError α

def storeSecret (stamp : ℕ) (nonce : Option ByteArray) (ciphertext : Ciphertext)
    (mfaEnabled : Bool) (secret : String) (row : MfaRow) : MfaRow :=
  { row with
    nonce := nonce.or row.nonce
    ciphertext := some ciphertext
    mfaEnabled := mfaEnabled
    secret := some secret
    stamp := stamp
    live := true }

def clearSecret (read row : MfaRow) : MfaRow :=
  { row with
    nonce := if read.nonce.isSome then none else row.nonce
    ciphertext := if read.ciphertext.isSome then none else row.ciphertext
    live := row.live && read.nonce.isNone && read.ciphertext.isNone }

def storeRewrapped (updates : List (MfaRow × Ciphertext)) (row : MfaRow) : MfaRow :=
  match updates.find? fun u => u.1.userId = row.userId with
  | none => row
  | some u => { row with ciphertext := some u.2 }

/-- What an operation does when the database does not fail. -/
def mfaAct (o : MfaOp) (w : MfaWorld) : MfaRes o × MfaWorld :=
  match o with
  | .started => ((), { w with startedAt := w.enrolments })
  | .usersWithMfaSecret => (w.rows.filter fun row => row.nonce.isSome && row.ciphertext.isSome, w)
  | .commitRewrapped updates =>
      ((), { w with rows := w.rows.map (storeRewrapped updates), rewrapped := true })
  | .readUser userId => (w.rows.find? fun row => row.userId = userId, w)
  | .commitSecret userId nonce ciphertext mfaEnabled secret =>
      ((), { w with
        rows := updateRow userId
          (storeSecret (w.enrolments + 1) nonce ciphertext mfaEnabled secret) w.rows
        enrolments := w.enrolments + 1 })
  | .commitCleared read => ((), { w with rows := updateRow read.userId (clearSecret read) w.rows })
  | .commitEnabled userId =>
      ((), { w with rows := updateRow userId (fun row => { row with mfaEnabled := true }) w.rows })

def started : MfaReq Unit := Prog.perform MfaOp.started

def usersWithMfaSecret : MfaReq (List MfaRow) := Prog.perform MfaOp.usersWithMfaSecret

def commitRewrapped (updates : List (MfaRow × Ciphertext)) : MfaReq Unit :=
  Prog.perform (MfaOp.commitRewrapped updates)

def commitSecret (userId : ℤ) (nonce : Option ByteArray) (ciphertext : Ciphertext)
    (mfaEnabled : Bool) (secret : String) : MfaReq Unit :=
  Prog.perform (MfaOp.commitSecret userId nonce ciphertext mfaEnabled secret)

def commitCleared (read : MfaRow) : MfaReq Unit := Prog.perform (MfaOp.commitCleared read)

def commitEnabled (userId : ℤ) : MfaReq Unit := Prog.perform (MfaOp.commitEnabled userId)

/-! ### The command -/

/-- What the command is called with, and the nonces it draws. -/
structure RewrapArgs where
  fromKekId : PyStr
  toKekId : PyStr
  dryRun : Bool
  dekNonce : ℤ → ByteArray
  size_dekNonce : ∀ userId, (dekNonce userId).size = 12

structure RewrapScan where
  scanned : ℕ
  updated : ℕ
  skippedLegacy : ℕ
  skippedOtherKek : ℕ
  failures : ℕ
  updates : List (MfaRow × Ciphertext)

def emptyScan : RewrapScan := ⟨0, 0, 0, 0, 0, []⟩

/-- `_validate_mfa_rewrap_preflight`: the message of a refusal. -/
def validateMfaRewrapPreflight (cfg : MfaConfig) (args : RewrapArgs) : Option String :=
  if args.fromKekId = args.toKekId then some "from-kek-id and to-kek-id must be different"
  else if (cfg.mfaKekKeys args.fromKekId).isNone then
    some ("Source MFA KEK id is not configured; keep the old KEK in " ++
      "MFA_KEK_KEYS_JSON until stored DEKs are rewrapped")
  else if (cfg.mfaKekKeys args.toKekId).isNone then
    some ("Target MFA KEK id is not configured; add the new KEK id to " ++
      "MFA_KEK_KEYS_JSON before running rewrap-mfa-deks")
  else none

/-- One turn of the loop, for a row whose secret is enveloped. -/
def rewrapEnveloped (cfg : MfaConfig) (args : RewrapArgs) (scan : RewrapScan) (row : MfaRow)
    (ciphertext : Ciphertext) : RewrapScan :=
  match mfaEnvelopeKekId ciphertext with
  | none => { scan with failures := scan.failures + 1 }
  | some kekId =>
      if kekId ≠ args.fromKekId then { scan with skippedOtherKek := scan.skippedOtherKek + 1 }
      else if args.dryRun then { scan with updated := scan.updated + 1 }
      else match rewrapMfaDek cfg ciphertext row.userId (args.dekNonce row.userId)
          args.fromKekId args.toKekId with
        | none => { scan with failures := scan.failures + 1 }
        | some rewrapped =>
            { scan with updated := scan.updated + 1, updates := scan.updates ++ [(row, rewrapped)] }

def rewrapUser (cfg : MfaConfig) (args : RewrapArgs) (scan : RewrapScan) (row : MfaRow) :
    RewrapScan :=
  let scan := { scan with scanned := scan.scanned + 1 }
  if row.enveloped then
    match row.ciphertext with
    | none => scan
    | some ciphertext => rewrapEnveloped cfg args scan row ciphertext
  else { scan with skippedLegacy := scan.skippedLegacy + 1 }

def rewrapUsers (cfg : MfaConfig) (args : RewrapArgs) (rows : List MfaRow) : RewrapScan :=
  rows.foldl (rewrapUser cfg args) emptyScan

/-- The body of the outer `try`. -/
def rewrapTransaction (cfg : MfaConfig) (args : RewrapArgs) : MfaReq RewrapScan := do
  let rows ← usersWithMfaSecret
  let scan := rewrapUsers cfg args rows
  if 0 < scan.failures then
    .raise (.click "MFA DEK rewrap failed; no changes were committed")
  else if args.dryRun then pure scan
  else do
    commitRewrapped scan.updates
    pure scan

def rewrapMfaDeks (cfg : MfaConfig) (args : RewrapArgs) : MfaReq RewrapScan :=
  match validateMfaRewrapPreflight cfg args with
  | some message => .raise (.click message)
  | none => do
      started
      (rewrapTransaction cfg args).tryCatch fun
        | .click message => .raise (.click message)
        | _ => .raise (.click "MFA DEK rewrap failed")

/-! ### Requests -/

def readUserOrError (userId : ℤ) : MfaReq MfaRow :=
  .op (.readUser userId) fun
    | .ok (some row) => pure row
    | .ok none => .raise (.auth "Authentication required" 401)
    | .error e => .raise e

/-- The active key of the process and what it draws for a new secret. -/
structure NewSecret where
  kekId : PyStr
  random : EnvelopeRandom
  secret : String

/-- `encrypt_mfa_secret`, and the commit of both columns. -/
def commitNewSecret (cfg : MfaConfig) (userId : ℤ) (new : NewSecret) (mfaEnabled : Bool) :
    MfaReq Unit :=
  match encryptMfaSecret cfg new.random new.secret userId new.kekId with
  | none => .raise (.auth "Unknown MFA KEK identifier" 500)
  | some (nonce, ciphertext) => commitSecret userId (some nonce) ciphertext mfaEnabled new.secret

/-- `freshMfaRequired`: a method is enrolled, and no code was given recently. -/
def generateMfaSetup (cfg : MfaConfig) (userId : ℤ) (new : NewSecret)
    (frozen freshMfaRequired : Bool) : MfaReq Unit := do
  let row ← readUserOrError userId
  if frozen then .raise (.frozenAccount "MFA setup")
  else if row.mfaEnabled then .raise (.auth "MFA is already enabled" 409)
  else if freshMfaRequired then
    .raise (.auth "Recent MFA verification is required before adding another MFA method" 403)
  else commitNewSecret cfg userId new false

/-- `_require_active_pending_mfa_setup`, for a setup that is not active. -/
def clearPendingMfaSetup (row : MfaRow) : MfaReq Unit :=
  if row.nonce.isSome || row.ciphertext.isSome then commitCleared row
  else pure ()

def pendingMfaSetup (userId : ℤ) (active : Bool) : MfaReq Unit := do
  let row ← readUserOrError userId
  if row.mfaEnabled || row.nonce.isNone || row.ciphertext.isNone || active then pure ()
  else clearPendingMfaSetup row

def verifyMfaSetup (cfg : MfaConfig) (userId : ℤ) (active codeValid : Bool) : MfaReq Unit := do
  let row ← readUserOrError userId
  if active then
    if (mfaSecretForUser cfg row).isSome && codeValid then commitEnabled userId
    else .raise (.auth "Incorrect code. Check your authenticator and try again." 401)
  else do
    clearPendingMfaSetup row
    .raise (.auth "MFA setup expired. Start again." 401)

/-- The pending envelope is that of the browser session. After the code was checked,
the row is `loaded` again, unless another counter was committed. -/
def verifyMfaReplacement (cfg : MfaConfig) (userId : ℤ)
    (pending : Option (ByteArray × Ciphertext)) (frozen codeValid loaded : Bool) :
    MfaReq Unit := do
  let row ← readUserOrError userId
  if frozen then .raise (.frozenAccount "MFA replacement")
  else if !row.mfaEnabled then .raise (.auth "MFA is not enabled" 403)
  else match pending with
    | none => .raise (.auth "No pending MFA replacement" 401)
    | some (nonce, ciphertext) =>
        match decryptMfaSecret cfg (some nonce) (some ciphertext) userId with
        | none => .raise (.auth "No pending MFA replacement" 401)
        | some secret =>
            if !codeValid then
              .raise (.auth "Incorrect code. Check your authenticator and try again." 401)
            else if loaded then do
              let row ← readUserOrError userId
              commitSecret userId (if row.nonce = some nonce then none else some nonce) ciphertext
                true secret
            else commitSecret userId (some nonce) ciphertext true secret

/-- `confirm_own_mfa_change`, for the staff. -/
def confirmOwnMfaChange (cfg : MfaConfig) (userId : ℤ) (new : NewSecret) (codeValid : Bool) :
    MfaReq Unit := do
  let _ ← readUserOrError userId
  if !codeValid then .raise (.auth "Invalid authentication code" 401)
  else commitNewSecret cfg userId new true

inductive MfaRequest
  | generateMfaSetup (userId : ℤ) (new : NewSecret) (frozen freshMfaRequired : Bool)
  | pendingMfaSetup (userId : ℤ) (active : Bool)
  | verifyMfaSetup (userId : ℤ) (active codeValid : Bool)
  | verifyMfaReplacement (userId : ℤ) (pending : Option (ByteArray × Ciphertext))
      (frozen codeValid loaded : Bool)
  | confirmOwnMfaChange (userId : ℤ) (new : NewSecret) (codeValid : Bool)

def MfaRequest.run (cfg : MfaConfig) : MfaRequest → MfaReq Unit
  | .generateMfaSetup userId new frozen freshMfaRequired =>
      Mfa.generateMfaSetup cfg userId new frozen freshMfaRequired
  | .pendingMfaSetup userId active => Mfa.pendingMfaSetup userId active
  | .verifyMfaSetup userId active codeValid => Mfa.verifyMfaSetup cfg userId active codeValid
  | .verifyMfaReplacement userId pending frozen codeValid loaded =>
      Mfa.verifyMfaReplacement cfg userId pending frozen codeValid loaded
  | .confirmOwnMfaChange userId new codeValid => Mfa.confirmOwnMfaChange cfg userId new codeValid

abbrev MfaConf := Conf MfaOp MfaRes MfaError Unit MfaWorld

/-- The command and any number of requests, none of which has started. -/
def mfaStart (cfg : MfaConfig) (args : RewrapArgs) (requests : ℕ → MfaRequest)
    (rows : List MfaRow) : MfaConf where
  world := ⟨rows, 0, 0, false⟩
  prog
    | 0 => (rewrapMfaDeks cfg args).bind fun _ => .ret ()
    | t + 1 => (requests t).run cfg

end SitBank.Mfa
