import SitBank.Audit.Writer
import SitBank.Interaction.Call
import SitBank.Python.JsonLoads

/-!
The baseline of the database integrity check (`app/security/alerts.py`).

A state file holds the row count and the largest id of some tables. A check compares a
snapshot with it, and replaces it if nothing went back; a rebaseline moves it away and writes
a new one. Every file operation and every audit event may fail. The file may hold anything at
first; the parser and `int` are parameters, and what was written is read back. Ids are handed
out by sequences and are not negative.

The temporary file is never read, and is left out.
-/

namespace SitBank.Security

open SitBank.Interaction SitBank.Python SitBank.Audit

/-! ### Snapshots -/

/-- `DATABASE_INTEGRITY_TABLES`. -/
inductive IntegrityTable
  | securityAuditEvents
  | users
  deriving DecidableEq, Repr

def IntegrityTable.name : IntegrityTable → PyStr
  | .securityAuditEvents => .ofString "security_audit_events"
  | .users => .ofString "users"

structure TableMetrics where
  count : ℕ
  maxId : Option ℕ
  deriving DecidableEq, Repr

structure Snapshot where
  generatedAt : String
  tables : IntegrityTable → TableMetrics

def databaseIntegrityStateVersion : ℤ := 1

def TableMetrics.json (m : TableMetrics) : Json :=
  .obj [(.ofString "count", .int m.count),
    (.ofString "max_id", match m.maxId with
      | none => .null
      | some n => .int n)]

def Snapshot.json (s : Snapshot) : Json :=
  .obj [(.ofString "message", .str (.ofString "security_alert_database_integrity_state")),
    (.ofString "version", .int databaseIntegrityStateVersion),
    (.ofString "generated_at", .str (.ofString s.generatedAt)),
    (.ofString "tables", .obj
      [(IntegrityTable.securityAuditEvents.name, (s.tables .securityAuditEvents).json),
        (IntegrityTable.users.name, (s.tables .users).json)])]

/-- `json.dumps(state, separators=(",", ":"), sort_keys=True) + "\n"`. -/
def Snapshot.text (s : Snapshot) : List Char := dumps (sortKeys s.json) ++ ['\n']

/-! ### The file -/

/-- What a file holds, as UTF-8. -/
inductive FileText
  | text (s : List Char)
  | undecodable
  deriving DecidableEq, Repr

/-- `int(x)` of a float. -/
inductive FloatInt
  | finite (n : ℤ)
  | nan
  | infinite
  deriving DecidableEq, Repr

structure StateFormat where
  loads : List Char → Except JsonFault Json
  loads_text : ∀ s : Snapshot, loads s.text = .ok (sortKeys s.json)
  /-- `int(s)` of a text, where it does not raise. -/
  intOfText : PyStr → Option ℤ
  intOfFloat : FloatText → FloatInt

/-- The state file, and its backups, newest first. -/
structure StateFiles where
  state : Option FileText
  backups : List FileText
  deriving DecidableEq, Repr

inductive BaselineError
  | alertConfiguration (message : String)
  | auditWriteError
  | loggingError
  | databaseError
  | osError
  | overflowError
  deriving DecidableEq, Repr

abbrev BaselineCall (α : Type) := Call StateFiles BaselineError α

/-- The steps of `_write_database_integrity_state` that succeed. -/
structure WriteSteps where
  pathSafe : Bool
  directory : Bool
  written : Bool
  temporaryChmod : Bool
  replaced : Bool
  stateChmod : Bool

def notWritable : BaselineError := .alertConfiguration "SECURITY_ALERT_STATE_PATH is not writable"

/-- The new file is in its place. -/
def WriteSteps.placed (steps : WriteSteps) : Bool :=
  steps.pathSafe && steps.directory && steps.written && steps.temporaryChmod && steps.replaced

def writeDatabaseIntegrityState (steps : WriteSteps) (s : Snapshot) : BaselineCall Unit := do
  raiseIf (!steps.pathSafe) (.alertConfiguration "SECURITY_ALERT_STATE_PATH is unsafe")
  raiseIf (!steps.directory) notWritable
  raiseIf (!steps.written) notWritable
  raiseIf (!steps.temporaryChmod) notWritable
  raiseIf (!steps.replaced) notWritable
  modify fun files => { files with state := some (.text s.text) }
  raiseIf (!steps.stateChmod) notWritable

/-! ### Rebaselining -/

/-- The checks before anything is done, in their order. -/
structure Preflight where
  intentionalReset : Bool
  reasonGiven : Bool
  statePathConfigured : Bool
  anchorPathConfigured : Bool
  statePathSafe : Bool
  anchorReadable : Bool
  chainAccepted : Bool

structure Rebaseline where
  preflight : Preflight
  started : AuditStep
  /-- The snapshot, where taking it does not raise. -/
  snapshot : Option Snapshot
  moved : Bool
  backupChmod : Bool
  write : WriteSteps
  restored : Bool
  failed : AuditStep
  completed : AuditStep

def Preflight.check (p : Preflight) : BaselineCall Unit := do
  raiseIf (!p.intentionalReset) (.alertConfiguration
    "Rebaseline requires explicit --intentional-reset acknowledgement")
  raiseIf (!p.reasonGiven) (.alertConfiguration "Rebaseline requires a non-empty --reason")
  raiseIf (!p.statePathConfigured) (.alertConfiguration "SECURITY_ALERT_STATE_PATH is required")
  raiseIf (!p.anchorPathConfigured) (.alertConfiguration "SECURITY_AUDIT_ANCHOR_PATH is required")
  raiseIf (!p.statePathSafe) (.alertConfiguration "SECURITY_ALERT_STATE_PATH is unsafe")
  raiseIf (!p.anchorReadable) (.alertConfiguration "SECURITY_AUDIT_ANCHOR_PATH is not readable")
  raiseIf (!p.chainAccepted) (.alertConfiguration
    "Rebaseline refused because audit chain or anchor validation failed")

def auditSystemEventRequired (audit : AuditStep) : BaselineCall Unit := do
  raiseIf (!audit.logged) .loggingError
  raiseIf (!audit.written) .auditWriteError

/-- `audit_system_event`; only its log can raise. -/
def auditSystemEvent (audit : AuditStep) : BaselineCall Unit :=
    raiseIf (!audit.logged) .loggingError

def takeSnapshot (snapshot : Option Snapshot) : BaselineCall Snapshot :=
  match snapshot with
  | none => throw .databaseError
  | some s => pure s

def backupFailed : BaselineError := .alertConfiguration "SECURITY_ALERT_STATE_PATH backup failed"

/-- The state file is moved to a backup; whether there was one. -/
def backUp (r : Rebaseline) : BaselineCall Bool := do
  let files ← get
  match files.state with
  | none => pure false
  | some content => do
      raiseIf (!r.moved) backupFailed
      set (⟨none, content :: files.backups⟩ : StateFiles)
      raiseIf (!r.backupChmod) backupFailed
      pure true

/-- The backup is moved back where the state file is missing. -/
def restoreBackup (r : Rebaseline) (backedUp : Bool) : BaselineCall Unit := do
  let files ← get
  match backedUp, files.state, files.backups with
  | true, none, content :: backups => do
      raiseIf (!r.restored) .osError
      set (⟨some content, backups⟩ : StateFiles)
  | _, _, _ => pure ()

structure RebaselineReport where
  generatedAt : String
  tables : IntegrityTable → TableMetrics
  backupCreated : Bool

def rebaselineDatabaseIntegrityState (r : Rebaseline) : BaselineCall RebaselineReport := do
  r.preflight.check
  auditSystemEventRequired r.started
  let snapshot ← takeSnapshot r.snapshot
  let backedUp ← backUp r
  tryCatch (writeDatabaseIntegrityState r.write snapshot) fun e => do
    restoreBackup r backedUp
    auditSystemEvent r.failed
    throw e
  auditSystemEventRequired r.completed
  pure ⟨snapshot.generatedAt, snapshot.tables, backedUp⟩

/-! ### Checks -/

inductive IntegrityAlert
  | stateUnavailable
  | checkFailed
  | tableRegression (table : IntegrityTable) (previousCount currentCount : ℤ)
      (previousMaxId currentMaxId : ℤ)
  deriving DecidableEq, Repr

section Checks

variable (fmt : StateFormat)

/-- How reading the file fails: as a configuration error or otherwise. -/
inductive ReadFault
  | configuration
  | other
  deriving DecidableEq, Repr

/-- The tables of a document. -/
def tablesOf : Json → Except ReadFault (List (PyStr × Json))
  | .obj pairs =>
      match pairs.lookup (.ofString "tables") with
      | some (.obj tables) => .ok tables
      | _ => .error .configuration
  | _ => .error .configuration

/-- The tables of the state file; `none` where it is missing. -/
def loadDatabaseIntegrityState (readable : Bool) :
    Option FileText → Except ReadFault (Option (List (PyStr × Json)))
  | none => .ok none
  | some .undecodable => .error .configuration
  | some (.text s) =>
      if !readable then .error .configuration
      else match fmt.loads s with
        | .error .decode => .error .configuration
        | .error _ => .error .other
        | .ok document => (tablesOf document).map some

/-- `int(value)`; `none` is a `TypeError` or a `ValueError`. -/
def intOfJson : Json → Except BaselineError (Option ℤ)
  | .int n => .ok (some n)
  | .bool b => .ok (some (if b then 1 else 0))
  | .str s => .ok (fmt.intOfText s)
  | .float x =>
      match fmt.intOfFloat x with
      | .finite n => .ok (some n)
      | .nan => .ok none
      | .infinite => .error .overflowError
  | _ => .ok none

/-- `_state_int`: everything that counts as false is no number or zero. -/
def stateInt (value : Option Json) : Except BaselineError ℤ :=
  (intOfJson fmt (value.getD .null)).map fun n => n.getD 0

def stateOptionalInt (value : Option Json) : Except BaselineError (Option ℤ) :=
  intOfJson fmt (value.getD .null)

/-- The metrics of a table, if they are a dictionary. -/
def metricsOf (tables : List (PyStr × Json)) (table : IntegrityTable) :
    Option (List (PyStr × Json)) :=
  match tables.lookup table.name with
  | some (.obj metrics) => some metrics
  | _ => none

/-- The count and the largest id that are stored for a table. -/
def readMetrics (metrics : List (PyStr × Json)) : Except BaselineError (ℤ × Option ℤ) := do
  let count ← stateInt fmt (metrics.lookup (.ofString "count"))
  let maxId ← stateOptionalInt fmt (metrics.lookup (.ofString "max_id"))
  .ok (count, maxId)

def countRegressed (previous : ℤ) (current : ℕ) : Bool := 0 < previous && current < previous

def idRegressed (previous : Option ℤ) (current : Option ℕ) : Bool :=
  match previous with
  | none => false
  | some p => 0 < p && match current with
    | none => true
    | some c => c < p

def TableMetrics.maxIdOrZero (m : TableMetrics) : ℤ := m.maxId.getD 0

def regressionAlert (table : IntegrityTable) (previous : ℤ × Option ℤ) (current : TableMetrics) :
    Option IntegrityAlert :=
  if countRegressed previous.1 current.count || idRegressed previous.2 current.maxId then
    some (.tableRegression table previous.1 current.count (previous.2.getD 0) current.maxIdOrZero)
  else none

def tableAlerts (tables : List (PyStr × Json)) (s : Snapshot) (table : IntegrityTable) :
    Except BaselineError (List IntegrityAlert) :=
  match metricsOf tables table with
  | none => .ok []
  | some metrics => do
      let previous ← readMetrics fmt metrics
      .ok (regressionAlert table previous (s.tables table)).toList

def databaseIntegrityRegressionAlerts (previous : Option (List (PyStr × Json))) (s : Snapshot) :
    Except BaselineError (List IntegrityAlert) :=
  match previous with
  | none => .ok []
  | some tables => do
      let first ← tableAlerts fmt tables s .securityAuditEvents
      let second ← tableAlerts fmt tables s .users
      .ok (first ++ second)

structure Check where
  updateState : Bool
  snapshot : Option Snapshot
  readable : Bool
  write : WriteSteps

/-- The alerts of a comparison, and the new baseline where there are none. -/
def updateBaseline (c : Check) (s : Snapshot) (alerts : List IntegrityAlert) :
    BaselineCall (List IntegrityAlert) :=
  if c.updateState && alerts.isEmpty then
    tryCatch (do
      writeDatabaseIntegrityState c.write s
      pure alerts) fun _ => pure [.stateUnavailable]
  else pure alerts

def databaseIntegrityAlerts (c : Check) : BaselineCall (List IntegrityAlert) := do
  let files ← get
  match c.snapshot with
  | none => pure [.checkFailed]
  | some s =>
      match loadDatabaseIntegrityState fmt c.readable files.state with
      | .error .configuration => pure [.stateUnavailable]
      | .error .other => pure [.checkFailed]
      | .ok previous => do
          let alerts ← ofExcept (databaseIntegrityRegressionAlerts fmt previous s)
          updateBaseline c s alerts

end Checks

end SitBank.Security
