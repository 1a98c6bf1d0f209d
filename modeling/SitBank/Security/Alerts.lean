import Mathlib.Data.List.Sort
import SitBank.Audit.Chain
import SitBank.Interaction.Call
import SitBank.Python.Dict

/-!
Security alerts and their delivery (`app/security/alerts.py`).

What a run finds is an input: the rules that turn audit events into alerts, and the
checks of the audit chain and of the database, only decide which alerts there are.
A run may be cut off between its steps, the commit of the dedupe records may fail,
and the webhook may answer anything. The final sanitizer rewrites the texts of the
alerts in a body, and is left out.
-/

namespace SitBank.Security

open SitBank.Interaction SitBank.Python SitBank.Audit

/-! ### Alerts -/

inductive Severity
  | low
  | medium
  | high
  | critical
  deriving DecidableEq, Repr

/-- `ALERT_SEVERITY_RANK`. -/
def Severity.rank : Severity → ℕ
  | .low => 10
  | .medium => 20
  | .high => 30
  | .critical => 40

def Severity.text : Severity → String
  | .low => "low"
  | .medium => "medium"
  | .high => "high"
  | .critical => "critical"

structure Alert where
  alertType : PyStr
  severity : Severity
  source : PyStr
  windowSeconds : ℤ
  count : ℕ
  deriving DecidableEq, Repr

inductive WebhookProvider
  | discord
  | generic
  deriving DecidableEq, Repr

/-- What `validate_security_alert_config` returns, and the key of the hashes. -/
structure AlertConfig extends TextOps where
  enabled : Bool
  minSeverity : Severity
  dedupeTtlSeconds : ℕ
  ttl_valid : 60 ≤ dedupeTtlSeconds ∧ dedupeTtlSeconds ≤ 86400
  provider : WebhookProvider
  /-- `active_hmac_hex(message, length=64)`. -/
  activeHmacHex : List Char → String

/-- In microseconds. -/
def AlertConfig.dedupeTtl (cfg : AlertConfig) : ℤ := cfg.dedupeTtlSeconds * 1000000

/-- `" ".join(text.split())`. -/
def compactText (text : PyStr) : PyStr :=
  [32].intercalate ((text.splitOnP PyStr.strip.spaceCode).filter fun word => !word.isEmpty)

def redactedValue : PyStr := .ofString "[redacted]"

def safeText (ops : TextOps) (text : PyStr) (limit : ℕ) : PyStr :=
  let cleaned := text.map fun n => if n < 32 ∨ n = 127 then 32 else n
  let compact := (compactText cleaned).take limit
  if ["bearer ", "basic ", "token "].any fun start =>
      (PyStr.ofString start).isPrefixOf (ops.casefold compact) then redactedValue
  else compact

def alertDedupeKey (ops : TextOps) (alert : Alert) : List Char :=
  dumps (sortKeys (.obj
    [(.ofString "alert_type", .str (safeText ops alert.alertType 80)),
      (.ofString "severity", .str (safeText ops (.ofString alert.severity.text) 24)),
      (.ofString "source", .str (safeText ops alert.source 160)),
      (.ofString "window_seconds", .int alert.windowSeconds)]))

def alertDedupeKeyHash (cfg : AlertConfig) (alert : Alert) : String :=
  cfg.activeHmacHex (alertDedupeKey cfg.toTextOps alert)

def filterAlertsByMinSeverity (cfg : AlertConfig) (alerts : List Alert) : List Alert :=
  alerts.filter fun alert => cfg.minSeverity.rank ≤ alert.severity.rank

/-- The order of the report. -/
def alertLe (a b : Alert) : Prop :=
  strLe a.alertType b.alertType = true ∧
    (a.alertType = b.alertType → strLe a.source b.source = true)

instance : DecidableRel alertLe := fun a b => by
  unfold alertLe
  infer_instance

/-- The alerts of the report. -/
def reportedAlerts (cfg : AlertConfig) (found : List Alert) : List Alert :=
  (filterAlertsByMinSeverity cfg found).insertionSort alertLe

/-! ### Deduplication -/

structure SecurityAlertDedupe where
  dedupeKeyHash : String
  eventType : PyStr
  firstSeenAt : ℤ
  lastSeenAt : ℤ
  expiresAt : ℤ
  count : ℕ
  deriving DecidableEq, Repr

/-- The body of a webhook request: the alerts that it describes, and the number of those
that it does not. -/
structure AlertBody where
  listed : List Alert
  omitted : ℕ
  deriving DecidableEq, Repr

def discordEmbedFieldLimit : ℕ := 10

/-- The body for Discord stops after the first ten alerts. -/
def alertWebhookBody (cfg : AlertConfig) (alerts : List Alert) : AlertBody :=
  match cfg.provider with
  | .discord =>
      let displayed := alerts.take discordEmbedFieldLimit
      ⟨displayed, alerts.length - displayed.length⟩
  | .generic => ⟨alerts, 0⟩

/-- A request that was answered with a status of 2xx, and when. -/
structure SentRequest where
  time : ℤ
  body : AlertBody
  deriving DecidableEq, Repr

/-- The clock counts microseconds. -/
structure AlertWorld where
  clock : ℤ
  records : List SecurityAlertDedupe
  sent : List SentRequest
  deriving DecidableEq, Repr

/-- The state of the loop of `_dedupe_alerts`. -/
structure DedupeState where
  records : List SecurityAlertDedupe
  deliverable : List Alert
  suppressed : ℕ

def eventTypeText (ops : TextOps) (alert : Alert) : PyStr :=
  let text := safeText ops alert.alertType 80
  if text.isEmpty then .ofString "security_alert" else text

/-- The record with this hash changes. -/
def updateRecord (keyHash : String) (f : SecurityAlertDedupe → SecurityAlertDedupe)
    (records : List SecurityAlertDedupe) : List SecurityAlertDedupe :=
  records.map fun r => if r.dedupeKeyHash = keyHash then f r else r

/-- One turn of the loop. A record added before is found again. -/
def dedupeAlert (cfg : AlertConfig) (now : ℤ) (state : DedupeState) (alert : Alert) :
    DedupeState :=
  let keyHash := alertDedupeKeyHash cfg alert
  match state.records.find? fun r => r.dedupeKeyHash = keyHash with
  | some r =>
      if now < r.expiresAt then
        { state with
          records := updateRecord keyHash (fun r => { r with
            count := r.count + 1, lastSeenAt := now }) state.records
          suppressed := state.suppressed + 1 }
      else
        { state with
          records := updateRecord keyHash (fun r => { r with
            eventType := eventTypeText cfg.toTextOps alert
            firstSeenAt := now
            lastSeenAt := now
            expiresAt := now + cfg.dedupeTtl
            count := 1 }) state.records
          deliverable := state.deliverable ++ [alert] }
  | none =>
      { state with
        records := state.records ++ [⟨keyHash, eventTypeText cfg.toTextOps alert, now, now,
          now + cfg.dedupeTtl, 1⟩]
        deliverable := state.deliverable ++ [alert] }

def dedupeState (cfg : AlertConfig) (w : AlertWorld) (alerts : List Alert) : DedupeState :=
  alerts.foldl (dedupeAlert cfg w.clock) ⟨w.records, [], 0⟩

/-! ### Runs -/

/-- Where a run can be cut off. -/
inductive RunPoint
  | beforeCommit
  | beforeAnswer
  | beforeReport
  deriving DecidableEq, Repr

/-- What becomes of the request to the webhook. -/
inductive Answer
  /-- The URL cannot be read any more, or is not acceptable. -/
  | noUrl
  | raised
  | status (code : ℕ)
  deriving DecidableEq, Repr

def Answer.accepted : Answer → Bool
  | .status code => 200 ≤ code && code < 300
  | _ => false

structure AlertRun where
  deliver : Bool
  /-- The configuration is refused. -/
  misconfigured : Bool
  /-- What the rules find. -/
  found : List Alert
  exit : Option RunPoint
  commitFails : Bool
  answer : Answer
  /-- How long the answer takes, in microseconds. -/
  delay : ℕ

inductive AlertError
  | configuration
  | processExit
  deriving DecidableEq, Repr

abbrev AlertCall (α : Type) := Call AlertWorld AlertError α

/-- The entry `delivery` of the report. -/
structure Delivery where
  attempted : Bool
  delivered : Option Bool
  deduped : Bool
  deriving DecidableEq, Repr

structure AlertReport where
  alerts : List Alert
  deliverableAlertCount : ℕ
  suppressed : ℕ
  delivery : Delivery
  deriving DecidableEq, Repr

def exitAt (run : AlertRun) (point : RunPoint) : AlertCall Unit :=
  raiseIf (run.exit = some point) .processExit

/-- `none` when the commit fails: the records are rolled back, and the caller catches
the exception. -/
def dedupeAlerts (cfg : AlertConfig) (run : AlertRun) (alerts : List Alert) :
    AlertCall (Option DedupeState) := do
  exitAt run .beforeCommit
  let w ← get
  let state := dedupeState cfg w alerts
  if run.commitFails then pure none
  else do
    modify fun w => { w with records := state.records }
    pure (some state)

def deliverSecurityAlerts (cfg : AlertConfig) (run : AlertRun) (alerts : List Alert) :
    AlertCall Delivery := do
  exitAt run .beforeAnswer
  modify fun w => { w with clock := w.clock + run.delay }
  match run.answer with
  | .noUrl => pure ⟨false, some false, false⟩
  | .raised => pure ⟨true, some false, false⟩
  | .status code => do
      modify fun w =>
        if (Answer.status code).accepted then
          { w with sent := w.sent ++ [⟨w.clock, alertWebhookBody cfg alerts⟩] }
        else w
      pure ⟨true, some (Answer.status code).accepted, false⟩

/-- The delivery of a run, with the number of alerts that it was for and the number of
those that were not sent again. -/
def deliverFound (cfg : AlertConfig) (run : AlertRun) (alerts : List Alert) :
    AlertCall (Delivery × ℕ × ℕ) := do
  let state ← dedupeAlerts cfg run alerts
  match state with
  | none => pure (⟨false, some false, false⟩, alerts.length, 0)
  | some state =>
      if state.deliverable.isEmpty then pure (⟨false, some true, true⟩, 0, state.suppressed)
      else do
        let delivery ← deliverSecurityAlerts cfg run state.deliverable
        pure (delivery, state.deliverable.length, state.suppressed)

/-- Nothing is delivered when nobody asks for it, or alerting is off. -/
def deliverIfEnabled (cfg : AlertConfig) (run : AlertRun) (alerts : List Alert) :
    AlertCall (Delivery × ℕ × ℕ) :=
  if run.deliver && !alerts.isEmpty && cfg.enabled then deliverFound cfg run alerts
  else pure (⟨false, none, false⟩, alerts.length, 0)

def buildSecurityAlertReport (cfg : AlertConfig) (run : AlertRun) : AlertCall AlertReport := do
  raiseIf run.misconfigured .configuration
  let alerts := reportedAlerts cfg run.found
  let (delivery, count, suppressed) ← deliverIfEnabled cfg run alerts
  exitAt run .beforeReport
  pure ⟨alerts, count, suppressed, delivery⟩

end SitBank.Security
