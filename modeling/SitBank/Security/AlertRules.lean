import Mathlib.Algebra.Group.Action.Defs
import Mathlib.Algebra.Order.BigOperators.Group.List
import Mathlib.Algebra.Order.Ring.Nat
import SitBank.Python.Counter
import SitBank.Redaction.SensitiveUrls
import SitBank.Security.Alerts

/-!
The rules that turn audit events into alerts (`evaluate_security_alerts` in
`app/security/alerts.py`).

Each rule looks at the events of a window that ends with the check, groups them by a source and
reports the sources with enough events. Checks are made again and again, and each sees the events
committed by then. A burst is reported if it ends early enough before a check for all of it to be
in the window (`checks_report`).
-/

namespace SitBank.Security

open SitBank.Python SitBank.Audit SitBank.Redaction

/-! ### Events -/

/-- An alert of the rules, with the fields that the delivery does not look at. -/
structure FoundAlert extends Alert where
  generatedAt : ℤ
  eventId : Option ℤ
  eventType : Option PyStr
  outcome : Option PyStr
  deriving DecidableEq

def immediateAlertEventTypes : List String :=
  ["security_audit_write_failed", "account_lock", "audit_chain_verification_failed",
    "audit_anchor_mismatch", "audit_append_only_protection_failed",
    "runtime_db_privilege_verification_failed", "password_reset_token_reused",
    "manual_recovery_requested", "account_freeze"]

def transactionEventTypes : List String :=
  ["banking_outbound_transfer", "banking_scheduled_transfer_execution",
    "banking_transaction_authorization"]

def passwordResetEventTypes : List String :=
  ["password_reset_requested", "password_reset_failed", "password_reset_mfa_failed",
    "password_reset_token_reused", "manual_recovery_requested"]

section Rules

variable (ops : TextOps) (u : Alphabet)

/-- `_safe_ref`. -/
def safeRef : Option Json → Option PyStr
  | none => none
  | some .null => none
  | some value =>
      let text := safeText ops (ops.str value) 64
      if text = [] then none
      else if text.all fun c => u.isalnum c || c = 45 || c = 95 || c = 58 then some text
      else none

/-- `_metadata(event).get(key)`. -/
def metadataGet (event : SecurityAuditEvent) (key : String) : Option Json :=
  match event.eventMetadata with
  | .obj pairs => pairs.lookup (.ofString key)
  | _ => none

def withPrefix (start : String) (text : PyStr) : PyStr := PyStr.ofString start ++ text

def eventSource (event : SecurityAuditEvent) : PyStr :=
  match safeRef ops u (metadataGet event "principal_ref") with
  | some ref => withPrefix "principal_ref:" ref
  | none =>
      match safeRef ops u (event.sessionRef.map fun ref => .str (.ofString ref)) with
      | some ref => withPrefix "session_ref:" ref
      | none =>
          if event.ipAddress = "" then .ofString "unknown"
          else withPrefix "ip:" (safeText ops (.ofString event.ipAddress) 64)

/-- `_alert`. -/
def newAlert (alertType : String) (severity : Severity) (count : ℕ) (windowSeconds : ℤ)
    (source : PyStr) (now : ℤ) : FoundAlert where
  alertType := safeText ops (.ofString alertType) 80
  severity := severity
  count := count
  windowSeconds := windowSeconds
  source := safeText ops source 160
  generatedAt := now
  eventId := none
  eventType := none
  outcome := none

/-! ### Events that are reported at once -/

def immediateAlertType (event : SecurityAuditEvent) : Option String :=
  if event.eventType ∈ immediateAlertEventTypes then some event.eventType
  else if event.eventType = "session_integrity" ∧ event.outcome = "failure" then
    some "session_integrity_failure"
  else none

def immediateAlert (now : ℤ) (event : SecurityAuditEvent) (alertType : String) : FoundAlert :=
  { newAlert ops alertType .critical 1 (15 * 60) (eventSource ops u event) now with
    eventId := some event.id
    eventType := some (safeText ops (.ofString event.eventType) 120)
    outcome := some (safeText ops (.ofString event.outcome) 120) }

def addImmediateAlerts (events : List SecurityAuditEvent) (now : ℤ) : List FoundAlert :=
  events.filterMap fun event => (immediateAlertType event).map (immediateAlert ops u now event)

/-! ### Bursts -/

/-- What is counted by source, and how many are too many. -/
structure BurstRule where
  alertType : String
  severity : Severity
  windowSeconds : ℤ
  threshold : ℕ
  /-- The key of the counter that an event adds to. -/
  key : SecurityAuditEvent → Option PyStr
  /-- The source of the alert for a key. -/
  source : PyStr → PyStr

/-- In microseconds. -/
def BurstRule.window (rule : BurstRule) : ℤ := rule.windowSeconds * 1000000

def BurstRule.alert (rule : BurstRule) (key : PyStr) (count : ℕ) (now : ℤ) : FoundAlert :=
  newAlert ops rule.alertType rule.severity count rule.windowSeconds (rule.source key) now

def burstAlerts (rule : BurstRule) (events : List SecurityAuditEvent) (now : ℤ) :
    List FoundAlert :=
  let recent := events.filter fun event => now - rule.window ≤ event.createdAt
  ((counter (recent.filterMap rule.key)).filter fun p => rule.threshold ≤ p.2).map fun p =>
    rule.alert ops p.1 p.2 now

def isLoginFailure (event : SecurityAuditEvent) : Bool :=
  event.eventType = "login" && event.outcome = "failure"

def loginByPrincipal : BurstRule where
  alertType := "login_failure_burst"
  severity := .high
  windowSeconds := 5 * 60
  threshold := 10
  key event :=
    if isLoginFailure event then safeRef ops u (metadataGet event "principal_ref") else none
  source := withPrefix "principal_ref:"

def loginByIp : BurstRule where
  alertType := "login_failure_burst"
  severity := .high
  windowSeconds := 5 * 60
  threshold := 10
  key event :=
    if isLoginFailure event ∧ event.ipAddress ≠ "" then
      some (safeText ops (.ofString event.ipAddress) 64)
    else none
  source := withPrefix "ip:"

def addLoginFailureAlerts (events : List SecurityAuditEvent) (now : ℤ) : List FoundAlert :=
  burstAlerts ops (loginByPrincipal ops u) events now ++ burstAlerts ops (loginByIp ops) events now

def authBackoff : BurstRule where
  alertType := "auth_backoff_or_rate_limit_burst"
  severity := .high
  windowSeconds := 10 * 60
  threshold := 5
  key event :=
    if event.eventType ∈ ["auth_backoff", "rate_limit"] then some (eventSource ops u event)
    else none
  source := id

def addAuthBackoffAlerts (events : List SecurityAuditEvent) (now : ℤ) : List FoundAlert :=
  burstAlerts ops (authBackoff ops u) events now

def passwordResetRequests : BurstRule where
  alertType := "password_reset_request_burst"
  severity := .high
  windowSeconds := 10 * 60
  threshold := 5
  key event :=
    if event.eventType ∈ passwordResetEventTypes ∧
        event.eventType ∈ ["password_reset_requested", "manual_recovery_requested"] then
      some (eventSource ops u event)
    else none
  source := id

def passwordResetFailures : BurstRule where
  alertType := "password_reset_failure_burst"
  severity := .high
  windowSeconds := 10 * 60
  threshold := 3
  key event :=
    if event.eventType ∈ passwordResetEventTypes ∧
        event.outcome ∈ ["failure", "blocked", "expired"] then some (eventSource ops u event)
    else none
  source := id

def addPasswordResetAlerts (events : List SecurityAuditEvent) (now : ℤ) : List FoundAlert :=
  burstAlerts ops (passwordResetRequests ops u) events now ++
    burstAlerts ops (passwordResetFailures ops u) events now

def isTransactionFailure (event : SecurityAuditEvent) : Bool :=
  event.eventType ∈ transactionEventTypes &&
    event.outcome ∈ ["failure", "blocked", "denied", "expired"]

def transactionRef (event : SecurityAuditEvent) : PyStr :=
  (((safeRef ops u (metadataGet event "transaction_ref")).or
    (safeRef ops u (metadataGet event "idempotency_key_ref"))).or
    (safeRef ops u (metadataGet event "payee_account_ref"))).getD (.ofString "missing_ref")

def transactionGroup (event : SecurityAuditEvent) : PyStr :=
  let userRef := match event.userId with
    | some id => PyStr.ofString ("user:" ++ toString id)
    | none => .ofString "user:unknown"
  safeText ops (userRef ++ PyStr.ofString ":transaction_ref:" ++ transactionRef ops u event) 160

def transactionFailures : BurstRule where
  alertType := "transaction_failure_burst"
  severity := .high
  windowSeconds := 15 * 60
  threshold := 3
  key event := if isTransactionFailure event then some (transactionGroup ops u event) else none
  source := id

def globalCount (events : List SecurityAuditEvent) (now : ℤ) : ℕ :=
  (events.filter fun event => now - 15 * 60 * 1000000 ≤ event.createdAt).countP
    isTransactionFailure

def addTransactionFailureAlerts (events : List SecurityAuditEvent) (now : ℤ) : List FoundAlert :=
  burstAlerts ops (transactionFailures ops u) events now ++
    if 10 ≤ globalCount events now then
      [newAlert ops "transaction_failure_global_burst" .critical (globalCount events now) (15 * 60)
        (.ofString "global") now]
    else []

/-! ### The check -/

def recentEvents (events : List SecurityAuditEvent) (since : ℤ) : List SecurityAuditEvent :=
  events.filter fun event => since ≤ event.createdAt

def longestWindow : ℤ := 15 * 60 * 1000000

def foundLe (a b : FoundAlert) : Prop := alertLe a.toAlert b.toAlert

instance : DecidableRel foundLe := fun _ _ => inferInstanceAs (Decidable (alertLe _ _))

/-- `evaluate_security_alerts`, for the events in the order of their ids. -/
def evaluateSecurityAlerts (table : List SecurityAuditEvent) (now : ℤ) : List FoundAlert :=
  let events := recentEvents table (now - longestWindow)
  (addImmediateAlerts ops u events now ++ addLoginFailureAlerts ops u events now ++
    addAuthBackoffAlerts ops u events now ++ addPasswordResetAlerts ops u events now ++
    addTransactionFailureAlerts ops u events now).insertionSort foundLe

/-! ### What is reported -/

/-- The last rule, which has one source only. -/
def transactionFailuresGlobal : BurstRule where
  alertType := "transaction_failure_global_burst"
  severity := .critical
  windowSeconds := 15 * 60
  threshold := 10
  key event := if isTransactionFailure event then some (.ofString "global") else none
  source := id

def burstRules : List BurstRule :=
  [loginByPrincipal ops u, loginByIp ops, authBackoff ops u, passwordResetRequests ops u,
    passwordResetFailures ops u, transactionFailures ops u, transactionFailuresGlobal]

/-- The events of a source in the window of a check. -/
def BurstRule.occurrences (rule : BurstRule) (key : PyStr) (now : ℤ)
    (events : List SecurityAuditEvent) : ℕ :=
  events.countP fun event => now - rule.window ≤ event.createdAt ∧ rule.key event = some key

variable {ops u} {rule : BurstRule} {now : ℤ} {events : List SecurityAuditEvent} {a : FoundAlert}

theorem countP_keys (key : PyStr) :
    ((events.filter fun event => now - rule.window ≤ event.createdAt).filterMap rule.key).countP
      (fun k => decide (k = key)) = rule.occurrences key now events := by
  rw [List.countP_filterMap, List.countP_filter, BurstRule.occurrences]
  refine List.countP_congr fun event _ => ?_
  cases hkey : rule.key event with
  | none => simp
  | some k => simp [and_comm]

/-- The alerts of a rule are the sources with enough events. -/
theorem mem_burstAlerts (hpos : 0 < rule.threshold) : a ∈ burstAlerts ops rule events now ↔
    ∃ key, rule.threshold ≤ rule.occurrences key now events ∧
      a = rule.alert ops key (rule.occurrences key now events) now := by
  unfold burstAlerts
  simp only [List.mem_map, List.mem_filter, decide_eq_true_eq]
  constructor
  · rintro ⟨⟨key, n⟩, ⟨hmem, hn⟩, rfl⟩
    obtain ⟨-, rfl⟩ := mem_counter.mp hmem
    dsimp only at hn ⊢
    rw [countP_keys] at hn ⊢
    exact ⟨key, hn, rfl⟩
  · rintro ⟨key, hn, rfl⟩
    refine ⟨(key, _), ⟨mem_counter.mpr ⟨lt_of_lt_of_le hpos hn, (countP_keys key).symm⟩, hn⟩, rfl⟩

theorem occurrences_recent (key : PyStr) (hwindow : rule.window ≤ longestWindow) :
    rule.occurrences key now (recentEvents events (now - longestWindow)) =
      rule.occurrences key now events := by
  rw [BurstRule.occurrences, BurstRule.occurrences, recentEvents, List.countP_filter]
  refine List.countP_congr fun event _ => ?_
  simp only [Bool.and_eq_true, decide_eq_true_eq]
  refine ⟨And.left, fun h => ⟨h, ?_⟩⟩
  have hcreated := h.1
  omega

theorem occurrences_global (key : PyStr) :
    transactionFailuresGlobal.occurrences key now events =
      if key = .ofString "global" then globalCount events now else 0 := by
  split
  · next hkey =>
      rw [BurstRule.occurrences, globalCount, List.countP_filter]
      refine List.countP_congr fun event _ => ?_
      subst hkey
      unfold transactionFailuresGlobal BurstRule.window
      cases hfailure : isTransactionFailure event <;> simp [hfailure]
  · next hkey =>
      refine List.countP_eq_zero.mpr fun event _ h => hkey ?_
      have hevent := (of_decide_eq_true h).2
      unfold transactionFailuresGlobal at hevent
      dsimp only at hevent
      split at hevent
      · exact (Option.some.inj hevent).symm
      · cases hevent

theorem mem_globalAlerts : (a ∈ if 10 ≤ globalCount events now then
      [newAlert ops "transaction_failure_global_burst" .critical (globalCount events now) (15 * 60)
        (.ofString "global") now] else []) ↔
    a ∈ burstAlerts ops transactionFailuresGlobal events now := by
  rw [mem_burstAlerts (Nat.succ_pos 9)]
  simp only [occurrences_global]
  constructor
  · intro h
    split at h
    · next hcount =>
        refine ⟨.ofString "global", by rwa [if_pos rfl], ?_⟩
        rw [if_pos rfl]
        exact List.mem_singleton.mp h
    · cases h
  · rintro ⟨key, hcount, rfl⟩
    by_cases hkey : key = .ofString "global"
    · subst hkey
      rw [if_pos rfl] at hcount ⊢
      have hten : 10 ≤ globalCount events now := hcount
      rw [if_pos hten]
      exact List.mem_singleton.mpr rfl
    · rw [if_neg hkey] at hcount
      exact absurd hcount (Nat.not_succ_le_zero 9)

theorem window_le (h : rule ∈ burstRules ops u) : rule.window ≤ longestWindow := by
  simp only [burstRules, List.mem_cons, List.not_mem_nil, or_false] at h
  rcases h with rfl | rfl | rfl | rfl | rfl | rfl | rfl <;> exact of_decide_eq_true rfl

theorem threshold_pos (h : rule ∈ burstRules ops u) : 0 < rule.threshold := by
  simp only [burstRules, List.mem_cons, List.not_mem_nil, or_false] at h
  rcases h with rfl | rfl | rfl | rfl | rfl | rfl | rfl <;> exact Nat.succ_pos _

variable (ops u) in
/-- The event is recent and of a kind that is reported at once. -/
def Immediate (now : ℤ) (events : List SecurityAuditEvent) (a : FoundAlert) : Prop :=
  ∃ event ∈ events, now - longestWindow ≤ event.createdAt ∧
    ∃ alertType, immediateAlertType event = some alertType ∧
      a = immediateAlert ops u now event alertType

variable (ops u) in
/-- A source with enough events in the window of its rule. -/
def Burst (now : ℤ) (events : List SecurityAuditEvent) (a : FoundAlert) : Prop :=
  ∃ rule ∈ burstRules ops u, ∃ key, rule.threshold ≤ rule.occurrences key now events ∧
    a = rule.alert ops key (rule.occurrences key now events) now

theorem burst_iff : Burst ops u now events a ↔
    a ∈ burstAlerts ops (loginByPrincipal ops u) events now ∨
    a ∈ burstAlerts ops (loginByIp ops) events now ∨
    a ∈ burstAlerts ops (authBackoff ops u) events now ∨
    a ∈ burstAlerts ops (passwordResetRequests ops u) events now ∨
    a ∈ burstAlerts ops (passwordResetFailures ops u) events now ∨
    a ∈ burstAlerts ops (transactionFailures ops u) events now ∨
    a ∈ burstAlerts ops transactionFailuresGlobal events now := by
  have hrule : Burst ops u now events a ↔
      ∃ rule ∈ burstRules ops u, a ∈ burstAlerts ops rule events now :=
    exists_congr fun rule => and_congr_right fun h => (mem_burstAlerts (threshold_pos h)).symm
  rw [hrule]
  simp only [burstRules, List.mem_cons, List.not_mem_nil, or_false, exists_eq_or_imp,
    exists_eq_left]

theorem mem_addImmediateAlerts :
    a ∈ addImmediateAlerts ops u (recentEvents events (now - longestWindow)) now ↔
      Immediate ops u now events a := by
  unfold addImmediateAlerts recentEvents Immediate
  simp only [List.mem_filterMap, List.mem_filter, decide_eq_true_eq, Option.map_eq_some_iff]
  constructor
  · rintro ⟨event, ⟨hmem, hrecent⟩, alertType, htype, rfl⟩
    exact ⟨event, hmem, hrecent, alertType, htype, rfl⟩
  · rintro ⟨event, hmem, hrecent, alertType, htype, rfl⟩
    exact ⟨event, ⟨hmem, hrecent⟩, alertType, htype, rfl⟩

/-- No rule looks further back than the check does. -/
theorem burst_recent :
    Burst ops u now (recentEvents events (now - longestWindow)) a ↔ Burst ops u now events a :=
  exists_congr fun rule => and_congr_right fun h => exists_congr fun key => by
    rw [occurrences_recent key (window_le h)]

theorem mem_evaluate : a ∈ evaluateSecurityAlerts ops u events now ↔
    Immediate ops u now events a ∨ Burst ops u now events a := by
  rw [← burst_recent, burst_iff, ← mem_addImmediateAlerts]
  unfold evaluateSecurityAlerts addLoginFailureAlerts addAuthBackoffAlerts addPasswordResetAlerts
    addTransactionFailureAlerts
  dsimp only
  rw [(List.perm_insertionSort _ _).mem_iff]
  simp only [List.mem_append, mem_globalAlerts, or_assoc]

/-! ### Checks -/

/-- A row of the audit log, and when it was committed. -/
structure CommittedEvent where
  event : SecurityAuditEvent
  committedAt : ℤ

/-- The rows that a check sees. -/
def visible (log : List CommittedEvent) (now : ℤ) : List SecurityAuditEvent :=
  (log.filter fun e => e.committedAt ≤ now).map CommittedEvent.event

/-- Checks that follow each other within `gap`. -/
def Checks (gap : ℤ) (times : List ℤ) : Prop := times.IsChain fun t t' => t' ≤ t + gap

/-- After each time between two checks there is one within the gap. -/
theorem exists_check {gap first b : ℤ} {rest : List ℤ} (h : Checks gap (first :: rest))
    (hfirst : first ≤ b) (hlater : ∃ t ∈ rest, b ≤ t) : ∃ t ∈ rest, b ≤ t ∧ t ≤ b + gap := by
  induction rest generalizing first with
  | nil =>
      obtain ⟨t, ht, -⟩ := hlater
      exact absurd ht List.not_mem_nil
  | cons t rest ih =>
      obtain ⟨hgap, hrest⟩ := List.isChain_cons_cons.mp h
      by_cases hb : b ≤ t
      · exact ⟨t, .head _, hb, hgap.trans (Int.add_le_add_right hfirst gap)⟩
      · obtain ⟨t', ht', hlate⟩ := hlater
        have hmem : t' ∈ rest := (List.mem_cons.mp ht').resolve_left fun heq => hb (heq ▸ hlate)
        obtain ⟨s, hs, hspan⟩ := ih hrest (not_le.mp hb).le ⟨t', hmem, hlate⟩
        exact ⟨s, .tail _ hs, hspan⟩

/-- What is found at all times together is at least what is found at some time. -/
theorem length_le_sum_countP {α : Type} (times : List ℤ) (found : ℤ → α → Bool) {l : List α}
    (h : ∀ x ∈ l, ∃ t ∈ times, found t x = true) :
    l.length ≤ (times.map fun t => l.countP (found t)).sum := by
  induction l with
  | nil => exact Nat.zero_le _
  | cons x l ih =>
      have hx : 1 ≤ (times.map fun t => if found t x = true then 1 else 0).sum := by
        obtain ⟨t, ht, hfound⟩ := h x (.head _)
        exact List.single_le_sum (fun _ _ => Nat.zero_le _) _
          (List.mem_map.mpr ⟨t, ht, if_pos hfound⟩)
      have hl := ih fun y hy => h y (.tail _ hy)
      have hsum : (times.map fun t => (x :: l).countP (found t)).sum =
          (times.map fun t => l.countP (found t)).sum +
            (times.map fun t => if found t x = true then 1 else 0).sum := by
        rw [← List.sum_map_add]
        simp only [List.countP_cons]
      rw [hsum, List.length_cons]
      omega

variable {log burst : List CommittedEvent} {key : PyStr}

/-- The event is in the window of a check that sees it. -/
def CommittedEvent.within (rule : BurstRule) (t : ℤ) (e : CommittedEvent) : Bool :=
  t - rule.window ≤ e.event.createdAt ∧ e.committedAt ≤ t

theorem countP_within_le (hsub : List.Sublist burst log)
    (hkey : ∀ e ∈ burst, rule.key e.event = some key) (t : ℤ) :
    burst.countP (CommittedEvent.within rule t) ≤ rule.occurrences key t (visible log t) := by
  rw [BurstRule.occurrences, visible, List.countP_map, List.countP_filter]
  refine le_trans (List.countP_mono_left fun e he h => ?_) hsub.countP_le
  obtain ⟨hcreated, hcommitted⟩ := of_decide_eq_true h
  simp only [Function.comp, Bool.and_eq_true, decide_eq_true_eq]
  exact ⟨⟨hcreated, hkey e he⟩, hcommitted⟩

variable (ops u) in
/-- At each check exactly the immediate events and the bursts of the window are reported. A burst
that begins at `a` or later and is committed by `b` is reported if `b` plus the gap between checks
is within the window after `a`. If each event alone fits like that, the source is reported unless
each check sees less than the threshold. -/
theorem checks_report (log : List CommittedEvent) (gap first : ℤ) (rest : List ℤ)
    (hchecks : Checks gap (first :: rest)) :
    (∀ t a, a ∈ evaluateSecurityAlerts ops u (visible log t) t ↔
      Immediate ops u t (visible log t) a ∨ Burst ops u t (visible log t) a) ∧
    (∀ rule ∈ burstRules ops u, ∀ key burst, List.Sublist burst log →
      (∀ e ∈ burst, rule.key e.event = some key) →
      (∀ a b, (∀ e ∈ burst, a ≤ e.event.createdAt ∧ e.committedAt ≤ b) →
        rule.threshold ≤ burst.length → first ≤ b → (∃ t ∈ rest, b ≤ t) →
        b + gap ≤ a + rule.window → ∃ t ∈ rest, ∃ n, burst.length ≤ n ∧
          rule.alert ops key n t ∈ evaluateSecurityAlerts ops u (visible log t) t) ∧
      ((∀ e ∈ burst, first ≤ e.committedAt ∧ (∃ t ∈ rest, e.committedAt ≤ t) ∧
          e.committedAt + gap ≤ e.event.createdAt + rule.window) →
        (rule.threshold - 1) * rest.length < burst.length → ∃ t ∈ rest, ∃ n,
          rule.alert ops key n t ∈ evaluateSecurityAlerts ops u (visible log t) t)) ∧
    ∀ e ∈ log, ∀ alertType, immediateAlertType e.event = some alertType →
      first ≤ e.committedAt → (∃ t ∈ rest, e.committedAt ≤ t) →
      e.committedAt + gap ≤ e.event.createdAt + longestWindow → ∃ t ∈ rest,
        immediateAlert ops u t e.event alertType ∈
          evaluateSecurityAlerts ops u (visible log t) t := by
  refine ⟨fun t a => mem_evaluate, ?_, ?_⟩
  · intro rule hrule key burst hsub hkey
    have hreport (t : ℤ) (hcount : rule.threshold ≤ rule.occurrences key t (visible log t)) :
        rule.alert ops key (rule.occurrences key t (visible log t)) t ∈
          evaluateSecurityAlerts ops u (visible log t) t :=
      mem_evaluate.mpr (.inr ⟨rule, hrule, key, hcount, rfl⟩)
    constructor
    · intro a b hburst hcount hfirst hlater hfit
      obtain ⟨t, ht, hbt, htgap⟩ := exists_check hchecks hfirst hlater
      have hall : burst.countP (CommittedEvent.within rule t) = burst.length := by
        refine List.countP_eq_length.mpr fun e he => decide_eq_true ?_
        obtain ⟨hcreated, hcommitted⟩ := hburst e he
        exact ⟨by omega, hcommitted.trans hbt⟩
      have hlength := hall ▸ countP_within_le hsub hkey t
      exact ⟨t, ht, _, hlength, hreport t (hcount.trans hlength)⟩
    · intro hfits hmany
      by_contra hnone
      have hfew : ∀ t ∈ rest, burst.countP (CommittedEvent.within rule t) ≤
          rule.threshold - 1 := by
        intro t ht
        refine (countP_within_le hsub hkey t).trans
          (Nat.le_sub_one_of_lt (not_le.mp fun hcount => ?_))
        exact hnone ⟨t, ht, _, hreport t hcount⟩
      have hsome : ∀ e ∈ burst, ∃ t ∈ rest, CommittedEvent.within rule t e = true := by
        intro e he
        obtain ⟨hfirst, hlater, hfit⟩ := hfits e he
        obtain ⟨t, ht, hbt, htgap⟩ := exists_check hchecks hfirst hlater
        exact ⟨t, ht, decide_eq_true ⟨by omega, hbt⟩⟩
      have hsum := length_le_sum_countP rest (CommittedEvent.within rule) hsome
      have hbound := List.sum_le_card_nsmul (rest.map fun t =>
        burst.countP (CommittedEvent.within rule t)) (rule.threshold - 1) (by
          simpa only [List.forall_mem_map] using hfew)
      rw [List.length_map, smul_eq_mul, Nat.mul_comm] at hbound
      omega
  · intro e he alertType htype hfirst hlater hfit
    obtain ⟨t, ht, hbt, htgap⟩ := exists_check hchecks hfirst hlater
    refine ⟨t, ht, mem_evaluate.mpr (.inl ⟨e.event, ?_, by omega, alertType, htype, rfl⟩)⟩
    exact List.mem_map_of_mem (List.mem_filter.mpr ⟨he, decide_eq_true hbt⟩)

end Rules

/-! ### A sample -/

/-- Letters, digits and nothing else. -/
def asciiAlnum (n : ℕ) : Bool :=
  (48 ≤ n && n ≤ 57) || (65 ≤ n && n ≤ 90) || (97 ≤ n && n ≤ 122)

theorem asciiAlnum_space (n : ℕ) (h : PyStr.strip.spaceCode n = true) : asciiAlnum n = false := by
  have hlow : ∀ n < 123, PyStr.strip.spaceCode n = true → asciiAlnum n = false := by decide
  by_cases hn : n < 123
  · exact hlow n hn h
  · simp only [asciiAlnum, Bool.or_eq_false_iff, Bool.and_eq_false_iff, decide_eq_false_iff_not]
    omega

def asciiAlphabet : Alphabet := ⟨asciiAlnum, fun _ _ => rfl, asciiAlnum_space⟩

/-- A failed login from one address. -/
def failedLogin (second : ℤ) : CommittedEvent :=
  ⟨⟨1, "login", "failure", none, "203.0.113.7", "", "", none, .null, none, none, "",
    second * 1000000⟩, second * 1000000⟩

def failedLoginKey : PyStr := safeText Admin.sampleTextOps (.ofString "203.0.113.7") 64

/-- Ten failures in one second are reported by checks every four minutes. -/
theorem checks_report_logins : ∃ t ∈ [240 * 1000000, 480 * 1000000], ∃ n, 10 ≤ n ∧
    (loginByIp Admin.sampleTextOps).alert Admin.sampleTextOps failedLoginKey n t ∈
      evaluateSecurityAlerts Admin.sampleTextOps asciiAlphabet
        (visible (List.replicate 10 (failedLogin 230)) t) t :=
  ((checks_report Admin.sampleTextOps asciiAlphabet (List.replicate 10 (failedLogin 230))
    (240 * 1000000) 0 [240 * 1000000, 480 * 1000000] (by unfold Checks; decide)).2.1
      (loginByIp Admin.sampleTextOps) (.tail _ (.head _)) failedLoginKey _ (List.Sublist.refl _)
      (fun e he => List.eq_of_mem_replicate he ▸ rfl)).1 (230 * 1000000) (230 * 1000000)
      (fun e he => List.eq_of_mem_replicate he ▸ by decide) (by decide) (by decide) (by decide)
      (by decide)

/-- Eighteen failures in two seconds are not, if a check every five minutes falls in between. -/
example : [300 * 1000000, 600 * 1000000].all (fun t =>
    (evaluateSecurityAlerts Admin.sampleTextOps asciiAlphabet (visible
      (List.replicate 9 (failedLogin 299) ++ List.replicate 9 (failedLogin 301)) t) t).isEmpty) =
    true := by decide +kernel

end SitBank.Security
