import SitBank.Python.Json
import SitBank.Python.Time

/-!
The hash chain of the audit log (`app/security/audit.py`).

Every row carries the hash of its canonical payload, which contains the hash of
the row before it. The two hash functions are parameters; the HMAC key is fixed
in the first of them. `verifyAuditHashChain` is the loop of the source, and
`Linked` what an accepted table amounts to. The texts that error entries carry
besides their reason and field are left out.
-/

namespace SitBank.Audit

open SitBank.Python

/-- A row of `security_audit_events`. -/
structure SecurityAuditEvent where
  id : ℤ
  eventType : String
  outcome : String
  userId : Option ℤ
  ipAddress : String
  userAgent : String
  correlationId : String
  sessionRef : Option String
  eventMetadata : Json
  previousEventHash : Option String
  eventHash : Option String
  hashAlgorithm : String
  createdAt : ℤ

/-- The rows in the order of their ids. -/
structure AuditTable where
  rows : List SecurityAuditEvent
  sorted : rows.Pairwise fun e e' => e.id < e'.id

theorem sorted_nil : ([] : List SecurityAuditEvent).Pairwise fun e e' => e.id < e'.id := .nil

structure AuditConfig where
  /-- `SECURITY_AUDIT_HMAC_KEY` has at least 32 characters. -/
  keyUsable : Bool
  /-- `hmac.new(key, payload, hashlib.sha256).hexdigest()`. -/
  hmacSha256 : List Char → String
  /-- `hashlib.sha256(payload).hexdigest()`. -/
  sha256 : List Char → String

def auditHashAlgorithm : String := "hmac-sha256-v1"

def legacyAuditHashAlgorithm : String := "sha256-v1"

def auditChainStartHash : String := String.ofList (List.replicate 64 '0')

/-! ### Hashes -/

def utcIso (instant : ℤ) : String := isoFormat instant ++ "Z"

/-- Python's truth value of a JSON value. -/
def truthy : Json → Bool
  | .null => false
  | .bool b => b
  | .int n => n ≠ 0
  | .float x => x.text ≠ "0.0".toList && x.text ≠ "-0.0".toList
  | .str s => s ≠ []
  | .arr items => !items.isEmpty
  | .obj pairs => !pairs.isEmpty

/-- `event.event_metadata or {}`, canonical: keys are strings already, and
`sort_keys` sorts them. -/
def canonicalMetadata (metadata : Json) : Json := if truthy metadata then metadata else .obj []

def textField (s : String) : Json := .str (.ofString s)

def optionalText (s : Option String) : Json :=
  match s with
  | none => .null
  | some s => textField s

def optionalInt (n : Option ℤ) : Json :=
  match n with
  | none => .null
  | some n => .int n

/-- The dictionary of `_canonical_audit_event_payload`. -/
def payloadFields (e : SecurityAuditEvent) : List (PyStr × Json) :=
  [(.ofString "event_type", textField e.eventType),
    (.ofString "outcome", textField e.outcome),
    (.ofString "user_id", optionalInt e.userId),
    (.ofString "ip_address", textField e.ipAddress),
    (.ofString "user_agent", textField e.userAgent),
    (.ofString "correlation_id", textField e.correlationId),
    (.ofString "session_ref", optionalText e.sessionRef),
    (.ofString "event_metadata", canonicalMetadata e.eventMetadata),
    (.ofString "created_at", textField (utcIso e.createdAt)),
    (.ofString "previous_event_hash", optionalText e.previousEventHash)]

def canonicalAuditEventPayload (e : SecurityAuditEvent) : List Char :=
  dumps (sortKeys (.obj (payloadFields e)))

/-- `event.hash_algorithm or LEGACY_AUDIT_HASH_ALGORITHM`. -/
def eventAlgorithm (e : SecurityAuditEvent) : String :=
  if e.hashAlgorithm = "" then legacyAuditHashAlgorithm else e.hashAlgorithm

/-- `none` where the source raises: the key is missing, or the algorithm is not
supported. -/
def computeAuditEventHash (cfg : AuditConfig) (e : SecurityAuditEvent) : Option String :=
  if eventAlgorithm e = auditHashAlgorithm then
    if cfg.keyUsable then some (cfg.hmacSha256 (canonicalAuditEventPayload e)) else none
  else if eventAlgorithm e = legacyAuditHashAlgorithm then
    some (cfg.sha256 (canonicalAuditEventPayload e))
  else none

/-! ### Verification -/

/-- The fields of an anchor that an error can name. -/
inductive AnchorField
  | hashAlgorithm
  | chainStart
  | valid
  | eventCount
  | verifiedEventCount
  | legacyUnhashedEventCount
  | latestEventId
  | latestEventHash
  deriving DecidableEq, Repr

inductive ChainReason
  | missingEventHash
  | unsupportedHashAlgorithm
  | previousHashMismatch
  | hashComputeFailed
  | eventHashMismatch
  | anchorMismatch (field : AnchorField)
  | anchorMalformed (field : AnchorField)
  | anchorCurrentBehind (field : AnchorField)
  | anchorEventMissing
  | anchorEventHashMismatch
  deriving DecidableEq, Repr

structure ChainError where
  eventId : ℤ
  reason : ChainReason
  deriving DecidableEq, Repr

/-- At most 20 errors are kept. -/
def appendChainError (errors : List ChainError) (eventId : ℤ) (reason : ChainReason) :
    List ChainError :=
  if 20 ≤ errors.length then errors else errors ++ [⟨eventId, reason⟩]

/-- `not event.event_hash` is false. -/
def hashed (e : SecurityAuditEvent) : Bool :=
  match e.eventHash with
  | none => false
  | some h => h ≠ ""

/-- `appendChainError` when the test fails. -/
def expect (test : Bool) (eventId : ℤ) (reason : ChainReason) (errors : List ChainError) :
    List ChainError :=
  if test then errors else appendChainError errors eventId reason

/-- For a stored hash that is not ASCII `compare_digest` raises `TypeError`, and the
verification with it; here it is a mismatch like any other. -/
def verifyHashedAuditEvent (cfg : AuditConfig) (e : SecurityAuditEvent) (previousHash : String)
    (errors : List ChainError) : List ChainError :=
  let supported := eventAlgorithm e = auditHashAlgorithm ∨
    eventAlgorithm e = legacyAuditHashAlgorithm
  let errors := expect supported e.id .unsupportedHashAlgorithm errors
  let errors := expect (e.previousEventHash = some previousHash) e.id .previousHashMismatch errors
  match computeAuditEventHash cfg e with
  | none => appendChainError errors e.id .hashComputeFailed
  | some expected => expect (e.eventHash = some expected) e.id .eventHashMismatch errors

/-- The variables of the loop. -/
structure ChainState where
  previousHash : String
  chainStarted : Bool
  verifiedEventCount : ℕ
  legacyUnhashedEventCount : ℕ
  latestEventId : Option ℤ
  latestEventHash : Option String
  errors : List ChainError

def ChainState.initial : ChainState := ⟨auditChainStartHash, false, 0, 0, none, none, []⟩

def verifyEvent (cfg : AuditConfig) (st : ChainState) (e : SecurityAuditEvent) : ChainState :=
  match e.eventHash with
  | none => missing st e
  | some h =>
      if h = "" then missing st e
      else { st with
        previousHash := h
        chainStarted := true
        verifiedEventCount := st.verifiedEventCount + 1
        latestEventId := some e.id
        latestEventHash := some h
        errors := verifyHashedAuditEvent cfg e st.previousHash st.errors }
where
  /-- `_record_missing_event_hash`. -/
  missing (st : ChainState) (e : SecurityAuditEvent) : ChainState :=
    if st.chainStarted then { st with
      errors := appendChainError st.errors e.id .missingEventHash }
    else { st with legacyUnhashedEventCount := st.legacyUnhashedEventCount + 1 }

def verifyEvents (cfg : AuditConfig) (st : ChainState) (rows : List SecurityAuditEvent) :
    ChainState :=
  rows.foldl (verifyEvent cfg) st

/-- `verify_audit_hash_chain` without an anchor. -/
def verifyAuditHashChain (cfg : AuditConfig) (table : AuditTable) : ChainState :=
  verifyEvents cfg .initial table.rows

/-- `result["valid"]`. -/
def ChainState.valid (st : ChainState) : Bool := st.errors.isEmpty

/-- The hashed rows, in the order of their ids. -/
def AuditTable.hashedRows (table : AuditTable) : List SecurityAuditEvent := table.rows.filter hashed

/-! ### What is accepted -/

/-- Each row names the hash before it and has its own. -/
def Linked (cfg : AuditConfig) : String → List SecurityAuditEvent → Prop
  | _, [] => True
  | previous, e :: rows => e.previousEventHash = some previous ∧
      ∃ h, e.eventHash = some h ∧ computeAuditEventHash cfg e = some h ∧ Linked cfg h rows

theorem appendChainError_ne_nil (errors : List ChainError) (eventId : ℤ) (reason : ChainReason) :
    appendChainError errors eventId reason ≠ [] := by
  unfold appendChainError
  split
  · next h =>
      rintro rfl
      exact absurd h (by decide)
  · simp

theorem expect_eq_nil {test : Bool} {eventId : ℤ} {reason : ChainReason}
    {errors : List ChainError} (h : expect test eventId reason errors = []) :
    test = true ∧ errors = [] := by
  unfold expect at h
  split at h
  · next ht => exact ⟨ht, h⟩
  · exact absurd h (appendChainError_ne_nil _ _ _)

theorem verifyHashedAuditEvent_eq_nil {cfg : AuditConfig} {e : SecurityAuditEvent}
    {previousHash : String} {errors : List ChainError}
    (h : verifyHashedAuditEvent cfg e previousHash errors = []) :
    errors = [] ∧ e.previousEventHash = some previousHash ∧
      ∃ expected, computeAuditEventHash cfg e = some expected ∧ e.eventHash = some expected := by
  unfold verifyHashedAuditEvent at h
  dsimp only at h
  split at h
  · exact absurd h (appendChainError_ne_nil _ _ _)
  · next expected hexp =>
      obtain ⟨hhash, h⟩ := expect_eq_nil h
      obtain ⟨hprev, h⟩ := expect_eq_nil h
      obtain ⟨_, h⟩ := expect_eq_nil h
      exact ⟨h, of_decide_eq_true hprev, expected, hexp, of_decide_eq_true hhash⟩

theorem hashed_iff {e : SecurityAuditEvent} :
    hashed e = true ↔ ∃ h, e.eventHash = some h ∧ h ≠ "" := by
  unfold hashed
  split
  · next hnone => simp [hnone]
  · next h hsome => simp [hsome]

/-- What one row does to the state. -/
theorem verifyEvent_hashed {cfg : AuditConfig} {st : ChainState} {e : SecurityAuditEvent}
    {h : String} (he : e.eventHash = some h) (hne : h ≠ "") :
    verifyEvent cfg st e = { st with
      previousHash := h
      chainStarted := true
      verifiedEventCount := st.verifiedEventCount + 1
      latestEventId := some e.id
      latestEventHash := some h
      errors := verifyHashedAuditEvent cfg e st.previousHash st.errors } := by
  unfold verifyEvent
  rw [he]
  exact if_neg hne

theorem verifyEvent_missing {cfg : AuditConfig} {st : ChainState} {e : SecurityAuditEvent}
    (h : hashed e = false) : verifyEvent cfg st e = verifyEvent.missing st e := by
  unfold verifyEvent
  unfold hashed at h
  split
  · rfl
  · next h' hsome =>
      rw [hsome] at h
      have : h' = "" := by simpa using h
      exact if_pos this

theorem verifyEvents_snoc (cfg : AuditConfig) (st : ChainState) (rows : List SecurityAuditEvent)
    (e : SecurityAuditEvent) :
    verifyEvents cfg st (rows ++ [e]) = verifyEvent cfg (verifyEvents cfg st rows) e := by
  rw [verifyEvents, List.foldl_append]
  rfl

/-- A run of the loop without errors. -/
theorem linked_of_verifyEvents {cfg : AuditConfig} {st : ChainState}
    {rows : List SecurityAuditEvent} (h : (verifyEvents cfg st rows).errors = []) :
    st.errors = [] ∧ Linked cfg st.previousHash (rows.filter hashed) := by
  induction rows generalizing st with
  | nil => exact ⟨h, trivial⟩
  | cons e rows ih =>
      have hrest : (verifyEvents cfg (verifyEvent cfg st e) rows).errors = [] := h
      obtain ⟨herr, hlinked⟩ := ih hrest
      cases he : hashed e with
      | false =>
          rw [verifyEvent_missing he] at herr hlinked
          rw [List.filter_cons_of_neg (by rw [he]; decide)]
          unfold verifyEvent.missing at herr hlinked
          split at herr
          · exact absurd herr (appendChainError_ne_nil _ _ _)
          · next hstarted =>
              rw [if_neg hstarted] at hlinked
              exact ⟨herr, hlinked⟩
      | true =>
          obtain ⟨hash, hhash, hne⟩ := hashed_iff.mp he
          rw [verifyEvent_hashed hhash hne] at herr hlinked
          obtain ⟨hnil, hprev, expected, hexp, hexp'⟩ := verifyHashedAuditEvent_eq_nil herr
          rw [List.filter_cons_of_pos he]
          rw [hhash] at hexp'
          cases hexp'
          exact ⟨hnil, hprev, hash, hhash, hexp, hlinked⟩

theorem linked_of_valid {cfg : AuditConfig} {table : AuditTable}
    (h : (verifyAuditHashChain cfg table).valid = true) :
    Linked cfg auditChainStartHash table.hashedRows := by
  have herr : (verifyEvents cfg .initial table.rows).errors = [] := List.isEmpty_iff.mp h
  exact (linked_of_verifyEvents herr).2

end SitBank.Audit
