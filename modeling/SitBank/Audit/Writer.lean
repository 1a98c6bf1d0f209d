import Mathlib.Data.List.Infix
import Mathlib.Algebra.Order.Ring.Int
import SitBank.Audit.Chain

/-!
Writing audit events (`_audit_event` in `app/security/audit.py`).

A writer reads the latest hash, computes the hash of its own event over it and
inserts the row under the next id of the sequence. A row that is added this way to
a table that the verification accepts leaves it accepted.
-/

namespace SitBank.Audit

open SitBank.Python

/-- What an event says, before it is hashed. -/
structure AuditDraft where
  eventType : String
  outcome : String
  userId : Option ℤ
  ipAddress : String
  userAgent : String
  correlationId : String
  sessionRef : Option String
  eventMetadata : Json
  createdAt : ℤ

/-- How the writing of a system event ends: it is written, and so is its log record. -/
structure AuditStep where
  written : Bool
  logged : Bool

/-- The latest row that has a hash: `event_hash IS NOT NULL ORDER BY id DESC`. -/
def latestHashedRow (rows : List SecurityAuditEvent) : Option SecurityAuditEvent :=
  rows.reverse.find? fun e => e.eventHash.isSome

/-- `str(latest_hash or AUDIT_CHAIN_START_HASH)`. -/
def latestAuditEventHash (rows : List SecurityAuditEvent) : String :=
  match (latestHashedRow rows).bind (·.eventHash) with
  | none => auditChainStartHash
  | some h => if h = "" then auditChainStartHash else h

/-- The row of a draft, without its own hash. -/
def AuditDraft.row (d : AuditDraft) (id : ℤ) (previous : String) : SecurityAuditEvent where
  id := id
  eventType := d.eventType
  outcome := d.outcome
  userId := d.userId
  ipAddress := d.ipAddress
  userAgent := d.userAgent
  correlationId := d.correlationId
  sessionRef := d.sessionRef
  eventMetadata := d.eventMetadata
  previousEventHash := some previous
  eventHash := none
  hashAlgorithm := auditHashAlgorithm
  createdAt := d.createdAt

/-- The event that is inserted; `none` where computing the hash raises. -/
def newAuditEvent (cfg : AuditConfig) (rows : List SecurityAuditEvent) (id : ℤ) (d : AuditDraft) :
    Option SecurityAuditEvent :=
  let e := d.row id (latestAuditEventHash rows)
  (computeAuditEventHash cfg e).map fun h => { e with eventHash := some h }

/-- `hexdigest` returns 64 characters. -/
def HexDigest (cfg : AuditConfig) : Prop := ∀ m, (cfg.hmacSha256 m).length = 64

theorem HexDigest.ne_empty {cfg : AuditConfig} (h : HexDigest cfg) (m : List Char) :
    cfg.hmacSha256 m ≠ "" := by
  intro heq
  have := h m
  rw [heq] at this
  cases this

theorem newAuditEvent_some {cfg : AuditConfig} {rows : List SecurityAuditEvent} {id : ℤ}
    {d : AuditDraft} {e : SecurityAuditEvent} (h : newAuditEvent cfg rows id d = some e) :
    e.id = id ∧ e.userId = d.userId ∧ e.hashAlgorithm = auditHashAlgorithm ∧
      e.previousEventHash = some (latestAuditEventHash rows) ∧
      ∃ m, e.eventHash = some (cfg.hmacSha256 m) ∧
        computeAuditEventHash cfg e = some (cfg.hmacSha256 m) := by
  unfold newAuditEvent at h
  obtain ⟨hash, hcompute, rfl⟩ := Option.map_eq_some_iff.mp h
  have hkeyed : computeAuditEventHash cfg (d.row id (latestAuditEventHash rows)) =
      if cfg.keyUsable then some (cfg.hmacSha256 (canonicalAuditEventPayload
        (d.row id (latestAuditEventHash rows)))) else none := by
    unfold computeAuditEventHash
    exact if_pos rfl
  rw [hkeyed] at hcompute
  split at hcompute
  · next husable =>
      cases hcompute
      refine ⟨rfl, rfl, rfl, rfl, _, rfl, ?_⟩
      show computeAuditEventHash cfg (d.row id (latestAuditEventHash rows)) = _
      rw [hkeyed, if_pos husable]
  · cases hcompute

/-! ### The hash that the next event names -/

theorem latestHashedRow_append (rows : List SecurityAuditEvent) (e : SecurityAuditEvent) :
    latestHashedRow (rows ++ [e]) = if e.eventHash.isSome then some e
      else latestHashedRow rows := by
  unfold latestHashedRow
  rw [List.reverse_append, List.reverse_singleton, List.singleton_append, List.find?_cons]
  cases e.eventHash.isSome <;> rfl

theorem latestAuditEventHash_append {rows : List SecurityAuditEvent} {e : SecurityAuditEvent}
    {h : String} (he : e.eventHash = some h) (hne : h ≠ "") :
    latestAuditEventHash (rows ++ [e]) = h := by
  unfold latestAuditEventHash
  rw [latestHashedRow_append, he]
  simp [hne, he]

/-- In an accepted table the loop ends with the hash that a writer reads, and an
unhashed row at the end means that the chain has not started. -/
theorem previousHash_of_valid {cfg : AuditConfig} {rows : List SecurityAuditEvent}
    (h : (verifyEvents cfg .initial rows).errors = []) :
    (verifyEvents cfg .initial rows).previousHash = latestAuditEventHash rows ∧
      ((verifyEvents cfg .initial rows).chainStarted = false →
        latestAuditEventHash rows = auditChainStartHash) := by
  induction rows using List.reverseRecOn with
  | nil => exact ⟨rfl, fun _ => rfl⟩
  | append_singleton rows e ih =>
      rw [verifyEvents_snoc] at h ⊢
      cases hhashed : hashed e with
      | true =>
          obtain ⟨hash, he, hne⟩ := hashed_iff.mp hhashed
          rw [verifyEvent_hashed he hne, latestAuditEventHash_append he hne]
          exact ⟨rfl, nofun⟩
      | false =>
          rw [verifyEvent_missing hhashed] at h ⊢
          unfold verifyEvent.missing at h ⊢
          split at h
          · exact absurd h (appendChainError_ne_nil _ _ _)
          · next hstarted =>
              have hstarted' := Bool.eq_false_iff.mpr hstarted
              obtain ⟨hprevious, hstart⟩ := ih h
              have hlatest : latestAuditEventHash (rows ++ [e]) = auditChainStartHash := by
                unfold latestAuditEventHash
                rw [latestHashedRow_append]
                cases he : e.eventHash with
                | none => exact hstart hstarted'
                | some hash =>
                    have hempty : hash = "" := by simpa [hashed, he] using hhashed
                    simp [he, hempty]
              rw [if_neg hstarted, hlatest]
              exact ⟨hprevious.trans (hstart hstarted'), fun _ => rfl⟩

/-- A row that a writer adds is accepted. -/
theorem errors_append_newAuditEvent {cfg : AuditConfig} (hcfg : HexDigest cfg)
    {rows : List SecurityAuditEvent} {id : ℤ} {d : AuditDraft} {e : SecurityAuditEvent}
    (h : (verifyEvents cfg .initial rows).errors = [])
    (he : newAuditEvent cfg rows id d = some e) :
    (verifyEvents cfg .initial (rows ++ [e])).errors = [] := by
  obtain ⟨-, -, halg, hprevious, m, hhash, hcompute⟩ := newAuditEvent_some he
  rw [verifyEvents_snoc, verifyEvent_hashed hhash (hcfg.ne_empty m)]
  have hsupported : eventAlgorithm e = auditHashAlgorithm := by
    unfold eventAlgorithm
    rw [halg]
    rfl
  show verifyHashedAuditEvent cfg e _ _ = []
  unfold verifyHashedAuditEvent expect
  rw [(previousHash_of_valid h).1, hcompute, hprevious, hhash, h, hsupported]
  simp

/-! ### The log -/

/-- The table with the sequence that its ids come from. -/
structure AuditLog extends AuditTable where
  nextId : ℤ
  lt_nextId : ∀ e ∈ rows, e.id < nextId

theorem lt_one_nil : ∀ e ∈ ([] : List SecurityAuditEvent), e.id < 1 := List.forall_mem_nil _

/-- Add a row under the next id. -/
def AuditLog.append (log : AuditLog) (e : SecurityAuditEvent) (h : e.id = log.nextId) :
    AuditLog where
  rows := log.rows ++ [e]
  sorted := by
    refine List.pairwise_append.mpr ⟨log.sorted, List.pairwise_singleton .., ?_⟩
    intro e₁ he₁ e₂ he₂
    rw [List.mem_singleton.mp he₂, h]
    exact log.lt_nextId e₁ he₁
  nextId := log.nextId + 1
  lt_nextId e' he' := by
    rcases List.mem_append.mp he' with he' | he'
    · exact (log.lt_nextId e' he').trans (Int.lt_succ _)
    · rw [List.mem_singleton.mp he', h]
      exact Int.lt_succ _

/-- The event of a draft is inserted; the log stays as it is where the hash cannot
be computed. -/
def AuditLog.write (cfg : AuditConfig) (log : AuditLog) (d : AuditDraft) : AuditLog :=
  match h : newAuditEvent cfg log.rows log.nextId d with
  | none => log
  | some e => log.append e (newAuditEvent_some h).1

/-- `verify_audit_hash_chain` accepts the table. -/
def AuditLog.Accepted (cfg : AuditConfig) (log : AuditLog) : Prop :=
  (verifyAuditHashChain cfg log.toAuditTable).valid = true

instance (cfg : AuditConfig) (log : AuditLog) : Decidable (log.Accepted cfg) :=
  inferInstanceAs (Decidable (_ = true))

theorem AuditLog.accepted_iff {cfg : AuditConfig} {log : AuditLog} :
    log.Accepted cfg ↔ (verifyEvents cfg .initial log.rows).errors = [] :=
  List.isEmpty_iff

theorem AuditLog.write_cases (cfg : AuditConfig) (log : AuditLog) (d : AuditDraft) :
    log.write cfg d = log ∨ ∃ e, newAuditEvent cfg log.rows log.nextId d = some e ∧
      (log.write cfg d).rows = log.rows ++ [e] := by
  unfold AuditLog.write
  split
  · exact .inl rfl
  · next e he => exact .inr ⟨e, he, rfl⟩

theorem AuditLog.prefix_write (cfg : AuditConfig) (log : AuditLog) (d : AuditDraft) :
    log.rows <+: (log.write cfg d).rows := by
  rcases log.write_cases cfg d with h | ⟨e, -, h⟩
  · rw [h]
  · rw [h]
    exact List.prefix_append ..

theorem AuditLog.Accepted.write {cfg : AuditConfig} (hcfg : HexDigest cfg) {log : AuditLog}
    (h : log.Accepted cfg) (d : AuditDraft) : (log.write cfg d).Accepted cfg := by
  rw [AuditLog.accepted_iff] at h ⊢
  rcases log.write_cases cfg d with heq | ⟨e, he, hrows⟩
  · rwa [heq]
  · rw [hrows]
    exact errors_append_newAuditEvent hcfg h he

end SitBank.Audit
