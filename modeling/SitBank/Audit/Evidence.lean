import Mathlib.Data.List.Infix
import Mathlib.Data.Set.Basic
import SitBank.Audit.Chain

/-!
What the chain is evidence of.

Under hash functions without collisions the last hash of an accepted chain
determines every payload before it: equal hashes come from equal payloads, and
the payload names the hash before it. The argument runs backwards along both
chains at once (`payloads_eq_of_lastHash`).

An adversary without the key can copy the tags of the original rows, but cannot
make one for another payload. The unkeyed legacy hash is different: anybody can
compute it, and the verification accepts it for every row.
-/

namespace SitBank.Audit

open SitBank.Python

/-! ### The previous hash in a payload -/

/-- The fields in the order in which they are written. -/
theorem sortKeys_payloadFields (e : SecurityAuditEvent) :
    sortKeys (.obj (payloadFields e)) = .obj
      [(.ofString "correlation_id", sortKeys (textField e.correlationId)),
        (.ofString "created_at", sortKeys (textField (utcIso e.createdAt))),
        (.ofString "event_metadata", sortKeys (canonicalMetadata e.eventMetadata)),
        (.ofString "event_type", sortKeys (textField e.eventType)),
        (.ofString "ip_address", sortKeys (textField e.ipAddress)),
        (.ofString "outcome", sortKeys (textField e.outcome)),
        (.ofString "previous_event_hash", sortKeys (optionalText e.previousEventHash)),
        (.ofString "session_ref", sortKeys (optionalText e.sessionRef)),
        (.ofString "user_agent", sortKeys (textField e.userAgent)),
        (.ofString "user_id", sortKeys (optionalInt e.userId))] := by
  rw [sortKeys, payloadFields]
  simp only [sortKeysPairs]
  rfl

theorem sortKeys_optionalText (s : Option String) : sortKeys (optionalText s) = optionalText s := by
  cases s <;> simp [optionalText, textField, sortKeys]

theorem dumps_previous_of_payload_eq {e e' : SecurityAuditEvent}
    (h : canonicalAuditEventPayload e = canonicalAuditEventPayload e') :
    dumps (optionalText e.previousEventHash) = dumps (optionalText e'.previousEventHash) := by
  unfold canonicalAuditEventPayload at h
  rw [sortKeys_payloadFields, sortKeys_payloadFields, dumps, dumps] at h
  obtain ⟨_, h⟩ := dumpsPairs_inj ((List.cons_inj_right '{').mp h)
  obtain ⟨_, h⟩ := dumpsPairs_inj h
  obtain ⟨_, h⟩ := dumpsPairs_inj h
  obtain ⟨_, h⟩ := dumpsPairs_inj h
  obtain ⟨_, h⟩ := dumpsPairs_inj h
  obtain ⟨_, h⟩ := dumpsPairs_inj h
  obtain ⟨hprevious, _⟩ := dumpsPairs_inj h
  rwa [sortKeys_optionalText, sortKeys_optionalText] at hprevious

/-- `hexdigest` returns lower-case hexadecimal digits. -/
def isHex (s : String) : Bool :=
  s.toList.all fun c => ('0' ≤ c && c ≤ '9') || ('a' ≤ c && c ≤ 'f')

theorem escapeCodePoint_of_hex {c : Char}
    (h : (('0' ≤ c && c ≤ '9') || ('a' ≤ c && c ≤ 'f')) = true) :
    escapeCodePoint c.toNat = [c] := by
  have hrange : 0x30 ≤ c.toNat ∧ c.toNat ≤ 0x39 ∨ 0x61 ≤ c.toNat ∧ c.toNat ≤ 0x66 := by
    simpa [Char.le_def, UInt32.le_iff_toNat_le] using h
  unfold escapeCodePoint
  rw [if_neg (by omega), if_neg (by omega), if_neg (by omega), if_neg (by omega),
    if_neg (by omega), if_neg (by omega), if_neg (by omega), if_pos (by omega), Char.ofNat_toNat]

theorem eq_of_dumps_eq {s s' : String} (hs : isHex s = true) (hs' : isHex s' = true)
    (h : dumps (optionalText (some s)) = dumps (optionalText (some s'))) : s = s' := by
  have hplain : ∀ s : String, isHex s = true →
      dumps (optionalText (some s)) = '"' :: (s.toList ++ ['"']) := fun s hs =>
    dumpsStr_ofString fun c hc => escapeCodePoint_of_hex (List.all_eq_true.mp hs c hc)
  rw [hplain s hs, hplain s' hs'] at h
  exact String.toList_inj.mp (List.append_cancel_right ((List.cons_inj_right '"').mp h))

/-! ### Ideal hashes -/

/-- On the messages `S` the two hash functions have no collisions, not even with
each other, and do not give the start value of the chain. -/
structure IdealHash (cfg : AuditConfig) (S : Set (List Char)) : Prop where
  hmac_inj : ∀ m ∈ S, ∀ m' ∈ S, cfg.hmacSha256 m = cfg.hmacSha256 m' → m = m'
  sha_inj : ∀ m ∈ S, ∀ m' ∈ S, cfg.sha256 m = cfg.sha256 m' → m = m'
  apart : ∀ m ∈ S, ∀ m' ∈ S, cfg.hmacSha256 m ≠ cfg.sha256 m'
  hmac_hex : ∀ m ∈ S, isHex (cfg.hmacSha256 m) = true
  sha_hex : ∀ m ∈ S, isHex (cfg.sha256 m) = true
  hmac_ne_start : ∀ m ∈ S, cfg.hmacSha256 m ≠ auditChainStartHash
  sha_ne_start : ∀ m ∈ S, cfg.sha256 m ≠ auditChainStartHash

/-- The payloads of these rows. -/
def payloads (rows : List SecurityAuditEvent) : Set (List Char) :=
  {m | m ∈ rows.map canonicalAuditEventPayload}

theorem mem_payloads {rows : List SecurityAuditEvent} {e : SecurityAuditEvent} (he : e ∈ rows) :
    canonicalAuditEventPayload e ∈ payloads rows := List.mem_map.mpr ⟨e, he, rfl⟩

theorem payloads_append_subset {S : Set (List Char)} {rows rows' : List SecurityAuditEvent}
    (h : payloads (rows ++ rows') ⊆ S) : payloads rows ⊆ S ∧ payloads rows' ⊆ S := by
  refine ⟨fun m hm => h ?_, fun m hm => h ?_⟩
  · show m ∈ (rows ++ rows').map canonicalAuditEventPayload
    rw [List.map_append]
    exact List.mem_append_left _ hm
  · show m ∈ (rows ++ rows').map canonicalAuditEventPayload
    rw [List.map_append]
    exact List.mem_append_right _ hm

section Ideal

variable {cfg : AuditConfig} {S : Set (List Char)} (hcfg : IdealHash cfg S)

theorem computeAuditEventHash_cases {e : SecurityAuditEvent} {h : String}
    (he : computeAuditEventHash cfg e = some h) :
    h = cfg.hmacSha256 (canonicalAuditEventPayload e) ∨
      h = cfg.sha256 (canonicalAuditEventPayload e) := by
  unfold computeAuditEventHash at he
  split at he
  · split at he <;> cases he
    exact .inl rfl
  · split at he <;> cases he
    exact .inr rfl

include hcfg

theorem payload_eq_of_hash_eq {e e' : SecurityAuditEvent} {h : String}
    (hS : canonicalAuditEventPayload e ∈ S) (hS' : canonicalAuditEventPayload e' ∈ S)
    (he : computeAuditEventHash cfg e = some h) (he' : computeAuditEventHash cfg e' = some h) :
    canonicalAuditEventPayload e = canonicalAuditEventPayload e' := by
  rcases computeAuditEventHash_cases he with h₁ | h₁ <;>
    rcases computeAuditEventHash_cases he' with h₂ | h₂
  · exact hcfg.hmac_inj _ hS _ hS' (h₁.symm.trans h₂)
  · exact absurd (h₁.symm.trans h₂) (hcfg.apart _ hS _ hS')
  · exact absurd (h₂.symm.trans h₁) (hcfg.apart _ hS' _ hS)
  · exact hcfg.sha_inj _ hS _ hS' (h₁.symm.trans h₂)

theorem hash_isHex {e : SecurityAuditEvent} {h : String} (hS : canonicalAuditEventPayload e ∈ S)
    (he : computeAuditEventHash cfg e = some h) : isHex h = true := by
  rcases computeAuditEventHash_cases he with rfl | rfl
  · exact hcfg.hmac_hex _ hS
  · exact hcfg.sha_hex _ hS

theorem hash_ne_start {e : SecurityAuditEvent} {h : String}
    (hS : canonicalAuditEventPayload e ∈ S) (he : computeAuditEventHash cfg e = some h) :
    h ≠ auditChainStartHash := by
  rcases computeAuditEventHash_cases he with rfl | rfl
  · exact hcfg.hmac_ne_start _ hS
  · exact hcfg.sha_ne_start _ hS

end Ideal

/-! ### Chains from their ends -/

/-- The hash after these rows. -/
def lastHash (previous : String) : List SecurityAuditEvent → String
  | [] => previous
  | e :: rows => lastHash (e.eventHash.getD previous) rows

theorem lastHash_append (previous : String) (rows rows' : List SecurityAuditEvent) :
    lastHash previous (rows ++ rows') = lastHash (lastHash previous rows) rows' := by
  induction rows generalizing previous with
  | nil => rfl
  | cons e rows ih => exact ih _

theorem linked_append {cfg : AuditConfig} {previous : String}
    {rows rows' : List SecurityAuditEvent} :
    Linked cfg previous (rows ++ rows') ↔
      Linked cfg previous rows ∧ Linked cfg (lastHash previous rows) rows' := by
  induction rows generalizing previous with
  | nil => exact ⟨fun h => ⟨trivial, h⟩, fun h => h.2⟩
  | cons e rows ih =>
      constructor
      · rintro ⟨hprev, h, he, hc, hrows⟩
        obtain ⟨h₁, h₂⟩ := ih.mp hrows
        rw [lastHash, he]
        exact ⟨⟨hprev, h, he, hc, h₁⟩, h₂⟩
      · rintro ⟨⟨hprev, h, he, hc, h₁⟩, h₂⟩
        rw [lastHash, he] at h₂
        exact ⟨hprev, h, he, hc, ih.mpr ⟨h₁, h₂⟩⟩

/-- The last row of a chain. -/
theorem linked_snoc {cfg : AuditConfig} {previous : String} {rows : List SecurityAuditEvent}
    {e : SecurityAuditEvent} (h : Linked cfg previous (rows ++ [e])) :
    Linked cfg previous rows ∧ e.previousEventHash = some (lastHash previous rows) ∧
      computeAuditEventHash cfg e = some (lastHash previous (rows ++ [e])) := by
  obtain ⟨hrows, hprev, hash, he, hc, _⟩ := linked_append.mp h
  refine ⟨hrows, hprev, ?_⟩
  rw [lastHash_append, lastHash, lastHash, he]
  exact hc

section Backwards

variable {cfg : AuditConfig} {S : Set (List Char)} (hcfg : IdealHash cfg S)

include hcfg

theorem lastHash_isHex {rows : List SecurityAuditEvent} (hS : payloads rows ⊆ S)
    (h : Linked cfg auditChainStartHash rows) :
    isHex (lastHash auditChainStartHash rows) = true := by
  rcases List.eq_nil_or_concat rows with rfl | ⟨rows, e, rfl⟩
  · decide
  · rw [List.concat_eq_append] at h hS ⊢
    exact hash_isHex hcfg (hS (mem_payloads (by simp))) (linked_snoc h).2.2

/-- Two chains with the same last hash have the same payloads. -/
theorem payloads_eq_of_lastHash {rows rows' : List SecurityAuditEvent}
    (hS : payloads rows ⊆ S) (hS' : payloads rows' ⊆ S)
    (h : Linked cfg auditChainStartHash rows) (h' : Linked cfg auditChainStartHash rows')
    (hlast : lastHash auditChainStartHash rows = lastHash auditChainStartHash rows') :
    rows.map canonicalAuditEventPayload = rows'.map canonicalAuditEventPayload := by
  induction rows using List.reverseRecOn generalizing rows' with
  | nil =>
      rcases List.eq_nil_or_concat rows' with rfl | ⟨rows', e', rfl⟩
      · rfl
      · rw [List.concat_eq_append] at h' hlast hS'
        exact absurd hlast.symm
          (hash_ne_start hcfg (hS' (mem_payloads (by simp))) (linked_snoc h').2.2)
  | append_singleton rows e ih =>
      obtain ⟨hrows, hprev, hhash⟩ := linked_snoc h
      have heS : canonicalAuditEventPayload e ∈ S := hS (mem_payloads (by simp))
      rcases List.eq_nil_or_concat rows' with rfl | ⟨rows', e', rfl⟩
      · exact absurd hlast (hash_ne_start hcfg heS hhash)
      · rw [List.concat_eq_append] at h' hlast hS' ⊢
        obtain ⟨hrows', hprev', hhash'⟩ := linked_snoc h'
        have hrS := (payloads_append_subset hS).1
        have hrS' := (payloads_append_subset hS').1
        rw [← hlast] at hhash'
        -- equal hashes come from equal payloads, and these name the hashes before them
        have hpayload := payload_eq_of_hash_eq hcfg heS (hS' (mem_payloads (by simp))) hhash hhash'
        have hdumps := dumps_previous_of_payload_eq hpayload
        rw [hprev, hprev'] at hdumps
        have hbefore := eq_of_dumps_eq (lastHash_isHex hcfg hrS hrows)
          (lastHash_isHex hcfg hrS' hrows') hdumps
        rw [List.map_append, List.map_append, ih hrS hrS' hrows hrows' hbefore,
          List.map_singleton, List.map_singleton, hpayload]

end Backwards

/-! ### An adversary without the key -/

/-- The rows that the application wrote: hashed under the key, in one chain. -/
def WrittenByApplication (cfg : AuditConfig) (rows : List SecurityAuditEvent) : Prop :=
  Linked cfg auditChainStartHash rows ∧ ∀ e ∈ rows, e.hashAlgorithm = auditHashAlgorithm

/-- What an adversary can put into the table who has seen `rows` but not the key:
any row at all, as long as its hash is no tag of a payload that was not written. -/
def Producible (cfg : AuditConfig) (rows : List SecurityAuditEvent) (table : AuditTable) : Prop :=
  ∀ e ∈ table.rows, ∀ m, e.eventHash = some (cfg.hmacSha256 m) →
    m ∈ rows.map canonicalAuditEventPayload

/-- No hashed row names the unkeyed algorithm. -/
def Keyed (table : AuditTable) : Prop :=
  ∀ e ∈ table.hashedRows, eventAlgorithm e ≠ legacyAuditHashAlgorithm

section Adversary

variable {cfg : AuditConfig} {S : Set (List Char)} (hcfg : IdealHash cfg S)

theorem hash_of_keyed {e : SecurityAuditEvent} {h : String}
    (halg : eventAlgorithm e ≠ legacyAuditHashAlgorithm)
    (he : computeAuditEventHash cfg e = some h) :
    h = cfg.hmacSha256 (canonicalAuditEventPayload e) := by
  unfold computeAuditEventHash at he
  rw [if_neg halg] at he
  split at he
  · split at he <;> cases he
    rfl
  · cases he

include hcfg

/-- A row that continues a chain with the payload of an original row continues it
as the original chain does. -/
theorem prefix_of_payload_mem {original rows : List SecurityAuditEvent} {e : SecurityAuditEvent}
    (hS : payloads original ⊆ S) (hS' : payloads (rows ++ [e]) ⊆ S)
    (horiginal : Linked cfg auditChainStartHash original)
    (hrows : Linked cfg auditChainStartHash (rows ++ [e]))
    (hmem : canonicalAuditEventPayload e ∈ original.map canonicalAuditEventPayload) :
    (rows ++ [e]).map canonicalAuditEventPayload <+: original.map canonicalAuditEventPayload := by
  obtain ⟨e', he', hpayload⟩ := List.mem_map.mp hmem
  obtain ⟨before, after, rfl⟩ := List.append_of_mem he'
  rw [List.append_cons] at horiginal
  obtain ⟨hbefore', _⟩ := linked_append.mp horiginal
  obtain ⟨hbefore, hprev', _⟩ := linked_snoc hbefore'
  obtain ⟨hrows', hprev, _⟩ := linked_snoc hrows
  have hbS := (payloads_append_subset hS).1
  have hrS := (payloads_append_subset hS').1
  have hdumps := dumps_previous_of_payload_eq hpayload
  rw [hprev, hprev'] at hdumps
  have hlast := eq_of_dumps_eq (lastHash_isHex hcfg hbS hbefore) (lastHash_isHex hcfg hrS hrows')
    hdumps
  have heq := payloads_eq_of_lastHash hcfg hbS hrS hbefore hrows' hlast
  refine ⟨after.map canonicalAuditEventPayload, ?_⟩
  simp [heq, hpayload]

end Adversary

/-- A table that an adversary without the key produced and the verification
accepts holds nothing but a prefix of the original payloads, unless a row names
the unkeyed algorithm. -/
theorem payloads_of_valid_keyed_table {cfg : AuditConfig} {original : List SecurityAuditEvent}
    {table : AuditTable} (hcfg : IdealHash cfg (payloads (original ++ table.hashedRows)))
    (horiginal : WrittenByApplication cfg original) (hprod : Producible cfg original table)
    (hkeyed : Keyed table) (hvalid : (verifyAuditHashChain cfg table).valid = true) :
    table.hashedRows.map canonicalAuditEventPayload <+:
      original.map canonicalAuditEventPayload := by
  have hlinked := linked_of_valid hvalid
  obtain ⟨hS, hS'⟩ := payloads_append_subset (le_refl (payloads (original ++ table.hashedRows)))
  rcases List.eq_nil_or_concat table.hashedRows with hnil | ⟨rows, e, hrows⟩
  · rw [hnil]
    exact List.nil_prefix
  · rw [List.concat_eq_append] at hrows
    have he : e ∈ table.hashedRows := by
      rw [hrows]
      exact List.mem_append_right _ (List.mem_singleton.mpr rfl)
    have htag : e.eventHash = some (cfg.hmacSha256 (canonicalAuditEventPayload e)) := by
      rw [hrows] at hlinked
      obtain ⟨_, _, hash, hhash, hcompute, _⟩ := linked_append.mp hlinked
      rw [hhash, hash_of_keyed (hkeyed e he) hcompute]
    rw [hrows] at hcfg hS hS' hlinked ⊢
    exact prefix_of_payload_mem hcfg hS hS' horiginal.1 hlinked
      (hprod e (List.mem_filter.mp he).1 _ htag)

/-! ### One row and its replacement -/

def digest (c : Char) : String := String.ofList (List.replicate 64 c)

/-- A row without metadata. -/
def sampleEvent (id : ℤ) (eventType algorithm previous hash : String) : SecurityAuditEvent where
  id := id
  eventType := eventType
  outcome := "success"
  userId := some 1
  ipAddress := "203.0.113.7"
  userAgent := "agent"
  correlationId := "c"
  sessionRef := none
  eventMetadata := .obj []
  previousEventHash := some previous
  eventHash := some hash
  hashAlgorithm := algorithm
  createdAt := 0

/-- The row that the application wrote. -/
def loginFailure : SecurityAuditEvent :=
  { sampleEvent 1 "login" auditHashAlgorithm auditChainStartHash (digest 'a') with
    outcome := "failure" }

/-- What the adversary puts in its place. -/
def loginSuccess : SecurityAuditEvent :=
  sampleEvent 1 "login" legacyAuditHashAlgorithm auditChainStartHash (digest 'b')

def sampleAuditConfig : AuditConfig where
  keyUsable := true
  hmacSha256 m := if m = canonicalAuditEventPayload loginFailure then digest 'a' else digest 'c'
  sha256 m := if m = canonicalAuditEventPayload loginSuccess then digest 'b' else digest 'd'

theorem payload_loginSuccess_ne :
    canonicalAuditEventPayload loginSuccess ≠ canonicalAuditEventPayload loginFailure := by
  decide +kernel

/-- For finitely many messages the assumptions can be tested. -/
def idealHashCheck (cfg : AuditConfig) (messages : List (List Char)) : Bool :=
  messages.all fun m =>
    isHex (cfg.hmacSha256 m) && isHex (cfg.sha256 m) &&
      cfg.hmacSha256 m ≠ auditChainStartHash && cfg.sha256 m ≠ auditChainStartHash &&
      messages.all fun m' => cfg.hmacSha256 m ≠ cfg.sha256 m' &&
        (m = m' || (cfg.hmacSha256 m ≠ cfg.hmacSha256 m' && cfg.sha256 m ≠ cfg.sha256 m'))

theorem idealHash_of_check {cfg : AuditConfig} {rows : List SecurityAuditEvent}
    (h : idealHashCheck cfg (rows.map canonicalAuditEventPayload) = true) :
    IdealHash cfg (payloads rows) := by
  have hall := List.all_eq_true.mp h
  simp only [Bool.and_eq_true, Bool.or_eq_true, decide_eq_true_eq, List.all_eq_true] at hall
  have hpair := fun m hm m' hm' => (hall m hm).2 m' hm'
  exact ⟨fun m hm m' hm' he => (hpair m hm m' hm').2.elim id fun hne => absurd he hne.1,
    fun m hm m' hm' he => (hpair m hm m' hm').2.elim id fun hne => absurd he hne.2,
    fun m hm m' hm' => (hpair m hm m' hm').1,
    fun m hm => (hall m hm).1.1.1.1, fun m hm => (hall m hm).1.1.1.2,
    fun m hm => (hall m hm).1.1.2, fun m hm => (hall m hm).1.2⟩

theorem sampleAuditConfig_ideal :
    IdealHash sampleAuditConfig (payloads [loginFailure, loginSuccess]) :=
  idealHash_of_check (by decide +kernel)

theorem linked_loginFailure : Linked sampleAuditConfig auditChainStartHash [loginFailure] := by
  refine ⟨rfl, digest 'a', rfl, ?_, trivial⟩
  decide +kernel

theorem writtenByApplication_loginFailure :
    WrittenByApplication sampleAuditConfig [loginFailure] := by
  refine ⟨linked_loginFailure, fun e he => ?_⟩
  rw [List.mem_singleton.mp he]
  rfl

def singleRow (e : SecurityAuditEvent) : AuditTable := ⟨[e], List.pairwise_singleton _ _⟩

theorem hashedRows_singleRow {e : SecurityAuditEvent} (h : hashed e = true) :
    (singleRow e).hashedRows = [e] := by
  rw [AuditTable.hashedRows, singleRow, List.filter_cons_of_pos h, List.filter_nil]

/-! ### A chain and what is left of it -/

/-- Three rows that the application wrote. -/
def chainRows : List SecurityAuditEvent :=
  [loginFailure, sampleEvent 2 "login" auditHashAlgorithm (digest 'a') (digest 'b'),
    sampleEvent 4 "logout" auditHashAlgorithm (digest 'b') (digest 'c')]

/-- A hash that is listed for the known messages. -/
def listedHash (known : List (List Char × String)) (other : String) (m : List Char) : String :=
  (known.lookup m).getD other

theorem mem_of_listedHash {known : List (List Char × String)} {other : String} {m : List Char}
    (h : listedHash known other m ≠ other) : m ∈ known.map Prod.fst := by
  unfold listedHash at h
  cases hm : known.lookup m with
  | none =>
      rw [hm] at h
      exact absurd rfl h
  | some hash =>
      obtain ⟨before, after, rfl, -⟩ := List.lookup_eq_some_iff.mp hm
      simp

def chainMessages (digests : List Char) : List (List Char × String) :=
  (chainRows.map canonicalAuditEventPayload).zip (digests.map digest)

def chainAuditConfig : AuditConfig where
  keyUsable := true
  hmacSha256 := listedHash (chainMessages ['a', 'b', 'c']) (digest 'd')
  sha256 := listedHash (chainMessages ['1', '2', '3']) (digest '4')

/-- The last row is gone. -/
def truncatedTable : AuditTable := ⟨chainRows.take 2, by decide⟩

theorem writtenByApplication_chainRows : WrittenByApplication chainAuditConfig chainRows := by
  refine ⟨⟨rfl, digest 'a', rfl, ?_, rfl, digest 'b', rfl, ?_, rfl, digest 'c', rfl, ?_, trivial⟩,
    by decide⟩
  all_goals decide +kernel

/-- Every tag in the table is that of a payload that was written. -/
theorem producible_truncatedTable : Producible chainAuditConfig chainRows truncatedTable := by
  have hothers : ∀ e ∈ truncatedTable.rows, e.eventHash ≠ some (digest 'd') := by decide
  intro e he m hm
  have hother := hothers e he
  have hlisted : listedHash (chainMessages ['a', 'b', 'c']) (digest 'd') m ≠ digest 'd' := by
    intro h
    rw [hm] at hother
    exact hother (congrArg some h)
  exact mem_of_listedHash hlisted

/-- Two of three rows are accepted, and are what was written first. -/
theorem payloads_of_valid_keyed_table_truncated :
    (verifyAuditHashChain chainAuditConfig truncatedTable).valid = true ∧
      truncatedTable.hashedRows.length = 2 ∧
      truncatedTable.hashedRows.map canonicalAuditEventPayload <+:
        chainRows.map canonicalAuditEventPayload := by
  have hvalid : (verifyAuditHashChain chainAuditConfig truncatedTable).valid = true := by
    decide +kernel
  have hkeyed : Keyed truncatedTable := by
    unfold Keyed
    decide
  refine ⟨hvalid, by decide, ?_⟩
  exact payloads_of_valid_keyed_table (idealHash_of_check (by decide +kernel))
    writtenByApplication_chainRows producible_truncatedTable hkeyed hvalid

/-- The row is replaced by another one with the unkeyed hash, which needs no key. -/
theorem downgraded_row_accepted :
    ∃ (cfg : AuditConfig) (original : List SecurityAuditEvent) (table : AuditTable),
      IdealHash cfg (payloads (original ++ table.hashedRows)) ∧
      WrittenByApplication cfg original ∧ Producible cfg original table ∧
      (verifyAuditHashChain cfg table).valid = true ∧
      ¬table.hashedRows.map canonicalAuditEventPayload <+:
        original.map canonicalAuditEventPayload := by
  have hrows := hashedRows_singleRow (e := loginSuccess) rfl
  refine ⟨sampleAuditConfig, [loginFailure], singleRow loginSuccess, ?_,
    writtenByApplication_loginFailure, ?_, by decide +kernel, ?_⟩
  · rw [hrows]
    exact sampleAuditConfig_ideal
  · intro e he m hm
    rw [singleRow, List.mem_singleton] at he
    subst he
    have hm' : digest 'b' = sampleAuditConfig.hmacSha256 m := Option.some.inj hm
    unfold sampleAuditConfig at hm'
    dsimp only at hm'
    split at hm' <;> exact absurd hm' (by decide)
  · rw [hrows]
    rintro ⟨rest, hrest⟩
    exact payload_loginSuccess_ne (List.cons.inj hrest).1

end SitBank.Audit
