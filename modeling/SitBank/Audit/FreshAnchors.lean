import SitBank.Audit.Anchor
import SitBank.Audit.Writer
import SitBank.Python.JsonLoads

/-!
Anchors of a table that has only grown since.

The anchor is written to a file as JSON and read again. The rows that the writers
append leave the anchored row in its place and the counts no lower, so the table is
found validated or stale. The anchor of a table without hashed rows has no anchored
row: it names `null`, which the comparison takes for a malformed id as soon as the
table has a hashed row.
-/

namespace SitBank.Audit

open SitBank.Python

/-! ### The file -/

/-- The dictionary of `audit_log_anchor`. -/
def anchorFields (anchor : Anchor) (generatedAt : ℤ) : List (PyStr × Json) :=
  [(.ofString "message", textField "security_audit_anchor"),
    (.ofString "generated_at", textField (utcIso generatedAt)),
    (.ofString "hash_algorithm", textField anchor.hashAlgorithm),
    (.ofString "chain_start", textField anchor.chainStart),
    (.ofString "event_count", .int anchor.eventCount),
    (.ofString "verified_event_count", .int anchor.verifiedEventCount),
    (.ofString "legacy_unhashed_event_count", .int anchor.legacyUnhashedEventCount),
    (.ofString "latest_event_id", optionalInt anchor.latestEventId),
    (.ofString "latest_event_hash", optionalText anchor.latestEventHash),
    (.ofString "valid", .bool anchor.valid)]

/-- The text that `write_audit_log_anchor` writes. -/
def writeAuditLogAnchor (cfg : AuditConfig) (table : AuditTable) (generatedAt : ℤ) : List Char :=
  dumps (sortKeys (.obj (anchorFields (auditLogAnchor cfg table) generatedAt))) ++ ['\n']

/-- `anchor.get(field)`. -/
def getField (d : List (PyStr × Json)) (name : String) : Json :=
  (d.lookup (.ofString name)).getD .null

def asText : Json → Option String
  | .str s => some (String.ofList (s.map Char.ofNat))
  | _ => none

def asCount : Json → Option ℕ
  | .int n => if n < 0 then none else some n.toNat
  | _ => none

def asOptionalId : Json → Option (Option ℤ)
  | .null => some none
  | .int n => some (some n)
  | _ => none

def asOptionalText : Json → Option (Option String)
  | .null => some none
  | v => (asText v).map some

/-- The fields of an anchor that was read. Where one of them has another type the
comparison reports it as malformed, which is `none` here. -/
def Anchor.ofJson : Json → Option Anchor
  | .obj d => do
      let hashAlgorithm ← asText (getField d "hash_algorithm")
      let chainStart ← asText (getField d "chain_start")
      let eventCount ← asCount (getField d "event_count")
      let verifiedEventCount ← asCount (getField d "verified_event_count")
      let legacyUnhashedEventCount ← asCount (getField d "legacy_unhashed_event_count")
      let latestEventId ← asOptionalId (getField d "latest_event_id")
      let latestEventHash ← asOptionalText (getField d "latest_event_hash")
      match getField d "valid" with
      | .bool valid => some ⟨hashAlgorithm, chainStart, eventCount, verifiedEventCount,
          legacyUnhashedEventCount, latestEventId, latestEventHash, valid⟩
      | _ => none
  | _ => none

/-- `json.loads(path.read_text())`, as an anchor. -/
def readAuditLogAnchor (floatOf : List Char → FloatText) (text : List Char) : Option Anchor :=
  (loads floatOf text).bind Anchor.ofJson

/-- The fields in the order in which they are written. -/
theorem sortKeys_anchorFields (anchor : Anchor) (generatedAt : ℤ) :
    sortKeys (.obj (anchorFields anchor generatedAt)) = .obj
      [(.ofString "chain_start", textField anchor.chainStart),
        (.ofString "event_count", .int anchor.eventCount),
        (.ofString "generated_at", textField (utcIso generatedAt)),
        (.ofString "hash_algorithm", textField anchor.hashAlgorithm),
        (.ofString "latest_event_hash", optionalText anchor.latestEventHash),
        (.ofString "latest_event_id", optionalInt anchor.latestEventId),
        (.ofString "legacy_unhashed_event_count", .int anchor.legacyUnhashedEventCount),
        (.ofString "message", textField "security_audit_anchor"),
        (.ofString "valid", .bool anchor.valid),
        (.ofString "verified_event_count", .int anchor.verifiedEventCount)] := by
  have hid : sortKeys (optionalInt anchor.latestEventId) = optionalInt anchor.latestEventId := by
    cases anchor.latestEventId <;> simp [optionalInt, sortKeys]
  rw [sortKeys, anchorFields]
  simp only [sortKeysPairs, sortKeys_optionalText, hid, textField, sortKeys]
  rfl

theorem loadable_textField (floatOf : List Char → FloatText) (s : String) :
    Loadable floatOf (textField s) := scalar_ofString s

theorem loadable_optionalText (floatOf : List Char → FloatText) (s : Option String) :
    Loadable floatOf (optionalText s) := by
  cases s with
  | none => trivial
  | some s => exact scalar_ofString s

theorem loadable_optionalInt (floatOf : List Char → FloatText) (n : Option ℤ) :
    Loadable floatOf (optionalInt n) := by
  cases n <;> trivial

theorem asText_textField (s : String) : asText (textField s) = some s := by
  have hchars : ((PyStr.ofString s).map Char.ofNat) = s.toList := by
    rw [PyStr.ofString, List.map_map]
    refine List.map_id'' (fun c => ?_) _
    exact Char.ofNat_toNat c
  show some (String.ofList _) = _
  rw [hchars, String.ofList_toList]

theorem asCount_int (n : ℕ) : asCount (.int n) = some n := by
  simp [asCount]

theorem asOptionalId_optionalInt (n : Option ℤ) : asOptionalId (optionalInt n) = some n := by
  cases n <;> rfl

theorem asOptionalText_optionalText (s : Option String) :
    asOptionalText (optionalText s) = some s := by
  cases s with
  | none => rfl
  | some s =>
      show (asText (textField s)).map some = _
      rw [asText_textField]
      rfl

/-- What is read is what was written. -/
theorem readAuditLogAnchor_write (floatOf : List Char → FloatText) (cfg : AuditConfig)
    (table : AuditTable) (generatedAt : ℤ) :
    readAuditLogAnchor floatOf (writeAuditLogAnchor cfg table generatedAt) =
      some (auditLogAnchor cfg table) := by
  have hspace : ∀ c ∈ ['\n'], jsonSpace c = true := by simp [jsonSpace]
  unfold readAuditLogAnchor writeAuditLogAnchor
  rw [sortKeys_anchorFields, loads_dumps ?_ hspace]
  · show (do
      let hashAlgorithm ← asText (textField (auditLogAnchor cfg table).hashAlgorithm)
      let chainStart ← asText (textField (auditLogAnchor cfg table).chainStart)
      let eventCount ← asCount (.int (auditLogAnchor cfg table).eventCount)
      let verifiedEventCount ← asCount (.int (auditLogAnchor cfg table).verifiedEventCount)
      let legacyUnhashedEventCount ← asCount
        (.int (auditLogAnchor cfg table).legacyUnhashedEventCount)
      let latestEventId ← asOptionalId (optionalInt (auditLogAnchor cfg table).latestEventId)
      let latestEventHash ← asOptionalText
        (optionalText (auditLogAnchor cfg table).latestEventHash)
      some (Anchor.mk hashAlgorithm chainStart eventCount verifiedEventCount
        legacyUnhashedEventCount latestEventId latestEventHash
        (auditLogAnchor cfg table).valid)) = _
    simp only [asText_textField, asCount_int, asOptionalId_optionalInt,
      asOptionalText_optionalText, Option.bind_eq_bind, Option.bind_some]
  · refine ⟨?_, ?_⟩
    · simp only [List.map_cons, List.map_nil]
      decide
    · exact ⟨scalar_ofString _, loadable_textField _ _, scalar_ofString _, trivial,
        scalar_ofString _, loadable_textField _ _, scalar_ofString _, loadable_textField _ _,
        scalar_ofString _, loadable_optionalText .., scalar_ofString _, loadable_optionalInt ..,
        scalar_ofString _, trivial, scalar_ofString _, loadable_textField _ _, scalar_ofString _,
        trivial, scalar_ofString _, trivial, trivial⟩

/-! ### Appending -/

/-- `hexdigest` returns 64 lower-case hexadecimal digits. -/
structure HexDigests (cfg : AuditConfig) : Prop where
  hmacSha256 : ∀ m, isDigest (cfg.hmacSha256 m) = true
  sha256 : ∀ m, isDigest (cfg.sha256 m) = true

theorem HexDigests.hexDigest {cfg : AuditConfig} (h : HexDigests cfg) : HexDigest cfg := by
  intro m
  have hm := h.hmacSha256 m
  simp only [isDigest, Bool.and_eq_true, decide_eq_true_eq] at hm
  rw [← String.length_toList]
  exact hm.1

/-- The writers have appended events to the first table. The ids that a sequence hands
out grow, but not one by one. -/
inductive Written (cfg : AuditConfig) (table₀ : AuditTable) : AuditTable → Prop
  | refl : Written cfg table₀ table₀
  | write {table table' : AuditTable} (h : Written cfg table₀ table) (id : ℤ) (d : AuditDraft)
      (e : SecurityAuditEvent) (he : newAuditEvent cfg table.rows id d = some e)
      (hrows : table'.rows = table.rows ++ [e]) : Written cfg table₀ table'

/-- The rows that were appended have hashes, and the table is accepted as before. -/
theorem Written.rows {cfg : AuditConfig} (hcfg : HexDigests cfg) {table₀ table : AuditTable}
    (h : Written cfg table₀ table) (h₀ : (verifyAuditHashChain cfg table₀).valid = true) :
    (verifyAuditHashChain cfg table).valid = true ∧
      ∃ new, table.rows = table₀.rows ++ new ∧ ∀ e ∈ new, hashed e = true := by
  induction h with
  | refl => exact ⟨h₀, [], (List.append_nil _).symm, List.forall_mem_nil _⟩
  | @write table table' h id d e he hrows ih =>
      obtain ⟨hvalid, new, hnew, hhashed⟩ := ih
      have herrors : (verifyEvents cfg .initial table.rows).errors = [] :=
        List.isEmpty_iff.mp hvalid
      refine ⟨?_, new ++ [e], ?_, ?_⟩
      · show (verifyEvents cfg .initial table'.rows).errors.isEmpty = true
        rw [hrows, errors_append_newAuditEvent hcfg.hexDigest herrors he]
        rfl
      · rw [hrows, hnew, List.append_assoc]
      · intro e' he'
        rcases List.mem_append.mp he' with he' | he'
        · exact hhashed e' he'
        · obtain ⟨-, -, -, -, m, hhash, -⟩ := newAuditEvent_some he
          rw [List.mem_singleton.mp he']
          exact hashed_iff.mpr ⟨_, hhash, hcfg.hexDigest.ne_empty m⟩

/-- What hashed rows do to the counters of the loop. -/
theorem verifyEvents_hashed (cfg : AuditConfig) (st : ChainState) {new : List SecurityAuditEvent}
    (h : ∀ e ∈ new, hashed e = true) :
    (verifyEvents cfg st new).verifiedEventCount = st.verifiedEventCount + new.length ∧
      (verifyEvents cfg st new).legacyUnhashedEventCount = st.legacyUnhashedEventCount := by
  induction new generalizing st with
  | nil => exact ⟨rfl, rfl⟩
  | cons e new ih =>
      obtain ⟨hash, hhash, hne⟩ := hashed_iff.mp (h e (List.mem_cons_self ..))
      obtain ⟨hverified, hlegacy⟩ := ih (verifyEvent cfg st e) fun e' he' =>
        h e' (List.mem_cons_of_mem e he')
      rw [verifyEvent_hashed hhash hne] at hverified hlegacy
      have hcons : verifyEvents cfg st (e :: new) = verifyEvents cfg
          (verifyEvent cfg st e) new := rfl
      rw [hcons, verifyEvent_hashed hhash hne]
      refine ⟨?_, hlegacy⟩
      rw [hverified, List.length_cons]
      dsimp only
      omega

/-! ### The comparison -/

/-- The tables for which the anchor of the first one is found validated or stale. -/
def Anchorable (table₀ table : AuditTable) : Prop :=
  table.hashedRows = [] ∨ ∃ e, table₀.hashedRows.getLast? = some e ∧ 0 ≤ e.id

theorem expect_true {test : Bool} (h : test = true) (eventId : ℤ) (reason : ChainReason)
    (errors : List ChainError) : expect test eventId reason errors = errors := by
  rw [h]
  rfl

/-- The hash of an accepted row is a digest. -/
theorem isDigest_of_linked {cfg : AuditConfig} (hcfg : HexDigests cfg) {previous : String}
    {rows : List SecurityAuditEvent} (h : Linked cfg previous rows) {e : SecurityAuditEvent}
    (he : e ∈ rows) {hash : String} (hhash : e.eventHash = some hash) : isDigest hash = true := by
  induction rows generalizing previous with
  | nil => cases he
  | cons e' rows ih =>
      obtain ⟨-, h', hsome, hcompute, hrest⟩ := h
      rcases List.mem_cons.mp he with rfl | he
      · rw [hsome] at hhash
        cases hhash
        unfold computeAuditEventHash at hcompute
        split at hcompute
        · split at hcompute
          · cases hcompute
            exact hcfg.hmacSha256 _
          · cases hcompute
        · split at hcompute
          · cases hcompute
            exact hcfg.sha256 _
          · cases hcompute
      · exact ih hrest he

/-- A row is found under its id. -/
theorem get_of_mem {table : AuditTable} {e : SecurityAuditEvent} (he : e ∈ table.rows) :
    table.get e.id = some e := by
  have hsorted := table.sorted
  unfold AuditTable.get
  generalize table.rows = rows at he hsorted
  induction rows with
  | nil => cases he
  | cons e' rows ih =>
      obtain ⟨hlt, hrows⟩ := List.pairwise_cons.mp hsorted
      rcases List.mem_cons.mp he with rfl | he
      · rw [List.find?_cons_of_pos (by simp)]
      · have hne : e'.id ≠ e.id := by
          have := hlt e he
          omega
        rw [List.find?_cons_of_neg (by simpa using hne)]
        exact ih he hrows

section Comparison

variable {cfg : AuditConfig} {table₀ table : AuditTable}

/-- The id of an anchor that passes is not negative. -/
theorem validatedAnchorValues_nonneg {st : ChainState} {anchor : Anchor}
    (h : (validatedAnchorValues table st anchor).2 = []) {id : ℤ}
    (hid : anchor.latestEventId = some id) : 0 ≤ id := by
  have hids : ∀ errors, (anchorLatestEventId st anchor errors).2 = [] → 0 ≤ id := by
    intro errors hnil
    unfold anchorLatestEventId at hnil
    rw [hid] at hnil
    dsimp only at hnil
    split at hnil
    · exact absurd hnil (appendChainError_ne_nil _ _ _)
    · omega
  unfold validatedAnchorValues at h
  dsimp only at h
  split at h
  · next hne => exact absurd h hne
  next hnil =>
    exact hids _ (anchorLatestEventHash_eq_nil (not_not.mp hnil)).1

theorem latestEventId_eq (cfg : AuditConfig) (table : AuditTable) :
    (verifyAuditHashChain cfg table).latestEventId = table.hashedRows.getLast?.map (·.id) :=
  (latest_verifyEvents cfg table.rows).1

theorem latestEventHash_eq (cfg : AuditConfig) (table : AuditTable) :
    (verifyAuditHashChain cfg table).latestEventHash =
      table.hashedRows.getLast?.bind (·.eventHash) :=
  (latest_verifyEvents cfg table.rows).2

theorem anchorable_of_accepted
    (h : (verifyWithAnchor cfg table (auditLogAnchor cfg table₀)).accepted = true) :
    Anchorable table₀ table := by
  have hvalues : (validatedAnchorValues table (verifyAuditHashChain cfg table)
      (auditLogAnchor cfg table₀)).2 = [] := by
    unfold verifyWithAnchor compareAuditAnchor at h
    dsimp only at h
    split at h
    · cases h
    next herrors => exact not_not.mp herrors
  rcases (anchored_of_accepted h).row with ⟨-, -, hnone⟩ | ⟨id, hash, e, hid, -⟩
  · left
    simpa using (latestEventId_eq cfg table).symm.trans hnone
  · right
    have hlast := (latestEventId_eq cfg table₀).symm.trans hid
    obtain ⟨e₀, he₀, heid⟩ := Option.map_eq_some_iff.mp hlast
    exact ⟨e₀, he₀, heid ▸ validatedAnchorValues_nonneg hvalues hid⟩

theorem eq_of_rows (h : table.rows = table₀.rows) : table = table₀ := by
  cases table
  cases table₀
  cases h
  rfl

/-- The table without hashed rows has not grown. -/
theorem eq_of_no_hashedRows {new : List SecurityAuditEvent}
    (hrows : table.rows = table₀.rows ++ new)
    (hhashed : ∀ e ∈ new, hashed e = true) (h : table.hashedRows = []) :
    table.rows = table₀.rows := by
  have hnil : new = [] := by
    have hfilter : (table₀.rows ++ new).filter hashed = [] := hrows ▸ h
    rw [List.filter_append, List.filter_eq_self.mpr hhashed] at hfilter
    exact (List.append_eq_nil_iff.mp hfilter).2
  rw [hrows, hnil, List.append_nil]

/-- The head of a table is the anchor of that table. -/
theorem matches_own_anchor (cfg : AuditConfig) (table : AuditTable) :
    anchorMatchesCurrentHead table (verifyAuditHashChain cfg table) (auditLogAnchor cfg table) =
      true := by
  simp [anchorMatchesCurrentHead, headFields, auditLogAnchor]

theorem validatedAnchorValues_ok {st : ChainState} {anchor : Anchor}
    (halg : anchor.hashAlgorithm = auditHashAlgorithm)
    (hstart : anchor.chainStart = auditChainStartHash)
    (hvalid : anchor.valid = true)
    (hid : anchorLatestEventId st anchor [] = (anchor.latestEventId, []))
    (hhash : anchorLatestEventHash st anchor [] = (anchor.latestEventHash, []))
    (hposition : validateAnchorPosition table st anchor anchor.latestEventId [] = [])
    (hevent : validateAnchorEventHash table anchor.latestEventId anchor.latestEventHash [] = []) :
    validatedAnchorValues table st anchor = (anchor.latestEventId, []) := by
  unfold validatedAnchorValues
  dsimp only
  rw [expect_true (decide_eq_true halg), expect_true (decide_eq_true hstart),
    expect_true hvalid, hid]
  dsimp only
  rw [hhash]
  dsimp only
  rw [if_neg (not_not.mpr rfl), hposition, if_neg (not_not.mpr rfl), hevent]

theorem validateAnchorPosition_ok {st : ChainState} {anchor : Anchor} {id : Option ℤ}
    (hid : notBehind id st.latestEventId = true) (hcount : anchor.eventCount ≤ table.rows.length)
    (hverified : anchor.verifiedEventCount ≤ st.verifiedEventCount)
    (hlegacy : anchor.legacyUnhashedEventCount ≤ st.legacyUnhashedEventCount) :
    validateAnchorPosition table st anchor id [] = [] := by
  unfold validateAnchorPosition
  dsimp only
  rw [expect_true hid, expect_true (decide_eq_true hcount), expect_true (decide_eq_true hverified),
    expect_true (decide_eq_true hlegacy)]

/-- The counters of the grown table. -/
theorem counts_append {new : List SecurityAuditEvent} (hrows : table.rows = table₀.rows ++ new)
    (hhashed : ∀ e ∈ new, hashed e = true) :
    (verifyAuditHashChain cfg table).verifiedEventCount =
        (verifyAuditHashChain cfg table₀).verifiedEventCount + new.length ∧
      (verifyAuditHashChain cfg table).legacyUnhashedEventCount =
        (verifyAuditHashChain cfg table₀).legacyUnhashedEventCount := by
  have hsplit : verifyAuditHashChain cfg table =
      verifyEvents cfg (verifyAuditHashChain cfg table₀) new := by
    unfold verifyAuditHashChain
    rw [hrows, verifyEvents, List.foldl_append]
    rfl
  rw [hsplit]
  exact verifyEvents_hashed cfg _ hhashed

/-- The last hashed row of the grown table is not before the anchored one, and after it
if there are new rows. -/
theorem latest_append {new : List SecurityAuditEvent} (hrows : table.rows = table₀.rows ++ new)
    (hhashed : ∀ e ∈ new, hashed e = true) {e₀ : SecurityAuditEvent}
    (he₀ : table₀.hashedRows.getLast? = some e₀) :
    ∃ latest, table.hashedRows.getLast? = some latest ∧ e₀.id ≤ latest.id ∧
      (new ≠ [] → e₀.id < latest.id) := by
  have hfilter : table.hashedRows = table₀.hashedRows ++ new := by
    unfold AuditTable.hashedRows
    rw [hrows, List.filter_append, List.filter_eq_self.mpr hhashed]
  rcases List.eq_nil_or_concat new with rfl | ⟨before, e, rfl⟩
  · rw [hfilter, List.append_nil]
    exact ⟨e₀, he₀, le_rfl, fun h => absurd rfl h⟩
  · have hsorted := hashedRows_sorted table
    rw [hfilter, List.concat_eq_append, ← List.append_assoc] at hsorted ⊢
    have hlt : e₀.id < e.id := (List.pairwise_append.mp hsorted).2.2 e₀
      (List.mem_append_left _ (List.mem_of_getLast? he₀)) e (List.mem_cons_self ..)
    exact ⟨e, List.getLast?_concat .., le_of_lt hlt, fun _ => hlt⟩

theorem accepted_of_values
    (hvalues : validatedAnchorValues table (verifyAuditHashChain cfg table)
      (auditLogAnchor cfg table₀) = ((auditLogAnchor cfg table₀).latestEventId, []))
    (hvalid : (verifyAuditHashChain cfg table).valid = true)
    (h : anchorMatchesCurrentHead table (verifyAuditHashChain cfg table)
        (auditLogAnchor cfg table₀) = true ∨
      anchorIsAppendOnlyStale table (verifyAuditHashChain cfg table) (auditLogAnchor cfg table₀)
        (auditLogAnchor cfg table₀).latestEventId = true) :
    (verifyWithAnchor cfg table (auditLogAnchor cfg table₀)).accepted = true := by
  unfold verifyWithAnchor compareAuditAnchor
  rw [hvalues]
  dsimp only
  rw [if_neg (not_not.mpr rfl), hvalid, if_neg (by decide)]
  by_cases hhead : anchorMatchesCurrentHead table (verifyAuditHashChain cfg table)
      (auditLogAnchor cfg table₀) = true
  · rw [if_pos hhead]
    rfl
  · rw [if_neg hhead, if_pos (h.resolve_left hhead)]
    rfl

/-- The anchored row is still there. -/
theorem accepted_of_anchored_row (hcfg : HexDigests cfg)
    (h₀ : (verifyAuditHashChain cfg table₀).valid = true)
    (hvalid : (verifyAuditHashChain cfg table).valid = true) {new : List SecurityAuditEvent}
    (hrows : table.rows = table₀.rows ++ new) (hhashed : ∀ e ∈ new, hashed e = true)
    {e₀ : SecurityAuditEvent} (he₀ : table₀.hashedRows.getLast? = some e₀) (hnonneg : 0 ≤ e₀.id) :
    (verifyWithAnchor cfg table (auditLogAnchor cfg table₀)).accepted = true := by
  have hmem₀ : e₀ ∈ table₀.hashedRows := List.mem_of_getLast? he₀
  obtain ⟨hmem, hhash₀⟩ := List.mem_filter.mp hmem₀
  obtain ⟨hash, hhash, -⟩ := hashed_iff.mp hhash₀
  -- what the anchor says of its table is the anchored row
  have hanchorId : (auditLogAnchor cfg table₀).latestEventId = some e₀.id := by
    show (verifyAuditHashChain cfg table₀).latestEventId = _
    rw [latestEventId_eq, he₀]
    rfl
  have hanchorHash : (auditLogAnchor cfg table₀).latestEventHash = some hash := by
    show (verifyAuditHashChain cfg table₀).latestEventHash = _
    rw [latestEventHash_eq, he₀]
    exact hhash
  have hdigest : isDigest hash = true := isDigest_of_linked hcfg (linked_of_valid h₀) hmem₀ hhash
  obtain ⟨latest, hlatest, hle, hlt⟩ := latest_append hrows hhashed he₀
  have hlatestId : (verifyAuditHashChain cfg table).latestEventId = some latest.id := by
    rw [latestEventId_eq, hlatest]
    rfl
  have hget : table.get e₀.id = some e₀ := by
    refine get_of_mem ?_
    rw [hrows]
    exact List.mem_append_left _ hmem
  obtain ⟨hverified, hlegacy⟩ := @counts_append cfg _ _ _ hrows hhashed
  have hlength : table.rows.length = table₀.rows.length + new.length := by
    rw [hrows, List.length_append]
  -- the anchor counts no more than the grown table
  have hcount : (auditLogAnchor cfg table₀).eventCount ≤ table.rows.length := by
    show table₀.rows.length ≤ _
    omega
  have hcountVerified : (auditLogAnchor cfg table₀).verifiedEventCount ≤
      (verifyAuditHashChain cfg table).verifiedEventCount := by
    show (verifyAuditHashChain cfg table₀).verifiedEventCount ≤ _
    omega
  have hcountLegacy : (auditLogAnchor cfg table₀).legacyUnhashedEventCount ≤
      (verifyAuditHashChain cfg table).legacyUnhashedEventCount := le_of_eq hlegacy.symm
  -- the four checks of the values, then the position against the current head
  refine accepted_of_values (validatedAnchorValues_ok rfl rfl h₀ ?_ ?_ ?_ ?_) hvalid ?_
  · unfold anchorLatestEventId
    rw [hanchorId]
    exact if_neg (by omega)
  · unfold anchorLatestEventHash
    rw [hanchorHash]
    exact if_pos hdigest
  · refine validateAnchorPosition_ok ?_ hcount hcountVerified hcountLegacy
    rw [hanchorId, hlatestId]
    exact decide_eq_true hle
  · unfold validateAnchorEventHash
    rw [hanchorId, hanchorHash, if_neg (by simp)]
    dsimp only
    rw [Option.bind_some, hget, Option.filter_some, hhash₀]
    exact expect_true (decide_eq_true hhash) _ _ _
  · by_cases hnew : new = []
    · left
      rw [hnew, List.append_nil] at hrows
      rw [eq_of_rows hrows]
      exact matches_own_anchor cfg table₀
    -- events were added since: the anchor is stale, by appended rows only
    · right
      have hpos : 0 < new.length := List.length_pos_iff.mpr hnew
      have hgrown : (auditLogAnchor cfg table₀).eventCount < table.rows.length := by
        show table₀.rows.length < _
        omega
      unfold anchorIsAppendOnlyStale
      rw [hanchorId, hlatestId]
      simp [hlt hnew, hgrown, hcountVerified, hcountLegacy]

/-- There is no hashed row, and none was added. -/
theorem accepted_of_unhashed (h₀ : (verifyAuditHashChain cfg table₀).valid = true)
    (h : table₀.hashedRows = []) :
    (verifyWithAnchor cfg table₀ (auditLogAnchor cfg table₀)).accepted = true := by
  have hid : (verifyAuditHashChain cfg table₀).latestEventId = none := by
    rw [latestEventId_eq, h]
    rfl
  have hhash : (verifyAuditHashChain cfg table₀).latestEventHash = none := by
    rw [latestEventHash_eq, h]
    rfl
  have hanchorId : (auditLogAnchor cfg table₀).latestEventId = none := hid
  have hanchorHash : (auditLogAnchor cfg table₀).latestEventHash = none := hhash
  refine accepted_of_values (validatedAnchorValues_ok rfl rfl h₀ ?_ ?_ ?_ ?_) h₀
    (.inl (matches_own_anchor cfg table₀))
  · unfold anchorLatestEventId
    rw [hanchorId]
    exact if_pos hid
  · unfold anchorLatestEventHash
    rw [hanchorHash]
    exact if_pos hhash
  · refine validateAnchorPosition_ok ?_ le_rfl le_rfl le_rfl
    rw [hanchorId]
    rfl
  · unfold validateAnchorEventHash
    exact if_pos ⟨hanchorId, hanchorHash⟩

end Comparison

/-- The anchor of an accepted table is read back from its file, and every table that
has grown from it is found validated or stale exactly if it has no hashed row or the
anchored table had one, under an id that is not negative. -/
theorem anchor_complete_iff {cfg : AuditConfig} (hcfg : HexDigests cfg)
    (floatOf : List Char → FloatText) (generatedAt : ℤ) {table₀ table : AuditTable}
    (h₀ : (verifyAuditHashChain cfg table₀).valid = true) (h : Written cfg table₀ table) :
    ∃ anchor, readAuditLogAnchor floatOf
      (writeAuditLogAnchor cfg table₀ generatedAt) = some anchor ∧
      ((verifyWithAnchor cfg table anchor).accepted = true ↔ Anchorable table₀ table) := by
  refine ⟨_, readAuditLogAnchor_write floatOf cfg table₀ generatedAt, anchorable_of_accepted, ?_⟩
  obtain ⟨hvalid, new, hrows, hhashed⟩ := h.rows hcfg h₀
  rintro (hnone | ⟨e₀, he₀, hnonneg⟩)
  · obtain rfl := eq_of_rows (eq_of_no_hashedRows hrows hhashed hnone)
    exact accepted_of_unhashed h₀ hnone
  · exact accepted_of_anchored_row hcfg h₀ hvalid hrows hhashed he₀ hnonneg

/-! ### Two events -/

/-- Every digest is the same. -/
def constantConfig : AuditConfig := ⟨true, fun _ => digest 'a', fun _ => digest 'b'⟩

theorem constantConfig_hexDigests : HexDigests constantConfig where
  hmacSha256 _ := by
    show isDigest (digest 'a') = true
    decide
  sha256 _ := by
    show isDigest (digest 'b') = true
    decide

def sampleDraft (eventType : String) : AuditDraft :=
  ⟨eventType, "success", some 1, "203.0.113.7", "agent", "c", none, .obj [], 0⟩

def loginEvent : SecurityAuditEvent :=
  sampleEvent 1 "login" auditHashAlgorithm auditChainStartHash (digest 'a')

def logoutEvent : SecurityAuditEvent :=
  sampleEvent 2 "logout" auditHashAlgorithm (digest 'a') (digest 'a')

def emptyTable : AuditTable := ⟨[], sorted_nil⟩

def loginTable : AuditTable := ⟨[loginEvent], List.pairwise_singleton _ _⟩

def logoutTable : AuditTable :=
  ⟨[loginEvent, logoutEvent], by simp [loginEvent, logoutEvent, sampleEvent]⟩

theorem written_loginTable : Written constantConfig emptyTable loginTable :=
  .write .refl 1 (sampleDraft "login") loginEvent rfl rfl

theorem written_logoutTable : Written constantConfig loginTable logoutTable :=
  .write .refl 2 (sampleDraft "logout") logoutEvent rfl rfl

/-- A second event after the anchor of the first. -/
theorem anchor_complete_iff_logout :
    ∃ anchor, readAuditLogAnchor (fun _ => ⟨[], nofun⟩)
      (writeAuditLogAnchor constantConfig loginTable 0) = some anchor ∧
      (verifyWithAnchor constantConfig logoutTable anchor).accepted = true := by
  have hvalid : (verifyAuditHashChain constantConfig loginTable).valid = true := by decide +kernel
  obtain ⟨anchor, hread, hiff⟩ := anchor_complete_iff constantConfig_hexDigests
    (fun _ => ⟨[], nofun⟩) 0 hvalid written_logoutTable
  exact ⟨anchor, hread, hiff.mpr (.inr ⟨loginEvent, rfl, by decide⟩)⟩

/-- The anchor of the empty table, after the first event. -/
theorem empty_anchor_critical :
    HexDigests constantConfig ∧ (verifyAuditHashChain constantConfig emptyTable).valid = true ∧
      Written constantConfig emptyTable loginTable ∧
      readAuditLogAnchor (fun _ => ⟨[], nofun⟩) (writeAuditLogAnchor constantConfig emptyTable 0) =
        some (auditLogAnchor constantConfig emptyTable) ∧
      (verifyWithAnchor constantConfig loginTable
        (auditLogAnchor constantConfig emptyTable)).status =
        .critical :=
  ⟨constantConfig_hexDigests, by decide +kernel, written_loginTable,
    readAuditLogAnchor_write _ _ _ _, by decide +kernel⟩

end SitBank.Audit
