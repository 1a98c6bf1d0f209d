import SitBank.Audit.Evidence

/-!
Anchors: the end of a chain, kept outside the database.

An anchor is what `audit_log_anchor` wrote, and reading its file gives back the
same values; so its counts are not negative, and the tests for the types of its
fields are left out. A table that is compared with an anchor and found validated
or stale contains the anchored row, and with it everything that leads to it. The
ids of the rows are not hashed: only the id of the anchored row is known.
-/

namespace SitBank.Audit

open SitBank.Python

structure Anchor where
  hashAlgorithm : String
  chainStart : String
  eventCount : ℕ
  verifiedEventCount : ℕ
  legacyUnhashedEventCount : ℕ
  latestEventId : Option ℤ
  latestEventHash : Option String
  valid : Bool
  deriving DecidableEq

def auditLogAnchor (cfg : AuditConfig) (table : AuditTable) : Anchor :=
  let st := verifyAuditHashChain cfg table
  { hashAlgorithm := auditHashAlgorithm
    chainStart := auditChainStartHash
    eventCount := table.rows.length
    verifiedEventCount := st.verifiedEventCount
    legacyUnhashedEventCount := st.legacyUnhashedEventCount
    latestEventId := st.latestEventId
    latestEventHash := st.latestEventHash
    valid := st.valid }

inductive AnchorStatus
  | checking
  | critical
  | notCheckedDueChainFailure
  | validated
  | stale
  deriving DecidableEq, Repr

/-- What `_compare_audit_anchor` adds to the result, and the errors with its
own. -/
structure AnchorReport where
  status : AnchorStatus
  errors : List ChainError
  anchorErrors : List ChainError
  anchorEventId : Option ℤ
  eventsSinceAnchor : Option ℤ

/-! ### Comparison -/

section Comparison

variable (table : AuditTable) (st : ChainState) (anchor : Anchor)

def eventIdForError : ℤ := st.latestEventId.getD 0

/-- `_anchor_latest_event_id`. -/
def anchorLatestEventId (errors : List ChainError) : Option ℤ × List ChainError :=
  let malformed := appendChainError errors (eventIdForError st) (.anchorMalformed .latestEventId)
  match anchor.latestEventId with
  | none => if st.latestEventId = none then (none, errors) else (none, malformed)
  | some value => if value < 0 then (none, malformed) else (some value, errors)

/-- `re.fullmatch(r"[0-9a-f]{64}", value)`. -/
def isDigest (s : String) : Bool := s.toList.length = 64 && isHex s

def anchorLatestEventHash (errors : List ChainError) : Option String × List ChainError :=
  let malformed := appendChainError errors (eventIdForError st) (.anchorMalformed .latestEventHash)
  match anchor.latestEventHash with
  | none => if st.latestEventHash = none then (none, errors) else (none, malformed)
  | some value => if isDigest value then (some value, errors) else (none, malformed)

def notBehind : Option ℤ → Option ℤ → Bool
  | some anchorId, some latestId => anchorId ≤ latestId
  | _, _ => true

def validateAnchorPosition (anchorEventId : Option ℤ) (errors : List ChainError) :
    List ChainError :=
  let id := eventIdForError st
  let errors := expect (notBehind anchorEventId st.latestEventId) id
    (.anchorCurrentBehind .latestEventId) errors
  let errors := expect (anchor.eventCount ≤ table.rows.length) id
    (.anchorCurrentBehind .eventCount) errors
  let errors := expect (anchor.verifiedEventCount ≤ st.verifiedEventCount) id
    (.anchorCurrentBehind .verifiedEventCount) errors
  expect (anchor.legacyUnhashedEventCount ≤ st.legacyUnhashedEventCount) id
    (.anchorCurrentBehind .legacyUnhashedEventCount) errors

/-- `db.session.get(SecurityAuditEvent, id)`. -/
def AuditTable.get (table : AuditTable) (id : ℤ) : Option SecurityAuditEvent :=
  table.rows.find? fun e => e.id = id

def validateAnchorEventHash (anchorEventId : Option ℤ) (anchorEventHash : Option String)
    (errors : List ChainError) : List ChainError :=
  if anchorEventId = none ∧ anchorEventHash = none then errors
  else
    let id := anchorEventId.getD 0
    match (anchorEventId.bind table.get).filter hashed with
    | none => appendChainError errors id .anchorEventMissing
    | some e => expect (e.eventHash = anchorEventHash) id .anchorEventHashMismatch errors

/-- `_validated_anchor_values`: the id of the anchor, and the errors. -/
def validatedAnchorValues : Option ℤ × List ChainError :=
  let id := eventIdForError st
  let errors := expect (anchor.hashAlgorithm = auditHashAlgorithm) id
    (.anchorMismatch .hashAlgorithm) []
  let errors := expect (anchor.chainStart = auditChainStartHash) id
    (.anchorMismatch .chainStart) errors
  let errors := expect anchor.valid id (.anchorMalformed .valid) errors
  let (anchorEventId, errors) := anchorLatestEventId st anchor errors
  let (anchorEventHash, errors) := anchorLatestEventHash st anchor errors
  if errors ≠ [] then (anchorEventId, errors)
  else
    let errors := validateAnchorPosition table st anchor anchorEventId errors
    if errors ≠ [] then (anchorEventId, errors)
    else (anchorEventId, validateAnchorEventHash table anchorEventId anchorEventHash errors)

/-- The fields of `_ANCHOR_CURRENT_HEAD_FIELDS`, and whether they agree. -/
def headFields : List (AnchorField × Bool) :=
  [(.hashAlgorithm, anchor.hashAlgorithm = auditHashAlgorithm),
    (.chainStart, anchor.chainStart = auditChainStartHash),
    (.eventCount, anchor.eventCount = table.rows.length),
    (.verifiedEventCount, anchor.verifiedEventCount = st.verifiedEventCount),
    (.legacyUnhashedEventCount, anchor.legacyUnhashedEventCount = st.legacyUnhashedEventCount),
    (.latestEventId, anchor.latestEventId = st.latestEventId),
    (.latestEventHash, anchor.latestEventHash = st.latestEventHash)]

def anchorMatchesCurrentHead : Bool := (headFields table st anchor).all fun f => f.2

def anchorIsAppendOnlyStale (anchorEventId : Option ℤ) : Bool :=
  match anchorEventId, st.latestEventId with
  | some anchorId, some latestId =>
      anchorId < latestId && anchor.eventCount < table.rows.length &&
        anchor.verifiedEventCount ≤ st.verifiedEventCount &&
        anchor.legacyUnhashedEventCount ≤ st.legacyUnhashedEventCount
  | _, _ => false

def criticalAnchor (anchorEventId : Option ℤ) (anchorErrors : List ChainError) : AnchorReport :=
  ⟨.critical, st.errors ++ anchorErrors, anchorErrors, anchorEventId, none⟩

def mismatchErrors : List ChainError :=
  (headFields table st anchor).foldl (fun errors f =>
    expect f.2 (eventIdForError st) (.anchorMismatch f.1) errors) []

def compareAuditAnchor : AnchorReport :=
  let (anchorEventId, anchorErrors) := validatedAnchorValues table st anchor
  if anchorErrors ≠ [] then criticalAnchor st anchorEventId anchorErrors
  else if !st.valid then ⟨.notCheckedDueChainFailure, st.errors, [], anchorEventId, none⟩
  else if anchorMatchesCurrentHead table st anchor then
    ⟨.validated, st.errors, [], anchorEventId, some 0⟩
  else if anchorIsAppendOnlyStale table st anchor anchorEventId then
    ⟨.stale, st.errors, [], anchorEventId, some (table.rows.length - anchor.eventCount)⟩
  else if mismatchErrors table st anchor ≠ [] then
    criticalAnchor st anchorEventId (mismatchErrors table st anchor)
  else ⟨.checking, st.errors, [], anchorEventId, none⟩

end Comparison

/-- `verify_audit_hash_chain(anchor=anchor)`. -/
def verifyWithAnchor (cfg : AuditConfig) (table : AuditTable) (anchor : Anchor) : AnchorReport :=
  compareAuditAnchor table (verifyAuditHashChain cfg table) anchor

/-- The status is validated or stale. -/
def AnchorReport.accepted (report : AnchorReport) : Bool :=
  report.status = .validated || report.status = .stale

/-- `refresh_audit_log_anchor`: the new anchor, or `none` where it raises. -/
def refreshAuditLogAnchor (cfg : AuditConfig) (table : AuditTable) (anchor : Anchor) :
    Option Anchor :=
  let report := verifyWithAnchor cfg table anchor
  if report.errors = [] ∧ report.accepted then
    let refreshed := auditLogAnchor cfg table
    if refreshed.valid then some refreshed else none
  else none

/-! ### Where the loop ends -/

/-- The last hashed row, as the loop remembers it. -/
theorem latest_verifyEvents (cfg : AuditConfig) (rows : List SecurityAuditEvent) :
    (verifyEvents cfg .initial rows).latestEventId = (rows.filter hashed).getLast?.map (·.id) ∧
      (verifyEvents cfg .initial rows).latestEventHash =
        (rows.filter hashed).getLast?.bind (·.eventHash) := by
  induction rows using List.reverseRecOn with
  | nil => exact ⟨rfl, rfl⟩
  | append_singleton rows e ih =>
      rw [verifyEvents_snoc]
      cases he : hashed e with
      | false =>
          have hfilter : (rows ++ [e]).filter hashed = rows.filter hashed := by
            rw [List.filter_append, List.filter_cons_of_neg (by rw [he]; decide), List.filter_nil,
              List.append_nil]
          rw [hfilter, verifyEvent_missing he, verifyEvent.missing]
          split <;> exact ih
      | true =>
          obtain ⟨hash, hhash, hne⟩ := hashed_iff.mp he
          have hfilter : (rows ++ [e]).filter hashed = rows.filter hashed ++ [e] := by
            rw [List.filter_append, List.filter_cons_of_pos he, List.filter_nil]
          rw [hfilter, verifyEvent_hashed hhash hne, List.getLast?_concat]
          exact ⟨rfl, hhash.symm⟩

theorem lastHash_of_getLast? {rows : List SecurityAuditEvent} {e : SecurityAuditEvent} {h : String}
    (hlast : rows.getLast? = some e) (he : e.eventHash = some h) (previous : String) :
    lastHash previous rows = h := by
  rcases List.eq_nil_or_concat rows with rfl | ⟨before, e', rfl⟩
  · cases hlast
  · rw [List.concat_eq_append, List.getLast?_concat] at hlast
    cases hlast
    rw [List.concat_eq_append, lastHash_append, lastHash, lastHash, he]
    rfl

/-! ### What an accepted anchor says -/

/-- A table that is accepted with an anchor is valid, and it has the anchored row,
or neither it nor the anchored table has a hashed row. -/
structure Anchored (cfg : AuditConfig) (table : AuditTable) (anchor : Anchor) : Prop where
  valid : (verifyAuditHashChain cfg table).valid = true
  anchorValid : anchor.valid = true
  row : (anchor.latestEventId = none ∧ anchor.latestEventHash = none ∧
      (verifyAuditHashChain cfg table).latestEventId = none) ∨
    ∃ id hash e, anchor.latestEventId = some id ∧ anchor.latestEventHash = some hash ∧
      table.get id = some e ∧ hashed e = true ∧ e.eventHash = some hash

theorem anchorLatestEventId_eq_nil {st : ChainState} {anchor : Anchor} {errors : List ChainError}
    (h : (anchorLatestEventId st anchor errors).2 = []) :
    errors = [] ∧ (anchorLatestEventId st anchor errors).1 = anchor.latestEventId ∧
      (anchor.latestEventId = none → st.latestEventId = none) := by
  unfold anchorLatestEventId at h ⊢
  dsimp only at h ⊢
  split at h
  · next hnone =>
      split at h
      · next hst =>
          rw [hnone, if_pos hst]
          exact ⟨h, rfl, fun _ => hst⟩
      · exact absurd h (appendChainError_ne_nil _ _ _)
  · next value hsome =>
      split at h
      · exact absurd h (appendChainError_ne_nil _ _ _)
      · next hv =>
          rw [hsome, if_neg hv]
          exact ⟨h, rfl, fun hnone => nomatch hnone⟩

theorem anchorLatestEventHash_eq_nil {st : ChainState} {anchor : Anchor}
    {errors : List ChainError} (h : (anchorLatestEventHash st anchor errors).2 = []) :
    errors = [] ∧ (anchorLatestEventHash st anchor errors).1 = anchor.latestEventHash := by
  unfold anchorLatestEventHash at h ⊢
  dsimp only at h ⊢
  split at h
  · next hnone =>
      split at h
      · next hst =>
          rw [hnone, if_pos hst]
          exact ⟨h, rfl⟩
      · exact absurd h (appendChainError_ne_nil _ _ _)
  · next value hsome =>
      split at h
      · next hv =>
          rw [hsome, if_pos hv]
          exact ⟨h, rfl⟩
      · exact absurd h (appendChainError_ne_nil _ _ _)

theorem validateAnchorEventHash_eq_nil {table : AuditTable} {id : Option ℤ} {hash : Option String}
    {errors : List ChainError} (h : validateAnchorEventHash table id hash errors = []) :
    (id = none ∧ hash = none) ∨ ∃ a hash' e, id = some a ∧ hash = some hash' ∧
      table.get a = some e ∧ hashed e = true ∧ e.eventHash = some hash' := by
  unfold validateAnchorEventHash at h
  split at h
  · next hnone => exact .inl hnone
  · dsimp only at h
    split at h
    · exact absurd h (appendChainError_ne_nil _ _ _)
    · next e he =>
        obtain ⟨hbind, hhashed⟩ := Option.filter_eq_some_iff.mp he
        obtain ⟨a, rfl, hget⟩ := Option.bind_eq_some_iff.mp hbind
        obtain ⟨hash', hsome, _⟩ := hashed_iff.mp hhashed
        obtain ⟨heq, _⟩ := expect_eq_nil h
        rw [← of_decide_eq_true heq]
        exact .inr ⟨a, hash', e, rfl, hsome, hget, hhashed, hsome⟩

theorem validatedAnchorValues_eq_nil {table : AuditTable} {st : ChainState} {anchor : Anchor}
    (h : (validatedAnchorValues table st anchor).2 = []) :
    anchor.valid = true ∧ ((anchor.latestEventId = none ∧ anchor.latestEventHash = none ∧
        st.latestEventId = none) ∨
      ∃ id hash e, anchor.latestEventId = some id ∧ anchor.latestEventHash = some hash ∧
        table.get id = some e ∧ hashed e = true ∧ e.eventHash = some hash) := by
  unfold validatedAnchorValues at h
  dsimp only at h
  split at h
  · next hne => exact absurd h hne
  next hnil =>
    have hnil := not_not.mp hnil
    split at h
    · next hne => exact absurd h hne
    obtain ⟨hids, hhash⟩ := anchorLatestEventHash_eq_nil hnil
    obtain ⟨hvalid, hid, hst⟩ := anchorLatestEventId_eq_nil hids
    rw [hhash, hid] at h
    refine ⟨(expect_eq_nil hvalid).1, (validateAnchorEventHash_eq_nil h).imp ?_ id⟩
    rintro ⟨h₁, h₂⟩
    exact ⟨h₁, h₂, hst h₁⟩

theorem anchored_of_accepted {cfg : AuditConfig} {table : AuditTable} {anchor : Anchor}
    (h : (verifyWithAnchor cfg table anchor).accepted = true) : Anchored cfg table anchor := by
  have hcases : (validatedAnchorValues table (verifyAuditHashChain cfg table) anchor).2 = [] ∧
      (verifyAuditHashChain cfg table).valid = true := by
    unfold verifyWithAnchor compareAuditAnchor at h
    dsimp only at h
    split at h
    · cases h
    next herrors =>
      split at h
      · cases h
      next hvalid => exact ⟨not_not.mp herrors, by simpa using hvalid⟩
  obtain ⟨hanchor, hrow⟩ := validatedAnchorValues_eq_nil hcases.1
  exact ⟨hcases.2, hanchor, hrow⟩

/-- The rows that an anchor speaks about. -/
def upTo (anchor : Anchor) (e : SecurityAuditEvent) : Bool :=
  match anchor.latestEventId with
  | none => true
  | some id => e.id ≤ id

theorem hashedRows_sorted (table : AuditTable) :
    table.hashedRows.Pairwise fun e e' => e.id < e'.id := table.sorted.filter _

/-- In a table sorted by ids the rows up to one of them end with it. -/
theorem filter_le_of_sorted {before after : List SecurityAuditEvent} {e : SecurityAuditEvent}
    (h : (before ++ e :: after).Pairwise fun e e' => e.id < e'.id) :
    (before ++ e :: after).filter (fun e' => e'.id ≤ e.id) = before ++ [e] := by
  obtain ⟨_, hafter, hbefore⟩ := List.pairwise_append.mp h
  have hb : before.filter (fun e' => e'.id ≤ e.id) = before :=
    List.filter_eq_self.mpr fun e' he' =>
      decide_eq_true (le_of_lt (hbefore e' he' e (List.mem_cons_self ..)))
  have ha : after.filter (fun e' => e'.id ≤ e.id) = [] :=
    List.filter_eq_nil_iff.mpr fun e' he' => by
      simpa using (List.pairwise_cons.mp hafter).1 e' he'
  rw [List.filter_append, hb, List.filter_cons_of_pos (by simp), ha]

theorem prefix_filter_le {rows : List SecurityAuditEvent}
    (h : rows.Pairwise fun e e' => e.id < e'.id) (id : ℤ) :
    rows.filter (fun e => e.id ≤ id) <+: rows := by
  induction rows with
  | nil => exact List.nil_prefix
  | cons e rows ih =>
      obtain ⟨hlt, hrows⟩ := List.pairwise_cons.mp h
      by_cases he : e.id ≤ id
      · rw [List.filter_cons_of_pos (by simpa using he)]
        exact List.prefix_cons_inj e |>.mpr (ih hrows)
      · have hnil : rows.filter (fun e => e.id ≤ id) = [] :=
          List.filter_eq_nil_iff.mpr fun e' he' => by
            have := hlt e' he'
            simp only [decide_eq_true_eq]
            omega
        rw [List.filter_cons_of_neg (by simpa using he), hnil]
        exact List.nil_prefix

/-- The table is one from which the anchor was made: both have the same payloads,
up to the anchored row. -/
theorem payloads_upTo_anchor {cfg : AuditConfig} {S : Set (List Char)} (hcfg : IdealHash cfg S)
    {table₀ table : AuditTable} (hS₀ : payloads table₀.hashedRows ⊆ S)
    (hS : payloads table.hashedRows ⊆ S)
    (h : (verifyWithAnchor cfg table (auditLogAnchor cfg table₀)).accepted = true) :
    (table.hashedRows.filter (upTo (auditLogAnchor cfg table₀))).map canonicalAuditEventPayload =
      table₀.hashedRows.map canonicalAuditEventPayload := by
  obtain ⟨hvalid, hvalid₀, hrow⟩ := anchored_of_accepted h
  have hlinked := linked_of_valid hvalid
  have hlinked₀ := linked_of_valid hvalid₀
  obtain ⟨hid₀, hhash₀⟩ := latest_verifyEvents cfg table₀.rows
  have hanchorId : (auditLogAnchor cfg table₀).latestEventId =
    table₀.hashedRows.getLast?.map (·.id) := hid₀
  have hanchorHash : (auditLogAnchor cfg table₀).latestEventHash =
    table₀.hashedRows.getLast?.bind (·.eventHash) := hhash₀
  rcases hrow with ⟨hnone, -, hst⟩ | ⟨id, hash, e, hid, hhash, hget, hhashed, heHash⟩
  -- neither table has a hashed event
  · have hempty₀ : table₀.hashedRows = [] := by simpa using hanchorId.symm.trans hnone
    have hlatest : (verifyAuditHashChain cfg table).latestEventId =
      table.hashedRows.getLast?.map (·.id) := (latest_verifyEvents cfg table.rows).1
    have hempty : table.hashedRows = [] := by simpa using hlatest.symm.trans hst
    rw [hempty, hempty₀]
    rfl
  · have heid : e.id = id := by simpa using List.find?_some hget
    have hmem : e ∈ table.hashedRows :=
      List.mem_filter.mpr ⟨List.mem_of_find?_eq_some hget, hhashed⟩
    obtain ⟨before, after, hsplit⟩ := List.append_of_mem hmem
    have hupTo : upTo (auditLogAnchor cfg table₀) = fun e' => decide (e'.id ≤ e.id) := by
      funext e'
      rw [upTo, hid, heid]
    -- the ids ascend, so the rows up to the anchor end with the anchored one
    have hfilter : table.hashedRows.filter (upTo (auditLogAnchor cfg table₀)) = before ++ [e] := by
      rw [hupTo, hsplit]
      refine filter_le_of_sorted ?_
      rw [← hsplit]
      exact hashedRows_sorted table
    rw [hfilter]
    rw [hsplit, List.append_cons] at hlinked hS
    -- both chains end in the anchored hash, and equal hashes come from equal payloads
    have hlast : lastHash auditChainStartHash (before ++ [e]) =
        lastHash auditChainStartHash table₀.hashedRows := by
      obtain ⟨e₀, he₀, he₀Hash⟩ := Option.bind_eq_some_iff.mp (hanchorHash.symm.trans hhash)
      rw [lastHash_of_getLast? he₀ he₀Hash,
        lastHash_of_getLast? (List.getLast?_concat ..) heHash]
    exact payloads_eq_of_lastHash hcfg (payloads_append_subset hS).1 hS₀
      (linked_append.mp hlinked).1 hlinked₀ hlast

/-! ### Refreshes -/

/-- The anchor in the file was first made from one table and then refreshed, each
time on one table; `S` holds the payloads of all of them. -/
inductive Refreshed (cfg : AuditConfig) (S : Set (List Char)) (first : AuditTable) :
    AuditTable → Prop
  | first (hS : payloads first.hashedRows ⊆ S) : Refreshed cfg S first first
  | refresh {table table' : AuditTable} (h : Refreshed cfg S first table)
      (hS : payloads table'.hashedRows ⊆ S)
      (hr : refreshAuditLogAnchor cfg table' (auditLogAnchor cfg table) =
        some (auditLogAnchor cfg table')) : Refreshed cfg S first table'

theorem Refreshed.subset {cfg : AuditConfig} {S : Set (List Char)} {first table : AuditTable}
    (h : Refreshed cfg S first table) : payloads table.hashedRows ⊆ S := by
  cases h with
  | first hS => exact hS
  | refresh _ hS _ => exact hS

theorem accepted_of_refresh {cfg : AuditConfig} {table : AuditTable} {anchor anchor' : Anchor}
    (h : refreshAuditLogAnchor cfg table anchor = some anchor') :
    (verifyWithAnchor cfg table anchor).accepted = true := by
  unfold refreshAuditLogAnchor at h
  dsimp only at h
  split at h
  · next hok => exact hok.2
  · cases h

/-- The payloads of the anchored table come first. -/
theorem prefix_of_accepted {cfg : AuditConfig} {S : Set (List Char)} (hcfg : IdealHash cfg S)
    {table₀ table : AuditTable} (hS₀ : payloads table₀.hashedRows ⊆ S)
    (hS : payloads table.hashedRows ⊆ S)
    (h : (verifyWithAnchor cfg table (auditLogAnchor cfg table₀)).accepted = true) :
    table₀.hashedRows.map canonicalAuditEventPayload <+:
      table.hashedRows.map canonicalAuditEventPayload := by
  rw [← payloads_upTo_anchor hcfg hS₀ hS h]
  refine List.IsPrefix.map _ ?_
  unfold upTo
  split
  · rw [List.filter_eq_self.mpr fun _ _ => rfl]
  · next id _ => exact prefix_filter_le (hashedRows_sorted table) id

theorem Refreshed.starts {cfg : AuditConfig} {S : Set (List Char)} (hcfg : IdealHash cfg S)
    {first table : AuditTable} (h : Refreshed cfg S first table) :
    first.hashedRows.map canonicalAuditEventPayload <+:
      table.hashedRows.map canonicalAuditEventPayload := by
  induction h with
  | first => exact List.prefix_refl _
  | refresh h hS hr ih =>
      exact ih.trans (prefix_of_accepted hcfg h.subset hS (accepted_of_refresh hr))

/-- A table that is validated or stale with respect to an anchor has exactly the
payloads of the anchored table up to the anchored row; and it starts with the
payloads of the table of the first anchor, however often the anchor was
refreshed since. -/
theorem anchor_sound {cfg : AuditConfig} {S : Set (List Char)} (hcfg : IdealHash cfg S)
    {first anchored table : AuditTable} (h : Refreshed cfg S first anchored)
    (hS : payloads table.hashedRows ⊆ S)
    (hok : (verifyWithAnchor cfg table (auditLogAnchor cfg anchored)).accepted = true) :
    (table.hashedRows.filter (upTo (auditLogAnchor cfg anchored))).map
        canonicalAuditEventPayload = anchored.hashedRows.map canonicalAuditEventPayload ∧
      first.hashedRows.map canonicalAuditEventPayload <+:
        table.hashedRows.map canonicalAuditEventPayload :=
  ⟨payloads_upTo_anchor hcfg h.subset hS hok,
    (h.starts hcfg).trans (prefix_of_accepted hcfg h.subset hS hok)⟩

/-! ### Three rows under other ids -/

/-- The rows of a chain of three, with these ids. -/
def threeRows (a b c : ℤ) : List SecurityAuditEvent :=
  [sampleEvent a "login" auditHashAlgorithm auditChainStartHash (digest 'a'),
    sampleEvent b "logout" auditHashAlgorithm (digest 'a') (digest 'b'),
    sampleEvent c "freeze" auditHashAlgorithm (digest 'b') (digest 'c')]

def threeRowConfig : AuditConfig where
  keyUsable := true
  hmacSha256 m := digest (lookUp ['a', 'b', 'c'] 'd' m)
  sha256 m := digest (lookUp ['1', '2', '3'] '4' m)
where
  lookUp (names : List Char) (default : Char) (m : List Char) : Char :=
    ((((threeRows 1 2 3).map canonicalAuditEventPayload).zip names).lookup m).getD default

theorem threeRowConfig_ideal : IdealHash threeRowConfig (payloads (threeRows 1 2 3)) :=
  idealHash_of_check (by decide +kernel)

/-- The first row only. -/
def firstTable : AuditTable := ⟨(threeRows 1 2 3).take 1, List.pairwise_singleton _ _⟩

def threeTable (a b c : ℤ) (hab : a < b) (hbc : b < c) : AuditTable where
  rows := threeRows a b c
  sorted := by
    have hac := lt_trans hab hbc
    simp [threeRows, sampleEvent, hab, hbc, hac]

theorem refreshed_threeTable : Refreshed threeRowConfig (payloads (threeRows 1 2 3)) firstTable
    (threeTable 1 2 3 (by decide) (by decide)) := by
  refine .refresh (.first fun m hm => ?_) (fun m hm => hm) (by decide +kernel)
  have hm' : m ∈ ((threeRows 1 2 3).map canonicalAuditEventPayload).take 1 := hm
  exact List.mem_of_mem_take hm'

/-- The refreshed anchor, and the table it was made from. -/
theorem anchor_sound_refreshed :
    firstTable.hashedRows.map canonicalAuditEventPayload <+:
      (threeTable 1 2 3 (by decide) (by decide)).hashedRows.map canonicalAuditEventPayload :=
  have hok : (verifyWithAnchor threeRowConfig (threeTable 1 2 3 (by decide) (by decide))
      (auditLogAnchor threeRowConfig (threeTable 1 2 3 (by decide) (by decide)))).accepted =
        true := by decide +kernel
  have hrows : payloads (threeTable 1 2 3 (by decide) (by decide)).hashedRows ⊆
      payloads (threeRows 1 2 3) := fun _ hm => hm
  (anchor_sound threeRowConfig_ideal refreshed_threeTable hrows hok).2

/-- The first two rows have been given lower ids since the refresh, so that the
second one has the id that the first anchor names. -/
theorem renumbered_rows_validated :
    ∃ (cfg : AuditConfig) (S : Set (List Char)) (first anchored table : AuditTable),
      IdealHash cfg S ∧ Refreshed cfg S first anchored ∧ payloads table.hashedRows ⊆ S ∧
      (verifyWithAnchor cfg table (auditLogAnchor cfg anchored)).accepted = true ∧
      (table.hashedRows.filter (upTo (auditLogAnchor cfg first))).map canonicalAuditEventPayload ≠
        first.hashedRows.map canonicalAuditEventPayload :=
  ⟨threeRowConfig, _, firstTable, _, threeTable 0 1 3 (by decide) (by decide),
    threeRowConfig_ideal, refreshed_threeTable, fun _ hm => hm, by decide +kernel,
    by decide +kernel⟩

end SitBank.Audit
