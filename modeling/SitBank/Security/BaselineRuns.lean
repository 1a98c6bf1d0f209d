import SitBank.Security.Baselines

/-!
What checks and rebaselines keep of the stored baseline.

A rebaseline that raises keeps the state file unless a step fails that nothing takes back: the
permissions of the backup, the way back of the backup, the permissions of the new file or the
last audit event (`RebaselineSafe`). Between such failures the stored numbers never go down,
and a snapshot below them is reported; an infinite number in the file stops the check.
-/

namespace SitBank.Security

open SitBank.Interaction SitBank.Python SitBank.Audit

/-! ### Rebaselining -/

section Rebaseline

variable {files : StateFiles} {r : Rebaseline} {s : Snapshot}

/-- If the rebaseline raises, the state file is what it was. -/
def RebaselineKeeps (r : Rebaseline) (files : StateFiles) : Prop :=
  Ends (rebaselineDatabaseIntegrityState r)
    (fun result files' => match result with
      | .ok _ => True
      | .error _ => ∀ content, files.state = some content → files'.state = some content)
    files

/-- The rebaseline gets as far as moving the state file away. -/
structure Rebaseline.Reaches (r : Rebaseline) (s : Snapshot) : Prop where
  preflight : r.preflight.intentionalReset = true ∧ r.preflight.reasonGiven = true ∧
    r.preflight.statePathConfigured = true ∧ r.preflight.anchorPathConfigured = true ∧
    r.preflight.statePathSafe = true ∧ r.preflight.anchorReadable = true ∧
    r.preflight.chainAccepted = true
  started : r.started.logged = true ∧ r.started.written = true
  snapshot : r.snapshot = some s
  moved : r.moved = true

/-- Once the file is moved away, its way back is safe, or what is put in its place stays and
everything after it succeeds. -/
def RebaselineSafe (r : Rebaseline) (files : StateFiles) : Prop :=
  ∀ content s, files.state = some content → r.Reaches s →
    r.backupChmod = true ∧
    if r.write.placed then FileText.text s.text = content ∨
      (r.write.stateChmod = true ∧ r.completed.logged = true ∧ r.completed.written = true)
    else r.restored = true

theorem ends_write (steps : WriteSteps) (s : Snapshot) (files : StateFiles) :
    Ends (writeDatabaseIntegrityState steps s)
      (fun result files' => match result with
        | .ok _ => (steps.placed = true ∧ steps.stateChmod = true) ∧
            files' = { files with state := some (.text s.text) }
        | .error _ => steps.placed = false ∧ files' = files ∨
            (steps.placed = true ∧ steps.stateChmod = false) ∧
              files' = { files with state := some (.text s.text) })
      files := by
  unfold writeDatabaseIntegrityState WriteSteps.placed
  refine Ends.raiseIf_bind (fun h => .inl ⟨?_, rfl⟩) fun h₁ => ?_
  · simp_all
  refine Ends.raiseIf_bind (fun h => .inl ⟨?_, rfl⟩) fun h₂ => ?_
  · simp_all
  refine Ends.raiseIf_bind (fun h => .inl ⟨?_, rfl⟩) fun h₃ => ?_
  · simp_all
  refine Ends.raiseIf_bind (fun h => .inl ⟨?_, rfl⟩) fun h₄ => ?_
  · simp_all
  refine Ends.raiseIf_bind (fun h => .inl ⟨?_, rfl⟩) fun h₅ => ?_
  · simp_all
  refine Ends.modify_bind (Ends.raiseIf (fun h => .inr ⟨?_, rfl⟩) fun h => ⟨?_, rfl⟩)
  · simp_all
  · simp_all

/-- The handler of a failed write puts the backup back where nothing is in its place. -/
theorem ends_handler {content : FileText} {backups : List FileText} {e : BaselineError} :
    Ends (do
        restoreBackup r true
        auditSystemEvent r.failed
        throw e : BaselineCall Unit)
      (fun result files' => (∃ e', result = .error e') ∧
        files'.state = if r.restored then some content else none)
      ⟨none, content :: backups⟩ := by
  unfold restoreBackup auditSystemEvent
  cases hrestored : r.restored <;> cases r.failed.logged <;> exact ⟨⟨_, rfl⟩, rfl⟩

theorem ends_handler_placed {placed : FileText} {backups : List FileText} {e : BaselineError}
    (backedUp : Bool) :
    Ends (do
        restoreBackup r backedUp
        auditSystemEvent r.failed
        throw e : BaselineCall Unit)
      (fun result files' => (∃ e', result = .error e') ∧ files'.state = some placed)
      ⟨some placed, backups⟩ := by
  unfold restoreBackup auditSystemEvent
  cases backedUp <;> cases backups <;> cases r.failed.logged <;> exact ⟨⟨_, rfl⟩, rfl⟩

theorem ends_preflight (p : Preflight) (files : StateFiles) : Ends p.check
    (fun result files' => files' = files ∧ ((∃ u, result = .ok u) ↔
      p.intentionalReset = true ∧ p.reasonGiven = true ∧ p.statePathConfigured = true ∧
        p.anchorPathConfigured = true ∧ p.statePathSafe = true ∧ p.anchorReadable = true ∧
        p.chainAccepted = true)) files := by
  unfold Preflight.check
  refine Ends.raiseIf_bind (fun h => ⟨rfl, ?_⟩) fun h₁ => ?_
  · simp_all
  refine Ends.raiseIf_bind (fun h => ⟨rfl, ?_⟩) fun h₂ => ?_
  · simp_all
  refine Ends.raiseIf_bind (fun h => ⟨rfl, ?_⟩) fun h₃ => ?_
  · simp_all
  refine Ends.raiseIf_bind (fun h => ⟨rfl, ?_⟩) fun h₄ => ?_
  · simp_all
  refine Ends.raiseIf_bind (fun h => ⟨rfl, ?_⟩) fun h₅ => ?_
  · simp_all
  refine Ends.raiseIf_bind (fun h => ⟨rfl, ?_⟩) fun h₆ => ?_
  · simp_all
  refine Ends.raiseIf (fun h => ⟨rfl, ?_⟩) fun h => ⟨rfl, ?_⟩
  · simp_all
  · simp_all

theorem ends_auditRequired (audit : AuditStep) (files : StateFiles) :
    Ends (auditSystemEventRequired audit)
      (fun result files' => files' = files ∧ ((∃ u, result = .ok u) ↔
        audit.logged = true ∧ audit.written = true)) files := by
  unfold auditSystemEventRequired
  refine Ends.raiseIf_bind (fun h => ⟨rfl, ?_⟩) fun h₁ => ?_
  · simp_all
  refine Ends.raiseIf (fun h => ⟨rfl, ?_⟩) fun h => ⟨rfl, ?_⟩
  · simp_all
  · simp_all

/-- What is done once the state file was moved away. -/
def writeOrRestore (r : Rebaseline) (s : Snapshot) (backedUp : Bool) : BaselineCall Unit :=
  tryCatch (writeDatabaseIntegrityState r.write s) fun e => do
    restoreBackup r backedUp
    auditSystemEvent r.failed
    throw e

theorem ends_writeOrRestore {content : FileText} {backups : List FileText} :
    Ends (writeOrRestore r s true)
      (fun result files' => match result with
        | .ok _ => (r.write.placed = true ∧ r.write.stateChmod = true) ∧
            files'.state = some (.text s.text)
        | .error _ => r.write.placed = false ∧
            files'.state = (if r.restored then some content else none) ∨
          (r.write.placed = true ∧ r.write.stateChmod = false) ∧
            files'.state = some (.text s.text))
      ⟨none, content :: backups⟩ := by
  refine (ends_write r.write s _).tryCatch (fun _ files' h => ?_) fun e files' h => ?_
  · rw [h.2]
    exact ⟨h.1, rfl⟩
  · rcases h with ⟨hplaced, rfl⟩ | ⟨hplaced, rfl⟩
    · refine ends_handler.mono ?_
      rintro _ files'' ⟨⟨e', rfl⟩, hstate⟩
      exact .inl ⟨hplaced, hstate⟩
    · refine (ends_handler_placed true).mono ?_
      rintro _ files'' ⟨⟨e', rfl⟩, hstate⟩
      exact .inr ⟨hplaced, hstate⟩

/-- What a rebaseline leaves of a state file. -/
def RebaselineLeft (r : Rebaseline) (content : FileText)
    (result : Except BaselineError RebaselineReport) (files' : StateFiles) : Prop :=
  match result with
  | .ok _ => ∃ s, r.Reaches s ∧ r.backupChmod = true ∧ r.write.placed = true ∧
      r.write.stateChmod = true ∧ r.completed.logged = true ∧ r.completed.written = true
  | .error _ => (∀ s, ¬r.Reaches s) ∧ files'.state = some content ∨
      ∃ s, r.Reaches s ∧ (r.backupChmod = false ∧ files'.state = none ∨
        r.backupChmod = true ∧ r.write.placed = false ∧
          files'.state = (if r.restored then some content else none) ∨
        r.backupChmod = true ∧ r.write.placed = true ∧
          ¬(r.write.stateChmod = true ∧ r.completed.logged = true ∧ r.completed.written = true) ∧
          files'.state = some (.text s.text))

theorem not_reaches_left {content : FileText} {e : BaselineError} {files' : StateFiles}
    (hnot : ∀ s, ¬r.Reaches s) (hstate : files'.state = some content) :
    RebaselineLeft r content (.error e) files' := .inl ⟨hnot, hstate⟩

/-- The part of a rebaseline that touches files. -/
def replaceBaseline (r : Rebaseline) (s : Snapshot) : BaselineCall RebaselineReport := do
  let backedUp ← backUp r
  writeOrRestore r s backedUp
  auditSystemEventRequired r.completed
  pure ⟨s.generatedAt, s.tables, backedUp⟩

theorem backUp_state (content : FileText) (backups : List FileText) :
    backUp r ⟨some content, backups⟩ =
      if !r.moved then .error backupFailed ⟨some content, backups⟩
      else if !r.backupChmod then .error backupFailed ⟨none, content :: backups⟩
      else .ok true ⟨none, content :: backups⟩ := by
  unfold backUp
  cases hmoved : r.moved <;> cases hchmod : r.backupChmod <;> rfl

theorem ends_replaceBaseline {content : FileText} {backups : List FileText}
    (hreaches : r.moved = true → r.Reaches s) :
    Ends (replaceBaseline r s) (RebaselineLeft r content) ⟨some content, backups⟩ := by
  have hbackup := @backUp_state r content backups
  -- the old file is moved first; if that fails, it is still in its place
  cases hmoved : r.moved with
  | false =>
      rw [hmoved] at hbackup
      refine Ends.bind_error hbackup (not_reaches_left (fun s' h => ?_) rfl)
      exact Bool.false_ne_true (hmoved.symm.trans h.moved)
  | true =>
  have hr := hreaches hmoved
  -- the backup is there but the state file is gone
  cases hchmod : r.backupChmod with
  | false =>
      rw [hmoved, hchmod] at hbackup
      exact Ends.bind_error hbackup (.inr ⟨s, hr, .inl ⟨hchmod, rfl⟩⟩)
  | true =>
  rw [hmoved, hchmod] at hbackup
  refine Ends.bind_ok hbackup ?_
  refine ends_writeOrRestore.bind (fun _ files' h => ?_) fun e files' h => ?_
  · obtain ⟨⟨hplaced, hstate⟩, hfile⟩ := h
    refine (ends_auditRequired r.completed files').bind (fun _ files'' h => ?_)
      fun e files'' h => ?_
    · obtain ⟨hlogged, hwritten⟩ := h.2.mp ⟨_, rfl⟩
      exact ⟨s, hr, hchmod, hplaced, hstate, hlogged, hwritten⟩
    · refine .inr ⟨s, hr, .inr (.inr ⟨hchmod, hplaced, fun hall => ?_, ?_⟩)⟩
      · obtain ⟨_, hok⟩ := h.2.mpr hall.2
        cases hok
      · rw [h.1]
        exact hfile
  · rcases h with ⟨hplaced, hfile⟩ | ⟨⟨hplaced, hstate⟩, hfile⟩
    · exact .inr ⟨s, hr, .inr (.inl ⟨hchmod, hplaced, hfile⟩)⟩
    · refine .inr ⟨s, hr, .inr (.inr ⟨hchmod, hplaced, fun hall => ?_, hfile⟩)⟩
      exact Bool.false_ne_true (hstate.symm.trans hall.1)

theorem rebaseline_eq (r : Rebaseline) : rebaselineDatabaseIntegrityState r = (do
    r.preflight.check
    auditSystemEventRequired r.started
    let snapshot ← takeSnapshot r.snapshot
    replaceBaseline r snapshot) := rfl

theorem ends_rebaseline {content : FileText} {backups : List FileText} :
    Ends (rebaselineDatabaseIntegrityState r) (RebaselineLeft r content)
      ⟨some content, backups⟩ := by
  rw [rebaseline_eq]
  refine (ends_preflight _ _).bind (fun _ files' h => ?_) fun e files' h => ?_
  · obtain ⟨rfl, hpreflight⟩ := h
    have hpreflight := hpreflight.mp ⟨_, rfl⟩
    refine (ends_auditRequired _ _).bind (fun _ files' h => ?_) fun e files' h => ?_
    · obtain ⟨rfl, hstarted⟩ := h
      have hstarted := hstarted.mp ⟨_, rfl⟩
      cases hsnapshot : r.snapshot with
      | none =>
          refine Ends.bind_error rfl (not_reaches_left (fun s h => ?_) rfl)
          cases hsnapshot.symm.trans h.snapshot
      | some s =>
          refine Ends.bind_ok rfl (ends_replaceBaseline fun hmoved => ?_)
          exact ⟨hpreflight, hstarted, hsnapshot, hmoved⟩
    · obtain ⟨rfl, hstarted⟩ := h
      refine not_reaches_left (fun s h => ?_) rfl
      obtain ⟨_, hok⟩ := hstarted.mpr h.started
      cases hok
  · obtain ⟨rfl, hpreflight⟩ := h
    refine not_reaches_left (fun s h => ?_) rfl
    obtain ⟨_, hok⟩ := hpreflight.mpr h.preflight
    cases hok

/-- A rebaseline keeps the file when it raises exactly if it is safe. -/
theorem rebaselineKeeps_iff (r : Rebaseline) (files : StateFiles) :
    RebaselineKeeps r files ↔ RebaselineSafe r files := by
  obtain ⟨state, backups⟩ := files
  cases state with
  -- no state file, nothing to keep
  | none =>
      refine iff_of_true ?_ fun content s h => nomatch h
      unfold RebaselineKeeps Ends
      split
      · trivial
      · exact fun content h => nomatch h
  | some content =>
      have hleft := @ends_rebaseline r content backups
      constructor
      · rintro hkeeps content' s ⟨⟩ hr
        obtain ⟨result, files', hleft, hkept⟩ := (hleft.and hkeeps).exists
        cases result with
        | ok report =>
            obtain ⟨_, -, hchmod, hplaced, hrest⟩ := hleft
            rw [if_pos hplaced]
            exact ⟨hchmod, .inr hrest⟩
        | error e =>
            have hkept := hkept content rfl
            rcases hleft with ⟨hnot, -⟩ | ⟨s', hr', hcases⟩
            · exact absurd hr (hnot s)
            -- both are the run's snapshot
            obtain rfl : s = s' := Option.some.inj (hr.snapshot.symm.trans hr'.snapshot)
            rcases hcases with ⟨-, hstate⟩ | ⟨hchmod, hplaced, hstate⟩ |
              ⟨hchmod, hplaced, -, hstate⟩
            · cases hstate.symm.trans hkept
            · rw [hplaced]
              refine ⟨hchmod, ?_⟩
              cases hrestored : r.restored with
              | true => rfl
              | false =>
                  rw [hrestored] at hstate
                  cases hstate.symm.trans hkept
            · rw [if_pos hplaced]
              exact ⟨hchmod, .inl (Option.some.inj (hstate.symm.trans hkept))⟩
      · intro hsafe
        refine hleft.mono fun result files' h => ?_
        cases result with
        | ok report => trivial
        | error e =>
            rintro content' ⟨⟩
            rcases h with ⟨-, hstate⟩ | ⟨s, hr, hcases⟩
            · exact hstate
            obtain ⟨hchmod', hrest⟩ := hsafe content s rfl hr
            rcases hcases with ⟨hchmod, -⟩ | ⟨-, hplaced, hstate⟩ | ⟨-, hplaced, hnot, hstate⟩
            · cases hchmod.symm.trans hchmod'
            · have hrestored : r.restored = true := by
                rw [hplaced] at hrest
                exact hrest
              rw [hstate, if_pos hrestored]
            · rw [if_pos hplaced] at hrest
              rcases hrest with hsame | hall
              · rw [hstate, hsame]
              · exact absurd hall hnot

end Rebaseline

/-! ### Checks -/

section Stored

variable (fmt : StateFormat)

/-- The count and the largest id that the file holds for a table; no id is zero. -/
def storedMetrics (file : Option FileText) (table : IntegrityTable) : Option (ℤ × ℤ) :=
  match loadDatabaseIntegrityState fmt true file with
  | .ok (some tables) => (metricsOf tables table).bind fun metrics =>
      match readMetrics fmt metrics with
      | .ok (count, maxId) => some (count, maxId.getD 0)
      | .error _ => none
  | _ => none

/-- No number of the file is infinite. -/
def FiniteNumbers (file : Option FileText) : Prop :=
  ∀ tables, loadDatabaseIntegrityState fmt true file = .ok (some tables) →
    ∀ table metrics, metricsOf tables table = some metrics → ∃ v, readMetrics fmt metrics = .ok v

/-- Some table of the snapshot is below what is stored for it. -/
def BelowStored (file : Option FileText) (s : Snapshot) : Prop :=
  ∃ table v, storedMetrics fmt file table = some v ∧
    (((s.tables table).count : ℤ) < v.1 ∨ (s.tables table).maxIdOrZero < v.2)

/-- What is stored afterwards is no less. -/
def StoredLe (before after : Option (ℤ × ℤ)) : Prop :=
  ∀ v, before = some v → ∃ v', after = some v' ∧ v.1 ≤ v'.1 ∧ v.2 ≤ v'.2

variable {fmt} {s : Snapshot}

theorem StoredLe.refl (v : Option (ℤ × ℤ)) : StoredLe v v := fun v h => ⟨v, h, le_rfl, le_rfl⟩

theorem StoredLe.trans {a b c : Option (ℤ × ℤ)} (hab : StoredLe a b) (hbc : StoredLe b c) :
    StoredLe a c := by
  intro v hv
  obtain ⟨v₁, hv₁, hcount, hid⟩ := hab v hv
  obtain ⟨v₂, hv₂, hcount', hid'⟩ := hbc v₁ hv₁
  exact ⟨v₂, hv₂, hcount.trans hcount', hid.trans hid'⟩

/-- The metrics of a table, as they are written. -/
def TableMetrics.pairs (m : TableMetrics) : List (PyStr × Json) :=
  [(.ofString "count", .int m.count),
    (.ofString "max_id", match m.maxId with
      | none => .null
      | some n => .int n)]

theorem readMetrics_pairs (m : TableMetrics) :
    readMetrics fmt m.pairs = .ok ((m.count : ℤ), m.maxId.map Int.ofNat) := by
  obtain ⟨count, maxId⟩ := m
  cases maxId <;> rfl

theorem sortKeys_metrics (m : TableMetrics) : sortKeys m.json = .obj m.pairs := by
  obtain ⟨count, maxId⟩ := m
  cases maxId <;> rfl

theorem tablesOf_json (s : Snapshot) : tablesOf (sortKeys s.json) = .ok
    [(IntegrityTable.securityAuditEvents.name, sortKeys (s.tables .securityAuditEvents).json),
      (IntegrityTable.users.name, sortKeys (s.tables .users).json)] := by rfl

theorem metricsOf_json (s : Snapshot) (table : IntegrityTable) : metricsOf
    [(IntegrityTable.securityAuditEvents.name, sortKeys (s.tables .securityAuditEvents).json),
      (IntegrityTable.users.name, sortKeys (s.tables .users).json)] table =
    some (s.tables table).pairs := by
  rw [sortKeys_metrics, sortKeys_metrics]
  cases table <;> rfl

theorem load_text (text : List Char) : loadDatabaseIntegrityState fmt true (some (.text text)) =
    match fmt.loads text with
    | .error .decode => .error .configuration
    | .error _ => .error .other
    | .ok document => (tablesOf document).map some := rfl

/-- What is written is read back. -/
theorem storedMetrics_text (s : Snapshot) (table : IntegrityTable) :
    storedMetrics fmt (some (.text s.text)) table =
      some (((s.tables table).count : ℤ), (s.tables table).maxIdOrZero) := by
  unfold storedMetrics
  rw [load_text, fmt.loads_text]
  dsimp only
  rw [tablesOf_json]
  show (metricsOf _ table).bind _ = _
  rw [metricsOf_json, Option.bind_some, readMetrics_pairs]
  unfold TableMetrics.maxIdOrZero
  cases (s.tables table).maxId <;> rfl

theorem le_of_no_alert {table : IntegrityTable} {previous : ℤ × Option ℤ} {current : TableMetrics}
    (h : regressionAlert table previous current = none) :
    previous.1 ≤ current.count ∧ previous.2.getD 0 ≤ current.maxIdOrZero := by
  unfold regressionAlert at h
  split at h
  · cases h
  · next hregressed =>
      simp only [Bool.or_eq_true, not_or, Bool.not_eq_true] at hregressed
      obtain ⟨hcount, hid⟩ := hregressed
      unfold countRegressed at hcount
      unfold idRegressed at hid
      unfold TableMetrics.maxIdOrZero
      constructor
      · simp only [Bool.and_eq_false_iff, decide_eq_false_iff_not] at hcount
        omega
      · cases hprevious : previous.2 with
        | none => simp
        | some p =>
            rw [hprevious] at hid
            cases hcurrent : current.maxId with
            | none =>
                rw [hcurrent] at hid
                simp at hid
                simpa using hid
            | some n =>
                rw [hcurrent] at hid
                simp only [Bool.and_eq_false_iff, decide_eq_false_iff_not] at hid
                simp only [Option.getD_some]
                omega

/-- A snapshot that is no less than what is stored. -/
def NotBelow (fmt : StateFormat) (file : Option FileText) (s : Snapshot) : Prop :=
  ∀ table v, storedMetrics fmt file table = some v →
    v.1 ≤ (s.tables table).count ∧ v.2 ≤ (s.tables table).maxIdOrZero

theorem BelowStored.not_notBelow {file : Option FileText} (h : BelowStored fmt file s) :
    ¬NotBelow fmt file s := by
  obtain ⟨table, v, hstored, hbelow⟩ := h
  intro hnot
  obtain ⟨hcount, hid⟩ := hnot table v hstored
  omega

theorem tableAlerts_spec {tables : List (PyStr × Json)} (table : IntegrityTable)
    (hfinite : ∀ metrics, metricsOf tables table = some metrics → ∃ v,
      readMetrics fmt metrics = .ok v) :
    ∃ alerts, tableAlerts fmt tables s table = .ok alerts ∧ (alerts = [] →
      ∀ metrics v, metricsOf tables table = some metrics → readMetrics fmt metrics = .ok v →
        v.1 ≤ (s.tables table).count ∧ v.2.getD 0 ≤ (s.tables table).maxIdOrZero) := by
  unfold tableAlerts
  cases hmetrics : metricsOf tables table with
  | none => exact ⟨[], rfl, fun _ metrics v h => nomatch h⟩
  | some metrics =>
      obtain ⟨previous, hprevious⟩ := hfinite metrics hmetrics
      refine ⟨(regressionAlert table previous (s.tables table)).toList, ?_, ?_⟩
      · dsimp only
        rw [hprevious]
        rfl
      · intro hnone metrics' v hsome hv
        cases hsome
        rw [hprevious] at hv
        cases hv
        exact le_of_no_alert (Option.toList_eq_nil_iff.mp hnone)

/-- The comparison raises nothing, and finds everything that went back. -/
theorem regressionAlerts_spec {file : Option FileText} (hfinite : FiniteNumbers fmt file)
    {previous : Option (List (PyStr × Json))}
    (hload : loadDatabaseIntegrityState fmt true file = .ok previous) :
    ∃ alerts, databaseIntegrityRegressionAlerts fmt previous s = .ok alerts ∧
      (alerts = [] → NotBelow fmt file s) := by
  cases previous with
  | none =>
      refine ⟨[], rfl, fun _ table v hstored => ?_⟩
      unfold storedMetrics at hstored
      rw [hload] at hstored
      cases hstored
  | some tables =>
      have htable := fun table => tableAlerts_spec (s := s) table (hfinite tables hload table)
      obtain ⟨first, hfirst, hnone₁⟩ := htable .securityAuditEvents
      obtain ⟨second, hsecond, hnone₂⟩ := htable .users
      refine ⟨first ++ second, ?_, fun hnone table v hstored => ?_⟩
      · unfold databaseIntegrityRegressionAlerts
        dsimp only
        rw [hfirst, hsecond]
        rfl
      · obtain ⟨hfirst', hsecond'⟩ := List.append_eq_nil_iff.mp hnone
        unfold storedMetrics at hstored
        rw [hload] at hstored
        obtain ⟨metrics, hmetrics, hread⟩ := Option.bind_eq_some_iff.mp hstored
        obtain ⟨previous, hprevious⟩ := hfinite tables hload table metrics hmetrics
        rw [hprevious] at hread
        cases hread
        cases table with
        | securityAuditEvents => exact hnone₁ hfirst' metrics previous hmetrics hprevious
        | users => exact hnone₂ hsecond' metrics previous hmetrics hprevious

/-- A check returns; the stored numbers do not go down, and a snapshot below them is reported. -/
def CheckedWell (fmt : StateFormat) (c : Check) (files : StateFiles)
    (result : Except BaselineError (List IntegrityAlert)) (files' : StateFiles) : Prop :=
  (∀ table, StoredLe (storedMetrics fmt files.state table) (storedMetrics fmt files'.state table)) ∧
  ∃ alerts, result = .ok alerts ∧
    ∀ s, c.snapshot = some s → BelowStored fmt files.state s → alerts ≠ []

theorem checkedWell_alert {c : Check} {files : StateFiles} (alert : IntegrityAlert) :
    CheckedWell fmt c files (.ok [alert]) files :=
  ⟨fun _ => .refl _, [alert], rfl, fun _ _ _ => List.cons_ne_nil _ _⟩

theorem ends_updateBaseline {c : Check} {files : StateFiles} {alerts : List IntegrityAlert}
    (hsnapshot : c.snapshot = some s) (hnone : alerts = [] → NotBelow fmt files.state s) :
    Ends (updateBaseline c s alerts) (CheckedWell fmt c files) files := by
  have hbelow (s' : Snapshot) (hs' : c.snapshot = some s') (h : BelowStored fmt files.state s') :
      alerts ≠ [] := by
    rw [hsnapshot] at hs'
    cases hs'
    exact fun hempty => h.not_notBelow (hnone hempty)
  -- with no alert the snapshot is not below the stored baseline
  have hrises (hempty : alerts = []) (table : IntegrityTable) :
      StoredLe (storedMetrics fmt files.state table)
        (storedMetrics fmt (some (.text s.text)) table) := by
    intro v hv
    exact ⟨_, storedMetrics_text s table, hnone hempty table v hv⟩
  unfold updateBaseline
  split
  · next hupdate =>
      have hempty : alerts = [] := by
        rw [Bool.and_eq_true] at hupdate
        exact List.isEmpty_iff.mp hupdate.2
      have hwrite : Ends (do
            writeDatabaseIntegrityState c.write s
            pure alerts : BaselineCall (List IntegrityAlert))
          (fun result files' => (∀ table, StoredLe (storedMetrics fmt files.state table)
            (storedMetrics fmt files'.state table)) ∧ ∀ a, result = .ok a → a = alerts) files := by
        refine (ends_write c.write s files).bind (fun _ files' h => ?_) fun e files' h => ?_
        · rw [h.2]
          exact ⟨hrises hempty, fun a ha => (Except.ok.inj ha).symm⟩
        · refine ⟨?_, fun a ha => nomatch ha⟩
          -- a write that fails may have replaced the file before
          rcases h with ⟨-, rfl⟩ | ⟨-, rfl⟩
          · exact fun _ => .refl _
          · exact hrises hempty
      refine hwrite.tryCatch (fun a files' h => ?_) fun e files' h => ?_
      · obtain rfl := h.2 a rfl
        exact ⟨h.1, a, rfl, hbelow⟩
      · exact ⟨h.1, _, rfl, fun _ _ _ => List.cons_ne_nil _ _⟩
  · exact ⟨fun _ => .refl _, alerts, rfl, hbelow⟩

theorem load_readable {readable : Bool} {file : Option FileText}
    {previous : Option (List (PyStr × Json))}
    (h : loadDatabaseIntegrityState fmt readable file = .ok previous) :
    loadDatabaseIntegrityState fmt true file = .ok previous := by
  cases file with
  | none => exact h
  | some text =>
      cases text with
      | undecodable => exact h
      | text text =>
          cases readable with
          | true => exact h
          | false => cases h

theorem ends_check {c : Check} {files : StateFiles} (hfinite : FiniteNumbers fmt files.state) :
    Ends (databaseIntegrityAlerts fmt c) (CheckedWell fmt c files) files := by
  refine Ends.get_bind ?_
  cases hsnapshot : c.snapshot with
  | none => exact checkedWell_alert _
  | some s =>
      dsimp only
      cases hload : loadDatabaseIntegrityState fmt c.readable files.state with
      | error fault => cases fault <;> exact checkedWell_alert _
      | ok previous =>
          obtain ⟨alerts, halerts, hnone⟩ := regressionAlerts_spec hfinite (load_readable hload)
          refine Ends.ofExcept_bind (fun e he => ?_) fun a ha => ?_
          · cases halerts.symm.trans he
          · obtain rfl := Except.ok.inj (halerts.symm.trans ha)
            exact ends_updateBaseline hsnapshot hnone

end Stored

/-! ### Runs -/

inductive WatchStep
  | check (c : Check)
  | rebaseline (r : Rebaseline)

section Runs

variable (fmt : StateFormat)

def WatchStep.run (files : StateFiles) : WatchStep → StateFiles
  | .check c => after (databaseIntegrityAlerts fmt c) files
  | .rebaseline r => after (rebaselineDatabaseIntegrityState r) files

def watched (files : StateFiles) (steps : List WatchStep) : StateFiles :=
  steps.foldl (WatchStep.run fmt) files

/-- Every step of a run satisfies `P`, in the files that it meets. -/
def Along (P : StateFiles → WatchStep → Prop) : StateFiles → List WatchStep → Prop
  | _, [] => True
  | files, step :: steps => P files step ∧ Along P (step.run fmt files) steps

/-- No rebaseline succeeds. -/
def Unsuccessful (files : StateFiles) : WatchStep → Prop
  | .check _ => True
  | .rebaseline r =>
      Ends (rebaselineDatabaseIntegrityState r) (fun result _ => ∃ e, result = .error e) files

/-- A check meets finite numbers, a rebaseline is safe. -/
def Quiet (files : StateFiles) : WatchStep → Prop
  | .check _ => FiniteNumbers fmt files.state
  | .rebaseline r => RebaselineSafe r files

/-- The stored numbers do not go down, and a check of a snapshot below them returns an alert. -/
def Guarded (files : StateFiles) (step : WatchStep) : Prop :=
  (∀ table, StoredLe (storedMetrics fmt files.state table)
    (storedMetrics fmt (step.run fmt files).state table)) ∧
  ∀ c s, step = .check c → c.snapshot = some s → BelowStored fmt files.state s →
    Ends (databaseIntegrityAlerts fmt c)
      (fun result _ => ∃ alerts, result = .ok alerts ∧ alerts ≠ []) files

variable {fmt} {files : StateFiles}

theorem guarded_check {c : Check} (hfinite : FiniteNumbers fmt files.state) :
    Guarded fmt files (.check c) := by
  have hends : Ends (databaseIntegrityAlerts fmt c) (CheckedWell fmt c files) files :=
    ends_check hfinite
  refine ⟨(hends.mono fun _ _ h => h.1).after, ?_⟩
  rintro c' s ⟨⟩ hsnapshot hbelow
  refine hends.mono fun result files' h => ?_
  obtain ⟨-, alerts, hresult, halerts⟩ := h
  exact ⟨alerts, hresult, halerts s hsnapshot hbelow⟩

theorem guarded_rebaseline {r : Rebaseline} (hsafe : RebaselineSafe r files)
    (hraises : Ends (rebaselineDatabaseIntegrityState r) (fun result _ => ∃ e, result = .error e)
      files) : Guarded fmt files (.rebaseline r) := by
  have hkept : Ends (rebaselineDatabaseIntegrityState r)
      (fun _ files' => ∀ content, files.state = some content → files'.state = some content)
      files := by
    refine (((rebaselineKeeps_iff r files).mpr hsafe).and hraises).mono fun result files' h => ?_
    obtain ⟨hkeeps, e, rfl⟩ := h
    exact hkeeps
  refine ⟨fun table v hv => ?_, fun c s h => nomatch h⟩
  cases hstate : files.state with
  | none =>
      rw [hstate] at hv
      cases hv
  | some content =>
      have hsame : ((WatchStep.rebaseline r).run fmt files).state = files.state :=
        (hkept.after content hstate).trans hstate.symm
      rw [hsame]
      exact ⟨v, hv, le_rfl, le_rfl⟩

theorem guarded_step {step : WatchStep} (hquiet : Quiet fmt files step)
    (hfailed : Unsuccessful files step) : Guarded fmt files step := by
  cases step with
  | check c => exact guarded_check hquiet
  | rebaseline r => exact guarded_rebaseline hquiet hfailed

theorem guarded_run {steps : List WatchStep} (hquiet : Along fmt (Quiet fmt) files steps)
    (hfailed : Along fmt Unsuccessful files steps) : Along fmt (Guarded fmt) files steps := by
  induction steps generalizing files with
  | nil => trivial
  | cons step steps ih =>
      exact ⟨guarded_step hquiet.1 hfailed.1, ih hquiet.2 hfailed.2⟩

theorem storedLe_watched {steps : List WatchStep} (h : Along fmt (Guarded fmt) files steps)
    (table : IntegrityTable) : StoredLe (storedMetrics fmt files.state table)
      (storedMetrics fmt (watched fmt files steps).state table) := by
  induction steps generalizing files with
  | nil => exact .refl _
  | cons step steps ih => exact (h.1.1 table).trans (ih h.2)

variable (fmt) in
/-- A rebaseline that raises keeps the file exactly if it is safe. In every run of checks and
failed rebaselines whose steps are quiet, the stored numbers never go down and every snapshot
below them is reported. -/
theorem baseline_guarded :
    (∀ r files, RebaselineKeeps r files ↔ RebaselineSafe r files) ∧
    ∀ files steps, Along fmt (Quiet fmt) files steps → Along fmt Unsuccessful files steps →
      Along fmt (Guarded fmt) files steps ∧
      ∀ table, StoredLe (storedMetrics fmt files.state table)
        (storedMetrics fmt (watched fmt files steps).state table) := by
  refine ⟨rebaselineKeeps_iff, fun files steps hquiet hfailed => ?_⟩
  have hguarded := guarded_run hquiet hfailed
  exact ⟨hguarded, storedLe_watched hguarded⟩

end Runs

/-! ### The parser of the project -/

theorem sortKeys_snapshot (s : Snapshot) : sortKeys s.json = .obj
    [(.ofString "generated_at", .str (.ofString s.generatedAt)),
      (.ofString "message", .str (.ofString "security_alert_database_integrity_state")),
      (.ofString "tables", .obj
        [(IntegrityTable.securityAuditEvents.name, sortKeys (s.tables .securityAuditEvents).json),
          (IntegrityTable.users.name, sortKeys (s.tables .users).json)]),
      (.ofString "version", .int databaseIntegrityStateVersion)] := by rfl

theorem loadable_metrics (floatOf : List Char → FloatText) (m : TableMetrics) :
    Loadable floatOf (sortKeys m.json) := by
  have hkeys : ([.ofString "count", .ofString "max_id"] : List PyStr).Nodup := by decide
  rw [sortKeys_metrics]
  obtain ⟨count, maxId⟩ := m
  cases maxId with
  | none => exact ⟨hkeys, scalar_ofString _, trivial, scalar_ofString _, trivial, trivial⟩
  | some n => exact ⟨hkeys, scalar_ofString _, trivial, scalar_ofString _, trivial, trivial⟩

theorem loadable_snapshot (floatOf : List Char → FloatText) (s : Snapshot) :
    Loadable floatOf (sortKeys s.json) := by
  have hkeys : ([.ofString "generated_at", .ofString "message", .ofString "tables",
      .ofString "version"] : List PyStr).Nodup := by decide
  have hnames : [IntegrityTable.securityAuditEvents.name, IntegrityTable.users.name].Nodup := by
    decide
  rw [sortKeys_snapshot]
  refine ⟨hkeys, scalar_ofString _, scalar_ofString _, scalar_ofString _, scalar_ofString _,
    scalar_ofString _, ⟨hnames, ?_⟩, scalar_ofString _, trivial, trivial⟩
  exact ⟨scalar_ofString _, loadable_metrics _ _, scalar_ofString _, loadable_metrics _ _, trivial⟩

/-- `loads` of this project; no text and no float is a number. -/
def strictFormat : StateFormat where
  loads text := match loads (fun _ => ⟨[], plainChar_nil⟩) text with
    | some document => .ok document
    | none => .error .decode
  loads_text s := by
    have hspace : ∀ c ∈ ['\n'], jsonSpace c = true := List.forall_mem_singleton.mpr rfl
    unfold Snapshot.text
    rw [loads_dumps (loadable_snapshot _ s) hspace]
  intOfText _ := none
  intOfFloat _ := .nan

/-- A file that was written holds finite numbers. -/
theorem finiteNumbers_text (fmt : StateFormat) (s : Snapshot) :
    FiniteNumbers fmt (some (.text s.text)) := by
  intro tables hload table metrics hmetrics
  rw [load_text, fmt.loads_text] at hload
  dsimp only at hload
  rw [tablesOf_json] at hload
  cases hload
  rw [metricsOf_json] at hmetrics
  cases hmetrics
  exact ⟨_, readMetrics_pairs _⟩

/-! ### Lost users, and a lost baseline -/

def usersSnapshot (count : ℕ) : Snapshot where
  generatedAt := "2026-07-01T00:00:00+00:00"
  tables
    | .securityAuditEvents => ⟨0, none⟩
    | .users => ⟨count, some 9⟩

def usersCheck (count : ℕ) : Check where
  updateState := true
  snapshot := some (usersSnapshot count)
  readable := true
  write := ⟨true, true, true, true, true, true⟩

def storedUsers (count : ℕ) : StateFiles := ⟨some (.text (usersSnapshot count).text), []⟩

def fiveUsers : StateFiles := storedUsers 5

/-- The new file is not put in its place, and the backup is moved back. -/
def unwritableState : Rebaseline where
  preflight := ⟨true, true, true, true, true, true, true⟩
  started := ⟨true, true⟩
  snapshot := some (usersSnapshot 3)
  moved := true
  backupChmod := true
  write := ⟨true, true, true, true, false, true⟩
  restored := true
  failed := ⟨true, true⟩
  completed := ⟨true, true⟩

/-- Seven users are counted, a rebaseline fails, and then five are left. -/
def lostUsers : List WatchStep :=
  [.check (usersCheck 7), .rebaseline unwritableState, .check (usersCheck 5)]

/-- A file that was written is read, and compared. -/
theorem databaseIntegrityAlerts_text {fmt : StateFormat} {c : Check} {s stored : Snapshot}
    {backups : List FileText} (hsnapshot : c.snapshot = some s) (hreadable : c.readable = true) :
    databaseIntegrityAlerts fmt c ⟨some (.text stored.text), backups⟩ = (do
      let alerts ← ofExcept (databaseIntegrityRegressionAlerts fmt (some
        [(IntegrityTable.securityAuditEvents.name,
            sortKeys (stored.tables .securityAuditEvents).json),
          (IntegrityTable.users.name, sortKeys (stored.tables .users).json)]) s)
      updateBaseline c s alerts) ⟨some (.text stored.text), backups⟩ := by
  have hload := @load_text fmt stored.text
  rw [fmt.loads_text] at hload
  dsimp only at hload
  rw [tablesOf_json] at hload
  unfold databaseIntegrityAlerts
  rw [run_get_bind, hsnapshot]
  dsimp only
  rw [hreadable, hload]
  rfl

theorem storedUsers_raised :
    (WatchStep.check (usersCheck 7)).run strictFormat fiveUsers = storedUsers 7 := by
  show after (databaseIntegrityAlerts strictFormat (usersCheck 7)) fiveUsers = _
  unfold after fiveUsers storedUsers
  rw [@databaseIntegrityAlerts_text _ (usersCheck 7) (usersSnapshot 7) _ _ rfl rfl]
  rfl

theorem storedUsers_kept :
    (WatchStep.rebaseline unwritableState).run strictFormat (storedUsers 7) = storedUsers 7 := rfl

/-- The five users are fewer than what is stored by then, so the last check reports them, and
seven stay stored. -/
theorem lostUsers_guarded :
    ¬BelowStored strictFormat fiveUsers.state (usersSnapshot 5) ∧
      BelowStored strictFormat (storedUsers 7).state (usersSnapshot 5) ∧
      Along strictFormat (Guarded strictFormat) fiveUsers lostUsers ∧
      Guarded strictFormat (storedUsers 7) (.check (usersCheck 5)) ∧
      ∀ table, StoredLe (storedMetrics strictFormat (storedUsers 7).state table)
        (storedMetrics strictFormat (watched strictFormat fiveUsers lostUsers).state table) := by
  have hfinite (count : ℕ) : FiniteNumbers strictFormat (storedUsers count).state :=
    finiteNumbers_text _ _
  have hnot : ¬BelowStored strictFormat fiveUsers.state (usersSnapshot 5) := by
    rintro ⟨table, v, hstored, hbelow⟩
    obtain rfl := Option.some.inj ((storedMetrics_text _ _).symm.trans hstored)
    exact hbelow.elim (lt_irrefl _) (lt_irrefl _)
  have hbelow : BelowStored strictFormat (storedUsers 7).state (usersSnapshot 5) :=
    ⟨.users, _, storedMetrics_text _ _, .inl (by decide)⟩
  have hquiet : Along strictFormat (Quiet strictFormat) fiveUsers lostUsers := by
    refine ⟨hfinite 5, ?_⟩
    rw [storedUsers_raised]
    refine ⟨fun content s _ _ => ⟨rfl, rfl⟩, ?_⟩
    rw [storedUsers_kept]
    exact ⟨hfinite 7, trivial⟩
  have hfailed : Along strictFormat Unsuccessful fiveUsers lostUsers := by
    refine ⟨trivial, ?_⟩
    rw [storedUsers_raised]
    exact ⟨⟨_, rfl⟩, trivial, trivial⟩
  have hrun := ((baseline_guarded strictFormat).2 fiveUsers lostUsers hquiet hfailed).1
  have hlater := hrun.2
  rw [storedUsers_raised] at hlater
  have hlast := hlater.2
  rw [storedUsers_kept] at hlast
  have hwatched : watched strictFormat fiveUsers lostUsers =
      watched strictFormat (storedUsers 7) [.check (usersCheck 5)] := by
    unfold watched lostUsers
    rw [List.foldl_cons, storedUsers_raised, List.foldl_cons, storedUsers_kept]
  refine ⟨hnot, hbelow, hrun, hlast.1, fun table => ?_⟩
  rw [hwatched]
  exact storedLe_watched hlast table

/-- Everything succeeds but setting the permissions of the backup. -/
def unprotectedBackup : Rebaseline where
  preflight := ⟨true, true, true, true, true, true, true⟩
  started := ⟨true, true⟩
  snapshot := some (usersSnapshot 3)
  moved := true
  backupChmod := false
  write := ⟨true, true, true, true, true, true⟩
  restored := true
  failed := ⟨true, true⟩
  completed := ⟨true, true⟩

/-- The rebaseline raises and leaves no state file. -/
theorem unprotectedBackup_loses : ¬RebaselineKeeps unprotectedBackup fiveUsers := by
  intro h
  have hreaches : unprotectedBackup.Reaches (usersSnapshot 3) :=
    ⟨⟨rfl, rfl, rfl, rfl, rfl, rfl, rfl⟩, ⟨rfl, rfl⟩, rfl, rfl⟩
  have hsafe := (rebaselineKeeps_iff _ _).mp h _ _ rfl hreaches
  cases hsafe.1

end SitBank.Security
