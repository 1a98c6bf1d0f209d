import SitBank.Security.Retention

/-!
What one retention command does.

A command changes the tables only together with the event that counts what it did, or not at
all (`runCommand_outcome`). What it does is one batch in each table, where the criteria are
those of the tables it leaves (`Cleaned`); a dry run counts the batches of the tables it finds.
-/

namespace SitBank.Security.Retention

open SitBank.Interaction SitBank.Orm SitBank.Audit

/-! ### One category -/

section Steps

variable (now cutoff : ℤ) (limit : ℕ)

/-- The sessions that are marked. -/
def expiring (db : Database) : List SessionRow :=
  batch SessionRow.byExpiry (SessionRow.expired now) limit db.sessions

def marked (db : Database) : Database :=
  db.expireSessions ((expiring now limit db).map SessionRow.id) now

/-- The rows of a table that are deleted, with the reset transactions of a database. -/
def expendable (db : Database) (m : StateModel) (rows : List m.Row) : List m.Row :=
  batch m.byId (criteria db.resetTransactions now cutoff m) limit rows

def left (db : Database) (m : StateModel) (rows : List m.Row) : List m.Row :=
  dropBatch m.key m.byId (criteria db.resetTransactions now cutoff m) limit rows

/-- What the statements of a category do. -/
def Cleans (db : Database) : Category → Database → ℕ → Prop
  | .marked, db', count => db' = marked now limit db ∧ count = (expiring now limit db).length
  | .deleted m, db', count =>
      db'.rows = Function.update db.rows m (left now cutoff limit db m (db.rows m)) ∧
        count = (expendable now cutoff limit db m (db.rows m)).length

inductive CleansAll : Database → List Category → Database → List (Category × ℕ) → Prop
  | nil (db : Database) : CleansAll db [] db []
  | cons {db db₁ db' : Database} {c : Category} {cs : List Category} {count : ℕ}
      {counts : List (Category × ℕ)} (h : Cleans now cutoff limit db c db₁ count)
      (hs : CleansAll db₁ cs db' counts) : CleansAll db (c :: cs) db' ((c, count) :: counts)

variable {now cutoff limit}

/-- Only the criteria for tokens refer to another table. -/
theorem criteria_congr {txs txs' : List ResetTransactionRow} {m : StateModel}
    (h : m = .passwordResetToken → txs = txs') :
    criteria txs now cutoff m = criteria txs' now cutoff m := by
  cases m with
  | passwordResetToken => rw [h rfl]
  | _ => rfl

theorem Cleans.rows_eq {db db' : Database} {c : Category} {count : ℕ}
    (h : Cleans now cutoff limit db c db' count) {m : StateModel} (hc : c ≠ .deleted m)
    (hmarked : c ≠ .marked) : db'.rows m = db.rows m := by
  cases c with
  | marked => exact absurd rfl hmarked
  | deleted m' =>
      rw [h.1, Function.update_of_ne]
      rintro rfl
      exact hc rfl

theorem CleansAll.rows_eq {db db' : Database} {cs : List Category}
    {counts : List (Category × ℕ)} (h : CleansAll now cutoff limit db cs db' counts)
    {m : StateModel} (hm : .deleted m ∉ cs) (hmarked : .marked ∉ cs) :
    db'.rows m = db.rows m := by
  induction h with
  | nil db => rfl
  | cons h hs ih =>
      rw [List.mem_cons, not_or] at hm hmarked
      rw [ih hm.2 hmarked.2, h.rows_eq (Ne.symm hm.1) (Ne.symm hmarked.1)]

theorem CleansAll.append {db db' : Database} {cs cs' : List Category}
    {counts : List (Category × ℕ)} (h : CleansAll now cutoff limit db (cs ++ cs') db' counts) :
    ∃ db₁ counts₁ counts₂, CleansAll now cutoff limit db cs db₁ counts₁ ∧
      CleansAll now cutoff limit db₁ cs' db' counts₂ ∧ counts = counts₁ ++ counts₂ := by
  induction cs generalizing db counts with
  | nil => exact ⟨db, [], counts, .nil db, h, rfl⟩
  | cons c cs ih =>
      cases h with
      | cons h hs =>
          obtain ⟨db₁, counts₁, counts₂, h₁, h₂, rfl⟩ := ih hs
          exact ⟨db₁, _, counts₂, .cons h h₁, h₂, rfl⟩

theorem CleansAll.map_fst {db db' : Database} {cs : List Category}
    {counts : List (Category × ℕ)} (h : CleansAll now cutoff limit db cs db' counts) :
    counts.map Prod.fst = cs := by
  induction h with
  | nil db => rfl
  | cons h hs ih => rw [List.map_cons, ih]

/-- A table is reached once, after the marking, and tokens after reset transactions. -/
theorem categories_split (m : StateModel) : ∃ before after,
    categories = .marked :: (before ++ .deleted m :: after) ∧
      (.deleted m ∉ before ∧ .marked ∉ before) ∧ (.deleted m ∉ after ∧ .marked ∉ after) ∧
      (m = .passwordResetToken → .deleted .passwordResetTransaction ∉ after) := by
  refine ⟨categories.tail.takeWhile (· ≠ .deleted m),
    (categories.tail.dropWhile (· ≠ .deleted m)).tail, ?_⟩
  cases m <;> decide

/-- What all statements of a command do. -/
structure Cleaned (now cutoff : ℤ) (limit : ℕ) (db db' : Database)
    (counts : List (Category × ℕ)) : Prop where
  rows : ∀ m, db'.rows m = left now cutoff limit db' m ((marked now limit db).rows m)
  counted : ∀ m, counts.lookup (.deleted m) =
    some (expendable now cutoff limit db' m ((marked now limit db).rows m)).length
  countedMarked : counts.lookup .marked = some (expiring now limit db).length

theorem lookup_append_of_not_mem {counts counts' : List (Category × ℕ)} {c : Category}
    (h : c ∉ counts.map Prod.fst) : (counts ++ counts').lookup c = counts'.lookup c := by
  rw [List.lookup_append]
  have hnone : counts.lookup c = none := by
    rw [List.lookup_eq_none_iff]
    intro p hp
    have hne : c ≠ p.1 := fun heq => h (heq ▸ List.mem_map_of_mem hp)
    simpa using hne
  rw [hnone, Option.none_or]

theorem CleansAll.cleaned {db db' : Database} {counts : List (Category × ℕ)}
    (h : CleansAll now cutoff limit db categories db' counts) :
    Cleaned now cutoff limit db db' counts := by
  have hmain (m : StateModel) :
      db'.rows m = left now cutoff limit db' m ((marked now limit db).rows m) ∧
      counts.lookup (.deleted m) =
        some (expendable now cutoff limit db' m ((marked now limit db).rows m)).length ∧
      counts.lookup .marked = some (expiring now limit db).length := by
    obtain ⟨before, after, hsplit, hbefore, hafter, htoken⟩ := categories_split m
    rw [hsplit] at h
    cases h with
    | @cons _ db₁ _ _ _ count counts hmarked hs =>
        obtain ⟨rfl, rfl⟩ := hmarked
        obtain ⟨db₂, counts₁, counts₂, h₁, h₂, rfl⟩ := hs.append
        cases h₂ with
        | @cons _ db₃ _ _ _ count' counts₂ hdel hs' =>
            obtain ⟨hrows, rfl⟩ := hdel
            have hown : db₂.rows m = (marked now limit db).rows m :=
              h₁.rows_eq hbefore.1 hbefore.2
            have hkept : db'.rows m = db₃.rows m := hs'.rows_eq hafter.1 hafter.2
            have hcriteria : criteria db₂.resetTransactions now cutoff m =
                criteria db'.resetTransactions now cutoff m := by
              refine criteria_congr fun hm => ?_
              have htx : db'.rows .passwordResetTransaction = db₃.rows .passwordResetTransaction :=
                hs'.rows_eq (htoken hm) hafter.2
              unfold Database.resetTransactions
              rw [htx, hrows, Function.update_of_ne]
              subst hm
              exact (StateModel.noConfusion ·)
            have hcriteria_eq (rows : List m.Row) :
                expendable now cutoff limit db₂ m rows =
                  expendable now cutoff limit db' m rows := by
              rw [expendable, expendable, hcriteria]
            refine ⟨?_, ?_, ?_⟩
            · rw [hkept, hrows, Function.update_self, left, left, hcriteria, hown]
            · have hbefore₁ : .deleted m ∉ counts₁.map Prod.fst := h₁.map_fst ▸ hbefore.1
              rw [List.lookup_cons, beq_false_of_ne (Category.noConfusion ·)]
              dsimp only
              rw [lookup_append_of_not_mem hbefore₁, List.lookup_cons_self, hcriteria_eq, hown]
            · rw [List.lookup_cons_self]
  exact ⟨fun m => (hmain m).1, fun m => (hmain m).2.1, (hmain .knownDevice).2.2⟩

/-- A token that is deleted is referred to by no transaction. -/
theorem references_left (db : Database) (m : StateModel) :
    References (Function.update db.rows m (left now cutoff limit db m (db.rows m))) := by
  intro tx htx
  have htx' : tx ∈ db.rows .passwordResetTransaction := by
    by_cases hm : m = .passwordResetTransaction
    · subst hm
      rw [Function.update_self] at htx
      exact mem_of_mem_dropBatch htx
    · rwa [Function.update_of_ne (Ne.symm hm)] at htx
  obtain ⟨token, htoken, hid⟩ := db.referenced tx htx'
  refine ⟨token, ?_, hid⟩
  by_cases hm : m = .passwordResetToken
  · subst hm
    rw [Function.update_self]
    refine mem_dropBatch_of_neg (db.unique .passwordResetToken) htoken fun hp => ?_
    have hfree : (!db.resetTransactions.any fun tx => tx.tokenId = token.id) = true :=
      (Bool.and_eq_true_iff.mp hp).2
    have hany : db.resetTransactions.any (fun tx => tx.tokenId = token.id) = true :=
      List.any_eq_true.mpr ⟨tx, htx', decide_eq_true hid.symm⟩
    rw [hany] at hfree
    cases hfree
  · rwa [Function.update_of_ne (Ne.symm hm)]

variable (now cutoff limit) in
/-- No deletion violates a foreign key. -/
theorem delete_expendable (db : Database) (m : StateModel) : ∃ db',
    db.delete m ((expendable now cutoff limit db m (db.rows m)).map m.key) = some db' ∧
      db'.rows = Function.update db.rows m (left now cutoff limit db m (db.rows m)) :=
  ⟨_, dif_pos (references_left db m), rfl⟩

/-- Nothing is left out of an empty batch. -/
theorem left_of_expendable_nil {db : Database} {m : StateModel}
    (h : expendable now cutoff limit db m (db.rows m) = []) :
    Function.update db.rows m (left now cutoff limit db m (db.rows m)) = db.rows := by
  have hleft : left now cutoff limit db m (db.rows m) = db.rows m := by
    unfold left dropBatch without
    have hnil : batch m.byId (criteria db.resetTransactions now cutoff m) limit (db.rows m) = [] :=
      h
    rw [hnil]
    simp
  rw [hleft, Function.update_eq_self]

end Steps

/-! ### One clean-up -/

section Cleanup

variable {faults : RetentionFaults} {now cutoff : ℤ} {limit : ℕ} {st : RetentionState}

/-- The committed state and the events of the transaction are as before. -/
structure SameBut (st st' : RetentionState) : Prop where
  db : st'.db = st.db
  events : st'.events = st.events
  pendingEvents : st'.pendingEvents = st.pendingEvents

theorem SameBut.trans {st st' st'' : RetentionState} (h : SameBut st st') (h' : SameBut st' st'') :
    SameBut st st'' :=
  ⟨h'.db.trans h.db, h'.events.trans h.events, h'.pendingEvents.trans h.pendingEvents⟩

theorem ends_executeDelete {m : StateModel} {ids : List ℕ} {db db' : Database}
    (h : db.delete m ids = some db') : Ends (executeDelete m ids db)
      (fun r st' => r = .ok ids.length ∧ st' = st.put db') st := by
  unfold executeDelete
  rw [h]
  exact ⟨rfl, rfl⟩

theorem ends_cleanCategory (c : Category) :
    Ends (cleanCategory faults now cutoff limit false c)
      (fun r st' => SameBut st st' ∧
        (∀ count, r = .ok count → Cleans now cutoff limit st.pending c st'.pending count) ∧
        (faults.selected c = true → faults.executed c = true → ∃ count, r = .ok count)) st := by
  have hfail {e : RetentionError} (hno : ¬(faults.selected c = true ∧ faults.executed c = true)) :
      SameBut st st ∧
        (∀ count, (.error e : Except RetentionError ℕ) = .ok count →
          Cleans now cutoff limit st.pending c st.pending count) ∧
        (faults.selected c = true → faults.executed c = true →
          ∃ count, (.error e : Except RetentionError ℕ) = .ok count) :=
    ⟨⟨rfl, rfl, rfl⟩, fun _ h => (by cases h), fun hs he => absurd ⟨hs, he⟩ hno⟩
  cases c with
  | marked =>
      refine Ends.raiseIf_bind (fun h => hfail fun hok => not_of_negated h hok.1)
        fun hselected => ?_
      refine Ends.get_bind (Ends.raiseIf_bind (fun h => hfail fun hok => not_of_negated h hok.2)
        fun hexecuted => Ends.modify_bind ?_)
      refine ⟨⟨rfl, rfl, rfl⟩, fun count h => ?_, fun _ _ => ⟨_, rfl⟩⟩
      cases h
      exact ⟨rfl, rfl⟩
  | deleted m =>
      refine Ends.raiseIf_bind (fun h => hfail fun hok => not_of_negated h hok.1)
        fun hselected => ?_
      refine Ends.get_bind ?_
      dsimp only
      split
      · next hids =>
          have hnil : expendable now cutoff limit st.pending m (st.pending.rows m) = [] :=
            List.map_eq_nil_iff.mp hids
          refine ⟨⟨rfl, rfl, rfl⟩, fun count h => ?_, fun _ _ => ⟨_, rfl⟩⟩
          cases h
          refine ⟨(left_of_expendable_nil hnil).symm, ?_⟩
          rw [hnil, List.length_nil]
      · refine Ends.raiseIf_bind (fun h => hfail fun hok => not_of_negated h hok.2)
          fun hexecuted => ?_
        obtain ⟨db', hdelete, hrows⟩ := delete_expendable now cutoff limit st.pending m
        refine (ends_executeDelete hdelete).mono ?_
        rintro _ _ ⟨rfl, rfl⟩
        refine ⟨⟨rfl, rfl, rfl⟩, fun count h => ?_, fun _ _ => ⟨_, rfl⟩⟩
        cases h
        exact ⟨hrows, List.length_map _⟩

theorem ends_cleanCategories (cs : List Category) :
    Ends (cleanCategories faults now cutoff limit false cs)
      (fun r st' => SameBut st st' ∧
        (∀ counts, r = .ok counts →
          CleansAll now cutoff limit st.pending cs st'.pending counts) ∧
        ((∀ c ∈ cs, faults.selected c = true ∧ faults.executed c = true) →
          ∃ counts, r = .ok counts)) st := by
  induction cs generalizing st with
  | nil =>
      refine ⟨⟨rfl, rfl, rfl⟩, fun counts h => ?_, fun _ => ⟨_, rfl⟩⟩
      cases h
      exact .nil _
  | cons c cs ih =>
      refine (ends_cleanCategory c).bind ?_ ?_
      · rintro count st₁ ⟨hsame, hclean, -⟩
        refine ih.bind ?_ ?_
        · rintro counts st₂ ⟨hsame', hcleans, -⟩
          refine ⟨hsame.trans hsame', fun _ h => ?_, fun _ => ⟨_, rfl⟩⟩
          cases h
          exact .cons (hclean _ rfl) (hcleans _ rfl)
        · rintro e st₂ ⟨hsame', -, hok⟩
          refine ⟨hsame.trans hsame', fun _ h => (by cases h), fun hall => ?_⟩
          obtain ⟨counts, h⟩ := hok fun c hc => hall c (.tail _ hc)
          cases h
      · rintro e st₁ ⟨hsame, -, hok⟩
        refine ⟨hsame, fun _ h => (by cases h), fun hall => ?_⟩
        obtain ⟨count, h⟩ := hok (hall c (.head _)).1 (hall c (.head _)).2
        cases h

theorem ends_cleanupExpiredSecurityState {days size : ℤ} :
    Ends (cleanupExpiredSecurityState faults now days size false false)
      (fun r st' => SameBut st st' ∧
        (∀ counts, r = .ok counts → Cleaned now (now - timedeltaDays days) (batchLimit size)
          st.pending st'.pending counts) ∧
        ((∀ c, faults.selected c = true ∧ faults.executed c = true) → faults.flushed = true →
          ∃ counts, r = .ok counts)) st := by
  refine (ends_cleanCategories categories).bind ?_ ?_
  · rintro counts st₁ ⟨hsame, hcleans, -⟩
    refine Ends.raiseIf_bind (fun h => ⟨hsame, fun _ h => (by cases h), fun _ hflushed => ?_⟩)
      fun _ => ⟨hsame, fun _ h => ?_, fun _ _ => ⟨_, rfl⟩⟩
    · exact absurd hflushed (not_of_negated h)
    · cases h
      exact (hcleans _ rfl).cleaned
  · rintro e st₁ ⟨hsame, -, hok⟩
    refine ⟨hsame, fun _ h => (by cases h), fun hall _ => ?_⟩
    obtain ⟨counts, h⟩ := hok fun c _ => hall c
    cases h

/-- What a dry run counts. -/
def preview (now cutoff : ℤ) (limit : ℕ) (db : Database) : Category → ℕ
  | .marked => (expiring now limit db).length
  | .deleted m => (expendable now cutoff limit db m (db.rows m)).length

theorem ends_previewCategories (cs : List Category) :
    Ends (cleanCategories faults now cutoff limit true cs)
      (fun r st' => st' = st ∧ ∀ counts, r = .ok counts →
        counts = cs.map fun c => (c, preview now cutoff limit st.pending c)) st := by
  have hone (c : Category) : Ends (cleanCategory faults now cutoff limit true c)
      (fun r st' => st' = st ∧ ∀ count, r = .ok count →
        count = preview now cutoff limit st.pending c) st := by
    cases c with
    | marked =>
        refine Ends.raiseIf_bind (fun _ => ⟨rfl, fun _ h => (by cases h)⟩) fun _ => ?_
        refine Ends.get_bind ⟨rfl, fun count h => ?_⟩
        cases h
        rfl
    | deleted m =>
        refine Ends.raiseIf_bind (fun _ => ⟨rfl, fun _ h => (by cases h)⟩) fun _ => ?_
        refine Ends.get_bind ?_
        dsimp only
        split
        · next hids =>
            have hnil : expendable now cutoff limit st.pending m (st.pending.rows m) = [] :=
              List.map_eq_nil_iff.mp hids
            refine ⟨rfl, fun count h => ?_⟩
            cases h
            rw [preview, hnil, List.length_nil]
        · refine ⟨rfl, fun count h => ?_⟩
          cases h
          exact List.length_map _
  induction cs with
  | nil =>
      refine ⟨rfl, fun counts h => ?_⟩
      cases h
      rfl
  | cons c cs ih =>
      refine (hone c).bind ?_ ?_
      · rintro count st₁ ⟨rfl, hcount⟩
        refine ih.bind ?_ ?_
        · rintro counts st₂ ⟨rfl, hcounts⟩
          refine ⟨rfl, fun _ h => ?_⟩
          cases h
          rw [hcount _ rfl, hcounts _ rfl, List.map_cons]
        · rintro e st₂ ⟨rfl, -⟩
          exact ⟨rfl, fun _ h => (by cases h)⟩
      · rintro e st₁ ⟨rfl, -⟩
        exact ⟨rfl, fun _ h => (by cases h)⟩

end Cleanup

/-! ### One command -/

/-- The report of a clean-up that was committed with it. -/
def RetentionEvent.report? : RetentionEvent → Option RetentionReport
  | .completed report => some report
  | _ => none

def completedReports (events : List RetentionEvent) : List RetentionReport :=
  events.filterMap RetentionEvent.report?

/-- The retention cutoff at a time. -/
def cutoffAt (config : RetentionConfig) (now : ℤ) : ℤ :=
  now - timedeltaDays (config.retentionDays.getD 0)

def Command.batch (config : RetentionConfig) (c : Command) : ℕ :=
  batchLimit (c.limit.getD (config.cleanupBatchSize.getD 0))

/-- A confirmed command in which nothing fails before the commit. -/
structure Undisturbed (config : RetentionConfig) (c : Command) : Prop where
  confirm : c.confirm = true
  days : ∃ days, config.retentionDays = some days ∧ 1 ≤ days ∧ days ≤ 365
  size : ∃ size, config.cleanupBatchSize = some size ∧ 1 ≤ size ∧ size ≤ 5000
  limit : ∀ limit, c.limit = some limit → 1 ≤ limit ∧ limit ≤ 5000
  started : c.faults.started.written = true ∧ c.faults.started.logged = true
  statements : ∀ category, c.faults.selected category = true ∧ c.faults.executed category = true
  flushed : c.faults.flushed = true
  completed : c.faults.completed.written = true
  committed : c.faults.committed = true

/-- A command changes nothing, or it commits a clean-up with its event. -/
inductive Outcome (config : RetentionConfig) (c : Command) (db : Database)
    (reports : List RetentionReport) (db' : Database) (reports' : List RetentionReport) : Prop
  | unchanged (hdb : db' = db) (hreports : reports' = reports) (h : ¬Undisturbed config c)
  | cleaned (report : RetentionReport)
      (h : Cleaned c.now (cutoffAt config c.now) (c.batch config) db db' report.categoryCounts)
      (hreports : reports' = reports ++ [report])
      (hdays : ∃ days, config.retentionDays = some days ∧ 1 ≤ days ∧ days ≤ 365)

/-- What is committed. -/
structure Committed (db : Database) (reports : List RetentionReport) (st : RetentionState) :
    Prop where
  db : st.db = db
  reports : completedReports st.events = reports

/-- Nothing is pending besides. -/
structure Rested (db : Database) (reports : List RetentionReport) (st : RetentionState) : Prop
    extends Committed db reports st where
  pending : st.pending = st.db
  pendingEvents : st.pendingEvents = st.events

section Command

variable {config : RetentionConfig} {faults : RetentionFaults} {db : Database}
  {reports : List RetentionReport} {st : RetentionState} {limit : Option ℤ} {now : ℤ}

theorem Committed.rollback (h : Committed db reports st) : Rested db reports st.rollback :=
  ⟨⟨h.db, h.reports⟩, rfl, rfl⟩

theorem completedReports_add {events : List RetentionEvent} {e : RetentionEvent}
    (h : e.report? = none) : completedReports (events ++ [e]) = completedReports events := by
  rw [completedReports, List.filterMap_append, List.filterMap_cons_none h, List.filterMap_nil,
    List.append_nil, completedReports]

theorem ends_writeSystemAuditEvent {required : Bool} {audit : AuditStep} {e : RetentionEvent}
    (h : Rested db reports st) (he : e.report? = none) :
    Ends (writeSystemAuditEvent required audit e)
      (fun r st' => Rested db reports st' ∧
        (audit.written = true → audit.logged = true → r = .ok ())) st := by
  have hwritten : Rested db reports (st.add e).commit := by
    refine ⟨⟨h.pending.trans h.db, ?_⟩, rfl, rfl⟩
    show completedReports (st.pendingEvents ++ [e]) = reports
    rw [completedReports_add he, h.pendingEvents, h.reports]
  unfold writeSystemAuditEvent
  split
  · refine Ends.modify_bind (Ends.raiseIf (fun hlog => ⟨hwritten, fun _ hlogged => ?_⟩)
      fun _ => ⟨hwritten, fun _ _ => rfl⟩)
    exact absurd hlogged (not_of_negated hlog)
  · next hno =>
      refine Ends.modify_bind (Ends.raiseIf_bind
        (fun _ => ⟨h.toCommitted.rollback, fun hyes => absurd hyes hno⟩) fun _ => ?_)
      exact Ends.raiseIf (fun _ => ⟨h.toCommitted.rollback, fun hyes => absurd hyes hno⟩)
        fun _ => ⟨h.toCommitted.rollback, fun hyes => absurd hyes hno⟩

theorem ends_announce {confirm : Bool} (h : Rested db reports st) :
    Ends (announce faults limit confirm) (fun r st' => Rested db reports st' ∧
      (faults.started.written = true → faults.started.logged = true → r = .ok ())) st := by
  unfold announce
  split
  · refine Ends.tryCatch (ends_writeSystemAuditEvent h rfl) (fun _ _ h => h) ?_
    rintro e st' ⟨hrested, hok⟩
    exact ⟨hrested, fun hw hl => (by cases hok hw hl)⟩
  · exact ⟨h, fun _ _ => rfl⟩

theorem ends_cleanupFailed {confirm : Bool} {e e' : RetentionError} {α : Type}
    (h : Committed db reports st) :
    Ends (cleanupFailed faults limit confirm e >>= fun _ => (throw e' : Cleanup α))
      (fun r st' => Rested db reports st' ∧ ∃ e, r = .error e) st := by
  have hfailed : Ends (cleanupFailed faults limit confirm e) (fun _ st' => Rested db reports st')
      st := by
    unfold cleanupFailed
    refine Ends.modify_bind ?_
    split
    · exact (ends_writeSystemAuditEvent h.rollback rfl).mono fun _ _ h => h.1
    · exact h.rollback
  exact hfailed.bind (fun _ _ h => ⟨h, _, rfl⟩) fun _ _ h => ⟨h, _, rfl⟩

theorem configuredInt_ok {name : String} {value : Option ℤ} {minimum maximum n : ℤ}
    (h : configuredInt name value minimum maximum = .ok n) :
    value = some n ∧ minimum ≤ n ∧ n ≤ maximum := by
  unfold configuredInt at h
  cases value with
  | none => cases h
  | some value =>
      dsimp only at h
      split at h
      · cases h
      · next hrange =>
          cases h
          rw [not_or, not_lt, not_lt] at hrange
          exact ⟨rfl, hrange⟩

theorem configuredInt_some {name : String} {minimum maximum n : ℤ} (h : minimum ≤ n ∧ n ≤ maximum) :
    configuredInt name (some n) minimum maximum = .ok n :=
  if_neg (not_or.mpr ⟨not_lt.mpr h.1, not_lt.mpr h.2⟩)

theorem validatedLimit_ok {limit limit' : Option ℤ} (h : validatedLimit limit = .ok limit') :
    limit' = limit := by
  unfold validatedLimit at h
  cases limit with
  | none =>
      cases h
      rfl
  | some value =>
      dsimp only at h
      split at h
      · cases h
      · cases h
        rfl

theorem validatedLimit_of {limit : Option ℤ}
    (h : ∀ value, limit = some value → 1 ≤ value ∧ value ≤ 5000) :
    validatedLimit limit = .ok limit := by
  cases limit with
  | none => rfl
  | some value =>
      obtain ⟨h₁, h₂⟩ := h value rfl
      exact if_neg (not_or.mpr ⟨not_lt.mpr h₁, not_lt.mpr h₂⟩)

/-- A clean-up that is not committed yet. -/
structure Prepared (config : RetentionConfig) (c : Command) (st st' : RetentionState)
    (report : RetentionReport) : Prop extends SameBut st st' where
  cleaned : Cleaned c.now (cutoffAt config c.now) (c.batch config) st.pending st'.pending
    report.categoryCounts
  days : ∃ days, config.retentionDays = some days ∧ 1 ≤ days ∧ days ≤ 365

theorem ends_runRetentionCleanup (config : RetentionConfig) (c : Command) :
    Ends (runRetentionCleanup c.faults config c.now c.limit false true false)
      (fun r st' => SameBut st st' ∧ (∀ report, r = .ok report → Prepared config c st st' report) ∧
        (Undisturbed config c → ∃ report, r = .ok report)) st := by
  have hfail {e : RetentionError} {st' : RetentionState} (hsame : SameBut st st')
      (hno : ¬Undisturbed config c) : SameBut st st' ∧
        (∀ report, (.error e : Except RetentionError RetentionReport) = .ok report →
          Prepared config c st st' report) ∧
        (Undisturbed config c →
          ∃ report, (.error e : Except RetentionError RetentionReport) = .ok report) :=
    ⟨hsame, fun _ h => (by cases h), fun hyes => absurd hyes hno⟩
  have hrefl : SameBut st st := ⟨rfl, rfl, rfl⟩
  unfold runRetentionCleanup
  refine Ends.ofExcept_bind (fun e he => hfail hrefl fun hyes => ?_) fun days hdays => ?_
  · obtain ⟨days, hvalue, hrange⟩ := hyes.days
    rw [hvalue, configuredInt_some hrange] at he
    cases he
  refine Ends.ofExcept_bind (fun e he => hfail hrefl fun hyes => ?_) fun size hsize => ?_
  · obtain ⟨size, hvalue, hrange⟩ := hyes.size
    rw [hvalue, configuredInt_some hrange] at he
    cases he
  refine Ends.ofExcept_bind (fun e he => hfail hrefl fun hyes => ?_) fun limit hlimit => ?_
  · rw [validatedLimit_of hyes.limit] at he
    cases he
  refine Ends.raiseIf_bind (fun h => (by cases h)) fun _ => ?_
  have hcutoff : c.now - timedeltaDays days = cutoffAt config c.now := by
    rw [cutoffAt, (configuredInt_ok hdays).1, Option.getD_some]
  have hbatch : batchLimit (limit.getD size) = c.batch config := by
    rw [Command.batch, validatedLimit_ok hlimit, (configuredInt_ok hsize).1, Option.getD_some]
  refine ends_cleanupExpiredSecurityState.bind ?_ ?_
  · rintro counts st₁ ⟨hsame, hcleaned, -⟩
    refine ⟨hsame, fun report h => ?_, fun _ => ⟨_, rfl⟩⟩
    cases h
    have hdone := hcleaned _ rfl
    rw [hcutoff, hbatch] at hdone
    exact ⟨hsame, hdone, days, configuredInt_ok hdays⟩
  · rintro e st₁ ⟨hsame, -, hok⟩
    refine hfail hsame fun hyes => ?_
    obtain ⟨counts, h⟩ := hok hyes.statements hyes.flushed
    cases h

/-- The clean-up is committed with its event, or neither is. -/
theorem ends_commitCleanup {report : RetentionReport} :
    Ends (commitCleanup faults report) (fun _ st' =>
      (Committed st.db (completedReports st.events) st' ∧
        ¬(faults.completed.written = true ∧ faults.committed = true)) ∨
      Committed st.pending (completedReports st.pendingEvents ++ [report]) st') st := by
  have hsame : Committed st.db (completedReports st.events) st := ⟨rfl, rfl⟩
  have hdone : Committed st.pending (completedReports st.pendingEvents ++ [report])
      (st.add (.completed report)).commit := by
    refine ⟨rfl, ?_⟩
    show completedReports (st.pendingEvents ++ [.completed report]) = _
    unfold completedReports
    rw [List.filterMap_append]
    rfl
  unfold commitCleanup auditSystemEventInTransactionRequired
  cases hwritten : faults.completed.written with
  | false =>
      have hno : ¬(false = true ∧ faults.committed = true) := fun h => Bool.false_ne_true h.1
      cases faults.completed.logged <;> exact .inl ⟨hsame, hno⟩
  | true =>
      refine Ends.modify_bind (Ends.raiseIf_bind (fun h => .inl ⟨⟨rfl, rfl⟩, ?_⟩) fun _ => ?_)
      · exact fun hyes => not_of_negated h hyes.2
      · exact Ends.modify_bind (Ends.raiseIf (fun _ => .inr hdone) fun _ => .inr hdone)

theorem ends_recordCleanup {report : RetentionReport} :
    Ends (recordCleanup faults limit true report) (fun _ st' =>
      (Committed st.db (completedReports st.events) st' ∧
        ¬(faults.completed.written = true ∧ faults.committed = true)) ∨
      Committed st.pending (completedReports st.pendingEvents ++ [report]) st') st := by
  unfold recordCleanup
  refine Ends.tryCatch ends_commitCleanup (fun _ _ h => h) fun e st' h => ?_
  rcases h with ⟨h, hno⟩ | h
  · exact (ends_cleanupFailed h).mono fun _ _ h => .inl ⟨h.1.toCommitted, hno⟩
  · exact (ends_cleanupFailed h).mono fun _ _ h => .inr h.1.toCommitted

theorem ends_confirmed (c : Command) (h : Rested db reports st) :
    Ends (runAuditedRetentionCleanup c.faults config c.now c.limit true)
      (fun _ st' => Outcome config c db reports st'.db (completedReports st'.events)) st := by
  have hnone {st' : RetentionState} (h : Committed db reports st') (hno : ¬Undisturbed config c) :
      Outcome config c db reports st'.db (completedReports st'.events) :=
    .unchanged h.db h.reports hno
  unfold runAuditedRetentionCleanup
  refine (ends_announce h).bind ?_ ?_
  · rintro _ st₁ ⟨h₁, -⟩
    have hrun : Ends (tryCatch (runRetentionCleanup c.faults config c.now c.limit (!true) true
        (!true)) fun e => do
          cleanupFailed c.faults c.limit true e
          throw (.clickException (failureMessage e)))
        (fun r st' => (∀ report, r = .ok report → Prepared config c st₁ st' report) ∧
          (∀ e, r = .error e → Committed db reports st' ∧ ¬Undisturbed config c)) st₁ := by
      refine Ends.tryCatch (ends_runRetentionCleanup config c) ?_ ?_
      · rintro report st₂ ⟨-, hprepared, -⟩
        exact ⟨fun _ h => hprepared _ h, fun _ h => (by cases h)⟩
      · rintro e st₂ ⟨hsame, -, hok⟩
        have hno : ¬Undisturbed config c := by
          intro hyes
          obtain ⟨report, h⟩ := hok hyes
          cases h
        have hcommitted : Committed db reports st₂ :=
          ⟨hsame.db.trans h₁.db, by rw [hsame.events, h₁.reports]⟩
        refine (ends_cleanupFailed hcommitted).mono ?_
        rintro _ st₃ ⟨hrested, e', rfl⟩
        exact ⟨fun _ h => (by cases h), fun _ _ => ⟨hrested.toCommitted, hno⟩⟩
    refine hrun.bind ?_ ?_
    · rintro report st₂ ⟨hprepared, -⟩
      obtain ⟨hsame, hcleaned, hdays⟩ := hprepared _ rfl
      have houtcome {st₃ : RetentionState}
          (h₃ : (Committed st₂.db (completedReports st₂.events) st₃ ∧
              ¬(c.faults.completed.written = true ∧ c.faults.committed = true)) ∨
            Committed st₂.pending (completedReports st₂.pendingEvents ++ [report]) st₃) :
          Outcome config c db reports st₃.db (completedReports st₃.events) := by
        rcases h₃ with ⟨h₃, hno⟩ | h₃
        · refine hnone ⟨h₃.db.trans (hsame.db.trans h₁.db), ?_⟩ fun hyes =>
            hno ⟨hyes.completed, hyes.committed⟩
          rw [h₃.reports, hsame.events, h₁.reports]
        · refine .cleaned report ?_ ?_ hdays
          · rw [h₃.db, ← h₁.db, ← h₁.pending]
            exact hcleaned
          · rw [h₃.reports, hsame.pendingEvents, h₁.pendingEvents, h₁.reports]
      exact ends_recordCleanup.bind (fun _ _ h₃ => houtcome h₃) fun _ _ h₃ => houtcome h₃
    · rintro e st₂ ⟨-, hfailed⟩
      obtain ⟨hcommitted, hno⟩ := hfailed _ rfl
      exact hnone hcommitted hno
  · rintro e st₁ ⟨h₁, hok⟩
    refine hnone h₁.toCommitted fun hyes => ?_
    cases hok hyes.started.1 hyes.started.2

/-- What a dry run returns. -/
def Previewed (config : RetentionConfig) (c : Command) (db : Database)
    (report : RetentionReport) : Prop :=
  report.categoryCounts =
    categories.map fun k => (k, preview c.now (cutoffAt config c.now) (c.batch config) db k)

theorem ends_previewCleanup {c : Command} :
    Ends (runRetentionCleanup c.faults config c.now c.limit true false true)
      (fun r st' => (st' = st ∨ st' = st.rollback) ∧
        ∀ report, r = .ok report → Previewed config c st.pending report) st := by
  unfold runRetentionCleanup
  refine Ends.ofExcept_bind (fun e he => ⟨.inl rfl, fun _ h => (by cases h)⟩) fun days hdays => ?_
  refine Ends.ofExcept_bind (fun e he => ⟨.inl rfl, fun _ h => (by cases h)⟩) fun size hsize => ?_
  refine Ends.ofExcept_bind (fun e he => ⟨.inl rfl, fun _ h => (by cases h)⟩) fun limit hlimit => ?_
  refine Ends.raiseIf_bind (fun h => (by cases h)) fun _ => ?_
  have hcutoff : c.now - timedeltaDays days = cutoffAt config c.now := by
    rw [cutoffAt, (configuredInt_ok hdays).1, Option.getD_some]
  have hbatch : batchLimit (limit.getD size) = c.batch config := by
    rw [Command.batch, validatedLimit_ok hlimit, (configuredInt_ok hsize).1, Option.getD_some]
  refine Ends.bind (M := fun r st' => (st' = st ∨ st' = st.rollback) ∧ ∀ counts, r = .ok counts →
    counts = categories.map fun k =>
      (k, preview c.now (cutoffAt config c.now) (c.batch config) st.pending k)) ?_ ?_ ?_
  · refine (ends_previewCategories categories).bind ?_ ?_
    · rintro counts st₁ ⟨rfl, hcounts⟩
      refine ⟨.inr rfl, fun _ h => ?_⟩
      cases h
      rw [hcounts _ rfl, hcutoff, hbatch]
    · rintro e st₁ ⟨rfl, -⟩
      exact ⟨.inl rfl, fun _ h => (by cases h)⟩
  · rintro counts st₁ ⟨hst, hcounts⟩
    refine ⟨hst, fun report h => ?_⟩
    cases h
    exact hcounts _ rfl
  · rintro e st₁ ⟨hst, -⟩
    exact ⟨hst, fun _ h => (by cases h)⟩

variable (config) in
theorem ends_dryRun (c : Command) (h : Rested db reports st) :
    Ends (runAuditedRetentionCleanup c.faults config c.now c.limit false)
      (fun r st' => Committed db reports st' ∧
        ∀ report, r = .ok report → Previewed config c db report) st := by
  have hrun : Ends (tryCatch (runRetentionCleanup c.faults config c.now c.limit true false true)
      fun e => do
        cleanupFailed c.faults c.limit false e
        throw (.clickException (failureMessage e)))
      (fun r st' => Rested db reports st' ∧
        ∀ report, r = .ok report → Previewed config c db report) st := by
    have hrested {st' : RetentionState} (hst : st' = st ∨ st' = st.rollback) :
        Rested db reports st' := by
      rcases hst with rfl | rfl
      · exact h
      · exact h.toCommitted.rollback
    refine Ends.tryCatch ends_previewCleanup ?_ ?_
    · rintro report st₁ ⟨hst, hpreview⟩
      rw [h.pending, h.db] at hpreview
      exact ⟨hrested hst, hpreview⟩
    · rintro e st₁ ⟨hst, -⟩
      refine (ends_cleanupFailed (hrested hst).toCommitted).mono ?_
      rintro _ st₂ ⟨h₂, e', rfl⟩
      exact ⟨h₂, fun _ h => (by cases h)⟩
  refine hrun.bind ?_ ?_
  · rintro report st₁ ⟨h₁, hpreview⟩
    refine (ends_writeSystemAuditEvent h₁ rfl).bind ?_ ?_
    · rintro _ st₂ ⟨h₂, -⟩
      refine ⟨h₂.toCommitted, fun _ h => ?_⟩
      cases h
      exact hpreview _ rfl
    · rintro e st₂ ⟨h₂, -⟩
      exact ⟨h₂.toCommitted, fun _ h => (by cases h)⟩
  · rintro e st₁ ⟨h₁, -⟩
    exact ⟨h₁.toCommitted, fun _ h => (by cases h)⟩

/-- What a command leaves. -/
theorem runCommand_outcome (config : RetentionConfig) (c : Command) (s : Stored) :
    Outcome config c s.db (completedReports s.events) (runCommand config c s).db
      (completedReports (runCommand config c s).events) := by
  have hrested : Rested s.db (completedReports s.events) (.fresh s.db s.events) :=
    ⟨⟨rfl, rfl⟩, rfl, rfl⟩
  unfold runCommand
  cases hconfirm : c.confirm with
  | true => exact Ends.after (ends_confirmed c hrested)
  | false =>
      have hkept := Ends.after ((ends_dryRun config c hrested).mono fun _ _ h => h.1)
      refine .unchanged hkept.db hkept.reports fun hyes => ?_
      rw [hyes.confirm] at hconfirm
      cases hconfirm

end Command

end SitBank.Security.Retention
