import SitBank.Security.RetentionCommands

/-!
What retention commands do to the tables over whole runs.

What they take away was due (`Due`), and what they leave of it is bounded by the room in their
batches. The events account for each row that is gone.
-/

namespace SitBank.Security.Retention

open SitBank.Interaction SitBank.Orm

/-! ### What is due -/

/-- The reset transactions that are not expired. -/
def live (now : ℤ) (db : Database) : List ResetTransactionRow :=
  db.resetTransactions.filter fun tx => now < tx.expiresAt

/-- What a clean-up is there to delete, a reset token if its transactions go too. -/
def Due (now cutoff : ℤ) (db : Database) (m : StateModel) (row : m.Row) : Prop :=
  criteria (live now db) now cutoff m row = true

/-- Later criteria, with fewer transactions, are wider. -/
theorem criteria_mono {txs txs' : List ResetTransactionRow} {now now' cutoff cutoff' : ℤ}
    (htxs : txs' ⊆ txs) (hnow : now ≤ now') (hcutoff : cutoff ≤ cutoff') {m : StateModel}
    {row : m.Row} (h : criteria txs now cutoff m row = true) :
    criteria txs' now' cutoff' m row = true := by
  have hlt {a : ℤ} (ha : decide (a < cutoff) = true) : decide (a < cutoff') = true :=
    decide_eq_true (lt_of_lt_of_le (of_decide_eq_true ha) hcutoff)
  have hle {a : ℤ} (ha : decide (a ≤ now) = true) : decide (a ≤ now') = true :=
    decide_eq_true ((of_decide_eq_true ha).trans hnow)
  cases m with
  | serverSideSession =>
      obtain ⟨e, he, hold⟩ := (Option.any_eq_true _ _).mp h
      exact (Option.any_eq_true _ _).mpr ⟨e, he, hlt hold⟩
  | passwordResetToken =>
      obtain ⟨hexpired, hfree⟩ := Bool.and_eq_true_iff.mp h
      refine Bool.and_eq_true_iff.mpr ⟨hle hexpired, ?_⟩
      rw [Bool.not_eq_true', List.any_eq_false] at hfree ⊢
      exact fun tx htx => hfree tx (htxs htx)
  | securityCircuitBreaker =>
      exact Bool.and_eq_true_iff.mpr ((Bool.and_eq_true_iff.mp h).imp_right hlt)
  | topUpApprovalRequest =>
      exact Bool.and_eq_true_iff.mpr ((Bool.and_eq_true_iff.mp h).imp_right hlt)
  | _ => exact hle h

theorem criteria_eq (txs txs' : List ResetTransactionRow) {now cutoff : ℤ} {m : StateModel}
    (hm : m ≠ .passwordResetToken) : criteria txs now cutoff m = criteria txs' now cutoff m :=
  criteria_congr fun h => absurd h hm

/-! ### What one clean-up takes away -/

section Once

variable {now cutoff : ℤ} {limit : ℕ} {db db' : Database} {counts : List (Category × ℕ)}

theorem marked_rows {m : StateModel} (hm : m ≠ .serverSideSession) :
    (marked now limit db).rows m = db.rows m := Function.update_of_ne hm ..

theorem marked_sessions : (marked now limit db).sessions = updateRows SessionRow.id db.sessions
    ((expiring now limit db).map SessionRow.id) (SessionRow.expire now) := by
  unfold marked Database.expireSessions
  exact Function.update_self StateModel.serverSideSession _ db.rows

theorem mem_marked {row' : SessionRow} : row' ∈ (marked now limit db).sessions ↔
    ∃ row ∈ db.sessions, row' = if row.id ∈ (expiring now limit db).map SessionRow.id then
      row.expire now else row := by
  rw [marked_sessions]
  exact mem_updateRows

theorem mem_expiring {row : SessionRow} (hrow : row ∈ db.sessions) :
    row.id ∈ (expiring now limit db).map SessionRow.id ↔ row ∈ expiring now limit db := by
  refine ⟨fun h => ?_, fun h => List.mem_map_of_mem h⟩
  obtain ⟨row', hrow', hid⟩ := List.mem_map.mp h
  rwa [← key_inj (db.unique .serverSideSession) (mem_batch hrow').1 hrow hid]

theorem Cleaned.rows_subset (h : Cleaned now cutoff limit db db' counts) {m : StateModel}
    (hm : m ≠ .serverSideSession) {row : m.Row} (hrow : row ∈ db'.rows m) : row ∈ db.rows m := by
  rw [h.rows m, marked_rows hm] at hrow
  exact mem_of_mem_dropBatch hrow

/-- What is gone met the criteria. -/
theorem Cleaned.rows_lost (h : Cleaned now cutoff limit db db' counts) {m : StateModel}
    {row : m.Row} (hrow : row ∈ (marked now limit db).rows m) :
    row ∈ db'.rows m ∨ criteria db'.resetTransactions now cutoff m row = true := by
  rw [h.rows m]
  by_cases hp : criteria db'.resetTransactions now cutoff m row = true
  · exact .inr hp
  · exact .inl (mem_dropBatch_of_neg ((marked now limit db).unique m) hrow hp)

theorem Cleaned.live_subset (h : Cleaned now cutoff limit db db' counts) :
    live now db ⊆ db'.resetTransactions := by
  intro tx htx
  obtain ⟨hmem, hlive⟩ := List.mem_filter.mp htx
  have hmem' : tx ∈ (marked now limit db).rows .passwordResetTransaction := by
    rw [marked_rows (StateModel.noConfusion ·)]
    exact hmem
  refine (h.rows_lost hmem').resolve_right fun hp => ?_
  exact absurd (of_decide_eq_true hp) (not_le.mpr (of_decide_eq_true hlive))

theorem Cleaned.length_rows (h : Cleaned now cutoff limit db db' counts) (m : StateModel) :
    (db.rows m).length = (db'.rows m).length + (counts.lookup (.deleted m)).getD 0 := by
  have hlength : ((marked now limit db).rows m).length = (db.rows m).length := by
    by_cases hm : m = .serverSideSession
    · subst hm
      exact (congrArg List.length marked_sessions).trans length_updateRows
    · rw [marked_rows hm]
  rw [h.counted m, h.rows m, Option.getD_some, ← hlength]
  exact (length_dropBatch ((marked now limit db).unique m)).symm

variable (now limit db) in
/-- A session that is marked has ended. -/
theorem countP_marked {q : SessionRow → Bool}
    (hexpired : ∀ row : SessionRow, row.expired now = true → q row = true)
    (hq : ∀ row : SessionRow, q (row.expire now) = false) :
    (marked now limit db).sessions.countP q + (expiring now limit db).length =
      db.sessions.countP q := by
  rw [marked_sessions, countP_updateRows hq]
  exact countP_dropBatch (db.unique .serverSideSession) fun row _ h => hexpired row h

theorem Cleaned.count_open (h : Cleaned now cutoff limit db db' counts) :
    db.sessions.countP (·.endedAt.isNone) =
      db'.sessions.countP (·.endedAt.isNone) + (counts.lookup .marked).getD 0 := by
  have hmarked := countP_marked now limit db (q := fun row => row.endedAt.isNone)
    (fun row hrow => (Bool.and_eq_true_iff.mp (Bool.and_eq_true_iff.mp hrow).1).2) fun _ => rfl
  have hdeleted : (expendable now cutoff limit db' .serverSideSession
      ((marked now limit db).rows .serverSideSession)).countP
        (fun row : SessionRow => row.endedAt.isNone) = 0 := by
    refine List.countP_eq_zero.mpr fun row hrow hopen => ?_
    obtain ⟨e, he, -⟩ := (Option.any_eq_true _ _).mp (mem_batch hrow).2
    rw [he] at hopen
    cases hopen
  have hperm : (expendable now cutoff limit db' .serverSideSession
        ((marked now limit db).rows .serverSideSession)).countP
          (fun row : SessionRow => row.endedAt.isNone) +
      (left now cutoff limit db' .serverSideSession
        ((marked now limit db).rows .serverSideSession)).countP
          (fun row : SessionRow => row.endedAt.isNone) =
      (marked now limit db).sessions.countP (·.endedAt.isNone) := by
    rw [← List.countP_append]
    exact (dropBatch_perm ((marked now limit db).unique .serverSideSession)).countP_eq _
  have hrest : db'.sessions.countP (·.endedAt.isNone) =
      (marked now limit db).sessions.countP (·.endedAt.isNone) := by
    rw [← Nat.zero_add (db'.sessions.countP _), ← hdeleted]
    unfold Database.sessions
    rw [h.rows .serverSideSession]
    exact hperm
  rw [h.countedMarked, Option.getD_some, hrest, hmarked]

end Once

/-! ### What a run takes away -/

/-- A session is kept, or marked as expired. -/
def Fate (latest : ℤ) (row row' : SessionRow) : Prop :=
  row' = row ∨ ∃ t ≤ latest, row.expired t = true ∧ row' = row.expire t

theorem expiresAt_of_expired {now : ℤ} {row : SessionRow} (h : row.expired now = true) :
    row.expiresAt ≤ now := of_decide_eq_true (Bool.and_eq_true_iff.mp h).2

theorem expired_mono {now now' : ℤ} (hnow : now ≤ now') {row : SessionRow}
    (h : row.expired now = true) : row.expired now' = true :=
  Bool.and_eq_true_iff.mpr
    ⟨(Bool.and_eq_true_iff.mp h).1, decide_eq_true ((expiresAt_of_expired h).trans hnow)⟩

theorem expired_expire {now now' : ℤ} {row : SessionRow} :
    (row.expire now).expired now' = false := rfl

theorem Fate.trans {latest : ℤ} {row row₁ row₂ : SessionRow} (h : Fate latest row row₁)
    (h' : Fate latest row₁ row₂) : Fate latest row row₂ := by
  rcases h with rfl | ⟨t, ht, hexpired, rfl⟩
  · exact h'
  · rcases h' with rfl | ⟨t', -, hexpired', -⟩
    · exact .inr ⟨t, ht, hexpired, rfl⟩
    · rw [expired_expire] at hexpired'
      cases hexpired'

/-- What is gone was due at the latest time; a session may have expired long before. -/
structure Purged (latest cutoff : ℤ) (db db' : Database) : Prop where
  rows : ∀ m ≠ .serverSideSession, ∀ row ∈ db'.rows m, row ∈ db.rows m
  lost : ∀ m ≠ .serverSideSession, ∀ row ∈ db.rows m,
    row ∈ db'.rows m ∨ Due latest cutoff db m row
  sessions : ∀ row' ∈ db'.sessions, ∃ row ∈ db.sessions, Fate latest row row'
  ended : ∀ row ∈ db.sessions, (∃ row' ∈ db'.sessions, Fate latest row row') ∨
    Due latest cutoff db .serverSideSession row ∨ (row.expired latest ∧ row.expiresAt < cutoff)

namespace Purged

variable {latest cutoff : ℤ} {db db₁ db₂ : Database}

theorem refl (db : Database) : Purged latest cutoff db db where
  rows _ _ _ h := h
  lost _ _ _ h := .inl h
  sessions row h := ⟨row, h, .inl rfl⟩
  ended row h := .inl ⟨row, h, .inl rfl⟩

theorem live_subset (h : Purged latest cutoff db db₁) : live latest db ⊆ live latest db₁ := by
  intro tx htx
  obtain ⟨hmem, hlive⟩ := List.mem_filter.mp htx
  rcases h.lost .passwordResetTransaction (StateModel.noConfusion ·) tx hmem with hkept | hdue
  · exact List.mem_filter.mpr ⟨hkept, hlive⟩
  · exact absurd (of_decide_eq_true hdue) (not_le.mpr (of_decide_eq_true hlive))

theorem trans (h : Purged latest cutoff db db₁) (h' : Purged latest cutoff db₁ db₂) :
    Purged latest cutoff db db₂ where
  rows m hm row hrow := h.rows m hm row (h'.rows m hm row hrow)
  lost m hm row hrow := by
    rcases h.lost m hm row hrow with hrow | hdue
    · refine (h'.lost m hm row hrow).imp_right fun hdue => ?_
      exact criteria_mono h.live_subset (Int.le_refl _) (Int.le_refl _) hdue
    · exact .inr hdue
  sessions row₂ hrow₂ := by
    obtain ⟨row₁, hrow₁, h₂⟩ := h'.sessions row₂ hrow₂
    obtain ⟨row, hrow, h₁⟩ := h.sessions row₁ hrow₁
    exact ⟨row, hrow, h₁.trans h₂⟩
  ended row hrow := by
    rcases h.ended row hrow with ⟨row₁, hrow₁, h₁⟩ | hgone
    · rcases h'.ended row₁ hrow₁ with ⟨row₂, hrow₂, h₂⟩ | hgone
      · exact .inl ⟨row₂, hrow₂, h₁.trans h₂⟩
      · rcases h₁ with rfl | ⟨t, ht, hexpired, rfl⟩
        · exact .inr hgone
        · -- it was marked at a time before the cutoff
          rcases hgone with hdue | ⟨hexpired', -⟩
          · refine .inr (.inr ⟨expired_mono ht hexpired, ?_⟩)
            exact (expiresAt_of_expired hexpired).trans_lt (of_decide_eq_true hdue)
          · rw [expired_expire] at hexpired'
            cases hexpired'
    · exact .inr hgone

end Purged

theorem Cleaned.purged {now cutoff latest cutoff' : ℤ} {limit : ℕ} {db db' : Database}
    {counts : List (Category × ℕ)} (h : Cleaned now cutoff limit db db' counts)
    (hnow : now ≤ latest) (hcutoff : cutoff ≤ cutoff') : Purged latest cutoff' db db' where
  rows m hm row hrow := h.rows_subset hm hrow
  lost m hm row hrow := by
    have hmarked : row ∈ (marked now limit db).rows m := by
      rwa [marked_rows hm]
    refine (h.rows_lost hmarked).imp_right fun hp =>
      criteria_mono (fun tx htx => ?_) hnow hcutoff hp
    obtain ⟨hmem, hlive⟩ := List.mem_filter.mp htx
    refine h.live_subset (List.mem_filter.mpr ⟨hmem, decide_eq_true ?_⟩)
    exact hnow.trans_lt (of_decide_eq_true hlive)
  sessions row' hrow' := by
    unfold Database.sessions at hrow'
    rw [h.rows .serverSideSession] at hrow'
    have hmarked : row' ∈ (marked now limit db).sessions := mem_of_mem_dropBatch hrow'
    obtain ⟨row, hrow, rfl⟩ := mem_marked.mp hmarked
    refine ⟨row, hrow, ?_⟩
    split
    · next hid => exact .inr ⟨now, hnow, (mem_batch ((mem_expiring hrow).mp hid)).2, rfl⟩
    · exact .inl rfl
  ended row hrow := by
    by_cases hid : row.id ∈ (expiring now limit db).map SessionRow.id
    · have hexpired := (mem_batch ((mem_expiring hrow).mp hid)).2
      have hmarked : row.expire now ∈ (marked now limit db).rows .serverSideSession := by
        refine mem_marked.mpr ⟨row, hrow, ?_⟩
        rw [if_pos hid]
      rcases h.rows_lost hmarked with hrow' | hp
      · exact .inl ⟨_, hrow', .inr ⟨now, hnow, hexpired, rfl⟩⟩
      · refine .inr (.inr ⟨expired_mono hnow hexpired, ?_⟩)
        exact (expiresAt_of_expired hexpired).trans_lt
          ((of_decide_eq_true hp : now < cutoff).trans_le hcutoff)
    · have hmarked : row ∈ (marked now limit db).rows .serverSideSession := by
        refine mem_marked.mpr ⟨row, hrow, ?_⟩
        rw [if_neg hid]
      rcases h.rows_lost hmarked with hrow' | hp
      · exact .inl ⟨row, hrow', .inl rfl⟩
      · exact .inr (.inl (criteria_mono (List.Subset.refl _) hnow hcutoff hp))

/-! ### What a run leaves -/

/-- What is due at a time, or becomes due by then. -/
def wanted (now cutoff : ℤ) : (m : StateModel) → m.Row → Bool
  | .serverSideSession => fun (row : SessionRow) => row.endedAt.any (· < cutoff) || row.expired now
  | m => criteria [] now cutoff m

/-- How many rows clean-ups up to a time can take before nothing is due. -/
def room (now cutoff : ℤ) (db : Database) (m : StateModel) : ℕ :=
  (db.rows m).countP (wanted now cutoff m) +
    if m = .passwordResetToken then db.resetTransactions.countP (·.expiresAt ≤ now) else 0

theorem wanted_of_criteria {txs : List ResetTransactionRow} {now now' cutoff cutoff' : ℤ}
    (hnow : now ≤ now') (hcutoff : cutoff ≤ cutoff') {m : StateModel} {row : m.Row}
    (h : criteria txs now cutoff m row = true) : wanted now' cutoff' m row = true := by
  have h' := criteria_mono (List.nil_subset _) hnow hcutoff h
  cases m with
  | serverSideSession => exact Bool.or_eq_true_iff.mpr (.inl h')
  | _ => exact h'

section Progress

variable {now cutoff latest cutoff' : ℤ} {limit : ℕ} {db db' : Database}
  {counts : List (Category × ℕ)}

variable (limit) in
theorem countP_wanted_marked (hnow : now ≤ latest) (m : StateModel) :
    ((marked now limit db).rows m).countP (wanted latest cutoff' m) ≤
      (db.rows m).countP (wanted latest cutoff' m) := by
  by_cases hm : m = .serverSideSession
  · subst hm
    refine le_of_eq_of_le (congrArg (List.countP _) marked_sessions) (countP_updateRows_le ?_)
    intro row hrow hid _
    refine Bool.or_eq_true_iff.mpr (.inr (expired_mono hnow ?_))
    exact (mem_batch ((mem_expiring hrow).mp hid)).2
  · rw [marked_rows hm]

theorem Cleaned.countP_wanted (h : Cleaned now cutoff limit db db' counts) (hnow : now ≤ latest)
    (hcutoff : cutoff ≤ cutoff') (m : StateModel) :
    (db'.rows m).countP (wanted latest cutoff' m) +
        (expendable now cutoff limit db' m ((marked now limit db).rows m)).length ≤
      (db.rows m).countP (wanted latest cutoff' m) := by
  rw [h.rows m]
  refine le_of_eq_of_le ?_ (countP_wanted_marked limit hnow m)
  exact countP_dropBatch ((marked now limit db).unique m) fun row _ hp =>
    wanted_of_criteria hnow hcutoff hp

/-- A batch is full, or nothing is left in the table that meets its criteria. -/
theorem Cleaned.full_or_done (h : Cleaned now cutoff limit db db' counts) (m : StateModel) :
    (expendable now cutoff limit db' m ((marked now limit db).rows m)).length = limit ∨
      ∀ row ∈ db'.rows m, ¬criteria db'.resetTransactions now cutoff m row = true := by
  rw [h.rows m]
  exact batch_full_or_done ((marked now limit db).unique m)

/-- A clean-up uses its room, or nothing is left that was due before. -/
theorem Cleaned.room (h : Cleaned now cutoff limit db db' counts) {db₀ : Database}
    {first cutoff₀ : ℤ} (hfirst : first ≤ now) (hcutoff₀ : cutoff₀ ≤ cutoff) (hnow : now ≤ latest)
    (hcutoff : cutoff ≤ cutoff') (h₀ : ∀ tx ∈ db.resetTransactions, tx ∈ db₀.resetTransactions)
    (m : StateModel) :
    room latest cutoff' db' m + limit ≤ room latest cutoff' db m ∨
      ∀ row ∈ db'.rows m, ¬Due first cutoff₀ db₀ m row := by
  have hrows := h.countP_wanted hnow hcutoff m
  have htxs := h.countP_wanted hnow hcutoff .passwordResetTransaction
  have htxs' : db'.resetTransactions.countP (·.expiresAt ≤ latest) + (expendable now cutoff limit
      db' .passwordResetTransaction ((marked now limit db).rows .passwordResetTransaction)).length ≤
        db.resetTransactions.countP (·.expiresAt ≤ latest) := htxs
  unfold Retention.room
  rcases h.full_or_done m with hfull | hdone
  · left
    split <;> omega
  · by_cases hm : m = .passwordResetToken
    · rcases h.full_or_done .passwordResetTransaction with hfull | hnone
      · left
        rw [if_pos hm, if_pos hm]
        omega
      · refine .inr fun row hrow hdue => hdone row hrow (criteria_mono ?_ hfirst hcutoff₀ hdue)
        intro tx htx
        refine List.mem_filter.mpr ⟨h₀ tx (h.rows_subset (StateModel.noConfusion ·) htx), ?_⟩
        have hlate : ¬decide (tx.expiresAt ≤ now) = true := hnone tx htx
        exact decide_eq_true (hfirst.trans_lt (not_le.mp fun hle => hlate (decide_eq_true hle)))
    · refine .inr fun row hrow hdue => hdone row hrow ?_
      rw [criteria_eq db'.resetTransactions (live first db₀) hm]
      exact criteria_mono (List.Subset.refl _) hfirst hcutoff₀ hdue

theorem Cleaned.stays (h : Cleaned now cutoff limit db db' counts) {db₀ : Database}
    {first cutoff₀ : ℤ} (hfirst : cutoff₀ ≤ now) {m : StateModel}
    (hdone : ∀ row ∈ db.rows m, ¬Due first cutoff₀ db₀ m row) :
    ∀ row ∈ db'.rows m, ¬Due first cutoff₀ db₀ m row := by
  by_cases hm : m = .serverSideSession
  · subst hm
    intro row' hrow'
    rw [h.rows .serverSideSession] at hrow'
    obtain ⟨row, hrow, rfl⟩ := mem_marked.mp (mem_of_mem_dropBatch hrow')
    split
    · exact fun hdue => absurd (of_decide_eq_true hdue) (not_lt.mpr hfirst)
    · exact hdone row hrow
  · exact fun row hrow => hdone row (h.rows_subset hm hrow)

/-- The same for the sessions that are marked. -/
theorem Cleaned.expired (h : Cleaned now cutoff limit db db' counts) {first : ℤ}
    (hfirst : first ≤ now) (hnow : now ≤ latest) :
    db'.sessions.countP (SessionRow.expired latest) + limit ≤
        db.sessions.countP (SessionRow.expired latest) ∨
      ∀ row ∈ db'.sessions, row.expired first = false := by
  have hsub : ∀ row' ∈ db'.sessions, row' ∈ (marked now limit db).sessions := by
    intro row' hrow'
    unfold Database.sessions at hrow'
    rw [h.rows .serverSideSession] at hrow'
    exact mem_of_mem_dropBatch hrow'
  have hcount : db'.sessions.countP (SessionRow.expired latest) ≤
      (marked now limit db).sessions.countP (SessionRow.expired latest) := by
    unfold Database.sessions
    rw [h.rows .serverSideSession]
    exact (without_sublist _).countP_le
  have hmarked := countP_marked now limit db (q := SessionRow.expired latest)
    (fun row hrow => expired_mono hnow hrow) fun _ => expired_expire
  by_cases hlimit : db.sessions.countP (SessionRow.expired now) ≤ limit
  · refine .inr fun row' hrow' => ?_
    obtain ⟨row, hrow, rfl⟩ := mem_marked.mp (hsub row' hrow')
    split
    · rfl
    · next hid =>
        refine Bool.eq_false_iff.mpr fun hexpired => hid ((mem_expiring hrow).mpr ?_)
        exact mem_batch_of_le hlimit hrow (expired_mono hfirst hexpired)
  · have hfull : (expiring now limit db).length = limit := by
      rw [expiring, length_batch]
      omega
    left
    omega

end Progress

/-! ### Runs -/

section Runs

variable {config : RetentionConfig} {first latest : ℤ} {cmds : List Command} {s : Stored}

theorem cutoffAt_mono {now now' : ℤ} (h : now ≤ now') :
    cutoffAt config now ≤ cutoffAt config now' :=
  Int.sub_le_sub_right h _

theorem cutoffAt_le {days now : ℤ} (h : config.retentionDays = some days) (hdays : 1 ≤ days) :
    cutoffAt config now ≤ now := by
  unfold cutoffAt timedeltaDays
  rw [h, Option.getD_some]
  omega

theorem purged_runCommands (hlatest : ∀ c ∈ cmds, c.now ≤ latest) :
    Purged latest (cutoffAt config latest) s.db (runCommands config cmds s).db := by
  induction cmds generalizing s with
  | nil => exact .refl s.db
  | cons c cmds ih =>
      have hone : Purged latest (cutoffAt config latest) s.db (runCommand config c s).db := by
        cases runCommand_outcome config c s with
        | unchanged hdb hreports h =>
            rw [hdb]
            exact .refl s.db
        | cleaned report h hreports hdays =>
            have hnow := hlatest c (.head _)
            exact h.purged hnow (cutoffAt_mono hnow)
      exact hone.trans (ih fun c' hc' => hlatest c' (.tail _ hc'))

/-- What the events of a run report of a category. -/
def reported (k : Category) (reports : List RetentionReport) : ℕ :=
  (reports.map fun report => (report.categoryCounts.lookup k).getD 0).sum

theorem reported_cons {k : Category} {report : RetentionReport} {reports : List RetentionReport} :
    reported k (report :: reports) = (report.categoryCounts.lookup k).getD 0 + reported k reports :=
  List.sum_cons

/-- The reports account for each row and each session that has ended. -/
structure Accounted (reports : List RetentionReport) (db db' : Database) : Prop where
  rows : ∀ m, (db.rows m).length = (db'.rows m).length + reported (.deleted m) reports
  sessions : db.sessions.countP (·.endedAt.isNone) =
    db'.sessions.countP (·.endedAt.isNone) + reported .marked reports

theorem accounted_runCommands : ∃ reports, completedReports (runCommands config cmds s).events =
    completedReports s.events ++ reports ∧
      Accounted reports s.db (runCommands config cmds s).db := by
  induction cmds generalizing s with
  | nil => exact ⟨[], (List.append_nil _).symm, fun _ => rfl, rfl⟩
  | cons c cmds ih =>
      obtain ⟨reports, hevents, hrest⟩ := ih (s := runCommand config c s)
      cases runCommand_outcome config c s with
      | unchanged hdb hreports h =>
          rw [hreports] at hevents
          rw [hdb] at hrest
          exact ⟨reports, hevents, hrest⟩
      | cleaned report h hreports hdays =>
          rw [hreports, List.append_assoc] at hevents
          refine ⟨report :: reports, hevents, fun m => ?_, ?_⟩
          · rw [reported_cons, h.length_rows m, hrest.rows m, runCommands]
            omega
          · rw [reported_cons, h.count_open, hrest.sessions, runCommands]
            omega

/-- A clean-up in a run that began with the database `db₀`. -/
def CleanStep (config : RetentionConfig) (first latest : ℤ) (db₀ : Database) (limit : ℕ)
    (db db' : Database) : Prop :=
  (∀ tx ∈ db.resetTransactions, tx ∈ db₀.resetTransactions) ∧
    cutoffAt config first ≤ first ∧ ∃ now counts, first ≤ now ∧ now ≤ latest ∧
      Cleaned now (cutoffAt config now) limit db db' counts

theorem steps_runCommands {db₀ : Database} (h₀ : Purged latest (cutoffAt config latest) db₀ s.db)
    (hrange : ∀ c ∈ cmds, first ≤ c.now ∧ c.now ≤ latest)
    (hrun : ∀ c ∈ cmds, Undisturbed config c) :
    Steps (CleanStep config first latest db₀) (cmds.map (·.batch config)) s.db
      (runCommands config cmds s).db := by
  induction cmds generalizing s with
  | nil => exact .nil s.db
  | cons c cmds ih =>
      obtain ⟨hfirst, hlatest⟩ := hrange c (.head _)
      cases runCommand_outcome config c s with
      | unchanged hdb hreports h => exact absurd (hrun c (.head _)) h
      | cleaned report h hreports hdays =>
          obtain ⟨days, hconfig, hday, -⟩ := hdays
          have htxs : ∀ tx ∈ s.db.resetTransactions, tx ∈ db₀.resetTransactions :=
            h₀.rows .passwordResetTransaction (StateModel.noConfusion ·)
          refine .cons ⟨htxs, cutoffAt_le hconfig hday, c.now, _, hfirst, hlatest, h⟩ ?_
          exact ih (h₀.trans (h.purged hlatest (cutoffAt_mono hlatest)))
            (fun c' hc' => hrange c' (.tail _ hc')) fun c' hc' => hrun c' (.tail _ hc')

theorem drained_due (config : RetentionConfig) (first latest : ℤ) (db₀ : Database)
    (m : StateModel) (horder : first ≤ latest) : Drained (CleanStep config first latest db₀)
      (fun db => room latest (cutoffAt config latest) db m)
      (fun db => ∀ row ∈ db.rows m, ¬Due first (cutoffAt config first) db₀ m row) where
  full_or_done := by
    rintro limit db db' ⟨h₀, -, now, counts, hfirst, hlatest, h⟩
    exact h.room hfirst (cutoffAt_mono hfirst) hlatest (cutoffAt_mono hlatest) h₀ m
  stays := by
    rintro limit db db' ⟨-, hcutoff, now, counts, hfirst, -, h⟩ hdone
    exact h.stays (hcutoff.trans hfirst) hdone
  empty := by
    intro db hempty row hrow hdue
    have hnone : (db.rows m).countP (wanted latest (cutoffAt config latest) m) = 0 :=
      Nat.eq_zero_of_le_zero (hempty ▸ Nat.le_add_right _ _)
    exact List.countP_eq_zero.mp hnone row hrow
      (wanted_of_criteria horder (cutoffAt_mono horder) hdue)

theorem drained_expired (config : RetentionConfig) (first latest : ℤ) (db₀ : Database)
    (horder : first ≤ latest) : Drained (CleanStep config first latest db₀)
      (fun db => db.sessions.countP (SessionRow.expired latest))
      (fun db => ∀ row ∈ db.sessions, row.expired first = false) where
  full_or_done := by
    rintro limit db db' ⟨-, -, now, counts, hfirst, hlatest, h⟩
    exact h.expired hfirst hlatest
  stays := by
    rintro limit db db' ⟨-, -, now, counts, hfirst, hlatest, h⟩ hdone row' hrow'
    obtain ⟨row, hrow, hfate⟩ := (h.purged hlatest (Int.le_refl _)).sessions row' hrow'
    rcases hfate with rfl | ⟨t, -, -, rfl⟩
    · exact hdone row' hrow
    · rfl
  empty := by
    intro db hempty row hrow
    refine Bool.eq_false_iff.mpr fun hexpired => ?_
    exact List.countP_eq_zero.mp hempty row hrow (expired_mono horder hexpired)

end Runs

/-- In every run of retention commands between two times, with any failures, what is gone was
due, the events of the clean-ups account for each row, and undisturbed commands with enough room
leave nothing that was due at the first time. -/
theorem retention_runs (config : RetentionConfig) (cmds : List Command) (s : Stored)
    (first latest : ℤ) (horder : first ≤ latest)
    (hrange : ∀ c ∈ cmds, first ≤ c.now ∧ c.now ≤ latest) :
    Purged latest (cutoffAt config latest) s.db (runCommands config cmds s).db ∧
    (∃ reports, completedReports (runCommands config cmds s).events =
        completedReports s.events ++ reports ∧
      Accounted reports s.db (runCommands config cmds s).db) ∧
    ((∀ c ∈ cmds, Undisturbed config c) →
      (∀ m, room latest (cutoffAt config latest) s.db m ≤ (cmds.map (·.batch config)).sum →
        ∀ row ∈ (runCommands config cmds s).db.rows m,
          ¬Due first (cutoffAt config first) s.db m row) ∧
      (s.db.sessions.countP (SessionRow.expired latest) ≤ (cmds.map (·.batch config)).sum →
        ∀ row ∈ (runCommands config cmds s).db.sessions, row.expired first = false)) := by
  refine ⟨purged_runCommands fun c hc => (hrange c hc).2, accounted_runCommands, fun hrun => ?_⟩
  have hsteps := steps_runCommands (.refl s.db) hrange hrun
  exact ⟨fun m hroom => (drained_due config first latest s.db m horder).done_of_steps hsteps
      (.inl hroom),
    fun hroom => (drained_expired config first latest s.db horder).done_of_steps hsteps
      (.inl hroom)⟩

/-- A reset transaction with its token, and nothing else. -/
def sampleRows : (m : StateModel) → List m.Row
  | .passwordResetTransaction => ([⟨⟨1, 5⟩, 1⟩] : List ResetTransactionRow)
  | .passwordResetToken => ([⟨1, 5⟩] : List ExpiringRow)
  | _ => []

theorem sampleRows_unique (m : StateModel) : ((sampleRows m).map m.key).Nodup := by
  cases m <;> decide

theorem sampleRows_references : References sampleRows := by decide

def sampleStored : Stored := ⟨⟨sampleRows, sampleRows_unique, sampleRows_references⟩, []⟩

def sampleConfig : RetentionConfig := ⟨some 30, some 500⟩

/-- Nothing fails. -/
def sampleFaults : RetentionFaults :=
  ⟨⟨true, true⟩, fun _ => true, fun _ => true, true, ⟨true, true⟩, true, ⟨true, true⟩, ⟨true, true⟩⟩

theorem sample_undisturbed :
    Undisturbed sampleConfig ⟨10, none, true, sampleFaults⟩ where
  confirm := rfl
  days := ⟨30, rfl, by decide, by decide⟩
  size := ⟨500, rfl, by decide, by decide⟩
  limit _ h := by cases h
  started := ⟨rfl, rfl⟩
  statements _ := ⟨rfl, rfl⟩
  flushed := rfl
  completed := rfl
  committed := rfl

/-- One command is enough for the sample. -/
theorem retention_runs_sample : sampleStored.db.rows .passwordResetToken ≠ [] ∧
    ∀ token ∈ (runCommands sampleConfig
      [⟨10, none, true, sampleFaults⟩] sampleStored).db.rows .passwordResetToken,
    ¬Due 10 (cutoffAt sampleConfig 10) sampleStored.db .passwordResetToken token :=
  ⟨List.cons_ne_nil _ _,
    ((retention_runs sampleConfig [⟨10, none, true, sampleFaults⟩] sampleStored 10 10 (by decide)
      (by decide)).2.2 (List.forall_mem_singleton.mpr sample_undisturbed)).1
        .passwordResetToken (by decide)⟩

/-! ### Dry runs -/

section Preview

variable {now cutoff : ℤ} {limit : ℕ} {db db' : Database} {counts : List (Category × ℕ)}

theorem lookup_preview (f : Category → ℕ) {ks : List Category} {k : Category} (h : k ∈ ks) :
    (ks.map fun k => (k, f k)).lookup k = some (f k) := by
  induction ks with
  | nil => cases h
  | cons k' ks ih =>
      rw [List.map_cons, List.lookup_cons]
      by_cases hk : k = k'
      · subst hk
        rw [beq_self_eq_true]
      · rw [beq_false_of_ne hk]
        exact ih ((List.mem_cons.mp h).resolve_left hk)

theorem mem_categories (k : Category) : k ∈ categories := by
  cases k with
  | marked => decide
  | deleted m => cases m <;> decide

/-- Sessions that were just marked are not deleted. -/
theorem countP_sessions_marked (hcutoff : cutoff ≤ now) :
    (marked now limit db).sessions.countP (criteria [] now cutoff .serverSideSession) =
      db.sessions.countP (criteria [] now cutoff .serverSideSession) := by
  have hnew (row : SessionRow) :
      criteria [] now cutoff .serverSideSession (row.expire now) = false :=
    decide_eq_false (not_lt.mpr hcutoff)
  have hold : (expiring now limit db).countP (criteria [] now cutoff .serverSideSession) = 0 := by
    refine List.countP_eq_zero.mpr fun row hrow hdue => ?_
    obtain ⟨e, he, -⟩ := (Option.any_eq_true _ _).mp hdue
    have hopen : row.endedAt.isNone = true :=
      (Bool.and_eq_true_iff.mp (Bool.and_eq_true_iff.mp (mem_batch hrow).2).1).2
    rw [he] at hopen
    cases hopen
  have hsum : (expiring now limit db).countP (criteria [] now cutoff .serverSideSession) +
      (without SessionRow.id db.sessions ((expiring now limit db).map SessionRow.id)).countP
        (criteria [] now cutoff .serverSideSession) =
      db.sessions.countP (criteria [] now cutoff .serverSideSession) := by
    rw [← List.countP_append]
    exact (dropBatch_perm (db.unique .serverSideSession)).countP_eq _
  rw [marked_sessions, countP_updateRows hnew, ← hsum, hold, Nat.zero_add]

/-- A dry run counts what a clean-up does, but tokens that only its own deletions set free. -/
theorem Cleaned.preview (h : Cleaned now cutoff limit db db' counts) (hcutoff : cutoff ≤ now) :
    (∀ k ≠ .deleted .passwordResetToken,
      counts.lookup k = some (preview now cutoff limit db k)) ∧
    ∃ n, counts.lookup (.deleted .passwordResetToken) = some n ∧
      preview now cutoff limit db (.deleted .passwordResetToken) ≤ n ∧
      ((∀ tx ∈ db.resetTransactions, now < tx.expiresAt) →
        preview now cutoff limit db (.deleted .passwordResetToken) = n) := by
  constructor
  · intro k hk
    cases k with
    | marked => exact h.countedMarked
    | deleted m =>
        have hm : m ≠ .passwordResetToken := fun hm => hk (congrArg _ hm)
        rw [h.counted m, Retention.preview, expendable, expendable, length_batch, length_batch,
          criteria_eq db.resetTransactions [] hm, criteria_eq db'.resetTransactions [] hm]
        by_cases hsession : m = .serverSideSession
        · subst hsession
          exact congrArg (fun n => some (min limit n)) (countP_sessions_marked hcutoff)
        · rw [marked_rows hsession]
  · refine ⟨_, h.counted .passwordResetToken, ?_⟩
    rw [Retention.preview, expendable, expendable, length_batch, length_batch,
      marked_rows (StateModel.noConfusion ·)]
    have hsub : db'.resetTransactions ⊆ db.resetTransactions :=
      fun tx htx => h.rows_subset (StateModel.noConfusion ·) htx
    have hle : (db.rows .passwordResetToken).countP
          (criteria db.resetTransactions now cutoff .passwordResetToken) ≤
        (db.rows .passwordResetToken).countP
          (criteria db'.resetTransactions now cutoff .passwordResetToken) :=
      List.countP_mono_left fun row _ hp =>
        criteria_mono hsub (Int.le_refl _) (Int.le_refl _) hp
    refine ⟨by omega, fun hlive => ?_⟩
    have hsub' : db.resetTransactions ⊆ db'.resetTransactions := fun tx htx =>
      h.live_subset (List.mem_filter.mpr ⟨htx, decide_eq_true (hlive tx htx)⟩)
    refine congrArg (min limit) (Nat.le_antisymm hle (List.countP_mono_left fun row _ hp => ?_))
    exact criteria_mono hsub' (Int.le_refl _) (Int.le_refl _) hp

end Preview

/-- A dry run changes no table, and what it reports is what the same command deletes when it is
confirmed, but for reset tokens, of which it reports at most as many; it reports all of them if
no reset transaction has expired. -/
theorem dry_run_counts (config : RetentionConfig) (c : Command) (s : Stored) :
    (runCommand config { c with confirm := false } s).db = s.db ∧
    ∀ report st, runAuditedRetentionCleanup c.faults config c.now c.limit false
        (.fresh s.db s.events) = .ok report st →
      ∀ faults, Undisturbed config { c with confirm := true, faults := faults } →
        ∃ report', completedReports
            (runCommand config { c with confirm := true, faults := faults } s).events =
              completedReports s.events ++ [report'] ∧
          (∀ k ≠ .deleted .passwordResetToken,
            report'.categoryCounts.lookup k = report.categoryCounts.lookup k) ∧
          ∃ n n', report.categoryCounts.lookup (.deleted .passwordResetToken) = some n ∧
            report'.categoryCounts.lookup (.deleted .passwordResetToken) = some n' ∧ n ≤ n' ∧
            ((∀ tx ∈ s.db.resetTransactions, c.now < tx.expiresAt) → n = n') := by
  have hrested : Rested s.db (completedReports s.events) (.fresh s.db s.events) :=
    ⟨⟨rfl, rfl⟩, rfl, rfl⟩
  constructor
  · exact (Ends.after ((ends_dryRun config { c with confirm := false } hrested).mono
      fun _ _ h => h.1)).db
  · intro report st hreport faults hrun
    have hpreview : Previewed config c s.db report :=
      ((ends_dryRun config c hrested).of_ok hreport).2 _ rfl
    cases runCommand_outcome config { c with confirm := true, faults := faults } s with
    | unchanged hdb hreports h => exact absurd hrun h
    | cleaned report' h hreports hdays =>
        obtain ⟨days, hconfig, hday, -⟩ := hdays
        obtain ⟨hsame, n', hn', hle, heq⟩ := h.preview (cutoffAt_le hconfig hday)
        refine ⟨report', hreports, fun k hk => ?_, _, n', ?_, hn', hle, heq⟩
        · rw [hsame k hk, hpreview, lookup_preview _ (mem_categories k)]
          rfl
        · rw [hpreview, lookup_preview _ (mem_categories _)]
          rfl

/-- The token of the sample is set free by the command itself, so the dry run does not
count it. -/
theorem dry_run_counts_sample :
    (runCommand sampleConfig ⟨10, none, false, sampleFaults⟩ sampleStored).db = sampleStored.db ∧
    ∃ report st report', runAuditedRetentionCleanup sampleFaults sampleConfig 10 none false
        (.fresh sampleStored.db []) = .ok report st ∧
      completedReports (runCommand sampleConfig ⟨10, none, true, sampleFaults⟩
        sampleStored).events = [report'] ∧
      (∀ k ≠ .deleted .passwordResetToken,
        report'.categoryCounts.lookup k = report.categoryCounts.lookup k) ∧
      report.categoryCounts.lookup (.deleted .passwordResetTransaction) = some 1 ∧
      report.categoryCounts.lookup (.deleted .passwordResetToken) = some 0 ∧
      report'.categoryCounts.lookup (.deleted .passwordResetToken) = some 1 := by
  obtain ⟨hdb, hpreview⟩ := dry_run_counts sampleConfig ⟨10, none, false, sampleFaults⟩ sampleStored
  refine ⟨hdb, ?_⟩
  have hcounts : (match runAuditedRetentionCleanup sampleFaults sampleConfig 10 none false
      (.fresh sampleStored.db []) with
    | .ok report _ =>
        report.categoryCounts.lookup (.deleted .passwordResetTransaction) = some 1 &&
          report.categoryCounts.lookup (.deleted .passwordResetToken) = some 0
    | .error _ _ => false) = true := by decide +kernel
  have hdeleted : (completedReports (runCommand sampleConfig ⟨10, none, true, sampleFaults⟩
      sampleStored).events).map (·.categoryCounts.lookup (.deleted .passwordResetToken)) =
      [some 1] := by decide +kernel
  split at hcounts
  swap
  · cases hcounts
  next report st hreport =>
  rw [Bool.and_eq_true, decide_eq_true_eq, decide_eq_true_eq] at hcounts
  obtain ⟨report', hreports, hsame, -⟩ :=
    hpreview report st hreport sampleFaults sample_undisturbed
  have hreports' : completedReports (runCommand sampleConfig ⟨10, none, true, sampleFaults⟩
      sampleStored).events = [report'] := hreports
  rw [hreports'] at hdeleted
  exact ⟨report, st, report', hreport, hreports', hsame, hcounts.1, hcounts.2,
    List.singleton_injective hdeleted⟩

end SitBank.Security.Retention
