import Mathlib.Data.List.Lex
import Mathlib.Data.Prod.Lex
import SitBank.Admin.AuditSearch
import SitBank.Admin.RequestIntegrity
import SitBank.Sql.Pages

/-!
Reading the audit log (`query_audit_events_for_admin` in `app/admin/services.py`).

A reader goes from page to page by the links on them. Each page is a query of its own, and the log
grows between two of them, by the event that says that it was read if by nothing else. New rows
come in at any place of the order, so a row may be shown twice. No row is missed.
-/

namespace SitBank.Admin

open SitBank.Python SitBank.Audit SitBank.Sql

structure AuditWorld where
  log : AuditLog
  users : List AuditUser

/-! ### The order -/

/-- `AUDIT_SORT_OPTIONS`. -/
inductive AuditSort
  | timestamp
  | severity
  | eventType
  | actor
  | requestId
  | source
  deriving DecidableEq

def auditSorts : List (String × AuditSort) :=
  [("timestamp", .timestamp), ("severity", .severity), ("event_type", .eventType),
    ("actor", .actor), ("request_id", .requestId), ("source", .source)]

/-- A value of the column and the id; `NULL` comes last. -/
abbrev SortKey := Bool ×ₗ ℤ ×ₗ List ℕ ×ₗ ℤ

section Sorting

variable (ops : AuditSearchOps)

def textKey (text : PyStr) (id : ℤ) : SortKey :=
  toLex (false, toLex (0, toLex (ops.collationKey text, id)))

def numberKey (number : Option ℤ) (id : ℤ) : SortKey :=
  toLex (number.isNone, toLex (number.getD 0, toLex ([], id)))

def sortKey (sort : AuditSort) (e : SecurityAuditEvent) : SortKey :=
  match sort with
  | .timestamp => numberKey (some e.createdAt) e.id
  | .severity => textKey ops (ops.castString e.eventMetadata) e.id
  | .eventType => textKey ops (.ofString e.eventType) e.id
  | .actor => numberKey e.userId e.id
  | .requestId => textKey ops (.ofString e.correlationId) e.id
  | .source => textKey ops (.ofString e.ipAddress) e.id

/-- `ORDER BY column, id`, upwards or downwards. -/
def RowBefore (sort : AuditSort) (ascending : Bool) (e e' : SecurityAuditEvent) : Prop :=
  if ascending then sortKey ops sort e ≤ sortKey ops sort e'
  else sortKey ops sort e' ≤ sortKey ops sort e

instance (sort : AuditSort) (ascending : Bool) : DecidableRel (RowBefore ops sort ascending) :=
  fun e e' => inferInstanceAs (Decidable (if ascending then sortKey ops sort e ≤ sortKey ops sort e'
    else sortKey ops sort e' ≤ sortKey ops sort e))

/-! ### One page -/

structure AuditPage where
  events : List SecurityAuditEvent
  page : ℕ
  perPage : ℕ
  totalPages : ℕ
  total : ℕ
  hasPrevious : Bool
  hasNext : Bool

/-- How a request for a page ends without one. -/
inductive ViewError
  | forbidden
  | serverError
  deriving DecidableEq

/-- What `_audit_event` makes of a call, and whether the event is written. -/
structure ViewContext where
  draft : String → String → Json → AuditDraft
  written : Bool

def roleHierarchy : List (String × ℤ) :=
  [("customer", 0), ("staff", 10), ("admin", 20), ("root_admin", 30)]

/-- `role_rank`. -/
def roleRank (role : String) : ℤ :=
  let text := ops.casefold (PyStr.ofString (if role = "" then "customer" else role)).strip
  ((roleHierarchy.find? fun entry => PyStr.ofString entry.1 = text).map Prod.snd).getD (-1)

/-- `audit_event`. -/
def recordView (cfg : AuditConfig) (ctx : ViewContext) (outcome : String) (metadata : Json)
    (w : AuditWorld) : AuditWorld :=
  if ctx.written then
    { w with log := w.log.write cfg (ctx.draft "audit_log_view" outcome metadata) }
  else w

/-- The names of the filters with a value, sorted. -/
def filtersUsed (filters : AuditFilters) : List String :=
  ([("actor", filters.actor), ("event_type", filters.eventType), ("from", filters.fromQuery),
    ("ip_address", filters.ipAddress), ("outcome", .ofString filters.outcome), ("q", filters.q),
    ("request_id", filters.requestId), ("role", .ofString filters.role),
    ("severity", .ofString filters.severity), ("target", filters.target),
    ("to", filters.toQuery)].filter fun entry => !entry.2.isEmpty).map Prod.fst

def viewMetadata (filters : AuditFilters) (sort direction : String) (page perPage : ℕ) : Json :=
  .obj [(.ofString "filters_used", .arr ((filtersUsed filters).map textField)),
    (.ofString "sort", textField sort), (.ofString "direction", textField direction),
    (.ofString "page", .int page), (.ofString "per_page", .int perPage)]

/-- The rows that the filters keep; `none` is an error of the database. -/
def filteredRows (filters : AuditFilters) (dates : DateFilters) (w : AuditWorld) :
    Option (List SecurityAuditEvent) :=
  (w.log.rows.mapM fun e => (auditFiltersApply ops filters dates w.users e).map fun kept =>
    if kept then [e] else []).map List.flatten

def requestedPage (args : RequestArgs) : ℕ := (boundedInt ops (args "page") 1 1 10000).toNat

def requestedSize (args : RequestArgs) : ℕ := (boundedInt ops (args "per_page") 25 1 100).toNat

def requestedSort (args : RequestArgs) : String :=
  validatedChoice ops (args "sort") (auditSorts.map Prod.fst) "timestamp"

def requestedDirection (args : RequestArgs) : String :=
  validatedChoice ops (args "direction") ["asc", "desc"] "desc"

abbrev requestedOrder (args : RequestArgs) : SecurityAuditEvent → SecurityAuditEvent → Prop :=
  RowBefore ops ((auditSorts.lookup (requestedSort ops args)).getD .timestamp)
    (requestedDirection ops args = "asc")

/-- The page of some rows, when as many were counted. -/
def pageShown (args : RequestArgs) (total : ℕ) (rows : List SecurityAuditEvent) : AuditPage :=
  let size := requestedSize ops args
  let pages := totalPages size total
  let shown := min (requestedPage ops args) pages
  { events := page size shown (rows.insertionSort (requestedOrder ops args))
    page := shown
    perPage := size
    totalPages := pages
    total := total
    hasPrevious := 1 < shown
    hasNext := shown < pages }

/-- `query_audit_events_for_admin`; how rows are shown is left out. The rows are counted in `w`,
and those of the page are read in `w'`. -/
def queryAuditEventsForAdmin (cfg : AuditConfig) (ctx : ViewContext) (actor : AuditUser)
    (args : RequestArgs) (w w' : AuditWorld) : Except ViewError AuditPage × AuditWorld :=
  if roleRank ops actor.accountType < roleRank ops "admin" then
    (.error .forbidden, recordView cfg ctx "blocked"
      (.obj [(.ofString "reason", textField "admin_role_required")]) w')
  else
    match auditDateFilters ops args with
    | none => (.error .serverError, w')
    | some dates =>
        let filters := auditFilters ops args dates
        match filteredRows ops filters dates w, filteredRows ops filters dates w' with
        | some counted, some rows =>
            let shown := pageShown ops args counted.length rows
            (.ok shown, recordView cfg ctx "success" (viewMetadata filters (requestedSort ops args)
              (requestedDirection ops args) shown.page shown.perPage) w')
        | _, _ => (.error .serverError, w')

end Sorting

/-! ### From page to page -/

/-- The log and the users were only added to. -/
structure AuditWorld.Grown (w w' : AuditWorld) : Prop where
  rows : w.log.rows <+: w'.log.rows
  users : w.users <+: w'.users

/-- `_audit_log_page_url`: the arguments of the request with another page. -/
def RequestArgs.withPage (args : RequestArgs) (page : ℕ) : RequestArgs :=
  Function.update args "page" (some (numeral page))

/-- A reader who asks for a page and follows the links to the next ones. The pages come with the
world in which their rows are read. While the last page is made, the log does not grow. -/
inductive Reading (ops : AuditSearchOps) (cfg : AuditConfig) (actor : AuditUser) :
    RequestArgs → AuditWorld → List (AuditWorld × AuditPage) → Prop
  | last {args : RequestArgs} {ctx : ViewContext} {w w' : AuditWorld} {p : AuditPage}
      (hview : queryAuditEventsForAdmin ops cfg ctx actor args w w = (.ok p, w'))
      (hnext : p.hasNext = false) : Reading ops cfg actor args w [(w, p)]
  | next {args : RequestArgs} {ctx : ViewContext} {w shown w' w'' : AuditWorld} {p : AuditPage}
      {ps : List (AuditWorld × AuditPage)} (hshown : w.Grown shown)
      (hview : queryAuditEventsForAdmin ops cfg ctx actor args w shown = (.ok p, w'))
      (hnext : p.hasNext = true) (hgrown : w'.Grown w'')
      (hrest : Reading ops cfg actor (args.withPage (p.page + 1)) w'' ps) :
      Reading ops cfg actor args w ((shown, p) :: ps)

/-- The row is one that the request asks for. -/
def Asked (ops : AuditSearchOps) (args : RequestArgs) (users : List AuditUser)
    (e : SecurityAuditEvent) : Prop :=
  ∃ dates, auditDateFilters ops args = some dates ∧
    Selected ops (auditFilters ops args dates) dates users e

section Rows

variable {ops : AuditSearchOps}

theorem AuditWorld.Grown.refl (w : AuditWorld) : w.Grown w :=
  ⟨List.prefix_refl _, List.prefix_refl _⟩

theorem AuditWorld.Grown.trans {w₁ w₂ w₃ : AuditWorld} (h : w₁.Grown w₂) (h' : w₂.Grown w₃) :
    w₁.Grown w₃ :=
  ⟨h.rows.trans h'.rows, h.users.trans h'.users⟩

theorem grown_recordView (cfg : AuditConfig) (ctx : ViewContext) (outcome : String)
    (metadata : Json) (w : AuditWorld) : w.Grown (recordView cfg ctx outcome metadata w) := by
  unfold recordView
  split
  · exact ⟨w.log.prefix_write cfg _, List.prefix_refl _⟩
  · exact .refl w

/-- More users make no row unasked for. -/
theorem Selected.mono {filters : AuditFilters} {dates : DateFilters} {users users' : List AuditUser}
    {e : SecurityAuditEvent} (h : Selected ops filters dates users e) (hsub : users ⊆ users') :
    Selected ops filters dates users' e where
  errors := h.errors
  columns c hc := by
    have hcolumns := h.columns
    simp only [columnConditions, List.forall_mem_cons] at hcolumns
    obtain ⟨h₁, h₂, h₃, hrole, h₅, h₆, h₇, h₈, h₉, -⟩ := hcolumns
    have hrole' : whenGiven filters.role "" (some (users'.any fun user =>
        some user.id = e.userId && user.accountType = filters.role)) = some true := by
      unfold whenGiven at hrole ⊢
      split
      · rfl
      · next hgiven =>
          rw [if_neg hgiven, Option.some.injEq, List.any_eq_true] at hrole
          obtain ⟨user, hu, hmatch⟩ := hrole
          rw [Option.some.injEq, List.any_eq_true]
          exact ⟨user, hsub hu, hmatch⟩
    simp only [columnConditions, List.mem_cons, List.not_mem_nil, or_false] at hc
    rcases hc with rfl | rfl | rfl | rfl | rfl | rfl | rfl | rfl | rfl
    all_goals assumption
  target := h.target
  search := h.search.imp_right fun hfound => by
    cases hfound with
    | text h hc => exact .text h hc
    | username h hid hc => exact .username (hsub h) hid hc
    | workplaceEmail h hid hw hc => exact .workplaceEmail (hsub h) hid hw hc
    | description h => exact .description h
    | userId hdigits h => exact .userId hdigits h

variable (ops) in
/-- The filters of a request keep the rows that it asks for. -/
theorem filteredRows_spec (args : RequestArgs) (dates : DateFilters) (w : AuditWorld) :
    ∃ keep : SecurityAuditEvent → Bool,
      (∀ e, keep e = true ↔ Selected ops (auditFilters ops args dates) dates w.users e) ∧
      filteredRows ops (auditFilters ops args dates) dates w = some (w.log.rows.filter keep) := by
  have hspec := auditFiltersApply_spec ops args dates w.users
  choose keep hkeep hselected using hspec
  refine ⟨keep, hselected, ?_⟩
  have hrows : (fun e => (auditFiltersApply ops (auditFilters ops args dates) dates w.users e).map
      fun kept => if kept then [e] else []) =
      fun e => (pure (if keep e then [e] else []) : Option (List SecurityAuditEvent)) :=
    funext fun e => by
      rw [hkeep e]
      rfl
  have hfilter : w.log.rows.filter keep =
      w.log.rows.flatMap fun e => if keep e then [e] else [] := by
    conv_lhs => rw [← List.flatMap_singleton' w.log.rows, List.filter_flatMap]
    exact congrArg (fun f => List.flatMap f w.log.rows) (funext fun e => by
      rw [List.filter_singleton, Bool.cond_eq_ite])
  rw [filteredRows, hrows, List.mapM_pure, hfilter]
  rfl

end Rows

section Order

variable (ops : AuditSearchOps) (sort : AuditSort) (ascending : Bool)

instance : Std.Total (RowBefore ops sort ascending) where
  total e e' := by
    unfold RowBefore
    split
    · exact le_total _ _
    · exact le_total _ _

instance : IsTrans SecurityAuditEvent (RowBefore ops sort ascending) where
  trans e₁ e₂ e₃ h h' := by
    unfold RowBefore at h h' ⊢
    split at h
    · next hasc =>
        rw [if_pos hasc] at h' ⊢
        exact h.trans h'
    · next hdesc =>
        rw [if_neg hdesc] at h' ⊢
        exact h'.trans h

/-- The key of a row contains its id. -/
theorem id_of_sortKey {e e' : SecurityAuditEvent} (h : sortKey ops sort e = sortKey ops sort e') :
    e.id = e'.id :=
  have hid (f : SecurityAuditEvent → SortKey)
      (hf : ∀ e, (ofLex (ofLex (ofLex (f e)).2).2).2 = e.id) (heq : f e = f e') : e.id = e'.id :=
    (hf e).symm.trans ((congrArg (fun k : SortKey => (ofLex (ofLex (ofLex k).2).2).2) heq).trans
      (hf e'))
  hid (sortKey ops sort) (fun e => by cases sort <;> rfl) h

theorem distinct_rows {rows : List SecurityAuditEvent}
    (h : rows.Pairwise fun e e' => e.id < e'.id) :
    Distinct (RowBefore ops sort ascending) rows := by
  refine h.imp ?_
  rintro e e' hlt ⟨hle, hge⟩
  unfold RowBefore at hle hge
  split at hle
  · next hasc =>
      rw [if_pos hasc] at hge
      exact hlt.ne (id_of_sortKey ops sort (le_antisymm hle hge))
  · next hdesc =>
      rw [if_neg hdesc] at hge
      exact hlt.ne (id_of_sortKey ops sort (le_antisymm hge hle))

end Order

/-! ### Readers -/

section Readers

variable {ops : AuditSearchOps} {cfg : AuditConfig} {ctx : ViewContext} {actor : AuditUser}
  {args : RequestArgs} {w s w' : AuditWorld} {p : AuditPage}

/-- What is shown, and what is recorded of it. -/
theorem view_ok (h : queryAuditEventsForAdmin ops cfg ctx actor args w s = (.ok p, w')) :
    ∃ dates counted rows, auditDateFilters ops args = some dates ∧
      filteredRows ops (auditFilters ops args dates) dates w = some counted ∧
      filteredRows ops (auditFilters ops args dates) dates s = some rows ∧
      p = pageShown ops args counted.length rows ∧ s.Grown w' := by
  unfold queryAuditEventsForAdmin at h
  split at h
  · cases h
  · split at h
    · cases h
    · next dates hdates =>
        dsimp only at h
        split at h
        · next counted rows hcounted hrows =>
            obtain ⟨hp, rfl⟩ := Prod.mk.inj h
            cases hp
            exact ⟨dates, counted, rows, hdates, hcounted, hrows, rfl,
              grown_recordView cfg ctx _ _ s⟩
        · cases h

theorem requestedPage_withPage (args : RequestArgs) {n : ℕ} (h : n < 2 ^ 63) (hpos : 1 ≤ n) :
    requestedPage ops (args.withPage n) = min n 10000 := by
  have hargs : args.withPage n "page" = some (numeral n) := Function.update_self ..
  rw [requestedPage, boundedInt, hargs, Option.bind_some, intOfText_numeral _ h, Option.getD_some]
  omega

theorem requestedSize_pos (args : RequestArgs) : 0 < requestedSize ops args := by
  unfold requestedSize boundedInt
  omega

theorem requestedPage_bounds (args : RequestArgs) :
    1 ≤ requestedPage ops args ∧ requestedPage ops args ≤ 10000 := by
  unfold requestedPage boundedInt
  omega

/-- The rank of a row among those that are asked for does not fall. -/
theorem filteredRows_sublist {dates : DateFilters} {rows rows' : List SecurityAuditEvent}
    (h : w.Grown s) (hrows : filteredRows ops (auditFilters ops args dates) dates w = some rows)
    (hrows' : filteredRows ops (auditFilters ops args dates) dates s = some rows') :
    List.Sublist rows rows' := by
  obtain ⟨keep, hkeep, hfiltered⟩ := filteredRows_spec ops args dates w
  obtain ⟨keep', hkeep', hfiltered'⟩ := filteredRows_spec ops args dates s
  rw [hfiltered, Option.some.injEq] at hrows
  rw [hfiltered', Option.some.injEq] at hrows'
  rw [← hrows, ← hrows']
  refine (List.monotone_filter_right _ fun e he => ?_).trans (h.rows.sublist.filter keep')
  exact (hkeep' e).mpr (((hkeep e).mp he).mono h.users.subset)

theorem mem_filteredRows {dates : DateFilters} {rows : List SecurityAuditEvent}
    (hrows : filteredRows ops (auditFilters ops args dates) dates w = some rows)
    {e : SecurityAuditEvent} : e ∈ rows ↔
      e ∈ w.log.rows ∧ Selected ops (auditFilters ops args dates) dates w.users e := by
  obtain ⟨keep, hkeep, hfiltered⟩ := filteredRows_spec ops args dates w
  rw [hfiltered, Option.some.injEq] at hrows
  rw [← hrows, List.mem_filter, hkeep e]

theorem distinct_filteredRows {dates : DateFilters} {rows : List SecurityAuditEvent}
    (hrows : filteredRows ops (auditFilters ops args dates) dates w = some rows) :
    Distinct (requestedOrder ops args) rows := by
  obtain ⟨keep, -, hfiltered⟩ := filteredRows_spec ops args dates w
  rw [hfiltered, Option.some.injEq] at hrows
  rw [← hrows]
  exact distinct_rows ops _ _ (w.log.sorted.filter keep)

/-- What is shown is asked for. -/
theorem asked_of_shown (h : queryAuditEventsForAdmin ops cfg ctx actor args w s = (.ok p, w'))
    {e : SecurityAuditEvent} (he : e ∈ p.events) :
    e ∈ s.log.rows ∧ Asked ops args s.users e := by
  obtain ⟨dates, counted, rows, hdates, -, hrows, rfl, -⟩ := view_ok h
  have hmem := (List.mem_insertionSort _).mp (mem_of_mem_page he)
  obtain ⟨hlog, hselected⟩ := (mem_filteredRows hrows).mp hmem
  exact ⟨hlog, dates, hdates, hselected⟩

/-- How many of the rows that are asked for come before a row. -/
def AheadOf (ops : AuditSearchOps) (args : RequestArgs) (dates : DateFilters) (w : AuditWorld)
    (e : SecurityAuditEvent) (n : ℕ) : Prop :=
  ∃ rows, filteredRows ops (auditFilters ops args dates) dates w = some rows ∧ e ∈ rows ∧
    n ≤ rank (requestedOrder ops args) rows e

theorem AheadOf.grown {dates : DateFilters} {e : SecurityAuditEvent} {n : ℕ}
    (h : AheadOf ops args dates w e n) (hgrown : w.Grown s) : AheadOf ops args dates s e n := by
  obtain ⟨rows, hrows, he, hrank⟩ := h
  obtain ⟨keep, -, hrows'⟩ := filteredRows_spec ops args dates s
  have hsub := filteredRows_sublist hgrown hrows hrows'
  exact ⟨_, hrows', hsub.subset he, hrank.trans (rank_mono hsub e)⟩

/-- A row that the pages so far have not reached is on this page, or this page does not reach it
either, and is not the last one. -/
theorem shown_or_ahead (hview : queryAuditEventsForAdmin ops cfg ctx actor args w s = (.ok p, w'))
    (hgrown : w.Grown s) {dates : DateFilters} (hdates : auditDateFilters ops args = some dates)
    {e : SecurityAuditEvent}
    (h : AheadOf ops args dates w e ((requestedPage ops args - 1) * requestedSize ops args)) :
    p.page = requestedPage ops args ∧
      (e ∈ p.events ∨ AheadOf ops args dates s e (requestedPage ops args * requestedSize ops args) ∧
        (w = s → p.hasNext = true)) := by
  obtain ⟨dates', counted, rows, hdates', hcounted, hrows, rfl, -⟩ := view_ok hview
  obtain rfl : dates' = dates := Option.some.inj (hdates'.symm.trans hdates)
  have hsize : 0 < requestedSize ops args := requestedSize_pos args
  have hbounds : 1 ≤ requestedPage ops args ∧ requestedPage ops args ≤ 10000 :=
    requestedPage_bounds args
  obtain ⟨counted', hcounted', he, hrank⟩ := h
  obtain rfl : counted' = counted := Option.some.inj (hcounted'.symm.trans hcounted)
  have hlt := rank_lt (distinct_filteredRows hcounted) he
  have hpages : requestedPage ops args - 1 < totalPages (requestedSize ops args) counted'.length :=
    lt_totalPages hsize (hrank.trans_lt hlt)
  have hpage : (pageShown ops args counted'.length rows).page = requestedPage ops args :=
    Nat.min_eq_left (by omega)
  refine ⟨hpage, ?_⟩
  obtain ⟨rows', hrows', he', hrank'⟩ := AheadOf.grown ⟨_, hcounted, he, hrank⟩ hgrown
  obtain rfl : rows' = rows := Option.some.inj (hrows'.symm.trans hrows)
  have hget := getElem?_rank (distinct_filteredRows hrows) he'
  by_cases hreach : rank (requestedOrder ops args) rows' e <
      requestedPage ops args * requestedSize ops args
  · left
    show e ∈ page _ (pageShown ops args counted'.length rows').page _
    rw [hpage]
    refine mem_page hget hrank' (hreach.trans_le ?_)
    rw [← Nat.succ_mul]
    exact Nat.mul_le_mul_right _ (by omega)
  · right
    refine ⟨⟨_, hrows, he', Nat.le_of_not_lt hreach⟩, fun hsame => ?_⟩
    subst hsame
    obtain rfl : counted' = rows' := Option.some.inj (hcounted.symm.trans hrows)
    have hnext := lt_totalPages hsize ((Nat.le_of_not_lt hreach).trans_lt hlt)
    show decide ((pageShown ops args counted'.length counted').page < _) = true
    rw [hpage]
    exact decide_eq_true hnext

/-- The induction follows the reader: a row stays ahead until it is shown. -/
theorem reading_shows {ps : List (AuditWorld × AuditPage)} (h : Reading ops cfg actor args w ps)
    {dates : DateFilters} (hdates : auditDateFilters ops args = some dates)
    {e : SecurityAuditEvent}
    (he : AheadOf ops args dates w e ((requestedPage ops args - 1) * requestedSize ops args)) :
    ∃ q ∈ ps, e ∈ q.2.events := by
  induction h with
  | last hview hnext =>
      rcases (shown_or_ahead hview (.refl _) hdates he).2 with hshown | ⟨-, hmore⟩
      · exact ⟨_, List.mem_singleton.mpr rfl, hshown⟩
      · rw [hmore rfl] at hnext
        cases hnext
  | @next args ctx w shown w' w'' p ps hgrown hview hnext hgrown' hrest ih =>
      obtain ⟨hpage, hshown | ⟨hahead, -⟩⟩ := shown_or_ahead hview hgrown hdates he
      · exact ⟨_, List.mem_cons_self .., hshown⟩
      · obtain ⟨-, -, -, -, -, -, -, hrecorded⟩ := view_ok hview
        have hbounds : 1 ≤ requestedPage ops args ∧ requestedPage ops args ≤ 10000 :=
          requestedPage_bounds args
        have hlater := hahead.grown (hrecorded.trans hgrown')
        obtain ⟨q, hq, hshown⟩ := ih hdates (by
          rw [requestedPage_withPage args (by omega) (by omega)]
          obtain ⟨rows, hrows, hmem, hrank⟩ := hlater
          refine ⟨rows, hrows, hmem, le_trans ?_ hrank⟩
          show (min (p.page + 1) 10000 - 1) * requestedSize ops args ≤ _
          exact Nat.mul_le_mul_right _ (by omega))
        exact ⟨q, List.mem_cons_of_mem _ hq, hshown⟩

/-- What a reader is shown is asked for when it is shown. -/
theorem reading_asked {ps : List (AuditWorld × AuditPage)} (h : Reading ops cfg actor args w ps) :
    ∀ q ∈ ps, ∀ e ∈ q.2.events, e ∈ q.1.log.rows ∧ Asked ops args q.1.users e := by
  induction h with
  | last hview hnext =>
      intro q hq e he
      rw [List.mem_singleton.mp hq] at he ⊢
      exact asked_of_shown hview he
  | next hgrown hview hnext hgrown' hrest ih =>
      intro q hq e he
      rcases List.mem_cons.mp hq with rfl | hq
      · exact asked_of_shown hview he
      · exact ih q hq e he

/-- A reader who starts at the first page and goes on to the last is shown every row that was asked
for when the reading began, and no other rows than those that are asked for, while the log and
the users are added to. -/
theorem audit_reading_complete {ps : List (AuditWorld × AuditPage)}
    (h : Reading ops cfg actor args w ps) (hfirst : args "page" = none) :
    (∀ e ∈ w.log.rows, Asked ops args w.users e → ∃ q ∈ ps, e ∈ q.2.events) ∧
      ∀ q ∈ ps, ∀ e ∈ q.2.events, e ∈ q.1.log.rows ∧ Asked ops args q.1.users e := by
  refine ⟨?_, reading_asked h⟩
  rintro e he ⟨dates, hdates, hselected⟩
  obtain ⟨keep, -, hrows⟩ := filteredRows_spec ops args dates w
  refine reading_shows h hdates ⟨_, hrows, (mem_filteredRows hrows).mpr ⟨he, hselected⟩, ?_⟩
  have hone : requestedPage ops args = 1 := by
    rw [requestedPage, hfirst]
    rfl
  rw [hone]
  exact (Nat.zero_mul _).trans_le (Nat.zero_le _)

end Readers

/-! ### A log that is read while it grows -/

def sampleSearchOps : AuditSearchOps where
  toTextOps := sampleTextOps
  isdigit := isDigitCode
  isdigit_ascii _ _ := rfl
  decimal _ := none
  fromIsoformat _ := none
  lower s := s.map lowerCode
  lower_ascii _ _ := rfl
  jsonText value := .ofString (String.ofList (dumps value))
  castString value := .ofString (String.ofList (dumps value))
  collationKey s := s
  eventDescriptions := [(.ofString "login", [.ofString "Login", .ofString "A login attempt."])]
  allowedEmailDomains := [.ofString "sit.example"]

def sampleAuditConfig : AuditConfig where
  keyUsable := true
  hmacSha256 _ := String.ofList (List.replicate 64 'a')
  sha256 _ := String.ofList (List.replicate 64 'b')

def sampleDraft (eventType outcome : String) (metadata : Json) : AuditDraft where
  eventType := eventType
  outcome := outcome
  userId := some 1
  ipAddress := "192.0.2.7"
  userAgent := ""
  correlationId := "c"
  sessionRef := none
  eventMetadata := metadata
  createdAt := 0

def sampleContext : ViewContext := ⟨sampleDraft, true⟩

def emptyAuditLog : AuditLog := ⟨⟨[], sorted_nil⟩, 1, lt_one_nil⟩

def sampleAdmin : AuditUser := ⟨1, "Admin_One", "one@sit.example", "admin"⟩

/-- One event of a login, and then another one. -/
def oneLogin : AuditWorld :=
  ⟨emptyAuditLog.write sampleAuditConfig (sampleDraft "login" "success" (.obj [])), [sampleAdmin]⟩

def twoLogins : AuditWorld :=
  { oneLogin with
    log := oneLogin.log.write sampleAuditConfig (sampleDraft "login" "failure" (.obj [])) }

/-- One row on a page, of the rows with the name of the administrator. -/
def sampleArgs : RequestArgs := fun key =>
  if key = "per_page" then some (.ofString "1")
  else if key = "q" then some (.ofString "n_o")
  else if key = "event_type" then some (.ofString "login")
  else none

abbrev sampleView (args : RequestArgs) (w s : AuditWorld) :
    Except ViewError AuditPage × AuditWorld :=
  queryAuditEventsForAdmin sampleSearchOps sampleAuditConfig sampleContext sampleAdmin args w s

theorem sampleView_ok (args : RequestArgs) (w : AuditWorld) {shown : ℕ} {next : Bool}
    (h : (sampleView args w w).1.toOption.map (fun p => (p.page, p.hasNext)) =
      some (shown, next)) :
    ∃ p, sampleView args w w = (.ok p, (sampleView args w w).2) ∧ p.page = shown ∧
      p.hasNext = next := by
  cases hview : sampleView args w w with
  | mk result w' =>
      rw [hview] at h
      cases result with
      | error e => cases h
      | ok p =>
          obtain ⟨rfl, rfl⟩ := Prod.mk.inj (Option.some.inj h)
          exact ⟨p, rfl, rfl, rfl⟩

def firstPageRead : AuditWorld := (sampleView sampleArgs twoLogins twoLogins).2

theorem reading_sample : ∃ ps, Reading sampleSearchOps sampleAuditConfig sampleAdmin sampleArgs
    twoLogins ps := by
  obtain ⟨p, hview, hpage, hnext⟩ : ∃ p, sampleView sampleArgs twoLogins twoLogins =
      (.ok p, firstPageRead) ∧ p.page = 1 ∧ p.hasNext = true :=
    sampleView_ok sampleArgs twoLogins (by decide +kernel)
  obtain ⟨p', hview', -, hnext'⟩ : ∃ p, sampleView (sampleArgs.withPage 2) firstPageRead
      firstPageRead = (.ok p, (sampleView (sampleArgs.withPage 2) firstPageRead firstPageRead).2) ∧
      p.page = 2 ∧ p.hasNext = false :=
    sampleView_ok (sampleArgs.withPage 2) firstPageRead (by decide +kernel)
  have hrest : Reading sampleSearchOps sampleAuditConfig sampleAdmin
      (sampleArgs.withPage (p.page + 1)) firstPageRead [(firstPageRead, p')] := by
    rw [hpage]
    exact .last hview' hnext'
  exact ⟨_, .next (.refl twoLogins) hview hnext (.refl firstPageRead) hrest⟩

theorem audit_reading_complete_sample : ∃ ps, Reading sampleSearchOps sampleAuditConfig sampleAdmin
    sampleArgs twoLogins ps ∧
    (∀ e ∈ twoLogins.log.rows, Asked sampleSearchOps sampleArgs twoLogins.users e →
      ∃ q ∈ ps, e ∈ q.2.events) ∧
    ∀ q ∈ ps, ∀ e ∈ q.2.events,
      e ∈ q.1.log.rows ∧ Asked sampleSearchOps sampleArgs q.1.users e := by
  obtain ⟨ps, h⟩ := reading_sample
  exact ⟨ps, h, audit_reading_complete h rfl⟩

end SitBank.Admin
