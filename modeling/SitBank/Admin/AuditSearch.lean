import SitBank.Admin.AuditFilters

/-!
What the filters of the audit log keep.

A query that the request may ask for is ASCII, so that the pattern which is built from it asks for
the query itself, in whatever case. No condition fails on such a query, and a row is kept if it
has what every filter asks for.
-/

namespace SitBank.Admin

open SitBank.Python SitBank.Audit SitBank.Redaction SitBank.Security SitBank.Sql

section Filters

variable (ops : AuditSearchOps)

/-- The query is a piece of the text, in whatever case its letters are. -/
def Contains (query text : PyStr) : Prop := query.map lowerCode <:+: ops.lower text

instance (query text : PyStr) : Decidable (Contains ops query text) :=
  inferInstanceAs (Decidable (_ <:+: _))

/-- Staff with an address at one of the allowed domains. -/
def WorkplaceUser (user : AuditUser) : Prop :=
  user.accountType ∈ ["staff", "admin", "root_admin"] ∧
    ∃ domain ∈ ops.allowedEmailDomains, 64 :: domain <:+ ops.lower (.ofString user.email)

/-- The search finds its query in the row. -/
inductive Found (query : PyStr) (users : List AuditUser) (e : SecurityAuditEvent) : Prop
  | text {text : PyStr} (h : some text ∈ searchedTexts ops e) (hc : Contains ops query text)
  | username {user : AuditUser} (h : user ∈ users) (hid : e.userId = some user.id)
      (hc : Contains ops query (.ofString user.username))
  | workplaceEmail {user : AuditUser} (h : user ∈ users) (hid : e.userId = some user.id)
      (hw : WorkplaceUser ops user) (hc : Contains ops query (.ofString user.email))
  | description (h : PyStr.ofString e.eventType ∈ matchingEventTypes ops query)
  | userId (hdigits : ∀ c ∈ query, isDigitCode c = true)
      (h : e.userId = some (digitsValue query : ℤ))

/-- The row is one that the filters ask for. -/
structure Selected (filters : AuditFilters) (dates : DateFilters) (users : List AuditUser)
    (e : SecurityAuditEvent) : Prop where
  errors : dates.errors = []
  columns : ∀ c ∈ columnConditions ops filters dates users e, c = some true
  target : filters.target = [] ∨ ∃ key ∈ auditTargetMetadataKeys, ∃ text,
    metadataText ops e key = some text ∧ Contains ops filters.target text
  search : filters.q = [] ∨ Found ops filters.q users e

/-- A text that the patterns let through. -/
def SafeText (text : PyStr) : Prop := text.length ≤ 80 ∧ ∀ c ∈ text, referenceCode c = true

theorem referenceCode_lt {c : ℕ} (h : referenceCode c = true) : c < 128 := by
  simp only [referenceCode, eventTypeCode, letterOrDigit, Bool.or_eq_true, Bool.and_eq_true,
    decide_eq_true_eq] at h
  omega

theorem SafeText.ascii {text : PyStr} (h : SafeText text) : PyStr.Ascii text :=
  fun c hc => referenceCode_lt (h.2 c hc)

theorem safeText_identifierFilter (value : Option PyStr) :
    SafeText (safeIdentifierFilter referenceCode value) := by
  unfold safeIdentifierFilter
  dsimp only
  split
  · next h => exact ⟨h.2.1, List.all_eq_true.mp h.2.2⟩
  · exact ⟨Nat.zero_le _, List.forall_mem_nil _⟩

theorem special_lowerCode (c : ℕ) : likeCodes.special (lowerCode c) = likeCodes.special c := by
  unfold lowerCode
  split
  · simp only [LikeSyntax.special, likeCodes]
    grind
  · rfl

theorem ascii_likeEscape {text : PyStr} (h : PyStr.Ascii text) :
    PyStr.Ascii (likeCodes.likeEscape text) := by
  rw [LikeSyntax.likeEscape_eq]
  intro c hc
  obtain ⟨d, hd, hc⟩ := List.mem_flatMap.mp hc
  split at hc
  · rcases List.mem_cons.mp hc with rfl | hc
    · decide
    · rw [List.mem_singleton.mp hc]
      exact h d hd
  · rw [List.mem_singleton.mp hc]
    exact h d hd

/-- The pattern that is built from a text asks for the text. -/
theorem ilikeContains_eq {text : PyStr} (h : PyStr.Ascii text) (column : Option PyStr) :
    ilikeContains ops text column =
      some (column.map fun value => decide (Contains ops text value)) := by
  cases column with
  | none => rfl
  | some value =>
      have hascii : PyStr.Ascii (37 :: (likeCodes.likeEscape text ++ [37])) := by
        intro c hc
        rcases List.mem_cons.mp hc with rfl | hc
        · decide
        · rcases List.mem_append.mp hc with hc | hc
          · exact ascii_likeEscape h c hc
          · rw [List.mem_singleton.mp hc]
            decide
      have hpattern : ops.lower (37 :: (likeCodes.likeEscape text ++ [37])) =
          likeCodes.percent ::
            (likeCodes.likeEscape (text.map lowerCode) ++ [likeCodes.percent]) := by
        rw [ops.lower_ascii _ hascii, List.map_cons, List.map_append,
          likeCodes.likeEscape_map special_lowerCode rfl]
        rfl
      rw [ilikeContains, hpattern, LikeSyntax.like_contains]
      rfl

theorem domainMatches_eq (email domain : PyStr) :
    domainMatches ops email domain = some (decide (64 :: domain <:+ ops.lower email)) := by
  have hpattern : 64 :: likeCodes.likeEscape domain = likeCodes.likeEscape (64 :: domain) := by
    rw [LikeSyntax.likeEscape_eq, LikeSyntax.likeEscape_eq, List.flatMap_cons,
      if_neg (by decide)]
    rfl
  rw [domainMatches, hpattern]
  exact LikeSyntax.like_endsWith likeCodes _ _

instance (user : AuditUser) : Decidable (WorkplaceUser ops user) :=
  inferInstanceAs (Decidable (_ ∧ _))

/-- The user is found by the username, or by an address at the workplace. -/
def NamedBy (query : PyStr) (user : AuditUser) : Prop :=
  Contains ops query (.ofString user.username) ∨
    WorkplaceUser ops user ∧ Contains ops query (.ofString user.email)

instance (query : PyStr) (user : AuditUser) : Decidable (NamedBy ops query user) :=
  inferInstanceAs (Decidable (_ ∨ _))

variable {query : PyStr} (hquery : PyStr.Ascii query)
include hquery

theorem privilegedWorkplaceEmailMatches_eq (user : AuditUser) :
    privilegedWorkplaceEmailMatches ops query user =
      some (decide (WorkplaceUser ops user ∧ Contains ops query (.ofString user.email))) := by
  have hdomains : domainMatches ops (.ofString user.email) =
      fun domain => pure (decide (64 :: domain <:+ ops.lower (.ofString user.email))) :=
    funext (domainMatches_eq ops _)
  have hdecide : decide (WorkplaceUser ops user ∧ Contains ops query (.ofString user.email)) =
      (["staff", "admin", "root_admin"].contains user.accountType &&
        (ops.allowedEmailDomains.map fun domain =>
          decide (64 :: domain <:+ ops.lower (.ofString user.email))).any id &&
        decide (Contains ops query (.ofString user.email))) := by
    rw [Bool.eq_iff_iff]
    simp [WorkplaceUser, and_assoc]
  rw [hdecide, privilegedWorkplaceEmailMatches, hdomains, List.mapM_pure,
    ilikeContains_eq ops hquery]
  simp

theorem userMatches_eq (user : AuditUser) :
    userMatches ops query user = some (decide (NamedBy ops query user)) := by
  rw [userMatches, ilikeContains_eq ops hquery, privilegedWorkplaceEmailMatches_eq ops hquery]
  show some _ = some _
  rw [Option.some.injEq, Bool.eq_iff_iff]
  simp only [Option.map_some, Option.some.injEq, decide_eq_true_eq, Bool.or_eq_true]
  rfl

theorem userHas_eq (users : List AuditUser) (e : SecurityAuditEvent) :
    userHas ops query users e = some (decide (∃ user ∈ users, e.userId = some user.id ∧
      NamedBy ops query user)) := by
  have hmatches : userMatches ops query = fun user => pure (decide (NamedBy ops query user)) :=
    funext (userMatches_eq ops hquery)
  rw [userHas, hmatches, List.mapM_pure]
  show some _ = some _
  rw [Option.some.injEq, Bool.eq_iff_iff]
  simp only [List.any_map, List.any_filter, List.any_eq_true, Function.comp_apply, id,
    Bool.and_eq_true, decide_eq_true_eq]
  exact exists_congr fun user => and_congr_right fun _ => and_congr_left fun _ => eq_comm

/-- No text of the row makes the condition fail. -/
theorem mapM_ilikeContains (texts : List (Option PyStr)) :
    texts.mapM (ilikeContains ops query) = some (texts.map fun column =>
      column.map fun value => decide (Contains ops query value)) := by
  have hcontains : ilikeContains ops query = fun column =>
      pure (column.map fun value => decide (Contains ops query value)) :=
    funext (ilikeContains_eq ops hquery)
  rw [hcontains, List.mapM_pure]
  rfl

omit hquery in
theorem sqlOr_eq_true {conditions : List SqlBool} :
    sqlOr conditions = some true ↔ some true ∈ conditions := by
  unfold sqlOr
  split
  · next h => simpa using h
  · next h =>
      split <;> simpa using h

omit hquery in
theorem contains_mem_iff {texts : List (Option PyStr)} :
    some true ∈ (texts.map fun column =>
      column.map fun value => decide (Contains ops query value)) ↔
      ∃ text, some text ∈ texts ∧ Contains ops query text := by
  simp [Option.map_eq_some_iff]

omit hquery in
/-- The number that is asked for; digits of a safe query are ASCII. -/
theorem queriedUserId_eq (h : SafeText query) (hne : query ≠ []) :
    queriedUserId ops query = some (if query.all isDigitCode then
      some (digitsValue query : ℤ) else none) := by
  have hdigits : textIsdigit ops query = query.all isDigitCode := by
    have hall : ∀ c ∈ query, ops.isdigit c = isDigitCode c :=
      fun c hc => ops.isdigit_ascii c (h.ascii c hc)
    rw [textIsdigit, List.isEmpty_eq_false_iff.mpr hne, Bool.not_false, Bool.true_and,
      Bool.eq_iff_iff, List.all_eq_true, List.all_eq_true]
    exact forall₂_congr fun c hc => by rw [hall c hc]
  rw [queriedUserId, hdigits]
  split
  · next hall =>
      rw [intOfText_of_digits ops.decimal hne (List.all_eq_true.mp hall)
        (h.1.trans (by decide))]
      rfl
  · rfl

omit hquery in
/-- The search never fails, and finds what it should. -/
theorem auditSearchFilter_spec (h : SafeText query) (users : List AuditUser)
    (e : SecurityAuditEvent) : ∃ c, auditSearchFilter ops query users e = some c ∧
      (c = some true ↔ query = [] ∨ Found ops query users e) := by
  by_cases hne : query = []
  · exact ⟨some true, if_pos hne, by simp [hne]⟩
  · have hvalue : auditSearchFilter ops query users e = some (sqlOr
        ((searchedTexts ops e).map (fun column =>
          column.map fun value => decide (Contains ops query value)) ++
        [some (decide (∃ user ∈ users, e.userId = some user.id ∧ NamedBy ops query user)),
          some ((matchingEventTypes ops query).contains (.ofString e.eventType))] ++
        (if query.all isDigitCode then some (digitsValue query : ℤ) else none).toList.map
          (sqlEq e.userId))) := by
      rw [auditSearchFilter, if_neg hne, queriedUserId_eq ops h hne,
        mapM_ilikeContains ops h.ascii, userHas_eq ops h.ascii]
      rfl
    refine ⟨_, hvalue, ?_⟩
    rw [sqlOr_eq_true, List.mem_append, List.mem_append, contains_mem_iff]
    simp only [List.mem_cons, Option.some.injEq, List.not_mem_nil, or_false, eq_comm (a := true),
      decide_eq_true_eq, List.contains_eq_mem]
    constructor
    · rintro ((⟨text, ht, hc⟩ | ⟨user, hu, hid, hn | ⟨hw, hc⟩⟩ | hd) | hid)
      · exact .inr (.text ht hc)
      · exact .inr (.username hu hid hn)
      · exact .inr (.workplaceEmail hu hid hw hc)
      · exact .inr (.description hd)
      · split at hid
        · next hall =>
            refine .inr (.userId (List.all_eq_true.mp hall) ?_)
            simpa [sqlEq] using hid
        · simp at hid
    · rintro (hnil | ht | hn | hw | hd | hdigits)
      · exact absurd hnil hne
      · next hc => exact .inl (.inl ⟨_, ht, hc⟩)
      · next hid hc => exact .inl (.inr (.inl ⟨_, hn, hid, .inl hc⟩))
      · next hid hworks hc => exact .inl (.inr (.inl ⟨_, hw, hid, .inr ⟨hworks, hc⟩⟩))
      · exact .inl (.inr (.inr hd))
      · next hid =>
          rw [if_pos (List.all_eq_true.mpr hdigits)]
          exact .inr (by simp [sqlEq, hid])

omit hquery in
theorem auditTargetFilter_spec (h : SafeText query) (e : SecurityAuditEvent) :
    ∃ c, auditTargetFilter ops query e = some c ∧ (c = some true ↔ query = [] ∨
      ∃ key ∈ auditTargetMetadataKeys, ∃ text,
        metadataText ops e key = some text ∧ Contains ops query text) := by
  by_cases hne : query = []
  · exact ⟨some true, if_pos hne, by simp [hne]⟩
  · have hvalue : auditTargetFilter ops query e = some (sqlOr
        ((auditTargetMetadataKeys.map (metadataText ops e)).map fun column =>
          column.map fun value => decide (Contains ops query value))) := by
      rw [auditTargetFilter, if_neg hne, mapM_ilikeContains ops h.ascii]
      rfl
    refine ⟨_, hvalue, ?_⟩
    rw [sqlOr_eq_true, contains_mem_iff]
    constructor
    · rintro ⟨text, ht, hc⟩
      obtain ⟨key, hkey, htext⟩ := List.mem_map.mp ht
      exact .inr ⟨key, hkey, text, htext, hc⟩
    · rintro (hnil | ⟨key, hkey, text, htext, hc⟩)
      · exact absurd hnil hne
      · exact ⟨text, List.mem_map.mpr ⟨key, hkey, htext⟩, hc⟩

omit hquery in
/-- The filters of a request never fail on a row, and keep the ones they ask for. -/
theorem auditFiltersApply_spec (args : RequestArgs) (dates : DateFilters)
    (users : List AuditUser) (e : SecurityAuditEvent) :
    ∃ b, auditFiltersApply ops (auditFilters ops args dates) dates users e = some b ∧
      (b = true ↔ Selected ops (auditFilters ops args dates) dates users e) := by
  by_cases herrors : dates.errors = []
  · have htext : SafeText (auditFilters ops args dates).target := safeText_identifierFilter _
    have hq : SafeText (auditFilters ops args dates).q := safeText_identifierFilter _
    obtain ⟨target, htarget, hasked⟩ := auditTargetFilter_spec ops htext e
    obtain ⟨search, hsearch, hfound⟩ := auditSearchFilter_spec ops hq users e
    have hvalue : auditFiltersApply ops (auditFilters ops args dates) dates users e =
        some ((columnConditions ops (auditFilters ops args dates) dates users e).all
          (· = some true) && target = some true && search = some true) := by
      rw [auditFiltersApply, if_neg (by simpa using herrors), htarget, hsearch]
      rfl
    refine ⟨_, hvalue, ?_⟩
    simp only [Bool.and_eq_true, decide_eq_true_eq, List.all_eq_true]
    constructor
    · rintro ⟨⟨hcolumns, ht⟩, hs⟩
      exact ⟨herrors, hcolumns, hasked.mp ht, hfound.mp hs⟩
    · rintro ⟨-, hcolumns, ht, hs⟩
      exact ⟨⟨hcolumns, hasked.mpr ht⟩, hfound.mpr hs⟩
  · refine ⟨false, if_pos herrors, ?_⟩
    simp only [Bool.false_eq_true, false_iff]
    exact fun h => herrors h.errors

end Filters

end SitBank.Admin
