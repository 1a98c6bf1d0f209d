import SitBank.Audit.Writer
import SitBank.Python.Calendar
import SitBank.Python.Numerals
import SitBank.Redaction.Metadata
import SitBank.Sql.Like

/-!
The filters of the audit log (`_audit_filters` and `_apply_audit_filters` in
`app/admin/services.py`).

Texts of the request are cleaned, and dropped if they are not of the form that their filter asks
for. The others become a condition of SQL, which may be `NULL`, and only rows for which it is true
are kept. The search asks for its text in a dozen places, whatever characters the text has.
-/

namespace SitBank.Admin

open SitBank.Python SitBank.Audit SitBank.Redaction SitBank.Security SitBank.Sql

/-- The columns of `users` that the filters read. -/
structure AuditUser where
  id : ℤ
  username : String
  email : String
  accountType : String
  deriving DecidableEq

/-- Functions of Python and of the database whose tables are not spelled out here. -/
structure AuditSearchOps extends TextOps where
  isdigit : ℕ → Bool
  isdigit_ascii : ∀ n < 128, isdigit n = isDigitCode n
  decimal : ℕ → Option (Fin 10)
  /-- `datetime.fromisoformat(text)` as an instant, with UTC for a missing offset. -/
  fromIsoformat : PyStr → Option ℤ
  /-- `lower`, which `ILIKE` applies to both sides. -/
  lower : PyStr → PyStr
  lower_ascii : ∀ s, PyStr.Ascii s → lower s = s.map lowerCode
  /-- What `->>` makes of a value that is neither a string nor null. -/
  jsonText : Json → PyStr
  /-- `CAST(event_metadata AS VARCHAR)`. -/
  castString : Json → PyStr
  /-- The key by which the database sorts a text. -/
  collationKey : PyStr → List ℕ
  /-- `AUDIT_EVENT_DESCRIPTIONS`. -/
  eventDescriptions : List (PyStr × List PyStr)
  /-- `admin_allowed_email_domains()`. -/
  allowedEmailDomains : List PyStr

abbrev RequestArgs := String → Option PyStr

/-- `args.get(key) or args.get(other)`. -/
def RequestArgs.getOr (args : RequestArgs) (key other : String) : Option PyStr :=
  ((args key).filter fun text => !text.isEmpty) <|> args other

/-! ### Texts -/

/-- `_safe_filter`. -/
def safeFilter (value : Option PyStr) (limit : ℕ) : PyStr :=
  (cleanText ((value.getD []).strip)).take limit

def letterOrDigit (n : ℕ) : Bool :=
  (48 ≤ n && n ≤ 57) || (65 ≤ n && n ≤ 90) || (97 ≤ n && n ≤ 122)

/-- `AUDIT_EVENT_TYPE_RE`: letters, digits and `_.:-`. -/
def eventTypeCode (n : ℕ) : Bool := letterOrDigit n || n = 95 || n = 46 || n = 58 || n = 45

/-- `AUDIT_REFERENCE_RE` and `AUDIT_SAFE_SEARCH_RE`: also `@` and `/`. -/
def referenceCode (n : ℕ) : Bool := eventTypeCode n || n = 64 || n = 47

/-- `_safe_identifier_filter`, for a pattern of one to eighty characters of a kind. -/
def safeIdentifierFilter (kind : ℕ → Bool) (value : Option PyStr) : PyStr :=
  let text := safeFilter value 80
  if text ≠ [] ∧ text.length ≤ 80 ∧ text.all kind then text else []

section Filters

variable (ops : AuditSearchOps)

/-- `text.isdigit()`. -/
def textIsdigit (text : PyStr) : Bool := !text.isEmpty && text.all ops.isdigit

/-- `_safe_actor_filter`. -/
def safeActorFilter (value : Option PyStr) : PyStr :=
  let text := safeFilter value 32
  if textIsdigit ops text then text else []

/-- `_validated_choice`. -/
def validatedChoice (value : Option PyStr) (allowed : List String) (default : String) : String :=
  let text := ops.casefold (value.getD []).strip
  (allowed.find? fun choice => PyStr.ofString choice = text).getD default

/-- `_bounded_int`. -/
def boundedInt (value : Option PyStr) (default minimum maximum : ℤ) : ℤ :=
  min (max ((value.bind (intOfText ops.decimal)).getD default) minimum) maximum

/-! ### Dates -/

def twoDigits (n : ℕ) : PyStr := [48 + n / 10, 48 + n % 10]

/-- `AUDIT_TIME_OPTIONS`, with the minutes of the day. -/
def auditTimeOptions : List (PyStr × ℤ) :=
  (List.range 48).map fun i => (twoDigits (i / 2) ++ 58 :: twoDigits (i % 2 * 30), 30 * (i : ℤ))

/-- `datetime.fromisoformat` on the pattern `\d{4}-\d{2}-\d{2}`, in days from the epoch. -/
def dateOfText : PyStr → Option ℤ
  | [y₁, y₂, y₃, y₄, 45, m₁, m₂, 45, d₁, d₂] =>
      if [y₁, y₂, y₃, y₄, m₁, m₂, d₁, d₂].all isDigitCode then
        let year : ℤ := digitsValue [y₁, y₂, y₃, y₄]
        let month : ℤ := digitsValue [m₁, m₂]
        let day : ℤ := digitsValue [d₁, d₂]
        let first := monthStart (12 * year + month - 1)
        if 1 ≤ year ∧ 1 ≤ month ∧ month ≤ 12 ∧ 1 ≤ day ∧
            first + day ≤ monthStart (12 * year + month) then some (first + day - 1)
        else none
      else none
  | _ => none

/-- `_parse_sgt_filter_datetime`, before the offset of eight hours is taken off. -/
def parseSgtFilterDatetime (dateText timeText : PyStr) : Option ℤ := do
  let minutes ← auditTimeOptions.lookup timeText
  let day ← dateOfText dateText
  pure ((day * 1440 + minutes - 480) * 60000000)

/-- `value.replace("Z", "+00:00")`. -/
def withOffset (value : PyStr) : PyStr :=
  value.flatMap fun n => if n = 90 then PyStr.ofString "+00:00" else [n]

/-- The years of `datetime`. -/
def minInstant : ℤ := daysFromCivil 1 1 1 * 86400000000

def maxInstant : ℤ := daysFromCivil 10000 1 1 * 86400000000

/-- `_as_utc`; `none` is `OverflowError`. -/
def asUtc (instant : ℤ) : Option ℤ :=
  if minInstant ≤ instant ∧ instant < maxInstant then some instant else none

structure DateBound where
  utc : Option ℤ
  query : PyStr
  invalid : Bool

def utcIsoText (instant : ℤ) : PyStr := .ofString (isoFormat instant ++ "+00:00")

def boundPayload (instant : ℤ) : Option DateBound :=
  (asUtc instant).map fun utc => ⟨some utc, utcIsoText utc, false⟩

/-- `_audit_datetime_bound`, without the texts for the controls; `none` where it raises. -/
def auditDatetimeBound (args : RequestArgs) (name defaultTime : String) : Option DateBound :=
  let dateText := safeFilter (args (name ++ "_date")) 10
  let timeText := safeFilter (args (name ++ "_time")) 5
  let timeText := if timeText = [] then .ofString defaultTime else timeText
  let rawQuery := safeFilter (args name) 40
  if dateText ≠ [] then
    match parseSgtFilterDatetime dateText timeText with
    | none => some ⟨none, rawQuery, true⟩
    | some instant => boundPayload instant
  else if rawQuery ≠ [] then
    match ops.fromIsoformat (withOffset rawQuery) with
    | none => some ⟨none, rawQuery, true⟩
    | some instant => boundPayload instant
  else some ⟨none, [], false⟩

structure DateFilters where
  fromUtc : Option ℤ
  toUtc : Option ℤ
  fromQuery : PyStr
  toQuery : PyStr
  errors : List String

def auditDateErrorMessage : String := "Enter valid From and To dates with SGT time values."

def auditReversedRangeMessage : String :=
  "Enter a From value that is earlier than or equal to To."

def reversedRange : Option ℤ → Option ℤ → Bool
  | some since, some upto => upto < since
  | _, _ => false

/-- `_audit_date_filters`. -/
def auditDateFilters (args : RequestArgs) : Option DateFilters := do
  let since ← auditDatetimeBound ops args "from" "00:00"
  let upto ← auditDatetimeBound ops args "to" "23:30"
  pure ⟨since.utc, upto.utc, since.query, upto.query,
    if since.invalid || upto.invalid then [auditDateErrorMessage]
    else if reversedRange since.utc upto.utc then [auditReversedRangeMessage] else []⟩

/-! ### The filters -/

structure AuditFilters where
  eventType : PyStr
  actor : PyStr
  target : PyStr
  role : String
  severity : String
  outcome : String
  ipAddress : PyStr
  requestId : PyStr
  fromQuery : PyStr
  toQuery : PyStr
  q : PyStr

def accountTypes : List String := ["staff", "admin", "root_admin", "customer"]

def severityOptions : List String := ["low", "medium", "high", "critical"]

def auditAllowedOutcomes : List String :=
  ["blocked", "expired", "failure", "locked", "mfa_success", "queued", "requested", "required",
    "success", "verified"]

/-- `_audit_filters`. -/
def auditFilters (args : RequestArgs) (dates : DateFilters) : AuditFilters where
  eventType := safeIdentifierFilter eventTypeCode (args "event_type")
  actor := safeActorFilter ops (args "actor")
  target := safeIdentifierFilter referenceCode (args "target")
  role := validatedChoice ops (args "role") accountTypes ""
  severity := validatedChoice ops (args "severity") severityOptions ""
  outcome := validatedChoice ops (args.getOr "outcome" "status") auditAllowedOutcomes ""
  ipAddress := safeIdentifierFilter referenceCode (args "ip_address")
  requestId := safeIdentifierFilter referenceCode (args.getOr "request_id" "correlation_id")
  fromQuery := dates.fromQuery
  toQuery := dates.toQuery
  q := safeIdentifierFilter referenceCode (args "q")

/-! ### Conditions -/

/-- A truth value of SQL; `none` is `NULL`. -/
abbrev SqlBool := Option Bool

def sqlOr (conditions : List SqlBool) : SqlBool :=
  if conditions.contains (some true) then some true
  else if conditions.contains none then none else some false

def sqlEq {α : Type} [DecidableEq α] (column : Option α) (value : α) : SqlBool :=
  column.map fun stored => decide (stored = value)

/-- `event_metadata ->> key`. -/
def metadataText (e : SecurityAuditEvent) (key : String) : Option PyStr :=
  match e.eventMetadata with
  | .obj pairs =>
      match pairs.lookup (.ofString key) with
      | none | some .null => none
      | some (.str text) => some text
      | some value => some (ops.jsonText value)
  | _ => none

/-- `%`, `_` and the backslash. -/
def likeCodes : LikeSyntax ℕ := ⟨37, 95, 92, by decide, by decide, by decide⟩

/-- `column ILIKE '%{text}%' ESCAPE '\'`; the outer `none` is an error of the database. -/
def ilikeContains (text : PyStr) (column : Option PyStr) : Option SqlBool :=
  match column with
  | none => some none
  | some value => (likeCodes.like
      (ops.lower (37 :: (likeCodes.likeEscape text ++ [37]))) (ops.lower value)).map some

/-- `lower(email) LIKE '%@{domain}' ESCAPE '\'`. -/
def domainMatches (email domain : PyStr) : Option Bool :=
  likeCodes.like (37 :: 64 :: likeCodes.likeEscape domain) (ops.lower email)

/-- `_privileged_workplace_email_matches`. -/
def privilegedWorkplaceEmailMatches (query : PyStr) (user : AuditUser) : Option Bool := do
  let email := PyStr.ofString user.email
  let domains ← ops.allowedEmailDomains.mapM (domainMatches ops email)
  let found ← ilikeContains ops query (some email)
  pure (["staff", "admin", "root_admin"].contains user.accountType && domains.any id &&
    found = some true)

def userMatches (query : PyStr) (user : AuditUser) : Option Bool := do
  let named ← ilikeContains ops query (some (.ofString user.username))
  let addressed ← privilegedWorkplaceEmailMatches ops query user
  pure (named = some true || addressed)

/-- `user.has(..)`: one of the users of the row. -/
def userHas (query : PyStr) (users : List AuditUser) (e : SecurityAuditEvent) : Option Bool :=
  let own := users.filter fun user => some user.id = e.userId
  (own.mapM (userMatches ops query)).map (List.any · id)

def auditTargetMetadataKeys : List String :=
  ["audit_event_ref", "invite_ref", "principal_ref", "request_ref", "target_customer_ref",
    "target_role", "target_staff_ref", "workplace_email_ref"]

/-- The event types whose description contains the query. -/
def matchingEventTypes (query : PyStr) : List PyStr :=
  (ops.eventDescriptions.filter fun entry =>
    decide (ops.casefold query <:+: ops.casefold ([32].intercalate entry.2))).map Prod.fst

/-- The texts of a row that are searched. -/
def searchedTexts (e : SecurityAuditEvent) : List (Option PyStr) :=
  [some (.ofString e.eventType), some (.ofString e.outcome), some (.ofString e.correlationId),
    some (.ofString e.ipAddress), metadataText ops e "source_kind",
    metadataText ops e "source_display"] ++ auditTargetMetadataKeys.map (metadataText ops e)

/-- `int(query)` for a query of digits; `none` is `ValueError`. -/
def queriedUserId (query : PyStr) : Option (Option ℤ) :=
  if textIsdigit ops query then (intOfText ops.decimal query).map some else some none

/-- `_apply_audit_search_filter`. -/
def auditSearchFilter (query : PyStr) (users : List AuditUser) (e : SecurityAuditEvent) :
    Option SqlBool :=
  if query = [] then some (some true)
  else do
    let userId ← queriedUserId ops query
    let texts ← (searchedTexts ops e).mapM (ilikeContains ops query)
    let user ← userHas ops query users e
    pure (sqlOr (texts ++ [some user,
      some ((matchingEventTypes ops query).contains (.ofString e.eventType))] ++
      userId.toList.map (sqlEq e.userId)))

/-- `_where_any_metadata_key_matches`. -/
def auditTargetFilter (target : PyStr) (e : SecurityAuditEvent) : Option SqlBool :=
  if target = [] then some (some true)
  else ((auditTargetMetadataKeys.map (metadataText ops e)).mapM (ilikeContains ops target)).map
    sqlOr

/-- `_apply_audit_actor_filter`. -/
def auditActorFilter (actor : PyStr) (e : SecurityAuditEvent) : SqlBool :=
  if actor = [] then some true
  else match intOfText ops.decimal actor with
    | none => some true
    | some actorId => sqlEq e.userId actorId

/-- A condition that is only there with a value. -/
def whenGiven {α : Type} [DecidableEq α] (value empty : α) (condition : SqlBool) : SqlBool :=
  if value = empty then some true else condition

/-- The conditions that compare columns with values. -/
def columnConditions (filters : AuditFilters) (dates : DateFilters) (users : List AuditUser)
    (e : SecurityAuditEvent) : List SqlBool :=
  [whenGiven filters.eventType [] (some (PyStr.ofString e.eventType = filters.eventType)),
    whenGiven filters.outcome "" (some (e.outcome = filters.outcome)),
    auditActorFilter ops filters.actor e,
    whenGiven filters.role "" (some (users.any fun user =>
      some user.id = e.userId && user.accountType = filters.role)),
    whenGiven filters.ipAddress [] (some (PyStr.ofString e.ipAddress = filters.ipAddress)),
    whenGiven filters.requestId [] (some (PyStr.ofString e.correlationId = filters.requestId)),
    some (dates.fromUtc.all fun since => since ≤ e.createdAt),
    some (dates.toUtc.all fun upto => e.createdAt ≤ upto),
    whenGiven filters.severity "" (sqlEq (metadataText ops e "severity")
      (.ofString filters.severity))]

/-- `_apply_audit_filters`: whether a row is kept. -/
def auditFiltersApply (filters : AuditFilters) (dates : DateFilters) (users : List AuditUser)
    (e : SecurityAuditEvent) : Option Bool :=
  if dates.errors ≠ [] then some false
  else do
    let target ← auditTargetFilter ops filters.target e
    let found ← auditSearchFilter ops filters.q users e
    pure ((columnConditions ops filters dates users e).all (· = some true) &&
      target = some true && found = some true)

end Filters

end SitBank.Admin
