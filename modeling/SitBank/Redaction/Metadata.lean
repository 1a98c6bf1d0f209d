import SitBank.Admin.RequestIntegrity
import SitBank.Redaction.Sanitizer
import SitBank.Security.Alerts

/-!
The sanitizers of audit metadata (`app/security/audit.py`) and of delivered alerts
(`app/security/alerts.py`).

They are meant to keep what stands under a sensitive key out of the audit log and of the
webhook. Both cut the text of a key before they test it, and neither walks into a fifth level
of mappings and lists, which is shown as a text with everything in it. The alerts also show
sequences that are neither lists nor tuples as a text, and take a key that starts like an
authorization header as a harmless one.
-/

namespace SitBank.Redaction

open SitBank.Python SitBank.Security

/-! ### Texts -/

/-- Texts of objects, and the tests on texts that are the same for every value. -/
structure RedactionText (Key : Type) extends TextOps where
  /-- `str(key)`, and whether the key is `None`. -/
  keyStr : Key → PyStr
  keyIsNone : Key → Bool
  /-- `str(value)`. -/
  valueStr : Value Key → PyStr
  valueStr_text : ∀ s, valueStr (.text s) = s
  valueStr_other : ∀ s, valueStr (.other s) = s
  containsSensitiveUrl : PyStr → Bool
  /-- `SENSITIVE_PRIVATE_KEY_RE` and `DELIVERY_PRIVATE_KEY_RE`, which are the same. -/
  searchPrivateKey : PyStr → Bool
  /-- `SENSITIVE_LONG_TOKEN_RE.fullmatch(text.strip())`. -/
  auditLongToken : PyStr → Bool
  deliveryLongToken : PyStr → Bool
  uuidText : PyStr → Bool
  /-- `len(re.sub(r"\D", "", text))`. -/
  digitCount : PyStr → ℕ

/-- Control characters become spaces, and spaces are collapsed. -/
def cleanText (text : PyStr) : PyStr :=
  compactText (text.map fun n => if n < 32 ∨ n = 127 then 32 else n)

def cleanAuditText (text : PyStr) (limit : ℕ) : PyStr := (cleanText text).take limit

def startsWithAny (starts : List String) (text : PyStr) : Bool :=
  starts.any fun start => (PyStr.ofString start).isPrefixOf text

def containsAny (parts : List String) (text : PyStr) : Bool :=
  parts.any fun part => decide (PyStr.ofString part <:+: text)

/-- `text.replace("-", "_")`. -/
def underscored (text : PyStr) : PyStr := text.map fun n => if n = 45 then 95 else n

/-! ### Audit metadata -/

def sensitiveKeyParts : List String :=
  ["api_key", "apikey", "authorization", "bearer", "challenge", "ciphertext", "cookie", "csrf",
    "full_account", "iban", "mfa_secret", "nonce", "passwd", "password", "private_key",
    "public_key", "raw_redis", "redis_payload", "session_id", "sessionid", "secret", "totp",
    "code", "token", "uri", "url"]

def sensitiveExactKeys : List String := ["credential", "sid"]

def accountKeyParts : List String := ["account_number", "account_no", "payee_account", "pan"]

def isReferenceKey (keyLower : PyStr) : Bool := (PyStr.ofString "_ref").isSuffixOf keyLower

def isSensitiveKey (keyLower : PyStr) : Bool :=
  if isReferenceKey keyLower ∨ keyLower = .ofString "principal_ref" ∨
      keyLower = .ofString "session_ref" then false
  else underscored keyLower ∈ sensitiveExactKeys.map PyStr.ofString ||
    containsAny sensitiveKeyParts (underscored keyLower)

section Audit

variable {Key : Type} (t : RedactionText Key)

def looksLikeSensitiveValue (text : PyStr) : Bool :=
  startsWithAny ["bearer ", "basic ", "token "] (t.casefold text) || t.searchPrivateKey text ||
    t.auditLongToken text

def looksLikeAccountValue (keyLower text : PyStr) : Bool :=
  !isReferenceKey keyLower && containsAny accountKeyParts keyLower && 8 ≤ t.digitCount text

/-- `_sanitize_metadata_value` of what is neither kept nor walked into. -/
def shownAuditText (keyLower : PyStr) (value : Value Key) : PyStr :=
  let rawText := t.valueStr value
  if t.containsSensitiveUrl rawText then redactedValue
  else
    let text := cleanAuditText rawText 256
    if looksLikeSensitiveValue t text || looksLikeAccountValue t keyLower text then redactedValue
    else text

def auditSanitizer : Sanitizer Key where
  keyText key := cleanAuditText (t.keyStr key) 64
  fullKeyText key := cleanText (t.keyStr key)
  casefold := t.casefold
  isSensitiveKey := isSensitiveKey
  redactedValue := redactedValue
  depthLimit := 4
  itemLimit := 20
  descends _ := true
  shownText := shownAuditText t

def sanitizeMetadata (metadata : List (Key × Value Key)) : List (PyStr × Value PyStr) :=
  sanitizeDict (auditSanitizer t) metadata

end Audit

/-! ### Delivered alerts -/

def deliverySafeKeys : List String :=
  ["alert_type", "anchor_error_count", "correlation_id", "count", "display_timestamp",
    "event_count", "event_id", "event_type", "generated_at", "latest_event_id", "message",
    "outcome", "public_session_ref", "safe_user_id", "safe_user_identifier", "session_ref",
    "severity", "source", "summary", "table", "timestamp", "user_id", "user_ref",
    "window_seconds", "current_count", "current_max_id", "previous_count", "previous_max_id"]

def deliverySensitiveKeyParts : List String :=
  ["access_token", "api_key", "apikey", "assertion", "authenticator_data", "authorization",
    "bearer", "challenge", "client_data", "cookie", "credential", "csrf", "database_url", "hmac",
    "kek", "mfa_secret", "passwd", "password", "postgres_url", "postgresql_url", "private_key",
    "redis_url", "refresh_token", "recovery_code", "secret", "session", "session_id", "sid",
    "signature", "smtp_password", "smtp_url", "smtp_username", "set_cookie", "set-cookie",
    "token", "totp", "webhook"]

def isSensitiveDeliveryKey (keyLower : PyStr) : Bool :=
  if underscored keyLower ∈ deliverySafeKeys.map PyStr.ofString then false
  else containsAny deliverySensitiveKeyParts (underscored keyLower)

section Delivery

variable {Key : Type} (t : RedactionText Key)

def looksLikeSensitiveDeliveryValue (text : PyStr) : Bool :=
  if text = [] then false
  else if t.casefold text = redactedValue then true
  else if startsWithAny ["bearer ", "basic ", "token "] (t.casefold text) then true
  else if t.searchPrivateKey text then true
  else if t.uuidText text then false
  else t.deliveryLongToken text

/-- `_sanitize_delivery_value` of what is neither kept nor walked into. -/
def shownDeliveryText (value : Value Key) : PyStr :=
  let rawText := t.valueStr value
  if t.containsSensitiveUrl rawText then redactedValue
  else
    let text := safeText t.toTextOps rawText 512
    if looksLikeSensitiveDeliveryValue t text then redactedValue else text

/-- `… or "field"`. -/
def orField (text : PyStr) : PyStr := if text = [] then .ofString "field" else text

def deliverySanitizer : Sanitizer Key where
  keyText key := orField (if t.keyIsNone key then [] else safeText t.toTextOps (t.keyStr key) 80)
  fullKeyText key := orField (if t.keyIsNone key then [] else cleanText (t.keyStr key))
  casefold := t.casefold
  isSensitiveKey := isSensitiveDeliveryKey
  redactedValue := redactedValue
  depthLimit := 4
  itemLimit := 25
  descends kind := kind ≠ .other
  shownText _ := shownDeliveryText t

def sanitizeAlertForDelivery (alert : List (Key × Value Key)) : List (PyStr × Value PyStr) :=
  sanitizeDict (deliverySanitizer t) alert

end Delivery

/-! ### What stays hidden -/

/-- Dictionaries that differ only under sensitive keys have one result exactly where they are
covered; and of what is not walked into, only values with sensitive keys can be seen. -/
theorem sanitize_hides_iff {Key : Type} (t : RedactionText Key)
    (entries : List (Key × Value Key)) :
    ((∀ entries', eraseEntries (auditSanitizer t) entries' =
          eraseEntries (auditSanitizer t) entries →
        sanitizeMetadata t entries' = sanitizeMetadata t entries) ↔
      CoveredDict (auditSanitizer t) entries) ∧
    ((∀ entries', eraseEntries (deliverySanitizer t) entries' =
          eraseEntries (deliverySanitizer t) entries →
        sanitizeAlertForDelivery t entries' = sanitizeAlertForDelivery t entries) ↔
      CoveredDict (deliverySanitizer t) entries) ∧
    ∀ keyLower value,
      (holdsSensitive (auditSanitizer t) value = false →
        Settled (auditSanitizer t) keyLower value) ∧
      (holdsSensitive (deliverySanitizer t) value = false →
        Settled (deliverySanitizer t) keyLower value) :=
  ⟨sanitizeDict_eq_iff_covered (auditSanitizer t) entries,
    sanitizeDict_eq_iff_covered (deliverySanitizer t) entries,
    fun _ _ => ⟨settled_of_no_sensitive, settled_of_no_sensitive⟩⟩

/-- Texts as keys; only texts and other objects occur in the sample. -/
def sampleRedactionText : RedactionText PyStr where
  toTextOps := Admin.sampleTextOps
  keyStr key := key
  keyIsNone _ := false
  valueStr
    | .text s => s
    | .other s => s
    | _ => []
  valueStr_text _ := rfl
  valueStr_other _ := rfl
  containsSensitiveUrl _ := false
  searchPrivateKey _ := false
  auditLongToken _ := false
  deliveryLongToken _ := false
  uuidText _ := false
  digitCount text := (text.filter fun n => 48 ≤ n ∧ n ≤ 57).length

/-- A password under a key of which the first 80 characters are harmless. -/
def longKeyEntries (password : String) : List (PyStr × Value PyStr) :=
  [(List.replicate 80 120 ++ PyStr.ofString "_password", .text (.ofString password))]

/-- What the sanitized texts are. -/
def shownTexts (entries : List (PyStr × Value PyStr)) : List PyStr :=
  entries.map fun p => match p.2 with
    | .text s => s
    | _ => []

/-- Both sanitizers show the password. -/
theorem sanitize_shows_password :
    (eraseEntries (auditSanitizer sampleRedactionText) (longKeyEntries "first") =
        eraseEntries (auditSanitizer sampleRedactionText) (longKeyEntries "second") ∧
      sanitizeMetadata sampleRedactionText (longKeyEntries "first") ≠
        sanitizeMetadata sampleRedactionText (longKeyEntries "second")) ∧
    (eraseEntries (deliverySanitizer sampleRedactionText) (longKeyEntries "first") =
        eraseEntries (deliverySanitizer sampleRedactionText) (longKeyEntries "second") ∧
      sanitizeAlertForDelivery sampleRedactionText (longKeyEntries "first") ≠
        sanitizeAlertForDelivery sampleRedactionText (longKeyEntries "second")) := by
  have herase (z : Sanitizer PyStr) (password : String)
      (hkey : z.protects (List.replicate 80 120 ++ PyStr.ofString "_password") = true) :
      eraseEntries z (longKeyEntries password) =
        [(List.replicate 80 120 ++ PyStr.ofString "_password", .scalar .null)] := by
    rw [longKeyEntries, eraseEntries, if_pos hkey, eraseEntries]
  refine ⟨⟨?_, fun h => ?_⟩, ?_, fun h => ?_⟩
  · rw [herase _ _ (by decide +kernel), herase _ _ (by decide +kernel)]
  · exact absurd (congrArg shownTexts h) (by decide +kernel)
  · rw [herase _ _ (by decide +kernel), herase _ _ (by decide +kernel)]
  · exact absurd (congrArg shownTexts h) (by decide +kernel)

end SitBank.Redaction
