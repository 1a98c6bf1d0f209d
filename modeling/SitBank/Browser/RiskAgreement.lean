import SitBank.Browser.Requests
import SitBank.Python.Text

/-!
The two checks of the session risk (`app/security/sessions.py`).

A session stores a fingerprint and a context of the same request. The hook compares the
context: the network of the address and the user agent in folded case. A sensitive action
compares the fingerprint: the network, a hash of the user agent as it was sent, and how the
session was authenticated. Both collapse spaces and cut the user agent, the hook after
folding its case. So the hook can find a request stable whose sensitive actions are
refused, and the theorem says when it is.
-/

namespace SitBank.Browser

open SitBank.Python (isSpace truncate)

/-! ### Normalisers -/

/-- `" ".join(value.split())`. -/
def collapseSpaces (value : String) : String :=
  String.ofList ([' '].intercalate ((value.toList.splitOnP isSpace).filter (· ≠ [])))

/-- `str.casefold`, and `hashlib.sha256(value.encode("utf-8")).hexdigest()`. -/
structure AgentText where
  casefold : String → String
  sha256Hex : String → String
  length_sha256Hex : ∀ value, (sha256Hex value).length = 64

/-- `_normalized_user_agent`. -/
def AgentText.normalizedUserAgent (text : AgentText) (value : String) : String :=
  truncate 256 (text.casefold (collapseSpaces (if value = "" then "unknown" else value)))

/-- `_user_agent_fingerprint`. -/
def AgentText.userAgentFingerprint (text : AgentText) (value : String) : String :=
  truncate 16
    (text.sha256Hex (truncate 256 (collapseSpaces (if value = "" then "unknown" else value))))

theorem length_userAgentFingerprint (text : AgentText) (value : String) :
    (text.userAgentFingerprint value).length = 16 := by
  unfold AgentText.userAgentFingerprint truncate
  rw [String.length_ofList, List.length_take, String.length_toList, text.length_sha256Hex]
  rfl

/-! ### Keys -/

/-- `SESSION_HMAC_KEYS`, the active key apart. -/
structure SessionKeys (Key : Type) where
  active : Key
  others : List Key

/-- `_configured_keys`. -/
def SessionKeys.configuredKeys {Key : Type} (keys : SessionKeys Key) : List Key :=
  keys.active :: keys.others

/-- Tags are not empty, and those of different keys or messages differ. -/
structure CollisionFree {Key : Type} (digest : Key → String → String) : Prop where
  ne_empty : ∀ key message, digest key message ≠ ""
  inj : ∀ {key key' message message'}, digest key message = digest key' message' →
    key = key' ∧ message = message'

/-- The configuration with these keys; `digest` is `_digest(·, ·, 32)`. -/
def Config.withKeys {Key : Type} (base : Config) (text : AgentText)
    (digest : Key → String → String) (keys : SessionKeys Key) : Config :=
  { base with
    normalizedUserAgent := text.normalizedUserAgent
    userAgentFingerprint := text.userAgentFingerprint
    activeHmacHex := digest keys.active
    matchesHmac := fun expected message =>
      keys.configuredKeys.any fun key => expected = digest key message }

/-! ### What a session stores -/

/-- Fingerprint and context are those of one visit, when the session had this
`auth_context`. -/
structure StoredAt (cfg : Config) (visit : Visit) (authContext : String) (items : Items) :
    Prop where
  fingerprint : items.riskFingerprint =
    some (currentSessionRiskFingerprint cfg visit { items with authContext := authContext })
  context : ∃ now, items.riskContext = some (currentSessionRiskContext cfg visit now)

theorem storedAt_store (cfg : Config) (visit : Visit) (clearReauth : Bool) (now : ℤ)
    (items : Items) :
    StoredAt cfg visit items.authContext
      (storeCurrentSessionRiskContext cfg visit clearReauth now items) :=
  ⟨rfl, now, rfl⟩

/-- A stable request leaves the fingerprint and the hashes of the context. -/
theorem StoredAt.touch {cfg : Config} {visit : Visit} {authContext : String} {items : Items}
    (h : StoredAt cfg visit authContext items) (cfg' : Config) (visit' : Visit) (now : ℤ) :
    StoredAt cfg visit authContext (touchSessionRiskContext cfg' visit' now items) ∧
      (touchSessionRiskContext cfg' visit' now items).authContext = items.authContext ∧
      (touchSessionRiskContext cfg' visit' now items).riskReauthRequired =
        items.riskReauthRequired ∧
      (touchSessionRiskContext cfg' visit' now items).userId = items.userId := by
  obtain ⟨earlier, hcontext⟩ := h.context
  unfold touchSessionRiskContext
  rw [hcontext]
  exact ⟨⟨h.fingerprint, now, rfl⟩, rfl, rfl, rfl⟩

/-- The action is let through. -/
def LetThrough (cfg : Config) (visit : Visit) (auditWritten : Bool) (st : State) : Prop :=
  (st.requireStableSessionForSensitiveAction cfg visit auditWritten).history =
    .stable st.session.sid :: st.history

section Checks

variable {Key : Type} {digest : Key → String → String} {base : Config} {text : AgentText}
  {keys keys' : SessionKeys Key} {visit visit' : Visit} {authContext : String} {items : Items}

theorem matchesHmac_iff {expected message : String} :
    (base.withKeys text digest keys).matchesHmac expected message = true ↔
      ∃ key ∈ keys.configuredKeys, expected = digest key message := by
  show (keys.configuredKeys.any fun key => decide (expected = digest key message)) = true ↔ _
  simp

/-- A hash of the context that matches was made of the same value, with a key that is
still there. -/
theorem eq_of_riskContextHashMatches (hdigest : CollisionFree digest) {label value value' : String}
    (h : riskContextHashMatches (base.withKeys text digest keys')
      (riskContextHash (base.withKeys text digest keys) label value) label value' = true) :
    keys.active ∈ keys'.configuredKeys ∧ value = value' := by
  obtain ⟨-, hmatches⟩ := Bool.and_eq_true_iff.mp h
  obtain ⟨key, hkey, heq⟩ := matchesHmac_iff.mp hmatches
  obtain ⟨hactive, hmessage⟩ := hdigest.inj heq
  refine ⟨hactive ▸ hkey, ?_⟩
  unfold riskMessage at hmessage
  exact (String.append_right_inj _).mp hmessage

/-- A stable request comes from the same network, and the key of the stored values is
still there. -/
theorem network_of_stable (hdigest : CollisionFree digest)
    (hstored : StoredAt (base.withKeys text digest keys) visit authContext items)
    (hstable : sessionRiskContextChanges (base.withKeys text digest keys') visit' items = []) :
    keys.active ∈ keys'.configuredKeys ∧
      base.normalizedIpContext visit.remoteAddr = base.normalizedIpContext visit'.remoteAddr := by
  obtain ⟨now, hcontext⟩ := hstored.context
  unfold sessionRiskContextChanges at hstable
  rw [hcontext] at hstable
  dsimp only at hstable
  have hversion : (currentSessionRiskContext (base.withKeys text digest keys) visit now).version =
      sessionRiskContextVersion := rfl
  rw [if_neg (not_not_intro hversion)] at hstable
  have hnetwork := (List.append_eq_nil_iff.mp (List.append_eq_nil_iff.mp hstable).1).1
  split at hnetwork
  · next hmatches => exact eq_of_riskContextHashMatches hdigest hmatches
  · cases hnetwork

theorem changes_of_severity {cfg : Config} {changes : List Signal}
    (h : sessionRiskSeverity cfg changes = .stable) : changes = [] := by
  unfold sessionRiskSeverity at h
  split at h
  · assumption
  all_goals
    exfalso
    revert h
    repeat' split
    all_goals exact nofun

/-- The messages of two requests from one network. -/
theorem riskMessage_inj {authContext' : String} (items : Items)
    (hnetwork : base.normalizedIpContext visit.remoteAddr =
      base.normalizedIpContext visit'.remoteAddr) :
    currentSessionRiskMessage (base.withKeys text digest keys) visit
        { items with authContext := authContext } =
      currentSessionRiskMessage (base.withKeys text digest keys') visit'
        { items with authContext := authContext' } ↔
    text.userAgentFingerprint visit.agent = text.userAgentFingerprint visit'.agent ∧
      authContext = authContext' := by
  have hmessage (network fingerprint context : String) :
      "|".intercalate [network, fingerprint, context] =
        network ++ "|" ++ (fingerprint ++ ("|" ++ context)) := by
    simp [String.intercalate_cons_cons, String.append_assoc]
  show "|".intercalate [base.normalizedIpContext visit.remoteAddr, _, _] =
    "|".intercalate [base.normalizedIpContext visit'.remoteAddr, _, _] ↔ _
  rw [hmessage, hmessage, hnetwork, String.append_right_inj]
  constructor
  · intro heq
    have hlists : (text.userAgentFingerprint visit.agent).toList ++ ("|" ++ authContext).toList =
        (text.userAgentFingerprint visit'.agent).toList ++ ("|" ++ authContext').toList := by
      rw [← String.toList_append, ← String.toList_append]
      exact congrArg String.toList heq
    have hlength : (text.userAgentFingerprint visit.agent).toList.length =
        (text.userAgentFingerprint visit'.agent).toList.length := by
      rw [String.length_toList, String.length_toList, length_userAgentFingerprint,
        length_userAgentFingerprint]
    obtain ⟨hagent, hrest⟩ := List.append_inj hlists hlength
    exact ⟨String.toList_inj.mp hagent,
      (String.append_right_inj _).mp (String.toList_inj.mp hrest)⟩
  · rintro ⟨hagent, hcontext⟩
    show text.userAgentFingerprint _ ++ _ = text.userAgentFingerprint _ ++ _
    rw [hagent, hcontext]

/-! ### Sensitive actions -/

variable {st : State} {auditWritten : Bool}

theorem letThrough_of_eq {cfg : Config} {stored : String}
    (huser : st.session.items.userId.isSome) (hflag : st.session.items.riskReauthRequired = false)
    (hstored : st.session.items.riskFingerprint = some stored)
    (heq : stored = currentSessionRiskFingerprint cfg visit st.session.items) :
    LetThrough cfg visit auditWritten st := by
  unfold LetThrough State.requireStableSessionForSensitiveAction
  dsimp only
  rw [hflag, if_neg Bool.false_ne_true, hstored]
  dsimp only
  rw [if_pos huser, if_pos huser, if_pos heq]
  split <;> rfl

/-- Without a pending flag, the action is let through exactly when the stored fingerprint
was made of the current message with a key that is still there. -/
theorem letThrough_iff (hdigest : CollisionFree digest) (huser : st.session.items.userId.isSome)
    (hflag : st.session.items.riskReauthRequired = false) {message : String}
    (hstored : st.session.items.riskFingerprint = some (digest keys.active message))
    (hkey : keys.active ∈ keys'.configuredKeys) :
    LetThrough (base.withKeys text digest keys') visit auditWritten st ↔
      message = currentSessionRiskMessage (base.withKeys text digest keys') visit
        st.session.items := by
  constructor
  · intro hthrough
    refine Decidable.byContradiction fun hne => ?_
    have hcurrent : ¬digest keys.active message =
        currentSessionRiskFingerprint (base.withKeys text digest keys') visit st.session.items :=
      fun heq => hne (hdigest.inj heq).2
    have hmatches : ¬(base.withKeys text digest keys').matchesHmac (digest keys.active message)
        (currentSessionRiskMessage (base.withKeys text digest keys') visit st.session.items) =
          true := by
      intro heq
      obtain ⟨key, -, heq⟩ := matchesHmac_iff.mp heq
      exact hne (hdigest.inj heq).2
    unfold LetThrough State.requireStableSessionForSensitiveAction at hthrough
    dsimp only at hthrough
    rw [hflag, if_neg Bool.false_ne_true, hstored] at hthrough
    dsimp only at hthrough
    rw [if_neg (hdigest.ne_empty _ _), if_neg hcurrent, if_neg hmatches] at hthrough
    -- the audit event leaves the history alone
    have hhistory : st.history = .stable st.session.sid :: st.history := by
      unfold State.auditEvent at hthrough
      split at hthrough <;> exact hthrough
    exact List.cons_ne_self _ _ hhistory.symm
  · intro heq
    have hmatches : (base.withKeys text digest keys').matchesHmac (digest keys.active message)
        (currentSessionRiskMessage (base.withKeys text digest keys') visit st.session.items) =
          true := matchesHmac_iff.mpr ⟨keys.active, hkey, by rw [heq]⟩
    unfold LetThrough State.requireStableSessionForSensitiveAction
    dsimp only
    rw [hflag, if_neg Bool.false_ne_true, hstored]
    dsimp only
    rw [if_neg (hdigest.ne_empty _ _), if_pos hmatches, if_pos huser, if_pos huser]
    split <;> rfl

theorem not_isNone_of_isSome {α : Type} {o : Option α} (h : o.isSome = true) :
    ¬o.isNone = true := by
  cases o with
  | none => cases h
  | some _ => exact Bool.false_ne_true

/-- A stable request. -/
theorem letThrough_stable_iff (hdigest : CollisionFree digest)
    (huser : st.session.items.userId.isSome)
    (hflag : st.session.items.riskReauthRequired = false)
    (hstored : StoredAt (base.withKeys text digest keys) visit authContext st.session.items)
    (hstable : sessionRiskSeverity (base.withKeys text digest keys') (sessionRiskContextChanges
      (base.withKeys text digest keys') visit' st.session.items) = .stable) :
    LetThrough (base.withKeys text digest keys') visit' auditWritten
        (st.enforceAuthenticatedSessionContext (base.withKeys text digest keys') visit').1 ↔
      text.userAgentFingerprint visit.agent = text.userAgentFingerprint visit'.agent ∧
        authContext = st.session.items.authContext := by
  obtain ⟨hkey, hnetwork⟩ := network_of_stable hdigest hstored (changes_of_severity hstable)
  obtain ⟨htouched, hcontext, hreauth, hsame⟩ :=
    hstored.touch (base.withKeys text digest keys') visit' st.now
  have henforce :
      (st.enforceAuthenticatedSessionContext (base.withKeys text digest keys') visit').1 =
        st.update (touchSessionRiskContext (base.withKeys text digest keys') visit' st.now) := by
    unfold State.enforceAuthenticatedSessionContext
    rw [if_neg (not_isNone_of_isSome huser), hstable]
  rw [henforce, letThrough_iff hdigest (hsame ▸ huser) (hreauth.trans hflag)
    htouched.fingerprint hkey]
  show _ = currentSessionRiskMessage _ visit' (touchSessionRiskContext _ visit' st.now _) ↔ _
  rw [← hcontext]
  exact riskMessage_inj _ hnetwork

/-- A low request stores a new fingerprint. -/
theorem letThrough_low {cfg : Config} (huser : st.session.items.userId.isSome)
    (hlow : sessionRiskSeverity cfg (sessionRiskContextChanges cfg visit st.session.items) = .low) :
    LetThrough cfg visit auditWritten (st.enforceAuthenticatedSessionContext cfg visit).1 := by
  have henforce : (st.enforceAuthenticatedSessionContext cfg visit).1 =
      (st.auditEvent visit.auditWritten).update
        (storeCurrentSessionRiskContext cfg visit true st.now) := by
    unfold State.enforceAuthenticatedSessionContext
    rw [if_neg (not_isNone_of_isSome huser), hlow]
  have hsession : (st.auditEvent visit.auditWritten).session = st.session := by
    unfold State.auditEvent
    split <;> rfl
  rw [henforce]
  refine letThrough_of_eq ?_ rfl rfl rfl
  show (st.auditEvent visit.auditWritten).session.items.userId.isSome
  rw [hsession]
  exact huser

variable (keys' visit' auditWritten) in
/-- A session that stores fingerprint and context of one visit. Its sensitive actions are
let through in every stable and in every low request exactly if a stable one sends a user
agent of the stored fingerprint and the session is authenticated as it was. -/
theorem riskChecks_agree_iff (hdigest : CollisionFree digest)
    (huser : st.session.items.userId.isSome)
    (hflag : st.session.items.riskReauthRequired = false)
    (hstored : StoredAt (base.withKeys text digest keys) visit authContext st.session.items) :
    let cfg := base.withKeys text digest keys'
    let severity := sessionRiskSeverity cfg (sessionRiskContextChanges cfg visit' st.session.items)
    (severity = .stable ∨ severity = .low →
      LetThrough cfg visit' auditWritten (st.enforceAuthenticatedSessionContext cfg visit').1) ↔
    (severity = .stable →
      text.userAgentFingerprint visit.agent = text.userAgentFingerprint visit'.agent ∧
        authContext = st.session.items.authContext) := by
  intro cfg severity
  constructor
  · intro hagree hstable
    exact (letThrough_stable_iff hdigest huser hflag hstored hstable).mp (hagree (.inl hstable))
  · rintro hcond (hstable | hlow)
    · exact (letThrough_stable_iff hdigest huser hflag hstored hstable).mpr (hcond hstable)
    · exact letThrough_low huser hlow

end Checks

/-! ### A user agent in another case -/

def sampleAgentText : AgentText where
  casefold value := String.ofList (value.toList.map Char.toLower)
  sha256Hex value :=
    if value = "Mozilla/5.0" then
      "1066b48224bb188ceb955605f4fcff98893be2688d7e965afb04d36d17e7f0d7"
    else if value = "mozilla/5.0" then
      "e865848f4e4c4f53f50699b3ae9e3ad485f6465b0e20226565ff39c47e1df064"
    else String.ofList (List.replicate 64 '0')
  length_sha256Hex value := by
    split
    · rfl
    split
    · rfl
    · rw [String.length_ofList, List.length_replicate]

def sampleDigest (key : Char) (message : String) : String := String.ofList (key :: message.toList)

theorem collisionFree_sampleDigest : CollisionFree sampleDigest where
  ne_empty key message h := by
    have hlist := congrArg String.toList h
    rw [sampleDigest, String.toList_ofList] at hlist
    cases hlist
  inj h := by
    have hlist := congrArg String.toList h
    rw [sampleDigest, sampleDigest, String.toList_ofList, String.toList_ofList] at hlist
    obtain ⟨hkey, hmessage⟩ := List.cons.inj hlist
    exact ⟨hkey, String.toList_inj.mp hmessage⟩

def sampleRiskBase : Config where
  adminMode := false
  sessionInactivitySeconds := 900
  sessionAbsoluteLifetimeSeconds := 28800
  pendingMfaMaxAgeSeconds := 300
  normalizedIpContext _ := "203.0.113.0/24"
  normalizedUserAgent := id
  userAgentFamily _ := "mozilla"
  userAgentFingerprint := id
  activeHmacHex := id
  matchesHmac _ _ := false

def sampleRiskConfig : Config :=
  sampleRiskBase.withKeys sampleAgentText sampleDigest ⟨'k', []⟩

def sampleAgentVisit (userAgent : String) : Visit :=
  ⟨"203.0.113.7", userAgent, false, false, false, true, false, 0, 0, true, .committed, false⟩

/-- A session that was authenticated with this user agent. -/
def sampleRiskState (userAgent : String) : State where
  clock := 0
  records := []
  pending := []
  session :=
    ⟨0, storeCurrentSessionRiskContext sampleRiskConfig (sampleAgentVisit userAgent) true 0
      { Items.empty with userId := some 1, authContext := "password+totp" }, false⟩
  nextSid := 1
  cookie := some 0
  history := []

theorem storedAt_sampleRiskState (userAgent : String) :
    StoredAt (sampleRiskBase.withKeys sampleAgentText sampleDigest ⟨'k', []⟩)
      (sampleAgentVisit userAgent) "password+totp" (sampleRiskState userAgent).session.items :=
  storedAt_store sampleRiskConfig (sampleAgentVisit userAgent) true 0
    { Items.empty with userId := some 1, authContext := "password+totp" }

/-- The same user agent again. -/
theorem riskChecks_agree_sameAgent :
    LetThrough sampleRiskConfig (sampleAgentVisit "Mozilla/5.0") true
      ((sampleRiskState "Mozilla/5.0").enforceAuthenticatedSessionContext sampleRiskConfig
        (sampleAgentVisit "Mozilla/5.0")).1 := by
  have hagree := riskChecks_agree_iff ⟨'k', []⟩ (sampleAgentVisit "Mozilla/5.0") true
    collisionFree_sampleDigest rfl rfl (storedAt_sampleRiskState "Mozilla/5.0")
  exact hagree.mpr (fun _ => ⟨rfl, rfl⟩) (.inl (by decide +kernel))

/-- The user agent in lower case: the hook finds the request stable, and the action is
refused. -/
theorem riskChecks_differ :
    sessionRiskSeverity sampleRiskConfig (sessionRiskContextChanges sampleRiskConfig
        (sampleAgentVisit "mozilla/5.0") (sampleRiskState "Mozilla/5.0").session.items) =
      .stable ∧
    ¬LetThrough sampleRiskConfig (sampleAgentVisit "mozilla/5.0") true
      ((sampleRiskState "Mozilla/5.0").enforceAuthenticatedSessionContext sampleRiskConfig
        (sampleAgentVisit "mozilla/5.0")).1 := by
  have hstable : sessionRiskSeverity sampleRiskConfig (sessionRiskContextChanges sampleRiskConfig
      (sampleAgentVisit "mozilla/5.0") (sampleRiskState "Mozilla/5.0").session.items) =
        .stable := by decide +kernel
  have hagent : sampleAgentText.userAgentFingerprint (sampleAgentVisit "Mozilla/5.0").agent ≠
      sampleAgentText.userAgentFingerprint (sampleAgentVisit "mozilla/5.0").agent := by
    decide +kernel
  refine ⟨hstable, fun hthrough => hagent ?_⟩
  exact ((letThrough_stable_iff collisionFree_sampleDigest rfl rfl
    (storedAt_sampleRiskState "Mozilla/5.0") hstable).mp hthrough).1

end SitBank.Browser
