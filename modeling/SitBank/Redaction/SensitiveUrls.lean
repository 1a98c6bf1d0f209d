import SitBank.Python.Find
import SitBank.Redaction.Metadata

/-!
URLs with credentials and webhook URLs in texts (`app/security/sensitive_values.py`).

The scanner goes through all places where a scheme stands, and looks at what follows it,
character by character. What it finds are exactly the texts with a piece of one of two forms
(`CredentialUrl`, `WebhookUrl`), of which the first does not follow a word character.
-/

namespace SitBank.Redaction

open SitBank.Python PyStr.strip

/-! ### The scanner -/

/-- `str.isalnum` of a character, which is false for the spaces of `str.isspace`. -/
structure Alphabet where
  isalnum : ℕ → Bool
  isalnum_ascii : ∀ n < 128, isalnum n =
    ((48 ≤ n && n ≤ 57) || (65 ≤ n && n ≤ 90) || (97 ≤ n && n ≤ 122))
  isalnum_space : ∀ n, spaceCode n = true → isalnum n = false

def credentialSchemes : List PyStr :=
  ["postgres://", "postgresql://", "redis://"].map PyStr.ofString

def webhookScheme : PyStr := .ofString "https://"

def webhookHosts : List PyStr := ["discord.com", "discordapp.com"].map PyStr.ofString

def webhookPathPrefixes : List PyStr := ["webhooks/", "services/"].map PyStr.ofString

/-- `text.translate(_ASCII_LOWER_TRANSLATION)`. -/
def asciiLower (text : PyStr) : PyStr := text.map lowerCode

section Scanner

variable (t : Alphabet)

def isWordCharacter (c : ℕ) : Bool := c = 95 || t.isalnum c

/-- The loop of `_authority_contains_password`. -/
def authorityContainsPassword : Bool → PyStr → Bool
  | _, [] => false
  | hasUserinfoSeparator, c :: s =>
      if spaceCode c ∨ c = 47 then false
      else if c = 64 then hasUserinfoSeparator
      else authorityContainsPassword (hasUserinfoSeparator || c = 58) s

/-- `_path_start`, for the text from `index` on. -/
def pathStart : ℕ → PyStr → Option ℕ
  | _, [] => none
  | index, c :: s =>
      if spaceCode c then none else if c = 47 then some (index + 1) else pathStart (index + 1) s

def isWebhookHost (host : PyStr) : Bool :=
  decide (PyStr.ofString "hooks" <:+: host) || host ∈ webhookHosts

/-- The loop of `_has_webhook_path`. -/
def hasWebhookSecret (text folded : PyStr) (start : ℕ) : Bool :=
  match webhookPathPrefixes.find? fun part => part.isPrefixOf (folded.drop start) with
  | none => false
  | some part => (text[start + part.length]?).any fun c => !spaceCode c

def hasWebhookPath (text folded : PyStr) (start : ℕ) : Bool :=
  hasWebhookSecret text folded
    (if (PyStr.ofString "api/").isPrefixOf (folded.drop start) then start + 4 else start)

def containsCredentialUrl (text : PyStr) : Bool :=
  credentialSchemes.any fun scheme =>
    searchLoop scheme (asciiLower text) (fun i =>
      (i = 0 || !(text[i - 1]?).any (isWordCharacter t)) &&
        authorityContainsPassword false (text.drop (i + scheme.length))) (text.length + 1) 0

/-- What the loop of `contains_webhook_url` tests. -/
def webhookAt (text : PyStr) (i : ℕ) : Bool :=
  let authorityStart := i + webhookScheme.length
  match pathStart authorityStart (text.drop authorityStart) with
  | none => false
  | some start =>
      isWebhookHost (((asciiLower text).drop authorityStart).take (start - 1 - authorityStart)) &&
        hasWebhookPath text (asciiLower text) start

def containsWebhookUrl (text : PyStr) : Bool :=
  searchLoop webhookScheme (asciiLower text) (webhookAt text) (text.length + 1) 0

def containsSensitiveUrl (text : PyStr) : Bool :=
  containsCredentialUrl t text || containsWebhookUrl text

end Scanner

/-! ### What it looks for -/

/-- No spaces in the text. -/
def Solid (text : PyStr) : Prop := ∀ c ∈ text, spaceCode c = false

/-- A scheme, a user and a password, up to the host. -/
def CredentialUrl (url : PyStr) : Prop :=
  ∃ scheme user password, url = scheme ++ (user ++ 58 :: (password ++ [64])) ∧
    asciiLower scheme ∈ credentialSchemes ∧ Solid (user ++ password) ∧
    47 ∉ user ++ password ∧ 64 ∉ user ++ password

/-- The URL of a webhook up to the first character of its secret. -/
def WebhookUrl (url : PyStr) : Prop :=
  ∃ scheme host lead part secret, url = scheme ++ (host ++ 47 :: (lead ++ (part ++ [secret]))) ∧
    asciiLower scheme = webhookScheme ∧ Solid host ∧ 47 ∉ host ∧
    isWebhookHost (asciiLower host) = true ∧
    (lead = [] ∨ asciiLower lead = .ofString "api/") ∧ asciiLower part ∈ webhookPathPrefixes ∧
    spaceCode secret = false

/-- A text that does not end in a word. -/
def EndsWord (t : Alphabet) (text : PyStr) : Prop :=
  ∃ c, text.getLast? = some c ∧ isWordCharacter t c = true

def SensitiveUrl (t : Alphabet) (text : PyStr) : Prop :=
  ∃ before url rest, text = before ++ (url ++ rest) ∧
    ((¬EndsWord t before ∧ CredentialUrl url) ∨ WebhookUrl url)

/-! ### Characters after the scheme -/

theorem solid_append {a b : PyStr} : Solid (a ++ b) ↔ Solid a ∧ Solid b := by
  simp only [Solid, List.mem_append, or_imp, forall_and]

theorem solid_cons {c : ℕ} {s : PyStr} : Solid (c :: s) ↔ spaceCode c = false ∧ Solid s := by
  simp only [Solid, List.mem_cons, forall_eq_or_imp]

/-- What precedes the first `@` has no space and no slash, and a separator. -/
theorem authorityContainsPassword_iff {separated : Bool} {s : PyStr} :
    authorityContainsPassword separated s = true ↔ ∃ info rest, s = info ++ 64 :: rest ∧
      Solid info ∧ 47 ∉ info ∧ 64 ∉ info ∧ (separated = true ∨ 58 ∈ info) := by
  induction s generalizing separated with
  | nil => simp [authorityContainsPassword]
  | cons c s ih =>
      rw [authorityContainsPassword]
      split
      · next hstop =>
          refine ⟨fun h => absurd h Bool.false_ne_true, ?_⟩
          rintro ⟨info, rest, hs, hsolid, hslash, -⟩
          cases info with
          | nil =>
              obtain ⟨rfl, -⟩ := List.cons.inj hs
              exact absurd hstop (by decide)
          | cons d info =>
              obtain ⟨rfl, -⟩ := List.cons.inj hs
              rw [(solid_cons.mp hsolid).1] at hstop
              rw [List.mem_cons, not_or] at hslash
              exact absurd hstop (by simpa using fun h : c = 47 => hslash.1 h.symm)
      · next hgo =>
          rw [not_or, Bool.not_eq_true] at hgo
          split
          · next hat =>
              subst hat
              constructor
              · exact fun h => ⟨[], s, rfl, fun _ h => (by cases h), List.not_mem_nil,
                  List.not_mem_nil, .inl h⟩
              · rintro ⟨info, rest, hs, -, -, hno, h⟩
                cases info with
                | nil => exact h.resolve_right List.not_mem_nil
                | cons d info => exact absurd (List.cons.inj hs).1 fun h => hno (h ▸ .head _)
          · next hat =>
              rw [ih]
              constructor
              · rintro ⟨info, rest, rfl, hsolid, hslash, hno, h⟩
                refine ⟨c :: info, rest, rfl, solid_cons.mpr ⟨hgo.1, hsolid⟩, ?_, ?_, ?_⟩
                · simpa [eq_comm] using ⟨hgo.2, hslash⟩
                · simpa [eq_comm] using ⟨hat, hno⟩
                · rw [Bool.or_eq_true, decide_eq_true_eq] at h
                  rcases h with (h | rfl) | h
                  · exact .inl h
                  · exact .inr (.head _)
                  · exact .inr (.tail _ h)
              · rintro ⟨info, rest, hs, hsolid, hslash, hno, h⟩
                cases info with
                | nil => exact absurd (List.cons.inj hs).1 hat
                | cons d info =>
                    obtain ⟨rfl, rfl⟩ := List.cons.inj hs
                    refine ⟨info, rest, rfl, (solid_cons.mp hsolid).2,
                      fun h' => hslash (.tail _ h'),
                      fun h' => hno (.tail _ h'), ?_⟩
                    rw [Bool.or_eq_true, decide_eq_true_eq]
                    rcases h with h | h
                    · exact .inl (.inl h)
                    · rcases List.mem_cons.mp h with h | h
                      · exact .inl (.inr h.symm)
                      · exact .inr h

theorem pathStart_eq_some {index start : ℕ} {s : PyStr} :
    pathStart index s = some start ↔ ∃ host rest, s = host ++ 47 :: rest ∧ Solid host ∧
      47 ∉ host ∧ start = index + host.length + 1 := by
  induction s generalizing index with
  | nil => simp [pathStart]
  | cons c s ih =>
      rw [pathStart]
      split
      · next hspace =>
          refine ⟨fun h => (by cases h), ?_⟩
          rintro ⟨host, rest, hs, hsolid, -⟩
          cases host with
          | nil =>
              obtain ⟨rfl, -⟩ := List.cons.inj hs
              exact absurd hspace (by decide)
          | cons d host =>
              obtain ⟨rfl, -⟩ := List.cons.inj hs
              exact absurd hspace (Bool.not_eq_true _ ▸ (solid_cons.mp hsolid).1)
      · next hspace =>
          split
          · next hslash =>
              subst hslash
              constructor
              · intro h
                cases h
                exact ⟨[], s, rfl, fun _ h => (by cases h), List.not_mem_nil, rfl⟩
              · rintro ⟨host, rest, hs, -, hno, rfl⟩
                cases host with
                | nil => rfl
                | cons d host => exact absurd (List.cons.inj hs).1 fun h => hno (h ▸ .head _)
          · next hslash =>
              rw [ih]
              constructor
              · rintro ⟨host, rest, rfl, hsolid, hno, rfl⟩
                refine ⟨c :: host, rest, rfl, solid_cons.mpr ⟨Bool.eq_false_iff.mpr hspace, hsolid⟩,
                  ?_, ?_⟩
                · simpa [eq_comm] using ⟨hslash, hno⟩
                · rw [List.length_cons]
                  omega
              · rintro ⟨host, rest, hs, hsolid, hno, rfl⟩
                cases host with
                | nil => exact absurd (List.cons.inj hs).1 hslash
                | cons d host =>
                    obtain ⟨rfl, rfl⟩ := List.cons.inj hs
                    refine ⟨host, rest, rfl, (solid_cons.mp hsolid).2, fun h => hno (.tail _ h), ?_⟩
                    rw [List.length_cons]
                    omega

/-! ### Places -/

/-- The scanner goes to every place where the scheme stands in either case. -/
theorem search_iff {scheme text : PyStr} (hscheme : scheme ≠ []) (test : ℕ → Bool) :
    searchLoop scheme (asciiLower text) test (text.length + 1) 0 = true ↔
      ∃ before piece rest, text = before ++ (piece ++ rest) ∧ asciiLower piece = scheme ∧
        test before.length = true := by
  rw [searchLoop_iff hscheme test (by simp [asciiLower])]
  constructor
  · rintro ⟨i, -, hprefix, htest⟩
    obtain ⟨before, piece, rest, htext, rfl, hpiece⟩ := (prefix_drop_map_iff hscheme).mp hprefix
    exact ⟨before, piece, rest, by rw [htext, List.append_assoc], hpiece, htest⟩
  · rintro ⟨before, piece, rest, rfl, hpiece, htest⟩
    refine ⟨before.length, Nat.zero_le _, (prefix_drop_map_iff hscheme).mpr ?_, htest⟩
    exact ⟨before, piece, rest, (List.append_assoc ..).symm, rfl, hpiece⟩

theorem asciiLower_length (text : PyStr) : (asciiLower text).length = text.length :=
  List.length_map _

theorem drop_piece {before piece rest : PyStr} {n : ℕ} (hn : n = piece.length) :
    (before ++ (piece ++ rest)).drop (before.length + n) = rest := by
  rw [← List.drop_drop, List.drop_left, hn, List.drop_left]

theorem endsWord_iff {t : Alphabet} {before after : PyStr} :
    (before.length = 0 || !((before ++ after)[before.length - 1]?).any (isWordCharacter t)) = true ↔
      ¬EndsWord t before := by
  cases before using List.reverseRecOn with
  | nil => simp [EndsWord]
  | append_singleton before c =>
      have hget : ((before ++ [c]) ++ after)[(before ++ [c]).length - 1]? = some c := by simp
      rw [hget]
      simp [EndsWord]

theorem mem_credentialSchemes {scheme : PyStr} (h : scheme ∈ credentialSchemes) : scheme ≠ [] := by
  rintro rfl
  exact absurd h (by decide +kernel)

/-- What is tested at the place of a scheme. -/
theorem authority_iff {rest : PyStr} : authorityContainsPassword false rest = true ↔
    ∃ user password after, rest = user ++ 58 :: (password ++ 64 :: after) ∧
      Solid (user ++ password) ∧ 47 ∉ user ++ password ∧ 64 ∉ user ++ password := by
  rw [authorityContainsPassword_iff]
  constructor
  · rintro ⟨info, after, rfl, hsolid, hslash, hat, h⟩
    obtain ⟨user, password, rfl⟩ := List.append_of_mem (h.resolve_left Bool.false_ne_true)
    refine ⟨user, password, after, by simp, ?_, ?_, ?_⟩
    · exact solid_append.mpr ⟨(solid_append.mp hsolid).1,
        (solid_cons.mp (solid_append.mp hsolid).2).2⟩
    · simp only [List.mem_append, List.mem_cons, not_or] at hslash ⊢
      exact ⟨hslash.1, hslash.2.2⟩
    · simp only [List.mem_append, List.mem_cons, not_or] at hat ⊢
      exact ⟨hat.1, hat.2.2⟩
  · rintro ⟨user, password, after, rfl, hsolid, hslash, hat⟩
    refine ⟨user ++ 58 :: password, after, by simp, ?_, ?_, ?_, .inr (by simp)⟩
    · exact solid_append.mpr ⟨(solid_append.mp hsolid).1,
        solid_cons.mpr ⟨by decide, (solid_append.mp hsolid).2⟩⟩
    · simp only [List.mem_append, List.mem_cons, not_or] at hslash ⊢
      exact ⟨hslash.1, by decide, hslash.2⟩
    · simp only [List.mem_append, List.mem_cons, not_or] at hat ⊢
      exact ⟨hat.1, by decide, hat.2⟩

theorem containsCredentialUrl_iff {t : Alphabet} {text : PyStr} :
    containsCredentialUrl t text = true ↔ ∃ before url rest, text = before ++ (url ++ rest) ∧
      ¬EndsWord t before ∧ CredentialUrl url := by
  simp only [containsCredentialUrl, List.any_eq_true]
  constructor
  · rintro ⟨scheme, hscheme, hsearch⟩
    obtain ⟨before, piece, rest, rfl, rfl, htest⟩ :=
      (search_iff (mem_credentialSchemes hscheme) _).mp hsearch
    rw [Bool.and_eq_true, endsWord_iff, drop_piece (asciiLower_length piece),
      authority_iff] at htest
    obtain ⟨hword, user, password, after, rfl, hsolid, hslash, hat⟩ := htest
    refine ⟨before, piece ++ (user ++ 58 :: (password ++ [64])), after, by simp, hword, ?_⟩
    exact ⟨piece, user, password, rfl, hscheme, hsolid, hslash, hat⟩
  · rintro ⟨before, url, rest, rfl, hword, scheme, user, password, rfl, hscheme, hsolid, hslash,
      hat⟩
    refine ⟨asciiLower scheme, hscheme, (search_iff (mem_credentialSchemes hscheme) _).mpr ?_⟩
    have htest : (before.length = 0 || !((before ++ (scheme ++ (user ++ 58 :: (password ++ [64])) ++
        rest))[before.length - 1]?).any (isWordCharacter t)) = true := endsWord_iff.mpr hword
    refine ⟨before, scheme, user ++ 58 :: (password ++ 64 :: rest), by simp, rfl, ?_⟩
    rw [Bool.and_eq_true, authority_iff]
    refine ⟨htest, user, password, rest, ?_, hsolid, hslash, hat⟩
    rw [List.append_assoc scheme, drop_piece (asciiLower_length scheme)]
    simp

/-! ### Webhooks -/

theorem asciiLower_append (a b : PyStr) : asciiLower (a ++ b) = asciiLower a ++ asciiLower b :=
  List.map_append

/-- At most one of the prefixes fits. -/
theorem webhookPathPrefixes_apart {p q rest : PyStr} (hp : p ∈ webhookPathPrefixes)
    (hq : q ∈ webhookPathPrefixes) (h : p <+: q ++ rest) : p = q := by
  simp only [webhookPathPrefixes, List.map_cons, List.map_nil, List.mem_cons, List.not_mem_nil,
    or_false] at hp hq
  rcases hp with rfl | rfl <;> rcases hq with rfl | rfl
  · rfl
  · exact absurd (List.cons_prefix_cons.mp h).1 (by decide)
  · exact absurd (List.cons_prefix_cons.mp h).1 (by decide)
  · rfl

theorem prefix_asciiLower_iff {sub text : PyStr} : sub <+: asciiLower text ↔
    ∃ piece rest, text = piece ++ rest ∧ asciiLower piece = sub := by
  constructor
  · rintro ⟨rest, hrest⟩
    obtain ⟨piece, after, rfl, hpiece, -⟩ := List.map_eq_append_iff.mp hrest.symm
    exact ⟨piece, after, rfl, hpiece⟩
  · rintro ⟨piece, rest, rfl, rfl⟩
    rw [asciiLower_append]
    exact List.prefix_append ..

theorem hasWebhookSecret_iff (before path : PyStr) :
    hasWebhookSecret (before ++ path) (asciiLower (before ++ path)) before.length = true ↔
      ∃ part secret after, path = part ++ secret :: after ∧
        asciiLower part ∈ webhookPathPrefixes ∧ spaceCode secret = false := by
  have hdrop : (asciiLower (before ++ path)).drop before.length = asciiLower path := by
    rw [asciiLower_append, List.drop_left' (asciiLower_length before)]
  unfold hasWebhookSecret
  rw [hdrop]
  constructor
  · intro h
    split at h
    · cases h
    · next part hpart =>
        have hmem := List.mem_of_find?_eq_some hpart
        have hprefix : part <+: asciiLower path :=
          List.isPrefixOf_iff_prefix.mp (List.find?_some (p := fun q : PyStr =>
            q.isPrefixOf (asciiLower path)) hpart)
        obtain ⟨piece, rest, rfl, rfl⟩ := prefix_asciiLower_iff.mp hprefix
        rw [asciiLower_length, List.getElem?_append_right (Nat.le_add_right ..),
          Nat.add_sub_cancel_left, List.getElem?_append_right (Nat.le_refl _), Nat.sub_self] at h
        cases rest with
        | nil => cases h
        | cons secret after =>
            exact ⟨piece, secret, after, rfl, hmem, by simpa using h⟩
  · rintro ⟨part, secret, after, rfl, hmem, hsecret⟩
    have hprefix : asciiLower part <+: asciiLower (part ++ secret :: after) := by
      rw [asciiLower_append]
      exact List.prefix_append ..
    split
    · next hnone =>
        exact absurd (List.isPrefixOf_iff_prefix.mpr hprefix) (List.find?_eq_none.mp hnone _ hmem)
    · next p hp =>
        have hfirst : p <+: asciiLower (part ++ secret :: after) :=
          List.isPrefixOf_iff_prefix.mp (List.find?_some (p := fun q : PyStr =>
            q.isPrefixOf (asciiLower (part ++ secret :: after))) hp)
        rw [asciiLower_append] at hfirst
        have hsame := webhookPathPrefixes_apart (List.mem_of_find?_eq_some hp) hmem hfirst
        rw [hsame, asciiLower_length, List.getElem?_append_right (Nat.le_add_right ..),
          Nat.add_sub_cancel_left, List.getElem?_append_right (Nat.le_refl _), Nat.sub_self]
        simpa using hsecret

/-- A prefix of a path is not the lead. -/
theorem not_lead {part rest : PyStr} (hmem : asciiLower part ∈ webhookPathPrefixes) :
    ¬PyStr.ofString "api/" <+: asciiLower (part ++ rest) := by
  rw [asciiLower_append]
  generalize asciiLower part = q at hmem
  simp only [webhookPathPrefixes, List.map_cons, List.map_nil, List.mem_cons, List.not_mem_nil,
    or_false] at hmem
  rcases hmem with rfl | rfl
  · exact fun h => absurd (List.cons_prefix_cons.mp h).1 (by decide)
  · exact fun h => absurd (List.cons_prefix_cons.mp h).1 (by decide)

theorem hasWebhookPath_iff (before path : PyStr) :
    hasWebhookPath (before ++ path) (asciiLower (before ++ path)) before.length = true ↔
      ∃ lead part secret after, path = lead ++ (part ++ secret :: after) ∧
        (lead = [] ∨ asciiLower lead = .ofString "api/") ∧
        asciiLower part ∈ webhookPathPrefixes ∧ spaceCode secret = false := by
  have hdrop : (asciiLower (before ++ path)).drop before.length = asciiLower path := by
    rw [asciiLower_append, List.drop_left' (asciiLower_length before)]
  have hlead : ∀ lead rest, path = lead ++ rest → asciiLower lead = .ofString "api/" →
      (hasWebhookSecret (before ++ path) (asciiLower (before ++ path)) (before.length + 4) = true ↔
        ∃ part secret after, rest = part ++ secret :: after ∧
          asciiLower part ∈ webhookPathPrefixes ∧ spaceCode secret = false) := by
    rintro lead rest rfl hlower
    have hlength : lead.length = 4 := by
      rw [← asciiLower_length, hlower]
      rfl
    have hsecret := hasWebhookSecret_iff (before ++ lead) rest
    rwa [List.append_assoc, List.length_append, hlength] at hsecret
  unfold hasWebhookPath
  rw [hdrop]
  split
  · next h =>
      obtain ⟨lead, rest, rfl, hlower⟩ :=
        prefix_asciiLower_iff.mp (List.isPrefixOf_iff_prefix.mp h)
      rw [hlead lead rest rfl hlower]
      constructor
      · rintro ⟨part, secret, after, rfl, hpart⟩
        exact ⟨lead, part, secret, after, rfl, .inr hlower, hpart⟩
      · rintro ⟨lead', part, secret, after, heq, hlead', hmem, hsecret⟩
        rcases hlead' with rfl | hlower'
        · rw [List.nil_append] at heq
          rw [heq] at h
          exact absurd (List.isPrefixOf_iff_prefix.mp h) (not_lead hmem)
        · have hlength : lead.length = lead'.length := by
            rw [← asciiLower_length lead, ← asciiLower_length lead', hlower, hlower']
          obtain ⟨-, rfl⟩ := List.append_inj heq hlength
          exact ⟨part, secret, after, rfl, hmem, hsecret⟩
  · next h =>
      rw [hasWebhookSecret_iff]
      constructor
      · rintro ⟨part, secret, after, rfl, hpart⟩
        exact ⟨[], part, secret, after, rfl, .inl rfl, hpart⟩
      · rintro ⟨lead, part, secret, after, rfl, hlead', hpart⟩
        rcases hlead' with rfl | hlower
        · exact ⟨part, secret, after, rfl, hpart⟩
        · exact absurd (List.isPrefixOf_iff_prefix.mpr
            (prefix_asciiLower_iff.mpr ⟨lead, _, rfl, hlower⟩)) h

theorem webhookAt_iff {before scheme rest : PyStr} (hscheme : asciiLower scheme = webhookScheme) :
    webhookAt (before ++ (scheme ++ rest)) before.length = true ↔ ∃ host path,
      rest = host ++ 47 :: path ∧ Solid host ∧ 47 ∉ host ∧
        isWebhookHost (asciiLower host) = true ∧ ∃ lead part secret after,
          path = lead ++ (part ++ secret :: after) ∧
          (lead = [] ∨ asciiLower lead = .ofString "api/") ∧
          asciiLower part ∈ webhookPathPrefixes ∧ spaceCode secret = false := by
  have hlength : webhookScheme.length = scheme.length := by rw [← hscheme, asciiLower_length]
  have hlower : (asciiLower (before ++ (scheme ++ rest))).drop
      (before.length + webhookScheme.length) = asciiLower rest := by
    rw [asciiLower, ← List.map_drop, drop_piece hlength]
    rfl
  -- the place of the path is where the scheme, the host and the slash end
  have hpath : ∀ host path, rest = host ++ 47 :: path →
      hasWebhookPath (before ++ (scheme ++ rest)) (asciiLower (before ++ (scheme ++ rest)))
          (before.length + webhookScheme.length + host.length + 1) =
        hasWebhookPath ((before ++ (scheme ++ (host ++ [47]))) ++ path)
          (asciiLower ((before ++ (scheme ++ (host ++ [47]))) ++ path))
          (before ++ (scheme ++ (host ++ [47]))).length := by
    rintro host path rfl
    have htext : before ++ (scheme ++ (host ++ 47 :: path)) =
        before ++ (scheme ++ (host ++ [47])) ++ path := by simp
    have hstart : before.length + webhookScheme.length + host.length + 1 =
        (before ++ (scheme ++ (host ++ [47]))).length := by
      simp only [List.length_append, List.length_singleton, hlength]
      omega
    rw [htext, hstart]
  have hhost : ∀ host path, rest = host ++ 47 :: path → (asciiLower rest).take
      (before.length + webhookScheme.length + host.length + 1 - 1 -
        (before.length + webhookScheme.length)) = asciiLower host := by
    rintro host path rfl
    rw [asciiLower_append, Nat.add_sub_cancel, Nat.add_sub_cancel_left,
      List.take_left' (asciiLower_length host)]
  unfold webhookAt
  dsimp only
  rw [drop_piece hlength, hlower]
  constructor
  · intro h
    split at h
    · cases h
    · next start hstart =>
        obtain ⟨host, path, hrest, hsolid, hslash, rfl⟩ := pathStart_eq_some.mp hstart
        rw [hhost host path hrest, hpath host path hrest, Bool.and_eq_true,
          hasWebhookPath_iff] at h
        exact ⟨host, path, hrest, hsolid, hslash, h⟩
  · rintro ⟨host, path, hrest, hsolid, hslash, h⟩
    have hstart : pathStart (before.length + webhookScheme.length) rest =
        some (before.length + webhookScheme.length + host.length + 1) :=
      pathStart_eq_some.mpr ⟨host, path, hrest, hsolid, hslash, rfl⟩
    rw [hstart]
    dsimp only
    rw [hhost host path hrest, hpath host path hrest, Bool.and_eq_true, hasWebhookPath_iff]
    exact h

theorem containsWebhookUrl_iff {text : PyStr} : containsWebhookUrl text = true ↔
    ∃ before url rest, text = before ++ (url ++ rest) ∧ WebhookUrl url := by
  have hne : webhookScheme ≠ [] := by decide +kernel
  rw [containsWebhookUrl, search_iff hne]
  constructor
  · rintro ⟨before, scheme, rest, rfl, hscheme, htest⟩
    obtain ⟨host, path, rfl, hsolid, hslash, hhost, lead, part, secret, after, rfl, hlead, hpart,
      hsecret⟩ := (webhookAt_iff hscheme).mp htest
    refine ⟨before, scheme ++ (host ++ 47 :: (lead ++ (part ++ [secret]))), after, by simp, ?_⟩
    exact ⟨scheme, host, lead, part, secret, rfl, hscheme, hsolid, hslash, hhost, hlead, hpart,
      hsecret⟩
  · rintro ⟨before, url, rest, rfl, scheme, host, lead, part, secret, rfl, hscheme, hsolid, hslash,
      hhost, hlead, hpart, hsecret⟩
    have htext : before ++ (scheme ++ (host ++ 47 :: (lead ++ (part ++ [secret]))) ++ rest) =
        before ++ (scheme ++ (host ++ 47 :: (lead ++ (part ++ secret :: rest)))) := by simp
    rw [htext]
    refine ⟨before, scheme, _, rfl, hscheme, (webhookAt_iff hscheme).mpr ?_⟩
    exact ⟨host, _, rfl, hsolid, hslash, hhost, lead, part, secret, rest, rfl, hlead, hpart,
      hsecret⟩

/-- The scanner finds exactly the texts with a sensitive URL. -/
theorem containsSensitiveUrl_iff {t : Alphabet} {text : PyStr} :
    containsSensitiveUrl t text = true ↔ SensitiveUrl t text := by
  rw [containsSensitiveUrl, Bool.or_eq_true, containsCredentialUrl_iff, containsWebhookUrl_iff]
  constructor
  · rintro (⟨before, url, rest, htext, hword, hurl⟩ | ⟨before, url, rest, htext, hurl⟩)
    · exact ⟨before, url, rest, htext, .inl ⟨hword, hurl⟩⟩
    · exact ⟨before, url, rest, htext, .inr hurl⟩
  · rintro ⟨before, url, rest, htext, ⟨hword, hurl⟩ | hurl⟩
    · exact .inl ⟨before, url, rest, htext, hword, hurl⟩
    · exact .inr ⟨before, url, rest, htext, hurl⟩

end SitBank.Redaction
