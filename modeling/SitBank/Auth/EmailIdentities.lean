import SitBank.Python.CaseFolding

/-!
Email addresses as identities (`app/security/identity_policy.py`).

An address is trimmed, checked and folded; the canonical form of a customer's address
moreover leaves out what Google ignores, and accounts are unique by it. The lengths of the
two parts are checked before they are folded, and folding can make them longer: such an
address is accepted, and its normalised form is not.
-/

namespace SitBank.Auth.Emails

open SitBank.Python

/-! ### The source -/

structure IdentityPolicyError where
  reason : String
  deriving DecidableEq, Repr

def invalidEmail : IdentityPolicyError := ⟨"invalid_email"⟩

/-- `[\x00-\x1f\x7f]`. -/
def controlCode (n : ℕ) : Bool := n < 32 || n = 127

/-- One side of `EMAIL_RE`: no `@`, no white space, no control character, and up to `limit`
characters. -/
def partFits (limit : ℕ) (part : PyStr) : Bool :=
  part ≠ [] && part.length ≤ limit &&
    part.all fun n => n ≠ 64 && !PyStr.strip.spaceCode n && !controlCode n

/-- `EMAIL_RE.fullmatch(f"{local}@{domain}")`. The pattern has one `@`, so the lengths in its
lookahead are those of the two sides. -/
def emailRe (loc domain : PyStr) : Bool := partFits 128 loc && partFits 253 domain

def validLabel (label : PyStr) : Bool :=
  label ≠ [] && label.head? ≠ some 45 && label.getLast? ≠ some 45

/-- `_valid_email_parts`, for texts that have been parted at an `@`. -/
def validEmailParts (loc domain : PyStr) : Bool :=
  emailRe loc domain.strip && (domain.strip.splitOn 46).all validLabel

section Source

variable (t : CaseFolding)

def normalizeIdentityEmail (email : PyStr) : Except IdentityPolicyError PyStr :=
  let text := email.strip
  if 0 ∈ text ∨ 13 ∈ text ∨ 10 ∈ text ∨ 255 < text.length then .error invalidEmail
  else
    -- `text.partition("@")`
    match text.dropWhile (· ≠ 64) with
    | [] => .error invalidEmail
    | _ :: domain =>
        if validEmailParts (text.takeWhile (· ≠ 64)) domain then
          .ok (t.casefold (text.takeWhile (· ≠ 64)) ++ 64 :: t.casefold (PyStr.strip domain))
        else .error invalidEmail

/-- A setting that lists domains. -/
inductive ConfigValue
  | text (value : PyStr)
  | items (values : List PyStr)

def iterConfigValues : ConfigValue → List PyStr
  | .text value => ((value.splitOn 44).filter fun item => PyStr.strip item ≠ []).map
      fun item => t.casefold (PyStr.strip item)
  | .items values =>
      (values.filter fun item => item.strip ≠ []).map fun item => t.casefold item.strip

/-- `_config_set` with a default. -/
def configSet (value : Option ConfigValue) (default : List PyStr) : List PyStr :=
  iterConfigValues t (value.getD (.items default))

def normalizedDomainSet (values : List PyStr) : List PyStr :=
  (values.filter fun value => value.strip ≠ []).map fun value => t.casefold value.strip

def gmailDomain : PyStr := .ofString "gmail.com"

def googlemailDomain : PyStr := .ofString "googlemail.com"

def googleCustomerEmailDomains : List PyStr := [gmailDomain, googlemailDomain]

/-- `CUSTOMER_EMAIL_PLUS_ALIAS_DOMAINS` and `CUSTOMER_EMAIL_DOT_INSENSITIVE_DOMAINS`. -/
structure IdentityConfig where
  plusAliasDomains : Option ConfigValue
  dotInsensitiveDomains : Option ConfigValue

def IdentityConfig.plusDomains (cfg : IdentityConfig) : List PyStr :=
  normalizedDomainSet t (configSet t cfg.plusAliasDomains googleCustomerEmailDomains)

def IdentityConfig.dotDomains (cfg : IdentityConfig) : List PyStr :=
  normalizedDomainSet t (configSet t cfg.dotInsensitiveDomains googleCustomerEmailDomains)

/-- `email.rpartition("@")[2]` and `[0]`. -/
def domainOf (email : PyStr) : PyStr := email.rtakeWhile (· ≠ 64)

def localOf (email : PyStr) : PyStr := (email.rdropWhile (· ≠ 64)).dropLast

/-- `local.partition("+")[0]`. -/
def beforePlus (loc : PyStr) : PyStr := loc.takeWhile (· ≠ 43)

/-- `local.replace(".", "")`. -/
def withoutDots (loc : PyStr) : PyStr := loc.filter (· ≠ 46)

/-- `CUSTOMER_EMAIL_DOMAIN_ALIASES.get(domain, domain)`. -/
def canonicalDomain (domain : PyStr) : PyStr :=
  if domain = googlemailDomain then gmailDomain else domain

def canonicalizeCustomerEmail (cfg : IdentityConfig) (email : PyStr) :
    Except IdentityPolicyError PyStr :=
  match normalizeIdentityEmail t email with
  | .error e => .error e
  | .ok normalized =>
      let domain := domainOf normalized
      let loc := if domain ∈ cfg.plusDomains t then beforePlus (localOf normalized)
        else localOf normalized
      let loc := if domain ∈ cfg.dotDomains t then withoutDots loc else loc
      if loc = [] then .error invalidEmail else .ok (loc ++ 64 :: canonicalDomain domain)

end Source

/-! ### Accepted addresses -/

/-- The address is accepted, with these two sides. -/
def Accepted (email loc domain : PyStr) : Prop :=
  ∃ rest, email.strip = loc ++ 64 :: rest ∧ PyStr.strip rest = domain ∧
    (0 ∉ email.strip ∧ 13 ∉ email.strip ∧ 10 ∉ email.strip ∧ email.strip.length ≤ 255) ∧
    validEmailParts loc rest = true

/-- Neither empty nor with a character that a side cannot have. -/
def Plain (part : PyStr) : Prop :=
  part ≠ [] ∧ ∀ n ∈ part, n ≠ 64 ∧ PyStr.strip.spaceCode n = false ∧ controlCode n = false

theorem partFits_iff {limit : ℕ} {part : PyStr} :
    partFits limit part = true ↔ Plain part ∧ part.length ≤ limit := by
  unfold partFits Plain
  simp only [Bool.and_eq_true, decide_eq_true_eq, List.all_eq_true, Bool.not_eq_true',
    ne_eq, and_assoc]
  tauto

theorem takeWhile_at {loc : PyStr} (h : 64 ∉ loc) (rest : PyStr) :
    (loc ++ 64 :: rest).takeWhile (· ≠ 64) = loc ∧
      (loc ++ 64 :: rest).dropWhile (· ≠ 64) = 64 :: rest := by
  have hloc : ∀ n ∈ loc, (decide (n ≠ 64)) = true := by
    intro n hn
    exact decide_eq_true fun heq => h (heq ▸ hn)
  rw [List.takeWhile_append_of_pos hloc, List.dropWhile_append_of_pos hloc]
  simp

theorem parted_unique {loc loc' rest rest' : PyStr} (h : 64 ∉ loc) (h' : 64 ∉ loc')
    (heq : loc ++ 64 :: rest = loc' ++ 64 :: rest') : loc = loc' ∧ rest = rest' := by
  have hat := takeWhile_at h rest
  rw [heq, (takeWhile_at h' rest').1, (takeWhile_at h' rest').2] at hat
  exact ⟨hat.1.symm, (List.cons.inj hat.2).2.symm⟩

section Accepted

variable {email loc domain : PyStr}

theorem Accepted.plain (h : Accepted email loc domain) :
    (Plain loc ∧ loc.length ≤ 128) ∧ (Plain domain ∧ domain.length ≤ 253) ∧
      (domain.splitOn 46).all validLabel = true := by
  obtain ⟨rest, -, rfl, -, hvalid⟩ := h
  unfold validEmailParts emailRe at hvalid
  rw [Bool.and_eq_true, Bool.and_eq_true, partFits_iff, partFits_iff] at hvalid
  exact ⟨hvalid.1.1, hvalid.1.2, hvalid.2⟩

theorem Plain.not_mem {part : PyStr} (h : Plain part) : 64 ∉ part := fun hmem => (h.2 64 hmem).1 rfl

theorem normalize_ok_iff (t : CaseFolding) {n : PyStr} : normalizeIdentityEmail t email = .ok n ↔
    ∃ loc domain, Accepted email loc domain ∧ n = t.casefold loc ++ 64 :: t.casefold domain := by
  unfold normalizeIdentityEmail
  dsimp only
  constructor
  · intro h
    split at h
    · cases h
    next hchecks =>
      split at h
      · cases h
      next c rest hrest =>
        split at h
        · next hvalid =>
            obtain rfl : c = 64 := by
              have := List.head?_dropWhile_not (· ≠ 64) email.strip
              rw [hrest] at this
              simpa using this
            refine ⟨_, _, ⟨rest, ?_, rfl, ?_, hvalid⟩, (Except.ok.inj h).symm⟩
            · rw [← hrest, List.takeWhile_append_dropWhile]
            · simp only [not_or, Nat.not_lt] at hchecks
              exact hchecks
        · cases h
  · rintro ⟨loc, domain, hacc, rfl⟩
    have hloc := hacc.plain.1.1.not_mem
    obtain ⟨rest, htext, rfl, hchecks, hvalid⟩ := hacc
    rw [if_neg (by simp only [not_or, Nat.not_lt]; exact hchecks), htext, (takeWhile_at hloc _).1,
      (takeWhile_at hloc _).2]
    dsimp only
    rw [if_pos hvalid]

end Accepted

/-! ### Folded addresses -/

section Folded

variable {t : CaseFolding}

theorem plain_casefold {part : PyStr} (h : Plain part) : Plain (t.casefold part) := by
  refine ⟨CaseFolding.casefold_ne_nil h.1, fun m hm => ⟨?_, ?_, ?_⟩⟩
  · rintro rfl
    exact h.not_mem (CaseFolding.mem_of_mem_casefold hm (by omega))
  · exact CaseFolding.spaceCode_of_mem_casefold (fun n hn => (h.2 n hn).2.1) m hm
  · by_contra hcontrol
    have hcode : controlCode m = true := by rwa [Bool.not_eq_false] at hcontrol
    simp only [controlCode, Bool.or_eq_true, decide_eq_true_eq] at hcode
    have := (h.2 m (CaseFolding.mem_of_mem_casefold hm (by omega))).2.2
    rw [this] at hcontrol
    exact hcontrol rfl

theorem validLabel_casefold {label : PyStr} (h : validLabel label = true) :
    validLabel (t.casefold label) = true := by
  simp only [validLabel, Bool.and_eq_true, decide_eq_true_eq] at h ⊢
  refine ⟨⟨CaseFolding.casefold_ne_nil h.1.1, fun hhead => ?_⟩, fun hlast => ?_⟩
  · exact h.1.2 (CaseFolding.head?_of_casefold (by omega) hhead)
  · exact h.2 (CaseFolding.getLast?_of_casefold (by omega) hlast)

theorem splitOn_append_of_not_mem {a : ℕ} {xs : PyStr} (h : a ∉ xs) (ys : PyStr) :
    (xs ++ ys).splitOn a = (ys.splitOn a).modifyHead (xs ++ ·) := by
  induction xs with
  | nil =>
      show ys.splitOn a = (ys.splitOn a).modifyHead id
      rw [List.modifyHead_id]
      rfl
  | cons x xs ih =>
      rw [List.mem_cons, not_or] at h
      have hx : (x == a) = false := beq_eq_false_iff_ne.mpr (Ne.symm h.1)
      rw [List.cons_append, List.splitOn_cons_eq_if_modifyHead, hx, if_neg (by decide), ih h.2,
        List.modifyHead_modifyHead]
      rfl

/-- The labels of a folded domain are the folded labels. -/
theorem labels_casefold (domain : PyStr) :
    (t.casefold domain).splitOn 46 = (domain.splitOn 46).map t.casefold := by
  induction domain with
  | nil => rfl
  | cons n domain ih =>
      have hcons : t.casefold (n :: domain) = t.fold n ++ t.casefold domain := List.flatMap_cons
      rw [hcons, List.splitOn_cons_eq_if_modifyHead]
      by_cases hn : n = 46
      · subst hn
        rw [t.fold_ascii 46 (by decide), if_pos (by decide), List.map_cons, ← ih]
        exact List.splitOn_cons_eq_if_modifyHead ..
      · have hfold : 46 ∉ t.fold n :=
          fun hmem => hn (CaseFolding.eq_of_mem_fold hmem (by omega)).symm
        have hbeq : (n == 46) = false := beq_eq_false_iff_ne.mpr hn
        rw [splitOn_append_of_not_mem hfold, ih, hbeq, if_neg (by decide)]
        cases domain.splitOn 46 with
        | nil => rfl
        | cons label labels =>
            simp only [List.map_cons, List.modifyHead_cons]
            rw [CaseFolding.casefold, CaseFolding.casefold, List.flatMap_cons]

variable {email loc domain : PyStr}

/-- The sides are not too long after folding either. -/
def Fits (t : CaseFolding) (loc domain : PyStr) : Prop :=
  (t.casefold loc).length ≤ 128 ∧ (t.casefold domain).length ≤ 253 ∧
    (t.casefold loc).length + 1 + (t.casefold domain).length ≤ 255

theorem accepted_folded_iff (h : Accepted email loc domain) {loc' domain' : PyStr} :
    Accepted (t.casefold loc ++ 64 :: t.casefold domain) loc' domain' ↔
      Fits t loc domain ∧ loc' = t.casefold loc ∧ domain' = t.casefold domain := by
  obtain ⟨⟨hloc, -⟩, ⟨hdomain, -⟩, hlabels⟩ := h.plain
  have hloc' := plain_casefold (t := t) hloc
  have hdomain' := plain_casefold (t := t) hdomain
  -- There is nothing to trim in the normalised form.
  have hspace : ∀ n ∈ t.casefold loc ++ 64 :: t.casefold domain,
      PyStr.strip.spaceCode n = false ∧ (controlCode n = false) := by
    intro n hn
    rcases List.mem_append.mp hn with hn | hn
    · exact (hloc'.2 n hn).2
    · rcases List.mem_cons.mp hn with rfl | hn
      · exact ⟨by decide, by decide⟩
      · exact (hdomain'.2 n hn).2
  have hstrip : PyStr.strip (t.casefold loc ++ 64 :: t.casefold domain) =
      t.casefold loc ++ 64 :: t.casefold domain := strip_of_no_space fun n hn => (hspace n hn).1
  have hdomainStrip : PyStr.strip (t.casefold domain) = t.casefold domain :=
    strip_of_no_space fun n hn => (hdomain'.2 n hn).2.1
  have hcontrol (c : ℕ) (hc : controlCode c = true) :
      c ∉ t.casefold loc ++ 64 :: t.casefold domain := by
    intro hmem
    rw [(hspace c hmem).2] at hc
    cases hc
  unfold Accepted
  rw [hstrip]
  constructor
  · rintro ⟨rest, htext, rfl, ⟨-, -, -, hlength⟩, hvalid⟩
    unfold validEmailParts emailRe at hvalid
    rw [Bool.and_eq_true, Bool.and_eq_true, partFits_iff, partFits_iff] at hvalid
    obtain ⟨hl, hr⟩ := parted_unique hloc'.not_mem hvalid.1.1.1.not_mem htext
    rw [← hr, hdomainStrip, ← hl] at hvalid
    rw [List.length_append, List.length_cons] at hlength
    refine ⟨⟨hvalid.1.1.2, hvalid.1.2.2, by omega⟩, hl.symm, ?_⟩
    rw [← hr, hdomainStrip]
  · rintro ⟨⟨hlocal, hlong, htotal⟩, rfl, rfl⟩
    refine ⟨t.casefold domain, rfl, hdomainStrip,
      ⟨hcontrol 0 rfl, hcontrol 13 rfl, hcontrol 10 rfl, ?_⟩, ?_⟩
    · rw [List.length_append, List.length_cons]
      omega
    · unfold validEmailParts emailRe
      rw [hdomainStrip, Bool.and_eq_true, Bool.and_eq_true, partFits_iff, partFits_iff]
      refine ⟨⟨⟨hloc', hlocal⟩, hdomain', hlong⟩, ?_⟩
      rw [labels_casefold, List.all_map, List.all_eq_true]
      exact fun label hlabel => validLabel_casefold (List.all_eq_true.mp hlabels label hlabel)

/-- The normalised form is accepted, as it is, exactly if the sides fit after folding. -/
theorem normalize_again_iff (h : Accepted email loc domain) :
    normalizeIdentityEmail t (t.casefold loc ++ 64 :: t.casefold domain) =
        .ok (t.casefold loc ++ 64 :: t.casefold domain) ↔ Fits t loc domain := by
  rw [normalize_ok_iff]
  constructor
  · rintro ⟨loc', domain', hagain, -⟩
    exact ((accepted_folded_iff h).mp hagain).1
  · intro hfits
    refine ⟨_, _, (accepted_folded_iff h).mpr ⟨hfits, rfl, rfl⟩, ?_⟩
    rw [CaseFolding.casefold_casefold, CaseFolding.casefold_casefold]

end Folded

/-! ### Canonical forms -/

def IsGoogle (domain : PyStr) : Prop := domain = gmailDomain ∨ domain = googlemailDomain

instance (domain : PyStr) : Decidable (IsGoogle domain) := inferInstanceAs (Decidable (_ ∨ _))

/-- Both lists of providers are those of Google, however they are written. -/
structure DefaultProviders (t : CaseFolding) (cfg : IdentityConfig) : Prop where
  plus : ∀ domain, domain ∈ cfg.plusDomains t ↔ IsGoogle domain
  dots : ∀ domain, domain ∈ cfg.dotDomains t ↔ IsGoogle domain

theorem parts_of_normalized (loc : PyStr) {domain : PyStr} (h : 64 ∉ domain) :
    domainOf (loc ++ 64 :: domain) = domain ∧ localOf (loc ++ 64 :: domain) = loc := by
  have hdomain : ∀ n ∈ domain.reverse, (decide (n ≠ 64)) = true := by
    intro n hn
    exact decide_eq_true fun heq => h (heq ▸ List.mem_reverse.mp hn)
  have hreverse : (loc ++ 64 :: domain).reverse = domain.reverse ++ 64 :: loc.reverse := by simp
  unfold domainOf localOf List.rtakeWhile List.rdropWhile
  rw [hreverse, List.takeWhile_append_of_pos hdomain, List.dropWhile_append_of_pos hdomain]
  simp

/-- What Google makes of a local part. -/
def googleLocal (loc : PyStr) : PyStr := withoutDots (beforePlus loc)

def canonicalLocal (normalized : PyStr) : PyStr :=
  if IsGoogle (domainOf normalized) then googleLocal (localOf normalized) else localOf normalized

section Canonical

variable {t : CaseFolding} {cfg : IdentityConfig} {email n c : PyStr}

theorem canonicalize_eq (hcfg : DefaultProviders t cfg)
    (hn : normalizeIdentityEmail t email = .ok n) :
    canonicalizeCustomerEmail t cfg email = if canonicalLocal n = [] then .error invalidEmail
      else .ok (canonicalLocal n ++ 64 :: canonicalDomain (domainOf n)) := by
  unfold canonicalizeCustomerEmail
  rw [hn]
  simp only [hcfg.plus, hcfg.dots]
  unfold canonicalLocal googleLocal
  by_cases hgoogle : IsGoogle (domainOf n)
  · simp only [if_pos hgoogle]
  · simp only [if_neg hgoogle]

/-- A normalised form, and its sides. -/
theorem normalized_parts (hn : normalizeIdentityEmail t email = .ok n) :
    n = localOf n ++ 64 :: domainOf n ∧ 64 ∉ localOf n := by
  obtain ⟨loc, domain, hacc, rfl⟩ := (normalize_ok_iff t).mp hn
  obtain ⟨⟨hloc, -⟩, ⟨hdomain, -⟩, -⟩ := hacc.plain
  obtain ⟨hd, hl⟩ := parts_of_normalized (t.casefold loc)
    (plain_casefold (t := t) hdomain).not_mem
  rw [hd, hl]
  exact ⟨rfl, (plain_casefold hloc).not_mem⟩

theorem canonicalLocal_not_mem (h : 64 ∉ localOf n) : 64 ∉ canonicalLocal n := by
  unfold canonicalLocal
  split
  · intro hmem
    exact h ((List.takeWhile_sublist _).mem (List.mem_of_mem_filter hmem))
  · exact h

theorem canonicalDomain_google {domain : PyStr} (h : IsGoogle domain) :
    canonicalDomain domain = gmailDomain := by
  rcases h with rfl | rfl <;> rfl

theorem canonicalDomain_other {domain : PyStr} (h : ¬IsGoogle domain) :
    canonicalDomain domain = domain := if_neg fun hdomain => h (.inr hdomain)

/-- Canonical forms agree for equal addresses, and for those that Google takes as equal. -/
theorem canonical_eq_iff (hcfg : DefaultProviders t cfg) {email' n' c' : PyStr}
    (hn : normalizeIdentityEmail t email = .ok n) (hn' : normalizeIdentityEmail t email' = .ok n')
    (hc : canonicalizeCustomerEmail t cfg email = .ok c)
    (hc' : canonicalizeCustomerEmail t cfg email' = .ok c') :
    c = c' ↔ n = n' ∨ IsGoogle (domainOf n) ∧ IsGoogle (domainOf n') ∧
      googleLocal (localOf n) = googleLocal (localOf n') := by
  rw [canonicalize_eq hcfg hn] at hc
  rw [canonicalize_eq hcfg hn'] at hc'
  split at hc
  · cases hc
  split at hc'
  · cases hc'
  obtain rfl := Except.ok.inj hc
  obtain rfl := Except.ok.inj hc'
  obtain ⟨hparts, hloc⟩ := normalized_parts hn
  obtain ⟨hparts', hloc'⟩ := normalized_parts hn'
  constructor
  · intro heq
    obtain ⟨hl, hd⟩ := parted_unique (canonicalLocal_not_mem hloc)
      (canonicalLocal_not_mem hloc') heq
    -- one of the two at Google and the other not: their domains differ
    by_cases hgoogle : IsGoogle (domainOf n) <;> by_cases hgoogle' : IsGoogle (domainOf n')
    · unfold canonicalLocal at hl
      rw [if_pos hgoogle, if_pos hgoogle'] at hl
      exact .inr ⟨hgoogle, hgoogle', hl⟩
    · rw [canonicalDomain_google hgoogle, canonicalDomain_other hgoogle'] at hd
      exact absurd (.inl hd.symm) hgoogle'
    · rw [canonicalDomain_google hgoogle', canonicalDomain_other hgoogle] at hd
      exact absurd (.inl hd) hgoogle
    · unfold canonicalLocal at hl
      rw [if_neg hgoogle, if_neg hgoogle'] at hl
      rw [canonicalDomain_other hgoogle, canonicalDomain_other hgoogle'] at hd
      rw [hparts, hparts', hl, hd]
      exact .inl rfl
  · rintro (rfl | ⟨hgoogle, hgoogle', hl⟩)
    · rfl
    · unfold canonicalLocal
      rw [if_pos hgoogle, if_pos hgoogle', canonicalDomain_google hgoogle,
        canonicalDomain_google hgoogle', hl]

end Canonical

/-! ### Canonical identities -/

/-- The normalised form is a fixed point, and has the canonical form of the address. -/
def Canonical (t : CaseFolding) (cfg : IdentityConfig) (email : PyStr) : Prop :=
  ∀ n, normalizeIdentityEmail t email = .ok n → normalizeIdentityEmail t n = .ok n ∧
    canonicalizeCustomerEmail t cfg n = canonicalizeCustomerEmail t cfg email

/-- The sides of an accepted address are not too long after folding. -/
def FoldedFits (t : CaseFolding) (email : PyStr) : Prop :=
  ∀ loc domain, Accepted email loc domain → Fits t loc domain

/-- Equal canonical forms are those of equal addresses, up to what Google leaves out. -/
def Separates (t : CaseFolding) (cfg : IdentityConfig) (email email' : PyStr) : Prop :=
  ∀ n n' c c', normalizeIdentityEmail t email = .ok n → normalizeIdentityEmail t email' = .ok n' →
    canonicalizeCustomerEmail t cfg email = .ok c →
      canonicalizeCustomerEmail t cfg email' = .ok c' →
    (c = c' ↔ n = n' ∨ IsGoogle (domainOf n) ∧ IsGoogle (domainOf n') ∧
      googleLocal (localOf n) = googleLocal (localOf n'))

theorem canonical_iff (t : CaseFolding) (cfg : IdentityConfig) (email : PyStr) :
    Canonical t cfg email ↔ FoldedFits t email := by
  constructor
  · intro h loc domain hacc
    have hn := (normalize_ok_iff t).mpr ⟨loc, domain, hacc, rfl⟩
    exact (normalize_again_iff hacc).mp (h _ hn).1
  · intro h n hn
    obtain ⟨loc, domain, hacc, rfl⟩ := (normalize_ok_iff t).mp hn
    have hagain := (normalize_again_iff hacc).mpr (h loc domain hacc)
    refine ⟨hagain, ?_⟩
    unfold canonicalizeCustomerEmail
    rw [hagain, hn]

/-- Email identities are canonical exactly as far as folding does not make them too long. -/
theorem emails_canonical_iff (t : CaseFolding) (cfg : IdentityConfig)
    (hcfg : DefaultProviders t cfg) :
    (∀ email, Canonical t cfg email ↔ FoldedFits t email) ∧
      ∀ email email', Separates t cfg email email' :=
  ⟨canonical_iff t cfg, fun _ _ _ _ _ _ hn hn' hc hc' => canonical_eq_iff hcfg hn hn' hc hc'⟩

/-! ### The default settings -/

def defaultConfig : IdentityConfig := ⟨none, none⟩

/-- Lower case of ASCII, and the sharp s as its only other letter. -/
def sharpFolding : CaseFolding where
  fold n := if n < 128 then [lowerCode n] else if n = 223 then [115, 115] else [n]
  fold_ascii n hn := if_pos hn
  fold_ne_nil n := by
    split
    · exact List.cons_ne_nil _ _
    · split <;> exact List.cons_ne_nil _ _
  fold_fold n m hm := by
    split at hm
    · next hn =>
        rw [List.mem_singleton] at hm
        have hlower : lowerCode m = m := by
          rw [hm]
          exact (List.cons.inj (map_lowerCode_idem [n])).1
        have hm128 : m < 128 := by
          rw [hm]
          unfold lowerCode
          split <;> omega
        rw [if_pos hm128, hlower]
    · next hn =>
        split at hm
        · obtain rfl : m = 115 := by simpa using hm
          rfl
        · next hsharp =>
            obtain rfl := List.mem_singleton.mp hm
            rw [if_neg hn, if_neg hsharp]
  fold_code n hn m hm := by
    rw [if_neg (by omega)] at hm
    split at hm
    · next hsharp =>
        obtain rfl : m = 115 := by simpa using hm
        rw [hsharp]
        exact ⟨.inl (by decide), by decide⟩
    · obtain rfl := List.mem_singleton.mp hm
      exact ⟨.inr hn, rfl⟩

theorem defaultProviders_default (t : CaseFolding) : DefaultProviders t defaultConfig := by
  have hlower (s : PyStr) (h : ∀ n ∈ s, n < 128 ∧ lowerCode n = n) : t.casefold s = s :=
    CaseFolding.casefold_of_fixed fun n hn => by rw [t.fold_ascii n (h n hn).1, (h n hn).2]
  have hgmail : t.casefold gmailDomain = gmailDomain := hlower _ (by decide)
  have hgooglemail : t.casefold googlemailDomain = googlemailDomain := hlower _ (by decide)
  have hstrip : gmailDomain.strip = gmailDomain ∧
      googlemailDomain.strip = googlemailDomain := by decide
  have hlist : normalizedDomainSet t (configSet t none googleCustomerEmailDomains) =
      [gmailDomain, googlemailDomain] := by
    have hne : gmailDomain ≠ [] ∧ googlemailDomain ≠ [] := by decide
    simp [configSet, iterConfigValues, normalizedDomainSet, googleCustomerEmailDomains, hstrip.1,
      hstrip.2, hgmail, hgooglemail, hne.1, hne.2]
  have hmem (domain : PyStr) :
      domain ∈ normalizedDomainSet t (configSet t none googleCustomerEmailDomains) ↔
        IsGoogle domain := by
    rw [hlist]
    simp [IsGoogle]
  exact ⟨hmem, hmem⟩

/-- An address that stays as it is, and two of one Google account. -/
theorem emails_canonical_iff_default :
    (Canonical sharpFolding defaultConfig (.ofString "Ann@Example.com") ↔
      FoldedFits sharpFolding (.ofString "Ann@Example.com")) ∧
    Separates sharpFolding defaultConfig (.ofString "a.nn+x@gmail.com")
      (.ofString "Ann@googlemail.com") :=
  have h := emails_canonical_iff sharpFolding defaultConfig (defaultProviders_default _)
  ⟨h.1 _, h.2 _ _⟩

/-- A hundred letters `ß` in front of the `@`. -/
def sharpEmail : PyStr := List.replicate 100 223 ++ PyStr.ofString "@example.com"

/-- They are accepted as two hundred letters `s`, which are not accepted. -/
theorem sharpEmail_not_canonical :
    (∃ n, normalizeIdentityEmail sharpFolding sharpEmail = .ok n ∧
      normalizeIdentityEmail sharpFolding n = .error invalidEmail) ∧
    ¬Canonical sharpFolding defaultConfig sharpEmail := by
  have hfirst : normalizeIdentityEmail sharpFolding sharpEmail =
      .ok (List.replicate 200 115 ++ PyStr.ofString "@example.com") := by decide +kernel
  have hagain : normalizeIdentityEmail sharpFolding
      (List.replicate 200 115 ++ PyStr.ofString "@example.com") = .error invalidEmail := by
    decide +kernel
  refine ⟨⟨_, hfirst, hagain⟩, fun h => ?_⟩
  have := (h _ hfirst).1
  rw [hagain] at this
  cases this

end SitBank.Auth.Emails
