import SitBank.Auth.AddressFlow
import SitBank.Python.Decimal

/-!
Every customer's address was proved.

A customer has the address of the registration, or one that was set in the profile. For either
a code was drawn, to be sent to that address, and in the same browser that code was entered
before it had expired; for a registration, the account was admitted soon after that, and for a
profile it was the customer's own. No order of the statements of any requests leads to another
address.

What a row or a session says is warranted by the history: each has a predicate that a longer
history does not take away (`CodeOk`, `ItemsOk`, `AddressOk`), and the contract of the
operations says which of them is needed before and known after (`contract`).
-/

namespace SitBank.Auth.Addresses

open SitBank.Interaction SitBank.Python SitBank.Auth.Emails

variable {cfg : Config}

/-! ### Texts -/

/-- Normalised addresses. -/
def Normal (cfg : Config) (email : PyStr) : Prop :=
  ∃ text, normalizeIdentityEmail cfg.folding text = .ok email

theorem normal_of_require {text email : PyStr} (h : requireCustomerEmail cfg text = .ok email) :
    Normal cfg email := by
  unfold requireCustomerEmail at h
  split at h
  · cases h
  · exact ⟨text, h⟩

/-- There is nothing left to trim or fold. -/
theorem normalize_normal {email : PyStr} (h : Normal cfg email) :
    normalizeRegistrationEmail cfg email = email := by
  obtain ⟨text, htext⟩ := h
  obtain ⟨loc, domain, hacc, rfl⟩ := (normalize_ok_iff cfg.folding).mp htext
  obtain ⟨⟨hloc, -⟩, ⟨hdomain, -⟩, -⟩ := hacc.plain
  have hspace : ∀ n ∈ cfg.folding.casefold loc ++ 64 :: cfg.folding.casefold domain,
      PyStr.strip.spaceCode n = false := by
    intro n hn
    rcases List.mem_append.mp hn with hn | hn
    · exact ((plain_casefold hloc).2 n hn).2.1
    · rcases List.mem_cons.mp hn with rfl | hn
      · decide
      · exact ((plain_casefold hdomain).2 n hn).2.1
  have hat : cfg.folding.casefold (64 :: cfg.folding.casefold domain) =
      64 :: cfg.folding.casefold (cfg.folding.casefold domain) := by
    rw [CaseFolding.casefold, List.flatMap_cons, cfg.folding.fold_ascii 64 (by decide)]
    rfl
  unfold normalizeRegistrationEmail
  rw [strip_of_no_space hspace, CaseFolding.casefold_append, hat, CaseFolding.casefold_casefold,
    CaseFolding.casefold_casefold]

theorem sessionBindingHash_inj {r r' : PyStr}
    (h : sessionBindingHash cfg r = sessionBindingHash cfg r') : r = r' :=
  List.append_cancel_left (cfg.secrets.hex_injective h)

theorem emailHash_inj {e e' : PyStr} (he : Normal cfg e) (he' : Normal cfg e')
    (h : emailHash cfg e = emailHash cfg e') : e = e' := by
  have htext := List.append_cancel_left (cfg.secrets.hex_injective h)
  rwa [normalize_normal he, normalize_normal he'] at htext

theorem otpHmac_inj {e c c' : PyStr} (h : otpHmac cfg e c = otpHmac cfg e c') : c = c' := by
  have htext := List.append_cancel_left (cfg.secrets.hex_injective h)
  exact (List.cons.inj (List.append_cancel_left htext)).2

/-- A part without the separator ends where the separator stands. -/
theorem field_unique {a : ℕ} {x x' y y' : PyStr} (hx : a ∉ x) (hx' : a ∉ x')
    (h : x ++ a :: y = x' ++ a :: y') : x = x' ∧ y = y' := by
  induction x generalizing x' with
  | nil =>
      cases x' with
      | nil => exact ⟨rfl, (List.cons.inj h).2⟩
      | cons b x' => exact absurd (.head _) ((List.cons.inj h).1 ▸ hx')
  | cons b x ih =>
      cases x' with
      | nil => exact absurd (.head _) ((List.cons.inj h).1 ▸ hx)
      | cons b' x' =>
          obtain ⟨rfl, hrest⟩ := List.cons.inj h
          obtain ⟨rfl, hy⟩ := ih (fun hm => hx (.tail _ hm)) (fun hm => hx' (.tail _ hm)) hrest
          exact ⟨rfl, hy⟩

theorem not_mem_idText (id : ℕ) : 58 ∉ idText id := by
  intro h
  obtain ⟨c, hc, hcode⟩ := List.mem_map.mp h
  have hdigit : c.isDigit = true := Nat.isDigit_of_mem_toDigits (by decide) (by decide) hc
  rw [Char.toNat_inj.mp (hcode.trans (show 58 = Char.toNat ':' from rfl))] at hdigit
  cases hdigit

theorem idText_inj {m n : ℕ} (h : idText m = idText n) : m = n := by
  have hdigits : Nat.toDigits 10 m = Nat.toDigits 10 n :=
    (List.map_inj_right fun _ _ hc => Char.toNat_inj.mp hc).mp h
  calc
    m = Nat.ofDigitChars 10 (Nat.toDigits 10 m) 0 := Nat.ofDigitChars_ten_toDigits.symm
    _ = Nat.ofDigitChars 10 (Nat.toDigits 10 n) 0 := by rw [hdigits]
    _ = n := Nat.ofDigitChars_ten_toDigits

theorem profileEmailCodeHmac_inj {id id' : ℕ} {sid sid' e c c' : PyStr} (hsid : 58 ∉ sid)
    (hsid' : 58 ∉ sid')
    (h : profileEmailCodeHmac cfg id sid e c = profileEmailCodeHmac cfg id' sid' e c') :
    id = id' ∧ c = c' := by
  have htext := List.append_cancel_left (cfg.secrets.hex_injective h)
  obtain ⟨hid, hrest⟩ := field_unique (not_mem_idText id) (not_mem_idText id') htext
  obtain ⟨-, hrest⟩ := field_unique hsid hsid' hrest
  exact ⟨idText_inj hid, (List.cons.inj (List.append_cancel_left hrest)).2⟩

/-! ### What the history warrants -/

/-- The time of a challenge counts from `t`: its code was drawn then, or another one was drawn
once more. -/
def CountsFrom (h : List Event) (b : ℕ) (e : PyStr) (t₀ t : ℕ) : Prop :=
  t = t₀ ∨ ∃ c, .redrawn b e c t ∈ h

/-- A code drawn at `t₀` has not expired at `t₁`. -/
def InTime (cfg : Config) (h : List Event) (b : ℕ) (e : PyStr) (t₀ t₁ : ℕ) : Option ℕ → Prop
  | none => ∃ t, CountsFrom h b e t₀ t ∧ t₁ < t + registrationOtpTtlSeconds * 1000000
  | some _ => seconds t₁ < seconds t₀ + cfg.profileEmailChangeTtlSeconds

def Warranted (cfg : Config) (h : List Event) : Event → Prop
  | .redrawn b e c _ => ∃ t₀, .drawn b none e c t₀ ∈ h
  | .entered b account e c t₁ _ =>
      ∃ t₀, .drawn b account e c t₀ ∈ h ∧ InTime cfg h b e t₀ t₁ account
  | .admitted b e t₃ => ∃ c t₁ t₂, .entered b none e c t₁ t₂ ∈ h ∧
      seconds t₃ ≤ seconds t₂ + registrationOtpTtlSeconds
  | _ => True

/-- The columns that say what a challenge is for: a session of the browser and an address. -/
def LabelsOk (cfg : Config) (h : List Event) (b : ℕ) (e binding email : PyStr) : Prop :=
  ∃ reference, .issued b .reference reference ∈ h ∧ Normal cfg e ∧
    binding = sessionBindingHash cfg reference ∧ email = emailHash cfg e

/-- The columns of the code: it was drawn for the browser and the address. -/
def CodeOk (cfg : Config) (h : List Event) (b : ℕ) (e otp : PyStr) (expiresAt : ℕ) : Prop :=
  ∃ c t₀ t, .drawn b none e c t₀ ∈ h ∧ otp = otpHmac cfg e c ∧ CountsFrom h b e t₀ t ∧
    expiresAt = t + registrationOtpTtlSeconds * 1000000

/-- Both times were set together. -/
def TimesOk (resendAt expiresAt : ℕ) : Prop :=
  resendAt + registrationOtpTtlSeconds * 1000000 =
    expiresAt + registrationOtpResendCooldownSeconds * 1000000

structure ChallengeOk (cfg : Config) (h : List Event) (r : Challenge) : Prop where
  stored : .stored r.id r.sessionBindingHash r.emailHash ∈ h
  code : ∃ b e, LabelsOk cfg h b e r.sessionBindingHash r.emailHash ∧
    CodeOk cfg h b e r.otpHmac r.expiresAt
  times : TimesOk r.resendAvailableAt r.expiresAt

/-- The challenge is for a code that was drawn in this browser. -/
def DrawnIn (cfg : Config) (h : List Event) (b : ℕ) (r : Challenge) : Prop :=
  ∃ e, Normal cfg e ∧ r.emailHash = emailHash cfg e ∧ CodeOk cfg h b e r.otpHmac r.expiresAt

/-- A challenge may get a code that was drawn; the HMAC of one that it has already is not
written. -/
structure ReissueOk (cfg : Config) (h : List Event) (seen : Challenge) (otp : PyStr)
    (resendAt expiresAt : ℕ) : Prop where
  stored : .stored seen.id seen.sessionBindingHash seen.emailHash ∈ h
  moved : resendAt ≠ seen.resendAvailableAt ∧ expiresAt ≠ seen.expiresAt
  times : TimesOk resendAt expiresAt
  code : ∃ b e c t, LabelsOk cfg h b e seen.sessionBindingHash seen.emailHash ∧
    expiresAt = t + registrationOtpTtlSeconds * 1000000 ∧ otp = otpHmac cfg e c ∧
    if otp = seen.otpHmac then .redrawn b e c t ∈ h else .drawn b none e c t ∈ h

/-- Where a customer's address comes from. -/
def AddressOk (h : List Event) (u : User) : Prop :=
  u.customer = true → (∃ b t, .admitted b u.email t ∈ h) ∨
    ∃ b c t₁ t₂, .entered b (some u.id) u.email c t₁ t₂ ∈ h

/-- What the session of a browser says. -/
structure ItemsOk (cfg : Config) (b : ℕ) (s : Items) (h : List Event) : Prop where
  sid : .issued b .sessionId s.sid ∈ h
  sid_plain : s.sid ≠ [] ∧ 58 ∉ s.sid
  reference : s.registrationOtpSessionRef ≠ [] →
    .issued b .reference s.registrationOtpSessionRef ∈ h
  verified : s.registrationOtpVerifiedEmail ≠ [] → Normal cfg s.registrationOtpVerifiedEmail ∧
    ∃ c t₁ t₂, .entered b none s.registrationOtpVerifiedEmail c t₁ t₂ ∈ h ∧
      s.registrationOtpVerifiedAt = seconds t₂
  profile : s.profileEmailPendingCodeHmac ≠ [] → ∃ id sid c t₀,
    .drawn b (some id) s.profileEmailPendingEmail c t₀ ∈ h ∧ 58 ∉ sid ∧
      s.profileEmailPendingCodeHmac =
        profileEmailCodeHmac cfg id sid s.profileEmailPendingEmail c ∧
      s.profileEmailPendingExpiresAt = seconds t₀ + cfg.profileEmailChangeTtlSeconds

section Lasting

variable {h h' : List Event} (hh : h <:+ h')

include hh

theorem CountsFrom.later {b : ℕ} {e : PyStr} {t₀ t : ℕ} (hc : CountsFrom h b e t₀ t) :
    CountsFrom h' b e t₀ t := by
  rcases hc with heq | ⟨c, hredrawn⟩
  · exact .inl heq
  · exact .inr ⟨c, hh.mem hredrawn⟩

theorem Warranted.later {e : Event} (he : Warranted cfg h e) : Warranted cfg h' e := by
  cases e with
  | redrawn b e c t =>
      obtain ⟨t₀, hdrawn⟩ := he
      exact ⟨t₀, hh.mem hdrawn⟩
  | entered b account e c t₁ t₂ =>
      obtain ⟨t₀, hdrawn, htime⟩ := he
      refine ⟨t₀, hh.mem hdrawn, ?_⟩
      cases account with
      | none =>
          obtain ⟨t, hcounts, hlt⟩ := htime
          exact ⟨t, hcounts.later hh, hlt⟩
      | some id => exact htime
  | admitted b e t₃ =>
      obtain ⟨c, t₁, t₂, hentered, htime⟩ := he
      exact ⟨c, t₁, t₂, hh.mem hentered, htime⟩
  | issued | stored | drawn => trivial

theorem LabelsOk.later {b : ℕ} {e binding email : PyStr} (hl : LabelsOk cfg h b e binding email) :
    LabelsOk cfg h' b e binding email := by
  obtain ⟨reference, hissued, hrest⟩ := hl
  exact ⟨reference, hh.mem hissued, hrest⟩

theorem CodeOk.later {b : ℕ} {e otp : PyStr} {expiresAt : ℕ} (hc : CodeOk cfg h b e otp expiresAt) :
    CodeOk cfg h' b e otp expiresAt := by
  obtain ⟨c, t₀, t, hdrawn, hotp, hcounts, hexpires⟩ := hc
  exact ⟨c, t₀, t, hh.mem hdrawn, hotp, hcounts.later hh, hexpires⟩

theorem ChallengeOk.later {r : Challenge} (hr : ChallengeOk cfg h r) : ChallengeOk cfg h' r := by
  obtain ⟨b, e, hlabels, hcode⟩ := hr.code
  exact ⟨hh.mem hr.stored, ⟨b, e, hlabels.later hh, hcode.later hh⟩, hr.times⟩

theorem DrawnIn.later {b : ℕ} {r : Challenge} (hr : DrawnIn cfg h b r) : DrawnIn cfg h' b r := by
  obtain ⟨e, hnormal, hemail, hcode⟩ := hr
  exact ⟨e, hnormal, hemail, hcode.later hh⟩

theorem ReissueOk.later {seen : Challenge} {otp : PyStr} {resendAt expiresAt : ℕ}
    (hr : ReissueOk cfg h seen otp resendAt expiresAt) :
    ReissueOk cfg h' seen otp resendAt expiresAt := by
  obtain ⟨b, e, c, t, hlabels, hexpires, hotp, hdrawn⟩ := hr.code
  refine ⟨hh.mem hr.stored, hr.moved, hr.times, b, e, c, t, hlabels.later hh, hexpires, hotp, ?_⟩
  split
  · next heq => exact hh.mem ((if_pos heq).mp hdrawn)
  · next hne => exact hh.mem ((if_neg hne).mp hdrawn)

theorem AddressOk.later {u : User} (hu : AddressOk h u) : AddressOk h' u := by
  intro hcustomer
  rcases hu hcustomer with ⟨b, t, hadmitted⟩ | ⟨b, c, t₁, t₂, hentered⟩
  · exact .inl ⟨b, t, hh.mem hadmitted⟩
  · exact .inr ⟨b, c, t₁, t₂, hh.mem hentered⟩

theorem ItemsOk.later {b : ℕ} {s : Items} (hs : ItemsOk cfg b s h) : ItemsOk cfg b s h' where
  sid := hh.mem hs.sid
  sid_plain := hs.sid_plain
  reference hne := hh.mem (hs.reference hne)
  verified hne := by
    obtain ⟨hnormal, c, t₁, t₂, hentered, hat⟩ := hs.verified hne
    exact ⟨hnormal, c, t₁, t₂, hh.mem hentered, hat⟩
  profile hne := by
    obtain ⟨id, sid, c, t₀, hdrawn, hrest⟩ := hs.profile hne
    exact ⟨id, sid, c, t₀, hh.mem hdrawn, hrest⟩

end Lasting

/-! ### The invariant -/

structure Ok (cfg : Config) (w : Registry) : Prop where
  honest : Honest (Warranted cfg) w.history
  challenges : ∀ r ∈ w.challenges, ChallengeOk cfg w.history r
  stored_lt : ∀ id x y, .stored id x y ∈ w.history → id < w.nextChallenge
  stored_unique : ∀ id x y x' y', .stored id x y ∈ w.history → .stored id x' y' ∈ w.history →
    x = x' ∧ y = y'
  issued_lt : ∀ b use x, .issued b use x ∈ w.history → ∃ n < w.nextToken, x = cfg.secrets.token n
  issued_unique : ∀ b use b' use' x, .issued b use x ∈ w.history →
    .issued b' use' x ∈ w.history → b = b' ∧ use = use'
  users : ∀ u ∈ w.users, AddressOk w.history u

/-- Events that handlers note. -/
def Event.noted : Event → Bool
  | .issued _ _ _ => false
  | .stored _ _ _ => false
  | _ => true

section Steps

variable {w : Registry}

theorem Ok.tick (hw : Ok cfg w) (n : ℕ) : Ok cfg { w with clock := w.clock + n } :=
  ⟨hw.honest, hw.challenges, hw.stored_lt, hw.stored_unique, hw.issued_lt, hw.issued_unique,
    hw.users⟩

theorem Ok.note (hw : Ok cfg w) {e : Event} (hnoted : e.noted = true)
    (he : Warranted cfg w.history e) : Ok cfg { w with history := e :: w.history } where
  honest := ⟨he, hw.honest⟩
  challenges r hr := (hw.challenges r hr).later (List.suffix_cons ..)
  stored_lt id x y hmem := by
    rcases List.mem_cons.mp hmem with rfl | hmem
    · cases hnoted
    · exact hw.stored_lt id x y hmem
  stored_unique id x y x' y' hmem hmem' := by
    rcases List.mem_cons.mp hmem with rfl | hmem
    · cases hnoted
    rcases List.mem_cons.mp hmem' with rfl | hmem'
    · cases hnoted
    exact hw.stored_unique id x y x' y' hmem hmem'
  issued_lt b use x hmem := by
    rcases List.mem_cons.mp hmem with rfl | hmem
    · cases hnoted
    · exact hw.issued_lt b use x hmem
  issued_unique b use b' use' x hmem hmem' := by
    rcases List.mem_cons.mp hmem with rfl | hmem
    · cases hnoted
    rcases List.mem_cons.mp hmem' with rfl | hmem'
    · cases hnoted
    exact hw.issued_unique b use b' use' x hmem hmem'
  users u hu := (hw.users u hu).later (List.suffix_cons ..)

/-- A token that is new is nobody else's. -/
theorem Ok.issue (hw : Ok cfg w) (b : ℕ) (use : TokenUse) :
    Ok cfg { w with
      nextToken := w.nextToken + 1
      history := .issued b use (cfg.secrets.token w.nextToken) :: w.history } := by
  have hnew : ∀ b' use', .issued b' use' (cfg.secrets.token w.nextToken) ∉ w.history := by
    intro b' use' hmem
    obtain ⟨n, hn, heq⟩ := hw.issued_lt b' use' _ hmem
    exact absurd (cfg.secrets.token_injective heq) (by omega)
  refine ⟨⟨trivial, hw.honest⟩, fun r hr => (hw.challenges r hr).later (List.suffix_cons ..),
    fun id x y hmem => ?_, fun id x y x' y' hmem hmem' => ?_, fun b' use' x hmem => ?_,
    fun b' use' b'' use'' x hmem hmem' => ?_,
    fun u hu => (hw.users u hu).later (List.suffix_cons ..)⟩
  · exact hw.stored_lt id x y (List.mem_of_ne_of_mem (by simp) hmem)
  · exact hw.stored_unique id x y x' y' (List.mem_of_ne_of_mem (by simp) hmem)
      (List.mem_of_ne_of_mem (by simp) hmem')
  · rcases List.mem_cons.mp hmem with heq | hmem
    · cases heq
      exact ⟨w.nextToken, Nat.lt_succ_self _, rfl⟩
    · obtain ⟨n, hn, heq⟩ := hw.issued_lt b' use' x hmem
      exact ⟨n, Nat.lt_succ_of_lt hn, heq⟩
  · rcases List.mem_cons.mp hmem with heq | hmem
    · cases heq
      rcases List.mem_cons.mp hmem' with heq' | hmem'
      · cases heq'
        exact ⟨rfl, rfl⟩
      · exact absurd hmem' (hnew b'' use'')
    · rcases List.mem_cons.mp hmem' with heq' | hmem'
      · cases heq'
        exact absurd hmem (hnew b' use')
      · exact hw.issued_unique b' use' b'' use'' x hmem hmem'

theorem Ok.withChallenges (hw : Ok cfg w) {challenges : List Challenge}
    (h : ∀ r ∈ challenges, ChallengeOk cfg w.history r) :
    Ok cfg { w with challenges := challenges } :=
  ⟨hw.honest, h, hw.stored_lt, hw.stored_unique, hw.issued_lt, hw.issued_unique, hw.users⟩

theorem Ok.withUsers (hw : Ok cfg w) {users : List User} {nextUser : ℕ}
    (h : ∀ u ∈ users, AddressOk w.history u) :
    Ok cfg { w with users := users, nextUser := nextUser } :=
  ⟨hw.honest, hw.challenges, hw.stored_lt, hw.stored_unique, hw.issued_lt, hw.issued_unique, h⟩

theorem Ok.insertChallenge (hw : Ok cfg w) {binding email otp : PyStr} {resendAt expiresAt : ℕ}
    {b : ℕ} {e : PyStr} (hlabels : LabelsOk cfg w.history b e binding email)
    (hcode : CodeOk cfg w.history b e otp expiresAt) (htimes : TimesOk resendAt expiresAt) :
    w ≤ (w.insertChallenge binding email otp resendAt expiresAt).2 ∧
      Ok cfg (w.insertChallenge binding email otp resendAt expiresAt).2 := by
  unfold Registry.insertChallenge
  split
  · exact ⟨le_rfl, hw⟩
  have hsuffix : w.history <:+ .stored w.nextChallenge binding email :: w.history :=
    List.suffix_cons ..
  refine ⟨⟨le_rfl, hsuffix⟩, ⟨trivial, hw.honest⟩, fun r hr => ?_, fun id x y hmem => ?_,
    fun id x y x' y' hmem hmem' => ?_, fun b use x hmem => ?_, fun b use b' use' x hmem hmem' => ?_,
    fun u hu => (hw.users u hu).later hsuffix⟩
  · rcases List.mem_cons.mp hr with rfl | hr
    · exact ⟨.head _, ⟨b, e, hlabels.later hsuffix, hcode.later hsuffix⟩, htimes⟩
    · exact (hw.challenges r hr).later hsuffix
  · rcases List.mem_cons.mp hmem with heq | hmem
    · cases heq
      exact Nat.lt_succ_self _
    · exact Nat.lt_succ_of_lt (hw.stored_lt id x y hmem)
  · rcases List.mem_cons.mp hmem with heq | hmem
    · cases heq
      rcases List.mem_cons.mp hmem' with heq' | hmem'
      · cases heq'
        exact ⟨rfl, rfl⟩
      · exact absurd (hw.stored_lt _ _ _ hmem') (lt_irrefl _)
    · rcases List.mem_cons.mp hmem' with heq' | hmem'
      · cases heq'
        exact absurd (hw.stored_lt _ _ _ hmem) (lt_irrefl _)
      · exact hw.stored_unique id x y x' y' hmem hmem'
  · exact hw.issued_lt b use x (List.mem_of_ne_of_mem (by simp) hmem)
  · exact hw.issued_unique b use b' use' x (List.mem_of_ne_of_mem (by simp) hmem)
      (List.mem_of_ne_of_mem (by simp) hmem')

/-- An update keeps what the row is for, and its new code is one for that. -/
theorem Ok.updateChallenge (hw : Ok cfg w) (id : ℕ) {f : Challenge → Challenge}
    (hf : ∀ r ∈ w.challenges, r.id = id → ChallengeOk cfg w.history (f r)) :
    w ≤ (w.updateChallenge id f).2 ∧ Ok cfg (w.updateChallenge id f).2 := by
  unfold Registry.updateChallenge
  split
  · refine ⟨le_refl w, hw.withChallenges fun r' hr' => ?_⟩
    obtain ⟨r, hr, rfl⟩ := List.mem_map.mp hr'
    split
    · next hid => exact hf r hr hid
    · exact hw.challenges r hr
  · exact ⟨le_rfl, hw⟩

/-- The labels of a challenge are of one browser and one address. -/
theorem Ok.labels_unique (hw : Ok cfg w) {b b' : ℕ} {e e' binding email : PyStr}
    (h : LabelsOk cfg w.history b e binding email)
    (h' : LabelsOk cfg w.history b' e' binding email) : b = b' ∧ e = e' := by
  obtain ⟨reference, hissued, hnormal, hbinding, hemail⟩ := h
  obtain ⟨reference', hissued', hnormal', hbinding', hemail'⟩ := h'
  obtain rfl := sessionBindingHash_inj (hbinding.symm.trans hbinding')
  -- a text that was issued twice would be of one browser and one use
  exact ⟨(hw.issued_unique _ _ _ _ _ hissued hissued').1,
    emailHash_inj hnormal hnormal' (hemail.symm.trans hemail')⟩

/-- The HMAC of the code that the challenge had is not written, so the row may keep another
one; its time counts from the code that was drawn again. -/
theorem Ok.reissue (hw : Ok cfg w) {seen : Challenge} {otp : PyStr} {resendAt expiresAt : ℕ}
    (h : ReissueOk cfg w.history seen otp resendAt expiresAt) {r : Challenge}
    (hr : r ∈ w.challenges) (hid : r.id = seen.id) :
    ChallengeOk cfg w.history (seen.reissue otp resendAt expiresAt r) := by
  have hrow := hw.challenges r hr
  have hstored := hrow.stored
  rw [hid] at hstored
  obtain ⟨hbinding, hemail⟩ := hw.stored_unique _ _ _ _ _ h.stored hstored
  obtain ⟨b, e, c, t, hlabels, rfl, hotp, hdrawn⟩ := h.code
  obtain ⟨b', e', hlabels', c', t₀, t', hdrawn', hotp', -, -⟩ := hrow.code
  rw [hbinding, hemail] at hlabels
  obtain ⟨rfl, rfl⟩ := hw.labels_unique hlabels hlabels'
  have hresend : (seen.reissue otp resendAt (t + registrationOtpTtlSeconds * 1000000)
      r).resendAvailableAt = resendAt := if_neg h.moved.1
  have hexpires : (seen.reissue otp resendAt (t + registrationOtpTtlSeconds * 1000000)
      r).expiresAt = t + registrationOtpTtlSeconds * 1000000 := if_neg h.moved.2
  refine ⟨hrow.stored, ⟨b, e, hlabels, ?_⟩, ?_⟩
  · rw [hexpires]
    by_cases hsame : otp = seen.otpHmac
    · rw [if_pos hsame] at hdrawn
      exact ⟨c', t₀, t, hdrawn', (if_pos hsame).trans hotp', .inr ⟨c, hdrawn⟩, rfl⟩
    · rw [if_neg hsame] at hdrawn
      exact ⟨c, t, t, hdrawn, (if_neg hsame).trans hotp, .inl rfl, rfl⟩
  · rw [hresend, hexpires]
    exact h.times

theorem Ok.insertUser (hw : Ok cfg w) {u : User}
    (hu : u.customer = true → ∃ b t, .admitted b u.email t ∈ w.history) :
    w ≤ (w.insertUser cfg u).2 ∧ Ok cfg (w.insertUser cfg u).2 := by
  unfold Registry.insertUser
  split
  · exact ⟨le_rfl, hw⟩
  · refine ⟨le_refl w, hw.withUsers fun v hv => ?_⟩
    rcases List.mem_cons.mp hv with rfl | hv
    · exact fun hcustomer => .inl (hu hcustomer)
    · exact hw.users v hv

/-- The address is left as it is, or was entered for this account. -/
theorem Ok.updateUser (hw : Ok cfg w) {seen : User} {email : Option PyStr}
    (canonical phone : Option PyStr)
    (he : ∀ e, email = some e → ∃ b c t₁ t₂, .entered b (some seen.id) e c t₁ t₂ ∈ w.history) :
    w ≤ (w.updateUser cfg seen email canonical phone).2 ∧
      Ok cfg (w.updateUser cfg seen email canonical phone).2 := by
  unfold Registry.updateUser
  split
  · exact ⟨le_rfl, hw⟩
  next u hfound =>
  dsimp only
  split
  · exact ⟨le_rfl, hw⟩
  refine ⟨le_refl w, hw.withUsers fun v hv => ?_⟩
  obtain ⟨v₀, hv₀, rfl⟩ := List.mem_map.mp hv
  split
  · have hid : u.id = seen.id := by simpa using List.find?_some hfound
    have hu := hw.users u (List.mem_of_find?_eq_some hfound)
    intro hcustomer
    have hassigned : (seen.assign email canonical phone u).email = u.email ∨
        ∃ e, email = some e ∧ (seen.assign email canonical phone u).email = e := by
      cases email with
      | none => exact .inl rfl
      | some e =>
          by_cases hsame : e = seen.email
          · exact .inl (by simp [User.assign, written, hsame])
          · exact .inr ⟨e, rfl, by simp [User.assign, written, hsame]⟩
    rcases hassigned with hsame | ⟨e, hemail, hassigned⟩
    · rw [hsame]
      exact hu hcustomer
    · rw [hassigned, show (seen.assign email canonical phone u).id = u.id from rfl, hid]
      exact .inr (he e hemail)
  · exact hw.users v₀ hv₀

end Steps

/-! ### The contract of the operations -/

/-- What has to be known before an operation. -/
def Before (cfg : Config) (h : List Event) : Op → Prop
  | .note e => e.noted = true ∧ Warranted cfg h e
  | .insertChallenge binding email otp resendAt expiresAt => ∃ b e,
      LabelsOk cfg h b e binding email ∧ CodeOk cfg h b e otp expiresAt ∧ TimesOk resendAt expiresAt
  | .reissueChallenge seen otp resendAt expiresAt => ReissueOk cfg h seen otp resendAt expiresAt
  | .insertUser u => u.customer = true → ∃ b t, .admitted b u.email t ∈ h
  | .updateUser seen email _ _ =>
      ∀ e, email = some e → ∃ b c t₁ t₂, .entered b (some seen.id) e c t₁ t₂ ∈ h
  | _ => True

/-- What is known after it. -/
def After (cfg : Config) (h : List Event) : (o : Op) → Except FlowError (Res o) → Prop
  | .issue b use, r => ∀ x : PyStr, r = .ok x → .issued b use x ∈ h ∧ x ≠ [] ∧ 58 ∉ x
  | .note e, r => ∀ u, r = .ok u → e ∈ h
  | .selectChallenge binding email, r => ∀ c, r = .ok (some c) →
      c.sessionBindingHash = binding ∧ c.emailHash = email ∧ ChallengeOk cfg h c ∧
        ∀ b use x, .issued b use x ∈ h → binding = sessionBindingHash cfg x → DrawnIn cfg h b c
  | .selectUsers p, r => ∀ us : List User, r = .ok us → ∀ u ∈ us, p u = true
  | _, _ => True

theorem Before.later {h h' : List Event} (hh : h <:+ h') {o : Op} (ho : Before cfg h o) :
    Before cfg h' o := by
  cases o with
  | note e => exact ⟨ho.1, ho.2.later hh⟩
  | insertChallenge =>
      obtain ⟨b, e, hlabels, hcode, htimes⟩ := ho
      exact ⟨b, e, hlabels.later hh, hcode.later hh, htimes⟩
  | reissueChallenge => exact ReissueOk.later hh ho
  | insertUser u =>
      intro hcustomer
      obtain ⟨b, t, hadmitted⟩ := ho hcustomer
      exact ⟨b, t, hh.mem hadmitted⟩
  | updateUser =>
      intro e he
      obtain ⟨b, c, t₁, t₂, hentered⟩ := ho e he
      exact ⟨b, c, t₁, t₂, hh.mem hentered⟩
  | ask | time | randbelow | accountDigits | issue | selectChallenge | countAttempt
  | deleteChallenge | deleteExpired | selectUsers => trivial

theorem After.error (h : List Event) (o : Op) (e : FlowError) : After cfg h o (.error e) := by
  cases o with
  | issue => exact fun x hx => nomatch hx
  | note => exact fun x hx => nomatch hx
  | selectChallenge => exact fun x hx => nomatch hx
  | selectUsers => exact fun x hx => nomatch hx
  | ask | time | randbelow | accountDigits | insertChallenge | reissueChallenge | countAttempt
  | deleteChallenge | deleteExpired | insertUser | updateUser => trivial

theorem act_sound {w : Registry} (hw : Ok cfg w) {o : Op} (ho : Before cfg w.history o)
    (c : Choice) : w ≤ (act cfg o c w).2 ∧ Ok cfg (act cfg o c w).2 ∧
      After cfg (act cfg o c w).2.history o (act cfg o c w).1 := by
  cases o with
  | ask | time | randbelow | accountDigits => exact ⟨le_refl w, hw, trivial⟩
  | issue b use =>
      refine ⟨⟨le_rfl, List.suffix_cons ..⟩, hw.issue b use, fun x hx => ?_⟩
      cases hx
      exact ⟨.head _, cfg.secrets.token_ne_nil _, cfg.secrets.token_plain _⟩
  | note e =>
      exact ⟨⟨le_rfl, List.suffix_cons ..⟩, hw.note ho.1 ho.2, fun _ _ => .head _⟩
  | selectChallenge binding email =>
      refine ⟨le_refl w, hw, fun r hr => ?_⟩
      have hfound := Except.ok.inj hr
      have hlabels := List.find?_some hfound
      rw [Bool.and_eq_true, decide_eq_true_eq, decide_eq_true_eq] at hlabels
      have hok := hw.challenges r (List.mem_of_find?_eq_some hfound)
      refine ⟨hlabels.1, hlabels.2, hok, fun b use x hissued hbinding => ?_⟩
      obtain ⟨b', e, ⟨x', hissued', hnormal, hbinding', hemail⟩, hcode⟩ := hok.code
      have hx : x' = x := sessionBindingHash_inj (hbinding'.symm.trans (hlabels.1.trans hbinding))
      rw [hx] at hissued'
      -- a text that was issued twice would be of one browser and one use
      obtain ⟨rfl, -⟩ := hw.issued_unique _ _ _ _ _ hissued hissued'
      exact ⟨e, hnormal, hemail, hcode⟩
  | insertChallenge binding email otp resendAt expiresAt =>
      obtain ⟨b, e, hlabels, hcode, htimes⟩ := ho
      obtain ⟨hle, hok⟩ := hw.insertChallenge hlabels hcode htimes
      exact ⟨hle, hok, trivial⟩
  | reissueChallenge seen otp resendAt expiresAt =>
      obtain ⟨hle, hok⟩ := hw.updateChallenge seen.id fun r hr hid => hw.reissue ho hr hid
      exact ⟨hle, hok, trivial⟩
  | countAttempt seen attempts =>
      have hrow : ∀ r ∈ w.challenges, r.id = seen.id →
          ChallengeOk cfg w.history { r with attemptCount := attempts } :=
        fun r hr _ =>
          ⟨(hw.challenges r hr).stored, (hw.challenges r hr).code, (hw.challenges r hr).times⟩
      obtain ⟨hle, hok⟩ := hw.updateChallenge seen.id hrow
      exact ⟨hle, hok, trivial⟩
  | deleteChallenge seen =>
      exact ⟨le_refl w, hw.withChallenges fun r hr => hw.challenges r (List.mem_of_mem_filter hr),
        trivial⟩
  | deleteExpired now =>
      exact ⟨le_refl w, hw.withChallenges fun r hr => hw.challenges r (List.mem_of_mem_filter hr),
        trivial⟩
  | selectUsers p =>
      refine ⟨le_refl w, hw, fun us hus u hu => ?_⟩
      rw [← Except.ok.inj hus] at hu
      exact List.of_mem_filter hu
  | insertUser u =>
      obtain ⟨hle, hok⟩ := hw.insertUser ho
      exact ⟨hle, hok, trivial⟩
  | updateUser seen email canonical phone =>
      obtain ⟨hle, hok⟩ := hw.updateUser canonical phone ho
      exact ⟨hle, hok, trivial⟩

def contract (cfg : Config) : Contract (exec cfg) (Ok cfg) where
  pre o w := Before cfg w.history o
  post o r w := After cfg w.history o r
  lasts _ _ _ hle ho := ho.later hle.2
  sound _ o c r w w' ho hw he := by
    cases he
    dsimp only
    split
    · exact ⟨⟨Nat.le_add_right .., List.suffix_refl _⟩, hw.tick _, After.error ..⟩
    · obtain ⟨hle, hok, hafter⟩ := act_sound hw ho c
      exact ⟨le_trans hle ⟨Nat.le_add_right .., List.suffix_refl _⟩, hok.tick _, hafter⟩

/-! ### Handlers -/

/-- The session of a handler is in order. -/
def InOrder (cfg : Config) (b : ℕ) (s : Items) (w : Registry) : Prop := ItemsOk cfg b s w.history

theorem inOrder_monotone (b : ℕ) (s : Items) : Monotone (InOrder cfg b s) :=
  fun _ _ hle hs => ItemsOk.later hle.2 hs

section Handlers

variable {b : ℕ} {s : Items} {w : Registry} {α : Type} {V : α → Items → Registry → Prop}

/-- A handler that does nothing which needs a warrant: it leaves the session as it is. -/
def Untouched (s : Items) (_ : α) (s' : Items) (_ : Registry) : Prop := s' = s

theorem serves_require (hs : InOrder cfg b s w) (q : Question) (e : FlowError) :
    (contract cfg).Serves (require q e) (Contract.keeping (InOrder cfg b) (Untouched s)) s w := by
  refine .act (inOrder_monotone b s) hs trivial fun yes w' _ hs' _ => ?_
  cases yes
  · exact hs'
  · exact ⟨hs', rfl⟩

/-- What follows a test. -/
theorem serves_require_next (hs : InOrder cfg b s w) {q : Question} {e : FlowError}
    {f : Unit → Req α}
    (hf : ∀ w', w ≤ w' → InOrder cfg b s w' →
      (contract cfg).Serves (f ()) (Contract.keeping (InOrder cfg b) V) s w') :
    (contract cfg).Serves (require q e >>= f) (Contract.keeping (InOrder cfg b) V) s w := by
  refine (serves_require hs q e).next fun _ s' w' hle hs' hsame => ?_
  cases hsame
  exact hf w' hle hs'

theorem serves_liftIdentity_next (hs : InOrder cfg b s w) {e : IdentityPolicyError → FlowError}
    {r : Except IdentityPolicyError PyStr} {f : PyStr → Req α}
    (hf : ∀ a, r = .ok a →
      (contract cfg).Serves (f a) (Contract.keeping (InOrder cfg b) V) s w) :
    (contract cfg).Serves (liftIdentity e r >>= f) (Contract.keeping (InOrder cfg b) V) s w := by
  cases r with
  | ok a => exact hf a rfl
  | error err => exact hs

theorem serves_bindSession (hs : InOrder cfg b s w) :
    (contract cfg).Serves (bindSession b) (Contract.keeping (InOrder cfg b)
      fun reference _ w' => .issued b .reference reference ∈ w'.history) s w := by
  refine .get_bind ?_
  split
  · next hne => exact ⟨hs, hs.reference hne⟩
  · refine .act (inOrder_monotone b s) hs trivial fun reference w' _ hs' hissued => ?_
    have hmem : .issued b .reference reference ∈ w'.history := (hissued _ rfl).1
    exact ⟨⟨hs'.sid, hs'.sid_plain, fun _ => hmem, hs'.verified, hs'.profile⟩, hmem⟩

/-- What is found was not expired, and its code was drawn in this browser. -/
theorem serves_loadOtpChallenge (hs : InOrder cfg b s w) {reference : PyStr} {use : TokenUse}
    (hissued : .issued b use reference ∈ w.history) (email : PyStr) :
    (contract cfg).Serves (loadOtpChallenge cfg reference email)
      (Contract.keeping (InOrder cfg b) fun r s' w' => s' = s ∧ ∀ c t, r = some (c, t) →
        t < c.expiresAt ∧ (c.sessionBindingHash = sessionBindingHash cfg reference ∧
          c.emailHash = emailHash cfg email ∧ ChallengeOk cfg w'.history c) ∧
        DrawnIn cfg w'.history b c) s w := by
  refine .act (inOrder_monotone b s) hs trivial fun found w₁ hle₁ hs₁ hfound => ?_
  cases found with
  | none => exact ⟨hs₁, rfl, fun _ _ hr => by cases hr⟩
  | some c =>
      obtain ⟨hbinding, hemail, hok, hdrawn⟩ := hfound c rfl
      have hdrawn := hdrawn b use reference (hle₁.2.mem hissued) rfl
      refine .act (inOrder_monotone b s) hs₁ trivial fun now w₂ hle₂ hs₂ _ => ?_
      split
      · refine .act (inOrder_monotone b s) hs₂ trivial fun _ w₃ _ hs₃ _ => ?_
        exact ⟨hs₃, rfl, fun _ _ hr => by cases hr⟩
      · next hexpires =>
          refine ⟨hs₂, rfl, fun c' t hr => ?_⟩
          cases hr
          exact ⟨Nat.lt_of_not_le hexpires, ⟨hbinding, hemail, hok.later hle₂.2⟩,
            hdrawn.later hle₂.2⟩

theorem clearProgress_ok (hs : InOrder cfg b s w) :
    InOrder cfg b (clearRegistrationProgressState s) w :=
  ⟨hs.sid, hs.sid_plain, hs.reference, fun hne => absurd rfl hne, hs.profile⟩

theorem clearSession_ok (hs : InOrder cfg b s w) :
    InOrder cfg b (clearRegistrationSessionState s) w :=
  ⟨hs.sid, hs.sid_plain, fun hne => absurd rfl hne, fun hne => absurd rfl hne, hs.profile⟩

theorem clearPending_ok (hs : InOrder cfg b s w) :
    InOrder cfg b (clearPendingProfileEmailChange s) w :=
  ⟨hs.sid, hs.sid_plain, hs.reference, hs.verified, fun hne => absurd rfl hne⟩

/-- A challenge that is read, whose code may be replaced at `now`. -/
structure Replaceable (cfg : Config) (h : List Event) (b : ℕ) (reference email : PyStr) (now : ℕ)
    (c : Challenge) : Prop where
  binding : c.sessionBindingHash = sessionBindingHash cfg reference
  email : c.emailHash = emailHash cfg email
  ok : ChallengeOk cfg h c
  drawn : DrawnIn cfg h b c
  cooled : ¬0 < retryAfter c now

theorem Replaceable.later {h h' : List Event} (hh : h <:+ h') {reference email : PyStr} {now : ℕ}
    {c : Challenge} (hc : Replaceable cfg h b reference email now c) :
    Replaceable cfg h' b reference email now c :=
  ⟨hc.binding, hc.email, hc.ok.later hh, hc.drawn.later hh, hc.cooled⟩

theorem retryAfter_pos {c : Challenge} {now : ℕ}
    (h : c.resendAvailableAt = now + registrationOtpResendCooldownSeconds * 1000000) :
    0 < retryAfter c now := by
  have hgap : (c.resendAvailableAt : ℤ) - now = 60000000 := by
    rw [h, registrationOtpResendCooldownSeconds]
    omega
  unfold retryAfter
  rw [hgap]
  decide

theorem Replaceable.moved {h : List Event} {reference email : PyStr} {now : ℕ} {c : Challenge}
    (hc : Replaceable cfg h b reference email now c) :
    now + registrationOtpResendCooldownSeconds * 1000000 ≠ c.resendAvailableAt ∧
      now + registrationOtpTtlSeconds * 1000000 ≠ c.expiresAt := by
  refine ⟨fun heq => hc.cooled (retryAfter_pos heq.symm), fun heq => ?_⟩
  have htimes := hc.ok.times
  unfold TimesOk at htimes
  rw [← heq, Nat.add_right_comm] at htimes
  exact hc.cooled (retryAfter_pos (Nat.add_right_cancel htimes))

/-- The event of a code may be noted: what the challenge has was drawn before. -/
theorem warranted_drawnCode {h : List Event} {reference email : PyStr} {now : ℕ} (code : PyStr)
    (hnormal : Normal cfg email) {found : Option Challenge}
    (hfound : ∀ c, found = some c → Replaceable cfg h b reference email now c) :
    (drawnCode cfg b email code now found).noted = true ∧
      Warranted cfg h (drawnCode cfg b email code now found) := by
  cases found with
  | none => exact ⟨rfl, trivial⟩
  | some c =>
      have hc := hfound c rfl
      unfold drawnCode
      dsimp only
      split
      · next hsame =>
          obtain ⟨e, hnormal', hemail, c', t₀, t, hdrawn, hotp, -, -⟩ := hc.drawn
          obtain rfl := emailHash_inj hnormal hnormal' (hc.email.symm.trans hemail)
          obtain rfl := otpHmac_inj (hsame.symm.trans hotp)
          exact ⟨rfl, t₀, hdrawn⟩
      · exact ⟨rfl, trivial⟩

/-- A challenge may be stored once its code has been drawn. -/
theorem serves_storeOtp (hs : InOrder cfg b s w) {reference email code : PyStr} {now : ℕ}
    (hissued : .issued b .reference reference ∈ w.history) (hnormal : Normal cfg email)
    {found : Option Challenge} (hdrawn : drawnCode cfg b email code now found ∈ w.history)
    (hfound : ∀ c, found = some c → Replaceable cfg w.history b reference email now c) :
    (contract cfg).Serves (storeOtp cfg reference email code now found)
      (Contract.keeping (InOrder cfg b) (Untouched s)) s w := by
  have hlabels : LabelsOk cfg w.history b email (sessionBindingHash cfg reference)
      (emailHash cfg email) := ⟨reference, hissued, hnormal, rfl, rfl⟩
  have htimes : TimesOk (now + registrationOtpResendCooldownSeconds * 1000000)
      (now + registrationOtpTtlSeconds * 1000000) := Nat.add_right_comm ..
  cases found with
  | none =>
      have hcode : CodeOk cfg w.history b email (otpHmac cfg email code)
          (now + registrationOtpTtlSeconds * 1000000) :=
        ⟨code, now, now, hdrawn, rfl, .inl rfl, rfl⟩
      exact .last (inOrder_monotone b s) hs ⟨b, email, hlabels, hcode, htimes⟩
        fun _ _ _ _ _ => rfl
  | some c =>
      have hc := hfound c rfl
      rw [← hc.binding, ← hc.email] at hlabels
      have hreissue : ReissueOk cfg w.history c (otpHmac cfg email code)
          (now + registrationOtpResendCooldownSeconds * 1000000)
          (now + registrationOtpTtlSeconds * 1000000) := by
        refine ⟨hc.ok.stored, hc.moved, htimes, b, email, code, now, hlabels, rfl, rfl, ?_⟩
        unfold drawnCode at hdrawn
        dsimp only at hdrawn
        split
        · next hsame =>
            rw [if_pos hsame.symm] at hdrawn
            exact hdrawn
        · next hne =>
            rw [if_neg (Ne.symm hne)] at hdrawn
            exact hdrawn
      exact .act (inOrder_monotone b s) hs hreissue fun _ _ _ hs' _ => ⟨hs', rfl⟩

theorem serves_sendOtp (hs : InOrder cfg b s w) {reference email : PyStr} {now : ℕ}
    (hissued : .issued b .reference reference ∈ w.history) (hnormal : Normal cfg email)
    {found : Option Challenge}
    (hfound : ∀ c, found = some c → Replaceable cfg w.history b reference email now c) :
    (contract cfg).Serves (sendOtp cfg b reference email found now)
      (Contract.keeping (InOrder cfg b) fun _ _ _ => True) s w := by
  refine .act (inOrder_monotone b s) hs trivial fun number w₁ hle₁ hs₁ _ => .change ?_
  have hclear := clearProgress_ok hs₁
  have hnoted := warranted_drawnCode (sixDigits number) hnormal fun c hc =>
    (hfound c hc).later hle₁.2
  refine .act (inOrder_monotone b _) hclear hnoted fun _ w₂ hle₂ hs₂ hdrawn => ?_
  have hle := le_trans hle₁ hle₂
  refine (serves_storeOtp hs₂ (hle.2.mem hissued) hnormal (hdrawn _ rfl) fun c hc =>
    (hfound c hc).later hle.2).next ?_
  rintro c s₃ w₃ - hs₃ rfl
  refine .act (inOrder_monotone b _) hs₃ trivial fun sent w₄ _ hs₄ _ => ?_
  cases sent with
  | true =>
      exact ⟨⟨hs₄.sid, hs₄.sid_plain, hs₄.reference, hs₄.verified, hs₄.profile⟩, trivial⟩
  | false =>
      exact .act (inOrder_monotone b _) hs₄ trivial fun _ w₅ _ hs₅ _ => clearProgress_ok hs₅

theorem serves_requestRegistrationOtp (hs : InOrder cfg b s w) (email : PyStr) :
    (contract cfg).Serves (requestRegistrationOtp cfg b email)
      (Contract.keeping (InOrder cfg b) fun _ _ _ => True) s w := by
  refine .act (inOrder_monotone b s) hs trivial fun limited w₁ _ hs₁ _ => .unless hs₁ fun _ => ?_
  refine serves_liftIdentity_next hs₁ fun e he => serves_liftIdentity_next hs₁ fun canonical _ => ?_
  refine .act (inOrder_monotone b s) hs₁ trivial fun existing w₂ _ hs₂ _ => ?_
  split
  · exact ⟨hs₂, trivial⟩
  refine .act (inOrder_monotone b s) hs₂ trivial fun now w₃ _ hs₃ _ => ?_
  refine (serves_bindSession hs₃).next fun reference s₄ w₄ _ hs₄ hissued => ?_
  refine (serves_loadOtpChallenge hs₄ hissued e).next fun found s₅ w₅ hle₅ hs₅ hfound => ?_
  obtain ⟨rfl, hfound⟩ := hfound
  have hissued := hle₅.2.mem hissued
  cases found with
  | none => exact serves_sendOtp hs₅ hissued (normal_of_require he) fun c hc => by cases hc
  | some found =>
      obtain ⟨-, ⟨hbinding, hemail, hok⟩, hdrawn⟩ := hfound found.1 found.2 rfl
      refine .unless hs₅ fun hcooled => serves_sendOtp hs₅ hissued (normal_of_require he) ?_
      intro c hc
      cases hc
      exact ⟨hbinding, hemail, hok, hdrawn, of_decide_eq_false hcooled⟩

/-- An accepted code is the one that was drawn in this browser for this address. -/
theorem serves_checkOtp (hs : InOrder cfg b s w) {email : PyStr} (hnormal : Normal cfg email)
    (otpCode : PyStr) {c : Challenge} {t : ℕ} (ht : t < c.expiresAt)
    (hemail : c.emailHash = emailHash cfg email) (hdrawn : DrawnIn cfg w.history b c) :
    (contract cfg).Serves (checkOtp cfg b email otpCode c t)
      (Contract.keeping (InOrder cfg b) fun _ _ _ => True) s w := by
  unfold checkOtp
  split
  · next hotp =>
      refine .act (inOrder_monotone b s) hs trivial fun _ w₁ hle₁ hs₁ _ => ?_
      refine .act (inOrder_monotone b s) hs₁ trivial fun now w₂ hle₂ hs₂ _ => ?_
      obtain ⟨e, hnormal', hemail', code, t₀, t', hdrawn, hotp', hcounts, hexpires⟩ :=
        hdrawn.later (hle₁.2.trans hle₂.2)
      have hsame : email = e := emailHash_inj hnormal hnormal' (hemail.symm.trans hemail')
      rw [← hsame] at hotp' hdrawn hcounts
      have hcode : PyStr.strip otpCode = code := otpHmac_inj (hotp.symm.trans hotp')
      rw [← hcode] at hdrawn
      have htime : InTime cfg w₂.history b email t₀ t none :=
        ⟨t', hcounts, lt_of_lt_of_eq ht hexpires⟩
      have hwarrant : Warranted cfg w₂.history
          (.entered b none email (PyStr.strip otpCode) t now) := ⟨t₀, hdrawn, htime⟩
      refine .act (inOrder_monotone b s) hs₂ ⟨rfl, hwarrant⟩ fun _ w₃ _ hs₃ hentered => ?_
      exact ⟨⟨hs₃.sid, hs₃.sid_plain, hs₃.reference,
        fun _ => ⟨hnormal, _, t, now, hentered _ rfl, rfl⟩, hs₃.profile⟩, trivial⟩
  · split
    · exact .act (inOrder_monotone b s) hs trivial fun _ w₁ _ hs₁ _ => hs₁
    · exact .act (inOrder_monotone b s) hs trivial fun _ w₁ _ hs₁ _ => hs₁

/-- The reference of a session was issued to its browser. -/
theorem issued_sessionReference (hs : InOrder cfg b s w) :
    ∃ use, .issued b use (sessionReference s) ∈ w.history := by
  unfold sessionReference
  split
  · next hne => exact ⟨.reference, hs.reference hne⟩
  · rw [if_pos hs.sid_plain.1]
    exact ⟨.sessionId, hs.sid⟩

theorem serves_verifyRegistrationOtp (hs : InOrder cfg b s w) (email otpCode : PyStr) :
    (contract cfg).Serves (verifyRegistrationOtp cfg b email otpCode)
      (Contract.keeping (InOrder cfg b) fun _ _ _ => True) s w := by
  refine serves_liftIdentity_next hs fun e he => .get_bind ?_
  obtain ⟨use, hissued⟩ := issued_sessionReference hs
  refine (serves_loadOtpChallenge hs hissued e).next fun found s₁ w₁ _ hs₁ hfound => ?_
  cases found with
  | none => exact hs₁
  | some found =>
      obtain ⟨ht, ⟨-, hemail, -⟩, hdrawn⟩ := hfound.2 found.1 found.2 rfl
      exact serves_checkOtp hs₁ (normal_of_require he) otpCode ht hemail hdrawn

theorem serves_registerOtpVerify (hs : InOrder cfg b s w) (otpCode : PyStr) :
    (contract cfg).Serves (registerOtpVerify cfg b otpCode)
      (Contract.keeping (InOrder cfg b) fun _ _ _ => True) s w := by
  refine .get_bind (serves_require_next hs fun w₁ _ hs₁ => .unless hs₁ fun _ => ?_)
  exact serves_verifyRegistrationOtp hs₁ _ otpCode

/-- A verified address that is still valid. -/
theorem serves_currentVerified (hs : InOrder cfg b s w) :
    (contract cfg).Serves (currentVerifiedRegistrationEmail cfg b)
      (Contract.keeping (InOrder cfg b) fun r _ w' => ∀ e, r = some e →
        ∃ t, .admitted b e t ∈ w'.history) s w := by
  refine .get_bind (.act (inOrder_monotone b s) hs trivial fun now w₁ _ hs₁ _ => ?_)
  split
  · exact ⟨hs₁, fun _ hr => by cases hr⟩
  next hne =>
  split
  · exact ⟨clearSession_ok hs₁, fun _ hr => by cases hr⟩
  next hvalid =>
  have hstored : s.registrationOtpVerifiedEmail ≠ [] := fun hnil => hne (by rw [hnil]; rfl)
  obtain ⟨hnormal, c, t₁, t₂, hentered, hat⟩ := hs₁.verified hstored
  rw [normalize_normal hnormal]
  have hwarrant : Warranted cfg w₁.history
      (.admitted b s.registrationOtpVerifiedEmail now) := by
    refine ⟨c, t₁, t₂, hentered, ?_⟩
    rw [← hat]
    exact Nat.le_of_not_lt fun hlt => hvalid (.inr hlt)
  refine .act (inOrder_monotone b s) hs₁ ⟨rfl, hwarrant⟩ fun _ w₂ _ hs₂ hadmitted => ?_
  refine ⟨hs₂, fun e he => ⟨now, ?_⟩⟩
  cases he
  exact hadmitted _ rfl

theorem serves_requireVerified (hs : InOrder cfg b s w) (email : Option PyStr) :
    (contract cfg).Serves (requireVerifiedRegistrationEmail cfg b email)
      (Contract.keeping (InOrder cfg b) fun e _ w' => ∃ t, .admitted b e t ∈ w'.history) s w := by
  cases email with
  | none =>
      refine (serves_currentVerified hs).next fun verified s₁ w₁ _ hs₁ hverified => ?_
      cases verified with
      | none => exact hs₁
      | some e => exact ⟨hs₁, hverified e rfl⟩
  | some email =>
      refine serves_liftIdentity_next hs fun e _ => ?_
      refine (serves_currentVerified hs).next fun verified s₁ w₁ _ hs₁ hverified => ?_
      split
      · next heq => exact ⟨hs₁, hverified e heq⟩
      · exact hs₁

theorem serves_generateAccountNumber (hs : InOrder cfg b s w) (tries : ℕ) :
    (contract cfg).Serves (generateAccountNumber tries)
      (Contract.keeping (InOrder cfg b) (Untouched s)) s w := by
  induction tries generalizing w with
  | zero => exact hs
  | succ tries ih =>
      refine .act (inOrder_monotone b s) hs trivial fun candidate w₁ _ hs₁ _ => ?_
      refine .act (inOrder_monotone b s) hs₁ trivial fun found w₂ _ hs₂ _ => ?_
      split
      · exact ⟨hs₂, rfl⟩
      · exact ih hs₂

theorem serves_commitUser (hs : InOrder cfg b s w) {u : User}
    (hu : u.customer = true → ∃ b t, .admitted b u.email t ∈ w.history) :
    (contract cfg).Serves (commitUser u) (Contract.keeping (InOrder cfg b) (Untouched s)) s w := by
  have hinsert : (contract cfg).Serves (insertUser u)
      (fun _ s' w' => InOrder cfg b s' w' ∧ s' = s) s w :=
    .perform hu fun _ _ hle _ => ⟨inOrder_monotone b s hle hs, rfl⟩
  exact hinsert.tryCatch (fun _ _ _ _ h => ⟨h.1, h.2⟩) fun _ _ _ _ h => h.1

theorem serves_registerUser (hs : InOrder cfg b s w) (data : RegistrationData) :
    (contract cfg).Serves (registerUser cfg b data)
      (Contract.keeping (InOrder cfg b) fun _ _ _ => True) s w := by
  refine (serves_requireVerified hs data.email).next fun e s₁ w₁ _ hs₁ hadmitted => ?_
  obtain ⟨t, hadmitted⟩ := hadmitted
  refine serves_liftIdentity_next hs₁ fun canonical _ => ?_
  refine serves_require_next hs₁ fun w₂ hle₂ hs₂ => ?_
  refine serves_require_next hs₂ fun w₃ hle₃ hs₃ => ?_
  refine .act (inOrder_monotone b s₁) hs₃ trivial fun _ w₄ hle₄ hs₄ _ => .unless hs₄ fun _ => ?_
  refine .act (inOrder_monotone b s₁) hs₄ trivial fun _ w₅ hle₅ hs₅ _ => .unless hs₅ fun _ => ?_
  refine .act (inOrder_monotone b s₁) hs₅ trivial fun _ w₆ hle₆ hs₆ _ => .unless hs₆ fun _ => ?_
  refine (serves_generateAccountNumber hs₆ 10).next fun number s₇ w₇ hle₇ hs₇ hsame => ?_
  cases hsame
  refine serves_require_next hs₇ fun w₈ hle₈ hs₈ => serves_require_next hs₈ fun w₉ hle₉ hs₉ => ?_
  have hle : w₁ ≤ w₉ := hle₂.trans <| hle₃.trans <| hle₄.trans <| hle₅.trans <| hle₆.trans <|
    hle₇.trans <| hle₈.trans hle₉
  refine (serves_commitUser hs₉ fun _ => ⟨b, t, hle.2.mem hadmitted⟩).next ?_
  rintro _ s₁₀ w₁₀ - hs₁₀ -
  refine .modify ⟨?_, trivial⟩
  unfold consumeVerifiedRegistrationEmail
  split
  · exact clearSession_ok hs₁₀
  · exact hs₁₀

theorem serves_registerSubmit (hs : InOrder cfg b s w) (data : RegistrationData) :
    (contract cfg).Serves (registerSubmit cfg b data)
      (Contract.keeping (InOrder cfg b) fun _ _ _ => True) s w := by
  refine (serves_currentVerified hs).next fun verified s₁ w₁ _ hs₁ _ => .unless hs₁ fun _ => ?_
  exact serves_require_next hs₁ fun w₂ _ hs₂ => serves_registerUser hs₂ _

/-! ### The profile -/

theorem serves_loadUser (hs : InOrder cfg b s w) (id : ℕ) :
    (contract cfg).Serves (loadUser id)
      (Contract.keeping (InOrder cfg b) fun u s' _ => s' = s ∧ u.id = id) s w := by
  refine .act (inOrder_monotone b s) hs trivial fun found w₁ _ hs₁ hfound => ?_
  cases found with
  | nil => exact hs₁
  | cons u us => exact ⟨hs₁, rfl, of_decide_eq_true (hfound _ rfl u (.head _))⟩

theorem serves_stepUp (hs : InOrder cfg b s w) :
    (contract cfg).Serves (verifyHighRiskAuthorization b)
      (Contract.keeping (InOrder cfg b) fun _ _ _ => True) s w := by
  refine serves_require_next hs fun w₁ _ hs₁ => ?_
  refine .act (inOrder_monotone b s) hs₁ trivial fun sid w₂ _ hs₂ hissued => ?_
  obtain ⟨hissued, hplain⟩ := hissued _ rfl
  exact ⟨⟨hissued, hplain, hs₂.reference, hs₂.verified, hs₂.profile⟩, trivial⟩

theorem serves_profileUpdateValues (hs : InOrder cfg b s w) (user : User)
    (email phoneNumber : PyStr) :
    (contract cfg).Serves (profileUpdateValues cfg user email phoneNumber)
      (Contract.keeping (InOrder cfg b) (Untouched s)) s w := by
  refine .unless hs fun _ => ?_
  split
  · exact ⟨hs, rfl⟩
  · exact serves_liftIdentity_next hs fun e _ => ⟨hs, rfl⟩

theorem serves_rejectDuplicates (hs : InOrder cfg b s w) (user : User) (email phone : PyStr) :
    (contract cfg).Serves (rejectDuplicateProfileIdentifiers cfg user email phone)
      (Contract.keeping (InOrder cfg b) (Untouched s)) s w := by
  refine serves_liftIdentity_next hs fun canonical _ => ?_
  refine .act (inOrder_monotone b s) hs trivial fun others w₁ _ hs₁ _ => .unless hs₁ fun _ => ?_
  cases others with
  | nil => exact ⟨hs₁, rfl⟩
  | cons u us => exact hs₁

theorem serves_createChallenge (hs : InOrder cfg b s w) (id : ℕ) (email phone : PyStr) :
    (contract cfg).Serves (createProfileEmailChangeChallenge cfg b id email phone)
      (Contract.keeping (InOrder cfg b) fun _ _ _ => True) s w := by
  refine .act (inOrder_monotone b s) hs trivial fun number w₁ _ hs₁ _ => ?_
  refine .act (inOrder_monotone b s) hs₁ trivial fun now w₂ _ hs₂ _ => ?_
  refine .act (inOrder_monotone b s) hs₂ ⟨rfl, trivial⟩ fun _ w₃ _ hs₃ hdrawn => .change ?_
  refine .act (inOrder_monotone b _) ?_ trivial fun sent w₄ _ hs₄ _ => ?_
  · refine ⟨hs₃.sid, hs₃.sid_plain, hs₃.reference, hs₃.verified, fun _ => ?_⟩
    exact ⟨id, s.sid, sixDigits number, now, hdrawn _ rfl, hs₃.sid_plain.2, rfl, rfl⟩
  · cases sent with
    | true => exact ⟨hs₄, trivial⟩
    | false => exact clearPending_ok hs₄

theorem serves_pending (hs : InOrder cfg b s w) :
    (contract cfg).Serves pendingProfileEmailChange
      (Contract.keeping (InOrder cfg b) fun r s' _ => ∀ now, r = some now →
        s'.profileEmailPendingCodeHmac ≠ [] ∧
          seconds now < s'.profileEmailPendingExpiresAt) s w := by
  refine .get_bind (.act (inOrder_monotone b s) hs trivial fun now w₁ _ hs₁ _ => ?_)
  split
  · exact ⟨clearPending_ok hs₁, fun _ hr => by cases hr⟩
  · next hvalid =>
      rw [not_or, Bool.not_eq_true, Bool.not_eq_false', Nat.not_le] at hvalid
      have hcomplete := hvalid.1
      simp only [Items.pendingComplete, Bool.and_eq_true, decide_eq_true_eq] at hcomplete
      refine ⟨hs₁, fun t ht => ?_⟩
      cases ht
      exact ⟨hcomplete.2, hvalid.2⟩

/-- An accepted code is the one that was drawn for this account and this address. -/
theorem serves_validateCode (hs : InOrder cfg b s w) (id : ℕ) (email phone code : PyStr) :
    (contract cfg).Serves (validateProfileEmailChangeCode cfg b id email phone code)
      (Contract.keeping (InOrder cfg b) fun _ _ w' =>
        ∃ c t₁ t₂, .entered b (some id) email c t₁ t₂ ∈ w'.history) s w := by
  refine (serves_pending hs).next fun pending s₁ w₁ _ hs₁ hpending => .get_bind ?_
  cases pending with
  | none => exact hs₁
  | some now =>
      obtain ⟨hset, hexpires⟩ := hpending now rfl
      refine .unless hs₁ fun hemail => .unless hs₁ fun _ => .unless hs₁ fun hcode => ?_
      have hemail := of_not_not (of_decide_eq_false hemail)
      have hcode := of_not_not (of_decide_eq_false hcode)
      obtain ⟨id', sid, c, t₀, hdrawn, hplain, hhmac, hat⟩ := hs₁.profile hset
      rw [hemail] at hdrawn hhmac
      obtain ⟨rfl, rfl⟩ := profileEmailCodeHmac_inj hplain hs₁.sid_plain.2
        (hhmac.symm.trans hcode)
      have htime : InTime cfg w₁.history b email t₀ now
          (some id') := lt_of_lt_of_eq hexpires hat
      have hwarrant : Warranted cfg w₁.history
          (.entered b (some id') email (PyStr.strip code) now now) := ⟨t₀, hdrawn, htime⟩
      exact .last (inOrder_monotone b s₁) hs₁ ⟨rfl, hwarrant⟩ fun _ _ _ _ hentered =>
        ⟨_, now, now, hentered _ rfl⟩

theorem serves_commitProfileUpdate (hs : InOrder cfg b s w) {id : ℕ} {email : Option PyStr}
    (phone : Option PyStr)
    (hentered : ∀ e, email = some e → ∃ c t₁ t₂, .entered b (some id) e c t₁ t₂ ∈ w.history) :
    (contract cfg).Serves (commitProfileUpdate cfg id email phone)
      (Contract.keeping (InOrder cfg b) fun _ _ _ => True) s w := by
  refine (serves_loadUser hs id).next fun u s₁ w₁ hle₁ hs₁ hu => ?_
  obtain ⟨rfl, rfl⟩ := hu
  cases email with
  | none =>
      refine serves_require_next hs₁ fun w₂ _ hs₂ => ?_
      exact .last (inOrder_monotone b _) hs₂ (fun e he => by cases he) fun _ _ _ _ _ => trivial
  | some email =>
      refine serves_liftIdentity_next hs₁ fun canonical _ => ?_
      refine serves_require_next hs₁ fun w₂ hle₂ hs₂ => ?_
      refine .act (inOrder_monotone b _) hs₂ (fun e he => ?_) fun _ w₃ _ hs₃ _ =>
        ⟨clearPending_ok hs₃, trivial⟩
      obtain ⟨c, t₁, t₂, hmem⟩ := hentered e he
      exact ⟨b, c, t₁, t₂, (le_trans hle₁ hle₂).2.mem hmem⟩

theorem serves_updateProfileDetails (hs : InOrder cfg b s w) (id : ℕ)
    (email phoneNumber code : PyStr) :
    (contract cfg).Serves (updateProfileDetails cfg b id email phoneNumber code)
      (Contract.keeping (InOrder cfg b) fun _ _ _ => True) s w := by
  refine (serves_loadUser hs id).next fun user s₁ w₁ _ hs₁ _ => ?_
  refine (serves_profileUpdateValues hs₁ user email phoneNumber).next ?_
  rintro ⟨newEmail, phone⟩ s₂ w₂ - hs₂ -
  dsimp only
  generalize (if user.phoneNumber = some phone then none else some phone) = newPhone
  split
  · exact ⟨hs₂, trivial⟩
  refine serves_require_next hs₂ fun w₃ _ hs₃ => ?_
  cases newEmail with
  | none =>
      refine (serves_rejectDuplicates hs₃ user _ phone).next fun _ s₄ w₄ _ hs₄ _ => ?_
      refine (serves_stepUp hs₄).next fun _ s₅ w₅ _ hs₅ _ => ?_
      exact serves_commitProfileUpdate hs₅ _ fun e he => by cases he
  | some newEmail =>
      refine (serves_rejectDuplicates hs₃ user newEmail phone).next fun _ s₄ w₄ _ hs₄ _ => ?_
      split
      · refine (serves_stepUp hs₄).next fun _ s₅ w₅ _ hs₅ _ => ?_
        exact serves_createChallenge hs₅ id newEmail phone
      · refine (serves_validateCode hs₄ id newEmail phone code).next
          fun _ s₅ w₅ _ hs₅ hentered => ?_
        refine (serves_stepUp hs₅).next fun _ s₆ w₆ hle₆ hs₆ _ => ?_
        refine serves_commitProfileUpdate hs₆ _ fun e he => ?_
        cases he
        obtain ⟨c, t₁, t₂, hmem⟩ := hentered
        exact ⟨c, t₁, t₂, hle₆.2.mem hmem⟩

/-! ### Requests -/

/-- Every request hands back a session that is in order. -/
theorem serves_handler (hs : InOrder cfg b s w) (r : Request) :
    (contract cfg).Serves (r.handler cfg b)
      (Contract.keeping (InOrder cfg b) fun _ _ _ => True) s w := by
  cases r with
  | registerOtpRequest email => exact serves_requestRegistrationOtp hs email
  | registerOtpVerifyApi email otpCode => exact serves_verifyRegistrationOtp hs email otpCode
  | registerOtpVerify otpCode => exact serves_registerOtpVerify hs otpCode
  | registerForm => exact (serves_currentVerified hs).next fun _ _ _ _ hs' _ => ⟨hs', trivial⟩
  | registerApi data => exact serves_registerUser hs data
  | registerSubmit data => exact serves_registerSubmit hs data
  | profile => exact (serves_pending hs).next fun _ _ _ _ hs' _ => ⟨hs', trivial⟩
  | profileSubmit email phoneNumber code =>
      refine .get_bind ?_
      split
      · exact hs
      · next id _ => exact serves_updateProfileDetails hs id email phoneNumber code
  | signIn user =>
      refine .act (inOrder_monotone b s) hs trivial fun sid w₁ _ _ hissued => ?_
      obtain ⟨hissued, hplain⟩ := hissued _ rfl
      exact ⟨⟨hissued, hplain, fun hne => absurd rfl hne, fun hne => absurd rfl hne,
        fun hne => absurd rfl hne⟩, trivial⟩
  | signOut =>
      exact ⟨⟨hs.sid, hs.sid_plain, fun hne => absurd rfl hne, fun hne => absurd rfl hne,
        fun hne => absurd rfl hne⟩, trivial⟩
  | stepUp => exact serves_stepUp hs
  | cleanup =>
      refine .act (inOrder_monotone b s) hs trivial fun now w₁ _ hs₁ _ => ?_
      exact .last (inOrder_monotone b s) hs₁ trivial fun _ _ _ _ _ => trivial
  | staff u =>
      exact (serves_commitUser hs fun hcustomer => by cases hcustomer).next
        fun _ _ _ _ hs' _ => ⟨hs', trivial⟩

end Handlers

theorem trusted (cfg : Config) :
    Contract.Trusted (Ok cfg) (blank cfg) fun w b s => InOrder cfg b s w where
  lasts b s := inOrder_monotone b s
  opens w b hw := by
    refine ⟨⟨le_rfl, List.suffix_cons ..⟩, hw.issue b .sessionId, ?_⟩
    exact ⟨.head _, ⟨cfg.secrets.token_ne_nil _, cfg.secrets.token_plain _⟩,
      fun hne => absurd rfl hne, fun hne => absurd rfl hne, fun hne => absurd rfl hne⟩

theorem ok_start (cfg : Config) (clock : ℕ) : Ok cfg ⟨clock, [], [], 0, 0, 0, []⟩ where
  honest := trivial
  challenges _ hr := absurd hr List.not_mem_nil
  stored_lt _ _ _ hmem := absurd hmem List.not_mem_nil
  stored_unique _ _ _ _ _ hmem := absurd hmem List.not_mem_nil
  issued_lt _ _ _ hmem := absurd hmem List.not_mem_nil
  issued_unique _ _ _ _ _ hmem := absurd hmem List.not_mem_nil
  users _ hu := absurd hu List.not_mem_nil

/-! ### Runs -/

/-- Before this event a code of the browser's and the address was drawn once more, at `t`. -/
def DrawnAgain (h : List Event) (b : ℕ) (email : PyStr) (t : ℕ) (e : Event) : Prop :=
  ∃ code firstAt,
    List.Sublist [e, .redrawn b email code t, .drawn b none email code firstAt] h

/-- In this browser a code was drawn for the address, was entered before it had expired, and
the account was admitted in time; histories have the newest event first. A code expires five
minutes after it was drawn. Where two requests replace the code of one challenge and one of them
draws the code that the challenge has, its `UPDATE` leaves the HMAC out and sets the time only:
then the minutes of the other code count from there. -/
def Registered (h : List Event) (email : PyStr) : Prop :=
  ∃ b code drawnAt countsFrom checkedAt acceptedAt admittedAt,
    List.Sublist [.admitted b email admittedAt, .entered b none email code checkedAt acceptedAt,
      .drawn b none email code drawnAt] h ∧
    (countsFrom = drawnAt ∨
      DrawnAgain h b email countsFrom (.entered b none email code checkedAt acceptedAt)) ∧
    checkedAt < countsFrom + registrationOtpTtlSeconds * 1000000 ∧
    seconds admittedAt ≤ seconds acceptedAt + registrationOtpTtlSeconds

/-- In this browser a code was drawn for the account and the address, and was entered before it
had expired. -/
def Changed (cfg : Config) (h : List Event) (id : ℕ) (email : PyStr) : Prop :=
  ∃ b code drawnAt checkedAt acceptedAt,
    List.Sublist [.entered b (some id) email code checkedAt acceptedAt,
      .drawn b (some id) email code drawnAt] h ∧
    seconds checkedAt < seconds drawnAt + cfg.profileEmailChangeTtlSeconds

theorem proved_of_ok {w : Registry} (hw : Ok cfg w) {u : User} (hu : u ∈ w.users)
    (hcustomer : u.customer = true) :
    Registered w.history u.email ∨ Changed cfg w.history u.id u.email := by
  rcases hw.users u hu hcustomer with ⟨b, t₃, hadmitted⟩ | ⟨b, c, t₁, t₂, hentered⟩
  · obtain ⟨h₁, hsuffix, c, t₁, t₂, hentered, hadmittedAt⟩ := hw.honest.of_mem hadmitted
    have hhonest : Honest (Warranted cfg) h₁ := hw.honest.of_suffix hsuffix
    obtain ⟨h₂, hsuffix', t₀, hdrawn, t, hcounts, htime⟩ := hhonest.of_mem hentered
    refine .inl ⟨b, c, t₀, t, t₁, t₂, t₃, ?_, ?_, htime, hadmittedAt⟩
    · exact sublist_of_suffix hsuffix
        (sublist_of_suffix hsuffix' (List.singleton_sublist.mpr hdrawn))
    · rcases hcounts with heq | ⟨again, hredrawn⟩
      · exact .inl heq
      · obtain ⟨h₃, hsuffix'', firstAt, hfirst⟩ := (hhonest.of_suffix hsuffix').of_mem hredrawn
        have hsublist : List.Sublist [.entered b none u.email c t₁ t₂, .redrawn b u.email again t,
            .drawn b none u.email again firstAt] h₁ :=
          sublist_of_suffix hsuffix'
            (sublist_of_suffix hsuffix'' (List.singleton_sublist.mpr hfirst))
        have hbefore : h₁ <:+ w.history := (List.suffix_cons _ h₁).trans hsuffix
        exact .inr ⟨again, firstAt, hsublist.trans hbefore.sublist⟩
  · obtain ⟨h₁, hsuffix, t₀, hdrawn, htime⟩ := hw.honest.of_mem hentered
    refine .inr ⟨b, c, t₀, t₁, t₂, ?_, htime⟩
    exact sublist_of_suffix hsuffix (List.singleton_sublist.mpr hdrawn)

/-- In every run of any requests of any browsers, every customer's address was proved: a code
that was drawn for it was entered in the same browser, for the registration that was admitted
with it or for a change of the same account's address, before the code had expired. -/
theorem customer_addresses_proved {browser : ℕ → ℕ} {requests : ℕ → Request} {clock : ℕ}
    {x : VisitConf Op Res FlowError Items Registry}
    (hx : Reach (visitExec browser (blank cfg) (exec cfg)) (fun _ _ _ => True)
      (start cfg browser requests clock) x) {u : User} (hu : u ∈ x.world.world.users)
    (hcustomer : u.customer = true) :
    Registered x.world.world.history u.email ∨
      Changed cfg x.world.world.history u.id u.email := by
  refine proved_of_ok ((contract cfg).reach_sessions (trusted cfg) (fun t s w hs => ?_)
    (ok_start cfg clock) hx).1 hu hcustomer
  refine (serves_handler hs (requests t)).mono fun r s' w' _ hr => ?_
  cases r with
  | ok _ => exact hr.1
  | error _ => exact hr

/-! ### An example run -/

def sampleConfig : Config where
  folding := sharpFolding
  lower := sharpFolding.casefold
  sqlLower := sharpFolding.casefold
  policy := ⟨defaultConfig, [], [], []⟩
  secrets := {
    hex := fun s => 1 :: s
    hex_injective := fun _ _ h => (List.cons.inj h).2
    hex_ne_nil := fun s => List.cons_ne_nil 1 s
    token := fun n => [n + 100]
    token_injective := fun _ _ h => Nat.add_right_cancel (List.cons.inj h).1
    token_ne_nil := fun _ => List.cons_ne_nil _ _
    token_plain := fun n h => absurd (List.mem_singleton.mp h) (Nat.ne_of_lt (by omega)) }
  profileEmailChangeTtlSeconds := 600

def sampleEmail : PyStr := .ofString "ann@bank.sg"

def changedEmail : PyStr := .ofString "ann@home.sg"

def otherEmail : PyStr := .ofString "bob@bank.sg"

/-- A customer registers and changes the address, and another one registers. -/
def sampleRequests : ℕ → Request
  | 0 => .registerOtpRequest sampleEmail
  | 1 => .registerOtpVerify (.ofString "000007")
  | 2 => .registerSubmit ⟨none, .ofString "ann", .ofString "81234567"⟩
  | 3 => .signIn 0
  | 4 => .profileSubmit changedEmail (.ofString "81234567") []
  | 5 => .profileSubmit changedEmail (.ofString "81234567") (.ofString "000007")
  | 6 => .registerOtpRequest otherEmail
  | 7 => .registerOtpVerify (.ofString "000008")
  | _ => .registerSubmit ⟨none, .ofString "bob", .ofString "91234567"⟩

def sampleBrowser (t : ℕ) : ℕ := if t < 6 then 0 else 1

def sampleStart : VisitConf Op Res FlowError Items Registry :=
  start sampleConfig sampleBrowser sampleRequests 0

def sampleExec : Exec (VisitOp Items Op) (VisitRes Items Res) FlowError (Site Items Registry)
    (ℕ × Choice) :=
  visitExec sampleBrowser (blank sampleConfig) (exec sampleConfig)

/-- One request after the other; only the limits have no objection when they are asked. -/
def sampleSchedule : List (ℕ × ℕ × Choice) :=
  let answer (number : ℕ) (account : String) (t : ℕ) (yes : Bool) : ℕ × ℕ × Choice :=
    (t, 0, ⟨yes, number, .ofString account, false, 1⟩)
  let ann := answer 7 "123456789012"
  let bob := answer 8 "210987654321"
  List.replicate 2 (ann 0 false) ++ List.replicate 9 (ann 0 true) ++
    List.replicate 8 (ann 1 true) ++ List.replicate 17 (ann 2 true) ++
    List.replicate 3 (ann 3 true) ++ List.replicate 11 (ann 4 true) ++
    List.replicate 12 (ann 5 true) ++ List.replicate 2 (bob 6 false) ++
    List.replicate 9 (bob 6 true) ++ List.replicate 8 (bob 7 true) ++
    List.replicate 17 (bob 8 true)

/-- The address was never admitted to a registration. -/
def neverAdmitted (email : PyStr) (h : List Event) : Bool :=
  h.all fun
    | .admitted _ e _ => e ≠ email
    | _ => true

/-- No code for the address was entered in a profile. -/
def neverEntered (email : PyStr) (h : List Event) : Bool :=
  h.all fun
    | .entered _ (some _) e _ _ _ => e ≠ email
    | _ => true

theorem not_registered {h : List Event} {email : PyStr} (hnever : neverAdmitted email h = true) :
    ¬Registered h email := by
  rintro ⟨b, code, drawnAt, t, t₁, t₂, t₃, hsublist, -⟩
  have hevent := List.all_eq_true.mp hnever _ (hsublist.subset List.mem_cons_self)
  exact of_decide_eq_true hevent rfl

theorem not_changed {cfg : Config} {h : List Event} {id : ℕ} {email : PyStr}
    (hnever : neverEntered email h = true) : ¬Changed cfg h id email := by
  rintro ⟨b, code, drawnAt, t₁, t₂, hsublist, -⟩
  have hevent := List.all_eq_true.mp hnever _ (hsublist.subset List.mem_cons_self)
  exact of_decide_eq_true hevent rfl

/-- One customer's address was changed to one that never was a registration's, and the other
one's is that of the registration. -/
theorem customer_addresses_proved_sample : ∃ x : VisitConf Op Res FlowError Items Registry,
    Reach sampleExec (fun _ _ _ => True) sampleStart x ∧
      ∃ u v, x.world.world.users = [v, u] ∧
        Changed sampleConfig x.world.world.history u.id changedEmail ∧
        Registered x.world.world.history otherEmail := by
  have hrun : ((run sampleExec sampleStart sampleSchedule).any fun x =>
      x.world.world.users.map (fun u => (u.customer, u.email)) =
          [(true, otherEmail), (true, changedEmail)] &&
        neverAdmitted changedEmail x.world.world.history &&
        neverEntered otherEmail x.world.world.history) = true := by decide +kernel
  obtain ⟨x, hx, hend⟩ := (Option.any_eq_true ..).mp hrun
  simp only [Bool.and_eq_true, decide_eq_true_eq] at hend
  obtain ⟨⟨husers, hadmitted⟩, hentered⟩ := hend
  have hreach := reach_of_run sampleExec .refl hx
  obtain ⟨v, users, hlist, hv, husers⟩ := List.map_eq_cons_iff.mp husers
  obtain ⟨u, users, rfl, hu, husers⟩ := List.map_eq_cons_iff.mp husers
  obtain rfl := List.map_eq_nil_iff.mp husers
  obtain ⟨hvcustomer, hvemail⟩ := Prod.mk.inj hv
  obtain ⟨hucustomer, huemail⟩ := Prod.mk.inj hu
  have hv := customer_addresses_proved hreach (hlist ▸ List.mem_cons_self) hvcustomer
  have hu := customer_addresses_proved hreach
    (hlist ▸ List.mem_cons_of_mem _ List.mem_cons_self) hucustomer
  rw [hvemail] at hv
  rw [huemail] at hu
  exact ⟨x, hreach, u, v, hlist, hu.resolve_left (not_registered hadmitted),
    hv.resolve_right (not_changed hentered)⟩

end SitBank.Auth.Addresses
