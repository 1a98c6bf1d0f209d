import SitBank.Mfa.KeyRotation
import SitBank.Python.JsonLoads

/-!
Envelopes through any sequence of rewraps (`app/security/crypto.py`).

An envelope is made under one key of a ring and rewrapped under others, while keys come
and go. The encrypted secret never changes, and the wrapped key is always the one that it
was encrypted under (`Sealed`). So the envelope decrypts to its secret for its user, as
long as the last key is there; and if AES-GCM decrypts nothing but what was encrypted under
the same key, nonce and associated data (`Exact`), it decrypts in no other case.
-/

namespace SitBank.Mfa

open SitBank.Python

/-! ### Key rings -/

/-- `MFA_KEK_KEYS` at one time. -/
structure KeyRing where
  keys : PyStr → Option ByteArray
  size_kek : ∀ {kekId kek}, keys kekId = some kek → kek.size = 32
  kekId_ne_nil : ∀ {kekId kek}, keys kekId = some kek → kekId ≠ []

def KeyRing.config (ring : KeyRing) (aes : Aesgcm) : MfaConfig where
  toAesgcm := aes
  mfaKekKeys := ring.keys
  size_kek := ring.size_kek
  kekId_ne_nil := ring.kekId_ne_nil

/-- Nothing is decrypted that was encrypted under another key, with another nonce or other
associated data. -/
def Exact (aes : Aesgcm) : Prop :=
  ∀ key nonce data associated key' nonce' associated' data',
    aes.decrypt key' nonce' (aes.encrypt key nonce data associated) associated' = some data' →
      key' = key ∧ nonce' = nonce ∧ associated' = associated

/-- `rewrap_mfa_dek`; without `from_kek_id` any key may wrap the envelope. -/
def rewrapEnvelope (cfg : MfaConfig) (nonce : ByteArray) (ciphertext : Ciphertext) (userId : ℤ)
    (dekNonce : ByteArray) (toKekId : PyStr) (fromKekId : Option PyStr) :
    Option (ByteArray × Ciphertext) :=
  if isEnvelopedMfaSecret (some nonce) (some ciphertext) then do
    let currentKekId ← mfaEnvelopeKekId ciphertext
    let rewrapped ← rewrapMfaDek cfg ciphertext userId dekNonce
      (fromKekId.getD currentKekId) toKekId
    pure (envelopeNonceMarker, rewrapped)
  else none

/-! ### Histories -/

/-- A call of `rewrap_mfa_dek`, with the ring at its time and what `os.urandom` gives. -/
structure RewrapCall where
  ring : KeyRing
  toKekId : PyStr
  fromKekId : Option PyStr
  dekNonce : ByteArray
  size_dekNonce : dekNonce.size = 12

def rewrapAll (aes : Aesgcm) (userId : ℤ) :
    List RewrapCall → ByteArray × Ciphertext → Option (ByteArray × Ciphertext)
  | [], envelope => some envelope
  | call :: calls, envelope => do
      let rewrapped ← rewrapEnvelope (call.ring.config aes) envelope.1 envelope.2 userId
        call.dekNonce call.toKekId call.fromKekId
      rewrapAll aes userId calls rewrapped

/-- An encryption and the calls after it. -/
structure EnvelopeHistory where
  ring : KeyRing
  random : EnvelopeRandom
  secret : String
  userId : ℤ
  kekId : PyStr
  calls : List RewrapCall

def EnvelopeHistory.envelope (h : EnvelopeHistory) (aes : Aesgcm) :
    Option (ByteArray × Ciphertext) := do
  let envelope ← encryptMfaSecret (h.ring.config aes) h.random h.secret h.userId h.kekId
  rewrapAll aes h.userId h.calls envelope

/-- A key and its identifier. -/
structure NamedKek where
  kekId : PyStr
  kek : ByteArray

def KeyRing.Holds (ring : KeyRing) (k : NamedKek) : Prop := ring.keys k.kekId = some k.kek

/-- Every call finds the key that wraps the envelope and the key it asks for; the last of
these keys is `last`. -/
inductive Wraps : NamedKek → List RewrapCall → NamedKek → Prop
  | done (k : NamedKek) : Wraps k [] k
  | call {k last : NamedKek} {c : RewrapCall} {calls : List RewrapCall} (kek : ByteArray) :
      c.ring.Holds k → c.ring.Holds ⟨c.toKekId, kek⟩ →
      (∀ fromKekId ∈ c.fromKekId, fromKekId = k.kekId) →
      Wraps ⟨c.toKekId, kek⟩ calls last → Wraps k (c :: calls) last

/-! ### What an envelope holds -/

/-- The envelope of a secret: the wrapped key and the ciphertext belong together. -/
structure Sealed (aes : Aesgcm) (h : EnvelopeHistory) (k : NamedKek) (e : MfaEnvelope)
    (dekNonce : ByteArray) : Prop where
  version : e.v = .int 1
  kekId : e.kekId = k.kekId
  size : dekNonce.size = 12
  nonce : e.dekNonce = b64Text dekNonce
  wrapped : e.dekWrapped = b64Text
    (aes.encrypt k.kek dekNonce h.random.dek (associatedData h.userId k.kekId .dek))
  secretNonce : e.secretNonce = b64Text h.random.secretNonce
  ciphertext : e.secretCiphertext = b64Text (aes.encrypt h.random.dek h.random.secretNonce
    h.secret.toUTF8 (associatedData h.userId k.kekId .secret))

/-- The stored envelope, and what it holds. -/
def Holds (aes : Aesgcm) (h : EnvelopeHistory) (k : NamedKek) (stored : ByteArray × Ciphertext) :
    Prop :=
  stored.1 = envelopeNonceMarker ∧ k.kek.size = 32 ∧
    ∃ e dekNonce, loadEnvelope stored.2 = some e ∧ Sealed aes h k e dekNonce

section History

variable {aes : Aesgcm} {h : EnvelopeHistory} {k : NamedKek}

/-- The data authenticated with the secret does not depend on the key that wraps it. -/
theorem associatedData_secret (userId : ℤ) (kekId kekId' : PyStr) :
    associatedData userId kekId .secret = associatedData userId kekId' .secret := rfl

theorem holds_dump {e : MfaEnvelope} {dekNonce : ByteArray} (hsize : k.kek.size = 32)
    (hid : k.kekId ≠ []) (hsealed : Sealed aes h k e dekNonce) :
    Holds aes h k (envelopeNonceMarker, e.dump) := by
  refine ⟨rfl, hsize, e, dekNonce, loadEnvelope_dump ?_ ?_ ?_ ?_ ?_ ?_, hsealed⟩
  · rw [hsealed.version]
    rfl
  · rw [hsealed.kekId]
    exact hid
  · rw [hsealed.wrapped]
    rfl
  · rw [hsealed.nonce]
    rfl
  · rw [hsealed.ciphertext]
    rfl
  · rw [hsealed.secretNonce]
    rfl

variable (aes) in
/-- A new envelope. -/
theorem holds_encrypt {kek : ByteArray} (hkek : h.ring.Holds ⟨h.kekId, kek⟩) :
    ∃ stored,
      encryptMfaSecret (h.ring.config aes) h.random h.secret h.userId h.kekId = some stored ∧
      Holds aes h ⟨h.kekId, kek⟩ stored := by
  have hring : (h.ring.config aes).mfaKekKeys h.kekId = some kek := hkek
  unfold encryptMfaSecret
  rw [hring]
  exact ⟨_, rfl, holds_dump (h.ring.size_kek hkek) (h.ring.kekId_ne_nil hkek)
    ⟨rfl, rfl, h.random.size_dekNonce, rfl, rfl, rfl, rfl⟩⟩

theorem isEnvelopedMfaSecret_of_holds {stored : ByteArray × Ciphertext}
    (hstored : Holds aes h k stored) :
    isEnvelopedMfaSecret (some stored.1) (some stored.2) = true := by
  obtain ⟨hmarker, -, e, dekNonce, hload, -⟩ := hstored
  refine isEnvelopedMfaSecret_iff.mpr ⟨congrArg some hmarker, stored.2, rfl, ?_⟩
  intro hempty
  rw [hempty] at hload
  cases hload

theorem unwrapDek_of_sealed {e : MfaEnvelope} {dekNonce : ByteArray} {ring : KeyRing}
    (hsealed : Sealed aes h k e dekNonce) (hkek : ring.Holds k) :
    unwrapDek (ring.config aes) e h.userId = some h.random.dek := by
  have hring : (ring.config aes).mfaKekKeys e.kekId = some k.kek := by
    rw [hsealed.kekId]
    exact hkek
  refine unwrapDek_wrapped (ring.config aes) hring hsealed.size hsealed.nonce ?_
  rw [hsealed.wrapped, hsealed.kekId]
  rfl

theorem rewrapMfaDek_same {cfg : MfaConfig} {ciphertext : Ciphertext} {e : MfaEnvelope} {userId : ℤ}
    {dekNonce : ByteArray} (hload : loadEnvelope ciphertext = some e) :
    rewrapMfaDek cfg ciphertext userId dekNonce e.kekId e.kekId = some ciphertext := by
  unfold rewrapMfaDek
  rw [hload]
  show (if e.kekId ≠ e.kekId then none else if e.kekId = e.kekId then some ciphertext else _) = _
  rw [if_neg (not_not_intro rfl), if_pos rfl]

theorem rewrapMfaDek_new {cfg : MfaConfig} {ciphertext : Ciphertext} {e : MfaEnvelope} {userId : ℤ}
    {dekNonce dek kek : ByteArray} {toKekId : PyStr} (hload : loadEnvelope ciphertext = some e)
    (hne : e.kekId ≠ toKekId) (hunwrap : unwrapDek cfg e userId = some dek)
    (hkek : cfg.mfaKekKeys toKekId = some kek) :
    rewrapMfaDek cfg ciphertext userId dekNonce e.kekId toKekId = some
      { e with
        kekId := toKekId
        dekNonce := b64Text dekNonce
        dekWrapped := b64Text (cfg.encrypt kek dekNonce dek
          (associatedData userId toKekId .dek)) : MfaEnvelope }.dump := by
  unfold rewrapMfaDek
  rw [hload]
  show (if e.kekId ≠ e.kekId then none else if e.kekId = toKekId then some ciphertext else _) = _
  rw [if_neg (not_not_intro rfl), if_neg hne, hunwrap, hkek]
  rfl

/-- One call. With the key that wraps the envelope already, nothing changes. -/
theorem holds_rewrap {stored : ByteArray × Ciphertext} {c : RewrapCall} {kek : ByteArray}
    (hstored : Holds aes h k stored) (hold : c.ring.Holds k)
    (hnew : c.ring.Holds ⟨c.toKekId, kek⟩)
    (hfrom : ∀ fromKekId ∈ c.fromKekId, fromKekId = k.kekId) :
    ∃ stored', rewrapEnvelope (c.ring.config aes) stored.1 stored.2 h.userId c.dekNonce c.toKekId
        c.fromKekId = some stored' ∧ Holds aes h ⟨c.toKekId, kek⟩ stored' ∧
      (c.toKekId = k.kekId → stored' = stored) := by
  have henveloped := isEnvelopedMfaSecret_of_holds hstored
  obtain ⟨hmarker, hsize, e, dekNonce, hload, hsealed⟩ := hstored
  have hid : mfaEnvelopeKekId stored.2 = some k.kekId := by
    rw [mfaEnvelopeKekId, hload, Option.map_some, hsealed.kekId]
  have hfrom' : c.fromKekId.getD k.kekId = e.kekId := by
    rw [hsealed.kekId]
    cases hc : c.fromKekId with
    | none => rfl
    | some fromKekId => exact hfrom fromKekId hc
  have hring : (c.ring.config aes).mfaKekKeys c.toKekId = some kek := hnew
  unfold rewrapEnvelope
  rw [if_pos henveloped, hid, Option.bind_eq_bind, Option.bind_some, hfrom']
  by_cases hsame : e.kekId = c.toKekId
  · have hto : c.toKekId = k.kekId := hsame.symm.trans hsealed.kekId
    have hkek : kek = k.kek := by
      have hsome : c.ring.keys c.toKekId = some kek := hnew
      rw [hto] at hsome
      exact Option.some.inj (hsome.symm.trans hold)
    rw [← hsame, rewrapMfaDek_same hload, hkek, hsealed.kekId]
    exact ⟨_, rfl, ⟨rfl, hsize, e, dekNonce, hload, hsealed⟩,
      fun _ => Prod.ext hmarker.symm rfl⟩
  · rw [rewrapMfaDek_new hload hsame (unwrapDek_of_sealed hsealed hold) hring]
    exact ⟨_, rfl, holds_dump (c.ring.size_kek hnew) (c.ring.kekId_ne_nil hnew)
      ⟨hsealed.version, rfl, c.size_dekNonce, rfl, rfl, hsealed.secretNonce, hsealed.ciphertext⟩,
      fun hto => absurd (hsealed.kekId.trans hto.symm) hsame⟩

/-- All calls. -/
theorem holds_rewrapAll {calls : List RewrapCall} {last : NamedKek} (hwraps : Wraps k calls last)
    {stored : ByteArray × Ciphertext} (hstored : Holds aes h k stored) :
    ∃ stored', rewrapAll aes h.userId calls stored = some stored' ∧ Holds aes h last stored' := by
  induction hwraps generalizing stored with
  | done k => exact ⟨stored, rfl, hstored⟩
  | call kek hold hnew hfrom _ ih =>
      obtain ⟨stored', hrewrap, hstored', -⟩ := holds_rewrap hstored hold hnew hfrom
      obtain ⟨stored'', hall, hstored''⟩ := ih hstored'
      refine ⟨stored'', ?_, hstored''⟩
      rw [rewrapAll, hrewrap, Option.bind_eq_bind, Option.bind_some, hall]

variable (aes) in
theorem holds_envelope {kek : ByteArray} {last : NamedKek} (hkek : h.ring.Holds ⟨h.kekId, kek⟩)
    (hwraps : Wraps ⟨h.kekId, kek⟩ h.calls last) :
    ∃ stored, h.envelope aes = some stored ∧ Holds aes h last stored := by
  obtain ⟨stored, hencrypt, hstored⟩ := holds_encrypt aes hkek
  obtain ⟨stored', hall, hstored'⟩ := holds_rewrapAll hwraps hstored
  refine ⟨stored', ?_, hstored'⟩
  rw [EnvelopeHistory.envelope, hencrypt, Option.bind_eq_bind, Option.bind_some, hall]

/-! ### Decryption -/

theorem decrypt_of_holds {stored : ByteArray × Ciphertext} {ring : KeyRing}
    (hstored : Holds aes h k stored) (hkek : ring.Holds k) :
    decryptMfaSecret (ring.config aes) (some stored.1) (some stored.2) h.userId =
      some h.secret := by
  obtain ⟨hmarker, -, e, dekNonce, hload, hsealed⟩ := hstored
  rw [hmarker, decryptMfaSecret_marker _ hload, unwrapDek_of_sealed hsealed hkek, Option.bind_some]
  unfold decryptSecret
  rw [hsealed.secretNonce, hsealed.ciphertext, b64Bytes_b64Text, b64Bytes_b64Text]
  show (aes.decrypt h.random.dek h.random.secretNonce _ _).bind _ = _
  rw [associatedData_secret h.userId e.kekId k.kekId,
    aes.decrypt_encrypt _ _ _ _ h.random.size_dek h.random.size_secretNonce]
  exact fromUTF8_toUTF8 h.secret

theorem toList_toString_int (n : ℤ) : (toString n).toList = dumpsInt n := by
  cases n with
  | ofNat m =>
      show (Nat.repr m).toList = dumpsInt m
      rw [dumpsInt, if_neg (by omega)]
      simp [Nat.repr]
  | negSucc m =>
      show ("-" ++ Nat.repr (m + 1)).toList = dumpsInt (Int.negSucc m)
      rw [dumpsInt, if_pos (by omega)]
      simp [Nat.repr]

/-- The associated data of a wrapped key names its user. -/
theorem userId_of_associatedData {userId userId' : ℤ} {kekId kekId' : PyStr}
    (heq : associatedData userId kekId .dek = associatedData userId' kekId' .dek) :
    userId = userId' := by
  have htext := congrArg String.toList (String.toByteArray_inj.mp heq)
  simp only [String.toList_append, toList_toString_int, List.append_assoc] at htext
  have hrest := List.append_cancel_left htext
  have hstops (kekId : PyStr) : Stops (":kek:".toList ++
      ((String.ofList (kekId.map Char.ofNat)).toList ++ ":part:dek".toList)) := by
    intro c hc
    obtain rfl : ':' = c := by simpa using hc
    decide
  have hfloat : List Char → FloatText := fun _ => ⟨[], List.forall_mem_nil _⟩
  have hread := loadsNumber_dumpsInt hfloat userId (hstops kekId)
  rw [hrest, loadsNumber_dumpsInt hfloat userId' (hstops kekId')] at hread
  exact (Json.int.inj (Prod.mk.inj (Option.some.inj hread)).1).symm

/-- What a wrapped key is unwrapped to, by whatever ring and for whatever user. -/
theorem unwrapDek_exact (hexact : Exact aes) {ring : KeyRing} {e : MfaEnvelope} {userId : ℤ}
    {kek dekNonce dek associated dek' : ByteArray} (hkek : kek.size = 32)
    (hsize : dekNonce.size = 12)
    (hwrapped : e.dekWrapped = b64Text (aes.encrypt kek dekNonce dek associated))
    (hunwrap : unwrapDek (ring.config aes) e userId = some dek') :
    ring.keys e.kekId = some kek ∧ associatedData userId e.kekId .dek = associated ∧
      dek' = dek := by
  unfold unwrapDek at hunwrap
  obtain ⟨kek', hring, hunwrap⟩ := Option.bind_eq_some_iff.mp hunwrap
  obtain ⟨dekNonce', -, hunwrap⟩ := Option.bind_eq_some_iff.mp hunwrap
  rw [hwrapped, b64Bytes_b64Text, Option.bind_eq_bind, Option.bind_some] at hunwrap
  obtain ⟨rfl, rfl, hassociated⟩ := hexact _ _ _ _ _ _ _ _ hunwrap
  refine ⟨hring, hassociated, ?_⟩
  rw [hassociated] at hunwrap
  exact Option.some.inj (hunwrap.symm.trans (aes.decrypt_encrypt _ _ _ _ hkek hsize))

/-- An envelope whose wrapped key and ciphertext are those of two encryptions. -/
theorem decryptEnvelope_none (hexact : Exact aes) {ring : KeyRing} {e : MfaEnvelope} {userId : ℤ}
    {kek dekNonce dek associated dek' secretNonce data associated' : ByteArray}
    (hkek : kek.size = 32) (hsize : dekNonce.size = 12)
    (hwrapped : e.dekWrapped = b64Text (aes.encrypt kek dekNonce dek associated))
    (hciphertext : e.secretCiphertext = b64Text (aes.encrypt dek' secretNonce data associated'))
    (hne : dek ≠ dek') :
    (unwrapDek (ring.config aes) e userId).bind (decryptSecret (ring.config aes) e userId) =
      none := by
  refine Option.eq_none_iff_forall_ne_some.mpr fun secret hsome => ?_
  obtain ⟨dek'', hunwrap, hsecret⟩ := Option.bind_eq_some_iff.mp hsome
  obtain ⟨-, -, rfl⟩ := unwrapDek_exact hexact hkek hsize hwrapped hunwrap
  unfold decryptSecret at hsecret
  obtain ⟨_, -, hsecret⟩ := Option.bind_eq_some_iff.mp hsecret
  rw [hciphertext, b64Bytes_b64Text, Option.bind_eq_bind, Option.bind_some] at hsecret
  obtain ⟨_, hdecrypt, -⟩ := Option.bind_eq_some_iff.mp hsecret
  exact hne (hexact _ _ _ _ _ _ _ _ hdecrypt).1

end History

/-! ### Envelopes put together from two -/

/-- Which fields are taken from the second envelope. -/
structure Mix where
  kekId : Bool
  dekWrapped : Bool
  dekNonce : Bool
  secretCiphertext : Bool
  secretNonce : Bool

def Mix.envelope (m : Mix) (e e' : MfaEnvelope) : MfaEnvelope where
  v := e.v
  kekId := if m.kekId then e'.kekId else e.kekId
  dekWrapped := if m.dekWrapped then e'.dekWrapped else e.dekWrapped
  dekNonce := if m.dekNonce then e'.dekNonce else e.dekNonce
  secretCiphertext := if m.secretCiphertext then e'.secretCiphertext else e.secretCiphertext
  secretNonce := if m.secretNonce then e'.secretNonce else e.secretNonce

def Mix.ciphertext (m : Mix) (ciphertext ciphertext' : Ciphertext) : Option Ciphertext := do
  let e ← loadEnvelope ciphertext
  let e' ← loadEnvelope ciphertext'
  pure (m.envelope e e').dump

/-- What the envelope of a history, last wrapped under `last`, decrypts to. -/
structure RoundTrips (aes : Aesgcm) (h : EnvelopeHistory) (last : NamedKek)
    (stored : ByteArray × Ciphertext) : Prop where
  secret : ∀ ring : KeyRing, ring.Holds last →
    decryptMfaSecret (ring.config aes) (some stored.1) (some stored.2) h.userId = some h.secret
  otherUser : ∀ (ring : KeyRing) (userId : ℤ), userId ≠ h.userId →
    decryptMfaSecret (ring.config aes) (some stored.1) (some stored.2) userId = none
  /-- The key that wraps the envelope is missing or replaced. -/
  otherKek : ∀ (ring : KeyRing) (userId : ℤ), ¬ring.Holds last →
    decryptMfaSecret (ring.config aes) (some stored.1) (some stored.2) userId = none
  /-- The wrapped key and the ciphertext are of two encryptions. -/
  mixed : ∀ (h' : EnvelopeHistory) (kek' : ByteArray) (last' : NamedKek)
    (stored' : ByteArray × Ciphertext), h'.ring.Holds ⟨h'.kekId, kek'⟩ →
    Wraps ⟨h'.kekId, kek'⟩ h'.calls last' → h'.envelope aes = some stored' →
    h'.random.dek ≠ h.random.dek → ∀ m : Mix, m.dekWrapped ≠ m.secretCiphertext →
      ∃ ciphertext, m.ciphertext stored.2 stored'.2 = some ciphertext ∧
        ∀ (ring : KeyRing) (userId : ℤ), decryptMfaSecret (ring.config aes)
          (some envelopeNonceMarker) (some ciphertext) userId = none
  /-- The envelope is wrapped under that key already. -/
  unchanged : ∀ (call : RewrapCall) (userId : ℤ), call.toKekId = last.kekId →
    (∀ fromKekId ∈ call.fromKekId, fromKekId = last.kekId) →
    rewrapEnvelope (call.ring.config aes) stored.1 stored.2 userId call.dekNonce call.toKekId
      call.fromKekId = some stored

section Mixed

variable {aes : Aesgcm} {h h' : EnvelopeHistory} {k k' : NamedKek}

theorem decrypt_none_of_unwrap {stored : ByteArray × Ciphertext} {e : MfaEnvelope} {cfg : MfaConfig}
    {userId : ℤ} (hmarker : stored.1 = envelopeNonceMarker)
    (hload : loadEnvelope stored.2 = some e) (hunwrap : ∀ dek, unwrapDek cfg e userId ≠ some dek) :
    decryptMfaSecret cfg (some stored.1) (some stored.2) userId = none := by
  rw [hmarker, decryptMfaSecret_marker cfg hload, Option.eq_none_iff_forall_ne_some.mpr hunwrap]
  rfl

theorem sortKeys_b64Text (bytes : ByteArray) : sortKeys (b64Text bytes) = b64Text bytes := rfl

/-- A mixed envelope is read back as it was put together. -/
theorem loadEnvelope_mixed {e e' : MfaEnvelope} {dekNonce dekNonce' : ByteArray}
    (hsealed : Sealed aes h k e dekNonce) (hsealed' : Sealed aes h' k' e' dekNonce')
    (hid : k.kekId ≠ []) (hid' : k'.kekId ≠ []) (m : Mix) :
    loadEnvelope (m.envelope e e').dump = some (m.envelope e e') := by
  obtain ⟨kekId, dekWrapped, dekNonce, secretCiphertext, secretNonce⟩ := m
  refine loadEnvelope_dump ?_ ?_ ?_ ?_ ?_ ?_
  · show isVersionOne e.v = true
    rw [hsealed.version]
    rfl
  · cases kekId with
    | false => exact hsealed.kekId ▸ hid
    | true => exact hsealed'.kekId ▸ hid'
  · cases dekWrapped with
    | false => exact hsealed.wrapped ▸ sortKeys_b64Text _
    | true => exact hsealed'.wrapped ▸ sortKeys_b64Text _
  · cases dekNonce with
    | false => exact hsealed.nonce ▸ sortKeys_b64Text _
    | true => exact hsealed'.nonce ▸ sortKeys_b64Text _
  · cases secretCiphertext with
    | false => exact hsealed.ciphertext ▸ sortKeys_b64Text _
    | true => exact hsealed'.ciphertext ▸ sortKeys_b64Text _
  · cases secretNonce with
    | false => exact hsealed.secretNonce ▸ sortKeys_b64Text _
    | true => exact hsealed'.secretNonce ▸ sortKeys_b64Text _

theorem decrypt_mixed (hexact : Exact aes) {stored stored' : ByteArray × Ciphertext}
    (hstored : Holds aes h k stored) (hstored' : Holds aes h' k' stored') (hid : k.kekId ≠ [])
    (hid' : k'.kekId ≠ []) (hne : h'.random.dek ≠ h.random.dek) (m : Mix)
    (hm : m.dekWrapped ≠ m.secretCiphertext) :
    ∃ ciphertext, m.ciphertext stored.2 stored'.2 = some ciphertext ∧
      ∀ (ring : KeyRing) (userId : ℤ), decryptMfaSecret (ring.config aes)
        (some envelopeNonceMarker) (some ciphertext) userId = none := by
  obtain ⟨-, hsize, e, dekNonce, hload, hsealed⟩ := hstored
  obtain ⟨-, hsize', e', dekNonce', hload', hsealed'⟩ := hstored'
  refine ⟨(m.envelope e e').dump, ?_, fun ring userId => ?_⟩
  · rw [Mix.ciphertext, hload, hload']
    rfl
  · rw [decryptMfaSecret_marker _ (loadEnvelope_mixed hsealed hsealed' hid hid' m)]
    obtain ⟨kekId, dekWrapped, dekNoncePick, secretCiphertext, secretNonce⟩ := m
    cases dekWrapped with
    | false =>
        obtain rfl : secretCiphertext = true := by
          cases secretCiphertext with
          | false => exact absurd rfl hm
          | true => rfl
        exact decryptEnvelope_none hexact hsize hsealed.size hsealed.wrapped hsealed'.ciphertext
          hne.symm
    | true =>
        obtain rfl : secretCiphertext = false := by
          cases secretCiphertext with
          | false => rfl
          | true => exact absurd rfl hm
        exact decryptEnvelope_none hexact hsize' hsealed'.size hsealed'.wrapped hsealed.ciphertext
          hne

/-- The key that wraps an envelope has an identifier. -/
theorem kekId_ne_nil_of_wraps {ring : KeyRing} {calls : List RewrapCall} (hwraps : Wraps k calls k')
    (hkek : ring.Holds k) : k'.kekId ≠ [] := by
  induction hwraps generalizing ring with
  | done k => exact ring.kekId_ne_nil hkek
  | call kek _ hnew _ _ ih => exact ih hnew

end Mixed

/-- Every history of an envelope in which each call finds the keys that it needs ends with
an envelope, which decrypts to the secret, and only for its user, with the key that wraps
it and with its own parts. -/
theorem envelope_roundTrips {aes : Aesgcm} (hexact : Exact aes) {h : EnvelopeHistory}
    {kek : ByteArray} {last : NamedKek} (hkek : h.ring.Holds ⟨h.kekId, kek⟩)
    (hwraps : Wraps ⟨h.kekId, kek⟩ h.calls last) :
    ∃ stored, h.envelope aes = some stored ∧ RoundTrips aes h last stored := by
  obtain ⟨stored, henvelope, hstored⟩ := holds_envelope aes hkek hwraps
  refine ⟨stored, henvelope, fun ring hring => decrypt_of_holds hstored hring, ?_, ?_, ?_, ?_⟩
  -- the user's id is part of the data that is authenticated
  · intro ring userId hne
    obtain ⟨hmarker, hsize, e, dekNonce, hload, hsealed⟩ := hstored
    refine decrypt_none_of_unwrap hmarker hload fun dek hunwrap => hne ?_
    obtain ⟨-, hassociated, -⟩ :=
      unwrapDek_exact hexact hsize hsealed.size hsealed.wrapped hunwrap
    exact userId_of_associatedData hassociated
  -- no other key unwraps
  · intro ring userId hmissing
    obtain ⟨hmarker, hsize, e, dekNonce, hload, hsealed⟩ := hstored
    refine decrypt_none_of_unwrap hmarker hload fun dek hunwrap => hmissing ?_
    obtain ⟨hring, -, -⟩ := unwrapDek_exact hexact hsize hsealed.size hsealed.wrapped hunwrap
    rw [hsealed.kekId] at hring
    exact hring
  -- parts of two envelopes do not fit
  · intro h' kek' last' stored' hkek' hwraps' henvelope' hne m hm
    obtain ⟨stored'', henvelope'', hstored''⟩ := holds_envelope aes hkek' hwraps'
    obtain rfl := Option.some.inj (henvelope'.symm.trans henvelope'')
    exact decrypt_mixed hexact hstored hstored'' (kekId_ne_nil_of_wraps hwraps hkek)
      (kekId_ne_nil_of_wraps hwraps' hkek') hne m hm
  -- rewrapping to the key it has already leaves the envelope alone
  · intro call userId hto hfrom
    have henveloped := isEnvelopedMfaSecret_of_holds hstored
    obtain ⟨hmarker, -, e, dekNonce, hload, hsealed⟩ := hstored
    have hid : mfaEnvelopeKekId stored.2 = some e.kekId := by
      rw [mfaEnvelopeKekId, hload]
      rfl
    have hfrom' : call.fromKekId.getD e.kekId = e.kekId := by
      cases hcall : call.fromKekId with
      | none => rfl
      | some fromKekId => exact (hfrom fromKekId hcall).trans hsealed.kekId.symm
    unfold rewrapEnvelope
    rw [if_pos henveloped, hid, Option.bind_eq_bind, Option.bind_some, hfrom', hto,
      ← hsealed.kekId, rewrapMfaDek_same hload]
    exact congrArg some (Prod.ext hmarker.symm rfl)

/-! ### An encryption that is exact -/

/-- Every byte after its tag. -/
def tagged (tag : UInt8) : List UInt8 → List UInt8
  | [] => []
  | b :: bytes => tag :: b :: tagged tag bytes

/-- The bytes after a tag, if there is nothing else. -/
def untagged (tag : UInt8) : List UInt8 → Option (List UInt8)
  | [] => some []
  | t :: b :: bytes => if t = tag then (untagged tag bytes).map (b :: ·) else none
  | [_] => none

theorem untagged_tagged (tag : UInt8) (bytes : List UInt8) :
    untagged tag (tagged tag bytes) = some bytes := by
  induction bytes with
  | nil => rfl
  | cons b bytes ih => rw [tagged, untagged, if_pos rfl, ih, Option.map_some]

theorem eq_tagged {tag : UInt8} {l bytes : List UInt8} (h : untagged tag l = some bytes) :
    l = tagged tag bytes := by
  induction l using untagged.induct tag generalizing bytes with
  | case1 =>
      cases h
      rfl
  | case2 b l ih =>
      rw [untagged, if_pos rfl] at h
      obtain ⟨rest, hrest, rfl⟩ := Option.map_eq_some_iff.mp h
      rw [ih hrest, tagged]
  | case3 t b l htag =>
      rw [untagged, if_neg htag] at h
      cases h
  | case4 t => cases h

theorem tagged_append_inj {tag : UInt8} {a b r r' : List UInt8} (hr : r.head? ≠ some tag)
    (hr' : r'.head? ≠ some tag) (h : tagged tag a ++ r = tagged tag b ++ r') : a = b ∧ r = r' := by
  induction a generalizing b with
  | nil =>
      cases b with
      | nil => exact ⟨rfl, h⟩
      | cons y b => exact absurd (congrArg List.head? h) hr
  | cons x a ih =>
      cases b with
      | nil => exact absurd (congrArg List.head? h).symm hr'
      | cons y b =>
          obtain ⟨-, htail⟩ := List.cons.inj h
          obtain ⟨rfl, hrest⟩ := List.cons.inj htail
          obtain ⟨rfl, rfl⟩ := ih hrest
          exact ⟨rfl, rfl⟩

theorem head_tagged_append {tag tag' : UInt8} (bytes : List UInt8) {r : List UInt8}
    (hne : tag' ≠ tag) (hr : r.head? ≠ some tag) : (tagged tag' bytes ++ r).head? ≠ some tag := by
  cases bytes with
  | nil => exact hr
  | cons b bytes => exact fun h => hne (Option.some.inj h)

/-- Key, nonce and associated data in front of the data. -/
def labelled (key nonce associated data : ByteArray) : List UInt8 :=
  tagged 0 key.data.toList ++ (tagged 1 nonce.data.toList ++
    (tagged 2 associated.data.toList ++ tagged 3 data.data.toList))

theorem byteArray_ext {a b : ByteArray} (h : a.data.toList = b.data.toList) : a = b := by
  cases a
  cases b
  exact congrArg ByteArray.mk (Array.toList_inj.mp h)

theorem labelled_inj {key nonce associated data key' nonce' associated' data' : ByteArray}
    (h : labelled key nonce associated data = labelled key' nonce' associated' data') :
    key = key' ∧ nonce = nonce' ∧ associated = associated' ∧ data = data' := by
  have hdata (tag : UInt8) (bytes : ByteArray) (hne : (3 : UInt8) ≠ tag) :
      (tagged 3 bytes.data.toList).head? ≠ some tag := by
    have hhead := head_tagged_append bytes.data.toList (r := []) hne nofun
    rwa [List.append_nil] at hhead
  have hassociated (tag : UInt8) (bytes bytes' : ByteArray) (htwo : (2 : UInt8) ≠ tag)
      (hthree : (3 : UInt8) ≠ tag) :
      (tagged 2 bytes.data.toList ++ tagged 3 bytes'.data.toList).head? ≠ some tag :=
    head_tagged_append _ htwo (hdata tag bytes' hthree)
  obtain ⟨hkey, h⟩ := tagged_append_inj
    (head_tagged_append _ (by decide) (hassociated 0 _ _ (by decide) (by decide)))
    (head_tagged_append _ (by decide) (hassociated 0 _ _ (by decide) (by decide))) h
  obtain ⟨hnonce, h⟩ := tagged_append_inj (hassociated 1 _ _ (by decide) (by decide))
    (hassociated 1 _ _ (by decide) (by decide)) h
  obtain ⟨hassoc, h⟩ := tagged_append_inj (hdata 2 _ (by decide)) (hdata 2 _ (by decide)) h
  have hbytes := congrArg (untagged 3) h
  rw [untagged_tagged, untagged_tagged] at hbytes
  exact ⟨byteArray_ext hkey, byteArray_ext hnonce, byteArray_ext hassoc,
    byteArray_ext (Option.some.inj hbytes)⟩

/-- What follows the label, if it is the one of these values. -/
def unlabelled (key nonce associated : ByteArray) (bytes : List UInt8) : Option ByteArray :=
  let label := labelled key nonce associated ⟨#[]⟩
  if bytes.take label.length = label then
    (untagged 3 (bytes.drop label.length)).map fun data => ⟨data.toArray⟩
  else none

theorem labelled_eq (key nonce associated data : ByteArray) : labelled key nonce associated data =
    labelled key nonce associated ⟨#[]⟩ ++ tagged 3 data.data.toList := by
  simp [labelled, tagged]

theorem unlabelled_labelled (key nonce associated data : ByteArray) :
    unlabelled key nonce associated (labelled key nonce associated data) = some data := by
  unfold unlabelled
  rw [labelled_eq key nonce associated data]
  dsimp only
  rw [List.take_left, if_pos rfl, List.drop_left, untagged_tagged]
  rfl

theorem eq_labelled {key nonce associated data : ByteArray} {bytes : List UInt8}
    (h : unlabelled key nonce associated bytes = some data) :
    bytes = labelled key nonce associated data := by
  unfold unlabelled at h
  dsimp only at h
  split at h
  · next hlabel =>
      obtain ⟨rest, hrest, rfl⟩ := Option.map_eq_some_iff.mp h
      rw [labelled_eq, ← List.take_append_drop (labelled key nonce associated ⟨#[]⟩).length bytes,
        hlabel, eq_tagged hrest]
  · cases h

def labellingAesgcm : Aesgcm where
  encrypt key nonce data associated := ⟨(labelled key nonce associated data).toArray⟩
  decrypt key nonce data associated := unlabelled key nonce associated data.data.toList
  decrypt_encrypt key nonce data associated _ _ := unlabelled_labelled key nonce associated data

theorem exact_labellingAesgcm : Exact labellingAesgcm := by
  intro key nonce data associated key' nonce' associated' data' h
  obtain ⟨hkey, hnonce, hassociated, -⟩ := labelled_inj (eq_labelled h)
  exact ⟨hkey.symm, hnonce.symm, hassociated.symm⟩

def sampleRing : KeyRing where
  keys := sampleMfaConfig.mfaKekKeys
  size_kek := sampleMfaConfig.size_kek
  kekId_ne_nil := sampleMfaConfig.kekId_ne_nil

/-- A secret made under the old key and rewrapped under the new one. -/
def sampleHistory : EnvelopeHistory where
  ring := sampleRing
  random := (sampleSecret "FIRST").random
  secret := "FIRST"
  userId := 1
  kekId := oldKekId
  calls := [⟨sampleRing, newKekId, some oldKekId, sampleBytes 12 9, size_sampleBytes 12 9⟩]

theorem wraps_sampleHistory :
    Wraps ⟨oldKekId, sampleBytes 32 1⟩ sampleHistory.calls ⟨newKekId, sampleBytes 32 2⟩ := by
  refine .call (sampleBytes 32 2) rfl rfl ?_ (.done _)
  intro fromKekId hfrom
  exact (Option.some.inj hfrom).symm

theorem sampleHistory_roundTrips :
    ∃ stored, sampleHistory.envelope labellingAesgcm = some stored ∧
      RoundTrips labellingAesgcm sampleHistory ⟨newKekId, sampleBytes 32 2⟩ stored :=
  envelope_roundTrips exact_labellingAesgcm rfl wraps_sampleHistory

end SitBank.Mfa
