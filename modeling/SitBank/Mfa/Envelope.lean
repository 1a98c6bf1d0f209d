import Mathlib
import SitBank.Python.Base64

/-!
Envelopes of authenticator secrets (`app/security/crypto.py`).

The secret is encrypted under a key of its own (DEK), which is wrapped under a key of
the key ring (KEK). Rewrapping leaves the encrypted secret alone: the data that is
authenticated with it does not name the KEK. AES-GCM is a parameter; what raises an
exception in the code gives `none` here.
-/

namespace SitBank.Mfa

open SitBank.Python

/-! ### Primitives -/

/-- AES-GCM: key, nonce, data, associated data. -/
structure Aesgcm where
  encrypt : ByteArray → ByteArray → ByteArray → ByteArray → ByteArray
  decrypt : ByteArray → ByteArray → ByteArray → ByteArray → Option ByteArray
  decrypt_encrypt : ∀ key nonce data associated, key.size = 32 → nonce.size = 12 →
    decrypt key nonce (encrypt key nonce data associated) associated = some data

structure MfaConfig extends Aesgcm where
  /-- `MFA_KEK_KEYS`, as `_required_keyring` accepts it. -/
  mfaKekKeys : PyStr → Option ByteArray
  size_kek : ∀ {kekId kek}, mfaKekKeys kekId = some kek → kek.size = 32
  kekId_ne_nil : ∀ {kekId kek}, mfaKekKeys kekId = some kek → kekId ≠ []

def envelopeNonceMarker : ByteArray := "SITMFAENV001".toUTF8

def envelopeAlgorithm : PyStr := .ofString "AES-256-GCM"

inductive SecretPart
  | secret
  | dek
  deriving DecidableEq, Repr

/-- `_associated_data`; the ids of the key ring are ASCII. -/
def associatedData (userId : ℤ) (kekId : PyStr) (part : SecretPart) : ByteArray :=
  match part with
  | .secret => s!"sitbank:mfa-secret:v1:user:{userId}:part:secret".toUTF8
  | .dek => ("sitbank:mfa-secret:v1:user:" ++ toString userId ++ ":kek:" ++
      String.ofList (kekId.map Char.ofNat) ++ ":part:dek").toUTF8

/-- `_b64encode`. -/
def b64Text (bytes : ByteArray) : Json := .str (b64encode bytes.data.toList)

/-- `_b64decode`. -/
def b64Bytes : Json → Option ByteArray
  | .str text => (b64decode text).map fun bytes => ⟨bytes.toArray⟩
  | _ => none

/-! ### Envelopes -/

/-- What is stored in `mfa_secret_ciphertext`. Text is kept as the value that
`json.loads` reads from it. -/
inductive Ciphertext
  | empty
  | notJson
  | json (value : Json)

/-- The dictionary of `_load_envelope`; its algorithm is always the same. -/
structure MfaEnvelope where
  v : Json
  kekId : PyStr
  dekWrapped : Json
  dekNonce : Json
  secretCiphertext : Json
  secretNonce : Json

def vKey : PyStr := .ofString "v"

def algKey : PyStr := .ofString "alg"

def kekIdKey : PyStr := .ofString "kek_id"

def dekWrappedKey : PyStr := .ofString "dek_wrapped"

def dekNonceKey : PyStr := .ofString "dek_nonce"

def secretCiphertextKey : PyStr := .ofString "secret_ciphertext"

def secretNonceKey : PyStr := .ofString "secret_nonce"

def requiredKeys : List PyStr :=
  [vKey, algKey, kekIdKey, dekWrappedKey, dekNonceKey, secretCiphertextKey, secretNonceKey]

/-- `value == 1`. -/
def isVersionOne : Json → Bool
  | .int n => n = 1
  | .bool b => b
  | .float x => x.text = "1.0".toList
  | _ => false

/-- `set(envelope) == required`. -/
def hasRequiredKeys (pairs : List (PyStr × Json)) : Bool :=
  pairs.all (fun p => requiredKeys.contains p.1) &&
    requiredKeys.all fun key => (pairs.lookup key).isSome

def loadEnvelope : Ciphertext → Option MfaEnvelope
  | .json (.obj pairs) => do
      let v ← pairs.lookup vKey
      let alg ← pairs.lookup algKey
      let kekId ← pairs.lookup kekIdKey
      let dekWrapped ← pairs.lookup dekWrappedKey
      let dekNonce ← pairs.lookup dekNonceKey
      let secretCiphertext ← pairs.lookup secretCiphertextKey
      let secretNonce ← pairs.lookup secretNonceKey
      match alg, kekId with
      | .str alg, .str kekId =>
          if hasRequiredKeys pairs && isVersionOne v && alg = envelopeAlgorithm &&
              !kekId.isEmpty then
            some ⟨v, kekId, dekWrapped, dekNonce, secretCiphertext, secretNonce⟩
          else none
      | _, _ => none
  | _ => none

/-- `json.dumps(envelope, sort_keys=True)`. -/
def MfaEnvelope.dump (e : MfaEnvelope) : Ciphertext :=
  .json (sortKeys (.obj
    [(vKey, e.v), (algKey, .str envelopeAlgorithm), (kekIdKey, .str e.kekId),
      (dekWrappedKey, e.dekWrapped), (dekNonceKey, e.dekNonce),
      (secretCiphertextKey, e.secretCiphertext), (secretNonceKey, e.secretNonce)]))

/-- `is_enveloped_mfa_secret`. -/
def isEnvelopedMfaSecret : Option ByteArray → Option Ciphertext → Bool
  | some _, some .empty => false
  | some nonce, some _ => nonce = envelopeNonceMarker
  | _, _ => false

/-- `mfa_envelope_kek_id`, for an enveloped secret. -/
def mfaEnvelopeKekId (ciphertext : Ciphertext) : Option PyStr :=
  (loadEnvelope ciphertext).map (·.kekId)

/-! ### Encryption -/

/-- What `os.urandom` gives. -/
structure EnvelopeRandom where
  dek : ByteArray
  dekNonce : ByteArray
  secretNonce : ByteArray
  size_dek : dek.size = 32
  size_dekNonce : dekNonce.size = 12
  size_secretNonce : secretNonce.size = 12

def encryptMfaSecret (cfg : MfaConfig) (random : EnvelopeRandom) (secret : String) (userId : ℤ)
    (kekId : PyStr) : Option (ByteArray × Ciphertext) := do
  let kek ← cfg.mfaKekKeys kekId
  let secretCiphertext := cfg.encrypt random.dek random.secretNonce secret.toUTF8
    (associatedData userId kekId .secret)
  let wrappedDek := cfg.encrypt kek random.dekNonce random.dek (associatedData userId kekId .dek)
  let envelope : MfaEnvelope :=
    { v := .int 1
      kekId := kekId
      dekWrapped := b64Text wrappedDek
      dekNonce := b64Text random.dekNonce
      secretCiphertext := b64Text secretCiphertext
      secretNonce := b64Text random.secretNonce }
  pure (envelopeNonceMarker, envelope.dump)

def unwrapDek (cfg : MfaConfig) (envelope : MfaEnvelope) (userId : ℤ) : Option ByteArray := do
  let kek ← cfg.mfaKekKeys envelope.kekId
  let dekNonce ← b64Bytes envelope.dekNonce
  let dekWrapped ← b64Bytes envelope.dekWrapped
  cfg.decrypt kek dekNonce dekWrapped (associatedData userId envelope.kekId .dek)

/-- The part of `_decrypt_envelope` after the DEK is unwrapped. -/
def decryptSecret (cfg : MfaConfig) (envelope : MfaEnvelope) (userId : ℤ) (dek : ByteArray) :
    Option String := do
  let secretNonce ← b64Bytes envelope.secretNonce
  let secretCiphertext ← b64Bytes envelope.secretCiphertext
  let plaintext ← cfg.decrypt dek secretNonce secretCiphertext
    (associatedData userId envelope.kekId .secret)
  String.fromUTF8? plaintext

def decryptEnvelope (cfg : MfaConfig) (ciphertext : Ciphertext) (userId : ℤ) : Option String := do
  let envelope ← loadEnvelope ciphertext
  let dek ← unwrapDek cfg envelope userId
  decryptSecret cfg envelope userId dek

def decryptMfaSecret (cfg : MfaConfig) (nonce : Option ByteArray) (ciphertext : Option Ciphertext)
    (userId : ℤ) : Option String :=
  if isEnvelopedMfaSecret nonce ciphertext then
    ciphertext.bind fun ciphertext => decryptEnvelope cfg ciphertext userId
  else none

/-- `rewrap_mfa_dek`, for an enveloped secret. -/
def rewrapMfaDek (cfg : MfaConfig) (ciphertext : Ciphertext) (userId : ℤ) (dekNonce : ByteArray)
    (fromKekId toKekId : PyStr) : Option Ciphertext := do
  let envelope ← loadEnvelope ciphertext
  if envelope.kekId ≠ fromKekId then none
  else if envelope.kekId = toKekId then some ciphertext
  else do
    let dek ← unwrapDek cfg envelope userId
    let kek ← cfg.mfaKekKeys toKekId
    let wrappedDek := cfg.encrypt kek dekNonce dek (associatedData userId toKekId .dek)
    let rewrapped : MfaEnvelope :=
      { envelope with
        kekId := toKekId
        dekNonce := b64Text dekNonce
        dekWrapped := b64Text wrappedDek }
    pure rewrapped.dump

/-! ### What an envelope decrypts to -/

section RoundTrip

variable (cfg : MfaConfig)

theorem b64Bytes_b64Text (bytes : ByteArray) : b64Bytes (b64Text bytes) = some bytes := by
  show (b64decode (b64encode bytes.data.toList)).map
    (fun bytes => (⟨bytes.toArray⟩ : ByteArray)) = _
  rw [b64decode_b64encode]
  rfl

theorem fromUTF8_toUTF8 (text : String) : String.fromUTF8? text.toUTF8 = some text :=
  dif_pos text.isValidUTF8

theorem sortKeys_of_isVersionOne {v : Json} (h : isVersionOne v = true) : sortKeys v = v := by
  cases v with
  | int n => rfl
  | bool b => rfl
  | float x => rfl
  | null => rfl
  | str s => rfl
  | arr items => exact nomatch h
  | obj pairs => exact nomatch h

theorem sortKeys_of_b64Bytes {value : Json} {bytes : ByteArray} (h : b64Bytes value = some bytes) :
    sortKeys value = value := by
  cases value with
  | str s => rfl
  | _ => exact nomatch h

theorem MfaEnvelope.dump_eq (e : MfaEnvelope) :
    e.dump = .json (.obj
      [(algKey, .str envelopeAlgorithm), (dekNonceKey, sortKeys e.dekNonce),
        (dekWrappedKey, sortKeys e.dekWrapped), (kekIdKey, .str e.kekId),
        (secretCiphertextKey, sortKeys e.secretCiphertext),
        (secretNonceKey, sortKeys e.secretNonce), (vKey, sortKeys e.v)]) := by
  rfl

/-- The envelope is read back as it was written. -/
theorem loadEnvelope_dump {e : MfaEnvelope} (hv : isVersionOne e.v = true) (hkek : e.kekId ≠ [])
    (hwrapped : sortKeys e.dekWrapped = e.dekWrapped) (hnonce : sortKeys e.dekNonce = e.dekNonce)
    (hciphertext : sortKeys e.secretCiphertext = e.secretCiphertext)
    (hsecret : sortKeys e.secretNonce = e.secretNonce) : loadEnvelope e.dump = some e := by
  have hempty : e.kekId.isEmpty = false := by
    simpa using hkek
  rw [MfaEnvelope.dump_eq, hwrapped, hnonce, hciphertext, hsecret, sortKeys_of_isVersionOne hv]
  show (if (true && isVersionOne e.v && true && !e.kekId.isEmpty) = true then some _ else none) = _
  rw [hv, hempty]
  rfl

theorem isVersionOne_of_load {ciphertext : Ciphertext} {envelope : MfaEnvelope}
    (h : loadEnvelope ciphertext = some envelope) : isVersionOne envelope.v = true := by
  unfold loadEnvelope at h
  split at h
  · simp only [Option.bind_eq_bind, Option.bind_eq_some_iff] at h
    obtain ⟨v, -, _, -, _, -, _, -, _, -, _, -, _, -, h⟩ := h
    split at h
    · split at h
      · next hchecks =>
          cases h
          simp only [Bool.and_eq_true] at hchecks
          exact hchecks.1.1.2
      · exact nomatch h
    · exact nomatch h
  · exact nomatch h

theorem isEnvelopedMfaSecret_iff {nonce : Option ByteArray} {ciphertext : Option Ciphertext} :
    isEnvelopedMfaSecret nonce ciphertext = true ↔
      nonce = some envelopeNonceMarker ∧ ∃ text, ciphertext = some text ∧ text ≠ .empty := by
  cases nonce with
  | none => exact ⟨fun h => (nomatch h), fun h => (nomatch h.1)⟩
  | some nonce =>
      have hmarker : decide (nonce = envelopeNonceMarker) = true ↔
          some nonce = some envelopeNonceMarker := by
        rw [decide_eq_true_eq, Option.some.injEq]
      cases ciphertext with
      | none => exact ⟨fun h => (nomatch h), fun ⟨_, _, h, _⟩ => (nomatch h)⟩
      | some text =>
          cases text with
          | empty =>
              refine ⟨fun h => (nomatch h), ?_⟩
              rintro ⟨-, _, ⟨rfl⟩, hne⟩
              exact absurd rfl hne
          | notJson =>
              exact ⟨fun h => ⟨hmarker.mp h, _, rfl, nofun⟩, fun h => hmarker.mpr h.1⟩
          | json value =>
              exact ⟨fun h => ⟨hmarker.mp h, _, rfl, nofun⟩, fun h => hmarker.mpr h.1⟩

theorem isEnvelopedMfaSecret_of_decrypt {nonce : Option ByteArray}
    {ciphertext : Option Ciphertext} {userId : ℤ} {secret : String}
    (h : decryptMfaSecret cfg nonce ciphertext userId = some secret) :
    isEnvelopedMfaSecret nonce ciphertext = true := by
  unfold decryptMfaSecret at h
  split at h
  · next henveloped => exact henveloped
  · exact nomatch h

theorem decryptMfaSecret_marker {ciphertext : Ciphertext} {userId : ℤ} {envelope : MfaEnvelope}
    (hload : loadEnvelope ciphertext = some envelope) :
    decryptMfaSecret cfg (some envelopeNonceMarker) (some ciphertext) userId =
      (unwrapDek cfg envelope userId).bind (decryptSecret cfg envelope userId) := by
  have henveloped : isEnvelopedMfaSecret (some envelopeNonceMarker) (some ciphertext) = true := by
    refine isEnvelopedMfaSecret_iff.mpr ⟨rfl, _, rfl, ?_⟩
    rintro rfl
    exact nomatch hload
  unfold decryptMfaSecret decryptEnvelope
  rw [if_pos henveloped, Option.bind_some, hload]
  rfl

/-- A wrapped DEK is unwrapped by the key it was wrapped under. -/
theorem unwrapDek_wrapped {envelope : MfaEnvelope} {userId : ℤ} {kek dekNonce dek : ByteArray}
    (hkek : cfg.mfaKekKeys envelope.kekId = some kek) (hsize : dekNonce.size = 12)
    (hnonce : envelope.dekNonce = b64Text dekNonce)
    (hwrapped : envelope.dekWrapped = b64Text
      (cfg.encrypt kek dekNonce dek (associatedData userId envelope.kekId .dek))) :
    unwrapDek cfg envelope userId = some dek := by
  unfold unwrapDek
  rw [hkek, hnonce, hwrapped, b64Bytes_b64Text, b64Bytes_b64Text]
  exact cfg.decrypt_encrypt _ _ _ _ (cfg.size_kek hkek) hsize

/-- A rewrapped envelope decrypts to the same secret, and names the new key. -/
theorem decrypt_rewrapMfaDek {ciphertext rewrapped : Ciphertext} {userId : ℤ}
    {dekNonce : ByteArray} {fromKekId toKekId : PyStr} {secret : String}
    (hsize : dekNonce.size = 12) (hne : fromKekId ≠ toKekId)
    (h : rewrapMfaDek cfg ciphertext userId dekNonce fromKekId toKekId = some rewrapped)
    (hsecret : decryptMfaSecret cfg (some envelopeNonceMarker) (some ciphertext) userId =
      some secret) :
    decryptMfaSecret cfg (some envelopeNonceMarker) (some rewrapped) userId = some secret ∧
      mfaEnvelopeKekId rewrapped = some toKekId := by
  unfold rewrapMfaDek at h
  obtain ⟨envelope, hload, h⟩ := Option.bind_eq_some_iff.mp h
  split at h
  · exact nomatch h
  split at h
  · next hfrom hto => exact absurd ((Decidable.not_not.mp hfrom).symm.trans hto) hne
  obtain ⟨dek, hunwrap, h⟩ := Option.bind_eq_some_iff.mp h
  obtain ⟨kek, hkek, h⟩ := Option.bind_eq_some_iff.mp h
  cases h
  rw [decryptMfaSecret_marker cfg hload, hunwrap, Option.bind_some] at hsecret
  -- the encrypted secret is text, so it is written as it was read
  have hfields := hsecret
  unfold decryptSecret at hfields
  obtain ⟨_, hnonce, hfields⟩ := Option.bind_eq_some_iff.mp hfields
  obtain ⟨_, hciphertext, -⟩ := Option.bind_eq_some_iff.mp hfields
  have hversion := isVersionOne_of_load hload
  have hload' := loadEnvelope_dump (e := { envelope with
    kekId := toKekId
    dekNonce := b64Text dekNonce
    dekWrapped := b64Text (cfg.encrypt kek dekNonce dek (associatedData userId toKekId .dek)) })
    hversion (cfg.kekId_ne_nil hkek) rfl rfl (sortKeys_of_b64Bytes hciphertext)
    (sortKeys_of_b64Bytes hnonce)
  refine ⟨?_, ?_⟩
  · rw [decryptMfaSecret_marker cfg hload', unwrapDek_wrapped cfg hkek hsize rfl rfl]
    exact hsecret
  · rw [mfaEnvelopeKekId, hload']
    rfl

end RoundTrip

end SitBank.Mfa
