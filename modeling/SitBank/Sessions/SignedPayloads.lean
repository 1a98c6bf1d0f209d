import SitBank.Mfa.Envelope
import SitBank.Python.JsonReload

/-!
Signed session payloads (`app/security/session_hmac.py`).

The signature is over a JSON text of the context, the key id, the payload in Base64 and the
version. The verifier reads the key id and the payload from a JSON envelope and the context
from its caller. Texts that were signed in two contexts differ where the contexts do, except
that `json.dumps` writes a character beyond the basic plane and its two surrogates alike.
What raises an exception in the code gives `none` here.
-/

namespace SitBank.Sessions

open SitBank.Python

/-! ### Keys -/

/-- `hmac.new(key, text, sha256).hexdigest()`, for a text of ASCII. -/
structure PayloadHmac where
  hexdigest : ByteArray → List Char → PyStr
  ne_nil : ∀ key text, hexdigest key text ≠ []
  ascii : ∀ key text, (hexdigest key text).Ascii

/-- `SESSION_HMAC_KEYS` and `SESSION_HMAC_ACTIVE_KEY_ID`, as `_required_session_hmac_keys`
accepts them. -/
structure PayloadKeys where
  keys : PyStr → Option ByteArray
  activeKeyId : PyStr
  activeKey : ByteArray
  active : keys activeKeyId = some activeKey
  ascii : ∀ {keyId key}, keys keyId = some key → keyId.Ascii

/-! ### Signing -/

def payloadFormatVersion : ℤ := 2

def ctxKey : PyStr := .ofString "ctx"

def kidKey : PyStr := .ofString "kid"

def payloadKey : PyStr := .ofString "payload"

def sigKey : PyStr := .ofString "sig"

def versionKey : PyStr := .ofString "v"

/-- The text of `_payload_signature`. -/
def signingInput (keyId encodedPayload context : PyStr) : List Char :=
  dumps (sortKeys (.obj
    [(ctxKey, .str context), (kidKey, .str keyId), (payloadKey, .str encodedPayload),
      (versionKey, .int payloadFormatVersion)]))

def signedEnvelope (hm : PayloadHmac) (keys : PayloadKeys) (payload : List UInt8)
    (context : PyStr) : Json :=
  let encodedPayload := b64encode payload
  .obj
    [(versionKey, .int payloadFormatVersion), (kidKey, .str keys.activeKeyId),
      (payloadKey, .str encodedPayload),
      (sigKey, .str (hm.hexdigest keys.activeKey
        (signingInput keys.activeKeyId encodedPayload context)))]

def signSessionPayload (hm : PayloadHmac) (keys : PayloadKeys) (payload : List UInt8)
    (context : PyStr) : Option ByteArray :=
  if context = [] then none
  else some (String.ofList (dumps (sortKeys (signedEnvelope hm keys payload context)))).toUTF8

/-! ### Verification -/

/-- `value == 2`. -/
def isVersionTwo : Json → Bool
  | .int n => n = 2
  | .float x => x.text = "2.0".toList
  | _ => false

/-- What the verifier takes from an envelope. -/
structure NamedPayload where
  keyId : PyStr
  encodedPayload : PyStr
  signature : PyStr

def readEnvelope : Json → Option NamedPayload
  | .obj pairs =>
      if (pairs.lookup versionKey).any isVersionTwo then
        match pairs.lookup kidKey, pairs.lookup payloadKey, pairs.lookup sigKey with
        | some (.str keyId), some (.str encodedPayload), some (.str signature) =>
            if signature = [] then none else some ⟨keyId, encodedPayload, signature⟩
        | _, _, _ => none
      else none
  | _ => none

section Verify

variable (hm : PayloadHmac) (floatOf : List Char → FloatText)

/-- `json.loads(envelope_bytes.decode("utf-8"))` and the checks of the envelope. -/
def loadPayloadEnvelope (envelope : ByteArray) : Option NamedPayload := do
  let text ← String.fromUTF8? envelope
  let value ← loads floatOf text.toList
  readEnvelope value

def verifySessionPayload (keys : PayloadKeys) (envelope : ByteArray) (context : PyStr) :
    Option (List UInt8) :=
  if context = [] then none
  else do
    let named ← loadPayloadEnvelope floatOf envelope
    let key ← keys.keys named.keyId
    if named.signature = hm.hexdigest key
        (signingInput named.keyId named.encodedPayload context) then
      b64decode named.encodedPayload
    else none

/-! ### Earlier signatures -/

/-- A call of `sign_session_payload` that returned. -/
structure SignCall where
  keys : PayloadKeys
  payload : List UInt8
  context : PyStr
  points : context.Points
  ne_nil : context ≠ []

def SignCall.input (call : SignCall) : List Char :=
  signingInput call.keys.activeKeyId (b64encode call.payload) call.context

/-- A tag that matches was made by one of the calls, under this key and of this text. -/
def Unforged (calls : List SignCall) (keys : PayloadKeys) (envelope : ByteArray)
    (context : PyStr) : Prop :=
  ∀ named key, loadPayloadEnvelope floatOf envelope = some named →
    keys.keys named.keyId = some key →
    named.signature = hm.hexdigest key (signingInput named.keyId named.encodedPayload context) →
    ∃ call ∈ calls, call.keys.activeKey = key ∧
      call.input = signingInput named.keyId named.encodedPayload context

end Verify

/-! ### Texts of envelopes -/

theorem scalar_of_ascii {t : PyStr} (ht : t.Ascii) : ∀ n ∈ t, scalar n = true := by
  intro n hn
  have hlt := ht n hn
  simp only [scalar, highSurrogate, lowSurrogate, Bool.and_eq_true, decide_eq_true_eq,
    Bool.not_eq_true', Bool.and_eq_false_iff, decide_eq_false_iff_not]
  omega

theorem points_of_ascii {t : PyStr} (ht : t.Ascii) : t.Points :=
  points_of_scalar (scalar_of_ascii ht)

theorem rejoined_of_ascii {t : PyStr} (ht : t.Ascii) : rejoined t = t :=
  rejoined_of_scalar (scalar_of_ascii ht)

theorem sortKeys_signedEnvelope (keyId encodedPayload signature : PyStr) :
    sortKeys (.obj [(versionKey, .int payloadFormatVersion), (kidKey, .str keyId),
      (payloadKey, .str encodedPayload), (sigKey, .str signature)]) =
    .obj [(kidKey, .str keyId), (payloadKey, .str encodedPayload), (sigKey, .str signature),
      (versionKey, .int payloadFormatVersion)] := rfl

theorem signingInput_eq (keyId encodedPayload context : PyStr) :
    signingInput keyId encodedPayload context = dumps (.obj [(ctxKey, .str context),
      (kidKey, .str keyId), (payloadKey, .str encodedPayload),
      (versionKey, .int payloadFormatVersion)]) := rfl

section Texts

variable {floatOf : List Char → FloatText}

/-- An object whose keys are of characters, each once. -/
theorem loads_obj {pairs : List (PyStr × Json)} (hread : Readable floatOf (.obj pairs))
    (hkeys : ∀ p ∈ pairs, ∀ n ∈ p.1, scalar n = true) (hnodup : (pairs.map Prod.fst).Nodup) :
    loads floatOf (dumps (.obj pairs)) = some (.obj (pairs.map fun p => (p.1, reloaded p.2))) := by
  have hpairs : reloadedPairs pairs = pairs.map fun p => (p.1, reloaded p.2) := by
    rw [reloadedPairs_eq]
    refine List.map_congr_left fun p hp => ?_
    rw [rejoined_of_scalar (hkeys p hp)]
  have hloads := loads_dumpsWith hread (List.forall_mem_nil fun c => jsonSpace c = true)
    (List.forall_mem_nil fun c => jsonSpace c = true)
  rw [dumpsWith_nil, List.append_nil] at hloads
  rw [hloads, reloaded, hpairs, dictOf_nodup]
  rw [List.map_map]
  exact hnodup

/-- Signing inputs are the same only where their parts are read alike. -/
theorem signingInput_inj {keyId keyId' payload payload' context context' : PyStr}
    (hid : keyId.Ascii) (hid' : keyId'.Ascii) (hpayload : payload.Ascii)
    (hpayload' : payload'.Ascii) (hcontext : context.Points) (hcontext' : context'.Points)
    (h : signingInput keyId payload context = signingInput keyId' payload' context') :
    keyId = keyId' ∧ payload = payload' ∧ rejoined context = rejoined context' := by
  have hloads {keyId payload context : PyStr} (hid : keyId.Ascii) (hpayload : payload.Ascii)
      (hcontext : context.Points) :
      loads (fun _ => ⟨[], plainChar_nil⟩) (signingInput keyId payload context) =
        some (.obj [(ctxKey, .str (rejoined context)), (kidKey, .str keyId),
          (payloadKey, .str payload), (versionKey, .int payloadFormatVersion)]) := by
    rw [signingInput_eq, loads_obj]
    · simp [reloaded, rejoined_of_ascii hid, rejoined_of_ascii hpayload]
    · refine ⟨?_, hcontext, ?_, points_of_ascii hid, ?_, points_of_ascii hpayload, ?_, trivial,
        trivial⟩
      all_goals exact points_of_scalar (scalar_ofString _)
    · simp only [List.forall_mem_cons]
      exact ⟨scalar_ofString _, scalar_ofString _, scalar_ofString _, scalar_ofString _, nofun⟩
    · show [ctxKey, kidKey, payloadKey, versionKey].Nodup
      decide
  have hread := hloads hid hpayload hcontext
  rw [h, hloads hid' hpayload' hcontext'] at hread
  have hpairs := Json.obj.inj (Option.some.inj hread)
  simp only [List.cons.injEq, Prod.mk.injEq, Json.str.injEq, true_and, and_true] at hpairs
  exact ⟨hpairs.2.1.symm, hpairs.2.2.symm, hpairs.1.symm⟩

/-- What the verifier reads from a new envelope. -/
theorem loadPayloadEnvelope_sign (hm : PayloadHmac) (keys : PayloadKeys) (payload : List UInt8)
    (context : PyStr) :
    loadPayloadEnvelope floatOf
        (String.ofList (dumps (sortKeys (signedEnvelope hm keys payload context)))).toUTF8 =
      some ⟨keys.activeKeyId, b64encode payload, hm.hexdigest keys.activeKey
        (signingInput keys.activeKeyId (b64encode payload) context)⟩ := by
  have hid := keys.ascii keys.active
  have hpayload : PyStr.Ascii (b64encode payload) := b64encode_ascii payload
  have hsig := hm.ascii keys.activeKey
    (signingInput keys.activeKeyId (b64encode payload) context)
  unfold loadPayloadEnvelope
  rw [Mfa.fromUTF8_toUTF8, Option.bind_eq_bind, Option.bind_some, String.toList_ofList,
    signedEnvelope, sortKeys_signedEnvelope, loads_obj, Option.bind_eq_bind, Option.bind_some]
  · simp only [List.map_cons, List.map_nil, reloaded, rejoined_of_ascii hid,
      rejoined_of_ascii hpayload, rejoined_of_ascii hsig]
    show (if _ = [] then none else some _) = _
    rw [if_neg (hm.ne_nil _ _)]
  · refine ⟨?_, points_of_ascii hid, ?_, points_of_ascii hpayload, ?_, points_of_ascii hsig, ?_,
      trivial, trivial⟩
    all_goals exact points_of_scalar (scalar_ofString _)
  · simp only [List.forall_mem_cons]
    exact ⟨scalar_ofString _, scalar_ofString _, scalar_ofString _, scalar_ofString _, nofun⟩
  · show [kidKey, payloadKey, sigKey, versionKey].Nodup
    decide

end Texts

/-! ### Payloads and their contexts -/

section Bound

variable (hm : PayloadHmac) (floatOf : List Char → FloatText)

/-- A payload is read back by every ring that has its key, in every context that gives the
same text. -/
theorem verify_sign {keys keys' : PayloadKeys} {payload : List UInt8} {context context' : PyStr}
    (hcontext : context ≠ []) (hcontext' : context' ≠ [])
    (hkey : keys'.keys keys.activeKeyId = some keys.activeKey)
    (hsame : signingInput keys.activeKeyId (b64encode payload) context =
      signingInput keys.activeKeyId (b64encode payload) context') :
    ∃ envelope, signSessionPayload hm keys payload context = some envelope ∧
      verifySessionPayload hm floatOf keys' envelope context' = some payload := by
  refine ⟨_, if_neg hcontext, ?_⟩
  unfold verifySessionPayload
  rw [if_neg hcontext', loadPayloadEnvelope_sign, Option.bind_eq_bind, Option.bind_some]
  dsimp only
  rw [hkey, Option.bind_eq_bind, Option.bind_some, hsame, if_pos rfl, b64decode_b64encode]

/-- What verifies was signed by one of the calls. -/
theorem signed_of_verify {calls : List SignCall} {keys : PayloadKeys} {envelope : ByteArray}
    {context : PyStr} {payload : List UInt8} (hpoints : context.Points)
    (hunforged : Unforged hm floatOf calls keys envelope context)
    (hverify : verifySessionPayload hm floatOf keys envelope context = some payload) :
    ∃ call ∈ calls, call.payload = payload ∧
      (∃ named, loadPayloadEnvelope floatOf envelope = some named ∧
        call.keys.activeKeyId = named.keyId ∧ keys.keys named.keyId = some call.keys.activeKey) ∧
      rejoined call.context = rejoined context := by
  unfold verifySessionPayload at hverify
  split at hverify
  · cases hverify
  obtain ⟨named, hnamed, hverify⟩ := Option.bind_eq_some_iff.mp hverify
  obtain ⟨key, hkey, hverify⟩ := Option.bind_eq_some_iff.mp hverify
  split at hverify
  · next hsignature =>
      obtain ⟨call, hcall, hactive, hinput⟩ := hunforged named key hnamed hkey hsignature
      obtain ⟨hid, hpayload, hcontext⟩ := signingInput_inj (call.keys.ascii call.keys.active)
        (keys.ascii hkey) (b64encode_ascii call.payload) (ascii_of_b64decode hverify) call.points
        hpoints hinput
      refine ⟨call, hcall, ?_, ⟨named, hnamed, hid, ?_⟩, hcontext⟩
      · rw [← hpayload, b64decode_b64encode] at hverify
        exact Option.some.inj hverify
      · rw [hkey, hactive]
  · cases hverify

/-- Payloads are read back, and what verifies was signed under the key id that the envelope
names, in a context of the same JSON text. Contexts of characters are the same then. -/
theorem sessionPayloads_bound :
    (∀ (keys keys' : PayloadKeys) (payload : List UInt8) (context : PyStr), context ≠ [] →
      keys'.keys keys.activeKeyId = some keys.activeKey →
      ∃ envelope, signSessionPayload hm keys payload context = some envelope ∧
        verifySessionPayload hm floatOf keys' envelope context = some payload) ∧
    (∀ (calls : List SignCall) (keys : PayloadKeys) (envelope : ByteArray) (context : PyStr)
      (payload : List UInt8), context.Points →
      Unforged hm floatOf calls keys envelope context →
      verifySessionPayload hm floatOf keys envelope context = some payload →
      ∃ call ∈ calls, call.payload = payload ∧
        (∃ named, loadPayloadEnvelope floatOf envelope = some named ∧
          call.keys.activeKeyId = named.keyId ∧
          keys.keys named.keyId = some call.keys.activeKey) ∧
        rejoined call.context = rejoined context ∧
        ((∀ n ∈ call.context, scalar n = true) → (∀ n ∈ context, scalar n = true) →
          call.context = context)) := by
  constructor
  · intro keys keys' payload context hcontext hkey
    exact verify_sign hm floatOf hcontext hcontext hkey rfl
  · intro calls keys envelope context payload hpoints hunforged hverify
    obtain ⟨call, hcall, hpayload, hnamed, hcontext⟩ :=
      signed_of_verify hm floatOf hpoints hunforged hverify
    refine ⟨call, hcall, hpayload, hnamed, hcontext, fun hscalar hscalar' => ?_⟩
    rw [← rejoined_of_scalar hscalar, hcontext, rejoined_of_scalar hscalar']

end Bound

/-! ### A context written in two ways -/

def samplePayloadHmac : PayloadHmac where
  hexdigest _ text := List.replicate 64 (if text.length % 2 = 0 then 97 else 98)
  ne_nil _ _ := nofun
  ascii _ text n hn := by
    obtain ⟨-, rfl⟩ := List.mem_replicate.mp hn
    split <;> omega

def samplePayloadKeys : PayloadKeys where
  keys keyId := if keyId = .ofString "session-1" then some ⟨#[1, 2, 3]⟩ else none
  activeKeyId := .ofString "session-1"
  activeKey := ⟨#[1, 2, 3]⟩
  active := rfl
  ascii {keyId key} h := by
    split at h
    · next hid =>
        rw [hid]
        decide
    · cases h

def sampleFloatOf : List Char → FloatText := fun _ => ⟨[], plainChar_nil⟩

/-- One call, and a payload that verifies in its context. -/
def sampleSignCall (context : PyStr) (points : context.Points) (ne_nil : context ≠ []) : SignCall :=
  ⟨samplePayloadKeys, [1, 2], context, points, ne_nil⟩

/-- The signed text of an envelope is the one of the call that made it. -/
theorem unforged_of_sign {call : SignCall} {envelope : ByteArray} {keys : PayloadKeys}
    {context : PyStr} (hm : PayloadHmac) (floatOf : List Char → FloatText)
    (hsign : signSessionPayload hm call.keys call.payload call.context = some envelope)
    (hkeys : keys.keys call.keys.activeKeyId = some call.keys.activeKey)
    (hsame : call.input = signingInput call.keys.activeKeyId (b64encode call.payload) context) :
    Unforged hm floatOf [call] keys envelope context := by
  intro named key hnamed hkey _
  unfold signSessionPayload at hsign
  rw [if_neg call.ne_nil] at hsign
  rw [← Option.some.inj hsign, loadPayloadEnvelope_sign] at hnamed
  obtain rfl := Option.some.inj hnamed
  refine ⟨call, .head _, Option.some.inj (hkeys.symm.trans hkey), hsame⟩

theorem Unforged.of_mem {hm : PayloadHmac} {floatOf : List Char → FloatText} {call : SignCall}
    {calls : List SignCall} {keys : PayloadKeys} {envelope : ByteArray} {context : PyStr}
    (h : Unforged hm floatOf [call] keys envelope context) (hmem : call ∈ calls) :
    Unforged hm floatOf calls keys envelope context := by
  intro named key hnamed hkey hsignature
  obtain ⟨call', hcall', hactive, hinput⟩ := h named key hnamed hkey hsignature
  rw [List.mem_singleton.mp hcall'] at hactive hinput
  exact ⟨call, hmem, hactive, hinput⟩

/-- A new key is active, and the one before it stays. -/
def rotatedPayloadKeys : PayloadKeys where
  keys keyId := if keyId = .ofString "session-2" then some ⟨#[4, 5, 6]⟩
    else samplePayloadKeys.keys keyId
  activeKeyId := .ofString "session-2"
  activeKey := ⟨#[4, 5, 6]⟩
  active := rfl
  ascii {keyId key} h := by
    split at h
    · next hid =>
        rw [hid]
        decide
    · exact samplePayloadKeys.ascii h

def customerContext : PyStr := .ofString "db-session:customer:0a1b"

def adminContext : PyStr := .ofString "db-session:admin:0a1b"

/-- The sessions of one id in both applications. -/
def sampleSignCalls : List SignCall :=
  [sampleSignCall adminContext (points_of_scalar (scalar_ofString _)) (by decide),
    sampleSignCall customerContext (points_of_scalar (scalar_ofString _)) (by decide)]

/-- A session of the customer application is read back after a rotation, and what the new ring
verifies is the payload that was signed for the customer application under the earlier key. -/
theorem sessionPayloads_bound_customer :
    ∃ envelope, signSessionPayload samplePayloadHmac samplePayloadKeys [1, 2] customerContext =
        some envelope ∧
      verifySessionPayload samplePayloadHmac sampleFloatOf rotatedPayloadKeys envelope
        customerContext = some [1, 2] ∧
      ∃ call ∈ sampleSignCalls, call.payload = [1, 2] ∧
        (∃ named, loadPayloadEnvelope sampleFloatOf envelope = some named ∧
          call.keys.activeKeyId = named.keyId ∧
          rotatedPayloadKeys.keys named.keyId = some call.keys.activeKey) ∧
        call.context = customerContext := by
  have hbound := sessionPayloads_bound samplePayloadHmac sampleFloatOf
  have hscalar : ∀ n ∈ customerContext, scalar n = true := scalar_ofString _
  let call := sampleSignCall customerContext (points_of_scalar hscalar) (by decide)
  have hkey : rotatedPayloadKeys.keys call.keys.activeKeyId = some call.keys.activeKey := rfl
  have hcall : call ∈ sampleSignCalls := List.mem_cons_of_mem _ List.mem_cons_self
  obtain ⟨envelope, hsign, hverify⟩ :=
    hbound.1 samplePayloadKeys rotatedPayloadKeys [1, 2] customerContext (by decide) hkey
  have hunforged : Unforged samplePayloadHmac sampleFloatOf sampleSignCalls rotatedPayloadKeys
      envelope customerContext :=
    (@unforged_of_sign call _ _ _ samplePayloadHmac sampleFloatOf hsign hkey rfl).of_mem hcall
  obtain ⟨call', hcall', hpayload, hnamed, -, hcontext⟩ :=
    hbound.2 sampleSignCalls rotatedPayloadKeys envelope customerContext [1, 2]
      (points_of_scalar hscalar) hunforged hverify
  have hscalar' : ∀ n ∈ call'.context, scalar n = true := by
    simp only [sampleSignCalls, List.mem_cons, List.not_mem_nil, or_false] at hcall'
    rcases hcall' with rfl | rfl
    · exact scalar_ofString _
    · exact scalar_ofString _
  exact ⟨envelope, hsign, hverify, call', hcall', hpayload, hnamed, hcontext hscalar' hscalar⟩

/-- Signed in the context of two surrogates, verified in the context of the character that
they stand for. -/
theorem sessionPayload_in_other_context :
    ∃ (call : SignCall) (envelope : ByteArray),
      signSessionPayload samplePayloadHmac call.keys call.payload call.context = some envelope ∧
      Unforged samplePayloadHmac sampleFloatOf [call] samplePayloadKeys envelope [0x1F600] ∧
      verifySessionPayload samplePayloadHmac sampleFloatOf samplePayloadKeys envelope [0x1F600] =
        some call.payload ∧
      ∀ call' ∈ [call], call'.context ≠ [0x1F600] := by
  have hsame : signingInput samplePayloadKeys.activeKeyId (b64encode [1, 2]) [0xD83D, 0xDE00] =
      signingInput samplePayloadKeys.activeKeyId (b64encode [1, 2]) [0x1F600] := by decide +kernel
  have hpoints : PyStr.Points [0xD83D, 0xDE00] := by
    unfold PyStr.Points
    decide
  let call := sampleSignCall [0xD83D, 0xDE00] hpoints (by decide)
  have hkey : samplePayloadKeys.keys call.keys.activeKeyId = some call.keys.activeKey := rfl
  obtain ⟨envelope, hsign, hverify⟩ := verify_sign samplePayloadHmac sampleFloatOf call.ne_nil
    (List.cons_ne_nil _ _) hkey hsame
  refine ⟨call, envelope, hsign, unforged_of_sign _ _ hsign hkey hsame, hverify, ?_⟩
  intro call' hcall
  rw [List.mem_singleton.mp hcall]
  show ([0xD83D, 0xDE00] : PyStr) ≠ [0x1F600]
  decide

end SitBank.Sessions
