import Mathlib.Algebra.Order.Ring.Rat
import SitBank.Interaction.Call
import SitBank.Python.Base64
import SitBank.Python.Dict

/-!
Verification of access assertions (`app/security/cloudflare_access.py`).

An assertion is a JWT. Its header is read first, then the key that it names is looked up
in the signing keys, which are fetched and kept for a while, then the signature is checked,
and at last the claims are read. `json.loads` and the RSA library are parameters: the parser
may give up in three ways, of which the code expects one. Times are rationals.

The fetches of the state are not part of the program: they say which responses were parsed,
and when, newest first.
-/

namespace SitBank.Security

open SitBank.Interaction SitBank.Python

/-! ### Errors -/

inductive AccessReason
  | malformedAssertion
  | jwksFetchFailed
  | jwksParseFailed
  | unknownSigningKey
  | invalidSignature
  | wrongIssuer
  | wrongAudience
  | expired
  | notYetValid
  deriving DecidableEq, Repr

inductive AccessError
  /-- `CloudflareAccessVerificationError`. -/
  | verification (reason : AccessReason)
  | recursionError
  | valueError
  | typeError
  | unicodeEncodeError
  | overflowError
  | httpException
  deriving DecidableEq, Repr

def AccessError.isVerification : AccessError → Bool
  | .verification _ => true
  | _ => false

structure AccessConfig (Key : Type) where
  issuer : PyStr
  audience : PyStr
  jwksCacheTtlSeconds : ℚ
  ttl_nonneg : 0 ≤ jwksCacheTtlSeconds
  loads : List UInt8 → Except JsonFault Json
  /-- The value of a float, if it is finite. -/
  floatValue : FloatText → Option ℚ
  /-- `rsa.RSAPublicNumbers(e, n).public_key()`, where it does not raise. -/
  publicKey : ℕ → ℕ → Option Key
  keySize : Key → ℕ
  /-- `key.verify(signature, signing_input, …)` does not raise. -/
  verifies : Key → List UInt8 → PyStr → Bool

/-! ### Segments -/

def isBase64UrlChar (n : ℕ) : Bool :=
  (65 ≤ n && n ≤ 90) || (97 ≤ n && n ≤ 122) || (48 ≤ n && n ≤ 57) || n = 95 || n = 45

/-- From the alphabet with `-` and `_` to the one with `+` and `/`. -/
def standardBase64 (n : ℕ) : ℕ := if n = 45 then 43 else if n = 95 then 47 else n

def base64Padding (length : ℕ) : ℕ := (4 - length % 4) % 4

def decodeBase64Url (segment : PyStr) : Option (List UInt8) :=
  if segment = [] ∨ ¬segment.all isBase64UrlChar then none
  else b64decode (segment.map standardBase64 ++ List.replicate
    (base64Padding segment.length) b64Pad)

def malformed {α : Type} : Except AccessError α := .error (.verification .malformedAssertion)

section Model

variable {Key : Type} (cfg : AccessConfig Key)

def loadsDict (fault : AccessReason) (raw : List UInt8) :
    Except AccessError (List (PyStr × Json)) :=
  match cfg.loads raw with
  | .ok (.obj pairs) => .ok pairs
  | .ok _ => .error (.verification fault)
  | .error .decode => .error (.verification fault)
  | .error .recursion => .error .recursionError
  | .error .value => .error .valueError

def decodeJsonSegment (segment : PyStr) : Except AccessError (List (PyStr × Json)) :=
  match decodeBase64Url segment with
  | none => malformed
  | some raw => loadsDict cfg .malformedAssertion raw

/-! ### Signing keys -/

/-- `_integer_from_base64url`, where it does not raise. -/
def integerFromBase64Url : Option Json → Option ℕ
  | some (.str value) => do
      let raw ← decodeBase64Url value
      if raw = [] then none else some (raw.foldl (fun n byte => 256 * n + byte.toNat) 0)
  | _ => none

def kidName : PyStr := .ofString "kid"

def rs256 : PyStr := .ofString "RS256"

/-- `value in {None, allowed}`; a list or a dictionary has no hash. -/
def inOptional (allowed : PyStr) : Option Json → Except AccessError Bool
  | none => .ok true
  | some .null => .ok true
  | some (.str s) => .ok (s = allowed)
  | some (.arr _) => .error .typeError
  | some (.obj _) => .error .typeError
  | some _ => .ok false

/-- The name of a key that an item may hold. -/
def itemKid (item : List (PyStr × Json)) : Option PyStr :=
  match item.lookup kidName with
  | some (.str kid) =>
      if kid = [] ∨ 128 < kid.length then none
      else match item.lookup (.ofString "kty") with
        | some (.str kty) => if kty = .ofString "RSA" then some kid else none
        | _ => none
  | _ => none

def itemKey (item : List (PyStr × Json)) : Option Key := do
  let exponent ← integerFromBase64Url (item.lookup (.ofString "e"))
  let modulus ← integerFromBase64Url (item.lookup (.ofString "n"))
  let key ← cfg.publicKey exponent modulus
  if cfg.keySize key < 2048 then none else some key

/-- One turn of the loop of `_parse_jwks`. -/
def parseItem : Json → Except AccessError (Option (PyStr × Key))
  | .obj item =>
      match itemKid item with
      | none => .ok none
      | some kid => do
          let alg ← inOptional rs256 (item.lookup (.ofString "alg"))
          if !alg then .ok none
          else do
            let use ← inOptional (.ofString "sig") (item.lookup (.ofString "use"))
            if !use then .ok none else .ok ((itemKey cfg item).map (kid, ·))
  | _ => .ok none

def parseItems : List Json → Except AccessError (List (PyStr × Key))
  | [] => .ok []
  | item :: items => do
      let parsed ← parseItem cfg item
      let rest ← parseItems items
      .ok (parsed.toList ++ rest)

/-- Later keys of a name replace earlier ones. -/
def keyNamed (kid : PyStr) (keys : List (PyStr × Key)) : Option Key := keys.reverse.lookup kid

def parseJwks (document : List (PyStr × Json)) : Except AccessError (List (PyStr × Key)) :=
  match document.lookup (.ofString "keys") with
  | some (.arr items) => do
      let keys ← parseItems cfg items
      if keys.isEmpty then .error (.verification .jwksParseFailed) else .ok keys
  | _ => .error (.verification .jwksParseFailed)

inductive FetchResult
  | body (raw : List UInt8)
  | osError
  | httpException

def maxJwksBytes : ℕ := 262144

/-- The keys of a response body. -/
def keysOfBody (raw : List UInt8) : Except AccessError (List (PyStr × Key)) :=
  if maxJwksBytes < raw.length then .error (.verification .jwksParseFailed)
  else do
    let document ← loadsDict cfg .jwksParseFailed raw
    parseJwks cfg document

def fetchedKeys : FetchResult → Except AccessError (List (PyStr × Key))
  | .body raw => keysOfBody cfg raw
  | .osError => .error (.verification .jwksFetchFailed)
  | .httpException => .error .httpException

/-! ### The cache -/

structure CachedKeys (Key : Type) where
  expiresAt : ℚ
  keys : List (PyStr × Key)

/-- A response that was parsed, and the time before it was fetched. -/
structure JwksFetch where
  time : ℚ
  response : FetchResult

structure AccessState (Key : Type) where
  cache : Option (CachedKeys Key)
  fetches : List JwksFetch

def AccessState.empty : AccessState Key := ⟨none, []⟩

abbrev AccessCall (Key α : Type) := Call (AccessState Key) AccessError α

def liftExcept {α : Type} (r : Except AccessError α) : AccessCall Key α :=
  match r with
  | .ok a => pure a
  | .error e => throw e

/-- The keys that the cache still gives. -/
def freshKeys (now : ℚ) (st : AccessState Key) : Option (List (PyStr × Key)) :=
  match st.cache with
  | some entry => if now < entry.expiresAt then some entry.keys else none
  | none => none

def refreshSigningKeys (now : ℚ) (response : FetchResult) :
    AccessCall Key (List (PyStr × Key)) := do
  let keys ← liftExcept (fetchedKeys cfg response)
  modify fun st => ⟨some ⟨now + cfg.jwksCacheTtlSeconds, keys⟩, ⟨now, response⟩ :: st.fetches⟩
  pure keys

/-- `_signing_keys`, without and with `force_refresh`. -/
def signingKeys (now : ℚ) (response : FetchResult) : AccessCall Key (List (PyStr × Key)) := do
  let st ← get
  match freshKeys now st with
  | some keys => pure keys
  | none => refreshSigningKeys cfg now response

/-! ### Verification -/

/-- A call of `verify`: what it reads from the clocks and from the network on its way. -/
structure VerifyCall where
  assertion : PyStr
  now : ℚ
  firstRead : ℚ
  firstResponse : FetchResult
  secondRead : ℚ
  secondResponse : FetchResult

structure Segments where
  header : PyStr
  claims : PyStr
  signature : PyStr

def maxAssertionLength : ℕ := 16384

def splitAssertion (assertion : PyStr) : Except AccessError Segments :=
  if assertion = [] ∨ maxAssertionLength < assertion.length ∨
      assertion.any PyStr.strip.spaceCode then malformed
  else match assertion.splitOn 46 with
    | [header, claims, signature] => .ok ⟨header, claims, signature⟩
    | _ => malformed

def kidOfHeader (header : List (PyStr × Json)) : Except AccessError PyStr :=
  match header.lookup (.ofString "alg") with
  | some (.str alg) =>
      if alg ≠ rs256 then malformed
      else match header.lookup kidName with
        | some (.str kid) => if kid = [] ∨ 128 < kid.length then malformed else .ok kid
        | _ => malformed
  | _ => malformed

/-- The key that the header names. -/
def readHeader (segments : Segments) : Except AccessError PyStr := do
  let header ← decodeJsonSegment cfg segments.header
  kidOfHeader header

def signingKeyFor (c : VerifyCall) (kid : PyStr) : AccessCall Key Key := do
  let keys ← signingKeys cfg c.firstRead c.firstResponse
  match keyNamed kid keys with
  | some key => pure key
  | none => do
      let keys ← refreshSigningKeys cfg c.secondRead c.secondResponse
      match keyNamed kid keys with
      | some key => pure key
      | none => throw (.verification .unknownSigningKey)

/-- `f"{encoded_header}.{encoded_claims}"`. -/
def Segments.signingInput (segments : Segments) : PyStr := segments.header ++ 46 :: segments.claims

def checkSignature (key : Key) (segments : Segments) : Except AccessError Unit :=
  match decodeBase64Url segments.signature with
  | none => malformed
  | some signature =>
      if ¬segments.signingInput.Ascii then .error .unicodeEncodeError
      else if cfg.verifies key signature segments.signingInput then .ok ()
      else .error (.verification .invalidSignature)

/-- An integer that `float` rejects: it rounds to a value beyond the largest float. -/
def floatOverflows (n : ℤ) : Bool := 2 ^ 1024 - 2 ^ 970 ≤ n.natAbs

def numericDate (claims : List (PyStr × Json)) (name : String) : Except AccessError ℚ :=
  match claims.lookup (.ofString name) with
  | some (.int n) => if floatOverflows n then .error .overflowError else .ok n
  | some (.float x) =>
      match cfg.floatValue x with
      | some value => .ok value
      | none => malformed
  | _ => malformed

def isStr : Json → Bool
  | .str _ => true
  | _ => false

def audienceMatches (expected : PyStr) : Option Json → Bool
  | some (.str value) => value = expected
  | some (.arr items) => items.all isStr && items.any fun
      | .str value => value = expected
      | _ => false
  | _ => false

def issuerMatches (expected : PyStr) : Option Json → Bool
  | some (.str value) => value = expected
  | _ => false

def checkNotBefore (now : ℚ) (claims : List (PyStr × Json)) : Except AccessError Unit :=
  if (claims.lookup (.ofString "nbf")).isNone then .ok ()
  else do
    let notBefore ← numericDate cfg claims "nbf"
    if now < notBefore then .error (.verification .notYetValid) else .ok ()

def checkDates (now : ℚ) (claims : List (PyStr × Json)) : Except AccessError Unit := do
  let expiry ← numericDate cfg claims "exp"
  if expiry ≤ now then .error (.verification .expired) else checkNotBefore cfg now claims

def checkClaims (now : ℚ) (claims : List (PyStr × Json)) :
    Except AccessError (List (PyStr × Json)) :=
  if !issuerMatches cfg.issuer (claims.lookup (.ofString "iss")) then
    .error (.verification .wrongIssuer)
  else if !audienceMatches cfg.audience (claims.lookup (.ofString "aud")) then
    .error (.verification .wrongAudience)
  else do
    checkDates cfg now claims
    .ok claims

def readClaims (now : ℚ) (segments : Segments) : Except AccessError (List (PyStr × Json)) := do
  let claims ← decodeJsonSegment cfg segments.claims
  checkClaims cfg now claims

def verify (c : VerifyCall) : AccessCall Key (List (PyStr × Json)) := do
  let segments ← liftExcept (splitAssertion c.assertion)
  let kid ← liftExcept (readHeader cfg segments)
  let key ← signingKeyFor cfg c kid
  liftExcept (checkSignature cfg key segments)
  liftExcept (readClaims cfg c.now segments)

/-- The state after some calls, from an empty cache. -/
def afterCalls (calls : List VerifyCall) : AccessState Key :=
  calls.foldl (fun st c => after (verify cfg c) st) .empty

end Model

end SitBank.Security
