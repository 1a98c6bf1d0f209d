import SitBank.Python.Numerals
import SitBank.Security.AccessAssertions
import SitBank.Security.LedgerSignatures

/-!
Passwords as any texts, and stored hashes as any texts (`app/security/passwords.py`).

The policy, the hash and the verification each normalise a password and look at its length.
Only the lookup at HIBP encodes it as well: while the circuit is open, a password with a lone
surrogate passes the policy and cannot be hashed. The fields of a stored hash are parsed one
by one; what is wrong with them raises a `ValueError`, and the verification is false. An
iteration count that PBKDF2 cannot take is not wrong for the parser, and the `OverflowError`
is no `ValueError`.
-/

namespace SitBank.Auth.Hashing

open SitBank.Python SitBank.Security

/-! ### Settings -/

/-- The settings as they are validated at the start, and what comes from the libraries. -/
structure HashConfig where
  minLength : ℕ
  maxChars : ℕ
  iterations : ℕ
  pepper : List UInt8
  minLength_range : 1 ≤ minLength ∧ minLength ≤ 1024
  maxChars_range : 64 ≤ maxChars ∧ maxChars ≤ 1024
  minLength_le : minLength ≤ maxChars
  iterations_le : 600000 ≤ iterations
  pepper_length : pepper.length = 32
  failureThreshold : ℕ
  openSeconds : ℤ
  /-- The entries of the dictionary, normalised and folded. -/
  commonPasswords : PyStr → Bool
  /-- `unicodedata.normalize("NFC", password)`. -/
  nfc : PyStr → PyStr
  casefold : PyStr → PyStr
  /-- `unicodedata.decimal` outside ASCII. -/
  decimal : ℕ → Option (Fin 10)
  sha1 : List UInt8 → List UInt8
  hmacSha256 : List UInt8 → List UInt8 → List UInt8
  /-- `hashlib.pbkdf2_hmac("sha256", …, dklen=32)`, which takes up to `maxIterations`. -/
  pbkdf2 : List UInt8 → List UInt8 → ℕ → List UInt8
  maxIterations : ℕ
  maxIterations_lt : maxIterations < 2 ^ 63

/-- `UnicodeEncodeError` and `binascii.Error` are `ValueError`s. -/
inductive HashError
  | valueError
  | overflowError
  deriving DecidableEq, Repr

inductive PolicyError
  | passwordPolicy (message : String)
  | livePasswordCheckUnavailable
  | unicodeEncodeError
  | httpException
  deriving DecidableEq, Repr

/-! ### Texts -/

/-- A code point that is no surrogate. -/
def isScalar (n : ℕ) : Bool := n < 0xD800 || 0xDFFF < n && n < 0x110000

/-- `text.encode("utf-8")`. -/
def utf8Encode (text : PyStr) : Option (List UInt8) :=
  if text.all isScalar then some (encodeUtf8 (text.map Char.ofNat)) else none

/-- From the alphabet with `+` and `/` to the one with `-` and `_`. -/
def urlsafeBase64 (n : ℕ) : ℕ := if n = 43 then 45 else if n = 47 then 95 else n

/-- `_b64encode`. -/
def b64encodeText (value : List UInt8) : PyStr :=
  ((b64encode value).map urlsafeBase64).rdropWhile (· = b64Pad)

/-- `_b64decode`. -/
def b64decodeText (value : PyStr) : Except HashError (List UInt8) :=
  let padded := value ++ List.replicate (base64Padding value.length) b64Pad
  if padded.all (· < 128) then
    match a2bBase64 0 0 0 (padded.map standardBase64) with
    | some bytes => .ok bytes
    | none => .error .valueError
  else .error .valueError

/-- `value.partition("=")`, when the label is the expected one. -/
def labelled (label : ℕ) (value : PyStr) : Except HashError PyStr :=
  match value.dropWhile (· ≠ 61) with
  | [] => .error .valueError
  | _ :: text => if value.takeWhile (· ≠ 61) = [label] then .ok text else .error .valueError

def parseB64Part (label : ℕ) (value : PyStr) : Except HashError (List UInt8) :=
  match labelled label value with
  | .error e => .error e
  | .ok text => b64decodeText text

def pbkdf2Prefix : PyStr := .ofString "osp-pbkdf2-sha256"

def pbkdf2Version : PyStr := .ofString "v1"

section Source

variable (cfg : HashConfig)

/-! ### Hashes -/

def safeNormalizedPassword (password : PyStr) : Except HashError PyStr :=
  if cfg.maxChars < password.length then .error .valueError
  else if cfg.maxChars < (cfg.nfc password).length then .error .valueError
  else .ok (cfg.nfc password)

/-- The key that is derived from an encoded password. -/
def HashConfig.derive (message salt : List UInt8) (iterations : ℕ) : List UInt8 :=
  cfg.pbkdf2 (cfg.hmacSha256 cfg.pepper message) salt iterations

def pbkdf2Digest (password : PyStr) (salt : List UInt8) (iterations : ℕ) :
    Except HashError (List UInt8) :=
  match safeNormalizedPassword cfg password with
  | .error e => .error e
  | .ok normalized =>
      match utf8Encode normalized with
      | none => .error .valueError
      | some message =>
          if cfg.maxIterations < iterations then .error .overflowError
          else .ok (cfg.derive message salt iterations)

def hashText (iterations : ℕ) (salt digest : List UInt8) : PyStr :=
  pbkdf2Prefix ++ 36 :: (pbkdf2Version ++ 36 :: ((105 :: 61 :: numeral iterations) ++ 36 ::
    ((115 :: 61 :: b64encodeText salt) ++ 36 :: (104 :: 61 :: b64encodeText digest))))

/-- `hash_password`; the salt is what `os.urandom` returns. -/
def hashPassword (password : PyStr) (salt : List UInt8) : Except HashError PyStr :=
  match pbkdf2Digest cfg password salt cfg.iterations with
  | .error e => .error e
  | .ok digest => .ok (hashText cfg.iterations salt digest)

def parseIterations (value : PyStr) : Except HashError ℕ :=
  match labelled 105 value with
  | .error e => .error e
  | .ok text =>
      match intOfText cfg.decimal text with
      | none => .error .valueError
      | some n => if n < 600000 then .error .valueError else .ok n.toNat

/-- `except (AttributeError, TypeError, ValueError)`. -/
def exceptValueError (answer : Bool) : Except HashError Bool → Except HashError Bool
  | .error .valueError => .ok answer
  | r => r

/-- The comparison with the fields of the stored hash. -/
def verifyFields (password iterations salt digest : PyStr) : Except HashError Bool :=
  match parseIterations cfg iterations with
  | .error e => .error e
  | .ok count =>
      match parseB64Part 115 salt with
      | .error e => .error e
      | .ok saltBytes =>
          match parseB64Part 104 digest with
          | .error e => .error e
          | .ok expected =>
              match pbkdf2Digest cfg password saltBytes count with
              | .error e => .error e
              | .ok candidate => .ok (candidate = expected)

def verifyPassword (password passwordHash : PyStr) : Except HashError Bool :=
  if cfg.maxChars < password.length then .ok false
  else
    match passwordHash.splitOn 36 with
    | [algorithm, version, iterations, salt, digest] =>
        if algorithm = pbkdf2Prefix ∧ version = pbkdf2Version then
          exceptValueError false (verifyFields cfg password iterations salt digest)
        else .ok false
    | _ => .ok false

def passwordHashNeedsRehash (passwordHash : PyStr) : Except HashError Bool :=
  match passwordHash.splitOn 36 with
  | [algorithm, version, iterations, _, _] =>
      if algorithm = pbkdf2Prefix ∧ version = pbkdf2Version then
        exceptValueError true
          ((parseIterations cfg iterations).map fun count => count < cfg.iterations)
      else .ok true
  | _ => .ok true

/-! ### The policy -/

/-- The row of the circuit breaker, as far as it is read. -/
structure Breaker where
  isOpen : Bool
  failureCount : ℕ
  openedUntil : Option ℤ
  deriving DecidableEq, Repr

inductive HibpResponse
  | osError
  /-- What `urlopen` raises that is no `OSError`. -/
  | httpException
  | answer (status : ℕ) (payload : List UInt8)

/-- What one call of the policy meets. -/
structure PolicyCall where
  /-- In microseconds. -/
  now : ℤ
  response : HibpResponse
  readFails : Bool
  closeFails : Bool
  recordFails : Bool
  clearFails : Bool

/-- `_hibp_circuit_is_open`, and the row it leaves. -/
def hibpCircuitIsOpen (call : PolicyCall) (breaker : Option Breaker) : Bool × Option Breaker :=
  if call.readFails then (true, breaker)
  else
    match breaker with
    | none => (false, none)
    | some b =>
        match b.isOpen, b.openedUntil with
        | true, some openedUntil =>
            if call.now < openedUntil then (true, some b)
            else if call.closeFails then (true, some b)
            else (false, some ⟨false, 0, none⟩)
        | _, _ => (false, some b)

def recordHibpFailure (call : PolicyCall) (breaker : Option Breaker) : Option Breaker :=
  if call.recordFails then breaker
  else
    let b := breaker.getD ⟨false, 0, none⟩
    if cfg.failureThreshold ≤ b.failureCount + 1 then
      some ⟨true, b.failureCount + 1, some (call.now + cfg.openSeconds * 1000000)⟩
    else some { b with failureCount := b.failureCount + 1 }

def clearHibpFailures (call : PolicyCall) (breaker : Option Breaker) : Option Breaker :=
  if call.clearFails then breaker else breaker.map fun _ => ⟨false, 0, none⟩

/-- Where `splitlines` ends a line of ASCII. -/
def isLineBreak (n : ℕ) : Bool := (10 ≤ n && n ≤ 13) || (28 ≤ n && n ≤ 30)

/-- `text.splitlines()`, after what has been read of the line, backwards. -/
def splitLines (line : PyStr) : PyStr → List PyStr
  | [] => if line = [] then [] else [line.reverse]
  | 13 :: 10 :: text => line.reverse :: splitLines [] text
  | n :: text => if isLineBreak n then line.reverse :: splitLines [] text
    else splitLines (n :: line) text

/-- `str.upper` on ASCII. -/
def upperCode (n : ℕ) : ℕ := if 97 ≤ n ∧ n ≤ 122 then n - 32 else n

/-- The loop over the lines; `none` is a `ValueError`. -/
def hibpMatches (suffix : PyStr) : List PyStr → Option Bool
  | [] => some false
  | line :: lines =>
      match line.dropWhile (· ≠ 58) with
      | [] => none
      | _ :: countText =>
          match intOfText cfg.decimal (PyStr.strip countText) with
          | none => none
          | some count =>
              if (PyStr.strip (line.takeWhile (· ≠ 58))).map upperCode = suffix ∧ 0 < count then
                some true
              else hibpMatches suffix lines

def hibpMaxResponseBytes : ℕ := 256 * 1024

def isPasswordPwnedByHibp (response : HibpResponse) (password : PyStr) : Except PolicyError Bool :=
  match utf8Encode password with
  | none => .error .unicodeEncodeError
  | some message =>
      let passwordHash := (PyStr.ofString (hexdigest (cfg.sha1 message))).map upperCode
      match response with
      | .osError => .error .livePasswordCheckUnavailable
      | .httpException => .error .httpException
      | .answer status payload =>
          if status ≠ 200 then .error .livePasswordCheckUnavailable
          else if hibpMaxResponseBytes < payload.length then .error .livePasswordCheckUnavailable
          else if payload.any (fun byte => 128 ≤ byte.toNat) then
            .error .livePasswordCheckUnavailable
          else
            match hibpMatches cfg (passwordHash.drop 5)
              (splitLines [] (payload.map UInt8.toNat)) with
            | none => .error .livePasswordCheckUnavailable
            | some found => .ok found

def commonPasswordError : PolicyError :=
  .passwordPolicy "Password is too common. Please try again"

def tooLong : PolicyError :=
  .passwordPolicy ("Password must be at most " ++ toString cfg.maxChars ++ " characters")

def tooShort : PolicyError :=
  .passwordPolicy ("Password must be at least " ++ toString cfg.minLength ++ " characters")

def hibpFallbackWarning : String :=
  "Live breached-password screening was unavailable; the local password blocklist was applied."

/-- `validate_password_policy`, and the row of the circuit breaker that it leaves. -/
def validatePasswordPolicy (call : PolicyCall) (breaker : Option Breaker) (password : PyStr) :
    Except PolicyError (List String) × Option Breaker :=
  let normalized := cfg.nfc password
  if cfg.maxChars < password.length then (.error (tooLong cfg), breaker)
  else if cfg.maxChars < normalized.length then (.error (tooLong cfg), breaker)
  else if normalized.length < cfg.minLength then (.error (tooShort cfg), breaker)
  else if cfg.commonPasswords (cfg.casefold normalized) then (.error commonPasswordError, breaker)
  else
    let (isOpen, breaker) := hibpCircuitIsOpen call breaker
    if isOpen then (.ok [hibpFallbackWarning], breaker)
    else
      match isPasswordPwnedByHibp cfg call.response normalized with
      | .error .livePasswordCheckUnavailable =>
          (.ok [hibpFallbackWarning], recordHibpFailure cfg call breaker)
      | .error e => (.error e, breaker)
      | .ok true => (.error commonPasswordError, clearHibpFailures call breaker)
      | .ok false => (.ok [], clearHibpFailures call breaker)

end Source

/-! ### Texts that are read back -/

theorem toNat_ofNat_scalar {n : ℕ} (h : isScalar n = true) : (Char.ofNat n).toNat = n := by
  simp only [isScalar, Bool.or_eq_true, Bool.and_eq_true, decide_eq_true_eq] at h
  exact toNat_ofNat_of_valid h

theorem utf8Encode_eq_some_iff {text : PyStr} {message : List UInt8} :
    utf8Encode text = some message ↔
      text.all isScalar = true ∧ encodeUtf8 (text.map Char.ofNat) = message := by
  unfold utf8Encode
  split
  · next h => simp [h]
  · next h => simp [h]

theorem utf8Encode_injective {text text' : PyStr} {message : List UInt8}
    (h : utf8Encode text = some message) (h' : utf8Encode text' = some message) : text = text' := by
  obtain ⟨hs, he⟩ := utf8Encode_eq_some_iff.mp h
  obtain ⟨hs', he'⟩ := utf8Encode_eq_some_iff.mp h'
  have hchars := congrArg (List.map Char.toNat) (encodeUtf8_injective (he.trans he'.symm))
  have hback {s : PyStr} (hs : s.all isScalar = true) : (s.map Char.ofNat).map Char.toNat = s := by
    rw [List.map_map]
    refine (List.map_congr_left fun n hn => ?_).trans (List.map_id s)
    exact toNat_ofNat_scalar (List.all_eq_true.mp hs n hn)
  rwa [hback hs, hback hs'] at hchars

/-! ### Base64 without padding -/

/-- What the two alphabets do to the characters of the encoder. -/
theorem urlsafeBase64_b64Char {n : ℕ} (h : n < 64) :
    urlsafeBase64 (b64Char n) ≠ 36 ∧ urlsafeBase64 (b64Char n) ≠ b64Pad ∧
      urlsafeBase64 (b64Char n) < 128 ∧ standardBase64 (urlsafeBase64 (b64Char n)) = b64Char n := by
  have hall : ∀ i : Fin 64, urlsafeBase64 (b64Char i) ≠ 36 ∧ urlsafeBase64 (b64Char i) ≠ b64Pad ∧
      urlsafeBase64 (b64Char i) < 128 ∧ standardBase64 (urlsafeBase64 (b64Char i)) = b64Char i := by
    decide
  exact hall ⟨n, h⟩

theorem rdropWhile_append_replicate {α : Type} {p : α → Bool} {x : α} (hx : p x = true) (l : List α)
    (k : ℕ) : (l ++ List.replicate k x).rdropWhile p = l.rdropWhile p := by
  induction k with
  | zero => rw [List.replicate_zero, List.append_nil]
  | succ k ih =>
      rw [List.replicate_succ', ← List.append_assoc, List.rdropWhile_concat_pos _ _ _ hx, ih]

/-- The text is the body in the other alphabet, and its length tells the padding. -/
theorem b64encodeText_body (bytes : List UInt8) : ∃ body : PyStr,
    b64encode bytes = body ++ List.replicate (base64Padding body.length) b64Pad ∧
      b64encodeText bytes = body.map urlsafeBase64 ∧ ∀ c ∈ body, ∃ n, n < 64 ∧ c = b64Char n := by
  obtain ⟨body, k, hk, hencode, hlength, hbody⟩ := b64encode_padding bytes
  have hpadding : base64Padding body.length = k := by
    unfold base64Padding
    omega
  refine ⟨body, hpadding ▸ hencode, ?_, hbody⟩
  have hpad : urlsafeBase64 b64Pad = b64Pad := rfl
  have hdrop : decide (b64Pad = b64Pad) = true := rfl
  rw [b64encodeText, hencode, List.map_append, List.map_replicate, hpad,
    @rdropWhile_append_replicate ℕ (· = b64Pad) b64Pad hdrop]
  refine List.rdropWhile_eq_self_iff.mpr fun hne hlast => ?_
  obtain ⟨c, hc, hcode⟩ := List.mem_map.mp (List.getLast_mem hne)
  obtain ⟨n, hn, rfl⟩ := hbody c hc
  exact (urlsafeBase64_b64Char hn).2.1 (hcode.trans (of_decide_eq_true hlast))

theorem not_mem_b64encodeText (bytes : List UInt8) : 36 ∉ b64encodeText bytes := by
  obtain ⟨body, -, htext, hbody⟩ := b64encodeText_body bytes
  rw [htext]
  intro hmem
  obtain ⟨c, hc, hcode⟩ := List.mem_map.mp hmem
  obtain ⟨n, hn, rfl⟩ := hbody c hc
  exact (urlsafeBase64_b64Char hn).1 hcode

theorem b64decodeText_b64encodeText (bytes : List UInt8) :
    b64decodeText (b64encodeText bytes) = .ok bytes := by
  obtain ⟨body, hencode, htext, hbody⟩ := b64encodeText_body bytes
  have hascii : (body.map urlsafeBase64 ++
      List.replicate (base64Padding body.length) b64Pad).all (· < 128) = true := by
    rw [List.all_append, Bool.and_eq_true, List.all_map, List.all_eq_true, List.all_eq_true]
    constructor
    · intro c hc
      obtain ⟨n, hn, rfl⟩ := hbody c hc
      exact decide_eq_true (urlsafeBase64_b64Char hn).2.2.1
    · intro c hc
      obtain rfl := List.eq_of_mem_replicate hc
      rfl
  have hstandard : (body.map urlsafeBase64 ++
      List.replicate (base64Padding body.length) b64Pad).map standardBase64 = b64encode bytes := by
    have hback : (body.map urlsafeBase64).map standardBase64 = body := by
      rw [List.map_map]
      refine (List.map_congr_left fun c hc => ?_).trans (List.map_id body)
      obtain ⟨n, hn, rfl⟩ := hbody c hc
      exact (urlsafeBase64_b64Char hn).2.2.2
    rw [List.map_append, hback, List.map_replicate, hencode]
    rfl
  simp only [b64decodeText, htext, List.length_map, hascii, hstandard, if_true,
    a2bBase64_b64encode]

/-! ### The fields of a stored hash -/

theorem labelled_self (label : ℕ) (h : label ≠ 61) (text : PyStr) :
    labelled label (label :: 61 :: text) = .ok text := by
  have hdrop : (label :: 61 :: text).dropWhile (· ≠ 61) = 61 :: text := by
    simp [h]
  have htake : (label :: 61 :: text).takeWhile (· ≠ 61) = [label] := by
    simp [h]
  rw [labelled, hdrop]
  exact if_pos htake

theorem parseB64Part_self (label : ℕ) (h : label ≠ 61) (bytes : List UInt8) :
    parseB64Part label (label :: 61 :: b64encodeText bytes) = .ok bytes := by
  rw [parseB64Part, labelled_self label h]
  exact b64decodeText_b64encodeText bytes

theorem parseIterations_numeral (cfg : HashConfig) {n : ℕ} (h : 600000 ≤ n) (hn : n < 2 ^ 63) :
    parseIterations cfg (105 :: 61 :: numeral n) = .ok n := by
  have hint : ¬ (n : ℤ) < 600000 := by
    omega
  rw [parseIterations, labelled_self 105 (by decide)]
  simp only [intOfText_numeral cfg.decimal hn, hint, if_false, Int.toNat_natCast]

theorem splitOn_hashText (iterations : ℕ) (salt digest : List UInt8) :
    (hashText iterations salt digest).splitOn 36 =
      [pbkdf2Prefix, pbkdf2Version, 105 :: 61 :: numeral iterations,
        115 :: 61 :: b64encodeText salt, 104 :: 61 :: b64encodeText digest] := by
  have hcount : (36 : ℕ) ∉ 105 :: 61 :: numeral iterations := by
    intro hmem
    have hdigit : 36 ∈ numeral iterations := by
      simpa using hmem
    exact absurd (numeral_digits hdigit) (by decide)
  have hsalt : 36 ∉ 115 :: 61 :: b64encodeText salt := by
    simpa using not_mem_b64encodeText salt
  have hdigest : 36 ∉ 104 :: 61 :: b64encodeText digest := by
    simpa using not_mem_b64encodeText digest
  rw [hashText, List.splitOn_append_cons_self_of_not_mem (by decide),
    List.splitOn_append_cons_self_of_not_mem (by decide),
    List.splitOn_append_cons_self_of_not_mem hcount,
    List.splitOn_append_cons_self_of_not_mem hsalt, List.splitOn_eq_singleton hdigest]

/-! ### What is hashed -/

section Hashed

variable (cfg : HashConfig)

/-- A password that is within the limits as it stands and normalised, and can be encoded. -/
structure Hashable (password : PyStr) : Prop where
  raw : password.length ≤ cfg.maxChars
  normalized : (cfg.nfc password).length ≤ cfg.maxChars
  scalars : (cfg.nfc password).all isScalar = true

/-- What is encoded of a password. -/
def HashConfig.message (password : PyStr) : List UInt8 :=
  encodeUtf8 ((cfg.nfc password).map Char.ofNat)

variable {cfg}

theorem Hashable.utf8Encode {password : PyStr} (h : Hashable cfg password) :
    utf8Encode (cfg.nfc password) = some (cfg.message password) :=
  utf8Encode_eq_some_iff.mpr ⟨h.scalars, rfl⟩

theorem message_injective {p q : PyStr} (hp : Hashable cfg p) (hq : Hashable cfg q)
    (h : cfg.message q = cfg.message p) : cfg.nfc q = cfg.nfc p :=
  utf8Encode_injective hq.utf8Encode (h ▸ hp.utf8Encode)

theorem pbkdf2Digest_of_not_hashable {password : PyStr} (h : ¬ Hashable cfg password)
    (salt : List UInt8) (iterations : ℕ) :
    pbkdf2Digest cfg password salt iterations = .error .valueError := by
  unfold pbkdf2Digest safeNormalizedPassword
  by_cases hraw : cfg.maxChars < password.length
  · rw [if_pos hraw]
  · by_cases hnormalized : cfg.maxChars < (cfg.nfc password).length
    · rw [if_neg hraw, if_pos hnormalized]
    · have hscalars : ¬ (cfg.nfc password).all isScalar = true := fun hscalars =>
        h ⟨not_lt.mp hraw, not_lt.mp hnormalized, hscalars⟩
      rw [if_neg hraw, if_neg hnormalized]
      dsimp only
      rw [Hashing.utf8Encode, if_neg hscalars]

theorem pbkdf2Digest_of_hashable {password : PyStr} (h : Hashable cfg password)
    (salt : List UInt8) (iterations : ℕ) :
    pbkdf2Digest cfg password salt iterations =
      if cfg.maxIterations < iterations then .error .overflowError
      else .ok (cfg.derive (cfg.message password) salt iterations) := by
  rw [pbkdf2Digest, safeNormalizedPassword, if_neg (not_lt.mpr h.raw),
    if_neg (not_lt.mpr h.normalized)]
  dsimp only
  rw [h.utf8Encode]

/-- The hash of a password is true of the passwords with the same normal form. -/
theorem verifyPassword_hashText
    (hinj : ∀ salt iterations, Function.Injective fun message => cfg.derive message salt iterations)
    {p : PyStr} (hp : Hashable cfg p) (hcount : cfg.iterations ≤ cfg.maxIterations)
    (salt : List UInt8) (q : PyStr) :
    verifyPassword cfg q (hashText cfg.iterations salt
        (cfg.derive (cfg.message p) salt cfg.iterations)) =
      .ok (decide (q.length ≤ cfg.maxChars ∧ cfg.nfc q = cfg.nfc p)) := by
  have hparse : parseIterations cfg (105 :: 61 :: numeral cfg.iterations) = .ok cfg.iterations :=
    parseIterations_numeral cfg cfg.iterations_le (hcount.trans_lt cfg.maxIterations_lt)
  by_cases hraw : cfg.maxChars < q.length
  · rw [verifyPassword, if_pos hraw, decide_eq_false fun h => not_le.mpr hraw h.1]
  rw [verifyPassword, if_neg hraw, splitOn_hashText]
  simp only [and_self, if_true, verifyFields, hparse, parseB64Part_self 115 (by decide),
    parseB64Part_self 104 (by decide)]
  by_cases hq : Hashable cfg q
  · rw [pbkdf2Digest_of_hashable hq, if_neg (not_lt.mpr hcount)]
    have hiff : cfg.derive (cfg.message q) salt cfg.iterations =
        cfg.derive (cfg.message p) salt cfg.iterations ↔
          q.length ≤ cfg.maxChars ∧ cfg.nfc q = cfg.nfc p := by
      constructor
      · intro h
        exact ⟨hq.raw, message_injective hp hq (hinj salt cfg.iterations h)⟩
      · rintro ⟨-, h⟩
        rw [HashConfig.message, HashConfig.message, h]
    exact congrArg Except.ok (decide_eq_decide.mpr hiff)
  · -- with the normal form of `p`, `q` could be hashed
    have hne : ¬ (q.length ≤ cfg.maxChars ∧ cfg.nfc q = cfg.nfc p) := by
      rintro ⟨hlength, heq⟩
      exact hq ⟨hlength, heq ▸ hp.normalized, heq ▸ hp.scalars⟩
    rw [pbkdf2Digest_of_not_hashable hq, decide_eq_false hne]
    rfl

/-! ### What is stored -/

theorem labelled_error {label : ℕ} {value : PyStr} {e : HashError}
    (h : labelled label value = .error e) : e = .valueError := by
  unfold labelled at h
  split at h
  · cases h
    rfl
  · split at h
    · cases h
    · cases h
      rfl

theorem parseB64Part_error {label : ℕ} {value : PyStr} {e : HashError}
    (h : parseB64Part label value = .error e) : e = .valueError := by
  unfold parseB64Part at h
  split at h
  · next hlabelled =>
      cases h
      exact labelled_error hlabelled
  · unfold b64decodeText at h
    dsimp only at h
    split at h
    · split at h
      · cases h
      · cases h
        rfl
    · cases h
      rfl

theorem parseIterations_error {value : PyStr} {e : HashError}
    (h : parseIterations cfg value = .error e) : e = .valueError := by
  unfold parseIterations at h
  split at h
  · next hlabelled =>
      cases h
      exact labelled_error hlabelled
  · split at h
    · cases h
      rfl
    · split at h
      · cases h
        rfl
      · cases h

theorem exceptValueError_returns_iff (answer : Bool) (r : Except HashError Bool) :
    (∃ b, exceptValueError answer r = .ok b) ↔ r ≠ .error .overflowError := by
  unfold exceptValueError
  split
  · simp
  · next hne =>
      cases r with
      | ok b => simp
      | error e =>
          cases e with
          | valueError => exact absurd rfl hne
          | overflowError => simp

variable (cfg)

/-- The stored text has the five fields, and each of them can be read. -/
def WellFormed (passwordHash : PyStr) (count : ℕ) : Prop :=
  ∃ iterations salt digest saltBytes expected,
    passwordHash.splitOn 36 = [pbkdf2Prefix, pbkdf2Version, iterations, salt, digest] ∧
      parseIterations cfg iterations = .ok count ∧ parseB64Part 115 salt = .ok saltBytes ∧
        parseB64Part 104 digest = .ok expected

/-- PBKDF2 takes the stored count, if the hash of the password is computed at all. -/
def CountFits (password passwordHash : PyStr) : Prop :=
  ∀ count, WellFormed cfg passwordHash count → Hashable cfg password → count ≤ cfg.maxIterations

variable {cfg}

theorem verifyFields_overflow_iff {password iterations salt digest : PyStr} :
    verifyFields cfg password iterations salt digest = .error .overflowError ↔
      ∃ count saltBytes expected, parseIterations cfg iterations = .ok count ∧
        parseB64Part 115 salt = .ok saltBytes ∧ parseB64Part 104 digest = .ok expected ∧
          Hashable cfg password ∧ cfg.maxIterations < count := by
  unfold verifyFields
  cases hcount : parseIterations cfg iterations with
  | error e => simp [parseIterations_error hcount]
  | ok count =>
      cases hsalt : parseB64Part 115 salt with
      | error e => simp [parseB64Part_error hsalt]
      | ok saltBytes =>
          cases hdigest : parseB64Part 104 digest with
          | error e => simp [parseB64Part_error hdigest]
          | ok expected =>
              by_cases hpassword : Hashable cfg password
              · have hcandidate := pbkdf2Digest_of_hashable hpassword saltBytes count
                by_cases hfits : cfg.maxIterations < count
                · simp [hcandidate, hfits, hpassword]
                · simp [hcandidate, hfits]
              · simp [pbkdf2Digest_of_not_hashable hpassword, hpassword]

theorem verifyPassword_returns_iff (password passwordHash : PyStr) :
    (∃ b, verifyPassword cfg password passwordHash = .ok b) ↔
      CountFits cfg password passwordHash := by
  unfold verifyPassword
  split
  -- a password that is too long is refused before the hash is read
  · next hraw =>
      simp only [CountFits, Except.ok.injEq, exists_eq', true_iff]
      intro count _ hpassword
      exact absurd hpassword.raw (not_le.mpr hraw)
  · split
    · next algorithm version iterations salt digest hparts =>
        split
        · next hformat =>
            obtain ⟨rfl, rfl⟩ := hformat
            rw [exceptValueError_returns_iff, Ne, verifyFields_overflow_iff]
            constructor
            · rintro hno count ⟨iterations', salt', digest', saltBytes, expected, hsplit, hcount,
                hsalt, hdigest⟩ hpassword
              rw [hparts] at hsplit
              cases hsplit
              exact not_lt.mp fun hlt =>
                hno ⟨count, saltBytes, expected, hcount, hsalt, hdigest, hpassword, hlt⟩
            · rintro hfits ⟨count, saltBytes, expected, hcount, hsalt, hdigest, hpassword, hlt⟩
              have hwell : WellFormed cfg passwordHash count :=
                ⟨iterations, salt, digest, saltBytes, expected, hparts, hcount, hsalt, hdigest⟩
              exact not_le.mpr hlt (hfits count hwell hpassword)
        · next hformat =>
            simp only [CountFits, Except.ok.injEq, exists_eq', true_iff]
            rintro count ⟨_, _, _, _, _, hsplit, -⟩
            rw [hparts] at hsplit
            cases hsplit
            exact absurd ⟨rfl, rfl⟩ hformat
    · next hparts =>
        simp only [CountFits, Except.ok.injEq, exists_eq', true_iff]
        rintro count ⟨_, _, _, _, _, hsplit, -⟩
        exact absurd hsplit (hparts _ _ _ _ _)

theorem passwordHashNeedsRehash_returns (passwordHash : PyStr) :
    ∃ b, passwordHashNeedsRehash cfg passwordHash = .ok b := by
  unfold passwordHashNeedsRehash
  split
  · split
    · rw [exceptValueError_returns_iff]
      intro herror
      rename_i iterations _ _ _ _
      cases hcount : parseIterations cfg iterations with
      | ok count =>
          rw [hcount] at herror
          cases herror
      | error e =>
          obtain rfl := parseIterations_error hcount
          rw [hcount] at herror
          cases herror
    · exact ⟨_, rfl⟩
  · exact ⟨_, rfl⟩

end Hashed

/-! ### What the policy accepts -/

section Policy

variable (cfg : HashConfig) (call : PolicyCall) (breaker : Option Breaker)

def Accepted (password : PyStr) : Prop :=
  ∃ warnings, (validatePasswordPolicy cfg call breaker password).1 = .ok warnings

variable {cfg call breaker}

/-- Without the lookup nothing has encoded the password. -/
theorem Accepted.bounds {password : PyStr} (h : Accepted cfg call breaker password) :
    password.length ≤ cfg.maxChars ∧ (cfg.nfc password).length ≤ cfg.maxChars ∧
      ((hibpCircuitIsOpen call breaker).1 = false → (cfg.nfc password).all isScalar = true) := by
  obtain ⟨warnings, h⟩ := h
  unfold validatePasswordPolicy at h
  dsimp only at h
  split at h
  · cases h
  next hraw =>
  split at h
  · cases h
  next hnormalized =>
  refine ⟨not_lt.mp hraw, not_lt.mp hnormalized, fun hclosed => ?_⟩
  split at h
  · cases h
  split at h
  · cases h
  rw [hclosed, if_neg Bool.false_ne_true] at h
  cases hencode : utf8Encode (cfg.nfc password) with
  | some message => exact (utf8Encode_eq_some_iff.mp hencode).1
  | none =>
      rw [isPasswordPwnedByHibp, hencode] at h
      cases h

end Policy

/-! ### Exactness -/

section Exact

variable (cfg : HashConfig) (call : PolicyCall) (breaker : Option Breaker)

/-- The password has a hash, which is true of the passwords with its normal form only. -/
def HashExact (password : PyStr) (salt : List UInt8) : Prop :=
  ∃ passwordHash, hashPassword cfg password salt = .ok passwordHash ∧
    ∀ q, verifyPassword cfg q passwordHash =
      .ok (decide (q.length ≤ cfg.maxChars ∧ cfg.nfc q = cfg.nfc password))

/-- PBKDF2 takes the configured count, and the policy has encoded the password or could have. -/
structure HashFits (password : PyStr) : Prop where
  iterations : cfg.iterations ≤ cfg.maxIterations
  scalars : (hibpCircuitIsOpen call breaker).1 = true → (cfg.nfc password).all isScalar = true

variable {cfg call breaker}

theorem hashExact_of_hashable
    (hinj : ∀ salt iterations, Function.Injective fun message => cfg.derive message salt iterations)
    {password : PyStr} (h : Hashable cfg password) (hcount : cfg.iterations ≤ cfg.maxIterations)
    (salt : List UInt8) : HashExact cfg password salt := by
  refine ⟨hashText cfg.iterations salt (cfg.derive (cfg.message password) salt cfg.iterations), ?_,
    verifyPassword_hashText hinj h hcount salt⟩
  rw [hashPassword, pbkdf2Digest_of_hashable h, if_neg (not_lt.mpr hcount)]

theorem hashable_of_hashPassword {password passwordHash : PyStr} {salt : List UInt8}
    (h : hashPassword cfg password salt = .ok passwordHash) :
    Hashable cfg password ∧ cfg.iterations ≤ cfg.maxIterations := by
  by_cases hpassword : Hashable cfg password
  · refine ⟨hpassword, not_lt.mp fun hlt => ?_⟩
    rw [hashPassword, pbkdf2Digest_of_hashable hpassword, if_pos hlt] at h
    cases h
  · rw [hashPassword, pbkdf2Digest_of_not_hashable hpassword] at h
    cases h

/-- An accepted password is hashed exactly when nothing skipped the encoding, and a stored text
is verified when PBKDF2 takes its count. -/
theorem passwords_exact_iff
    (hinj : ∀ salt iterations, Function.Injective fun message => cfg.derive message salt iterations)
    (call : PolicyCall) (breaker : Option Breaker) :
    (∀ p salt, Accepted cfg call breaker p →
      (HashExact cfg p salt ↔ HashFits cfg call breaker p)) ∧
    (∀ q s, (∃ b, verifyPassword cfg q s = .ok b) ↔ CountFits cfg q s) ∧
    ∀ s, ∃ b, passwordHashNeedsRehash cfg s = .ok b := by
  refine ⟨fun p salt haccepted => ?_, verifyPassword_returns_iff, passwordHashNeedsRehash_returns⟩
  obtain ⟨hraw, hnormalized, hclosed⟩ := haccepted.bounds
  constructor
  · rintro ⟨passwordHash, hhash, -⟩
    obtain ⟨hpassword, hcount⟩ := hashable_of_hashPassword hhash
    exact ⟨hcount, fun _ => hpassword.scalars⟩
  · rintro ⟨hcount, hopen⟩
    have hscalars : (cfg.nfc p).all isScalar = true := by
      cases hcircuit : (hibpCircuitIsOpen call breaker).1 with
      | true => exact hopen hcircuit
      | false => exact hclosed hcircuit
    exact hashExact_of_hashable hinj ⟨hraw, hnormalized, hscalars⟩ hcount salt

end Exact

/-! ### A password that nobody has encoded -/

/-- Derivation is the identity, and every text is normal. -/
def sampleConfig : HashConfig where
  minLength := 8
  maxChars := 256
  iterations := 700000
  pepper := List.replicate 32 0
  minLength_range := by decide
  maxChars_range := by decide
  minLength_le := by decide
  iterations_le := by decide
  pepper_length := by decide
  failureThreshold := 3
  openSeconds := 300
  commonPasswords := fun password => password = .ofString "password"
  nfc := id
  casefold := id
  decimal := fun _ => none
  sha1 := id
  hmacSha256 := fun _ message => message
  pbkdf2 := fun message _ _ => message
  maxIterations := 2 ^ 63 - 1
  maxIterations_lt := by decide

def sampleCall : PolicyCall := ⟨0, .osError, false, false, false, false⟩

def openBreaker : Breaker := ⟨true, 3, some 300000000⟩

theorem passwords_exact_iff_sample :
    HashExact sampleConfig (.ofString "correct horse") [1, 2, 3] ∧
      (∃ b, verifyPassword sampleConfig (.ofString "correct horse") (.ofString "a$b") = .ok b) ∧
      ∃ b, passwordHashNeedsRehash sampleConfig (.ofString "a$b") = .ok b := by
  have hinj (salt : List UInt8) (iterations : ℕ) :
      Function.Injective fun message => sampleConfig.derive message salt iterations :=
    fun _ _ h => h
  obtain ⟨hhash, hverify, hrehash⟩ := passwords_exact_iff hinj sampleCall (some openBreaker)
  refine ⟨(hhash _ _ ⟨_, rfl⟩).mpr ⟨by decide, fun _ => by decide⟩, (hverify _ _).mpr ?_, hrehash _⟩
  rintro count ⟨_, _, _, _, _, hsplit, -⟩
  have hparts : (PyStr.ofString "a$b").splitOn 36 = [[97], [98]] := by decide
  rw [hparts] at hsplit
  cases hsplit

/-- A lone surrogate passes while the circuit is open, and 2^63 is a count like any other. -/
theorem loneSurrogate_not_hashed :
    Accepted sampleConfig sampleCall (some openBreaker) (0xD800 :: PyStr.ofString "password") ∧
      hashPassword sampleConfig (0xD800 :: PyStr.ofString "password") [1, 2, 3] =
        .error .valueError ∧
      verifyPassword sampleConfig (.ofString "password")
        (.ofString "osp-pbkdf2-sha256$v1$i=9223372036854775808$s=$h=") = .error .overflowError := by
  refine ⟨⟨[hibpFallbackWarning], rfl⟩, by decide, by decide⟩

end SitBank.Auth.Hashing
