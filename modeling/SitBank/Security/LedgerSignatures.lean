import SitBank.Python.Decimal
import SitBank.Python.JsonLoads

/-!
Signatures of the ledger: transactions, registration credits and top-up credits.

A signature is the HMAC of a prefix that names the kind of the entry and of a JSON text
with its fields. The text can be read back, so that equal inputs of the HMAC are inputs
of the same entry, up to what the text leaves out: amounts are written to the cent and
timestamps as the instant in UTC. Storage changes nothing else, and a stored entry is
therefore found valid as long as its key is in the key ring.
-/

namespace SitBank.Security

open SitBank.Python

/-! ### Timestamps -/

/-- `datetime.min` and `datetime.max`, in microseconds from the epoch. -/
def minWall : ℤ := -62135596800000000

def maxWall : ℤ := 253402300799999999

/-- A `datetime`: what the clock on the wall shows, and the offset of the time zone from
UTC; `none` is a naive one. -/
structure DateTime where
  wall : ℤ
  offset : Option ℤ
  inRange : minWall ≤ wall ∧ wall ≤ maxWall

/-- Naive timestamps are in UTC. -/
def DateTime.instant (t : DateTime) : ℤ := t.wall - t.offset.getD 0

/-- `created_at.astimezone(timezone.utc).replace(tzinfo=None)` for aware timestamps;
`none` is `OverflowError`. -/
def DateTime.utcReading (t : DateTime) : Option ℤ :=
  match t.offset with
  | none => some t.wall
  | some offset =>
      if minWall ≤ t.wall - offset ∧ t.wall - offset ≤ maxWall then some (t.wall - offset) else none

def canonicalTimestamp (createdAt : DateTime) : Option String :=
  createdAt.utcReading.map isoFormatMicroseconds

/-! ### Entries and their texts -/

/-- What `sign_transaction_integrity` is given. Texts are those of `text` columns, which
hold no surrogates. -/
structure TransactionFields where
  transactionRef : String
  senderId : ℤ
  recipientId : ℤ
  payeeId : Option ℤ
  amount : Decimal
  reference : String
  status : String
  transactionType : String
  createdAt : DateTime

structure CreditFields where
  creditRef : String
  userId : ℤ
  amount : Decimal
  status : String
  createdAt : DateTime

inductive IntegrityError
  | runtimeError (message : String)
  | keyError
  | invalidOperation
  | overflowError
  | typeError
deriving DecidableEq

def textValue (s : String) : Json := .str (.ofString s)

def payeeValue (payeeId : Option ℤ) : Json :=
  match payeeId with
  | none => .null
  | some id => .int id

def transactionPairs (amount createdAt : String) (f : TransactionFields) : List (PyStr × Json) :=
  [(.ofString "amount", textValue amount),
    (.ofString "created_at", textValue createdAt),
    (.ofString "payee_id", payeeValue f.payeeId),
    (.ofString "recipient_id", .int f.recipientId),
    (.ofString "reference", textValue f.reference),
    (.ofString "sender_id", .int f.senderId),
    (.ofString "status", textValue f.status),
    (.ofString "transaction_ref", textValue f.transactionRef),
    (.ofString "transaction_type", textValue f.transactionType)]

def creditPairs (amount createdAt : String) (f : CreditFields) : List (PyStr × Json) :=
  [(.ofString "amount", textValue amount),
    (.ofString "created_at", textValue createdAt),
    (.ofString "credit_ref", textValue f.creditRef),
    (.ofString "status", textValue f.status),
    (.ofString "user_id", .int f.userId)]

/-- The payload of both kinds: the amount is quantized before the timestamp is read. -/
def canonicalPayload (amount : Decimal) (createdAt : DateTime)
    (pairs : String → String → List (PyStr × Json)) : Except IntegrityError (List Char) :=
  match amount.quantize with
  | none => .error .invalidOperation
  | some normalizedAmount =>
      match canonicalTimestamp createdAt with
      | none => .error .overflowError
      | some timestamp =>
          .ok (dumps (sortKeys (.obj (pairs normalizedAmount.formatFixed timestamp))))

def canonicalTransactionPayload (f : TransactionFields) : Except IntegrityError (List Char) :=
  canonicalPayload f.amount f.createdAt fun amount createdAt => transactionPairs amount createdAt f

def canonicalCreditPayload (f : CreditFields) : Except IntegrityError (List Char) :=
  canonicalPayload f.amount f.createdAt fun amount createdAt => creditPairs amount createdAt f

def transactionIntegrityAlgorithm : String := "hmac-sha256"

def transactionIntegrityVersion : ℕ := 1

/-- `f"sitbank-{domain}-integrity-v{TRANSACTION_INTEGRITY_VERSION}:"`; the domain of
`_digest` is `transaction`. -/
def integrityPrefix (domain : String) : List Char :=
  "sitbank-".toList ++ domain.toList ++ "-integrity-v".toList ++
    Nat.toDigits 10 transactionIntegrityVersion ++ [':']

/-- `.encode("utf-8")`. -/
def encodeUtf8 (text : List Char) : List UInt8 := (String.ofList text).toUTF8.data.toList

/-- A row of the ledger before it is signed. -/
inductive LedgerEntry
  | transaction (f : TransactionFields)
  | registrationCredit (f : CreditFields)
  | topupCredit (f : CreditFields)

/-- The domain in the prefix, and the payload. -/
def LedgerEntry.domain : LedgerEntry → String
  | .transaction _ => "transaction"
  | .registrationCredit _ => "registration-credit"
  | .topupCredit _ => "topup-credit"

def LedgerEntry.payload : LedgerEntry → Except IntegrityError (List Char)
  | .transaction f => canonicalTransactionPayload f
  | .registrationCredit f => canonicalCreditPayload f
  | .topupCredit f => canonicalCreditPayload f

/-- What `_digest` and `_credit_digest` pass to the HMAC. -/
def LedgerEntry.signingInput (entry : LedgerEntry) : Except IntegrityError (List UInt8) :=
  entry.payload.map fun payload => encodeUtf8 (integrityPrefix entry.domain ++ payload)

/-! ### Keys -/

/-- `TRANSACTION_LEDGER_HMAC_KEYS` and `TRANSACTION_LEDGER_HMAC_ACTIVE_KEY_ID`. A key
ring that is no dictionary is `none`, and so is a key that is not `bytes`. -/
structure LedgerConfig where
  keyring : Option (List (String × Option (List UInt8)))
  activeKeyId : String

def badKey (entry : String × Option (List UInt8)) : Bool :=
  strip entry.1.toList = [] ||
    match entry.2 with
    | none => true
    | some key => key.length ≠ 32

def validatedKeyring (config : LedgerConfig) :
    Except IntegrityError (List (String × List UInt8)) :=
  match config.keyring with
  | none | some [] =>
      .error (.runtimeError "At least one transaction ledger HMAC key is required")
  | some keyring =>
      if config.activeKeyId ∉ keyring.map Prod.fst then
        .error (.runtimeError
          "TRANSACTION_LEDGER_HMAC_ACTIVE_KEY_ID must identify a configured key")
      else if keyring.any badKey then
        .error (.runtimeError
          "Every transaction ledger HMAC key must have an identifier and be 32 bytes")
      else .ok (keyring.filterMap fun entry => entry.2.map fun key => (entry.1, key))

/-! ### Signing and checking -/

/-- `digest, key_id, algorithm, version`. -/
structure Signature where
  digest : String
  keyId : String
  algorithm : String
  version : ℕ
deriving DecidableEq

/-- `.hexdigest()`. -/
def hexdigest (digest : List UInt8) : String :=
  String.ofList (digest.flatMap fun b => [hexDigit (b.toNat / 16), hexDigit b.toNat])

/-- `hmac.compare_digest` of two texts raises when one is not ASCII. -/
def compareDigest (a b : String) : Except IntegrityError Bool :=
  if a.toList.all (fun c => c.toNat < 128) && b.toList.all (fun c => c.toNat < 128) then
    .ok (a = b)
  else .error .typeError

inductive IntegrityStatus
  | valid
  | invalid
deriving DecidableEq

/-- The columns of a row that hold its signature. -/
structure StoredSignature where
  hash : Option String
  keyId : Option String
  algorithm : Option String
  version : Option ℕ

section Hmac

-- HMAC-SHA-256 of a key and a message.
variable (hmac : List UInt8 → List UInt8 → List UInt8)

/-- `sign_transaction_integrity` and `_sign_credit_integrity`. -/
def LedgerEntry.sign (config : LedgerConfig) (entry : LedgerEntry) :
    Except IntegrityError Signature :=
  match validatedKeyring config with
  | .error e => .error e
  | .ok keyring =>
      match keyring.lookup config.activeKeyId with
      | none => .error .keyError
      | some key =>
          match entry.signingInput with
          | .error e => .error e
          | .ok input => .ok ⟨hexdigest (hmac key input), config.activeKeyId,
              transactionIntegrityAlgorithm, transactionIntegrityVersion⟩

def signTransactionIntegrity (config : LedgerConfig) (f : TransactionFields) :
    Except IntegrityError Signature := LedgerEntry.sign hmac config (.transaction f)

def signRegistrationCreditIntegrity (config : LedgerConfig) (f : CreditFields) :
    Except IntegrityError Signature := LedgerEntry.sign hmac config (.registrationCredit f)

def signTopupCreditIntegrity (config : LedgerConfig) (f : CreditFields) :
    Except IntegrityError Signature := LedgerEntry.sign hmac config (.topupCredit f)

/-- `transaction_integrity_status` and `_credit_integrity_status`, for the columns of the
signature and the entry that is read from the others. -/
def integrityStatus (config : LedgerConfig) (sig : StoredSignature) (entry : LedgerEntry) :
    Except IntegrityError IntegrityStatus :=
  match sig.keyId, sig.algorithm, sig.version with
  | some keyId, some algorithm, some version =>
      if algorithm ≠ transactionIntegrityAlgorithm ∨ version ≠ transactionIntegrityVersion then
        .ok .invalid
      else
        match validatedKeyring config with
        | .error _ => .ok .invalid
        | .ok keyring =>
            match keyring.lookup keyId with
            | none => .ok .invalid
            | some key =>
                match entry.signingInput with
                | .error e => .error e
                | .ok input =>
                    match compareDigest (sig.hash.getD "") (hexdigest (hmac key input)) with
                    | .error e => .error e
                    | .ok true => .ok .valid
                    | .ok false => .ok .invalid
  | _, _, _ => .ok .invalid

/-! ### Rows -/

/-- A `Transaction`, or what else has its attributes. -/
structure TransactionRow where
  signature : StoredSignature
  transactionRef : String
  senderId : ℤ
  recipientId : ℤ
  payeeId : Option ℤ
  amount : Decimal
  reference : Option String
  status : String
  transactionType : String
  createdAt : DateTime

/-- What is signed of it; the reference is `transaction.reference or ""`. -/
def TransactionRow.fields (row : TransactionRow) : TransactionFields where
  transactionRef := row.transactionRef
  senderId := row.senderId
  recipientId := row.recipientId
  payeeId := row.payeeId
  amount := row.amount
  reference := row.reference.getD ""
  status := row.status
  transactionType := row.transactionType
  createdAt := row.createdAt

/-- A `RegistrationCredit` or a `TopUpCredit`. -/
structure CreditRow where
  signature : StoredSignature
  fields : CreditFields

def transactionIntegrityStatus (config : LedgerConfig) (row : TransactionRow) :
    Except IntegrityError IntegrityStatus :=
  integrityStatus hmac config row.signature (.transaction row.fields)

def registrationCreditIntegrityStatus (config : LedgerConfig) (credit : CreditRow) :
    Except IntegrityError IntegrityStatus :=
  integrityStatus hmac config credit.signature (.registrationCredit credit.fields)

def topupCreditIntegrityStatus (config : LedgerConfig) (credit : CreditRow) :
    Except IntegrityError IntegrityStatus :=
  integrityStatus hmac config credit.signature (.topupCredit credit.fields)

inductive LedgerRow
  | transaction (row : TransactionRow)
  | registrationCredit (credit : CreditRow)
  | topupCredit (credit : CreditRow)

def LedgerRow.status (config : LedgerConfig) :
    LedgerRow → Except IntegrityError IntegrityStatus
  | .transaction row => transactionIntegrityStatus hmac config row
  | .registrationCredit credit => registrationCreditIntegrityStatus hmac config credit
  | .topupCredit credit => topupCreditIntegrityStatus hmac config credit

end Hmac

/-- The signature as it was stored. -/
def Signature.stored (s : Signature) : StoredSignature :=
  ⟨some s.digest, some s.keyId, some s.algorithm, some s.version⟩

/-- The row that the database gives back for a signed transaction. The amount has gone
through its column, the timestamp is the same instant in whatever representation, and an
empty reference may be missing. -/
structure TransactionFields.Reloaded (f : TransactionFields) (s : Signature)
    (row : TransactionRow) : Prop where
  signature : row.signature = s.stored
  transactionRef : row.transactionRef = f.transactionRef
  senderId : row.senderId = f.senderId
  recipientId : row.recipientId = f.recipientId
  payeeId : row.payeeId = f.payeeId
  amount : f.amount.stored = some row.amount
  reference : row.reference = some f.reference ∨ f.reference = "" ∧ row.reference = none
  status : row.status = f.status
  transactionType : row.transactionType = f.transactionType
  createdAt : row.createdAt.instant = f.createdAt.instant

structure CreditFields.Reloaded (f : CreditFields) (s : Signature) (row : CreditRow) : Prop where
  signature : row.signature = s.stored
  creditRef : row.fields.creditRef = f.creditRef
  userId : row.fields.userId = f.userId
  amount : f.amount.stored = some row.fields.amount
  status : row.fields.status = f.status
  createdAt : row.fields.createdAt.instant = f.createdAt.instant

def LedgerEntry.Reloaded (entry : LedgerEntry) (s : Signature) (row : LedgerRow) : Prop :=
  match entry, row with
  | .transaction f, .transaction row => f.Reloaded s row
  | .registrationCredit f, .registrationCredit row => f.Reloaded s row
  | .topupCredit f, .topupCredit row => f.Reloaded s row
  | _, _ => False

def LedgerEntry.amount : LedgerEntry → Decimal
  | .transaction f => f.amount
  | .registrationCredit f => f.amount
  | .topupCredit f => f.amount

/-- What every caller makes sure of before it signs: transfers and top-ups are amounts of
`boundedAmount`, the welcome credit is a constant, and the backfill reads a positive
`Numeric(12, 2)`. -/
def LedgerEntry.Payable (entry : LedgerEntry) : Prop :=
  entry.amount.WholeCents ∧ entry.amount.negative = false

/-- `parse_topup_amount`, and what `_local_transfer_amount` and `_validate_payup_amount` do
with an amount of at most two places: it is quantized and compared with the bounds. -/
def boundedAmount (amount : Decimal) : Option Decimal :=
  match amount.quantize with
  | none => none
  | some cents =>
      if cents.negative = true ∨ cents.coefficient < 1 ∨ 5000000 < cents.coefficient then none
      else some cents

theorem boundedAmount_payable {amount cents : Decimal} (h : boundedAmount amount = some cents) :
    cents.WholeCents ∧ cents.negative = false := by
  unfold boundedAmount at h
  split at h
  · cases h
  next hquantize =>
    split at h
    · cases h
    next hbounds =>
      obtain rfl := Option.some.inj h
      have hpositive : ¬_ := fun hnegative => hbounds (.inl hnegative)
      exact ⟨wholeCents_of_quantize hquantize, eq_false_of_ne_true hpositive⟩

/-- Equal in every field that the signature covers. -/
structure TransactionFields.Same (f g : TransactionFields) : Prop where
  transactionRef : f.transactionRef = g.transactionRef
  senderId : f.senderId = g.senderId
  recipientId : f.recipientId = g.recipientId
  payeeId : f.payeeId = g.payeeId
  amount : f.amount.quantize = g.amount.quantize
  reference : f.reference = g.reference
  status : f.status = g.status
  transactionType : f.transactionType = g.transactionType
  createdAt : f.createdAt.instant = g.createdAt.instant

structure CreditFields.Same (f g : CreditFields) : Prop where
  creditRef : f.creditRef = g.creditRef
  userId : f.userId = g.userId
  amount : f.amount.quantize = g.amount.quantize
  status : f.status = g.status
  createdAt : f.createdAt.instant = g.createdAt.instant

/-- Entries of one kind with equal fields. -/
def LedgerEntry.Same (entry entry' : LedgerEntry) : Prop :=
  match entry, entry' with
  | .transaction f, .transaction g => f.Same g
  | .registrationCredit f, .registrationCredit g => f.Same g
  | .topupCredit f, .topupCredit g => f.Same g
  | _, _ => False

/-! ### Stored entries are valid -/

theorem utcReading_eq (t : DateTime) : t.utcReading =
    if minWall ≤ t.instant ∧ t.instant ≤ maxWall then some t.instant else none := by
  unfold DateTime.utcReading DateTime.instant
  cases t.offset with
  | none => simp [t.inRange]
  | some offset => rfl

/-- Only the cents and the instant matter. -/
theorem canonicalPayload_congr {amount amount' : Decimal} {createdAt createdAt' : DateTime}
    (hamount : amount.quantize = amount'.quantize) (htime : createdAt.instant = createdAt'.instant)
    (pairs : String → String → List (PyStr × Json)) :
    canonicalPayload amount createdAt pairs = canonicalPayload amount' createdAt' pairs := by
  unfold canonicalPayload canonicalTimestamp
  rw [utcReading_eq, utcReading_eq, hamount, htime]

theorem TransactionFields.Same.payload {f g : TransactionFields} (h : f.Same g) :
    canonicalTransactionPayload f = canonicalTransactionPayload g := by
  have hpairs (amount createdAt : String) :
      transactionPairs amount createdAt f = transactionPairs amount createdAt g := by
    unfold transactionPairs
    rw [h.transactionRef, h.senderId, h.recipientId, h.payeeId, h.reference, h.status,
      h.transactionType]
  unfold canonicalTransactionPayload
  simp only [hpairs]
  exact canonicalPayload_congr h.amount h.createdAt _

theorem CreditFields.Same.payload {f g : CreditFields} (h : f.Same g) :
    canonicalCreditPayload f = canonicalCreditPayload g := by
  have hpairs (amount createdAt : String) :
      creditPairs amount createdAt f = creditPairs amount createdAt g := by
    unfold creditPairs
    rw [h.creditRef, h.userId, h.status]
  unfold canonicalCreditPayload
  simp only [hpairs]
  exact canonicalPayload_congr h.amount h.createdAt _

theorem TransactionFields.Reloaded.same {f : TransactionFields} {s : Signature}
    {row : TransactionRow} (hwhole : f.amount.WholeCents) (hsign : f.amount.negative = false)
    (h : f.Reloaded s row) : row.fields.Same f where
  transactionRef := h.transactionRef
  senderId := h.senderId
  recipientId := h.recipientId
  payeeId := h.payeeId
  amount := quantize_of_stored hwhole hsign h.amount
  reference := by
    show row.reference.getD "" = f.reference
    rcases h.reference with href | ⟨hempty, href⟩
    · rw [href, Option.getD_some]
    · rw [href, hempty, Option.getD_none]
  status := h.status
  transactionType := h.transactionType
  createdAt := h.createdAt

theorem CreditFields.Reloaded.same {f : CreditFields} {s : Signature} {row : CreditRow}
    (hwhole : f.amount.WholeCents) (hsign : f.amount.negative = false) (h : f.Reloaded s row) :
    row.fields.Same f where
  creditRef := h.creditRef
  userId := h.userId
  amount := quantize_of_stored hwhole hsign h.amount
  status := h.status
  createdAt := h.createdAt

theorem signingInput_congr {entry entry' : LedgerEntry} (hdomain : entry.domain = entry'.domain)
    (hpayload : entry.payload = entry'.payload) : entry.signingInput = entry'.signingInput := by
  unfold LedgerEntry.signingInput
  rw [hdomain, hpayload]

/-- A digest is written in ASCII. -/
theorem hexdigest_ascii (digest : List UInt8) :
    (hexdigest digest).toList.all (fun c => c.toNat < 128) = true := by
  have hdigit (n : ℕ) : (hexDigit n).toNat < 128 := by
    have hall : ∀ m < 16, (hexDigit m).toNat < 128 := by decide
    have hmod : hexDigit n = hexDigit (n % 16) := by rw [hexDigit, hexDigit, Nat.mod_mod]
    rw [hmod]
    exact hall _ (Nat.mod_lt _ (by decide))
  unfold hexdigest
  rw [String.toList_ofList, List.all_eq_true]
  intro c hc
  obtain ⟨b, -, hb⟩ := List.mem_flatMap.mp hc
  simp only [List.mem_cons, List.not_mem_nil, or_false] at hb
  rcases hb with rfl | rfl <;> simp [hdigit]

theorem compareDigest_self (digest : List UInt8) :
    compareDigest (hexdigest digest) (hexdigest digest) = .ok true := by
  unfold compareDigest
  rw [hexdigest_ascii]
  simp

section Status

variable {hmac : List UInt8 → List UInt8 → List UInt8} {config config' : LedgerConfig}
  {entry entry' : LedgerEntry} {s : Signature}

/-- What a signature is made of. -/
theorem sign_eq_ok (h : entry.sign hmac config = .ok s) :
    ∃ keyring key input, validatedKeyring config = .ok keyring ∧
      keyring.lookup s.keyId = some key ∧ entry.signingInput = .ok input ∧
      s = ⟨hexdigest (hmac key input), config.activeKeyId, transactionIntegrityAlgorithm,
        transactionIntegrityVersion⟩ := by
  unfold LedgerEntry.sign at h
  split at h
  · cases h
  next keyring hring =>
    split at h
    · cases h
    next key hkey =>
      split at h
      · cases h
      next input hinput =>
        obtain rfl := Except.ok.inj h
        exact ⟨keyring, key, input, hring, hkey, hinput, rfl⟩

/-- The check reads the same input and finds the same key. -/
theorem integrityStatus_of_sign (h : entry.sign hmac config = .ok s)
    {keyring keyring' : List (String × List UInt8)} (hring : validatedKeyring config = .ok keyring)
    (hring' : validatedKeyring config' = .ok keyring')
    (hkept : keyring'.lookup s.keyId = keyring.lookup s.keyId)
    (hinput : entry'.signingInput = entry.signingInput) :
    integrityStatus hmac config' s.stored entry' = .ok .valid := by
  obtain ⟨_, key, input, hsame, hkey, hok, hs⟩ := sign_eq_ok h
  obtain rfl := Except.ok.inj (hring.symm.trans hsame)
  rw [hkey] at hkept
  rw [hok] at hinput
  subst hs
  unfold integrityStatus Signature.stored
  simp only [hring', hkept, hinput, Option.getD_some, compareDigest_self]
  simp

end Status

/-! ### Equal inputs -/

theorem encodeUtf8_injective {x y : List Char} (h : encodeUtf8 x = encodeUtf8 y) : x = y := by
  have hbytes := ByteArray.ext (Array.toList_inj.mp h)
  have htext : String.ofList x = String.ofList y := String.toByteArray_inj.mp hbytes
  rw [← String.toList_ofList (l := x), htext, String.toList_ofList]

/-- The prefixes differ within their first ten characters. -/
theorem domain_eq_of_prefix {entry entry' : LedgerEntry} {x y : List Char}
    (h : integrityPrefix entry.domain ++ x = integrityPrefix entry'.domain ++ y) :
    entry.domain = entry'.domain := by
  have htake (entry : LedgerEntry) (z : List Char) :
      (integrityPrefix entry.domain ++ z).take 10 = (integrityPrefix entry.domain).take 10 := by
    apply List.take_append_of_le_length
    cases entry <;> simp only [LedgerEntry.domain] <;> decide
  have hstart : (integrityPrefix entry.domain).take 10 =
      (integrityPrefix entry'.domain).take 10 := by
    rw [← htake entry x, h, htake]
  cases entry <;> cases entry' <;> simp only [LedgerEntry.domain] at hstart ⊢ <;>
    exact absurd hstart (by decide)

theorem textValue_inj {s s' : String} (h : textValue s = textValue s') : s = s' :=
  ofString_injective (Json.str.inj h)

theorem payeeValue_inj {id id' : Option ℤ} (h : payeeValue id = payeeValue id') : id = id' := by
  cases id <;> cases id' <;> simp_all [payeeValue]

theorem sortKeys_transactionPairs (amount createdAt : String) (f : TransactionFields) :
    sortKeys (.obj (transactionPairs amount createdAt f)) =
      .obj (transactionPairs amount createdAt f) := by
  have hpayee : sortKeys (payeeValue f.payeeId) = payeeValue f.payeeId := by
    cases f.payeeId <;> simp [payeeValue, sortKeys]
  rw [sortKeys, transactionPairs]
  simp only [sortKeysPairs, hpayee, textValue, sortKeys]
  rfl

theorem sortKeys_creditPairs (amount createdAt : String) (f : CreditFields) :
    sortKeys (.obj (creditPairs amount createdAt f)) = .obj (creditPairs amount createdAt f) := by
  rw [sortKeys, creditPairs]
  simp only [sortKeysPairs, textValue, sortKeys]
  rfl

theorem loadable_transactionPairs (floatOf : List Char → FloatText) (amount createdAt : String)
    (f : TransactionFields) : Loadable floatOf (.obj (transactionPairs amount createdAt f)) := by
  have hpayee : Loadable floatOf (payeeValue f.payeeId) := by
    cases f.payeeId <;> trivial
  refine ⟨?_, ?_⟩
  · simp only [transactionPairs, List.map_cons, List.map_nil]
    decide
  · exact ⟨scalar_ofString _, scalar_ofString _, scalar_ofString _, scalar_ofString _,
      scalar_ofString _, hpayee, scalar_ofString _, trivial, scalar_ofString _,
      scalar_ofString _, scalar_ofString _, trivial, scalar_ofString _, scalar_ofString _,
      scalar_ofString _, scalar_ofString _, scalar_ofString _, scalar_ofString _, trivial⟩

theorem loadable_creditPairs (floatOf : List Char → FloatText) (amount createdAt : String)
    (f : CreditFields) : Loadable floatOf (.obj (creditPairs amount createdAt f)) := by
  refine ⟨?_, ?_⟩
  · simp only [creditPairs, List.map_cons, List.map_nil]
    decide
  · exact ⟨scalar_ofString _, scalar_ofString _, scalar_ofString _, scalar_ofString _,
      scalar_ofString _, scalar_ofString _, scalar_ofString _, scalar_ofString _,
      scalar_ofString _, trivial, trivial⟩

theorem canonicalPayload_eq_ok {amount : Decimal} {createdAt : DateTime}
    {pairs : String → String → List (PyStr × Json)} {text : List Char}
    (h : canonicalPayload amount createdAt pairs = .ok text) :
    ∃ cents, amount.quantize = some cents ∧ minWall ≤ createdAt.instant ∧
      text = dumps (sortKeys (.obj (pairs cents.formatFixed
        (isoFormatMicroseconds createdAt.instant)))) := by
  unfold canonicalPayload at h
  split at h
  · cases h
  next cents hcents =>
    split at h
    · cases h
    next timestamp htime =>
      unfold canonicalTimestamp at htime
      rw [utcReading_eq] at htime
      split at htime
      · next hrange =>
          obtain rfl := Option.some.inj htime
          exact ⟨cents, hcents, hrange.1, (Except.ok.inj h).symm⟩
      · cases htime

/-- The timestamps of a payload are from the year 1 on. -/
theorem instant_eq_of_text {a b : ℤ} (ha : minWall ≤ a) (hb : minWall ≤ b)
    (h : isoFormatMicroseconds a = isoFormatMicroseconds b) : a = b := by
  unfold minWall at ha hb
  exact isoFormatMicroseconds_injective (by omega) (by omega) h

theorem same_of_transactionPayload {f g : TransactionFields} {text : List Char}
    (hf : canonicalTransactionPayload f = .ok text)
    (hg : canonicalTransactionPayload g = .ok text) : f.Same g := by
  obtain ⟨cents, hcents, htime, htext⟩ := canonicalPayload_eq_ok hf
  obtain ⟨cents', hcents', htime', htext'⟩ := canonicalPayload_eq_ok hg
  rw [sortKeys_transactionPairs] at htext htext'
  have hpairs := Json.obj.inj (dumps_injective (loadable_transactionPairs · _ _ f)
    (loadable_transactionPairs · _ _ g) (htext.symm.trans htext'))
  simp only [transactionPairs, List.cons.injEq, Prod.mk.injEq, true_and, and_true,
    Json.int.injEq] at hpairs
  obtain ⟨hamount, hcreated, hpayee, hrecipient, href, hsender, hstatus, htxref, htype⟩ := hpairs
  have hsame := formatFixed_quantize_inj hcents hcents' (textValue_inj hamount)
  exact {
    transactionRef := textValue_inj htxref
    senderId := hsender
    recipientId := hrecipient
    payeeId := payeeValue_inj hpayee
    amount := by rw [hcents, hcents', hsame]
    reference := textValue_inj href
    status := textValue_inj hstatus
    transactionType := textValue_inj htype
    createdAt := instant_eq_of_text htime htime' (textValue_inj hcreated) }

theorem same_of_creditPayload {f g : CreditFields} {text : List Char}
    (hf : canonicalCreditPayload f = .ok text) (hg : canonicalCreditPayload g = .ok text) :
    f.Same g := by
  obtain ⟨cents, hcents, htime, htext⟩ := canonicalPayload_eq_ok hf
  obtain ⟨cents', hcents', htime', htext'⟩ := canonicalPayload_eq_ok hg
  rw [sortKeys_creditPairs] at htext htext'
  have hpairs := Json.obj.inj (dumps_injective (loadable_creditPairs · _ _ f)
    (loadable_creditPairs · _ _ g) (htext.symm.trans htext'))
  simp only [creditPairs, List.cons.injEq, Prod.mk.injEq, true_and, and_true,
    Json.int.injEq] at hpairs
  obtain ⟨hamount, hcreated, href, hstatus, huser⟩ := hpairs
  have hsame := formatFixed_quantize_inj hcents hcents' (textValue_inj hamount)
  exact {
    creditRef := textValue_inj href
    userId := huser
    amount := by rw [hcents, hcents', hsame]
    status := textValue_inj hstatus
    createdAt := instant_eq_of_text htime htime' (textValue_inj hcreated) }

theorem signingInput_eq_ok {entry : LedgerEntry} {input : List UInt8}
    (h : entry.signingInput = .ok input) : ∃ payload, entry.payload = .ok payload ∧
      input = encodeUtf8 (integrityPrefix entry.domain ++ payload) := by
  unfold LedgerEntry.signingInput at h
  cases hpayload : entry.payload with
  | error e =>
      rw [hpayload] at h
      cases h
  | ok payload =>
      rw [hpayload] at h
      exact ⟨payload, rfl, (Except.ok.inj h).symm⟩

theorem same_of_signingInput {entry entry' : LedgerEntry} {input : List UInt8}
    (h : entry.signingInput = .ok input) (h' : entry'.signingInput = .ok input) :
    entry.Same entry' := by
  obtain ⟨payload, hpayload, hinput⟩ := signingInput_eq_ok h
  obtain ⟨payload', hpayload', hinput'⟩ := signingInput_eq_ok h'
  have htexts := encodeUtf8_injective (hinput.symm.trans hinput')
  have hdomain := domain_eq_of_prefix htexts
  rw [hdomain] at htexts
  obtain rfl := List.append_cancel_left htexts
  cases entry with
  | transaction f =>
      cases entry' with
      | transaction g => exact same_of_transactionPayload hpayload hpayload'
      | registrationCredit g => simp [LedgerEntry.domain] at hdomain
      | topupCredit g => simp [LedgerEntry.domain] at hdomain
  | registrationCredit f =>
      cases entry' with
      | transaction g => simp [LedgerEntry.domain] at hdomain
      | registrationCredit g => exact same_of_creditPayload hpayload hpayload'
      | topupCredit g => simp [LedgerEntry.domain] at hdomain
  | topupCredit f =>
      cases entry' with
      | transaction g => simp [LedgerEntry.domain] at hdomain
      | registrationCredit g => simp [LedgerEntry.domain] at hdomain
      | topupCredit g => exact same_of_creditPayload hpayload hpayload'

/-- A signed entry is found valid after it was stored, under every key ring that still has
its key, and equal inputs of the HMAC are inputs of entries of one kind that are equal in
every field. -/
theorem ledger_signatures_separate (hmac : List UInt8 → List UInt8 → List UInt8) :
    (∀ (config config' : LedgerConfig) (keyring keyring' : List (String × List UInt8))
      (entry : LedgerEntry) (s : Signature) (row : LedgerRow),
      entry.Payable → entry.sign hmac config = .ok s → entry.Reloaded s row →
      validatedKeyring config = .ok keyring → validatedKeyring config' = .ok keyring' →
      keyring'.lookup s.keyId = keyring.lookup s.keyId →
      row.status hmac config' = .ok .valid) ∧
    (∀ (entry entry' : LedgerEntry) (input : List UInt8), entry.signingInput = .ok input →
      entry'.signingInput = .ok input → entry.Same entry') := by
  refine ⟨?_, fun _ _ _ => same_of_signingInput⟩
  rintro config config' keyring keyring' entry s row ⟨hwhole, hpositive⟩ hsign hrow
    hring hring' hkept
  -- the status depends on the domain and the payload only
  have hstatus {entry' : LedgerEntry} (hdomain : entry'.domain = entry.domain)
      (hpayload : entry'.payload = entry.payload) :
      integrityStatus hmac config' s.stored entry' = .ok .valid :=
    integrityStatus_of_sign hsign hring hring' hkept (signingInput_congr hdomain hpayload)
  cases entry with
  | transaction f =>
      cases row with
      | transaction row =>
          have hsame := hrow.same hwhole hpositive
          show integrityStatus hmac config' row.signature (.transaction row.fields) = _
          rw [hrow.signature]
          exact hstatus rfl hsame.payload
      | registrationCredit row => exact hrow.elim
      | topupCredit row => exact hrow.elim
  | registrationCredit f =>
      cases row with
      | transaction row => exact hrow.elim
      | registrationCredit row =>
          have hsame := hrow.same hwhole hpositive
          show integrityStatus hmac config' row.signature (.registrationCredit row.fields) = _
          rw [hrow.signature]
          exact hstatus rfl hsame.payload
      | topupCredit row => exact hrow.elim
  | topupCredit f =>
      cases row with
      | transaction row => exact hrow.elim
      | registrationCredit row => exact hrow.elim
      | topupCredit row =>
          have hsame := hrow.same hwhole hpositive
          show integrityStatus hmac config' row.signature (.topupCredit row.fields) = _
          rw [hrow.signature]
          exact hstatus rfl hsame.payload

/-- Five dollars by phone number, signed in Singapore. -/
def payupFields : TransactionFields where
  transactionRef := "t-1"
  senderId := 7
  recipientId := 8
  payeeId := none
  amount := ⟨false, 500, -2⟩
  reference := ""
  status := "completed"
  transactionType := "payup"
  createdAt := ⟨1782892800250000, some 28800000000, by decide⟩

/-- The key ring before and after the second key was made the active one. -/
def juneKeys : LedgerConfig where
  keyring := some [("june", some (List.replicate 32 1))]
  activeKeyId := "june"

def julyKeys : LedgerConfig where
  keyring := some [("july", some (List.replicate 32 2)), ("june", some (List.replicate 32 1))]
  activeKeyId := "july"

/-- The HMAC of the payload under the key of June. -/
def payupHmac : List UInt8 → List UInt8 → List UInt8 := fun _ _ =>
  [204, 249, 81, 90, 121, 175, 9, 228, 14, 235, 13, 27, 19, 142, 42, 251, 244, 136, 40, 88, 34,
    84, 220, 70, 0, 246, 249, 250, 185, 103, 23, 214]

def payupSignature : Signature :=
  ⟨"ccf9515a79af09e40eeb0d1b138e2afbf48828582254dc4600f6f9fab96717d6", "june", "hmac-sha256", 1⟩

/-- It comes back with two places, without a reference and in UTC. -/
def payupRow : TransactionRow where
  signature := payupSignature.stored
  transactionRef := "t-1"
  senderId := 7
  recipientId := 8
  payeeId := none
  amount := ⟨false, 500, -2⟩
  reference := none
  status := "completed"
  transactionType := "payup"
  createdAt := ⟨1782864000250000, none, by decide⟩

theorem payup_signature_valid :
    LedgerEntry.sign payupHmac juneKeys (.transaction payupFields) = .ok payupSignature ∧
      LedgerRow.status payupHmac julyKeys (.transaction payupRow) = .ok .valid ∧
      (LedgerEntry.transaction payupFields).Same (.transaction payupRow.fields) := by
  obtain ⟨hvalid, hsame⟩ := ledger_signatures_separate payupHmac
  have hsign : LedgerEntry.sign payupHmac juneKeys (.transaction payupFields) =
      .ok payupSignature := by rfl
  have hreloaded : payupFields.Reloaded payupSignature payupRow :=
    ⟨rfl, rfl, rfl, rfl, rfl, by decide, .inr ⟨rfl, rfl⟩, rfl, rfl, by decide⟩
  have hpayable : (LedgerEntry.transaction payupFields).Payable :=
    @boundedAmount_payable ⟨false, 5, 0⟩ _ (by decide)
  obtain ⟨_, _, input, -, -, hinput, -⟩ := sign_eq_ok hsign
  have hinput' := @signingInput_congr (.transaction payupRow.fields) (.transaction payupFields) rfl
    (hreloaded.same hpayable.1 hpayable.2).payload
  exact ⟨hsign, hvalid juneKeys julyKeys _ _ _ _ _ hpayable hsign hreloaded rfl rfl rfl,
    hsame _ _ input hinput (hinput'.trans hinput)⟩

end SitBank.Security
