import SitBank.Python.JsonLoads
import SitBank.Security.AccessAssertions

/-!
What a verified access assertion is, and which exceptions escape.

Claims are returned only for an assertion that a current key vouches for, whatever calls came
before: the cache holds the keys of a response that was fetched no longer ago than its
lifetime. The other half, that everything else is a verification error, holds where nothing
unexpected is met on the way (`AccessQuiet`): the parser gives up for depth or for digits,
the list of keys has an algorithm or a use without a hash, the claims segment is not ASCII,
a date is too large for a float, or the fetch fails in another way.
-/

namespace SitBank.Security

open SitBank.Interaction SitBank.Python

/-! ### Exceptions -/

def OnlyVerification {α : Type} (r : Except AccessError α) : Prop :=
  ∀ e, r = .error e → e.isVerification = true

section Except

variable {α β : Type}

theorem onlyVerification_ok (a : α) : OnlyVerification (.ok a : Except AccessError α) := nofun

theorem onlyVerification_verification (reason : AccessReason) :
    OnlyVerification (.error (.verification reason) : Except AccessError α) := by
  intro e he
  rw [← Except.error.inj he]
  rfl

theorem not_onlyVerification {e : AccessError} (h : e.isVerification = false) :
    ¬OnlyVerification (.error e : Except AccessError α) := by
  intro honly
  rw [honly e rfl] at h
  cases h

theorem onlyVerification_bind {x : Except AccessError α} {f : α → Except AccessError β} :
    OnlyVerification (x >>= f) ↔
      OnlyVerification x ∧ ∀ a, x = .ok a → OnlyVerification (f a) := by
  cases x with
  | ok a =>
      constructor
      · intro h
        refine ⟨onlyVerification_ok a, fun a' ha => ?_⟩
        rw [← Except.ok.inj ha]
        exact h
      · intro h
        exact h.2 a rfl
  | error e =>
      constructor
      · intro h
        refine ⟨fun e' he => h e' ?_, nofun⟩
        rw [← Except.error.inj he]
        rfl
      · intro h e' he
        refine h.1 e' ?_
        rw [← Except.error.inj (show Except.error e = Except.error e' from he)]

end Except

section Parts

variable {Key : Type} {cfg : AccessConfig Key}

/-! ### Segments -/

variable (cfg) in
/-- The parser does not give up for depth or for digits. -/
def JsonFine (raw : List UInt8) : Prop :=
  cfg.loads raw ≠ .error .recursion ∧ cfg.loads raw ≠ .error .value

theorem onlyVerification_loadsDict {fault : AccessReason} {raw : List UInt8} :
    OnlyVerification (loadsDict cfg fault raw) ↔ JsonFine cfg raw := by
  unfold loadsDict JsonFine
  cases h : cfg.loads raw with
  | ok value =>
      refine iff_of_true ?_ ⟨nofun, nofun⟩
      cases value with
      | obj pairs => exact onlyVerification_ok pairs
      | _ => exact onlyVerification_verification fault
  | error e =>
      cases e with
      | decode => exact iff_of_true (onlyVerification_verification fault) ⟨nofun, nofun⟩
      | recursion => exact iff_of_false (not_onlyVerification rfl) fun hfine => hfine.1 rfl
      | value => exact iff_of_false (not_onlyVerification rfl) fun hfine => hfine.2 rfl

variable (cfg) in
def SegmentFine (segment : PyStr) : Prop :=
  ∀ raw, decodeBase64Url segment = some raw → JsonFine cfg raw

theorem onlyVerification_decodeJsonSegment {segment : PyStr} :
    OnlyVerification (decodeJsonSegment cfg segment) ↔ SegmentFine cfg segment := by
  unfold decodeJsonSegment SegmentFine
  split
  · next h => simp [h, malformed, onlyVerification_verification]
  · next raw h => simp [h, onlyVerification_loadsDict]

theorem onlyVerification_kidOfHeader (header : List (PyStr × Json)) :
    OnlyVerification (kidOfHeader header) := by
  unfold kidOfHeader malformed
  repeat' split
  all_goals first
    | exact onlyVerification_verification _
    | exact onlyVerification_ok _

theorem onlyVerification_readHeader {segments : Segments} :
    OnlyVerification (readHeader cfg segments) ↔ SegmentFine cfg segments.header := by
  unfold readHeader
  rw [onlyVerification_bind, onlyVerification_decodeJsonSegment]
  exact and_iff_left fun header _ => onlyVerification_kidOfHeader header

theorem onlyVerification_splitAssertion (assertion : PyStr) :
    OnlyVerification (splitAssertion assertion) := by
  unfold splitAssertion malformed
  repeat' split
  all_goals first
    | exact onlyVerification_verification _
    | exact onlyVerification_ok _

/-! ### Signing keys -/

/-- The value has a hash. -/
def Hashable : Option Json → Prop
  | some (.arr _) => False
  | some (.obj _) => False
  | _ => True

theorem onlyVerification_inOptional {allowed : PyStr} {value : Option Json} :
    OnlyVerification (inOptional allowed value) ↔ Hashable value := by
  unfold inOptional Hashable
  cases value with
  | none => exact iff_of_true (onlyVerification_ok _) trivial
  | some value =>
      cases value with
      | arr items => exact iff_of_false (not_onlyVerification rfl) id
      | obj pairs => exact iff_of_false (not_onlyVerification rfl) id
      | _ => exact iff_of_true (onlyVerification_ok _) trivial

/-- An item whose `alg` and `use` can be tested. -/
def ItemFine (item : Json) : Prop :=
  ∀ pairs kid, item = .obj pairs → itemKid pairs = some kid →
    Hashable (pairs.lookup (.ofString "alg")) ∧
    (inOptional rs256 (pairs.lookup (.ofString "alg")) = .ok true →
      Hashable (pairs.lookup (.ofString "use")))

theorem onlyVerification_parseItem {item : Json} :
    OnlyVerification (parseItem cfg item) ↔ ItemFine item := by
  cases item with
  | obj pairs =>
      rw [parseItem]
      cases hkid : itemKid pairs with
      | none =>
          refine iff_of_true (onlyVerification_ok _) ?_
          rintro pairs' kid ⟨⟩ hsome
          rw [hkid] at hsome
          cases hsome
      | some kid =>
          -- the algorithm is compared first; the use only when the algorithm agrees
          have hfine : ItemFine (.obj pairs) ↔ Hashable (pairs.lookup (.ofString "alg")) ∧
              (inOptional rs256 (pairs.lookup (.ofString "alg")) = .ok true →
                Hashable (pairs.lookup (.ofString "use"))) := by
            constructor
            · exact fun h => h pairs kid rfl hkid
            · rintro h pairs' kid' ⟨⟩ -
              exact h
          dsimp only
          rw [hfine, onlyVerification_bind, onlyVerification_inOptional]
          refine and_congr_right fun _ => ?_
          constructor
          · intro h halg
            have huse := h true halg
            rw [if_neg (by decide), onlyVerification_bind, onlyVerification_inOptional] at huse
            exact huse.1
          · intro h alg halg
            cases alg with
            | false => exact onlyVerification_ok _
            | true =>
                rw [if_neg (by decide), onlyVerification_bind, onlyVerification_inOptional]
                refine ⟨h halg, fun use _ => ?_⟩
                split <;> exact onlyVerification_ok _
  -- an item that is no object is skipped
  | _ =>
      refine iff_of_true (onlyVerification_ok _) ?_
      rintro pairs kid ⟨⟩

theorem inOptional_cases (allowed : PyStr) (value : Option Json) :
    (∃ b, inOptional allowed value = .ok b) ∨ inOptional allowed value = .error .typeError := by
  unfold inOptional
  split
  all_goals first
    | exact .inl ⟨_, rfl⟩
    | exact .inr rfl

variable (cfg) in
/-- An item raises nothing but a `TypeError`. -/
theorem parseItem_cases (item : Json) :
    (∃ parsed, parseItem cfg item = .ok parsed) ∨ parseItem cfg item = .error .typeError := by
  cases item with
  | obj pairs =>
      rw [parseItem]
      split
      · exact .inl ⟨_, rfl⟩
      · rcases inOptional_cases rs256 (pairs.lookup (.ofString "alg")) with ⟨alg, halg⟩ | halg
        · rw [halg]
          cases alg with
          | false => exact .inl ⟨_, rfl⟩
          | true =>
              rcases inOptional_cases (.ofString "sig") (pairs.lookup (.ofString "use")) with
                ⟨use, huse⟩ | huse
              · rw [huse]
                cases use <;> exact .inl ⟨_, rfl⟩
              · rw [huse]
                exact .inr rfl
        · rw [halg]
          exact .inr rfl
  | _ => exact .inl ⟨_, rfl⟩

theorem onlyVerification_parseItems {items : List Json} :
    OnlyVerification (parseItems cfg items) ↔ ∀ item ∈ items, ItemFine item := by
  induction items with
  | nil => exact iff_of_true (onlyVerification_ok _) nofun
  | cons item items ih =>
      rw [parseItems, onlyVerification_bind, onlyVerification_parseItem, List.forall_mem_cons]
      refine and_congr_right fun hitem => ?_
      have hrest (parsed : Option (PyStr × Key)) :
          OnlyVerification (do
            let rest ← parseItems cfg items
            .ok (parsed.toList ++ rest)) ↔ ∀ item ∈ items, ItemFine item := by
        rw [onlyVerification_bind, ih]
        exact and_iff_left fun _ _ => onlyVerification_ok _
      constructor
      · intro h
        rcases parseItem_cases cfg item with ⟨parsed, hparsed⟩ | herror
        · exact (hrest parsed).mp (h parsed hparsed)
        · have honly : OnlyVerification (parseItem cfg item) := onlyVerification_parseItem.mpr hitem
          rw [herror] at honly
          exact absurd honly (not_onlyVerification rfl)
      · intro h parsed _
        exact (hrest parsed).mpr h

/-- The list of keys, if the document has one. -/
def DocumentFine (document : List (PyStr × Json)) : Prop :=
  ∀ items, document.lookup (.ofString "keys") = some (.arr items) → ∀ item ∈ items, ItemFine item

theorem onlyVerification_parseJwks {document : List (PyStr × Json)} :
    OnlyVerification (parseJwks cfg document) ↔ DocumentFine document := by
  unfold parseJwks DocumentFine
  split
  · next items h =>
      rw [onlyVerification_bind, onlyVerification_parseItems]
      have hempty (keys : List (PyStr × Key)) :
          OnlyVerification (if keys.isEmpty = true then .error (.verification .jwksParseFailed)
            else .ok keys) := by
        split
        · exact onlyVerification_verification _
        · exact onlyVerification_ok _
      rw [and_iff_left fun keys _ => hempty keys]
      constructor
      · intro hitems items' hsome
        rw [h] at hsome
        cases hsome
        exact hitems
      · exact fun hall => hall items h
  · next hnone =>
      refine iff_of_true (onlyVerification_verification _) fun items hsome => ?_
      exact absurd hsome (hnone items)

theorem loadsDict_ok {fault : AccessReason} {raw : List UInt8} {pairs : List (PyStr × Json)} :
    loadsDict cfg fault raw = .ok pairs ↔ cfg.loads raw = .ok (.obj pairs) := by
  unfold loadsDict
  cases h : cfg.loads raw with
  | ok value => cases value <;> simp
  | error e => cases e <;> simp

variable (cfg) in
/-- Nothing unexpected is met in the response. -/
def ResponseFine : FetchResult → Prop
  | .body raw => raw.length ≤ maxJwksBytes →
      JsonFine cfg raw ∧ ∀ document, cfg.loads raw = .ok (.obj document) → DocumentFine document
  | .osError => True
  | .httpException => False

theorem onlyVerification_fetchedKeys {response : FetchResult} :
    OnlyVerification (fetchedKeys cfg response) ↔ ResponseFine cfg response := by
  cases response with
  | osError => exact iff_of_true (onlyVerification_verification _) trivial
  | httpException => exact iff_of_false (not_onlyVerification rfl) id
  | body raw =>
      show OnlyVerification (keysOfBody cfg raw) ↔ _
      unfold keysOfBody ResponseFine
      split
      · next hlong =>
          exact iff_of_true (onlyVerification_verification _) fun hshort => by omega
      · next hshort =>
          rw [onlyVerification_bind, onlyVerification_loadsDict]
          simp only [onlyVerification_parseJwks, loadsDict_ok]
          exact ⟨fun h _ => h, fun h => h (by omega)⟩

/-! ### Signature and claims -/

theorem onlyVerification_checkSignature {key : Key} {segments : Segments} :
    OnlyVerification (checkSignature cfg key segments) ↔
      (decodeBase64Url segments.signature ≠ none → segments.signingInput.Ascii) := by
  unfold checkSignature
  split
  · next h => exact iff_of_true (onlyVerification_verification _) fun hne => absurd h hne
  · next signature h =>
      split
      · next hascii =>
          refine iff_of_false (not_onlyVerification rfl) fun himp => hascii (himp ?_)
          rw [h]
          exact nofun
      · next hascii =>
          refine iff_of_true ?_ fun _ => Decidable.not_not.mp hascii
          split
          · exact onlyVerification_ok _
          · exact onlyVerification_verification _

/-- The date is no integer beyond the floats. -/
def DateFine (claims : List (PyStr × Json)) (name : String) : Prop :=
  ∀ n, claims.lookup (.ofString name) = some (.int n) → floatOverflows n = false

theorem onlyVerification_numericDate {claims : List (PyStr × Json)} {name : String} :
    OnlyVerification (numericDate cfg claims name) ↔ DateFine claims name := by
  unfold numericDate DateFine
  split
  · next n h =>
      cases hn : floatOverflows n with
      | true =>
          rw [if_pos rfl]
          refine iff_of_false (not_onlyVerification rfl) fun hfine => ?_
          have hfalse := hfine n h
          rw [hn] at hfalse
          cases hfalse
      | false =>
          rw [if_neg Bool.false_ne_true]
          refine iff_of_true (onlyVerification_ok _) fun m hm => ?_
          rw [h] at hm
          cases hm
          exact hn
  · next x h =>
      refine iff_of_true ?_ fun m hm => by rw [h] at hm; cases hm
      split
      · exact onlyVerification_ok _
      · exact onlyVerification_verification _
  · next hint _ =>
      exact iff_of_true (onlyVerification_verification _) fun m hm => absurd hm (hint m)

variable (cfg) in
/-- The dates of claims that are read: `nbf` only if it is there and `exp` has not passed. -/
def DatesFine (now : ℚ) (claims : List (PyStr × Json)) : Prop :=
  DateFine claims "exp" ∧
    ∀ expiry, numericDate cfg claims "exp" = .ok expiry → now < expiry → DateFine claims "nbf"

theorem onlyVerification_checkNotBefore {now : ℚ} {claims : List (PyStr × Json)} :
    OnlyVerification (checkNotBefore cfg now claims) ↔ DateFine claims "nbf" := by
  unfold checkNotBefore
  split
  · next h =>
      refine iff_of_true (onlyVerification_ok _) fun n hn => ?_
      rw [hn] at h
      cases h
  · rw [onlyVerification_bind, onlyVerification_numericDate]
    refine and_iff_left fun notBefore _ => ?_
    split
    · exact onlyVerification_verification _
    · exact onlyVerification_ok _

theorem onlyVerification_checkDates {now : ℚ} {claims : List (PyStr × Json)} :
    OnlyVerification (checkDates cfg now claims) ↔ DatesFine cfg now claims := by
  unfold checkDates DatesFine
  rw [onlyVerification_bind, onlyVerification_numericDate]
  refine and_congr_right fun _ => forall_congr' fun expiry => imp_congr_right fun _ => ?_
  by_cases hexpired : expiry ≤ now
  · rw [if_pos hexpired]
    exact iff_of_true (onlyVerification_verification _) fun hlt => absurd hexpired (not_le.mpr hlt)
  · rw [if_neg hexpired, onlyVerification_checkNotBefore]
    exact ⟨fun h _ => h, fun h => h (not_le.mp hexpired)⟩

variable (cfg) in
/-- The claims of a signed assertion. -/
def ClaimsFine (now : ℚ) (segments : Segments) : Prop :=
  SegmentFine cfg segments.claims ∧
    ∀ claims, decodeJsonSegment cfg segments.claims = .ok claims →
      issuerMatches cfg.issuer (claims.lookup (.ofString "iss")) = true →
      audienceMatches cfg.audience (claims.lookup (.ofString "aud")) = true →
      DatesFine cfg now claims

theorem onlyVerification_checkClaims {now : ℚ} {claims : List (PyStr × Json)} :
    OnlyVerification (checkClaims cfg now claims) ↔
      (issuerMatches cfg.issuer (claims.lookup (.ofString "iss")) = true →
        audienceMatches cfg.audience (claims.lookup (.ofString "aud")) = true →
        DatesFine cfg now claims) := by
  unfold checkClaims
  cases hissuer : issuerMatches cfg.issuer (claims.lookup (.ofString "iss")) with
  | false => exact iff_of_true (onlyVerification_verification _) nofun
  | true =>
      rw [if_neg (by decide)]
      cases haudience : audienceMatches cfg.audience (claims.lookup (.ofString "aud")) with
      | false => exact iff_of_true (onlyVerification_verification _) fun _ => nofun
      | true =>
          rw [if_neg (by decide), onlyVerification_bind, onlyVerification_checkDates,
            and_iff_left fun _ _ => onlyVerification_ok _]
          exact ⟨fun h _ _ => h, fun h => h rfl rfl⟩

theorem onlyVerification_readClaims {now : ℚ} {segments : Segments} :
    OnlyVerification (readClaims cfg now segments) ↔ ClaimsFine cfg now segments := by
  unfold readClaims ClaimsFine
  rw [onlyVerification_bind, onlyVerification_decodeJsonSegment]
  exact and_congr_right fun _ => forall_congr' fun claims => imp_congr_right fun _ =>
    onlyVerification_checkClaims

end Parts

/-! ### Calls -/

section Calls

variable {Key α β : Type}

/-- The call raises verification errors only. -/
def TotalAt (m : AccessCall Key α) (st : AccessState Key) : Prop :=
  Ends m (fun r _ => OnlyVerification r) st

theorem totalAt_bind {m : AccessCall Key α} {f : α → AccessCall Key β} {st : AccessState Key} :
    TotalAt (m >>= f) st ↔ TotalAt m st ∧ ∀ a st', m st = .ok a st' → TotalAt (f a) st' := by
  have hbind : (m >>= f) st = EStateM.bind m f st := rfl
  unfold TotalAt Ends
  rw [hbind]
  unfold EStateM.bind
  cases hm : m st with
  | ok a st' =>
      constructor
      · intro h
        refine ⟨onlyVerification_ok a, fun a' st'' hsame => ?_⟩
        cases hsame
        exact h
      · exact fun h => h.2 a st' rfl
  | error e st' =>
      constructor
      · exact fun h => ⟨fun e' he => h e' (by rw [← Except.error.inj he]), nofun⟩
      · exact fun h e' he => h.1 e' (by rw [← Except.error.inj he])

theorem totalAt_liftExcept {r : Except AccessError α} {st : AccessState Key} :
    TotalAt (liftExcept r) st ↔ OnlyVerification r := by
  cases r with
  | ok a => exact Iff.rfl
  | error e => exact Iff.rfl

theorem liftExcept_eq_ok {r : Except AccessError α} {st st' : AccessState Key} {a : α} :
    liftExcept r st = .ok a st' ↔ r = .ok a ∧ st' = st := by
  cases r with
  | ok b =>
      constructor
      · intro h
        cases h
        exact ⟨rfl, rfl⟩
      · rintro ⟨h, rfl⟩
        cases h
        rfl
  | error e =>
      constructor
      · exact fun h => nomatch h
      · exact fun h => nomatch h.1

theorem bind_eq_ok {m : AccessCall Key α} {f : α → AccessCall Key β} {st st' : AccessState Key}
    {b : β} : (m >>= f) st = .ok b st' ↔ ∃ a st₁, m st = .ok a st₁ ∧ f a st₁ = .ok b st' := by
  have hbind : (m >>= f) st = EStateM.bind m f st := rfl
  rw [hbind]
  unfold EStateM.bind
  cases hm : m st with
  | ok a st₁ =>
      constructor
      · exact fun h => ⟨a, st₁, rfl, h⟩
      · rintro ⟨a', st₁', hsame, h⟩
        cases hsame
        exact h
  | error e st₁ =>
      constructor
      · exact fun h => nomatch h
      · rintro ⟨a', st₁', hsame, -⟩
        cases hsame

end Calls

section Keys

variable {Key : Type} {cfg : AccessConfig Key} {st st' : AccessState Key}

theorem refreshSigningKeys_eq_ok {now : ℚ} {response : FetchResult} {keys : List (PyStr × Key)} :
    refreshSigningKeys cfg now response st = .ok keys st' ↔
      fetchedKeys cfg response = .ok keys ∧
        st' = ⟨some ⟨now + cfg.jwksCacheTtlSeconds, keys⟩, ⟨now, response⟩ :: st.fetches⟩ := by
  unfold refreshSigningKeys
  rw [bind_eq_ok]
  constructor
  · rintro ⟨keys', st₁, hlift, hrest⟩
    obtain ⟨hkeys, rfl⟩ := liftExcept_eq_ok.mp hlift
    cases hrest
    exact ⟨hkeys, rfl⟩
  · rintro ⟨hkeys, rfl⟩
    exact ⟨keys, st, liftExcept_eq_ok.mpr ⟨hkeys, rfl⟩, rfl⟩

theorem totalAt_refreshSigningKeys {now : ℚ} {response : FetchResult} :
    TotalAt (refreshSigningKeys cfg now response) st ↔ ResponseFine cfg response := by
  unfold refreshSigningKeys
  rw [totalAt_bind, totalAt_liftExcept, onlyVerification_fetchedKeys]
  exact and_iff_left fun keys st₁ _ => onlyVerification_ok keys

variable (cfg) in
/-- The keys of the first look-up, and the key that is found. -/
def firstKeys (c : VerifyCall) (st : AccessState Key) : Option (List (PyStr × Key)) :=
  match freshKeys c.firstRead st with
  | some keys => some keys
  | none => (fetchedKeys cfg c.firstResponse).toOption

variable (cfg) in
def keyFor (c : VerifyCall) (st : AccessState Key) (kid : PyStr) : Option Key :=
  (firstKeys cfg c st).bind fun keys =>
    match keyNamed kid keys with
    | some key => some key
    | none => (fetchedKeys cfg c.secondResponse).toOption.bind (keyNamed kid)

theorem toOption_eq_some {α : Type} {r : Except AccessError α} {a : α} :
    r.toOption = some a ↔ r = .ok a := by
  cases r with
  | ok b =>
      show some b = some a ↔ _
      simp
  | error e => exact iff_of_false nofun nofun

theorem signingKeys_eq_ok {c : VerifyCall} {keys : List (PyStr × Key)} :
    (∃ st', signingKeys cfg c.firstRead c.firstResponse st = .ok keys st') ↔
      firstKeys cfg c st = some keys := by
  unfold firstKeys
  have hstep : signingKeys cfg c.firstRead c.firstResponse st =
      (match freshKeys c.firstRead st with
        | some keys => pure keys
        | none => refreshSigningKeys cfg c.firstRead c.firstResponse : AccessCall Key _) st := rfl
  rw [hstep]
  cases hfresh : freshKeys c.firstRead st with
  | some keys' =>
      constructor
      · rintro ⟨st', h⟩
        cases h
        rfl
      · intro h
        cases h
        exact ⟨st, rfl⟩
  | none =>
      dsimp only
      rw [toOption_eq_some]
      constructor
      · rintro ⟨st', h⟩
        exact (refreshSigningKeys_eq_ok.mp h).1
      · exact fun h => ⟨_, refreshSigningKeys_eq_ok.mpr ⟨h, rfl⟩⟩

theorem totalAt_signingKeys {now : ℚ} {response : FetchResult} :
    TotalAt (signingKeys cfg now response) st ↔
      (freshKeys now st = none → ResponseFine cfg response) := by
  have hstep : signingKeys cfg now response st =
      (match freshKeys now st with
        | some keys => pure keys
        | none => refreshSigningKeys cfg now response : AccessCall Key _) st := rfl
  unfold TotalAt Ends
  rw [hstep]
  cases hfresh : freshKeys now st with
  | some keys => exact iff_of_true (onlyVerification_ok keys) nofun
  | none =>
      have hrefresh : TotalAt (refreshSigningKeys cfg now response) st ↔
          ResponseFine cfg response := totalAt_refreshSigningKeys
      unfold TotalAt Ends at hrefresh
      dsimp only
      rw [hrefresh]
      exact ⟨fun h _ => h, fun h => h rfl⟩

variable (cfg) in
/-- Nothing unexpected is met while the key is looked up. -/
def KeysFine (c : VerifyCall) (st : AccessState Key) (kid : PyStr) : Prop :=
  (freshKeys c.firstRead st = none → ResponseFine cfg c.firstResponse) ∧
    ∀ keys, firstKeys cfg c st = some keys → keyNamed kid keys = none →
      ResponseFine cfg c.secondResponse

/-- The second look-up. -/
def findKey (cfg : AccessConfig Key) (c : VerifyCall) (kid : PyStr) (keys : List (PyStr × Key)) :
    AccessCall Key Key :=
  match keyNamed kid keys with
  | some key => pure key
  | none => do
      let keys ← refreshSigningKeys cfg c.secondRead c.secondResponse
      match keyNamed kid keys with
      | some key => pure key
      | none => throw (.verification .unknownSigningKey)

theorem signingKeyFor_eq (cfg : AccessConfig Key) (c : VerifyCall) (kid : PyStr) :
    signingKeyFor cfg c kid =
      signingKeys cfg c.firstRead c.firstResponse >>= findKey cfg c kid := rfl

theorem findKey_some {c : VerifyCall} {kid : PyStr} {keys : List (PyStr × Key)} {key : Key}
    (h : keyNamed kid keys = some key) : findKey cfg c kid keys = pure key := by
  unfold findKey
  rw [h]

theorem findKey_none {c : VerifyCall} {kid : PyStr} {keys : List (PyStr × Key)}
    (h : keyNamed kid keys = none) :
    findKey cfg c kid keys = (do
      let keys ← refreshSigningKeys cfg c.secondRead c.secondResponse
      match keyNamed kid keys with
      | some key => pure key
      | none => throw (.verification .unknownSigningKey)) := by
  unfold findKey
  rw [h]

theorem totalAt_findKey {c : VerifyCall} {kid : PyStr} {keys : List (PyStr × Key)} :
    TotalAt (findKey cfg c kid keys) st ↔
      (keyNamed kid keys = none → ResponseFine cfg c.secondResponse) := by
  unfold findKey
  cases hnamed : keyNamed kid keys with
  | some key => exact iff_of_true (onlyVerification_ok key) nofun
  | none =>
      dsimp only
      rw [totalAt_bind, totalAt_refreshSigningKeys]
      have hrest (keys : List (PyStr × Key)) (st' : AccessState Key) :
          TotalAt (match keyNamed kid keys with
            | some key => pure key
            | none => throw (.verification .unknownSigningKey) : AccessCall Key Key) st' := by
        cases keyNamed kid keys with
        | some key => exact onlyVerification_ok key
        | none => exact onlyVerification_verification _
      rw [and_iff_left fun keys st' _ => hrest keys st']
      exact ⟨fun h _ => h, fun h => h rfl⟩

theorem totalAt_signingKeyFor {c : VerifyCall} {kid : PyStr} :
    TotalAt (signingKeyFor cfg c kid) st ↔ KeysFine cfg c st kid := by
  rw [signingKeyFor_eq, totalAt_bind, totalAt_signingKeys]
  refine and_congr_right fun _ => ?_
  constructor
  · intro h keys hkeys
    obtain ⟨st', hst'⟩ := signingKeys_eq_ok.mpr hkeys
    exact totalAt_findKey.mp (h keys st' hst')
  · intro h keys st' hst'
    exact totalAt_findKey.mpr (h keys (signingKeys_eq_ok.mp ⟨st', hst'⟩))

theorem keyFor_of_signingKeyFor {c : VerifyCall} {kid : PyStr} {key : Key} :
    (∃ st', signingKeyFor cfg c kid st = .ok key st') ↔ keyFor cfg c st kid = some key := by
  -- a key that the cached set misses is looked up in a second fetch
  have hfind (keys : List (PyStr × Key)) (st₁ : AccessState Key) :
      (∃ st', findKey cfg c kid keys st₁ = .ok key st') ↔
        (match keyNamed kid keys with
          | some key => some key
          | none => (fetchedKeys cfg c.secondResponse).toOption.bind (keyNamed kid)) =
            some key := by
    unfold findKey
    cases hnamed : keyNamed kid keys with
    | some key' =>
        constructor
        · rintro ⟨st', h⟩
          cases h
          rfl
        · intro h
          cases h
          exact ⟨st₁, rfl⟩
    | none =>
        dsimp only
        simp only [bind_eq_ok, Option.bind_eq_some_iff, toOption_eq_some]
        constructor
        · rintro ⟨st', keys', st₂, hrefresh, hrest⟩
          refine ⟨keys', (refreshSigningKeys_eq_ok.mp hrefresh).1, ?_⟩
          cases hnamed' : keyNamed kid keys' with
          | some key' =>
              rw [hnamed'] at hrest
              cases hrest
              rfl
          | none =>
              rw [hnamed'] at hrest
              cases hrest
        · rintro ⟨keys', hkeys', hnamed'⟩
          obtain ⟨st₂, hst₂⟩ : ∃ st₂, refreshSigningKeys cfg c.secondRead c.secondResponse st₁ =
              .ok keys' st₂ := ⟨_, refreshSigningKeys_eq_ok.mpr ⟨hkeys', rfl⟩⟩
          refine ⟨st₂, keys', st₂, hst₂, ?_⟩
          rw [hnamed']
          rfl
  unfold keyFor
  rw [signingKeyFor_eq, Option.bind_eq_some_iff]
  constructor
  · rintro ⟨st', h⟩
    obtain ⟨keys, st₁, hkeys, hrest⟩ := bind_eq_ok.mp h
    exact ⟨keys, signingKeys_eq_ok.mp ⟨st₁, hkeys⟩, (hfind keys st₁).mp ⟨st', hrest⟩⟩
  · rintro ⟨keys, hkeys, hrest⟩
    obtain ⟨st₁, hst₁⟩ := signingKeys_eq_ok.mpr hkeys
    obtain ⟨st', hst'⟩ := (hfind keys st₁).mpr hrest
    exact ⟨st', bind_eq_ok.mpr ⟨keys, st₁, hst₁, hst'⟩⟩

end Keys

/-! ### Nothing unexpected is met -/

section Verify

variable {Key : Type} (cfg : AccessConfig Key)

/-- Each part is asked only of what the verification reaches. -/
def AccessQuiet (st : AccessState Key) (c : VerifyCall) : Prop :=
  ∀ segments, splitAssertion c.assertion = .ok segments →
    SegmentFine cfg segments.header ∧
    ∀ kid, readHeader cfg segments = .ok kid →
      KeysFine cfg c st kid ∧
      ∀ key, keyFor cfg c st kid = some key →
        (decodeBase64Url segments.signature ≠ none → segments.signingInput.Ascii) ∧
        (checkSignature cfg key segments = .ok () → ClaimsFine cfg c.now segments)

theorem totalAt_verify {st : AccessState Key} {c : VerifyCall} :
    TotalAt (verify cfg c) st ↔ AccessQuiet cfg st c := by
  unfold verify AccessQuiet
  rw [totalAt_bind, totalAt_liftExcept,
    and_iff_right (onlyVerification_splitAssertion c.assertion)]
  simp only [liftExcept_eq_ok, and_imp]
  refine forall_congr' fun segments => ?_
  rw [forall_comm]
  refine (forall_congr' fun hsplit => ?_)
  rw [forall_eq, totalAt_bind, totalAt_liftExcept, onlyVerification_readHeader]
  simp only [liftExcept_eq_ok, and_imp]
  refine and_congr_right fun _ => forall_congr' fun kid => ?_
  rw [forall_comm]
  refine forall_congr' fun hheader => ?_
  rw [forall_eq, totalAt_bind, totalAt_signingKeyFor]
  refine and_congr_right fun _ => forall_congr' fun key => ?_
  rw [← keyFor_of_signingKeyFor]
  -- after the key, nothing reads the state
  have hrest (st' : AccessState Key) :
      TotalAt (do
        liftExcept (checkSignature cfg key segments)
        liftExcept (readClaims cfg c.now segments)) st' ↔
      (decodeBase64Url segments.signature ≠ none → segments.signingInput.Ascii) ∧
        (checkSignature cfg key segments = .ok () → ClaimsFine cfg c.now segments) := by
    rw [totalAt_bind, totalAt_liftExcept, onlyVerification_checkSignature]
    refine and_congr_right fun _ => ?_
    simp only [totalAt_liftExcept, onlyVerification_readClaims, liftExcept_eq_ok]
    constructor
    · exact fun h hsignature => h () st' ⟨hsignature, rfl⟩
    · exact fun h _ _ hok => h hok.1
  constructor
  · rintro h ⟨st', hst'⟩
    exact (hrest st').mp (h st' hst')
  · exact fun h st' hst' => (hrest st').mpr (h ⟨st', hst'⟩)

/-! ### What is returned -/

/-- The keys of the cache are those of a response, kept for the lifetime. -/
def Cached (st : AccessState Key) : Prop :=
  ∀ entry, st.cache = some entry → ∃ fetch ∈ st.fetches,
    fetchedKeys cfg fetch.response = .ok entry.keys ∧
      entry.expiresAt = fetch.time + cfg.jwksCacheTtlSeconds

/-- A key of this name was in a response that was fetched no longer ago than the lifetime. -/
def CurrentKey (st : AccessState Key) (c : VerifyCall) (kid : PyStr) (key : Key) : Prop :=
  ∃ fetch ∈ st.fetches, ∃ keys, fetchedKeys cfg fetch.response = .ok keys ∧
    keyNamed kid keys = some key ∧
    ∃ read ∈ [c.firstRead, c.secondRead], read ≤ fetch.time + cfg.jwksCacheTtlSeconds

/-- What the claims of a verified assertion are. -/
structure Vouched (st : AccessState Key) (c : VerifyCall)
    (claims : List (PyStr × Json)) : Prop where
  signed : ∃ header payload signature, c.assertion.splitOn 46 = [header, payload, signature] ∧
    decodeJsonSegment cfg payload = .ok claims ∧
    ∃ fields kid key bytes, decodeJsonSegment cfg header = .ok fields ∧
      fields.lookup (.ofString "alg") = some (.str rs256) ∧
      fields.lookup kidName = some (.str kid) ∧ CurrentKey cfg st c kid key ∧
      decodeBase64Url signature = some bytes ∧
      cfg.verifies key bytes (header ++ 46 :: payload) = true
  issuer : issuerMatches cfg.issuer (claims.lookup (.ofString "iss")) = true
  audience : audienceMatches cfg.audience (claims.lookup (.ofString "aud")) = true
  expiry : ∃ expiry, numericDate cfg claims "exp" = .ok expiry ∧ c.now < expiry
  notBefore : claims.lookup (.ofString "nbf") = none ∨
    ∃ notBefore, numericDate cfg claims "nbf" = .ok notBefore ∧ notBefore ≤ c.now

variable {cfg} {st st' : AccessState Key} {c : VerifyCall}

theorem splitOn_of_splitAssertion {assertion : PyStr} {segments : Segments}
    (h : splitAssertion assertion = .ok segments) :
    assertion.splitOn 46 = [segments.header, segments.claims, segments.signature] := by
  unfold splitAssertion at h
  split at h
  · cases h
  · split at h
    · next header claims signature hsplit =>
        cases h
        exact hsplit
    · cases h

theorem fields_of_readHeader {segments : Segments} {kid : PyStr}
    (h : readHeader cfg segments = .ok kid) :
    ∃ fields, decodeJsonSegment cfg segments.header = .ok fields ∧
      fields.lookup (.ofString "alg") = some (.str rs256) ∧
      fields.lookup kidName = some (.str kid) := by
  unfold readHeader at h
  cases hfields : decodeJsonSegment cfg segments.header with
  | error e =>
      rw [hfields] at h
      cases h
  | ok fields =>
      rw [hfields] at h
      have hkid : kidOfHeader fields = .ok kid := h
      unfold kidOfHeader at hkid
      split at hkid
      · next alg halg =>
          split at hkid
          · cases hkid
          · next hrs =>
              split at hkid
              · next kid' hlookup =>
                  split at hkid
                  · cases hkid
                  · cases hkid
                    exact ⟨fields, rfl, Decidable.not_not.mp hrs ▸ halg, hlookup⟩
              · cases hkid
      · cases hkid

theorem signature_of_checkSignature {key : Key} {segments : Segments}
    (h : checkSignature cfg key segments = .ok ()) :
    ∃ bytes, decodeBase64Url segments.signature = some bytes ∧
      cfg.verifies key bytes segments.signingInput = true := by
  unfold checkSignature at h
  split at h
  · cases h
  · next bytes hbytes =>
      split at h
      · cases h
      · split at h
        · next hverifies => exact ⟨bytes, hbytes, hverifies⟩
        · cases h

theorem dates_of_checkDates {now : ℚ} {claims : List (PyStr × Json)}
    (h : checkDates cfg now claims = .ok ()) :
    (∃ expiry, numericDate cfg claims "exp" = .ok expiry ∧ now < expiry) ∧
      (claims.lookup (.ofString "nbf") = none ∨
        ∃ notBefore, numericDate cfg claims "nbf" = .ok notBefore ∧ notBefore ≤ now) := by
  unfold checkDates at h
  cases hexp : numericDate cfg claims "exp" with
  | error e =>
      rw [hexp] at h
      cases h
  | ok expiry =>
      rw [hexp] at h
      have hrest : (if expiry ≤ now then .error (.verification .expired)
        else checkNotBefore cfg now claims) = .ok () := h
      split at hrest
      · cases hrest
      · next hlater =>
          refine ⟨⟨expiry, rfl, not_le.mp hlater⟩, ?_⟩
          unfold checkNotBefore at hrest
          split at hrest
          · next hnone => exact .inl (Option.isNone_iff_eq_none.mp hnone)
          · cases hnbf : numericDate cfg claims "nbf" with
            | error e =>
                rw [hnbf] at hrest
                cases hrest
            | ok notBefore =>
                rw [hnbf] at hrest
                have hnot : (if now < notBefore then .error (.verification .notYetValid)
                  else .ok () : Except AccessError Unit) = .ok () := hrest
                split at hnot
                · cases hnot
                · next hpassed => exact .inr ⟨notBefore, rfl, not_lt.mp hpassed⟩

theorem claims_of_readClaims {now : ℚ} {segments : Segments} {claims : List (PyStr × Json)}
    (h : readClaims cfg now segments = .ok claims) :
    decodeJsonSegment cfg segments.claims = .ok claims ∧
      issuerMatches cfg.issuer (claims.lookup (.ofString "iss")) = true ∧
      audienceMatches cfg.audience (claims.lookup (.ofString "aud")) = true ∧
      checkDates cfg now claims = .ok () := by
  unfold readClaims at h
  cases hclaims : decodeJsonSegment cfg segments.claims with
  | error e =>
      rw [hclaims] at h
      cases h
  | ok claims' =>
      rw [hclaims] at h
      have hcheck : checkClaims cfg now claims' = .ok claims := h
      unfold checkClaims at hcheck
      split at hcheck
      · cases hcheck
      · next hissuer =>
          split at hcheck
          · cases hcheck
          · next haudience =>
              rw [Bool.not_eq_true', Bool.not_eq_false] at hissuer haudience
              cases hdates : checkDates cfg now claims' with
              | error e =>
                  rw [hdates] at hcheck
                  cases hcheck
              | ok u =>
                  rw [hdates] at hcheck
                  cases hcheck
                  exact ⟨rfl, hissuer, haudience, hdates⟩

/-! ### The cache -/

theorem cached_refresh {now : ℚ} {response : FetchResult} {keys : List (PyStr × Key)}
    (h : fetchedKeys cfg response = .ok keys) (fetches : List JwksFetch) :
    Cached cfg ⟨some ⟨now + cfg.jwksCacheTtlSeconds, keys⟩, ⟨now, response⟩ :: fetches⟩ := by
  intro entry hentry
  cases hentry
  exact ⟨⟨now, response⟩, .head _, h, rfl⟩

theorem ends_refreshSigningKeys (hcached : Cached cfg st) (now : ℚ) (response : FetchResult) :
    Ends (refreshSigningKeys cfg now response) (fun _ st' => Cached cfg st') st := by
  unfold refreshSigningKeys liftExcept
  cases hkeys : fetchedKeys cfg response with
  | error e => exact hcached
  | ok keys => exact cached_refresh hkeys st.fetches

theorem ends_signingKeyFor (hcached : Cached cfg st) (kid : PyStr) :
    Ends (signingKeyFor cfg c kid) (fun _ st' => Cached cfg st') st := by
  have hfirst : Ends (signingKeys cfg c.firstRead c.firstResponse)
      (fun _ st' => Cached cfg st') st := by
    refine Ends.get_bind ?_
    split
    · exact hcached
    · exact ends_refreshSigningKeys hcached _ _
  refine hfirst.bind (fun keys st₁ hst₁ => ?_) fun _ _ h => h
  split
  · exact hst₁
  · refine (ends_refreshSigningKeys hst₁ _ _).bind (fun keys' st₂ hst₂ => ?_) fun _ _ h => h
    split <;> exact hst₂

theorem ends_liftExcept {α : Type} (hcached : Cached cfg st) (r : Except AccessError α) :
    Ends (liftExcept r) (fun _ st' => Cached cfg st') st := by
  cases r <;> exact hcached

/-- A call keeps the cache in order, however it ends. -/
theorem ends_verify (hcached : Cached cfg st) :
    Ends (verify cfg c) (fun _ st' => Cached cfg st') st := by
  refine (ends_liftExcept hcached _).bind (fun segments st₁ hst₁ => ?_) fun _ _ h => h
  refine (ends_liftExcept hst₁ _).bind (fun kid st₂ hst₂ => ?_) fun _ _ h => h
  refine (ends_signingKeyFor hst₂ kid).bind (fun key st₃ hst₃ => ?_) fun _ _ h => h
  refine (ends_liftExcept hst₃ _).bind (fun _ st₄ hst₄ => ?_) fun _ _ h => h
  exact ends_liftExcept hst₄ _

theorem cached_afterCalls (calls : List VerifyCall) : Cached cfg (afterCalls cfg calls) := by
  have hrun (st : AccessState Key) (hst : Cached cfg st) :
      Cached cfg (calls.foldl (fun st c => after (verify cfg c) st) st) := by
    induction calls generalizing st with
    | nil => exact hst
    | cons c calls ih => exact ih _ (ends_verify hst).after
  exact hrun _ (fun entry hentry => nomatch hentry)

/-- Keys that the cache gives were fetched within its lifetime. -/
theorem current_of_fresh (hcached : Cached cfg st) {now : ℚ} {keys : List (PyStr × Key)}
    (h : freshKeys now st = some keys) : ∃ fetch ∈ st.fetches,
      fetchedKeys cfg fetch.response = .ok keys ∧ now ≤ fetch.time + cfg.jwksCacheTtlSeconds := by
  unfold freshKeys at h
  split at h
  · next entry hentry =>
      split at h
      · next hfresh =>
          cases h
          obtain ⟨fetch, hfetch, hkeys, hexpires⟩ := hcached entry hentry
          exact ⟨fetch, hfetch, hkeys, (hexpires ▸ hfresh).le⟩
      · cases h
  · cases h

theorem currentKey_of_signingKeyFor (hcached : Cached cfg st) {kid : PyStr} {key : Key}
    (h : signingKeyFor cfg c kid st = .ok key st') : CurrentKey cfg st' c kid key := by
  have hnow (now : ℚ) : now ≤ now + cfg.jwksCacheTtlSeconds :=
    le_add_of_nonneg_right cfg.ttl_nonneg
  rw [signingKeyFor_eq] at h
  obtain ⟨keys, st₁, hkeys, hfind⟩ := bind_eq_ok.mp h
  cases hnamed : keyNamed kid keys with
  | some key' =>
      rw [findKey_some hnamed] at hfind
      cases hfind
      have hstep : signingKeys cfg c.firstRead c.firstResponse st =
          (match freshKeys c.firstRead st with
            | some keys => pure keys
            | none => refreshSigningKeys cfg c.firstRead c.firstResponse : AccessCall Key _)
              st := rfl
      rw [hstep] at hkeys
      cases hfresh : freshKeys c.firstRead st with
      | some keys' =>
          rw [hfresh] at hkeys
          cases hkeys
          obtain ⟨fetch, hfetch, hparsed, htime⟩ := current_of_fresh hcached hfresh
          exact ⟨fetch, hfetch, keys, hparsed, hnamed, c.firstRead, .head _, htime⟩
      | none =>
          rw [hfresh] at hkeys
          obtain ⟨hparsed, rfl⟩ := refreshSigningKeys_eq_ok.mp hkeys
          exact ⟨_, .head _, keys, hparsed, hnamed, c.firstRead, .head _, hnow _⟩
  | none =>
      rw [findKey_none hnamed] at hfind
      obtain ⟨keys', st₂, hrefresh, hrest⟩ := bind_eq_ok.mp hfind
      obtain ⟨hparsed, rfl⟩ := refreshSigningKeys_eq_ok.mp hrefresh
      cases hnamed' : keyNamed kid keys' with
      | none =>
          rw [hnamed'] at hrest
          cases hrest
      | some key' =>
          rw [hnamed'] at hrest
          cases hrest
          exact ⟨_, .head _, keys', hparsed, hnamed', c.secondRead, .tail _ (.head _), hnow _⟩

theorem vouched_of_verify (hcached : Cached cfg st) {claims : List (PyStr × Json)}
    (h : verify cfg c st = .ok claims st') : Vouched cfg st' c claims := by
  obtain ⟨segments, st₁, hsegments, h₁⟩ := bind_eq_ok.mp h
  obtain ⟨hsplit, rfl⟩ := liftExcept_eq_ok.mp hsegments
  obtain ⟨kid, st₂, hheader, h₂⟩ := bind_eq_ok.mp h₁
  obtain ⟨hkid, rfl⟩ := liftExcept_eq_ok.mp hheader
  obtain ⟨key, st₃, hkey, h₃⟩ := bind_eq_ok.mp h₂
  obtain ⟨_, st₄, hsignature, h₄⟩ := bind_eq_ok.mp h₃
  obtain ⟨hsigned, rfl⟩ := liftExcept_eq_ok.mp hsignature
  obtain ⟨hclaims, rfl⟩ := liftExcept_eq_ok.mp h₄
  obtain ⟨fields, hfields, halg, hlookup⟩ := fields_of_readHeader hkid
  obtain ⟨bytes, hbytes, hverifies⟩ := signature_of_checkSignature hsigned
  obtain ⟨hread, hissuer, haudience, hdates⟩ := claims_of_readClaims hclaims
  obtain ⟨hexpiry, hnotBefore⟩ := dates_of_checkDates hdates
  exact ⟨⟨segments.header, segments.claims, segments.signature,
    splitOn_of_splitAssertion hsplit, hread, fields, kid, key, bytes, hfields, halg, hlookup,
    currentKey_of_signingKeyFor hcached hkey, hbytes, hverifies⟩, hissuer, haudience, hexpiry,
    hnotBefore⟩

variable (cfg) in
/-- Claims of an assertion that is vouched for, or a verification error. -/
def ExactAt (c : VerifyCall) (r : Except AccessError (List (PyStr × Json)))
    (st' : AccessState Key) : Prop :=
  match r with
  | .ok claims => Vouched cfg st' c claims
  | .error e => e.isVerification = true

variable (cfg c) in
/-- After any calls, a call ends with the claims of an assertion that is vouched for or with a
verification error, exactly if it meets nothing unexpected. -/
theorem access_exact_iff (earlier : List VerifyCall) :
    Ends (verify cfg c) (ExactAt cfg c) (afterCalls cfg earlier) ↔
      AccessQuiet cfg (afterCalls cfg earlier) c := by
  rw [← totalAt_verify]
  have hcached : Cached cfg (afterCalls cfg earlier) := cached_afterCalls earlier
  unfold TotalAt Ends
  cases h : verify cfg c (afterCalls cfg earlier) with
  | ok claims st' => exact iff_of_true (vouched_of_verify hcached h) (onlyVerification_ok claims)
  | error e st' =>
      constructor
      · intro hverification e' he
        rw [← Except.error.inj he]
        exact hverification
      · exact fun honly => honly e rfl

/-- How a call escapes, if it does. -/
def escaped {α : Type} (x : AccessCall Key α) (st : AccessState Key) : Option AccessError :=
  match x st with
  | .ok _ _ => none
  | .error e _ => if e.isVerification then none else some e

theorem not_exact_of_escaped (h : (escaped (verify cfg c) st).isSome = true) :
    ¬Ends (verify cfg c) (ExactAt cfg c) st := by
  unfold escaped at h
  unfold Ends
  cases hverify : verify cfg c st with
  | ok claims st' =>
      rw [hverify] at h
      cases h
  | error e st' =>
      rw [hverify] at h
      dsimp only at h
      intro hexact
      rw [if_pos (show e.isVerification = true from hexact)] at h
      cases h

end Verify

/-! ### An assertion that is not ASCII -/

section Sample

/-- The text of a number is plain. -/
def plainFloat (text : List Char) : FloatText where
  text := text.filter plainChar
  plain _ hc := (List.mem_filter.mp hc).2

/-- A parser of ASCII bytes. The keys are exponents and moduli, and no signature is valid. -/
def sampleAccess : AccessConfig (ℕ × ℕ) where
  issuer := .ofString "https://bank.cloudflareaccess.com"
  audience := .ofString "0123456789abcdef"
  jwksCacheTtlSeconds := 300
  ttl_nonneg := by decide
  loads raw := match loads plainFloat (raw.map fun byte => Char.ofNat byte.toNat) with
    | some value => .ok value
    | none => .error .decode
  floatValue _ := none
  publicKey exponent modulus := some (exponent, modulus)
  keySize key := key.2.log2 + 1
  verifies _ _ _ := false

def asciiBytes (text : String) : List UInt8 := text.toList.map fun c => UInt8.ofNat c.toNat

/-- A list with one key, whose modulus is 256 bytes of ones. -/
def sampleJwks : List UInt8 :=
  asciiBytes "\x7b\"keys\": [\x7b\"kty\": \"RSA\", \"kid\": \"k\", \"e\": \"AQAB\", \"n\": \"" ++
    List.replicate 342 95 ++ asciiBytes "\"\x7d]\x7d"

/-- The claims segment is the character é. -/
def accentedCall : VerifyCall where
  assertion := b64encode (asciiBytes "\x7b\"alg\":\"RS256\",\"kid\":\"k\"\x7d  ") ++
    .ofString ".é.AAAA"
  now := 1000
  firstRead := 10
  firstResponse := .body sampleJwks
  secondRead := 10
  secondResponse := .osError

/-- The first call of all ends with a `UnicodeEncodeError`. -/
theorem accentedAssertion_escapes :
    ¬Ends (verify sampleAccess accentedCall) (ExactAt sampleAccess accentedCall)
      (afterCalls sampleAccess []) :=
  not_exact_of_escaped (by decide +kernel)

end Sample

end SitBank.Security
