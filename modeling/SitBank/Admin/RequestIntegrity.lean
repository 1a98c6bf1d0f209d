import Mathlib.Data.List.Induction
import SitBank.Admin.ActionRequests

/-!
What is executed and what was signed.

A request that passes the signature check has the operation type, the target and the
safe payload of the request that was signed. The parameters are a different matter:
the safe payload takes the last of the entries whose keys agree up to blanks, and
folds its case, while the executor takes the entry under the exact key. They are the
signed parameters exactly where the two agree (`ReadsAsSigned`).
-/

namespace SitBank.Admin

open SitBank.Python SitBank.Audit

/-! ### The safe payload -/

/-- The entry is written to the safe payload under `key`. -/
def claims (ops : TextOps) (key : PyStr) (entry : PyStr × Json) : Bool :=
  entry.1.strip = key && normalText ops (valueText ops entry.2) ≠ []

/-- The text of the last entry that is not blank and whose key is `key` up to
blanks. -/
def lastText (ops : TextOps) (payload : List (PyStr × Json)) (key : PyStr) : Option PyStr :=
  (payload.filter (claims ops key)).getLast?.map fun entry =>
    normalText ops (valueText ops entry.2)

section Safe

variable (ops : TextOps)

theorem lookup_safeEntry {key : PyStr} (hkey : key ∈ safePayloadKeys)
    (safe : List (PyStr × PyStr)) (entry : PyStr × Json) :
    (safeEntry ops safe entry).lookup key =
      if claims ops key entry then some (normalText ops (valueText ops entry.2))
      else safe.lookup key := by
  unfold safeEntry claims
  by_cases hstrip : entry.1.strip = key
  · rw [if_pos (hstrip ▸ hkey)]
    by_cases hblank : normalText ops (valueText ops entry.2) = []
    · simp [hblank]
    · rw [if_neg hblank, lookup_dictSet, if_pos hstrip.symm]
      simp [hstrip, hblank]
  · have hne : key ≠ entry.1.strip := fun h => hstrip h.symm
    have hclaims : (entry.1.strip = key && normalText ops (valueText ops entry.2) ≠ []) =
        false := by
      simp [hstrip]
    rw [hclaims]
    split
    · split
      · rfl
      · rw [lookup_dictSet, if_neg hne]
        rfl
    · rfl

theorem lookup_safeAdminActionPayload {key : PyStr} (hkey : key ∈ safePayloadKeys)
    (payload : List (PyStr × Json)) :
    (safeAdminActionPayload ops payload).lookup key = lastText ops payload key := by
  unfold safeAdminActionPayload
  induction payload using List.reverseRecOn with
  | nil => rfl
  | append_singleton payload entry ih =>
      rw [List.foldl_append, List.foldl_cons, List.foldl_nil, lookup_safeEntry ops hkey, ih]
      unfold lastText
      rw [List.filter_append]
      by_cases h : claims ops key entry = true
      · rw [if_pos h, List.filter_cons_of_pos h, List.filter_nil, List.getLast?_concat]
        rfl
      · rw [if_neg h, List.filter_cons_of_neg h, List.filter_nil, List.append_nil]

theorem mem_dictSet {key value : PyStr} {d : List (PyStr × PyStr)} {p : PyStr × PyStr}
    (h : p ∈ dictSet key value d) : p = (key, value) ∨ p ∈ d := by
  induction d with
  | nil => exact .inl (List.mem_singleton.mp h)
  | cons q d ih =>
      unfold dictSet at h
      split at h
      · rcases List.mem_cons.mp h with h | h
        · exact .inl h
        · exact .inr (List.mem_cons_of_mem q h)
      · rcases List.mem_cons.mp h with rfl | h
        · exact .inr (List.mem_cons_self ..)
        · exact (ih h).imp id (List.mem_cons_of_mem q)

/-- Every entry of the safe payload was put there by an entry of the payload. -/
theorem mem_safeAdminActionPayload {payload : List (PyStr × Json)} {p : PyStr × PyStr}
    (h : p ∈ safeAdminActionPayload ops payload) :
    p.1 ∈ safePayloadKeys ∧ p.2 ≠ [] ∧
      ∃ entry ∈ payload, p.2 = normalText ops (valueText ops entry.2) := by
  unfold safeAdminActionPayload at h
  induction payload using List.reverseRecOn with
  | nil => cases h
  | append_singleton payload entry ih =>
      rw [List.foldl_append, List.foldl_cons, List.foldl_nil] at h
      have hold : p ∈ payload.foldl (safeEntry ops) [] → p.1 ∈ safePayloadKeys ∧ p.2 ≠ [] ∧
          ∃ e ∈ payload ++ [entry], p.2 = normalText ops (valueText ops e.2) := by
        intro hp
        obtain ⟨hkey, hne, e, he, htext⟩ := ih hp
        exact ⟨hkey, hne, e, List.mem_append_left _ he, htext⟩
      unfold safeEntry at h
      split at h
      · next hkey =>
          split at h
          · exact hold h
          · next hne =>
              rcases mem_dictSet h with rfl | hp
              · exact ⟨hkey, hne, entry, List.mem_append_right _ (List.mem_singleton.mpr rfl), rfl⟩
              · exact hold hp
      · exact hold h

theorem nodup_safeAdminActionPayload (payload : List (PyStr × Json)) :
    ((safeAdminActionPayload ops payload).map Prod.fst).Nodup := by
  unfold safeAdminActionPayload
  induction payload using List.reverseRecOn with
  | nil => exact List.nodup_nil
  | append_singleton payload entry ih =>
      rw [List.foldl_append, List.foldl_cons, List.foldl_nil]
      unfold safeEntry
      split
      · split
        · exact ih
        · exact nodup_dictSet ih
      · exact ih

theorem ascii_safePayloadKey {key : PyStr} (h : key ∈ safePayloadKeys) : key.Ascii := by
  revert key
  decide

theorem strip_safePayloadKey {key : PyStr} (h : key ∈ safePayloadKeys) : key.strip = key := by
  revert key
  decide

end Safe

/-! ### Normal texts -/

section Normal

variable (ops : TextOps)

theorem normalText_ascii {s : PyStr} (h : s.Ascii) :
    normalText ops s = s.strip.map lowerCode :=
  ops.casefold_ascii _ (ascii_strip h)

theorem ascii_normalText {s : PyStr} (h : s.Ascii) : (normalText ops s).Ascii := by
  rw [normalText_ascii ops h]
  exact ascii_lower (ascii_strip h)

theorem normalText_normalText {s : PyStr} (h : s.Ascii) :
    normalText ops (normalText ops s) = normalText ops s := by
  rw [normalText_ascii ops (ascii_normalText ops h), normalText_ascii ops h, strip_map_lowerCode,
    strip_strip, map_lowerCode_idem]

theorem valueText_str (s : PyStr) : valueText ops (.str s) = s := by
  unfold valueText truthy
  by_cases h : s = []
  · simp [h, ops.str_str]
  · simp [h, ops.str_str]

end Normal

/-! ### Texts of the code -/

theorem codes_append {P : ℕ → Prop} {s t : String} (hs : ∀ n ∈ PyStr.ofString s, P n)
    (ht : ∀ n ∈ PyStr.ofString t, P n) : ∀ n ∈ PyStr.ofString (s ++ t), P n := by
  unfold PyStr.ofString at *
  rw [String.toList_append, List.map_append]
  intro n hn
  exact (List.mem_append.mp hn).elim (hs n) (ht n)

theorem codes_digits {l : List Char} (h : ∀ c ∈ l, c.isDigit = true) :
    ∀ n ∈ PyStr.ofString (String.ofList l), 48 ≤ n ∧ n ≤ 57 := by
  unfold PyStr.ofString
  rw [String.toList_ofList]
  intro n hn
  obtain ⟨c, hc, rfl⟩ := List.mem_map.mp hn
  have hdigit := h c hc
  simp only [Char.isDigit, Bool.and_eq_true, decide_eq_true_eq, UInt32.le_iff_toNat_le] at hdigit
  exact hdigit

/-- Digits and the separators of a timestamp. -/
def isoCode (n : ℕ) : Bool := (48 ≤ n && n ≤ 57) || n ∈ [43, 45, 46, 58, 84]

theorem isoCode_zeroFill (width : ℕ) (n : ℤ) :
    ∀ m ∈ PyStr.ofString (zeroFill width n), isoCode m = true := by
  intro m hm
  have hdigit : 48 ≤ m ∧ m ≤ 57 := by
    refine codes_digits (fun c hc => ?_) m hm
    rcases List.mem_append.mp hc with hc | hc
    · rw [List.eq_of_mem_replicate hc]
      rfl
    · exact Nat.isDigit_of_mem_toDigits (by decide) (by decide) hc
  simp [isoCode, hdigit]

theorem isoCode_fraction (micros : ℤ) :
    ∀ n ∈ PyStr.ofString (fraction micros), isoCode n = true := by
  unfold fraction
  split
  · decide
  · exact codes_append (by decide) (isoCode_zeroFill _ _)

theorem isoCode_isoOffset (instant : ℤ) :
    ∀ n ∈ PyStr.ofString (isoOffset instant), isoCode n = true := by
  have hseparator : ∀ (t : String) (width : ℕ) (n : ℤ) (s : String),
      (∀ n ∈ PyStr.ofString t, isoCode n = true) → (∀ n ∈ PyStr.ofString s, isoCode n = true) →
      ∀ m ∈ PyStr.ofString (s ++ t ++ zeroFill width n), isoCode m = true :=
    fun t width n s ht hs => codes_append (codes_append hs ht) (isoCode_zeroFill width n)
  unfold isoOffset isoFormat
  generalize civilFromDays (instant / 1000000 / 86400) = date
  obtain ⟨year, month, day⟩ := date
  refine codes_append (codes_append ?_ (isoCode_fraction _)) (by decide)
  refine hseparator _ _ _ _ (by decide) (hseparator _ _ _ _ (by decide) (hseparator _ _ _ _
    (by decide) (hseparator _ _ _ _ (by decide) (hseparator _ _ _ _ (by decide) ?_))))
  exact isoCode_zeroFill _ _

theorem lt_of_isoCode {n : ℕ} (h : isoCode n = true) : n < 85 := by
  simp only [isoCode, Bool.or_eq_true, Bool.and_eq_true, decide_eq_true_eq, List.mem_cons,
    List.not_mem_nil, or_false] at h
  omega

/-- A timestamp has no blanks. -/
theorem strip_isoOffset (instant : ℤ) :
    (PyStr.ofString (isoOffset instant)).strip = PyStr.ofString (isoOffset instant) := by
  refine strip_of_no_space fun n hn => ?_
  have hcode := isoCode_isoOffset instant n hn
  have hspace : ∀ i : Fin 85, isoCode i = true → PyStr.strip.spaceCode i = false := by decide
  exact hspace ⟨n, lt_of_isoCode hcode⟩ hcode

theorem idText_injective {id id' : ℤ} (h : idText id = idText id') : id = id' := by
  have hchars : dumpsInt id = dumpsInt id' := String.ofList_injective h
  have hdigit : ∀ n : ℕ, ∀ l : List Char, '-' :: l ≠ Nat.toDigits 10 n := by
    intro n l heq
    have hminus : '-' ∈ Nat.toDigits 10 n := heq ▸ List.mem_cons_self ..
    exact absurd (Nat.isDigit_of_mem_toDigits (by decide) (by decide) hminus) (by decide)
  have habs : ∀ n m : ℕ, Nat.toDigits 10 n = Nat.toDigits 10 m → n = m := by
    intro n m heq
    rw [← @Nat.ofDigitChars_ten_toDigits n, heq, Nat.ofDigitChars_ten_toDigits]
  unfold dumpsInt at hchars
  split at hchars
  · split at hchars
    · have := habs _ _ (List.cons.inj hchars).2
      omega
    · exact absurd hchars (hdigit _ _)
  · split at hchars
    · exact absurd hchars.symm (hdigit _ _)
    · have := habs _ _ hchars
      omega

theorem ascii_isoOffset (instant : ℤ) : (PyStr.ofString (isoOffset instant)).Ascii := by
  intro n hn
  have := lt_of_isoCode (isoCode_isoOffset instant n hn)
  omega

theorem ascii_idText (id : ℤ) : (PyStr.ofString (idText id)).Ascii := by
  have hdigits : ∀ n ∈ PyStr.ofString (String.ofList (Nat.toDigits 10 id.natAbs)), n < 128 := by
    intro n hn
    have := codes_digits (fun c hc => Nat.isDigit_of_mem_toDigits (by decide) (by decide) hc) n hn
    omega
  unfold idText dumpsInt
  split
  · have happend : String.ofList ('-' :: Nat.toDigits 10 id.natAbs) =
        "-" ++ String.ofList (Nat.toDigits 10 id.natAbs) := @String.ofList_append ['-'] _
    rw [happend]
    exact codes_append (by decide) hdigits
  · exact hdigits

theorem ascii_operationType (op : AdminOperation) : (PyStr.ofString op.operationType).Ascii := by
  cases op with
  | staff action => cases action <;> decide
  | recovery decision => cases decision <;> decide
  | recoveryComplete => decide
  | securityUnlock lockReason lockedAt =>
      show (PyStr.ofString "customer_security_unlock").Ascii
      decide

/-- The values of a new payload are ASCII texts. -/
theorem ascii_payload (op : AdminOperation) : ∀ entry ∈ op.payload, ∃ text : String,
    entry.2 = textField text ∧ (PyStr.ofString text).Ascii := by
  intro entry hentry
  cases op with
  | staff action =>
      rw [List.mem_singleton.mp hentry]
      exact ⟨_, rfl, by cases action <;> decide⟩
  | recovery decision =>
      rw [List.mem_singleton.mp hentry]
      exact ⟨_, rfl, by cases decision <;> decide⟩
  | recoveryComplete =>
      rw [List.mem_singleton.mp hentry]
      exact ⟨_, rfl, by decide⟩
  | securityUnlock lockReason lockedAt =>
      have hreason : (PyStr.ofString (lockReasonText lockReason)).Ascii := by
        rcases lockReason with _ | reason
        · decide
        · cases reason <;> decide
      have hlocked : (PyStr.ofString (lockedAtText lockedAt)).Ascii := by
        rcases lockedAt with _ | instant
        · decide
        · exact ascii_isoOffset instant
      simp only [AdminOperation.payload, List.mem_cons, List.not_mem_nil, or_false] at hentry
      rcases hentry with rfl | rfl | rfl
      · exact ⟨_, rfl, by decide⟩
      · exact ⟨_, rfl, hreason⟩
      · exact ⟨_, rfl, hlocked⟩

/-! ### Payloads without collisions -/

section Unambiguous

variable {ops : TextOps}

/-- No two keys agree up to blanks, and none has blanks. -/
structure Unambiguous (payload : List (PyStr × Json)) : Prop where
  nodup : (payload.map Prod.fst).Nodup
  stripped : ∀ entry ∈ payload, entry.1.strip = entry.1

theorem normalText_nil : normalText ops [] = [] :=
  ops.casefold_ascii [] fun _ h => (nomatch h)

/-- Such a payload is signed as the executor reads it. -/
theorem Unambiguous.lastText {payload : List (PyStr × Json)} (h : Unambiguous payload)
    (key : PyStr) : (lastText ops payload key).getD [] =
      normalText ops (match payload.lookup key with
        | none => ops.str (.str [])
        | some value => valueText ops value) := by
  induction payload with
  | nil =>
      show ([] : PyStr) = normalText ops (ops.str (.str []))
      rw [ops.str_str, normalText_nil]
  | cons entry payload ih =>
      obtain ⟨hnew, hnodup⟩ := List.nodup_cons.mp h.nodup
      have hrest : Unambiguous payload :=
        ⟨hnodup, fun e he => h.stripped e (List.mem_cons_of_mem entry he)⟩
      rw [lookup_cons_if]
      unfold Admin.lastText at ih ⊢
      by_cases hkey : key = entry.1
      · -- no later entry has this key
        have hnone : payload.filter (claims ops key) = [] := by
          refine List.filter_eq_nil_iff.mpr fun e he hclaims => ?_
          have hstrip : e.1.strip = key := by
            simp only [claims, Bool.and_eq_true, decide_eq_true_eq] at hclaims
            exact hclaims.1
          rw [hrest.stripped e he, hkey] at hstrip
          exact hnew (List.mem_map.mpr ⟨e, he, hstrip⟩)
        rw [if_pos hkey, List.filter_cons, hnone]
        by_cases hblank : normalText ops (valueText ops entry.2) = []
        · simp [claims, hblank]
        · have hstrip := h.stripped entry (List.mem_cons_self ..)
          simp [claims, hblank, hkey, hstrip]
      · have hclaims : ¬claims ops key entry = true := by
          have hstrip := h.stripped entry (List.mem_cons_self ..)
          simp only [claims, Bool.and_eq_true, decide_eq_true_eq, hstrip]
          exact fun hc => hkey hc.1.symm
        rw [if_neg hkey, List.filter_cons_of_neg hclaims]
        exact ih hrest

/-- The keys that the code writes. -/
theorem unambiguous_of_keys {payload : List (PyStr × Json)} {l : List PyStr}
    (h : payload.map Prod.fst = l) (hnodup : l.Nodup) (hsafe : ∀ key ∈ l, key ∈ safePayloadKeys) :
    Unambiguous payload := by
  refine ⟨h ▸ hnodup, fun entry hentry => strip_safePayloadKey (hsafe _ ?_)⟩
  rw [← h]
  exact List.mem_map.mpr ⟨entry, hentry, rfl⟩

theorem unambiguous_payload (op : AdminOperation) : Unambiguous op.payload := by
  cases op with
  | staff action => exact unambiguous_of_keys (l := [actionKey]) rfl (by decide) (by decide)
  | recovery decision => exact unambiguous_of_keys (l := [statusKey]) rfl (by decide) (by decide)
  | recoveryComplete => exact unambiguous_of_keys (l := [actionKey]) rfl (by decide) (by decide)
  | securityUnlock lockReason lockedAt =>
      exact unambiguous_of_keys (l := [actionKey, lockReasonKey, lockedAtKey]) rfl (by decide)
        (by decide)

theorem map_fst_strPairs (d : List (PyStr × PyStr)) :
    (strPairs d).map Prod.fst = d.map Prod.fst := by
  unfold strPairs
  rw [List.map_map]
  rfl

theorem unambiguous_stored (ops : TextOps) (payload : List (PyStr × Json)) :
    Unambiguous (strPairs (safeAdminActionPayload ops payload)) := by
  refine unambiguous_of_keys (map_fst_strPairs _) (nodup_safeAdminActionPayload ops payload) ?_
  intro key hkey
  obtain ⟨p, hp, rfl⟩ := List.mem_map.mp hkey
  exact (mem_safeAdminActionPayload ops hp).1

end Unambiguous

/-! ### The request that was signed -/

/-- The operation, its target and its parameters as they were signed. -/
def NewRequest.signedCall (ops : TextOps) (n : NewRequest) : ExecutorCall :=
  match n.operation with
  | .staff action =>
      .staffAccountLifecycle (idText n.targetId) (normalText ops (.ofString action.text))
  | .recovery decision =>
      .transitionManualRecovery (idText n.targetId) (normalText ops (.ofString decision.text))
  | .recoveryComplete => .completeManualRecovery (idText n.targetId)
  | .securityUnlock lockReason lockedAt =>
      .customerSecurityUnlock (idText n.targetId)
        (normalText ops (.ofString (lockReasonText lockReason)))
        (normalText ops (.ofString (lockedAtText lockedAt)))

/-- The parameter that was signed under a key. -/
def NewRequest.signedText (ops : TextOps) (n : NewRequest) (key : PyStr) : PyStr :=
  (lastText ops n.operation.payload key).getD []

section Created

variable (cfg : ActionConfig) (n : NewRequest)

theorem lookup_strPairs (d : List (PyStr × PyStr)) (key : PyStr) :
    (strPairs d).lookup key = (d.lookup key).map Json.str := by
  induction d with
  | nil => rfl
  | cons p d ih =>
      show ((p.1, Json.str p.2) :: strPairs d).lookup key = _
      rw [lookup_cons_if, lookup_cons_if, ih]
      split <;> rfl

/-- The executor finds what was signed. -/
theorem payloadText_created {key : PyStr} (hkey : key ∈ safePayloadKeys) :
    payloadText cfg.toTextOps (createAdminActionRequest cfg n) key =
      n.signedText cfg.toTextOps key := by
  have hlookup := lookup_safeAdminActionPayload cfg.toTextOps hkey n.operation.payload
  unfold payloadText NewRequest.signedText
  show (match (strPairs _).lookup key with
    | none => _
    | some value => _) = _
  rw [lookup_strPairs, hlookup]
  cases lastText cfg.toTextOps n.operation.payload key with
  | none => exact cfg.str_str []
  | some text => exact valueText_str cfg.toTextOps text

theorem normalText_signedText (key : PyStr) :
    normalText cfg.toTextOps (n.signedText cfg.toTextOps key) = n.signedText cfg.toTextOps key := by
  unfold NewRequest.signedText lastText
  cases hlast : (n.operation.payload.filter (claims cfg.toTextOps key)).getLast? with
  | none => exact normalText_nil
  | some entry =>
      have hmem := (List.mem_filter.mp (List.mem_of_getLast? hlast)).1
      obtain ⟨text, htext, hascii⟩ := ascii_payload n.operation entry hmem
      show normalText _ (normalText _ (valueText _ entry.2)) = normalText _ (valueText _ entry.2)
      rw [htext, textField, valueText_str]
      exact normalText_normalText cfg.toTextOps hascii

/-- It is signed again as it was signed first. -/
theorem lastText_created (key : PyStr) :
    (lastText cfg.toTextOps (createAdminActionRequest cfg n).operationPayload key).getD [] =
      normalText cfg.toTextOps (payloadText cfg.toTextOps (createAdminActionRequest cfg n) key) :=
  (unambiguous_stored cfg.toTextOps n.operation.payload).lastText key

/-- What the payload of the operation says under a key. -/
theorem payloadText_of_lookup {key : PyStr} {text : String} (hkey : key ∈ safePayloadKeys)
    (hlookup : n.operation.payload.lookup key = some (textField text)) :
    payloadText cfg.toTextOps (createAdminActionRequest cfg n) key =
      normalText cfg.toTextOps (.ofString text) := by
  rw [payloadText_created cfg n hkey, NewRequest.signedText,
    (unambiguous_payload n.operation).lastText, hlookup]
  show normalText _ (valueText _ (.str _)) = _
  rw [valueText_str]

theorem execute_created :
    executeAdminActionRequest cfg.toTextOps (createAdminActionRequest cfg n) =
      n.signedCall cfg.toTextOps := by
  have hread := fun {key : PyStr} {text : String} => @payloadText_of_lookup cfg n key text
  have hnormal : ∀ {key : PyStr} {text : String}, key ∈ safePayloadKeys →
      n.operation.payload.lookup key = some (textField text) →
      normalText cfg.toTextOps (payloadText cfg.toTextOps (createAdminActionRequest cfg n) key) =
        normalText cfg.toTextOps (.ofString text) := by
    intro key text hkey hlookup
    rw [← hread hkey hlookup, payloadText_created cfg n hkey, normalText_signedText]
  have htype : (createAdminActionRequest cfg n).operationType = n.operation.operationType := rfl
  unfold executeAdminActionRequest NewRequest.signedCall
  rw [htype]
  cases hop : n.operation with
  | staff action =>
      have hkind : operationKind (AdminOperation.staff action).operationType = .staffLifecycle := by
        cases action <;> rfl
      rw [hkind]
      dsimp only
      rw [hnormal (by decide) (by rw [hop]; rfl)]
      rfl
  | recovery decision =>
      have hkind : operationKind (AdminOperation.recovery decision).operationType =
          .recoveryTransition := by
        cases decision <;> rfl
      rw [hkind]
      dsimp only
      rw [hnormal (by decide) (by rw [hop]; rfl)]
      rfl
  | recoveryComplete => rfl
  | securityUnlock lockReason lockedAt =>
      have hkind : operationKind (AdminOperation.securityUnlock lockReason lockedAt).operationType =
          .securityUnlock := rfl
      rw [hkind]
      dsimp only
      rw [hread (by decide) (by rw [hop]; rfl), hread (by decide) (by rw [hop]; rfl)]
      rfl

end Created

/-! ### The signature -/

/-- The fields in the order in which they are written. -/
theorem sortKeys_hmacFields (ops : TextOps) (r : AdminActionRequest) :
    sortKeys (.obj (hmacFields ops r)) = .obj
      [(.ofString "created_at", sortKeys (textField (isoOffset r.createdAt))),
        (.ofString "expires_at", sortKeys (textField (isoOffset r.expiresAt))),
        (.ofString "id", sortKeys (.int r.id)),
        (.ofString "operation_payload",
          sortKeys (.obj (strPairs (safeAdminActionPayload ops r.operationPayload)))),
        (.ofString "operation_type", sortKeys (textField r.operationType)),
        (.ofString "reason_length", sortKeys (.int r.reasonLength)),
        (.ofString "reason_present", sortKeys (.bool r.reasonPresent)),
        (.ofString "requester_id", sortKeys (.int r.requesterId)),
        (.ofString "requester_role", sortKeys (textField r.requesterRole)),
        (.ofString "target_id", sortKeys (textField r.targetId)),
        (.ofString "target_type", sortKeys (textField r.targetType))] := by
  rw [sortKeys, hmacFields]
  simp only [sortKeysPairs]
  rfl

theorem dumps_of_hmacMessage_eq {ops : TextOps} {r r' : AdminActionRequest}
    (h : hmacMessage ops r = hmacMessage ops r') :
    dumps (sortKeys (.obj (strPairs (safeAdminActionPayload ops r.operationPayload)))) =
        dumps (sortKeys (.obj (strPairs (safeAdminActionPayload ops r'.operationPayload)))) ∧
      dumps (sortKeys (textField r.operationType)) = dumps (sortKeys (textField r'.operationType)) ∧
      dumps (sortKeys (textField r.targetId)) = dumps (sortKeys (textField r'.targetId)) := by
  unfold hmacMessage at h
  have hobj := List.append_cancel_left h
  rw [sortKeys_hmacFields, sortKeys_hmacFields, dumps, dumps] at hobj
  obtain ⟨_, h⟩ := dumpsPairs_inj ((List.cons_inj_right '{').mp hobj)
  obtain ⟨_, h⟩ := dumpsPairs_inj h
  obtain ⟨_, h⟩ := dumpsPairs_inj h
  obtain ⟨hpayload, h⟩ := dumpsPairs_inj h
  obtain ⟨htype, h⟩ := dumpsPairs_inj h
  obtain ⟨_, h⟩ := dumpsPairs_inj h
  obtain ⟨_, h⟩ := dumpsPairs_inj h
  obtain ⟨_, h⟩ := dumpsPairs_inj h
  obtain ⟨_, h⟩ := dumpsPairs_inj h
  obtain ⟨htarget, _⟩ := dumpsPairs_inj h
  exact ⟨hpayload, htype, htarget⟩

theorem ofString_code (s : String) : ∀ n ∈ PyStr.ofString s, n ≤ 0x10FFFF := by
  intro n hn
  obtain ⟨c, -, rfl⟩ := List.mem_map.mp hn
  have hvalid : c.toNat < 0xD800 ∨ 0xDFFF < c.toNat ∧ c.toNat < 0x110000 := c.valid
  omega

theorem textField_inj {s s' : String} (hs : (PyStr.ofString s).Ascii)
    (h : dumps (sortKeys (textField s)) = dumps (sortKeys (textField s'))) : s = s' := by
  unfold textField at h
  rw [sortKeys, sortKeys, dumps, dumps] at h
  have happend : dumpsStr (.ofString s) ++ [] = dumpsStr (.ofString s') ++ [] := by
    rw [h]
  exact ofString_injective (dumpsStr_append_inj hs (ofString_code s') happend).1

/-- The parameters that the executor reads are those that the signature covers: the
entry under the exact key says what the last entry says whose key agrees with it up
to blanks. The action and the status may differ in blanks and case, which the
executor takes away; the lock reason and the lock time may not. -/
def ReadsAsSigned (ops : TextOps) (r : AdminActionRequest) : Prop :=
  match operationKind r.operationType with
  | .staffLifecycle => normalText ops (payloadText ops r actionKey) =
      (lastText ops r.operationPayload actionKey).getD []
  | .recoveryTransition => normalText ops (payloadText ops r statusKey) =
      (lastText ops r.operationPayload statusKey).getD []
  | .recoveryComplete => True
  | .securityUnlock => payloadText ops r lockReasonKey =
        (lastText ops r.operationPayload lockReasonKey).getD [] ∧
      payloadText ops r lockedAtKey = (lastText ops r.operationPayload lockedAtKey).getD []
  | .unknown => True

section Integrity

variable {cfg : ActionConfig} {n : NewRequest} {r : AdminActionRequest}

/-- What one message says. -/
theorem eq_of_hmacMessage_eq
    (h : hmacMessage cfg.toTextOps r =
      hmacMessage cfg.toTextOps (createAdminActionRequest cfg n)) :
    r.operationType = n.operation.operationType ∧ r.targetId = idText n.targetId ∧
      ∀ key ∈ safePayloadKeys, (lastText cfg.toTextOps r.operationPayload key).getD [] =
        n.signedText cfg.toTextOps key := by
  obtain ⟨hpayload, htype, htarget⟩ := dumps_of_hmacMessage_eq h
  refine ⟨(textField_inj (ascii_operationType n.operation) htype.symm).symm,
    (textField_inj (ascii_idText n.targetId) htarget.symm).symm, fun key hkey => ?_⟩
  have hsigned : ∀ p ∈ safeAdminActionPayload cfg.toTextOps
      (createAdminActionRequest cfg n).operationPayload, p.1.Ascii ∧ p.2.Ascii := by
    intro p hp
    obtain ⟨hpkey, -, entry, hentry, htext⟩ := mem_safeAdminActionPayload cfg.toTextOps hp
    refine ⟨ascii_safePayloadKey hpkey, ?_⟩
    obtain ⟨q, hq, rfl⟩ := List.mem_map.mp hentry
    obtain ⟨-, -, entry₀, hentry₀, htext₀⟩ := mem_safeAdminActionPayload cfg.toTextOps hq
    obtain ⟨text, hfield, hascii⟩ := ascii_payload n.operation entry₀ hentry₀
    rw [htext, valueText_str, htext₀, hfield, textField, valueText_str]
    exact ascii_normalText _ (ascii_normalText _ hascii)
  have hread : ∀ p ∈ safeAdminActionPayload cfg.toTextOps r.operationPayload,
      p.1.Ascii ∧ ∀ n ∈ p.2, n ≤ 0x10FFFF := by
    intro p hp
    obtain ⟨hpkey, -, entry, -, htext⟩ := mem_safeAdminActionPayload cfg.toTextOps hp
    refine ⟨ascii_safePayloadKey hpkey, ?_⟩
    rw [htext]
    exact cfg.casefold_code _
  have hlookup := lookup_eq_of_dumps hsigned (nodup_safeAdminActionPayload ..) hread
    (nodup_safeAdminActionPayload ..) hpayload.symm key
  rw [lookup_safeAdminActionPayload cfg.toTextOps hkey,
    lookup_safeAdminActionPayload cfg.toTextOps hkey] at hlookup
  rw [← hlookup, lastText_created, payloadText_created cfg n hkey, normalText_signedText]

/-- A request that passes the signature check is executed as it was signed exactly
where the executor reads the parameters that the signature covers. -/
theorem executes_as_signed_iff
    (hstored : r.metadataHmac = (createAdminActionRequest cfg n).metadataHmac)
    (hunforgeable : adminActionRequestHmac cfg r =
        adminActionRequestHmac cfg (createAdminActionRequest cfg n) →
      hmacMessage cfg.toTextOps r = hmacMessage cfg.toTextOps (createAdminActionRequest cfg n))
    (hvalid : hmacValid cfg r = true) :
    executeAdminActionRequest cfg.toTextOps r = n.signedCall cfg.toTextOps ↔
      ReadsAsSigned cfg.toTextOps r := by
  have htag : adminActionRequestHmac cfg r =
      adminActionRequestHmac cfg (createAdminActionRequest cfg n) := by
    rw [← of_decide_eq_true hvalid, hstored]
    rfl
  obtain ⟨htype, htarget, hsigned⟩ := eq_of_hmacMessage_eq (hunforgeable htag)
  rw [← execute_created]
  have hcreated : ∀ key ∈ safePayloadKeys,
      payloadText cfg.toTextOps (createAdminActionRequest cfg n) key =
        (lastText cfg.toTextOps r.operationPayload key).getD [] := fun key hkey => by
    rw [hsigned key hkey, payloadText_created cfg n hkey]
  have hnormal : ∀ key ∈ safePayloadKeys, normalText cfg.toTextOps
      (payloadText cfg.toTextOps (createAdminActionRequest cfg n) key) =
        (lastText cfg.toTextOps r.operationPayload key).getD [] := fun key hkey => by
    rw [hsigned key hkey, payloadText_created cfg n hkey, normalText_signedText]
  have htype₀ : (createAdminActionRequest cfg n).operationType = r.operationType := htype.symm
  have htarget₀ : (createAdminActionRequest cfg n).targetId = r.targetId := htarget.symm
  unfold executeAdminActionRequest ReadsAsSigned
  rw [htype₀, htarget₀]
  cases operationKind r.operationType with
  | staffLifecycle =>
      dsimp only
      rw [hnormal actionKey (by decide)]
      simp
  | recoveryTransition =>
      dsimp only
      rw [hnormal statusKey (by decide)]
      simp
  | recoveryComplete => simp
  | securityUnlock =>
      dsimp only
      rw [hcreated lockReasonKey (by decide), hcreated lockedAtKey (by decide)]
      simp
  | unknown => simp

end Integrity

/-! ### A payload in which two keys collide -/

def sampleStr : Json → PyStr
  | .str s => s
  | value => .ofString (String.ofList (dumps value))

theorem sampleStr_str (s : PyStr) : sampleStr (.str s) = s := rfl

def sampleCasefold (s : PyStr) : PyStr := s.map fun n => min (lowerCode n) 0x10FFFF

theorem sampleCasefold_ascii (s : PyStr) (hs : s.Ascii) : sampleCasefold s = s.map lowerCode := by
  refine List.map_congr_left fun n hn => Nat.min_eq_left ?_
  have := ascii_lower hs (lowerCode n) (List.mem_map.mpr ⟨n, hn, rfl⟩)
  omega

theorem sampleCasefold_code (s : PyStr) : ∀ n ∈ sampleCasefold s, n ≤ 0x10FFFF := by
  intro n hn
  obtain ⟨m, -, rfl⟩ := List.mem_map.mp hn
  exact Nat.min_le_right ..

def sampleTextOps : TextOps where
  str := sampleStr
  str_str := sampleStr_str
  casefold := sampleCasefold
  casefold_ascii := sampleCasefold_ascii
  casefold_code := sampleCasefold_code

def sampleActionConfig : ActionConfig where
  toTextOps := sampleTextOps
  activeHmacHex m := String.ofList (List.replicate 64 (if m.length % 2 = 0 then 'a' else 'b'))

/-- A root administrator asks to deactivate a member of the staff. -/
def deactivation : NewRequest where
  operation := .staff .deactivate
  targetId := 7
  id := 1
  requesterId := 2
  requesterRole := "root_admin"
  reason := ""
  now := 0

/-- The row with another payload. -/
def altered (payload : List (PyStr × Json)) : AdminActionRequest :=
  { createAdminActionRequest sampleActionConfig deactivation with operationPayload := payload }

/-- A payload with another spelling of the same action. -/
def respelled : AdminActionRequest :=
  altered [(.ofString "note", .null), (actionKey, textField " Deactivate")]

theorem executes_as_signed_respelled :
    executeAdminActionRequest sampleTextOps respelled = deactivation.signedCall sampleTextOps := by
  have hmessage : hmacMessage sampleTextOps respelled = hmacMessage sampleTextOps
      (createAdminActionRequest sampleActionConfig deactivation) := by decide +kernel
  refine (@executes_as_signed_iff sampleActionConfig deactivation respelled rfl
    (fun _ => hmessage) ?_).mpr ?_
  · decide +kernel
  · show normalText sampleTextOps (payloadText sampleTextOps respelled actionKey) = _
    decide +kernel

/-- The entry under `action` says one thing and the last entry another. -/
def collided : AdminActionRequest :=
  altered [(actionKey, textField "reactivate"), (.ofString " action", textField "deactivate")]

theorem collided_payload_executed :
    collided.metadataHmac =
        (createAdminActionRequest sampleActionConfig deactivation).metadataHmac ∧
      hmacMessage sampleTextOps collided = hmacMessage sampleTextOps
        (createAdminActionRequest sampleActionConfig deactivation) ∧
      hmacValid sampleActionConfig collided = true ∧
      deactivation.signedCall sampleTextOps = .staffAccountLifecycle "7" (.ofString "deactivate") ∧
      executeAdminActionRequest sampleTextOps collided =
        .staffAccountLifecycle "7" (.ofString "reactivate") := by
  decide +kernel

end SitBank.Admin
