import SitBank.Python.DecimalValues
import SitBank.Python.Numerals

/-!
How amounts are read from texts: the amount of a top-up and the daily limits
(`parse_topup_amount` and `_resolve_daily_limit_choice` in `app/banking/services.py`).

Both quantize what they have read to cents before they look at the range. A number with
more places is then rounded to an amount that nobody has written; a NaN gets past
`quantize` and raises where it is compared, and a number of more than 28 digits raises in
`quantize` itself. The custom limits look at the places in the text, so there this needs
an exponent.
-/

namespace SitBank.Banking.Amounts

open SitBank.Python

/-! ### The source -/

inductive AmountError
  | auth (message : String) (status : ℕ)
  | invalidOperation
  deriving DecidableEq, Repr

def minTransactionAmount : Decimal := ⟨false, 1, -2⟩

def maxTransactionAmount : Decimal := ⟨false, 5000000, -2⟩

/-- The presets and the bounds of a daily limit. -/
structure LimitRules where
  presets : List PyStr
  minimum : Decimal
  maximum : Decimal

def payupDailyLimit : LimitRules where
  presets := [.ofString "100", .ofString "500", .ofString "1000", .ofString "3000",
    .ofString "5000", .ofString "10000"]
  minimum := ⟨false, 10000, -2⟩
  maximum := ⟨false, 1000000, -2⟩

def localTransferDailyLimit : LimitRules where
  presets := [.ofString "100", .ofString "500", .ofString "1000", .ofString "3000",
    .ofString "5000", .ofString "10000"]
  minimum := ⟨false, 10000, -2⟩
  maximum := ⟨false, 1000000, -2⟩

/-- `custom_text.rsplit(".", 1)[1]`. -/
def afterLastPoint (text : PyStr) : PyStr := text.rtakeWhile (· ≠ 46)

def invalidCustom : AmountError := .auth "Enter a valid custom amount." 400

section Source

-- `unicodedata.decimal` outside ASCII.
variable (decimal : ℕ → Option (Fin 10))

def parseTopupAmount (raw : PyStr) : Except AmountError Number :=
  match (decimalOfText decimal raw).bind Number.quantize with
  | none => .error (.auth "Enter a valid amount." 400)
  | some amount =>
      -- The comparisons stand outside of the `try`.
      match amount.lt (.finite minTransactionAmount),
        Number.lt (.finite maxTransactionAmount) amount with
      | some false, some false => .ok amount
      | none, _ | some false, none => .error .invalidOperation
      | _, _ => .error (.auth "Top-up amount is out of the allowed range." 400)

def resolveCustomDailyLimit (rules : LimitRules) (customValue : Option PyStr) :
    Except AmountError Number :=
  let customText := (customValue.getD []).strip
  if customText = [] then .error (.auth "Enter a custom amount." 400)
  else if 46 ∈ customText ∧ 2 < (afterLastPoint customText).length then
    .error (.auth "Custom amount must use cents precision." 400)
  else
    match decimalOfText decimal customText with
    | none => .error invalidCustom
    | some (.infinity _) => .error invalidCustom
    | some (.nan ..) => .error invalidCustom
    | some (.finite read) =>
        match read.quantize with
        | none => .error .invalidOperation
        | some amount =>
            if amount.lt rules.minimum then
              .error (.auth ("Custom amount must be at least SGD " ++
                rules.minimum.formatFixed ++ ".") 400)
            else if rules.maximum.lt amount then
              .error (.auth ("Custom amount must not exceed SGD " ++
                rules.maximum.formatFixed ++ ".") 400)
            else .ok (.finite amount)

def resolveDailyLimitChoice (rules : LimitRules) (choice : PyStr) (customValue : Option PyStr) :
    Except AmountError Number :=
  let choiceText := choice.strip
  if choiceText ∈ rules.presets then
    match (decimalOfText decimal choiceText).bind Number.quantize with
    | none => .error .invalidOperation
    | some amount => .ok amount
  else if choiceText = .ofString "custom" then resolveCustomDailyLimit decimal rules customValue
  else .error (.auth "Invalid limit selection." 400)

def resolveTransferLimitChoice (choice : PyStr) (customValue : Option PyStr) :
    Except AmountError Number := resolveDailyLimitChoice decimal payupDailyLimit choice customValue

def resolveLocalTransferLimitChoice (choice : PyStr) (customValue : Option PyStr) :
    Except AmountError Number :=
  resolveDailyLimitChoice decimal localTransferDailyLimit choice customValue

end Source

/-! ### Exact readers -/

/-- Nothing but an `AuthError` is raised, and what is returned is the written number, with
two places and in the range. -/
def Exact (written : Option Number) (lo hi : Decimal) : Except AmountError Number → Prop
  | .error (.auth ..) => True
  | .error .invalidOperation => False
  | .ok amount => ∃ d w, amount = .finite d ∧ written = some (.finite w) ∧ d.exponent = -2 ∧
      (lo.value ≤ d.value ∧ d.value ≤ hi.value) ∧ d.value = w.value

/-- What is written in the form of a daily limit: the custom value where it is asked for. -/
def writtenLimit (choice : PyStr) (customValue : Option PyStr) : PyStr :=
  if choice.strip = .ofString "custom" then (customValue.getD []).strip else choice.strip

/-- No NaN without signal, and no more than two places between half a cent and half a cent
above the maximum. -/
def TopupFine : Option Number → Prop
  | some (.nan _ false _) => False
  | some (.finite d) => d.WholeCents ∨ d.value ≤ 1 / 200 ∨ 50000 + 1 / 200 < d.value
  | _ => True

/-- The custom value gets as far as `quantize`. -/
def PlacesPass (text : PyStr) : Prop :=
  text ≠ [] ∧ (46 ∈ text → (afterLastPoint text).length ≤ 2)

/-- Numbers of at most 28 digits with two places, and no more places from half a cent below
the minimum to half a cent above the maximum. -/
def CustomFine (d : Decimal) : Prop :=
  d.cents < 10 ^ 28 - 1 / 2 ∧
    (d.WholeCents ∨ d.value < 100 - 1 / 200 ∨ 10000 + 1 / 200 < d.value)

def LimitFine (decimal : ℕ → Option (Fin 10)) (choice : PyStr)
    (customValue : Option PyStr) : Prop :=
  choice.strip = .ofString "custom" → PlacesPass (customValue.getD []).strip →
    ∀ d, decimalOfText decimal (customValue.getD []).strip = some (.finite d) → CustomFine d

/-! ### Comparisons -/

theorem value_eq_signed (d : Decimal) : d.value = d.signed * 10 ^ d.exponent := by
  unfold Decimal.value Decimal.signed
  split <;> simp

theorem lt_two_places {a b : Decimal} (ha : a.exponent = -2) (hb : b.exponent = -2) :
    a.lt b = true ↔ a.value < b.value := by
  have hpos : (0 : ℚ) < 10 ^ (-2 : ℤ) := by positivity
  rw [value_eq_signed, value_eq_signed, ha, hb, mul_lt_mul_iff_left₀ hpos, Decimal.lt, ha, hb]
  simp

/-- An amount of `k` cents. -/
theorem value_of_cents (k : ℕ) : (Decimal.mk false k (-2)).value = k / 100 := by
  rw [Decimal.value_two_places]
  simp

section Quantized

variable {d q : Decimal} {k : ℕ}

theorem quantized_value (hq : d.quantize = some q) :
    q.value = (if d.negative then -(d.rescaled divHalfEven : ℚ) else d.rescaled divHalfEven) /
      100 := by
  obtain ⟨-, rfl⟩ := d.quantize_eq_some_iff.mp hq
  exact Decimal.value_two_places ..

theorem quantized_exponent (hq : d.quantize = some q) : q.exponent = -2 := by
  obtain ⟨-, rfl⟩ := d.quantize_eq_some_iff.mp hq
  rfl

/-- Quantizing changes nothing exactly for whole cents. -/
theorem quantized_value_iff (hq : d.quantize = some q) : q.value = d.value ↔ d.WholeCents := by
  rw [quantized_value hq, d.value_eq_cents, ← d.rescaled_eq_iff]
  cases d.negative <;> simp

theorem quantized_below_iff (hq : d.quantize = some q) (hk : 0 < k) :
    q.lt ⟨false, k, -2⟩ = true ↔ d.negative = true ∨ d.rescaled divHalfEven < k := by
  have hpos : (0 : ℚ) < k := by exact_mod_cast hk
  have hround : (0 : ℚ) ≤ d.rescaled divHalfEven := Nat.cast_nonneg _
  rw [lt_two_places (quantized_exponent hq) rfl, value_of_cents, quantized_value hq,
    div_lt_div_iff_of_pos_right (by norm_num)]
  cases d.negative with
  | true =>
      refine iff_of_true ?_ (.inl rfl)
      simp only [if_true]
      linarith
  | false => simp

theorem quantized_above_iff (hq : d.quantize = some q) :
    Decimal.lt ⟨false, k, -2⟩ q = true ↔ d.negative = false ∧ k < d.rescaled divHalfEven := by
  have hk : (0 : ℚ) ≤ k := Nat.cast_nonneg k
  have hround : (0 : ℚ) ≤ d.rescaled divHalfEven := Nat.cast_nonneg _
  rw [lt_two_places rfl (quantized_exponent hq), value_of_cents, quantized_value hq,
    div_lt_div_iff_of_pos_right (by norm_num)]
  cases d.negative with
  | true =>
      refine iff_of_false ?_ (by simp)
      simp only [if_true]
      linarith
  | false => simp

/-- The bounds of the written number from which the rounded one is out of the range. -/
theorem value_le_iff {x : ℚ} (hx : 0 ≤ x) :
    (d.negative = true ∨ d.cents ≤ x) ↔ d.value ≤ x / 100 := by
  have hcents := d.cents_nonneg
  rw [d.value_eq_cents, div_le_div_iff_of_pos_right (by norm_num)]
  cases d.negative with
  | true =>
      refine iff_of_true (.inl rfl) ?_
      simp only [if_true]
      linarith
  | false => simp

theorem value_lt_iff {x : ℚ} (hx : 0 < x) :
    (d.negative = true ∨ d.cents < x) ↔ d.value < x / 100 := by
  have hcents := d.cents_nonneg
  rw [d.value_eq_cents, div_lt_div_iff_of_pos_right (by norm_num)]
  cases d.negative with
  | true =>
      refine iff_of_true (.inl rfl) ?_
      simp only [if_true]
      linarith
  | false => simp

theorem lt_value_iff {x : ℚ} (hx : 0 ≤ x) :
    (d.negative = false ∧ x < d.cents) ↔ x / 100 < d.value := by
  have hcents := d.cents_nonneg
  rw [d.value_eq_cents, div_lt_div_iff_of_pos_right (by norm_num)]
  cases d.negative with
  | true =>
      refine iff_of_false (by simp) ?_
      simp only [if_true]
      linarith
  | false => simp

/-- A returned amount in the range is the written one exactly for whole cents. -/
theorem exact_ok_iff {lo hi : Decimal} (hlo : lo.exponent = -2) (hhi : hi.exponent = -2)
    (hq : d.quantize = some q) (hbelow : q.lt lo = false) (habove : hi.lt q = false) :
    Exact (some (.finite d)) lo hi (.ok (.finite q)) ↔ d.WholeCents := by
  have hq₂ := quantized_exponent hq
  have hge : lo.value ≤ q.value := by
    rw [← not_lt, ← lt_two_places hq₂ hlo, hbelow]
    decide
  have hle : q.value ≤ hi.value := by
    rw [← not_lt, ← lt_two_places hhi hq₂, habove]
    decide
  rw [← quantized_value_iff hq]
  constructor
  · rintro ⟨_, _, ⟨⟩, ⟨⟩, -, -, hvalue⟩
    exact hvalue
  · intro hvalue
    exact ⟨q, d, rfl, rfl, hq₂, ⟨hge, hle⟩, hvalue⟩

/-! ### Top-ups -/

/-- Where the rounded amount of a top-up is out of the range. -/
theorem topup_outside_iff : (d.negative = true ∨ d.rescaled divHalfEven < 1) ∨
      (d.negative = false ∧ 5000000 < d.rescaled divHalfEven) ↔
    d.value ≤ 1 / 200 ∨ 50000 + 1 / 200 < d.value := by
  have hlow : d.rescaled divHalfEven < 1 ↔ d.cents ≤ 1 / 2 := by
    rw [Nat.lt_one_iff, ← Nat.le_zero, d.rescaled_le_iff rfl, Nat.cast_zero, zero_add]
  have hhigh : 5000000 < d.rescaled divHalfEven ↔ 5000000 + 1 / 2 < d.cents := by
    rw [← not_le, d.rescaled_le_iff rfl, not_le, Nat.cast_ofNat]
  rw [hlow, hhigh, value_le_iff (by norm_num), lt_value_iff (by norm_num)]
  norm_num

theorem parseTopupAmount_exact_iff (decimal : ℕ → Option (Fin 10)) (raw : PyStr) :
    Exact (decimalOfText decimal raw) minTransactionAmount maxTransactionAmount
      (parseTopupAmount decimal raw) ↔ TopupFine (decimalOfText decimal raw) := by
  unfold parseTopupAmount
  cases decimalOfText decimal raw with
  | none => exact Iff.rfl
  | some number =>
      cases number with
      | infinity negative => exact Iff.rfl
      | nan negative signaling payload => cases signaling <;> exact Iff.rfl
      | finite d =>
          have houtside := @topup_outside_iff d
          rw [Option.bind_some, Number.quantize]
          cases hq : d.quantize with
          | none =>
              -- Too many digits: out of the range as well.
              have hwide : 5000000 < d.rescaled divHalfEven := by
                have := (d.quantize_eq_none_iff.mp hq).not_gt
                rw [← d.rescaled_lt_prec] at this
                exact lt_of_lt_of_le (by decide) (Nat.not_lt.mp this)
              have hvalue : d.value ≤ 1 / 200 ∨ 50000 + 1 / 200 < d.value := by
                rw [← houtside]
                cases d.negative with
                | true => exact .inl (.inl rfl)
                | false => exact .inr ⟨rfl, hwide⟩
              exact iff_of_true trivial (.inr hvalue)
          | some q =>
              have hbelow := quantized_below_iff hq (show 0 < 1 by decide)
              have habove := @quantized_above_iff d q 5000000 hq
              rw [← hbelow, ← habove] at houtside
              simp only [Option.map_some, Number.lt, minTransactionAmount, maxTransactionAmount]
              cases hlow : q.lt ⟨false, 1, -2⟩ with
              | true =>
                  exact iff_of_true trivial (.inr (houtside.mp (.inl hlow)))
              | false =>
                  cases hhigh : Decimal.lt ⟨false, 5000000, -2⟩ q with
                  | true => exact iff_of_true trivial (.inr (houtside.mp (.inr hhigh)))
                  | false =>
                      have hinside : ¬(d.value ≤ 1 / 200 ∨ 50000 + 1 / 200 < d.value) := by
                        rw [← houtside, hlow, hhigh]
                        decide
                      refine (exact_ok_iff rfl rfl hq hlow hhigh).trans ?_
                      exact (or_iff_left hinside).symm

/-! ### Daily limits -/

/-- Where the rounded limit is out of the range. -/
theorem custom_outside_iff : (d.negative = true ∨ d.rescaled divHalfEven < 10000) ∨
      (d.negative = false ∧ 1000000 < d.rescaled divHalfEven) ↔
    d.value < 100 - 1 / 200 ∨ 10000 + 1 / 200 < d.value := by
  have hlow : d.rescaled divHalfEven < 10000 ↔ d.cents < 10000 - 1 / 2 := by
    rw [d.rescaled_lt_iff rfl, Nat.cast_ofNat]
  have hhigh : 1000000 < d.rescaled divHalfEven ↔ 1000000 + 1 / 2 < d.cents := by
    rw [← not_le, d.rescaled_le_iff rfl, not_le, Nat.cast_ofNat]
  rw [hlow, hhigh, value_lt_iff (by norm_num), lt_value_iff (by norm_num)]
  norm_num

/-- The bounds of the daily limits, and presets between them. -/
structure LimitRules.Standard (rules : LimitRules) : Prop where
  minimum : rules.minimum = ⟨false, 10000, -2⟩
  maximum : rules.maximum = ⟨false, 1000000, -2⟩
  presets : ∀ preset ∈ rules.presets, preset.Ascii ∧ ∃ n, 100 ≤ n ∧ n ≤ 10000 ∧
    decimalOfText (fun _ => none) preset = some (.finite ⟨false, n, 0⟩)

/-- The custom value from `quantize` on. -/
theorem custom_exact_iff {rules : LimitRules} (hr : rules.Standard) :
    Exact (some (.finite d)) rules.minimum rules.maximum
      (match d.quantize with
        | none => .error .invalidOperation
        | some amount =>
            if amount.lt rules.minimum then
              .error (.auth ("Custom amount must be at least SGD " ++
                rules.minimum.formatFixed ++ ".") 400)
            else if rules.maximum.lt amount then
              .error (.auth ("Custom amount must not exceed SGD " ++
                rules.maximum.formatFixed ++ ".") 400)
            else .ok (.finite amount)) ↔ CustomFine d := by
  have houtside := @custom_outside_iff d
  unfold CustomFine
  cases hq : d.quantize with
  | none =>
      have hwide := (d.quantize_eq_none_iff.mp hq).not_gt
      exact iff_of_false id fun h => hwide h.1
  | some q =>
      have hnarrow := (d.quantize_eq_some_iff.mp hq).1
      have hbelow := quantized_below_iff hq (show 0 < 10000 by decide)
      have habove := @quantized_above_iff d q 1000000 hq
      rw [← hbelow, ← habove, ← hr.minimum, ← hr.maximum] at houtside
      rw [and_iff_right hnarrow]
      dsimp only
      cases hlow : q.lt rules.minimum with
      | true => exact iff_of_true trivial (.inr (houtside.mp (.inl hlow)))
      | false =>
          cases hhigh : rules.maximum.lt q with
          | true => exact iff_of_true trivial (.inr (houtside.mp (.inr hhigh)))
          | false =>
              have hinside : ¬(d.value < 100 - 1 / 200 ∨ 10000 + 1 / 200 < d.value) := by
                rw [← houtside, hlow, hhigh]
                decide
              refine (exact_ok_iff (by rw [hr.minimum]) (by rw [hr.maximum]) hq hlow hhigh).trans ?_
              exact (or_iff_left hinside).symm

end Quantized

section Choices

variable {rules : LimitRules} (hr : rules.Standard) (decimal : ℕ → Option (Fin 10))
include hr

theorem preset_exact {preset : PyStr} (hp : preset ∈ rules.presets) :
    Exact (decimalOfText decimal preset) rules.minimum rules.maximum
      (match (decimalOfText decimal preset).bind Number.quantize with
        | none => .error .invalidOperation
        | some amount => .ok amount) := by
  obtain ⟨hascii, n, hlow, hhigh, hread⟩ := hr.presets preset hp
  have hwhole : (Decimal.mk false n 0).WholeCents := .inl (show (0 : ℤ) ≤ 0 + 2 by decide)
  have hrounded : (Decimal.mk false n 0).rescaled divHalfEven = n * 100 := rfl
  have hq : (Decimal.mk false n 0).quantize = some ⟨false, n * 100, -2⟩ := by
    rw [Decimal.quantize, hrounded, if_pos (by omega)]
  rw [decimalOfText_ascii decimal hascii, hread, Option.bind_some, Number.quantize, hq]
  refine (exact_ok_iff (by rw [hr.minimum]) (by rw [hr.maximum]) hq ?_ ?_).mpr hwhole
  · rw [hr.minimum, ← Bool.not_eq_true, quantized_below_iff hq (by decide), hrounded]
    simp only [Bool.false_eq_true, false_or]
    omega
  · rw [hr.maximum, ← Bool.not_eq_true, quantized_above_iff hq, hrounded]
    simp only [true_and]
    omega

theorem custom_not_preset : PyStr.ofString "custom" ∉ rules.presets := by
  intro hp
  obtain ⟨-, n, -, -, hread⟩ := hr.presets _ hp
  have hnone : decimalOfText (fun _ => none) (.ofString "custom") = none := by decide
  rw [hread] at hnone
  cases hnone

theorem resolveCustomDailyLimit_exact_iff (customValue : Option PyStr) :
    Exact (decimalOfText decimal (customValue.getD []).strip) rules.minimum rules.maximum
      (resolveCustomDailyLimit decimal rules customValue) ↔
        (PlacesPass (customValue.getD []).strip →
          ∀ d, decimalOfText decimal (customValue.getD []).strip = some (.finite d) →
            CustomFine d) := by
  unfold resolveCustomDailyLimit PlacesPass
  generalize (customValue.getD []).strip = text
  dsimp only
  by_cases hempty : text = []
  · rw [if_pos hempty]
    exact iff_of_true trivial fun hpass => absurd hempty hpass.1
  rw [if_neg hempty]
  by_cases hplaces : 46 ∈ text ∧ 2 < (afterLastPoint text).length
  · rw [if_pos hplaces]
    exact iff_of_true trivial fun hpass => absurd (hpass.2 hplaces.1) (Nat.not_le.mpr hplaces.2)
  rw [if_neg hplaces]
  have hpass : text ≠ [] ∧ (46 ∈ text → (afterLastPoint text).length ≤ 2) :=
    ⟨hempty, fun hpoint => Nat.not_lt.mp fun hlong => hplaces ⟨hpoint, hlong⟩⟩
  cases decimalOfText decimal text with
  | none => exact iff_of_true trivial nofun
  | some number =>
      cases number with
      | infinity negative => exact iff_of_true trivial nofun
      | nan negative signaling payload => exact iff_of_true trivial nofun
      | finite d =>
          refine (custom_exact_iff hr).trans ⟨fun h _ d' hd => ?_, fun h => h hpass d rfl⟩
          cases hd
          exact h

theorem resolveDailyLimitChoice_exact_iff (choice : PyStr) (customValue : Option PyStr) :
    Exact (decimalOfText decimal (writtenLimit choice customValue)) rules.minimum rules.maximum
      (resolveDailyLimitChoice decimal rules choice customValue) ↔
        LimitFine decimal choice customValue := by
  unfold resolveDailyLimitChoice writtenLimit LimitFine
  dsimp only
  by_cases hcustom : choice.strip = .ofString "custom"
  · have hpreset : choice.strip ∉ rules.presets := by
      rw [hcustom]
      exact custom_not_preset hr
    rw [if_pos hcustom, if_neg hpreset, if_pos hcustom, resolveCustomDailyLimit_exact_iff hr]
    exact ⟨fun h _ => h, fun h => h hcustom⟩
  · rw [if_neg hcustom]
    by_cases hpreset : choice.strip ∈ rules.presets
    · rw [if_pos hpreset]
      exact iff_of_true (preset_exact hr decimal hpreset) fun h => absurd h hcustom
    · rw [if_neg hpreset, if_neg hcustom]
      exact iff_of_true trivial fun h => absurd h hcustom

end Choices

theorem payupDailyLimit_standard : payupDailyLimit.Standard where
  minimum := rfl
  maximum := rfl
  presets := by
    simp only [payupDailyLimit, List.forall_mem_cons]
    exact ⟨⟨by decide, 100, by decide⟩, ⟨by decide, 500, by decide⟩, ⟨by decide, 1000, by decide⟩,
      ⟨by decide, 3000, by decide⟩, ⟨by decide, 5000, by decide⟩, ⟨by decide, 10000, by decide⟩,
      nofun⟩

theorem localTransferDailyLimit_standard : localTransferDailyLimit.Standard :=
  ⟨rfl, rfl, payupDailyLimit_standard.presets⟩

/-- The three readers raise nothing but `AuthError` and change no number exactly under
these conditions. -/
theorem amounts_exact_iff (decimal : ℕ → Option (Fin 10)) :
    (∀ raw, Exact (decimalOfText decimal raw) minTransactionAmount maxTransactionAmount
      (parseTopupAmount decimal raw) ↔ TopupFine (decimalOfText decimal raw)) ∧
    (∀ choice customValue, Exact (decimalOfText decimal (writtenLimit choice customValue))
      payupDailyLimit.minimum payupDailyLimit.maximum
      (resolveTransferLimitChoice decimal choice customValue) ↔
        LimitFine decimal choice customValue) ∧
    ∀ choice customValue, Exact (decimalOfText decimal (writtenLimit choice customValue))
      localTransferDailyLimit.minimum localTransferDailyLimit.maximum
      (resolveLocalTransferLimitChoice decimal choice customValue) ↔
        LimitFine decimal choice customValue :=
  ⟨parseTopupAmount_exact_iff decimal,
    resolveDailyLimitChoice_exact_iff payupDailyLimit_standard decimal,
    resolveDailyLimitChoice_exact_iff localTransferDailyLimit_standard decimal⟩

/-- A top-up of 1.005 is one of 1.00, a NaN raises, and so does a limit of 10^30; a limit of
250.001, written with an exponent, is one of 250.00. -/
theorem amounts_rounded :
    (parseTopupAmount (fun _ => none) (.ofString "1.005") = .ok (.finite ⟨false, 100, -2⟩) ∧
      ¬Exact (decimalOfText (fun _ => none) (.ofString "1.005")) minTransactionAmount
        maxTransactionAmount (parseTopupAmount (fun _ => none) (.ofString "1.005"))) ∧
    parseTopupAmount (fun _ => none) (.ofString "NaN") = .error .invalidOperation ∧
    resolveTransferLimitChoice (fun _ => none) (.ofString "custom") (some (.ofString "1e30")) =
      .error .invalidOperation ∧
    resolveLocalTransferLimitChoice (fun _ => none) (.ofString "custom")
      (some (.ofString "250001e-3")) = .ok (.finite ⟨false, 25000, -2⟩) := by
  have hrounded : parseTopupAmount (fun _ => none) (.ofString "1.005") =
      .ok (.finite ⟨false, 100, -2⟩) := by decide
  have hread : decimalOfText (fun _ => none) (.ofString "1.005") =
      some (.finite ⟨false, 1005, -3⟩) := by decide
  refine ⟨⟨hrounded, ?_⟩, by decide, by decide +kernel, by decide⟩
  rw [hrounded, hread]
  rintro ⟨_, _, ⟨⟩, ⟨⟩, -, -, hvalue⟩
  norm_num [Decimal.value] at hvalue

end SitBank.Banking.Amounts
