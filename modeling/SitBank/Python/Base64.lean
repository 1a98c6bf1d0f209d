import Mathlib.Algebra.Group.Nat.Defs
import SitBank.Python.Json

/-!
`base64.b64encode` and the strict `base64.b64decode` (`validate=True`), on the code
points of the text. Three bytes are four characters; the last group is padded. Bits
that the padding cuts off are not looked at, and padding after a group that needs none is
passed over.
-/

namespace SitBank.Python

/-! ### Characters -/

/-- The character of a value below 64. -/
def b64Char (n : ℕ) : ℕ :=
  if n < 26 then n + 65
  else if n < 52 then n + 71
  else if n < 62 then n - 4
  else if n = 62 then 43
  else 47

def b64Value (c : ℕ) : Option ℕ :=
  if 65 ≤ c ∧ c ≤ 90 then some (c - 65)
  else if 97 ≤ c ∧ c ≤ 122 then some (c - 71)
  else if 48 ≤ c ∧ c ≤ 57 then some (c + 4)
  else if c = 43 then some 62
  else if c = 47 then some 63
  else none

/-- `=`. -/
def b64Pad : ℕ := 61

theorem b64Value_b64Char {n : ℕ} (h : n < 64) : b64Value (b64Char n) = some n := by
  have hall : ∀ i : Fin 64, b64Value (b64Char i) = some i.val := by decide
  exact hall ⟨n, h⟩

theorem b64Char_ne_pad {n : ℕ} (h : n < 64) : b64Char n ≠ b64Pad := by
  have hall : ∀ i : Fin 64, b64Char i ≠ b64Pad := by decide
  exact hall ⟨n, h⟩

/-! ### Texts -/

/-- The character of the six bits above the lowest `6 * k`. -/
def b64Digit (v k : ℕ) : ℕ := b64Char (v / 64 ^ k % 64)

def b64encode : List UInt8 → PyStr
  | [] => []
  | [a] =>
      let v := a.toNat * 65536
      [b64Digit v 3, b64Digit v 2, b64Pad, b64Pad]
  | [a, b] =>
      let v := a.toNat * 65536 + b.toNat * 256
      [b64Digit v 3, b64Digit v 2, b64Digit v 1, b64Pad]
  | a :: b :: c :: bytes =>
      let v := a.toNat * 65536 + b.toNat * 256 + c.toNat
      b64Digit v 3 :: b64Digit v 2 :: b64Digit v 1 :: b64Digit v 0 :: b64encode bytes

/-- The value of a group of characters. -/
def b64Group : List ℕ → Option ℕ
  | [] => some 0
  | c :: group => do
      let n ← b64Value c
      let rest ← b64Group group
      pure (n * 64 ^ group.length + rest)

/-- Nothing but padding. -/
def allPads (text : PyStr) : Bool := text.all (· = b64Pad)

def b64Groups : PyStr → Option (List UInt8)
  | [] => some []
  | c₀ :: c₁ :: c₂ :: c₃ :: text =>
      if c₀ = b64Pad then if allPads (c₁ :: c₂ :: c₃ :: text) then some [] else none
      else if c₃ = b64Pad then
        -- padding that a group needs ends the text
        if text ≠ [] then none
        else if c₂ = b64Pad then do
          let v ← b64Group [c₀, c₁]
          pure [.ofNat (v / 16)]
        else do
          let v ← b64Group [c₀, c₁, c₂]
          pure [.ofNat (v / 1024), .ofNat (v / 4)]
      else do
        let v ← b64Group [c₀, c₁, c₂, c₃]
        let bytes ← b64Groups text
        pure (.ofNat (v / 65536) :: .ofNat (v / 256) :: .ofNat v :: bytes)
  | text => if allPads text then some [] else none

/-- A text does not begin with padding. -/
def b64decode (text : PyStr) : Option (List UInt8) :=
  if text.head? = some b64Pad then none else b64Groups text

/-! ### Round trip -/

theorem b64Value_b64Digit (v k : ℕ) : b64Value (b64Digit v k) = some (v / 64 ^ k % 64) :=
  b64Value_b64Char (Nat.mod_lt _ (by decide))

theorem b64Digit_ne_pad (v k : ℕ) : b64Digit v k ≠ b64Pad :=
  b64Char_ne_pad (Nat.mod_lt _ (by decide))

theorem ofNat_eq_of_mod {n : ℕ} {a : UInt8} (h : n % 256 = a.toNat) : UInt8.ofNat n = a := by
  rw [← UInt8.toNat_inj, UInt8.toNat_ofNat']
  exact h

theorem b64Group_digit {group : List ℕ} {rest : ℕ} (h : b64Group group = some rest) (v k : ℕ) :
    b64Group (b64Digit v k :: group) = some (v / 64 ^ k % 64 * 64 ^ group.length + rest) := by
  rw [b64Group, b64Value_b64Digit, h]
  rfl

theorem b64Groups_two (v : ℕ) (h : v < 16777216) (hv : v % 65536 = 0) :
    b64Groups [b64Digit v 3, b64Digit v 2, b64Pad, b64Pad] = some [.ofNat (v / 65536)] := by
  have hgroup : b64Group [b64Digit v 3, b64Digit v 2] = some (v / 65536 * 16) := by
    rw [b64Group_digit (b64Group_digit (rfl : b64Group [] = some 0) v 2) v 3]
    show some (v / 64 ^ 3 % 64 * 64 ^ 1 + (v / 64 ^ 2 % 64 * 64 ^ 0 + 0)) = _
    congr 1
    omega
  rw [b64Groups, if_neg (b64Digit_ne_pad _ _), if_pos rfl, if_neg (by simp), if_pos rfl, hgroup]
  show some [UInt8.ofNat (v / 65536 * 16 / 16)] = _
  rw [Nat.mul_div_cancel _ (by decide)]

theorem b64Groups_three (v : ℕ) (h : v < 16777216) (hv : v % 256 = 0) :
    b64Groups [b64Digit v 3, b64Digit v 2, b64Digit v 1, b64Pad] =
      some [.ofNat (v / 65536), .ofNat (v / 256)] := by
  have hgroup : b64Group [b64Digit v 3, b64Digit v 2, b64Digit v 1] = some (v / 256 * 4) := by
    rw [b64Group_digit (b64Group_digit (b64Group_digit
      (rfl : b64Group [] = some 0) v 1) v 2) v 3]
    show some (v / 64 ^ 3 % 64 * 64 ^ 2 + (v / 64 ^ 2 % 64 * 64 ^ 1 +
      (v / 64 ^ 1 % 64 * 64 ^ 0 + 0))) = _
    congr 1
    omega
  have hhigh : v / 256 * 4 / 1024 = v / 65536 := by
    omega
  rw [b64Groups, if_neg (b64Digit_ne_pad _ _), if_pos rfl, if_neg (by simp),
    if_neg (b64Digit_ne_pad _ _), hgroup]
  show some [UInt8.ofNat (v / 256 * 4 / 1024), UInt8.ofNat (v / 256 * 4 / 4)] = _
  rw [hhigh, Nat.mul_div_cancel _ (by decide)]

theorem b64Groups_four (v : ℕ) (h : v < 16777216) {text : PyStr} {bytes : List UInt8}
    (htext : b64Groups text = some bytes) :
    b64Groups (b64Digit v 3 :: b64Digit v 2 :: b64Digit v 1 :: b64Digit v 0 :: text) =
      some (.ofNat (v / 65536) :: .ofNat (v / 256) :: .ofNat v :: bytes) := by
  have hgroup : b64Group [b64Digit v 3, b64Digit v 2, b64Digit v 1, b64Digit v 0] = some v := by
    rw [b64Group_digit (b64Group_digit (b64Group_digit (b64Group_digit
      (rfl : b64Group [] = some 0) v 0) v 1) v 2) v 3]
    show some (v / 64 ^ 3 % 64 * 64 ^ 3 + (v / 64 ^ 2 % 64 * 64 ^ 2 +
      (v / 64 ^ 1 % 64 * 64 ^ 1 + (v / 64 ^ 0 % 64 * 64 ^ 0 + 0)))) = _
    congr 1
    omega
  rw [b64Groups, if_neg (b64Digit_ne_pad _ _), if_neg (b64Digit_ne_pad _ _), hgroup, htext]
  rfl

theorem b64Groups_b64encode (bytes : List UInt8) : b64Groups (b64encode bytes) = some bytes := by
  induction bytes using b64encode.induct with
  | case1 => rfl
  | case2 a =>
      have ha := a.toNat_lt
      have hdecode := b64Groups_two (a.toNat * 65536) (by omega) (by omega)
      rw [ofNat_eq_of_mod (a := a) (by omega)] at hdecode
      exact hdecode
  | case3 a b =>
      have ha := a.toNat_lt
      have hb := b.toNat_lt
      have hdecode := b64Groups_three (a.toNat * 65536 + b.toNat * 256) (by omega) (by omega)
      rw [ofNat_eq_of_mod (a := a) (by omega), ofNat_eq_of_mod (a := b) (by omega)] at hdecode
      exact hdecode
  | case4 a b c bytes ih =>
      have ha := a.toNat_lt
      have hb := b.toNat_lt
      have hc := c.toNat_lt
      have hdecode := b64Groups_four (a.toNat * 65536 + b.toNat * 256 + c.toNat) (by omega) ih
      rw [ofNat_eq_of_mod (a := a) (by omega), ofNat_eq_of_mod (a := b) (by omega),
        ofNat_eq_of_mod (a := c) (by omega)] at hdecode
      exact hdecode

theorem head_b64encode (bytes : List UInt8) : (b64encode bytes).head? ≠ some b64Pad := by
  have hdigit (v : ℕ) (text : PyStr) : (b64Digit v 3 :: text).head? ≠ some b64Pad :=
    fun h => b64Digit_ne_pad _ _ (Option.some.inj h)
  cases bytes using b64encode.fun_cases with
  | case1 => exact nofun
  | case2 => exact hdigit _ _
  | case3 => exact hdigit _ _
  | case4 => exact hdigit _ _

theorem b64decode_b64encode (bytes : List UInt8) : b64decode (b64encode bytes) = some bytes :=
  (if_neg (head_b64encode bytes)).trans (b64Groups_b64encode bytes)

/-! ### Padding -/

/-- Up to two pads end the text, whose length is a multiple of four. -/
theorem b64encode_padding (bytes : List UInt8) : ∃ body k, k ≤ 2 ∧
    b64encode bytes = body ++ List.replicate k b64Pad ∧ (body.length + k) % 4 = 0 ∧
      ∀ c ∈ body, ∃ n, n < 64 ∧ c = b64Char n := by
  have hdigit (v k : ℕ) : ∃ n, n < 64 ∧ b64Digit v k = b64Char n :=
    ⟨_, Nat.mod_lt _ (by decide), rfl⟩
  induction bytes using b64encode.induct with
  | case1 => exact ⟨[], 0, by decide, rfl, rfl, nofun⟩
  | case2 a =>
      refine ⟨[b64Digit _ 3, b64Digit _ 2], 2, by decide, rfl, by simp, ?_⟩
      simp only [List.forall_mem_cons]
      exact ⟨hdigit _ _, hdigit _ _, nofun⟩
  | case3 a b =>
      refine ⟨[b64Digit _ 3, b64Digit _ 2, b64Digit _ 1], 1, by decide, rfl, by simp, ?_⟩
      simp only [List.forall_mem_cons]
      exact ⟨hdigit _ _, hdigit _ _, hdigit _ _, nofun⟩
  | case4 a b c bytes ih =>
      obtain ⟨body, k, hk, hencode, hlength, hbody⟩ := ih
      rw [b64encode, hencode]
      refine ⟨_ :: _ :: _ :: _ :: body, k, hk, rfl, ?_, ?_⟩
      · simp only [List.length_cons]
        omega
      · simp only [List.forall_mem_cons]
        exact ⟨hdigit _ _, hdigit _ _, hdigit _ _, hdigit _ _, hbody⟩

/-! ### The text is ASCII -/

/-- A property of the alphabet and of the pad is one of every encoded character. -/
theorem forall_mem_b64encode {P : ℕ → Prop} (hchar : ∀ n < 64, P (b64Char n)) (hpad : P b64Pad)
    (bytes : List UInt8) : ∀ c ∈ b64encode bytes, P c := by
  obtain ⟨body, k, -, hencode, -, hbody⟩ := b64encode_padding bytes
  rw [hencode]
  intro c hc
  rcases List.mem_append.mp hc with hc | hc
  · obtain ⟨n, hn, rfl⟩ := hbody c hc
    exact hchar n hn
  · rw [List.eq_of_mem_replicate hc]
    exact hpad

theorem b64encode_ascii (bytes : List UInt8) : ∀ n ∈ b64encode bytes, n < 128 :=
  forall_mem_b64encode (by decide) (by decide) bytes

theorem lt_of_b64Value {c n : ℕ} (h : b64Value c = some n) : c < 128 := by
  unfold b64Value at h
  repeat' split at h
  all_goals first | omega | cases h

theorem lt_of_b64Group {group : List ℕ} {v : ℕ} (h : b64Group group = some v) :
    ∀ c ∈ group, c < 128 := by
  induction group generalizing v with
  | nil => exact nofun
  | cons c group ih =>
      rw [b64Group] at h
      obtain ⟨n, hn, h⟩ := Option.bind_eq_some_iff.mp h
      obtain ⟨rest, hrest, -⟩ := Option.bind_eq_some_iff.mp h
      exact List.forall_mem_cons.mpr ⟨lt_of_b64Value hn, ih hrest⟩

theorem ascii_of_allPads {text : PyStr} (h : allPads text = true) : ∀ n ∈ text, n < 128 := by
  intro n hn
  rw [of_decide_eq_true (List.all_eq_true.mp h n hn)]
  decide

theorem ascii_of_b64Groups {text : PyStr} {bytes : List UInt8} (h : b64Groups text = some bytes) :
    ∀ n ∈ text, n < 128 := by
  have hpad : b64Pad < 128 := by decide
  induction text using b64Groups.induct generalizing bytes with
  | case1 => exact nofun
  -- surplus padding
  | case2 c₁ c₂ c₃ text hpads =>
      exact List.forall_mem_cons.mpr ⟨hpad, ascii_of_allPads hpads⟩
  | case3 c₁ c₂ c₃ text hpads =>
      rw [b64Groups, if_pos rfl, if_neg hpads] at h
      cases h
  -- padding must end the text
  | case4 c₀ c₁ c₂ text hc₀ htext =>
      rw [b64Groups, if_neg hc₀, if_pos rfl, if_pos htext] at h
      cases h
  | case5 c₀ c₁ text hc₀ htext =>
      rw [b64Groups, if_neg hc₀, if_pos rfl, if_neg htext, if_pos rfl] at h
      obtain ⟨v, hv, -⟩ := Option.bind_eq_some_iff.mp h
      obtain rfl := Decidable.not_not.mp htext
      have hgroup := lt_of_b64Group hv
      simp only [List.forall_mem_cons] at hgroup ⊢
      exact ⟨hgroup.1, hgroup.2.1, hpad, hpad, nofun⟩
  | case6 c₀ c₁ c₂ text hc₀ htext hc₂ =>
      rw [b64Groups, if_neg hc₀, if_pos rfl, if_neg htext, if_neg hc₂] at h
      obtain ⟨v, hv, -⟩ := Option.bind_eq_some_iff.mp h
      obtain rfl := Decidable.not_not.mp htext
      have hgroup := lt_of_b64Group hv
      simp only [List.forall_mem_cons] at hgroup ⊢
      exact ⟨hgroup.1, hgroup.2.1, hgroup.2.2.1, hpad, nofun⟩
  | case7 c₀ c₁ c₂ c₃ text hc₀ hc₃ ih =>
      rw [b64Groups, if_neg hc₀, if_neg hc₃] at h
      obtain ⟨v, hv, h⟩ := Option.bind_eq_some_iff.mp h
      obtain ⟨rest, hrest, -⟩ := Option.bind_eq_some_iff.mp h
      have hgroup := lt_of_b64Group hv
      simp only [List.forall_mem_cons] at hgroup ⊢
      exact ⟨hgroup.1, hgroup.2.1, hgroup.2.2.1, hgroup.2.2.2.1, ih hrest⟩
  | case8 text _ _ hpads => exact ascii_of_allPads hpads
  | case9 text hnil hfour hpads =>
      unfold b64Groups at h
      split at h
      · exact absurd rfl hnil
      · exact (hfour _ _ _ _ _ rfl).elim
      · rw [if_neg hpads] at h
        cases h

/-- Only ASCII is decoded. -/
theorem ascii_of_b64decode {text : PyStr} {bytes : List UInt8} (h : b64decode text = some bytes) :
    ∀ n ∈ text, n < 128 := by
  unfold b64decode at h
  split at h
  · cases h
  · exact ascii_of_b64Groups h

/-! ### The lenient decoder -/

/-- `binascii.a2b_base64`, which passes over what is not in the alphabet. `quad` counts the
characters of the group so far, `left` has the bits of them that are in no byte yet, `pads`
the padding since the last of them. -/
def a2bBase64 (quad left pads : ℕ) : PyStr → Option (List UInt8)
  | [] => if quad = 0 then some [] else none
  | c :: text =>
      if c = b64Pad then
        if quad < 2 then a2bBase64 quad left pads text
        -- a full padding ends the text
        else if 4 ≤ quad + (pads + 1) then some []
        else a2bBase64 quad left (pads + 1) text
      else
        match b64Value c with
        | none => a2bBase64 quad left pads text
        | some v =>
            match quad with
            | 0 => a2bBase64 1 v 0 text
            | 1 => (a2bBase64 2 (v % 16) 0 text).map (.ofNat (left * 4 + v / 16) :: ·)
            | 2 => (a2bBase64 3 (v % 4) 0 text).map (.ofNat (left * 16 + v / 4) :: ·)
            | _ => (a2bBase64 0 0 0 text).map (.ofNat (left * 64 + v) :: ·)

section Lenient

variable (left pads v k : ℕ) (text : PyStr)

theorem a2bBase64_first : a2bBase64 0 left pads (b64Digit v k :: text) =
    a2bBase64 1 (v / 64 ^ k % 64) 0 text := by
  rw [a2bBase64, if_neg (b64Digit_ne_pad _ _), b64Value_b64Digit]
  rfl

theorem a2bBase64_second : a2bBase64 1 left pads (b64Digit v k :: text) =
    (a2bBase64 2 (v / 64 ^ k % 64 % 16) 0 text).map
      (.ofNat (left * 4 + v / 64 ^ k % 64 / 16) :: ·) := by
  rw [a2bBase64, if_neg (b64Digit_ne_pad _ _), b64Value_b64Digit]
  rfl

theorem a2bBase64_third : a2bBase64 2 left pads (b64Digit v k :: text) =
    (a2bBase64 3 (v / 64 ^ k % 64 % 4) 0 text).map
      (.ofNat (left * 16 + v / 64 ^ k % 64 / 4) :: ·) := by
  rw [a2bBase64, if_neg (b64Digit_ne_pad _ _), b64Value_b64Digit]
  rfl

theorem a2bBase64_fourth : a2bBase64 3 left pads (b64Digit v k :: text) =
    (a2bBase64 0 0 0 text).map (.ofNat (left * 64 + v / 64 ^ k % 64) :: ·) := by
  rw [a2bBase64, if_neg (b64Digit_ne_pad _ _), b64Value_b64Digit]
  rfl

/-- What the encoder writes is read by the lenient decoder as well. -/
theorem a2bBase64_b64encode (bytes : List UInt8) :
    a2bBase64 0 left pads (b64encode bytes) = some bytes := by
  induction bytes using b64encode.induct generalizing left pads with
  | case1 => rfl
  | case2 a =>
      have ha := a.toNat_lt
      have hfirst : UInt8.ofNat (a.toNat * 65536 / 64 ^ 3 % 64 * 4 +
          a.toNat * 65536 / 64 ^ 2 % 64 / 16) = a := ofNat_eq_of_mod (by omega)
      rw [b64encode, a2bBase64_first, a2bBase64_second, hfirst]
      rfl
  | case3 a b =>
      have ha := a.toNat_lt
      have hb := b.toNat_lt
      generalize hv : a.toNat * 65536 + b.toNat * 256 = v
      have hfirst : UInt8.ofNat (v / 64 ^ 3 % 64 * 4 + v / 64 ^ 2 % 64 / 16) = a :=
        ofNat_eq_of_mod (by omega)
      have hsecond : UInt8.ofNat (v / 64 ^ 2 % 64 % 16 * 16 + v / 64 ^ 1 % 64 / 4) = b :=
        ofNat_eq_of_mod (by omega)
      rw [b64encode, hv, a2bBase64_first, a2bBase64_second, a2bBase64_third, hfirst, hsecond]
      rfl
  | case4 a b c bytes ih =>
      have ha := a.toNat_lt
      have hb := b.toNat_lt
      have hc := c.toNat_lt
      generalize hv : a.toNat * 65536 + b.toNat * 256 + c.toNat = v
      have hfirst : UInt8.ofNat (v / 64 ^ 3 % 64 * 4 + v / 64 ^ 2 % 64 / 16) = a :=
        ofNat_eq_of_mod (by omega)
      have hsecond : UInt8.ofNat (v / 64 ^ 2 % 64 % 16 * 16 + v / 64 ^ 1 % 64 / 4) = b :=
        ofNat_eq_of_mod (by omega)
      have hthird : UInt8.ofNat (v / 64 ^ 1 % 64 % 4 * 64 + v / 64 ^ 0 % 64) = c :=
        ofNat_eq_of_mod (by omega)
      rw [b64encode, hv, a2bBase64_first, a2bBase64_second, a2bBase64_third, a2bBase64_fourth,
        hfirst, hsecond, hthird, ih]
      rfl

end Lenient

end SitBank.Python
