import Mathlib.Data.List.DropRight
import SitBank.Python.Json

/-!
Texts of dictionaries of strings.

`json.dumps` writes a string by escapes that can be read back one after the other.
Two strings of which one is ASCII have the same text only if they are equal; where
neither is, a character beyond the basic plane and its two surrogates are written
alike. Dictionaries with sorted keys inherit this.
-/

namespace SitBank.Python

/-! ### Strings -/

/-- `str.strip()`. -/
def PyStr.strip (s : PyStr) : PyStr :=
  ((s.dropWhile spaceCode).reverse.dropWhile spaceCode).reverse
where
  spaceCode (n : ℕ) : Bool := isSpace (Char.ofNat n)

/-- All code points are below 128. -/
def PyStr.Ascii (s : PyStr) : Prop := ∀ n ∈ s, n < 128

instance (s : PyStr) : Decidable s.Ascii := inferInstanceAs (Decidable (∀ n ∈ s, n < 128))

/-- Lower case of one ASCII character. -/
def lowerCode (n : ℕ) : ℕ := if 65 ≤ n ∧ n ≤ 90 then n + 32 else n

/-- The functions of Python on values and strings whose tables are not spelled out
here. -/
structure TextOps where
  /-- `str(value)`. -/
  str : Json → PyStr
  str_str : ∀ s, str (.str s) = s
  /-- `str.casefold`. -/
  casefold : PyStr → PyStr
  casefold_ascii : ∀ s, PyStr.Ascii s → casefold s = s.map lowerCode
  casefold_code : ∀ s, ∀ n ∈ casefold s, n ≤ 0x10FFFF

theorem strip_eq (s : PyStr) :
    s.strip = (s.dropWhile PyStr.strip.spaceCode).rdropWhile PyStr.strip.spaceCode := rfl

theorem strip_strip (s : PyStr) : s.strip.strip = s.strip := by
  have hhead : ∀ t : PyStr, t.dropWhile PyStr.strip.spaceCode = t →
      (t.rdropWhile PyStr.strip.spaceCode).dropWhile PyStr.strip.spaceCode =
        t.rdropWhile PyStr.strip.spaceCode := by
    intro t ht
    rw [List.dropWhile_eq_self_iff]
    intro hpos
    obtain ⟨u, hu⟩ := List.rdropWhile_prefix PyStr.strip.spaceCode (l := t)
    have hne : 0 < t.length := by
      rw [← hu, List.length_append]
      omega
    have hfirst := List.dropWhile_eq_self_iff.mp ht hne
    have hget : t[0] = (t.rdropWhile PyStr.strip.spaceCode)[0] :=
      (List.IsPrefix.getElem ⟨u, hu⟩ hpos).symm
    rwa [← hget]
  rw [strip_eq, strip_eq, hhead _ (List.dropWhile_idempotent ..), List.rdropWhile_idempotent]

theorem strip_of_no_space {s : PyStr} (h : ∀ n ∈ s, PyStr.strip.spaceCode n = false) :
    s.strip = s := by
  have hdrop : s.dropWhile PyStr.strip.spaceCode = s :=
    List.dropWhile_eq_self_iff.mpr fun hpos => by
      rw [h _ (List.getElem_mem hpos)]
      decide
  rw [strip_eq, hdrop, List.rdropWhile_eq_self_iff]
  intro hne
  rw [h _ (List.getLast_mem hne)]
  decide

theorem spaceCode_lowerCode (n : ℕ) :
    PyStr.strip.spaceCode (lowerCode n) = PyStr.strip.spaceCode n := by
  unfold lowerCode
  split
  · next h =>
      have hletters : ∀ i : Fin 26, PyStr.strip.spaceCode (65 + i + 32) =
          PyStr.strip.spaceCode (65 + i) := by decide
      have := hletters ⟨n - 65, by omega⟩
      rwa [show 65 + (n - 65) = n by omega] at this
  · rfl

theorem strip_map_lowerCode (s : PyStr) :
    PyStr.strip (s.map lowerCode) = s.strip.map lowerCode := by
  have hspace : PyStr.strip.spaceCode ∘ lowerCode = PyStr.strip.spaceCode :=
    funext spaceCode_lowerCode
  unfold PyStr.strip
  rw [List.dropWhile_map, hspace, ← List.map_reverse, List.dropWhile_map, hspace,
    ← List.map_reverse]

theorem map_lowerCode_idem (s : PyStr) : (s.map lowerCode).map lowerCode = s.map lowerCode := by
  rw [List.map_map]
  refine List.map_congr_left fun n _ => ?_
  show lowerCode (lowerCode n) = lowerCode n
  have hlower : ∀ m, ¬(65 ≤ m ∧ m ≤ 90) → lowerCode m = m := fun m hm => if_neg hm
  by_cases hn : 65 ≤ n ∧ n ≤ 90
  · exact hlower _ (by rw [lowerCode, if_pos hn]; omega)
  · rw [hlower n hn, hlower n hn]

theorem ascii_lower {s : PyStr} (h : s.Ascii) : PyStr.Ascii (s.map lowerCode) := by
  intro n hn
  obtain ⟨m, hm, rfl⟩ := List.mem_map.mp hn
  have := h m hm
  unfold lowerCode
  split <;> omega

theorem ascii_strip {s : PyStr} (h : s.Ascii) : s.strip.Ascii := by
  intro n hn
  have hpre := List.rdropWhile_prefix PyStr.strip.spaceCode
    (l := s.dropWhile PyStr.strip.spaceCode)
  exact h n ((List.dropWhile_sublist _).mem (hpre.mem hn))

/-! ### Reading an escape -/

def hexValue (c : Char) : ℕ := if c.isDigit then c.toNat - 48 else c.toNat - 87

/-- The first code unit that a text stands for, and the rest of the text. -/
def readUnit : List Char → Option (ℕ × List Char)
  | '\\' :: 'u' :: a :: b :: c :: d :: s =>
      some (hexValue a * 4096 + hexValue b * 256 + hexValue c * 16 + hexValue d, s)
  | '\\' :: c :: s => some (unescape c, s)
  | c :: s => some (c.toNat, s)
  | [] => none
where
  unescape (c : Char) : ℕ :=
    if c = 'n' then 0x0A else if c = 'r' then 0x0D else if c = 't' then 0x09
    else if c = 'f' then 0x0C else if c = 'b' then 0x08 else c.toNat

theorem hexValue_hexDigit (n : ℕ) : hexValue (hexDigit n) = n % 16 := by
  have hfin : ∀ i : Fin 16, hexValue (hexDigit i) = i := by decide
  have hdigit : hexDigit (n % 16) = hexDigit n := by
    unfold hexDigit
    rw [Nat.mod_mod]
  rw [← hdigit]
  exact hfin ⟨n % 16, Nat.mod_lt n (by decide)⟩

theorem readUnit_escapeUnit {n : ℕ} (h : n ≤ 0xFFFF) (s : List Char) :
    readUnit (escapeUnit n ++ s) = some (n, s) := by
  show readUnit ('\\' :: 'u' :: _ :: _ :: _ :: _ :: s) = _
  rw [readUnit]
  simp only [hexValue_hexDigit]
  congr 2
  omega

theorem readUnit_short {c : Char} {n : ℕ} (hc : (c, n) ∈ shortEscapes) (s : List Char) :
    readUnit ('\\' :: c :: s) = some (n, s) := by
  have hshort : ∀ p ∈ shortEscapes, p.1 ≠ 'u' ∧ readUnit.unescape p.1 = p.2 := by decide
  obtain ⟨hu, hn⟩ := hshort _ hc
  dsimp only at hu hn
  rw [readUnit.eq_def]
  split
  · next heq => exact absurd (List.cons.inj (List.cons.inj heq).2).1 hu
  · next heq =>
      obtain ⟨rfl, rfl⟩ := List.cons.inj (List.cons.inj heq).2
      rw [hn]
  · next hnot heq =>
      obtain ⟨rfl, rfl⟩ := List.cons.inj heq
      exact absurd rfl (hnot _ _ rfl)
  · next heq => cases heq

theorem readUnit_char {n : ℕ} (h : 0x20 ≤ n ∧ n ≤ 0x7E) (hc : quotable (Char.ofNat n))
    (s : List Char) : readUnit (Char.ofNat n :: s) = some (n, s) := by
  have hnat : (Char.ofNat n).toNat = n := toNat_ofNat_of_valid (.inl (by omega))
  rw [readUnit.eq_def]
  split
  · next heq => exact absurd (List.cons.inj heq).1 hc.1
  · next heq => exact absurd (List.cons.inj heq).1 hc.1
  · next heq =>
      obtain ⟨rfl, rfl⟩ := List.cons.inj heq
      rw [hnat]
  · next heq => cases heq

/-- The first unit of a code point. -/
def firstUnit (n : ℕ) : ℕ := if n ≤ 0xFFFF then n else 0xD800 + (n - 0x10000) / 0x400

theorem readUnit_escapeCodePoint {n : ℕ} (h : n ≤ 0x10FFFF) (s : List Char) :
    ∃ r, readUnit (escapeCodePoint n ++ s) = some (firstUnit n, r) ∧ (n ≤ 0xFFFF → r = s) := by
  have hescaped := escaped_escapeCodePoint n
  generalize escapeCodePoint n = text at hescaped
  cases hescaped with
  | short hc =>
      have hsmall : ∀ p ∈ shortEscapes, firstUnit p.2 = p.2 := by decide
      refine ⟨s, ?_, fun _ => rfl⟩
      rw [hsmall _ hc]
      exact readUnit_short hc s
  | printable hprint hc =>
      refine ⟨s, ?_, fun _ => rfl⟩
      rw [firstUnit, if_pos (by omega)]
      exact readUnit_char hprint hc s
  | unit hunit =>
      refine ⟨s, ?_, fun _ => rfl⟩
      rw [firstUnit, if_pos hunit]
      exact readUnit_escapeUnit hunit s
  | surrogates hunit =>
      refine ⟨escapeUnit (0xDC00 + (n - 0x10000) % 0x400) ++ s, ?_, fun hle => absurd hle hunit⟩
      rw [firstUnit, if_neg hunit, List.append_assoc]
      exact readUnit_escapeUnit (by omega) _

theorem escapeCodePoint_append_inj {n m : ℕ} {s s' : List Char} (hn : n < 128) (hm : m ≤ 0x10FFFF)
    (h : escapeCodePoint n ++ s = escapeCodePoint m ++ s') : n = m ∧ s = s' := by
  obtain ⟨r, hr, hrest⟩ := readUnit_escapeCodePoint (n := n) (by omega) s
  obtain ⟨r', hr', hrest'⟩ := readUnit_escapeCodePoint hm s'
  rw [h, hr'] at hr
  obtain ⟨hunit, htail⟩ := Prod.mk.inj (Option.some.inj hr)
  unfold firstUnit at hunit
  by_cases hbasic : m ≤ 0xFFFF
  · rw [if_pos hbasic, if_pos (by omega)] at hunit
    rw [hrest (by omega), hrest' hbasic] at htail
    exact ⟨hunit.symm, htail.symm⟩
  · rw [if_neg hbasic, if_pos (by omega)] at hunit
    omega

theorem escapeCodePoint_ne_quote {n : ℕ} (hn : n ≤ 0x10FFFF) (s s' : List Char) :
    '"' :: s ≠ escapeCodePoint n ++ s' := by
  intro h
  obtain ⟨r, hr, -⟩ := readUnit_escapeCodePoint hn s'
  rw [← h] at hr
  have hunit : 0x22 = firstUnit n := (Prod.mk.inj (Option.some.inj hr)).1
  have hquote : n = 0x22 := by
    unfold firstUnit at hunit
    split at hunit <;> omega
  subst hquote
  cases h

/-- A string that was written can be read back up to its closing quote. -/
theorem dumpsStr_append_inj {s s' : PyStr} {r r' : List Char} (hs : s.Ascii)
    (hs' : ∀ n ∈ s', n ≤ 0x10FFFF) (h : dumpsStr s ++ r = dumpsStr s' ++ r') :
    s = s' ∧ r = r' := by
  have hcontent : s.flatMap escapeCodePoint ++ '"' :: r =
      s'.flatMap escapeCodePoint ++ '"' :: r' := by
    simpa [dumpsStr] using h
  clear h
  induction s generalizing s' with
  | nil =>
      cases s' with
      | nil => exact ⟨rfl, (List.cons.inj hcontent).2⟩
      | cons m t =>
          rw [List.flatMap_cons, List.append_assoc] at hcontent
          exact absurd hcontent (escapeCodePoint_ne_quote (hs' m (List.mem_cons_self ..)) _ _)
  | cons n s ih =>
      cases s' with
      | nil =>
          rw [List.flatMap_cons, List.append_assoc] at hcontent
          have hcode := hs n (List.mem_cons_self ..)
          exact absurd hcontent.symm (escapeCodePoint_ne_quote (by omega) _ _)
      | cons m t =>
          rw [List.flatMap_cons, List.flatMap_cons, List.append_assoc,
            List.append_assoc] at hcontent
          obtain ⟨rfl, hrest⟩ := escapeCodePoint_append_inj (hs n (List.mem_cons_self ..))
            (hs' m (List.mem_cons_self ..)) hcontent
          obtain ⟨rfl, hr⟩ := ih (fun k hk => hs k (List.mem_cons_of_mem n hk))
            (fun k hk => hs' k (List.mem_cons_of_mem n hk)) hrest
          exact ⟨rfl, hr⟩

/-! ### Dictionaries of strings -/

/-- The dictionary as a value. -/
def strPairs (d : List (PyStr × PyStr)) : List (PyStr × Json) := d.map fun p => (p.1, .str p.2)

/-- What follows a pair. -/
def afterPair (d : List (PyStr × PyStr)) : List Char :=
  if d = [] then ['}'] else ',' :: dumpsPairs (strPairs d)

theorem dumpsPairs_strPairs_cons (p : PyStr × PyStr) (d : List (PyStr × PyStr)) :
    dumpsPairs (strPairs (p :: d)) =
      dumpsStr p.1 ++ ':' :: (dumpsStr p.2 ++ afterPair d) := by
  cases d with
  | nil =>
      show dumpsPairs [(p.1, .str p.2)] = _
      rw [dumpsPairs, dumps]
      rfl
  | cons q d =>
      show dumpsPairs ((p.1, .str p.2) :: (q.1, .str q.2) :: strPairs d) = _
      rw [dumpsPairs, dumps]
      rfl

theorem dumpsPairs_strPairs_inj {d d' : List (PyStr × PyStr)}
    (hd : ∀ p ∈ d, p.1.Ascii ∧ p.2.Ascii)
    (hd' : ∀ p ∈ d', p.1.Ascii ∧ ∀ n ∈ p.2, n ≤ 0x10FFFF)
    (h : dumpsPairs (strPairs d) = dumpsPairs (strPairs d')) : d = d' := by
  induction d generalizing d' with
  | nil =>
      cases d' with
      | nil => rfl
      | cons p' d' => cases d' <;> cases h
  | cons p d ih =>
      cases d' with
      | nil => cases d <;> cases h
      | cons p' d' =>
          obtain ⟨hp, hps⟩ := List.forall_mem_cons.mp hd
          obtain ⟨hp', hps'⟩ := List.forall_mem_cons.mp hd'
          -- a string ends at its own quote, so the first key and value can be read off
          have hpair : ∀ r r', dumpsStr p.1 ++ ':' :: (dumpsStr p.2 ++ r) =
              dumpsStr p'.1 ++ ':' :: (dumpsStr p'.2 ++ r') → p = p' ∧ r = r' := by
            intro r r' heq
            have hcode : ∀ n ∈ p'.1, n ≤ 0x10FFFF := fun n hn => by
              have := hp'.1 n hn
              omega
            obtain ⟨hkey, hrest⟩ := dumpsStr_append_inj hp.1 hcode heq
            obtain ⟨hval, htail⟩ := dumpsStr_append_inj hp.2 hp'.2 (List.cons.inj hrest).2
            exact ⟨Prod.ext hkey hval, htail⟩
          rw [dumpsPairs_strPairs_cons, dumpsPairs_strPairs_cons] at h
          obtain ⟨rfl, hrest⟩ := hpair _ _ h
          unfold afterPair at hrest
          split at hrest
          · next hnil =>
              split at hrest
              · next hnil' => rw [hnil, hnil']
              · cases hrest
          · split at hrest
            · cases hrest
            · rw [ih hps hps' (List.cons.inj hrest).2]

/-! ### Assignments and sorted keys -/

/-- `d[key] = value`: an old key keeps its place. -/
def dictSet (key value : PyStr) : List (PyStr × PyStr) → List (PyStr × PyStr)
  | [] => [(key, value)]
  | p :: d => if p.1 = key then (key, value) :: d else p :: dictSet key value d

theorem lookup_cons_if {α : Type} (k : PyStr) (p : PyStr × α) (d : List (PyStr × α)) :
    (p :: d).lookup k = if k = p.1 then some p.2 else d.lookup k := by
  rw [List.lookup_cons]
  by_cases h : k = p.1
  · rw [if_pos h, h, beq_self_eq_true]
  · rw [if_neg h, beq_eq_false_iff_ne.mpr h]

theorem lookup_dictSet (key value k : PyStr) (d : List (PyStr × PyStr)) :
    (dictSet key value d).lookup k = if k = key then some value else d.lookup k := by
  induction d with
  | nil => exact lookup_cons_if ..
  | cons p d ih =>
      unfold dictSet
      split
      · next hp =>
          rw [lookup_cons_if, lookup_cons_if, hp]
          split <;> rfl
      · next hp =>
          rw [lookup_cons_if, ih, lookup_cons_if]
          by_cases h : k = key
          · rw [if_neg (fun heq => hp (heq.symm.trans h)), if_pos h, if_pos h]
          · rw [if_neg h, if_neg h]

theorem keys_dictSet (key value : PyStr) (d : List (PyStr × PyStr)) :
    (dictSet key value d).map Prod.fst =
      if key ∈ d.map Prod.fst then d.map Prod.fst else d.map Prod.fst ++ [key] := by
  induction d with
  | nil => rfl
  | cons p d ih =>
      unfold dictSet
      by_cases hp : p.1 = key
      · simp [hp]
      · rw [if_neg hp, List.map_cons, ih]
        have hne : key ≠ p.1 := fun h => hp h.symm
        by_cases hmem : key ∈ d.map Prod.fst
        · simp only [List.map_cons, List.mem_cons, hmem, or_true, if_true]
        · simp only [List.map_cons, List.mem_cons, hmem, hne, or_self, if_false, List.cons_append]

theorem nodup_dictSet {key value : PyStr} {d : List (PyStr × PyStr)}
    (h : (d.map Prod.fst).Nodup) : ((dictSet key value d).map Prod.fst).Nodup := by
  rw [keys_dictSet]
  split
  · exact h
  · next hnew =>
      refine List.nodup_append.mpr ⟨h, by simp, ?_⟩
      rintro a ha b hb rfl
      exact hnew (List.mem_singleton.mp hb ▸ ha)

section Sorted

variable {α : Type}

theorem lookup_insertPair {p : PyStr × α} {pairs : List (PyStr × α)}
    (h : p.1 ∉ pairs.map Prod.fst) (k : PyStr) :
    (insertPair p pairs).lookup k = (p :: pairs).lookup k := by
  induction pairs with
  | nil => rfl
  | cons q pairs ih =>
      unfold insertPair
      split
      · rfl
      · have hne : p.1 ≠ q.1 := fun heq => h (by simp [heq])
        have hrest : p.1 ∉ pairs.map Prod.fst := fun hmem => h (List.mem_cons_of_mem _ hmem)
        rw [lookup_cons_if, ih hrest, lookup_cons_if, lookup_cons_if, lookup_cons_if]
        by_cases hk : k = q.1
        · rw [if_pos hk, if_neg (fun heq => hne (heq.symm.trans hk)), if_pos hk]
        · rw [if_neg hk, if_neg hk]

theorem mem_insertPair {p q : PyStr × α} {pairs : List (PyStr × α)} :
    q ∈ insertPair p pairs ↔ q = p ∨ q ∈ pairs := by
  induction pairs with
  | nil => simp [insertPair]
  | cons r pairs ih =>
      unfold insertPair
      split
      · simp
      · simp only [List.mem_cons, ih]
        exact or_left_comm

theorem mem_sortPairs {q : PyStr × α} {pairs : List (PyStr × α)} :
    q ∈ sortPairs pairs ↔ q ∈ pairs := by
  induction pairs with
  | nil => simp [sortPairs]
  | cons p pairs ih => rw [sortPairs, mem_insertPair, ih, List.mem_cons]

/-- Sorting the keys does not change what is found under them. -/
theorem lookup_sortPairs {pairs : List (PyStr × α)} (h : (pairs.map Prod.fst).Nodup) (k : PyStr) :
    (sortPairs pairs).lookup k = pairs.lookup k := by
  induction pairs with
  | nil => rfl
  | cons p pairs ih =>
      obtain ⟨hnew, hrest⟩ := List.nodup_cons.mp h
      rw [sortPairs, lookup_insertPair, List.lookup_cons, ih hrest, List.lookup_cons]
      intro hmem
      obtain ⟨q, hq, hqp⟩ := List.mem_map.mp hmem
      exact hnew (List.mem_map.mpr ⟨q, mem_sortPairs.mp hq, hqp⟩)

end Sorted

/-- Sorting commutes with reading the dictionary as a value. -/
theorem sortPairs_strPairs (d : List (PyStr × PyStr)) :
    sortPairs (strPairs d) = strPairs (sortPairs d) := by
  have hinsert : ∀ (p : PyStr × PyStr) d,
      insertPair (p.1, Json.str p.2) (strPairs d) = strPairs (insertPair p d) := by
    intro p d
    induction d with
    | nil => rfl
    | cons q d ih =>
        show insertPair _ ((q.1, Json.str q.2) :: strPairs d) = _
        unfold insertPair
        split
        · rfl
        · rw [ih]
          rfl
  induction d with
  | nil => rfl
  | cons p d ih =>
      show insertPair (p.1, Json.str p.2) (sortPairs (strPairs d)) = _
      rw [ih, hinsert]
      rfl

/-- Dictionaries with one text have the same entries. -/
theorem lookup_eq_of_dumps {d d' : List (PyStr × PyStr)}
    (hd : ∀ p ∈ d, p.1.Ascii ∧ p.2.Ascii) (hnd : (d.map Prod.fst).Nodup)
    (hd' : ∀ p ∈ d', p.1.Ascii ∧ ∀ n ∈ p.2, n ≤ 0x10FFFF) (hnd' : (d'.map Prod.fst).Nodup)
    (h : dumps (sortKeys (.obj (strPairs d))) = dumps (sortKeys (.obj (strPairs d'))))
    (k : PyStr) : d.lookup k = d'.lookup k := by
  have hkeys : ∀ d : List (PyStr × PyStr), sortKeysPairs (strPairs d) = strPairs d := by
    intro d
    induction d with
    | nil => rfl
    | cons p d ih =>
        show (p.1, sortKeys (.str p.2)) :: sortKeysPairs (strPairs d) = _
        rw [ih, sortKeys]
        rfl
  rw [sortKeys, sortKeys, hkeys, hkeys, sortPairs_strPairs, sortPairs_strPairs, dumps, dumps] at h
  have heq := dumpsPairs_strPairs_inj (fun p hp => hd p (mem_sortPairs.mp hp))
    (fun p hp => hd' p (mem_sortPairs.mp hp)) (List.cons.inj h).2
  rw [← lookup_sortPairs hnd, heq, lookup_sortPairs hnd']

end SitBank.Python
