import Mathlib.Data.List.Nodup
import SitBank.Python.JsonLoads

/-!
Values that go through a text and are written again with sorted keys.

Strings may change on the way: two surrogates that stand next to each other are read as
one character. Its escapes are those of the two surrogates, so that a string is written as
before (`dumpsStr_rejoined`). Keys are another matter, since they are sorted by their code
points. If the keys of every dictionary compare after the way as before (`keepsOrder`),
the text with sorted keys is the same (`dumps_sortKeys_reloaded`).
-/

namespace SitBank.Python

/-! ### Floats -/

/-- Digits with a fraction, an exponent or both. -/
def floatToken (s : List Char) : Bool :=
  let (digits, rest) := intPart s
  let (frac, rest) := fracPart rest
  let (exp, rest) := expPart rest
  digits ≠ [] && (frac ≠ [] || exp ≠ []) && rest = []

/-- The text is that of a finite float. -/
def finiteText (text : List Char) : Bool :=
  match text with
  | '-' :: s => floatToken s
  | s => floatToken s

theorem spanDigits_eq (s : List Char) : (spanDigits s).1 ++ (spanDigits s).2 = s :=
  List.takeWhile_append_dropWhile

theorem spanDigits_more {t s : List Char} (hs : Stops s) :
    spanDigits (t ++ s) = ((spanDigits t).1, (spanDigits t).2 ++ s) := by
  have hstop : spanDigits ([] ++ s) = ([], s) := spanDigits_append (List.forall_mem_nil _) hs
  induction t with
  | nil => exact hstop
  | cons c t ih =>
      unfold spanDigits at ih ⊢
      rw [List.cons_append, List.takeWhile_cons, List.dropWhile_cons, List.takeWhile_cons,
        List.dropWhile_cons]
      split
      · rw [(Prod.mk.inj ih).1, (Prod.mk.inj ih).2]
      · rfl

theorem intPart_eq (s : List Char) : (intPart s).1 ++ (intPart s).2 = s := by
  unfold intPart
  split
  · rfl
  · exact spanDigits_eq s

theorem intPart_cons {c : Char} (h : c ≠ '0') (s : List Char) :
    intPart (c :: s) = spanDigits (c :: s) := by
  unfold intPart
  split
  · next heq => exact absurd (List.cons.inj heq).1 h
  · rfl

theorem intPart_more {c : Char} {t s : List Char} (hs : Stops s) :
    intPart (c :: t ++ s) = ((intPart (c :: t)).1, (intPart (c :: t)).2 ++ s) := by
  by_cases hc : c = '0'
  · subst hc
    rfl
  · rw [intPart_cons hc, ← spanDigits_more hs]
    exact intPart_cons hc (t ++ s)

theorem fracPart_eq (s : List Char) : (fracPart s).1 ++ (fracPart s).2 = s := by
  unfold fracPart
  split
  · next s =>
      dsimp only
      split
      · rfl
      · exact congrArg ('.' :: ·) (spanDigits_eq s)
  · rfl

theorem fracPart_dot (s : List Char) :
    fracPart ('.' :: s) = if (spanDigits s).1 = [] then ([], '.' :: s)
      else ('.' :: (spanDigits s).1, (spanDigits s).2) := rfl

theorem fracPart_cons {c : Char} (h : c ≠ '.') (s : List Char) :
    fracPart (c :: s) = ([], c :: s) := by
  unfold fracPart
  split
  · next heq => exact absurd (List.cons.inj heq).1 h
  · rfl

theorem fracPart_more {t s : List Char} (hs : Stops s) :
    fracPart (t ++ s) = ((fracPart t).1, (fracPart t).2 ++ s) := by
  cases t with
  | nil => exact fracPart_stops hs
  | cons c t =>
      by_cases hc : c = '.'
      · subst hc
        rw [List.cons_append, fracPart_dot, fracPart_dot, spanDigits_more hs]
        split <;> rfl
      · rw [fracPart_cons hc, List.cons_append, fracPart_cons hc]

/-- The sign of an exponent, and its digits. -/
def expDigits (s : List Char) : List Char × List Char :=
  match s with
  | '-' :: s => (['-'], s)
  | '+' :: s => (['+'], s)
  | s => ([], s)

theorem expPart_cons {c : Char} (h : c = 'e' ∨ c = 'E') (s : List Char) :
    expPart (c :: s) = if (spanDigits (expDigits s).2).1 = [] then ([], c :: s)
      else (c :: ((expDigits s).1 ++ (spanDigits (expDigits s).2).1),
        (spanDigits (expDigits s).2).2) := by
  unfold expPart
  dsimp only
  rw [if_pos h]
  rfl

theorem expDigits_eq (s : List Char) : (expDigits s).1 ++ (expDigits s).2 = s := by
  unfold expDigits
  split <;> rfl

theorem expDigits_more {c : Char} (t s : List Char) :
    expDigits (c :: t ++ s) = ((expDigits (c :: t)).1, (expDigits (c :: t)).2 ++ s) := by
  unfold expDigits
  split
  · next heq =>
      cases heq
      rfl
  · next heq =>
      cases heq
      rfl
  · next hminus hplus =>
      split
      · next heq => exact absurd (congrArg (· ++ s) heq) (hminus _)
      · next heq => exact absurd (congrArg (· ++ s) heq) (hplus _)
      · rfl

theorem expPart_other {c : Char} (h : ¬(c = 'e' ∨ c = 'E')) (s : List Char) :
    expPart (c :: s) = ([], c :: s) := by
  unfold expPart
  dsimp only
  rw [if_neg h]

/-- An exponent up to the end of the text is still the exponent when something follows. -/
theorem expPart_more {t x s : List Char} (h : expPart t = (x, [])) (hs : Stops s) :
    expPart (t ++ s) = (t, s) ∧ x = t := by
  cases t with
  | nil =>
      cases h
      exact ⟨expPart_stops hs, rfl⟩
  | cons c t =>
      by_cases hc : c = 'e' ∨ c = 'E'
      · rw [expPart_cons hc] at h
        split at h
        · cases (Prod.mk.inj h).2
        · next hdigits =>
            obtain ⟨rfl, hrest⟩ := Prod.mk.inj h
            have hspan := spanDigits_eq (expDigits t).2
            rw [hrest, List.append_nil] at hspan
            cases t with
            | nil => exact absurd rfl hdigits
            | cons d t =>
                have hmore := expDigits_more (c := d) t s
                rw [List.cons_append, expPart_cons hc, hmore, spanDigits_more hs, if_neg hdigits,
                  hrest, hspan, expDigits_eq]
                exact ⟨rfl, rfl⟩
      · rw [expPart_other hc] at h
        cases (Prod.mk.inj h).2

theorem loadsUnsigned_float (floatOf : List Char → FloatText) {t s : List Char}
    (h : floatToken t = true) (hs : Stops s) (negative : Bool) :
    loadsUnsigned floatOf negative (t ++ s) =
      some (.float (floatOf ((if negative then ['-'] else []) ++ t)), s) := by
  unfold floatToken at h
  simp only [Bool.and_eq_true, Bool.or_eq_true, decide_eq_true_eq] at h
  obtain ⟨⟨hdigits, hparts⟩, hrest⟩ := h
  obtain ⟨c, t, rfl⟩ : ∃ c t', t = c :: t' := by
    cases t with
    | nil => exact absurd rfl hdigits
    | cons c t => exact ⟨c, t, rfl⟩
  have hexp : expPart (fracPart (intPart (c :: t)).2).2 =
      ((expPart (fracPart (intPart (c :: t)).2).2).1, []) := Prod.ext rfl hrest
  obtain ⟨hmore, hall⟩ := expPart_more hexp hs
  unfold loadsUnsigned
  rw [intPart_more hs]
  dsimp only
  rw [fracPart_more hs]
  dsimp only
  rw [hmore]
  dsimp only
  rw [hall] at hparts
  have hfloat : ¬((fracPart (intPart (c :: t)).2).1 = [] ∧
      (fracPart (intPart (c :: t)).2).2 = []) := fun hnone =>
    hparts.elim (fun hfrac => hfrac hnone.1) fun hexp => hexp hnone.2
  rw [if_neg hdigits, if_neg hfloat, List.append_assoc, List.append_assoc,
    fracPart_eq, intPart_eq]

/-- The text of a finite float starts with its sign or a digit. -/
theorem floatToken_head {t : List Char} (h : floatToken t = true) :
    ∃ c r, t = c :: r ∧ c.isDigit = true := by
  unfold floatToken at h
  simp only [Bool.and_eq_true, decide_eq_true_eq] at h
  have hdigits := h.1.1
  cases t with
  | nil => exact absurd rfl hdigits
  | cons c t =>
      refine ⟨c, t, rfl, ?_⟩
      by_cases hzero : c = '0'
      · subst hzero
        rfl
      · rw [intPart_cons hzero] at hdigits
        by_cases hc : c.isDigit = true
        · exact hc
        · exact absurd (List.takeWhile_cons_of_neg hc) hdigits

/-- A float is read back from its text if the reader of floats does so. -/
theorem floatRead_of_finite {floatOf : List Char → FloatText} {x : FloatText}
    (hfloat : floatOf x.text = x) (h : finiteText x.text = true) : FloatRead floatOf x := by
  have hcases : (∃ t, x.text = '-' :: t ∧ floatToken t = true) ∨ floatToken x.text = true := by
    unfold finiteText at h
    split at h
    · next t ht => exact .inl ⟨t, ht, h⟩
    · exact .inr h
  rcases hcases with ⟨t, htext, htoken⟩ | htoken
  · obtain ⟨c, r, rfl, hc⟩ := floatToken_head htoken
    refine ⟨⟨'-', c :: r, htext, by decide⟩, fun fuel s hs => ?_⟩
    have hread := loadsUnsigned_float floatOf htoken hs true
    rw [htext, List.cons_append, loadsValue_number fuel (.inl rfl), List.cons_append,
      loadsNumber_minus floatOf hc, ← List.cons_append, hread, if_pos rfl, List.singleton_append,
      ← htext, hfloat]
  · obtain ⟨c, r, htext, hc⟩ := floatToken_head htoken
    have hspace : jsonSpace c = false := by simp [jsonSpace, ne_of_isDigit hc]
    refine ⟨⟨c, r, htext, hspace⟩, fun fuel s hs => ?_⟩
    have hread := loadsUnsigned_float floatOf htoken hs false
    rw [htext, List.cons_append] at hread ⊢
    rw [loadsValue_number fuel (.inr hc), loadsNumber_digit floatOf hc, hread,
      if_neg Bool.false_ne_true, List.nil_append, ← htext, hfloat]

/-! ### Strings -/

theorem flatMap_escape_codeUnits (n : ℕ) (h : n ≤ 0x10FFFF) :
    (codeUnits n).flatMap escapeCodePoint = escapeCodePoint n := by
  have hunit {m : ℕ} (hm : 0xD800 ≤ m ∧ m ≤ 0xDFFF) : escapeCodePoint m = escapeUnit m := by
    unfold escapeCodePoint
    iterate 8 rw [if_neg (by omega)]
    rw [if_pos (by omega)]
  unfold codeUnits
  split
  · simp
  · next hbig =>
      rw [List.flatMap_cons, List.flatMap_cons, List.flatMap_nil, List.append_nil,
        hunit (by omega), hunit (by omega)]
      unfold escapeCodePoint
      iterate 9 rw [if_neg (by omega)]

/-- Two surrogates have the escapes of the character that they are read as. -/
theorem flatMap_escape_joinSurrogates (u : List ℕ) :
    (joinSurrogates u).flatMap escapeCodePoint = u.flatMap escapeCodePoint := by
  induction u using joinSurrogates.induct with
  | case1 a b t hpair ih =>
      simp only [highSurrogate, lowSurrogate, Bool.and_eq_true, decide_eq_true_eq] at hpair
      have hjoined := flatMap_escape_codeUnits (0x10000 + (a - 0xD800) * 0x400 + (b - 0xDC00))
        (by omega)
      have hunits : codeUnits (0x10000 + (a - 0xD800) * 0x400 + (b - 0xDC00)) = [a, b] := by
        have hhigh : 0xD800 + (0x10000 + (a - 0xD800) * 0x400 + (b - 0xDC00) - 0x10000)
            / 0x400 = a :=
          by omega
        have hlow : 0xDC00 + (0x10000 + (a - 0xD800) * 0x400 + (b - 0xDC00) - 0x10000)
            % 0x400 = b :=
          by omega
        rw [codeUnits, if_neg (by omega), hhigh, hlow]
      rw [hunits] at hjoined
      rw [joinSurrogates, if_pos (by
        simp only [highSurrogate, lowSurrogate, Bool.and_eq_true, decide_eq_true_eq]
        exact hpair), List.flatMap_cons, ← hjoined, ih]
      simp
  | case2 a b t hpair ih =>
      rw [joinSurrogates, if_neg hpair, List.flatMap_cons, ih]
      rfl
  | case3 t hshort =>
      rw [joinSurrogates.eq_def]
      split
      · next a b t => exact absurd rfl (hshort a b t)
      · rfl

theorem dumpsStr_rejoined {t : PyStr} (ht : t.Points) : dumpsStr (rejoined t) = dumpsStr t := by
  have hunits : (t.flatMap codeUnits).flatMap escapeCodePoint = t.flatMap escapeCodePoint := by
    rw [List.flatMap_assoc]
    exact List.flatMap_congr fun n hn => flatMap_escape_codeUnits n (ht n hn)
  rw [dumpsStr, dumpsStr, rejoined, flatMap_escape_joinSurrogates, hunits]

/-! ### Sorted keys -/

theorem strLe_antisymm {s t : PyStr} (h : strLe s t = true) (h' : strLe t s = true) : s = t := by
  induction s generalizing t with
  | nil =>
      cases t with
      | nil => rfl
      | cons b t => cases h'
  | cons a s ih =>
      cases t with
      | nil => cases h
      | cons b t =>
          simp only [strLe, Bool.or_eq_true, Bool.and_eq_true, decide_eq_true_eq] at h h'
          have hab : a = b := by omega
          subst hab
          rw [ih (h.resolve_left (Nat.lt_irrefl a)).2 (h'.resolve_left (Nat.lt_irrefl a)).2]

section SortedPairs

variable {α β : Type} {f : PyStr × α → PyStr × β}

theorem insertPair_map {p : PyStr × α} {pairs : List (PyStr × α)}
    (h : ∀ q ∈ pairs, strLe (f p).1 (f q).1 = strLe p.1 q.1) :
    insertPair (f p) (pairs.map f) = (insertPair p pairs).map f := by
  induction pairs with
  | nil => rfl
  | cons q pairs ih =>
      rw [List.map_cons, insertPair, insertPair, h q (List.mem_cons_self ..)]
      split
      · rfl
      · rw [ih fun q' hq' => h q' (List.mem_cons_of_mem q hq'), List.map_cons]

/-- A change of keys that keeps how they compare keeps their order. -/
theorem sortPairs_map {pairs : List (PyStr × α)}
    (h : ∀ p ∈ pairs, ∀ q ∈ pairs, strLe (f p).1 (f q).1 = strLe p.1 q.1) :
    sortPairs (pairs.map f) = (sortPairs pairs).map f := by
  induction pairs with
  | nil => rfl
  | cons p pairs ih =>
      have hrest := ih fun q hq r hr =>
        h q (List.mem_cons_of_mem p hq) r (List.mem_cons_of_mem p hr)
      rw [List.map_cons, sortPairs, sortPairs, hrest, insertPair_map fun q hq =>
        h p (List.mem_cons_self ..) q (List.mem_cons_of_mem p (mem_sortPairs.mp hq))]

end SortedPairs

theorem dumpsPairs_congr {γ : Type} {f g : γ → PyStr × Json} {l : List γ}
    (h : ∀ p ∈ l, dumpsStr (f p).1 = dumpsStr (g p).1 ∧ dumps (f p).2 = dumps (g p).2) :
    dumpsPairs (l.map f) = dumpsPairs (l.map g) := by
  induction l with
  | nil => rfl
  | cons p l ih =>
      have hp := h p (List.mem_cons_self ..)
      have hrest := ih fun q hq => h q (List.mem_cons_of_mem p hq)
      cases l with
      | nil =>
          show dumpsStr (f p).1 ++ ':' :: (dumps (f p).2 ++ ['}']) =
            dumpsStr (g p).1 ++ ':' :: (dumps (g p).2 ++ ['}'])
          rw [hp.1, hp.2]
      | cons q l =>
          show dumpsStr (f p).1 ++ ':' :: (dumps (f p).2 ++ ',' :: dumpsPairs ((q :: l).map f)) =
            dumpsStr (g p).1 ++ ':' :: (dumps (g p).2 ++ ',' :: dumpsPairs ((q :: l).map g))
          rw [hp.1, hp.2, hrest]

theorem sortKeysPairs_eq (pairs : List (PyStr × Json)) :
    sortKeysPairs pairs = pairs.map fun p => (p.1, sortKeys p.2) := by
  induction pairs with
  | nil => rfl
  | cons p pairs ih => rw [sortKeysPairs, ih, List.map_cons]

theorem reloadedPairs_eq (pairs : List (PyStr × Json)) :
    reloadedPairs pairs = pairs.map fun p => (rejoined p.1, reloaded p.2) := by
  induction pairs with
  | nil => rfl
  | cons p pairs ih => rw [reloadedPairs, ih, List.map_cons]

/-- The keys compare as before when their surrogates are joined. -/
def keysKeepOrder (keys : List PyStr) : Bool :=
  keys.all fun k => keys.all fun k' => strLe (rejoined k) (rejoined k') = strLe k k'

mutual

/-- So do the keys of every dictionary of the value. -/
def keepsOrder : Json → Bool
  | .arr items => keepsOrderItems items
  | .obj pairs => keysKeepOrder (pairs.map Prod.fst) && keepsOrderPairs pairs
  | _ => true

def keepsOrderItems : List Json → Bool
  | [] => true
  | v :: items => keepsOrder v && keepsOrderItems items

def keepsOrderPairs : List (PyStr × Json) → Bool
  | [] => true
  | (_, v) :: pairs => keepsOrder v && keepsOrderPairs pairs

end

mutual

/-- The keys of every dictionary are distinct. -/
def wellKeyed : Json → Bool
  | .arr items => wellKeyedItems items
  | .obj pairs => (pairs.map Prod.fst).Nodup && wellKeyedPairs pairs
  | _ => true

def wellKeyedItems : List Json → Bool
  | [] => true
  | v :: items => wellKeyed v && wellKeyedItems items

def wellKeyedPairs : List (PyStr × Json) → Bool
  | [] => true
  | (_, v) :: pairs => wellKeyed v && wellKeyedPairs pairs

end

theorem keysKeepOrder_iff {keys : List PyStr} : keysKeepOrder keys = true ↔
    ∀ k ∈ keys, ∀ k' ∈ keys, strLe (rejoined k) (rejoined k') = strLe k k' := by
  simp [keysKeepOrder]

theorem strLe_refl (s : PyStr) : strLe s s = true := by
  induction s with
  | nil => rfl
  | cons a s ih => simp [strLe, ih]

/-- Keys that keep their order stay distinct. -/
theorem nodup_rejoined {keys : List PyStr} (h : keysKeepOrder keys = true) (hnodup : keys.Nodup) :
    (keys.map rejoined).Nodup := by
  have horder := keysKeepOrder_iff.mp h
  refine List.Nodup.map_on (fun k hk k' hk' heq => ?_) hnodup
  have hle := horder k hk k' hk'
  have hge := horder k' hk' k hk
  rw [heq, strLe_refl] at hle
  rw [heq, strLe_refl] at hge
  exact strLe_antisymm hle.symm hge.symm

section Reload

variable {floatOf : List Char → FloatText}

/-- A dictionary whose keys keep their order. -/
theorem reloaded_obj {pairs : List (PyStr × Json)} (hkeys : (pairs.map Prod.fst).Nodup)
    (horder : keysKeepOrder (pairs.map Prod.fst) = true) :
    reloaded (.obj pairs) = .obj (pairs.map fun p => (rejoined p.1, reloaded p.2)) := by
  have hnodup := nodup_rejoined horder hkeys
  rw [reloaded, reloadedPairs_eq, dictOf_nodup]
  rwa [List.map_map] at hnodup ⊢

theorem dumps_sortKeys_obj {pairs : List (PyStr × Json)} (hkeys : (pairs.map Prod.fst).Nodup)
    (horder : keysKeepOrder (pairs.map Prod.fst) = true)
    (hpoints : ∀ p ∈ pairs, p.1.Points)
    (hvalues : ∀ p ∈ pairs, dumps (sortKeys (reloaded p.2)) = dumps (sortKeys p.2)) :
    dumps (sortKeys (reloaded (.obj pairs))) = dumps (sortKeys (.obj pairs)) := by
  have hcompare := keysKeepOrder_iff.mp horder
  have hsorted : sortPairs (pairs.map fun p => (rejoined p.1, sortKeys (reloaded p.2))) =
      (sortPairs pairs).map fun p => (rejoined p.1, sortKeys (reloaded p.2)) :=
    sortPairs_map fun p hp q hq =>
      hcompare p.1 (List.mem_map_of_mem hp) q.1 (List.mem_map_of_mem hq)
  have hsorted' : sortPairs (pairs.map fun p => (p.1, sortKeys p.2)) =
      (sortPairs pairs).map fun p => (p.1, sortKeys p.2) := sortPairs_map fun _ _ _ _ => rfl
  rw [reloaded_obj hkeys horder, sortKeys, sortKeys, dumps, dumps, sortKeysPairs_eq,
    sortKeysPairs_eq, List.map_map]
  show '{' :: dumpsPairs (sortPairs (pairs.map fun p => (rejoined p.1, sortKeys (reloaded p.2)))) =
    _
  rw [hsorted, hsorted']
  refine congrArg ('{' :: ·) (dumpsPairs_congr fun p hp => ?_)
  have hmem := mem_sortPairs.mp hp
  exact ⟨dumpsStr_rejoined (hpoints p hmem), hvalues p hmem⟩

theorem points_of_mem {pairs : List (PyStr × Json)} (h : ReadablePairs floatOf pairs)
    {p : PyStr × Json} (hp : p ∈ pairs) : p.1.Points := by
  induction pairs with
  | nil => exact absurd hp List.not_mem_nil
  | cons q pairs ih =>
      rcases List.mem_cons.mp hp with rfl | hp
      · exact h.1
      · exact ih h.2.2 hp

mutual

/-- The text with sorted keys is the same after the way through a text. -/
theorem dumps_sortKeys_reloaded (v : Json) (hv : Readable floatOf v) (hkeys : wellKeyed v = true)
    (horder : keepsOrder v = true) : dumps (sortKeys (reloaded v)) = dumps (sortKeys v) := by
  match v, hv with
  | .null, _ => rfl
  | .bool _, _ => rfl
  | .int _, _ => rfl
  | .float _, _ => rfl
  | .str t, ht => exact dumpsStr_rejoined ht
  | .arr items, hitems =>
      rw [reloaded, sortKeys, sortKeys, dumps, dumps,
        dumpsItems_sortKeys_reloaded items hitems hkeys horder]
  | .obj pairs, hpairs =>
      rw [wellKeyed, Bool.and_eq_true, decide_eq_true_eq] at hkeys
      rw [keepsOrder, Bool.and_eq_true] at horder
      exact dumps_sortKeys_obj hkeys.1 horder.1 (fun p hp => points_of_mem hpairs hp)
        (dumpsPairs_sortKeys_reloaded pairs hpairs hkeys.2 horder.2)

theorem dumpsItems_sortKeys_reloaded (items : List Json) (h : ReadableItems floatOf items)
    (hkeys : wellKeyedItems items = true) (horder : keepsOrderItems items = true) :
    dumpsItems (sortKeysItems (reloadedItems items)) = dumpsItems (sortKeysItems items) := by
  match items, h with
  | [], _ => rfl
  | [v], ⟨hv, _⟩ =>
      rw [wellKeyedItems, Bool.and_eq_true] at hkeys
      rw [keepsOrderItems, Bool.and_eq_true] at horder
      show dumps (sortKeys (reloaded v)) ++ [']'] = dumps (sortKeys v) ++ [']']
      rw [dumps_sortKeys_reloaded v hv hkeys.1 horder.1]
  | v :: v' :: items, ⟨hv, hitems⟩ =>
      rw [wellKeyedItems, Bool.and_eq_true] at hkeys
      rw [keepsOrderItems, Bool.and_eq_true] at horder
      have hrest := dumpsItems_sortKeys_reloaded (v' :: items) hitems hkeys.2 horder.2
      show dumps (sortKeys (reloaded v)) ++ ',' ::
          dumpsItems (sortKeysItems (reloadedItems (v' :: items))) =
        dumps (sortKeys v) ++ ',' :: dumpsItems (sortKeysItems (v' :: items))
      rw [dumps_sortKeys_reloaded v hv hkeys.1 horder.1, hrest]

theorem dumpsPairs_sortKeys_reloaded (pairs : List (PyStr × Json))
    (h : ReadablePairs floatOf pairs) (hkeys : wellKeyedPairs pairs = true)
    (horder : keepsOrderPairs pairs = true) :
    ∀ p ∈ pairs, dumps (sortKeys (reloaded p.2)) = dumps (sortKeys p.2) := by
  match pairs, h with
  | [], _ => exact fun _ hp => absurd hp List.not_mem_nil
  | (k, v) :: pairs, ⟨_, hv, hpairs⟩ =>
      rw [wellKeyedPairs, Bool.and_eq_true] at hkeys
      rw [keepsOrderPairs, Bool.and_eq_true] at horder
      intro p hp
      rcases List.mem_cons.mp hp with rfl | hp
      · exact dumps_sortKeys_reloaded v hv hkeys.1 horder.1
      · exact dumpsPairs_sortKeys_reloaded pairs hpairs hkeys.2 horder.2 p hp

end

/-! ### What a column of type `json` takes -/

mutual

/-- Numbers are finite, and strings have code points. -/
def storable : Json → Bool
  | .float x => finiteText x.text
  | .str t => t.all (· ≤ 0x10FFFF)
  | .arr items => storableItems items
  | .obj pairs => storablePairs pairs
  | _ => true

def storableItems : List Json → Bool
  | [] => true
  | v :: items => storable v && storableItems items

def storablePairs : List (PyStr × Json) → Bool
  | [] => true
  | (k, v) :: pairs => k.all (· ≤ 0x10FFFF) && storable v && storablePairs pairs

end

theorem points_of_all {t : PyStr} (h : t.all (· ≤ 0x10FFFF) = true) : t.Points := fun n hn =>
  of_decide_eq_true (List.all_eq_true.mp h n hn)

mutual

/-- The texts of the floats are those that `repr` gives: a float is read from each of them,
and written with it again. -/
def FloatReprs (floatOf : List Char → FloatText) : Json → Prop
  | .float x => floatOf x.text = x
  | .arr items => FloatReprsItems floatOf items
  | .obj pairs => FloatReprsPairs floatOf pairs
  | _ => True

def FloatReprsItems (floatOf : List Char → FloatText) : List Json → Prop
  | [] => True
  | v :: items => FloatReprs floatOf v ∧ FloatReprsItems floatOf items

def FloatReprsPairs (floatOf : List Char → FloatText) : List (PyStr × Json) → Prop
  | [] => True
  | (_, v) :: pairs => FloatReprs floatOf v ∧ FloatReprsPairs floatOf pairs

end

mutual

theorem readable_of_storable (v : Json) (hfloats : FloatReprs floatOf v) (h : storable v = true) :
    Readable floatOf v := by
  match v, h with
  | .null, _ => trivial
  | .bool _, _ => trivial
  | .int _, _ => trivial
  | .float x, hx => exact floatRead_of_finite hfloats hx
  | .str t, ht => exact points_of_all ht
  | .arr items, hitems => exact readableItems_of_storable items hfloats hitems
  | .obj pairs, hpairs => exact readablePairs_of_storable pairs hfloats hpairs

theorem readableItems_of_storable (items : List Json) (hfloats : FloatReprsItems floatOf items)
    (h : storableItems items = true) : ReadableItems floatOf items := by
  match items, h with
  | [], _ => trivial
  | v :: items, h =>
      rw [storableItems, Bool.and_eq_true] at h
      exact ⟨readable_of_storable v hfloats.1 h.1, readableItems_of_storable items hfloats.2 h.2⟩

theorem readablePairs_of_storable (pairs : List (PyStr × Json))
    (hfloats : FloatReprsPairs floatOf pairs) (h : storablePairs pairs = true) :
    ReadablePairs floatOf pairs := by
  match pairs, h with
  | [], _ => trivial
  | (k, v) :: pairs, h =>
      rw [storablePairs, Bool.and_eq_true, Bool.and_eq_true] at h
      exact ⟨points_of_all h.1.1, readable_of_storable v hfloats.1 h.1.2,
        readablePairs_of_storable pairs hfloats.2 h.2⟩

end

end Reload

end SitBank.Python
