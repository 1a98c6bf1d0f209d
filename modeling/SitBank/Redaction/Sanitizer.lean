import Mathlib.Data.List.Infix
import SitBank.Python.Dict

/-!
Sanitizers of nested data.

A sanitizer walks through mappings and sequences down to a fixed depth and up to a number of
entries in each. Where the text of a key is sensitive, the value becomes a mark. What it does
not walk into becomes a text. The text of a key is cut before it is tested.

Two values differ only in sensitive places if they are equal once the values under sensitive
keys are erased, where keys are taken in full. Such values have equal results exactly if the
value is `Covered`: every key that is reached and sensitive in full is sensitive as it is
tested, and the text of what is not walked into does not depend on sensitive values.
-/

namespace SitBank.Redaction

open SitBank.Python

/-! ### Values -/

/-- What is kept as it is. -/
inductive Scalar
  | null
  | bool (b : Bool)
  | int (n : ℤ)
  | float (text : FloatText)

inductive SequenceKind
  | list
  | tuple
  /-- Any other `Sequence`, texts and bytes apart. -/
  | other
  deriving DecidableEq, Repr

inductive Value (Key : Type)
  | scalar (s : Scalar)
  | text (s : PyStr)
  /-- Any other object, by its `str`. -/
  | other (s : PyStr)
  | mapping (entries : List (Key × Value Key))
  | sequence (kind : SequenceKind) (items : List (Value Key))

/-- What a sanitizer does at each place. -/
structure Sanitizer (Key : Type) where
  /-- The text of a key, and the same without a limit. -/
  keyText : Key → PyStr
  fullKeyText : Key → PyStr
  casefold : PyStr → PyStr
  isSensitiveKey : PyStr → Bool
  redactedValue : PyStr
  /-- How deep the sanitizer goes, and how many entries it takes. -/
  depthLimit : ℕ
  itemLimit : ℕ
  descends : SequenceKind → Bool
  /-- The text shown for a value under a key in lower case. -/
  shownText : PyStr → Value Key → PyStr

/-! ### Dictionaries -/

section Dict

variable {α : Type}

/-- The dictionary after one assignment for each pair: a key stands where it was first
assigned, with its last value. -/
def dictAfter : List (PyStr × α) → List (PyStr × α)
  | [] => []
  | p :: pairs =>
      let rest := dictAfter pairs
      (p.1, (rest.lookup p.1).getD p.2) :: rest.filter fun q => q.1 ≠ p.1

theorem lookup_filter_ne {key key' : PyStr} (h : key ≠ key') (pairs : List (PyStr × α)) :
    (pairs.filter fun q => q.1 ≠ key').lookup key = pairs.lookup key := by
  induction pairs with
  | nil => rfl
  | cons p pairs ih =>
      by_cases hp : p.1 = key'
      · rw [List.filter_cons_of_neg (by simpa using hp), ih, lookup_cons_if,
          if_neg (fun heq => h (heq.trans hp))]
      · rw [List.filter_cons_of_pos (by simpa using hp), lookup_cons_if, lookup_cons_if, ih]

theorem lookup_dictAfter_cons (key : PyStr) (p : PyStr × α) (pairs : List (PyStr × α)) :
    (dictAfter (p :: pairs)).lookup key =
      if key = p.1 then some (((dictAfter pairs).lookup key).getD p.2)
      else (dictAfter pairs).lookup key := by
  rw [dictAfter, lookup_cons_if]
  split
  · next heq => rw [heq]
  · next hne => exact lookup_filter_ne hne _

theorem lookup_dictAfter_eq_none {key : PyStr} {pairs : List (PyStr × α)} :
    (dictAfter pairs).lookup key = none ↔ key ∉ pairs.map Prod.fst := by
  induction pairs with
  | nil => simp [dictAfter]
  | cons p pairs ih =>
      rw [lookup_dictAfter_cons]
      by_cases hkey : key = p.1
      · simp [hkey]
      · rw [if_neg hkey, ih]
        simp [hkey]

/-- The last value of a key. -/
theorem lookup_dictAfter_last {key : PyStr} {value : α} {pairs : List (PyStr × α)}
    (h : key ∉ pairs.map Prod.fst) :
    (dictAfter ((key, value) :: pairs)).lookup key = some value := by
  rw [lookup_dictAfter_cons, if_pos rfl, lookup_dictAfter_eq_none.mpr h, Option.getD_none]

/-- The first assignment does not matter to the others. -/
theorem lookup_dictAfter_tail {p : PyStr × α} {pairs pairs' : List (PyStr × α)}
    (hkeys : pairs'.map Prod.fst = pairs.map Prod.fst)
    (h : ∀ key, (dictAfter (p :: pairs')).lookup key = (dictAfter (p :: pairs)).lookup key)
    (key : PyStr) : (dictAfter pairs').lookup key = (dictAfter pairs).lookup key := by
  by_cases hmem : key ∈ pairs.map Prod.fst
  · have hsome (l : List (PyStr × α)) (hl : key ∈ l.map Prod.fst) :
        (dictAfter (p :: l)).lookup key = (dictAfter l).lookup key := by
      obtain ⟨value, hvalue⟩ := Option.ne_none_iff_exists'.mp
        (fun hnone => lookup_dictAfter_eq_none.mp hnone hl)
      rw [lookup_dictAfter_cons, hvalue]
      split <;> rfl
    rw [← hsome pairs hmem, ← hsome pairs' (hkeys ▸ hmem)]
    exact h key
  · rw [lookup_dictAfter_eq_none.mpr hmem, lookup_dictAfter_eq_none.mpr (hkeys ▸ hmem)]

theorem dictAfter_cons_congr {key : PyStr} {value value' : α} {pairs pairs' : List (PyStr × α)}
    (hrest : dictAfter pairs' = dictAfter pairs) (h : key ∈ pairs.map Prod.fst ∨ value' = value) :
    dictAfter ((key, value') :: pairs') = dictAfter ((key, value) :: pairs) := by
  rw [dictAfter, dictAfter]
  dsimp only
  rw [hrest]
  rcases h with hmem | rfl
  · obtain ⟨last, hlast⟩ := Option.ne_none_iff_exists'.mp
      (fun hnone => lookup_dictAfter_eq_none.mp hnone hmem)
    rw [hlast]
    rfl
  · rfl

end Dict

/-! ### The walk -/

section Walk

variable {Key : Type} (z : Sanitizer Key)

def Sanitizer.keyLower (key : Key) : PyStr := z.casefold (z.keyText key)

/-- The key is sensitive as it is tested. -/
def Sanitizer.redacts (key : Key) : Bool := z.isSensitiveKey (z.keyLower key)

/-- The key is sensitive in full. -/
def Sanitizer.protects (key : Key) : Bool := z.isSensitiveKey (z.casefold (z.fullKeyText key))

mutual

def sanitizeValue (keyLower : PyStr) (depth : ℕ) : Value Key → Value PyStr
  | .scalar s => .scalar s
  | .text s => .text (z.shownText keyLower (.text s))
  | .other s => .text (z.shownText keyLower (.other s))
  | .mapping entries =>
      if depth < z.depthLimit then
        .mapping (dictAfter (sanitizeEntries (depth + 1) z.itemLimit entries))
      else .text (z.shownText keyLower (.mapping entries))
  | .sequence kind items =>
      if depth < z.depthLimit ∧ z.descends kind then
        .sequence .list (sanitizeItems keyLower (depth + 1) z.itemLimit items)
      else .text (z.shownText keyLower (.sequence kind items))

/-- The first entries, with their values at this depth. -/
def sanitizeEntries (depth : ℕ) : ℕ → List (Key × Value Key) → List (PyStr × Value PyStr)
  | _, [] => []
  | 0, _ :: _ => []
  | n + 1, (key, value) :: entries =>
      (z.keyText key,
        if z.redacts key then .text z.redactedValue
        else sanitizeValue (z.keyLower key) depth value) :: sanitizeEntries depth n entries

def sanitizeItems (keyLower : PyStr) (depth : ℕ) : ℕ → List (Value Key) → List (Value PyStr)
  | _, [] => []
  | 0, _ :: _ => []
  | n + 1, value :: items =>
      sanitizeValue keyLower depth value :: sanitizeItems keyLower depth n items

end

mutual

/-- The value without what stands under sensitive keys. -/
def erase : Value Key → Value Key
  | .scalar s => .scalar s
  | .text s => .text s
  | .other s => .other s
  | .mapping entries => .mapping (eraseEntries entries)
  | .sequence kind items => .sequence kind (eraseItems items)

def eraseEntries : List (Key × Value Key) → List (Key × Value Key)
  | [] => []
  | (key, value) :: entries =>
      (key, if z.protects key then .scalar .null else erase value) :: eraseEntries entries

def eraseItems : List (Value Key) → List (Value Key)
  | [] => []
  | value :: items => erase value :: eraseItems items

end

/-- The text shown for the value does not depend on what stands under sensitive keys. -/
def Settled (keyLower : PyStr) (value : Value Key) : Prop :=
  ∀ value', erase z value' = erase z value →
    z.shownText keyLower value' = z.shownText keyLower value

mutual

def Covered (keyLower : PyStr) (depth : ℕ) : Value Key → Prop
  | .scalar _ => True
  | .text _ => True
  | .other _ => True
  | .mapping entries =>
      if depth < z.depthLimit then CoveredEntries (depth + 1) z.itemLimit entries
      else Settled z keyLower (.mapping entries)
  | .sequence kind items =>
      if depth < z.depthLimit ∧ z.descends kind then
        CoveredItems keyLower (depth + 1) z.itemLimit items
      else Settled z keyLower (.sequence kind items)

/-- An entry counts unless a later one has the same text as its key. -/
def CoveredEntries (depth : ℕ) : ℕ → List (Key × Value Key) → Prop
  | _, [] => True
  | 0, _ :: _ => True
  | n + 1, (key, value) :: entries =>
      (z.keyText key ∈ (entries.take n).map (fun p => z.keyText p.1) ∨ z.redacts key = true ∨
        z.protects key = false ∧ Covered (z.keyLower key) depth value) ∧
      CoveredEntries depth n entries

def CoveredItems (keyLower : PyStr) (depth : ℕ) : ℕ → List (Value Key) → Prop
  | _, [] => True
  | 0, _ :: _ => True
  | n + 1, value :: items => Covered keyLower depth value ∧ CoveredItems keyLower depth n items

end

end Walk

/-! ### Covered values have one result -/

section Equal

variable {Key : Type} {z : Sanitizer Key}

theorem keys_sanitizeEntries (depth n : ℕ) (entries : List (Key × Value Key)) :
    (sanitizeEntries z depth n entries).map Prod.fst =
      (entries.take n).map fun p => z.keyText p.1 := by
  induction entries generalizing n with
  | nil => cases n <;> simp [sanitizeEntries]
  | cons p entries ih =>
      cases n with
      | zero => simp [sanitizeEntries]
      | succ n =>
          rw [sanitizeEntries, List.map_cons, ih, List.take_succ_cons, List.map_cons]

/-- Erasing keeps the keys. -/
theorem keys_of_eraseEntries {entries entries' : List (Key × Value Key)}
    (h : eraseEntries z entries' = eraseEntries z entries) :
    entries'.map Prod.fst = entries.map Prod.fst := by
  have hkeys (l : List (Key × Value Key)) :
      (eraseEntries z l).map Prod.fst = l.map Prod.fst := by
    induction l with
    | nil => rfl
    | cons p l ih => rw [eraseEntries, List.map_cons, List.map_cons, ih]
  rw [← hkeys entries', ← hkeys entries, h]

theorem keys_sanitizeEntries_congr {entries entries' : List (Key × Value Key)}
    (h : eraseEntries z entries' = eraseEntries z entries) (depth n : ℕ) :
    (sanitizeEntries z depth n entries').map Prod.fst =
      (sanitizeEntries z depth n entries).map Prod.fst := by
  have htake (l : List (Key × Value Key)) :
      (l.take n).map (fun p => z.keyText p.1) = ((l.map Prod.fst).take n).map z.keyText := by
    rw [← List.map_take, List.map_map]
    rfl
  rw [keys_sanitizeEntries, keys_sanitizeEntries, htake, htake, keys_of_eraseEntries h]

theorem mapping_of_erase {v : Value Key} {entries : List (Key × Value Key)}
    (h : erase z v = erase z (.mapping entries)) :
    ∃ entries', v = .mapping entries' ∧ eraseEntries z entries' = eraseEntries z entries := by
  cases v with
  | mapping entries' => exact ⟨entries', rfl, Value.mapping.inj h⟩
  | scalar _ => cases h
  | text _ => cases h
  | other _ => cases h
  | sequence _ _ => cases h

theorem sequence_of_erase {v : Value Key} {kind : SequenceKind} {items : List (Value Key)}
    (h : erase z v = erase z (.sequence kind items)) :
    ∃ items', v = .sequence kind items' ∧ eraseItems z items' = eraseItems z items := by
  cases v with
  | sequence kind' items' =>
      obtain ⟨rfl, hitems⟩ := Value.sequence.inj h
      exact ⟨items', rfl, hitems⟩
  | scalar _ => cases h
  | text _ => cases h
  | other _ => cases h
  | mapping _ => cases h

mutual

theorem sanitizeValue_of_covered (keyLower : PyStr) (depth : ℕ) :
    ∀ {v v' : Value Key}, Covered z keyLower depth v → erase z v' = erase z v →
      sanitizeValue z keyLower depth v' = sanitizeValue z keyLower depth v
  | .scalar s, v', _, h => by
      cases v' <;> cases h
      rfl
  | .text s, v', _, h => by
      cases v' <;> cases h
      rfl
  | .other s, v', _, h => by
      cases v' <;> cases h
      rfl
  | .mapping entries, v', hcovered, h => by
      obtain ⟨entries', rfl, hentries⟩ := mapping_of_erase h
      rw [Covered] at hcovered
      rw [sanitizeValue, sanitizeValue]
      split at hcovered
      · next hdepth =>
          rw [if_pos hdepth, if_pos hdepth, dictAfter_of_covered (depth + 1) _ hcovered hentries]
      · next hdepth => rw [if_neg hdepth, if_neg hdepth, hcovered _ h]
  | .sequence kind items, v', hcovered, h => by
      obtain ⟨items', rfl, hitems⟩ := sequence_of_erase h
      rw [Covered] at hcovered
      rw [sanitizeValue, sanitizeValue]
      split at hcovered
      · next hdepth =>
          rw [if_pos hdepth, if_pos hdepth, sanitizeItems_of_covered keyLower (depth + 1) _
            hcovered hitems]
      · next hdepth => rw [if_neg hdepth, if_neg hdepth, hcovered _ h]

theorem dictAfter_of_covered (depth : ℕ) :
    ∀ (n : ℕ) {entries entries' : List (Key × Value Key)}, CoveredEntries z depth n entries →
      eraseEntries z entries' = eraseEntries z entries →
      dictAfter (sanitizeEntries z depth n entries') = dictAfter (sanitizeEntries z depth n entries)
  | n, [], entries', _, h => by
      cases entries' with
      | nil => rfl
      | cons _ _ => cases h
  | 0, _ :: _, entries', _, h => by
      cases entries' with
      | nil => cases h
      | cons _ _ => rfl
  | n + 1, (key, value) :: entries, entries', hcovered, h => by
      cases entries' with
      | nil => cases h
      | cons p entries' =>
          obtain ⟨key', value'⟩ := p
          rw [CoveredEntries] at hcovered
          rw [eraseEntries, eraseEntries] at h
          obtain ⟨hhead, hrest⟩ := List.cons.inj h
          obtain ⟨rfl, hvalue⟩ := Prod.mk.inj hhead
          rw [sanitizeEntries, sanitizeEntries]
          refine dictAfter_cons_congr (dictAfter_of_covered depth n hcovered.2 hrest) ?_
          rw [keys_sanitizeEntries]
          -- the key is written again later, or redacted, or its value is covered
          rcases hcovered.1 with hlater | hredacts | ⟨hprotects, hinner⟩
          · exact .inl hlater
          · rw [if_pos hredacts, if_pos hredacts]
            exact .inr rfl
          · rw [if_neg (by rw [hprotects]; exact Bool.false_ne_true),
              if_neg (by rw [hprotects]; exact Bool.false_ne_true)] at hvalue
            rw [sanitizeValue_of_covered (z.keyLower key') depth hinner hvalue]
            exact .inr rfl

theorem sanitizeItems_of_covered (keyLower : PyStr) (depth : ℕ) :
    ∀ (n : ℕ) {items items' : List (Value Key)}, CoveredItems z keyLower depth n items →
      eraseItems z items' = eraseItems z items →
      sanitizeItems z keyLower depth n items' = sanitizeItems z keyLower depth n items
  | n, [], items', _, h => by
      cases items' with
      | nil => rfl
      | cons _ _ => cases h
  | 0, _ :: _, items', _, h => by
      cases items' with
      | nil => cases h
      | cons _ _ => rfl
  | n + 1, value :: items, items', hcovered, h => by
      cases items' with
      | nil => cases h
      | cons value' items' =>
          rw [CoveredItems] at hcovered
          rw [eraseItems, eraseItems] at h
          obtain ⟨hvalue, hrest⟩ := List.cons.inj h
          rw [sanitizeItems, sanitizeItems,
            sanitizeValue_of_covered keyLower depth hcovered.1 hvalue,
            sanitizeItems_of_covered keyLower depth n hcovered.2 hrest]

end

/-! ### Values with one result are covered -/

mutual

theorem covered_of_sanitizeValue (keyLower : PyStr) (depth : ℕ) :
    ∀ {v : Value Key}, (∀ v', erase z v' = erase z v →
        sanitizeValue z keyLower depth v' = sanitizeValue z keyLower depth v) →
      Covered z keyLower depth v
  | .scalar s, _ => trivial
  | .text s, _ => trivial
  | .other s, _ => trivial
  | .mapping entries, h => by
      rw [Covered]
      split
      · next hdepth =>
          refine coveredEntries_of_lookup (depth + 1) _ fun entries' hentries key => ?_
          have hsame := h (.mapping entries') (congrArg Value.mapping hentries)
          rw [sanitizeValue, sanitizeValue, if_pos hdepth, if_pos hdepth] at hsame
          rw [Value.mapping.inj hsame]
      · next hdepth =>
          intro v' hv
          obtain ⟨entries', rfl, -⟩ := mapping_of_erase hv
          have hsame := h _ hv
          rw [sanitizeValue, sanitizeValue, if_neg hdepth, if_neg hdepth] at hsame
          exact Value.text.inj hsame
  | .sequence kind items, h => by
      rw [Covered]
      split
      · next hdepth =>
          refine coveredItems_of_sanitizeItems keyLower (depth + 1) _ fun items' hitems => ?_
          have hsame := h (.sequence kind items') (congrArg (Value.sequence kind) hitems)
          rw [sanitizeValue, sanitizeValue, if_pos hdepth, if_pos hdepth] at hsame
          exact (Value.sequence.inj hsame).2
      · next hdepth =>
          intro v' hv
          obtain ⟨items', rfl, -⟩ := sequence_of_erase hv
          have hsame := h _ hv
          rw [sanitizeValue, sanitizeValue, if_neg hdepth, if_neg hdepth] at hsame
          exact Value.text.inj hsame

theorem coveredEntries_of_lookup (depth : ℕ) :
    ∀ (n : ℕ) {entries : List (Key × Value Key)},
      (∀ entries', eraseEntries z entries' = eraseEntries z entries → ∀ key,
        (dictAfter (sanitizeEntries z depth n entries')).lookup key =
          (dictAfter (sanitizeEntries z depth n entries)).lookup key) →
      CoveredEntries z depth n entries
  | n, [], _ => trivial
  | 0, _ :: _, _ => trivial
  | n + 1, (key, value) :: entries, h => by
      rw [CoveredEntries]
      constructor
      · refine Decidable.or_iff_not_imp_left.mpr fun hlast => ?_
        refine Decidable.or_iff_not_imp_left.mpr fun hredacts => ?_
        rw [← keys_sanitizeEntries depth] at hlast
        -- only this entry is changed
        have hvalue (value' : Value Key)
            (herase : (if z.protects key then .scalar .null else erase z value') =
              if z.protects key then .scalar .null else erase z value) :
            sanitizeValue z (z.keyLower key) depth value' =
              sanitizeValue z (z.keyLower key) depth value := by
          have hentries : eraseEntries z ((key, value') :: entries) =
              eraseEntries z ((key, value) :: entries) := by
            rw [eraseEntries, eraseEntries, herase]
          have hsame := h _ hentries (z.keyText key)
          rw [sanitizeEntries, sanitizeEntries, if_neg hredacts, if_neg hredacts,
            lookup_dictAfter_last hlast, lookup_dictAfter_last hlast] at hsame
          exact Option.some.inj hsame
        by_cases hprotects : z.protects key = true
        · -- any value could stand here
          have hint (m : ℤ) : sanitizeValue z (z.keyLower key) depth (.scalar (.int m)) =
              sanitizeValue z (z.keyLower key) depth value := by
            refine hvalue _ ?_
            rw [if_pos hprotects, if_pos hprotects]
          have hbad := (hint 0).trans (hint 1).symm
          rw [sanitizeValue, sanitizeValue] at hbad
          cases hbad
        · refine ⟨Bool.not_eq_true _ ▸ hprotects, covered_of_sanitizeValue _ _ fun value' hv => ?_⟩
          refine hvalue value' ?_
          rw [if_neg hprotects, if_neg hprotects, hv]
      · refine coveredEntries_of_lookup depth n fun entries' hentries => ?_
        have htail := h ((key, value) :: entries') (by rw [eraseEntries, eraseEntries, hentries])
        rw [sanitizeEntries, sanitizeEntries] at htail
        exact lookup_dictAfter_tail (keys_sanitizeEntries_congr hentries depth n) htail

theorem coveredItems_of_sanitizeItems (keyLower : PyStr) (depth : ℕ) :
    ∀ (n : ℕ) {items : List (Value Key)}, (∀ items', eraseItems z items' = eraseItems z items →
        sanitizeItems z keyLower depth n items' = sanitizeItems z keyLower depth n items) →
      CoveredItems z keyLower depth n items
  | n, [], _ => trivial
  | 0, _ :: _, _ => trivial
  | n + 1, value :: items, h => by
      rw [CoveredItems]
      constructor
      · refine covered_of_sanitizeValue keyLower depth fun value' hv => ?_
        have hsame := h (value' :: items) (by rw [eraseItems, eraseItems, hv])
        rw [sanitizeItems, sanitizeItems] at hsame
        exact (List.cons.inj hsame).1
      · refine coveredItems_of_sanitizeItems keyLower depth n fun items' hitems => ?_
        have hsame := h (value :: items') (by rw [eraseItems, eraseItems, hitems])
        rw [sanitizeItems, sanitizeItems] at hsame
        exact (List.cons.inj hsame).2

end

variable (z) in
/-- A whole dictionary: all entries are taken, and their values are at depth 0. -/
def sanitizeDict (entries : List (Key × Value Key)) : List (PyStr × Value PyStr) :=
  dictAfter (sanitizeEntries z 0 entries.length entries)

variable (z) in
def CoveredDict (entries : List (Key × Value Key)) : Prop :=
  CoveredEntries z 0 entries.length entries

variable (z) in
theorem sanitizeDict_eq_iff_covered (entries : List (Key × Value Key)) :
    (∀ entries', eraseEntries z entries' = eraseEntries z entries →
      sanitizeDict z entries' = sanitizeDict z entries) ↔ CoveredDict z entries := by
  have hlength {entries' : List (Key × Value Key)}
      (h : eraseEntries z entries' = eraseEntries z entries) :
      entries'.length = entries.length := by
    rw [← List.length_map Prod.fst, keys_of_eraseEntries h, List.length_map]
  constructor
  · intro h
    refine coveredEntries_of_lookup 0 _ fun entries' hentries key => ?_
    have hsame := h entries' hentries
    unfold sanitizeDict at hsame
    rw [hlength hentries] at hsame
    rw [hsame]
  · intro hcovered entries' hentries
    unfold sanitizeDict
    rw [hlength hentries]
    exact dictAfter_of_covered 0 _ hcovered hentries

/-! ### Values without sensitive keys -/

mutual

/-- There is a sensitive key in the value. -/
def holdsSensitive (z : Sanitizer Key) : Value Key → Bool
  | .scalar _ => false
  | .text _ => false
  | .other _ => false
  | .mapping entries => entriesHoldSensitive z entries
  | .sequence _ items => itemsHoldSensitive z items

def entriesHoldSensitive (z : Sanitizer Key) : List (Key × Value Key) → Bool
  | [] => false
  | (key, value) :: entries =>
      z.protects key || holdsSensitive z value || entriesHoldSensitive z entries

def itemsHoldSensitive (z : Sanitizer Key) : List (Value Key) → Bool
  | [] => false
  | value :: items => holdsSensitive z value || itemsHoldSensitive z items

end

mutual

/-- A value without sensitive keys is determined by its keys and values. -/
theorem eq_of_erase : ∀ {v v' : Value Key}, holdsSensitive z v = false →
    erase z v' = erase z v → v' = v
  | .scalar s, v', _, h => by
      cases v' <;> cases h
      rfl
  | .text s, v', _, h => by
      cases v' <;> cases h
      rfl
  | .other s, v', _, h => by
      cases v' <;> cases h
      rfl
  | .mapping entries, v', hnone, h => by
      obtain ⟨entries', rfl, hentries⟩ := mapping_of_erase h
      rw [eq_of_eraseEntries hnone hentries]
  | .sequence kind items, v', hnone, h => by
      obtain ⟨items', rfl, hitems⟩ := sequence_of_erase h
      rw [eq_of_eraseItems hnone hitems]

theorem eq_of_eraseEntries : ∀ {entries entries' : List (Key × Value Key)},
    entriesHoldSensitive z entries = false → eraseEntries z entries' = eraseEntries z entries →
      entries' = entries
  | [], entries', _, h => by
      cases entries' with
      | nil => rfl
      | cons _ _ => cases h
  | (key, value) :: entries, entries', hnone, h => by
      cases entries' with
      | nil => cases h
      | cons p entries' =>
          obtain ⟨key', value'⟩ := p
          rw [eraseEntries, eraseEntries] at h
          obtain ⟨hhead, hrest⟩ := List.cons.inj h
          obtain ⟨rfl, hvalue⟩ := Prod.mk.inj hhead
          rw [entriesHoldSensitive, Bool.or_eq_false_iff, Bool.or_eq_false_iff] at hnone
          obtain ⟨⟨hkey, hinner⟩, hentries⟩ := hnone
          have hkey' : ¬z.protects key' = true := by rw [hkey]; exact Bool.false_ne_true
          rw [if_neg hkey', if_neg hkey'] at hvalue
          rw [eq_of_erase hinner hvalue, eq_of_eraseEntries hentries hrest]

theorem eq_of_eraseItems : ∀ {items items' : List (Value Key)},
    itemsHoldSensitive z items = false → eraseItems z items' = eraseItems z items → items' = items
  | [], items', _, h => by
      cases items' with
      | nil => rfl
      | cons _ _ => cases h
  | value :: items, items', hnone, h => by
      cases items' with
      | nil => cases h
      | cons value' items' =>
          rw [eraseItems, eraseItems] at h
          obtain ⟨hvalue, hrest⟩ := List.cons.inj h
          rw [itemsHoldSensitive, Bool.or_eq_false_iff] at hnone
          rw [eq_of_erase hnone.1 hvalue, eq_of_eraseItems hnone.2 hrest]

end

/-- What is not walked into is settled where it holds no sensitive key. -/
theorem settled_of_no_sensitive {keyLower : PyStr} {v : Value Key}
    (h : holdsSensitive z v = false) : Settled z keyLower v := by
  intro v' hv
  rw [eq_of_erase h hv]

end Equal

end SitBank.Redaction
