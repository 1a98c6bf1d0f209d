import Mathlib.Data.List.Infix

/-!
`str.find`, and the loop that goes through all places where a text occurs.

`while True: i = s.find(sub, cursor); …; cursor = i + 1` tries every place at which `sub` stands,
overlapping ones too. Each turn moves the cursor, so that one turn more than there are characters
is enough.
-/

namespace SitBank.Python

variable {α β : Type} [DecidableEq α]

/-- `s.find(sub)`. -/
def find (sub : List α) : List α → Option ℕ
  | [] => if sub = [] then some 0 else none
  | c :: s => if sub.isPrefixOf (c :: s) then some 0 else (find sub s).map (· + 1)

/-- `s.find(sub, start)`, for a text that is not empty. -/
def findFrom (sub s : List α) (start : ℕ) : Option ℕ :=
  (find sub (s.drop start)).map (start + ·)

/-- Some place from `cursor` on passes the test; `n` turns are left. -/
def searchLoop (sub s : List α) (test : ℕ → Bool) : ℕ → ℕ → Bool
  | 0, _ => false
  | n + 1, cursor =>
      match findFrom sub s cursor with
      | none => false
      | some i => if test i then true else searchLoop sub s test n (i + 1)

variable {sub s : List α}

theorem find_eq_none (h : find sub s = none) (i : ℕ) : ¬sub <+: s.drop i := by
  induction s generalizing i with
  | nil =>
      rw [find] at h
      split at h
      · cases h
      · next hsub => rwa [List.drop_nil, List.prefix_nil]
  | cons c s ih =>
      rw [find] at h
      split at h
      · cases h
      · next hprefix =>
          cases i with
          | zero => rwa [List.drop_zero, ← List.isPrefixOf_iff_prefix]
          | succ i => exact ih (Option.map_eq_none_iff.mp h) i

theorem find_eq_some {i : ℕ} (h : find sub s = some i) :
    sub <+: s.drop i ∧ ∀ j < i, ¬sub <+: s.drop j := by
  induction s generalizing i with
  | nil =>
      rw [find] at h
      split at h
      · next hsub =>
          cases h
          exact ⟨hsub ▸ List.nil_prefix, fun j hj => absurd hj (Nat.not_lt_zero j)⟩
      · cases h
  | cons c s ih =>
      rw [find] at h
      split at h
      · next hprefix =>
          cases h
          exact ⟨List.isPrefixOf_iff_prefix.mp hprefix, fun j hj => absurd hj (Nat.not_lt_zero j)⟩
      · next hprefix =>
          obtain ⟨k, hk, rfl⟩ := Option.map_eq_some_iff.mp h
          obtain ⟨hhere, hbefore⟩ := ih hk
          refine ⟨hhere, fun j hj => ?_⟩
          cases j with
          | zero => rwa [List.drop_zero, ← List.isPrefixOf_iff_prefix]
          | succ j => exact hbefore j (Nat.lt_of_succ_lt_succ hj)

theorem findFrom_eq_none {start : ℕ} (h : findFrom sub s start = none) {i : ℕ} (hi : start ≤ i) :
    ¬sub <+: s.drop i := by
  have hnone := find_eq_none (Option.map_eq_none_iff.mp h) (i - start)
  rwa [List.drop_drop, Nat.add_sub_cancel' hi] at hnone

theorem findFrom_eq_some {start i : ℕ} (h : findFrom sub s start = some i) :
    start ≤ i ∧ sub <+: s.drop i ∧ ∀ j, start ≤ j → j < i → ¬sub <+: s.drop j := by
  obtain ⟨k, hk, rfl⟩ := Option.map_eq_some_iff.mp h
  obtain ⟨hhere, hbefore⟩ := find_eq_some hk
  rw [List.drop_drop] at hhere
  refine ⟨Nat.le_add_right .., hhere, fun j hj hlt => ?_⟩
  have := hbefore (j - start) (by omega)
  rwa [List.drop_drop, Nat.add_sub_cancel' hj] at this

/-- The loop tries every place. -/
theorem searchLoop_iff (hsub : sub ≠ []) (test : ℕ → Bool) {n cursor : ℕ}
    (hn : s.length < n + cursor) : searchLoop sub s test n cursor = true ↔
      ∃ i, cursor ≤ i ∧ sub <+: s.drop i ∧ test i = true := by
  induction n generalizing cursor with
  | zero =>
      refine ⟨fun h => absurd h Bool.false_ne_true, ?_⟩
      rintro ⟨i, hi, hprefix, -⟩
      rw [List.drop_eq_nil_of_le (by omega), List.prefix_nil] at hprefix
      exact absurd hprefix hsub
  | succ n ih =>
      rw [searchLoop]
      split
      · next hnone =>
          refine ⟨fun h => absurd h Bool.false_ne_true, ?_⟩
          rintro ⟨i, hi, hprefix, -⟩
          exact absurd hprefix (findFrom_eq_none hnone hi)
      · next i hsome =>
          obtain ⟨hi, hprefix, hbefore⟩ := findFrom_eq_some hsome
          split
          · next htest => exact ⟨fun _ => ⟨i, hi, hprefix, htest⟩, fun _ => rfl⟩
          · next htest =>
              rw [ih (by omega)]
              constructor
              · rintro ⟨j, hj, h⟩
                exact ⟨j, by omega, h⟩
              · rintro ⟨j, hj, hprefixj, htestj⟩
                refine ⟨j, ?_, hprefixj, htestj⟩
                rcases Nat.lt_trichotomy j i with hlt | rfl | hgt
                · exact absurd hprefixj (hbefore j hj hlt)
                · exact absurd htestj htest
                · exact hgt

omit [DecidableEq α] in
/-- Where the image of a text starts with `sub`, a piece of the text has that image. -/
theorem prefix_drop_map_iff {f : β → α} {text : List β} {i : ℕ} (hsub : sub ≠ []) :
    sub <+: (text.map f).drop i ↔ ∃ before piece rest,
      text = before ++ piece ++ rest ∧ before.length = i ∧ piece.map f = sub := by
  constructor
  · rintro ⟨rest, hrest⟩
    rw [← List.map_drop] at hrest
    obtain ⟨piece, after, hdrop, hpiece, -⟩ := List.map_eq_append_iff.mp hrest.symm
    have hlength : i ≤ text.length := by
      refine Nat.le_of_not_lt fun hlt => hsub ?_
      rw [List.drop_eq_nil_of_le (Nat.le_of_lt hlt)] at hdrop
      rw [← hpiece, (List.append_eq_nil_iff.mp hdrop.symm).1, List.map_nil]
    refine ⟨text.take i, piece, after, ?_, List.length_take_of_le hlength, hpiece⟩
    rw [List.append_assoc, ← hdrop, List.take_append_drop]
  · rintro ⟨before, piece, rest, rfl, rfl, rfl⟩
    rw [List.append_assoc, List.map_append, List.drop_left' (by rw [List.length_map]),
      List.map_append]
    exact List.prefix_append ..

end SitBank.Python
