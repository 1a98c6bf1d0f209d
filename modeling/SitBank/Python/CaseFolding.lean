import SitBank.Python.Dict

/-!
`str.casefold`, which folds one character after the other and can make the text longer.

The table is a parameter. Of the Unicode case folding it is used that folded characters
stay as they are, that ASCII is brought to lower case, and that characters outside ASCII
become letters of ASCII or characters outside it, white space only from white space.
-/

namespace SitBank.Python

structure CaseFolding where
  fold : ℕ → PyStr
  fold_ascii : ∀ n, n < 128 → fold n = [lowerCode n]
  fold_ne_nil : ∀ n, fold n ≠ []
  fold_fold : ∀ n, ∀ m ∈ fold n, fold m = [m]
  fold_code : ∀ n, 128 ≤ n → ∀ m ∈ fold n, (97 ≤ m ∧ m ≤ 122 ∨ 128 ≤ m) ∧
    PyStr.strip.spaceCode m = PyStr.strip.spaceCode n

namespace CaseFolding

variable (t : CaseFolding)

def casefold (s : PyStr) : PyStr := s.flatMap t.fold

variable {t} {s : PyStr} {m n : ℕ}

theorem casefold_append (s s' : PyStr) : t.casefold (s ++ s') = t.casefold s ++ t.casefold s' :=
  List.flatMap_append

theorem casefold_of_fixed (h : ∀ n ∈ s, t.fold n = [n]) : t.casefold s = s := by
  induction s with
  | nil => rfl
  | cons n s ih =>
      obtain ⟨hn, hs⟩ := List.forall_mem_cons.mp h
      have htail : s.flatMap t.fold = s := ih hs
      rw [casefold, List.flatMap_cons, hn, htail]
      rfl

theorem casefold_casefold (s : PyStr) : t.casefold (t.casefold s) = t.casefold s := by
  refine casefold_of_fixed fun m hm => ?_
  obtain ⟨n, -, hn⟩ := List.mem_flatMap.mp hm
  exact t.fold_fold n m hn

theorem casefold_ne_nil (h : s ≠ []) : t.casefold s ≠ [] := by
  cases s with
  | nil => exact absurd rfl h
  | cons n s =>
      rw [casefold, List.flatMap_cons]
      exact List.append_ne_nil_of_left_ne_nil (t.fold_ne_nil n) _

/-- A character that is no letter only comes from itself. -/
theorem eq_of_mem_fold (hm : m ∈ t.fold n) (hplain : m < 97 ∨ 122 < m ∧ m < 128) : m = n := by
  by_cases hn : n < 128
  · rw [t.fold_ascii n hn, List.mem_singleton] at hm
    subst hm
    unfold lowerCode at hplain ⊢
    split at hplain
    · omega
    · next hupper => rw [if_neg hupper]
  · have := (t.fold_code n (by omega) m hm).1
    omega

theorem spaceCode_of_mem_fold (hm : m ∈ t.fold n) :
    PyStr.strip.spaceCode m = PyStr.strip.spaceCode n := by
  by_cases hn : n < 128
  · rw [t.fold_ascii n hn, List.mem_singleton] at hm
    rw [hm, spaceCode_lowerCode]
  · exact (t.fold_code n (by omega) m hm).2

theorem mem_of_mem_casefold (hm : m ∈ t.casefold s) (hplain : m < 97 ∨ 122 < m ∧ m < 128) :
    m ∈ s := by
  obtain ⟨n, hn, hfold⟩ := List.mem_flatMap.mp hm
  rwa [eq_of_mem_fold hfold hplain]

theorem spaceCode_of_mem_casefold (h : ∀ n ∈ s, PyStr.strip.spaceCode n = false) :
    ∀ m ∈ t.casefold s, PyStr.strip.spaceCode m = false := by
  intro m hm
  obtain ⟨n, hn, hfold⟩ := List.mem_flatMap.mp hm
  rw [spaceCode_of_mem_fold hfold, h n hn]

/-- What starts or ends a folded text starts or ends the text, when it is no letter. -/
theorem head?_of_casefold (hplain : m < 97 ∨ 122 < m ∧ m < 128)
    (h : (t.casefold s).head? = some m) : s.head? = some m := by
  cases s with
  | nil => cases h
  | cons n s =>
      rw [casefold, List.flatMap_cons, List.head?_append_of_ne_nil _ (t.fold_ne_nil n)] at h
      rw [eq_of_mem_fold (List.mem_of_mem_head? h) hplain]
      rfl

theorem getLast?_of_casefold (hplain : m < 97 ∨ 122 < m ∧ m < 128)
    (h : (t.casefold s).getLast? = some m) : s.getLast? = some m := by
  rcases List.eq_nil_or_concat' s with rfl | ⟨init, n, rfl⟩
  · cases h
  · rw [casefold_append] at h
    have hlast : t.casefold [n] = t.fold n := List.flatMap_singleton ..
    rw [hlast, List.getLast?_append_of_ne_nil _ (t.fold_ne_nil n)] at h
    rw [eq_of_mem_fold (List.mem_of_getLast? h) hplain]
    exact List.getLast?_concat ..

end CaseFolding

end SitBank.Python
