import Mathlib.Data.List.Infix
import Mathlib.Data.List.Nodup
import Mathlib.Data.List.Perm.Basic

/-!
`collections.Counter`: a list of keys with their numbers, in the order of the first increments.
-/

namespace SitBank.Python

variable {α : Type} [DecidableEq α]

/-- `counter[key] += 1`. -/
def counterAdd (key : α) : List (α × ℕ) → List (α × ℕ)
  | [] => [(key, 1)]
  | p :: c => if p.1 = key then (key, p.2 + 1) :: c else p :: counterAdd key c

/-- The counter after one increment for each key. -/
def counter (keys : List α) : List (α × ℕ) :=
  keys.foldl (fun c key => counterAdd key c) []

theorem counter_concat (keys : List α) (key : α) :
    counter (keys ++ [key]) = counterAdd key (counter keys) := by
  rw [counter, List.foldl_append]
  rfl

theorem mem_map_counterAdd {key k : α} {c : List (α × ℕ)} :
    k ∈ (counterAdd key c).map Prod.fst ↔ k = key ∨ k ∈ c.map Prod.fst := by
  induction c with
  | nil => simp [counterAdd]
  | cons p c ih =>
      rw [counterAdd]
      split
      · next hp => simp [hp]
      · rw [List.map_cons, List.mem_cons, ih, List.map_cons, List.mem_cons]
        exact or_left_comm

theorem nodup_counterAdd {key : α} {c : List (α × ℕ)} (h : (c.map Prod.fst).Nodup) :
    ((counterAdd key c).map Prod.fst).Nodup := by
  induction c with
  | nil => exact List.nodup_singleton key
  | cons p c ih =>
      obtain ⟨hp, hc⟩ := List.nodup_cons.mp h
      rw [counterAdd]
      split
      · next heq =>
          subst heq
          exact h
      · next hne =>
          refine List.nodup_cons.mpr ⟨fun hmem => ?_, ih hc⟩
          exact (mem_map_counterAdd.mp hmem).elim hne hp

theorem nodup_counter (keys : List α) : ((counter keys).map Prod.fst).Nodup := by
  induction keys using List.reverseRecOn with
  | nil => exact List.nodup_nil
  | append_singleton keys key ih =>
      rw [counter_concat]
      exact nodup_counterAdd ih

/-- An increment changes one entry. -/
theorem mem_counterAdd {key k : α} {n : ℕ} {c : List (α × ℕ)} (h : (c.map Prod.fst).Nodup) :
    (k, n) ∈ counterAdd key c ↔ (k ≠ key ∧ (k, n) ∈ c) ∨
      (k = key ∧ (n = 1 ∧ key ∉ c.map Prod.fst ∨ ∃ m, n = m + 1 ∧ (key, m) ∈ c)) := by
  induction c with
  | nil => simp [counterAdd]
  | cons p c ih =>
      obtain ⟨hp, hc⟩ := List.nodup_cons.mp h
      have hrest {m : ℕ} {k : α} (hk : k = p.1) : (k, m) ∉ c :=
        fun hmem => hp (hk ▸ List.mem_map_of_mem hmem)
      rw [counterAdd]
      split
      · next heq =>
          subst heq
          simp only [List.mem_cons, Prod.mk.injEq, List.map_cons]
          constructor
          · rintro (⟨rfl, rfl⟩ | hmem)
            · exact .inr ⟨rfl, .inr ⟨p.2, rfl, .inl rfl⟩⟩
            · exact .inl ⟨fun hk => hrest hk hmem, .inr hmem⟩
          · rintro (⟨hk, heq | hmem⟩ | ⟨rfl, ⟨-, hno⟩ | ⟨m, rfl, heq | hmem⟩⟩)
            · exact absurd (congrArg Prod.fst heq) hk
            · exact .inr hmem
            · exact absurd (.inl trivial) hno
            · exact .inl ⟨rfl, by rw [← heq]⟩
            · exact absurd hmem (hrest rfl)
      · next hne =>
          rw [List.mem_cons, ih hc]
          simp only [List.mem_cons, List.map_cons]
          constructor
          · rintro (rfl | ⟨hk, hmem⟩ | ⟨rfl, ⟨rfl, hno⟩ | ⟨m, rfl, hmem⟩⟩)
            · exact .inl ⟨hne, .inl rfl⟩
            · exact .inl ⟨hk, .inr hmem⟩
            · exact .inr ⟨rfl, .inl ⟨rfl, fun hor => hor.elim (Ne.symm hne) hno⟩⟩
            · exact .inr ⟨rfl, .inr ⟨m, rfl, .inr hmem⟩⟩
          · rintro (⟨hk, rfl | hmem⟩ | ⟨rfl, ⟨rfl, hno⟩ | ⟨m, rfl, rfl | hmem⟩⟩)
            · exact .inl rfl
            · exact .inr (.inl ⟨hk, hmem⟩)
            · exact .inr (.inr ⟨rfl, .inl ⟨rfl, fun hmem => hno (.inr hmem)⟩⟩)
            · exact absurd rfl hne
            · exact .inr (.inr ⟨rfl, .inr ⟨m, rfl, hmem⟩⟩)

theorem mem_map_counter {keys : List α} {k : α} : k ∈ (counter keys).map Prod.fst ↔ k ∈ keys := by
  induction keys using List.reverseRecOn with
  | nil => rfl
  | append_singleton keys key ih =>
      rw [counter_concat, mem_map_counterAdd, ih, List.mem_append, List.mem_singleton, or_comm]

/-- The entries are the keys with the numbers of their increments. -/
theorem mem_counter {keys : List α} {k : α} {n : ℕ} :
    (k, n) ∈ counter keys ↔ 0 < n ∧ n = keys.countP fun key => decide (key = k) := by
  induction keys using List.reverseRecOn generalizing n with
  | nil =>
      refine ⟨fun h => absurd h List.not_mem_nil, ?_⟩
      rintro ⟨hpos, rfl⟩
      exact absurd hpos (Nat.lt_irrefl 0)
  | append_singleton keys key ih =>
      rw [counter_concat, mem_counterAdd (nodup_counter keys), List.countP_append,
        List.countP_singleton]
      by_cases hk : k = key
      · subst hk
        have hnone : k ∉ (counter keys).map Prod.fst ↔
            keys.countP (fun key => decide (key = k)) = 0 := by
          rw [mem_map_counter, List.countP_eq_zero]
          simp only [decide_eq_true_eq]
          exact ⟨fun h key hkey heq => h (heq ▸ hkey), fun h hmem => h k hmem rfl⟩
        simp only [ne_eq, not_true_eq_false, false_and, true_and, false_or, hnone, ih,
          decide_true, if_true]
        constructor
        · rintro (⟨rfl, hzero⟩ | ⟨m, rfl, -, rfl⟩)
          · exact ⟨Nat.one_pos, by rw [hzero]⟩
          · exact ⟨Nat.succ_pos _, rfl⟩
        · rintro ⟨-, rfl⟩
          rcases Nat.eq_zero_or_pos (keys.countP fun key => decide (key = k)) with hzero | hpos
          · exact .inl ⟨by rw [hzero], hzero⟩
          · exact .inr ⟨_, rfl, hpos, rfl⟩
      · simp [hk, Ne.symm hk, ih]

end SitBank.Python
