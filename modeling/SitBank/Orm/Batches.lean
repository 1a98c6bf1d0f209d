import Mathlib

/-!
Deleting rows in batches.

A batch is the first rows of a query, up to a limit; what is deleted are the rows with their
keys. Where the keys of a table are different, the table is what is left and the batch
(`dropBatch_perm`), which is all that is needed to count. Repeated batches with growing
conditions reach an end: `Drained` says when.
-/

namespace SitBank.Orm

variable {α : Type}

/-! ### One batch -/

section Batch

variable (key : α → ℕ) (le : α → α → Bool) (p : α → Bool) (limit : ℕ) (rows : List α)

/-- `SELECT … WHERE p ORDER BY le LIMIT limit`. -/
def batch : List α := ((rows.filter p).mergeSort le).take limit

/-- `DELETE … WHERE key IN keys`. -/
def without (keys : List ℕ) : List α := rows.filter fun x => decide (key x ∉ keys)

def dropBatch : List α := without key rows ((batch le p limit rows).map key)

/-- `f` on the rows with these keys. -/
def updateRows (keys : List ℕ) (f : α → α) : List α :=
  rows.map fun x => if key x ∈ keys then f x else x

theorem batch_sublist_perm : ∃ rest, (batch le p limit rows ++ rest).Perm (rows.filter p) :=
  ⟨((rows.filter p).mergeSort le).drop limit, by
    rw [batch, List.take_append_drop]
    exact List.mergeSort_perm _ _⟩

variable {key le p limit rows}

theorem mem_batch {x : α} (h : x ∈ batch le p limit rows) : x ∈ rows ∧ p x = true :=
  List.mem_filter.mp ((List.mergeSort_perm _ _).mem_iff.mp (List.mem_of_mem_take h))

theorem length_batch : (batch le p limit rows).length = min limit (rows.countP p) := by
  rw [batch, List.length_take, List.length_mergeSort, List.countP_eq_length_filter]

/-- Everything is in the batch that fits. -/
theorem mem_batch_of_le (hlimit : rows.countP p ≤ limit) {x : α} (hx : x ∈ rows)
    (hp : p x = true) : x ∈ batch le p limit rows := by
  rw [batch, List.take_of_length_le]
  · exact (List.mergeSort_perm _ _).mem_iff.mpr (List.mem_filter.mpr ⟨hx, hp⟩)
  · rwa [List.length_mergeSort, ← List.countP_eq_length_filter]

theorem mem_without {keys : List ℕ} {x : α} :
    x ∈ without key rows keys ↔ x ∈ rows ∧ key x ∉ keys := by
  simp [without]

theorem without_sublist (keys : List ℕ) : List.Sublist (without key rows keys) rows :=
  List.filter_sublist

theorem mem_of_mem_dropBatch {x : α} (h : x ∈ dropBatch key le p limit rows) : x ∈ rows :=
  (mem_without.mp h).1

section Unique

variable (hunique : (rows.map key).Nodup)

include hunique

theorem key_inj {x y : α} (hx : x ∈ rows) (hy : y ∈ rows) (h : key x = key y) : x = y :=
  List.inj_on_of_nodup_map hunique hx hy h

theorem nodup_of_keys : rows.Nodup := hunique.of_map key

theorem nodup_without (keys : List ℕ) : ((without key rows keys).map key).Nodup :=
  hunique.sublist ((without_sublist keys).map key)

theorem mem_dropBatch {x : α} :
    x ∈ dropBatch key le p limit rows ↔ x ∈ rows ∧ x ∉ batch le p limit rows := by
  rw [dropBatch, mem_without]
  refine and_congr_right fun hx => not_congr ⟨fun h => ?_, fun h => List.mem_map_of_mem h⟩
  obtain ⟨y, hy, hkey⟩ := List.mem_map.mp h
  rwa [← key_inj hunique (mem_batch hy).1 hx hkey]

/-- A table is its batch and the rest. -/
theorem dropBatch_perm :
    (batch le p limit rows ++ dropBatch key le p limit rows).Perm rows := by
  obtain ⟨rest, hrest⟩ := batch_sublist_perm le p limit rows
  have hnodup : (batch le p limit rows).Nodup :=
    (hrest.nodup_iff.mpr ((nodup_of_keys hunique).filter p)).of_append_left
  refine (List.perm_ext_iff_of_nodup ?_ (nodup_of_keys hunique)).mpr fun x => ?_
  · refine List.nodup_append.mpr ⟨hnodup, (nodup_of_keys hunique).filter _, ?_⟩
    rintro x hx y hy rfl
    exact ((mem_dropBatch hunique).mp hy).2 hx
  · rw [List.mem_append, mem_dropBatch hunique]
    by_cases hx : x ∈ batch le p limit rows
    · simp [hx, (mem_batch hx).1]
    · simp [hx]

/-- What is not asked for stays. -/
theorem mem_dropBatch_of_neg {x : α} (hx : x ∈ rows) (hp : ¬p x = true) :
    x ∈ dropBatch key le p limit rows :=
  (mem_dropBatch hunique).mpr ⟨hx, fun h => hp (mem_batch h).2⟩

theorem length_dropBatch :
    (dropBatch key le p limit rows).length + (batch le p limit rows).length = rows.length := by
  rw [← (dropBatch_perm hunique).length_eq, List.length_append, Nat.add_comm]

/-- A batch takes as many rows of a wider condition away as it has. -/
theorem countP_dropBatch {q : α → Bool} (hq : ∀ x ∈ rows, p x = true → q x = true) :
    (dropBatch key le p limit rows).countP q + (batch le p limit rows).length =
      rows.countP q := by
  have hall : (batch le p limit rows).countP q = (batch le p limit rows).length :=
    List.countP_eq_length.mpr fun x hx => hq x (mem_batch hx).1 (mem_batch hx).2
  rw [← (dropBatch_perm hunique).countP_eq q, List.countP_append, hall, Nat.add_comm]

/-- A batch is full, or all that was asked for is gone. -/
theorem batch_full_or_done :
    (batch le p limit rows).length = limit ∨
      ∀ x ∈ dropBatch key le p limit rows, ¬p x = true := by
  by_cases hlimit : rows.countP p ≤ limit
  · refine .inr fun x hx hp => ?_
    obtain ⟨hmem, hkept⟩ := (mem_dropBatch hunique).mp hx
    exact hkept (mem_batch_of_le hlimit hmem hp)
  · rw [length_batch]
    exact .inl (by omega)

end Unique

/-! ### Updates -/

theorem mem_updateRows {keys : List ℕ} {f : α → α} {y : α} :
    y ∈ updateRows key rows keys f ↔ ∃ x ∈ rows, y = if key x ∈ keys then f x else x := by
  simp only [updateRows, List.mem_map, eq_comm]

theorem map_updateRows {keys : List ℕ} {f : α → α} (hf : ∀ x, key (f x) = key x) :
    (updateRows key rows keys f).map key = rows.map key := by
  rw [updateRows, List.map_map]
  refine List.map_congr_left fun x _ => ?_
  dsimp only [Function.comp]
  split
  · exact hf x
  · rfl

theorem length_updateRows {keys : List ℕ} {f : α → α} :
    (updateRows key rows keys f).length = rows.length := List.length_map _

/-- Rows that no longer count after an update count as deleted ones. -/
theorem countP_updateRows {keys : List ℕ} {f : α → α} {q : α → Bool}
    (hf : ∀ x, q (f x) = false) :
    (updateRows key rows keys f).countP q = (without key rows keys).countP q := by
  induction rows with
  | nil => rfl
  | cons x rows ih =>
      rw [updateRows, List.map_cons, List.countP_cons, ← updateRows, ih]
      by_cases hx : key x ∈ keys
      · rw [if_pos hx, hf, without, without, List.filter_cons_of_neg (by simpa using hx)]
        simp
      · rw [if_neg hx, without, without, List.filter_cons_of_pos (by simpa using hx),
          List.countP_cons]

theorem countP_updateRows_le {keys : List ℕ} {f : α → α} {q : α → Bool}
    (hf : ∀ x ∈ rows, key x ∈ keys → q (f x) = true → q x = true) :
    (updateRows key rows keys f).countP q ≤ rows.countP q := by
  rw [updateRows, List.countP_map]
  refine List.countP_mono_left fun x hx h => ?_
  dsimp only [Function.comp] at h
  split at h
  · next hkey => exact hf x hx hkey h
  · exact h

end Batch

/-! ### Many batches -/

/-- Work that is done in steps: each is full, or everything is done after it. -/
structure Drained {σ : Type} (step : ℕ → σ → σ → Prop) (left : σ → ℕ) (done : σ → Prop) : Prop where
  full_or_done : ∀ {limit s s'}, step limit s s' → left s' + limit ≤ left s ∨ done s'
  stays : ∀ {limit s s'}, step limit s s' → done s → done s'
  empty : ∀ {s}, left s = 0 → done s

/-- The states that steps with these limits lead to. -/
inductive Steps {σ : Type} (step : ℕ → σ → σ → Prop) : List ℕ → σ → σ → Prop
  | nil (s : σ) : Steps step [] s s
  | cons {limit : ℕ} {limits : List ℕ} {s s₁ s' : σ} (h : step limit s s₁)
      (hs : Steps step limits s₁ s') : Steps step (limit :: limits) s s'

theorem Drained.done_of_steps {σ : Type} {step : ℕ → σ → σ → Prop} {left : σ → ℕ}
    {done : σ → Prop} (h : Drained step left done) {limits : List ℕ} {s s' : σ}
    (hs : Steps step limits s s') (hleft : left s ≤ limits.sum ∨ done s) : done s' := by
  induction hs with
  | nil s => exact hleft.elim (fun hleft => h.empty (by simpa using hleft)) id
  | @cons limit limits s s₁ s' hstep hsteps ih =>
      refine ih ?_
      rcases hleft with hleft | hdone
      · refine (h.full_or_done hstep).imp_left fun hfull => ?_
        rw [List.sum_cons] at hleft
        omega
      · exact .inr (h.stays hstep hdone)

end SitBank.Orm
