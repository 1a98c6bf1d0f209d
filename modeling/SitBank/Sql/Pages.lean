import Mathlib.Data.List.Sort
import Mathlib.Data.List.Count
import Mathlib.Data.Nat.Notation

/-!
Pages of a table in an order (`ORDER BY .. LIMIT .. OFFSET ..`).

A row is on the page that its rank falls into, the number of rows before it. Rows that are added
to the table never lower a rank, so a row that is not on the pages so far stays ahead of a reader
who goes on.
-/

namespace SitBank.Sql

variable {α : Type}

/-- `LIMIT size OFFSET (n - 1) * size`; pages are counted from one. -/
def page (size n : ℕ) (rows : List α) : List α := (rows.drop ((n - 1) * size)).take size

/-- `max(1, (total + size - 1) // size)`. -/
def totalPages (size total : ℕ) : ℕ := max 1 ((total + size - 1) / size)

theorem mem_of_mem_page {size n : ℕ} {rows : List α} {a : α} (h : a ∈ page size n rows) :
    a ∈ rows :=
  List.mem_of_mem_drop (List.mem_of_mem_take h)

theorem mem_page {size n i : ℕ} {rows : List α} {a : α} (hget : rows[i]? = some a)
    (hlow : (n - 1) * size ≤ i) (hhigh : i < (n - 1) * size + size) : a ∈ page size n rows := by
  refine List.mem_of_getElem? (i := i - (n - 1) * size) ?_
  rw [page, List.getElem?_take_of_lt (by omega), List.getElem?_drop,
    Nat.add_sub_cancel' hlow, hget]

theorem lt_totalPages {size n total : ℕ} (hsize : 0 < size) (h : n * size < total) :
    n < totalPages size total := by
  have hle : (n + 1) * size ≤ total + size - 1 := by
    rw [Nat.succ_mul]
    omega
  exact lt_of_lt_of_le ((Nat.le_div_iff_mul_le hsize).mpr hle) (le_max_right _ _)

/-! ### Ranks -/

section Ranks

variable (r : α → α → Prop) [DecidableRel r]

/-- How many rows come before a row. -/
def rank (rows : List α) (a : α) : ℕ := rows.countP fun b => !decide (r a b)

variable {r}

theorem rank_mono {rows rows' : List α} (h : List.Sublist rows rows') (a : α) :
    rank r rows a ≤ rank r rows' a :=
  h.countP_le

/-- No two rows are in the order both ways. -/
def Distinct (r : α → α → Prop) (rows : List α) : Prop :=
  rows.Pairwise fun a b => ¬(r a b ∧ r b a)

theorem getElem?_rank_of_sorted {rows : List α} (hsorted : rows.Pairwise r)
    (hrefl : ∀ a, r a a) (hdistinct : Distinct r rows) {a : α} (ha : a ∈ rows) :
    rows[rank r rows a]? = some a := by
  induction rows with
  | nil => cases ha
  | cons b rows ih =>
      obtain ⟨hb, hrows⟩ := List.pairwise_cons.mp hsorted
      obtain ⟨hb', hrows'⟩ := List.pairwise_cons.mp hdistinct
      rcases List.mem_cons.mp ha with rfl | ha
      · have hzero : rank r (a :: rows) a = 0 := by
          refine List.countP_eq_zero.mpr fun c hc => ?_
          rcases List.mem_cons.mp hc with rfl | hc
          · simp [hrefl c]
          · simp [hb c hc]
        rw [hzero, List.getElem?_cons_zero]
      · have hbefore : ¬r a b := fun hab => hb' a ha ⟨hb a ha, hab⟩
        have hsucc : rank r (b :: rows) a = rank r rows a + 1 :=
          List.countP_cons_of_pos (by simpa using hbefore)
        rw [hsucc, List.getElem?_cons_succ, ih hrows hrows' ha]

omit [DecidableRel r] in
theorem distinct_perm {rows rows' : List α} (h : rows.Perm rows') (hd : Distinct r rows) :
    Distinct r rows' :=
  h.pairwise hd fun hab hba => hab hba.symm

variable [Std.Total r] [IsTrans α r]

/-- A row of the table stands at its rank. -/
theorem getElem?_rank {rows : List α} (hdistinct : Distinct r rows) {a : α} (ha : a ∈ rows) :
    (rows.insertionSort r)[rank r rows a]? = some a := by
  have hperm := List.perm_insertionSort r rows
  have hrank : rank r rows a = rank r (rows.insertionSort r) a := (hperm.countP_eq _).symm
  rw [hrank]
  exact getElem?_rank_of_sorted (List.pairwise_insertionSort r rows)
    (fun a => (Std.Total.total (r := r) a a).elim id id) (distinct_perm hperm.symm hdistinct)
    (hperm.mem_iff.mpr ha)

theorem rank_lt {rows : List α} (hdistinct : Distinct r rows) {a : α} (ha : a ∈ rows) :
    rank r rows a < rows.length := by
  have hget := getElem?_rank hdistinct ha
  have hlt := (List.getElem?_eq_some_iff.mp hget).1
  rwa [List.length_insertionSort] at hlt

end Ranks

end SitBank.Sql
