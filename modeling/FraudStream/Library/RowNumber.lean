import Mathlib.Data.List.Dedup
import Mathlib.Data.List.Sort

/-
  Rows numbered within the partitions of a table, latest
  first.

  `ROW_NUMBER() OVER (PARTITION BY key ORDER BY time DESC)`
  numbers the rows of a key from one. Rows of one time,
  which SQL may order either way, keep the table's order.

  Key definitions include:
    * `RowNumber.numbered`

  The rules are:
    * `RowNumber.mem_latestFirst_of_mem_numbered`
    * `RowNumber.firsts_of_key`
    * `RowNumber.head_of_increasing`
-/

------------------------------------------------------------
-- Numbered Rows
------------------------------------------------------------

namespace RowNumber

variable {α κ : Type}
variable [DecidableEq κ]

/- The rows of a key, latest first. -/
def latestFirst
    (key : α → κ)
    (time : α → Int)
    (rows : List α)
    (k : κ) : List α :=
  (rows.filter (key · = k)).insertionSort
    (fun x y => time y ≤ time x)

def numbered
    (key : α → κ)
    (time : α → Int)
    (rows : List α) : List (α × Nat) :=
  (rows.map key).dedup.flatMap
    (fun k => (latestFirst key time rows k).zipIdx 1)

end RowNumber

------------------------------------------------------------
-- The First Rows
------------------------------------------------------------

namespace RowNumber

variable {α κ : Type}
variable [DecidableEq κ]
variable {key : α → κ}
variable {time : α → Int}
variable {rows : List α}

theorem key_of_mem_latestFirst
    {x : α}
    {k : κ}
    (hMem : x ∈ latestFirst key time rows k) :
    key x = k := by
  rw [latestFirst, List.mem_insertionSort] at hMem
  simpa using (List.mem_filter.1 hMem).2

/- A numbered row is a row of its key. -/
theorem mem_latestFirst_of_mem_numbered
    {p : α × Nat}
    (hMem : p ∈ numbered key time rows) :
    p.1 ∈ latestFirst key time rows (key p.1) := by
  rcases List.mem_flatMap.1 hMem with ⟨k, -, hNumbered⟩
  have hRow := List.fst_mem_of_mem_zipIdx hNumbered
  rwa [key_of_mem_latestFirst hRow]

/- One row is numbered one. -/
theorem filter_zipIdx_one (xs : List α) :
    (xs.zipIdx 1).filter (fun p => p.2 = 1) =
      xs.head?.toList.map (fun x => (x, 1)) := by
  cases xs with
  | nil => rfl
  | cons x xs =>
      have hLater :
          ∀ p ∈ xs.zipIdx 2, ¬p.2 = 1 := by
        intro p hMem
        have hNumber := List.le_snd_of_mem_zipIdx hMem
        omega
      have hRest :
          (xs.zipIdx 2).filter (fun p => p.2 = 1) = [] := by
        rw [List.filter_eq_nil_iff]
        intro p hMem
        simpa using hLater p hMem
      simp [hRest]

/- A list without duplicates has one entry of a key. -/
theorem flatMap_ite_eq
    {β : Type}
    {ks : List κ}
    (k : κ)
    (xs : List β)
    (hNodup : ks.Nodup) :
    ks.flatMap (fun k' => if k' = k then xs else []) =
      if k ∈ ks then xs else [] := by
  induction ks with
  | nil => rfl
  | cons k' ks ih =>
      rw [List.flatMap_cons, ih (List.nodup_cons.1 hNodup).2]
      by_cases hKey : k' = k
      · have hOther : k ∉ ks := by
          rw [← hKey]
          exact (List.nodup_cons.1 hNodup).1
        simp [hKey, hOther]
      · simp [hKey, Ne.symm hKey]

/- The row of a key that is numbered one is its latest. -/
theorem firsts_of_key
    (key : α → κ)
    (time : α → Int)
    (rows : List α)
    (k : κ) :
    (numbered key time rows).filter
        (fun p => key p.1 = k ∧ p.2 = 1) =
      (latestFirst key time rows k).head?.toList.map
        (fun x => (x, 1)) := by
  have hPartition :
      ∀ k',
        ((latestFirst key time rows k').zipIdx 1).filter
            (fun p => key p.1 = k ∧ p.2 = 1) =
          if k' = k then
            (latestFirst key time rows k).head?.toList.map
              (fun x => (x, 1))
          else
            [] := by
    intro k'
    split
    · rename_i hKey
      rw [← hKey, ← filter_zipIdx_one]
      apply List.filter_congr
      intro p hMem
      have hRow := key_of_mem_latestFirst
        (List.fst_mem_of_mem_zipIdx hMem)
      simp [hRow]
    · rename_i hKey
      rw [List.filter_eq_nil_iff]
      intro p hMem
      have hRow := key_of_mem_latestFirst
        (List.fst_mem_of_mem_zipIdx hMem)
      simp [hRow, hKey]
  rw [numbered, List.filter_flatMap]
  simp only [hPartition]
  rw [flatMap_ite_eq k _ (List.nodup_dedup _)]
  split
  · rfl
  · rename_i hAbsent
    have hNone : rows.filter (key · = k) = [] := by
      rw [List.filter_eq_nil_iff]
      intro x hMem hKey
      apply hAbsent
      rw [List.mem_dedup, ← of_decide_eq_true hKey]
      exact List.mem_map_of_mem hMem
    simp [latestFirst, hNone]

/- Among rows of increasing times the latest is the last. -/
theorem head_of_increasing
    {k : κ}
    (hIncreasing :
      (rows.filter (key · = k)).Pairwise
        (fun x y => time x < time y)) :
    (latestFirst key time rows k).head? =
      (rows.filter (key · = k)).getLast? := by
  have hSorted :=
    List.pairwise_insertionSort
      (fun x y => time y ≤ time x)
      (rows.filter (key · = k))
  have hPerm :=
    List.perm_insertionSort
      (fun x y => time y ≤ time x)
      (rows.filter (key · = k))
  rw [latestFirst]
  generalize rows.filter (key · = k) = ys at *
  rcases List.eq_nil_or_concat ys with rfl | ⟨zs, last, hEq⟩
  · rfl
  · rw [List.concat_eq_append] at hEq
    subst hEq
    cases hOrder :
        (zs ++ [last]).insertionSort
          (fun x y => time y ≤ time x) with
    | nil =>
        rw [hOrder] at hPerm
        simpa using hPerm.nil_eq
    | cons first others =>
        rw [hOrder] at hSorted hPerm
        have hFirst : first ∈ zs ++ [last] :=
          hPerm.mem_iff.1 (by simp)
        have hLast : last ∈ first :: others :=
          hPerm.mem_iff.2 (by simp)
        have hLatest : time last ≤ time first := by
          rcases List.mem_cons.1 hLast with rfl | hOther
          · exact le_rfl
          · exact (List.pairwise_cons.1 hSorted).1 _ hOther
        rcases List.mem_append.1 hFirst with hEarlier | hEq
        · have hBefore :=
            (List.pairwise_append.1 hIncreasing).2.2 first
              hEarlier last (by simp)
          omega
        · simp [List.mem_singleton.1 hEq]

end RowNumber
