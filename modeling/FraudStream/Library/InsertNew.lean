import Mathlib.Data.List.Basic
import Mathlib.Data.List.Nodup

/-
  A table into which a row goes only if no row has its key.

  Rows are appended and never changed, so a table is a
  beginning of each later one.

  Key definitions include:
    * `InsertNew.insertNew`
    * `InsertNew.insertAll`

  The rules are:
    * `InsertNew.isPrefix_insertAll`
    * `InsertNew.nodup_insertAll`
    * `InsertNew.exists_mem_insertAll`
-/

------------------------------------------------------------
-- One Row
------------------------------------------------------------

namespace InsertNew

variable {ρ κ : Type}
variable [DecidableEq κ]

/- `ON CONFLICT (key) DO NOTHING` -/
def insertNew
    (key : ρ → κ)
    (rows : List ρ)
    (r : ρ) : List ρ :=
  if key r ∈ rows.map key then rows else rows ++ [r]

theorem isPrefix_insertNew
    (key : ρ → κ)
    (rows : List ρ)
    (r : ρ) :
    rows <+: insertNew key rows r := by
  unfold insertNew
  split
  · exact List.prefix_rfl
  · exact List.prefix_append rows [r]

/- No key comes twice. -/
theorem nodup_insertNew
    (key : ρ → κ)
    {rows : List ρ}
    (hNodup : (rows.map key).Nodup)
    (r : ρ) :
    ((insertNew key rows r).map key).Nodup := by
  unfold insertNew
  split
  · exact hNodup
  · rename_i hNew
    rw [List.map_append, List.map_singleton,
      List.nodup_append]
    refine ⟨hNodup, List.nodup_singleton _, ?_⟩
    intro k hOld k' hLast hSame
    rw [List.mem_singleton] at hLast
    rw [hSame, hLast] at hOld
    exact hNew hOld

/- There is a row for the key, the given one or another. -/
theorem exists_mem_insertNew
    (key : ρ → κ)
    (rows : List ρ)
    (r : ρ) :
    ∃ r' ∈ insertNew key rows r, key r' = key r := by
  unfold insertNew
  split
  · rename_i hOld
    exact List.mem_map.1 hOld
  · exact ⟨r, by simp, rfl⟩

end InsertNew

------------------------------------------------------------
-- Many Rows
------------------------------------------------------------

namespace InsertNew

variable {ρ κ : Type}
variable [DecidableEq κ]

/- Insert the rows one after the other. -/
def insertAll
    (key : ρ → κ)
    (rows : List ρ)
    (rs : List ρ) : List ρ :=
  rs.foldl (insertNew key) rows

theorem isPrefix_insertAll
    (key : ρ → κ)
    (rows : List ρ)
    (rs : List ρ) :
    rows <+: insertAll key rows rs := by
  induction rs generalizing rows with
  | nil => exact List.prefix_rfl
  | cons r rs ih =>
      exact (isPrefix_insertNew key rows r).trans (ih _)

theorem nodup_insertAll
    (key : ρ → κ)
    {rows : List ρ}
    (hNodup : (rows.map key).Nodup)
    (rs : List ρ) :
    ((insertAll key rows rs).map key).Nodup := by
  induction rs generalizing rows with
  | nil => exact hNodup
  | cons r rs ih => exact ih (nodup_insertNew key hNodup r)

/- There is a row for each of the keys. -/
theorem exists_mem_insertAll
    (key : ρ → κ)
    (rows : List ρ)
    {rs : List ρ}
    {r : ρ}
    (hMem : r ∈ rs) :
    ∃ r' ∈ insertAll key rows rs, key r' = key r := by
  induction rs generalizing rows with
  | nil => cases hMem
  | cons r₀ rs ih =>
      rcases List.mem_cons.1 hMem with hHead | hTail
      · rcases exists_mem_insertNew key rows r₀ with
          ⟨r', hRow, hKey⟩
        have hKept :=
          (isPrefix_insertAll key (insertNew key rows r₀)
            rs).subset hRow
        exact ⟨r', hKept, by rw [hKey, hHead]⟩
      · exact ih (insertNew key rows r₀) hTail

end InsertNew
