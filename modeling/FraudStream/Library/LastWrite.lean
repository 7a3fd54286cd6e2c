import FraudStream.Library.Dict

/-
  A log of keyed writes, read back by the last write of a
  key.

  Key definitions include:
    * `LastWrite.read`

  The rules are:
    * `LastWrite.read_append`
    * `LastWrite.read_of_last`
    * `LastWrite.read_flatMap_of_last`
-/

------------------------------------------------------------
-- Last Writes
------------------------------------------------------------

namespace LastWrite

variable {κ ν : Type}
variable [DecidableEq κ]

/- The value that was last written under a key. -/
def read
    (k : κ)
    (log : List (κ × ν)) : Option ν :=
  Dict.lookupEntries k log.reverse

/- A later log is read first. -/
theorem read_append
    (k : κ)
    (log log' : List (κ × ν)) :
    read k (log ++ log') = (read k log').or (read k log) := by
  rw [read, List.reverse_append, Dict.lookupEntries_append]
  rfl

/- A log without writes of a key reads as nothing. -/
theorem read_of_unwritten
    {k : κ}
    {log : List (κ × ν)}
    (hUnwritten : ∀ e ∈ log, e.1 ≠ k) :
    read k log = none := by
  induction log using List.reverseRecOn with
  | nil => rfl
  | append_singleton log e ih =>
      have hLast := hUnwritten e (by simp)
      have hEarlier :=
        ih (fun e hMem => hUnwritten e (by simp [hMem]))
      rw [read_append, hEarlier]
      simp [read, Dict.lookupEntries, hLast.symm]

/- The last write of a key is read back. -/
theorem read_of_last
    {k : κ}
    {after : List (κ × ν)}
    (before : List (κ × ν))
    (v : ν)
    (hAfter : ∀ e ∈ after, e.1 ≠ k) :
    read k (before ++ (k, v) :: after) = some v := by
  have hWritten : read k [(k, v)] = some v := by
    simp [read, Dict.lookupEntries]
  rw [List.append_cons, read_append, read_append,
    read_of_unwritten hAfter, hWritten]
  rfl

/-
  A key is read from the last table that writes it, when no
  later write of the table and no later table has the key.
-/
theorem read_flatMap_of_last
    {τ : Type}
    {writes : τ → List (κ × ν)}
    {table : τ}
    {after : List τ}
    {k : κ}
    {v : ν}
    {rows rows' : List (κ × ν)}
    (before : List τ)
    (hTable : writes table = rows ++ (k, v) :: rows')
    (hRows : ∀ e ∈ rows', e.1 ≠ k)
    (hAfter : ∀ t ∈ after, ∀ e ∈ writes t, e.1 ≠ k) :
    read k ((before ++ table :: after).flatMap writes) =
      some v := by
  have hLog :
      (before ++ table :: after).flatMap writes =
        (before.flatMap writes ++ rows) ++
          (k, v) :: (rows' ++ after.flatMap writes) := by
    simp [List.flatMap_append, List.flatMap_cons, hTable]
  rw [hLog]
  apply read_of_last
  intro e hMem
  rcases List.mem_append.1 hMem with hRow | hLater
  · exact hRows e hRow
  · rcases List.mem_flatMap.1 hLater with ⟨t, hMem, hWrite⟩
    exact hAfter t hMem e hWrite

end LastWrite
