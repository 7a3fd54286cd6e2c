import Mathlib.Data.Finset.Insert
import FraudStream.Library.FirstOfKey

/-
  A loop that keeps the items whose key it has not seen.

  The loop holds the set of the keys seen and the list of
  the items kept. Whatever else its state holds, it keeps
  the first item of each key.

  Key definitions include:
    * `BatchBuffer.isNew`
    * `BatchBuffer.KeepsNew`
    * `BatchBuffer.Consumed`

  The rules are:
    * `BatchBuffer.firstOccurrences_append`
    * `BatchBuffer.firstOccurrences_firstOccurrences`
    * `BatchBuffer.consumed_foldl`
-/

------------------------------------------------------------
-- First Occurrences And Concatenation
------------------------------------------------------------

namespace BatchBuffer

variable {ρ κ : Type}
variable [DecidableEq κ]

/- The key of the item is not among the given ones. -/
def isNew
    (key : ρ → κ)
    (seen : List κ)
    (r : ρ) : Bool :=
  if key r ∈ seen then false else true

@[simp] theorem isNew_iff
    (key : ρ → κ)
    (seen : List κ)
    (r : ρ) :
    isNew key seen r = true ↔ key r ∉ seen := by
  simp [isNew]

/- The keys seen before only narrow what is kept. -/
theorem firstOccurrences_eq_filter
    (key : ρ → κ)
    (seen : List κ)
    (rs : List ρ) :
    firstOccurrences key seen rs =
      (firstOccurrences key [] rs).filter
        (isNew key seen) := by
  induction rs generalizing seen with
  | nil => rfl
  | cons r rs ih =>
      rw [firstOccurrences, firstOccurrences,
        if_neg List.not_mem_nil, ih [key r]]
      by_cases hSeen : key r ∈ seen
      · have hDropped : ¬isNew key seen r = true := by
          simpa using hSeen
        rw [if_pos hSeen, ih seen,
          List.filter_cons_of_neg hDropped,
          List.filter_filter]
        apply List.filter_congr
        intro r' _
        rw [Bool.eq_iff_iff]
        simp only [Bool.and_eq_true, isNew_iff,
          List.mem_singleton]
        constructor
        · intro hNew
          refine ⟨hNew, fun hKey => hNew ?_⟩
          rwa [hKey]
        · exact And.left
      · have hKept : isNew key seen r = true := by
          simpa using hSeen
        rw [if_neg hSeen, ih (key r :: seen),
          List.filter_cons_of_pos hKept,
          List.filter_filter]
        congr 1
        apply List.filter_congr
        intro r' _
        rw [Bool.eq_iff_iff]
        simp only [Bool.and_eq_true, isNew_iff,
          List.mem_cons, List.not_mem_nil, or_false,
          not_or]
        exact And.comm

/- Later items add what is first among them and has no key
   of the earlier ones. -/
theorem firstOccurrences_append
    (key : ρ → κ)
    (xs ys : List ρ) :
    firstOccurrences key [] (xs ++ ys) =
      firstOccurrences key [] xs ++
        (firstOccurrences key [] ys).filter
          (isNew key (xs.map key)) := by
  have hSeen :
      ∀ seen,
        firstOccurrences key seen (xs ++ ys) =
          firstOccurrences key seen xs ++
            (firstOccurrences key [] ys).filter
              (isNew key (xs.map key ++ seen)) := by
    induction xs with
    | nil =>
        intro seen
        exact firstOccurrences_eq_filter key seen ys
    | cons x xs ih =>
        intro seen
        have hMove :
            isNew key (xs.map key ++ key x :: seen) =
              isNew key ((x :: xs).map key ++ seen) := by
          funext r
          rw [Bool.eq_iff_iff]
          simp [or_left_comm]
        rw [List.cons_append, firstOccurrences,
          firstOccurrences]
        by_cases hMem : key x ∈ seen
        · have hAgain :
              isNew key ((x :: xs).map key ++ seen) =
                isNew key (xs.map key ++ seen) := by
            funext r
            rw [Bool.eq_iff_iff]
            simp only [isNew_iff, List.map_cons,
              List.cons_append, List.mem_cons, not_or,
              List.mem_append]
            constructor
            · exact And.right
            · intro hNew
              refine ⟨fun hKey => hNew.2 ?_, hNew⟩
              rwa [hKey]
          rw [if_pos hMem, if_pos hMem, ih seen, hAgain]
        · rw [if_neg hMem, if_neg hMem, ih (key x :: seen),
            hMove, List.cons_append]
  simpa using hSeen []

/- What is kept once is kept again. -/
theorem firstOccurrences_firstOccurrences
    (key : ρ → κ)
    (seen : List κ)
    (rs : List ρ) :
    firstOccurrences key seen (firstOccurrences key seen rs) =
      firstOccurrences key seen rs := by
  induction rs generalizing seen with
  | nil => rfl
  | cons r rs ih =>
      by_cases hSeen : key r ∈ seen
      · rw [firstOccurrences, if_pos hSeen, ih seen]
      · rw [firstOccurrences, if_neg hSeen, firstOccurrences,
          if_neg hSeen, ih (key r :: seen)]

/- The item that is kept of a key is the first one found. -/
theorem filter_firstOccurrences_nil
    (key : ρ → κ)
    (k : κ)
    (rs : List ρ) :
    (firstOccurrences key [] rs).filter (key · = k) =
      (rs.find? (key · = k)).toList := by
  rw [filter_firstOccurrences, if_neg List.not_mem_nil,
    ← List.head?_filter]
  cases rs.filter (key · = k) with
  | nil => rfl
  | cons r rs' => rfl

end BatchBuffer

------------------------------------------------------------
-- Loops
------------------------------------------------------------

namespace BatchBuffer

variable {ρ κ σ : Type}
variable [DecidableEq κ]

/- An iteration skips an item whose key is in the set, and
   else adds the key to the set and the item to the list. -/
structure KeepsNew
    (key : ρ → κ)
    (seen : σ → Finset κ)
    (kept : σ → List ρ)
    (step : σ → ρ → σ) : Prop where
  skips : ∀ s r, key r ∈ seen s → step s r = s
  addsKey :
    ∀ s r, key r ∉ seen s →
      seen (step s r) = insert (key r) (seen s)
  addsItem :
    ∀ s r, key r ∉ seen s →
      kept (step s r) = kept s ++ [r]

/- The set holds the keys of the items that were read, and
   the list their first occurrences. -/
structure Consumed
    (key : ρ → κ)
    (seen : σ → Finset κ)
    (kept : σ → List ρ)
    (rs : List ρ)
    (s : σ) : Prop where
  seen : ∀ k, k ∈ seen s ↔ k ∈ rs.map key
  kept : kept s = firstOccurrences key [] rs

variable {key : ρ → κ}
variable {seen : σ → Finset κ}
variable {kept : σ → List ρ}
variable {step : σ → ρ → σ}

theorem Consumed.concat
    (hStep : KeepsNew key seen kept step)
    {rs : List ρ}
    {s : σ}
    (hConsumed : Consumed key seen kept rs s)
    (r : ρ) :
    Consumed key seen kept (rs ++ [r]) (step s r) := by
  have hFirst :
      firstOccurrences key [] (rs ++ [r]) =
        firstOccurrences key [] rs ++
          [r].filter (isNew key (rs.map key)) :=
    firstOccurrences_append key rs [r]
  by_cases hMem : key r ∈ seen s
  · have hRead := (hConsumed.seen (key r)).1 hMem
    rw [hStep.skips s r hMem]
    constructor
    · intro k
      rw [hConsumed.seen k, List.map_append,
        List.mem_append, List.map_singleton,
        List.mem_singleton]
      constructor
      · exact Or.inl
      · rintro (hBefore | hLast)
        · exact hBefore
        · rwa [hLast]
    · have hDropped :
          [r].filter (isNew key (rs.map key)) = [] := by
        simpa [isNew] using hRead
      rw [hConsumed.kept, hFirst, hDropped, List.append_nil]
  · have hFresh : key r ∉ rs.map key := fun hRead =>
      hMem ((hConsumed.seen (key r)).2 hRead)
    constructor
    · intro k
      rw [hStep.addsKey s r hMem, Finset.mem_insert,
        hConsumed.seen k, List.map_append, List.mem_append,
        List.map_singleton, List.mem_singleton]
      exact or_comm
    · have hKept :
          [r].filter (isNew key (rs.map key)) = [r] := by
        simpa [isNew] using hFresh
      rw [hStep.addsItem s r hMem, hConsumed.kept, hFirst,
        hKept]

/- What holds of the start holds of every prefix that the
   loop has read. -/
theorem consumed_foldl
    (hStep : KeepsNew key seen kept step)
    {start : σ}
    (hSeen : seen start = ∅)
    (hKept : kept start = [])
    (rs : List ρ) :
    Consumed key seen kept rs (rs.foldl step start) := by
  induction rs using List.reverseRecOn with
  | nil =>
      constructor
      · simp [hSeen]
      · exact hKept
  | append_singleton rs r ih =>
      rw [List.foldl_concat]
      exact ih.concat hStep r

end BatchBuffer
