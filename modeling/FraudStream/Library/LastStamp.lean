import Mathlib.Data.List.Induction

/-
  The time of the last step of a run that sets it.

  Key definitions include:
    * `LastStamp.last`

  The rules are:
    * `LastStamp.last_concat`
    * `LastStamp.last_never`
    * `LastStamp.read_foldl`
    * `LastStamp.last_eq_last_iff`
-/

------------------------------------------------------------
-- The Last Stamp
------------------------------------------------------------

namespace LastStamp

variable {σ τ : Type}
variable (time : σ → τ)

/- The time of the last step that sets it, or the initial
   time if there is no such step. -/
def last
    (sets : σ → Bool)
    (initial : τ)
    (steps : List σ) : τ :=
  steps.foldl
    (fun t step => if sets step then time step else t)
    initial

theorem last_concat
    (sets : σ → Bool)
    (initial : τ)
    (steps : List σ)
    (step : σ) :
    last time sets initial (steps ++ [step]) =
      if sets step then
        time step
      else
        last time sets initial steps := by
  simp [last, List.foldl_append]

theorem last_never
    (initial : τ)
    (steps : List σ) :
    last time (fun _ => false) initial steps = initial := by
  induction steps using List.reverseRecOn with
  | nil => rfl
  | append_singleton steps step ih =>
      rw [last_concat, ih]
      simp

/- A state that each step stamps or leaves alone has the
   last stamp after a run. -/
theorem read_foldl
    {ς : Type}
    {next : ς → σ → ς}
    {read : ς → τ}
    {sets : σ → Bool}
    (hNext :
      ∀ s step,
        read (next s step) =
          if sets step then time step else read s)
    (steps : List σ)
    (s : ς) :
    read (steps.foldl next s) =
      last time sets (read s) steps := by
  induction steps using List.reverseRecOn with
  | nil => rfl
  | append_singleton steps step ih =>
      rw [List.foldl_append, last_concat, ← ih]
      exact hNext _ step

/-
  Two stamps agree all along a run exactly when each step
  that sets only one of them has the time of the second.
-/
theorem last_eq_last_iff
    (sets sets' : σ → Bool)
    (initial : τ)
    (steps : List σ) :
    (∀ before, before <+: steps →
        last time sets initial before =
          last time sets' initial before) ↔
      ∀ before step, before ++ [step] <+: steps →
        sets step ≠ sets' step →
          time step = last time sets' initial before := by
  constructor
  · intro hAgree before step hStep hOne
    have hBefore :=
      hAgree before ((List.prefix_append _ _).trans hStep)
    have hAfter := hAgree (before ++ [step]) hStep
    rw [last_concat, last_concat, hBefore] at hAfter
    cases hSets : sets step with
    | true =>
        have hOther : sets' step = false := by
          simpa [hSets] using hOne.symm
        simpa [hSets, hOther] using hAfter
    | false =>
        have hOther : sets' step = true := by
          simpa [hSets] using hOne.symm
        simpa [hSets, hOther] using hAfter.symm
  · intro hSteps before
    induction before using List.reverseRecOn with
    | nil =>
        intro _
        rfl
    | append_singleton before step ih =>
        intro hStep
        have hBefore :=
          ih ((List.prefix_append _ _).trans hStep)
        rw [last_concat, last_concat, hBefore]
        by_cases hSame : sets step = sets' step
        · rw [hSame]
        · have hTime := hSteps before step hStep hSame
          rw [hTime]
          simp

end LastStamp
