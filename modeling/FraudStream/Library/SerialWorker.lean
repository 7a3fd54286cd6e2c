import Mathlib.Data.List.Basic
import Mathlib.Order.Lattice

/-
  A worker that serves one job at a time, and the state that
  its jobs change.

  A job changes the state when it starts and when it
  finishes, and no job starts before the one ahead of it has
  finished.

  Key definitions include:
    * `SerialWorker.Service`
    * `SerialWorker.stateAt`
    * `SerialWorker.Ordered`

  The rules are:
    * `SerialWorker.finish_le`
    * `SerialWorker.stateAt_append`
    * `SerialWorker.stateAt_of_done`
-/

namespace SerialWorker

variable {σ τ : Type}
variable [LinearOrder τ]

/- The times of a job, and the states that it leads to at
   these times. -/
structure Service (σ τ : Type) [LinearOrder τ] where
  start : τ
  during : σ
  finish : τ
  after : σ
  ordered : start ≤ finish

/- The state at a time. -/
def stateAt
    (s : σ) : List (Service σ τ) → τ → σ
| [], _ => s
| v :: vs, t =>
    if t < v.start then
      s
    else if t < v.finish then
      v.during
    else
      stateAt v.after vs t

/- The state and the time that the last job leaves. -/
def finalState
    (s : σ)
    (vs : List (Service σ τ)) : σ :=
  vs.foldl (fun _ v => v.after) s

def freeAt
    (free : τ)
    (vs : List (Service σ τ)) : τ :=
  vs.foldl (fun _ v => v.finish) free

/- The jobs start in order, the first of them not before the
   worker is free. -/
def Ordered
    (free : τ) : List (Service σ τ) → Prop
| [] => True
| v :: vs => free ≤ v.start ∧ Ordered v.finish vs

/- The worker is not free earlier for having more to do. -/
theorem finish_le
    {free : τ}
    {vs : List (Service σ τ)}
    (hOrdered : Ordered free vs) :
    free ≤ freeAt free vs := by
  induction vs generalizing free with
  | nil => exact le_refl free
  | cons v vs ih =>
      calc
        free ≤ v.start := hOrdered.1
        _ ≤ v.finish := v.ordered
        _ ≤ freeAt v.finish vs := ih hOrdered.2

/- Once the first jobs are done, only the others count. -/
theorem stateAt_append
    {free t : τ}
    {vs : List (Service σ τ)}
    (s : σ)
    (ws : List (Service σ τ))
    (hOrdered : Ordered free vs)
    (hDone : freeAt free vs ≤ t) :
    stateAt s (vs ++ ws) t =
      stateAt (finalState s vs) ws t := by
  induction vs generalizing free s with
  | nil => rfl
  | cons v vs ih =>
      have hFinish : v.finish ≤ t :=
        le_trans (finish_le hOrdered.2) hDone
      have hStart : v.start ≤ t :=
        le_trans v.ordered hFinish
      rw [List.cons_append, stateAt,
        if_neg (not_lt.2 hStart), if_neg (not_lt.2 hFinish)]
      exact ih v.after hOrdered.2 hDone

theorem stateAt_of_done
    {free t : τ}
    {vs : List (Service σ τ)}
    (s : σ)
    (hOrdered : Ordered free vs)
    (hDone : freeAt free vs ≤ t) :
    stateAt s vs t = finalState s vs := by
  have hAppend := stateAt_append s [] hOrdered hDone
  rwa [List.append_nil] at hAppend

end SerialWorker
