import Mathlib.Logic.Function.Basic

/-
  Threads that interleave over a shared state.

  Each thread is at a point of its own; a step of one thread
  reads and changes the shared state and moves the thread
  on, and any thread may step next. A lock in the shared
  state names the thread that holds it.

  Key definitions include:
    * `SharedThreads`
    * `SharedThreads.Reachable`
    * `SharedThreads.Locked`

  The rules are:
    * `SharedThreads.reachable_induction`
    * `SharedThreads.Locked.holder_of_inside`
    * `SharedThreads.Locked.inside_unique`
-/

------------------------------------------------------------
-- Interleavings
------------------------------------------------------------

/- The steps of each thread on a shared state. -/
structure SharedThreads (ι σ π : Type) where
  step : ι → σ → π → σ → π → Prop

namespace SharedThreads

variable {ι σ π : Type}

/- The shared state and the point of each thread. -/
structure Config (ι σ π : Type) where
  shared : σ
  point : ι → π

variable [DecidableEq ι]

/- A thread has moved on. -/
def Config.go
    (c : Config ι σ π)
    (i : ι)
    (s : σ)
    (p : π) : Config ι σ π where
  shared := s
  point := Function.update c.point i p

@[simp] theorem Config.shared_go
    (c : Config ι σ π)
    (i : ι)
    (s : σ)
    (p : π) :
    (c.go i s p).shared = s := rfl

/- The thread that stepped is where its step led, and the
   others stay. -/
@[simp] theorem Config.point_go_self
    (c : Config ι σ π)
    (i : ι)
    (s : σ)
    (p : π) :
    (c.go i s p).point i = p := by
  simp only [Config.go, Function.update_self]

theorem Config.point_go_of_ne
    (c : Config ι σ π)
    {i j : ι}
    (hOther : j ≠ i)
    (s : σ)
    (p : π) :
    (c.go i s p).point j = c.point j := by
  simp only [Config.go, ne_eq, hOther, not_false_eq_true,
    Function.update_of_ne]

/- The configurations of all interleavings. -/
inductive Reachable
    (threads : SharedThreads ι σ π)
    (start : Config ι σ π) : Config ι σ π → Prop where
| start : Reachable threads start start
| act
    {c : Config ι σ π}
    (i : ι)
    (s : σ)
    (p : π) :
    Reachable threads start c →
    threads.step i c.shared (c.point i) s p →
    Reachable threads start (c.go i s p)

variable {threads : SharedThreads ι σ π}
variable {start c : Config ι σ π}

/- What holds at the start and is preserved by every step
   from a reachable configuration holds of all of them. -/
theorem reachable_induction
    (Inv : Config ι σ π → Prop)
    (hRun : Reachable threads start c)
    (hStart : Inv start)
    (hStep :
      ∀ c i s p, Reachable threads start c → Inv c →
        threads.step i c.shared (c.point i) s p →
        Inv (c.go i s p)) :
    Inv c := by
  induction hRun with
  | start => exact hStart
  | act i s p hRun hAct ih =>
      exact hStep _ i s p hRun ih hAct

end SharedThreads

------------------------------------------------------------
-- A Lock
------------------------------------------------------------

namespace SharedThreads

variable {ι σ π : Type}
variable [DecidableEq ι]

/- The threads use a lock: one that is inside holds it, and
   no step takes it from its holder. -/
structure Locked
    (threads : SharedThreads ι σ π)
    (holder : σ → Option ι)
    (Inside : π → Prop) : Prop where
  inside :
    ∀ {i s p s' p'}, threads.step i s p s' p' →
      (Inside p → holder s = some i) →
      Inside p' → holder s' = some i
  others :
    ∀ {i s p s' p'}, threads.step i s p s' p' →
      (Inside p → holder s = some i) →
      ∀ {j}, j ≠ i → holder s = some j →
        holder s' = some j

namespace Locked

variable {threads : SharedThreads ι σ π}
variable {holder : σ → Option ι}
variable {Inside : π → Prop}
variable {start c : Config ι σ π}

theorem holder_of_inside
    (hLocked : threads.Locked holder Inside)
    (hStart : ∀ i, ¬ Inside (start.point i))
    (hRun : Reachable threads start c)
    {i : ι}
    (hInside : Inside (c.point i)) :
    holder c.shared = some i := by
  induction hRun generalizing i with
  | start => exact absurd hInside (hStart i)
  | @act c j s p hRun hAct ih =>
      by_cases hSame : i = j
      · subst hSame
        simp only [Config.go, Function.update_self]
          at hInside ⊢
        exact hLocked.inside hAct ih hInside
      · simp only [Config.go, ne_eq, hSame,
          not_false_eq_true, Function.update_of_ne]
          at hInside ⊢
        exact hLocked.others hAct ih hSame (ih hInside)

/- Two threads are never inside together. -/
theorem inside_unique
    (hLocked : threads.Locked holder Inside)
    (hStart : ∀ i, ¬ Inside (start.point i))
    (hRun : Reachable threads start c)
    {i j : ι}
    (hInside : Inside (c.point i))
    (hInside' : Inside (c.point j)) :
    i = j := by
  have hHolder :=
    hLocked.holder_of_inside hStart hRun hInside
  rw [hLocked.holder_of_inside hStart hRun hInside']
    at hHolder
  exact (Option.some.inj hHolder).symm

end Locked

end SharedThreads
