import Mathlib.Data.List.Induction

/-
  Programs that change a state and may raise.

  What a program did before it raised is kept, also by the
  handler that catches the exception.

  Key definitions include:
    * `Statements.raiseIf`

  The rules are:
    * `Statements.run_tryCatch`
    * `Statements.run_tryFinally`
    * `Statements.run_forM_concat`
    * `Statements.forM_induction`
-/

------------------------------------------------------------
-- Blocks
------------------------------------------------------------

namespace Statements

variable {ε σ α β : Type}

/- Raise the exception, if there is one. -/
def raiseIf : Option ε → EStateM ε σ Unit
| none => pure ()
| some e => throw e

@[simp] theorem run_raiseIf_none
    (s : σ) :
    (raiseIf (none : Option ε)).run s = .ok () s := rfl

@[simp] theorem run_raiseIf_some
    (e : ε)
    (s : σ) :
    (raiseIf (some e)).run s = .error e s := rfl

/- The handler starts where the block raised. -/
@[simp high] theorem run_tryCatch
    (m : EStateM ε σ α)
    (handler : ε → EStateM ε σ α)
    (s : σ) :
    (tryCatch m handler).run s =
      match m.run s with
      | .ok a s' => .ok a s'
      | .error e s' => (handler e).run s' := by
  simp only [tryCatch, tryCatchThe, MonadExceptOf.tryCatch,
    EStateM.tryCatch, EStateM.run]
  cases m s with
  | ok a s' => rfl
  | error e s' => rfl

/- The last part runs in any case, and what it raises comes
   first. -/
@[simp high] theorem run_tryFinally
    (m : EStateM ε σ α)
    (last : EStateM ε σ β)
    (s : σ) :
    (tryFinally m last).run s =
      match m.run s with
      | .ok a s' =>
          (match last.run s' with
            | .ok _ s'' => .ok a s''
            | .error e s'' => .error e s'')
      | .error e s' =>
          (match last.run s' with
            | .ok _ s'' => .error e s''
            | .error e' s'' => .error e' s'') := by
  simp only [tryFinally, MonadFinally.tryFinally',
    Functor.map, EStateM.map, EStateM.run]
  cases m s with
  | ok a s' => cases hLast : last s' <;> simp only [hLast]
  | error e s' =>
      cases hLast : last s' <;> simp only [hLast]

end Statements

------------------------------------------------------------
-- Repetition
------------------------------------------------------------

namespace Statements

variable {ε σ α : Type}

/- A repetition over a longer list goes on with its last
   item. -/
theorem run_forM_concat
    (f : α → EStateM ε σ PUnit)
    (xs : List α)
    (x : α)
    (s : σ) :
    (forM (xs ++ [x]) f).run s =
      match (forM xs f).run s with
      | .ok _ s' => (f x).run s'
      | .error e s' => .error e s' := by
  rw [List.forM_append, EStateM.run_bind]
  cases (forM xs f).run s with
  | error e s' => rfl
  | ok a s' =>
      simp only [List.forM_cons, List.forM_nil,
        EStateM.run_bind]
      cases (f x).run s' with
      | ok b s'' => rfl
      | error e s'' => rfl

/- What each item keeps without raising, a repetition
   reaches without raising. -/
theorem forM_induction
    {f : α → EStateM ε σ PUnit}
    {P : List α → σ → Prop}
    {start : σ}
    (hStart : P [] start)
    {xs : List α}
    (hStep :
      ∀ before x s,
        x ∈ xs →
        P before s →
        ∃ s', (f x).run s = .ok ⟨⟩ s' ∧
          P (before ++ [x]) s') :
    ∃ s, (forM xs f).run start = .ok ⟨⟩ s ∧ P xs s := by
  induction xs using List.reverseRecOn with
  | nil => exact ⟨start, rfl, hStart⟩
  | append_singleton xs x ih =>
      have hEarlier :=
        ih (fun before y s hMem =>
          hStep before y s (by simp [hMem]))
      rcases hEarlier with ⟨s, hRun, hP⟩
      rcases hStep xs x s (by simp) hP with
        ⟨s', hLast, hP'⟩
      refine ⟨s', ?_, hP'⟩
      rw [run_forM_concat, hRun]
      exact hLast

end Statements
