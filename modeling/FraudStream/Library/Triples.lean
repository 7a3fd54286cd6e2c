import FraudStream.Library.Statements

/-
  Pre- and postconditions of programs that may raise.

  A triple says what holds where a program returns and what
  holds where it raises, if the precondition held before.

  Key definitions include:
    * `Statements.Triple`
    * `Statements.Keeps`
    * `Statements.outcome`
    * `Statements.finalState`

  The rules are:
    * `Statements.triple_bind`
    * `Statements.triple_tryCatch`
    * `Statements.triple_tryFinally`
    * `Statements.Triple.weaken`
    * `Statements.Triple.exists_run`
    * `Statements.Keeps.finalState`
    * `Statements.outcome_bind`
    * `Statements.outcome_tryCatch`
-/

------------------------------------------------------------
-- Triples
------------------------------------------------------------

namespace Statements

variable {ε σ α β : Type}

/- From a state with `P`, the program returns with `Q` or
   raises with `E`. -/
def Triple
    (P : σ → Prop)
    (m : EStateM ε σ α)
    (Q : α → σ → Prop)
    (E : ε → σ → Prop) : Prop :=
  ∀ s, P s →
    match m.run s with
    | .ok a s' => Q a s'
    | .error e s' => E e s'

variable {P P' : σ → Prop}
variable {Q Q' : α → σ → Prop}
variable {R : β → σ → Prop}
variable {E E' : ε → σ → Prop}

/- What holds where the program returned. -/
theorem Triple.returned
    {m : EStateM ε σ α}
    (hTriple : Triple P m Q E)
    {s s' : σ}
    {a : α}
    (hBefore : P s)
    (hRun : m.run s = .ok a s') :
    Q a s' := by
  have hAfter := hTriple s hBefore
  rwa [hRun] at hAfter

/- What holds where the program raised. -/
theorem Triple.raised
    {m : EStateM ε σ α}
    (hTriple : Triple P m Q E)
    {s s' : σ}
    {e : ε}
    (hBefore : P s)
    (hRun : m.run s = .error e s') :
    E e s' := by
  have hAfter := hTriple s hBefore
  rwa [hRun] at hAfter

/- A program that cannot raise returns. -/
theorem Triple.exists_run
    {m : EStateM ε σ α}
    (hTriple : Triple P m Q (fun _ _ => False))
    {s : σ}
    (hBefore : P s) :
    ∃ a s', m.run s = .ok a s' ∧ Q a s' := by
  cases hRun : m.run s with
  | ok a s' =>
      exact ⟨a, s', rfl, hTriple.returned hBefore hRun⟩
  | error e s' =>
      exact absurd (hTriple.raised hBefore hRun) not_false

/- A stronger precondition and weaker postconditions. -/
theorem Triple.weaken
    {m : EStateM ε σ α}
    (hTriple : Triple P m Q E)
    (hBefore : ∀ s, P' s → P s)
    (hReturned : ∀ a s, Q a s → Q' a s)
    (hRaised : ∀ e s, E e s → E' e s) :
    Triple P' m Q' E' := by
  intro s hP'
  cases hRun : m.run s with
  | ok a s' =>
      exact hReturned a s'
        (hTriple.returned (hBefore s hP') hRun)
  | error e s' =>
      exact hRaised e s'
        (hTriple.raised (hBefore s hP') hRun)

/- A stronger precondition. -/
theorem Triple.restrict
    {m : EStateM ε σ α}
    (hTriple : Triple P m Q E)
    (hBefore : ∀ s, P' s → P s) :
    Triple P' m Q E :=
  hTriple.weaken hBefore (fun _ _ hQ => hQ)
    (fun _ _ hE => hE)

/- Less is known where the program raised. -/
theorem Triple.forget
    {m : EStateM ε σ α}
    (hTriple : Triple P m Q E)
    (hRaised : ∀ e s, E e s → E' e s) :
    Triple P m Q E' :=
  hTriple.weaken (fun _ hP => hP) (fun _ _ hQ => hQ) hRaised

theorem triple_pure
    {a : α}
    (hBefore : ∀ s, P s → Q a s) :
    Triple P (pure a : EStateM ε σ α) Q E :=
  hBefore

theorem triple_throw
    {e : ε}
    (hBefore : ∀ s, P s → E e s) :
    Triple P (throw e : EStateM ε σ α) Q E :=
  hBefore

theorem triple_get :
    Triple P (get : EStateM ε σ σ)
      (fun a s => a = s ∧ P s) E :=
  fun _ hP => ⟨rfl, hP⟩

theorem triple_modify
    {f : σ → σ}
    {Q : PUnit → σ → Prop}
    (hBefore : ∀ s, P s → Q ⟨⟩ (f s)) :
    Triple P (modify f : EStateM ε σ PUnit) Q E :=
  hBefore

theorem triple_raiseIf
    {e? : Option ε}
    {Q : Unit → σ → Prop}
    (hReturned : e? = none → ∀ s, P s → Q () s)
    (hRaised : ∀ e, e? = some e → ∀ s, P s → E e s) :
    Triple P (raiseIf e?) Q E := by
  intro s hP
  cases e? with
  | none => exact hReturned rfl s hP
  | some e => exact hRaised e rfl s hP

/- The second part starts where the first one returned. -/
theorem triple_bind
    {m : EStateM ε σ α}
    {f : α → EStateM ε σ β}
    (hFirst : Triple P m Q E)
    (hSecond : ∀ a, Triple (Q a) (f a) R E) :
    Triple P (m >>= f) R E := by
  intro s hP
  rw [EStateM.run_bind]
  cases hRun : m.run s with
  | ok a s' =>
      exact hSecond a s' (hFirst.returned hP hRun)
  | error e s' => exact hFirst.raised hP hRun

/- The handler starts where the block raised. -/
theorem triple_tryCatch
    {m : EStateM ε σ α}
    {handler : ε → EStateM ε σ α}
    (hBlock : Triple P m Q E)
    (hHandler : ∀ e, Triple (E e) (handler e) Q E') :
    Triple P (tryCatch m handler) Q E' := by
  intro s hP
  rw [run_tryCatch]
  cases hRun : m.run s with
  | ok a s' => exact hBlock.returned hP hRun
  | error e s' =>
      exact hHandler e s' (hBlock.raised hP hRun)

/- The last part starts where the block returned or raised,
   and may raise itself. -/
theorem triple_tryFinally
    {m : EStateM ε σ α}
    {last : EStateM ε σ β}
    (hBlock : Triple P m Q E)
    (hAfter :
      ∀ a, Triple (Q a) last (fun _ => Q' a) E')
    (hRaised :
      ∀ e, Triple (E e) last (fun _ => E' e) E') :
    Triple P (tryFinally m last) Q' E' := by
  intro s hP
  rw [run_tryFinally]
  cases hRun : m.run s with
  | ok a s' =>
      have hQ := hBlock.returned hP hRun
      cases hLast : last.run s' with
      | ok b s'' =>
          simp only [hLast]
          exact (hAfter a).returned hQ hLast
      | error e s'' =>
          simp only [hLast]
          exact (hAfter a).raised hQ hLast
  | error e s' =>
      have hE := hBlock.raised hP hRun
      cases hLast : last.run s' with
      | ok b s'' =>
          simp only [hLast]
          exact (hRaised e).returned hE hLast
      | error e' s'' =>
          simp only [hLast]
          exact (hRaised e).raised hE hLast

end Statements

------------------------------------------------------------
-- Invariants
------------------------------------------------------------

namespace Statements

variable {ε σ α β : Type}

/- What held before holds where the program returned and
   where it raised. -/
def Keeps
    (P : σ → Prop)
    (m : EStateM ε σ α) : Prop :=
  Triple P m (fun _ => P) (fun _ => P)

variable {P : σ → Prop}

/- A program that establishes more where it returned. -/
theorem keeps_of_triple
    {m : EStateM ε σ α}
    {R : α → σ → Prop}
    (hTriple :
      Triple P m (fun a s => P s ∧ R a s) (fun _ => P)) :
    Keeps P m :=
  hTriple.weaken (fun _ hP => hP) (fun _ _ hBoth => hBoth.1)
    (fun _ _ hP => hP)

theorem keeps_pure
    {a : α} :
    Keeps P (pure a : EStateM ε σ α) :=
  triple_pure (fun _ hP => hP)

theorem keeps_modify
    {f : σ → σ}
    (hStep : ∀ s, P s → P (f s)) :
    Keeps P (modify f : EStateM ε σ PUnit) :=
  triple_modify hStep

theorem keeps_raiseIf
    {e? : Option ε} :
    Keeps P (raiseIf e?) :=
  triple_raiseIf (fun _ _ hP => hP) (fun _ _ _ hP => hP)

theorem keeps_get : Keeps P (get : EStateM ε σ σ) :=
  fun _ hP => hP

theorem keeps_bind
    {m : EStateM ε σ α}
    {f : α → EStateM ε σ β}
    (hFirst : Keeps P m)
    (hSecond : ∀ a, Keeps P (f a)) :
    Keeps P (m >>= f) :=
  triple_bind hFirst hSecond

theorem keeps_tryCatch
    {m : EStateM ε σ α}
    {handler : ε → EStateM ε σ α}
    (hBlock : Keeps P m)
    (hHandler : ∀ e, Keeps P (handler e)) :
    Keeps P (tryCatch m handler) :=
  triple_tryCatch hBlock hHandler

theorem keeps_tryFinally
    {m : EStateM ε σ α}
    {last : EStateM ε σ β}
    (hBlock : Keeps P m)
    (hLast : Keeps P last) :
    Keeps P (tryFinally m last) :=
  triple_tryFinally hBlock (fun _ => hLast) (fun _ => hLast)

end Statements

------------------------------------------------------------
-- Outcomes And Final States
------------------------------------------------------------

namespace Statements

variable {ε σ α β : Type}

/- What the program returned or raised. -/
def outcome
    (m : EStateM ε σ α)
    (s : σ) : Except ε α :=
  match m.run s with
  | .ok a _ => .ok a
  | .error e _ => .error e

/- The state where the program returned or raised. -/
def finalState
    (m : EStateM ε σ α)
    (s : σ) : σ :=
  match m.run s with
  | .ok _ s' => s'
  | .error _ s' => s'

theorem outcome_bind
    (m : EStateM ε σ α)
    (f : α → EStateM ε σ β)
    (s : σ) :
    outcome (m >>= f) s =
      match outcome m s with
      | .ok a => outcome (f a) (finalState m s)
      | .error e => .error e := by
  simp only [outcome, finalState, EStateM.run_bind]
  cases m.run s with
  | ok a s' => rfl
  | error e s' => rfl

theorem outcome_tryCatch
    (m : EStateM ε σ α)
    (handler : ε → EStateM ε σ α)
    (s : σ) :
    outcome (tryCatch m handler) s =
      match outcome m s with
      | .ok a => .ok a
      | .error e =>
          outcome (handler e) (finalState m s) := by
  simp only [outcome, finalState, run_tryCatch]
  cases m.run s with
  | ok a s' => rfl
  | error e s' => rfl

theorem Keeps.finalState
    {P : σ → Prop}
    {m : EStateM ε σ α}
    (hKeeps : Keeps P m)
    {s : σ}
    (hBefore : P s) :
    P (finalState m s) := by
  unfold Statements.finalState
  cases hRun : m.run s with
  | ok a s' => exact hKeeps.returned hBefore hRun
  | error e s' => exact hKeeps.raised hBefore hRun

end Statements
