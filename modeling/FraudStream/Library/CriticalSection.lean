import Mathlib.Logic.Function.Basic
import Mathlib.Data.List.Nodup

/-
  Clients that run their requests inside one lock.

  A client takes the lock, runs the steps of its request on
  the shared state, and releases the lock with its answer.
  Any other client may step in between, but whoever is
  inside the section keeps the lock: a run has the answers
  and the shared states of the requests run one after the
  other, in the order in which they completed.

  Key definitions include:
    * `CriticalSection`
    * `CriticalSection.Runs`
    * `CriticalSection.Config`
    * `CriticalSection.Reachable`
    * `CriticalSection.Sequential`

  Main results:
    * `CriticalSection.holder_unique`
    * `CriticalSection.reachable_sequential`
    * `CriticalSection.answered_iff`
    * `CriticalSection.chained_of_sequential`
-/

------------------------------------------------------------
-- Sections
------------------------------------------------------------

/- The steps of a request on a shared state. A step goes on
   from a point or ends with an answer. -/
structure CriticalSection (ρ π σ α : Type) where
  enter : ρ → π
  step : π → σ → (π ⊕ α) × σ

namespace CriticalSection

variable {ρ π σ α ι : Type}

/- The steps from a point end with an answer. -/
inductive Runs (sec : CriticalSection ρ π σ α) :
    π → σ → α → σ → Prop where
| last {p : π} {s s' : σ} {a : α} :
    sec.step p s = (.inr a, s') →
    Runs sec p s a s'
| more {p p' : π} {s s' s'' : σ} {a : α} :
    sec.step p s = (.inl p', s') →
    Runs sec p' s' a s'' →
    Runs sec p s a s''

/- Where a client is. -/
inductive Phase (ρ π α : Type) where
| waiting : ρ → Phase ρ π α
| inside : ρ → π → Phase ρ π α
| answered : ρ → α → Phase ρ π α

/- The clients, the lock and the shared state. -/
structure Config (ι ρ π σ α : Type) where
  shared : σ
  holder : Option ι
  phase : ι → Phase ρ π α

/- A request that completed, and the shared state then. -/
structure Completion (ι ρ σ α : Type) where
  client : ι
  request : ρ
  answer : α
  shared : σ

/- Every client waits and the lock is free. -/
def Config.start
    (requests : ι → ρ)
    (s : σ) : Config ι ρ π σ α where
  shared := s
  holder := none
  phase := fun i => .waiting (requests i)

/- The request of a client, wherever it is. -/
def Phase.request : Phase ρ π α → ρ
| .waiting r => r
| .inside r _ => r
| .answered r _ => r

variable [DecidableEq ι]

/- The configurations of the interleavings, with the
   requests that completed on the way. -/
inductive Reachable
    (sec : CriticalSection ρ π σ α)
    (start : Config ι ρ π σ α) :
    Config ι ρ π σ α → List (Completion ι ρ σ α) → Prop where
| start : Reachable sec start start []
| acquire
    {c : Config ι ρ π σ α}
    {done : List (Completion ι ρ σ α)}
    (i : ι)
    (r : ρ) :
    Reachable sec start c done →
    c.phase i = .waiting r →
    c.holder = none →
    Reachable sec start
      { c with
        holder := some i
        phase := Function.update c.phase i
          (.inside r (sec.enter r)) }
      done
| advance
    {c : Config ι ρ π σ α}
    {done : List (Completion ι ρ σ α)}
    (i : ι)
    (r : ρ)
    (p p' : π)
    (s' : σ) :
    Reachable sec start c done →
    c.phase i = .inside r p →
    sec.step p c.shared = (.inl p', s') →
    Reachable sec start
      { c with
        shared := s'
        phase := Function.update c.phase i (.inside r p') }
      done
| release
    {c : Config ι ρ π σ α}
    {done : List (Completion ι ρ σ α)}
    (i : ι)
    (r : ρ)
    (p : π)
    (a : α)
    (s' : σ) :
    Reachable sec start c done →
    c.phase i = .inside r p →
    sec.step p c.shared = (.inr a, s') →
    Reachable sec start
      { shared := s'
        holder := none
        phase := Function.update c.phase i (.answered r a) }
      (done ++
        [{ client := i
           request := r
           answer := a
           shared := s' }])

/- Completed requests run one after the other. -/
inductive Sequential (sec : CriticalSection ρ π σ α) :
    σ → List (Completion ι ρ σ α) → σ → Prop where
| nil {s : σ} : Sequential sec s [] s
| snoc
    {s s' : σ}
    {done : List (Completion ι ρ σ α)}
    {e : Completion ι ρ σ α} :
    Sequential sec s done s' →
    sec.Runs (sec.enter e.request) s' e.answer e.shared →
    Sequential sec s (done ++ [e]) e.shared

end CriticalSection

------------------------------------------------------------
-- The Holder
------------------------------------------------------------

namespace CriticalSection

variable {ρ π σ α ι : Type}
variable [DecidableEq ι]
variable {sec : CriticalSection ρ π σ α}
variable {requests : ι → ρ}
variable {s₀ : σ}
variable {c : Config ι ρ π σ α}
variable {done : List (Completion ι ρ σ α)}

/- Whoever is inside the section holds the lock. -/
theorem holder_of_inside
    (hRun : Reachable sec (.start requests s₀) c done)
    {i : ι}
    {r : ρ}
    {p : π}
    (hInside : c.phase i = .inside r p) :
    c.holder = some i := by
  induction hRun generalizing i r p with
  | start => cases hInside
  | acquire j r' _ hWaiting hFree ih =>
      by_cases hSame : i = j
      · rw [hSame]
      · simp only [Function.update_of_ne hSame] at hInside
        have hHolder := ih hInside
        rw [hFree] at hHolder
        cases hHolder
  | advance j r' p₁ p₂ s' _ hPhase _ ih =>
      by_cases hSame : i = j
      · rw [hSame]
        exact ih hPhase
      · simp only [Function.update_of_ne hSame] at hInside
        exact ih hInside
  | release j r' p₁ a s' _ hPhase _ ih =>
      by_cases hSame : i = j
      · rw [hSame] at hInside
        simp at hInside
      · simp only [Function.update_of_ne hSame] at hInside
        have hHolder := (ih hInside).symm.trans (ih hPhase)
        exact absurd (Option.some.inj hHolder) hSame

/- At most one client is inside the section. -/
theorem holder_unique
    (hRun : Reachable sec (.start requests s₀) c done)
    {i j : ι}
    {r r' : ρ}
    {p p' : π}
    (hInside : c.phase i = .inside r p)
    (hInside' : c.phase j = .inside r' p') :
    i = j := by
  have hHolder := holder_of_inside hRun hInside
  rw [holder_of_inside hRun hInside'] at hHolder
  exact (Option.some.inj hHolder).symm

end CriticalSection

------------------------------------------------------------
-- The Order Of Completion
------------------------------------------------------------

namespace CriticalSection

variable {ρ π σ α ι : Type}
variable [DecidableEq ι]
variable {sec : CriticalSection ρ π σ α}
variable {requests : ι → ρ}
variable {s₀ : σ}
variable {c : Config ι ρ π σ α}
variable {done : List (Completion ι ρ σ α)}

/- What the lock protects: the completed requests have run
   one after the other, and the client inside, if any, has
   begun where they ended. -/
def Protected
    (sec : CriticalSection ρ π σ α)
    (s₀ : σ)
    (c : Config ι ρ π σ α)
    (done : List (Completion ι ρ σ α)) : Prop :=
  ∃ s, Sequential sec s₀ done s ∧
    (c.holder = none → c.shared = s) ∧
    ∀ i r p, c.phase i = .inside r p →
      ∀ a s', sec.Runs p c.shared a s' →
        sec.Runs (sec.enter r) s a s'

theorem protected_of_reachable
    (hRun : Reachable sec (.start requests s₀) c done) :
    Protected sec s₀ c done := by
  induction hRun with
  | start =>
      refine ⟨s₀, .nil, fun _ => rfl, ?_⟩
      intro i r p hInside
      cases hInside
  | @acquire c done j r hRun hWaiting hFree ih =>
      rcases ih with ⟨s, hDone, hShared, -⟩
      refine ⟨s, hDone, fun hHolder => (by cases hHolder), ?_⟩
      intro i r' p hInside a s' hRuns
      by_cases hSame : i = j
      · simp only [hSame, Function.update_self] at hInside
        cases hInside
        rwa [← hShared hFree]
      · simp only [Function.update_of_ne hSame] at hInside
        have hHolder := holder_of_inside hRun hInside
        rw [hFree] at hHolder
        cases hHolder
  | @advance c done j r p p' s₁ hRun hPhase hStep ih =>
      rcases ih with ⟨s, hDone, -, hInside⟩
      have hHolder := holder_of_inside hRun hPhase
      refine ⟨s, hDone, ?_, ?_⟩
      · intro hFree
        rw [hHolder] at hFree
        cases hFree
      · intro i r' p'' hPhase' a s' hRuns
        by_cases hSame : i = j
        · simp only [hSame, Function.update_self] at hPhase'
          cases hPhase'
          exact
            hInside j r p hPhase a s' (.more hStep hRuns)
        · simp only [Function.update_of_ne hSame] at hPhase'
          exact
            absurd (holder_unique hRun hPhase' hPhase) hSame
  | @release c done j r p a s₁ hRun hPhase hStep ih =>
      rcases ih with ⟨s, hDone, -, hInside⟩
      have hRuns :=
        hInside j r p hPhase a s₁ (.last hStep)
      refine ⟨s₁, .snoc hDone hRuns, fun _ => rfl, ?_⟩
      intro i r' p' hPhase'
      by_cases hSame : i = j
      · simp only [hSame, Function.update_self] at hPhase'
        cases hPhase'
      · simp only [Function.update_of_ne hSame] at hPhase'
        exact
          absurd (holder_unique hRun hPhase' hPhase) hSame

/- A free lock leaves the state that the completed requests
   produce one after the other. -/
theorem reachable_sequential
    (hRun : Reachable sec (.start requests s₀) c done)
    (hFree : c.holder = none) :
    Sequential sec s₀ done c.shared := by
  rcases protected_of_reachable hRun with
    ⟨s, hDone, hShared, -⟩
  rwa [hShared hFree]

/- The completed requests have run one after the other. -/
theorem reachable_completed
    (hRun : Reachable sec (.start requests s₀) c done) :
    ∃ s, Sequential sec s₀ done s := by
  rcases protected_of_reachable hRun with ⟨s, hDone, -⟩
  exact ⟨s, hDone⟩

/- An answered client is one whose request completed with
   that answer. -/
theorem answered_iff
    (hRun : Reachable sec (.start requests s₀) c done)
    (i : ι)
    (r : ρ)
    (a : α) :
    c.phase i = .answered r a ↔
      ∃ s, ({ client := i
              request := r
              answer := a
              shared := s } : Completion ι ρ σ α) ∈ done := by
  induction hRun generalizing i r a with
  | start => simp [Config.start]
  | @acquire c done j r' hRun hWaiting hFree ih =>
      rw [← ih]
      by_cases hSame : i = j
      · simp [hSame, hWaiting]
      · simp only [Function.update_of_ne hSame]
  | @advance c done j r' p p' s₁ hRun hPhase hStep ih =>
      rw [← ih]
      by_cases hSame : i = j
      · simp [hSame, hPhase]
      · simp only [Function.update_of_ne hSame]
  | @release c done j r' p a' s₁ hRun hPhase hStep ih =>
      simp only [List.mem_append, List.mem_singleton,
        exists_or, ← ih]
      by_cases hSame : i = j
      · simp [hSame, hPhase, eq_comm]
      · simp [hSame]

/- A client keeps its request. -/
theorem request_phase
    (hRun : Reachable sec (.start requests s₀) c done)
    (i : ι) :
    (c.phase i).request = requests i := by
  induction hRun with
  | start => rfl
  | acquire j r _ hPhase _ ih =>
      by_cases hSame : i = j
      · simpa [hSame, hPhase, Phase.request] using ih
      · simpa [hSame] using ih
  | advance j r p p' s₁ _ hPhase _ ih =>
      by_cases hSame : i = j
      · simpa [hSame, hPhase, Phase.request] using ih
      · simpa [hSame] using ih
  | release j r p a s₁ _ hPhase _ ih =>
      by_cases hSame : i = j
      · simpa [hSame, hPhase, Phase.request] using ih
      · simpa [hSame] using ih

theorem request_of_mem
    (hRun : Reachable sec (.start requests s₀) c done)
    {e : Completion ι ρ σ α}
    (hMem : e ∈ done) :
    e.request = requests e.client := by
  have hAnswered :=
    (answered_iff hRun e.client e.request e.answer).2
      ⟨e.shared, hMem⟩
  rw [← request_phase hRun, hAnswered]
  rfl

end CriticalSection

------------------------------------------------------------
-- What Holds Of Completed Requests
------------------------------------------------------------

namespace CriticalSection

variable {ρ π σ α ι : Type}

/- From a point the steps go on from the next one, or end. -/
theorem runs_iff
    (sec : CriticalSection ρ π σ α)
    (p : π)
    (s : σ)
    (a : α)
    (s' : σ) :
    sec.Runs p s a s' ↔
      match sec.step p s with
      | (.inl p', s'') => sec.Runs p' s'' a s'
      | (.inr a', s'') => a' = a ∧ s'' = s' := by
  constructor
  · intro hRuns
    cases hRuns with
    | last hStep =>
        rw [hStep]
        exact ⟨rfl, rfl⟩
    | more hStep hRest =>
        rw [hStep]
        exact hRest
  · rcases hStep : sec.step p s with ⟨p' | a', s''⟩
    · exact .more hStep
    · rintro ⟨rfl, rfl⟩
      exact .last hStep

/- Every completed request is related to the state that it
   found, which the one before it left. -/
def Chained (P : σ → Completion ι ρ σ α → Prop) :
    σ → List (Completion ι ρ σ α) → Prop
| _, [] => True
| s, e :: es => P s e ∧ Chained P e.shared es

/- The state that the last completed request left. -/
def lastShared (s : σ) : List (Completion ι ρ σ α) → σ
| [] => s
| e :: es => lastShared e.shared es

theorem lastShared_concat
    (s : σ)
    (done : List (Completion ι ρ σ α))
    (e : Completion ι ρ σ α) :
    lastShared s (done ++ [e]) = e.shared := by
  induction done generalizing s with
  | nil => rfl
  | cons e' done ih => exact ih e'.shared

theorem chained_concat
    (P : σ → Completion ι ρ σ α → Prop)
    (s : σ)
    (done : List (Completion ι ρ σ α))
    (e : Completion ι ρ σ α) :
    Chained P s (done ++ [e]) ↔
      Chained P s done ∧ P (lastShared s done) e := by
  induction done generalizing s with
  | nil => simp [Chained, lastShared]
  | cons e' done ih =>
      simp only [List.cons_append, Chained, lastShared, ih,
        and_assoc]

/- The rest of the requests go on from each of them. -/
theorem chained_append_cons
    {P : σ → Completion ι ρ σ α → Prop}
    {s : σ}
    {before after : List (Completion ι ρ σ α)}
    {e : Completion ι ρ σ α}
    (hChained : Chained P s (before ++ e :: after)) :
    (∃ s', P s' e) ∧ Chained P e.shared after := by
  induction before generalizing s with
  | nil => exact ⟨⟨s, hChained.1⟩, hChained.2⟩
  | cons e' before ih => exact ih hChained.2

/- An invariant of the requests holds of the states that
   they left, and what a request does while the invariant
   holds is done by each of them. -/
theorem chained_of_sequential
    {sec : CriticalSection ρ π σ α}
    {P : σ → Completion ι ρ σ α → Prop}
    {Inv : σ → Prop}
    {s s' : σ}
    {done : List (Completion ι ρ σ α)}
    (hStart : Inv s)
    (hStep :
      ∀ e ∈ done, ∀ s, Inv s →
        sec.Runs (sec.enter e.request) s e.answer e.shared →
          P s e ∧ Inv e.shared)
    (hSequential : Sequential sec s done s') :
    Chained P s done ∧ (∀ e ∈ done, Inv e.shared) ∧
      lastShared s done = s' ∧ Inv s' := by
  induction hSequential with
  | nil => exact ⟨trivial, List.forall_mem_nil _, rfl, hStart⟩
  | @snoc s' done e hDone hRuns ih =>
      rw [List.forall_mem_append,
        List.forall_mem_singleton] at hStep
      rcases ih hStep.1 with ⟨hChained, hAll, hLast, hInv⟩
      rcases hStep.2 s' hInv hRuns with ⟨hHere, hInv'⟩
      refine ⟨?_, ?_, ?_, hInv'⟩
      · rw [chained_concat, hLast]
        exact ⟨hChained, hHere⟩
      · rw [List.forall_mem_append,
          List.forall_mem_singleton]
        exact ⟨hAll, hInv'⟩
      · exact lastShared_concat s done e

end CriticalSection
