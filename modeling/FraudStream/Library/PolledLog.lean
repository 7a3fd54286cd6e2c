import Mathlib.Data.List.Basic

/-
  A log that is read by polling.

  A poll answers with the next message of the log, with
  nothing, or with an error; which one is up to the broker.
  A message that is answered is not answered again. A
  reader polls in a loop that need not end, so what it emits
  is the list after each number of polls.

  Key definitions include:
    * `PolledLog.poll`
    * `PolledLog.Reader`
    * `PolledLog.emitted`
    * `PolledLog.SameSequence`

  The rules are:
    * `PolledLog.answer_message`
    * `PolledLog.sameSequence_of_skip`
    * `PolledLog.SameSequence.map`
    * `PolledLog.silent_iff_quiet`
-/

------------------------------------------------------------
-- Polls
------------------------------------------------------------

namespace PolledLog

/- What a broker does at a poll. -/
inductive Delivery where
| nothing
| failure
| next
deriving DecidableEq, Repr

/- What a poll returns. -/
inductive Answer (μ : Type) where
| nothing
| failure
| message (position : Nat) (m : μ)
deriving DecidableEq, Repr

/- The polls so far, and the position in the log. -/
structure Consumer where
  polls : Nat
  position : Nat
deriving DecidableEq, Repr

structure Broker (μ : Type) where
  log : List μ
  deliveries : Nat → Delivery

variable {μ σ ε : Type}

/- A poll at the end of the log returns nothing. -/
def answer
    (b : Broker μ)
    (c : Consumer) : Answer μ :=
  match b.deliveries c.polls with
  | .nothing => .nothing
  | .failure => .failure
  | .next =>
      match b.log[c.position]? with
      | none => .nothing
      | some m => .message c.position m

/- The consumer after a poll. -/
def poll
    (b : Broker μ)
    (c : Consumer) : Consumer :=
  { polls := c.polls + 1
    position :=
      match answer b c with
      | .message _ _ => c.position + 1
      | _ => c.position }

/- The consumer after so many polls. -/
def pollN
    (b : Broker μ) : Nat → Consumer → Consumer
| 0, c => c
| n + 1, c => pollN b n (poll b c)

variable {b : Broker μ}
variable {c : Consumer}

/- A message that is returned is at the position, which moves
   past it. -/
theorem answer_message
    {position : Nat}
    {m : μ}
    (hAnswer : answer b c = .message position m) :
    position = c.position ∧ b.log[c.position]? = some m ∧
      poll b c =
        { polls := c.polls + 1, position := c.position + 1 } := by
  have hPoll :
      poll b c =
        { polls := c.polls + 1, position := c.position + 1 } := by
    rw [poll, hAnswer]
  unfold answer at hAnswer
  split at hAnswer
  · cases hAnswer
  · cases hAnswer
  · split at hAnswer
    · cases hAnswer
    · rename_i hFound
      cases hAnswer
      exact ⟨rfl, hFound, hPoll⟩

theorem position_le_poll
    (b : Broker μ)
    (c : Consumer) :
    c.position ≤ (poll b c).position := by
  rw [poll]
  split
  · exact Nat.le_succ _
  · exact Nat.le_refl _

end PolledLog

------------------------------------------------------------
-- Readers
------------------------------------------------------------

namespace PolledLog

/- What a reader does with an answer. -/
inductive Outcome (σ ε : Type) where
| stop
| skip (s : σ)
| emit (s : σ) (e : ε)

/- The loop of a reader: its condition, and its body at the
   number of a poll. -/
structure Reader (μ σ ε : Type) where
  goesOn : σ → Bool
  body : Nat → σ → Answer μ → Outcome σ ε

variable {μ σ ε : Type}

/- What a reader emits within so many polls. -/
def emitted
    (b : Broker μ)
    (r : Reader μ σ ε) : Nat → Consumer → σ → List ε
| 0, _, _ => []
| n + 1, c, s =>
    if r.goesOn s then
      match r.body c.polls s (answer b c) with
      | .stop => []
      | .skip s' => emitted b r n (poll b c) s'
      | .emit s' e => e :: emitted b r n (poll b c) s'
    else
      []

/- Two readings emit the same sequence: each list that one
   has emitted at some time, the other has too. -/
def SameSequence (f g : Nat → List ε) : Prop :=
  ∀ es, (∃ n, f n = es) ↔ ∃ n, g n = es

end PolledLog

------------------------------------------------------------
-- Sequences
------------------------------------------------------------

namespace PolledLog

variable {μ σ ε : Type}
variable {b : Broker μ}
variable {r : Reader μ σ ε}
variable {c : Consumer}
variable {s s' : σ}

/- What is emitted was made of an answer. -/
theorem exists_body_of_mem_emitted
    {n : Nat}
    {e : ε}
    (hMem : e ∈ emitted b r n c s) :
    ∃ c' s' s'',
      r.body c'.polls s' (answer b c') = .emit s'' e := by
  induction n generalizing c s with
  | zero => cases hMem
  | succ n ih =>
      unfold emitted at hMem
      split at hMem
      · split at hMem
        next => cases hMem
        next s' => exact ih hMem
        next s' e' hBody =>
          rcases List.mem_cons.1 hMem with rfl | hLater
          · exact ⟨c, s, s', hBody⟩
          · exact ih hLater
      · cases hMem

/- A poll that is skipped does not show. -/
theorem sameSequence_of_skip
    (hGoesOn : r.goesOn s = true)
    (hSkip : r.body c.polls s (answer b c) = .skip s') :
    SameSequence
      (fun n => emitted b r n c s)
      (fun n => emitted b r n (poll b c) s') := by
  have hNext :
      ∀ n, emitted b r (n + 1) c s =
        emitted b r n (poll b c) s' := by
    intro n
    simp only [emitted, hGoesOn, if_true, hSkip]
  intro es
  constructor
  · rintro ⟨n, hEmitted⟩
    cases n with
    | zero => exact ⟨0, hEmitted⟩
    | succ n => exact ⟨n, (hNext n).symm.trans hEmitted⟩
  · rintro ⟨n, hEmitted⟩
    exact ⟨n + 1, (hNext n).trans hEmitted⟩

theorem SameSequence.map
    {δ : Type}
    {f g : Nat → List ε}
    (h : ε → δ)
    (hSame : SameSequence f g) :
    SameSequence
      (fun n => (f n).map h)
      (fun n => (g n).map h) := by
  intro es
  constructor
  · rintro ⟨n, hEq⟩
    rcases (hSame (f n)).1 ⟨n, rfl⟩ with ⟨n', hOther⟩
    exact ⟨n', (congrArg (List.map h) hOther).trans hEq⟩
  · rintro ⟨n, hEq⟩
    rcases (hSame (g n)).2 ⟨n, rfl⟩ with ⟨n', hOther⟩
    exact ⟨n', (congrArg (List.map h) hOther).trans hEq⟩

/- A reader that stops emits nothing. -/
theorem emitted_of_stop
    (hStop :
      r.goesOn s = false ∨
        r.body c.polls s (answer b c) = .stop)
    (n : Nat) :
    emitted b r n c s = [] := by
  cases n with
  | zero => rfl
  | succ n =>
      unfold emitted
      rcases hStop with hEnd | hStop
      · rw [if_neg (by simp [hEnd])]
      · rw [hStop]
        simp

/- The state that skipped polls leave unchanged. -/
def Idle
    (b : Broker μ)
    (r : Reader μ σ ε)
    (s : σ)
    (c : Consumer) : Prop :=
  r.body c.polls s (answer b c) = .skip s

/- No message is emitted before the first poll that is not
   idle ends the reading. -/
def Quiet
    (b : Broker μ)
    (r : Reader μ σ ε)
    (s : σ)
    (c : Consumer) : Prop :=
  ∀ n, (∀ i < n, Idle b r s (pollN b i c)) →
    ∀ s' e,
      r.body (pollN b n c).polls s (answer b (pollN b n c)) ≠
        .emit s' e

/- Idle polls are skipped together. -/
theorem emitted_of_idle
    (hGoesOn : r.goesOn s = true)
    (n k : Nat)
    (hIdle : ∀ i < n, Idle b r s (pollN b i c)) :
    emitted b r (n + k) c s =
      emitted b r k (pollN b n c) s := by
  induction n generalizing c with
  | zero => rw [Nat.zero_add, pollN]
  | succ n ih =>
      have hFirst : Idle b r s c := hIdle 0 (by omega)
      have hRest :
          ∀ i < n, Idle b r s (pollN b i (poll b c)) := by
        intro i hi
        exact hIdle (i + 1) (by omega)
      rw [pollN, ← ih hRest]
      have hLength : n + 1 + k = n + k + 1 := by omega
      rw [hLength, emitted, if_pos hGoesOn]
      unfold Idle at hFirst
      simp only [hFirst]

/- A reader whose skips leave its state unchanged is silent
   just when it is quiet. -/
theorem silent_iff_quiet
    (hGoesOn : r.goesOn s = true)
    (hSkips :
      ∀ p a s', r.body p s a = .skip s' → s' = s) :
    (∀ n, emitted b r n c s = []) ↔ Quiet b r s c := by
  constructor
  · intro hSilent n hIdle s' e hEmit
    have hEmitted :=
      emitted_of_idle hGoesOn n 1 hIdle
    rw [hSilent] at hEmitted
    simp [emitted, hGoesOn, hEmit] at hEmitted
  · intro hQuiet n
    induction n generalizing c with
    | zero => rfl
    | succ n ih =>
        rw [emitted, if_pos hGoesOn]
        cases hBody : r.body c.polls s (answer b c) with
        | stop => rfl
        | emit s' e =>
            have hFirst := hQuiet 0 (by simp) s' e
            exact absurd hBody hFirst
        | skip s' =>
            have hSame := hSkips _ _ _ hBody
            subst hSame
            apply ih
            intro k hIdle
            apply hQuiet (k + 1)
            intro i hi
            cases i with
            | zero => exact hBody
            | succ i => exact hIdle i (by omega)

end PolledLog
