import Mathlib.Tactic.Linarith
import FraudStream.Library.Binary64
import FraudStream.Library.SerialWorker

/-
  The circuit breaker around the model client.

  The breaker is consulted in the only thread of an executor,
  and the caller waits for that thread no longer than the
  probe timeout. What the caller gives up on goes on in the
  thread, and the breaker sees what becomes of it. Times are
  in milliseconds.

  The breaker is a parameter, with the rules that it is known
  for. A caller makes one call after the other.

  Key definitions include:
    * `CircuitBreaker`
    * `ScoreCall`
    * `MLCircuitBreaker.scoreWithFallback`
    * `MLCircuitBreaker.OpensOnSustainedFailure`
    * `MLCircuitBreaker.FailuresAreSeen`

  Main results:
    * `MLCircuitBreaker.open_of_failures`
    * `MLCircuitBreaker.failures_of_open`
    * `MLCircuitBreaker.opens_on_sustained_failure_iff`
-/

------------------------------------------------------------
-- Breakers
------------------------------------------------------------

namespace FraudStream

/- The state of a breaker, with the failures that a closed
   one has counted. -/
inductive CircuitStatus where
| closed : (failures : Nat) → CircuitStatus
| open
| halfOpen
deriving DecidableEq, Repr

/- A breaker that opens at `failMax` failures. A call at a
   time is refused or made, and a call of an open breaker
   that is made is a trial. -/
structure CircuitBreaker (σ : Type) (failMax : Nat) where
  initial : σ
  status : σ → CircuitStatus
  beforeCall : σ → ℚ → Option σ
  onFailure : σ → ℚ → σ
  onSuccess : σ → ℚ → σ
  initial_closed : status initial = .closed 0
  closed_admits :
    ∀ s t n, status s = .closed n →
      ∃ s', beforeCall s t = some s' ∧
        status s' = .closed n
  open_tries :
    ∀ s t s', status s = .open →
      beforeCall s t = some s' → status s' = .halfOpen
  failure_counts :
    ∀ s t n, status s = .closed n →
      status (onFailure s t) =
        if n + 1 < failMax then .closed (n + 1) else .open
  failure_reopens :
    ∀ s t, status s = .halfOpen →
      status (onFailure s t) = .open
  success_closes :
    ∀ s t, status s ≠ .open →
      status (onSuccess s t) = .closed 0

end FraudStream

------------------------------------------------------------
-- Calls
------------------------------------------------------------

namespace FraudStream

/- The settings of the breaker, as they are checked. -/
structure BreakerConfig where
  cbErrorThreshold : Nat
  cbOpenSeconds : ℚ
  cbProbeTimeoutMs : ℚ
  threshold_pos : 1 ≤ cbErrorThreshold
  open_pos : 0 < cbOpenSeconds
  timeout_bounds :
    1 ≤ cbProbeTimeoutMs ∧ cbProbeTimeoutMs ≤ 50

/- A call of `score_with_fallback`: how long after the return
   of the one before it is made, and what `client.score`
   does, for how long. Without a score it raises. -/
structure ScoreCall where
  gapMs : ℚ
  delayMs : ℚ
  score : Option PyFloat
  fallbackScore : PyFloat
  gap_nonneg : 0 ≤ gapMs
  delay_nonneg : 0 ≤ delayMs

/- What is caught. An error of the client that opens the
   breaker is raised as an error of the breaker, and caught
   alike. -/
inductive ScoreError where
| circuitBreakerError
| mlClientError
| timeoutError
deriving DecidableEq, Repr

/- The time of the last return, the breaker, and the time
   when the thread is free. -/
structure BreakerClient (σ : Type) where
  now : ℚ
  circuit : σ
  freeAt : ℚ

/- A call that has returned. -/
structure ScoredCall (σ : Type) where
  submitted : ℚ
  service : SerialWorker.Service σ ℚ
  returned : ℚ
  result : PyFloat × Bool

def ScoredCall.usedFallback
    {σ : Type}
    (h : ScoredCall σ) : Bool :=
  h.result.2

namespace MLCircuitBreaker

variable {σ : Type}
variable (config : BreakerConfig)
variable (B : CircuitBreaker σ config.cbErrorThreshold)

/- The wrapped `client.score`, in the thread. -/
def wrappedScore
    (s : σ)
    (start : ℚ)
    (c : ScoreCall) :
    SerialWorker.Service σ ℚ × Except ScoreError PyFloat :=
  match B.beforeCall s start with
  | none =>
      ({ start := start
         during := s
         finish := start
         after := s
         ordered := le_refl start },
        .error .circuitBreakerError)
  | some s' =>
      let finish := start + c.delayMs
      let after :=
        match c.score with
        | none => B.onFailure s' finish
        | some _ => B.onSuccess s' finish
      ({ start := start
         during := s'
         finish := finish
         after := after
         ordered := le_add_of_nonneg_right c.delay_nonneg },
        match c.score with
        | none => .error .mlClientError
        | some p => .ok p)

/- `score_with_fallback` -/
def scoreWithFallback
    (st : BreakerClient σ)
    (c : ScoreCall) : ScoredCall σ :=
  let submitted := st.now + c.gapMs
  let start := max submitted st.freeAt
  let (service, scored) := wrappedScore config B st.circuit start c
  let deadline := submitted + config.cbProbeTimeoutMs
  let result : Except ScoreError PyFloat :=
    if service.finish ≤ deadline then
      scored
    else
      .error .timeoutError
  { submitted := submitted
    service := service
    returned := min service.finish deadline
    result :=
      match result with
      | .ok p => (p, false)
      | .error _ => (c.fallbackScore, true) }

/- The client after a call. -/
def next (h : ScoredCall σ) : BreakerClient σ where
  now := h.returned
  circuit := h.service.after
  freeAt := h.service.finish

/- A new client. -/
def init : BreakerClient σ where
  now := 0
  circuit := B.initial
  freeAt := 0

/- The calls of a run, as they return. -/
def run
    (st : BreakerClient σ) :
    List ScoreCall → List (ScoredCall σ)
| [] => []
| c :: cs =>
    let h := scoreWithFallback config B st c
    h :: run (next h) cs

def clientAfter
    (st : BreakerClient σ)
    (calls : List ScoreCall) : BreakerClient σ :=
  calls.foldl
    (fun st c => next (scoreWithFallback config B st c)) st

def services
    (st : BreakerClient σ)
    (calls : List ScoreCall) :
    List (SerialWorker.Service σ ℚ) :=
  (run config B st calls).map ScoredCall.service

/- The breaker of a new client at a time, when the calls are
   all that it gets. -/
def statusAt
    (calls : List ScoreCall)
    (t : ℚ) : CircuitStatus :=
  B.status
    (SerialWorker.stateAt B.initial
      (services config B (init config B) calls) t)

end MLCircuitBreaker

end FraudStream

------------------------------------------------------------
-- Sustained Failure
------------------------------------------------------------

namespace FraudStream

namespace MLCircuitBreaker

variable {σ : Type}
variable (config : BreakerConfig)
variable (B : CircuitBreaker σ config.cbErrorThreshold)

/- As many calls in a row as the threshold tells have used
   the fallback. The breaker was closed when the first of
   them was made, with no failure counted. -/
structure Sustained
    (before : List ScoreCall)
    (c : ScoreCall)
    (rest : List ScoreCall) : Prop where
  length : (c :: rest).length = config.cbErrorThreshold
  fresh :
    statusAt config B before
        ((clientAfter config B (init config B) before).now +
          c.gapMs) =
      .closed 0
  fallback :
    ∀ h ∈ run config B
        (clientAfter config B (init config B) before)
        (c :: rest),
      h.usedFallback = true

/- The breaker is open when the last of them returns. -/
def OpensOnSustainedFailure
    (before : List ScoreCall)
    (c : ScoreCall)
    (rest : List ScoreCall) : Prop :=
  Sustained config B before c rest →
    statusAt config B (before ++ c :: rest)
        (clientAfter config B (init config B)
          (before ++ c :: rest)).now =
      .open

/- Each of the calls raises if it is made, and the thread is
   done with the last one before its caller gives it up. -/
def FailuresAreSeen
    (before : List ScoreCall)
    (c : ScoreCall)
    (rest : List ScoreCall) : Prop :=
  (∀ c' ∈ c :: rest, c'.score = none) ∧
    (clientAfter config B (init config B)
        (before ++ c :: rest)).freeAt ≤
      (clientAfter config B (init config B)
        (before ++ c :: rest)).now

/- No earlier call is in the thread when one is made. -/
def Idle
    (before : List ScoreCall)
    (c : ScoreCall) : Prop :=
  (clientAfter config B (init config B) before).freeAt ≤
    (clientAfter config B (init config B) before).now +
      c.gapMs

end MLCircuitBreaker

end FraudStream

------------------------------------------------------------
-- The Thread
------------------------------------------------------------

namespace FraudStream

namespace MLCircuitBreaker

open SerialWorker (Ordered finalState stateAt)

variable {σ : Type}
variable {config : BreakerConfig}
variable {B : CircuitBreaker σ config.cbErrorThreshold}

theorem start_wrappedScore
    (s : σ)
    (start : ℚ)
    (c : ScoreCall) :
    (wrappedScore config B s start c).1.start = start := by
  rw [wrappedScore]
  cases B.beforeCall s start <;> rfl

theorem submitted_le_start
    (st : BreakerClient σ)
    (c : ScoreCall) :
    (scoreWithFallback config B st c).submitted ≤
      (scoreWithFallback config B st c).service.start := by
  simp only [scoreWithFallback, start_wrappedScore]
  exact le_max_left _ _

theorem freeAt_le_start
    (st : BreakerClient σ)
    (c : ScoreCall) :
    st.freeAt ≤
      (scoreWithFallback config B st c).service.start := by
  simp only [scoreWithFallback, start_wrappedScore]
  exact le_max_right _ _

/- A call returns no earlier than it is made. -/
theorem submitted_le_returned
    (st : BreakerClient σ)
    (c : ScoreCall) :
    st.now + c.gapMs ≤
      (scoreWithFallback config B st c).returned := by
  have hStart := submitted_le_start (B := B) st c
  have hFinish :=
    (scoreWithFallback config B st c).service.ordered
  have hTimeout := config.timeout_bounds.1
  have hEarly :
      st.now + c.gapMs ≤
        (scoreWithFallback config B st c).service.finish :=
    le_trans hStart hFinish
  simp only [scoreWithFallback] at hEarly ⊢
  apply le_min hEarly
  linarith

theorem now_le_clientAfter
    (st : BreakerClient σ)
    (calls : List ScoreCall) :
    st.now ≤ (clientAfter config B st calls).now := by
  induction calls generalizing st with
  | nil => exact le_refl _
  | cons c calls ih =>
      have hReturned := submitted_le_returned (B := B) st c
      have hGap := c.gap_nonneg
      have hLater := ih (next (scoreWithFallback config B st c))
      calc
        st.now ≤ (scoreWithFallback config B st c).returned := by
          linarith
        _ ≤ _ := hLater

theorem clientAfter_append
    (st : BreakerClient σ)
    (before calls : List ScoreCall) :
    clientAfter config B st (before ++ calls) =
      clientAfter config B
        (clientAfter config B st before) calls := by
  rw [clientAfter, List.foldl_append]
  rfl

theorem services_append
    (st : BreakerClient σ)
    (before calls : List ScoreCall) :
    services config B st (before ++ calls) =
      services config B st before ++
        services config B
          (clientAfter config B st before) calls := by
  induction before generalizing st with
  | nil => rfl
  | cons c before ih =>
      have hTail :=
        ih (next (scoreWithFallback config B st c))
      simp only [services, List.cons_append, run,
        List.map_cons] at hTail ⊢
      rw [hTail]
      rfl

theorem ordered_services
    (st : BreakerClient σ)
    (calls : List ScoreCall) :
    Ordered st.freeAt (services config B st calls) := by
  induction calls generalizing st with
  | nil => trivial
  | cons c calls ih =>
      exact
        ⟨freeAt_le_start st c,
          ih (next (scoreWithFallback config B st c))⟩

theorem finalState_services
    (st : BreakerClient σ)
    (calls : List ScoreCall) :
    finalState st.circuit (services config B st calls) =
      (clientAfter config B st calls).circuit := by
  induction calls generalizing st with
  | nil => rfl
  | cons c calls ih =>
      exact ih (next (scoreWithFallback config B st c))

theorem freeAt_services
    (st : BreakerClient σ)
    (calls : List ScoreCall) :
    SerialWorker.freeAt st.freeAt
        (services config B st calls) =
      (clientAfter config B st calls).freeAt := by
  induction calls generalizing st with
  | nil => rfl
  | cons c calls ih =>
      exact ih (next (scoreWithFallback config B st c))

/- Once the thread has nothing left to do, the breaker is as
   the last call leaves it. -/
theorem statusAt_of_done
    {calls : List ScoreCall}
    {t : ℚ}
    (hDone :
      (clientAfter config B (init config B) calls).freeAt ≤
        t) :
    statusAt config B calls t =
      B.status
        (clientAfter config B (init config B)
          calls).circuit := by
  rw [← freeAt_services] at hDone
  have hState :=
    SerialWorker.stateAt_of_done B.initial
      (ordered_services (init config B) calls) hDone
  have hFinal :=
    finalState_services (B := B) (init config B) calls
  rw [statusAt, hState, ← hFinal]
  rfl

/- After some calls that are done, only the others count. -/
theorem statusAt_append
    {before : List ScoreCall}
    {t : ℚ}
    (calls : List ScoreCall)
    (hDone :
      (clientAfter config B (init config B) before).freeAt ≤
        t) :
    statusAt config B (before ++ calls) t =
      B.status
        (stateAt
          (clientAfter config B (init config B)
            before).circuit
          (services config B
            (clientAfter config B (init config B) before)
            calls) t) := by
  rw [← freeAt_services] at hDone
  have hState :=
    SerialWorker.stateAt_append B.initial
      (services config B
        (clientAfter config B (init config B) before) calls)
      (ordered_services (init config B) before) hDone
  have hFinal :=
    finalState_services (B := B) (init config B) before
  rw [statusAt, services_append, hState, ← hFinal]
  rfl

end MLCircuitBreaker

end FraudStream

------------------------------------------------------------
-- Failures In A Row
------------------------------------------------------------

namespace FraudStream

namespace MLCircuitBreaker

open SerialWorker (stateAt)

variable {σ : Type}
variable {config : BreakerConfig}
variable {B : CircuitBreaker σ config.cbErrorThreshold}

/- The breaker is open, or closed with so many failures
   counted at least. -/
def Counted
    (B : CircuitBreaker σ config.cbErrorThreshold)
    (n : Nat)
    (s : σ) : Prop :=
  B.status s = .open ∨
    ∃ m, n ≤ m ∧ m < config.cbErrorThreshold ∧
      B.status s = .closed m

/- A call that raises if it is made counts, unless an open
   breaker refuses it. -/
theorem counted_of_raise
    {n : Nat}
    {s : σ}
    {c : ScoreCall}
    (start : ℚ)
    (hCounted : Counted B n s)
    (hRaises : c.score = none) :
    Counted B (n + 1)
      (wrappedScore config B s start c).1.after := by
  rw [wrappedScore]
  cases hBefore : B.beforeCall s start with
  | none =>
      rcases hCounted with hOpen | ⟨m, -, -, hClosed⟩
      · exact .inl hOpen
      · rcases B.closed_admits s start m hClosed with
          ⟨s', hAdmits, -⟩
        rw [hAdmits] at hBefore
        cases hBefore
  | some s' =>
      simp only [hRaises]
      rcases hCounted with hOpen | ⟨m, hMore, -, hClosed⟩
      · have hTrial := B.open_tries s start s' hOpen hBefore
        exact .inl (B.failure_reopens s' _ hTrial)
      · rcases B.closed_admits s start m hClosed with
          ⟨s'', hAdmits, hStays⟩
        rw [hAdmits] at hBefore
        cases hBefore
        have hCount :=
          B.failure_counts s' (start + c.delayMs) m hStays
        split at hCount
        · rename_i hBelow
          exact .inr ⟨m + 1, by omega, hBelow, hCount⟩
        · exact .inl hCount

/- Between two calls the breaker is closed below its
   threshold, or open. -/
theorem counted_of_call
    {s : σ}
    (start : ℚ)
    (c : ScoreCall)
    (hCounted : Counted B 0 s) :
    Counted B 0
      (wrappedScore config B s start c).1.after := by
  cases hScore : c.score with
  | none =>
      rcases counted_of_raise start hCounted hScore with
        hOpen | ⟨m, -, hBelow, hClosed⟩
      · exact .inl hOpen
      · exact .inr ⟨m, by omega, hBelow, hClosed⟩
  | some p =>
      rw [wrappedScore]
      cases hBefore : B.beforeCall s start with
      | none => exact hCounted
      | some s' =>
          simp only [hScore]
          have hTried : B.status s' ≠ .open := by
            rcases hCounted with hOpen | ⟨m, -, -, hClosed⟩
            · rw [B.open_tries s start s' hOpen hBefore]
              simp
            · rcases B.closed_admits s start m hClosed with
                ⟨s'', hAdmits, hStays⟩
              rw [hAdmits] at hBefore
              cases hBefore
              rw [hStays]
              simp
          exact
            .inr ⟨0, le_refl 0, config.threshold_pos,
              B.success_closes s' _ hTried⟩

theorem counted_clientAfter
    {st : BreakerClient σ}
    (calls : List ScoreCall)
    (hCounted : Counted B 0 st.circuit) :
    Counted B 0 (clientAfter config B st calls).circuit := by
  induction calls generalizing st with
  | nil => exact hCounted
  | cons c calls ih =>
      exact ih (counted_of_call _ c hCounted)

/- Calls that all raise are all counted. -/
theorem counted_of_failures
    {n : Nat}
    {st : BreakerClient σ}
    {calls : List ScoreCall}
    (hCounted : Counted B n st.circuit)
    (hRaise : ∀ c ∈ calls, c.score = none) :
    Counted B (n + calls.length)
      (clientAfter config B st calls).circuit := by
  induction calls generalizing n st with
  | nil => exact hCounted
  | cons c calls ih =>
      rw [List.forall_mem_cons] at hRaise
      have hHead :=
        counted_of_raise (B := B)
          (max (st.now + c.gapMs) st.freeAt) hCounted
          hRaise.1
      have hTail :
          Counted B (n + 1 + calls.length)
            (clientAfter config B
              (next (scoreWithFallback config B st c))
              calls).circuit :=
        ih hHead hRaise.2
      rw [List.length_cons, Nat.add_comm calls.length 1,
        ← Nat.add_assoc]
      exact hTail

/- A closed breaker makes the call, and is closed with as
   many failures until it is done. -/
theorem wrappedScore_of_closed
    {n : Nat}
    {s : σ}
    (start : ℚ)
    (c : ScoreCall)
    (hClosed : B.status s = .closed n) :
    B.status (wrappedScore config B s start c).1.during =
        .closed n ∧
      B.status (wrappedScore config B s start c).1.after =
        (match c.score with
        | some _ => .closed 0
        | none =>
            if n + 1 < config.cbErrorThreshold then
              .closed (n + 1)
            else
              .open) := by
  rcases B.closed_admits s start n hClosed with
    ⟨s', hAdmits, hStays⟩
  rw [wrappedScore, hAdmits]
  refine ⟨hStays, ?_⟩
  cases c.score with
  | none => exact B.failure_counts s' _ n hStays
  | some p =>
      apply B.success_closes
      rw [hStays]
      simp

/- A closed breaker that is open at a time after no more
   calls than it has failures to go has seen each of them
   fail. -/
theorem failures_of_open
    {n : Nat}
    {st : BreakerClient σ}
    {calls : List ScoreCall}
    {t : ℚ}
    (hClosed : B.status st.circuit = .closed n)
    (hFew : n + calls.length ≤ config.cbErrorThreshold)
    (hOpen :
      B.status
        (stateAt st.circuit (services config B st calls) t) =
        .open) :
    n + calls.length = config.cbErrorThreshold ∧
      (∀ c ∈ calls, c.score = none) ∧
      (clientAfter config B st calls).freeAt ≤ t := by
  induction calls generalizing n st with
  | nil =>
      rw [services, run, List.map_nil, stateAt,
        hClosed] at hOpen
      cases hOpen
  | cons c calls ih =>
      let h := scoreWithFallback config B st c
      have hServices :
          services config B st (c :: calls) =
            h.service ::
              services config B (next h) calls := rfl
      have hThread :=
        wrappedScore_of_closed
          (max (st.now + c.gapMs) st.freeAt) c hClosed
      rw [hServices, stateAt] at hOpen
      split at hOpen
      · rw [hClosed] at hOpen
        cases hOpen
      · split at hOpen
        · have hDuring :
              B.status h.service.during = .closed n :=
            hThread.1
          rw [hDuring] at hOpen
          cases hOpen
        · rename_i hFinish
          have hDone : h.service.finish ≤ t :=
            le_of_not_gt hFinish
          rw [List.length_cons] at hFew ⊢
          rw [List.forall_mem_cons]
          cases hScore : c.score with
          | some p =>
              have hAfter :
                  B.status (next h).circuit = .closed 0 := by
                have hStatus := hThread.2
                rw [hScore] at hStatus
                exact hStatus
              have hAll := ih hAfter (by omega) hOpen
              omega
          | none =>
              have hAfter := hThread.2
              rw [hScore] at hAfter
              by_cases hBelow :
                n + 1 < config.cbErrorThreshold
              · simp only [if_pos hBelow] at hAfter
                have hCount :
                    B.status (next h).circuit =
                      .closed (n + 1) := hAfter
                rcases ih hCount (by omega) hOpen with
                  ⟨hLength, hRaise, hFree⟩
                exact ⟨by omega, ⟨rfl, hRaise⟩, hFree⟩
              · have hNone : calls = [] := by
                  apply List.eq_nil_of_length_eq_zero
                  omega
                rw [hNone]
                exact
                  ⟨by simp only [List.length_nil]; omega,
                    ⟨rfl, List.forall_mem_nil _⟩, hDone⟩

end MLCircuitBreaker

end FraudStream

------------------------------------------------------------
-- When The Breaker Opens
------------------------------------------------------------

namespace FraudStream

namespace MLCircuitBreaker

variable {σ : Type}
variable {config : BreakerConfig}
variable {B : CircuitBreaker σ config.cbErrorThreshold}
variable {before : List ScoreCall}
variable {c : ScoreCall}
variable {rest : List ScoreCall}

/- Calls that are seen to fail open the breaker, whatever is
   left in the thread when they begin. -/
theorem open_of_failures
    (hLength :
      (c :: rest).length = config.cbErrorThreshold)
    (hSeen : FailuresAreSeen config B before c rest) :
    statusAt config B (before ++ c :: rest)
        (clientAfter config B (init config B)
          (before ++ c :: rest)).now =
      .open := by
  have hNew : Counted B 0 (init config B).circuit :=
    .inr ⟨0, le_refl 0, config.threshold_pos,
      B.initial_closed⟩
  have hCounted :
      Counted B (0 + (c :: rest).length)
        (clientAfter config B (init config B)
          (before ++ c :: rest)).circuit := by
    rw [clientAfter_append]
    exact
      counted_of_failures
        (counted_clientAfter before hNew) hSeen.1
  rw [statusAt_of_done hSeen.2]
  rcases hCounted with hOpen | ⟨m, hMore, hBelow, -⟩
  · exact hOpen
  · omega

/- With the thread idle when they begin, only calls that are
   seen to fail open it. -/
theorem failures_of_sustained
    (hIdle : Idle config B before c)
    (hSustained : Sustained config B before c rest)
    (hOpen :
      statusAt config B (before ++ c :: rest)
          (clientAfter config B (init config B)
            (before ++ c :: rest)).now =
        .open) :
    FailuresAreSeen config B before c rest := by
  have hClosed := hSustained.fresh
  rw [statusAt_of_done hIdle] at hClosed
  have hReturned :=
    submitted_le_returned (B := B)
      (clientAfter config B (init config B) before) c
  have hLater :=
    now_le_clientAfter (B := B)
      (next (scoreWithFallback config B
        (clientAfter config B (init config B) before) c))
      rest
  have hIdleThen :
      (clientAfter config B (init config B) before).freeAt ≤
        (clientAfter config B (init config B)
          (before ++ c :: rest)).now := by
    rw [clientAfter_append]
    exact le_trans hIdle (le_trans hReturned hLater)
  rw [statusAt_append (c :: rest) hIdleThen] at hOpen
  have hLength := hSustained.length
  have hAll :=
    failures_of_open hClosed (by omega) hOpen
  rw [← clientAfter_append] at hAll
  exact ⟨hAll.2.1, hAll.2.2⟩

/-
  As many fallbacks in a row as the threshold tells open a
  fresh breaker if each of the calls raises and the thread is
  done with the last of them when it returns. If no earlier
  call was in the thread when they began, they open it only
  then.
-/
theorem opens_on_sustained_failure_iff
    (config : BreakerConfig)
    (B : CircuitBreaker σ config.cbErrorThreshold)
    (before : List ScoreCall)
    (c : ScoreCall)
    (rest : List ScoreCall) :
    ((Sustained config B before c rest →
          FailuresAreSeen config B before c rest) →
        OpensOnSustainedFailure config B before c rest) ∧
      (Idle config B before c →
        OpensOnSustainedFailure config B before c rest →
          Sustained config B before c rest →
            FailuresAreSeen config B before c rest) := by
  constructor
  · intro hSeen hSustained
    exact
      open_of_failures hSustained.length (hSeen hSustained)
  · intro hIdle hOpens hSustained
    exact
      failures_of_sustained hIdle hSustained
        (hOpens hSustained)

/- The breaker that the module builds: its state, with the
   time when it opened. -/
inductive Circuit where
| closed : (failures : Nat) → Circuit
| open : (openedAt : ℚ) → Circuit
| halfOpen

/- An open breaker lets a call try when its reset timeout
   has passed. -/
def pybreaker
    (failMax : Nat)
    (resetTimeoutMs : ℚ) :
    CircuitBreaker Circuit failMax where
  initial := .closed 0
  status := fun s =>
    match s with
    | .closed n => .closed n
    | .open _ => .open
    | .halfOpen => .halfOpen
  beforeCall := fun s t =>
    match s with
    | .closed n => some (.closed n)
    | .open openedAt =>
        if t < openedAt + resetTimeoutMs then
          none
        else
          some .halfOpen
    | .halfOpen => some .halfOpen
  onFailure := fun s t =>
    match s with
    | .closed n =>
        if n + 1 < failMax then
          .closed (n + 1)
        else
          .open t
    | _ => .open t
  onSuccess := fun _ _ => .closed 0
  initial_closed := rfl
  closed_admits := by
    intro s t n hClosed
    cases s with
    | closed m => exact ⟨_, rfl, hClosed⟩
    | «open» openedAt => cases hClosed
    | halfOpen => cases hClosed
  open_tries := by
    intro s t s' hOpen hTry
    cases s with
    | closed m => cases hOpen
    | halfOpen => cases hOpen
    | «open» openedAt =>
        simp only at hTry
        split at hTry
        · cases hTry
        · cases hTry
          rfl
  failure_counts := by
    intro s t n hClosed
    cases s with
    | closed m =>
        cases hClosed
        by_cases hBelow : n + 1 < failMax
        · simp [hBelow]
        · simp [hBelow]
    | «open» openedAt => cases hClosed
    | halfOpen => cases hClosed
  failure_reopens := by
    intro s t hHalfOpen
    cases s with
    | closed m => cases hHalfOpen
    | «open» openedAt => cases hHalfOpen
    | halfOpen => rfl
  success_closes := by
    intro s t _
    rfl

/- The default settings. -/
def defaultConfig : BreakerConfig where
  cbErrorThreshold := 3
  cbOpenSeconds := 30
  cbProbeTimeoutMs := 5
  threshold_pos := by decide
  open_pos := by norm_num
  timeout_bounds := by norm_num

/- A call that succeeds, but not in time. -/
def slowCall : ScoreCall where
  gapMs := 10
  delayMs := 10
  score := some (.finite 0)
  fallbackScore := .finite 0
  gap_nonneg := by norm_num
  delay_nonneg := by norm_num

/- Slow calls all use the fallback, and the breaker stays
   closed. -/
theorem slow_calls_leave_the_breaker_closed :
    ¬ OpensOnSustainedFailure defaultConfig
      (pybreaker 3 30000) [] slowCall
      [slowCall, slowCall] := by
  intro hOpens
  have hSustained :
      Sustained defaultConfig (pybreaker 3 30000) []
        slowCall [slowCall, slowCall] := by
    refine ⟨rfl, rfl, ?_⟩
    decide +kernel
  have hOpen := hOpens hSustained
  revert hOpen
  decide +kernel

end MLCircuitBreaker

end FraudStream
