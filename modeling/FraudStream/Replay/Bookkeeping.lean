import FraudStream.Replay.Job

/-
  What the counters of a replay job say at the end of a run.

  The loop records the attempts at the events it takes, one
  by one. The status receives its counters with each hundredth
  processed event, and both when the events are exhausted.

  Key definitions include:
    * `ReplayEnv.attempts`
    * `ReplayJob.Tallied`
    * `ReplayJob.Consistent`

  Main results include:
    * `ReplayJob.tallied_loop`
    * `ReplayJob.exit_loop`
    * `ReplayJob.consistent_iff`
-/

------------------------------------------------------------
-- The Attempts Of A Run
------------------------------------------------------------

namespace FraudStream

namespace Attempt

variable {ρ : Type}

def isProcessed : Attempt ρ → Bool
| .processed _ => true
| .failed _ => false
| .escaped _ _ => false

def isFailed : Attempt ρ → Bool
| .processed _ => false
| .failed _ => true
| .escaped _ _ => false

def isEscaped : Attempt ρ → Bool
| .processed _ => false
| .failed _ => false
| .escaped _ _ => true

def collected : Attempt ρ → Option ρ
| .processed result => some result
| .failed collected => collected
| .escaped _ collected => collected

/- The event failed after its result was collected. -/
def isFailedLate (attempt : Attempt ρ) : Bool :=
  attempt.isFailed && attempt.collected.isSome

end Attempt

namespace ReplayEnv

variable {ε ρ : Type}

/- What becomes of the events that are taken before the flag
   is seen, from an event on. -/
def attemptsFrom
    (env : ReplayEnv ε ρ) :
    Nat → List ε → List (Attempt ρ)
| _, [] => []
| event, e :: es =>
    if env.isCancelled event then
      []
    else if (env.attempt event e).isEscaped then
      [env.attempt event e]
    else
      env.attempt event e :: attemptsFrom env (event + 1) es

/- The attempts of a run. Nothing is taken from a source that
   is not opened and counted. -/
def attempts (env : ReplayEnv ε ρ) : List (Attempt ρ) :=
  match env.openSink, env.openAdapter, env.count with
  | none, none, .ok _ => attemptsFrom env 0 env.events
  | _, _, _ => []

theorem caught_not_error
    {collected kept : Option ρ}
    {raised : Raised}
    {message : String} :
    caught collected raised ≠
      .escaped (.error message) kept := by
  cases raised <;> simp [caught]

/- An attempt never lets an `Exception` escape. -/
theorem attempt_not_error
    (env : ReplayEnv ε ρ)
    (event : Nat)
    (e : ε)
    (message : String)
    (collected : Option ρ) :
    env.attempt event e ≠
      .escaped (.error message) collected := by
  unfold attempt
  split
  · exact caught_not_error
  · split
    · exact caught_not_error
    · split
      · exact caught_not_error
      · simp

theorem attemptsFrom_not_error
    {env : ReplayEnv ε ρ}
    {message : String}
    {collected : Option ρ}
    (es : List ε)
    (event : Nat) :
    .escaped (.error message) collected ∉
      env.attemptsFrom event es := by
  induction es generalizing event with
  | nil => simp [attemptsFrom]
  | cons e es ih =>
      have hHead :=
        (env.attempt_not_error event e message collected).symm
      rw [attemptsFrom]
      split
      · simp
      · split
        · simpa using hHead
        · simp [hHead, ih]

end ReplayEnv

end FraudStream

------------------------------------------------------------
-- The Counters Of The Loop
------------------------------------------------------------

namespace FraudStream

namespace ReplayJob

variable {ε ρ : Type}

@[simp] theorem countProcessed_results
    {p : Progress ρ} :
    (countProcessed p).job.results = p.job.results := by
  simp only [countProcessed]
  split <;> rfl

@[simp] theorem countProcessed_failedEvents
    {p : Progress ρ} :
    (countProcessed p).job.status.failedEvents =
      p.job.status.failedEvents := by
  simp only [countProcessed]
  split <;> rfl

/- The status follows the counter up to the last hundred. -/
theorem countProcessed_reported
    {p : Progress ρ}
    (hReported :
      p.job.status.processedEvents =
        p.processed - p.processed % 100) :
    (countProcessed p).job.status.processedEvents =
      (countProcessed p).processed -
        (countProcessed p).processed % 100 := by
  by_cases hHundred : (p.processed + 1) % 100 = 0
  · simp [countProcessed, hHundred]
  · simp only [countProcessed, hHundred, if_false, hReported]
    omega

/- What the body of the loop does with an attempt. -/
def record
    (p : Progress ρ)
    (attempt : Attempt ρ) : Progress ρ :=
  match attempt with
  | .processed result => countProcessed (collect p (some result))
  | .failed collected => countFailed (collect p collected)
  | .escaped _ collected => collect p collected

/- The loop records its attempts. -/
theorem loop_progress
    {env : ReplayEnv ε ρ}
    (es : List ε)
    (event : Nat)
    (p : Progress ρ) :
    (loop env event es p).1 =
      (env.attemptsFrom event es).foldl record p := by
  induction es generalizing event p with
  | nil =>
      simp only [loop, ReplayEnv.attemptsFrom, List.foldl_nil]
      split <;> rfl
  | cons e es ih =>
      rw [loop, ReplayEnv.attemptsFrom]
      split
      · rfl
      · cases hAttempt : env.attempt event e with
        | processed result =>
            simp [Attempt.isEscaped, record, ih]
        | failed collected =>
            simp [Attempt.isEscaped, record, ih]
        | escaped raised collected =>
            simp [Attempt.isEscaped, record]

/- The counters of the loop and of the status after some
   attempts. The status lags behind by less than a hundred. -/
structure Tallied
    (p : Progress ρ)
    (attempts : List (Attempt ρ)) : Prop where
  processed :
    p.processed = attempts.countP Attempt.isProcessed
  failed :
    p.failed = attempts.countP Attempt.isFailed
  results :
    p.job.results = attempts.filterMap Attempt.collected
  reported :
    p.job.status.processedEvents =
      p.processed - p.processed % 100
  unreported :
    p.job.status.failedEvents = 0

theorem tallied_record
    {p : Progress ρ}
    {done : List (Attempt ρ)}
    (hTallied : Tallied p done)
    (attempt : Attempt ρ) :
    Tallied (record p attempt) (done ++ [attempt]) := by
  obtain ⟨hProcessed, hFailed, hResults, hReported, hUnreported⟩ :=
    hTallied
  cases attempt with
  | processed result =>
      refine ⟨?_, ?_, ?_, ?_, ?_⟩
      · simp [record, collect, countProcessed, hProcessed,
          Attempt.isProcessed]
      · simp [record, collect, countProcessed, hFailed,
          Attempt.isFailed]
      · simp [record, collect, hResults, Attempt.collected]
      · exact countProcessed_reported hReported
      · simpa [record, collect] using hUnreported
  | failed collected =>
      refine ⟨?_, ?_, ?_, ?_, ?_⟩
      · simp [record, collect, countFailed, hProcessed,
          Attempt.isProcessed]
      · simp [record, collect, countFailed, hFailed,
          Attempt.isFailed]
      · cases collected <;>
          simp [record, collect, countFailed, hResults,
            Attempt.collected]
      · simpa [record, collect, countFailed] using hReported
      · simpa [record, collect, countFailed] using hUnreported
  | escaped raised collected =>
      refine ⟨?_, ?_, ?_, ?_, ?_⟩
      · simp [record, collect, hProcessed, Attempt.isProcessed]
      · simp [record, collect, hFailed, Attempt.isFailed]
      · cases collected <;>
          simp [record, collect, hResults, Attempt.collected]
      · simpa [record, collect] using hReported
      · simpa [record, collect] using hUnreported

theorem tallied_foldl
    (attempts : List (Attempt ρ))
    {p : Progress ρ}
    {done : List (Attempt ρ)}
    (hTallied : Tallied p done) :
    Tallied (attempts.foldl record p) (done ++ attempts) := by
  induction attempts generalizing p done with
  | nil => simpa using hTallied
  | cons attempt attempts ih =>
      have hStep := tallied_record hTallied attempt
      simpa using ih hStep

/- The job while the replay runs, before its source is
   opened. -/
def running (ρ : Type) : ReplayJob ρ :=
  (pending ρ).setStatus .running

theorem tallied_begin
    {total : Int} :
    Tallied ((running ρ).begin total) [] where
  processed := rfl
  failed := rfl
  results := rfl
  reported := rfl
  unreported := rfl

/- The counters of a loop over all events. -/
theorem tallied_loop
    (env : ReplayEnv ε ρ)
    (total : Int) :
    Tallied
      (loop env 0 env.events
        ((running ρ).begin total)).1
      (env.attemptsFrom 0 env.events) := by
  rw [loop_progress]
  exact tallied_foldl _ tallied_begin

end ReplayJob

end FraudStream

------------------------------------------------------------
-- The Ways To Leave The Loop
------------------------------------------------------------

namespace FraudStream

namespace ReplayEnv

variable {ε ρ : Type}

/- All events are taken, and then the source ends. -/
def Exhausts (env : ReplayEnv ε ρ) : Prop :=
  env.sourceEnd = none ∧
    ∀ event < env.events.length, env.isCancelled event = false

instance (env : ReplayEnv ε ρ) : Decidable env.Exhausts :=
  inferInstanceAs
    (Decidable
      (env.sourceEnd = none ∧
        ∀ event < env.events.length,
          env.isCancelled event = false))

end ReplayEnv

namespace ReplayJob

variable {ε ρ : Type}

/- What is known when the loop over some events is left. -/
def LeftBy
    (env : ReplayEnv ε ρ)
    (event : Nat)
    (es : List ε) : LoopExit → Prop
| .exhausted =>
    (∀ attempt ∈ env.attemptsFrom event es,
        attempt.isEscaped = false) ∧
      env.sourceEnd = none ∧
      ∀ i < es.length, env.isCancelled (event + i) = false
| .cancelled =>
    (∀ attempt ∈ env.attemptsFrom event es,
        attempt.isEscaped = false) ∧
      ∃ i < es.length, env.isCancelled (event + i) = true
| .raised raised =>
    ((∀ attempt ∈ env.attemptsFrom event es,
          attempt.isEscaped = false) ∧
        env.sourceEnd = some raised) ∨
      ∃ collected,
        .escaped raised collected ∈ env.attemptsFrom event es

/- An event that was attempted leaves the exit to the events
   after it. -/
theorem leftBy_cons
    {env : ReplayEnv ε ρ}
    {event : Nat}
    {e : ε}
    {es : List ε}
    {exit : LoopExit}
    (hTaken : env.isCancelled event = false)
    (hKept : (env.attempt event e).isEscaped = false)
    (hRest : LeftBy env (event + 1) es exit) :
    LeftBy env event (e :: es) exit := by
  have hAttempts :
      env.attemptsFrom event (e :: es) =
        env.attempt event e ::
          env.attemptsFrom (event + 1) es := by
    simp [ReplayEnv.attemptsFrom, hTaken, hKept]
  cases exit with
  | exhausted =>
      obtain ⟨hAll, hEnd, hFlags⟩ := hRest
      refine ⟨?_, hEnd, ?_⟩
      · rw [hAttempts]
        exact List.forall_mem_cons.mpr ⟨hKept, hAll⟩
      · intro i hi
        cases i with
        | zero => exact hTaken
        | succ i =>
            have hFlag := hFlags i (by simpa using hi)
            rwa [Nat.add_right_comm] at hFlag
  | cancelled =>
      obtain ⟨hAll, i, hi, hFlag⟩ := hRest
      refine ⟨?_, i + 1, by simpa using hi, ?_⟩
      · rw [hAttempts]
        exact List.forall_mem_cons.mpr ⟨hKept, hAll⟩
      · rwa [Nat.add_right_comm] at hFlag
  | raised raised =>
      rcases hRest with ⟨hAll, hEnd⟩ | ⟨collected, hMember⟩
      · refine Or.inl ⟨?_, hEnd⟩
        rw [hAttempts]
        exact List.forall_mem_cons.mpr ⟨hKept, hAll⟩
      · refine Or.inr ⟨collected, ?_⟩
        rw [hAttempts]
        exact List.mem_cons_of_mem _ hMember

theorem exit_loop
    (env : ReplayEnv ε ρ)
    (es : List ε)
    (event : Nat)
    (p : Progress ρ) :
    LeftBy env event es (loop env event es p).2 := by
  induction es generalizing event p with
  | nil =>
      rw [loop]
      cases hEnd : env.sourceEnd with
      | none => simp [LeftBy, hEnd, ReplayEnv.attemptsFrom]
      | some raised =>
          simp [LeftBy, hEnd, ReplayEnv.attemptsFrom]
  | cons e es ih =>
      rw [loop]
      cases hFlag : env.isCancelled event with
      | true =>
          refine ⟨?_, 0, by simp, hFlag⟩
          simp [ReplayEnv.attemptsFrom, hFlag]
      | false =>
          simp only [Bool.false_eq_true, if_false]
          cases hAttempt : env.attempt event e with
          | processed result =>
              exact
                leftBy_cons hFlag
                  (by simp [hAttempt, Attempt.isEscaped])
                  (ih _ _)
          | failed collected =>
              exact
                leftBy_cons hFlag
                  (by simp [hAttempt, Attempt.isEscaped])
                  (ih _ _)
          | escaped raised collected =>
              refine Or.inr ⟨collected, ?_⟩
              simp [ReplayEnv.attemptsFrom, hFlag, hAttempt,
                Attempt.isEscaped]

end ReplayJob

end FraudStream

------------------------------------------------------------
-- Consistent Counters
------------------------------------------------------------

namespace FraudStream

namespace ReplayJob

variable {ε ρ : Type}

/- The counters of a job that took some events. -/
def Consistent
    (job : ReplayJob ρ)
    (taken : Nat) : Prop :=
  job.status.processedEvents = job.results.length ∧
    job.status.processedEvents + job.status.failedEvents =
      taken

instance
    (job : ReplayJob ρ)
    (taken : Nat) : Decidable (Consistent job taken) :=
  inferInstanceAs (Decidable (_ ∧ _))

@[simp] theorem consistent_setStatus
    {job : ReplayJob ρ}
    {status : ReplayStatus}
    {taken : Nat} :
    Consistent (job.setStatus status) taken ↔
      Consistent job taken := by
  rfl

@[simp] theorem consistent_handle
    {job : ReplayJob ρ}
    {raised : Option Raised}
    {taken : Nat} :
    Consistent (handle job raised).1 taken ↔
      Consistent job taken := by
  rcases raised with _ | (_ | _ | _) <;> rfl

/- The counts of attempts that do not escape. -/
theorem length_of_unescaped
    (attempts : List (Attempt ρ))
    (hKept :
      ∀ attempt ∈ attempts, attempt.isEscaped = false) :
    attempts.countP Attempt.isProcessed +
        attempts.countP Attempt.isFailed =
      attempts.length ∧
    (attempts.filterMap Attempt.collected).length =
      attempts.countP Attempt.isProcessed +
        attempts.countP Attempt.isFailedLate := by
  induction attempts with
  | nil => simp
  | cons attempt attempts ih =>
      obtain ⟨hHead, hRest⟩ := List.forall_mem_cons.mp hKept
      obtain ⟨hLength, hResults⟩ := ih hRest
      cases attempt with
      | processed result =>
          simp [List.countP_cons, Attempt.isProcessed,
            Attempt.isFailed, Attempt.isFailedLate,
            Attempt.collected]
          omega
      | failed collected =>
          cases collected with
          | none =>
              simp [List.countP_cons, List.filterMap_cons,
                Attempt.isProcessed, Attempt.isFailed,
                Attempt.isFailedLate, Attempt.collected]
              omega
          | some result =>
              simp [List.countP_cons, Attempt.isProcessed,
                Attempt.isFailed, Attempt.isFailedLate,
                Attempt.collected]
              omega
      | escaped raised collected =>
          simp [Attempt.isEscaped] at hHead

/- When the events are exhausted, only a failure after the
   result was collected counts an event twice. -/
theorem consistent_finish
    {env : ReplayEnv ε ρ}
    {p : Progress ρ}
    {attempts : List (Attempt ρ)}
    (hTallied : Tallied p attempts)
    (hKept :
      ∀ attempt ∈ attempts, attempt.isEscaped = false) :
    Consistent (finish env p).1 attempts.length ↔
      ∀ attempt ∈ attempts, attempt.isFailedLate = false := by
  obtain ⟨hLength, hResults⟩ :=
    length_of_unescaped attempts hKept
  have hFinish :
      Consistent (finish env p).1 attempts.length ↔
        p.processed = p.job.results.length ∧
          p.processed + p.failed = attempts.length := by
    unfold finish
    dsimp only
    split <;> rfl
  have hLate :
      (∀ attempt ∈ attempts, attempt.isFailedLate = false) ↔
        attempts.countP Attempt.isFailedLate = 0 := by
    simp [List.countP_eq_zero]
  rw [hFinish, hLate, hTallied.results, hTallied.processed,
    hTallied.failed]
  omega

/- A run that is cut short reports whole hundreds, and no
   failed event. -/
theorem consistent_cut
    {p : Progress ρ}
    {attempts : List (Attempt ρ)}
    (hTallied : Tallied p attempts)
    (hKept :
      ∀ attempt ∈ attempts, attempt.isEscaped = false) :
    Consistent p.job attempts.length ↔
      (∀ attempt ∈ attempts, attempt.isProcessed = true) ∧
        attempts.length % 100 = 0 := by
  obtain ⟨hLength, hResults⟩ :=
    length_of_unescaped attempts hKept
  have hAll :
      (∀ attempt ∈ attempts, attempt.isProcessed = true) ↔
        attempts.countP Attempt.isProcessed =
          attempts.length :=
    List.countP_eq_length.symm
  have hLate :
      attempts.countP Attempt.isFailedLate ≤
        attempts.countP Attempt.isFailed := by
    apply List.countP_mono_left
    intro attempt _ hFailedLate
    exact (Bool.and_eq_true_iff.mp hFailedLate).1
  have hProcessed := hTallied.processed
  rw [hAll, Consistent, hTallied.results, hTallied.reported,
    hTallied.unreported]
  omega

end ReplayJob

end FraudStream

------------------------------------------------------------
-- Runs That Return
------------------------------------------------------------

namespace FraudStream

namespace ReplayEnv

variable {ε ρ : Type}

/- The counters of a run agree: no event fails after its
   result was collected, and a run that is cut short processes
   its events, whole hundreds of them. -/
def CountersAgree (env : ReplayEnv ε ρ) : Prop :=
  if env.Exhausts then
    ∀ attempt ∈ env.attempts, attempt.isFailedLate = false
  else
    (∀ attempt ∈ env.attempts, attempt.isProcessed = true) ∧
      env.attempts.length % 100 = 0

instance (env : ReplayEnv ε ρ) :
    Decidable env.CountersAgree :=
  inferInstanceAs
    (Decidable
      (if env.Exhausts then
        ∀ attempt ∈ env.attempts,
          attempt.isFailedLate = false
      else
        (∀ attempt ∈ env.attempts,
            attempt.isProcessed = true) ∧
          env.attempts.length % 100 = 0))

/- A run in which nothing raises and nobody cancels. -/
def undisturbed
    (events : List ε)
    (score : ε → ρ) : ReplayEnv ε ρ where
  openSink := none
  openAdapter := none
  count := .ok events.length
  events := events
  sourceEnd := none
  process := fun _ e => .ok (score e)
  send := fun _ _ => none
  callback := none
  summary := fun _ => none
  closeSink := none
  cancel := none

end ReplayEnv

namespace ReplayJob

variable {ε ρ : Type}

/- A new job is started once its sink is created. -/
theorem start_pending
    {env : ReplayEnv ε ρ}
    (hSink : env.openSink = none) :
    start env (pending ρ) =
      match env.closeSink with
      | some raised =>
          ((handle
            (runReplay env (running ρ)).1
            (runReplay env (running ρ)).2).1,
            some raised)
      | none =>
          handle
            (runReplay env (running ρ)).1
            (runReplay env (running ρ)).2 := by
  rw [start, if_neg (by simp [pending]), hSink]
  rfl

theorem start_job
    {env : ReplayEnv ε ρ}
    (hSink : env.openSink = none) :
    (start env (pending ρ)).1 =
      (handle
        (runReplay env (running ρ)).1
        (runReplay env (running ρ)).2).1 := by
  rw [start_pending hSink]
  split <;> rfl

theorem start_returns
    {env : ReplayEnv ε ρ}
    (hReturns : (start env (pending ρ)).2 = none) :
    env.openSink = none ∧
      (handle
        (runReplay env (running ρ)).1
        (runReplay env (running ρ)).2).2 = none := by
  cases hSink : env.openSink with
  | some raised => simp [start, pending, hSink] at hReturns
  | none =>
      refine ⟨rfl, ?_⟩
      rw [start_pending hSink] at hReturns
      split at hReturns
      · contradiction
      · exact hReturns

/- The run of a source that is opened and counted. -/
theorem runReplay_of_count
    {env : ReplayEnv ε ρ}
    {job : ReplayJob ρ}
    {total : Int}
    (hAdapter : env.openAdapter = none)
    (hCount : env.count = .ok total) :
    runReplay env job =
      leave env
        (loop env 0 env.events (job.begin total)).1
        (loop env 0 env.events (job.begin total)).2 := by
  simp [runReplay, hAdapter, hCount]

theorem handle_returns
    {job : ReplayJob ρ}
    {raised : Raised}
    (hReturns : (handle job (some raised)).2 = none) :
    ∃ message, raised = .error message := by
  cases raised with
  | error message => exact ⟨message, rfl⟩
  | cancelled => simp [handle] at hReturns
  | exit => simp [handle] at hReturns

theorem consistent_leave
    {env : ReplayEnv ε ρ}
    {p : Progress ρ}
    {exit : LoopExit}
    (hTallied : Tallied p (env.attemptsFrom 0 env.events))
    (hLeft : LeftBy env 0 env.events exit)
    (hReturns :
      (handle (leave env p exit).1 (leave env p exit).2).2 =
        none) :
    Consistent (leave env p exit).1
        (env.attemptsFrom 0 env.events).length ↔
      if env.Exhausts then
        ∀ attempt ∈ env.attemptsFrom 0 env.events,
          attempt.isFailedLate = false
      else
        (∀ attempt ∈ env.attemptsFrom 0 env.events,
            attempt.isProcessed = true) ∧
          (env.attemptsFrom 0 env.events).length % 100 = 0 := by
  cases exit with
  | exhausted =>
      obtain ⟨hKept, hEnd, hFlags⟩ := hLeft
      have hExhausts : env.Exhausts :=
        ⟨hEnd, by simpa using hFlags⟩
      rw [if_pos hExhausts]
      exact consistent_finish hTallied hKept
  | cancelled =>
      obtain ⟨hKept, i, hi, hFlag⟩ := hLeft
      have hCut : ¬ env.Exhausts := by
        intro hExhausts
        simp [hExhausts.2 i hi] at hFlag
      rw [if_neg hCut, leave, consistent_setStatus]
      exact consistent_cut hTallied hKept
  | raised raised =>
      obtain ⟨message, rfl⟩ := handle_returns hReturns
      rcases hLeft with ⟨hKept, hEnd⟩ | ⟨collected, hMember⟩
      · have hCut : ¬ env.Exhausts := by
          intro hExhausts
          simp [hExhausts.1] at hEnd
        rw [if_neg hCut]
        exact consistent_cut hTallied hKept
      · exact
          absurd hMember
            (ReplayEnv.attemptsFrom_not_error _ _)

/- The counters of a run that returns are consistent exactly
   when they agree. -/
theorem consistent_iff
    (env : ReplayEnv ε ρ)
    (hReturns : (start env (pending ρ)).2 = none) :
    Consistent
        (start env (pending ρ)).1
        env.attempts.length ↔
      env.CountersAgree := by
  obtain ⟨hSink, hHandled⟩ := start_returns hReturns
  rw [start_job hSink, consistent_handle]
  have hUnopened
      (hNone : env.attempts = [])
      (hRan : (runReplay env (running ρ)).1 = running ρ) :
      Consistent
          (runReplay env (running ρ)).1
          env.attempts.length ↔
        env.CountersAgree := by
    rw [hRan, hNone]
    simp [hNone, ReplayEnv.CountersAgree, Consistent,
      running, pending, setStatus]
  cases hAdapter : env.openAdapter with
  | some raised =>
      apply hUnopened
      · simp [ReplayEnv.attempts, hSink, hAdapter]
      · simp [runReplay, hAdapter]
  | none =>
      cases hCount : env.count with
      | error raised =>
          apply hUnopened
          · simp [ReplayEnv.attempts, hSink, hAdapter, hCount]
          · simp [runReplay, hAdapter, hCount]
      | ok total =>
          have hAttempts :
              env.attempts = env.attemptsFrom 0 env.events := by
            simp [ReplayEnv.attempts, hSink, hAdapter, hCount]
          rw [runReplay_of_count hAdapter hCount] at hHandled ⊢
          rw [hAttempts, ReplayEnv.CountersAgree, hAttempts]
          exact
            consistent_leave (tallied_loop env total)
              (exit_loop _ _ _ _) hHandled

/- The second of three events cannot be scored. -/
def partlyScored : ReplayEnv Nat Nat :=
  { ReplayEnv.undisturbed [7, 8, 9] id with
    process := fun event e =>
      if event = 1 then .error (.error "no score") else .ok e }

theorem partly_scored_is_consistent :
    Consistent (start partlyScored (pending Nat)).1 3 :=
  (consistent_iff partlyScored (by decide)).mpr (by decide)

/- The callback of the only event raises. -/
def callbackRaises : ReplayEnv Nat Nat :=
  { ReplayEnv.undisturbed [7] id with
    callback := some fun _ _ => some (.error "closed") }

/- The result is kept, and the event is counted as failed
   only. -/
theorem failed_event_has_a_result :
    (start callbackRaises (pending Nat)).2 = none ∧
      (start callbackRaises (pending Nat)).1.results = [7] ∧
      (start callbackRaises
        (pending Nat)).1.status.processedEvents = 0 ∧
      ¬ Consistent (start callbackRaises (pending Nat)).1
        callbackRaises.attempts.length := by
  decide

end ReplayJob

end FraudStream
