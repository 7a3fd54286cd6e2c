import FraudStream.Replay.Bookkeeping

/-
  Which runs of a replay job complete, and what a cancellation
  does to them.

  A run completes when its source is opened, counted and
  exhausted, no attempt escapes the loop, and the summary is
  computed. The flag keeps a run from completing only where an
  event is still taken after it was set.

  Key definitions include:
    * `ReplayEnv.StopsOtherwise`

  Main results include:
    * `ReplayJob.completed_iff`
    * `ReplayJob.cancel_honoured_iff`
-/

------------------------------------------------------------
-- Completed Runs
------------------------------------------------------------

namespace FraudStream

namespace ReplayJob

variable {ε ρ : Type}

/- The body of the loop leaves the kind of the status. -/
@[simp] theorem record_status
    {p : Progress ρ}
    {attempt : Attempt ρ} :
    (record p attempt).job.status.status =
      p.job.status.status := by
  cases attempt with
  | processed result =>
      simp only [record, countProcessed]
      split <;> rfl
  | failed collected => rfl
  | escaped raised collected => rfl

theorem foldl_record_status
    (attempts : List (Attempt ρ))
    (p : Progress ρ) :
    (attempts.foldl record p).job.status.status =
      p.job.status.status := by
  induction attempts generalizing p with
  | nil => rfl
  | cons attempt attempts ih =>
      rw [List.foldl_cons, ih, record_status]

theorem loop_status
    {env : ReplayEnv ε ρ}
    {total : Int} :
    (loop env 0 env.events
      ((running ρ).begin total)).1.job.status.status =
        .running := by
  rw [loop_progress, foldl_record_status]
  rfl

/- A run that left the loop completes when the events are
   exhausted and the summary is computed. -/
theorem leave_completed_iff
    {env : ReplayEnv ε ρ}
    {p : Progress ρ}
    {exit : LoopExit}
    (hRunning : p.job.status.status = .running) :
    (handle
      (leave env p exit).1
      (leave env p exit).2).1.status.status = .completed ↔
        exit = .exhausted ∧
          env.computeSummary p.job.results = none := by
  cases exit with
  | exhausted =>
      cases hSummary : env.computeSummary p.job.results with
      | none =>
          simp [leave, finish, hSummary, handle, setStatus]
      | some raised =>
          cases raised <;>
            simp [leave, finish, hSummary, handle, setStatus,
              hRunning]
  | cancelled => simp [leave, handle, setStatus]
  | raised raised =>
      cases raised <;>
        simp [leave, handle, setStatus, hRunning]

/- A loop is left with its events exhausted when they are all
   taken, and none of the attempts escapes. -/
theorem exhausted_iff
    {env : ReplayEnv ε ρ}
    {p : Progress ρ} :
    (loop env 0 env.events p).2 = .exhausted ↔
      env.Exhausts ∧
        ∀ attempt ∈ env.attemptsFrom 0 env.events,
          attempt.isEscaped = false := by
  have hLeft := exit_loop env env.events 0 p
  constructor
  · intro hExit
    rw [hExit] at hLeft
    obtain ⟨hKept, hEnd, hFlags⟩ := hLeft
    exact ⟨⟨hEnd, by simpa using hFlags⟩, hKept⟩
  · rintro ⟨⟨hEnd, hFlags⟩, hKept⟩
    cases hExit : (loop env 0 env.events p).2 with
    | exhausted => rfl
    | cancelled =>
        rw [hExit] at hLeft
        obtain ⟨-, i, hi, hFlag⟩ := hLeft
        simp [hFlags i hi] at hFlag
    | raised raised =>
        rw [hExit] at hLeft
        rcases hLeft with ⟨-, hRaised⟩ | ⟨collected, hMember⟩
        · simp [hEnd] at hRaised
        · simpa [Attempt.isEscaped] using hKept _ hMember

end ReplayJob

end FraudStream

------------------------------------------------------------
-- Cancelled Runs
------------------------------------------------------------

namespace FraudStream

namespace ReplayEnv

variable {ε ρ : Type}

/- A reason other than the flag for a run not to complete. -/
def StopsOtherwise (env : ReplayEnv ε ρ) : Prop :=
  env.openSink ≠ none ∨
    env.openAdapter ≠ none ∨
    env.count.isOk = false ∨
    env.sourceEnd ≠ none ∨
    (∃ attempt ∈ env.attempts, attempt.isEscaped = true) ∨
    env.computeSummary
      (env.attempts.filterMap Attempt.collected) ≠ none

/- The flag is set when some event is taken. -/
def SeesFlag (env : ReplayEnv ε ρ) : Prop :=
  ∃ event < env.events.length, env.isCancelled event = true

theorem exhausts_iff
    {env : ReplayEnv ε ρ} :
    env.Exhausts ↔ env.sourceEnd = none ∧ ¬ env.SeesFlag := by
  simp [Exhausts, SeesFlag]

end ReplayEnv

namespace ReplayJob

variable {ε ρ : Type}

theorem completed_iff
    (env : ReplayEnv ε ρ) :
    (start env (pending ρ)).1.status.status = .completed ↔
      ¬ (env.SeesFlag ∨ env.StopsOtherwise) := by
  cases hSink : env.openSink with
  | some raised =>
      simp [start, pending, hSink, setStatus,
        ReplayEnv.StopsOtherwise]
  | none =>
      rw [start_job hSink]
      cases hAdapter : env.openAdapter with
      | some raised =>
          cases raised <;>
            simp [runReplay, hAdapter, handle, running, setStatus,
              ReplayEnv.StopsOtherwise]
      | none =>
          cases hCount : env.count with
          | error raised =>
              cases raised <;>
                simp [runReplay, hAdapter, hCount, handle,
                  running, setStatus, Except.isOk,
                  Except.toBool, ReplayEnv.StopsOtherwise]
          | ok total =>
              have hAttempts :
                  env.attempts =
                    env.attemptsFrom 0 env.events := by
                simp [ReplayEnv.attempts, hSink, hAdapter,
                  hCount]
              have hTallied := tallied_loop env total
              rw [runReplay_of_count hAdapter hCount,
                leave_completed_iff loop_status, exhausted_iff,
                hTallied.results, ReplayEnv.exhausts_iff,
                ReplayEnv.StopsOtherwise, hAttempts]
              simp only [hSink, hAdapter, hCount, Except.isOk,
                Except.toBool, Ne, not_or, not_exists, not_and,
                Classical.not_not, Bool.not_eq_true]
              tauto

/- A cancelled job ends without completing exactly when an
   event is taken after the request, or the run stops for
   another reason. -/
theorem cancel_honoured_iff
    (env : ReplayEnv ε ρ)
    {moment : CancelMoment}
    (hCancel : env.cancel = some moment) :
    (start env (pending ρ)).1.status.status ≠ .completed ↔
      (∃ event < env.events.length,
          moment.precedes event = true) ∨
        env.StopsOtherwise := by
  have hFlag :
      env.SeesFlag ↔
        ∃ event < env.events.length,
          moment.precedes event = true := by
    simp [ReplayEnv.SeesFlag, ReplayEnv.isCancelled, hCancel]
  rw [Ne, completed_iff, Classical.not_not, hFlag]

/- The request arrives while the first of two events is
   scored. -/
def cancelledInTime : ReplayEnv Nat Nat :=
  { ReplayEnv.undisturbed [7, 8] id with
    cancel := some (.during 0) }

theorem cancelled_in_time :
    (start cancelledInTime
      (pending Nat)).1.status.status ≠ .completed :=
  (cancel_honoured_iff cancelledInTime rfl).mpr
    (Or.inl ⟨1, by decide, rfl⟩)

/- A request before the start of a job without events, and one
   while the last event is scored, are both ignored. -/
theorem ignored_cancellation :
    (start
      { ReplayEnv.undisturbed ([] : List Nat) id with
        cancel := some .beforeEvents }
      (pending Nat)).1.status.status = .completed ∧
    (start
      { ReplayEnv.undisturbed [7] id with
        cancel := some (.during 0) }
      (pending Nat)).1.status.status = .completed := by
  decide

end ReplayJob

end FraudStream
