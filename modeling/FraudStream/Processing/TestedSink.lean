import FraudStream.Processing.FeastFailures

/-
  The sink that the unit tests exercise, beside the one that
  is deployed.

  The two classes are run in the same environment, in which
  the table is loaded, the breaker is there and no append is
  late. What can be seen of a flush is the batch that it
  gives to the append, its dead-letter events and its calls
  of `store.push`.

  Key definitions include:
    * `SinkEffects`
    * `FeastSinkSetup.effectsOf`
    * `FeastSinkSetup.SameEffects`
    * `FeastSinkSetup.FlushAgrees`
    * `FeastSinkSetup.StepAgrees`
    * `FeastSinkSetup.InStep`

  Main results:
    * `FeastSinkSetup.effects_agree_iff`
    * `FeastSinkSetup.inStep_step`
    * `FeastSinkSetup.tested_sink_follows_deployed`
-/

------------------------------------------------------------
-- What Can Be Seen Of A Run
------------------------------------------------------------

namespace FraudStream

/- What a flush does outside of the sink. -/
structure SinkEffects (ν φ : Type) where
  appended : Option (List (FeastPush.ObjectRecord ν))
  deadLetters : List DLQEvent
  calls : List (FeastPush.PushCall φ)

namespace FeastSinkSetup

open FeastPush

variable {ν α φ : Type}
variable (S : FeastSinkSetup ν α φ)

/- The environment with each of the classes. -/
def deployed : FeastSinkSetup ν α φ :=
  { S with sinkClass := .pyflink }

def tested : FeastSinkSetup ν α φ :=
  { S with sinkClass := .standIn }

/- The flush calls `append`. -/
def reachesAppend (a : FlushAttempt) : Bool :=
  match S.sinkClass with
  | .pyflink =>
      S.handles.table && S.handles.breaker &&
        a.conversion.isNone
  | .standIn => S.handles.table && a.conversion.isNone

def effects
    (n : Nat)
    (report :
      BatchBuffer.Report (ObjectRecord ν)
        (FeastOutcome ν φ)) : SinkEffects ν φ where
  appended :=
    if S.reachesAppend (S.flushes n).attempt then
      some (S.batch report.buffer)
    else
      none
  deadLetters := report.outcome.flush.deadLetters
  calls :=
    report.outcome.pushes.filterMap GuardedAttempt.call

def effectsOf (s : SinkState ν φ) : List (SinkEffects ν φ) :=
  s.reports.mapIdx S.effects

/- The batches that are appended, the dead-letter events and
   the calls of `store.push`, each in their order. -/
def appendedBatches
    (s : SinkState ν φ) : List (List (ObjectRecord ν)) :=
  (S.effectsOf s).filterMap SinkEffects.appended

def deadLetterEvents (s : SinkState ν φ) : List DLQEvent :=
  (S.effectsOf s).flatMap SinkEffects.deadLetters

def pushCalls (s : SinkState ν φ) : List (PushCall φ) :=
  (S.effectsOf s).flatMap SinkEffects.calls

/- The classes cannot be told apart by what a run does. -/
structure SameEffects
    (start : Int)
    (ops : List (BatchBuffer.Op (ObjectRecord ν))) : Prop where
  batches :
    S.deployed.appendedBatches (S.deployed.run start ops) =
      S.tested.appendedBatches (S.tested.run start ops)
  deadLetters :
    S.deployed.deadLetterEvents (S.deployed.run start ops) =
      S.tested.deadLetterEvents (S.tested.run start ops)
  pushes :
    S.deployed.pushCalls (S.deployed.run start ops) =
      S.tested.pushCalls (S.tested.run start ops)

/- The table is loaded, the breaker is there, and no append
   exceeds the timeout. -/
structure Healthy : Prop where
  opened :
    S.opened = { catalogLoads := true, breakerLoads := true }
  timely :
    ∀ n, (S.flushes n).attempt.durationMs ≤
      icebergFlushTimeoutMs

end FeastSinkSetup

end FraudStream

------------------------------------------------------------
-- Where The Classes Agree
------------------------------------------------------------

namespace FraudStream

namespace FeastSinkSetup

open FeastPush

variable {ν α φ : Type}
variable (S : FeastSinkSetup ν α φ)

/- No push raises an `Exception` while a later group can still
   be pushed. -/
def PushesAgree
    (f : FeastFlush ν α φ)
    (records : List (ObjectRecord ν)) : Prop :=
  ∀ times ∈ (records.mapM (eventTime f.platform)).toOption,
    GuardedAttempt.SilentAfter Failure.isException
      (fun _ => false)
      (sinkAttempts f.platform f.store records times)

instance
    (f : FeastFlush ν α φ)
    (records : List (ObjectRecord ν)) :
    Decidable (PushesAgree f records) :=
  inferInstanceAs (Decidable (∀ times ∈ _, _))

/- The append raises no `TimeoutError`, and after an append
   that returns, the pushes agree. -/
def FlushAgrees
    (n : Nat)
    (buffer : List (ObjectRecord ν)) : Prop :=
  (S.flushes n).attempt.conversion = none →
    (∀ e ∈ (S.flushes n).attempt.append,
        e.isTimeout = false) ∧
      ((S.flushes n).attempt.append = none →
        S.feastStore = true →
          PushesAgree (S.flushes n) (S.batch buffer))

instance
    (n : Nat)
    (buffer : List (ObjectRecord ν)) :
    Decidable (S.FlushAgrees n buffer) :=
  inferInstanceAs
    (Decidable (_ → (∀ e ∈ _, _) ∧ (_ → _ → _)))

/- A record comes less than a second after the last flush, or
   the buffer holds only one. A flush that follows agrees. -/
def StepAgrees
    (s : SinkState ν φ) :
    BatchBuffer.Op (ObjectRecord ν) → Prop
| .invoke now r =>
    (S.bufferMax ≤ 1 ∨ S.periodPassed now s = false) ∧
      (S.bufferMax ≤ s.buffer.length + 1 →
        S.FlushAgrees s.reports.length (s.buffer ++ [r]))
| .flush | .close =>
    s.buffer.isEmpty = false →
      S.FlushAgrees s.reports.length s.buffer

instance
    (s : SinkState ν φ) :
    (op : BatchBuffer.Op (ObjectRecord ν)) →
      Decidable (S.StepAgrees s op)
| .invoke _ _ => inferInstanceAs (Decidable (_ ∧ (_ → _)))
| .flush => inferInstanceAs (Decidable (_ → _))
| .close => inferInstanceAs (Decidable (_ → _))

/- Each step of a run agrees, in the state before it. -/
def StepsAgree
    (s : SinkState ν φ) :
    List (BatchBuffer.Op (ObjectRecord ν)) → Prop
| [] => True
| op :: ops =>
    S.StepAgrees s op ∧ StepsAgree (S.deployed.step s op) ops

instance decidableStepsAgree
    (s : SinkState ν φ) :
    (ops : List (BatchBuffer.Op (ObjectRecord ν))) →
      Decidable (S.StepsAgree s ops)
| [] => inferInstanceAs (Decidable True)
| op :: ops =>
    have := decidableStepsAgree (S.deployed.step s op) ops
    inferInstanceAs
      (Decidable
        (S.StepAgrees s op ∧
          S.StepsAgree (S.deployed.step s op) ops))

end FeastSinkSetup

end FraudStream

------------------------------------------------------------
-- One Flush
------------------------------------------------------------

namespace FraudStream

namespace FeastSinkSetup

open FeastPush

variable {ν α φ : Type}
variable {S : FeastSinkSetup ν α φ}

theorem futureResult_of_healthy
    (hHealthy : S.Healthy)
    (n : Nat) :
    (S.flushes n).attempt.futureResult =
      (S.flushes n).attempt.append := by
  rw [FlushAttempt.futureResult,
    if_neg (Nat.not_lt.2 (hHealthy.timely n))]

theorem handles_deployed
    (hHealthy : S.Healthy) :
    S.deployed.handles = { table := true, breaker := true } := by
  simp [handles, deployed, IcebergOperatorSink.open,
    hHealthy.opened]

theorem handles_tested
    (hHealthy : S.Healthy) :
    S.tested.handles = { table := true, breaker := true } := by
  simp [handles, tested, IcebergSinkBase.open,
    hHealthy.opened]

/- The reason of a timeout is not known to the stand-in. -/
theorem flushErrorReason_ne_timeout
    (e : FlushError) :
    IcebergOperatorSink.flushErrorReason e ≠ "timeout" := by
  rw [IcebergOperatorSink.flushErrorReason]
  split
  · decide
  · split <;> decide

/- The calls of the pushes are the same exactly when the
   pushes agree. -/
theorem pushToFeast_agrees_iff
    (f : FeastFlush ν α φ)
    (records : List (ObjectRecord ν)) :
    (S.deployed.pushToFeast f records).1.filterMap
          GuardedAttempt.call =
        (S.tested.pushToFeast f records).1.filterMap
          GuardedAttempt.call ↔
      (S.feastStore = true → PushesAgree f records) := by
  have hMore :
      ∀ e : Failure, (fun _ => false) e = true →
        e.isException = true := by
    intro e hFalse
    cases hFalse
  rw [pushToFeast, pushToFeast, PushesAgree]
  cases hStore : S.feastStore with
  | false => simp [deployed, tested, hStore]
  | true =>
      cases records.mapM (eventTime f.platform) with
      | error e =>
          simp [deployed, tested, hStore, Except.toOption]
      | ok times =>
          simp only [deployed, tested, hStore,
            Bool.true_eq_false, if_false, forall_true_left,
            Except.toOption, Option.mem_some_iff,
            forall_eq']
          exact GuardedAttempt.calls_eq_iff hMore _

/- Both classes come to the append, and to the pushes, in
   the same flushes. -/
theorem reachesAppend_agrees
    (hHealthy : S.Healthy)
    (a : FlushAttempt) :
    S.deployed.reachesAppend a = S.tested.reachesAppend a := by
  rw [reachesAppend, reachesAppend, handles_deployed hHealthy,
    handles_tested hHealthy]
  rfl

theorem reachesPush_deployed
    (hHealthy : S.Healthy)
    (n : Nat) :
    S.deployed.reachesPush (S.flushes n).attempt =
      ((S.flushes n).attempt.conversion.isNone &&
        (S.flushes n).attempt.append.isNone) := by
  rw [reachesPush, handles_deployed hHealthy,
    futureResult_of_healthy hHealthy]
  rfl

theorem reachesPush_tested
    (hHealthy : S.Healthy)
    (n : Nat) :
    S.tested.reachesPush (S.flushes n).attempt =
      ((S.flushes n).attempt.conversion.isNone &&
        (S.flushes n).attempt.append.isNone) := by
  rw [reachesPush, handles_tested hHealthy]
  rfl

/- The dead letters of the classes differ in the reason of a
   `TimeoutError` only. -/
theorem deadLetters_agree_iff
    (hHealthy : S.Healthy)
    (n : Nat)
    (buffer : List (ObjectRecord ν)) :
    (S.deployed.flush (S.flushes n).attempt buffer).deadLetters =
        (S.tested.flush (S.flushes n).attempt
          buffer).deadLetters ↔
      ((S.flushes n).attempt.conversion = none →
        ∀ e, (S.flushes n).attempt.append = some e →
          e.isTimeout = false) := by
  have hResult := futureResult_of_healthy hHealthy n
  rw [flush, flush, handles_deployed hHealthy,
    handles_tested hHealthy]
  simp only [deployed, tested, IcebergEnrichedSink.write,
    IcebergEnrichedSink.writeStandIn,
    IcebergOperatorSink.convertAndAppend,
    IcebergOperatorSink.appendBatch, hResult]
  cases (S.flushes n).attempt.conversion with
  | some e => simp
  | none =>
      cases (S.flushes n).attempt.append with
      | none => simp
      | some e =>
          have hReason := flushErrorReason_ne_timeout e
          cases hTimeout : e.isTimeout with
          | false => simp [hTimeout]
          | true => simp [hTimeout, hReason.symm]

theorem write_flush
    (n : Nat)
    (buffer : List (ObjectRecord ν)) :
    (S.write n buffer).flush =
      S.flush (S.flushes n).attempt buffer := by
  rw [write]
  split <;> rfl

theorem write_pushes
    (n : Nat)
    (buffer : List (ObjectRecord ν)) :
    (S.write n buffer).pushes =
      if S.reachesPush (S.flushes n).attempt then
        (S.pushToFeast (S.flushes n) (S.batch buffer)).1
      else
        [] := by
  rw [write]
  split <;> rfl

/- Where the push is not reached, there are no calls. -/
theorem calls_agree_iff
    (hHealthy : S.Healthy)
    (n : Nat)
    (buffer : List (ObjectRecord ν)) :
    (S.deployed.write n buffer).pushes.filterMap
          GuardedAttempt.call =
        (S.tested.write n buffer).pushes.filterMap
          GuardedAttempt.call ↔
      ((S.flushes n).attempt.conversion = none →
        (S.flushes n).attempt.append = none →
          S.feastStore = true →
            PushesAgree (S.flushes n) (S.batch buffer)) := by
  have hPushes :=
    pushToFeast_agrees_iff (S := S) (S.flushes n)
      (S.batch buffer)
  have hDeployed :
      S.deployed.reachesPush (S.deployed.flushes n).attempt =
        _ :=
    reachesPush_deployed hHealthy n
  have hTested :
      S.tested.reachesPush (S.tested.flushes n).attempt =
        _ :=
    reachesPush_tested hHealthy n
  rw [write_pushes, write_pushes, hDeployed, hTested]
  cases (S.flushes n).attempt.conversion with
  | some e => simp
  | none =>
      cases (S.flushes n).attempt.append with
      | some e => simp
      | none =>
          simp only [Option.isNone_none, Bool.and_self,
            if_true, forall_true_left]
          exact hPushes

/- A flush of both classes has the same effects exactly when
   the flush agrees. -/
theorem effects_agree_iff
    (hHealthy : S.Healthy)
    (n : Nat)
    (buffer : List (ObjectRecord ν)) :
    S.deployed.effects n ⟨buffer, S.deployed.write n buffer⟩ =
        S.tested.effects n ⟨buffer, S.tested.write n buffer⟩ ↔
      S.FlushAgrees n buffer := by
  have hAppend :
      S.deployed.reachesAppend (S.deployed.flushes n).attempt =
        S.tested.reachesAppend (S.tested.flushes n).attempt :=
    reachesAppend_agrees hHealthy (S.flushes n).attempt
  have hBatch : S.deployed.batch buffer = S.tested.batch buffer :=
    rfl
  have hLetters :
      (S.deployed.write n buffer).flush.deadLetters =
          (S.tested.write n buffer).flush.deadLetters ↔
        ((S.flushes n).attempt.conversion = none →
          ∀ e, (S.flushes n).attempt.append = some e →
            e.isTimeout = false) := by
    rw [write_flush, write_flush]
    exact deadLetters_agree_iff hHealthy n buffer
  rw [effects, effects, SinkEffects.mk.injEq, hAppend, hBatch,
    hLetters, calls_agree_iff hHealthy, FlushAgrees]
  cases (S.flushes n).attempt.append <;> simp

end FeastSinkSetup

end FraudStream

------------------------------------------------------------
-- One Step
------------------------------------------------------------

namespace FraudStream

namespace FeastSinkSetup

open FeastPush
open BatchBuffer (append writeOut)

variable {ν α φ : Type}
variable {S : FeastSinkSetup ν α φ}
variable {s t : SinkState ν φ}

/- A state of the deployed sink and one of the tested sink
   that were reached with the same effects. -/
structure InStep
    (S : FeastSinkSetup ν α φ)
    (s t : SinkState ν φ) : Prop where
  buffer : s.buffer = t.buffer
  lastFlush : s.lastFlush = t.lastFlush
  effects : S.deployed.effectsOf s = S.tested.effectsOf t

theorem InStep.length_reports
    (hInStep : S.InStep s t) :
    s.reports.length = t.reports.length := by
  have hLength := congrArg List.length hInStep.effects
  simpa [effectsOf] using hLength

theorem InStep.append
    (hInStep : S.InStep s t)
    (r : ObjectRecord ν) :
    S.InStep (append s r) (append t r) where
  buffer := by
    rw [BatchBuffer.append, BatchBuffer.append,
      hInStep.buffer]
  lastFlush := hInStep.lastFlush
  effects := hInStep.effects

theorem effectsOf_writeOut
    (S : FeastSinkSetup ν α φ)
    (s : SinkState ν φ) :
    S.effectsOf (writeOut S.config s) =
      S.effectsOf s ++
        [S.effects s.reports.length
          ⟨s.buffer, S.write s.reports.length s.buffer⟩] := by
  simp [effectsOf, writeOut, config, List.mapIdx_append]

theorem InStep.writeOut
    (hHealthy : S.Healthy)
    (hInStep : S.InStep s t)
    (hAgrees : S.FlushAgrees s.reports.length s.buffer) :
    S.InStep (writeOut S.deployed.config s)
      (writeOut S.tested.config t) where
  buffer := rfl
  lastFlush :=
    congrArg S.clock hInStep.length_reports
  effects := by
    rw [effectsOf_writeOut, effectsOf_writeOut,
      hInStep.effects, ← hInStep.length_reports,
      ← hInStep.buffer,
      (effects_agree_iff hHealthy _ _).2 hAgrees]

theorem InStep.flushWhen
    (hHealthy : S.Healthy)
    (hInStep : S.InStep s t)
    (due : Bool)
    (hAgrees :
      due = true → s.buffer.isEmpty = false →
        S.FlushAgrees s.reports.length s.buffer) :
    S.InStep (S.deployed.flushWhen due s).1
      (S.tested.flushWhen due t).1 := by
  rw [FeastSinkSetup.flushWhen, FeastSinkSetup.flushWhen,
    ← hInStep.buffer]
  cases hDue : due && !s.buffer.isEmpty with
  | false => exact hInStep
  | true =>
      rw [Bool.and_eq_true, Bool.not_eq_true'] at hDue
      exact hInStep.writeOut hHealthy (hAgrees hDue.1 hDue.2)

/- Before the period has passed, both classes append, and
   flush a full buffer. -/
theorem invokePyflink_of_early
    (T : FeastSinkSetup ν α φ)
    {now : Int}
    (hEarly : T.periodPassed now s = false)
    (r : ObjectRecord ν) :
    T.invokePyflink s now r =
      (T.flushWhen (T.isFull (append s r)) (append s r)).1 := by
  simp [invokePyflink, FeastSinkSetup.flushWhen, hEarly]

theorem invokeStandIn_of_early
    (T : FeastSinkSetup ν α φ)
    {now : Int}
    (hEarly : T.periodPassed now s = false)
    (r : ObjectRecord ν) :
    T.invokeStandIn s now r =
      (T.flushWhen (T.isFull (append s r)) (append s r)).1 := by
  have hAppended :
      T.periodPassed now (append s r) = false := hEarly
  simp [invokeStandIn, FeastSinkSetup.flushWhen, hAppended]

theorem isFull_of_single
    {T : FeastSinkSetup ν α φ}
    (hLimit : T.bufferMax ≤ 1)
    (r : ObjectRecord ν) :
    T.isFull (append s r) = true := by
  rw [isFull, config, decide_eq_true_iff, append,
    List.length_append]
  simp only [List.length_cons, List.length_nil]
  omega

theorem flushWhen_append
    (T : FeastSinkSetup ν α φ)
    (r : ObjectRecord ν) :
    T.flushWhen true (append s r) =
      (writeOut T.config (append s r),
        (T.write s.reports.length
          (append s r).buffer).interrupted) := by
  simp [FeastSinkSetup.flushWhen, append]

theorem flushWhen_of_empty
    (T : FeastSinkSetup ν α φ)
    (hEmpty : s.buffer = [])
    (due : Bool) :
    T.flushWhen due s = (s, false) := by
  simp [FeastSinkSetup.flushWhen, hEmpty]

/- With a buffer of one record, each record is written when
   it comes, whatever the time. -/
theorem invokePyflink_of_single
    {T : FeastSinkSetup ν α φ}
    (hLimit : T.bufferMax ≤ 1)
    (hEmpty : s.buffer = [])
    (now : Int)
    (r : ObjectRecord ν) :
    T.invokePyflink s now r =
      writeOut T.config (append s r) := by
  simp [invokePyflink, flushWhen_of_empty T hEmpty,
    isFull_of_single hLimit, flushWhen_append]

theorem invokeStandIn_of_single
    {T : FeastSinkSetup ν α φ}
    (hLimit : T.bufferMax ≤ 1)
    (now : Int)
    (r : ObjectRecord ν) :
    T.invokeStandIn s now r =
      writeOut T.config (append s r) := by
  cases hPassed : T.periodPassed now (append s r) with
  | false =>
      have hEarly : T.periodPassed now s = false := hPassed
      rw [invokeStandIn_of_early T hEarly,
        isFull_of_single hLimit, flushWhen_append]
  | true =>
      have hCleared :
          (writeOut T.config (append s r)).buffer = [] := rfl
      simp only [invokeStandIn, hPassed, flushWhen_append]
      split
      · rfl
      · rw [flushWhen_of_empty T hCleared]

theorem InStep.invoke
    (hHealthy : S.Healthy)
    (hInStep : S.InStep s t)
    (hSingle : S.bufferMax ≤ 1 → s.buffer = [])
    {now : Int}
    {r : ObjectRecord ν}
    (hAgrees : S.StepAgrees s (.invoke now r)) :
    S.InStep (S.deployed.invokePyflink s now r)
      (S.tested.invokeStandIn t now r) := by
  rcases hAgrees with ⟨hTime, hFlush⟩
  have hAppend := hInStep.append r
  by_cases hLimit : S.bufferMax ≤ 1
  · have hEmpty := hSingle hLimit
    have hFull : S.bufferMax ≤ s.buffer.length + 1 := by
      omega
    have hDeployed :=
      invokePyflink_of_single (T := S.deployed) hLimit hEmpty
        now r
    have hTested :=
      invokeStandIn_of_single (T := S.tested) (s := t) hLimit
        now r
    rw [hDeployed, hTested]
    exact hAppend.writeOut hHealthy (hFlush hFull)
  · have hEarly : S.deployed.periodPassed now s = false :=
      hTime.resolve_left hLimit
    have hEarly' : S.tested.periodPassed now t = false := by
      rw [← hEarly, periodPassed, periodPassed,
        ← hInStep.lastFlush]
      rfl
    have hFull :
        S.tested.isFull (BatchBuffer.append t r) =
          S.deployed.isFull (BatchBuffer.append s r) := by
      rw [isFull, isFull, ← hAppend.buffer]
      rfl
    rw [invokePyflink_of_early _ hEarly,
      invokeStandIn_of_early _ hEarly', hFull]
    apply hAppend.flushWhen hHealthy
    intro hDue _
    apply hFlush
    rw [isFull, decide_eq_true_iff, BatchBuffer.append,
      List.length_append] at hDue
    exact_mod_cast hDue

/- A step that agrees keeps the states in step. -/
theorem inStep_step
    (hHealthy : S.Healthy)
    (hInStep : S.InStep s t)
    (hSingle : S.bufferMax ≤ 1 → s.buffer = [])
    {op : BatchBuffer.Op (ObjectRecord ν)}
    (hAgrees : S.StepAgrees s op) :
    S.InStep (S.deployed.step s op) (S.tested.step t op) := by
  cases op with
  | invoke now r =>
      exact hInStep.invoke hHealthy hSingle hAgrees
  | flush =>
      exact hInStep.flushWhen hHealthy true fun _ => hAgrees
  | close =>
      exact hInStep.flushWhen hHealthy true fun _ => hAgrees

/- A buffer of one record is empty between the steps. -/
theorem buffer_step_of_single
    (hLimit : S.bufferMax ≤ 1)
    (hEmpty : s.buffer = [])
    (op : BatchBuffer.Op (ObjectRecord ν)) :
    (S.deployed.step s op).buffer = [] := by
  cases op with
  | invoke now r =>
      have hInvoked :=
        invokePyflink_of_single (T := S.deployed) hLimit hEmpty
          now r
      exact congrArg BatchBuffer.State.buffer hInvoked
  | flush =>
      rw [step, flushWhen_of_empty _ hEmpty]
      exact hEmpty
  | close =>
      rw [step, flushWhen_of_empty _ hEmpty]
      exact hEmpty

end FeastSinkSetup

end FraudStream

------------------------------------------------------------
-- Runs
------------------------------------------------------------

namespace FraudStream

namespace FeastSinkSetup

open FeastPush

variable {ν α φ : Type}
variable {S : FeastSinkSetup ν α φ}

theorem inStep_foldl
    (hHealthy : S.Healthy)
    {ops : List (BatchBuffer.Op (ObjectRecord ν))}
    {s t : SinkState ν φ}
    (hInStep : S.InStep s t)
    (hSingle : S.bufferMax ≤ 1 → s.buffer = [])
    (hAgree : S.StepsAgree s ops) :
    S.InStep (ops.foldl S.deployed.step s)
      (ops.foldl S.tested.step t) := by
  induction ops generalizing s t with
  | nil => exact hInStep
  | cons op ops ih =>
      rcases hAgree with ⟨hStep, hRest⟩
      apply ih (inStep_step hHealthy hInStep hSingle hStep)
      · intro hLimit
        exact buffer_step_of_single hLimit (hSingle hLimit) op
      · exact hRest

theorem stepsAgree_of_append
    {before after : List (BatchBuffer.Op (ObjectRecord ν))}
    {s : SinkState ν φ}
    (hAgree : S.StepsAgree s (before ++ after)) :
    S.StepsAgree s before := by
  induction before generalizing s with
  | nil => trivial
  | cons op before ih => exact ⟨hAgree.1, ih hAgree.2⟩

/-
  The stand-in follows the deployed sink, and neither can be
  told from the other at any time of a run, where no record
  comes a second after the last flush to a buffer of more
  than one, no append raises a `TimeoutError`, and no push
  raises an `Exception` before another that can be made.
-/
theorem tested_sink_follows_deployed
    (S : FeastSinkSetup ν α φ)
    (hHealthy : S.Healthy)
    (start : Int)
    (ops : List (BatchBuffer.Op (ObjectRecord ν)))
    (hAgree : S.StepsAgree (BatchBuffer.init start) ops) :
    ∀ before after, ops = before ++ after →
      S.SameEffects start before := by
  intro before after hOps
  rw [hOps] at hAgree
  have hStart :
      S.InStep (BatchBuffer.init start)
        (BatchBuffer.init start) :=
    ⟨rfl, rfl, rfl⟩
  have hInStep :=
    inStep_foldl hHealthy hStart (fun _ => rfl)
      (stepsAgree_of_append hAgree)
  exact
    { batches :=
        congrArg (List.filterMap SinkEffects.appended)
          hInStep.effects
      deadLetters :=
        congrArg (List.flatMap SinkEffects.deadLetters)
          hInStep.effects
      pushes :=
        congrArg (List.flatMap SinkEffects.calls)
          hInStep.effects }

/- A sink of two records whose store refuses nothing. -/
def acceptingSink :
    FeastSinkSetup Scalar (List Scalar) ScalarFrame :=
  { refusingGeo with
    bufferMax := 2
    flushes := fun n =>
      { refusingGeo.flushes n with
        store := fun _ _ => none } }

def enrichedOf (id : String) : ObjectRecord Scalar :=
  Dict.ofList
    [("transaction_id", .str id),
      ("account_id", .str "a"),
      ("event_time", .int 0)]

theorem tested_sink_follows_accepting :
    acceptingSink.SameEffects 0
      [.invoke 0 (enrichedOf "s"), .invoke 999 (enrichedOf "t"),
        .invoke 1 (enrichedOf "u"), .close] :=
  tested_sink_follows_deployed acceptingSink
    ⟨rfl, fun _ => Nat.zero_le _⟩ 0 _ (by decide +kernel) _ []
    (List.append_nil _).symm

/- A record that comes late is in the batch of the stand-in
   only, and a push that is refused ends the pushes of the
   stand-in only. -/
theorem tested_sink_differs :
    (acceptingSink.Healthy ∧
        ¬ acceptingSink.SameEffects 0
          [.invoke 1000 (enrichedOf "t")]) ∧
      (refusingGeo.Healthy ∧
        ¬ refusingGeo.SameEffects 0
          [.invoke 0 (enrichedOf "t")]) := by
  constructor
  · refine ⟨⟨rfl, fun _ => Nat.zero_le _⟩, ?_⟩
    intro hSame
    have hLengths := congrArg List.length hSame.batches
    revert hLengths
    decide +kernel
  · refine ⟨⟨rfl, fun _ => Nat.zero_le _⟩, ?_⟩
    intro hSame
    have hLengths := congrArg List.length hSame.pushes
    revert hLengths
    decide +kernel

end FeastSinkSetup

end FraudStream
