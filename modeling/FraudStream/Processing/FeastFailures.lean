import FraudStream.Processing.FeastPushes
import FraudStream.Processing.IcebergEnrichedSink

/-
  How the sink of enriched records counts the failures of
  its feature pushes.

  The sink is written twice. With PyFlink installed, each
  push has a handler that logs what it raises and goes on;
  in the stand-in the handler raises it again. The counter
  is incremented by the handler around all three.

  Key definitions include:
    * `SinkClass`
    * `FeastSinkSetup`
    * `FeastSinkSetup.write`
    * `FeastSinkSetup.run`
    * `FeastSinkSetup.CountsFailures`
    * `FeastSinkSetup.Countable`

  Main results:
    * `FeastSinkSetup.reached_run`
    * `FeastSinkSetup.increments_iff`
    * `FeastSinkSetup.counts_failures_iff`
-/

------------------------------------------------------------
-- The Two Classes
------------------------------------------------------------

namespace FraudStream

/- The class with PyFlink installed, and the one without. -/
inductive SinkClass where
| pyflink
| standIn
deriving DecidableEq, Repr

/- What the parts of a flush do, the pushes among them. -/
structure FeastFlush (ν α φ : Type) where
  attempt : FlushAttempt
  platform : FeastPush.Platform ν α φ
  store : FeastPush.Store φ

/- What came of a flush: the pushes that were made, the
   increments of the counter, and whether an interrupt
   leaves it. -/
structure FeastOutcome (ν φ : Type) where
  flush : FlushOutcome (FeastPush.ObjectRecord ν)
  pushes :
    List (GuardedAttempt (FeastPush.PushCall φ) FeastPush.Failure)
  increments : Nat
  interrupted : Bool

/- A sink with what its environment does. -/
structure FeastSinkSetup (ν α φ : Type) where
  sinkClass : SinkClass
  bufferMax : Int
  transactionId? : FeastPush.ObjectRecord ν → Option String
  opened : OpenAttempt
  feastStore : Bool
  clock : Nat → Int
  flushes : Nat → FeastFlush ν α φ

/- The flush of the stand-in. It appends in its own thread,
   without a timeout, and needs no breaker. -/
def IcebergEnrichedSink.writeStandIn
    {ρ : Type}
    (transactionId? : ρ → Option String)
    (h : SinkHandles)
    (a : FlushAttempt)
    (buffer : List ρ) : FlushOutcome ρ :=
  let deduplicated :=
    IcebergSinkBase.deduplicate transactionId? buffer
  let deadLetter := fun e =>
    { event := "iceberg_sink_dlq"
      transactionId :=
        IcebergSinkBase.firstTxnId transactionId?
          deduplicated
      reason := IcebergOperatorSink.flushErrorReason e
      batchSize := deduplicated.length }
  if h.table = false then
    { committed := none
      deadLetters := deduplicated.map (fun r =>
        { event := "iceberg_sink_dlq"
          transactionId :=
            (transactionId? r).getD "unknown"
          reason := "iceberg_table_not_loaded"
          batchSize := 1 }) }
  else
    match a.conversion with
    | some e =>
        { committed := none, deadLetters := [deadLetter e] }
    | none =>
        match a.append with
        | some e =>
            { committed := none
              deadLetters := [deadLetter e] }
        | none =>
            { committed := some deduplicated
              deadLetters := [] }

end FraudStream

------------------------------------------------------------
-- Flushes
------------------------------------------------------------

namespace FraudStream

namespace FeastSinkSetup

open FeastPush

variable {ν α φ : Type}
variable (S : FeastSinkSetup ν α φ)

def handles : SinkHandles :=
  match S.sinkClass with
  | .pyflink => IcebergOperatorSink.open S.opened
  | .standIn => IcebergSinkBase.open S.opened

/- What the handler of a push does not raise again. -/
def absorbs (e : Failure) : Bool :=
  match S.sinkClass with
  | .pyflink => e.isException
  | .standIn => false

def batch
    (buffer : List (ObjectRecord ν)) :
    List (ObjectRecord ν) :=
  IcebergSinkBase.deduplicate S.transactionId? buffer

def flush
    (a : FlushAttempt)
    (buffer : List (ObjectRecord ν)) :
    FlushOutcome (ObjectRecord ν) :=
  match S.sinkClass with
  | .pyflink =>
      IcebergEnrichedSink.write S.transactionId? S.handles a
        buffer
  | .standIn =>
      IcebergEnrichedSink.writeStandIn S.transactionId?
        S.handles a buffer

/- `_push_to_feast` follows an append that returns. -/
def reachesPush (a : FlushAttempt) : Bool :=
  match S.sinkClass with
  | .pyflink =>
      S.handles.table && S.handles.breaker &&
        a.conversion.isNone && a.futureResult.isNone
  | .standIn =>
      S.handles.table && a.conversion.isNone &&
        a.append.isNone

/- `_push_to_feast`: the pushes that are made, and what it
   raises. -/
def pushToFeast
    (f : FeastFlush ν α φ)
    (records : List (ObjectRecord ν)) :
    List (GuardedAttempt (PushCall φ) Failure) × Option Failure :=
  if S.feastStore = false then
    ([], none)
  else
    match records.mapM (eventTime f.platform) with
    | .error e => ([], some e)
    | .ok times =>
        let attempts :=
          sinkAttempts f.platform f.store records times
        (GuardedAttempt.made S.absorbs attempts,
          GuardedAttempt.escape S.absorbs attempts)

/- The flush of a buffer. What leaves `_push_to_feast` is
   counted if it is an `Exception`. -/
def write
    (n : Nat)
    (buffer : List (ObjectRecord ν)) : FeastOutcome ν φ :=
  let f := S.flushes n
  let flushed := S.flush f.attempt buffer
  if S.reachesPush f.attempt then
    let pushed := S.pushToFeast f (S.batch buffer)
    { flush := flushed
      pushes := pushed.1
      increments :=
        if pushed.2 = some .exception then 1 else 0
      interrupted := pushed.2 = some .interrupt }
  else
    { flush := flushed
      pushes := []
      increments := 0
      interrupted := false }

end FeastSinkSetup

end FraudStream

------------------------------------------------------------
-- Runs
------------------------------------------------------------

namespace FraudStream

namespace FeastSinkSetup

open FeastPush

variable {ν α φ : Type}
variable (S : FeastSinkSetup ν α φ)

abbrev SinkState (ν φ : Type) :=
  BatchBuffer.State (ObjectRecord ν) (FeastOutcome ν φ)

def config :
    BatchBuffer.Config (ObjectRecord ν)
      (FeastOutcome ν φ) where
  limit := S.bufferMax
  period := icebergFlushPeriodMs
  clock := S.clock
  write := S.write

/- A flush that is due, and whether an interrupt leaves it.
   The buffer is cleared in any case. -/
def flushWhen
    (due : Bool)
    (s : SinkState ν φ) : SinkState ν φ × Bool :=
  if due && !s.buffer.isEmpty then
    (BatchBuffer.writeOut S.config s,
      (S.write s.reports.length s.buffer).interrupted)
  else
    (s, false)

def periodPassed
    (now : Int)
    (s : SinkState ν φ) : Bool :=
  S.config.period ≤ now - s.lastFlush

def isFull (s : SinkState ν φ) : Bool :=
  S.config.limit ≤ s.buffer.length

/- The PyFlink class looks at the time before it appends. An
   interrupt leaves the call. -/
def invokePyflink
    (s : SinkState ν φ)
    (now : Int)
    (r : ObjectRecord ν) : SinkState ν φ :=
  let (s, interrupted) :=
    S.flushWhen (S.periodPassed now s) s
  if interrupted then
    s
  else
    let s := BatchBuffer.append s r
    (S.flushWhen (S.isFull s) s).1

/- The stand-in appends first. -/
def invokeStandIn
    (s : SinkState ν φ)
    (now : Int)
    (r : ObjectRecord ν) : SinkState ν φ :=
  let s := BatchBuffer.append s r
  let (s, interrupted) :=
    S.flushWhen (S.periodPassed now s) s
  if interrupted then
    s
  else
    (S.flushWhen (S.isFull s) s).1

def step
    (s : SinkState ν φ) :
    BatchBuffer.Op (ObjectRecord ν) → SinkState ν φ
| .invoke now r =>
    match S.sinkClass with
    | .pyflink => S.invokePyflink s now r
    | .standIn => S.invokeStandIn s now r
| .flush => (S.flushWhen true s).1
| .close => (S.flushWhen true s).1

/- The state after a list of operations. -/
def run
    (start : Int)
    (ops : List (BatchBuffer.Op (ObjectRecord ν))) :
    SinkState ν φ :=
  ops.foldl S.step (BatchBuffer.init start)

/- `feast_push_failures_total` after some flushes. -/
def feastPushFailuresTotal
    (reports :
      List (BatchBuffer.Report (ObjectRecord ν)
        (FeastOutcome ν φ))) : Nat :=
  (reports.map (fun report =>
    report.outcome.increments)).sum

end FeastSinkSetup

/- The append succeeded, and a push raised. -/
def FeastOutcome.pushFailed
    {ν φ : Type}
    (o : FeastOutcome ν φ) : Bool :=
  o.flush.committed.isSome &&
    o.pushes.any (fun a => a.raised.isSome)

namespace FeastSinkSetup

open FeastPush

variable {ν α φ : Type}
variable (S : FeastSinkSetup ν α φ)

/- The counter increases by one in each flush with a failed
   push, and is left alone by the others. -/
def CountsFailures
    (start : Int)
    (ops : List (BatchBuffer.Op (ObjectRecord ν))) : Prop :=
  ∀ n report,
    (S.run start ops).reports[n]? = some report →
      feastPushFailuresTotal
          ((S.run start ops).reports.take (n + 1)) =
        feastPushFailuresTotal
            ((S.run start ops).reports.take n) +
          (if report.outcome.pushFailed then 1 else 0)

end FeastSinkSetup

end FraudStream

------------------------------------------------------------
-- Every Run Reaches Its State By Appends And Writes
------------------------------------------------------------

namespace FraudStream

namespace FeastSinkSetup

open FeastPush
open BatchBuffer (Reached)

variable {ν α φ : Type}
variable {S : FeastSinkSetup ν α φ}
variable {start : Int}
variable {s : SinkState ν φ}

theorem reached_flushWhen
    (due : Bool)
    (hReached : Reached S.config start s) :
    Reached S.config start (S.flushWhen due s).1 := by
  rw [flushWhen]
  split
  · rename_i hDue
    apply Reached.writeOut _ hReached
    intro hEmpty
    simp [hEmpty] at hDue
  · exact hReached

theorem reached_step
    (op : BatchBuffer.Op (ObjectRecord ν))
    (hReached : Reached S.config start s) :
    Reached S.config start (S.step s op) := by
  cases op with
  | flush => exact reached_flushWhen true hReached
  | close => exact reached_flushWhen true hReached
  | invoke now r =>
      rw [step]
      cases S.sinkClass with
      | pyflink =>
          have hFlushed :=
            reached_flushWhen (S.periodPassed now s) hReached
          simp only [invokePyflink]
          split
          · exact hFlushed
          · exact
              reached_flushWhen _ (.append hFlushed r)
      | standIn =>
          have hFlushed :=
            reached_flushWhen
              (S.periodPassed now (BatchBuffer.append s r))
              (.append hReached r)
          simp only [invokeStandIn]
          split
          · exact hFlushed
          · exact reached_flushWhen _ hFlushed

/- In both orders, and whatever is interrupted, a run only
   appends and writes. -/
theorem reached_run
    (S : FeastSinkSetup ν α φ)
    (start : Int)
    (ops : List (BatchBuffer.Op (ObjectRecord ν))) :
    Reached S.config start (S.run start ops) := by
  rw [run]
  have hFold :
      ∀ s, Reached S.config start s →
        Reached S.config start (ops.foldl S.step s) := by
    induction ops with
    | nil =>
        intro s hReached
        exact hReached
    | cons op ops ih =>
        intro s hReached
        exact ih _ (reached_step op hReached)
  exact hFold _ .init

end FeastSinkSetup

end FraudStream

------------------------------------------------------------
-- One Flush
------------------------------------------------------------

namespace FraudStream

namespace FeastSinkSetup

open FeastPush

variable {ν α φ : Type}
variable (S : FeastSinkSetup ν α φ)

/- The event times raise no `Exception`. With PyFlink no push
   raises; without, what is raised first, if anything, is an
   `Exception`. -/
def CountablePushes
    (f : FeastFlush ν α φ)
    (records : List (ObjectRecord ν)) : Prop :=
  match records.mapM (eventTime f.platform) with
  | .error e => e = .interrupt
  | .ok times =>
      let attempts :=
        sinkAttempts f.platform f.store records times
      match S.sinkClass with
      | .pyflink => ∀ a ∈ attempts, a.raised = none
      | .standIn =>
          attempts.findSome? GuardedAttempt.raised ≠ some .interrupt

/- The push is not reached, or there is no store, or the
   counter tells what the pushes raise. -/
def Countable
    (n : Nat)
    (buffer : List (ObjectRecord ν)) : Prop :=
  S.reachesPush (S.flushes n).attempt = true →
    S.feastStore = true →
      S.CountablePushes (S.flushes n) (S.batch buffer)

variable {S}

/- A flush that reaches the push has committed its batch. -/
theorem committed_of_reachesPush
    {a : FlushAttempt}
    (buffer : List (ObjectRecord ν))
    (hReaches : S.reachesPush a = true) :
    (S.flush a buffer).committed = some (S.batch buffer) := by
  rw [flush, batch]
  rw [reachesPush] at hReaches
  cases hClass : S.sinkClass with
  | pyflink =>
      simp only [hClass, Bool.and_eq_true,
        Option.isNone_iff_eq_none] at hReaches
      rcases hReaches with
        ⟨⟨⟨hTable, hBreaker⟩, hConversion⟩, hResult⟩
      have hCommit :
          a.commit (IcebergSinkBase.deduplicate
              S.transactionId? buffer) =
            some (IcebergSinkBase.deduplicate
              S.transactionId? buffer) := by
        rw [FlushAttempt.futureResult] at hResult
        split at hResult
        · cases hResult
        · rw [FlushAttempt.commit, if_pos hResult]
      simp [IcebergEnrichedSink.write,
        IcebergOperatorSink.convertAndAppend,
        IcebergOperatorSink.appendBatch, hTable, hBreaker,
        hConversion, hResult, hCommit]
  | standIn =>
      simp only [hClass, Bool.and_eq_true,
        Option.isNone_iff_eq_none] at hReaches
      rcases hReaches with
        ⟨⟨hTable, hConversion⟩, hAppend⟩
      simp [IcebergEnrichedSink.writeStandIn, hTable,
        hConversion, hAppend]

/- With PyFlink, no `Exception` leaves the pushes. -/
theorem escape_pyflink
    (hClass : S.sinkClass = .pyflink)
    (attempts : List (GuardedAttempt (PushCall φ) Failure)) :
    GuardedAttempt.escape S.absorbs attempts ≠
      some .exception := by
  intro hEscape
  have hAbsorbs :=
    GuardedAttempt.not_absorbs_of_escape S.absorbs hEscape
  simp [absorbs, hClass, Failure.isException] at hAbsorbs

/- In the stand-in, whatever is raised first leaves. -/
theorem escape_standIn
    (hClass : S.sinkClass = .standIn)
    (attempts : List (GuardedAttempt (PushCall φ) Failure)) :
    GuardedAttempt.escape S.absorbs attempts =
      attempts.findSome? GuardedAttempt.raised := by
  have hAbsorbs : S.absorbs = fun _ => false := by
    funext e
    simp [absorbs, hClass]
  rw [hAbsorbs, GuardedAttempt.escape_eq_findSome?]

/- Something is raised by the pushes that are made. -/
theorem any_raised_made_iff
    (attempts : List (GuardedAttempt (PushCall φ) Failure)) :
    (GuardedAttempt.made S.absorbs attempts).any
        (fun a => a.raised.isSome) = true ↔
      ¬ ∀ a ∈ attempts, a.raised = none := by
  have hMade :=
    GuardedAttempt.exists_raised_made_iff S.absorbs attempts
  simp only [← Option.isSome_iff_ne_none] at hMade
  rw [List.any_eq_true, hMade]
  push Not
  simp only [Option.isSome_iff_ne_none]

theorem if_one_eq_if_one_iff
    (p q : Prop)
    [Decidable p]
    [Decidable q] :
    ((if p then 1 else 0 : Nat) = if q then 1 else 0) ↔
      (p ↔ q) := by
  by_cases hp : p <;> by_cases hq : q <;> simp [hp, hq]

/- An `Exception` leaves the pushes of the stand-in exactly
   when one of them raises, unless an interrupt does. -/
theorem findSome_exception_iff
    (attempts : List (GuardedAttempt (PushCall φ) Failure)) :
    (attempts.findSome? GuardedAttempt.raised = some .exception ↔
        ¬ ∀ a ∈ attempts, a.raised = none) ↔
      attempts.findSome? GuardedAttempt.raised ≠
        some .interrupt := by
  rw [← List.findSome?_eq_none_iff]
  cases attempts.findSome? GuardedAttempt.raised with
  | none => simp
  | some e => cases e <;> simp

/- The push tells the counter what it should. -/
theorem pushToFeast_counts_iff
    (hStore : S.feastStore = true)
    (f : FeastFlush ν α φ)
    (records : List (ObjectRecord ν)) :
    ((S.pushToFeast f records).2 = some .exception ↔
        (S.pushToFeast f records).1.any
          (fun a => a.raised.isSome) = true) ↔
      S.CountablePushes f records := by
  rw [pushToFeast, if_neg (by simp [hStore]),
    CountablePushes]
  cases records.mapM (eventTime f.platform) with
  | error e => cases e <;> simp
  | ok times =>
      simp only [any_raised_made_iff]
      cases hClass : S.sinkClass with
      | pyflink =>
          simp only [escape_pyflink hClass, false_iff,
            not_not]
      | standIn =>
          rw [escape_standIn hClass, findSome_exception_iff]

/- The increments of a flush are right exactly when the
   counter can tell what its pushes raise. -/
theorem increments_iff
    (S : FeastSinkSetup ν α φ)
    (n : Nat)
    (buffer : List (ObjectRecord ν)) :
    (S.write n buffer).increments =
        (if (S.write n buffer).pushFailed then 1 else 0) ↔
      S.Countable n buffer := by
  rw [Countable]
  cases hReaches : S.reachesPush (S.flushes n).attempt with
  | false => simp [write, hReaches, FeastOutcome.pushFailed]
  | true =>
      have hCommitted :=
        committed_of_reachesPush buffer hReaches
      cases hStore : S.feastStore with
      | false =>
          simp [write, hReaches, FeastOutcome.pushFailed,
            pushToFeast, hStore]
      | true =>
          rw [← pushToFeast_counts_iff hStore]
          simp only [write, hReaches, if_true,
            FeastOutcome.pushFailed, hCommitted,
            Option.isSome_some, Bool.true_and,
            forall_true_left, if_one_eq_if_one_iff]

end FeastSinkSetup

end FraudStream

------------------------------------------------------------
-- Counted Failures
------------------------------------------------------------

namespace FraudStream

namespace FeastSinkSetup

open FeastPush

variable {ν α φ : Type}

/- The counter after one more flush. -/
theorem feastPushFailuresTotal_take
    {reports :
      List (BatchBuffer.Report (ObjectRecord ν)
        (FeastOutcome ν φ))}
    {n : Nat}
    {report :
      BatchBuffer.Report (ObjectRecord ν)
        (FeastOutcome ν φ)}
    (hReport : reports[n]? = some report) :
    feastPushFailuresTotal (reports.take (n + 1)) =
      feastPushFailuresTotal (reports.take n) +
        report.outcome.increments := by
  rw [List.take_add_one, hReport, feastPushFailuresTotal,
    feastPushFailuresTotal]
  simp

/-
  A run of either class counts each flush with a failed push
  once, and no other, exactly when in every flush that
  reaches its pushes the counter can tell what they raise:
  with PyFlink they raise nothing, and in the stand-in no
  interrupt comes first.
-/
theorem counts_failures_iff
    (S : FeastSinkSetup ν α φ)
    (start : Int)
    (ops : List (BatchBuffer.Op (ObjectRecord ν))) :
    S.CountsFailures start ops ↔
      ∀ n report,
        (S.run start ops).reports[n]? = some report →
          S.Countable n report.buffer := by
  rw [CountsFailures]
  apply forall₂_congr
  intro n report
  apply forall_congr'
  intro hReport
  have hOutcome :
      report.outcome = S.write n report.buffer :=
    (BatchBuffer.report_of_reached
      (reached_run S start ops) n report hReport).2
  rw [feastPushFailuresTotal_take hReport,
    Nat.add_left_cancel_iff, hOutcome, increments_iff]

/- A sink whose store refuses the geo features. -/
def refusingGeo :
    FeastSinkSetup Scalar (List Scalar) ScalarFrame where
  sinkClass := .pyflink
  bufferMax := 1
  transactionId? := fun r =>
    match r.get? "transaction_id" with
    | some (.str s) => some s
    | _ => none
  opened := { catalogLoads := true, breakerLoads := true }
  feastStore := true
  clock := fun _ => 0
  flushes := fun _ =>
    { attempt :=
        { conversion := none
          append := none
          durationMs := 0
          afterSuccess := none }
      platform := scalarPlatform
      store := fun source _ =>
        if source = "geo_push_source" then
          some .exception
        else
          none }

/- A flush with a failed push is not counted. -/
theorem refused_geo_push_is_not_counted :
    ¬ refusingGeo.CountsFailures 0
      [.invoke 0 (Dict.ofList
        [("transaction_id", .str "t"),
          ("account_id", .str "a"),
          ("event_time", .int 0)])] := by
  intro hCounts
  let reports :=
    (refusingGeo.run 0
      [.invoke 0 (Dict.ofList
        [("transaction_id", .str "t"),
          ("account_id", .str "a"),
          ("event_time", .int 0)])]).reports
  have hFailed :
      (reports[0]?).map (fun report =>
        report.outcome.pushFailed) = some true := by
    decide +kernel
  have hTotal :
      feastPushFailuresTotal (reports.take 1) = 0 := by
    decide +kernel
  rcases Option.map_eq_some_iff.1 hFailed with
    ⟨report, hReport, hPush⟩
  have hCounted := hCounts 0 report hReport
  rw [hPush, if_pos rfl, Nat.zero_add, hTotal] at hCounted
  simp [feastPushFailuresTotal] at hCounted

end FeastSinkSetup

end FraudStream
