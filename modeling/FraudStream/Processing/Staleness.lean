import FraudStream.Library.LastStamp
import FraudStream.Processing.FeatureMaterializer

/-
  The last-push time that the staleness gauge is measured
  from.

  The materializer and the sink of enriched records both
  push the feature groups of a batch, log the pushes that
  fail, and then update the gauge. The materializer imports
  the gauge from a module that does not define it, so its
  time never moves. The sink sets its time whatever became
  of the pushes.

  Key definitions include:
    * `Staleness`
    * `FeatureMaterializer.materializeAt`
    * `IcebergEnrichedSink.pushToFeast`
    * `IsResetBySuccess`

  Main results:
    * `FeatureMaterializer.lastPush_of_calls`
    * `IcebergEnrichedSink.lastPush_of_calls`
    * `staleness_reset_by_success_iff`
-/

------------------------------------------------------------
-- Calls
------------------------------------------------------------

namespace FraudStream

/- The time of the last push, which the sink has only after
   the first one, and the last value of the gauge. -/
structure Staleness where
  lastPushMs : Option PyFloat
  lagMs : Option PyFloat

/- A batch at a time, and the tables that the store accepts
   then. -/
structure FeastCall where
  nowMs : PyFloat
  accepts : FeaturePush → Bool
  records : List Record

namespace FeatureMaterializer

/- The names that `pipelines.processing.metrics` defines. -/
def processingMetrics : List String :=
  ["enrichment_latency_ms", "dlq_events_total",
    "consumer_lag_records", "last_checkpoint_duration_ms",
    "dedup_skipped_total", "checkpoint_failures_total",
    "last_watermark_advance_epoch",
    "late_events_within_window_total",
    "late_events_beyond_window_total",
    "corrected_record_latency_ms",
    "iceberg_buffer_overflow_total",
    "iceberg_catalog_unavailable_total",
    "iceberg_flush_duration_seconds",
    "feast_push_failures_total"]

/- The state of a materializer made at a time. -/
def created (nowMs : PyFloat) : Staleness where
  lastPushMs := some nowMs
  lagMs := none

/- The import of a name that the module does not define
   raises, and that is caught. -/
def updateStalenessGauge
    (nowMs : PyFloat)
    (s : Staleness) : Staleness :=
  if "feature_materialization_lag_ms" ∈ processingMetrics
  then
    { lastPushMs := some nowMs
      lagMs := s.lastPushMs.map nowMs.sub }
  else
    s

/- A call of the materializer: the tables that reach the
   store, and the state after it. -/
def materializeAt
    (s : Staleness)
    (call : FeastCall) :
    Except PyError (List FeaturePush) × Staleness :=
  match materialize call.accepts call.records with
  | .error e => (.error e, s)
  | .ok pushes =>
      if call.records.isEmpty then
        (.ok pushes, s)
      else
        (.ok pushes, updateStalenessGauge call.nowMs s)

end FeatureMaterializer

namespace IcebergEnrichedSink

open FeatureMaterializer

/- The tables that reach the store. The mode of a push is
   imported after the velocity table is built: without that
   table the other two pushes raise as well. -/
def pushFeatures
    (accepts : FeaturePush → Bool)
    (records : List Record) :
    Except PyError (List FeaturePush) :=
  match records.mapM eventTimestamp with
  | .error e => .error e
  | .ok _ =>
      match pushFeatureGroup "velocity_push_source"
          velocityColumns records with
      | .error _ => .ok []
      | .ok _ =>
          .ok (featureGroups.filterMap
            (pushed? accepts records))

/- The gauge is set from the current time at first. -/
def updateStalenessGauge
    (nowMs : PyFloat)
    (s : Staleness) : Staleness where
  lastPushMs := some nowMs
  lagMs := some (nowMs.sub (s.lastPushMs.getD nowMs))

/- `_push_to_feast`: the tables that reach the store, and
   the state after it. The update does not look at them. -/
def pushToFeast
    (feastStore : Bool)
    (s : Staleness)
    (call : FeastCall) :
    Except PyError (List FeaturePush) × Staleness :=
  if feastStore then
    match pushFeatures call.accepts call.records with
    | .error e => (.error e, s)
    | .ok pushes =>
        (.ok pushes, updateStalenessGauge call.nowMs s)
  else
    (.ok [], s)

end IcebergEnrichedSink

end FraudStream

------------------------------------------------------------
-- Reset By Success
------------------------------------------------------------

namespace FraudStream

/- The time that a call stamps. -/
def FeastCall.stamp (call : FeastCall) : Option PyFloat :=
  some call.nowMs

/- At least one table reached the store. -/
def pushSucceeds :
    Except PyError (List FeaturePush) → Bool
| .ok (_ :: _) => true
| _ => false

/- After every call the stored time is that of the most
   recent call with a successful push, or the initial one
   if there was none. -/
def IsResetBySuccess
    (next : Staleness → FeastCall → Staleness)
    (succeeds : FeastCall → Bool)
    (s : Staleness)
    (calls : List FeastCall) : Prop :=
  ∀ before, before <+: calls →
    (before.foldl next s).lastPushMs =
      LastStamp.last FeastCall.stamp succeeds s.lastPushMs
        before

namespace FeatureMaterializer

def succeeds (call : FeastCall) : Bool :=
  pushSucceeds (materialize call.accepts call.records)

/- The gauge is not found, so no call changes the state. -/
theorem materializeAt_state
    (s : Staleness)
    (call : FeastCall) :
    (materializeAt s call).2 = s := by
  have hMissing :
      "feature_materialization_lag_ms" ∉
        processingMetrics := by
    decide
  unfold materializeAt
  split
  · rfl
  · split
    · rfl
    · simp [updateStalenessGauge, hMissing]

theorem lastPush_of_calls
    (s : Staleness)
    (calls : List FeastCall) :
    (calls.foldl (fun s call => (materializeAt s call).2)
        s).lastPushMs =
      LastStamp.last FeastCall.stamp (fun _ => false)
        s.lastPushMs calls := by
  apply LastStamp.read_foldl
  intro s call
  simp [materializeAt_state]

/- The time of the materializer is right as long as it may
   stay the one that it was made at. -/
theorem isResetBySuccess_iff
    (createdMs : PyFloat)
    (calls : List FeastCall) :
    IsResetBySuccess
        (fun s call => (materializeAt s call).2) succeeds
        (created createdMs) calls ↔
      ∀ call ∈ calls, succeeds call →
        call.nowMs = createdMs := by
  have hSwap :
      IsResetBySuccess
          (fun s call => (materializeAt s call).2) succeeds
          (created createdMs) calls ↔
        ∀ before, before <+: calls →
          LastStamp.last FeastCall.stamp succeeds
              (created createdMs).lastPushMs before =
            LastStamp.last FeastCall.stamp (fun _ => false)
              (created createdMs).lastPushMs before := by
    simp only [IsResetBySuccess, lastPush_of_calls]
    exact forall₂_congr (fun _ _ => eq_comm)
  rw [hSwap, LastStamp.last_eq_last_iff]
  simp only [LastStamp.last_never]
  constructor
  · intro hCalls call hMem hSucceeds
    rcases List.append_of_mem hMem with
      ⟨before, after, rfl⟩
    have hPrefix :
        before ++ [call] <+: before ++ call :: after :=
      ⟨after, by simp⟩
    have hStamp :=
      hCalls before call hPrefix (by simp [hSucceeds])
    simpa [created, FeastCall.stamp] using hStamp
  · intro hCalls before call hPrefix hOne
    have hMem : call ∈ calls :=
      hPrefix.subset (by simp)
    have hSucceeds : succeeds call := by
      simpa using hOne
    simpa [created, FeastCall.stamp] using
      hCalls call hMem hSucceeds

end FeatureMaterializer

namespace IcebergEnrichedSink

def succeeds
    (feastStore : Bool)
    (call : FeastCall) : Bool :=
  feastStore &&
    pushSucceeds (pushFeatures call.accepts call.records)

/- The call gets to the update of the gauge. -/
def ends
    (feastStore : Bool)
    (call : FeastCall) : Bool :=
  feastStore &&
    (pushFeatures call.accepts call.records).isOk

/- The call gets to the update with no push that
   succeeded. -/
def AllPushesFail
    (feastStore : Bool)
    (call : FeastCall) : Prop :=
  feastStore ∧
    pushFeatures call.accepts call.records = .ok []

theorem ends_ne_succeeds_iff
    (feastStore : Bool)
    (call : FeastCall) :
    ends feastStore call ≠ succeeds feastStore call ↔
      AllPushesFail feastStore call := by
  unfold ends succeeds AllPushesFail
  cases feastStore with
  | false => simp
  | true =>
      cases hPushes :
          pushFeatures call.accepts call.records with
      | error e => simp [pushSucceeds, Except.isOk, Except.toBool]
      | ok pushes =>
          cases pushes with
          | nil => simp [pushSucceeds, Except.isOk, Except.toBool]
          | cons push pushes =>
              simp [pushSucceeds, Except.isOk, Except.toBool]

theorem lastPush_of_calls
    (feastStore : Bool)
    (s : Staleness)
    (calls : List FeastCall) :
    (calls.foldl
        (fun s call => (pushToFeast feastStore s call).2)
        s).lastPushMs =
      LastStamp.last FeastCall.stamp (ends feastStore)
        s.lastPushMs calls := by
  apply LastStamp.read_foldl
  intro s call
  unfold pushToFeast ends
  cases feastStore with
  | false => rfl
  | true =>
      cases hPushes :
          pushFeatures call.accepts call.records with
      | error e => rfl
      | ok pushes => rfl

/- The time of the sink is right as long as no call in
   which all pushes fail changes it. -/
theorem isResetBySuccess_iff
    (feastStore : Bool)
    (s : Staleness)
    (calls : List FeastCall) :
    IsResetBySuccess
        (fun s call => (pushToFeast feastStore s call).2)
        (succeeds feastStore) s calls ↔
      ∀ before call, before ++ [call] <+: calls →
        AllPushesFail feastStore call →
          call.stamp =
            LastStamp.last FeastCall.stamp
              (succeeds feastStore) s.lastPushMs before := by
  simp only [IsResetBySuccess, lastPush_of_calls]
  rw [LastStamp.last_eq_last_iff]
  simp only [ends_ne_succeeds_iff]

end IcebergEnrichedSink

/-
  The time of the materializer is reset by success exactly
  when no push succeeds at another time than that of its
  creation, and the time of the sink exactly when a call
  that gets to the update with no push happens at the time
  of the last call with one.
-/
theorem staleness_reset_by_success_iff
    (createdMs : PyFloat)
    (feastStore : Bool)
    (s : Staleness)
    (calls : List FeastCall) :
    (IsResetBySuccess
          (fun s call =>
            (FeatureMaterializer.materializeAt s call).2)
          FeatureMaterializer.succeeds
          (FeatureMaterializer.created createdMs) calls ↔
        ∀ call ∈ calls,
          FeatureMaterializer.succeeds call →
            call.nowMs = createdMs) ∧
      (IsResetBySuccess
          (fun s call =>
            (IcebergEnrichedSink.pushToFeast feastStore s
              call).2)
          (IcebergEnrichedSink.succeeds feastStore) s
          calls ↔
        ∀ before call, before ++ [call] <+: calls →
          IcebergEnrichedSink.AllPushesFail feastStore
            call →
          call.stamp =
            LastStamp.last FeastCall.stamp
              (IcebergEnrichedSink.succeeds feastStore)
              s.lastPushMs before) :=
  ⟨FeatureMaterializer.isResetBySuccess_iff createdMs calls,
    IcebergEnrichedSink.isResetBySuccess_iff feastStore s
      calls⟩

/- A record with both identifiers and a time. -/
def feastRecord : Record :=
  .ofList
    [("account_id", .str "acc-001"),
      ("transaction_id", .str "txn-1"),
      ("event_time", .int 5)]

/- A call on the record at a time, with a store that takes
   all tables or none. -/
def feastCall
    (nowMs : ℚ)
    (up : Bool) : FeastCall where
  nowMs := .finite nowMs
  accepts := fun _ => up
  records := [feastRecord]

/- A push that succeeds leaves the time of the materializer
   at its creation; a call in which all pushes fail resets
   the time of the sink. -/
theorem staleness_ignores_outcome :
    FeatureMaterializer.succeeds (feastCall 2000 true) ∧
      (FeatureMaterializer.materializeAt
          (FeatureMaterializer.created (.finite 1000))
          (feastCall 2000 true)).2.lastPushMs =
        some (.finite 1000) ∧
      ¬ IsResetBySuccess
        (fun s call =>
          (FeatureMaterializer.materializeAt s call).2)
        FeatureMaterializer.succeeds
        (FeatureMaterializer.created (.finite 1000))
        [feastCall 2000 true] ∧
      ¬ IcebergEnrichedSink.succeeds true
        (feastCall 2000 false) ∧
      (IcebergEnrichedSink.pushToFeast true
          { lastPushMs := some (.finite 1000), lagMs := none }
          (feastCall 2000 false)).2.lastPushMs =
        some (.finite 2000) ∧
      ¬ IsResetBySuccess
        (fun s call =>
          (IcebergEnrichedSink.pushToFeast true s call).2)
        (IcebergEnrichedSink.succeeds true)
        { lastPushMs := some (.finite 1000), lagMs := none }
        [feastCall 2000 false] := by
  have hPushed :
      FeatureMaterializer.succeeds
        (feastCall 2000 true) := by
    decide
  have hUnchanged :
      (FeatureMaterializer.materializeAt
          (FeatureMaterializer.created (.finite 1000))
          (feastCall 2000 true)).2.lastPushMs =
        some (.finite 1000) := by
    rw [FeatureMaterializer.materializeAt_state]
    rfl
  have hFailed :
      ¬ IcebergEnrichedSink.succeeds true
        (feastCall 2000 false) := by
    decide
  have hReset :
      (IcebergEnrichedSink.pushToFeast true
          { lastPushMs := some (.finite 1000), lagMs := none }
          (feastCall 2000 false)).2.lastPushMs =
        some (.finite 2000) := by
    rfl
  refine ⟨hPushed, hUnchanged, ?_, hFailed, hReset, ?_⟩
  · intro hRun
    rw [FeatureMaterializer.isResetBySuccess_iff] at hRun
    have hTime :=
      hRun (feastCall 2000 true) (by simp) hPushed
    exact absurd hTime (by decide)
  · intro hRun
    rw [IcebergEnrichedSink.isResetBySuccess_iff] at hRun
    have hFails :
        IcebergEnrichedSink.AllPushesFail true
          (feastCall 2000 false) :=
      ⟨rfl, rfl⟩
    have hTime :=
      hRun [] (feastCall 2000 false) List.prefix_rfl hFails
    exact absurd hTime (by decide)

end FraudStream
