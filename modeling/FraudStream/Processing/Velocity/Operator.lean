import Mathlib.Algebra.Group.Prod
import Mathlib.Algebra.Order.Ring.Rat
import FraudStream.Library.BucketLog
import FraudStream.Library.EventTime
import FraudStream.Processing.Transaction

/-
  The velocity operator, keyed on the account.

  The state maps a minute bucket to the number and the
  amount of the transactions in it. An element that is late
  beyond the allowed lateness goes to the dead-letter
  output; any other element is added to its bucket, and the
  four windows are read back from the buckets.

  Amounts add up exactly here. `DecimalSums` has the sums of
  the code, of twenty-eight digits, and the two operators
  have the same outputs as long as the amounts fit.

  Key definitions include:
    * `Window`
    * `Velocity.Buckets`
    * `Velocity.computeVelocity`
    * `Velocity.processElement`
    * `Velocity.onTimer`
    * `Velocity.processElementPure`
    * `Velocity.operator`
    * `Velocity.accepted`
-/

------------------------------------------------------------
-- Windows
------------------------------------------------------------

namespace FraudStream

/- The windows `_WINDOWS` by label. -/
inductive Window where
| m1
| m5
| h1
| h24
deriving DecidableEq, Repr

namespace Window

def minutes : Window → Int
| .m1 => 1
| .m5 => 5
| .h1 => 60
| .h24 => 1440

/- The window length in milliseconds. -/
def millis (L : Window) : Int :=
  60000 * L.minutes

theorem minutes_le_day
    (L : Window) :
    1 ≤ L.minutes ∧ L.minutes ≤ 1440 := by
  cases L <;> decide

end Window

end FraudStream

------------------------------------------------------------
-- Buckets
------------------------------------------------------------

namespace FraudStream

namespace Velocity

open BucketLog EventTime

/- The number of transactions and their amount. -/
abbrev Aggregate := ℕ × ℚ

/- The aggregate of each window. -/
abbrev Velocities := Window → Aggregate

abbrev Buckets := Dict Int Aggregate

/- 24 hours, 10 seconds out of order, 31 seconds late. -/
def retentionMs : Int := (24 * 3600 + 41) * 1000

def idleTtlMs : Int := 7 * 24 * 3600 * 1000

/- No watermark has been assigned yet. -/
def noWatermark : Int := -9223372036854775808

def bucketKey (eventTimeMs : Int) : Int :=
  eventTimeMs / 60000

/- The first bucket that a window reads. -/
def windowCutoff
    (currentBucket : Int)
    (L : Window) : Int :=
  currentBucket - L.minutes

def computeVelocity
    (buckets : Buckets)
    (currentBucket : Int) : Velocities :=
  fun L => buckets.sumWhere (windowCutoff currentBucket L ≤ ·)

/- Count one more transaction in its bucket. -/
def addTransaction
    (buckets : Buckets)
    (eventTimeMs : Int)
    (amount : ℚ) : Buckets :=
  addTo buckets (bucketKey eventTimeMs) (1, amount)

/- Every window of a transaction counts it. -/
theorem computeVelocity_addTransaction
    (buckets : Buckets)
    (eventTimeMs : Int)
    (amount : ℚ)
    (L : Window) :
    computeVelocity
        (addTransaction buckets eventTimeMs amount)
        (bucketKey eventTimeMs) L =
      computeVelocity buckets (bucketKey eventTimeMs) L +
        (1, amount) := by
  have hDay := L.minutes_le_day
  have hReached :
      windowCutoff (bucketKey eventTimeMs) L ≤
        bucketKey eventTimeMs := by
    unfold windowCutoff
    omega
  rw [computeVelocity, addTransaction, addTo,
    Dict.sumWhere_upsert]
  simp [hReached, computeVelocity]

end Velocity

end FraudStream

------------------------------------------------------------
-- Callbacks
------------------------------------------------------------

namespace FraudStream

namespace Velocity

open BucketLog EventTime

/- A transaction at its event time. -/
structure Timed where
  time : Int
  txn : RawTransaction
deriving DecidableEq

namespace Timed

def bucket (e : Timed) : Int :=
  bucketKey e.time

/- What one transaction adds to an aggregate. -/
def weight (e : Timed) : Aggregate :=
  (1, e.txn.amount)

end Timed

/- An enriched transaction, or a dead-letter record on the
   side output. -/
inductive Output (V : Type) where
| enriched : RawTransaction → V → Output V
| late : DlqRecord → Output V
deriving DecidableEq

def Output.map
    {V W : Type}
    (f : V → W) : Output V → Output W
| .enriched txn v => .enriched txn (f v)
| .late r => .late r

/- The enriched transactions among the outputs. -/
def enriched
    {V : Type}
    (outs : List (Int × Output V)) :
    List (Timed × V) :=
  outs.filterMap (fun out =>
    match out.2 with
    | .enriched txn v => some (⟨out.1, txn⟩, v)
    | .late _ => none)

/- An element is late beyond the allowed lateness. -/
def IsLate
    (allowedLatenessMs watermark eventTimeMs : Int) : Prop :=
  watermark ≠ noWatermark ∧
    eventTimeMs < watermark - allowedLatenessMs

instance
    (allowedLatenessMs watermark eventTimeMs : Int) :
    Decidable
      (IsLate allowedLatenessMs watermark eventTimeMs) := by
  unfold IsLate
  infer_instance

def lateRecord
    (allowedLatenessMs watermark eventTimeMs : Int)
    (txn : RawTransaction) : DlqRecord :=
  buildDlqRecord "txn.api" 0 0 []
    "LATE_EVENT_BEYOND_ALLOWED_LATENESS"
    ("event_time=" ++ toString eventTimeMs ++ " is " ++
      toString (watermark - eventTimeMs) ++
      "ms behind watermark (allowed=" ++
      toString allowedLatenessMs ++ "ms)")
    (some txn.transactionId)
    (some watermark)
    (some eventTimeMs)

/- The timers that an accepted element registers. -/
def elementTimers (eventTimeMs : Int) : List Int :=
  [eventTimeMs + retentionMs, eventTimeMs + idleTtlMs]

def processElement
    (allowedLatenessMs eventTimeMs currentWatermark : Int)
    (txn : RawTransaction)
    (buckets : Buckets) :
    Effect Buckets (Output Velocities) :=
  if IsLate allowedLatenessMs currentWatermark
      eventTimeMs then
    { state := buckets
      timers := []
      output :=
        [.late (lateRecord allowedLatenessMs
          currentWatermark eventTimeMs txn)] }
  else
    let updated :=
      addTransaction buckets eventTimeMs txn.amount
    { state := updated
      timers := elementTimers eventTimeMs
      output :=
        [.enriched txn
          (computeVelocity updated
            (bucketKey eventTimeMs))] }

/- The first bucket that a timer keeps. -/
def cutoffBucket (timestamp : Int) : Int :=
  bucketKey (timestamp - retentionMs)

/- Remove the stale buckets. Clearing a map that is left
   empty changes nothing. -/
def onTimer
    (timestamp : Int)
    (buckets : Buckets) : Buckets :=
  buckets.keepKeys (fun bk => !(bk < cutoffBucket timestamp))

def operator
    (allowedLatenessMs : Int) :
    Operator Buckets RawTransaction (Output Velocities) where
  init := Dict.empty
  processElement := processElement allowedLatenessMs
  onTimer := onTimer

/- The in-memory state and velocity of the test method. -/
def processElementPure
    (eventTimeMs : Int)
    (amount : ℚ)
    (state : Buckets) : Buckets × Velocities :=
  let updated := addTransaction state eventTimeMs amount
  (updated, computeVelocity updated (bucketKey eventTimeMs))

end Velocity

end FraudStream

------------------------------------------------------------
-- Accepted Transactions
------------------------------------------------------------

namespace FraudStream

namespace Velocity

open BucketLog EventTime

/- The inputs that are not late, in arrival order. -/
def accepted
    (allowedLatenessMs : Int)
    (evs : List (Event RawTransaction)) : List Timed :=
  ((Event.arrivals evs).filter (fun a =>
    !(IsLate allowedLatenessMs a.watermark
      a.timestamp))).map
    (fun a => ⟨a.timestamp, a.value⟩)

@[simp] theorem accepted_nil
    (allowedLatenessMs : Int) :
    accepted allowedLatenessMs [] = [] := rfl

theorem accepted_concat_late
    {allowedLatenessMs t : Int}
    {evs : List (Event RawTransaction)}
    (txn : RawTransaction)
    (hLate :
      IsLate allowedLatenessMs
        (Event.lastWatermark evs) t) :
    accepted allowedLatenessMs
        (evs ++ [.element t txn]) =
      accepted allowedLatenessMs evs := by
  simp [accepted, hLate]

theorem accepted_concat_element
    {allowedLatenessMs t : Int}
    {evs : List (Event RawTransaction)}
    (txn : RawTransaction)
    (hAccepted :
      ¬ IsLate allowedLatenessMs
        (Event.lastWatermark evs) t) :
    accepted allowedLatenessMs
        (evs ++ [.element t txn]) =
      accepted allowedLatenessMs evs ++ [⟨t, txn⟩] := by
  simp [accepted, hAccepted]

@[simp] theorem accepted_concat_watermark
    (allowedLatenessMs w : Int)
    (evs : List (Event RawTransaction))
    (order : List Int) :
    accepted allowedLatenessMs
        (evs ++ [.watermark w order]) =
      accepted allowedLatenessMs evs := by
  simp [accepted]

end Velocity

end FraudStream
