import FraudStream.Processing.Velocity.Operator

/-
  The velocity operator over the transactions it retains.

  The state of the abstract operator is the list of retained
  transactions, and a window reports the transactions it
  counts. Buckets with exact sums represent that list: both
  operators have the same runs, and an emitted velocity is
  the number and the amount of the counted transactions.

  Buckets that a late element can still need are never
  removed: above the cutoff of the watermark, the retained
  and the accepted transactions agree.

  Key definitions include:
    * `RetainedLog.counted`
    * `RetainedLog.operator`
    * `RetainedLog.Covers`
    * `Timely`

  The results are:
    * `RetainedLog.run_refines`
    * `RetainedLog.exact_run_of_log_run`
    * `RetainedLog.covers_of_run`
    * `RetainedLog.counted_eq_of_timely`
-/

------------------------------------------------------------
-- Retained Transactions
------------------------------------------------------------

namespace FraudStream

namespace Velocity

namespace RetainedLog

open BucketLog EventTime

/- The transactions that each window counts. -/
abbrev Counted := Window → List Timed

/- The number and the amount of a list of transactions. -/
def aggregate (es : List Timed) : Aggregate :=
  (es.length, (es.map (fun e => e.txn.amount)).sum)

/- The transactions in the buckets of each window. -/
def counted
    (log : List Timed)
    (currentBucket : Int) : Counted :=
  fun L =>
    within Timed.bucket (windowCutoff currentBucket L ≤ ·)
      log

/- The aggregates of the counted transactions. -/
def totals (c : Counted) : Velocities :=
  fun L => aggregate (c L)

def processElement
    (allowedLatenessMs eventTimeMs currentWatermark : Int)
    (txn : RawTransaction)
    (log : List Timed) :
    Effect (List Timed) (Output Counted) :=
  if IsLate allowedLatenessMs currentWatermark
      eventTimeMs then
    { state := log
      timers := []
      output :=
        [.late (lateRecord allowedLatenessMs
          currentWatermark eventTimeMs txn)] }
  else
    { state := log ++ [⟨eventTimeMs, txn⟩]
      timers := elementTimers eventTimeMs
      output :=
        [.enriched txn
          (counted (log ++ [⟨eventTimeMs, txn⟩])
            (bucketKey eventTimeMs))] }

def onTimer
    (timestamp : Int)
    (log : List Timed) : List Timed :=
  within Timed.bucket
    (fun bk => !(bk < cutoffBucket timestamp)) log

def operator
    (allowedLatenessMs : Int) :
    Operator (List Timed) RawTransaction (Output Counted) where
  init := []
  processElement := processElement allowedLatenessMs
  onTimer := onTimer

end RetainedLog

end Velocity

end FraudStream

------------------------------------------------------------
-- Refinement
------------------------------------------------------------

namespace FraudStream

namespace Velocity

namespace RetainedLog

open BucketLog EventTime

theorem total_weight
    (es : List Timed) :
    total Timed.weight es = aggregate es := by
  induction es with
  | nil => rfl
  | cons e es ih =>
      have hSplit :
          total Timed.weight (e :: es) =
            e.weight + total Timed.weight es := by
        simp [total]
      rw [hSplit, ih]
      simp [aggregate, Timed.weight, add_comm]

/- The buckets hold the totals of the retained log. -/
def Holds
    (buckets : Buckets)
    (log : List Timed) : Prop :=
  Represents Timed.bucket Timed.weight buckets log

theorem computeVelocity_of_holds
    {buckets : Buckets}
    {log : List Timed}
    (hHolds : Holds buckets log)
    (currentBucket : Int) :
    computeVelocity buckets currentBucket =
      totals (counted log currentBucket) := by
  funext L
  rw [computeVelocity, hHolds, total_weight]
  rfl

theorem holds_addTransaction
    {buckets : Buckets}
    {log : List Timed}
    (hHolds : Holds buckets log)
    (e : Timed) :
    Holds (addTransaction buckets e.time e.txn.amount)
      (log ++ [e]) :=
  hHolds.add e

/- One element keeps the buckets and the log together. -/
theorem processElement_refines
    (allowedLatenessMs t w : Int)
    (txn : RawTransaction)
    {buckets : Buckets}
    {log : List Timed}
    (hHolds : Holds buckets log) :
    let effect :=
      Velocity.processElement allowedLatenessMs t w txn
        buckets
    let logEffect :=
      processElement allowedLatenessMs t w txn log
    Holds effect.state logEffect.state ∧
      effect.timers = logEffect.timers ∧
      List.Forall₂ (fun a b => a = b.map totals)
        effect.output logEffect.output := by
  have hAdd := holds_addTransaction hHolds ⟨t, txn⟩
  by_cases hLate : IsLate allowedLatenessMs w t
  · simp [Velocity.processElement, processElement, hLate,
      hHolds, Output.map]
  · have hVelocity :=
      computeVelocity_of_holds hAdd (bucketKey t)
    simp [Velocity.processElement, processElement, hLate,
      hAdd, hVelocity, Output.map]

theorem onTimer_refines
    (timestamp : Int)
    {buckets : Buckets}
    {log : List Timed}
    (hHolds : Holds buckets log) :
    Holds (Velocity.onTimer timestamp buckets)
      (onTimer timestamp log) :=
  hHolds.keep _

theorem eq_map_totals
    {outs : List (Int × Output Velocities)}
    {logOuts : List (Int × Output Counted)}
    (hOuts :
      List.Forall₂
        (fun a b => a.1 = b.1 ∧ a.2 = b.2.map totals)
        outs logOuts) :
    outs = logOuts.map (Prod.map id (Output.map totals)) := by
  induction hOuts with
  | nil => rfl
  | cons hHead hTail ih =>
      rw [List.map_cons, ← ih]
      congr 1
      exact Prod.ext hHead.1 hHead.2

/-
  Every run of the exact sums is a run of the abstract
  operator; its velocities are the totals of what is
  counted.
-/
theorem run_refines
    {allowedLatenessMs : Int}
    {evs : List (Event RawTransaction)}
    {rt : Runtime Buckets}
    {outs : List (Int × Output Velocities)}
    (hRun :
      (Velocity.operator allowedLatenessMs).run? evs =
        some (rt, outs)) :
    ∃ logRt logOuts,
      (operator allowedLatenessMs).run? evs =
          some (logRt, logOuts) ∧
        Holds rt.state logRt.state ∧
        rt.watermark = logRt.watermark ∧
        outs = logOuts.map
          (Prod.map id (Output.map totals)) := by
  have hInit :
      Holds (Velocity.operator allowedLatenessMs).init
        (operator allowedLatenessMs).init :=
    represents_empty Timed.bucket Timed.weight
  rcases
    Operator.run_simulation hInit
      (fun t w txn _ _ hHolds =>
        processElement_refines allowedLatenessMs t w txn
          hHolds)
      (fun t _ _ hHolds => onTimer_refines t hHolds)
      hRun with
    ⟨logRt, logOuts, hLogRun, hHolds, -, hMark, hOuts⟩
  exact
    ⟨logRt, logOuts, hLogRun, hHolds, hMark,
      eq_map_totals hOuts⟩

end RetainedLog

end Velocity

end FraudStream

------------------------------------------------------------
-- Eviction
------------------------------------------------------------

namespace FraudStream

namespace Velocity

namespace RetainedLog

open BucketLog EventTime

/- From a bucket on, nothing accepted has been removed. -/
def Covers
    (cutoff : Int)
    (log acc : List Timed) : Prop :=
  within Timed.bucket (cutoff ≤ ·) log =
    within Timed.bucket (cutoff ≤ ·) acc

theorem Covers.of_le
    {cutoff later : Int}
    {log acc : List Timed}
    (hCovers : Covers cutoff log acc)
    (hLe : cutoff ≤ later) :
    Covers later log acc := by
  have hImp :
      ∀ k : Int, decide (later ≤ k) →
        decide (cutoff ≤ k) := by
    intro k hk
    simp only [decide_eq_true_eq] at hk ⊢
    omega
  unfold Covers
  rw [← within_within_of_imp Timed.bucket log hImp,
    ← within_within_of_imp Timed.bucket acc hImp, hCovers]

theorem Covers.append
    {cutoff : Int}
    {log acc : List Timed}
    (hCovers : Covers cutoff log acc)
    (es : List Timed) :
    Covers cutoff (log ++ es) (acc ++ es) := by
  unfold Covers
  rw [within_append, within_append, hCovers]

/- A timer up to the cutoff removes nothing that counts. -/
theorem Covers.onTimer
    {cutoff timestamp : Int}
    {log acc : List Timed}
    (hCovers : Covers cutoff log acc)
    (hTimer : cutoffBucket timestamp ≤ cutoff) :
    Covers cutoff (RetainedLog.onTimer timestamp log)
      acc := by
  unfold Covers RetainedLog.onTimer
  rw [within_within_of_imp, hCovers]
  intro k hk
  simp only [decide_eq_true_eq, Bool.not_eq_true',
    decide_eq_false_iff_not] at hk ⊢
  omega

theorem cutoffBucket_mono
    {t w : Int}
    (hLe : t ≤ w) :
    cutoffBucket t ≤ cutoffBucket w := by
  unfold cutoffBucket bucketKey
  omega

/-
  What an element does to the log and to what was accepted:
  nothing when it is late, else it is added to both.
-/
theorem afterElement_cases
    {allowedLatenessMs : Int}
    {evs : List (Event RawTransaction)}
    {rt : Runtime (List Timed)}
    {outs : List (Int × Output Counted)}
    (hRun :
      (operator allowedLatenessMs).run? evs =
        some (rt, outs))
    (t : Int)
    (txn : RawTransaction) :
    (((operator allowedLatenessMs).afterElement rt t
          txn).state = rt.state ∧
        accepted allowedLatenessMs
            (evs ++ [.element t txn]) =
          accepted allowedLatenessMs evs) ∨
      (((operator allowedLatenessMs).afterElement rt t
            txn).state = rt.state ++ [⟨t, txn⟩] ∧
        accepted allowedLatenessMs
            (evs ++ [.element t txn]) =
          accepted allowedLatenessMs evs ++ [⟨t, txn⟩]) := by
  have hMark := Operator.run_watermark hRun
  by_cases hLate : IsLate allowedLatenessMs rt.watermark t
  · left
    refine
      ⟨?_, accepted_concat_late txn (hMark ▸ hLate)⟩
    simp [Operator.afterElement, KeyState.process, operator,
      processElement, hLate]
  · right
    refine
      ⟨?_, accepted_concat_element txn (hMark ▸ hLate)⟩
    simp [Operator.afterElement, KeyState.process, operator,
      processElement, hLate]

/-
  Above the cutoff of the watermark the retained log is
  complete. A fired timer is not ahead of the watermark, so
  neither is what it removes.
-/
theorem covers_of_run
    {allowedLatenessMs : Int}
    {evs : List (Event RawTransaction)}
    {rt : Runtime (List Timed)}
    {outs : List (Int × Output Counted)}
    (hRun :
      (operator allowedLatenessMs).run? evs =
        some (rt, outs)) :
    Covers (cutoffBucket rt.watermark) rt.state
      (accepted allowedLatenessMs evs) := by
  induction hRun using Operator.run_induction with
  | start => rfl
  | element evs rt outs t txn hPrefix hRun hLong ih =>
      rcases afterElement_cases hPrefix t txn with
        ⟨hState, hAccepted⟩ | ⟨hState, hAccepted⟩
      · rw [hState, hAccepted]
        exact ih
      · rw [hState, hAccepted]
        exact ih.append [⟨t, txn⟩]
  | watermark evs rt outs w order hPrefix hRun hMono hLong
      hFiring ih =>
      rw [accepted_concat_watermark]
      have hStart := ih.of_le (cutoffBucket_mono hMono)
      apply fireAll_induction
        (P := fun log =>
          Covers (cutoffBucket w) log
            (accepted allowedLatenessMs evs))
        hStart
      intro timestamp hMem log hCovers
      have hDue := (hFiring.mem_iff timestamp).1 hMem
      exact hCovers.onTimer (cutoffBucket_mono hDue.2)

/- Everything retained was accepted. -/
theorem retained_sublist_of_run
    {allowedLatenessMs : Int}
    {evs : List (Event RawTransaction)}
    {rt : Runtime (List Timed)}
    {outs : List (Int × Output Counted)}
    (hRun :
      (operator allowedLatenessMs).run? evs =
        some (rt, outs)) :
    rt.state.Sublist (accepted allowedLatenessMs evs) := by
  induction hRun using Operator.run_induction with
  | start => exact List.Sublist.refl []
  | element evs rt outs t txn hPrefix hRun hLong ih =>
      rcases afterElement_cases hPrefix t txn with
        ⟨hState, hAccepted⟩ | ⟨hState, hAccepted⟩
      · rw [hState, hAccepted]
        exact ih
      · rw [hState, hAccepted]
        exact ih.append (List.Sublist.refl _)
  | watermark evs rt outs w order hPrefix hRun hMono hLong
      hFiring ih =>
      rw [accepted_concat_watermark]
      apply fireAll_induction
        (P := fun log : List Timed =>
          log.Sublist (accepted allowedLatenessMs evs)) ih
      intro timestamp _ log hSub
      exact List.filter_sublist.trans hSub

end RetainedLog

open EventTime

/- The slack that the retention adds to the longest window. -/
def retentionSlackMs : Int :=
  retentionMs - Window.millis .h24

/- An element is no further behind the watermark than the
   retention allows for. -/
def Timely (watermark eventTimeMs : Int) : Prop :=
  watermark = noWatermark ∨
    watermark - retentionSlackMs ≤ eventTimeMs

instance (watermark eventTimeMs : Int) :
    Decidable (Timely watermark eventTimeMs) := by
  unfold Timely
  infer_instance

/- With a small lateness, accepted elements are timely. -/
theorem timely_of_not_isLate
    {allowedLatenessMs watermark t : Int}
    (hAllowed : allowedLatenessMs ≤ 41000)
    (hAccepted : ¬ IsLate allowedLatenessMs watermark t) :
    Timely watermark t := by
  unfold IsLate at hAccepted
  unfold Timely
  have hSlack : retentionSlackMs = 41000 := by decide
  rw [hSlack]
  omega

/- The cutoff of the watermark is below every window of a
   timely element. -/
theorem cutoffBucket_le_windowCutoff
    {watermark t : Int}
    (hTimely : Timely watermark t)
    (hLong : IsLong t)
    (L : Window) :
    cutoffBucket watermark ≤
      windowCutoff (bucketKey t) L := by
  have hDay := (L.minutes_le_day).2
  have hRetention : retentionMs = 86441000 := by decide
  have hSlack : retentionSlackMs = 41000 := by decide
  unfold IsLong minLong at hLong
  unfold Timely noWatermark at hTimely
  unfold cutoffBucket windowCutoff bucketKey
  rw [hSlack] at hTimely
  rw [hRetention]
  omega

namespace RetainedLog

open BucketLog EventTime

/- What an accepted element counts. -/
theorem emit_of_accepted
    {allowedLatenessMs t : Int}
    {rt : Runtime (List Timed)}
    (txn : RawTransaction)
    (hAccepted :
      ¬ IsLate allowedLatenessMs rt.watermark t) :
    (operator allowedLatenessMs).emit rt t txn =
      [(t, .enriched txn
        (counted (rt.state ++ [⟨t, txn⟩])
          (bucketKey t)))] := by
  simp [Operator.emit, operator, processElement, hAccepted]

/- A timely element counts from everything accepted. -/
theorem counted_eq_of_timely
    {allowedLatenessMs t : Int}
    {evs : List (Event RawTransaction)}
    {rt : Runtime (List Timed)}
    {outs : List (Int × Output Counted)}
    (txn : RawTransaction)
    (hRun :
      (operator allowedLatenessMs).run? evs =
        some (rt, outs))
    (hTimely : Timely rt.watermark t)
    (hLong : IsLong t) :
    counted (rt.state ++ [⟨t, txn⟩]) (bucketKey t) =
      counted (accepted allowedLatenessMs evs ++ [⟨t, txn⟩])
        (bucketKey t) := by
  funext L
  have hCutoff :=
    cutoffBucket_le_windowCutoff hTimely hLong L
  exact ((covers_of_run hRun).append _).of_le hCutoff

end RetainedLog

end Velocity

end FraudStream
