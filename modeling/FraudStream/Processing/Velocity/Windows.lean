import FraudStream.Processing.Velocity.Correctness

/-
  What a window reaches, against its length in milliseconds
  and against the present.

  The cutoff is taken on whole minutes, so a window reads up
  to a minute more than its length. No bucket is cut off
  above, so an out-of-order element also counts what is
  already there from later minutes.

  Main declarations:
    * `WithinLength`
    * `PhaseFree`
    * `window_length_of_run`
    * `causalVelocities`
    * `InBucketOrder`
    * `causal_of_run`
-/

------------------------------------------------------------
-- Runs With One Element In Focus
------------------------------------------------------------

namespace FraudStream

namespace Velocity

open BucketLog EventTime RetainedLog

/-
  The outputs of a run hold, after the outputs of the inputs
  before an accepted element, what the element counts.
-/
theorem enriched_at_element
    {allowedLatenessMs t : Int}
    {before after : List (Event RawTransaction)}
    {txn : RawTransaction}
    {rt : Runtime (List Timed)}
    {outs : List (Int × Output Counted)}
    (hRun :
      (RetainedLog.operator allowedLatenessMs).run?
          (before ++ .element t txn :: after) =
        some (rt, outs))
    (hAccepted :
      ¬ IsLate allowedLatenessMs
        (Event.lastWatermark before) t) :
    ∃ rt₀ outs₀ outs₁,
      (RetainedLog.operator allowedLatenessMs).run? before =
          some (rt₀, outs₀) ∧
        IsLong t ∧
        outs =
          outs₀ ++
            (t, .enriched txn
              (counted (rt₀.state ++ [⟨t, txn⟩])
                (bucketKey t))) :: outs₁ := by
  rcases Operator.run_split hRun with
    ⟨rt₀, outs₀, outs₁, hBefore, hLong, rfl⟩
  rw [← Operator.run_watermark hBefore] at hAccepted
  refine ⟨rt₀, outs₀, outs₁, hBefore, hLong, ?_⟩
  rw [emit_of_accepted txn hAccepted]
  simp

end Velocity

end FraudStream

------------------------------------------------------------
-- Window Length
------------------------------------------------------------

namespace FraudStream

namespace Velocity

open BucketLog EventTime RetainedLog

/- Nothing counted is older than the window is long. -/
def WithinLength
    (t : Int)
    (c : Counted) : Prop :=
  ∀ L, ∀ e ∈ c L, t - L.millis ≤ e.time

/-
  No listed transaction lies before the start of a window by
  at most the milliseconds that the current minute has run.
-/
def PhaseFree
    (t : Int)
    (es : List Timed) : Prop :=
  ∀ L : Window, ∀ e ∈ es,
    ¬ (t - L.millis - t % 60000 ≤ e.time ∧
      e.time < t - L.millis)

/- A window reads from the minute of its start on. -/
theorem windowCutoff_le_bucket_iff
    (e e' : Timed)
    (L : Window) :
    windowCutoff e.bucket L ≤ e'.bucket ↔
      e.time - L.millis - e.time % 60000 ≤ e'.time := by
  unfold windowCutoff Timed.bucket bucketKey Window.millis
  omega

theorem withinLength_counted_iff
    (e : Timed)
    (es : List Timed) :
    WithinLength e.time (counted (es ++ [e]) e.bucket) ↔
      PhaseFree e.time es := by
  constructor
  · intro hWithin L e' hMem hOld
    have hReached :=
      (windowCutoff_le_bucket_iff e e' L).2 hOld.1
    have hCounted :
        e' ∈ counted (es ++ [e]) e.bucket L := by
      rw [counted, mem_within_iff]
      exact ⟨by simp [hMem], by simpa using hReached⟩
    have hYoung := hWithin L e' hCounted
    omega
  · intro hPhase L e' hMem
    rw [counted, mem_within_iff] at hMem
    rcases hMem with ⟨hMem, hReached⟩
    have hReached :
        windowCutoff e.bucket L ≤ e'.bucket := by
      simpa using hReached
    rw [windowCutoff_le_bucket_iff] at hReached
    rcases List.mem_append.1 hMem with hEarlier | hSelf
    · have hOld := hPhase L e' hEarlier
      omega
    · have hEq := List.mem_singleton.1 hSelf
      have hDay := L.minutes_le_day
      unfold Window.millis
      rw [hEq]
      omega

/- Fewer transactions leave less to reach. -/
theorem PhaseFree.of_sublist
    {t : Int}
    {es es' : List Timed}
    (hPhase : PhaseFree t es')
    (hSub : es.Sublist es') :
    PhaseFree t es :=
  fun L e hMem => hPhase L e (hSub.subset hMem)

/- A transaction at the start of a minute. -/
def phasePrefix : List (Event RawTransaction) :=
  [.element 0 (sampleTransaction "txn-1" 0)]

/- A transaction at the end of the next minute. -/
def phaseTransaction : RawTransaction :=
  sampleTransaction "txn-2" 119999

def phaseRun : List (Event RawTransaction) :=
  phasePrefix ++ [.element 119999 phaseTransaction]

/- The one-minute window counts a transaction from 119.999
   seconds ago. -/
theorem window_reaches_two_minutes :
    ∃ rt outs logRt logOuts c,
      (operator 30000).run? phaseRun = some (rt, outs) ∧
        (RetainedLog.operator 30000).run? phaseRun =
          some (logRt, logOuts) ∧
        outs =
          logOuts.map (Prod.map id (Output.map totals)) ∧
        (accepted 30000 phaseRun).Pairwise
          (fun a b => a.time ≤ b.time) ∧
        (119999, .enriched phaseTransaction c) ∈ logOuts ∧
        ¬ WithinLength 119999 c := by
  have hRuns :
      ((operator 30000).run? phaseRun).isSome := by decide
  have hAccepted :
      ¬ IsLate 30000 (Event.lastWatermark phasePrefix)
        119999 := by decide
  have hTimely :
      Timely (Event.lastWatermark phasePrefix) 119999 := by
    decide
  rcases Option.isSome_iff_exists.1 hRuns with
    ⟨⟨rt, outs⟩, hRun⟩
  rcases run_refines hRun with
    ⟨logRt, logOuts, hLogRun, -, -, hOuts⟩
  rcases enriched_at_element hLogRun hAccepted with
    ⟨logRt₀, logOuts₀, logOuts₁, hBefore, hLong, rfl⟩
  rw [← Operator.run_watermark hBefore] at hTimely
  refine
    ⟨rt, outs, logRt, _, _, hRun, hLogRun, hOuts,
      by decide,
      List.mem_append_right _ List.mem_cons_self, ?_⟩
  rw [counted_eq_of_timely _ hBefore hTimely hLong]
  intro hWithin
  have hOld :=
    hWithin .m1 ⟨0, sampleTransaction "txn-1" 0⟩ (by decide)
  simp [Window.millis, Window.minutes] at hOld

/-
  Along every run, the windows of an accepted element keep
  their length when no accepted transaction falls into the
  extra part of a minute, and for a lateness that evicts
  nothing only then.
-/
theorem window_length_of_run
    {allowedLatenessMs : Int}
    {evs : List (Event RawTransaction)}
    {rt : Runtime Buckets}
    {outs : List (Int × Output Velocities)}
    (hRun :
      (operator allowedLatenessMs).run? evs =
        some (rt, outs)) :
    ∃ logRt logOuts,
      (RetainedLog.operator allowedLatenessMs).run? evs =
          some (logRt, logOuts) ∧
        outs =
          logOuts.map (Prod.map id (Output.map totals)) ∧
        ∀ before t txn after,
          evs = before ++ .element t txn :: after →
          ¬ IsLate allowedLatenessMs
            (Event.lastWatermark before) t →
          ∃ logRt₀ logOuts₀ c logOuts₁,
            (RetainedLog.operator
                allowedLatenessMs).run? before =
                some (logRt₀, logOuts₀) ∧
              logOuts =
                logOuts₀ ++
                  (t, .enriched txn c) :: logOuts₁ ∧
              (PhaseFree t
                  (accepted allowedLatenessMs before) →
                WithinLength t c) ∧
              (allowedLatenessMs ≤ 41000 →
                WithinLength t c →
                PhaseFree t
                  (accepted allowedLatenessMs before)) := by
  rcases run_refines hRun with
    ⟨logRt, logOuts, hLogRun, -, -, hOuts⟩
  refine ⟨logRt, logOuts, hLogRun, hOuts, ?_⟩
  rintro before t txn after rfl hAccepted
  rcases enriched_at_element hLogRun hAccepted with
    ⟨logRt₀, logOuts₀, logOuts₁, hBefore, hLong, hPosition⟩
  refine
    ⟨logRt₀, logOuts₀, _, logOuts₁, hBefore, hPosition,
      ?_, ?_⟩
  · intro hPhase
    have hSub := retained_sublist_of_run hBefore
    exact
      (withinLength_counted_iff ⟨t, txn⟩ logRt₀.state).2
        (hPhase.of_sublist hSub)
  · intro hAllowed hWithin
    have hTimely := timely_of_not_isLate hAllowed hAccepted
    rw [← Operator.run_watermark hBefore] at hTimely
    rw [counted_eq_of_timely txn hBefore hTimely hLong]
      at hWithin
    exact
      (withinLength_counted_iff ⟨t, txn⟩
        (accepted allowedLatenessMs before)).1 hWithin

/- The run above, whose first element is in focus. -/
theorem window_length_of_phaseRun :
    ∃ rt outs,
      (operator 30000).run? phaseRun = some (rt, outs) ∧
        ∃ logRt logOuts,
          (RetainedLog.operator 30000).run? phaseRun =
              some (logRt, logOuts) ∧
            outs =
              logOuts.map (Prod.map id (Output.map totals)) ∧
            ∃ c, WithinLength 0 c ∧
              (0, .enriched (sampleTransaction "txn-1" 0) c) ∈
                logOuts := by
  have hRuns :
      ((operator 30000).run? phaseRun).isSome := by decide
  rcases Option.isSome_iff_exists.1 hRuns with
    ⟨⟨rt, outs⟩, hRun⟩
  rcases window_length_of_run hRun with
    ⟨logRt, logOuts, hLogRun, hOuts, hElements⟩
  rcases
    hElements [] 0 (sampleTransaction "txn-1" 0)
      [.element 119999 phaseTransaction] rfl (by decide) with
    ⟨-, logOuts₀, c, logOuts₁, -, rfl, hWithin, -⟩
  exact
    ⟨rt, outs, hRun, logRt, _, hLogRun, hOuts, c,
      hWithin (by intro L e hMem; simp at hMem),
      List.mem_append_right _ List.mem_cons_self⟩

end Velocity

end FraudStream

------------------------------------------------------------
-- Later Minutes
------------------------------------------------------------

namespace FraudStream

namespace Velocity

open BucketLog EventTime RetainedLog

/- The velocity from the transactions of no later minute. -/
def causalVelocities
    (acc : List Timed)
    (e : Timed) : Velocities :=
  totals
    (counted (within Timed.bucket (· ≤ e.bucket) (acc ++ [e]))
      e.bucket)

/- No listed transaction is of a later minute. -/
def InBucketOrder
    (t : Int)
    (es : List Timed) : Prop :=
  ∀ e ∈ es, e.bucket ≤ bucketKey t

/- A transaction of a later minute enters every window. -/
theorem inBucketOrder_of_count_le
    {e : Timed}
    {es : List Timed}
    {L : Window}
    (hCount :
      (counted (es ++ [e]) e.bucket L).length ≤
        (counted (within Timed.bucket (· ≤ e.bucket)
          (es ++ [e])) e.bucket L).length) :
    InBucketOrder e.time es := by
  have hSub :
      (counted (within Timed.bucket (· ≤ e.bucket)
          (es ++ [e])) e.bucket L).Sublist
        (counted (es ++ [e]) e.bucket L) :=
    List.filter_sublist.filter _
  have hEq := hSub.eq_of_length_le hCount
  intro e' hMem
  by_contra hLater
  have hDay := (L.minutes_le_day).1
  have hCounted :
      e' ∈ counted (es ++ [e]) e.bucket L := by
    rw [counted, mem_within_iff]
    refine ⟨by simp [hMem], ?_⟩
    simp only [decide_eq_true_eq]
    unfold windowCutoff Timed.bucket at *
    omega
  rw [← hEq, counted, mem_within_iff, mem_within_iff]
    at hCounted
  apply hLater
  exact of_decide_eq_true hCounted.1.2

theorem totals_eq_causal_iff
    (e : Timed)
    (es : List Timed) :
    totals (counted (es ++ [e]) e.bucket) =
        causalVelocities es e ↔
      InBucketOrder e.time es := by
  constructor
  · intro hEq
    have hCount :=
      congrArg (fun v : Velocities => (v .m1).1) hEq
    exact inBucketOrder_of_count_le (L := .m1) hCount.le
  · intro hOrder
    have hAll :
        within Timed.bucket (· ≤ e.bucket) (es ++ [e]) =
          es ++ [e] := by
      apply List.filter_eq_self.2
      intro e' hMem
      simp only [decide_eq_true_eq]
      rcases List.mem_append.1 hMem with hEarlier | hSelf
      · exact hOrder e' hEarlier
      · rw [List.mem_singleton.1 hSelf]
    rw [causalVelocities, hAll]

/- A transaction of the second minute, and a watermark. -/
def leakPrefix : List (Event RawTransaction) :=
  [.element 60000 (sampleTransaction "txn-1" 60000),
    .watermark 60000 []]

/- A transaction of the first minute, twenty seconds behind
   the watermark. -/
def leakTransaction : RawTransaction :=
  sampleTransaction "txn-2" 40000

def leakRun : List (Event RawTransaction) :=
  leakPrefix ++ [.element 40000 leakTransaction]

/- The late transaction counts the one of the next minute. -/
theorem later_minute_is_counted :
    ∃ rt outs v,
      (operator 30000).run? leakRun = some (rt, outs) ∧
        ¬ IsLate 30000 (Event.lastWatermark leakPrefix)
          40000 ∧
        (40000, .enriched leakTransaction v) ∈ outs ∧
        v ≠
          causalVelocities (accepted 30000 leakPrefix)
            ⟨40000, leakTransaction⟩ := by
  have hRuns :
      ((operator 30000).run? leakRun).isSome := by decide
  have hAccepted :
      ¬ IsLate 30000 (Event.lastWatermark leakPrefix)
        40000 := by decide
  have hTimely :
      Timely (Event.lastWatermark leakPrefix) 40000 := by
    decide
  rcases Option.isSome_iff_exists.1 hRuns with
    ⟨⟨rt, outs⟩, hRun⟩
  rcases run_refines hRun with
    ⟨logRt, logOuts, hLogRun, -, -, rfl⟩
  rcases enriched_at_element hLogRun hAccepted with
    ⟨logRt₀, logOuts₀, logOuts₁, hBefore, hLong, rfl⟩
  rw [← Operator.run_watermark hBefore] at hTimely
  refine
    ⟨rt, _, _, hRun, hAccepted,
      List.mem_map_of_mem
        (List.mem_append_right _ List.mem_cons_self), ?_⟩
  rw [counted_eq_of_timely _ hBefore hTimely hLong]
  intro hEq
  have hOrder :=
    (totals_eq_causal_iff ⟨40000, leakTransaction⟩ _).1 hEq
  have hLe :=
    hOrder ⟨60000, sampleTransaction "txn-1" 60000⟩
      (by decide)
  exact absurd hLe (by decide)

/-
  Along every run, the velocity of a timely element ignores
  later minutes exactly when none is there. With a lateness
  that evicts nothing, every accepted element is timely.
-/
theorem causal_of_run
    {allowedLatenessMs : Int}
    {evs : List (Event RawTransaction)}
    {rt : Runtime Buckets}
    {outs : List (Int × Output Velocities)}
    (hRun :
      (operator allowedLatenessMs).run? evs =
        some (rt, outs)) :
    ∀ before t txn after,
      evs = before ++ .element t txn :: after →
      ¬ IsLate allowedLatenessMs
        (Event.lastWatermark before) t →
      ∃ v outs₀ outs₁ rt₀,
        (operator allowedLatenessMs).run? before =
            some (rt₀, outs₀) ∧
          outs = outs₀ ++ (t, .enriched txn v) :: outs₁ ∧
          (Timely (Event.lastWatermark before) t →
            (v =
                causalVelocities
                  (accepted allowedLatenessMs before)
                  ⟨t, txn⟩ ↔
              InBucketOrder t
                (accepted allowedLatenessMs before))) ∧
          (allowedLatenessMs ≤ 41000 →
            Timely (Event.lastWatermark before) t) := by
  rintro before t txn after rfl hAccepted
  rcases Operator.run_split hRun with
    ⟨rt₀, outs₀, outs₁, hBefore, hLong, rfl⟩
  rcases run_refines hBefore with
    ⟨logRt, logOuts, hLogRun, hHolds, hMark, -⟩
  have hLast := Operator.run_watermark hBefore
  rw [← hLast] at hAccepted ⊢
  have hVelocity :=
    computeVelocity_of_holds
      (holds_addTransaction hHolds ⟨t, txn⟩) (bucketKey t)
  refine
    ⟨totals
        (counted (logRt.state ++ [⟨t, txn⟩]) (bucketKey t)),
      outs₀, outs₁, rt₀, hBefore, ?_, ?_, ?_⟩
  · simp [Operator.emit, operator, processElement, hAccepted,
      hVelocity]
  · intro hTimely
    rw [hMark] at hTimely
    rw [counted_eq_of_timely txn hLogRun hTimely hLong]
    exact totals_eq_causal_iff ⟨t, txn⟩ _
  · intro hAllowed
    exact timely_of_not_isLate hAllowed hAccepted

/- The first element of the run above counts itself only. -/
theorem causal_of_leakRun :
    ∃ rt outs v,
      (operator 30000).run? leakRun = some (rt, outs) ∧
        (60000, .enriched (sampleTransaction "txn-1" 60000) v)
          ∈ outs ∧
        v =
          causalVelocities []
            ⟨60000, sampleTransaction "txn-1" 60000⟩ := by
  have hRuns :
      ((operator 30000).run? leakRun).isSome := by decide
  rcases Option.isSome_iff_exists.1 hRuns with
    ⟨⟨rt, outs⟩, hRun⟩
  rcases
    causal_of_run hRun [] 60000
      (sampleTransaction "txn-1" 60000)
      [.watermark 60000 [], .element 40000 leakTransaction]
      rfl (by decide) with
    ⟨v, outs₀, outs₁, -, -, rfl, hIff, -⟩
  have hCausal :=
    (hIff (by decide)).2 (by intro e hMem; simp at hMem)
  exact
    ⟨rt, _, v, hRun,
      List.mem_append_right _ List.mem_cons_self, hCausal⟩

end Velocity

end FraudStream
