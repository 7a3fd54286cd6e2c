import FraudStream.Processing.Velocity.Operator

/-
  Idle accounts hold no buckets.

  A bucket is held for a transaction whose seven-day timer
  is still to fire: that timer removes every bucket up to
  its transaction, in whatever order the timers fire. Once
  the watermark has passed all these timers and they have
  fired, no bucket is left.

  Key definitions include:
    * `TimerPends`

  The main results are:
    * `timerPends_of_run`
    * `idle_account_is_empty`
-/

------------------------------------------------------------
-- What Elements Add And Timers Remove
------------------------------------------------------------

namespace FraudStream

namespace Velocity

open BucketLog EventTime

/- A bucket is present after a write when it was before or
   is the one written. -/
theorem mem_keys_addTransaction_iff
    (buckets : Buckets)
    (t : Int)
    (amount : ℚ)
    (bk : Int) :
    bk ∈ (addTransaction buckets t amount).keys ↔
      bk = bucketKey t ∨ bk ∈ buckets.keys :=
  Dict.mem_keys_putEntries_iff _ _ _ bk

theorem mem_keys_onTimer_iff
    (timestamp : Int)
    (buckets : Buckets)
    (bk : Int) :
    bk ∈ (onTimer timestamp buckets).keys ↔
      bk ∈ buckets.keys ∧ cutoffBucket timestamp ≤ bk := by
  simp only [onTimer, Dict.keepKeys, Dict.keys,
    List.mem_map, List.mem_filter, Bool.not_eq_true',
    decide_eq_false_iff_not, not_lt]
  constructor
  · rintro ⟨e, ⟨hMem, hKept⟩, rfl⟩
    exact ⟨⟨e, hMem, rfl⟩, hKept⟩
  · rintro ⟨⟨e, hMem, rfl⟩, hKept⟩
    exact ⟨e, ⟨hMem, hKept⟩, rfl⟩

/- A bucket survives the timers that fire when each of them
   keeps it. -/
theorem mem_keys_fireAll
    {allowedLatenessMs : Int}
    {order : List Int}
    {buckets : Buckets}
    {bk : Int}
    (hMem :
      bk ∈ (fireAll (operator allowedLatenessMs) order
        buckets).keys) :
    bk ∈ buckets.keys ∧
      ∀ timestamp ∈ order, cutoffBucket timestamp ≤ bk := by
  induction order generalizing buckets with
  | nil => exact ⟨hMem, by simp⟩
  | cons timestamp order ih =>
      rcases ih hMem with ⟨hAfter, hRest⟩
      rcases (mem_keys_onTimer_iff timestamp buckets bk).1
        hAfter with ⟨hBefore, hKept⟩
      refine ⟨hBefore, ?_⟩
      intro later hLater
      rcases List.mem_cons.1 hLater with rfl | hIn
      · exact hKept
      · exact hRest later hIn

/- The seven-day timer of a transaction removes its bucket. -/
theorem bucketKey_lt_cutoffBucket
    (t : Int) :
    bucketKey t < cutoffBucket (t + idleTtlMs) := by
  have hRetention : retentionMs = 86441000 := by decide
  have hIdle : idleTtlMs = 604800000 := by decide
  unfold cutoffBucket bucketKey
  rw [hRetention, hIdle]
  omega

end Velocity

end FraudStream

------------------------------------------------------------
-- Pending Timers
------------------------------------------------------------

namespace FraudStream

namespace Velocity

open BucketLog EventTime

/- Each bucket is that of an accepted transaction whose
   seven-day timer is to fire. -/
def TimerPends
    (acc : List Timed)
    (ks : KeyState Buckets) : Prop :=
  ∀ bk ∈ ks.state.keys,
    ∃ e ∈ acc,
      e.bucket = bk ∧ e.time + idleTtlMs ∈ ks.timers

/- An element adds its own bucket and its timers. -/
theorem TimerPends.process
    {allowedLatenessMs w t : Int}
    {acc : List Timed}
    {ks : KeyState Buckets}
    (hPends : TimerPends acc ks)
    (txn : RawTransaction)
    (hAccepted : ¬ IsLate allowedLatenessMs w t) :
    TimerPends (acc ++ [⟨t, txn⟩])
      (ks.process (operator allowedLatenessMs) t w txn) := by
  intro bk hMem
  simp only [KeyState.process, operator, processElement,
    hAccepted, if_false, elementTimers] at hMem ⊢
  rcases (mem_keys_addTransaction_iff ..).1 hMem with
    rfl | hOld
  · exact ⟨⟨t, txn⟩, by simp, rfl, by simp⟩
  · rcases hPends bk hOld with ⟨e, hIn, hBucket, hTimer⟩
    exact ⟨e, by simp [hIn], hBucket, by simp [hTimer]⟩

/- A bucket that survives the firing has a timer that has not
   fired. -/
theorem TimerPends.fire
    {allowedLatenessMs w : Int}
    {acc : List Timed}
    {ks : KeyState Buckets}
    {order : List Int}
    (hPends : TimerPends acc ks)
    (hFiring : ks.Firing w order) :
    TimerPends acc
      (ks.fire (operator allowedLatenessMs) w order) := by
  intro bk hMem
  rcases mem_keys_fireAll hMem with ⟨hOld, hKept⟩
  rcases hPends bk hOld with ⟨e, hIn, hBucket, hTimer⟩
  have hNotDue : ¬ e.time + idleTtlMs ≤ w := by
    intro hDue
    have hCutoff :=
      hKept _ ((hFiring.mem_iff _).2 ⟨hTimer, hDue⟩)
    have hBelow := bucketKey_lt_cutoffBucket e.time
    rw [← hBucket, Timed.bucket] at hCutoff
    omega
  refine ⟨e, hIn, hBucket, ?_⟩
  rw [KeyState.fire, Finset.mem_filter]
  exact ⟨hTimer, by omega⟩

theorem timerPends_of_run
    {allowedLatenessMs : Int}
    {evs : List (Event RawTransaction)}
    {rt : Runtime Buckets}
    {outs : List (Int × Output Velocities)}
    (hRun :
      (operator allowedLatenessMs).run? evs =
        some (rt, outs)) :
    TimerPends (accepted allowedLatenessMs evs)
      rt.toKeyState := by
  induction hRun using Operator.run_induction with
  | start =>
      intro bk hMem
      cases hMem
  | element evs rt outs t txn hPrefix hRun hLong ih =>
      have hMark := Operator.run_watermark hPrefix
      by_cases hLate :
          IsLate allowedLatenessMs rt.watermark t
      · rw [accepted_concat_late txn (hMark ▸ hLate)]
        simpa [TimerPends, Operator.afterElement,
          KeyState.process, operator, processElement, hLate]
          using ih
      · rw [accepted_concat_element txn (hMark ▸ hLate)]
        exact ih.process txn hLate
  | watermark evs rt outs w order hPrefix hRun hMono hLong
      hFiring ih =>
      rw [accepted_concat_watermark]
      exact ih.fire hFiring

/-
  An account holds no buckets when the watermark is seven
  days past its last accepted transaction and every due
  timer has fired.
-/
theorem idle_account_is_empty
    {allowedLatenessMs lastMs : Int}
    {evs : List (Event RawTransaction)}
    {rt : Runtime Buckets}
    {outs : List (Int × Output Velocities)}
    (hRun :
      (operator allowedLatenessMs).run? evs =
        some (rt, outs))
    (hLast :
      ∀ e ∈ accepted allowedLatenessMs evs,
        e.time ≤ lastMs)
    (hReached : lastMs + idleTtlMs ≤ rt.watermark)
    (hFired : rt.toKeyState.due rt.watermark = ∅) :
    rt.state = Dict.empty := by
  have hNone : ∀ bk, bk ∉ rt.state.keys := by
    intro bk hMem
    rcases timerPends_of_run hRun bk hMem with
      ⟨e, hIn, -, hTimer⟩
    have hTime := hLast e hIn
    have hDue :
        e.time + idleTtlMs ∈
          rt.toKeyState.due rt.watermark := by
      rw [KeyState.due, Finset.mem_filter]
      exact ⟨hTimer, by omega⟩
    rw [hFired] at hDue
    cases hDue
  apply Dict.ext
  exact
    List.map_eq_nil_iff.1
      (List.eq_nil_iff_forall_not_mem.2 hNone)

/- One transaction, and a watermark seven days later. -/
theorem idle_account_is_empty_week :
    ∃ rt outs,
      (operator 30000).run?
          [.element 0 (sampleTransaction "txn-1" 0),
            .watermark idleTtlMs [idleTtlMs, retentionMs]] =
        some (rt, outs) ∧
      rt.state = Dict.empty := by
  have hRuns :
      ((operator 30000).run?
        [.element 0 (sampleTransaction "txn-1" 0),
          .watermark idleTtlMs
            [idleTtlMs, retentionMs]]).any
        (fun r =>
          r.1.watermark = idleTtlMs ∧
            r.1.toKeyState.due r.1.watermark = ∅) := by
    decide
  rcases (Option.any_eq_true ..).1 hRuns with
    ⟨⟨rt, outs⟩, hRun, hEnd⟩
  rw [decide_eq_true_iff] at hEnd
  have hLast :
      ∀ e ∈ accepted 30000
        [.element 0 (sampleTransaction "txn-1" 0),
          .watermark idleTtlMs [idleTtlMs, retentionMs]],
        e.time ≤ 0 := by
    decide
  have hReached : 0 + idleTtlMs ≤ rt.watermark := by
    rw [hEnd.1]
    decide
  exact
    ⟨rt, outs, hRun,
      idle_account_is_empty hRun hLast hReached hEnd.2⟩

end Velocity

end FraudStream
