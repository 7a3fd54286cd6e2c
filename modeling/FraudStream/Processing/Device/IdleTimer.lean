import Mathlib.Data.List.Chain
import FraudStream.Processing.Device.Operator

/-
  What the idle timers of a device forget.

  Each transaction registers a timer and none is cancelled,
  so the timer of an early transaction forgets a device that
  is still active. Runs on which this never happens are
  those whose watermark, when it passes the timer of any
  transaction, has passed the timer of every one before it.

  Main declarations:
    * `InOrder`
    * `ForgetsOnlyIdle`
    * `TimersPassTogether`
    * `CountsEvery`
    * `forgets_only_idle_iff`
-/

------------------------------------------------------------
-- Runs Of One Device
------------------------------------------------------------

namespace FraudStream

namespace Device

open EventTime

/- The inputs of one device. -/
abbrev Inputs := List (Event GeoEnriched)

/- Event times do not decrease, and the watermark does not
   pass the next event time. -/
def InOrder (evs : Inputs) : Prop :=
  (Event.arrivals evs).Pairwise
      (fun a b => a.timestamp ≤ b.timestamp) ∧
    ∀ a ∈ Event.arrivals evs, a.watermark ≤ a.timestamp

/- Every transaction carries the API key. -/
def HasKey
    (apiKeyId : String)
    (evs : Inputs) : Prop :=
  ∀ a ∈ Event.arrivals evs,
    a.value.txn.apiKeyId = apiKeyId

/- The time at which the timer of a transaction fires. -/
def expiry (a : Arrival GeoEnriched) : Int :=
  a.timestamp + idleTtlMs

/-
  Whenever a timer fires on a device with a profile, every
  transaction of the device is at least seven days old.
-/
def ForgetsOnlyIdle (evs : Inputs) : Prop :=
  Event.EveryAdvance
    (fun before w order =>
      ∀ rt outs,
        operator.run? before = some (rt, outs) →
        rt.state.isSome →
        order ≠ [] →
        ∀ a ∈ Event.arrivals before, expiry a ≤ w)
    evs

/-
  Whenever the watermark passes the timer of a transaction,
  it has passed the timer of every transaction so far.
-/
def TimersPassTogether (evs : Inputs) : Prop :=
  Event.EveryAdvance
    (fun before w _ =>
      ∀ a ∈ Event.arrivals before,
        Event.lastWatermark before < expiry a →
        expiry a ≤ w →
        ∀ b ∈ Event.arrivals before, expiry b ≤ w)
    evs

/- Consecutive transactions are under seven days apart. -/
def NeverIdle (evs : Inputs) : Prop :=
  (Event.arrivals evs).IsChain
    (fun a b => b.timestamp - a.timestamp < idleTtlMs)

/- The i-th transaction reports the count i, and the time of
   the first transaction. -/
def CountsEvery
    (evs : Inputs)
    (outs : List (Int × DeviceEnriched)) : Prop :=
  outs.length = (Event.arrivals evs).length ∧
    ∀ i out, outs[i]? = some out →
      out.2.device.deviceTxnCount = some (i + 1) ∧
        out.2.device.deviceFirstSeen =
          (Event.arrivals evs).head?.map (·.timestamp)

theorem InOrder.of_concat
    {evs : Inputs}
    {e : Event GeoEnriched}
    (hOrder : InOrder (evs ++ [e])) :
    InOrder evs := by
  cases e with
  | element t x =>
      simp only [InOrder, Event.arrivals_concat_element,
        List.pairwise_append, List.mem_append] at hOrder
      exact
        ⟨hOrder.1.1, fun a hMem => hOrder.2 a (.inl hMem)⟩
  | watermark w order =>
      simpa [InOrder] using hOrder

theorem HasKey.of_concat
    {apiKeyId : String}
    {evs : Inputs}
    {e : Event GeoEnriched}
    (hKey : HasKey apiKeyId (evs ++ [e])) :
    HasKey apiKeyId evs := by
  cases e with
  | element t x =>
      intro a hMem
      exact hKey a (by simp [hMem])
  | watermark w order =>
      simpa [HasKey] using hKey

/- A last element is not behind its watermark. -/
theorem InOrder.watermark_le
    {evs : Inputs}
    {t : Int}
    {x : GeoEnriched}
    (hOrder : InOrder (evs ++ [.element t x])) :
    Event.lastWatermark evs ≤ t := by
  have hLast :=
    hOrder.2 ⟨t, Event.lastWatermark evs, x⟩ (by simp)
  exact hLast

/- A last element carries the API key. -/
theorem HasKey.last
    {apiKeyId : String}
    {evs : Inputs}
    {t : Int}
    {x : GeoEnriched}
    (hKey : HasKey apiKeyId (evs ++ [.element t x])) :
    x.txn.apiKeyId = apiKeyId := by
  have hLast :=
    hKey ⟨t, Event.lastWatermark evs, x⟩ (by simp)
  exact hLast

/- The effect of an element with an API key. -/
theorem processElement_of_key
    {x : GeoEnriched}
    (hKey : x.txn.apiKeyId ≠ "")
    (t w : Int)
    (current : Option DeviceProfileState) :
    processElement t w x current =
      { state :=
          some (updatedProfile t x.geo.geoCountry current)
        timers := [t + idleTtlMs]
        output :=
          [{ x with
            device :=
              deviceFields current
                (updatedProfile t x.geo.geoCountry
                  current) }] } := by
  simp [processElement, hKey]

end Device

end FraudStream

------------------------------------------------------------
-- Pending Timers And Profiles
------------------------------------------------------------

namespace FraudStream

namespace Device

open EventTime

/- The pending timers are those the watermark has not
   passed. -/
theorem mem_timers_iff
    {apiKeyId : String}
    (hNonempty : apiKeyId ≠ "")
    {evs : Inputs}
    {rt : Runtime (Option DeviceProfileState)}
    {outs : List (Int × DeviceEnriched)}
    (hRun : operator.run? evs = some (rt, outs))
    (hOrder : InOrder evs)
    (hKey : HasKey apiKeyId evs)
    (timer : Int) :
    timer ∈ rt.timers ↔
      rt.watermark < timer ∧
        ∃ a ∈ Event.arrivals evs, timer = expiry a := by
  induction hRun using Operator.run_induction with
  | start => simp [Operator.start]
  | element evs rt outs t x hPrefix hRun hLong ih =>
      have hBehind := hOrder.watermark_le
      rw [← Operator.run_watermark hPrefix] at hBehind
      have hOwn : x.txn.apiKeyId ≠ "" := by
        rw [hKey.last]
        exact hNonempty
      have hTtl : 0 < idleTtlMs := by decide
      simp only [Operator.afterElement, KeyState.process,
        operator, processElement_of_key hOwn,
        Finset.mem_union, List.toFinset_cons,
        List.toFinset_nil, Finset.mem_insert,
        Finset.notMem_empty, or_false,
        ih hOrder.of_concat hKey.of_concat,
        Event.arrivals_concat_element, List.mem_append,
        List.mem_singleton]
      constructor
      · rintro (⟨hPending, a, hMem, rfl⟩ | rfl)
        · exact ⟨hPending, a, .inl hMem, rfl⟩
        · exact ⟨by omega, _, .inr rfl, rfl⟩
      · rintro ⟨hPending, a, hMem | rfl, rfl⟩
        · exact .inl ⟨hPending, a, hMem, rfl⟩
        · exact .inr rfl
  | watermark evs rt outs w order hPrefix hRun hMono hLong
      hFiring ih =>
      simp only [Operator.afterWatermark, KeyState.fire,
        Finset.mem_filter,
        ih hOrder.of_concat hKey.of_concat,
        Event.arrivals_concat_watermark]
      constructor
      · rintro ⟨⟨-, hTimer⟩, hLater⟩
        exact ⟨hLater, hTimer⟩
      · rintro ⟨hLater, hTimer⟩
        exact ⟨⟨by omega, hTimer⟩, hLater⟩

/- Some timer fires exactly when one is passed. -/
theorem order_ne_nil_iff
    {apiKeyId : String}
    (hNonempty : apiKeyId ≠ "")
    {evs : Inputs}
    {rt : Runtime (Option DeviceProfileState)}
    {outs : List (Int × DeviceEnriched)}
    (hRun : operator.run? evs = some (rt, outs))
    (hOrder : InOrder evs)
    (hKey : HasKey apiKeyId evs)
    {w : Int}
    {order : List Int}
    (hFiring : rt.toKeyState.Firing w order) :
    order ≠ [] ↔
      ∃ a ∈ Event.arrivals evs,
        Event.lastWatermark evs < expiry a ∧
          expiry a ≤ w := by
  rw [← Operator.run_watermark hRun]
  constructor
  · intro hSome
    rcases List.exists_mem_of_ne_nil order hSome with
      ⟨timer, hMem⟩
    rcases (hFiring.mem_iff timer).1 hMem with
      ⟨hPending, hDue⟩
    rcases
      (mem_timers_iff hNonempty hRun hOrder hKey timer).1
        hPending with
      ⟨hLater, a, hArrived, rfl⟩
    exact ⟨a, hArrived, hLater, hDue⟩
  · rintro ⟨a, hArrived, hLater, hDue⟩ hNil
    have hPending :=
      (mem_timers_iff hNonempty hRun hOrder hKey
        (expiry a)).2 ⟨hLater, a, hArrived, rfl⟩
    have hMem := (hFiring.mem_iff (expiry a)).2
      ⟨hPending, hDue⟩
    simp [hNil] at hMem

/- Firing forgets the profile, unless nothing is due. -/
theorem fireAll_eq
    (order : List Int)
    (current : Option DeviceProfileState) :
    fireAll operator order current =
      if order = [] then current else none := by
  induction order generalizing current with
  | nil => rfl
  | cons timer order ih =>
      have hStep :
          fireAll operator (timer :: order) current =
            fireAll operator order none := rfl
      rw [hStep, ih]
      simp

/-
  While timers pass together, a device without a profile has
  only transactions whose timers have passed.
-/
theorem expired_of_no_profile
    {apiKeyId : String}
    (hNonempty : apiKeyId ≠ "")
    {evs : Inputs}
    {rt : Runtime (Option DeviceProfileState)}
    {outs : List (Int × DeviceEnriched)}
    (hRun : operator.run? evs = some (rt, outs))
    (hOrder : InOrder evs)
    (hKey : HasKey apiKeyId evs)
    (hTogether : TimersPassTogether evs)
    (hNone : rt.state = none) :
    ∀ a ∈ Event.arrivals evs, expiry a ≤ rt.watermark := by
  induction hRun using Operator.run_induction with
  | start => simp
  | element evs rt outs t x hPrefix hRun hLong ih =>
      have hOwn : x.txn.apiKeyId ≠ "" := by
        rw [hKey.last]
        exact hNonempty
      simp [Operator.afterElement, KeyState.process,
        operator, processElement_of_key hOwn] at hNone
  | watermark evs rt outs w order hPrefix hRun hMono hLong
      hFiring ih =>
      rw [TimersPassTogether,
        Event.everyAdvance_concat_watermark] at hTogether
      rw [Event.arrivals_concat_watermark]
      simp only [Operator.afterWatermark, KeyState.fire,
        fireAll_eq] at hNone
      intro b hMem
      by_cases hNil : order = []
      · rw [if_pos hNil] at hNone
        have hExpired :=
          ih hOrder.of_concat hKey.of_concat hTogether.1
            hNone b hMem
        exact hExpired.trans hMono
      · rcases
          (order_ne_nil_iff hNonempty hPrefix
            hOrder.of_concat hKey.of_concat hFiring).1
            hNil with
          ⟨a, hArrived, hLater, hDue⟩
        exact hTogether.2 a hArrived hLater hDue b hMem

end Device

end FraudStream

------------------------------------------------------------
-- Counting Every Transaction
------------------------------------------------------------

namespace FraudStream

namespace Device

open EventTime

/- Devices are forgotten only when idle exactly when timers
   pass together. -/
theorem forgetsOnlyIdle_iff_timersPassTogether
    {apiKeyId : String}
    (hNonempty : apiKeyId ≠ "")
    {evs : Inputs}
    {rt : Runtime (Option DeviceProfileState)}
    {outs : List (Int × DeviceEnriched)}
    (hRun : operator.run? evs = some (rt, outs))
    (hOrder : InOrder evs)
    (hKey : HasKey apiKeyId evs) :
    ForgetsOnlyIdle evs ↔ TimersPassTogether evs := by
  induction hRun using Operator.run_induction with
  | start =>
      exact
        ⟨fun _ => Event.everyAdvance_nil _,
          fun _ => Event.everyAdvance_nil _⟩
  | element evs rt outs t x hPrefix hRun hLong ih =>
      rw [ForgetsOnlyIdle, TimersPassTogether,
        Event.everyAdvance_concat_element,
        Event.everyAdvance_concat_element]
      exact ih hOrder.of_concat hKey.of_concat
  | watermark evs rt outs w order hPrefix hRun hMono hLong
      hFiring ih =>
      have hEarlier := ih hOrder.of_concat hKey.of_concat
      have hFires :=
        order_ne_nil_iff hNonempty hPrefix hOrder.of_concat
          hKey.of_concat hFiring
      rw [ForgetsOnlyIdle, TimersPassTogether,
        Event.everyAdvance_concat_watermark,
        Event.everyAdvance_concat_watermark]
      constructor
      · rintro ⟨hForgets, hLast⟩
        have hTogether := hEarlier.1 hForgets
        refine ⟨hTogether, ?_⟩
        intro a hArrived hLater hDue b hMem
        cases hState : rt.state with
        | none =>
            have hExpired :=
              expired_of_no_profile hNonempty hPrefix
                hOrder.of_concat hKey.of_concat hTogether
                hState b hMem
            exact hExpired.trans hMono
        | some profile =>
            have hSome := hFires.2 ⟨a, hArrived, hLater, hDue⟩
            exact
              hLast rt outs hPrefix (by simp [hState])
                hSome b hMem
      · rintro ⟨hTogether, hLast⟩
        refine ⟨hEarlier.2 hTogether, ?_⟩
        intro rt' outs' hRun' _ hSome b hMem
        rcases hFires.1 hSome with ⟨a, hArrived, hLater, hDue⟩
        exact hLast a hArrived hLater hDue b hMem

/- A profile that counts every transaction so far. -/
def CountsSoFar
    (evs : Inputs)
    (profile : DeviceProfileState) : Prop :=
  profile.txnCount = (Event.arrivals evs).length ∧
    (Event.arrivals evs).head?.map (·.timestamp) =
      some profile.firstSeenMs

/- A device that is never idle has no transaction yet when
   it has no profile. -/
theorem arrivals_eq_nil_of_no_profile
    {evs : Inputs}
    {t w : Int}
    {x : GeoEnriched}
    (hNever : NeverIdle (evs ++ [.element t x]))
    (hExpired :
      ∀ a ∈ Event.arrivals evs, expiry a ≤ w)
    (hBehind : w ≤ t) :
    Event.arrivals evs = [] := by
  rw [NeverIdle, Event.arrivals_concat_element,
    List.isChain_append] at hNever
  rcases List.eq_nil_or_concat (Event.arrivals evs) with
    hNil | ⟨earlier, last, hLast⟩
  · exact hNil
  · have hGap :=
      hNever.2.2 last (by simp [hLast])
        ⟨t, Event.lastWatermark evs, x⟩ (by simp)
    have hOld := hExpired last (by simp [hLast])
    unfold expiry at hOld
    simp only at hGap
    omega

/- One more transaction is counted. -/
theorem countsSoFar_updatedProfile
    {evs : Inputs}
    {t : Int}
    {x : GeoEnriched}
    {current : Option DeviceProfileState}
    (hNone :
      current = none → Event.arrivals evs = [])
    (hSome :
      ∀ p, current = some p → CountsSoFar evs p) :
    CountsSoFar (evs ++ [.element t x])
      (updatedProfile t x.geo.geoCountry current) := by
  unfold CountsSoFar
  rw [Event.arrivals_concat_element]
  cases current with
  | none => simp [updatedProfile, hNone rfl]
  | some p =>
      rcases hSome p rfl with ⟨hCount, hFirst⟩
      cases hArrivals : Event.arrivals evs with
      | nil => simp [hArrivals] at hFirst
      | cons first rest =>
          rw [hArrivals] at hCount hFirst
          simp only [List.head?_cons, Option.map_some,
            Option.some.injEq] at hFirst
          simp [updatedProfile, hCount, hFirst]

theorem NeverIdle.of_concat
    {evs : Inputs}
    {e : Event GeoEnriched}
    (hNever : NeverIdle (evs ++ [e])) :
    NeverIdle evs := by
  cases e with
  | element t x =>
      rw [NeverIdle, Event.arrivals_concat_element]
        at hNever
      exact hNever.left_of_append
  | watermark w order =>
      simpa [NeverIdle] using hNever

/- The last output extends what the outputs report. -/
theorem CountsEvery.concat
    {evs : Inputs}
    {outs : List (Int × DeviceEnriched)}
    {t : Int}
    {x : GeoEnriched}
    {current : Option DeviceProfileState}
    {updated : DeviceProfileState}
    (hEvery : CountsEvery evs outs)
    (hCounts :
      CountsSoFar (evs ++ [.element t x]) updated) :
    CountsEvery (evs ++ [.element t x])
      (outs ++
        [(t, { x with
          device := deviceFields current updated })]) := by
  unfold CountsSoFar at hCounts
  rw [CountsEvery, Event.arrivals_concat_element] at *
  refine ⟨by simp [hEvery.1], ?_⟩
  intro i out hOut
  rcases Nat.lt_trichotomy i outs.length with
    hEarlier | rfl | hBeyond
  · rw [List.getElem?_append_left hEarlier] at hOut
    rcases hEvery.2 i out hOut with ⟨hCount, hFirst⟩
    refine ⟨hCount, hFirst.trans ?_⟩
    cases hArrivals : Event.arrivals evs with
    | nil => simp [hEvery.1, hArrivals] at hEarlier
    | cons first rest => rfl
  · rw [List.getElem?_append_right (Nat.le_refl _)] at hOut
    simp only [Nat.sub_self, List.getElem?_cons_zero,
      Option.some.injEq] at hOut
    subst hOut
    exact
      ⟨by simp [deviceFields, hCounts.1, hEvery.1],
        hCounts.2.symm⟩
  · rw [List.getElem?_eq_none (by simp; omega)] at hOut
    cases hOut

/-
  When timers pass together and the device is never idle,
  the profile and the outputs count every transaction.
-/
theorem countsEvery_of_run
    {apiKeyId : String}
    (hNonempty : apiKeyId ≠ "")
    {evs : Inputs}
    {rt : Runtime (Option DeviceProfileState)}
    {outs : List (Int × DeviceEnriched)}
    (hRun : operator.run? evs = some (rt, outs))
    (hOrder : InOrder evs)
    (hKey : HasKey apiKeyId evs)
    (hTogether : TimersPassTogether evs)
    (hNever : NeverIdle evs) :
    (∀ p, rt.state = some p → CountsSoFar evs p) ∧
      CountsEvery evs outs := by
  induction hRun using Operator.run_induction with
  | start =>
      exact
        ⟨by simp [Operator.start, operator],
          by simp [CountsEvery]⟩
  | element evs rt outs t x hPrefix hRun hLong ih =>
      have hTogether' := hTogether
      rw [TimersPassTogether,
        Event.everyAdvance_concat_element] at hTogether'
      have hOwn : x.txn.apiKeyId ≠ "" := by
        rw [hKey.last]
        exact hNonempty
      have hBehind := hOrder.watermark_le
      rw [← Operator.run_watermark hPrefix] at hBehind
      rcases
        ih hOrder.of_concat hKey.of_concat hTogether'
          hNever.of_concat with
        ⟨hProfile, hEvery⟩
      have hCounts :
          CountsSoFar (evs ++ [.element t x])
            (updatedProfile t x.geo.geoCountry rt.state) := by
        apply countsSoFar_updatedProfile _ hProfile
        intro hNone
        exact
          arrivals_eq_nil_of_no_profile hNever
            (expired_of_no_profile hNonempty hPrefix
              hOrder.of_concat hKey.of_concat hTogether'
              hNone)
            hBehind
      refine ⟨?_, ?_⟩
      · intro p hState
        simp only [Operator.afterElement, KeyState.process,
          operator, processElement_of_key hOwn,
          Option.some.injEq] at hState
        rw [← hState]
        exact hCounts
      · simp only [Operator.emit, operator,
          processElement_of_key hOwn, List.map_cons,
          List.map_nil]
        exact hEvery.concat hCounts
  | watermark evs rt outs w order hPrefix hRun hMono hLong
      hFiring ih =>
      rw [TimersPassTogether,
        Event.everyAdvance_concat_watermark] at hTogether
      rcases
        ih hOrder.of_concat hKey.of_concat hTogether.1
          hNever.of_concat with
        ⟨hProfile, hEvery⟩
      refine ⟨?_, ?_⟩
      · intro p hState
        simp only [Operator.afterWatermark, KeyState.fire,
          fireAll_eq] at hState
        by_cases hNil : order = []
        · rw [if_pos hNil] at hState
          simpa [CountsSoFar] using hProfile p hState
        · simp [hNil] at hState
      · simpa [CountsEvery] using hEvery

end Device

end FraudStream

------------------------------------------------------------
-- When The Idle Timer Forgets Only Idle Devices
------------------------------------------------------------

namespace FraudStream

namespace Device

open EventTime

/- A day in milliseconds. -/
def dayMs : Int := 24 * 3600 * 1000

/- A located transaction of the sample device. -/
def sampleLocated
    (transactionId : String)
    (eventTime : Int) : GeoEnriched where
  txn := sampleTransaction transactionId eventTime
  velocity := fun _ => (1, 10)
  geo := nullGeoFields

/- Two transactions before the first timer fires. -/
def forgetfulPrefix : Inputs :=
  [.element 0 (sampleLocated "txn-1" 0),
    .element (6 * dayMs) (sampleLocated "txn-2" (6 * dayMs))]

/- The first timer fires a day after the second
   transaction, and a third one follows. -/
def forgetfulRun : Inputs :=
  forgetfulPrefix ++
    [.watermark (7 * dayMs) [7 * dayMs],
      .element (7 * dayMs) (sampleLocated "txn-3" (7 * dayMs))]

/- The device is forgotten a day after a transaction, and
   its third transaction counts as the first. -/
theorem active_device_is_forgotten :
    ∃ rt outs,
      operator.run? forgetfulRun = some (rt, outs) ∧
        InOrder forgetfulRun ∧
        HasKey "key-001" forgetfulRun ∧
        NeverIdle forgetfulRun ∧
        ¬ ForgetsOnlyIdle forgetfulRun ∧
        ¬ CountsEvery forgetfulRun outs := by
  have hOrder : InOrder forgetfulRun := by
    unfold InOrder
    decide
  have hKey : HasKey "key-001" forgetfulRun := by
    unfold HasKey
    decide
  have hNever : NeverIdle forgetfulRun := by
    unfold NeverIdle
    decide
  have hThird :
      (operator.run? forgetfulRun).any (fun r =>
        r.2[2]?.map (·.2.device.deviceTxnCount) =
          some (some 1)) := by decide
  rcases (Option.any_eq_true ..).1 hThird with
    ⟨⟨rt, outs⟩, hRun, hThird⟩
  refine ⟨rt, outs, hRun, hOrder, hKey, hNever, ?_, ?_⟩
  · rw [forgetsOnlyIdle_iff_timersPassTogether
      (by decide : "key-001" ≠ "") hRun hOrder hKey]
    intro hTogether
    have hPassed :=
      hTogether forgetfulPrefix (7 * dayMs) [7 * dayMs]
        [.element (7 * dayMs)
          (sampleLocated "txn-3" (7 * dayMs))] rfl
        ⟨0, minLong, sampleLocated "txn-1" 0⟩
        List.mem_cons_self (by decide) (by decide)
        ⟨6 * dayMs, minLong,
          sampleLocated "txn-2" (6 * dayMs)⟩
        (List.mem_cons_of_mem _ List.mem_cons_self)
    exact absurd hPassed (by decide)
  · intro hEvery
    simp only [decide_eq_true_eq, Option.map_eq_some_iff]
      at hThird
    rcases hThird with ⟨out, hOut, hCount⟩
    have hExpected := (hEvery.2 2 out hOut).1
    rw [hCount] at hExpected
    simp at hExpected

/-
  In every run of a device, only idle devices are forgotten
  and active ones are counted in full, exactly when the
  timers of the device always pass together.
-/
theorem forgets_only_idle_iff
    {apiKeyId : String}
    (hNonempty : apiKeyId ≠ "")
    {evs : Inputs}
    {rt : Runtime (Option DeviceProfileState)}
    {outs : List (Int × DeviceEnriched)}
    (hRun : operator.run? evs = some (rt, outs))
    (hOrder : InOrder evs)
    (hKey : HasKey apiKeyId evs) :
    (ForgetsOnlyIdle evs ∧
        (NeverIdle evs → CountsEvery evs outs)) ↔
      TimersPassTogether evs := by
  rw [forgetsOnlyIdle_iff_timersPassTogether hNonempty
    hRun hOrder hKey]
  constructor
  · rintro ⟨hTogether, -⟩
    exact hTogether
  · intro hTogether
    refine ⟨hTogether, ?_⟩
    intro hNever
    exact
      (countsEvery_of_run hNonempty hRun hOrder hKey
        hTogether hNever).2

/- Two transactions a day apart, and a watermark between. -/
def activeRun : Inputs :=
  [.element 0 (sampleLocated "txn-1" 0),
    .watermark dayMs [],
    .element dayMs (sampleLocated "txn-2" dayMs)]

theorem forgets_only_idle_of_activeRun :
    ∃ rt outs,
      operator.run? activeRun = some (rt, outs) ∧
        CountsEvery activeRun outs := by
  have hRuns : (operator.run? activeRun).isSome := by decide
  rcases Option.isSome_iff_exists.1 hRuns with
    ⟨⟨rt, outs⟩, hRun⟩
  have hTogether : TimersPassTogether activeRun := by
    have hAdvance :
        TimersPassTogether
          ([.element 0 (sampleLocated "txn-1" 0)] ++
            [.watermark dayMs []]) := by
      rw [TimersPassTogether,
        Event.everyAdvance_concat_watermark]
      refine ⟨?_, by decide⟩
      exact
        (Event.everyAdvance_concat_element _ [] _ _).2
          (Event.everyAdvance_nil _)
    exact
      (Event.everyAdvance_concat_element _ _ _ _).2 hAdvance
  have hNever : NeverIdle activeRun := by
    unfold NeverIdle
    decide
  exact
    ⟨rt, outs, hRun,
      ((forgets_only_idle_iff (by decide : "key-001" ≠ "")
        hRun (by unfold InOrder; decide)
        (by unfold HasKey; decide)).2 hTogether).2 hNever⟩

end Device

end FraudStream
