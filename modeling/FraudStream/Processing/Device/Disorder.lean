import FraudStream.Library.Dict
import FraudStream.Processing.Device.IdleTimer

/-
  The profile of a device whose transactions arrive in any
  order of event times, while no idle timer fires.

  The first-seen time is the time of the first transaction
  processed, and the last-seen time that of the last one:
  the code compares neither with the time it has. They are
  the least and the greatest event time only when the event
  times never decrease.

  Main declarations:
    * `processElementPure`
    * `IsMonotone`
    * `HoldsTimes`
    * `isMonotone_iff`
    * `profiles_monotone_iff`
-/

------------------------------------------------------------
-- The Profile In Memory
------------------------------------------------------------

namespace FraudStream

namespace Device

open EventTime

/- The update on profiles in memory, without a country. -/
def processElementPure
    (apiKeyId : Option String)
    (eventTimeMs : Int)
    (states : Dict String DeviceProfileState) :
    Dict String DeviceProfileState × DeviceFields :=
  match apiKeyId with
  | none => (states, nullDeviceFields)
  | some apiKeyId =>
      if apiKeyId = "" then
        (states, nullDeviceFields)
      else
        let current := Dict.get? states apiKeyId
        let updated := updatedProfile eventTimeMs none current
        (Dict.put states apiKeyId updated,
          deviceFields current updated)

/- The profiles in memory follow those of the operator, for
   transactions without a country. -/
theorem processElementPure_follows
    (value : GeoEnriched)
    (hCountry : value.geo.geoCountry = none)
    (eventTimeMs watermark : Int)
    (states : Dict String DeviceProfileState) :
    let key := value.txn.apiKeyId
    let pure :=
      processElementPure (some key) eventTimeMs states
    let effect :=
      processElement eventTimeMs watermark value
        (Dict.get? states key)
    Dict.get? pure.1 key = effect.state ∧
      effect.output = [{ value with device := pure.2 }] := by
  by_cases hKey : value.txn.apiKeyId = ""
  · simp [processElementPure, processElement, hKey]
  · simp [processElementPure, processElement, hKey,
      hCountry, Dict.get?_put]

end Device

end FraudStream

------------------------------------------------------------
-- Monotone Profiles
------------------------------------------------------------

namespace FraudStream

namespace Device

open EventTime

/- No watermark fires a timer. -/
def NeverExpires (evs : Inputs) : Prop :=
  Event.EveryAdvance (fun _ _ order => order = []) evs

/- The event times in processing order. -/
def eventTimes (evs : Inputs) : List Int :=
  (Event.arrivals evs).map (·.timestamp)

/- After a transaction at t, the last of the times: the
   profile holds the extreme times, and the output counts
   the transactions from a time that is not after t. -/
def TellsExtremes
    (times : List Int)
    (t : Int)
    (effect :
      Effect (Option DeviceProfileState) DeviceEnriched) :
    Prop :=
  ∃ profile out first,
    effect.state = some profile ∧
      times.min? = some profile.firstSeenMs ∧
      times.max? = some profile.lastSeenMs ∧
      effect.output = [out] ∧
      out.device.deviceFirstSeen = some first ∧
      first ≤ t ∧
      out.device.deviceTxnCount = some times.length

/- Every transaction finds the extremes of the times so
   far. -/
def IsMonotone (evs : Inputs) : Prop :=
  Event.EveryElement
    (fun before t x =>
      ∀ rt outs,
        operator.run? before = some (rt, outs) →
        TellsExtremes (eventTimes before ++ [t]) t
          (processElement t rt.watermark x rt.state))
    evs

/- What the profiles at the end of two orders share. -/
def seenAndCount
    (profile : DeviceProfileState) : Int × Int × Nat :=
  (profile.firstSeenMs, profile.lastSeenMs,
    profile.txnCount)

/- The event times never decrease in processing order. -/
def Nondecreasing (evs : Inputs) : Prop :=
  (eventTimes evs).Pairwise (· ≤ ·)

@[simp] theorem eventTimes_concat_element
    (evs : Inputs)
    (t : Int)
    (x : GeoEnriched) :
    eventTimes (evs ++ [.element t x]) =
      eventTimes evs ++ [t] := by
  simp [eventTimes]

@[simp] theorem eventTimes_concat_watermark
    (evs : Inputs)
    (w : Int)
    (order : List Int) :
    eventTimes (evs ++ [.watermark w order]) =
      eventTimes evs := by
  simp [eventTimes]

/- Nothing expires before the first watermark. -/
theorem neverExpires_of_no_watermark
    {evs : Inputs}
    (hNone :
      ∀ w order, Event.watermark w order ∉ evs) :
    NeverExpires evs := by
  intro before w order after hEq
  have hMem : Event.watermark w order ∈ evs := by
    rw [hEq]
    simp
  exact absurd hMem (hNone w order)

end Device

end FraudStream

------------------------------------------------------------
-- What The Profile Holds
------------------------------------------------------------

namespace FraudStream

namespace Device

open EventTime

/- A profile of the first time, the last time and the number
   of times. -/
structure HoldsTimes
    (times : List Int)
    (current : Option DeviceProfileState) : Prop where
  first : current.map (·.firstSeenMs) = times.head?
  last : current.map (·.lastSeenMs) = times.getLast?
  count : (current.map (·.txnCount)).getD 0 = times.length

/- A transaction adds its time to those of the profile. -/
theorem HoldsTimes.concat
    {times : List Int}
    {current : Option DeviceProfileState}
    (hHolds : HoldsTimes times current)
    (t : Int)
    (geoCountry : Option String) :
    HoldsTimes (times ++ [t])
      (some (updatedProfile t geoCountry current)) := by
  rcases hHolds with ⟨hFirst, -, hCount⟩
  cases current with
  | none =>
      have hNil : times = [] := by simpa using hFirst.symm
      subst hNil
      exact ⟨rfl, rfl, rfl⟩
  | some profile =>
      simp only [Option.map_some, Option.getD_some]
        at hFirst hCount
      refine ⟨?_, ?_, ?_⟩
      · simp [updatedProfile, ← hFirst]
      · simp [updatedProfile]
      · simp [updatedProfile, hCount]

/- The profile after a run without idle expiry. -/
theorem holdsTimes_of_run
    {apiKeyId : String}
    (hNonempty : apiKeyId ≠ "")
    {evs : Inputs}
    {rt : Runtime (Option DeviceProfileState)}
    {outs : List (Int × DeviceEnriched)}
    (hRun : operator.run? evs = some (rt, outs))
    (hKey : HasKey apiKeyId evs)
    (hNever : NeverExpires evs) :
    HoldsTimes (eventTimes evs) rt.state := by
  induction hRun using Operator.run_induction with
  | start => exact ⟨rfl, rfl, rfl⟩
  | element evs rt outs t x hPrefix hRun hLong ih =>
      have hOwn : x.txn.apiKeyId ≠ "" := by
        rw [hKey.last]
        exact hNonempty
      rw [NeverExpires, Event.everyAdvance_concat_element]
        at hNever
      have hEarlier := ih hKey.of_concat hNever
      simp only [Operator.afterElement, KeyState.process,
        operator, processElement_of_key hOwn,
        eventTimes_concat_element]
      exact hEarlier.concat t _
  | watermark evs rt outs w order hPrefix hRun hMono hLong
      hFiring ih =>
      rw [NeverExpires,
        Event.everyAdvance_concat_watermark] at hNever
      have hEarlier := ih hKey.of_concat hNever.1
      simp only [Operator.afterWatermark, KeyState.fire,
        fireAll_eq, if_pos hNever.2,
        eventTimes_concat_watermark]
      exact hEarlier

/- A transaction tells the extremes when no earlier one is
   after it, if the earlier ones came in order. -/
theorem tellsExtremes_iff
    {times : List Int}
    {current : Option DeviceProfileState}
    (hHolds : HoldsTimes times current)
    (hSorted : times.Pairwise (· ≤ ·))
    {t : Int}
    {x : GeoEnriched}
    (hKey : x.txn.apiKeyId ≠ "")
    (w : Int) :
    TellsExtremes (times ++ [t]) t
        (processElement t w x current) ↔
      ∀ earlier ∈ times, earlier ≤ t := by
  have hUpdated := hHolds.concat t x.geo.geoCountry
  rw [processElement_of_key hKey]
  generalize updatedProfile t x.geo.geoCountry current =
    updated at hUpdated ⊢
  rcases hUpdated with ⟨hFirst, hLast, hCount⟩
  simp only [Option.map_some, Option.getD_some,
    List.getLast?_append, List.getLast?_singleton,
    Option.some_or, Option.some.injEq]
    at hFirst hLast hCount
  constructor
  · rintro ⟨profile, out, first, hState, -, hMax, -⟩ earlier
      hMem
    cases hState
    rw [hLast, List.max?_eq_some_iff] at hMax
    exact hMax.2 earlier (by simp [hMem])
  · intro hBefore
    have hAll : (times ++ [t]).Pairwise (· ≤ ·) := by
      rw [List.pairwise_append]
      simpa [hSorted] using hBefore
    have hMin :
        (times ++ [t]).min? = some updated.firstSeenMs := by
      rw [hFirst]
      exact List.min?_eq_head? (hAll.imp min_eq_left)
    have hMax :
        (times ++ [t]).max? = some updated.lastSeenMs := by
      rw [hLast, List.max?_eq_some_iff]
      refine ⟨by simp, ?_⟩
      intro b hMem
      rcases List.mem_append.1 hMem with hEarlier | hSelf
      · exact hBefore b hEarlier
      · exact (List.mem_singleton.1 hSelf).le
    have hFirstLe : updated.firstSeenMs ≤ t :=
      (List.min?_eq_some_iff.1 hMin).2 t (by simp)
    exact
      ⟨updated, _, updated.firstSeenMs, rfl, hMin, hMax,
        rfl, rfl, hFirstLe, by simp [deviceFields, hCount]⟩

end Device

end FraudStream

------------------------------------------------------------
-- When The Profile Is Monotone
------------------------------------------------------------

namespace FraudStream

namespace Device

open EventTime

/- A device's run is monotone exactly when its event times
   never decrease. -/
theorem isMonotone_iff
    {apiKeyId : String}
    (hNonempty : apiKeyId ≠ "")
    {evs : Inputs}
    {rt : Runtime (Option DeviceProfileState)}
    {outs : List (Int × DeviceEnriched)}
    (hRun : operator.run? evs = some (rt, outs))
    (hKey : HasKey apiKeyId evs)
    (hNever : NeverExpires evs) :
    IsMonotone evs ↔ Nondecreasing evs := by
  induction hRun using Operator.run_induction with
  | start =>
      exact
        ⟨fun _ => List.Pairwise.nil,
          fun _ => Event.everyElement_nil _⟩
  | element evs rt outs t x hPrefix hRun hLong ih =>
      have hOwn : x.txn.apiKeyId ≠ "" := by
        rw [hKey.last]
        exact hNonempty
      rw [NeverExpires, Event.everyAdvance_concat_element]
        at hNever
      have hEarlier := ih hKey.of_concat hNever
      have hHolds :=
        holdsTimes_of_run hNonempty hPrefix hKey.of_concat
          hNever
      have hPairs :
          Nondecreasing (evs ++ [.element t x]) ↔
            Nondecreasing evs ∧
              ∀ earlier ∈ eventTimes evs, earlier ≤ t := by
        simp [Nondecreasing, List.pairwise_append]
      rw [IsMonotone, Event.everyElement_concat_element,
        hPairs]
      constructor
      · rintro ⟨hBefore, hLast⟩
        have hSorted := hEarlier.1 hBefore
        refine ⟨hSorted, ?_⟩
        exact
          (tellsExtremes_iff hHolds hSorted hOwn
            rt.watermark).1 (hLast rt outs hPrefix)
      · rintro ⟨hSorted, hLast⟩
        refine ⟨hEarlier.2 hSorted, ?_⟩
        intro rt' outs' hRun'
        rw [hPrefix] at hRun'
        cases hRun'
        exact
          (tellsExtremes_iff hHolds hSorted hOwn
            rt.watermark).2 hLast
  | watermark evs rt outs w order hPrefix hRun hMono hLong
      hFiring ih =>
      rw [NeverExpires,
        Event.everyAdvance_concat_watermark] at hNever
      rw [IsMonotone, Event.everyElement_concat_watermark,
        Nondecreasing, eventTimes_concat_watermark]
      exact ih hKey.of_concat hNever.1

/- Equal times leave equal profiles, countries apart. -/
theorem HoldsTimes.seenAndCount_eq
    {times : List Int}
    {left right : Option DeviceProfileState}
    (hLeft : HoldsTimes times left)
    (hRight : HoldsTimes times right) :
    left.map seenAndCount = right.map seenAndCount := by
  rcases hLeft with ⟨hFirstL, hLastL, hCountL⟩
  rcases hRight with ⟨hFirstR, hLastR, hCountR⟩
  have hFirst := hFirstL.trans hFirstR.symm
  have hLast := hLastL.trans hLastR.symm
  have hCount := hCountL.trans hCountR.symm
  cases left with
  | none =>
      cases right with
      | none => rfl
      | some r => simp at hFirst
  | some l =>
      cases right with
      | none => simp at hFirst
      | some r =>
          simp only [Option.map_some, Option.getD_some,
            Option.some.injEq] at hFirst hLast hCount
          simp [seenAndCount, hFirst, hLast, hCount]

/- Two transactions, the later one by event time first. -/
def disorderedRun : Inputs :=
  [.element 1000 (sampleLocated "txn-1" 1000),
    .element 0 (sampleLocated "txn-2" 0)]

/- The same transactions in the order of their times. -/
def orderedRun : Inputs :=
  [.element 0 (sampleLocated "txn-2" 0),
    .element 1000 (sampleLocated "txn-1" 1000)]

/-
  A device first seen at 1000 in a transaction at 0, and
  last seen before it was first seen. The other order of the
  two transactions ends in another profile.
-/
theorem late_transaction_rewinds_last_seen :
    ∃ rt outs rt' outs',
      operator.run? disorderedRun = some (rt, outs) ∧
        operator.run? orderedRun = some (rt', outs') ∧
        HasKey "key-001" disorderedRun ∧
        NeverExpires disorderedRun ∧
        (eventTimes disorderedRun).Perm
          (eventTimes orderedRun) ∧
        ¬ IsMonotone disorderedRun ∧
        rt.state.map seenAndCount = some (1000, 0, 2) ∧
        rt'.state.map seenAndCount = some (0, 1000, 2) ∧
        outs.map (·.2.device.deviceFirstSeen) =
          [some 1000, some 1000] := by
  have hEnds :
      (operator.run? disorderedRun).any (fun r =>
        r.1.state.map seenAndCount = some (1000, 0, 2) ∧
          r.2.map (·.2.device.deviceFirstSeen) =
            [some 1000, some 1000]) := by decide
  have hEnds' :
      (operator.run? orderedRun).any (fun r =>
        r.1.state.map seenAndCount = some (0, 1000, 2)) := by
    decide
  rcases (Option.any_eq_true ..).1 hEnds with
    ⟨⟨rt, outs⟩, hRun, hEnds⟩
  rcases (Option.any_eq_true ..).1 hEnds' with
    ⟨⟨rt', outs'⟩, hRun', hEnds'⟩
  simp only [decide_eq_true_eq] at hEnds hEnds'
  have hKey : HasKey "key-001" disorderedRun := by
    unfold HasKey
    decide
  have hNever : NeverExpires disorderedRun := by
    apply neverExpires_of_no_watermark
    simp [disorderedRun]
  refine
    ⟨rt, outs, rt', outs', hRun, hRun', hKey, hNever,
      by decide, ?_, hEnds.1, hEnds', hEnds.2⟩
  rw [isMonotone_iff (by decide : "key-001" ≠ "") hRun hKey
    hNever]
  unfold Nondecreasing
  decide

/-
  For two orders of the transactions of a device, without
  idle expiry: both are monotone and end in the same times
  and count exactly when neither has an event time that
  decreases.
-/
theorem profiles_monotone_iff
    {apiKeyId : String}
    (hNonempty : apiKeyId ≠ "")
    {evs evs' : Inputs}
    {rt rt' : Runtime (Option DeviceProfileState)}
    {outs outs' : List (Int × DeviceEnriched)}
    (hRun : operator.run? evs = some (rt, outs))
    (hRun' : operator.run? evs' = some (rt', outs'))
    (hKey : HasKey apiKeyId evs)
    (hKey' : HasKey apiKeyId evs')
    (hNever : NeverExpires evs)
    (hNever' : NeverExpires evs')
    (hSame : (eventTimes evs).Perm (eventTimes evs')) :
    (IsMonotone evs ∧ IsMonotone evs' ∧
        rt.state.map seenAndCount =
          rt'.state.map seenAndCount) ↔
      Nondecreasing evs ∧ Nondecreasing evs' := by
  rw [isMonotone_iff hNonempty hRun hKey hNever,
    isMonotone_iff hNonempty hRun' hKey' hNever']
  constructor
  · rintro ⟨hSorted, hSorted', -⟩
    exact ⟨hSorted, hSorted'⟩
  · rintro ⟨hSorted, hSorted'⟩
    refine ⟨hSorted, hSorted', ?_⟩
    -- one multiset of times has one sorted list
    have hTimes : eventTimes evs = eventTimes evs' :=
      List.Perm.eq_of_pairwise
        (fun _ _ _ _ => le_antisymm) hSorted hSorted' hSame
    have hHolds :=
      holdsTimes_of_run hNonempty hRun hKey hNever
    have hHolds' :=
      holdsTimes_of_run hNonempty hRun' hKey' hNever'
    rw [← hTimes] at hHolds'
    exact hHolds.seenAndCount_eq hHolds'

/- Two transactions at one time, in both orders. -/
def simultaneousRun : Inputs :=
  [.element 5 (sampleLocated "txn-1" 5),
    .element 5 (sampleLocated "txn-2" 5)]

theorem profiles_monotone_of_simultaneous :
    IsMonotone simultaneousRun ∧
      IsMonotone simultaneousRun.reverse := by
  have hRuns : (operator.run? simultaneousRun).isSome := by
    decide
  have hRuns' :
      (operator.run? simultaneousRun.reverse).isSome := by
    decide
  rcases Option.isSome_iff_exists.1 hRuns with
    ⟨⟨rt, outs⟩, hRun⟩
  rcases Option.isSome_iff_exists.1 hRuns' with
    ⟨⟨rt', outs'⟩, hRun'⟩
  have hKey : HasKey "key-001" simultaneousRun := by
    unfold HasKey
    decide
  have hKey' : HasKey "key-001" simultaneousRun.reverse := by
    unfold HasKey
    decide
  have hNever : NeverExpires simultaneousRun := by
    apply neverExpires_of_no_watermark
    simp [simultaneousRun]
  have hNever' : NeverExpires simultaneousRun.reverse := by
    apply neverExpires_of_no_watermark
    simp [simultaneousRun]
  have hSorted :
      Nondecreasing simultaneousRun ∧
        Nondecreasing simultaneousRun.reverse := by
    unfold Nondecreasing
    decide
  have hMonotone :=
    (profiles_monotone_iff (by decide : "key-001" ≠ "")
      hRun hRun' hKey hKey' hNever hNever'
      (by decide)).2 hSorted
  exact ⟨hMonotone.1, hMonotone.2.1⟩

end Device

end FraudStream
