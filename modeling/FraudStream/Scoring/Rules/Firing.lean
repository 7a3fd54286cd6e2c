import FraudStream.Processing.Device.IdleTimer
import FraudStream.Scoring.Rules.Evaluable

/-
  Which records the impossible-travel rules and the rule on
  new devices with rapid transactions fire on.

  The rules read the time of a transaction and the count of
  a device under names that no assembled record has, so they
  never fire. They meet their descriptions on the records on
  which they are not to fire.

  Main declarations:
    * `TravelRulesFire`
    * `travel_rules_fire_iff`
    * `RapidRuleFires`
    * `rapid_rule_fires_iff`
-/

------------------------------------------------------------
-- Fields Of A Record
------------------------------------------------------------

namespace FraudStream

/- The field holds an integer that is at least a bound. -/
def Record.AtLeast
    (r : Record)
    (name : String)
    (n : Int) : Prop :=
  ∃ k, r.get name = .int k ∧ n ≤ k

/- The field holds an integer that is at most a bound. -/
def Record.AtMost
    (r : Record)
    (name : String)
    (n : Int) : Prop :=
  ∃ k, r.get name = .int k ∧ k ≤ n

/- The previous country and the country are known and
   differ. -/
def Record.CountryChanged (r : Record) : Prop :=
  r.get "prev_geo_country" ≠ .none ∧
    r.get "geo_country" ≠ .none ∧
    r.get "prev_geo_country" ≠ r.get "geo_country"

end FraudStream

------------------------------------------------------------
-- Impossible Travel
------------------------------------------------------------

namespace FraudStream

namespace Device

open EventTime

/- The outputs of a run are the arrivals, in order, each
   with its device fields. -/
theorem forall₂_outputs_of_run
    {evs : Inputs}
    {rt : Runtime (Option DeviceProfileState)}
    {outs : List (Int × DeviceEnriched)}
    (hRun : operator.run? evs = some (rt, outs)) :
    List.Forall₂
      (fun a out =>
        a.timestamp = out.1 ∧ a.value = out.2.toGeoEnriched)
      (Event.arrivals evs) outs := by
  induction hRun using Operator.run_induction with
  | start => exact List.Forall₂.nil
  | element evs rt outs t x hPrefix hRun hLong ih =>
      rw [Event.arrivals_concat_element]
      apply List.rel_append ih
      unfold Operator.emit
      by_cases hKey : x.txn.apiKeyId = ""
      · simp [operator, processElement, hKey]
      · simp [operator, processElement_of_key hKey]
  | watermark evs rt outs w order hPrefix hRun hMono hLong
      hFiring ih =>
      rw [Event.arrivals_concat_watermark]
      exact ih

/- The arrival of an output. -/
theorem arrival_of_output
    {evs : Inputs}
    {rt : Runtime (Option DeviceProfileState)}
    {outs : List (Int × DeviceEnriched)}
    (hRun : operator.run? evs = some (rt, outs))
    {i : Nat}
    {t : Int}
    {d : DeviceEnriched}
    (hOut : outs[i]? = some (t, d)) :
    ∃ a, (Event.arrivals evs)[i]? = some a ∧
      a.timestamp = t ∧ a.value = d.toGeoEnriched := by
  have hAll := forall₂_outputs_of_run hRun
  rcases List.getElem?_eq_some_iff.1 hOut with ⟨hLt, hEq⟩
  have hLt' : i < (Event.arrivals evs).length := by
    rw [hAll.length_eq]
    exact hLt
  have hPair := hAll.get hLt' hLt
  refine
    ⟨_, List.getElem?_eq_getElem hLt', ?_, ?_⟩
  · simpa [hEq] using hPair.1
  · simpa [hEq] using hPair.2

/- The transaction of the device before the i-th one. -/
def previousArrival
    (evs : Inputs) : Nat → Option (Arrival GeoEnriched)
| 0 => none
| i + 1 => (Event.arrivals evs)[i]?

end Device

open EventTime

/- The event time of the record is within a window of the
   event time of the previous transaction. -/
def WithinMs
    (previous : Option (Arrival GeoEnriched))
    (r : Record)
    (window : Int) : Prop :=
  ∃ a ∈ previous, ∃ now, r.get "event_time" = .int now ∧
    |now - a.value.txn.eventTime| ≤ window

def windowConditions (window : Int) : Conditions :=
  .ofList [("window_ms", .scalar (.int window))]

def countConditions (count : Int) : Conditions :=
  .ofList [("count", .scalar (.int count))]

/- The two impossible-travel rules fire on a record as they
   are described. -/
structure TravelRulesFire
    (previous : Option (Arrival GeoEnriched))
    (r : Record)
    (window count : Int) : Prop where
  withinWindow :
    evaluateImpossibleTravel r (windowConditions window) =
        .ok true ↔
      r.CountryChanged ∧ WithinMs previous r window
  countReached :
    evaluateImpossibleTravel r (countConditions count) =
        .ok true ↔
      r.CountryChanged ∧ r.AtLeast "vel_count_1h" count

/- No rule of the family fires on an assembled record. -/
theorem evaluateImpossibleTravel_assemble
    (enrichmentTime : Int)
    (d : DeviceEnriched)
    (conditions : Conditions) :
    evaluateImpossibleTravel (assemble enrichmentTime d)
      conditions = .ok false := by
  apply evaluateImpossibleTravel_of_absent
  rw [Record.get, (get?_assemble_absent ..).1]
  rfl

/-
  The records of one device: the impossible-travel rules
  fire as described exactly when the country has not
  changed, or the previous transaction is outside the window
  and the count is not reached.
-/
theorem travel_rules_fire_iff
    {evs : Device.Inputs}
    {rt : Runtime (Option DeviceProfileState)}
    {outs : List (Int × DeviceEnriched)}
    (hRun : Device.operator.run? evs = some (rt, outs))
    {i : Nat}
    {t : Int}
    {d : DeviceEnriched}
    (hOut : outs[i]? = some (t, d))
    (enrichmentTime window count : Int) :
    (∃ a, (Event.arrivals evs)[i]? = some a ∧
        a.timestamp = t ∧ a.value = d.toGeoEnriched) ∧
      (TravelRulesFire (Device.previousArrival evs i)
          (assemble enrichmentTime d) window count ↔
        ¬ (assemble enrichmentTime d).CountryChanged ∨
          (¬ WithinMs (Device.previousArrival evs i)
              (assemble enrichmentTime d) window ∧
            ¬ (assemble enrichmentTime d).AtLeast
              "vel_count_1h" count)) := by
  refine ⟨Device.arrival_of_output hRun hOut, ?_⟩
  have hNever :=
    evaluateImpossibleTravel_assemble enrichmentTime d
  have hFalse :
      ∀ conditions,
        evaluateImpossibleTravel (assemble enrichmentTime d)
          conditions ≠ .ok true := by
    intro conditions
    rw [hNever]
    simp
  generalize assemble enrichmentTime d = r at hFalse ⊢
  constructor
  · rintro ⟨hWindow, hCount⟩
    have hOutside := hWindow.not.1 (hFalse _)
    have hBelow := hCount.not.1 (hFalse _)
    by_cases hChanged : r.CountryChanged
    · right
      exact
        ⟨fun h => hOutside ⟨hChanged, h⟩,
          fun h => hBelow ⟨hChanged, h⟩⟩
    · exact .inl hChanged
  · rintro (hSame | ⟨hOutside, hBelow⟩)
    · exact
        ⟨iff_of_false (hFalse _) (fun h => hSame h.1),
          iff_of_false (hFalse _) (fun h => hSame h.1)⟩
    · exact
        ⟨iff_of_false (hFalse _) (fun h => hOutside h.2),
          iff_of_false (hFalse _) (fun h => hBelow h.2)⟩

end FraudStream

namespace FraudStream

/- A located transaction of the sample device in a
   country. -/
def sampleIn
    (country transactionId : String)
    (eventTime : Int) : GeoEnriched where
  txn := sampleTransaction transactionId eventTime
  velocity := fun _ => (1, 10)
  geo := { nullGeoFields with geoCountry := some country }

/- Two transactions of the device, a second apart, from two
   countries. -/
def abroadRun : Device.Inputs :=
  [.element 0 (sampleIn "US" "txn-1" 0),
    .element 1000 (sampleIn "GB" "txn-2" 1000)]

/- The transactions after the device operator. -/
def homeEnriched : DeviceEnriched where
  toGeoEnriched := sampleIn "US" "txn-1" 0
  device :=
    { deviceFirstSeen := some 0
      deviceTxnCount := some 1
      deviceKnownFraud := some false
      prevGeoCountry := none
      prevTxnTimeMs := none }

def abroadEnriched : DeviceEnriched where
  toGeoEnriched := sampleIn "GB" "txn-2" 1000
  device :=
    { deviceFirstSeen := some 0
      deviceTxnCount := some 2
      deviceKnownFraud := some false
      prevGeoCountry := some "US"
      prevTxnTimeMs := some 0 }

theorem outputs_abroadRun :
    ∃ rt outs,
      Device.operator.run? abroadRun = some (rt, outs) ∧
        outs[0]? = some (0, homeEnriched) ∧
        outs[1]? = some (1000, abroadEnriched) :=
  ⟨_, _, rfl, rfl, rfl⟩

/- The record of the second transaction. -/
def abroadRecord : Record :=
  assemble 2000 abroadEnriched

theorem fields_abroadRecord :
    abroadRecord.get "prev_geo_country" = .str "US" ∧
      abroadRecord.get "geo_country" = .str "GB" ∧
      abroadRecord.get "event_time" = .int 1000 ∧
      abroadRecord.get "vel_count_1h" = .int 1 := by
  simp [abroadRecord, get_assemble, recordEntries,
    Dict.lookupEntries, abroadEnriched, sampleIn,
    optionalString, Scalar.ofOption, velocityCount,
    sampleTransaction]

/- The second record meets both descriptions of impossible
   travel, and neither rule fires on it. -/
theorem travel_is_missed :
    ∃ rt outs,
      Device.operator.run? abroadRun = some (rt, outs) ∧
        outs[1]? = some (1000, abroadEnriched) ∧
        abroadRecord.CountryChanged ∧
        WithinMs (Device.previousArrival abroadRun 1)
          abroadRecord 3600000 ∧
        abroadRecord.AtLeast "vel_count_1h" 1 ∧
        evaluateImpossibleTravel abroadRecord
          (windowConditions 3600000) = .ok false ∧
        evaluateImpossibleTravel abroadRecord
          (countConditions 1) = .ok false ∧
        ¬ TravelRulesFire
          (Device.previousArrival abroadRun 1)
          abroadRecord 3600000 1 := by
  rcases outputs_abroadRun with ⟨rt, outs, hRun, -, hOut⟩
  rcases fields_abroadRecord with
    ⟨hPrevious, hCountry, hTime, hCount⟩
  have hChanged : abroadRecord.CountryChanged := by
    simp [Record.CountryChanged, hPrevious, hCountry]
  have hWithin :
      WithinMs (Device.previousArrival abroadRun 1)
        abroadRecord 3600000 :=
    ⟨_, rfl, 1000, hTime, by decide⟩
  have hWindow :=
    evaluateImpossibleTravel_assemble 2000 abroadEnriched
      (windowConditions 3600000)
  refine
    ⟨rt, outs, hRun, hOut, hChanged, hWithin,
      ⟨1, hCount, le_refl 1⟩, hWindow,
      evaluateImpossibleTravel_assemble 2000 _ _, ?_⟩
  intro hFires
  have hTrue := hFires.withinWindow.2 ⟨hChanged, hWithin⟩
  rw [abroadRecord, hWindow] at hTrue
  simp at hTrue

/- The first transaction changes no country, so nothing was
   to fire. -/
theorem travel_rules_fire_first :
    TravelRulesFire (Device.previousArrival abroadRun 0)
      (assemble 2000 homeEnriched) 3600000 1 := by
  rcases outputs_abroadRun with ⟨rt, outs, hRun, hOut, -⟩
  have hSame :
      ¬ (assemble 2000 homeEnriched).CountryChanged := by
    rintro ⟨hPrevious, -⟩
    apply hPrevious
    simp [get_assemble, recordEntries,
      Dict.lookupEntries, homeEnriched, optionalString,
      Scalar.ofOption]
  exact
    (travel_rules_fire_iff hRun hOut 2000 3600000 1).2.2
      (.inl hSame)

end FraudStream

------------------------------------------------------------
-- Rapid Transactions Of A New Device
------------------------------------------------------------

namespace FraudStream

def rapidConditions
    (deviceCount velCount : Int) : Conditions :=
  .ofList
    [("device_count", .scalar (.int deviceCount)),
      ("vel_count", .scalar (.int velCount))]

/- The rule on rapid transactions fires on a record as it is
   described. -/
def RapidRuleFires
    (r : Record)
    (deviceCount velCount : Int) : Prop :=
  evaluateNewDevice r (rapidConditions deviceCount velCount) =
      .ok true ↔
    r.AtMost "device_txn_count" deviceCount ∧
      r.AtLeast "vel_count_1h" velCount

/- The rule never fires on a record of the job. -/
theorem evaluateNewDevice_rapid
    {config : Job.JobConfig}
    {r : Record}
    (hProduced : Job.Produced config r)
    (deviceCount velCount : Int) :
    evaluateNewDevice r
        (rapidConditions deviceCount velCount) =
      .ok false := by
  have hAmount :
      (rapidConditions deviceCount velCount).contains
        "amount" = false := rfl
  have hCount :
      (rapidConditions deviceCount velCount).contains
        "device_count" = true := rfl
  have hAbsent := (Job.get_absent_of_produced hProduced).2
  rw [evaluateNewDevice, hAmount, hCount]
  exact evaluateNd002_of_absent _ hAbsent

/- The rule fires as described exactly when the device has
   no count or a greater one, or there are fewer
   transactions in the last hour. -/
theorem rapid_rule_fires_iff
    {config : Job.JobConfig}
    {r : Record}
    (hProduced : Job.Produced config r)
    (deviceCount velCount : Int) :
    RapidRuleFires r deviceCount velCount ↔
      (∀ k, r.get "device_txn_count" = .int k →
          deviceCount < k) ∨
        ∀ k, r.get "vel_count_1h" = .int k →
          k < velCount := by
  have hFalse :
      evaluateNewDevice r
          (rapidConditions deviceCount velCount) ≠
        .ok true := by
    rw [evaluateNewDevice_rapid hProduced]
    simp
  have hMany :
      (∀ k, r.get "device_txn_count" = .int k →
          deviceCount < k) ↔
        ¬ r.AtMost "device_txn_count" deviceCount := by
    simp [Record.AtMost]
  have hFew :
      (∀ k, r.get "vel_count_1h" = .int k →
          k < velCount) ↔
        ¬ r.AtLeast "vel_count_1h" velCount := by
    simp [Record.AtLeast]
  rw [hMany, hFew, RapidRuleFires, ← not_and_or]
  constructor
  · intro hFires
    exact hFires.not.1 hFalse
  · intro hQuiet
    exact iff_of_false hFalse hQuiet

theorem fields_sampleRecord :
    Job.sampleRecord.get "device_txn_count" = .int 1 ∧
      Job.sampleRecord.get "vel_count_1h" = .int 1 := by
  simp [Job.sampleRecord, get_assemble, recordEntries,
    Dict.lookupEntries, Job.sampleEnriched,
    Device.deviceFields, Device.updatedProfile, optionalInt,
    Scalar.ofOption, velocityCount]

/- The first transaction of a device and an account has one
   transaction on the device and one in the last hour, and
   the rule on one and one does not fire. -/
theorem rapid_device_is_missed :
    Job.Produced Job.sampleConfig Job.sampleRecord ∧
      Job.sampleRecord.AtMost "device_txn_count" 1 ∧
      Job.sampleRecord.AtLeast "vel_count_1h" 1 ∧
      evaluateNewDevice Job.sampleRecord
        (rapidConditions 1 1) = .ok false ∧
      ¬ RapidRuleFires Job.sampleRecord 1 1 := by
  rcases fields_sampleRecord with ⟨hDevice, hVelocity⟩
  have hFew : Job.sampleRecord.AtMost "device_txn_count" 1 :=
    ⟨1, hDevice, le_refl 1⟩
  have hRapid : Job.sampleRecord.AtLeast "vel_count_1h" 1 :=
    ⟨1, hVelocity, le_refl 1⟩
  have hFalse :=
    evaluateNewDevice_rapid Job.produced_sampleRecord 1 1
  refine
    ⟨Job.produced_sampleRecord, hFew, hRapid, hFalse, ?_⟩
  intro hFires
  have hTrue := hFires.2 ⟨hFew, hRapid⟩
  rw [hFalse] at hTrue
  simp at hTrue

/- Five transactions in the last hour are not there. -/
theorem rapid_rule_fires_quiet :
    RapidRuleFires Job.sampleRecord 3 5 := by
  apply (rapid_rule_fires_iff Job.produced_sampleRecord 3 5).2
  right
  intro k hCount
  rw [fields_sampleRecord.2] at hCount
  cases hCount
  decide

end FraudStream
