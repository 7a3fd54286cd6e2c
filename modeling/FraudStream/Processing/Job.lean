import FraudStream.Processing.Enricher

/-
  The dataflow of the enrichment job.

  The stages are composed as functions on streams, so each
  item passes the whole chain before the next one enters it.
  The source stamps a message with its Kafka timestamp and
  emits, at each periodic tick, a watermark one millisecond
  below the greatest timestamp so far. No later stage
  assigns a timestamp.

  Key definitions include:
    * `SourceInput`
    * `JobConfig`
    * `sourceStream`
    * `txnStream`
    * `dedupStream`
    * `velocityStream`
    * `geoStream`
    * `deviceStream`
    * `Produced`
-/

------------------------------------------------------------
-- Source
------------------------------------------------------------

namespace FraudStream

namespace Job

open EventTime EventStream

/- A message with its record timestamp, or a tick of the
   periodic watermark generator. -/
inductive SourceInput where
| message : (kafkaTimestamp : Int) → List UInt8 → SourceInput
| tick : SourceInput
deriving DecidableEq

/- The stream that the source emits, from the greatest
   timestamp so far on. -/
def sourceStream
    (maxTimestamp : Int) :
    List SourceInput → List (Item (List UInt8))
| [] => []
| .message t payload :: inputs =>
    .element t payload ::
      sourceStream (max maxTimestamp t) inputs
| .tick :: inputs =>
    .watermark (maxTimestamp - 1) ::
      sourceStream maxTimestamp inputs

/- The greatest timestamp before any message. -/
def initialMaxTimestamp : Int := minLong + 1

end Job

end FraudStream

------------------------------------------------------------
-- Operators
------------------------------------------------------------

namespace FraudStream

namespace Job

open EventTime EventStream

/- What the job reads from outside. -/
structure JobConfig where
  schemalessReader :
    List UInt8 → Except String RawTransaction
  geoReader : Option GeoReader
  allowedLatenessSeconds : Int

variable (config : JobConfig)

/- A payload that cannot be read is logged and dropped. -/
def deserialiseWithDlq
    (payload : List UInt8) : List RawTransaction :=
  match deserialiseRawTransaction config.schemalessReader
      payload none with
  | .ok txn => [txn]
  | .error _ => []

/- The main output of the velocity operator. -/
def mainOutput :
    Velocity.Output Velocity.Velocities →
      List (RawTransaction × Velocity.Velocities)
| .enriched txn velocity => [(txn, velocity)]
| .late _ => []

/- The key of a device, or the key of no device. -/
def deviceKey (value : GeoEnriched) : String :=
  if value.txn.apiKeyId = "" then
    "__no_device__"
  else
    value.txn.apiKeyId

def txnStream
    (inputs : List SourceInput) :
    List (Item RawTransaction) :=
  flatMap (deserialiseWithDlq config)
    (sourceStream initialMaxTimestamp inputs)

def dedupStream
    (inputs : List SourceInput) :
    List (Item RawTransaction) :=
  TransactionDedup.operator.transform (·.transactionId)
    (txnStream config inputs)

/- The velocity operator with its side output. -/
def velocityOutputs
    (inputs : List SourceInput) :
    List (Item (Velocity.Output Velocity.Velocities)) :=
  (Velocity.operator
      (config.allowedLatenessSeconds * 1000)).transform
    (·.accountId) (dedupStream config inputs)

def velocityStream
    (inputs : List SourceInput) :
    List (Item (RawTransaction × Velocity.Velocities)) :=
  flatMap mainOutput (velocityOutputs config inputs)

def geoStream
    (inputs : List SourceInput) : List (Item GeoEnriched) :=
  flatMap
    (fun pair =>
      [geolocationMap config.geoReader pair.1 pair.2])
    (velocityStream config inputs)

def deviceStream
    (inputs : List SourceInput) :
    List (Item DeviceEnriched) :=
  Device.operator.transform deviceKey
    (geoStream config inputs)

/- A record that the assembler emits in some run. -/
def Produced (record : Record) : Prop :=
  ∃ inputs t d enrichmentTime,
    (t, d) ∈ elements (deviceStream config inputs) ∧
      record = assemble enrichmentTime d

end Job

end FraudStream

------------------------------------------------------------
-- What The Operators Emit
------------------------------------------------------------

namespace FraudStream

namespace Job

open EventTime EventStream

variable (config : JobConfig)

/- A transaction with its velocity was given to the velocity
   operator at the same timestamp. -/
theorem mem_velocityStream
    {inputs : List SourceInput}
    {t : Int}
    {txn : RawTransaction}
    {velocity : Velocity.Velocities}
    (hMem :
      (t, txn, velocity) ∈
        elements (velocityStream config inputs)) :
    (t, txn) ∈ elements (dedupStream config inputs) ∧
      ∃ buckets, velocity =
        Velocity.computeVelocity
          (Velocity.addTransaction buckets t txn.amount)
          (Velocity.bucketKey t) := by
  rcases (mem_elements_flatMap_iff ..).1 hMem with
    ⟨out, hOut, hMain⟩
  rcases Operator.mem_elements_transform _ _ hOut with
    ⟨txn', w, buckets, hIn, hEmit⟩
  by_cases hLate :
      Velocity.IsLate
        (config.allowedLatenessSeconds * 1000) w t
  · simp only [Velocity.operator, Velocity.processElement,
      hLate, if_true, List.mem_singleton] at hEmit
    simp [hEmit, mainOutput] at hMain
  · simp only [Velocity.operator, Velocity.processElement,
      hLate, if_false, List.mem_singleton] at hEmit
    simp only [hEmit, mainOutput, List.mem_singleton,
      Prod.mk.injEq] at hMain
    rcases hMain with ⟨rfl, rfl⟩
    exact ⟨hIn, buckets, rfl⟩

/- A located transaction comes with its velocity. -/
theorem mem_geoStream
    {inputs : List SourceInput}
    {t : Int}
    {value : GeoEnriched}
    (hMem :
      (t, value) ∈ elements (geoStream config inputs)) :
    (t, value.txn, value.velocity) ∈
        elements (velocityStream config inputs) ∧
      value.geo =
        doLookup config.geoReader
          value.txn.callerIpSubnet := by
  rcases (mem_elements_flatMap_iff ..).1 hMem with
    ⟨⟨txn, velocity⟩, hIn, hMap⟩
  have hEq := List.mem_singleton.1 hMap
  rw [hEq]
  exact ⟨hIn, rfl⟩

/- A device-enriched transaction has the fields that some
   profile gives it. -/
theorem mem_deviceStream
    {inputs : List SourceInput}
    {t : Int}
    {d : DeviceEnriched}
    (hMem :
      (t, d) ∈ elements (deviceStream config inputs)) :
    (t, d.toGeoEnriched) ∈
        elements (geoStream config inputs) ∧
      ((d.txn.apiKeyId = "" ∧
          d.device = nullDeviceFields) ∨
        (d.txn.apiKeyId ≠ "" ∧ ∃ current,
          d.device =
            Device.deviceFields current
              (Device.updatedProfile t d.geo.geoCountry
                current))) := by
  rcases Operator.mem_elements_transform _ _ hMem with
    ⟨value, w, current, hIn, hEmit⟩
  by_cases hKey : value.txn.apiKeyId = ""
  · simp only [Device.operator, Device.processElement, hKey,
      if_true, List.mem_singleton] at hEmit
    rw [hEmit]
    exact ⟨hIn, .inl ⟨hKey, rfl⟩⟩
  · simp only [Device.operator, Device.processElement, hKey,
      if_false, List.mem_singleton] at hEmit
    rw [hEmit]
    exact ⟨hIn, .inr ⟨hKey, current, rfl⟩⟩

end Job

end FraudStream
