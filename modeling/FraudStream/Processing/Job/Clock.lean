import FraudStream.Processing.Job

/-
  The clock of the job: Kafka timestamps or event times.

  Nothing assigns a timestamp after the source, so the
  operators run on Kafka timestamps. The results depend on
  event times alone when the messages that reach the
  operators are stamped with their event times and the
  watermarks do not depend on the stamps either.

  Main declarations:
    * `SameMessages`
    * `StampedWithEventTime`
    * `SameWatermarks`
    * `RunsOnEventTime`
    * `runs_on_event_time`
-/

------------------------------------------------------------
-- Deduplication As A Stream Function
------------------------------------------------------------

namespace FraudStream

namespace TransactionDedup

open EventTime EventStream

/- The states of all transaction identifiers. -/
abbrev Seen := Keyed String (Option Int)

/- An identifier has been seen. -/
def hasSeen
    (rt : Seen)
    (id : String) : Bool :=
  (rt.states id).state.isSome

theorem fireAll_eq
    (order : List Int)
    (seen : Option Int) :
    fireAll operator order seen = seen := by
  induction order with
  | nil => rfl
  | cons t order ih => exact ih

@[simp] theorem hasSeen_advanceKeys
    (rt : Seen)
    (w : Int)
    (id : String) :
    hasSeen (operator.advanceKeys rt w) id =
      hasSeen rt id := by
  simp [hasSeen, Operator.advanceKeys, KeyState.fire,
    fireAll_eq]

@[simp] theorem hasSeen_processKey
    (rt : Seen)
    (id : String)
    (t : Int)
    (txn : RawTransaction)
    (id' : String) :
    hasSeen (operator.processKey rt id t txn) id' =
      (decide (id' = id) || hasSeen rt id') := by
  by_cases hId : id' = id
  · subst hId
    cases hState : (rt.states id').state <;>
      simp [hasSeen, Operator.processKey,
        KeyState.process, operator, processElement, hState]
  · simp [hasSeen, Operator.processKey, hId]

theorem outputOf_eq
    (rt : Seen)
    (id : String)
    (t : Int)
    (txn : RawTransaction) :
    operator.outputOf rt id t txn =
      if hasSeen rt id then [] else [txn] := by
  cases hState : (rt.states id).state <;>
    simp [hasSeen, Operator.outputOf, operator,
      processElement, hState]

/- The first element of each new identifier. -/
def firstById
    (seen : List String) :
    List (Int × RawTransaction) →
      List (Int × RawTransaction)
| [] => []
| (t, txn) :: rest =>
    if txn.transactionId ∈ seen then
      firstById seen rest
    else
      (t, txn) :: firstById (txn.transactionId :: seen) rest

/- Deduplication keeps the first element of each
   identifier, with its timestamp. -/
theorem elements_transformFrom
    (rt : Seen)
    (seen : List String)
    (hSeen : ∀ id, hasSeen rt id = decide (id ∈ seen))
    (items : List (Item RawTransaction)) :
    elements
        (operator.transformFrom (·.transactionId) rt items) =
      firstById seen (elements items) := by
  induction items generalizing rt seen with
  | nil => rfl
  | cons item items ih =>
      cases item with
      | element t txn =>
          rw [Operator.transformFrom, elements_append,
            elements_map_element, outputOf_eq, hSeen]
          by_cases hMem : txn.transactionId ∈ seen
          · rw [ih _ seen]
            · simp [elements, firstById, hMem]
            · intro id
              rw [hasSeen_processKey, hSeen]
              by_cases hId : id = txn.transactionId
              · simp [hId, hMem]
              · simp [hId]
          · rw [ih _ (txn.transactionId :: seen)]
            · simp [elements, firstById, hMem]
            · intro id
              rw [hasSeen_processKey, hSeen]
              simp
      | watermark w =>
          apply ih
          intro id
          rw [hasSeen_advanceKeys, hSeen]

/- Deduplication does not look at timestamps. -/
theorem sameValues_transformFrom
    {rt rt' : Seen}
    (hSeen : ∀ id, hasSeen rt id = hasSeen rt' id)
    {items items' : List (Item RawTransaction)}
    (hSame : SameValues items items') :
    SameValues
      (operator.transformFrom (·.transactionId) rt items)
      (operator.transformFrom (·.transactionId) rt'
        items') := by
  induction hSame generalizing rt rt' with
  | nil => exact List.Forall₂.nil
  | @cons item item' items items' hHead hTail ih =>
      cases item with
      | element t txn =>
          cases item' with
          | element t' txn' =>
              cases hHead
              rw [Operator.transformFrom,
                Operator.transformFrom, outputOf_eq,
                outputOf_eq, hSeen]
              apply List.rel_append
              · split
                · exact List.Forall₂.nil
                · exact
                    List.Forall₂.cons rfl List.Forall₂.nil
              · apply ih
                intro id
                rw [hasSeen_processKey,
                  hasSeen_processKey, hSeen]
          | watermark w => exact hHead.elim
      | watermark w =>
          cases item' with
          | element t' txn' => exact hHead.elim
          | watermark w' =>
              cases hHead
              refine List.Forall₂.cons rfl (ih ?_)
              intro id
              rw [hasSeen_advanceKeys,
                hasSeen_advanceKeys, hSeen]

end TransactionDedup

end FraudStream

------------------------------------------------------------
-- Two Assignments Of Timestamps
------------------------------------------------------------

namespace FraudStream

namespace Job

open EventTime EventStream

/- The same message at any two times, or a tick. -/
def SourceInput.SamePayload : SourceInput → SourceInput → Prop
| .message _ payload, .message _ payload' =>
    payload = payload'
| .tick, .tick => True
| _, _ => False

/- Two assignments of Kafka timestamps to one sequence of
   messages and ticks. -/
def SameMessages
    (inputs inputs' : List SourceInput) : Prop :=
  List.Forall₂ SourceInput.SamePayload inputs inputs'

/- The watermarks of the source, which are the running
   maxima of the timestamps at the ticks. -/
def sourceWatermarks
    (inputs : List SourceInput) : List Int :=
  watermarks (sourceStream initialMaxTimestamp inputs)

def SameWatermarks
    (inputs inputs' : List SourceInput) : Prop :=
  sourceWatermarks inputs = sourceWatermarks inputs'

variable (config : JobConfig)

/- The messages that can be read, with their timestamps. -/
def readMessages :
    List SourceInput → List (Int × RawTransaction)
| [] => []
| .message t payload :: inputs =>
    (deserialiseWithDlq config payload).map
        (fun txn => (t, txn)) ++
      readMessages inputs
| .tick :: inputs => readMessages inputs

/- Every first message of a transaction carries the event
   time of the transaction. -/
def StampedWithEventTime
    (inputs : List SourceInput) : Prop :=
  ∀ t txn,
    (t, txn) ∈
        TransactionDedup.firstById []
          (readMessages config inputs) →
      t = txn.eventTime

/-
  The operators run on event time: two assignments of Kafka
  timestamps give every transaction the same velocity and
  device fields, and the timestamps that the velocity and
  the device operator see are the event times.
-/
structure RunsOnEventTime
    (inputs inputs' : List SourceInput) : Prop where
  sameFields :
    values (deviceStream config inputs) =
      values (deviceStream config inputs')
  velocityClock :
    StampedBy (·.eventTime) (dedupStream config inputs) ∧
      StampedBy (·.eventTime) (dedupStream config inputs')
  deviceClock :
    StampedBy (·.txn.eventTime) (geoStream config inputs) ∧
      StampedBy (·.txn.eventTime)
        (geoStream config inputs')

theorem elements_txnStream
    (maxTimestamp : Int)
    (inputs : List SourceInput) :
    elements
        (flatMap (deserialiseWithDlq config)
          (sourceStream maxTimestamp inputs)) =
      readMessages config inputs := by
  induction inputs generalizing maxTimestamp with
  | nil => rfl
  | cons input inputs ih =>
      cases input with
      | message t payload =>
          have hHead :
              flatMap (deserialiseWithDlq config)
                  (sourceStream maxTimestamp
                    (.message t payload :: inputs)) =
                (deserialiseWithDlq config payload).map
                    (Item.element t) ++
                  flatMap (deserialiseWithDlq config)
                    (sourceStream (max maxTimestamp t)
                      inputs) := rfl
          rw [hHead, elements_append, elements_map_element,
            ih, readMessages]
      | tick => exact ih maxTimestamp

/- What reaches the velocity operator, with its stamps. -/
theorem elements_dedupStream
    (inputs : List SourceInput) :
    elements (dedupStream config inputs) =
      TransactionDedup.firstById []
        (readMessages config inputs) := by
  rw [dedupStream, Operator.transform,
    TransactionDedup.elements_transformFrom _ []]
  · rw [txnStream, elements_txnStream]
  · intro id
    rfl

theorem stampedWithEventTime_iff
    (inputs : List SourceInput) :
    StampedWithEventTime config inputs ↔
      StampedBy (·.eventTime) (dedupStream config inputs) := by
  rw [StampedBy, elements_dedupStream]
  rfl

/- The source streams of two assignments with the same
   watermarks. -/
theorem sameValues_sourceStream
    {maxTimestamp maxTimestamp' : Int}
    {inputs inputs' : List SourceInput}
    (hSame : SameMessages inputs inputs')
    (hMarks :
      watermarks (sourceStream maxTimestamp inputs) =
        watermarks (sourceStream maxTimestamp' inputs')) :
    SameValues (sourceStream maxTimestamp inputs)
      (sourceStream maxTimestamp' inputs') := by
  induction hSame generalizing maxTimestamp maxTimestamp' with
  | nil => exact List.Forall₂.nil
  | @cons input input' inputs inputs' hHead hTail ih =>
      cases input with
      | message t payload =>
          cases input' with
          | message t' payload' =>
              exact List.Forall₂.cons hHead (ih hMarks)
          | tick => exact hHead.elim
      | tick =>
          cases input' with
          | message t' payload' => exact hHead.elim
          | tick =>
              simp only [sourceStream, watermarks,
                List.cons.injEq] at hMarks
              exact List.Forall₂.cons hMarks.1 (ih hMarks.2)

/- Stamps that are event times leave nothing to differ. -/
theorem dedupStream_eq
    {inputs inputs' : List SourceInput}
    (hSame : SameMessages inputs inputs')
    (hMarks : SameWatermarks inputs inputs')
    (hStamped : StampedWithEventTime config inputs)
    (hStamped' : StampedWithEventTime config inputs') :
    dedupStream config inputs =
      dedupStream config inputs' := by
  have hSource := sameValues_sourceStream hSame hMarks
  have hTxns := hSource.flatMap (deserialiseWithDlq config)
  have hDedup :
      SameValues (dedupStream config inputs)
        (dedupStream config inputs') :=
    TransactionDedup.sameValues_transformFrom
      (fun _ => rfl) hTxns
  exact
    hDedup.eq_of_stampedBy
      ((stampedWithEventTime_iff config inputs).1 hStamped)
      ((stampedWithEventTime_iff config inputs').1
        hStamped')

/- The device operator sees the stamps of the velocity
   operator. -/
theorem stampedBy_geoStream
    {inputs : List SourceInput}
    (hStamped :
      StampedBy (·.eventTime) (dedupStream config inputs)) :
    StampedBy (·.txn.eventTime)
      (geoStream config inputs) := by
  intro t value hMem
  have hVelocity := (mem_geoStream config hMem).1
  have hDedup := (mem_velocityStream config hVelocity).1
  exact hStamped t value.txn hDedup

/-
  Messages stamped with their event times, under watermarks
  that the stamps do not change, are enough for the job to
  run on event time; and the first is also necessary.
-/
theorem runs_on_event_time
    {inputs inputs' : List SourceInput}
    (hSame : SameMessages inputs inputs') :
    (StampedWithEventTime config inputs ∧
          StampedWithEventTime config inputs' ∧
          SameWatermarks inputs inputs' →
        RunsOnEventTime config inputs inputs') ∧
      (RunsOnEventTime config inputs inputs' →
        StampedWithEventTime config inputs ∧
          StampedWithEventTime config inputs') := by
  constructor
  · rintro ⟨hStamped, hStamped', hMarks⟩
    have hEq :=
      dedupStream_eq config hSame hMarks hStamped hStamped'
    rw [stampedWithEventTime_iff] at hStamped hStamped'
    refine ⟨?_, ⟨hStamped, hStamped'⟩, ?_, ?_⟩
    · simp only [deviceStream, geoStream, velocityStream,
        velocityOutputs, hEq]
    · exact stampedBy_geoStream config hStamped
    · exact stampedBy_geoStream config hStamped'
  · intro hRuns
    rw [stampedWithEventTime_iff, stampedWithEventTime_iff]
    exact hRuns.velocityClock

end Job

end FraudStream

------------------------------------------------------------
-- A Message At Two Kafka Timestamps
------------------------------------------------------------

namespace FraudStream

namespace Job

open EventTime EventStream

/- The Avro record of the sample transaction at time 5. -/
def sampleAvro : List UInt8 :=
  [10, 116, 120, 110, 45, 49, 14, 97, 99, 99, 45, 48, 48,
    49, 18, 109, 101, 114, 99, 104, 45, 48, 48, 49, 6, 1,
    134, 160, 6, 85, 83, 68, 10, 10, 6, 87, 69, 66, 12, 52,
    49, 49, 49, 49, 49, 8, 49, 49, 49, 49, 22, 50, 48, 51,
    46, 48, 46, 49, 49, 51, 46, 48, 14, 107, 101, 121, 45,
    48, 48, 49, 18, 116, 120, 110, 58, 119, 114, 105, 116,
    101, 0, 0, 10, 49, 46, 48, 46, 48]

/- A reader that knows this one record. -/
def sampleReader
    (bytes : List UInt8) : Except String RawTransaction :=
  if bytes = sampleAvro then
    .ok (sampleTransaction "txn-1" 5)
  else
    .error "unexpected end of data"

def sampleConfig : JobConfig where
  schemalessReader := sampleReader
  geoReader := none
  allowedLatenessSeconds := 30

/- The record after the magic byte and a schema identifier. -/
def samplePayload : List UInt8 :=
  [0, 0, 0, 0, 1] ++ sampleAvro

theorem deserialise_samplePayload :
    deserialiseWithDlq sampleConfig samplePayload =
      [sampleTransaction "txn-1" 5] := by
  decide +kernel

/- One message, at a given Kafka timestamp. -/
def oneMessage (t : Int) : List SourceInput :=
  [.message t samplePayload]

theorem dedupStream_oneMessage
    (t : Int) :
    dedupStream sampleConfig (oneMessage t) =
      [.element t (sampleTransaction "txn-1" 5)] := by
  have hRead :
      txnStream sampleConfig (oneMessage t) =
        [.element t (sampleTransaction "txn-1" 5)] := by
    simp [txnStream, oneMessage, sourceStream, flatMap,
      Item.flatMap, deserialise_samplePayload]
  rw [dedupStream, hRead]
  rfl

/- Every window counts the first transaction once. -/
theorem computeVelocity_first
    (t : Int)
    (amount : ℚ) :
    Velocity.computeVelocity
        (Velocity.addTransaction Dict.empty t amount)
        (Velocity.bucketKey t) =
      fun _ => (1, amount) := by
  funext L
  rw [Velocity.computeVelocity_addTransaction,
    Velocity.computeVelocity, Dict.sumWhere_empty,
    zero_add]

/- No watermark has been emitted, so nothing is late. -/
theorem velocityOutputs_oneMessage
    (t : Int) :
    velocityOutputs sampleConfig (oneMessage t) =
      [.element t
        (.enriched (sampleTransaction "txn-1" 5)
          (fun _ => (1, 10)))] := by
  have hAccepted :
      ¬ Velocity.IsLate
        (sampleConfig.allowedLatenessSeconds * 1000)
        minLong t := by
    rintro ⟨hMark, -⟩
    exact hMark rfl
  have hVelocity := computeVelocity_first t 10
  rw [velocityOutputs, dedupStream_oneMessage]
  simp [Operator.transform, Operator.transformFrom,
    Operator.outputOf, Operator.startKeyed,
    Velocity.operator, Velocity.processElement, hAccepted,
    sampleTransaction, hVelocity]

/- The sample transaction after the device operator. -/
def sampleEnriched (t : Int) : DeviceEnriched where
  txn := sampleTransaction "txn-1" 5
  velocity := fun _ => (1, 10)
  geo := nullGeoFields
  device :=
    Device.deviceFields none
      (Device.updatedProfile t none none)

/- The first sight of the device is the Kafka timestamp. -/
theorem deviceStream_oneMessage
    (t : Int) :
    deviceStream sampleConfig (oneMessage t) =
      [.element t (sampleEnriched t)] := by
  have hGeo :
      geoStream sampleConfig (oneMessage t) =
        [.element t
          (geolocationMap none (sampleTransaction "txn-1" 5)
            (fun _ => (1, 10)))] := by
    rw [geoStream, velocityStream,
      velocityOutputs_oneMessage]
    rfl
  rw [deviceStream, hGeo]
  rfl

/- The record of the sample transaction. -/
def sampleRecord : Record :=
  assemble 1000 (sampleEnriched 5)

theorem produced_sampleRecord :
    Produced sampleConfig sampleRecord := by
  refine ⟨oneMessage 5, 5, sampleEnriched 5, 1000, ?_, rfl⟩
  rw [deviceStream_oneMessage]
  simp [elements]

/- No message is rejected as late. -/
def NoneRejected
    (config : JobConfig)
    (inputs : List SourceInput) : Prop :=
  ∀ t r,
    (t, .late r) ∉ elements (velocityOutputs config inputs)

theorem noneRejected_oneMessage
    (t : Int) :
    NoneRejected sampleConfig (oneMessage t) := by
  intro t' r hMem
  rw [velocityOutputs_oneMessage] at hMem
  simp [elements] at hMem

/- Two Kafka timestamps give one transaction two results,
   neither of them at its event time. -/
theorem kafka_timestamps_are_the_clock :
    SameMessages (oneMessage 1) (oneMessage 2) ∧
      NoneRejected sampleConfig (oneMessage 1) ∧
      NoneRejected sampleConfig (oneMessage 2) ∧
      values (deviceStream sampleConfig (oneMessage 1)) ≠
        values (deviceStream sampleConfig (oneMessage 2)) ∧
      ¬ StampedBy (·.eventTime)
        (dedupStream sampleConfig (oneMessage 1)) ∧
      ¬ RunsOnEventTime sampleConfig (oneMessage 1)
        (oneMessage 2) := by
  have hFields :
      values (deviceStream sampleConfig (oneMessage 1)) ≠
        values (deviceStream sampleConfig (oneMessage 2)) := by
    rw [deviceStream_oneMessage, deviceStream_oneMessage]
    intro hEq
    have hFirst :=
      congrArg (List.map (·.device.deviceFirstSeen)) hEq
    exact absurd hFirst (by decide)
  have hClock :
      ¬ StampedBy (·.eventTime)
        (dedupStream sampleConfig (oneMessage 1)) := by
    intro hStamped
    rw [dedupStream_oneMessage] at hStamped
    have hTime :=
      hStamped 1 (sampleTransaction "txn-1" 5)
        (by simp [elements])
    exact absurd hTime (by decide)
  exact
    ⟨List.Forall₂.cons rfl List.Forall₂.nil,
      noneRejected_oneMessage 1, noneRejected_oneMessage 2,
      hFields, hClock, fun hRuns => hFields hRuns.sameFields⟩

/- Stamped with its event time, the message runs on it. -/
theorem runs_on_event_time_oneMessage :
    RunsOnEventTime sampleConfig (oneMessage 5)
      (oneMessage 5) := by
  have hStamped :
      StampedWithEventTime sampleConfig (oneMessage 5) := by
    rw [stampedWithEventTime_iff, dedupStream_oneMessage]
    intro t txn hMem
    simp only [elements, List.mem_singleton,
      Prod.mk.injEq] at hMem
    rcases hMem with ⟨rfl, rfl⟩
    rfl
  have hSame :
      SameMessages (oneMessage 5) (oneMessage 5) :=
    List.Forall₂.cons rfl List.Forall₂.nil
  exact
    (runs_on_event_time sampleConfig hSame).1
      ⟨hStamped, hStamped, rfl⟩

end Job

end FraudStream
