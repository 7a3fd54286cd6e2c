import Mathlib.Data.List.Infix
import FraudStream.Processing.Job.Clock

/-
  Which topic each message of the job ends on.

  The operators emit to three outlets: the enriched stream
  and the side outputs of rejected and of late messages. A
  topic receives the records of the outlets whose sinks
  write to it, and `build_job` attaches one sink only, from
  the enriched stream to the topic of enriched records.

  Main declarations:
    * `attachedSinks`
    * `topicRecords`
    * `Rejected`
    * `Reconciled`
    * `topicRecords_isPrefix`
    * `reconciled_iff`
-/

------------------------------------------------------------
-- Outlets And Sinks
------------------------------------------------------------

namespace FraudStream

namespace Job

open EventTime EventStream

/- The topics of the reconciliation contract. -/
inductive Topic where
| enriched
| processingDlq
deriving DecidableEq

/- Where an operator can emit a record: the main stream, or
   one of the side outputs `DLQ_OUTPUT_TAG` and
   `LATE_DLQ_TAG`. -/
inductive Outlet where
| enrichedStream
| dlqOutputTag
| lateDlqTag
deriving DecidableEq

/- A record of either topic. -/
inductive Published where
| enriched : Record → Published
| deadLetter : DlqRecord → Published

/- The sinks that `build_job` attaches. No side output is
   read back from any stream. -/
def attachedSinks : List (Outlet × Topic) :=
  [(.enrichedStream, .enriched)]

variable (config : JobConfig)

/- The dead-letter record that is built for a payload that
   cannot be read. -/
def builtDlqRecord
    (payload : List UInt8) : Option DlqRecord :=
  match deserialiseRawTransaction config.schemalessReader
      payload none with
  | .ok _ => none
  | .error exc =>
      some
        (buildDlqRecord "txn.api" 0 0 payload
          "SCHEMA_VALIDATION_ERROR" exc.message none none
          none)

/- The dead-letter records among the velocity outputs. -/
def lateRecords
    (inputs : List SourceInput) : List DlqRecord :=
  (elements (velocityOutputs config inputs)).filterMap
    (fun out =>
      match out.2 with
      | .enriched _ _ => none
      | .late record => some record)

/- What each outlet emits in a run. The clock gives the
   enrichment time of each enriched record. -/
def outletRecords
    (clock : ℕ → Int)
    (inputs : List SourceInput) : Outlet → List Published
| .enrichedStream =>
    (elements (deviceStream config inputs)).mapIdx
      (fun i out => .enriched (assemble (clock i) out.2))
-- The built record is not yielded, to this tag or another.
| .dlqOutputTag => []
| .lateDlqTag =>
    (lateRecords config inputs).map .deadLetter

/- What the attached sinks write to a topic. -/
def topicRecords
    (clock : ℕ → Int)
    (inputs : List SourceInput)
    (topic : Topic) : List Published :=
  (attachedSinks.filter (·.2 = topic)).flatMap
    (fun sink => outletRecords config clock inputs sink.1)

/- What one more message adds to a topic. -/
def written
    (clock : ℕ → Int)
    (before : List SourceInput)
    (message : SourceInput)
    (topic : Topic) : List Published :=
  (topicRecords config clock (before ++ [message])
      topic).drop
    (topicRecords config clock before topic).length

/- The watermark that the operators are at. -/
def currentWatermark
    (before : List SourceInput) : Int :=
  watermarkAfter minLong
    (sourceStream initialMaxTimestamp before)

/- A message that cannot be read, or that is late beyond the
   allowed lateness. -/
def Rejected
    (before : List SourceInput)
    (t : Int)
    (payload : List UInt8) : Prop :=
  deserialiseWithDlq config payload = [] ∨
    Velocity.IsLate (config.allowedLatenessSeconds * 1000)
      (currentWatermark before) t

/- A message ends on one topic, once, and a rejected message
   ends on the dead-letter topic. -/
structure Reconciled
    (clock : ℕ → Int)
    (before : List SourceInput)
    (t : Int)
    (payload : List UInt8) : Prop where
  exactlyOne :
    ∃ topic,
      (written config clock before (.message t payload)
          topic).length = 1 ∧
        ∀ other, other ≠ topic →
          written config clock before (.message t payload)
            other = []
  rejectedToDlq :
    Rejected config before t payload →
      written config clock before (.message t payload)
        .processingDlq ≠ []

/- No two messages of a run carry one transaction. -/
def DistinctIds (inputs : List SourceInput) : Prop :=
  ((readMessages config inputs).map
    (·.2.transactionId)).Nodup

end Job

end FraudStream

------------------------------------------------------------
-- What Has Been Written Stays
------------------------------------------------------------

namespace FraudStream

namespace Job

open EventTime EventStream

variable (config : JobConfig)

theorem sourceStream_isPrefix
    (maxTimestamp : Int)
    (inputs inputs' : List SourceInput) :
    sourceStream maxTimestamp inputs <+:
      sourceStream maxTimestamp (inputs ++ inputs') := by
  induction inputs generalizing maxTimestamp with
  | nil => exact List.nil_prefix
  | cons input inputs ih =>
      cases input with
      | message t payload =>
          exact (List.prefix_cons_inj _).2 (ih _)
      | tick => exact (List.prefix_cons_inj _).2 (ih _)

theorem velocityOutputs_isPrefix
    (inputs inputs' : List SourceInput) :
    velocityOutputs config inputs <+:
      velocityOutputs config (inputs ++ inputs') := by
  have hSource :=
    sourceStream_isPrefix initialMaxTimestamp inputs inputs'
  have hTxns := flatMap_isPrefix (deserialiseWithDlq config)
    hSource
  have hDedup :=
    TransactionDedup.operator.transform_isPrefix
      (·.transactionId) hTxns
  exact Operator.transform_isPrefix _ _ hDedup

theorem deviceStream_isPrefix
    (inputs inputs' : List SourceInput) :
    deviceStream config inputs <+:
      deviceStream config (inputs ++ inputs') := by
  have hMain :=
    flatMap_isPrefix mainOutput
      (velocityOutputs_isPrefix config inputs inputs')
  exact Operator.transform_isPrefix _ _
    (flatMap_isPrefix _ hMain)

theorem outletRecords_isPrefix
    (clock : ℕ → Int)
    (inputs inputs' : List SourceInput)
    (outlet : Outlet) :
    outletRecords config clock inputs outlet <+:
      outletRecords config clock (inputs ++ inputs')
        outlet := by
  cases outlet with
  | enrichedStream =>
      rcases elements_isPrefix
        (deviceStream_isPrefix config inputs inputs') with
        ⟨rest, hRest⟩
      rw [outletRecords, outletRecords, ← hRest,
        List.mapIdx_append]
      exact List.prefix_append _ _
  | dlqOutputTag => exact List.prefix_rfl
  | lateDlqTag =>
      have hLate :=
        elements_isPrefix
          (velocityOutputs_isPrefix config inputs inputs')
      exact (hLate.filterMap _).map _

/- Later messages take nothing off a topic. -/
theorem topicRecords_isPrefix
    (clock : ℕ → Int)
    (inputs inputs' : List SourceInput)
    (topic : Topic) :
    topicRecords config clock inputs topic <+:
      topicRecords config clock (inputs ++ inputs')
        topic := by
  cases topic with
  | enriched =>
      simpa [topicRecords, attachedSinks] using
        outletRecords_isPrefix config clock inputs inputs'
          .enrichedStream
  | processingDlq => exact List.prefix_rfl

end Job

end FraudStream

------------------------------------------------------------
-- One More Message
------------------------------------------------------------

namespace FraudStream

namespace TransactionDedup

open EventTime EventStream

/- An identifier has been seen if some element carried it. -/
theorem hasSeen_keyedAfter
    (rt : Seen)
    (items : List (Item RawTransaction))
    (id : String) :
    hasSeen
        (operator.keyedAfter (·.transactionId) rt items) id =
      (hasSeen rt id ||
        decide
          (id ∈ (elements items).map
            (·.2.transactionId))) := by
  induction items generalizing rt with
  | nil => simp [Operator.keyedAfter, elements]
  | cons item items ih =>
      cases item with
      | element t txn =>
          rw [Operator.keyedAfter, ih, hasSeen_processKey,
            elements, List.map_cons]
          by_cases hId : id = txn.transactionId
          · simp [hId]
          · simp only [hId, decide_false, Bool.false_or,
              List.mem_cons, false_or]
      | watermark w =>
          rw [Operator.keyedAfter, ih, hasSeen_advanceKeys,
            elements]

end TransactionDedup

namespace Job

open EventTime EventStream

variable (config : JobConfig)

theorem sourceStream_concat_message
    (maxTimestamp : Int)
    (before : List SourceInput)
    (t : Int)
    (payload : List UInt8) :
    sourceStream maxTimestamp
        (before ++ [.message t payload]) =
      sourceStream maxTimestamp before ++
        [.element t payload] := by
  induction before generalizing maxTimestamp with
  | nil => rfl
  | cons input before ih =>
      cases input with
      | message t' payload' => simp [sourceStream, ih]
      | tick => simp [sourceStream, ih]

theorem txnStream_concat_message
    (before : List SourceInput)
    (t : Int)
    (payload : List UInt8) :
    txnStream config (before ++ [.message t payload]) =
      txnStream config before ++
        (deserialiseWithDlq config payload).map
          (Item.element t) := by
  rw [txnStream, sourceStream_concat_message,
    flatMap_append, flatMap_element, txnStream]

theorem watermarkAfter_dedupStream
    (before : List SourceInput) :
    watermarkAfter minLong (dedupStream config before) =
      currentWatermark before := by
  rw [dedupStream, Operator.transform,
    Operator.watermarkAfter_transformFrom, txnStream,
    watermarkAfter_flatMap, currentWatermark]

theorem readMessages_append
    (inputs inputs' : List SourceInput) :
    readMessages config (inputs ++ inputs') =
      readMessages config inputs ++
        readMessages config inputs' := by
  induction inputs with
  | nil => rfl
  | cons input inputs ih =>
      cases input with
      | message t payload => simp [readMessages, ih]
      | tick => simp [readMessages, ih]

/- A message that cannot be read leaves no trace. -/
theorem dedupStream_concat_unreadable
    {payload : List UInt8}
    (before : List SourceInput)
    (t : Int)
    (hRead : deserialiseWithDlq config payload = []) :
    dedupStream config (before ++ [.message t payload]) =
      dedupStream config before := by
  rw [dedupStream, txnStream_concat_message, hRead,
    List.map_nil, List.append_nil, dedupStream]

/- A new transaction passes the deduplication. -/
theorem dedupStream_concat_new
    {payload : List UInt8}
    {txn : RawTransaction}
    (before : List SourceInput)
    (t : Int)
    (hRead : deserialiseWithDlq config payload = [txn])
    (hNew :
      txn.transactionId ∉
        (readMessages config before).map
          (·.2.transactionId)) :
    dedupStream config (before ++ [.message t payload]) =
      dedupStream config before ++ [.element t txn] := by
  have hUnseen :
      TransactionDedup.hasSeen
          (TransactionDedup.operator.keyedAfter
            (·.transactionId)
            TransactionDedup.operator.startKeyed
            (txnStream config before))
          txn.transactionId =
        false := by
    rw [TransactionDedup.hasSeen_keyedAfter, txnStream,
      elements_txnStream, Bool.or_eq_false_iff]
    exact ⟨rfl, decide_eq_false hNew⟩
  rw [dedupStream, txnStream_concat_message, hRead,
    List.map_singleton, Operator.transform_concat_element,
    TransactionDedup.outputOf_eq, hUnseen, dedupStream]
  simp

/- What the velocity operator makes of a new element. -/
theorem velocityOutputs_concat
    {before inputs : List SourceInput}
    {t : Int}
    {txn : RawTransaction}
    (hDedup :
      dedupStream config inputs =
        dedupStream config before ++ [.element t txn]) :
    ∃ buckets,
      velocityOutputs config inputs =
        velocityOutputs config before ++
          (Velocity.processElement
              (config.allowedLatenessSeconds * 1000) t
              (currentWatermark before) txn
              buckets).output.map
            (Item.element t) := by
  rw [velocityOutputs, hDedup,
    Operator.transform_concat_element, Operator.outputOf,
    Operator.watermark_keyedAfter, velocityOutputs,
    ← watermarkAfter_dedupStream config before]
  exact ⟨_, rfl⟩

/- A located transaction always leaves the device operator. -/
theorem deviceStream_concat
    {before inputs : List SourceInput}
    {t : Int}
    {txn : RawTransaction}
    {velocity : Velocity.Velocities}
    (hVelocity :
      velocityStream config inputs =
        velocityStream config before ++
          [.element t (txn, velocity)]) :
    ∃ d : DeviceEnriched, d.txn = txn ∧
      deviceStream config inputs =
        deviceStream config before ++ [.element t d] := by
  have hGeo :
      geoStream config inputs =
        geoStream config before ++
          [.element t
            (geolocationMap config.geoReader txn
              velocity)] := by
    rw [geoStream, hVelocity, flatMap_append,
      flatMap_element, geoStream]
    rfl
  generalize hValue :
    geolocationMap config.geoReader txn velocity = value
    at hGeo
  have hTxn : value.txn = txn := by
    rw [← hValue, geolocationMap]
  rw [deviceStream, deviceStream, hGeo,
    Operator.transform_concat_element, Operator.outputOf]
  by_cases hKey : value.txn.apiKeyId = ""
  · simp only [Device.operator, Device.processElement, hKey,
      if_true, List.map_singleton]
    exact ⟨_, hTxn, rfl⟩
  · simp only [Device.operator, Device.processElement, hKey,
      if_false, List.map_singleton]
    exact ⟨_, hTxn, rfl⟩

/- Whether a payload can be read decides what is built. -/
theorem builtDlqRecord_isSome_iff
    (payload : List UInt8) :
    (builtDlqRecord config payload).isSome ↔
      deserialiseWithDlq config payload = [] := by
  unfold builtDlqRecord deserialiseWithDlq
  cases deserialiseRawTransaction config.schemalessReader
    payload none with
  | ok txn => simp
  | error exc => simp

/- A payload that can be read gives one transaction. -/
theorem deserialiseWithDlq_eq_singleton
    {payload : List UInt8}
    (hRead : deserialiseWithDlq config payload ≠ []) :
    ∃ txn, deserialiseWithDlq config payload = [txn] := by
  unfold deserialiseWithDlq at hRead ⊢
  split at hRead
  · exact ⟨_, rfl⟩
  · exact absurd rfl hRead

end Job

end FraudStream

------------------------------------------------------------
-- Where A Message Ends
------------------------------------------------------------

namespace FraudStream

namespace Job

open EventTime EventStream

variable (config : JobConfig)

/- Nothing is attached that writes dead-letter records. -/
@[simp] theorem topicRecords_processingDlq
    (clock : ℕ → Int)
    (inputs : List SourceInput) :
    topicRecords config clock inputs .processingDlq = [] :=
  rfl

@[simp] theorem topicRecords_enriched
    (clock : ℕ → Int)
    (inputs : List SourceInput) :
    topicRecords config clock inputs .enriched =
      (elements (deviceStream config inputs)).mapIdx
        (fun i out =>
          .enriched (assemble (clock i) out.2)) := by
  simp [topicRecords, attachedSinks, outletRecords]

theorem written_processingDlq
    (clock : ℕ → Int)
    (before : List SourceInput)
    (message : SourceInput) :
    written config clock before message .processingDlq =
      [] :=
  rfl

/- A rejected message adds no enriched record. -/
theorem deviceStream_concat_rejected
    {before : List SourceInput}
    {t : Int}
    {payload : List UInt8}
    (hNew :
      ∀ txn, deserialiseWithDlq config payload = [txn] →
        txn.transactionId ∉
          (readMessages config before).map
            (·.2.transactionId))
    (hRejected : Rejected config before t payload) :
    deviceStream config (before ++ [.message t payload]) =
      deviceStream config before := by
  have hVelocity :
      velocityStream config
          (before ++ [.message t payload]) =
        velocityStream config before := by
    by_cases hRead : deserialiseWithDlq config payload = []
    · rw [velocityStream, velocityOutputs,
        dedupStream_concat_unreadable config before t hRead,
        velocityStream, velocityOutputs]
    · rcases deserialiseWithDlq_eq_singleton config hRead
        with ⟨txn, hTxn⟩
      have hLate := hRejected.resolve_left hRead
      rcases velocityOutputs_concat config
        (dedupStream_concat_new config before t hTxn
          (hNew txn hTxn)) with ⟨buckets, hOutputs⟩
      simp only [Velocity.processElement, hLate, if_true,
        List.map_singleton] at hOutputs
      rw [velocityStream, hOutputs, flatMap_append,
        flatMap_element, velocityStream]
      simp [mainOutput]
  rw [deviceStream, geoStream, hVelocity, deviceStream,
    geoStream]

/- Any other message adds the record of its transaction. -/
theorem deviceStream_concat_accepted
    {before : List SourceInput}
    {t : Int}
    {payload : List UInt8}
    (hNew :
      ∀ txn, deserialiseWithDlq config payload = [txn] →
        txn.transactionId ∉
          (readMessages config before).map
            (·.2.transactionId))
    (hAccepted : ¬ Rejected config before t payload) :
    ∃ d : DeviceEnriched,
      deserialiseWithDlq config payload = [d.txn] ∧
        deviceStream config
            (before ++ [.message t payload]) =
          deviceStream config before ++
            [.element t d] := by
  rcases not_or.1 hAccepted with ⟨hRead, hInTime⟩
  rcases deserialiseWithDlq_eq_singleton config hRead with
    ⟨txn, hTxn⟩
  rcases velocityOutputs_concat config
    (dedupStream_concat_new config before t hTxn
      (hNew txn hTxn)) with ⟨buckets, hOutputs⟩
  simp only [Velocity.processElement, hInTime, if_false,
    List.map_singleton] at hOutputs
  have hVelocity :
      velocityStream config
          (before ++ [.message t payload]) =
        velocityStream config before ++
          [.element t
            (txn,
              Velocity.computeVelocity
                (Velocity.addTransaction buckets t
                  txn.amount)
                (Velocity.bucketKey t))] := by
    rw [velocityStream, hOutputs, flatMap_append,
      flatMap_element, velocityStream]
    rfl
  rcases deviceStream_concat config hVelocity with
    ⟨d, rfl, hDevice⟩
  exact ⟨d, hTxn, hDevice⟩

/- What a message writes to the topic of enriched records. -/
theorem written_enriched
    (clock : ℕ → Int)
    {before : List SourceInput}
    {t : Int}
    {payload : List UInt8}
    (hNew :
      ∀ txn, deserialiseWithDlq config payload = [txn] →
        txn.transactionId ∉
          (readMessages config before).map
            (·.2.transactionId)) :
    (Rejected config before t payload ∧
        written config clock before (.message t payload)
            .enriched = []) ∨
      ¬ Rejected config before t payload ∧
        ∃ d : DeviceEnriched,
          deserialiseWithDlq config payload = [d.txn] ∧
            written config clock before
                (.message t payload) .enriched =
              [.enriched
                (assemble
                  (clock
                    (elements
                      (deviceStream config
                        before)).length)
                  d)] := by
  by_cases hRejected : Rejected config before t payload
  · refine .inl ⟨hRejected, ?_⟩
    rw [written, topicRecords_enriched,
      topicRecords_enriched,
      deviceStream_concat_rejected config hNew hRejected,
      List.drop_length]
  · rcases deviceStream_concat_accepted config hNew
      hRejected with ⟨d, hTxn, hDevice⟩
    refine .inr ⟨hRejected, d, hTxn, ?_⟩
    rw [written, topicRecords_enriched,
      topicRecords_enriched, hDevice, elements_append,
      List.mapIdx_append, List.drop_left]
    simp [elements]

/- The transaction of a message is not that of an earlier
   message. -/
theorem DistinctIds.new
    {before after : List SourceInput}
    {t : Int}
    {payload : List UInt8}
    (hDistinct :
      DistinctIds config
        (before ++ .message t payload :: after))
    {txn : RawTransaction}
    (hTxn : deserialiseWithDlq config payload = [txn]) :
    txn.transactionId ∉
      (readMessages config before).map
        (·.2.transactionId) := by
  have hMessages :
      readMessages config
          (before ++ .message t payload :: after) =
        readMessages config before ++
          (t, txn) :: readMessages config after := by
    rw [readMessages_append, readMessages, hTxn]
    rfl
  rw [DistinctIds, hMessages, List.map_append,
    List.map_cons] at hDistinct
  have hDisjoint := (List.nodup_append.1 hDistinct).2.2
  intro hMem
  exact hDisjoint _ hMem _ (List.mem_cons_self ..) rfl

/-
  A message of a run is reconciled exactly when it is not
  rejected: no rejected message ends anywhere.
-/
theorem reconciled_iff
    (clock : ℕ → Int)
    (before after : List SourceInput)
    (t : Int)
    (payload : List UInt8)
    (hDistinct :
      DistinctIds config
        (before ++ .message t payload :: after)) :
    Reconciled config clock before t payload ↔
      ¬ Rejected config before t payload := by
  have hNew :
      ∀ txn, deserialiseWithDlq config payload = [txn] →
        txn.transactionId ∉
          (readMessages config before).map
            (·.2.transactionId) :=
    fun _ hTxn => hDistinct.new config hTxn
  constructor
  · intro hReconciled hRejected
    exact
      hReconciled.rejectedToDlq hRejected
        (written_processingDlq ..)
  · intro hAccepted
    rcases written_enriched config clock hNew with
      ⟨hRejected, -⟩ | ⟨-, d, -, hWritten⟩
    · exact absurd hRejected hAccepted
    · refine
        ⟨⟨.enriched, ?_, ?_⟩,
          fun hRejected => absurd hRejected hAccepted⟩
      · rw [hWritten, List.length_singleton]
      · intro other hOther
        cases other with
        | enriched => exact absurd rfl hOther
        | processingDlq => exact written_processingDlq ..

/- The message of the sample transaction ends once on the
   topic of enriched records. -/
theorem reconciled_oneMessage :
    DistinctIds sampleConfig (oneMessage 5) ∧
      ¬ Rejected sampleConfig [] 5 samplePayload ∧
      Reconciled sampleConfig (fun _ => 1000) [] 5
        samplePayload := by
  have hDistinct :
      DistinctIds sampleConfig
        ([] ++ .message 5 samplePayload :: []) := by
    simp [DistinctIds, readMessages,
      deserialise_samplePayload]
  have hAccepted :
      ¬ Rejected sampleConfig [] 5 samplePayload := by
    rintro (hRead | ⟨hMark, -⟩)
    · simp [deserialise_samplePayload] at hRead
    · exact hMark rfl
  exact
    ⟨hDistinct, hAccepted,
      (reconciled_iff sampleConfig (fun _ => 1000) [] [] 5
        samplePayload hDistinct).2 hAccepted⟩

/- A dead-letter record is built for an empty payload, and
   the message ends on neither topic. -/
theorem malformed_message_ends_nowhere :
    DistinctIds sampleConfig [.message 0 []] ∧
      (builtDlqRecord sampleConfig []).isSome ∧
      (∀ topic,
        topicRecords sampleConfig (fun _ => 0)
          [.message 0 []] topic = []) ∧
      ¬ Reconciled sampleConfig (fun _ => 0) [] 0 [] := by
  have hRead : deserialiseWithDlq sampleConfig [] = [] := by
    decide
  refine ⟨?_, ?_, ?_, ?_⟩
  · simp [DistinctIds, readMessages, hRead]
  · exact (builtDlqRecord_isSome_iff sampleConfig []).2 hRead
  · intro topic
    cases topic with
    | enriched =>
        rw [topicRecords_enriched]
        simp [deviceStream, geoStream, velocityStream,
          velocityOutputs, dedupStream, txnStream,
          sourceStream, flatMap, Item.flatMap, hRead,
          Operator.transform, Operator.transformFrom,
          elements]
    | processingDlq => rfl
  · intro hReconciled
    exact
      hReconciled.rejectedToDlq (.inl hRead)
        (written_processingDlq ..)

end Job

end FraudStream
