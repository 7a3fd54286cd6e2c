import FraudStream.Processing.DeadLetterWire
import FraudStream.Processing.Job.WireTransactions
import FraudStream.Replay.LetterScoring
import FraudStream.Replay.RangeEvents
import FraudStream.Replay.UncomparedEvents

/-
  Replaying messages in the wire format.

  Such a message starts with a zero byte, and no JSON text
  does. Both adapters keep the text of its bytes under one
  name, which no filter looks at and which is no decision. So
  the dead letters of the processing job are replayed whatever
  topic and times are asked for, and the function scores no
  field of them, nor of an event of the API.

  Key definitions include:
    * `JsonText.loadsUtf8`
    * `ReplayRuntime.ReadsWire`
    * `KafkaMessage.IsWire`
    * `rawPayload`

  Main results:
    * `ReplayJob.processing_dead_letters_are_raw`
    * `ReplayJob.api_events_are_raw`
-/

------------------------------------------------------------
-- Texts That Start With A Zero
------------------------------------------------------------

namespace JsonText

/- `json.loads(bytes.decode("utf-8"))` -/
def loadsUtf8
    (depth : Nat)
    (bytes : List UInt8) : Except LoadsError JsonValue :=
  (decodeUtf8 bytes).elim (.error .unicodeDecodeError)
    (fun cs =>
      (scanOnce depth (skipBlanks cs)).bind
        (fun read =>
          if skipBlanks read.2 = [] then
            .ok read.1
          else
            .error .jsonDecodeError))

/- No value starts with the character zero. -/
theorem scanOnce_zero
    (depth : Nat)
    (cs : List Char) :
    scanOnce depth (ofCode 0 :: cs) =
      .error .jsonDecodeError := by
  have hFlat :
      scanFlat (ofCode 0 :: cs) =
        .error .jsonDecodeError := by
    rfl
  cases depth with
  | zero => exact hFlat
  | succ depth => exact hFlat

theorem loadsUtf8_zero
    (depth : Nat)
    (bytes : List UInt8) :
    loadsUtf8 depth (0 :: bytes) = .error .unicodeDecodeError ∨
      loadsUtf8 depth (0 :: bytes) =
        .error .jsonDecodeError := by
  unfold loadsUtf8
  rw [decodeUtf8_cons_of_lt (by decide)]
  cases decodeUtf8 bytes with
  | none => exact .inl rfl
  | some cs =>
      have hBlanks :
          skipBlanks (ofCode 0 :: cs) = ofCode 0 :: cs := by
        rfl
      refine .inr ?_
      simp only [Option.map_some, UInt8.toNat_zero,
        Option.elim_some]
      rw [hBlanks, scanOnce_zero]
      rfl

end JsonText

------------------------------------------------------------
-- Messages In The Wire Format
------------------------------------------------------------

namespace FraudStream

/- The runtime reads what starts like the wire format. -/
def ReplayRuntime.ReadsWire
    (rt : ReplayRuntime)
    (depth : Nat) : Prop :=
  ∀ bytes,
    rt.loads (confluentMagic :: bytes) =
      loadedOf
        (JsonText.loadsUtf8 depth (confluentMagic :: bytes))

def KafkaMessage.IsWire (m : KafkaMessage) : Prop :=
  ∃ bytes, m.value = some (confluentMagic :: bytes)

/- The payload of what is no JSON. -/
def ReplayRuntime.rawObject
    (rt : ReplayRuntime)
    (bytes : List UInt8) : JsonObject :=
  .ofList [("raw", .str (rt.replaceText bytes))]

/- The offset of a message with the payload that it gets. -/
def rawPayload
    (rt : ReplayRuntime)
    (m : KafkaMessage) : Int × JsonObject :=
  (m.offset, rt.rawObject (m.value.getD []))

variable
  {rt : ReplayRuntime}
  {depth : Nat}

theorem ReplayRuntime.ReadsWire.decode_eq
    (hReads : rt.ReadsWire depth)
    (bytes : List UInt8) :
    rt.decode (confluentMagic :: bytes) =
      .object (rt.rawObject (confluentMagic :: bytes)) := by
  have hMalformed :
      rt.loads (confluentMagic :: bytes) = .malformed := by
    rw [hReads]
    rcases JsonText.loadsUtf8_zero depth bytes with
      hError | hError
    · rw [confluentMagic, hError]
      rfl
    · rw [confluentMagic, hError]
      rfl
  unfold ReplayRuntime.decode
  rw [hMalformed]
  rfl

theorem uncompared_rawObject
    (rt : ReplayRuntime)
    (bytes : List UInt8) :
    Uncompared (rt.rawObject bytes) := by
  intro name hName
  simp only [comparedNames, List.mem_cons, List.not_mem_nil,
    or_false] at hName
  rcases hName with rfl | rfl | rfl <;> rfl

theorem uncompared_rawPayload
    (rt : ReplayRuntime)
    (ms : List KafkaMessage) :
    ∀ x ∈ ms.map (rawPayload rt), Uncompared x.2 := by
  intro x hMem
  rcases List.mem_map.1 hMem with ⟨m, -, rfl⟩
  exact uncompared_rawObject rt _

/- The Kafka adapter keeps the text of each message. -/
theorem KafkaSourceAdapter.makes_raw
    (hReads : rt.ReadsWire depth)
    (cfg : KafkaSourceConfig)
    {ms : List KafkaMessage}
    (hWire : ∀ m ∈ ms, m.IsWire) :
    List.Forall₂
      (fun m x =>
        ∀ poll, ∃ e,
          eventOf? rt cfg poll m = some e ∧
            e.sourceEvent.Holds x)
      ms (ms.map (rawPayload rt)) := by
  rw [List.forall₂_map_right_iff, List.forall₂_same]
  intro m hMem poll
  rcases hWire m hMem with ⟨bytes, hValue⟩
  unfold eventOf? rawPayload
  rw [hValue, Option.map_some, hReads.decode_eq]
  exact ⟨_, rfl, rfl, rfl⟩

namespace DLQSourceAdapter

variable {cfg : DLQSourceConfig}

/- No filter removes a message in the wire format. -/
theorem readMessage_wire
    (cfg : DLQSourceConfig)
    (hReads : rt.ReadsWire depth)
    {m : KafkaMessage}
    (hWire : m.IsWire)
    (range : TimeRange)
    (position : Nat) :
    ∃ e,
      readMessage rt cfg range position m = .event e ∧
        e.sourceEvent.Holds (rawPayload rt m) := by
  rcases hWire with ⟨bytes, hValue⟩
  have hTopic
      (text : List UInt8) :
      isOfOtherTopic cfg (rt.rawObject text) = false :=
    rfl
  have hTime
      (text : List UInt8) :
      isFilteredByTime rt range (rt.rawObject text) =
        false := by
    unfold isFilteredByTime
    split
    · rfl
    · rfl
  unfold readMessage rawPayload
  rw [hValue, Option.map_some, hReads.decode_eq]
  simp only [hTopic, hTime, Bool.false_eq_true, if_false]
  exact ⟨_, rfl, rfl, rfl⟩

theorem iterateFrom_wire
    (hReads : rt.ReadsWire depth)
    {ms : List KafkaMessage}
    (hWire : ∀ m ∈ ms, m.IsWire)
    (range : TimeRange)
    (position count : Nat)
    (hMax :
      ((count + ms.length : Nat) : Int) ≤ cfg.maxMessages) :
    (iterateFrom rt cfg range position count ms).raised =
        false ∧
      List.Forall₂
        (fun m (e : Nat × DlqEvent) =>
          e.2.sourceEvent.Holds (rawPayload rt m))
        ms
        (iterateFrom rt cfg range position count
          ms).events := by
  induction ms generalizing position count with
  | nil => exact ⟨rfl, .nil⟩
  | cons m ms ih =>
      rcases List.forall_mem_cons.1 hWire with
        ⟨hFirst, hOthers⟩
      have hRoom : (count : Int) < cfg.maxMessages := by
        simp only [List.length_cons] at hMax
        omega
      have hRest :=
        ih hOthers (position + 1) (count + 1)
          (by simp only [List.length_cons] at hMax; omega)
      rcases
        readMessage_wire cfg hReads hFirst range
          position with
        ⟨e, hRead, hHolds⟩
      rw [iterateFrom, if_pos hRoom, hRead]
      exact ⟨hRest.1, .cons hHolds hRest.2⟩

end DLQSourceAdapter

end FraudStream

------------------------------------------------------------
-- Where Such Messages Come From
------------------------------------------------------------

namespace FraudStream

namespace ProcessingDLQSink

def IsWireMessage (message : DlqMessage) : Prop :=
  ∃ bytes, message.value = confluentMagic :: bytes

theorem isWire_of_serialised
    {record : DlqRecord}
    {stamp : DlqStamp}
    {schemaId : Nat}
    {value : List UInt8}
    (hValue :
      serialiseDlqRecord record stamp schemaId =
        some value) :
    ∃ bytes, value = confluentMagic :: bytes := by
  unfold serialiseDlqRecord at hValue
  simp only [Option.bind_eq_bind] at hValue
  rcases Option.bind_eq_some_iff.1 hValue with
    ⟨avroBytes, -, hRest⟩
  rcases Option.bind_eq_some_iff.1 hRest with
    ⟨idBytes, -, hEq⟩
  exact ⟨_, (Option.some.inj hEq).symm⟩

/- Whatever a sink has produced, it adds messages in the wire
   format. -/
theorem isWire_step
    {sink : ProcessingDLQSink}
    (hWire : ∀ message ∈ sink.produced, IsWireMessage message)
    (call : DlqCall) :
    ∀ message ∈ (sink.step call).produced,
      IsWireMessage message := by
  cases call with
  | «open» isMade => cases isMade <;> exact hWire
  | flush isFlushed => exact hWire
  | close isFlushed =>
      simp only [step]
      split <;> exact hWire
  | send sent =>
      cases hValue :
          serialiseDlqRecord sent.record sent.stamp
            sink.schemaId with
      | none =>
          have hSame : sink.send sent = sink := by
            unfold send
            rw [hValue]
            split <;> rfl
          rw [step, hSame]
          exact hWire
      | some value =>
          rw [step, send_of_message hValue]
          split
          · intro message hMem
            rcases List.mem_append.1 hMem with hOld | hNew
            · exact hWire message hOld
            · rw [List.mem_singleton.1 hNew]
              exact isWire_of_serialised hValue
          · exact hWire

theorem isWire_run
    {sink : ProcessingDLQSink}
    (hWire : ∀ message ∈ sink.produced, IsWireMessage message)
    (calls : List DlqCall) :
    ∀ message ∈ (sink.run calls).produced,
      IsWireMessage message := by
  induction calls generalizing sink with
  | nil => exact hWire
  | cons call calls ih => exact ih (isWire_step hWire call)

end ProcessingDLQSink

/- An event is carried in the wire format. -/
theorem isWire_of_carriedBy
    {event : TransactionEvent}
    {payload : List UInt8}
    {m : KafkaMessage}
    (hCarried : CarriedBy event payload)
    (hValue : m.value = some payload) :
    m.IsWire := by
  rcases hCarried with ⟨schemaId, avroPayload, -, -, rfl⟩
  exact ⟨_, hValue⟩

end FraudStream

------------------------------------------------------------
-- Replays Without A Field
------------------------------------------------------------

namespace FraudStream

namespace ReplayJob

open PolledLog
open KafkaSourceAdapter (wholeRange)

variable
  {rt : ReplayRuntime}
  {depth : Nat}
  {scoringFn : ScoringFn}
  {env : ReplayEnv SourceEvent ProcessedEvent}
  {total : Int}

/-
  A job over messages that a run of the sink produced takes
  all of them, whatever topic and times it asks for. The
  function scores the text of each message, and no result has
  anything to compare with.
-/
theorem processing_dead_letters_are_raw
    {cfg : DLQSourceConfig}
    {range : TimeRange}
    {topic : String}
    {schemaId : Nat}
    {calls : List DlqCall}
    {ms : List KafkaMessage}
    (hReads : rt.ReadsWire depth)
    (hRange : DLQSourceAdapter.timeRange? rt cfg = some range)
    (hProduced :
      ∀ m ∈ ms,
        ∃ message ∈
            ((ProcessingDLQSink.created topic schemaId).run
              calls).produced,
          m.value = some message.value)
    (hMax : (ms.length : Int) ≤ cfg.maxMessages)
    (hEvents :
      env.events =
        (DLQSourceAdapter.iterate rt cfg ms).events.map
          (fun e => e.2.sourceEvent))
    (hScores : env.Scores rt scoringFn)
    (hScorable : scoringFn.RaisesErrors)
    (hUncancelled : env.Uncancelled total) :
    (DLQSourceAdapter.iterate rt cfg ms).raised = false ∧
      EndsUncompared scoringFn env total
        (ms.map (rawPayload rt)) := by
  have hWire : ∀ m ∈ ms, m.IsWire := by
    intro m hMem
    rcases hProduced m hMem with ⟨message, hRun, hValue⟩
    rcases
      ProcessingDLQSink.isWire_run
        (List.forall_mem_nil _) calls message hRun with
      ⟨bytes, hBytes⟩
    exact ⟨bytes, hBytes ▸ hValue⟩
  have hIterate :
      DLQSourceAdapter.iterate rt cfg ms =
        DLQSourceAdapter.iterateFrom rt cfg range 0 0 ms := by
    unfold DLQSourceAdapter.iterate
    rw [hRange]
  have hReplay :=
    DLQSourceAdapter.iterateFrom_wire hReads hWire range 0 0
      (by rw [Nat.zero_add]; exact hMax)
  rw [← hIterate] at hReplay
  have hHolds :
      List.Forall₂ (fun x (e : SourceEvent) => e.Holds x)
        (ms.map (rawPayload rt)) env.events := by
    rw [hEvents, List.forall₂_map_left_iff,
      List.forall₂_map_right_iff]
    exact hReplay.2
  exact
    ⟨hReplay.1,
      start_of_uncompared (uncompared_rawPayload rt ms)
        hHolds hScores hScorable hUncancelled⟩

/- A runtime that reads JSON as the adapters do. -/
def wireRuntime : ReplayRuntime where
  loads := fun bytes =>
    loadedOf (JsonText.loadsUtf8 900 bytes)
  replaceText := fun _ => ""
  table := asciiTable
  fromisoformat := fun _ => none
  now := fun _ => "2026-01-01T00:00:00+00:00"

theorem readsWire_wireRuntime : wireRuntime.ReadsWire 900 :=
  fun _ => rfl

/- The messages of the sample calls of the sink. -/
def sentMessages : List KafkaMessage :=
  ((ProcessingDLQSink.created "txn.processing.dlq" 0).run
      ProcessingDLQSink.sampleCalls).produced.map
    (fun message =>
      DLQSourceAdapter.messageOf (some message.value))

theorem sent_message_is_raw :
    (DLQSourceAdapter.iterate wireRuntime
          DLQSourceAdapter.replayAll sentMessages).raised =
        false ∧
      EndsUncompared dummyScoring
        (dummyEnv wireRuntime
          ((DLQSourceAdapter.iterate wireRuntime
            DLQSourceAdapter.replayAll
            sentMessages).events.map
              (fun e => e.2.sourceEvent)))
        ((DLQSourceAdapter.iterate wireRuntime
          DLQSourceAdapter.replayAll
          sentMessages).events.map
            (fun e => e.2.sourceEvent)).length
        (sentMessages.map (rawPayload wireRuntime)) := by
  have hProduced :
      ∀ m ∈ sentMessages,
        ∃ message ∈
            ((ProcessingDLQSink.created "txn.processing.dlq"
              0).run ProcessingDLQSink.sampleCalls).produced,
          m.value = some message.value := by
    intro m hMem
    unfold sentMessages at hMem
    rcases List.mem_map.1 hMem with ⟨message, hRun, rfl⟩
    exact ⟨message, hRun, rfl⟩
  have hMax :
      (sentMessages.length : Int) ≤
        DLQSourceAdapter.replayAll.maxMessages := by
    decide +kernel
  exact
    processing_dead_letters_are_raw readsWire_wireRuntime rfl
      hProduced hMax (events_dummyEnv _ _)
      (scores_dummyEnv _ _) raisesErrors_dummyScoring
      (uncancelled_dummyEnv _ _)

/-
  A job over a range of the topic of the API scores the text
  of each message, whatever events the messages carry, and no
  result has anything to compare with.
-/
theorem api_events_are_raw
    {cfg : KafkaSourceConfig}
    {log : PartitionLog}
    {deliveries : Nat → Delivery}
    {highWatermark : Option Int}
    {polls : Nat}
    (hReads : rt.ReadsWire depth)
    (hCarried :
      ∀ m ∈ log.messages, ∃ event payload,
        CarriedBy event payload ∧ m.value = some payload)
    (hInside : KafkaSourceAdapter.Inside cfg log)
    (hDelivers : ∀ p, deliveries p = .next)
    (hPolls :
      (cfg.endOffset - cfg.startOffset).toNat ≤ polls)
    (hEvents :
      env.events =
        (KafkaSourceAdapter.iterEvents rt cfg log deliveries
          highWatermark polls).map KafkaEvent.sourceEvent)
    (hScores : env.Scores rt scoringFn)
    (hScorable : scoringFn.RaisesErrors)
    (hUncancelled : env.Uncancelled total) :
    EndsUncompared scoringFn env total
      (cfg.slice log (log.messages.map (rawPayload rt))) := by
  have hWire : ∀ m ∈ log.messages, m.IsWire := by
    intro m hMem
    rcases hCarried m hMem with
      ⟨event, payload, hEvent, hValue⟩
    exact isWire_of_carriedBy hEvent hValue
  have hMade :=
    KafkaSourceAdapter.iterEvents_of_makes
      (KafkaSourceAdapter.makes_raw hReads cfg hWire) hInside
      hDelivers highWatermark hPolls
  have hHolds :
      List.Forall₂ (fun x (e : SourceEvent) => e.Holds x)
        (cfg.slice log (log.messages.map (rawPayload rt)))
        env.events := by
    rw [hEvents, List.forall₂_map_right_iff]
    exact hMade
  have hUncompared :
      ∀ x ∈
          cfg.slice log (log.messages.map (rawPayload rt)),
        Uncompared x.2 :=
    fun x hMem =>
      uncompared_rawPayload rt log.messages x
        (KafkaSourceAdapter.mem_of_mem_slice hMem)
  exact
    start_of_uncompared hUncompared hHolds hScores hScorable
      hUncancelled

/- A message of an event. -/
def apiMessage (placed : TransactionEvent × Nat) :
    KafkaMessage where
  partition := 0
  offset := placed.2
  key := none
  value :=
    some
      (wirePayload [0, 0, 0, 1]
        ((serialise placed.1).getD []))

/- The delivered event, twice. -/
def repeatedEvents : List TransactionEvent :=
  Job.deliveredEvents ++ Job.deliveredEvents

theorem offset_apiMessage
    (i : Nat)
    (m : KafkaMessage)
    (hFound :
      (repeatedEvents.zipIdx.map apiMessage)[i]? = some m) :
    m.offset = 0 + i := by
  rw [List.getElem?_map, List.getElem?_zipIdx,
    Option.map_map] at hFound
  rcases Option.map_eq_some_iff.1 hFound with ⟨event, -, rfl⟩
  simp [apiMessage]

def apiLog : PartitionLog where
  messages := repeatedEvents.zipIdx.map apiMessage
  lowOffset := 0
  nonneg := PartitionLog.zero_nonneg
  contiguous := offset_apiMessage

theorem delivered_event_is_raw :
    EndsUncompared dummyScoring
      (dummyEnv wireRuntime
        ((KafkaSourceAdapter.iterEvents wireRuntime
          wholeRange apiLog (fun _ => .next) none 2).map
            KafkaEvent.sourceEvent))
      ((KafkaSourceAdapter.iterEvents wireRuntime
        wholeRange apiLog (fun _ => .next) none 2).map
          KafkaEvent.sourceEvent).length
      (wholeRange.slice apiLog
        (apiLog.messages.map (rawPayload wireRuntime))) := by
  have hAll :
      repeatedEvents.all
        (fun event => (serialise event).isSome) = true := by
    decide +kernel
  have hCarried :
      ∀ m ∈ apiLog.messages, ∃ event payload,
        CarriedBy event payload ∧ m.value = some payload := by
    intro m hMem
    unfold apiLog at hMem
    dsimp only at hMem
    rcases List.mem_map.1 hMem with ⟨placed, hPlaced, rfl⟩
    have hEvent : placed.1 ∈ repeatedEvents :=
      List.fst_mem_of_mem_zipIdx hPlaced
    rcases
      Option.isSome_iff_exists.1
        (List.all_eq_true.1 hAll placed.1 hEvent) with
      ⟨avroPayload, hWrite⟩
    refine
      ⟨placed.1, wirePayload [0, 0, 0, 1] avroPayload,
        ⟨[0, 0, 0, 1], avroPayload, rfl, hWrite, rfl⟩, ?_⟩
    unfold apiMessage
    rw [hWrite, Option.getD_some]
  have hTwo : apiLog.messages.length = 2 := by
    decide +kernel
  have hInside :
      KafkaSourceAdapter.Inside wholeRange apiLog := by
    refine ⟨le_refl 0, zero_le_one, ?_⟩
    unfold PartitionLog.highOffset
    rw [hTwo]
    decide
  exact
    api_events_are_raw readsWire_wireRuntime hCarried hInside
      (fun _ => rfl) (by decide) (events_dummyEnv _ _)
      (scores_dummyEnv _ _) raisesErrors_dummyScoring
      (uncancelled_dummyEnv _ _)

end ReplayJob

end FraudStream
