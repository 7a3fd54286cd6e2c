import FraudStream.Library.JsonValue
import FraudStream.Library.PolledLog

/-
  The adapters that replay events from Kafka.

  The Kafka adapter is assigned an offset range of one
  partition. The dead-letter adapter subscribes to a topic
  and filters its messages. Both create their consumer when
  it is first needed. Decoding, parsing of times and the
  clock, read at the number of a poll, are parameters.

  Key definitions include:
    * `ReplayRuntime`
    * `DLQSourceAdapter.readMessage`
    * `DLQSourceAdapter.reader`
    * `DLQSourceAdapter.getEventCount`
    * `KafkaSourceAdapter.reader`
    * `KafkaSourceAdapter.getEventCount`
-/

------------------------------------------------------------
-- Messages
------------------------------------------------------------

namespace FraudStream

structure KafkaMessage where
  partition : Int
  offset : Int
  key : Option (List UInt8)
  value : Option (List UInt8)
deriving DecidableEq, Repr

/- What `json.loads` makes of a decoded value. A text that is
   not JSON is caught; another error is not. -/
inductive Loaded where
| object (o : JsonObject)
| other (v : JsonValue)
| malformed
| raised

/- A time stamp. Only stamps that both have a zone, or both
   have none, are compared. -/
structure DateTime where
  micros : Int
  hasZone : Bool
deriving DecidableEq, Repr

/- What the adapters take from the runtime. -/
structure ReplayRuntime where
  loads : List UInt8 → Loaded
  replaceText : List UInt8 → String
  table : TextTable
  fromisoformat : String → Option DateTime
  now : Nat → String

/- `x < y`, unless the comparison raises. -/
def DateTime.before? (x y : DateTime) : Option Bool :=
  if x.hasZone = y.hasZone then
    some (x.micros < y.micros)
  else
    none

namespace ReplayRuntime

/- A message value that is not JSON is kept as text. -/
def decode
    (rt : ReplayRuntime)
    (bytes : List UInt8) : Loaded :=
  match rt.loads bytes with
  | .malformed =>
      .object (.ofList [("raw", .str (rt.replaceText bytes))])
  | loaded => loaded

/- A runtime at a fixed time that reads the empty object. -/
def emptyObjects : ReplayRuntime where
  loads := fun _ => .object .empty
  replaceText := fun _ => ""
  table :=
    { isPrintable := fun _ => true, floatText := fun _ => "" }
  fromisoformat := fun _ => none
  now := fun _ => "2026-01-01T00:00:00+00:00"

end ReplayRuntime

end FraudStream

------------------------------------------------------------
-- The Dead-Letter Adapter
------------------------------------------------------------

namespace FraudStream

structure DLQSourceConfig where
  sourceTopic : String
  dlqTopic : String
  startTime : Option String
  endTime : Option String
  maxMessages : Int

structure DlqEvent where
  eventId : JsonValue
  timestamp : JsonValue
  payload : JsonValue
  dlqTopic : String
  sourceTopic : String
  errorReason : JsonValue
  retryCount : JsonValue
  dlqTimestamp : JsonValue
  offset : Int

/- The time filters of a configuration. -/
structure TimeRange where
  startTime : Option DateTime
  endTime : Option DateTime

namespace DLQSourceAdapter

open PolledLog

variable (rt : ReplayRuntime)
variable (cfg : DLQSourceConfig)

/- A filter that is given must be a time. -/
def parseTime (text : Option String) :
    Option (Option DateTime) :=
  match text with
  | none => some none
  | some text =>
      if text = "" then
        some none
      else
        (rt.fromisoformat (text.replace "Z" "+00:00")).map
          some

/- The filters, unless one raises. -/
def timeRange? : Option TimeRange :=
  match parseTime rt cfg.startTime, parseTime rt cfg.endTime with
  | some startTime, some endTime =>
      some { startTime := startTime, endTime := endTime }
  | _, _ => none

/- The message names another source topic. -/
def isOfOtherTopic (value : JsonObject) : Bool :=
  let topic :=
    (Dict.get? value "source_topic").getD
      ((Dict.get? value "original_topic").getD (.str ""))
  topic.truthy &&
    match topic with
    | .str s => s ≠ cfg.sourceTopic
    | _ => true

/- The message is before the start or after the end. Times
   that cannot be compared end the check. -/
def isOutside (range : TimeRange) (t : DateTime) : Bool :=
  let isAfterEnd :=
    match range.endTime with
    | none => false
    | some endTime => (endTime.before? t).getD false
  match range.startTime with
  | none => isAfterEnd
  | some startTime =>
      match t.before? startTime with
      | none => false
      | some true => true
      | some false => isAfterEnd

/- The message has a time, and it is out of the range. -/
def isFilteredByTime
    (range : TimeRange)
    (value : JsonObject) : Bool :=
  if range.startTime.isNone && range.endTime.isNone then
    false
  else
    let time :=
      (Dict.get? value "timestamp").getD
        ((Dict.get? value "error_time").getD .null)
    if time.truthy then
      match
        rt.fromisoformat
          ((time.text rt.table).replace "Z" "+00:00")
      with
      | none => false
      | some t => isOutside range t
    else
      false

/- `0` -/
def zero : JsonValue :=
  .int { value := 0, short := JsonInt.zero_short }

def eventOf
    (poll : Nat)
    (m : KafkaMessage)
    (value : JsonObject) : DlqEvent where
  eventId :=
    (Dict.get? value "original_id").getD
      (.str ("dlq-" ++ toString m.offset))
  timestamp :=
    (Dict.get? value "original_timestamp").getD
      (.str (rt.now poll))
  payload :=
    (Dict.get? value "original_payload").getD
      (.dict value.entries)
  dlqTopic := cfg.dlqTopic
  sourceTopic := cfg.sourceTopic
  errorReason :=
    (Dict.get? value "error_reason").getD
      ((Dict.get? value "error").getD (.str "unknown"))
  retryCount := (Dict.get? value "retry_count").getD zero
  dlqTimestamp := (Dict.get? value "timestamp").getD .null
  offset := m.offset

inductive Read where
| raised
| filtered
| event (e : DlqEvent)

/- What becomes of a message. A value that is missing or no
   object raises. -/
def readMessage
    (range : TimeRange)
    (poll : Nat)
    (m : KafkaMessage) : Read :=
  match m.value.map rt.decode with
  | some (.object value) =>
      if isOfOtherTopic cfg value then
        .filtered
      else if isFilteredByTime rt range value then
        .filtered
      else
        .event (eventOf rt cfg poll m value)
  | _ => .raised

/- The loop of `iter_events`, at the number of events so far.
   An event is given with the position of its message. -/
def reader
    (range : TimeRange) :
    Reader KafkaMessage Nat (Nat × DlqEvent) where
  goesOn count := (count : Int) < cfg.maxMessages
  body poll count a :=
    match a with
    | .nothing => .stop
    | .failure => .skip count
    | .message position m =>
        match readMessage rt cfg range poll m with
        | .raised => .stop
        | .filtered => .skip count
        | .event e => .emit (count + 1) (position, e)

/- A consumer that was not used yet. -/
def freshConsumer : Consumer where
  polls := 0
  position := 0

/- `_count_dlq_messages`: a poll, and the watermarks of the
   assigned partitions that have some. -/
def countDlqMessages
    (b : Broker KafkaMessage)
    (watermarks : List (Option (Int × Int)))
    (c : Consumer) : Int × Consumer :=
  ((watermarks.map (fun w =>
      match w with
      | some (low, high) => high - low
      | none => 0)).sum,
    poll b c)

def getEventCount
    (b : Broker KafkaMessage)
    (watermarks : List (Option (Int × Int)))
    (consumer : Option Consumer) : Int × Option Consumer :=
  let counted :=
    countDlqMessages b watermarks
      (consumer.getD freshConsumer)
  (min cfg.maxMessages counted.1, some counted.2)

/- The events that `iter_events` has yielded after a number
   of polls. -/
def iterEvents
    (b : Broker KafkaMessage)
    (consumer : Option Consumer)
    (polls : Nat) : List (Nat × DlqEvent) :=
  match timeRange? rt cfg with
  | none => []
  | some range =>
      emitted b (reader rt cfg range) polls
        (consumer.getD freshConsumer) 0

end DLQSourceAdapter

end FraudStream

------------------------------------------------------------
-- The Kafka Adapter
------------------------------------------------------------

namespace FraudStream

/- The end is `-1` for the latest offset. -/
structure KafkaSourceConfig where
  topic : String
  startOffset : Int
  endOffset : Int
  partition : Int

structure KafkaEvent where
  eventId : String
  timestamp : String
  payload : JsonValue
  topic : String
  partition : Int
  offset : Int
  key : Option String

/- A partition whose offsets have no gaps. -/
structure PartitionLog where
  messages : List KafkaMessage
  lowOffset : Int
  nonneg : 0 ≤ lowOffset
  contiguous :
    ∀ (i : Nat) m,
      messages[i]? = some m → m.offset = lowOffset + i

namespace PartitionLog

/- The high watermark: the offset after the last one. -/
def highOffset (log : PartitionLog) : Int :=
  log.lowOffset + log.messages.length

end PartitionLog

namespace KafkaSourceAdapter

open PolledLog

variable (rt : ReplayRuntime)
variable (cfg : KafkaSourceConfig)

/- The end of the range, with the high watermark for the
   latest offset. -/
def resolvedEnd (highWatermark : Option Int) : Int :=
  if cfg.endOffset < 0 then
    highWatermark.getD cfg.endOffset
  else
    cfg.endOffset

def getEventCount (highWatermark : Option Int) : Int :=
  max 0 (resolvedEnd cfg highWatermark - cfg.startOffset)

/- The text of a key that is not empty. -/
def keyText (m : KafkaMessage) : Option String :=
  match m.key with
  | none => none
  | some [] => none
  | some bytes => some (rt.replaceText bytes)

/- The event of a message, unless its value raises. -/
def eventOf?
    (poll : Nat)
    (m : KafkaMessage) : Option KafkaEvent :=
  let event := fun payload =>
    { eventId :=
        (keyText rt m).getD
          (cfg.topic ++ "-" ++ toString m.partition ++ "-" ++
            toString m.offset)
      timestamp := rt.now poll
      payload := payload
      topic := cfg.topic
      partition := m.partition
      offset := m.offset
      key := keyText rt m }
  match m.value.map rt.decode with
  | some (.object value) => some (event (.dict value.entries))
  | some (.other v) => some (event v)
  | _ => none

/- The loop of `iter_events`, at the current offset. -/
def reader
    (endOffset : Int) :
    Reader KafkaMessage Int KafkaEvent where
  goesOn currentOffset := currentOffset < endOffset
  body poll _ a :=
    match a with
    | .message _ m =>
        if endOffset ≤ m.offset then
          .stop
        else
          match eventOf? rt cfg poll m with
          | none => .stop
          | some e => .emit m.offset e
    | _ => .stop

/- The consumer that is assigned the start of the range. -/
def assigned (log : PartitionLog) : Consumer where
  polls := 0
  position := (cfg.startOffset - log.lowOffset).toNat

/- The events that `iter_events` has yielded after a number
   of polls. -/
def iterEvents
    (log : PartitionLog)
    (deliveries : Nat → Delivery)
    (highWatermark : Option Int)
    (polls : Nat) : List KafkaEvent :=
  emitted
    { log := log.messages, deliveries := deliveries }
    (reader rt cfg (resolvedEnd cfg highWatermark)) polls
    (assigned cfg log) cfg.startOffset

end KafkaSourceAdapter

end FraudStream
