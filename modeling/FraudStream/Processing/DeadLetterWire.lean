import FraudStream.Ingestion.WireFormat
import FraudStream.Processing.Transaction

/-
  The dead letters of the processing job on the wire.

  The sink writes a record with a schema of its own, in which
  the type of the error is a text. The schema that is
  registered for the topic has an enumeration there. A record
  comes back whole with the schema of the sink, and cannot be
  read at all with the registered one.

  Key definitions include:
    * `dlqSchema`
    * `registeredDlqSchema`
    * `serialiseDlqRecord`
    * `ProcessingDLQSink`

  Main results:
    * `readRecord_serialised`
    * `readRecord_registered`
    * `ProcessingDLQSink.sent_records_are_unregistered`
-/

------------------------------------------------------------
-- Records
------------------------------------------------------------

namespace FraudStream

/- A value of a dead-letter record. Times are written as
   integers. -/
inductive DlqValue where
| null
| str : String → DlqValue
| int : Int → DlqValue
| bytes : List UInt8 → DlqValue
| time : (millis : Int) → DlqValue
deriving DecidableEq

namespace DlqValue

def isNull : DlqValue → Bool
| .null => true
| _ => false

def text? : DlqValue → Option String
| .str s => some s
| _ => none

def long? : DlqValue → Option Int
| .int n =>
    if -2 ^ 63 ≤ n ∧ n < 2 ^ 63 then some n else none
| _ => none

def bytes? : DlqValue → Option (List UInt8)
| .bytes bs => some bs
| _ => none

/- A UTC time of the years that a `datetime` has. -/
def time? (millis : Int) : Option DlqValue :=
  match datetime? millis with
  | some (.time t) => some (.time t)
  | _ => none

end DlqValue

/- What a record is stamped with. -/
structure DlqStamp where
  dlqId : Uuid
  failedAt : Int
  processorHost : String

/- The entries of a record, with its times as given. -/
def DlqRecord.entriesWith
    (record : DlqRecord)
    (stamp : DlqStamp)
    (time : Int → DlqValue) : List (String × DlqValue) :=
  [("dlq_id", .str stamp.dlqId.text),
    ("source_topic", .str record.sourceTopic),
    ("source_partition", .int record.sourcePartition),
    ("source_offset", .int record.sourceOffset),
    ("transaction_id",
      (record.transactionId.map DlqValue.str).getD .null),
    ("original_payload_bytes",
      .bytes record.originalPayloadBytes),
    ("error_type", .str record.errorType),
    ("error_message", .str record.errorMessage),
    ("watermark_at_rejection",
      (record.watermarkAtRejection.map time).getD .null),
    ("event_time_at_rejection",
      (record.eventTimeAtRejection.map time).getD .null),
    ("failed_at", time stamp.failedAt),
    ("processor_host", .str stamp.processorHost),
    ("processor_subtask_index",
      .int record.processorSubtaskIndex)]

/- The dictionary that is written. -/
def DlqRecord.dict
    (record : DlqRecord)
    (stamp : DlqStamp) : Dict String DlqValue :=
  .ofList (record.entriesWith stamp .int)

end FraudStream

------------------------------------------------------------
-- Schemas
------------------------------------------------------------

namespace FraudStream

abbrev DlqField := Avro.Field DlqValue DlqValue

namespace DlqField

def stringWire : Avro.Wire DlqValue DlqValue :=
  .ofCodec Avro.string DlqValue.text? (fun s => some (.str s))

def timestampWire : Avro.Wire DlqValue DlqValue :=
  .ofCodec Avro.long DlqValue.long? DlqValue.time?

def string (name : String) : DlqField where
  name := name
  wire := stringWire
  default? := none

/- An `int` and a `long` have one form. -/
def integer (name : String) : DlqField where
  name := name
  wire :=
    .ofCodec Avro.long DlqValue.long? (fun n => some (.int n))
  default? := none

def bytes (name : String) : DlqField where
  name := name
  wire :=
    .ofCodec Avro.bytes DlqValue.bytes?
      (fun bs => some (.bytes bs))
  default? := none

def timestamp (name : String) : DlqField where
  name := name
  wire := timestampWire
  default? := none

/- A union with null, which is the default. -/
def nullable
    (name : String)
    (wire : Avro.Wire DlqValue DlqValue) : DlqField where
  name := name
  wire := .optional DlqValue.isNull .null wire
  default? := some .null

/- `symbols[i]`, where an index below zero is from the
   end. -/
def symbolAt?
    (symbols : List String)
    (i : Int) : Option DlqValue :=
  if 0 ≤ i then
    symbols[i.toNat]?.map .str
  else if -symbols.length ≤ i then
    symbols[(i + symbols.length).toNat]?.map .str
  else
    none

def symbolIndex?
    (symbols : List String)
    (value : DlqValue) : Option Int := do
  let text ← value.text?
  let i ← symbols.findIdx? (· = text)
  some i

def enum
    (name : String)
    (symbols : List String) : DlqField where
  name := name
  wire :=
    .ofCodec Avro.long (symbolIndex? symbols)
      (symbolAt? symbols)
  default? := none

end DlqField

/- The schema that the sink writes with. -/
def dlqSchema : List DlqField :=
  [.string "dlq_id",
    .string "source_topic",
    .integer "source_partition",
    .integer "source_offset",
    .nullable "transaction_id" DlqField.stringWire,
    .bytes "original_payload_bytes",
    .string "error_type",
    .string "error_message",
    .nullable "watermark_at_rejection"
      DlqField.timestampWire,
    .nullable "event_time_at_rejection"
      DlqField.timestampWire,
    .timestamp "failed_at",
    .string "processor_host",
    .integer "processor_subtask_index"]

def errorTypeSymbols : List String :=
  ["SCHEMA_VALIDATION_ERROR",
    "LATE_EVENT_BEYOND_ALLOWED_LATENESS",
    "ENRICHMENT_EXCEPTION"]

/- The schema that is registered for the topic. -/
def registeredDlqSchema : List DlqField :=
  [.string "dlq_id",
    .string "source_topic",
    .integer "source_partition",
    .integer "source_offset",
    .nullable "transaction_id" DlqField.stringWire,
    .bytes "original_payload_bytes",
    .enum "error_type" errorTypeSymbols,
    .string "error_message",
    .nullable "watermark_at_rejection"
      DlqField.timestampWire,
    .nullable "event_time_at_rejection"
      DlqField.timestampWire,
    .timestamp "failed_at",
    .string "processor_host",
    .integer "processor_subtask_index"]

end FraudStream

------------------------------------------------------------
-- Reading A Record
------------------------------------------------------------

namespace FraudStream

variable {record : DlqRecord}
variable {stamp : DlqStamp}
variable {written : List UInt8}

theorem nodup_entriesWith
    (record : DlqRecord)
    (stamp : DlqStamp)
    (time : Int → DlqValue) :
    ((record.entriesWith stamp time).map Prod.fst).Nodup := by
  simp only [DlqRecord.entriesWith, List.map_cons,
    List.map_nil]
  decide

/- The times of a record can be read. -/
structure HasDlqTimes
    (record : DlqRecord)
    (stamp : DlqStamp) : Prop where
  failedAt : DeployedEra stamp.failedAt
  watermark :
    ∀ t ∈ record.watermarkAtRejection, DeployedEra t
  eventTime :
    ∀ t ∈ record.eventTimeAtRejection, DeployedEra t

/- The integers of a record fit in 64 bits. -/
structure HasDlqInts (record : DlqRecord) : Prop where
  partition :
    -2 ^ 63 ≤ record.sourcePartition ∧
      record.sourcePartition < 2 ^ 63
  offset :
    -2 ^ 63 ≤ record.sourceOffset ∧
      record.sourceOffset < 2 ^ 63
  subtask :
    -2 ^ 63 ≤ record.processorSubtaskIndex ∧
      record.processorSubtaskIndex < 2 ^ 63

theorem DlqValue.time?_of_era
    {t : Int}
    (hEra : DeployedEra t) :
    DlqValue.time? t = some (.time t) := by
  rw [DlqValue.time?, datetime?_of_era hEra]

theorem DlqValue.long?_of_era
    {t : Int}
    (hEra : DeployedEra t) :
    DlqValue.long? (.int t) = some t := by
  have hFits : -2 ^ 63 ≤ t ∧ t < 2 ^ 63 := by
    have hLow := hEra.1
    have hHigh := hEra.2
    omega
  exact if_pos hFits

theorem get?_dict
    {name : String}
    {value : DlqValue}
    (hMem : (name, value) ∈ record.entriesWith stamp .int) :
    (record.dict stamp).get? name = some value := by
  unfold DlqRecord.dict
  rw [Dict.get?_ofList (nodup_entriesWith ..)]
  exact
    Dict.lookupEntries_of_mem (nodup_entriesWith ..) hMem

end FraudStream

------------------------------------------------------------
-- Fields Of A Record
------------------------------------------------------------

namespace FraudStream

namespace DlqField

variable {d : Dict String DlqValue}
variable {name : String}

theorem tells_string
    {s : String}
    (hGet : d.get? name = some (.str s)) :
    Avro.Field.Tells d (string name) (name, .str s) := by
  simp [Avro.Field.Tells, Avro.Field.write, Avro.Field.image,
    Avro.Field.value?, string, stringWire, Avro.Wire.ofCodec,
    hGet, DlqValue.text?]

theorem tells_integer
    {n : Int}
    (hGet : d.get? name = some (.int n))
    (hFits : -2 ^ 63 ≤ n ∧ n < 2 ^ 63) :
    Avro.Field.Tells d (integer name) (name, .int n) := by
  have hLong : DlqValue.long? (.int n) = some n :=
    if_pos hFits
  simp [Avro.Field.Tells, Avro.Field.write, Avro.Field.image,
    Avro.Field.value?, integer, Avro.Wire.ofCodec, hGet, hLong]

theorem tells_bytes
    {bs : List UInt8}
    (hGet : d.get? name = some (.bytes bs)) :
    Avro.Field.Tells d (bytes name) (name, .bytes bs) := by
  simp [Avro.Field.Tells, Avro.Field.write, Avro.Field.image,
    Avro.Field.value?, bytes, Avro.Wire.ofCodec, hGet,
    DlqValue.bytes?]

theorem tells_timestamp
    {t : Int}
    (hGet : d.get? name = some (.int t))
    (hEra : DeployedEra t) :
    Avro.Field.Tells d (timestamp name) (name, .time t) := by
  simp [Avro.Field.Tells, Avro.Field.write, Avro.Field.image,
    Avro.Field.value?, timestamp, timestampWire,
    Avro.Wire.ofCodec, hGet, DlqValue.long?_of_era hEra,
    DlqValue.time?_of_era hEra]

theorem tells_nullable_text
    {s : Option String}
    (hGet :
      d.get? name = some ((s.map DlqValue.str).getD .null)) :
    Avro.Field.Tells d (nullable name stringWire)
      (name, (s.map DlqValue.str).getD .null) := by
  cases s <;>
    simp [Avro.Field.Tells, Avro.Field.write, Avro.Field.image,
      Avro.Field.value?, nullable, stringWire,
      Avro.Wire.optional, Avro.Wire.ofCodec, hGet,
      DlqValue.isNull, DlqValue.text?]

theorem tells_nullable_time
    {t : Option Int}
    (hGet :
      d.get? name = some ((t.map DlqValue.int).getD .null))
    (hEra : ∀ millis ∈ t, DeployedEra millis) :
    Avro.Field.Tells d (nullable name timestampWire)
      (name, (t.map DlqValue.time).getD .null) := by
  cases t with
  | none =>
      simp [Avro.Field.Tells, Avro.Field.write, Avro.Field.image,
        Avro.Field.value?, nullable, timestampWire,
        Avro.Wire.optional, Avro.Wire.ofCodec, hGet,
        DlqValue.isNull]
  | some millis =>
      have hMillis := hEra millis rfl
      simp [Avro.Field.Tells, Avro.Field.write, Avro.Field.image,
        Avro.Field.value?, nullable, timestampWire,
        Avro.Wire.optional, Avro.Wire.ofCodec, hGet,
        DlqValue.isNull, DlqValue.long?_of_era hMillis,
        DlqValue.time?_of_era hMillis]

end DlqField

variable {record : DlqRecord}
variable {stamp : DlqStamp}

/- Each field of a record is written, and comes back. -/
theorem tells_dlqSchema
    (hInts : HasDlqInts record)
    (hTimes : HasDlqTimes record stamp) :
    List.Forall₂ (Avro.Field.Tells (record.dict stamp))
      dlqSchema (record.entriesWith stamp .time) := by
  have hGet
      (name : String)
      (value : DlqValue)
      (hMem : (name, value) ∈ record.entriesWith stamp .int) :
      (record.dict stamp).get? name = some value :=
    get?_dict hMem
  exact
    .cons
      (DlqField.tells_string
        (hGet _ _ (by simp [DlqRecord.entriesWith]))) <|
    .cons
      (DlqField.tells_string
        (hGet _ _ (by simp [DlqRecord.entriesWith]))) <|
    .cons
      (DlqField.tells_integer
        (hGet _ _ (by simp [DlqRecord.entriesWith]))
        hInts.partition) <|
    .cons
      (DlqField.tells_integer
        (hGet _ _ (by simp [DlqRecord.entriesWith]))
        hInts.offset) <|
    .cons
      (DlqField.tells_nullable_text
        (hGet _ _ (by simp [DlqRecord.entriesWith]))) <|
    .cons
      (DlqField.tells_bytes
        (hGet _ _ (by simp [DlqRecord.entriesWith]))) <|
    .cons
      (DlqField.tells_string
        (hGet _ _ (by simp [DlqRecord.entriesWith]))) <|
    .cons
      (DlqField.tells_string
        (hGet _ _ (by simp [DlqRecord.entriesWith]))) <|
    .cons
      (DlqField.tells_nullable_time
        (hGet _ _ (by simp [DlqRecord.entriesWith]))
        hTimes.watermark) <|
    .cons
      (DlqField.tells_nullable_time
        (hGet _ _ (by simp [DlqRecord.entriesWith]))
        hTimes.eventTime) <|
    .cons
      (DlqField.tells_timestamp
        (hGet _ _ (by simp [DlqRecord.entriesWith]))
        hTimes.failedAt) <|
    .cons
      (DlqField.tells_string
        (hGet _ _ (by simp [DlqRecord.entriesWith]))) <|
    .cons
      (DlqField.tells_integer
        (hGet _ _ (by simp [DlqRecord.entriesWith]))
        hInts.subtask)
      .nil

end FraudStream

------------------------------------------------------------
-- Messages
------------------------------------------------------------

namespace FraudStream

/- `schema_id.to_bytes(4, "big")`, unless it raises. -/
def schemaIdBytes? (schemaId : Nat) : Option (List UInt8) :=
  if schemaId < 2 ^ 32 then
    some
      [.ofNat (schemaId / 2 ^ 24), .ofNat (schemaId / 2 ^ 16),
        .ofNat (schemaId / 2 ^ 8), .ofNat schemaId]
  else
    none

/- The message of a record, unless writing it raises. -/
def serialiseDlqRecord
    (record : DlqRecord)
    (stamp : DlqStamp)
    (schemaId : Nat) : Option (List UInt8) := do
  let avroBytes ←
    Avro.writeRecord (record.dict stamp) dlqSchema
  let idBytes ← schemaIdBytes? schemaId
  some (wirePayload idBytes avroBytes)

variable {record : DlqRecord}
variable {stamp : DlqStamp}
variable {avroBytes : List UInt8}

/- With the schema of the sink, a record comes back whole. -/
theorem readRecord_serialised
    (hInts : HasDlqInts record)
    (hTimes : HasDlqTimes record stamp)
    (hWrite :
      Avro.writeRecord (record.dict stamp) dlqSchema =
        some avroBytes) :
    Avro.readRecord dlqSchema avroBytes =
      some (record.entriesWith stamp .time, []) := by
  have hImage :=
    (Avro.record_of_tells (tells_dlqSchema hInts hTimes)).2
  have hRead := Avro.readRecord_writeRecord hWrite []
  rw [List.append_nil, hImage] at hRead
  exact hRead

/- The fields before the type of the error. -/
def dlqHead : List DlqField :=
  dlqSchema.take 6

theorem dlqSchema_eq :
    dlqSchema =
      dlqHead ++ .string "error_type" :: dlqSchema.drop 7 :=
  rfl

theorem registeredDlqSchema_eq :
    registeredDlqSchema =
      dlqHead ++
        .enum "error_type" errorTypeSymbols ::
          dlqSchema.drop 7 :=
  rfl

/- A length is no index of the three symbols. -/
theorem symbolAt?_of_le
    {length : Nat}
    (hLong : 3 ≤ length) :
    DlqField.symbolAt? errorTypeSymbols (length : Int) =
      none := by
  have hNone :
      errorTypeSymbols[length]? = none := by
    rw [List.getElem?_eq_none_iff]
    exact hLong
  unfold DlqField.symbolAt?
  rw [if_pos (Int.natCast_nonneg length), Int.toNat_natCast,
    hNone]
  rfl

/- With the registered schema, the length of the error type
   is read as an index, and there is no such symbol. -/
theorem readRecord_registered
    (hWrite :
      Avro.writeRecord (record.dict stamp) dlqSchema =
        some avroBytes)
    (hLong : 3 ≤ record.errorType.toUTF8.data.toList.length) :
    Avro.readRecord registeredDlqSchema avroBytes = none := by
  rw [dlqSchema_eq] at hWrite
  rcases Avro.readRecord_of_prefix hWrite with
    ⟨rest, hRest, hHead⟩
  have hType :
      (record.dict stamp).get? "error_type" =
        some (.str record.errorType) :=
    get?_dict (by simp [DlqRecord.entriesWith])
  have hField :
      (DlqField.string "error_type").write
          (record.dict stamp) =
        some (Avro.writeString record.errorType) := by
    change
      (((record.dict stamp).get? "error_type").or none).bind
          _ =
        _
    rw [hType]
    rfl
  rw [Avro.writeRecord, hField, Option.bind_eq_bind,
    Option.bind_some] at hRest
  rcases Option.bind_eq_some_iff.1 hRest with
    ⟨more, -, hEq⟩
  have hBytes :
      rest = Avro.writeString record.errorType ++ more :=
    (Option.some.inj hEq).symm
  have hEnum :
      (DlqField.enum "error_type" errorTypeSymbols).wire.read
        rest = none := by
    change
      ((Avro.long.read rest).bind fun read =>
        (DlqField.symbolAt? errorTypeSymbols read.1).bind
          fun value => some (value, read.2)) = none
    rw [hBytes, Avro.writeString, List.append_assoc,
      Avro.long.read_write, Option.bind_some,
      symbolAt?_of_le hLong]
    rfl
  have hTail :
      Avro.readRecord
          (DlqField.enum "error_type" errorTypeSymbols ::
            dlqSchema.drop 7) rest =
        none := by
    rw [Avro.readRecord, hEnum]
    rfl
  rw [registeredDlqSchema_eq, Avro.readRecord_append, hHead]
  cases Avro.imageRecord (record.dict stamp) dlqHead with
  | none => rfl
  | some entries =>
      rw [Option.map_some, Option.bind_some, hTail]
      rfl

end FraudStream

------------------------------------------------------------
-- The Sink
------------------------------------------------------------

namespace FraudStream

/- A call of `send`, with what its record is stamped with and
   whether the producer takes the message. -/
structure DlqSend where
  sourceTopic : String
  originalPayload : List UInt8
  errorType : String
  errorMessage : String
  stamp : DlqStamp
  isTaken : Bool

/- A producer that cannot be made, or that cannot be flushed,
   raises. -/
inductive DlqCall where
| open : (isMade : Bool) → DlqCall
| send : DlqSend → DlqCall
| flush : (isFlushed : Bool) → DlqCall
| close : (isFlushed : Bool) → DlqCall

/- A message that a producer took. -/
structure DlqMessage where
  topic : String
  value : List UInt8
deriving DecidableEq

structure ProcessingDLQSink where
  topic : String
  schemaId : Nat
  hasProducer : Bool
  produced : List DlqMessage

/- The record of a call names no partition, no offset and no
   transaction. -/
def DlqSend.record (call : DlqSend) : DlqRecord :=
  buildDlqRecord call.sourceTopic 0 0 call.originalPayload
    call.errorType call.errorMessage none none none

namespace ProcessingDLQSink

/- `ProcessingDLQSink(bootstrap_servers, topic, schema_id)` -/
def created
    (topic : String)
    (schemaId : Nat) : ProcessingDLQSink where
  topic := topic
  schemaId := schemaId
  hasProducer := false
  produced := []

/- A record that cannot be serialised raises. What the
   producer raises is logged. -/
def send
    (sink : ProcessingDLQSink)
    (call : DlqSend) : ProcessingDLQSink :=
  if sink.hasProducer then
    match
      serialiseDlqRecord call.record call.stamp sink.schemaId
    with
    | none => sink
    | some value =>
        if call.isTaken then
          { sink with
            produced :=
              sink.produced ++
                [{ topic := sink.topic, value := value }] }
        else
          sink
  else
    sink

/- The state after a call, whether it raises or not. -/
def step
    (sink : ProcessingDLQSink) :
    DlqCall → ProcessingDLQSink
| .open isMade =>
    if isMade then
      { sink with hasProducer := true }
    else
      sink
| .send call => sink.send call
| .flush _ => sink
| .close isFlushed =>
    if sink.hasProducer ∧ isFlushed then
      { sink with hasProducer := false }
    else
      sink

def run
    (sink : ProcessingDLQSink)
    (calls : List DlqCall) : ProcessingDLQSink :=
  calls.foldl step sink

end ProcessingDLQSink

end FraudStream

------------------------------------------------------------
-- Runs Of The Sink
------------------------------------------------------------

namespace FraudStream

namespace DlqCall

/- What a call makes of the producer, if anything. -/
def opening? : DlqCall → Option Bool
| .open true => some true
| .close true => some false
| _ => none

def taken? : DlqCall → Option DlqSend
| .send sent => if sent.isTaken then some sent else none
| _ => none

/- The last call that made or released a producer has made
   one. -/
def IsOpenAfter (calls : List DlqCall) : Prop :=
  (calls.filterMap opening?).getLast? = some true

instance
    (calls : List DlqCall) :
    Decidable (IsOpenAfter calls) := by
  unfold IsOpenAfter
  infer_instance

/- The records that a producer took in the calls after some
   others. -/
def takenAfter :
    List DlqCall → List DlqCall → List DlqSend
| _, [] => []
| before, call :: calls =>
    (if IsOpenAfter before then call.taken?.toList else []) ++
      takenAfter (before ++ [call]) calls

theorem isOpenAfter_append
    (before : List DlqCall)
    (call : DlqCall) :
    IsOpenAfter (before ++ [call]) ↔
      call.opening? = some true ∨
        (call.opening? = none ∧ IsOpenAfter before) := by
  unfold IsOpenAfter
  rw [List.filterMap_append, List.getLast?_append,
    List.filterMap_cons, List.filterMap_nil]
  cases call.opening? <;> simp

end DlqCall

namespace ProcessingDLQSink

open DlqCall (opening? IsOpenAfter takenAfter)

/- A message that carries a record: the record comes back
   whole with the schema of the sink, and cannot be read with
   the registered one. -/
structure Reports
    (topic : String)
    (schemaId : Nat)
    (sent : DlqSend)
    (message : DlqMessage) : Prop where
  topic : message.topic = topic
  value :
    ∃ idBytes avroBytes,
      schemaIdBytes? schemaId = some idBytes ∧
        message.value = wirePayload idBytes avroBytes ∧
        Avro.readRecord dlqSchema avroBytes =
          some
            (sent.record.entriesWith sent.stamp .time,
              []) ∧
        (3 ≤ sent.errorType.toUTF8.data.toList.length →
          Avro.readRecord registeredDlqSchema avroBytes =
            none)

/- Every record can be written: it names no partition and no
   offset, and has the time of its failure only. -/
theorem message_of_record
    (topic : String)
    {schemaId : Nat}
    (sent : DlqSend)
    (hId : schemaId < 2 ^ 32)
    (hEra : DeployedEra sent.stamp.failedAt) :
    ∃ value,
      serialiseDlqRecord sent.record sent.stamp schemaId =
          some value ∧
        Reports topic schemaId sent
          { topic := topic, value := value } := by
  have hZero : -2 ^ 63 ≤ (0 : Int) ∧ (0 : Int) < 2 ^ 63 := by
    decide
  have hInts : HasDlqInts sent.record :=
    ⟨hZero, hZero, hZero⟩
  have hTimes : HasDlqTimes sent.record sent.stamp :=
    ⟨hEra, nofun, nofun⟩
  have hWritten :=
    (Avro.record_of_tells (tells_dlqSchema hInts hTimes)).1
  rcases Option.isSome_iff_exists.1 hWritten with
    ⟨avroBytes, hWrite⟩
  have hIdBytes :
      ∃ idBytes, schemaIdBytes? schemaId = some idBytes :=
    ⟨_, if_pos hId⟩
  rcases hIdBytes with ⟨idBytes, hIdBytes⟩
  refine ⟨wirePayload idBytes avroBytes, ?_, rfl, ?_⟩
  · unfold serialiseDlqRecord
    rw [hWrite, hIdBytes]
    rfl
  · exact
      ⟨idBytes, avroBytes, hIdBytes, rfl,
        readRecord_serialised hInts hTimes hWrite,
        readRecord_registered hWrite⟩

variable {sink : ProcessingDLQSink}

theorem send_of_message
    {sent : DlqSend}
    {value : List UInt8}
    (hValue :
      serialiseDlqRecord sent.record sent.stamp
        sink.schemaId = some value) :
    sink.send sent =
      if sink.hasProducer ∧ sent.isTaken then
        { sink with
          produced :=
            sink.produced ++
              [{ topic := sink.topic, value := value }] }
      else
        sink := by
  unfold send
  rw [hValue]
  cases sink.hasProducer <;> cases sent.isTaken <;> rfl

/- A call keeps the configuration, and has the producer that
   the calls so far leave. -/
theorem step_keeps
    {before : List DlqCall}
    (hOpen : sink.hasProducer = true ↔ IsOpenAfter before)
    (call : DlqCall) :
    (sink.step call).topic = sink.topic ∧
      (sink.step call).schemaId = sink.schemaId ∧
      ((sink.step call).hasProducer = true ↔
        IsOpenAfter (before ++ [call])) := by
  rw [DlqCall.isOpenAfter_append, ← hOpen]
  cases call with
  | «open» isMade =>
      cases isMade <;> simp [step, opening?]
  | send sent =>
      have hSame :
          (sink.send sent).topic = sink.topic ∧
            (sink.send sent).schemaId = sink.schemaId ∧
            (sink.send sent).hasProducer =
              sink.hasProducer := by
        unfold send
        repeat' split
        all_goals exact ⟨rfl, rfl, rfl⟩
      simp [step, opening?, hSame]
  | flush isFlushed => simp [step, opening?]
  | close isFlushed =>
      cases isFlushed <;> cases h : sink.hasProducer <;>
        simp [step, opening?, h]

/- What a call adds to the messages. -/
theorem produced_step
    {before : List DlqCall}
    (hOpen : sink.hasProducer = true ↔ IsOpenAfter before)
    (hId : sink.schemaId < 2 ^ 32)
    {call : DlqCall}
    (hEra :
      ∀ sent, call = .send sent →
        DeployedEra sent.stamp.failedAt) :
    ∃ added,
      (sink.step call).produced = sink.produced ++ added ∧
        List.Forall₂ (Reports sink.topic sink.schemaId)
          (takenAfter before [call]) added := by
  have hNothing
      (hStep : (sink.step call).produced = sink.produced)
      (hTaken :
        IsOpenAfter before → call.taken? = none) :
      ∃ added,
        (sink.step call).produced = sink.produced ++ added ∧
          List.Forall₂ (Reports sink.topic sink.schemaId)
            (takenAfter before [call]) added := by
    refine ⟨[], by rw [hStep, List.append_nil], ?_⟩
    have hNone : takenAfter before [call] = [] := by
      rw [takenAfter, takenAfter, List.append_nil]
      split
      · next hIsOpen =>
          rw [hTaken hIsOpen]
          rfl
      · rfl
    rw [hNone]
    exact .nil
  cases call with
  | «open» isMade =>
      cases isMade <;> exact hNothing rfl (fun _ => rfl)
  | flush isFlushed => exact hNothing rfl (fun _ => rfl)
  | close isFlushed =>
      refine hNothing ?_ (fun _ => rfl)
      simp only [step]
      split <;> rfl
  | send sent =>
      rcases
        message_of_record sink.topic sent hId
          (hEra sent rfl) with
        ⟨value, hValue, hReports⟩
      have hStep := send_of_message hValue
      by_cases hTaken :
        sink.hasProducer ∧ sent.isTaken
      · rw [if_pos hTaken] at hStep
        refine
          ⟨[{ topic := sink.topic, value := value }],
            congrArg ProcessingDLQSink.produced hStep, ?_⟩
        rw [takenAfter, takenAfter,
          if_pos (hOpen.1 hTaken.1), DlqCall.taken?,
          if_pos hTaken.2]
        exact .cons hReports .nil
      · rw [if_neg hTaken] at hStep
        refine
          hNothing
            (congrArg ProcessingDLQSink.produced hStep) ?_
        intro hIsOpen
        have hRefused : ¬ sent.isTaken = true :=
          fun hIsTaken =>
            hTaken ⟨hOpen.2 hIsOpen, hIsTaken⟩
        rw [DlqCall.taken?, if_neg hRefused]

/- What calls after some others add to the messages. -/
theorem produced_run
    {before : List DlqCall}
    (hOpen : sink.hasProducer = true ↔ IsOpenAfter before)
    (hId : sink.schemaId < 2 ^ 32)
    {calls : List DlqCall}
    (hEra :
      ∀ sent, DlqCall.send sent ∈ calls →
        DeployedEra sent.stamp.failedAt) :
    ∃ added,
      (sink.run calls).produced = sink.produced ++ added ∧
        List.Forall₂ (Reports sink.topic sink.schemaId)
          (takenAfter before calls) added := by
  induction calls generalizing sink before with
  | nil => exact ⟨[], (List.append_nil _).symm, .nil⟩
  | cons call calls ih =>
      rcases step_keeps hOpen call with
        ⟨hTopic, hSchemaId, hNext⟩
      have hFirst :
          ∀ sent, call = .send sent →
            DeployedEra sent.stamp.failedAt := by
        rintro sent rfl
        exact hEra sent List.mem_cons_self
      have hRest :
          ∀ sent, DlqCall.send sent ∈ calls →
            DeployedEra sent.stamp.failedAt :=
        fun sent hMem =>
          hEra sent (List.mem_cons_of_mem _ hMem)
      rcases produced_step hOpen hId hFirst with
        ⟨first, hStep, hFirstReports⟩
      rcases ih hNext (hSchemaId ▸ hId) hRest with
        ⟨rest, hRun, hRestReports⟩
      rw [hTopic, hSchemaId] at hRestReports
      refine ⟨first ++ rest, ?_, ?_⟩
      · calc
          (sink.run (call :: calls)).produced =
              ((sink.step call).run calls).produced := rfl
          _ = (sink.step call).produced ++ rest := hRun
          _ = sink.produced ++ (first ++ rest) := by
            rw [hStep, List.append_assoc]
      · have hSplit :
            takenAfter before (call :: calls) =
              takenAfter before [call] ++
                takenAfter (before ++ [call]) calls := by
          simp only [takenAfter, List.append_nil]
        rw [hSplit]
        exact List.rel_append hFirstReports hRestReports

/-
  The messages of a run are the records that a producer took,
  in their order. Each comes back whole with the schema of
  the sink, the payload among its fields, and none with an
  error type of three bytes or more can be read with the
  schema that is registered for the topic.
-/
theorem sent_records_are_unregistered
    {topic : String}
    {schemaId : Nat}
    {calls : List DlqCall}
    (hId : schemaId < 2 ^ 32)
    (hEra :
      ∀ sent, DlqCall.send sent ∈ calls →
        DeployedEra sent.stamp.failedAt) :
    List.Forall₂ (Reports topic schemaId)
      (takenAfter [] calls)
      ((created topic schemaId).run calls).produced := by
  have hOpen :
      (created topic schemaId).hasProducer = true ↔
        IsOpenAfter [] :=
    ⟨nofun, nofun⟩
  rcases produced_run hOpen hId hEra with
    ⟨added, hRun, hReports⟩
  have hProduced :
      ((created topic schemaId).run calls).produced =
        added :=
    hRun
  rw [hProduced]
  exact hReports

/- A record of the velocity operator, between two that meet
   no producer. -/
def sampleSend : DlqSend where
  sourceTopic := "txn.api"
  originalPayload := [0, 0, 0, 0, 1]
  errorType := "ENRICHMENT_EXCEPTION"
  errorMessage := "unexpected"
  stamp :=
    { dlqId := sampleContext.uuid
      failedAt := 1767225600000
      processorHost := "taskmanager" }
  isTaken := true

def sampleCalls : List DlqCall :=
  [.send sampleSend, .open true, .send sampleSend,
    .close true, .send sampleSend]

theorem one_sample_is_sent :
    List.Forall₂ (Reports "txn.processing.dlq" 0)
        (takenAfter [] sampleCalls)
        ((created "txn.processing.dlq" 0).run
          sampleCalls).produced ∧
      takenAfter [] sampleCalls = [sampleSend] := by
  constructor
  · apply sent_records_are_unregistered (by decide)
    intro sent hMem
    have hSent : sent = sampleSend := by
      simpa [sampleCalls] using hMem
    rw [hSent]
    decide
  · rfl

end ProcessingDLQSink

end FraudStream
