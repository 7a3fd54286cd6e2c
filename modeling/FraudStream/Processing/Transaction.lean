import FraudStream.Library.PyValue

/-
  Raw transactions, their wire format, and the dead-letter
  records of the processing job.

  A payload carries a magic byte, a four-byte schema
  identifier and an Avro record. Reading the Avro record is
  a parameter: the reader returns the fields, with both
  times as exact epoch milliseconds, or the text of its
  exception. An amount is the exact value of its decimal,
  which nothing on the wire bounds.

  Key definitions include:
    * `RawTransaction`
    * `deserialiseRawTransaction`
    * `DlqRecord`
    * `buildDlqRecord`
-/

------------------------------------------------------------
-- Raw Transactions
------------------------------------------------------------

namespace FraudStream

structure RawTransaction where
  transactionId : String
  accountId : String
  merchantId : String
  amount : ℚ
  currency : String
  eventTime : Int
  processingTime : Int
  channel : String
  cardBin : String
  cardLast4 : String
  callerIpSubnet : String
  apiKeyId : String
  oauthScope : String
  geoLat : Option PyFloat
  geoLon : Option PyFloat
  maskingLibVersion : String
deriving DecidableEq

end FraudStream

------------------------------------------------------------
-- Deserialization
------------------------------------------------------------

namespace FraudStream

structure SchemaValidationError where
  message : String
deriving DecidableEq, Repr

def confluentMagic : UInt8 := 0x00

/- One magic byte and four bytes of schema identifier. -/
def headerSize : Nat := 5

/- A big-endian unsigned integer. -/
def bigEndian (bytes : List UInt8) : Nat :=
  bytes.foldl (fun n b => 256 * n + b.toNat) 0

/- `int(val.timestamp() * 1000)` of a UTC time. -/
def epochMillis (t : Int) : Except PyError Int :=
  match PyFloat.ofRat ((t : ℚ) / 1000) with
  | .finite seconds =>
      (Scalar.float (PyFloat.ofRat (seconds * 1000))).toInt
  | f => (Scalar.float f).toInt

/- The text of an exception of the conversion. -/
def conversionText : PyError → String
| .overflowError =>
    "cannot convert float infinity to integer"
| _ => "cannot convert float NaN to integer"

/- Both times of a record pass through a float. -/
def convertTimes
    (record : RawTransaction) :
    Except PyError RawTransaction := do
  let eventTime ← epochMillis record.eventTime
  let processingTime ← epochMillis record.processingTime
  pure { record with
    eventTime := eventTime
    processingTime := processingTime }

/- The exception text of a failed Avro read. -/
def avroFailure (exc : String) : SchemaValidationError :=
  ⟨"Avro deserialization failed: " ++ exc⟩

variable
  (schemalessReader :
    List UInt8 → Except String RawTransaction)

def deserialiseRawTransaction
    (payload : List UInt8)
    (expectedSchemaId : Option Nat) :
    Except SchemaValidationError RawTransaction :=
  if payload.length < headerSize then
    .error ⟨"Payload too short: " ++
      toString payload.length ++ " bytes"⟩
  else
    let magic := payload.headD 0
    let schemaId := bigEndian ((payload.drop 1).take 4)
    if magic ≠ confluentMagic then
      .error ⟨"Invalid Confluent magic byte: 0x" ++
        String.ofList (Nat.toDigits 16 magic.toNat)⟩
    else if expectedSchemaId.any (· ≠ schemaId) then
      .error ⟨"Schema ID mismatch: got " ++
        toString schemaId ++ ", expected " ++
        toString (expectedSchemaId.getD 0)⟩
    else
      match schemalessReader (payload.drop headerSize) with
      | .error exc => .error (avroFailure exc)
      | .ok record =>
          match convertTimes record with
          | .error e => .error (avroFailure (conversionText e))
          | .ok txn => .ok txn

end FraudStream

------------------------------------------------------------
-- Dead-Letter Records
------------------------------------------------------------

namespace FraudStream

/- The contents of a dead-letter record, without the random
   identifier, the clock and the host name it is stamped
   with. -/
structure DlqRecord where
  sourceTopic : String
  sourcePartition : Int
  sourceOffset : Int
  transactionId : Option String
  originalPayloadBytes : List UInt8
  errorType : String
  errorMessage : String
  watermarkAtRejection : Option Int
  eventTimeAtRejection : Option Int
  processorSubtaskIndex : Int
deriving DecidableEq

def buildDlqRecord
    (sourceTopic : String)
    (sourcePartition sourceOffset : Int)
    (originalPayloadBytes : List UInt8)
    (errorType errorMessage : String)
    (transactionId : Option String)
    (watermarkAtRejection eventTimeAtRejection :
      Option Int) : DlqRecord where
  sourceTopic := sourceTopic
  sourcePartition := sourcePartition
  sourceOffset := sourceOffset
  transactionId := transactionId
  originalPayloadBytes := originalPayloadBytes
  errorType := errorType
  errorMessage := errorMessage
  watermarkAtRejection := watermarkAtRejection
  eventTimeAtRejection := eventTimeAtRejection
  processorSubtaskIndex := 0

end FraudStream

------------------------------------------------------------
-- A Sample Transaction
------------------------------------------------------------

namespace FraudStream

/- A transaction of the tests: ten units at an event time,
   from one account and one device. -/
def sampleTransaction
    (transactionId : String)
    (eventTime : Int) : RawTransaction where
  transactionId := transactionId
  accountId := "acc-001"
  merchantId := "merch-001"
  amount := 10
  currency := "USD"
  eventTime := eventTime
  processingTime := eventTime
  channel := "WEB"
  cardBin := "411111"
  cardLast4 := "1111"
  callerIpSubnet := "203.0.113.0"
  apiKeyId := "key-001"
  oauthScope := "txn:write"
  geoLat := none
  geoLon := none
  maskingLibVersion := "1.0.0"

end FraudStream
