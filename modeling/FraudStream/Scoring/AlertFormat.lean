import FraudStream.Library.Avro
import FraudStream.Scoring.AlertSinks

/-
  The Avro record of an alert, as the Kafka sink writes it.

  The writer and the reader of the schema are parameters
  wherever an alert is written or read; the Avro encoding of
  the schema is one such pair.

  Key definitions include:
    * `AlertRecord`
    * `AlertFormat`
    * `AlertFormat.Decodes`
    * `AlertKafkaSink.serialise`
    * `avroFormat`

  The main result is `avroFormat_decodes`.
-/

------------------------------------------------------------
-- Alert Records
------------------------------------------------------------

namespace FraudStream

/- A timestamp as the scorer gives it, or as a datetime. -/
inductive TimestampValue where
| int : (millis : Int) → TimestampValue
| datetime :
    (micros : Int) →
    (hasTimezone : Bool) →
    TimestampValue
deriving DecidableEq

/- The record of the alert schema. -/
structure AlertRecord where
  transactionId : Scalar
  accountId : Scalar
  matchedRuleNames : List String
  severity : String
  evaluationTimestamp : TimestampValue
deriving DecidableEq

/- The record that the Kafka sink writes for an alert. -/
def FraudAlert.record (alert : FraudAlert) : AlertRecord where
  transactionId := alert.transactionId
  accountId := alert.accountId
  matchedRuleNames := alert.matchedRuleNames
  severity := alert.severity.name
  evaluationTimestamp := .int alert.evaluationTimestamp

namespace TimestampValue

/- The years 1 to 9999 in microseconds. -/
def minMicros : Int := -62135596800000000

def maxMicros : Int := 253402300799999999

end TimestampValue

/- Milliseconds are read back as a datetime in UTC. -/
def TimestampValue.decoded : TimestampValue → TimestampValue
| .int millis => .datetime (1000 * millis) true
| value => value

def AlertRecord.decoded (record : AlertRecord) : AlertRecord :=
  { record with
    evaluationTimestamp :=
      record.evaluationTimestamp.decoded }

/- The schemaless writer and reader of the alert schema. -/
structure AlertFormat where
  schemalessWriter :
    AlertRecord → Except EmitError (List UInt8)
  schemalessReader :
    List UInt8 → Except PyError AlertRecord

/- The reader decodes what the writer encoded. -/
def AlertFormat.Decodes (format : AlertFormat) : Prop :=
  ∀ record bytes,
    format.schemalessWriter record = .ok bytes →
      format.schemalessReader bytes = .ok record.decoded

/- `_serialise` -/
def AlertKafkaSink.serialise
    (format : AlertFormat)
    (alert : FraudAlert) : Except EmitError (List UInt8) :=
  format.schemalessWriter alert.record

end FraudStream

------------------------------------------------------------
-- The Avro Format
------------------------------------------------------------

namespace FraudStream

theorem Severity.mem_all (s : Severity) : s ∈ all := by
  cases s <;> simp [all]

/- The severity of a name. -/
def Severity.ofName? (name : String) : Option Severity :=
  all.find? (·.name = name)

theorem Severity.name_of_ofName?
    {name : String}
    {s : Severity}
    (hFound : ofName? name = some s) :
    s.name = name := by
  simpa using List.find?_some hFound

/- The fields of the alert schema, in order. -/
abbrev AlertFields :=
  String × String × List String × Severity × Int

def alertCodec : Avro.Codec AlertFields :=
  Avro.string.pair
    (Avro.string.pair
      ((Avro.array Avro.string).pair
        ((Avro.enumeration Severity.all
            Severity.mem_all).pair
          Avro.long)))

/- A record of the alert schema with a time that a datetime
   can hold. -/
def writeAlert
    (record : AlertRecord) :
    Except EmitError (List UInt8) :=
  match record.transactionId, record.accountId,
    Severity.ofName? record.severity,
    record.evaluationTimestamp with
  | .str txn, .str account, some severity, .int millis =>
      if TimestampValue.minMicros ≤ 1000 * millis ∧
          1000 * millis ≤ TimestampValue.maxMicros then
        .ok
          (alertCodec.write
            (txn, account, record.matchedRuleNames,
              severity, millis))
      else
        .error .other
  | _, _, _, _ => .error .typeError

def readAlert
    (bytes : List UInt8) : Except PyError AlertRecord :=
  match alertCodec.read bytes with
  | some ((txn, account, names, severity, millis), _) =>
      .ok
        { transactionId := .str txn
          accountId := .str account
          matchedRuleNames := names
          severity := severity.name
          evaluationTimestamp :=
            .datetime (1000 * millis) true }
  | none => .error .valueError

def avroFormat : AlertFormat where
  schemalessWriter := writeAlert
  schemalessReader := readAlert

theorem avroFormat_decodes : avroFormat.Decodes := by
  intro record bytes hWritten
  rcases record with
    ⟨txn, account, names, severity, timestamp⟩
  simp only [avroFormat, writeAlert] at hWritten
  split at hWritten
  · rename_i txn account severity' millis hSeverity
    split at hWritten
    · cases hWritten
      have hRead :=
        alertCodec.read_write
          (txn, account, names, severity', millis) []
      rw [List.append_nil] at hRead
      simp only [avroFormat, readAlert, hRead,
        AlertRecord.decoded, TimestampValue.decoded,
        Severity.name_of_ofName? hSeverity]
    · cases hWritten
  · cases hWritten

end FraudStream
