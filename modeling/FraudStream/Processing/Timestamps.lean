import FraudStream.Library.Rounding
import FraudStream.Processing.Transaction

/-
  Times of the wire format that a float carries exactly.

  A time is divided by a thousand, rounded, multiplied by a
  thousand, rounded again, and truncated. In the deployed
  era the first rounding is off by at most `2 ^ (-23)`
  seconds, and a thousand times that is less than half the
  spacing of the product, so the second rounding restores
  the number of milliseconds.

  Key definitions include:
    * `DeployedEra`
    * `wirePayload`

  Main results:
    * `epochMillis_of_era`
    * `times_survive_wire`
-/

------------------------------------------------------------
-- Seconds And Back
------------------------------------------------------------

namespace FraudStream

open PyFloat

/- From November 2004 to January 2038. -/
def DeployedEra (t : Int) : Prop :=
  2 ^ 40 < t ∧ t < 2 ^ 31 * 1000

instance (t : Int) : Decidable (DeployedEra t) := by
  unfold DeployedEra
  infer_instance

variable {t : Int}

/- The seconds of the era lie in one binade. -/
theorem DeployedEra.seconds_inBinade
    (hEra : DeployedEra t) :
    InBinade 30 ((t : ℚ) / 1000) := by
  have hLow : (2 ^ 40 : ℚ) < t := by
    exact_mod_cast hEra.1
  have hHigh : (t : ℚ) < 2 ^ 31 * 1000 := by
    exact_mod_cast hEra.2
  constructor
  · norm_num at hLow ⊢
    linarith
  · norm_num at hHigh ⊢
    linarith

/- A thousand times a number of seconds close to the exact
   one lies in one binade. -/
theorem DeployedEra.product_inBinade
    {seconds : ℚ}
    (hEra : DeployedEra t)
    (hClose : |(t : ℚ) / 1000 - seconds| ≤ unit 30 / 2) :
    InBinade 40 (seconds * 1000) := by
  have hLow : (2 ^ 40 + 1 : ℚ) ≤ t := by
    exact_mod_cast hEra.1
  have hHigh : (t : ℚ) < 2 ^ 31 * 1000 := by
    exact_mod_cast hEra.2
  have hBounds := abs_le.1 hClose
  norm_num [unit] at hLow hHigh hBounds
  constructor
  · norm_num
    linarith
  · norm_num
    linarith

/- The error of the seconds is restored by the second
   rounding. -/
theorem DeployedEra.ofRat_product
    {seconds : ℚ}
    (hEra : DeployedEra t)
    (hClose : |(t : ℚ) / 1000 - seconds| ≤ unit 30 / 2) :
    ofRat (seconds * 1000) = finite t := by
  have hBounds := abs_le.1 hClose
  -- The time is a multiple of the unit of its binade.
  have hMultiple :
      ((t * 2 ^ 12 : Int) : ℚ) * unit 40 = t := by
    norm_num [unit]
    ring
  rw [← hMultiple]
  apply ofRat_eq_of_close (hEra.product_inBinade hClose)
    (by norm_num) (by norm_num)
  rw [hMultiple, abs_lt]
  norm_num [unit] at hBounds ⊢
  constructor <;> linarith

/- A time of the era survives the conversion. -/
theorem epochMillis_of_era
    (hEra : DeployedEra t) :
    epochMillis t = .ok t := by
  have hSeconds :
      ofRat ((t : ℚ) / 1000) =
        finite (nearest 30 ((t : ℚ) / 1000)) :=
    ofRat_of_inBinade hEra.seconds_inBinade
      (by norm_num) (by norm_num)
  have hProduct :
      ofRat (nearest 30 ((t : ℚ) / 1000) * 1000) =
        finite t :=
    hEra.ofRat_product (abs_nearest_sub_le 30 _)
  unfold epochMillis
  rw [hSeconds]
  simp [hProduct, Scalar.toInt, Scalar.truncate]

/- Two milliseconds past the era, one is lost. -/
example :
    epochMillis (2 ^ 31 * 1000 + 2) =
      .ok (2 ^ 31 * 1000 + 1) := by
  decide +kernel

end FraudStream

------------------------------------------------------------
-- Records On The Wire
------------------------------------------------------------

namespace FraudStream

/- A magic byte, a schema identifier and an Avro record. -/
def wirePayload
    (schemaId avroPayload : List UInt8) : List UInt8 :=
  confluentMagic :: (schemaId ++ avroPayload)

variable
  (schemalessReader :
    List UInt8 → Except String RawTransaction)

/- Reading a payload reads its record and converts the
   times. -/
theorem deserialise_wirePayload
    {schemaId : List UInt8}
    {expectedSchemaId : Option Nat}
    (hLength : schemaId.length = 4)
    (hExpected :
      ∀ expected ∈ expectedSchemaId,
        expected = bigEndian schemaId)
    {avroPayload : List UInt8}
    {record : RawTransaction}
    (hRead : schemalessReader avroPayload = .ok record) :
    deserialiseRawTransaction schemalessReader
        (wirePayload schemaId avroPayload)
        expectedSchemaId =
      (convertTimes record).mapError
        (fun e => avroFailure (conversionText e)) := by
  have hTake :
      (schemaId ++ avroPayload).take 4 = schemaId := by
    rw [← hLength, List.take_left]
  have hDrop :
      (schemaId ++ avroPayload).drop 4 = avroPayload := by
    rw [← hLength, List.drop_left]
  have hLong :
      ¬ (wirePayload schemaId avroPayload).length <
        headerSize := by
    simp [wirePayload, headerSize, hLength]
  have hSchema :
      expectedSchemaId.any (· ≠ bigEndian schemaId) =
        false := by
    cases expectedSchemaId with
    | none => rfl
    | some expected => simp [hExpected expected rfl]
  unfold deserialiseRawTransaction
  rw [if_neg hLong]
  simp only [wirePayload, List.headD_cons, List.drop_succ_cons,
    List.drop_zero, hTake, hDrop, headerSize, ne_eq,
    not_true_eq_false, if_false, hSchema,
    Bool.false_eq_true, hRead]
  cases convertTimes record <;> rfl

theorem convertTimes_of_era
    {record : RawTransaction}
    (hEvent : DeployedEra record.eventTime)
    (hProcessing : DeployedEra record.processingTime) :
    convertTimes record = .ok record := by
  unfold convertTimes
  rw [epochMillis_of_era hEvent,
    epochMillis_of_era hProcessing]
  rfl

/- A converted record keeps each of its times that is of
   the era. -/
theorem times_of_convertTimes
    {record txn : RawTransaction}
    (hOk : convertTimes record = .ok txn) :
    (DeployedEra record.eventTime →
        txn.eventTime = record.eventTime) ∧
      (DeployedEra record.processingTime →
        txn.processingTime = record.processingTime) := by
  unfold convertTimes at hOk
  cases hEvent : epochMillis record.eventTime with
  | error e =>
      rw [hEvent] at hOk
      cases hOk
  | ok eventTime =>
      cases hProcessing :
          epochMillis record.processingTime with
      | error e =>
          rw [hEvent, hProcessing] at hOk
          cases hOk
      | ok processingTime =>
          rw [hEvent, hProcessing] at hOk
          cases hOk
          constructor
          · intro hEra
            rw [epochMillis_of_era hEra] at hEvent
            exact (Except.ok.inj hEvent).symm
          · intro hEra
            rw [epochMillis_of_era hEra] at hProcessing
            exact (Except.ok.inj hProcessing).symm

variable
  (schemalessWriter : RawTransaction → List UInt8)

/-
  A record that is written and read comes back with the same
  times: the whole record when both are of the era, and each
  time of the era whenever a transaction is returned.
-/
theorem times_survive_wire
    (record : RawTransaction)
    (hRead :
      schemalessReader (schemalessWriter record) =
        .ok record)
    (schemaId : List UInt8)
    (hLength : schemaId.length = 4)
    (expectedSchemaId : Option Nat)
    (hExpected :
      ∀ expected ∈ expectedSchemaId,
        expected = bigEndian schemaId) :
    let result :=
      deserialiseRawTransaction schemalessReader
        (wirePayload schemaId (schemalessWriter record))
        expectedSchemaId
    (DeployedEra record.eventTime →
        DeployedEra record.processingTime →
          result = .ok record) ∧
      ∀ txn,
        result = .ok txn →
          (DeployedEra record.eventTime →
              txn.eventTime = record.eventTime) ∧
            (DeployedEra record.processingTime →
              txn.processingTime =
                record.processingTime) := by
  intro result
  have hResult :
      result =
        (convertTimes record).mapError
          (fun e => avroFailure (conversionText e)) :=
    deserialise_wirePayload schemalessReader hLength
      hExpected hRead
  constructor
  · intro hEvent hProcessing
    rw [hResult, convertTimes_of_era hEvent hProcessing]
    rfl
  · intro txn hOk
    apply times_of_convertTimes
    rw [hResult] at hOk
    cases hTimes : convertTimes record with
    | error e =>
        rw [hTimes] at hOk
        cases hOk
    | ok converted =>
        rw [hTimes] at hOk
        cases hOk
        rfl

/- The Avro record of a sample transaction. -/
def sampleAvro : List UInt8 :=
  [0x04, 0x74, 0x31] ++
    [0x0e, 0x61, 0x63, 0x63, 0x2d, 0x30, 0x30, 0x31] ++
    [0x12, 0x6d, 0x65, 0x72, 0x63, 0x68, 0x2d, 0x30, 0x30,
      0x31] ++
    [0x06, 0x01, 0x86, 0xa0] ++
    [0x06, 0x55, 0x53, 0x44] ++
    [0x80, 0xa0, 0xab, 0xfe, 0xf9, 0x62] ++
    [0x80, 0xa0, 0xab, 0xfe, 0xf9, 0x62] ++
    [0x06, 0x57, 0x45, 0x42] ++
    [0x0c, 0x34, 0x31, 0x31, 0x31, 0x31, 0x31] ++
    [0x08, 0x31, 0x31, 0x31, 0x31] ++
    [0x16, 0x32, 0x30, 0x33, 0x2e, 0x30, 0x2e, 0x31, 0x31,
      0x33, 0x2e, 0x30] ++
    [0x0e, 0x6b, 0x65, 0x79, 0x2d, 0x30, 0x30, 0x31] ++
    [0x12, 0x74, 0x78, 0x6e, 0x3a, 0x77, 0x72, 0x69, 0x74,
      0x65] ++
    [0x00, 0x00] ++
    [0x0a, 0x31, 0x2e, 0x30, 0x2e, 0x30]

/- A reader of the sample record. -/
def sampleReader
    (avroPayload : List UInt8) :
    Except String RawTransaction :=
  if avroPayload = sampleAvro then
    .ok (sampleTransaction "t1" 1700000000000)
  else
    .error "EOFError"

theorem times_survive_wire_sample :
    deserialiseRawTransaction sampleReader
        (wirePayload [0, 0, 0, 1] sampleAvro) (some 1) =
      .ok (sampleTransaction "t1" 1700000000000) :=
  (times_survive_wire sampleReader (fun _ => sampleAvro)
    (sampleTransaction "t1" 1700000000000)
    (if_pos rfl) [0, 0, 0, 1] rfl (some 1)
    (by
      intro expected hExpected
      cases hExpected
      decide)).1 (by decide) (by decide)

end FraudStream
