import FraudStream.Library.KeyedStream
import FraudStream.Processing.Device.Operator

/-
  Deduplication by transaction identifier, and the assembly
  of the enriched record.

  A record maps field names to scalars. The enrichment time
  is read from the clock and is a parameter.

  Key definitions include:
    * `TransactionDedup.operator`
    * `Record`
    * `assembleRecord`
    * `assemble`
-/

------------------------------------------------------------
-- Deduplication
------------------------------------------------------------

namespace FraudStream

namespace TransactionDedup

open EventTime

/- The state is the time the identifier was seen at. Its
   processing-time expiry is left out. -/
def processElement
    (eventTimeMs _currentWatermark : Int)
    (txn : RawTransaction)
    (seen : Option Int) :
    Effect (Option Int) RawTransaction :=
  match seen with
  | some _ => { state := seen, timers := [], output := [] }
  | none =>
      { state := some eventTimeMs
        timers := []
        output := [txn] }

def operator :
    Operator (Option Int) RawTransaction RawTransaction where
  init := none
  processElement := processElement
  onTimer := fun _ seen => seen

end TransactionDedup

end FraudStream

------------------------------------------------------------
-- Enriched Records
------------------------------------------------------------

namespace FraudStream

/- A record maps field names to scalars. -/
abbrev Record := Dict String Scalar

/- `record.get(name)`: a missing field reads as null. -/
def Record.get
    (record : Record)
    (name : String) : Scalar :=
  (record.get? name).getD .none

def optionalString (s : Option String) : Scalar :=
  .ofOption .str s

def optionalInt (n : Option Int) : Scalar :=
  .ofOption .int n

def optionalFloat (f : Option PyFloat) : Scalar :=
  .ofOption .float f

/- The version, unless the environment names another. -/
def processorVersion : String :=
  "002-stream-processor@1.0.0"

/- `(device_dict.get("device_txn_count") or 0) == 1` -/
def deviceIsNew (device : DeviceFields) : Bool :=
  device.deviceTxnCount.getD 0 = 1

/- The count of a window as a field value. -/
def velocityCount
    (v : Velocity.Velocities)
    (L : Window) : Scalar :=
  .int (v L).1

/- The amount of a window as a field value. -/
def velocityAmount
    (v : Velocity.Velocities)
    (L : Window) : Scalar :=
  .decimal (.finite (v L).2)

/- The fields of a record with their values, in order. -/
def recordEntries
    (txn : RawTransaction)
    (velocity : Velocity.Velocities)
    (geo : GeoFields)
    (device : DeviceFields)
    (enrichmentTime enrichmentLatencyMs : Int) :
    List (String × Scalar) :=
  [("transaction_id", .str txn.transactionId),
    ("account_id", .str txn.accountId),
    ("merchant_id", .str txn.merchantId),
    ("amount", .decimal (.finite txn.amount)),
    ("currency", .str txn.currency),
    ("event_time", .int txn.eventTime),
    ("processing_time", .int txn.processingTime),
    ("channel", .str txn.channel),
    ("card_bin", .str txn.cardBin),
    ("card_last4", .str txn.cardLast4),
    ("caller_ip_subnet", .str txn.callerIpSubnet),
    ("api_key_id", .str txn.apiKeyId),
    ("oauth_scope", .str txn.oauthScope),
    ("geo_lat", optionalFloat txn.geoLat),
    ("geo_lon", optionalFloat txn.geoLon),
    ("masking_lib_version", .str txn.maskingLibVersion),
    ("vel_count_1m", velocityCount velocity .m1),
    ("vel_amount_1m", velocityAmount velocity .m1),
    ("vel_count_5m", velocityCount velocity .m5),
    ("vel_amount_5m", velocityAmount velocity .m5),
    ("vel_count_1h", velocityCount velocity .h1),
    ("vel_amount_1h", velocityAmount velocity .h1),
    ("vel_count_24h", velocityCount velocity .h24),
    ("vel_amount_24h", velocityAmount velocity .h24),
    ("geo_country", optionalString geo.geoCountry),
    ("geo_city", optionalString geo.geoCity),
    ("geo_network_class",
      optionalString geo.geoNetworkClass),
    ("geo_confidence", optionalFloat geo.geoConfidence),
    ("device_first_seen",
      optionalInt device.deviceFirstSeen),
    ("device_txn_count",
      optionalInt (device.deviceTxnCount.map (↑·))),
    ("device_known_fraud",
      .ofOption .bool device.deviceKnownFraud),
    ("prev_geo_country",
      optionalString device.prevGeoCountry),
    ("prev_txn_time_ms",
      optionalInt device.prevTxnTimeMs),
    ("device_is_new", .bool (deviceIsNew device)),
    ("txn_amount", .decimal (.finite txn.amount)),
    ("enrichment_time", .int enrichmentTime),
    ("enrichment_latency_ms", .int enrichmentLatencyMs),
    ("processor_version", .str processorVersion),
      ("schema_version", .str "1")]

def assembleRecord
    (txn : RawTransaction)
    (velocity : Velocity.Velocities)
    (geo : GeoFields)
    (device : DeviceFields)
    (enrichmentTime enrichmentLatencyMs : Int) : Record :=
  .ofList
    (recordEntries txn velocity geo device enrichmentTime
      enrichmentLatencyMs)

/- The record of one transaction at an enrichment time. -/
def assemble
    (enrichmentTime : Int)
    (d : DeviceEnriched) : Record :=
  assembleRecord d.txn d.velocity d.geo d.device
    enrichmentTime
    (max 0 (enrichmentTime - d.txn.processingTime))

/- The names of the fields are distinct. -/
theorem nodup_recordEntries
    (txn : RawTransaction)
    (velocity : Velocity.Velocities)
    (geo : GeoFields)
    (device : DeviceFields)
    (enrichmentTime enrichmentLatencyMs : Int) :
    ((recordEntries txn velocity geo device enrichmentTime
      enrichmentLatencyMs).map Prod.fst).Nodup := by
  simp [recordEntries]

/- A field of an assembled record is looked up by name. -/
theorem get?_assemble
    (enrichmentTime : Int)
    (d : DeviceEnriched)
    (name : String) :
    (assemble enrichmentTime d).get? name =
      Dict.lookupEntries name
        (recordEntries d.txn d.velocity d.geo d.device
          enrichmentTime
          (max 0 (enrichmentTime - d.txn.processingTime))) := by
  rw [assemble, assembleRecord,
    Dict.get?_ofList (nodup_recordEntries ..)]

theorem get_assemble
    (enrichmentTime : Int)
    (d : DeviceEnriched)
    (name : String) :
    (assemble enrichmentTime d).get name =
      (Dict.lookupEntries name
        (recordEntries d.txn d.velocity d.geo d.device
          enrichmentTime
          (max 0
            (enrichmentTime - d.txn.processingTime)))).getD
        .none := by
  rw [Record.get, get?_assemble]

/- The rules' fields that no assembled record has. -/
theorem get?_assemble_absent
    (enrichmentTime : Int)
    (d : DeviceEnriched) :
    (assemble enrichmentTime d).get? "txn_time_ms" = none ∧
      (assemble enrichmentTime d).get? "device_count_24h" =
        none := by
  simp [get?_assemble, recordEntries, Dict.lookupEntries]

end FraudStream
