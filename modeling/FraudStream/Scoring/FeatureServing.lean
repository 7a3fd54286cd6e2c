import FraudStream.Library.LastWrite
import FraudStream.Processing.FeatureMaterializer

/-
  The online store and the client that serves features.

  The store is the log of the tables pushed to it: a field
  of an account reads as its last pushed value, and as null
  when there is none. The client reads every field of an
  account at once. A response with any null is a miss and is
  served as the zero vector, like a timeout and a failure.

  Key definitions include:
    * `OnlineStore.readField`
    * `OnlineStore.getOnlineFeatures`
    * `FeatureVector`
    * `FeatureServingClient.getFeatures`
-/

------------------------------------------------------------
-- The Online Store
------------------------------------------------------------

namespace FraudStream

/- A feature of a feature view. -/
structure FeatureRef where
  view : String
  field : String

/- The push source of a feature view. -/
def FeatureRef.source (ref : FeatureRef) : String :=
  if ref.view = "velocity_features" then
    "velocity_push_source"
  else if ref.view = "geo_features" then
    "geo_push_source"
  else
    "device_push_source"

/- The tables pushed so far, oldest first. -/
abbrev OnlineStore := List FeaturePush

namespace OnlineStore

/- The rows of a push under their source and account. -/
def writes
    (push : FeaturePush) :
    List ((String × Scalar) × List (String × Scalar)) :=
  push.rows.map (fun row =>
    ((push.sourceName, row.accountId), row.features))

def log
    (store : OnlineStore) :
    List ((String × Scalar) × List (String × Scalar)) :=
  store.flatMap writes

/- The last pushed value of a field of an account. -/
def readField
    (store : OnlineStore)
    (accountId : String)
    (ref : FeatureRef) : Scalar :=
  ((LastWrite.read (ref.source, .str accountId)
      store.log).bind
    (Dict.lookupEntries ref.field)).getD .none

/- One value for the account and for each feature. -/
def getOnlineFeatures
    (store : OnlineStore)
    (features : List FeatureRef)
    (accountId : String) : Record :=
  .ofList
    (("account_id", .str accountId) ::
      features.map (fun ref =>
        (ref.field, store.readField accountId ref)))

end OnlineStore

end FraudStream

------------------------------------------------------------
-- Feature Vectors
------------------------------------------------------------

namespace FraudStream

structure FeatureVector where
  accountId : String
  velCount1m : Int
  velAmount1m : PyFloat
  velCount5m : Int
  velAmount5m : PyFloat
  velCount1h : Int
  velAmount1h : PyFloat
  velCount24h : Int
  velAmount24h : PyFloat
  geoCountry : String
  geoCity : String
  geoNetworkClass : String
  geoConfidence : PyFloat
  deviceFirstSeen : Int
  deviceTxnCount : Int
  deviceKnownFraud : Bool
  prevGeoCountry : String
  prevTxnTimeMs : Int
deriving DecidableEq

def zeroFeatureVector : FeatureVector where
  accountId := ""
  velCount1m := 0
  velAmount1m := .finite 0
  velCount5m := 0
  velAmount5m := .finite 0
  velCount1h := 0
  velAmount1h := .finite 0
  velCount24h := 0
  velAmount24h := .finite 0
  geoCountry := ""
  geoCity := ""
  geoNetworkClass := ""
  geoConfidence := .finite 0
  deviceFirstSeen := 0
  deviceTxnCount := 0
  deviceKnownFraud := false
  prevGeoCountry := ""
  prevTxnTimeMs := 0

inductive FallbackReason where
| timeout
| unavailable
deriving DecidableEq, Repr

def FallbackReason.value : FallbackReason → String
| .timeout => "timeout"
| .unavailable => "unavailable"

/- One increment of a counter of the client. -/
inductive ServingMetric where
| featureStoreMiss
| featureStoreFallback : FallbackReason → ServingMetric
deriving DecidableEq, Repr

end FraudStream

------------------------------------------------------------
-- The Client
------------------------------------------------------------

namespace FraudStream

namespace FeatureServingClient

/- What comes back from the store within the timeout. -/
inductive StoreResponse where
| features : Record → StoreResponse
| timeout : StoreResponse
| failure : (exc : String) → StoreResponse

def velocityRefs : List FeatureRef :=
  [⟨"velocity_features", "vel_count_1m"⟩,
    ⟨"velocity_features", "vel_amount_1m"⟩,
    ⟨"velocity_features", "vel_count_5m"⟩,
    ⟨"velocity_features", "vel_amount_5m"⟩,
    ⟨"velocity_features", "vel_count_1h"⟩,
    ⟨"velocity_features", "vel_amount_1h"⟩,
    ⟨"velocity_features", "vel_count_24h"⟩,
    ⟨"velocity_features", "vel_amount_24h"⟩]

def geoRefs : List FeatureRef :=
  [⟨"geo_features", "geo_country"⟩,
    ⟨"geo_features", "geo_city"⟩,
    ⟨"geo_features", "geo_network_class"⟩,
    ⟨"geo_features", "geo_confidence"⟩]

def deviceRefs : List FeatureRef :=
  [⟨"device_features", "device_first_seen"⟩,
    ⟨"device_features", "device_txn_count"⟩,
    ⟨"device_features", "device_known_fraud"⟩,
    ⟨"device_features", "prev_geo_country"⟩,
    ⟨"device_features", "prev_txn_time_ms"⟩]

def featureRefs : List FeatureRef :=
  velocityRefs ++ geoRefs ++ deviceRefs

def zeroFor (accountId : String) : FeatureVector :=
  { zeroFeatureVector with accountId := accountId }

/- `int(values.get(name) or 0)` -/
def intValue
    (values : Record)
    (name : String) : Except PyError Int :=
  ((values.get name).orElse (.int 0)).toInt

/- `float(values.get(name) or 0.0)` -/
def floatValue
    (values : Record)
    (name : String) : Except PyError PyFloat :=
  ((values.get name).orElse (.float (.finite 0))).toFloat

/- `str(values.get(name) or "")`; the text of a value that
   is no string is a parameter. -/
def textValue
    (textOf : Scalar → String)
    (values : Record)
    (name : String) : String :=
  match (values.get name).orElse (.str "") with
  | .str s => s
  | x => textOf x

/- `bool(values.get(name) or False)` -/
def boolValue
    (values : Record)
    (name : String) : Bool :=
  ((values.get name).orElse (.bool false)).truthy

/- The vector of a response without nulls. -/
def populated
    (textOf : Scalar → String)
    (values : Record)
    (accountId : String) : Except PyError FeatureVector := do
  let velCount1m ← intValue values "vel_count_1m"
  let velAmount1m ← floatValue values "vel_amount_1m"
  let velCount5m ← intValue values "vel_count_5m"
  let velAmount5m ← floatValue values "vel_amount_5m"
  let velCount1h ← intValue values "vel_count_1h"
  let velAmount1h ← floatValue values "vel_amount_1h"
  let velCount24h ← intValue values "vel_count_24h"
  let velAmount24h ← floatValue values "vel_amount_24h"
  let geoConfidence ← floatValue values "geo_confidence"
  let deviceFirstSeen ← intValue values "device_first_seen"
  let deviceTxnCount ← intValue values "device_txn_count"
  let prevTxnTimeMs ← intValue values "prev_txn_time_ms"
  pure
    { accountId := accountId
      velCount1m := velCount1m
      velAmount1m := velAmount1m
      velCount5m := velCount5m
      velAmount5m := velAmount5m
      velCount1h := velCount1h
      velAmount1h := velAmount1h
      velCount24h := velCount24h
      velAmount24h := velAmount24h
      geoCountry := textValue textOf values "geo_country"
      geoCity := textValue textOf values "geo_city"
      geoNetworkClass :=
        textValue textOf values "geo_network_class"
      geoConfidence := geoConfidence
      deviceFirstSeen := deviceFirstSeen
      deviceTxnCount := deviceTxnCount
      deviceKnownFraud :=
        boolValue values "device_known_fraud"
      prevGeoCountry :=
        textValue textOf values "prev_geo_country"
      prevTxnTimeMs := prevTxnTimeMs }

/- The values of a response, without the account. -/
def valuesOf (raw : Record) : Record :=
  raw.keepKeys (fun name => name ≠ "account_id")

/- Some value is null. -/
def anyNone (values : Record) : Bool :=
  values.entries.any (fun e => e.2 = .none)

/- Every value is null. -/
def allNone (values : Record) : Bool :=
  values.entries.all (fun e => e.2 = .none)

/- The vector served for an account and the counter
   increments. The histogram of retrieval times and the log
   lines are left out. -/
def getFeatures
    (textOf : Scalar → String)
    (opened : Bool)
    (response : StoreResponse)
    (accountId : String) :
    FeatureVector × List ServingMetric :=
  if !opened then
    (zeroFor accountId, [])
  else
    match response with
    | .timeout =>
        (zeroFor accountId, [.featureStoreFallback .timeout])
    | .failure _ =>
        (zeroFor accountId,
          [.featureStoreFallback .unavailable])
    | .features raw =>
        let values := valuesOf raw
        if allNone values then
          (zeroFor accountId, [.featureStoreMiss])
        else if anyNone values then
          (zeroFor accountId, [.featureStoreMiss])
        else
          match populated textOf values accountId with
          | .ok vector => (vector, [])
          | .error _ =>
              (zeroFor accountId,
                [.featureStoreFallback .unavailable])

end FeatureServingClient

end FraudStream
