import FraudStream.Processing.Geolocation

/-
  The device operator, keyed on the API key.

  The state is the profile of the device, if it has one. An
  element without an API key passes with null fields; any
  other updates the profile and registers one idle timer. A
  timer forgets the profile, whatever the profile holds.

  Key definitions include:
    * `DeviceProfileState`
    * `DeviceFields`
    * `DeviceEnriched`
    * `Device.processElement`
    * `Device.operator`
-/

------------------------------------------------------------
-- Profiles
------------------------------------------------------------

namespace FraudStream

structure DeviceProfileState where
  firstSeenMs : Int
  txnCount : Nat
  knownFraud : Bool
  lastSeenMs : Int
  lastGeoCountry : Option String
deriving DecidableEq

structure DeviceFields where
  deviceFirstSeen : Option Int
  deviceTxnCount : Option Nat
  deviceKnownFraud : Option Bool
  prevGeoCountry : Option String
  prevTxnTimeMs : Option Int
deriving DecidableEq

def nullDeviceFields : DeviceFields where
  deviceFirstSeen := none
  deviceTxnCount := none
  deviceKnownFraud := none
  prevGeoCountry := none
  prevTxnTimeMs := none

/- A located transaction with the fields of its device. -/
structure DeviceEnriched extends GeoEnriched where
  device : DeviceFields

end FraudStream

------------------------------------------------------------
-- Callbacks
------------------------------------------------------------

namespace FraudStream

namespace Device

open EventTime

def idleTtlMs : Int := 7 * 24 * 3600 * 1000

/- The profile after one more transaction. -/
def updatedProfile
    (eventTimeMs : Int)
    (geoCountry : Option String) :
    Option DeviceProfileState → DeviceProfileState
| none =>
    { firstSeenMs := eventTimeMs
      txnCount := 1
      knownFraud := false
      lastSeenMs := eventTimeMs
      lastGeoCountry := geoCountry }
| some current =>
    { firstSeenMs := current.firstSeenMs
      txnCount := current.txnCount + 1
      knownFraud := current.knownFraud
      lastSeenMs := eventTimeMs
      lastGeoCountry := geoCountry }

/- The fields of the profile before and after a change. -/
def deviceFields
    (current : Option DeviceProfileState)
    (updated : DeviceProfileState) : DeviceFields where
  deviceFirstSeen := some updated.firstSeenMs
  deviceTxnCount := some updated.txnCount
  deviceKnownFraud := some updated.knownFraud
  prevGeoCountry := current.bind (·.lastGeoCountry)
  prevTxnTimeMs := current.map (·.lastSeenMs)

def processElement
    (eventTimeMs _currentWatermark : Int)
    (value : GeoEnriched)
    (current : Option DeviceProfileState) :
    Effect (Option DeviceProfileState) DeviceEnriched :=
  if value.txn.apiKeyId = "" then
    { state := current
      timers := []
      output :=
        [{ value with device := nullDeviceFields }] }
  else
    let updated :=
      updatedProfile eventTimeMs value.geo.geoCountry
        current
    { state := some updated
      timers := [eventTimeMs + idleTtlMs]
      output :=
        [{ value with
          device := deviceFields current updated }] }

/- Forget the profile. -/
def onTimer
    (_timestamp : Int)
    (_current : Option DeviceProfileState) :
    Option DeviceProfileState :=
  none

def operator :
    Operator (Option DeviceProfileState) GeoEnriched
      DeviceEnriched where
  init := none
  processElement := processElement
  onTimer := onTimer

end Device

end FraudStream
