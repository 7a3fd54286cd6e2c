import FraudStream.Processing.Velocity.Operator

/-
  The geolocation map: a stateless lookup of the subnet.

  The reader of the location database is a parameter. It is
  absent when the database cannot be opened, and returns
  nothing for an address on which it raises. The cache of
  lookups is invisible, since a lookup has one result.

  Key definitions include:
    * `GeoFields`
    * `GeoReader`
    * `subnetToIp`
    * `doLookup`
    * `geolocationMap`
-/

namespace FraudStream

structure GeoFields where
  geoCountry : Option String
  geoCity : Option String
  geoNetworkClass : Option String
  geoConfidence : Option PyFloat
deriving DecidableEq

/- The country code and the city name of an address. -/
abbrev GeoReader :=
  String → Option (Option String × Option String)

/- The host that stands for a subnet. -/
def subnetToIp (subnet : String) : String :=
  let host := (subnet.splitOn "/").headD ""
  let parts := host.splitOn "."
  if parts.length = 4 && parts.getLast? = some "0" then
    String.intercalate "." (parts.dropLast ++ ["1"])
  else
    String.intercalate "." parts

def nullGeoFields : GeoFields where
  geoCountry := none
  geoCity := none
  geoNetworkClass := none
  geoConfidence := none

def doLookup
    (reader : Option GeoReader)
    (subnet : String) : GeoFields :=
  match reader.bind (fun city => city (subnetToIp subnet)) with
  | some (country, name) =>
      { geoCountry := country
        geoCity := name
        geoNetworkClass := some "RESIDENTIAL"
        geoConfidence := some (.ofRat (9 / 10)) }
  | none => nullGeoFields

/- A transaction with its velocities and its location. -/
structure GeoEnriched where
  txn : RawTransaction
  velocity : Velocity.Velocities
  geo : GeoFields

def geolocationMap
    (reader : Option GeoReader)
    (txn : RawTransaction)
    (velocity : Velocity.Velocities) : GeoEnriched where
  txn := txn
  velocity := velocity
  geo := doLookup reader txn.callerIpSubnet

end FraudStream
