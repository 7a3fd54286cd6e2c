import FraudStream.Processing.Enricher
import FraudStream.Scoring.Rules.Models

/-
  The evaluation functions of the rule families.

  Each takes a record and the conditions of a rule and
  returns a truth value, or raises: the conditions are
  whatever the rules file holds.

  Key definitions include:
    * `evaluateVelocity`
    * `evaluateImpossibleTravel`
    * `evaluateNewDevice`
    * `evaluateFamily`
-/

------------------------------------------------------------
-- Velocity
------------------------------------------------------------

namespace FraudStream

/- `conditions.get(name)` -/
def Conditions.get
    (conditions : Conditions)
    (name : String) : PyVal :=
  (conditions.get? name).getD (.scalar .none)

/- The value of the record under a key of any type: only a
   string names a field. -/
def Record.named
    (txn : Record) : PyVal → Scalar
| .scalar (.str name) => txn.get name
| _ => .none

/- `txn.get(field)` for a field that is any value: a value
   without a hash raises. -/
def Record.getValue
    (txn : Record)
    (field : PyVal) : Except PyError Scalar :=
  if field.hashable then
    .ok (txn.named field)
  else
    .error .typeError

/- `value > Decimal(str(amount))` -/
def exceedsAmount
    (value : Scalar)
    (amount : PyVal) : Except PyError Bool :=
  match amount.toDecimal with
  | .ok d => value.order .gt (.decimal d)
  | .error e => .error e

/- Compare with the count if there is one, else with the
   amount. -/
def exceedsThreshold
    (value : Scalar)
    (conditions : Conditions) : Except PyError Bool :=
  match conditions.get? "count", conditions.get? "amount" with
  | some count, _ => PyVal.order .gt value count
  | none, some amount => exceedsAmount value amount
  | none, none => .ok false

def evaluateVelocity
    (txn : Record)
    (conditions : Conditions) : Except PyError Bool :=
  let field := conditions.get "field"
  if field.isNone then
    .ok false
  else
    match txn.getValue field with
    | .error e => .error e
    | .ok .none => .ok false
    | .ok value => exceedsThreshold value conditions

end FraudStream

------------------------------------------------------------
-- Impossible Travel
------------------------------------------------------------

namespace FraudStream

/- `abs(current - previous) <= window` -/
def withinWindow
    (current previous : Scalar)
    (window : PyVal) : Except PyError Bool :=
  match Scalar.absDifference current previous with
  | .ok delta => PyVal.order .le delta window
  | .error e => .error e

def evaluateImpossibleTravel
    (txn : Record)
    (conditions : Conditions) : Except PyError Bool :=
  let prevGeoCountry := txn.get "prev_geo_country"
  let prevTxnTimeMs := txn.get "prev_txn_time_ms"
  let currentCountry := txn.get "geo_country"
  let currentTimeMs := txn.get "txn_time_ms"
  if prevGeoCountry = .none then .ok false
  else if prevTxnTimeMs = .none then .ok false
  else if currentCountry = .none then .ok false
  else if currentTimeMs = .none then .ok false
  else if prevGeoCountry.equal currentCountry then .ok false
  else
    match conditions.get? "window_ms" with
    | some window =>
        withinWindow currentTimeMs prevTxnTimeMs window
    | none => .ok false

end FraudStream

------------------------------------------------------------
-- New Device
------------------------------------------------------------

namespace FraudStream

/- A new device with an amount above the threshold. -/
def evaluateNd001
    (txn : Record)
    (conditions : Conditions) : Except PyError Bool :=
  let txnAmount := txn.get "txn_amount"
  if !(txn.get "device_is_new").truthy then .ok false
  else if txnAmount = .none then .ok false
  else exceedsAmount txnAmount (conditions.get "amount")

/- A new device with rapid transactions. -/
def evaluateNd002
    (txn : Record)
    (conditions : Conditions) : Except PyError Bool :=
  let deviceCount24h := txn.get "device_count_24h"
  let velCount1m := txn.get "vel_count_1m"
  if !(txn.get "device_is_new").truthy then .ok false
  else if deviceCount24h = .none ∨ velCount1m = .none then
    .ok false
  else
    match PyVal.order .ge deviceCount24h
        (conditions.get "device_count") with
    | .error e => .error e
    | .ok false => .ok false
    | .ok true =>
        match conditions.get? "vel_count" with
        | none => .error .keyError
        | some count => PyVal.order .ge velCount1m count

/- A device known for fraud: exactly the value true. -/
def evaluateNd003 (txn : Record) : Except PyError Bool :=
  .ok (txn.get "device_known_fraud" = .bool true)

/- A new device on a given class of network. -/
def evaluateNd004
    (txn : Record)
    (conditions : Conditions) : Except PyError Bool :=
  let geoNetworkClass := txn.get "geo_network_class"
  if !(txn.get "device_is_new").truthy then .ok false
  else if geoNetworkClass = .none then .ok false
  else
    .ok (PyVal.equalScalar geoNetworkClass
      (conditions.get "network_class"))

def evaluateNewDevice
    (txn : Record)
    (conditions : Conditions) : Except PyError Bool :=
  if conditions.contains "amount" then
    evaluateNd001 txn conditions
  else if conditions.contains "device_count" then
    evaluateNd002 txn conditions
  else if conditions.contains "network_class" then
    evaluateNd004 txn conditions
  else
    evaluateNd003 txn

/- The evaluation function of a family. -/
def evaluateFamily :
    RuleFamily → Record → Conditions → Except PyError Bool
| .velocity => evaluateVelocity
| .impossibleTravel => evaluateImpossibleTravel
| .newDevice => evaluateNewDevice

/- Evaluate a rule on a record. -/
def RuleDefinition.evaluate
    (rule : RuleDefinition)
    (txn : Record) : Except PyError Bool :=
  evaluateFamily rule.family txn rule.conditions

end FraudStream
