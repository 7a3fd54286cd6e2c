import Mathlib.Data.Nat.Size
import FraudStream.Ingestion.PiiMasker

/-
  The producer of transaction events: masking, the event,
  the leak guard and the path of a rejected payload.

  An event is built from a payload or an exception is
  raised. A rejected card number and a failed mask are sent
  to the dead-letter topic, logged and answered with their
  text; the payload is sent without its two secret fields.

  Key definitions include:
    * `TransactionEventBuilder.build`
    * `assertNoPiiLeak`
    * `publish`
    * `handlePreSerialiseError`
    * `publishFailure?`
-/

------------------------------------------------------------
-- Events
------------------------------------------------------------

namespace FraudStream

/- A value of an event. -/
inductive EventValue where
| bytes : List UInt8 → EventValue
| int : Int → EventValue
| value : JsonValue → EventValue

abbrev TransactionEvent := Dict String EventValue

def EventValue.str (s : String) : EventValue :=
  .value (.str s)

/- A random identifier, written with hyphens. -/
structure Uuid where
  text : String
  hyphen : '-' ∈ text.toList
deriving DecidableEq

/- The exceptions of the builder and of the leak guard. -/
inductive PublishError where
| invalidPan : (message : String) → PublishError
| masking : (message : String) → PublishError
| raised : PyError → PublishError

/- What the builder reads besides the payload. -/
structure BuildContext where
  processingTime : Int
  uuid : Uuid

/- `raw_payload[name]` -/
def getItem
    (payload : JsonObject)
    (name : String) : Except PyError JsonValue :=
  match payload.get? name with
  | some v => .ok v
  | none => .error .keyError

/- `raw_payload.get(name)` -/
def getOrNull
    (payload : JsonObject)
    (name : String) : JsonValue :=
  (payload.get? name).getD .null

/- An exception that no handler names. -/
def liftRaised
    {α : Type} : Except PyError α → Except PublishError α
| .ok a => .ok a
| .error e => .error (.raised e)

end FraudStream

------------------------------------------------------------
-- Amounts
------------------------------------------------------------

namespace FraudStream

/- `round(f)` -/
def roundFloat : PyFloat → Except PyError Int
| .finite v => .ok (PyFloat.roundHalfEven v)
| .inf _ => .error .overflowError
| .nan => .error .valueError

/- `f * 10_000` -/
def scaleAmount : PyFloat → PyFloat
| .finite v => .ofRat (v * 10000)
| f => f

/- `n.bit_length()` -/
def bitLength (n : Int) : Nat :=
  n.natAbs.size

/- `n.to_bytes(length, "big", signed)` -/
def toBytes
    (n : Int)
    (length : Nat) : Except PyError (List UInt8) :=
  let bound : Int := 2 ^ (8 * length - 1)
  if -bound ≤ n ∧ n < bound then
    let m := (n.emod (2 ^ (8 * length))).toNat
    .ok
      ((List.range length).reverse.map (fun i =>
        .ofNat (m / 256 ^ i)))
  else
    .error .overflowError

/- An amount scaled by ten thousand, as signed bytes. -/
def encodeAmount
    (rawAmount : JsonValue) : Except PyError (List UInt8) := do
  let amount ← rawAmount.toFloat
  let amountInt ← roundFloat (scaleAmount amount)
  toBytes amountInt ((bitLength amountInt + 8) / 8)

end FraudStream

------------------------------------------------------------
-- The Event Builder
------------------------------------------------------------

namespace FraudStream

namespace TransactionEventBuilder

/- The builder with its masks and its channel. -/
structure Config where
  masking : MaskingConfig
  channel : String

/- A rejected number keeps its exception; the others are
   masking errors. -/
def panFailure : MaskFault → PublishError
| .invalidPan message => .invalidPan message
| .raised _ message =>
    .masking ("PAN masking failed: " ++ message)

def maskPan
    (table : TextTable)
    (payload : JsonObject) : Except PublishError MaskedPAN :=
  match payload.get? "card_number" with
  | none =>
      .error (.masking "PAN masking failed: 'card_number'")
  | some card =>
      match RawPAN.ofJson card >>= RawPAN.mask table with
      | .ok masked => .ok masked
      | .error fault => .error (panFailure fault)

def ipFailure : MaskFault → PublishError
| .invalidPan message =>
    .masking ("IP masking failed: " ++ message)
| .raised _ message =>
    .masking ("IP masking failed: " ++ message)

def maskIp
    (table : TextTable)
    (cfg : MaskingConfig)
    (payload : JsonObject) : Except PublishError String :=
  match payload.get? "caller_ip" with
  | none => .error (.masking "IP masking failed: 'caller_ip'")
  | some ip =>
      match truncateIp table cfg ip with
      | .ok subnet => .ok subnet
      | .error fault => .error (ipFailure fault)

/- What an event takes from the fields that are not secret. -/
structure PublicFields where
  givenId : JsonValue
  accountId : JsonValue
  merchantId : JsonValue
  amount : List UInt8
  currency : JsonValue
  eventTime : Int
  apiKeyId : JsonValue
  oauthScope : JsonValue
  geoLat : JsonValue
  geoLon : JsonValue

def publicFields
    (payload : JsonObject) :
    Except PyError PublicFields := do
  let rawAmount ← getItem payload "amount"
  let amount ← encodeAmount rawAmount
  let accountId ← getItem payload "account_id"
  let merchantId ← getItem payload "merchant_id"
  let currency ← getItem payload "currency"
  let rawTime ← getItem payload "event_time"
  let eventTime ← rawTime.toInt
  let apiKeyId ← getItem payload "api_key_id"
  let oauthScope ← getItem payload "oauth_scope"
  pure
    { givenId := getOrNull payload "transaction_id"
      accountId := accountId
      merchantId := merchantId
      amount := amount
      currency := currency
      eventTime := eventTime
      apiKeyId := apiKeyId
      oauthScope := oauthScope
      geoLat := getOrNull payload "geo_lat"
      geoLon := getOrNull payload "geo_lon" }

/- `raw_payload.get("transaction_id") or str(uuid4())` -/
def transactionId
    (givenId : JsonValue)
    (uuid : Uuid) : JsonValue :=
  if givenId.truthy then givenId else .str uuid.text

/- The seventeen fields of an event. -/
def eventEntries
    (cfg : Config)
    (context : BuildContext)
    (fields : PublicFields)
    (masked : MaskedPAN)
    (subnet : String) : List (String × EventValue) :=
  [("transaction_id",
      .value (transactionId fields.givenId context.uuid)),
    ("account_id", .value fields.accountId),
    ("merchant_id", .value fields.merchantId),
    ("amount", .bytes fields.amount),
    ("currency", .value fields.currency),
    ("event_time", .int fields.eventTime),
    ("processing_time", .int context.processingTime),
    ("channel", .str cfg.channel),
    ("card_bin", .str masked.bin6),
    ("card_last4", .str masked.last4),
    ("caller_ip_subnet", .str subnet),
    ("api_key_id", .value fields.apiKeyId),
    ("oauth_scope", .value fields.oauthScope),
    ("geo_lat", .value fields.geoLat),
    ("geo_lon", .value fields.geoLon),
    ("masking_lib_version", .str "1.0.0"),
    ("schema_version", .str "1")]

def build
    (table : TextTable)
    (cfg : Config)
    (context : BuildContext)
    (payload : JsonObject) :
    Except PublishError TransactionEvent := do
  let masked ← maskPan table payload
  let subnet ← maskIp table cfg.masking payload
  let fields ← liftRaised (publicFields payload)
  pure
    (.ofList (eventEntries cfg context fields masked subnet))

end TransactionEventBuilder

end FraudStream

------------------------------------------------------------
-- The Leak Guard
------------------------------------------------------------

namespace FraudStream

/- The whole text is 15 to 19 decimal digits, which are word
   characters, so both ends are word boundaries. -/
def isPanText (s : String) : Bool :=
  15 ≤ s.toList.length && s.toList.length ≤ 19 &&
    s.toList.all (fun c => (Decimal.digit? c).isSome)

def EventValue.leaksPan : EventValue → Bool
| .value (.str s) => isPanText s
| _ => false

def assertNoPiiLeak
    (table : TextTable)
    (event : TransactionEvent) : Except PublishError Unit :=
  if event.contains "card_number" then
    .error
      (.masking
        ("PII LEAK: 'card_number' key present in event " ++
          "dict"))
  else
    match event.entries.find? (fun e => e.2.leaksPan) with
    | none => .ok ()
    | some (key, _) =>
        .error
          (.masking
            ("PII LEAK: field " ++
              PyText.repr table.isPrintable key ++
              " contains a full card-number-length digit " ++
              "sequence"))

end FraudStream

------------------------------------------------------------
-- Publishing
------------------------------------------------------------

namespace FraudStream

/- The events given to the broker, or the exception and
   whether masking was done before it. -/
def publish
    (table : TextTable)
    (cfg : TransactionEventBuilder.Config)
    (context : BuildContext)
    (payload : JsonObject) :
    Except (PublishError × Bool) TransactionEvent :=
  match TransactionEventBuilder.build table cfg context
      payload with
  | .error e => .error (e, false)
  | .ok event =>
      match assertNoPiiLeak table event with
      | .error e => .error (e, true)
      | .ok () => .ok event

/- The two exceptions that reach the handler. -/
inductive ErrorType where
| invalidPANError
| maskingError
deriving DecidableEq, Repr

def ErrorType.name : ErrorType → String
| .invalidPANError => "InvalidPANError"
| .maskingError => "MaskingError"

def ErrorType.status : ErrorType → Nat
| .invalidPANError => 400
| .maskingError => 500

/- The type and the text of a handled exception. -/
def PublishError.handled? :
    PublishError → Option (ErrorType × String)
| .invalidPan message => some (.invalidPANError, message)
| .masking message => some (.maskingError, message)
| .raised _ => none

/- What is sent to the dead-letter topic. -/
structure DeadLetter where
  sourceTopic : String
  originalPayload : String
  errorType : String
  errorMessage : String
  maskingApplied : Bool

/- The fields of the log record `publish_failed`. -/
structure PublishFailedLog where
  component : String
  errorType : String
  maskingApplied : Bool
  detail : String

structure HttpResponse where
  status : Nat
  body : String

/- Where a rejected payload leaves traces. -/
structure FailureOutputs where
  deadLetter : Option DeadLetter
  log : PublishFailedLog
  response : HttpResponse

def isSecret (name : String) : Bool :=
  name = "card_number" || name = "caller_ip"

/- The payload without its card number and address. -/
def withoutSecrets
    (payload : JsonObject) : JsonObject :=
  payload.keepKeys (fun name => !isSecret name)

def handlePreSerialiseError
    (table : TextTable)
    (hasDlqProducer : Bool)
    (errorType : ErrorType)
    (message : String)
    (payload : JsonObject)
    (maskingApplied : Bool) :
    Option DeadLetter × PublishFailedLog :=
  let safePayload :=
    JsonValue.dumps table
      (.dict (withoutSecrets payload).entries)
  let deadLetter : DeadLetter :=
    { sourceTopic := "txn.api"
      originalPayload := safePayload
      errorType := errorType.name
      errorMessage := message
      maskingApplied := maskingApplied }
  (if hasDlqProducer then some deadLetter else none,
    { component := "api-producer"
      errorType := errorType.name
      maskingApplied := maskingApplied
      detail := message })

/- The answer to a request whose payload was rejected. -/
def errorResponse
    (table : TextTable)
    (errorType : ErrorType)
    (message : String) : HttpResponse where
  status := errorType.status
  body :=
    JsonValue.dumps table
      (.dict
        [("error", .str errorType.name),
          ("detail", .str message)])

/- The traces of a handled exception. -/
def failureOutputs
    (table : TextTable)
    (hasDlqProducer : Bool)
    (payload : JsonObject)
    (maskingApplied : Bool)
    (handled : ErrorType × String) : FailureOutputs :=
  let traces :=
    handlePreSerialiseError table hasDlqProducer handled.1
      handled.2 payload maskingApplied
  { deadLetter := traces.1
    log := traces.2
    response := errorResponse table handled.1 handled.2 }

/- The traces of a payload that fails with one of the two
   exceptions. -/
def publishFailure?
    (table : TextTable)
    (cfg : TransactionEventBuilder.Config)
    (hasDlqProducer : Bool)
    (context : BuildContext)
    (payload : JsonObject) : Option FailureOutputs :=
  match publish table cfg context payload with
  | .ok _ => none
  | .error (e, maskingApplied) =>
      e.handled?.map
        (failureOutputs table hasDlqProducer payload
          maskingApplied)

end FraudStream
