import Mathlib.Data.List.Perm.Basic
import FraudStream.Ingestion.RequestHandler

/-
  The service behind the handler: its counters, the events
  that the broker client holds, and the dead letters.

  An event is handed to the client and counted as accepted.
  Its report is served by a later call of the client, in any
  order: a failure is counted and leaves a dead letter. A
  rejected payload is counted and leaves one too. Whether a
  dead letter is written is not asked for by any counter.

  Key definitions include:
    * `ProducerService`
    * `ProducerService.post`
    * `ProducerService.deliveryCallback`
    * `PostedRequest.effect`

  Main results:
    * `ProducerService.post_eq`
    * `ProducerService.accepted_events_have_one_fate`
    * `ProducerService.counters_reconcile`
-/

------------------------------------------------------------
-- The Service
------------------------------------------------------------

namespace FraudStream

/- The values of the label `error_type`. -/
inductive ErrorLabel where
| validationError
| handled : ErrorType → ErrorLabel
| brokerError
deriving DecidableEq, Repr

structure ApiMetrics where
  eventsTotal : Nat
  publishLatency : List JsonInt
  errorsTotal : ErrorLabel → Nat
  schemaValidationErrors : Nat
  dlqDepth : Nat

/- The events that the client was given: those without a
   report, and those reported as delivered or as failed. -/
structure BrokerClient where
  queue : List TransactionEvent
  delivered : List TransactionEvent
  failed : List TransactionEvent

/- A started service has a producer of dead letters. -/
structure ProducerService where
  metrics : ApiMetrics
  client : BrokerClient
  deadLetters : List DeadLetter

/- The report of an event in the queue: the text of the error
   that it failed with, and whether writing the dead letter
   raises. -/
structure DeliveryReport where
  position : Nat
  error : Option String
  dlqFault : Bool

/- A request, the reports that are served while it is handled,
   and whether writing its dead letter raises. -/
structure PostedRequest where
  server : PostServer
  path : String
  body : List UInt8
  reports : List DeliveryReport
  dlqFault : Bool

namespace ProducerService

def started : ProducerService where
  metrics :=
    { eventsTotal := 0
      publishLatency := []
      errorsTotal := fun _ => 0
      schemaValidationErrors := 0
      dlqDepth := 0 }
  client := { queue := [], delivered := [], failed := [] }
  deadLetters := []

/- `ERRORS_TOTAL.labels(error_type=label).inc()` -/
def countError
    (service : ProducerService)
    (label : ErrorLabel) : ProducerService :=
  { service with
    metrics :=
      { service.metrics with
        errorsTotal := fun other =>
          service.metrics.errorsTotal other +
            if other = label then 1 else 0 } }

/- `DLQ_DEPTH.inc()` -/
def countDeadLetter
    (service : ProducerService) : ProducerService :=
  { service with
    metrics :=
      { service.metrics with
        dlqDepth := service.metrics.dlqDepth + 1 } }

def countValidationError
    (service : ProducerService) : ProducerService :=
  let service := service.countError .validationError
  { service with
    metrics :=
      { service.metrics with
        schemaValidationErrors :=
          service.metrics.schemaValidationErrors + 1 } }

def countAccepted
    (service : ProducerService)
    (latencyMs : JsonInt) : ProducerService :=
  { service with
    metrics :=
      { service.metrics with
        publishLatency :=
          service.metrics.publishLatency ++ [latencyMs]
        eventsTotal := service.metrics.eventsTotal + 1 } }

/- An exception of the producer of dead letters is only
   logged. -/
def sendToDlq
    (service : ProducerService)
    (dlqFault : Bool)
    (letter : DeadLetter) : ProducerService :=
  if dlqFault then
    service
  else
    { service with
      deadLetters := service.deadLetters ++ [letter] }

/- `self._producer.produce(..)` -/
def produce
    (service : ProducerService)
    (event : TransactionEvent) : ProducerService :=
  { service with
    client :=
      { service.client with
        queue := service.client.queue ++ [event] } }

/- The masked payload is not at hand. -/
def undelivered (message : String) : DeadLetter where
  sourceTopic := "txn.api"
  originalPayload := "\x7b\x7d"
  errorType := "BrokerError"
  errorMessage := message
  maskingApplied := true

def deliveryCallback
    (service : ProducerService)
    (report : DeliveryReport) : ProducerService :=
  match report.error with
  | none => service
  | some message =>
      ((service.countError .brokerError).countDeadLetter).sendToDlq
        report.dlqFault (undelivered message)

/- The client takes an event out of its queue and calls back.
   A position behind the queue stands for no report. -/
def serveReport
    (service : ProducerService)
    (report : DeliveryReport) : ProducerService :=
  match service.client.queue[report.position]? with
  | none => service
  | some event =>
      let client : BrokerClient :=
        { service.client with
          queue :=
            service.client.queue.eraseIdx report.position }
      let client :=
        match report.error with
        | none =>
            { client with
              delivered := client.delivered ++ [event] }
        | some _ =>
            { client with failed := client.failed ++ [event] }
      { service with client := client }.deliveryCallback report

/- `self._producer.poll(0)`, with the reports it serves. -/
def poll
    (service : ProducerService)
    (reports : List DeliveryReport) : ProducerService :=
  reports.foldl serveReport service

/- A rejected payload is counted before it is written as
   JSON, which may raise. -/
def preSerialiseError
    (service : ProducerService)
    (request : PostedRequest)
    (payload : JsonObject)
    (errorType : ErrorType)
    (message : String)
    (maskingApplied : Bool) : ProducerService :=
  let service :=
    (service.countError (.handled errorType)).countDeadLetter
  match request.server.dumpsFault
      (.dict (withoutSecrets payload).entries) with
  | some _ => service
  | none =>
      match
        (handlePreSerialiseError request.server.table true
          errorType message payload maskingApplied).1 with
      | none => service
      | some letter =>
          service.sendToDlq request.dlqFault letter

/- `publish(payload)` -/
def publish
    (service : ProducerService)
    (request : PostedRequest)
    (payload : JsonObject) :
    Except PublishFault JsonValue × ProducerService :=
  let server := request.server
  match FraudStream.publish server.table server.config
      server.context payload with
  | .ok event =>
      match server.produceFault event with
      | some message => (.error (.internal message), service)
      | none =>
          (.ok
            (TransactionEventBuilder.transactionId
              (getOrNull payload "transaction_id")
              server.context.uuid),
            ((service.produce event).poll
              request.reports).countAccepted server.latencyMs)
  | .error (.raised e, _) =>
      (.error (.internal (server.raisedText e)), service)
  | .error (.invalidPan message, maskingApplied) =>
      (.error
          (server.handledFault payload .invalidPANError
            message),
        service.preSerialiseError request payload
          .invalidPANError message maskingApplied)
  | .error (.masking message, maskingApplied) =>
      (.error
          (server.handledFault payload .maskingError message),
        service.preSerialiseError request payload
          .maskingError message maskingApplied)

def publishAndRespond
    (service : ProducerService)
    (request : PostedRequest)
    (payload : JsonObject) : PostOutcome × ProducerService :=
  let server := request.server
  let published := service.publish request payload
  let outcome :=
    match published.1 with
    | .ok identifier =>
        match server.dumpsFault identifier with
        | some message => server.internalError message
        | none =>
            server.respond 200
              [("transaction_id", identifier),
                ("status", .str "accepted"),
                ("latency_ms", .int server.latencyMs)]
    | .error (.handled errorType message) =>
        server.respond errorType.status
          [("error", .str errorType.name),
            ("detail", .str message)]
    | .error (.internal message) =>
        server.internalError message
  (outcome, published.2)

def acceptPayload
    (service : ProducerService)
    (request : PostedRequest)
    (payload : JsonObject) : PostOutcome × ProducerService :=
  let server := request.server
  match validate server.table server.nowMs payload with
  | .ok () => service.publishAndRespond request payload
  | .error (.rejected message) =>
      (server.validationError message,
        service.countValidationError)
  | .error (.raised e) => (escape (.raised e), service)

def acceptValue
    (service : ProducerService)
    (request : PostedRequest)
    (value : JsonValue) : PostOutcome × ProducerService :=
  match hasChannel value with
  | .error e => (escape e, service)
  | .ok true =>
      (request.server.validationError
          "channel is not an accepted request field",
        service.countValidationError)
  | .ok false =>
      match value with
      | .dict es => service.acceptPayload request (.ofList es)
      | _ => (escape .attributeError, service)

/- `do_POST`, with what it leaves in the service. -/
def post
    (service : ProducerService)
    (request : PostedRequest) : PostOutcome × ProducerService :=
  if request.path ≠ "/v1/transactions" then
    (request.server.respond 404 [("error", .str "NotFound")],
      service)
  else
    match JsonText.loads request.server.depth request.body with
    | .error .jsonDecodeError =>
        (request.server.respond 400
            [("error", .str "InvalidJSON")],
          service)
    | .error e => (escape (.loads e), service)
    | .ok value => service.acceptValue request value

end ProducerService

end FraudStream

------------------------------------------------------------
-- What A Request Does
------------------------------------------------------------

namespace FraudStream

/- What a request does to a service. -/
inductive PostEffect where
| nothing
| invalid
| published : TransactionEvent → PostEffect
| rejected : ErrorType → Option DeadLetter → PostEffect

/- The event that is handed to the client. -/
def PostEffect.event? : PostEffect → Option TransactionEvent
| .published event => some event
| _ => none

namespace PostedRequest

/- The dead letter of a rejected payload, unless it is lost
   on the way. -/
def deadLetter?
    (request : PostedRequest)
    (payload : JsonObject)
    (errorType : ErrorType)
    (message : String)
    (maskingApplied : Bool) : Option DeadLetter :=
  match request.server.dumpsFault
      (.dict (withoutSecrets payload).entries) with
  | some _ => none
  | none =>
      if request.dlqFault then
        none
      else
        (handlePreSerialiseError request.server.table true
          errorType message payload maskingApplied).1

def publishEffect
    (request : PostedRequest)
    (payload : JsonObject) : PostEffect :=
  match publish request.server.table request.server.config
      request.server.context payload with
  | .ok event =>
      match request.server.produceFault event with
      | some _ => .nothing
      | none => .published event
  | .error (.raised _, _) => .nothing
  | .error (.invalidPan message, maskingApplied) =>
      .rejected .invalidPANError
        (request.deadLetter? payload .invalidPANError message
          maskingApplied)
  | .error (.masking message, maskingApplied) =>
      .rejected .maskingError
        (request.deadLetter? payload .maskingError message
          maskingApplied)

def payloadEffect
    (request : PostedRequest)
    (payload : JsonObject) : PostEffect :=
  match validate request.server.table request.server.nowMs
      payload with
  | .ok () => request.publishEffect payload
  | .error (.rejected _) => .invalid
  | .error (.raised _) => .nothing

def valueEffect
    (request : PostedRequest)
    (value : JsonValue) : PostEffect :=
  match hasChannel value with
  | .error _ => .nothing
  | .ok true => .invalid
  | .ok false =>
      match value with
      | .dict es => request.payloadEffect (.ofList es)
      | _ => .nothing

def effect (request : PostedRequest) : PostEffect :=
  if request.path ≠ "/v1/transactions" then
    .nothing
  else
    match
      JsonText.loads request.server.depth request.body with
    | .error _ => .nothing
    | .ok value => request.valueEffect value

end PostedRequest

namespace ProducerService

variable (service : ProducerService)
variable (request : PostedRequest)

/- The effect of a request on a service. -/
def apply : PostEffect → ProducerService
| .nothing => service
| .invalid => service.countValidationError
| .published event =>
    ((service.produce event).poll
      request.reports).countAccepted request.server.latencyMs
| .rejected errorType letter =>
    let service :=
      (service.countError (.handled errorType)).countDeadLetter
    { service with
      deadLetters := service.deadLetters ++ letter.toList }

theorem preSerialiseError_eq
    (payload : JsonObject)
    (errorType : ErrorType)
    (message : String)
    (maskingApplied : Bool) :
    service.preSerialiseError request payload errorType
        message maskingApplied =
      service.apply request
        (.rejected errorType
          (request.deadLetter? payload errorType message
            maskingApplied)) := by
  unfold preSerialiseError PostedRequest.deadLetter? apply
  dsimp only
  cases request.server.dumpsFault
      (.dict (withoutSecrets payload).entries) with
  | some text =>
      simp only [Option.toList_none, List.append_nil]
  | none =>
      unfold handlePreSerialiseError sendToDlq
      cases request.dlqFault <;> simp

theorem publish_eq
    (payload : JsonObject) :
    service.publish request payload =
      (request.server.publishPayload payload,
        service.apply request
          (request.publishEffect payload)) := by
  unfold publish PostServer.publishPayload
    PostedRequest.publishEffect
  dsimp only
  cases FraudStream.publish request.server.table
      request.server.config request.server.context
      payload with
  | ok event =>
      dsimp only
      cases request.server.produceFault event <;> rfl
  | error fault =>
      rcases fault with ⟨error, maskingApplied⟩
      cases error with
      | raised e => rfl
      | invalidPan message =>
          dsimp only
          rw [preSerialiseError_eq]
      | masking message =>
          dsimp only
          rw [preSerialiseError_eq]

theorem acceptPayload_eq
    (payload : JsonObject) :
    service.acceptPayload request payload =
      (request.server.acceptPayload payload,
        service.apply request
          (request.payloadEffect payload)) := by
  unfold acceptPayload PostServer.acceptPayload
    PostedRequest.payloadEffect
  dsimp only
  cases validate request.server.table request.server.nowMs
      payload with
  | ok u =>
      unfold publishAndRespond PostServer.publishAndRespond
      rewrite [publish_eq]
      rfl
  | error fault => cases fault <;> rfl

theorem acceptValue_eq
    (value : JsonValue) :
    service.acceptValue request value =
      (request.server.acceptValue value,
        service.apply request (request.valueEffect value)) := by
  unfold acceptValue PostServer.acceptValue
    PostedRequest.valueEffect
  cases hasChannel value with
  | error e => rfl
  | ok found =>
      cases found with
      | true => rfl
      | false =>
          cases value with
          | dict es => exact acceptPayload_eq _ _ _
          | null => rfl
          | bool b => rfl
          | int n => rfl
          | float f => rfl
          | str s => rfl
          | list xs => rfl

/- A request is answered as the handler answers it, and its
   effect does not depend on the service. -/
theorem post_eq :
    service.post request =
      (doPost request.server request.path request.body,
        service.apply request request.effect) := by
  unfold post doPost PostedRequest.effect
  split
  · rfl
  · cases JsonText.loads request.server.depth
        request.body with
    | ok value => exact acceptValue_eq _ _ _
    | error e => cases e <;> rfl

end ProducerService

end FraudStream

------------------------------------------------------------
-- Runs
------------------------------------------------------------

namespace FraudStream

/- A request, or reports that are served while the service
   flushes. -/
inductive ServiceStep where
| post : PostedRequest → ServiceStep
| flush : List DeliveryReport → ServiceStep

namespace ServiceStep

def event? : ServiceStep → Option TransactionEvent
| .post request => request.effect.event?
| .flush _ => none

/- No dead letter is lost in the step. -/
def KeepsLetters : ServiceStep → Prop
| .post request =>
    request.dlqFault = false ∧
      (∀ v, request.server.dumpsFault v = none) ∧
      ∀ report ∈ request.reports, report.dlqFault = false
| .flush reports =>
    ∀ report ∈ reports, report.dlqFault = false

end ServiceStep

namespace ProducerService

def step
    (service : ProducerService) :
    ServiceStep → List PostOutcome × ProducerService
| .post request =>
    let result := service.post request
    ([result.1], result.2)
| .flush reports => ([], service.poll reports)

/- The answers of a run and what it leaves. -/
def run :
    ProducerService → List ServiceStep →
    List PostOutcome × ProducerService
| service, [] => ([], service)
| service, step :: steps =>
    let result := service.step step
    let rest := run result.2 steps
    (result.1 ++ rest.1, rest.2)

end ProducerService

end FraudStream

------------------------------------------------------------
-- The Fate Of An Event
------------------------------------------------------------

namespace FraudStream

namespace ProducerService

/- The client was given the events, and a failure is counted
   for each that it reported as failed. -/
structure Holds
    (service : ProducerService)
    (events : List TransactionEvent) : Prop where
  fate :
    (service.client.queue ++ service.client.delivered ++
      service.client.failed).Perm events
  failed :
    service.metrics.errorsTotal .brokerError =
      service.client.failed.length

/- What a report does to a service. -/
theorem serveReport_cases
    (service : ProducerService)
    (report : DeliveryReport) :
    service.serveReport report = service ∨
      ∃ event,
        service.client.queue[report.position]? = some event ∧
          ((report.error = none ∧
              service.serveReport report =
                { service with
                  client :=
                    { service.client with
                      queue :=
                        service.client.queue.eraseIdx
                          report.position
                      delivered :=
                        service.client.delivered ++
                          [event] } }) ∨
            ∃ message,
              report.error = some message ∧
                service.serveReport report =
                  (({ service with
                      client :=
                        { service.client with
                          queue :=
                            service.client.queue.eraseIdx
                              report.position
                          failed :=
                            service.client.failed ++
                              [event] } } :
                      ProducerService).countError
                    .brokerError).countDeadLetter.sendToDlq
                      report.dlqFault
                      (undelivered message)) := by
  unfold serveReport deliveryCallback
  cases hEvent : service.client.queue[report.position]? with
  | none => exact .inl rfl
  | some event =>
      refine .inr ⟨event, rfl, ?_⟩
      cases hError : report.error with
      | none => exact .inl ⟨rfl, rfl⟩
      | some message => exact .inr ⟨message, rfl, rfl⟩

@[simp] theorem sendToDlq_client
    (service : ProducerService)
    (dlqFault : Bool)
    (letter : DeadLetter) :
    (service.sendToDlq dlqFault letter).client =
      service.client := by
  cases dlqFault <;> rfl

@[simp] theorem sendToDlq_metrics
    (service : ProducerService)
    (dlqFault : Bool)
    (letter : DeadLetter) :
    (service.sendToDlq dlqFault letter).metrics =
      service.metrics := by
  cases dlqFault <;> rfl

theorem perm_eraseIdx
    {α : Type}
    {xs : List α}
    {i : Nat}
    {x : α}
    (hAt : xs[i]? = some x) :
    xs.Perm (x :: xs.eraseIdx i) := by
  obtain ⟨hBound, rfl⟩ := List.getElem?_eq_some_iff.1 hAt
  exact (List.getElem_cons_eraseIdx_perm hBound).symm

/- A member that is moved to another place of three lists. -/
theorem perm_moved
    {α : Type}
    {xs xs' : List α}
    {x : α}
    (hMoved : xs.Perm (x :: xs'))
    (ys zs : List α) :
    (xs' ++ ys ++ x :: zs).Perm (xs ++ ys ++ zs) :=
  List.perm_middle.trans
    ((hMoved.symm.append_right ys).append_right zs)

/- Serving a report moves an event and counts a failure. -/
theorem Holds.serveReport
    {service : ProducerService}
    {events : List TransactionEvent}
    (hHolds : Holds service events)
    (report : DeliveryReport) :
    Holds (service.serveReport report) events := by
  have hFate := hHolds.fate
  rcases serveReport_cases service report with
    hSame | ⟨event, hAt, hDelivered | ⟨message, -, hFailed⟩⟩
  · rw [hSame]
    exact hHolds
  · have hBack :=
      perm_moved (perm_eraseIdx hAt) service.client.delivered
        service.client.failed
    rw [hDelivered.2]
    refine ⟨?_, hHolds.failed⟩
    simp only [List.append_assoc, List.singleton_append]
      at hBack hFate ⊢
    exact hBack.trans hFate
  · have hBack :=
      perm_moved (perm_eraseIdx hAt)
        (service.client.delivered ++ service.client.failed) []
    rw [hFailed]
    constructor
    · rw [sendToDlq_client]
      simp only [List.append_assoc, List.append_nil]
        at hBack hFate ⊢
      exact hBack.trans hFate
    · rw [sendToDlq_metrics, sendToDlq_client]
      have hCount := hHolds.failed
      simp [countDeadLetter, countError, hCount]

theorem Holds.poll
    {service : ProducerService}
    {events : List TransactionEvent}
    (hHolds : Holds service events)
    (reports : List DeliveryReport) :
    Holds (service.poll reports) events := by
  induction reports generalizing service with
  | nil => exact hHolds
  | cons report reports ih =>
      exact ih (hHolds.serveReport report)

theorem Holds.produce
    {service : ProducerService}
    {events : List TransactionEvent}
    (hHolds : Holds service events)
    (event : TransactionEvent) :
    Holds (service.produce event) (events ++ [event]) := by
  refine ⟨?_, hHolds.failed⟩
  have hPlace :=
    perm_moved
      (List.perm_append_singleton event service.client.queue)
      service.client.delivered service.client.failed
  have hFate := hHolds.fate
  change
    (service.client.queue ++ [event] ++
      service.client.delivered ++
      service.client.failed).Perm _
  have hLast := List.perm_append_singleton event events
  refine hPlace.symm.trans (List.perm_middle.trans ?_)
  exact (hFate.cons event).trans hLast.symm

end ProducerService

end FraudStream

------------------------------------------------------------
-- Counters
------------------------------------------------------------

namespace FraudStream

namespace ProducerService

/- What is counted when an event is accepted is counted
   nowhere else. -/
theorem serveReport_accepted
    (service : ProducerService)
    (report : DeliveryReport) :
    (service.serveReport report).metrics.eventsTotal =
        service.metrics.eventsTotal ∧
      (service.serveReport report).metrics.publishLatency =
        service.metrics.publishLatency := by
  rcases serveReport_cases service report with
    hSame | ⟨event, hAt, hDelivered | ⟨message, -, hFailed⟩⟩
  · rw [hSame]
    exact ⟨rfl, rfl⟩
  · rw [hDelivered.2]
    exact ⟨rfl, rfl⟩
  · rw [hFailed, sendToDlq_metrics]
    exact ⟨rfl, rfl⟩

theorem poll_accepted
    (service : ProducerService)
    (reports : List DeliveryReport) :
    (service.poll reports).metrics.eventsTotal =
        service.metrics.eventsTotal ∧
      (service.poll reports).metrics.publishLatency =
        service.metrics.publishLatency := by
  induction reports generalizing service with
  | nil => exact ⟨rfl, rfl⟩
  | cons report reports ih =>
      rcases serveReport_accepted service report with
        ⟨hTotal, hLatency⟩
      rcases ih (service.serveReport report) with
        ⟨hTotal', hLatency'⟩
      exact
        ⟨hTotal'.trans hTotal, hLatency'.trans hLatency⟩

/- Every dead letter is counted, and each counter is the sum
   of those that it is counted with. -/
structure Reconciled (service : ProducerService) : Prop where
  depth :
    service.metrics.dlqDepth =
      service.metrics.errorsTotal (.handled .invalidPANError) +
        service.metrics.errorsTotal (.handled .maskingError) +
        service.metrics.errorsTotal .brokerError
  schema :
    service.metrics.schemaValidationErrors =
      service.metrics.errorsTotal .validationError
  letters :
    service.deadLetters.length ≤ service.metrics.dlqDepth

theorem Reconciled.started : Reconciled started :=
  ⟨rfl, rfl, le_rfl⟩

theorem length_sendToDlq
    (service : ProducerService)
    (dlqFault : Bool)
    (letter : DeadLetter) :
    (service.sendToDlq dlqFault letter).deadLetters.length =
      service.deadLetters.length +
        if dlqFault then 0 else 1 := by
  cases dlqFault <;> simp [sendToDlq]

theorem Reconciled.serveReport
    {service : ProducerService}
    (hReconciled : Reconciled service)
    (report : DeliveryReport) :
    Reconciled (service.serveReport report) := by
  rcases serveReport_cases service report with
    hSame | ⟨event, -, hDelivered | ⟨message, -, hFailed⟩⟩
  · rw [hSame]
    exact hReconciled
  · rw [hDelivered.2]
    exact
      ⟨hReconciled.depth, hReconciled.schema,
        hReconciled.letters⟩
  · rw [hFailed]
    have hDepth := hReconciled.depth
    have hSchema := hReconciled.schema
    have hLetters := hReconciled.letters
    constructor
    · rw [sendToDlq_metrics]
      simp only [countDeadLetter, countError, reduceCtorEq,
        if_true, if_false]
      omega
    · rw [sendToDlq_metrics]
      simpa [countDeadLetter, countError] using hSchema
    · rw [length_sendToDlq, sendToDlq_metrics]
      simp only [countDeadLetter, countError]
      split <;> omega

theorem Reconciled.poll
    {service : ProducerService}
    (hReconciled : Reconciled service)
    (reports : List DeliveryReport) :
    Reconciled (service.poll reports) := by
  induction reports generalizing service with
  | nil => exact hReconciled
  | cons report reports ih =>
      exact ih (hReconciled.serveReport report)

/- One step of the accounts of a request. -/
theorem Reconciled.apply
    {service : ProducerService}
    (hReconciled : Reconciled service)
    (request : PostedRequest)
    (effect : PostEffect) :
    Reconciled (service.apply request effect) := by
  have hDepth := hReconciled.depth
  have hSchema := hReconciled.schema
  have hLetters := hReconciled.letters
  cases effect with
  | nothing => exact hReconciled
  | invalid =>
      refine ⟨?_, ?_, hLetters⟩
      · simpa [ProducerService.apply, countValidationError,
          countError] using hDepth
      · simpa [ProducerService.apply, countValidationError,
          countError] using hSchema
  | published event =>
      have hProduced : Reconciled (service.produce event) :=
        ⟨hDepth, hSchema, hLetters⟩
      have hPolled := hProduced.poll request.reports
      exact ⟨hPolled.depth, hPolled.schema, hPolled.letters⟩
  | rejected errorType letter =>
      constructor
      · simp only [ProducerService.apply, countDeadLetter,
          countError]
        cases errorType <;> simp <;> omega
      · simpa [ProducerService.apply, countDeadLetter,
          countError] using hSchema
      · simp only [ProducerService.apply, countDeadLetter,
          countError, List.length_append]
        have hOne : letter.toList.length ≤ 1 := by
          cases letter <;> simp
        omega

end ProducerService

end FraudStream

------------------------------------------------------------
-- Acknowledged Events
------------------------------------------------------------

namespace FraudStream

/- The request was answered as accepted. -/
def PostOutcome.acknowledged (outcome : PostOutcome) : Bool :=
  outcome.responses.any (fun r => r.status = 200)

namespace PostedRequest

variable (request : PostedRequest)

/- Whether an acceptance can be written as JSON. -/
def AcknowledgedIf
    (outcome : PostOutcome)
    (effect : PostEffect) : Prop :=
  (outcome.acknowledged = true →
      effect.event?.isSome = true) ∧
    ((∀ v, request.server.dumpsFault v = none) →
      effect.event?.isSome = true →
      outcome.acknowledged = true)

theorem acknowledgedIf_error
    {outcome : PostOutcome}
    {effect : PostEffect}
    (hOutcome : outcome.acknowledged = false)
    (hEffect : effect.event? = none) :
    request.AcknowledgedIf outcome effect := by
  constructor
  · intro hTrue
    rw [hOutcome] at hTrue
    cases hTrue
  · intro _ hSome
    rw [hEffect] at hSome
    cases hSome

theorem acknowledgedIf_publish
    (payload : JsonObject) :
    request.AcknowledgedIf
      (request.server.publishAndRespond payload)
      (request.publishEffect payload) := by
  unfold PostServer.publishAndRespond
    PostServer.publishPayload publishEffect
  cases FraudStream.publish request.server.table
      request.server.config request.server.context
      payload with
  | ok event =>
      dsimp only
      cases request.server.produceFault event with
      | some message =>
          exact request.acknowledgedIf_error rfl rfl
      | none =>
          refine ⟨fun _ => rfl, ?_⟩
          intro hDumps _
          simp only [hDumps]
          rfl
  | error fault =>
      rcases fault with ⟨error, maskingApplied⟩
      cases error with
      | raised e => exact request.acknowledgedIf_error rfl rfl
      | invalidPan message =>
          apply request.acknowledgedIf_error _ rfl
          dsimp only [PostServer.handledFault]
          cases request.server.dumpsFault
              (.dict (withoutSecrets payload).entries) <;> rfl
      | masking message =>
          apply request.acknowledgedIf_error _ rfl
          dsimp only [PostServer.handledFault]
          cases request.server.dumpsFault
              (.dict (withoutSecrets payload).entries) <;> rfl

theorem acknowledgedIf_payload
    (payload : JsonObject) :
    request.AcknowledgedIf
      (request.server.acceptPayload payload)
      (request.payloadEffect payload) := by
  unfold PostServer.acceptPayload payloadEffect
  cases validate request.server.table request.server.nowMs
      payload with
  | ok u => exact request.acknowledgedIf_publish payload
  | error fault =>
      cases fault <;>
        exact request.acknowledgedIf_error rfl rfl

theorem acknowledgedIf_value
    (value : JsonValue) :
    request.AcknowledgedIf
      (request.server.acceptValue value)
      (request.valueEffect value) := by
  unfold PostServer.acceptValue valueEffect
  cases hasChannel value with
  | error e => exact request.acknowledgedIf_error rfl rfl
  | ok found =>
      cases found with
      | true => exact request.acknowledgedIf_error rfl rfl
      | false =>
          cases value with
          | dict es => exact request.acknowledgedIf_payload _
          | null => exact request.acknowledgedIf_error rfl rfl
          | bool b =>
              exact request.acknowledgedIf_error rfl rfl
          | int n =>
              exact request.acknowledgedIf_error rfl rfl
          | float f =>
              exact request.acknowledgedIf_error rfl rfl
          | str s =>
              exact request.acknowledgedIf_error rfl rfl
          | list xs =>
              exact request.acknowledgedIf_error rfl rfl

/- Only an event that the client was given is acknowledged,
   and it is unless its identifier cannot be written. -/
theorem acknowledgedIf_post :
    request.AcknowledgedIf
      (doPost request.server request.path request.body)
      request.effect := by
  unfold doPost effect
  split
  · exact request.acknowledgedIf_error rfl rfl
  · cases JsonText.loads request.server.depth
        request.body with
    | ok value => exact request.acknowledgedIf_value value
    | error e =>
        cases e <;>
          exact request.acknowledgedIf_error rfl rfl

end PostedRequest

end FraudStream

------------------------------------------------------------
-- Whole Runs
------------------------------------------------------------

namespace FraudStream

namespace ProducerService

/- The client holds the events, and they are counted. -/
structure Accounts
    (service : ProducerService)
    (events : List TransactionEvent) : Prop where
  holds : Holds service events
  accepted : service.metrics.eventsTotal = events.length
  measured :
    service.metrics.publishLatency.length = events.length

theorem Accounts.started : Accounts started [] :=
  ⟨⟨.nil, rfl⟩, rfl, rfl⟩

/- One step of the accounts of a request. -/
theorem Accounts.apply
    {service : ProducerService}
    {events : List TransactionEvent}
    (hAccounts : Accounts service events)
    (request : PostedRequest)
    (effect : PostEffect) :
    Accounts (service.apply request effect)
      (events ++ effect.event?.toList) := by
  rcases hAccounts with ⟨⟨hFate, hFailed⟩, hTotal, hLatency⟩
  cases effect with
  | nothing =>
      change Accounts _ (events ++ [])
      rw [List.append_nil]
      exact ⟨⟨hFate, hFailed⟩, hTotal, hLatency⟩
  | invalid =>
      change Accounts _ (events ++ [])
      rw [List.append_nil]
      exact ⟨⟨hFate, hFailed⟩, hTotal, hLatency⟩
  | rejected errorType letter =>
      change Accounts _ (events ++ [])
      rw [List.append_nil]
      exact ⟨⟨hFate, hFailed⟩, hTotal, hLatency⟩
  | published event =>
      have hProduced :
          Holds (service.produce event) (events ++ [event]) :=
        Holds.produce ⟨hFate, hFailed⟩ event
      have hPolled := hProduced.poll request.reports
      rcases
        poll_accepted (service.produce event)
          request.reports with
        ⟨hSameTotal, hSameLatency⟩
      refine ⟨⟨hPolled.fate, hPolled.failed⟩, ?_, ?_⟩
      · change
          ((service.produce event).poll
            request.reports).metrics.eventsTotal + 1 = _
        rw [hSameTotal, List.length_append]
        exact congrArg (· + 1) hTotal
      · change
          (((service.produce event).poll
            request.reports).metrics.publishLatency ++
              [request.server.latencyMs]).length = _
        rw [hSameLatency, List.length_append,
          List.length_append]
        exact congrArg (· + 1) hLatency

/- One step of the accounts. -/
theorem Accounts.step
    {service : ProducerService}
    {events : List TransactionEvent}
    (hAccounts : Accounts service events)
    (step : ServiceStep) :
    Accounts (service.step step).2
      (events ++ step.event?.toList) := by
  cases step with
  | post request =>
      unfold ProducerService.step
      dsimp only
      rw [post_eq]
      exact hAccounts.apply request request.effect
  | flush reports =>
      rw [ServiceStep.event?, Option.toList_none,
        List.append_nil]
      rcases poll_accepted service reports with
        ⟨hTotal, hLatency⟩
      exact
        ⟨hAccounts.holds.poll reports,
          hTotal.trans hAccounts.accepted,
          (congrArg List.length hLatency).trans
            hAccounts.measured⟩

theorem filterMap_event?_cons
    (step : ServiceStep)
    (steps : List ServiceStep) :
    (step :: steps).filterMap ServiceStep.event? =
      step.event?.toList ++
        steps.filterMap ServiceStep.event? := by
  cases hEvent : step.event? <;> simp [hEvent]

/- The accounts of a run. -/
theorem Accounts.run
    {service : ProducerService}
    {events : List TransactionEvent}
    (hAccounts : Accounts service events)
    (steps : List ServiceStep) :
    Accounts (service.run steps).2
      (events ++ steps.filterMap ServiceStep.event?) := by
  induction steps generalizing service events with
  | nil =>
      rw [List.filterMap_nil, List.append_nil]
      exact hAccounts
  | cons step steps ih =>
      have hRest := ih (hAccounts.step step)
      rw [List.append_assoc] at hRest
      rw [filterMap_event?_cons]
      exact hRest

/- The identifier of a posted event can be written. -/
def WritesAnswers : ServiceStep → Prop
| .post request =>
    ∀ v, request.server.dumpsFault v = none
| .flush _ => True

/- A step acknowledges its event and nothing else. -/
theorem acknowledged_step
    (service : ProducerService)
    (step : ServiceStep) :
    (service.step step).1.countP (·.acknowledged) ≤
        step.event?.toList.length ∧
      (WritesAnswers step →
        (service.step step).1.countP (·.acknowledged) =
          step.event?.toList.length) := by
  cases step with
  | flush reports => exact ⟨le_rfl, fun _ => rfl⟩
  | post request =>
      rcases request.acknowledgedIf_post with
        ⟨hGiven, hWritten⟩
      have hAnswer :
          (service.step (.post request)).1 =
            [doPost request.server request.path
              request.body] := by
        unfold ProducerService.step
        dsimp only
        rw [post_eq]
      have hEvent :
          (ServiceStep.post request).event? =
            request.effect.event? := rfl
      rw [hAnswer, hEvent, List.countP_singleton]
      cases hEffect : request.effect.event? with
      | none =>
          rw [hEffect] at hGiven
          have hNot :
              ¬ (doPost request.server request.path
                  request.body).acknowledged = true :=
            fun hTrue => Bool.false_ne_true (hGiven hTrue)
          rw [if_neg hNot]
          exact ⟨le_rfl, fun _ => rfl⟩
      | some event =>
          rw [hEffect] at hWritten
          constructor
          · split
            · exact le_rfl
            · exact Nat.zero_le _
          · intro hDumps
            rw [if_pos (hWritten hDumps rfl)]
            rfl

/- Only events that the client was given are acknowledged,
   and all of them when the answers can be written. -/
theorem acknowledged_run
    (service : ProducerService)
    (steps : List ServiceStep) :
    (service.run steps).1.countP (·.acknowledged) ≤
        (steps.filterMap ServiceStep.event?).length ∧
      ((∀ step ∈ steps, WritesAnswers step) →
        (service.run steps).1.countP (·.acknowledged) =
          (steps.filterMap ServiceStep.event?).length) := by
  induction steps generalizing service with
  | nil => exact ⟨le_rfl, fun _ => rfl⟩
  | cons step steps ih =>
      rcases ih (service.step step).2 with ⟨hLe, hEq⟩
      rcases acknowledged_step service step with
        ⟨hFirst, hExact⟩
      rw [filterMap_event?_cons, List.length_append,
        ProducerService.run, List.countP_append]
      constructor
      · exact Nat.add_le_add hFirst hLe
      · intro hWritten
        rcases List.forall_mem_cons.1 hWritten with
          ⟨hHead, hTail⟩
        exact congrArg₂ (· + ·) (hExact hHead) (hEq hTail)

/- Every event that was accepted is held by the client, was
   delivered, or failed, and it is counted so. No other event
   is acknowledged. -/
theorem accepted_events_have_one_fate
    (steps : List ServiceStep) :
    ((started.run steps).2.client.queue ++
        (started.run steps).2.client.delivered ++
        (started.run steps).2.client.failed).Perm
        (steps.filterMap ServiceStep.event?) ∧
      (started.run steps).2.metrics.eventsTotal =
        (steps.filterMap ServiceStep.event?).length ∧
      (started.run steps).2.metrics.errorsTotal .brokerError =
        (started.run steps).2.client.failed.length ∧
      (started.run steps).1.countP (·.acknowledged) ≤
        (started.run steps).2.metrics.eventsTotal ∧
      ((∀ step ∈ steps, WritesAnswers step) →
        (started.run steps).1.countP (·.acknowledged) =
          (started.run steps).2.metrics.eventsTotal) := by
  have hAccounts := Accounts.started.run steps
  rcases acknowledged_run started steps with ⟨hLe, hEq⟩
  rw [List.nil_append] at hAccounts
  rw [← hAccounts.accepted] at hLe hEq
  exact
    ⟨hAccounts.holds.fate, hAccounts.accepted,
      hAccounts.holds.failed, hLe, hEq⟩

end ProducerService

end FraudStream

------------------------------------------------------------
-- Dead Letters
------------------------------------------------------------

namespace FraudStream

namespace ProducerService

theorem Reconciled.step
    {service : ProducerService}
    (hReconciled : Reconciled service)
    (step : ServiceStep) :
    Reconciled (service.step step).2 := by
  cases step with
  | post request =>
      unfold ProducerService.step
      dsimp only
      rw [post_eq]
      exact hReconciled.apply request request.effect
  | flush reports => exact hReconciled.poll reports

/- Each dead letter that is counted was written. -/
def AllWritten (service : ProducerService) : Prop :=
  service.deadLetters.length = service.metrics.dlqDepth

theorem AllWritten.serveReport
    {service : ProducerService}
    (hWritten : AllWritten service)
    {report : DeliveryReport}
    (hNoFault : report.dlqFault = false) :
    AllWritten (service.serveReport report) := by
  unfold AllWritten at hWritten ⊢
  rcases serveReport_cases service report with
    hSame | ⟨event, -, hDelivered | ⟨message, -, hFailed⟩⟩
  · rw [hSame]
    exact hWritten
  · rw [hDelivered.2]
    exact hWritten
  · rw [hFailed, length_sendToDlq, sendToDlq_metrics,
      hNoFault]
    exact congrArg (· + 1) hWritten

theorem AllWritten.poll
    {service : ProducerService}
    (hWritten : AllWritten service)
    {reports : List DeliveryReport}
    (hNoFault :
      ∀ report ∈ reports, report.dlqFault = false) :
    AllWritten (service.poll reports) := by
  induction reports generalizing service with
  | nil => exact hWritten
  | cons report reports ih =>
      rcases List.forall_mem_cons.1 hNoFault with
        ⟨hHead, hTail⟩
      exact ih (hWritten.serveReport hHead) hTail

end ProducerService

namespace PostedRequest

/- A rejected payload leaves its dead letter when nothing
   faults. -/
theorem deadLetter?_of_keeps
    {request : PostedRequest}
    (hKeeps : (ServiceStep.post request).KeepsLetters)
    (payload : JsonObject)
    (errorType : ErrorType)
    (message : String)
    (maskingApplied : Bool) :
    (request.deadLetter? payload errorType message
      maskingApplied).isSome = true := by
  unfold deadLetter?
  rw [hKeeps.2.1, hKeeps.1]
  rfl

/- Only a posted object that passed both checks has an effect
   beyond a counted error. -/
theorem publishEffect_of_effect
    {request : PostedRequest}
    {effect : PostEffect}
    (hEffect : request.effect = effect)
    (hSome : effect ≠ .nothing)
    (hValid : effect ≠ .invalid) :
    ∃ es,
      request.path = "/v1/transactions" ∧
        JsonText.loads request.server.depth request.body =
          .ok (.dict es) ∧
        hasChannel (.dict es) = .ok false ∧
        validate request.server.table request.server.nowMs
            (.ofList es) =
          .ok () ∧
        request.publishEffect (.ofList es) = effect := by
  unfold PostedRequest.effect at hEffect
  split at hEffect
  · exact absurd hEffect.symm hSome
  · rename_i hPath
    split at hEffect
    · exact absurd hEffect.symm hSome
    · rename_i value hLoads
      unfold valueEffect at hEffect
      split at hEffect
      · exact absurd hEffect.symm hSome
      · exact absurd hEffect.symm hValid
      · rename_i hChannel
        split at hEffect
        · refine
            ⟨_, not_not.1 hPath, hLoads, hChannel, ?_⟩
          unfold payloadEffect at hEffect
          split at hEffect
          next hOk => exact ⟨hOk, hEffect⟩
          next => exact absurd hEffect.symm hValid
          next => exact absurd hEffect.symm hSome
        · exact absurd hEffect.symm hSome

theorem publishEffect_of_rejected
    {request : PostedRequest}
    {errorType : ErrorType}
    {letter : Option DeadLetter}
    (hEffect : request.effect = .rejected errorType letter) :
    ∃ es,
      JsonText.loads request.server.depth request.body =
          .ok (.dict es) ∧
        request.publishEffect (.ofList es) =
          .rejected errorType letter := by
  rcases publishEffect_of_effect hEffect nofun nofun with
    ⟨es, -, hLoads, -, -, hRejected⟩
  exact ⟨es, hLoads, hRejected⟩

theorem isSome_of_rejected
    {request : PostedRequest}
    (hKeeps : (ServiceStep.post request).KeepsLetters)
    {errorType : ErrorType}
    {letter : Option DeadLetter}
    (hEffect : request.effect = .rejected errorType letter) :
    letter.isSome = true := by
  rcases publishEffect_of_rejected hEffect with
    ⟨es, -, hRejected⟩
  unfold publishEffect at hRejected
  split at hRejected
  · split at hRejected <;> cases hRejected
  · cases hRejected
  · cases hRejected
    exact deadLetter?_of_keeps hKeeps _ _ _ _
  · cases hRejected
    exact deadLetter?_of_keeps hKeeps _ _ _ _

end PostedRequest

namespace ProducerService

theorem AllWritten.step
    {service : ProducerService}
    (hWritten : AllWritten service)
    {step : ServiceStep}
    (hKeeps : step.KeepsLetters) :
    AllWritten (service.step step).2 := by
  cases step with
  | flush reports => exact hWritten.poll hKeeps
  | post request =>
      unfold ProducerService.step
      dsimp only
      rw [post_eq]
      cases hEffect : request.effect with
      | nothing => exact hWritten
      | invalid => exact hWritten
      | published event =>
          have hProduced : AllWritten (service.produce event) :=
            hWritten
          exact hProduced.poll hKeeps.2.2
      | rejected errorType letter =>
          have hSome :=
            PostedRequest.isSome_of_rejected hKeeps hEffect
          cases letter with
          | none => cases hSome
          | some letter =>
              change
                (service.deadLetters ++ [letter]).length =
                  service.metrics.dlqDepth + 1
              rw [List.length_append, hWritten]
              rfl

/- The counters of errors, of validation errors and of dead
   letters agree after any run, and no dead letter goes
   uncounted. Nothing is counted that was not written unless
   writing it faulted. -/
theorem counters_reconcile
    (steps : List ServiceStep) :
    (started.run steps).2.metrics.dlqDepth =
        (started.run steps).2.metrics.errorsTotal
            (.handled .invalidPANError) +
          (started.run steps).2.metrics.errorsTotal
            (.handled .maskingError) +
          (started.run steps).2.metrics.errorsTotal
            .brokerError ∧
      (started.run steps).2.metrics.schemaValidationErrors =
        (started.run steps).2.metrics.errorsTotal
          .validationError ∧
      (started.run steps).2.deadLetters.length ≤
        (started.run steps).2.metrics.dlqDepth ∧
      ((∀ step ∈ steps, step.KeepsLetters) →
        (started.run steps).2.deadLetters.length =
          (started.run steps).2.metrics.dlqDepth) := by
  have hAll :
      ∀ service : ProducerService,
        Reconciled service →
        Reconciled (service.run steps).2 ∧
          (AllWritten service →
            (∀ step ∈ steps, step.KeepsLetters) →
            AllWritten (service.run steps).2) := by
    induction steps with
    | nil =>
        intro service hReconciled
        exact ⟨hReconciled, fun hWritten _ => hWritten⟩
    | cons step steps ih =>
        intro service hReconciled
        rcases ih (service.step step).2
            (hReconciled.step step) with
          ⟨hRest, hKept⟩
        refine ⟨hRest, ?_⟩
        intro hWritten hKeeps
        rcases List.forall_mem_cons.1 hKeeps with
          ⟨hHead, hTail⟩
        exact hKept (hWritten.step hHead) hTail
  rcases hAll started Reconciled.started with
    ⟨hReconciled, hWritten⟩
  exact
    ⟨hReconciled.depth, hReconciled.schema,
      hReconciled.letters, hWritten rfl⟩

end ProducerService

end FraudStream
