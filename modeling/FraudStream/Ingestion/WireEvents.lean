import FraudStream.Ingestion.DeliveryReports
import FraudStream.Ingestion.LeakGuard
import FraudStream.Ingestion.WireFormat

/-
  Posted payloads and the wire format.

  A transaction that is read of an event has the texts of
  the posted payload, the exact amount unless that has more
  than eighteen digits, both times, and coordinates of single
  precision, which keeps degrees to within a metre. A payload
  that passed all checks has such an event only if its
  identifiers are texts and its coordinates are numbers or
  null, which no check asks for.

  Key definitions include:
    * `TellsRequest`
    * `ClockInEra`
    * `FitsSchema`
    * `HasWholeTexts`
    * `RefusesUnwritten`

  Main results:
    * `tellsRequest_of_carries`
    * `hasTimes_of_build`
    * `serialise_isSome_iff`
    * `PassesChecks.published_iff_fits_schema`
-/

------------------------------------------------------------
-- What An Event Has Of A Payload
------------------------------------------------------------

namespace FraudStream

open FallibleList TransactionEventBuilder

theorem get?_of_getItem
    {payload : JsonObject}
    {name : String}
    {v : JsonValue}
    (hItem : getItem payload name = .ok v) :
    payload.get? name = some v := by
  unfold getItem at hItem
  split at hItem
  next w hGet =>
    cases hItem
    exact hGet
  next => cases hItem

/- A value of an event is under its name. -/
theorem get?_eventEntries
    {cfg : Config}
    {context : BuildContext}
    {fields : PublicFields}
    {masked : MaskedPAN}
    {subnet : String}
    {name : String}
    {value : EventValue}
    (hMem :
      (name, value) ∈
        eventEntries cfg context fields masked subnet) :
    Dict.get?
        (.ofList
          (eventEntries cfg context fields masked subnet))
        name =
      some value := by
  rw [Dict.get?_ofList (nodup_eventEntries ..)]
  exact Dict.lookupEntries_of_mem (nodup_eventEntries ..) hMem

theorem eq_of_get?_int
    {event : TransactionEvent}
    {name : String}
    {n m : Int}
    (hWritten : event.get? name = some (.int n))
    (hRead : event.get? name = some (.int m)) :
    m = n := by
  rw [hWritten] at hRead
  cases hRead
  rfl

end FraudStream

------------------------------------------------------------
-- Times Of Accepted Requests
------------------------------------------------------------

namespace FraudStream

open FallibleList TransactionEventBuilder

/- The clock of a server stays in the era, and far enough
   from its ends for the event times that it accepts. -/
structure ClockInEra (server : PostServer) : Prop where
  processing : DeployedEra server.context.processingTime
  earliest : DeployedEra (server.nowMs - 5 * 60 * 1000)
  latest : DeployedEra (server.nowMs + 5 * 60 * 1000)

/- An accepted event time is close to the clock. -/
theorem eventTime_of_validate
    {table : TextTable}
    {nowMs : Int}
    {payload : JsonObject}
    (hOk : validate table nowMs payload = .ok ())
    {t : Int}
    (hTime :
      (getOrNull payload "event_time").toInt = .ok t) :
    |nowMs - t| ≤ 5 * 60 * 1000 := by
  rcases (bind_ok_iff _ _ _).1 hOk with
    ⟨_, hFields, hValues⟩
  have hTruthy :=
    required_of_ok hFields "event_time" (by decide)
  have hErrors := fieldErrors_of_ok hValues
  unfold fieldErrors at hErrors
  simp only [bind_ok_iff] at hErrors
  rcases hErrors with ⟨ofAmount, -, ofTime, hOfTime, hEq⟩
  simp only [pure, Except.pure, Except.ok.injEq,
    List.append_eq_nil_iff] at hEq
  rw [hEq.2] at hOfTime
  generalize getOrNull payload "event_time" = v
    at hTruthy hTime hOfTime
  unfold eventTimeErrors at hOfTime
  split at hOfTime
  · cases hTruthy
  · rw [hTime] at hOfTime
    simp only [bind, Except.bind, pure, Except.pure,
      Except.ok.injEq] at hOfTime
    by_contra hFar
    rw [if_pos (not_le.1 hFar)] at hOfTime
    cases hOfTime

theorem eventTime_of_publicFields
    {payload : JsonObject}
    {fields : PublicFields}
    (hFields : publicFields payload = .ok fields) :
    (getOrNull payload "event_time").toInt =
      .ok fields.eventTime := by
  unfold publicFields at hFields
  simp only [bind_ok_iff] at hFields
  rcases hFields with
    ⟨_, -, _, -, _, -, _, -, _, -, rawTime, hRawTime,
      eventTime, hTime, _, -, _, -, hEq⟩
  cases hEq
  rw [getOrNull, get?_of_getItem hRawTime, Option.getD_some]
  exact hTime

/- Both times of an event of an accepted request are of the
   era. -/
theorem hasTimes_of_build
    {server : PostServer}
    {payload : JsonObject}
    {event : TransactionEvent}
    (hClock : ClockInEra server)
    (hOk :
      validate server.table server.nowMs payload = .ok ())
    (hBuild :
      build server.table server.config server.context
        payload = .ok event) :
    HasTimes event DeployedEra := by
  rcases build_ok hBuild with
    ⟨masked, addr, fields, -, -, -, hFields, rfl⟩
  have hClose :=
    abs_le.1
      (eventTime_of_validate hOk
        (eventTime_of_publicFields hFields))
  have hEventTime : DeployedEra fields.eventTime := by
    have hEarliest := hClock.earliest.1
    have hLatest := hClock.latest.2
    constructor <;> omega
  intro name hMem millis hGet
  rcases List.mem_pair.1 hMem with rfl | rfl
  · have hSame : millis = fields.eventTime :=
      eq_of_get?_int
        (get?_eventEntries (by simp [eventEntries])) hGet
    rw [hSame]
    exact hEventTime
  · have hSame : millis = server.context.processingTime :=
      eq_of_get?_int
        (get?_eventEntries (by simp [eventEntries])) hGet
    rw [hSame]
    exact hClock.processing

end FraudStream

------------------------------------------------------------
-- Payloads That Fit The Schema
------------------------------------------------------------

namespace FraudStream

open FallibleList TransactionEventBuilder

/- What the schema asks of a payload beyond the checks. -/
structure FitsSchema (payload : JsonObject) : Prop where
  texts :
    ∀ name ∈
      ["transaction_id", "account_id", "merchant_id",
        "api_key_id", "oauth_scope"],
      ∃ s, getOrNull payload name = .str s
  coordinates :
    ∀ name ∈ ["geo_lat", "geo_lon"],
      (coordinate?
        (some (.value (getOrNull payload name)))).isSome

section

variable {event : TransactionEvent}
variable {name : String}

theorem stringField_isSome_iff
    {v : JsonValue}
    (hGet : event.get? name = some (.value v)) :
    ((stringField name).write event).isSome ↔
      ∃ s, v = .str s := by
  have hWrite :
      (stringField name).write event =
        (EventValue.text? (.value v)).map
          Avro.string.write := by
    simp [Avro.Field.write, Avro.Field.value?, stringField,
      Avro.Wire.ofCodec, hGet]
  rw [hWrite, Option.isSome_map]
  cases v <;> simp [EventValue.text?]

theorem timestampField_isSome
    {millis : Int}
    (hGet : event.get? name = some (.int millis))
    (hEra : DeployedEra millis) :
    ((timestampField name).write event).isSome := by
  have hFits : -2 ^ 63 ≤ millis ∧ millis < 2 ^ 63 := by
    have hLow := hEra.1
    have hHigh := hEra.2
    omega
  have hLong : EventValue.long? (.int millis) = some millis :=
    if_pos hFits
  simp [Avro.Field.write, Avro.Field.value?, timestampField,
    Avro.Wire.ofCodec, hGet, hLong]

theorem nullableFloatField_isSome_iff
    {v : JsonValue}
    (hGet : event.get? name = some (.value v)) :
    ((nullableFloatField name).write event).isSome ↔
      (coordinate? (some (.value v))).isSome := by
  cases hNull : EventValue.isNull (.value v) <;>
    simp [Avro.Field.write, Avro.Field.value?,
      nullableFloatField, Avro.Wire.optional,
      Avro.Wire.ofCodec, hGet, hNull, coordinate?,
      EventValue.bits?]

end

/- A checked currency is a text. -/
theorem currency_of_validate
    {table : TextTable}
    {nowMs : Int}
    {payload : JsonObject}
    (hOk : validate table nowMs payload = .ok ()) :
    ∃ s, getOrNull payload "currency" = .str s := by
  rcases (bind_ok_iff _ _ _).1 hOk with
    ⟨_, hFields, hValues⟩
  have hField :=
    get?_of_truthy
      (required_of_ok hFields "currency" (by decide))
  have hErrors := fieldErrors_of_ok hValues
  unfold fieldErrors at hErrors
  simp only [bind_ok_iff] at hErrors
  rcases hErrors with ⟨ofAmount, -, ofTime, -, hEq⟩
  simp only [pure, Except.pure, Except.ok.injEq,
    List.append_eq_nil_iff] at hEq
  have hCurrency := hEq.1.1.1.2
  rw [getOrDefault, hField, Option.getD_some] at hCurrency
  unfold currencyErrors at hCurrency
  split at hCurrency
  next s hText => exact ⟨s, hText⟩
  next => cases hCurrency

/- An event is written when the values it has of the payload
   are texts, and numbers or null. -/
theorem serialise_eventEntries_isSome_iff
    {cfg : Config}
    {context : BuildContext}
    {fields : PublicFields}
    {masked : MaskedPAN}
    {subnet : String}
    (hTimes :
      HasTimes
        (.ofList
          (eventEntries cfg context fields masked subnet))
        DeployedEra) :
    (serialise
        (.ofList
          (eventEntries cfg context fields masked
            subnet))).isSome ↔
      (∀ v ∈
        [transactionId fields.givenId context.uuid,
          fields.accountId, fields.merchantId,
          fields.currency, fields.apiKeyId,
          fields.oauthScope],
        ∃ s, v = .str s) ∧
      ∀ v ∈ [fields.geoLat, fields.geoLon],
        (coordinate? (some (.value v))).isSome := by
  have hGet
      (name : String)
      (value : EventValue)
      (hMem :
        (name, value) ∈
          eventEntries cfg context fields masked subnet) :
      Dict.get?
          (.ofList
            (eventEntries cfg context fields masked subnet))
          name =
        some value :=
    get?_eventEntries hMem
  have hEvent :=
    hGet "event_time" (.int fields.eventTime)
      (by simp [eventEntries])
  have hProcessing :=
    hGet "processing_time" (.int context.processingTime)
      (by simp [eventEntries])
  have hAmount :=
    hGet "amount" (.bytes fields.amount)
      (by simp [eventEntries])
  have hVersion :=
    hGet "schema_version" (.value (.str "1"))
      (by simp [eventEntries, EventValue.str])
  -- A text of the builder is always written.
  have hBuilt
      (name s : String)
      (hMem :
        (name, .value (.str s)) ∈
          eventEntries cfg context fields masked subnet) :
      ((stringField name).write
        (.ofList
          (eventEntries cfg context fields masked
            subnet))).isSome :=
    (stringField_isSome_iff (hGet name _ hMem)).2 ⟨s, rfl⟩
  have hGiven
      (name : String)
      (v : JsonValue)
      (hMem :
        (name, .value v) ∈
          eventEntries cfg context fields masked subnet) :=
    stringField_isSome_iff (hGet name _ hMem)
  have hCoordinate
      (name : String)
      (v : JsonValue)
      (hMem :
        (name, .value v) ∈
          eventEntries cfg context fields masked subnet) :=
    nullableFloatField_isSome_iff (hGet name _ hMem)
  unfold serialise
  rw [Avro.writeRecord_isSome_iff]
  simp only [txnApiV1, List.forall_mem_cons]
  rw [hGiven "transaction_id"
      (transactionId fields.givenId context.uuid)
      (by simp [eventEntries]),
    hGiven "account_id" fields.accountId
      (by simp [eventEntries]),
    hGiven "merchant_id" fields.merchantId
      (by simp [eventEntries]),
    hGiven "currency" fields.currency
      (by simp [eventEntries]),
    hGiven "api_key_id" fields.apiKeyId
      (by simp [eventEntries]),
    hGiven "oauth_scope" fields.oauthScope
      (by simp [eventEntries]),
    hCoordinate "geo_lat" fields.geoLat
      (by simp [eventEntries]),
    hCoordinate "geo_lon" fields.geoLon
      (by simp [eventEntries])]
  have hAmountWritten :
      ((decimalField "amount" 18 4).write
        (.ofList
          (eventEntries cfg context fields masked
            subnet))).isSome := by
    simp [Avro.Field.write, Avro.Field.value?, decimalField,
      Avro.Wire.ofCodec, hAmount, EventValue.bytes?]
  have hVersionWritten :
      (schemaVersionField.write
        (.ofList
          (eventEntries cfg context fields masked
            subnet))).isSome := by
    simp [Avro.Field.write, Avro.Field.value?,
      schemaVersionField, stringField, Avro.Wire.ofCodec,
      hVersion, EventValue.text?]
  have hEventWritten :=
    timestampField_isSome hEvent
      (hTimes "event_time" (by simp) _ hEvent)
  have hProcessingWritten :=
    timestampField_isSome hProcessing
      (hTimes "processing_time" (by simp) _ hProcessing)
  constructor
  · rintro
      ⟨hId, hAccount, hMerchant, -, hCurrency, -, -, -, -, -,
        -, hKey, hScope, hLat, hLon, -⟩
    exact
      ⟨⟨hId, hAccount, hMerchant, hCurrency, hKey, hScope,
          List.forall_mem_nil _⟩,
        hLat, hLon, List.forall_mem_nil _⟩
  · rintro
      ⟨⟨hId, hAccount, hMerchant, hCurrency, hKey, hScope, -⟩,
        hLat, hLon, -⟩
    exact
      ⟨hId, hAccount, hMerchant, hAmountWritten, hCurrency,
        hEventWritten, hProcessingWritten,
        hBuilt "channel" cfg.channel
          (by simp [eventEntries, EventValue.str]),
        hBuilt "card_bin" masked.bin6
          (by simp [eventEntries, EventValue.str]),
        hBuilt "card_last4" masked.last4
          (by simp [eventEntries, EventValue.str]),
        hBuilt "caller_ip_subnet" subnet
          (by simp [eventEntries, EventValue.str]),
        hKey, hScope, hLat, hLon,
        hBuilt "masking_lib_version" "1.0.0"
          (by simp [eventEntries, EventValue.str]),
        hVersionWritten, List.forall_mem_nil _⟩

/- The event of an accepted payload is written exactly when
   the payload fits the schema. -/
theorem serialise_isSome_iff
    {server : PostServer}
    {payload : JsonObject}
    {event : TransactionEvent}
    (hClock : ClockInEra server)
    (hOk :
      validate server.table server.nowMs payload = .ok ())
    (hBuild :
      build server.table server.config server.context
        payload = .ok event) :
    (serialise event).isSome ↔ FitsSchema payload := by
  have hTimes := hasTimes_of_build hClock hOk hBuild
  have hCurrencyText := currency_of_validate hOk
  have hId :
      transactionId (getOrNull payload "transaction_id")
          server.context.uuid =
        getOrNull payload "transaction_id" :=
    if_pos
      ((validated_of_ok hOk).required "transaction_id"
        (by decide))
  rcases build_ok hBuild with
    ⟨masked, addr, fields, -, -, -, hFields, rfl⟩
  unfold publicFields at hFields
  simp only [bind_ok_iff] at hFields
  rcases hFields with
    ⟨rawAmount, hAmount, bytes, hBytes, account, hAccount,
      merchant, hMerchant, currency, hCurrency, rawTime,
      hRawTime, eventTime, hTime, key, hKey, scope, hScope,
      hEq⟩
  cases hEq
  rw [serialise_eventEntries_isSome_iff hTimes]
  dsimp only
  rw [hId, ← getOrNull_of_getItem hAccount,
    ← getOrNull_of_getItem hMerchant,
    ← getOrNull_of_getItem hCurrency,
    ← getOrNull_of_getItem hKey,
    ← getOrNull_of_getItem hScope]
  constructor
  · rintro ⟨hTexts, hCoordinates⟩
    simp only [List.forall_mem_cons] at hTexts hCoordinates
    rcases hTexts with
      ⟨hId, hAccount, hMerchant, -, hKey, hScope, -⟩
    rcases hCoordinates with ⟨hLat, hLon, -⟩
    constructor
    · simp only [List.forall_mem_cons]
      exact
        ⟨hId, hAccount, hMerchant, hKey, hScope,
          List.forall_mem_nil _⟩
    · simp only [List.forall_mem_cons]
      exact ⟨hLat, hLon, List.forall_mem_nil _⟩
  · rintro ⟨hTexts, hCoordinates⟩
    simp only [List.forall_mem_cons] at hTexts hCoordinates ⊢
    rcases hTexts with
      ⟨hId, hAccount, hMerchant, hKey, hScope, -⟩
    rcases hCoordinates with ⟨hLat, hLon, -⟩
    exact
      ⟨⟨hId, hAccount, hMerchant, hCurrencyText, hKey, hScope,
          List.forall_mem_nil _⟩,
        hLat, hLon, List.forall_mem_nil _⟩

end FraudStream

------------------------------------------------------------
-- Accepted Requests Without A Record
------------------------------------------------------------

namespace FraudStream

/- A request that passes every check of the handler, with the
   event that is built of it. -/
structure PassesChecks
    (request : PostedRequest)
    (es : List (String × JsonValue))
    (event : TransactionEvent) : Prop where
  path : request.path = "/v1/transactions"
  loads :
    JsonText.loads request.server.depth request.body =
      .ok (.dict es)
  channel : hasChannel (.dict es) = .ok false
  valid :
    validate request.server.table request.server.nowMs
      (.ofList es) = .ok ()
  built :
    publish request.server.table request.server.config
      request.server.context (.ofList es) = .ok event

/- A text is without the character that the decoder puts for
   a lone surrogate, which has no UTF-8 encoding. -/
def EventValue.isWhole : EventValue → Bool
| .value (.str s) => !s.toList.contains '\ufffd'
| _ => true

def HasWholeTexts (event : TransactionEvent) : Prop :=
  ∀ entry ∈ event.entries, entry.2.isWhole

instance (event : TransactionEvent) :
    Decidable (HasWholeTexts event) :=
  inferInstanceAs (Decidable (∀ entry ∈ event.entries, _))

/- A client that refuses the events without a record, and no
   others, unless a text might be of lone surrogates. -/
structure RefusesUnwritten (server : PostServer) : Prop where
  written :
    ∀ event,
      server.produceFault event = none →
        (serialise event).isSome
  taken :
    ∀ event,
      HasWholeTexts event →
        (serialise event).isSome →
          server.produceFault event = none

theorem build_of_publish
    {table : TextTable}
    {cfg : TransactionEventBuilder.Config}
    {context : BuildContext}
    {payload : JsonObject}
    {event : TransactionEvent}
    (hPublish : publish table cfg context payload = .ok event) :
    TransactionEventBuilder.build table cfg context payload =
      .ok event := by
  unfold publish at hPublish
  split at hPublish
  · cases hPublish
  · rename_i built hBuild
    split at hPublish
    · cases hPublish
    · cases hPublish
      exact hBuild

namespace PassesChecks

variable {request : PostedRequest}
variable {es : List (String × JsonValue)}
variable {event : TransactionEvent}

theorem effect_eq
    (hPasses : PassesChecks request es event) :
    request.effect = request.publishEffect (.ofList es) := by
  unfold PostedRequest.effect
  rw [if_neg (not_not.2 hPasses.path), hPasses.loads]
  dsimp only
  unfold PostedRequest.valueEffect
  rw [hPasses.channel]
  dsimp only
  unfold PostedRequest.payloadEffect
  rw [hPasses.valid]

/- The client decides. -/
theorem effect_of_taken
    (hPasses : PassesChecks request es event)
    (hTaken : request.server.produceFault event = none) :
    request.effect = .published event := by
  rw [hPasses.effect_eq, PostedRequest.publishEffect,
    hPasses.built]
  dsimp only
  rw [hTaken]

theorem effect_of_refused
    (hPasses : PassesChecks request es event)
    {message : String}
    (hRefused :
      request.server.produceFault event = some message) :
    request.effect = .nothing := by
  rw [hPasses.effect_eq, PostedRequest.publishEffect,
    hPasses.built]
  dsimp only
  rw [hRefused]

theorem doPost_of_refused
    (hPasses : PassesChecks request es event)
    {message : String}
    (hRefused :
      request.server.produceFault event = some message) :
    doPost request.server request.path request.body =
      request.server.internalError message := by
  unfold doPost
  rw [if_neg (not_not.2 hPasses.path), hPasses.loads]
  dsimp only
  unfold PostServer.acceptValue
  rw [hPasses.channel]
  dsimp only
  unfold PostServer.acceptPayload
  rw [hPasses.valid]
  dsimp only
  unfold PostServer.publishAndRespond PostServer.publishPayload
  rw [hPasses.built]
  dsimp only
  rw [hRefused]

/- A published event came of a request that passed. -/
theorem of_published
    (hEffect : request.effect = .published event) :
    ∃ es, PassesChecks request es event := by
  rcases
    PostedRequest.publishEffect_of_effect hEffect nofun
      nofun with
    ⟨es, hPath, hLoads, hChannel, hValid, hPublished⟩
  refine ⟨es, hPath, hLoads, hChannel, hValid, ?_⟩
  unfold PostedRequest.publishEffect at hPublished
  split at hPublished
  next built hBuilt =>
    split at hPublished
    · cases hPublished
    · cases hPublished
      exact hBuilt
  next => cases hPublished
  next => cases hPublished
  next => cases hPublished

/- A request that the client refuses changes nothing. -/
theorem post_of_refused
    (hPasses : PassesChecks request es event)
    {message : String}
    (hRefused :
      request.server.produceFault event = some message)
    (service : ProducerService) :
    service.post request =
      (request.server.internalError message, service) := by
  rw [ProducerService.post_eq,
    hPasses.effect_of_refused hRefused,
    hPasses.doPost_of_refused hRefused]
  rfl

/-
  A request that passed every check is published only if its
  payload fits the schema, and if no text is of lone
  surrogates it is published whenever the payload does. If
  the payload does not fit, the answer is an internal error,
  and the service is as before: no error is counted and no
  dead letter is kept.
-/
theorem published_iff_fits_schema
    (hPasses : PassesChecks request es event)
    (hClock : ClockInEra request.server)
    (hClient : RefusesUnwritten request.server) :
    (HasWholeTexts event →
        (request.effect = .published event ↔
          FitsSchema (.ofList es))) ∧
      (¬ FitsSchema (.ofList es) →
        ∃ message, ∀ service : ProducerService,
          service.post request =
            (request.server.internalError message,
              service)) := by
  have hWritten :
      (serialise event).isSome ↔ FitsSchema (.ofList es) :=
    serialise_isSome_iff hClock hPasses.valid
      (build_of_publish hPasses.built)
  cases hFault : request.server.produceFault event with
  | none =>
      have hSchema :=
        hWritten.1 (hClient.written event hFault)
      exact
        ⟨fun _ =>
          iff_of_true (hPasses.effect_of_taken hFault)
            hSchema,
          fun hNot => absurd hSchema hNot⟩
  | some message =>
      refine ⟨fun hWhole => iff_of_false ?_ ?_, fun _ => ?_⟩
      · rw [hPasses.effect_of_refused hFault]
        nofun
      · intro hSchema
        rw [hClient.taken event hWhole (hWritten.2 hSchema)]
          at hFault
        cases hFault
      · exact ⟨message, hPasses.post_of_refused hFault⟩

/- A client that asks the schema. -/
def wireServer : PostServer :=
  { sampleServer with
    produceFault := fun event =>
      if (serialise event).isSome then
        none
      else
        some "ValueSerializationError" }

theorem wireServer_refuses : RefusesUnwritten wireServer := by
  have hFault :
      ∀ event,
        wireServer.produceFault event = none ↔
          (serialise event).isSome := by
    intro event
    change
      (if (serialise event).isSome then none
        else some "ValueSerializationError") = none ↔ _
    cases (serialise event).isSome <;> simp
  exact
    { written := fun event => (hFault event).1
      taken := fun event _ => (hFault event).2 }

/- A transaction with this JSON text for its account. -/
def accountRequest
    (server : PostServer)
    (account : String) : PostedRequest where
  server := server
  path := "/v1/transactions"
  body :=
    ("\x7b\"transaction_id\": \"t-1\", " ++
      "\"account_id\": " ++ account ++ ", " ++
      "\"merchant_id\": \"m-1\", " ++
      "\"amount\": 10.00, \"currency\": \"EUR\", " ++
      "\"event_time\": 1700000000000, " ++
      "\"card_number\": \"4111111111111111\", " ++
      "\"caller_ip\": \"203.0.113.7\", " ++
      "\"api_key_id\": \"k-1\", " ++
      "\"oauth_scope\": \"pay\"\x7d").toUTF8.data.toList
  reports := []
  dlqFault := false

/- No check depends on the client. -/
theorem passesChecks_accountRequest
    (account : String)
    (hWhole :
      (accountRequest sampleServer
        account).effect.event?.any
          (fun event => decide (HasWholeTexts event)) =
        true) :
    ∃ es event,
      PassesChecks (accountRequest wireServer account) es
          event ∧
        HasWholeTexts event := by
  cases hEffect : (accountRequest sampleServer account).effect
  case published event =>
    rcases of_published hEffect with ⟨es, hPasses⟩
    rw [hEffect] at hWhole
    exact
      ⟨es, event,
        ⟨hPasses.path, hPasses.loads, hPasses.channel,
          hPasses.valid, hPasses.built⟩,
        of_decide_eq_true hWhole⟩
  all_goals
    rw [hEffect] at hWhole
    cases hWhole

theorem account_text_fits_and_number_is_refused :
    (∃ es event,
      PassesChecks (accountRequest wireServer "\"a-1\"") es
          event ∧
        FitsSchema (.ofList es)) ∧
      ∃ message, ∀ service : ProducerService,
        service.post (accountRequest wireServer "7") =
          (wireServer.internalError message, service) := by
  have hClock : ClockInEra wireServer :=
    ⟨by decide, by decide, by decide⟩
  constructor
  · rcases
      passesChecks_accountRequest "\"a-1\""
        (by decide +kernel) with
      ⟨es, event, hPasses, hWhole⟩
    have hPublished :
        (accountRequest wireServer
          "\"a-1\"").effect.event?.isSome = true := by
      decide +kernel
    refine
      ⟨es, event, hPasses,
        ((published_iff_fits_schema hPasses hClock
          wireServer_refuses).1 hWhole).1 ?_⟩
    cases hFault : wireServer.produceFault event with
    | none => exact hPasses.effect_of_taken hFault
    | some message =>
        rw [hPasses.effect_of_refused hFault] at hPublished
        cases hPublished
  · rcases
      passesChecks_accountRequest "7" (by decide +kernel) with
      ⟨es, event, hPasses, hWhole⟩
    have hNothing :
        (accountRequest wireServer
          "7").effect.event?.isSome = false := by
      decide +kernel
    apply
      (published_iff_fits_schema hPasses hClock
        wireServer_refuses).2
    intro hFits
    rw [((published_iff_fits_schema hPasses hClock
      wireServer_refuses).1 hWhole).2 hFits] at hNothing
    cases hNothing

end PassesChecks

end FraudStream
