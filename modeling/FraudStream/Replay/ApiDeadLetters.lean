import FraudStream.Library.JsonRoundTrip
import FraudStream.Ingestion.DeliveryReports
import FraudStream.Replay.DLQTolerance

/-
  Replaying the dead letters of the API.

  A dead letter is sent as a JSON object and read back by the
  adapter. All letters of the API are replayed, whatever the
  time filters are, since a letter has no field that the
  adapter takes for its time. An event has the payload that
  was posted but for its secrets, as a text, or the empty
  object if the event was not delivered. It does not tell
  the error, which a letter has under another name.

  Key definitions include:
    * `DLQProducer.envelope`
    * `ReplayRuntime.ReadsJson`
    * `ReplaysLetter`

  Main results:
    * `DLQSourceAdapter.iterateFrom_envelopes`
    * `ProducerService.originates_of_mem`
    * `api_dead_letters_are_replayed`
-/

------------------------------------------------------------
-- Envelopes
------------------------------------------------------------

namespace FraudStream

/- What an envelope has besides its letter. -/
structure EnvelopeContext where
  dlqId : Uuid
  failedAt : JsonInt
  producerHost : String

namespace DLQProducer

/- The object that `send_to_dlq` writes. -/
def envelope
    (letter : DeadLetter)
    (context : EnvelopeContext) :
    List (String × JsonValue) :=
  [("dlq_id", .str context.dlqId.text),
    ("source_topic", .str letter.sourceTopic),
    ("original_payload", .str letter.originalPayload),
    ("error_type", .str letter.errorType),
    ("error_message", .str letter.errorMessage),
    ("failed_at", .int context.failedAt),
    ("producer_host", .str context.producerHost),
    ("masking_applied", .bool letter.maskingApplied)]

/- The text of an envelope, which holds no float. -/
def envelopeText
    (table : TextTable)
    (letter : DeadLetter)
    (context : EnvelopeContext) : String :=
  JsonValue.dumps table (.dict (envelope letter context))

/- The message carries the letter. -/
def Carries
    (table : TextTable)
    (letter : DeadLetter)
    (m : KafkaMessage) : Prop :=
  ∃ context,
    m.value =
      some (JsonText.encode (envelopeText table letter context))

theorem nodup_envelope
    (letter : DeadLetter)
    (context : EnvelopeContext) :
    ((envelope letter context).map Prod.fst).Nodup := by
  simp [envelope]

theorem isWritable_envelope
    (table : TextTable)
    (letter : DeadLetter)
    (context : EnvelopeContext)
    (depth : Nat) :
    JsonText.IsWritable table (depth + 1)
      (.dict (envelope letter context)) := by
  refine ⟨nodup_envelope letter context, ?_⟩
  simp only [envelope, List.forall_mem_cons,
    List.not_mem_nil, false_implies, implies_true, and_true]
  cases depth <;>
    exact
      ⟨trivial, trivial, trivial, trivial, trivial, trivial,
        trivial, trivial⟩

end DLQProducer

end FraudStream

------------------------------------------------------------
-- Reading An Envelope
------------------------------------------------------------

namespace FraudStream

/- What a reader makes of a text, by what is raised. -/
def loadedOf : Except LoadsError JsonValue → Loaded
| .ok (.dict es) => .object (.ofList es)
| .ok v => .other v
| .error .jsonDecodeError => .malformed
| .error .unicodeDecodeError => .malformed
| .error _ => .raised

/- The runtime reads the JSON texts in ASCII, values nested no
   deeper than so. -/
def ReplayRuntime.ReadsJson
    (rt : ReplayRuntime)
    (depth : Nat) : Prop :=
  ∀ text : String, (∀ c ∈ text.toList, JsonText.IsAscii c) →
    rt.loads (JsonText.encode text) =
      loadedOf (JsonText.loads depth (JsonText.encode text))

/- An object that was written is read back. -/
theorem ReplayRuntime.ReadsJson.decode_dumps
    {rt : ReplayRuntime}
    {table : TextTable}
    {depth : Nat}
    {es : List (String × JsonValue)}
    (hReads : rt.ReadsJson depth)
    (hWritable : JsonText.IsWritable table depth (.dict es)) :
    rt.decode
        (JsonText.encode (JsonValue.dumps table (.dict es))) =
      .object (.ofList es) := by
  have hLoaded :
      rt.loads
          (JsonText.encode
            (JsonValue.dumps table (.dict es))) =
        .object (.ofList es) := by
    rw [hReads _ (JsonText.isAscii_dumps hWritable),
      JsonText.loads_dumps hWritable]
    rfl
  unfold ReplayRuntime.decode
  rw [hLoaded]

/- The event that replays a letter. -/
def replayOf
    (rt : ReplayRuntime)
    (cfg : DLQSourceConfig)
    (position : Nat)
    (letter : DeadLetter)
    (m : KafkaMessage) : DlqEvent where
  eventId := .str ("dlq-" ++ toString m.offset)
  timestamp := .str (rt.now position)
  payload := .str letter.originalPayload
  dlqTopic := cfg.dlqTopic
  sourceTopic := cfg.sourceTopic
  errorReason := .str "unknown"
  retryCount := DLQSourceAdapter.zero
  dlqTimestamp := .null
  offset := m.offset

namespace DLQSourceAdapter

open DLQProducer

variable
  {rt : ReplayRuntime}
  {cfg : DLQSourceConfig}
  {table : TextTable}
  {depth : Nat}

theorem decode_envelope
    (hReads : rt.ReadsJson (depth + 1))
    (letter : DeadLetter)
    (context : EnvelopeContext) :
    rt.decode
        (JsonText.encode
          (envelopeText table letter context)) =
      .object (.ofList (envelope letter context)) :=
  hReads.decode_dumps
    (isWritable_envelope table letter context depth)

/- No field of an envelope is taken for a time. -/
theorem not_filteredByTime_envelope
    (range : TimeRange)
    (letter : DeadLetter)
    (context : EnvelopeContext) :
    isFilteredByTime rt range
        (.ofList (envelope letter context)) =
      false := by
  unfold isFilteredByTime
  split
  · rfl
  · rw [Dict.get?_ofList (nodup_envelope letter context),
      Dict.get?_ofList (nodup_envelope letter context)]
    simp [envelope, Dict.lookupEntries, JsonValue.truthy]

theorem eventOf_envelope
    (position : Nat)
    (m : KafkaMessage)
    (letter : DeadLetter)
    (context : EnvelopeContext) :
    eventOf rt cfg position m
        (.ofList (envelope letter context)) =
      replayOf rt cfg position letter m := by
  unfold eventOf replayOf
  simp only [Dict.get?_ofList (nodup_envelope letter context)]
  simp [envelope, Dict.lookupEntries]

/- A letter of the source topic is replayed. -/
theorem readMessage_envelope
    (hReads : rt.ReadsJson (depth + 1))
    {letter : DeadLetter}
    {m : KafkaMessage}
    (hCarries : Carries table letter m)
    (hTopic : letter.sourceTopic = cfg.sourceTopic)
    (range : TimeRange)
    (position : Nat) :
    readMessage rt cfg range position m =
      .event (replayOf rt cfg position letter m) := by
  rcases hCarries with ⟨context, hValue⟩
  have hOther :
      isOfOtherTopic cfg (.ofList (envelope letter context)) =
        false := by
    unfold isOfOtherTopic
    rw [Dict.get?_ofList (nodup_envelope letter context)]
    simp [envelope, Dict.lookupEntries, hTopic]
  unfold readMessage
  rw [hValue, Option.map_some, decode_envelope hReads]
  simp only [hOther, Bool.false_eq_true, if_false,
    not_filteredByTime_envelope, eventOf_envelope]

end DLQSourceAdapter

end FraudStream

------------------------------------------------------------
-- Replaying A Topic Of Letters
------------------------------------------------------------

namespace FraudStream

namespace DLQSourceAdapter

open DLQProducer

variable
  {rt : ReplayRuntime}
  {cfg : DLQSourceConfig}
  {table : TextTable}
  {depth : Nat}

/- Each letter is replayed, in order, and nothing else is. -/
theorem iterateFrom_envelopes
    (hReads : rt.ReadsJson (depth + 1))
    {letters : List DeadLetter}
    {ms : List KafkaMessage}
    (hCarried : List.Forall₂ (Carries table) letters ms)
    (hTopic :
      ∀ letter ∈ letters,
        letter.sourceTopic = cfg.sourceTopic)
    (range : TimeRange)
    (position count : Nat)
    (hMax :
      ((count + letters.length : Nat) : Int) ≤
        cfg.maxMessages) :
    (iterateFrom rt cfg range position count ms).raised =
        false ∧
      List.Forall₂
        (fun letter e =>
          ∃ (i : Nat) (m : KafkaMessage),
            e = (i, replayOf rt cfg i letter m))
        letters
        (iterateFrom rt cfg range position count
          ms).events := by
  induction hCarried generalizing position count with
  | nil => exact ⟨rfl, .nil⟩
  | @cons letter m letters ms hHead hTail ih =>
      rcases List.forall_mem_cons.1 hTopic with
        ⟨hFirst, hOthers⟩
      have hRoom : (count : Int) < cfg.maxMessages := by
        simp only [List.length_cons] at hMax
        omega
      have hRest :=
        ih hOthers (position + 1) (count + 1)
          (by simp only [List.length_cons] at hMax; omega)
      rw [iterateFrom, if_pos hRoom,
        readMessage_envelope hReads hHead hFirst]
      exact ⟨hRest.1, .cons ⟨position, m, rfl⟩ hRest.2⟩

end DLQSourceAdapter

end FraudStream

------------------------------------------------------------
-- Where The Letters Come From
------------------------------------------------------------

namespace FraudStream

namespace ProducerService

/- The letter tells of an event that was not delivered, or of
   a payload that one of the requests was rejected for. -/
def Originates
    (steps : List ServiceStep)
    (letter : DeadLetter) : Prop :=
  (∃ message, letter = undelivered message) ∨
    ∃ request errorType,
      ServiceStep.post request ∈ steps ∧
        request.effect = .rejected errorType (some letter)

theorem mem_sendToDlq
    {service : ProducerService}
    {dlqFault : Bool}
    {letter letter' : DeadLetter}
    (hMem :
      letter' ∈
        (service.sendToDlq dlqFault letter).deadLetters) :
    letter' ∈ service.deadLetters ∨ letter' = letter := by
  unfold sendToDlq at hMem
  split at hMem
  · exact .inl hMem
  · rcases List.mem_append.1 hMem with hBefore | hNew
    · exact .inl hBefore
    · exact .inr (List.mem_singleton.1 hNew)

theorem mem_serveReport
    {service : ProducerService}
    {report : DeliveryReport}
    {letter : DeadLetter}
    (hMem : letter ∈ (service.serveReport report).deadLetters) :
    letter ∈ service.deadLetters ∨
      ∃ message, letter = undelivered message := by
  rcases serveReport_cases service report with
    hSame | ⟨event, -, hDelivered | ⟨message, -, hFailed⟩⟩
  · rw [hSame] at hMem
    exact .inl hMem
  · rw [hDelivered.2] at hMem
    exact .inl hMem
  · rw [hFailed] at hMem
    rcases mem_sendToDlq hMem with hBefore | hNew
    · exact .inl hBefore
    · exact .inr ⟨message, hNew⟩

theorem mem_poll
    {service : ProducerService}
    {reports : List DeliveryReport}
    {letter : DeadLetter}
    (hMem : letter ∈ (service.poll reports).deadLetters) :
    letter ∈ service.deadLetters ∨
      ∃ message, letter = undelivered message := by
  induction reports generalizing service with
  | nil => exact .inl hMem
  | cons report reports ih =>
      rcases ih hMem with hBefore | hNew
      · exact mem_serveReport hBefore
      · exact .inr hNew

theorem mem_step
    {service : ProducerService}
    {step : ServiceStep}
    {letter : DeadLetter}
    (hMem : letter ∈ (service.step step).2.deadLetters) :
    letter ∈ service.deadLetters ∨
      Originates [step] letter := by
  cases step with
  | flush reports => exact (mem_poll hMem).imp_right .inl
  | post request =>
      unfold ProducerService.step at hMem
      dsimp only at hMem
      rw [post_eq] at hMem
      cases hEffect : request.effect with
      | nothing =>
          rw [hEffect] at hMem
          exact .inl hMem
      | invalid =>
          rw [hEffect] at hMem
          exact .inl hMem
      | published event =>
          rw [hEffect] at hMem
          exact (mem_poll hMem).imp_right .inl
      | rejected errorType letter' =>
          rw [hEffect] at hMem
          rcases List.mem_append.1 hMem with hBefore | hNew
          · exact .inl hBefore
          · rw [Option.mem_toList] at hNew
            refine .inr (.inr ⟨request, errorType, ?_, ?_⟩)
            · exact List.mem_singleton_self _
            · rw [hEffect, hNew]

theorem Originates.mono
    {steps steps' : List ServiceStep}
    {letter : DeadLetter}
    (hOriginates : Originates steps letter)
    (hSubset : ∀ step ∈ steps, step ∈ steps') :
    Originates steps' letter := by
  rcases hOriginates with
    hMessage | ⟨request, errorType, hMem, hEffect⟩
  · exact .inl hMessage
  · exact
      .inr ⟨request, errorType, hSubset _ hMem, hEffect⟩

/- Every letter of a run has its origin in it. -/
theorem originates_of_mem
    {service : ProducerService}
    {steps : List ServiceStep}
    {letter : DeadLetter}
    (hMem : letter ∈ (service.run steps).2.deadLetters) :
    letter ∈ service.deadLetters ∨
      Originates steps letter := by
  induction steps generalizing service with
  | nil => exact .inl hMem
  | cons step steps ih =>
      rcases ih hMem with hBefore | hLater
      · rcases mem_step hBefore with hStart | hStep
        · exact .inl hStart
        · refine .inr (hStep.mono ?_)
          intro step' hOne
          rw [List.mem_singleton.1 hOne]
          exact List.mem_cons_self
      · exact
          .inr (hLater.mono (fun _ => List.mem_cons_of_mem _))

end ProducerService

end FraudStream

------------------------------------------------------------
-- The Payload Of A Letter
------------------------------------------------------------

namespace FraudStream

open JsonText

/- The letter of a rejected payload. -/
theorem letter_of_rejected
    {request : PostedRequest}
    {errorType : ErrorType}
    {letter : DeadLetter}
    (hEffect :
      request.effect = .rejected errorType (some letter)) :
    ∃ es,
      loads request.server.depth request.body =
          .ok (.dict es) ∧
        letter.sourceTopic = "txn.api" ∧
        letter.errorType = errorType.name ∧
        letter.originalPayload =
          JsonValue.dumps request.server.table
            (.dict (withoutSecrets (.ofList es)).entries) := by
  rcases PostedRequest.publishEffect_of_rejected hEffect with
    ⟨es, hLoads, hRejected⟩
  refine ⟨es, hLoads, ?_⟩
  have hLetter :
      ∀ message maskingApplied,
        request.deadLetter? (.ofList es) errorType message
            maskingApplied = some letter →
        letter.sourceTopic = "txn.api" ∧
          letter.errorType = errorType.name ∧
          letter.originalPayload =
            JsonValue.dumps request.server.table
              (.dict
                (withoutSecrets (.ofList es)).entries) := by
    intro message maskingApplied hSome
    unfold PostedRequest.deadLetter? at hSome
    split at hSome
    · cases hSome
    · split at hSome
      · cases hSome
      · cases hSome
        exact ⟨rfl, rfl, rfl⟩
  unfold PostedRequest.publishEffect at hRejected
  split at hRejected
  · split at hRejected <;> cases hRejected
  · cases hRejected
  · have hParts := PostEffect.rejected.inj hRejected
    rcases hParts with ⟨rfl, hSome⟩
    exact hLetter _ _ hSome
  · have hParts := PostEffect.rejected.inj hRejected
    rcases hParts with ⟨rfl, hSome⟩
    exact hLetter _ _ hSome

/- An object of which entries were left out can be
   written. -/
theorem isWritable_withoutSecrets
    {table : TextTable}
    {depth : Nat}
    {es : List (String × JsonValue)}
    (hWritable : IsWritable table depth (.dict es)) :
    IsWritable table depth
      (.dict (withoutSecrets (.ofList es)).entries) := by
  cases depth with
  | zero => cases hWritable
  | succ depth =>
      refine ⟨(withoutSecrets (.ofList es)).nodupKeys, ?_⟩
      intro e hMem
      have hGiven : e ∈ (Dict.ofList es).entries :=
        List.mem_of_mem_filter hMem
      exact
        hWritable.2 e (Dict.mem_of_mem_ofList hGiven)

end FraudStream

------------------------------------------------------------
-- From A Request To Its Replay
------------------------------------------------------------

namespace FraudStream

open JsonText DLQSourceAdapter

/- The payload of the letter is that of an event that was not
   delivered, or reads back as an object that was posted,
   without its secrets. -/
def TellsPayload
    (depth : Nat)
    (steps : List ServiceStep)
    (letter : DeadLetter) : Prop :=
  (letter.errorType = "BrokerError" ∧
      letter.originalPayload = "\x7b\x7d") ∨
    ∃ request es,
      ServiceStep.post request ∈ steps ∧
        loads depth request.body = .ok (.dict es) ∧
        loads depth (encode letter.originalPayload) =
          .ok (.dict (withoutSecrets (.ofList es)).entries)

/- The event has the payload of the letter and does not tell
   its error. -/
structure ReplaysLetter
    (depth : Nat)
    (steps : List ServiceStep)
    (letter : DeadLetter)
    (event : DlqEvent) : Prop where
  payload : event.payload = .str letter.originalPayload
  errorReason : event.errorReason = .str "unknown"
  tells : TellsPayload depth steps letter

/- The requests of a run have one table and one depth, and
   the floats of what they post are read back. -/
structure WritesBack
    (table : TextTable)
    (depth : Nat)
    (steps : List ServiceStep) : Prop where
  server :
    ∀ request, ServiceStep.post request ∈ steps →
      request.server.table = table ∧
        request.server.depth = depth
  floats :
    ∀ request es, ServiceStep.post request ∈ steps →
      loads depth request.body = .ok (.dict es) →
      ∀ q ∈ JsonText.floats (.dict es), ReadsFloat table q

theorem originalPayload_of_originates
    {table : TextTable}
    {depth : Nat}
    {steps : List ServiceStep}
    (hBack : WritesBack table depth steps)
    {letter : DeadLetter}
    (hOriginates :
      ProducerService.Originates steps letter) :
    letter.sourceTopic = "txn.api" ∧
      TellsPayload depth steps letter := by
  rcases hOriginates with
    ⟨message, rfl⟩ | ⟨request, errorType, hMem, hEffect⟩
  · exact ⟨rfl, .inl ⟨rfl, rfl⟩⟩
  · rcases letter_of_rejected hEffect with
      ⟨es, hLoads, hTopic, -, hPayload⟩
    rcases hBack.server request hMem with ⟨hTable, hDepth⟩
    rw [hDepth] at hLoads
    rw [hTable] at hPayload
    have hWritable :=
      isWritable_of_loads hLoads
        (hBack.floats request es hMem hLoads)
    refine
      ⟨hTopic, .inr ⟨request, es, hMem, hLoads, ?_⟩⟩
    rw [hPayload]
    exact loads_dumps (isWritable_withoutSecrets hWritable)

/-
  A replay of the dead letters of a run of the API yields one
  event for each letter, in order. It ends without an
  exception, whatever the time filters are. The event has
  the object that was posted, without its secrets.
-/
theorem api_dead_letters_are_replayed
    {rt : ReplayRuntime}
    {cfg : DLQSourceConfig}
    {range : TimeRange}
    {table : TextTable}
    {depth replayDepth : Nat}
    {steps : List ServiceStep}
    {ms : List KafkaMessage}
    (hBack : WritesBack table depth steps)
    (hReads : rt.ReadsJson (replayDepth + 1))
    (hTopic : cfg.sourceTopic = "txn.api")
    (hRange : timeRange? rt cfg = some range)
    (hCarried :
      List.Forall₂ (DLQProducer.Carries table)
        (ProducerService.started.run steps).2.deadLetters ms)
    (hMax :
      ((ProducerService.started.run
        steps).2.deadLetters.length : Int) ≤
          cfg.maxMessages) :
    (iterate rt cfg ms).raised = false ∧
      List.Forall₂
        (fun letter e => ReplaysLetter depth steps letter e.2)
        (ProducerService.started.run steps).2.deadLetters
        (iterate rt cfg ms).events := by
  have hOrigin :
      ∀ letter ∈
        (ProducerService.started.run steps).2.deadLetters,
        ProducerService.Originates steps letter := by
    intro letter hMem
    rcases ProducerService.originates_of_mem hMem with
      hBefore | hRun
    · cases hBefore
    · exact hRun
  have hTopics :
      ∀ letter ∈
        (ProducerService.started.run steps).2.deadLetters,
        letter.sourceTopic = cfg.sourceTopic := by
    intro letter hMem
    rw [hTopic]
    exact
      (originalPayload_of_originates hBack
        (hOrigin letter hMem)).1
  have hReplay :=
    iterateFrom_envelopes hReads hCarried hTopics range 0 0
      (by rw [Nat.zero_add]; exact hMax)
  unfold iterate
  rw [hRange]
  refine ⟨hReplay.1, ?_⟩
  refine
    ((List.forall₂_and_left _ _).2
      ⟨hOrigin, hReplay.2⟩).imp ?_
  rintro letter e ⟨hFirst, i, m, rfl⟩
  exact
    ⟨rfl, rfl,
      (originalPayload_of_originates hBack hFirst).2⟩

/- A card number whose check digit is wrong. -/
def rejectedRequest : PostedRequest where
  server := sampleServer
  path := "/v1/transactions"
  body :=
    ("\x7b\"transaction_id\": \"t-1\", " ++
      "\"account_id\": \"a-1\", " ++
      "\"merchant_id\": \"m-1\", \"amount\": 10, " ++
      "\"currency\": \"EUR\", " ++
      "\"event_time\": 1700000000000, " ++
      "\"card_number\": \"4111111111111112\", " ++
      "\"caller_ip\": \"203.0.113.7\", " ++
      "\"api_key_id\": \"k-1\", " ++
      "\"oauth_scope\": \"pay\"\x7d").toUTF8.data.toList
  reports := []
  dlqFault := false

/- The letter has all fields but the two secrets. -/
example :
    (ProducerService.started.run
        [.post rejectedRequest]).2.deadLetters.map
      DeadLetter.originalPayload =
        ["\x7b\"transaction_id\": \"t-1\", " ++
          "\"account_id\": \"a-1\", " ++
          "\"merchant_id\": \"m-1\", \"amount\": 10, " ++
          "\"currency\": \"EUR\", " ++
          "\"event_time\": 1700000000000, " ++
          "\"api_key_id\": \"k-1\", " ++
          "\"oauth_scope\": \"pay\"\x7d"] := by
  decide +kernel

/- A runtime that reads JSON texts. -/
def jsonRuntime : ReplayRuntime where
  loads := fun bytes => loadedOf (loads 900 bytes)
  replaceText := fun _ => ""
  table := asciiTable
  fromisoformat := fun _ => none
  now := fun _ => "2026-01-01T00:00:00+00:00"

/- The one letter of a run with a rejected request. -/
def sampleMessages : List KafkaMessage :=
  (ProducerService.started.run
      [.post rejectedRequest]).2.deadLetters.map
    (fun letter =>
      messageOf
        (some
          (encode
            (DLQProducer.envelopeText asciiTable letter
              { dlqId := sampleContext.uuid
                failedAt := ⟨0, JsonInt.zero_short⟩
                producerHost := "api-1" }))))

theorem writesBack_sample :
    WritesBack asciiTable 900 [.post rejectedRequest] := by
  constructor
  · intro request hMem
    cases List.mem_singleton.1 hMem
    exact ⟨rfl, rfl⟩
  · intro request es hMem hLoads
    cases List.mem_singleton.1 hMem
    have hNone :
        (match loads 900 rejectedRequest.body with
        | .ok v => JsonText.floats v
        | .error _ => []) = [] := by
      decide +kernel
    rw [hLoads] at hNone
    dsimp only at hNone
    rw [hNone]
    exact List.forall_mem_nil _

theorem rejected_request_is_replayed :
    (iterate jsonRuntime replayAll sampleMessages).raised =
        false ∧
      List.Forall₂
        (fun letter e =>
          ReplaysLetter 900 [.post rejectedRequest] letter
            e.2)
        (ProducerService.started.run
          [.post rejectedRequest]).2.deadLetters
        (iterate jsonRuntime replayAll
          sampleMessages).events := by
  apply
    api_dead_letters_are_replayed writesBack_sample
      (show jsonRuntime.ReadsJson (899 + 1) from
        fun _ _ => rfl)
      rfl rfl
  · unfold sampleMessages
    rw [List.forall₂_map_right_iff, List.forall₂_same]
    intro letter _
    exact ⟨_, rfl⟩
  · decide +kernel

end FraudStream
