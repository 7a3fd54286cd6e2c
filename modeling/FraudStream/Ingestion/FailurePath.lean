import FraudStream.Ingestion.Rejections

/-
  What the failure path tells of the secret fields.

  The traces of a payload that fails are its dead letter,
  the log record and the answer to the request. Those of two
  payloads with the same other fields are the same exactly
  when both are rejected by the same check with the same
  quotation.

  Key definitions include:
    * `Masked`

  The main results are:
    * `publish_of_rejection`
    * `assertNoPiiLeak_congr`
    * `publishFailure_eq_iff`
-/

------------------------------------------------------------
-- Publishing A Rejected Payload
------------------------------------------------------------

namespace FraudStream

open TransactionEventBuilder

theorem getLast?_repr
    (isPrintable : Char → Bool)
    (s : String) :
    (PyText.repr isPrintable s).toList.getLast? =
      some (PyText.quoteOf s.toList) := by
  rw [PyText.repr, String.toList_ofList, PyText.quoted]
  simp [List.getLast?_cons]

/- Only texts and numbers are addresses, and their quotations
   end with a quote, a digit or the end of a truth value. -/
theorem endsQuoted_of_ipAddress
    (table : TextTable)
    {ip : JsonValue}
    {addr : IpAddress}
    (hAddress : ipAddress? ip = some addr) :
    (Rejection.ipMulticast (ip.repr table)).EndsQuoted := by
  change
    (ip.repr table).toList.getLast? ≠ some 's' ∧
      (ip.repr table).toList.getLast? ≠ some 'k'
  cases ip with
  | str s =>
      rw [JsonValue.repr, getLast?_repr]
      rcases PyText.quoteOf_cases s.toList with hQuote | hQuote <;>
        simp [hQuote]
  | int n =>
      rw [JsonValue.repr]
      constructor <;> intro hLast <;>
        exact
          absurd
            (PyText.mem_toString_int
              (List.mem_of_getLast? hLast))
            (by decide)
  | bool b => cases b <;> simp [JsonValue.repr]
  | null => cases hAddress
  | float f => cases hAddress
  | list xs => cases hAddress
  | dict es => cases hAddress

theorem endsQuoted_of_panRejection
    {card : Option JsonValue}
    {r : Rejection}
    (hRejected : panRejection? card = some r) :
    r.EndsQuoted := by
  unfold panRejection? digitsRejection? at hRejected
  split at hRejected
  · cases hRejected
    trivial
  · simp only at hRejected
    split at hRejected
    · cases hRejected
      trivial
    · split at hRejected
      · cases hRejected
        trivial
      · split at hRejected
        · cases hRejected
          trivial
        · split at hRejected
          · cases hRejected
          · cases hRejected
            trivial
  · cases hRejected
    trivial

theorem endsQuoted_of_ipRejection
    {table : TextTable}
    {cfg : MaskingConfig}
    {ip : Option JsonValue}
    {r : Rejection}
    (hRejected : ipRejection? table cfg ip = some r) :
    r.EndsQuoted := by
  unfold ipRejection? at hRejected
  split at hRejected
  · cases hRejected
    trivial
  · split at hRejected
    · cases hRejected
      trivial
    · rename_i hAddress
      split at hRejected
      · cases hRejected
        exact endsQuoted_of_ipAddress table hAddress
      · simp only at hRejected
        split at hRejected
        · cases hRejected
          trivial
        · cases hRejected

theorem endsQuoted_of_rejection
    {table : TextTable}
    {cfg : MaskingConfig}
    {payload : JsonObject}
    {r : Rejection}
    (hRejected : rejection? table cfg payload = some r) :
    r.EndsQuoted := by
  rcases Option.or_eq_some_iff.1 hRejected with
    hPan | ⟨-, hIp⟩
  · exact endsQuoted_of_panRejection hPan
  · exact endsQuoted_of_ipRejection hIp

/- No event is built of a rejected payload. -/
theorem build_of_rejection
    (table : TextTable)
    (cfg : Config)
    (context : BuildContext)
    {payload : JsonObject}
    {r : Rejection}
    (hRejected :
      rejection? table cfg.masking payload = some r) :
    build table cfg context payload =
      .error (r.error table) := by
  unfold build
  rcases Option.or_eq_some_iff.1 hRejected with
    hPan | ⟨hPan, hIp⟩
  · rw [maskPan_of_rejection table hPan]
    rfl
  · rcases maskPan_of_none table hPan with ⟨s, -, hMasked⟩
    rw [hMasked, maskIp_of_rejection table hIp]
    rfl

/- A rejected payload is not masked. -/
theorem publish_of_rejection
    (table : TextTable)
    (cfg : Config)
    (context : BuildContext)
    {payload : JsonObject}
    {r : Rejection}
    (hRejected :
      rejection? table cfg.masking payload = some r) :
    publish table cfg context payload =
      .error (r.error table, false) := by
  unfold publish
  rw [build_of_rejection table cfg context hRejected]

/- The exception of a rejection is handled. -/
theorem handled_error
    (table : TextTable)
    (r : Rejection) :
    ∃ handled, (r.error table).handled? = some handled := by
  cases r <;> exact ⟨_, rfl⟩

theorem handled_inj
    {e e' : PublishError}
    {handled : ErrorType × String}
    (hHandled : e.handled? = some handled)
    (hHandled' : e'.handled? = some handled) :
    e = e' := by
  cases e <;> cases e' <;>
    simp_all [PublishError.handled?] <;> grind

end FraudStream

------------------------------------------------------------
-- The Leak Guard Reads No Secret
------------------------------------------------------------

namespace FraudStream

open TransactionEventBuilder

theorem isPanText_of_short
    {s : String}
    (hShort : s.toList.length < 15) :
    isPanText s = false := by
  unfold isPanText
  simp [Nat.not_le.2 hShort]

theorem isPanText_of_mem
    {s : String}
    {c : Char}
    (hMem : c ∈ s.toList)
    (hOther : Decimal.digit? c = none) :
    isPanText s = false := by
  have hAll :
      s.toList.all (fun c => (Decimal.digit? c).isSome) =
        false := by
    rw [List.all_eq_false]
    exact ⟨c, hMem, by simp [hOther]⟩
  unfold isPanText
  simp [hAll]

/- The masked fields of an accepted payload are no card
   numbers. -/
structure Masked
    (masked : MaskedPAN)
    (subnet : String) : Prop where
  bin6 : isPanText masked.bin6 = false
  last4 : isPanText masked.last4 = false
  subnet : isPanText subnet = false

/- A payload that is not rejected is masked. -/
theorem masked_of_none
    {table : TextTable}
    {cfg : MaskingConfig}
    {payload : JsonObject}
    (hNone : rejection? table cfg payload = none) :
    ∃ masked subnet,
      maskPan table payload = .ok masked ∧
        maskIp table cfg payload = .ok subnet ∧
        Masked masked subnet := by
  rcases Option.or_eq_none_iff.1 hNone with ⟨hPan, hIp⟩
  rcases maskPan_of_none table hPan with ⟨s, -, hMasked⟩
  rcases maskIp_of_none table hIp with
    ⟨ip, addr, network, -, -, -, hSubnet⟩
  refine ⟨_, _, hMasked, hSubnet, ?_, ?_, ?_⟩
  · apply isPanText_of_short
    simp only [String.toList_ofList, List.length_take]
    omega
  · apply isPanText_of_short
    simp only [String.toList_ofList, List.length_drop]
    omega
  · rcases network.separator_mem_text with hDot | hColon
    · exact isPanText_of_mem hDot (by decide)
    · exact isPanText_of_mem hColon (by decide)

/- An event has each of its names once. -/
theorem nodup_eventEntries
    (cfg : Config)
    (context : BuildContext)
    (fields : PublicFields)
    (masked : MaskedPAN)
    (subnet : String) :
    ((eventEntries cfg context fields masked subnet).map
      Prod.fst).Nodup := by
  simp [eventEntries]

/- The leak guard finds the same field whatever the masked
   fields and the context are. -/
theorem assertNoPiiLeak_congr
    (table : TextTable)
    (cfg : Config)
    (context context' : BuildContext)
    (fields : PublicFields)
    {masked masked' : MaskedPAN}
    {subnet subnet' : String}
    (hMasked : Masked masked subnet)
    (hMasked' : Masked masked' subnet') :
    assertNoPiiLeak table
        (.ofList
          (eventEntries cfg context fields masked
            subnet)) =
      assertNoPiiLeak table
        (.ofList
          (eventEntries cfg context' fields masked'
            subnet')) := by
  have hUuid :
      ∀ uuid : Uuid, isPanText uuid.text = false :=
    fun uuid => isPanText_of_mem uuid.hyphen (by decide)
  unfold assertNoPiiLeak Dict.contains
  rw [Dict.get?_ofList (nodup_eventEntries ..),
    Dict.get?_ofList (nodup_eventEntries ..),
    Dict.entries_ofList (nodup_eventEntries ..),
    Dict.entries_ofList (nodup_eventEntries ..)]
  by_cases hGiven : fields.givenId.truthy
  · simp [eventEntries, Dict.lookupEntries, transactionId,
      hGiven, EventValue.leaksPan, EventValue.str,
      hMasked.bin6, hMasked.last4, hMasked.subnet,
      hMasked'.bin6, hMasked'.last4, hMasked'.subnet,
      List.find?_cons]
  · simp [eventEntries, Dict.lookupEntries, transactionId,
      hGiven, hUuid, EventValue.leaksPan, EventValue.str,
      hMasked.bin6, hMasked.last4, hMasked.subnet,
      hMasked'.bin6, hMasked'.last4, hMasked'.subnet,
      List.find?_cons]

theorem getItem_of_rest
    {p q : JsonObject}
    (hRest : withoutSecrets p = withoutSecrets q)
    {name : String}
    (hPublic : isSecret name = false) :
    p.get? name = q.get? name := by
  have hKept : (!isSecret name) = true := by
    simp [hPublic]
  calc
    p.get? name = (withoutSecrets p).get? name :=
      (Dict.get?_keepKeys p hKept).symm
    _ = (withoutSecrets q).get? name := by rw [hRest]
    _ = q.get? name := Dict.get?_keepKeys q hKept

/- The public fields are those of the payload without its
   secrets. -/
theorem publicFields_of_rest
    {p q : JsonObject}
    (hRest : withoutSecrets p = withoutSecrets q) :
    publicFields p = publicFields q := by
  have hGet :
      ∀ name, isSecret name = false →
        p.get? name = q.get? name :=
    fun _ hPublic => getItem_of_rest hRest hPublic
  simp only [publicFields, getItem, getOrNull,
    hGet "amount" (by decide), hGet "account_id" (by decide),
    hGet "merchant_id" (by decide),
    hGet "currency" (by decide),
    hGet "event_time" (by decide),
    hGet "api_key_id" (by decide),
    hGet "oauth_scope" (by decide),
    hGet "transaction_id" (by decide),
    hGet "geo_lat" (by decide), hGet "geo_lon" (by decide)]

end FraudStream

------------------------------------------------------------
-- Two Runs Of The Failure Path
------------------------------------------------------------

namespace FraudStream

open TransactionEventBuilder

/- A payload that fails without a rejection fails in the leak
   guard, after masking. -/
theorem publishFailure_of_none
    {table : TextTable}
    {cfg : Config}
    {hasDlqProducer : Bool}
    {context : BuildContext}
    {payload : JsonObject}
    (hNone : rejection? table cfg.masking payload = none)
    {o : FailureOutputs}
    (hFails :
      publishFailure? table cfg hasDlqProducer context
        payload = some o) :
    ∃ masked subnet fields e handled,
      Masked masked subnet ∧
        publicFields payload = .ok fields ∧
        assertNoPiiLeak table
            (.ofList
              (eventEntries cfg context fields masked
                subnet)) = .error e ∧
        e.handled? = some handled ∧
        o =
          failureOutputs table hasDlqProducer payload true
            handled := by
  rcases masked_of_none hNone with
    ⟨masked, subnet, hPan, hIp, hMasked⟩
  unfold publishFailure? publish build at hFails
  rw [hPan, hIp] at hFails
  cases hFields : publicFields payload with
  | error e =>
      simp [hFields, liftRaised, bind, Except.bind,
        PublishError.handled?] at hFails
  | ok fields =>
      simp only [hFields, liftRaised, bind, Except.bind, pure,
        Except.pure] at hFails
      cases hLeak : assertNoPiiLeak table
          (.ofList
            (eventEntries cfg context fields masked
              subnet)) with
      | ok u => simp [hLeak] at hFails
      | error e =>
          simp only [hLeak, Option.map_eq_some_iff] at hFails
          rcases hFails with ⟨handled, hHandled, rfl⟩
          exact
            ⟨masked, subnet, fields, e, handled, hMasked,
              rfl, hLeak, hHandled, rfl⟩

/- A rejected payload leaves the traces of its rejection. -/
theorem publishFailure_of_rejection
    {table : TextTable}
    {cfg : Config}
    {hasDlqProducer : Bool}
    {context : BuildContext}
    {payload : JsonObject}
    {r : Rejection}
    (hRejected :
      rejection? table cfg.masking payload = some r)
    {o : FailureOutputs}
    (hFails :
      publishFailure? table cfg hasDlqProducer context
        payload = some o) :
    ∃ handled,
      (r.error table).handled? = some handled ∧
        o =
          failureOutputs table hasDlqProducer payload false
            handled := by
  unfold publishFailure? at hFails
  rw [publish_of_rejection table cfg context hRejected] at hFails
  rcases Option.map_eq_some_iff.1 hFails with
    ⟨handled, hHandled, rfl⟩
  exact ⟨handled, hHandled, rfl⟩

theorem exists_failure_of_rejection
    {table : TextTable}
    {cfg : Config}
    (hasDlqProducer : Bool)
    (context : BuildContext)
    {payload : JsonObject}
    {r : Rejection}
    (hRejected :
      rejection? table cfg.masking payload = some r) :
    ∃ o,
      publishFailure? table cfg hasDlqProducer context
        payload = some o := by
  rcases handled_error table r with ⟨handled, hHandled⟩
  unfold publishFailure?
  rw [publish_of_rejection table cfg context hRejected]
  exact ⟨_, Option.map_eq_some_iff.2 ⟨_, hHandled, rfl⟩⟩

/- The traces tell the exception and whether masking was
   done, and nothing else of a payload but its other
   fields. -/
theorem failureOutputs_inj
    {table : TextTable}
    {hasDlqProducer : Bool}
    {p q : JsonObject}
    (hRest : withoutSecrets p = withoutSecrets q)
    {applied applied' : Bool}
    {handled handled' : ErrorType × String} :
    failureOutputs table hasDlqProducer p applied handled =
        failureOutputs table hasDlqProducer q applied'
          handled' ↔
      applied = applied' ∧ handled = handled' := by
  constructor
  · intro hEq
    have hLog := congrArg FailureOutputs.log hEq
    have hApplied :=
      congrArg PublishFailedLog.maskingApplied hLog
    have hDetail := congrArg PublishFailedLog.detail hLog
    have hName := congrArg PublishFailedLog.errorType hLog
    have hType : handled.1 = handled'.1 := by
      revert hName
      cases hT : handled.1 <;> cases hT' : handled'.1 <;>
        simp [failureOutputs, handlePreSerialiseError,
          ErrorType.name, hT, hT']
    exact ⟨hApplied, Prod.ext hType hDetail⟩
  · rintro ⟨rfl, rfl⟩
    simp only [failureOutputs, handlePreSerialiseError,
      hRest]

/-
  Two payloads with the same public fields that fail leave
  the same traces exactly when the same check rejects both
  and quotes the same text.
-/
theorem publishFailure_eq_iff
    {table : TextTable}
    {cfg : Config}
    {hasDlqProducer : Bool}
    {context context' : BuildContext}
    {p q : JsonObject}
    (hRest : withoutSecrets p = withoutSecrets q)
    {o o' : FailureOutputs}
    (hFails :
      publishFailure? table cfg hasDlqProducer context p =
        some o)
    (hFails' :
      publishFailure? table cfg hasDlqProducer context' q =
        some o') :
    o = o' ↔
      rejection? table cfg.masking p =
        rejection? table cfg.masking q := by
  cases hP : rejection? table cfg.masking p with
  | some r =>
      rcases publishFailure_of_rejection hP hFails with
        ⟨handled, hHandled, rfl⟩
      cases hQ : rejection? table cfg.masking q with
      | some r' =>
          rcases publishFailure_of_rejection hQ hFails' with
            ⟨handled', hHandled', rfl⟩
          rw [failureOutputs_inj hRest, Option.some.injEq,
            ← Rejection.error_inj table
              (endsQuoted_of_rejection hP)
              (endsQuoted_of_rejection hQ)]
          constructor
          · rintro ⟨-, rfl⟩
            exact handled_inj hHandled hHandled'
          · intro hError
            rw [hError, hHandled'] at hHandled
            cases hHandled
            exact ⟨rfl, rfl⟩
      | none =>
          rcases publishFailure_of_none hQ hFails' with
            ⟨_, _, _, _, handled', _, _, _, _, rfl⟩
          rw [failureOutputs_inj hRest]
          simp
  | none =>
      rcases publishFailure_of_none hP hFails with
        ⟨masked, subnet, fields, e, handled, hMasked,
          hFields, hLeak, hHandled, rfl⟩
      cases hQ : rejection? table cfg.masking q with
      | some r' =>
          rcases publishFailure_of_rejection hQ hFails' with
            ⟨handled', hHandled', rfl⟩
          rw [failureOutputs_inj hRest]
          simp
      | none =>
          rcases publishFailure_of_none hQ hFails' with
            ⟨masked', subnet', fields', e', handled',
              hMasked', hFields', hLeak', hHandled', rfl⟩
          -- The guard stops at the same public field.
          rw [publicFields_of_rest hRest, hFields'] at hFields
          cases hFields
          rw [assertNoPiiLeak_congr table cfg context
            context' fields hMasked hMasked', hLeak'] at hLeak
          cases hLeak
          rw [hHandled'] at hHandled
          cases hHandled
          rw [failureOutputs_inj hRest]
          simp

end FraudStream

------------------------------------------------------------
-- A Mistyped Card Number
------------------------------------------------------------

namespace FraudStream

open TransactionEventBuilder

def asciiTable : TextTable where
  isPrintable := fun _ => false
  floatText := fun _ => ""

def apiConfig : Config where
  masking := ⟨24, 64⟩
  channel := "API"

def sampleContext : BuildContext where
  processingTime := 1700000000500
  uuid :=
    ⟨"6f1f7f4e-7a43-4a4f-9f0e-2b1d0c9b8a71", by decide⟩

/- A payload with a card number and an address. -/
def paymentPayload (card ip : String) : JsonObject :=
  .ofList
    [("transaction_id", .str "t-1"),
      ("account_id", .str "a-1"),
      ("merchant_id", .str "m-1"), ("amount", .str "10.00"),
      ("currency", .str "EUR"),
      ("event_time", .str "1700000000000"),
      ("card_number", .str card), ("caller_ip", .str ip),
      ("api_key_id", .str "k-1"),
      ("oauth_scope", .str "pay")]

theorem withoutSecrets_paymentPayload
    (card card' ip ip' : String) :
    withoutSecrets (paymentPayload card ip) =
      withoutSecrets (paymentPayload card' ip') := by
  rfl

theorem rejection_mistyped :
    rejection? asciiTable apiConfig.masking
          (paymentPayload "4111 1111 1111 111O"
            "203.0.113.7") =
        some (.panNotDigits "411111111111111O") ∧
      rejection? asciiTable apiConfig.masking
          (paymentPayload "5500 0000 0000 000O"
            "203.0.113.7") =
        some (.panNotDigits "550000000000000O") := by
  decide +kernel

/- A letter among the digits puts the rest of the number into
   the traces. -/
theorem mistyped_number_is_quoted :
    let p :=
      paymentPayload "4111 1111 1111 111O" "203.0.113.7"
    let q :=
      paymentPayload "5500 0000 0000 000O" "203.0.113.7"
    withoutSecrets p = withoutSecrets q ∧
      ∃ o o',
        publishFailure? asciiTable apiConfig true
            sampleContext p = some o ∧
          publishFailure? asciiTable apiConfig true
            sampleContext q = some o' ∧
          o.log.errorType = "InvalidPANError" ∧
          o'.log.errorType = "InvalidPANError" ∧
          o.log.detail =
            "PAN contains non-digit characters: " ++
              "'411111111111111O'" ∧
          o'.log.detail =
            "PAN contains non-digit characters: " ++
              "'550000000000000O'" ∧
          o ≠ o' := by
  intro p q
  have hP :
      publish asciiTable apiConfig sampleContext p = _ :=
    publish_of_rejection _ _ _ rejection_mistyped.1
  have hQ :
      publish asciiTable apiConfig sampleContext q = _ :=
    publish_of_rejection _ _ _ rejection_mistyped.2
  have hTexts :
      "PAN contains non-digit characters: " ++
            PyText.repr asciiTable.isPrintable
              "411111111111111O" =
          "PAN contains non-digit characters: " ++
            "'411111111111111O'" ∧
        "PAN contains non-digit characters: " ++
            PyText.repr asciiTable.isPrintable
              "550000000000000O" =
          "PAN contains non-digit characters: " ++
            "'550000000000000O'" := by
    decide +kernel
  refine
    ⟨withoutSecrets_paymentPayload _ _ _ _,
      failureOutputs asciiTable true p false
        (.invalidPANError, _),
      failureOutputs asciiTable true q false
        (.invalidPANError, _), ?_, ?_, rfl, rfl,
      hTexts.1, hTexts.2, ?_⟩
  · unfold publishFailure?
    rw [hP]
    rfl
  · unfold publishFailure?
    rw [hQ]
    rfl
  · intro hEq
    have hDetail :=
      congrArg (fun o => o.log.detail) hEq
    have hSame := hTexts.1.symm.trans (hDetail.trans hTexts.2)
    exact absurd hSame (by decide)

/- A failed Luhn check tells nothing of the number. -/
theorem luhn_failures_look_alike :
    let p :=
      paymentPayload "4111 1111 1111 1112" "203.0.113.7"
    let q :=
      paymentPayload "5500-0000-0000-0005" "198.51.100.9"
    ∃ o,
      publishFailure? asciiTable apiConfig true
          sampleContext p = some o ∧
        publishFailure? asciiTable apiConfig true
          sampleContext q = some o := by
  intro p q
  have hP :
      rejection? asciiTable apiConfig.masking p =
        some .panLuhn := by
    decide +kernel
  have hQ :
      rejection? asciiTable apiConfig.masking q =
        some .panLuhn := by
    decide +kernel
  rcases exists_failure_of_rejection true sampleContext hP
    with ⟨o, hFails⟩
  rcases exists_failure_of_rejection true sampleContext hQ
    with ⟨o', hFails'⟩
  have hSame : o = o' :=
    (publishFailure_eq_iff
      (withoutSecrets_paymentPayload _ _ _ _) hFails
      hFails').2 (hP.trans hQ.symm)
  exact ⟨o, hFails, hSame ▸ hFails'⟩

end FraudStream
