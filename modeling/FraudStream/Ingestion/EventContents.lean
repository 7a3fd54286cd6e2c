import FraudStream.Ingestion.FailurePath
import FraudStream.Library.FallibleList

/-
  What an event tells of the secret fields.

  An event holds the first six and the last four digits of
  the card number and the text of the network of the
  address. The text names the zone of an address that has no
  host bits, so the events of two payloads with the same
  digits and the same network bits can differ in the zone.

  Key definitions include:
    * `panEnds`
    * `sourceAddress?`
    * `AgreeOnNetwork`

  The main results are:
    * `build_ok`
    * `event_eq_iff`
-/

------------------------------------------------------------
-- The Fields Of A Built Event
------------------------------------------------------------

namespace FraudStream

open FallibleList TransactionEventBuilder

/- The first six and the last four characters of the card
   number without its separators. -/
def panEnds (payload : JsonObject) : List Char × List Char :=
  match payload.get? "card_number" with
  | some (.str s) =>
      let digits := (stripSeparators s).toList
      (digits.take 6, digits.drop (digits.length - 4))
  | _ => ([], [])

/- The address of a payload. -/
def sourceAddress?
    (payload : JsonObject) : Option IpAddress :=
  (payload.get? "caller_ip").bind ipAddress?

/- Addresses of the same version with the same network bits,
   by the prefix length of their version. -/
def AgreeOnNetwork
    (cfg : MaskingConfig)
    (a b : IpAddress) : Prop :=
  IpAddress.AgreeOn (cfg.prefixFor a).toNat a b

/- Stripping separators twice changes nothing. -/
theorem stripSeparators_stripSeparators
    (s : String) :
    stripSeparators (stripSeparators s) =
      stripSeparators s := by
  simp [stripSeparators, List.filter_filter]

/- Only the text of an address is read as an address again. -/
theorem networkOf?_text
    {table : TextTable}
    {ip : JsonValue}
    {addr : IpAddress}
    (hAddress : ipAddress? ip = some addr)
    {len : Int}
    {network : IpAddress}
    (hNetwork :
      IpAddress.networkOf? (ip.text table) len =
        some network) :
    network = addr.networkAddress len.toNat := by
  rcases Option.bind_eq_some_iff.1 hNetwork with
    ⟨addr', hText, hPrefix⟩
  cases ip with
  | str s =>
      rw [JsonValue.text] at hText
      have hSame : addr' = addr :=
        Option.some.inj (hText.symm.trans hAddress)
      rw [hSame] at hPrefix
      split at hPrefix
      · cases hPrefix
        rfl
      · cases hPrefix
  | int n =>
      have hDot : '.' ∉ (toString n.value).toList :=
        fun hMem =>
          absurd (PyText.mem_toString_int hMem) (by decide)
      have hColon : ':' ∉ (toString n.value).toList :=
        fun hMem =>
          absurd (PyText.mem_toString_int hMem) (by decide)
      rw [JsonValue.text, JsonValue.repr,
        IpAddress.ofText?_of_no_separator hDot
          hColon] at hText
      · cases hText
      · simp
  | bool b =>
      rw [JsonValue.text, JsonValue.repr,
        IpAddress.ofText?_of_no_separator
          (by cases b <;> decide)
          (by cases b <;> decide)] at hText
      · cases hText
      · simp
  | null => cases hAddress
  | float f => cases hAddress
  | list xs => cases hAddress
  | dict es => cases hAddress

end FraudStream

------------------------------------------------------------
-- Built Events
------------------------------------------------------------

namespace FraudStream

open FallibleList TransactionEventBuilder

/- A built event holds the ends of the card number and the
   text of the network of the address. -/
theorem build_ok
    {table : TextTable}
    {cfg : Config}
    {context : BuildContext}
    {payload : JsonObject}
    {event : TransactionEvent}
    (hBuild :
      build table cfg context payload = .ok event) :
    ∃ masked addr fields,
      masked.bin6 = .ofList (panEnds payload).1 ∧
        masked.last4 = .ofList (panEnds payload).2 ∧
        sourceAddress? payload = some addr ∧
        publicFields payload = .ok fields ∧
        event =
          .ofList
            (eventEntries cfg context fields masked
              (addr.networkAddress
                (cfg.masking.prefixFor addr).toNat).text) := by
  have hNone :
      rejection? table cfg.masking payload = none := by
    cases hRejected :
        rejection? table cfg.masking payload with
    | none => rfl
    | some r =>
        rw [build_of_rejection table cfg context
          hRejected] at hBuild
        cases hBuild
  rcases Option.or_eq_none_iff.1 hNone with ⟨hPan, hIp⟩
  rcases maskPan_of_none table hPan with ⟨s, hCard, hMasked⟩
  rcases maskIp_of_none table hIp with
    ⟨ip, addr, network, hField, hAddress, hNetwork,
      hSubnet⟩
  have hText := networkOf?_text hAddress hNetwork
  unfold build at hBuild
  rw [hMasked, hSubnet] at hBuild
  cases hFields : publicFields payload with
  | error e =>
      rw [hFields] at hBuild
      cases hBuild
  | ok fields =>
      simp only [hFields, liftRaised, bind, Except.bind, pure,
        Except.pure, Except.ok.injEq, hText] at hBuild
      refine
        ⟨_, addr, fields, ?_, ?_, ?_, rfl, hBuild.symm⟩
      · rw [panEnds, hCard, stripSeparators_stripSeparators]
      · rw [panEnds, hCard, stripSeparators_stripSeparators]
      · rw [sourceAddress?, hField]
        exact hAddress

theorem givenId_of_publicFields
    {payload : JsonObject}
    {fields : PublicFields}
    (hFields : publicFields payload = .ok fields) :
    fields.givenId = getOrNull payload "transaction_id" := by
  unfold publicFields at hFields
  simp only [bind_ok_iff] at hFields
  rcases hFields with
    ⟨_, -, _, -, _, -, _, -, _, -, _, -, _, -, _, -, _, -,
      hEq⟩
  cases hEq
  rfl

/- An identifier is given, or drawn anew for each event. -/
theorem transactionId_eq_iff
    (givenId : JsonValue)
    (uuid uuid' : Uuid) :
    transactionId givenId uuid =
        transactionId givenId uuid' ↔
      givenId.truthy ∨ uuid = uuid' := by
  unfold transactionId
  by_cases hGiven : givenId.truthy
  · simp [hGiven]
  · rw [if_neg hGiven, if_neg hGiven]
    cases uuid
    cases uuid'
    simp [hGiven]

/- Two events with the same public fields and the same ends of
   the card number. -/
theorem ofList_eventEntries_eq_iff
    (cfg : Config)
    (time : Int)
    (uuid uuid' : Uuid)
    (fields : PublicFields)
    {masked masked' : MaskedPAN}
    (hBin : masked.bin6 = masked'.bin6)
    (hLast : masked.last4 = masked'.last4)
    (subnet subnet' : String) :
    Dict.ofList
          (eventEntries cfg ⟨time, uuid⟩ fields masked
            subnet) =
        Dict.ofList
          (eventEntries cfg ⟨time, uuid'⟩ fields masked'
            subnet') ↔
      (fields.givenId.truthy ∨ uuid = uuid') ∧
        subnet = subnet' := by
  rw [Dict.ext_iff,
    Dict.entries_ofList (nodup_eventEntries ..),
    Dict.entries_ofList (nodup_eventEntries ..)]
  simp [eventEntries, EventValue.str, hBin, hLast,
    transactionId_eq_iff]

/-
  Two payloads that are accepted at the same time and agree
  in their public fields, in the ends of their card numbers
  and in the network of their addresses give the same event
  exactly when their identifier is given or drawn alike and
  their addresses keep the same zone.
-/
theorem event_eq_iff
    {table : TextTable}
    {cfg : Config}
    {time : Int}
    {uuid uuid' : Uuid}
    {p q : JsonObject}
    (hRest : withoutSecrets p = withoutSecrets q)
    {event event' : TransactionEvent}
    (hBuild : build table cfg ⟨time, uuid⟩ p = .ok event)
    (hBuild' : build table cfg ⟨time, uuid'⟩ q = .ok event')
    (hEnds : panEnds p = panEnds q)
    {a b : IpAddress}
    (hA : sourceAddress? p = some a)
    (hB : sourceAddress? q = some b)
    (hAgree : AgreeOnNetwork cfg.masking a b) :
    event = event' ↔
      ((getOrNull p "transaction_id").truthy ∨
          uuid = uuid') ∧
        a.keptScope (cfg.masking.prefixFor a).toNat =
          b.keptScope (cfg.masking.prefixFor a).toNat := by
  rcases build_ok hBuild with
    ⟨masked, addr, fields, hBin, hLast, hAddr, hFields, rfl⟩
  rcases build_ok hBuild' with
    ⟨masked', addr', fields', hBin', hLast', hAddr',
      hFields', rfl⟩
  cases hA.symm.trans hAddr
  cases hB.symm.trans hAddr'
  have hGiven := givenId_of_publicFields hFields
  rw [publicFields_of_rest hRest, hFields'] at hFields
  cases hFields
  have hPrefix :
      cfg.masking.prefixFor a = cfg.masking.prefixFor b := by
    cases a <;> cases b <;> first | rfl | exact hAgree.elim
  rw [ofList_eventEntries_eq_iff cfg time uuid uuid' fields
    (by rw [hBin, hBin', hEnds])
    (by rw [hLast, hLast', hEnds]), hGiven, ← hPrefix,
    IpAddress.text_networkAddress_eq_iff hAgree]

end FraudStream

------------------------------------------------------------
-- A Published Zone
------------------------------------------------------------

namespace FraudStream

open TransactionEventBuilder

/- The public fields of the payloads are accepted. -/
theorem publicFields_paymentPayload
    (card ip : String) :
    ∃ fields,
      publicFields (paymentPayload card ip) = .ok fields := by
  have hRest :
      publicFields (paymentPayload card ip) =
        publicFields (paymentPayload "" "") :=
    publicFields_of_rest
      (withoutSecrets_paymentPayload card "" ip "")
  have hOk :
      (publicFields (paymentPayload "" "")).isOk := by
    decide +kernel
  rw [hRest]
  cases hFields : publicFields (paymentPayload "" "") with
  | ok fields => exact ⟨fields, rfl⟩
  | error e =>
      rw [hFields] at hOk
      cases hOk

theorem exists_build
    {card ip : String}
    (hNone :
      rejection? asciiTable apiConfig.masking
        (paymentPayload card ip) = none) :
    ∃ event,
      build asciiTable apiConfig sampleContext
        (paymentPayload card ip) = .ok event := by
  rcases masked_of_none hNone with
    ⟨masked, subnet, hPan, hIp, -⟩
  rcases publicFields_paymentPayload card ip with
    ⟨fields, hFields⟩
  unfold build
  rw [hPan, hIp, hFields]
  exact ⟨_, rfl⟩

theorem subnet_of_build
    {table : TextTable}
    {cfg : Config}
    {context : BuildContext}
    {payload : JsonObject}
    {event : TransactionEvent}
    (hBuild :
      build table cfg context payload = .ok event)
    {a : IpAddress}
    (hA : sourceAddress? payload = some a) :
    event.get? "caller_ip_subnet" =
      some
        (.str
          (a.networkAddress
            (cfg.masking.prefixFor a).toNat).text) := by
  rcases build_ok hBuild with
    ⟨masked, addr, fields, -, -, hAddr, -, rfl⟩
  cases hA.symm.trans hAddr
  rw [Dict.get?_ofList (by simp [eventEntries])]
  simp [eventEntries, Dict.lookupEntries]

/- The address fe80:: in a zone. -/
def linkLocal
    (name : String)
    (nonempty : name ≠ "") : IpAddress :=
  .v6 (0xfe80#128 <<< 112) (some ⟨name, nonempty⟩)

/- The same card number is sent from an address of the same
   network, and the zone of the address is published. -/
theorem zone_is_published :
    let p :=
      paymentPayload "4111 1111 1111 1111" "fe80::%eth0"
    let q :=
      paymentPayload "4111 1111 1111 1111" "fe80::%wlan0"
    withoutSecrets p = withoutSecrets q ∧
      panEnds p = panEnds q ∧
      ∃ a b event event',
        sourceAddress? p = some a ∧
          sourceAddress? q = some b ∧
          AgreeOnNetwork apiConfig.masking a b ∧
          build asciiTable apiConfig sampleContext p =
            .ok event ∧
          build asciiTable apiConfig sampleContext q =
            .ok event' ∧
          event.get? "caller_ip_subnet" =
            some (.str "fe80::%eth0") ∧
          event'.get? "caller_ip_subnet" =
            some (.str "fe80::%wlan0") ∧
          event ≠ event' := by
  intro p q
  let a := linkLocal "eth0" (by decide)
  let b := linkLocal "wlan0" (by decide)
  have hA : sourceAddress? p = some a := by
    decide +kernel
  have hB : sourceAddress? q = some b := by
    decide +kernel
  have hTexts :
      (a.networkAddress 64).text = "fe80::%eth0" ∧
        (b.networkAddress 64).text = "fe80::%wlan0" := by
    decide +kernel
  have hP :
      rejection? asciiTable apiConfig.masking p = none := by
    decide +kernel
  have hQ :
      rejection? asciiTable apiConfig.masking q = none := by
    decide +kernel
  rcases exists_build hP with ⟨event, hBuild⟩
  rcases exists_build hQ with ⟨event', hBuild'⟩
  have hSubnet :
      event.get? "caller_ip_subnet" =
        some (.str "fe80::%eth0") := by
    rw [subnet_of_build hBuild hA]
    exact congrArg (fun s => some (EventValue.str s)) hTexts.1
  have hSubnet' :
      event'.get? "caller_ip_subnet" =
        some (.str "fe80::%wlan0") := by
    rw [subnet_of_build hBuild' hB]
    exact congrArg (fun s => some (EventValue.str s)) hTexts.2
  refine
    ⟨withoutSecrets_paymentPayload _ _ _ _, rfl, a, b, event,
      event', hA, hB, fun _ _ => rfl, hBuild, hBuild',
      hSubnet, hSubnet', ?_⟩
  intro hEq
  rw [hEq, hSubnet'] at hSubnet
  simp [EventValue.str] at hSubnet

/- Two card numbers and two hosts of a network give the same
   event. -/
theorem hosts_look_alike :
    let p :=
      paymentPayload "4111 1111 1111 1111" "fe80::1%eth0"
    let q := paymentPayload "411111-00002-1111" "fe80::2"
    build asciiTable apiConfig sampleContext p =
        build asciiTable apiConfig sampleContext q ∧
      (build asciiTable apiConfig sampleContext p).isOk := by
  intro p q
  let scope : IpScope := ⟨"eth0", by decide⟩
  let a : IpAddress := .v6 (0xfe80#128 <<< 112 ||| 1) scope
  let b : IpAddress := .v6 (0xfe80#128 <<< 112 ||| 2) none
  have hA : sourceAddress? p = some a := by
    decide +kernel
  have hB : sourceAddress? q = some b := by
    decide +kernel
  have hAgree : AgreeOnNetwork apiConfig.masking a b := by
    apply (IpAddress.masked_eq_iff _ _ _).1
    decide +kernel
  have hP :
      rejection? asciiTable apiConfig.masking p = none := by
    decide +kernel
  have hQ :
      rejection? asciiTable apiConfig.masking q = none := by
    decide +kernel
  rcases exists_build hP with ⟨event, hBuild⟩
  rcases exists_build hQ with ⟨event', hBuild'⟩
  have hSame : event = event' :=
    (event_eq_iff (withoutSecrets_paymentPayload _ _ _ _)
      hBuild hBuild' (by decide +kernel) hA hB hAgree).2
      ⟨.inr rfl, by decide +kernel⟩
  rw [hBuild, hBuild', hSame]
  exact ⟨rfl, rfl⟩

end FraudStream
