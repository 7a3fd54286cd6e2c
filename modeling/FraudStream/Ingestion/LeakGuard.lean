import FraudStream.Library.WordRun
import FraudStream.Ingestion.EventContents

/-
  What the leak guard finds.

  The pattern of the guard is a run of 15 to 19 digits
  between word boundaries, but the guard asks whether it
  matches a whole value, so that a run beside other text
  passes.

  Which characters are word characters is left to a table
  of the runtime.

  Key definitions include:
    * `ContainsPan`
    * `HasText`
    * `FindsPans`
    * `PublishesNoPan`

  The main results are:
    * `isPanText_iff_fullMatch`
    * `assertNoPiiLeak_eq_ok_iff`
    * `leakGuard_finds_iff`
-/

------------------------------------------------------------
-- The Pattern
------------------------------------------------------------

namespace FraudStream

/- `\d` -/
def isDecimal (c : Char) : Bool :=
  (Decimal.digit? c).isSome

/- `_PII_PATTERN.search(s)` -/
def ContainsPan
    (isWord : Char → Bool)
    (s : String) : Prop :=
  WordRun.Search isWord isDecimal 15 19 s.toList

/- `_PII_PATTERN.fullmatch(s)`, as the guard reads it. -/
theorem isPanText_iff_fullMatch
    {isWord : Char → Bool}
    (hWord : ∀ c, isDecimal c → isWord c)
    (s : String) :
    isPanText s ↔
      WordRun.FullMatch isWord isDecimal 15 19 s.toList := by
  rw [WordRun.fullMatch_iff hWord (by omega)]
  simp only [isPanText, Bool.and_eq_true,
    decide_eq_true_eq, List.all_eq_true, isDecimal,
    and_assoc]

end FraudStream

------------------------------------------------------------
-- The Guard
------------------------------------------------------------

namespace FraudStream

/- A string value of an event has a property. -/
def HasText
    (event : TransactionEvent)
    (p : String → Prop) : Prop :=
  ∃ e ∈ event.entries, ∃ s, e.2 = .str s ∧ p s

theorem hasText_isPanText_iff
    (event : TransactionEvent) :
    HasText event (fun s => isPanText s) ↔
      ∃ e ∈ event.entries, e.2.leaksPan := by
  have hLeaks :
      ∀ v : EventValue,
        (∃ s, v = .str s ∧ isPanText s) ↔ v.leaksPan := by
    intro v
    constructor
    · rintro ⟨s, rfl, hPan⟩
      exact hPan
    · intro hPan
      unfold EventValue.leaksPan at hPan
      split at hPan
      · rename_i s
        exact ⟨s, rfl, hPan⟩
      · cases hPan
  simp only [HasText, hLeaks]

/- The guard stops an event with the key of the card number
   or with a value that is a run of digits. -/
theorem assertNoPiiLeak_eq_ok_iff
    (table : TextTable)
    (event : TransactionEvent) :
    assertNoPiiLeak table event = .ok () ↔
      ¬ (event.contains "card_number" ∨
        HasText event (fun s => isPanText s)) := by
  rw [hasText_isPanText_iff]
  unfold assertNoPiiLeak
  by_cases hCard : event.contains "card_number"
  · simp [hCard]
  · cases hFind :
        event.entries.find? (fun e => e.2.leaksPan) with
    | none =>
        have hClear := List.find?_eq_none.1 hFind
        simp only [hCard, Bool.false_eq_true, if_false,
          false_or, true_iff]
        rintro ⟨e, hMem, hLeak⟩
        exact hClear e hMem hLeak
    | some e =>
        have hMem := List.mem_of_find?_eq_some hFind
        have hLeak := List.find?_some hFind
        simp only [hCard, Bool.false_eq_true, if_false,
          false_or, reduceCtorEq, false_iff, not_not]
        exact ⟨e, hMem, hLeak⟩

/- Whatever the guard raises is a masking error. -/
theorem assertNoPiiLeak_cases
    (table : TextTable)
    (event : TransactionEvent) :
    assertNoPiiLeak table event = .ok () ∨
      ∃ message,
        assertNoPiiLeak table event =
          .error (.masking message) := by
  unfold assertNoPiiLeak
  split
  · exact .inr ⟨_, rfl⟩
  · split
    · exact .inl rfl
    · exact .inr ⟨_, rfl⟩

/- An event with a run in a string value is stopped. -/
def FindsPans
    (isWord : Char → Bool)
    (table : TextTable)
    (event : TransactionEvent) : Prop :=
  HasText event (ContainsPan isWord) →
    ∃ message,
      assertNoPiiLeak table event = .error (.masking message)

theorem findsPans_iff
    (isWord : Char → Bool)
    (table : TextTable)
    (event : TransactionEvent) :
    FindsPans isWord table event ↔
      (HasText event (ContainsPan isWord) →
        event.contains "card_number" ∨
          HasText event (fun s => isPanText s)) := by
  have hRaised :
      (∃ message,
          assertNoPiiLeak table event =
            .error (.masking message)) ↔
        event.contains "card_number" ∨
          HasText event (fun s => isPanText s) := by
    rw [← not_iff_not, ← assertNoPiiLeak_eq_ok_iff table]
    rcases assertNoPiiLeak_cases table event with
      hOk | ⟨message, hError⟩
    · simp [hOk]
    · simp [hError]
  rw [FindsPans, hRaised]

end FraudStream

------------------------------------------------------------
-- Published Events
------------------------------------------------------------

namespace FraudStream

open TransactionEventBuilder

/- The fields of an event are not those of a payload. -/
theorem not_contains_card_number
    {table : TextTable}
    {cfg : Config}
    {context : BuildContext}
    {payload : JsonObject}
    {event : TransactionEvent}
    (hBuild :
      build table cfg context payload = .ok event) :
    event.contains "card_number" = false := by
  rcases build_ok hBuild with
    ⟨masked, addr, fields, -, -, -, -, rfl⟩
  rw [Dict.contains,
    Dict.get?_ofList (nodup_eventEntries ..)]
  simp [eventEntries, Dict.lookupEntries]

/- The values that an event takes from its payload as they
   are, the channel and the text of the network. -/
def suppliedValues
    (cfg : Config)
    (context : BuildContext)
    (payload : JsonObject) : List JsonValue :=
  [transactionId (getOrNull payload "transaction_id")
      context.uuid,
    getOrNull payload "account_id",
    getOrNull payload "merchant_id",
    getOrNull payload "currency",
    .str cfg.channel,
    .str
      ((sourceAddress? payload).elim "" (fun a =>
        (a.networkAddress
          (cfg.masking.prefixFor a).toNat).text)),
    getOrNull payload "api_key_id",
    getOrNull payload "oauth_scope",
    getOrNull payload "geo_lat",
    getOrNull payload "geo_lon"]

/- A string among some values has a property. -/
def AnyText
    (values : List JsonValue)
    (p : String → Prop) : Prop :=
  ∃ s, .str s ∈ values ∧ p s

theorem getOrNull_of_getItem
    {payload : JsonObject}
    {name : String}
    {v : JsonValue}
    (hItem : getItem payload name = .ok v) :
    getOrNull payload name = v := by
  unfold getItem at hItem
  unfold getOrNull
  cases hValue : payload.get? name with
  | none =>
      rw [hValue] at hItem
      cases hItem
  | some w =>
      rw [hValue] at hItem
      cases hItem
      rfl

open FallibleList in
/- The public fields are the values of the payload. -/
theorem publicFields_eq_ok
    {payload : JsonObject}
    {fields : PublicFields}
    (hFields : publicFields payload = .ok fields) :
    fields.accountId = getOrNull payload "account_id" ∧
      fields.merchantId = getOrNull payload "merchant_id" ∧
      fields.currency = getOrNull payload "currency" ∧
      fields.apiKeyId = getOrNull payload "api_key_id" ∧
      fields.oauthScope = getOrNull payload "oauth_scope" ∧
      fields.geoLat = getOrNull payload "geo_lat" ∧
      fields.geoLon = getOrNull payload "geo_lon" := by
  unfold publicFields at hFields
  simp only [bind_ok_iff] at hFields
  rcases hFields with
    ⟨_, -, _, -, accountId, hAccount, merchantId, hMerchant,
      currency, hCurrency, _, -, _, -, apiKeyId, hKey,
      oauthScope, hScope, hEq⟩
  cases hEq
  exact
    ⟨(getOrNull_of_getItem hAccount).symm,
      (getOrNull_of_getItem hMerchant).symm,
      (getOrNull_of_getItem hCurrency).symm,
      (getOrNull_of_getItem hKey).symm,
      (getOrNull_of_getItem hScope).symm, rfl, rfl⟩

theorem length_panEnds
    (payload : JsonObject) :
    (panEnds payload).1.length ≤ 6 ∧
      (panEnds payload).2.length ≤ 4 := by
  unfold panEnds
  split
  · simp only [List.length_take, List.length_drop]
    omega
  · simp

/- The ends of the card number and the versions are short. -/
theorem hasText_of_build
    {table : TextTable}
    {cfg : Config}
    {context : BuildContext}
    {payload : JsonObject}
    {event : TransactionEvent}
    (hBuild : build table cfg context payload = .ok event)
    {p : String → Prop}
    (hLong : ∀ s, p s → 15 ≤ s.toList.length) :
    HasText event p ↔
      AnyText (suppliedValues cfg context payload) p := by
  rcases build_ok hBuild with
    ⟨masked, addr, fields, hBin, hLast, hAddr, hFields, rfl⟩
  have hId := givenId_of_publicFields hFields
  rcases publicFields_eq_ok hFields with
    ⟨hAccount, hMerchant, hCurrency, hKey, hScope, hLat,
      hLon⟩
  have hEnds := length_panEnds payload
  have hNotBin : ¬ p masked.bin6 := by
    intro hHolds
    have hLength := hLong _ hHolds
    rw [hBin, String.toList_ofList] at hLength
    omega
  have hNotLast : ¬ p masked.last4 := by
    intro hHolds
    have hLength := hLong _ hHolds
    rw [hLast, String.toList_ofList] at hLength
    omega
  have hNotLibrary : ¬ p "1.0.0" :=
    fun hHolds => absurd (hLong _ hHolds) (by decide)
  have hNotSchema : ¬ p "1" :=
    fun hHolds => absurd (hLong _ hHolds) (by decide)
  unfold HasText AnyText
  rw [Dict.entries_ofList (nodup_eventEntries ..)]
  simp [eventEntries, suppliedValues, EventValue.str,
    or_and_right, exists_or, hAddr, hId, hAccount, hMerchant,
    hCurrency, hKey, hScope, hLat, hLon, hNotBin, hNotLast,
    hNotLibrary, hNotSchema, eq_comm]

theorem length_of_containsPan
    {isWord : Char → Bool}
    {s : String}
    (hContains : ContainsPan isWord s) :
    15 ≤ s.toList.length := by
  rcases hContains with ⟨before, run, after, hText, hMatch⟩
  have hLow := hMatch.lo_le
  rw [hText, List.length_append, List.length_append]
  omega

theorem length_of_isPanText
    {s : String}
    (hPan : isPanText s) :
    15 ≤ s.toList.length := by
  simp only [isPanText, Bool.and_eq_true,
    decide_eq_true_eq] at hPan
  exact hPan.1.1

theorem account_of_build
    {table : TextTable}
    {cfg : Config}
    {context : BuildContext}
    {payload : JsonObject}
    {event : TransactionEvent}
    (hBuild :
      build table cfg context payload = .ok event) :
    event.get? "account_id" =
      some (.value (getOrNull payload "account_id")) := by
  rcases build_ok hBuild with
    ⟨masked, addr, fields, -, -, -, hFields, rfl⟩
  rw [Dict.get?_ofList (nodup_eventEntries ..),
    ← (publicFields_eq_ok hFields).1]
  simp [eventEntries, Dict.lookupEntries]

section Publish

variable (isWord : Char → Bool)
variable (table : TextTable)
variable (cfg : Config)
variable (context : BuildContext)
variable (payload : JsonObject)

/- No event with a run in a string value is published. -/
def PublishesNoPan : Prop :=
  ∀ event,
    publish table cfg context payload = .ok event →
      ¬ HasText event (ContainsPan isWord)

/- The events that are published are those that are built
   and pass the guard. -/
theorem publish_eq_ok_iff
    (event : TransactionEvent) :
    publish table cfg context payload = .ok event ↔
      build table cfg context payload = .ok event ∧
        assertNoPiiLeak table event = .ok () := by
  unfold publish
  cases hBuild : build table cfg context payload with
  | error e => simp
  | ok built =>
      simp only [Except.ok.injEq]
      cases hGuard : assertNoPiiLeak table built with
      | error e =>
          constructor
          · exact nofun
          · rintro ⟨rfl, hPasses⟩
            rw [hGuard] at hPasses
            cases hPasses
      | ok u =>
          rw [Except.ok.injEq]
          constructor
          · rintro rfl
            exact ⟨rfl, hGuard⟩
          · exact fun hBoth => hBoth.1

theorem publishesNoPan_iff :
    PublishesNoPan isWord table cfg context payload ↔
      ((build table cfg context payload).isOk →
        AnyText (suppliedValues cfg context payload)
            (ContainsPan isWord) →
          AnyText (suppliedValues cfg context payload)
            (fun s => isPanText s)) := by
  unfold PublishesNoPan
  cases hBuild : build table cfg context payload with
  | error e =>
      simp [publish_eq_ok_iff, hBuild, Except.isOk,
        Except.toBool]
  | ok built =>
      have hContains :
          HasText built (ContainsPan isWord) ↔
            AnyText (suppliedValues cfg context payload)
              (ContainsPan isWord) :=
        hasText_of_build hBuild
          (fun _ => length_of_containsPan)
      have hPan :
          HasText built (fun s => isPanText s) ↔
            AnyText (suppliedValues cfg context payload)
              (fun s => isPanText s) :=
        hasText_of_build hBuild
          (fun _ => length_of_isPanText)
      have hPublish :
          ∀ event,
            publish table cfg context payload = .ok event ↔
              built = event ∧
                ¬ HasText built (fun s => isPanText s) := by
        intro event
        rw [publish_eq_ok_iff, hBuild, Except.ok.injEq]
        apply and_congr_right
        rintro rfl
        rw [assertNoPiiLeak_eq_ok_iff,
          not_contains_card_number hBuild]
        simp only [Bool.false_eq_true, false_or]
      rw [← hContains, ← hPan]
      simp only [hPublish, and_imp, forall_eq',
        Except.isOk, Except.toBool, true_imp_iff]
      exact not_imp_not

end Publish

/- The guard finds the runs in the string values of an event
   when the key of the card number is present or a value is
   a run, and no event with a run is published when a payload
   that is built into one supplies a value that is a run. -/
theorem leakGuard_finds_iff
    (isWord : Char → Bool)
    (table : TextTable) :
    (∀ event,
      FindsPans isWord table event ↔
        (HasText event (ContainsPan isWord) →
          event.contains "card_number" ∨
            HasText event (fun s => isPanText s))) ∧
      ∀ cfg context payload,
        PublishesNoPan isWord table cfg context payload ↔
          ((build table cfg context payload).isOk →
            AnyText (suppliedValues cfg context payload)
                (ContainsPan isWord) →
              AnyText (suppliedValues cfg context payload)
                (fun s => isPanText s)) :=
  ⟨findsPans_iff isWord table,
    publishesNoPan_iff isWord table⟩

/- Letters, digits of all scripts and the underscore. -/
def isAsciiWord (c : Char) : Bool :=
  c.isAlphanum || c = '_' || isDecimal c

/- A payload whose account names a card number. -/
def namedCardPayload : JsonObject :=
  (paymentPayload "4111 1111 1111 1111" "203.0.113.7").put
    "account_id" (.str "acct 4111111111111111")

theorem account_mem_suppliedValues :
    .str "acct 4111111111111111" ∈
      suppliedValues apiConfig sampleContext
        namedCardPayload :=
  List.mem_cons_of_mem _ List.mem_cons_self

/- No value of the payload is a run. -/
theorem no_supplied_run :
    (suppliedValues apiConfig sampleContext
      namedCardPayload).all (fun v =>
        match v with
        | .str s => !isPanText s
        | _ => true) := by
  decide +kernel

/- The number behind a word passes the guard. -/
theorem embedded_number_is_published :
    ContainsPan isAsciiWord "acct 4111111111111111" ∧
      ∃ event,
        publish asciiTable apiConfig sampleContext
            namedCardPayload = .ok event ∧
          event.get? "account_id" =
            some (.str "acct 4111111111111111") ∧
          ¬ FindsPans isAsciiWord asciiTable event ∧
          ¬ PublishesNoPan isAsciiWord asciiTable apiConfig
            sampleContext namedCardPayload := by
  have hContains :
      ContainsPan isAsciiWord "acct 4111111111111111" := by
    refine
      ⟨"acct ".toList, "4111111111111111".toList, [], by
        decide +kernel, ?_⟩
    exact
      ⟨by decide, by decide,
        List.all_eq_true.1 (by decide +kernel),
        by unfold WordRun.IsBoundary; decide +kernel,
        by unfold WordRun.IsBoundary; decide +kernel⟩
  have hBuilt :
      (build asciiTable apiConfig sampleContext
        namedCardPayload).isOk := by
    decide +kernel
  cases hBuild :
      build asciiTable apiConfig sampleContext
        namedCardPayload with
  | error e =>
      rw [hBuild] at hBuilt
      cases hBuilt
  | ok event =>
      have hText : HasText event (ContainsPan isAsciiWord) :=
        (hasText_of_build hBuild
          (fun _ => length_of_containsPan)).2
          ⟨_, account_mem_suppliedValues, hContains⟩
      have hNoPan :
          ¬ HasText event (fun s => isPanText s) := by
        rw [hasText_of_build hBuild
          (fun _ => length_of_isPanText)]
        rintro ⟨s, hMem, hPan⟩
        have hClear :=
          List.all_eq_true.1 no_supplied_run _ hMem
        simp [hPan] at hClear
      have hOk :=
        (publish_eq_ok_iff _ _ _ _ event).2
          ⟨hBuild,
            (assertNoPiiLeak_eq_ok_iff asciiTable event).2
              (not_or.2
                ⟨by simp [not_contains_card_number hBuild],
                  hNoPan⟩)⟩
      refine
        ⟨hContains, event, hOk, account_of_build hBuild, ?_,
          fun hNone => hNone event hOk hText⟩
      intro hFinds
      rcases hFinds hText with ⟨message, hError⟩
      have hPasses :=
        ((publish_eq_ok_iff _ _ _ _ event).1 hOk).2
      rw [hError] at hPasses
      cases hPasses

end FraudStream
