import FraudStream.Ingestion.Amounts

/-
  The checks of a payload before it is published.

  A payload is accepted when its ten required fields are
  true and its values pass five checks. The amount is
  compared with zero as a float and with nothing else.

  Key definitions include:
    * `validateRequiredFields`
    * `validateFieldValues`

  The main results are:
    * `Validated`
    * `validated_of_ok`
    * `publicFields_of_validated`
-/

------------------------------------------------------------
-- Validation
------------------------------------------------------------

namespace FraudStream

/- A validation error with its text, or an exception that is
   none. -/
inductive ValidationFault where
| rejected : (message : String) → ValidationFault
| raised : PyError → ValidationFault
deriving DecidableEq

def requiredFields : List String :=
  ["transaction_id", "account_id", "merchant_id", "amount",
    "currency", "event_time", "card_number", "caller_ip",
    "api_key_id", "oauth_scope"]

/- The text of a list of strings. -/
def listText
    (table : TextTable)
    (items : List String) : String :=
  JsonValue.repr table (.list (items.map .str))

def validateRequiredFields
    (table : TextTable)
    (payload : JsonObject) : Except ValidationFault Unit :=
  let missing :=
    requiredFields.filter
      (fun f => !(getOrNull payload f).truthy)
  if missing = [] then
    .ok ()
  else
    .error
      (.rejected
        ("Missing required fields: " ++
          listText table missing))

/- `f <= 0` -/
def isNonPositive : PyFloat → Bool
| .finite v => v ≤ 0
| .inf negative => negative
| .nan => false

/- A text or a value that is no number is an error of the
   payload; an integer too large for a float is not. -/
def amountErrors
    (amount : JsonValue) : Except PyError (List String) :=
  match amount.toFloat with
  | .ok f =>
      .ok
        (if isNonPositive f then
          ["amount must be > 0"]
        else
          [])
  | .error .typeError =>
      .ok ["amount must be a numeric value"]
  | .error .valueError =>
      .ok ["amount must be a numeric value"]
  | .error e => .error e

def currencyErrors : JsonValue → List String
| .str s =>
    if s.toList.length = 3 then
      []
    else
      ["currency must be a 3-character ISO-4217 code"]
| _ => ["currency must be a 3-character ISO-4217 code"]

/- A field that is empty or missing. -/
def emptyErrors
    (name : String)
    (value : JsonValue) : List String :=
  if value.truthy then
    []
  else
    [name ++ " must not be empty"]

/- The time is compared with the time of the server. -/
def eventTimeErrors
    (nowMs : Int) : JsonValue → Except PyError (List String)
| .null => .ok []
| v => do
    let eventTime ← v.toInt
    pure
      (if 5 * 60 * 1000 < |nowMs - eventTime| then
        ["event_time is more than 5 minutes from server time"]
      else
        [])

/- `payload.get(name, default)` -/
def getOrDefault
    (payload : JsonObject)
    (name : String)
    (default : JsonValue) : JsonValue :=
  (payload.get? name).getD default

/- All errors of the values of a payload. -/
def fieldErrors
    (nowMs : Int)
    (payload : JsonObject) :
    Except PyError (List String) := do
  let ofAmount ←
    amountErrors
      (getOrDefault payload "amount"
        (.int ⟨0, JsonInt.zero_short⟩))
  let ofEventTime ←
    eventTimeErrors nowMs (getOrNull payload "event_time")
  pure
    (ofAmount ++
      currencyErrors
        (getOrDefault payload "currency" (.str "")) ++
      emptyErrors "api_key_id"
        (getOrNull payload "api_key_id") ++
      emptyErrors "oauth_scope"
        (getOrNull payload "oauth_scope") ++
      ofEventTime)

def validateFieldValues
    (table : TextTable)
    (nowMs : Int)
    (payload : JsonObject) : Except ValidationFault Unit :=
  match fieldErrors nowMs payload with
  | .error e => .error (.raised e)
  | .ok [] => .ok ()
  | .ok errors =>
      .error
        (.rejected
          ("Field validation errors: " ++
            listText table errors))

/- Both checks, as a request makes them. -/
def validate
    (table : TextTable)
    (nowMs : Int)
    (payload : JsonObject) : Except ValidationFault Unit := do
  validateRequiredFields table payload
  validateFieldValues table nowMs payload

end FraudStream

------------------------------------------------------------
-- Accepted Payloads
------------------------------------------------------------

namespace FraudStream

open FallibleList TransactionEventBuilder

/- What holds of a payload that passes both checks. -/
structure Validated (payload : JsonObject) : Prop where
  required :
    ∀ name ∈ requiredFields,
      (getOrNull payload name).truthy = true
  amount :
    amountErrors (getOrNull payload "amount") = .ok []
  eventTime :
    ∃ t, (getOrNull payload "event_time").toInt = .ok t

/- A field that is true is there. -/
theorem get?_of_truthy
    {payload : JsonObject}
    {name : String}
    (hTruthy : (getOrNull payload name).truthy = true) :
    payload.get? name = some (getOrNull payload name) := by
  unfold getOrNull at hTruthy ⊢
  cases hGet : payload.get? name with
  | none =>
      rw [hGet] at hTruthy
      cases hTruthy
  | some v => rfl

theorem getItem_of_truthy
    {payload : JsonObject}
    {name : String}
    (hTruthy : (getOrNull payload name).truthy = true) :
    getItem payload name = .ok (getOrNull payload name) := by
  unfold getItem
  rw [get?_of_truthy hTruthy]

theorem required_of_ok
    {table : TextTable}
    {payload : JsonObject}
    (hOk : validateRequiredFields table payload = .ok ()) :
    ∀ name ∈ requiredFields,
      (getOrNull payload name).truthy = true := by
  unfold validateRequiredFields at hOk
  dsimp only at hOk
  split at hOk
  next hNone =>
    intro name hMem
    have hKept := List.filter_eq_nil_iff.1 hNone name hMem
    simpa using hKept
  next => cases hOk

/- The values of an accepted payload have no errors. -/
theorem fieldErrors_of_ok
    {table : TextTable}
    {nowMs : Int}
    {payload : JsonObject}
    (hOk : validateFieldValues table nowMs payload = .ok ()) :
    fieldErrors nowMs payload = .ok [] := by
  unfold validateFieldValues at hOk
  split at hOk
  · cases hOk
  · assumption
  · cases hOk

/- An integer is read from a time without errors. -/
theorem toInt_of_eventTimeErrors
    {nowMs : Int}
    {v : JsonValue}
    {errors : List String}
    (hTruthy : v.truthy = true)
    (hErrors : eventTimeErrors nowMs v = .ok errors) :
    ∃ t, v.toInt = .ok t := by
  unfold eventTimeErrors at hErrors
  split at hErrors
  · cases hTruthy
  · rcases (bind_ok_iff _ _ _).1 hErrors with ⟨t, hInt, -⟩
    exact ⟨t, hInt⟩

theorem validated_of_ok
    {table : TextTable}
    {nowMs : Int}
    {payload : JsonObject}
    (hOk : validate table nowMs payload = .ok ()) :
    Validated payload := by
  rcases (bind_ok_iff _ _ _).1 hOk with
    ⟨_, hFields, hValues⟩
  have hRequired := required_of_ok hFields
  have hAmountField :=
    get?_of_truthy (hRequired "amount" (by decide))
  have hErrors := fieldErrors_of_ok hValues
  unfold fieldErrors at hErrors
  simp only [bind_ok_iff] at hErrors
  rcases hErrors with ⟨ofAmount, hAmount, ofTime, hTime, hEq⟩
  simp only [pure, Except.pure, Except.ok.injEq,
    List.append_eq_nil_iff] at hEq
  refine ⟨hRequired, ?_, ?_⟩
  · rw [getOrDefault, hAmountField, hEq.1.1.1.1] at hAmount
    exact hAmount
  · exact
      toInt_of_eventTimeErrors
        (hRequired "event_time" (by decide)) hTime

/- The public fields of an accepted payload are those of an
   amount that is encoded. -/
theorem publicFields_of_validated
    {payload : JsonObject}
    {bytes : List UInt8}
    (hValid : Validated payload)
    (hBytes :
      encodeAmount (getOrNull payload "amount") =
        .ok bytes) :
    ∃ fields,
      publicFields payload = .ok fields ∧
        fields.amount = bytes := by
  rcases hValid.eventTime with ⟨t, hTime⟩
  have hItem
      (name : String)
      (hMem : name ∈ requiredFields) :
      getItem payload name = .ok (getOrNull payload name) :=
    getItem_of_truthy (hValid.required name hMem)
  unfold publicFields
  rw [hItem "amount" (by decide),
    hItem "account_id" (by decide),
    hItem "merchant_id" (by decide),
    hItem "currency" (by decide),
    hItem "event_time" (by decide),
    hItem "api_key_id" (by decide),
    hItem "oauth_scope" (by decide)]
  simp only [bind, Except.bind, hBytes, hTime, pure,
    Except.pure]
  exact ⟨_, rfl, rfl⟩

end FraudStream
