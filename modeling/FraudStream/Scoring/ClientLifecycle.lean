import FraudStream.Library.FallibleList
import FraudStream.Scoring.FeatureServing

/-
  The feature client over its lifecycle.

  A client is opened and closed any number of times, and
  each retrieval meets an answer of the store: none within
  the timeout, an exception, or a reply whose values are of
  any type. The request is submitted outside the `try`.

  Key definitions include:
    * `ServingSession.PyObject`
    * `ServingSession.StoreAnswer`
    * `ServingSession.getFeatures`
    * `ServingSession.retrievals`
    * `ServingSession.NeverFails`
    * `ServingSession.Unharmed`

  Main results:
    * `ServingSession.getFeatures_scalars`
    * `ServingSession.vectorOf_eq_ok`
    * `ServingSession.retrieval_never_fails_iff`
-/

------------------------------------------------------------
-- Replies Of The Store
------------------------------------------------------------

namespace FraudStream

namespace ServingSession

/- What the store or one of its values raises: a timeout
   error, another `Exception` and its text, which is missing
   when `str(exc)` raises, or no `Exception` at all. -/
inductive Raised where
| timeoutError
| exception : (text : Option String) → Raised
| baseException
deriving DecidableEq, Repr

/- The operations of the client on a value of the store. -/
structure PyObject (ν : Type) where
  isNone : ν → Bool
  truthy : ν → Except Raised Bool
  toInt : ν → Except Raised Int
  toFloat : ν → Except Raised PyFloat
  toText : ν → Except Raised String

variable {ν : Type}

/- The items of `to_dict()`, each with its `v[0]`. -/
abbrev Reply (ν : Type) := List (String × Except Raised ν)

/- What a retrieval meets. -/
inductive StoreAnswer (ν : Type) where
| late
| raised : Raised → StoreAnswer ν
| reply : Reply ν → StoreAnswer ν

/- `{k: v[0] for k, v in raw.items() if k != "account_id"}`,
   before later keys overwrite earlier ones. -/
def firstEntries :
    Reply ν → Except Raised (List (String × ν))
| [] => .ok []
| (name, value) :: rest =>
    if name = "account_id" then
      firstEntries rest
    else do
      let x ← value
      let xs ← firstEntries rest
      pure ((name, x) :: xs)

def firstValues
    (reply : Reply ν) : Except Raised (Dict String ν) :=
  (firstEntries reply).map Dict.ofList

variable (ops : PyObject ν)

def allNone (values : Dict String ν) : Bool :=
  values.entries.all (fun e => ops.isNone e.2)

def anyNone (values : Dict String ν) : Bool :=
  values.entries.any (fun e => ops.isNone e.2)

/- `convert(values.get(name) or default)`, for a default
   that `convert` leaves as it is. -/
def readOr
    {β : Type}
    (convert : ν → Except Raised β)
    (default : β)
    (values : Dict String ν)
    (name : String) : Except Raised β :=
  match values.get? name with
  | none => .ok default
  | some value => do
      if ← ops.truthy value then
        convert value
      else
        pure default

def intValue :
    Dict String ν → String → Except Raised Int :=
  readOr ops ops.toInt 0

def floatValue :
    Dict String ν → String → Except Raised PyFloat :=
  readOr ops ops.toFloat (.finite 0)

def textValue :
    Dict String ν → String → Except Raised String :=
  readOr ops ops.toText ""

/- `bool(values.get(name) or False)` -/
def boolValue :
    Dict String ν → String → Except Raised Bool :=
  readOr ops ops.truthy false

/- The vector of a reply without nulls. -/
def vectorOf
    (values : Dict String ν)
    (accountId : String) : Except Raised FeatureVector := do
  let velCount1m ← intValue ops values "vel_count_1m"
  let velAmount1m ← floatValue ops values "vel_amount_1m"
  let velCount5m ← intValue ops values "vel_count_5m"
  let velAmount5m ← floatValue ops values "vel_amount_5m"
  let velCount1h ← intValue ops values "vel_count_1h"
  let velAmount1h ← floatValue ops values "vel_amount_1h"
  let velCount24h ← intValue ops values "vel_count_24h"
  let velAmount24h ← floatValue ops values "vel_amount_24h"
  let geoCountry ← textValue ops values "geo_country"
  let geoCity ← textValue ops values "geo_city"
  let geoNetworkClass ←
    textValue ops values "geo_network_class"
  let geoConfidence ← floatValue ops values "geo_confidence"
  let deviceFirstSeen ←
    intValue ops values "device_first_seen"
  let deviceTxnCount ←
    intValue ops values "device_txn_count"
  let deviceKnownFraud ←
    boolValue ops values "device_known_fraud"
  let prevGeoCountry ←
    textValue ops values "prev_geo_country"
  let prevTxnTimeMs ←
    intValue ops values "prev_txn_time_ms"
  pure
    { accountId := accountId
      velCount1m := velCount1m
      velAmount1m := velAmount1m
      velCount5m := velCount5m
      velAmount5m := velAmount5m
      velCount1h := velCount1h
      velAmount1h := velAmount1h
      velCount24h := velCount24h
      velAmount24h := velAmount24h
      geoCountry := geoCountry
      geoCity := geoCity
      geoNetworkClass := geoNetworkClass
      geoConfidence := geoConfidence
      deviceFirstSeen := deviceFirstSeen
      deviceTxnCount := deviceTxnCount
      deviceKnownFraud := deviceKnownFraud
      prevGeoCountry := prevGeoCountry
      prevTxnTimeMs := prevTxnTimeMs }

end ServingSession

end FraudStream

------------------------------------------------------------
-- Retrievals
------------------------------------------------------------

namespace FraudStream

namespace ServingSession

open FeatureServingClient

variable {ν : Type}

/- The executor of a client that was opened. -/
inductive Executor where
| running
| shutDown
deriving DecidableEq

/- What leaves `get_features` as an exception: the refusal
   of `submit`, or what the store raised. -/
inductive Escaped where
| afterShutdown
| fromStore : Raised → Escaped
deriving DecidableEq, Repr

/- The result of a call and the counter increments. -/
abbrev Retrieved :=
  Except Escaped FeatureVector × List ServingMetric

/- The two handlers. The second one writes `str(exc)`. -/
def handle
    (accountId : String) : Raised → Retrieved
| .timeoutError =>
    (.ok (zeroFor accountId),
      [.featureStoreFallback .timeout])
| .exception (some _) =>
    (.ok (zeroFor accountId),
      [.featureStoreFallback .unavailable])
| .exception none =>
    (.error (.fromStore (.exception none)),
      [.featureStoreFallback .unavailable])
| .baseException => (.error (.fromStore .baseException), [])

variable (ops : PyObject ν)

/- The `try` block once the reply is there. -/
def serve
    (accountId : String)
    (reply : Reply ν) :
    Except Raised (FeatureVector × List ServingMetric) := do
  let values ← firstValues reply
  if allNone ops values then
    pure (zeroFor accountId, [.featureStoreMiss])
  else if anyNone ops values then
    pure (zeroFor accountId, [.featureStoreMiss])
  else
    let vector ← vectorOf ops values accountId
    pure (vector, [])

/- The `try` block and its handlers. -/
def answered
    (accountId : String) : StoreAnswer ν → Retrieved
| .late =>
    (.ok (zeroFor accountId),
      [.featureStoreFallback .timeout])
| .raised e => handle accountId e
| .reply reply =>
    match serve ops accountId reply with
    | .ok (vector, metrics) => (.ok vector, metrics)
    | .error e => handle accountId e

/- `get_features`: a client that was never opened answers at
   once, and an executor that is shut down refuses. -/
def getFeatures
    (executor : Option Executor)
    (accountId : String)
    (answer : StoreAnswer ν) : Retrieved :=
  match executor with
  | none => (.ok (zeroFor accountId), [])
  | some .shutDown => (.error .afterShutdown, [])
  | some .running => answered ops accountId answer

/- The calls on a client. -/
inductive Operation (ν : Type) where
| openClient
| closeClient
| getFeatures : (accountId : String) → StoreAnswer ν →
    Operation ν

/- The executor after a call. `close` keeps the reference to
   the executor that it shuts down. -/
def executorAfter
    (executor : Option Executor) :
    Operation ν → Option Executor
| .openClient => some .running
| .closeClient => executor.map (fun _ => .shutDown)
| .getFeatures _ _ => executor

/- A call of `get_features` and the executor it finds. -/
structure Retrieval (ν : Type) where
  executor : Option Executor
  accountId : String
  answer : StoreAnswer ν

/- The calls of `get_features` in a sequence of calls. -/
def retrievals
    (executor : Option Executor) :
    List (Operation ν) → List (Retrieval ν)
| [] => []
| .getFeatures accountId answer :: operations =>
    ⟨executor, accountId, answer⟩ ::
      retrievals executor operations
| operation :: operations =>
    retrievals (executorAfter executor operation) operations

/- The calls on a new client. -/
def session
    (operations : List (Operation ν)) :
    List (Retrieval ν) :=
  retrievals none operations

def Retrieval.result (r : Retrieval ν) : Retrieved :=
  getFeatures ops r.executor r.accountId r.answer

end ServingSession

end FraudStream

------------------------------------------------------------
-- Scalar Values
------------------------------------------------------------

namespace FraudStream

namespace ServingSession

open FeatureServingClient

def raisedBy (_ : PyError) : Raised :=
  .exception (some "")

/- Scalars as values of the store. -/
def scalars (textOf : Scalar → String) : PyObject Scalar where
  isNone := fun x => x = .none
  truthy := fun x => .ok x.truthy
  toInt := fun x => x.toInt.mapError raisedBy
  toFloat := fun x => x.toFloat.mapError raisedBy
  toText := fun x =>
    match x with
    | .str s => .ok s
    | x => .ok (textOf x)

variable (textOf : Scalar → String)

/- The reply of a record. -/
def replyOf (raw : Record) : Reply Scalar :=
  raw.entries.map (fun e => (e.1, .ok e.2))

/- What a response within the timeout is to the session. -/
def answerOf : StoreResponse → StoreAnswer Scalar
| .features raw => .reply (replyOf raw)
| .timeout => .late
| .failure exc => .raised (.exception (some exc))

theorem firstEntries_map
    (entries : List (String × Scalar)) :
    firstEntries (entries.map (fun e => (e.1, .ok e.2))) =
      .ok (entries.filter (fun e => e.1 ≠ "account_id")) := by
  induction entries with
  | nil => rfl
  | cons e entries ih =>
      rw [List.map_cons, firstEntries, ih]
      by_cases hAccount : e.1 = "account_id"
      · simp [hAccount]
      · simp only [hAccount, if_false, ne_eq,
          not_false_eq_true, decide_true,
          List.filter_cons_of_pos]
        rfl

theorem firstValues_replyOf
    (raw : Record) :
    firstValues (replyOf raw) = .ok (valuesOf raw) := by
  have hValues :
      Dict.ofList
          (raw.entries.filter
            (fun e => e.1 ≠ "account_id")) =
        valuesOf raw := by
    apply Dict.ext
    exact Dict.entries_ofList (valuesOf raw).nodupKeys
  rw [firstValues, replyOf, firstEntries_map, ← hValues]
  rfl

/- A conversion of scalars that leaves the default as it
   is. -/
theorem readOr_scalars
    {β : Type}
    (convert : Scalar → Except PyError β)
    (default : Scalar)
    {zero : β}
    (hDefault : convert default = .ok zero)
    (values : Record)
    (name : String) :
    readOr (scalars textOf)
        (fun x => (convert x).mapError raisedBy) zero values
        name =
      (convert ((values.get name).orElse default)).mapError
        raisedBy := by
  rw [readOr, Record.get]
  cases values.get? name with
  | none =>
      rw [Option.getD_none, Scalar.orElse]
      simp [Scalar.truthy, hDefault, Except.mapError]
  | some x =>
      rw [Option.getD_some, Scalar.orElse]
      cases hTruthy : x.truthy with
      | true => simp [scalars, hTruthy, bind, Except.bind]
      | false =>
          simp [scalars, hTruthy, hDefault, bind,
            Except.bind, pure, Except.pure, Except.mapError]

theorem intValue_scalars
    (values : Record)
    (name : String) :
    intValue (scalars textOf) values name =
      (FeatureServingClient.intValue values name).mapError
        raisedBy :=
  readOr_scalars textOf Scalar.toInt (.int 0) rfl values name

theorem floatValue_scalars
    (values : Record)
    (name : String) :
    floatValue (scalars textOf) values name =
      (FeatureServingClient.floatValue values name).mapError
        raisedBy :=
  readOr_scalars textOf Scalar.toFloat (.float (.finite 0))
    rfl values name

/- `str(x)` of a scalar. -/
def scalarText (x : Scalar) : String :=
  match x with
  | .str s => s
  | x => textOf x

theorem textValue_scalars
    (values : Record)
    (name : String) :
    textValue (scalars textOf) values name =
      .ok (FeatureServingClient.textValue textOf values
        name) := by
  have hText :
      (scalars textOf).toText =
        fun x =>
          (Except.ok (scalarText textOf x)).mapError
            raisedBy := by
    funext x
    cases x <;> rfl
  rw [textValue, hText]
  exact
    readOr_scalars textOf
      (fun x => .ok (scalarText textOf x)) (.str "") rfl
      values name

theorem boolValue_scalars
    (values : Record)
    (name : String) :
    boolValue (scalars textOf) values name =
      .ok (FeatureServingClient.boolValue values name) :=
  readOr_scalars textOf (fun x => .ok x.truthy) (.bool false)
    rfl values name

/- Mapping the error of a sequence of two steps. -/
theorem mapError_bind
    {α β : Type}
    (x : Except PyError α)
    (f : α → Except PyError β) :
    (x >>= f).mapError raisedBy =
      x.mapError raisedBy >>=
        fun a => (f a).mapError raisedBy := by
  cases x <;> rfl

theorem vectorOf_scalars
    (values : Record)
    (accountId : String) :
    vectorOf (scalars textOf) values accountId =
      (populated textOf values accountId).mapError
        raisedBy := by
  simp only [vectorOf, populated, mapError_bind,
    intValue_scalars, floatValue_scalars, textValue_scalars,
    boolValue_scalars]
  rfl

/- An opened client that is not closed answers as
   `FeatureServingClient.getFeatures` does. -/
theorem getFeatures_scalars
    (opened : Bool)
    (response : StoreResponse)
    (accountId : String) :
    getFeatures (scalars textOf)
        (if opened then some .running else none) accountId
        (answerOf response) =
      (.ok (FeatureServingClient.getFeatures textOf opened
          response accountId).1,
        (FeatureServingClient.getFeatures textOf opened
          response accountId).2) := by
  cases opened with
  | false => rfl
  | true =>
      cases response with
      | timeout => rfl
      | failure exc => rfl
      | features raw =>
          have hServe :
              serve (scalars textOf) accountId
                  (replyOf raw) =
                if FeatureServingClient.allNone
                    (valuesOf raw) then
                  .ok (zeroFor accountId,
                    [.featureStoreMiss])
                else if FeatureServingClient.anyNone
                    (valuesOf raw) then
                  .ok (zeroFor accountId,
                    [.featureStoreMiss])
                else
                  ((populated textOf (valuesOf raw)
                    accountId).mapError raisedBy).map
                      (·, []) := by
            rw [serve, firstValues_replyOf,
              ← vectorOf_scalars]
            rfl
          simp only [if_true, getFeatures, answerOf,
            answered, hServe,
            FeatureServingClient.getFeatures]
          cases FeatureServingClient.allNone
              (valuesOf raw) with
          | true => rfl
          | false =>
              cases FeatureServingClient.anyNone
                  (valuesOf raw) with
              | true => rfl
              | false =>
                  cases populated textOf (valuesOf raw)
                      accountId <;> rfl

end ServingSession

end FraudStream

------------------------------------------------------------
-- The Columns Of A Vector
------------------------------------------------------------

namespace FraudStream

namespace ServingSession

open FallibleList FeatureServingClient

variable {ν : Type}
variable (ops : PyObject ν)

/- A field of a feature vector. -/
inductive Field where
| int : Int → Field
| float : PyFloat → Field
| text : String → Field
| flag : Bool → Field
deriving DecidableEq

inductive FieldKind where
| int
| float
| text
| flag
deriving DecidableEq

/- The default that a missing or false value reads as. -/
def FieldKind.zero : FieldKind → Field
| .int => .int 0
| .float => .float (.finite 0)
| .text => .text ""
| .flag => .flag false

/- The columns that a vector is made of, in order. -/
def featureColumns : List (String × FieldKind) :=
  [("vel_count_1m", .int),
    ("vel_amount_1m", .float),
    ("vel_count_5m", .int),
    ("vel_amount_5m", .float),
    ("vel_count_1h", .int),
    ("vel_amount_1h", .float),
    ("vel_count_24h", .int),
    ("vel_amount_24h", .float),
    ("geo_country", .text),
    ("geo_city", .text),
    ("geo_network_class", .text),
    ("geo_confidence", .float),
    ("device_first_seen", .int),
    ("device_txn_count", .int),
    ("device_known_fraud", .flag),
    ("prev_geo_country", .text),
    ("prev_txn_time_ms", .int)]

/- What one column of a reply reads as. -/
def readField
    (values : Dict String ν)
    (column : String × FieldKind) : Except Raised Field :=
  match column.2 with
  | .int => .int <$> intValue ops values column.1
  | .float => .float <$> floatValue ops values column.1
  | .text => .text <$> textValue ops values column.1
  | .flag => .flag <$> boolValue ops values column.1

/- The fields of a vector beside its account, in order. -/
def fieldsOf (v : FeatureVector) : List Field :=
  [.int v.velCount1m, .float v.velAmount1m,
    .int v.velCount5m, .float v.velAmount5m,
    .int v.velCount1h, .float v.velAmount1h,
    .int v.velCount24h, .float v.velAmount24h,
    .text v.geoCountry, .text v.geoCity,
    .text v.geoNetworkClass, .float v.geoConfidence,
    .int v.deviceFirstSeen, .int v.deviceTxnCount,
    .flag v.deviceKnownFraud, .text v.prevGeoCountry,
    .int v.prevTxnTimeMs]

theorem fields_vectorOf
    (values : Dict String ν)
    (accountId : String) :
    fieldsOf <$> vectorOf ops values accountId =
      featureColumns.mapM (readField ops values) := by
  simp only [vectorOf, featureColumns, readField,
    List.mapM_cons, List.mapM_nil, map_bind, map_pure,
    bind_map_left, bind_assoc, pure_bind]
  rfl

end ServingSession

end FraudStream

------------------------------------------------------------
-- What A Retrieval Promises
------------------------------------------------------------

namespace FraudStream

namespace ServingSession

open FallibleList FeatureServingClient

variable {ν : Type}
variable (ops : PyObject ν)

/- The values have a column for every field of a vector and
   no null. -/
structure CompleteReply (values : Dict String ν) : Prop where
  columns :
    ∀ column ∈ featureColumns,
      (values.get? column.1).isSome = true
  nullFree : anyNone ops values = false

/- Every field of the vector is read from one complete
   reply. -/
def ServedFrom
    (accountId : String)
    (answer : StoreAnswer ν)
    (vector : FeatureVector) : Prop :=
  ∃ reply values,
    answer = .reply reply ∧
      firstValues reply = .ok values ∧
      CompleteReply ops values ∧
      vector.accountId = accountId ∧
      List.Forall₂
        (fun column field =>
          readField ops values column = .ok field)
        featureColumns (fieldsOf vector)

/- The retrieval returns, with the zero vector of the account
   or with a vector from one complete reply. -/
def NeverFails (r : Retrieval ν) : Prop :=
  ∃ vector,
    (r.result ops).1 = .ok vector ∧
      (vector = zeroFor r.accountId ∨
        ServedFrom ops r.accountId r.answer vector)

/- The handlers absorb the exception. -/
def Raised.Caught : Raised → Prop
| .timeoutError => True
| .exception text => text.isSome = true
| .baseException => False

/- The reply counts as a miss: it is empty or has a null. -/
def Misses (values : Dict String ν) : Prop :=
  values.entries = [] ∨ anyNone ops values = true

/- The first exception of reading the columns in order. -/
def columnFault
    (values : Dict String ν) : Option Raised :=
  featureColumns.findSome?
    (fun column => error? (readField ops values column))

/- No column reads as anything but its default. -/
def ReadsZero (values : Dict String ν) : Prop :=
  ∀ column ∈ featureColumns,
    readField ops values column = .ok column.2.zero

/- Values that are served as promised: what reading them
   raises is caught, and without a miss either every column
   is there or every column reads as its default. -/
def HarmlessValues (values : Dict String ν) : Prop :=
  Misses ops values ∨
    match columnFault ops values with
    | some e => e.Caught
    | none =>
        (∀ column ∈ featureColumns,
            (values.get? column.1).isSome = true) ∨
          ReadsZero ops values

/- An answer that is served as promised. -/
def Harmless : StoreAnswer ν → Prop
| .late => True
| .raised e => e.Caught
| .reply reply =>
    match firstValues reply with
    | .error e => e.Caught
    | .ok values => HarmlessValues ops values

/- The executor is not shut down, and an open client meets a
   harmless answer. -/
def Unharmed (r : Retrieval ν) : Prop :=
  r.executor ≠ some .shutDown ∧
    (r.executor = some .running → Harmless ops r.answer)

end ServingSession

end FraudStream

------------------------------------------------------------
-- When It Is Kept
------------------------------------------------------------

namespace FraudStream

namespace ServingSession

open FallibleList FeatureServingClient

variable {ν : Type}
variable {ops : PyObject ν}

/- A vector is its account and its fields. -/
theorem eq_of_fieldsOf
    {v v' : FeatureVector}
    (hAccount : v.accountId = v'.accountId)
    (hFields : fieldsOf v = fieldsOf v') :
    v = v' := by
  cases v
  cases v'
  simp_all [fieldsOf]

theorem accountId_of_vectorOf
    {values : Dict String ν}
    {accountId : String}
    {vector : FeatureVector}
    (hVector : vectorOf ops values accountId = .ok vector) :
    vector.accountId = accountId := by
  simp only [vectorOf, bind_ok_iff] at hVector
  rcases hVector with
    ⟨_, -, _, -, _, -, _, -, _, -, _, -, _, -, _, -, _, -,
      _, -, _, -, _, -, _, -, _, -, _, -, _, -, _, -, hEq⟩
  cases hEq
  rfl

/- A vector is built of what its columns read as. -/
theorem vectorOf_eq_ok
    {values : Dict String ν}
    {accountId : String}
    {vector : FeatureVector}
    (hVector : vectorOf ops values accountId = .ok vector) :
    vector.accountId = accountId ∧
      List.Forall₂
        (fun column field =>
          readField ops values column = .ok field)
        featureColumns (fieldsOf vector) := by
  refine ⟨accountId_of_vectorOf hVector, ?_⟩
  have hFields := fields_vectorOf ops values accountId
  rw [hVector] at hFields
  exact (mapM_ok_iff _ _ _).1 hFields.symm

/- Building a vector fails with the first failing column. -/
theorem vectorOf_eq_error_iff
    (values : Dict String ν)
    (accountId : String)
    (e : Raised) :
    vectorOf ops values accountId = .error e ↔
      columnFault ops values = some e := by
  rw [columnFault, ← mapM_error_iff,
    ← fields_vectorOf ops values accountId]
  cases vectorOf ops values accountId with
  | error e' =>
      constructor
      · intro hError
        cases hError
        rfl
      · intro hError
        cases hError
        rfl
  | ok vector =>
      constructor
      · intro hError
        cases hError
      · intro hError
        cases hError

theorem fieldsOf_zeroFor
    (accountId : String) :
    fieldsOf (zeroFor accountId) =
      featureColumns.map (·.2.zero) := rfl

/- A built vector is the zero vector when all its columns
   read as their defaults. -/
theorem eq_zeroFor_iff
    {values : Dict String ν}
    {accountId : String}
    {vector : FeatureVector}
    (hVector : vectorOf ops values accountId = .ok vector) :
    vector = zeroFor accountId ↔ ReadsZero ops values := by
  rcases vectorOf_eq_ok hVector with ⟨hAccount, hFields⟩
  have hZero :
      vector = zeroFor accountId ↔
        fieldsOf vector = fieldsOf (zeroFor accountId) :=
    ⟨fun hEq => by rw [hEq],
      eq_of_fieldsOf (by rw [hAccount]; rfl)⟩
  have hReads :
      List.Forall₂
          (fun column field => column.2.zero = field)
          featureColumns (fieldsOf vector) ↔
        ReadsZero ops values := by
    apply forall₂_iff_forall_mem hFields
    intro column field hRead
    rw [hRead, Except.ok.injEq, eq_comm]
  rw [hZero, fieldsOf_zeroFor, ← hReads,
    ← List.forall₂_map_left_iff, List.forall₂_eq_eq_eq,
    eq_comm]

theorem allNone_of_misses
    (values : Dict String ν) :
    (allNone ops values = true ∨ anyNone ops values = true) ↔
      Misses ops values := by
  rw [Misses, allNone, anyNone]
  cases values.entries with
  | nil => simp
  | cons e es =>
      simp only [List.all_cons, List.any_cons,
        Bool.and_eq_true, Bool.or_eq_true, List.cons_ne_nil,
        false_or]
      constructor
      · rintro (⟨hHead, -⟩ | hAny)
        · exact .inl hHead
        · exact hAny
      · intro hAny
        exact .inr hAny

/- A caught exception is answered with the zero vector, and
   any other one leaves the call. -/
theorem handle_of_caught
    {e : Raised}
    (accountId : String)
    (hCaught : e.Caught) :
    (handle accountId e).1 = .ok (zeroFor accountId) := by
  cases e with
  | timeoutError => rfl
  | exception text =>
      cases text with
      | none => cases hCaught
      | some text => rfl
  | baseException => exact hCaught.elim

theorem handle_of_not_caught
    {e : Raised}
    (accountId : String)
    (hEscapes : ¬ e.Caught) :
    (handle accountId e).1 = .error (.fromStore e) := by
  cases e with
  | timeoutError => exact absurd trivial hEscapes
  | exception text =>
      cases text with
      | none => rfl
      | some text => exact absurd rfl hEscapes
  | baseException => rfl

/- The values of a reply, or the miss, or what building the
   vector gives. -/
theorem serve_eq
    (ops : PyObject ν)
    (accountId : String)
    {reply : Reply ν}
    {values : Dict String ν}
    (hValues : firstValues reply = .ok values) :
    (Misses ops values ∧
        serve ops accountId reply =
          .ok (zeroFor accountId, [.featureStoreMiss])) ∨
      (¬ Misses ops values ∧
        serve ops accountId reply =
          (vectorOf ops values accountId).map (·, [])) := by
  have hServe :
      serve ops accountId reply =
        if allNone ops values then
          .ok (zeroFor accountId, [.featureStoreMiss])
        else if anyNone ops values then
          .ok (zeroFor accountId, [.featureStoreMiss])
        else
          (vectorOf ops values accountId).map (·, []) := by
    rw [serve, hValues]
    rfl
  rw [hServe, ← allNone_of_misses]
  cases hAll : allNone ops values with
  | true => exact .inl ⟨.inl rfl, rfl⟩
  | false =>
      cases hAny : anyNone ops values with
      | true => exact .inl ⟨.inr rfl, rfl⟩
      | false => exact .inr ⟨by simp, rfl⟩

/- The promise about one result. -/
def Kept
    (ops : PyObject ν)
    (accountId : String)
    (answer : StoreAnswer ν)
    (result : Retrieved) : Prop :=
  ∃ vector,
    result.1 = .ok vector ∧
      (vector = zeroFor accountId ∨
        ServedFrom ops accountId answer vector)

theorem kept_of_zero
    {accountId : String}
    {answer : StoreAnswer ν}
    {result : Retrieved}
    (hZero : result.1 = .ok (zeroFor accountId)) :
    Kept ops accountId answer result :=
  ⟨zeroFor accountId, hZero, .inl rfl⟩

/- An exception keeps the promise when it is caught. -/
theorem kept_handle_iff
    (accountId : String)
    (answer : StoreAnswer ν)
    (e : Raised) :
    Kept ops accountId answer (handle accountId e) ↔
      e.Caught := by
  constructor
  · rintro ⟨vector, hOk, -⟩
    by_contra hEscapes
    rw [handle_of_not_caught accountId hEscapes] at hOk
    cases hOk
  · intro hCaught
    exact kept_of_zero (handle_of_caught accountId hCaught)

/- A built vector keeps the promise when all columns are
   there or when it is the zero vector. -/
theorem kept_vector_iff
    {accountId : String}
    {reply : Reply ν}
    {values : Dict String ν}
    {vector : FeatureVector}
    {metrics : List ServingMetric}
    (hValues : firstValues reply = .ok values)
    (hServed : ¬ Misses ops values)
    (hVector : vectorOf ops values accountId = .ok vector) :
    Kept ops accountId (.reply reply) (.ok vector, metrics) ↔
      (∀ column ∈ featureColumns,
          (values.get? column.1).isSome = true) ∨
        ReadsZero ops values := by
  have hNullFree : anyNone ops values = false :=
    Bool.eq_false_iff.2 (fun hAny => hServed (.inr hAny))
  constructor
  · rintro ⟨vector', hOk, hKept⟩
    cases hOk
    rcases hKept with hZero | hServedFrom
    · exact .inr ((eq_zeroFor_iff hVector).1 hZero)
    · rcases hServedFrom with
        ⟨reply', values', hReply, hValues', hComplete, -⟩
      cases hReply
      rw [hValues] at hValues'
      cases hValues'
      exact .inl hComplete.columns
  · rintro (hColumns | hZero)
    · exact
        ⟨vector, rfl,
          .inr ⟨reply, values, rfl, hValues,
            ⟨hColumns, hNullFree⟩,
            vectorOf_eq_ok hVector⟩⟩
    · exact
        ⟨vector, rfl,
          .inl ((eq_zeroFor_iff hVector).2 hZero)⟩

/- The values of a reply keep the promise when they are
   harmless. -/
theorem kept_values_iff
    {accountId : String}
    {reply : Reply ν}
    {values : Dict String ν}
    (hValues : firstValues reply = .ok values) :
    Kept ops accountId (.reply reply)
        (answered ops accountId (.reply reply)) ↔
      HarmlessValues ops values := by
  rw [HarmlessValues]
  rcases serve_eq ops accountId hValues with
    ⟨hMisses, hServe⟩ | ⟨hServed, hServe⟩
  · rw [answered, hServe]
    exact
      iff_of_true (kept_of_zero rfl) (.inl hMisses)
  · rw [answered, hServe, or_iff_right hServed]
    cases hVector : vectorOf ops values accountId with
    | error e =>
        have hFault :=
          (vectorOf_eq_error_iff values accountId e).1 hVector
        rw [hFault]
        exact kept_handle_iff accountId (.reply reply) e
    | ok vector =>
        have hNoFault : columnFault ops values = none := by
          cases hFault : columnFault ops values with
          | none => rfl
          | some e =>
              rw [← vectorOf_eq_error_iff values accountId,
                hVector] at hFault
              cases hFault
        rw [hNoFault]
        exact kept_vector_iff hValues hServed hVector

/- An open client keeps the promise on harmless answers. -/
theorem kept_answered_iff
    (accountId : String)
    (answer : StoreAnswer ν) :
    Kept ops accountId answer
        (answered ops accountId answer) ↔
      Harmless ops answer := by
  cases answer with
  | late => exact iff_of_true (kept_of_zero rfl) trivial
  | raised e => exact kept_handle_iff accountId _ e
  | reply reply =>
      rw [Harmless]
      cases hValues : firstValues reply with
      | ok values => exact kept_values_iff hValues
      | error e =>
          have hServe :
              serve ops accountId reply = .error e := by
            rw [serve, hValues]
            rfl
          rw [answered, hServe]
          exact kept_handle_iff accountId _ e

theorem neverFails_iff
    (r : Retrieval ν) :
    NeverFails ops r ↔ Unharmed ops r := by
  rcases r with ⟨executor, accountId, answer⟩
  cases executor with
  | none =>
      have hZero :
          (getFeatures ops none accountId answer).1 =
            .ok (zeroFor accountId) := rfl
      exact iff_of_true (kept_of_zero hZero) ⟨nofun, nofun⟩
  | some executor =>
      cases executor with
      | shutDown =>
          refine iff_of_false ?_ (fun hUnharmed =>
            hUnharmed.1 rfl)
          rintro ⟨vector, hOk, -⟩
          cases hOk
      | running =>
          have hKept :
              NeverFails ops
                  ⟨some .running, accountId, answer⟩ ↔
                Harmless ops answer :=
            kept_answered_iff accountId answer
          rw [hKept]
          exact
            ⟨fun hHarmless => ⟨nofun, fun _ => hHarmless⟩,
              fun hUnharmed => hUnharmed.2 rfl⟩

/-
  Every retrieval of a session returns as promised exactly
  when none of them meets an executor that is shut down and
  those of an open client meet harmless answers.
-/
theorem retrieval_never_fails_iff
    (ops : PyObject ν)
    (operations : List (Operation ν)) :
    (∀ r ∈ session operations, NeverFails ops r) ↔
      ∀ r ∈ session operations, Unharmed ops r := by
  simp only [neverFails_iff]

/- A retrieval after the client is closed. -/
def closedSession : List (Operation Scalar) :=
  [.openClient, .closeClient, .getFeatures "acc-001" .late]

/- A reply of one column. -/
def shortReply : Reply Scalar :=
  [("account_id", .ok (.str "acc-001")),
    ("vel_count_1m", .ok (.int 5))]

def shortSession : List (Operation Scalar) :=
  [.openClient, .getFeatures "acc-001" (.reply shortReply)]

/- A closed client raises, and a reply of one column is
   filled up with defaults. -/
theorem closed_and_short_sessions_fail :
    ¬ (∀ r ∈ session closedSession,
        NeverFails (scalars (fun _ => "")) r) ∧
      ¬ (∀ r ∈ session shortSession,
        NeverFails (scalars (fun _ => "")) r) := by
  constructor
  · intro hNever
    have hLast := hNever _ List.mem_cons_self
    rw [neverFails_iff] at hLast
    exact hLast.1 rfl
  · intro hNever
    have hLast := hNever _ List.mem_cons_self
    rw [neverFails_iff] at hLast
    rcases hLast.2 rfl with hMisses | hColumns
    · rcases hMisses with hEmpty | hNull
      · cases hEmpty
      · cases hNull
    · rcases hColumns with hAll | hZero
      · have hCity := hAll ("geo_city", .text) (by decide)
        cases hCity
      · have hCount :=
          hZero ("vel_count_1m", .int) (by decide)
        cases hCount

end ServingSession

end FraudStream
