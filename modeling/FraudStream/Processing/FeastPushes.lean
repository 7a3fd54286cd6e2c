import FraudStream.Library.Attempts
import FraudStream.Processing.FeatureMaterializer

/-
  The two paths that push the feature groups of a batch.

  The sink writes out the columns of each group and imports
  the push mode after the velocity table is built; the
  materializer goes over the table of the groups. The
  objects in the records, Arrow, pandas and the store are
  parameters.

  Key definitions include:
    * `FeastPush.Platform`
    * `FeastPush.featureTable`
    * `FeastPush.materializeAttempts`
    * `FeastPush.sinkTables`
    * `FeastPush.sinkAttempts`
    * `FeastPush.AgreeAndIsolate`

  Main results:
    * `FeastPush.sinkTables_eq`
    * `FeastPush.exists_groupTable_iff`
    * `FeastPush.push_paths_agree_iff`
-/

------------------------------------------------------------
-- Objects, Arrow And The Store
------------------------------------------------------------

namespace FraudStream

namespace FeastPush

/- What a call raises: an `Exception`, or something else,
   such as an interrupt, that `except Exception` lets pass. -/
inductive Failure where
| exception
| interrupt
deriving DecidableEq, Repr

def Failure.isException : Failure → Bool
| .exception => true
| .interrupt => false

/- What is put into a column: an object of a record, or a
   value that the extraction makes. -/
inductive Cell (ν : Type) where
| object : ν → Cell ν
| int : Int → Cell ν
| float : PyFloat → Cell ν
| bool : Bool → Cell ν
| text : String → Cell ν
| null
deriving DecidableEq

/- The builtins on objects, `pa.array` with a type or with
   `pa.timestamp("ms")`, and `pa.table(...).to_pandas()`. -/
structure Platform (ν α φ : Type) where
  truthy : ν → Except Failure Bool
  toInt : ν → Except Failure Int
  toFloat : ν → Except Failure PyFloat
  array : ArrowType → List (Cell ν) → Except Failure α
  timestamps : List Int → Except Failure α
  table : List (String × α) → Except Failure φ

/- A record of objects of any type. -/
abbrev ObjectRecord (ν : Type) := Dict String ν

/- A call of `store.push`. -/
structure PushCall (φ : Type) where
  source : String
  frame : φ
deriving DecidableEq

/- What each push raises, if it does. -/
abbrev Store (φ : Type) := String → φ → Option Failure

end FeastPush

end FraudStream

------------------------------------------------------------
-- Extractions
------------------------------------------------------------

namespace FraudStream

namespace FeastPush

variable {ν α φ : Type}
variable (p : Platform ν α φ)

/- `r.get(field)` -/
def get
    (field : String)
    (r : ObjectRecord ν) : Cell ν :=
  match r.get? field with
  | none => .null
  | some value => .object value

/- The value of a field, or a default where there is none or
   it is false. -/
def getOr
    (default : Cell ν)
    (convert : ν → Except Failure (Cell ν))
    (field : String)
    (r : ObjectRecord ν) : Except Failure (Cell ν) :=
  match r.get? field with
  | none => .ok default
  | some value => do
      if ← p.truthy value then
        convert value
      else
        pure default

/- `int(r.get(field) or 0)` -/
def intOrZero :
    String → ObjectRecord ν → Except Failure (Cell ν) :=
  getOr p (.int 0) (fun value => .int <$> p.toInt value)

/- `float(r.get(field) or 0)` -/
def floatOrZero :
    String → ObjectRecord ν → Except Failure (Cell ν) :=
  getOr p (.float (.finite 0))
    (fun value => .float <$> p.toFloat value)

/- `r.get(field) or ""` -/
def textOrEmpty :
    String → ObjectRecord ν → Except Failure (Cell ν) :=
  getOr p (.text "") (fun value => pure (.object value))

/- `int(r[field]) if r.get(field) else None` -/
def intOrNull :
    String → ObjectRecord ν → Except Failure (Cell ν) :=
  getOr p .null (fun value => .int <$> p.toInt value)

/- `bool(r.get(field, False))` -/
def boolOrFalse
    (field : String)
    (r : ObjectRecord ν) : Except Failure (Cell ν) :=
  match r.get? field with
  | none => .ok (.bool false)
  | some value => .bool <$> p.truthy value

/- `int(r.get("event_time", 0))` -/
def eventTime
    (r : ObjectRecord ν) : Except Failure Int :=
  match r.get? "event_time" with
  | none => .ok 0
  | some value => p.toInt value

/- `pa.array([extract(r) for r in records], type=...)` -/
def column
    (arrowType : ArrowType)
    (extract : ObjectRecord ν → Except Failure (Cell ν))
    (records : List (ObjectRecord ν)) : Except Failure α := do
  let cells ← records.mapM extract
  p.array arrowType cells

/- `pa.array([r.get(field) for r in records])` -/
def rawColumn
    (field : String)
    (records : List (ObjectRecord ν)) : Except Failure α :=
  p.array .inferred (records.map (get field))

end FeastPush

end FraudStream

------------------------------------------------------------
-- The Materializer
------------------------------------------------------------

namespace FraudStream

namespace FeastPush

variable {ν α φ : Type}

structure ObjectColumn (ν α φ : Type) where
  field : String
  arrowType : ArrowType
  extract :
    Platform ν α φ → ObjectRecord ν →
      Except Failure (Cell ν)

namespace ObjectColumn

/- The column that an extraction fills from one field. -/
def of
    (arrowType : ArrowType)
    (extract :
      Platform ν α φ → String → ObjectRecord ν →
        Except Failure (Cell ν))
    (field : String) : ObjectColumn ν α φ where
  field := field
  arrowType := arrowType
  extract := fun p => extract p field

end ObjectColumn

def velocityColumns : List (ObjectColumn ν α φ) :=
  [.of .int32 intOrZero "vel_count_1m",
    .of .float64 floatOrZero "vel_amount_1m",
    .of .int32 intOrZero "vel_count_5m",
    .of .float64 floatOrZero "vel_amount_5m",
    .of .int32 intOrZero "vel_count_1h",
    .of .float64 floatOrZero "vel_amount_1h",
    .of .int32 intOrZero "vel_count_24h",
    .of .float64 floatOrZero "vel_amount_24h"]

def geoColumns : List (ObjectColumn ν α φ) :=
  [.of .inferred textOrEmpty "geo_country",
    .of .inferred textOrEmpty "geo_city",
    .of .inferred textOrEmpty "geo_network_class",
    .of .float64 floatOrZero "geo_confidence",
    .of .float32 floatOrZero "geo_lat",
    .of .float32 floatOrZero "geo_lon"]

def deviceColumns : List (ObjectColumn ν α φ) :=
  [.of .int64 intOrNull "device_first_seen",
    .of .int64 intOrZero "device_txn_count",
    .of .bool boolOrFalse "device_known_fraud",
    .of .inferred textOrEmpty "prev_geo_country",
    .of .int64 intOrNull "prev_txn_time_ms"]

/- `FEATURE_GROUPS` -/
def featureGroups :
    List (String × List (ObjectColumn ν α φ)) :=
  [("velocity_push_source", velocityColumns),
    ("geo_push_source", geoColumns),
    ("device_push_source", deviceColumns)]

variable (p : Platform ν α φ)

/- The three columns that every table begins with. -/
def keyColumns
    (records : List (ObjectRecord ν))
    (eventTimestamps : List Int) :
    Except Failure (List (String × α)) := do
  let accountId ← rawColumn p "account_id" records
  let transactionId ← rawColumn p "transaction_id" records
  let eventTimestamp ← p.timestamps eventTimestamps
  pure
    [("account_id", accountId),
      ("transaction_id", transactionId),
      ("event_timestamp", eventTimestamp)]

/- The table of `_push_feature_group`. -/
def featureTable
    (columns : List (ObjectColumn ν α φ))
    (records : List (ObjectRecord ν))
    (eventTimestamps : List Int) : Except Failure φ := do
  let keys ← keyColumns p records eventTimestamps
  let features ← columns.mapM (fun spec => do
    let array ←
      column p spec.arrowType (spec.extract p) records
    pure (spec.field, array))
  p.table (keys ++ features)

/- The attempt to push a table that was built, or not. -/
def pushAttempt
    (store : Store φ)
    (source : String)
    (table : Except Failure φ) :
    GuardedAttempt (PushCall φ) Failure :=
  match table with
  | .error e => { call := none, raised := some e }
  | .ok frame =>
      { call := some ⟨source, frame⟩
        raised := store source frame }

/- The attempts of `materialize` once the event times are
   read. -/
def materializeAttempts
    (store : Store φ)
    (records : List (ObjectRecord ν))
    (eventTimestamps : List Int) :
    List (GuardedAttempt (PushCall φ) Failure) :=
  featureGroups.map (fun group =>
    pushAttempt store group.1
      (featureTable p group.2 records eventTimestamps))

/- The calls of `store.push` that `materialize` makes. -/
def materializeCalls
    (store : Store φ)
    (records : List (ObjectRecord ν)) :
    List (PushCall φ) :=
  if records.isEmpty then
    []
  else
    match records.mapM (eventTime p) with
    | .error _ => []
    | .ok times =>
        GuardedAttempt.calls Failure.isException
          (materializeAttempts p store records times)

end FeastPush

end FraudStream

------------------------------------------------------------
-- The Sink
------------------------------------------------------------

namespace FraudStream

namespace FeastPush

variable {ν α φ : Type}
variable (p : Platform ν α φ)

/- `int(r.get(field) or 0) if r.get(field) else None` -/
def intOrZeroOrNull
    (field : String)
    (r : ObjectRecord ν) : Except Failure (Cell ν) :=
  getOr p .null (fun _ => intOrZero p field r) field r

def velocityTable
    (records : List (ObjectRecord ν))
    (eventTimestamps : List Int) : Except Failure φ := do
  let accountId ← rawColumn p "account_id" records
  let transactionId ← rawColumn p "transaction_id" records
  let eventTimestamp ← p.timestamps eventTimestamps
  let velCount1m ←
    column p .int32 (intOrZero p "vel_count_1m") records
  let velAmount1m ←
    column p .float64 (floatOrZero p "vel_amount_1m") records
  let velCount5m ←
    column p .int32 (intOrZero p "vel_count_5m") records
  let velAmount5m ←
    column p .float64 (floatOrZero p "vel_amount_5m") records
  let velCount1h ←
    column p .int32 (intOrZero p "vel_count_1h") records
  let velAmount1h ←
    column p .float64 (floatOrZero p "vel_amount_1h") records
  let velCount24h ←
    column p .int32 (intOrZero p "vel_count_24h") records
  let velAmount24h ←
    column p .float64 (floatOrZero p "vel_amount_24h") records
  p.table
    [("account_id", accountId),
      ("transaction_id", transactionId),
      ("event_timestamp", eventTimestamp),
      ("vel_count_1m", velCount1m),
      ("vel_amount_1m", velAmount1m),
      ("vel_count_5m", velCount5m),
      ("vel_amount_5m", velAmount5m),
      ("vel_count_1h", velCount1h),
      ("vel_amount_1h", velAmount1h),
      ("vel_count_24h", velCount24h),
      ("vel_amount_24h", velAmount24h)]

def geoTable
    (records : List (ObjectRecord ν))
    (eventTimestamps : List Int) : Except Failure φ := do
  let accountId ← rawColumn p "account_id" records
  let transactionId ← rawColumn p "transaction_id" records
  let eventTimestamp ← p.timestamps eventTimestamps
  let geoCountry ←
    column p .inferred (textOrEmpty p "geo_country") records
  let geoCity ←
    column p .inferred (textOrEmpty p "geo_city") records
  let geoNetworkClass ←
    column p .inferred (textOrEmpty p "geo_network_class")
      records
  let geoConfidence ←
    column p .float64 (floatOrZero p "geo_confidence") records
  let geoLat ←
    column p .float32 (floatOrZero p "geo_lat") records
  let geoLon ←
    column p .float32 (floatOrZero p "geo_lon") records
  p.table
    [("account_id", accountId),
      ("transaction_id", transactionId),
      ("event_timestamp", eventTimestamp),
      ("geo_country", geoCountry),
      ("geo_city", geoCity),
      ("geo_network_class", geoNetworkClass),
      ("geo_confidence", geoConfidence),
      ("geo_lat", geoLat),
      ("geo_lon", geoLon)]

def deviceTable
    (records : List (ObjectRecord ν))
    (eventTimestamps : List Int) : Except Failure φ := do
  let accountId ← rawColumn p "account_id" records
  let transactionId ← rawColumn p "transaction_id" records
  let eventTimestamp ← p.timestamps eventTimestamps
  let deviceFirstSeen ←
    column p .int64 (intOrZeroOrNull p "device_first_seen")
      records
  let deviceTxnCount ←
    column p .int64 (intOrZero p "device_txn_count") records
  let deviceKnownFraud ←
    column p .bool (boolOrFalse p "device_known_fraud")
      records
  let prevGeoCountry ←
    column p .inferred (textOrEmpty p "prev_geo_country")
      records
  let prevTxnTimeMs ←
    column p .int64 (intOrZeroOrNull p "prev_txn_time_ms")
      records
  p.table
    [("account_id", accountId),
      ("transaction_id", transactionId),
      ("event_timestamp", eventTimestamp),
      ("device_first_seen", deviceFirstSeen),
      ("device_txn_count", deviceTxnCount),
      ("device_known_fraud", deviceKnownFraud),
      ("prev_geo_country", prevGeoCountry),
      ("prev_txn_time_ms", prevTxnTimeMs)]

/- The sources of the sink and their tables, in order. -/
def sinkTables
    (records : List (ObjectRecord ν))
    (eventTimestamps : List Int) :
    List (String × Except Failure φ) :=
  [("velocity_push_source",
      velocityTable p records eventTimestamps),
    ("geo_push_source", geoTable p records eventTimestamps),
    ("device_push_source",
      deviceTable p records eventTimestamps)]

/- A push while `PushMode` is bound, or not. It is looked up
   after the table is built. -/
def boundAttempt
    (pushModeBound : Bool)
    (store : Store φ)
    (source : String)
    (table : Except Failure φ) :
    GuardedAttempt (PushCall φ) Failure :=
  match table with
  | .error e => { call := none, raised := some e }
  | .ok frame =>
      if pushModeBound then
        pushAttempt store source (.ok frame)
      else
        { call := none, raised := some .exception }

/- The attempts of `_push_to_feast` once the event times are
   read. The `try` of the velocity group binds `PushMode`
   between its table and its push. -/
def sinkAttempts
    (store : Store φ)
    (records : List (ObjectRecord ν))
    (eventTimestamps : List Int) :
    List (GuardedAttempt (PushCall φ) Failure) :=
  let velocity := velocityTable p records eventTimestamps
  let bound := velocity.isOk
  [pushAttempt store "velocity_push_source" velocity,
    boundAttempt bound store "geo_push_source"
      (geoTable p records eventTimestamps),
    boundAttempt bound store "device_push_source"
      (deviceTable p records eventTimestamps)]

/- The calls of `store.push` that `_push_to_feast` makes. -/
def sinkCalls
    (store : Store φ)
    (records : List (ObjectRecord ν)) :
    List (PushCall φ) :=
  match records.mapM (eventTime p) with
  | .error _ => []
  | .ok times =>
      GuardedAttempt.calls Failure.isException
        (sinkAttempts p store records times)

end FeastPush

end FraudStream

------------------------------------------------------------
-- The Same Tables
------------------------------------------------------------

namespace FraudStream

namespace FeastPush

variable {ν α φ : Type}
variable (p : Platform ν α φ)

/- The default behind a true value is never taken. -/
theorem intOrZeroOrNull_eq
    (field : String) :
    intOrZeroOrNull p field = intOrNull p field := by
  funext r
  rw [intOrZeroOrNull, intOrNull, getOr, getOr]
  cases hField : r.get? field with
  | none => rfl
  | some value =>
      cases hTruthy : p.truthy value with
      | error e => simp [hTruthy, bind, Except.bind]
      | ok t =>
          cases t with
          | false => simp [hTruthy, bind, Except.bind]
          | true =>
              simp [hTruthy, intOrZero, getOr, hField, bind,
                Except.bind]

theorem velocityTable_eq
    (records : List (ObjectRecord ν))
    (eventTimestamps : List Int) :
    velocityTable p records eventTimestamps =
      featureTable p velocityColumns records
        eventTimestamps := by
  simp only [velocityTable, featureTable, keyColumns,
    velocityColumns, ObjectColumn.of, List.mapM_cons,
    List.mapM_nil, bind_assoc, pure_bind]
  rfl

theorem geoTable_eq
    (records : List (ObjectRecord ν))
    (eventTimestamps : List Int) :
    geoTable p records eventTimestamps =
      featureTable p geoColumns records
        eventTimestamps := by
  simp only [geoTable, featureTable, keyColumns,
    geoColumns, ObjectColumn.of, List.mapM_cons,
    List.mapM_nil, bind_assoc, pure_bind]
  rfl

theorem deviceTable_eq
    (records : List (ObjectRecord ν))
    (eventTimestamps : List Int) :
    deviceTable p records eventTimestamps =
      featureTable p deviceColumns records
        eventTimestamps := by
  simp only [deviceTable, featureTable, keyColumns,
    deviceColumns, ObjectColumn.of, List.mapM_cons,
    List.mapM_nil, bind_assoc, pure_bind,
    intOrZeroOrNull_eq]
  rfl

/- The columns that the sink writes out are those of the
   table of groups. -/
theorem sinkTables_eq
    (records : List (ObjectRecord ν))
    (eventTimestamps : List Int) :
    sinkTables p records eventTimestamps =
      featureGroups.map (fun group =>
        (group.1,
          featureTable p group.2 records
            eventTimestamps)) := by
  rw [sinkTables, velocityTable_eq, geoTable_eq,
    deviceTable_eq]
  rfl

end FeastPush

end FraudStream

------------------------------------------------------------
-- Records Of Scalars
------------------------------------------------------------

namespace FraudStream

namespace FeastPush

open FallibleList

/- Every error of a value is an `Exception`. -/
def ofPyError (_ : PyError) : Failure :=
  .exception

/- A cell as the value that Arrow converts. -/
def Cell.scalar : Cell Scalar → Scalar
| .object value => value
| .int n => .int n
| .float f => .float f
| .bool b => .bool b
| .text s => .str s
| .null => .none

/- Records of scalars, and arrays that are converted cell by
   cell. -/
def scalarPlatform :
    Platform Scalar (List Scalar)
      (List (String × List Scalar)) where
  truthy := fun x => .ok x.truthy
  toInt := fun x => x.toInt.mapError ofPyError
  toFloat := fun x => x.toFloat.mapError ofPyError
  array := fun arrowType cells =>
    (cells.mapM (fun cell =>
      arrowType.convert cell.scalar)).mapError ofPyError
  timestamps := fun times =>
    (times.mapM (fun t =>
      ArrowType.int64.convert (.int t))).mapError ofPyError
  table := fun columns => .ok columns

/- A frame of scalars, column by column. -/
abbrev ScalarFrame := List (String × List Scalar)

abbrev ScalarColumn :=
  ObjectColumn Scalar (List Scalar) ScalarFrame

/- The cells of a column are the values that the column of
   the schema extracts. -/
structure Extracts
    (spec : ScalarColumn)
    (schema : FraudStream.ColumnSpec) : Prop where
  arrowType : spec.arrowType = schema.arrowType
  extract :
    ∀ r : Record,
      Cell.scalar <$> spec.extract scalarPlatform r =
        (schema.extract r).mapError ofPyError

/- A field with a default is extracted as the schema does if
   the schema has the default for what is false, and converts
   what is true alike. -/
theorem extracts_getOr
    {default : Cell Scalar}
    {convert :
      Platform Scalar (List Scalar) ScalarFrame → Scalar →
        Except Failure (Cell Scalar)}
    {extract : String → Record → Except PyError Scalar}
    (arrowType : ArrowType)
    (field : String)
    (hFalse :
      ∀ r : Record, (r.get field).truthy = false →
        extract field r = .ok default.scalar)
    (hTrue :
      ∀ r : Record, (r.get field).truthy = true →
        Cell.scalar <$> convert scalarPlatform (r.get field) =
          (extract field r).mapError ofPyError) :
    Extracts
      (.of arrowType
        (fun p => getOr p default (convert p)) field)
      (.of arrowType extract field) := by
  refine ⟨rfl, ?_⟩
  intro r
  simp only [ObjectColumn.of, ColumnSpec.of, getOr]
  have hGet := hTrue r
  have hDefault := hFalse r
  rw [Record.get] at hGet hDefault
  cases hField : r.get? field with
  | none =>
      rw [hField] at hDefault
      rw [hDefault rfl]
      rfl
  | some x =>
      rw [hField, Option.getD_some] at hGet hDefault
      cases hTruthy : x.truthy with
      | false =>
          rw [hDefault hTruthy]
          simp only [scalarPlatform, hTruthy]
          rfl
      | true =>
          rw [← hGet hTruthy]
          simp only [scalarPlatform, hTruthy]
          rfl

theorem extracts_intOrZero
    (arrowType : ArrowType)
    (field : String) :
    Extracts (.of arrowType intOrZero field)
      (.of arrowType ColumnSpec.intOrZero field) := by
  apply extracts_getOr
  · intro r hFalse
    simp [ColumnSpec.intOrZero, Scalar.orElse, hFalse,
      Scalar.toInt, Except.map, Cell.scalar]
  · intro r hTrue
    simp only [ColumnSpec.intOrZero, Scalar.orElse, hTrue,
      if_true, scalarPlatform]
    cases (r.get field).toInt <;> rfl

theorem extracts_floatOrZero
    (arrowType : ArrowType)
    (field : String) :
    Extracts (.of arrowType floatOrZero field)
      (.of arrowType ColumnSpec.floatOrZero field) := by
  apply extracts_getOr
  · intro r hFalse
    simp [ColumnSpec.floatOrZero, Scalar.orElse, hFalse,
      Scalar.toFloat, Except.map, Cell.scalar]
  · intro r hTrue
    simp only [ColumnSpec.floatOrZero, Scalar.orElse, hTrue,
      if_true, scalarPlatform]
    cases (r.get field).toFloat <;> rfl

theorem extracts_textOrEmpty
    (arrowType : ArrowType)
    (field : String) :
    Extracts (.of arrowType textOrEmpty field)
      (.of arrowType ColumnSpec.textOrEmpty field) := by
  apply extracts_getOr
  · intro r hFalse
    simp [ColumnSpec.textOrEmpty, Scalar.orElse, hFalse,
      Cell.scalar]
  · intro r hTrue
    simp only [ColumnSpec.textOrEmpty, Scalar.orElse, hTrue,
      if_true]
    rfl

theorem extracts_intOrNull
    (arrowType : ArrowType)
    (field : String) :
    Extracts (.of arrowType intOrNull field)
      (.of arrowType ColumnSpec.intOrNull field) := by
  apply extracts_getOr
  · intro r hFalse
    simp [ColumnSpec.intOrNull, hFalse, Cell.scalar]
  · intro r hTrue
    simp only [ColumnSpec.intOrNull, hTrue, if_true,
      scalarPlatform]
    cases (r.get field).toInt <;> rfl

theorem extracts_boolOrFalse
    (arrowType : ArrowType)
    (field : String) :
    Extracts (.of arrowType boolOrFalse field)
      (.of arrowType ColumnSpec.boolOrFalse field) := by
  refine ⟨rfl, ?_⟩
  intro r
  simp only [ObjectColumn.of, ColumnSpec.of, boolOrFalse,
    ColumnSpec.boolOrFalse]
  cases r.get? field <;> rfl

/- The groups are those of the schema, column by column. -/
theorem extracts_featureGroups :
    List.Forall₂
      (fun group schema =>
        group.1 = schema.1 ∧
          List.Forall₂ Extracts group.2 schema.2)
      featureGroups FraudStream.featureGroups := by
  simp only [featureGroups, FraudStream.featureGroups,
    velocityColumns, FraudStream.velocityColumns, geoColumns,
    FraudStream.geoColumns, deviceColumns,
    FraudStream.deviceColumns, List.forall₂_cons,
    List.Forall₂.nil, extracts_intOrZero,
    extracts_floatOrZero, extracts_textOrEmpty,
    extracts_intOrNull, extracts_boolOrFalse, and_self]

end FeastPush

end FraudStream

------------------------------------------------------------
-- Tables Of Scalars
------------------------------------------------------------

namespace FraudStream

namespace FeastPush

open FallibleList

/- Items that are computed first and converted then. -/
theorem exists_mapM_mapM_iff
    {ε ε' α β γ : Type}
    (f : α → Except ε β)
    (g : β → Except ε' γ)
    (xs : List α) :
    (∃ ys, xs.mapM f = .ok ys ∧
        ∃ zs, ys.mapM g = .ok zs) ↔
      ∀ x ∈ xs, ∃ y, f x = .ok y ∧ ∃ z, g y = .ok z := by
  simp only [exists_mapM_ok_iff]
  simp only [mapM_ok_iff]
  constructor
  · rintro ⟨ys, hAll, hConverts⟩ x hMem
    rcases forall₂_mem_right hAll.flip hMem with
      ⟨y, hMem', hComputes⟩
    exact ⟨y, hComputes, hConverts y hMem'⟩
  · intro hItems
    have hComputes : ∀ x ∈ xs, ∃ y, f x = .ok y := by
      intro x hMem
      rcases hItems x hMem with ⟨y, hy, -⟩
      exact ⟨y, hy⟩
    rcases (exists_mapM_ok_iff f xs).2 hComputes with
      ⟨ys, hys⟩
    rw [mapM_ok_iff] at hys
    refine ⟨ys, hys, ?_⟩
    intro y hMem
    rcases forall₂_mem_right hys hMem with ⟨x, hMem', hy⟩
    rcases hItems x hMem' with ⟨y', hy', hz⟩
    rw [hy] at hy'
    cases hy'
    exact hz

/- A column is built when the schema has a cell for every
   record. -/
theorem exists_column_iff
    {spec : ScalarColumn}
    {schema : FraudStream.ColumnSpec}
    (hExtracts : Extracts spec schema)
    (records : List Record) :
    (∃ array,
        column scalarPlatform spec.arrowType
            (spec.extract scalarPlatform) records =
          .ok array) ↔
      ∀ r ∈ records, ∃ cell, schema.cell r = .ok cell := by
  have hColumn :
      (∃ array,
          column scalarPlatform spec.arrowType
              (spec.extract scalarPlatform) records =
            .ok array) ↔
        ∃ cells,
          records.mapM (spec.extract scalarPlatform) =
              .ok cells ∧
            ∃ array,
              cells.mapM (fun cell =>
                  spec.arrowType.convert cell.scalar) =
                .ok array := by
    simp only [column, bind_ok_iff, scalarPlatform]
    rw [exists_comm]
    simp only [exists_and_left, exists_mapError_ok_iff]
  rw [hColumn, exists_mapM_mapM_iff]
  apply forall₂_congr
  intro r _
  have hExtract := hExtracts.extract r
  rw [hExtracts.arrowType]
  constructor
  · rintro ⟨cell, hCell, z, hConvert⟩
    rw [hCell] at hExtract
    cases hValue : schema.extract r with
    | error e =>
        rw [hValue] at hExtract
        cases hExtract
    | ok x =>
        rw [hValue] at hExtract
        cases hExtract
        exact
          ⟨_, (schema.cell_ok_iff r _).2
            ⟨_, z, hValue, hConvert, rfl⟩⟩
  · rintro ⟨y, hCell⟩
    rcases (schema.cell_ok_iff r y).1 hCell with
      ⟨x, z, hValue, hConvert, -⟩
    rw [hValue] at hExtract
    cases hSpec : spec.extract scalarPlatform r with
    | error e =>
        rw [hSpec] at hExtract
        cases hExtract
    | ok cell =>
        rw [hSpec] at hExtract
        cases hExtract
        exact ⟨cell, rfl, z, hConvert⟩

/- All columns are built when every record has a cell in each
   of them. -/
theorem exists_features_iff
    {columns : List ScalarColumn}
    {schema : List FraudStream.ColumnSpec}
    (hExtracts : List.Forall₂ Extracts columns schema)
    (records : List Record) :
    (∃ features,
        columns.mapM (fun spec => do
            let array ←
              column scalarPlatform spec.arrowType
                (spec.extract scalarPlatform) records
            pure (spec.field, array)) =
          .ok features) ↔
      ∀ r ∈ records, ∀ c ∈ schema,
        ∃ cell, c.cell r = .ok cell := by
  have hSwap :
      (∀ r ∈ records, ∀ c ∈ schema,
          ∃ cell, c.cell r = .ok cell) ↔
        ∀ c ∈ schema, ∀ r ∈ records,
          ∃ cell, c.cell r = .ok cell :=
    ⟨fun hAll c hc r hr => hAll r hr c hc,
      fun hAll r hr c hc => hAll c hc r hr⟩
  rw [exists_mapM_ok_iff, hSwap]
  have hNamed :
      ∀ spec : ScalarColumn,
        (∃ named,
            (do
              let array ←
                column scalarPlatform spec.arrowType
                  (spec.extract scalarPlatform) records
              pure (spec.field, array) :
                Except Failure (String × List Scalar)) =
              .ok named) ↔
          ∃ array,
            column scalarPlatform spec.arrowType
                (spec.extract scalarPlatform) records =
              .ok array := by
    intro spec
    cases column scalarPlatform spec.arrowType
      (spec.extract scalarPlatform) records <;>
        simp [bind, Except.bind, pure, Except.pure]
  simp only [hNamed]
  clear hSwap hNamed
  induction hExtracts with
  | nil => simp
  | cons hHead hTail ih =>
      rw [List.forall_mem_cons, List.forall_mem_cons]
      exact and_congr (exists_column_iff hHead records) ih

theorem scalar_get
    (field : String)
    (r : Record) :
    (get field r).scalar = r.get field := by
  rw [get, Record.get]
  cases r.get? field <;> rfl

theorem exists_rawColumn_iff
    (field : String)
    (records : List Record) :
    (∃ array,
        rawColumn scalarPlatform field records =
          .ok array) ↔
      ∀ r ∈ records, ∃ x,
        ArrowType.inferred.convert (r.get field) =
          .ok x := by
  simp only [rawColumn, scalarPlatform,
    exists_mapError_ok_iff, exists_mapM_ok_iff,
    List.forall_mem_map, scalar_get]

theorem eventTime_scalarPlatform
    (r : Record) :
    eventTime scalarPlatform r =
      (FeatureMaterializer.eventTimestamp r).mapError
        ofPyError := by
  rw [eventTime, FeatureMaterializer.eventTimestamp]
  cases r.get? "event_time" <;> rfl

/- The timestamps are built when every event time fits. -/
theorem exists_timestamps_iff
    {records : List Record}
    {times : List Int}
    (hTimes :
      records.mapM (eventTime scalarPlatform) =
        .ok times) :
    (∃ array, scalarPlatform.timestamps times = .ok array) ↔
      ∀ r ∈ records, ∃ t,
        FeatureMaterializer.eventTimestamp r = .ok t ∧
          ∃ x, ArrowType.int64.convert (.int t) = .ok x := by
  have hPair :=
    exists_mapM_mapM_iff (eventTime scalarPlatform)
      (fun t => ArrowType.int64.convert (.int t)) records
  rw [hTimes] at hPair
  simp only [Except.ok.injEq, exists_eq_left'] at hPair
  simp only [scalarPlatform, exists_mapError_ok_iff]
  rw [hPair]
  apply forall₂_congr
  intro r _
  rw [eventTime_scalarPlatform]
  cases FeatureMaterializer.eventTimestamp r <;>
    simp [Except.mapError]

theorem exists_featureRow_iff
    (schema : List FraudStream.ColumnSpec)
    (r : Record) :
    (∃ row,
        FeatureMaterializer.featureRow schema r =
          .ok row) ↔
      (∃ x, ArrowType.inferred.convert
          (r.get "account_id") = .ok x) ∧
        (∃ x, ArrowType.inferred.convert
          (r.get "transaction_id") = .ok x) ∧
        (∃ t, FeatureMaterializer.eventTimestamp r = .ok t ∧
          ∃ x, ArrowType.int64.convert (.int t) = .ok x) ∧
        ∀ c ∈ schema, ∃ cell, c.cell r = .ok cell := by
  rw [← exists_mapM_ok_iff]
  simp only [FeatureMaterializer.featureRow, bind_ok_iff]
  constructor
  · rintro
      ⟨row, a, hAccount, t, hTransaction, millis, hMillis,
        x, hFits, features, hFeatures, -⟩
    exact
      ⟨⟨a, hAccount⟩, ⟨t, hTransaction⟩,
        ⟨millis, hMillis, x, hFits⟩, features, hFeatures⟩
  · rintro
      ⟨⟨a, hAccount⟩, ⟨t, hTransaction⟩,
        ⟨millis, hMillis, x, hFits⟩, features, hFeatures⟩
    exact
      ⟨_, a, hAccount, t, hTransaction, millis, hMillis,
        x, hFits, features, hFeatures, rfl⟩

/- Over records of scalars, a table is built when the rows of
   its schema are made. -/
theorem exists_featureTable_iff
    {columns : List ScalarColumn}
    {schema : List FraudStream.ColumnSpec}
    {records : List Record}
    {times : List Int}
    (source : String)
    (hExtracts : List.Forall₂ Extracts columns schema)
    (hTimes :
      records.mapM (eventTime scalarPlatform) =
        .ok times) :
    (∃ frame,
        featureTable scalarPlatform columns records times =
          .ok frame) ↔
      ∃ push,
        FeatureMaterializer.pushFeatureGroup source schema
          records = .ok push := by
  have hTable :
      (∃ frame,
          featureTable scalarPlatform columns records
            times = .ok frame) ↔
        (∃ array,
            rawColumn scalarPlatform "account_id"
              records = .ok array) ∧
          (∃ array,
            rawColumn scalarPlatform "transaction_id"
              records = .ok array) ∧
          (∃ array,
            scalarPlatform.timestamps times =
              .ok array) ∧
          ∃ features,
            columns.mapM (fun spec => do
                let array ←
                  column scalarPlatform spec.arrowType
                    (spec.extract scalarPlatform) records
                pure (spec.field, array)) =
              .ok features := by
    simp only [featureTable, keyColumns, bind_assoc,
      bind_ok_iff, pure_bind]
    constructor
    · rintro
        ⟨_, a, hAccount, t, hTransaction, e, hEvent,
          features, hFeatures, -⟩
      exact
        ⟨⟨a, hAccount⟩, ⟨t, hTransaction⟩, ⟨e, hEvent⟩,
          features, hFeatures⟩
    · rintro
        ⟨⟨a, hAccount⟩, ⟨t, hTransaction⟩, ⟨e, hEvent⟩,
          features, hFeatures⟩
      exact
        ⟨_, a, hAccount, t, hTransaction, e, hEvent,
          features, hFeatures, rfl⟩
  have hPush :
      (∃ push,
          FeatureMaterializer.pushFeatureGroup source schema
            records = .ok push) ↔
        ∃ rows,
          records.mapM
              (FeatureMaterializer.featureRow schema) =
            .ok rows := by
    rw [FeatureMaterializer.pushFeatureGroup]
    cases records.mapM
      (FeatureMaterializer.featureRow schema) <;> simp
  rw [hTable, hPush, exists_features_iff hExtracts,
    exists_rawColumn_iff, exists_rawColumn_iff,
    exists_timestamps_iff hTimes, exists_mapM_ok_iff]
  simp only [exists_featureRow_iff, forall_and]

/- The tables that are built are the groups that the rows of
   the schema make. -/
theorem exists_groupTable_iff
    {records : List Record}
    {times : List Int}
    (hTimes :
      records.mapM (eventTime scalarPlatform) =
        .ok times) :
    List.Forall₂
      (fun group schema =>
        group.1 = schema.1 ∧
          ((∃ frame,
              featureTable scalarPlatform group.2 records
                times = .ok frame) ↔
            ∃ push,
              FeatureMaterializer.pushFeatureGroup schema.1
                schema.2 records = .ok push))
      featureGroups FraudStream.featureGroups := by
  apply extracts_featureGroups.imp
  rintro group schema ⟨hSource, hExtracts⟩
  exact
    ⟨hSource,
      exists_featureTable_iff schema.1 hExtracts hTimes⟩

end FeastPush

end FraudStream

------------------------------------------------------------
-- Agreement And Isolation
------------------------------------------------------------

namespace FraudStream

namespace FeastPush

variable {ν α φ : Type}
variable (p : Platform ν α φ)
variable (store : Store φ)

/- Both paths make the same calls, and each of them pushes
   every group whose table can be built. -/
structure AgreeAndIsolate
    (records : List (ObjectRecord ν)) : Prop where
  sameCalls :
    sinkCalls p store records =
      materializeCalls p store records
  sinkIsolates :
    ∀ times, records.mapM (eventTime p) = .ok times →
      ∀ source frame,
        (source, Except.ok frame) ∈
            sinkTables p records times →
          ⟨source, frame⟩ ∈ sinkCalls p store records
  materializerIsolates :
    ∀ times, records.mapM (eventTime p) = .ok times →
      ∀ group ∈ featureGroups, ∀ frame,
        featureTable p group.2 records times = .ok frame →
          ⟨group.1, frame⟩ ∈
            materializeCalls p store records

/- The velocity table can be built, or neither of the others
   can. -/
def VelocityFirst
    (records : List (ObjectRecord ν))
    (times : List Int) : Prop :=
  (∃ frame, velocityTable p records times = .ok frame) ∨
    ∀ frame, geoTable p records times ≠ .ok frame ∧
      deviceTable p records times ≠ .ok frame

/- What building or pushing a group raises is an `Exception`,
   unless no later table can be built. -/
def OnlyExceptions
    (records : List (ObjectRecord ν))
    (times : List Int) : Prop :=
  (materializeAttempts p store records times).Pairwise
    (fun a b =>
      a.raised = some .interrupt → b.call = none)

variable {p store}

theorem pushAttempt_call_iff
    (source : String)
    (table : Except Failure φ)
    (c : PushCall φ) :
    (pushAttempt store source table).call = some c ↔
      c.source = source ∧ table = .ok c.frame := by
  rcases c with ⟨source', frame'⟩
  cases table with
  | error e => simp [pushAttempt]
  | ok frame => simp [pushAttempt, eq_comm]

theorem stops_iff
    (a : GuardedAttempt (PushCall φ) Failure) :
    a.Stops Failure.isException ↔
      a.raised = some .interrupt := by
  rw [GuardedAttempt.Stops]
  cases a.raised with
  | none => simp
  | some e => cases e <;> simp [Failure.isException]

theorem nodup_sources :
    ((featureGroups : List (String ×
        List (ObjectColumn ν α φ))).map Prod.fst).Nodup := by
  simp [featureGroups]

/- Each source is called at most once. -/
theorem nodup_calls
    {groups : List (String × List (ObjectColumn ν α φ))}
    (hNodup : (groups.map Prod.fst).Nodup)
    (tables :
      String × List (ObjectColumn ν α φ) →
        Except Failure φ) :
    ((groups.map (fun group =>
        pushAttempt store group.1 (tables group))).filterMap
      GuardedAttempt.call).Nodup := by
  induction groups with
  | nil => exact List.nodup_nil
  | cons group groups ih =>
      rw [List.map_cons, List.nodup_cons] at hNodup
      have hRest := ih hNodup.2
      rw [List.map_cons, List.filterMap_cons]
      split
      · exact hRest
      · rename_i c hCall
        rw [List.nodup_cons]
        refine ⟨?_, hRest⟩
        intro hAgain
        rcases List.mem_filterMap.1 hAgain with
          ⟨a, hMem, hCall'⟩
        rcases List.mem_map.1 hMem with ⟨group', hGroup, rfl⟩
        have hSource :=
          ((pushAttempt_call_iff _ _ _).1 hCall).1
        have hSource' :=
          ((pushAttempt_call_iff _ _ _).1 hCall').1
        apply hNodup.1
        rw [← hSource, hSource']
        exact List.mem_map_of_mem hGroup

/- The materializer isolates the groups from all but
   interrupts. -/
theorem materializer_isolates_iff
    (records : List (ObjectRecord ν))
    (times : List Int) :
    (∀ group ∈ featureGroups, ∀ frame,
        featureTable p group.2 records times = .ok frame →
          ⟨group.1, frame⟩ ∈
            GuardedAttempt.calls Failure.isException
              (materializeAttempts p store records times)) ↔
      OnlyExceptions p store records times := by
  have hNodup :
      ((materializeAttempts p store records
        times).filterMap GuardedAttempt.call).Nodup :=
    nodup_calls nodup_sources _
  have hAll :=
    GuardedAttempt.makes_all_iff Failure.isException hNodup
  simp only [stops_iff] at hAll
  rw [OnlyExceptions, ← hAll, materializeAttempts,
    List.forall_mem_map]
  apply forall₂_congr
  intro group _
  constructor
  · intro hMade c hCall
    rcases (pushAttempt_call_iff _ _ _).1 hCall with
      ⟨hSource, hTable⟩
    have hHere := hMade c.frame hTable
    rwa [← hSource] at hHere
  · intro hMade frame hTable
    apply hMade
    exact
      (pushAttempt_call_iff _ _ _).2 ⟨rfl, hTable⟩

/- With the velocity table built, both paths make the same
   attempts. -/
theorem sinkAttempts_of_built
    {records : List (ObjectRecord ν)}
    {times : List Int}
    {frame : φ}
    (hBuilt : velocityTable p records times = .ok frame) :
    sinkAttempts p store records times =
      materializeAttempts p store records times := by
  have hBound :
      ∀ source (table : Except Failure φ),
        boundAttempt true store source table =
          pushAttempt store source table := by
    intro source table
    cases table <;> rfl
  have hOk :
      (velocityTable p records times).isOk = true := by
    rw [hBuilt]
    rfl
  rw [sinkAttempts]
  simp only [hOk, hBound]
  rw [velocityTable_eq, geoTable_eq, deviceTable_eq]
  rfl

/- Without it, the sink pushes nothing. -/
theorem sinkCalls_of_unbuilt
    {records : List (ObjectRecord ν)}
    {times : List Int}
    {e : Failure}
    (hTable : velocityTable p records times = .error e) :
    GuardedAttempt.calls Failure.isException
        (sinkAttempts p store records times) = [] := by
  have hNone :
      ∀ source (table : Except Failure φ),
        (boundAttempt false store source table).call =
          none := by
    intro source table
    cases table <;> rfl
  have hSublist :=
    GuardedAttempt.calls_sublist Failure.isException
      (sinkAttempts p store records times)
  have hEmpty :
      (sinkAttempts p store records times).filterMap
        GuardedAttempt.call = [] := by
    rw [sinkAttempts, hTable]
    simp only [List.filterMap_cons, List.filterMap_nil,
      pushAttempt, Except.isOk, Except.toBool, hNone]
  rw [hEmpty] at hSublist
  exact List.sublist_nil.1 hSublist

/- With no table built, there is no call to isolate. -/
theorem onlyExceptions_of_unbuilt
    {records : List (ObjectRecord ν)}
    {times : List Int}
    (hUnbuilt :
      ∀ group ∈ featureGroups, ∀ frame,
        featureTable p group.2 records times ≠ .ok frame) :
    OnlyExceptions p store records times := by
  rw [← materializer_isolates_iff]
  intro group hGroup frame hTable
  exact absurd hTable (hUnbuilt group hGroup frame)

/- The tables of the sink that are built, by their group. -/
theorem mem_sinkTables_iff
    (records : List (ObjectRecord ν))
    (times : List Int)
    (source : String)
    (frame : φ) :
    (source, Except.ok frame) ∈ sinkTables p records times ↔
      ∃ group ∈ featureGroups, group.1 = source ∧
        featureTable p group.2 records times = .ok frame := by
  rw [sinkTables_eq, List.mem_map]
  simp only [Prod.mk.injEq]

/- Without a velocity table, the sink isolates the groups
   when no table is built at all. -/
theorem unbuilt_iff
    {records : List (ObjectRecord ν)}
    {times : List Int}
    {e : Failure}
    (hTable : velocityTable p records times = .error e) :
    VelocityFirst p records times ↔
      ∀ group ∈ featureGroups, ∀ frame,
        featureTable p group.2 records times ≠ .ok frame := by
  have hVelocity :
      featureTable p velocityColumns records times =
        .error e := by
    rw [← velocityTable_eq, hTable]
  rw [VelocityFirst, geoTable_eq, deviceTable_eq]
  constructor
  · rintro (⟨frame, hBuilt⟩ | hOthers)
    · rw [hTable] at hBuilt
      cases hBuilt
    · intro group hGroup frame hBuilt
      simp only [featureGroups, List.mem_cons,
        List.not_mem_nil, or_false] at hGroup
      rcases hGroup with rfl | rfl | rfl
      · rw [hVelocity] at hBuilt
        cases hBuilt
      · exact (hOthers frame).1 hBuilt
      · exact (hOthers frame).2 hBuilt
  · intro hUnbuilt
    refine .inr (fun frame => ⟨?_, ?_⟩)
    · exact
        hUnbuilt ("geo_push_source", geoColumns)
          (by simp [featureGroups]) frame
    · exact
        hUnbuilt ("device_push_source", deviceColumns)
          (by simp [featureGroups]) frame

/- With the velocity table built, the paths differ in
   nothing. -/
theorem agreeAndIsolate_of_built
    {r : ObjectRecord ν}
    {rest : List (ObjectRecord ν)}
    {times : List Int}
    {frame : φ}
    (hTimes : (r :: rest).mapM (eventTime p) = .ok times)
    (hBuilt :
      velocityTable p (r :: rest) times = .ok frame) :
    AgreeAndIsolate p store (r :: rest) ↔
      OnlyExceptions p store (r :: rest) times := by
  have hCalls :
      materializeCalls p store (r :: rest) =
        GuardedAttempt.calls Failure.isException
          (materializeAttempts p store (r :: rest)
            times) := by
    rw [materializeCalls, hTimes]
    rfl
  have hSame :
      sinkCalls p store (r :: rest) =
        materializeCalls p store (r :: rest) := by
    rw [hCalls, ← sinkAttempts_of_built hBuilt, sinkCalls,
      hTimes]
  rw [← materializer_isolates_iff, ← hCalls]
  constructor
  · intro hKept
    exact hKept.materializerIsolates times hTimes
  · intro hIsolates
    have hMade :
        ∀ times',
          (r :: rest).mapM (eventTime p) = .ok times' →
            ∀ group ∈ featureGroups, ∀ frame,
              featureTable p group.2 (r :: rest) times' =
                  .ok frame →
                ⟨group.1, frame⟩ ∈
                  materializeCalls p store (r :: rest) := by
      intro times' hTimes'
      rw [hTimes] at hTimes'
      cases hTimes'
      exact hIsolates
    refine ⟨hSame, ?_, hMade⟩
    intro times' hTimes' source frame hMem
    rcases (mem_sinkTables_iff _ _ _ _).1 hMem with
      ⟨group, hGroup, rfl, hTable⟩
    rw [hSame]
    exact hMade times' hTimes' group hGroup frame hTable

/- Without a velocity table, they agree when there is nothing
   to push. -/
theorem agreeAndIsolate_of_unbuilt
    {r : ObjectRecord ν}
    {rest : List (ObjectRecord ν)}
    {times : List Int}
    {e : Failure}
    (hTimes : (r :: rest).mapM (eventTime p) = .ok times)
    (hTable :
      velocityTable p (r :: rest) times = .error e) :
    AgreeAndIsolate p store (r :: rest) ↔
      ∀ group ∈ featureGroups, ∀ frame,
        featureTable p group.2 (r :: rest) times ≠
          .ok frame := by
  have hSink : sinkCalls p store (r :: rest) = [] := by
    rw [sinkCalls, hTimes]
    exact sinkCalls_of_unbuilt hTable
  constructor
  · intro hKept group hGroup frame hBuilt
    have hMade :=
      hKept.sinkIsolates times hTimes group.1 frame
        ((mem_sinkTables_iff _ _ _ _).2
          ⟨group, hGroup, rfl, hBuilt⟩)
    rw [hSink] at hMade
    exact List.not_mem_nil hMade
  · intro hUnbuilt
    have hNone :
        ∀ c, c ∉ materializeCalls p store (r :: rest) := by
      intro c hMem
      have hNominal :
          c ∈ (materializeAttempts p store (r :: rest)
            times).filterMap GuardedAttempt.call := by
        rw [materializeCalls, hTimes] at hMem
        exact (GuardedAttempt.calls_sublist _ _).subset hMem
      rcases List.mem_filterMap.1 hNominal with
        ⟨a, hAttempt, hCall⟩
      rcases List.mem_map.1 hAttempt with
        ⟨group, hGroup, rfl⟩
      exact
        hUnbuilt group hGroup c.frame
          ((pushAttempt_call_iff _ _ _).1 hCall).2
    refine ⟨?_, ?_, ?_⟩
    · rw [hSink, List.eq_nil_iff_forall_not_mem.2 hNone]
    · intro times' hTimes' source frame hMem
      rcases (mem_sinkTables_iff _ _ _ _).1 hMem with
        ⟨group, hGroup, -, hBuilt⟩
      rw [hTimes] at hTimes'
      cases hTimes'
      exact absurd hBuilt (hUnbuilt group hGroup frame)
    · intro times' hTimes' group hGroup frame hBuilt
      rw [hTimes] at hTimes'
      cases hTimes'
      exact absurd hBuilt (hUnbuilt group hGroup frame)

/-
  The two paths agree and isolate the groups of a nonempty
  batch exactly when its event times cannot be read, or its
  velocity table can be built if another one can, and no
  interrupt comes before a table that can be built.
-/
theorem push_paths_agree_iff
    (p : Platform ν α φ)
    (store : Store φ)
    (r : ObjectRecord ν)
    (rest : List (ObjectRecord ν)) :
    AgreeAndIsolate p store (r :: rest) ↔
      ∀ times,
        (r :: rest).mapM (eventTime p) = .ok times →
          VelocityFirst p (r :: rest) times ∧
            OnlyExceptions p store (r :: rest) times := by
  cases hTimes : (r :: rest).mapM (eventTime p) with
  | error e =>
      have hSink : sinkCalls p store (r :: rest) = [] := by
        rw [sinkCalls, hTimes]
      have hMaterialize :
          materializeCalls p store (r :: rest) = [] := by
        rw [materializeCalls, hTimes]
        rfl
      constructor
      · intro _ times hOk
        cases hOk
      · intro _
        refine ⟨by rw [hSink, hMaterialize], ?_, ?_⟩
        · intro times hOk
          rw [hTimes] at hOk
          cases hOk
        · intro times hOk
          rw [hTimes] at hOk
          cases hOk
  | ok times =>
      have hOnly :
          (∀ times',
            (.ok times : Except Failure (List Int)) =
                .ok times' →
              VelocityFirst p (r :: rest) times' ∧
                OnlyExceptions p store (r :: rest)
                  times') ↔
            VelocityFirst p (r :: rest) times ∧
              OnlyExceptions p store (r :: rest) times := by
        constructor
        · intro hAll
          exact hAll times rfl
        · intro hHere times' hEq
          cases hEq
          exact hHere
      rw [hOnly]
      cases hTable : velocityTable p (r :: rest) times with
      | ok frame =>
          rw [agreeAndIsolate_of_built hTimes hTable]
          exact
            (and_iff_right (.inl ⟨frame, hTable⟩)).symm
      | error e =>
          rw [agreeAndIsolate_of_unbuilt hTimes hTable,
            unbuilt_iff hTable]
          exact
            ⟨fun hUnbuilt =>
              ⟨hUnbuilt, onlyExceptions_of_unbuilt hUnbuilt⟩,
              And.left⟩

/- A record whose velocity count is not a number. -/
def unreadableVelocity : Record :=
  Dict.ofList
    [("transaction_id", .str "t"),
      ("account_id", .str "a"),
      ("event_time", .int 0),
      ("vel_count_1m", .str "abc")]

/- It keeps the sink from pushing any group. -/
theorem unreadable_velocity_blocks_the_sink :
    ¬ AgreeAndIsolate scalarPlatform (fun _ _ => none)
      [unreadableVelocity] := by
  intro hKept
  have hSources :
      (sinkCalls scalarPlatform (fun _ _ => none)
          [unreadableVelocity]).map PushCall.source =
        (materializeCalls scalarPlatform (fun _ _ => none)
          [unreadableVelocity]).map PushCall.source :=
    congrArg _ hKept.sameCalls
  have hSink :
      (sinkCalls scalarPlatform (fun _ _ => none)
        [unreadableVelocity]).map PushCall.source = [] := by
    decide +kernel
  have hMaterializer :
      (materializeCalls scalarPlatform (fun _ _ => none)
          [unreadableVelocity]).map PushCall.source =
        ["geo_push_source", "device_push_source"] := by
    decide +kernel
  rw [hSink, hMaterializer] at hSources
  cases hSources

end FeastPush

end FraudStream
