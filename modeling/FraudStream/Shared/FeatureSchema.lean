import FraudStream.Library.FallibleList
import FraudStream.Processing.Enricher

/-
  The columns of the feature groups.

  A column names its field, the type of its cells, and how a
  cell is extracted from a record. A column without a type
  holds text. A cell that does not fit its type is an error.

  Key definitions include:
    * `ArrowType.convert`
    * `ColumnSpec`
    * `velocityColumns`
    * `geoColumns`
    * `deviceColumns`
    * `featureGroups`
-/

------------------------------------------------------------
-- Column Types
------------------------------------------------------------

namespace FraudStream

inductive ArrowType where
| int32
| int64
| float32
| float64
| bool
| inferred
deriving DecidableEq, Repr

/- A signed integer of so many bits. -/
def FitsBits
    (bits : Nat)
    (n : Int) : Prop :=
  -(2 ^ (bits - 1)) ≤ n ∧ n < 2 ^ (bits - 1)

instance
    (bits : Nat)
    (n : Int) : Decidable (FitsBits bits n) := by
  unfold FitsBits
  infer_instance

/-
  One cell of `pa.array(values, type=...)`, by pyarrow's
  documented rule: null stays null, an integer that does not
  fit in the type is refused, a single is the nearest one to
  the double, and any other cell must be of the type's kind.
  Which exception a refused cell raises is read by nothing.
-/
def ArrowType.convert :
    ArrowType → Scalar → Except PyError Scalar
| _, .none => .ok .none
| .int32, .int n =>
    if FitsBits 32 n then
      .ok (.int n)
    else
      .error .overflowError
| .int64, .int n =>
    if FitsBits 64 n then
      .ok (.int n)
    else
      .error .overflowError
| .float32, .float f => .ok (.float f.toSingle)
| .float64, .float f => .ok (.float f)
| .bool, .bool b => .ok (.bool b)
| .inferred, .str s => .ok (.str s)
| _, _ => .error .typeError

/- A cell that fits is unchanged, except that a double is
   rounded to a single. -/
theorem ArrowType.eq_of_convert
    {type : ArrowType}
    {x y : Scalar}
    (hType : type ≠ .float32)
    (hFits : type.convert x = .ok y) :
    y = x := by
  cases type with
  | int32 =>
      cases x with
      | int n =>
          simp only [convert] at hFits
          split at hFits
          · cases hFits
            rfl
          · cases hFits
      | none => cases hFits; rfl
      | bool b => cases hFits
      | float f => cases hFits
      | decimal d => cases hFits
      | str s => cases hFits
  | int64 =>
      cases x with
      | int n =>
          simp only [convert] at hFits
          split at hFits
          · cases hFits
            rfl
          · cases hFits
      | none => cases hFits; rfl
      | bool b => cases hFits
      | float f => cases hFits
      | decimal d => cases hFits
      | str s => cases hFits
  | float32 => exact absurd rfl hType
  | float64 => cases x <;> cases hFits <;> rfl
  | bool => cases x <;> cases hFits <;> rfl
  | inferred => cases x <;> cases hFits <;> rfl

end FraudStream

------------------------------------------------------------
-- Extractors
------------------------------------------------------------

namespace FraudStream

structure ColumnSpec where
  field : String
  arrowType : ArrowType
  extract : Record → Except PyError Scalar

namespace ColumnSpec

/- `int(r.get(field) or 0)` -/
def intOrZero
    (field : String)
    (r : Record) : Except PyError Scalar :=
  ((r.get field).orElse (.int 0)).toInt.map .int

/- `float(r.get(field) or 0)` -/
def floatOrZero
    (field : String)
    (r : Record) : Except PyError Scalar :=
  ((r.get field).orElse (.int 0)).toFloat.map .float

/- `r.get(field) or ""` -/
def textOrEmpty
    (field : String)
    (r : Record) : Except PyError Scalar :=
  .ok ((r.get field).orElse (.str ""))

/- `int(r[field]) if r.get(field) else None` -/
def intOrNull
    (field : String)
    (r : Record) : Except PyError Scalar :=
  if (r.get field).truthy then
    (r.get field).toInt.map .int
  else
    .ok .none

/- `bool(r.get(field, False))` -/
def boolOrFalse
    (field : String)
    (r : Record) : Except PyError Scalar :=
  .ok (.bool ((r.get? field).getD (.bool false)).truthy)

/- The column that an extractor fills from one field. -/
def of
    (arrowType : ArrowType)
    (extractor : String → Record → Except PyError Scalar)
    (field : String) : ColumnSpec where
  field := field
  arrowType := arrowType
  extract := extractor field

/- The cell of a record under its field name. -/
def cell
    (column : ColumnSpec)
    (r : Record) : Except PyError (String × Scalar) := do
  let value ← column.extract r
  let converted ← column.arrowType.convert value
  pure (column.field, converted)

/- A cell is the converted value under the field name. -/
theorem cell_ok_iff
    (column : ColumnSpec)
    (r : Record)
    (y : String × Scalar) :
    column.cell r = .ok y ↔
      ∃ x z, column.extract r = .ok x ∧
        column.arrowType.convert x = .ok z ∧
        y = (column.field, z) := by
  unfold cell
  rw [FallibleList.bind_ok_iff]
  constructor
  · rintro ⟨x, hExtract, hRest⟩
    rcases (FallibleList.bind_ok_iff _ _ _).1 hRest with
      ⟨z, hConvert, hEq⟩
    cases hEq
    exact ⟨x, z, hExtract, hConvert, rfl⟩
  · rintro ⟨x, z, hExtract, hConvert, rfl⟩
    refine
      ⟨x, hExtract, (FallibleList.bind_ok_iff _ _ _).2 ?_⟩
    exact ⟨z, hConvert, rfl⟩

end ColumnSpec

end FraudStream

------------------------------------------------------------
-- Feature Groups
------------------------------------------------------------

namespace FraudStream

open ColumnSpec

def velocityColumns : List ColumnSpec :=
  [.of .int32 intOrZero "vel_count_1m",
    .of .float64 floatOrZero "vel_amount_1m",
    .of .int32 intOrZero "vel_count_5m",
    .of .float64 floatOrZero "vel_amount_5m",
    .of .int32 intOrZero "vel_count_1h",
    .of .float64 floatOrZero "vel_amount_1h",
    .of .int32 intOrZero "vel_count_24h",
    .of .float64 floatOrZero "vel_amount_24h"]

def geoColumns : List ColumnSpec :=
  [.of .inferred textOrEmpty "geo_country",
    .of .inferred textOrEmpty "geo_city",
    .of .inferred textOrEmpty "geo_network_class",
    .of .float64 floatOrZero "geo_confidence",
    .of .float32 floatOrZero "geo_lat",
    .of .float32 floatOrZero "geo_lon"]

def deviceColumns : List ColumnSpec :=
  [.of .int64 intOrNull "device_first_seen",
    .of .int64 intOrZero "device_txn_count",
    .of .bool boolOrFalse "device_known_fraud",
    .of .inferred textOrEmpty "prev_geo_country",
    .of .int64 intOrNull "prev_txn_time_ms"]

/- The columns of each push source, in push order. -/
def featureGroups : List (String × List ColumnSpec) :=
  [("velocity_push_source", velocityColumns),
    ("geo_push_source", geoColumns),
    ("device_push_source", deviceColumns)]

end FraudStream

------------------------------------------------------------
-- Extracted Values
------------------------------------------------------------

namespace FraudStream

namespace ColumnSpec

/- A null value and a zero are extracted alike. -/
theorem intOrZero_of_get
    {field : String}
    {r : Record}
    {n : Option Int}
    (hField : r.get field = .ofOption .int n) :
    intOrZero field r = .ok (.int (n.getD 0)) := by
  unfold intOrZero
  rw [hField]
  cases n with
  | none => rfl
  | some n =>
      by_cases hZero : n = 0
      · rw [hZero]
        rfl
      · simp [Scalar.ofOption, Scalar.orElse,
          Scalar.truthy, hZero, Scalar.toInt, Except.map]

theorem floatOrZero_of_get
    {field : String}
    {r : Record}
    {f : Option PyFloat}
    (hField : r.get field = .ofOption .float f) :
    floatOrZero field r =
      .ok (.float (f.getD (.finite 0))) := by
  unfold floatOrZero
  rw [hField]
  cases f with
  | none => rfl
  | some f =>
      by_cases hZero : f = .finite 0
      · rw [hZero]
        rfl
      · have hTruthy : f.truthy := by
          cases f with
          | finite v => simpa [PyFloat.truthy] using hZero
          | inf negative => rfl
          | nan => rfl
        simp [Scalar.ofOption, Scalar.orElse,
          Scalar.truthy, hTruthy, Scalar.toFloat, Except.map]

theorem floatOrZero_of_decimal
    {field : String}
    {r : Record}
    {v : ℚ}
    (hField : r.get field = .decimal (.finite v)) :
    floatOrZero field r = .ok (.float (.ofRat v)) := by
  unfold floatOrZero
  rw [hField]
  by_cases hZero : v = 0
  · rw [hZero]
    rfl
  · simp [Scalar.orElse, Scalar.truthy, Decimal.truthy,
      hZero, Scalar.toFloat, Except.map]

theorem textOrEmpty_of_get
    {field : String}
    {r : Record}
    {s : Option String}
    (hField : r.get field = .ofOption .str s) :
    textOrEmpty field r = .ok (.str (s.getD "")) := by
  unfold textOrEmpty
  rw [hField]
  cases s with
  | none => rfl
  | some s =>
      by_cases hEmpty : s = ""
      · rw [hEmpty]
        rfl
      · simp [Scalar.ofOption, Scalar.orElse,
          Scalar.truthy, hEmpty]

/- A null value and a zero are both extracted as null. -/
theorem intOrNull_of_get
    {field : String}
    {r : Record}
    {n : Option Int}
    (hField : r.get field = .ofOption .int n) :
    intOrNull field r =
      .ok (.ofOption .int (n.filter (· ≠ 0))) := by
  unfold intOrNull
  rw [hField]
  cases n with
  | none => rfl
  | some n =>
      by_cases hZero : n = 0
      · rw [hZero]
        rfl
      · simp [Scalar.ofOption, Scalar.truthy, hZero,
          Scalar.toInt, Except.map, Option.filter]

theorem boolOrFalse_of_get?
    {field : String}
    {r : Record}
    {b : Option Bool}
    (hField : r.get? field = some (.ofOption .bool b)) :
    boolOrFalse field r = .ok (.bool (b.getD false)) := by
  unfold boolOrFalse
  rw [hField]
  cases b <;> rfl

end ColumnSpec

end FraudStream
