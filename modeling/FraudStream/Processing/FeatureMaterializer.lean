import FraudStream.Shared.FeatureSchema

/-
  Pushing the feature groups of a batch of records.

  A group is pushed as a table with a row a record, which is
  converted to a data frame column by column: an integer
  column with a null becomes a column of doubles. A group
  whose table cannot be built, or whose push the store
  refuses, is logged and skipped; the other groups go on.

  Key definitions include:
    * `FeatureRow`
    * `FeaturePush`
    * `FeatureMaterializer.toPandas`
    * `FeatureMaterializer.pushFeatureGroup`
    * `FeatureMaterializer.materialize`
-/

namespace FraudStream

structure FeatureRow where
  accountId : Scalar
  transactionId : Scalar
  eventTimestamp : Scalar
  features : List (String × Scalar)

/- A table pushed to a source. -/
structure FeaturePush where
  sourceName : String
  rows : List FeatureRow

namespace FeatureMaterializer

/- `int(r.get("event_time", 0))` -/
def eventTimestamp (r : Record) : Except PyError Int :=
  ((r.get? "event_time").getD (.int 0)).toInt

/- The row of a record. Both identifiers are text, and a
   timestamp is a 64-bit integer. -/
def featureRow
    (columns : List ColumnSpec)
    (r : Record) : Except PyError FeatureRow := do
  let accountId ←
    ArrowType.inferred.convert (r.get "account_id")
  let transactionId ←
    ArrowType.inferred.convert (r.get "transaction_id")
  let millis ← eventTimestamp r
  let timestamp ← ArrowType.int64.convert (.int millis)
  let features ← columns.mapM (fun c => c.cell r)
  pure
    { accountId := accountId
      transactionId := transactionId
      eventTimestamp := timestamp
      features := features }

/- A column of the table has a null. -/
def hasNull
    (rows : List FeatureRow)
    (field : String) : Bool :=
  rows.any (fun row =>
    Dict.lookupEntries field row.features = some .none)

/- A cell of a data frame. Integers beside a null are held
   as doubles, and the null, which is then not a number,
   stays a null to the store. -/
def pandasCell (nulls : Bool) : Scalar → Scalar
| .int n => if nulls then .float (.ofRat n) else .int n
| x => x

/- `pa.table(data).to_pandas()` -/
def toPandas (rows : List FeatureRow) : List FeatureRow :=
  rows.map (fun row =>
    { row with
      features := row.features.map (fun e =>
        (e.1, pandasCell (hasNull rows e.1) e.2)) })

def pushFeatureGroup
    (sourceName : String)
    (columns : List ColumnSpec)
    (records : List Record) : Except PyError FeaturePush :=
  match records.mapM (featureRow columns) with
  | .error e => .error e
  | .ok rows =>
      .ok
        { sourceName := sourceName, rows := toPandas rows }

/- The table of a group, if it is built and accepted. -/
def pushed?
    (accepts : FeaturePush → Bool)
    (records : List Record)
    (group : String × List ColumnSpec) : Option FeaturePush :=
  match pushFeatureGroup group.1 group.2 records with
  | .error _ => none
  | .ok push => if accepts push then some push else none

/- The tables that reach the store. The event times of all
   records are read before the first push. -/
def materialize
    (accepts : FeaturePush → Bool)
    (records : List Record) :
    Except PyError (List FeaturePush) :=
  if records.isEmpty then
    .ok []
  else
    match records.mapM eventTimestamp with
    | .error e => .error e
    | .ok _ =>
        .ok (featureGroups.filterMap (pushed? accepts records))

end FeatureMaterializer

end FraudStream

------------------------------------------------------------
-- The Rows Of A Push
------------------------------------------------------------

namespace FraudStream

namespace FeatureMaterializer

open FallibleList

/- What a row holds. -/
theorem featureRow_ok
    {columns : List ColumnSpec}
    {r : Record}
    {row : FeatureRow}
    (hRow : featureRow columns r = .ok row) :
    row.accountId = r.get "account_id" ∧
      List.Forall₂ (fun c x => c.cell r = .ok x) columns
        row.features := by
  unfold featureRow at hRow
  simp only [bind_ok_iff] at hRow
  rcases hRow with
    ⟨accountId, hAccount, _, -, _, -, _, -, features,
      hFeatures, hEq⟩
  cases hEq
  exact
    ⟨ArrowType.eq_of_convert (by decide) hAccount,
      (mapM_ok_iff _ _ _).1 hFeatures⟩

/- A field of a row is the cell of its column. -/
theorem lookup_features
    {columns : List ColumnSpec}
    {column : ColumnSpec}
    {r : Record}
    {features : List (String × Scalar)}
    (hNodup : (columns.map (·.field)).Nodup)
    (hColumn : column ∈ columns)
    (hFeatures :
      List.Forall₂ (fun c x => c.cell r = .ok x) columns
        features) :
    ∃ x, Dict.lookupEntries column.field features = some x ∧
      column.cell r = .ok (column.field, x) := by
  induction hFeatures with
  | nil => cases hColumn
  | @cons c y columns features hCell hTail ih =>
      rw [List.map_cons, List.nodup_cons] at hNodup
      rcases (c.cell_ok_iff r y).1 hCell with
        ⟨-, x, -, -, rfl⟩
      rcases List.mem_cons.1 hColumn with rfl | hLater
      · exact ⟨x, by simp [Dict.lookupEntries], hCell⟩
      · have hOther : column.field ≠ c.field := by
          intro hEq
          apply hNodup.1
          rw [← hEq]
          exact List.mem_map_of_mem hLater
        rcases ih hNodup.2 hLater with ⟨x', hLookup, hOk⟩
        exact
          ⟨x', by simp [Dict.lookupEntries, hOther, hLookup],
            hOk⟩

/- A column has a null when a record of the batch gives it
   one. -/
theorem hasNull_iff
    {columns : List ColumnSpec}
    {column : ColumnSpec}
    {records : List Record}
    {rows : List FeatureRow}
    (hNodup : (columns.map (·.field)).Nodup)
    (hColumn : column ∈ columns)
    (hRows :
      List.Forall₂
        (fun r row => featureRow columns r = .ok row)
        records rows) :
    hasNull rows column.field = true ↔
      ∃ r ∈ records,
        column.cell r = .ok (column.field, .none) := by
  have hCell :
      ∀ r row, featureRow columns r = .ok row →
        (Dict.lookupEntries column.field row.features =
            some .none ↔
          column.cell r = .ok (column.field, .none)) := by
    intro r row hRow
    rcases lookup_features hNodup hColumn
      (featureRow_ok hRow).2 with ⟨x, hLookup, hOk⟩
    rw [hLookup, hOk]
    simp
  unfold hasNull
  rw [List.any_eq_true]
  constructor
  · rintro ⟨row, hMem, hNull⟩
    rcases forall₂_mem_right hRows hMem with
      ⟨r, hRecord, hRow⟩
    exact
      ⟨r, hRecord, (hCell r row hRow).1 (by simpa using hNull)⟩
  · rintro ⟨r, hRecord, hNull⟩
    rcases forall₂_mem_right hRows.flip hRecord with
      ⟨row, hMem, hRow⟩
    exact
      ⟨row, hMem, by simpa using (hCell r row hRow).2 hNull⟩

/- Nothing but an integer is converted. -/
@[simp] theorem pandasCell_eq_none_iff
    (nulls : Bool)
    (x : Scalar) :
    pandasCell nulls x = .none ↔ x = .none := by
  cases x with
  | int n => cases nulls <;> simp [pandasCell]
  | none => simp [pandasCell]
  | bool b => simp [pandasCell]
  | float f => simp [pandasCell]
  | decimal d => simp [pandasCell]
  | str s => simp [pandasCell]

theorem pandasCell_of_not_int
    {nulls : Bool}
    {x : Scalar}
    (hOther : ∀ n, x ≠ .int n) :
    pandasCell nulls x = x := by
  cases x with
  | int n => exact absurd rfl (hOther n)
  | none => rfl
  | bool b => rfl
  | float f => rfl
  | decimal d => rfl
  | str s => rfl

@[simp] theorem pandasCell_false
    (x : Scalar) :
    pandasCell false x = x := by
  cases x with
  | int n => rfl
  | none => rfl
  | bool b => rfl
  | float f => rfl
  | decimal d => rfl
  | str s => rfl

end FeatureMaterializer

end FraudStream
