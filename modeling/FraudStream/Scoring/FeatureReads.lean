import FraudStream.Processing.Job.Clock
import FraudStream.Scoring.FeatureServing

/-
  What the store returns of a record whose features were
  pushed last for its account.

  A field reads as the cell that its column extracts from
  the record, converted with its column. Two columns of the
  device group extract a null from a null or zero field, and
  hold doubles when a record of the batch has such a field;
  every other column extracts its default for a null.

  Key definitions include:
    * `LastPushed`
    * `LastStored`
    * `FeatureTyped`
    * `vectorOf`

  The main results are:
    * `LastPushed.lastStored`
    * `readField_of_lastStored`
    * `featureTyped_assemble`
    * `getOnlineFeatures_of_lastStored`
    * `getOnlineFeatures_of_lastPushed`
-/

------------------------------------------------------------
-- Reading The Last Push
------------------------------------------------------------

namespace FraudStream

open FallibleList FeatureMaterializer LastWrite

/- All groups of a record are pushed in a batch, and nothing
   is pushed for its account afterwards. -/
structure LastPushed
    (r : Record)
    (accountId : String)
    (batch : List Record)
    (store : OnlineStore) : Prop where
  account : r.get "account_id" = .str accountId
  pushed :
    ∃ accepts before after earlier pushes later,
      batch = before ++ r :: after ∧
        materialize accepts batch = .ok pushes ∧
        pushes.map (·.sourceName) =
          featureGroups.map Prod.fst ∧
        (∀ r' ∈ after,
          r'.get "account_id" ≠ .str accountId) ∧
        store = earlier ++ pushes ++ later ∧
        ∀ push ∈ later, ∀ row ∈ push.rows,
          row.accountId ≠ .str accountId

/- A group of a record is pushed in a batch, and nothing is
   pushed to its source for the account afterwards. -/
structure LastStored
    (group : String × List ColumnSpec)
    (r : Record)
    (accountId : String)
    (batch : List Record)
    (store : OnlineStore) : Prop where
  account : r.get "account_id" = .str accountId
  pushed :
    ∃ accepts before after earlier push later,
      batch = before ++ r :: after ∧
        pushed? accepts batch group = some push ∧
        (∀ r' ∈ after,
          r'.get "account_id" ≠ .str accountId) ∧
        store = earlier ++ push :: later ∧
        ∀ table ∈ later, ∀ e ∈ OnlineStore.writes table,
          e.1 ≠ (group.1, .str accountId)

/- A pushed table has the name of its group and a row for
   each record. -/
theorem pushed?_eq_some
    {accepts : FeaturePush → Bool}
    {records : List Record}
    {group : String × List ColumnSpec}
    {push : FeaturePush}
    (hPushed : pushed? accepts records group = some push) :
    push.sourceName = group.1 ∧
      ∃ rows,
        List.Forall₂
            (fun r row => featureRow group.2 r = .ok row)
            records rows ∧
          push.rows = toPandas rows := by
  unfold pushed? pushFeatureGroup at hPushed
  cases hRows : records.mapM (featureRow group.2) with
  | error e => simp [hRows] at hPushed
  | ok rows =>
      simp only [hRows] at hPushed
      split at hPushed
      · cases hPushed
        exact ⟨rfl, rows, (mapM_ok_iff _ _ _).1 hRows, rfl⟩
      · cases hPushed

/- The tables of a batch that reach the store. -/
theorem forall₂_of_materialize
    {accepts : FeaturePush → Bool}
    {records : List Record}
    {pushes : List FeaturePush}
    (hPushes : materialize accepts records = .ok pushes)
    (hAll :
      pushes.map (·.sourceName) =
        featureGroups.map Prod.fst) :
    List.Forall₂
      (fun group push =>
        pushed? accepts records group = some push)
      featureGroups pushes := by
  unfold materialize at hPushes
  split at hPushes
  · cases hPushes
    simp [featureGroups] at hAll
  · split at hPushes
    · cases hPushes
    · cases hPushes
      apply filterMap_of_length
      simpa using congrArg List.length hAll

/- A table of another source has no rows under a source. -/
theorem writes_of_other
    {push : FeaturePush}
    {source : String}
    (hOther : push.sourceName ≠ source)
    (account : Scalar) :
    ∀ e ∈ OnlineStore.writes push, e.1 ≠ (source, account) := by
  intro e hMem hEq
  rcases List.mem_map.1 hMem with ⟨row, -, rfl⟩
  exact hOther (congrArg Prod.fst hEq)

/- A table without rows of an account. -/
theorem writes_of_no_account
    {push : FeaturePush}
    {account : Scalar}
    (hNone : ∀ row ∈ push.rows, row.accountId ≠ account)
    (source : String) :
    ∀ e ∈ OnlineStore.writes push, e.1 ≠ (source, account) := by
  intro e hMem hEq
  rcases List.mem_map.1 hMem with ⟨row, hRow, rfl⟩
  exact hNone row hRow (congrArg Prod.snd hEq)

/- Each push source belongs to one group, and each field to
   one column. -/
theorem nodup_sources :
    (featureGroups.map Prod.fst).Nodup := by
  decide

theorem source_ne_of_split
    {group : String × List ColumnSpec}
    {groups groups' : List (String × List ColumnSpec)}
    (hGroups : featureGroups = groups ++ group :: groups') :
    ∀ other ∈ groups', group.1 ≠ other.1 := by
  intro other hOther
  have hNodup := nodup_sources
  rw [hGroups, List.map_append, List.map_cons,
    List.nodup_append, List.nodup_cons] at hNodup
  intro hEq
  apply hNodup.2.1.1
  rw [hEq]
  exact List.mem_map_of_mem hOther

theorem nodup_fields
    {group : String × List ColumnSpec}
    (hGroup : group ∈ featureGroups) :
    (group.2.map (·.field)).Nodup := by
  simp only [featureGroups, List.mem_cons,
    List.not_mem_nil, or_false] at hGroup
  rcases hGroup with rfl | rfl | rfl <;> decide

/- The row of a record is the last of its account in a table
   when no later record has the account. -/
theorem writes_of_last_record
    {accepts : FeaturePush → Bool}
    {before after : List Record}
    {r : Record}
    {account : Scalar}
    (hAccount : r.get "account_id" = account)
    (hAfter : ∀ r' ∈ after, r'.get "account_id" ≠ account)
    {group : String × List ColumnSpec}
    {push : FeaturePush}
    (hPushed :
      pushed? accepts (before ++ r :: after) group =
        some push) :
    ∃ table features written written',
      List.Forall₂
          (fun r row => featureRow group.2 r = .ok row)
          (before ++ r :: after) table ∧
        List.Forall₂ (fun c x => c.cell r = .ok x) group.2
          features ∧
        OnlineStore.writes push =
          written ++
            ((group.1, account),
              features.map (fun e =>
                (e.1,
                  pandasCell (hasNull table e.1) e.2))) ::
              written' ∧
        ∀ e ∈ written', e.1 ≠ (group.1, account) := by
  rcases pushed?_eq_some hPushed with
    ⟨hName, table, hRows, hFrame⟩
  rcases forall₂_split hRows with
    ⟨rows, row, rows', hSplit, -, hRow, hRows'⟩
  rcases featureRow_ok hRow with ⟨hRowAccount, hFeatures⟩
  let write (row : FeatureRow) :=
    ((group.1, row.accountId),
      row.features.map (fun e =>
        (e.1, pandasCell (hasNull table e.1) e.2)))
  have hWrites :
      OnlineStore.writes push = table.map write := by
    rw [OnlineStore.writes, hFrame, hName, toPandas,
      List.map_map]
    rfl
  refine
    ⟨table, row.features, rows.map write, rows'.map write,
      hRows, hFeatures, ?_, ?_⟩
  · rw [hWrites, hSplit, List.map_append, List.map_cons,
      ← hAccount, ← hRowAccount, ← hSplit]
  · intro e hMem hEq
    rcases List.mem_map.1 hMem with ⟨row', hRow', rfl⟩
    rcases forall₂_mem_right hRows' hRow' with
      ⟨r', hRecord, hOther⟩
    apply hAfter r' hRecord
    rw [← (featureRow_ok hOther).1]
    exact congrArg Prod.snd hEq

/- After a batch, each of its groups is stored last. -/
theorem LastPushed.lastStored
    {r : Record}
    {accountId : String}
    {batch : List Record}
    {store : OnlineStore}
    (hLast : LastPushed r accountId batch store)
    {group : String × List ColumnSpec}
    (hGroup : group ∈ featureGroups) :
    LastStored group r accountId batch store := by
  rcases hLast.pushed with
    ⟨accepts, before, after, earlier, pushes, later, hBatch,
      hPushes, hAll, hAfter, rfl, hLater⟩
  have hTables := forall₂_of_materialize hPushes hAll
  rcases List.append_of_mem hGroup with
    ⟨groups, groups', hGroups⟩
  rw [hGroups] at hTables
  rcases forall₂_split hTables with
    ⟨tables, push, tables', rfl, -, hPush, hTables'⟩
  refine
    ⟨hLast.account, accepts, before, after,
      earlier ++ tables, push, tables' ++ later, hBatch,
      hPush, hAfter, by simp, ?_⟩
  -- A later table has another source or no such account.
  intro table hTable
  rcases List.mem_append.1 hTable with hBatch | hLater'
  · rcases forall₂_mem_right hTables' hBatch with
      ⟨other, hOther, hPush'⟩
    apply writes_of_other
    rw [(pushed?_eq_some hPush').1]
    exact (source_ne_of_split hGroups other hOther).symm
  · exact writes_of_no_account (hLater table hLater') _

/-
  A field that is read after the last push of a group is the
  cell of the record, converted with its column.
-/
theorem readField_of_lastStored
    {group : String × List ColumnSpec}
    {r : Record}
    {accountId : String}
    {batch : List Record}
    {store : OnlineStore}
    (hLast : LastStored group r accountId batch store)
    (hGroup : group ∈ featureGroups)
    {column : ColumnSpec}
    (hColumn : column ∈ group.2)
    {ref : FeatureRef}
    (hSource : ref.source = group.1)
    (hField : ref.field = column.field) :
    ∃ x nulls,
      column.cell r = .ok (column.field, x) ∧
        (nulls = true ↔
          ∃ r' ∈ batch,
            column.cell r' = .ok (column.field, .none)) ∧
        store.readField accountId ref =
          pandasCell nulls x := by
  rcases hLast.pushed with
    ⟨accepts, before, after, earlier, push, later, rfl,
      hPush, hAfter, rfl, hLater⟩
  rcases writes_of_last_record hLast.account hAfter hPush with
    ⟨table, features, written, written', hTable, hFeatures,
      hWrites, hOtherRows⟩
  have hRead :=
    read_flatMap_of_last earlier hWrites hOtherRows hLater
  have hNodup := nodup_fields hGroup
  rcases lookup_features hNodup hColumn hFeatures with
    ⟨x, hLookup, hCell⟩
  refine
    ⟨x, hasNull table column.field, hCell,
      hasNull_iff hNodup hColumn hTable, ?_⟩
  rw [OnlineStore.readField, hSource, hField,
    OnlineStore.log, hRead, Option.bind_some,
    Dict.lookupEntries_map
      (fun name x => pandasCell (hasNull table name) x),
    hLookup]
  rfl

end FraudStream

------------------------------------------------------------
-- Typed Fields
------------------------------------------------------------

namespace FraudStream

/- The value of an integer field, or the default of null. -/
def Record.intOr
    (r : Record)
    (name : String)
    (default : Int) : Int :=
  match r.get name with
  | .int n => n
  | _ => default

/- The value of a number as a float. -/
def Record.floatOr
    (r : Record)
    (name : String)
    (default : PyFloat) : PyFloat :=
  match r.get name with
  | .float f => f
  | .decimal (.finite v) => .ofRat v
  | _ => default

def Record.textOr
    (r : Record)
    (name : String)
    (default : String) : String :=
  match r.get name with
  | .str s => s
  | _ => default

def Record.boolOr
    (r : Record)
    (name : String)
    (default : Bool) : Bool :=
  match r.get name with
  | .bool b => b
  | _ => default

theorem Record.intOr_of_get
    {r : Record}
    {name : String}
    {n : Option Int}
    (hField : r.get name = .ofOption .int n)
    (default : Int) :
    r.intOr name default = n.getD default := by
  rw [Record.intOr, hField]
  cases n <;> rfl

theorem Record.textOr_of_get
    {r : Record}
    {name : String}
    {s : Option String}
    (hField : r.get name = .ofOption .str s)
    (default : String) :
    r.textOr name default = s.getD default := by
  rw [Record.textOr, hField]
  cases s <;> rfl

/- The vector of a record: its values, and the default of a
   field for a null. -/
def vectorOf (r : Record) : FeatureVector :=
  let zero := zeroFeatureVector
  { accountId := r.textOr "account_id" zero.accountId
    velCount1m := r.intOr "vel_count_1m" zero.velCount1m
    velAmount1m := r.floatOr "vel_amount_1m" zero.velAmount1m
    velCount5m := r.intOr "vel_count_5m" zero.velCount5m
    velAmount5m := r.floatOr "vel_amount_5m" zero.velAmount5m
    velCount1h := r.intOr "vel_count_1h" zero.velCount1h
    velAmount1h := r.floatOr "vel_amount_1h" zero.velAmount1h
    velCount24h := r.intOr "vel_count_24h" zero.velCount24h
    velAmount24h :=
      r.floatOr "vel_amount_24h" zero.velAmount24h
    geoCountry := r.textOr "geo_country" zero.geoCountry
    geoCity := r.textOr "geo_city" zero.geoCity
    geoNetworkClass :=
      r.textOr "geo_network_class" zero.geoNetworkClass
    geoConfidence :=
      r.floatOr "geo_confidence" zero.geoConfidence
    deviceFirstSeen :=
      r.intOr "device_first_seen" zero.deviceFirstSeen
    deviceTxnCount :=
      r.intOr "device_txn_count" zero.deviceTxnCount
    deviceKnownFraud :=
      r.boolOr "device_known_fraud" zero.deviceKnownFraud
    prevGeoCountry :=
      r.textOr "prev_geo_country" zero.prevGeoCountry
    prevTxnTimeMs :=
      r.intOr "prev_txn_time_ms" zero.prevTxnTimeMs }

def countFields : List String :=
  ["vel_count_1m", "vel_count_5m", "vel_count_1h",
    "vel_count_24h"]

def amountFields : List String :=
  ["vel_amount_1m", "vel_amount_5m", "vel_amount_1h",
    "vel_amount_24h"]

def placeFields : List String :=
  ["geo_country", "geo_city", "geo_network_class"]

def timeFields : List String :=
  ["device_first_seen", "prev_txn_time_ms"]

def intFields : List String :=
  "device_txn_count" :: (countFields ++ timeFields)

def textFields : List String :=
  "prev_geo_country" :: placeFields

/- The feature fields hold values of their types or null. -/
structure FeatureTyped (r : Record) : Prop where
  ints :
    ∀ name ∈ intFields, ∃ n : Option Int,
      r.get name = .ofOption .int n
  amounts :
    ∀ name ∈ amountFields, ∃ v : ℚ,
      r.get name = .decimal (.finite v)
  texts :
    ∀ name ∈ textFields, ∃ s : Option String,
      r.get name = .ofOption .str s
  confidence :
    ∃ c : Option PyFloat,
      r.get "geo_confidence" = .ofOption .float c
  knownFraud :
    ∃ b : Option Bool,
      r.get? "device_known_fraud" =
        some (.ofOption .bool b)

/- The feature fields of an assembled record. -/
theorem feature_fields_assemble
    (enrichmentTime : Int)
    (d : DeviceEnriched) :
    let r := assemble enrichmentTime d
    (r.get "vel_count_1m" = .int (d.velocity .m1).1 ∧
      r.get "vel_count_5m" = .int (d.velocity .m5).1 ∧
      r.get "vel_count_1h" = .int (d.velocity .h1).1 ∧
      r.get "vel_count_24h" = .int (d.velocity .h24).1) ∧
    (r.get "vel_amount_1m" =
        .decimal (.finite (d.velocity .m1).2) ∧
      r.get "vel_amount_5m" =
        .decimal (.finite (d.velocity .m5).2) ∧
      r.get "vel_amount_1h" =
        .decimal (.finite (d.velocity .h1).2) ∧
      r.get "vel_amount_24h" =
        .decimal (.finite (d.velocity .h24).2)) ∧
    (r.get "geo_country" = .ofOption .str d.geo.geoCountry ∧
      r.get "geo_city" = .ofOption .str d.geo.geoCity ∧
      r.get "geo_network_class" =
        .ofOption .str d.geo.geoNetworkClass ∧
      r.get "geo_confidence" =
        .ofOption .float d.geo.geoConfidence) ∧
    r.get "device_first_seen" =
        .ofOption .int d.device.deviceFirstSeen ∧
      r.get "device_txn_count" =
        .ofOption .int (d.device.deviceTxnCount.map (↑·)) ∧
      r.get? "device_known_fraud" =
        some (.ofOption .bool d.device.deviceKnownFraud) ∧
      r.get "prev_geo_country" =
        .ofOption .str d.device.prevGeoCountry ∧
      r.get "prev_txn_time_ms" =
        .ofOption .int d.device.prevTxnTimeMs := by
  simp [get_assemble, get?_assemble, recordEntries,
    Dict.lookupEntries, velocityCount, velocityAmount,
    optionalInt, optionalString, optionalFloat]

/- The features of an assembled record are typed. -/
theorem featureTyped_assemble
    (enrichmentTime : Int)
    (d : DeviceEnriched) :
    FeatureTyped (assemble enrichmentTime d) := by
  rcases feature_fields_assemble enrichmentTime d with
    ⟨⟨hCount1m, hCount5m, hCount1h, hCount24h⟩,
      ⟨hAmount1m, hAmount5m, hAmount1h, hAmount24h⟩,
      ⟨hCountry, hCity, hClass, hConfidence⟩,
      hSeen, hTxns, hFraud, hPrevious, hTime⟩
  constructor
  · simp only [intFields, countFields, timeFields,
      List.cons_append, List.nil_append,
      List.forall_mem_cons]
    exact
      ⟨⟨_, hTxns⟩, ⟨some _, hCount1m⟩,
        ⟨some _, hCount5m⟩, ⟨some _, hCount1h⟩,
        ⟨some _, hCount24h⟩, ⟨_, hSeen⟩, ⟨_, hTime⟩,
        List.forall_mem_nil _⟩
  · simp only [amountFields, List.forall_mem_cons]
    exact
      ⟨⟨_, hAmount1m⟩, ⟨_, hAmount5m⟩, ⟨_, hAmount1h⟩,
        ⟨_, hAmount24h⟩, List.forall_mem_nil _⟩
  · simp only [textFields, placeFields,
      List.forall_mem_cons]
    exact
      ⟨⟨_, hPrevious⟩, ⟨_, hCountry⟩, ⟨_, hCity⟩,
        ⟨_, hClass⟩, List.forall_mem_nil _⟩
  · exact ⟨_, hConfidence⟩
  · exact ⟨_, hFraud⟩

end FraudStream

------------------------------------------------------------
-- What The Store Returns
------------------------------------------------------------

namespace FraudStream

/- An integer field, or null for a null or a zero. -/
def Record.intOrNull
    (r : Record)
    (name : String) : Scalar :=
  if (r.get name).truthy then
    .int (r.intOr name 0)
  else
    .none

/- A time of a record in the frame of its batch: a double
   when some record of the batch has none. -/
def frameTime
    (batch : List Record)
    (r : Record)
    (name : String) : Scalar :=
  FeatureMaterializer.pandasCell
    (batch.any (fun r' => !(r'.get name).truthy))
    (r.intOrNull name)

/- The velocity features that are served of a record. -/
def servedVelocity (r : Record) : List (String × Scalar) :=
  [("vel_count_1m", .int (r.intOr "vel_count_1m" 0)),
    ("vel_amount_1m",
      .float (r.floatOr "vel_amount_1m" (.finite 0))),
    ("vel_count_5m", .int (r.intOr "vel_count_5m" 0)),
    ("vel_amount_5m",
      .float (r.floatOr "vel_amount_5m" (.finite 0))),
    ("vel_count_1h", .int (r.intOr "vel_count_1h" 0)),
    ("vel_amount_1h",
      .float (r.floatOr "vel_amount_1h" (.finite 0))),
    ("vel_count_24h", .int (r.intOr "vel_count_24h" 0)),
    ("vel_amount_24h",
      .float (r.floatOr "vel_amount_24h" (.finite 0)))]

def servedGeo (r : Record) : List (String × Scalar) :=
  [("geo_country", .str (r.textOr "geo_country" "")),
    ("geo_city", .str (r.textOr "geo_city" "")),
    ("geo_network_class",
      .str (r.textOr "geo_network_class" "")),
    ("geo_confidence",
      .float (r.floatOr "geo_confidence" (.finite 0)))]

def servedDevice
    (batch : List Record)
    (r : Record) : List (String × Scalar) :=
  [("device_first_seen",
      frameTime batch r "device_first_seen"),
    ("device_txn_count",
      .int (r.intOr "device_txn_count" 0)),
    ("device_known_fraud",
      .bool (r.boolOr "device_known_fraud" false)),
    ("prev_geo_country",
      .str (r.textOr "prev_geo_country" "")),
    ("prev_txn_time_ms",
      frameTime batch r "prev_txn_time_ms")]

/- The features that are served of a record of a batch. -/
def servedFeatures
    (batch : List Record)
    (r : Record) : List (String × Scalar) :=
  servedVelocity r ++ servedGeo r ++ servedDevice batch r

@[simp] theorem frameTime_eq_none_iff
    (batch : List Record)
    (r : Record)
    (name : String) :
    frameTime batch r name = .none ↔
      ¬ (r.get name).truthy := by
  rw [frameTime,
    FeatureMaterializer.pandasCell_eq_none_iff,
    Record.intOrNull]
  split
  · simp_all
  · simp_all

/- Alone in its batch, a time is not converted. -/
theorem frameTime_single
    (r : Record)
    (name : String) :
    frameTime [r] r name = r.intOrNull name := by
  rw [frameTime, Record.intOrNull]
  split
  · rename_i hKnown
    simp [hKnown]
  · rfl

theorem velocity_mem_featureGroups :
    ("velocity_push_source", velocityColumns) ∈
      featureGroups := by
  simp [featureGroups]

theorem geo_mem_featureGroups :
    ("geo_push_source", geoColumns) ∈ featureGroups := by
  simp [featureGroups]

theorem device_mem_featureGroups :
    ("device_push_source", deviceColumns) ∈
      featureGroups := by
  simp [featureGroups]

namespace ColumnSpec

/- A cell is null when a null was extracted. -/
theorem cell_none_iff
    {type : ArrowType}
    (hType : type ≠ .float32)
    (extractor : String → Record → Except PyError Scalar)
    (field : String)
    (r : Record) :
    (ColumnSpec.of type extractor field).cell r =
        .ok (field, .none) ↔
      extractor field r = .ok .none := by
  rw [cell_ok_iff]
  constructor
  · rintro ⟨x, z, hExtract, hConvert, hEq⟩
    cases hEq
    rw [ArrowType.eq_of_convert hType hConvert]
    exact hExtract
  · intro hNull
    refine ⟨.none, .none, hNull, ?_, rfl⟩
    cases type <;> rfl

theorem intOrZero_ne_none
    (field : String)
    (r : Record) :
    intOrZero field r ≠ .ok .none := by
  unfold intOrZero
  cases ((r.get field).orElse (.int 0)).toInt <;>
    simp [Except.map]

theorem intOrNull_eq_none_iff
    (field : String)
    (r : Record) :
    intOrNull field r = .ok .none ↔
      ¬ (r.get field).truthy := by
  unfold intOrNull
  split
  · cases (r.get field).toInt <;> simp_all [Except.map]
  · simp_all

end ColumnSpec

section Reads

open FeatureServingClient ColumnSpec FeatureMaterializer

variable
  {r : Record}
  {accountId : String}
  {batch : List Record}
  {store : OnlineStore}
  {group : String × List ColumnSpec}

/- A field is read as what its column extracts, converted
   with the column. -/
theorem readField_of_extract
    (hLast : LastStored group r accountId batch store)
    (hGroup : group ∈ featureGroups)
    {type : ArrowType}
    {extractor : String → Record → Except PyError Scalar}
    {view field : String}
    (hColumn : ColumnSpec.of type extractor field ∈ group.2)
    (hType : type ≠ .float32)
    (hSource : FeatureRef.source ⟨view, field⟩ = group.1)
    {x : Scalar}
    (hExtract : extractor field r = .ok x) :
    ∃ nulls,
      (nulls = true ↔
          ∃ r' ∈ batch, extractor field r' = .ok .none) ∧
        store.readField accountId ⟨view, field⟩ =
          pandasCell nulls x := by
  rcases readField_of_lastStored hLast hGroup hColumn hSource
    rfl with ⟨y, nulls, hCell, hNulls, hRead⟩
  rcases (cell_ok_iff _ _ _).1 hCell with
    ⟨x', z, hOk, hConvert, hEq⟩
  have hSame : x' = x := by
    have hBoth := hOk.symm.trans hExtract
    cases hBoth
    rfl
  have hValue : y = x := by
    rw [← hSame, ← ArrowType.eq_of_convert hType hConvert]
    exact congrArg Prod.snd hEq
  refine ⟨nulls, ?_, hValue ▸ hRead⟩
  rw [hNulls]
  apply exists_congr
  intro r'
  apply and_congr_right
  intro _
  exact cell_none_iff hType extractor field r'

/- What is no integer is read as it was extracted. -/
theorem readField_of_value
    (hLast : LastStored group r accountId batch store)
    (hGroup : group ∈ featureGroups)
    {type : ArrowType}
    {extractor : String → Record → Except PyError Scalar}
    {view field : String}
    (hColumn : ColumnSpec.of type extractor field ∈ group.2)
    (hType : type ≠ .float32)
    (hSource : FeatureRef.source ⟨view, field⟩ = group.1)
    {x : Scalar}
    (hExtract : extractor field r = .ok x)
    (hOther : ∀ n, x ≠ .int n) :
    store.readField accountId ⟨view, field⟩ = x := by
  rcases readField_of_extract hLast hGroup hColumn hType
    hSource hExtract with ⟨nulls, -, hRead⟩
  rw [hRead, pandasCell_of_not_int hOther]

variable (hTyped : FeatureTyped r)

include hTyped

/- An integer column without nulls reads as its value, or
   zero. -/
theorem readField_int
    (hLast : LastStored group r accountId batch store)
    (hGroup : group ∈ featureGroups)
    {type : ArrowType}
    (hType : type ≠ .float32)
    {view field : String}
    (hInt : field ∈ intFields)
    (hColumn :
      ColumnSpec.of type intOrZero field ∈ group.2)
    (hSource : FeatureRef.source ⟨view, field⟩ = group.1) :
    store.readField accountId ⟨view, field⟩ =
      .int (r.intOr field 0) := by
  rcases hTyped.ints field hInt with ⟨n, hField⟩
  rcases readField_of_extract hLast hGroup hColumn hType
    hSource (intOrZero_of_get hField) with
    ⟨nulls, hNulls, hRead⟩
  have hNone : nulls = false := by
    rw [← Bool.not_eq_true, hNulls]
    rintro ⟨r', -, hNull⟩
    exact intOrZero_ne_none field r' hNull
  rw [hRead, hNone, pandasCell_false,
    Record.intOr_of_get hField]

/- A text column reads as its value, or the empty text. -/
theorem readField_text
    (hLast : LastStored group r accountId batch store)
    (hGroup : group ∈ featureGroups)
    {view field : String}
    (hText : field ∈ textFields)
    (hColumn :
      ColumnSpec.of .inferred textOrEmpty field ∈ group.2)
    (hSource : FeatureRef.source ⟨view, field⟩ = group.1) :
    store.readField accountId ⟨view, field⟩ =
      .str (r.textOr field "") := by
  rcases hTyped.texts field hText with ⟨s, hField⟩
  rw [Record.textOr_of_get hField]
  exact
    readField_of_value hLast hGroup hColumn (by decide)
      hSource (textOrEmpty_of_get hField) (by simp)

theorem readField_counts
    (hLast :
      LastStored ("velocity_push_source", velocityColumns)
        r accountId batch store) :
    ∀ field ∈ countFields,
      store.readField accountId
          ⟨"velocity_features", field⟩ =
        .int (r.intOr field 0) := by
  intro field hCount
  have hColumn :
      ColumnSpec.of .int32 intOrZero field ∈
        velocityColumns := by
    simp only [countFields, List.mem_cons,
      List.not_mem_nil, or_false] at hCount
    rcases hCount with rfl | rfl | rfl | rfl <;>
      simp [velocityColumns]
  exact
    readField_int hTyped hLast velocity_mem_featureGroups
      (by decide) (by simp [intFields, hCount]) hColumn rfl

theorem readField_amounts
    (hLast :
      LastStored ("velocity_push_source", velocityColumns)
        r accountId batch store) :
    ∀ field ∈ amountFields,
      store.readField accountId
          ⟨"velocity_features", field⟩ =
        .float (r.floatOr field (.finite 0)) := by
  intro field hAmount
  rcases hTyped.amounts field hAmount with ⟨v, hField⟩
  have hValue :
      r.floatOr field (.finite 0) = .ofRat v := by
    rw [Record.floatOr, hField]
  have hColumn :
      ColumnSpec.of .float64 floatOrZero field ∈
        velocityColumns := by
    simp only [amountFields, List.mem_cons,
      List.not_mem_nil, or_false] at hAmount
    rcases hAmount with rfl | rfl | rfl | rfl <;>
      simp [velocityColumns]
  rw [hValue]
  exact
    readField_of_value hLast velocity_mem_featureGroups
      hColumn (by decide) rfl
      (floatOrZero_of_decimal hField) (by simp)

theorem readField_places
    (hLast :
      LastStored ("geo_push_source", geoColumns)
        r accountId batch store) :
    ∀ field ∈ placeFields,
      store.readField accountId ⟨"geo_features", field⟩ =
        .str (r.textOr field "") := by
  intro field hPlace
  have hColumn :
      ColumnSpec.of .inferred textOrEmpty field ∈
        geoColumns := by
    simp only [placeFields, List.mem_cons,
      List.not_mem_nil, or_false] at hPlace
    rcases hPlace with rfl | rfl | rfl <;>
      simp [geoColumns]
  exact
    readField_text hTyped hLast geo_mem_featureGroups
      (by simp [textFields, hPlace]) hColumn rfl

theorem readField_confidence
    (hLast :
      LastStored ("geo_push_source", geoColumns)
        r accountId batch store) :
    store.readField accountId
        ⟨"geo_features", "geo_confidence"⟩ =
      .float (r.floatOr "geo_confidence" (.finite 0)) := by
  rcases hTyped.confidence with ⟨c, hField⟩
  have hValue :
      r.floatOr "geo_confidence" (.finite 0) =
        c.getD (.finite 0) := by
    rw [Record.floatOr, hField]
    cases c <;> rfl
  have hColumn :
      ColumnSpec.of .float64 floatOrZero "geo_confidence" ∈
        geoColumns := by
    simp [geoColumns]
  rw [hValue]
  exact
    readField_of_value hLast geo_mem_featureGroups
      hColumn (by decide) rfl (floatOrZero_of_get hField)
      (by simp)

/- The two times are null when they are null or zero, and
   doubles beside such a field. -/
theorem readField_times
    (hLast :
      LastStored ("device_push_source", deviceColumns)
        r accountId batch store) :
    ∀ field ∈ timeFields,
      store.readField accountId ⟨"device_features", field⟩ =
        frameTime batch r field := by
  intro field hTime
  rcases hTyped.ints field (by simp [intFields, hTime]) with
    ⟨n, hField⟩
  have hValue :
      r.intOrNull field =
        .ofOption .int (n.filter (· ≠ 0)) := by
    rw [Record.intOrNull, Record.intOr, hField]
    cases n with
    | none => rfl
    | some n =>
        by_cases hZero : n = 0
        · rw [hZero]
          rfl
        · simp [Scalar.ofOption, Scalar.truthy, hZero,
            Option.filter]
  have hColumn :
      ColumnSpec.of .int64 intOrNull field ∈
        deviceColumns := by
    simp only [timeFields, List.mem_cons, List.not_mem_nil,
      or_false] at hTime
    rcases hTime with rfl | rfl <;> simp [deviceColumns]
  have hExtracted :
      ∃ nulls,
        (nulls = true ↔
            ∃ r' ∈ batch, intOrNull field r' = .ok .none) ∧
          store.readField accountId
              ⟨"device_features", field⟩ =
            pandasCell nulls
              (.ofOption .int (n.filter (· ≠ 0))) :=
    readField_of_extract hLast device_mem_featureGroups
      hColumn (by decide) rfl (intOrNull_of_get hField)
  rcases hExtracted with ⟨nulls, hNulls, hRead⟩
  have hAny :
      nulls =
        batch.any (fun r' => !(r'.get field).truthy) := by
    rw [Bool.eq_iff_iff, hNulls, List.any_eq_true]
    simp only [intOrNull_eq_none_iff, Bool.not_eq_true,
      Bool.not_eq_true']
  rw [hRead, frameTime, hValue, hAny]

/- The other fields of the device group. -/
theorem readField_device
    (hLast :
      LastStored ("device_push_source", deviceColumns)
        r accountId batch store) :
    store.readField accountId
          ⟨"device_features", "device_txn_count"⟩ =
        .int (r.intOr "device_txn_count" 0) ∧
      store.readField accountId
          ⟨"device_features", "device_known_fraud"⟩ =
        .bool (r.boolOr "device_known_fraud" false) ∧
      store.readField accountId
          ⟨"device_features", "prev_geo_country"⟩ =
        .str (r.textOr "prev_geo_country" "") := by
  have hColumns :
      ColumnSpec.of .int64 intOrZero "device_txn_count" ∈
          deviceColumns ∧
        ColumnSpec.of .bool boolOrFalse
            "device_known_fraud" ∈ deviceColumns ∧
        ColumnSpec.of .inferred textOrEmpty
            "prev_geo_country" ∈ deviceColumns := by
    simp [deviceColumns]
  refine ⟨?_, ?_, ?_⟩
  · exact
      readField_int hTyped hLast device_mem_featureGroups
        (by decide) (by simp [intFields]) hColumns.1 rfl
  · rcases hTyped.knownFraud with ⟨b, hField⟩
    have hValue :
        r.boolOr "device_known_fraud" false =
          b.getD false := by
      rw [Record.boolOr, Record.get, hField]
      cases b <;> rfl
    rw [hValue]
    exact
      readField_of_value hLast device_mem_featureGroups
        hColumns.2.1 (by decide) rfl
        (boolOrFalse_of_get? hField) (by simp)
  · exact
      readField_text hTyped hLast device_mem_featureGroups
        (by simp [textFields]) hColumns.2.2 rfl

end Reads

open FeatureServingClient

/-
  The store returns the velocity fields of one record, the
  geolocation fields of another and the device fields of a
  third: those whose tables were stored last.
-/
theorem getOnlineFeatures_of_lastStored
    {rv rg rd : Record}
    {accountId : String}
    {bv bg bd : List Record}
    {store : OnlineStore}
    (hVelocity :
      LastStored ("velocity_push_source", velocityColumns)
        rv accountId bv store)
    (hGeo :
      LastStored ("geo_push_source", geoColumns) rg
        accountId bg store)
    (hDevice :
      LastStored ("device_push_source", deviceColumns) rd
        accountId bd store)
    (hTypedV : FeatureTyped rv)
    (hTypedG : FeatureTyped rg)
    (hTypedD : FeatureTyped rd) :
    store.getOnlineFeatures featureRefs accountId =
      .ofList
        (("account_id", .str accountId) ::
          (servedVelocity rv ++ servedGeo rg ++
            servedDevice bd rd)) := by
  have hCounts := readField_counts hTypedV hVelocity
  have hAmounts := readField_amounts hTypedV hVelocity
  have hPlaces := readField_places hTypedG hGeo
  have hConfidence := readField_confidence hTypedG hGeo
  have hTimes := readField_times hTypedD hDevice
  have hOthers := readField_device hTypedD hDevice
  simp only [countFields, List.forall_mem_cons] at hCounts
  simp only [amountFields, List.forall_mem_cons] at hAmounts
  simp only [placeFields, List.forall_mem_cons] at hPlaces
  simp only [timeFields, List.forall_mem_cons] at hTimes
  simp only [OnlineStore.getOnlineFeatures, featureRefs,
    velocityRefs, geoRefs, deviceRefs, List.map_cons,
    List.map_nil, List.cons_append, List.nil_append,
    servedVelocity, servedGeo, servedDevice, hCounts,
    hAmounts, hPlaces, hConfidence, hTimes, hOthers]

/- The store returns the served features of the record. -/
theorem getOnlineFeatures_of_lastPushed
    {r : Record}
    {accountId : String}
    {batch : List Record}
    {store : OnlineStore}
    (hLast : LastPushed r accountId batch store)
    (hTyped : FeatureTyped r) :
    store.getOnlineFeatures featureRefs accountId =
      .ofList
        (("account_id", .str accountId) ::
          servedFeatures batch r) :=
  getOnlineFeatures_of_lastStored
    (hLast.lastStored velocity_mem_featureGroups)
    (hLast.lastStored geo_mem_featureGroups)
    (hLast.lastStored device_mem_featureGroups)
    hTyped hTyped hTyped

end FraudStream
