import FraudStream.Library.FallibleList
import FraudStream.Processing.Enricher
import FraudStream.Shared.IcebergSinkBase

/-
  The sink of enriched records.

  A batch becomes an Arrow table with a row a record. What
  Arrow stores of a value, and the text of a value that is
  not text, are parameters. The push to the feature store
  that follows an append cannot fail the flush, and is left
  out.

  Key definitions include:
    * `IcebergEnrichedSink.write`
    * `IcebergEnrichedSink.recordsToArrowTable`
    * `EnrichedRecord`
    * `EnrichedRow`
-/

------------------------------------------------------------
-- Flushes
------------------------------------------------------------

namespace FraudStream

namespace IcebergEnrichedSink

open IcebergSinkBase (deduplicate firstTxnId)

variable {ρ : Type}

/- The flush of a buffer. Without a table, each record of the
   batch is named. -/
def write
    (transactionId? : ρ → Option String)
    (h : SinkHandles)
    (a : FlushAttempt)
    (buffer : List ρ) : FlushOutcome ρ :=
  let deduplicated := deduplicate transactionId? buffer
  if h.table = false then
    { committed := none
      deadLetters := deduplicated.map (fun r =>
        { event := "iceberg_sink_dlq"
          transactionId :=
            (transactionId? r).getD "unknown"
          reason := "iceberg_table_not_loaded"
          batchSize := 1 }) }
  else
    IcebergOperatorSink.convertAndAppend h a
      (fun reason =>
        { event := "iceberg_sink_dlq"
          transactionId :=
            firstTxnId transactionId? deduplicated
          reason := reason
          batchSize := deduplicated.length })
      deduplicated

/- The sink as a buffer with a limit. -/
def config
    (bufferMax : Int)
    (transactionId? : ρ → Option String)
    (h : SinkHandles)
    (clock : Nat → Int)
    (attempts : Nat → FlushAttempt) :
    BatchBuffer.Config ρ (FlushOutcome ρ) where
  limit := bufferMax
  period := icebergFlushPeriodMs
  clock := clock
  write := fun n buffer =>
    write transactionId? h (attempts n) buffer

end IcebergEnrichedSink

end FraudStream

------------------------------------------------------------
-- Arrow Tables
------------------------------------------------------------

namespace FraudStream

namespace IcebergEnrichedSink

/- The columns of the table, in the order of its schema. -/
def fieldNames : List String :=
  ["transaction_id", "account_id", "merchant_id", "amount",
    "currency", "event_time", "enrichment_time", "channel",
    "card_bin", "card_last4", "caller_ip_subnet",
    "api_key_id", "oauth_scope", "geo_lat", "geo_lon",
    "masking_lib_version", "vel_count_1m", "vel_amount_1m",
    "vel_count_5m", "vel_amount_5m", "vel_count_1h",
    "vel_amount_1h", "vel_count_24h", "vel_amount_24h",
    "geo_country", "geo_city", "geo_network_class",
    "geo_confidence", "device_first_seen",
    "device_txn_count", "device_known_fraud",
    "prev_geo_country", "prev_txn_time_ms",
    "enrichment_latency_ms", "processor_version",
    "schema_version"]

def timeFields : List String :=
  ["event_time", "enrichment_time", "device_first_seen",
    "prev_txn_time_ms"]

def intFields : List String :=
  ["vel_count_1m", "vel_count_5m", "vel_count_1h",
    "vel_count_24h", "device_txn_count",
    "enrichment_latency_ms"]

def floatFields : List String :=
  ["geo_lat", "geo_lon", "geo_confidence"]

/- A string is read as a flag by its words. -/
def knownFraud : Scalar → Bool
| .str s => s.toLower ∈ ["true", "1", "yes"]
| v => v.truthy

/- The value of a column. A decimal is kept in any column,
   and a time in milliseconds becomes microseconds. -/
def columnValue
    (text : Scalar → Except PyError String)
    (field : String) : Scalar → Except PyError Scalar
| .decimal d => .ok (.decimal d)
| .none => .ok .none
| v =>
    if field ∈ timeFields then
      v.toInt.map (fun n => .int (n * 1000))
    else if field ∈ intFields then
      v.toInt.map .int
    else if field ∈ floatFields then
      v.toFloat.map .float
    else if field = "device_known_fraud" then
      .ok (.bool (knownFraud v))
    else
      match v with
      | .str s => .ok (.str s)
      | v => (text v).map .str

/- The cell of a record in a column. -/
def cell
    (text : Scalar → Except PyError String)
    (arrow : String → Scalar → Except PyError Scalar)
    (r : Record)
    (field : String) : Except PyError (String × Scalar) := do
  let value ← columnValue text field (r.get field)
  let stored ← arrow field value
  pure (field, stored)

end IcebergEnrichedSink

/- A row of the table. Its transaction and its time are not
   null. -/
structure EnrichedRow where
  transactionId : String
  enrichmentTime : Int
  cells : List (String × Scalar)
deriving DecidableEq, Repr

namespace IcebergEnrichedSink

/- A null in a required column is refused by the append. -/
def row
    (text : Scalar → Except PyError String)
    (arrow : String → Scalar → Except PyError Scalar)
    (r : Record) : Except PyError EnrichedRow := do
  let cells ← fieldNames.mapM (cell text arrow r)
  match Dict.lookupEntries "transaction_id" cells,
      Dict.lookupEntries "enrichment_time" cells with
  | some (.str transactionId), some (.int micros) =>
      pure
        { transactionId := transactionId
          enrichmentTime := micros
          cells := cells }
  | _, _ => .error .typeError

/- `_records_to_arrow_table` -/
def recordsToArrowTable
    (text : Scalar → Except PyError String)
    (arrow : String → Scalar → Except PyError Scalar)
    (records : List Record) :
    Except PyError (List EnrichedRow) :=
  records.mapM (row text arrow)

end IcebergEnrichedSink

end FraudStream

------------------------------------------------------------
-- Enriched Records
------------------------------------------------------------

namespace FraudStream

/- A record with its transaction and its enrichment time. -/
structure EnrichedRecord where
  fields : Record
  transactionId : String
  enrichmentTime : Int
  hasId :
    fields.get? "transaction_id" =
      some (.str transactionId)
  hasTime :
    fields.get? "enrichment_time" =
      some (.int enrichmentTime)

namespace EnrichedRecord

/- The records that the assembler emits. -/
def ofAssembled
    (enrichmentTime : Int)
    (d : DeviceEnriched) : EnrichedRecord where
  fields := assemble enrichmentTime d
  transactionId := d.txn.transactionId
  enrichmentTime := enrichmentTime
  hasId := by
    simp [get?_assemble, recordEntries, Dict.lookupEntries]
  hasTime := by
    simp [get?_assemble, recordEntries, Dict.lookupEntries]

/- `record.get("transaction_id")` -/
def transactionId? (r : EnrichedRecord) : Option String :=
  some r.transactionId

end EnrichedRecord

end FraudStream

------------------------------------------------------------
-- Rows Of Records
------------------------------------------------------------

namespace FraudStream

namespace IcebergEnrichedSink

open FallibleList

variable {text : Scalar → Except PyError String}
variable {arrow : String → Scalar → Except PyError Scalar}
variable {r : EnrichedRecord}
variable {x : EnrichedRow}

/- A cell is found under its field. -/
private theorem lookup_cell
    {fields : List String}
    {cells : List (String × Scalar)}
    {record : Record}
    {field : String}
    (hField : field ∈ fields)
    (hCells :
      List.Forall₂ (fun f c => cell text arrow record f = .ok c)
        fields cells) :
    ∃ value stored,
      columnValue text field (record.get field) = .ok value ∧
        arrow field value = .ok stored ∧
        Dict.lookupEntries field cells = some stored := by
  induction hCells with
  | nil => cases hField
  | @cons f c fields cells hCell hCells ih =>
      unfold cell at hCell
      simp only [bind_ok_iff] at hCell
      rcases hCell with ⟨value, hValue, stored, hStored, hEq⟩
      cases hEq
      by_cases hHere : field = f
      · subst hHere
        exact
          ⟨value, stored, hValue, hStored,
            by simp [Dict.lookupEntries]⟩
      · rcases ih ((List.mem_cons.1 hField).resolve_left hHere)
          with ⟨value', stored', hValue', hStored', hFound⟩
        exact
          ⟨value', stored', hValue', hStored',
            by simpa [Dict.lookupEntries, hHere]⟩

/- Where Arrow keeps text and times, a row names the
   transaction and the time of its record. -/
theorem row_of_enriched
    (hText :
      ∀ s c, arrow "transaction_id" (.str s) = .ok c →
        c = .str s)
    (hTime :
      ∀ n c, arrow "enrichment_time" (.int n) = .ok c →
        c = .int n)
    (hRow : row text arrow r.fields = .ok x) :
    x.transactionId = r.transactionId ∧
      x.enrichmentTime = r.enrichmentTime * 1000 := by
  unfold row at hRow
  rcases (bind_ok_iff _ _ _).1 hRow with
    ⟨cells, hCells, hRest⟩
  have hCells := (mapM_ok_iff _ _ _).1 hCells
  have hIdField : "transaction_id" ∈ fieldNames := by decide
  have hTimeField : "enrichment_time" ∈ fieldNames := by
    decide
  rcases lookup_cell hIdField hCells with
    ⟨id, id', hId, hIdStored, hIdFound⟩
  rcases lookup_cell hTimeField hCells with
    ⟨time, time', hTimeValue, hTimeStored, hTimeFound⟩
  have hIdValue : id = .str r.transactionId := by
    simpa [columnValue, Record.get, r.hasId, timeFields,
      intFields, floatFields, eq_comm] using hId
  have hMicros : time = .int (r.enrichmentTime * 1000) := by
    simpa [columnValue, Record.get, r.hasTime, timeFields,
      Scalar.toInt, Except.map, eq_comm] using hTimeValue
  rw [hIdValue] at hIdStored
  rw [hMicros] at hTimeStored
  rw [hIdFound, hTimeFound, hText _ _ hIdStored,
    hTime _ _ hTimeStored] at hRest
  cases hRest
  exact ⟨rfl, rfl⟩

end IcebergEnrichedSink

end FraudStream
