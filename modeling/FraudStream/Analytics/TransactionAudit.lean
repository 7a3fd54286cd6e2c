import FraudStream.Analytics.FlushOutcomes
import FraudStream.Library.RowNumber
import FraudStream.Shared.FeatureSchema

/-
  The audit view over the enriched table.

  A batch keeps the first record of a transaction, and the
  view shows the row with the latest enrichment time. The
  two agree on a stream of increasing times when the last
  batch of the transaction holds it once.

  Key definitions include:
    * `vTransactionAudit`
    * `lastBatchOf`

  The main results are:
    * `audit_of_transaction`
    * `audit_is_latest_iff`
    * `table_of_run`
-/

------------------------------------------------------------
-- The View
------------------------------------------------------------

namespace FraudStream

/- A row of the table of decisions. -/
structure DecisionRow where
  transactionId : String
  decision : String
  fraudScore : PyFloat
  ruleTriggers : List String
  modelVersion : String
  decisionTime : Int
  latencyMs : PyFloat
  schemaVersion : String

/- A row of the view, with the enriched columns it shows. -/
structure AuditRow where
  transactionId : String
  enrichmentTime : Int
  columns : List (String × Option Scalar)
  decision : Option DecisionRow

namespace TransactionAudit

/- The other enriched columns of the view. -/
def enrichedColumns : List String :=
  ["account_id", "merchant_id", "amount", "currency",
    "channel", "event_time", "geo_country", "geo_city",
    "geo_network_class", "geo_confidence",
    "device_txn_count", "device_known_fraud",
    "prev_geo_country", "prev_txn_time_ms", "vel_count_1m",
    "vel_amount_1m", "vel_count_5m", "vel_amount_5m",
    "vel_count_1h", "vel_amount_1h", "vel_count_24h",
    "vel_amount_24h", "enrichment_latency_ms"]

def select
    (e : EnrichedRow)
    (d : Option DecisionRow) : AuditRow where
  transactionId := e.transactionId
  enrichmentTime := e.enrichmentTime
  columns :=
    enrichedColumns.map
      (fun c => (c, Dict.lookupEntries c e.cells))
  decision := d

/- `dedup_enriched` -/
def dedupEnriched
    (rows : List EnrichedRow) : List (EnrichedRow × Nat) :=
  RowNumber.numbered (·.transactionId) (·.enrichmentTime) rows

/- `dedup_decisions` -/
def dedupDecisions
    (rows : List DecisionRow) : List (DecisionRow × Nat) :=
  RowNumber.numbered (·.transactionId) (·.decisionTime) rows

/- `LEFT JOIN ... ON e.transaction_id = d.transaction_id` -/
def joined
    (ds : List (DecisionRow × Nat))
    (e : EnrichedRow × Nat) :
    List (Option (DecisionRow × Nat)) :=
  match
    ds.filter
      (fun d => d.1.transactionId = e.1.transactionId)
  with
  | [] => [none]
  | matched => matched.map some

/- `d.rn = 1 OR d.rn IS NULL` -/
def firstOrNull : Option (DecisionRow × Nat) → Bool
| none => true
| some d => d.2 = 1

end TransactionAudit

open TransactionAudit in
/- `v_transaction_audit` -/
def vTransactionAudit
    (enriched : List EnrichedRow)
    (decisions : List DecisionRow) : List AuditRow :=
  (dedupEnriched enriched).flatMap (fun e =>
    ((joined (dedupDecisions decisions) e).filter
      (fun d => e.2 = 1 && firstOrNull d)).map
      (fun d => select e.1 (d.map Prod.fst)))

end FraudStream

------------------------------------------------------------
-- The Row Of A Transaction
------------------------------------------------------------

namespace FraudStream

namespace TransactionAudit

/- The latest decision on a transaction. -/
def decisionOf
    (decisions : List DecisionRow)
    (transactionId : String) : Option DecisionRow :=
  (RowNumber.latestFirst (·.transactionId) (·.decisionTime)
    decisions transactionId).head?

private theorem flatMap_ite_singleton
    {α β : Type}
    (p : α → Prop)
    [DecidablePred p]
    (f : α → β)
    (xs : List α) :
    xs.flatMap (fun x => if p x then [f x] else []) =
      (xs.filter (fun x => p x)).map f := by
  induction xs with
  | nil => rfl
  | cons x xs ih =>
      by_cases hKeep : p x
      · simp [hKeep, ih]
      · simp [hKeep, ih]

/- One joined row passes the filter on decisions. -/
theorem filter_joined
    (decisions : List DecisionRow)
    (e : EnrichedRow × Nat) :
    ((joined (dedupDecisions decisions) e).filter
        firstOrNull).map
        (fun d => d.map Prod.fst) =
      [decisionOf decisions e.1.transactionId] := by
  have hFirsts :=
    RowNumber.firsts_of_key (·.transactionId)
      (·.decisionTime) decisions e.1.transactionId
  have hFilter :
      ((dedupDecisions decisions).filter
          (fun d => d.1.transactionId = e.1.transactionId)).filter
          (fun d => d.2 = 1) =
        (decisionOf decisions
          e.1.transactionId).toList.map (fun d => (d, 1)) := by
    rw [List.filter_filter, decisionOf, ← hFirsts]
    apply List.filter_congr
    intro d hMem
    simp [Bool.and_comm]
  unfold joined
  split
  · rename_i hNone
    rw [hNone] at hFilter
    cases hDecision :
        decisionOf decisions e.1.transactionId with
    | none => rfl
    | some d => simp [hDecision] at hFilter
  · rename_i matched hSome
    have hMatched :
        ((dedupDecisions decisions).filter
          (fun d => d.1.transactionId =
            e.1.transactionId)) ≠ [] := hSome
    rcases List.exists_mem_of_ne_nil _ hMatched with
      ⟨d, hMem⟩
    rcases List.mem_filter.1 hMem with ⟨hNumbered, hKey⟩
    have hLatest :=
      RowNumber.mem_latestFirst_of_mem_numbered hNumbered
    rw [of_decide_eq_true hKey] at hLatest
    cases hDecision :
        decisionOf decisions e.1.transactionId with
    | none =>
        rw [decisionOf, List.head?_eq_none_iff] at hDecision
        rw [hDecision] at hLatest
        cases hLatest
    | some first =>
        rw [hDecision] at hFilter
        rw [List.filter_map]
        have hSame :
            (firstOrNull ∘ some) =
              fun d : DecisionRow × Nat => decide (d.2 = 1) :=
          rfl
        rw [hSame, hFilter]
        rfl

end TransactionAudit

open TransactionAudit

/- The view shows the latest row of a transaction, and no
   other row of it. -/
theorem audit_of_transaction
    (enriched : List EnrichedRow)
    (decisions : List DecisionRow)
    (transactionId : String) :
    (vTransactionAudit enriched decisions).filter
        (·.transactionId = transactionId) =
      (RowNumber.latestFirst (·.transactionId)
          (·.enrichmentTime) enriched
          transactionId).head?.toList.map
        (fun e =>
          select e (decisionOf decisions transactionId)) := by
  have hRow :
      ∀ e : EnrichedRow × Nat,
        (((joined (dedupDecisions decisions) e).filter
            (fun d => e.2 = 1 && firstOrNull d)).map
            (fun d => select e.1 (d.map Prod.fst))).filter
            (·.transactionId = transactionId) =
          if e.1.transactionId = transactionId ∧ e.2 = 1 then
            [select e.1 (decisionOf decisions transactionId)]
          else
            [] := by
    intro e
    by_cases hOne : e.2 = 1
    · have hShown :
          ((joined (dedupDecisions decisions) e).filter
              (fun d => e.2 = 1 && firstOrNull d)).map
              (fun d => select e.1 (d.map Prod.fst)) =
            [select e.1
              (decisionOf decisions e.1.transactionId)] := by
        have hFirst := filter_joined decisions e
        simp only [hOne, decide_true, Bool.true_and]
        rw [← List.map_singleton, ← hFirst, List.map_map]
        rfl
      rw [hShown]
      by_cases hId : e.1.transactionId = transactionId
      · simp [hId, hOne, select]
      · simp [hId, select]
    · simp [hOne]
  have hFirsts :=
    RowNumber.firsts_of_key (·.transactionId)
      (·.enrichmentTime) enriched transactionId
  rw [vTransactionAudit, List.filter_flatMap]
  simp only [hRow]
  rw [flatMap_ite_singleton, dedupEnriched, hFirsts,
    List.map_map]
  rfl

end FraudStream

------------------------------------------------------------
-- Batches Of A Stream
------------------------------------------------------------

namespace FraudStream

namespace TransactionAudit

open IcebergSinkBase (deduplicate)
open EnrichedRecord (transactionId?)

/- The records of a transaction. -/
def recordsOf
    (transactionId : String)
    (rs : List EnrichedRecord) : List EnrichedRecord :=
  rs.filter (·.transactionId = transactionId)

/- The last batch that holds a transaction. -/
def lastBatchOf
    (transactionId : String)
    (batches : List (List EnrichedRecord)) :
    List EnrichedRecord :=
  ((batches.filter
    (fun b => recordsOf transactionId b ≠ [])).getLast?).getD
    []

/- The batches as they are written. -/
def written
    (batches : List (List EnrichedRecord)) :
    List EnrichedRecord :=
  batches.flatMap (deduplicate transactionId?)

/- The record has the latest time of its transaction. -/
def IsLatest
    (stream : List EnrichedRecord)
    (r : EnrichedRecord) : Prop :=
  r ∈ stream ∧
    ∀ r' ∈ stream, r'.transactionId = r.transactionId →
      r'.enrichmentTime ≤ r.enrichmentTime

theorem recordsOf_append
    (transactionId : String)
    (rs rs' : List EnrichedRecord) :
    recordsOf transactionId (rs ++ rs') =
      recordsOf transactionId rs ++
        recordsOf transactionId rs' :=
  List.filter_append _ _

/- A batch is written with the first record of a
   transaction. -/
theorem recordsOf_deduplicate
    (transactionId : String)
    (b : List EnrichedRecord) :
    recordsOf transactionId (deduplicate transactionId? b) =
      (recordsOf transactionId b).take 1 := by
  have hFirst :=
    BatchBuffer.filter_firstOccurrences
      (fun r : EnrichedRecord => (transactionId? r).getD "")
      transactionId [] b
  rw [if_neg List.not_mem_nil] at hFirst
  exact hFirst

/- The last record of a transaction is in its last batch,
   whose first record of it is the last one written. -/
theorem last_of_batches
    (transactionId : String)
    (batches : List (List EnrichedRecord)) :
    (recordsOf transactionId batches.flatten).getLast? =
        (recordsOf transactionId
          (lastBatchOf transactionId batches)).getLast? ∧
      (recordsOf transactionId (written batches)).getLast? =
        (recordsOf transactionId
          (lastBatchOf transactionId batches)).head? := by
  induction batches using List.reverseRecOn with
  | nil => exact ⟨rfl, rfl⟩
  | append_singleton batches b ih =>
      have hFlatten :
          recordsOf transactionId (batches ++ [b]).flatten =
            recordsOf transactionId batches.flatten ++
              recordsOf transactionId b := by
        simp [recordsOf_append]
      have hWritten :
          recordsOf transactionId (written (batches ++ [b])) =
            recordsOf transactionId (written batches) ++
              (recordsOf transactionId b).take 1 := by
        simp [written, recordsOf_append,
          recordsOf_deduplicate]
      rw [hFlatten, hWritten]
      cases hBatch : recordsOf transactionId b with
      | nil =>
          have hSame :
              lastBatchOf transactionId (batches ++ [b]) =
                lastBatchOf transactionId batches := by
            simp [lastBatchOf, hBatch]
          simpa [hSame] using ih
      | cons r rs =>
          have hLast :
              lastBatchOf transactionId (batches ++ [b]) =
                b := by
            simp [lastBatchOf, hBatch]
          rw [hLast, hBatch]
          constructor
          · exact
              List.getLast?_append_of_ne_nil _
                (List.cons_ne_nil r rs)
          · simp

/- What is written is part of the stream. -/
theorem written_sublist
    (batches : List (List EnrichedRecord)) :
    List.Sublist (written batches) batches.flatten := by
  induction batches with
  | nil => exact List.Sublist.slnil
  | cons b batches ih =>
      have hBatch :
          List.Sublist (deduplicate transactionId? b) b :=
        BatchBuffer.firstOccurrences_sublist _ [] b
      simpa [written] using hBatch.append ih

end TransactionAudit

end FraudStream

------------------------------------------------------------
-- Batches Of A Run
------------------------------------------------------------

namespace FraudStream

namespace TransactionAudit

open EnrichedRecord (transactionId?)

variable {S : SinkSetup EnrichedRecord}

/- A run whose flushes are committed splits its records into
   batches and commits what these write. -/
theorem written_of_run
    (hId : S.transactionId? = transactionId?)
    (start : Int)
    (ops : List (BatchBuffer.Op EnrichedRecord))
    (hCommitted :
      ∀ report ∈ (S.run start ops).reports,
        report.outcome.committed ≠ none) :
    (S.run start ops).reports.flatMap
        (fun report => report.outcome.committed.getD []) =
      written ((S.run start ops).reports.map (·.buffer)) ∧
    ((S.run start ops).reports.map (·.buffer)).flatten ++
        (S.run start ops).buffer =
      BatchBuffer.invoked ops := by
  constructor
  · rw [written, List.flatMap_map]
    apply List.flatMap_congr
    intro report hMem
    rcases List.mem_iff_getElem?.1 hMem with ⟨n, hReport⟩
    have hCase := (SinkSetup.case_of_run hReport).2
    have hDone := hCommitted report hMem
    rw [← hId]
    generalize report.outcome = o at hCase hDone
    cases hCase with
    | committed hSucceeds hClean => rfl
    | committedAndNamed hSucceeds hClean e hFirst => rfl
    | named hFails hNames e hFirst => exact absurd rfl hDone
    | eachNamed hNames es hEach => exact absurd rfl hDone
    | dropped hNames => exact absurd rfl hDone
  · have hStream :=
      BatchBuffer.stream_of_run S.config start ops
    rwa [List.flatMap_def] at hStream

/- Each split into batches below the limit is that of a
   run. -/
theorem run_of_batches
    (hClock : ∀ n, S.clock n = 0)
    (batches : List (List EnrichedRecord))
    (hBatches :
      ∀ b ∈ batches,
        b ≠ [] ∧ (b.length : Int) < S.bufferMax) :
    (S.run 0 (BatchBuffer.opsOf batches)).reports.map
        (·.buffer) = batches ∧
      (S.run 0 (BatchBuffer.opsOf batches)).buffer = [] := by
  have hConfig :
      S.config.period = icebergFlushPeriodMs ∧
        S.config.clock = S.clock ∧
        S.config.limit = S.bufferMax := by
    unfold SinkSetup.config
    cases S.sink with
    | enriched => exact ⟨rfl, rfl, rfl⟩
    | decisions => exact ⟨rfl, rfl, rfl⟩
    | shared eventName => exact ⟨rfl, rfl, rfl⟩
  rcases hConfig with ⟨hPeriod, hClockEq, hLimit⟩
  rw [← hClockEq] at hClock
  rw [← hLimit] at hBatches
  rcases
      BatchBuffer.buffers_of_opsOf
        (by rw [hPeriod]; decide) hClock batches hBatches
    with ⟨hEmpty, -, hBuffers⟩
  exact ⟨hBuffers, hEmpty⟩

end TransactionAudit

end FraudStream

------------------------------------------------------------
-- Streams Of Increasing Times
------------------------------------------------------------

namespace FraudStream

namespace TransactionAudit

open IcebergSinkBase (deduplicate)
open EnrichedRecord (transactionId?)

/- The enrichment times increase along the records. -/
def Increasing (rs : List EnrichedRecord) : Prop :=
  rs.Pairwise (fun r r' => r.enrichmentTime < r'.enrichmentTime)

theorem last_of_latest
    {stream : List EnrichedRecord}
    {r : EnrichedRecord}
    (hIncreasing : Increasing stream)
    (hLatest : IsLatest stream r) :
    (recordsOf r.transactionId stream).getLast? = some r := by
  have hMem : r ∈ recordsOf r.transactionId stream := by
    simp [recordsOf, hLatest.1]
  have hOrder :
      Increasing (recordsOf r.transactionId stream) :=
    hIncreasing.sublist List.filter_sublist
  cases hLast :
      (recordsOf r.transactionId stream).getLast? with
  | none =>
      rw [List.getLast?_eq_none_iff] at hLast
      rw [hLast] at hMem
      cases hMem
  | some last =>
      rcases List.getLast?_eq_some_iff.1 hLast with
        ⟨before, hSplit⟩
      have hLastMem :
          last ∈ recordsOf r.transactionId stream := by
        simp [hSplit]
      rcases List.mem_filter.1 hLastMem with
        ⟨hStream, hId⟩
      have hLe :=
        hLatest.2 last hStream (of_decide_eq_true hId)
      rw [hSplit] at hMem hOrder
      rcases List.mem_append.1 hMem with hBefore | hEq
      · have hLt :=
          (List.pairwise_append.1 hOrder).2.2 r hBefore last
            (by simp)
        omega
      · rw [List.mem_singleton.1 hEq]

theorem increasing_lastBatchOf
    (transactionId : String)
    {batches : List (List EnrichedRecord)}
    (hIncreasing : Increasing batches.flatten) :
    Increasing (lastBatchOf transactionId batches) := by
  unfold lastBatchOf
  cases hLast :
      (batches.filter
        (fun b =>
          recordsOf transactionId b ≠ [])).getLast? with
  | none => exact List.Pairwise.nil
  | some b =>
      have hMem :=
        (List.mem_filter.1 (List.mem_of_getLast? hLast)).1
      exact hIncreasing.sublist (List.sublist_flatten_of_mem hMem)

/- The first of increasing records has the time of the last
   when it is the only one. -/
theorem first_time_eq_last_iff
    {rs : List EnrichedRecord}
    {first last : EnrichedRecord}
    (hIncreasing : Increasing rs)
    (hFirst : rs.head? = some first)
    (hLast : rs.getLast? = some last) :
    first.enrichmentTime = last.enrichmentTime ↔
      rs.length = 1 := by
  cases rs with
  | nil => cases hFirst
  | cons r rs =>
      cases hFirst
      cases hRest : rs with
      | nil =>
          rw [hRest] at hLast
          cases hLast
          simp
      | cons r' rs' =>
          have hMem : last ∈ rs := by
            rw [hRest] at hLast ⊢
            rw [List.getLast?_cons_cons] at hLast
            exact List.mem_of_getLast? hLast
          have hLt :=
            (List.pairwise_cons.1 hIncreasing).1 last hMem
          simp only [List.length_cons]
          omega

variable {text : Scalar → Except PyError String}
variable {arrow : String → Scalar → Except PyError Scalar}

/- The rows of a written batch. -/
def tableOf
    (text : Scalar → Except PyError String)
    (arrow : String → Scalar → Except PyError Scalar)
    (b : List EnrichedRecord) :
    Except PyError (List EnrichedRow) :=
  IcebergEnrichedSink.recordsToArrowTable text arrow
    ((deduplicate transactionId? b).map (·.fields))

/- The rows of the table are those of the written records. -/
theorem rows_of_tables
    {batches : List (List EnrichedRecord)}
    {tables : List (List EnrichedRow)}
    (hAppended :
      batches.mapM (tableOf text arrow) = .ok tables) :
    List.Forall₂
      (fun r x =>
        IcebergEnrichedSink.row text arrow r.fields = .ok x)
      (written batches) tables.flatten := by
  have hTables := (FallibleList.mapM_ok_iff _ _ _).1 hAppended
  have hRows :
      List.Forall₂
        (List.Forall₂
          (fun r x =>
            IcebergEnrichedSink.row text arrow r.fields =
              .ok x))
        (batches.map (deduplicate transactionId?)) tables := by
    rw [List.forall₂_map_left_iff]
    apply hTables.imp
    intro b table hTable
    have hBatch := (FallibleList.mapM_ok_iff _ _ _).1 hTable
    rwa [List.forall₂_map_left_iff] at hBatch
  rw [written, List.flatMap_def]
  exact List.rel_flatten hRows

end TransactionAudit

open TransactionAudit

variable {text : Scalar → Except PyError String}
variable {arrow : String → Scalar → Except PyError Scalar}

section

variable
  (hText :
    ∀ s c, arrow "transaction_id" (.str s) = .ok c →
      c = .str s)
  (hTime :
    ∀ n c, arrow "enrichment_time" (.int n) = .ok c →
      c = .int n)

include hText hTime

/- The view shows the first record of the last batch of a
   transaction. -/
theorem audit_shows_first
    {batches : List (List EnrichedRecord)}
    {tables : List (List EnrichedRow)}
    {first : EnrichedRecord}
    {transactionId : String}
    (hIncreasing : Increasing batches.flatten)
    (hAppended :
      batches.mapM (tableOf text arrow) = .ok tables)
    (decisions : List DecisionRow)
    (hFirst :
      (recordsOf transactionId
        (lastBatchOf transactionId batches)).head? =
        some first) :
    ∃ x,
      IcebergEnrichedSink.row text arrow first.fields =
          .ok x ∧
        (vTransactionAudit tables.flatten decisions).filter
            (·.transactionId = transactionId) =
          [select x (decisionOf decisions transactionId)] := by
  have hRows :
      List.Forall₂
        (fun r x =>
          IcebergEnrichedSink.row text arrow r.fields =
            .ok x)
        (recordsOf transactionId (written batches))
        (tables.flatten.filter
          (·.transactionId = transactionId)) := by
    apply List.rel_filter _ (rows_of_tables hAppended)
    intro r x hRow
    have hId :=
      (IcebergEnrichedSink.row_of_enriched hText hTime
        hRow).1
    simp [hId]
  have hWritten : Increasing (written batches) :=
    hIncreasing.sublist (written_sublist batches)
  have hTimes :
      (tables.flatten.filter
          (·.transactionId = transactionId)).Pairwise
        (fun x y => x.enrichmentTime < y.enrichmentTime) := by
    apply
      FallibleList.forall₂_pairwise hRows _
        (hWritten.sublist List.filter_sublist)
    intro r r' x y hx hy hLt
    have hxTime :=
      (IcebergEnrichedSink.row_of_enriched hText hTime hx).2
    have hyTime :=
      (IcebergEnrichedSink.row_of_enriched hText hTime hy).2
    omega
  have hLast :=
    (last_of_batches transactionId batches).2.trans hFirst
  rcases FallibleList.forall₂_getLast hRows hLast with
    ⟨x, hShown, hRow⟩
  refine ⟨x, hRow, ?_⟩
  rw [audit_of_transaction,
    RowNumber.head_of_increasing hTimes, hShown]
  rfl

/- The view shows the latest record of a transaction just
   when the last batch of the transaction holds it once. -/
theorem audit_is_latest_iff
    {stream : List EnrichedRecord}
    {batches : List (List EnrichedRecord)}
    {tables : List (List EnrichedRow)}
    {latest : EnrichedRecord}
    (hIncreasing : Increasing stream)
    (hSplit : batches.flatten = stream)
    (hAppended :
      batches.mapM (tableOf text arrow) = .ok tables)
    (decisions : List DecisionRow)
    (hLatest : IsLatest stream latest) :
    (∃ x,
      IcebergEnrichedSink.row text arrow latest.fields =
          .ok x ∧
        (vTransactionAudit tables.flatten decisions).filter
            (·.transactionId = latest.transactionId) =
          [select x
            (decisionOf decisions latest.transactionId)]) ↔
      (recordsOf latest.transactionId
        (lastBatchOf latest.transactionId batches)).length =
        1 := by
  rw [← hSplit] at hIncreasing hLatest
  have hLast :
      (recordsOf latest.transactionId
        (lastBatchOf latest.transactionId
          batches)).getLast? = some latest := by
    rw [← (last_of_batches _ batches).1]
    exact last_of_latest hIncreasing hLatest
  have hBatch :
      Increasing
        (recordsOf latest.transactionId
          (lastBatchOf latest.transactionId batches)) :=
    (increasing_lastBatchOf _ hIncreasing).sublist
      List.filter_sublist
  cases hFirst :
      (recordsOf latest.transactionId
        (lastBatchOf latest.transactionId batches)).head? with
  | none =>
      rw [List.head?_eq_none_iff] at hFirst
      rw [hFirst] at hLast
      cases hLast
  | some first =>
      rw [← first_time_eq_last_iff hBatch hFirst hLast]
      rcases
          audit_shows_first hText hTime hIncreasing hAppended
            decisions hFirst
        with ⟨x, hRow, hShown⟩
      constructor
      · rintro ⟨y, hLatestRow, hShownLatest⟩
        rw [hShown] at hShownLatest
        have hTimes : x.enrichmentTime = y.enrichmentTime :=
          congrArg AuditRow.enrichmentTime
            (List.singleton_inj.1 hShownLatest)
        have hFirstTime :=
          (IcebergEnrichedSink.row_of_enriched hText hTime
            hRow).2
        have hLatestTime :=
          (IcebergEnrichedSink.row_of_enriched hText hTime
            hLatestRow).2
        omega
      · intro hSame
        have hOnce :=
          (first_time_eq_last_iff hBatch hFirst hLast).1 hSame
        rcases List.length_eq_one_iff.1 hOnce with ⟨r, hOnly⟩
        rw [hOnly] at hFirst hLast
        cases hFirst
        cases hLast
        exact ⟨x, hRow, hShown⟩

end

end FraudStream

namespace FraudStream

namespace TransactionAudit

def decimalFields : List String :=
  ["amount", "vel_amount_1m", "vel_amount_5m",
    "vel_amount_1h", "vel_amount_24h"]

/- What Arrow stores, by the type of the column. -/
def storedCell
    (field : String)
    (v : Scalar) : Except PyError Scalar :=
  if field ∈ IcebergEnrichedSink.timeFields then
    ArrowType.int64.convert v
  else if field ∈ IcebergEnrichedSink.intFields then
    ArrowType.int32.convert v
  else if field ∈ IcebergEnrichedSink.floatFields then
    ArrowType.float32.convert v
  else if field = "device_known_fraud" then
    ArrowType.bool.convert v
  else if field ∈ decimalFields then
    match v with
    | .decimal d => .ok (.decimal d)
    | .none => .ok .none
    | _ => .error .typeError
  else
    ArrowType.inferred.convert v

/- A transaction at an enrichment time, with a count that a
   late arrival corrects. -/
def enrichedAt
    (enrichmentTime : Int)
    (count : Nat) : EnrichedRecord :=
  .ofAssembled enrichmentTime
    { txn := sampleTransaction "txn-1" 0
      velocity := fun _ => (count, 10)
      geo := nullGeoFields
      device :=
        { deviceFirstSeen := some 0
          deviceTxnCount := some 1
          deviceKnownFraud := some false
          prevGeoCountry := none
          prevTxnTimeMs := none } }

/- The enrichment times that the view shows. -/
def shownTimes
    (batches : List (List EnrichedRecord)) :
    Except PyError (List Int) := do
  let tables ←
    batches.mapM
      (tableOf (fun _ => .error .typeError) storedCell)
  pure
    ((vTransactionAudit tables.flatten []).map
      (·.enrichmentTime))

private theorem storedCell_text
    (s : String)
    (c : Scalar)
    (hStored :
      storedCell "transaction_id" (.str s) = .ok c) :
    c = .str s := by
  have hCell :
      storedCell "transaction_id" (.str s) = .ok (.str s) :=
    rfl
  rw [hCell] at hStored
  cases hStored
  rfl

private theorem storedCell_time
    (n : Int)
    (c : Scalar)
    (hStored :
      storedCell "enrichment_time" (.int n) = .ok c) :
    c = .int n := by
  have hType : ArrowType.int64 ≠ .float32 := by decide
  exact ArrowType.eq_of_convert hType hStored

theorem corrected_record_is_shown :
    ∃ tables x,
      [[enrichedAt 1 1], [enrichedAt 2 2]].mapM
          (tableOf (fun _ => .error .typeError) storedCell) =
        .ok tables ∧
      IcebergEnrichedSink.row (fun _ => .error .typeError)
          storedCell (enrichedAt 2 2).fields = .ok x ∧
      (vTransactionAudit tables.flatten []).filter
          (·.transactionId = "txn-1") =
        [select x (decisionOf [] "txn-1")] := by
  have hStored :
      ([[enrichedAt 1 1], [enrichedAt 2 2]].mapM
        (tableOf (fun _ => .error .typeError)
          storedCell)).isOk = true := by
    decide +kernel
  have hIncreasing :
      Increasing [enrichedAt 1 1, enrichedAt 2 2] := by
    simp [Increasing, enrichedAt, EnrichedRecord.ofAssembled]
  have hLatest :
      IsLatest [enrichedAt 1 1, enrichedAt 2 2]
        (enrichedAt 2 2) := by
    simp [IsLatest, enrichedAt, EnrichedRecord.ofAssembled]
  cases hAppended :
      [[enrichedAt 1 1], [enrichedAt 2 2]].mapM
        (tableOf (fun _ => .error .typeError) storedCell) with
  | error e =>
      rw [hAppended] at hStored
      cases hStored
  | ok tables =>
      rcases
          (audit_is_latest_iff storedCell_text
            storedCell_time hIncreasing rfl hAppended []
            hLatest).2 rfl
        with ⟨x, hRow, hShown⟩
      exact ⟨tables, x, rfl, hRow, hShown⟩

/- The corrected record is shown when it is flushed after the
   first one, and lost when it is flushed with it. -/
theorem shown_row_depends_on_batches :
    [[enrichedAt 1 1], [enrichedAt 2 2]].flatten =
        [[enrichedAt 1 1, enrichedAt 2 2]].flatten ∧
      shownTimes [[enrichedAt 1 1], [enrichedAt 2 2]] =
        .ok [2000] ∧
      shownTimes [[enrichedAt 1 1, enrichedAt 2 2]] =
        .ok [1000] := by
  refine ⟨rfl, ?_, ?_⟩ <;> decide +kernel

end TransactionAudit

end FraudStream
