import FraudStream.Processing.Job.Clock
import FraudStream.Replay.LetterScoring
import FraudStream.Replay.RangeEvents
import FraudStream.Replay.UncomparedEvents

/-
  Replaying the enriched records.

  The job writes each record as a JSON object, a decimal as
  its text. A replay of a range of the topic scores the
  object of each offset in the range. No record names a
  decision, a score or rules, so whatever the scoring
  function returns, no decision is found to have changed.

  Key definitions include:
    * `Job.enrichedEntries?`
    * `Job.CarriesRecord`
    * `Job.recordPayloads`

  Main results:
    * `Job.uncompared_recordImage`
    * `ReplayJob.enriched_replay_compares_nothing`
-/

------------------------------------------------------------
-- Records As JSON
------------------------------------------------------------

namespace Scalar

/- The JSON value of a scalar, with `default=str`. An integer
   of too many digits raises. -/
def json?
    (decimalText : Decimal → String) :
    Scalar → Option JsonValue
| .none => some .null
| .bool b => some (.bool b)
| .int n =>
    if hShort : |n| < 10 ^ 4300 then
      some (.int ⟨n, hShort⟩)
    else
      .none
| .float f => some (.float f)
| .decimal d => some (.str (decimalText d))
| .str s => some (.str s)

/- A float is read back, and all else is written in full. -/
theorem isWritable_of_json?
    {table : TextTable}
    {decimalText : Decimal → String}
    {s : Scalar}
    {v : JsonValue}
    (hValue : s.json? decimalText = some v)
    (hFloat :
      ∀ q, s = .float (.finite q) →
        JsonText.ReadsFloat table q)
    (depth : Nat) :
    JsonText.IsWritable table depth v := by
  cases s with
  | none =>
      cases hValue
      cases depth <;> exact trivial
  | bool b =>
      cases hValue
      cases depth <;> exact trivial
  | int n =>
      unfold json? at hValue
      dsimp only at hValue
      split at hValue
      · cases hValue
        cases depth <;> exact trivial
      · cases hValue
  | float f =>
      cases hValue
      cases f with
      | finite q =>
          have hRead := hFloat q rfl
          cases depth <;> exact hRead
      | inf negative => cases depth <;> exact trivial
      | nan => cases depth <;> exact trivial
  | decimal d =>
      cases hValue
      cases depth <;> exact trivial
  | str text =>
      cases hValue
      cases depth <;> exact trivial

end Scalar

namespace FraudStream

namespace Job

def jsonPair?
    (decimalText : Decimal → String)
    (e : String × Scalar) : Option (String × JsonValue) :=
  (e.2.json? decimalText).map (fun v => (e.1, v))

/- The object that is written of a record. -/
def enrichedEntries?
    (decimalText : Decimal → String)
    (record : Record) : Option (List (String × JsonValue)) :=
  record.entries.mapM (jsonPair? decimalText)

/- The message carries the record. -/
def CarriesRecord
    (table : TextTable)
    (decimalText : Decimal → String)
    (record : Record)
    (m : KafkaMessage) : Prop :=
  ∃ es,
    enrichedEntries? decimalText record = some es ∧
      m.value =
        some
          (JsonText.encode (JsonValue.dumps table (.dict es)))

/- What a reader makes of the record. -/
def recordImage
    (decimalText : Decimal → String)
    (record : Record) : JsonObject :=
  .ofList ((enrichedEntries? decimalText record).getD [])

/- The offsets of messages with the images of the records that
   they carry. -/
def recordPayloads
    (decimalText : Decimal → String)
    (ms : List KafkaMessage)
    (records : List Record) : List (Int × JsonObject) :=
  (ms.zip records).map
    (fun placed =>
      (placed.1.offset, recordImage decimalText placed.2))

variable
  {table : TextTable}
  {decimalText : Decimal → String}
  {record : Record}
  {es : List (String × JsonValue)}

theorem written_of_entries
    (hEntries : enrichedEntries? decimalText record = some es) :
    List.Forall₂
      (fun e written =>
        written.1 = e.1 ∧
          e.2.json? decimalText = some written.2)
      record.entries es := by
  refine ((FallibleList.mapM_some_iff ..).1 hEntries).imp ?_
  intro e written hWritten
  rcases Option.map_eq_some_iff.1 hWritten with
    ⟨v, hValue, rfl⟩
  exact ⟨rfl, hValue⟩

theorem names_of_entries
    (hEntries : enrichedEntries? decimalText record = some es) :
    es.map Prod.fst = record.entries.map Prod.fst := by
  have hWritten := written_of_entries hEntries
  generalize record.entries = entries at hWritten
  clear hEntries
  induction hWritten with
  | nil => rfl
  | cons hHead _ ih =>
      rw [List.map_cons, List.map_cons, hHead.1, ih]

/- A record whose floats are read back can be written. -/
theorem isWritable_enriched
    (hEntries : enrichedEntries? decimalText record = some es)
    (hFloats :
      ∀ e ∈ record.entries, ∀ q,
        e.2 = .float (.finite q) →
          JsonText.ReadsFloat table q)
    (depth : Nat) :
    JsonText.IsWritable table (depth + 1) (.dict es) := by
  constructor
  · rw [names_of_entries hEntries]
    exact record.nodupKeys
  · have hWritten := written_of_entries hEntries
    generalize record.entries = entries at hWritten hFloats
    clear hEntries
    induction hWritten with
    | nil => exact List.forall_mem_nil _
    | cons hHead _ ih =>
        rcases List.forall_mem_cons.1 hFloats with
          ⟨hFirst, hOthers⟩
        exact
          List.forall_mem_cons.2
            ⟨Scalar.isWritable_of_json? hHead.2 hFirst depth,
              ih hOthers⟩

/- No record has a decision to compare with. -/
theorem uncompared_recordImage
    (decimalText : Decimal → String)
    {config : JobConfig}
    (hProduced : Produced config record) :
    Uncompared (recordImage decimalText record) := by
  intro name hName
  rcases hProduced with
    ⟨inputs, t, d, enrichmentTime, -, rfl⟩
  unfold recordImage
  cases hEntries :
      enrichedEntries? decimalText
        (assemble enrichmentTime d) with
  | none => rfl
  | some es =>
      have hNames := names_of_entries hEntries
      have hRecord :
          (assemble enrichmentTime d).entries =
            FraudStream.recordEntries d.txn d.velocity d.geo
              d.device enrichmentTime
              (max 0
                (enrichmentTime - d.txn.processingTime)) :=
        Dict.entries_ofList (nodup_recordEntries ..)
      have hNodup : (es.map Prod.fst).Nodup := by
        rw [hNames]
        exact (assemble enrichmentTime d).nodupKeys
      have hAbsent : name ∉ es.map Prod.fst := by
        rw [hNames, hRecord]
        simp only [comparedNames, List.mem_cons,
          List.not_mem_nil, or_false] at hName
        rcases hName with rfl | rfl | rfl <;>
          simp [FraudStream.recordEntries]
      rw [Option.getD_some, Dict.get?_ofList hNodup]
      cases hValue : Dict.lookupEntries name es with
      | none => rfl
      | some v =>
          exact
            absurd
              (List.mem_map_of_mem
                (Dict.mem_of_lookupEntries hValue))
              hAbsent

end Job

end FraudStream

------------------------------------------------------------
-- Events Of Records
------------------------------------------------------------

namespace FraudStream

namespace KafkaSourceAdapter

variable
  {rt : ReplayRuntime}
  {cfg : KafkaSourceConfig}
  {table : TextTable}
  {decimalText : Decimal → String}
  {depth : Nat}

/- The event of a message that carries a record. -/
theorem eventOf?_of_record
    (hReads : rt.ReadsJson (depth + 1))
    {record : Record}
    {m : KafkaMessage}
    (hCarries :
      Job.CarriesRecord table decimalText record m)
    (hFloats :
      ∀ e ∈ record.entries, ∀ q,
        e.2 = .float (.finite q) →
          JsonText.ReadsFloat table q)
    (poll : Nat) :
    ∃ e,
      eventOf? rt cfg poll m = some e ∧
        e.sourceEvent.Holds
          (m.offset, Job.recordImage decimalText record) := by
  rcases hCarries with ⟨es, hEntries, hValue⟩
  have hWritable :=
    Job.isWritable_enriched hEntries hFloats depth
  unfold eventOf?
  rw [hValue, Option.map_some, hReads.decode_dumps hWritable]
  refine ⟨_, rfl, rfl, ?_⟩
  unfold Job.recordImage
  rw [hEntries]
  rfl

theorem makes_records
    (hReads : rt.ReadsJson (depth + 1))
    {ms : List KafkaMessage}
    {records : List Record}
    (hCarried :
      List.Forall₂
        (fun m record =>
          Job.CarriesRecord table decimalText record m)
        ms records)
    (hFloats :
      ∀ record ∈ records, ∀ e ∈ record.entries, ∀ q,
        e.2 = .float (.finite q) →
          JsonText.ReadsFloat table q) :
    List.Forall₂
      (fun m x =>
        ∀ poll, ∃ e,
          eventOf? rt cfg poll m = some e ∧
            e.sourceEvent.Holds x)
      ms (Job.recordPayloads decimalText ms records) := by
  induction hCarried with
  | nil => exact .nil
  | cons hHead _ ih =>
      rcases List.forall_mem_cons.1 hFloats with
        ⟨hFirst, hOthers⟩
      exact
        .cons (eventOf?_of_record hReads hHead hFirst)
          (ih hOthers)

end KafkaSourceAdapter

end FraudStream

------------------------------------------------------------
-- A Replay Of Enriched Records
------------------------------------------------------------

namespace FraudStream

namespace ReplayJob

open KafkaSourceAdapter PolledLog

/-
  A job over a range of the enriched topic ends completed.
  Its results are those of the records in the range that the
  function scores, in order, and each has nothing to compare
  with. Its summary never tells of a change.
-/
theorem enriched_replay_compares_nothing
    {rt : ReplayRuntime}
    {cfg : KafkaSourceConfig}
    {log : PartitionLog}
    {deliveries : Nat → Delivery}
    {table : TextTable}
    {decimalText : Decimal → String}
    {depth : Nat}
    {config : Job.JobConfig}
    {records : List Record}
    {scoringFn : ScoringFn}
    {env : ReplayEnv SourceEvent ProcessedEvent}
    {total : Int}
    {highWatermark : Option Int}
    {polls : Nat}
    (hReads : rt.ReadsJson (depth + 1))
    (hProduced :
      ∀ record ∈ records, Job.Produced config record)
    (hCarried :
      List.Forall₂
        (fun m record =>
          Job.CarriesRecord table decimalText record m)
        log.messages records)
    (hFloats :
      ∀ record ∈ records, ∀ e ∈ record.entries, ∀ q,
        e.2 = .float (.finite q) →
          JsonText.ReadsFloat table q)
    (hInside : Inside cfg log)
    (hDelivers : ∀ p, deliveries p = .next)
    (hPolls :
      (cfg.endOffset - cfg.startOffset).toNat ≤ polls)
    (hEvents :
      env.events =
        (iterEvents rt cfg log deliveries highWatermark
          polls).map KafkaEvent.sourceEvent)
    (hScores : env.Scores rt scoringFn)
    (hScorable : scoringFn.RaisesErrors)
    (hUncancelled : env.Uncancelled total) :
    EndsUncompared scoringFn env total
      (cfg.slice log
        (Job.recordPayloads decimalText log.messages
          records)) := by
  have hMade :=
    iterEvents_of_makes
      (makes_records hReads hCarried hFloats) hInside
      hDelivers highWatermark hPolls
  have hHolds :
      List.Forall₂ (fun x (e : SourceEvent) => e.Holds x)
        (cfg.slice log
          (Job.recordPayloads decimalText log.messages
            records))
        env.events := by
    rw [hEvents, List.forall₂_map_right_iff]
    exact hMade
  have hUncompared :
      ∀ x ∈
          cfg.slice log
            (Job.recordPayloads decimalText log.messages
              records),
        Uncompared x.2 := by
    intro x hMem
    rcases List.mem_map.1 (mem_of_mem_slice hMem) with
      ⟨placed, hPlaced, rfl⟩
    exact
      Job.uncompared_recordImage decimalText
        (hProduced _ (List.of_mem_zip hPlaced).2)
  exact
    start_of_uncompared hUncompared hHolds hScores hScorable
      hUncancelled

def decimalTexts : Decimal → String :=
  fun _ => "10"

/- A message of the sample record. -/
def enrichedMessage (offset : Int) : KafkaMessage where
  partition := 0
  offset := offset
  key := none
  value :=
    (Job.enrichedEntries? decimalTexts Job.sampleRecord).map
      (fun es =>
        JsonText.encode (JsonValue.dumps asciiTable (.dict es)))

theorem offset_enrichedMessage
    (i : Nat)
    (m : KafkaMessage)
    (hFound :
      [enrichedMessage 0, enrichedMessage 1][i]? = some m) :
    m.offset = 0 + i := by
  rcases i with _ | _ | i
  · cases hFound
    rfl
  · cases hFound
    rfl
  · cases hFound

/- The sample record at two offsets. -/
def enrichedLog : PartitionLog where
  messages := [enrichedMessage 0, enrichedMessage 1]
  lowOffset := 0
  nonneg := PartitionLog.zero_nonneg
  contiguous := offset_enrichedMessage

theorem carries_enrichedMessage (offset : Int) :
    Job.CarriesRecord asciiTable decimalTexts
      Job.sampleRecord (enrichedMessage offset) := by
  have hSome :
      (Job.enrichedEntries? decimalTexts
        Job.sampleRecord).isSome = true := by
    decide +kernel
  rcases Option.isSome_iff_exists.1 hSome with
    ⟨es, hEntries⟩
  refine ⟨es, hEntries, ?_⟩
  unfold enrichedMessage
  dsimp only
  rw [hEntries, Option.map_some]

theorem enriched_replay_of_sample :
    EndsUncompared dummyScoring
      (dummyEnv jsonRuntime
        ((iterEvents jsonRuntime wholeRange enrichedLog
          (fun _ => .next) none 3).map
            KafkaEvent.sourceEvent))
      ((iterEvents jsonRuntime wholeRange enrichedLog
        (fun _ => .next) none 3).map
          KafkaEvent.sourceEvent).length
      (wholeRange.slice enrichedLog
        (Job.recordPayloads decimalTexts
          enrichedLog.messages
          [Job.sampleRecord, Job.sampleRecord])) := by
  have hReads : jsonRuntime.ReadsJson (899 + 1) :=
    fun _ _ => rfl
  have hProduced :
      ∀ record ∈ [Job.sampleRecord, Job.sampleRecord],
        Job.Produced Job.sampleConfig record := by
    intro record hMem
    rcases List.mem_pair.1 hMem with rfl | rfl <;>
      exact Job.produced_sampleRecord
  have hCarried :
      List.Forall₂
        (fun m record =>
          Job.CarriesRecord asciiTable decimalTexts record m)
        enrichedLog.messages
        [Job.sampleRecord, Job.sampleRecord] :=
    .cons (carries_enrichedMessage 0)
      (.cons (carries_enrichedMessage 1) .nil)
  have hNone :
      Job.sampleRecord.entries.all
        (fun e => !e.2.isFloat) = true := by
    decide +kernel
  have hFloats :
      ∀ record ∈ [Job.sampleRecord, Job.sampleRecord],
        ∀ e ∈ record.entries, ∀ q,
          e.2 = .float (.finite q) →
            JsonText.ReadsFloat asciiTable q := by
    intro record hMem e hEntry q hFloat
    rcases List.mem_pair.1 hMem with rfl | rfl <;>
    · have hNot := List.all_eq_true.1 hNone e hEntry
      rw [hFloat] at hNot
      cases hNot
  have hInside : Inside wholeRange enrichedLog := by
    refine ⟨?_, ?_, ?_⟩ <;> decide
  exact
    enriched_replay_compares_nothing hReads hProduced
      hCarried hFloats hInside (fun _ => rfl) (by decide)
      (events_dummyEnv _ _) (scores_dummyEnv _ _)
      raisesErrors_dummyScoring (uncancelled_dummyEnv _ _)

end ReplayJob

end FraudStream
