import FraudStream.Analytics.FlushOutcomes
import FraudStream.Library.Binary64
import FraudStream.Library.Statements

/-
  The Iceberg sinks as programs that may raise.

  The clock is read once in an invoke and once in each flush
  of a nonempty buffer, in seconds. Between two readings a
  value is appended; the time of that is kept with it, and
  read by nothing. The handlers of a flush are around its
  conversion and its append, and the buffer is cleared
  whatever they do. What is before them, the search for
  duplicates, raises to the handler of the invoke.

  Key definitions include:
    * `SinkValue`
    * `SinkProgram`
    * `SinkProgram.flushBody`
    * `SinkProgram.flush`
    * `SinkProgram.invoke`

  Main results:
    * `SinkProgram.run_flushBody`
    * `SinkProgram.run_flush`
    * `SinkProgram.run_invoke`
-/

------------------------------------------------------------
-- Values
------------------------------------------------------------

namespace FraudStream

/- What `invoke` is given: a dict, or a dataclass record with
   the fields of a dict. -/
inductive SinkValue (ρ : Type) where
| dict : ρ → SinkValue ρ
| dataclass : ρ → SinkValue ρ

/- A sink, its clock, and what its environment does. What
   `lookup` tells of a dict is its `transaction_id`, or what
   the search for duplicates raises on it. -/
structure SinkProgram (ρ : Type) where
  sink : IcebergSink
  bufferMax : Int
  lookup : ρ → Except FlushError (Option String)
  opened : OpenAttempt
  clock : Nat → ℚ
  attempts : Nat → FlushAttempt

namespace SinkProgram

variable {ρ : Type}
variable (S : SinkProgram ρ)

/- A dataclass record has no `get`. -/
def lookupId :
    SinkValue ρ → Except FlushError (Option String)
| .dict r => S.lookup r
| .dataclass _ => .error .attributeError

def transactionId? (v : SinkValue ρ) : Option String :=
  match S.lookupId v with
  | .ok id? => id?
  | .error _ => none

/- What is buffered of a value: only the sink of enriched
   records has no use of `asdict`. -/
def toRecord (v : SinkValue ρ) : SinkValue ρ :=
  match S.sink, v with
  | .enriched, v => v
  | .decisions, .dataclass r => .dict r
  | .shared _, .dataclass r => .dict r
  | _, v => v

/- The sink without its clock. -/
def setup : SinkSetup (SinkValue ρ) where
  sink := S.sink
  bufferMax := S.bufferMax
  transactionId? := S.transactionId?
  opened := S.opened
  clock := fun _ => 0
  attempts := S.attempts

/- A value that is buffered as a dict whose identifier is
   text. -/
def Accepts (v : SinkValue ρ) : Prop :=
  ∃ id, S.lookupId (S.toRecord v) = .ok (some id)

end SinkProgram

end FraudStream

------------------------------------------------------------
-- The Guarded Part Of A Flush
------------------------------------------------------------

namespace FraudStream

namespace SinkProgram

open Statements (raiseIf)
open IcebergSinkBase (firstTxnId)

variable {ρ : Type}

/- Programs that commit batches and emit dead letters. -/
abbrev Flushing (ρ α : Type) :=
  EStateM FlushError (FlushOutcome (SinkValue ρ)) α

def emitDlq (event : DLQEvent) : Flushing ρ Unit :=
  modify (fun o =>
    { o with deadLetters := o.deadLetters ++ [event] })

/- The append in the executor, and the wait for it. -/
def appendAndWait
    (a : FlushAttempt)
    (batch : List (SinkValue ρ)) : Flushing ρ Unit := do
  modify (fun o => { o with committed := a.commit batch })
  raiseIf a.futureResult

/- The conversion and the executor block of the operator
   sinks. -/
def operatorAppend
    (h : SinkHandles)
    (a : FlushAttempt)
    (deadLetter : String → DLQEvent)
    (batch : List (SinkValue ρ)) : Flushing ρ Unit := do
  raiseIf a.conversion
  try
    if h.table && h.breaker then
      appendAndWait a batch
    else
      throw .attributeError
  catch e =>
    if e.isTimeout then
      emitDlq (deadLetter "timeout")
    else
      throw e

variable (S : SinkProgram ρ)

def eventName : String :=
  match S.sink with
  | .enriched => "iceberg_sink_dlq"
  | .decisions => "iceberg_decisions_sink_dlq"
  | .shared eventName => eventName

def deadLetter
    (batch : List (SinkValue ρ))
    (reason : String) : DLQEvent where
  event := S.eventName
  transactionId := firstTxnId S.transactionId? batch
  reason := reason
  batchSize := batch.length

/- The flush of a batch with the handlers around it. -/
def flushBody
    (n : Nat)
    (batch : List (SinkValue ρ)) : Flushing ρ Unit :=
  let h := S.setup.handles
  let a := S.attempts n
  match S.sink with
  | .enriched => do
      try
        if h.table then
          operatorAppend h a (S.deadLetter batch) batch
        else
          forM batch (fun r =>
            emitDlq
              { event := "iceberg_sink_dlq"
                transactionId :=
                  (S.transactionId? r).getD "unknown"
                reason := "iceberg_table_not_loaded"
                batchSize := 1 })
      catch e =>
        emitDlq
          (S.deadLetter batch
            (IcebergOperatorSink.flushErrorReason e))
  | .decisions => do
      try
        operatorAppend h a (S.deadLetter batch) batch
      catch e =>
        emitDlq
          (S.deadLetter batch
            (IcebergOperatorSink.flushErrorReason e))
  | .shared _ => do
      try
        if h.table then
          raiseIf a.conversion
          appendAndWait a batch
          raiseIf a.afterSuccess
      catch e =>
        emitDlq
          (S.deadLetter batch
            (IcebergSinkBase.classifyFlushError e))

/- The executor block leaves what is told of it, and its
   exceptions are those that the outer handler names. -/
theorem run_operatorAppend
    (h : SinkHandles)
    (a : FlushAttempt)
    (deadLetter : String → DLQEvent)
    (batch : List (SinkValue ρ)) :
    EStateM.run
        (do
          try
            operatorAppend h a deadLetter batch
          catch e =>
            emitDlq
              (deadLetter
                (IcebergOperatorSink.flushErrorReason e)))
        (⟨none, []⟩ : FlushOutcome (SinkValue ρ)) =
      .ok ()
        (IcebergOperatorSink.convertAndAppend h a deadLetter
          batch) := by
  unfold operatorAppend appendAndWait emitDlq
    IcebergOperatorSink.convertAndAppend
    IcebergOperatorSink.appendBatch
  cases a.conversion with
  | some e => simp
  | none =>
      cases hReady : h.table && h.breaker with
      | false => simp [FlushError.attributeError]
      | true =>
          cases a.futureResult with
          | none => simp
          | some e =>
              cases hTimeout : e.isTimeout with
              | true => simp [hTimeout]
              | false => simp [hTimeout]

theorem run_forM_emitDlq
    (event : SinkValue ρ → DLQEvent)
    (batch : List (SinkValue ρ))
    (o : FlushOutcome (SinkValue ρ)) :
    (forM batch (fun r => emitDlq (event r))).run o =
      .ok ()
        { o with
          deadLetters :=
            o.deadLetters ++ batch.map event } := by
  induction batch generalizing o with
  | nil => simp
  | cons r batch ih =>
      rw [List.forM_cons, EStateM.run_bind]
      simp only [emitDlq, EStateM.run_modify] at ih ⊢
      rw [ih]
      simp

/- So does the flush of the shared sink. -/
theorem run_sharedFlush
    (h : SinkHandles)
    (a : FlushAttempt)
    (eventName : String)
    (transactionId? : SinkValue ρ → Option String)
    (buffer : List (SinkValue ρ)) :
    let batch :=
      IcebergSinkBase.deduplicate transactionId? buffer
    EStateM.run
        (do
          try
            if h.table then
              raiseIf a.conversion
              appendAndWait a batch
              raiseIf a.afterSuccess
          catch e =>
            emitDlq
              { event := eventName
                transactionId :=
                  firstTxnId transactionId? batch
                reason :=
                  IcebergSinkBase.classifyFlushError e
                batchSize := batch.length })
        (⟨none, []⟩ : FlushOutcome (SinkValue ρ)) =
      .ok ()
        (IcebergSinkBase.write eventName transactionId? h a
          buffer) := by
  intro batch
  unfold emitDlq appendAndWait IcebergSinkBase.write
  cases h.table with
  | false => simp
  | true =>
      cases a.conversion with
      | some e => simp [batch]
      | none =>
          cases a.futureResult with
          | some e => simp [batch]
          | none =>
              cases a.afterSuccess with
              | some e => simp [batch]
              | none => simp [batch]

/- The handlers leave nothing to raise, and the flush leaves
   what is told of it. -/
theorem run_flushBody
    (n : Nat)
    (buffer : List (SinkValue ρ)) :
    (S.flushBody n
        (IcebergSinkBase.deduplicate S.transactionId?
          buffer)).run ⟨none, []⟩ =
      .ok () (S.setup.config.write n buffer) := by
  have hOperator :=
    run_operatorAppend S.setup.handles (S.attempts n)
      (S.deadLetter
        (IcebergSinkBase.deduplicate S.transactionId?
          buffer))
      (IcebergSinkBase.deduplicate S.transactionId? buffer)
  have hOwn : S.setup.sink = S.sink := rfl
  rw [SinkSetup.config, hOwn]
  cases hSink : S.sink with
  | enriched =>
      have hWrite :
          IcebergEnrichedSink.write S.transactionId?
              S.setup.handles (S.attempts n) buffer =
            if S.setup.handles.table = false then
              { committed := none
                deadLetters :=
                  (IcebergSinkBase.deduplicate
                    S.transactionId? buffer).map (fun r =>
                      { event := "iceberg_sink_dlq"
                        transactionId :=
                          (S.transactionId? r).getD "unknown"
                        reason := "iceberg_table_not_loaded"
                        batchSize := 1 }) }
            else
              IcebergOperatorSink.convertAndAppend
                S.setup.handles (S.attempts n)
                (S.deadLetter
                  (IcebergSinkBase.deduplicate
                    S.transactionId? buffer))
                (IcebergSinkBase.deduplicate
                  S.transactionId? buffer) := by
        unfold deadLetter eventName
        rw [hSink]
        rfl
      simp only [flushBody, hSink]
      refine
        Eq.trans ?_
          (congrArg (EStateM.Result.ok ()) hWrite.symm)
      cases hTable : S.setup.handles.table with
      | false =>
          simp only [Bool.false_eq_true, if_false, if_true,
            Statements.run_tryCatch, run_forM_emitDlq,
            List.nil_append]
      | true =>
          simp only [if_true, Bool.true_eq_false, if_false,
            hOperator]
  | decisions =>
      simp only [flushBody, hSink, hOperator]
      unfold deadLetter eventName
      rw [hSink]
      rfl
  | shared eventName =>
      have hShared :=
        run_sharedFlush S.setup.handles (S.attempts n)
          eventName S.transactionId? buffer
      simp only [flushBody, hSink]
      unfold deadLetter SinkProgram.eventName
      rw [hSink]
      exact hShared

end SinkProgram

end FraudStream

------------------------------------------------------------
-- Flushes And Invokes
------------------------------------------------------------

namespace FraudStream

/- A buffered record and the time of its append. -/
structure Buffered (ρ : Type) where
  record : SinkValue ρ
  appendedAt : ℚ

/- The fields of a sink, the number of clock readings, and
   what has been flushed. -/
structure SinkState (ρ : Type) where
  buffer : List (Buffered ρ)
  lastFlushTimeSec : ℚ
  readings : Nat
  reports :
    List (BatchBuffer.Report (SinkValue ρ)
      (FlushOutcome (SinkValue ρ)))

def SinkState.records
    {ρ : Type}
    (s : SinkState ρ) : List (SinkValue ρ) :=
  s.buffer.map (·.record)

namespace SinkProgram

variable {ρ : Type}

/- Programs on the fields of a sink. -/
abbrev Running (ρ α : Type) :=
  EStateM FlushError (SinkState ρ) α

/- `now - last >= 1.0` -/
def periodPassed (now last : ℚ) : Bool :=
  match PyFloat.ofRat (now - last) with
  | .finite v => 1 ≤ v
  | .inf negative => !negative
  | .nan => false

variable (S : SinkProgram ρ)

/- A new sink. -/
def start : SinkState ρ where
  buffer := []
  lastFlushTimeSec := S.clock 0
  readings := 1
  reports := []

/- `time.time()` -/
def time : Running ρ ℚ := do
  let s ← get
  set { s with readings := s.readings + 1 }
  return S.clock s.readings

/- The search for duplicates, from the identifiers seen. -/
def dedupFrom :
    List String → List (SinkValue ρ) →
      Except FlushError (List (SinkValue ρ))
| _, [] => .ok []
| seen, r :: rs =>
    match S.lookupId r with
    | .error e => .error e
    | .ok id? =>
        let txnId := id?.getD ""
        if txnId ∈ seen then
          dedupFrom seen rs
        else
          (dedupFrom (txnId :: seen) rs).map (r :: ·)

def deduplicate : Running ρ (List (SinkValue ρ)) := do
  let s ← get
  match S.dedupFrom [] s.records with
  | .ok deduplicated => return deduplicated
  | .error e => throw e

/- Report what became of the buffer. -/
def reported
    (s : SinkState ρ)
    (o : FlushOutcome (SinkValue ρ)) : SinkState ρ :=
  { s with reports := s.reports ++ [⟨s.records, o⟩] }

/- The guarded part, with a report of what it does. -/
def writeOut
    (batch : List (SinkValue ρ)) : Running ρ Unit := do
  let s ← get
  match (S.flushBody s.reports.length batch).run
      ⟨none, []⟩ with
  | .ok _ o => set (reported s o)
  | .error e o =>
      set (reported s o)
      throw e

def clear : Running ρ Unit :=
  modify (fun s => { s with buffer := [] })

/- `_flush` -/
def flush : Running ρ Unit := do
  if (← get).buffer.isEmpty then
    return
  let now ← S.time
  modify (fun s => { s with lastFlushTimeSec := now })
  let deduplicated ← S.deduplicate
  try
    S.writeOut deduplicated
  finally
    clear

/- The value is appended at a time that is not read. -/
def append (v : SinkValue ρ) : Running ρ Unit := do
  let appendedAt ← S.time
  modify (fun s =>
    { s with
      buffer := s.buffer ++ [⟨S.toRecord v, appendedAt⟩] })

/- Append the value, and flush a full buffer. -/
def take (v : SinkValue ρ) : Running ρ Unit := do
  S.append v
  if S.bufferMax ≤ (← get).buffer.length then
    S.flush

def invoke (v : SinkValue ρ) : Running ρ Unit := do
  try
    let now ← S.time
    if periodPassed now (← get).lastFlushTimeSec then
      S.flush
    S.take v
  catch _ =>
    -- logged, and not raised again
    pure ()

end SinkProgram

end FraudStream

------------------------------------------------------------
-- What They Leave
------------------------------------------------------------

namespace FraudStream

namespace SinkProgram

variable {ρ : Type}
variable (S : SinkProgram ρ)

/- The state after a flush that does not raise. -/
def flushed (s : SinkState ρ) : SinkState ρ :=
  if s.buffer.isEmpty then
    s
  else
    { buffer := []
      lastFlushTimeSec := S.clock s.readings
      readings := s.readings + 1
      reports :=
        s.reports ++
          [⟨s.records,
            S.setup.config.write s.reports.length
              s.records⟩] }

def appended
    (v : SinkValue ρ)
    (s : SinkState ρ) : SinkState ρ :=
  { s with
    readings := s.readings + 1
    buffer :=
      s.buffer ++ [⟨S.toRecord v, S.clock s.readings⟩] }

def taken
    (v : SinkValue ρ)
    (s : SinkState ρ) : SinkState ρ :=
  if S.bufferMax ≤ (S.appended v s).buffer.length then
    S.flushed (S.appended v s)
  else
    S.appended v s

/- The clock reading at the start of an invoke. -/
def read (s : SinkState ρ) : SinkState ρ :=
  { s with readings := s.readings + 1 }

/- The state after an invoke whose flushes do not raise. -/
def invoked
    (v : SinkValue ρ)
    (s : SinkState ρ) : SinkState ρ :=
  if periodPassed (S.clock s.readings)
      s.lastFlushTimeSec then
    S.taken v (S.flushed (read s))
  else
    S.taken v (read s)

/- The search for duplicates raises on no buffered record. -/
def Searchable (s : SinkState ρ) : Prop :=
  ∀ r ∈ s.records, ∃ id?, S.lookupId r = .ok id?

theorem dedupFrom_of_searchable
    {rs : List (SinkValue ρ)}
    (hRecords : ∀ r ∈ rs, ∃ id?, S.lookupId r = .ok id?)
    (seen : List String) :
    S.dedupFrom seen rs =
      .ok
        (BatchBuffer.firstOccurrences
          (fun r => (S.transactionId? r).getD "") seen
          rs) := by
  induction rs generalizing seen with
  | nil => rfl
  | cons r rs ih =>
      rcases List.forall_mem_cons.1 hRecords with
        ⟨⟨id?, hId⟩, hRest⟩
      have hText : S.transactionId? r = id? := by
        simp only [transactionId?, hId]
      simp only [dedupFrom, hId,
        BatchBuffer.firstOccurrences, hText]
      split
      · exact ih hRest seen
      · rw [ih hRest]
        rfl

@[simp] theorem run_time
    (s : SinkState ρ) :
    S.time.run s =
      .ok (S.clock s.readings)
        { s with readings := s.readings + 1 } := rfl

@[simp] theorem run_append
    (v : SinkValue ρ)
    (s : SinkState ρ) :
    (S.append v).run s = .ok () (S.appended v s) := rfl

theorem run_deduplicate
    {s : SinkState ρ}
    (hSearchable : S.Searchable s) :
    S.deduplicate.run s =
      .ok
        (IcebergSinkBase.deduplicate S.transactionId?
          s.records) s := by
  simp only [deduplicate, EStateM.run_bind,
    EStateM.run_get,
    S.dedupFrom_of_searchable hSearchable []]
  rfl

/- The guarded part reports the outcome of the write. -/
theorem run_writeOut
    (s : SinkState ρ) :
    (S.writeOut
        (IcebergSinkBase.deduplicate S.transactionId?
          s.records)).run s =
      .ok ()
        (reported s
          (S.setup.config.write s.reports.length
            s.records)) := by
  simp only [writeOut, EStateM.run_bind, EStateM.run_get,
    S.run_flushBody, EStateM.run_set]

/- A flush does not raise, and clears the buffer. -/
theorem run_flush
    {s : SinkState ρ}
    (hSearchable : S.Searchable s) :
    S.flush.run s = .ok () (S.flushed s) := by
  unfold flush flushed
  cases hEmpty : s.buffer.isEmpty with
  | true =>
      simp only [EStateM.run_bind, EStateM.run_get, hEmpty,
        if_true, EStateM.run_pure]
  | false =>
      let s' : SinkState ρ :=
        { s with
          lastFlushTimeSec := S.clock s.readings
          readings := s.readings + 1 }
      have hDedup : S.deduplicate.run s' = _ :=
        S.run_deduplicate hSearchable
      have hWrite := S.run_writeOut s'
      simp only [EStateM.run_bind, EStateM.run_get, hEmpty,
        Bool.false_eq_true, if_false, run_time,
        EStateM.run_modify, s'] at hDedup hWrite ⊢
      rw [hDedup]
      simp only [Statements.run_tryFinally]
      rw [hWrite]
      rfl

theorem searchable_flushed
    {s : SinkState ρ}
    (hSearchable : S.Searchable s) :
    S.Searchable (S.flushed s) := by
  unfold flushed
  split
  · exact hSearchable
  · intro r hMem
    simp [SinkState.records] at hMem

theorem searchable_appended
    {s : SinkState ρ}
    {v : SinkValue ρ}
    (hSearchable : S.Searchable s)
    (hValue : S.Accepts v) :
    S.Searchable (S.appended v s) := by
  intro r hMem
  simp only [SinkState.records, appended, List.map_append,
    List.map_cons, List.map_nil, List.mem_append,
    List.mem_singleton] at hMem
  rcases hMem with hEarlier | rfl
  · exact hSearchable r hEarlier
  · rcases hValue with ⟨id, hId⟩
    exact ⟨some id, hId⟩

theorem run_take
    {s : SinkState ρ}
    {v : SinkValue ρ}
    (hSearchable : S.Searchable s)
    (hValue : S.Accepts v) :
    (S.take v).run s = .ok () (S.taken v s) := by
  simp only [take, taken, EStateM.run_bind, run_append,
    EStateM.run_get]
  split
  · exact
      S.run_flush (S.searchable_appended hSearchable hValue)
  · rfl

/- An invoke does what it does without exceptions. -/
theorem run_invoke
    {s : SinkState ρ}
    {v : SinkValue ρ}
    (hSearchable : S.Searchable s)
    (hValue : S.Accepts v) :
    (S.invoke v).run s = .ok () (S.invoked v s) := by
  have hRead : S.Searchable (read s) := hSearchable
  have hFlush := S.run_flush hRead
  have hTake :=
    S.run_take (S.searchable_flushed hRead) hValue
  have hTakeNow := S.run_take hRead hValue
  simp only [invoke, invoked, Statements.run_tryCatch,
    EStateM.run_bind, run_time, EStateM.run_get]
  unfold read at hFlush hTake hTakeNow ⊢
  cases
    periodPassed (S.clock s.readings)
      s.lastFlushTimeSec with
  | true =>
      simp only [if_true, EStateM.run_bind, hFlush, hTake]
  | false =>
      simp only [Bool.false_eq_true, if_false, hTakeNow]

end SinkProgram

end FraudStream
