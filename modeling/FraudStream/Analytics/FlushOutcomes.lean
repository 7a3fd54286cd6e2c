import FraudStream.Processing.IcebergEnrichedSink
import FraudStream.Scoring.IcebergDecisionsSink

/-
  What becomes of the records of an Iceberg sink.

  A flush that fails names the first record of its batch,
  and a flush whose append is late names it although the
  batch is committed.

  Key definitions include:
    * `IcebergSink`
    * `SinkSetup`
    * `SinkSetup.Settled`
    * `SinkSetup.Covers`

  The main results are:
    * `SinkSetup.write_cases`
    * `SinkSetup.accounted_of_covers`
    * `SinkSetup.one_outcome_iff`
-/

------------------------------------------------------------
-- The Three Sinks
------------------------------------------------------------

namespace FraudStream

inductive IcebergSink where
| enriched
| decisions
| shared (eventName : String)
deriving DecidableEq

/- A sink with what its environment does. -/
structure SinkSetup (ρ : Type) where
  sink : IcebergSink
  bufferMax : Int
  transactionId? : ρ → Option String
  opened : OpenAttempt
  clock : Nat → Int
  attempts : Nat → FlushAttempt

namespace SinkSetup

variable {ρ : Type}

def handles (S : SinkSetup ρ) : SinkHandles :=
  match S.sink with
  | .enriched => IcebergOperatorSink.open S.opened
  | .decisions => IcebergOperatorSink.open S.opened
  | .shared _ => IcebergSinkBase.open S.opened

def config
    (S : SinkSetup ρ) :
    BatchBuffer.Config ρ (FlushOutcome ρ) :=
  match S.sink with
  | .enriched =>
      IcebergEnrichedSink.config S.bufferMax
        S.transactionId? S.handles S.clock S.attempts
  | .decisions =>
      IcebergDecisionsSink.config S.bufferMax
        S.transactionId? S.handles S.clock S.attempts
  | .shared eventName =>
      IcebergSinkBase.config eventName S.bufferMax
        S.transactionId? S.handles S.clock S.attempts

/- The state after a run of operations. -/
def run
    (S : SinkSetup ρ)
    (start : Int)
    (ops : List (BatchBuffer.Op ρ)) :
    BatchBuffer.State ρ (FlushOutcome ρ) :=
  BatchBuffer.run S.config start ops

end SinkSetup

end FraudStream

------------------------------------------------------------
-- One Flush
------------------------------------------------------------

namespace FraudStream

namespace SinkSetup

open IcebergSinkBase (deduplicate firstTxnId)

variable {ρ : Type}

/- The append of a flush is reached and succeeds. Only the
   shared sink appends without a breaker. -/
def AppendSucceeds
    (S : SinkSetup ρ)
    (n : Nat) : Prop :=
  S.handles.table = true ∧
    (S.handles.breaker = true ∨
      ∃ eventName, S.sink = .shared eventName) ∧
    (S.attempts n).conversion = none ∧
    (S.attempts n).append = none

/- The append of a flush returns in time, and the hook of the
   shared sink does not raise after it. -/
def Clean
    (S : SinkSetup ρ)
    (n : Nat) : Prop :=
  (S.attempts n).durationMs ≤ icebergFlushTimeoutMs ∧
    ∀ eventName, S.sink = .shared eventName →
      (S.attempts n).afterSuccess = none

/- A failed flush names the first record of its batch. -/
def NamesFirst (S : SinkSetup ρ) : Prop :=
  S.sink = .decisions ∨ S.handles.table = true

/- Without a table, the enriched sink names each record, and
   the shared sink names none. -/
def NamesEach (S : SinkSetup ρ) : Prop :=
  S.sink = .enriched ∧ S.handles.table = false

def NamesNone (S : SinkSetup ρ) : Prop :=
  (∃ eventName, S.sink = .shared eventName) ∧
    S.handles.table = false

/- The outcomes that a flush can have. -/
inductive FlushCase
    (S : SinkSetup ρ)
    (n : Nat)
    (buffer : List ρ) : FlushOutcome ρ → Prop
| committed :
    S.AppendSucceeds n → S.Clean n →
      FlushCase S n buffer
        ⟨some (deduplicate S.transactionId? buffer), []⟩
| committedAndNamed :
    S.AppendSucceeds n → ¬S.Clean n →
      (e : DLQEvent) →
      e.transactionId =
        firstTxnId S.transactionId? buffer →
      FlushCase S n buffer
        ⟨some (deduplicate S.transactionId? buffer), [e]⟩
| named :
    ¬S.AppendSucceeds n → S.NamesFirst →
      (e : DLQEvent) →
      e.transactionId =
        firstTxnId S.transactionId? buffer →
      FlushCase S n buffer ⟨none, [e]⟩
| eachNamed :
    S.NamesEach →
      (es : List DLQEvent) →
      es.map (·.transactionId) =
        (deduplicate S.transactionId? buffer).map
          (fun r => (S.transactionId? r).getD "unknown") →
      FlushCase S n buffer ⟨none, es⟩
| dropped :
    S.NamesNone → FlushCase S n buffer ⟨none, []⟩

end SinkSetup

/- The append that is waited for succeeds in time or late, or
   it fails, and what is waited for fails. -/
theorem FlushAttempt.result_cases
    {ρ : Type}
    (a : FlushAttempt)
    (batch : List ρ) :
    (a.append = none ∧
        a.durationMs ≤ icebergFlushTimeoutMs ∧
        a.futureResult = none ∧ a.commit batch = some batch) ∨
      (a.append = none ∧
        icebergFlushTimeoutMs < a.durationMs ∧
        a.futureResult = some .timeoutError ∧
        a.commit batch = some batch) ∨
      (a.append ≠ none ∧
        (∃ e, a.futureResult = some e) ∧
        a.commit batch = none) := by
  by_cases hLate : icebergFlushTimeoutMs < a.durationMs
  · cases hAppend : a.append with
    | none => simp [futureResult, commit, hAppend, hLate]
    | some e => simp [futureResult, commit, hAppend, hLate]
  · have hInTime : a.durationMs ≤ icebergFlushTimeoutMs := by
      omega
    cases hAppend : a.append with
    | none =>
        simp [futureResult, commit, hAppend, hLate, hInTime]
    | some e => simp [futureResult, commit, hAppend, hLate]

namespace IcebergOperatorSink

variable {ρ : Type}
variable {h : SinkHandles}
variable {a : FlushAttempt}
variable {deadLetter : String → DLQEvent}
variable {batch : List ρ}

/- The conversion or the append of a batch fails, or both
   succeed in time or late. -/
theorem convertAndAppend_cases :
    (h.table = true ∧ h.breaker = true ∧
        a.conversion = none ∧ a.append = none ∧
        a.durationMs ≤ icebergFlushTimeoutMs ∧
        convertAndAppend h a deadLetter batch =
          ⟨some batch, []⟩) ∨
      (h.table = true ∧ h.breaker = true ∧
        a.conversion = none ∧ a.append = none ∧
        icebergFlushTimeoutMs < a.durationMs ∧
        ∃ reason,
          convertAndAppend h a deadLetter batch =
            ⟨some batch, [deadLetter reason]⟩) ∨
      (¬(h.table = true ∧ h.breaker = true ∧
          a.conversion = none ∧ a.append = none) ∧
        ∃ reason,
          convertAndAppend h a deadLetter batch =
            ⟨none, [deadLetter reason]⟩) := by
  unfold convertAndAppend appendBatch
  cases hConversion : a.conversion with
  | some e => exact .inr (.inr ⟨by simp, _, rfl⟩)
  | none =>
      cases hTable : h.table with
      | false => exact .inr (.inr ⟨by simp, _, rfl⟩)
      | true =>
          cases hBreaker : h.breaker with
          | false => exact .inr (.inr ⟨by simp, _, rfl⟩)
          | true =>
              rcases a.result_cases batch with
                ⟨hAppend, hInTime, hResult, hCommit⟩ |
                ⟨hAppend, hLate, hResult, hCommit⟩ |
                ⟨hAppend, ⟨e, hResult⟩, hCommit⟩
              · simp [hResult, hCommit, hAppend, hInTime]
              · simp [hResult, hCommit, hAppend, hLate]
              · simp [hResult, hCommit, hAppend]

end IcebergOperatorSink

end FraudStream

namespace FraudStream

namespace SinkSetup

open IcebergSinkBase (deduplicate firstTxnId)

variable {ρ : Type}

/- What follows the conversion of an operator sink. -/
private theorem operator_cases
    {S : SinkSetup ρ}
    {n : Nat}
    {buffer : List ρ}
    {deadLetter : String → DLQEvent}
    (hSink : ∀ eventName, S.sink ≠ .shared eventName)
    (hNames : S.NamesFirst)
    (hDeadLetter :
      ∀ reason, (deadLetter reason).transactionId =
        firstTxnId S.transactionId? buffer) :
    S.FlushCase n buffer
      (IcebergOperatorSink.convertAndAppend S.handles
        (S.attempts n) deadLetter
        (deduplicate S.transactionId? buffer)) := by
  have hClean :
      S.Clean n ↔
        (S.attempts n).durationMs ≤ icebergFlushTimeoutMs := by
    simp [Clean, hSink]
  have hSucceeds :
      S.AppendSucceeds n ↔
        S.handles.table = true ∧ S.handles.breaker = true ∧
          (S.attempts n).conversion = none ∧
          (S.attempts n).append = none := by
    simp [AppendSucceeds, hSink]
  rcases
      IcebergOperatorSink.convertAndAppend_cases
        (h := S.handles) (a := S.attempts n)
    with
      ⟨hTable, hBreaker, hConversion, hAppend, hInTime,
        hOutcome⟩ |
      ⟨hTable, hBreaker, hConversion, hAppend, hLate, reason,
        hOutcome⟩ |
      ⟨hFails, reason, hOutcome⟩
  · rw [hOutcome]
    apply FlushCase.committed
    · exact
        hSucceeds.2 ⟨hTable, hBreaker, hConversion, hAppend⟩
    · exact hClean.2 hInTime
  · rw [hOutcome]
    apply FlushCase.committedAndNamed
    · exact
        hSucceeds.2 ⟨hTable, hBreaker, hConversion, hAppend⟩
    · rw [hClean]
      omega
    · exact hDeadLetter reason
  · rw [hOutcome]
    apply FlushCase.named
    · rwa [hSucceeds]
    · exact hNames
    · exact hDeadLetter reason

/- The flush of the shared sink with a table. -/
private theorem shared_cases
    {S : SinkSetup ρ}
    {eventName : String}
    (n : Nat)
    (buffer : List ρ)
    (hSink : S.sink = .shared eventName)
    (hTable : S.handles.table = true) :
    S.FlushCase n buffer
      (IcebergSinkBase.write eventName S.transactionId?
        S.handles (S.attempts n) buffer) := by
  have hFirst :=
    IcebergSinkBase.firstTxnId_deduplicate S.transactionId?
      buffer
  have hSucceeds :
      S.AppendSucceeds n ↔
        (S.attempts n).conversion = none ∧
          (S.attempts n).append = none := by
    simp [AppendSucceeds, hSink, hTable]
  have hClean :
      S.Clean n ↔
        (S.attempts n).durationMs ≤ icebergFlushTimeoutMs ∧
          (S.attempts n).afterSuccess = none := by
    simp [Clean, hSink]
  unfold IcebergSinkBase.write
  rw [if_neg (by simp [hTable])]
  cases hConversion : (S.attempts n).conversion with
  | some e =>
      exact
        .named (by simp [hSucceeds, hConversion])
          (.inr hTable) _ hFirst
  | none =>
      rcases (S.attempts n).result_cases
          (deduplicate S.transactionId? buffer) with
        ⟨hAppend, hInTime, hResult, hCommit⟩ |
        ⟨hAppend, hLate, hResult, hCommit⟩ |
        ⟨hAppend, ⟨e, hResult⟩, hCommit⟩
      · have hCommits := hSucceeds.2 ⟨hConversion, hAppend⟩
        simp only [hResult, hCommit]
        cases hHook : (S.attempts n).afterSuccess with
        | none =>
            exact
              .committed hCommits
                (hClean.2 ⟨hInTime, hHook⟩)
        | some e =>
            exact
              .committedAndNamed hCommits
                (by simp [hClean, hHook]) _ hFirst
      · simp only [hResult, hCommit]
        apply FlushCase.committedAndNamed
        · exact hSucceeds.2 ⟨hConversion, hAppend⟩
        · rw [hClean]
          omega
        · exact hFirst
      · simp only [hResult, hCommit]
        exact
          .named (by simp [hSucceeds, hAppend])
            (.inr hTable) _ hFirst

/- Each flush is one of the cases. -/
theorem write_cases
    (S : SinkSetup ρ)
    (n : Nat)
    (buffer : List ρ) :
    S.FlushCase n buffer (S.config.write n buffer) := by
  have hFirst :=
    IcebergSinkBase.firstTxnId_deduplicate S.transactionId?
      buffer
  cases hSink : S.sink with
  | decisions =>
      have hWrite :
          S.config.write n buffer =
            IcebergDecisionsSink.write S.transactionId?
              S.handles (S.attempts n) buffer := by
        simp only [config, hSink, IcebergDecisionsSink.config]
      rw [hWrite, IcebergDecisionsSink.write]
      apply operator_cases
      · simp [hSink]
      · exact .inl hSink
      · intro reason
        exact hFirst
  | enriched =>
      have hWrite :
          S.config.write n buffer =
            IcebergEnrichedSink.write S.transactionId?
              S.handles (S.attempts n) buffer := by
        simp only [config, hSink, IcebergEnrichedSink.config]
      rw [hWrite, IcebergEnrichedSink.write]
      cases hTable : S.handles.table with
      | false =>
          apply FlushCase.eachNamed
          · exact ⟨hSink, hTable⟩
          · simp
      | true =>
          rw [if_neg (by simp)]
          apply operator_cases
          · simp [hSink]
          · exact .inr hTable
          · intro reason
            exact hFirst
  | shared eventName =>
      have hWrite :
          S.config.write n buffer =
            IcebergSinkBase.write eventName S.transactionId?
              S.handles (S.attempts n) buffer := by
        simp only [config, hSink, IcebergSinkBase.config]
      rw [hWrite]
      cases hTable : S.handles.table with
      | false =>
          rw [IcebergSinkBase.write, if_pos hTable]
          exact .dropped ⟨⟨eventName, hSink⟩, hTable⟩
      | true => exact shared_cases n buffer hSink hTable

end SinkSetup

end FraudStream

namespace FraudStream

namespace SinkSetup

variable {ρ : Type}
variable {S : SinkSetup ρ}

theorem not_appendSucceeds_of_no_table
    (hTable : S.handles.table = false)
    (n : Nat) :
    ¬S.AppendSucceeds n := by
  rintro ⟨hLoaded, -⟩
  simp [hTable] at hLoaded

/- A flush that names the first record or each record is not
   one that names none. -/
theorem not_namesNone_of_namesFirst
    (hNames : S.NamesFirst) :
    ¬S.NamesNone := by
  rintro ⟨⟨eventName, hShared⟩, hTable⟩
  rcases hNames with hDecisions | hLoaded
  · simp [hShared] at hDecisions
  · simp [hTable] at hLoaded

theorem not_namesNone_of_namesEach
    (hNames : S.NamesEach) :
    ¬S.NamesNone := by
  rintro ⟨⟨eventName, hShared⟩, -⟩
  simp [NamesEach, hShared] at hNames

theorem not_namesEach_of_namesFirst
    (hNames : S.NamesFirst) :
    ¬S.NamesEach := by
  rintro ⟨hEnriched, hTable⟩
  rcases hNames with hDecisions | hLoaded
  · simp [hEnriched] at hDecisions
  · simp [hTable] at hLoaded

/- Each report of a run is of a case. -/
theorem case_of_run
    {start : Int}
    {ops : List (BatchBuffer.Op ρ)}
    {n : Nat}
    {report : BatchBuffer.Report ρ (FlushOutcome ρ)}
    (hReport : (S.run start ops).reports[n]? = some report) :
    report.buffer ≠ [] ∧
      S.FlushCase n report.buffer report.outcome := by
  rcases BatchBuffer.report_of_run _ _ _ _ _ hReport with
    ⟨hFull, hOutcome⟩
  rw [hOutcome]
  exact ⟨hFull, S.write_cases n report.buffer⟩

end SinkSetup

end FraudStream

------------------------------------------------------------
-- One Outcome
------------------------------------------------------------

namespace FraudStream

namespace SinkSetup

variable {ρ : Type}

/- The batch is committed and reported as failed. -/
def Contradictory (o : FlushOutcome ρ) : Prop :=
  o.committed ≠ none ∧ o.deadLetters ≠ []

/- The batch is committed or reported, and not both. -/
def OneOutcome (o : FlushOutcome ρ) : Prop :=
  o.committed ≠ none ↔ o.deadLetters = []

variable {S : SinkSetup ρ}
variable {n : Nat}
variable {buffer : List ρ}
variable {o : FlushOutcome ρ}

theorem contradictory_iff
    (hCase : S.FlushCase n buffer o) :
    Contradictory o ↔ S.AppendSucceeds n ∧ ¬S.Clean n := by
  cases hCase with
  | committed hSucceeds hClean =>
      simp [Contradictory, hClean]
  | committedAndNamed hSucceeds hClean e hFirst =>
      simp [Contradictory, hSucceeds, hClean]
  | named hFails hNames e hFirst =>
      simp [Contradictory, hFails]
  | eachNamed hNames es hEach =>
      simp [Contradictory,
        not_appendSucceeds_of_no_table hNames.2]
  | dropped hNames =>
      simp [Contradictory,
        not_appendSucceeds_of_no_table hNames.2]

theorem oneOutcome_iff
    (hFull : buffer ≠ [])
    (hCase : S.FlushCase n buffer o) :
    OneOutcome o ↔
      (S.AppendSucceeds n → S.Clean n) ∧ ¬S.NamesNone := by
  cases hCase with
  | committed hSucceeds hClean =>
      have hNames : S.NamesFirst := .inr hSucceeds.1
      simp [OneOutcome, hClean,
        not_namesNone_of_namesFirst hNames]
  | committedAndNamed hSucceeds hClean e hFirst =>
      simp [OneOutcome, hSucceeds, hClean]
  | named hFails hNames e hFirst =>
      simp [OneOutcome, hFails,
        not_namesNone_of_namesFirst hNames]
  | eachNamed hNames es hEach =>
      have hNamed : es ≠ [] := by
        intro hNone
        rcases List.exists_mem_of_ne_nil buffer hFull with
          ⟨r, hMem⟩
        rcases
            IcebergSinkBase.exists_mem_deduplicate
              S.transactionId? hMem
          with ⟨r', hKept, -⟩
        rw [hNone] at hEach
        rw [List.map_eq_nil_iff.1 hEach.symm] at hKept
        cases hKept
      simp [OneOutcome, hNamed,
        not_appendSucceeds_of_no_table hNames.2,
        not_namesNone_of_namesEach hNames]
  | dropped hNames =>
      simp [OneOutcome, hNames]

/- No batch is both committed and reported just when each
   append that succeeds is in time; and each batch has one
   outcome when, besides, the shared sink has a table. -/
theorem one_outcome_iff
    (S : SinkSetup ρ)
    (start : Int)
    (ops : List (BatchBuffer.Op ρ)) :
    ((∀ report ∈ (S.run start ops).reports,
        ¬Contradictory report.outcome) ↔
      ∀ n < (S.run start ops).reports.length,
        S.AppendSucceeds n → S.Clean n) ∧
    ((∀ report ∈ (S.run start ops).reports,
        OneOutcome report.outcome) ↔
      ∀ n < (S.run start ops).reports.length,
        (S.AppendSucceeds n → S.Clean n) ∧ ¬S.NamesNone) := by
  constructor
  · constructor
    · intro hConsistent n hFlush hSucceeds
      have hReport := List.getElem?_eq_getElem hFlush
      by_contra hClean
      apply hConsistent _ (List.getElem_mem hFlush)
      exact
        (contradictory_iff (case_of_run hReport).2).2
          ⟨hSucceeds, hClean⟩
    · intro hInTime report hMem hContradictory
      rcases List.mem_iff_getElem?.1 hMem with ⟨n, hReport⟩
      have hFlush := (List.getElem?_eq_some_iff.1 hReport).1
      rcases
          (contradictory_iff (case_of_run hReport).2).1
            hContradictory
        with ⟨hSucceeds, hLate⟩
      exact hLate (hInTime n hFlush hSucceeds)
  · constructor
    · intro hOne n hFlush
      have hReport := List.getElem?_eq_getElem hFlush
      rcases case_of_run hReport with ⟨hFull, hCase⟩
      exact
        (oneOutcome_iff hFull hCase).1
          (hOne _ (List.getElem_mem hFlush))
    · intro hInTime report hMem
      rcases List.mem_iff_getElem?.1 hMem with ⟨n, hReport⟩
      have hFlush := (List.getElem?_eq_some_iff.1 hReport).1
      rcases case_of_run hReport with ⟨hFull, hCase⟩
      exact (oneOutcome_iff hFull hCase).2 (hInTime n hFlush)

/- Two transactions are buffered and flushed. -/
def twoTransactions : List (BatchBuffer.Op String) :=
  [.invoke 0 "txn-1", .invoke 0 "txn-2", .flush]

def setupOf
    (sink : IcebergSink)
    (attempt : FlushAttempt) : SinkSetup String where
  sink := sink
  bufferMax := 100
  transactionId? := some
  opened := { catalogLoads := true, breakerLoads := true }
  clock := fun _ => 0
  attempts := fun _ => attempt

/- The append succeeds after six seconds. -/
def slow : FlushAttempt where
  conversion := none
  append := none
  durationMs := 6000
  afterSuccess := none

/- The late batch is committed, and reported as timed out. -/
def CommitsAndTimesOut (sink : IcebergSink) : Prop :=
  ∃ report ∈ ((setupOf sink slow).run 0 twoTransactions).reports,
    Contradictory report.outcome ∧
      ∃ e ∈ report.outcome.deadLetters, e.reason = "timeout"

theorem slow_append_has_two_outcomes :
    CommitsAndTimesOut .enriched ∧ CommitsAndTimesOut .decisions ∧
      CommitsAndTimesOut (.shared "sink_dlq") := by
  unfold CommitsAndTimesOut Contradictory
  decide

end SinkSetup

end FraudStream

------------------------------------------------------------
-- Records That Are Accounted For
------------------------------------------------------------

namespace FraudStream

namespace SinkSetup

open IcebergSinkBase (deduplicate firstTxnId)

variable {ρ : Type}

/- The transaction is in a committed batch, or named by a
   dead-letter event. -/
def Settled
    (S : SinkSetup ρ)
    (reports : List (BatchBuffer.Report ρ (FlushOutcome ρ)))
    (transactionId : String) : Prop :=
  ∃ report ∈ reports,
    (∃ batch ∈ report.outcome.committed, ∃ r ∈ batch,
      S.transactionId? r = some transactionId) ∨
    ∃ e ∈ report.outcome.deadLetters,
      e.transactionId = transactionId

/- The transaction is buffered or settled. -/
def Accounted
    (S : SinkSetup ρ)
    (s : BatchBuffer.State ρ (FlushOutcome ρ))
    (transactionId : String) : Prop :=
  (∃ r ∈ s.buffer,
    S.transactionId? r = some transactionId) ∨
  S.Settled s.reports transactionId

/- A flush settles a buffered transaction when it was settled
   before, when its batch keeps the transaction and is
   committed or named record by record, or when the
   transaction is the one that stands for the batch. -/
def Covers
    (S : SinkSetup ρ)
    (earlier : List (BatchBuffer.Report ρ (FlushOutcome ρ)))
    (n : Nat)
    (buffer : List ρ)
    (transactionId : String) : Prop :=
  S.Settled earlier transactionId ∨
  ((S.AppendSucceeds n ∨ S.NamesEach) ∧
    ∃ r ∈ deduplicate S.transactionId? buffer,
      S.transactionId? r = some transactionId) ∨
  (S.NamesFirst ∧
    firstTxnId S.transactionId? buffer = transactionId)

section

variable {S : SinkSetup ρ}
variable {n : Nat}
variable {buffer : List ρ}
variable {o : FlushOutcome ρ}
variable {t : String}

theorem settled_append_iff
    (earlier later :
      List (BatchBuffer.Report ρ (FlushOutcome ρ))) :
    S.Settled (earlier ++ later) t ↔
      S.Settled earlier t ∨ S.Settled later t := by
  simp only [Settled, List.mem_append, or_and_right,
    exists_or]

/- A batch that names a buffered transaction keeps it: a
   record without an identifier is not named by it. -/
private theorem exists_kept
    {r r' : ρ}
    (hMem : r ∈ buffer)
    (hId : S.transactionId? r = some t)
    (hBatch : r' ∈ deduplicate S.transactionId? buffer)
    (hNamed : (S.transactionId? r').getD "unknown" = t) :
    ∃ r ∈ deduplicate S.transactionId? buffer,
      S.transactionId? r = some t := by
  cases hNamedId : S.transactionId? r' with
  | some u =>
      refine ⟨r', hBatch, ?_⟩
      rw [hNamedId] at hNamed ⊢
      exact congrArg some hNamed
  | none =>
      have hUnknown : t = "unknown" := by
        simpa [hNamedId] using hNamed.symm
      rcases
          IcebergSinkBase.exists_mem_deduplicate
            S.transactionId? hMem
        with ⟨kept, hKept, hSame⟩
      refine ⟨kept, hKept, ?_⟩
      cases hKeptId : S.transactionId? kept with
      | none => simp [hId, hKeptId, hUnknown] at hSame
      | some u =>
          have hEq : u = t := by
            simpa [hId, hKeptId] using hSame
          rw [hEq]

/- The record that stands for the batch is in it. -/
private theorem exists_kept_of_first
    {r : ρ}
    (hMem : r ∈ buffer)
    (hId : S.transactionId? r = some t)
    (hFirst : firstTxnId S.transactionId? buffer = t) :
    ∃ r ∈ deduplicate S.transactionId? buffer,
      S.transactionId? r = some t := by
  rw [← IcebergSinkBase.firstTxnId_deduplicate] at hFirst
  rcases
      IcebergSinkBase.exists_mem_deduplicate
        S.transactionId? hMem
    with ⟨kept, hKept, -⟩
  cases hBatch : deduplicate S.transactionId? buffer with
  | nil =>
      rw [hBatch] at hKept
      cases hKept
  | cons first batch =>
      rw [hBatch] at hFirst
      rw [← hBatch]
      have hInBatch :
          first ∈ deduplicate S.transactionId? buffer := by
        simp [hBatch]
      exact exists_kept hMem hId hInBatch hFirst

/- A flush settles just the buffered transactions that it
   covers. -/
theorem settled_iff_covers
    {earlier : List (BatchBuffer.Report ρ (FlushOutcome ρ))}
    {r : ρ}
    (hCase : S.FlushCase n buffer o)
    (hMem : r ∈ buffer)
    (hId : S.transactionId? r = some t) :
    S.Settled (earlier ++ [⟨buffer, o⟩]) t ↔
      S.Covers earlier n buffer t := by
  have hKept :=
    exists_kept_of_first (S := S) hMem hId
  rw [settled_append_iff, Covers]
  apply or_congr_right
  cases hCase with
  | committed hSucceeds hClean =>
      simp only [Settled, List.mem_singleton,
        exists_eq_left, Option.mem_some_iff, exists_eq_left',
        List.not_mem_nil, false_and, exists_false, or_false]
      constructor
      · intro hBatch
        exact .inl ⟨.inl hSucceeds, hBatch⟩
      · rintro (⟨-, hBatch⟩ | ⟨-, hFirst⟩)
        · exact hBatch
        · exact hKept hFirst
  | committedAndNamed hSucceeds hClean e hNamed =>
      simp only [Settled, List.mem_singleton,
        exists_eq_left, Option.mem_some_iff, exists_eq_left',
        hNamed]
      constructor
      · rintro (hBatch | hFirst)
        · exact .inl ⟨.inl hSucceeds, hBatch⟩
        · exact .inr ⟨.inr hSucceeds.1, hFirst⟩
      · rintro (⟨-, hBatch⟩ | ⟨-, hFirst⟩)
        · exact .inl hBatch
        · exact .inr hFirst
  | named hFails hNames e hNamed =>
      simp only [Settled, List.mem_singleton,
        exists_eq_left, Option.mem_def, reduceCtorEq,
        false_and, exists_false, false_or, hNamed]
      constructor
      · intro hFirst
        exact .inr ⟨hNames, hFirst⟩
      · rintro (⟨hFails' | hEach, -⟩ | ⟨-, hFirst⟩)
        · exact absurd hFails' hFails
        · exact
            absurd hEach (not_namesEach_of_namesFirst hNames)
        · exact hFirst
  | eachNamed hNames es hEach =>
      have hNamed :
          (∃ e ∈ es, e.transactionId = t) ↔
            ∃ r ∈ deduplicate S.transactionId? buffer,
              (S.transactionId? r).getD "unknown" = t := by
        rw [← List.mem_map, hEach, List.mem_map]
      simp only [Settled, List.mem_singleton,
        exists_eq_left, Option.mem_def, reduceCtorEq,
        false_and, exists_false, false_or, hNamed]
      constructor
      · rintro ⟨r', hBatch, hNamed⟩
        exact
          .inl
            ⟨.inr hNames,
              exists_kept hMem hId hBatch hNamed⟩
      · rintro (⟨-, r', hBatch, hSame⟩ | ⟨hFirst, -⟩)
        · exact ⟨r', hBatch, by simp [hSame]⟩
        · exact
            absurd hNames (not_namesEach_of_namesFirst hFirst)
  | dropped hNames =>
      simp only [Settled, List.mem_singleton,
        exists_eq_left, Option.mem_def, reduceCtorEq,
        false_and, exists_false, List.not_mem_nil, or_false]
      constructor
      · intro hNone
        exact hNone.elim
      · rintro (⟨hSucceeds | hEach, -⟩ | ⟨hFirst, -⟩)
        · exact
            not_appendSucceeds_of_no_table hNames.2 n hSucceeds
        · exact not_namesNone_of_namesEach hEach hNames
        · exact not_namesNone_of_namesFirst hFirst hNames

end

/- In a run whose flushes cover each buffered transaction,
   each transaction is accounted for. -/
theorem accounted_of_covers
    (S : SinkSetup ρ)
    (start : Int)
    (ops : List (BatchBuffer.Op ρ))
    (hCovers :
      ∀ n report,
        (S.run start ops).reports[n]? = some report →
          ∀ r ∈ report.buffer, ∀ transactionId,
            S.transactionId? r = some transactionId →
              S.Covers ((S.run start ops).reports.take n) n
                report.buffer transactionId) :
    ∀ r ∈ BatchBuffer.invoked ops, ∀ transactionId,
      S.transactionId? r = some transactionId →
        S.Accounted (S.run start ops) transactionId := by
  have hKept :
      ∀ r ∈ BatchBuffer.invoked ops,
        r ∈ (S.run start ops).buffer ∨
          ∀ t, S.transactionId? r = some t →
            S.Settled (S.run start ops).reports t := by
    apply
      BatchBuffer.kept_of_run
        (K := fun reports r => ∀ t,
          S.transactionId? r = some t → S.Settled reports t)
    · intro reports later r hSettled t hId
      exact (settled_append_iff _ _).2 (.inl (hSettled t hId))
    · intro n report hReport r hMem t hId
      have hReport :
          (S.run start ops).reports[n]? = some report :=
        hReport
      rcases case_of_run hReport with ⟨-, hCase⟩
      have hTake :
          (S.run start ops).reports.take (n + 1) =
            (S.run start ops).reports.take n ++ [report] := by
        rw [List.take_add_one, hReport]
        rfl
      change S.Settled ((S.run start ops).reports.take _) t
      rw [hTake]
      exact
        (settled_iff_covers hCase hMem hId).2
          (hCovers n report hReport r hMem t hId)
  intro r hInvoked t hId
  rcases hKept r hInvoked with hBuffered | hSettled
  · exact .inl ⟨r, hBuffered, hId⟩
  · exact .inr (hSettled t hId)

def appended : FlushAttempt where
  conversion := none
  append := none
  durationMs := 40
  afterSuccess := none

/- The catalog refuses the append. -/
def refused : FlushAttempt where
  conversion := none
  append :=
    some
      { isTimeout := false
        isCircuitBreakerError := false
        namesCircuitBreakerError := false
        isConnectionError := true }
  durationMs := 40
  afterSuccess := none

theorem accounted_when_appended :
    (setupOf .enriched appended).Accounted
        ((setupOf .enriched appended).run 0 twoTransactions)
        "txn-1" ∧
      (setupOf .enriched appended).Accounted
        ((setupOf .enriched appended).run 0 twoTransactions)
        "txn-2" := by
  have hRun :
      ((setupOf .enriched appended).run 0
        twoTransactions).reports =
        [⟨["txn-1", "txn-2"],
          ⟨some ["txn-1", "txn-2"], []⟩⟩] := rfl
  have hAccounted :=
    accounted_of_covers (setupOf .enriched appended) 0
      twoTransactions (by
        intro n report hReport r hMem t hId
        rw [hRun, List.getElem?_singleton] at hReport
        split at hReport
        · cases hReport
          refine .inr (.inl ⟨.inl ?_, r, hMem, hId⟩)
          exact ⟨rfl, .inl rfl, rfl, rfl⟩
        · cases hReport)
  exact
    ⟨hAccounted "txn-1" (by decide) "txn-1" rfl,
      hAccounted "txn-2" (by decide) "txn-2" rfl⟩

/- The second record of the refused batch is not accounted
   for. -/
def LosesSecond (sink : IcebergSink) : Prop :=
  "txn-2" ∈ BatchBuffer.invoked twoTransactions ∧
    ¬(setupOf sink refused).Accounted
      ((setupOf sink refused).run 0 twoTransactions) "txn-2"

theorem second_record_is_lost :
    LosesSecond .enriched ∧ LosesSecond .decisions ∧
      LosesSecond (.shared "sink_dlq") := by
  unfold LosesSecond Accounted Settled
  decide

end SinkSetup

end FraudStream
