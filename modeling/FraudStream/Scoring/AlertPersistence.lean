import FraudStream.Library.InsertNew
import FraudStream.Library.Triples
import FraudStream.Scoring.AlertSinks

/-
  The PostgreSQL sink of fraud alerts, operation by operation.

  The database answers each operation of the sink in turn. An
  operation may fail, before or after it took effect. Under
  autocommit an insert goes to the table at once, otherwise
  with the next commit, or with no commit not at all. Nothing
  else writes to the table.

  A connection is kept before its autocommit is set, so that
  a failure in between leaves one without autocommit. `emit`
  is `persist`.

  Key definitions include:
    * `AlertPersistence.Database`
    * `AlertPersistence.persist`
    * `AlertPersistence.after`
    * `AlertPersistence.AtLeastOnce`

  The main results are:
    * `AlertPersistence.triple_persist`
    * `AlertPersistence.atLeastOnce_persist`
    * `AlertPersistence.exists_behaviour_of_persist`
-/

------------------------------------------------------------
-- The Database
------------------------------------------------------------

namespace FraudStream

namespace AlertPersistence

/- A row of `fraud_alerts`. -/
structure AlertRow where
  transactionId : String
  accountId : String
  matchedRuleNames : List String
  severity : Severity
  evaluationTimestamp : Int
  status : String
  reviewedBy : Option String
  reviewedAt : Option Int
  insertedAt : Int
deriving DecidableEq

/- What an operation raises, whether it took effect although
   it raised, and the time at which it ran. -/
structure Answer where
  error : Option PgError
  tookEffect : Bool
  now : Int

/- The rows at the start, the text that a column stores for a
   value that is no text, and the answers in turn. -/
structure Database where
  initial : List AlertRow
  distinct : (initial.map (·.transactionId)).Nodup
  otherText : Scalar → Option String
  answers : Nat → Answer

/- An open transaction holds rows that are not committed. -/
structure Connection where
  autocommit : Bool
  pending : List AlertRow

structure State where
  table : List AlertRow
  conn : Option Connection
  operations : Nat

abbrev Program := EStateM PgError State

/- The text of a parameter in a column that is not null. -/
def columnText
    (db : Database) : Scalar → Option String
| .none => none
| .str s => some s
| v => db.otherText v

/- The row of the insert, unless a column refuses a value. -/
def rowOf
    (db : Database)
    (alert : FraudAlert)
    (now : Int) : Option AlertRow := do
  let transactionId ← columnText db alert.transactionId
  let accountId ← columnText db alert.accountId
  some
    { transactionId := transactionId
      accountId := accountId
      matchedRuleNames := alert.matchedRuleNames
      severity := alert.severity
      evaluationTimestamp := alert.evaluationTimestamp
      status := "pending"
      reviewedBy := none
      reviewedAt := none
      insertedAt := now }

/- `ON CONFLICT (transaction_id) DO NOTHING` -/
def State.write
    (s : State)
    (row : AlertRow) : State :=
  match s.conn with
  | none => s
  | some c =>
      if c.autocommit then
        { s with
          table :=
            InsertNew.insertNew (·.transactionId) s.table
              row }
      else
        { s with
          conn :=
            some { c with pending := c.pending ++ [row] } }

/- The rows of the transaction go to the table. -/
def State.commit (s : State) : State :=
  match s.conn with
  | none => s
  | some c =>
      { s with
        table :=
          InsertNew.insertAll (·.transactionId) s.table
            c.pending
        conn := some { c with pending := [] } }

def State.rollback (s : State) : State :=
  { s with
    conn := s.conn.map (fun c => { c with pending := [] }) }

end AlertPersistence

end FraudStream

------------------------------------------------------------
-- The Sink
------------------------------------------------------------

namespace FraudStream

namespace AlertPersistence

open Statements

variable (db : Database)

/- The answer to the next operation. -/
def answer : Program Answer := do
  let s ← get
  set { s with operations := s.operations + 1 }
  pure (db.answers s.operations)

/- An operation that writes nothing. -/
def operation : Program Unit := do
  let a ← answer db
  raiseIf a.error

/- `self._conn.cursor()` -/
def cursor : Program Unit := do
  let s ← get
  match s.conn with
  | none => throw .other
  | some _ => operation db

/- `cur.execute(_INSERT_SQL, ...)` -/
def execute (alert : FraudAlert) : Program Unit := do
  let a ← answer db
  match rowOf db alert a.now with
  | none => throw (a.error.getD .other)
  | some row => do
      if a.error.isNone || a.tookEffect then
        modify (fun s => s.write row)
      raiseIf a.error

/- `self._conn.commit()`. A transaction that is not committed
   is undone. -/
def commit : Program Unit := do
  let a ← answer db
  if a.error.isNone || a.tookEffect then
    modify State.commit
  else
    modify State.rollback
  raiseIf a.error

/- `_connect` -/
def connect : Program Unit := do
  operation db
  modify (fun s => { s with conn := some ⟨false, []⟩ })
  operation db
  modify (fun s => { s with conn := some ⟨true, []⟩ })

/- `SELECT 1` -/
def ping : Program Unit := do
  cursor db
  operation db
  operation db

def ensureConnection : Program Unit := do
  let s ← get
  match s.conn with
  | none => connect db
  | some _ => tryCatch (ping db) (fun _ => connect db)

/- `_execute_insert`. The cursor is closed in any case. -/
def executeInsert (alert : FraudAlert) : Program Unit := do
  cursor db
  tryFinally (execute db alert) (operation db)
  commit db

def persist (alert : FraudAlert) : Program Unit := do
  ensureConnection db
  tryCatch (executeInsert db alert) (fun e =>
    if e.isConnectionError then do
      connect db
      executeInsert db alert
    else
      throw e)

/- The connection is dropped, whatever closing it does. -/
def close : Program Unit := do
  let s ← get
  match s.conn with
  | none => pure ()
  | some _ =>
      tryFinally
        (tryCatch (operation db) (fun _ => pure ()))
        (modify (fun s => { s with conn := none }))

/- A call of a method of the sink. -/
inductive SinkCall where
| «open»
| persist : FraudAlert → SinkCall
| close

def perform : SinkCall → Program Unit
| .open => connect db
| .persist alert => persist db alert
| .close => close db

/- A new sink. -/
def start : State where
  table := db.initial
  conn := none
  operations := 0

/- The state after a list of calls, each of which returned or
   raised. -/
def after (calls : List SinkCall) : State :=
  calls.foldl
    (fun s call => finalState (perform db call) s) (start db)

/- The row of a transaction. -/
def rowFor
    (transactionId : String)
    (table : List AlertRow) : Option AlertRow :=
  table.find? (·.transactionId = transactionId)

end AlertPersistence

end FraudStream

------------------------------------------------------------
-- Invariants Of The Table
------------------------------------------------------------

namespace FraudStream

namespace AlertPersistence

/- The table has the rows that it had, in their order, and no
   two rows for one transaction. -/
structure Grown
    (before : List AlertRow)
    (s : State) : Prop where
  beginning : before <+: s.table
  distinct : (s.table.map (·.transactionId)).Nodup

/- There is a row for the transaction of the alert. -/
def Stored
    (db : Database)
    (alert : FraudAlert)
    (s : State) : Prop :=
  ∃ row ∈ s.table,
    columnText db alert.transactionId =
      some row.transactionId

/- There is one in the table or in the open transaction. -/
def Written
    (db : Database)
    (alert : FraudAlert)
    (s : State) : Prop :=
  Stored db alert s ∨
    ∃ c row, s.conn = some c ∧ row ∈ c.pending ∧
      columnText db alert.transactionId =
        some row.transactionId

variable {db : Database}
variable {alert : FraudAlert}
variable {before : List AlertRow}
variable {s : State}

theorem Grown.of_isPrefix
    {table : List AlertRow}
    (hGrown : Grown before s)
    (hTable : s.table <+: table)
    (hDistinct : (table.map (·.transactionId)).Nodup)
    (conn : Option Connection)
    (operations : Nat) :
    Grown before ⟨table, conn, operations⟩ :=
  ⟨hGrown.beginning.trans hTable, hDistinct⟩

theorem Grown.write
    (hGrown : Grown before s)
    (row : AlertRow) :
    Grown before (s.write row) := by
  unfold State.write
  cases hConn : s.conn with
  | none => exact hGrown
  | some c =>
      dsimp only
      split
      · exact
          hGrown.of_isPrefix
            (InsertNew.isPrefix_insertNew _ s.table row)
            (InsertNew.nodup_insertNew _ hGrown.distinct row)
            _ _
      · exact ⟨hGrown.beginning, hGrown.distinct⟩

theorem Grown.commit
    (hGrown : Grown before s) :
    Grown before s.commit := by
  unfold State.commit
  cases hConn : s.conn with
  | none => exact hGrown
  | some c =>
      exact
        hGrown.of_isPrefix
          (InsertNew.isPrefix_insertAll _ s.table c.pending)
          (InsertNew.nodup_insertAll _ hGrown.distinct
            c.pending)
          _ _

theorem Grown.rollback
    (hGrown : Grown before s) :
    Grown before s.rollback :=
  ⟨hGrown.beginning, hGrown.distinct⟩

/- The columns of a row are those of its alert. -/
theorem columnText_of_rowOf
    {now : Int}
    {row : AlertRow}
    (hRow : rowOf db alert now = some row) :
    columnText db alert.transactionId =
      some row.transactionId := by
  simp only [rowOf, Option.bind_eq_bind,
    Option.bind_eq_some_iff, Option.some.injEq] at hRow
  rcases hRow with ⟨transactionId, hText, accountId, -, rfl⟩
  exact hText

/- A row that is written over a connection is in the table or
   in the transaction, or another row for its transaction is
   in the table. -/
theorem written_write
    {row : AlertRow}
    (hConn : s.conn.isSome)
    (hText :
      columnText db alert.transactionId =
        some row.transactionId) :
    Written db alert (s.write row) := by
  rcases Option.isSome_iff_exists.1 hConn with ⟨c, hSome⟩
  unfold State.write
  rw [hSome]
  dsimp only
  split
  · rcases InsertNew.exists_mem_insertNew
        (·.transactionId) s.table row with
      ⟨row', hMem, hKey⟩
    exact .inl ⟨row', hMem, by rw [hText, hKey]⟩
  · exact .inr ⟨_, row, rfl, by simp, hText⟩

/- What was written is in the table after a commit. -/
theorem stored_commit
    (hWritten : Written db alert s) :
    Stored db alert s.commit := by
  unfold State.commit
  cases hConn : s.conn with
  | none =>
      rcases hWritten with hStored | ⟨c, row, hSome, -⟩
      · exact hStored
      · rw [hConn] at hSome
        cases hSome
  | some c =>
      rcases hWritten with
        ⟨row, hMem, hText⟩ | ⟨c', row, hSome, hMem, hText⟩
      · have hKept :=
          (InsertNew.isPrefix_insertAll (·.transactionId)
            s.table c.pending).subset hMem
        exact ⟨row, hKept, hText⟩
      · rw [hConn] at hSome
        cases hSome
        rcases InsertNew.exists_mem_insertAll
            (·.transactionId) s.table hMem with
          ⟨row', hRow, hKey⟩
        exact ⟨row', hRow, by rw [hText, hKey]⟩

end AlertPersistence

end FraudStream

------------------------------------------------------------
-- What Each Part Of The Sink Does
------------------------------------------------------------

namespace FraudStream

namespace AlertPersistence

open Statements

variable (db : Database)

/- A predicate that is not about the number of operations. -/
structure Uncounted (P : State → Prop) : Prop where
  keeps :
    ∀ s operations, P s →
      P { s with operations := operations }

theorem Uncounted.and
    {P Q : State → Prop}
    (hP : Uncounted P)
    (hQ : Uncounted Q) :
    Uncounted (fun s => P s ∧ Q s) where
  keeps := fun s n hBoth =>
    ⟨hP.keeps s n hBoth.1, hQ.keeps s n hBoth.2⟩

theorem uncounted_connected :
    Uncounted (fun s => s.conn.isSome) where
  keeps := fun _ _ hConnected => hConnected

theorem uncounted_grown
    (before : List AlertRow) :
    Uncounted (Grown before) where
  keeps := fun _ _ hGrown =>
    ⟨hGrown.beginning, hGrown.distinct⟩

theorem uncounted_written
    (alert : FraudAlert) :
    Uncounted (Written db alert) where
  keeps := fun _ _ hWritten => hWritten

theorem keeps_answer
    {P : State → Prop}
    (hP : Uncounted P) :
    Keeps P (answer db) :=
  fun s hBefore => hP.keeps s _ hBefore

theorem keeps_operation
    {P : State → Prop}
    (hP : Uncounted P) :
    Keeps P (operation db) :=
  keeps_bind (keeps_answer db hP) (fun _ => keeps_raiseIf)

/- A cursor needs a connection. -/
theorem triple_cursor
    {P : State → Prop}
    (hP : Uncounted P) :
    Triple P (cursor db)
      (fun _ s => P s ∧ s.conn.isSome) (fun _ => P) := by
  have hOperation :=
    (keeps_operation db (hP.and uncounted_connected)).forget
      (fun _ _ hBoth => hBoth.1)
  apply triple_bind triple_get
  intro a
  cases hConn : a.conn with
  | none => exact triple_throw (fun s hBoth => hBoth.2)
  | some c =>
      apply hOperation.restrict
      intro s hBoth
      refine ⟨hBoth.2, ?_⟩
      rw [← hBoth.1, hConn]
      rfl

/- An operation without an effect raises. -/
theorem error_ne_none
    {a : Answer}
    (hEffect : ¬(a.error.isNone || a.tookEffect) = true) :
    a.error ≠ none := by
  intro hNone
  rw [hNone] at hEffect
  exact absurd rfl hEffect

/- Either the row is written, or the insert raises. A raise
   may come after the row was written. -/
theorem triple_execute
    (alert : FraudAlert)
    (before : List AlertRow) :
    Triple
      (fun s => Grown before s ∧ s.conn.isSome)
      (execute db alert)
      (fun _ s => Grown before s ∧ Written db alert s)
      (fun _ => Grown before) := by
  have hAnswer :=
    (keeps_answer db
        ((uncounted_grown before).and
          uncounted_connected)).forget
      (fun _ _ hBoth => hBoth.1)
  apply triple_bind hAnswer
  intro a
  cases hRow : rowOf db alert a.now with
  | none => exact triple_throw (fun s hBoth => hBoth.1)
  | some row =>
      have hText := columnText_of_rowOf hRow
      dsimp only
      by_cases hEffect :
          (a.error.isNone || a.tookEffect) = true
      · rw [if_pos hEffect]
        have hWrite :
            Triple
              (fun s => Grown before s ∧ s.conn.isSome)
              (modify (fun s => s.write row) :
                Program PUnit)
              (fun _ s =>
                Grown before s ∧ Written db alert s)
              (fun _ => Grown before) :=
          triple_modify (fun s hBoth =>
            ⟨hBoth.1.write row,
              written_write hBoth.2 hText⟩)
        apply triple_bind hWrite
        intro _
        apply triple_raiseIf
        · exact fun _ s hBoth => hBoth
        · exact fun _ _ s hBoth => hBoth.1
      · rw [if_neg hEffect]
        apply triple_raiseIf
        · exact fun hNone =>
            absurd hNone (error_ne_none hEffect)
        · exact fun _ _ s hBoth => hBoth.1

theorem triple_commit
    (alert : FraudAlert)
    (before : List AlertRow) :
    Triple
      (fun s => Grown before s ∧ Written db alert s)
      (commit db)
      (fun _ s => Grown before s ∧ Stored db alert s)
      (fun _ => Grown before) := by
  have hAnswer :=
    (keeps_answer db
        ((uncounted_grown before).and
          (uncounted_written db alert))).forget
      (fun _ _ hBoth => hBoth.1)
  apply triple_bind hAnswer
  intro a
  by_cases hEffect :
      (a.error.isNone || a.tookEffect) = true
  · rw [if_pos hEffect]
    have hCommit :
        Triple
          (fun s => Grown before s ∧ Written db alert s)
          (modify State.commit : Program PUnit)
          (fun _ s => Grown before s ∧ Stored db alert s)
          (fun _ => Grown before) :=
      triple_modify (fun s hBoth =>
        ⟨hBoth.1.commit, stored_commit hBoth.2⟩)
    apply triple_bind hCommit
    intro _
    apply triple_raiseIf
    · exact fun _ s hBoth => hBoth
    · exact fun _ _ s hBoth => hBoth.1
  · rw [if_neg hEffect]
    have hRollback :
        Keeps (Grown before)
          (modify State.rollback : Program PUnit) :=
      keeps_modify (fun s hGrown => hGrown.rollback)
    apply triple_bind
      (hRollback.restrict (fun s hBoth => hBoth.1))
    intro _
    apply triple_raiseIf
    · exact fun hNone =>
        absurd hNone (error_ne_none hEffect)
    · exact fun _ _ s hGrown => hGrown

/- Another connection leaves the table as it is. -/
theorem keeps_setConnection
    (before : List AlertRow)
    (conn : Option Connection) :
    Keeps (Grown before)
      (modify (fun s : State => { s with conn := conn }) :
        Program PUnit) :=
  keeps_modify (fun _ hGrown =>
    ⟨hGrown.beginning, hGrown.distinct⟩)

theorem keeps_connect
    (before : List AlertRow) :
    Keeps (Grown before) (connect db) := by
  have hOperation :=
    keeps_operation db (uncounted_grown before)
  apply keeps_bind hOperation
  intro _
  apply keeps_bind (keeps_setConnection before _)
  intro _
  apply keeps_bind hOperation
  intro _
  exact keeps_setConnection before _

theorem keeps_cursor
    (before : List AlertRow) :
    Keeps (Grown before) (cursor db) :=
  keeps_of_triple
    (triple_cursor db (uncounted_grown before))

theorem keeps_ensureConnection
    (before : List AlertRow) :
    Keeps (Grown before) (ensureConnection db) := by
  have hOperation :=
    keeps_operation db (uncounted_grown before)
  have hConnect := keeps_connect db before
  have hPing : Keeps (Grown before) (ping db) := by
    apply keeps_bind (keeps_cursor db before)
    intro _
    exact keeps_bind hOperation (fun _ => hOperation)
  apply keeps_bind keeps_get
  intro a
  cases a.conn with
  | none => exact hConnect
  | some c => exact keeps_tryCatch hPing (fun _ => hConnect)

/- The commit follows only if the cursor could be closed. -/
theorem triple_executeInsert
    (alert : FraudAlert)
    (before : List AlertRow) :
    Triple (Grown before) (executeInsert db alert)
      (fun _ s => Grown before s ∧ Stored db alert s)
      (fun _ => Grown before) := by
  have hGrown := uncounted_grown before
  have hWritten :=
    (keeps_operation db
        (hGrown.and (uncounted_written db alert))).forget
      (fun _ _ hBoth => hBoth.1)
  have hBlock :=
    triple_tryFinally (triple_execute db alert before)
      (fun _ => hWritten)
      (fun _ => keeps_operation db hGrown)
  apply triple_bind (triple_cursor db hGrown)
  intro _
  apply triple_bind hBlock
  intro _
  exact triple_commit db alert before

/-
  A call of `persist` keeps the rows of the table and the
  distinctness of their transactions, whatever fails. Where
  it returns there is a row for the alert.
-/
theorem triple_persist
    (alert : FraudAlert)
    (before : List AlertRow) :
    Triple (Grown before) (persist db alert)
      (fun _ s => Grown before s ∧ Stored db alert s)
      (fun _ => Grown before) := by
  have hInsert := triple_executeInsert db alert before
  apply triple_bind (keeps_ensureConnection db before)
  intro _
  apply triple_tryCatch hInsert
  intro e
  cases e.isConnectionError with
  | true =>
      exact
        triple_bind (keeps_connect db before)
          (fun _ => hInsert)
  | false => exact triple_throw (fun _ hGrown => hGrown)

theorem keeps_close
    (before : List AlertRow) :
    Keeps (Grown before) (close db) := by
  have hOperation :=
    keeps_operation db (uncounted_grown before)
  apply keeps_bind keeps_get
  intro a
  cases a.conn with
  | none => exact keeps_pure
  | some c =>
      apply keeps_tryFinally
      · exact keeps_tryCatch hOperation (fun _ => keeps_pure)
      · exact keeps_setConnection before none

theorem keeps_perform
    (call : SinkCall)
    (before : List AlertRow) :
    Keeps (Grown before) (perform db call) := by
  cases call with
  | «open» => exact keeps_connect db before
  | persist alert =>
      exact keeps_of_triple (triple_persist db alert before)
  | close => exact keeps_close db before

end AlertPersistence

end FraudStream

------------------------------------------------------------
-- Runs Of The Sink
------------------------------------------------------------

namespace FraudStream

namespace AlertPersistence

open Statements

variable (db : Database)

/- What one call keeps, a list of calls keeps. -/
theorem grown_foldl
    {before : List AlertRow}
    (calls : List SinkCall)
    {s : State}
    (hGrown : Grown before s) :
    Grown before
      (calls.foldl
        (fun s call => finalState (perform db call) s)
        s) := by
  induction calls generalizing s with
  | nil => exact hGrown
  | cons call calls ih =>
      rw [List.foldl_cons]
      exact ih ((keeps_perform db call before).finalState hGrown)

theorem grown_after
    (calls : List SinkCall) :
    Grown db.initial (after db calls) :=
  grown_foldl db calls ⟨List.prefix_rfl, db.distinct⟩

/- Later calls change no row. -/
theorem grown_later
    (calls later : List SinkCall) :
    Grown (after db calls).table
      (after db (calls ++ later)) := by
  have hSplit :
      after db (calls ++ later) =
        later.foldl
          (fun s call => finalState (perform db call) s)
          (after db calls) :=
    List.foldl_append
  rw [hSplit]
  exact
    grown_foldl db later
      ⟨List.prefix_rfl, (grown_after db calls).distinct⟩

/- Where `persist` returns there is a row for its alert. No
   transaction has two rows, and its row stays as it is. -/
structure AtLeastOnce : Prop where
  stored :
    ∀ calls alert s,
      (persist db alert).run (after db calls) = .ok () s →
        Stored db alert s
  distinct :
    ∀ calls,
      ((after db calls).table.map
        (·.transactionId)).Nodup
  unchanged :
    ∀ calls later transactionId row,
      rowFor transactionId (after db calls).table =
          some row →
        rowFor transactionId
            (after db (calls ++ later)).table =
          some row

/-
  Alerts are persisted at least once and rows are written
  once, for every list of calls and whatever the database
  answers.
-/
theorem atLeastOnce_persist : AtLeastOnce db := by
  constructor
  case stored =>
    intro calls alert s hRun
    have hGrown :=
      (triple_persist db alert db.initial).returned
        (grown_after db calls) hRun
    exact hGrown.2
  case distinct =>
    intro calls
    exact (grown_after db calls).distinct
  case unchanged =>
    intro calls later transactionId row hRow
    have hGrown := grown_later db calls later
    exact hGrown.beginning.find?_eq_some hRow

end AlertPersistence

end FraudStream

------------------------------------------------------------
-- Outcomes Of A Call
------------------------------------------------------------

namespace FraudStream

namespace AlertPersistence

open Statements

variable (db : Database)

/- What the parts of a call of `persist` come to. -/
def behaviourOf
    (alert : FraudAlert)
    (s : State) : DatabaseBehaviour :=
  let pinged := finalState (ping db) s
  let ensured := finalState (ensureConnection db) s
  let inserted := finalState (executeInsert db alert) ensured
  let reconnected := finalState (connect db) inserted
  { hasConnection := s.conn.isSome
    pinged := outcome (ping db) s
    connected :=
      outcome (connect db)
        (if s.conn.isSome then pinged else s)
    inserted := outcome (executeInsert db alert) ensured
    reconnected := outcome (connect db) inserted
    reinserted :=
      outcome (executeInsert db alert) reconnected }

theorem outcome_ensureConnection
    (alert : FraudAlert)
    (s : State) :
    outcome (ensureConnection db) s =
      AlertPostgresSink.ensureConnection
        (behaviourOf db alert s) := by
  have hState :
      outcome (get : Program State) s = .ok s := rfl
  have hSame :
      finalState (get : Program State) s = s := rfl
  unfold ensureConnection AlertPostgresSink.ensureConnection
  rw [outcome_bind, hState, hSame]
  cases hConn : s.conn with
  | none => simp [behaviourOf, hConn]
  | some c =>
      simp only [behaviourOf, hConn, Option.isSome_some,
        if_true, outcome_tryCatch]
      cases outcome (ping db) s with
      | ok _ => rfl
      | error e => rfl

/- The retry of an insert. -/
theorem outcome_retry
    (alert : FraudAlert)
    (e : PgError)
    (s : State) :
    outcome
        (if e.isConnectionError then do
          connect db
          executeInsert db alert
        else
          throw e) s =
      if e.isConnectionError then do
        outcome (connect db) s
        outcome (executeInsert db alert)
          (finalState (connect db) s)
      else
        .error e := by
  cases e.isConnectionError with
  | false => rfl
  | true =>
      rw [if_pos rfl, if_pos rfl, outcome_bind]
      cases outcome (connect db) s with
      | ok _ => rfl
      | error e' => rfl

/- The outcome of a call is the one of the model that takes
   the outcomes of its parts from the database. -/
theorem exists_behaviour_of_persist
    (alert : FraudAlert)
    (s : State) :
    ∃ behaviour : DatabaseBehaviour,
      outcome (persist db alert) s =
        AlertPostgresSink.persist behaviour := by
  refine ⟨behaviourOf db alert s, ?_⟩
  unfold persist AlertPostgresSink.persist
  rw [outcome_bind, outcome_ensureConnection db alert s]
  cases AlertPostgresSink.ensureConnection
      (behaviourOf db alert s) with
  | error e => rfl
  | ok _ =>
      have hInserted :
          (behaviourOf db alert s).inserted =
            outcome (executeInsert db alert)
              (finalState (ensureConnection db) s) := rfl
      dsimp only
      rw [outcome_tryCatch, hInserted]
      cases outcome (executeInsert db alert)
          (finalState (ensureConnection db) s) with
      | ok _ => rfl
      | error e => exact outcome_retry db alert e _

end AlertPersistence

end FraudStream

------------------------------------------------------------
-- Calls Without Failures
------------------------------------------------------------

namespace FraudStream

namespace AlertPersistence

open Statements

/- No operation fails. -/
def Reliable (db : Database) : Prop :=
  ∀ n, (db.answers n).error = none

variable {db : Database}
variable {P : State → Prop}
variable {E : PgError → State → Prop}

theorem Reliable.answer
    (hReliable : Reliable db)
    (hP : Uncounted P) :
    Triple P (answer db)
      (fun a s => a.error = none ∧ P s) E :=
  fun s hBefore =>
    ⟨hReliable s.operations, hP.keeps s _ hBefore⟩

theorem Reliable.operation
    (hReliable : Reliable db)
    (hP : Uncounted P) :
    Triple P (operation db) (fun _ => P) E := by
  apply triple_bind (hReliable.answer hP)
  intro a
  apply triple_raiseIf
  · exact fun _ s hBoth => hBoth.2
  · intro e hError s hBoth
    rw [hBoth.1] at hError
    cases hError

theorem uncounted_true :
    Uncounted (fun _ => True) where
  keeps := fun _ _ hTrue => hTrue

/- A new connection is there afterwards. -/
theorem Reliable.connect
    (hReliable : Reliable db) :
    Triple (fun _ => True) (connect db)
      (fun _ s => s.conn.isSome) E := by
  have hOperation :=
    hReliable.operation (E := E) uncounted_true
  apply triple_bind hOperation
  intro _
  apply triple_bind
    (triple_modify (Q := fun _ _ => True) (fun _ _ => trivial))
  intro _
  apply triple_bind hOperation
  intro _
  exact triple_modify (fun _ _ => rfl)

theorem Reliable.cursor
    (hReliable : Reliable db) :
    Triple (fun s => s.conn.isSome) (cursor db)
      (fun _ s => s.conn.isSome) E := by
  have hOperation :=
    hReliable.operation (E := E) uncounted_connected
  apply triple_bind triple_get
  intro a
  cases hConn : a.conn with
  | none =>
      apply triple_throw
      intro s hBoth
      rw [← hBoth.1, hConn] at hBoth
      exact absurd hBoth.2 Bool.false_ne_true
  | some c => exact hOperation.restrict (fun _ h => h.2)

theorem Reliable.ensureConnection
    (hReliable : Reliable db) :
    Triple (fun _ => True) (ensureConnection db)
      (fun _ s => s.conn.isSome) E := by
  have hPing :
      Triple (fun s => s.conn.isSome) (ping db)
        (fun _ s => s.conn.isSome) (fun _ _ => True) := by
    have hOperation :=
      hReliable.operation (E := fun _ _ => True)
        uncounted_connected
    exact
      triple_bind hReliable.cursor (fun _ =>
        triple_bind hOperation (fun _ => hOperation))
  apply triple_bind triple_get
  intro a
  cases hConn : a.conn with
  | none =>
      exact hReliable.connect.restrict (fun _ _ => trivial)
  | some c =>
      apply
        (triple_tryCatch hPing
          (fun _ => hReliable.connect)).restrict
      intro s hBoth
      rw [← hBoth.1, hConn]
      rfl

theorem Reliable.executeInsert
    (hReliable : Reliable db)
    {alert : FraudAlert}
    (hRow : ∀ now, (rowOf db alert now).isSome) :
    Triple (fun s => s.conn.isSome)
      (executeInsert db alert) (fun _ _ => True) E := by
  have hExecute :
      Triple (fun s => s.conn.isSome) (execute db alert)
        (fun _ _ => True) (fun _ _ => False) := by
    have hAnswer :=
      hReliable.answer (E := fun _ _ => False) uncounted_true
    apply triple_bind (hAnswer.restrict (fun _ _ => trivial))
    intro a
    rcases Option.isSome_iff_exists.1 (hRow a.now) with
      ⟨row, hSome⟩
    rw [hSome]
    intro s hBoth
    simp [hBoth.1]
  have hBlock :
      Triple (fun s => s.conn.isSome)
        (tryFinally (execute db alert)
          (AlertPersistence.operation db))
        (fun _ _ => True) E :=
    triple_tryFinally hExecute
      (fun _ => hReliable.operation uncounted_true)
      (fun _ _ hNever => absurd hNever not_false)
  have hCommit :
      Triple (fun _ => True) (commit db)
        (fun _ _ => True) E := by
    apply triple_bind (hReliable.answer uncounted_true)
    intro a s hBoth
    simp [hBoth.1]
  apply triple_bind hReliable.cursor
  intro _
  apply triple_bind hBlock
  intro _
  exact hCommit

/- A call that meets no failure returns, if the columns take
   the values of its alert. -/
theorem exists_run_persist
    (hReliable : Reliable db)
    {alert : FraudAlert}
    (hRow : ∀ now, (rowOf db alert now).isSome)
    (s : State) :
    ∃ s', (persist db alert).run s = .ok () s' := by
  have hInsert :
      Triple (fun s => s.conn.isSome)
        (executeInsert db alert)
        (fun _ _ => True) (fun _ _ => False) :=
    hReliable.executeInsert hRow
  have hPersist :
      Triple (fun _ => True) (persist db alert)
        (fun _ _ => True) (fun _ _ => False) := by
    apply triple_bind hReliable.ensureConnection
    intro _
    exact
      triple_tryCatch hInsert
        (fun _ _ hNever => absurd hNever not_false)
  rcases hPersist.exists_run (s := s) trivial with
    ⟨_, s', hRun, -⟩
  exact ⟨s', hRun⟩

/- The insert takes effect, and the connection is lost before
   the sink is told. -/
def lostAnswers : Nat → Answer
| 3 => ⟨some .operationalError, true, 1000⟩
| _ => ⟨none, true, 2000⟩

def emptyDatabase : Database where
  initial := []
  distinct := List.nodup_nil
  otherText := fun _ => none
  answers := lostAnswers

def suspiciousAlert (accountId : String) : FraudAlert where
  transactionId := .str "txn-1"
  accountId := .str accountId
  matchedRuleNames := ["VEL-001"]
  severity := .high
  evaluationTimestamp := 1000

/- The retry finds the row of the first attempt, and a later
   alert on the transaction does not change it. -/
example :
    (after emptyDatabase
        [.persist (suspiciousAlert "acc-001"),
          .persist (suspiciousAlert "acc-002")]).table.map
        (fun row => (row.accountId, row.insertedAt)) =
      [("acc-001", 1000)] := by
  rfl

end AlertPersistence

end FraudStream
