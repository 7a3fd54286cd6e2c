import FraudStream.Analytics.SinkPrograms
import FraudStream.Library.Rounding

/-
  How much an Iceberg sink buffers, and for how long.

  The last flush is never after the append of a buffered
  record, also when an empty buffer was not flushed, and
  never after a reading to come. So an invoke that does not
  flush first finds only records of the last second. The
  flushed buffers and the buffer are those of a buffer with
  a limit.

  Key definitions include:
    * `SinkProgram.Bounded`
    * `SinkProgram.Follows`

  Main results:
    * `SinkProgram.lt_one_of_not_periodPassed`
    * `SinkProgram.bounded_invoked`
    * `SinkProgram.follows_invoked`
    * `SinkProgram.buffers_are_bounded`
-/

------------------------------------------------------------
-- The Age Test
------------------------------------------------------------

namespace FraudStream

namespace SinkProgram

/- Rounding the difference does not hide a second. -/
theorem lt_one_of_not_periodPassed
    {now last : ℚ}
    (hEarly : periodPassed now last = false) :
    now - last < 1 := by
  by_contra hLate
  have hOne : 1 ≤ now - last := not_lt.1 hLate
  have hPos : 0 < now - last := by linarith
  have hRound := PyFloat.ofRat_pos hPos
  simp only at hRound
  unfold periodPassed at hEarly
  split at hEarly
  · rename_i v hFinite
    have hPow : (2 : ℚ) ^ (0 : Int) ≤ now - last := by
      simpa using hOne
    have hLe :=
      PyFloat.pow_le_of_ofRat hPow (by norm_num) hFinite
    rw [zpow_zero] at hLe
    simp [hLe] at hEarly
  · rename_i negative hInf
    rw [hInf] at hRound
    split at hRound
    · cases hRound
    · cases hRound
      simp at hEarly
  · rename_i hNan
    rw [hNan] at hRound
    split at hRound
    · cases hRound
    · cases hRound

end SinkProgram

end FraudStream

------------------------------------------------------------
-- Room And Age
------------------------------------------------------------

namespace FraudStream

namespace SinkProgram

variable {ρ : Type}
variable (S : SinkProgram ρ)

/- No buffered record was appended before the last flush, and
   no reading to come is before it. -/
structure Timed (s : SinkState ρ) : Prop where
  searchable : S.Searchable s
  behind :
    ∀ b ∈ s.buffer, s.lastFlushTimeSec ≤ b.appendedAt
  ahead :
    ∀ n, s.readings ≤ n → s.lastFlushTimeSec ≤ S.clock n

variable {S}
variable {s : SinkState ρ}
variable {v : SinkValue ρ}

theorem Timed.start
    (hClock : Monotone S.clock) :
    S.Timed S.start where
  searchable := by
    intro r hMem
    simp [SinkProgram.start, SinkState.records] at hMem
  behind := by
    intro b hMem
    simp [SinkProgram.start] at hMem
  ahead := by
    intro n _
    exact hClock (Nat.zero_le n)

theorem Timed.read
    (hTimed : S.Timed s) :
    S.Timed (read s) where
  searchable := hTimed.searchable
  behind := hTimed.behind
  ahead := by
    intro n hLe
    exact hTimed.ahead n (Nat.le_of_succ_le hLe)

theorem buffer_flushed
    (S : SinkProgram ρ)
    (s : SinkState ρ) :
    (S.flushed s).buffer = [] := by
  unfold flushed
  split
  · rename_i hEmpty
    exact List.isEmpty_iff.1 hEmpty
  · rfl

/- A flush reads the clock for the last flush, or leaves the
   old one. -/
theorem Timed.flushed
    (hTimed : S.Timed s)
    (hClock : Monotone S.clock) :
    S.Timed (S.flushed s) where
  searchable := S.searchable_flushed hTimed.searchable
  behind := by
    intro b hMem
    rw [buffer_flushed] at hMem
    cases hMem
  ahead := by
    intro n hLe
    unfold SinkProgram.flushed at hLe ⊢
    split at hLe
    · rename_i hEmpty
      rw [if_pos hEmpty]
      exact hTimed.ahead n hLe
    · rename_i hFull
      rw [if_neg hFull]
      exact hClock (Nat.le_of_succ_le hLe)

theorem Timed.appended
    (hTimed : S.Timed s)
    (hValue : S.Accepts v) :
    S.Timed (S.appended v s) where
  searchable :=
    S.searchable_appended hTimed.searchable hValue
  behind := by
    intro b hMem
    simp only [SinkProgram.appended, List.mem_append,
      List.mem_singleton] at hMem ⊢
    rcases hMem with hEarlier | rfl
    · exact hTimed.behind b hEarlier
    · exact hTimed.ahead s.readings (Nat.le_refl _)
  ahead := by
    intro n hLe
    exact hTimed.ahead n (Nat.le_of_succ_le hLe)

theorem Timed.taken
    (hTimed : S.Timed s)
    (hClock : Monotone S.clock)
    (hValue : S.Accepts v) :
    S.Timed (S.taken v s) := by
  unfold SinkProgram.taken
  split
  · exact (hTimed.appended hValue).flushed hClock
  · exact hTimed.appended hValue

theorem Timed.invoked
    (hTimed : S.Timed s)
    (hClock : Monotone S.clock)
    (hValue : S.Accepts v) :
    S.Timed (S.invoked v s) := by
  unfold SinkProgram.invoked
  split
  · exact (hTimed.read.flushed hClock).taken hClock hValue
  · exact hTimed.read.taken hClock hValue

/- A value is taken below the limit, or flushed. -/
theorem length_taken
    (S : SinkProgram ρ)
    (v : SinkValue ρ)
    (s : SinkState ρ) :
    ((S.taken v s).buffer.length : Int) <
      max S.bufferMax 1 := by
  unfold taken
  split
  · rw [buffer_flushed]
    exact lt_max_of_lt_right Int.one_pos
  · rename_i hRoom
    exact lt_max_of_lt_left (not_le.1 hRoom)

theorem length_invoked
    (S : SinkProgram ρ)
    (v : SinkValue ρ)
    (s : SinkState ρ) :
    ((S.invoked v s).buffer.length : Int) <
      max S.bufferMax 1 := by
  unfold invoked
  split
  · exact length_taken ..
  · exact length_taken ..

/- What is buffered was buffered before, or is the value. -/
theorem mem_buffer_taken
    {b : Buffered ρ}
    (hMem : b ∈ (S.taken v s).buffer) :
    b ∈ s.buffer ∨ b.appendedAt = S.clock s.readings := by
  unfold taken at hMem
  split at hMem
  · rw [buffer_flushed] at hMem
    cases hMem
  · simp only [appended, List.mem_append,
      List.mem_singleton] at hMem
    rcases hMem with hEarlier | rfl
    · exact .inl hEarlier
    · exact .inr rfl

/- After an invoke, the buffer holds records appended less
   than a second before it began, or during it. -/
theorem age_invoked
    (hTimed : S.Timed s)
    (hClock : Monotone S.clock)
    {b : Buffered ρ}
    (hMem : b ∈ (S.invoked v s).buffer) :
    S.clock s.readings - b.appendedAt < 1 := by
  have hNew :
      ∀ n, s.readings ≤ n → b.appendedAt = S.clock n →
        S.clock s.readings - b.appendedAt < 1 := by
    intro n hLe hTime
    have hLater := hClock hLe
    rw [hTime]
    linarith
  unfold invoked at hMem
  split at hMem
  · rcases mem_buffer_taken hMem with hEarlier | hTime
    · rw [buffer_flushed] at hEarlier
      cases hEarlier
    · apply hNew _ _ hTime
      unfold flushed read
      split
      · simp
      · simp only
        omega
  · rename_i hEarly
    rcases mem_buffer_taken hMem with hEarlier | hTime
    · have hBehind := hTimed.behind b hEarlier
      have hLess :=
        lt_one_of_not_periodPassed
          (Bool.not_eq_true _ ▸ hEarly)
      linarith
    · exact hNew _ (Nat.le_succ _) hTime

end SinkProgram

end FraudStream

------------------------------------------------------------
-- The Buffer With A Limit
------------------------------------------------------------

namespace FraudStream

namespace SinkProgram

open BatchBuffer (Op)

variable {ρ : Type}

/- A buffer with a limit that has the same records and has
   flushed the same buffers with the same outcomes. -/
structure Follows
    (s : SinkState ρ)
    (b :
      BatchBuffer.State (SinkValue ρ)
        (FlushOutcome (SinkValue ρ))) : Prop where
  buffer : b.buffer = s.records
  reports : b.reports = s.reports

variable (S : SinkProgram ρ)
variable {s : SinkState ρ}
variable
  {b :
    BatchBuffer.State (SinkValue ρ)
      (FlushOutcome (SinkValue ρ))}

theorem limit_config :
    S.setup.config.limit = S.bufferMax := by
  have hOwn : S.setup.sink = S.sink := rfl
  rw [SinkSetup.config, hOwn]
  cases S.sink <;> rfl

theorem follows_flushed
    (hFollows : Follows s b) :
    Follows (S.flushed s)
      (BatchBuffer.flush S.setup.config b) := by
  have hEmpty : b.buffer.isEmpty = s.buffer.isEmpty := by
    rw [hFollows.buffer, SinkState.records]
    exact List.isEmpty_map
  unfold flushed BatchBuffer.flush
  rw [hEmpty]
  split
  · exact hFollows
  · refine ⟨rfl, ?_⟩
    simp only [BatchBuffer.writeOut, hFollows.reports,
      hFollows.buffer]

theorem follows_taken
    (hFollows : Follows s b)
    (v : SinkValue ρ) :
    Follows (S.taken v s)
      (if S.setup.config.limit ≤
          (BatchBuffer.append b
            (S.toRecord v)).buffer.length then
        BatchBuffer.flush S.setup.config
          (BatchBuffer.append b (S.toRecord v))
      else
        BatchBuffer.append b (S.toRecord v)) := by
  have hAppended :
      Follows (S.appended v s)
        (BatchBuffer.append b (S.toRecord v)) := by
    refine ⟨?_, hFollows.reports⟩
    simp [BatchBuffer.append, appended, SinkState.records,
      hFollows.buffer]
  have hLength :
      (BatchBuffer.append b
          (S.toRecord v)).buffer.length =
        (S.appended v s).buffer.length := by
    rw [hAppended.buffer, SinkState.records,
      List.length_map]
  rw [limit_config, hLength]
  unfold taken
  split
  · exact S.follows_flushed hAppended
  · exact hAppended

/- An invoke does what an invoke of the buffer does at a time
   that tells whether the last flush is a period ago. -/
theorem follows_invoked
    (hFollows : Follows s b)
    (v : SinkValue ρ) :
    ∃ now,
      Follows (S.invoked v s)
        (BatchBuffer.invoke S.setup.config b now
          (S.toRecord v)) := by
  have hRead : Follows (read s) b :=
    ⟨hFollows.buffer, hFollows.reports⟩
  unfold invoked BatchBuffer.invoke
  cases
    periodPassed (S.clock s.readings)
      s.lastFlushTimeSec with
  | true =>
      refine ⟨b.lastFlush + S.setup.config.period, ?_⟩
      have hDue :
          S.setup.config.period ≤
            b.lastFlush + S.setup.config.period -
              b.lastFlush := by omega
      rw [if_pos rfl, if_pos hDue]
      exact S.follows_taken (S.follows_flushed hRead) v
  | false =>
      refine ⟨b.lastFlush + S.setup.config.period - 1, ?_⟩
      have hEarly :
          ¬S.setup.config.period ≤
            b.lastFlush + S.setup.config.period - 1 -
              b.lastFlush := by omega
      rw [if_neg Bool.false_ne_true, if_neg hEarly]
      exact S.follows_taken hRead v

/- Every run is that of a buffer with a limit on the same
   records. -/
def FollowsRun
    (values : List (SinkValue ρ))
    (s : SinkState ρ) : Prop :=
  ∃ ops,
    BatchBuffer.invoked ops = values.map S.toRecord ∧
      Follows s (S.setup.run 0 ops)

theorem followsRun_invoked
    {values : List (SinkValue ρ)}
    (hFollows : S.FollowsRun values s)
    (v : SinkValue ρ) :
    S.FollowsRun (values ++ [v]) (S.invoked v s) := by
  rcases hFollows with ⟨ops, hRecords, hState⟩
  rcases S.follows_invoked hState v with ⟨now, hNext⟩
  refine ⟨ops ++ [.invoke now (S.toRecord v)], ?_, ?_⟩
  · rw [List.map_append, ← hRecords]
    simp [BatchBuffer.invoked]
  · have hRun :
        S.setup.run 0 (ops ++ [.invoke now (S.toRecord v)]) =
          BatchBuffer.invoke S.setup.config
            (S.setup.run 0 ops) now (S.toRecord v) := by
      simp [SinkSetup.run, BatchBuffer.run,
        BatchBuffer.step]
    rw [hRun]
    exact hNext

/- The flushed buffers and the buffer are the records of the
   values in their order. -/
theorem stream_of_followsRun
    {values : List (SinkValue ρ)}
    (hFollows : S.FollowsRun values s) :
    s.reports.flatMap (·.buffer) ++ s.records =
      values.map S.toRecord := by
  rcases hFollows with ⟨ops, hRecords, hState⟩
  rw [← hRecords, ← hState.reports, ← hState.buffer]
  exact BatchBuffer.stream_of_run S.setup.config 0 ops

end SinkProgram

end FraudStream

------------------------------------------------------------
-- Every Invoke Of Every Run
------------------------------------------------------------

namespace FraudStream

namespace SinkProgram

variable {ρ : Type}

/- A run of accepted values reaches its state without an
   exception, in good time, and as a buffer with a limit. -/
theorem run_of_accepted
    (S : SinkProgram ρ)
    (hClock : Monotone S.clock)
    {values : List (SinkValue ρ)}
    (hValues : ∀ v ∈ values, S.Accepts v) :
    ∃ s,
      (forM values S.invoke).run S.start = .ok ⟨⟩ s ∧
        S.Timed s ∧ S.FollowsRun values s := by
  apply
    Statements.forM_induction
      (P := fun before s =>
        S.Timed s ∧ S.FollowsRun before s)
  · exact ⟨.start hClock, [], rfl, rfl, rfl⟩
  · rintro before v s hMem ⟨hTimed, hFollows⟩
    have hValue := hValues v hMem
    refine
      ⟨S.invoked v s,
        S.run_invoke hTimed.searchable hValue,
        hTimed.invoked hClock hValue, ?_⟩
    exact S.followsRun_invoked hFollows v

/-
  In a run of any of the three sinks over accepted values,
  with a clock that never goes back and whatever the appends
  do: no invoke raises; after each, the buffer is below the
  limit, the flushed buffers and the buffer are the records
  so far in their order, and each buffered record was
  appended less than a second before the first clock reading
  of the invoke.
-/
theorem buffers_are_bounded
    (S : SinkProgram ρ)
    (hClock : Monotone S.clock)
    (before after : List (SinkValue ρ))
    (v : SinkValue ρ)
    (hValues :
      ∀ value ∈ before ++ v :: after, S.Accepts value) :
    ∃ s s',
      (forM before S.invoke).run S.start = .ok ⟨⟩ s ∧
        (S.invoke v).run s = .ok () s' ∧
        (s'.buffer.length : Int) < max S.bufferMax 1 ∧
        s'.reports.flatMap (·.buffer) ++ s'.records =
          (before ++ [v]).map S.toRecord ∧
        ∀ b ∈ s'.buffer,
          S.clock s.readings - b.appendedAt < 1 := by
  have hBefore :
      ∀ value ∈ before, S.Accepts value := by
    intro value hMem
    exact hValues value (by simp [hMem])
  have hValue : S.Accepts v := hValues v (by simp)
  rcases S.run_of_accepted hClock hBefore with
    ⟨s, hRun, hTimed, hFollows⟩
  refine
    ⟨s, S.invoked v s, hRun,
      S.run_invoke hTimed.searchable hValue,
      length_invoked S v s, ?_, ?_⟩
  · exact
      S.stream_of_followsRun
        (S.followsRun_invoked hFollows v)
  · intro b hMem
    exact age_invoked hTimed hClock hMem

/- A sink of decisions whose clock goes on by a quarter of a
   second with each reading. -/
def quarterSink : SinkProgram String where
  sink := .decisions
  bufferMax := 3
  lookup := fun id => .ok (some id)
  opened := { catalogLoads := true, breakerLoads := true }
  clock := fun n => n / 4
  attempts := fun _ =>
    { conversion := none
      append := some .timeoutError
      durationMs := 0
      afterSuccess := none }

theorem buffers_are_bounded_quarterSink :
    ∃ s s',
      (forM [.dict "t1"] quarterSink.invoke).run
            quarterSink.start = .ok ⟨⟩ s ∧
        (quarterSink.invoke (.dataclass "t2")).run s =
          .ok () s' ∧
        (s'.buffer.length : Int) < 3 := by
  have hClock : Monotone quarterSink.clock := by
    intro m n hLe
    have hCast : (m : ℚ) ≤ n := by exact_mod_cast hLe
    simp only [quarterSink]
    linarith
  have hValues :
      ∀ value ∈ [.dict "t1"] ++ .dataclass "t2" :: [],
        quarterSink.Accepts value := by
    intro value hMem
    simp only [List.cons_append, List.nil_append,
      List.mem_cons, List.not_mem_nil, or_false] at hMem
    rcases hMem with rfl | rfl
    · exact ⟨"t1", rfl⟩
    · exact ⟨"t2", rfl⟩
  rcases
    buffers_are_bounded quarterSink hClock [.dict "t1"] []
      (.dataclass "t2") hValues with
    ⟨s, s', hRun, hInvoke, hRoom, -⟩
  exact ⟨s, s', hRun, hInvoke, hRoom⟩

end SinkProgram

end FraudStream
