import Mathlib.Data.List.Basic
import Mathlib.Data.List.Induction

/-
  Records that are buffered and written in batches.

  A buffer is flushed when a record arrives a period after
  the last flush, when it is full, and on request. A flush
  writes what is buffered, reports the outcome and clears
  the buffer. Clock readings and outcomes are indexed by the
  number of the flush.

  Key definitions include:
    * `BatchBuffer.Config`
    * `BatchBuffer.flush`
    * `BatchBuffer.run`
    * `BatchBuffer.Reached`
    * `BatchBuffer.firstOccurrences`

  The rules are:
    * `BatchBuffer.run_induction`
    * `BatchBuffer.stream_of_run`
    * `BatchBuffer.report_of_reached`
    * `BatchBuffer.report_of_run`
    * `BatchBuffer.kept_of_run`
    * `BatchBuffer.buffers_of_opsOf`
    * `BatchBuffer.filter_firstOccurrences`
-/

------------------------------------------------------------
-- Buffers
------------------------------------------------------------

namespace BatchBuffer

variable {ρ ω : Type}

/- A flushed buffer and what came of it. -/
structure Report (ρ ω : Type) where
  buffer : List ρ
  outcome : ω

structure State (ρ ω : Type) where
  buffer : List ρ
  lastFlush : Int
  reports : List (Report ρ ω)

structure Config (ρ ω : Type) where
  limit : Int
  period : Int
  clock : Nat → Int
  write : Nat → List ρ → ω

/- A new buffer. -/
def init (now : Int) : State ρ ω where
  buffer := []
  lastFlush := now
  reports := []

def append
    (s : State ρ ω)
    (r : ρ) : State ρ ω :=
  { s with buffer := s.buffer ++ [r] }

/- Write the buffer and clear it. -/
def writeOut
    (c : Config ρ ω)
    (s : State ρ ω) : State ρ ω :=
  let n := s.reports.length
  { buffer := []
    lastFlush := c.clock n
    reports :=
      s.reports ++ [⟨s.buffer, c.write n s.buffer⟩] }

/- An empty buffer is not written. -/
def flush
    (c : Config ρ ω)
    (s : State ρ ω) : State ρ ω :=
  if s.buffer.isEmpty then s else writeOut c s

inductive Op (ρ : Type) where
| invoke : (now : Int) → ρ → Op ρ
| flush
| close

/- Take a record at a clock reading. -/
def invoke
    (c : Config ρ ω)
    (s : State ρ ω)
    (now : Int)
    (r : ρ) : State ρ ω :=
  let s :=
    if c.period ≤ now - s.lastFlush then flush c s else s
  let s := append s r
  if c.limit ≤ s.buffer.length then flush c s else s

def step
    (c : Config ρ ω)
    (s : State ρ ω) : Op ρ → State ρ ω
| .invoke now r => invoke c s now r
| .flush => flush c s
| .close => flush c s

/- The state after a list of operations. -/
def run
    (c : Config ρ ω)
    (start : Int)
    (ops : List (Op ρ)) : State ρ ω :=
  ops.foldl (step c) (init start)

/- The records of the operations. -/
def invoked (ops : List (Op ρ)) : List ρ :=
  ops.filterMap (fun op =>
    match op with
    | .invoke _ r => some r
    | _ => none)

end BatchBuffer

------------------------------------------------------------
-- Runs
------------------------------------------------------------

namespace BatchBuffer

variable {ρ ω : Type}

/- What an append and a written buffer preserve, a whole run
   preserves. -/
theorem run_induction
    {c : Config ρ ω}
    {P : List ρ → State ρ ω → Prop}
    {start : Int}
    (hInit : P [] (init start))
    (hAppend :
      ∀ rs s r, P rs s → P (rs ++ [r]) (append s r))
    (hWrite :
      ∀ rs s, s.buffer ≠ [] → P rs s →
        P rs (writeOut c s))
    (ops : List (Op ρ)) :
    P (invoked ops) (run c start ops) := by
  have hFlush : ∀ rs s, P rs s → P rs (flush c s) := by
    intro rs s hP
    unfold flush
    split
    · exact hP
    · rename_i hFull
      exact hWrite rs s (by simpa using hFull) hP
  induction ops using List.reverseRecOn with
  | nil => exact hInit
  | append_singleton ops op ih =>
      have hRun :
          run c start (ops ++ [op]) =
            step c (run c start ops) op := by
        simp [run]
      rw [hRun]
      cases op with
      | flush =>
          simpa [invoked, step] using hFlush _ _ ih
      | close =>
          simpa [invoked, step] using hFlush _ _ ih
      | invoke now r =>
          have hInvoked :
              invoked (ops ++ [.invoke now r]) =
                invoked ops ++ [r] := by
            simp [invoked]
          have hLater :
              ∀ s, P (invoked ops) s →
                P (invoked ops ++ [r])
                  (if c.limit ≤ (append s r).buffer.length then
                    flush c (append s r)
                  else
                    append s r) := by
            intro s hP
            split
            · exact hFlush _ _ (hAppend _ _ r hP)
            · exact hAppend _ _ r hP
          rw [hInvoked]
          apply hLater
          split
          · exact hFlush _ _ ih
          · exact ih

/- The flushed buffers and the buffer are the records in
   their order. -/
theorem stream_of_run
    (c : Config ρ ω)
    (start : Int)
    (ops : List (Op ρ)) :
    (run c start ops).reports.flatMap (·.buffer) ++
        (run c start ops).buffer = invoked ops := by
  apply
    run_induction
      (P := fun rs s =>
        s.reports.flatMap (·.buffer) ++ s.buffer = rs)
  · rfl
  · intro rs s r hStream
    rw [append, ← hStream, List.append_assoc]
  · intro rs s _ hStream
    simpa [writeOut] using hStream

/- The states that appends and writes lead to, in any
   order. -/
inductive Reached
    (c : Config ρ ω)
    (start : Int) : State ρ ω → Prop
| init : Reached c start (init start)
| append {s : State ρ ω} :
    Reached c start s → (r : ρ) →
      Reached c start (append s r)
| writeOut {s : State ρ ω} :
    s.buffer ≠ [] → Reached c start s →
      Reached c start (writeOut c s)

theorem reached_run
    (c : Config ρ ω)
    (start : Int)
    (ops : List (Op ρ)) :
    Reached c start (run c start ops) := by
  apply run_induction (P := fun _ s => Reached c start s)
  · exact .init
  · intro _ s r hReached
    exact .append hReached r
  · intro _ s hFull hReached
    exact .writeOut hFull hReached

/- Each report is of a nonempty buffer, written with the
   outcome of its number. -/
theorem report_of_reached
    {c : Config ρ ω}
    {start : Int}
    {s : State ρ ω}
    (hReached : Reached c start s) :
    ∀ n report,
      s.reports[n]? = some report →
        report.buffer ≠ [] ∧
          report.outcome = c.write n report.buffer := by
  induction hReached with
  | init =>
      intro n report hReport
      simp [BatchBuffer.init] at hReport
  | append _ r ih => exact ih
  | @writeOut s hFull _ ih =>
      intro n report hReport
      simp only [BatchBuffer.writeOut,
        List.getElem?_append] at hReport
      split at hReport
      · exact ih n report hReport
      · rename_i hLast
        rw [List.getElem?_singleton] at hReport
        split at hReport
        · rename_i hZero
          have hNumber : n = s.reports.length := by omega
          cases hReport
          exact ⟨hFull, by rw [hNumber]⟩
        · cases hReport

theorem report_of_run
    (c : Config ρ ω)
    (start : Int)
    (ops : List (Op ρ)) :
    ∀ n report,
      (run c start ops).reports[n]? = some report →
        report.buffer ≠ [] ∧
          report.outcome = c.write n report.buffer :=
  report_of_reached (reached_run c start ops)

/- What the write of its buffer establishes for a record,
   and later writes keep, holds of each record that is no
   longer buffered. -/
theorem kept_of_run
    {c : Config ρ ω}
    {start : Int}
    {ops : List (Op ρ)}
    {K : List (Report ρ ω) → ρ → Prop}
    (hKeep :
      ∀ reports later r, K reports r →
        K (reports ++ later) r)
    (hWrite :
      ∀ n report,
        (run c start ops).reports[n]? = some report →
          ∀ r ∈ report.buffer,
            K ((run c start ops).reports.take (n + 1)) r) :
    ∀ r ∈ invoked ops,
      r ∈ (run c start ops).buffer ∨
        K (run c start ops).reports r := by
  intro r hInvoked
  rw [← stream_of_run c start ops, List.mem_append] at hInvoked
  rcases hInvoked with hWritten | hBuffered
  · right
    rcases List.mem_flatMap.1 hWritten with
      ⟨report, hReport, hMem⟩
    rcases List.mem_iff_getElem?.1 hReport with ⟨n, hNumber⟩
    have hKept :=
      hKeep _ ((run c start ops).reports.drop (n + 1)) r
        (hWrite n report hNumber r hMem)
    rwa [List.take_append_drop] at hKept
  · exact .inl hBuffered

end BatchBuffer

------------------------------------------------------------
-- Runs Of Given Batches
------------------------------------------------------------

namespace BatchBuffer

variable {ρ ω : Type}

/- Each batch is taken at once and flushed. -/
def opsOf (batches : List (List ρ)) : List (Op ρ) :=
  batches.flatMap (fun b => b.map (.invoke 0) ++ [.flush])

/- Records that fit are buffered. -/
theorem foldl_invoke
    {c : Config ρ ω}
    (hPeriod : 0 < c.period)
    (rs : List ρ)
    (s : State ρ ω)
    (hNow : s.lastFlush = 0)
    (hRoom :
      (s.buffer.length + rs.length : Int) < c.limit) :
    (rs.map (.invoke 0)).foldl (step c) s =
      { s with buffer := s.buffer ++ rs } := by
  induction rs generalizing s with
  | nil => simp
  | cons r rs ih =>
      have hStep : step c s (.invoke 0 r) = append s r := by
        have hEarly : ¬c.period ≤ 0 - s.lastFlush := by omega
        have hFits :
            ¬c.limit ≤ ((append s r).buffer.length : Int) := by
          simp only [append, List.length_append,
            List.length_cons, List.length_nil] at hRoom ⊢
          omega
        simp only [step, invoke, if_neg hEarly, if_neg hFits]
      have hNext :
          ((append s r).buffer.length + rs.length : Int) <
            c.limit := by
        simp only [append, List.length_append,
          List.length_cons, List.length_nil] at hRoom ⊢
        omega
      rw [List.map_cons, List.foldl_cons, hStep,
        ih (append s r) hNow hNext]
      simp [append]

/- Nonempty batches below the limit are flushed as given. -/
theorem buffers_of_opsOf
    {c : Config ρ ω}
    (hPeriod : 0 < c.period)
    (hClock : ∀ n, c.clock n = 0)
    (batches : List (List ρ))
    (hBatches :
      ∀ b ∈ batches, b ≠ [] ∧ (b.length : Int) < c.limit) :
    (run c 0 (opsOf batches)).buffer = [] ∧
      (run c 0 (opsOf batches)).lastFlush = 0 ∧
      (run c 0 (opsOf batches)).reports.map (·.buffer) =
        batches := by
  induction batches using List.reverseRecOn with
  | nil => exact ⟨rfl, rfl, rfl⟩
  | append_singleton batches b ih =>
      rcases ih (fun b hMem => hBatches b (by simp [hMem]))
        with ⟨hEmpty, hNow, hBuffers⟩
      rcases hBatches b (by simp) with ⟨hFull, hRoom⟩
      have hFill :=
        foldl_invoke hPeriod b (run c 0 (opsOf batches)) hNow
          (by simpa [hEmpty] using hRoom)
      have hRun :
          run c 0 (opsOf (batches ++ [b])) =
            flush c
              { run c 0 (opsOf batches) with buffer := b } := by
        rw [hEmpty, List.nil_append] at hFill
        simp only [run, opsOf, List.flatMap_append,
          List.flatMap_cons, List.flatMap_nil,
          List.append_nil, List.foldl_append] at hFill ⊢
        rw [hFill]
        rfl
      rw [hRun, flush, if_neg (by simpa using hFull)]
      refine ⟨rfl, hClock _, ?_⟩
      simp [writeOut, hBuffers]

end BatchBuffer

------------------------------------------------------------
-- First Occurrences
------------------------------------------------------------

namespace BatchBuffer

variable {ρ κ : Type}
variable [DecidableEq κ]

/- The records whose key is new, in their order. -/
def firstOccurrences
    (key : ρ → κ) : List κ → List ρ → List ρ
| _, [] => []
| seen, r :: rs =>
    if key r ∈ seen then
      firstOccurrences key seen rs
    else
      r :: firstOccurrences key (key r :: seen) rs

/- A key that was not seen is kept by its first record, and
   only by this one. -/
theorem filter_firstOccurrences
    (key : ρ → κ)
    (k : κ)
    (seen : List κ)
    (rs : List ρ) :
    (firstOccurrences key seen rs).filter (key · = k) =
      if k ∈ seen then
        []
      else
        (rs.filter (key · = k)).take 1 := by
  induction rs generalizing seen with
  | nil => simp [firstOccurrences]
  | cons r rs ih =>
      unfold firstOccurrences
      by_cases hSeen : key r ∈ seen
      · rw [if_pos hSeen, ih]
        by_cases hKey : key r = k
        · rw [← hKey, if_pos hSeen, if_pos hSeen]
        · simp [hKey]
      · rw [if_neg hSeen, List.filter_cons, ih]
        by_cases hKey : key r = k
        · rw [← hKey]
          simp [hSeen]
        · simp [hKey, Ne.symm hKey]

theorem firstOccurrences_sublist
    (key : ρ → κ)
    (seen : List κ)
    (rs : List ρ) :
    List.Sublist (firstOccurrences key seen rs) rs := by
  induction rs generalizing seen with
  | nil => exact List.Sublist.slnil
  | cons r rs ih =>
      unfold firstOccurrences
      split
      · exact (ih seen).cons r
      · exact (ih (key r :: seen)).cons_cons r

/- Each key is kept. -/
theorem exists_mem_firstOccurrences
    (key : ρ → κ)
    {rs : List ρ}
    {r : ρ}
    (hMem : r ∈ rs) :
    ∃ r' ∈ firstOccurrences key [] rs, key r' = key r := by
  have hFilter :=
    filter_firstOccurrences key (key r) [] rs
  rw [if_neg List.not_mem_nil] at hFilter
  have hRecords :
      r ∈ rs.filter (key · = key r) := by
    simp [hMem]
  cases hSame : rs.filter (key · = key r) with
  | nil => simp [hSame] at hRecords
  | cons first same =>
      have hKept :
          first ∈ (firstOccurrences key [] rs).filter
            (key · = key r) := by
        simp [hFilter, hSame]
      rcases List.mem_filter.1 hKept with ⟨hFirst, hKey⟩
      exact ⟨first, hFirst, by simpa using hKey⟩

/- The first record is kept first. -/
theorem head_firstOccurrences
    (key : ρ → κ)
    (rs : List ρ) :
    (firstOccurrences key [] rs).head? = rs.head? := by
  cases rs with
  | nil => rfl
  | cons r rs => simp [firstOccurrences]

end BatchBuffer
