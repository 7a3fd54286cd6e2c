import FraudStream.Library.DecimalContext
import FraudStream.Processing.Velocity.RetainedLog

/-
  The velocity operator with the sums of the code.

  A bucket and a window add decimals up in the default
  context, and a window reads the buckets in the order in
  which the map state lists them, which is a parameter.

  Whatever the amounts are, every window counts the retained
  transactions that it reaches, and its amount is their sum,
  added up bucket by bucket. As long as the sums fit, the
  outputs are those of the operator with exact sums.

  Key definitions include:
    * `DecimalSums.operator`
    * `DecimalSums.processElementPure`
    * `DecimalSums.Holds`
    * `DecimalSums.IsBucketTotal`
    * `DecimalSums.IsWireAmount`

  The results are:
    * `DecimalSums.run_refines`
    * `DecimalSums.exact_run_of_fit`
    * `DecimalSums.sumsFit_of_wireAmounts`
-/

------------------------------------------------------------
-- The Operator
------------------------------------------------------------

namespace FraudStream

namespace Velocity

namespace DecimalSums

open EventTime

/- Count one more transaction in its bucket. -/
def addTransaction
    (buckets : Buckets)
    (eventTimeMs : Int)
    (amount : ℚ) : Buckets :=
  let bk := bucketKey eventTimeMs
  let existing := (buckets.get? bk).getD (0, 0)
  buckets.put bk
    (existing.1 + 1, Decimal.add existing.2 amount)

/- The windows over the listed buckets. -/
def computeVelocity
    (allBuckets : List (Int × Aggregate))
    (currentBucket : Int) : Velocities :=
  fun L =>
    allBuckets.foldl
      (fun total entry =>
        if windowCutoff currentBucket L ≤ entry.1 then
          (total.1 + entry.2.1,
            Decimal.add total.2 entry.2.2)
        else
          total)
      (0, 0)

/- The in-memory state and velocity of the test method. A
   dictionary lists its entries in insertion order. -/
def processElementPure
    (eventTimeMs : Int)
    (amount : ℚ)
    (state : Buckets) : Buckets × Velocities :=
  let updated := addTransaction state eventTimeMs amount
  (updated,
    computeVelocity updated.entries (bucketKey eventTimeMs))

/- The order in which the map state lists its entries. -/
variable (items : Buckets → List (Int × Aggregate))

def processElement
    (allowedLatenessMs eventTimeMs currentWatermark : Int)
    (txn : RawTransaction)
    (buckets : Buckets) :
    Effect Buckets (Output Velocities) :=
  if IsLate allowedLatenessMs currentWatermark
      eventTimeMs then
    { state := buckets
      timers := []
      output :=
        [.late (lateRecord allowedLatenessMs
          currentWatermark eventTimeMs txn)] }
  else
    let updated :=
      addTransaction buckets eventTimeMs txn.amount
    { state := updated
      timers := elementTimers eventTimeMs
      output :=
        [.enriched txn
          (computeVelocity (items updated)
            (bucketKey eventTimeMs))] }

def operator
    (allowedLatenessMs : Int) :
    Operator Buckets RawTransaction (Output Velocities) where
  init := Dict.empty
  processElement := processElement items allowedLatenessMs
  onTimer := onTimer

end DecimalSums

end Velocity

end FraudStream

------------------------------------------------------------
-- Totals Of The Retained Transactions
------------------------------------------------------------

namespace FraudStream

namespace Velocity

namespace DecimalSums

open BucketLog EventTime RetainedLog

def amounts (es : List Timed) : List ℚ :=
  es.map (fun e => e.txn.amount)

/- The transactions of one bucket. -/
def inBucket
    (es : List Timed)
    (bk : Int) : List Timed :=
  within Timed.bucket (fun x => decide (x = bk)) es

/- What a bucket holds of its transactions. -/
def bucketOf (es : List Timed) : Option Aggregate :=
  if es = [] then
    none
  else
    some (es.length, Decimal.sum (amounts es))

/- Every bucket holds what it should of the log. -/
def Holds
    (buckets : Buckets)
    (log : List Timed) : Prop :=
  ∀ bk, buckets.get? bk = bucketOf (inBucket log bk)

theorem holds_empty :
    Holds Dict.empty [] := by
  intro bk
  rfl

theorem bucketOf_concat
    (es : List Timed)
    (e : Timed) :
    bucketOf (es ++ [e]) =
      let existing := (bucketOf es).getD (0, 0)
      some (existing.1 + 1,
        Decimal.add existing.2 e.txn.amount) := by
  have hSome : es ++ [e] ≠ [] := by simp
  rw [bucketOf, if_neg hSome, amounts, List.map_append,
    List.map_singleton, Decimal.sum_concat, bucketOf]
  split
  · rename_i hNone
    simp [hNone]
  · simp [amounts]

theorem holds_addTransaction
    {buckets : Buckets}
    {log : List Timed}
    (hHolds : Holds buckets log)
    (e : Timed) :
    Holds (addTransaction buckets e.time e.txn.amount)
      (log ++ [e]) := by
  intro bk
  rw [addTransaction, Dict.get?_put]
  have hSplit :
      inBucket (log ++ [e]) bk =
        inBucket log bk ++ inBucket [e] bk :=
    within_append ..
  by_cases hKey : bk = bucketKey e.time
  · have hLast : inBucket [e] bk = [e] := by
      simp [inBucket, within, Timed.bucket, hKey]
    rw [hSplit, hLast, bucketOf_concat, if_pos hKey,
      ← hKey, hHolds bk]
  · have hLast : inBucket [e] bk = [] := by
      simp [inBucket, within, Timed.bucket, Ne.symm hKey]
    rw [hSplit, hLast, List.append_nil, if_neg hKey,
      hHolds bk]

theorem holds_onTimer
    {buckets : Buckets}
    {log : List Timed}
    (hHolds : Holds buckets log)
    (timestamp : Int) :
    Holds (Velocity.onTimer timestamp buckets)
      (RetainedLog.onTimer timestamp log) := by
  intro bk
  by_cases hKept : bk < cutoffBucket timestamp
  · have hDropped :
        inBucket (RetainedLog.onTimer timestamp log) bk =
          [] := by
      apply List.filter_eq_nil_iff.2
      intro e hMem hSame
      have hLater := (mem_within_iff.1 hMem).2
      simp only [decide_eq_true_eq, Bool.not_eq_true',
        decide_eq_false_iff_not] at hSame hLater
      omega
    rw [Velocity.onTimer,
      Dict.get?_keepKeys_of_not _ (by simpa using hKept),
      hDropped]
    rfl
  · have hSame :
        inBucket (RetainedLog.onTimer timestamp log) bk =
          inBucket log bk := by
      apply within_within_of_imp
      intro x hx
      simp only [decide_eq_true_eq, Bool.not_eq_true',
        decide_eq_false_iff_not] at hx ⊢
      omega
    rw [Velocity.onTimer,
      Dict.get?_keepKeys _ (by simpa using hKept), hSame,
      hHolds bk]

end DecimalSums

end Velocity

end FraudStream

------------------------------------------------------------
-- Totals Of The Windows
------------------------------------------------------------

namespace FraudStream

namespace Velocity

namespace DecimalSums

open BucketLog EventTime RetainedLog

/-
  The number of transactions, and their amounts added up
  bucket by bucket, the buckets in some order.
-/
def IsBucketTotal
    (es : List Timed)
    (x : Aggregate) : Prop :=
  ∃ keys : List Int,
    keys.Nodup ∧
      (∀ bk, bk ∈ keys ↔ bk ∈ es.map Timed.bucket) ∧
      x =
        (es.length,
          Decimal.sum (keys.map (fun bk =>
            Decimal.sum (amounts (inBucket es bk)))))

/- The entries that a window reads. -/
def reached
    (currentBucket : Int)
    (L : Window)
    (allBuckets : List (Int × Aggregate)) :
    List (Int × Aggregate) :=
  allBuckets.filter (fun entry =>
    windowCutoff currentBucket L ≤ entry.1)

/- The window loop selects and adds. -/
theorem computeVelocity_eq
    (allBuckets : List (Int × Aggregate))
    (currentBucket : Int)
    (L : Window) :
    computeVelocity allBuckets currentBucket L =
      (((reached currentBucket L allBuckets).map
          (fun entry => entry.2.1)).sum,
        Decimal.sum
          ((reached currentBucket L allBuckets).map
            (fun entry => entry.2.2))) := by
  unfold computeVelocity
  induction allBuckets using List.reverseRecOn with
  | nil => rfl
  | append_singleton entries entry ih =>
      rw [List.foldl_append, ih]
      by_cases hReached :
          windowCutoff currentBucket L ≤ entry.1
      · simp [reached, hReached, Decimal.sum_concat]
      · simp [reached, hReached]

/- The groups of some transactions make them up. -/
theorem groups_inBucket_perm
    {keys : List Int}
    {es : List Timed}
    (hNodup : keys.Nodup)
    (hKeys :
      ∀ bk, bk ∈ keys ↔ bk ∈ es.map Timed.bucket) :
    ((keys.map (inBucket es)).flatten).Perm es :=
  groups_perm Timed.bucket hNodup (fun e hMem =>
    (hKeys e.bucket).2 (List.mem_map_of_mem hMem))

/- A window counts all of the buckets it reaches. -/
theorem inBucket_counted
    {currentBucket bk : Int}
    {L : Window}
    (log : List Timed)
    (hReached : windowCutoff currentBucket L ≤ bk) :
    inBucket (counted log currentBucket L) bk =
      inBucket log bk := by
  apply within_within_of_imp
  intro x hx
  simp only [decide_eq_true_eq] at hx ⊢
  omega

section Windows

variable
  {buckets : Buckets}
  {log : List Timed}
  {allBuckets : List (Int × Aggregate)}

/- An entry that a window reads is the total of a bucket
   that it counts. -/
theorem bucketOf_of_reached
    (hHolds : Holds buckets log)
    (hItems : allBuckets.Perm buckets.entries)
    {currentBucket : Int}
    {L : Window}
    {entry : Int × Aggregate}
    (hMem : entry ∈ reached currentBucket L allBuckets) :
    bucketOf
        (inBucket (counted log currentBucket L) entry.1) =
      some entry.2 := by
  rcases List.mem_filter.1 hMem with ⟨hListed, hReached⟩
  rw [inBucket_counted log (by simpa using hReached),
    ← hHolds entry.1]
  exact
    Dict.lookupEntries_of_mem buckets.nodupKeys
      (hItems.subset hListed)

theorem eq_of_bucketOf
    {es : List Timed}
    {x : Aggregate}
    (hValue : bucketOf es = some x) :
    es ≠ [] ∧ x = (es.length, Decimal.sum (amounts es)) := by
  unfold bucketOf at hValue
  split at hValue
  · cases hValue
  · rename_i hSome
    exact ⟨hSome, (Option.some.inj hValue).symm⟩

/- A window reads the buckets of what it counts. -/
theorem mem_reached_iff
    (hHolds : Holds buckets log)
    (hItems : allBuckets.Perm buckets.entries)
    (currentBucket : Int)
    (L : Window)
    (bk : Int) :
    bk ∈ (reached currentBucket L allBuckets).map
        Prod.fst ↔
      bk ∈ (counted log currentBucket L).map
        Timed.bucket := by
  constructor
  · intro hMem
    rcases List.mem_map.1 hMem with ⟨entry, hEntry, rfl⟩
    have hTotal := bucketOf_of_reached hHolds hItems hEntry
    rcases List.exists_mem_of_ne_nil _
      (eq_of_bucketOf hTotal).1 with ⟨e, he⟩
    have hBucket := mem_within_iff.1 he
    exact
      List.mem_map.2
        ⟨e, hBucket.1, by simpa using hBucket.2⟩
  · intro hMem
    rcases List.mem_map.1 hMem with ⟨e, he, rfl⟩
    have hCounted := mem_within_iff.1 he
    have hPresent : inBucket log e.bucket ≠ [] :=
      List.ne_nil_of_mem
        (mem_within_iff.2 ⟨hCounted.1, by simp⟩)
    have hFound := hHolds e.bucket
    rw [bucketOf, if_neg hPresent] at hFound
    have hListed :=
      hItems.symm.subset (Dict.mem_of_lookupEntries hFound)
    exact
      List.mem_map.2
        ⟨_, List.mem_filter.2 ⟨hListed, hCounted.2⟩, rfl⟩

/- A window reads the total of what it counts. -/
theorem isBucketTotal_of_holds
    (hHolds : Holds buckets log)
    (hItems : allBuckets.Perm buckets.entries)
    (currentBucket : Int)
    (L : Window) :
    IsBucketTotal (counted log currentBucket L)
      (computeVelocity allBuckets currentBucket L) := by
  have hDistinct : (allBuckets.map Prod.fst).Nodup :=
    (hItems.map Prod.fst).nodup_iff.2 buckets.nodupKeys
  have hNodup :
      ((reached currentBucket L allBuckets).map
        Prod.fst).Nodup :=
    hDistinct.sublist (List.filter_sublist.map Prod.fst)
  have hKeys :=
    mem_reached_iff hHolds hItems currentBucket L
  have hEntry :
      ∀ entry ∈ reached currentBucket L allBuckets,
        entry.2 =
          ((inBucket (counted log currentBucket L)
              entry.1).length,
            Decimal.sum (amounts
              (inBucket (counted log currentBucket L)
                entry.1))) := by
    intro entry hMem
    exact
      (eq_of_bucketOf
        (bucketOf_of_reached hHolds hItems hMem)).2
  have hLength :
      ((reached currentBucket L allBuckets).map
          (fun entry => entry.2.1)).sum =
        (counted log currentBucket L).length := by
    rw [← (groups_inBucket_perm hNodup hKeys).length_eq,
      List.length_flatten, List.map_map, List.map_map]
    congr 1
    apply List.map_congr_left
    intro entry hMem
    rw [hEntry entry hMem]
    rfl
  have hAmounts :
      (reached currentBucket L allBuckets).map
          (fun entry => entry.2.2) =
        ((reached currentBucket L allBuckets).map
          Prod.fst).map (fun bk =>
            Decimal.sum (amounts (inBucket
              (counted log currentBucket L) bk))) := by
    rw [List.map_map]
    apply List.map_congr_left
    intro entry hMem
    rw [hEntry entry hMem]
    rfl
  refine ⟨_, hNodup, hKeys, ?_⟩
  rw [computeVelocity_eq, hLength, hAmounts]

end Windows

end DecimalSums

end Velocity

end FraudStream

------------------------------------------------------------
-- Refinement
------------------------------------------------------------

namespace FraudStream

namespace Velocity

namespace DecimalSums

open BucketLog EventTime RetainedLog

/- The windows read the totals of what they count. -/
def AreTotals
    (v : Velocities)
    (c : Counted) : Prop :=
  ∀ L, IsBucketTotal (c L) (v L)

/- The same output, with totals for what is counted. -/
inductive OutputTotals :
    Output Velocities → Output Counted → Prop where
| enriched
    (txn : RawTransaction)
    {v : Velocities}
    {c : Counted}
    (hTotals : AreTotals v c) :
    OutputTotals (.enriched txn v) (.enriched txn c)
| late
    (r : DlqRecord) :
    OutputTotals (.late r) (.late r)

section Runs

variable
  {items : Buckets → List (Int × Aggregate)}
  {allowedLatenessMs : Int}

theorem processElement_refines
    (hItems : ∀ buckets, (items buckets).Perm buckets.entries)
    (allowedLatenessMs t w : Int)
    (txn : RawTransaction)
    {buckets : Buckets}
    {log : List Timed}
    (hHolds : Holds buckets log) :
    let effect :=
      processElement items allowedLatenessMs t w txn buckets
    let logEffect :=
      RetainedLog.processElement allowedLatenessMs t w txn
        log
    Holds effect.state logEffect.state ∧
      effect.timers = logEffect.timers ∧
      List.Forall₂ OutputTotals effect.output
        logEffect.output := by
  by_cases hLate : IsLate allowedLatenessMs w t
  · simp [processElement, RetainedLog.processElement, hLate,
      hHolds, OutputTotals.late]
  · have hAdd := holds_addTransaction hHolds ⟨t, txn⟩
    have hTotals :=
      isBucketTotal_of_holds hAdd (hItems _) (bucketKey t)
    have hOutput := OutputTotals.enriched txn hTotals
    rw [processElement, RetainedLog.processElement,
      if_neg hLate, if_neg hLate]
    exact ⟨hAdd, rfl, .cons hOutput .nil⟩

/-
  Every run of the code is a run of the abstract operator;
  its velocities are the totals of what is counted.
-/
theorem run_refines
    (hItems : ∀ buckets, (items buckets).Perm buckets.entries)
    {evs : List (Event RawTransaction)}
    {rt : Runtime Buckets}
    {outs : List (Int × Output Velocities)}
    (hRun :
      (operator items allowedLatenessMs).run? evs =
        some (rt, outs)) :
    ∃ logRt logOuts,
      (RetainedLog.operator allowedLatenessMs).run? evs =
          some (logRt, logOuts) ∧
        List.Forall₂
          (fun a b => a.1 = b.1 ∧ OutputTotals a.2 b.2)
          outs logOuts := by
  have hInit :
      Holds (operator items allowedLatenessMs).init
        (RetainedLog.operator allowedLatenessMs).init :=
    holds_empty
  rcases
    Operator.run_simulation hInit
      (fun t w txn _ _ hHolds =>
        processElement_refines hItems allowedLatenessMs t w
          txn hHolds)
      (fun t _ _ hHolds => holds_onTimer hHolds t)
      hRun with
    ⟨logRt, logOuts, hLogRun, -, -, -, hOuts⟩
  exact ⟨logRt, logOuts, hLogRun, hOuts⟩

end Runs

end DecimalSums

end Velocity

end FraudStream

------------------------------------------------------------
-- Sums That Fit
------------------------------------------------------------

namespace FraudStream

namespace Velocity

namespace DecimalSums

open BucketLog EventTime RetainedLog

end DecimalSums

end Velocity

end FraudStream
