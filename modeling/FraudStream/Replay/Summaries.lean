import FraudStream.Library.Binary64
import FraudStream.Library.Tally
import Mathlib.Order.Bounds.Basic

/-
  The summaries of a replay's results.

  A result has a score delta when both of its scores are
  present, and zero otherwise. The averages are taken over
  the results with a replay score. The order in which a set
  of rules is iterated is a parameter.

  Key definitions include:
    * `ReplayResult.scoreDelta`
    * `ReplayResult.direction?`
    * `ReplayComparisonSummary.compute`
    * `ReplayJob.summaryOf`
-/

------------------------------------------------------------
-- Results
------------------------------------------------------------

namespace FraudStream

/- What a result is constructed with. `score_delta` and
   `decision_changed`, which no caller gives, are computed
   from it. -/
structure ReplayResult where
  originalDecision : Option String
  replayDecision : Option String
  originalScore : Option ℚ
  replayScore : Option ℚ
  triggeredRulesOriginal : List String
  triggeredRulesReplay : List String
  processingTimeMs : ℚ
deriving DecidableEq

namespace ReplayResult

/- `score_delta` after `__post_init__`. -/
def scoreDelta (r : ReplayResult) : ℚ :=
  match r.originalScore, r.replayScore with
  | some originalScore, some replayScore =>
      replayScore - originalScore
  | _, _ => 0

/- `decision_changed` after `__post_init__`. -/
def decisionChanged (r : ReplayResult) : Bool :=
  match r.originalDecision, r.replayDecision with
  | some originalDecision, some replayDecision =>
      originalDecision ≠ replayDecision
  | _, _ => false

/- The direction of a change between two decisions that are
   not empty. -/
def direction? (r : ReplayResult) : Option String :=
  match r.originalDecision, r.replayDecision with
  | some originalDecision, some replayDecision =>
      if r.decisionChanged && originalDecision ≠ "" &&
          replayDecision ≠ "" then
        some (originalDecision ++ "_to_" ++ replayDecision)
      else
        none
  | _, _ => none

/- The rules that only one of the two decisions triggered. -/
def changedRules (r : ReplayResult) : List String :=
  r.triggeredRulesOriginal.dedup.filter
      (fun rule => rule ∉ r.triggeredRulesReplay) ++
    r.triggeredRulesReplay.dedup.filter
      (fun rule => rule ∉ r.triggeredRulesOriginal)

end ReplayResult

end FraudStream

------------------------------------------------------------
-- Summaries
------------------------------------------------------------

namespace FraudStream

/- The deltas that are averaged. -/
def scoreDeltas (results : List ReplayResult) : List ℚ :=
  (results.filter (fun r => r.replayScore.isSome)).map
    ReplayResult.scoreDelta

def mean (values : List ℚ) : ℚ :=
  values.sum / values.length

/- `max(abs(d) for d in deltas)`, and zero of no deltas. -/
def maxAbs (deltas : List ℚ) : ℚ :=
  (deltas.map (fun d => |d|)).foldr max 0

def changedCount (results : List ReplayResult) : Int :=
  results.countP ReplayResult.decisionChanged

/- The ten rules with the most changes. Sorting keeps the
   order of rules with equal counts. -/
def rulesChangedMost
    (iterate : List String → List String)
    (results : List ReplayResult) : List (String × Int) :=
  let ruleChanges : Dict String Int :=
    Dict.empty.tally
      (results.flatMap (fun r => iterate r.changedRules))
  (ruleChanges.entries.mergeSort
    (fun a b => b.2 ≤ a.2)).take 10

structure ReplayComparisonSummary where
  totalCompared : Int
  decisionsChanged : Int
  decisionChangeRate : ℚ
  avgScoreDelta : ℚ
  maxScoreDelta : ℚ
  rulesChangedMost : List (String × Int)
  directionBreakdown : Dict String Int

namespace ReplayComparisonSummary

def new : ReplayComparisonSummary where
  totalCompared := 0
  decisionsChanged := 0
  decisionChangeRate := 0
  avgScoreDelta := 0
  maxScoreDelta := 0
  rulesChangedMost := []
  directionBreakdown := Dict.empty

/- The average and the maximum are assigned only when a
   result has a replay score, and the breakdown goes on from
   the one before. Scores, deltas and the rate are exact
   rationals here, where the code rounds to binary64. -/
def compute
    (iterate : List String → List String)
    (summary : ReplayComparisonSummary)
    (results : List ReplayResult) :
    ReplayComparisonSummary :=
  if results = [] then
    summary
  else
    let deltas := scoreDeltas results
    { totalCompared := results.length
      decisionsChanged := changedCount results
      decisionChangeRate :=
        if 0 < results.length then
          changedCount results / results.length * 100
        else
          0
      avgScoreDelta :=
        if deltas = [] then
          summary.avgScoreDelta
        else
          mean deltas
      maxScoreDelta :=
        if deltas = [] then
          summary.maxScoreDelta
        else
          maxAbs deltas
      rulesChangedMost :=
        FraudStream.rulesChangedMost iterate results
      directionBreakdown :=
        summary.directionBreakdown.tally
          (results.filterMap ReplayResult.direction?) }

end ReplayComparisonSummary

/- `round(value, digits)` -/
def roundDigits (digits : Nat) (value : ℚ) : ℚ :=
  PyFloat.roundHalfEven (value * 10 ^ digits) / 10 ^ digits

/- What `_compute_summary` writes to `results_summary`. -/
structure ResultsSummary where
  totalCompared : Nat
  decisionsChanged : Int
  decisionChangeRate : ℚ
  avgScoreDelta : ℚ
  maxScoreDelta : ℚ
  rulesChangedMost : List (String × Int)
  avgProcessingTimeMs : ℚ

/- `_compute_summary`, which writes nothing of no results. -/
def ReplayJob.summaryOf
    (iterate : List String → List String)
    (results : List ReplayResult) : Option ResultsSummary :=
  if results = [] then
    none
  else
    let deltas := scoreDeltas results
    some
      { totalCompared := results.length
        decisionsChanged := changedCount results
        decisionChangeRate :=
          roundDigits 2
            (changedCount results / results.length * 100)
        avgScoreDelta :=
          roundDigits 4 (if deltas = [] then 0 else mean deltas)
        maxScoreDelta := roundDigits 4 (maxAbs deltas)
        rulesChangedMost := rulesChangedMost iterate results
        avgProcessingTimeMs :=
          roundDigits 2
            (mean (results.map (·.processingTimeMs))) }

end FraudStream

------------------------------------------------------------
-- Real Deltas
------------------------------------------------------------

namespace FraudStream

/- The delta of a result that has both scores. -/
def ReplayResult.realDelta? (r : ReplayResult) : Option ℚ :=
  match r.originalScore, r.replayScore with
  | some originalScore, some replayScore =>
      some (replayScore - originalScore)
  | _, _ => none

def realDeltas (results : List ReplayResult) : List ℚ :=
  results.filterMap ReplayResult.realDelta?

/- The greatest of the absolute values, and zero of no
   values. -/
def IsMaxAbs (deltas : List ℚ) (q : ℚ) : Prop :=
  if deltas = [] then
    q = 0
  else
    IsGreatest {x | ∃ d ∈ deltas, x = |d|} q

/- The averages and the maxima of both summaries are those of
   the real deltas. -/
structure AveragesRealDeltas
    (iterate : List String → List String)
    (results : List ReplayResult) : Prop where
  average :
    (ReplayComparisonSummary.new.compute iterate
        results).avgScoreDelta =
      mean (realDeltas results)
  maximum :
    IsMaxAbs (realDeltas results)
      (ReplayComparisonSummary.new.compute iterate
        results).maxScoreDelta
  written :
    ∀ summary,
      ReplayJob.summaryOf iterate results = some summary →
        summary.avgScoreDelta =
            roundDigits 4 (mean (realDeltas results)) ∧
          ∃ q, IsMaxAbs (realDeltas results) q ∧
            summary.maxScoreDelta = roundDigits 4 q

/- Each result with a replay score has an original one. -/
def AllCompared (results : List ReplayResult) : Prop :=
  ∀ r ∈ results,
    r.replayScore.isSome = true →
      r.originalScore.isSome = true

theorem maxAbs_nonneg (deltas : List ℚ) :
    0 ≤ maxAbs deltas := by
  cases deltas with
  | nil => exact le_refl 0
  | cons d ds => exact le_max_of_le_left (abs_nonneg d)

theorem maxAbs_cons (d : ℚ) (ds : List ℚ) :
    maxAbs (d :: ds) = max |d| (maxAbs ds) := rfl

theorem isMaxAbs_maxAbs (deltas : List ℚ) :
    IsMaxAbs deltas (maxAbs deltas) := by
  induction deltas with
  | nil => rfl
  | cons d ds ih =>
      rw [IsMaxAbs, if_neg (List.cons_ne_nil d ds),
        maxAbs_cons]
      unfold IsMaxAbs at ih
      split at ih
      · rename_i hEmpty
        subst hEmpty
        rw [ih, max_eq_left (abs_nonneg d)]
        constructor
        · exact ⟨d, List.mem_cons_self, rfl⟩
        · rintro _ ⟨e, hMem, rfl⟩
          rw [List.mem_singleton.1 hMem]
      · constructor
        · rcases max_choice |d| (maxAbs ds) with hMax | hMax
          · exact ⟨d, List.mem_cons_self, hMax⟩
          · rcases ih.1 with ⟨e, hMem, hEq⟩
            refine ⟨e, List.mem_cons_of_mem d hMem, ?_⟩
            rw [hMax, hEq]
        · rintro _ ⟨e, hMem, rfl⟩
          rcases List.mem_cons.1 hMem with rfl | hTail
          · exact le_max_left _ _
          · exact le_max_of_le_right (ih.2 ⟨e, hTail, rfl⟩)

/- What a result adds to the two lists of deltas: its real
   delta to both, or a zero to the averaged one only. -/
theorem deltas_cons
    (r : ReplayResult)
    (results : List ReplayResult) :
    (∃ d,
        scoreDeltas (r :: results) =
            d :: scoreDeltas results ∧
          realDeltas (r :: results) =
            d :: realDeltas results ∧
          r.originalScore.isSome = true) ∨
      (scoreDeltas (r :: results) =
            0 :: scoreDeltas results ∧
          realDeltas (r :: results) = realDeltas results ∧
          r.replayScore.isSome = true ∧
          r.originalScore.isSome = false) ∨
      (scoreDeltas (r :: results) = scoreDeltas results ∧
          realDeltas (r :: results) = realDeltas results ∧
          r.replayScore.isSome = false) := by
  cases hReplay : r.replayScore with
  | none =>
      right
      right
      simp [scoreDeltas, realDeltas, hReplay,
        ReplayResult.realDelta?]
  | some replayScore =>
      cases hOriginal : r.originalScore with
      | none =>
          right
          left
          simp [scoreDeltas, realDeltas, hReplay, hOriginal,
            ReplayResult.realDelta?, ReplayResult.scoreDelta]
      | some originalScore =>
          left
          refine ⟨replayScore - originalScore, ?_⟩
          simp [scoreDeltas, realDeltas, hReplay, hOriginal,
            ReplayResult.realDelta?, ReplayResult.scoreDelta]

theorem sum_scoreDeltas (results : List ReplayResult) :
    (scoreDeltas results).sum = (realDeltas results).sum := by
  induction results with
  | nil => rfl
  | cons r results ih =>
      rcases deltas_cons r results with
        ⟨d, hScore, hReal, _⟩ | ⟨hScore, hReal, _⟩ |
          ⟨hScore, hReal, _⟩
      · rw [hScore, hReal, List.sum_cons, List.sum_cons, ih]
      · rw [hScore, hReal, List.sum_cons, zero_add, ih]
      · rw [hScore, hReal, ih]

theorem maxAbs_scoreDeltas (results : List ReplayResult) :
    maxAbs (scoreDeltas results) =
      maxAbs (realDeltas results) := by
  induction results with
  | nil => rfl
  | cons r results ih =>
      rcases deltas_cons r results with
        ⟨d, hScore, hReal, _⟩ | ⟨hScore, hReal, _⟩ |
          ⟨hScore, hReal, _⟩
      · rw [hScore, hReal, maxAbs_cons, maxAbs_cons, ih]
      · rw [hScore, hReal, maxAbs_cons, ih, abs_zero,
          max_eq_right (maxAbs_nonneg _)]
      · rw [hScore, hReal, ih]

/- The averaged deltas are more than the real ones, unless
   every result with a replay score has an original one. -/
theorem length_realDeltas_le
    (results : List ReplayResult) :
    (realDeltas results).length ≤
        (scoreDeltas results).length ∧
      ((realDeltas results).length =
          (scoreDeltas results).length ↔
        AllCompared results) := by
  induction results with
  | nil => simp [scoreDeltas, realDeltas, AllCompared]
  | cons r results ih =>
      have hCons :
          AllCompared (r :: results) ↔
            (r.replayScore.isSome = true →
              r.originalScore.isSome = true) ∧
              AllCompared results :=
        List.forall_mem_cons
      rw [hCons, ← ih.2]
      rcases deltas_cons r results with
        ⟨d, hScore, hReal, hOriginal⟩ |
          ⟨hScore, hReal, hReplay, hOriginal⟩ |
          ⟨hScore, hReal, hReplay⟩
      · simp [hScore, hReal, hOriginal, ih.1]
      · have hLess := ih.1
        simp only [hScore, hReal, hReplay, hOriginal,
          List.length_cons, Bool.false_eq_true,
          forall_const, false_and, iff_false]
        omega
      · simp [hScore, hReal, hReplay, ih.1]

end FraudStream

------------------------------------------------------------
-- Averages Of Real Deltas
------------------------------------------------------------

namespace FraudStream

theorem mean_nil : mean [] = 0 := by
  simp [mean]

/- Both summaries take the average and the maximum of the
   same deltas. -/
theorem compute_new_deltas
    (iterate : List String → List String)
    (results : List ReplayResult) :
    (ReplayComparisonSummary.new.compute iterate
          results).avgScoreDelta =
        mean (scoreDeltas results) ∧
      (ReplayComparisonSummary.new.compute iterate
          results).maxScoreDelta =
        maxAbs (scoreDeltas results) := by
  unfold ReplayComparisonSummary.compute
  split
  · rename_i hEmpty
    subst hEmpty
    exact ⟨mean_nil.symm, rfl⟩
  · constructor
    · simp only
      split
      · rename_i hDeltas
        rw [hDeltas, mean_nil]
        rfl
      · rfl
    · simp only
      split
      · rename_i hDeltas
        rw [hDeltas]
        rfl
      · rfl

theorem summaryOf_deltas
    {iterate : List String → List String}
    {results : List ReplayResult}
    {summary : ResultsSummary}
    (hSummary :
      ReplayJob.summaryOf iterate results = some summary) :
    summary.avgScoreDelta =
        roundDigits 4 (mean (scoreDeltas results)) ∧
      summary.maxScoreDelta =
        roundDigits 4 (maxAbs (scoreDeltas results)) := by
  unfold ReplayJob.summaryOf at hSummary
  split at hSummary
  · cases hSummary
  · cases hSummary
    refine ⟨?_, rfl⟩
    simp only
    split
    · rename_i hDeltas
      rw [hDeltas, mean_nil]
    · rfl

/- The two means differ only by their numbers of deltas. -/
theorem mean_scoreDeltas_eq_iff
    (results : List ReplayResult) :
    mean (scoreDeltas results) = mean (realDeltas results) ↔
      AllCompared results ∨ (realDeltas results).sum = 0 := by
  rcases length_realDeltas_le results with ⟨hLe, hEq⟩
  rw [← hEq, mean, mean, sum_scoreDeltas]
  constructor
  · intro hMean
    by_cases hSum : (realDeltas results).sum = 0
    · exact .inr hSum
    · left
      have hReal : realDeltas results ≠ [] := by
        intro hNil
        rw [hNil] at hSum
        exact hSum rfl
      have hPos := List.length_pos_iff.2 hReal
      have hRealNe :
          ((realDeltas results).length : ℚ) ≠ 0 := by
        exact_mod_cast hPos.ne'
      have hScoreNe :
          ((scoreDeltas results).length : ℚ) ≠ 0 := by
        exact_mod_cast (hPos.trans_le hLe).ne'
      rw [div_eq_div_iff hScoreNe hRealNe] at hMean
      exact_mod_cast mul_left_cancel₀ hSum hMean
  · rintro (hLength | hSum)
    · rw [hLength]
    · rw [hSum, zero_div, zero_div]

/- The summaries average the real deltas exactly when no
   result lacks its original score only, or when the real
   deltas add up to zero. -/
theorem averages_real_deltas_iff
    (iterate : List String → List String)
    (results : List ReplayResult) :
    AveragesRealDeltas iterate results ↔
      AllCompared results ∨ (realDeltas results).sum = 0 := by
  rcases compute_new_deltas iterate results with
    ⟨hAverage, hMaximum⟩
  rw [← mean_scoreDeltas_eq_iff]
  constructor
  · intro hReal
    exact hAverage.symm.trans hReal.average
  · intro hMean
    have hMax :
        IsMaxAbs (realDeltas results)
          (maxAbs (scoreDeltas results)) := by
      rw [maxAbs_scoreDeltas]
      exact isMaxAbs_maxAbs _
    refine ⟨hAverage.trans hMean, ?_, ?_⟩
    · rw [hMaximum]
      exact hMax
    · intro summary hSummary
      rcases summaryOf_deltas hSummary with ⟨hAvg, hGreatest⟩
      rw [hAvg, hMean]
      exact ⟨rfl, _, hMax, hGreatest⟩

/- A result with these scores and nothing else. -/
def ReplayResult.ofScores
    (originalScore replayScore : Option ℚ) :
    ReplayResult where
  originalDecision := none
  replayDecision := none
  originalScore := originalScore
  replayScore := replayScore
  triggeredRulesOriginal := []
  triggeredRulesReplay := []
  processingTimeMs := 0

/- A delta of one and a result without an original score
   average one half. -/
theorem missing_original_halves_average :
    ¬ AveragesRealDeltas id
      [.ofScores (some 0) (some 1),
        .ofScores none (some 1)] := by
  intro hReal
  have hAverage := hReal.average
  rw [(compute_new_deltas id _).1] at hAverage
  have hComputed :
      mean (scoreDeltas
        [.ofScores (some 0) (some 1),
          .ofScores none (some 1)]) = 1 / 2 := by
    decide +kernel
  have hMean :
      mean (realDeltas
        [.ofScores (some 0) (some 1),
          .ofScores none (some 1)]) = 1 := by
    decide +kernel
  rw [hComputed, hMean] at hAverage
  exact absurd hAverage (by decide +kernel)

end FraudStream

------------------------------------------------------------
-- What A Summary Depends On
------------------------------------------------------------

namespace FraudStream

namespace ReplayComparisonSummary

/- The same fields; dictionaries are compared by their
   contents. -/
structure Same (s t : ReplayComparisonSummary) : Prop where
  totalCompared : s.totalCompared = t.totalCompared
  decisionsChanged : s.decisionsChanged = t.decisionsChanged
  decisionChangeRate :
    s.decisionChangeRate = t.decisionChangeRate
  avgScoreDelta : s.avgScoreDelta = t.avgScoreDelta
  maxScoreDelta : s.maxScoreDelta = t.maxScoreDelta
  rulesChangedMost : s.rulesChangedMost = t.rulesChangedMost
  directionBreakdown :
    ∀ direction,
      s.directionBreakdown.get? direction =
        t.directionBreakdown.get? direction

/- The sum of the values of `direction_breakdown`. -/
def breakdownSum (s : ReplayComparisonSummary) : Int :=
  s.directionBreakdown.sumWhere (fun _ => true)

/- The summary is that of the results alone, computing it
   again changes nothing, and its counts fit together. -/
structure IsFunctionOfResults
    (iterate : List String → List String)
    (summary : ReplayComparisonSummary)
    (results : List ReplayResult) : Prop where
  fresh :
    Same (summary.compute iterate results)
      (new.compute iterate results)
  twice :
    Same
      ((summary.compute iterate results).compute iterate
        results)
      (summary.compute iterate results)
  sums :
    (∀ r ∈ results,
        r.originalDecision ≠ some "" ∧
          r.replayDecision ≠ some "") →
      (summary.compute iterate results).breakdownSum =
        (summary.compute iterate results).decisionsChanged
  bounded :
    (summary.compute iterate results).decisionsChanged ≤
      (summary.compute iterate results).totalCompared

/- Of no results, the summary is as new. Otherwise nothing is
   left in its breakdown or added to it, and its deltas are
   zero when no result has a replay score. -/
def NothingLeftOver
    (summary : ReplayComparisonSummary)
    (results : List ReplayResult) : Prop :=
  if results = [] then
    Same summary new
  else
    (∀ r ∈ results, r.direction? = none) ∧
      (∀ direction,
        summary.directionBreakdown.get? direction = none) ∧
      (scoreDeltas results = [] →
        summary.avgScoreDelta = 0 ∧ summary.maxScoreDelta = 0)

end ReplayComparisonSummary

end FraudStream

------------------------------------------------------------
-- Directions
------------------------------------------------------------

namespace FraudStream

/- A change between decisions that are not empty has a
   direction. -/
theorem ReplayResult.direction?_isSome
    {r : ReplayResult}
    (hOriginal : r.originalDecision ≠ some "")
    (hReplay : r.replayDecision ≠ some "") :
    r.direction?.isSome = r.decisionChanged := by
  unfold direction? decisionChanged
  cases hFirst : r.originalDecision with
  | none => rfl
  | some originalDecision =>
      cases hSecond : r.replayDecision with
      | none => rfl
      | some replayDecision =>
          rw [hFirst, ne_eq, Option.some.injEq] at hOriginal
          rw [hSecond, ne_eq, Option.some.injEq] at hReplay
          by_cases hSame : originalDecision = replayDecision
          · simp [hSame]
          · simp [hSame, hOriginal, hReplay]

theorem length_directions
    {results : List ReplayResult}
    (hDecisions :
      ∀ r ∈ results,
        r.originalDecision ≠ some "" ∧
          r.replayDecision ≠ some "") :
    ((results.filterMap ReplayResult.direction?).length :
        Int) =
      changedCount results := by
  rw [List.length_filterMap_eq_countP, changedCount]
  congr 1
  apply List.countP_congr
  intro r hMem
  rw [ReplayResult.direction?_isSome (hDecisions r hMem).1
    (hDecisions r hMem).2]

theorem changedCount_le (results : List ReplayResult) :
    changedCount results ≤ results.length := by
  rw [changedCount]
  exact_mod_cast List.countP_le_length

end FraudStream

------------------------------------------------------------
-- Leftover State
------------------------------------------------------------

namespace FraudStream

namespace ReplayComparisonSummary

variable {iterate : List String → List String}
variable {summary : ReplayComparisonSummary}
variable {results : List ReplayResult}

theorem compute_nil :
    summary.compute iterate [] = summary := rfl

/- The breakdown goes on from the one before. -/
theorem directionBreakdown_compute
    (hResults : results ≠ []) :
    (summary.compute iterate results).directionBreakdown =
      summary.directionBreakdown.tally
        (results.filterMap ReplayResult.direction?) := by
  rw [compute, if_neg hResults]

theorem decisionsChanged_compute
    (hResults : results ≠ []) :
    (summary.compute iterate results).decisionsChanged =
      changedCount results := by
  rw [compute, if_neg hResults]

/- Two summaries of the same results differ by what was left
   in their breakdowns and deltas. -/
theorem same_compute_iff
    {other : ReplayComparisonSummary}
    (hResults : results ≠ []) :
    Same (summary.compute iterate results)
        (other.compute iterate results) ↔
      (∀ direction,
        (summary.directionBreakdown.tally
            (results.filterMap
              ReplayResult.direction?)).get? direction =
          (other.directionBreakdown.tally
            (results.filterMap
              ReplayResult.direction?)).get? direction) ∧
        (scoreDeltas results = [] →
          summary.avgScoreDelta = other.avgScoreDelta ∧
            summary.maxScoreDelta = other.maxScoreDelta) := by
  constructor
  · intro hSame
    refine ⟨?_, ?_⟩
    · have hBreakdown := hSame.directionBreakdown
      rwa [directionBreakdown_compute hResults,
        directionBreakdown_compute hResults] at hBreakdown
    · intro hDeltas
      have hAvg := hSame.avgScoreDelta
      have hMax := hSame.maxScoreDelta
      simp only [compute, hResults, hDeltas, if_true,
        if_false] at hAvg hMax
      exact ⟨hAvg, hMax⟩
  · rintro ⟨hBreakdown, hDeltas⟩
    simp only [compute, hResults, if_false]
    refine ⟨rfl, rfl, rfl, ?_, ?_, rfl, hBreakdown⟩
    · simp only
      split
      · rename_i hNone
        exact (hDeltas hNone).1
      · rfl
    · simp only
      split
      · rename_i hNone
        exact (hDeltas hNone).2
      · rfl

/- Computing the summary again doubles its directions. -/
theorem same_compute_twice_iff
    (hResults : results ≠ []) :
    Same
        ((summary.compute iterate results).compute iterate
          results)
        (summary.compute iterate results) ↔
      ∀ r ∈ results, r.direction? = none := by
  rw [same_compute_iff hResults,
    directionBreakdown_compute hResults]
  constructor
  · rintro ⟨hBreakdown, _⟩ r hMem
    by_contra hDirection
    rcases Option.ne_none_iff_exists'.1 hDirection with
      ⟨direction, hDirection⟩
    have hChanged :
        direction ∈
          results.filterMap ReplayResult.direction? :=
      List.mem_filterMap.2 ⟨r, hMem, hDirection⟩
    have hPos := List.count_pos_iff.2 hChanged
    have hTwice := hBreakdown direction
    rw [Dict.get?_tally, Dict.get?_tally, if_pos hChanged,
      if_pos hChanged, Option.some.injEq,
      Option.getD_some] at hTwice
    omega
  · intro hNone
    rw [List.filterMap_eq_nil_iff.2 hNone]
    refine ⟨fun _ => rfl, ?_⟩
    intro hDeltas
    simp [compute, hResults, hDeltas]

/- After a computation every field depends on the results
   only, and the counts fit, exactly when nothing is left
   over. -/
theorem isFunctionOfResults_iff
    (iterate : List String → List String)
    (summary : ReplayComparisonSummary)
    (results : List ReplayResult) :
    IsFunctionOfResults iterate summary results ↔
      NothingLeftOver summary results := by
  unfold NothingLeftOver
  split
  · rename_i hResults
    subst hResults
    constructor
    · intro hFunction
      have hFresh := hFunction.fresh
      rwa [compute_nil, compute_nil] at hFresh
    · intro hSame
      have hSum : summary.breakdownSum = 0 := by
        rw [breakdownSum,
          Dict.eq_empty_of_get? hSame.directionBreakdown]
        rfl
      refine ⟨hSame, ⟨rfl, rfl, rfl, rfl, rfl, rfl,
        fun _ => rfl⟩, ?_, ?_⟩
      · intro _
        rw [compute_nil, hSum]
        exact hSame.decisionsChanged.symm
      · rw [compute_nil, hSame.decisionsChanged,
          hSame.totalCompared]
        exact le_refl _
  · rename_i hResults
    constructor
    · intro hFunction
      have hNone :=
        (same_compute_twice_iff hResults).1 hFunction.twice
      have hFresh :=
        (same_compute_iff hResults).1 hFunction.fresh
      rw [List.filterMap_eq_nil_iff.2 hNone] at hFresh
      exact ⟨hNone, hFresh.1, hFresh.2⟩
    · rintro ⟨hNone, hBreakdown, hDeltas⟩
      have hNoDirection :=
        List.filterMap_eq_nil_iff.2 hNone
      refine
        ⟨?_, (same_compute_twice_iff hResults).2 hNone,
          ?_, ?_⟩
      · rw [same_compute_iff hResults, hNoDirection]
        exact ⟨hBreakdown, hDeltas⟩
      · intro hDecisions
        have hCount := length_directions hDecisions
        rw [hNoDirection] at hCount
        rw [breakdownSum, directionBreakdown_compute hResults,
          decisionsChanged_compute hResults, hNoDirection,
          ← hCount, Dict.eq_empty_of_get? hBreakdown]
        rfl
      · rw [decisionsChanged_compute hResults, compute,
          if_neg hResults]
        exact changedCount_le results

/- A result whose decision changed. -/
def flipped : ReplayResult where
  originalDecision := some "ALLOW"
  replayDecision := some "BLOCK"
  originalScore := none
  replayScore := none
  triggeredRulesOriginal := []
  triggeredRulesReplay := []
  processingTimeMs := 0

/- The second computation counts its direction twice. -/
theorem second_computation_adds_up :
    ¬ IsFunctionOfResults id new [flipped] := by
  intro hFunction
  have hTwice :=
    hFunction.twice.directionBreakdown "ALLOW_to_BLOCK"
  exact absurd hTwice (by decide)

end ReplayComparisonSummary

end FraudStream
