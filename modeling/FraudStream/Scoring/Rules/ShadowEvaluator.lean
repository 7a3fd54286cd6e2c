import FraudStream.Scoring.Rules.Counters

/-
  The evaluator of the shadow rules alone.

  It keeps the enabled shadow rules and counts as the
  evaluator of all rules does while its loop runs. When no
  rule matched it counts a false positive for every kept
  rule that is not among the matches.

  Key definitions include:
    * `ShadowRuleEvaluator.keptRules`
    * `ShadowRuleEvaluator.dispatch`

  Main results:
    * `ShadowRuleEvaluator.evaluateRules_toEvaluator`
    * `ShadowRuleEvaluator.metrics_dispatch_of_isOk`
    * `ShadowRuleEvaluator.metrics_dispatch_of_raises`
-/

------------------------------------------------------------
-- The Evaluator
------------------------------------------------------------

namespace FraudStream

namespace ShadowRuleEvaluator

/- The lists that the loop fills. -/
structure LoopState where
  shadowMatched : List String
  triggeredSeverities : List Severity
  metrics : List Metric

def LoopState.start : LoopState where
  shadowMatched := []
  triggeredSeverities := []
  metrics := []

/- Count the evaluation of a rule. -/
def LoopState.evaluated
    (s : LoopState)
    (rule : RuleDefinition) : LoopState :=
  { s with
    metrics := s.metrics ++
      [.ruleEvaluations rule.ruleId rule.family.value] }

/- Record a rule that matched. -/
def LoopState.matched
    (s : LoopState)
    (rule : RuleDefinition) : LoopState where
  shadowMatched := s.shadowMatched ++ [rule.ruleId]
  triggeredSeverities :=
    s.triggeredSeverities ++ [rule.severity]
  metrics := s.metrics ++ [.shadowTriggers rule.ruleId]

/- Evaluate rules in order until one raises. -/
def evaluateRules
    (txn : Record) :
    List RuleDefinition → LoopState →
      LoopState × Option PyError
| [], s => (s, none)
| rule :: rules, s =>
    match rule.evaluate txn with
    | .error e => (s.evaluated rule, some e)
    | .ok true =>
        evaluateRules txn rules
          ((s.evaluated rule).matched rule)
    | .ok false => evaluateRules txn rules (s.evaluated rule)

/- The result of a loop that ended. The ids have no
   suffix. -/
def resultOf
    (s : LoopState)
    (evaluationTimestamp : Int) : EvaluationResult where
  determination :=
    if s.shadowMatched = [] then .clean else .suspicious
  matchedRules := s.shadowMatched
  highestSeverity :=
    RuleEvaluator.maxSeverity s.triggeredSeverities
  evaluationTimestamp := evaluationTimestamp
  missingFields := []

/- The false positives counted on a clean record: one for
   every kept rule that is not among the matches. -/
def shadowFalsePositives
    (rules : List RuleDefinition)
    (s : LoopState) : List Metric :=
  if s.shadowMatched = [] then
    (rules.filter (·.ruleId ∉ s.shadowMatched)).map
      (fun rule => .shadowFalsePositives rule.ruleId)
  else
    []

/- The rules that the evaluator keeps. -/
def keptRules
    (rules : List RuleDefinition) : List RuleDefinition :=
  rules.filter
    (fun rule => rule.enabled ∧ rule.mode = .shadow)

/- The result and the counter increments of a record. -/
def dispatch
    (rules : List RuleDefinition)
    (evaluationTimestamp : Int)
    (txn : Record) :
    Except PyError EvaluationResult × List Metric :=
  match evaluateRules txn (keptRules rules) .start with
  | (s, some e) => (.error e, s.metrics)
  | (s, none) =>
      (.ok (resultOf s evaluationTimestamp),
        s.metrics ++ shadowFalsePositives (keptRules rules) s)

end ShadowRuleEvaluator

end FraudStream

------------------------------------------------------------
-- The Two Loops
------------------------------------------------------------

namespace FraudStream

namespace ShadowRuleEvaluator

variable (txn : Record)

/- The state of the loop over all rules that has filled the
   same lists. Its severities are those of active rules. -/
def LoopState.toEvaluator
    (s : LoopState) : RuleEvaluator.LoopState where
  activeMatched := []
  shadowMatched := s.shadowMatched
  triggeredSeverities := []
  metrics := s.metrics

theorem LoopState.toEvaluator_matched
    (s : LoopState)
    {rule : RuleDefinition}
    (hMode : rule.mode = .shadow) :
    (s.matched rule).toEvaluator =
      s.toEvaluator.matched rule := by
  simp only [RuleEvaluator.LoopState.matched, hMode]
  rfl

/- On shadow rules the two loops run in step. -/
theorem evaluateRules_toEvaluator
    {rules : List RuleDefinition}
    (hModes : ∀ rule ∈ rules, rule.mode = .shadow)
    (s : LoopState) :
    RuleEvaluator.evaluateRules txn rules s.toEvaluator =
      ((evaluateRules txn rules s).1.toEvaluator,
        (evaluateRules txn rules s).2) := by
  induction rules generalizing s with
  | nil => rfl
  | cons rule rules ih =>
      rcases List.forall_mem_cons.1 hModes with
        ⟨hMode, hRest⟩
      have hEvaluated :
          s.toEvaluator.evaluated rule =
            (s.evaluated rule).toEvaluator := rfl
      cases hRule : rule.evaluate txn with
      | error e =>
          simp only [RuleEvaluator.evaluateRules,
            evaluateRules, hRule, hEvaluated]
      | ok b =>
          cases b with
          | true =>
              simp only [RuleEvaluator.evaluateRules,
                evaluateRules, hRule, hEvaluated]
              rw [← LoopState.toEvaluator_matched _ hMode]
              exact ih hRest _
          | false =>
              simp only [RuleEvaluator.evaluateRules,
                evaluateRules, hRule, hEvaluated]
              exact ih hRest _

theorem mem_keptRules_iff
    (rules : List RuleDefinition)
    (rule : RuleDefinition) :
    rule ∈ keptRules rules ↔
      rule ∈ rules ∧ rule.enabled ∧ rule.mode = .shadow := by
  simp [keptRules]

theorem evaluateRules_keptRules
    (rules : List RuleDefinition) :
    RuleEvaluator.evaluateRules txn (keptRules rules)
        .start =
      ((evaluateRules txn (keptRules rules)
            .start).1.toEvaluator,
        (evaluateRules txn (keptRules rules) .start).2) := by
  apply evaluateRules_toEvaluator txn _ LoopState.start
  intro rule hMem
  exact ((mem_keptRules_iff rules rule).1 hMem).2.2

end ShadowRuleEvaluator

end FraudStream

------------------------------------------------------------
-- One Dispatch
------------------------------------------------------------

namespace FraudStream

namespace ShadowRuleEvaluator

open RuleEvaluator
  (NoneRaises evaluatedRules ruleMetrics)

variable
  (rules : List RuleDefinition)
  (evaluationTimestamp : Int)
  (txn : Record)

/- A false positive for every rule of a list. -/
def falsePositivesOf
    (rules : List RuleDefinition) : List Metric :=
  rules.map (fun rule => .shadowFalsePositives rule.ruleId)

theorem shadowFalsePositives_eq
    (s : LoopState) :
    shadowFalsePositives rules s =
      if s.shadowMatched = [] then
        falsePositivesOf rules
      else
        [] := by
  unfold shadowFalsePositives
  split
  · rename_i hNone
    simp [hNone, falsePositivesOf]
  · rfl

/- The loop leaves what the evaluated rules leave, and ends
   unless one of them raises. -/
theorem loop_spec :
    ((evaluateRules txn (keptRules rules)
            .start).1.shadowMatched =
          (shadowMatches txn
            (evaluatedRules txn (keptRules rules))).map
              (·.ruleId) ∧
        (evaluateRules txn (keptRules rules)
            .start).1.metrics =
          (evaluatedRules txn (keptRules rules)).flatMap
            (ruleMetrics txn)) ∧
      ((evaluateRules txn (keptRules rules) .start).2 =
          none ↔
        NoneRaises txn (keptRules rules)) := by
  have hEnds :=
    RuleEvaluator.evaluateRules_isOk_iff txn
      (keptRules rules) .start
  have hState :=
    RuleEvaluator.evaluateRules_fst txn (keptRules rules)
      .start
  rw [evaluateRules_keptRules txn rules] at hEnds hState
  have hMatched := congrArg (·.shadowMatched) hState
  have hMetrics := congrArg (·.metrics) hState
  exact ⟨⟨hMatched, hMetrics⟩, hEnds⟩

/- Without an exception every kept rule is counted, and all
   of them once more if none matched. -/
theorem metrics_dispatch_of_isOk
    (hOk : NoneRaises txn (keptRules rules)) :
    (dispatch rules evaluationTimestamp txn).2 =
      (keptRules rules).flatMap (ruleMetrics txn) ++
        if shadowMatches txn (keptRules rules) = [] then
          falsePositivesOf (keptRules rules)
        else
          [] := by
  rcases loop_spec rules txn with
    ⟨⟨hMatched, hMetrics⟩, hEnds⟩
  rw [RuleEvaluator.evaluatedRules_of_noneRaises txn hOk]
    at hMatched hMetrics
  have hNone := hEnds.2 hOk
  unfold dispatch
  rcases hEnd :
    evaluateRules txn (keptRules rules) .start with ⟨s, e⟩
  rw [hEnd] at hMatched hMetrics hNone
  cases hNone
  simp only at hMatched hMetrics
  simp [shadowFalsePositives_eq, hMatched, hMetrics]

/- A rule that raises ends the counting. -/
theorem metrics_dispatch_of_raises
    (hRaises : ¬ NoneRaises txn (keptRules rules)) :
    (dispatch rules evaluationTimestamp txn).2 =
      (evaluatedRules txn (keptRules rules)).flatMap
        (ruleMetrics txn) := by
  rcases loop_spec rules txn with ⟨⟨-, hMetrics⟩, hEnds⟩
  have hRaised := hEnds.not.2 hRaises
  unfold dispatch
  rcases hEnd :
    evaluateRules txn (keptRules rules) .start with ⟨s, e⟩
  rw [hEnd] at hMetrics hRaised
  cases e with
  | none => exact absurd rfl hRaised
  | some e => exact hMetrics

end ShadowRuleEvaluator

end FraudStream
