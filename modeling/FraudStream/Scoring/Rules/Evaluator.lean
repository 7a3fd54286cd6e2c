import FraudStream.Scoring.Rules.Families

/-
  The dispatch loop of the rule evaluator.

  The enabled rules are evaluated in order. Matching active
  rules decide the determination and the severity; matching
  shadow rules are only reported. A rule that raises ends
  the loop. The counters incremented on the way are kept as
  a log; spans and the log message are left out.

  Key definitions include:
    * `Metric`
    * `RuleEvaluator.LoopState`
    * `RuleEvaluator.evaluateRules`
    * `EvaluationResult`
    * `RuleEvaluator.dispatch`
-/

namespace FraudStream

/- One increment of a scoring counter. -/
inductive Metric where
| ruleEvaluations : (ruleId family : String) → Metric
| ruleFlags : (ruleId family severity : String) → Metric
| ruleTriggers : (ruleId : String) → Metric
| shadowTriggers : (ruleId : String) → Metric
| shadowFalsePositives : (ruleId : String) → Metric
| evaluationErrors : Metric
deriving DecidableEq, Repr

inductive Determination where
| clean
| suspicious
deriving DecidableEq, Repr

structure EvaluationResult where
  determination : Determination
  matchedRules : List String
  highestSeverity : Option Severity
  evaluationTimestamp : Int
  missingFields : List String
deriving DecidableEq

namespace RuleEvaluator

/- The lists that the loop fills. -/
structure LoopState where
  activeMatched : List String
  shadowMatched : List String
  triggeredSeverities : List Severity
  metrics : List Metric

def LoopState.start : LoopState where
  activeMatched := []
  shadowMatched := []
  triggeredSeverities := []
  metrics := []

/- Count the evaluation of a rule. -/
def LoopState.evaluated
    (s : LoopState)
    (rule : RuleDefinition) : LoopState :=
  { s with
    metrics := s.metrics ++
      [.ruleEvaluations rule.ruleId rule.family.value] }

/- Record a rule that matched. -/
def LoopState.matched
    (s : LoopState)
    (rule : RuleDefinition) : LoopState :=
  match rule.mode with
  | .shadow =>
      { s with
        shadowMatched := s.shadowMatched ++ [rule.ruleId]
        metrics := s.metrics ++
          [.shadowTriggers rule.ruleId] }
  | .active =>
      { s with
        activeMatched := s.activeMatched ++ [rule.ruleId]
        triggeredSeverities :=
          s.triggeredSeverities ++ [rule.severity]
        metrics := s.metrics ++
          [.ruleFlags rule.ruleId rule.family.value
              rule.severity.name,
            .ruleTriggers rule.ruleId] }

/- Evaluate rules in order until one raises. -/
def evaluateRules
    (txn : Record) :
    List RuleDefinition → LoopState →
      LoopState × Option PyError
| [], s => (s, none)
| rule :: rules, s =>
    match rule.evaluate txn with
    | .error e => (s.evaluated rule, some e)
    | .ok true =>
        evaluateRules txn rules
          ((s.evaluated rule).matched rule)
    | .ok false => evaluateRules txn rules (s.evaluated rule)

/- `max` of a list of severities, if there is one. -/
def maxSeverity : List Severity → Option Severity
| [] => none
| s :: ss =>
    some (ss.foldl
      (fun m x => if m.value < x.value then x else m) s)

/- The result of a loop that ended. -/
def resultOf
    (s : LoopState)
    (evaluationTimestamp : Int) : EvaluationResult where
  determination :=
    if s.activeMatched = [] then .clean else .suspicious
  matchedRules :=
    s.activeMatched ++ s.shadowMatched.map (· ++ ":shadow")
  highestSeverity := maxSeverity s.triggeredSeverities
  evaluationTimestamp := evaluationTimestamp
  missingFields := []

/- The false positives of shadow rules on a clean record. -/
def shadowFalsePositives (s : LoopState) : List Metric :=
  if s.activeMatched = [] then
    s.shadowMatched.map Metric.shadowFalsePositives
  else
    []

/- The rules that the evaluator keeps. -/
def keptRules
    (rules : List RuleDefinition) : List RuleDefinition :=
  rules.filter (·.enabled)

/- The result and the counter increments of a record. -/
def dispatch
    (rules : List RuleDefinition)
    (evaluationTimestamp : Int)
    (txn : Record) :
    Except PyError EvaluationResult × List Metric :=
  match evaluateRules txn (keptRules rules) .start with
  | (s, some e) => (.error e, s.metrics)
  | (s, none) =>
      (.ok (resultOf s evaluationTimestamp),
        s.metrics ++ shadowFalsePositives s)

end RuleEvaluator

end FraudStream
