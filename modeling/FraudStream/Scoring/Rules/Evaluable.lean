import FraudStream.Processing.Job.Clock
import FraudStream.Scoring.Rules.Evaluator
import FraudStream.Scoring.Rules.Loader

/-
  When a rule can be evaluated on a record.

  The loader does not look into the conditions of a rule, so
  a family function may be given a threshold that cannot be
  ordered against the value it is compared with. This module
  gives the exact condition under which no exception is
  raised.

  Main declarations:
    * `RuleDefinition.Evaluable`
    * `RuleEvaluator.evaluateRules_isOk_iff`
    * `Job.evaluate_isOk_iff`
    * `Job.accepted_rules_evaluable`
-/

------------------------------------------------------------
-- Thresholds
------------------------------------------------------------

namespace FraudStream

/- The amount converts to a decimal, and the value can be
   ordered against it. -/
def AmountOrderable
    (value : Scalar)
    (amount : PyVal) : Prop :=
  match amount.toDecimal with
  | .ok d => Scalar.Orderable value (.decimal d)
  | .error _ => False

instance
    (value : Scalar)
    (amount : PyVal) :
    Decidable (AmountOrderable value amount) := by
  unfold AmountOrderable
  split <;> infer_instance

theorem exceedsAmount_isOk_iff
    (value : Scalar)
    (amount : PyVal) :
    (∃ b, exceedsAmount value amount = .ok b) ↔
      AmountOrderable value amount := by
  unfold exceedsAmount AmountOrderable
  cases amount.toDecimal with
  | ok d => exact Scalar.order_isOk_iff .gt value (.decimal d)
  | error e => simp

/- The threshold of a velocity rule can be compared: the
   count if there is one, else the amount. -/
def ThresholdOrderable
    (value : Scalar)
    (conditions : Conditions) : Prop :=
  match conditions.get? "count", conditions.get? "amount" with
  | some count, _ => PyVal.Orderable value count
  | none, some amount => AmountOrderable value amount
  | none, none => True

instance
    (value : Scalar)
    (conditions : Conditions) :
    Decidable (ThresholdOrderable value conditions) := by
  unfold ThresholdOrderable
  split <;> infer_instance

theorem exceedsThreshold_isOk_iff
    (value : Scalar)
    (conditions : Conditions) :
    (∃ b, exceedsThreshold value conditions = .ok b) ↔
      ThresholdOrderable value conditions := by
  unfold exceedsThreshold ThresholdOrderable
  cases conditions.get? "count" with
  | some count => exact PyVal.order_isOk_iff .gt value count
  | none =>
      cases conditions.get? "amount" with
      | some amount => exact exceedsAmount_isOk_iff value amount
      | none => simp

end FraudStream

------------------------------------------------------------
-- Families
------------------------------------------------------------

namespace FraudStream

/- No field is named, or a hashable one whose value is null
   or can be compared. -/
def VelocityEvaluable
    (txn : Record)
    (conditions : Conditions) : Prop :=
  let field := conditions.get "field"
  field.isNone ∨
    (field.hashable ∧
      (txn.named field = .none ∨
        ThresholdOrderable (txn.named field) conditions))

instance
    (txn : Record)
    (conditions : Conditions) :
    Decidable (VelocityEvaluable txn conditions) := by
  unfold VelocityEvaluable
  infer_instance

theorem evaluateVelocity_isOk_iff
    (txn : Record)
    (conditions : Conditions) :
    (∃ b, evaluateVelocity txn conditions = .ok b) ↔
      VelocityEvaluable txn conditions := by
  unfold evaluateVelocity VelocityEvaluable Record.getValue
  dsimp only
  generalize conditions.get "field" = field
  cases field.isNone with
  | true => simp
  | false =>
      cases field.hashable with
      | false => simp
      | true =>
          simp only [Bool.false_eq_true, if_false, if_true,
            false_or, true_and]
          cases txn.named field with
          | none => simp
          | bool b => simpa using exceedsThreshold_isOk_iff _ _
          | int n => simpa using exceedsThreshold_isOk_iff _ _
          | float f => simpa using exceedsThreshold_isOk_iff _ _
          | decimal d =>
              simpa using exceedsThreshold_isOk_iff _ _
          | str v => simpa using exceedsThreshold_isOk_iff _ _

/- No amount is given, or the device is not new, or the
   amount of the transaction can be compared with it. -/
def NewDeviceEvaluable
    (txn : Record)
    (conditions : Conditions) : Prop :=
  conditions.contains "amount" = false ∨
    (txn.get "device_is_new").truthy = false ∨
    txn.get "txn_amount" = .none ∨
    AmountOrderable (txn.get "txn_amount")
      (conditions.get "amount")

instance
    (txn : Record)
    (conditions : Conditions) :
    Decidable (NewDeviceEvaluable txn conditions) := by
  unfold NewDeviceEvaluable
  infer_instance

theorem evaluateNd001_isOk_iff
    (txn : Record)
    (conditions : Conditions) :
    (∃ b, evaluateNd001 txn conditions = .ok b) ↔
      (txn.get "device_is_new").truthy = false ∨
        txn.get "txn_amount" = .none ∨
        AmountOrderable (txn.get "txn_amount")
          (conditions.get "amount") := by
  unfold evaluateNd001
  cases (txn.get "device_is_new").truthy with
  | false => simp
  | true =>
      by_cases hAmount : txn.get "txn_amount" = .none
      · simp [hAmount]
      · simp only [Bool.not_true, Bool.false_eq_true,
          if_false, hAmount, false_or, reduceCtorEq]
        exact exceedsAmount_isOk_iff _ _

/- A record without the count of a day never meets the
   condition on it. -/
theorem evaluateNd002_of_absent
    {txn : Record}
    (conditions : Conditions)
    (hAbsent : txn.get "device_count_24h" = .none) :
    evaluateNd002 txn conditions = .ok false := by
  simp [evaluateNd002, hAbsent]

/- Any value can be tested for equality. -/
theorem evaluateNd004_isOk
    (txn : Record)
    (conditions : Conditions) :
    ∃ b, evaluateNd004 txn conditions = .ok b := by
  unfold evaluateNd004
  simp only
  split_ifs
  · exact ⟨false, rfl⟩
  · exact ⟨false, rfl⟩
  · exact ⟨_, rfl⟩

theorem evaluateNewDevice_isOk_iff
    {txn : Record}
    (conditions : Conditions)
    (hAbsent : txn.get "device_count_24h" = .none) :
    (∃ b, evaluateNewDevice txn conditions = .ok b) ↔
      NewDeviceEvaluable txn conditions := by
  unfold evaluateNewDevice NewDeviceEvaluable
  cases conditions.contains "amount" with
  | true =>
      simpa using evaluateNd001_isOk_iff txn conditions
  | false =>
      simp only [Bool.false_eq_true, if_false, true_or,
        iff_true]
      by_cases hCount : conditions.contains "device_count"
      · rw [if_pos hCount]
        exact ⟨false,
          evaluateNd002_of_absent conditions hAbsent⟩
      · rw [if_neg hCount]
        by_cases hClass : conditions.contains "network_class"
        · rw [if_pos hClass]
          exact evaluateNd004_isOk txn conditions
        · rw [if_neg hClass]
          exact ⟨_, rfl⟩

/- A record without its own time is never too far away. -/
theorem evaluateImpossibleTravel_of_absent
    {txn : Record}
    (conditions : Conditions)
    (hAbsent : txn.get "txn_time_ms" = .none) :
    evaluateImpossibleTravel txn conditions = .ok false := by
  simp [evaluateImpossibleTravel, hAbsent]

/- A rule can be evaluated on a record: the comparison that
   its conditions ask for is one between values that can be
   ordered. -/
def RuleDefinition.Evaluable
    (rule : RuleDefinition)
    (txn : Record) : Prop :=
  match rule.family with
  | .velocity => VelocityEvaluable txn rule.conditions
  | .impossibleTravel => True
  | .newDevice => NewDeviceEvaluable txn rule.conditions

instance
    (rule : RuleDefinition)
    (txn : Record) :
    Decidable (rule.Evaluable txn) := by
  unfold RuleDefinition.Evaluable
  split <;> infer_instance

end FraudStream

------------------------------------------------------------
-- The Loop
------------------------------------------------------------

namespace FraudStream

namespace RuleEvaluator

/- The loop ends without an exception exactly when no rule
   raises one. -/
theorem evaluateRules_isOk_iff
    (txn : Record)
    (rules : List RuleDefinition)
    (s : LoopState) :
    (evaluateRules txn rules s).2 = none ↔
      ∀ rule ∈ rules, ∃ b, rule.evaluate txn = .ok b := by
  induction rules generalizing s with
  | nil => simp [evaluateRules]
  | cons rule rules ih =>
      simp only [List.forall_mem_cons, evaluateRules]
      cases hRule : rule.evaluate txn with
      | error e => simp
      | ok b =>
          cases b with
          | true => simp [ih]
          | false => simp [ih]

/- Every enabled rule is kept. -/
theorem keptRules_of_enabled
    {rules : List RuleDefinition}
    (hEnabled : ∀ rule ∈ rules, rule.enabled) :
    keptRules rules = rules :=
  List.filter_eq_self.2 hEnabled

/- A record gets a result exactly when no kept rule raises
   an exception on it. -/
theorem dispatch_isOk_iff
    (rules : List RuleDefinition)
    (evaluationTimestamp : Int)
    (txn : Record) :
    (∃ result,
        (dispatch rules evaluationTimestamp txn).1 =
          .ok result) ↔
      ∀ rule ∈ keptRules rules,
        ∃ b, rule.evaluate txn = .ok b := by
  rw [← evaluateRules_isOk_iff txn _ .start]
  unfold dispatch
  rcases evaluateRules txn (keptRules rules) .start with
    ⟨s, e⟩
  cases e with
  | none => simp
  | some e => simp

end RuleEvaluator

end FraudStream

------------------------------------------------------------
-- Produced Records
------------------------------------------------------------

namespace FraudStream

namespace Job

/- The fields that no produced record has read as null. -/
theorem get_absent_of_produced
    {config : JobConfig}
    {record : Record}
    (hProduced : Produced config record) :
    record.get "txn_time_ms" = .none ∧
      record.get "device_count_24h" = .none := by
  rcases hProduced with ⟨inputs, t, d, time, hMem, rfl⟩
  have hAbsent := get?_assemble_absent time d
  simp [Record.get, hAbsent]

/- Evaluating a rule on a produced record returns a truth
   value exactly when its values can be compared. -/
theorem evaluate_isOk_iff
    {config : JobConfig}
    {record : Record}
    (hProduced : Produced config record)
    (rule : RuleDefinition) :
    (∃ b, rule.evaluate record = .ok b) ↔
      rule.Evaluable record := by
  have hAbsent := get_absent_of_produced hProduced
  unfold RuleDefinition.evaluate RuleDefinition.Evaluable
  cases rule.family with
  | velocity => exact evaluateVelocity_isOk_iff _ _
  | impossibleTravel =>
      simp only [iff_true]
      exact
        ⟨false,
          evaluateImpossibleTravel_of_absent _ hAbsent.1⟩
  | newDevice =>
      exact evaluateNewDevice_isOk_iff _ hAbsent.2

/- An accepted rule can be evaluated on a produced record,
   and a record gets a result from accepted rules, exactly
   when the rules' values can be compared. -/
theorem accepted_rules_evaluable
    {config : JobConfig}
    {record : Record}
    {rules : List RuleDefinition}
    (hProduced : Produced config record)
    (hLoaded : LoaderAccepts rules) :
    (∀ rule ∈ rules,
        (∃ b, rule.evaluate record = .ok b) ↔
          rule.Evaluable record) ∧
      ∀ evaluationTimestamp,
        (∃ result,
            (RuleEvaluator.dispatch rules
              evaluationTimestamp record).1 = .ok result) ↔
          ∀ rule ∈ rules, rule.Evaluable record := by
  constructor
  · intro rule hRule
    exact evaluate_isOk_iff hProduced rule
  · intro evaluationTimestamp
    have hKept :=
      RuleEvaluator.keptRules_of_enabled
        (enabled_of_loaderAccepts hLoaded)
    rw [RuleEvaluator.dispatch_isOk_iff, hKept]
    apply forall₂_congr
    intro rule hRule
    exact evaluate_isOk_iff hProduced rule

end Job

end FraudStream

------------------------------------------------------------
-- A Count Written As A String
------------------------------------------------------------

namespace FraudStream

/- The entry of a rule on the count of the last minute. -/
def countEntry
    (ruleId : String)
    (mode : RuleMode)
    (count : Scalar) : PyVal :=
  .dict
    [(.scalar (.str "rule_id"), .scalar (.str ruleId)),
      (.scalar (.str "name"), .scalar (.str "High count")),
      (.scalar (.str "family"), .scalar (.str "velocity")),
      (.scalar (.str "conditions"),
        .dict
          [(.scalar (.str "field"),
              .scalar (.str "vel_count_1m")),
            (.scalar (.str "count"), .scalar count)]),
      (.scalar (.str "severity"), .scalar (.str "high")),
      (.scalar (.str "enabled"), .scalar (.bool true)),
      (.scalar (.str "mode"), .scalar (.str mode.value))]

def countRule
    (ruleId : String)
    (mode : RuleMode)
    (count : Scalar) : RuleDefinition where
  ruleId := ruleId
  name := "High count"
  family := .velocity
  conditions :=
    .ofList
      [("field", .scalar (.str "vel_count_1m")),
        ("count", .scalar count)]
  severity := .high
  enabled := true
  mode := mode

/- The validator does not look at the count. -/
theorem modelValidate_countEntry
    {ruleId : String}
    (mode : RuleMode)
    (count : Scalar)
    (hId : RuleDefinition.ruleIdMatches ruleId) :
    RuleDefinition.modelValidate
        (countEntry ruleId mode count) =
      .ok (countRule ruleId mode count) := by
  cases mode <;>
    simp [RuleDefinition.modelValidate, countEntry,
      RuleDefinition.convertField,
      RuleDefinition.lookupField, PyVal.isString,
      RuleDefinition.validateRuleId, hId,
      RuleDefinition.laxString, RuleDefinition.enumMember,
      RuleFamily.all, RuleFamily.value,
      RuleDefinition.laxConditions,
      RuleDefinition.coerceSeverity, Severity.all,
      Severity.name, RuleDefinition.laxBool,
      RuleDefinition.convertMode, RuleMode.value,
      RuleMode.all, RuleDefinition.extraFields,
      RuleDefinition.fieldNames, RuleDefinition.problemOf,
      countRule]

/- The rule and the entry of an id, a mode and a count. -/
def countRuleOf
    (spec : String × RuleMode × Scalar) : RuleDefinition :=
  countRule spec.1 spec.2.1 spec.2.2

def countEntryOf
    (spec : String × RuleMode × Scalar) : PyVal :=
  countEntry spec.1 spec.2.1 spec.2.2

theorem validateFrom_countEntries
    (specs : List (String × RuleMode × Scalar))
    (hIds :
      ∀ spec ∈ specs,
        RuleDefinition.ruleIdMatches spec.1)
    (index : Nat) :
    RuleLoader.validateFrom index (specs.map countEntryOf) =
      .ok (specs.map countRuleOf) := by
  induction specs generalizing index with
  | nil => rfl
  | cons spec specs ih =>
      rcases List.forall_mem_cons.1 hIds with
        ⟨hHead, hTail⟩
      simp [RuleLoader.validateFrom, ih hTail, countEntryOf,
        countRuleOf, modelValidate_countEntry _ _ hHead]

/- Rules on the count come out of a file. -/
theorem loaderAccepts_countRules
    (specs : List (String × RuleMode × Scalar))
    (hIds :
      ∀ spec ∈ specs,
        RuleDefinition.ruleIdMatches spec.1) :
    LoaderAccepts (specs.map countRuleOf) := by
  have hEnabled :
      (specs.map countRuleOf).filter (·.enabled) =
        specs.map countRuleOf := by
    apply List.filter_eq_self.2
    intro rule hRule
    rcases List.mem_map.1 hRule with ⟨spec, -, rfl⟩
    rfl
  apply (loaderAccepts_iff _).2
  refine ⟨.list (specs.map countEntryOf), ?_⟩
  simp only [RuleLoader.loadDocument,
    validateFrom_countEntries specs hIds, hEnabled]

/- A condition of the rule is looked up by name. -/
theorem get?_conditions_countRule
    (ruleId : String)
    (mode : RuleMode)
    (count : Scalar)
    (name : String) :
    (countRule ruleId mode count).conditions.get? name =
      Dict.lookupEntries name
        [("field", .scalar (.str "vel_count_1m")),
          ("count", .scalar count)] := by
  apply Dict.get?_ofList
  simp

namespace Job

theorem get_vel_count_1m_sampleRecord :
    sampleRecord.get "vel_count_1m" = .int 1 := by
  simp [Record.get, sampleRecord, get?_assemble,
    recordEntries, Dict.lookupEntries, velocityCount,
    sampleEnriched]

theorem evaluate_countRule
    (ruleId : String)
    (mode : RuleMode)
    (count : Scalar) :
    (countRule ruleId mode count).evaluate sampleRecord =
      Scalar.order .gt (.int 1) count := by
  have hFamily :
      (countRule ruleId mode count).family = .velocity :=
    rfl
  simp [RuleDefinition.evaluate, hFamily, evaluateFamily,
    evaluateVelocity, Conditions.get,
    get?_conditions_countRule, Dict.lookupEntries,
    PyVal.isNone, Record.getValue, PyVal.hashable,
    Record.named, get_vel_count_1m_sampleRecord,
    exceedsThreshold, PyVal.order]

theorem evaluable_countRule_iff
    (ruleId : String)
    (mode : RuleMode)
    (count : Scalar) :
    (countRule ruleId mode count).Evaluable sampleRecord ↔
      Scalar.Orderable (.int 1) count := by
  rw [← evaluate_isOk_iff produced_sampleRecord,
    evaluate_countRule, Scalar.order_isOk_iff]

/- A loaded rule whose count is a string raises on a
   record of the job. -/
theorem accepted_rule_raises :
    LoaderAccepts
        [countRule "VEL-001" .active (.str "5")] ∧
      Produced sampleConfig sampleRecord ∧
      (countRule "VEL-001" .active (.str "5")).evaluate
          sampleRecord = .error .typeError ∧
      (RuleEvaluator.dispatch
          [countRule "VEL-001" .active (.str "5")] 1000
          sampleRecord).1 = .error .typeError := by
  have hLoaded :
      LoaderAccepts
        [countRule "VEL-001" .active (.str "5")] :=
    loaderAccepts_countRules
      [("VEL-001", .active, .str "5")] (by decide)
  have hKept :=
    RuleEvaluator.keptRules_of_enabled
      (enabled_of_loaderAccepts hLoaded)
  have hRaises :
      (countRule "VEL-001" .active (.str "5")).evaluate
          sampleRecord = .error .typeError := by
    rw [evaluate_countRule]
    rfl
  refine ⟨hLoaded, produced_sampleRecord, hRaises, ?_⟩
  simp [RuleEvaluator.dispatch, hKept,
    RuleEvaluator.evaluateRules, hRaises]

/- A rule whose count is a number gets a result. -/
theorem accepted_rules_evaluable_number :
    (∃ b,
        (countRule "VEL-001" .active (.int 5)).evaluate
          sampleRecord = .ok b) ∧
      ∃ result,
        (RuleEvaluator.dispatch
          [countRule "VEL-001" .active (.int 5)] 1000
          sampleRecord).1 = .ok result := by
  have hLoaded :
      LoaderAccepts
        [countRule "VEL-001" .active (.int 5)] :=
    loaderAccepts_countRules
      [("VEL-001", .active, .int 5)] (by decide)
  have hRules :=
    accepted_rules_evaluable produced_sampleRecord hLoaded
  have hEvaluable :
      (countRule "VEL-001" .active (.int 5)).Evaluable
        sampleRecord := by
    rw [evaluable_countRule_iff]
    decide
  constructor
  · apply (hRules.1 _ _).2 hEvaluable
    simp
  · apply (hRules.2 1000).2
    simpa using hEvaluable

end Job

end FraudStream
