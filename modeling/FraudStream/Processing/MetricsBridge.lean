import FraudStream.Scoring.AlertFormat
import FraudStream.Scoring.Rules.Counters

/-
  The Kafka metrics bridge: the scoring counters as the main
  process reconstructs them from the topics.

  The alerts thread counts one flag for each rule of an
  alert, at the severity of the alert; the other thread
  counts one evaluation for each enabled rule of the rules
  file and each record. Both use the registered publisher,
  and a publisher that does nothing if there is none.

  Key definitions include:
    * `MetricsBridge.buildRuleFamilyMap`
    * `MetricsBridge.alertsConsumerThread`
    * `MetricsBridge.enrichedConsumerThread`
    * `MetricsBridge.FaithfulFile`
    * `MetricsBridge.Reproducible`

  The main result is `MetricsBridge.reproduces_counters`.
-/

------------------------------------------------------------
-- The Rules File
------------------------------------------------------------

namespace FraudStream

namespace MetricsBridge

/- An entry of the file that the bridge takes as enabled. -/
def enabledItem? : PyVal → Option (List (PyVal × PyVal))
| .dict entries =>
    if ((RuleDefinition.lookupField entries
        "enabled").getD (.scalar (.bool true))).truthy then
      some entries
    else
      none
| _ => none

/- The identifier and the family of an entry, unless a field
   is missing. Bytes and dates as identifiers, which no rule
   can have, are left out. -/
def familyOf?
    (entries : List (PyVal × PyVal)) :
    Option (Scalar × PyVal) :=
  match RuleDefinition.lookupField entries "rule_id",
    RuleDefinition.lookupField entries "family" with
  | some (.scalar ruleId), some family =>
      some (ruleId, family)
  | _, _ => none

/- The families by rule. Only a list holds mappings, and an
   exception leaves the map empty. -/
def familyMapOf : PyVal → Dict Scalar PyVal
| .list items =>
    match (items.filterMap enabledItem?).mapM familyOf? with
    | some families => .ofList families
    | none => .empty
| _ => .empty

def buildRuleFamilyMap
    (readFile : String → Option String)
    (safeLoad : String → Except String PyVal)
    (rulesYamlPath : String) : Dict Scalar PyVal :=
  match readFile rulesYamlPath with
  | none => .empty
  | some content =>
      match safeLoad content with
      | .error _ => .empty
      | .ok rules => familyMapOf rules

end MetricsBridge

end FraudStream

------------------------------------------------------------
-- The Threads
------------------------------------------------------------

namespace FraudStream

namespace MetricsBridge

/- The suffix of shadow rules in an alert. -/
def endsWithShadow (ruleId : String) : Bool :=
  ":shadow".toList.isSuffixOf ruleId.toList

/- What the publisher counts: nothing if none has been
   registered. -/
def publish
    (registered : Bool)
    (metric : Metric) : List Metric :=
  if registered then [metric] else []

variable
  (registered : Bool)
  (labelText : PyVal → String)
  (ruleFamilyMap : Dict Scalar PyVal)

/- The increments for one message of the alerts topic. A
   message that cannot be decoded is skipped. -/
def alertIncrements
    (format : AlertFormat)
    (message : List UInt8) : List Metric :=
  match format.schemalessReader message with
  | .error _ => []
  | .ok record =>
      (record.matchedRuleNames.filter
          (fun ruleId => !endsWithShadow ruleId)).flatMap
        (fun ruleId =>
          publish registered
            (.ruleFlags ruleId
              (labelText
                ((ruleFamilyMap.get? (.str ruleId)).getD
                  (.scalar (.str "unknown"))))
              record.severity.toLower))

def alertsConsumerThread
    (format : AlertFormat)
    (messages : List (List UInt8)) : List Metric :=
  messages.flatMap
    (alertIncrements registered labelText ruleFamilyMap
      format)

/- The increments for one enriched record. -/
def enrichedIncrements : List Metric :=
  ruleFamilyMap.entries.flatMap
    (fun item =>
      publish registered
        (.ruleEvaluations (labelText (.scalar item.1))
          (labelText item.2)))

/- The thread does not start without rules. -/
def enrichedConsumerThread
    (messages : List Record) : List Metric :=
  if ruleFamilyMap.entries = [] then
    []
  else
    messages.flatMap
      (fun _ =>
        enrichedIncrements registered labelText
          ruleFamilyMap)

end MetricsBridge

end FraudStream

------------------------------------------------------------
-- A Run Of The Evaluator And The Bridge
------------------------------------------------------------

namespace FraudStream

namespace MetricsBridge

/- A record at the time it is evaluated. -/
abbrev Evaluated := Int × Record

/- What the evaluator counts. -/
def evaluatorLog
    (rules : List RuleDefinition)
    (records : List Evaluated) : List Metric :=
  records.flatMap
    (fun r => (RuleEvaluator.dispatch rules r.1 r.2).2)

/- The alerts that are emitted. -/
def emittedAlerts
    (rules : List RuleDefinition)
    (records : List Evaluated) : List FraudAlert :=
  records.filterMap (fun r => (evaluateRecord rules r.1 r.2).1.1)

/- Each record and each alert reaches the bridge once, in
   any order. -/
structure Delivered
    (format : AlertFormat)
    (rules : List RuleDefinition)
    (records : List Evaluated)
    (alertMessages : List (List UInt8))
    (enrichedMessages : List Record) : Prop where
  alerts :
    ∃ payloads,
      List.Forall₂
          (fun alert payload =>
            AlertKafkaSink.serialise format alert =
              .ok payload)
          (emittedAlerts rules records) payloads ∧
        alertMessages.Perm payloads
  enriched :
    enrichedMessages.Perm (records.map Prod.snd)

/- Both threads count what the evaluator counts. -/
structure Reproduces
    (alertsLog enrichedLog log : List Metric) : Prop where
  flags :
    ∀ ruleId family severity,
      alertsLog.count (.ruleFlags ruleId family severity) =
        log.count (.ruleFlags ruleId family severity)
  evaluations :
    ∀ ruleId family,
      enrichedLog.count (.ruleEvaluations ruleId family) =
        log.count (.ruleEvaluations ruleId family)

/- A value that the loader reads as false and that is true
   for the bridge: a nonempty text or bytes. -/
def SaysFalse (value : PyVal) : Prop :=
  RuleDefinition.laxBool value = some false ∧
    value.truthy = true

/- No rule is disabled by a word, and the identifiers of the
   enabled rules are distinct. -/
structure FaithfulFile
    (readFile : String → Option String)
    (safeLoad : String → Except String PyVal)
    (rulesYamlPath : String)
    (rules : List RuleDefinition) : Prop where
  noFalseWord :
    ∀ content items entries value,
      readFile rulesYamlPath = some content →
      safeLoad content = .ok (.list items) →
      PyVal.dict entries ∈ items →
      RuleDefinition.lookupField entries "enabled" =
        some value →
      ¬ SaysFalse value
  nodup : (rules.map (·.ruleId)).Nodup

/- Only the last rule may raise, and only if no active rule
   matches; and all active matches have one severity. -/
structure Reproducible
    (rules : List RuleDefinition)
    (txn : Record) : Prop where
  raisesLast :
    ∀ before rule after e,
      rules = before ++ rule :: after →
      rule.evaluate txn = .error e →
      after = [] ∧ activeMatches txn before = []
  oneSeverity :
    ∀ rule ∈ activeMatches txn rules,
      ∀ other ∈ activeMatches txn rules,
        rule.severity = other.severity

end MetricsBridge

end FraudStream

------------------------------------------------------------
-- The Map Of An Accepted File
------------------------------------------------------------

namespace FraudStream

namespace MetricsBridge

/- What the loader reads as true is true for the bridge. -/
theorem truthy_of_laxBool
    {value : PyVal}
    (hTrue : RuleDefinition.laxBool value = some true) :
    value.truthy = true := by
  unfold RuleDefinition.laxBool at hTrue
  split at hTrue
  · simpa [PyVal.truthy, Scalar.truthy] using hTrue
  · rename_i n
    by_cases hZero : n = 0
    · simp [hZero] at hTrue
    · simp [PyVal.truthy, Scalar.truthy, hZero]
  · rename_i v
    by_cases hZero : v = 0
    · simp [hZero] at hTrue
    · simp [PyVal.truthy, Scalar.truthy, PyFloat.truthy,
        hZero]
  · rcases Option.bind_eq_some_iff.1 hTrue with
      ⟨word, hText, hWord⟩
    have hNonempty : word ≠ "" := by
      rintro rfl
      exact absurd hWord (by decide +kernel)
    cases value with
    | scalar x =>
        cases x with
        | str s =>
            cases hText
            simp [PyVal.truthy, Scalar.truthy, hNonempty]
        | _ => cases hText
    | bytes bs =>
        cases bs with
        | nil =>
            cases hText
            exact absurd rfl hNonempty
        | cons b bs => rfl
    | _ => cases hText

/- The identifier and the family of a valid entry. -/
theorem familyOf?_of_modelValidate
    {entries : List (PyVal × PyVal)}
    {rule : RuleDefinition}
    (hValid :
      RuleDefinition.modelValidate (.dict entries) =
        .ok rule) :
    familyOf? entries =
      some
        (.str rule.ruleId,
          .scalar (.str rule.family.value)) := by
  rcases RuleDefinition.modelValidate_ok hValid with
    ⟨entries', hEntries, hId, hFamily, -⟩
  cases hEntries
  rcases (RuleDefinition.convertField_ok_iff ..).1 hId with
    ⟨ruleId, hFoundId, hIdText⟩
  rcases (RuleDefinition.convertField_ok_iff ..).1 hFamily
    with ⟨family, hFoundFamily, hMember⟩
  have hText :=
    ((RuleDefinition.validateRuleId_eq_some_iff ruleId
      _).1 hIdText).1
  have hFamilyText :=
    RuleDefinition.enumMember_family_eq_some hMember
  subst hText hFamilyText
  simp only [familyOf?, hFoundId, hFoundFamily]

/- The bridge keeps a valid entry if the loader does. -/
theorem enabledItem?_of_modelValidate
    {item : PyVal}
    {rule : RuleDefinition}
    (hValid :
      RuleDefinition.modelValidate item = .ok rule)
    (hNoWord :
      ∀ entries value, item = .dict entries →
        RuleDefinition.lookupField entries "enabled" =
          some value →
        ¬ SaysFalse value) :
    ∃ entries, item = .dict entries ∧
      enabledItem? item =
        if rule.enabled then some entries else none := by
  rcases RuleDefinition.modelValidate_ok hValid with
    ⟨entries, rfl, -, -, hEnabled⟩
  rcases (RuleDefinition.convertField_ok_iff ..).1 hEnabled
    with ⟨value, hFound, hBool⟩
  have hTruthy : value.truthy = rule.enabled := by
    cases hRule : rule.enabled with
    | true =>
        rw [hRule] at hBool
        exact truthy_of_laxBool hBool
    | false =>
        rw [hRule] at hBool
        have hWord := hNoWord entries value rfl hFound
        by_contra hTrue
        exact
          hWord ⟨hBool, Bool.eq_true_of_not_eq_false hTrue⟩
  refine ⟨entries, rfl, ?_⟩
  simp only [enabledItem?, hFound, Option.getD_some,
    hTruthy]

/- The families of the enabled rules, in file order. -/
def familyEntries
    (rules : List RuleDefinition) : List (Scalar × PyVal) :=
  rules.map
    (fun rule =>
      (.str rule.ruleId, .scalar (.str rule.family.value)))

theorem mapM_familyOf?
    {items : List PyVal}
    {all : List RuleDefinition}
    (hValid :
      List.Forall₂
        (fun item rule =>
          RuleDefinition.modelValidate item = .ok rule)
        items all)
    (hNoWord :
      ∀ entries value, PyVal.dict entries ∈ items →
        RuleDefinition.lookupField entries "enabled" =
          some value →
        ¬ SaysFalse value) :
    (items.filterMap enabledItem?).mapM familyOf? =
      some (familyEntries (all.filter (·.enabled))) := by
  induction hValid with
  | nil => rfl
  | @cons item rule items all hHead hTail ih =>
      have hRest :=
        ih (fun entries value hMem =>
          hNoWord entries value (List.mem_cons_of_mem _ hMem))
      rcases enabledItem?_of_modelValidate hHead
        (fun entries value hItem =>
          hNoWord entries value (hItem ▸ List.mem_cons_self ..))
        with ⟨entries, rfl, hKept⟩
      cases hEnabled : rule.enabled with
      | true =>
          have hFamily := familyOf?_of_modelValidate hHead
          simp only [hEnabled, if_true] at hKept
          rw [List.filterMap_cons_some hKept,
            List.filter_cons_of_pos hEnabled]
          simp [hFamily, hRest, familyEntries]
      | false =>
          simp only [hEnabled, Bool.false_eq_true,
            if_false] at hKept
          rw [List.filterMap_cons_none hKept, hRest,
            List.filter_cons_of_neg (by simp [hEnabled])]

section Faithful

variable
  {readFile : String → Option String}
  {safeLoad : String → Except String PyVal}
  {rulesYamlPath : String}
  {rules : List RuleDefinition}
  (hLoad :
    RuleLoader.load readFile safeLoad rulesYamlPath =
      .ok rules)
  (hFile :
    FaithfulFile readFile safeLoad rulesYamlPath rules)

include hLoad hFile

/- The map of a faithful file has the enabled rules. -/
theorem entries_buildRuleFamilyMap :
    (buildRuleFamilyMap readFile safeLoad
        rulesYamlPath).entries =
      familyEntries rules := by
  rcases (RuleLoader.load_ok_iff _ _ _ _).1 hLoad with
    ⟨content, items, all, hRead, hData, hValid, rfl⟩
  have hFamilies :=
    mapM_familyOf? hValid
      (fun entries value =>
        hFile.noFalseWord content items entries value hRead
          hData)
  have hKeys :
      ((familyEntries (all.filter (·.enabled))).map
        Prod.fst).Nodup := by
    have hInjective : Function.Injective Scalar.str := by
      intro s t hEq
      cases hEq
      rfl
    have hIds := hFile.nodup.map hInjective
    rw [List.map_map] at hIds
    rw [familyEntries, List.map_map]
    exact hIds
  simp only [buildRuleFamilyMap, hRead, hData, familyMapOf,
    hFamilies]
  exact Dict.entries_ofList hKeys

/- The family of an enabled rule is found by its id. -/
theorem get?_buildRuleFamilyMap
    {rule : RuleDefinition}
    (hMem : rule ∈ rules) :
    (buildRuleFamilyMap readFile safeLoad
        rulesYamlPath).get? (.str rule.ruleId) =
      some (.scalar (.str rule.family.value)) := by
  rw [Dict.get?, entries_buildRuleFamilyMap hLoad hFile]
  have hNodup := hFile.nodup
  clear hLoad hFile
  induction rules with
  | nil => cases hMem
  | cons other rules ih =>
      rw [List.map_cons, List.nodup_cons] at hNodup
      by_cases hHere : rule.ruleId = other.ruleId
      · rcases List.mem_cons.1 hMem with rfl | hLater
        · simp [familyEntries, Dict.lookupEntries]
        · have hIn :
              other.ruleId ∈ rules.map (·.ruleId) :=
            List.mem_map.2 ⟨rule, hLater, hHere⟩
          exact absurd hIn hNodup.1
      · have hLater : rule ∈ rules := by
          rcases List.mem_cons.1 hMem with rfl | hLater
          · exact absurd rfl hHere
          · exact hLater
        simpa [familyEntries, Dict.lookupEntries, hHere]
          using ih hLater hNodup.2

end Faithful

end MetricsBridge

end FraudStream

------------------------------------------------------------
-- One Record
------------------------------------------------------------

namespace FraudStream

namespace MetricsBridge

open RuleEvaluator

theorem toLower_name (s : Severity) :
    s.name.toLower = s.name := by
  cases s <;> decide +kernel

/- A shadow entry of an alert has the suffix. -/
theorem endsWithShadow_append (ruleId : String) :
    endsWithShadow (ruleId ++ ":shadow") = true := by
  rw [endsWithShadow, List.isSuffixOf_iff_suffix,
    String.toList_append]
  exact List.suffix_append _ _

/- A valid identifier has no colon, hence no suffix. -/
theorem endsWithShadow_of_ruleIdMatches
    {ruleId : String}
    (hMatches : RuleDefinition.ruleIdMatches ruleId) :
    endsWithShadow ruleId = false := by
  by_contra hShadow
  rw [Bool.not_eq_false, endsWithShadow,
    List.isSuffixOf_iff_suffix] at hShadow
  rcases hShadow with ⟨start, hStart⟩
  have hEnd : ":shadow".toList.getLast? = some 'w' := by
    decide
  have hLast : ruleId.toList.getLast? ≠ some '\n' := by
    rw [← hStart, List.getLast?_append, hEnd]
    simp
  simp only [RuleDefinition.ruleIdMatches, hLast, if_false,
    Bool.and_eq_true, List.all_eq_true] at hMatches
  have hColon : ':' ∈ ruleId.toList := by
    rw [← hStart]
    simp
  exact absurd (hMatches.2 ':' hColon) (by decide)

/- A list on which only the last rule may raise is evaluated
   to its end. -/
theorem evaluatedRules_of_raisesLast
    {txn : Record}
    {rules : List RuleDefinition}
    (hLast :
      ∀ before rule after e,
        rules = before ++ rule :: after →
        rule.evaluate txn = .error e →
        after = []) :
    evaluatedRules txn rules = rules := by
  induction rules with
  | nil => rfl
  | cons rule rules ih =>
      have hRest :=
        ih (fun before rule' after e hSplit =>
          hLast (rule :: before) rule' after e
            (by rw [hSplit, List.cons_append]))
      rw [evaluatedRules]
      split
      · rename_i e hRaises
        rw [hLast [] rule rules e rfl hRaises]
      · rw [hRest]

/- Where a rule raises nothing active matches. -/
theorem activeMatches_of_raises
    {txn : Record}
    {rules : List RuleDefinition}
    (hStep : Reproducible rules txn)
    (hRaises : ¬ NoneRaises txn rules) :
    activeMatches txn rules = [] := by
  have hSome :
      ∃ rule ∈ rules, ∃ e, rule.evaluate txn = .error e := by
    simp only [NoneRaises, not_forall] at hRaises
    rcases hRaises with ⟨rule, hMem, hNone⟩
    refine ⟨rule, hMem, ?_⟩
    cases hRule : rule.evaluate txn with
    | error e => exact ⟨e, rfl⟩
    | ok b => exact absurd ⟨b, hRule⟩ hNone
  rcases hSome with ⟨rule, hMem, e, hError⟩
  rcases List.append_of_mem hMem with
    ⟨before, after, hSplit⟩
  have hBefore :=
    hStep.raisesLast before rule after e hSplit hError
  have hUnmatched : activeMatches txn [rule] = [] := by
    simp [activeMatches, RuleDefinition.ActiveMatch, hError]
  rw [hSplit, activeMatches_insert, hBefore.1, hBefore.2,
    hUnmatched]
  rfl

section Faithful

variable
  {readFile : String → Option String}
  {safeLoad : String → Except String PyVal}
  {rulesYamlPath : String}
  {rules : List RuleDefinition}
  {labelText : PyVal → String}
  {format : AlertFormat}
  (hLoad :
    RuleLoader.load readFile safeLoad rulesYamlPath =
      .ok rules)
  (hFile :
    FaithfulFile readFile safeLoad rulesYamlPath rules)
  (hLabel : ∀ s, labelText (.scalar (.str s)) = s)
  (hDecodes : format.Decodes)

include hLoad

/- The rules of the file are all kept. -/
theorem keptRules_loaded : keptRules rules = rules := by
  apply keptRules_of_enabled
  exact
    enabled_of_loaderAccepts
      ⟨readFile, safeLoad, rulesYamlPath, hLoad⟩

theorem ruleIdMatches_loaded
    {rule : RuleDefinition}
    (hMem : rule ∈ rules) :
    RuleDefinition.ruleIdMatches rule.ruleId := by
  rcases (RuleLoader.load_ok_iff _ _ _ _).1 hLoad with
    ⟨content, items, all, -, -, hValid, rfl⟩
  have hAll := (List.mem_filter.1 hMem).1
  rcases List.forall₂_iff_get.1 hValid with ⟨hLength, hGet⟩
  rcases List.get_of_mem hAll with ⟨i, rfl⟩
  exact
    RuleDefinition.ruleIdMatches_of_modelValidate
      (hGet i.1 (by omega) i.2)

/- Without an alert the evaluator flags nothing. -/
theorem flagMetrics_of_no_alert
    {time : Int}
    {txn : Record}
    (hStep : Reproducible rules txn)
    (hAlert : (evaluateRecord rules time txn).1.1 = none) :
    flagMetrics txn (evaluatedRules txn rules) = [] := by
  have hKept := keptRules_loaded hLoad
  have hEvaluated :=
    evaluatedRules_of_raisesLast
      (fun before rule after e hSplit hError =>
        (hStep.raisesLast before rule after e hSplit
          hError).1)
  have hNone : activeMatches txn rules = [] := by
    by_cases hOk : NoneRaises txn rules
    · by_contra hSome
      have hAlert' :=
        (alert_eq_some_iff rules time txn _).2
          ⟨by rwa [hKept], by rwa [hKept], rfl⟩
      rw [hAlert] at hAlert'
      cases hAlert'
    · exact activeMatches_of_raises hStep hOk
  rw [hEvaluated, flagMetrics, hNone]
  rfl

/- Without the tagged entries, the matched rules are the
   active ones. -/
theorem filter_matchedRules
    (time : Int)
    (txn : Record) :
    (resultOfMatches rules time txn).matchedRules.filter
        (fun ruleId => !endsWithShadow ruleId) =
      (activeMatches txn rules).map (·.ruleId) := by
  have hKeep :
      ((activeMatches txn rules).map (·.ruleId)).filter
          (fun ruleId => !endsWithShadow ruleId) =
        (activeMatches txn rules).map (·.ruleId) := by
    apply List.filter_eq_self.2
    intro ruleId hMem
    rcases List.mem_map.1 hMem with ⟨rule, hRule, rfl⟩
    have hId :=
      ruleIdMatches_loaded hLoad (List.mem_filter.1 hRule).1
    rw [endsWithShadow_of_ruleIdMatches hId]
    rfl
  have hDrop :
      ((shadowMatches txn rules).map
          (·.ruleId ++ ":shadow")).filter
          (fun ruleId => !endsWithShadow ruleId) = [] := by
    apply List.filter_eq_nil_iff.2
    intro ruleId hMem
    rcases List.mem_map.1 hMem with ⟨rule, -, rfl⟩
    rw [endsWithShadow_append]
    decide
  rw [resultOfMatches, keptRules_loaded hLoad,
    List.filter_append, hKeep, hDrop, List.append_nil]

/- Matches of one severity have the highest one. -/
theorem highestSeverity_eq
    {txn : Record}
    (time : Int)
    {rule : RuleDefinition}
    (hStep : Reproducible rules txn)
    (hMem : rule ∈ activeMatches txn rules) :
    (resultOfMatches rules time txn).highestSeverity =
      some rule.severity := by
  simp only [resultOfMatches, keptRules_loaded hLoad,
    maxSeverity_eq_argmax]
  cases hMax :
      ((activeMatches txn rules).map
        (·.severity)).argmax Severity.value with
  | none =>
      rw [List.argmax_eq_none, List.map_eq_nil_iff] at hMax
      rw [hMax] at hMem
      cases hMem
  | some s =>
      rcases List.mem_map.1 (List.argmax_mem hMax) with
        ⟨other, hOther, rfl⟩
      rw [hStep.oneSeverity other hOther rule hMem]

include hFile hLabel hDecodes

/- The bridge counts the flags behind an alert. -/
theorem alertIncrements_eq
    {time : Int}
    {txn : Record}
    {alert : FraudAlert}
    {payload : List UInt8}
    (hStep : Reproducible rules txn)
    (hAlert :
      (evaluateRecord rules time txn).1.1 = some alert)
    (hWritten :
      AlertKafkaSink.serialise format alert = .ok payload) :
    alertIncrements true labelText
        (buildRuleFamilyMap readFile safeLoad rulesYamlPath)
        format payload =
      flagMetrics txn (evaluatedRules txn rules) := by
  have hKept := keptRules_loaded hLoad
  rcases (alert_eq_some_iff rules time txn alert).1 hAlert
    with ⟨hOk, -, rfl⟩
  rw [hKept] at hOk
  have hRead := hDecodes _ _ hWritten
  rw [evaluatedRules_of_noneRaises txn hOk]
  have hNames := filter_matchedRules hLoad time txn
  simp only [alertIncrements, hRead, AlertRecord.decoded,
    FraudAlert.record, hNames]
  rw [flagMetrics, List.flatMap_map, List.map_eq_flatMap]
  apply List.flatMap_congr
  intro rule hMem
  -- Every match has the severity of the alert.
  have hSeverity :=
    highestSeverity_eq hLoad time hStep hMem
  rw [get?_buildRuleFamilyMap hLoad hFile
    (List.mem_filter.1 hMem).1, hSeverity, Option.getD_some,
    Option.getD_some, hLabel, toLower_name]
  rfl

end Faithful

end MetricsBridge

end FraudStream

------------------------------------------------------------
-- A Run
------------------------------------------------------------

namespace FraudStream

namespace MetricsBridge

open RuleEvaluator

section Faithful

variable
  {readFile : String → Option String}
  {safeLoad : String → Except String PyVal}
  {rulesYamlPath : String}
  {rules : List RuleDefinition}
  {labelText : PyVal → String}
  {format : AlertFormat}
  (hLoad :
    RuleLoader.load readFile safeLoad rulesYamlPath =
      .ok rules)
  (hFile :
    FaithfulFile readFile safeLoad rulesYamlPath rules)
  (hLabel : ∀ s, labelText (.scalar (.str s)) = s)
  (hDecodes : format.Decodes)

include hLoad hFile hLabel

/- The evaluations that the bridge counts for a record. -/
theorem enrichedIncrements_eq :
    enrichedIncrements true labelText
        (buildRuleFamilyMap readFile safeLoad
          rulesYamlPath) =
      evaluationMetrics rules := by
  rw [enrichedIncrements,
    entries_buildRuleFamilyMap hLoad hFile, familyEntries,
    evaluationMetrics, List.flatMap_map,
    List.map_eq_flatMap]
  apply List.flatMap_congr
  intro rule _
  rw [hLabel, hLabel]
  rfl

theorem count_enrichedConsumerThread
    {records : List Evaluated}
    {messages : List Record}
    (hSteps : ∀ r ∈ records, Reproducible rules r.2)
    (hDelivered : messages.Perm (records.map Prod.snd))
    (ruleId family : String) :
    (enrichedConsumerThread true labelText
        (buildRuleFamilyMap readFile safeLoad rulesYamlPath)
        messages).count (.ruleEvaluations ruleId family) =
      (evaluatorLog rules records).count
        (.ruleEvaluations ruleId family) := by
  have hKept := keptRules_loaded hLoad
  have hEach :
      ∀ r ∈ records,
        (dispatch rules r.1 r.2).2.count
            (.ruleEvaluations ruleId family) =
          (evaluationMetrics rules).count
            (.ruleEvaluations ruleId family) := by
    intro r hMem
    rw [count_dispatch_ruleEvaluations, hKept,
      evaluatedRules_of_raisesLast]
    intro before rule after e hSplit hError
    exact
      ((hSteps r hMem).raisesLast before rule after e hSplit
        hError).1
  have hLog :
      (evaluatorLog rules records).count
          (.ruleEvaluations ruleId family) =
        (records.flatMap
          (fun _ => evaluationMetrics rules)).count
            (.ruleEvaluations ruleId family) :=
    count_flatMap_congr hEach
  have hThread :
      enrichedConsumerThread true labelText
          (buildRuleFamilyMap readFile safeLoad
            rulesYamlPath) messages =
        messages.flatMap
          (fun _ => evaluationMetrics rules) := by
    have hIncrements :=
      enrichedIncrements_eq hLoad hFile hLabel
    unfold enrichedConsumerThread
    split
    · rename_i hEmpty
      rw [entries_buildRuleFamilyMap hLoad hFile,
        familyEntries, List.map_eq_nil_iff] at hEmpty
      simp [hEmpty, evaluationMetrics]
    · simp only [hIncrements]
  have hReordered :=
    (hDelivered.flatMap_right
      (fun _ => evaluationMetrics rules)).count_eq
      (.ruleEvaluations ruleId family)
  rw [hThread, hLog, hReordered, List.flatMap_map]

include hDecodes

/- The flags counted for the alerts of a run, in order. -/
theorem count_payloads
    {records : List Evaluated}
    {payloads : List (List UInt8)}
    (hSteps : ∀ r ∈ records, Reproducible rules r.2)
    (hWritten :
      List.Forall₂
        (fun alert payload =>
          AlertKafkaSink.serialise format alert =
            .ok payload)
        (emittedAlerts rules records) payloads)
    (ruleId family severity : String) :
    (alertsConsumerThread true labelText
        (buildRuleFamilyMap readFile safeLoad rulesYamlPath)
        format payloads).count
          (.ruleFlags ruleId family severity) =
      (evaluatorLog rules records).count
        (.ruleFlags ruleId family severity) := by
  have hKept := keptRules_loaded hLoad
  induction records generalizing payloads with
  | nil =>
      cases hWritten
      rfl
  | cons r records ih =>
      rcases List.forall_mem_cons.1 hSteps with
        ⟨hStep, hRest⟩
      have hHead :
          (dispatch rules r.1 r.2).2.count
              (.ruleFlags ruleId family severity) =
            (flagMetrics r.2
                (evaluatedRules r.2 rules)).count
              (.ruleFlags ruleId family severity) := by
        rw [count_dispatch_ruleFlags, hKept]
      have hLog :
          evaluatorLog rules (r :: records) =
            (dispatch rules r.1 r.2).2 ++
              evaluatorLog rules records := rfl
      rw [hLog, List.count_append, hHead]
      cases hAlert : (evaluateRecord rules r.1 r.2).1.1 with
      | none =>
          have hNone :
              emittedAlerts rules (r :: records) =
                emittedAlerts rules records :=
            List.filterMap_cons_none hAlert
          rw [hNone] at hWritten
          rw [ih hRest hWritten,
            flagMetrics_of_no_alert hLoad hStep hAlert,
            List.count_nil, Nat.zero_add]
      | some alert =>
          have hSome :
              emittedAlerts rules (r :: records) =
                alert :: emittedAlerts rules records :=
            List.filterMap_cons_some hAlert
          rw [hSome] at hWritten
          cases hWritten with
          | @cons _ payload _ payloads hFirst hOthers =>
              have hThread :
                  alertsConsumerThread true labelText
                      (buildRuleFamilyMap readFile safeLoad
                        rulesYamlPath) format
                      (payload :: payloads) =
                    alertIncrements true labelText
                        (buildRuleFamilyMap readFile safeLoad
                          rulesYamlPath) format payload ++
                      alertsConsumerThread true labelText
                        (buildRuleFamilyMap readFile safeLoad
                          rulesYamlPath) format payloads :=
                rfl
              rw [hThread, List.count_append,
                ih hRest hOthers,
                alertIncrements_eq hLoad hFile hLabel
                  hDecodes hStep hAlert hFirst]

end Faithful

/-
  With a registered publisher, a faithful rules file, and
  records that are all reproducible, the bridge counts what
  the evaluator counts, whatever the order of delivery.
-/
theorem reproduces_counters
    (readFile : String → Option String)
    (safeLoad : String → Except String PyVal)
    (rulesYamlPath : String)
    (rules : List RuleDefinition)
    (labelText : PyVal → String)
    (format : AlertFormat)
    (registered : Bool)
    (records : List Evaluated)
    (alertMessages : List (List UInt8))
    (enrichedMessages : List Record)
    (hLoad :
      RuleLoader.load readFile safeLoad rulesYamlPath =
        .ok rules)
    (hLabel : ∀ s, labelText (.scalar (.str s)) = s)
    (hDecodes : format.Decodes)
    (hDelivered :
      Delivered format rules records alertMessages
        enrichedMessages)
    (hRegistered : registered = true)
    (hFile :
      FaithfulFile readFile safeLoad rulesYamlPath rules)
    (hSteps : ∀ r ∈ records, Reproducible rules r.2) :
    Reproduces
      (alertsConsumerThread registered labelText
        (buildRuleFamilyMap readFile safeLoad rulesYamlPath)
        format alertMessages)
      (enrichedConsumerThread registered labelText
        (buildRuleFamilyMap readFile safeLoad rulesYamlPath)
        enrichedMessages)
      (evaluatorLog rules records) := by
  subst hRegistered
  constructor
  · intro ruleId family severity
    rcases hDelivered.alerts with
      ⟨payloads, hWritten, hReordered⟩
    have hCounts :=
      (hReordered.flatMap_right
        (alertIncrements true labelText
          (buildRuleFamilyMap readFile safeLoad
            rulesYamlPath) format)).count_eq
        (.ruleFlags ruleId family severity)
    rw [alertsConsumerThread, hCounts]
    exact
      count_payloads hLoad hFile hLabel hDecodes hSteps
        hWritten ruleId family severity
  · intro ruleId family
    exact
      count_enrichedConsumerThread hLoad hFile hLabel hSteps
        hDelivered.enriched ruleId family

end MetricsBridge

end FraudStream

------------------------------------------------------------
-- Two Severities In One Alert
------------------------------------------------------------

namespace FraudStream

namespace MetricsBridge

open Job RuleEvaluator

/- The entry of a rule on the count, at a severity. -/
def severityEntry (spec : String × Severity) : PyVal :=
  .dict
    [(.scalar (.str "rule_id"), .scalar (.str spec.1)),
      (.scalar (.str "name"), .scalar (.str "High count")),
      (.scalar (.str "family"), .scalar (.str "velocity")),
      (.scalar (.str "conditions"),
        .dict
          [(.scalar (.str "field"),
              .scalar (.str "vel_count_1m")),
            (.scalar (.str "count"), .scalar (.int 0))]),
      (.scalar (.str "severity"),
        .scalar (.str spec.2.name)),
      (.scalar (.str "enabled"), .scalar (.bool true))]

theorem modelValidate_severityEntry
    {spec : String × Severity}
    (hId : RuleDefinition.ruleIdMatches spec.1) :
    RuleDefinition.modelValidate (severityEntry spec) =
      .ok (countRuleAt spec) := by
  rcases spec with ⟨ruleId, severity⟩
  cases severity <;>
    simp [RuleDefinition.modelValidate, severityEntry,
      RuleDefinition.convertField,
      RuleDefinition.lookupField, PyVal.isString,
      RuleDefinition.validateRuleId, hId,
      RuleDefinition.laxString, RuleDefinition.enumMember,
      RuleFamily.all, RuleFamily.value,
      RuleDefinition.laxConditions,
      RuleDefinition.coerceSeverity, Severity.all,
      Severity.name, RuleDefinition.laxBool,
      RuleDefinition.convertMode,
      RuleDefinition.extraFields,
      RuleDefinition.fieldNames, RuleDefinition.problemOf,
      countRuleAt, countRule]

/- A file of such entries. -/
def sampleFile : String → Option String :=
  fun _ => some ""

def sampleLoad
    (specs : List (String × Severity)) :
    String → Except String PyVal :=
  fun _ => .ok (.list (specs.map severityEntry))

theorem load_severityEntries
    (specs : List (String × Severity))
    (hIds :
      ∀ spec ∈ specs, RuleDefinition.ruleIdMatches spec.1) :
    RuleLoader.load sampleFile (sampleLoad specs) "" =
      .ok (specs.map countRuleAt) := by
  refine
    (RuleLoader.load_ok_iff _ _ _ _).2
      ⟨"", specs.map severityEntry, specs.map countRuleAt,
        rfl, rfl, ?_, ?_⟩
  · rw [List.forall₂_map_left_iff,
      List.forall₂_map_right_iff, List.forall₂_same]
    intro spec hMem
    exact modelValidate_severityEntry (hIds spec hMem)
  · exact (matches_countRulesAt specs).1.symm

theorem faithfulFile_severityEntries
    (specs : List (String × Severity))
    (hNodup : (specs.map Prod.fst).Nodup) :
    FaithfulFile sampleFile (sampleLoad specs) ""
      (specs.map countRuleAt) := by
  constructor
  · rintro content items entries value - hItems hMem hFound
      ⟨hFalse, -⟩
    cases hItems
    rcases List.mem_map.1 hMem with ⟨spec, -, hEntry⟩
    cases hEntry
    simp only [RuleDefinition.lookupField, PyVal.isString,
      List.find?_cons] at hFound
    simp at hFound
    subst hFound
    cases hFalse
  · rw [List.map_map]
    exact hNodup

/- The texts of labels that are strings. -/
def sampleLabel : PyVal → String
| .scalar (.str s) => s
| _ => ""

/- The message for the alert of such rules. -/
def sampleMessage
    (specs : List (String × Severity))
    (severity : Severity) : List UInt8 :=
  alertCodec.write
    ("txn-1", "acc-001", specs.map Prod.fst, severity, 1000)

/- One record and its alert are delivered. -/
theorem delivered_sample
    (specs : List (String × Severity))
    (severity : Severity)
    (hSome : specs ≠ [])
    (hMax :
      (maxSeverity (specs.map Prod.snd)).getD .low =
        severity) :
    Delivered avroFormat (specs.map countRuleAt)
      [(1000, sampleRecord)]
      [sampleMessage specs severity] [sampleRecord] := by
  have hAlerts :
      emittedAlerts (specs.map countRuleAt)
          [(1000, sampleRecord)] =
        [countAlert 1000 specs] := by
    simp [emittedAlerts,
      evaluateRecord_countRulesAt 1000 specs hSome]
  constructor
  · refine ⟨_, ?_, List.Perm.refl _⟩
    rw [hAlerts]
    apply List.Forall₂.cons _ List.Forall₂.nil
    simp only [AlertKafkaSink.serialise, FraudAlert.record,
      countAlert, hMax, avroFormat]
    cases severity <;> rfl
  · exact List.Perm.refl _

/- One rule and one record are counted alike. -/
theorem reproduces_one_rule :
    Reproduces
      (alertsConsumerThread true sampleLabel
        (buildRuleFamilyMap sampleFile
          (sampleLoad [("VEL-001", .high)]) "")
        avroFormat
        [sampleMessage [("VEL-001", .high)] .high])
      (enrichedConsumerThread true sampleLabel
        (buildRuleFamilyMap sampleFile
          (sampleLoad [("VEL-001", .high)]) "")
        [sampleRecord])
      (evaluatorLog [countRuleAt ("VEL-001", .high)]
        [(1000, sampleRecord)]) := by
  have hMatches := matches_countRulesAt [("VEL-001", .high)]
  have hStep :
      Reproducible [countRuleAt ("VEL-001", .high)]
        sampleRecord := by
    constructor
    · intro before rule after e hSplit hError
      have hMem :
          rule ∈ [countRuleAt ("VEL-001", .high)] := by
        rw [hSplit]
        simp
      rcases hMatches.2.1 rule hMem with ⟨b, hOk⟩
      rw [hOk] at hError
      cases hError
    · intro rule hMem other hOther
      have hRule := (List.mem_filter.1 hMem).1
      have hOther' := (List.mem_filter.1 hOther).1
      rw [List.mem_singleton.1 hRule,
        List.mem_singleton.1 hOther']
  have hIds :
      ∀ spec ∈ [("VEL-001", Severity.high)],
        RuleDefinition.ruleIdMatches spec.1 := by
    decide
  exact
    reproduces_counters sampleFile
      (sampleLoad [("VEL-001", .high)]) ""
      [countRuleAt ("VEL-001", .high)] sampleLabel avroFormat
      true [(1000, sampleRecord)]
      [sampleMessage [("VEL-001", .high)] .high]
      [sampleRecord]
      (load_severityEntries [("VEL-001", .high)] hIds)
      (fun _ => rfl) avroFormat_decodes
      (delivered_sample [("VEL-001", .high)] .high
        (List.cons_ne_nil _ _) rfl) rfl
      (faithfulFile_severityEntries [("VEL-001", .high)]
        (List.nodup_singleton _))
      (List.forall_mem_singleton.2 hStep)

/- The flag of the lower rule is counted at the higher
   severity. -/
theorem mixed_severities_miscounted :
    RuleLoader.load sampleFile
          (sampleLoad [("VEL-001", .high), ("VEL-002", .low)])
          "" =
        .ok
          [countRuleAt ("VEL-001", .high),
            countRuleAt ("VEL-002", .low)] ∧
      Delivered avroFormat
        [countRuleAt ("VEL-001", .high),
          countRuleAt ("VEL-002", .low)]
        [(1000, sampleRecord)]
        [sampleMessage
          [("VEL-001", .high), ("VEL-002", .low)] .high]
        [sampleRecord] ∧
      ¬ Reproduces
        (alertsConsumerThread true sampleLabel
          (buildRuleFamilyMap sampleFile
            (sampleLoad
              [("VEL-001", .high), ("VEL-002", .low)]) "")
          avroFormat
          [sampleMessage
            [("VEL-001", .high), ("VEL-002", .low)] .high])
        (enrichedConsumerThread true sampleLabel
          (buildRuleFamilyMap sampleFile
            (sampleLoad
              [("VEL-001", .high), ("VEL-002", .low)]) "")
          [sampleRecord])
        (evaluatorLog
          [countRuleAt ("VEL-001", .high),
            countRuleAt ("VEL-002", .low)]
          [(1000, sampleRecord)]) := by
  have hMatches :=
    matches_countRulesAt
      [("VEL-001", .high), ("VEL-002", .low)]
  have hIds :
      ∀ spec ∈
          [("VEL-001", Severity.high),
            ("VEL-002", Severity.low)],
        RuleDefinition.ruleIdMatches spec.1 := by
    decide
  refine
    ⟨load_severityEntries
        [("VEL-001", .high), ("VEL-002", .low)] hIds,
      delivered_sample
        [("VEL-001", .high), ("VEL-002", .low)] .high
        (List.cons_ne_nil _ _) rfl, ?_⟩
  intro hSame
  have hFlags := hSame.flags "VEL-002" "velocity" "low"
  -- The evaluator counts the flag once.
  have hLog :
      (evaluatorLog
          [countRuleAt ("VEL-001", .high),
            countRuleAt ("VEL-002", .low)]
          [(1000, sampleRecord)]).count
        (.ruleFlags "VEL-002" "velocity" "low") = 1 := by
    simp only [List.map_cons, List.map_nil] at hMatches
    rw [evaluatorLog, List.flatMap_singleton,
      count_dispatch_ruleFlags, hMatches.1,
      evaluatedRules_of_noneRaises _ hMatches.2.1,
      flagMetrics, hMatches.2.2.1]
    rfl
  -- The bridge gives all flags of the alert its severity.
  have hBridge :
      Metric.ruleFlags "VEL-002" "velocity" "low" ∉
        alertsConsumerThread true sampleLabel
          (buildRuleFamilyMap sampleFile
            (sampleLoad
              [("VEL-001", .high), ("VEL-002", .low)]) "")
          avroFormat
          [sampleMessage
            [("VEL-001", .high), ("VEL-002", .low)]
            .high] := by
    have hRead :
        avroFormat.schemalessReader
            (sampleMessage
              [("VEL-001", .high), ("VEL-002", .low)]
              .high) =
          .ok
            (countAlert 1000
              [("VEL-001", .high),
                ("VEL-002", .low)]).record.decoded :=
      avroFormat_decodes _ _ rfl
    have hSeverity :
        (countAlert 1000
          [("VEL-001", .high),
            ("VEL-002", .low)]).record.decoded.severity =
          Severity.name .high := rfl
    intro hMem
    rw [alertsConsumerThread, List.flatMap_singleton,
      alertIncrements, hRead] at hMem
    dsimp only at hMem
    rw [hSeverity, toLower_name, List.mem_flatMap] at hMem
    rcases hMem with ⟨ruleId, -, hHere⟩
    simp [publish, Severity.name] at hHere
  rw [hLog, List.count_eq_zero_of_not_mem hBridge] at hFlags
  cases hFlags

end MetricsBridge

end FraudStream
