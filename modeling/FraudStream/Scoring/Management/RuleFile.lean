import FraudStream.Scoring.Management.Api

/-
  What the rules file holds after it was rewritten.

  A rule that was written and is loaded again has its fields
  back; its conditions come back as JSON brings them back.
  YAML is taken to read back the documents that it wrote of
  the given rules, with the keys in order.

  Main declarations:
    * `ManagementApi.loadRulesFromYaml_ok_iff`
    * `ManagementApi.ReadsBack`
    * `RuleDefinition.Reloaded`
    * `ManagementApi.reloaded_of_rulesData`
-/

------------------------------------------------------------
-- Loaded Rules
------------------------------------------------------------

namespace FraudStream

namespace ManagementApi

/- The rules of a file, keyed by their identifiers. -/
def keyedRules (all : List RuleDefinition) : RulesDict :=
  Dict.ofList (all.map (fun rule => (rule.ruleId, rule)))

private theorem keyRules_ok_iff
    (items : List PyVal)
    (rules rules' : RulesDict) :
    keyRules items rules = .ok rules' ↔
      ∃ all,
        List.Forall₂
          (fun item rule =>
            RuleDefinition.modelValidate item = .ok rule)
          items all ∧
        rules' =
          all.foldl
            (fun d rule => Dict.put d rule.ruleId rule)
            rules := by
  induction items generalizing rules with
  | nil => simp [keyRules, eq_comm]
  | cons item items ih =>
      simp only [List.forall₂_cons_left_iff, keyRules]
      cases hItem : RuleDefinition.modelValidate item with
      | error e => simp
      | ok rule =>
          simp only [ih, Except.ok.injEq]
          constructor
          · rintro ⟨all, hAll, rfl⟩
            exact ⟨rule :: all, ⟨rule, all, rfl, hAll, rfl⟩, rfl⟩
          · rintro ⟨_, ⟨_, all, rfl, hAll, rfl⟩, rfl⟩
            exact ⟨all, hAll, rfl⟩

/- The service keys the rules that the file lists. -/
theorem keyedRules_of_loadRulesFromYaml
    {readFile : String → Option String}
    {safeLoad : String → Except String PyVal}
    {path : String}
    {rules : RulesDict}
    (hLoad :
      loadRulesFromYaml readFile safeLoad path = .ok rules) :
    ∃ content items all,
      readFile path = some content ∧
      safeLoad content = .ok (.list items) ∧
      List.Forall₂
        (fun item rule =>
          RuleDefinition.modelValidate item = .ok rule)
        items all ∧
      rules = keyedRules all := by
  unfold loadRulesFromYaml at hLoad
  split at hLoad
  · cases hLoad
  · rename_i content hFile
    split at hLoad
    · cases hLoad
    · rename_i items hData
      cases hKeyed : keyRules items Dict.empty with
      | error e =>
          rw [hKeyed] at hLoad
          cases hLoad
      | ok rules' =>
          rw [hKeyed] at hLoad
          cases hLoad
          rcases (keyRules_ok_iff items _ _).1 hKeyed with
            ⟨all, hAll, hRules⟩
          refine
            ⟨content, items, all, hFile, hData, hAll, ?_⟩
          rw [hRules, keyedRules, Dict.ofList,
            List.foldl_map]
    · cases hLoad

end ManagementApi

end FraudStream

------------------------------------------------------------
-- Reloaded Rules
------------------------------------------------------------

namespace PyVal

/- Named entries in the order of their names. -/
def sortNamed
    (named : List (String × PyVal)) :
    List (String × PyVal) :=
  (named.map (fun e => (e.1, sortKeys e.2))).insertionSort
    (fun e e' => e.1 ≤ e'.1)

theorem sortKeys_dict_ofNamed
    (named : List (String × PyVal)) :
    sortKeys (.dict (ofNamed named)) =
      .dict (ofNamed (sortNamed named)) := by
  have hSort :=
    List.map_insertionSort
      (fun e e' : String × PyVal => e.1 ≤ e'.1) KeyLe
      (fun e => (.scalar (.str e.1), e.2))
      (named.map (fun e => (e.1, sortKeys e.2)))
      (fun _ _ _ _ => Iff.rfl)
  rw [sortKeys_dict, sortNamed, ofNamed, ofNamed, hSort,
    List.map_map, List.map_map]
  rfl

end PyVal

namespace FraudStream

namespace RuleDefinition

/- A rule that was written and loaded again: the same rule
   with the conditions that JSON brought back. -/
def Reloaded
    (texts : JsonTexts)
    (rule rule' : RuleDefinition) : Prop :=
  rule' = { rule with conditions := rule'.conditions } ∧
    ∃ w,
      rule.conditionsValue.throughJson texts = some w ∧
      rule'.conditionsValue = w.sortKeys

theorem laxConditions_ofNamed
    (named : List (String × PyVal)) :
    laxConditions (.dict (PyVal.ofNamed named)) =
      some (Dict.ofList named) := by
  have hEntries :
      (PyVal.ofNamed named).mapM
          (fun e => (laxString e.1).map (fun k => (k, e.2))) =
        some named := by
    induction named with
    | nil => rfl
    | cons e named ih =>
        simp only [PyVal.ofNamed, List.map_cons,
          List.mapM_cons] at ih ⊢
        rw [ih]
        rfl
  rw [laxConditions, hEntries]
  rfl


/- Sorting the names keeps them distinct. -/
theorem entries_ofList_sortNamed
    (d : Dict String PyVal) :
    (Dict.ofList (PyVal.sortNamed d.entries)).entries =
      PyVal.sortNamed d.entries := by
  apply Dict.entries_ofList
  have hPerm :
      (PyVal.sortNamed d.entries).Perm
        (d.entries.map (fun e => (e.1, PyVal.sortKeys e.2))) :=
    List.perm_insertionSort _ _
  rw [(hPerm.map Prod.fst).nodup_iff, List.map_map]
  exact d.nodupKeys

/- The conditions that JSON brought back validate. -/
theorem laxConditions_of_throughJson
    {texts : JsonTexts}
    {rule : RuleDefinition}
    {w : PyVal}
    (hThrough :
      rule.conditionsValue.throughJson texts = some w) :
    ∃ conditions : Conditions,
      laxConditions w.sortKeys = some conditions ∧
      w.sortKeys =
        .dict (PyVal.ofNamed conditions.entries) := by
  rw [conditionsValue, PyVal.throughJson,
    Option.map_eq_some_iff] at hThrough
  rcases hThrough with ⟨named, -, rfl⟩
  refine
    ⟨Dict.ofList (PyVal.sortNamed
      (Dict.ofList named).entries), ?_, ?_⟩
  · rw [PyVal.sortKeys_dict_ofNamed, laxConditions_ofNamed]
  · rw [PyVal.sortKeys_dict_ofNamed,
      entries_ofList_sortNamed]

/- The fields of a rule, as JSON brings them back. -/
theorem throughJson_fields_eq_some_iff
    (texts : JsonTexts)
    (rule : RuleDefinition)
    (data : PyVal) :
    rule.fields.throughJson texts = some data ↔
      ∃ w, rule.conditionsValue.throughJson texts = some w ∧
        data = .dict (PyVal.ofNamed (rule.fieldsWith w)) := by
  have hText : ∀ s,
      PyVal.throughJson texts (.scalar (.str s)) =
        some (.scalar (.str s)) := fun s => rfl
  have hBool : ∀ b,
      PyVal.throughJson texts (.scalar (.bool b)) =
        some (.scalar (.bool b)) := fun b => rfl
  have hSeverity :
      PyVal.throughJson texts
          (.scalar (.int rule.severity.value)) =
        some (.scalar (.int rule.severity.value)) := by
    apply PyVal.throughJson_of_isJson
    have hBound := ten_le_readableBound
    have hSmall : |(rule.severity.value : Int)| ≤ 3 := by
      cases rule.severity <;> decide
    simp only [PyVal.isJson, decide_eq_true_eq]
    omega
  have hKey : ∀ s,
      PyVal.jsonKey texts (.scalar (.str s)) = some s :=
    fun s => rfl
  have hEntries :
      PyVal.throughJsonEntries texts
          (PyVal.ofNamed
            (rule.fieldsWith rule.conditionsValue)) =
        (rule.conditionsValue.throughJson texts).map
          rule.fieldsWith := by
    simp only [fieldsWith, PyVal.ofNamed, List.map_cons,
      List.map_nil, PyVal.throughJsonEntries, hKey, hText,
      hBool, hSeverity, Option.bind_some, Option.map_some]
    cases rule.conditionsValue.throughJson texts with
    | none => rfl
    | some w => rfl
  have hNames : ∀ w,
      ((rule.fieldsWith w).map Prod.fst).Nodup := by
    intro w
    change fieldNames.Nodup
    decide
  rw [fields, PyVal.throughJson, hEntries, Option.map_map,
    Option.map_eq_some_iff]
  simp only [Function.comp_apply,
    Dict.entries_ofList (hNames _), eq_comm]

/- The fields of a rule in the order of their names. -/
theorem sortNamed_fieldsWith
    (rule : RuleDefinition)
    (w : PyVal) :
    PyVal.sortNamed (rule.fieldsWith w) =
      [("conditions", w.sortKeys),
        ("enabled", .scalar (.bool rule.enabled)),
        ("family", .scalar (.str rule.family.value)),
        ("mode", .scalar (.str rule.mode.value)),
        ("name", .scalar (.str rule.name)),
        ("rule_id", .scalar (.str rule.ruleId)),
        ("severity", .scalar (.int rule.severity.value))] :=
  by
  simp [PyVal.sortNamed, fieldsWith, List.orderedInsert,
    PyVal.sortKeys]

theorem lookupField_ofNamed_cons
    (e : String × PyVal)
    (named : List (String × PyVal))
    (name : String) :
    lookupField (PyVal.ofNamed (e :: named)) name =
      if e.1 = name then
        some e.2
      else
        lookupField (PyVal.ofNamed named) name := by
  rw [PyVal.ofNamed, List.map_cons, lookupField,
    List.find?_cons]
  by_cases hName : e.1 = name
  · simp [PyVal.isString, hName]
  · simp [PyVal.isString, hName, Ne.symm hName, lookupField,
      PyVal.ofNamed]

/- Written fields validate to the rule with the conditions
   that were read. -/
theorem modelValidate_fieldsWith
    {rule : RuleDefinition}
    {w : PyVal}
    {conditions : Conditions}
    (hId : ruleIdMatches rule.ruleId)
    (hConditions :
      laxConditions w.sortKeys = some conditions) :
    modelValidate
        (PyVal.sortKeys
          (.dict (PyVal.ofNamed (rule.fieldsWith w)))) =
      .ok { rule with conditions := conditions } := by
  have hFamily :
      enumMember RuleFamily.value RuleFamily.all
          (.scalar (.str rule.family.value)) =
        some rule.family := by
    cases rule.family <;> rfl
  have hMode :
      enumMember RuleMode.value RuleMode.all
          (.scalar (.str rule.mode.value)) =
        some rule.mode := by
    cases rule.mode <;> rfl
  have hSeverity :
      coerceSeverity (.scalar (.int rule.severity.value)) =
        some rule.severity := by
    cases rule.severity <;> rfl
  rw [PyVal.sortKeys_dict_ofNamed, sortNamed_fieldsWith]
  have hExtra :
      extraFields (PyVal.ofNamed
        [("conditions", w.sortKeys),
          ("enabled", .scalar (.bool rule.enabled)),
          ("family", .scalar (.str rule.family.value)),
          ("mode", .scalar (.str rule.mode.value)),
          ("name", .scalar (.str rule.name)),
          ("rule_id", .scalar (.str rule.ruleId)),
          ("severity",
            .scalar (.int rule.severity.value))]) = [] :=
    rfl
  simp [modelValidate, convertField, convertMode,
    lookupField_ofNamed_cons, validateRuleId, hId, laxString,
    hFamily, hConditions, hSeverity, laxBool, hMode,
    problemOf, hExtra]

/- A rule that was written is loaded again. -/
theorem exists_reloaded
    {texts : JsonTexts}
    {rule : RuleDefinition}
    {data : PyVal}
    (hId : ruleIdMatches rule.ruleId)
    (hData : rule.fields.throughJson texts = some data) :
    ∃ rule', modelValidate data.sortKeys = .ok rule' ∧
      Reloaded texts rule rule' := by
  rcases (throughJson_fields_eq_some_iff _ _ _).1 hData with
    ⟨w, hThrough, rfl⟩
  rcases laxConditions_of_throughJson hThrough with
    ⟨conditions, hConditions, hSorted⟩
  exact
    ⟨_, modelValidate_fieldsWith hId hConditions, rfl, w,
      hThrough, hSorted.symm⟩

end RuleDefinition

namespace ManagementApi

/- The rules without their modes. -/
def RulesDict.modeless
    (rules : RulesDict) : List (String × RuleDefinition) :=
  rules.entries.map
    (fun e => (e.1, { e.2 with mode := .active }))

/- YAML reads back what it wrote of these rules, in
   whichever modes. -/
def ReadsBack
    (codec : Codec)
    (rules : RulesDict) : Prop :=
  ∀ rules' data,
    RulesDict.modeless rules' = RulesDict.modeless rules →
    rulesData codec.texts rules' = some data →
    codec.safeLoad (codec.dump data) = .ok data.sortKeys

/- All rules have identifiers that validate. -/
def RulesDict.Valid (rules : RulesDict) : Prop :=
  ∀ rule ∈ RulesDict.values rules,
    RuleDefinition.ruleIdMatches rule.ruleId

/- The document of the rules loads to the rules again. -/
theorem reloaded_of_rulesData
    {texts : JsonTexts}
    {rules : RulesDict}
    {data : PyVal}
    (hValid : RulesDict.Valid rules)
    (hData : rulesData texts rules = some data) :
    ∃ items all,
      data.sortKeys = .list items ∧
      List.Forall₂
        (fun item rule =>
          RuleDefinition.modelValidate item = .ok rule)
        items all ∧
      List.Forall₂ (RuleDefinition.Reloaded texts)
        (RulesDict.values rules) all := by
  rw [rulesData, Option.map_eq_some_iff] at hData
  rcases hData with ⟨datas, hDatas, rfl⟩
  rw [FallibleList.mapM_some_iff] at hDatas
  rw [PyVal.sortKeys_list]
  unfold RulesDict.Valid at hValid
  generalize RulesDict.values rules = values at hValid hDatas ⊢
  induction hDatas with
  | nil => exact ⟨_, [], rfl, .nil, .nil⟩
  | cons hHead hTail ih =>
      rw [List.forall_mem_cons] at hValid
      rcases ih hValid.2 with
        ⟨items, all, hItems, hAll, hReloaded⟩
      rcases RuleDefinition.exists_reloaded hValid.1 hHead
        with ⟨rule', hRule, hHere⟩
      cases hItems
      exact
        ⟨_, rule' :: all, rfl, .cons hRule hAll,
          .cons hHere hReloaded⟩

end ManagementApi

end FraudStream
