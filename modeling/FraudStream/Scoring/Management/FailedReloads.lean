import FraudStream.Scoring.Management.RuleFile

/-
  Loads of the rules file that raise.

  The load empties `_rules_dict` before it validates the
  first entry and keys each rule as it goes. A load that
  raises earlier leaves the rules; one that meets an invalid
  entry leaves the rules of the entries before it.

  Key definitions include:
    * `ManagementApi.keyInto`
    * `ManagementApi.reloadRulesFromYaml`
    * `ManagementApi.KeepsRules`

  Main results:
    * `ManagementApi.reloadRulesFromYaml_outcome`
    * `ManagementApi.keepsRules_iff`
-/

------------------------------------------------------------
-- The Rules After A Load
------------------------------------------------------------

namespace FraudStream

namespace ManagementApi

/- The loop over the entries: `_rules_dict` when it ends, and
   the error that ended it early. -/
def keyInto :
    List PyVal → RulesDict →
      RulesDict × Option ValidationError
| [], rules => (rules, none)
| item :: items, rules =>
    match RuleDefinition.modelValidate item with
    | .error e => (rules, some e)
    | .ok rule =>
        keyInto items (Dict.put rules rule.ruleId rule)

/- `_load_rules_from_yaml` on `_rules_dict`: the rules when
   it returns or raises, and what it raises. -/
def reloadRulesFromYaml
    (readFile : String → Option String)
    (safeLoad : String → Except String PyVal)
    (yamlPath : String)
    (rulesDict : RulesDict) : RulesDict × Option LoadError :=
  match readFile yamlPath with
  | none => (rulesDict, some (.fileNotFound yamlPath))
  | some content =>
      match safeLoad content with
      | .error exc => (rulesDict, some (.yamlError exc))
      | .ok (.list items) =>
          let (rules, e?) := keyInto items Dict.empty
          (rules, e?.map .invalidRule)
      | .ok _ => (rulesDict, some .notAList)

/- The rules after a load that raises are the rules before
   it. -/
def KeepsRules
    (readFile : String → Option String)
    (safeLoad : String → Except String PyVal)
    (yamlPath : String)
    (rulesDict : RulesDict) : Prop :=
  (reloadRulesFromYaml readFile safeLoad yamlPath
      rulesDict).2 ≠ none →
    ∀ ruleId,
      Dict.get?
          (reloadRulesFromYaml readFile safeLoad yamlPath
            rulesDict).1 ruleId =
        Dict.get? rulesDict ruleId

/- The entries of the file start with valid ones, and the
   next is invalid. -/
def InvalidAfter
    (readFile : String → Option String)
    (safeLoad : String → Except String PyVal)
    (yamlPath : String)
    (rules : List RuleDefinition) : Prop :=
  ∃ content valid invalid rest e,
    readFile yamlPath = some content ∧
    safeLoad content = .ok (.list (valid ++ invalid :: rest)) ∧
    List.Forall₂
      (fun item rule =>
        RuleDefinition.modelValidate item = .ok rule)
      valid rules ∧
    RuleDefinition.modelValidate invalid = .error e

end ManagementApi

end FraudStream

------------------------------------------------------------
-- The Loop Over The Entries
------------------------------------------------------------

namespace FraudStream

namespace ManagementApi

/- The loop ends as the load that returns its rules does. -/
theorem keyRules_eq_keyInto
    (items : List PyVal)
    (rules : RulesDict) :
    keyRules items rules =
      match keyInto items rules with
      | (rules', none) => .ok rules'
      | (_, some e) => .error e := by
  induction items generalizing rules with
  | nil => rfl
  | cons item items ih =>
      rw [keyRules, keyInto]
      cases RuleDefinition.modelValidate item with
      | error e => rfl
      | ok rule => exact ih _

/- By induction on the entries: the loop stops at the first
   invalid one, with the rules keyed so far. -/
theorem keyInto_eq_some_iff
    (items : List PyVal)
    (rules rules' : RulesDict)
    (e : ValidationError) :
    keyInto items rules = (rules', some e) ↔
      ∃ valid invalid rest all,
        items = valid ++ invalid :: rest ∧
        List.Forall₂
          (fun item rule =>
            RuleDefinition.modelValidate item = .ok rule)
          valid all ∧
        RuleDefinition.modelValidate invalid = .error e ∧
        rules' =
          all.foldl
            (fun d rule => Dict.put d rule.ruleId rule)
            rules := by
  induction items generalizing rules with
  | nil => simp [keyInto]
  | cons item items ih =>
      rw [keyInto]
      cases hItem : RuleDefinition.modelValidate item with
      | error e' =>
          simp only [Prod.mk.injEq, Option.some.injEq]
          constructor
          · rintro ⟨rfl, rfl⟩
            exact ⟨[], item, items, [], rfl, .nil, hItem, rfl⟩
          · rintro ⟨valid, invalid, rest, all, hEq, hRest⟩
            rcases hRest with ⟨hValid, hInvalid, hRules⟩
            cases hValid with
            | nil =>
                cases hEq
                rw [hItem] at hInvalid
                cases hInvalid
                exact ⟨hRules.symm, rfl⟩
            | cons hFirst _ =>
                cases hEq
                rw [hItem] at hFirst
                cases hFirst
      | ok rule =>
          simp only [ih]
          constructor
          · rintro ⟨valid, invalid, rest, all, rfl, hRest⟩
            rcases hRest with ⟨hValid, hInvalid, hRules⟩
            exact ⟨item :: valid, invalid, rest, rule :: all,
              rfl, .cons hItem hValid, hInvalid, hRules⟩
          · rintro ⟨valid, invalid, rest, all, hEq, hRest⟩
            rcases hRest with ⟨hValid, hInvalid, hRules⟩
            cases hValid with
            | nil =>
                cases hEq
                rw [hItem] at hInvalid
                cases hInvalid
            | cons hFirst hValid =>
                cases hEq
                rw [hItem] at hFirst
                cases hFirst
                exact ⟨_, invalid, rest, _, rfl, hValid,
                  hInvalid, hRules⟩

end ManagementApi

end FraudStream

------------------------------------------------------------
-- Rules That Are Kept
------------------------------------------------------------

namespace FraudStream

namespace ManagementApi

/- A load raises here as the load that returns its rules
   does, and leaves the rules that the other returns. -/
theorem reloadRulesFromYaml_outcome
    (readFile : String → Option String)
    (safeLoad : String → Except String PyVal)
    (yamlPath : String)
    (rulesDict : RulesDict) :
    loadRulesFromYaml readFile safeLoad yamlPath =
      match reloadRulesFromYaml readFile safeLoad yamlPath
        rulesDict with
      | (rules, none) => .ok rules
      | (_, some e) => .error e := by
  unfold loadRulesFromYaml reloadRulesFromYaml
  cases readFile yamlPath with
  | none => rfl
  | some content =>
      simp only
      cases safeLoad content with
      | error exc => rfl
      | ok data =>
          cases data with
          | list items =>
              simp only [keyRules_eq_keyInto]
              rcases keyInto items Dict.empty with
                ⟨rules, _ | e⟩ <;> rfl
          | _ => rfl

/- When an entry is invalid, the load raises and leaves the
   rules of the entries before the first one. -/
theorem reload_of_invalidAfter
    {readFile : String → Option String}
    {safeLoad : String → Except String PyVal}
    {yamlPath : String}
    {all : List RuleDefinition}
    (hInvalid :
      InvalidAfter readFile safeLoad yamlPath all)
    (rulesDict : RulesDict) :
    (reloadRulesFromYaml readFile safeLoad yamlPath
        rulesDict).1 = keyedRules all ∧
      (reloadRulesFromYaml readFile safeLoad yamlPath
        rulesDict).2 ≠ none := by
  rcases hInvalid with
    ⟨content, valid, invalid, rest, e, hFile, hData, hRest⟩
  have hKeyed :=
    (keyInto_eq_some_iff (valid ++ invalid :: rest)
      Dict.empty _ e).2
      ⟨valid, invalid, rest, all, rfl, hRest.1, hRest.2, rfl⟩
  simp only [reloadRulesFromYaml, hFile, hData, hKeyed]
  constructor
  · rw [keyedRules, Dict.ofList, List.foldl_map]
  · simp

/- A load that raises and meets no invalid entry leaves the
   rules. -/
theorem reload_of_not_invalidAfter
    {readFile : String → Option String}
    {safeLoad : String → Except String PyVal}
    {yamlPath : String}
    (hValid :
      ∀ all, ¬ InvalidAfter readFile safeLoad yamlPath all)
    (rulesDict : RulesDict)
    (hRaises :
      (reloadRulesFromYaml readFile safeLoad yamlPath
        rulesDict).2 ≠ none) :
    (reloadRulesFromYaml readFile safeLoad yamlPath
      rulesDict).1 = rulesDict := by
  unfold reloadRulesFromYaml at hRaises ⊢
  cases hFile : readFile yamlPath with
  | none => rfl
  | some content =>
      simp only [hFile] at hRaises ⊢
      cases hData : safeLoad content with
      | error exc => rfl
      | ok data =>
          simp only [hData] at hRaises ⊢
          cases data with
          | list items =>
              rcases hKeyed : keyInto items Dict.empty with
                ⟨rules, _ | e⟩
              · simp [hKeyed] at hRaises
              · rcases (keyInto_eq_some_iff _ _ _ _).1
                    hKeyed with
                  ⟨valid, invalid, rest, all, rfl, hRest⟩
                exact absurd
                  ⟨content, valid, invalid, rest, e, hFile,
                    hData, hRest.1, hRest.2.1⟩ (hValid all)
          | _ => rfl

/- A load that raises keeps the rules exactly when no entry
   is invalid, or the rules of the entries before the first
   invalid one are the rules it found. -/
theorem keepsRules_iff
    (readFile : String → Option String)
    (safeLoad : String → Except String PyVal)
    (yamlPath : String)
    (rulesDict : RulesDict) :
    KeepsRules readFile safeLoad yamlPath rulesDict ↔
      ∀ all,
        InvalidAfter readFile safeLoad yamlPath all →
          ∀ ruleId,
            Dict.get? (keyedRules all) ruleId =
              Dict.get? rulesDict ruleId := by
  constructor
  · intro hKeeps all hInvalid
    rcases reload_of_invalidAfter hInvalid rulesDict with
      ⟨hRules, hRaises⟩
    rw [← hRules]
    exact hKeeps hRaises
  · intro hSame hRaises
    by_cases hInvalid :
        ∃ all, InvalidAfter readFile safeLoad yamlPath all
    · rcases hInvalid with ⟨all, hInvalid⟩
      rw [(reload_of_invalidAfter hInvalid rulesDict).1]
      exact hSame all hInvalid
    · rw [not_exists] at hInvalid
      rw [reload_of_not_invalidAfter hInvalid rulesDict
        hRaises]
      intro ruleId
      rfl

def velocityRule : RuleDefinition where
  ruleId := "VEL-001"
  name := "Many transactions"
  family := .velocity
  conditions := Dict.empty
  severity := .high
  enabled := true
  mode := .active

/- A rules file whose first entry is a number empties the
   rules. -/
theorem rules_are_lost :
    ¬ KeepsRules
      (fun _ => some "- 0")
      (fun _ => .ok (.list [.scalar (.int 0)]))
      "rules.yaml"
      (keyedRules [velocityRule]) := by
  intro hKeeps
  have hRule := hKeeps nofun "VEL-001"
  have hLost :
      Dict.get? (Dict.empty : RulesDict) "VEL-001" = none :=
    rfl
  have hFound :
      Dict.get? (keyedRules [velocityRule]) "VEL-001" =
        some velocityRule := rfl
  rw [hFound] at hRule
  cases hLost.symm.trans hRule

end ManagementApi

end FraudStream
