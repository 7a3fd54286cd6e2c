import FraudStream.Library.EndMask
import FraudStream.Library.JsonValue

/-
  The page that shows the messages of the dead-letter topic.

  A message is a JSON object. Unless masking is turned off,
  five fields that can hold personal data are shown as the
  first six and the last four characters of their text, or
  as four stars. A message that is no object is left out.

  Key definitions include:
    * `DlqInspector.maskedText`
    * `DlqInspector.shownPayload`
    * `DlqInspector.Hides`

  The main results are:
    * `DlqInspector.shownPayload_put`
    * `DlqInspector.hides_iff`
-/

------------------------------------------------------------
-- The Mask
------------------------------------------------------------

namespace FraudStream

namespace DlqInspector

def piiFields : List String :=
  ["card_number", "pan", "ip_address", "ip", "email"]

/- `val[:6] + "****" + val[-4:]`, or `"****"` -/
def maskedText (val : String) : String :=
  if 10 ≤ val.length then
    .ofList (val.toList.take 6) ++ "****" ++
      .ofList (val.toList.drop (val.length - 4))
  else
    "****"

/- `payload[field] = ...`, if the field is there. -/
def maskField
    (table : TextTable)
    (payload : JsonObject)
    (field : String) : JsonObject :=
  match Dict.get? payload field with
  | none => payload
  | some value =>
      Dict.put payload field
        (.str (maskedText (value.text table)))

/- The object that is shown of a message. -/
def shownPayload
    (maskPii : Bool)
    (table : TextTable)
    (payload : JsonObject) : JsonObject :=
  if maskPii then
    piiFields.foldl (maskField table) payload
  else
    payload

end DlqInspector

end FraudStream

------------------------------------------------------------
-- Masked Payloads
------------------------------------------------------------

namespace FraudStream

namespace DlqInspector

/- The value that is shown for a field of one of the names. -/
def shownValue
    (table : TextTable)
    (fields : List String)
    (field : String)
    (value : JsonValue) : JsonValue :=
  if field ∈ fields then
    .str (maskedText (value.text table))
  else
    value

/- An iteration masks the entry of its field. -/
theorem entries_maskField
    (table : TextTable)
    (payload : JsonObject)
    (field : String) :
    (maskField table payload field).entries =
      payload.entries.map
        (fun e => (e.1, shownValue table [field] e.1 e.2)) := by
  unfold maskField
  cases hValue : Dict.get? payload field with
  | none =>
      have hOthers :
          ∀ e ∈ payload.entries, e.1 ∉ [field] := by
        intro e hMem hField
        have hFound :=
          Dict.lookupEntries_of_mem payload.nodupKeys hMem
        rw [List.mem_singleton.1 hField] at hFound
        rw [Dict.get?, hFound] at hValue
        cases hValue
      symm
      apply (List.map_congr_left ?_).trans (List.map_id _)
      intro e hMem
      rw [shownValue, if_neg (hOthers e hMem)]
      rfl
  | some value =>
      rw [Dict.entries_put_of_get?
        (fun v => .str (maskedText (v.text table))) hValue]
      simp only [shownValue, List.mem_singleton]

/- Masking changes no name and keeps the order. Each field is
   masked once. -/
theorem entries_foldl_maskField
    (table : TextTable)
    {fields : List String}
    (hNodup : fields.Nodup)
    (payload : JsonObject) :
    (fields.foldl (maskField table) payload).entries =
      payload.entries.map
        (fun e => (e.1, shownValue table fields e.1 e.2)) := by
  induction fields generalizing payload with
  | nil => simp [shownValue]
  | cons field fields ih =>
      rw [List.nodup_cons] at hNodup
      rw [List.foldl_cons, ih hNodup.2, entries_maskField,
        List.map_map]
      apply List.map_congr_left
      intro e _
      by_cases hField : e.1 = field
      · have hLater : e.1 ∉ fields := by
          rw [hField]
          exact hNodup.1
        simp [shownValue, hField, hNodup.1]
      · simp [shownValue, hField]

theorem nodup_piiFields : piiFields.Nodup := by
  decide

theorem entries_shownPayload
    (table : TextTable)
    (payload : JsonObject) :
    (shownPayload true table payload).entries =
      payload.entries.map
        (fun e =>
          (e.1, shownValue table piiFields e.1 e.2)) :=
  entries_foldl_maskField table nodup_piiFields payload

theorem get?_shownPayload
    (table : TextTable)
    (payload : JsonObject)
    (field : String) :
    (shownPayload true table payload).get? field =
      (Dict.get? payload field).map
        (shownValue table piiFields field) := by
  rw [Dict.get?, entries_shownPayload,
    Dict.lookupEntries_map]
  rfl

/- Two values of a field that are shown alike make two
   payloads that are shown alike. -/
theorem shownPayload_put
    {table : TextTable}
    {payload : JsonObject}
    {field : String}
    {value other : JsonValue}
    (hValue : Dict.get? payload field = some value)
    (hShown :
      shownValue table piiFields field other =
        shownValue table piiFields field value) :
    shownPayload true table (Dict.put payload field other) =
      shownPayload true table payload := by
  apply Dict.ext
  rw [entries_shownPayload, entries_shownPayload,
    Dict.entries_put_of_get? (fun _ => other) hValue,
    List.map_map]
  apply List.map_congr_left
  intro e hMem
  by_cases hField : e.1 = field
  · have hFound :=
      Dict.lookupEntries_of_mem payload.nodupKeys hMem
    rw [hField] at hFound
    rw [Dict.get?, hFound] at hValue
    have hEntry : e.2 = value := Option.some.inj hValue
    simp [hField, hEntry, hShown]
  · simp [hField]

end DlqInspector

end FraudStream

------------------------------------------------------------
-- What The Mask Hides
------------------------------------------------------------

namespace FraudStream

namespace DlqInspector

/- The mask of the page, as a mask of characters. -/
def textMask : EndMask Char where
  front := 6
  back := 4
  threshold := 10
  filler := ['*', '*', '*', '*']

theorem toList_maskedText
    (val : String) :
    (maskedText val).toList = textMask.apply val.toList := by
  unfold maskedText EndMask.apply
  rw [← String.length_toList]
  by_cases hLong : 10 ≤ val.toList.length
  · have hThreshold : textMask.threshold ≤ val.toList.length :=
      hLong
    rw [if_pos hLong, if_pos hThreshold,
      String.toList_append, String.toList_append]
    rw [String.toList_ofList, String.toList_ofList,
      String.toList_ofList]
    rfl
  · have hThreshold :
        ¬textMask.threshold ≤ val.toList.length := hLong
    rw [if_neg hLong, if_neg hThreshold]
    exact String.toList_ofList

/- Ten characters are what the two ends have in all. -/
theorem exists_masked_alike_iff
    {val : String}
    (hNonempty : val ≠ "") :
    (∃ other, other ≠ val ∧ other.length = val.length ∧
        maskedText other = maskedText val) ↔
      val.length ≠ 10 := by
  have hChars : val.toList ≠ [] := by
    intro hNil
    exact hNonempty (String.toList_eq_nil_iff.1 hNil)
  have hTwo : Nontrivial Char := ⟨'*', 'a', by decide⟩
  have hConceals := textMask.conceals_iff hChars
  have hLengths :
      (val.toList.length < 10 ∨ 6 + 4 < val.toList.length) ↔
        val.length ≠ 10 := by
    rw [String.length_toList]
    omega
  rw [← hLengths]
  refine Iff.trans ?_ hConceals
  constructor
  · rintro ⟨other, hOther, hLength, hMasks⟩
    refine ⟨other.toList, ?_, ?_, ?_⟩
    · intro hSame
      exact hOther (String.toList_injective hSame)
    · rwa [String.length_toList, String.length_toList]
    · rw [← toList_maskedText, ← toList_maskedText, hMasks]
  · rintro ⟨cs, hOther, hLength, hMasks⟩
    refine ⟨.ofList cs, ?_, ?_, ?_⟩
    · intro hSame
      rw [← hSame, String.toList_ofList] at hOther
      exact hOther rfl
    · rw [← String.length_toList, String.toList_ofList,
        hLength, String.length_toList]
    · apply String.toList_injective
      rw [toList_maskedText, toList_maskedText,
        String.toList_ofList, hMasks]

/- The value that is shown of a field does not determine the
   text that the field has: another text of the same length
   is shown alike. -/
def Hides
    (table : TextTable)
    (payload : JsonObject)
    (field val : String) : Prop :=
  ∃ other : String,
    other ≠ val ∧ other.length = val.length ∧
      (shownPayload true table
          (Dict.put payload field (.str other))).get? field =
        (shownPayload true table payload).get? field

theorem shownValue_str
    (table : TextTable)
    {field : String}
    (hField : field ∈ piiFields)
    (val : String) :
    shownValue table piiFields field (.str val) =
      .str (maskedText val) := by
  rw [shownValue, if_pos hField, JsonValue.text]

/-
  With masking on, a nonempty text of a masked field of any
  message is hidden exactly when it has not ten characters.
-/
theorem hides_iff
    (table : TextTable)
    {payload : JsonObject}
    {field val : String}
    (hField : field ∈ piiFields)
    (hValue : Dict.get? payload field = some (.str val))
    (hNonempty : val ≠ "") :
    Hides table payload field val ↔ val.length ≠ 10 := by
  rw [← exists_masked_alike_iff hNonempty]
  constructor
  · rintro ⟨other, hOther, hLength, hShown⟩
    refine ⟨other, hOther, hLength, ?_⟩
    rw [get?_shownPayload, get?_shownPayload, Dict.get?_put,
      if_pos rfl, hValue, Option.map_some, Option.map_some,
      shownValue_str table hField,
      shownValue_str table hField] at hShown
    exact JsonValue.str.inj (Option.some.inj hShown)
  · rintro ⟨other, hOther, hLength, hMasks⟩
    refine ⟨other, hOther, hLength, ?_⟩
    rw [shownPayload_put hValue]
    rw [shownValue_str table hField,
      shownValue_str table hField, hMasks]

/- The address of a host on a local network. -/
def addressPayload (address : String) : JsonObject :=
  .ofList
    [("transaction_id", .str "txn-1"),
      ("ip", .str address)]

theorem get?_addressPayload
    (address : String) :
    Dict.get? (addressPayload address) "ip" =
      some (.str address) := by
  rw [addressPayload, Dict.get?_ofList (by simp)]
  rfl

/- A table that is not asked for these texts. -/
def plainTable : TextTable where
  isPrintable := fun _ => true
  floatText := fun _ => ""

/- An address of eleven characters is hidden. -/
theorem hides_long_address :
    Hides plainTable (addressPayload "10.0.0.1000") "ip"
        "10.0.0.1000" ↔
      "10.0.0.1000".length ≠ 10 :=
  hides_iff plainTable (by decide)
    (get?_addressPayload "10.0.0.1000") (by decide)

/- An address of ten characters can be read off the page. -/
theorem ten_characters_are_shown :
    (shownPayload true plainTable
        (addressPayload "10.0.0.100")).get? "ip" =
      some (.str "10.0.0****.100") ∧
      ¬Hides plainTable (addressPayload "10.0.0.100") "ip"
        "10.0.0.100" := by
  have hValue := get?_addressPayload "10.0.0.100"
  have hField : "ip" ∈ piiFields := by decide
  constructor
  · rw [get?_shownPayload, hValue, Option.map_some,
      shownValue_str plainTable hField]
    rfl
  · rintro ⟨other, hOther, hLength, hShown⟩
    rw [get?_shownPayload, get?_shownPayload, Dict.get?_put,
      if_pos rfl, hValue, Option.map_some, Option.map_some,
      shownValue_str plainTable hField,
      shownValue_str plainTable hField] at hShown
    have hMasks :=
      JsonValue.str.inj (Option.some.inj hShown)
    have hNonempty : "10.0.0.100" ≠ "" := by decide
    have hAlike :=
      (exists_masked_alike_iff hNonempty).1
        ⟨other, hOther, hLength, hMasks⟩
    exact hAlike (by decide)

end DlqInspector

end FraudStream
