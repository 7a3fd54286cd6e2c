import FraudStream.Scripts.DdlText
import Mathlib.Data.List.Chain

/-
  What the table definition holds after runs over versions
  of a schema.

  The file that the runs leave is the CREATE TABLE statement
  of the first version and an ADD COLUMN line for each name
  that a run did not find. A name is found again when the
  first version has it, in lower case and unlike a keyword:
  an ADD COLUMN line is passed over as a whole.

  Key definitions include:
    * `definedNames`, `timesDefined`
    * `Evolution`, `Evolution.output`
    * `CompleteAndIdempotent`
    * `FindsItsNames`

  Main results:
    * `loadExistingDdl_ddlText`
    * `output_eq_ddlText`
    * `timesDefined_ddlText`
    * `completeAndIdempotent_iff`
-/

------------------------------------------------------------
-- Versions And Definitions
------------------------------------------------------------

namespace FraudStream

open Decimal (isSpace)

def firstWord? (line : List Char) : Option (List Char) :=
  (TextLines.words isSpace line).head?

/- The columns that lines define, within the parentheses of
   CREATE TABLE and outside of them. -/
def definedNames :
    (inside : Bool) → List (List Char) → List (List Char)
| _, [] => []
| true, line :: lines =>
    if line = [')'] then
      definedNames false lines
    else
      (firstWord? line).toList ++ definedNames true lines
| false, line :: lines =>
    if line = createHeader then
      definedNames true lines
    else if addColumnText.isPrefixOf line then
      (firstWord?
        (line.drop addColumnText.length)).toList ++
          definedNames false lines
    else
      definedNames false lines

def timesDefined (name content : List Char) : Nat :=
  (definedNames false (content.splitOn '\n')).count name

/- A later version keeps the fields of an earlier one. -/
def AvroSchema.ExtendedBy (old new : AvroSchema) : Prop :=
  ∀ field ∈ old.fields, field ∈ new.fields

/- The schemas that the tool is run on, one run after the
   other. A version that is run on again extends itself. -/
structure Evolution where
  first : AvroSchema
  later : List AvroSchema
  compatible :
    (first :: later).IsChain AvroSchema.ExtendedBy

namespace Evolution

def last (evolution : Evolution) : AvroSchema :=
  evolution.later.getLastD evolution.first

/- The output file, which does not exist at first. -/
def output (evolution : Evolution) : Option (List Char) :=
  (evolution.first :: evolution.later).foldl
    (fun file schema => (evolveSchema (.parsed schema) file).2)
    none

end Evolution

structure CompleteAndIdempotent
    (evolution : Evolution) : Prop where
  definedOnce :
    ∃ content,
      evolution.output = some content ∧
      ∀ field ∈ evolution.last.fields,
        timesDefined field.name.text content = 1
  repeated :
    (evolveSchema (.parsed evolution.last)
      evolution.output).2 = evolution.output

/- The last version adds no field to the first, and the name
   of each is read back as it is written. -/
structure FindsItsNames
    (evolution : Evolution) : Prop where
  nothingAdded :
    ∀ field ∈ evolution.last.fields,
      field ∈ evolution.first.fields
  lowerCase :
    ∀ field ∈ evolution.last.fields,
      lower field.name.text = field.name.text
  unlikeKeyword :
    ∀ field ∈ evolution.last.fields,
      startsWithKeyword field.name.text = false

end FraudStream

------------------------------------------------------------
-- Runs Over Versions
------------------------------------------------------------

namespace FraudStream

/- The columns of a version that are not found in a file
   whose table has `columns`. -/
def missingColumns
    (columns : List Column)
    (schema : AvroSchema) : List Column :=
  (extractFields schema).filter
    (isMissing (foundNames columns))

theorem isWord_of_mem_missingColumns
    {columns : List Column}
    {schema : AvroSchema}
    {column : Column}
    (hMem : column ∈ missingColumns columns schema) :
    IsWord column.sqlType.toList :=
  isWord_of_mem_extractFields (List.mem_of_mem_filter hMem)

/- Later runs add the columns that are missing from their
   versions, one run after the other. -/
theorem foldl_evolveSchema
    {columns added : List Column}
    (hTypes :
      ∀ column ∈ columns ++ added,
        IsWord column.sqlType.toList)
    (later : List AvroSchema) :
    later.foldl
        (fun file schema =>
          (evolveSchema (.parsed schema) file).2)
        (some (ddlText columns added)) =
      some (ddlText columns
        (added ++ later.flatMap (missingColumns columns))) := by
  induction later generalizing added with
  | nil => simp
  | cons schema later ih =>
      have hMore :
          ∀ column ∈
              columns ++
                (added ++ missingColumns columns schema),
            IsWord column.sqlType.toList := by
        intro column hMem
        rw [← List.append_assoc] at hMem
        rcases List.mem_append.1 hMem with hOld | hNew
        · exact hTypes column hOld
        · exact isWord_of_mem_missingColumns hNew
      rw [List.foldl_cons, evolveSchema_ddlText hTypes,
        ← missingColumns, ih hMore, List.flatMap_cons,
        List.append_assoc]

namespace Evolution

def columns (evolution : Evolution) : List Column :=
  extractFields evolution.first

def added (evolution : Evolution) : List Column :=
  evolution.later.flatMap
    (missingColumns evolution.columns)

theorem isWord_columns
    (evolution : Evolution) :
    ∀ column ∈ evolution.columns ++ evolution.added,
      IsWord column.sqlType.toList := by
  intro column hMem
  rcases List.mem_append.1 hMem with hFirst | hAdded
  · exact isWord_of_mem_extractFields hFirst
  · rcases List.mem_flatMap.1 hAdded with
      ⟨schema, -, hMissing⟩
    exact isWord_of_mem_missingColumns hMissing

theorem output_eq_ddlText (evolution : Evolution) :
    evolution.output =
      some (ddlText evolution.columns evolution.added) := by
  have hFirst :
      ∀ column ∈ evolution.columns ++ [],
        IsWord column.sqlType.toList := by
    intro column hMem
    rw [List.append_nil] at hMem
    exact isWord_of_mem_extractFields hMem
  rw [output, List.foldl_cons, evolveSchema_none]
  exact foldl_evolveSchema hFirst evolution.later

end Evolution

/- What is appended to a table shows in its text. -/
theorem ddlText_append_eq_iff
    (columns added more : List Column) :
    ddlText columns (added ++ more) = ddlText columns added ↔
      more = [] := by
  unfold ddlText
  rw [List.map_append, ← List.append_assoc,
    TextLines.unlines_append, List.append_right_eq_self,
    TextLines.unlines_eq_nil_iff, List.map_eq_nil_iff]

end FraudStream

------------------------------------------------------------
-- Definitions In The File
------------------------------------------------------------

namespace FraudStream

open Decimal (isSpace)
open TextLines (unlines)

def columnNames (columns : List Column) :
    List (List Char) :=
  columns.map fun column => column.name.text

theorem firstWord?_columnLine
    (column : Column)
    (comma : List Char) :
    firstWord? (columnLine column ++ comma) =
      some column.name.text := by
  have hSpaces : ∀ c ∈ [' ', ' '], isSpace c = true :=
    List.all_eq_true.1 (by decide)
  rw [firstWord?, columnLine_append,
    TextLines.words_spaces_append _ hSpaces,
    TextLines.words_word_append column.name.isWord.plain
      column.name.isWord.nonempty (by decide)]
  rfl

theorem columnLine_ne
    (column : Column)
    (comma : List Char) :
    columnLine column ++ comma ≠ [')'] := by
  unfold columnLine
  simp only [List.append_assoc, List.cons_append]
  intro hSame
  exact absurd (List.cons.inj hSame).1 (by decide)

/- The lines within the parentheses define the columns. -/
theorem definedNames_commaLines
    (columns : List Column)
    (rest : List (List Char)) :
    definedNames true
        (commaLines (columns.map columnLine) ++
          [')'] :: rest) =
      columnNames columns ++ definedNames false rest := by
  have hClose :
      definedNames true ([')'] :: rest) =
        definedNames false rest := by
    rw [definedNames, if_pos rfl]
  have hColumn :
      ∀ column comma lines,
        definedNames true
            ((columnLine column ++ comma) :: lines) =
          column.name.text :: definedNames true lines := by
    intro column comma lines
    rw [definedNames, if_neg (columnLine_ne _ _),
      firstWord?_columnLine]
    rfl
  induction columns with
  | nil =>
      have hBlank :
          definedNames true ([] :: [')'] :: rest) =
            definedNames true ([')'] :: rest) := by
        rw [definedNames, if_neg (by simp), firstWord?,
          TextLines.words_nil]
        rfl
      exact hBlank.trans hClose
  | cons column columns ih =>
      cases columns with
      | nil =>
          have hOnly := hColumn column [] ([')'] :: rest)
          rw [List.append_nil, hClose] at hOnly
          exact hOnly
      | cons next columns =>
          simp only [List.map_cons] at ih ⊢
          rw [commaLines, List.cons_append, hColumn, ih]
          rfl

/- A line that adds a column defines it. -/
theorem definedNames_alterLine
    (added : List Column)
    (rest : List (List Char)) :
    definedNames false (added.map alterLine ++ rest) =
      columnNames added ++ definedNames false rest := by
  induction added with
  | nil => rfl
  | cons column added ih =>
      have hOther : alterLine column ≠ createHeader := by
        rw [alterLine_eq,
          show addColumnText = _ from String.toList_ofList,
          show createHeader = _ from String.toList_ofList,
          List.cons_append]
        intro hSame
        exact absurd (List.cons.inj hSame).1 (by decide)
      have hAdds :
          addColumnText.isPrefixOf (alterLine column) =
            true := by
        rw [alterLine_eq, List.isPrefixOf_iff_prefix]
        exact List.prefix_append _ _
      have hName :
          firstWord?
              ((alterLine column).drop
                addColumnText.length) =
            some column.name.text := by
        rw [alterLine_eq, List.drop_left, firstWord?,
          TextLines.words_word_append
            column.name.isWord.plain
            column.name.isWord.nonempty (by decide)]
        rfl
      rw [List.map_cons, List.cons_append, definedNames,
        if_neg hOther, if_pos hAdds, hName, ih]
      rfl

theorem definedNames_createFooter
    (rest : List (List Char)) :
    definedNames false
        ("USING iceberg".toList ::
          "PARTITIONED BY (days(event_time));".toList ::
            rest) =
      definedNames false rest := by
  have hPassed :
      ∀ line lines,
        line.head? ≠ some 'A' → line.head? ≠ some 'C' →
        definedNames false (line :: lines) =
          definedNames false lines := by
    intro line lines hAdds hCreates
    have hHeader : line ≠ createHeader := by
      rintro rfl
      exact hCreates rfl
    have hText : addColumnText.isPrefixOf line = false := by
      rw [show addColumnText = _ from String.toList_ofList]
      cases line with
      | nil => rfl
      | cons c cs =>
          have hFirst : 'A' ≠ c := by
            rintro rfl
            exact hAdds rfl
          simp [List.isPrefixOf, hFirst]
    rw [definedNames, if_neg hHeader, if_neg (by simp [hText])]
  rw [hPassed, hPassed]
  all_goals
    rw [String.toList_ofList]
    decide

/- A name is defined as often as it is the name of a column
   of the table or of one that was added. -/
theorem timesDefined_ddlText
    {columns added : List Column}
    (hTypes :
      ∀ column ∈ columns ++ added,
        IsWord column.sqlType.toList)
    (name : List Char) :
    timesDefined name (ddlText columns added) =
      (columnNames columns).count name +
        (columnNames added).count name := by
  have hLines :
      (ddlText columns added).splitOn '\n' =
        createLines columns ++ added.map alterLine ++ [[]] :=
    TextLines.splitOn_unlines (newline_notMem_ddl hTypes)
  have hLast : definedNames false [[]] = [] := by
    rw [definedNames,
      show createHeader = _ from String.toList_ofList,
      show addColumnText = _ from String.toList_ofList]
    rfl
  have hNames :
      definedNames false
          (createLines columns ++ added.map alterLine ++
            [[]]) =
        columnNames columns ++ columnNames added := by
    unfold createLines createFooter
    simp only [List.append_assoc, List.cons_append,
      List.nil_append]
    rw [definedNames, if_pos rfl, definedNames_commaLines,
      definedNames_createFooter, definedNames_alterLine,
      hLast, List.append_nil]
  rw [timesDefined, hLines, hNames, List.count_append]

end FraudStream

------------------------------------------------------------
-- When Runs Find Their Names
------------------------------------------------------------

namespace FraudStream

theorem AvroName.ext
    {name other : AvroName}
    (hText : name.text = other.text) :
    name = other := by
  cases name
  cases other
  cases hText
  rfl

theorem columnNames_extractFields (schema : AvroSchema) :
    columnNames (extractFields schema) =
      (schema.fields.map AvroField.name).map
        AvroName.text := by
  simp [columnNames, extractFields]

theorem nodup_columnNames (schema : AvroSchema) :
    (columnNames (extractFields schema)).Nodup := by
  rw [columnNames_extractFields]
  exact schema.distinct.map fun _ _ => AvroName.ext

theorem mem_columnNames_iff
    {schema : AvroSchema}
    {name : List Char} :
    name ∈ columnNames (extractFields schema) ↔
      ∃ field ∈ schema.fields, field.name.text = name := by
  simp [columnNames, extractFields]

/- A name is found when its column is created, in lower case
   and unlike a keyword. -/
theorem mem_foundNames_iff
    {columns : List Column}
    {name : List Char} :
    name ∈ foundNames columns ↔
      ∃ column ∈ columns,
        startsWithKeyword (lower column.name.text) = false ∧
          lower column.name.text = name := by
  simp [foundNames, fieldOfWord?]

theorem missingColumns_eq_nil_iff
    {columns : List Column}
    {schema : AvroSchema} :
    missingColumns columns schema = [] ↔
      ∀ field ∈ schema.fields,
        field.name.text ∈ foundNames columns := by
  simp [missingColumns, extractFields, isMissing]

instance :
    Trans AvroSchema.ExtendedBy AvroSchema.ExtendedBy
      AvroSchema.ExtendedBy where
  trans hOld hNew := fun field hMem =>
    hNew field (hOld field hMem)

namespace Evolution

variable {evolution : Evolution}

/- No version takes a field of the first away. -/
theorem first_extendedBy_last :
    evolution.first.ExtendedBy evolution.last := by
  rw [last]
  cases hLast : evolution.later.getLast? with
  | none =>
      rw [List.getLastD_eq_getLast?, hLast]
      exact fun field hMem => hMem
  | some schema =>
      rw [List.getLastD_eq_getLast?, hLast]
      exact
        evolution.compatible.rel_cons
          (List.mem_of_getLast? hLast)

/- A name that is found is never added. -/
theorem notMem_columnNames_added
    {name : List Char}
    (hFound : name ∈ foundNames evolution.columns) :
    name ∉ columnNames evolution.added := by
  intro hMem
  rcases List.mem_map.1 hMem with ⟨column, hColumn, rfl⟩
  rcases List.mem_flatMap.1 hColumn with
    ⟨schema, -, hMissing⟩
  have hNotFound := (List.mem_filter.1 hMissing).2
  simp [isMissing, hFound] at hNotFound

theorem repeated_iff :
    (evolveSchema (.parsed evolution.last)
        evolution.output).2 = evolution.output ↔
      ∀ field ∈ evolution.last.fields,
        field.name.text ∈ foundNames evolution.columns := by
  rw [output_eq_ddlText,
    evolveSchema_ddlText evolution.isWord_columns,
    ← missingColumns, Option.some.injEq,
    ddlText_append_eq_iff, missingColumns_eq_nil_iff]

/- A name that is found is defined once when the first
   version has it, and not at all otherwise. -/
theorem timesDefined_of_found
    {name : List Char}
    (hFound : name ∈ foundNames evolution.columns) :
    timesDefined name
        (ddlText evolution.columns evolution.added) =
      if name ∈ columnNames evolution.columns then
        1
      else
        0 := by
  have hAdded :=
    List.count_eq_zero.2 (notMem_columnNames_added hFound)
  rw [timesDefined_ddlText evolution.isWord_columns, hAdded,
    Nat.add_zero]
  exact (nodup_columnNames evolution.first).count

theorem definedOnce_iff
    (hFound :
      ∀ field ∈ evolution.last.fields,
        field.name.text ∈ foundNames evolution.columns) :
    (∀ field ∈ evolution.last.fields,
      timesDefined field.name.text
        (ddlText evolution.columns evolution.added) = 1) ↔
      ∀ field ∈ evolution.last.fields,
        field ∈ evolution.first.fields := by
  constructor
  · intro hOnce field hMem
    have hTimes := hOnce field hMem
    rw [timesDefined_of_found (hFound field hMem)] at hTimes
    have hName :
        field.name.text ∈ columnNames evolution.columns := by
      by_contra hNotMem
      simp [hNotMem] at hTimes
    rcases mem_columnNames_iff.1 hName with
      ⟨other, hOther, hSame⟩
    have hEqual : other = field :=
      List.inj_on_of_nodup_map evolution.last.distinct
        (first_extendedBy_last other hOther) hMem
        (AvroName.ext hSame)
    rwa [← hEqual]
  · intro hFirst field hMem
    have hName :
        field.name.text ∈ columnNames evolution.columns :=
      mem_columnNames_iff.2 ⟨field, hFirst field hMem, rfl⟩
    rw [timesDefined_of_found (hFound field hMem),
      if_pos hName]

end Evolution

/- The file is complete, and a run that is repeated leaves
   it, exactly when every name is found again. -/
theorem completeAndIdempotent_iff
    (evolution : Evolution) :
    CompleteAndIdempotent evolution ↔
      FindsItsNames evolution := by
  constructor
  · intro hComplete
    have hFound := Evolution.repeated_iff.1 hComplete.repeated
    rcases hComplete.definedOnce with
      ⟨content, hContent, hOnce⟩
    rw [evolution.output_eq_ddlText,
      Option.some.injEq] at hContent
    subst hContent
    have hSpelling :
        ∀ field ∈ evolution.last.fields,
          lower field.name.text = field.name.text ∧
            startsWithKeyword field.name.text = false := by
      intro field hMem
      rcases mem_foundNames_iff.1 (hFound field hMem) with
        ⟨column, -, hKeyword, hLower⟩
      rw [← hLower]
      exact ⟨lower_lower _, hKeyword⟩
    exact
      { nothingAdded :=
          (Evolution.definedOnce_iff hFound).1 hOnce
        lowerCase := fun field hMem =>
          (hSpelling field hMem).1
        unlikeKeyword := fun field hMem =>
          (hSpelling field hMem).2 }
  · intro hFinds
    have hFound :
        ∀ field ∈ evolution.last.fields,
          field.name.text ∈
            foundNames evolution.columns := by
      intro field hMem
      have hLower := hFinds.lowerCase field hMem
      have hKeyword := hFinds.unlikeKeyword field hMem
      refine
        mem_foundNames_iff.2
          ⟨_,
            List.mem_map.2
              ⟨field, hFinds.nothingAdded field hMem, rfl⟩,
            ?_⟩
      exact ⟨by rw [hLower, hKeyword], hLower⟩
    exact
      { definedOnce :=
          ⟨_, evolution.output_eq_ddlText,
            (Evolution.definedOnce_iff hFound).2
              hFinds.nothingAdded⟩
        repeated := Evolution.repeated_iff.2 hFound }

/- A field of a version of two, and the one that the second
   version adds. -/
def idName : AvroName where
  text := ['i', 'd']
  wellFormed := rfl

def mccName : AvroName where
  text := ['m', 'c', 'c']
  wellFormed := rfl

def idField : AvroField where
  name := idName
  type := .named "string"

def mccField : AvroField where
  name := mccName
  type := .union [.named "null", .named "string"]

theorem distinct_idField :
    ([idField].map AvroField.name).Nodup := by
  decide

theorem distinct_idField_mccField :
    ([idField, mccField].map AvroField.name).Nodup := by
  decide

def firstVersion : AvroSchema where
  fields := [idField]
  distinct := distinct_idField

def secondVersion : AvroSchema where
  fields := [idField, mccField]
  distinct := distinct_idField_mccField

theorem compatible_versions :
    [firstVersion, secondVersion].IsChain
      AvroSchema.ExtendedBy := by
  rw [List.isChain_pair]
  exact fun field hMem => List.mem_append_left _ hMem

/- A field that a later version adds is added once more by
   each run after it. -/
theorem added_field_is_added_again :
    ¬ CompleteAndIdempotent
      { first := firstVersion
        later := [secondVersion]
        compatible := compatible_versions } := by
  intro hComplete
  have hFound :=
    Evolution.repeated_iff.1 hComplete.repeated mccField
      (List.mem_cons_of_mem _ List.mem_cons_self)
  have hMissing :
      ['m', 'c', 'c'] ∉
        foundNames (extractFields firstVersion) := by
    decide +kernel
  exact hMissing hFound

end FraudStream
