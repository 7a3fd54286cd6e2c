import FraudStream.Library.PyText
import FraudStream.Scripts.IcebergDdl
import Mathlib.Data.List.Infix

/-
  The texts that the generator writes, and what it finds in
  them.

  A file of its own is the lines of CREATE TABLE and a line
  for each column that was added. The generator finds the
  created columns whose names are unlike the keywords, by
  their names in lower case, and none of those that were
  added.

  Key definitions include:
    * `IsWord`
    * `createLines`, `alterLine`, `ddlText`
    * `fieldOfWord?`, `foundNames`

  Main results:
    * `fieldOfLine?_columnLine`
    * `fieldOfLine?_alterLine`
    * `loadExistingDdl_ddlText`
    * `evolveSchema_ddlText`
-/

------------------------------------------------------------
-- Names And Types
------------------------------------------------------------

namespace FraudStream

open Decimal (isSpace)

/- A text without white space that is not empty. -/
structure IsWord (text : List Char) : Prop where
  nonempty : text ≠ []
  plain : ∀ c ∈ text, isSpace c = false

theorem isSpace_of_isNamePart
    {c : Char}
    (hPart : isNamePart c = true) :
    isSpace c = false := by
  have hRange : 48 ≤ c.toNat ∧ c.toNat ≤ 122 := by
    delta isNamePart Char.isAlphanum Char.isAlpha
      Char.isUpper Char.isLower Char.isDigit at hPart
    simp only [Bool.or_eq_true, Bool.and_eq_true,
      decide_eq_true_eq, ge_iff_le,
      UInt32.le_iff_toNat_le] at hPart
    change
      ((((65 ≤ c.toNat ∧ c.toNat ≤ 90) ∨
        (97 ≤ c.toNat ∧ c.toNat ≤ 122)) ∨
        (48 ≤ c.toNat ∧ c.toNat ≤ 57)) ∨ c = '_') at hPart
    rcases hPart with hPart | rfl
    · omega
    · decide
  simp only [isSpace, Decimal.wideSpaces]
  simp
  omega

theorem AvroName.isWord (name : AvroName) :
    IsWord name.text := by
  rcases name with ⟨_ | ⟨c, cs⟩, hFormed⟩
  · exact absurd hFormed (by decide)
  · simp only [isAvroName, Bool.and_eq_true,
      List.all_eq_true] at hFormed
    refine ⟨List.cons_ne_nil _ _, ?_⟩
    intro d hMem
    apply isSpace_of_isNamePart
    rcases List.mem_cons.1 hMem with rfl | hRest
    · have hStart := hFormed.1
      simp only [isNameStart, Bool.or_eq_true] at hStart
      rcases hStart with hAlpha | hUnderscore
      · simp [isNamePart, Char.isAlphanum, hAlpha]
      · simp [isNamePart, hUnderscore]
    · exact hFormed.2 d hRest

theorem IsWord.of_all
    {text : List Char}
    (hAll :
      (!text.isEmpty && text.all fun c => !isSpace c) =
        true) :
    IsWord text := by
  simp only [Bool.and_eq_true, Bool.not_eq_true',
    List.isEmpty_eq_false_iff, List.all_eq_true] at hAll
  exact ⟨hAll.1, hAll.2⟩

/- The characters of a literal are found by unification. -/
theorem IsWord.ofList
    {text : List Char}
    (hAll :
      (!text.isEmpty && text.all fun c => !isSpace c) =
        true) :
    IsWord (String.ofList text).toList := by
  rw [String.toList_ofList]
  exact IsWord.of_all hAll

theorem IsWord.append
    {text more : List Char}
    (hText : IsWord text)
    (hMore : ∀ c ∈ more, isSpace c = false) :
    IsWord (text ++ more) := by
  refine ⟨by simp [hText.nonempty], ?_⟩
  intro c hMem
  rcases List.mem_append.1 hMem with hFirst | hRest
  · exact hText.plain c hFirst
  · exact hMore c hRest

theorem isSpace_of_mem_toString
    {c : Char}
    {n : Int}
    (hMem : c ∈ (toString n).toList) :
    isSpace c = false := by
  rcases PyText.mem_toString_int hMem with hDigit | rfl
  · apply isSpace_of_isNamePart
    simp [isNamePart, Char.isAlphanum, hDigit]
  · decide

theorem isWord_parsePrimitive (name : String) :
    IsWord (parsePrimitive name).toList := by
  unfold parsePrimitive
  split_ifs
  all_goals exact IsWord.ofList (by decide)

theorem isWord_decimal (precision scale : Int) :
    IsWord
      ("DECIMAL(" ++ toString precision ++ "," ++
        toString scale ++ ")").toList := by
  have hOpen : IsWord "DECIMAL(".toList :=
    IsWord.ofList (by decide)
  have hComma : IsWord ",".toList :=
    IsWord.ofList (by decide)
  have hClose : IsWord ")".toList :=
    IsWord.ofList (by decide)
  simp only [String.toList_append]
  apply IsWord.append _ hClose.plain
  apply IsWord.append _ fun _ => isSpace_of_mem_toString
  apply IsWord.append _ hComma.plain
  exact hOpen.append fun _ => isSpace_of_mem_toString

mutual

theorem isWord_parseAvroType :
    ∀ type : AvroType, IsWord (parseAvroType type).toList
| .named name => isWord_parsePrimitive name
| .union branches => by
    have hNonNull := isWord_of_mem_parseNonNull branches
    rw [parseAvroType]
    split
    · next sqlType hOne =>
        exact hNonNull sqlType (by simp [hOne])
    · exact IsWord.ofList (by decide)
| .object base logicalType precision scale => by
    rw [parseAvroType]
    split_ifs
    · exact IsWord.ofList (by decide)
    · exact isWord_decimal _ _
    · exact IsWord.ofList (by decide)
    · exact isWord_parseAvroType base

theorem isWord_of_mem_parseNonNull :
    ∀ branches : List AvroType,
      ∀ sqlType ∈ parseNonNull branches,
        IsWord sqlType.toList
| [], sqlType, hMem => by
    simp [parseNonNull] at hMem
| branch :: branches, sqlType, hMem => by
    rw [parseNonNull] at hMem
    split at hMem
    · exact isWord_of_mem_parseNonNull branches sqlType hMem
    · rcases List.mem_cons.1 hMem with rfl | hRest
      · exact isWord_parseAvroType branch
      · exact
          isWord_of_mem_parseNonNull branches sqlType hRest

end

theorem isWord_of_mem_extractFields
    {schema : AvroSchema}
    {column : Column}
    (hMem : column ∈ extractFields schema) :
    IsWord column.sqlType.toList := by
  rcases List.mem_map.1 hMem with ⟨field, -, rfl⟩
  exact isWord_parseAvroType field.type

/- Case is folded once and for all. -/
theorem toLower_toLower (c : Char) :
    c.toLower.toLower = c.toLower := by
  by_cases hUpper : c.val ≥ 'A'.val ∧ c.val ≤ 'Z'.val
  · have hAll :
        ∀ n < 128,
          (Char.ofNat n).toLower.toLower =
            (Char.ofNat n).toLower := by
      decide +kernel
    have hSmall : c.toNat < 128 :=
      Nat.lt_of_le_of_lt hUpper.2 (by decide)
    have hChar := hAll c.toNat hSmall
    rwa [Char.ofNat_toNat] at hChar
  · have hSame : c.toLower = c := dif_neg hUpper
    rw [hSame, hSame]

theorem lower_lower (text : List Char) :
    lower (lower text) = lower text := by
  simp only [lower, List.map_map]
  exact List.map_congr_left fun c _ => toLower_toLower c

end FraudStream

------------------------------------------------------------
-- Statements By Lines
------------------------------------------------------------

namespace FraudStream

open TextLines (unlines)

/- A comma ends each line but the last. There is a line also
   when there is no column. -/
def commaLines : List (List Char) → List (List Char)
| [] => [[]]
| [line] => [line]
| line :: next :: lines =>
    (line ++ [',']) :: commaLines (next :: lines)

def createFooter : List (List Char) :=
  [[')'], "USING iceberg".toList,
    "PARTITIONED BY (days(event_time));".toList]

def createLines (columns : List Column) :
    List (List Char) :=
  createHeader :: commaLines (columns.map columnLine) ++
    createFooter

def alterLine (column : Column) : List Char :=
  addColumnText ++ column.name.text ++ [' '] ++
    column.sqlType.toList ++ [';']

/- The text of a table that was created with `columns` and
   to which `added` were added. -/
def ddlText (columns added : List Column) : List Char :=
  unlines '\n'
    (createLines columns ++ added.map alterLine)

/- The name in a line stands between spaces. -/
theorem columnLine_append
    (column : Column)
    (comma : List Char) :
    columnLine column ++ comma =
      [' ', ' '] ++
        (column.name.text ++
          ' ' :: (column.sqlType.toList ++
            ((if column.nullable then [] else
              " NOT NULL".toList) ++ comma))) := by
  unfold columnLine
  simp only [List.append_assoc, List.cons_append,
    List.nil_append]

theorem alterLine_eq (column : Column) :
    alterLine column =
      addColumnText ++
        (column.name.text ++
          ' ' :: (column.sqlType.toList ++ [';'])) := by
  unfold alterLine
  simp only [List.append_assoc, List.cons_append,
    List.nil_append]

theorem intercalate_commaLines
    (lines : List (List Char)) :
    [',', '\n'].intercalate lines ++ ['\n'] =
      unlines '\n' (commaLines lines) := by
  induction lines using commaLines.induct with
  | case1 => rfl
  | case2 line =>
      simp [commaLines, unlines, List.intercalate]
  | case3 line next lines ih =>
      rw [commaLines, TextLines.unlines_cons, ← ih]
      simp [List.intercalate]

theorem generateCreateTable_eq
    (columns : List Column) :
    generateCreateTable columns = ddlText columns [] := by
  unfold ddlText createLines createFooter
    generateCreateTable
  rw [List.map_nil, List.append_nil,
    TextLines.unlines_append, TextLines.unlines_cons,
    ← intercalate_commaLines]
  simp only [unlines, List.flatMap_cons, List.flatMap_nil,
    List.append_assoc, List.cons_append, List.nil_append,
    List.append_nil]

theorem alterStatement_eq (column : Column) :
    alterStatement column =
      alterLine column ++ ['\n'] := by
  unfold alterStatement alterLine
  simp only [List.append_assoc, List.cons_append,
    List.nil_append]

theorem generateAlterStatements_eq
    (newFields : List Column)
    (existing : List (List Char)) :
    generateAlterStatements newFields existing =
      unlines '\n'
        ((newFields.filter (isMissing existing)).map
          alterLine) := by
  induction newFields with
  | nil => rfl
  | cons column newFields ih =>
      rw [generateAlterStatements] at ih ⊢
      rw [List.flatMap_cons, ih]
      cases hMissing : isMissing existing column with
      | false => simp [hMissing]
      | true =>
          simp [hMissing, alterStatement_eq,
            TextLines.unlines_cons]

end FraudStream

------------------------------------------------------------
-- What Is Found In A Line
------------------------------------------------------------

namespace FraudStream

open Decimal (isSpace)

/- What a first word is taken to be. -/
def fieldOfWord? (word : List Char) : Option (List Char) :=
  if startsWithKeyword (lower word) then
    none
  else
    some (lower word)

/- A line that begins with a word and goes on after a space
   is taken to define that word. -/
theorem fieldOfLine?_word
    {spaces word : List Char}
    {c : Char}
    (more : List Char)
    (hSpaces : ∀ b ∈ spaces, isSpace b = true)
    (hWord : IsWord word)
    (hStart : word.head? ≠ some '-' ∧ word.head? ≠ some '(')
    (hMore : isSpace c = false) :
    fieldOfLine? (spaces ++ (word ++ ' ' :: c :: more)) =
      fieldOfWord? word := by
  rcases List.exists_cons_of_ne_nil hWord.nonempty with
    ⟨a, word, rfl⟩
  have hWords :
      TextLines.words isSpace
          (TextLines.strip isSpace
            (spaces ++ ((a :: word) ++ ' ' :: c :: more))) =
        (a :: word) ::
          TextLines.words isSpace (c :: more) := by
    rw [TextLines.words_strip,
      TextLines.words_spaces_append _ hSpaces,
      TextLines.words_word_append hWord.plain
        hWord.nonempty (by decide)]
  rcases TextLines.strip_spaces_cons
      (word ++ ' ' :: c :: more) hSpaces
      (hWord.plain a List.mem_cons_self) with
    ⟨rest, hStrip⟩
  rcases List.exists_cons_of_ne_nil
      (TextLines.words_cons_ne_nil more hMore) with
    ⟨second, others, hSecond⟩
  rw [List.cons_append, hStrip, hSecond] at hWords
  have hDash : a ≠ '-' := by
    rintro rfl
    exact hStart.1 rfl
  have hParen : a ≠ '(' := by
    rintro rfl
    exact hStart.2 rfl
  have hPlain :
      (!(a :: rest).isEmpty &&
        !"--".toList.isPrefixOf (a :: rest) &&
        !"(".toList.isPrefixOf (a :: rest)) = true := by
    simp [List.isPrefixOf, Ne.symm hDash, Ne.symm hParen]
  unfold fieldOfLine?
  rw [List.cons_append, hStrip]
  simp only [hPlain, if_true, hWords]
  rfl

theorem AvroName.head?_text (name : AvroName) :
    name.text.head? ≠ some '-' ∧
      name.text.head? ≠ some '(' := by
  have hNoStart :
      isNameStart '-' = false ∧ isNameStart '(' = false := by
    decide
  rcases name with ⟨_ | ⟨c, cs⟩, hFormed⟩
  · exact absurd hFormed (by decide)
  · simp only [isAvroName, Bool.and_eq_true] at hFormed
    simp only [List.head?_cons, ne_eq, Option.some.injEq]
    constructor
    · rintro rfl
      simp [hNoStart.1] at hFormed
    · rintro rfl
      simp [hNoStart.2] at hFormed

/- The line of a column is taken to define its name. -/
theorem fieldOfLine?_columnLine
    {column : Column}
    (hType : IsWord column.sqlType.toList)
    (comma : List Char) :
    fieldOfLine? (columnLine column ++ comma) =
      fieldOfWord? column.name.text := by
  rcases List.exists_cons_of_ne_nil hType.nonempty with
    ⟨c, cs, hChars⟩
  have hSpaces : ∀ b ∈ [' ', ' '], isSpace b = true :=
    List.all_eq_true.1 (by decide)
  rw [columnLine_append, hChars, List.cons_append (a := c)]
  exact
    fieldOfLine?_word _ hSpaces column.name.isWord
      column.name.head?_text
      (hType.plain c (by simp [hChars]))

theorem fieldOfLine?_createHeader :
    fieldOfLine? createHeader = none := by
  rw [show createHeader = _ from String.toList_ofList]
  decide +kernel

theorem filterMap_createFooter :
    createFooter.filterMap fieldOfLine? = [] := by
  unfold createFooter
  rw [show "USING iceberg".toList = _ from
      String.toList_ofList,
    show "PARTITIONED BY (days(event_time));".toList = _ from
      String.toList_ofList]
  decide +kernel

theorem fieldOfLine?_nil : fieldOfLine? [] = none := by
  decide

/- A line that adds a column is passed over. -/
theorem fieldOfLine?_alterLine (column : Column) :
    fieldOfLine? (alterLine column) = none := by
  have hFirst :
      ∃ more,
        alterLine column =
          [] ++
            (['A', 'L', 'T', 'E', 'R'] ++
              ' ' :: 'T' :: more) := by
    rw [alterLine_eq,
      show addColumnText = _ from String.toList_ofList]
    exact ⟨_, rfl⟩
  have hWord : IsWord ['A', 'L', 'T', 'E', 'R'] :=
    IsWord.of_all (by decide)
  have hKeyword :
      fieldOfWord? ['A', 'L', 'T', 'E', 'R'] = none := by
    decide +kernel
  rcases hFirst with ⟨more, hLine⟩
  rw [hLine, ← hKeyword]
  exact
    fieldOfLine?_word more (List.forall_mem_nil _) hWord
      (by decide) (by decide)

end FraudStream

------------------------------------------------------------
-- What Is Found In The File
------------------------------------------------------------

namespace FraudStream

open Decimal (isSpace)
open TextLines (unlines)

/- The names that are found where `columns` are created. -/
def foundNames (columns : List Column) : List (List Char) :=
  columns.filterMap fun column =>
    fieldOfWord? column.name.text

theorem filterMap_commaLines
    {columns : List Column}
    (hTypes :
      ∀ column ∈ columns, IsWord column.sqlType.toList) :
    (commaLines (columns.map columnLine)).filterMap
        fieldOfLine? =
      foundNames columns := by
  induction columns with
  | nil => decide +kernel
  | cons column columns ih =>
      have hLine :=
        fieldOfLine?_columnLine
          (hTypes column List.mem_cons_self)
      have hRest :=
        ih fun other hMem =>
          hTypes other (List.mem_cons_of_mem _ hMem)
      cases columns with
      | nil =>
          have hOnly := hLine []
          rw [List.append_nil] at hOnly
          simp only [List.map_cons, List.map_nil, commaLines,
            foundNames, List.filterMap_cons, hOnly,
            List.filterMap_nil]
      | cons next columns =>
          simp only [List.map_cons] at hRest ⊢
          rw [commaLines, List.filterMap_cons, hRest,
            hLine [',']]
          rfl

theorem filterMap_alterLine (added : List Column) :
    (added.map alterLine).filterMap fieldOfLine? = [] := by
  simp only [List.filterMap_map, List.filterMap_eq_nil_iff,
    Function.comp_apply]
  exact fun column _ => fieldOfLine?_alterLine column

/- No line that is written holds a newline. -/
theorem newline_notMem_of_isWord
    {text : List Char}
    (hWord : IsWord text) :
    '\n' ∉ text := by
  intro hMem
  exact absurd (hWord.plain _ hMem) (by decide)

theorem newline_notMem_ofList
    {text : List Char}
    (hPlain : '\n' ∉ text) :
    '\n' ∉ (String.ofList text).toList := by
  rwa [String.toList_ofList]

theorem newline_notMem_columnLine
    {column : Column}
    (hType : IsWord column.sqlType.toList) :
    '\n' ∉ columnLine column := by
  have hName := newline_notMem_of_isWord column.name.isWord
  have hSqlType := newline_notMem_of_isWord hType
  have hNotNull : '\n' ∉ " NOT NULL".toList :=
    newline_notMem_ofList (by decide)
  unfold columnLine
  simp only [List.mem_append, not_or]
  refine ⟨⟨⟨⟨by decide, hName⟩, by decide⟩, hSqlType⟩, ?_⟩
  cases column.nullable
  · exact hNotNull
  · exact List.not_mem_nil

theorem newline_notMem_alterLine
    {column : Column}
    (hType : IsWord column.sqlType.toList) :
    '\n' ∉ alterLine column := by
  have hName := newline_notMem_of_isWord column.name.isWord
  have hSqlType := newline_notMem_of_isWord hType
  have hText : '\n' ∉ addColumnText :=
    newline_notMem_ofList (by decide)
  unfold alterLine
  simp only [List.mem_append, not_or]
  exact
    ⟨⟨⟨⟨hText, hName⟩, by decide⟩, hSqlType⟩, by decide⟩

theorem newline_notMem_createHeader :
    '\n' ∉ createHeader :=
  newline_notMem_ofList (by decide)

theorem newline_notMem_createFooter :
    ∀ line ∈ createFooter, '\n' ∉ line := by
  have hUsing : '\n' ∉ "USING iceberg".toList :=
    newline_notMem_ofList (by decide)
  have hPartitioned :
      '\n' ∉ "PARTITIONED BY (days(event_time));".toList :=
    newline_notMem_ofList (by decide)
  unfold createFooter
  intro line hMem
  simp only [List.mem_cons, List.not_mem_nil,
    or_false] at hMem
  rcases hMem with rfl | rfl | rfl
  · decide
  · exact hUsing
  · exact hPartitioned

theorem newline_notMem_commaLines
    {lines : List (List Char)}
    (hPlain : ∀ line ∈ lines, '\n' ∉ line) :
    ∀ line ∈ commaLines lines, '\n' ∉ line := by
  induction lines using commaLines.induct with
  | case1 => simp [commaLines]
  | case2 line => simpa [commaLines] using hPlain
  | case3 line next lines ih =>
      have hLine := hPlain line List.mem_cons_self
      have hRest :=
        ih fun other hMem =>
          hPlain other (List.mem_cons_of_mem _ hMem)
      intro other hMem
      rw [commaLines] at hMem
      rcases List.mem_cons.1 hMem with rfl | hMem
      · simp only [List.mem_append, not_or]
        exact ⟨hLine, by decide⟩
      · exact hRest other hMem

theorem newline_notMem_ddl
    {columns added : List Column}
    (hTypes :
      ∀ column ∈ columns ++ added,
        IsWord column.sqlType.toList) :
    ∀ line ∈ createLines columns ++ added.map alterLine,
      '\n' ∉ line := by
  intro line hMem
  rcases List.mem_append.1 hMem with hCreate | hAdded
  · rcases List.mem_append.1 hCreate with hColumns | hClose
    · rcases List.mem_cons.1 hColumns with rfl | hColumn
      · exact newline_notMem_createHeader
      · refine
          newline_notMem_commaLines ?_ line hColumn
        intro other hOther
        rcases List.mem_map.1 hOther with
          ⟨column, hMem, rfl⟩
        exact
          newline_notMem_columnLine
            (hTypes column (List.mem_append_left _ hMem))
    · exact newline_notMem_createFooter line hClose
  · rcases List.mem_map.1 hAdded with ⟨column, hColumn, rfl⟩
    exact
      newline_notMem_alterLine
        (hTypes column (List.mem_append_right _ hColumn))

theorem exists_ddlText_eq
    (columns added : List Column) :
    ∃ rest, ddlText columns added = createHeader ++ rest := by
  unfold ddlText createLines
  rw [List.cons_append, List.cons_append,
    TextLines.unlines_cons]
  exact ⟨_, rfl⟩

theorem hasPart_iff (part text : List Char) :
    hasPart part text = true ↔ part <:+: text := by
  simp only [hasPart, List.any_eq_true, List.mem_tails,
    List.isPrefixOf_iff_prefix, List.infix_iff_prefix_suffix,
    and_comm]

theorem hasCreate_ddlText (columns added : List Column) :
    hasPart "CREATE TABLE".toList
        (upper (ddlText columns added)) = true := by
  have hHeader :
      "CREATE TABLE".toList <:+: upper createHeader := by
    rw [show createHeader = _ from String.toList_ofList,
      show "CREATE TABLE".toList = _ from
        String.toList_ofList]
    decide +kernel
  rcases exists_ddlText_eq columns added with ⟨rest, hText⟩
  rw [hText, upper, List.map_append, hasPart_iff]
  exact hHeader.trans (List.prefix_append _ _).isInfix

theorem ddlText_ne_nil (columns added : List Column) :
    ddlText columns added ≠ [] := by
  have hHeader : createHeader ≠ [] := by
    rw [show createHeader = _ from String.toList_ofList]
    exact List.cons_ne_nil _ _
  rcases exists_ddlText_eq columns added with ⟨rest, hText⟩
  rw [hText]
  exact List.append_ne_nil_of_left_ne_nil hHeader rest

/- The file is read as having a table, and the names that are
   found are those of the table alone. -/
theorem loadExistingDdl_ddlText
    {columns added : List Column}
    (hTypes :
      ∀ column ∈ columns ++ added,
        IsWord column.sqlType.toList) :
    loadExistingDdl (some (ddlText columns added)) =
      (foundNames columns, true) := by
  have hLines :
      (ddlText columns added).splitOn '\n' =
        createLines columns ++ added.map alterLine ++ [[]] :=
    TextLines.splitOn_unlines (newline_notMem_ddl hTypes)
  have hFields :
      ((ddlText columns added).splitOn '\n').filterMap
          fieldOfLine? =
        foundNames columns := by
    have hColumns :=
      filterMap_commaLines fun column hMem =>
        hTypes column (List.mem_append_left _ hMem)
    rw [hLines]
    simp only [createLines, List.filterMap_append,
      List.filterMap_cons, fieldOfLine?_createHeader,
      hColumns, filterMap_createFooter, filterMap_alterLine,
      fieldOfLine?_nil, List.filterMap_nil, List.append_nil]
  have hCreate := hasCreate_ddlText columns added
  cases hText : ddlText columns added with
  | nil => exact absurd hText (ddlText_ne_nil _ _)
  | cons c cs =>
      rw [hText] at hFields hCreate
      simp only [loadExistingDdl, hFields, hCreate]

/- A run on such a file adds the columns that it does not
   find. -/
theorem evolveSchema_ddlText
    {columns added : List Column}
    (hTypes :
      ∀ column ∈ columns ++ added,
        IsWord column.sqlType.toList)
    (schema : AvroSchema) :
    (evolveSchema (.parsed schema)
        (some (ddlText columns added))).2 =
      some (ddlText columns
        (added ++
          (extractFields schema).filter
            (isMissing (foundNames columns)))) := by
  have hText :
      ∀ more,
        ddlText columns (added ++ more) =
          ddlText columns added ++
            unlines '\n' (more.map alterLine) := by
    intro more
    unfold ddlText
    rw [List.map_append, ← List.append_assoc,
      TextLines.unlines_append]
  simp only [evolveSchema, loadExistingDdl_ddlText hTypes,
    generateAlterStatements_eq, hText]
  split
  · contradiction
  · split
    · next hEmpty =>
        rw [List.isEmpty_iff.1 hEmpty, List.append_nil]
    · rfl

theorem evolveSchema_none (schema : AvroSchema) :
    (evolveSchema (.parsed schema) none).2 =
      some (ddlText (extractFields schema) []) := by
  rw [← generateCreateTable_eq]
  rfl

end FraudStream
