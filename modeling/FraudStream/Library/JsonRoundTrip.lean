import FraudStream.Library.JsonScalars

/-
  A value is read back from the JSON text that is written of
  it.

  The items of a container are read off the front of a text
  up to the bracket behind them, and a value is read by
  induction on how deep it is nested. The text of a float is
  left to a table, which is asked to write floats that are
  read back. Whatever is read can be written again.

  Key definitions include:
    * `JsonText.Reads`
    * `JsonText.ReadsFloat`
    * `JsonText.IsWritable`
    * `JsonText.floats`

  Main results:
    * `JsonText.scanItems_of_reads`
    * `JsonText.loads_dumps`
    * `JsonText.isWritable_of_loads`
-/

------------------------------------------------------------
-- Items Of A Container
------------------------------------------------------------

namespace JsonText

variable {α : Type}

/- A scanner reads the text as a value wherever the text is
   followed by a comma, a bracket or nothing. -/
def Reads
    (scan : Scanner α)
    (cs : List Char)
    (x : α) : Prop :=
  ∀ rest, Ends rest → scan (cs ++ rest) = .ok (x, rest)

/- The text starts with neither a blank nor a closing
   bracket. -/
def Starts : List Char → Prop
| [] => False
| c :: _ => isBlank c = false ∧ c ≠ ']' ∧ c ≠ '\x7d'

theorem skipBlanks_of_starts
    {cs : List Char}
    (hStarts : Starts cs)
    (rest : List Char) :
    skipBlanks (cs ++ rest) = cs ++ rest := by
  cases cs with
  | nil => cases hStarts
  | cons c cs =>
      exact
        List.dropWhile_cons_of_neg
          (by rw [hStarts.1]; exact Bool.false_ne_true)

theorem Starts.append
    {cs : List Char}
    (hStarts : Starts cs)
    (rest : List Char) :
    Starts (cs ++ rest) := by
  cases cs with
  | nil => cases hStarts
  | cons c cs => exact hStarts

theorem starts_intercalate
    {cs : List Char}
    (hStarts : Starts cs)
    (sep : List Char)
    (texts : List (List Char)) :
    Starts (List.intercalate sep (cs :: texts)) := by
  cases texts with
  | nil =>
      rw [List.intercalate_singleton]
      exact hStarts
  | cons cs' texts =>
      rw [List.intercalate_cons_cons, List.append_assoc]
      exact hStarts.append _

theorem ends_comma
    (rest : List Char) :
    Ends (',' :: rest) :=
  .inl rfl

/- The items of a container are read up to its closing
   bracket. -/
theorem scanItems_of_reads
    {scan : Scanner α}
    {closing : Char}
    (hClosing : closing = ']' ∨ closing = '\x7d')
    {texts : List (List Char)}
    {xs : List α}
    (hReads : List.Forall₂ (Reads scan) texts xs)
    (hStarts : ∀ cs ∈ texts, Starts cs)
    (hSome : texts ≠ [])
    {fuel : Nat}
    (hFuel : texts.length ≤ fuel)
    (after : List Char) :
    scanItems scan closing fuel
        (List.intercalate [',', ' '] texts ++
          closing :: after) =
      .ok (xs, after) := by
  have hEnds : Ends (closing :: after) := .inr hClosing
  have hSkip :
      skipBlanks (closing :: after) = closing :: after := by
    rcases hClosing with rfl | rfl <;> rfl
  have hComma : ',' ≠ closing := by
    rcases hClosing with rfl | rfl <;> decide
  induction hReads generalizing fuel with
  | nil => exact absurd rfl hSome
  | @cons cs x texts xs hHead hTail ih =>
      obtain ⟨fuel, rfl⟩ : ∃ k, fuel = k + 1 :=
        Nat.exists_eq_add_one.2
          (Nat.lt_of_lt_of_le (Nat.succ_pos _) hFuel)
      rcases List.forall_mem_cons.1 hStarts with
        ⟨hFirst, hOthers⟩
      cases hTail with
      | nil =>
          rw [List.intercalate_singleton, scanItems,
            hHead _ hEnds]
          simp only [bind, Except.bind, hSkip, if_true, pure,
            Except.pure]
      | @cons cs' x' texts' xs' hHead' hTail' =>
          -- The blank behind the comma is skipped.
          have hMore :=
            starts_intercalate (hOthers cs' List.mem_cons_self)
              [',', ' '] texts'
          have hRest :=
            ih hOthers (List.cons_ne_nil _ _)
              (Nat.le_of_succ_le_succ hFuel)
          rw [List.intercalate_cons_cons, List.append_assoc,
            List.append_assoc, List.cons_append, scanItems,
            hHead _ (ends_comma _)]
          have hSep :
              ∀ text : List Char,
                skipBlanks (',' :: text) = ',' :: text :=
            fun _ => rfl
          have hSpace :
              ∀ text : List Char,
                skipBlanks (' ' :: text) =
                  skipBlanks text :=
            fun _ => rfl
          simp only [bind, Except.bind, hSep, if_neg hComma,
            if_true, List.cons_append, List.nil_append,
            hSpace, skipBlanks_of_starts hMore, hRest, pure,
            Except.pure]

/- A comma stands between two items. -/
theorem length_le_intercalate
    (texts : List (List Char)) :
    texts.length ≤
      (List.intercalate [',', ' '] texts).length + 1 := by
  induction texts with
  | nil => exact Nat.zero_le _
  | cons cs texts ih =>
      cases texts with
      | nil => exact Nat.le_add_left _ _
      | cons cs' texts =>
          rw [List.intercalate_cons_cons, List.length_append,
            List.length_append]
          simp only [List.length_cons, List.length_nil] at ih ⊢
          omega

theorem Starts.head?_ne
    {cs : List Char}
    (hStarts : Starts cs)
    {closing : Char}
    (hClosing : closing = ']' ∨ closing = '\x7d')
    (rest : List Char) :
    (cs ++ rest).head? ≠ some closing := by
  cases cs with
  | nil => cases hStarts
  | cons c cs =>
      intro hHead
      cases hHead
      rcases hClosing with hSquare | hBrace
      · exact hStarts.2.1 hSquare
      · exact hStarts.2.2 hBrace

/- A container is read from behind its opening bracket. -/
theorem scanBracketed_of_reads
    {scan : Scanner α}
    {closing : Char}
    (hClosing : closing = ']' ∨ closing = '\x7d')
    {texts : List (List Char)}
    {xs : List α}
    (hReads : List.Forall₂ (Reads scan) texts xs)
    (hStarts : ∀ cs ∈ texts, Starts cs)
    (after : List Char) :
    scanBracketed scan closing
        (List.intercalate [',', ' '] texts ++
          closing :: after) =
      .ok (xs, after) := by
  unfold scanBracketed
  cases hReads with
  | nil =>
      have hSkip :
          skipBlanks (closing :: after) =
            closing :: after := by
        rcases hClosing with rfl | rfl <;> rfl
      rw [List.intercalate_nil, List.nil_append, hSkip]
      exact if_pos rfl
  | @cons cs x texts xs hHead hTail =>
      have hFirst :=
        starts_intercalate (hStarts cs List.mem_cons_self)
          [',', ' '] texts
      rw [skipBlanks_of_starts hFirst]
      dsimp only
      rw [if_neg (hFirst.head?_ne hClosing _)]
      apply
        scanItems_of_reads hClosing (.cons hHead hTail) hStarts
          (List.cons_ne_nil _ _)
      have hLength := length_le_intercalate (cs :: texts)
      rw [List.length_append]
      omega

end JsonText

------------------------------------------------------------
-- Values Without Parts
------------------------------------------------------------

namespace JsonText

/- No word starts as a number does. -/
theorem scanWord?_of_scanNumber
    {cs : List Char}
    {found : JsonValue × List Char}
    (hNumber : scanNumber cs = .ok found) :
    scanWord? cs = none := by
  unfold scanWord?
  rw [Option.map_eq_none_iff, List.find?_eq_none]
  intro w hMem hPrefix
  obtain ⟨rest, rfl⟩ := List.isPrefixOf_iff_prefix.1 hPrefix
  simp only [words, List.mem_cons, List.not_mem_nil,
    or_false] at hMem
  rcases hMem with rfl | rfl | rfl | rfl | rfl | rfl <;>
    cases hNumber

theorem scanFlat_of_scanNumber
    {cs : List Char}
    {found : JsonValue × List Char}
    (hNumber : scanNumber cs = .ok found) :
    scanFlat cs = .ok found := by
  unfold scanFlat
  split
  · cases hNumber
  · rw [scanWord?_of_scanNumber hNumber]
    exact hNumber

/- What has no parts is read at every depth. -/
theorem scanOnce_of_scanFlat
    {cs : List Char}
    {found : JsonValue × List Char}
    (hFlat : scanFlat cs = .ok found)
    (depth : Nat) :
    scanOnce depth cs = .ok found := by
  rw [scanOnce.eq_def]
  split
  · cases hFlat
  · cases hFlat
  · exact hFlat
  · cases hFlat
  · cases hFlat
  · exact hFlat

theorem starts_of_scanOnce
    {depth : Nat}
    {cs : List Char}
    {found : JsonValue × List Char}
    (hRead : scanOnce depth cs = .ok found) :
    Starts cs := by
  have hFlat :
      (∃ c rest, cs = c :: rest ∧
        (isBlank c = true ∨ c = ']' ∨ c = '\x7d')) →
      scanFlat cs = .error .jsonDecodeError ∧
        scanOnce depth cs = scanFlat cs := by
    rintro ⟨c, rest, rfl, hChar⟩
    have hChars :
        c = ' ' ∨ c = '\t' ∨ c = '\n' ∨ c = '\r' ∨ c = ']' ∨
          c = '\x7d' := by
      simp only [isBlank, Bool.or_eq_true, decide_eq_true_eq]
        at hChar
      tauto
    rcases hChars with rfl | rfl | rfl | rfl | rfl | rfl <;>
      exact ⟨rfl, by cases depth <;> rfl⟩
  cases cs with
  | nil => cases depth <;> cases hRead
  | cons c rest =>
      by_contra hNot
      have hChar :
          isBlank c = true ∨ c = ']' ∨ c = '\x7d' := by
        by_contra hOther
        simp only [not_or, Bool.not_eq_true] at hOther
        exact hNot hOther
      rcases hFlat ⟨c, rest, rfl, hChar⟩ with ⟨hError, hEq⟩
      rw [hEq, hError] at hRead
      cases hRead

theorem starts_of_reads
    {depth : Nat}
    {cs : List Char}
    {v : JsonValue}
    (hReads : Reads (scanOnce depth) cs v) :
    Starts cs := by
  have hRead := hReads [] ends_nil
  rw [List.append_nil] at hRead
  exact starts_of_scanOnce hRead

end JsonText

------------------------------------------------------------
-- Values
------------------------------------------------------------

namespace JsonText

open JsonValue

/- The table writes a float in ASCII and as a number that is
   read as the float. -/
structure ReadsFloat
    (table : TextTable)
    (v : ℚ) : Prop where
  ascii : ∀ c ∈ (table.floatText v).toList, IsAscii c
  reads :
    scanNumber (table.floatText v).toList =
      .ok (.float (.finite v), [])

/- A value that is nested no deeper than so many containers,
   whose objects have each name once and whose floats are
   read back. -/
def IsWritable (table : TextTable) : Nat → JsonValue → Prop
| _, .float (.finite v) => ReadsFloat table v
| 0, .list _ => False
| 0, .dict _ => False
| depth + 1, .list xs => ∀ x ∈ xs, IsWritable table depth x
| depth + 1, .dict es =>
    (es.map Prod.fst).Nodup ∧
      ∀ e ∈ es, IsWritable table depth e.2
| _, _ => True

theorem dumpsItems_eq_map
    (table : TextTable)
    (xs : List JsonValue) :
    dumpsItems table xs = xs.map (dumps table) := by
  induction xs with
  | nil => rfl
  | cons x xs ih => rw [dumpsItems, ih, List.map_cons]

/- The text of an entry. -/
def entryText
    (table : TextTable)
    (e : String × JsonValue) : String :=
  PyText.jsonString e.1 ++ ": " ++ dumps table e.2

theorem dumpsEntries_eq_map
    (table : TextTable)
    (es : List (String × JsonValue)) :
    dumpsEntries table es = es.map (entryText table) := by
  induction es with
  | nil => rfl
  | cons e es ih =>
      rw [dumpsEntries, ih, List.map_cons, entryText]

theorem toList_bracketed
    (opening closing : String)
    (items : List String) :
    (bracketed opening closing items).toList =
      opening.toList ++
        (List.intercalate [',', ' ']
            (items.map String.toList) ++
          closing.toList) := by
  unfold bracketed
  rw [String.toList_append, String.toList_append,
    String.toList_intercalate, List.append_assoc]
  rfl

theorem toList_jsonString
    (s : String) :
    (PyText.jsonString s).toList =
      '"' :: (s.toList.flatMap PyText.jsonEscape ++ ['"']) := by
  rw [PyText.jsonString, String.toList_ofList]

theorem scanFlat_jsonString
    (s : String)
    (rest : List Char) :
    scanFlat ((PyText.jsonString s).toList ++ rest) =
      .ok (.str s, rest) := by
  rw [toList_jsonString, List.cons_append, List.append_assoc]
  change
    (scanString
        (s.toList.flatMap PyText.jsonEscape ++ '"' :: rest) >>=
      fun scanned =>
        pure (JsonValue.str scanned.1, scanned.2)) = _
  rw [scanString_escaped, String.ofList_toList]
  rfl

/- A name, a colon and a value are read as an entry. -/
theorem reads_entry
    {table : TextTable}
    {scan : Scanner JsonValue}
    {e : String × JsonValue}
    (hReads : Reads scan (dumps table e.2).toList e.2)
    (hStarts : Starts (dumps table e.2).toList) :
    Reads (scanEntry scan) (entryText table e).toList e := by
  intro rest hEnds
  have hText :
      (entryText table e).toList ++ rest =
        '"' ::
          (e.1.toList.flatMap PyText.jsonEscape ++
            '"' :: ':' :: ' ' ::
              ((dumps table e.2).toList ++ rest)) := by
    simp [entryText, toList_jsonString]
  rw [hText]
  unfold scanEntry
  simp only [scanString_escaped, bind, Except.bind]
  have hColon :
      ∀ text : List Char,
        skipBlanks (':' :: text) = ':' :: text :=
    fun _ => rfl
  have hSpace :
      ∀ text : List Char,
        skipBlanks (' ' :: text) = skipBlanks text :=
    fun _ => rfl
  simp only [hColon, hSpace, skipBlanks_of_starts hStarts,
    hReads rest hEnds, String.ofList_toList]
  rfl

end JsonText

------------------------------------------------------------
-- Reading What Was Written
------------------------------------------------------------

namespace JsonText

open JsonValue

variable {table : TextTable}

theorem reads_of_scanNumber
    {cs : List Char}
    {v : JsonValue}
    (hNumber : scanNumber cs = .ok (v, []))
    (depth : Nat) :
    Reads (scanOnce depth) cs v := by
  intro rest hEnds
  exact
    scanOnce_of_scanFlat
      (scanFlat_of_scanNumber
        (scanNumber_append hNumber hEnds))
      depth

/- A word is read whatever follows it. -/
theorem reads_word
    {w : List Char × JsonValue}
    (hWord : w ∈ words)
    (depth : Nat) :
    Reads (scanOnce depth) w.1 w.2 := by
  intro rest _
  apply scanOnce_of_scanFlat
  simp only [words, List.mem_cons, List.not_mem_nil,
    or_false] at hWord
  rcases hWord with rfl | rfl | rfl | rfl | rfl | rfl <;> rfl

/- An array is read when its items are. -/
theorem reads_list
    {depth : Nat}
    {xs : List JsonValue}
    (hReads :
      ∀ x ∈ xs,
        Reads (scanOnce depth) (dumps table x).toList x) :
    Reads (scanOnce (depth + 1))
      (dumps table (.list xs)).toList (.list xs) := by
  intro rest _
  have hText :
      (dumps table (.list xs)).toList ++ rest =
        '[' ::
          (List.intercalate [',', ' ']
              (xs.map (fun x => (dumps table x).toList)) ++
            ']' :: rest) := by
    rw [dumps, toList_bracketed, dumpsItems_eq_map,
      List.map_map, List.append_assoc, List.append_assoc]
    rfl
  have hItems :=
    scanBracketed_of_reads (.inl rfl)
      (List.forall₂_map_left_iff.2
        (List.forall₂_same.2 hReads))
      (by
        intro cs hMem
        rcases List.mem_map.1 hMem with ⟨x, hItem, rfl⟩
        exact starts_of_reads (hReads x hItem))
      rest
  rw [hText, scanOnce, scanArray, hItems]
  rfl

/- An object is read when its values are. -/
theorem reads_dict
    {depth : Nat}
    {es : List (String × JsonValue)}
    (hNodup : (es.map Prod.fst).Nodup)
    (hReads :
      ∀ e ∈ es,
        Reads (scanOnce depth) (dumps table e.2).toList e.2) :
    Reads (scanOnce (depth + 1))
      (dumps table (.dict es)).toList (.dict es) := by
  intro rest _
  have hText :
      (dumps table (.dict es)).toList ++ rest =
        '\x7b' ::
          (List.intercalate [',', ' ']
              (es.map (fun e => (entryText table e).toList)) ++
            '\x7d' :: rest) := by
    rw [dumps, toList_bracketed, dumpsEntries_eq_map,
      List.map_map, List.append_assoc, List.append_assoc]
    rfl
  have hItems :=
    scanBracketed_of_reads (.inr rfl)
      (List.forall₂_map_left_iff.2
        (List.forall₂_same.2
          (fun e hMem =>
            reads_entry (hReads e hMem)
              (starts_of_reads (hReads e hMem)))))
      (by
        intro cs hMem
        rcases List.mem_map.1 hMem with ⟨e, -, rfl⟩
        simp [entryText, toList_jsonString, Starts, isBlank])
      rest
  rw [hText, scanOnce, scanObject, hItems]
  simp only [bind, Except.bind, Dict.entries_ofList hNodup]
  rfl

/- A value without parts is read at every depth. -/
theorem reads_flat
    {v : JsonValue}
    (hWritable : IsWritable table 0 v)
    (depth : Nat) :
    Reads (scanOnce depth) (dumps table v).toList v := by
  have hWord :
      ∀ w ∈ words, Reads (scanOnce depth) w.1 w.2 :=
    fun _ hMem => reads_word hMem depth
  simp only [words, List.forall_mem_cons] at hWord
  rcases hWord with
    ⟨hNull, hTrue, hFalse, hNan, hInf, hNegInf, -⟩
  cases v with
  | null => exact hNull
  | bool b =>
      cases b
      · exact hFalse
      · exact hTrue
  | int n => exact reads_of_scanNumber (scanNumber_int n) _
  | float f =>
      cases f with
      | finite v =>
          exact reads_of_scanNumber hWritable.reads _
      | inf negative =>
          cases negative
          · exact hInf
          · exact hNegInf
      | nan => exact hNan
  | str s =>
      intro rest _
      exact
        scanOnce_of_scanFlat (scanFlat_jsonString s rest) _
  | list xs => cases hWritable
  | dict es => cases hWritable

/- A value that can be written is read off the front of its
   text, by induction on the depth of the value. -/
theorem reads_dumps
    {depth : Nat}
    {v : JsonValue}
    (hWritable : IsWritable table depth v) :
    Reads (scanOnce depth) (dumps table v).toList v := by
  induction depth generalizing v with
  | zero => exact reads_flat hWritable 0
  | succ depth ih =>
      cases v with
      | list xs =>
          exact reads_list (fun x hMem => ih (hWritable x hMem))
      | dict es =>
          exact
            reads_dict hWritable.1
              (fun e hMem => ih (hWritable.2 e hMem))
      | float f =>
          cases f <;> exact reads_flat hWritable _
      | null => exact reads_flat hWritable _
      | bool b => exact reads_flat hWritable _
      | int n => exact reads_flat hWritable _
      | str s => exact reads_flat hWritable _

end JsonText

------------------------------------------------------------
-- Bytes Of A Text
------------------------------------------------------------

namespace JsonText

open JsonValue

variable {table : TextTable}

theorem isAscii_hexDigits
    {w n : Nat}
    {c : Char}
    (hMem : c ∈ PyText.hexDigits w n) :
    IsAscii c := by
  induction w generalizing n with
  | zero => cases hMem
  | succ w ih =>
      rw [PyText.hexDigits, List.mem_append,
        List.mem_singleton] at hMem
      rcases hMem with hHigh | rfl
      · exact ih hHigh
      · have hAll : ∀ m < 16, IsAscii (Nat.digitChar m) := by
          decide
        exact hAll _ (Nat.mod_lt n (by omega))

theorem isAscii_jsonUnit
    {n : Nat}
    {c : Char}
    (hMem : c ∈ PyText.jsonUnit n) :
    IsAscii c := by
  simp only [PyText.jsonUnit, List.mem_cons] at hMem
  rcases hMem with rfl | rfl | hMem
  · decide
  · decide
  · exact isAscii_hexDigits hMem

theorem isAscii_jsonEscape
    {c c' : Char}
    (hMem : c' ∈ PyText.jsonEscape c) :
    IsAscii c' := by
  have hPair :
      ∀ e, IsAscii e → c' ∈ ['\\', e] → IsAscii c' := by
    intro e hAscii hTwo
    simp only [List.mem_cons, List.not_mem_nil, or_false]
      at hTwo
    rcases hTwo with rfl | rfl
    · decide
    · exact hAscii
  unfold PyText.jsonEscape at hMem
  split at hMem
  · rename_i hSelf
    rcases hSelf with rfl | rfl <;>
      exact hPair _ (by decide) hMem
  split at hMem
  · exact hPair _ (by decide) hMem
  split at hMem
  · exact hPair _ (by decide) hMem
  split at hMem
  · exact hPair _ (by decide) hMem
  split at hMem
  · exact hPair _ (by decide) hMem
  split at hMem
  · exact hPair _ (by decide) hMem
  split at hMem
  · rename_i hPlain
    rw [List.mem_singleton.1 hMem]
    exact ⟨by omega, by omega⟩
  split at hMem
  · exact isAscii_jsonUnit hMem
  · rcases List.mem_append.1 hMem with hHigh | hLow
    · exact isAscii_jsonUnit hHigh
    · exact isAscii_jsonUnit hLow

theorem isAscii_jsonString
    {s : String}
    {c : Char}
    (hMem : c ∈ (PyText.jsonString s).toList) :
    IsAscii c := by
  have hQuote : IsAscii '"' := by
    decide
  rw [toList_jsonString, List.mem_cons, List.mem_append,
    List.mem_singleton, List.mem_flatMap] at hMem
  rcases hMem with rfl | ⟨c', -, hCode⟩ | rfl
  · exact hQuote
  · exact isAscii_jsonEscape hCode
  · exact hQuote

theorem isAscii_of_mem_int
    {n : Int}
    {c : Char}
    (hMem : c ∈ (toString n).toList) :
    IsAscii c := by
  rcases PyText.mem_toString_int hMem with hDigit | rfl
  · rcases Char.isDigit_iff_toNat.1 hDigit with
      ⟨hLow, hHigh⟩
    exact
      ⟨Nat.lt_of_lt_of_le (by decide) hLow,
        Nat.lt_of_le_of_lt hHigh (by decide)⟩
  · decide

theorem mem_or_mem_of_mem_intercalate
    {c : Char}
    {sep : List Char}
    {texts : List (List Char)}
    (hMem : c ∈ List.intercalate sep texts) :
    c ∈ sep ∨ ∃ cs ∈ texts, c ∈ cs := by
  induction texts with
  | nil => cases hMem
  | cons cs texts ih =>
      cases texts with
      | nil =>
          rw [List.intercalate_singleton] at hMem
          exact .inr ⟨cs, List.mem_cons_self, hMem⟩
      | cons cs' texts =>
          rw [List.intercalate_cons_cons, List.mem_append,
            List.mem_append] at hMem
          rcases hMem with (hHead | hSep) | hTail
          · exact .inr ⟨cs, List.mem_cons_self, hHead⟩
          · exact .inl hSep
          · rcases ih hTail with hSep | ⟨cs'', hIn, hChar⟩
            · exact .inl hSep
            · exact
                .inr ⟨cs'', List.mem_cons_of_mem _ hIn, hChar⟩

theorem isAscii_bracketed
    {opening closing : String}
    (hOpening : ∀ c ∈ opening.toList, IsAscii c)
    (hClosing : ∀ c ∈ closing.toList, IsAscii c)
    {items : List String}
    (hItems :
      ∀ item ∈ items, ∀ c ∈ item.toList, IsAscii c) :
    ∀ c ∈ (bracketed opening closing items).toList,
      IsAscii c := by
  intro c hMem
  rw [toList_bracketed, List.mem_append, List.mem_append]
    at hMem
  rcases hMem with hOpen | hMiddle | hClose
  · exact hOpening c hOpen
  · rcases mem_or_mem_of_mem_intercalate hMiddle with
      hSep | ⟨cs, hIn, hChar⟩
    · exact isAscii_of_all (by decide) c hSep
    · rcases List.mem_map.1 hIn with ⟨item, hItem, rfl⟩
      exact hItems item hItem c hChar
  · exact hClosing c hClose

theorem isAscii_flat
    {v : JsonValue}
    (hWritable : IsWritable table 0 v) :
    ∀ c ∈ (dumps table v).toList, IsAscii c := by
  cases v with
  | null =>
      rw [dumps]
      exact isAscii_of_all (by decide)
  | bool b =>
      cases b <;> rw [dumps] <;>
        exact isAscii_of_all (by decide)
  | int n => exact fun c => isAscii_of_mem_int
  | float f =>
      cases f with
      | finite v => exact hWritable.ascii
      | inf negative =>
          cases negative <;> rw [dumps] <;>
            exact isAscii_of_all (by decide)
      | nan =>
          rw [dumps]
          exact isAscii_of_all (by decide)
  | str s => exact fun c => isAscii_jsonString
  | list xs => cases hWritable
  | dict es => cases hWritable

/- The text of a value is in ASCII. -/
theorem isAscii_dumps
    {depth : Nat}
    {v : JsonValue}
    (hWritable : IsWritable table depth v) :
    ∀ c ∈ (dumps table v).toList, IsAscii c := by
  induction depth generalizing v with
  | zero => exact isAscii_flat hWritable
  | succ depth ih =>
      cases v with
      | list xs =>
          rw [dumps, dumpsItems_eq_map]
          apply isAscii_bracketed
            (isAscii_of_all (by decide))
            (isAscii_of_all (by decide))
          intro item hItem
          rcases List.mem_map.1 hItem with ⟨x, hMem, rfl⟩
          exact ih (hWritable x hMem)
      | dict es =>
          rw [dumps, dumpsEntries_eq_map]
          apply isAscii_bracketed
            (isAscii_of_all (by decide))
            (isAscii_of_all (by decide))
          intro item hItem c hChar
          rcases List.mem_map.1 hItem with ⟨e, hMem, rfl⟩
          rw [entryText, String.toList_append,
            String.toList_append, List.mem_append,
            List.mem_append] at hChar
          rcases hChar with (hName | hColon) | hValue
          · exact isAscii_jsonString hName
          · exact isAscii_of_all (by decide) c hColon
          · exact ih (hWritable.2 e hMem) c hValue
      | float f =>
          cases f <;> exact isAscii_flat hWritable
      | null => exact isAscii_flat hWritable
      | bool b => exact isAscii_flat hWritable
      | int n => exact isAscii_flat hWritable
      | str s => exact isAscii_flat hWritable

/- `json.loads(json.dumps(v).encode())` -/
theorem loads_dumps
    {depth : Nat}
    {v : JsonValue}
    (hWritable : IsWritable table depth v) :
    loads depth (encode (dumps table v)) = .ok v := by
  have hReads := reads_dumps hWritable
  have hSkip :
      skipBlanks (dumps table v).toList =
        (dumps table v).toList := by
    have hText :=
      skipBlanks_of_starts (starts_of_reads hReads) []
    rwa [List.append_nil] at hText
  have hScan := hReads [] ends_nil
  rw [List.append_nil] at hScan
  unfold loads encode
  rw [decode_of_ascii (isAscii_dumps hWritable)]
  simp only [bind, Except.bind, hSkip, hScan]
  rfl

end JsonText

------------------------------------------------------------
-- What Was Read Can Be Written
------------------------------------------------------------

namespace JsonText

open JsonValue FallibleList

mutual

/- The finite floats in a value. -/
def floats : JsonValue → List ℚ
| .float (.finite v) => [v]
| .list xs => floatsItems xs
| .dict es => floatsEntries es
| _ => []

def floatsItems : List JsonValue → List ℚ
| [] => []
| x :: xs => floats x ++ floatsItems xs

def floatsEntries : List (String × JsonValue) → List ℚ
| [] => []
| (_, x) :: es => floats x ++ floatsEntries es

end

theorem floatsItems_eq_flatMap
    (xs : List JsonValue) :
    floatsItems xs = xs.flatMap floats := by
  induction xs with
  | nil => rfl
  | cons x xs ih =>
      rw [floatsItems, ih, List.flatMap_cons]

theorem floatsEntries_eq_flatMap
    (es : List (String × JsonValue)) :
    floatsEntries es = es.flatMap (fun e => floats e.2) := by
  induction es with
  | nil => rfl
  | cons e es ih =>
      rw [floatsEntries, ih, List.flatMap_cons]

variable {α : Type}

/- What holds of all that a scanner reads. -/
def Yields
    (scan : Scanner α)
    (P : α → Prop) : Prop :=
  ∀ cs x rest, scan cs = .ok (x, rest) → P x

theorem yields_scanItems
    {scan : Scanner α}
    {P : α → Prop}
    (hScan : Yields scan P)
    (closing : Char)
    (fuel : Nat) :
    Yields (scanItems scan closing fuel)
      (fun xs => ∀ x ∈ xs, P x) := by
  induction fuel with
  | zero =>
      intro cs xs rest hItems
      cases hItems
  | succ fuel ih =>
      intro cs xs rest hItems
      rw [scanItems] at hItems
      rcases (bind_ok_iff _ _ _).1 hItems with
        ⟨⟨x, left⟩, hFirst, hMore⟩
      have hHead := hScan _ _ _ hFirst
      dsimp only at hMore
      split at hMore
      · split at hMore
        · cases hMore
          exact List.forall_mem_singleton.2 hHead
        · split at hMore
          · rcases (bind_ok_iff _ _ _).1 hMore with
              ⟨⟨xs', rest'⟩, hRest, hEq⟩
            cases hEq
            exact
              List.forall_mem_cons.2 ⟨hHead, ih _ _ _ hRest⟩
          · cases hMore
      · cases hMore

theorem yields_scanBracketed
    {scan : Scanner α}
    {P : α → Prop}
    (hScan : Yields scan P)
    (closing : Char) :
    Yields (scanBracketed scan closing)
      (fun xs => ∀ x ∈ xs, P x) := by
  intro cs xs rest hItems
  unfold scanBracketed at hItems
  dsimp only at hItems
  split at hItems
  · cases hItems
    exact List.forall_mem_nil _
  · exact yields_scanItems hScan _ _ _ _ _ hItems

theorem yields_scanEntry
    {scan : Scanner JsonValue}
    {P : JsonValue → Prop}
    (hScan : Yields scan P) :
    Yields (scanEntry scan) (fun e => P e.2) := by
  intro cs e rest hEntry
  unfold scanEntry at hEntry
  split at hEntry
  · rcases (bind_ok_iff _ _ _).1 hEntry with
      ⟨⟨name, left⟩, -, hMore⟩
    dsimp only at hMore
    split at hMore
    · rcases (bind_ok_iff _ _ _).1 hMore with
        ⟨⟨x, rest'⟩, hValue, hEq⟩
      cases hEq
      exact hScan _ _ _ hValue
    · cases hMore
  · cases hEntry

/- A value without parts is neither an array nor an
   object. -/
def IsFlat : JsonValue → Prop
| .list _ => False
| .dict _ => False
| _ => True

theorem isFlat_of_intValue
    {negative : Bool}
    {digits : List Char}
    {x : JsonValue}
    (hValue : intValue negative digits = .ok x) :
    IsFlat x := by
  unfold intValue at hValue
  dsimp only at hValue
  by_cases hShort :
      |if negative then
          -(Decimal.ofDigits
            (Decimal.splitDigits digits).1 : Int)
        else
          Decimal.ofDigits (Decimal.splitDigits digits).1| <
        10 ^ 4300
  · rw [dif_pos hShort] at hValue
    cases hValue
    trivial
  · rw [dif_neg hShort] at hValue
    cases hValue

theorem yields_scanNumber : Yields scanNumber IsFlat := by
  intro cs x rest hNumber
  unfold scanNumber at hNumber
  dsimp only at hNumber
  split at hNumber
  · cases hNumber
  · split at hNumber
    · rcases (bind_ok_iff _ _ _).1 hNumber with
        ⟨value, hValue, hEq⟩
      cases hEq
      exact isFlat_of_intValue hValue
    · cases hNumber
      trivial

theorem yields_scanFlat : Yields scanFlat IsFlat := by
  intro cs x rest hFlat
  unfold scanFlat at hFlat
  split at hFlat
  · rcases (bind_ok_iff _ _ _).1 hFlat with
      ⟨⟨s, left⟩, -, hEq⟩
    cases hEq
    trivial
  · split at hFlat
    · rename_i found hWord
      cases hFlat
      obtain ⟨w, hFind, hEq⟩ := Option.map_eq_some_iff.1 hWord
      cases hEq
      have hMem := List.mem_of_find?_eq_some hFind
      simp only [words, List.mem_cons, List.not_mem_nil,
        or_false] at hMem
      rcases hMem with rfl | rfl | rfl | rfl | rfl | rfl <;>
        trivial
    · exact yields_scanNumber _ _ _ hFlat

/- A value without parts can be written if its float can
   be. -/
theorem isWritable_of_isFlat
    {table : TextTable}
    {v : JsonValue}
    (hFlat : IsFlat v)
    (hFloats : ∀ q ∈ floats v, ReadsFloat table q)
    (depth : Nat) :
    IsWritable table depth v := by
  cases v with
  | list xs => cases hFlat
  | dict es => cases hFlat
  | float f =>
      cases f with
      | finite q =>
          have hFloat := hFloats q (List.mem_singleton_self q)
          cases depth <;> exact hFloat
      | inf negative => cases depth <;> trivial
      | nan => cases depth <;> trivial
  | null => cases depth <;> trivial
  | bool b => cases depth <;> trivial
  | int n => cases depth <;> trivial
  | str s => cases depth <;> trivial

/- Whatever is read can be written if its floats can be. -/
theorem yields_scanOnce
    (table : TextTable)
    (depth : Nat) :
    Yields (scanOnce depth)
      (fun v =>
        (∀ q ∈ floats v, ReadsFloat table q) →
          IsWritable table depth v) := by
  induction depth with
  | zero =>
      intro cs v rest hRead hFloats
      rw [scanOnce.eq_def] at hRead
      split at hRead
      · cases hRead
      · cases hRead
      · exact
          isWritable_of_isFlat
            (yields_scanFlat _ _ _ hRead) hFloats _
      · omega
      · omega
      · omega
  | succ depth ih =>
      intro cs v rest hRead hFloats
      rw [scanOnce.eq_def] at hRead
      split at hRead
      · cases hRead
      · cases hRead
      · omega
      · rename_i hDepth
        cases hDepth
        rcases (bind_ok_iff _ _ _).1 hRead with
          ⟨⟨xs, rest'⟩, hItems, hEq⟩
        cases hEq
        intro x hMem
        apply yields_scanBracketed ih _ _ _ _ hItems x hMem
        intro q hFloat
        apply hFloats
        rw [floats, floatsItems_eq_flatMap, List.mem_flatMap]
        exact ⟨x, hMem, hFloat⟩
      · rename_i hDepth
        cases hDepth
        rcases (bind_ok_iff _ _ _).1 hRead with
          ⟨⟨es, rest'⟩, hEntries, hEq⟩
        cases hEq
        refine ⟨(Dict.ofList es).nodupKeys, ?_⟩
        intro e hMem
        have hGiven : e ∈ es := Dict.mem_of_mem_ofList hMem
        apply
          yields_scanBracketed (yields_scanEntry ih) _ _ _ _
            hEntries e hGiven
        intro q hFloat
        apply hFloats
        rw [floats, floatsEntries_eq_flatMap,
          List.mem_flatMap]
        exact ⟨e, hMem, hFloat⟩
      · exact
          isWritable_of_isFlat
            (yields_scanFlat _ _ _ hRead) hFloats _

theorem isWritable_of_loads
    {table : TextTable}
    {depth : Nat}
    {bytes : List UInt8}
    {v : JsonValue}
    (hLoads : loads depth bytes = .ok v)
    (hFloats : ∀ q ∈ floats v, ReadsFloat table q) :
    IsWritable table depth v := by
  unfold loads at hLoads
  split at hLoads
  · cases hLoads
  · rcases (bind_ok_iff _ _ _).1 hLoads with
      ⟨⟨x, rest⟩, hScan, hMore⟩
    dsimp only at hMore
    split at hMore
    · cases hMore
      exact yields_scanOnce table depth _ _ _ hScan hFloats
    · cases hMore

end JsonText
