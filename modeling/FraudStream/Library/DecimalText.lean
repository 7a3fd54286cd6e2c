import FraudStream.Library.PyValue

/-
  Plain decimal texts: digits, and at most one point with
  digits after it.

  Reading a plain text as a float rounds the number that its
  digits write, whatever that number is.

  Key definitions include:
    * `DecimalText`
    * `DecimalText.value`

  Main declarations:
    * `DecimalText.toFloat_text`
-/

------------------------------------------------------------
-- Texts And Their Values
------------------------------------------------------------

/- The digits before and after the point. -/
structure DecimalText where
  whole : List (Fin 10)
  fraction : List (Fin 10)
  nonempty : whole ≠ []

namespace DecimalText

/- The character of a digit. -/
def digitChar (d : Fin 10) : Char :=
  Nat.digitChar d

/- A point stands only in front of a digit. -/
def chars (t : DecimalText) : List Char :=
  t.whole.map digitChar ++
    if t.fraction = [] then
      []
    else
      '.' :: t.fraction.map digitChar

def text (t : DecimalText) : String :=
  .ofList t.chars

/- All the digits as one number. -/
def digits (t : DecimalText) : Nat :=
  Decimal.ofDigits
    ((t.whole ++ t.fraction).map Fin.val)

/- The number that a text writes. -/
def value (t : DecimalText) : ℚ :=
  t.digits / 10 ^ t.fraction.length

end DecimalText

------------------------------------------------------------
-- Plain Characters
------------------------------------------------------------

namespace DecimalText

@[simp] theorem digit?_digitChar
    (d : Fin 10) :
    Decimal.digit? (digitChar d) = some (d : Nat) := by
  revert d
  decide

/- A character of a plain text. -/
def IsPlain (c : Char) : Prop :=
  c = '.' ∨ ∃ d, c = digitChar d

theorem isPlain_of_mem
    {t : DecimalText}
    {c : Char}
    (hMem : c ∈ t.chars) :
    IsPlain c := by
  rcases List.mem_append.1 hMem with hWhole | hFraction
  · rcases List.mem_map.1 hWhole with ⟨d, -, rfl⟩
    exact .inr ⟨d, rfl⟩
  · split at hFraction
    · cases hFraction
    · rcases List.mem_cons.1 hFraction with rfl | hDigit
      · exact .inl rfl
      · rcases List.mem_map.1 hDigit with ⟨d, -, rfl⟩
        exact .inr ⟨d, rfl⟩

theorem IsPlain.isSpace
    {c : Char}
    (hPlain : IsPlain c) :
    Decimal.isSpace c = false := by
  rcases hPlain with rfl | ⟨d, rfl⟩
  · decide
  · revert d
    decide

theorem IsPlain.ne_underscore
    {c : Char}
    (hPlain : IsPlain c) :
    c ≠ '_' := by
  rcases hPlain with rfl | ⟨d, rfl⟩
  · decide
  · revert d
    decide

/- Nothing is trimmed from a plain text. -/
theorem dropWhile_isSpace
    {cs : List Char}
    (hPlain : ∀ c ∈ cs, IsPlain c) :
    cs.dropWhile Decimal.isSpace = cs := by
  cases cs with
  | nil => rfl
  | cons c cs =>
      exact List.dropWhile_cons_of_neg
        (by simp [(hPlain c (by simp)).isSpace])

theorem trim_chars
    (t : DecimalText) :
    ((t.chars.dropWhile Decimal.isSpace).reverse.dropWhile
      Decimal.isSpace).reverse = t.chars := by
  rw [dropWhile_isSpace (fun _ => isPlain_of_mem),
    dropWhile_isSpace, List.reverse_reverse]
  intro c hMem
  exact isPlain_of_mem (List.mem_reverse.1 hMem)

/- A plain text starts with a digit. -/
theorem exists_chars_eq_cons
    (t : DecimalText) :
    ∃ d cs, t.chars = digitChar d :: cs := by
  rcases List.exists_cons_of_ne_nil t.nonempty with
    ⟨d, ds, hWhole⟩
  unfold chars
  rw [hWhole, List.map_cons, List.cons_append]
  exact ⟨d, _, rfl⟩

theorem splitSign_chars
    (t : DecimalText) :
    Decimal.splitSign t.chars = (false, t.chars) := by
  rcases exists_chars_eq_cons t with ⟨d, cs, hChars⟩
  have hSign :
      digitChar d ≠ '-' ∧ digitChar d ≠ '+' := by
    clear hChars
    revert d
    decide
  rw [hChars, Decimal.splitSign.eq_def]
  split
  · rename_i hHead
    exact absurd (List.cons.inj hHead).1 hSign.1
  · rename_i hHead
    exact absurd (List.cons.inj hHead).1 hSign.2
  · rfl

end DecimalText

------------------------------------------------------------
-- The Parts Of A Text
------------------------------------------------------------

namespace DecimalText

/- Leading digits are split off up to the first character
   that is none. -/
theorem splitDigits_append
    (ds : List (Fin 10))
    {rest : List Char}
    (hRest : Decimal.splitDigits rest = ([], rest)) :
    Decimal.splitDigits (ds.map digitChar ++ rest) =
      (ds.map Fin.val, rest) := by
  induction ds with
  | nil => exact hRest
  | cons d ds ih =>
      rw [List.map_cons, List.cons_append,
        Decimal.splitDigits, digit?_digitChar]
      simp [ih]

theorem splitDigits_map
    (ds : List (Fin 10)) :
    Decimal.splitDigits (ds.map digitChar) =
      (ds.map Fin.val, []) := by
  have hSplit :
      Decimal.splitDigits (ds.map digitChar ++ []) =
        (ds.map Fin.val, []) :=
    splitDigits_append ds rfl
  rwa [List.append_nil] at hSplit

theorem numberParts?_chars
    (t : DecimalText) :
    Decimal.numberParts? t.chars =
      some
        ((t.whole ++ t.fraction).map Fin.val,
          -(t.fraction.length : Int)) := by
  rcases List.exists_cons_of_ne_nil t.nonempty with
    ⟨d, ds, hWhole⟩
  unfold Decimal.numberParts? chars
  by_cases hFraction : t.fraction = []
  · rw [if_pos hFraction, List.append_nil,
      splitDigits_map]
    simp [hFraction, hWhole, Decimal.exponent?]
  · have hPoint :
        Decimal.splitDigits
            ('.' :: t.fraction.map digitChar) =
          ([], '.' :: t.fraction.map digitChar) := by
      rw [Decimal.splitDigits]
      rfl
    rw [if_neg hFraction, splitDigits_append _ hPoint]
    simp [splitDigits_map, hWhole, Decimal.exponent?]

/- A plain text is read as the double nearest to its
   number. -/
theorem floatOfChars?_chars
    (t : DecimalText) :
    Scalar.floatOfChars? t.chars =
      some (PyFloat.ofRat t.value) := by
  rcases exists_chars_eq_cons t with ⟨d, cs, hChars⟩
  have hPlain : ∀ c ∈ t.chars, c ≠ '_' :=
    fun c hMem => (isPlain_of_mem hMem).ne_underscore
  have hFilter : t.chars.filter (· ≠ '_') = t.chars := by
    rw [List.filter_eq_self]
    intro c hMem
    simpa using hPlain c hMem
  -- The first character is a digit, so no word is written.
  have hHead :
      (digitChar d).toLower ≠ 'n' ∧
        (digitChar d).toLower ≠ 'i' := by
    clear hChars
    revert d
    decide
  have hJoined :
      ((t.chars.zip t.chars.tail).all (fun c =>
          (c.1 ≠ '_' || (Decimal.digit? c.2).isSome) &&
            (c.2 ≠ '_' || (Decimal.digit? c.1).isSome)) &&
        t.chars.head? ≠ some '_' &&
        t.chars.getLast? ≠ some '_') = true := by
    simp only [Bool.and_eq_true, List.all_eq_true,
      decide_eq_true_eq, Bool.or_eq_true]
    refine ⟨⟨?_, ?_⟩, ?_⟩
    · rintro ⟨c, c'⟩ hMem
      have hBoth := List.of_mem_zip hMem
      exact
        ⟨.inl (hPlain c hBoth.1),
          .inl (hPlain c' (List.mem_of_mem_tail hBoth.2))⟩
    · intro hFirst
      exact hPlain _ (List.mem_of_head? hFirst) rfl
    · intro hLast
      exact hPlain _ (List.mem_of_getLast? hLast) rfl
  unfold Scalar.floatOfChars?
  simp only [trim_chars, splitSign_chars, hFilter,
    numberParts?_chars, hJoined, if_true, Option.map_some]
  have hNoWord :
      t.chars.map Char.toLower ≠ ['n', 'a', 'n'] ∧
        t.chars.map Char.toLower ≠ ['i', 'n', 'f'] ∧
        t.chars.map Char.toLower ≠
          ['i', 'n', 'f', 'i', 'n', 'i', 't', 'y'] := by
    rw [hChars, List.map_cons]
    simp [hHead.1, hHead.2]
  rw [if_neg hNoWord.1,
    if_neg (not_or.2 hNoWord.2)]
  simp only [Bool.false_eq_true, if_false, value, digits,
    zpow_neg, zpow_natCast, div_eq_mul_inv]

/- `float(text)` of a plain text. -/
theorem toFloat_text
    (t : DecimalText) :
    (Scalar.str t.text).toFloat =
      .ok (PyFloat.ofRat t.value) := by
  simp only [Scalar.toFloat, text, String.toList_ofList,
    floatOfChars?_chars]

end DecimalText
