import FraudStream.Library.CheckDigit
import FraudStream.Ingestion.Rejections

/-
  Card numbers: what their check digit notices, and which
  texts are taken for card numbers.

  The Luhn sum of the code is the total of the Luhn scheme,
  so every changed digit and every swap but that of 0 and 9
  is noticed. The test for digits admits digits of every
  script, and digits such as superscripts that cannot be
  read.

  Key definitions include:
    * `decimalValue`
    * `IsCardNumber`
    * `MeetsGrammar`
    * `IsForeignNumber`

  The main results are:
    * `luhnValid_of_decimal`
    * `luhn_detects_errors`
    * `meetsGrammar_iff`
-/

------------------------------------------------------------
-- The Luhn Sum
------------------------------------------------------------

namespace FraudStream

/- The value of a decimal digit of any script. -/
def decimalValue (c : Char) : Nat :=
  (Decimal.digit? c).getD 0

theorem decimalValue_lt
    (c : Char) :
    decimalValue c < 10 := by
  unfold decimalValue Decimal.digit?
  cases hZero : Decimal.zeroDigits.find? (fun z =>
      z ≤ c.toNat && c.toNat < z + 10) with
  | none => simp
  | some z =>
      have hRange := List.find?_some hZero
      simp only [Bool.and_eq_true, decide_eq_true_eq]
        at hRange
      simp only [Option.map_some, Option.getD_some]
      omega

/- A term of the code is what the scheme adds at a place. -/
theorem cast_luhnTerm
    {i d : Nat}
    (hDigit : d < 10) :
    (luhnTerm i d : ZMod 10) = Luhn.place i d := by
  unfold luhnTerm Luhn.place Luhn.doubled
  by_cases hOdd : i % 2 = 1
  · rw [if_pos hOdd, if_pos hOdd]
    congr 1
    split <;> omega
  · rw [if_neg hOdd, if_neg hOdd]

theorem cast_luhnSum
    (digits : String) :
    (luhnSum digits : ZMod 10) =
      CheckDigit.total Luhn.place
        (digits.toList.map decimalValue) := by
  unfold luhnSum
  induction digits.toList with
  | nil => rfl
  | cons c cs ih =>
      rw [List.reverse_cons, List.zipIdx_append,
        List.map_append, List.sum_append, Nat.cast_add, ih,
        List.map_cons, CheckDigit.total, add_comm]
      simp only [List.zipIdx_singleton, List.length_reverse,
        List.map_cons, List.map_nil, List.sum_singleton,
        List.length_map, Nat.zero_add]
      rw [← cast_luhnTerm (decimalValue_lt c), decimalValue]

theorem luhnSum_mod_eq_zero_iff
    (digits : String) :
    luhnSum digits % 10 = 0 ↔
      Luhn.Valid (digits.toList.map decimalValue) := by
  rw [Luhn.Valid, ← cast_luhnSum,
    ZMod.natCast_eq_zero_iff, Nat.dvd_iff_mod_eq_zero]

/- The Luhn check of decimal digits is that of the scheme. -/
theorem luhnValid_of_decimal
    (table : TextTable)
    {digits : String}
    (hDecimal :
      ∀ c ∈ digits.toList, (Decimal.digit? c).isSome) :
    luhnValid table digits =
      .ok
        (decide
          (Luhn.Valid
            (digits.toList.map decimalValue))) := by
  have hPlain :
      digits.toList.reverse.find? isMarkedDigit = none := by
    rw [List.find?_eq_none]
    intro c hMem
    have hSome := hDecimal c (List.mem_reverse.1 hMem)
    cases hDigit : Decimal.digit? c with
    | none => simp [hDigit] at hSome
    | some n => simp [isMarkedDigit, hDigit]
  rw [luhnValid_eq, hPlain]
  simp only [luhnSum_mod_eq_zero_iff]

/- The Luhn check fails on a digit that is no decimal digit. -/
theorem luhnValid_of_marked
    (table : TextTable)
    {digits : String}
    (hMarked :
      ∃ c ∈ digits.toList, Decimal.digit? c = none) :
    ∃ ch,
      luhnValid table digits =
        .error (invalidLiteral table ch) := by
  rcases hMarked with ⟨c, hMem, hNone⟩
  rw [luhnValid_eq]
  cases hFind : digits.toList.reverse.find? isMarkedDigit with
  | none =>
      have hPlain :=
        List.find?_eq_none.1 hFind c
          (List.mem_reverse.2 hMem)
      simp [isMarkedDigit, hNone] at hPlain
  | some ch => exact ⟨ch, rfl⟩

end FraudStream

------------------------------------------------------------
-- ASCII Digits
------------------------------------------------------------

namespace FraudStream

/- The value of a digit from 0 to 9. -/
def asciiValue (c : Char) : Nat :=
  c.toNat - 48

theorem digit?_of_isDigit
    {c : Char}
    (hDigit : c.isDigit) :
    Decimal.digit? c = some (asciiValue c) := by
  simp only [Char.isDigit, Bool.and_eq_true,
    decide_eq_true_eq, UInt32.le_iff_toNat_le] at hDigit
  have hRange : 48 ≤ c.toNat ∧ c.toNat < 48 + 10 := by
    have hLow : 48 ≤ c.toNat := hDigit.1
    have hHigh : c.toNat ≤ 57 := hDigit.2
    omega
  unfold Decimal.digit? Decimal.zeroDigits
  rw [List.find?_cons_of_pos (by simpa using hRange)]
  rfl

theorem decimalValue_of_isDigit
    {c : Char}
    (hDigit : c.isDigit) :
    decimalValue c = asciiValue c := by
  rw [decimalValue, digit?_of_isDigit hDigit,
    Option.getD_some]

theorem pyIsDigit_of_isDigit
    {c : Char}
    (hDigit : c.isDigit) :
    PyText.isDigit c := by
  simp [PyText.isDigit, digit?_of_isDigit hDigit]

/- A digit is the character of its value. -/
theorem asciiValue_inj
    {c d : Char}
    (hLeft : c.isDigit)
    (hRight : d.isDigit) :
    asciiValue c = asciiValue d ↔ c = d := by
  simp only [Char.isDigit, Bool.and_eq_true,
    decide_eq_true_eq, UInt32.le_iff_toNat_le]
    at hLeft hRight
  have hLow : 48 ≤ c.toNat := hLeft.1
  have hLow' : 48 ≤ d.toNat := hRight.1
  unfold asciiValue
  constructor
  · intro hEq
    have hCode : c.toNat = d.toNat := by
      omega
    exact Char.toNat_inj.1 hCode
  · intro hEq
    rw [hEq]

end FraudStream

------------------------------------------------------------
-- Detected Errors
------------------------------------------------------------

namespace FraudStream

/- Only the digits 0 to 9. -/
def AllDigits (cs : List Char) : Prop :=
  ∀ c ∈ cs, c.isDigit

theorem asciiValue_lt
    {c : Char}
    (hDigit : c.isDigit) :
    asciiValue c < 10 := by
  rw [← decimalValue_of_isDigit hDigit]
  exact decimalValue_lt c

theorem AllDigits.map_decimalValue
    {cs : List Char}
    (hDigits : AllDigits cs) :
    cs.map decimalValue = cs.map asciiValue :=
  List.map_congr_left (fun c hMem =>
    decimalValue_of_isDigit (hDigits c hMem))

/- The Luhn check of the digits 0 to 9. -/
theorem luhnValid_of_allDigits
    (table : TextTable)
    {cs : List Char}
    (hDigits : AllDigits cs) :
    luhnValid table (.ofList cs) =
      .ok (decide (Luhn.Valid (cs.map asciiValue))) := by
  have hDecimal :
      ∀ c ∈ (String.ofList cs).toList,
        (Decimal.digit? c).isSome := by
    intro c hMem
    rw [String.toList_ofList] at hMem
    rw [digit?_of_isDigit (hDigits c hMem)]
    rfl
  rw [luhnValid_of_decimal table hDecimal]
  simp only [String.toList_ofList, hDigits.map_decimalValue]

theorem luhnValid_eq_true_iff
    (table : TextTable)
    {cs : List Char}
    (hDigits : AllDigits cs) :
    luhnValid table (.ofList cs) = .ok true ↔
      Luhn.Valid (cs.map asciiValue) := by
  rw [luhnValid_of_allDigits table hDigits,
    Except.ok.injEq, decide_eq_true_iff]

theorem luhnValid_eq_false_iff
    (table : TextTable)
    {cs : List Char}
    (hDigits : AllDigits cs) :
    luhnValid table (.ofList cs) = .ok false ↔
      ¬ Luhn.Valid (cs.map asciiValue) := by
  rw [luhnValid_of_allDigits table hDigits,
    Except.ok.injEq, decide_eq_false_iff_not]

/- The digits 0 and 9 in either order. -/
def IsZeroNine (c d : Char) : Prop :=
  (c = '0' ∧ d = '9') ∨ (c = '9' ∧ d = '0')

theorem swappable_asciiValue_iff
    {c d : Char}
    (hLeft : c.isDigit)
    (hRight : d.isDigit)
    (hNe : c ≠ d) :
    Luhn.Swappable (asciiValue c) (asciiValue d) ↔
      IsZeroNine c d := by
  have hZero :
      ∀ e : Char, e.isDigit →
        (asciiValue e = 0 ↔ e = '0') :=
    fun e hDigit => asciiValue_inj hDigit (d := '0') rfl
  have hNine :
      ∀ e : Char, e.isDigit →
        (asciiValue e = 9 ↔ e = '9') :=
    fun e hDigit => asciiValue_inj hDigit (d := '9') rfl
  unfold Luhn.Swappable IsZeroNine
  rw [asciiValue_inj hLeft hRight, hZero c hLeft,
    hZero d hRight, hNine c hLeft, hNine d hRight]
  exact or_iff_right hNe

section Errors

variable (table : TextTable)
variable {before after : List Char}
variable {c d : Char}

theorem changed_digit_detected
    (hDigits : AllDigits (before ++ c :: after))
    (hDigit : d.isDigit)
    (hNe : d ≠ c)
    (hAccepted :
      luhnValid table (.ofList (before ++ c :: after)) =
        .ok true) :
    luhnValid table (.ofList (before ++ d :: after)) =
      .ok false := by
  have hChanged : AllDigits (before ++ d :: after) := by
    intro x hMem
    simp only [List.mem_append, List.mem_cons] at hMem
    rcases hMem with hBefore | rfl | hAfter
    · exact hDigits x (List.mem_append_left _ hBefore)
    · exact hDigit
    · exact hDigits x (by simp [hAfter])
  have hOld : c.isDigit := hDigits c (by simp)
  rw [luhnValid_eq_true_iff table hDigits, List.map_append,
    List.map_cons] at hAccepted
  rw [luhnValid_eq_false_iff table hChanged,
    List.map_append, List.map_cons]
  exact
    Luhn.not_valid_of_change (asciiValue_lt hOld)
      (asciiValue_lt hDigit)
      (fun hEq =>
        hNe ((asciiValue_inj hDigit hOld).1 hEq))
      hAccepted

theorem swap_detected_iff
    (hDigits : AllDigits (before ++ c :: d :: after))
    (hNe : c ≠ d)
    (hAccepted :
      luhnValid table
          (.ofList (before ++ c :: d :: after)) =
        .ok true) :
    luhnValid table (.ofList (before ++ d :: c :: after)) =
        .ok false ↔
      ¬ IsZeroNine c d := by
  have hSwapped : AllDigits (before ++ d :: c :: after) := by
    intro x hMem
    apply hDigits x
    simp only [List.mem_append, List.mem_cons] at hMem ⊢
    exact hMem.imp_right or_left_comm.1
  have hLeft : c.isDigit := hDigits c (by simp)
  have hRight : d.isDigit := hDigits d (by simp)
  rw [luhnValid_eq_true_iff table hDigits, List.map_append,
    List.map_cons, List.map_cons] at hAccepted
  rw [luhnValid_eq_false_iff table hSwapped,
    List.map_append, List.map_cons, List.map_cons,
    Luhn.valid_swap_iff (asciiValue_lt hLeft)
      (asciiValue_lt hRight) hAccepted,
    swappable_asciiValue_iff hLeft hRight hNe]

theorem exists_asciiValue
    {n : Nat}
    (hDigit : n < 10) :
    ∃ c : Char, c.isDigit ∧ asciiValue c = n := by
  have hAll :
      ∀ n < 10, (Nat.digitChar n).isDigit ∧
        asciiValue (Nat.digitChar n) = n := by
    decide
  exact ⟨Nat.digitChar n, hAll n hDigit⟩

theorem existsUnique_checkDigit
    {cs : List Char}
    (hDigits : AllDigits cs) :
    ∃! c : Char,
      c.isDigit ∧
        luhnValid table (.ofList (cs ++ [c])) =
          .ok true := by
  have hValid :
      ∀ c : Char, c.isDigit →
        (luhnValid table (.ofList (cs ++ [c])) = .ok true ↔
          Luhn.Valid (cs.map asciiValue ++
            [asciiValue c])) := by
    intro c hDigit
    have hAppended : AllDigits (cs ++ [c]) := by
      intro x hMem
      rcases List.mem_append.1 hMem with hOld | hNew
      · exact hDigits x hOld
      · rw [List.mem_singleton.1 hNew]
        exact hDigit
    rw [luhnValid_eq_true_iff table hAppended,
      List.map_append, List.map_cons, List.map_nil]
  rcases Luhn.existsUnique_check (cs.map asciiValue) with
    ⟨n, ⟨hSmall, hCheck⟩, hUnique⟩
  rcases exists_asciiValue hSmall with ⟨c, hDigit, hValue⟩
  refine ⟨c, ⟨hDigit, (hValid c hDigit).2 ?_⟩, ?_⟩
  · rw [hValue]
    exact hCheck
  · rintro e ⟨hOther, hAccepted⟩
    have hSame :=
      hUnique (asciiValue e)
        ⟨asciiValue_lt hOther,
          (hValid e hOther).1 hAccepted⟩
    exact
      (asciiValue_inj hOther hDigit).1
        (hSame.trans hValue.symm)

/- Every changed digit and every swap but that of 0 and 9 is
   detected, and there is one check digit. -/
theorem luhn_detects_errors :
    (∀ (before after : List Char) (c d : Char),
      AllDigits (before ++ c :: after) → d.isDigit →
      d ≠ c →
      luhnValid table (.ofList (before ++ c :: after)) =
        .ok true →
      luhnValid table (.ofList (before ++ d :: after)) =
        .ok false) ∧
    (∀ (before after : List Char) (c d : Char),
      AllDigits (before ++ c :: d :: after) → c ≠ d →
      luhnValid table
          (.ofList (before ++ c :: d :: after)) =
        .ok true →
      (luhnValid table
            (.ofList (before ++ d :: c :: after)) =
          .ok false ↔
        ¬ IsZeroNine c d)) ∧
    ∀ cs : List Char, AllDigits cs →
      ∃! c : Char,
        c.isDigit ∧
          luhnValid table (.ofList (cs ++ [c])) =
            .ok true :=
  ⟨fun _ _ _ _ => changed_digit_detected table,
    fun _ _ _ _ => swap_detected_iff table,
    fun _ => existsUnique_checkDigit table⟩

end Errors

end FraudStream

------------------------------------------------------------
-- The Grammar
------------------------------------------------------------

namespace FraudStream

/- 15 or 16 digits from 0 to 9 with a valid check digit. -/
def IsCardNumber (cs : List Char) : Prop :=
  (cs.length = 15 ∨ cs.length = 16) ∧
    AllDigits cs ∧
    Luhn.Valid (cs.map asciiValue)

/- The first six and the last four characters. -/
def endsOf (cs : List Char) : String × String :=
  (.ofList (cs.take 6), .ofList (cs.drop (cs.length - 4)))

/- Card numbers give their parts, which are ASCII digits, and
   all other texts are refused as invalid card numbers. -/
def MeetsGrammar (table : TextTable) (pan : String) : Prop :=
  let digits := (stripSeparators pan).toList
  (extractPanParts table pan = .ok (endsOf digits) ↔
      IsCardNumber digits) ∧
    (¬ IsCardNumber digits →
      ∃ message,
        extractPanParts table pan =
          .error (.invalidPan message)) ∧
    ∀ parts, extractPanParts table pan = .ok parts →
      AllDigits parts.1.toList ∧ AllDigits parts.2.toList

/- 15 or 16 digits, not all of them from 0 to 9, that cannot
   all be read or that have a valid check digit. -/
def IsForeignNumber (cs : List Char) : Prop :=
  (cs.length = 15 ∨ cs.length = 16) ∧
    (∀ c ∈ cs, PyText.isDigit c) ∧
    ¬ AllDigits cs ∧
    ((∃ c ∈ cs, Decimal.digit? c = none) ∨
      Luhn.Valid (cs.map decimalValue))

theorem IsCardNumber.all_isDigit
    {cs : List Char}
    (hCard : IsCardNumber cs) :
    ∀ c ∈ cs, PyText.isDigit c :=
  fun c hMem => pyIsDigit_of_isDigit (hCard.2.1 c hMem)

theorem isDigits_iff
    (s : String) :
    isDigits s ↔
      s.toList ≠ [] ∧ ∀ c ∈ s.toList, PyText.isDigit c := by
  simp [isDigits]

section Grammar

variable (table : TextTable)
variable {pan : String}

/- A text without the right number of digits is no card
   number. -/
theorem extractPanParts_of_not_digits
    (hNot :
      ¬ (isDigits (stripSeparators pan) ∧
        ((stripSeparators pan).toList.length = 15 ∨
          (stripSeparators pan).toList.length = 16))) :
    ∃ message,
      extractPanParts table pan =
        .error (.invalidPan message) := by
  unfold extractPanParts
  by_cases hDigits : isDigits (stripSeparators pan)
  · have hLength :
        (stripSeparators pan).toList.length ≠ 15 ∧
          (stripSeparators pan).toList.length ≠ 16 :=
      not_or.1 (fun hLength => hNot ⟨hDigits, hLength⟩)
    simp only [hDigits, Bool.not_true, Bool.false_eq_true,
      if_false, if_pos hLength]
    exact ⟨_, rfl⟩
  · simp only [Bool.not_eq_true] at hDigits
    simp only [hDigits, Bool.not_false, if_true]
    exact ⟨_, rfl⟩

/- The Luhn check decides over the right number of digits. -/
theorem extractPanParts_of_digits
    (hDigits : isDigits (stripSeparators pan))
    (hLength :
      (stripSeparators pan).toList.length = 15 ∨
        (stripSeparators pan).toList.length = 16) :
    extractPanParts table pan =
      match luhnValid table (stripSeparators pan) with
      | .error fault => .error fault
      | .ok false =>
          .error (.invalidPan "Luhn check failed")
      | .ok true =>
          .ok (endsOf (stripSeparators pan).toList) := by
  have hInside :
      ¬ ((stripSeparators pan).toList.length ≠ 15 ∧
        (stripSeparators pan).toList.length ≠ 16) := by
    omega
  unfold extractPanParts endsOf
  cases hChecked : luhnValid table (stripSeparators pan) with
  | error fault =>
      simp only [hDigits, Bool.not_true, Bool.false_eq_true,
        if_false, if_neg hInside, hChecked]
  | ok valid =>
      cases valid <;>
        simp only [hDigits, Bool.not_true,
          Bool.false_eq_true, if_false, if_neg hInside,
          hChecked]

theorem AllDigits.ends
    {cs : List Char}
    (hDigits : AllDigits cs) :
    AllDigits (endsOf cs).1.toList ∧
      AllDigits (endsOf cs).2.toList := by
  simp only [endsOf, String.toList_ofList]
  exact
    ⟨fun c hMem => hDigits c (List.mem_of_mem_take hMem),
      fun c hMem => hDigits c (List.mem_of_mem_drop hMem)⟩

theorem not_isCardNumber_of_not_digits
    {cs : List Char}
    (hNot :
      ¬ ((∀ c ∈ cs, PyText.isDigit c) ∧
        (cs.length = 15 ∨ cs.length = 16))) :
    ¬ IsCardNumber cs :=
  fun hCard => hNot ⟨hCard.all_isDigit, hCard.1⟩

/- A refused text meets the grammar when it is no card
   number. -/
theorem meetsGrammar_of_refused
    (hRefused :
      ∃ message,
        extractPanParts table pan =
          .error (.invalidPan message))
    (hNot : ¬ IsCardNumber (stripSeparators pan).toList) :
    MeetsGrammar table pan := by
  rcases hRefused with ⟨message, hError⟩
  refine ⟨?_, fun _ => ⟨message, hError⟩, ?_⟩
  · rw [hError]
    exact ⟨nofun, fun hCard => absurd hCard hNot⟩
  · rw [hError]
    exact nofun

/- A check that raises instead refuses nothing. -/
theorem not_meetsGrammar_of_raised
    {error : PyError}
    {message : String}
    (hRaised :
      extractPanParts table pan =
        .error (.raised error message))
    (hNot : ¬ IsCardNumber (stripSeparators pan).toList) :
    ¬ MeetsGrammar table pan := by
  intro hMeets
  rcases hMeets.2.1 hNot with ⟨refusal, hError⟩
  rw [hRaised] at hError
  cases hError

/- Parts that are returned for a valid check digit are those
   of a card number when all digits are from 0 to 9. -/
theorem meetsGrammar_iff_of_returned
    (hLength :
      (stripSeparators pan).toList.length = 15 ∨
        (stripSeparators pan).toList.length = 16)
    (hValid :
      Luhn.Valid
        ((stripSeparators pan).toList.map decimalValue))
    (hParts :
      extractPanParts table pan =
        .ok (endsOf (stripSeparators pan).toList)) :
    MeetsGrammar table pan ↔
      AllDigits (stripSeparators pan).toList := by
  constructor
  · intro hMeets
    exact (hMeets.1.1 hParts).2.1
  · intro hAll
    have hCard : IsCardNumber (stripSeparators pan).toList :=
      ⟨hLength, hAll, hAll.map_decimalValue ▸ hValid⟩
    refine
      ⟨iff_of_true hParts hCard,
        fun hNot => absurd hCard hNot, ?_⟩
    intro parts hReturned
    rw [hParts, Except.ok.injEq] at hReturned
    rw [← hReturned]
    exact hAll.ends

/- What happens to the right number of digits. -/
theorem meetsGrammar_iff_of_digits
    (hDigits :
      ∀ c ∈ (stripSeparators pan).toList, PyText.isDigit c)
    (hLength :
      (stripSeparators pan).toList.length = 15 ∨
        (stripSeparators pan).toList.length = 16) :
    MeetsGrammar table pan ↔
      AllDigits (stripSeparators pan).toList ∨
        ¬ ((∃ c ∈ (stripSeparators pan).toList,
              Decimal.digit? c = none) ∨
            Luhn.Valid
              ((stripSeparators pan).toList.map
                decimalValue)) := by
  have hNonempty : (stripSeparators pan).toList ≠ [] :=
    List.ne_nil_of_length_pos (by omega)
  have hParts :=
    extractPanParts_of_digits table
      ((isDigits_iff _).2 ⟨hNonempty, hDigits⟩) hLength
  by_cases hMarked :
      ∃ c ∈ (stripSeparators pan).toList,
        Decimal.digit? c = none
  · -- The sum cannot be read.
    have hForeign :
        ¬ AllDigits (stripSeparators pan).toList := by
      rcases hMarked with ⟨c, hMem, hNone⟩
      intro hAll
      rw [digit?_of_isDigit (hAll c hMem)] at hNone
      cases hNone
    rcases luhnValid_of_marked table hMarked with
      ⟨ch, hFault⟩
    rw [hFault] at hParts
    exact
      iff_of_false
        (not_meetsGrammar_of_raised table hParts
          (fun hCard => hForeign hCard.2.1))
        (not_or.2 ⟨hForeign, not_not.2 (.inl hMarked)⟩)
  · have hDecimal :
        ∀ c ∈ (stripSeparators pan).toList,
          (Decimal.digit? c).isSome := by
      intro c hMem
      rw [Option.isSome_iff_ne_none]
      exact fun hNone => hMarked ⟨c, hMem, hNone⟩
    rw [luhnValid_of_decimal table hDecimal] at hParts
    by_cases hValid :
        Luhn.Valid
          ((stripSeparators pan).toList.map decimalValue)
    · -- The parts are returned.
      rw [decide_eq_true hValid] at hParts
      rw [meetsGrammar_iff_of_returned table hLength hValid
        hParts]
      simp only [hValid, or_true, not_true, or_false]
    · -- The check digit is wrong.
      rw [decide_eq_false hValid] at hParts
      refine
        iff_of_true
          (meetsGrammar_of_refused table ⟨_, hParts⟩ ?_)
          (.inr (not_or.2 ⟨hMarked, hValid⟩))
      intro hCard
      exact
        hValid (hCard.2.1.map_decimalValue ▸ hCard.2.2)

/- Texts are taken for card numbers as the grammar says but
   for foreign numbers. -/
theorem meetsGrammar_iff :
    MeetsGrammar table pan ↔
      ¬ IsForeignNumber (stripSeparators pan).toList := by
  by_cases hNumber :
      (∀ c ∈ (stripSeparators pan).toList,
          PyText.isDigit c) ∧
        ((stripSeparators pan).toList.length = 15 ∨
          (stripSeparators pan).toList.length = 16)
  · rw [meetsGrammar_iff_of_digits table hNumber.1
      hNumber.2, IsForeignNumber, and_iff_right hNumber.2,
      and_iff_right hNumber.1, not_and_or, not_not]
  · have hRefused :=
      extractPanParts_of_not_digits table
        (fun hBoth =>
          hNumber
            ⟨((isDigits_iff _).1 hBoth.1).2, hBoth.2⟩)
    refine
      iff_of_true
        (meetsGrammar_of_refused table hRefused
          (not_isCardNumber_of_not_digits hNumber)) ?_
    exact
      fun hForeign =>
        hNumber ⟨hForeign.2.1, hForeign.1⟩

end Grammar

instance (cs : List Char) : Decidable (AllDigits cs) :=
  List.decidableBAll _ cs

/- Sixteen Arabic-Indic digits are accepted, and fifteen
   superscripts raise another exception. -/
theorem foreign_digits_slip_through :
    let table : TextTable := ⟨fun _ => false, fun _ => ""⟩
    extractPanParts table "٤١١١١١١١١١١١١١١١" =
        .ok ("٤١١١١١", "١١١١") ∧
      ¬ MeetsGrammar table "٤١١١١١١١١١١١١١١١" ∧
      (∃ message,
        extractPanParts table "²²²²²²²²²²²²²²²" =
          .error (.raised .valueError message)) ∧
      ¬ MeetsGrammar table "²²²²²²²²²²²²²²²" := by
  intro table
  refine ⟨?_, ?_, ?_, ?_⟩
  · rw [extractPanParts_of_digits table (by decide +kernel)
      (by decide +kernel)]
    rfl
  · rw [meetsGrammar_iff_of_digits table
      (List.all_eq_true.1 (by decide +kernel))
      (by decide +kernel)]
    have hForeign :
        ¬ AllDigits
          (stripSeparators "٤١١١١١١١١١١١١١١١").toList := by
      decide +kernel
    have hValid :
        Luhn.Valid
          ((stripSeparators "٤١١١١١١١١١١١١١١١").toList.map
            decimalValue) := by
      decide +kernel
    exact not_or.2 ⟨hForeign, not_not.2 (.inr hValid)⟩
  · rw [extractPanParts_of_digits table (by decide +kernel)
      (by decide +kernel)]
    exact ⟨_, rfl⟩
  · rw [meetsGrammar_iff_of_digits table
      (List.all_eq_true.1 (by decide +kernel))
      (by decide +kernel)]
    have hForeign :
        ¬ AllDigits
          (stripSeparators "²²²²²²²²²²²²²²²").toList := by
      decide +kernel
    have hMarked :
        (stripSeparators "²²²²²²²²²²²²²²²").toList.any
          (fun c => Decimal.digit? c = none) = true := by
      decide +kernel
    exact
      not_or.2
        ⟨hForeign,
          not_not.2 (.inl (by simpa using hMarked))⟩

end FraudStream
