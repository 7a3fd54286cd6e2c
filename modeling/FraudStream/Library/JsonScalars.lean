import Mathlib.Data.List.TakeWhile
import FraudStream.Library.JsonText

/-
  The texts of strings and of integers are read back.

  A string is written in ASCII: each of its characters is
  read back from its code, an escape of two surrogates
  included. A number is read the same in front of a comma
  or a bracket as at the end of a text.

  Key definitions include:
    * `JsonText.encode`
    * `JsonText.partsOf`
    * `JsonText.Ends`

  Main results:
    * `JsonText.decode_of_ascii`
    * `JsonText.scanString_escaped`
    * `JsonText.scanNumber_append`
    * `JsonText.scanNumber_int`
-/

------------------------------------------------------------
-- Bytes
------------------------------------------------------------

namespace JsonText

/- `text.encode("utf-8")` -/
def encode (s : String) : List UInt8 :=
  s.toList.flatMap String.utf8EncodeChar

/- The characters of ASCII, but for the null character. -/
def IsAscii (c : Char) : Prop :=
  0 < c.toNat ∧ c.toNat < 128

instance (c : Char) : Decidable (IsAscii c) :=
  inferInstanceAs (Decidable (0 < c.toNat ∧ c.toNat < 128))

theorem isAscii_of_all
    {cs : List Char}
    (hAll : cs.all (fun c => decide (IsAscii c)) = true) :
    ∀ c ∈ cs, IsAscii c := by
  intro c hMem
  exact of_decide_eq_true (List.all_eq_true.1 hAll c hMem)

theorem utf8EncodeChar_of_ascii
    {c : Char}
    (hAscii : IsAscii c) :
    String.utf8EncodeChar c = [.ofNat c.toNat] := by
  have hSmall : c.val.toNat ≤ 127 := Nat.le_of_lt_succ hAscii.2
  simp only [String.utf8EncodeChar, if_pos hSmall]
  rfl

theorem toNat_byte
    {c : Char}
    (hAscii : IsAscii c) :
    (UInt8.ofNat c.toNat).toNat = c.toNat := by
  have hSmall := hAscii.2
  rw [UInt8.toNat_ofNat']
  omega

theorem ofCode_toNat
    (c : Char) :
    ofCode c.toNat = c := by
  have hValid := c.valid
  have hScalar : isSurrogate c.toNat = false := by
    simp only [UInt32.isValidChar, Nat.isValidChar] at hValid
    simp only [isSurrogate, Char.toNat, Bool.and_eq_false_iff,
      decide_eq_false_iff_not]
    omega
  rw [ofCode, hScalar]
  simp

theorem decodeUtf8_cons_of_lt
    {a : UInt8}
    (hAscii : a.toNat < 0x80)
    (rest : List UInt8) :
    decodeUtf8 (a :: rest) =
      (decodeUtf8 rest).map (ofCode a.toNat :: ·) := by
  rw [decodeUtf8.eq_def]
  exact if_pos hAscii

/- A text in ASCII is one byte for each character. -/
theorem decodeUtf8_of_ascii
    {cs : List Char}
    (hAscii : ∀ c ∈ cs, IsAscii c) :
    decodeUtf8 (cs.flatMap String.utf8EncodeChar) =
      some cs := by
  induction cs with
  | nil =>
      rw [List.flatMap_nil, decodeUtf8]
  | cons c cs ih =>
      rcases List.forall_mem_cons.1 hAscii with ⟨hHead, hTail⟩
      rw [List.flatMap_cons, utf8EncodeChar_of_ascii hHead,
        List.singleton_append, decodeUtf8_cons_of_lt
          (by rw [toNat_byte hHead]; exact hHead.2),
        toNat_byte hHead, ih hTail, ofCode_toNat]
      rfl

theorem byte_ne
    {c : Char}
    (hAscii : IsAscii c)
    {b : UInt8}
    (hOther : b = 0 ∨ 128 ≤ b.toNat) :
    UInt8.ofNat c.toNat ≠ b := by
  intro hEq
  have hByte := toNat_byte hAscii
  rw [hEq] at hByte
  rcases hOther with rfl | hLarge
  · exact absurd hByte.symm (Nat.ne_of_gt hAscii.1)
  · exact absurd hAscii.2 (by omega)

set_option linter.auxLemma false in
/- No byte of a text in ASCII is taken for one of another
   encoding. -/
theorem detectEncoding_of_ascii
    {cs : List Char}
    (hAscii : ∀ c ∈ cs, IsAscii c) :
    detectEncoding (cs.flatMap String.utf8EncodeChar) =
      (.utf8, 0) := by
  have hBytes :
      cs.flatMap String.utf8EncodeChar =
        cs.map (fun c => UInt8.ofNat c.toNat) := by
    rw [List.map_eq_flatMap]
    apply List.flatMap_congr
    intro c hMem
    exact utf8EncodeChar_of_ascii (hAscii c hMem)
  have hNot :
      ∀ b ∈ cs.map (fun c => UInt8.ofNat c.toNat),
        b ≠ 0 ∧ b ≠ 0xfe ∧ b ≠ 0xff ∧ b ≠ 0xef := by
    intro b hMem
    rcases List.mem_map.1 hMem with ⟨c, hChar, rfl⟩
    have hC := hAscii c hChar
    exact
      ⟨byte_ne hC (.inl rfl), byte_ne hC (.inr (by decide)),
        byte_ne hC (.inr (by decide)),
        byte_ne hC (.inr (by decide))⟩
  rw [hBytes]
  generalize cs.map (fun c => UInt8.ofNat c.toNat) = bytes
    at hNot
  rcases bytes with _ | ⟨a, _ | ⟨b, _ | ⟨c, _ | ⟨d, rest⟩⟩⟩⟩
  case nil => rfl
  all_goals
    have hFirst := hNot a List.mem_cons_self
    -- No mark starts with such a byte.
    delta detectEncoding detectEncoding.match_1
    refine (dif_neg hFirst.1).trans ?_
    refine (dif_neg hFirst.2.2.1).trans ?_
    refine (dif_neg hFirst.2.1).trans ?_
    refine (dif_neg hFirst.2.2.2).trans ?_
  · rfl
  · have hSecond :=
      hNot b (List.mem_cons_of_mem _ List.mem_cons_self)
    exact (if_neg hFirst.1).trans (if_neg hSecond.1)
  · rfl
  · have hSecond :=
      hNot b (List.mem_cons_of_mem _ List.mem_cons_self)
    exact (if_neg hFirst.1).trans (if_neg hSecond.1)

theorem decode_of_ascii
    {cs : List Char}
    (hAscii : ∀ c ∈ cs, IsAscii c) :
    decode (cs.flatMap String.utf8EncodeChar) = some cs := by
  unfold decode
  rw [detectEncoding_of_ascii hAscii]
  exact decodeUtf8_of_ascii hAscii

end JsonText

------------------------------------------------------------
-- Strings
------------------------------------------------------------

namespace JsonText

open PyText

/- The parts that a character is scanned as. -/
def partsOf (c : Char) : List StringPart :=
  if c.toNat < 32 ∧ c ≠ '\n' ∧ c ≠ '\r' ∧ c ≠ '\t' ∧
      c.toNat ≠ 12 ∧ c.toNat ≠ 8 then
    [.unit c.toNat]
  else if c.toNat < 127 then
    [.char c]
  else if c.toNat < 65536 then
    [.unit c.toNat]
  else
    [.unit (0xd800 + (c.toNat - 65536) / 1024),
      .unit (0xdc00 + (c.toNat - 65536) % 1024)]

theorem not_surrogate
    (c : Char) :
    c.toNat < 0xd800 ∨ 0xdfff < c.toNat := by
  have hValid := c.valid
  simp only [UInt32.isValidChar, Nat.isValidChar] at hValid
  simp only [Char.toNat]
  omega

theorem toNat_lt
    (c : Char) :
    c.toNat < 0x110000 := by
  have hValid := c.valid
  simp only [UInt32.isValidChar, Nat.isValidChar] at hValid
  simp only [Char.toNat]
  omega

theorem hexDigit?_digitChar
    {n : Nat}
    (hSmall : n < 16) :
    hexDigit? (Nat.digitChar n) = some n := by
  have hAll :
      ∀ m < 16, hexDigit? (Nat.digitChar m) = some m := by
    decide
  exact hAll n hSmall

/- A unit is read from the front of its escape. -/
theorem scanParts_jsonUnit
    {n : Nat}
    (hFits : n < 65536)
    {cs rest : List Char}
    {parts : List StringPart}
    (hRest : scanParts cs = some (parts, rest)) :
    scanParts (jsonUnit n ++ cs) =
      some (.unit n :: parts, rest) := by
  have hDigits :
      hexDigits 4 n =
        [Nat.digitChar (n / 16 / 16 / 16 % 16),
          Nat.digitChar (n / 16 / 16 % 16),
          Nat.digitChar (n / 16 % 16),
          Nat.digitChar (n % 16)] := rfl
  have hUnit :
      hexUnit? (Nat.digitChar (n / 16 / 16 / 16 % 16))
          (Nat.digitChar (n / 16 / 16 % 16))
          (Nat.digitChar (n / 16 % 16))
          (Nat.digitChar (n % 16)) =
        some n := by
    unfold hexUnit?
    rw [hexDigit?_digitChar (Nat.mod_lt _ (by omega)),
      hexDigit?_digitChar (Nat.mod_lt _ (by omega)),
      hexDigit?_digitChar (Nat.mod_lt _ (by omega)),
      hexDigit?_digitChar (Nat.mod_lt _ (by omega))]
    simp only [bind, Option.bind, pure, Option.some.injEq]
    omega
  rw [jsonUnit, hDigits]
  simp only [List.cons_append, List.nil_append, scanParts,
    hUnit, hRest, bind, Option.bind, pure]

/- A character is read from the front of its two-character
   escape. -/
theorem scanParts_escape
    {e c : Char}
    (hNoUnit : e ≠ 'u')
    (hEscape : simpleEscape? e = some c)
    {cs rest : List Char}
    {parts : List StringPart}
    (hRest : scanParts cs = some (parts, rest)) :
    scanParts ('\\' :: e :: cs) =
      some (.char c :: parts, rest) := by
  rw [scanParts.eq_4 _ _ (fun _ _ _ _ _ h _ => hNoUnit h)]
  simp only [hEscape, hRest, bind, Option.bind, pure]

theorem scanParts_plain
    {c : Char}
    (hQuote : c ≠ '"')
    (hEscape : c ≠ '\\')
    (hControl : 0x1f < c.toNat)
    {cs rest : List Char}
    {parts : List StringPart}
    (hRest : scanParts cs = some (parts, rest)) :
    scanParts (c :: cs) = some (.char c :: parts, rest) := by
  rw [scanParts.eq_5 _ _ (fun h => hQuote h)
    (fun _ _ _ _ _ h _ => hEscape h)
    (fun _ _ h _ => hEscape h),
    if_neg (by
      rintro (hLow | hSlash)
      · omega
      · exact hEscape hSlash)]
  simp only [hRest, bind, Option.bind, pure]

/- The parts of a character are read from the front of its
   code. -/
theorem scanParts_jsonEscape
    (c : Char)
    {cs rest : List Char}
    {parts : List StringPart}
    (hRest : scanParts cs = some (parts, rest)) :
    scanParts (jsonEscape c ++ cs) =
      some (partsOf c ++ parts, rest) := by
  have hBound := toNat_lt c
  unfold jsonEscape
  split
  · rename_i hSelf
    rcases hSelf with rfl | rfl
    · exact scanParts_escape (by decide) rfl hRest
    · exact scanParts_escape (by decide) rfl hRest
  rename_i hSelf
  rw [not_or] at hSelf
  split
  · rename_i hNewline
    rw [hNewline]
    exact scanParts_escape (by decide) rfl hRest
  rename_i hNewline
  split
  · rename_i hReturn
    rw [hReturn]
    exact scanParts_escape (by decide) rfl hRest
  rename_i hReturn
  split
  · rename_i hTab
    rw [hTab]
    exact scanParts_escape (by decide) rfl hRest
  rename_i hTab
  split
  · rename_i hFeed
    have hChar : c = '\x0c' := Char.toNat_inj.1 hFeed
    rw [hChar]
    exact scanParts_escape (by decide) rfl hRest
  rename_i hFeed
  split
  · rename_i hBack
    have hChar : c = '\x08' := Char.toNat_inj.1 hBack
    rw [hChar]
    exact scanParts_escape (by decide) rfl hRest
  rename_i hBack
  split
  · rename_i hPlain
    have hParts : partsOf c = [.char c] := by
      unfold partsOf
      rw [if_neg (by omega), if_pos hPlain.2]
    rw [hParts]
    exact
      scanParts_plain hSelf.1 hSelf.2 (by omega) hRest
  rename_i hOther
  split
  · rename_i hUnit
    have hParts : partsOf c = [.unit c.toNat] := by
      unfold partsOf
      by_cases hControl : c.toNat < 32
      · rw [if_pos
          ⟨hControl, hNewline, hReturn, hTab, hFeed, hBack⟩]
      · rw [if_neg (by omega), if_neg (by omega),
          if_pos hUnit]
    rw [hParts]
    exact scanParts_jsonUnit hUnit hRest
  · rename_i hPair
    have hParts :
        partsOf c =
          [.unit (0xd800 + (c.toNat - 65536) / 1024),
            .unit (0xdc00 + (c.toNat - 65536) % 1024)] := by
      unfold partsOf
      rw [if_neg (by omega), if_neg (by omega),
        if_neg hPair]
    rw [hParts]
    dsimp only
    rw [List.append_assoc]
    exact
      scanParts_jsonUnit (by omega)
        (scanParts_jsonUnit (by omega) hRest)

/- A character is joined from its parts. -/
theorem joinParts_partsOf
    (c : Char)
    (parts : List StringPart) :
    joinParts (partsOf c ++ parts) =
      c :: joinParts parts := by
  have hBound := toNat_lt c
  have hScalar := not_surrogate c
  have hUnit :
      c.toNat < 65536 →
        joinParts (.unit c.toNat :: parts) =
          c :: joinParts parts := by
    intro _
    have hHigh : isHigh c.toNat = false := by
      simp only [isHigh, Bool.and_eq_false_iff,
        decide_eq_false_iff_not]
      omega
    cases parts with
    | nil => simp only [joinParts, ofCode_toNat]
    | cons part parts =>
        cases part with
        | char c' => simp only [joinParts, ofCode_toNat]
        | unit m =>
            rw [joinParts, hHigh]
            simp [ofCode_toNat]
  unfold partsOf
  split
  · rename_i hControl
    exact hUnit (by omega)
  split
  · rw [List.singleton_append, joinParts]
  split
  · rename_i hSmall
    exact hUnit hSmall
  · rename_i hLarge
    have hHigh :
        isHigh (0xd800 + (c.toNat - 65536) / 1024) = true := by
      simp only [isHigh, Bool.and_eq_true, decide_eq_true_eq]
      omega
    have hLow :
        isLow (0xdc00 + (c.toNat - 65536) % 1024) = true := by
      simp only [isLow, Bool.and_eq_true, decide_eq_true_eq]
      omega
    have hPair :
        joinPair (0xd800 + (c.toNat - 65536) / 1024)
            (0xdc00 + (c.toNat - 65536) % 1024) =
          c.toNat := by
      unfold joinPair
      omega
    rw [List.cons_append, List.singleton_append, joinParts,
      hHigh, hLow, hPair, ofCode_toNat]
    rfl

/- A string is read from the front of its text, after the
   opening quote. -/
theorem scanString_escaped
    (cs rest : List Char) :
    scanString (cs.flatMap jsonEscape ++ '"' :: rest) =
      .ok (.ofList cs, rest) := by
  have hParts :
      scanParts (cs.flatMap jsonEscape ++ '"' :: rest) =
        some (cs.flatMap partsOf, rest) := by
    induction cs with
    | nil => rfl
    | cons c cs ih =>
        rw [List.flatMap_cons, List.append_assoc]
        exact scanParts_jsonEscape c ih
  have hJoined : joinParts (cs.flatMap partsOf) = cs := by
    clear hParts
    induction cs with
    | nil => rfl
    | cons c cs ih =>
        rw [List.flatMap_cons, joinParts_partsOf, ih]
  unfold scanString
  rw [hParts]
  simp only [hJoined]

end JsonText

------------------------------------------------------------
-- The End Of A Number
------------------------------------------------------------

namespace JsonText

/- The text ends, or goes on with a comma or a bracket. -/
def Ends : List Char → Prop
| [] => True
| c :: _ => c = ',' ∨ c = ']' ∨ c = '\x7d'

theorem not_isDigit_of_ends
    {c : Char}
    {rest : List Char}
    (hEnds : Ends (c :: rest)) :
    c.isDigit = false := by
  rcases hEnds with rfl | rfl | rfl <;> decide

theorem ends_nil : Ends [] :=
  trivial

theorem spanDigits_of_ends
    {rest : List Char}
    (hEnds : Ends rest) :
    spanDigits rest = ([], rest) := by
  cases rest with
  | nil => rfl
  | cons c rest =>
      have hDigit := not_isDigit_of_ends hEnds
      simp [spanDigits, hDigit]

theorem spanDigits_append
    (cs : List Char)
    {rest : List Char}
    (hEnds : Ends rest) :
    spanDigits (cs ++ rest) =
      ((spanDigits cs).1, (spanDigits cs).2 ++ rest) := by
  induction cs with
  | nil => exact spanDigits_of_ends hEnds
  | cons c cs ih =>
      simp only [spanDigits, Prod.mk.injEq] at ih ⊢
      cases hDigit : c.isDigit with
      | true => simp [hDigit, ih]
      | false => simp [hDigit]

theorem optionalSign_append
    {cs : List Char}
    (hNonempty : cs ≠ [])
    (rest : List Char) :
    optionalSign (cs ++ rest) =
      ((optionalSign cs).1, (optionalSign cs).2 ++ rest) := by
  rcases List.exists_cons_of_ne_nil hNonempty with
    ⟨c, cs, rfl⟩
  by_cases hMinus : c = '-'
  · rw [hMinus]
    rfl
  · simp [optionalSign, hMinus]

theorem wholePart_append
    {cs digits left : List Char}
    (hWhole : wholePart cs = some (digits, left))
    {rest : List Char}
    (hEnds : Ends rest) :
    wholePart (cs ++ rest) =
      some (digits, left ++ rest) := by
  cases cs with
  | nil => cases hWhole
  | cons c cs =>
      by_cases hZero : c = '0'
      · rw [hZero] at hWhole ⊢
        cases hWhole
        rfl
      · simp only [wholePart, List.cons_append] at hWhole ⊢
        split at hWhole
        · rename_i hDigit
          cases hWhole
          rw [if_pos hDigit, spanDigits_append cs hEnds]
        · cases hWhole

theorem fractionPart_of_ends
    {rest : List Char}
    (hEnds : Ends rest) :
    fractionPart rest = ([], rest) := by
  cases rest with
  | nil => rfl
  | cons c rest =>
      rcases hEnds with rfl | rfl | rfl <;> rfl

theorem fractionPart_append
    (cs : List Char)
    {rest : List Char}
    (hEnds : Ends rest) :
    fractionPart (cs ++ rest) =
      ((fractionPart cs).1, (fractionPart cs).2 ++ rest) := by
  cases cs with
  | nil => exact fractionPart_of_ends hEnds
  | cons p cs =>
      by_cases hPoint : p = '.'
      · rw [hPoint]
        cases cs with
        | nil =>
            cases rest with
            | nil => rfl
            | cons c rest =>
                have hDigit := not_isDigit_of_ends hEnds
                simp [fractionPart, hDigit]
        | cons c cs =>
            cases hDigit : c.isDigit with
            | true =>
                simp [fractionPart, hDigit,
                  spanDigits_append cs hEnds]
            | false => simp [fractionPart, hDigit]
      · simp [fractionPart, hPoint]

theorem exponentDigits_append
    (mark cs : List Char)
    {rest : List Char}
    (hEnds : Ends rest) :
    exponentDigits mark (cs ++ rest) =
      (exponentDigits mark cs).map
        (fun found => (found.1, found.2 ++ rest)) := by
  unfold exponentDigits
  rw [spanDigits_append cs hEnds]
  dsimp only
  split <;> rfl

theorem exponentPart_of_ends
    {rest : List Char}
    (hEnds : Ends rest) :
    exponentPart rest = ([], rest) := by
  rcases rest with _ | ⟨c, _ | ⟨c', rest⟩⟩
  · rfl
  · rfl
  · rcases hEnds with rfl | rfl | rfl <;> rfl

theorem exponentPart_append
    (cs : List Char)
    {rest : List Char}
    (hEnds : Ends rest) :
    exponentPart (cs ++ rest) =
      ((exponentPart cs).1, (exponentPart cs).2 ++ rest) := by
  rcases cs with _ | ⟨e, _ | ⟨s, cs⟩⟩
  · exact exponentPart_of_ends hEnds
  · cases rest with
    | nil => rfl
    | cons c rest =>
        have hSign : ¬(c = '+' ∨ c = '-') := by
          rcases hEnds with rfl | rfl | rfl <;> decide
        have hDigits :
            exponentDigits [e] (c :: rest) = none := by
          unfold exponentDigits
          rw [spanDigits_of_ends hEnds]
          rfl
        by_cases hMark : e = 'e' ∨ e = 'E'
        · simp [exponentPart, hMark, hSign, hDigits]
        · simp [exponentPart, hMark]
  · by_cases hMark : e = 'e' ∨ e = 'E'
    · by_cases hSign : s = '+' ∨ s = '-'
      · simp only [exponentPart, List.cons_append,
          if_pos hMark, if_pos hSign,
          exponentDigits_append [e, s] cs hEnds]
        cases exponentDigits [e, s] cs <;> rfl
      · have hDigits :=
          exponentDigits_append [e] (s :: cs) hEnds
        simp only [List.cons_append] at hDigits
        simp only [exponentPart, List.cons_append,
          if_pos hMark, if_neg hSign, hDigits]
        cases exponentDigits [e] (s :: cs) <;> rfl
    · simp [exponentPart, hMark]

/- A number is read the same in front of a comma or a
   bracket. -/
theorem scanNumber_append
    {cs : List Char}
    {x : JsonValue}
    (hNumber : scanNumber cs = .ok (x, []))
    {rest : List Char}
    (hEnds : Ends rest) :
    scanNumber (cs ++ rest) = .ok (x, rest) := by
  have hNonempty : cs ≠ [] := by
    rintro rfl
    cases hNumber
  unfold scanNumber at hNumber ⊢
  rw [optionalSign_append hNonempty]
  dsimp only at hNumber ⊢
  cases hWhole : wholePart (optionalSign cs).2 with
  | none =>
      rw [hWhole] at hNumber
      cases hNumber
  | some parts =>
      rcases parts with ⟨whole, afterWhole⟩
      rw [hWhole] at hNumber
      rw [wholePart_append hWhole hEnds]
      dsimp only at hNumber ⊢
      rw [fractionPart_append _ hEnds,
        exponentPart_append _ hEnds]
      split at hNumber
      · rename_i hInteger
        rw [if_pos hInteger]
        rcases (FallibleList.bind_ok_iff _ _ _).1 hNumber with
          ⟨value, hValue, hPure⟩
        rcases Prod.mk.inj (Except.ok.inj hPure) with
          ⟨rfl, hLeft⟩
        rw [hValue, hLeft]
        rfl
      · rename_i hFloat
        rw [if_neg hFloat]
        rcases Prod.mk.inj (Except.ok.inj hNumber) with
          ⟨rfl, hLeft⟩
        rw [hLeft]
        rfl

end JsonText

------------------------------------------------------------
-- Integers
------------------------------------------------------------

namespace JsonText

theorem digit?_digitChar
    {n : Nat}
    (hSmall : n < 10) :
    Decimal.digit? (Nat.digitChar n) = some n := by
  have hAll :
      ∀ m < 10, Decimal.digit? (Nat.digitChar m) = some m := by
    decide
  exact hAll n hSmall

theorem splitDigits_append_digit
    {cs : List Char}
    (hDigits : (Decimal.splitDigits cs).2 = [])
    {n : Nat}
    (hSmall : n < 10) :
    Decimal.splitDigits (cs ++ [Nat.digitChar n]) =
      ((Decimal.splitDigits cs).1 ++ [n], []) := by
  induction cs with
  | nil =>
      simp [Decimal.splitDigits, digit?_digitChar hSmall]
  | cons c cs ih =>
      simp only [Decimal.splitDigits, List.cons_append]
        at hDigits ⊢
      cases hDigit : Decimal.digit? c with
      | none =>
          rw [hDigit] at hDigits
          cases hDigits
      | some d =>
          rw [hDigit] at hDigits
          rw [ih hDigits]
          rfl

/- A number is read back from its digits, which start with a
   zero only when it is zero. -/
theorem splitDigits_toDigits
    (n : Nat) :
    (Decimal.splitDigits (Nat.toDigits 10 n)).2 = [] ∧
      Decimal.ofDigits
          (Decimal.splitDigits (Nat.toDigits 10 n)).1 = n ∧
      (0 < n →
        (Nat.toDigits 10 n).head? ≠ some '0') := by
  induction n using Nat.strong_induction_on with
  | _ n ih =>
      rcases Nat.lt_or_ge n 10 with hSmall | hLarge
      · rw [Nat.toDigits_of_lt_base hSmall]
        refine ⟨?_, ?_, ?_⟩
        · simp [Decimal.splitDigits, digit?_digitChar hSmall]
        · simp [Decimal.splitDigits, digit?_digitChar hSmall,
            Decimal.ofDigits]
        · intro hPos
          have hAll :
              ∀ m < 10, 0 < m → Nat.digitChar m ≠ '0' := by
            decide
          simpa using hAll n hSmall hPos
      · have hLast : n % 10 < 10 := Nat.mod_lt n (by omega)
        rcases ih (n / 10) (by omega) with
          ⟨hDigits, hValue, hHead⟩
        rw [Nat.toDigits_of_base_le (by omega) hLarge,
          splitDigits_append_digit hDigits hLast]
        refine ⟨rfl, ?_, ?_⟩
        · unfold Decimal.ofDigits at hValue ⊢
          rw [List.foldl_append, hValue, List.foldl_cons,
            List.foldl_nil]
          omega
        · intro _
          rw [List.head?_append_of_ne_nil _ Nat.toDigits_ne_nil]
          exact hHead (by omega)

theorem spanDigits_of_all
    {cs : List Char}
    (hDigits : ∀ c ∈ cs, c.isDigit) :
    spanDigits cs = (cs, []) := by
  rw [spanDigits, List.takeWhile_eq_self_iff.2 hDigits,
    List.dropWhile_eq_nil_iff.2 hDigits]

theorem isDigit_of_mem_toDigits
    {n : Nat}
    {c : Char}
    (hMem : c ∈ Nat.toDigits 10 n) :
    c.isDigit :=
  Nat.isDigit_of_mem_toDigits (by omega) (by omega) hMem

theorem wholePart_toDigits
    (n : Nat) :
    wholePart (Nat.toDigits 10 n) =
      some (Nat.toDigits 10 n, []) := by
  rcases Nat.eq_zero_or_pos n with rfl | hPos
  · rfl
  · have hHead := (splitDigits_toDigits n).2.2 hPos
    rcases List.exists_cons_of_ne_nil
        (Nat.toDigits_ne_nil (n := n) (b := 10)) with
      ⟨c, cs, hChars⟩
    have hDigits :
        ∀ c' ∈ c :: cs, c'.isDigit := by
      intro c' hMem
      rw [← hChars] at hMem
      exact isDigit_of_mem_toDigits hMem
    rcases List.forall_mem_cons.1 hDigits with
      ⟨hFirst, hRest⟩
    rw [hChars] at hHead ⊢
    have hZero : c ≠ '0' := by
      simpa using hHead
    simp [wholePart, hFirst, spanDigits_of_all hRest]

theorem optionalSign_toDigits
    (n : Nat) :
    optionalSign (Nat.toDigits 10 n) =
      ([], Nat.toDigits 10 n) := by
  unfold optionalSign
  split
  · rename_i cs hMinus
    have hDigit :=
      isDigit_of_mem_toDigits
        (hMinus ▸ List.mem_cons_self :
          '-' ∈ Nat.toDigits 10 n)
    cases hDigit
  · rfl

/- An integer of at most 4300 digits is read back. -/
theorem scanNumber_int
    (n : JsonInt) :
    scanNumber (toString n.value).toList =
      .ok (.int n, []) := by
  have hValue :
      ∀ (m : Nat) (negative : Bool),
        (if negative then -(m : Int) else m) = n.value →
        intValue negative (Nat.toDigits 10 m) =
          .ok (.int n) := by
    intro m negative hEq
    unfold intValue
    rw [(splitDigits_toDigits m).2.1]
    dsimp only
    simp only [hEq]
    rw [dif_pos n.short]
  cases hInt : n.value with
  | ofNat m =>
      have hText :
          (toString (Int.ofNat m)).toList =
            Nat.toDigits 10 m := Nat.toList_repr
      unfold scanNumber
      rw [hText, optionalSign_toDigits]
      dsimp only
      rw [wholePart_toDigits]
      have hRead := hValue m false hInt.symm
      dsimp only
      rw [fractionPart_of_ends ends_nil,
        exponentPart_of_ends ends_nil, if_pos ⟨rfl, rfl⟩]
      simp only [ne_eq, not_true_eq_false, decide_false,
        hRead]
      rfl
  | negSucc m =>
      have hText :
          (toString (Int.negSucc m)).toList =
            '-' :: Nat.toDigits 10 (m + 1) := by
        have hSign :
            toString (Int.negSucc m) =
              "-" ++ (m + 1).repr := rfl
        rw [hSign, String.toList_append, Nat.toList_repr]
        rfl
      unfold scanNumber
      rw [hText, optionalSign]
      dsimp only
      rw [wholePart_toDigits]
      have hRead := hValue (m + 1) true hInt.symm
      dsimp only
      rw [fractionPart_of_ends ends_nil,
        exponentPart_of_ends ends_nil, if_pos ⟨rfl, rfl⟩]
      simp only [ne_eq, reduceCtorEq, not_false_eq_true,
        decide_true, hRead]
      rfl

end JsonText
