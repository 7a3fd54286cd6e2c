import FraudStream.Library.FallibleList
import FraudStream.Library.JsonValue

/-
  Reading a JSON text from bytes.

  The encoding of the bytes is detected from their start.
  The text is scanned the way the decoder of the standard
  library does it, which refuses more than a grammar does:
  an integer of more than 4300 digits and a value nested
  deeper than the interpreter allows raise exceptions of
  their own. No text holds a lone surrogate, so one is read
  as the replacement character.

  Key definitions include:
    * `LoadsError`
    * `JsonText.decode`
    * `JsonText.scanOnce`
    * `JsonText.loads`

  Main declarations:
    * `JsonText.scanOnce_shortens`
    * `JsonText.scanItems_fuel`
-/

/- The exceptions of a text that is not read. -/
inductive LoadsError where
| jsonDecodeError
| unicodeDecodeError
| valueError
| recursionError
deriving DecidableEq, Repr

------------------------------------------------------------
-- Encodings
------------------------------------------------------------

namespace JsonText

inductive Encoding where
| utf8
| utf8Sig
| utf16 : (bigEndian : Bool) → Encoding
| utf32 : (bigEndian : Bool) → Encoding
deriving DecidableEq, Repr

/- The encoding of a text and whether it starts with a byte
   order mark. -/
def detectEncoding : List UInt8 → Encoding × Nat
| 0x00 :: 0x00 :: 0xfe :: 0xff :: _ => (.utf32 true, 4)
| 0xff :: 0xfe :: 0x00 :: 0x00 :: _ => (.utf32 false, 4)
| 0xfe :: 0xff :: _ => (.utf16 true, 2)
| 0xff :: 0xfe :: _ => (.utf16 false, 2)
| 0xef :: 0xbb :: 0xbf :: _ => (.utf8Sig, 3)
| a :: b :: c :: d :: _ =>
    if a = 0 then
      if b = 0 then (.utf32 true, 0) else (.utf16 true, 0)
    else if b = 0 then
      if c = 0 ∧ d = 0 then
        (.utf32 false, 0)
      else
        (.utf16 false, 0)
    else
      (.utf8, 0)
| [a, b] =>
    if a = 0 then
      (.utf16 true, 0)
    else if b = 0 then
      (.utf16 false, 0)
    else
      (.utf8, 0)
| _ => (.utf8, 0)

def isSurrogate (n : Nat) : Bool :=
  0xd800 ≤ n && n ≤ 0xdfff

/- The character of a code point. A lone surrogate, which
   Python keeps in a text, is read as the replacement
   character: the encoding of such a text, which raises, is
   not modelled. -/
def ofCode (n : Nat) : Char :=
  if isSurrogate n then '\ufffd' else Char.ofNat n

/- The six bits of a continuation byte. -/
def tail? (b : UInt8) : Option Nat :=
  if 0x80 ≤ b.toNat ∧ b.toNat < 0xc0 then
    some (b.toNat - 0x80)
  else
    none

/- A code point is not written with more bytes than it
   needs. -/
def within? (low high n : Nat) : Option Nat :=
  if low ≤ n ∧ n ≤ high then some n else none

def decodeUtf8 : List UInt8 → Option (List Char)
| [] => some []
| a :: rest =>
    if a.toNat < 0x80 then
      (decodeUtf8 rest).map (ofCode a.toNat :: ·)
    else if a.toNat < 0xc0 then
      none
    else if a.toNat < 0xe0 then
      match rest with
      | b :: rest =>
          (do
            let y ← tail? b
            let n ← within? 0x80 0x7ff
              (64 * (a.toNat - 0xc0) + y)
            let cs ← decodeUtf8 rest
            pure (ofCode n :: cs))
      | _ => none
    else if a.toNat < 0xf0 then
      match rest with
      | b :: c :: rest =>
          (do
            let y ← tail? b
            let z ← tail? c
            let n ← within? 0x800 0xffff
              (4096 * (a.toNat - 0xe0) + 64 * y + z)
            let cs ← decodeUtf8 rest
            pure (ofCode n :: cs))
      | _ => none
    else
      match rest with
      | b :: c :: d :: rest =>
          (do
            let y ← tail? b
            let z ← tail? c
            let w ← tail? d
            let n ← within? 0x10000 0x10ffff
              (262144 * (a.toNat - 0xf0) + 4096 * y +
                64 * z + w)
            let cs ← decodeUtf8 rest
            pure (ofCode n :: cs))
      | _ => none

/- The units of two bytes. -/
def units16
    (bigEndian : Bool) : List UInt8 → Option (List Nat)
| [] => some []
| a :: b :: rest =>
    let n :=
      if bigEndian then
        256 * a.toNat + b.toNat
      else
        256 * b.toNat + a.toNat
    (units16 bigEndian rest).map (n :: ·)
| _ => none

def isHigh (n : Nat) : Bool :=
  0xd800 ≤ n && n ≤ 0xdbff

def isLow (n : Nat) : Bool :=
  0xdc00 ≤ n && n ≤ 0xdfff

/- The code point of a surrogate pair. -/
def joinPair (high low : Nat) : Nat :=
  0x10000 + 1024 * (high - 0xd800) + (low - 0xdc00)

/- A pair of surrogates is one character. -/
def joinUnits : List Nat → List Char
| [] => []
| [n] => [ofCode n]
| n :: m :: rest =>
    if isHigh n && isLow m then
      ofCode (joinPair n m) :: joinUnits rest
    else
      ofCode n :: joinUnits (m :: rest)

def decodeUtf32
    (bigEndian : Bool) : List UInt8 → Option (List Char)
| [] => some []
| a :: b :: c :: d :: rest =>
    let n :=
      if bigEndian then
        16777216 * a.toNat + 65536 * b.toNat +
          256 * c.toNat + d.toNat
      else
        16777216 * d.toNat + 65536 * c.toNat +
          256 * b.toNat + a.toNat
    (do
      let n ← within? 0 0x10ffff n
      let cs ← decodeUtf32 bigEndian rest
      pure (ofCode n :: cs))
| _ => none

/- `bytes.decode(detect_encoding(bytes), "surrogatepass")` -/
def decode (bytes : List UInt8) : Option (List Char) :=
  let detected := detectEncoding bytes
  let body := bytes.drop detected.2
  match detected.1 with
  | .utf8 => decodeUtf8 body
  | .utf8Sig => decodeUtf8 body
  | .utf16 bigEndian =>
      (units16 bigEndian body).map joinUnits
  | .utf32 bigEndian => decodeUtf32 bigEndian body

end JsonText

------------------------------------------------------------
-- Strings
------------------------------------------------------------

namespace JsonText

/- A character of a string, or the unit of an escape. -/
inductive StringPart where
| char : Char → StringPart
| unit : Nat → StringPart
deriving DecidableEq, Repr

def hexDigit? (c : Char) : Option Nat :=
  if c.isDigit then
    some (c.toNat - '0'.toNat)
  else if 'a' ≤ c ∧ c ≤ 'f' then
    some (c.toNat - 'a'.toNat + 10)
  else if 'A' ≤ c ∧ c ≤ 'F' then
    some (c.toNat - 'A'.toNat + 10)
  else
    none

/- The unit of an escape by four hexadecimal digits. -/
def hexUnit? (a b c d : Char) : Option Nat := do
  let x ← hexDigit? a
  let y ← hexDigit? b
  let z ← hexDigit? c
  let w ← hexDigit? d
  pure (4096 * x + 256 * y + 16 * z + w)

def simpleEscape? : Char → Option Char
| '"' => some '"'
| '\\' => some '\\'
| '/' => some '/'
| 'b' => some '\x08'
| 'f' => some '\x0c'
| 'n' => some '\n'
| 'r' => some '\r'
| 't' => some '\t'
| _ => none

/- The parts of a string after its opening quote, and what
   follows the closing one. -/
def scanParts :
    List Char → Option (List StringPart × List Char)
| [] => none
| '"' :: cs => some ([], cs)
| '\\' :: 'u' :: a :: b :: c :: d :: cs => do
    let n ← hexUnit? a b c d
    let (parts, rest) ← scanParts cs
    pure (.unit n :: parts, rest)
| '\\' :: e :: cs => do
    let c ← simpleEscape? e
    let (parts, rest) ← scanParts cs
    pure (.char c :: parts, rest)
| c :: cs =>
    if c.toNat ≤ 0x1f ∨ c = '\\' then
      none
    else do
      let (parts, rest) ← scanParts cs
      pure (.char c :: parts, rest)

/- Two escapes of a surrogate pair are one character. -/
def joinParts : List StringPart → List Char
| [] => []
| .char c :: parts => c :: joinParts parts
| [.unit n] => [ofCode n]
| .unit n :: .char c :: parts =>
    ofCode n :: c :: joinParts parts
| .unit n :: .unit m :: parts =>
    if isHigh n && isLow m then
      ofCode (joinPair n m) :: joinParts parts
    else
      ofCode n :: joinParts (.unit m :: parts)

def scanString
    (cs : List Char) :
    Except LoadsError (String × List Char) :=
  match scanParts cs with
  | some (parts, rest) =>
      .ok (.ofList (joinParts parts), rest)
  | none => .error .jsonDecodeError

end JsonText

------------------------------------------------------------
-- Numbers
------------------------------------------------------------

namespace JsonText

def spanDigits (cs : List Char) : List Char × List Char :=
  (cs.takeWhile Char.isDigit, cs.dropWhile Char.isDigit)

/- An optional sign: its text and what follows it. -/
def optionalSign : List Char → List Char × List Char
| '-' :: cs => (['-'], cs)
| cs => ([], cs)

/- A zero, or digits that start with another one. -/
def wholePart : List Char → Option (List Char × List Char)
| '0' :: cs => some (['0'], cs)
| c :: cs =>
    if c.isDigit then
      some (c :: (spanDigits cs).1, (spanDigits cs).2)
    else
      none
| [] => none

/- A point counts only in front of a digit. -/
def fractionPart : List Char → List Char × List Char
| '.' :: c :: cs =>
    if c.isDigit then
      ('.' :: c :: (spanDigits cs).1, (spanDigits cs).2)
    else
      ([], '.' :: c :: cs)
| cs => ([], cs)

/- The digits of an exponent after its letter and sign. -/
def exponentDigits
    (mark : List Char)
    (rest : List Char) : Option (List Char × List Char) :=
  let digits := spanDigits rest
  if digits.1 = [] then
    none
  else
    some (mark ++ digits.1, digits.2)

/- An exponent counts only with a digit. -/
def exponentPart (cs : List Char) : List Char × List Char :=
  let found :=
    match cs with
    | e :: s :: rest =>
        if e = 'e' ∨ e = 'E' then
          if s = '+' ∨ s = '-' then
            exponentDigits [e, s] rest
          else
            exponentDigits [e] (s :: rest)
        else
          none
    | _ => none
  found.getD ([], cs)

/- The value of an integer: no more than 4300 digits are
   read. -/
def intValue
    (negative : Bool)
    (digits : List Char) : Except LoadsError JsonValue :=
  let n : Int :=
    Decimal.ofDigits (Decimal.splitDigits digits).1
  let value := if negative then -n else n
  if hShort : |value| < 10 ^ 4300 then
    .ok (.int ⟨value, hShort⟩)
  else
    .error .valueError

/- The value of a number that has a point or an exponent. -/
def floatValue (text : List Char) : JsonValue :=
  .float ((Scalar.floatOfChars? text).getD .nan)

def scanNumber
    (cs : List Char) :
    Except LoadsError (JsonValue × List Char) :=
  let signed := optionalSign cs
  match wholePart signed.2 with
  | none => .error .jsonDecodeError
  | some (whole, afterWhole) =>
      let fraction := fractionPart afterWhole
      let exponent := exponentPart fraction.2
      if fraction.1 = [] ∧ exponent.1 = [] then do
        let value ← intValue (signed.1 ≠ []) whole
        pure (value, exponent.2)
      else
        .ok
          (floatValue
            (signed.1 ++ whole ++ fraction.1 ++ exponent.1),
            exponent.2)

end JsonText

------------------------------------------------------------
-- Values
------------------------------------------------------------

namespace JsonText

def isBlank (c : Char) : Bool :=
  c = ' ' || c = '\t' || c = '\n' || c = '\r'

def skipBlanks (cs : List Char) : List Char :=
  cs.dropWhile isBlank

/- Reading something from the front of a text. -/
abbrev Scanner (α : Type) :=
  List Char → Except LoadsError (α × List Char)

/-
  What is between two brackets, after the opening one or a
  comma, with a bound on the number of items.
-/
def scanItems
    {α : Type}
    (scan : Scanner α)
    (closing : Char) :
    Nat → Scanner (List α)
| 0, _ => .error .jsonDecodeError
| fuel + 1, cs => do
    let (x, rest) ← scan cs
    match skipBlanks rest with
    | c :: after =>
        if c = closing then
          pure ([x], after)
        else if c = ',' then do
          let (xs, rest) ←
            scanItems scan closing fuel (skipBlanks after)
          pure (x :: xs, rest)
        else
          .error .jsonDecodeError
    | [] => .error .jsonDecodeError

/- What is after an opening bracket, which may be closed at
   once. A text has no more items than characters. -/
def scanBracketed
    {α : Type}
    (scan : Scanner α)
    (closing : Char) : Scanner (List α) :=
  fun cs =>
    let rest := skipBlanks cs
    if rest.head? = some closing then
      .ok ([], rest.tail)
    else
      scanItems scan closing (rest.length + 1) rest

/- A name, a colon and a value. -/
def scanEntry
    (scan : Scanner JsonValue) : Scanner (String × JsonValue) :=
  fun cs =>
    match cs with
    | '"' :: afterQuote => do
        let (name, rest) ← scanString afterQuote
        match skipBlanks rest with
        | ':' :: afterColon => do
            let (x, rest) ← scan (skipBlanks afterColon)
            pure ((name, x), rest)
        | _ => .error .jsonDecodeError
    | _ => .error .jsonDecodeError

/- An array after its opening bracket. -/
def scanArray
    (scan : Scanner JsonValue) : Scanner JsonValue :=
  fun cs => do
    let (xs, rest) ← scanBracketed scan ']' cs
    pure (.list xs, rest)

/- An object after its opening brace: a later entry of a name
   replaces an earlier one. -/
def scanObject
    (scan : Scanner JsonValue) : Scanner JsonValue :=
  fun cs => do
    let (es, rest) ←
      scanBracketed (scanEntry scan) '\x7d' cs
    pure (.dict (Dict.ofList es).entries, rest)

/- The words that are values. -/
def words : List (List Char × JsonValue) :=
  [("null".toList, .null), ("true".toList, .bool true),
    ("false".toList, .bool false),
    ("NaN".toList, .float .nan),
    ("Infinity".toList, .float (.inf false)),
    ("-Infinity".toList, .float (.inf true))]

/- The word at the front of a text. -/
def scanWord? (cs : List Char) :
    Option (JsonValue × List Char) :=
  (words.find? (fun w => w.1.isPrefixOf cs)).map
    (fun w => (w.2, cs.drop w.1.length))

/- A string, a word or a number. -/
def scanFlat (cs : List Char) :
    Except LoadsError (JsonValue × List Char) :=
  match cs with
  | '"' :: rest => do
      let (s, rest) ← scanString rest
      pure (.str s, rest)
  | _ =>
      match scanWord? cs with
      | some found => .ok found
      | none => scanNumber cs

/- A value at the front of a text, nested no deeper than the
   interpreter allows. -/
def scanOnce : Nat → Scanner JsonValue
| 0, '[' :: _ => .error .recursionError
| 0, '\x7b' :: _ => .error .recursionError
| 0, cs => scanFlat cs
| depth + 1, '[' :: rest => scanArray (scanOnce depth) rest
| depth + 1, '\x7b' :: rest =>
    scanObject (scanOnce depth) rest
| _ + 1, cs => scanFlat cs

/- `json.loads(bytes)` -/
def loads
    (depth : Nat)
    (bytes : List UInt8) : Except LoadsError JsonValue :=
  match decode bytes with
  | none => .error .unicodeDecodeError
  | some cs => do
      let (x, rest) ← scanOnce depth (skipBlanks cs)
      if skipBlanks rest = [] then
        pure x
      else
        .error .jsonDecodeError

end JsonText

------------------------------------------------------------
-- Enough Fuel
------------------------------------------------------------

namespace JsonText

/- A scanner takes something from the front of a text. -/
def Shortens
    {α : Type}
    (scan : Scanner α) : Prop :=
  ∀ cs x rest,
    scan cs = .ok (x, rest) → rest.length < cs.length

theorem skipBlanks_length
    (cs : List Char) :
    (skipBlanks cs).length ≤ cs.length :=
  (List.dropWhile_sublist isBlank).length_le

theorem scanParts_shortens
    {cs rest : List Char}
    {parts : List StringPart}
    (hScan : scanParts cs = some (parts, rest)) :
    rest.length < cs.length := by
  induction cs using scanParts.induct generalizing parts with
  | case1 => cases hScan
  | case2 cs =>
      cases hScan
      simp
  | case3 a b c d cs ih =>
      rw [scanParts] at hScan
      simp only [bind, Option.bind_eq_some_iff] at hScan
      rcases hScan with ⟨n, -, ⟨parts', rest'⟩, hRest, hEq⟩
      cases hEq
      have hShorter : rest'.length < cs.length := ih hRest
      simp only [List.length_cons]
      omega
  | case4 e cs hUnit ih =>
      rw [scanParts.eq_4 _ _ hUnit] at hScan
      simp only [bind, Option.bind_eq_some_iff] at hScan
      rcases hScan with ⟨c, -, ⟨parts', rest'⟩, hRest, hEq⟩
      cases hEq
      have hShorter : rest'.length < cs.length := ih hRest
      simp only [List.length_cons]
      omega
  | case5 c cs hQuote hUnit hEscape hControl =>
      rw [scanParts.eq_5 _ _ hQuote hUnit hEscape,
        if_pos hControl] at hScan
      cases hScan
  | case6 c cs hQuote hUnit hEscape hControl ih =>
      rw [scanParts.eq_5 _ _ hQuote hUnit hEscape,
        if_neg hControl] at hScan
      simp only [bind, Option.bind_eq_some_iff] at hScan
      rcases hScan with ⟨⟨parts', rest'⟩, hRest, hEq⟩
      cases hEq
      have hShorter : rest'.length < cs.length := ih hRest
      simp only [List.length_cons]
      omega

theorem scanString_shortens : Shortens scanString := by
  intro cs s rest hScan
  unfold scanString at hScan
  split at hScan
  next parts rest' hParts =>
    cases hScan
    exact scanParts_shortens hParts
  next => cases hScan

theorem spanDigits_length
    (cs : List Char) :
    (spanDigits cs).2.length ≤ cs.length :=
  (List.dropWhile_sublist Char.isDigit).length_le

theorem wholePart_length
    {cs digits rest : List Char}
    (hWhole : wholePart cs = some (digits, rest)) :
    rest.length < cs.length := by
  unfold wholePart at hWhole
  split at hWhole
  · cases hWhole
    simp
  · rename_i c cs hZero
    split at hWhole
    · cases hWhole
      have := spanDigits_length cs
      simp only [List.length_cons]
      omega
    · cases hWhole
  · cases hWhole

theorem fractionPart_length
    (cs : List Char) :
    (fractionPart cs).2.length ≤ cs.length := by
  unfold fractionPart
  split
  · rename_i c cs
    split
    · have := spanDigits_length cs
      simp only [List.length_cons]
      omega
    · exact le_rfl
  · exact le_rfl

theorem exponentDigits_length
    {mark cs digits rest : List Char}
    (hDigits :
      exponentDigits mark cs = some (digits, rest)) :
    rest.length ≤ cs.length := by
  unfold exponentDigits at hDigits
  dsimp only at hDigits
  split at hDigits
  · cases hDigits
  · cases hDigits
    exact spanDigits_length cs

theorem exponentPart_length
    (cs : List Char) :
    (exponentPart cs).2.length ≤ cs.length := by
  unfold exponentPart
  dsimp only
  split
  · rename_i e s rest
    split
    · split
      · cases hDigits : exponentDigits [e, s] rest with
        | none => exact le_rfl
        | some found =>
            have := exponentDigits_length hDigits
            simp only [Option.getD_some, List.length_cons]
            omega
      · cases hDigits : exponentDigits [e] (s :: rest) with
        | none => exact le_rfl
        | some found =>
            have := exponentDigits_length hDigits
            simp only [Option.getD_some, List.length_cons]
              at this ⊢
            omega
    · exact le_rfl
  · exact le_rfl

theorem optionalSign_length
    (cs : List Char) :
    (optionalSign cs).2.length ≤ cs.length := by
  unfold optionalSign
  split <;> simp

theorem scanNumber_shortens : Shortens scanNumber := by
  intro cs x rest hScan
  unfold scanNumber at hScan
  dsimp only at hScan
  split at hScan
  · cases hScan
  · rename_i whole afterWhole hWhole
    have hSign := optionalSign_length cs
    have hDigits := wholePart_length hWhole
    have hFraction := fractionPart_length afterWhole
    have hExponent :=
      exponentPart_length (fractionPart afterWhole).2
    split at hScan
    · cases hValue :
          intValue ((optionalSign cs).1 ≠ []) whole with
      | error e =>
          rw [hValue] at hScan
          cases hScan
      | ok value =>
          rw [hValue] at hScan
          cases hScan
          omega
    · cases hScan
      omega

theorem scanWord?_length
    {cs rest : List Char}
    {x : JsonValue}
    (hWord : scanWord? cs = some (x, rest)) :
    rest.length < cs.length := by
  unfold scanWord? at hWord
  rcases Option.map_eq_some_iff.1 hWord with
    ⟨w, hFind, hEq⟩
  cases hEq
  have hPrefix := List.find?_some hFind
  have hLong : 0 < w.1.length := by
    have hMem := List.mem_of_find?_eq_some hFind
    revert hMem
    simp only [words, List.mem_cons, List.not_mem_nil,
      or_false]
    rintro (rfl | rfl | rfl | rfl | rfl | rfl) <;> decide
  have hFits : w.1.length ≤ cs.length :=
    (List.isPrefixOf_iff_prefix.1 hPrefix).length_le
  rw [List.length_drop]
  omega

theorem scanFlat_shortens : Shortens scanFlat := by
  intro cs x rest hScan
  unfold scanFlat at hScan
  split at hScan
  · rename_i body
    cases hString : scanString body with
    | error e =>
        rw [hString] at hScan
        cases hScan
    | ok found =>
        rw [hString] at hScan
        cases hScan
        have := scanString_shortens _ _ _ hString
        simp only [List.length_cons]
        omega
  · split at hScan
    next found hWord =>
      cases hScan
      exact scanWord?_length hWord
    next => exact scanNumber_shortens _ _ _ hScan

end JsonText

------------------------------------------------------------
-- Containers
------------------------------------------------------------

namespace JsonText

open FallibleList

variable {α : Type}

/- What is left after some items is shorter than the text. -/
theorem scanItems_shortens
    {scan : Scanner α}
    (hScan : Shortens scan)
    (closing : Char)
    (fuel : Nat) :
    Shortens (scanItems scan closing fuel) := by
  induction fuel with
  | zero =>
      intro cs xs rest hItems
      cases hItems
  | succ fuel ih =>
      intro cs xs rest hItems
      rw [scanItems] at hItems
      rcases (bind_ok_iff _ _ _).1 hItems with
        ⟨⟨x, left⟩, hFirst, hMore⟩
      have hShorter := hScan _ _ _ hFirst
      have hBlanks := skipBlanks_length left
      dsimp only at hMore
      split at hMore
      · rename_i c after hLeft
        rw [hLeft, List.length_cons] at hBlanks
        have hSkip := skipBlanks_length after
        split at hMore
        · cases hMore
          omega
        · split at hMore
          · rcases (bind_ok_iff _ _ _).1 hMore with
              ⟨⟨xs', rest'⟩, hRest, hEq⟩
            cases hEq
            have hLess := ih _ _ _ hRest
            change rest'.length < cs.length
            omega
          · cases hMore
      · cases hMore

/- More fuel than characters changes nothing. -/
theorem scanItems_fuel
    {scan : Scanner α}
    (hScan : Shortens scan)
    (closing : Char)
    {cs : List Char}
    {fuel more : Nat}
    (hFuel : cs.length < fuel)
    (hMore : cs.length < more) :
    scanItems scan closing fuel cs =
      scanItems scan closing more cs := by
  induction fuel generalizing cs more with
  | zero => omega
  | succ fuel ih =>
      cases more with
      | zero => omega
      | succ more =>
          rw [scanItems, scanItems]
          cases hFirst : scan cs with
          | error e => rfl
          | ok found =>
              have hShorter := hScan _ _ _ hFirst
              have hBlanks := skipBlanks_length found.2
              simp only [bind, Except.bind]
              cases hLeft : skipBlanks found.2 with
              | nil => rfl
              | cons c after =>
                  rw [hLeft, List.length_cons] at hBlanks
                  have hSkip := skipBlanks_length after
                  dsimp only
                  rw [ih (by omega)
                    (by omega :
                      (skipBlanks after).length < more)]

theorem scanBracketed_shortens
    {scan : Scanner α}
    (hScan : Shortens scan)
    (closing : Char) :
    Shortens (scanBracketed scan closing) := by
  intro cs xs rest hItems
  have hBlanks := skipBlanks_length cs
  unfold scanBracketed at hItems
  dsimp only at hItems
  split at hItems
  next hClosed =>
    cases hItems
    cases hLeft : skipBlanks cs with
    | nil =>
        rw [hLeft] at hClosed
        cases hClosed
    | cons c after =>
        rw [hLeft, List.length_cons] at hBlanks
        simp only [List.tail_cons]
        omega
  next =>
    have := scanItems_shortens hScan _ _ _ _ _ hItems
    omega

theorem scanEntry_shortens
    {scan : Scanner JsonValue}
    (hScan : Shortens scan) :
    Shortens (scanEntry scan) := by
  intro cs e rest hEntry
  unfold scanEntry at hEntry
  split at hEntry
  · rename_i afterQuote
    rcases (bind_ok_iff _ _ _).1 hEntry with
      ⟨⟨name, left⟩, hName, hMore⟩
    have hNamed := scanString_shortens _ _ _ hName
    have hBlanks := skipBlanks_length left
    dsimp only at hMore
    split at hMore
    · rename_i afterColon hLeft
      rcases (bind_ok_iff _ _ _).1 hMore with
        ⟨⟨x, rest'⟩, hValue, hEq⟩
      cases hEq
      have hRead := hScan _ _ _ hValue
      have hSkip := skipBlanks_length afterColon
      rw [hLeft, List.length_cons] at hBlanks
      simp only [List.length_cons]
      omega
    · cases hMore
  · cases hEntry

theorem scanArray_shortens
    {scan : Scanner JsonValue}
    (hScan : Shortens scan) :
    Shortens (scanArray scan) := by
  intro cs x rest hArray
  rcases (bind_ok_iff _ _ _).1 hArray with
    ⟨⟨xs, rest'⟩, hItems, hEq⟩
  cases hEq
  exact scanBracketed_shortens hScan _ _ _ _ hItems

theorem scanObject_shortens
    {scan : Scanner JsonValue}
    (hScan : Shortens scan) :
    Shortens (scanObject scan) := by
  intro cs x rest hObject
  rcases (bind_ok_iff _ _ _).1 hObject with
    ⟨⟨es, rest'⟩, hEntries, hEq⟩
  cases hEq
  exact
    scanBracketed_shortens (scanEntry_shortens hScan) _ _ _ _
      hEntries

/- A value read from a text leaves less of it, so the bound
   on the items of a container is never met. -/
theorem scanOnce_shortens
    (depth : Nat) :
    Shortens (scanOnce depth) := by
  induction depth with
  | zero =>
      intro cs x rest hScan
      rw [scanOnce.eq_def] at hScan
      split at hScan
      · cases hScan
      · cases hScan
      · exact scanFlat_shortens _ _ _ hScan
      · omega
      · omega
      · omega
  | succ depth ih =>
      intro cs x rest hScan
      rw [scanOnce.eq_def] at hScan
      split at hScan
      · cases hScan
      · cases hScan
      · omega
      · rename_i body hDepth
        cases hDepth
        have hLess := scanArray_shortens ih _ _ _ hScan
        exact Nat.lt_succ_of_lt hLess
      · rename_i body hDepth
        cases hDepth
        have hLess := scanObject_shortens ih _ _ _ hScan
        exact Nat.lt_succ_of_lt hLess
      · exact scanFlat_shortens _ _ _ hScan

end JsonText
