import FraudStream.Library.Decimal

/-
  The text of strings: digits, quoting and escaping.

  `PyText.repr` quotes a string and escapes its quote, the
  backslash and what cannot be printed, so that the string
  can be read back from it. `PyText.jsonString` quotes a
  string in ASCII. Which characters can be printed is left
  to a table.

  Key definitions include:
    * `PyText.isDigit`
    * `PyText.repr`
    * `PyText.jsonString`

  The main results are:
    * `PyText.unescape_escapeChar`
    * `PyText.repr_inj`
    * `PyText.mem_toString_int`
-/

------------------------------------------------------------
-- Codes That Can Be Read Back
------------------------------------------------------------

namespace PyText

/- Sequences of codes are distinct when one code can be read
   off the front of any sequence. -/
theorem flatMap_inj_of_decode
    {α β : Type}
    {code : α → List β}
    {decode : List β → Option (α × List β)}
    (hNil : decode [] = none)
    (hCode : ∀ a rest, decode (code a ++ rest) = some (a, rest))
    {xs ys : List α}
    (hEq : xs.flatMap code = ys.flatMap code) :
    xs = ys := by
  have hFirst :
      ∀ a as, [] ≠ (a :: as).flatMap code := by
    intro a as hEmpty
    have hRead := hCode a (as.flatMap code)
    rw [← List.flatMap_cons, ← hEmpty, hNil] at hRead
    cases hRead
  induction xs generalizing ys with
  | nil =>
      cases ys with
      | nil => rfl
      | cons b bs => exact absurd hEq (hFirst b bs)
  | cons a as ih =>
      cases ys with
      | nil => exact absurd hEq.symm (hFirst a as)
      | cons b bs =>
          rw [List.flatMap_cons, List.flatMap_cons] at hEq
          have hRead := congrArg decode hEq
          rw [hCode, hCode, Option.some.injEq,
            Prod.mk.injEq] at hRead
          rw [hRead.1, ih hRead.2]

/- So many hexadecimal digits of a number. -/
def hexDigits : Nat → Nat → List Char
| 0, _ => []
| w + 1, n =>
    hexDigits w (n / 16) ++ [Nat.digitChar (n % 16)]

/- The value of a lower-case hexadecimal digit. -/
def hexValue (c : Char) : Nat :=
  if c.toNat < 58 then c.toNat - 48 else c.toNat - 87

def ofHex (cs : List Char) : Nat :=
  cs.foldl (fun n c => 16 * n + hexValue c) 0

@[simp] theorem length_hexDigits
    (w n : Nat) :
    (hexDigits w n).length = w := by
  induction w generalizing n with
  | zero => rfl
  | succ w ih => simp [hexDigits, ih]

theorem hexValue_digitChar
    {n : Nat}
    (hSmall : n < 16) :
    hexValue (Nat.digitChar n) = n := by
  have hAll :
      ∀ m < 16, hexValue (Nat.digitChar m) = m := by
    decide
  exact hAll n hSmall

/- A number is read back from enough digits. -/
theorem ofHex_hexDigits
    {w n : Nat}
    (hFits : n < 16 ^ w) :
    ofHex (hexDigits w n) = n := by
  induction w generalizing n with
  | zero =>
      have hZero : n = 0 := by
        simpa using hFits
      rw [hZero]
      rfl
  | succ w ih =>
      have hHigh : n / 16 < 16 ^ w := by
        rw [pow_succ] at hFits
        omega
      have hRead := ih hHigh
      have hLow := hexValue_digitChar (n.mod_lt (by omega))
      unfold ofHex at hRead ⊢
      rw [hexDigits, List.foldl_append, hRead,
        List.foldl_cons, List.foldl_nil, hLow]
      omega

end PyText

------------------------------------------------------------
-- Quoted Strings
------------------------------------------------------------

namespace PyText

/- A character inside a quoted string. -/
def escapeChar
    (isPrintable : Char → Bool)
    (quote c : Char) : List Char :=
  if c = quote ∨ c = '\\' then
    ['\\', c]
  else if c = '\t' then
    ['\\', 't']
  else if c = '\n' then
    ['\\', 'n']
  else if c = '\r' then
    ['\\', 'r']
  else if c.toNat < 32 ∨ c.toNat = 127 then
    '\\' :: 'x' :: hexDigits 2 c.toNat
  else if c.toNat < 127 ∨ isPrintable c then
    [c]
  else if c.toNat < 256 then
    '\\' :: 'x' :: hexDigits 2 c.toNat
  else if c.toNat < 65536 then
    '\\' :: 'u' :: hexDigits 4 c.toNat
  else
    '\\' :: 'U' :: hexDigits 8 c.toNat

/- The quote is double when that avoids an escape. -/
def quoteOf (cs : List Char) : Char :=
  if '\'' ∈ cs ∧ '"' ∉ cs then '"' else '\''

def quoted
    (isPrintable : Char → Bool)
    (cs : List Char) : List Char :=
  let quote := quoteOf cs
  quote :: (cs.flatMap (escapeChar isPrintable quote) ++
    [quote])

/- `repr(s)` of a string. -/
def repr
    (isPrintable : Char → Bool)
    (s : String) : String :=
  .ofList (quoted isPrintable s.toList)

/- The character of a code with so many digits. -/
def readHex
    (w : Nat)
    (cs : List Char) : Option (Char × List Char) :=
  some (Char.ofNat (ofHex (cs.take w)), cs.drop w)

/- The first character of an escaped text. -/
def unescape : List Char → Option (Char × List Char)
| [] => none
| [c] => some (c, [])
| c :: k :: cs =>
    if c ≠ '\\' then
      some (c, k :: cs)
    else if k = 't' then
      some ('\t', cs)
    else if k = 'n' then
      some ('\n', cs)
    else if k = 'r' then
      some ('\r', cs)
    else if k = 'x' then
      readHex 2 cs
    else if k = 'u' then
      readHex 4 cs
    else if k = 'U' then
      readHex 8 cs
    else
      some (k, cs)

theorem readHex_hexDigits
    {w : Nat}
    {c : Char}
    (hFits : c.toNat < 16 ^ w)
    (rest : List Char) :
    readHex w (hexDigits w c.toNat ++ rest) =
      some (c, rest) := by
  unfold readHex
  rw [List.take_left' (length_hexDigits w _),
    List.drop_left' (length_hexDigits w _),
    ofHex_hexDigits hFits, Char.ofNat_toNat]

theorem unescape_of_plain
    {c : Char}
    (hPlain : c ≠ '\\')
    (rest : List Char) :
    unescape (c :: rest) = some (c, rest) := by
  cases rest with
  | nil => rfl
  | cons k cs => simp [unescape, hPlain]

/- Each escaped character is read back. -/
theorem unescape_escapeChar
    (isPrintable : Char → Bool)
    {quote : Char}
    (hQuote : quote = '\'' ∨ quote = '"')
    (c : Char)
    (rest : List Char) :
    unescape (escapeChar isPrintable quote c ++ rest) =
      some (c, rest) := by
  unfold escapeChar
  split
  · -- A quote or a backslash stands for itself.
    rename_i hSelf
    have hKinds : c = '\'' ∨ c = '"' ∨ c = '\\' := by
      rcases hSelf with rfl | rfl
      · exact hQuote.imp_right .inl
      · exact .inr (.inr rfl)
    rcases hKinds with rfl | rfl | rfl <;> simp [unescape]
  split
  · simp_all [unescape]
  split
  · simp_all [unescape]
  split
  · simp_all [unescape]
  split
  · rename_i hControl
    have hFits : c.toNat < 16 ^ 2 := by
      omega
    simpa [unescape] using readHex_hexDigits hFits rest
  split
  · rename_i hSelf _ _ _ _ _
    exact unescape_of_plain (not_or.1 hSelf).2 rest
  split
  · rename_i hSmall
    simpa [unescape] using readHex_hexDigits hSmall rest
  split
  · rename_i hSmall
    simpa [unescape] using readHex_hexDigits hSmall rest
  · have hFits : c.toNat < 16 ^ 8 := by
      have hValid := c.valid
      simp only [UInt32.isValidChar, Nat.isValidChar] at hValid
      simp only [Char.toNat]
      omega
    simpa [unescape] using readHex_hexDigits hFits rest

theorem quoteOf_cases
    (cs : List Char) :
    quoteOf cs = '\'' ∨ quoteOf cs = '"' := by
  unfold quoteOf
  split
  · exact .inr rfl
  · exact .inl rfl

/- A string is read back from its quoted form. -/
theorem repr_inj
    (isPrintable : Char → Bool)
    {s t : String} :
    repr isPrintable s = repr isPrintable t ↔ s = t := by
  constructor
  · intro hEq
    have hChars := congrArg String.toList hEq
    simp only [repr, quoted, String.toList_ofList,
      List.cons.injEq] at hChars
    rcases hChars with ⟨hQuote, hBody⟩
    rw [hQuote] at hBody
    have hCodes := List.append_cancel_right hBody
    apply String.toList_injective
    exact
      flatMap_inj_of_decode rfl
        (unescape_escapeChar isPrintable
          (quoteOf_cases t.toList))
        hCodes
  · intro hEq
    rw [hEq]

end PyText

------------------------------------------------------------
-- Digits And Encoded Strings
------------------------------------------------------------

namespace PyText

/- The code points of digits that are no decimal digits, such
   as superscripts and circled digits. -/
def markedDigits : List (Nat × Nat) :=
  [(0xb2, 0xb3), (0xb9, 0xb9), (0x1369, 0x1371),
    (0x19da, 0x19da), (0x2070, 0x2070), (0x2074, 0x2079),
    (0x2080, 0x2089), (0x2460, 0x2468), (0x2474, 0x247c),
    (0x2488, 0x2490), (0x24ea, 0x24ea), (0x24f5, 0x24fd),
    (0x24ff, 0x24ff), (0x2776, 0x277e), (0x2780, 0x2788),
    (0x278a, 0x2792), (0x10a40, 0x10a43),
    (0x10e60, 0x10e68), (0x11052, 0x1105a),
    (0x1f100, 0x1f10a)]

/- The text of an integer is of digits and a sign. -/
theorem mem_toString_int
    {c : Char}
    {n : Int}
    (hMem : c ∈ (toString n).toList) :
    c.isDigit ∨ c = '-' := by
  have hNat :
      ∀ m : Nat, c ∈ m.repr.toList → c.isDigit := by
    intro m hDigit
    rw [Nat.toList_repr] at hDigit
    exact
      Nat.isDigit_of_mem_toDigits (by omega) (by omega)
        hDigit
  cases n with
  | ofNat m => exact .inl (hNat m hMem)
  | negSucc m =>
      have hSign :
          toString (Int.negSucc m) = "-" ++ (m + 1).repr :=
        rfl
      rw [hSign, String.toList_append] at hMem
      rcases List.mem_append.1 hMem with hHead | hTail
      · exact .inr (List.mem_singleton.1 hHead)
      · exact .inl (hNat (m + 1) hTail)

/- `c.isdigit()` -/
def isDigit (c : Char) : Bool :=
  (Decimal.digit? c).isSome ||
    markedDigits.any (fun range =>
      range.1 ≤ c.toNat && c.toNat ≤ range.2)

/- A code unit of 16 bits in a JSON string. -/
def jsonUnit (n : Nat) : List Char :=
  '\\' :: 'u' :: hexDigits 4 n

/- A character of a JSON string in ASCII. -/
def jsonEscape (c : Char) : List Char :=
  if c = '"' ∨ c = '\\' then
    ['\\', c]
  else if c = '\n' then
    ['\\', 'n']
  else if c = '\r' then
    ['\\', 'r']
  else if c = '\t' then
    ['\\', 't']
  else if c.toNat = 12 then
    ['\\', 'f']
  else if c.toNat = 8 then
    ['\\', 'b']
  else if 32 ≤ c.toNat ∧ c.toNat < 127 then
    [c]
  else if c.toNat < 65536 then
    jsonUnit c.toNat
  else
    -- A pair of surrogates.
    let n := c.toNat - 65536
    jsonUnit (0xd800 + n / 1024) ++
      jsonUnit (0xdc00 + n % 1024)

def jsonString (s : String) : String :=
  .ofList ('"' :: (s.toList.flatMap jsonEscape ++ ['"']))

example :
    repr (fun _ => false) "a'\n\x01" = "\"a'\\n\\x01\"" := by
  decide

example : jsonString "é" = "\"\\u00e9\"" := by
  decide

end PyText
