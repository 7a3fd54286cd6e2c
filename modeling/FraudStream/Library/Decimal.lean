import Mathlib.Data.Rat.Floor

/-
  Decimal numbers and their numeric strings.

  A finite decimal is its exact value; how decimals are
  added is in `DecimalContext`.
  `Decimal.ofString?` reads a numeric string the way the
  decimal constructor does: surrounding white space and
  underscores are ignored, any Unicode decimal digit
  counts, and an exponent out of range is refused.

  Key definitions include:
    * `Decimal`
    * `Decimal.ofString?`
    * `Decimal.isNaN`
-/

------------------------------------------------------------
-- Decimals
------------------------------------------------------------

/- A decimal: an exact value, an infinity, or not a number. -/
inductive Decimal where
| finite : ℚ → Decimal
| inf : (negative : Bool) → Decimal
| nan : (signaling : Bool) → Decimal
deriving DecidableEq, Repr

namespace Decimal

/- Quiet and signaling NaNs. -/
def isNaN : Decimal → Bool
| .finite _ => false
| .inf _ => false
| .nan _ => true

/- A decimal other than zero is true. -/
def truthy : Decimal → Bool
| .finite v => v ≠ 0
| .inf _ => true
| .nan _ => true

end Decimal

------------------------------------------------------------
-- Characters Of Numeric Strings
------------------------------------------------------------

namespace Decimal

/- The code points of the decimal zeros. -/
def zeroDigits : List Nat :=
  [0x30, 0x660, 0x6f0, 0x7c0, 0x966, 0x9e6, 0xa66, 0xae6,
    0xb66, 0xbe6, 0xc66, 0xce6, 0xd66, 0xde6, 0xe50, 0xed0,
    0xf20, 0x1040, 0x1090, 0x17e0, 0x1810, 0x1946, 0x19d0,
    0x1a80, 0x1a90, 0x1b50, 0x1bb0, 0x1c40, 0x1c50, 0xa620,
    0xa8d0, 0xa900, 0xa9d0, 0xa9f0, 0xaa50, 0xabf0, 0xff10,
    0x104a0, 0x10d30, 0x11066, 0x110f0, 0x11136, 0x111d0,
    0x112f0, 0x11450, 0x114d0, 0x11650, 0x116c0, 0x11730,
    0x118e0, 0x11950, 0x11c50, 0x11d50, 0x11da0, 0x16a60,
    0x16ac0, 0x16b50, 0x1d7ce, 0x1d7d8, 0x1d7e2, 0x1d7ec,
    0x1d7f6, 0x1e140, 0x1e2f0, 0x1e950, 0x1fbf0]

/- The value of a decimal digit of any script. -/
def digit? (c : Char) : Option Nat :=
  (zeroDigits.find?
    (fun z => z ≤ c.toNat && c.toNat < z + 10)).map
      (fun z => c.toNat - z)

/- The code points of white space outside the ASCII range. -/
def wideSpaces : List Nat :=
  [0x85, 0xa0, 0x1680, 0x2000, 0x2001, 0x2002, 0x2003,
    0x2004, 0x2005, 0x2006, 0x2007, 0x2008, 0x2009, 0x200a,
    0x2028, 0x2029, 0x202f, 0x205f, 0x3000]

def isSpace (c : Char) : Bool :=
  (9 ≤ c.toNat && c.toNat ≤ 13) ||
    (28 ≤ c.toNat && c.toNat ≤ 32) ||
    wideSpaces.contains c.toNat

/- Drop surrounding white space, then every underscore. -/
def trim (cs : List Char) : List Char :=
  (((cs.dropWhile isSpace).reverse.dropWhile
    isSpace).reverse).filter (· ≠ '_')

/- The leading digits and what follows them. -/
def splitDigits : List Char → List Nat × List Char
| [] => ([], [])
| c :: cs =>
    match digit? c with
    | some d =>
        let split := splitDigits cs
        (d :: split.1, split.2)
    | none => ([], c :: cs)

/- The number that a list of digits writes. -/
def ofDigits (ds : List Nat) : Nat :=
  ds.foldl (fun n d => 10 * n + d) 0

/- An optional sign and what follows it. -/
def splitSign : List Char → Bool × List Char
| '-' :: cs => (true, cs)
| '+' :: cs => (false, cs)
| cs => (false, cs)

end Decimal

------------------------------------------------------------
-- Numeric Strings
------------------------------------------------------------

namespace Decimal

/- The greatest adjusted exponent. -/
def maxExponent : Int := 999999999999999999

/- The least exponent of the last digit. -/
def minExponent : Int := -1999999999999999997

/- The exponent part, absent or written out. -/
def exponent? : List Char → Option Int
| [] => some 0
| c :: cs =>
    if c = 'e' ∨ c = 'E' then
      let signed := splitSign cs
      match splitDigits signed.2 with
      | (d :: ds, []) =>
          let n : Int := ofDigits (d :: ds)
          some (if signed.1 then -n else n)
      | _ => none
    else
      none

/- The digits of a coefficient at an exponent in range. -/
def scaled?
    (ds : List Nat)
    (exponent : Int) : Option ℚ :=
  let significant := (ds.dropWhile (· = 0)).length
  if minExponent ≤ exponent ∧
      exponent + (significant - 1 : Nat) ≤ maxExponent then
    some (ofDigits ds * 10 ^ exponent)
  else
    none

/-
  Digits with an optional point and exponent: all the
  digits, and the exponent of the last one.
-/
def numberParts?
    (cs : List Char) : Option (List Nat × Int) :=
  let whole := splitDigits cs
  let fraction :=
    match whole.2 with
    | '.' :: rest => splitDigits rest
    | rest => ([], rest)
  match whole.1 ++ fraction.1 with
  | [] => none
  | ds =>
      (exponent? fraction.2).map (fun e =>
        (ds, e - fraction.1.length))

/- A NaN keeps its optional diagnostic digits to itself. -/
def nan? (cs : List Char) : Option Decimal :=
  match cs.map Char.toLower with
  | 's' :: 'n' :: 'a' :: 'n' :: rest =>
      if (splitDigits rest).2 = [] then
        some (nan true)
      else
        none
  | 'n' :: 'a' :: 'n' :: rest =>
      if (splitDigits rest).2 = [] then
        some (nan false)
      else
        none
  | _ => none

/- The decimal that a string writes, if it writes one. -/
def ofChars? (cs : List Char) : Option Decimal :=
  let signed := splitSign (trim cs)
  let body := signed.2.map Char.toLower
  if body = ['i', 'n', 'f'] ∨
      body = ['i', 'n', 'f', 'i', 'n', 'i', 't', 'y'] then
    some (inf signed.1)
  else
    match nan? signed.2 with
    | some d => some d
    | none =>
        ((numberParts? signed.2).bind (fun parts =>
          scaled? parts.1 parts.2)).map (fun v =>
            finite (if signed.1 then -v else v))

def ofString? (s : String) : Option Decimal :=
  ofChars? s.toList

example :
    ofString? " -1_2.50e1\n" = some (finite (-125)) := by
  decide +kernel

example : ofString? "five" = none := by decide

end Decimal
