import Mathlib.Data.Int.Log
import Mathlib.Data.Rat.Floor

/-
  Double-precision floating point numbers by value.

  A finite double is its exact rational value, so the two
  zeros are one value. `PyFloat.ofRat` rounds to the nearest
  double, ties to even; `PyFloat.shortest` is the decimal
  with the fewest digits that rounds back, the one that is
  printed.

  Key definitions include:
    * `PyFloat`
    * `PyFloat.ofRat`
    * `PyFloat.shortest`
-/

------------------------------------------------------------
-- Doubles
------------------------------------------------------------

/- A double: its exact value, an infinity, or not a number. -/
inductive PyFloat where
| finite : ℚ → PyFloat
| inf : (negative : Bool) → PyFloat
| nan : PyFloat
deriving DecidableEq, Repr

namespace PyFloat

/- The nearest integer, ties to even. -/
def roundHalfEven (q : ℚ) : Int :=
  let low := ⌊q⌋
  let rest := q - low
  if rest < 1 / 2 then
    low
  else if 1 / 2 < rest then
    low + 1
  else if low % 2 = 0 then
    low
  else
    low + 1

/- The exponent of the last bit of a double near `q`. -/
def lastBit (q : ℚ) : Int :=
  max (Int.log 2 |q| - 52) (-1074)

/- The nearest double of a rational number. -/
def ofRat (q : ℚ) : PyFloat :=
  if q = 0 then
    finite 0
  else
    let unit : ℚ := 2 ^ lastBit q
    let v : ℚ := roundHalfEven (q / unit) * unit
    if |v| < 2 ^ 1024 then finite v else inf (q < 0)

/- The nearest single-precision number, by value. -/
def toSingle : PyFloat → PyFloat
| .finite q =>
    if q = 0 then
      finite 0
    else
      let unit : ℚ := 2 ^ max (Int.log 2 |q| - 23) (-149)
      let v : ℚ := roundHalfEven (q / unit) * unit
      if |v| < 2 ^ 128 then finite v else inf (q < 0)
| f => f

/- The decimals of `n` digits below and above `v`. -/
def decimalsAround
    (v : ℚ)
    (n : Nat) : List ℚ :=
  let unit : ℚ := 10 ^ (Int.log 10 |v| + 1 - n)
  [⌊v / unit⌋ * unit, ⌈v / unit⌉ * unit]

/- The closest `n`-digit decimal that rounds to `v`. -/
def roundTrip?
    (v : ℚ)
    (n : Nat) : Option ℚ :=
  match (decimalsAround v n).filter
      (fun d => ofRat d = finite v) with
  | [] => none
  | [d] => some d
  | d :: d' :: _ =>
      if |v - d| ≤ |v - d'| then some d else some d'

/- The printed value of a finite double. -/
def shortest (v : ℚ) : ℚ :=
  if v = 0 then
    0
  else
    ((List.range 17).findSome?
      (fun n => roundTrip? v (n + 1))).getD v

/- `x - y` -/
def sub : PyFloat → PyFloat → PyFloat
| .finite v, .finite w => ofRat (v - w)
| .inf s, .finite _ => .inf s
| .finite _, .inf t => .inf (!t)
| .inf s, .inf t => if s = t then .nan else .inf s
| _, _ => .nan

/- A number that is neither zero nor absent is true. -/
def truthy : PyFloat → Bool
| .finite v => v ≠ 0
| .inf _ => true
| .nan => true

@[simp] theorem ofRat_zero : ofRat 0 = finite 0 := rfl

end PyFloat
