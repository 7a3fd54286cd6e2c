import FraudStream.Library.Binary64
import FraudStream.Library.Decimal

/-
  Dynamically typed values and the operations on them that
  can fail.

  `Scalar` holds the values of a flat record; `PyVal` adds
  the other values a safe YAML document can contain. An
  operation on values of the wrong type is an error, not a
  default: ordering a number against a string, ordering a
  decimal against a NaN, writing out an integer of more
  than 4300 digits, and hashing a list all fail.

  Key definitions include:
    * `PyError`
    * `Scalar`
    * `PyVal`
    * `Scalar.order`
    * `PyVal.toDecimal`
    * `PyVal.hashable`

  The characterizations of failure are:
    * `Scalar.order_isOk_iff`
    * `PyVal.order_isOk_iff`
-/

------------------------------------------------------------
-- Values
------------------------------------------------------------

/- The exceptions that operations on values raise. -/
inductive PyError where
| typeError
| valueError
| keyError
| overflowError
| invalidOperation
deriving DecidableEq, Repr

/- The values of a flat record. -/
inductive Scalar where
| none : Scalar
| bool : Bool → Scalar
| int : Int → Scalar
| float : PyFloat → Scalar
| decimal : Decimal → Scalar
| str : String → Scalar
deriving DecidableEq, Repr

/- The values of a safe YAML document. -/
inductive PyVal where
| scalar : Scalar → PyVal
| bytes : List UInt8 → PyVal
| timestamp : (micros : Int) → PyVal
| list : List PyVal → PyVal
| dict : List (PyVal × PyVal) → PyVal
| set : List PyVal → PyVal

namespace Scalar

/- The truth value of a scalar. -/
def truthy : Scalar → Bool
| .none => false
| .bool b => b
| .int n => n ≠ 0
| .float f => f.truthy
| .decimal d => d.truthy
| .str s => s ≠ ""

/- `x or y`: the first operand when it is true. -/
def orElse (x y : Scalar) : Scalar :=
  if x.truthy then x else y

/- An optional value, absent as the null value. -/
def ofOption
    {α : Type}
    (f : α → Scalar) : Option α → Scalar
| Option.none => .none
| some a => f a

end Scalar

------------------------------------------------------------
-- Order Comparisons
------------------------------------------------------------

/- A number on the extended line. -/
inductive Quantity where
| negInf
| value : ℚ → Quantity
| posInf

namespace Quantity

def compare : Quantity → Quantity → Ordering
| .negInf, .negInf => .eq
| .negInf, _ => .lt
| _, .negInf => .gt
| .posInf, .posInf => .eq
| .posInf, _ => .gt
| _, .posInf => .lt
| .value x, .value y =>
    if x < y then .lt else if x = y then .eq else .gt

def ofInf (negative : Bool) : Quantity :=
  if negative then negInf else posInf

/- The distance of two quantities, unless both are the
   same infinity. -/
def distance : Quantity → Quantity → Option Quantity
| .value x, .value y => some (.value |x - y|)
| .negInf, .negInf => none
| .posInf, .posInf => none
| _, _ => some .posInf

end Quantity

/- The order comparison operators. -/
inductive OrderOp where
| lt
| le
| gt
| ge
deriving DecidableEq, Repr

/- Whether the operator holds of two compared values. -/
def OrderOp.holds : OrderOp → Ordering → Bool
| .lt, o => o.isLT
| .le, o => o.isLE
| .gt, o => o.isGT
| .ge, o => o.isGE

namespace Scalar

/- The number a scalar stands for; a NaN has no quantity. -/
def number? : Scalar → Option (Option Quantity)
| .none => Option.none
| .str _ => Option.none
| .bool b => some (some (.value (if b then 1 else 0)))
| .int n => some (some (.value n))
| .float (.finite v) => some (some (.value v))
| .float (.inf negative) =>
    some (some (.ofInf negative))
| .float .nan => some Option.none
| .decimal (.finite v) => some (some (.value v))
| .decimal (.inf negative) =>
    some (some (.ofInf negative))
| .decimal (.nan _) => some Option.none

def isDecimal : Scalar → Bool
| .decimal _ => true
| _ => false

/- A NaN of either number type. -/
def isNaN : Scalar → Bool
| .float .nan => true
| .decimal (.nan _) => true
| _ => false

def isNumber (x : Scalar) : Bool :=
  x.number?.isSome

def isStr : Scalar → Bool
| .str _ => true
| _ => false

/-
  Numbers compare by value and strings by code points. A
  NaN compares false, but raises next to a decimal.
-/
def order
    (op : OrderOp)
    (x y : Scalar) : Except PyError Bool :=
  match x.number?, y.number? with
  | some (some a), some (some b) =>
      .ok (op.holds (a.compare b))
  | some _, some _ =>
      if x.isDecimal || y.isDecimal then
        .error .invalidOperation
      else
        .ok false
  | _, _ =>
      match x, y with
      | .str s, .str t => .ok (op.holds (compare s t))
      | _, _ => .error .typeError

/-
  Two scalars can be ordered: both are strings, or both are
  numbers and no NaN meets a decimal.
-/
def Orderable (x y : Scalar) : Prop :=
  (x.isStr ∧ y.isStr) ∨
    (x.isNumber ∧ y.isNumber ∧
      ((x.isDecimal ∨ y.isDecimal) →
        ¬ x.isNaN ∧ ¬ y.isNaN))

instance (x y : Scalar) : Decidable (Orderable x y) := by
  unfold Orderable
  infer_instance

theorem isNaN_iff_number?
    (x : Scalar) :
    x.isNaN ↔ x.number? = some Option.none := by
  rcases x with - | - | - | (- | - | -) | (- | - | -) | -
    <;> simp [isNaN, number?]

/- A NaN compares with a number unless one is a decimal. -/
private theorem order_of_number?_none
    {x y : Scalar}
    {a b : Option Quantity}
    (op : OrderOp)
    (hx : x.number? = some a)
    (hy : y.number? = some b)
    (hNaN : a = Option.none ∨ b = Option.none) :
    (∃ c, x.order op y = .ok c) ↔
      ¬ (x.isDecimal ∨ y.isDecimal) := by
  have hOrder :
      x.order op y =
        if x.isDecimal || y.isDecimal then
          .error .invalidOperation
        else
          .ok false := by
    rcases hNaN with rfl | rfl
    · simp [order, hx, hy]
    · cases a <;> simp [order, hx, hy]
  rw [hOrder]
  cases x.isDecimal <;> cases y.isDecimal <;> simp

/- Comparing scalars returns a truth value when it can. -/
theorem order_isOk_iff
    (op : OrderOp)
    (x y : Scalar) :
    (∃ b, x.order op y = .ok b) ↔ Orderable x y := by
  unfold Orderable isNumber
  rw [isNaN_iff_number?, isNaN_iff_number?]
  cases hx : x.number? with
  | none =>
      cases x with
      | str s =>
          cases y <;>
            simp [order, number?, isStr]
      | none => simp [order, number?, isStr]
      | bool b => simp [number?] at hx
      | int n => simp [number?] at hx
      | float f => cases f <;> simp [number?] at hx
      | decimal d => cases d <;> simp [number?] at hx
  | some a =>
      have hxStr : x.isStr = false := by
        cases x <;> simp_all [number?, isStr]
      cases hy : y.number? with
      | none =>
          have hOrder :
              x.order op y = .error .typeError := by
            cases x <;>
              simp_all [order, isStr]
          simp [hOrder, hxStr]
      | some b =>
          cases a with
          | none =>
              rw [order_of_number?_none op hx hy (.inl rfl)]
              simp [hxStr]
          | some a =>
              cases b with
              | none =>
                  rw [order_of_number?_none op hx hy
                    (.inr rfl)]
                  simp [hxStr]
              | some b => simp [order, hx, hy, hxStr]

/- `x == y`: numbers by value, and a NaN equals nothing. -/
def equal (x y : Scalar) : Bool :=
  match x.number?, y.number? with
  | some (some a), some (some b) => a.compare b = .eq
  | Option.none, Option.none => x = y
  | _, _ => false

end Scalar

namespace PyVal

/- `x == y` of a scalar and any value. -/
def equalScalar (x : Scalar) : PyVal → Bool
| .scalar y => x.equal y
| _ => false

/- The value is null. -/
def isNone : PyVal → Bool
| .scalar .none => true
| _ => false

/- Compare a scalar with any value: only scalars compare. -/
def order
    (op : OrderOp)
    (x : Scalar) : PyVal → Except PyError Bool
| .scalar y => x.order op y
| _ => .error .typeError

/- A scalar can be ordered against a value. -/
def Orderable (x : Scalar) : PyVal → Prop
| .scalar y => Scalar.Orderable x y
| _ => False

instance (x : Scalar) (y : PyVal) :
    Decidable (Orderable x y) := by
  cases y <;> unfold Orderable <;> infer_instance

theorem order_isOk_iff
    (op : OrderOp)
    (x : Scalar)
    (y : PyVal) :
    (∃ b, order op x y = .ok b) ↔ Orderable x y := by
  cases y with
  | scalar y => exact Scalar.order_isOk_iff op x y
  | bytes bs => simp [order, Orderable]
  | timestamp t => simp [order, Orderable]
  | list xs => simp [order, Orderable]
  | dict es => simp [order, Orderable]
  | set xs => simp [order, Orderable]

end PyVal

------------------------------------------------------------
-- Conversions
------------------------------------------------------------

namespace PyVal

/- Only mutable containers have no hash. -/
def hashable : PyVal → Bool
| .scalar (.decimal (.nan signaling)) => !signaling
| .scalar _ => true
| .bytes _ => true
| .timestamp _ => true
| .list _ => false
| .dict _ => false
| .set _ => false

/- The truth value of a value: a container that holds
   something is true. -/
def truthy : PyVal → Bool
| .scalar x => x.truthy
| .bytes bs => !bs.isEmpty
| .timestamp _ => true
| .list xs => !xs.isEmpty
| .dict es => !es.isEmpty
| .set xs => !xs.isEmpty

/- Equality with a string holds of that string only. -/
def isString (s : String) : PyVal → Bool
| .scalar (.str t) => s = t
| _ => false

/- The decimal written by `str` of a value. -/
def toDecimal : PyVal → Except PyError Decimal
| .scalar (.int n) =>
    if |n| < 10 ^ 4300 then
      .ok (.finite n)
    else
      .error .valueError
| .scalar (.float (.finite v)) =>
    .ok (.finite (PyFloat.shortest v))
| .scalar (.float (.inf negative)) => .ok (.inf negative)
| .scalar (.float .nan) => .ok (.nan false)
| .scalar (.decimal d) => .ok d
| .scalar (.str s) =>
    match Decimal.ofString? s with
    | some d => .ok d
    | none => .error .invalidOperation
| _ => .error .invalidOperation

end PyVal

namespace Scalar

/- The integer literal that a string writes. -/
def intOfChars? (cs : List Char) : Option Int :=
  let signed :=
    Decimal.splitSign
      (((cs.dropWhile Decimal.isSpace).reverse.dropWhile
        Decimal.isSpace).reverse)
  let groups := signed.2.splitOn '_'
  let ds := groups.flatMap
    (fun g => (Decimal.splitDigits g).1)
  if groups.all
      (fun g => g ≠ [] && (Decimal.splitDigits g).2 = []) &&
      ds.length ≤ 4300 then
    some (if signed.1 then -Decimal.ofDigits ds
      else Decimal.ofDigits ds)
  else
    Option.none

/- Truncation toward zero. -/
def truncate (v : ℚ) : Int :=
  if 0 ≤ v then ⌊v⌋ else ⌈v⌉

/- `int(x)` -/
def toInt : Scalar → Except PyError Int
| .none => .error .typeError
| .bool b => .ok (if b then 1 else 0)
| .int n => .ok n
| .float (.finite v) => .ok (truncate v)
| .float (.inf _) => .error .overflowError
| .float .nan => .error .valueError
| .decimal (.finite v) => .ok (truncate v)
| .decimal (.inf _) => .error .overflowError
| .decimal (.nan _) => .error .valueError
| .str s =>
    match intOfChars? s.toList with
    | some n => .ok n
    | Option.none => .error .valueError

/- The float literal that a string writes. -/
def floatOfChars? (cs : List Char) : Option PyFloat :=
  let signed :=
    Decimal.splitSign
      (((cs.dropWhile Decimal.isSpace).reverse.dropWhile
        Decimal.isSpace).reverse)
  let body := signed.2.map Char.toLower
  -- An underscore stands between two digits only.
  let joined :=
    (signed.2.zip signed.2.tail).all (fun c =>
      (c.1 ≠ '_' || (Decimal.digit? c.2).isSome) &&
        (c.2 ≠ '_' || (Decimal.digit? c.1).isSome)) &&
      signed.2.head? ≠ some '_' &&
      signed.2.getLast? ≠ some '_'
  if body = ['n', 'a', 'n'] then
    some .nan
  else if body = ['i', 'n', 'f'] ∨
      body = ['i', 'n', 'f', 'i', 'n', 'i', 't', 'y'] then
    some (.inf signed.1)
  else if joined then
    (Decimal.numberParts? (signed.2.filter (· ≠ '_'))).map
      (fun parts =>
        let v : ℚ := Decimal.ofDigits parts.1 * 10 ^ parts.2
        PyFloat.ofRat (if signed.1 then -v else v))
  else
    Option.none

/- `float(x)` -/
def toFloat : Scalar → Except PyError PyFloat
| .none => .error .typeError
| .bool b => .ok (.ofRat (if b then 1 else 0))
| .int n =>
    match PyFloat.ofRat n with
    | .finite v => .ok (.finite v)
    | _ => .error .overflowError
| .float f => .ok f
| .decimal (.finite v) => .ok (.ofRat v)
| .decimal (.inf negative) => .ok (.inf negative)
| .decimal (.nan signaling) =>
    if signaling then .error .valueError else .ok .nan
| .str s =>
    match floatOfChars? s.toList with
    | some f => .ok f
    | Option.none => .error .valueError

def isFloat : Scalar → Bool
| .float _ => true
| _ => false

/- The distance as a decimal; no distance is an error. -/
def decimalDistance :
    Option Quantity → Except PyError Scalar
| some (.value d) => .ok (.decimal (.finite d))
| some _ => .ok (.decimal (.inf false))
| Option.none => .error .invalidOperation

/- The distance as a float; no distance is a NaN. -/
def floatDistance : Option Quantity → Scalar
| some (.value d) => .float (.ofRat d)
| some _ => .float (.inf false)
| Option.none => .float .nan

/- `abs(x - y)` -/
def absDifference
    (x y : Scalar) : Except PyError Scalar :=
  match x.number?, y.number? with
  | some a, some b =>
      let d := a.bind (fun a => b.bind a.distance)
      if x.isDecimal || y.isDecimal then
        if x.isFloat || y.isFloat then
          .error .typeError
        else if x = .decimal (.nan false) ∨
            y = .decimal (.nan false) then
          .ok (.decimal (.nan false))
        else
          decimalDistance d
      else if x.isFloat || y.isFloat then
        .ok (floatDistance d)
      else
        match d with
        | some (.value d) => .ok (.int ⌊d⌋)
        | _ => .error .typeError
  | _, _ => .error .typeError

end Scalar
