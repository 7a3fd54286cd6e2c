import FraudStream.Library.Dict
import FraudStream.Library.PyText
import FraudStream.Library.PyValue

/-
  The values that a JSON text denotes, and their texts.

  An integer is read only from at most 4300 digits. An
  object nested in a value keeps the order of its entries.
  The text of a finite float is left to a table, like the
  characters that can be printed.

  Key definitions include:
    * `JsonInt`
    * `JsonValue`
    * `JsonValue.repr`
    * `JsonValue.dumps`
    * `JsonObject`
-/

------------------------------------------------------------
-- Values
------------------------------------------------------------

/- An integer that is written with at most 4300 digits. -/
structure JsonInt where
  value : Int
  short : |value| < 10 ^ 4300

theorem JsonInt.zero_short : |(0 : Int)| < 10 ^ 4300 := by
  rw [abs_zero]
  positivity

inductive JsonValue where
| null
| bool : Bool → JsonValue
| int : JsonInt → JsonValue
| float : PyFloat → JsonValue
| str : String → JsonValue
| list : List JsonValue → JsonValue
| dict : List (String × JsonValue) → JsonValue

/- The top-level object of a text: a later entry of a name
   has replaced an earlier one. -/
abbrev JsonObject := Dict String JsonValue

/- What texts take from tables of the runtime. -/
structure TextTable where
  isPrintable : Char → Bool
  floatText : ℚ → String

namespace JsonValue

/- The truth value of a value. -/
def truthy : JsonValue → Bool
| .null => false
| .bool b => b
| .int n => n.value ≠ 0
| .float f => f.truthy
| .str s => s ≠ ""
| .list xs => !xs.isEmpty
| .dict es => !es.isEmpty

/- `type(value).__name__` -/
def typeName : JsonValue → String
| .null => "NoneType"
| .bool _ => "bool"
| .int _ => "int"
| .float _ => "float"
| .str _ => "str"
| .list _ => "list"
| .dict _ => "dict"

/- A value that is no container, as a scalar. -/
def scalar? : JsonValue → Option Scalar
| .null => some .none
| .bool b => some (.bool b)
| .int n => some (.int n.value)
| .float f => some (.float f)
| .str s => some (.str s)
| .list _ => none
| .dict _ => none

/- `int(value)` -/
def toInt (v : JsonValue) : Except PyError Int :=
  match v.scalar? with
  | some x => x.toInt
  | none => .error .typeError

/- `float(value)` -/
def toFloat (v : JsonValue) : Except PyError PyFloat :=
  match v.scalar? with
  | some x => x.toFloat
  | none => .error .typeError

end JsonValue

------------------------------------------------------------
-- Texts
------------------------------------------------------------

namespace JsonValue

/- Entries between brackets. -/
def bracketed (opening closing : String) (items : List String) :
    String :=
  opening ++ ", ".intercalate items ++ closing

mutual

/- `repr(value)` -/
def repr (table : TextTable) : JsonValue → String
| .null => "None"
| .bool b => if b then "True" else "False"
| .int n => toString n.value
| .float (.finite v) => table.floatText v
| .float (.inf negative) => if negative then "-inf" else "inf"
| .float .nan => "nan"
| .str s => PyText.repr table.isPrintable s
| .list xs => bracketed "[" "]" (reprItems table xs)
| .dict es => bracketed "\x7b" "\x7d" (reprEntries table es)

def reprItems (table : TextTable) :
    List JsonValue → List String
| [] => []
| x :: xs => repr table x :: reprItems table xs

def reprEntries (table : TextTable) :
    List (String × JsonValue) → List String
| [] => []
| (name, x) :: es =>
    (PyText.repr table.isPrintable name ++ ": " ++
      repr table x) :: reprEntries table es

end

/- `str(value)` -/
def text (table : TextTable) : JsonValue → String
| .str s => s
| v => v.repr table

mutual

/- `json.dumps(value)` -/
def dumps (table : TextTable) : JsonValue → String
| .null => "null"
| .bool b => if b then "true" else "false"
| .int n => toString n.value
| .float (.finite v) => table.floatText v
| .float (.inf negative) =>
    if negative then "-Infinity" else "Infinity"
| .float .nan => "NaN"
| .str s => PyText.jsonString s
| .list xs => bracketed "[" "]" (dumpsItems table xs)
| .dict es => bracketed "\x7b" "\x7d" (dumpsEntries table es)

def dumpsItems (table : TextTable) :
    List JsonValue → List String
| [] => []
| x :: xs => dumps table x :: dumpsItems table xs

def dumpsEntries (table : TextTable) :
    List (String × JsonValue) → List String
| [] => []
| (name, x) :: es =>
    (PyText.jsonString name ++ ": " ++ dumps table x) ::
      dumpsEntries table es

end

example (table : TextTable) :
    dumps table (.dict [("a", .list [.null, .str "é"])]) =
      "\x7b\"a\": [null, \"\\u00e9\"]\x7d" := by
  rfl

end JsonValue
