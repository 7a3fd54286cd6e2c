import FraudStream.Library.IpAddress
import FraudStream.Library.JsonValue

/-
  Masking card numbers and addresses.

  A card number loses its separators, is checked for digits,
  length and the Luhn sum, and keeps its first six and last
  four digits. An address is truncated to its network.

  Key definitions include:
    * `RawPAN.mask`
    * `extractPanParts`
    * `truncateIp`
-/

------------------------------------------------------------
-- Card Numbers
------------------------------------------------------------

namespace FraudStream

structure MaskingConfig where
  ipv4Prefix : Int
  ipv6Prefix : Int

/- An exception of a mask with its text. -/
inductive MaskFault where
| invalidPan : (message : String) → MaskFault
| raised : PyError → (message : String) → MaskFault

structure MaskedPAN where
  bin6 : String
  last4 : String
  length : Nat

/- The wrapped digits of a card number. -/
structure RawPAN where
  digits : String

/- `re.sub(r"[\s\-]", "", s)` -/
def stripSeparators (s : String) : String :=
  .ofList (s.toList.filter (fun c =>
    !Decimal.isSpace c && c ≠ '-'))

/- `s.isdigit()` -/
def isDigits (s : String) : Bool :=
  !s.toList.isEmpty && s.toList.all PyText.isDigit

section Validators

variable (table : TextTable)

/- The exception of a digit that is no decimal digit. -/
def invalidLiteral (ch : Char) : MaskFault :=
  .raised .valueError
    ("invalid literal for int() with base 10: " ++
      PyText.repr table.isPrintable (.ofList [ch]))

/- `int(ch)` of one character. -/
def digitOf (ch : Char) : Except MaskFault Nat :=
  match Decimal.digit? ch with
  | some n => .ok n
  | none => .error (invalidLiteral table ch)

/- The term of a digit in the Luhn sum. -/
def luhnTerm (i n : Nat) : Nat :=
  if i % 2 = 1 then
    if 9 < 2 * n then 2 * n - 9 else 2 * n
  else
    n

def luhnValid (digits : String) : Except MaskFault Bool := do
  let terms ← digits.toList.reverse.zipIdx.mapM (fun ch =>
    (digitOf table ch.1).map (luhnTerm ch.2))
  pure (terms.sum % 10 = 0)

def extractPanParts
    (pan : String) : Except MaskFault (String × String) :=
  let digits := stripSeparators pan
  let length := digits.toList.length
  if !isDigits digits then
    .error
      (.invalidPan
        ("PAN contains non-digit characters: " ++
          PyText.repr table.isPrintable pan))
  else if length ≠ 15 ∧ length ≠ 16 then
    .error
      (.invalidPan
        ("PAN length " ++ toString length ++
          " is invalid (expected 15 or 16 digits)"))
  else
    match luhnValid table digits with
    | .error fault => .error fault
    | .ok false => .error (.invalidPan "Luhn check failed")
    | .ok true =>
        .ok
          (.ofList (digits.toList.take 6),
            .ofList (digits.toList.drop (length - 4)))

/- `RawPAN(pan)`: only a string can be stripped. -/
def RawPAN.ofJson : JsonValue → Except MaskFault RawPAN
| .str s => .ok ⟨stripSeparators s⟩
| v =>
    .error
      (.raised .typeError
        ("expected string or bytes-like object, got '" ++
          v.typeName ++ "'"))

def RawPAN.mask
    (raw : RawPAN) : Except MaskFault MaskedPAN :=
  match extractPanParts table raw.digits with
  | .error fault => .error fault
  | .ok (bin6, last4) =>
      .ok ⟨bin6, last4, raw.digits.toList.length⟩

end Validators

end FraudStream

------------------------------------------------------------
-- Addresses
------------------------------------------------------------

namespace FraudStream

/- `ip_address(ip)`. The text of a null, a float, a list or a
   dictionary is no address. -/
def ipAddress? : JsonValue → Option IpAddress
| .str s => IpAddress.ofText? s
| .int n => IpAddress.ofInt? n.value
| .bool b => IpAddress.ofInt? (if b then 1 else 0)
| _ => none

def MaskingConfig.prefixFor
    (cfg : MaskingConfig) : IpAddress → Int
| .v4 _ => cfg.ipv4Prefix
| .v6 _ _ => cfg.ipv6Prefix

def truncateIp
    (table : TextTable)
    (cfg : MaskingConfig)
    (ip : JsonValue) : Except MaskFault String :=
  match ipAddress? ip with
  | none =>
      .error
        (.raised .valueError
          (ip.repr table ++
            " does not appear to be an IPv4 or IPv6 " ++
            "address"))
  | some addr =>
      if addr.isMulticast then
        .error
          (.raised .valueError
            ("Multicast addresses must not be stored: " ++
              ip.repr table))
      else
        let len := cfg.prefixFor addr
        match IpAddress.networkOf? (ip.text table) len with
        | none =>
            let network := ip.text table ++ "/" ++ toString len
            .error
              (.raised .valueError
                (PyText.repr table.isPrintable network ++
                  " does not appear to be an IPv4 or IPv6 " ++
                  "network"))
        | some network => .ok network.text

end FraudStream
