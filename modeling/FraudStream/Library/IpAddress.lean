import Mathlib.Algebra.Group.Int.Defs
import Mathlib.Data.List.Basic

/-
  Internet addresses: their texts, networks and prefixes.

  An address of version 6 can name the zone that it is local
  to. The address of its network keeps the zone when the
  address has no host bits, and drops it otherwise.

  Key definitions include:
    * `IpAddress.ofText?`
    * `IpAddress.text`
    * `IpAddress.networkAddress`
    * `IpAddress.AgreeOn`
    * `IpAddress.keptScope`

  The main results are:
    * `IpAddress.masked_eq_iff`
    * `IpAddress.text_networkAddress_eq_iff`
    * `IpAddress.networkAddress_eq_iff`
-/

------------------------------------------------------------
-- Addresses
------------------------------------------------------------

/- The name of a zone. -/
structure IpScope where
  name : String
  nonempty : name ≠ ""
deriving DecidableEq

inductive IpAddress where
| v4 : (bits : BitVec 32) → IpAddress
| v6 : (bits : BitVec 128) → (scope : Option IpScope) →
    IpAddress
deriving DecidableEq

namespace IpAddress

/- The greatest prefix length. -/
def maxPrefix : IpAddress → Nat
| .v4 _ => 32
| .v6 _ _ => 128

/- The first bits set and the others clear. -/
def netmask (w len : Nat) : BitVec w :=
  BitVec.allOnes w ^^^ (BitVec.allOnes w >>> len)

/- In 224.0.0.0/4 or ff00::/8. -/
def isMulticast : IpAddress → Bool
| .v4 bits => bits &&& netmask 32 4 = 0xe0000000#32
| .v6 bits _ => bits &&& netmask 128 8 = 0xff#128 <<< 120

/- The address of the network of an address: without host
   bits, it is the address itself. -/
def networkAddress (len : Nat) : IpAddress → IpAddress
| .v4 bits => .v4 (bits &&& netmask 32 len)
| .v6 bits scope =>
    if bits &&& netmask 128 len = bits then
      .v6 bits scope
    else
      .v6 (bits &&& netmask 128 len) none

end IpAddress

------------------------------------------------------------
-- Reading Addresses
------------------------------------------------------------

namespace IpAddress

/- The number of a text of digits in a base. -/
def ofDigitChars
    (base : Nat)
    (value : Char → Nat)
    (cs : List Char) : Nat :=
  cs.foldl (fun n c => base * n + value c) 0

/- A decimal octet without a leading zero. -/
def octet? (cs : List Char) : Option Nat :=
  let n := ofDigitChars 10 (fun c => c.toNat - 48) cs
  if cs ≠ [] ∧ cs.all Char.isDigit ∧ cs.length ≤ 3 ∧
      (cs = ['0'] ∨ cs.head? ≠ some '0') ∧ n ≤ 255 then
    some n
  else
    none

def v4Bits? (cs : List Char) : Option (BitVec 32) :=
  match (cs.splitOn '.').mapM octet? with
  | some [a, b, c, d] =>
      some (.ofNat 32 (((a * 256 + b) * 256 + c) * 256 + d))
  | _ => none

def isHexDigit (c : Char) : Bool :=
  c.isDigit || ('a' ≤ c && c ≤ 'f') || ('A' ≤ c && c ≤ 'F')

def hexDigitValue (c : Char) : Nat :=
  if c.isDigit then
    c.toNat - 48
  else if 'a' ≤ c then
    c.toNat - 87
  else
    c.toNat - 55

/- At most four hexadecimal digits. -/
def hextet? (cs : List Char) : Option Nat :=
  if cs ≠ [] ∧ cs.all isHexDigit ∧ cs.length ≤ 4 then
    some (ofDigitChars 16 hexDigitValue cs)
  else
    none

/- The parts between colons. A last part with points is read
   as two parts. -/
def v6Parts? (cs : List Char) : Option (List (List Char)) :=
  let parts := cs.splitOn ':'
  if parts.length < 3 then
    none
  else
    match parts.getLast? with
    | none => none
    | some last =>
        if '.' ∈ last then
          (v4Bits? last).map (fun bits =>
            parts.dropLast ++
              [Nat.toDigits 16 (bits.toNat / 65536),
                Nat.toDigits 16 (bits.toNat % 65536)])
        else
          some parts

/- The places of the inner empty parts. -/
def skips (parts : List (List Char)) : List Nat :=
  (List.range parts.length).filter (fun i =>
    0 < i && i + 1 < parts.length && parts[i]? = some [])

/- The parts on one side of the skipped ones: an empty part at
   the end of the text stands alone. -/
def sideOf
    (edge : Option (List Char))
    (side : List (List Char)) :
    Option (List (List Char)) :=
  if edge = some [] then
    if side.length = 1 then some [] else none
  else
    some side

/- The eight hextets that the parts write. -/
def hextets? (parts : List (List Char)) : Option (List Nat) :=
  if 9 < parts.length then
    none
  else
    match skips parts with
    | [] =>
        if parts.length = 8 then
          parts.mapM hextet?
        else
          none
    | [i] => do
        let before ← sideOf parts.head? (parts.take i)
        let after ←
          sideOf parts.getLast? (parts.drop (i + 1))
        let skipped := 8 - (before.length + after.length)
        if skipped < 1 then
          none
        else
          let high ← before.mapM hextet?
          let low ← after.mapM hextet?
          some (high ++ List.replicate skipped 0 ++ low)
    | _ => none

def v6Bits? (cs : List Char) : Option (BitVec 128) :=
  ((v6Parts? cs).bind hextets?).map (fun hextets =>
    .ofNat 128 (hextets.foldl (fun n h => 65536 * n + h) 0))

/- The zone behind a percent sign. -/
def scope? : List Char → Option (Option IpScope)
| [] => some none
| _ :: [] => none
| _ :: c :: cs =>
    if '%' ∈ c :: cs then
      none
    else
      some (some ⟨.ofList (c :: cs), by
        intro hEmpty
        have hChars := congrArg String.toList hEmpty
        simp at hChars⟩)

def v6? (cs : List Char) : Option IpAddress :=
  if '/' ∈ cs then
    none
  else do
    let scope ← scope? (cs.dropWhile (· ≠ '%'))
    let bits ← v6Bits? (cs.takeWhile (· ≠ '%'))
    some (.v6 bits scope)

/- `ip_address(s)` of a string. -/
def ofText? (s : String) : Option IpAddress :=
  match v4Bits? s.toList with
  | some bits => some (.v4 bits)
  | none => v6? s.toList

/- `ip_address(n)` of an integer. -/
def ofInt? (n : Int) : Option IpAddress :=
  if n < 0 then
    none
  else if n < 2 ^ 32 then
    some (.v4 (.ofInt 32 n))
  else if n < 2 ^ 128 then
    some (.v6 (.ofInt 128 n) none)
  else
    none

/- The network address of `ip_network` of an address text and
   a prefix length, with host bits allowed. -/
def networkOf?
    (s : String)
    (len : Int) : Option IpAddress :=
  (ofText? s).bind (fun address =>
    if 0 ≤ len ∧ len ≤ address.maxPrefix then
      some (address.networkAddress len.toNat)
    else
      none)

end IpAddress

------------------------------------------------------------
-- Writing Addresses
------------------------------------------------------------

namespace IpAddress

def v4Text (bits : BitVec 32) : String :=
  ".".intercalate
    ([24, 16, 8, 0].map (fun shift =>
      toString ((bits >>> shift).toNat % 256)))

def hextetsOf (bits : BitVec 128) : List Nat :=
  [112, 96, 80, 64, 48, 32, 16, 0].map (fun shift =>
    (bits >>> shift).toNat % 65536)

/- The zeros that are being read and the first longest run of
   zeros so far. -/
structure ZeroRun where
  bestStart : Nat
  bestLen : Nat
  start : Nat
  len : Nat

def ZeroRun.step
    (run : ZeroRun)
    (hextet : Nat × Nat) : ZeroRun :=
  if hextet.1 = 0 then
    let start := if run.len = 0 then hextet.2 else run.start
    let len := run.len + 1
    if run.bestLen < len then
      ⟨start, len, start, len⟩
    else
      { run with start := start, len := len }
  else
    { run with len := 0 }

/- A run of at least two zeros is written as an empty part. -/
def compressHextets (hextets : List Nat) : List String :=
  let texts :=
    hextets.map (fun h => String.ofList (Nat.toDigits 16 h))
  let run :=
    hextets.zipIdx.foldl ZeroRun.step ⟨0, 0, 0, 0⟩
  if 1 < run.bestLen then
    (if run.bestStart = 0 then [""] else []) ++
      texts.take run.bestStart ++ [""] ++
      texts.drop (run.bestStart + run.bestLen) ++
      (if run.bestStart + run.bestLen = texts.length then
        [""]
      else
        [])
  else
    texts

def v6Text (bits : BitVec 128) : String :=
  ":".intercalate (compressHextets (hextetsOf bits))

def scopeText : Option IpScope → String
| none => ""
| some scope => "%" ++ scope.name

/- `str(address)` -/
def text : IpAddress → String
| .v4 bits => v4Text bits
| .v6 bits scope => v6Text bits ++ scopeText scope

example :
    (ofText? "fe80::1%eth0").map text =
        some "fe80::1%eth0" ∧
      (networkOf? "2001:db8::9:10.0.0.1" 64).map text =
        some "2001:db8::" ∧
      (networkOf? "203.0.113.7" 24).map text =
        some "203.0.113.0" := by
  decide +kernel

end IpAddress

------------------------------------------------------------
-- Prefixes And Zones
------------------------------------------------------------

namespace IpAddress

theorem getMsbD_and_netmask
    {w : Nat}
    (x : BitVec w)
    (len i : Nat) :
    (x &&& netmask w len).getMsbD i =
      (decide (i < len) && x.getMsbD i) := by
  by_cases hWidth : i < w
  · by_cases hLen : i < len
    · simp [netmask, hWidth, hLen]
    · have hRest : i - len < w := by
        omega
      simp [netmask, hWidth, hLen, hRest]
  · simp [BitVec.getMsbD_of_ge x i (by omega)]

/- Two addresses have the same network bits when they agree
   on the first bits. -/
theorem masked_eq_iff
    {w : Nat}
    (x y : BitVec w)
    (len : Nat) :
    x &&& netmask w len = y &&& netmask w len ↔
      ∀ i < len, x.getMsbD i = y.getMsbD i := by
  constructor
  · intro hEq i hLen
    have hBit := congrArg (·.getMsbD i) hEq
    simp only [getMsbD_and_netmask, hLen, decide_true,
      Bool.true_and] at hBit
    exact hBit
  · intro hAgree
    apply BitVec.eq_of_getMsbD_eq
    intro i _
    rw [getMsbD_and_netmask, getMsbD_and_netmask]
    by_cases hLen : i < len
    · rw [hAgree i hLen]
    · simp [hLen]

/- Addresses of one version with the same first bits. -/
def AgreeOn (len : Nat) : IpAddress → IpAddress → Prop
| .v4 x, .v4 y => ∀ i < len, x.getMsbD i = y.getMsbD i
| .v6 x _, .v6 y _ => ∀ i < len, x.getMsbD i = y.getMsbD i
| _, _ => False

/- The zone that is kept in the network address. -/
def keptScope (len : Nat) : IpAddress → Option IpScope
| .v4 _ => none
| .v6 bits scope =>
    if bits &&& netmask 128 len = bits then scope else none

/- The network address of version 6 keeps a zone or none. -/
theorem networkAddress_v6
    (len : Nat)
    (bits : BitVec 128)
    (scope : Option IpScope) :
    (v6 bits scope).networkAddress len =
      .v6 (bits &&& netmask 128 len)
        ((v6 bits scope).keptScope len) := by
  by_cases hClear : bits &&& netmask 128 len = bits
  · simp [networkAddress, keptScope, hClear]
  · simp [networkAddress, keptScope, hClear]

theorem text_networkAddress_v6
    (bits : BitVec 128)
    (scope : Option IpScope)
    (len : Nat) :
    ((v6 bits scope).networkAddress len).text =
      v6Text (bits &&& netmask 128 len) ++
        scopeText ((v6 bits scope).keptScope len) := by
  rw [networkAddress_v6, text]

theorem scopeText_inj
    {scope scope' : Option IpScope} :
    scopeText scope = scopeText scope' ↔ scope = scope' := by
  have hOpen :
      ∀ s : IpScope, scopeText (some s) ≠ scopeText none := by
    intro s hEq
    have hChars := congrArg String.toList hEq
    simp [scopeText] at hChars
  constructor
  · intro hEq
    cases scope with
    | none =>
        cases scope' with
        | none => rfl
        | some s' => exact absurd hEq.symm (hOpen s')
    | some s =>
        cases scope' with
        | none => exact absurd hEq (hOpen s)
        | some s' =>
            have hName :=
              (String.append_right_inj "%").1 hEq
            cases s
            cases s'
            simp_all
  · intro hEq
    rw [hEq]

/- The network addresses of addresses with the same network
   bits are written alike exactly when they keep the same
   zone. -/
theorem text_networkAddress_eq_iff
    {len : Nat}
    {a b : IpAddress}
    (hAgree : AgreeOn len a b) :
    (a.networkAddress len).text =
        (b.networkAddress len).text ↔
      a.keptScope len = b.keptScope len := by
  cases a with
  | v4 x =>
      cases b with
      | v4 y =>
          have hMasked := (masked_eq_iff x y len).2 hAgree
          simp [networkAddress, keptScope, hMasked]
      | v6 y scope => exact hAgree.elim
  | v6 x scope =>
      cases b with
      | v4 y => exact hAgree.elim
      | v6 y scope' =>
          have hMasked := (masked_eq_iff x y len).2 hAgree
          rw [text_networkAddress_v6,
            text_networkAddress_v6, hMasked,
            String.append_right_inj, scopeText_inj]

end IpAddress

------------------------------------------------------------
-- Networks Of Networks
------------------------------------------------------------

namespace IpAddress

/- A bit, counted from the front. -/
def bit : IpAddress → Nat → Bool
| .v4 bits, i => bits.getMsbD i
| .v6 bits _, i => bits.getMsbD i

def SameVersion : IpAddress → IpAddress → Prop
| .v4 _, .v4 _ => True
| .v6 _ _, .v6 _ _ => True
| _, _ => False

/- The bits of a longer prefix include those of a shorter. -/
theorem and_netmask_and_netmask
    {w k len : Nat}
    (hLe : k ≤ len)
    (x : BitVec w) :
    x &&& netmask w len &&& netmask w k =
      x &&& netmask w k := by
  rw [masked_eq_iff]
  intro i hInside
  rw [getMsbD_and_netmask, decide_eq_true (by omega),
    Bool.true_and]

@[simp] theorem networkAddress_networkAddress
    (len : Nat)
    (a : IpAddress) :
    (a.networkAddress len).networkAddress len =
      a.networkAddress len := by
  cases a with
  | v4 bits =>
      rw [networkAddress, networkAddress,
        and_netmask_and_netmask (Nat.le_refl len)]
  | v6 bits scope =>
      have hSame :=
        and_netmask_and_netmask (Nat.le_refl len) bits
      rw [networkAddress_v6, networkAddress_v6, hSame]
      generalize (v6 bits scope).keptScope len = kept
      rw [keptScope, if_pos hSame]

theorem sameVersion_networkAddress
    (len : Nat)
    (a : IpAddress) :
    (a.networkAddress len).SameVersion a := by
  cases a with
  | v4 bits => trivial
  | v6 bits scope =>
      rw [networkAddress_v6]
      trivial

/- No bit behind the prefix is set. -/
theorem bit_networkAddress
    {len i : Nat}
    (hBehind : len ≤ i)
    (a : IpAddress) :
    (a.networkAddress len).bit i = false := by
  have hClear :
      ∀ (w : Nat) (x : BitVec w),
        (x &&& netmask w len).getMsbD i = false := by
    intro w x
    rw [getMsbD_and_netmask, decide_eq_false (by omega),
      Bool.false_and]
  cases a with
  | v4 bits => exact hClear 32 bits
  | v6 bits scope =>
      rw [networkAddress_v6]
      exact hClear 128 (bits)

/- The prefix that tells multicast addresses. -/
def multicastPrefix : IpAddress → Nat
| .v4 _ => 4
| .v6 _ _ => 8

/- A network of a long prefix is multicast when its address
   is. -/
theorem isMulticast_networkAddress
    {len : Nat}
    {a : IpAddress}
    (hLong : a.multicastPrefix ≤ len) :
    (a.networkAddress len).isMulticast = a.isMulticast := by
  cases a with
  | v4 bits =>
      rw [multicastPrefix] at hLong
      rw [networkAddress, isMulticast, isMulticast,
        and_netmask_and_netmask hLong]
  | v6 bits scope =>
      rw [multicastPrefix] at hLong
      rw [networkAddress_v6, isMulticast, isMulticast,
        and_netmask_and_netmask hLong]

/- The network tells the first bits and the kept zone. -/
theorem networkAddress_eq_iff
    {len : Nat}
    {a b : IpAddress}
    (hVersion : a.SameVersion b) :
    a.networkAddress len = b.networkAddress len ↔
      AgreeOn len a b ∧ a.keptScope len = b.keptScope len := by
  cases a with
  | v4 x =>
      cases b with
      | v4 y =>
          simp only [networkAddress, keptScope, AgreeOn,
            v4.injEq, masked_eq_iff, and_true]
      | v6 y scope => exact hVersion.elim
  | v6 x scope =>
      cases b with
      | v4 y => exact hVersion.elim
      | v6 y scope' =>
          rw [networkAddress_v6, networkAddress_v6, v6.injEq,
            masked_eq_iff, AgreeOn]

end IpAddress

------------------------------------------------------------
-- Separators
------------------------------------------------------------

namespace IpAddress

/- Texts joined by a separator contain it. -/
theorem mem_intercalate
    {c : Char}
    {separator : String}
    (hSeparator : c ∈ separator.toList)
    (t t' : String)
    (ts : List String) :
    c ∈ (separator.intercalate (t :: t' :: ts)).toList := by
  rw [String.intercalate_cons_cons, String.toList_append,
    String.toList_append]
  simp [hSeparator]

theorem two_le_length_compressHextets
    (hextets : List Nat)
    (hEight : hextets.length = 8) :
    2 ≤ (compressHextets hextets).length := by
  unfold compressHextets
  simp only
  split
  · split
    · simp only [List.length_append, List.length_cons,
        List.length_nil]
      omega
    · rename_i hStart
      simp only [List.length_append, List.length_cons,
        List.length_nil, List.length_take, List.length_map,
        hEight]
      omega
  · simp [hEight]

theorem colon_mem_v6Text
    (bits : BitVec 128) :
    ':' ∈ (v6Text bits).toList := by
  have hLength :=
    two_le_length_compressHextets (hextetsOf bits)
      (by simp [hextetsOf])
  unfold v6Text
  match hParts : compressHextets (hextetsOf bits) with
  | [] => simp [hParts] at hLength
  | [_] => simp [hParts] at hLength
  | t :: t' :: ts => exact mem_intercalate (by simp) t t' ts

/- Every address is written with a separator. -/
theorem separator_mem_text
    (a : IpAddress) :
    '.' ∈ a.text.toList ∨ ':' ∈ a.text.toList := by
  cases a with
  | v4 bits =>
      apply Or.inl
      rw [text, v4Text, List.map_cons, List.map_cons]
      exact mem_intercalate (by simp) _ _ _
  | v6 bits scope =>
      rw [text, String.toList_append]
      exact
        .inr
          (List.mem_append_left _ (colon_mem_v6Text bits))

/- A text without separators writes no address. -/
theorem ofText?_of_no_separator
    {s : String}
    (hDot : '.' ∉ s.toList)
    (hColon : ':' ∉ s.toList) :
    ofText? s = none := by
  have hOctets : s.toList.splitOn '.' = [s.toList] := by
    apply List.splitOnP_eq_singleton
    intro c hMem
    simpa using fun hEq : c = '.' => hDot (hEq ▸ hMem)
  have hParts :
      (s.toList.takeWhile (· ≠ '%')).splitOn ':' =
        [s.toList.takeWhile (· ≠ '%')] := by
    apply List.splitOnP_eq_singleton
    intro c hMem
    have hText :=
      (List.takeWhile_sublist (· ≠ '%')).subset hMem
    simpa using fun hEq : c = ':' => hColon (hEq ▸ hText)
  have hV4 : v4Bits? s.toList = none := by
    rw [v4Bits?, hOctets]
    cases hOctet : octet? s.toList <;>
      simp [hOctet]
  have hV6 : v6Bits? (s.toList.takeWhile (· ≠ '%')) = none := by
    rw [v6Bits?, v6Parts?, hParts]
    rfl
  simp only [ofText?, hV4]
  unfold v6?
  split
  · rfl
  · cases scope? (s.toList.dropWhile (· ≠ '%')) with
    | none => rfl
    | some scope =>
        simp only [hV6]
        rfl

end IpAddress
