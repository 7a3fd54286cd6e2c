import FraudStream.Ingestion.Producer

/-
  Why a payload is rejected.

  A payload is rejected by the first check of its card
  number or of its address that fails. The exception tells
  the check, and for most checks it quotes the field.

  Key definitions include:
    * `Rejection`
    * `panRejection?`
    * `ipRejection?`
    * `rejection?`

  The main results are:
    * `maskPan_of_rejection`
    * `maskPan_of_none`
    * `maskIp_of_rejection`
    * `maskIp_of_none`
    * `Rejection.error_inj`
-/

------------------------------------------------------------
-- Rejections
------------------------------------------------------------

namespace FraudStream

/- The check that rejects a payload and what it quotes. -/
inductive Rejection where
| panMissing
| panType : (typeName : String) → Rejection
| panNotDigits : (pan : String) → Rejection
| panLength : (length : Nat) → Rejection
| panDigit : (ch : Char) → Rejection
| panLuhn
| ipMissing
| ipNoAddress : (quoted : String) → Rejection
| ipMulticast : (quoted : String) → Rejection
| ipNoNetwork : (network : String) → Rejection
deriving DecidableEq

/- The exception of a rejection. -/
def Rejection.error
    (table : TextTable) : Rejection → PublishError
| .panMissing =>
    .masking "PAN masking failed: 'card_number'"
| .panType typeName =>
    .masking
      ("PAN masking failed: " ++
        ("expected string or bytes-like object, got '" ++
          typeName ++ "'"))
| .panNotDigits pan =>
    .invalidPan
      ("PAN contains non-digit characters: " ++
        PyText.repr table.isPrintable pan)
| .panLength length =>
    .invalidPan
      ("PAN length " ++ toString length ++
        " is invalid (expected 15 or 16 digits)")
| .panDigit ch =>
    .masking
      ("PAN masking failed: " ++
        ("invalid literal for int() with base 10: " ++
          PyText.repr table.isPrintable (.ofList [ch])))
| .panLuhn => .invalidPan "Luhn check failed"
| .ipMissing => .masking "IP masking failed: 'caller_ip'"
| .ipNoAddress quoted =>
    .masking
      ("IP masking failed: " ++
        (quoted ++
          " does not appear to be an IPv4 or IPv6 " ++
          "address"))
| .ipMulticast quoted =>
    .masking
      ("IP masking failed: " ++
        ("Multicast addresses must not be stored: " ++
          quoted))
| .ipNoNetwork network =>
    .masking
      ("IP masking failed: " ++
        (PyText.repr table.isPrintable network ++
          " does not appear to be an IPv4 or IPv6 " ++
          "network"))

/- A digit that is no decimal digit. -/
def isMarkedDigit (ch : Char) : Bool :=
  (Decimal.digit? ch).isNone

/- The Luhn sum of decimal digits. -/
def luhnSum (digits : String) : Nat :=
  (digits.toList.reverse.zipIdx.map (fun ch =>
    luhnTerm ch.2 ((Decimal.digit? ch.1).getD 0))).sum

/- The checks of a text, separators already stripped. The
   Luhn sum starts from the right. -/
def digitsRejection? (pan : String) : Option Rejection :=
  let digits := stripSeparators pan
  let length := digits.toList.length
  if !isDigits digits then
    some (.panNotDigits pan)
  else if length ≠ 15 ∧ length ≠ 16 then
    some (.panLength length)
  else
    match digits.toList.reverse.find? isMarkedDigit with
    | some ch => some (.panDigit ch)
    | none =>
        if luhnSum digits % 10 = 0 then
          none
        else
          some .panLuhn

/- The checks of a card number. -/
def panRejection? : Option JsonValue → Option Rejection
| none => some .panMissing
| some (.str s) => digitsRejection? (stripSeparators s)
| some v => some (.panType v.typeName)

/- The checks of an address. -/
def ipRejection?
    (table : TextTable)
    (cfg : MaskingConfig) :
    Option JsonValue → Option Rejection
| none => some .ipMissing
| some ip =>
    match ipAddress? ip with
    | none => some (.ipNoAddress (ip.repr table))
    | some addr =>
        if addr.isMulticast then
          some (.ipMulticast (ip.repr table))
        else
          let len := cfg.prefixFor addr
          match IpAddress.networkOf? (ip.text table) len with
          | none =>
              some
                (.ipNoNetwork
                  (ip.text table ++ "/" ++ toString len))
          | some _ => none

/- The first check that rejects a payload. -/
def rejection?
    (table : TextTable)
    (cfg : MaskingConfig)
    (payload : JsonObject) : Option Rejection :=
  (panRejection? (payload.get? "card_number")).or
    (ipRejection? table cfg (payload.get? "caller_ip"))

end FraudStream

------------------------------------------------------------
-- The Masks Fail By The Rejections
------------------------------------------------------------

namespace FraudStream

section Masks

variable (table : TextTable)

theorem mapM_luhnTerm
    (cs : List (Char × Nat)) :
    cs.mapM (fun ch =>
        (digitOf table ch.1).map (luhnTerm ch.2)) =
      match (cs.map Prod.fst).find? isMarkedDigit with
      | some ch => .error (invalidLiteral table ch)
      | none =>
          .ok
            (cs.map (fun ch =>
              luhnTerm ch.2
                ((Decimal.digit? ch.1).getD 0))) := by
  induction cs with
  | nil => rfl
  | cons c cs ih =>
      rw [List.mapM_cons, ih]
      cases hDigit : Decimal.digit? c.1 with
      | none =>
          simp [digitOf, isMarkedDigit, hDigit,
            Except.map]
          rfl
      | some n =>
          have hPlain : isMarkedDigit c.1 = false := by
            simp [isMarkedDigit, hDigit]
          rw [List.map_cons, List.find?_cons_of_neg (by
            simp [hPlain])]
          simp only [digitOf, hDigit, Except.map]
          cases (cs.map Prod.fst).find? isMarkedDigit with
          | none => simp [hDigit]; rfl
          | some ch => rfl

/- The Luhn check fails at the last digit that is no decimal
   digit. -/
theorem luhnValid_eq
    (digits : String) :
    luhnValid table digits =
      match digits.toList.reverse.find? isMarkedDigit with
      | some ch => .error (invalidLiteral table ch)
      | none => .ok (luhnSum digits % 10 = 0) := by
  rw [luhnValid, mapM_luhnTerm, List.zipIdx_map_fst]
  cases digits.toList.reverse.find? isMarkedDigit with
  | none => rfl
  | some ch => rfl

open TransactionEventBuilder

/- A text that is rejected raises the exception of its
   rejection. -/
theorem extractPanParts_of_rejection
    {pan : String}
    {r : Rejection}
    (hRejected : digitsRejection? pan = some r) :
    ∃ fault,
      extractPanParts table pan = .error fault ∧
        panFailure fault = r.error table := by
  unfold digitsRejection? at hRejected
  unfold extractPanParts
  simp only [luhnValid_eq] at hRejected ⊢
  split at hRejected
  · rename_i hDigits
    cases hRejected
    exact ⟨_, if_pos hDigits, rfl⟩
  · rename_i hDigits
    rw [if_neg hDigits]
    split at hRejected
    · rename_i hLength
      cases hRejected
      exact ⟨_, if_pos hLength, rfl⟩
    · rename_i hLength
      rw [if_neg hLength]
      split at hRejected
      · cases hRejected
        exact ⟨_, rfl, rfl⟩
      · split at hRejected
        · cases hRejected
        · rename_i hSum
          cases hRejected
          rw [decide_eq_false hSum]
          exact ⟨_, rfl, rfl⟩

/- A text that is not rejected gives its parts. -/
theorem extractPanParts_of_none
    {pan : String}
    (hNone : digitsRejection? pan = none) :
    let digits := (stripSeparators pan).toList
    extractPanParts table pan =
      .ok
        (.ofList (digits.take 6),
          .ofList (digits.drop (digits.length - 4))) := by
  unfold digitsRejection? at hNone
  unfold extractPanParts
  simp only [luhnValid_eq] at hNone ⊢
  split at hNone
  · cases hNone
  · rename_i hDigits
    rw [if_neg hDigits]
    split at hNone
    · cases hNone
    · rename_i hLength
      rw [if_neg hLength]
      split at hNone
      · cases hNone
      · split at hNone
        · rename_i hSum
          rw [decide_eq_true hSum]
        · cases hNone

/- The mask of a card number hands on what its parts are. -/
theorem mask_eq_map
    (raw : RawPAN) :
    raw.mask table =
      (extractPanParts table raw.digits).map
        (fun parts =>
          ⟨parts.1, parts.2, raw.digits.toList.length⟩) := by
  delta RawPAN.mask
  cases extractPanParts table raw.digits with
  | error fault => rfl
  | ok parts => rfl

/- A card number that is rejected raises the exception of its
   rejection. -/
theorem maskPan_of_rejection
    {payload : JsonObject}
    {r : Rejection}
    (hRejected :
      panRejection? (payload.get? "card_number") = some r) :
    maskPan table payload = .error (r.error table) := by
  unfold maskPan
  cases hCard : payload.get? "card_number" with
  | none =>
      rw [hCard] at hRejected
      cases hRejected
      rfl
  | some card =>
      rw [hCard] at hRejected
      cases card with
      | str s =>
          have hText :
              digitsRejection? (stripSeparators s) =
                some r :=
            hRejected
          rcases extractPanParts_of_rejection table hText with
            ⟨fault, hFault, hError⟩
          simp only [RawPAN.ofJson, bind, Except.bind,
            mask_eq_map, Except.map, hFault, hError]
      | null => cases hRejected; rfl
      | bool b => cases hRejected; rfl
      | int n => cases hRejected; rfl
      | float f => cases hRejected; rfl
      | list xs => cases hRejected; rfl
      | dict es => cases hRejected; rfl

/- A card number that is not rejected is a text, and keeps its
   first six and last four digits. -/
theorem maskPan_of_none
    {payload : JsonObject}
    (hNone :
      panRejection? (payload.get? "card_number") = none) :
    ∃ s,
      payload.get? "card_number" = some (.str s) ∧
        let pan := stripSeparators s
        let digits := (stripSeparators pan).toList
        maskPan table payload =
          .ok
            ⟨.ofList (digits.take 6),
              .ofList (digits.drop (digits.length - 4)),
              pan.toList.length⟩ := by
  unfold maskPan
  cases hCard : payload.get? "card_number" with
  | none =>
      rw [hCard] at hNone
      cases hNone
  | some card =>
      rw [hCard] at hNone
      cases card with
      | str s =>
          have hText :
              digitsRejection? (stripSeparators s) = none :=
            hNone
          have hParts := extractPanParts_of_none table hText
          refine ⟨s, rfl, ?_⟩
          simp only [RawPAN.ofJson, bind, Except.bind,
            mask_eq_map, Except.map, hParts]
      | null => cases hNone
      | bool b => cases hNone
      | int n => cases hNone
      | float f => cases hNone
      | list xs => cases hNone
      | dict es => cases hNone

/- An address that is rejected raises the exception of its
   rejection. -/
theorem maskIp_of_rejection
    {cfg : MaskingConfig}
    {payload : JsonObject}
    {r : Rejection}
    (hRejected :
      ipRejection? table cfg (payload.get? "caller_ip") =
        some r) :
    maskIp table cfg payload = .error (r.error table) := by
  unfold maskIp
  unfold ipRejection? at hRejected
  cases hIp : payload.get? "caller_ip" with
  | none =>
      rw [hIp] at hRejected
      cases hRejected
      rfl
  | some ip =>
      simp only [hIp] at hRejected ⊢
      unfold truncateIp
      cases hAddress : ipAddress? ip with
      | none =>
          simp only [hAddress] at hRejected ⊢
          cases hRejected
          rfl
      | some addr =>
          simp only [hAddress] at hRejected ⊢
          split at hRejected
          · rename_i hMulticast
            cases hRejected
            rw [if_pos hMulticast]
            rfl
          · rename_i hUnicast
            rw [if_neg hUnicast]
            cases hNetwork :
                IpAddress.networkOf? (ip.text table)
                  (cfg.prefixFor addr) with
            | none =>
                simp only [hNetwork] at hRejected ⊢
                cases hRejected
                rfl
            | some network =>
                simp only [hNetwork] at hRejected
                cases hRejected

/- An address that is not rejected is truncated to the text of
   its network. -/
theorem maskIp_of_none
    {cfg : MaskingConfig}
    {payload : JsonObject}
    (hNone :
      ipRejection? table cfg (payload.get? "caller_ip") =
        none) :
    ∃ ip addr network,
      payload.get? "caller_ip" = some ip ∧
        ipAddress? ip = some addr ∧
        IpAddress.networkOf? (ip.text table)
            (cfg.prefixFor addr) = some network ∧
        maskIp table cfg payload = .ok network.text := by
  unfold ipRejection? at hNone
  cases hIp : payload.get? "caller_ip" with
  | none =>
      rw [hIp] at hNone
      cases hNone
  | some ip =>
      simp only [hIp] at hNone
      cases hAddress : ipAddress? ip with
      | none =>
          simp only [hAddress] at hNone
          cases hNone
      | some addr =>
          simp only [hAddress] at hNone
          split at hNone
          · cases hNone
          · rename_i hUnicast
            split at hNone
            · cases hNone
            · rename_i network hNetwork
              refine
                ⟨ip, addr, network, rfl, hAddress, hNetwork,
                  ?_⟩
              simp only [maskIp, hIp, truncateIp, hAddress,
                if_neg hUnicast, hNetwork]

end Masks

end FraudStream

------------------------------------------------------------
-- The Exceptions Tell The Rejections Apart
------------------------------------------------------------

namespace FraudStream

/- The number of a rejection's check. -/
def Rejection.code : Rejection → Nat
| .panMissing => 0
| .panType _ => 1
| .panNotDigits _ => 2
| .panLength _ => 3
| .panDigit _ => 4
| .panLuhn => 5
| .ipMissing => 6
| .ipNoAddress _ => 7
| .ipMulticast _ => 8
| .ipNoNetwork _ => 9

/- The check that an exception is read as. -/
def checkOf : PublishError → Nat
| .invalidPan message =>
    let cs := message.toList
    if cs[4]? = some 'c' then
      2
    else if cs[4]? = some 'l' then
      3
    else
      5
| .masking message =>
    let cs := message.toList
    if cs[0]? = some 'P' then
      if cs[20]? = some '\'' then
        0
      else if cs[20]? = some 'e' then
        1
      else
        4
    else if cs.getLast? = some 's' then
      7
    else if cs.getLast? = some 'k' then
      9
    else if cs[19]? = some 'M' then
      8
    else
      6
| .raised _ => 10

/- The quotation of a multicast address does not end like the
   other texts. -/
def Rejection.EndsQuoted : Rejection → Prop
| .ipMulticast quoted =>
    quoted.toList.getLast? ≠ some 's' ∧
      quoted.toList.getLast? ≠ some 'k'
| _ => True

/- The check is read back from the exception. -/
theorem checkOf_error
    (table : TextTable)
    {r : Rejection}
    (hEnds : r.EndsQuoted) :
    checkOf (r.error table) = r.code := by
  cases r with
  | ipMulticast quoted =>
      rcases hEnds with ⟨hS, hK⟩
      cases hLast : quoted.toList.getLast? with
      | none =>
          simp [Rejection.error, checkOf, Rejection.code,
            List.getLast?_cons, hLast]
      | some c =>
          rw [hLast] at hS hK
          simp only [ne_eq, Option.some.injEq] at hS hK
          simp [Rejection.error, checkOf, Rejection.code,
            List.getLast?_cons, hLast, hS, hK]
  | _ =>
      simp [Rejection.error, checkOf, Rejection.code,
        List.getLast?_cons, List.getLast?_append]

/- The text of a length is read back digit by digit. -/
theorem length_eq_of_panLength_error
    (table : TextTable)
    {m n : Nat}
    (hError :
      (Rejection.panLength m).error table =
        (Rejection.panLength n).error table) :
    m = n := by
  have hText : m.repr = n.repr := by
    simpa [Rejection.error] using hError
  have hDigits : Nat.toDigits 10 m = Nat.toDigits 10 n := by
    have hChars := congrArg String.toList hText
    simpa [Nat.toList_repr] using hChars
  have hRead :=
    congrArg (Nat.ofDigitChars 10 · 0) hDigits
  simpa [Nat.ofDigitChars_ten_toDigits] using hRead

/- Exceptions with the same text have the same rejection. -/
theorem Rejection.error_inj
    (table : TextTable)
    {r r' : Rejection}
    (hEnds : r.EndsQuoted)
    (hEnds' : r'.EndsQuoted) :
    r.error table = r'.error table ↔ r = r' := by
  constructor
  · intro hEq
    have hCode : r.code = r'.code := by
      rw [← checkOf_error table hEnds,
        ← checkOf_error table hEnds', hEq]
    cases r with
    | panLength length =>
        cases r' with
        | panLength length' =>
            rw [length_eq_of_panLength_error table hEq]
        | _ => simp [Rejection.code] at hCode
    | _ =>
        cases r' <;>
          simp_all [Rejection.code, Rejection.error,
            PyText.repr_inj]
  · intro hEq
    rw [hEq]

end FraudStream
