import FraudStream.Ingestion.PiiMasker
import FraudStream.Library.IpText

/-
  What a truncated address tells of the address.

  The truncated address has the bits of the prefix and no
  other bits, is accepted and is not changed by truncating
  it again. It tells the zone of an address without host
  bits as well.

  Key definitions include:
    * `MaskingConfig.InRange`
    * `KeepsPrefix`
    * `TellsPrefixOnly`

  The main results are:
    * `truncateIp_of_ofText?`
    * `keepsPrefix_of_ofText?`
    * `tellsPrefixOnly_iff`
-/

------------------------------------------------------------
-- Truncated Addresses
------------------------------------------------------------

namespace FraudStream

/- Prefixes that are long enough to tell multicast addresses
   and short enough for addresses. -/
structure MaskingConfig.InRange
    (cfg : MaskingConfig) : Prop where
  ipv4Prefix_ge : 4 ≤ cfg.ipv4Prefix
  ipv4Prefix_le : cfg.ipv4Prefix ≤ 32
  ipv6Prefix_ge : 8 ≤ cfg.ipv6Prefix
  ipv6Prefix_le : cfg.ipv6Prefix ≤ 128

/- The length of the prefix of an address. -/
def MaskingConfig.prefixLength
    (cfg : MaskingConfig)
    (a : IpAddress) : Nat :=
  (cfg.prefixFor a).toNat

section Prefixes

variable {cfg : MaskingConfig}
variable (hRange : cfg.InRange)

include hRange

theorem MaskingConfig.InRange.fits
    (a : IpAddress) :
    0 ≤ cfg.prefixFor a ∧
      cfg.prefixFor a ≤ a.maxPrefix := by
  have hLow := hRange.ipv4Prefix_ge
  have hLow' := hRange.ipv6Prefix_ge
  cases a with
  | v4 bits =>
      exact ⟨by rw [prefixFor]; omega, hRange.ipv4Prefix_le⟩
  | v6 bits scope =>
      exact ⟨by rw [prefixFor]; omega, hRange.ipv6Prefix_le⟩

theorem MaskingConfig.InRange.multicastPrefix_le
    (a : IpAddress) :
    a.multicastPrefix ≤ cfg.prefixLength a := by
  have hLow := hRange.ipv4Prefix_ge
  have hLow' := hRange.ipv6Prefix_ge
  cases a with
  | v4 bits =>
      rw [prefixLength, prefixFor,
        IpAddress.multicastPrefix]
      omega
  | v6 bits scope =>
      rw [prefixLength, prefixFor,
        IpAddress.multicastPrefix]
      omega

end Prefixes

theorem prefixLength_of_sameVersion
    {a b : IpAddress}
    (cfg : MaskingConfig)
    (hVersion : a.SameVersion b) :
    cfg.prefixLength a = cfg.prefixLength b := by
  cases a with
  | v4 x =>
      cases b with
      | v4 y => rfl
      | v6 y scope => exact hVersion.elim
  | v6 x scope =>
      cases b with
      | v4 y => exact hVersion.elim
      | v6 y scope => rfl

section Truncation

variable (table : TextTable)
variable {cfg : MaskingConfig}
variable (hRange : cfg.InRange)
variable {s : String}
variable {a : IpAddress}
variable (hRead : IpAddress.ofText? s = some a)
variable (hStored : a.isMulticast = false)

include hRange hRead hStored

/- An address that is not multicast gives its network. -/
theorem truncateIp_of_ofText? :
    truncateIp table cfg (.str s) =
      .ok (a.networkAddress (cfg.prefixLength a)).text := by
  have hNetwork :
      IpAddress.networkOf? s (cfg.prefixFor a) =
        some (a.networkAddress (cfg.prefixLength a)) := by
    rw [IpAddress.networkOf?, hRead, Option.bind_some,
      if_pos (hRange.fits a)]
    rfl
  unfold truncateIp
  simp only [ipAddress?, hRead, hStored,
    Bool.false_eq_true, if_false, JsonValue.text, hNetwork]

omit hRange hStored in
/- The text of the network is read back as the network. -/
theorem ofText?_truncated
    (len : Nat) :
    IpAddress.ofText? (a.networkAddress len).text =
      some (a.networkAddress len) :=
  IpAddress.ofText?_text
    (IpAddress.scopeIsPlain_networkAddress
      (IpAddress.scopeIsPlain_of_ofText? hRead) len)

end Truncation

/- The result for an address is an address of its version
   with zeros behind the prefix, and truncating it again does
   not change it. -/
def KeepsPrefix
    (table : TextTable)
    (cfg : MaskingConfig)
    (s : String)
    (a : IpAddress) : Prop :=
  ∃ r n,
    truncateIp table cfg (.str s) = .ok r ∧
      IpAddress.ofText? r = some n ∧
      n.SameVersion a ∧
      (∀ i, cfg.prefixLength a ≤ i → n.bit i = false) ∧
      truncateIp table cfg (.str r) = .ok r

/- The results for two addresses are equal exactly when they
   agree on the bits of the prefix. -/
def TellsPrefixOnly
    (table : TextTable)
    (cfg : MaskingConfig)
    (s t : String)
    (a b : IpAddress) : Prop :=
  (truncateIp table cfg (.str s) =
        truncateIp table cfg (.str t) ↔
      IpAddress.AgreeOn (cfg.prefixLength a) a b) ∧
    KeepsPrefix table cfg s a ∧
    KeepsPrefix table cfg t b

section Truncation

variable (table : TextTable)
variable {cfg : MaskingConfig}
variable (hRange : cfg.InRange)

include hRange

/- Masking never makes an address multicast. -/
theorem keepsPrefix_of_ofText?
    {s : String}
    {a : IpAddress}
    (hRead : IpAddress.ofText? s = some a)
    (hStored : a.isMulticast = false) :
    KeepsPrefix table cfg s a := by
  have hBack := ofText?_truncated hRead (cfg.prefixLength a)
  have hVersion :=
    IpAddress.sameVersion_networkAddress
      (cfg.prefixLength a) a
  have hStoredBack :
      (a.networkAddress (cfg.prefixLength a)).isMulticast =
        false := by
    rw [IpAddress.isMulticast_networkAddress
      (hRange.multicastPrefix_le a), hStored]
  refine
    ⟨_, _, truncateIp_of_ofText? table hRange hRead hStored,
      hBack, hVersion, ?_, ?_⟩
  · exact
      fun i hBehind => IpAddress.bit_networkAddress hBehind a
  · rw [truncateIp_of_ofText? table hRange hBack hStoredBack,
      prefixLength_of_sameVersion cfg hVersion,
      IpAddress.networkAddress_networkAddress]

section Pairs

variable {s t : String}
variable {a b : IpAddress}
variable (hLeft : IpAddress.ofText? s = some a)
variable (hRight : IpAddress.ofText? t = some b)
variable (hVersion : a.SameVersion b)
variable (hStoredLeft : a.isMulticast = false)
variable (hStoredRight : b.isMulticast = false)

include hLeft hRight hVersion hStoredLeft hStoredRight

/- The results are equal when the first bits and the kept
   zones are. -/
theorem truncateIp_eq_iff :
    truncateIp table cfg (.str s) =
        truncateIp table cfg (.str t) ↔
      IpAddress.AgreeOn (cfg.prefixLength a) a b ∧
        a.keptScope (cfg.prefixLength a) =
          b.keptScope (cfg.prefixLength a) := by
  have hPlain :
      ∀ {u : String} {c : IpAddress},
        IpAddress.ofText? u = some c →
        (c.networkAddress
          (cfg.prefixLength a)).ScopeIsPlain :=
    fun hRead =>
      IpAddress.scopeIsPlain_networkAddress
        (IpAddress.scopeIsPlain_of_ofText? hRead) _
  rw [truncateIp_of_ofText? table hRange hLeft hStoredLeft,
    truncateIp_of_ofText? table hRange hRight hStoredRight,
    ← prefixLength_of_sameVersion cfg hVersion,
    Except.ok.injEq,
    IpAddress.text_inj (hPlain hLeft) (hPlain hRight),
    IpAddress.networkAddress_eq_iff hVersion]

/- The result tells the prefix and nothing else when
   addresses with the same prefix keep the same zone. -/
theorem tellsPrefixOnly_iff :
    TellsPrefixOnly table cfg s t a b ↔
      (IpAddress.AgreeOn (cfg.prefixLength a) a b →
        a.keptScope (cfg.prefixLength a) =
          b.keptScope (cfg.prefixLength a)) := by
  have hKeepsLeft :=
    keepsPrefix_of_ofText? table hRange hLeft hStoredLeft
  have hKeepsRight :=
    keepsPrefix_of_ofText? table hRange hRight hStoredRight
  rw [TellsPrefixOnly,
    truncateIp_eq_iff table hRange hLeft hRight hVersion
      hStoredLeft hStoredRight,
    and_iff_left_iff_imp]
  exact and_iff_left ⟨hKeepsLeft, hKeepsRight⟩

end Pairs

end Truncation

instance (len : Nat) (a b : IpAddress) :
    Decidable (IpAddress.AgreeOn len a b) := by
  unfold IpAddress.AgreeOn
  split <;> infer_instance

/- The prefixes of 24 and 64 bits. -/
def defaultMasking : MaskingConfig :=
  ⟨24, 64⟩

theorem inRange_defaultMasking : defaultMasking.InRange :=
  ⟨by decide, by decide, by decide, by decide⟩

/- Two hosts of a network. -/
theorem hosts_tell_prefix :
    TellsPrefixOnly ⟨fun _ => false, fun _ => ""⟩
      defaultMasking "203.0.113.7" "203.0.113.200"
      (.v4 0xcb007107#32) (.v4 0xcb0071c8#32) :=
  (tellsPrefixOnly_iff (a := .v4 0xcb007107#32)
    (b := .v4 0xcb0071c8#32) _ inRange_defaultMasking
    (by decide +kernel) (by decide +kernel) trivial
    (by decide) (by decide)).2
    (fun _ => rfl)

/- Two hosts of a network, one of them without host bits, are
   told apart by their zone. -/
theorem zone_tells_hosts_apart :
    let table : TextTable := ⟨fun _ => false, fun _ => ""⟩
    let a : IpAddress :=
      .v6 (0xfe80#128 <<< 112) (some ⟨"eth0", by decide⟩)
    let b : IpAddress :=
      .v6 (0xfe80#128 <<< 112 ||| 1#128)
        (some ⟨"eth0", by decide⟩)
    truncateIp table defaultMasking (.str "fe80::%eth0") =
        .ok "fe80::%eth0" ∧
      truncateIp table defaultMasking
          (.str "fe80::1%eth0") =
        .ok "fe80::" ∧
      IpAddress.AgreeOn 64 a b ∧
      ¬ TellsPrefixOnly table defaultMasking "fe80::%eth0"
        "fe80::1%eth0" a b := by
  intro table a b
  have hLeft : IpAddress.ofText? "fe80::%eth0" = some a := by
    decide +kernel
  have hRight :
      IpAddress.ofText? "fe80::1%eth0" = some b := by
    decide +kernel
  have hFirst :
      truncateIp table defaultMasking (.str "fe80::%eth0") =
        .ok "fe80::%eth0" := by
    rw [truncateIp_of_ofText? table inRange_defaultMasking
      hLeft (by decide)]
    exact congrArg Except.ok (by decide +kernel)
  have hSecond :
      truncateIp table defaultMasking
          (.str "fe80::1%eth0") =
        .ok "fe80::" := by
    rw [truncateIp_of_ofText? table inRange_defaultMasking
      hRight (by decide)]
    exact congrArg Except.ok (by decide +kernel)
  have hAgree : IpAddress.AgreeOn 64 a b := by
    decide +kernel
  refine ⟨hFirst, hSecond, hAgree, ?_⟩
  intro hTells
  have hSame := hTells.1.2 hAgree
  rw [hFirst, hSecond] at hSame
  exact absurd (Except.ok.inj hSame) (by decide)

end FraudStream
