/-
  `utils/ssrf_protection.rs`: the tests of an IP address before a request is sent to it.

  An IPv4 address is its four octets, an IPv6 address its eight segments. The ranges that the module
  documents are blocks of addresses (`documentedV4`, `documentedV6`); two flags exempt the loopback
  and the private ones.

  Proved: the tests are the rules of a filter over these blocks (`validateIpv4_ok_iff`,
  `validateIpv6_ok_iff`). By default it refuses exactly the documented ranges, an embedded IPv4
  address is tested as such, and a flag more refuses no address; the metadata addresses are refused
  at all configurations but for the one of IPv6, which goes with the private ones (`filters_iff`).
-/
import ProviiVerifier.Encoding.AddressBlocks
import ProviiVerifier.Error

namespace ProviiVerifier

namespace SsrfProtection

open AddressBlocks

/-! ## Addresses -/

/-- `Ipv4Addr`: its octets. -/
structure Ipv4Addr where
  a : UInt8
  b : UInt8
  c : UInt8
  d : UInt8
  deriving DecidableEq, Repr

/-- `u32::from_be_bytes(ip.octets())`. -/
def Ipv4Addr.toBits (ip : Ipv4Addr) : UInt32 :=
  .ofNat (((ip.a.toNat * 256 + ip.b.toNat) * 256 + ip.c.toNat) * 256 + ip.d.toNat)

/-- `Ipv6Addr`: its segments. -/
structure Ipv6Addr where
  s0 : UInt16
  s1 : UInt16
  s2 : UInt16
  s3 : UInt16
  s4 : UInt16
  s5 : UInt16
  s6 : UInt16
  s7 : UInt16
  deriving DecidableEq, Repr

/-- `Ipv6Addr::is_unspecified`. -/
def Ipv6Addr.isUnspecified (ip : Ipv6Addr) : Bool := ip = ⟨0, 0, 0, 0, 0, 0, 0, 0⟩

/-- `Ipv6Addr::is_loopback`. -/
def Ipv6Addr.isLoopback (ip : Ipv6Addr) : Bool := ip = ⟨0, 0, 0, 0, 0, 0, 0, 1⟩

/-- `Ipv6Addr::is_multicast`. -/
def Ipv6Addr.isMulticast (ip : Ipv6Addr) : Bool := ip.s0 &&& 0xff00 = 0xff00

/-- `Ipv6Addr::to_ipv4_mapped`. -/
def Ipv6Addr.toIpv4Mapped (ip : Ipv6Addr) : Option Ipv4Addr :=
  if ip.s0 = 0 ∧ ip.s1 = 0 ∧ ip.s2 = 0 ∧ ip.s3 = 0 ∧ ip.s4 = 0 ∧ ip.s5 = 0xffff then
    some ⟨(ip.s6 >>> 8).toUInt8, ip.s6.toUInt8, (ip.s7 >>> 8).toUInt8, ip.s7.toUInt8⟩
  else none

/-- `IpAddr`. -/
inductive IpAddr
  | v4 (ip : Ipv4Addr)
  | v6 (ip : Ipv6Addr)
  deriving DecidableEq, Repr

/-! ## Ranges -/

/-- `RangeInclusive::contains`. -/
def contains (range : UInt32 × UInt32) (ip : UInt32) : Bool := range.1 ≤ ip && ip ≤ range.2

/-- `PRIVATE_IPV4_RANGES`. -/
def privateIpv4Ranges : List (UInt32 × UInt32) :=
  [(0x0A000000, 0x0AFFFFFF), (0xAC100000, 0xAC1FFFFF), (0xC0A80000, 0xC0A8FFFF)]

/-- `CLOUD_METADATA_IP`. -/
def cloudMetadataIp : UInt32 := 0xA9FEA9FE

/-- `DOC_IPV4_RANGES`. -/
def docIpv4Ranges : List (UInt32 × UInt32) :=
  [(0xC0000200, 0xC00002FF), (0xC6336400, 0xC63364FF), (0xCB007100, 0xCB0071FF)]

/-- `is_ipv4_loopback`. -/
def isIpv4Loopback (ip : UInt32) : Bool := contains (0x7F000000, 0x7FFFFFFF) ip

/-- `is_ipv4_link_local`. -/
def isIpv4LinkLocal (ip : UInt32) : Bool := contains (0xA9FE0000, 0xA9FEFFFF) ip

/-- `is_ipv4_private`. -/
def isIpv4Private (ip : UInt32) : Bool := privateIpv4Ranges.any fun range => contains range ip

/-- `is_ipv4_cgnat`. -/
def isIpv4Cgnat (ip : UInt32) : Bool := contains (0x64400000, 0x647FFFFF) ip

/-- `is_ipv4_this_network`. -/
def isIpv4ThisNetwork (ip : UInt32) : Bool := contains (0x00000000, 0x00FFFFFF) ip

/-- `is_ipv4_multicast`. -/
def isIpv4Multicast (ip : UInt32) : Bool :=
  let firstOctet := (ip >>> 24) &&& 0xFF
  224 ≤ firstOctet && firstOctet ≤ 239

/-- `is_ipv4_reserved`. -/
def isIpv4Reserved (ip : UInt32) : Bool :=
  let firstOctet := (ip >>> 24) &&& 0xFF
  240 ≤ firstOctet

/-- `is_ipv4_documentation`. -/
def isIpv4Documentation (ip : UInt32) : Bool := docIpv4Ranges.any fun range => contains range ip

/-- `is_ipv4_benchmarking`. -/
def isIpv4Benchmarking (ip : UInt32) : Bool := contains (0xC6120000, 0xC613FFFF) ip

/-- `is_ipv6_link_local`. -/
def isIpv6LinkLocal (ip : Ipv6Addr) : Bool := ip.s0 &&& 0xffc0 = 0xfe80

/-- `is_ipv6_unique_local`. -/
def isIpv6UniqueLocal (ip : Ipv6Addr) : Bool := ip.s0 &&& 0xfe00 = 0xfc00

/-! ## The filter -/

/-- `SsrfConfig`. -/
structure SsrfConfig where
  allowedHosts : List String
  allowLoopback : Bool
  allowPrivateIps : Bool
  deriving DecidableEq, Repr

/-- `SsrfConfig::default`. -/
def SsrfConfig.default : SsrfConfig where
  allowedHosts := ["cdn.provii.app"]
  allowLoopback := false
  allowPrivateIps := false

/-- A refusal of the filter. -/
def refused (what : String) : Except ApiError Unit :=
  .error (.forbidden (some ("SSRF Protection: " ++ what)))

/-- `validate_ipv4_address`. -/
def validateIpv4Address (ip : Ipv4Addr) (config : SsrfConfig) : Except ApiError Unit :=
  let ipU32 := ip.toBits
  if isIpv4Loopback ipU32 then
    if config.allowLoopback then .ok () else refused "loopback addresses are not allowed"
  else if ipU32 = cloudMetadataIp then refused "cloud metadata endpoint is blocked"
  else if isIpv4LinkLocal ipU32 then refused "link-local addresses are not allowed"
  else if isIpv4Private ipU32 then
    if config.allowPrivateIps then .ok () else refused "private IP addresses are not allowed"
  else if isIpv4Cgnat ipU32 then refused "CGNAT addresses are not allowed"
  else if isIpv4ThisNetwork ipU32 then refused "0.0.0.0/8 addresses are not allowed"
  else if isIpv4Multicast ipU32 then refused "multicast addresses are not allowed"
  else if isIpv4Reserved ipU32 then refused "reserved addresses are not allowed"
  else if isIpv4Documentation ipU32 then refused "documentation addresses are not allowed"
  else if isIpv4Benchmarking ipU32 then refused "benchmarking addresses are not allowed"
  else .ok ()

/-- `validate_ipv6_address`. -/
def validateIpv6Address (ip : Ipv6Addr) (config : SsrfConfig) : Except ApiError Unit :=
  if ip.isUnspecified then refused "IPv6 unspecified address is not allowed"
  else if ip.isLoopback then
    if config.allowLoopback then .ok () else refused "IPv6 loopback is not allowed"
  else if ip.isMulticast then refused "IPv6 multicast addresses are not allowed"
  else if isIpv6LinkLocal ip then refused "IPv6 link-local addresses are not allowed"
  else if isIpv6UniqueLocal ip then
    if config.allowPrivateIps then .ok ()
    else refused "IPv6 unique local addresses are not allowed"
  else if ip.s0 = 0x2001 ∧ ip.s1 = 0x0db8 then
    refused "IPv6 documentation addresses are not allowed"
  else if ip.s0 &&& 0xffc0 = 0xfec0 then refused "IPv6 site-local addresses are not allowed"
  else if ip = ⟨0xfd00, 0x0ec2, 0, 0, 0, 0, 0, 0x0254⟩ then
    refused "cloud metadata endpoint is blocked"
  else
    match ip.toIpv4Mapped with
    | some ipv4 => validateIpv4Address ipv4 config
    | none => .ok ()

/-- `validate_ip_address`. -/
def validateIpAddress (ip : IpAddr) (config : SsrfConfig) : Except ApiError Unit :=
  match ip with
  | .v4 ipv4 => validateIpv4Address ipv4 config
  | .v6 ipv6 => validateIpv6Address ipv6 config

/-! ## The documented ranges -/

/-- The number that an IPv4 address is. -/
def Ipv4Addr.value (ip : Ipv4Addr) : Nat := ip.toBits.toNat

/-- The first six segments. -/
def Ipv6Addr.upper (ip : Ipv6Addr) : Nat :=
  ((((ip.s0.toNat * 2 ^ 16 + ip.s1.toNat) * 2 ^ 16 + ip.s2.toNat) * 2 ^ 16 + ip.s3.toNat) * 2 ^ 16 +
    ip.s4.toNat) * 2 ^ 16 + ip.s5.toNat

/-- The last two segments. -/
def Ipv6Addr.lower (ip : Ipv6Addr) : Nat := ip.s6.toNat * 2 ^ 16 + ip.s7.toNat

/-- The number that an IPv6 address is. -/
def Ipv6Addr.value (ip : Ipv6Addr) : Nat := ip.upper * 2 ^ 32 + ip.lower

/-- The documented ranges of IPv4. -/
def documentedV4 : List (Block 32) :=
  [
    -- loopback 127.0.0.0/8, metadata 169.254.169.254, link-local 169.254.0.0/16
    { base := 0x7F000000, len := 8 }, { base := 0xA9FEA9FE, len := 32 },
    { base := 0xA9FE0000, len := 16 },
    -- private 10.0.0.0/8, 172.16.0.0/12, 192.168.0.0/16
    { base := 0x0A000000, len := 8 }, { base := 0xAC100000, len := 12 },
    { base := 0xC0A80000, len := 16 },
    -- CGNAT 100.64.0.0/10, this network 0.0.0.0/8, multicast 224.0.0.0/4, reserved 240.0.0.0/4
    { base := 0x64400000, len := 10 }, { base := 0x00000000, len := 8 },
    { base := 0xE0000000, len := 4 }, { base := 0xF0000000, len := 4 },
    -- documentation 192.0.2.0/24, 198.51.100.0/24, 203.0.113.0/24
    { base := 0xC0000200, len := 24 }, { base := 0xC6336400, len := 24 },
    { base := 0xCB007100, len := 24 },
    -- benchmarking 198.18.0.0/15
    { base := 0xC6120000, len := 15 }]

/-- The documented ranges of IPv6; the last ones are those of the addresses `::ffff:0:0/96`. -/
def documentedV6 : List (Block 128) :=
  [
    -- unspecified ::, loopback ::1, multicast ff00::/8
    { base := 0, len := 128 }, { base := 1, len := 128 }, { base := 0xff00 * 2 ^ 112, len := 8 },
    -- link-local fe80::/10, unique local fc00::/7
    { base := 0xfe80 * 2 ^ 112, len := 10 }, { base := 0xfc00 * 2 ^ 112, len := 7 },
    -- documentation 2001:db8::/32, site-local fec0::/10
    { base := 0x20010db8 * 2 ^ 96, len := 32 }, { base := 0xfec0 * 2 ^ 112, len := 10 },
    -- metadata fd00:ec2::254
    { base := 0xfd000ec2 * 2 ^ 96 + 0x254, len := 128 }] ++
    documentedV4.map fun b => b.under 0xffff

/-- The rules for IPv4, in the order of the tests. -/
def rulesV4 (config : SsrfConfig) : List (Rule 32) :=
  [{ blocks := [{ base := 0x7F000000, len := 8 }], exempt := config.allowLoopback },
    { blocks := [{ base := 0xA9FEA9FE, len := 32 }], exempt := false },
    { blocks := [{ base := 0xA9FE0000, len := 16 }], exempt := false },
    { blocks := [{ base := 0x0A000000, len := 8 }, { base := 0xAC100000, len := 12 },
        { base := 0xC0A80000, len := 16 }], exempt := config.allowPrivateIps },
    { blocks := [{ base := 0x64400000, len := 10 }], exempt := false },
    { blocks := [{ base := 0x00000000, len := 8 }], exempt := false },
    { blocks := [{ base := 0xE0000000, len := 4 }], exempt := false },
    { blocks := [{ base := 0xF0000000, len := 4 }], exempt := false },
    { blocks := [{ base := 0xC0000200, len := 24 }, { base := 0xC6336400, len := 24 },
        { base := 0xCB007100, len := 24 }], exempt := false },
    { blocks := [{ base := 0xC6120000, len := 15 }], exempt := false }]

/-- The rules for IPv6, in the order of the tests. -/
def rulesV6 (config : SsrfConfig) : List (Rule 128) :=
  [{ blocks := [{ base := 0, len := 128 }], exempt := false },
    { blocks := [{ base := 1, len := 128 }], exempt := config.allowLoopback },
    { blocks := [{ base := 0xff00 * 2 ^ 112, len := 8 }], exempt := false },
    { blocks := [{ base := 0xfe80 * 2 ^ 112, len := 10 }], exempt := false },
    { blocks := [{ base := 0xfc00 * 2 ^ 112, len := 7 }], exempt := config.allowPrivateIps },
    { blocks := [{ base := 0x20010db8 * 2 ^ 96, len := 32 }], exempt := false },
    { blocks := [{ base := 0xfec0 * 2 ^ 112, len := 10 }], exempt := false },
    { blocks := [{ base := 0xfd000ec2 * 2 ^ 96 + 0x254, len := 128 }], exempt := false }] ++
    (rulesV4 config).map fun r => r.under 0xffff

theorem blocks_rulesV4 (config : SsrfConfig) : blocks (rulesV4 config) = documentedV4 := rfl

theorem blocks_rulesV6 (config : SsrfConfig) : blocks (rulesV6 config) = documentedV6 := rfl

/-! ## The tests and the ranges -/

/-- A test of a range is a test of a block. -/
theorem contains_iff {range : UInt32 × UInt32} {b : Block 32} {ip : UInt32}
    (hfirst : range.1.toNat = b.base) (hlast : range.2.toNat + 1 = b.base + b.size) :
    contains range ip = true ↔ Covered [b] ip.toNat := by
  unfold contains
  rw [Bool.and_eq_true, decide_eq_true_eq, decide_eq_true_eq, covered_singleton,
    Block.mem_iff_range, UInt32.le_iff_toNat_le, UInt32.le_iff_toNat_le]
  omega

/-- The first octet of a number of 32 bits. -/
theorem firstOctet_toNat (ip : UInt32) :
    ((ip >>> 24) &&& 0xFF).toNat = ip.toNat / 2 ^ 24 := by
  have hlt := ip.toNat_lt
  rw [UInt32.toNat_and, UInt32.toNat_shiftRight]
  show ip.toNat >>> 24 &&& (2 ^ 8 - 1) = _
  rw [Nat.shiftRight_eq_div_pow, Nat.and_two_pow_sub_one_eq_mod]
  omega

theorem isIpv4Multicast_iff {ip : UInt32} :
    isIpv4Multicast ip = true ↔
      Covered [({ base := 0xE0000000, len := 4 } : Block 32)] ip.toNat := by
  have hoctet := firstOctet_toNat ip
  rw [covered_singleton, Block.mem_iff_range]
  simp only [isIpv4Multicast, Bool.and_eq_true, decide_eq_true_eq, UInt32.le_iff_toNat_le, hoctet]
  show 224 ≤ _ ∧ _ ≤ 239 ↔ 0xE0000000 ≤ ip.toNat ∧ ip.toNat < 0xE0000000 + 2 ^ 28
  omega

theorem isIpv4Reserved_iff {ip : UInt32} :
    isIpv4Reserved ip = true ↔
      Covered [({ base := 0xF0000000, len := 4 } : Block 32)] ip.toNat := by
  have hoctet := firstOctet_toNat ip
  have hlt := ip.toNat_lt
  rw [covered_singleton, Block.mem_iff_range]
  simp only [isIpv4Reserved, decide_eq_true_eq, UInt32.le_iff_toNat_le, hoctet]
  show 240 ≤ _ ↔ 0xF0000000 ≤ ip.toNat ∧ ip.toNat < 0xF0000000 + 2 ^ 28
  omega

/-! ## Segments -/

/-- The first segments of an address, and the rest. -/
theorem Ipv6Addr.value_head (ip : Ipv6Addr) :
    ∃ rest < 2 ^ 96, ip.value = (ip.s0.toNat * 2 ^ 16 + ip.s1.toNat) * 2 ^ 96 + rest := by
  have h2 := ip.s2.toNat_lt
  have h3 := ip.s3.toNat_lt
  have h4 := ip.s4.toNat_lt
  have h5 := ip.s5.toNat_lt
  have h6 := ip.s6.toNat_lt
  have h7 := ip.s7.toNat_lt
  refine ⟨ip.s2.toNat * 2 ^ 80 + ip.s3.toNat * 2 ^ 64 + ip.s4.toNat * 2 ^ 48 +
    ip.s5.toNat * 2 ^ 32 + ip.s6.toNat * 2 ^ 16 + ip.s7.toNat, by omega, ?_⟩
  unfold value upper lower
  omega

theorem segment_join {a a' : Nat} {b b' : UInt16}
    (h : a * 2 ^ 16 + b.toNat = a' * 2 ^ 16 + b'.toNat) : a = a' ∧ b = b' := by
  have hb := b.toNat_lt
  have hb' := b'.toNat_lt
  have heq : a = a' ∧ b.toNat = b'.toNat := by omega
  exact ⟨heq.1, UInt16.toNat_inj.mp heq.2⟩

theorem Ipv6Addr.upper_inj {ip ip' : Ipv6Addr} (h : ip.upper = ip'.upper) :
    ip.s0 = ip'.s0 ∧ ip.s1 = ip'.s1 ∧ ip.s2 = ip'.s2 ∧ ip.s3 = ip'.s3 ∧ ip.s4 = ip'.s4 ∧
      ip.s5 = ip'.s5 := by
  obtain ⟨h, h5⟩ := segment_join h
  obtain ⟨h, h4⟩ := segment_join h
  obtain ⟨h, h3⟩ := segment_join h
  obtain ⟨h, h2⟩ := segment_join h
  obtain ⟨h0, h1⟩ := segment_join h
  exact ⟨UInt16.toNat_inj.mp h0, h1, h2, h3, h4, h5⟩

theorem Ipv6Addr.lower_lt (ip : Ipv6Addr) : ip.lower < 2 ^ 32 := by
  have h6 := ip.s6.toNat_lt
  have h7 := ip.s7.toNat_lt
  unfold lower
  omega

/-- An address is its number. -/
theorem Ipv6Addr.value_inj {ip ip' : Ipv6Addr} : ip.value = ip'.value ↔ ip = ip' := by
  constructor
  · intro h
    have hlower := ip.lower_lt
    have hlower' := ip'.lower_lt
    unfold value at h
    have hparts : ip.upper = ip'.upper ∧ ip.lower = ip'.lower := by omega
    obtain ⟨h6, h7⟩ := segment_join hparts.2
    obtain ⟨h0, h1, h2, h3, h4, h5⟩ := upper_inj hparts.1
    cases ip
    cases ip'
    rw [UInt16.toNat_inj] at h6
    simp only [Ipv6Addr.mk.injEq]
    exact ⟨h0, h1, h2, h3, h4, h5, h6, h7⟩
  · intro h
    rw [h]

theorem Ipv4Addr.value_eq (ip : Ipv4Addr) :
    ip.value = ((ip.a.toNat * 256 + ip.b.toNat) * 256 + ip.c.toNat) * 256 + ip.d.toNat := by
  have ha := ip.a.toNat_lt
  have hb := ip.b.toNat_lt
  have hc := ip.c.toNat_lt
  have hd := ip.d.toNat_lt
  unfold value toBits
  rw [UInt32.toNat_ofNat_of_lt']
  show _ < 2 ^ 32
  omega

theorem segment_bytes (s : UInt16) :
    (s >>> 8).toUInt8.toNat * 256 + s.toUInt8.toNat = s.toNat := by
  have hs := s.toNat_lt
  rw [UInt16.toNat_toUInt8, UInt16.toNat_toUInt8, UInt16.toNat_shiftRight]
  show s.toNat >>> 8 % 2 ^ 8 * 256 + s.toNat % 2 ^ 8 = s.toNat
  rw [Nat.shiftRight_eq_div_pow]
  omega

/-- The embedded address. -/
theorem Ipv6Addr.toIpv4Mapped_cases (ip : Ipv6Addr) :
    (ip.upper = 0xffff ∧ ∃ ipv4, ip.toIpv4Mapped = some ipv4 ∧ ipv4.value = ip.lower) ∨
      (ip.upper ≠ 0xffff ∧ ip.toIpv4Mapped = none) := by
  by_cases h : ip.s0 = 0 ∧ ip.s1 = 0 ∧ ip.s2 = 0 ∧ ip.s3 = 0 ∧ ip.s4 = 0 ∧ ip.s5 = 0xffff
  · left
    constructor
    · obtain ⟨h0, h1, h2, h3, h4, h5⟩ := h
      unfold upper
      rw [h0, h1, h2, h3, h4, h5]
      decide
    · refine ⟨_, if_pos h, ?_⟩
      have h6 := segment_bytes ip.s6
      have h7 := segment_bytes ip.s7
      rw [Ipv4Addr.value_eq, h6]
      have hjoin : ∀ x c d y : Nat, c * 256 + d = y → (x * 256 + c) * 256 + d = x * 2 ^ 16 + y := by
        omega
      exact hjoin _ _ _ _ h7
  · right
    refine ⟨fun heq => h ?_, if_neg h⟩
    have hupper : ip.upper = (⟨0, 0, 0, 0, 0, 0xffff, 0, 0⟩ : Ipv6Addr).upper := heq
    exact upper_inj hupper

/-! ## Masks and segments -/

/-- A test of the first segment by a mask. -/
theorem head_mask_iff {b : Block 16} {mask base : UInt16} (hmask : mask.toNat = b.mask)
    (hbase : base.toNat = b.base) (ip : Ipv6Addr) :
    ip.s0 &&& mask = base ↔ Covered [(b.widen 112 : Block 128)] ip.value := by
  obtain ⟨rest, hrest, hvalue⟩ := ip.value_head
  have h0 := ip.s0.toNat_lt
  have h1 := ip.s1.toNat_lt
  have hlow : ip.s1.toNat * 2 ^ 96 + rest < 2 ^ 112 := by omega
  have hsplit : ip.value = ip.s0.toNat * 2 ^ 112 + (ip.s1.toNat * 2 ^ 96 + rest) := by
    have hpow : (2 : Nat) ^ 16 * 2 ^ 96 = 2 ^ 112 := rfl
    rw [hvalue, Nat.add_mul, Nat.mul_assoc, Nat.add_assoc, hpow]
  rw [covered_singleton, hsplit, Block.mem_widen hlow, Block.mem_iff_mask h0,
    ← UInt16.toNat_inj, UInt16.toNat_and, hmask, hbase]

/-- A test of the first two segments. -/
theorem head_eq_iff (ip : Ipv6Addr) :
    ip.s0 = 0x2001 ∧ ip.s1 = 0x0db8 ↔
      Covered [({ base := 0x20010db8 * 2 ^ 96, len := 32 } : Block 128)] ip.value := by
  obtain ⟨rest, hrest, hvalue⟩ := ip.value_head
  have h0 := ip.s0.toNat_lt
  have h1 := ip.s1.toNat_lt
  have hblock : ({ base := 0x20010db8 * 2 ^ 96, len := 32 } : Block 128) =
      ({ base := 0x20010db8, len := 32 } : Block 32).widen 96 := rfl
  rw [hblock, covered_singleton, hvalue, Block.mem_widen hrest, Block.mem_iff_eq rfl,
    ← UInt16.toNat_inj, ← UInt16.toNat_inj]
  show _ = 0x2001 ∧ _ = 0x0db8 ↔ _ = 0x20010db8
  omega

/-- A test of the whole address. -/
theorem eq_iff_covered {b : Block 128} {ip' : Ipv6Addr} (hlen : b.len = 128)
    (hbase : b.base = ip'.value) (ip : Ipv6Addr) : ip = ip' ↔ Covered [b] ip.value := by
  rw [covered_singleton, Block.mem_iff_eq hlen, hbase, Ipv6Addr.value_inj]

/-- Tests of ranges are tests of blocks. -/
theorem any_contains_iff {ranges : List (UInt32 × UInt32)} {l : List (Block 32)}
    (h : List.Forall₂ (fun range b =>
      range.1.toNat = b.base ∧ range.2.toNat + 1 = b.base + b.size) ranges l) (ip : UInt32) :
    (ranges.any fun range => contains range ip) = true ↔ Covered l ip.toNat := by
  induction h with
  | nil => simp [Covered]
  | cons hrange _ ih =>
    rw [List.any_cons, Bool.or_eq_true, ih, contains_iff hrange.1 hrange.2, covered_singleton]
    simp [Covered]

/-! ## The filter -/

theorem three {α β : Type} {r : α → β → Prop} {a a' a'' : α} {b b' b'' : β} (h : r a b)
    (h' : r a' b') (h'' : r a'' b'') : List.Forall₂ r [a, a', a''] [b, b', b''] :=
  .cons h (.cons h' (.cons h'' .nil))

theorem refused_iff (what : String) : refused what = .ok () ↔ false = true := by
  simp [refused]

theorem flag_iff (flag : Bool) (what : String) :
    (if flag then .ok () else refused what) = .ok () ↔ flag = true := by
  cases flag <;> simp [refused]

/-- A test and those after it are a rule and those after it. -/
theorem test_iff {w x : Nat} {p : Prop} [Decidable p] {r : Rule w} {rules : List (Rule w)}
    {yes no : Except ApiError Unit} (hp : p ↔ Covered r.blocks x)
    (hyes : yes = .ok () ↔ r.exempt = true) (hno : no = .ok () ↔ admits rules x = true) :
    (if p then yes else no) = .ok () ↔ admits (r :: rules) x = true := by
  rw [admits]
  by_cases h : p
  · rw [if_pos h, if_pos (hp.mp h), hyes]
  · rw [if_neg h, if_neg (mt hp.mpr h), hno]

/-- **The tests of an IPv4 address** are the rules. -/
theorem validateIpv4_ok_iff (ip : Ipv4Addr) (config : SsrfConfig) :
    validateIpv4Address ip config = .ok () ↔ admits (rulesV4 config) ip.value = true := by
  have hmeta : ip.toBits = cloudMetadataIp ↔
      Covered [({ base := 0xA9FEA9FE, len := 32 } : Block 32)] ip.value := by
    rw [covered_singleton, Block.mem_iff_eq rfl, ← UInt32.toNat_inj]
    rfl
  unfold validateIpv4Address rulesV4
  dsimp only
  refine test_iff (contains_iff rfl rfl) (flag_iff _ _) ?_
  refine test_iff hmeta (refused_iff _) ?_
  refine test_iff (contains_iff rfl rfl) (refused_iff _) ?_
  refine test_iff (any_contains_iff (three ⟨rfl, rfl⟩ ⟨rfl, rfl⟩ ⟨rfl, rfl⟩) _) (flag_iff _ _) ?_
  refine test_iff (contains_iff rfl rfl) (refused_iff _) ?_
  refine test_iff (contains_iff rfl rfl) (refused_iff _) ?_
  refine test_iff isIpv4Multicast_iff (refused_iff _) ?_
  refine test_iff isIpv4Reserved_iff (refused_iff _) ?_
  refine test_iff (any_contains_iff (three ⟨rfl, rfl⟩ ⟨rfl, rfl⟩ ⟨rfl, rfl⟩) _) (refused_iff _) ?_
  refine test_iff (contains_iff rfl rfl) (refused_iff _) ?_
  simp [admits]

/-- The last test of an IPv6 address is that of the IPv4 address that it embeds. -/
theorem embedded_ok_iff (ip : Ipv6Addr) (config : SsrfConfig) :
    (match ip.toIpv4Mapped with
      | some ipv4 => validateIpv4Address ipv4 config
      | none => .ok ()) = .ok () ↔
      admits ((rulesV4 config).map fun r => (r.under 0xffff : Rule 128)) ip.value = true := by
  have hvalue : ip.value = ip.upper * 2 ^ 32 + ip.lower := rfl
  rw [hvalue, admits_under ip.lower_lt]
  rcases ip.toIpv4Mapped_cases with ⟨hupper, ipv4, hsome, hlower⟩ | ⟨hupper, hnone⟩
  · rw [hsome, ← hlower]
    simp [hupper, validateIpv4_ok_iff]
  · rw [hnone]
    simp [hupper]

/-- **The tests of an IPv6 address** are the rules. -/
theorem validateIpv6_ok_iff (ip : Ipv6Addr) (config : SsrfConfig) :
    validateIpv6Address ip config = .ok () ↔ admits (rulesV6 config) ip.value = true := by
  unfold validateIpv6Address rulesV6
  simp only [List.cons_append, List.nil_append]
  refine test_iff (decide_eq_true_iff.trans (eq_iff_covered rfl rfl ip)) (refused_iff _) ?_
  refine test_iff (decide_eq_true_iff.trans (eq_iff_covered rfl rfl ip)) (flag_iff _ _) ?_
  refine test_iff (decide_eq_true_iff.trans (head_mask_iff (b := { base := 0xff00, len := 8 })
    rfl rfl ip)) (refused_iff _) ?_
  refine test_iff (decide_eq_true_iff.trans (head_mask_iff (b := { base := 0xfe80, len := 10 })
    rfl rfl ip)) (refused_iff _) ?_
  refine test_iff (decide_eq_true_iff.trans (head_mask_iff (b := { base := 0xfc00, len := 7 })
    rfl rfl ip)) (flag_iff _ _) ?_
  refine test_iff (head_eq_iff ip) (refused_iff _) ?_
  refine test_iff (head_mask_iff (b := { base := 0xfec0, len := 10 }) rfl rfl ip) (refused_iff _) ?_
  refine test_iff (eq_iff_covered rfl rfl ip) (refused_iff _) ?_
  exact embedded_ok_iff ip config

/-! ## What the filter is for -/

/-- The address lies in a documented range. -/
def Documented : IpAddr → Prop
  | .v4 ip => Covered documentedV4 ip.value
  | .v6 ip => Covered documentedV6 ip.value

/-- The other configuration exempts what this one does. -/
def SsrfConfig.RelaxesTo (config relaxed : SsrfConfig) : Prop :=
  (config.allowLoopback = true → relaxed.allowLoopback = true) ∧
    (config.allowPrivateIps = true → relaxed.allowPrivateIps = true)

/-- `169.254.169.254`. -/
def metadataV4 : Ipv4Addr := ⟨169, 254, 169, 254⟩

/-- `fd00:ec2::254`. -/
def metadataV6 : Ipv6Addr := ⟨0xfd00, 0x0ec2, 0, 0, 0, 0, 0, 0x0254⟩

/-- The addresses of the cloud's metadata service. -/
def Metadata : IpAddr → Prop
  | .v4 ip => ip = metadataV4
  | .v6 ip => ip = metadataV6 ∨ ip.toIpv4Mapped = some metadataV4

/-- What is asked of the filter at an address and a configuration. -/
structure Filters (ip : IpAddr) (config : SsrfConfig) : Prop where
  default_ok : validateIpAddress ip .default = .ok () ↔ ¬ Documented ip
  embedded : ∀ ipv6 ipv4, ip = .v6 ipv6 → ipv6.toIpv4Mapped = some ipv4 →
    validateIpAddress ip config = validateIpAddress (.v4 ipv4) config
  relaxed : ∀ relaxed, config.RelaxesTo relaxed → validateIpAddress ip config = .ok () →
    validateIpAddress ip relaxed = .ok ()
  metadata : Metadata ip → validateIpAddress ip config ≠ .ok ()

theorem default_ok_iff (ip : IpAddr) :
    validateIpAddress ip .default = .ok () ↔ ¬ Documented ip := by
  cases ip with
  | v4 ip =>
    have hnone : ∀ r ∈ rulesV4 .default, r.exempt = false := by decide
    have hblocks := admits_iff_of_no_exempt hnone ip.value
    rw [blocks_rulesV4] at hblocks
    exact (validateIpv4_ok_iff ip _).trans hblocks
  | v6 ip =>
    have hnone : ∀ r ∈ rulesV6 .default, r.exempt = false := by decide
    have hblocks := admits_iff_of_no_exempt hnone ip.value
    rw [blocks_rulesV6] at hblocks
    exact (validateIpv6_ok_iff ip _).trans hblocks

/-- An embedded IPv4 address passes all tests of IPv6 but the last. -/
theorem validateIpv6_embedded {ip : Ipv6Addr} {ipv4 : Ipv4Addr} (h : ip.toIpv4Mapped = some ipv4)
    (config : SsrfConfig) : validateIpv6Address ip config = validateIpv4Address ipv4 config := by
  have hsegments : ip.s0 = 0 ∧ ip.s5 = 0xffff := by
    unfold Ipv6Addr.toIpv4Mapped at h
    split at h
    · next hzero => exact ⟨hzero.1, hzero.2.2.2.2.2⟩
    · cases h
  have hother : ∀ other : Ipv6Addr, other.s5 ≠ 0xffff → ip ≠ other := by
    rintro other hne rfl
    exact hne hsegments.2
  have hunspecified : ip.isUnspecified = false := decide_eq_false (hother _ (by decide))
  have hloopback : ip.isLoopback = false := decide_eq_false (hother _ (by decide))
  have hmask : ∀ mask base : UInt16, base ≠ 0 → ip.s0 &&& mask ≠ base := by
    intro mask base hbase heq
    rw [hsegments.1, UInt16.zero_and] at heq
    exact hbase heq.symm
  have hmulticast : ip.isMulticast = false := decide_eq_false (hmask _ _ (by decide))
  have hlinkLocal : isIpv6LinkLocal ip = false := decide_eq_false (hmask _ _ (by decide))
  have huniqueLocal : isIpv6UniqueLocal ip = false := decide_eq_false (hmask _ _ (by decide))
  have hdocumentation : ¬ (ip.s0 = 0x2001 ∧ ip.s1 = 0x0db8) := by
    rintro ⟨hhead, -⟩
    rw [hsegments.1] at hhead
    exact absurd hhead (by decide)
  unfold validateIpv6Address
  rw [hunspecified, hloopback, hmulticast, hlinkLocal, huniqueLocal, if_neg hdocumentation,
    if_neg (hmask _ _ (by decide)), if_neg (hother _ (by decide)), h]
  rfl

theorem relaxes_rulesV4 {config relaxed : SsrfConfig} (h : config.RelaxesTo relaxed) :
    Relaxes (rulesV4 config) (rulesV4 relaxed) := by
  unfold rulesV4
  refine .cons ⟨rfl, h.1⟩ (.cons ⟨rfl, id⟩ (.cons ⟨rfl, id⟩ (.cons ⟨rfl, h.2⟩ ?_)))
  exact relaxes_refl _

theorem relaxes_rulesV6 {config relaxed : SsrfConfig} (h : config.RelaxesTo relaxed) :
    Relaxes (rulesV6 config) (rulesV6 relaxed) := by
  refine List.rel_append ?_ (relaxes_under (relaxes_rulesV4 h))
  refine .cons ⟨rfl, id⟩ (.cons ⟨rfl, h.1⟩ (.cons ⟨rfl, id⟩ (.cons ⟨rfl, id⟩ ?_)))
  refine .cons ⟨rfl, h.2⟩ ?_
  exact relaxes_refl _

theorem ok_of_relaxes {ip : IpAddr} {config relaxed : SsrfConfig} (h : config.RelaxesTo relaxed)
    (hok : validateIpAddress ip config = .ok ()) : validateIpAddress ip relaxed = .ok () := by
  cases ip with
  | v4 ip =>
    exact (validateIpv4_ok_iff ip relaxed).mpr
      (admits_of_relaxes (relaxes_rulesV4 h) ((validateIpv4_ok_iff ip config).mp hok))
  | v6 ip =>
    exact (validateIpv6_ok_iff ip relaxed).mpr
      (admits_of_relaxes (relaxes_rulesV6 h) ((validateIpv6_ok_iff ip config).mp hok))

theorem metadataV4_refused (config : SsrfConfig) :
    validateIpv4Address metadataV4 config ≠ .ok () := by
  have hloopback : isIpv4Loopback metadataV4.toBits = false := by decide
  have hmeta : metadataV4.toBits = cloudMetadataIp := by decide
  unfold validateIpv4Address
  dsimp only
  rw [hloopback, if_pos hmeta]
  simp [refused]

/-- The range of the private addresses of IPv6 has the metadata address. -/
theorem metadataV6_ok_iff (config : SsrfConfig) :
    validateIpv6Address metadataV6 config = .ok () ↔ config.allowPrivateIps = true := by
  have hunspecified : metadataV6.isUnspecified = false := by decide
  have hloopback : metadataV6.isLoopback = false := by decide
  have hmulticast : metadataV6.isMulticast = false := by decide
  have hlinkLocal : isIpv6LinkLocal metadataV6 = false := by decide
  have huniqueLocal : isIpv6UniqueLocal metadataV6 = true := by decide
  unfold validateIpv6Address
  rw [hunspecified, hloopback, hmulticast, hlinkLocal, huniqueLocal]
  exact flag_iff _ _

/-- **The filter** does what is asked of it but at the metadata address of IPv6, which it lets
through where it lets private addresses through. -/
theorem filters_iff (ip : IpAddr) (config : SsrfConfig) :
    Filters ip config ↔ ¬ (config.allowPrivateIps = true ∧ ip = .v6 metadataV6) := by
  constructor
  · rintro h ⟨hallow, rfl⟩
    exact h.metadata (.inl rfl) ((metadataV6_ok_iff config).mpr hallow)
  · intro h
    refine ⟨default_ok_iff ip, ?_, fun relaxed hrelaxed hok => ok_of_relaxes hrelaxed hok, ?_⟩
    · rintro ipv6 ipv4 rfl hsome
      exact validateIpv6_embedded hsome config
    · cases ip with
      | v4 ip =>
        rintro rfl
        exact metadataV4_refused config
      | v6 ip =>
        rintro (rfl | hsome) hok
        · exact h ⟨(metadataV6_ok_iff config).mp hok, rfl⟩
        · exact metadataV4_refused config (validateIpv6_embedded hsome config ▸ hok)

/-- With private addresses allowed, `fd00:ec2::254` is let through. -/
theorem metadata_let_through : ¬ Filters (.v6 metadataV6) ⟨[], false, true⟩ := by
  intro h
  exact h.metadata (.inl rfl) ((metadataV6_ok_iff _).mpr rfl)

end SsrfProtection

end ProviiVerifier
