import UniversalInbox.Library.AddressBlocks
import UniversalInbox.OAuth2

/-! The hosts of client metadata documents. A document is fetched from a host that its client has
chosen, so the addresses that the host resolves to are checked first. -/
namespace UniversalInbox.OAuth2.Cimd
open AddressBlocks

structure Ipv4Addr where
  a : UInt8
  b : UInt8
  c : UInt8
  d : UInt8
deriving DecidableEq, Repr

structure Ipv6Addr where
  s0 : UInt16
  s1 : UInt16
  s2 : UInt16
  s3 : UInt16
  s4 : UInt16
  s5 : UInt16
  s6 : UInt16
  s7 : UInt16
deriving DecidableEq, Repr

inductive IpAddr where
  | v4 (addr : Ipv4Addr)
  | v6 (addr : Ipv6Addr)
deriving DecidableEq, Repr

namespace Ipv4Addr
variable (addr : Ipv4Addr)

def isLoopback : Bool := addr.a == 127

def isPrivate : Bool :=
  addr.a == 10 || (addr.a == 172 && decide (16 ≤ addr.b) && decide (addr.b ≤ 31)) ||
    (addr.a == 192 && addr.b == 168)

def isLinkLocal : Bool := addr.a == 169 && addr.b == 254

def isMulticast : Bool := decide (224 ≤ addr.a) && decide (addr.a ≤ 239)

def isBroadcast : Bool := addr == ⟨255, 255, 255, 255⟩

def isUnspecified : Bool := addr == ⟨0, 0, 0, 0⟩

def isDocumentation : Bool :=
  (addr.a == 192 && addr.b == 0 && addr.c == 2) ||
    (addr.a == 198 && addr.b == 51 && addr.c == 100) ||
    (addr.a == 203 && addr.b == 0 && addr.c == 113)

/-- The bits of the address, as a number. -/
def digits : List Nat := [addr.a.toNat, addr.b.toNat, addr.c.toNat, addr.d.toNat]

def toNat : Nat := join 8 addr.digits

end Ipv4Addr

namespace Ipv6Addr
variable (addr : Ipv6Addr)

def isLoopback : Bool := addr == ⟨0, 0, 0, 0, 0, 0, 0, 1⟩

def isUnspecified : Bool := addr == ⟨0, 0, 0, 0, 0, 0, 0, 0⟩

def isMulticast : Bool := addr.s0 &&& 0xff00 == 0xff00

def digits : List Nat :=
  [addr.s0.toNat, addr.s1.toNat, addr.s2.toNat, addr.s3.toNat, addr.s4.toNat, addr.s5.toNat,
    addr.s6.toNat, addr.s7.toNat]

def toNat : Nat := join 16 addr.digits

end Ipv6Addr

def isSafePublicIpv4 (addr : Ipv4Addr) : Bool :=
  if addr.isLoopback || addr.isPrivate || addr.isLinkLocal || addr.isMulticast ||
      addr.isBroadcast || addr.isUnspecified || addr.isDocumentation then false
  else if addr.a == 100 && addr.b &&& 0xc0 == 64 then false
  else if addr.a == 0 then false
  else if addr.a == 198 && addr.b &&& 0xfe == 18 then false
  else if addr.a == 192 && addr.b == 0 && addr.c == 0 then false
  else if addr.a ≥ 240 then false
  else true

def isSafePublicIpv6 (addr : Ipv6Addr) : Bool :=
  if addr.isLoopback || addr.isUnspecified || addr.isMulticast then false
  else if addr.s0 &&& 0xfe00 == 0xfc00 then false
  else if addr.s0 &&& 0xffc0 == 0xfe80 then false
  else if addr.s0 &&& 0xffc0 == 0xfec0 then false
  else if addr.s0 == 0x2001 && addr.s1 == 0x0db8 then false
  else if addr.s0 == 0 && addr.s1 == 0 && addr.s2 == 0 && addr.s3 == 0 && addr.s4 == 0 &&
      (addr.s5 == 0 || addr.s5 == 0xffff) then
    isSafePublicIpv4 ⟨(addr.s6 >>> 8).toUInt8, (addr.s6 &&& 0xff).toUInt8,
      (addr.s7 >>> 8).toUInt8, (addr.s7 &&& 0xff).toUInt8⟩
  else true

def isSafePublicIp : IpAddr → Bool
  | .v4 addr => isSafePublicIpv4 addr
  | .v6 addr => isSafePublicIpv6 addr

structure SocketAddr where
  ip : IpAddr
  port : UInt16
deriving DecidableEq, Repr

/-- The name service, the addresses written as host names, and how an address is written. -/
structure Resolver where
  lookupHost : String → UInt16 → Except String (List SocketAddr)
  isIpLiteral : String → Bool
  display : IpAddr → String

/-- The loop over the resolved addresses. -/
def choose (resolver : Resolver) (host : String) :
    Option SocketAddr → List SocketAddr → Except UniversalInboxError (Option SocketAddr)
  | chosen, [] => .ok chosen
  | chosen, addr :: rest =>
    if !isSafePublicIp addr.ip then
      .error (.invalidInputData (s!"CIMD host {host} resolves to a special-use address " ++
        s!"({resolver.display addr.ip}); refusing to fetch"))
    else choose resolver host (chosen.or (some addr)) rest

def resolveSafe (resolver : Resolver) (host : String) (port : UInt16) :
    Except UniversalInboxError SocketAddr :=
  if resolver.isIpLiteral host then
    .error (.invalidInputData s!"CIMD URL host must be a domain name, got IP literal {host}")
  else
    match resolver.lookupHost host port with
    | .error err => .error (.invalidInputData s!"Failed to resolve CIMD host {host}: {err}")
    | .ok lookup => do
      match ← choose resolver host none lookup with
      | some chosen => return chosen
      | none =>
        throw (.invalidInputData s!"CIMD host {host} did not resolve to any address")

/-! What the addresses are for, independently of the code: the registries of special-purpose
addresses, with multicast and the former site-local addresses, less the blocks within them that are
globally reachable. -/

def ipv4Block (octets : List Nat) (length : Nat) : Block 32 := ⟨join 8 octets, length⟩

def ipv6Block (segments : List Nat) (length : Nat) : Block 128 := ⟨join 16 segments, length⟩

/-- The ranges of IPv4 that `is_safe_public_ipv4` has a test for. -/
def testedIpv4 : List (Block 32) :=
  [ ipv4Block [0, 0, 0, 0] 8 -- this network
  , ipv4Block [10, 0, 0, 0] 8 -- private use
  , ipv4Block [100, 64, 0, 0] 10 -- shared address space
  , ipv4Block [127, 0, 0, 0] 8 -- loopback
  , ipv4Block [169, 254, 0, 0] 16 -- link local
  , ipv4Block [172, 16, 0, 0] 12 -- private use
  , ipv4Block [192, 0, 0, 0] 24 -- IETF protocol assignments
  , ipv4Block [192, 0, 2, 0] 24 -- documentation
  , ipv4Block [192, 168, 0, 0] 16 -- private use
  , ipv4Block [198, 18, 0, 0] 15 -- benchmarking
  , ipv4Block [198, 51, 100, 0] 24 -- documentation
  , ipv4Block [203, 0, 113, 0] 24 -- documentation
  , ipv4Block [224, 0, 0, 0] 4 -- multicast
  , ipv4Block [240, 0, 0, 0] 4 ] -- reserved, with the limited broadcast

/-- The one that it has no test for. -/
def untestedIpv4 : List (Block 32) :=
  [ipv4Block [192, 88, 99, 2] 32] -- 6a44 relay anycast

def specialPurposeIpv4 : List (Block 32) := testedIpv4 ++ untestedIpv4

def reachableIpv4 : List (Block 32) :=
  [ ipv4Block [192, 0, 0, 9] 32 -- port control protocol anycast
  , ipv4Block [192, 0, 0, 10] 32 ] -- TURN anycast

/-- The ranges of IPv6 that `is_safe_public_ipv6` has no test for. -/
def untestedIpv6 : List (Block 128) :=
  [ ipv6Block [0x64, 0xff9b, 1, 0, 0, 0, 0, 0] 48 -- local-use IPv4/IPv6 translation
  , ipv6Block [0x100, 0, 0, 0, 0, 0, 0, 0] 64 -- discard only
  , ipv6Block [0x100, 0, 0, 1, 0, 0, 0, 0] 64 -- dummy prefix
  , ipv6Block [0x2001, 0, 0, 0, 0, 0, 0, 0] 23 -- IETF protocol assignments, with benchmarking
  , ipv6Block [0x3fff, 0, 0, 0, 0, 0, 0, 0] 20 -- documentation
  , ipv6Block [0x5f00, 0, 0, 0, 0, 0, 0, 0] 16 ] -- segment routing

/-- The ranges of IPv6 that it does have a test for. -/
def testedIpv6 : List (Block 128) :=
  [ ipv6Block [0, 0, 0, 0, 0, 0, 0, 0] 128 -- unspecified
  , ipv6Block [0, 0, 0, 0, 0, 0, 0, 1] 128 -- loopback
  , ipv6Block [0x2001, 0xdb8, 0, 0, 0, 0, 0, 0] 32 -- documentation
  , ipv6Block [0xfc00, 0, 0, 0, 0, 0, 0, 0] 7 -- unique local
  , ipv6Block [0xfe80, 0, 0, 0, 0, 0, 0, 0] 10 -- link local
  , ipv6Block [0xfec0, 0, 0, 0, 0, 0, 0, 0] 10 -- site local
  , ipv6Block [0xff00, 0, 0, 0, 0, 0, 0, 0] 8 ] -- multicast

def specialPurposeIpv6 : List (Block 128) := testedIpv6 ++ untestedIpv6

def reachableIpv6 : List (Block 128) :=
  [ ipv6Block [0x2001, 1, 0, 0, 0, 0, 0, 1] 128 -- port control protocol anycast
  , ipv6Block [0x2001, 1, 0, 0, 0, 0, 0, 2] 128 -- TURN anycast
  , ipv6Block [0x2001, 1, 0, 0, 0, 0, 0, 3] 128 -- service registration anycast
  , ipv6Block [0x2001, 3, 0, 0, 0, 0, 0, 0] 32 -- AMT
  , ipv6Block [0x2001, 4, 0x112, 0, 0, 0, 0, 0] 48 -- AS112
  , ipv6Block [0x2001, 0x20, 0, 0, 0, 0, 0, 0] 28 -- ORCHIDv2
  , ipv6Block [0x2001, 0x30, 0, 0, 0, 0, 0, 0] 28 ] -- drone remote identification

def ipv4Compatible : Block 128 := ipv6Block [0, 0, 0, 0, 0, 0, 0, 0] 96

def ipv4Mapped : Block 128 := ipv6Block [0, 0, 0, 0, 0, 0xffff, 0, 0] 96

def nat64 : Block 128 := ipv6Block [0x64, 0xff9b, 0, 0, 0, 0, 0, 0] 96

def sixToFour : Block 128 := ipv6Block [0x2002, 0, 0, 0, 0, 0, 0, 0] 16

/-- In one of the blocks, and in none of those within them that are reachable. -/
def Unreachable {width : Nat} (special reachable : List (Block width)) (n : Nat) : Prop :=
  (∃ block ∈ special, block.Mem n) ∧ ∀ block ∈ reachable, ¬ block.Mem n

instance {width : Nat} (special reachable : List (Block width)) (n : Nat) :
    Decidable (Unreachable special reachable n) :=
  inferInstanceAs (Decidable (_ ∧ _))

/-- The IPv4 address that a translation of the given address would reach. -/
def translatedIpv4 (n : Nat) : Option Nat :=
  if nat64.Mem n then some (n % 2 ^ 32)
  else if sixToFour.Mem n then some (n / 2 ^ 80 % 2 ^ 32)
  else none

def embeddedIpv4 (n : Nat) : Option Nat :=
  if ipv4Compatible.Mem n ∨ ipv4Mapped.Mem n then some (n % 2 ^ 32) else translatedIpv4 n

def PublicIpv4 (n : Nat) : Prop := ¬ Unreachable specialPurposeIpv4 reachableIpv4 n

instance (n : Nat) : Decidable (PublicIpv4 n) := inferInstanceAs (Decidable (¬ _))

/-- A globally reachable unicast address, with no IPv4 address within it that is not. Any address
counts as one that is in none of the blocks, those that are not assigned yet included. -/
def Public : IpAddr → Prop
  | .v4 addr => PublicIpv4 addr.toNat
  | .v6 addr =>
    ¬ Unreachable specialPurposeIpv6 reachableIpv6 addr.toNat ∧
      ∀ n ∈ embeddedIpv4 addr.toNat, PublicIpv4 n

/-- The address is of a range that is not tested, or is translated to an IPv4 address that is not
public, or has one of a range that is not tested within it. -/
def Untested : IpAddr → Prop
  | .v4 addr => Unreachable untestedIpv4 reachableIpv4 addr.toNat
  | .v6 addr =>
    Unreachable untestedIpv6 reachableIpv6 addr.toNat ∨
      (∃ n ∈ translatedIpv4 addr.toNat, ¬ PublicIpv4 n) ∨
      ∃ n ∈ embeddedIpv4 addr.toNat, Unreachable untestedIpv4 reachableIpv4 n

theorem passes_iff {test : Prop} [Decidable test] {rest : Bool} :
    (if test then false else rest) = true ↔ ¬ test ∧ rest = true := by
  split
  · next h => exact ⟨nofun, fun hpasses => absurd h hpasses.1⟩
  · next h => exact ⟨fun hrest => ⟨h, hrest⟩, And.right⟩

theorem rechecked_iff {embedded : Prop} [Decidable embedded] {check : Bool} :
    (if embedded then check else true) = true ↔ (embedded → check = true) := by
  split
  · next h => exact ⟨fun hcheck _ => hcheck, fun hcheck => hcheck h⟩
  · next h => exact ⟨fun _ hembedded => absurd hembedded h, fun _ => rfl⟩

section Ipv4
variable {addr : Ipv4Addr}

theorem mem_ipv4Block_iff {octets : List Nat} {length : Nat} (hlength : octets.length = 4)
    (hoctets : ∀ d ∈ octets, d < 2 ^ 8) :
    (ipv4Block octets length).Mem addr.toNat ↔ Agree 8 length addr.digits octets := by
  refine mem_join_iff hlength.symm rfl ?_ hoctets
  unfold Ipv4Addr.digits
  simp only [List.forall_mem_cons, UInt8.toNat_lt]
  simp

theorem isLoopback_iff : addr.isLoopback = true ↔ (ipv4Block [127, 0, 0, 0] 8).Mem addr.toNat := by
  rw [mem_ipv4Block_iff rfl (by decide)]
  simp [Ipv4Addr.isLoopback, Agree, Ipv4Addr.digits, ← UInt8.toNat_inj]

theorem isPrivate_iff :
    addr.isPrivate = true ↔
      (ipv4Block [10, 0, 0, 0] 8).Mem addr.toNat ∨ (ipv4Block [172, 16, 0, 0] 12).Mem addr.toNat ∨
        (ipv4Block [192, 168, 0, 0] 16).Mem addr.toNat := by
  have hrange : (16 ≤ addr.b.toNat ∧ addr.b.toNat ≤ 31) ↔ addr.b.toNat / 16 = 1 := by omega
  rw [mem_ipv4Block_iff rfl (by decide), mem_ipv4Block_iff rfl (by decide),
    mem_ipv4Block_iff rfl (by decide)]
  simp [Ipv4Addr.isPrivate, Agree, Ipv4Addr.digits, ← UInt8.toNat_inj, UInt8.le_iff_toNat_le,
    and_assoc, or_assoc, hrange]

theorem isLinkLocal_iff :
    addr.isLinkLocal = true ↔ (ipv4Block [169, 254, 0, 0] 16).Mem addr.toNat := by
  rw [mem_ipv4Block_iff rfl (by decide)]
  simp [Ipv4Addr.isLinkLocal, Agree, Ipv4Addr.digits, ← UInt8.toNat_inj]

theorem isMulticast_iff :
    addr.isMulticast = true ↔ (ipv4Block [224, 0, 0, 0] 4).Mem addr.toNat := by
  have hrange : (224 ≤ addr.a.toNat ∧ addr.a.toNat ≤ 239) ↔ addr.a.toNat / 16 = 14 := by omega
  rw [mem_ipv4Block_iff rfl (by decide)]
  simp [Ipv4Addr.isMulticast, Agree, Ipv4Addr.digits, UInt8.le_iff_toNat_le, hrange]

theorem isDocumentation_iff :
    addr.isDocumentation = true ↔
      (ipv4Block [192, 0, 2, 0] 24).Mem addr.toNat ∨
        (ipv4Block [198, 51, 100, 0] 24).Mem addr.toNat ∨
          (ipv4Block [203, 0, 113, 0] 24).Mem addr.toNat := by
  rw [mem_ipv4Block_iff rfl (by decide), mem_ipv4Block_iff rfl (by decide),
    mem_ipv4Block_iff rfl (by decide)]
  simp [Ipv4Addr.isDocumentation, Agree, Ipv4Addr.digits, ← UInt8.toNat_inj, and_assoc, or_assoc]

theorem shared_iff :
    (addr.a == 100 && addr.b &&& 0xc0 == 64) = true ↔
      (ipv4Block [100, 64, 0, 0] 10).Mem addr.toNat := by
  have hmask : addr.b.toNat &&& 192 = 64 ↔ addr.b.toNat / 64 = 1 :=
    and_highMask_eq_iff (m := 2) (k := 6) (c := 1) addr.b.toNat_lt
  rw [mem_ipv4Block_iff rfl (by decide)]
  simp [Agree, Ipv4Addr.digits, ← UInt8.toNat_inj, hmask]

theorem thisNetwork_iff : (addr.a == 0) = true ↔ (ipv4Block [0, 0, 0, 0] 8).Mem addr.toNat := by
  rw [mem_ipv4Block_iff rfl (by decide)]
  simp [Agree, Ipv4Addr.digits, ← UInt8.toNat_inj]

theorem benchmarking_iff :
    (addr.a == 198 && addr.b &&& 0xfe == 18) = true ↔
      (ipv4Block [198, 18, 0, 0] 15).Mem addr.toNat := by
  have hmask : addr.b.toNat &&& 254 = 18 ↔ addr.b.toNat / 2 = 9 :=
    and_highMask_eq_iff (m := 7) (k := 1) (c := 9) addr.b.toNat_lt
  rw [mem_ipv4Block_iff rfl (by decide)]
  simp [Agree, Ipv4Addr.digits, ← UInt8.toNat_inj, hmask]

theorem protocolAssignments_iff :
    (addr.a == 192 && addr.b == 0 && addr.c == 0) = true ↔
      (ipv4Block [192, 0, 0, 0] 24).Mem addr.toNat := by
  rw [mem_ipv4Block_iff rfl (by decide)]
  simp [Agree, Ipv4Addr.digits, ← UInt8.toNat_inj, and_assoc]

theorem reserved_iff : addr.a ≥ 240 ↔ (ipv4Block [240, 0, 0, 0] 4).Mem addr.toNat := by
  have hrange : 240 ≤ addr.a.toNat ↔ addr.a.toNat / 16 = 15 := by
    have := addr.a.toNat_lt
    omega
  rw [mem_ipv4Block_iff rfl (by decide)]
  simp [Agree, Ipv4Addr.digits, UInt8.le_iff_toNat_le, hrange]

theorem isBroadcast_reserved (h : addr.isBroadcast = true) : addr.a ≥ 240 := by
  rw [eq_of_beq h]
  decide

theorem isUnspecified_thisNetwork (h : addr.isUnspecified = true) : (addr.a == 0) = true := by
  rw [eq_of_beq h]
  rfl

/-- The tests are all of the special-purpose blocks but one. -/
theorem isSafePublicIpv4_iff :
    isSafePublicIpv4 addr = true ↔ ∀ block ∈ testedIpv4, ¬ block.Mem addr.toNat := by
  have hbroadcast : ¬ addr.a ≥ 240 → ¬ addr.isBroadcast = true := mt isBroadcast_reserved
  have hunspecified : ¬ (addr.a == 0) = true → ¬ addr.isUnspecified = true :=
    mt isUnspecified_thisNetwork
  unfold isSafePublicIpv4
  simp only [passes_iff, Bool.or_eq_true, not_or, and_true, and_assoc, isLoopback_iff, isPrivate_iff,
    isLinkLocal_iff, isMulticast_iff, isDocumentation_iff, shared_iff, thisNetwork_iff,
    benchmarking_iff, protocolAssignments_iff, reserved_iff] at hbroadcast hunspecified ⊢
  unfold testedIpv4
  simp only [List.forall_mem_cons, List.not_mem_nil, false_implies, implies_true, and_true]
  constructor
  · rintro ⟨hloopback, h10, h172, h192, hlocal, hmulticast, -, -, hdoc1, hdoc2, hdoc3, hshared,
      hnetwork, hbenchmarking, hprotocol, hreserved⟩
    exact ⟨hnetwork, h10, hshared, hloopback, hlocal, h172, hprotocol, hdoc1, h192, hbenchmarking,
      hdoc2, hdoc3, hmulticast, hreserved⟩
  · rintro ⟨hnetwork, h10, hshared, hloopback, hlocal, h172, hprotocol, hdoc1, h192, hbenchmarking,
      hdoc2, hdoc3, hmulticast, hreserved⟩
    exact ⟨hloopback, h10, h172, h192, hlocal, hmulticast, hbroadcast hreserved,
      hunspecified hnetwork, hdoc1, hdoc2, hdoc3, hshared, hnetwork, hbenchmarking, hprotocol,
      hreserved⟩

/-- Past the tests, the range that is not tested is what is left. -/
theorem publicIpv4_iff {n : Nat} (htested : ∀ block ∈ testedIpv4, ¬ block.Mem n) :
    PublicIpv4 n ↔ ¬ Unreachable untestedIpv4 reachableIpv4 n := by
  refine not_congr (and_congr_left fun _ => ?_)
  constructor
  · rintro ⟨block, hblock, hmem⟩
    rcases List.mem_append.mp hblock with htest | huntested
    · exact absurd hmem (htested block htest)
    · exact ⟨block, huntested, hmem⟩
  · rintro ⟨block, hblock, hmem⟩
    exact ⟨block, List.mem_append_right _ hblock, hmem⟩

/-- What is not tested passes the tests. -/
theorem not_mem_testedIpv4 {n : Nat} (h : Unreachable untestedIpv4 reachableIpv4 n) :
    ∀ block ∈ testedIpv4, ¬ block.Mem n := by
  obtain ⟨⟨block, hblock, hmem⟩, -⟩ := h
  have hapart : ∀ block ∈ untestedIpv4, ∀ other ∈ testedIpv4, block.Apart other := by decide
  exact fun other hother => (hapart block hblock other hother).not_mem hmem

theorem not_publicIpv4 {n : Nat} (h : Unreachable untestedIpv4 reachableIpv4 n) :
    ¬ PublicIpv4 n :=
  fun hpublic => (publicIpv4_iff (not_mem_testedIpv4 h)).mp hpublic h

end Ipv4

section Ipv6
variable {addr : Ipv6Addr}

theorem mem_ipv6Block_iff {segments : List Nat} {length : Nat} (hlength : segments.length = 8)
    (hsegments : ∀ d ∈ segments, d < 2 ^ 16) :
    (ipv6Block segments length).Mem addr.toNat ↔ Agree 16 length addr.digits segments := by
  refine mem_join_iff hlength.symm rfl ?_ hsegments
  unfold Ipv6Addr.digits
  simp only [List.forall_mem_cons, UInt16.toNat_lt]
  simp

theorem isLoopback6_iff :
    addr.isLoopback = true ↔ (ipv6Block [0, 0, 0, 0, 0, 0, 0, 1] 128).Mem addr.toNat := by
  obtain ⟨s0, s1, s2, s3, s4, s5, s6, s7⟩ := addr
  rw [mem_ipv6Block_iff rfl (by decide)]
  simp [Ipv6Addr.isLoopback, Agree, Ipv6Addr.digits, ← UInt16.toNat_inj]

theorem isUnspecified6_iff :
    addr.isUnspecified = true ↔ (ipv6Block [0, 0, 0, 0, 0, 0, 0, 0] 128).Mem addr.toNat := by
  obtain ⟨s0, s1, s2, s3, s4, s5, s6, s7⟩ := addr
  rw [mem_ipv6Block_iff rfl (by decide)]
  simp [Ipv6Addr.isUnspecified, Agree, Ipv6Addr.digits, ← UInt16.toNat_inj]

theorem isMulticast6_iff :
    addr.isMulticast = true ↔ (ipv6Block [0xff00, 0, 0, 0, 0, 0, 0, 0] 8).Mem addr.toNat := by
  have hmask : addr.s0.toNat &&& 65280 = 65280 ↔ addr.s0.toNat / 256 = 255 :=
    and_highMask_eq_iff (m := 8) (k := 8) (c := 255) addr.s0.toNat_lt
  rw [mem_ipv6Block_iff rfl (by decide)]
  simp [Ipv6Addr.isMulticast, Agree, Ipv6Addr.digits, ← UInt16.toNat_inj, hmask]

theorem uniqueLocal_iff :
    (addr.s0 &&& 0xfe00 == 0xfc00) = true ↔
      (ipv6Block [0xfc00, 0, 0, 0, 0, 0, 0, 0] 7).Mem addr.toNat := by
  have hmask : addr.s0.toNat &&& 65024 = 64512 ↔ addr.s0.toNat / 512 = 126 :=
    and_highMask_eq_iff (m := 7) (k := 9) (c := 126) addr.s0.toNat_lt
  rw [mem_ipv6Block_iff rfl (by decide)]
  simp [Agree, Ipv6Addr.digits, ← UInt16.toNat_inj, hmask]

theorem linkLocal6_iff :
    (addr.s0 &&& 0xffc0 == 0xfe80) = true ↔
      (ipv6Block [0xfe80, 0, 0, 0, 0, 0, 0, 0] 10).Mem addr.toNat := by
  have hmask : addr.s0.toNat &&& 65472 = 65152 ↔ addr.s0.toNat / 64 = 1018 :=
    and_highMask_eq_iff (m := 10) (k := 6) (c := 1018) addr.s0.toNat_lt
  rw [mem_ipv6Block_iff rfl (by decide)]
  simp [Agree, Ipv6Addr.digits, ← UInt16.toNat_inj, hmask]

theorem siteLocal_iff :
    (addr.s0 &&& 0xffc0 == 0xfec0) = true ↔
      (ipv6Block [0xfec0, 0, 0, 0, 0, 0, 0, 0] 10).Mem addr.toNat := by
  have hmask : addr.s0.toNat &&& 65472 = 65216 ↔ addr.s0.toNat / 64 = 1019 :=
    and_highMask_eq_iff (m := 10) (k := 6) (c := 1019) addr.s0.toNat_lt
  rw [mem_ipv6Block_iff rfl (by decide)]
  simp [Agree, Ipv6Addr.digits, ← UInt16.toNat_inj, hmask]

theorem documentation6_iff :
    (addr.s0 == 0x2001 && addr.s1 == 0x0db8) = true ↔
      (ipv6Block [0x2001, 0xdb8, 0, 0, 0, 0, 0, 0] 32).Mem addr.toNat := by
  rw [mem_ipv6Block_iff rfl (by decide)]
  simp [Agree, Ipv6Addr.digits, ← UInt16.toNat_inj]

/-- The last test: the address is an IPv4 address with a constant in front of it. -/
theorem mappedOrCompatible_iff :
    (addr.s0 == 0 && addr.s1 == 0 && addr.s2 == 0 && addr.s3 == 0 && addr.s4 == 0 &&
        (addr.s5 == 0 || addr.s5 == 0xffff)) = true ↔
      ipv4Compatible.Mem addr.toNat ∨ ipv4Mapped.Mem addr.toNat := by
  unfold ipv4Compatible ipv4Mapped
  rw [mem_ipv6Block_iff rfl (by decide), mem_ipv6Block_iff rfl (by decide)]
  simp [Agree, Ipv6Addr.digits, ← UInt16.toNat_inj, and_assoc, ← and_or_left]

/-- The IPv4 address in the last two segments. -/
theorem lastSegments_toNat :
    Ipv4Addr.toNat ⟨(addr.s6 >>> 8).toUInt8, (addr.s6 &&& 0xff).toUInt8,
        (addr.s7 >>> 8).toUInt8, (addr.s7 &&& 0xff).toUInt8⟩ = addr.toNat % 2 ^ 32 := by
  have hhigh : ∀ s : UInt16, (s >>> 8).toUInt8.toNat = s.toNat / 256 := by
    intro s
    have := s.toNat_lt
    simp [Nat.shiftRight_eq_div_pow]
    omega
  have hlow : ∀ s : UInt16, (s &&& 0xff).toUInt8.toNat = s.toNat % 256 := by
    intro s
    rw [UInt16.toNat_toUInt8, UInt16.toNat_and]
    change (s.toNat &&& (2 ^ 8 - 1)) % 2 ^ 8 = s.toNat % 2 ^ 8
    rw [Nat.and_two_pow_sub_one_eq_mod, Nat.mod_mod]
  have h6 := addr.s6.toNat_lt
  have h7 := addr.s7.toNat_lt
  simp only [Ipv4Addr.toNat, Ipv4Addr.digits, Ipv6Addr.toNat, Ipv6Addr.digits, join, hhigh, hlow,
    List.length_cons, List.length_nil]
  omega

/-- Outside the embedded addresses, the tests are some of the special-purpose blocks. -/
theorem isSafePublicIpv6_iff :
    isSafePublicIpv6 addr = true ↔
      (∀ block ∈ testedIpv6, ¬ block.Mem addr.toNat) ∧
        (ipv4Compatible.Mem addr.toNat ∨ ipv4Mapped.Mem addr.toNat →
          ∀ block ∈ testedIpv4, ¬ block.Mem (addr.toNat % 2 ^ 32)) := by
  unfold isSafePublicIpv6
  simp only [passes_iff, rechecked_iff, mappedOrCompatible_iff, isSafePublicIpv4_iff,
    lastSegments_toNat, uniqueLocal_iff, linkLocal6_iff, siteLocal_iff, documentation6_iff]
  simp only [Bool.or_eq_true, not_or, isLoopback6_iff, isUnspecified6_iff, isMulticast6_iff,
    and_assoc]
  unfold testedIpv6
  simp only [List.forall_mem_cons, List.not_mem_nil, false_implies, implies_true, and_true,
    and_assoc]
  constructor
  · rintro ⟨hloopback, hunspecified, hmulticast, hunique, hlink, hsite, hdocumentation, hembedded⟩
    exact ⟨hunspecified, hloopback, hdocumentation, hunique, hlink, hsite, hmulticast, hembedded⟩
  · rintro ⟨hunspecified, hloopback, hdocumentation, hunique, hlink, hsite, hmulticast, hembedded⟩
    exact ⟨hloopback, hunspecified, hmulticast, hunique, hlink, hsite, hdocumentation, hembedded⟩

/-- An address that is not tested passes the tests. -/
theorem passes_of_mem {block : Block 128} (hblock : block ∈ nat64 :: sixToFour :: untestedIpv6)
    (hmem : block.Mem addr.toNat) :
    isSafePublicIpv6 addr = true ∧ embeddedIpv4 addr.toNat = translatedIpv4 addr.toNat := by
  have hapart : ∀ block ∈ nat64 :: sixToFour :: untestedIpv6,
      ∀ other ∈ ipv4Compatible :: ipv4Mapped :: testedIpv6, block.Apart other := by
    decide
  have hnone : ∀ other ∈ ipv4Compatible :: ipv4Mapped :: testedIpv6, ¬ other.Mem addr.toNat :=
    fun other hother => (hapart block hblock other hother).not_mem hmem
  obtain ⟨hcompatible, hmapped, htested⟩ := by
    simpa only [List.forall_mem_cons] using hnone
  have hembedded : ¬ (ipv4Compatible.Mem addr.toNat ∨ ipv4Mapped.Mem addr.toNat) :=
    not_or.mpr ⟨hcompatible, hmapped⟩
  constructor
  · exact isSafePublicIpv6_iff.mpr ⟨htested, fun h => absurd h hembedded⟩
  · unfold embeddedIpv4
    rw [if_neg hembedded]

theorem exists_translation {n : Nat} (h : n ∈ translatedIpv4 addr.toNat) :
    ∃ block ∈ nat64 :: sixToFour :: untestedIpv6, block.Mem addr.toNat := by
  unfold translatedIpv4 at h
  split at h
  · next hmem => exact ⟨nat64, List.mem_cons_self, hmem⟩
  · split at h
    · next hmem => exact ⟨sixToFour, List.mem_cons_of_mem _ List.mem_cons_self, hmem⟩
    · cases h

/-- So does an IPv4 address that is not tested, within an IPv6 address. -/
theorem passes_of_embedded (hembedded : ipv4Compatible.Mem addr.toNat ∨ ipv4Mapped.Mem addr.toNat)
    (h : Unreachable untestedIpv4 reachableIpv4 (addr.toNat % 2 ^ 32)) :
    isSafePublicIpv6 addr = true := by
  refine isSafePublicIpv6_iff.mpr ⟨?_, fun _ => not_mem_testedIpv4 h⟩
  -- there are two such addresses
  have hlow : addr.toNat % 2 ^ 32 = join 8 [192, 88, 99, 2] := by
    obtain ⟨⟨block, hblock, hmem⟩, -⟩ := h
    cases List.mem_singleton.mp hblock
    simpa [Block.Mem, ipv4Block] using hmem
  have hhigh : addr.toNat / 2 ^ 32 = 0 ∨ addr.toNat / 2 ^ 32 = 0xffff :=
    hembedded.imp (fun hmem => hmem.trans (by decide)) fun hmem => hmem.trans (by decide)
  have hsplit := Nat.div_add_mod addr.toNat (2 ^ 32)
  rw [hlow] at hsplit
  rcases hhigh with hhigh | hhigh
  · rw [hhigh] at hsplit
    rw [← hsplit]
    decide
  · rw [hhigh] at hsplit
    rw [← hsplit]
    decide

end Ipv6

theorem public_of_tested {addr : IpAddr} (htested : ¬ Untested addr)
    (hsafe : isSafePublicIp addr = true) : Public addr := by
  cases addr with
  | v4 addr => exact (publicIpv4_iff (isSafePublicIpv4_iff.mp hsafe)).mpr htested
  | v6 addr =>
    obtain ⟨hblocks, hchecked⟩ := isSafePublicIpv6_iff.mp hsafe
    constructor
    · rintro ⟨⟨block, hblock, hmem⟩, hreachable⟩
      rcases List.mem_append.mp hblock with htest | huntested
      · exact hblocks block htest hmem
      · exact htested (.inl ⟨⟨block, huntested, hmem⟩, hreachable⟩)
    · intro n hn
      have hrest : ¬ Unreachable untestedIpv4 reachableIpv4 n :=
        fun h => htested (.inr (.inr ⟨n, hn, h⟩))
      unfold embeddedIpv4 at hn
      split at hn
      · next hembedded =>
        cases hn
        exact (publicIpv4_iff (hchecked hembedded)).mpr hrest
      · by_contra hprivate
        exact htested (.inr (.inl ⟨n, hn, hprivate⟩))

theorem passes_of_untested {addr : IpAddr} (h : Untested addr) :
    isSafePublicIp addr = true ∧ ¬ Public addr := by
  cases addr with
  | v4 addr => exact ⟨isSafePublicIpv4_iff.mpr (not_mem_testedIpv4 h), not_publicIpv4 h⟩
  | v6 addr =>
    have htranslates : ∀ n ∈ translatedIpv4 addr.toNat, ¬ PublicIpv4 n →
        isSafePublicIp (.v6 addr) = true ∧ ¬ Public (.v6 addr) := by
      intro n htranslated hprivate
      obtain ⟨block, hblock, hmem⟩ := exists_translation htranslated
      obtain ⟨hsafe, hembedded⟩ := passes_of_mem hblock hmem
      exact ⟨hsafe, fun hpublic => hprivate (hpublic.2 n (hembedded ▸ htranslated))⟩
    rcases h with ⟨⟨block, hblock, hmem⟩, hreachable⟩ | ⟨n, htranslated, hprivate⟩ | ⟨n, hn, huntested⟩
    · obtain ⟨hsafe, -⟩ := passes_of_mem
        (List.mem_cons_of_mem _ (List.mem_cons_of_mem _ hblock)) hmem
      exact ⟨hsafe, fun hpublic =>
        hpublic.1 ⟨⟨block, List.mem_append_right _ hblock, hmem⟩, hreachable⟩⟩
    · exact htranslates n htranslated hprivate
    · have hprivate := not_publicIpv4 huntested
      have hmem := hn
      unfold embeddedIpv4 at hn
      split at hn
      · next hembedded =>
        cases hn
        exact ⟨passes_of_embedded hembedded huntested, fun hpublic => hprivate (hpublic.2 _ hmem)⟩
      · exact htranslates n hn hprivate

/-- Whatever the address. -/
theorem public_iff_not_untested (addr : IpAddr) :
    (isSafePublicIp addr = true → Public addr) ↔ ¬ Untested addr := by
  constructor
  · intro hpublic huntested
    obtain ⟨hsafe, hprivate⟩ := passes_of_untested huntested
    exact hprivate (hpublic hsafe)
  · exact public_of_tested

section Resolution
variable {resolver : Resolver} {host : String} {port : UInt16} {addr : SocketAddr}

/-- The first address is chosen, if all of them pass. -/
theorem choose_eq_ok_iff {addrs : List SocketAddr} {chosen result : Option SocketAddr} :
    choose resolver host chosen addrs = .ok result ↔
      (∀ addr ∈ addrs, isSafePublicIp addr.ip = true) ∧ result = chosen.or addrs.head? := by
  induction addrs generalizing chosen with
  | nil =>
    rw [choose, List.head?_nil, Option.or_none, Except.ok.injEq]
    exact ⟨fun h => ⟨nofun, h.symm⟩, fun h => h.2.symm⟩
  | cons addr rest ih =>
    rw [choose, List.forall_mem_cons]
    cases hsafe : isSafePublicIp addr.ip with
    | false => exact ⟨nofun, fun h => absurd h.1.1 Bool.false_ne_true⟩
    | true =>
      rw [if_neg (by decide), ih, List.head?_cons, Option.or_assoc, Option.some_or]
      exact ⟨fun h => ⟨⟨rfl, h.1⟩, h.2⟩, fun h => ⟨h.1.2, h.2⟩⟩

/-- A document is fetched from the first of the addresses, and only if all of them pass. -/
theorem resolveSafe_eq_ok_iff :
    resolveSafe resolver host port = .ok addr ↔
      resolver.isIpLiteral host = false ∧ ∃ addrs, resolver.lookupHost host port = .ok addrs ∧
        addrs.head? = some addr ∧ ∀ resolved ∈ addrs, isSafePublicIp resolved.ip = true := by
  unfold resolveSafe
  cases resolver.isIpLiteral host with
  | true => exact ⟨nofun, nofun⟩
  | false =>
    rw [if_neg Bool.false_ne_true]
    cases resolver.lookupHost host port with
    | error err => exact ⟨nofun, nofun⟩
    | ok addrs =>
      simp only [Except.ok.injEq, exists_eq_left', true_and]
      cases hrun : choose resolver host none addrs with
      | error err =>
        refine ⟨nofun, fun ⟨_, hsafe⟩ => ?_⟩
        have hok : choose resolver host none addrs = .ok (none.or addrs.head?) :=
          choose_eq_ok_iff.mpr ⟨hsafe, rfl⟩
        rw [hrun] at hok
        cases hok
      | ok chosen =>
        obtain ⟨hsafe, rfl⟩ := choose_eq_ok_iff.mp hrun
        rw [Option.none_or]
        cases addrs.head? with
        | none => exact ⟨nofun, nofun⟩
        | some first => exact ⟨fun h => ⟨congrArg some (Except.ok.inj h), hsafe⟩,
            fun h => congrArg Except.ok (Option.some.inj h.1)⟩

/-- Where no address of the host escapes the tests, the one that is connected to is public. -/
theorem public_of_resolveSafe (htested : ∀ addrs, resolver.lookupHost host port = .ok addrs →
      ∀ resolved ∈ addrs, ¬ Untested resolved.ip)
    (hchosen : resolveSafe resolver host port = .ok addr) : Public addr.ip := by
  obtain ⟨-, addrs, hlookup, hhead, hsafe⟩ := resolveSafe_eq_ok_iff.mp hchosen
  have hmem := List.mem_of_head? hhead
  exact public_of_tested (htested addrs hlookup addr hmem) (hsafe addr hmem)

end Resolution

/-- 64:ff9b::a00:1, which a translator sends to 10.0.0.1. -/
theorem translatedPrivate_not_public :
    isSafePublicIp (.v6 ⟨0x64, 0xff9b, 0, 0, 0, 0, 0x0a00, 0x0001⟩) = true ∧
      ¬ Public (.v6 ⟨0x64, 0xff9b, 0, 0, 0, 0, 0x0a00, 0x0001⟩) := by
  refine ⟨by decide, fun h => ?_⟩
  exact h.2 (10 * 2 ^ 24 + 1) (by decide) (by decide)

end UniversalInbox.OAuth2.Cimd
