import Mathlib.Algebra.Ring.Nat

/-!
# Addresses and networks of both families

An address is the value `ipaddress.ip_address` parses. Two texts denote the same address exactly
when they have the same compressed text, so an address also stands for its compressed text.
-/

namespace Kaya

/-- An IPv4 or IPv6 address. -/
inductive IPAddr
  | v4 (value : ℕ)
  | v6 (value : ℕ)
  deriving DecidableEq

namespace IPAddr

/-- `.version`. -/
def version : IPAddr → ℕ
  | v4 _ => 4
  | v6 _ => 6

/-- Number of address bits of the family. -/
def width : IPAddr → ℕ
  | v4 _ => 32
  | v6 _ => 128

/-- The address as a number. -/
def value : IPAddr → ℕ
  | v4 n => n
  | v6 n => n

end IPAddr

/-- A network: any of its addresses with the prefix length (`strict=False`). -/
structure IPNet where
  base : IPAddr
  prefixLength : ℕ
  deriving DecidableEq

/-- `address.version == network.version and address in network`. -/
def IPNet.contains (network : IPNet) (address : IPAddr) : Bool :=
  decide (address.version = network.base.version) &&
    decide (address.value / 2 ^ (address.width - network.prefixLength) =
      network.base.value / 2 ^ (address.width - network.prefixLength))

end Kaya
