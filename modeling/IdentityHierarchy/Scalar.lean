import IdentityHierarchy.Sha256

set_option autoImplicit false

namespace IdentityHierarchy

def groupOrder : Nat :=
  0x73eda753299d7d483339d80809a1d80553bda402fffe5bfeffffffff00000001

abbrev Scalar := Fin groupOrder

namespace Scalar

def toBytes (s : Scalar) : Bytes :=
  Bytes.ofNatBE 32 s.val

def ofBytes? (bytes : Bytes) : Option Scalar :=
  if h : Bytes.toNatBE bytes < groupOrder then some ⟨Bytes.toNatBE bytes, h⟩ else none

/-- Hashes a digest again until it reads as a number below the order. -/
def firstReduced : Nat → Bytes → Scalar
  | 0, _ => ⟨0, by decide⟩
  | attempts + 1, digest =>
    match ofBytes? digest with
    | some s => s
    | none => firstReduced attempts (Sha256.digest digest)

def hash (message : Bytes) : Scalar :=
  -- There are `2 ^ 256` digests, so a longer search would only meet digests that it has met.
  firstReduced (1 <<< 256) (Sha256.digest message)

end Scalar

end IdentityHierarchy
