import IdentityHierarchy.Scalar

set_option autoImplicit false

namespace IdentityHierarchy

inductive Curve where
  | bls12381
  deriving DecidableEq

namespace Curve

def all : List Curve :=
  [bls12381]

def order : Curve → Nat
  | bls12381 => groupOrder

def orderBits (curve : Curve) : Nat :=
  curve.order.log2 + 1

def orderBytes (curve : Curve) : Bytes :=
  Bytes.ofNatBE 32 curve.order

def ofOrderBytes? (bytes : Bytes) : Option Curve :=
  all.find? fun curve => curve.orderBytes = bytes

def name : Curve → String
  | bls12381 => "Bls12_381"

end Curve

end IdentityHierarchy
