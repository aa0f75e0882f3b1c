import IdentityHierarchy.Config.Curve
import IdentityHierarchy.Groups

set_option autoImplicit false

namespace IdentityHierarchy

variable (S : PairingGroups)

structure PublicParams where
  curve : Curve
  g : S.First
  gHead : S.Second
  g2 : S.First
  g3 : S.First
  h : List S.First
  deriving DecidableEq

structure PublicKey where
  point : S.Second
  deriving DecidableEq

structure MasterKey where
  point : S.First
  deriving DecidableEq

structure MasterKeyPair where
  publicKey : PublicKey S
  masterKey : MasterKey S
  deriving DecidableEq

/-- The secret key of a member at the given depth, which is also a signature under its chain. -/
structure DelegatedKey where
  a0 : S.First
  a1 : S.Second
  b : List S.First
  depth : Nat
  deriving DecidableEq

structure Ciphertext where
  c1 : S.Target
  c2 : S.Second
  c3 : S.First
  deriving DecidableEq

variable {S}

namespace PublicParams

def height (params : PublicParams S) : Nat :=
  params.h.length

def bytes (params : PublicParams S) : Bytes :=
  S.encodeFirst params.g2 ++ S.encodeFirst params.g3 ++ S.encodeFirst params.g ++
    S.encodeSecond params.gHead ++ params.h.flatMap S.encodeFirst

/-- The element that stands for an identity, given the hashes of its elements. -/
def identityElement (params : PublicParams S) (exponents : List Scalar) : S.First :=
  weightedSum exponents params.h + params.g3

end PublicParams

def PublicKey.bytes (key : PublicKey S) : Bytes :=
  S.encodeSecond key.point

def MasterKey.bytes (key : MasterKey S) : Bytes :=
  S.encodeFirst key.point

def DelegatedKey.bytes (key : DelegatedKey S) : Bytes :=
  -- The depth is not part of the bytes.
  S.encodeFirst key.a0 ++ S.encodeSecond key.a1 ++ key.b.flatMap S.encodeFirst

def Ciphertext.bytes (ciphertext : Ciphertext S) : Bytes :=
  S.encodeFirst ciphertext.c3 ++ S.encodeSecond ciphertext.c2 ++ S.encodeTarget ciphertext.c1

end IdentityHierarchy
