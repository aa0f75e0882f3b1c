import IdentityHierarchy.Error
import IdentityHierarchy.Identity.Chain
import IdentityHierarchy.Keys.Basic
import IdentityHierarchy.Random.Exponent

/-!
Delegation of keys. A key for a chain with the element `F` has `a0 = master + r F`, `a1 = r gHead`
and `b = r h` for the elements of `h` that the chain does not reach yet.
-/

set_option autoImplicit false

namespace IdentityHierarchy

variable {S : PairingGroups}

namespace DelegatedKey

def ofMaster (params : PublicParams S) (master : MasterKey S) : DelegatedKey S :=
  -- The key of the root, with the exponent zero.
  { a0 := master.point, a1 := 0, b := List.replicate params.height 0, depth := 0 }

def ofParts (params : PublicParams S) (a0 : S.First) (a1 : S.Second) (b : List S.First)
    (depth : Nat) : Except Error (DelegatedKey S) :=
  if params.height < depth then
    .error (.delegationDepthExceeded depth params.height)
  else if b.length ≠ params.height - depth then
    .error (.configuration (.componentCount depth (params.height - depth) b.length))
  else .ok ⟨a0, a1, b, depth⟩

def delegationFault? (key : DelegatedKey S) (params : PublicParams S) (chain : IdentityChain) :
    Option Error :=
  if params.height ≤ key.depth then
    some (.delegationDepthExceeded key.depth params.height)
  else if chain.length ≠ key.depth then
    some (.identityChainMismatch key.depth chain.length)
  else if key.b.length ≠ params.height - key.depth then
    some (.configuration (.foreignKey key.depth params.height))
  else none

def childKey (key : DelegatedKey S) (params : PublicParams S) (chain : IdentityChain)
    (child : Bytes) (w : Scalar) : DelegatedKey S :=
  let x := Scalar.hash child
  { a0 := x • key.b.headD 0 + w • params.identityElement (chain.hashes ++ [x]) + key.a0
    a1 := w • params.gHead + key.a1
    b := List.zipWith (fun b h => b + w • h) key.b.tail (params.h.drop (key.depth + 1))
    depth := key.depth + 1 }

def delegate (key : DelegatedKey S) (params : PublicParams S) (chain : IdentityChain)
    (child : Bytes) (stream : ByteStream) : Except Error (DelegatedKey S) × ByteStream :=
  match key.delegationFault? params chain with
  | some fault => (.error fault, stream)
  | none =>
    let (w, stream) := drawExponent params.curve stream
    (.ok (key.childKey params chain child w), stream)

end DelegatedKey

namespace MasterKey

def childKey (master : MasterKey S) (params : PublicParams S) (h1 : S.First) (h : List S.First)
    (child : Bytes) (v : Scalar) : DelegatedKey S :=
  { a0 := v • (Scalar.hash child • h1 + params.g3) + master.point
    a1 := v • params.gHead
    b := h.map fun h => v • h
    depth := 1 }

def delegate (master : MasterKey S) (params : PublicParams S) (child : Bytes)
    (stream : ByteStream) : Except Error (DelegatedKey S) × ByteStream :=
  match params.h with
  | [] => (.error (.delegationDepthExceeded 0 0), stream)
  | h1 :: h =>
    let (v, stream) := drawExponent params.curve stream
    (.ok (master.childKey params h1 h child v), stream)

end MasterKey

end IdentityHierarchy
