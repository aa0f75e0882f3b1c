import IdentityHierarchy.Scheme.Verification

set_option autoImplicit false

namespace IdentityHierarchy

structure PrecomputedVerifier (S : PairingGroups) where
  params : PublicParams S
  publicKey : PublicKey S
  chain : IdentityChain
  element : S.First

namespace PrecomputedVerifier

variable {S : PairingGroups}

def ofChain (params : PublicParams S) (publicKey : PublicKey S) (chain : IdentityChain) :
    Except Error (PrecomputedVerifier S) :=
  if params.height ≤ chain.length then
    .error (.delegationDepthExceeded chain.length params.height)
  else .ok ⟨params, publicKey, chain, params.identityElement chain.hashes⟩

def verify (verifier : PrecomputedVerifier S) (message : Bytes) (key : DelegatedKey S) : Bool :=
  if key.depth ≠ verifier.chain.length + 1 then false
  else
    let h := verifier.params.h.getD verifier.chain.length 0
    verifier.params.equationHolds verifier.publicKey
      (verifier.element + Scalar.hash message • h) key

end PrecomputedVerifier

end IdentityHierarchy
