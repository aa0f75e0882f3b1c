import IdentityHierarchy.Random.Element
import IdentityHierarchy.Scheme.Encryption

set_option autoImplicit false

namespace IdentityHierarchy

variable {S : PairingGroups}

namespace PublicParams

def equationHolds (params : PublicParams S) (publicKey : PublicKey S) (element : S.First)
    (key : DelegatedKey S) : Bool :=
  -- The key opens the identity with the given element: `e(F, a1) e(g2, pk) = e(a0, gHead)`.
  decide <|
    S.pairings
      [(element, key.a1), (params.g2, publicKey.point), (-key.a0, params.gHead)] = 1

def verify (params : PublicParams S) (publicKey : PublicKey S) (chain : IdentityChain)
    (key : DelegatedKey S) : Except Error Bool :=
  if chain.length ≠ key.depth then .ok false
  else if params.height < chain.length then .error .identityTooLong
  else .ok (params.equationHolds publicKey (params.identityElement chain.hashes) key)

/-- Encrypts a random message and compares it with what the key decrypts. The message is searched
for with at most the given number of attempts. -/
def verifyByTrial (params : PublicParams S) (attempts : Nat) (publicKey : PublicKey S)
    (chain : IdentityChain) (key : DelegatedKey S) (stream : ByteStream) :
    Option (Except Error Bool × ByteStream) :=
  if chain.length ≠ key.depth then some (.ok false, stream)
  else do
    let (message, stream) ← S.drawTarget attempts stream
    let (ciphertext, stream) := params.encrypt publicKey chain message stream
    return (ciphertext.map fun c => decide (key.decrypt c = message), stream)

end PublicParams

end IdentityHierarchy
