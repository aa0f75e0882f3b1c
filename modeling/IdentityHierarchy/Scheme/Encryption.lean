import IdentityHierarchy.Error
import IdentityHierarchy.Identity.Chain
import IdentityHierarchy.Keys.Basic
import IdentityHierarchy.Random.Exponent

set_option autoImplicit false

namespace IdentityHierarchy

variable {S : PairingGroups}

namespace PublicParams

def ciphertext (params : PublicParams S) (key : PublicKey S) (chain : IdentityChain)
    (message : S.Target) (s : Scalar) : Ciphertext S :=
  { c1 := S.pair params.g2 key.point ^ s * message
    c2 := s • params.gHead
    c3 := s • params.identityElement chain.hashes }

def encrypt (params : PublicParams S) (key : PublicKey S) (chain : IdentityChain)
    (message : S.Target) (stream : ByteStream) : Except Error (Ciphertext S) × ByteStream :=
  if params.height < chain.length then (.error .identityTooLong, stream)
  else
    let (s, stream) := drawExponent params.curve stream
    (.ok (params.ciphertext key chain message s), stream)

end PublicParams

def DelegatedKey.decrypt (key : DelegatedKey S) (ciphertext : Ciphertext S) : S.Target :=
  ciphertext.c1 * S.pairings [(ciphertext.c3, key.a1), (-key.a0, ciphertext.c2)]

end IdentityHierarchy
