import IdentityHierarchy.Scheme.Basic
import IdentityHierarchy.Keys.Basic
import IdentityHierarchy.Random.Element
import IdentityHierarchy.Random.Exponent

set_option autoImplicit false

namespace IdentityHierarchy

variable {S : PairingGroups}

def Scheme.setup (scheme : Scheme) (attempts : Nat) (stream : ByteStream) :
    Option (PublicParams S × ByteStream) := do
  let (g2, stream) ← S.drawElement attempts stream
  let (g3, stream) ← S.drawElement attempts stream
  let (h, stream) ← S.drawElements attempts scheme.maxDepth stream
  let params : PublicParams S :=
    { curve := scheme.curve
      g := S.firstGenerator
      gHead := S.secondGenerator
      g2 := g2
      g3 := g3
      h := h }
  return (params, stream)

namespace PublicParams

def masterKeys (params : PublicParams S) (secret : Scalar) : MasterKeyPair S :=
  { publicKey := ⟨secret • params.gHead⟩
    masterKey := ⟨secret • params.g2⟩ }

def drawMasterKeys (params : PublicParams S) (stream : ByteStream) :
    MasterKeyPair S × ByteStream :=
  let (secret, stream) := drawExponent params.curve stream
  (params.masterKeys secret, stream)

end PublicParams

end IdentityHierarchy
