import IdentityHierarchy.Bytes.Hex
import IdentityHierarchy.Keys.Basic
import IdentityHierarchy.Text.Outline

set_option autoImplicit false

namespace IdentityHierarchy

open Text (outlineEntry outlineRecord quote)

variable {S : PairingGroups}

def Bytes.fingerprint (bytes : Bytes) : String :=
  Bytes.toHex (bytes.take 16)

def PublicParams.outline (params : PublicParams S) : String :=
  outlineRecord "PublicParams"
    [ ("curve", params.curve.name),
      ("max_height", toString params.height),
      ("fingerprint", quote params.bytes.fingerprint) ]

def PublicKey.outline (key : PublicKey S) : String :=
  outlineEntry "PublicKey" (quote key.bytes.fingerprint)

def MasterKey.outline (key : MasterKey S) : String :=
  outlineEntry "MasterKey" (quote key.bytes.fingerprint)

def MasterKeyPair.outline (pair : MasterKeyPair S) : String :=
  outlineRecord "MasterKeyPair"
    [("public_key", pair.publicKey.outline), ("secret_key", pair.masterKey.outline)]

def DelegatedKey.outline (key : DelegatedKey S) : String :=
  outlineRecord "DelegatedSecretKey"
    [("depth", toString key.depth), ("fingerprint", quote key.bytes.fingerprint)]

def Ciphertext.outline (ciphertext : Ciphertext S) : String :=
  outlineEntry "Ciphertext" (quote ciphertext.bytes.fingerprint)

end IdentityHierarchy
