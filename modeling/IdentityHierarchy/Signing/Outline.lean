import IdentityHierarchy.Signing.Session

set_option autoImplicit false

namespace IdentityHierarchy

open Text (outlineList outlineRecord)

variable {S : PairingGroups}

def SigningKey.outline : SigningKey S → String
  | .master params key => outlineRecord "Master" [("params", params.outline), ("key", key.outline)]
  | .delegated params key =>
    outlineRecord "Delegated" [("params", params.outline), ("key", key.outline)]

def VerifyingKey.outline (key : VerifyingKey S) : String :=
  outlineRecord "VerifyingKey"
    [("params", key.params.outline), ("public_key", key.publicKey.outline)]

def outlineBuffer (buffer : Bytes) : String :=
  outlineList (buffer.map fun byte => toString byte.toNat)

def SessionState.outline : SessionState S → String
  | .uninitialized => "Uninitialized"
  | .signing key buffer =>
    outlineRecord "Signing" [("key", key.outline), ("buffer", outlineBuffer buffer)]
  | .verifying key buffer =>
    outlineRecord "Verifying" [("key", key.outline), ("buffer", outlineBuffer buffer)]

def Session.outline (session : Session S) (generator : String) : String :=
  outlineRecord "SignatureEngine"
    [ ("hibe", session.scheme.outline),
      ("rng", generator),
      ("delegate_ids", session.delegates.outline),
      ("state", session.state.outline) ]

end IdentityHierarchy
