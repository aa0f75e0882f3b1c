import IdentityHierarchy.Envelope.Reader
import IdentityHierarchy.Scheme.Delegation

set_option autoImplicit false

namespace IdentityHierarchy

variable {S : PairingGroups}

/-- The most bytes that an encoding may have. Decoding does not look at it. -/
def encodingLimit : Nat := 0x100000

def Bytes.limited (encoding : Bytes) : Except Error Bytes :=
  if encodingLimit < encoding.length then .error (.configuration .oversized) else .ok encoding

def EnvelopeKind.version : EnvelopeKind → Nat
  | params => 333
  | delegatedKey => 334
  | publicKey => 335
  | masterKey => 336

namespace EnvelopeKind

def encodeVersion (kind : EnvelopeKind) : Bytes :=
  Bytes.ofNumber kind.version

def decode {A : Type} (kind : EnvelopeKind) (fields : Reader A) (bytes : Bytes) :
    Except Error A :=
  -- The version is only looked at when all fields have been read.
  let envelope : Reader (Nat × A) := do
    let version ← Reader.version
    let value ← fields
    return (version, value)
  match envelope.runAll bytes with
  | .error fault => .error (.decoding fault)
  | .ok (version, value) =>
    if version = kind.version then .ok value
    else .error (.decoding (.wrongVersion kind kind.version version))

end EnvelopeKind

namespace PublicParams

def encoding (params : PublicParams S) : Bytes :=
  EnvelopeKind.params.encodeVersion ++ params.curve.orderBytes ++ S.encodeFirst params.g ++
    S.encodeSecond params.gHead ++ S.encodeFirst params.g2 ++ S.encodeFirst params.g3 ++
    Bytes.ofList S.encodeFirst params.h

def encode (params : PublicParams S) : Except Error Bytes :=
  params.encoding.limited

def fields (S : PairingGroups) : Reader (Bytes × (Curve → PublicParams S)) := do
  let order ← Reader.take 32
  let g ← Reader.first S
  let gHead ← Reader.second S
  let g2 ← Reader.first S
  let g3 ← Reader.first S
  let h ← Reader.list (Reader.first S)
  return (order, fun curve => ⟨curve, g, gHead, g2, g3, h⟩)

def decode (S : PairingGroups) (bytes : Bytes) : Except Error (PublicParams S) := do
  let (order, params) ← EnvelopeKind.params.decode (fields S) bytes
  match Curve.ofOrderBytes? order with
  | some curve => return params curve
  | none => throw (.configuration (.unknownOrder order))

end PublicParams

namespace DelegatedKey

def encoding (key : DelegatedKey S) : Bytes :=
  EnvelopeKind.delegatedKey.encodeVersion ++ Bytes.ofNumber key.depth ++ S.encodeFirst key.a0 ++
    S.encodeSecond key.a1 ++ Bytes.ofList S.encodeFirst key.b

def encode (key : DelegatedKey S) : Except Error Bytes :=
  key.encoding.limited

def fields (S : PairingGroups) : Reader (DelegatedKey S) := do
  let depth ← Reader.number
  let a0 ← Reader.first S
  let a1 ← Reader.second S
  let b ← Reader.list (Reader.first S)
  return ⟨a0, a1, b, depth⟩

def decode (params : PublicParams S) (bytes : Bytes) : Except Error (DelegatedKey S) := do
  let key ← EnvelopeKind.delegatedKey.decode (fields S) bytes
  match ofParts params key.a0 key.a1 key.b key.depth with
  | .ok key => return key
  | .error error => throw (.decoding (.other error.message))

end DelegatedKey

namespace PublicKey

def encoding (key : PublicKey S) : Bytes :=
  EnvelopeKind.publicKey.encodeVersion ++ S.encodeSecond key.point

def encode (key : PublicKey S) : Except Error Bytes :=
  key.encoding.limited

def decode (S : PairingGroups) (bytes : Bytes) : Except Error (PublicKey S) :=
  EnvelopeKind.publicKey.decode (PublicKey.mk <$> Reader.second S) bytes

end PublicKey

namespace MasterKey

def encoding (key : MasterKey S) : Bytes :=
  EnvelopeKind.masterKey.encodeVersion ++ S.encodeFirst key.point

def encode (key : MasterKey S) : Except Error Bytes :=
  key.encoding.limited

def decode (S : PairingGroups) (bytes : Bytes) : Except Error (MasterKey S) :=
  EnvelopeKind.masterKey.decode (MasterKey.mk <$> Reader.first S) bytes

end MasterKey

end IdentityHierarchy
