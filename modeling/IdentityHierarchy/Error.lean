import IdentityHierarchy.Bytes.Hex
import IdentityHierarchy.Config.Curve
import IdentityHierarchy.Text.Outline

set_option autoImplicit false

namespace IdentityHierarchy

inductive ConfigurationFault where
  | foreignKey (depth height : Nat)
  | componentCount (depth expected actual : Nat)
  | unknownOrder (order : Bytes)
  | misfit (height engineHeight : Nat) (curve engineCurve : Curve)
  | other (reason : String)
  deriving DecidableEq

abbrev ConfigurationFault.oversized : ConfigurationFault :=
  .other "cannot encode: the size limit has been reached"

inductive StateFault where
  | notInitialized
  | other (reason : String)
  deriving DecidableEq

abbrev StateFault.notSigning : StateFault :=
  .other "sign can not be called without init_sign first"

abbrev StateFault.notVerifying : StateFault :=
  .other "verify can not be called without init_verify first"

inductive EnvelopeKind where
  | params
  | delegatedKey
  | publicKey
  | masterKey
  deriving DecidableEq

inductive DecodingFault where
  | unexpectedEnd
  | trailingBytes
  | invalidPoint (width : Nat)
  | versionRange (value : Nat)
  | wideInteger
  | reservedInteger
  | wrongVersion (kind : EnvelopeKind) (expected actual : Nat)
  | other (reason : String)
  deriving DecidableEq

inductive Error where
  | configuration (fault : ConfigurationFault)
  | delegationDepthExceeded (depth max : Nat)
  | identityTooLong
  | identityChainMismatch (expected actual : Nat)
  | stateSequence (fault : StateFault)
  | decoding (fault : DecodingFault)
  deriving DecidableEq

def ConfigurationFault.message : ConfigurationFault → String
  | foreignKey depth height =>
    s!"key at depth {depth} does not belong to parameters of height {height}"
  | componentCount depth expected actual =>
    s!"key at depth {depth} needs {expected} delegation components, got {actual}"
  | unknownOrder order => "no supported curve with order " ++ order.toHex
  | misfit height engineHeight curve engineCurve =>
    s!"parameters of height {height} on " ++ curve.name ++
      s!" do not fit an engine of height {engineHeight} on " ++ engineCurve.name
  | other reason => reason

def StateFault.message : StateFault → String
  | notInitialized => "signature must be initialized before it is fed data"
  | other reason => reason

def EnvelopeKind.name : EnvelopeKind → String
  | params => "parameter"
  | delegatedKey => "delegated key"
  | publicKey => "public key"
  | masterKey => "master key"

def DecodingFault.message : DecodingFault → String
  | unexpectedEnd => "io error: unexpected end of file"
  | trailingBytes => "Slice had bytes remaining after deserialization"
  | invalidPoint width => s!"invalid value: byte array, expected an array of {width} bytes"
  | versionRange value => s!"Invalid u32 {value}: you may have a version disagreement?"
  | wideInteger =>
    "Invalid value (u128 range): you may have a version or configuration disagreement?"
  | reservedInteger =>
    "\nByte 255 is treated as an extension point; it should not be encoding anything.\n" ++
      "Do you have a mismatched bincode version or configuration?\n"
  | wrongVersion kind expected actual =>
    "wrong " ++ kind.name ++ s!" version: expected {expected}, got {actual}"
  | other reason => reason

namespace Error

def message : Error → String
  | configuration fault => "Invalid configuration: " ++ fault.message
  | delegationDepthExceeded depth max =>
    s!"Delegation beyond the maximum depth (depth {depth}, maximum {max})"
  | identityTooLong => "The supplied identity was too long"
  | identityChainMismatch expected actual =>
    s!"The identity chain does not match the key (expected {expected} elements, got {actual})"
  | stateSequence fault => "Operation not allowed in the current state: " ++ fault.message
  | decoding fault => "The supplied encoding was malformed: " ++ fault.message

def kind : Error → String
  | configuration _ => "Configuration"
  | delegationDepthExceeded _ _ => "DelegationDepthExceeded"
  | identityTooLong => "IdentityTooLong"
  | identityChainMismatch _ _ => "IdentityChainMismatch"
  | stateSequence _ => "StateSequence"
  | decoding _ => "Decoding"

def outline (error : Error) : String :=
  match error with
  | configuration fault => Text.outlineEntry error.kind (Text.quote fault.message)
  | delegationDepthExceeded depth max =>
    Text.outlineRecord error.kind [("depth", toString depth), ("max", toString max)]
  | identityTooLong => error.kind
  | identityChainMismatch expected actual =>
    Text.outlineRecord error.kind [("expected", toString expected), ("actual", toString actual)]
  | stateSequence fault => Text.outlineEntry error.kind (Text.quote fault.message)
  | decoding fault => Text.outlineEntry error.kind (Text.quote fault.message)

end Error

end IdentityHierarchy
