import IdentityHierarchy.Envelope.Basic
import IdentityHierarchy.Keys.Outline
import IdentityHierarchy.Scheme.Setup
import IdentityHierarchy.Scheme.Verification

set_option autoImplicit false

namespace IdentityHierarchy

variable (S : PairingGroups)

inductive SigningKey where
  | master (params : PublicParams S) (key : MasterKey S)
  | delegated (params : PublicParams S) (key : DelegatedKey S)
  deriving DecidableEq

structure VerifyingKey where
  params : PublicParams S
  publicKey : PublicKey S
  deriving DecidableEq

inductive SessionState where
  | uninitialized
  | signing (key : SigningKey S) (buffer : Bytes)
  | verifying (key : VerifyingKey S) (buffer : Bytes)
  deriving DecidableEq

structure Session where
  scheme : Scheme
  stream : ByteStream
  delegates : IdentityChain
  state : SessionState S

variable {S}

namespace SigningKey

def params : SigningKey S → PublicParams S
  | master params _ => params
  | delegated params _ => params

def depth : SigningKey S → Nat
  | master _ _ => 0
  | delegated _ key => key.depth

def sign (key : SigningKey S) (chain : IdentityChain) (message : Bytes) (stream : ByteStream) :
    Except Error (DelegatedKey S) × ByteStream :=
  match key with
  | master params key => key.delegate params message stream
  | delegated params key => key.delegate params chain message stream

end SigningKey

namespace Session

def start (scheme : Scheme) (stream : ByteStream) : Session S :=
  { scheme := scheme, stream := stream, delegates := .root, state := .uninitialized }

def setDelegates (session : Session S) (chain : IdentityChain) : Session S :=
  { session with delegates := chain }

def paramsFault? (session : Session S) (params : PublicParams S) : Option Error :=
  if params.height ≠ session.scheme.maxDepth ∨ params.curve ≠ session.scheme.curve then
    some <| .configuration <|
      .misfit params.height session.scheme.maxDepth params.curve session.scheme.curve
  else none

def countFault? (session : Session S) (key : SigningKey S) : Option Error :=
  if session.delegates.length ≠ key.depth then
    some (.identityChainMismatch key.depth session.delegates.length)
  else none

def initSign (session : Session S) (key : SigningKey S) : Except Error Unit × Session S :=
  match session.paramsFault? key.params with
  | some fault => (.error fault, session)
  | none =>
    match session.countFault? key with
    | some fault => (.error fault, session)
    | none => (.ok (), { session with state := .signing key [] })

def initVerify (session : Session S) (key : VerifyingKey S) : Except Error Unit × Session S :=
  match session.paramsFault? key.params with
  | some fault => (.error fault, session)
  | none => (.ok (), { session with state := .verifying key [] })

def update (session : Session S) (data : Bytes) : Except Error Unit × Session S :=
  match session.state with
  | .uninitialized => (.error (.stateSequence .notInitialized), session)
  | .signing key buffer => (.ok (), { session with state := .signing key (buffer ++ data) })
  | .verifying key buffer => (.ok (), { session with state := .verifying key (buffer ++ data) })

def sign (session : Session S) : Except Error Bytes × Session S :=
  match session.state with
  | .signing key buffer =>
    match session.countFault? key with
    | some fault => (.error fault, session)
    | none =>
      -- The buffer is emptied, whether or not the signature can be made and encoded.
      let (signature, stream) := key.sign session.delegates buffer session.stream
      (signature.bind DelegatedKey.encode,
        { session with stream := stream, state := .signing key [] })
  | _ => (.error (.stateSequence .notSigning), session)

def checkSignature (key : VerifyingKey S) (chain : IdentityChain) (message signature : Bytes) :
    Except Error Bool := do
  let signature ← DelegatedKey.decode key.params signature
  if chain.length + 1 ≠ signature.depth then
    throw (.identityChainMismatch (signature.depth - 1) chain.length)
  -- The length of the whole identity follows, and is checked nevertheless.
  let identity := chain.child message
  if identity.length ≠ signature.depth then
    throw (.identityChainMismatch signature.depth identity.length)
  key.params.verify key.publicKey identity signature

def verify (session : Session S) (signature : Bytes) : Except Error Bool × Session S :=
  match session.state with
  | .verifying key buffer =>
    (checkSignature key session.delegates buffer signature,
      { session with state := .verifying key [] })
  | _ => (.error (.stateSequence .notVerifying), session)

end Session

end IdentityHierarchy
