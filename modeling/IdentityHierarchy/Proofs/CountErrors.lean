import IdentityHierarchy.Proofs.History
import IdentityHierarchy.Proofs.Levels
import IdentityHierarchy.Scheme.Precomputed

set_option autoImplicit false

namespace IdentityHierarchy

variable {S : PairingGroups}

/-- What the error says about numbers is true of this height and of a chain of this length. -/
def Error.Justified (height? length? : Option Nat) : Error → Prop
  | .delegationDepthExceeded depth max => height? = some max ∧ max ≤ depth
  | .identityChainMismatch expected actual => length? = some actual ∧ expected ≠ actual
  | .configuration (.componentCount _ expected actual) => expected ≠ actual
  | _ => True

theorem MasterKey.justified_of_delegate (master : MasterKey S) (params : PublicParams S)
    (child : Bytes) (stream : ByteStream) (error : Error)
    (failed : (master.delegate params child stream).1 = .error error) :
    error.Justified (some params.height) none := by
  rcases master.delegate_cases params child stream with ⟨flat, refused⟩ | ⟨h1, h, elements, made⟩
  next =>
    rw [refused] at failed
    cases failed
    simp [Error.Justified, flat]
  next => simp [made] at failed

namespace DelegatedKey

theorem justified_of_delegate (key : DelegatedKey S) (params : PublicParams S)
    (chain : IdentityChain) (child : Bytes) (stream : ByteStream) (error : Error)
    (failed : (key.delegate params chain child stream).1 = .error error) :
    error.Justified (some params.height) (some chain.length) := by
  have outcome := key.delegate_outcome params chain child stream
  generalize key.delegate params chain child stream = result at outcome failed
  cases outcome with
  | deep full =>
    cases failed
    exact ⟨rfl, full⟩
  | miscounted room count =>
    cases failed
    exact ⟨rfl, Ne.symm count⟩
  | foreign room count components =>
    cases failed
    trivial
  | made room count components => cases failed

theorem justified_of_ofParts (params : PublicParams S) (a0 : S.First) (a1 : S.Second)
    (b : List S.First) (depth : Nat) (error : Error)
    (failed : ofParts params a0 a1 b depth = .error error) :
    error.Justified (some params.height) none := by
  unfold ofParts at failed
  split_ifs at failed with deep components
  next =>
    cases failed
    exact ⟨rfl, Nat.le_of_lt deep⟩
  next =>
    cases failed
    exact Ne.symm components

end DelegatedKey

theorem PrecomputedVerifier.justified_of_ofChain (params : PublicParams S) (publicKey : PublicKey S)
    (chain : IdentityChain) (error : Error) (failed : ofChain params publicKey chain = .error error) :
    error.Justified (some params.height) (some chain.length) := by
  unfold ofChain at failed
  split_ifs at failed with full
  cases failed
  exact ⟨rfl, full⟩

theorem SigningKey.justified_of_refusal (key : SigningKey S) (length? : Option Nat) (error : Error)
    (refused : key.refusal? = some error) : error.Justified (some key.params.height) length? := by
  cases key with
  | master params key =>
    simp only [refusal?] at refused
    split_ifs at refused with flat
    cases refused
    simp [Error.Justified, SigningKey.params, flat]
  | delegated params key =>
    simp only [refusal?] at refused
    split_ifs at refused with deep components
    next =>
      cases refused
      exact ⟨rfl, deep⟩
    next =>
      cases refused
      trivial

theorem Reply.error?_signed (result : Except Error Bytes) (error : Error) :
    (signed result).error? = some error ↔ result = .error error := by
  cases result <;> simp [error?]

theorem Reply.error?_checked (result : Except Error Bool) (error : Error) :
    (checked result).error? = some error ↔ result = .error error := by
  cases result <;> simp [error?]

def SessionState.params? : SessionState S → Option (PublicParams S)
  | .uninitialized => none
  | .signing key _ => some key.params
  | .verifying key _ => some key.params

namespace Session

def height? (session : Session S) (call : Call S) : Option Nat :=
  ((call.role?.map Role.params).or session.state.params?).map PublicParams.height

/-- The call is for a signature of depth zero, while there are no delegates. -/
def ChecksDepthZero (session : Session S) : Call S → Prop
  | .verify encoding => session.delegates.length = 0 ∧ ∃ key buffer signature,
      session.state = .verifying key buffer ∧
        DelegatedKey.decode key.params encoding = .ok signature ∧ signature.depth = 0
  | _ => False

theorem justified_of_check (session : Session S) (key : VerifyingKey S) (buffer encoding : Bytes)
    (state : session.state = .verifying key buffer) (height? : Option Nat) (error : Error)
    (failed : checkSignature key session.delegates buffer encoding = .error error) :
    error.Justified height? (some session.delegates.length) ↔
      ¬ session.ChecksDepthZero (.verify encoding) := by
  rcases checkSignature_refusals key session.delegates buffer encoding error failed with
    ⟨fault, undecoded, rfl⟩ | ⟨signature, decoded, depth, rfl⟩
  next => simp [Error.Justified, ChecksDepthZero, state, undecoded]
  next =>
    -- The depth above that of the signature is the length only if there is no depth above.
    have justified : signature.depth - 1 ≠ session.delegates.length ↔
        ¬ (session.delegates.length = 0 ∧ signature.depth = 0) := by omega
    simpa [Error.Justified, ChecksDepthZero, state, decoded] using justified

theorem justified_of_sign (session : Session S) (result : Except Error Bytes × Session S)
    (outcome : session.SignOutcome result) (error : Error) (failed : result.1 = .error error) :
    error.Justified (session.height? .sign) (some session.delegates.length) := by
  cases outcome with
  | idle idle =>
    cases failed
    trivial
  | miscounted key buffer state count =>
    cases failed
    exact ⟨rfl, Ne.symm count⟩
  | refused key buffer state count fault refusal =>
    cases failed
    have height : session.height? .sign = some key.params.height := by
      simp [height?, Call.role?, state, SessionState.params?]
    rw [height]
    exact key.justified_of_refusal _ error refusal
  | made key buffer state count accepted =>
    -- All checks have been passed, so the signature could only be too large.
    obtain large | encoded := (key.signature session.delegates buffer
      (drawExponent key.params.curve session.stream).1).encode_cases
    next =>
      cases large.symm.trans failed
      trivial
    next => cases encoded.symm.trans failed

theorem step_of_checksDepthZero (session : Session S) (call : Call S)
    (checks : session.ChecksDepthZero call) :
    (session.step call).1.error? = some (.identityChainMismatch 0 0) := by
  cases call with
  | verify encoding =>
    obtain ⟨none, key, buffer, signature, state, decoded, zero⟩ := checks
    have misplaced : signature.depth ≠ session.delegates.length + 1 := by omega
    have refused := checkSignature_misplaced key session.delegates buffer encoding signature decoded
      misplaced
    simp [step, verify, state, refused, Reply.error?, none, zero]
  | _ => cases checks

theorem justified_of_step (session : Session S) (call : Call S) (error : Error)
    (failed : (session.step call).1.error? = some error) :
    error.Justified (session.height? call) (some session.delegates.length) ↔
      ¬ session.ChecksDepthZero call := by
  have outcome := session.step_outcome call
  generalize session.step call = result at outcome failed
  cases outcome with
  | replaced chain => cases failed
  | misfit role unfit =>
    cases failed
    cases role <;> simp [Error.Justified, ChecksDepthZero, Role.call]
  | miscounted key fits count =>
    cases failed
    simp [Error.Justified, ChecksDepthZero, Ne.symm count]
  | prepared role fits count => cases failed
  | unfed data idle =>
    cases failed
    simp [Error.Justified, ChecksDepthZero]
  | fed data role buffer state => cases failed
  | signed result outcome =>
    have justified := session.justified_of_sign result outcome error
      ((Reply.error?_signed _ error).mp failed)
    simp [ChecksDepthZero, justified]
  | unchecked signature idle =>
    cases failed
    simp [Error.Justified, ChecksDepthZero, idle]
  | checked signature key buffer state =>
    exact session.justified_of_check key buffer signature state _ error
      ((Reply.error?_checked _ error).mp failed)

/-- Of all the operations that refuse a number, only the check of a signature can be wrong about it,
and it is wrong for signatures of depth zero that are checked without delegates, and for no other. -/
theorem count_errors_justified (S : PairingGroups) :
    (∀ (master : MasterKey S) params child stream error,
      (master.delegate params child stream).1 = .error error →
        error.Justified (some params.height) none) ∧
    (∀ (key : DelegatedKey S) params chain child stream error,
      (key.delegate params chain child stream).1 = .error error →
        error.Justified (some params.height) (some chain.length)) ∧
    (∀ (params : PublicParams S) a0 a1 b depth error,
      DelegatedKey.ofParts params a0 a1 b depth = .error error →
        error.Justified (some params.height) none) ∧
    (∀ (params : PublicParams S) publicKey chain error,
      PrecomputedVerifier.ofChain params publicKey chain = .error error →
        error.Justified (some params.height) (some chain.length)) ∧
    ∀ (session : Session S) call,
      (session.ChecksDepthZero call →
        (session.step call).1.error? = some (.identityChainMismatch 0 0)) ∧
      ∀ error, (session.step call).1.error? = some error →
        (error.Justified (session.height? call) (some session.delegates.length) ↔
          ¬ session.ChecksDepthZero call) := by
  refine ⟨MasterKey.justified_of_delegate, DelegatedKey.justified_of_delegate,
    DelegatedKey.justified_of_ofParts, PrecomputedVerifier.justified_of_ofChain, ?_⟩
  intro session call
  exact ⟨session.step_of_checksDepthZero call, session.justified_of_step call⟩

theorem count_errors_justified_depth_zero :
    let params := Exponents.params [7]
    let keys := params.masterKeys 13
    let encoding := (DelegatedKey.ofMaster params keys.masterKey).encoding
    let session := ((start (.ofHeight 1) (.seeded [] [])).run
      [.initVerify ⟨params, keys.publicKey⟩, .update [112]]).2
    session.Reachable ∧ session.ChecksDepthZero (.verify encoding) ∧
      (session.step (.verify encoding)).1.error? = some (.identityChainMismatch 0 0) ∧
      ¬ Error.Justified (some 1) (some 0) (.identityChainMismatch 0 0) := by
  intro params keys encoding session
  have decoded := (DelegatedKey.ofMaster params keys.masterKey).decode_encoding params rfl (by decide)
  have checks : session.ChecksDepthZero (.verify encoding) :=
    ⟨rfl, _, _, _, rfl, decoded, rfl⟩
  obtain ⟨-, -, -, -, steps⟩ := count_errors_justified exponents
  obtain ⟨refused, justified⟩ := steps session (.verify encoding)
  have wrong := mt (justified _ (refused checks)).mp (not_not_intro checks)
  exact ⟨⟨_, _, _, rfl⟩, checks, refused checks, wrong⟩

end Session

end IdentityHierarchy
