import IdentityHierarchy.Proofs.Exponents
import IdentityHierarchy.Signing.Session

set_option autoImplicit false

namespace IdentityHierarchy

variable (S : PairingGroups)

inductive Call where
  | setDelegates (chain : IdentityChain)
  | initSign (key : SigningKey S)
  | initVerify (key : VerifyingKey S)
  | update (data : Bytes)
  | sign
  | verify (signature : Bytes)

inductive Reply where
  | done (result : Except Error Unit)
  | signed (result : Except Error Bytes)
  | checked (result : Except Error Bool)
  deriving DecidableEq

variable {S}

theorem DelegatedKey.encode_cases (key : DelegatedKey S) :
    key.encode = .error (.configuration .oversized) ∨ key.encode = .ok key.encoding := by
  unfold encode Bytes.limited
  by_cases large : encodingLimit < key.encoding.length
  next => exact .inl (if_pos large)
  next => exact .inr (if_neg large)

def Scheme.Fits (scheme : Scheme) (params : PublicParams S) : Prop :=
  params.height = scheme.maxDepth ∧ params.curve = scheme.curve

namespace SigningKey

def components : SigningKey S → Nat
  | master params _ => params.height
  | delegated _ key => key.b.length

def refusal? : SigningKey S → Option Error
  | master params _ => if params.height = 0 then some (.delegationDepthExceeded 0 0) else none
  | delegated params key =>
    if params.height ≤ key.depth then some (.delegationDepthExceeded key.depth params.height)
    else if key.b.length ≠ params.height - key.depth then
      some (.configuration (.foreignKey key.depth params.height))
    else none

def signature (key : SigningKey S) (chain : IdentityChain) (message : Bytes) (w : Scalar) :
    DelegatedKey S :=
  match key with
  | master params key => key.childKey params (params.h.headD 0) params.h.tail message w
  | delegated params key => key.childKey params chain message w

theorem refusal?_eq_none_iff (key : SigningKey S) :
    key.refusal? = none ↔
      key.depth < key.params.height ∧ key.components = key.params.height - key.depth := by
  cases key with
  | master params key =>
    simp [refusal?, depth, SigningKey.params, components, Nat.pos_iff_ne_zero]
  | delegated params key =>
    by_cases deep : params.height ≤ key.depth
    next => simp [refusal?, depth, SigningKey.params, deep, Nat.not_lt.mpr deep]
    next =>
      by_cases count : key.b.length = params.height - key.depth <;>
        simp [refusal?, depth, SigningKey.params, components, deep, Nat.lt_of_not_le deep, count]

theorem delegationFault?_of_count (params : PublicParams S) (key : DelegatedKey S)
    (chain : IdentityChain) (count : chain.length = key.depth) :
    key.delegationFault? params chain = (delegated params key).refusal? := by
  unfold DelegatedKey.delegationFault? refusal?
  rw [if_neg (not_not_intro count)]

theorem sign_refused (key : SigningKey S) (chain : IdentityChain) (message : Bytes)
    (stream : ByteStream) (count : chain.length = key.depth) (fault : Error)
    (refused : key.refusal? = some fault) :
    key.sign chain message stream = (.error fault, stream) := by
  cases key with
  | master params key =>
    obtain ⟨curve, g, gHead, g2, g3, h⟩ := params
    cases h with
    | nil =>
      simp only [refusal?, PublicParams.height, List.length_nil, if_true, Option.some.injEq] at refused
      simp [SigningKey.sign, MasterKey.delegate, ← refused]
    | cons h1 rest => simp [refusal?, PublicParams.height] at refused
  | delegated params key =>
    simp only [SigningKey.sign, DelegatedKey.delegate, delegationFault?_of_count params key chain count,
      refused]

theorem sign_accepted (key : SigningKey S) (chain : IdentityChain) (message : Bytes)
    (stream : ByteStream) (count : chain.length = key.depth) (accepted : key.refusal? = none) :
    key.sign chain message stream =
      (.ok (key.signature chain message (drawExponent key.params.curve stream).1),
        (drawExponent key.params.curve stream).2) := by
  cases key with
  | master params key =>
    obtain ⟨curve, g, gHead, g2, g3, h⟩ := params
    cases h with
    | nil => simp [refusal?, PublicParams.height] at accepted
    | cons h1 rest => rfl
  | delegated params key =>
    simp only [SigningKey.sign, DelegatedKey.delegate, delegationFault?_of_count params key chain count,
      accepted]
    rfl

end SigningKey

namespace Session

def step (session : Session S) : Call S → Reply × Session S
  | .setDelegates chain => (.done (.ok ()), session.setDelegates chain)
  | .initSign key => let (result, next) := session.initSign key; (.done result, next)
  | .initVerify key => let (result, next) := session.initVerify key; (.done result, next)
  | .update data => let (result, next) := session.update data; (.done result, next)
  | .sign => let (result, next) := session.sign; (.signed result, next)
  | .verify signature => let (result, next) := session.verify signature; (.checked result, next)

def run : Session S → List (Call S) → List Reply × Session S
  | session, [] => ([], session)
  | session, call :: rest =>
    let (reply, next) := session.step call
    let (replies, last) := next.run rest
    (reply :: replies, last)

def Fits (session : Session S) : Prop :=
  match session.state with
  | .uninitialized => True
  | .signing key _ => session.scheme.Fits key.params
  | .verifying key _ => session.scheme.Fits key.params

def Reachable (session : Session S) : Prop :=
  ∃ scheme stream calls, ((start scheme stream).run calls).2 = session

theorem run_append (session : Session S) (calls later : List (Call S)) :
    session.run (calls ++ later) =
      ((session.run calls).1 ++ ((session.run calls).2.run later).1,
        ((session.run calls).2.run later).2) := by
  induction calls generalizing session with
  | nil => rfl
  | cons call rest ih => simp only [List.cons_append, run, ih]

theorem paramsFault?_eq_none_iff (session : Session S) (params : PublicParams S) :
    session.paramsFault? params = none ↔ session.scheme.Fits params := by
  simp [paramsFault?, Scheme.Fits]

theorem countFault?_eq_none_iff (session : Session S) (key : SigningKey S) :
    session.countFault? key = none ↔ session.delegates.length = key.depth := by
  simp [countFault?]

def emptied (session : Session S) (key : SigningKey S) : Session S :=
  { session with state := .signing key [] }

inductive SignOutcome (session : Session S) : Except Error Bytes × Session S → Prop where
  | idle (state : ∀ key buffer, session.state ≠ .signing key buffer) :
      SignOutcome session (.error (.stateSequence .notSigning), session)
  | miscounted (key : SigningKey S) (buffer : Bytes) (state : session.state = .signing key buffer)
      (count : session.delegates.length ≠ key.depth) :
      SignOutcome session
        (.error (.identityChainMismatch key.depth session.delegates.length), session)
  | refused (key : SigningKey S) (buffer : Bytes) (state : session.state = .signing key buffer)
      (count : session.delegates.length = key.depth) (fault : Error)
      (refusal : key.refusal? = some fault) :
      SignOutcome session (.error fault, session.emptied key)
  | made (key : SigningKey S) (buffer : Bytes) (state : session.state = .signing key buffer)
      (count : session.delegates.length = key.depth) (accepted : key.refusal? = none) :
      SignOutcome session
        ((key.signature session.delegates buffer
            (drawExponent key.params.curve session.stream).1).encode,
          { session.emptied key with stream := (drawExponent key.params.curve session.stream).2 })

theorem sign_outcome (session : Session S) : session.SignOutcome session.sign := by
  obtain ⟨scheme, stream, delegates, state⟩ := session
  cases state with
  | uninitialized => exact .idle (by simp)
  | verifying key buffer => exact .idle (by simp)
  | signing key buffer =>
    by_cases count : delegates.length = key.depth
    next =>
      cases refusal : key.refusal? with
      | some fault =>
        have outcome : SignOutcome ⟨scheme, stream, delegates, .signing key buffer⟩ _ :=
          .refused key buffer rfl count fault refusal
        simpa [sign, countFault?, count, key.sign_refused delegates buffer stream count fault refusal,
          emptied, Except.bind] using outcome
      | none =>
        have outcome : SignOutcome ⟨scheme, stream, delegates, .signing key buffer⟩ _ :=
          .made key buffer rfl count refusal
        simpa [sign, countFault?, count, key.sign_accepted delegates buffer stream count refusal,
          emptied, Except.bind] using outcome
    next =>
      have outcome : SignOutcome ⟨scheme, stream, delegates, .signing key buffer⟩ _ :=
        .miscounted key buffer rfl count
      simpa [sign, countFault?, count] using outcome

theorem SignOutcome.fits {session : Session S} {result : Except Error Bytes × Session S}
    (outcome : session.SignOutcome result) (fits : session.Fits) : result.2.Fits := by
  cases outcome with
  | idle => exact fits
  | miscounted => exact fits
  | refused key buffer state => rwa [Session.Fits, state] at fits
  | made key buffer state => rwa [Session.Fits, state] at fits

theorem step_fits (session : Session S) (call : Call S) (fits : session.Fits) :
    (session.step call).2.Fits := by
  obtain ⟨scheme, stream, delegates, state⟩ := session
  cases call with
  | setDelegates chain => exact fits
  | initSign key =>
    simp only [step, initSign]
    cases misfit : Session.paramsFault? ⟨scheme, stream, delegates, state⟩ key.params with
    | some fault => exact fits
    | none =>
      cases Session.countFault? ⟨scheme, stream, delegates, state⟩ key with
      | some fault => exact fits
      | none => exact (paramsFault?_eq_none_iff _ key.params).mp misfit
  | initVerify key =>
    simp only [step, initVerify]
    cases misfit : Session.paramsFault? ⟨scheme, stream, delegates, state⟩ key.params with
    | some fault => exact fits
    | none => exact (paramsFault?_eq_none_iff _ key.params).mp misfit
  | update data => cases state <;> exact fits
  | sign => exact (sign_outcome _).fits fits
  | verify signature => cases state <;> exact fits

theorem run_fits (session : Session S) (calls : List (Call S)) (fits : session.Fits) :
    (session.run calls).2.Fits := by
  induction calls generalizing session with
  | nil => exact fits
  | cons call rest ih => exact ih _ (session.step_fits call fits)

theorem Reachable.fits {session : Session S} (reached : session.Reachable) : session.Fits := by
  obtain ⟨scheme, stream, calls, rfl⟩ := reached
  exact run_fits _ calls trivial

theorem Fits.refused_iff {session : Session S} (fits : session.Fits) (key : SigningKey S)
    (buffer : Bytes) (state : session.state = .signing key buffer) :
    key.refusal? ≠ none ↔ session.scheme.maxDepth ≤ key.depth ∨
      key.components ≠ session.scheme.maxDepth - key.depth := by
  -- The parameters fit the scheme, so its depth is the height that the key is held against.
  rw [Session.Fits, state] at fits
  rw [ne_eq, key.refusal?_eq_none_iff, fits.1]
  omega

theorem emptied_eq_iff (session : Session S) (key : SigningKey S) (buffer : Bytes)
    (state : session.state = .signing key buffer) : session.emptied key = session ↔ buffer = [] := by
  obtain ⟨scheme, stream, delegates, state⟩ := session
  subst state
  simp [emptied, eq_comm]

section Check

variable (key : VerifyingKey S) (chain : IdentityChain) (message encoding : Bytes)

theorem checkSignature_undecodable (error : Error)
    (failed : DelegatedKey.decode key.params encoding = .error error) :
    checkSignature key chain message encoding = .error error := by
  rw [checkSignature, failed]
  rfl

theorem checkSignature_misplaced (signature : DelegatedKey S)
    (decoded : DelegatedKey.decode key.params encoding = .ok signature)
    (depth : signature.depth ≠ chain.length + 1) :
    checkSignature key chain message encoding =
      .error (.identityChainMismatch (signature.depth - 1) chain.length) := by
  rw [checkSignature, decoded]
  simp only [bind, Except.bind]
  rw [if_pos depth.symm]
  rfl

theorem checkSignature_decided (signature : DelegatedKey S)
    (decoded : DelegatedKey.decode key.params encoding = .ok signature)
    (depth : signature.depth = chain.length + 1) :
    checkSignature key chain message encoding =
      key.params.verify key.publicKey (chain.child message) signature := by
  have whole : (chain.child message).length = signature.depth := by
    rw [IdentityChain.length_child, depth]
  rw [checkSignature, decoded]
  simp only [bind, Except.bind]
  rw [if_neg (not_not_intro depth.symm), if_neg (not_not_intro whole)]

end Check

/-- A failing call of `sign` changes nothing, unless the key is at the depth of the scheme or has
the wrong number of components. Then the message is lost, and nothing else. -/
theorem sign_error_atomic_iff (session : Session S) (reached : session.Reachable) (error : Error)
    (after : Session S) (failed : session.sign = (.error error, after))
    (small : error ≠ .configuration .oversized) :
    (after ≠ session ↔ ∃ key buffer, session.state = .signing key buffer ∧ buffer ≠ [] ∧
      session.delegates.length = key.depth ∧
      (session.scheme.maxDepth ≤ key.depth ∨
        key.components ≠ session.scheme.maxDepth - key.depth)) ∧
    (after = session ∨ ∃ key buffer, session.state = .signing key buffer ∧
      key.refusal? = some error ∧ after = session.emptied key) := by
  have outcome := session.sign_outcome
  generalize session.sign = result at outcome failed
  cases outcome with
  | idle state =>
    obtain ⟨-, rfl⟩ := Prod.mk.inj failed
    constructor
    next =>
      constructor
      next => exact fun changed => absurd rfl changed
      next => exact fun ⟨key, buffer, signing, _⟩ => absurd signing (state key buffer)
    next => exact .inl rfl
  | miscounted key buffer state count =>
    obtain ⟨-, rfl⟩ := Prod.mk.inj failed
    constructor
    next =>
      constructor
      next => exact fun changed => absurd rfl changed
      next =>
        rintro ⟨other, otherBuffer, signing, -, same, -⟩
        cases state.symm.trans signing
        exact absurd same count
    next => exact .inl rfl
  | refused key buffer state count fault refusal =>
    obtain ⟨same, rfl⟩ := Prod.mk.inj failed
    cases same
    constructor
    next =>
      rw [ne_eq, session.emptied_eq_iff key buffer state]
      constructor
      next =>
        intro lost
        have refused := (reached.fits.refused_iff key buffer state).mp (by simp [refusal])
        exact ⟨key, buffer, state, lost, count, refused⟩
      next =>
        rintro ⟨other, otherBuffer, signing, lost, -⟩
        cases state.symm.trans signing
        exact lost
    next => exact .inr ⟨key, buffer, state, refusal, rfl⟩
  | made key buffer state count accepted =>
    -- All checks have been passed, so the signature could only be too large.
    have refused := (Prod.mk.inj failed).1
    obtain large | encoded := (key.signature session.delegates buffer
      (drawExponent key.params.curve session.stream).1).encode_cases
    next => exact absurd (Except.error.inj (large.symm.trans refused)).symm small
    next => cases encoded.symm.trans refused

theorem sign_height_zero_loses_message :
    let session := ((start (.ofHeight 0) (.seeded [] [])).run
      [.initSign (.master (Exponents.params []) ((Exponents.params []).masterKeys 13).masterKey),
        .update [112]]).2
    session.Reachable ∧
      session.sign.1 = .error (.delegationDepthExceeded 0 0) ∧ session.sign.2 ≠ session := by
  -- With the master key and parameters of height zero there is no room for a message.
  intro session
  have reached : session.Reachable := ⟨_, _, _, rfl⟩
  have failed : session.sign = (.error (.delegationDepthExceeded 0 0), session.sign.2) := rfl
  have lost := (sign_error_atomic_iff session reached _ _ failed (by decide)).1
  exact ⟨reached, rfl, lost.mpr ⟨_, _, rfl, by decide, rfl, .inl (Nat.le_refl 0)⟩⟩

end Session

end IdentityHierarchy
