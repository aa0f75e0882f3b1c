import IdentityHierarchy.Proofs.Replacement

set_option autoImplicit false

namespace IdentityHierarchy

variable (S : PairingGroups)

inductive Role where
  | signer (key : SigningKey S)
  | verifier (key : VerifyingKey S)

structure Event where
  session : Session S
  call : Call S
  reply : Reply

abbrev History := List (Event S)

variable {S}

namespace Role

def params : Role S → PublicParams S
  | signer key => key.params
  | verifier key => key.params

def state (buffer : Bytes) : Role S → SessionState S
  | signer key => .signing key buffer
  | verifier key => .verifying key buffer

def call : Role S → Call S
  | signer key => .initSign key
  | verifier key => .initVerify key

end Role

def SessionState.ofRole (buffer : Bytes) : Option (Role S) → SessionState S
  | none => .uninitialized
  | some role => role.state buffer

namespace SessionState

variable (role? : Option (Role S)) (buffer given : Bytes)

theorem ofRole_eq_uninitialized_iff : ofRole buffer role? = .uninitialized ↔ role? = none := by
  rcases role? with _ | (key | key) <;> simp [ofRole, Role.state]

theorem ofRole_eq_state_iff (role : Role S) :
    ofRole buffer role? = role.state given ↔ role? = some role ∧ buffer = given := by
  rcases role? with _ | (key | key) <;> cases role <;> simp [ofRole, Role.state]

variable {role? buffer given}

theorem role_of_state (role : Role S) {state : SessionState S}
    (known : state = .ofRole buffer role?) (current : state = role.state given) :
    role? = some role ∧ buffer = given :=
  (ofRole_eq_state_iff role? buffer given role).mp (known.symm.trans current)

end SessionState

def Reply.error? : Reply → Option Error
  | .done (.error error) | .signed (.error error) | .checked (.error error) => some error
  | _ => none

namespace Call

def role? : Call S → Option (Role S)
  | .initSign key => some (.signer key)
  | .initVerify key => some (.verifier key)
  | _ => none

def chain? : Call S → Option IdentityChain
  | .setDelegates chain => some chain
  | _ => none

def Allowed : Call S → Option (Role S) → Prop
  | .update _, role? => role? ≠ none
  | .sign, role? => ∃ key, role? = some (.signer key)
  | .verify _, role? => ∃ key, role? = some (.verifier key)
  | _, _ => True

variable (role : Role S)

@[simp]
theorem role?_call : role.call.role? = some role := by
  cases role <;> rfl

@[simp]
theorem chain?_call : role.call.chain? = none := by
  cases role <;> rfl

theorem allowed_call (current : Option (Role S)) : role.call.Allowed current := by
  cases role <;> trivial

@[simp]
theorem data_call : role.call.data = [] := by
  cases role <;> rfl

end Call

namespace Event

def role? (event : Event S) : Option (Role S) :=
  if event.reply = .done (.ok ()) then event.call.role? else none

def clears (event : Event S) : Bool :=
  match event.call, event.session.state with
  | .sign, .signing key _ => decide (event.session.delegates.length = key.depth)
  | .verify _, .verifying _ _ => true
  | _, _ => event.role?.isSome

variable (session : Session S) (reply : Reply)

theorem clears_call (role : Role S) :
    clears ⟨session, role.call, reply⟩ = decide (reply = .done (.ok ())) := by
  by_cases done : reply = .done (.ok ()) <;>
    cases role <;> simp [clears, role?, Role.call, Call.role?, done]

theorem clears_idle_sign (idle : ∀ key buffer, session.state ≠ .signing key buffer) :
    clears ⟨session, .sign, reply⟩ = false := by
  cases state : session.state with
  | signing key buffer => exact absurd state (idle key buffer)
  | _ => simp [clears, role?, Call.role?, state]

theorem clears_idle_verify (signature : Bytes)
    (idle : ∀ key buffer, session.state ≠ .verifying key buffer) :
    clears ⟨session, .verify signature, reply⟩ = false := by
  cases state : session.state with
  | verifying key buffer => exact absurd state (idle key buffer)
  | _ => simp [clears, role?, Call.role?, state]

end Event

namespace History

def role? (history : History S) : Option (Role S) :=
  (history.filterMap Event.role?).getLast?

def chain (history : History S) : IdentityChain :=
  (history.filterMap fun event => event.call.chain?).getLast?.getD .root

/-- The data that has been fed since the last event that has emptied the buffer. -/
def pending (history : History S) : Bytes :=
  (history.rtakeWhile fun event => !event.clears).flatMap fun event => event.call.data

variable (history : History S) (event : Event S)

theorem role?_concat : role? (history ++ [event]) = event.role?.or history.role? := by
  rw [role?, List.filterMap_append, List.getLast?_append]
  cases role : event.role? <;> simp [role, History.role?]

theorem chain_concat : chain (history ++ [event]) = event.call.chain?.getD history.chain := by
  rw [chain, List.filterMap_append, List.getLast?_append]
  cases replaced : event.call.chain? <;> simp [replaced, chain]

theorem pending_concat :
    pending (history ++ [event]) =
      if event.clears then [] else history.pending ++ event.call.data := by
  cases clears : event.clears <;> simp [pending, clears]

end History

namespace Session

def history : Session S → List (Call S) → History S
  | _, [] => []
  | session, call :: rest =>
    ⟨session, call, (session.step call).1⟩ :: (session.step call).2.history rest

theorem history_concat (session : Session S) (calls : List (Call S)) (call : Call S) :
    session.history (calls ++ [call]) = session.history calls ++
      [⟨(session.run calls).2, call, ((session.run calls).2.step call).1⟩] := by
  induction calls generalizing session with
  | nil => rfl
  | cons first rest ih => simp only [List.cons_append, history, run, ih]

inductive StepOutcome (session : Session S) : Call S → Reply × Session S → Prop where
  | replaced (chain : IdentityChain) :
      StepOutcome session (.setDelegates chain) (.done (.ok ()), session.setDelegates chain)
  | misfit (role : Role S) (unfit : ¬ session.scheme.Fits role.params) :
      StepOutcome session role.call
        (.done (.error (.configuration (.misfit role.params.height session.scheme.maxDepth
          role.params.curve session.scheme.curve))), session)
  | miscounted (key : SigningKey S) (fits : session.scheme.Fits key.params)
      (count : session.delegates.length ≠ key.depth) :
      StepOutcome session (.initSign key)
        (.done (.error (.identityChainMismatch key.depth session.delegates.length)), session)
  | prepared (role : Role S) (fits : session.scheme.Fits role.params)
      (count : ∀ key, role = .signer key → session.delegates.length = key.depth) :
      StepOutcome session role.call (.done (.ok ()), { session with state := role.state [] })
  | unfed (data : Bytes) (state : session.state = .uninitialized) :
      StepOutcome session (.update data)
        (.done (.error (.stateSequence .notInitialized)), session)
  | fed (data : Bytes) (role : Role S) (buffer : Bytes) (state : session.state = role.state buffer) :
      StepOutcome session (.update data)
        (.done (.ok ()), { session with state := role.state (buffer ++ data) })
  | signed (result : Except Error Bytes × Session S) (outcome : session.SignOutcome result) :
      StepOutcome session .sign (.signed result.1, result.2)
  | unchecked (signature : Bytes) (state : ∀ key buffer, session.state ≠ .verifying key buffer) :
      StepOutcome session (.verify signature)
        (.checked (.error (.stateSequence .notVerifying)), session)
  | checked (signature : Bytes) (key : VerifyingKey S) (buffer : Bytes)
      (state : session.state = .verifying key buffer) :
      StepOutcome session (.verify signature)
        (.checked (checkSignature key session.delegates buffer signature),
          { session with state := .verifying key [] })

theorem paramsFault?_of_misfit (session : Session S) (params : PublicParams S)
    (unfit : ¬ session.scheme.Fits params) :
    session.paramsFault? params = some (.configuration (.misfit params.height
      session.scheme.maxDepth params.curve session.scheme.curve)) := by
  have fault := mt (session.paramsFault?_eq_none_iff params).mp unfit
  unfold paramsFault? at fault ⊢
  split
  next => rfl
  next fits => exact absurd (if_neg fits) fault

theorem step_initSign (session : Session S) (key : SigningKey S) :
    session.StepOutcome (.initSign key) (session.step (.initSign key)) := by
  by_cases fits : session.scheme.Fits key.params
  next =>
    by_cases count : session.delegates.length = key.depth
    next =>
      simp only [step, session.initSign_of_fits key fits count]
      exact .prepared (.signer key) fits (by rintro _ ⟨⟩; exact count)
    next =>
      simp only [step, initSign, (session.paramsFault?_eq_none_iff key.params).mpr fits, countFault?,
        if_pos count]
      exact .miscounted key fits count
  next =>
    simp only [step, initSign, session.paramsFault?_of_misfit key.params fits]
    exact .misfit (.signer key) fits

theorem step_initVerify (session : Session S) (key : VerifyingKey S) :
    session.StepOutcome (.initVerify key) (session.step (.initVerify key)) := by
  by_cases fits : session.scheme.Fits key.params
  next =>
    simp only [step, session.initVerify_of_fits key fits]
    exact .prepared (.verifier key) fits (by rintro _ ⟨⟩)
  next =>
    simp only [step, initVerify, session.paramsFault?_of_misfit key.params fits]
    exact .misfit (.verifier key) fits

theorem step_outcome (session : Session S) (call : Call S) :
    session.StepOutcome call (session.step call) := by
  cases call with
  | setDelegates chain => exact .replaced chain
  | initSign key => exact session.step_initSign key
  | initVerify key => exact session.step_initVerify key
  | update data =>
    obtain ⟨scheme, stream, delegates, state⟩ := session
    cases state with
    | uninitialized => exact .unfed data rfl
    | signing key buffer => exact .fed data (.signer key) buffer rfl
    | verifying key buffer => exact .fed data (.verifier key) buffer rfl
  | sign => exact .signed _ session.sign_outcome
  | verify signature =>
    obtain ⟨scheme, stream, delegates, state⟩ := session
    cases state with
    | uninitialized => exact .unchecked signature (by simp)
    | signing key buffer => exact .unchecked signature (by simp)
    | verifying key buffer => exact .checked signature key buffer rfl

theorem step_scheme (session : Session S) (call : Call S) :
    (session.step call).2.scheme = session.scheme := by
  have outcome := session.step_outcome call
  generalize session.step call = result at outcome
  cases outcome with
  | signed result outcome => cases outcome <;> rfl
  | _ => rfl

theorem run_scheme (session : Session S) (calls : List (Call S)) :
    (session.run calls).2.scheme = session.scheme := by
  induction calls generalizing session with
  | nil => rfl
  | cons call rest ih => exact (ih _).trans (session.step_scheme call)

theorem step_delegates (session : Session S) (call : Call S) :
    (session.step call).2.delegates = call.chain?.getD session.delegates := by
  have outcome := session.step_outcome call
  generalize session.step call = result at outcome
  cases outcome with
  | misfit role => rw [Call.chain?_call, Option.getD_none]
  | prepared role => rw [Call.chain?_call, Option.getD_none]
  | signed result outcome => cases outcome <;> rfl
  | _ => rfl

theorem step_state (session : Session S) (call : Call S) (role? : Option (Role S)) (buffer : Bytes)
    (state : session.state = .ofRole buffer role?) :
    let event : Event S := ⟨session, call, (session.step call).1⟩
    (session.step call).2.state =
      .ofRole (if event.clears then [] else buffer ++ call.data) (event.role?.or role?) := by
  have outcome := session.step_outcome call
  generalize session.step call = result at outcome
  cases outcome with
  | replaced chain => simp [Event.clears, Event.role?, Call.role?, Call.data, setDelegates, state]
  | misfit role unfit => simp [Event.clears_call, Event.role?, state]
  | miscounted key fits count => simp [Event.clears, Event.role?, Call.data, state]
  | prepared role fits count => simp [Event.clears_call, Event.role?, SessionState.ofRole]
  | unfed data idle =>
    have none := (SessionState.ofRole_eq_uninitialized_iff role? buffer).mp (state.symm.trans idle)
    simp [Event.role?, idle, none, SessionState.ofRole]
  | fed data role given fed =>
    obtain ⟨rfl, rfl⟩ := SessionState.role_of_state role state fed
    cases role <;> simp [Event.clears, Event.role?, Call.role?, Call.data, SessionState.ofRole]
  | signed result outcome =>
    cases outcome with
    | idle idle => simp [Event.clears_idle_sign session _ idle, Event.role?, Call.data, state]
    | miscounted key given signing count =>
      simp [Event.clears, Event.role?, Call.data, signing, count, ← state]
    | refused key given signing count fault refusal =>
      obtain ⟨rfl, rfl⟩ := SessionState.role_of_state (.signer key) state signing
      simp [Event.clears, Event.role?, signing, count, emptied, SessionState.ofRole, Role.state]
    | made key given signing count accepted =>
      obtain ⟨rfl, rfl⟩ := SessionState.role_of_state (.signer key) state signing
      simp [Event.clears, Event.role?, signing, count, emptied, SessionState.ofRole, Role.state]
  | unchecked signature idle =>
    simp [Event.clears_idle_verify session _ signature idle, Event.role?, Call.data, state]
  | checked signature key given verifying =>
    obtain ⟨rfl, rfl⟩ := SessionState.role_of_state (.verifier key) state verifying
    simp [Event.clears, Event.role?, verifying, SessionState.ofRole, Role.state]

theorem run_state (scheme : Scheme) (stream : ByteStream) (calls : List (Call S)) :
    let session : Session S := ((start scheme stream).run calls).2
    let history := (start scheme stream).history calls
    session.state = .ofRole history.pending history.role? ∧ session.delegates = history.chain := by
  intro session history
  -- From the end, because the last event is what the role, the chain and the data depend on.
  induction calls using List.reverseRecOn with
  | nil => exact ⟨rfl, rfl⟩
  | append_singleton calls call ih =>
    obtain ⟨state, delegates⟩ := ih
    simp only [session, history, run_append, history_concat, History.role?_concat,
      History.chain_concat, History.pending_concat]
    constructor
    next => exact step_state _ call _ _ state
    next =>
      rw [← delegates]
      exact step_delegates _ call

end Session

theorem SigningKey.refusal?_ne_stateSequence (key : SigningKey S) (fault : StateFault) :
    key.refusal? ≠ some (.stateSequence fault) := by
  unfold refusal?
  cases key with
  | master params key => simp
  | delegated params key =>
    simp only [ne_eq]
    split_ifs <;> simp

namespace Session

theorem checkSignature_refusals (key : VerifyingKey S) (chain : IdentityChain)
    (message encoding : Bytes) (error : Error)
    (failed : checkSignature key chain message encoding = .error error) :
    (∃ fault, DelegatedKey.decode key.params encoding = .error error ∧ error = .decoding fault) ∨
    ∃ signature, DelegatedKey.decode key.params encoding = .ok signature ∧
      signature.depth ≠ chain.length + 1 ∧
      error = .identityChainMismatch (signature.depth - 1) chain.length := by
  rcases DelegatedKey.decode_cases key.params encoding with
    ⟨fault, undecoded⟩ | ⟨signature, decoded, components⟩
  next =>
    rw [checkSignature_undecodable key chain message encoding _ undecoded] at failed
    cases failed
    exact .inl ⟨fault, undecoded, rfl⟩
  next =>
    by_cases depth : signature.depth = chain.length + 1
    next =>
      have level : (chain.child message).length = signature.depth := by simp [depth]
      have bound : (chain.child message).length ≤ key.params.height := by omega
      rw [checkSignature_decided key chain message encoding signature decoded depth,
        key.params.verify_decided key.publicKey _ signature level bound] at failed
      cases failed
    next =>
      rw [checkSignature_misplaced key chain message encoding signature decoded depth] at failed
      cases failed
      exact .inr ⟨signature, decoded, depth, rfl⟩

theorem checkSignature_ne_stateSequence (key : VerifyingKey S) (chain : IdentityChain)
    (message encoding : Bytes) (fault : StateFault) :
    checkSignature key chain message encoding ≠ .error (.stateSequence fault) := by
  intro failed
  rcases checkSignature_refusals key chain message encoding _ failed with
    ⟨other, undecoded, same⟩ | ⟨signature, decoded, depth, same⟩
  next => cases same
  next => cases same

theorem step_stateSequence_iff (session : Session S) (call : Call S) (role? : Option (Role S))
    (buffer : Bytes) (state : session.state = .ofRole buffer role?) :
    (∃ fault, (session.step call).1.error? = some (.stateSequence fault)) ↔ ¬ call.Allowed role? := by
  have outcome := session.step_outcome call
  generalize session.step call = result at outcome
  cases outcome with
  | replaced chain => simp [Reply.error?, Call.Allowed]
  | misfit role unfit => simp [Reply.error?, Call.allowed_call]
  | miscounted key fits count => simp [Reply.error?, Call.Allowed]
  | prepared role fits count => simp [Reply.error?, Call.allowed_call]
  | unfed data idle =>
    have none := (SessionState.ofRole_eq_uninitialized_iff role? buffer).mp (state.symm.trans idle)
    simp [Reply.error?, Call.Allowed, none]
  | fed data role given fed =>
    obtain ⟨rfl, rfl⟩ := SessionState.role_of_state role state fed
    simp [Reply.error?, Call.Allowed]
  | signed result outcome =>
    cases outcome with
    | idle idle =>
      have other (key : SigningKey S) : role? ≠ some (.signer key) := by
        rintro rfl
        exact idle key buffer state
      simp [Reply.error?, Call.Allowed, other]
    | miscounted key given signing count =>
      obtain ⟨rfl, rfl⟩ := SessionState.role_of_state (.signer key) state signing
      simp [Reply.error?, Call.Allowed]
    | refused key given signing count fault refusal =>
      obtain ⟨rfl, rfl⟩ := SessionState.role_of_state (.signer key) state signing
      -- A session that may sign can still fail to, but never with a fault of its state.
      have other (state : StateFault) : fault ≠ .stateSequence state := by
        rintro rfl
        exact key.refusal?_ne_stateSequence state refusal
      simp [Reply.error?, Call.Allowed, other]
    | made key given signing count accepted =>
      obtain ⟨rfl, rfl⟩ := SessionState.role_of_state (.signer key) state signing
      obtain large | encoded := (key.signature session.delegates buffer
        (drawExponent key.params.curve session.stream).1).encode_cases
      next => simp [Reply.error?, Call.Allowed, large]
      next => simp [Reply.error?, Call.Allowed, encoded]
  | unchecked signature idle =>
    have other (key : VerifyingKey S) : role? ≠ some (.verifier key) := by
      rintro rfl
      exact idle key buffer state
    simp [Reply.error?, Call.Allowed, other]
  | checked signature key given verifying =>
    obtain ⟨rfl, rfl⟩ := SessionState.role_of_state (.verifier key) state verifying
    have other := checkSignature_ne_stateSequence key session.delegates buffer signature
    cases answer : checkSignature key session.delegates buffer signature with
    | error error => simp_all [Reply.error?, Call.Allowed]
    | ok accepted => simp [Reply.error?, Call.Allowed]

theorem step_rejected (session : Session S) (call : Call S) (role? : Option (Role S))
    (buffer : Bytes) (state : session.state = .ofRole buffer role?)
    (rejected : ¬ call.Allowed role? ∨
      call.role? ≠ none ∧ (session.step call).1.error? ≠ none) :
    (session.step call).2 = session := by
  have outcome := session.step_outcome call
  generalize session.step call = result at outcome rejected
  cases outcome with
  | replaced chain => simp [Call.Allowed, Call.role?] at rejected
  | prepared role fits count => simp [Call.allowed_call, Reply.error?] at rejected
  | fed data role given fed =>
    obtain ⟨rfl, rfl⟩ := SessionState.role_of_state role state fed
    simp [Call.Allowed, Call.role?] at rejected
  | signed result outcome =>
    cases outcome with
    | idle idle => rfl
    | miscounted key given signing count => rfl
    | refused key given signing count fault refusal =>
      obtain ⟨rfl, rfl⟩ := SessionState.role_of_state (.signer key) state signing
      simp [Call.Allowed, Call.role?] at rejected
    | made key given signing count accepted =>
      obtain ⟨rfl, rfl⟩ := SessionState.role_of_state (.signer key) state signing
      simp [Call.Allowed, Call.role?] at rejected
  | checked signature key given verifying =>
    obtain ⟨rfl, rfl⟩ := SessionState.role_of_state (.verifier key) state verifying
    simp [Call.Allowed, Call.role?] at rejected
  | _ => rfl

theorem sign_eq_ok_iff (session : Session S) (role? : Option (Role S)) (buffer : Bytes)
    (state : session.state = .ofRole buffer role?) (encoding : Bytes) :
    session.sign.1 = .ok encoding ↔ ∃ key, role? = some (.signer key) ∧
      session.delegates.length = key.depth ∧
      (key.sign session.delegates buffer session.stream).1.bind DelegatedKey.encode =
        .ok encoding := by
  rcases role? with _ | (key | key)
  next => simp [sign, state, SessionState.ofRole]
  next =>
    by_cases count : session.delegates.length = key.depth <;>
      simp [sign, state, SessionState.ofRole, Role.state, countFault?, count]
  next => simp [sign, state, SessionState.ofRole, Role.state]

theorem verify_eq_ok_iff (session : Session S) (role? : Option (Role S)) (buffer : Bytes)
    (state : session.state = .ofRole buffer role?) (encoding : Bytes) (answer : Bool) :
    (session.verify encoding).1 = .ok answer ↔ ∃ key, role? = some (.verifier key) ∧
      checkSignature key session.delegates buffer encoding = .ok answer := by
  rcases role? with _ | (key | key) <;> simp [verify, state, SessionState.ofRole, Role.state]

theorem run_history (scheme : Scheme) (stream : ByteStream) (calls : List (Call S)) :
    let session : Session S := ((start scheme stream).run calls).2
    let history := (start scheme stream).history calls
    (session.state = .uninitialized ↔ ∀ event ∈ history, event.role? = none) ∧
    session.state = .ofRole history.pending history.role? ∧
    (∀ role, history.role? = some role →
      role.params.height = scheme.maxDepth ∧ role.params.curve = scheme.curve) ∧
    session.delegates = history.chain ∧
    (∀ encoding, session.sign.1 = .ok encoding ↔ ∃ key, history.role? = some (.signer key) ∧
      history.chain.length = key.depth ∧
      (key.sign history.chain history.pending session.stream).1.bind DelegatedKey.encode =
        .ok encoding) ∧
    (∀ encoding answer, (session.verify encoding).1 = .ok answer ↔
      ∃ key, history.role? = some (.verifier key) ∧
        checkSignature key history.chain history.pending encoding = .ok answer) ∧
    ∀ call, ((∃ fault, (session.step call).1.error? = some (.stateSequence fault)) ↔
        ¬ call.Allowed history.role?) ∧
      (¬ call.Allowed history.role? ∨
          call.role? ≠ none ∧ (session.step call).1.error? ≠ none →
        (session.step call).2 = session) := by
  intro session history
  obtain ⟨state, delegates⟩ := run_state scheme stream calls
  refine ⟨?_, state, ?_, delegates, ?_, ?_, ?_⟩
  next =>
    rw [state, SessionState.ofRole_eq_uninitialized_iff, History.role?, List.getLast?_eq_none_iff,
      List.filterMap_eq_nil_iff]
  next =>
    intro role last
    have fits : session.Fits := run_fits _ calls trivial
    have same : session.scheme = scheme := run_scheme _ calls
    rw [Session.Fits, state, last] at fits
    cases role <;> exact same ▸ fits
  next =>
    rw [← delegates]
    exact session.sign_eq_ok_iff _ _ state
  next =>
    rw [← delegates]
    exact session.verify_eq_ok_iff _ _ state
  next =>
    exact fun call => ⟨session.step_stateSequence_iff call _ _ state,
      session.step_rejected call _ _ state⟩

theorem run_history_two_roles :
    let params := Exponents.params [7, 11]
    let key : SigningKey exponents := .master params (params.masterKeys 13).masterKey
    let calls : List (Call exponents) :=
      [.update [1], .initVerify ⟨params, (params.masterKeys 13).publicKey⟩, .update [2],
        .initSign key, .update [3], .setDelegates ⟨[[97]]⟩, .sign, .initSign key, .update [4]]
    let session : Session exponents := ((start (.ofHeight 2) (.seeded [] [])).run calls).2
    session.state = .signing key [3, 4] ∧ session.delegates = ⟨[[97]]⟩ ∧
      (key.params.height = 2 ∧ key.params.curve = .bls12381) ∧
      (session.step (.verify [])).2 = session := by
  intro params key calls session
  obtain ⟨-, state, fits, delegates, -, -, answers⟩ :=
    run_history (.ofHeight 2) (.seeded [] []) calls
  have role : ((start (.ofHeight 2) (.seeded [] [])).history calls).role? = some (.signer key) := rfl
  have idle : ¬ Call.Allowed (.verify []) (some (Role.signer key)) := by
    simp [Call.Allowed]
  rw [role] at state answers
  exact ⟨state, delegates, fits (.signer key) role, (answers (.verify [])).2 (.inl idle)⟩

end Session

end IdentityHierarchy
