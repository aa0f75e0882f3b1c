import IdentityHierarchy.Proofs.Delegation
import IdentityHierarchy.Proofs.Envelope
import IdentityHierarchy.Proofs.Session

set_option autoImplicit false

namespace IdentityHierarchy

open PairingGroups
open scoped ElementGroup Fin.CommRing

variable {S : PairingGroups}

def Call.feed (chunks : List Bytes) : List (Call S) :=
  chunks.map Call.update

def Reply.fed (chunks : List Bytes) : List Reply :=
  List.replicate chunks.length (.done (.ok ()))

def Call.signing (messages : List (List Bytes)) : List (Call S) :=
  messages.flatMap fun chunks => feed chunks ++ [.sign]

def Reply.signing (messages : List (List Bytes)) (signatures : List Bytes) : List Reply :=
  (List.zipWith (fun chunks signature => fed chunks ++ [.signed (.ok signature)])
    messages signatures).flatten

def Call.checking (messages : List (List Bytes)) (signatures : List Bytes) : List (Call S) :=
  (List.zipWith (fun chunks signature => feed chunks ++ [.verify signature])
    messages signatures).flatten

def Reply.accepting (messages : List (List Bytes)) : List Reply :=
  messages.flatMap fun chunks => fed chunks ++ [.checked (.ok true)]

def SessionState.feed (data : Bytes) : SessionState S → SessionState S
  | .uninitialized => .uninitialized
  | .signing key buffer => .signing key (buffer ++ data)
  | .verifying key buffer => .verifying key (buffer ++ data)

namespace SessionState

@[simp]
theorem feed_nil (state : SessionState S) : state.feed [] = state := by
  cases state <;> simp [feed]

@[simp]
theorem feed_feed (state : SessionState S) (data more : Bytes) :
    (state.feed data).feed more = state.feed (data ++ more) := by
  cases state <;> simp [feed]

theorem feed_eq_uninitialized_iff (state : SessionState S) (data : Bytes) :
    state.feed data = .uninitialized ↔ state = .uninitialized := by
  cases state <;> simp [feed]

end SessionState

namespace Session

theorem update_snd (session : Session S) (data : Bytes) :
    (session.update data).2 = { session with state := session.state.feed data } := by
  obtain ⟨scheme, stream, delegates, state⟩ := session
  cases state <;> rfl

theorem update_of_initialized (session : Session S) (data : Bytes)
    (initialized : session.state ≠ .uninitialized) :
    session.update data = (.ok (), { session with state := session.state.feed data }) := by
  obtain ⟨scheme, stream, delegates, state⟩ := session
  cases state with
  | uninitialized => exact absurd rfl initialized
  | signing key buffer => rfl
  | verifying key buffer => rfl

theorem run_feed (session : Session S) (chunks : List Bytes)
    (initialized : session.state ≠ .uninitialized) :
    session.run (Call.feed chunks) =
      (Reply.fed chunks, { session with state := session.state.feed chunks.flatten }) := by
  induction chunks generalizing session with
  | nil => simp [Call.feed, Reply.fed, run]
  | cons chunk rest ih =>
    have still := mt (session.state.feed_eq_uninitialized_iff chunk).mp initialized
    have next := ih { session with state := session.state.feed chunk } still
    simp only [Call.feed, Reply.fed] at next
    simp [Call.feed, Reply.fed, run, step, session.update_of_initialized chunk initialized, next,
      List.replicate_succ]

theorem run_sign (session : Session S) (key : SigningKey S) (chunks : List Bytes)
    (state : session.state = .signing key []) :
    session.run (Call.feed chunks ++ [.sign]) =
      (Reply.fed chunks ++
        [.signed (sign { session with state := .signing key chunks.flatten }).1],
        (sign { session with state := .signing key chunks.flatten }).2) := by
  rw [run_append, session.run_feed chunks (by simp [state]), state]
  rfl

theorem run_check (session : Session S) (key : VerifyingKey S) (chunks : List Bytes)
    (signature : Bytes) (state : session.state = .verifying key []) :
    session.run (Call.feed chunks ++ [.verify signature]) =
      (Reply.fed chunks ++
        [.checked (checkSignature key session.delegates chunks.flatten signature)], session) := by
  rw [run_append, session.run_feed chunks (by simp [state]), state]
  obtain ⟨scheme, stream, delegates, _⟩ := session
  subst state
  rfl

theorem initVerify_of_fits (session : Session S) (key : VerifyingKey S)
    (fits : session.scheme.Fits key.params) :
    session.initVerify key = (.ok (), { session with state := .verifying key [] }) := by
  unfold initVerify
  rw [(session.paramsFault?_eq_none_iff key.params).mpr fits]

theorem run_verifying (session : Session S) (chain : IdentityChain) (key : VerifyingKey S)
    (fits : session.scheme.Fits key.params) (calls : List (Call S)) :
    (session.run (.setDelegates chain :: .initVerify key :: calls)).1 =
      .done (.ok ()) :: .done (.ok ()) ::
        (run { session with delegates := chain, state := .verifying key [] } calls).1 := by
  simp only [run, step, (session.setDelegates chain).initVerify_of_fits key fits]
  rfl

theorem initSign_of_fits (session : Session S) (key : SigningKey S)
    (fits : session.scheme.Fits key.params) (count : session.delegates.length = key.depth) :
    session.initSign key = (.ok (), { session with state := .signing key [] }) := by
  unfold initSign
  rw [(session.paramsFault?_eq_none_iff key.params).mpr fits]
  simp only [(session.countFault?_eq_none_iff key).mpr count]

end Session

theorem Session.checkSignature_encoding [Encoded S] (key : VerifyingKey S) (chain : IdentityChain)
    (message : Bytes) (signature : DelegatedKey S) (depth : signature.depth = chain.length + 1)
    (components : signature.depth + signature.b.length = key.params.height)
    (word : key.params.height < 0x10000000000000000) :
    checkSignature key chain message signature.encoding =
      key.params.verify key.publicKey (chain.child message) signature := by
  have decoded := signature.decode_encoding key.params components word
  exact checkSignature_decided key chain message _ signature decoded depth

variable [Bilinear S]

namespace SigningKey

inductive Issued (params : PublicParams S) (alpha : Scalar) :
    IdentityChain → Scalar → SigningKey S → Prop where
  | master : Issued params alpha .root 0 (.master params (params.masterKeys alpha).masterKey)
  | delegated (start : DelegationStart) (steps : List DelegationStep) (key : DelegatedKey S)
      (reached : (params.masterKeys alpha).masterKey.delegateAlong params start steps = .ok key) :
      Issued params alpha (IdentityChain.root.extend steps)
        (steps.map (DelegationStep.exponent params.curve)).sum (.delegated params key)

variable {params : PublicParams S} {alpha r : Scalar} {own : IdentityChain} {key : SigningKey S}

theorem Issued.eq_honest (issued : key.Issued params alpha own r) :
    own.length ≤ params.height ∧
      (own = .root ∧ r = 0 ∧ key = .master params (params.masterKeys alpha).masterKey ∨
        key = .delegated params (params.honestKey alpha r own)) := by
  cases issued with
  | master => exact ⟨Nat.zero_le _, .inl ⟨rfl, rfl, rfl⟩⟩
  | delegated start steps key reached =>
    obtain ⟨bound, rfl⟩ := params.eq_honestKey_of_delegateAlong alpha start steps key reached
    exact ⟨bound, .inr rfl⟩

omit [Bilinear S] in
theorem Issued.params_eq (issued : key.Issued params alpha own r) : key.params = params := by
  cases issued <;> rfl

theorem Issued.depth_eq (issued : key.Issued params alpha own r) : key.depth = own.length := by
  obtain ⟨-, ⟨rfl, -, rfl⟩ | rfl⟩ := issued.eq_honest <;> rfl

theorem Issued.refusal?_eq (issued : key.Issued params alpha own r) :
    key.refusal? = if own.length = params.height then
      some (.delegationDepthExceeded params.height params.height) else none := by
  obtain ⟨bound, ⟨rfl, -, rfl⟩ | rfl⟩ := issued.eq_honest
  next =>
    change (if params.height = 0 then _ else _) = if 0 = params.height then _ else _
    by_cases flat : params.height = 0
    next => simp [flat]
    next => simp [flat, Ne.symm flat]
  next =>
    have components := params.length_honestKey alpha r own
    by_cases full : own.length = params.height
    next => simp [refusal?, PublicParams.honestKey, full]
    next =>
      rw [if_neg full, refusal?_eq_none_iff]
      exact ⟨Nat.lt_of_le_of_ne bound full, components⟩

theorem Issued.signature_eq (issued : key.Issued params alpha own r) (chain : IdentityChain)
    (message : Bytes) (w : Scalar) (same : chain.length = own.length)
    (room : own.length < params.height) :
    key.signature chain message w = params.offsetKey alpha (r + w) (chain.child message)
      (r • (params.chainElement own - params.chainElement chain)) := by
  obtain ⟨-, ⟨rfl, rfl, rfl⟩ | rfl⟩ := issued.eq_honest
  next =>
    -- The master key belongs to the root, and there is no other chain of length zero.
    have top : chain = .root := by
      obtain ⟨elements⟩ := chain
      exact congrArg IdentityChain.mk (List.eq_nil_of_length_eq_zero same)
    have elements : params.h = params.h.headD 0 :: params.h.tail := by
      cases h : params.h with
      | nil => simp [PublicParams.height, h] at room
      | cons h1 rest => rfl
    rw [top, sub_self, smul_zero, PublicParams.offsetKey_zero, zero_add]
    exact params.childKey_masterKey alpha w _ _ message elements
  next => exact params.childKey_honestKey alpha r w own chain message same room

end SigningKey

namespace Session

variable {params : PublicParams S} {alpha r : Scalar} {own : IdentityChain} {key : SigningKey S}

def signatureSize (params : PublicParams S) (length : Nat) : Nat :=
  DelegatedKey.encodingSize (length + 1) (params.height - (length + 1))

theorem sign_issued [Encoded S] (session : Session S) (issued : key.Issued params alpha own r)
    (buffer : Bytes) (state : session.state = .signing key buffer)
    (same : session.delegates.length = own.length) (room : own.length < params.height) :
    session.sign =
      ((params.offsetKey alpha (r + (drawExponent params.curve session.stream).1)
        (session.delegates.child buffer)
        (r • (params.chainElement own - params.chainElement session.delegates))).encode,
      { session.emptied key with stream := (drawExponent params.curve session.stream).2 }) := by
  have count : session.delegates.length = key.depth := same.trans issued.depth_eq.symm
  have accepted : key.refusal? = none := by
    rw [issued.refusal?_eq, if_neg (Nat.ne_of_lt room)]
  simp only [sign, state, (session.countFault?_eq_none_iff key).mpr count,
    key.sign_accepted _ buffer session.stream count accepted,
    issued.signature_eq _ buffer _ same room, issued.params_eq]
  rfl

theorem checkSignature_offsetKey [Encoded S] (chain : IdentityChain) (message : Bytes)
    (offset : S.First) (room : chain.length < params.height)
    (word : params.height < 0x10000000000000000) :
    checkSignature ⟨params, (params.masterKeys alpha).publicKey⟩ chain message
        (params.offsetKey alpha r (chain.child message) offset).encoding =
      .ok (decide (S.pair (-offset) params.gHead = 1)) := by
  have depth : (params.offsetKey alpha r (chain.child message) offset).depth = chain.length + 1 :=
    IdentityChain.length_child chain message
  have bound : (chain.child message).length ≤ params.height := by
    rw [IdentityChain.length_child]
    exact room
  have components : (params.offsetKey alpha r (chain.child message) offset).depth +
      (params.offsetKey alpha r (chain.child message) offset).b.length = params.height := by
    rw [depth, params.length_offsetKey, IdentityChain.length_child]
    omega
  rw [checkSignature_encoding _ chain message _ depth components word]
  exact params.verify_offsetKey alpha r (chain.child message) offset bound

theorem checkSignature_honestKey [Encoded S] (chain : IdentityChain) (message : Bytes)
    (room : chain.length < params.height) (word : params.height < 0x10000000000000000) :
    checkSignature ⟨params, (params.masterKeys alpha).publicKey⟩ chain message
        (params.honestKey alpha r (chain.child message)).encoding = .ok true := by
  rw [← params.offsetKey_zero, checkSignature_offsetKey chain message 0 room word, neg_zero,
    Bilinear.pair_zero, decide_eq_true rfl]

theorem encode_offsetKey [Encoded S] (chain : IdentityChain) (message : Bytes) (offset : S.First) :
    (params.offsetKey alpha r (chain.child message) offset).encode =
      if encodingLimit < signatureSize params chain.length then .error (.configuration .oversized)
      else .ok (params.offsetKey alpha r (chain.child message) offset).encoding := by
  have depth : (params.offsetKey alpha r (chain.child message) offset).depth = chain.length + 1 :=
    IdentityChain.length_child chain message
  rw [DelegatedKey.encode_eq, depth, params.length_offsetKey, IdentityChain.length_child]
  rfl

theorem sign_own [Encoded S] (session : Session S) (issued : key.Issued params alpha own r)
    (buffer : Bytes) (state : session.state = .signing key buffer) (delegates : session.delegates = own)
    (room : own.length < params.height) (small : signatureSize params own.length ≤ encodingLimit) :
    session.sign =
      (.ok (params.honestKey alpha (r + (drawExponent params.curve session.stream).1)
        (own.child buffer)).encoding,
      { session.emptied key with stream := (drawExponent params.curve session.stream).2 }) := by
  rw [session.sign_issued issued buffer state (congrArg IdentityChain.length delegates) room,
    delegates, sub_self, smul_zero, encode_offsetKey, if_neg (Nat.not_lt.mpr small),
    params.offsetKey_zero]

theorem run_signing [Encoded S] (session : Session S) (issued : key.Issued params alpha own r)
    (state : session.state = .signing key []) (delegates : session.delegates = own)
    (room : own.length < params.height) (word : params.height < 0x10000000000000000)
    (small : signatureSize params own.length ≤ encodingLimit) (messages : List (List Bytes)) :
    ∃ signatures, (session.run (Call.signing messages)).1 = Reply.signing messages signatures ∧
      List.Forall₂ (fun message signature =>
        checkSignature ⟨params, (params.masterKeys alpha).publicKey⟩ own message signature = .ok true)
        (messages.map List.flatten) signatures := by
  induction messages generalizing session with
  | nil => exact ⟨[], rfl, .nil⟩
  | cons chunks rest ih =>
    let fed : Session S := { session with state := .signing key chunks.flatten }
    let exponent := r + (drawExponent params.curve session.stream).1
    let signature := (params.honestKey alpha exponent (own.child chunks.flatten)).encoding
    have signed := fed.sign_own issued chunks.flatten rfl delegates room small
    have made : (sign { session with state := .signing key chunks.flatten }).1 = .ok signature :=
      congrArg Prod.fst signed
    have accepted : checkSignature ⟨params, (params.masterKeys alpha).publicKey⟩ own chunks.flatten
        signature = .ok true :=
      checkSignature_honestKey own chunks.flatten room word
    -- The buffer is empty again, so the rest is signed in the same way with another stream.
    obtain ⟨signatures, replies, later⟩ := ih fed.sign.2 (by rw [signed]; rfl)
      (by rw [signed]; exact delegates)
    refine ⟨signature :: signatures, ?_, .cons accepted later⟩
    rw [Call.signing, List.flatMap_cons, run_append, session.run_sign key chunks state]
    change _ ++ (fed.sign.2.run (Call.signing rest)).1 = _
    rw [replies, made]
    rfl

omit [Bilinear S] in
theorem run_checking (session : Session S) (key : VerifyingKey S)
    (state : session.state = .verifying key []) (messages : List (List Bytes))
    (signatures : List Bytes)
    (accepted : List.Forall₂ (fun message signature =>
      checkSignature key session.delegates message signature = .ok true)
      (messages.map List.flatten) signatures) :
    session.run (Call.checking messages signatures) = (Reply.accepting messages, session) := by
  induction messages generalizing signatures with
  | nil => rfl
  | cons chunks rest ih =>
    cases accepted with
    | cons first later =>
      rename_i signature signatures
      have check := session.run_check key chunks signature state
      rw [first] at check
      have rest := ih signatures later
      unfold Call.checking at rest ⊢
      rw [List.zipWith_cons_cons, List.flatten_cons, run_append, check]
      simp only [rest]
      rfl

/-- Whatever is signed with an issued key is accepted, message after message, however the messages
are cut into chunks on either side. The height is the length of a list in memory, so it fits a
machine word. -/
theorem signatures_accepted [Encoded S] (params : PublicParams S) (alpha r : Scalar)
    (chain : IdentityChain) (key : SigningKey S) (issued : key.Issued params alpha chain r)
    (room : chain.length < params.height) (word : params.height < 0x10000000000000000)
    (small : signatureSize params chain.length ≤ encodingLimit) (signer verifier : Session S)
    (signerFits : signer.scheme.Fits params) (verifierFits : verifier.scheme.Fits params)
    (messages copies : List (List Bytes))
    (same : copies.map List.flatten = messages.map List.flatten) :
    ∃ signatures : List Bytes, signatures.length = messages.length ∧
      (signer.run (.setDelegates chain :: .initSign key :: Call.signing messages)).1 =
        .done (.ok ()) :: .done (.ok ()) :: Reply.signing messages signatures ∧
      (verifier.run (.setDelegates chain ::
          .initVerify ⟨params, (params.masterKeys alpha).publicKey⟩ ::
          Call.checking copies signatures)).1 =
        .done (.ok ()) :: .done (.ok ()) :: Reply.accepting copies := by
  have started := (signer.setDelegates chain).initSign_of_fits key
    (by rw [issued.params_eq]; exact signerFits) issued.depth_eq.symm
  obtain ⟨signatures, replies, accepted⟩ := run_signing
    { signer.setDelegates chain with state := .signing key [] } issued rfl rfl room word small messages
  have count := accepted.length_eq
  rw [List.length_map] at count
  refine ⟨signatures, count.symm, ?_, ?_⟩
  next =>
    simp only [run, step, started, replies]
  next =>
    rw [← same] at accepted
    rw [verifier.run_verifying chain _ verifierFits, run_checking _ _ rfl copies signatures accepted]

theorem signatures_accepted_two_messages :
    let params := Exponents.params [7, 11]
    let steps : List DelegationStep := [⟨[97], .seeded [1] []⟩]
    let chain := IdentityChain.root.extend steps
    let key : SigningKey exponents := .delegated params
      (params.honestKey 13 (steps.map (DelegationStep.exponent params.curve)).sum chain)
    let signer : Session exponents := start (.ofHeight 2) (.seeded [2] [])
    let verifier : Session exponents := start (.ofHeight 2) (.seeded [3] [])
    ∃ signatures : List Bytes, signatures.length = 2 ∧
      (signer.run (.setDelegates chain :: .initSign key ::
          Call.signing [[[1], [2, 3]], [[]]])).1 =
        .done (.ok ()) :: .done (.ok ()) :: Reply.signing [[[1], [2, 3]], [[]]] signatures ∧
      (verifier.run (.setDelegates chain ::
          .initVerify ⟨params, (params.masterKeys 13).publicKey⟩ ::
          Call.checking [[[1, 2], [3]], []] signatures)).1 =
        .done (.ok ()) :: .done (.ok ()) :: Reply.accepting [[[1, 2], [3]], []] := by
  intro params steps chain key signer verifier
  have issued : key.Issued params 13 chain _ :=
    .delegated .direct steps _ (params.delegateAlong_masterKey 13 .direct steps (by decide))
  exact signatures_accepted params 13 _ chain key issued (by decide) (by decide) (by decide)
    signer verifier ⟨rfl, rfl⟩ ⟨rfl, rfl⟩ [[[1], [2, 3]], [[]]] [[[1, 2], [3]], []] rfl

end Session

end IdentityHierarchy
