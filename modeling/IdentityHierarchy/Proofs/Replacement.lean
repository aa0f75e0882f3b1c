import IdentityHierarchy.Proofs.Signing

set_option autoImplicit false

namespace IdentityHierarchy

open PairingGroups
open scoped ElementGroup Fin.CommRing

variable {S : PairingGroups}

namespace Call

def IsChange : Call S → Prop
  | .setDelegates _ | .update _ => True
  | _ => False

def data : Call S → Bytes
  | .update data => data
  | _ => []

def fedData (calls : List (Call S)) : Bytes :=
  calls.flatMap data

end Call

namespace Session

theorem step_change (session : Session S) (call : Call S) (change : call.IsChange) :
    ∃ chain, (session.step call).2 =
      { session with delegates := chain, state := session.state.feed call.data } := by
  cases call with
  | setDelegates chain => exact ⟨chain, by simp [step, setDelegates, Call.data]⟩
  | update data => exact ⟨session.delegates, session.update_snd data⟩
  | initSign key => cases change
  | initVerify key => cases change
  | sign => cases change
  | verify signature => cases change

theorem run_changes (session : Session S) (calls : List (Call S))
    (changes : ∀ call ∈ calls, call.IsChange) :
    ∃ chain, (session.run calls).2 =
      { session with delegates := chain, state := session.state.feed (Call.fedData calls) } := by
  induction calls generalizing session with
  | nil => exact ⟨session.delegates, by simp [run, Call.fedData]⟩
  | cons call rest ih =>
    obtain ⟨between, next⟩ := session.step_change call (changes call List.mem_cons_self)
    obtain ⟨chain, last⟩ := ih (session.step call).2
      fun later member => changes later (List.mem_cons_of_mem _ member)
    refine ⟨chain, ?_⟩
    change ((session.step call).2.run rest).2 = _
    rw [last, next]
    simp [Call.fedData]

theorem initSign_ok (session : Session S) (key : SigningKey S)
    (started : (session.initSign key).1 = .ok ()) :
    session.scheme.Fits key.params ∧ session.delegates.length = key.depth := by
  unfold initSign at started
  cases misfit : session.paramsFault? key.params with
  | some fault => simp [misfit] at started
  | none =>
    cases miscount : session.countFault? key with
    | some fault => simp [misfit, miscount] at started
    | none =>
      exact ⟨(session.paramsFault?_eq_none_iff _).mp misfit,
        (session.countFault?_eq_none_iff key).mp miscount⟩

theorem sign_miscounted (session : Session S) (key : SigningKey S) (buffer : Bytes)
    (state : session.state = .signing key buffer) (count : session.delegates.length ≠ key.depth) :
    session.sign = (.error (.identityChainMismatch key.depth session.delegates.length), session) := by
  simp [sign, state, countFault?, count]

variable [Bilinear S]

variable {params : PublicParams S} {alpha r : Scalar} {own : IdentityChain} {key : SigningKey S}

theorem sign_exhausted (session : Session S) (issued : key.Issued params alpha own r)
    (buffer : Bytes) (state : session.state = .signing key buffer)
    (same : session.delegates.length = own.length) (full : own.length = params.height) :
    session.sign.1 = .error (.delegationDepthExceeded params.height params.height) := by
  have count : session.delegates.length = key.depth := same.trans issued.depth_eq.symm
  have refused := issued.refusal?_eq
  rw [if_pos full] at refused
  simp only [sign, state, (session.countFault?_eq_none_iff key).mpr count,
    key.sign_refused _ buffer session.stream count _ refused]
  rfl

theorem checkSignature_replaced [Encoded S] [Nondegenerate S] (chain : IdentityChain)
    (message : Bytes) (w : Scalar) (room : chain.length < params.height)
    (word : params.height < 0x10000000000000000) :
    checkSignature ⟨params, (params.masterKeys alpha).publicKey⟩ chain message
        (params.offsetKey alpha w (chain.child message)
          (r • (params.chainElement own - params.chainElement chain))).encoding =
      .ok (decide (params.gHead = 0 ∨
        r • params.chainElement chain = r • params.chainElement own)) := by
  rw [checkSignature_offsetKey chain message _ room word]
  have vanishes : -(r • (params.chainElement own - params.chainElement chain)) = 0 ↔
      r • params.chainElement chain = r • params.chainElement own := by
    rw [neg_eq_zero, smul_sub, sub_eq_zero, eq_comm]
  simp only [pair_eq_one_iff, vanishes, or_comm]

/-- Replacing the delegates by a chain of another length is caught. Replacing them by a chain of
the same length is not: the signature that is made is good for the new delegates if and only if the
multiples of the two chain elements agree. -/
theorem sign_after_changes [Encoded S] [Nondegenerate S] (params : PublicParams S)
    (alpha r : Scalar) (key : SigningKey S) (signer : Session S)
    (issued : key.Issued params alpha signer.delegates r)
    (started : (signer.initSign key).1 = .ok ()) (calls : List (Call S))
    (changes : ∀ call ∈ calls, call.IsChange) (word : params.height < 0x10000000000000000) :
    let own := signer.delegates
    let later := ((signer.initSign key).2.run calls).2
    (later.delegates.length ≠ own.length ∧
      later.sign.1 = .error (.identityChainMismatch own.length later.delegates.length)) ∨
    (later.delegates.length = own.length ∧ own.length = params.height ∧
      later.sign.1 = .error (.delegationDepthExceeded params.height params.height)) ∨
    (later.delegates.length = own.length ∧ own.length < params.height ∧
      encodingLimit < signatureSize params own.length ∧
      later.sign.1 = .error (.configuration .oversized)) ∨
    (later.delegates.length = own.length ∧ own.length < params.height ∧
      ∃ signature, later.sign.1 = .ok signature ∧
        ∀ (verifier : Session S) (chunks : List Bytes), verifier.scheme.Fits params →
          chunks.flatten = Call.fedData calls →
          (verifier.run (.setDelegates later.delegates ::
              .initVerify ⟨params, (params.masterKeys alpha).publicKey⟩ ::
              (Call.feed chunks ++ [.verify signature]))).1 =
            .done (.ok ()) :: .done (.ok ()) :: (Reply.fed chunks ++
              [.checked (.ok (decide (params.gHead = 0 ∨
                r • params.chainElement later.delegates = r • params.chainElement own)))])) := by
  intro own later
  obtain ⟨fits, count⟩ := signer.initSign_ok key started
  have bound : own.length ≤ params.height := issued.eq_honest.1
  -- The key stays, whatever has happened to the delegates.
  have state : later.state = .signing key (Call.fedData calls) := by
    obtain ⟨chain, reached⟩ := (signer.initSign key).2.run_changes calls changes
    change ((signer.initSign key).2.run calls).2.state = _
    rw [reached, signer.initSign_of_fits key fits count]
    rfl
  by_cases same : later.delegates.length = own.length
  next =>
    right
    rcases Nat.lt_or_eq_of_le bound with room | full
    next =>
      right
      have signed := congrArg Prod.fst (later.sign_issued issued _ state same room)
      rw [encode_offsetKey, same] at signed
      by_cases large : encodingLimit < signatureSize params own.length
      next =>
        left
        rw [if_pos large] at signed
        exact ⟨same, room, large, signed⟩
      next =>
        right
        rw [if_neg large] at signed
        refine ⟨same, room, _, signed, ?_⟩
        intro verifier chunks verifierFits copied
        rw [verifier.run_verifying later.delegates _ verifierFits, run_check _ _ chunks _ rfl, copied,
          checkSignature_replaced later.delegates _ _ (same ▸ room) word]
    next =>
      left
      exact ⟨same, full, later.sign_exhausted issued _ state same full⟩
  next =>
    left
    have caught := later.sign_miscounted key _ state (issued.depth_eq ▸ same)
    rw [issued.depth_eq] at caught
    exact ⟨same, congrArg Prod.fst caught⟩

theorem sign_after_delegates_restored :
    let params := Exponents.params [7, 11]
    let steps : List DelegationStep := [⟨[97], .seeded [1] []⟩]
    let own := IdentityChain.root.extend steps
    let key : SigningKey exponents := .delegated params
      (params.honestKey 13 (steps.map (DelegationStep.exponent params.curve)).sum own)
    let signer : Session exponents := (start (.ofHeight 2) (.seeded [2] [])).setDelegates own
    let calls : List (Call exponents) :=
      [.setDelegates ⟨[[98]]⟩, .update [1], .setDelegates own, .update [2]]
    ∃ signature, ((signer.initSign key).2.run calls).2.sign.1 = .ok signature ∧
      ((start (.ofHeight 2) (.seeded [3] [])).run [.setDelegates own,
          .initVerify ⟨params, (params.masterKeys 13).publicKey⟩, .update [1, 2],
          .verify signature]).1 =
        [.done (.ok ()), .done (.ok ()), .done (.ok ()), .checked (.ok true)] := by
  intro params steps own key signer calls
  have issued : key.Issued params 13 own _ :=
    .delegated .direct steps _ (params.delegateAlong_masterKey 13 .direct steps (by decide))
  have outcome := sign_after_changes params 13 _ key signer issued rfl calls
    (by simp [calls, Call.IsChange]) (by decide)
  rcases outcome with ⟨other, -⟩ | ⟨-, full, -⟩ | ⟨-, -, large, -⟩ | ⟨-, -, signature, made, accepted⟩
  next => exact absurd rfl other
  next => exact absurd full (by decide)
  next => exact absurd large (by decide)
  next =>
    refine ⟨signature, made, ?_⟩
    have replies := accepted (start (.ofHeight 2) (.seeded [3] [])) [[1, 2]] ⟨rfl, rfl⟩ rfl
    rw [decide_eq_true (.inr rfl)] at replies
    exact replies

theorem sign_for_other_delegates_rejected :
    let params := Exponents.params [7, 11]
    let steps : List DelegationStep := [⟨[97], ⟨fun _ => 1, 0⟩⟩]
    let own := IdentityChain.root.extend steps
    let other : IdentityChain := ⟨[[98]]⟩
    let r := (steps.map (DelegationStep.exponent params.curve)).sum
    let key : SigningKey exponents := .delegated params (params.honestKey 13 r own)
    key.Issued params 13 own r ∧
      ∃ signature,
        ((start (.ofHeight 2) (.seeded [2] [])).run [.setDelegates own, .initSign key,
            .setDelegates other, .update [1], .sign]).1 =
          [.done (.ok ()), .done (.ok ()), .done (.ok ()), .done (.ok ()),
            .signed (.ok signature)] ∧
        ((start (.ofHeight 2) (.seeded [3] [])).run [.setDelegates other,
            .initVerify ⟨params, (params.masterKeys 13).publicKey⟩, .update [1],
            .verify signature]).1 =
          [.done (.ok ()), .done (.ok ()), .done (.ok ()), .checked (.ok false)] := by
  intro params steps own other r key
  have issued : key.Issued params 13 own r :=
    .delegated .direct steps _ (params.delegateAlong_masterKey 13 .direct steps (by decide))
  let w := (drawExponent params.curve (.seeded [2] [])).1
  let signature := (params.offsetKey 13 (r + w) (other.child [1])
    (r • (params.chainElement own - params.chainElement other))).encoding
  have signed : (Session.sign ⟨.ofHeight 2, .seeded [2] [], other, .signing key [1]⟩).1 =
      .ok signature := by
    rw [sign_issued _ issued [1] rfl rfl (by decide), encode_offsetKey, if_neg (by decide)]
  -- Both chains have one element, but the hashes of the elements differ.
  have differ : ¬ (params.gHead = 0 ∨ r • params.chainElement other = r • params.chainElement own) := by
    decide +kernel
  have rejected : checkSignature ⟨params, (params.masterKeys 13).publicKey⟩ other [1] signature =
      .ok false := by
    rw [checkSignature_replaced other [1] (r + w) (by decide) (by decide), decide_eq_false differ]
  refine ⟨issued, signature, ?_, ?_⟩
  next => exact congrArg (fun result => [_, _, _, _, Reply.signed result]) signed
  next => exact congrArg (fun result => [_, _, _, Reply.checked result]) rejected

end Session

end IdentityHierarchy
