import IdentityHierarchy.Proofs.Envelope
import IdentityHierarchy.Proofs.Session
import IdentityHierarchy.Proofs.Verification
import IdentityHierarchy.Scheme.Precomputed

set_option autoImplicit false

namespace IdentityHierarchy

open PairingGroups

variable {S : PairingGroups}

namespace PrecomputedVerifier

theorem ofChain_eq_ok_iff (params : PublicParams S) (publicKey : PublicKey S)
    (chain : IdentityChain) (verifier : PrecomputedVerifier S) :
    ofChain params publicKey chain = .ok verifier ↔ chain.length < params.height ∧
      verifier = ⟨params, publicKey, chain, params.identityElement chain.hashes⟩ := by
  unfold ofChain
  by_cases full : params.height ≤ chain.length
  next => simp [full, Nat.not_lt.mpr full]
  next => simp [full, Nat.lt_of_not_le full, eq_comm]

theorem verify_child [ElementGroup.Commutative S.First] (params : PublicParams S)
    (publicKey : PublicKey S) (chain : IdentityChain) (verifier : PrecomputedVerifier S)
    (made : ofChain params publicKey chain = .ok verifier) (message : Bytes)
    (key : DelegatedKey S) :
    params.verify publicKey (chain.child message) key = .ok (verifier.verify message key) := by
  obtain ⟨room, rfl⟩ := (ofChain_eq_ok_iff params publicKey chain verifier).mp made
  by_cases depth : key.depth = chain.length + 1
  next =>
    have level : (chain.child message).length = key.depth := by
      rw [IdentityChain.length_child, depth]
    have bound : (chain.child message).length ≤ params.height := by
      rw [IdentityChain.length_child]
      exact room
    have inside : chain.hashes.length < params.height := by
      rw [IdentityChain.length_hashes]
      exact room
    rw [params.verify_decided publicKey _ key level bound, IdentityChain.hashes_child,
      params.identityElement_append _ _ inside, IdentityChain.length_hashes, verify,
      if_neg (not_not_intro depth)]
  next =>
    have misplaced : (chain.child message).length ≠ key.depth := by
      rw [IdentityChain.length_child]
      exact Ne.symm depth
    rw [params.verify_misplaced publicKey _ key misplaced, verify, if_pos depth]

end PrecomputedVerifier

namespace Session

inductive CheckOutcome (key : VerifyingKey S) (chain : IdentityChain) (message encoding : Bytes) :
    Except Error Bool → Prop where
  | undecodable (fault : DecodingFault)
      (failed : DelegatedKey.decode key.params encoding = .error (.decoding fault)) :
      CheckOutcome key chain message encoding (.error (.decoding fault))
  | misplaced (signature : DelegatedKey S)
      (decoded : DelegatedKey.decode key.params encoding = .ok signature)
      (depth : signature.depth ≠ chain.length + 1) :
      CheckOutcome key chain message encoding
        (.error (.identityChainMismatch (signature.depth - 1) chain.length))
  | decided (signature : DelegatedKey S)
      (decoded : DelegatedKey.decode key.params encoding = .ok signature)
      (depth : signature.depth = chain.length + 1) (verifier : PrecomputedVerifier S)
      (made : PrecomputedVerifier.ofChain key.params key.publicKey chain = .ok verifier) :
      CheckOutcome key chain message encoding (.ok (verifier.verify message signature))

variable [ElementGroup.Commutative S.First]

theorem checkSignature_outcome (key : VerifyingKey S) (chain : IdentityChain)
    (message encoding : Bytes) :
    CheckOutcome key chain message encoding (checkSignature key chain message encoding) := by
  rcases DelegatedKey.decode_cases key.params encoding with
    ⟨fault, failed⟩ | ⟨signature, decoded, components⟩
  next =>
    rw [checkSignature_undecodable key chain message encoding _ failed]
    exact .undecodable fault failed
  next =>
    by_cases depth : signature.depth = chain.length + 1
    next =>
      -- A signature that has been decoded is within the height, so the chain leaves a level free.
      have room : chain.length < key.params.height := by omega
      have made := (PrecomputedVerifier.ofChain_eq_ok_iff key.params key.publicKey chain _).mpr
        ⟨room, rfl⟩
      rw [checkSignature_decided key chain message encoding signature decoded depth,
        PrecomputedVerifier.verify_child _ _ _ _ made]
      exact .decided signature decoded depth _ made
    next =>
      rw [checkSignature_misplaced key chain message encoding signature decoded depth]
      exact .misplaced signature decoded depth

theorem verification_paths_agree (params : PublicParams S) (publicKey : PublicKey S)
    (chain : IdentityChain) :
    ((∃ verifier, PrecomputedVerifier.ofChain params publicKey chain = .ok verifier) ↔
      chain.length < params.height) ∧
    (∀ verifier, PrecomputedVerifier.ofChain params publicKey chain = .ok verifier →
      verifier.chain.length < verifier.params.h.length ∧
      ∀ message key, params.verify publicKey (chain.child message) key =
        .ok (verifier.verify message key)) ∧
    ∀ (session : Session S) (message encoding : Bytes),
      session.state = .verifying ⟨params, publicKey⟩ message → session.delegates = chain →
      let answer := (session.verify encoding).1
      let decoding := DelegatedKey.decode params encoding
      ((∃ fault, answer = .error (.decoding fault)) ↔ ∃ error, decoding = .error error) ∧
      ((∃ expected actual, answer = .error (.identityChainMismatch expected actual)) ↔
        ∃ signature, decoding = .ok signature ∧ signature.depth ≠ chain.length + 1) ∧
      (∀ signature, decoding = .ok signature → signature.depth = chain.length + 1 →
        ∃ verifier, PrecomputedVerifier.ofChain params publicKey chain = .ok verifier ∧
          answer = .ok (verifier.verify message signature)) ∧
      answer ≠ .error .identityTooLong ∧
      (∀ depth max, answer ≠ .error (.delegationDepthExceeded depth max)) ∧
      ∀ expected, answer ≠ .error (.identityChainMismatch expected (chain.length + 1)) := by
  refine ⟨?_, ?_, ?_⟩
  next => simp [PrecomputedVerifier.ofChain_eq_ok_iff]
  next =>
    intro verifier made
    have agrees := PrecomputedVerifier.verify_child params publicKey chain verifier made
    obtain ⟨room, rfl⟩ := (PrecomputedVerifier.ofChain_eq_ok_iff _ _ _ _).mp made
    exact ⟨room, agrees⟩
  next =>
    intro session message encoding state delegates answer decoding
    have outcome : CheckOutcome ⟨params, publicKey⟩ chain message encoding answer := by
      simp only [answer, verify, state, delegates]
      exact checkSignature_outcome ⟨params, publicKey⟩ chain message encoding
    generalize answer = given at outcome
    cases outcome with
    | undecodable fault failed =>
      simp [decoding, failed]
    | misplaced signature decoded depth =>
      simp [decoding, decoded, depth]
    | decided signature decoded depth verifier made =>
      simp [decoding, decoded, depth, made]

theorem verification_paths_agree_two_levels :
    let params := Exponents.params [7, 11]
    let publicKey := (params.masterKeys 13).publicKey
    let chain : IdentityChain := ⟨[[97]]⟩
    let session := ((start (.ofHeight 2) (.seeded [] [])).run
      [.setDelegates chain, .initVerify ⟨params, publicKey⟩, .update [1], .update [2]]).2
    let signature : DelegatedKey exponents := ⟨(5 : Scalar), (4 : Scalar), [], 2⟩
    session.state = .verifying ⟨params, publicKey⟩ [1, 2] ∧ session.delegates = chain ∧
      ∃ verifier, PrecomputedVerifier.ofChain params publicKey chain = .ok verifier ∧
        (session.verify signature.encoding).1 = .ok (verifier.verify [1, 2] signature) := by
  intro params publicKey chain session signature
  have decoded := signature.decode_encoding params rfl (by decide)
  obtain ⟨-, -, checked⟩ := verification_paths_agree params publicKey chain
  obtain ⟨-, -, decided, -⟩ := checked session [1, 2] signature.encoding rfl rfl
  exact ⟨rfl, rfl, decided signature decoded rfl⟩

end Session

end IdentityHierarchy
