import IdentityHierarchy.Proofs.Delegation
import IdentityHierarchy.Proofs.Powers

set_option autoImplicit false

namespace IdentityHierarchy

open PairingGroups
open scoped ElementGroup Fin.CommRing TargetGroup

variable {S : PairingGroups}

namespace PublicParams

variable (params : PublicParams S) (publicKey : PublicKey S) (chain : IdentityChain)
  (key : DelegatedKey S)

theorem encrypt_excessive (message : S.Target) (stream : ByteStream)
    (excess : params.height < chain.length) :
    params.encrypt publicKey chain message stream = (.error .identityTooLong, stream) := by
  rw [encrypt, if_pos excess]

theorem encrypt_fitting (message : S.Target) (stream : ByteStream)
    (bound : chain.length ≤ params.height) :
    params.encrypt publicKey chain message stream =
      (.ok (params.ciphertext publicKey chain message (drawExponent params.curve stream).1),
        (drawExponent params.curve stream).2) := by
  rw [encrypt, if_neg (Nat.not_lt.mpr bound)]

def openingProduct (element : S.First) : S.Target :=
  S.pairings [(element, key.a1), (params.g2, publicKey.point), (-key.a0, params.gHead)]

theorem equationHolds_eq (element : S.First) :
    params.equationHolds publicKey element key =
      decide (params.openingProduct publicKey key element = 1) := rfl

variable [Bilinear S]

theorem decrypt_ciphertext (message : S.Target) (s : Scalar) :
    key.decrypt (params.ciphertext publicKey chain message s) =
      message * params.openingProduct publicKey key (params.identityElement chain.hashes) ^ s.val := by
  simp only [DelegatedKey.decrypt, ciphertext, openingProduct, Bilinear.pairings_cons,
    Bilinear.pairings_nil, pair_smul_comm, ← Bilinear.pair_smul, pair_smul_eq_pow, mul_pow, one_pow]
  ac_rfl

theorem decrypt_of_verify (accepted : params.verify publicKey chain key = .ok true)
    (message : S.Target) (s : Scalar) :
    key.decrypt (params.ciphertext publicKey chain message s) = message := by
  obtain ⟨-, -, holds⟩ := (params.verify_eq_true_iff publicKey chain key).mp accepted
  rw [equationHolds_eq, decide_eq_true_iff] at holds
  rw [decrypt_ciphertext, holds, one_pow, mul_one]

theorem decrypt_eq_message_iff (message : S.Target) (s : Scalar) (unit : IsUnit message) :
    key.decrypt (params.ciphertext publicKey chain message s) = message ↔
      s = 0 ∨ params.equationHolds publicKey (params.identityElement chain.hashes) key = true := by
  rw [decrypt_ciphertext, unit.mul_eq_left, equationHolds_eq, decide_eq_true_iff]
  exact pairings_pow_eq_one_iff _ s

theorem verify_iff_decrypts (bound : chain.length ≤ params.height)
    (depth : key.depth = chain.length) :
    let accepted := params.verify publicKey chain key = .ok true
    (∀ message stream, (params.encrypt publicKey chain message stream).1 =
      .ok (params.ciphertext publicKey chain message (drawExponent params.curve stream).1)) ∧
    (accepted → ∀ message s,
      key.decrypt (params.ciphertext publicKey chain message s) = message) ∧
    ((∃ message s, IsUnit message ∧ s ≠ 0 ∧
      key.decrypt (params.ciphertext publicKey chain message s) = message) → accepted) ∧
    ∀ (alpha : Scalar) (start : DelegationStart) (steps : List DelegationStep)
      (issued : DelegatedKey S), publicKey = (params.masterKeys alpha).publicKey →
      IdentityChain.root.extend steps = chain →
      (params.masterKeys alpha).masterKey.delegateAlong params start steps = .ok issued →
      ∀ message stream, ∃ ciphertext,
        (params.encrypt publicKey chain message stream).1 = .ok ciphertext ∧
          issued.decrypt ciphertext = message := by
  intro accepted
  have encrypted (message : S.Target) (stream : ByteStream) :=
    congrArg Prod.fst (params.encrypt_fitting publicKey chain message stream bound)
  refine ⟨encrypted, params.decrypt_of_verify publicKey chain key, ?_, ?_⟩
  next =>
    rintro ⟨message, s, unit, nonzero, decrypted⟩
    have holds := (params.decrypt_eq_message_iff publicKey chain key message s unit).mp decrypted
    exact (params.verify_eq_true_iff publicKey chain key).mpr
      ⟨depth.symm, bound, holds.resolve_left nonzero⟩
  next =>
    rintro alpha start steps issued rfl rfl reached message stream
    obtain ⟨-, rfl⟩ := params.eq_honestKey_of_delegateAlong alpha start steps issued reached
    have accepted := params.verify_honestKey alpha
      (steps.map (DelegationStep.exponent params.curve)).sum _ bound
    exact ⟨_, encrypted message stream, params.decrypt_of_verify _ _ _ accepted message _⟩

theorem decrypts_all_after_one :
    let params := Exponents.params [7, 11]
    let publicKey := (params.masterKeys 13).publicKey
    let chain : IdentityChain := ⟨[[97]]⟩
    let key : DelegatedKey exponents := { params.honestKey 13 4 chain with b := [] }
    let one := exponents.pair params.g params.gHead
    key.decrypt (params.ciphertext publicKey chain one 2) = one ∧
      ∀ message s, key.decrypt (params.ciphertext publicKey chain message s) = message := by
  intro params publicKey chain key one
  have decrypted : key.decrypt (params.ciphertext publicKey chain one 2) = one := by
    decide +kernel
  obtain ⟨-, all, accepted, -⟩ := verify_iff_decrypts params publicKey chain key (by decide) rfl
  exact ⟨decrypted, all (accepted ⟨one, 2, Exponents.isUnit one, by decide, decrypted⟩)⟩

end PublicParams

end IdentityHierarchy
