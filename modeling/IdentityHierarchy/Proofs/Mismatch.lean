import IdentityHierarchy.Proofs.Decryption
import IdentityHierarchy.Proofs.ElementExchange

set_option autoImplicit false

namespace IdentityHierarchy

open PairingGroups
open scoped ElementGroup Fin.CommRing TargetGroup

variable {S : PairingGroups} [Bilinear S]

namespace PublicParams

variable (params : PublicParams S) (alpha r : Scalar) (own chain : IdentityChain)

theorem decrypt_honestKey (bound : chain.length ≤ params.height) (message : S.Target) (s : Scalar) :
    (params.honestKey alpha r own).decrypt
        (params.ciphertext (params.masterKeys alpha).publicKey chain message s) =
      message * S.pair (params.chainElement chain - params.chainElement own) params.gHead ^ (r * s) := by
  -- The master secret is in the key and in the ciphertext, and cancels out.
  have residue : alpha • params.g2 + r • params.chainElement chain -
      (params.honestKey alpha r own).a0 =
        r • (params.chainElement chain - params.chainElement own) := by
    rw [honestKey]
    module
  have opening : params.openingProduct (params.masterKeys alpha).publicKey
      (params.honestKey alpha r own) (params.chainElement chain) =
        S.pair (r • (params.chainElement chain - params.chainElement own)) params.gHead := by
    rw [openingProduct, params.pairings_multiple alpha r _ _ rfl, residue]
  rw [decrypt_ciphertext, params.identityElement_hashes chain bound, opening, ← pair_smul_eq_pow,
    smul_smul, mul_comm s r, Bilinear.pair_smul]

theorem chainElement_replace_ne (i : Nat) (first second : Bytes)
    (there : own.elements[i]? = some first) (hashes : Scalar.hash first ≠ Scalar.hash second)
    (component : params.h.getD i 0 ≠ 0) :
    params.chainElement (own.replace i second) - params.chainElement own ≠ 0 := by
  rw [params.chainElement_replace own i first second there, add_sub_cancel_left, ne_eq,
    ElementGroup.smul_eq_zero_iff, sub_eq_zero]
  exact not_or.mpr ⟨hashes.symm, component⟩

variable [Nondegenerate S]

theorem verify_mismatched (nonzero : params.gHead ≠ 0) (same : chain.length = own.length)
    (bound : chain.length ≤ params.height) :
    params.verify (params.masterKeys alpha).publicKey chain (params.honestKey alpha r own) =
      .ok (decide (r • (params.chainElement own - params.chainElement chain) = 0)) := by
  have lack : alpha • params.g2 + r • params.chainElement chain -
      (params.honestKey alpha r own).a0 =
        -(r • (params.chainElement own - params.chainElement chain)) := by
    rw [honestKey]
    module
  rw [params.verify_multiple alpha r chain _ same bound rfl, lack]
  simp only [pair_eq_one_iff, neg_eq_zero, or_iff_left nonzero]

theorem decrypt_mismatched_iff (nonzero : params.gHead ≠ 0) (bound : chain.length ≤ params.height)
    (message : S.Target) (unit : IsUnit message) (s : Scalar) :
    (params.honestKey alpha r own).decrypt
        (params.ciphertext (params.masterKeys alpha).publicKey chain message s) = message ↔
      (r * s) • (params.chainElement chain - params.chainElement own) = 0 := by
  rw [params.decrypt_honestKey alpha r own chain bound, unit.mul_eq_left, ← Bilinear.pair_smul,
    pair_eq_one_iff, or_iff_left nonzero]

/-- A key is accepted for another chain of its length, and decrypts what is encrypted for another
chain of any length, exactly as far as the difference of the chain elements vanishes under its
exponent. One element with another hash makes it useless. -/
theorem mismatched_key_exact (generates : ElementGroup.Generates params.gHead)
    (start : DelegationStart) (steps : List DelegationStep) (key : DelegatedKey S)
    (issued : (params.masterKeys alpha).masterKey.delegateAlong params start steps = .ok key) :
    let own := IdentityChain.root.extend steps
    let r := (steps.map (DelegationStep.exponent params.curve)).sum
    let publicKey := (params.masterKeys alpha).publicKey
    (∀ chain, chain.length = own.length →
      (params.verify publicKey chain key = .ok true ↔
        r • (params.chainElement own - params.chainElement chain) = 0)) ∧
    (∀ chain, chain.length ≤ params.height → ∀ message,
      (∀ stream, (params.encrypt publicKey chain message stream).1 =
        .ok (params.ciphertext publicKey chain message (drawExponent params.curve stream).1)) ∧
      ∀ s,
        let decrypted := key.decrypt (params.ciphertext publicKey chain message s)
        let difference := params.chainElement chain - params.chainElement own
        decrypted = message * S.pair difference params.gHead ^ (r * s) ∧
          (IsUnit message → (decrypted = message ↔ (r * s) • difference = 0))) ∧
    ∀ i first second, own.elements[i]? = some first → Scalar.hash first ≠ Scalar.hash second →
      params.h.getD i 0 ≠ 0 → r ≠ 0 →
      params.verify publicKey (own.replace i second) key = .ok false ∧
      ∀ message s, IsUnit message → s ≠ 0 →
        key.decrypt (params.ciphertext publicKey (own.replace i second) message s) ≠ message := by
  intro own r publicKey
  have nonzero := generates.ne_zero
  obtain ⟨within, rfl⟩ := params.eq_honestKey_of_delegateAlong alpha start steps key issued
  refine ⟨?_, ?_, ?_⟩
  next =>
    intro chain same
    rw [params.verify_mismatched alpha r own chain nonzero same (same.trans_le within),
      Except.ok.injEq, decide_eq_true_iff]
  next =>
    intro chain bound message
    refine ⟨fun stream => ?_, fun s => ⟨?_, fun unit => ?_⟩⟩
    next => exact congrArg Prod.fst (params.encrypt_fitting publicKey chain message stream bound)
    next => exact params.decrypt_honestKey alpha r own chain bound message s
    next => exact params.decrypt_mismatched_iff alpha r own chain nonzero bound message unit s
  next =>
    intro i first second there hashes component drawn
    have same := own.length_replace i second
    have differ := params.chainElement_replace_ne own i first second there hashes component
    constructor
    next =>
      have lasting : ¬ r • (params.chainElement own -
          params.chainElement (own.replace i second)) = 0 := by
        rw [ElementGroup.smul_eq_zero_iff, ← neg_sub, neg_eq_zero]
        exact not_or.mpr ⟨drawn, differ⟩
      rw [params.verify_mismatched alpha r own _ nonzero same (same.trans_le within),
        decide_eq_false lasting]
    next =>
      intro message s unit encrypted
      rw [ne_eq, params.decrypt_mismatched_iff alpha r own _ nonzero (same.trans_le within) message
        unit s, ElementGroup.smul_eq_zero_iff]
      rintro (product | vanishes)
      next => exact (Scalar.eq_zero_of_mul r s product).elim drawn encrypted
      next => exact differ vanishes

theorem mismatched_key_second_element :
    let params := Exponents.params [7, 11]
    let steps : List DelegationStep := [⟨[97], ⟨fun _ => 1, 0⟩⟩, ⟨[98], ⟨fun _ => 2, 0⟩⟩]
    let r := (steps.map (DelegationStep.exponent params.curve)).sum
    let key := params.honestKey 13 r ⟨[[97], [98]]⟩
    let publicKey := (params.masterKeys 13).publicKey
    (params.masterKeys 13).masterKey.delegateAlong params .direct steps = .ok key ∧
      params.verify publicKey ⟨[[97], [99]]⟩ key = .ok false ∧
      (∀ message s, IsUnit message → s ≠ 0 →
        key.decrypt (params.ciphertext publicKey ⟨[[97], [99]]⟩ message s) ≠ message) ∧
      ∀ message s, key.decrypt (params.ciphertext publicKey ⟨[[97]]⟩ message s) =
        message * exponents.pair (params.chainElement ⟨[[97]]⟩ -
          params.chainElement ⟨[[97], [98]]⟩) params.gHead ^ (r * s) := by
  intro params steps r key publicKey
  have issued := params.delegateAlong_masterKey 13 .direct steps (by decide)
  obtain ⟨-, decrypted, useless⟩ := mismatched_key_exact params 13 (Exponents.generates [7, 11])
    .direct steps key issued
  obtain ⟨rejected, garbled⟩ := useless 1 [98] [99] rfl (by decide +kernel) (by decide)
    (by decide +kernel)
  exact ⟨issued, rejected, garbled, fun message s => ((decrypted ⟨[[97]]⟩ (by decide) message).2 s).1⟩

end PublicParams

end IdentityHierarchy
