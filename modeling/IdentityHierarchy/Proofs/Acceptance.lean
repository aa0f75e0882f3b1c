import IdentityHierarchy.Proofs.Delegation
import IdentityHierarchy.Proofs.Powers

set_option autoImplicit false

namespace IdentityHierarchy

open PairingGroups
open scoped ElementGroup Fin.CommRing

variable {S : PairingGroups} [Bilinear S] [Nondegenerate S]

namespace PublicParams

theorem equationHolds_iff (params : PublicParams S) (nonzero : params.gHead ≠ 0)
    (alpha r : Scalar) (element : S.First) (key : DelegatedKey S)
    (multiple : key.a1 = r • params.gHead) :
    params.equationHolds (params.masterKeys alpha).publicKey element key = true ↔
      key.a0 = alpha • params.g2 + r • element := by
  rw [params.equationHolds_multiple alpha r element key multiple, decide_eq_true_iff,
    pair_eq_one_iff, or_iff_left nonzero, sub_eq_zero, eq_comm]

theorem verify_multiple_iff (params : PublicParams S) (nonzero : params.gHead ≠ 0)
    (alpha r : Scalar) (chain : IdentityChain) (key : DelegatedKey S)
    (multiple : key.a1 = r • params.gHead) :
    params.verify (params.masterKeys alpha).publicKey chain key = .ok true ↔
      chain.length = key.depth ∧ chain.length ≤ params.height ∧
        key.a0 = alpha • params.g2 + r • params.chainElement chain := by
  rw [verify_eq_true_iff]
  -- Only for a chain within the height is the element that of all of the chain.
  apply and_congr_right
  intro depth
  apply and_congr_right
  intro bound
  rw [params.identityElement_hashes chain bound,
    params.equationHolds_iff nonzero alpha r _ key multiple]

theorem verify_honestKey_iff (params : PublicParams S) (nonzero : params.gHead ≠ 0)
    (alpha beta r : Scalar) (chain : IdentityChain) (bound : chain.length ≤ params.height) :
    params.verify (params.masterKeys alpha).publicKey chain (params.honestKey beta r chain) =
        .ok true ↔
      beta • params.g2 = alpha • params.g2 := by
  rw [params.verify_multiple_iff nonzero alpha r chain _ rfl]
  simp only [honestKey, bound, true_and, add_left_inj]

theorem verify_accepts_honest_only (params : PublicParams S)
    (generates : ElementGroup.Generates params.gHead) (alpha : Scalar) (chain : IdentityChain)
    (key : DelegatedKey S) :
    let answer := params.verify (params.masterKeys alpha).publicKey chain
    (∃! r : Scalar, key.a1 = r • params.gHead) ∧
    (∀ r : Scalar, key.a1 = r • params.gHead →
      (answer key = .ok true ↔ chain.length = key.depth ∧ chain.length ≤ params.height ∧
        key.a0 = alpha • params.g2 + r • params.chainElement chain)) ∧
    (chain.length = key.depth → chain.length ≤ params.height →
      ∃! a0, answer { key with a0 := a0 } = .ok true) ∧
    (∀ b, answer { key with b := b } = answer key) ∧
    (chain.length ≠ key.depth → answer key = .ok false) ∧
    (∀ error, answer key = .error error ↔
      error = .identityTooLong ∧ chain.length = key.depth ∧ params.height < chain.length) ∧
    ∀ (beta : Scalar) (start : DelegationStart) (steps : List DelegationStep)
      (issued : DelegatedKey S), IdentityChain.root.extend steps = chain →
      (params.masterKeys beta).masterKey.delegateAlong params start steps = .ok issued →
      (answer issued = .ok true ↔ beta • params.g2 = alpha • params.g2) := by
  intro answer
  have nonzero := generates.ne_zero
  refine ⟨generates.logarithm key.a1, ?_, ?_, ?_, ?_, ?_, ?_⟩
  next => exact fun r multiple => params.verify_multiple_iff nonzero alpha r chain key multiple
  next =>
    intro depth bound
    obtain ⟨r, multiple⟩ := generates.multiple key.a1
    have accepted (a0 : S.First) : answer { key with a0 := a0 } = .ok true ↔
        a0 = alpha • params.g2 + r • params.chainElement chain := by
      simp only [answer, params.verify_multiple_iff nonzero alpha r chain { key with a0 := a0 } multiple,
        depth, depth ▸ bound, true_and]
    exact ⟨_, (accepted _).mpr rfl, fun a0 other => (accepted a0).mp other⟩
  next => exact fun b => rfl
  next => exact params.verify_misplaced _ chain key
  next => exact params.verify_eq_error_iff _ chain key
  next =>
    rintro beta start steps issued rfl reached
    obtain ⟨bound, rfl⟩ := params.eq_honestKey_of_delegateAlong beta start steps issued reached
    exact params.verify_honestKey_iff nonzero alpha beta _ _ bound

theorem verify_accepts_without_components :
    let params := Exponents.params [7, 11]
    let chain : IdentityChain := ⟨[[97]]⟩
    let key : DelegatedKey exponents := { params.honestKey 13 4 chain with b := [] }
    ElementGroup.Generates params.gHead ∧
      params.verify (params.masterKeys 13).publicKey chain key = .ok true ∧
      ∃! a0, params.verify (params.masterKeys 13).publicKey chain { key with a0 := a0 } =
        .ok true := by
  intro params chain key
  have generates : ElementGroup.Generates params.gHead := Exponents.generates [7, 11]
  obtain ⟨-, accepted, unique, -⟩ := verify_accepts_honest_only params generates 13 chain key
  exact ⟨generates, (accepted 4 rfl).mpr ⟨rfl, by decide, rfl⟩, unique rfl (by decide)⟩

end PublicParams

end IdentityHierarchy
