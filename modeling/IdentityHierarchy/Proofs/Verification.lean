import IdentityHierarchy.Proofs.Laws
import IdentityHierarchy.Scheme.Setup
import IdentityHierarchy.Scheme.Verification

set_option autoImplicit false

namespace IdentityHierarchy

open PairingGroups
open scoped ElementGroup Fin.CommRing

theorem weightedSum_append {G : Type} [ElementGroup G] [ElementGroup.Commutative G]
    (exponents more : List Scalar) (elements : List G)
    (bound : exponents.length ≤ elements.length) :
    weightedSum (exponents ++ more) elements =
      weightedSum exponents elements + weightedSum more (elements.drop exponents.length) := by
  induction exponents generalizing elements with
  | nil => exact (ElementGroup.Commutative.zero_add _).symm
  | cons x xs ih =>
    cases elements with
    | nil => simp at bound
    | cons h hs =>
      have rest := ih hs (Nat.le_of_succ_le_succ bound)
      unfold weightedSum at rest ⊢
      rw [List.cons_append, List.zipWith_cons_cons, List.sum_cons, rest, List.zipWith_cons_cons,
        List.sum_cons, List.length_cons, List.drop_succ_cons, ElementGroup.Commutative.add_assoc]

open scoped ElementGroup.Commutative in
theorem weightedSum_eq_sum {G : Type} [ElementGroup G] [ElementGroup.Commutative G]
    (exponents : List Scalar) (elements : List G) (bound : exponents.length ≤ elements.length) :
    weightedSum exponents elements =
      ∑ i ∈ Finset.range exponents.length, exponents.getD i 0 • elements.getD i 0 := by
  induction exponents generalizing elements with
  | nil => simp [weightedSum]
  | cons x xs ih =>
    cases elements with
    | nil => simp at bound
    | cons h hs =>
      have rest := ih hs (Nat.le_of_succ_le_succ bound)
      unfold weightedSum at rest ⊢
      rw [List.zipWith_cons_cons, List.sum_cons, rest, List.length_cons, Finset.sum_range_succ']
      simp only [List.getD_cons_succ, List.getD_cons_zero]
      rw [add_comm]

variable {S : PairingGroups}

namespace PublicParams

variable (params : PublicParams S) (publicKey : PublicKey S) (chain : IdentityChain)
  (key : DelegatedKey S)

theorem identityElement_append [ElementGroup.Commutative S.First] (exponents : List Scalar) (x : Scalar)
    (room : exponents.length < params.height) :
    params.identityElement (exponents ++ [x]) =
      params.identityElement exponents + x • params.h.getD exponents.length 0 := by
  have inside : exponents.length < params.h.length := room
  have last : weightedSum [x] (params.h.drop exponents.length) =
      x • params.h.getD exponents.length 0 := by
    rw [List.drop_eq_getElem_cons inside, List.getD_eq_getElem _ _ inside]
    exact ElementGroup.Commutative.add_zero _
  rw [identityElement, identityElement, weightedSum_append _ _ _ (Nat.le_of_lt inside), last,
    ElementGroup.Commutative.add_assoc, ElementGroup.Commutative.add_comm (x • _),
    ElementGroup.Commutative.add_assoc]

theorem verify_misplaced (misplaced : chain.length ≠ key.depth) :
    params.verify publicKey chain key = .ok false := by
  rw [verify, if_pos misplaced]

theorem verify_excessive (depth : chain.length = key.depth)
    (excess : params.height < chain.length) :
    params.verify publicKey chain key = .error .identityTooLong := by
  rw [verify, if_neg (not_not_intro depth), if_pos excess]

theorem verify_decided (depth : chain.length = key.depth) (bound : chain.length ≤ params.height) :
    params.verify publicKey chain key =
      .ok (params.equationHolds publicKey (params.identityElement chain.hashes) key) := by
  rw [verify, if_neg (not_not_intro depth), if_neg (Nat.not_lt.mpr bound)]

theorem verify_eq_error_iff (error : Error) :
    params.verify publicKey chain key = .error error ↔
      error = .identityTooLong ∧ chain.length = key.depth ∧ params.height < chain.length := by
  by_cases depth : chain.length = key.depth
  next =>
    rcases Nat.lt_or_ge params.height chain.length with excess | bound
    next =>
      rw [params.verify_excessive publicKey chain key depth excess, Except.error.injEq, eq_comm]
      simp only [depth, depth ▸ excess, and_true]
    next =>
      rw [params.verify_decided publicKey chain key depth bound]
      simp [Nat.not_lt.mpr bound]
  next =>
    rw [params.verify_misplaced publicKey chain key depth]
    simp [depth]

theorem verify_eq_true_iff :
    params.verify publicKey chain key = .ok true ↔
      chain.length = key.depth ∧ chain.length ≤ params.height ∧
        params.equationHolds publicKey (params.identityElement chain.hashes) key = true := by
  by_cases depth : chain.length = key.depth
  next =>
    rcases Nat.lt_or_ge params.height chain.length with excess | bound
    next =>
      rw [params.verify_excessive publicKey chain key depth excess]
      simp [Nat.not_le.mpr excess]
    next =>
      rw [params.verify_decided publicKey chain key depth bound, Except.ok.injEq]
      simp only [depth, depth ▸ bound, true_and]
  next =>
    rw [params.verify_misplaced publicKey chain key depth]
    simp [depth]

end PublicParams

variable [Bilinear S]

namespace PublicParams

/-- `g3`, and for every element of the chain the multiple of its own `h` by its hash. -/
def chainElement (params : PublicParams S) (chain : IdentityChain) : S.First :=
  params.g3 + ∑ i ∈ Finset.range chain.length,
    Scalar.hash (chain.elements.getD i []) • params.h.getD i 0

theorem chainElement_root (params : PublicParams S) : params.chainElement .root = params.g3 := by
  simp [chainElement, IdentityChain.root, IdentityChain.length]

theorem chainElement_child (params : PublicParams S) (chain : IdentityChain) (element : Bytes) :
    params.chainElement (chain.child element) =
      params.chainElement chain + Scalar.hash element • params.h.getD chain.length 0 := by
  have last : (chain.child element).elements.getD chain.length [] = element := by
    simp [IdentityChain.child, IdentityChain.length]
  -- The elements that were there before keep their places.
  have earlier (i : Nat) (inside : i ∈ Finset.range chain.length) :
      Scalar.hash ((chain.child element).elements.getD i []) • params.h.getD i 0 =
        Scalar.hash (chain.elements.getD i []) • params.h.getD i 0 := by
    have inside : i < chain.elements.length := Finset.mem_range.mp inside
    rw [IdentityChain.child, List.getD_append _ _ _ _ inside]
  rw [chainElement, chainElement, IdentityChain.length_child, Finset.sum_range_succ, last,
    Finset.sum_congr rfl earlier, add_assoc]

theorem identityElement_hashes (params : PublicParams S) (chain : IdentityChain)
    (bound : chain.length ≤ params.height) :
    params.identityElement chain.hashes = params.chainElement chain := by
  have within : chain.hashes.length ≤ params.h.length := by
    rw [IdentityChain.length_hashes]
    exact bound
  have terms (i : Nat) (inside : i ∈ Finset.range chain.length) :
      chain.hashes.getD i 0 • params.h.getD i 0 =
        Scalar.hash (chain.elements.getD i []) • params.h.getD i 0 := by
    have inside : i < chain.elements.length := Finset.mem_range.mp inside
    simp [IdentityChain.hashes, List.getD_eq_getElem?_getD, inside]
  rw [identityElement, weightedSum_eq_sum _ _ within, IdentityChain.length_hashes,
    Finset.sum_congr rfl terms, chainElement, add_comm]

theorem pairings_multiple (params : PublicParams S) (alpha r : Scalar) (element : S.First)
    (key : DelegatedKey S) (multiple : key.a1 = r • params.gHead) :
    S.pairings [(element, key.a1), (params.g2, (params.masterKeys alpha).publicKey.point),
        (-key.a0, params.gHead)] =
      S.pair (alpha • params.g2 + r • element - key.a0) params.gHead := by
  -- All three pairings are with multiples of `gHead`, so they are one pairing with it.
  have product := pairings_multiples params.gHead
    [(r, element), (alpha, params.g2), (1, -key.a0)]
  simp only [List.map_cons, List.map_nil, one_smul, List.sum_cons, List.sum_nil] at product
  have total : r • element + (alpha • params.g2 + (-key.a0 + 0)) =
      alpha • params.g2 + r • element - key.a0 := by
    module
  simp only [masterKeys, multiple]
  rw [product, total]

theorem equationHolds_multiple (params : PublicParams S) (alpha r : Scalar) (element : S.First)
    (key : DelegatedKey S) (multiple : key.a1 = r • params.gHead) :
    params.equationHolds (params.masterKeys alpha).publicKey element key =
      decide (S.pair (alpha • params.g2 + r • element - key.a0) params.gHead = 1) := by
  rw [equationHolds, params.pairings_multiple alpha r element key multiple]

theorem verify_multiple (params : PublicParams S) (alpha r : Scalar) (chain : IdentityChain)
    (key : DelegatedKey S) (depth : chain.length = key.depth) (bound : chain.length ≤ params.height)
    (multiple : key.a1 = r • params.gHead) :
    params.verify (params.masterKeys alpha).publicKey chain key =
      .ok (decide
        (S.pair (alpha • params.g2 + r • params.chainElement chain - key.a0) params.gHead = 1)) := by
  rw [params.verify_decided _ chain key depth bound, params.identityElement_hashes chain bound,
    equationHolds_multiple params alpha r _ key multiple]

end PublicParams

end IdentityHierarchy
