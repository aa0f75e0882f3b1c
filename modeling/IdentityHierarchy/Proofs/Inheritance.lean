import IdentityHierarchy.Proofs.Acceptance

set_option autoImplicit false

namespace IdentityHierarchy

open PairingGroups
open scoped ElementGroup Fin.CommRing

variable {S : PairingGroups} [Bilinear S]

namespace PublicParams

def componentErrors (params : PublicParams S) (r : Scalar) (key : DelegatedKey S) : List S.First :=
  List.zipWith (fun h b => b - r • h) (params.h.drop key.depth) key.b

theorem headD_componentErrors (params : PublicParams S) (r : Scalar) (key : DelegatedKey S)
    (room : key.depth < params.height) (components : key.b.length = params.height - key.depth) :
    (params.componentErrors r key).headD 0 = key.b.headD 0 - r • params.h.getD key.depth 0 := by
  have inside : key.depth < params.h.length := room
  rw [componentErrors, List.drop_eq_getElem_cons inside, List.getD_eq_getElem _ _ inside]
  cases parts : key.b with
  | nil =>
    rw [parts] at components
    exact absurd components (Nat.sub_ne_zero_of_lt room).symm
  | cons b rest => rfl

theorem componentErrors_eq_zero (params : PublicParams S) (r : Scalar) (key : DelegatedKey S)
    (components : key.b.length = params.height - key.depth)
    (honest : ∀ j < params.height - key.depth,
      key.b.getD j 0 = r • params.h.getD (key.depth + j) 0) :
    params.componentErrors r key = List.replicate (params.height - key.depth) 0 := by
  have count : (params.componentErrors r key).length = params.height - key.depth := by
    simp [componentErrors, components, height]
  apply List.ext_getElem
  next => rw [count, List.length_replicate]
  next =>
    intro j inside _
    rw [count] at inside
    have element : key.depth + j < params.h.length := Nat.add_lt_of_lt_sub' inside
    have component : j < key.b.length := components ▸ inside
    have same := honest j inside
    rw [List.getD_eq_getElem _ _ component, List.getD_eq_getElem _ _ element] at same
    simp [componentErrors, same]

theorem eq_perturbedKey (params : PublicParams S) (alpha r : Scalar) (chain : IdentityChain)
    (key : DelegatedKey S) (depth : chain.length = key.depth) (multiple : key.a1 = r • params.gHead)
    (components : key.b.length = params.height - key.depth) :
    key = params.perturbedKey alpha r chain
      (key.a0 - (alpha • params.g2 + r • params.chainElement chain))
      (params.componentErrors r key) := by
  have parts : List.zipWith (fun h error => r • h + error) (params.h.drop key.depth)
      (params.componentErrors r key) = key.b := by
    apply List.ext_getElem
    next => simp [componentErrors, components, height]
    next =>
      intro j _ _
      simp [componentErrors]
  obtain ⟨a0, a1, b, level⟩ := key
  change chain.length = level at depth
  subst depth
  simp only [perturbedKey, offsetKey, honestKey, parts, DelegatedKey.mk.injEq, and_true]
  exact ⟨(add_sub_cancel _ _).symm, multiple⟩

variable [Nondegenerate S]

theorem verify_perturbedKey_iff (params : PublicParams S) (nonzero : params.gHead ≠ 0)
    (alpha r : Scalar) (chain : IdentityChain) (bound : chain.length ≤ params.height)
    (offset : S.First) (errors : List S.First) :
    params.verify (params.masterKeys alpha).publicKey chain
        (params.perturbedKey alpha r chain offset errors) = .ok true ↔ offset = 0 := by
  rw [params.verify_multiple_iff nonzero alpha r chain _ rfl]
  simp [perturbedKey, offsetKey, honestKey, bound]

/-- A child of an accepted key is accepted if and only if its element is hashed to zero or the first
component is the honest one. Further down it is the sum of what all components used so far are off by
that has to vanish, so with honest components everything below an accepted key is accepted. -/
theorem verify_descendants_iff (params : PublicParams S)
    (generates : ElementGroup.Generates params.gHead) (publicKey : PublicKey S)
    (chain : IdentityChain) (key : DelegatedKey S) (r : Scalar)
    (multiple : key.a1 = r • params.gHead) (room : key.depth < params.height)
    (components : key.b.length = params.height - key.depth)
    (accepted : params.verify publicKey chain key = .ok true) :
    (∀ child stream, ∃ next,
      key.delegate params chain child stream = (.ok next, stream.skip 32) ∧
      (params.verify publicKey (chain.child child) next = .ok true ↔
        Scalar.hash child • (key.b.headD 0 - r • params.h.getD key.depth 0) = 0)) ∧
    (∀ steps, chain.length + steps.length ≤ params.height → ∃ last,
      key.delegateAlong params chain steps = .ok last ∧
      (params.verify publicKey (chain.extend steps) last = .ok true ↔
        weightedSum (steps.map fun step => Scalar.hash step.element)
          (params.componentErrors r key) = 0)) ∧
    ((∀ j < params.height - key.depth, key.b.getD j 0 = r • params.h.getD (key.depth + j) 0) →
      ∀ steps, chain.length + steps.length ≤ params.height → ∀ front, front <+: steps → ∃ level,
        key.delegateAlong params chain front = .ok level ∧
          params.verify publicKey (chain.extend front) level = .ok true) := by
  obtain ⟨alpha, secret⟩ := generates.multiple publicKey.point
  obtain rfl : publicKey = (params.masterKeys alpha).publicKey := congrArg PublicKey.mk secret
  have nonzero := generates.ne_zero
  obtain ⟨depth, -, honest⟩ :=
    (params.verify_multiple_iff nonzero alpha r chain key multiple).mp accepted
  have shape := params.eq_perturbedKey alpha r chain key depth multiple components
  rw [honest, sub_self] at shape
  have count : (params.componentErrors r key).length = params.height - chain.length := by
    simp [componentErrors, components, depth, height]
  have along (steps : List DelegationStep)
      (within : chain.length + steps.length ≤ params.height) : ∃ last,
      key.delegateAlong params chain steps = .ok last ∧
      (params.verify (params.masterKeys alpha).publicKey (chain.extend steps) last = .ok true ↔
        weightedSum (steps.map fun step => Scalar.hash step.element)
          (params.componentErrors r key) = 0) := by
    have bound : (chain.extend steps).length ≤ params.height := by
      rwa [IdentityChain.length_extend]
    have reached := params.delegateAlong_perturbedKey alpha r chain 0 _ count steps within
    rw [← shape, zero_add] at reached
    exact ⟨_, reached, params.verify_perturbedKey_iff nonzero alpha _ _ bound _ _⟩
  refine ⟨?_, along, ?_⟩
  next =>
    intro child stream
    have level : chain.length < params.height := depth ▸ room
    have bound : (chain.child child).length ≤ params.height := by
      rwa [IdentityChain.length_child]
    have made := params.delegate_perturbedKey alpha r chain 0 _ child stream level count
    rw [← shape, zero_add, params.headD_componentErrors r key room components] at made
    exact ⟨_, made, params.verify_perturbedKey_iff nonzero alpha _ _ bound _ _⟩
  next =>
    intro honestly steps within front inside
    have shorter := inside.length_le
    obtain ⟨level, reached, decided⟩ := along front (by omega)
    rw [params.componentErrors_eq_zero r key components honestly, weightedSum_zero] at decided
    exact ⟨level, reached, decided.mpr rfl⟩

theorem verify_descendants_of_dishonest_component :
    let params := Exponents.params [7, 11]
    let publicKey := (params.masterKeys 13).publicKey
    let chain : IdentityChain := ⟨[[97]]⟩
    let key : DelegatedKey exponents := { params.honestKey 13 4 chain with b := [(5 : Scalar)] }
    let stream : ByteStream := ⟨UInt8.ofNat, 0⟩
    ElementGroup.Generates params.gHead ∧ key.a1 = (4 : Scalar) • params.gHead ∧
      key.depth < params.height ∧ key.b.length = params.height - key.depth ∧
      params.verify publicKey chain key = .ok true ∧
      ∃ next, key.delegate params chain [98] stream = (.ok next, stream.skip 32) ∧
        params.verify publicKey (chain.child [98]) next ≠ .ok true := by
  intro params publicKey chain key stream
  have generates : ElementGroup.Generates params.gHead := Exponents.generates [7, 11]
  have accepted : params.verify publicKey chain key = .ok true :=
    params.verify_honestKey 13 4 chain (by decide)
  obtain ⟨children, -⟩ := verify_descendants_iff params generates publicKey chain key 4 rfl
    (by decide) rfl accepted
  obtain ⟨next, made, decided⟩ := children [98] stream
  have lasting : ¬ Scalar.hash [98] • (key.b.headD 0 - (4 : Scalar) • params.h.getD key.depth 0) =
      0 := by
    decide +kernel
  exact ⟨generates, rfl, by decide, rfl, accepted, next, made, mt decided.mp lasting⟩

end PublicParams

end IdentityHierarchy
