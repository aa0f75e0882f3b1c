import IdentityHierarchy.Proofs.Exponents
import IdentityHierarchy.Proofs.Verification
import IdentityHierarchy.Scheme.Delegation

set_option autoImplicit false

namespace IdentityHierarchy

open PairingGroups
open scoped ElementGroup Fin.CommRing

structure DelegationStep where
  element : Bytes
  stream : ByteStream

def DelegationStep.exponent (curve : Curve) (step : DelegationStep) : Scalar :=
  (drawExponent curve step.stream).1

inductive DelegationStart where
  | wrapped
  | direct

def IdentityChain.extend (chain : IdentityChain) (steps : List DelegationStep) : IdentityChain :=
  ⟨chain.elements ++ steps.map DelegationStep.element⟩

variable {S : PairingGroups}

def DelegatedKey.delegateAlong (params : PublicParams S) :
    DelegatedKey S → IdentityChain → List DelegationStep → Except Error (DelegatedKey S)
  | key, _, [] => .ok key
  | key, chain, step :: rest => do
    let child ← (key.delegate params chain step.element step.stream).1
    child.delegateAlong params (chain.child step.element) rest

def MasterKey.delegateAlong (master : MasterKey S) (params : PublicParams S) :
    DelegationStart → List DelegationStep → Except Error (DelegatedKey S)
  | .direct, step :: rest => do
    let child ← (master.delegate params step.element step.stream).1
    child.delegateAlong params (IdentityChain.root.child step.element) rest
  | _, steps => (DelegatedKey.ofMaster params master).delegateAlong params .root steps

namespace IdentityChain

@[simp]
theorem extend_nil (chain : IdentityChain) : chain.extend [] = chain := by
  simp [extend]

@[simp]
theorem extend_cons (chain : IdentityChain) (step : DelegationStep) (rest : List DelegationStep) :
    chain.extend (step :: rest) = (chain.child step.element).extend rest := by
  simp [extend, child]

@[simp]
theorem length_extend (chain : IdentityChain) (steps : List DelegationStep) :
    (chain.extend steps).length = chain.length + steps.length := by
  simp [extend, length]

end IdentityChain

namespace DelegatedKey

theorem delegationFault?_eq_none_iff (key : DelegatedKey S) (params : PublicParams S)
    (chain : IdentityChain) :
    key.delegationFault? params chain = none ↔
      key.depth < params.height ∧ chain.length = key.depth ∧
        key.b.length = params.height - key.depth := by
  unfold delegationFault?
  by_cases deep : params.height ≤ key.depth
  next => simp [deep, Nat.not_lt.mpr deep]
  next =>
    have room : key.depth < params.height := Nat.lt_of_not_le deep
    by_cases count : chain.length = key.depth <;> simp [deep, room, count]

theorem delegate_of_fits (key : DelegatedKey S) (params : PublicParams S)
    (chain : IdentityChain) (child : Bytes) (stream : ByteStream)
    (room : key.depth < params.height) (count : chain.length = key.depth)
    (components : key.b.length = params.height - key.depth) :
    key.delegate params chain child stream =
      (.ok (key.childKey params chain child (drawExponent params.curve stream).1),
        (drawExponent params.curve stream).2) := by
  unfold delegate
  rw [(key.delegationFault?_eq_none_iff params chain).mpr ⟨room, count, components⟩]

theorem depth_of_delegateAlong (params : PublicParams S) (key last : DelegatedKey S)
    (chain : IdentityChain) (steps : List DelegationStep) (shallow : key.depth ≤ params.height)
    (reached : key.delegateAlong params chain steps = .ok last) :
    key.depth + steps.length ≤ params.height := by
  induction steps generalizing key chain with
  | nil => exact shallow
  | cons step rest ih =>
    cases fault : key.delegationFault? params chain with
    | some error => simp [delegateAlong, delegate, fault, bind, Except.bind] at reached
    | none =>
      -- The checks have been passed, so there was room for one more level.
      obtain ⟨room, count, components⟩ := (key.delegationFault?_eq_none_iff params chain).mp fault
      rw [delegateAlong, key.delegate_of_fits params chain _ _ room count components] at reached
      have deeper := ih (key.childKey params chain step.element (step.exponent params.curve))
        (chain.child step.element) room reached
      rw [List.length_cons]
      change key.depth + 1 + rest.length ≤ params.height at deeper
      omega

end DelegatedKey

theorem MasterKey.length_of_delegateAlong (master : MasterKey S) (params : PublicParams S)
    (start : DelegationStart) (steps : List DelegationStep) (last : DelegatedKey S)
    (reached : master.delegateAlong params start steps = .ok last) :
    steps.length ≤ params.height := by
  have wrapped (steps : List DelegationStep)
      (reached : (DelegatedKey.ofMaster params master).delegateAlong params .root steps = .ok last) :
      steps.length ≤ params.height := by
    have depth := DelegatedKey.depth_of_delegateAlong params _ last _ steps (Nat.zero_le _) reached
    exact Nat.le_trans (Nat.le_add_left _ _) depth
  cases start with
  | wrapped => exact wrapped steps reached
  | direct =>
    cases steps with
    | nil => exact Nat.zero_le _
    | cons step rest =>
      obtain ⟨curve, g, gHead, g2, g3, h⟩ := params
      cases h with
      | nil => cases reached
      | cons h1 later =>
        have depth := DelegatedKey.depth_of_delegateAlong _ _ last _ rest
          (Nat.le_add_left 1 later.length) reached
        exact Nat.le_trans (Nat.le_of_eq (Nat.add_comm _ _)) depth

variable [Bilinear S]

namespace PublicParams

/-- The key of a chain under the master secret `alpha`, with the exponent `r`. -/
def honestKey (params : PublicParams S) (alpha r : Scalar) (chain : IdentityChain) :
    DelegatedKey S :=
  { a0 := alpha • params.g2 + r • params.chainElement chain
    a1 := r • params.gHead
    b := (params.h.drop chain.length).map fun h => r • h
    depth := chain.length }

def offsetKey (params : PublicParams S) (alpha r : Scalar) (chain : IdentityChain)
    (offset : S.First) : DelegatedKey S :=
  { params.honestKey alpha r chain with a0 := (params.honestKey alpha r chain).a0 + offset }

theorem offsetKey_zero (params : PublicParams S) (alpha r : Scalar) (chain : IdentityChain) :
    params.offsetKey alpha r chain 0 = params.honestKey alpha r chain := by
  simp [offsetKey]

theorem length_honestKey (params : PublicParams S) (alpha r : Scalar) (chain : IdentityChain) :
    (params.honestKey alpha r chain).b.length = params.height - chain.length := by
  simp [honestKey, height]

theorem length_offsetKey (params : PublicParams S) (alpha r : Scalar) (chain : IdentityChain)
    (offset : S.First) :
    (params.offsetKey alpha r chain offset).b.length = params.height - chain.length :=
  params.length_honestKey alpha r chain

theorem honestKey_root (params : PublicParams S) (alpha : Scalar) :
    DelegatedKey.ofMaster params (params.masterKeys alpha).masterKey =
      params.honestKey alpha 0 .root := by
  simp [DelegatedKey.ofMaster, honestKey, masterKeys, IdentityChain.root, IdentityChain.length,
    height]

/-- A key that is also off in its components, each by an element of its own. -/
def perturbedKey (params : PublicParams S) (alpha r : Scalar) (chain : IdentityChain)
    (offset : S.First) (errors : List S.First) : DelegatedKey S :=
  { params.offsetKey alpha r chain offset with
    b := List.zipWith (fun h error => r • h + error) (params.h.drop chain.length) errors }

theorem perturbedKey_zero (params : PublicParams S) (alpha r : Scalar) (chain : IdentityChain)
    (offset : S.First) :
    params.perturbedKey alpha r chain offset (List.replicate (params.height - chain.length) 0) =
      params.offsetKey alpha r chain offset := by
  have exact : params.height - chain.length = (params.h.drop chain.length).length :=
    List.length_drop.symm
  have components : List.zipWith (fun h error => r • h + error) (params.h.drop chain.length)
      (List.replicate (params.height - chain.length) 0) =
        (params.h.drop chain.length).map fun h => r • h := by
    rw [exact, ← List.map_const', List.zipWith_map_right, List.zipWith_self]
    simp only [add_zero]
  rw [perturbedKey, components]
  rfl

theorem length_perturbedKey (params : PublicParams S) (alpha r : Scalar) (chain : IdentityChain)
    (offset : S.First) (errors : List S.First)
    (count : errors.length = params.height - chain.length) :
    (params.perturbedKey alpha r chain offset errors).b.length = params.height - chain.length := by
  simp [perturbedKey, count, height]

theorem zipWith_rerandomized (r w : Scalar) (elements errors : List S.First) :
    List.zipWith (fun b h => b + w • h)
        (List.zipWith (fun h error => r • h + error) elements errors) elements =
      List.zipWith (fun h error => (r + w) • h + error) elements errors := by
  induction elements generalizing errors with
  | nil => rfl
  | cons h rest ih =>
    cases errors with
    | nil => rfl
    | cons error errors =>
      rw [List.zipWith_cons_cons, List.zipWith_cons_cons, List.zipWith_cons_cons, ih, add_smul,
        add_right_comm]

/-- The chain of the call need not be the chain of the key. Then the key of the child is off by a
multiple of the difference, and in any case by a multiple of what the first component is off by. -/
theorem childKey_perturbedKey (params : PublicParams S) (alpha r w : Scalar)
    (own chain : IdentityChain) (child : Bytes) (offset : S.First) (errors : List S.First)
    (same : chain.length = own.length) (room : own.length < params.height)
    (count : errors.length = params.height - own.length) :
    (params.perturbedKey alpha r own offset errors).childKey params chain child w =
      params.perturbedKey alpha (r + w) (chain.child child)
        (offset + r • (params.chainElement own - params.chainElement chain) +
          Scalar.hash child • errors.headD 0) errors.tail := by
  have bound : (chain.child child).length ≤ params.height := by
    rw [IdentityChain.length_child, same]
    exact room
  have inside : own.length < params.h.length := room
  cases errors with
  | nil => exact absurd count (Nat.sub_ne_zero_of_lt room).symm
  | cons error rest =>
    -- The first component is used up for the child, the others are rerandomized with those of `h`.
    have first : (params.perturbedKey alpha r own offset (error :: rest)).b.headD 0 =
        r • params.h.getD own.length 0 + error := by
      rw [perturbedKey, List.drop_eq_getElem_cons inside, List.zipWith_cons_cons, List.headD_cons,
        List.getD_eq_getElem _ _ inside]
    have later : (params.perturbedKey alpha r own offset (error :: rest)).b.tail =
        List.zipWith (fun h error => r • h + error) (params.h.drop (own.length + 1)) rest := by
      rw [perturbedKey, List.drop_eq_getElem_cons inside, List.zipWith_cons_cons, List.tail_cons]
    simp only [DelegatedKey.childKey, first, later]
    simp only [perturbedKey, offsetKey, honestKey, zipWith_rerandomized,
      ← IdentityChain.hashes_child, params.identityElement_hashes _ bound, chainElement_child,
      IdentityChain.length_child, same, DelegatedKey.mk.injEq, and_true, List.headD_cons,
      List.tail_cons]
    constructor
    next => module
    next => module

theorem childKey_honestKey (params : PublicParams S) (alpha r w : Scalar)
    (own chain : IdentityChain) (child : Bytes) (same : chain.length = own.length)
    (room : own.length < params.height) :
    (params.honestKey alpha r own).childKey params chain child w =
      params.offsetKey alpha (r + w) (chain.child child)
        (r • (params.chainElement own - params.chainElement chain)) := by
  have components : params.height - own.length =
      params.height - (chain.child child).length + 1 := by
    rw [IdentityChain.length_child, same]
    omega
  rw [← params.offsetKey_zero alpha r own, ← params.perturbedKey_zero alpha r own,
    params.childKey_perturbedKey alpha r w own chain child 0 _ same room List.length_replicate,
    components, List.replicate_succ, List.headD_cons, List.tail_cons, smul_zero, add_zero, zero_add,
    perturbedKey_zero]

theorem verify_offsetKey (params : PublicParams S) (alpha r : Scalar) (chain : IdentityChain)
    (offset : S.First) (bound : chain.length ≤ params.height) :
    params.verify (params.masterKeys alpha).publicKey chain (params.offsetKey alpha r chain offset) =
      .ok (decide (S.pair (-offset) params.gHead = 1)) := by
  have difference : alpha • params.g2 + r • params.chainElement chain -
      (params.offsetKey alpha r chain offset).a0 = -offset := by
    simp only [offsetKey, honestKey]
    module
  rw [params.verify_multiple alpha r chain _ rfl bound rfl, difference]

theorem verify_honestKey (params : PublicParams S) (alpha r : Scalar) (chain : IdentityChain)
    (bound : chain.length ≤ params.height) :
    params.verify (params.masterKeys alpha).publicKey chain (params.honestKey alpha r chain) =
      .ok true := by
  rw [← offsetKey_zero, params.verify_offsetKey alpha r chain 0 bound, neg_zero, Bilinear.pair_zero,
    decide_eq_true rfl]

theorem childKey_masterKey (params : PublicParams S) (alpha v : Scalar) (h1 : S.First)
    (rest : List S.First) (child : Bytes) (elements : params.h = h1 :: rest) :
    (params.masterKeys alpha).masterKey.childKey params h1 rest child v =
      params.honestKey alpha v (IdentityChain.root.child child) := by
  have first : params.h.getD IdentityChain.root.length 0 = h1 := by
    rw [elements]
    rfl
  have later : params.h.drop (IdentityChain.root.child child).length = rest := by
    rw [elements]
    rfl
  simp only [MasterKey.childKey, masterKeys, honestKey, chainElement_child, chainElement_root, first,
    later, DelegatedKey.mk.injEq, true_and]
  constructor
  next => module
  next => rfl

theorem delegate_masterKey (params : PublicParams S) (alpha : Scalar) (child : Bytes)
    (stream : ByteStream) (room : 0 < params.height) :
    (params.masterKeys alpha).masterKey.delegate params child stream =
      (.ok (params.honestKey alpha (drawExponent params.curve stream).1
          (IdentityChain.root.child child)),
        (drawExponent params.curve stream).2) := by
  unfold MasterKey.delegate
  split
  next empty => simp [height, empty] at room
  next h1 rest elements =>
    simp only [params.childKey_masterKey alpha _ h1 rest child elements]

theorem delegate_perturbedKey (params : PublicParams S) (alpha r : Scalar) (chain : IdentityChain)
    (offset : S.First) (errors : List S.First) (child : Bytes) (stream : ByteStream)
    (room : chain.length < params.height)
    (count : errors.length = params.height - chain.length) :
    (params.perturbedKey alpha r chain offset errors).delegate params chain child stream =
      (.ok (params.perturbedKey alpha (r + (drawExponent params.curve stream).1)
          (chain.child child) (offset + Scalar.hash child • errors.headD 0) errors.tail),
        (drawExponent params.curve stream).2) := by
  rw [DelegatedKey.delegate_of_fits _ params chain child stream room rfl
    (params.length_perturbedKey alpha r chain offset errors count),
    params.childKey_perturbedKey alpha r _ chain chain child offset errors rfl room count, sub_self,
    smul_zero, add_zero]

theorem delegateAlong_perturbedKey (params : PublicParams S) (alpha r : Scalar)
    (chain : IdentityChain) (offset : S.First) (errors : List S.First)
    (count : errors.length = params.height - chain.length) (steps : List DelegationStep)
    (room : chain.length + steps.length ≤ params.height) :
    (params.perturbedKey alpha r chain offset errors).delegateAlong params chain steps =
      .ok (params.perturbedKey alpha (r + (steps.map (DelegationStep.exponent params.curve)).sum)
        (chain.extend steps)
        (offset + weightedSum (steps.map fun step => Scalar.hash step.element) errors)
        (errors.drop steps.length)) := by
  induction steps generalizing r chain offset errors with
  | nil => simp [DelegatedKey.delegateAlong, weightedSum]
  | cons step rest ih =>
    rw [List.length_cons] at room
    have next : chain.length < params.height := by omega
    have further : (chain.child step.element).length + rest.length ≤ params.height := by
      rw [IdentityChain.length_child]
      omega
    have fewer : errors.tail.length = params.height - (chain.child step.element).length := by
      rw [List.length_tail, count, IdentityChain.length_child]
      omega
    -- The first error is charged to the element of this step, and the others are left for the rest.
    have charged : weightedSum ((step :: rest).map fun step => Scalar.hash step.element) errors =
        Scalar.hash step.element • errors.headD 0 +
          weightedSum (rest.map fun step => Scalar.hash step.element) errors.tail := by
      cases errors with
      | nil => exact absurd count (Nat.sub_ne_zero_of_lt next).symm
      | cons error errors => rfl
    simp only [DelegatedKey.delegateAlong,
      params.delegate_perturbedKey alpha r chain offset errors _ _ next count]
    change DelegatedKey.delegateAlong params _ _ rest = _
    rw [ih _ _ _ _ fewer further, charged, List.map_cons, List.sum_cons, IdentityChain.extend_cons,
      List.drop_tail, List.length_cons, ← add_assoc, ← add_assoc]
    rfl

theorem weightedSum_zero (exponents : List Scalar) (count : Nat) :
    weightedSum exponents (List.replicate count (0 : S.First)) = 0 := by
  induction exponents generalizing count with
  | nil => rfl
  | cons x xs ih =>
    cases count with
    | zero => rfl
    | succ count =>
      have rest := ih count
      unfold weightedSum at rest ⊢
      rw [List.replicate_succ, List.zipWith_cons_cons, List.sum_cons, rest, smul_zero, add_zero]

theorem delegateAlong_honestKey (params : PublicParams S) (alpha r : Scalar) (chain : IdentityChain)
    (steps : List DelegationStep) (room : chain.length + steps.length ≤ params.height) :
    (params.honestKey alpha r chain).delegateAlong params chain steps =
      .ok (params.honestKey alpha (r + (steps.map (DelegationStep.exponent params.curve)).sum)
        (chain.extend steps)) := by
  have left : params.height - chain.length - steps.length =
      params.height - (chain.extend steps).length := by
    rw [IdentityChain.length_extend]
    omega
  rw [← offsetKey_zero, ← perturbedKey_zero, params.delegateAlong_perturbedKey alpha r chain 0 _
    List.length_replicate steps room, weightedSum_zero, List.drop_replicate, left, add_zero,
    perturbedKey_zero, offsetKey_zero]

theorem delegateAlong_masterKey (params : PublicParams S) (alpha : Scalar) (start : DelegationStart)
    (steps : List DelegationStep) (room : steps.length ≤ params.height) :
    (params.masterKeys alpha).masterKey.delegateAlong params start steps =
      .ok (params.honestKey alpha (steps.map (DelegationStep.exponent params.curve)).sum
        (IdentityChain.root.extend steps)) := by
  have wrapped : (DelegatedKey.ofMaster params (params.masterKeys alpha).masterKey).delegateAlong
      params .root steps = .ok (params.honestKey alpha
        (steps.map (DelegationStep.exponent params.curve)).sum (IdentityChain.root.extend steps)) := by
    have along := params.delegateAlong_honestKey alpha 0 .root steps
      (by rwa [show IdentityChain.root.length = 0 from rfl, Nat.zero_add])
    rwa [← honestKey_root, zero_add] at along
  cases start with
  | wrapped => exact wrapped
  | direct =>
    cases steps with
    | nil => exact wrapped
    | cons step rest =>
      have next : 0 < params.height := by
        rw [List.length_cons] at room
        omega
      have further : (IdentityChain.root.child step.element).length + rest.length ≤
          params.height := by
        rw [IdentityChain.length_child]
        exact Nat.le_trans (Nat.le_of_eq (Nat.add_comm _ _)) room
      simp only [MasterKey.delegateAlong, params.delegate_masterKey alpha _ _ next]
      change DelegatedKey.delegateAlong params _ _ rest = _
      rw [params.delegateAlong_honestKey alpha _ _ rest further]
      rfl

theorem eq_honestKey_of_delegateAlong (params : PublicParams S) (alpha : Scalar)
    (start : DelegationStart) (steps : List DelegationStep) (key : DelegatedKey S)
    (reached : (params.masterKeys alpha).masterKey.delegateAlong params start steps = .ok key) :
    (IdentityChain.root.extend steps).length ≤ params.height ∧
      key = params.honestKey alpha (steps.map (DelegationStep.exponent params.curve)).sum
        (IdentityChain.root.extend steps) := by
  have room := MasterKey.length_of_delegateAlong _ params start steps key reached
  rw [params.delegateAlong_masterKey alpha start steps room] at reached
  cases reached
  rw [IdentityChain.length_extend]
  exact ⟨Nat.le_trans (Nat.le_of_eq (Nat.zero_add _)) room, rfl⟩

/-- The key at every level of a path is the honest key with the sum of the exponents so far. So
another start and other exponents with the same sum lead to the same key. -/
theorem delegateAlong_path_independent (params : PublicParams S) (alpha : Scalar)
    (start : DelegationStart) (steps : List DelegationStep)
    (room : steps.length ≤ params.height) :
    (∀ front, front <+: steps →
      let key := params.honestKey alpha (front.map (DelegationStep.exponent params.curve)).sum
        (IdentityChain.root.extend front)
      (params.masterKeys alpha).masterKey.delegateAlong params start front = .ok key ∧
        params.verify (params.masterKeys alpha).publicKey (IdentityChain.root.extend front) key =
          .ok true) ∧
    ∀ (otherStart : DelegationStart) (others : List DelegationStep),
      others.map DelegationStep.element = steps.map DelegationStep.element →
      (others.map (DelegationStep.exponent params.curve)).sum =
        (steps.map (DelegationStep.exponent params.curve)).sum →
      (params.masterKeys alpha).masterKey.delegateAlong params otherStart others =
        (params.masterKeys alpha).masterKey.delegateAlong params start steps := by
  constructor
  next =>
    intro front inside
    have bound : front.length ≤ params.height := Nat.le_trans inside.length_le room
    constructor
    next => exact params.delegateAlong_masterKey alpha start front bound
    next =>
      apply params.verify_honestKey
      rw [IdentityChain.length_extend]
      exact Nat.le_trans (Nat.le_of_eq (Nat.zero_add _)) bound
  next =>
    intro otherStart others elements sums
    have bound : others.length ≤ params.height := by
      have lengths := congrArg List.length elements
      rw [List.length_map, List.length_map] at lengths
      omega
    have chains : IdentityChain.root.extend others = IdentityChain.root.extend steps := by
      rw [IdentityChain.extend, elements, IdentityChain.extend]
    rw [params.delegateAlong_masterKey alpha otherStart others bound,
      params.delegateAlong_masterKey alpha start steps room, chains, sums]

theorem delegateAlong_two_levels :
    let params := Exponents.params [7, 11]
    let steps : List DelegationStep := [⟨[97], .seeded [1] []⟩, ⟨[98], .seeded [2] []⟩]
    steps.length ≤ params.height ∧
      (params.masterKeys 13).masterKey.delegateAlong params .direct steps =
        .ok (params.honestKey 13 (steps.map (DelegationStep.exponent params.curve)).sum
          (IdentityChain.root.extend steps)) := by
  intro params steps
  have room : steps.length ≤ params.height := by decide
  have levels := (delegateAlong_path_independent params 13 .direct steps room).1
  exact ⟨room, (levels steps (List.prefix_refl steps)).1⟩

end PublicParams

end IdentityHierarchy
