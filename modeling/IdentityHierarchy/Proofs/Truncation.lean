import IdentityHierarchy.Proofs.Decryption
import IdentityHierarchy.Proofs.Precomputed

set_option autoImplicit false

namespace IdentityHierarchy

variable {S : PairingGroups}

section Whole

-- A sum that does not stop early: it has no value when an exponent is left without an element. With it
-- in place of the other, an operation that sums up too many exponents has no answer at all.

def weightedSum? {G : Type} [ElementGroup G] : List Scalar → List G → Option G
  | [], _ => some 0
  | _ :: _, [] => none
  | x :: xs, h :: hs => do
    let rest ← weightedSum? xs hs
    return x • h + rest

namespace PublicParams

def identityElement? (params : PublicParams S) (exponents : List Scalar) : Option S.First := do
  let sum ← weightedSum? exponents params.h
  return sum + params.g3

def encryptWhole? (params : PublicParams S) (key : PublicKey S) (chain : IdentityChain)
    (message : S.Target) (stream : ByteStream) :
    Option (Except Error (Ciphertext S) × ByteStream) := do
  if params.height < chain.length then
    return (.error .identityTooLong, stream)
  let (s, stream) := drawExponent params.curve stream
  let element ← params.identityElement? chain.hashes
  let ciphertext : Ciphertext S :=
    { c1 := S.pair params.g2 key.point ^ s * message
      c2 := s • params.gHead
      c3 := s • element }
  return (.ok ciphertext, stream)

def verifyWhole? (params : PublicParams S) (publicKey : PublicKey S) (chain : IdentityChain)
    (key : DelegatedKey S) : Option (Except Error Bool) := do
  if chain.length ≠ key.depth then
    return .ok false
  if params.height < chain.length then
    return .error .identityTooLong
  let element ← params.identityElement? chain.hashes
  return .ok (params.equationHolds publicKey element key)

end PublicParams

def DelegatedKey.delegateWhole? (key : DelegatedKey S) (params : PublicParams S)
    (chain : IdentityChain) (child : Bytes) (stream : ByteStream) :
    Option (Except Error (DelegatedKey S) × ByteStream) := do
  if let some fault := key.delegationFault? params chain then
    return (.error fault, stream)
  let (w, stream) := drawExponent params.curve stream
  let x := Scalar.hash child
  let element ← params.identityElement? (chain.hashes ++ [x])
  let next : DelegatedKey S :=
    { a0 := x • key.b.headD 0 + w • element + key.a0
      a1 := w • params.gHead + key.a1
      b := List.zipWith (fun b h => b + w • h) key.b.tail (params.h.drop (key.depth + 1))
      depth := key.depth + 1 }
  return (.ok next, stream)

def PrecomputedVerifier.ofChainWhole? (params : PublicParams S) (publicKey : PublicKey S)
    (chain : IdentityChain) : Option (Except Error (PrecomputedVerifier S)) := do
  if params.height ≤ chain.length then
    return .error (.delegationDepthExceeded chain.length params.height)
  let element ← params.identityElement? chain.hashes
  return .ok ⟨params, publicKey, chain, element⟩

end Whole

theorem weightedSum?_eq {G : Type} [ElementGroup G] (exponents : List Scalar) (elements : List G) :
    weightedSum? exponents elements =
      if exponents.length ≤ elements.length then some (weightedSum exponents elements) else none := by
  induction exponents generalizing elements with
  | nil => simp [weightedSum?, weightedSum]
  | cons x xs ih =>
    cases elements with
    | nil => simp [weightedSum?]
    | cons h hs =>
      by_cases within : xs.length ≤ hs.length <;> simp [weightedSum?, weightedSum, ih, within]

open scoped ElementGroup.Commutative in
theorem weightedSum?_eq_some_iff {G : Type} [ElementGroup G] [ElementGroup.Commutative G]
    (exponents : List Scalar) (elements : List G) (sum : G) :
    weightedSum? exponents elements = some sum ↔ exponents.length ≤ elements.length ∧
      sum = ∑ i ∈ Finset.range exponents.length, exponents.getD i 0 • elements.getD i 0 := by
  by_cases within : exponents.length ≤ elements.length
  next => simp [weightedSum?_eq, within, weightedSum_eq_sum exponents elements within, eq_comm]
  next => simp [weightedSum?_eq, within]

namespace PublicParams

variable (params : PublicParams S) (publicKey : PublicKey S) (chain : IdentityChain)

theorem identityElement?_of_le (exponents : List Scalar) (within : exponents.length ≤ params.height) :
    params.identityElement? exponents = some (params.identityElement exponents) := by
  have inside : exponents.length ≤ params.h.length := within
  simp [identityElement?, weightedSum?_eq, inside, identityElement]

theorem identityElement?_hashes (within : chain.length ≤ params.height) :
    params.identityElement? chain.hashes = some (params.identityElement chain.hashes) :=
  params.identityElement?_of_le _ (by rwa [IdentityChain.length_hashes])

theorem encryptWhole?_eq (message : S.Target) (stream : ByteStream) :
    params.encryptWhole? publicKey chain message stream =
      some (params.encrypt publicKey chain message stream) := by
  rcases Nat.lt_or_ge params.height chain.length with excess | within
  next => simp [encryptWhole?, excess, params.encrypt_excessive]
  next =>
    simp [encryptWhole?, Nat.not_lt.mpr within, params.identityElement?_hashes chain within,
      params.encrypt_fitting _ _ _ _ within, ciphertext, drawExponent]

theorem verifyWhole?_eq (key : DelegatedKey S) :
    params.verifyWhole? publicKey chain key = some (params.verify publicKey chain key) := by
  by_cases depth : chain.length = key.depth
  next =>
    rcases Nat.lt_or_ge params.height chain.length with excess | within
    next =>
      rw [params.verify_excessive publicKey chain key depth excess, verifyWhole?,
        if_neg (not_not_intro depth), if_pos excess]
      rfl
    next =>
      rw [params.verify_decided publicKey chain key depth within, verifyWhole?,
        if_neg (not_not_intro depth), if_neg (Nat.not_lt.mpr within),
        params.identityElement?_hashes chain within]
      rfl
  next =>
    rw [params.verify_misplaced publicKey chain key depth, verifyWhole?, if_pos depth]
    rfl

end PublicParams

theorem DelegatedKey.delegateWhole?_eq (key : DelegatedKey S) (params : PublicParams S)
    (chain : IdentityChain) (child : Bytes) (stream : ByteStream) :
    key.delegateWhole? params chain child stream =
      some (key.delegate params chain child stream) := by
  cases fault : key.delegationFault? params chain with
  | some error => simp [delegateWhole?, delegate, fault]
  | none =>
    -- The child takes one exponent more than the chain, and the depth leaves a level for it.
    obtain ⟨room, count, -⟩ := (key.delegationFault?_eq_none_iff params chain).mp fault
    have within : (chain.hashes ++ [Scalar.hash child]).length ≤ params.height := by
      simp [count, Nat.succ_le_of_lt room]
    simp [delegateWhole?, delegate, fault, params.identityElement?_of_le _ within, childKey]

theorem PrecomputedVerifier.ofChainWhole?_eq (params : PublicParams S) (publicKey : PublicKey S)
    (chain : IdentityChain) :
    ofChainWhole? params publicKey chain = some (ofChain params publicKey chain) := by
  rcases Nat.lt_or_ge chain.length params.height with room | full
  next =>
    have within := params.identityElement?_hashes chain (Nat.le_of_lt room)
    simp [ofChainWhole?, ofChain, Nat.not_le.mpr room, within]
  next => simp [ofChainWhole?, ofChain, full]

section Terms

open scoped ElementGroup.Commutative

/-- No operation loses an element of an identity: it answers as it would with a sum that cannot leave
out an exponent. -/
theorem no_exponent_left_out (S : PairingGroups) [ElementGroup.Commutative S.First] :
    (∀ (xs ys : List Scalar) (hs : List S.First), xs.length + ys.length ≤ hs.length →
      weightedSum (xs ++ ys) hs = weightedSum xs hs + weightedSum ys (hs.drop xs.length) ∧
      weightedSum (xs ++ ys) hs =
        ∑ i ∈ Finset.range (xs.length + ys.length), (xs ++ ys).getD i 0 • hs.getD i 0) ∧
    (∀ (xs : List Scalar) (hs : List S.First) (sum : S.First),
      weightedSum? xs hs = some sum ↔ xs.length ≤ hs.length ∧
        sum = ∑ i ∈ Finset.range xs.length, xs.getD i 0 • hs.getD i 0) ∧
    ∀ params : PublicParams S,
      (∀ publicKey chain message stream,
        params.encryptWhole? publicKey chain message stream =
          some (params.encrypt publicKey chain message stream)) ∧
      (∀ (key : DelegatedKey S) chain child stream,
        key.delegateWhole? params chain child stream =
          some (key.delegate params chain child stream)) ∧
      (∀ publicKey chain key,
        params.verifyWhole? publicKey chain key = some (params.verify publicKey chain key)) ∧
      ∀ publicKey chain, PrecomputedVerifier.ofChainWhole? params publicKey chain =
        some (PrecomputedVerifier.ofChain params publicKey chain) := by
  refine ⟨?_, weightedSum?_eq_some_iff, ?_⟩
  next =>
    intro xs ys hs bound
    have front : xs.length ≤ hs.length := Nat.le_of_add_right_le bound
    have all : (xs ++ ys).length ≤ hs.length := by rwa [List.length_append]
    have indexed := weightedSum_eq_sum (xs ++ ys) hs all
    rw [List.length_append] at indexed
    exact ⟨weightedSum_append xs ys hs front, indexed⟩
  next =>
    intro params
    exact ⟨params.encryptWhole?_eq, fun key => key.delegateWhole?_eq params,
      params.verifyWhole?_eq, PrecomputedVerifier.ofChainWhole?_eq params⟩

theorem no_exponent_left_out_three :
    let xs : List Scalar := [2, 3]
    let ys : List Scalar := [5]
    let params := Exponents.params [7, 11, 13, 17]
    let publicKey := (params.masterKeys 13).publicKey
    let key := params.honestKey 13 4 ⟨[[97], [98]]⟩
    xs.length + ys.length ≤ params.h.length ∧
      weightedSum (xs ++ ys) params.h =
        weightedSum xs params.h + weightedSum ys (params.h.drop xs.length) ∧
      weightedSum (xs ++ ys) params.h = (112 : Scalar) ∧
      weightedSum? (xs ++ ys) params.h = some (112 : Scalar) ∧
      params.verifyWhole? publicKey ⟨[[97], [98]]⟩ key =
        some (params.verify publicKey ⟨[[97], [98]]⟩ key) := by
  intro xs ys params publicKey key
  have bound : xs.length + ys.length ≤ params.h.length := by decide
  obtain ⟨sums, -, operations⟩ := no_exponent_left_out exponents
  obtain ⟨-, -, verified, -⟩ := operations params
  exact ⟨bound, (sums xs ys params.h bound).1, rfl, rfl, verified publicKey _ key⟩

example : weightedSum [2, 3, 5] (Exponents.params [7, 11]).h =
      weightedSum [2, 3] (Exponents.params [7, 11]).h ∧
    weightedSum? [2, 3, 5] (Exponents.params [7, 11]).h = none := by
  decide

end Terms

end IdentityHierarchy
