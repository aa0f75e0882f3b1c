import IdentityHierarchy.Proofs.Powers
import IdentityHierarchy.Proofs.Rehashing
import IdentityHierarchy.Proofs.Replacement

set_option autoImplicit false

namespace IdentityHierarchy

open PairingGroups
open scoped ElementGroup Fin.CommRing

def IdentityChain.replace (chain : IdentityChain) (i : Nat) (element : Bytes) : IdentityChain :=
  ⟨chain.elements.set i element⟩

@[simp]
theorem IdentityChain.length_replace (chain : IdentityChain) (i : Nat) (element : Bytes) :
    (chain.replace i element).length = chain.length := by
  simp [replace, length]

variable {S : PairingGroups}

def PublicParams.Ignores (params : PublicParams S) (r : Scalar) (i : Nat) : Prop :=
  params.gHead = 0 ∨ r = 0 ∨ params.h.getD i 0 = 0

variable [Bilinear S]

theorem PublicParams.chainElement_replace (params : PublicParams S) (chain : IdentityChain)
    (i : Nat) (first second : Bytes) (there : chain.elements[i]? = some first) :
    params.chainElement (chain.replace i second) =
      params.chainElement chain + (Scalar.hash second - Scalar.hash first) • params.h.getD i 0 := by
  obtain ⟨within, value⟩ := List.getElem?_eq_some_iff.mp there
  have inside : i ∈ Finset.range chain.length := Finset.mem_range.mpr within
  have new : (chain.replace i second).elements.getD i [] = second := by
    simp [IdentityChain.replace, within]
  have old : chain.elements.getD i [] = first := by
    simp [there]
  have others (j : Nat) (other : j ∈ (Finset.range chain.length).erase i) :
      Scalar.hash ((chain.replace i second).elements.getD j []) • params.h.getD j 0 =
        Scalar.hash (chain.elements.getD j []) • params.h.getD j 0 := by
    have ne : i ≠ j := (Finset.ne_of_mem_erase other).symm
    simp [IdentityChain.replace, List.getElem?_set_ne ne]
  rw [chainElement, chainElement, IdentityChain.length_replace, ← Finset.add_sum_erase _ _ inside,
    ← Finset.add_sum_erase _ _ inside, Finset.sum_congr rfl others, new, old]
  module

variable [Nondegenerate S]

theorem PublicParams.verify_replaced (params : PublicParams S) (alpha r : Scalar)
    (chain : IdentityChain) (bound : chain.length ≤ params.height) (i : Nat) (first second : Bytes)
    (there : chain.elements[i]? = some first) :
    params.verify (params.masterKeys alpha).publicKey (chain.replace i second)
        (params.honestKey alpha r chain) = .ok true ↔
      params.Ignores r i ∨ Scalar.hash first = Scalar.hash second := by
  have difference : alpha • params.g2 + r • params.chainElement (chain.replace i second) -
      (params.honestKey alpha r chain).a0 =
        r • (Scalar.hash second - Scalar.hash first) • params.h.getD i 0 := by
    rw [params.chainElement_replace chain i first second there, honestKey]
    module
  rw [params.verify_multiple alpha r _ _ (chain.length_replace i second)
    ((chain.length_replace i second).trans_le bound) rfl, difference, Except.ok.injEq,
    decide_eq_true_iff, pair_eq_one_iff, ElementGroup.smul_eq_zero_iff,
    ElementGroup.smul_eq_zero_iff, sub_eq_zero, Ignores]
  grind

namespace Session

variable {params : PublicParams S} {alpha r : Scalar} {key : SigningKey S}

omit [Nondegenerate S] in
theorem sign_issued_eq_ok [Encoded S] (session : Session S)
    (issued : key.Issued params alpha session.delegates r) (buffer signature : Bytes)
    (state : session.state = .signing key buffer) (made : session.sign.1 = .ok signature) :
    session.delegates.length < params.height ∧
      signature = (params.honestKey alpha (r + (drawExponent params.curve session.stream).1)
        (session.delegates.child buffer)).encoding := by
  -- A session without room for the message, or with too long an encoding, would not have signed.
  rcases Nat.lt_or_eq_of_le issued.eq_honest.1 with room | full
  next =>
    refine ⟨room, ?_⟩
    by_cases small : signatureSize params session.delegates.length ≤ encodingLimit
    next =>
      rw [session.sign_own issued buffer state rfl room small] at made
      exact (Except.ok.inj made).symm
    next =>
      rw [session.sign_issued issued buffer state rfl room, encode_offsetKey,
        if_pos (Nat.lt_of_not_le small)] at made
      cases made
  next =>
    rw [session.sign_exhausted issued buffer state rfl full] at made
    cases made

theorem checkSignature_replaced_element [Encoded S] (chain other : IdentityChain)
    (message text : Bytes) (room : chain.length < params.height)
    (word : params.height < 0x10000000000000000) (i : Nat) (first second : Bytes)
    (there : (chain.child message).elements[i]? = some first)
    (replaced : other.child text = (chain.child message).replace i second) :
    checkSignature ⟨params, (params.masterKeys alpha).publicKey⟩ other text
        (params.honestKey alpha r (chain.child message)).encoding = .ok true ↔
      params.Ignores r i ∨ Scalar.hash first = Scalar.hash second := by
  have bound : (chain.child message).length ≤ params.height := by
    rw [IdentityChain.length_child]
    exact room
  have lengths := congrArg IdentityChain.length replaced
  rw [IdentityChain.length_replace, IdentityChain.length_child] at lengths
  have components : (params.honestKey alpha r (chain.child message)).depth +
      (params.honestKey alpha r (chain.child message)).b.length = params.height := by
    rw [params.length_honestKey]
    exact Nat.add_sub_of_le bound
  rw [checkSignature_encoding _ other text _ lengths.symm components word, replaced]
  exact params.verify_replaced alpha r _ bound i first second there

end Session

/-- Besides SHA-256 it is only the rehashing that gives two elements one hash. Keys and signatures
for the one element are accepted for the other in these cases and no others. -/
theorem accepted_for_other_element_iff (first second : Bytes) (ends : Scalar.SearchEnds first)
    (ends' : Scalar.SearchEnds second) :
    (Scalar.hash first = Scalar.hash second ↔ Scalar.SearchesMeet first second) ∧
    ∀ (S : PairingGroups) [Bilinear S] [Nondegenerate S] [Encoded S] (params : PublicParams S)
      (alpha r : Scalar) (i : Nat),
      let publicKey := (params.masterKeys alpha).publicKey
      (∀ (chain : IdentityChain) (key : DelegatedKey S),
        (SigningKey.delegated params key).Issued params alpha chain r →
        chain.elements[i]? = some first →
        (params.verify publicKey (chain.replace i second) key = .ok true ↔
          params.Ignores r i ∨ Scalar.SearchesMeet first second)) ∧
      ∀ (signer : Session S) (key : SigningKey S) (message signature : Bytes),
        signer.state = .signing key message → key.Issued params alpha signer.delegates r →
        signer.sign.1 = .ok signature → params.height < 0x10000000000000000 →
        (signer.delegates.child message).elements[i]? = some first →
        ∀ (chain : IdentityChain) (text : Bytes),
          chain.child text = (signer.delegates.child message).replace i second →
          (Session.checkSignature ⟨params, publicKey⟩ chain text signature = .ok true ↔
            params.Ignores (r + (drawExponent params.curve signer.stream).1) i ∨
              Scalar.SearchesMeet first second) := by
  have meet := Scalar.hash_eq_iff_searchesMeet ends ends'
  refine ⟨meet, ?_⟩
  intro S _ _ _ params alpha r i publicKey
  simp only [← meet]
  constructor
  next =>
    intro chain key issued there
    obtain ⟨bound, ⟨-, -, master⟩ | honest⟩ := issued.eq_honest
    next => cases master
    next =>
      cases honest
      exact params.verify_replaced alpha r chain bound i first second there
  next =>
    intro signer key message signature state issued made word there chain text replaced
    obtain ⟨room, rfl⟩ := signer.sign_issued_eq_ok issued message signature state made
    exact Session.checkSignature_replaced_element signer.delegates chain message text room word i
      first second there replaced

theorem accepted_for_rehashed_digest :
    let params := Exponents.params [7, 11]
    let second := Sha256.digest [2]
    let steps : List DelegationStep := [⟨[97], .seeded [1] []⟩, ⟨[2], .seeded [2] []⟩]
    let chain := IdentityChain.root.extend steps
    let r := (steps.map (DelegationStep.exponent params.curve)).sum
    let key := params.honestKey 13 r chain
    Scalar.SearchEnds [2] ∧ Scalar.SearchEnds second ∧
      Scalar.hash [2] = Scalar.hash second ∧
      (SigningKey.delegated params key).Issued params 13 chain r ∧
      chain.elements[1]? = some [2] ∧
      params.verify (params.masterKeys 13).publicKey ⟨[[97], second]⟩ key = .ok true := by
  intro params second steps chain r key
  have ends : Scalar.SearchEnds [2] := ⟨1, by decide +kernel⟩
  have ends' : Scalar.SearchEnds second := ⟨0, by decide +kernel⟩
  have meet : Scalar.SearchesMeet [2] second := .behind ⟨0, by decide +kernel, rfl⟩
  have issued : (SigningKey.delegated params key).Issued params 13 chain r :=
    .delegated .direct steps _ (params.delegateAlong_masterKey 13 .direct steps (by decide))
  obtain ⟨hash, accepted⟩ := accepted_for_other_element_iff [2] second ends ends'
  obtain ⟨keys, -⟩ := accepted exponents params 13 r 1
  exact ⟨ends, ends', hash.mpr meet, issued, rfl, (keys chain key issued rfl).mpr (.inr meet)⟩

theorem rehashed_digest_same_hash :
    Scalar.hash [2] = Scalar.hash (Sha256.digest [2]) ∧
      Sha256.digest [2] ≠ Sha256.digest (Sha256.digest [2]) := by
  decide +kernel

end IdentityHierarchy
