import IdentityHierarchy.Proofs.Decryption

set_option autoImplicit false

namespace IdentityHierarchy

open PairingGroups
open scoped ElementGroup Fin.CommRing TargetGroup

theorem ByteStream.accept_of_search {A : Type} (width : Nat) (accept : Bytes → Option A)
    (attempts : Nat) (stream rest : ByteStream) (found : A)
    (searched : search width accept attempts stream = some (found, rest)) :
    ∃ block, accept block = some found := by
  induction attempts generalizing stream with
  | zero => simp [search] at searched
  | succ attempts ih =>
    rw [search] at searched
    cases first : accept (stream.block width) with
    | none =>
      rw [first] at searched
      exact ih _ searched
    | some value =>
      rw [first] at searched
      cases searched
      exact ⟨_, first⟩

theorem val_exponentOfBlock (curve : Curve) (block : Bytes) :
    (exponentOfBlock curve block).val = Bytes.toNatLE block % 2 ^ 254 := by
  have bits : 1 <<< (curve.orderBits - 1) = 2 ^ 254 := by cases curve; decide +kernel
  rw [← bits, ← Bytes.toNatLE_keepLow]
  rfl

theorem exponentOfBlock_eq_zero_iff (curve : Curve) (block : Bytes) :
    exponentOfBlock curve block = 0 ↔ Bytes.toNatLE block % 2 ^ 254 = 0 := by
  rw [Fin.ext_iff, val_exponentOfBlock]
  rfl

variable {S : PairingGroups}

namespace PublicParams

variable (params : PublicParams S) (publicKey : PublicKey S) (chain : IdentityChain)
  (key : DelegatedKey S) (attempts : Nat) (stream : ByteStream)

theorem verifyByTrial_misplaced (misplaced : chain.length ≠ key.depth) :
    params.verifyByTrial attempts publicKey chain key stream = some (.ok false, stream) := by
  rw [verifyByTrial, if_pos misplaced]

theorem verifyByTrial_drawn (depth : chain.length = key.depth) (message : S.Target)
    (rest : ByteStream) (drawn : S.drawTarget attempts stream = some (message, rest)) :
    params.verifyByTrial attempts publicKey chain key stream =
      some ((params.encrypt publicKey chain message rest).1.map
          fun ciphertext => decide (key.decrypt ciphertext = message),
        (params.encrypt publicKey chain message rest).2) := by
  rw [verifyByTrial, if_neg (not_not_intro depth), drawn]
  rfl

variable [Bilinear S]

theorem verifyByTrial_agrees
    (invertible : ∀ block target, S.nontrivialTarget? block = some target → IsUnit target) :
    (chain.length ≠ key.depth →
      params.verifyByTrial attempts publicKey chain key stream = some (.ok false, stream) ∧
        params.verify publicKey chain key = .ok false) ∧
    (chain.length = key.depth → ∀ message rest,
      S.drawTarget attempts stream = some (message, rest) →
      ∃ answer next,
        params.verifyByTrial attempts publicKey chain key stream = some (answer, next) ∧
        (∀ error, answer = .error error ↔ params.verify publicKey chain key = .error error) ∧
        (∀ error, answer = .error error ↔
          error = .identityTooLong ∧ params.height < chain.length) ∧
        (chain.length ≤ params.height →
          (answer = .ok true ↔ params.verify publicKey chain key = .ok true ∨
            (drawExponent params.curve rest).1 = 0) ∧
          ((drawExponent params.curve rest).1 = 0 ↔
            Bytes.toNatLE (rest.block 32) % 2 ^ 254 = 0))) := by
  constructor
  next =>
    intro misplaced
    exact ⟨params.verifyByTrial_misplaced publicKey chain key attempts stream misplaced,
      params.verify_misplaced publicKey chain key misplaced⟩
  next =>
    intro depth message rest drawn
    obtain ⟨block, accepted⟩ := stream.accept_of_search _ _ attempts rest message drawn
    refine ⟨_, _, params.verifyByTrial_drawn publicKey chain key attempts stream depth message rest
      drawn, ?_⟩
    rcases Nat.lt_or_ge params.height chain.length with excess | bound
    next =>
      have same (error : Error) : (Except.error .identityTooLong : Except Error Bool) =
          .error error ↔ error = .identityTooLong ∧ params.height < chain.length := by
        rw [Except.error.injEq, eq_comm, and_iff_left excess]
      rw [params.encrypt_excessive publicKey chain message rest excess,
        params.verify_excessive publicKey chain key depth excess]
      exact ⟨fun error => Iff.rfl, same, fun bound => absurd excess (Nat.not_lt.mpr bound)⟩
    next =>
      have decided := params.verify_decided publicKey chain key depth bound
      have answer := params.decrypt_eq_message_iff publicKey chain key message
        (drawExponent params.curve rest).1 (invertible block message accepted)
      rw [params.encrypt_fitting publicKey chain message rest bound, decided]
      refine ⟨?_, ?_, fun _ => ⟨?_, exponentOfBlock_eq_zero_iff params.curve _⟩⟩
      next => simp [Except.map]
      next => simp [Except.map, Nat.not_lt.mpr bound]
      next =>
        rw [Except.map, Except.ok.injEq, decide_eq_true_iff, answer, or_comm, Except.ok.injEq]

theorem verifyByTrial_accepts_by_chance :
    let params := Exponents.params [7, 11]
    let publicKey := (params.masterKeys 13).publicKey
    let chain : IdentityChain := ⟨[[97]]⟩
    let key : DelegatedKey exponents := ⟨(0 : Scalar), (0 : Scalar), [], 1⟩
    let stream : ByteStream := ⟨fun i => if i = 1151 then 1 else 0, 0⟩
    params.verify publicKey chain key = .ok false ∧
      ∃ next, params.verifyByTrial 1 publicKey chain key stream = some (.ok true, next) := by
  intro params publicKey chain key stream
  have block : exponents.nontrivialTarget? (stream.block targetBlockWidth) =
      some (exponents.pair params.g params.gHead) := by
    decide +kernel
  have drawn : exponents.drawTarget 1 stream =
      some (exponents.pair params.g params.gHead, stream.skip targetBlockWidth) := by
    rw [drawTarget, ByteStream.search, block]
  have zero : (drawExponent params.curve (stream.skip targetBlockWidth)).1 = 0 := by
    decide +kernel
  have agrees := verifyByTrial_agrees params publicKey chain key 1 stream
    fun _ target _ => Exponents.isUnit target
  obtain ⟨answer, next, tried, -, -, decided⟩ := agrees.2 rfl _ _ drawn
  have passed : answer = .ok true := (decided (by decide)).1.mpr (.inr zero)
  exact ⟨by decide +kernel, next, passed ▸ tried⟩

end PublicParams

end IdentityHierarchy
