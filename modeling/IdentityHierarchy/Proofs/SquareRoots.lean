import IdentityHierarchy.Elliptic.Bls12381
import IdentityHierarchy.Proofs.Primality

set_option autoImplicit false

namespace IdentityHierarchy

namespace Fp

instance : Fact (Nat.Prime modulus) := ⟨modulus_prime⟩

theorem eq_of_val_eq {a b : Fp} (same : a.val = b.val) : a = b := by
  obtain ⟨_, _⟩ := a
  cases same
  rfl

def residue (a : Fp) : ZMod modulus :=
  a.val

theorem residue_injective : Function.Injective residue := by
  intro a b same
  have values := (ZMod.natCast_eq_natCast_iff' a.val b.val modulus).mp same
  rw [Nat.mod_eq_of_lt a.isLt, Nat.mod_eq_of_lt b.isLt] at values
  exact eq_of_val_eq values

@[simp]
theorem residue_ofNat (n : Nat) : (ofNat n).residue = n :=
  ZMod.natCast_mod n modulus

@[simp]
theorem residue_zero : (0 : Fp).residue = 0 :=
  (residue_ofNat 0).trans Nat.cast_zero

@[simp]
theorem residue_one : (1 : Fp).residue = 1 :=
  (residue_ofNat 1).trans Nat.cast_one

@[simp]
theorem residue_mul (a b : Fp) : (a * b).residue = a.residue * b.residue :=
  (residue_ofNat (a.val * b.val)).trans (Nat.cast_mul a.val b.val)

@[simp]
theorem residue_add (a b : Fp) : (a + b).residue = a.residue + b.residue :=
  (residue_ofNat (a.val + b.val)).trans (Nat.cast_add a.val b.val)

@[simp]
theorem residue_neg (a : Fp) : (-a).residue = -a.residue := by
  apply (residue_ofNat (modulus - a.val)).trans
  rw [Nat.cast_sub (Nat.le_of_lt a.isLt), ZMod.natCast_self, zero_sub, residue]

theorem residue_power (a : Fp) (n : Nat) : (power a n).residue = a.residue ^ n :=
  map_power residue residue_one residue_mul a n

theorem mul_self_eq_iff (a b : Fp) : a * a = b * b ↔ a = b ∨ a = -b := by
  rw [← residue_injective.eq_iff, residue_mul, residue_mul, mul_self_eq_mul_self_iff,
    ← residue_neg, residue_injective.eq_iff, residue_injective.eq_iff]

theorem mul_self_of_sqrt? {a root : Fp} (found : sqrt? a = some root) : root * root = a := by
  simp only [sqrt?] at found
  split_ifs at found with square
  cases found
  exact square

theorem sqrt?_mul_self (a : Fp) :
    ∃ root, sqrt? (a * a) = some root ∧ (root = a ∨ root = -a) := by
  have square : power (a * a) ((modulus + 1) / 4) * power (a * a) ((modulus + 1) / 4) = a * a := by
    apply residue_injective
    have exponent : 2 * ((modulus + 1) / 4 + (modulus + 1) / 4) = modulus + 1 := by decide
    rw [residue_mul, residue_power, residue_mul, ← pow_add, ← sq, ← pow_mul, exponent, pow_succ,
      ZMod.pow_card, sq]
  exact ⟨_, if_pos square, (mul_self_eq_iff _ a).mp square⟩

theorem val_neg {a : Fp} (nonzero : a ≠ 0) : (-a).val = modulus - a.val := by
  have positive : a.val ≠ 0 := fun zero => nonzero (eq_of_val_eq zero)
  apply Nat.mod_eq_of_lt
  have := modulus_pos
  omega

theorem isUpper_neg {a : Fp} (nonzero : a ≠ 0) : (-a).isUpper = !a.isUpper := by
  have odd : modulus % 2 = 1 := by decide
  have below := a.isLt
  rw [isUpper, isUpper, val_neg nonzero, ← decide_not, decide_eq_decide]
  omega

end Fp

namespace Bls12381

/-- The negative of the coefficient is no cube, as its power by a third of the units is not one. -/
theorem cube_add_ne_zero (x : Fp) : x * x * x + firstCoefficient ≠ 0 := by
  intro vanishes
  have thirds : 3 * ((Fp.modulus - 1) / 3) = Fp.modulus - 1 := by decide
  have cube : x.residue ^ 3 = (-firstCoefficient).residue := by
    have sum := congrArg Fp.residue vanishes
    rw [Fp.residue_add, Fp.residue_mul, Fp.residue_mul, Fp.residue_zero] at sum
    rw [Fp.residue_neg, eq_neg_iff_add_eq_zero, ← sum]
    ring
  have nonzero : x.residue ≠ 0 := by
    intro zero
    rw [zero, zero_pow (by decide), ← Fp.residue_zero] at cube
    exact absurd (Fp.residue_injective cube) (by decide)
  have unit := ZMod.pow_card_sub_one_eq_one nonzero
  rw [← thirds, pow_mul, cube, ← Fp.residue_power, ← Fp.residue_one] at unit
  exact absurd (Fp.residue_injective unit) (by decide +kernel)

end Bls12381

end IdentityHierarchy
