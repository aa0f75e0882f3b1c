import IdentityHierarchy.Proofs.Exponents

set_option autoImplicit false

namespace IdentityHierarchy

open PairingGroups
open scoped ElementGroup Fin.CommRing

theorem Scalar.coprime_groupOrder (s : Scalar) (nonzero : s ≠ 0) :
    Nat.gcd s.val groupOrder = 1 := by
  have value : s.val ≠ 0 := fun zero => nonzero (Fin.ext zero)
  exact (Nat.coprime_of_lt_prime value s.isLt groupOrder_prime).symm

namespace ElementGroup

variable {G : Type} [ElementGroup G] [Lawful G]

theorem smul_eq_nsmul (s : Scalar) (x : G) : s • x = s.val • x := by
  rw [← Nat.cast_smul_eq_nsmul Scalar, Fin.cast_val_eq_self]

theorem groupOrder_nsmul (x : G) : groupOrder • x = 0 := by
  rw [← Nat.cast_smul_eq_nsmul Scalar, Fin.natCast_self, zero_smul]

theorem smul_eq_zero_iff (s : Scalar) (x : G) : s • x = 0 ↔ s = 0 ∨ x = 0 := by
  constructor
  next =>
    intro vanishes
    by_cases zero : s = 0
    next => exact .inl zero
    next =>
      right
      rw [smul_eq_nsmul] at vanishes
      have common := gcd_nsmul_eq_zero.mpr ⟨vanishes, groupOrder_nsmul x⟩
      rwa [Scalar.coprime_groupOrder s zero, one_nsmul] at common
  next =>
    rintro (rfl | rfl)
    next => exact zero_smul Scalar x
    next => exact smul_zero s

structure Generates (generator : G) : Prop where
  ne_zero : generator ≠ 0
  multiple (x : G) : ∃ r : Scalar, x = r • generator

theorem Generates.logarithm {generator : G} (generates : Generates generator) (x : G) :
    ∃! r : Scalar, x = r • generator := by
  obtain ⟨r, multiple⟩ := generates.multiple x
  refine ⟨r, multiple, ?_⟩
  intro other same
  have difference : (other - r) • generator = 0 := by
    rw [sub_smul, ← same, ← multiple, sub_self]
  have vanishes := (smul_eq_zero_iff (other - r) generator).mp difference
  exact sub_eq_zero.mp (vanishes.resolve_right generates.ne_zero)

end ElementGroup

variable {S : PairingGroups} [Bilinear S]

namespace TargetGroup

scoped instance : CommMonoid S.Target where
  mul_assoc := Bilinear.mul_assoc
  mul_comm := Bilinear.mul_comm
  one_mul := Bilinear.one_mul
  mul_one a := (Bilinear.mul_comm a 1).trans (Bilinear.one_mul a)

end TargetGroup

open scoped TargetGroup

namespace PairingGroups

theorem pair_nsmul (n : ℕ) (p : S.First) (q : S.Second) : S.pair (n • p) q = S.pair p q ^ n := by
  induction n with
  | zero => rw [zero_nsmul, pow_zero, Bilinear.pair_zero]
  | succ n ih => rw [succ_nsmul, pow_succ, Bilinear.pair_add, ih]

theorem pair_smul_eq_pow (s : Scalar) (p : S.First) (q : S.Second) :
    S.pair (s • p) q = S.pair p q ^ s.val := by
  rw [ElementGroup.smul_eq_nsmul, pair_nsmul]

theorem pairings_pow_groupOrder (pairs : List (S.First × S.Second)) :
    S.pairings pairs ^ groupOrder = 1 := by
  induction pairs with
  | nil => rw [Bilinear.pairings_nil, one_pow]
  | cons pair rest ih =>
    rw [Bilinear.pairings_cons, mul_pow, ih, ← pair_nsmul, ElementGroup.groupOrder_nsmul,
      Bilinear.pair_zero, mul_one]

theorem pairings_pow_eq_one_iff (pairs : List (S.First × S.Second)) (s : Scalar) :
    S.pairings pairs ^ s.val = 1 ↔ s = 0 ∨ S.pairings pairs = 1 := by
  constructor
  next =>
    intro power
    by_cases zero : s = 0
    next => exact .inl zero
    next =>
      right
      have common := pow_gcd_eq_one.mpr ⟨power, pairings_pow_groupOrder pairs⟩
      rwa [Scalar.coprime_groupOrder s zero, pow_one] at common
  next =>
    rintro (rfl | one)
    next => exact pow_zero _
    next => rw [one, one_pow]

end PairingGroups

theorem Exponents.generates (h : List Scalar) : ElementGroup.Generates (Exponents.params h).gHead where
  ne_zero := by
    change (1 : Scalar) ≠ 0
    decide
  multiple x := ⟨x, (mul_one (M := Scalar) x).symm⟩

theorem Exponents.isUnit (x : exponents.Target) : IsUnit x :=
  IsUnit.of_mul_eq_one _ (add_neg_cancel (G := Scalar) x)

end IdentityHierarchy
