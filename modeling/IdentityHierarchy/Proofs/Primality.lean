import Mathlib
import IdentityHierarchy.Field.Prime
import IdentityHierarchy.Scalar

/-!
The order of the groups and the modulus of the field are prime. A number is prime if some residue
generates as many units as there are smaller numbers. The maximal divisors of their count are known
from its prime factors, which are smaller numbers of the same kind.
-/

set_option autoImplicit false

namespace IdentityHierarchy

theorem foldl_binaryDigits {M : Type} [Monoid M] (a : M) (n k : Nat) :
    ((List.range k).reverse.map n.testBit).foldl
      (fun result digit => if digit then result * result * a else result * result) (a ^ (n >>> k)) =
      a ^ n := by
  induction k with
  | zero => rfl
  | succ k ih =>
    rw [List.range_succ, List.reverse_append, List.reverse_singleton, List.singleton_append,
      List.map_cons, List.foldl_cons]
    have digit : (if n.testBit k then a ^ (n >>> (k + 1)) * a ^ (n >>> (k + 1)) * a
        else a ^ (n >>> (k + 1)) * a ^ (n >>> (k + 1))) = a ^ (n >>> k) := by
      have halves := Nat.div_add_mod (n >>> k) 2
      have shift : n >>> (k + 1) = n >>> k / 2 := by
        rw [Nat.shiftRight_add, Nat.shiftRight_one]
      rw [Nat.testBit_eq_decide_div_mod_eq, ← Nat.shiftRight_eq_div_pow, shift]
      split_ifs with odd
      next =>
        rw [← pow_add, ← pow_succ]
        congr 1
        simp only [decide_eq_true_eq] at odd
        omega
      next =>
        rw [← pow_add]
        congr 1
        simp only [decide_eq_true_eq] at odd
        omega
    rw [digit]
    exact ih

theorem map_power {F M : Type} [One F] [Mul F] [Monoid M] (f : F → M) (one : f 1 = 1)
    (mul : ∀ a b, f (a * b) = f a * f b) (a : F) (n : Nat) : f (power a n) = f a ^ n := by
  have along (digits : List Bool) (start : F) :
      f (digits.foldl (fun result digit =>
        if digit then result * result * a else result * result) start) =
      digits.foldl (fun result digit =>
        if digit then result * result * f a else result * result) (f start) := by
    induction digits generalizing start with
    | nil => rfl
    | cons digit rest ih =>
      rw [List.foldl_cons, List.foldl_cons, ih]
      cases digit <;> simp [mul]
  have exhausted : n >>> (n.log2 + 1) = 0 := by
    rw [Nat.shiftRight_eq_div_pow]
    exact Nat.div_eq_of_lt Nat.lt_log2_self
  have powers := foldl_binaryDigits (f a) n (n.log2 + 1)
  rw [exhausted, pow_zero] at powers
  rw [power, binaryDigits, along, one, powers]

structure Residue (modulus : Nat) where
  val : Nat
  deriving DecidableEq

namespace Residue

variable {modulus : Nat}

instance : One (Residue modulus) := ⟨⟨1⟩⟩
instance : Mul (Residue modulus) := ⟨fun a b => ⟨a.val * b.val % modulus⟩⟩

theorem cast_power (a : Residue modulus) (n : Nat) :
    ((power a n).val : ZMod modulus) = (a.val : ZMod modulus) ^ n := by
  apply map_power (fun a : Residue modulus => (a.val : ZMod modulus))
  next => exact Nat.cast_one
  next =>
    intro a b
    change ((a.val * b.val % modulus : Nat) : ZMod modulus) = _
    rw [ZMod.natCast_mod, Nat.cast_mul]

end Residue

structure PrimeStep where
  number : Nat
  residue : Nat
  factors : List (Nat × Nat)

namespace PrimeStep

def powerOf (step : PrimeStep) (exponent : Nat) : Nat :=
  (power (⟨step.residue⟩ : Residue step.number) exponent).val % step.number

def Valid (step : PrimeStep) (known : List Nat) : Prop :=
  1 < step.number ∧
    step.number - 1 = (step.factors.map fun factor => factor.1 ^ factor.2).prod ∧
    step.powerOf (step.number - 1) = 1 ∧
    ∀ factor ∈ step.factors, factor.1 ∈ known ∧ step.powerOf ((step.number - 1) / factor.1) ≠ 1

instance (step : PrimeStep) (known : List Nat) : Decidable (step.Valid known) := by
  unfold Valid
  infer_instance

theorem pow_eq_one_iff (step : PrimeStep) (large : 1 < step.number) (exponent : Nat) :
    (step.residue : ZMod step.number) ^ exponent = 1 ↔ step.powerOf exponent = 1 := by
  have value := Residue.cast_power (⟨step.residue⟩ : Residue step.number) exponent
  rw [← value, ← Nat.cast_one, ZMod.natCast_eq_natCast_iff', Nat.mod_eq_of_lt large, powerOf]

theorem prime (step : PrimeStep) (known : List Nat) (primes : ∀ n ∈ known, n.Prime)
    (valid : step.Valid known) : step.number.Prime := by
  obtain ⟨large, factored, unit, generates⟩ := valid
  apply lucas_primality step.number step.residue ((step.pow_eq_one_iff large _).mpr unit)
  intro q prime divides
  rw [factored] at divides
  obtain ⟨_, present, divides⟩ := (Prime.dvd_prod_iff prime.prime).mp divides
  obtain ⟨factor, member, rfl⟩ := List.mem_map.mp present
  obtain ⟨smaller, other⟩ := generates factor member
  have same : q = factor.1 :=
    (Nat.prime_dvd_prime_iff_eq prime (primes _ smaller)).mp (prime.dvd_of_dvd_pow divides)
  rw [same]
  exact fun one => other ((step.pow_eq_one_iff large _).mp one)

def Chain : List Nat → List PrimeStep → Prop
  | _, [] => True
  | known, step :: rest => step.Valid known ∧ Chain (step.number :: known) rest

def decideChain : (known : List Nat) → (steps : List PrimeStep) → Decidable (Chain known steps)
  | _, [] => .isTrue trivial
  | known, step :: rest =>
    have := decideChain (step.number :: known) rest
    inferInstanceAs (Decidable (step.Valid known ∧ Chain (step.number :: known) rest))

instance (known : List Nat) (steps : List PrimeStep) : Decidable (Chain known steps) :=
  decideChain known steps

theorem Chain.prime (known : List Nat) (steps : List PrimeStep) (chain : Chain known steps)
    (primes : ∀ n ∈ known, n.Prime) : ∀ n ∈ steps.map number, n.Prime := by
  induction steps generalizing known with
  | nil => exact fun n member => absurd member List.not_mem_nil
  | cons first rest ih =>
    obtain ⟨valid, chain⟩ := chain
    have prime := first.prime known primes valid
    exact List.forall_mem_cons.mpr
      ⟨prime, ih (first.number :: known) chain (List.forall_mem_cons.mpr ⟨prime, primes⟩)⟩

end PrimeStep

def smallPrimes : List Nat :=
  [2, 3, 5, 7, 11, 13, 17, 19, 23, 31, 43, 47, 53, 89, 113, 151, 409, 467, 941, 3373, 7577, 8101, 10177,
    16447, 43591, 125527, 421987, 582767, 609743, 755057, 859267, 906349, 1686913, 2508409, 2529403,
    2653753]

def largeSteps : List PrimeStep :=
  [⟨52437899, 2, [(2, 1), (43, 1), (609743, 1)]⟩,
    ⟨63690073, 7, [(2, 3), (3, 1), (2653753, 1)]⟩,
    ⟨254760293, 2, [(2, 2), (63690073, 1)]⟩,
    ⟨groupOrder, 7, [(2, 32), (3, 1), (11, 1), (19, 1), (10177, 1), (125527, 1), (859267, 1), (906349, 2),
      (2508409, 1), (2529403, 1), (52437899, 1), (254760293, 2)]⟩,
    ⟨9272813673901, 2, [(2, 2), (3, 1), (5, 2), (7, 1), (7577, 1), (582767, 1)]⟩,
    ⟨1928745244171409, 3, [(2, 4), (13, 1), (9272813673901, 1)]⟩,
    ⟨7259797099061183477, 2, [(2, 2), (941, 1), (1928745244171409, 1)]⟩,
    ⟨2584487767265781317813, 2, [(2, 2), (89, 1), (7259797099061183477, 1)]⟩,
    ⟨475709467, 2, [(2, 1), (3, 1), (47, 1), (1686913, 1)]⟩,
    ⟨927093389, 3, [(2, 2), (13, 1), (409, 1), (43591, 1)]⟩,
    ⟨64881703735777, 5, [(2, 5), (3, 7), (927093389, 1)]⟩,
    ⟨92691255082156974996979, 3, [(2, 1), (3, 1), (31, 1), (467, 1), (16447, 1), (64881703735777, 1)]⟩,
    ⟨51376543, 3, [(2, 1), (3, 1), (7, 1), (151, 1), (8101, 1)]⟩,
    ⟨43670061551, 7, [(2, 1), (5, 2), (17, 1), (51376543, 1)]⟩,
    ⟨13090036741, 10, [(2, 2), (3, 1), (5, 1), (11, 1), (47, 1), (421987, 1)]⟩,
    ⟨3819663927398918131021, 6,
      [(2, 2), (3, 2), (5, 1), (19, 1), (113, 1), (755057, 1), (13090036741, 1)]⟩,
    ⟨1125266252156850182658904441386709967, 5,
      [(2, 1), (3373, 1), (43670061551, 1), (3819663927398918131021, 1)]⟩,
    ⟨15778400344354997994418419698270088123916926905054652752758194827714659, 2,
      [(2, 1), (3, 1), (53, 1), (475709467, 1), (92691255082156974996979, 1),
        (1125266252156850182658904441386709967, 1)]⟩,
    ⟨Fp.modulus, 2, [(2, 1), (3, 2), (11, 1), (23, 1), (47, 1), (10177, 1), (859267, 1), (52437899, 1),
      (2584487767265781317813, 1),
      (15778400344354997994418419698270088123916926905054652752758194827714659, 1)]⟩]

theorem smallPrimes_prime : ∀ n ∈ smallPrimes, n.Prime := by
  norm_num [smallPrimes]

theorem largeSteps_prime : ∀ n ∈ largeSteps.map PrimeStep.number, n.Prime := by
  apply PrimeStep.Chain.prime smallPrimes largeSteps _ smallPrimes_prime
  decide +kernel

theorem groupOrder_prime : Nat.Prime groupOrder :=
  largeSteps_prime groupOrder (by decide)

theorem Fp.modulus_prime : Nat.Prime modulus :=
  largeSteps_prime modulus (by decide)

end IdentityHierarchy
