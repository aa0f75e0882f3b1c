import IdentityHierarchy.Bytes.Lemmas
import IdentityHierarchy.Keys.Basic
import IdentityHierarchy.Proofs.Laws
import IdentityHierarchy.Proofs.Primality

/-!
The groups as seen through discrete logarithms: an element is its exponent, and the pairing
multiplies exponents. All the laws hold of them.
-/

set_option autoImplicit false

namespace IdentityHierarchy

open scoped Fin.CommRing

theorem Scalar.eq_zero_of_mul (s t : Scalar) (product : s * t = 0) : s = 0 ∨ t = 0 := by
  have divides : groupOrder ∣ s.val * t.val := by
    apply Nat.dvd_of_mod_eq_zero
    rw [← Fin.val_mul, product]
    rfl
  have vanishes (x : Scalar) (h : groupOrder ∣ x.val) : x = 0 :=
    Fin.ext (Nat.eq_zero_of_dvd_of_lt h x.isLt)
  rcases groupOrder_prime.dvd_mul.mp divides with left | right
  next => exact .inl (vanishes s left)
  next => exact .inr (vanishes t right)

namespace Scalar

def ofWidth? (width : Nat) (bytes : Bytes) : Option Scalar :=
  if bytes.length = width then ofBytes? bytes else none

theorem ofWidth?_ofNatBE (width : Nat) (wide : 32 ≤ width) (s : Scalar) :
    ofWidth? width (Bytes.ofNatBE width s.val) = some s := by
  have small : s.val < 256 ^ width :=
    calc s.val < groupOrder := s.isLt
      _ < 256 ^ 32 := by decide
      _ ≤ 256 ^ width := Nat.pow_le_pow_right (by decide) wide
  have value : Bytes.toNatBE (Bytes.ofNatBE width s.val) = s.val := by
    rw [Bytes.toNatBE_ofNatBE, Nat.mod_eq_of_lt small]
  simp [ofWidth?, ofBytes?, value]

theorem ofNatBE_of_ofWidth? {width : Nat} {bytes : Bytes} {s : Scalar}
    (read : ofWidth? width bytes = some s) : Bytes.ofNatBE width s.val = bytes := by
  unfold ofWidth? ofBytes? at read
  split_ifs at read with exact below
  cases read
  rw [← exact, Bytes.ofNatBE_toNatBE]

end Scalar

open PairingGroups

def exponents : PairingGroups where
  First := Scalar
  Second := Scalar
  Target := Scalar
  firstGroup := { zero := 0, add := (· + ·), neg := (- ·), smul := (· * ·), decEq := inferInstance }
  secondGroup := { zero := 0, add := (· + ·), neg := (- ·), smul := (· * ·), decEq := inferInstance }
  targetGroup := { one := 0, mul := (· + ·), pow := fun x s => s * x, decEq := inferInstance }
  firstGenerator := 1
  secondGenerator := 1
  pairings pairs := (pairs.map fun pair => pair.1 * pair.2).sum
  encodeFirst p := Bytes.ofNatBE firstWidth p.val
  decodeFirst? := Scalar.ofWidth? firstWidth
  encodeSecond q := Bytes.ofNatBE secondWidth q.val
  decodeSecond? := Scalar.ofWidth? secondWidth
  encodeTarget x := Bytes.ofNatBE 576 x.val
  CurvePoint := Scalar
  decodeCurvePoint? := Scalar.ofWidth? firstWidth
  clearCofactor := id
  targetOfBlock? := Scalar.ofWidth? targetBlockWidth

namespace Exponents

instance lawfulFirst : ElementGroup.Lawful exponents.First where
  add_assoc := add_assoc (G := Scalar)
  add_comm := add_comm (G := Scalar)
  zero_add := zero_add (M := Scalar)
  neg_add_cancel := neg_add_cancel (G := Scalar)
  one_smul := one_mul (M := Scalar)
  mul_smul := mul_assoc (G := Scalar)
  smul_add := mul_add (R := Scalar)
  add_smul := add_mul (R := Scalar)

instance lawfulSecond : ElementGroup.Lawful exponents.Second :=
  lawfulFirst

instance bilinear : Bilinear exponents where
  first := inferInstance
  second := inferInstance
  mul_assoc := add_assoc (G := Scalar)
  mul_comm := add_comm (G := Scalar)
  one_mul := zero_add (M := Scalar)
  pairings_nil := rfl
  pairings_cons := fun (p q : Scalar) (pairs : List (Scalar × Scalar)) => by
    change p * q + (pairs.map fun pair => pair.1 * pair.2).sum =
      p * q + 0 + (pairs.map fun pair => pair.1 * pair.2).sum
    rw [add_zero]
  pair_zero := fun (q : Scalar) => by
    change 0 * q + 0 = 0
    ring
  pair_add := fun (p p' q : Scalar) => by
    change (p + p') * q + 0 = p * q + 0 + (p' * q + 0)
    ring
  add_pair := fun (p q q' : Scalar) => by
    change p * (q + q') + 0 = p * q + 0 + (p * q' + 0)
    ring
  pair_smul := fun (s p q : Scalar) => by
    change s * p * q + 0 = s * (p * q + 0)
    ring
  smul_pair := fun (s p q : Scalar) => by
    change p * (s * q) + 0 = s * (p * q + 0)
    ring

instance nondegenerate : Nondegenerate exponents where
  pair_eq_one := fun {p q : Scalar} one => by
    change p * q + 0 = 0 at one
    exact Scalar.eq_zero_of_mul p q (by rwa [add_zero] at one)

instance encoded : Encoded exponents where
  length_first _ := Bytes.length_ofNatBE _ _
  length_second _ := Bytes.length_ofNatBE _ _
  decode_first p := by
    simp only [exponents]
    exact Scalar.ofWidth?_ofNatBE firstWidth (by decide) p
  decode_second q := by
    simp only [exponents]
    exact Scalar.ofWidth?_ofNatBE secondWidth (by decide) q

instance canonical : Canonical exponents where
  encode_first read := Scalar.ofNatBE_of_ofWidth? read
  encode_second read := Scalar.ofNatBE_of_ofWidth? read

def params (h : List Scalar) : PublicParams exponents :=
  { curve := .bls12381
    g := (1 : Scalar)
    gHead := (1 : Scalar)
    g2 := (3 : Scalar)
    g3 := (5 : Scalar)
    h := h }

end Exponents

end IdentityHierarchy
