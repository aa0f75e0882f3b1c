import Mathlib
import IdentityHierarchy.Groups

set_option autoImplicit false

namespace IdentityHierarchy

open scoped Fin.CommRing

instance : NeZero groupOrder := ⟨by decide⟩

namespace ElementGroup

class Lawful (G : Type) [ElementGroup G] : Prop where
  add_assoc (x y z : G) : x + y + z = x + (y + z)
  add_comm (x y : G) : x + y = y + x
  zero_add (x : G) : 0 + x = x
  neg_add_cancel (x : G) : -x + x = 0
  one_smul (x : G) : (1 : Scalar) • x = x
  mul_smul (s t : Scalar) (x : G) : (s * t) • x = s • t • x
  smul_add (s : Scalar) (x y : G) : s • (x + y) = s • x + s • y
  add_smul (s t : Scalar) (x : G) : (s + t) • x = s • x + t • x

/-- The addition alone is that of a commutative group. -/
class Commutative (G : Type) [ElementGroup G] : Prop where
  add_assoc (x y z : G) : x + y + z = x + (y + z)
  add_comm (x y : G) : x + y = y + x
  zero_add (x : G) : 0 + x = x
  neg_add_cancel (x : G) : -x + x = 0

theorem Commutative.add_zero {G : Type} [ElementGroup G] [Commutative G] (x : G) : x + 0 = x :=
  (add_comm x 0).trans (zero_add x)

namespace Commutative

-- Under all the laws there is the group below, so this is for sums under the laws of addition alone.
scoped instance {G : Type} [ElementGroup G] [Commutative G] : AddCommMonoid G where
  add_assoc := add_assoc
  add_comm := add_comm
  zero_add := zero_add
  add_zero := add_zero
  nsmul := nsmulRec

end Commutative

variable {G : Type} [ElementGroup G] [Lawful G]

instance : Commutative G where
  add_assoc := Lawful.add_assoc
  add_comm := Lawful.add_comm
  zero_add := Lawful.zero_add
  neg_add_cancel := Lawful.neg_add_cancel

scoped instance : AddCommGroup G where
  add_assoc := Lawful.add_assoc
  add_comm := Lawful.add_comm
  zero_add := Lawful.zero_add
  add_zero x := (Lawful.add_comm x 0).trans (Lawful.zero_add x)
  neg_add_cancel := Lawful.neg_add_cancel
  nsmul := nsmulRec
  zsmul := zsmulRec

scoped instance : Module Scalar G where
  one_smul := Lawful.one_smul
  mul_smul := Lawful.mul_smul
  smul_add := Lawful.smul_add
  add_smul := Lawful.add_smul
  smul_zero s := by
    apply add_left_cancel (a := s • (0 : G))
    rw [← Lawful.smul_add, Lawful.zero_add, add_zero]
  zero_smul x := by
    apply add_left_cancel (a := (0 : Scalar) • x)
    rw [← Lawful.add_smul, zero_add, add_zero]

end ElementGroup

open scoped ElementGroup

namespace PairingGroups

class Bilinear (S : PairingGroups) : Prop where
  first : ElementGroup.Lawful S.First
  second : ElementGroup.Lawful S.Second
  mul_assoc (a b c : S.Target) : a * b * c = a * (b * c)
  mul_comm (a b : S.Target) : a * b = b * a
  one_mul (a : S.Target) : 1 * a = a
  pairings_nil : S.pairings [] = 1
  pairings_cons (p : S.First) (q : S.Second) (pairs : List (S.First × S.Second)) :
    S.pairings ((p, q) :: pairs) = S.pair p q * S.pairings pairs
  pair_zero (q : S.Second) : S.pair 0 q = 1
  pair_add (p p' : S.First) (q : S.Second) : S.pair (p + p') q = S.pair p q * S.pair p' q
  add_pair (p : S.First) (q q' : S.Second) : S.pair p (q + q') = S.pair p q * S.pair p q'
  pair_smul (s : Scalar) (p : S.First) (q : S.Second) : S.pair (s • p) q = S.pair p q ^ s
  smul_pair (s : Scalar) (p : S.First) (q : S.Second) : S.pair p (s • q) = S.pair p q ^ s

attribute [instance] Bilinear.first Bilinear.second

class Nondegenerate (S : PairingGroups) : Prop where
  pair_eq_one {p : S.First} {q : S.Second} : S.pair p q = 1 → p = 0 ∨ q = 0

class Encoded (S : PairingGroups) : Prop where
  length_first (p : S.First) : (S.encodeFirst p).length = firstWidth
  length_second (q : S.Second) : (S.encodeSecond q).length = secondWidth
  decode_first (p : S.First) : S.decodeFirst? (S.encodeFirst p) = some p
  decode_second (q : S.Second) : S.decodeSecond? (S.encodeSecond q) = some q

class Canonical (S : PairingGroups) : Prop where
  encode_first {bytes : Bytes} {p : S.First} :
    S.decodeFirst? bytes = some p → S.encodeFirst p = bytes
  encode_second {bytes : Bytes} {q : S.Second} :
    S.decodeSecond? bytes = some q → S.encodeSecond q = bytes

variable {S : PairingGroups} [Bilinear S]

theorem pair_smul_comm (s : Scalar) (p : S.First) (q : S.Second) :
    S.pair p (s • q) = S.pair (s • p) q := by
  rw [Bilinear.smul_pair, Bilinear.pair_smul]

theorem pair_zero_right (p : S.First) : S.pair p 0 = 1 := by
  rw [← zero_smul Scalar (0 : S.Second), pair_smul_comm, zero_smul, Bilinear.pair_zero]

theorem pairings_multiples (q : S.Second) (terms : List (Scalar × S.First)) :
    S.pairings (terms.map fun term => (term.2, term.1 • q)) =
      S.pair (terms.map fun term => term.1 • term.2).sum q := by
  induction terms with
  | nil => rw [List.map_nil, List.map_nil, List.sum_nil, Bilinear.pairings_nil, Bilinear.pair_zero]
  | cons term rest ih =>
    rw [List.map_cons, List.map_cons, List.sum_cons, Bilinear.pairings_cons, Bilinear.pair_add, ih,
      pair_smul_comm]

theorem pair_eq_one_iff [Nondegenerate S] (p : S.First) (q : S.Second) :
    S.pair p q = 1 ↔ p = 0 ∨ q = 0 := by
  constructor
  next => exact Nondegenerate.pair_eq_one
  next =>
    rintro (rfl | rfl)
    next => exact Bilinear.pair_zero q
    next => exact pair_zero_right p

end PairingGroups

end IdentityHierarchy
