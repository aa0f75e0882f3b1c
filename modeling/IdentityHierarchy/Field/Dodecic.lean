import IdentityHierarchy.Field.Sextic

set_option autoImplicit false

namespace IdentityHierarchy

/-- The element `c0 + c1 w`, where `w² = v`. -/
structure Fp12 where
  c0 : Fp6
  c1 : Fp6
  deriving DecidableEq

namespace Fp12

def mul (a b : Fp12) : Fp12 :=
  let p0 := a.c0 * b.c0
  let p1 := a.c1 * b.c1
  { c0 := p0 + p1.mulNonresidue
    c1 := (a.c0 + a.c1) * (b.c0 + b.c1) - p0 - p1 }

def square (a : Fp12) : Fp12 :=
  let cross := a.c0 * a.c1
  { c0 := (a.c0 + a.c1) * (a.c0 + a.c1.mulNonresidue) - cross - cross.mulNonresidue
    c1 := cross + cross }

def conjugate (a : Fp12) : Fp12 :=
  ⟨a.c0, -a.c1⟩

def inverse (a : Fp12) : Fp12 :=
  let norm := (a.c0 * a.c0 - (a.c1 * a.c1).mulNonresidue)⁻¹
  ⟨a.c0 * norm, -(a.c1 * norm)⟩

instance : Zero Fp12 := ⟨⟨0, 0⟩⟩
instance : One Fp12 := ⟨⟨1, 0⟩⟩
instance : Mul Fp12 := ⟨mul⟩
instance : Inv Fp12 := ⟨inverse⟩

def coordinates (a : Fp12) : List Fp :=
  [a.c0, a.c1].flatMap fun half =>
    [half.c0, half.c1, half.c2].flatMap fun c => [c.c0, c.c1]

def ofCoordinates? : List Fp → Option Fp12
  | [a0, a1, a2, a3, a4, a5, b0, b1, b2, b3, b4, b5] =>
    some ⟨⟨⟨a0, a1⟩, ⟨a2, a3⟩, ⟨a4, a5⟩⟩, ⟨⟨b0, b1⟩, ⟨b2, b3⟩, ⟨b4, b5⟩⟩⟩
  | _ => none

def frobeniusFactor (i : Nat) : Fp2 :=
  -- `(u + 1) ^ (i (q - 1) / 6)`, the factor that the `q`-th power puts on `w ^ i`.
  power ⟨1, 1⟩ (i * ((Fp.modulus - 1) / 6))

def frobeniusFactors : Fp2 × Fp2 × Fp2 × Fp2 × Fp2 :=
  (frobeniusFactor 1, frobeniusFactor 2, frobeniusFactor 3, frobeniusFactor 4, frobeniusFactor 5)

def frobenius (a : Fp12) : Fp12 :=
  let (f1, f2, f3, f4, f5) := frobeniusFactors
  { c0 := ⟨a.c0.c0.conjugate, a.c0.c1.conjugate * f2, a.c0.c2.conjugate * f4⟩
    c1 := ⟨a.c1.c0.conjugate * f1, a.c1.c1.conjugate * f3, a.c1.c2.conjugate * f5⟩ }

end Fp12

end IdentityHierarchy
