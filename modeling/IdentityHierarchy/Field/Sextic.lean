import IdentityHierarchy.Field.Quadratic

set_option autoImplicit false

namespace IdentityHierarchy

/-- The element `c0 + c1 v + c2 v²`, where `v³ = u + 1`. -/
structure Fp6 where
  c0 : Fp2
  c1 : Fp2
  c2 : Fp2
  deriving DecidableEq

namespace Fp6

def add (a b : Fp6) : Fp6 := ⟨a.c0 + b.c0, a.c1 + b.c1, a.c2 + b.c2⟩
def sub (a b : Fp6) : Fp6 := ⟨a.c0 - b.c0, a.c1 - b.c1, a.c2 - b.c2⟩
def neg (a : Fp6) : Fp6 := ⟨-a.c0, -a.c1, -a.c2⟩

def mul (a b : Fp6) : Fp6 :=
  let p0 := a.c0 * b.c0
  let p1 := a.c1 * b.c1
  let p2 := a.c2 * b.c2
  { c0 := p0 + ((a.c1 + a.c2) * (b.c1 + b.c2) - p1 - p2).mulNonresidue
    c1 := (a.c0 + a.c1) * (b.c0 + b.c1) - p0 - p1 + p2.mulNonresidue
    c2 := (a.c0 + a.c2) * (b.c0 + b.c2) - p0 - p2 + p1 }

instance : Zero Fp6 := ⟨⟨0, 0, 0⟩⟩
instance : One Fp6 := ⟨⟨1, 0, 0⟩⟩
instance : Add Fp6 := ⟨add⟩
instance : Sub Fp6 := ⟨sub⟩
instance : Neg Fp6 := ⟨neg⟩
instance : Mul Fp6 := ⟨mul⟩

def mulNonresidue (a : Fp6) : Fp6 :=
  ⟨a.c2.mulNonresidue, a.c0, a.c1⟩

def scale (a : Fp6) (s : Fp2) : Fp6 :=
  ⟨a.c0 * s, a.c1 * s, a.c2 * s⟩

def inverse (a : Fp6) : Fp6 :=
  -- The cofactors `t0`, `t1`, `t2` multiply `a` to an element of the quadratic field.
  let t0 := a.c0 * a.c0 - (a.c1 * a.c2).mulNonresidue
  let t1 := (a.c2 * a.c2).mulNonresidue - a.c0 * a.c1
  let t2 := a.c1 * a.c1 - a.c0 * a.c2
  let norm := a.c0 * t0 + (a.c1 * t2 + a.c2 * t1).mulNonresidue
  (Fp6.mk t0 t1 t2).scale norm⁻¹

instance : Inv Fp6 := ⟨inverse⟩

end Fp6

end IdentityHierarchy
