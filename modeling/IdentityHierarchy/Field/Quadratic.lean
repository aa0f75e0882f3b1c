import IdentityHierarchy.Field.Prime

set_option autoImplicit false

namespace IdentityHierarchy

/-- The element `c0 + c1 u`, where `u² = -1`. -/
structure Fp2 where
  c0 : Fp
  c1 : Fp
  deriving DecidableEq

namespace Fp2

def ofNats (a b : Nat) : Fp2 :=
  ⟨Fp.ofNat a, Fp.ofNat b⟩

def add (a b : Fp2) : Fp2 := ⟨a.c0 + b.c0, a.c1 + b.c1⟩
def sub (a b : Fp2) : Fp2 := ⟨a.c0 - b.c0, a.c1 - b.c1⟩
def neg (a : Fp2) : Fp2 := ⟨-a.c0, -a.c1⟩

def mul (a b : Fp2) : Fp2 :=
  -- Sums of products are reduced once. The subtracted product is below the squared modulus.
  let low := a.c0.val * b.c0.val
  let high := a.c1.val * b.c1.val
  let cross := a.c0.val * b.c1.val + a.c1.val * b.c0.val
  ⟨Fp.ofNat (low + (Fp.modulus * Fp.modulus - high)), Fp.ofNat cross⟩

instance : Zero Fp2 := ⟨⟨0, 0⟩⟩
instance : One Fp2 := ⟨⟨1, 0⟩⟩
instance : Add Fp2 := ⟨add⟩
instance : Sub Fp2 := ⟨sub⟩
instance : Neg Fp2 := ⟨neg⟩
instance : Mul Fp2 := ⟨mul⟩

def conjugate (a : Fp2) : Fp2 :=
  ⟨a.c0, -a.c1⟩

def scale (a : Fp2) (s : Fp) : Fp2 :=
  ⟨a.c0 * s, a.c1 * s⟩

def inverse (a : Fp2) : Fp2 :=
  a.conjugate.scale (a.c0 * a.c0 + a.c1 * a.c1)⁻¹

instance : Inv Fp2 := ⟨inverse⟩

instance : Arithmetic Fp2 where
  decEq := inferInstance

def mulNonresidue (a : Fp2) : Fp2 :=
  ⟨a.c0 - a.c1, a.c0 + a.c1⟩

def sqrt? (a : Fp2) : Option Fp2 :=
  -- For a square `a` and `b = a ^ ((q - 3) / 4)`, the element `b² a` has norm one. A root of its
  -- inverse, times `b a`, is a root of `a`.
  let b := power a ((Fp.modulus - 3) / 4)
  let unit := b * b * a
  let half := b * a
  let root :=
    if unit = -1 then ⟨-half.c1, half.c0⟩
    else power (unit + 1) ((Fp.modulus - 1) / 2) * half
  if root * root = a then some root else none

def isUpper (a : Fp2) : Bool :=
  a.c1.isUpper || (decide (a.c1 = 0) && a.c0.isUpper)

end Fp2

end IdentityHierarchy
