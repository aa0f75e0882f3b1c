import IdentityHierarchy.Field.Arithmetic
import IdentityHierarchy.Bytes.Basic

set_option autoImplicit false

namespace IdentityHierarchy

def Fp.modulus : Nat :=
  0x1a0111ea397fe69a4b1ba7b6434bacd764774b84f38512bf6730d2a0f6b0f6241eabfffeb153ffffb9feffffffffaaab

structure Fp where
  val : Nat
  isLt : val < Fp.modulus
  deriving DecidableEq

namespace Fp

theorem modulus_pos : 0 < modulus := by decide

def ofNat (n : Nat) : Fp :=
  ⟨n % modulus, Nat.mod_lt n modulus_pos⟩

def add (a b : Fp) : Fp := ofNat (a.val + b.val)
def sub (a b : Fp) : Fp := ofNat (a.val + (modulus - b.val))
def neg (a : Fp) : Fp := ofNat (modulus - a.val)
def mul (a b : Fp) : Fp := ofNat (a.val * b.val)

instance : Zero Fp := ⟨ofNat 0⟩
instance : One Fp := ⟨ofNat 1⟩
instance : Add Fp := ⟨add⟩
instance : Sub Fp := ⟨sub⟩
instance : Neg Fp := ⟨neg⟩
instance : Mul Fp := ⟨mul⟩

def inverse (a : Fp) : Fp :=
  -- A power, by Fermat's little theorem. Zero is sent to zero.
  power a (modulus - 2)

instance : Inv Fp := ⟨inverse⟩

instance : Arithmetic Fp where
  decEq := inferInstance

def sqrt? (a : Fp) : Option Fp :=
  -- The modulus is 3 modulo 4, so a square has this power as one of its roots.
  let root := power a ((modulus + 1) / 4)
  if root * root = a then some root else none

def isUpper (a : Fp) : Bool :=
  decide (modulus < 2 * a.val)

def toBytes (a : Fp) : Bytes :=
  Bytes.ofNatBE 48 a.val

def ofBytes? (bytes : Bytes) : Option Fp :=
  if h : Bytes.toNatBE bytes < modulus then some ⟨Bytes.toNatBE bytes, h⟩ else none

end Fp

end IdentityHierarchy
