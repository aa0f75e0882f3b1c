import IdentityHierarchy.Scalar

set_option autoImplicit false

namespace IdentityHierarchy

class ElementGroup (G : Type) extends Zero G, Add G, Neg G, SMul Scalar G where
  decEq : DecidableEq G

instance {G : Type} [ElementGroup G] : DecidableEq G := ElementGroup.decEq

/-- `x₁ h₁ + x₂ h₂ + …`, for as many terms as both lists have. -/
def weightedSum {G : Type} [ElementGroup G] (exponents : List Scalar) (elements : List G) : G :=
  (List.zipWith (fun x h => x • h) exponents elements).sum

class TargetGroup (T : Type) extends One T, Mul T, Pow T Scalar where
  decEq : DecidableEq T

instance {T : Type} [TargetGroup T] : DecidableEq T := TargetGroup.decEq

structure PairingGroups where
  First : Type
  Second : Type
  Target : Type
  [firstGroup : ElementGroup First]
  [secondGroup : ElementGroup Second]
  [targetGroup : TargetGroup Target]
  firstGenerator : First
  secondGenerator : Second
  pairings : List (First × Second) → Target
  encodeFirst : First → Bytes
  decodeFirst? : Bytes → Option First
  encodeSecond : Second → Bytes
  decodeSecond? : Bytes → Option Second
  encodeTarget : Target → Bytes
  CurvePoint : Type
  decodeCurvePoint? : Bytes → Option CurvePoint
  clearCofactor : CurvePoint → First
  targetOfBlock? : Bytes → Option Target

namespace PairingGroups

attribute [instance] firstGroup secondGroup targetGroup

def firstWidth : Nat := 48
def secondWidth : Nat := 96
def targetBlockWidth : Nat := 1152

def pair (S : PairingGroups) (p : S.First) (q : S.Second) : S.Target :=
  S.pairings [(p, q)]

end PairingGroups

end IdentityHierarchy
