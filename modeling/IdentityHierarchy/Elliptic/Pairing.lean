import IdentityHierarchy.Elliptic.Point
import IdentityHierarchy.Field.Dodecic

/-!
The optimal ate pairing on BLS12-381, with the exponent `3 (q¹² - 1) / p`.
-/

set_option autoImplicit false

namespace IdentityHierarchy.Pairing

/-- The absolute value of the parameter of the curve family. The parameter itself is negative. -/
def parameter : Nat := 0xd201000000010000

def tangent (px py : Fp) (t : Jacobian Fp2) : Fp12 :=
  -- The tangent of the twist at `t`, evaluated at the point `(px, py)` of the first curve. It is
  -- scaled by `w³` and a factor of the quadratic field, which the final exponentiation sends to
  -- one.
  let xx := t.x * t.x
  let yy := t.y * t.y
  let zz := t.z * t.z
  let e := xx + xx + xx
  ⟨⟨e * t.x - (yy + yy), -((e * zz).scale px), 0⟩, ⟨0, (t.double.z * zz).scale py, 0⟩⟩

def chord (px py : Fp) (qx qy : Fp2) (t : Jacobian Fp2) : Fp12 :=
  -- The chord of the twist through `t` and `(qx, qy)`, scaled likewise.
  let zz := t.z * t.z
  let run := (qx * zz - t.x) * t.z
  let rise := qy * (zz * t.z) - t.y
  ⟨⟨rise * qx - run * qy, -(rise.scale px), 0⟩, ⟨0, run.scale py, 0⟩⟩

structure MillerState where
  value : Fp12
  point : Jacobian Fp2

def MillerState.step (px py : Fp) (qx qy : Fp2) (state : MillerState) (digit : Bool) :
    MillerState :=
  let value := state.value.square * tangent px py state.point
  let point := state.point.double
  if digit then ⟨value * chord px py qx qy point, point.addAffine qx qy⟩ else ⟨value, point⟩

def miller : Point Fp → Point Fp2 → Fp12
  | .affine px py, .affine qx qy =>
    ((binaryDigits parameter).tail.foldl (MillerState.step px py qx qy)
      ⟨1, ⟨qx, qy, 1⟩⟩).value.conjugate
  | _, _ => 1

def powParameter (a : Fp12) : Fp12 :=
  -- The power with the parameter as exponent, of elements whose inverse is the conjugate.
  ((binaryDigits parameter).tail.foldl
    (fun result digit => if digit then result.square * a else result.square) a).conjugate

def finalExponentiation (f : Fp12) : Fp12 :=
  -- With parameter `z`, the exponent is `(q⁶ - 1) (q² + 1) ((z - 1)² (z + q) (z² + q² - 1) + 3)`.
  let f6 := f.conjugate * f⁻¹
  let f2 := f6.frobenius.frobenius * f6
  let a := powParameter f2 * f2.conjugate
  let b := powParameter a * a.conjugate
  let c := powParameter b * b.frobenius
  let d := powParameter (powParameter c) * c.frobenius.frobenius * c.conjugate
  d * (f2.square * f2)

def product (pairs : List (Point Fp × Point Fp2)) : Fp12 :=
  finalExponentiation (pairs.foldl (fun f pair => f * miller pair.1 pair.2) 1)

end IdentityHierarchy.Pairing
