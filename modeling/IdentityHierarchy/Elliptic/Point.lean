import IdentityHierarchy.Field.Arithmetic

set_option autoImplicit false

namespace IdentityHierarchy

inductive Point (F : Type) where
  | infinity
  | affine (x y : F)
  deriving DecidableEq

/-- The point `(x / z², y / z³)`, or the point at infinity if `z` is zero. -/
structure Jacobian (F : Type) where
  x : F
  y : F
  z : F

variable {F : Type} [Arithmetic F]

namespace Jacobian

def infinity : Jacobian F :=
  ⟨1, 1, 0⟩

@[specialize]
def double (p : Jacobian F) : Jacobian F :=
  let xx := p.x * p.x
  let yy := p.y * p.y
  let yyyy := yy * yy
  let d := p.x * yy
  let d4 := d + d + (d + d)
  let e := xx + xx + xx
  let x := e * e - (d4 + d4)
  let y4 := yyyy + yyyy + (yyyy + yyyy)
  let yz := p.y * p.z
  ⟨x, e * (d4 - x) - (y4 + y4), yz + yz⟩

@[specialize]
def addAffine (p : Jacobian F) (x y : F) : Jacobian F :=
  if p.z = 0 then ⟨x, y, 1⟩
  else
    let zz := p.z * p.z
    let h := x * zz - p.x
    let r := y * (zz * p.z) - p.y
    if h = 0 then
      if r = 0 then p.double else infinity
    else
      let hh := h * h
      let hhh := h * hh
      let v := p.x * hh
      let x3 := r * r - hhh - (v + v)
      ⟨x3, r * (v - x3) - p.y * hhh, p.z * h⟩

def toPoint (p : Jacobian F) : Point F :=
  if p.z = 0 then .infinity
  else
    let inverse := p.z⁻¹
    let square := inverse * inverse
    .affine (p.x * square) (p.y * (square * inverse))

end Jacobian

namespace Point

def neg : Point F → Point F
  | .infinity => .infinity
  | .affine x y => .affine x (-y)

def tangentSlope (x y : F) : F :=
  (x * x + x * x + x * x) * (y + y)⁻¹

def reflect (slope x1 y1 x2 : F) : Point F :=
  -- The third point of the line through `(x1, y1)`, mirrored, where the line meets the curve again
  -- at `x2`.
  let x := slope * slope - x1 - x2
  .affine x (slope * (x1 - x) - y1)

def add : Point F → Point F → Point F
  | .infinity, q => q
  | p, .infinity => p
  | .affine x1 y1, .affine x2 y2 =>
    if x1 = x2 then
      if y1 = y2 ∧ y1 ≠ 0 then reflect (tangentSlope x1 y1) x1 y1 x1 else .infinity
    else
      reflect ((y2 - y1) * (x2 - x1)⁻¹) x1 y1 x2

@[specialize]
def multiple (factor : Nat) : Point F → Point F
  | .infinity => .infinity
  | .affine x y =>
    ((binaryDigits factor).foldl
      (fun sum digit => if digit then sum.double.addAffine x y else sum.double)
      Jacobian.infinity).toPoint

end Point

end IdentityHierarchy
