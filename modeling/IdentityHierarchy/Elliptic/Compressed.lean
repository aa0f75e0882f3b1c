import IdentityHierarchy.Elliptic.Point
import IdentityHierarchy.Field.Quadratic

set_option autoImplicit false

namespace IdentityHierarchy

/-- A field whose elements have encodings that leave the three highest bits free. -/
class CoordinateField (F : Type) extends Arithmetic F where
  width : Nat
  toBytes : F → Bytes
  ofBytes? : Bytes → Option F
  sqrt? : F → Option F
  isUpper : F → Bool

instance : CoordinateField Fp where
  width := 48
  toBytes := Fp.toBytes
  ofBytes? := Fp.ofBytes?
  sqrt? := Fp.sqrt?
  isUpper := Fp.isUpper

instance : CoordinateField Fp2 where
  width := 96
  toBytes a := a.c1.toBytes ++ a.c0.toBytes
  ofBytes? bytes := do
    let c1 ← Fp.ofBytes? (bytes.take 48)
    let c0 ← Fp.ofBytes? (bytes.drop 48)
    return ⟨c0, c1⟩
  sqrt? := Fp2.sqrt?
  isUpper := Fp2.isUpper

namespace Point

open CoordinateField

variable {F : Type} [CoordinateField F]

def OnCurve (b : F) : Point F → Prop
  | .infinity => True
  | .affine x y => y * y = x * x * x + b

instance (b : F) (p : Point F) : Decidable (p.OnCurve b) := by
  cases p <;> unfold OnCurve <;> infer_instance

def setFlags (flags : UInt8) : Bytes → Bytes
  | [] => []
  | byte :: rest => (byte ||| flags) :: rest

def compress : Point F → Bytes
  | .infinity => setFlags 0xc0 (List.replicate (width F) 0)
  | .affine x y => setFlags (if isUpper y then 0xa0 else 0x80) (toBytes x)

def lift? (b x : F) (upper : Bool) : Option (Point F) := do
  let root ← sqrt? (x * x * x + b)
  let y := if isUpper root = upper then root else -root
  return .affine x y

def decompress? (b : F) : Bytes → Option (Point F)
  | [] => none
  | flags :: rest =>
    if rest.length + 1 ≠ width F ∨ flags &&& 0x80 = 0 then none
    else do
      let x ← ofBytes? ((flags &&& 0x1f) :: rest)
      let upper : Bool := decide (flags &&& 0x20 ≠ 0)
      if flags &&& 0x40 = 0 then lift? b x upper
      else if x = 0 ∧ upper = false then some .infinity
      else none

end Point

end IdentityHierarchy
