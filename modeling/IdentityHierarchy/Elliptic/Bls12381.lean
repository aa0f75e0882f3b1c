import IdentityHierarchy.Elliptic.Compressed
import IdentityHierarchy.Elliptic.Pairing
import IdentityHierarchy.Groups

set_option autoImplicit false

namespace IdentityHierarchy

inductive Point.Generated {F : Type} [Arithmetic F] (Given : Point F → Prop) : Point F → Prop where
  | given {p : Point F} : Given p → Generated Given p
  | infinity : Generated Given .infinity
  | neg {p : Point F} : Generated Given p → Generated Given p.neg
  | add {p q : Point F} : Generated Given p → Generated Given q → Generated Given (p.add q)
  | multiple {p : Point F} (factor : Nat) :
      Generated Given p → Generated Given (p.multiple factor)

namespace Bls12381

open Point (Generated)

def Torsion {F : Type} [CoordinateField F] (b : F) (p : Point F) : Prop :=
  p.OnCurve b ∧ p.multiple groupOrder = .infinity

instance {F : Type} [CoordinateField F] (b : F) (p : Point F) : Decidable (Torsion b p) := by
  unfold Torsion
  infer_instance

def firstCoefficient : Fp := Fp.ofNat 4

def firstGenerator : Point Fp :=
  .affine
    (Fp.ofNat 0x17f1d3a73197d7942695638c4fa9ac0fc3688c4f9774b905a14e3a3f171bac586c55e83ff97a1aeffb3af00adb22c6bb)
    (Fp.ofNat 0x08b3f481e3aaa0f1a09e30ed741d8ae4fcf5e095d5d00af600db18cb2c04b3edd03cc744a2888ae40caa232946c5e7e1)

abbrev CurvePoint :=
  { p : Point Fp // p.OnCurve firstCoefficient }

def cofactorImage (p : Point Fp) : Point Fp :=
  -- Multiplies by `1 - z`, where `z` is the negative parameter of the curve family.
  p.add (p.multiple Pairing.parameter)

inductive FirstSource : Point Fp → Prop where
  | generator : FirstSource firstGenerator
  | checked {p : Point Fp} : Torsion firstCoefficient p → FirstSource p
  | cleared (p : CurvePoint) : FirstSource (cofactorImage p.val)

abbrev First :=
  { p : Point Fp // Generated FirstSource p }

def secondCoefficient : Fp2 := Fp2.ofNats 4 4

def secondGenerator : Point Fp2 :=
  .affine
    (Fp2.ofNats
      0x024aa2b2f08f0a91260805272dc51051c6e47ad4fa403b02b4510b647ae3d1770bac0326a805bbefd48056c8c121bdb8
      0x13e02b6052719f607dacd3a088274f65596bd0d09920b61ab5da61bbdc7f5049334cf11213945d57e5ac7d055d042b7e)
    (Fp2.ofNats
      0x0ce5d527727d6e118cc9cdc6da2e351aadfd9baa8cbdd3a76d429a695160d12c923ac9cc3baca289e193548608b82801
      0x0606c4a02ea734cc32acd2b02bc28b99cb3e287e85a763af267492ab572e99ab3f370d275cec1da1aaa9075ff05f79be)

inductive SecondSource : Point Fp2 → Prop where
  | generator : SecondSource secondGenerator
  | checked {p : Point Fp2} : Torsion secondCoefficient p → SecondSource p

abbrev Second :=
  { p : Point Fp2 // Generated SecondSource p }

instance {F : Type} [Arithmetic F] (Given : Point F → Prop) :
    ElementGroup { p : Point F // Generated Given p } where
  zero := ⟨.infinity, .infinity⟩
  add p q := ⟨p.val.add q.val, .add p.property q.property⟩
  neg p := ⟨p.val.neg, .neg p.property⟩
  smul s p := ⟨p.val.multiple s.val, .multiple s.val p.property⟩
  decEq := inferInstance

instance : TargetGroup Fp12 where
  pow a s := power a s.val
  decEq := inferInstance

def decodeFirst? (bytes : Bytes) : Option First := do
  let p ← Point.decompress? firstCoefficient bytes
  if h : Torsion firstCoefficient p then some ⟨p, .given (.checked h)⟩ else none

def decodeSecond? (bytes : Bytes) : Option Second := do
  let p ← Point.decompress? secondCoefficient bytes
  if h : Torsion secondCoefficient p then some ⟨p, .given (.checked h)⟩ else none

def decodeCurvePoint? (bytes : Bytes) : Option CurvePoint := do
  let p ← Point.decompress? firstCoefficient bytes
  if h : p.OnCurve firstCoefficient then some ⟨p, h⟩ else none

def clearCofactor (p : CurvePoint) : First :=
  ⟨cofactorImage p.val, .given (.cleared p)⟩

def pairings (pairs : List (First × Second)) : Fp12 :=
  Pairing.product (pairs.map fun pair => (pair.1.val, pair.2.val))

def encodeTarget (a : Fp12) : Bytes :=
  a.coordinates.flatMap Fp.toBytes

def decodeTarget? (bytes : Bytes) : Option Fp12 :=
  if bytes.length = 576 then
    ((Bytes.chunks 48 12 bytes).mapM Fp.ofBytes?).bind Fp12.ofCoordinates?
  else none

def wideCoordinate (bytes : Bytes) : Fp :=
  -- A coordinate drawn at random is twelve words of eight bytes, lowest word first and in each word
  -- the highest byte first. The number is reduced.
  Fp.ofNat (Bytes.toNatLE ((Bytes.chunks 8 12 bytes).flatMap List.reverse))

def targetOfBlock? (block : Bytes) : Option Fp12 := do
  let coordinates := (Bytes.chunks 96 12 block).map wideCoordinate
  let value ← Fp12.ofCoordinates? coordinates
  if value = 0 then none else some (Pairing.finalExponentiation value)

end Bls12381

def bls12381 : PairingGroups where
  First := Bls12381.First
  Second := Bls12381.Second
  Target := Fp12
  firstGenerator := ⟨Bls12381.firstGenerator, .given .generator⟩
  secondGenerator := ⟨Bls12381.secondGenerator, .given .generator⟩
  pairings := Bls12381.pairings
  encodeFirst p := p.val.compress
  decodeFirst? := Bls12381.decodeFirst?
  encodeSecond q := q.val.compress
  decodeSecond? := Bls12381.decodeSecond?
  encodeTarget := Bls12381.encodeTarget
  CurvePoint := Bls12381.CurvePoint
  decodeCurvePoint? := Bls12381.decodeCurvePoint?
  clearCofactor := Bls12381.clearCofactor
  targetOfBlock? := Bls12381.targetOfBlock?

end IdentityHierarchy
