import IdentityHierarchy.Proofs.Levels

set_option autoImplicit false

namespace IdentityHierarchy

namespace Bytes

structure FixedWidth {A : Type} (encode : A → Bytes) (width : Nat) : Prop where
  length (value : A) : (encode value).length = width
  injective : Function.Injective encode

namespace FixedWidth

variable {A : Type} {encode : A → Bytes} {width : Nat} (fixed : FixedWidth encode width)
include fixed

theorem append_inj (a b : A) (rest back : Bytes) :
    encode a ++ rest = encode b ++ back ↔ a = b ∧ rest = back := by
  constructor
  next =>
    intro same
    obtain ⟨front, tail⟩ := List.append_inj same (by rw [fixed.length, fixed.length])
    exact ⟨fixed.injective front, tail⟩
  next =>
    rintro ⟨rfl, rfl⟩
    rfl

theorem flatMap_inj (positive : 0 < width) (values others : List A) :
    values.flatMap encode = others.flatMap encode ↔ values = others := by
  have nonempty (value : A) (rest : Bytes) : encode value ++ rest ≠ [] := by
    intro empty
    have length := congrArg List.length empty
    simp only [List.length_append, fixed.length, List.length_nil] at length
    omega
  induction values generalizing others with
  | nil => cases others <;> simp [eq_comm (a := []), nonempty]
  | cons value rest ih => cases others <;> simp [nonempty, fixed.append_inj, ih]

end FixedWidth

end Bytes

open Bytes

namespace PairingGroups

def targetWidth : Nat := 576

class Identified (S : PairingGroups) : Prop where
  first : FixedWidth S.encodeFirst firstWidth
  second : FixedWidth S.encodeSecond secondWidth
  target : FixedWidth S.encodeTarget targetWidth

end PairingGroups

open PairingGroups

variable {S : PairingGroups} [Identified S]

theorem PublicParams.bytes_eq_iff (params other : PublicParams S)
    (curve : params.curve = other.curve) : params.bytes = other.bytes ↔ params = other := by
  obtain ⟨_, g, gHead, g2, g3, h⟩ := params
  obtain ⟨_, g', gHead', g2', g3', h'⟩ := other
  cases curve
  simp only [bytes, List.append_assoc, Identified.first.append_inj, Identified.second.append_inj,
    Identified.first.flatMap_inj (by decide), PublicParams.mk.injEq]
  tauto

theorem PublicKey.bytes_eq_iff (key other : PublicKey S) :
    key.bytes = other.bytes ↔ key = other := by
  obtain ⟨point⟩ := key
  obtain ⟨point'⟩ := other
  simp [bytes, Identified.second.injective.eq_iff]

theorem MasterKey.bytes_eq_iff (key other : MasterKey S) :
    key.bytes = other.bytes ↔ key = other := by
  obtain ⟨point⟩ := key
  obtain ⟨point'⟩ := other
  simp [bytes, Identified.first.injective.eq_iff]

theorem Ciphertext.bytes_eq_iff (ciphertext other : Ciphertext S) :
    ciphertext.bytes = other.bytes ↔ ciphertext = other := by
  obtain ⟨c1, c2, c3⟩ := ciphertext
  obtain ⟨c1', c2', c3'⟩ := other
  simp only [bytes, List.append_assoc, Identified.first.append_inj, Identified.second.append_inj,
    Identified.target.injective.eq_iff, Ciphertext.mk.injEq]
  tauto

namespace DelegatedKey

variable (key other : DelegatedKey S)

theorem bytes_eq_iff : key.bytes = other.bytes ↔
    key.a0 = other.a0 ∧ key.a1 = other.a1 ∧ key.b = other.b := by
  simp only [bytes, List.append_assoc, Identified.first.append_inj, Identified.second.append_inj,
    Identified.first.flatMap_inj (by decide)]

theorem length_bytes : key.bytes.length = 144 + 48 * key.b.length := by
  simp only [bytes, List.length_append, Identified.first.length, Identified.second.length,
    length_flatMap Identified.first.length, firstWidth, secondWidth]
  omega

theorem depth_of_length (params : PublicParams S) (fits : key.Fits params) :
    key.bytes.length = 144 + 48 * (params.height - key.depth) ∧
      key.depth = params.height - (key.bytes.length - 144) / 48 := by
  unfold Fits at fits
  rw [length_bytes]
  omega

theorem bytes_eq_iff_of_fits (params others : PublicParams S) (height : params.height = others.height)
    (fits : key.Fits params) (fits' : other.Fits others) :
    key.bytes = other.bytes ↔ key = other := by
  constructor
  next =>
    intro same
    obtain ⟨-, depth⟩ := key.depth_of_length params fits
    obtain ⟨-, depth'⟩ := other.depth_of_length others fits'
    have level : key.depth = other.depth := by rw [depth, depth', same, height]
    obtain ⟨a0, a1, b⟩ := (key.bytes_eq_iff other).mp same
    rw [DelegatedKey.mk.injEq]
    exact ⟨a0, a1, b, level⟩
  next => exact congrArg bytes

end DelegatedKey

/-- Equal bytes belong to equal objects. Keys with the same bytes agree in all but the depth, and this
comes from the length of the bytes as soon as the keys fit parameters of one height. -/
theorem bytes_identify (S : PairingGroups) [Identified S] :
    (∀ params other : PublicParams S, params.curve = other.curve →
      (params.bytes = other.bytes ↔ params = other)) ∧
    (∀ key other : PublicKey S, key.bytes = other.bytes ↔ key = other) ∧
    (∀ key other : MasterKey S, key.bytes = other.bytes ↔ key = other) ∧
    (∀ ciphertext other : Ciphertext S, ciphertext.bytes = other.bytes ↔ ciphertext = other) ∧
    (∀ key other : DelegatedKey S, key.bytes = other.bytes ↔
      key.a0 = other.a0 ∧ key.a1 = other.a1 ∧ key.b = other.b) ∧
    ∀ params others : PublicParams S, params.height = others.height →
      ∀ key other : DelegatedKey S, key.Fits params → other.Fits others →
        (key.bytes = other.bytes ↔ key = other) ∧
        key.bytes.length = 144 + 48 * (params.height - key.depth) ∧
        key.depth = params.height - (key.bytes.length - 144) / 48 := by
  refine ⟨PublicParams.bytes_eq_iff, PublicKey.bytes_eq_iff, MasterKey.bytes_eq_iff,
    Ciphertext.bytes_eq_iff, DelegatedKey.bytes_eq_iff, ?_⟩
  intro params others height key other fits fits'
  exact ⟨key.bytes_eq_iff_of_fits other params others height fits fits',
    key.depth_of_length params fits⟩

namespace Exponents

theorem fixedWidth_ofNatBE (width : Nat) (wide : 32 ≤ width) :
    FixedWidth (fun s : Scalar => ofNatBE width s.val) width where
  length s := length_ofNatBE width s.val
  injective s t same := by
    have read := Scalar.ofWidth?_ofNatBE width wide s
    simp only at same
    rw [same, Scalar.ofWidth?_ofNatBE width wide t] at read
    exact (Option.some.inj read).symm

instance identified : Identified exponents where
  first := fixedWidth_ofNatBE firstWidth (by decide)
  second := fixedWidth_ofNatBE secondWidth (by decide)
  target := by
    simp only [exponents]
    exact fixedWidth_ofNatBE targetWidth (by decide)

end Exponents

theorem bytes_identify_levels :
    let params := Exponents.params [7, 11]
    let lower := Exponents.params [7]
    let key : DelegatedKey exponents := ⟨(5 : Scalar), (4 : Scalar), [(3 : Scalar)], 1⟩
    let other : DelegatedKey exponents := ⟨(5 : Scalar), (4 : Scalar), [(3 : Scalar), (0 : Scalar)], 0⟩
    params.bytes ≠ lower.bytes ∧ key.Fits params ∧ other.Fits params ∧ key.bytes ≠ other.bytes ∧
      key.depth = params.height - (key.bytes.length - 144) / 48 := by
  intro params lower key other
  have fits : key.Fits params := rfl
  have fits' : other.Fits params := rfl
  obtain ⟨shared, -, -, -, -, keys⟩ := bytes_identify exponents
  obtain ⟨same, -, depth⟩ := keys params params rfl key other fits fits'
  have heights : params.bytes ≠ lower.bytes := mt (shared params lower rfl).mp (by decide)
  have levels : key.bytes ≠ other.bytes := mt same.mp (by decide)
  exact ⟨heights, fits, fits', levels, depth⟩

end IdentityHierarchy
