import IdentityHierarchy.Bytes.Lemmas
import IdentityHierarchy.Proofs.SquareRoots

set_option autoImplicit false

namespace IdentityHierarchy

def coordinateLimit : Nat := 32 * 256 ^ 47

def compressedNumber : Option (Nat × Bool) → Nat
  | none => (4 + 2) * coordinateLimit
  | some (x, upper) => (4 + upper.toNat) * coordinateLimit + x

def compressedForm (coordinates : Option (Nat × Bool)) : Bytes :=
  Bytes.ofNatBE 48 (compressedNumber coordinates)

def Reduced (coordinates : Option (Nat × Bool)) : Prop :=
  ∀ x upper, coordinates = some (x, upper) → x < coordinateLimit

theorem compressedNumber_parts {coordinates : Option (Nat × Bool)} (reduced : Reduced coordinates) :
    compressedNumber coordinates / coordinateLimit =
        (coordinates.elim 6 fun given => 4 + given.2.toNat) ∧
      compressedNumber coordinates % coordinateLimit = coordinates.elim 0 Prod.fst := by
  have positive : 0 < coordinateLimit := by decide
  rw [Nat.div_mod_unique positive]
  cases coordinates with
  | none =>
    refine ⟨?_, positive⟩
    rw [compressedNumber, Option.elim_none, Option.elim_none, Nat.zero_add, Nat.mul_comm]
  | some given =>
    refine ⟨?_, reduced given.1 given.2 rfl⟩
    rw [compressedNumber, Option.elim_some, Option.elim_some, Nat.add_comm, Nat.mul_comm]

theorem compressedNumber_lt {coordinates : Option (Nat × Bool)} (reduced : Reduced coordinates) :
    compressedNumber coordinates < 256 ^ 48 := by
  have quotient := (compressedNumber_parts reduced).1
  have limit : 256 ^ 48 = coordinateLimit * 8 := by decide
  rw [limit, Nat.mul_comm, ← Nat.div_lt_iff_lt_mul (by decide), quotient]
  rcases coordinates with _ | ⟨x, _ | _⟩ <;> simp

theorem compressedForm_inj {a b : Option (Nat × Bool)} (left : Reduced a) (right : Reduced b)
    (same : compressedForm a = compressedForm b) : a = b := by
  have numbers : compressedNumber a = compressedNumber b := by
    have values := congrArg Bytes.toNatBE same
    rwa [compressedForm, compressedForm, Bytes.toNatBE_ofNatBE, Bytes.toNatBE_ofNatBE,
      Nat.mod_eq_of_lt (compressedNumber_lt left), Nat.mod_eq_of_lt (compressedNumber_lt right)] at values
  obtain ⟨flags, coordinate⟩ := compressedNumber_parts left
  rw [numbers, (compressedNumber_parts right).1] at flags
  rw [numbers, (compressedNumber_parts right).2] at coordinate
  rcases a with _ | ⟨x, _ | _⟩ <;> rcases b with _ | ⟨x', _ | _⟩ <;> cases flags
  next => rfl
  next => exact congrArg (fun x => some (x, false)) coordinate.symm
  next => exact congrArg (fun x => some (x, true)) coordinate.symm

/-- Points with coordinates below a modulus, each of which is read from its compressed form and from no
other string. -/
structure CompressedPoints {P : Type} (decode? : Bytes → Option P) where
  modulus : Nat
  modulus_le : modulus ≤ coordinateLimit
  coordinates : P → Option (Nat × Bool)
  reduced {point : P} {x : Nat} {upper : Bool} : coordinates point = some (x, upper) → x < modulus
  decode_iff (bytes : Bytes) (point : P) :
    decode? bytes = some point ↔ bytes = compressedForm (coordinates point)

namespace Fp

theorem modulus_le : modulus ≤ coordinateLimit := by decide

theorem toNatBE_toBytes (x : Fp) : Bytes.toNatBE x.toBytes = x.val := by
  rw [toBytes, Bytes.toNatBE_ofNatBE, Nat.mod_eq_of_lt]
  exact Nat.lt_of_lt_of_le x.isLt (by decide)

theorem ofBytes?_eq_some_iff (bytes : Bytes) (length : bytes.length = 48) (x : Fp) :
    ofBytes? bytes = some x ↔ bytes = x.toBytes := by
  unfold ofBytes?
  constructor
  next =>
    intro read
    split_ifs at read with below
    cases read
    rw [toBytes, ← length, Bytes.ofNatBE_toNatBE]
  next =>
    rintro rfl
    have below : Bytes.toNatBE x.toBytes < modulus := by
      rw [toNatBE_toBytes]
      exact x.isLt
    rw [dif_pos below]
    exact congrArg some (eq_of_val_eq x.toNatBE_toBytes)

theorem toBytes_eq_cons (x : Fp) :
    ∃ head rest, x.toBytes = head :: rest ∧ rest.length = 47 ∧ head.toNat < 32 := by
  have length : x.toBytes.length = 47 + 1 := Bytes.length_ofNatBE 48 x.val
  obtain ⟨head, rest, split⟩ := List.exists_cons_of_length_eq_add_one length
  rw [split, List.length_cons] at length
  have short : rest.length = 47 := Nat.succ_injective length
  have below := Nat.lt_of_lt_of_le x.isLt modulus_le
  rw [← x.toNatBE_toBytes, split, Bytes.toNatBE_cons, short, coordinateLimit] at below
  exact ⟨head, rest, split, short, by omega⟩

end Fp

namespace Point

theorem flags_finite : ∀ flags : UInt8, flags &&& 0x80 ≠ 0 → flags &&& 0x40 = 0 →
    (flags &&& 0x1f) ||| (if decide (flags &&& 0x20 ≠ 0) then 0xa0 else 0x80) = flags := by
  decide +kernel

theorem flags_infinite : ∀ flags : UInt8, flags &&& 0x80 ≠ 0 → flags &&& 0x40 ≠ 0 →
    flags &&& 0x20 = 0 → (flags &&& 0x1f) ||| 0xc0 = flags := by
  decide +kernel

theorem setFlags_finite : ∀ (byte : UInt8) (upper : Bool), byte.toNat < 32 →
    let flags := byte ||| (if upper then 0xa0 else 0x80)
    flags &&& 0x80 ≠ 0 ∧ flags &&& 0x40 = 0 ∧ flags &&& 0x1f = byte ∧
      decide (flags &&& 0x20 ≠ 0) = upper ∧
      flags.toNat = (4 + upper.toNat) * 32 + byte.toNat := by
  decide +kernel

def coordinates : Point Fp → Option (Nat × Bool)
  | infinity => none
  | affine x y => some (x.val, y.isUpper)

theorem compress_affine (x y : Fp) :
    compress (affine x y) = setFlags (if y.isUpper then 0xa0 else 0x80) x.toBytes := rfl

theorem compress_eq (p : Point Fp) : p.compress = compressedForm p.coordinates := by
  cases p with
  | infinity => decide +kernel
  | affine x y =>
    obtain ⟨head, rest, split, short, small⟩ := x.toBytes_eq_cons
    have value := x.toNatBE_toBytes
    rw [split, Bytes.toNatBE_cons, short] at value
    obtain ⟨-, -, -, -, flagged⟩ := setFlags_finite head y.isUpper small
    have length : (compress (affine x y)).length = 48 := by
      rw [compress_affine, split, setFlags, List.length_cons, short]
    have number : Bytes.toNatBE (compress (affine x y)) =
        (4 + y.isUpper.toNat) * coordinateLimit + x.val := by
      rw [compress_affine, split, setFlags, Bytes.toNatBE_cons, short, flagged, coordinateLimit, ← value]
      ring
    rw [← Bytes.ofNatBE_toNatBE (compress (affine x y)), length, number]
    rfl

end Point

namespace Bls12381

theorem lift?_eq_some_iff (x : Fp) (upper : Bool) (p : Point Fp) :
    Point.lift? firstCoefficient x upper = some p ↔
      ∃ y, p = .affine x y ∧ p.OnCurve firstCoefficient ∧ y.isUpper = upper := by
  have nonzero (y : Fp) (square : y * y = x * x * x + firstCoefficient) : y ≠ 0 := by
    rintro rfl
    exact cube_add_ne_zero x square.symm
  constructor
  next =>
    intro lifted
    obtain ⟨root, found, chosen⟩ := Option.bind_eq_some_iff.mp lifted
    change some (Point.affine x (if root.isUpper = upper then root else -root)) = some p at chosen
    have square := Fp.mul_self_of_sqrt? found
    split_ifs at chosen with same
    next =>
      cases chosen
      exact ⟨root, rfl, square, same⟩
    next =>
      cases chosen
      have opposite : (-root) * (-root) = root * root := (Fp.mul_self_eq_iff _ _).mpr (.inr rfl)
      refine ⟨-root, rfl, opposite.trans square, ?_⟩
      rw [Fp.isUpper_neg (nonzero root square)]
      exact Bool.not_eq.mpr same
  next =>
    rintro ⟨y, rfl, square, rfl⟩
    change y * y = _ at square
    obtain ⟨root, found, rfl | rfl⟩ := Fp.sqrt?_mul_self y
    next =>
      rw [square] at found
      refine Option.bind_eq_some_iff.mpr ⟨root, found, ?_⟩
      exact congrArg (fun y => some (Point.affine x y)) (if_pos rfl)
    next =>
      rw [square] at found
      refine Option.bind_eq_some_iff.mpr ⟨-y, found, ?_⟩
      have other : (-y).isUpper ≠ y.isUpper := by
        rw [Fp.isUpper_neg (nonzero y square)]
        exact Bool.not_ne_self _
      have twice : -(-y) = y := by
        apply Fp.residue_injective
        rw [Fp.residue_neg, Fp.residue_neg, neg_neg]
      exact congrArg (fun y => some (Point.affine x y)) ((if_neg other).trans twice)

theorem decompress?_cons (flags : UInt8) (rest : Bytes) (length : rest.length = 47)
    (compressed : flags &&& 0x80 ≠ 0) :
    Point.decompress? firstCoefficient (flags :: rest) =
      (Fp.ofBytes? ((flags &&& 0x1f) :: rest)).bind fun x =>
        if flags &&& 0x40 = 0 then Point.lift? firstCoefficient x (decide (flags &&& 0x20 ≠ 0))
        else if x = 0 ∧ decide (flags &&& 0x20 ≠ 0) = false then some .infinity
        else none := by
  have proceeds : ¬ (rest.length + 1 ≠ CoordinateField.width Fp ∨ flags &&& 0x80 = 0) := by
    rw [length]
    exact fun refused => refused.elim (fun other => other rfl) compressed
  exact if_neg proceeds

theorem decompress?_eq_some (bytes : Bytes) (p : Point Fp)
    (read : Point.decompress? firstCoefficient bytes = some p) : bytes = p.compress := by
  cases bytes with
  | nil => cases read
  | cons flags rest =>
    have proceeds : ¬ (rest.length + 1 ≠ CoordinateField.width Fp ∨ flags &&& 0x80 = 0) := by
      intro refused
      rw [Point.decompress?, if_pos refused] at read
      cases read
    obtain ⟨width, compressed⟩ := not_or.mp proceeds
    have length : rest.length = 47 := Nat.succ_injective (not_not.mp width)
    rw [decompress?_cons flags rest length compressed] at read
    obtain ⟨x, reduced, chosen⟩ := Option.bind_eq_some_iff.mp read
    have same := (Fp.ofBytes?_eq_some_iff _ (by rw [List.length_cons, length]) x).mp reduced
    split_ifs at chosen with finite zero
    next =>
      obtain ⟨y, rfl, -, upper⟩ := (lift?_eq_some_iff x _ p).mp chosen
      rw [Point.compress_affine, ← same, Point.setFlags, upper,
        Point.flags_finite flags compressed finite]
    next =>
      cases chosen
      obtain ⟨rfl, lower⟩ := zero
      have plain : flags &&& 0x20 = 0 := by simpa using lower
      rw [show Point.infinity.compress = Point.setFlags 0xc0 (Fp.toBytes 0) by decide +kernel,
        ← same, Point.setFlags, Point.flags_infinite flags compressed finite plain]

theorem decompress?_compress (p : Point Fp) (curve : p.OnCurve firstCoefficient) :
    Point.decompress? firstCoefficient p.compress = some p := by
  cases p with
  | infinity => decide +kernel
  | affine x y =>
    obtain ⟨head, rest, split, short, small⟩ := x.toBytes_eq_cons
    obtain ⟨compressed, finite, coordinate, upper, -⟩ := Point.setFlags_finite head y.isUpper small
    have reduced : Fp.ofBytes? x.toBytes = some x :=
      (Fp.ofBytes?_eq_some_iff _ (Bytes.length_ofNatBE 48 x.val) x).mpr rfl
    rw [Point.compress_affine, split, Point.setFlags, decompress?_cons _ rest short compressed,
      coordinate, ← split, reduced, Option.bind_some, if_pos finite, upper]
    exact (lift?_eq_some_iff x y.isUpper _).mpr ⟨y, rfl, curve, rfl⟩

theorem decodeCurvePoint?_eq_some_iff (bytes : Bytes) (point : CurvePoint) :
    decodeCurvePoint? bytes = some point ↔ bytes = point.val.compress := by
  constructor
  next =>
    intro read
    obtain ⟨p, found, checked⟩ := Option.bind_eq_some_iff.mp read
    split_ifs at checked with curve
    cases checked
    exact decompress?_eq_some bytes p found
  next =>
    rintro rfl
    refine Option.bind_eq_some_iff.mpr
      ⟨point.val, decompress?_compress point.val point.property, ?_⟩
    exact dif_pos point.property

def curvePoints : CompressedPoints decodeCurvePoint? where
  modulus := Fp.modulus
  modulus_le := Fp.modulus_le
  coordinates point := point.val.coordinates
  reduced {point x upper} given := by
    obtain ⟨_ | ⟨x, y⟩, _⟩ := point
    next => cases given
    next =>
      cases given
      exact x.isLt
  decode_iff bytes point := by
    rw [← Point.compress_eq]
    exact decodeCurvePoint?_eq_some_iff bytes point

end Bls12381

end IdentityHierarchy
