import IdentityHierarchy.Proofs.LeastDigest
import IdentityHierarchy.Proofs.Levels
import IdentityHierarchy.Proofs.Trial

set_option autoImplicit false

namespace IdentityHierarchy

section Checked

def lowMask? (bits : Nat) : Option UInt8 := do
  let power ← if bits < 8 then some ((1 : UInt8) <<< UInt8.ofNat bits) else none
  if 1 ≤ power then some (power - 1) else none

def keepBits? (bits place : Nat) (byte : UInt8) : Option UInt8 :=
  let low := place * 8
  if bits ≤ low then some 0
  else do
    let width ← difference? bits low
    if width < 8 then (lowMask? width).map (byte &&& ·) else some byte

def Bytes.keepLow? (bits : Nat) (bytes : Bytes) : Option Bytes :=
  bytes.zipIdx.mapM fun entry => keepBits? bits entry.2 entry.1

def Bytes.bitLength? (bytes : Bytes) : Option Nat := do
  let leading := bytes.findIdx fun byte => byte ≠ 0
  match bytes[leading]? with
  | some byte =>
    let count ← difference? bytes.length leading
    difference? (count * 8) byte.toBitVec.clz.toNat
  | none => return 0

def exponentAttempt? (read? : Bytes → Option Scalar) (curve : Curve) (block : Bytes) :
    Option Scalar := do
  let bits ← Bytes.bitLength? curve.orderBytes
  let kept ← Bytes.keepLow? (bits - 1) block
  read? kept

end Checked

theorem lowMask?_eq (bits : Nat) (few : bits < 8) :
    ∃ mask, lowMask? bits = some mask ∧ mask.toNat = 2 ^ bits - 1 := by
  have power : ((1 : UInt8) <<< UInt8.ofNat bits).toNat = 2 ^ bits := by
    have bound : 2 ^ bits < 2 ^ 8 := Nat.pow_lt_pow_right (by decide) few
    -- A shift of a byte takes its distance modulo 8.
    have place : (UInt8.ofNat bits).toNat % 8 = bits := by
      rw [UInt8.toNat_ofNat']
      omega
    rw [UInt8.toNat_shiftLeft, place, UInt8.toNat_one, Nat.one_shiftLeft, Nat.mod_eq_of_lt bound]
  have positive : (1 : UInt8) ≤ 1 <<< UInt8.ofNat bits := by
    rw [UInt8.le_iff_toNat_le, power]
    exact Nat.one_le_two_pow
  refine ⟨1 <<< UInt8.ofNat bits - 1, by simp [lowMask?, few, positive], ?_⟩
  rw [UInt8.toNat_sub_of_le _ _ positive, power, UInt8.toNat_one]

theorem keepBits?_eq (bits place : Nat) (byte : UInt8) :
    keepBits? bits place byte = some (UInt8.ofNat (byte.toNat % (1 <<< (bits - 8 * place)))) := by
  have byteBound := byte.toNat_lt
  rw [Nat.mul_comm 8]
  by_cases within : place * 8 < bits
  next =>
    have width := difference?_of_le (Nat.le_of_lt within)
    by_cases few : bits - place * 8 < 8
    next =>
      obtain ⟨mask, given, value⟩ := lowMask?_eq _ few
      have masked : byte &&& mask = UInt8.ofNat (byte.toNat % (1 <<< (bits - place * 8))) := by
        have small := Nat.mod_le byte.toNat (2 ^ (bits - place * 8))
        apply UInt8.toNat_inj.1
        rw [UInt8.toNat_and, value, Nat.and_two_pow_sub_one_eq_mod, UInt8.toNat_ofNat',
          Nat.one_shiftLeft]
        omega
      simp [keepBits?, Nat.not_le.mpr within, width, few, given, masked]
    next =>
      have whole : byte.toNat < 2 ^ (bits - place * 8) :=
        calc byte.toNat < 2 ^ 8 := byteBound
          _ ≤ 2 ^ (bits - place * 8) := Nat.pow_le_pow_right (by decide) (Nat.not_lt.mp few)
      simp [keepBits?, Nat.not_le.mpr within, width, few, Nat.one_shiftLeft, Nat.mod_eq_of_lt whole]
  next =>
    have none : bits - place * 8 = 0 := by omega
    simp [keepBits?, Nat.not_lt.mp within, none, Nat.mod_one]

theorem keepLow?_from (bits start : Nat) (bytes : Bytes) :
    (bytes.zipIdx start).mapM (fun entry => keepBits? bits entry.2 entry.1) =
      some (Bytes.keepLow (bits - 8 * start) bytes) := by
  induction bytes generalizing start with
  | nil => rfl
  | cons byte rest ih =>
    have next : bits - 8 * (start + 1) = bits - 8 * start - 8 := by omega
    rw [List.zipIdx_cons, List.mapM_cons, ih, next, keepBits?_eq]
    rfl

theorem Bytes.keepLow?_eq (bits : Nat) (bytes : Bytes) :
    keepLow? bits bytes = some (keepLow bits bytes) :=
  keepLow?_from bits 0 bytes

theorem bits_of_byte : ∀ byte : UInt8, byte ≠ 0 →
    byte.toBitVec.clz.toNat + Nat.size byte.toNat = 8 := by
  decide +kernel

theorem size_mul_add (bits high low : Nat) (positive : 0 < high) (small : low < 2 ^ bits) :
    Nat.size (2 ^ bits * high + low) = bits + Nat.size high := by
  apply Nat.le_antisymm
  next =>
    have above : high + 1 ≤ 2 ^ Nat.size high := Nat.lt_size_self high
    rw [Nat.size_le, Nat.pow_add]
    calc 2 ^ bits * high + low < 2 ^ bits * (high + 1) := by
          rw [Nat.mul_succ]
          omega
      _ ≤ 2 ^ bits * 2 ^ Nat.size high := Nat.mul_le_mul_left _ above
  next =>
    obtain ⟨size, last⟩ := Nat.exists_eq_add_one.mpr (Nat.size_pos.mpr positive)
    have below : 2 ^ size ≤ high := Nat.lt_size.mp (by omega)
    have scaled := Nat.mul_le_mul_left (2 ^ bits) below
    rw [last, ← Nat.add_assoc, Nat.add_one_le_iff, Nat.lt_size, Nat.pow_add]
    omega

namespace Bytes

theorem bitLength?_zero_cons (rest : Bytes) : bitLength? (0 :: rest) = bitLength? rest := by
  have leading : (0 :: rest).findIdx (fun byte => decide (byte ≠ 0)) =
      rest.findIdx (fun byte => decide (byte ≠ 0)) + 1 := by
    simp [List.findIdx_cons]
  simp only [bitLength?, leading, List.getElem?_cons_succ, List.length_cons, difference?,
    Nat.add_le_add_iff_right, Nat.add_sub_add_right]

theorem bitLength?_eq (bytes : Bytes) : bitLength? bytes = some (Nat.size (toNatBE bytes)) := by
  induction bytes with
  | nil => rfl
  | cons byte rest ih =>
    by_cases zero : byte = 0
    next => simp [zero, bitLength?_zero_cons, ih, toNatBE_cons]
    next =>
      have positive : 0 < byte.toNat := by
        rw [Nat.pos_iff_ne_zero]
        exact fun value => zero (UInt8.toNat_inj.1 value)
      have low : toNatBE rest < 2 ^ (8 * rest.length) := by
        rw [Nat.pow_mul]
        exact toNatBE_lt rest
      have size : Nat.size (toNatBE (byte :: rest)) = 8 * rest.length + Nat.size byte.toNat := by
        rw [toNatBE_cons, ← size_mul_add _ _ _ positive low, Nat.pow_mul]
      have byteBits := bits_of_byte byte zero
      have enough : byte.toBitVec.clz.toNat ≤ (rest.length + 1) * 8 := by omega
      have count : (rest.length + 1) * 8 - byte.toBitVec.clz.toNat =
          Nat.size (toNatBE (byte :: rest)) := by omega
      simp [bitLength?, List.findIdx_cons, zero, difference?, enough, count]

theorem length_keepLow (bits : Nat) (bytes : Bytes) :
    (keepLow bits bytes).length = bytes.length := by
  induction bytes generalizing bits with
  | nil => rfl
  | cons byte rest ih => simp [keepLow, ih]

def blockAbove (width bits n high : Nat) : Bytes :=
  ofNatLE width (2 ^ bits * high + n)

section Blocks

variable (width bits n : Nat) (room : bits ≤ 8 * width) (small : n < 2 ^ bits)
include room

theorem base_pow_eq : 256 ^ width = 2 ^ bits * 2 ^ (8 * width - bits) := by
  rw [← Nat.pow_add, Nat.add_sub_cancel' room, Nat.pow_mul]

include small

theorem toNatLE_blockAbove (high : Nat) (bound : high < 2 ^ (8 * width - bits)) :
    toNatLE (blockAbove width bits n high) = 2 ^ bits * high + n := by
  have size := base_pow_eq width bits room
  have fits : 2 ^ bits * high + n < 256 ^ width := by
    have scaled := Nat.mul_le_mul_left (2 ^ bits) (Nat.succ_le_of_lt bound)
    rw [Nat.mul_succ] at scaled
    omega
  rw [blockAbove, toNatLE_ofNatLE, Nat.mod_eq_of_lt fits]

theorem blockAbove_injective :
    Set.InjOn (blockAbove width bits n) (Finset.range (2 ^ (8 * width - bits))) := by
  intro high inside other inside' same
  rw [Finset.coe_range, Set.mem_Iio] at inside inside'
  have numbers := congrArg toNatLE same
  rw [toNatLE_blockAbove width bits n room small high inside,
    toNatLE_blockAbove width bits n room small other inside', Nat.add_right_cancel_iff] at numbers
  exact Nat.eq_of_mul_eq_mul_left (Nat.two_pow_pos bits) numbers

theorem blocks_eq_image :
    {block : Bytes | block.length = width ∧ toNatLE block % 2 ^ bits = n} =
      blockAbove width bits n '' (Finset.range (2 ^ (8 * width - bits))) := by
  ext block
  simp only [Set.mem_ofPred_eq, Set.mem_image, Finset.coe_range, Set.mem_Iio]
  constructor
  next =>
    rintro ⟨rfl, rfl⟩
    refine ⟨toNatLE block / 2 ^ bits, ?_, ?_⟩
    next =>
      rw [Nat.div_lt_iff_lt_mul (Nat.two_pow_pos bits), Nat.mul_comm, ← base_pow_eq _ _ room]
      exact toNatLE_lt block
    next => rw [blockAbove, Nat.div_add_mod, ofNatLE_toNatLE]
  next =>
    rintro ⟨high, bound, rfl⟩
    refine ⟨length_ofNatLE _ _, ?_⟩
    rw [toNatLE_blockAbove width bits n room small high bound, Nat.mul_add_mod,
      Nat.mod_eq_of_lt small]

theorem ncard_blocks :
    {block : Bytes | block.length = width ∧ toNatLE block % 2 ^ bits = n}.ncard =
      2 ^ (8 * width - bits) := by
  rw [blocks_eq_image width bits n room small,
    (blockAbove_injective width bits n room small).ncard_image, Set.ncard_coe_finset,
    Finset.card_range]

end Blocks

end Bytes

theorem Curve.size_order (curve : Curve) : Nat.size curve.order = curve.orderBits := by
  have nonzero : curve.order ≠ 0 := by
    cases curve
    decide
  apply Nat.le_antisymm
  next => exact Nat.size_le.mpr Nat.lt_log2_self
  next => exact Nat.lt_size.mpr (Nat.log2_self_le nonzero)

theorem Curve.orderBits_sub_one (curve : Curve) : curve.orderBits - 1 = 254 := by
  cases curve
  decide +kernel

theorem Curve.order_bounds (curve : Curve) :
    2 ^ (curve.orderBits - 1) ≤ curve.order ∧ curve.order < 2 ^ curve.orderBits := by
  have last : curve.orderBits - 1 < Nat.size curve.order := by
    rw [curve.size_order, orderBits]
    omega
  exact ⟨Nat.lt_size.mp last, Nat.size_le.mp (Nat.le_of_eq curve.size_order)⟩

theorem Curve.bitLength?_orderBytes (curve : Curve) :
    Bytes.bitLength? curve.orderBytes = some curve.orderBits := by
  have value : Bytes.toNatBE curve.orderBytes = curve.order := by
    rw [orderBytes, Bytes.toNatBE_ofNatBE]
    cases curve
    decide
  rw [Bytes.bitLength?_eq, value, curve.size_order]

theorem exponentAttempt?_eq {read? : Bytes → Option Scalar} (reads : Scalar.ReadsReduced read?)
    (curve : Curve) (block : Bytes) (width : block.length = 32) :
    exponentAttempt? read? curve block = some (exponentOfBlock curve block) := by
  have read : read? (Bytes.keepLow (curve.orderBits - 1) block) =
      some (exponentOfBlock curve block) :=
    (reads _ _).mpr ⟨by rw [Bytes.length_keepLow, width], rfl⟩
  simp [exponentAttempt?, curve.bitLength?_orderBytes, Bytes.keepLow?_eq, read]

theorem blocks_of_exponent {read? : Bytes → Option Scalar} (reads : Scalar.ReadsReduced read?)
    (curve : Curve) (n : Scalar) :
    {block : Bytes | block.length = 32 ∧ exponentAttempt? read? curve block = some n} =
      {block : Bytes | block.length = 32 ∧ Bytes.toNatLE block % 2 ^ 254 = n.val} := by
  ext block
  apply and_congr_right
  intro width
  rw [exponentAttempt?_eq reads curve block width, Option.some.injEq, Fin.ext_iff,
    val_exponentOfBlock]

/-- An exponent takes one block of 32 bytes, and no block is refused. It is the number of the block
without its two highest bits, and each such number is the exponent of four blocks. -/
theorem drawExponent_takes_one_block {read? : Bytes → Option Scalar}
    (reads : Scalar.ReadsReduced read?) (curve : Curve) :
    (Bytes.bitLength? curve.orderBytes = some curve.orderBits ∧ curve.orderBits - 1 = 254 ∧
      2 ^ (curve.orderBits - 1) ≤ curve.order ∧ curve.order < 2 ^ curve.orderBits) ∧
    (∀ bits bytes, ∃ kept, Bytes.keepLow? bits bytes = some kept ∧
      kept.length = bytes.length ∧ Bytes.toNatLE kept = Bytes.toNatLE bytes % 2 ^ bits) ∧
    (∀ stream attempts,
      ByteStream.search 32 (exponentAttempt? read? curve) (attempts + 1) stream =
        some (drawExponent curve stream) ∧
      (drawExponent curve stream).2 = stream.skip 32 ∧
      (drawExponent curve stream).1.val = Bytes.toNatLE (stream.block 32) % 2 ^ 254 ∧
      (drawExponent curve stream).1.val < 2 ^ 254) ∧
    (2 ^ 254 < groupOrder ∧ ∀ n : Scalar, n.val < 2 ^ 254 →
      {block : Bytes | block.length = 32 ∧ exponentAttempt? read? curve block = some n}.ncard = 4) := by
  refine ⟨⟨curve.bitLength?_orderBytes, curve.orderBits_sub_one, curve.order_bounds⟩, ?_, ?_,
    by decide +kernel, ?_⟩
  next =>
    intro bits bytes
    refine ⟨_, Bytes.keepLow?_eq bits bytes, Bytes.length_keepLow bits bytes, ?_⟩
    rw [Bytes.toNatLE_keepLow, Nat.one_shiftLeft]
  next =>
    intro stream attempts
    have accepted := exponentAttempt?_eq reads curve (stream.block 32) (stream.length_block 32)
    have value : (drawExponent curve stream).1.val = Bytes.toNatLE (stream.block 32) % 2 ^ 254 :=
      val_exponentOfBlock curve (stream.block 32)
    refine ⟨?_, rfl, value, ?_⟩
    next =>
      rw [ByteStream.search, accepted]
      rfl
    next =>
      rw [value]
      exact Nat.mod_lt _ (by decide)
  next =>
    intro n small
    rw [blocks_of_exponent reads]
    exact Bytes.ncard_blocks 32 254 n.val (by decide) small

theorem drawExponent_takes_one_block_largest :
    let stream : ByteStream := ⟨fun _ => 255, 0⟩
    let largest : Scalar := ⟨2 ^ 254 - 1, by decide +kernel⟩
    ByteStream.search 32 (exponentAttempt? Scalar.ofBytesLE? .bls12381) 1 stream =
        some (largest, stream.skip 32) ∧
      {block : Bytes | block.length = 32 ∧
        exponentAttempt? Scalar.ofBytesLE? .bls12381 block = some largest}.ncard = 4 := by
  intro stream largest
  obtain ⟨-, -, draws, -, blocks⟩ :=
    drawExponent_takes_one_block Scalar.readsReduced_ofBytesLE? .bls12381
  have drawn : drawExponent .bls12381 stream = (largest, stream.skip 32) := by
    have value : (drawExponent .bls12381 stream).1 = largest := by decide +kernel
    exact Prod.ext value rfl
  exact ⟨drawn ▸ (draws stream 0).1, blocks largest (by decide +kernel)⟩

end IdentityHierarchy
