import IdentityHierarchy.Config.Curve
import IdentityHierarchy.Random.Stream

set_option autoImplicit false

namespace IdentityHierarchy

def Bytes.keepLow : Nat → Bytes → Bytes
  | _, [] => []
  | bits, byte :: rest => UInt8.ofNat (byte.toNat % (1 <<< bits)) :: keepLow (bits - 8) rest

theorem Bytes.toNatLE_keepLow (bits : Nat) (bytes : Bytes) :
    toNatLE (keepLow bits bytes) = toNatLE bytes % (1 <<< bits) := by
  simp only [Nat.shiftLeft_eq, Nat.one_mul]
  induction bytes generalizing bits with
  | nil => simp [keepLow, toNatLE]
  | cons byte rest ih =>
    have small : byte.toNat % 2 ^ bits < 256 :=
      Nat.lt_of_le_of_lt (Nat.mod_le _ _) byte.toNat_lt
    simp only [keepLow, toNatLE, Nat.shiftLeft_eq, Nat.one_mul, ih, UInt8.toNat_ofNat',
      Nat.mod_eq_of_lt small]
    by_cases within : bits ≤ 8
    next =>
      have split : 2 ^ bits * 2 ^ (8 - bits) = 256 := by
        rw [← Nat.pow_add, Nat.add_sub_cancel' within]
      rw [Nat.sub_eq_zero_of_le within, Nat.pow_zero, Nat.mod_one, Nat.mul_zero, Nat.add_zero,
        ← split, Nat.mul_assoc, Nat.add_mul_mod_self_left]
    next =>
      have beyond : 8 ≤ bits := by omega
      have split : 2 ^ bits = 256 * 2 ^ (bits - 8) := by
        rw [show 256 = 2 ^ 8 from rfl, ← Nat.pow_add, Nat.add_sub_cancel' beyond]
      have low : byte.toNat % 2 ^ bits = byte.toNat := by
        apply Nat.mod_eq_of_lt
        have := byte.toNat_lt
        have : 0 < 2 ^ (bits - 8) := Nat.two_pow_pos _
        omega
      rw [low, split, Nat.mod_mul, Nat.add_mul_mod_self_left, Nat.mod_eq_of_lt byte.toNat_lt,
        Nat.add_mul_div_left _ _ (by decide), Nat.div_eq_of_lt byte.toNat_lt, Nat.zero_add]

theorem Curve.shiftLeft_orderBits_le (curve : Curve) :
    1 <<< (curve.orderBits - 1) ≤ groupOrder := by
  cases curve
  rw [Nat.shiftLeft_eq, Nat.one_mul]
  exact Nat.log2_self_le (by decide : groupOrder ≠ 0)

def exponentOfBlock (curve : Curve) (block : Bytes) : Scalar :=
  -- With one bit less than the order, the number is always reduced.
  ⟨Bytes.toNatLE (Bytes.keepLow (curve.orderBits - 1) block), by
    have positive : 0 < 1 <<< (curve.orderBits - 1) := by
      rw [Nat.shiftLeft_eq, Nat.one_mul]
      exact Nat.two_pow_pos _
    rw [Bytes.toNatLE_keepLow]
    exact Nat.lt_of_lt_of_le (Nat.mod_lt _ positive) curve.shiftLeft_orderBits_le⟩

def drawExponent (curve : Curve) (stream : ByteStream) : Scalar × ByteStream :=
  (exponentOfBlock curve (stream.block 32), stream.skip 32)

end IdentityHierarchy
