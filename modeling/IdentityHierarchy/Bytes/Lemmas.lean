import IdentityHierarchy.Bytes.Basic
import Mathlib

set_option autoImplicit false

namespace IdentityHierarchy.Bytes

theorem toNatLE_ofNatLE (width n : Nat) : toNatLE (ofNatLE width n) = n % 256 ^ width := by
  induction width generalizing n with
  | zero => simp [ofNatLE, toNatLE, Nat.mod_one]
  | succ width ih =>
    have step : n % 256 ^ (width + 1) = n % 256 + 256 * (n / 256 % 256 ^ width) := by
      rw [Nat.pow_succ', Nat.mod_mul]
    simp only [ofNatLE, toNatLE, ih, UInt8.toNat_ofNat', step]

theorem toNatBE_ofNatBE (width n : Nat) : toNatBE (ofNatBE width n) = n % 256 ^ width := by
  simp [toNatBE, ofNatBE, toNatLE_ofNatLE]

theorem toNatLE_concat (bytes : Bytes) (byte : UInt8) :
    toNatLE (bytes ++ [byte]) = toNatLE bytes + 256 ^ bytes.length * byte.toNat := by
  induction bytes with
  | nil => simp [toNatLE]
  | cons first rest ih =>
    rw [List.cons_append, toNatLE, toNatLE, ih, List.length_cons, pow_succ]
    ring

theorem toNatBE_cons (byte : UInt8) (rest : Bytes) :
    toNatBE (byte :: rest) = 256 ^ rest.length * byte.toNat + toNatBE rest := by
  rw [toNatBE, List.reverse_cons, toNatLE_concat, List.length_reverse, Nat.add_comm, toNatBE]

theorem toNatLE_lt (bytes : Bytes) : toNatLE bytes < 256 ^ bytes.length := by
  induction bytes with
  | nil => simp [toNatLE]
  | cons byte rest ih =>
    have h := byte.toNat_lt
    simp only [toNatLE, List.length_cons, Nat.pow_succ]
    omega

theorem toNatBE_lt (bytes : Bytes) : toNatBE bytes < 256 ^ bytes.length := by
  simpa [toNatBE] using toNatLE_lt bytes.reverse

theorem ofNatLE_toNatLE (bytes : Bytes) : ofNatLE bytes.length (toNatLE bytes) = bytes := by
  induction bytes with
  | nil => rfl
  | cons byte rest ih =>
    have low : (byte.toNat + 256 * toNatLE rest) / 256 = toNatLE rest := by
      have h := byte.toNat_lt
      omega
    have head : UInt8.ofNat (byte.toNat + 256 * toNatLE rest) = byte := by
      apply UInt8.toNat_inj.1
      have h := byte.toNat_lt
      simp only [UInt8.toNat_ofNat']
      omega
    simp [toNatLE, ofNatLE, low, head, ih]

theorem ofNatBE_toNatBE (bytes : Bytes) : ofNatBE bytes.length (toNatBE bytes) = bytes := by
  have h := ofNatLE_toNatLE bytes.reverse
  rw [List.length_reverse] at h
  simp [ofNatBE, toNatBE, h]

theorem eq_of_toNatBE_eq (a b : Bytes) (length : a.length = b.length)
    (same : toNatBE a = toNatBE b) : a = b := by
  rw [← ofNatBE_toNatBE a, length, same, ofNatBE_toNatBE]

theorem length_flatMap {A : Type} {encode : A → Bytes} {width : Nat}
    (fixed : ∀ value, (encode value).length = width) (values : List A) :
    (values.flatMap encode).length = values.length * width := by
  induction values with
  | nil => simp
  | cons value rest ih => simp [fixed, ih, Nat.succ_mul, Nat.add_comm]

end IdentityHierarchy.Bytes
