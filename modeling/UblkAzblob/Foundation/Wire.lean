import Mathlib.Algebra.GroupWithZero.Nat
import Mathlib.Data.List.Induction
import Mathlib.Tactic.Common

namespace Storage

/-- The value is written most significant byte first. -/
def toBeBytes : Nat → Nat → List UInt8
  | 0, _ => []
  | width + 1, value => toBeBytes width (value / 256) ++ [UInt8.ofNat value]

def fromBeBytes (bytes : List UInt8) : Nat := bytes.foldl (fun acc byte => 256 * acc + byte.toNat) 0

@[simp] theorem length_toBeBytes (width value : Nat) : (toBeBytes width value).length = width := by
  induction width generalizing value with
  | zero => rfl
  | succ width ih => simp [toBeBytes, ih]

theorem fromBeBytes_concat (bytes : List UInt8) (byte : UInt8) :
    fromBeBytes (bytes ++ [byte]) = 256 * fromBeBytes bytes + byte.toNat := by
  simp [fromBeBytes]

/-- A value that fits its field is read back. -/
theorem fromBeBytes_toBeBytes {width value : Nat} (fits : value < 256 ^ width) :
    fromBeBytes (toBeBytes width value) = value := by
  induction width generalizing value with
  | zero =>
      simp only [Nat.pow_zero, Nat.lt_one_iff] at fits
      simp [toBeBytes, fromBeBytes, fits]
  | succ width ih =>
      have high : value / 256 < 256 ^ width := by
        rw [Nat.pow_succ] at fits
        omega
      rw [toBeBytes, fromBeBytes_concat, ih high, UInt8.toNat_ofNat']
      omega

theorem fromBeBytes_lt (bytes : List UInt8) : fromBeBytes bytes < 256 ^ bytes.length := by
  induction bytes using List.reverseRecOn with
  | nil => simp [fromBeBytes]
  | append_singleton bytes byte ih =>
      have small := byte.toNat_lt
      rw [fromBeBytes_concat, List.length_append, List.length_singleton, Nat.pow_succ]
      omega

/-- Every field is the encoding of the value that is read from it. -/
theorem toBeBytes_fromBeBytes (bytes : List UInt8) : toBeBytes bytes.length (fromBeBytes bytes) = bytes := by
  induction bytes using List.reverseRecOn with
  | nil => rfl
  | append_singleton bytes byte ih =>
      have small := byte.toNat_lt
      have high : (256 * fromBeBytes bytes + byte.toNat) / 256 = fromBeBytes bytes := by omega
      have low : UInt8.ofNat (256 * fromBeBytes bytes + byte.toNat) = byte := by
        apply UInt8.toNat_inj.mp
        rw [UInt8.toNat_ofNat']
        omega
      rw [fromBeBytes_concat, List.length_append, List.length_singleton, toBeBytes, high, low, ih]

attribute [irreducible] toBeBytes fromBeBytes

end Storage
